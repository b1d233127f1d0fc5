/-
  Properties/IneligibleRecords.lean --- a record that is no candidate does not influence the
  round.

  The readiness pass treats every record on its own, and the later passes read the records of
  the candidates and of the executing grants only.  Two states that agree on all records but
  one, which is neither, therefore go through a round alike: they keep agreeing off that
  record after every pass.  The two maps may be walked in different orders, which the
  ranking forgets unless a score is NaN (`ineligible_record_reorders_nan_scores`).
-/
import CollectiveScheduler.Foundation.Binary64
import CollectiveScheduler.Scheduler.Alike
import CollectiveScheduler.Scheduler.RankOrder
import CollectiveScheduler.System.Scenario
import CollectiveScheduler.System.World

set_option autoImplicit false

namespace CollectiveScheduler

open Foundation

variable {D : Type}

namespace Scheduler

/-- The states agree off one record, of which no grant executes. -/
structure AgreeOff (id : CollectiveRequestId) (s s' : Scheduler D) : Prop where
  evidence : s.SameEvidence s'
  records : ∀ id', id' ≠ id → s'.records.find? id' = s.records.find? id'
  holders : ∀ gid gs, s.grants.find? gid = some gs → gs.isLive = true → gs.grant.request ≠ id

namespace AgreeOff

variable {id : CollectiveRequestId} {s s' : Scheduler D}

theorem alike (h : AgreeOff id s s') : s.Alike (· ≠ id) s' := by
  refine ⟨h.evidence, fun id' hid' => ?_, h.holders⟩
  rw [h.records id' hid']
  cases s.records.find? id' with
  | none => exact .none
  | some rec => exact .some (.refl rec)

/-! ## The passes -/

theorem createGrant (h : AgreeOff id s s') (id' : CollectiveRequestId) (rec : Record D)
    (dec : ScheduleDecision D) :
    AgreeOff id (s.createGrant id' rec dec).1 (s'.createGrant id' rec dec).1 := by
  have hgrant : s'.grantFor rec.request dec = s.grantFor rec.request dec := by
    rw [h.evidence]
    rfl
  constructor
  case evidence =>
    unfold SameEvidence Scheduler.createGrant
    rw [hgrant, h.evidence]
  case records =>
    intro id'' hne
    unfold Scheduler.createGrant
    simp only [FinMap.find?_insert, hgrant, h.records id'' hne]
  case holders =>
    intro gid gs hentry hlive
    rcases FinMap.find?_emplace_cases hentry with hold | ⟨-, -, rfl⟩
    · exact h.holders gid gs hold hlive
    · cases hlive

theorem createGrants (h : AgreeOff id s s') (dec : ScheduleDecision D)
    {ids : List CollectiveRequestId} (hids : ∀ id' ∈ ids, id' ≠ id) :
    AgreeOff id (createGrants dec s ids).1 (createGrants dec s' ids).1 := by
  induction ids generalizing s s' with
  | nil => exact h
  | cons id' rest ih =>
      obtain ⟨hne, hrest⟩ := List.forall_mem_cons.mp hids
      unfold Scheduler.createGrants
      rw [h.records id' hne]
      cases s.records.find? id' with
      | none => exact ih h hrest
      | some rec =>
          simp only
          cases promoteToGranted rec with
          | error e => exact ih h hrest
          | ok rec' => exact ih (h.createGrant id' rec' dec) hrest

theorem overlapGroup (h : AgreeOff id s s') (selected : List CollectiveRequestId) :
    AgreeOff id (s.overlapGroup selected).1 (s'.overlapGroup selected).1 := by
  unfold Scheduler.overlapGroup
  split_ifs
  · exact h
  · refine ⟨?_, h.records, h.holders⟩
    unfold SameEvidence
    simp only
    rw [h.evidence]

variable [Double D]

theorem accountFairness (h : AgreeOff id s s') {candidates candidates' : List CollectiveRequestId}
    (hnodup : candidates.Nodup) (hperm : candidates'.Perm candidates)
    (selected : List CollectiveRequestId) :
    AgreeOff id (s.accountFairness candidates selected)
      (s'.accountFairness candidates' selected) := by
  have hpolicy : s'.policy = s.policy := by rw [h.evidence]
  refine ⟨?_, fun id' hne => ?_, h.holders⟩
  · unfold SameEvidence Scheduler.accountFairness
    rw [h.evidence]
  · unfold Scheduler.accountFairness
    simp only [FinMap.find?_modifyAll _ _ hnodup,
      FinMap.find?_modifyAll _ _ (hperm.nodup_iff.mpr hnodup), hperm.mem_iff, h.records id' hne,
      hpolicy]

theorem refreshed (h : AgreeOff id s s') : AgreeOff id s.refreshed s'.refreshed := by
  refine ⟨h.evidence.refreshed, fun id' hne => ?_, h.holders⟩
  rw [find?_refreshed, find?_refreshed, h.records id' hne]
  simp only [h.evidence.refreshRecord_eq]

/-! ## Priority inversions -/

omit [Double D] in
/-- No grant that executes is held by the record on which the states differ. -/
theorem inversionEvent (h : AgreeOff id s s') (requester : Record D) (gid : CollectiveGrantId) :
    s'.inversionEvent requester gid = s.inversionEvent requester gid := by
  have hgrants : s'.grants = s.grants := by rw [h.evidence]
  have hnow : s'.now = s.now := by rw [h.evidence]
  have hsnapshot : s'.makeSnapshot = s.makeSnapshot := by
    rw [h.evidence]
    rfl
  unfold Scheduler.inversionEvent
  rw [hgrants, hnow, hsnapshot]
  cases hentry : s.grants.find? gid with
  | none => rfl
  | some gs =>
      simp only
      by_cases hidle : (!gs.active || gs.terminal) = true
      · rw [if_pos hidle, if_pos hidle]
      · rw [h.records _ (h.holders gid gs hentry (GrantState.isLive_of_not_idle hidle))]

omit [Double D] in
theorem collectPriorityInversions (h : AgreeOff id s s') {fallback : List CollectiveRequestId}
    (hfallback : ∀ id' ∈ fallback, id' ≠ id) (grantOrder grantOrder' : List CollectiveGrantId) :
    (s'.collectPriorityInversions fallback grantOrder').Perm
      (s.collectPriorityInversions fallback grantOrder) := by
  have hgrants : s'.grants = s.grants := by rw [h.evidence]
  have hwalk : (s'.grants.iteration grantOrder').Perm (s.grants.iteration grantOrder) := by
    rw [hgrants]
    exact (FinMap.iteration_perm _ _).trans (FinMap.iteration_perm _ _).symm
  unfold Scheduler.collectPriorityInversions
  refine List.Perm.flatMap_left _ fun id' hid' => ?_
  rw [h.records id' (hfallback id' hid')]
  cases s.records.find? id' with
  | none => exact List.Perm.refl _
  | some rec =>
      simp only
      split_ifs
      · exact List.Perm.refl _
      · rw [funext (h.inversionEvent rec)]
        exact hwalk.filterMap _

end AgreeOff

/-! ## One more record -/

/-- The state has one more record, of which no grant executes. -/
structure AddsRecord (s : Scheduler D) (id : CollectiveRequestId) (rec : Record D)
    (s' : Scheduler D) : Prop where
  fresh : s.records.find? id = none
  records : s'.records = s.records.insert id rec
  evidence : s.SameEvidence s'
  holders : ∀ gid gs, s.grants.find? gid = some gs → gs.isLive = true → gs.grant.request ≠ id

namespace AddsRecord

variable {id : CollectiveRequestId} {rec : Record D} {s s' : Scheduler D}

instance [DecidableEq D] : Decidable (s.AddsRecord id rec s') :=
  have : Decidable (s.SameEvidence s') := by
    unfold SameEvidence
    infer_instance
  decidable_of_iff (s.records.find? id = none ∧ s'.records = s.records.insert id rec ∧
      s.SameEvidence s' ∧ ∀ gid gs, s.grants.find? gid = some gs → gs.isLive = true →
        gs.grant.request ≠ id)
    ⟨fun ⟨h₁, h₂, h₃, h₄⟩ => ⟨h₁, h₂, h₃, h₄⟩,
      fun h => ⟨h.fresh, h.records, h.evidence, h.holders⟩⟩

theorem agreeOff (h : s.AddsRecord id rec s') : AgreeOff id s s' := by
  refine ⟨h.evidence, fun id' hne => ?_, h.holders⟩
  rw [h.records, FinMap.find?_insert_of_ne _ _ hne]

/-- Both maps are walked through alike, but for the new record. -/
theorem iteration_perm (h : s.AddsRecord id rec s')
    (recordOrder recordOrder' : List CollectiveRequestId) :
    (s'.records.iteration recordOrder').Perm (id :: s.records.iteration recordOrder) := by
  have hnew : id ∉ s.records.iteration recordOrder := fun hmem => by
    obtain ⟨rec', hfind⟩ := FinMap.mem_iteration_iff.mp hmem
    rw [h.fresh] at hfind
    cases hfind
  refine (List.perm_ext_iff_of_nodup (FinMap.nodup_iteration _ _)
    (List.nodup_cons.mpr ⟨hnew, FinMap.nodup_iteration _ _⟩)).mpr fun id' => ?_
  rw [FinMap.mem_iteration_iff, List.mem_cons, FinMap.mem_iteration_iff, h.records]
  by_cases hid : id' = id
  · rw [hid, FinMap.find?_insert_self]
    exact iff_of_true ⟨rec, rfl⟩ (.inl rfl)
  · rw [FinMap.find?_insert_of_ne _ _ hid, or_iff_right hid]

variable [Double D]

/-- The new record is no candidate. -/
theorem candidateOf_eq (h : s.AddsRecord id rec s') (hineligible : s.eligible rec = false)
    (id' : CollectiveRequestId) : s'.candidateOf id' = s.candidateOf id' := by
  unfold candidateOf
  by_cases hid : id' = id
  · rw [hid, h.records, FinMap.find?_insert_self, h.fresh, Option.bind_some,
      h.evidence.eligible_eq, hineligible]
    rfl
  · rw [h.agreeOff.records id' hid]
    simp only [h.evidence.eligible_eq]

theorem candidateOf_new (h : s.AddsRecord id rec s') : s.candidateOf id = none := by
  unfold candidateOf
  rw [h.fresh]
  rfl

theorem candidates_perm (h : s.AddsRecord id rec s') (hineligible : s.eligible rec = false)
    (recordOrder recordOrder' : List CollectiveRequestId) :
    (s'.candidates recordOrder').Perm (s.candidates recordOrder) := by
  unfold candidates
  rw [funext (h.candidateOf_eq hineligible)]
  have hperm := (h.iteration_perm recordOrder recordOrder').filterMap s.candidateOf
  rw [List.filterMap_cons_none h.candidateOf_new] at hperm
  exact hperm

/-- Where the old records are visited in the same order, the candidates are collected in
it. -/
theorem candidates_eq (h : s.AddsRecord id rec s') (hineligible : s.eligible rec = false)
    {recordOrder recordOrder' : List CollectiveRequestId}
    (horder : (s'.records.iteration recordOrder').filter (· ≠ id) =
      s.records.iteration recordOrder) :
    s'.candidates recordOrder' = s.candidates recordOrder := by
  unfold candidates
  rw [funext (h.candidateOf_eq hineligible), ← horder, List.filterMap_filter]
  refine List.filterMap_congr fun id' _ => ?_
  by_cases hid : id' = id
  · rw [hid, h.candidateOf_new]
    simp
  · simp [hid]

/-- The round ranks the same requests in the same order. -/
theorem ranking_eq (h : s.AddsRecord id rec s') (hkeyed : s.Keyed)
    (hineligible : s.eligible rec = false) {recordOrder recordOrder' : List CollectiveRequestId}
    (horder : (s'.records.iteration recordOrder').filter (· ≠ id) =
        s.records.iteration recordOrder ∨
      StrictOrderOn Ranked.before (s.refreshed.rank (s.candidates recordOrder))) :
    s'.ranking recordOrder' = s.ranking recordOrder := by
  have hentries : (s'.candidates recordOrder').filterMap (fun id' =>
        (s'.refreshed.records.find? id').map (s'.refreshed.rankedOf id')) =
      (s'.candidates recordOrder').filterMap (fun id' =>
        (s.refreshed.records.find? id').map (s.refreshed.rankedOf id')) := by
    refine List.filterMap_congr fun id' hid' => ?_
    have hne : id' ≠ id := fun heq => by
      obtain ⟨rec', hfind, -⟩ := (mem_candidates_iff hkeyed).mp
        ((h.candidates_perm hineligible recordOrder recordOrder').mem_iff.mp hid')
      rw [heq, h.fresh] at hfind
      cases hfind
    rw [h.agreeOff.refreshed.records id' hne,
      funext (h.evidence.refreshed.rankedOf_eq id')]
  unfold ranking rank
  rw [hentries]
  rcases horder with hsame | hstrict
  · rw [h.candidates_eq hineligible hsame]
  · have hperm := (h.candidates_perm hineligible recordOrder recordOrder').filterMap (fun id' =>
      (s.refreshed.records.find? id').map (s.refreshed.rankedOf id'))
    have hstrict' := hstrict.perm ((List.perm_insertionSort _ _).trans hperm.symm)
    rw [hstrict'.insertionSort_eq_of_perm hperm]

/-- The candidates of the round are other requests. -/
theorem ne_of_mem_ranking (h : s.AddsRecord id rec s') (hkeyed : s.Keyed)
    (recordOrder : List CollectiveRequestId) :
    ∀ id' ∈ s.ranking recordOrder, id' ≠ id := by
  rintro id' hid' rfl
  obtain ⟨rec', hfind, -⟩ := (mem_ranking_iff hkeyed).mp hid'
  rw [h.fresh] at hfind
  cases hfind

theorem selection_eq (h : s.AddsRecord id rec s') (hkeyed : s.Keyed)
    {recordOrder recordOrder' : List CollectiveRequestId}
    (hranking : s'.ranking recordOrder' = s.ranking recordOrder) :
    s'.selection recordOrder' = s.selection recordOrder := by
  rw [selection_eq_greedy, selection_eq_greedy, hranking]
  exact h.agreeOff.alike.refreshed.greedy (h.ne_of_mem_ranking hkeyed recordOrder)

/-- The new record is all that can keep the round from a decision. -/
theorem schedule_isOk (h : s.AddsRecord id rec s')
    {recordOrder recordOrder' : List CollectiveRequestId}
    {grantOrder grantOrder' : List CollectiveGrantId} {t : Scheduler D} {dec : ScheduleDecision D}
    (hdecided : s.schedule recordOrder grantOrder = (t, .ok dec))
    (hrest : rec.lifecycle ≠ .eligible) :
    ∃ t' dec', s'.schedule recordOrder' grantOrder' = (t', .ok dec') := by
  have hok := (s.schedule_isOk_iff recordOrder grantOrder).mp ⟨t, dec, hdecided⟩
  refine (s'.schedule_isOk_iff recordOrder' grantOrder').mpr fun id' rec' hfind' => ?_
  by_cases hid : id' = id
  · rw [hid, h.records, FinMap.find?_insert_self] at hfind'
    cases hfind'
    exact s'.refreshRecord_isOk hrest
  · exact h.agreeOff.alike.refreshRecord_isOk hid (hok id') rec' hfind'

end AddsRecord

end Scheduler

/-- In every reachable state, one more record that is no candidate and of which no grant
executes changes neither what a round selects nor what it keeps as fallback, and the
inversions it reports at most in their order, if no candidate has a NaN for its score or the
old records are visited as before. -/
theorem ineligible_record_has_no_influence [Double D] [Double.Ordered D] (s : Scheduler D)
    (hreached : s.Reached) (s' : Scheduler D) (id : CollectiveRequestId) (rec : Record D)
    (hadds : s.AddsRecord id rec s') (hineligible : s.eligible rec = false)
    (recordOrder recordOrder' : List CollectiveRequestId)
    (grantOrder grantOrder' : List CollectiveGrantId)
    (horder : (s'.records.iteration recordOrder').filter (· ≠ id) =
        s.records.iteration recordOrder ∨
      ∀ a ∈ s.refreshed.rank (s.candidates recordOrder), Double.isNaN a.score = false)
    (t : Scheduler D) (dec : ScheduleDecision D)
    (hdecided : s.schedule recordOrder grantOrder = (t, .ok dec)) :
    (rec.lifecycle ≠ .eligible →
      ∃ t' dec', s'.schedule recordOrder' grantOrder' = (t', .ok dec')) ∧
    ∀ t' dec', s'.schedule recordOrder' grantOrder' = (t', .ok dec') →
      dec'.selected = dec.selected ∧ dec'.fallback = dec.fallback ∧
        dec'.priorityInversions.Perm dec.priorityInversions := by
  have hkeyed := hreached.keyed
  refine ⟨hadds.schedule_isOk hdecided, fun t' dec' hdecided' => ?_⟩
  have hids : ((s.refreshed.rank (s.candidates recordOrder)).map Scheduler.Ranked.id).Nodup :=
    Scheduler.nodup_ranking hkeyed recordOrder
  have hranking := hadds.ranking_eq hkeyed hineligible
    (horder.imp_right (Scheduler.Ranked.strictOrderOn_of_numbers hids))
  have hselection := hadds.selection_eq hkeyed hranking
  have hselected : dec'.selected = dec.selected := by
    rw [Scheduler.schedule_selected hdecided, Scheduler.schedule_selected hdecided', hselection]
  have hfallback : dec'.fallback = dec.fallback := by
    rw [Scheduler.schedule_fallback hdecided, Scheduler.schedule_fallback hdecided', hselected,
      hranking]
  have hother := hadds.ne_of_mem_ranking hkeyed recordOrder
  have hagree : Scheduler.AgreeOff id t t' := by
    have hdecision : s'.openDecision = s.openDecision := by
      unfold Scheduler.openDecision
      rw [hadds.evidence]
      rfl
    rw [Scheduler.schedule_state hdecided, Scheduler.schedule_state hdecided', hselection,
      hdecision]
    have hgranted := hadds.agreeOff.refreshed.createGrants s.openDecision fun id' hid' =>
      hother id' ((s.selection_sublist recordOrder).subset hid')
    exact (hgranted.overlapGroup _).accountFairness
      (Scheduler.nodup_candidates hkeyed recordOrder)
      (hadds.candidates_perm hineligible recordOrder recordOrder') _
  refine ⟨hselected, hfallback, ?_⟩
  rw [Scheduler.schedule_inversions hdecided, Scheduler.schedule_inversions hdecided', hfallback]
  refine hagree.collectPriorityInversions (fun id' hid' => ?_) grantOrder grantOrder'
  rw [Scheduler.schedule_fallback hdecided] at hid'
  exact hother id' (List.mem_of_mem_filter hid')

namespace Scenario

/-- The state of the conflict. -/
def conflictState : Scheduler ℚ := World.afterCalls conflictingRequests

/-- A request for a participant and a plan nobody has published is submitted as well. -/
def crowdedState : Scheduler ℚ :=
  World.afterCalls (conflictingRequests ++ [.submit (request 3 [9] 9)])

/-- Two requests for one participant are submitted while the utilization is NaN. -/
def unrankedRequests : List (Op Binary64) :=
  [.publishParticipant (participant 1 1 1 11), .publishPlan (plan 1 1 [1]),
    .publishCongestion
      { gen := ⟨1⟩, utilization := .nan, residualBandwidth := Double.ofRat 0,
        hardCeilingUtilization := Double.ofRat 0 },
    .submit (request 1 [1] 1), .submit (request 2 [1] 1)]

/-- Their state, and the one with a further request for a participant nobody has
published. -/
def unrankedState : Scheduler Binary64 := World.afterCalls unrankedRequests

def crowdedUnrankedState : Scheduler Binary64 :=
  World.afterCalls (unrankedRequests ++ [.submit (request 3 [9] 9)])

end Scenario

theorem ineligible_record_has_no_influence_crowded :
    ∃ t' dec', Scenario.crowdedState.schedule [] [] = (t', .ok dec') ∧ dec'.selected = [1] := by
  obtain ⟨rec, -, hadds, hineligible, hrest⟩ : ∃ rec ∈ Scenario.crowdedState.records.find? 3,
      Scenario.conflictState.AddsRecord 3 rec Scenario.crowdedState ∧
      Scenario.conflictState.eligible rec = false ∧ rec.lifecycle ≠ .eligible := by
    decide +kernel
  obtain ⟨t, dec, hround, hids⟩ := Scenario.exists_of_selects Scenario.conflictState [1]
    (by decide +kernel)
  obtain ⟨hdecides, hsame⟩ := ineligible_record_has_no_influence Scenario.conflictState
    (World.reached_afterCalls _) Scenario.crowdedState 3 rec hadds hineligible [] [] [] []
    (.inr fun _ _ => rfl) t dec hround
  obtain ⟨t', dec', hround'⟩ := hdecides hrest
  refine ⟨t', dec', hround', ?_⟩
  rw [(hsame t' dec' hround').1, hids]

/-- With NaN for all scores the sort keeps the order in which the map is walked, and the map
with the further record may be walked differently: the other request is selected. -/
theorem ineligible_record_reorders_nan_scores :
    Scenario.unrankedState.Reached ∧
    (∃ rec ∈ Scenario.crowdedUnrankedState.records.find? 3,
      Scenario.unrankedState.AddsRecord 3 rec Scenario.crowdedUnrankedState ∧
      Scenario.unrankedState.eligible rec = false) ∧
    (Scenario.unrankedState.schedule [1, 2] []).2.toOption.map (·.selected) = some [1] ∧
    (Scenario.crowdedUnrankedState.schedule [2, 1, 3] []).2.toOption.map (·.selected) =
      some [2] :=
  ⟨World.reached_afterCalls _, by decide +kernel, by decide +kernel, by decide +kernel⟩

end CollectiveScheduler
