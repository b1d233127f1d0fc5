/-
  Scheduler/Round.lean --- the scheduling round in closed form.

  The selection only picks candidates, which overlap pairwise and conflict with
  no active grant.  Grant creation is a sequence of single creations, and the
  passes after it only rewrite bookkeeping.
-/
import CollectiveScheduler.Scheduler.ReadinessPass

set_option autoImplicit false

namespace CollectiveScheduler

open Foundation

namespace Scheduler

open LifecycleState

variable {D : Type} [Double D]

/-! ## Selection -/

/-- The later selected request may overlap the earlier one. -/
def Overlaps (s : Scheduler D) (earlier later : CollectiveRequestId) : Prop :=
  ∀ rec rec', s.records.find? earlier = some rec → s.records.find? later = some rec' →
    s.canOverlap rec' rec = true

/-- The request conflicts with no active grant. -/
def ClearOfActive (s : Scheduler D) (id : CollectiveRequestId) : Prop :=
  ∃ rec, s.records.find? id = some rec ∧ s.activeConflicts rec = 0

/-- What the selection loop adds to what it was given. -/
structure Selects (s : Scheduler D) (ids acc selected : List CollectiveRequestId) : Prop where
  picked : ∃ picked, selected = acc ++ picked ∧ picked.Sublist ids
  overlaps : acc.Pairwise s.Overlaps → selected.Pairwise s.Overlaps
  clear : (∀ id ∈ acc, s.ClearOfActive id) → ∀ id ∈ selected, s.ClearOfActive id

theorem Selects.done (s : Scheduler D) (ids acc : List CollectiveRequestId) :
    s.Selects ids acc acc :=
  ⟨⟨[], (List.append_nil acc).symm, List.nil_sublist ids⟩, id, id⟩

theorem Selects.skip {s : Scheduler D} {ids acc selected : List CollectiveRequestId}
    (id : CollectiveRequestId) (h : s.Selects ids acc selected) :
    s.Selects (id :: ids) acc selected := by
  obtain ⟨picked, heq, hsub⟩ := h.picked
  exact ⟨⟨picked, heq, hsub.cons id⟩, h.overlaps, h.clear⟩

theorem Selects.pick {s : Scheduler D} {ids acc selected : List CollectiveRequestId}
    {id : CollectiveRequestId} {rec : Record D} (hfind : s.records.find? id = some rec)
    (hclear : s.activeConflicts rec = 0) (hcompat : s.compatibleWithAll rec acc = true)
    (h : s.Selects ids (acc ++ [id]) selected) : s.Selects (id :: ids) acc selected where
  picked := by
    obtain ⟨picked, heq, hsub⟩ := h.picked
    exact ⟨id :: picked, by rw [heq, List.append_assoc, List.singleton_append], hsub.cons_cons id⟩
  overlaps hacc := by
    refine h.overlaps (List.pairwise_append.mpr ⟨hacc, List.pairwise_singleton _ _, ?_⟩)
    intro earlier hearlier later hlater rec₁ rec₂ hfind₁ hfind₂
    rw [List.mem_singleton.mp hlater, hfind] at hfind₂
    cases hfind₂
    have hone := List.all_eq_true.mp hcompat earlier hearlier
    simp only [hfind₁] at hone
    exact hone
  clear hacc := by
    refine h.clear fun id' hid' => ?_
    rcases List.mem_append.mp hid' with hid' | hid'
    · exact hacc id' hid'
    · rw [List.mem_singleton.mp hid']
      exact ⟨rec, hfind, hclear⟩

theorem selectLoop_selects (s : Scheduler D) (ids acc : List CollectiveRequestId) :
    s.Selects ids acc (s.selectLoop ids acc) := by
  induction ids generalizing acc with
  | nil => exact Selects.done s [] acc
  | cons id rest ih =>
      unfold selectLoop
      split
      · exact (ih acc).skip id
      · rename_i rec hfind
        simp only
        split_ifs with hbound hexcl hconflict hcompat hgroup hexclusive
        · exact Selects.done s _ acc
        · exact (ih acc).skip id
        · exact (ih acc).skip id
        · exact (ih acc).skip id
        · exact Selects.done s _ acc
        · exact Selects.pick hfind (Nat.eq_zero_of_not_pos hconflict) (by simpa using hcompat)
            (Selects.done s rest _)
        · exact Selects.pick hfind (Nat.eq_zero_of_not_pos hconflict) (by simpa using hcompat)
            (ih _)

/-! ## Grant creation -/

/-- The record of a READY request once its grant is created. -/
def promoted (rec : Record D) : Record D :=
  { rec with lifecycle := .granted, inReadyQueue := true }

omit [Double D] in
theorem promoteToGranted_ready {rec : Record D} (h : rec.lifecycle = .ready) :
    promoteToGranted rec = .ok (promoted rec) := by
  unfold promoteToGranted
  rw [h]
  rfl

omit [Double D] in
theorem promoteToGranted_ok {rec rec' : Record D} (h : promoteToGranted rec = .ok rec') :
    rec' = promoted rec := by
  unfold promoteToGranted at h
  cases hlife : rec.lifecycle <;> rw [hlife] at h <;> cases h <;> rfl

/-- A candidate can be promoted. -/
theorem promoteToGranted_candidate {s : Scheduler D} {rec : Record D}
    (h : (s.refreshRecord rec).2 = .ok true) :
    promoteToGranted (s.refreshRecord rec).1 = .ok (promoted (s.refreshRecord rec).1) := by
  unfold refreshRecord at h ⊢
  split_ifs at h ⊢
  · cases h
  · simp only at h ⊢
    split at h
    · cases h
    · split_ifs at h ⊢ with hdone hstate
      · cases h
      · split at h
        · rcases hstate with rfl | rfl | rfl <;> rfl
        · cases h
      · cases h

omit [Double D] in
theorem find?_createGrant_of_ne (s : Scheduler D) {id id' : CollectiveRequestId}
    (rec : Record D) (dec : ScheduleDecision D) (h : id' ≠ id) :
    (s.createGrant id rec dec).1.records.find? id' = s.records.find? id' :=
  FinMap.find?_insert_of_ne _ _ h

omit [Double D] in
/-- One creation leaves the other requests of the loop READY. -/
theorem createGrant_ready {s : Scheduler D} {id : CollectiveRequestId}
    {rest : List CollectiveRequestId} (rec : Record D) (dec : ScheduleDecision D)
    (hnot : id ∉ rest)
    (hready : ∀ id' ∈ id :: rest, ∃ rec', s.records.find? id' = some rec' ∧
      rec'.lifecycle = .ready) :
    ∀ id' ∈ rest, ∃ rec', (s.createGrant id rec dec).1.records.find? id' = some rec' ∧
      rec'.lifecycle = .ready := by
  intro id' hid'
  have hne : id' ≠ id := fun heq => hnot (heq ▸ hid')
  rw [find?_createGrant_of_ne s _ _ hne]
  exact hready id' (List.mem_cons_of_mem _ hid')

omit [Double D] in
/-- What every creation keeps, whatever record it promotes, the grant-creation loop keeps. -/
theorem createGrants_keeps {P : Scheduler D → Prop} (dec : ScheduleDecision D)
    (all : List CollectiveRequestId) {s : Scheduler D}
    (hstep : ∀ t id rec rec', id ∈ all → t.records.find? id = some rec →
      promoteToGranted rec = .ok rec' → P t → P (t.createGrant id rec' dec).1) (h : P s) :
    P (createGrants dec s all).1 := by
  induction all generalizing s with
  | nil => exact h
  | cons id rest ih =>
      have hrest := fun t id' rec rec' (hmem : id' ∈ rest) =>
        hstep t id' rec rec' (List.mem_cons_of_mem id hmem)
      unfold createGrants
      split
      · exact ih hrest h
      · rename_i rec hfind
        split
        · exact ih hrest h
        · rename_i rec' hpromote
          exact ih hrest (hstep s id rec rec' List.mem_cons_self hfind hpromote h)

omit [Double D] in
/-- The loop creates one grant for each READY request it is given. -/
theorem length_createGrants (dec : ScheduleDecision D) {ids : List CollectiveRequestId}
    {s : Scheduler D} (hnodup : ids.Nodup)
    (hready : ∀ id ∈ ids, ∃ rec, s.records.find? id = some rec ∧ rec.lifecycle = .ready) :
    (createGrants dec s ids).2.length = ids.length := by
  induction ids generalizing s with
  | nil => rfl
  | cons id rest ih =>
      obtain ⟨hnot, hrest⟩ := List.nodup_cons.mp hnodup
      obtain ⟨rec, hfind, hlife⟩ := hready id List.mem_cons_self
      unfold createGrants
      simp only [hfind, promoteToGranted_ready hlife, List.length_cons]
      rw [ih hrest (createGrant_ready _ dec hnot hready)]

omit [Double D] in
/-- What every single creation preserves, the grant-creation loop preserves; `P`
may also speak of the grants created so far. -/
theorem createGrants_induct {P : Scheduler D → List CollectiveGrant → Prop}
    (dec : ScheduleDecision D) (all : List CollectiveRequestId) (s : Scheduler D)
    (issued : List CollectiveGrant)
    (hstep : ∀ t grants id rec, id ∈ all → grants.length < issued.length + all.length →
      t.records.find? id = some rec → rec.lifecycle = .ready → P t grants →
      P (t.createGrant id (promoted rec) dec).1 (grants ++ [t.grantFor rec.request dec]))
    (hnodup : all.Nodup)
    (hready : ∀ id ∈ all, ∃ rec, s.records.find? id = some rec ∧ rec.lifecycle = .ready)
    (hstart : P s issued) :
    P (createGrants dec s all).1 (issued ++ (createGrants dec s all).2) := by
  -- the induction runs over the requests still to be granted
  suffices hloop : ∀ (ids : List CollectiveRequestId), (∀ id ∈ ids, id ∈ all) →
      ∀ (t : Scheduler D) (grants : List CollectiveGrant), ids.Nodup →
      grants.length + ids.length = issued.length + all.length →
      (∀ id ∈ ids, ∃ rec, t.records.find? id = some rec ∧ rec.lifecycle = .ready) →
      P t grants → P (createGrants dec t ids).1 (grants ++ (createGrants dec t ids).2) from
    hloop all (fun _ h => h) s issued hnodup rfl hready hstart
  intro ids
  induction ids with
  | nil =>
      intro _ t grants _ _ _ h
      rw [createGrants, List.append_nil]
      exact h
  | cons id rest ih =>
      intro hall t grants hnodup hlength hready h
      obtain ⟨hnot, hrest⟩ := List.nodup_cons.mp hnodup
      obtain ⟨rec, hfind, hlife⟩ := hready id List.mem_cons_self
      rw [List.length_cons] at hlength
      have hnext := ih (fun id' hid' => hall id' (List.mem_cons_of_mem _ hid')) _ _ hrest
        (by rw [List.length_append, List.length_singleton]; omega)
        (createGrant_ready _ dec hnot hready)
        (hstep t grants id rec (hall id List.mem_cons_self) (by omega) hfind hlife h)
      unfold createGrants
      simp only [hfind, promoteToGranted_ready hlife]
      rw [← List.append_cons] at hnext
      exact hnext

/-! ## The round in closed form -/

/-- No record rests in one of the transient states of a promotion. -/
def Settled (s : Scheduler D) : Prop :=
  ∀ id rec, s.records.find? id = some rec →
    rec.lifecycle ≠ .eligible ∧ rec.lifecycle ≠ .queued

/-- The state the round selects from. -/
def refreshed (s : Scheduler D) : Scheduler D :=
  refreshCounts { s.consumeScheduleId with
    records := s.records.mapVals (fun _ rec => (s.refreshRecord rec).1) }

/-- The candidates of a round. -/
def candidates (s : Scheduler D) (recordOrder : List CollectiveRequestId) :
    List CollectiveRequestId :=
  (s.records.iteration recordOrder).filterMap s.candidateOf

/-- The candidates in rank order. -/
def ranking (s : Scheduler D) (recordOrder : List CollectiveRequestId) :
    List CollectiveRequestId :=
  (s.refreshed.rank (s.candidates recordOrder)).map Ranked.id

/-- The selected requests. -/
def selection (s : Scheduler D) (recordOrder : List CollectiveRequestId) :
    List CollectiveRequestId :=
  s.refreshed.selectLoop (s.ranking recordOrder) []

theorem find?_refreshed (s : Scheduler D) (id : CollectiveRequestId) :
    s.refreshed.records.find? id = (s.records.find? id).map (fun rec => (s.refreshRecord rec).1) :=
  FinMap.find?_mapVals _ _ _

theorem refreshed_rewritten (s : Scheduler D) : Rewritten Refreshes s s.refreshed :=
  Rewritten.of_records
    (RecordsRewritten.mapVals s.records (fun _ rec => refreshRecord_rewritten s rec))
    ⟨rfl, rfl, rfl, rfl, le_refl _⟩

/-! ### Candidates and selection of a keyed state -/

theorem candidateOf_eq_some {s : Scheduler D} (hkeyed : s.Keyed) {id id' : CollectiveRequestId} :
    s.candidateOf id = some id' ↔
      id' = id ∧ ∃ rec, s.records.find? id = some rec ∧ s.eligible rec = true := by
  unfold candidateOf
  cases hfind : s.records.find? id with
  | none => simp
  | some rec =>
      have hid := hkeyed id rec hfind
      simp only [Option.bind_some, Option.some.injEq, exists_eq_left']
      split_ifs with helig
      · rw [Option.some.injEq, hid]
        exact ⟨fun h => ⟨h.symm, helig⟩, fun h => h.1.symm⟩
      · exact ⟨fun h => (by cases h), fun h => absurd h.2 helig⟩

theorem mem_candidates_iff {s : Scheduler D} (hkeyed : s.Keyed)
    {recordOrder : List CollectiveRequestId} {id : CollectiveRequestId} :
    id ∈ s.candidates recordOrder ↔
      ∃ rec, s.records.find? id = some rec ∧ s.eligible rec = true := by
  unfold candidates
  rw [List.mem_filterMap]
  constructor
  · rintro ⟨id', -, hcand⟩
    obtain ⟨rfl, hrec⟩ := (candidateOf_eq_some hkeyed).mp hcand
    exact hrec
  · rintro ⟨rec, hfind, helig⟩
    exact ⟨id, FinMap.mem_iteration_iff.mpr ⟨rec, hfind⟩,
      (candidateOf_eq_some hkeyed).mpr ⟨rfl, rec, hfind, helig⟩⟩

/-- The record of a candidate is eligible. -/
theorem eligible_of_candidate {s : Scheduler D} (hkeyed : s.Keyed)
    {recordOrder : List CollectiveRequestId} {id : CollectiveRequestId} {rec : Record D}
    (hid : id ∈ s.candidates recordOrder) (hfind : s.records.find? id = some rec) :
    s.eligible rec = true := by
  obtain ⟨rec', hfind', helig⟩ := (mem_candidates_iff hkeyed).mp hid
  rw [hfind] at hfind'
  cases hfind'
  exact helig

theorem nodup_candidates {s : Scheduler D} (hkeyed : s.Keyed)
    (recordOrder : List CollectiveRequestId) : (s.candidates recordOrder).Nodup := by
  refine (FinMap.nodup_iteration _ _).filterMap fun a a' b hb hb' => ?_
  rw [← ((candidateOf_eq_some hkeyed).mp hb).1, ← ((candidateOf_eq_some hkeyed).mp hb').1]

theorem rankedEntries_ids (s : Scheduler D) (ids : List CollectiveRequestId)
    (h : ∀ id ∈ ids, ∃ rec, s.records.find? id = some rec) :
    (ids.filterMap (fun id => (s.records.find? id).map (s.rankedOf id))).map Ranked.id = ids := by
  induction ids with
  | nil => rfl
  | cons id rest ih =>
      obtain ⟨rec, hfind⟩ := h id List.mem_cons_self
      simp only [List.filterMap_cons, hfind, Option.map_some, List.map_cons,
        ih (fun id' hid' => h id' (List.mem_cons_of_mem _ hid'))]
      rfl

theorem rank_ids_perm (s : Scheduler D) (ids : List CollectiveRequestId)
    (h : ∀ id ∈ ids, ∃ rec, s.records.find? id = some rec) :
    ((s.rank ids).map Ranked.id).Perm ids := by
  have hsorted := (List.perm_insertionSort (fun a b => Ranked.before b a = false)
    (ids.filterMap (fun id => (s.records.find? id).map (s.rankedOf id)))).map Ranked.id
  rw [rankedEntries_ids s ids h] at hsorted
  exact hsorted

/-- The entries of a ranked list are those of the candidates. -/
theorem mem_rank_iff {s : Scheduler D} {ids : List CollectiveRequestId} {e : Ranked D} :
    e ∈ s.rank ids ↔
      ∃ id ∈ ids, ∃ rec, s.records.find? id = some rec ∧ s.rankedOf id rec = e := by
  rw [rank, List.mem_insertionSort, List.mem_filterMap]
  simp only [Option.map_eq_some_iff]

/-- An eligible record has an entry in the ranking. -/
theorem mem_rank_of_eligible {s : Scheduler D} (hkeyed : s.Keyed) {id : CollectiveRequestId}
    {rec : Record D} (hfind : s.records.find? id = some rec) (helig : s.eligible rec = true)
    (recordOrder : List CollectiveRequestId) :
    s.refreshed.rankedOf id (s.refreshRecord rec).1 ∈
      s.refreshed.rank (s.candidates recordOrder) := by
  refine mem_rank_iff.mpr ⟨id, (mem_candidates_iff hkeyed).mpr ⟨rec, hfind, helig⟩, _, ?_, rfl⟩
  rw [find?_refreshed, hfind, Option.map_some]

theorem ranking_perm {s : Scheduler D} (hkeyed : s.Keyed)
    (recordOrder : List CollectiveRequestId) :
    (s.ranking recordOrder).Perm (s.candidates recordOrder) := by
  refine rank_ids_perm _ _ fun id hid => ?_
  obtain ⟨rec, hfind, -⟩ := (mem_candidates_iff hkeyed).mp hid
  exact ⟨_, by rw [find?_refreshed, hfind, Option.map_some]⟩

theorem mem_ranking_iff {s : Scheduler D} (hkeyed : s.Keyed)
    {recordOrder : List CollectiveRequestId} {id : CollectiveRequestId} :
    id ∈ s.ranking recordOrder ↔
      ∃ rec, s.records.find? id = some rec ∧ s.eligible rec = true := by
  rw [(ranking_perm hkeyed recordOrder).mem_iff, mem_candidates_iff hkeyed]

theorem selection_sublist (s : Scheduler D) (recordOrder : List CollectiveRequestId) :
    (s.selection recordOrder).Sublist (s.ranking recordOrder) := by
  obtain ⟨picked, heq, hsub⟩ :=
    (selectLoop_selects s.refreshed (s.ranking recordOrder) []).picked
  rw [selection, heq, List.nil_append]
  exact hsub

theorem nodup_selection {s : Scheduler D} (hkeyed : s.Keyed)
    (recordOrder : List CollectiveRequestId) : (s.selection recordOrder).Nodup :=
  ((ranking_perm hkeyed recordOrder).nodup_iff.mpr
    (nodup_candidates hkeyed recordOrder)).sublist (s.selection_sublist recordOrder)

/-- At most one grant is created for each record. -/
theorem length_selection_le {s : Scheduler D} (hkeyed : s.Keyed)
    (recordOrder : List CollectiveRequestId) :
    (s.selection recordOrder).length ≤ s.records.size := by
  have hsubset : s.selection recordOrder ⊆ s.records.keys := by
    intro id hid
    obtain ⟨rec, hfind, -⟩ :=
      (mem_ranking_iff hkeyed).mp ((s.selection_sublist recordOrder).subset hid)
    exact FinMap.mem_keys_iff.mpr ⟨rec, hfind⟩
  have hle := (List.subperm_of_subset (nodup_selection hkeyed recordOrder) hsubset).length_le
  rw [FinMap.keys, List.length_map] at hle
  exact hle

theorem selection_overlaps (s : Scheduler D) (recordOrder : List CollectiveRequestId) :
    (s.selection recordOrder).Pairwise s.refreshed.Overlaps :=
  (selectLoop_selects s.refreshed (s.ranking recordOrder) []).overlaps List.Pairwise.nil

theorem selection_clear (s : Scheduler D) {recordOrder : List CollectiveRequestId}
    {id : CollectiveRequestId} (h : id ∈ s.selection recordOrder) :
    s.refreshed.ClearOfActive id :=
  (selectLoop_selects s.refreshed (s.ranking recordOrder) []).clear
    (fun _ hmem => absurd hmem List.not_mem_nil) id h

/-- A selected request was eligible, and is READY once refreshed. -/
theorem selection_ready {s : Scheduler D} (hkeyed : s.Keyed) (hsettled : s.Settled)
    {recordOrder : List CollectiveRequestId} {id : CollectiveRequestId}
    (h : id ∈ s.selection recordOrder) :
    ∃ rec, s.records.find? id = some rec ∧ s.eligible rec = true ∧
      s.refreshed.records.find? id = some (s.refreshRecord rec).1 ∧
      (s.refreshRecord rec).1.lifecycle = .ready := by
  obtain ⟨rec, hfind, helig⟩ :=
    (mem_ranking_iff hkeyed).mp ((s.selection_sublist recordOrder).subset h)
  have hrest := hsettled id rec hfind
  exact ⟨rec, hfind, helig, by rw [find?_refreshed, hfind, Option.map_some],
    refreshRecord_ready s helig hrest.1 hrest.2⟩

theorem selection_all_ready {s : Scheduler D} (hkeyed : s.Keyed) (hsettled : s.Settled)
    (recordOrder : List CollectiveRequestId) :
    ∀ id ∈ s.selection recordOrder,
      ∃ rec, s.refreshed.records.find? id = some rec ∧ rec.lifecycle = .ready := by
  intro id hid
  obtain ⟨rec, -, -, hfind, hready⟩ := selection_ready hkeyed hsettled hid
  exact ⟨_, hfind, hready⟩

omit [Double D] in
theorem overlapGroup_records (s : Scheduler D) (selected : List CollectiveRequestId) :
    (s.overlapGroup selected).1.records = s.records := by
  unfold overlapGroup
  split_ifs <;> rfl

omit [Double D] in
/-- The overlap groups set neither the policy, the clock nor the epoch. -/
theorem overlapGroup_frame (s : Scheduler D) (selected : List CollectiveRequestId) :
    let s' := (s.overlapGroup selected).1
    s'.policy = s.policy ∧ s'.now = s.now ∧ s'.epoch = s.epoch ∧
      s'.nextRequestId = s.nextRequestId := by
  unfold overlapGroup
  split_ifs <;> exact ⟨rfl, rfl, rfl, rfl⟩

/-- The passes after grant creation change a record at most in its account. -/
theorem closeRound_records (s : Scheduler D) (candidates selected : List CollectiveRequestId) :
    FinMap.Related (fun rec rec' => ∃ account, rec' = { rec with fairness := account }) s.records
      ((s.overlapGroup selected).1.accountFairness candidates selected).records := by
  unfold accountFairness
  rw [← overlapGroup_records s selected]
  refine FinMap.Related.modifyAll (fun rec => ⟨rec.fairness, rfl⟩) ?_ _ _ fun _ _ => ⟨_, rfl⟩
  rintro rec _ _ ⟨account, rfl⟩ ⟨account', rfl⟩
  exact ⟨account', rfl⟩

/-- The fairness pass touches the accounts of the candidates. -/
theorem find?_accountFairness (s : Scheduler D) {candidates : List CollectiveRequestId}
    (selected : List CollectiveRequestId) (hnodup : candidates.Nodup) (id : CollectiveRequestId) :
    (s.accountFairness candidates selected).records.find? id =
      (s.records.find? id).map (fun rec => { rec with
        fairness := if id ∈ candidates then accountRound s.policy (id ∈ selected) rec.fairness
          else rec.fairness }) := by
  unfold accountFairness
  rw [FinMap.find?_modifyAll _ _ hnodup]
  split_ifs
  · rfl
  · exact Option.map_id'.symm

/-- The passes after grant creation only rewrite bookkeeping. -/
theorem closeRound_rewritten (s : Scheduler D) (candidates selected : List CollectiveRequestId) :
    Rewritten Eq s ((s.overlapGroup selected).1.accountFairness candidates selected) := by
  refine Rewritten.of_records ((closeRound_records s candidates selected).mono ?_) ?_
  · rintro rec _ ⟨account, rfl⟩
    exact ⟨rfl, rfl, rfl⟩
  · unfold overlapGroup
    split_ifs <;> exact ⟨rfl, rfl, rfl, rfl, le_refl _⟩

/-- The passes after grant creation set neither the policy, the clock nor the epoch. -/
theorem closeRound_frame (s : Scheduler D) (candidates selected : List CollectiveRequestId) :
    let s' := (s.overlapGroup selected).1.accountFairness candidates selected
    s'.policy = s.policy ∧ s'.now = s.now ∧ s'.epoch = s.epoch ∧
      s'.nextRequestId = s.nextRequestId :=
  -- the fairness pass writes records only
  overlapGroup_frame s selected

/-- What a round that does not throw returns. -/
structure RoundResult (s : Scheduler D) (recordOrder : List CollectiveRequestId)
    (s' : Scheduler D) (dec : ScheduleDecision D) (created : List CollectiveGrant) : Prop where
  selected : dec.selected = s.selection recordOrder
  fallback : dec.fallback =
    (s.ranking recordOrder).filter (fun id => id ∉ s.selection recordOrder)
  created : created = (createGrants s.openDecision s.refreshed (s.selection recordOrder)).2
  state : s' = ((createGrants s.openDecision s.refreshed
      (s.selection recordOrder)).1.overlapGroup (s.selection recordOrder)).1.accountFairness
    (s.candidates recordOrder) (s.selection recordOrder)

/-- The passes after the candidates are known, from the state they start in. -/
theorem decideRound_parts {s t : Scheduler D} (h : s.refreshCounts = t)
    (dec : ScheduleDecision D) (candidates ranked selected : List CollectiveRequestId)
    (grantOrder : List CollectiveGrantId)
    (hranked : (t.rank candidates).map Ranked.id = ranked)
    (hselected : t.selectLoop ranked [] = selected) :
    (s.decideRound dec candidates grantOrder).2.1.selected = selected ∧
      (s.decideRound dec candidates grantOrder).2.1.fallback =
        ranked.filter (fun id => id ∉ selected) ∧
      (s.decideRound dec candidates grantOrder).2.2 = (createGrants dec t selected).2 ∧
      (s.decideRound dec candidates grantOrder).1 =
        ((createGrants dec t selected).1.overlapGroup selected).1.accountFairness candidates
          selected := by
  subst h hranked hselected
  exact ⟨rfl, rfl, rfl, rfl⟩

/-- The state after the readiness pass. -/
def passed (s : Scheduler D) : Scheduler D :=
  { s.consumeScheduleId with records := s.records.mapVals (fun _ rec => (s.refreshRecord rec).1) }

/-- The readiness pass visits every record once. -/
theorem refreshRecords_iteration {s s₁ : Scheduler D}
    {recordOrder cands : List CollectiveRequestId}
    (h : s.consumeScheduleId.refreshRecords (s.consumeScheduleId.records.iteration recordOrder)
      [] = (s₁, .ok cands)) : s₁ = s.passed ∧ cands = s.candidates recordOrder := by
  obtain ⟨hs₁, hcands⟩ := refreshRecords_ok (FinMap.nodup_iteration _ _) h
  have hrecords : s.consumeScheduleId.records.modifyAll
        (s.consumeScheduleId.records.iteration recordOrder)
        (fun _ rec => (s.consumeScheduleId.refreshRecord rec).1) =
      s.records.mapVals (fun _ rec => (s.refreshRecord rec).1) :=
    FinMap.modifyAll_eq_mapVals _ (FinMap.iteration_perm _ _)
  refine ⟨?_, hcands⟩
  rw [hs₁, hrecords]
  rfl

theorem scheduleRound_ok {s s' : Scheduler D} {recordOrder : List CollectiveRequestId}
    {grantOrder : List CollectiveGrantId} {dec : ScheduleDecision D}
    {created : List CollectiveGrant}
    (h : s.scheduleRound recordOrder grantOrder = (s', .ok (dec, created))) :
    s.RoundResult recordOrder s' dec created := by
  unfold scheduleRound at h
  simp only at h
  split at h
  · cases h
  · rename_i s₁ cands hpass
    obtain ⟨hs₁, hcandidates⟩ := refreshRecords_iteration hpass
    have hrefreshed : s₁.refreshCounts = s.refreshed := congrArg refreshCounts hs₁
    obtain ⟨hselected, hfallback, hcreated, hstate⟩ := decideRound_parts hrefreshed
      s.openDecision (s.candidates recordOrder) (s.ranking recordOrder) (s.selection recordOrder)
      grantOrder rfl rfl
    rw [hcandidates] at h
    cases h
    exact ⟨hselected, hfallback, hcreated, hstate⟩

/-- A round throws only in the readiness pass, and then has only rewritten records. -/
theorem scheduleRound_error {s s' : Scheduler D} {recordOrder : List CollectiveRequestId}
    {grantOrder : List CollectiveGrantId} {e : SchedulerError}
    (h : s.scheduleRound recordOrder grantOrder = (s', .error e)) :
    Rewritten Refreshes s s' := by
  unfold scheduleRound at h
  simp only at h
  split at h
  · rename_i s₁ e' hpass
    cases h
    have hone : Rewritten Refreshes s s.consumeScheduleId :=
      Rewritten.of_records_eq Refreshes.refl rfl ⟨rfl, rfl, rfl, rfl, le_refl _⟩
    have hpass' := refreshRecords_rewritten s.consumeScheduleId
      (s.consumeScheduleId.records.iteration recordOrder) []
    rw [hpass] at hpass'
    exact hone.trans Refreshes.trans hpass'
  · cases h

/-- A round returns a decision exactly where the readiness pass gets past every record. -/
theorem scheduleRound_isOk_iff (s : Scheduler D) (recordOrder : List CollectiveRequestId)
    (grantOrder : List CollectiveGrantId) :
    (∃ s' dec created, s.scheduleRound recordOrder grantOrder = (s', .ok (dec, created))) ↔
      ∀ id rec, s.records.find? id = some rec → ∃ b, (s.refreshRecord rec).2 = .ok b := by
  have hpass := refreshRecords_isOk_iff (s := s.consumeScheduleId)
    (FinMap.nodup_iteration s.records recordOrder) []
  have hvisits : (∀ id ∈ s.records.iteration recordOrder, ∀ rec, s.records.find? id = some rec →
        ∃ b, (s.refreshRecord rec).2 = .ok b) ↔
      ∀ id rec, s.records.find? id = some rec → ∃ b, (s.refreshRecord rec).2 = .ok b :=
    forall_congr' fun id => ⟨fun h rec hfind => h (FinMap.mem_iteration_iff.mpr ⟨rec, hfind⟩) rec
      hfind, fun h _ => h⟩
  rw [← hvisits]
  refine Iff.trans ?_ hpass
  unfold scheduleRound
  simp only
  split
  · rename_i hthrown
    change _ ↔ ∃ candidates, (s.consumeScheduleId.refreshRecords
      (s.consumeScheduleId.records.iteration recordOrder) []).2 = .ok candidates
    rw [hthrown]
    exact iff_of_false (fun ⟨_, _, _, h⟩ => by cases h) (fun ⟨_, h⟩ => by cases h)
  · rename_i cands hcands
    refine iff_of_true ⟨_, _, _, rfl⟩ ⟨cands, ?_⟩
    change (s.consumeScheduleId.refreshRecords
      (s.consumeScheduleId.records.iteration recordOrder) []).2 = .ok cands
    rw [hcands]

/-- In a settled state the round does not throw. -/
theorem scheduleRound_isOk {s : Scheduler D} (hsettled : s.Settled)
    (recordOrder : List CollectiveRequestId) (grantOrder : List CollectiveGrantId) :
    ∃ s' dec created,
      s.scheduleRound recordOrder grantOrder = (s', .ok (dec, created)) :=
  (s.scheduleRound_isOk_iff recordOrder grantOrder).mpr fun id rec hfind =>
    s.refreshRecord_isOk (hsettled id rec hfind).1

/-! ### The decision -/

section Decision

variable {s s' : Scheduler D} {recordOrder : List CollectiveRequestId}
  {grantOrder : List CollectiveGrantId} {dec : ScheduleDecision D}

theorem schedule_ok (h : s.schedule recordOrder grantOrder = (s', .ok dec)) :
    ∃ created, s.scheduleRound recordOrder grantOrder = (s', .ok (dec, created)) := by
  unfold schedule at h
  rcases hround : s.scheduleRound recordOrder grantOrder with ⟨t, e | ⟨dec', created⟩⟩ <;>
    rw [hround] at h <;> cases h
  exact ⟨created, rfl⟩

/-- Whether a round returns a decision does not depend on the orders it walks in. -/
theorem schedule_isOk_iff (s : Scheduler D) (recordOrder : List CollectiveRequestId)
    (grantOrder : List CollectiveGrantId) :
    (∃ s' dec, s.schedule recordOrder grantOrder = (s', .ok dec)) ↔
      ∀ id rec, s.records.find? id = some rec → ∃ b, (s.refreshRecord rec).2 = .ok b := by
  rw [← s.scheduleRound_isOk_iff recordOrder grantOrder]
  constructor
  · rintro ⟨s', dec, h⟩
    obtain ⟨created, hround⟩ := schedule_ok h
    exact ⟨s', dec, created, hround⟩
  · rintro ⟨s', dec, created, hround⟩
    exact ⟨s', dec, by rw [schedule, hround]; rfl⟩

theorem schedule_selected (h : s.schedule recordOrder grantOrder = (s', .ok dec)) :
    dec.selected = s.selection recordOrder := by
  obtain ⟨created, hround⟩ := schedule_ok h
  exact (scheduleRound_ok hround).selected

theorem schedule_fallback (h : s.schedule recordOrder grantOrder = (s', .ok dec)) :
    dec.fallback = (s.ranking recordOrder).filter (fun id => id ∉ dec.selected) := by
  obtain ⟨created, hround⟩ := schedule_ok h
  rw [schedule_selected h]
  exact (scheduleRound_ok hround).fallback

/-- Selection and fallback together are the eligible requests. -/
theorem mem_decision_iff (hkeyed : s.Keyed)
    (h : s.schedule recordOrder grantOrder = (s', .ok dec)) {id : CollectiveRequestId} :
    id ∈ dec.selected ∨ id ∈ dec.fallback ↔
      ∃ rec, s.records.find? id = some rec ∧ s.eligible rec = true := by
  rw [← @mem_ranking_iff _ _ _ hkeyed recordOrder, schedule_fallback h,
    schedule_selected h]
  constructor
  · rintro (hid | hid)
    · exact (s.selection_sublist recordOrder).subset hid
    · exact (List.mem_filter.mp hid).1
  · intro hid
    by_cases hselected : id ∈ s.selection recordOrder
    · exact .inl hselected
    · exact .inr (List.mem_filter.mpr ⟨hid, decide_eq_true hselected⟩)

/-- The inversions are collected in the state the round leaves. -/
theorem schedule_inversions (h : s.schedule recordOrder grantOrder = (s', .ok dec)) :
    dec.priorityInversions = s'.collectPriorityInversions dec.fallback grantOrder := by
  obtain ⟨created, hround⟩ := schedule_ok h
  unfold scheduleRound at hround
  simp only at hround
  split at hround
  · cases hround
  · cases hround
    rfl

/-- The state a round leaves. -/
theorem schedule_state (h : s.schedule recordOrder grantOrder = (s', .ok dec)) :
    s' = ((createGrants s.openDecision s.refreshed (s.selection recordOrder)).1.overlapGroup
      (s.selection recordOrder)).1.accountFairness (s.candidates recordOrder)
        (s.selection recordOrder) := by
  obtain ⟨created, hround⟩ := schedule_ok h
  exact (scheduleRound_ok hround).state

end Decision

end Scheduler

end CollectiveScheduler
