/-
  Scheduler/RenamedRound.lean --- a scheduling round on renamed schedulers.

  Readiness and eligibility do not look at ids.  The ranking is settled by score,
  factors and collective before the comparator reaches the arrival order, since
  the collectives are distinct.  The greedy selection and the grant creation then
  walk over paired ids in step, so grant ids are the same on both sides.
-/
import CollectiveScheduler.Scheduler.RankOrder
import CollectiveScheduler.Scheduler.Renaming
import CollectiveScheduler.Scheduler.Round
import Mathlib.Data.List.Forall2

set_option autoImplicit false

namespace CollectiveScheduler

open Foundation

namespace Scheduler

section Passes

variable {D : Type} [Double D] {ν : Naming} {s s' : Scheduler D}

/-! ## Readiness -/

theorem Renamed.refreshRecord (h : s.Renamed ν s') {rec rec' : Record D}
    (hrec : rec.Renamed ν rec') :
    (s.refreshRecord rec).1.Renamed ν (s'.refreshRecord rec').1 := by
  obtain ⟨rid, seq, cur, rfl, hcur⟩ := hrec
  have hready : s'.computeReadiness { rec.request with id := rid } =
      s.computeReadiness rec.request := by
    rw [h.rest]
    rfl
  have heligible : ∀ rd, s'.hardEligible rd { rec.request with id := rid } =
      s.hardEligible rd rec.request := by
    intro rd
    rw [h.rest]
    rfl
  have hplan : s'.plan rec.request.planId = s.plan rec.request.planId := by
    rw [h.rest]
    rfl
  unfold Scheduler.refreshRecord
  simp only [hready, heligible, hplan]
  split_ifs
  · exact ⟨rid, seq, cur, rfl, hcur⟩
  · split
    · exact ⟨rid, seq, cur, rfl, hcur⟩
    · split_ifs
      · exact ⟨rid, seq, cur, rfl, hcur⟩
      · split <;> exact ⟨rid, seq, cur, rfl, hcur⟩
      · exact ⟨rid, seq, cur, rfl, hcur⟩

theorem Renamed.eligible (h : s.Renamed ν s') {rec rec' : Record D}
    (hrec : rec.Renamed ν rec') : s'.eligible rec' = s.eligible rec := by
  obtain ⟨rid, seq, cur, rfl, -⟩ := hrec
  unfold Scheduler.eligible
  rw [h.rest]
  rfl

theorem Renamed.refreshed (h : s.Renamed ν s') : s.refreshed.Renamed ν s'.refreshed := by
  refine ⟨?_, ?_, h.grants, h.index, h.tracked⟩
  · unfold Scheduler.refreshed
    rw [h.rest]
    rfl
  · exact h.records.update (find?_refreshed s) (find?_refreshed s')
      (fun _ rec _ => (refreshRecord_frame s rec).1)
      (fun _ rec _ => (refreshRecord_frame s' rec).1)
      (fun _ _ _ hrec => h.refreshRecord hrec)

theorem Renamed.mem_candidates (h : s.Renamed ν s') {id id' : CollectiveRequestId}
    (hpair : ν.Pairs id id') (recordOrder recordOrder' : List CollectiveRequestId) :
    id ∈ s.candidates recordOrder ↔ id' ∈ s'.candidates recordOrder' := by
  obtain ⟨rec, rec', hfind, hfind', hrec⟩ := h.records.pairs hpair
  rw [mem_candidates_iff h.records.keyed, mem_candidates_iff h.records.keyed', hfind, hfind']
  simp only [Option.some.injEq, exists_eq_left', h.eligible hrec]

/-! ## Selection -/

/-- Ordered lists are determined by their members. -/
theorem eq_of_ordered {α : Type} [LinearOrder α] {l l' : List α} (h : l.Pairwise (· < ·))
    (h' : l'.Pairwise (· < ·)) (hmem : ∀ a, a ∈ l ↔ a ∈ l') : l = l' :=
  ((List.perm_ext_iff_of_nodup (h.imp ne_of_lt) (h'.imp ne_of_lt)).mpr hmem).eq_of_pairwise
    (fun _ _ _ _ hab hba => absurd hab hba.not_gt) h h'

omit [Double D] in
theorem Renamed.activeConflicts (h : s.Renamed ν s') {rec rec' : Record D}
    (hrec : rec.Renamed ν rec') : s'.activeConflicts rec' = s.activeConflicts rec := by
  obtain ⟨rid, seq, cur, rfl, -⟩ := hrec
  have hcandidates : s'.conflictCandidates rec.request.participants =
      s.conflictCandidates rec.request.participants := by
    refine eq_of_ordered (sortUnique_ordered _) (sortUnique_ordered _) fun gid => ?_
    rw [mem_conflictCandidates, mem_conflictCandidates]
    exact exists_congr fun p => and_congr_right fun _ => (h.index p gid).symm
  unfold Scheduler.activeConflicts
  simp only [hcandidates]
  refine List.countP_congr fun gid _ => ?_
  unfold conflictsWith
  cases hentry : s.grants.find? gid with
  | none => rw [h.grants.find?_none hentry]
  | some gs =>
      obtain ⟨_, hentry', g, rfl, _, rfl, hpair⟩ := h.grants.find?_some hentry
      obtain ⟨other, _, hfind, hfind', _, _, _, rfl, -⟩ := h.records.pairs hpair
      simp only [hentry', hfind, hfind']

theorem Renamed.canOverlap (h : s.Renamed ν s') {a a' b b' : Record D} (ha : a.Renamed ν a')
    (hb : b.Renamed ν b') : s'.canOverlap a' b' = s.canOverlap a b := by
  obtain ⟨_, _, _, rfl, -⟩ := ha
  obtain ⟨_, _, _, rfl, -⟩ := hb
  unfold Scheduler.canOverlap
  rw [h.rest]
  rfl

theorem Renamed.compatibleWithAll (h : s.Renamed ν s') {rec rec' : Record D}
    (hrec : rec.Renamed ν rec') {selected selected' : List CollectiveRequestId}
    (hselected : List.Forall₂ ν.Pairs selected selected') :
    s'.compatibleWithAll rec' selected' = s.compatibleWithAll rec selected := by
  unfold Scheduler.compatibleWithAll
  induction hselected with
  | nil => rfl
  | cons hpair _ ih =>
      obtain ⟨other, other', hfind, hfind', hother⟩ := h.records.pairs hpair
      simp only [List.all_cons, hfind, hfind', h.canOverlap hrec hother, ih]

theorem Renamed.selectLoop (h : s.Renamed ν s') {ids ids' : List CollectiveRequestId}
    (hids : List.Forall₂ ν.Pairs ids ids') {acc acc' : List CollectiveRequestId}
    (hacc : List.Forall₂ ν.Pairs acc acc') :
    List.Forall₂ ν.Pairs (s.selectLoop ids acc) (s'.selectLoop ids' acc') := by
  have hactive : s'.activeGrants = s.activeGrants := by rw [h.rest]
  have hpolicy : s'.policy = s.policy := by rw [h.rest]
  induction hids generalizing acc acc' with
  | nil => exact hacc
  | @cons id id' rest rest' hpair _ ih =>
      obtain ⟨rec, rec', hfind, hfind', hrec⟩ := h.records.pairs hpair
      have hlength := hacc.length_eq
      have hempty : acc' = [] ↔ acc = [] := by
        rw [← List.length_eq_zero_iff, ← List.length_eq_zero_iff, hlength]
      have hoverlap : rec'.request.overlap = rec.request.overlap := by
        obtain ⟨_, _, _, rfl, -⟩ := hrec
        rfl
      have hone : List.Forall₂ ν.Pairs (acc ++ [id]) (acc' ++ [id']) :=
        List.rel_append hacc (.cons hpair .nil)
      have hite : ∀ {p : Prop} [Decidable p] {a a' b b' : List CollectiveRequestId},
          List.Forall₂ ν.Pairs a a' → List.Forall₂ ν.Pairs b b' →
          List.Forall₂ ν.Pairs (if p then a else b) (if p then a' else b') := by
        intro p _ a a' b b' hthen helse
        split
        · exact hthen
        · exact helse
      unfold Scheduler.selectLoop
      simp only [hfind, hfind', hactive, hpolicy, ← hlength, hoverlap, ne_eq, hempty,
        h.activeConflicts hrec, h.compatibleWithAll hrec hacc]
      -- both loops take the same branch
      exact hite hacc <| hite (ih hacc) <| hite (ih hacc) <| hite (ih hacc) <| hite hacc <|
        hite hone (ih hone)

/-! ## Grant creation -/

omit [Double D] in
theorem Renamed.openDecision (h : s.Renamed ν s') : s'.openDecision = s.openDecision := by
  unfold Scheduler.openDecision
  rw [h.rest]
  rfl

omit [Double D] in
theorem Renamed.promoteToGranted {rec rec' : Record D} (hrec : rec.Renamed ν rec') :
    (∃ e e', promoteToGranted rec = .error e ∧ promoteToGranted rec' = .error e') ∨
      ∃ r r', promoteToGranted rec = .ok r ∧ promoteToGranted rec' = .ok r' ∧
        r.request = rec.request ∧ r'.request = rec'.request ∧ r.Renamed ν r' := by
  obtain ⟨rid, seq, cur, rfl, hcur⟩ := hrec
  cases hlife : rec.lifecycle <;> simp only [Scheduler.promoteToGranted, hlife] <;>
    first
      | exact .inl ⟨_, _, rfl, rfl⟩
      | exact .inr ⟨_, _, rfl, rfl, rfl, rfl, rid, seq, cur, rfl, hcur⟩

omit [Double D] in
theorem Renamed.createGrant (h : s.Renamed ν s') {id id' : CollectiveRequestId}
    (hpair : ν.Pairs id id') {old old' rec rec' : Record D}
    (hfind : s.records.find? id = some old) (hfind' : s'.records.find? id' = some old')
    (hkeep : rec.request = old.request) (hkeep' : rec'.request = old'.request)
    (hrec : rec.Renamed ν rec') (dec : ScheduleDecision D) :
    (s.createGrant id rec dec).1.Renamed ν (s'.createGrant id' rec' dec).1 ∧
      (s.createGrant id rec dec).2.Renamed ν (s'.createGrant id' rec' dec).2 := by
  have hid : rec.request.id = id := hkeep ▸ h.records.keyed id old hfind
  have hid' : rec'.request.id = id' := hkeep' ▸ h.records.keyed' id' old' hfind'
  have hgrant : (s.grantFor rec.request dec).Renamed ν (s'.grantFor rec'.request dec) := by
    refine ⟨id', ?_, ?_⟩
    · rw [← hid']
      obtain ⟨rid, seq, cur, rfl, -⟩ := hrec
      unfold grantFor
      rw [h.rest]
    · change ν.Pairs rec.request.id id'
      rw [hid]
      exact hpair
  have hnext : s'.nextGrantId = s.nextGrantId := by rw [h.rest]
  refine ⟨⟨?_, ?_, ?_, h.index, h.tracked⟩, hgrant⟩
  · unfold Scheduler.createGrant
    simp only
    rw [h.rest]
  · refine h.records.insert hpair hfind hfind' hkeep hkeep' ?_
    obtain ⟨rid, seq, cur, rfl, -⟩ := hrec
    exact ⟨rid, seq, _, rfl, .some hgrant⟩
  · change EntriesRenamed ν (s.grants.emplace s.nextGrantId _) (s'.grants.emplace s'.nextGrantId _)
    rw [hnext]
    exact h.grants.emplace s.nextGrantId ⟨_, rfl, hgrant⟩

omit [Double D] in
theorem Renamed.createGrants (dec : ScheduleDecision D) {ids ids' : List CollectiveRequestId}
    (hids : List.Forall₂ ν.Pairs ids ids') (h : s.Renamed ν s') :
    (createGrants dec s ids).1.Renamed ν (createGrants dec s' ids').1 ∧
      List.Forall₂ (CollectiveGrant.Renamed ν) (createGrants dec s ids).2
        (createGrants dec s' ids').2 := by
  induction hids generalizing s s' with
  | nil => exact ⟨h, .nil⟩
  | cons hpair _ ih =>
      obtain ⟨rec, rec', hfind, hfind', hrec⟩ := h.records.pairs hpair
      unfold Scheduler.createGrants
      rw [hfind, hfind']
      rcases Renamed.promoteToGranted hrec with
        ⟨e, e', hr, hr'⟩ | ⟨r, r', hr, hr', hkeep, hkeep', hrel⟩
      · simp only [hr, hr']
        exact ih h
      · obtain ⟨hnext, hgrant⟩ := h.createGrant hpair hfind hfind' hkeep hkeep' hrel dec
        obtain ⟨hlast, hgrants⟩ := ih hnext
        simp only [hr, hr']
        exact ⟨hlast, .cons hgrant hgrants⟩

/-! ## The passes after grant creation -/

omit [Double D] in
theorem Renamed.overlapGroup (h : s.Renamed ν s') {selected selected' : List CollectiveRequestId}
    (hselected : List.Forall₂ ν.Pairs selected selected') :
    (s.overlapGroup selected).1.Renamed ν (s'.overlapGroup selected').1 := by
  unfold Scheduler.overlapGroup
  cases hselected with
  | nil => exact h
  | cons _ _ =>
      refine ⟨?_, h.records, h.grants, h.index, h.tracked⟩
      simp only [List.isEmpty_cons, Bool.false_eq_true, if_false]
      rw [h.rest]

/-- Paired lists have paired members. -/
theorem mem_iff_of_pairs {ids ids' : List CollectiveRequestId}
    (hids : List.Forall₂ ν.Pairs ids ids') {id id' : CollectiveRequestId}
    (hpair : ν.Pairs id id') : id ∈ ids ↔ id' ∈ ids' := by
  induction hids with
  | nil => simp
  | cons hhead _ ih => rw [List.mem_cons, List.mem_cons, ih, hpair.eq_iff hhead]

theorem Renamed.accountFairness (h : s.Renamed ν s')
    {candidates candidates' selected selected' : List CollectiveRequestId}
    (hnodup : candidates.Nodup) (hnodup' : candidates'.Nodup)
    (hcandidates : ∀ {id id'}, ν.Pairs id id' → (id ∈ candidates ↔ id' ∈ candidates'))
    (hselected : List.Forall₂ ν.Pairs selected selected') :
    (s.accountFairness candidates selected).Renamed ν
      (s'.accountFairness candidates' selected') := by
  have hpolicy : s'.policy = s.policy := by rw [h.rest]
  refine ⟨?_, ?_, h.grants, h.index, h.tracked⟩
  · unfold Scheduler.accountFairness
    rw [h.rest]
  · refine h.records.update (s.find?_accountFairness selected hnodup)
      (s'.find?_accountFairness selected' hnodup') (fun _ _ _ => rfl) (fun _ _ _ => rfl) ?_
    intro id id' rec rec' hpair _ _ hrec
    obtain ⟨rid, seq, cur, rfl, hcur⟩ := hrec
    refine ⟨rid, seq, cur, ?_, hcur⟩
    simp only [hpolicy, hcandidates hpair, mem_iff_of_pairs hselected hpair]

end Passes

/-! ## Ranking -/

section Ranking

variable {ν : Naming} {s s' : Scheduler ℚ}

/-- The precedence of a request, if it has a record. -/
def precedenceOf (s : Scheduler ℚ) (id : CollectiveRequestId) :
    Option (ℚᵒᵈ ×ₗ (List ℚ)ᵒᵈ ×ₗ CollectiveId) :=
  (s.records.find? id).map (fun rec => (s.rankedOf id rec).precedence)

theorem Renamed.precedenceOf (h : s.Renamed ν s') {id id' : CollectiveRequestId}
    (hpair : ν.Pairs id id') : s'.precedenceOf id' = s.precedenceOf id := by
  obtain ⟨rec, _, hfind, hfind', rid, seq, cur, rfl, -⟩ := h.records.pairs hpair
  unfold Scheduler.precedenceOf
  rw [hfind, hfind', h.rest]
  rfl

/-- The precedence tells the collective. -/
theorem collective_of_precedenceOf {id : CollectiveRequestId}
    {x : ℚᵒᵈ ×ₗ (List ℚ)ᵒᵈ ×ₗ CollectiveId} (h : s.precedenceOf id = some x) :
    (s.records.find? id).map (·.request.collective) = some (ofLex (ofLex x).2).2 := by
  obtain ⟨rec, hfind, rfl⟩ := Option.map_eq_some_iff.mp h
  rw [hfind]
  rfl

theorem rank_precedence (s : Scheduler ℚ) (candidates : List CollectiveRequestId) :
    (candidates.filterMap fun id => (s.records.find? id).map (s.rankedOf id)).map
        Ranked.precedence = candidates.filterMap s.precedenceOf := by
  rw [List.map_filterMap]
  refine List.filterMap_congr fun id _ => ?_
  rw [Scheduler.precedenceOf, Option.map_map]
  rfl

/-- Both sides rank the same precedences. -/
theorem Renamed.precedence_perm (h : s.Renamed ν s')
    {candidates candidates' : List CollectiveRequestId} (hnodup : candidates.Nodup)
    (hnodup' : candidates'.Nodup)
    (hcandidates : ∀ {id id'}, ν.Pairs id id' → (id ∈ candidates ↔ id' ∈ candidates')) :
    (candidates.filterMap s.precedenceOf).Perm (candidates'.filterMap s'.precedenceOf) := by
  refine (List.perm_ext_iff_of_nodup ?_ ?_).mpr fun x => ?_
  · refine hnodup.filterMap fun id₁ id₂ x h₁ h₂ => ?_
    have hname₁ := (h.records.left id₁).symm.trans (collective_of_precedenceOf h₁)
    exact ν.left_unique hname₁ ((h.records.left id₂).symm.trans (collective_of_precedenceOf h₂))
  · refine hnodup'.filterMap fun id₁ id₂ x h₁ h₂ => ?_
    have hname₁ := (h.records.right id₁).symm.trans (collective_of_precedenceOf h₁)
    exact ν.right_unique hname₁
      ((h.records.right id₂).symm.trans (collective_of_precedenceOf h₂))
  · simp only [List.mem_filterMap]
    constructor
    · rintro ⟨id, hmem, hx⟩
      obtain ⟨rec, hfind, -⟩ := Option.map_eq_some_iff.mp hx
      obtain ⟨id', hpair⟩ := h.records.exists_right hfind
      exact ⟨id', (hcandidates hpair).mp hmem, (h.precedenceOf hpair).trans hx⟩
    · rintro ⟨id', hmem, hx⟩
      obtain ⟨rec, hfind, -⟩ := Option.map_eq_some_iff.mp hx
      obtain ⟨id, hpair⟩ := h.records.exists_left hfind
      exact ⟨id, (hcandidates hpair).mpr hmem, (h.precedenceOf hpair).symm.trans hx⟩

/-- A ranked entry names its collective. -/
theorem rank_collective {candidates : List CollectiveRequestId} {a : Ranked ℚ}
    (ha : a ∈ s.rank candidates) :
    (s.records.find? a.id).map (·.request.collective) =
      some (ofLex (ofLex a.precedence).2).2 := by
  have hmem := (List.perm_insertionSort _ _).mem_iff.mp ha
  obtain ⟨id, -, hranked⟩ := List.mem_filterMap.mp hmem
  obtain ⟨rec, hfind, rfl⟩ := Option.map_eq_some_iff.mp hranked
  change Option.map _ (s.records.find? id) = _
  rw [hfind]
  rfl

/-- Entries of equal precedence have paired ids. -/
theorem forall₂_pairs_of_precedence {l l' : List (Ranked ℚ)}
    (heq : l.map Ranked.precedence = l'.map Ranked.precedence)
    (hl : ∀ a ∈ l, ν.left a.id = some (ofLex (ofLex a.precedence).2).2)
    (hl' : ∀ a ∈ l', ν.right a.id = some (ofLex (ofLex a.precedence).2).2) :
    List.Forall₂ ν.Pairs (l.map Ranked.id) (l'.map Ranked.id) := by
  induction l generalizing l' with
  | nil =>
      cases l' with
      | nil => exact .nil
      | cons a' rest' => cases heq
  | cons a rest ih =>
      cases l' with
      | nil => cases heq
      | cons a' rest' =>
          obtain ⟨hhead, htail⟩ := List.cons.inj heq
          refine .cons ⟨_, hl a List.mem_cons_self, ?_⟩
            (ih htail (fun b hb => hl b (List.mem_cons_of_mem _ hb))
              (fun b hb => hl' b (List.mem_cons_of_mem _ hb)))
          rw [hhead]
          exact hl' a' List.mem_cons_self

theorem Renamed.ranking (h : s.Renamed ν s')
    (recordOrder recordOrder' : List CollectiveRequestId) :
    List.Forall₂ ν.Pairs (s.ranking recordOrder) (s'.ranking recordOrder') := by
  have hrefreshed := h.refreshed
  have hperm := hrefreshed.precedence_perm (nodup_candidates h.records.keyed recordOrder)
    (nodup_candidates h.records.keyed' recordOrder')
    (fun hpair => h.mem_candidates hpair recordOrder recordOrder')
  rw [← rank_precedence, ← rank_precedence] at hperm
  refine forall₂_pairs_of_precedence (precedence_eq_of_perm hperm) ?_ ?_
  · intro a ha
    exact (hrefreshed.records.left a.id).symm.trans (rank_collective ha)
  · intro a ha
    exact (hrefreshed.records.right a.id).symm.trans (rank_collective ha)

/-! ## The round -/

theorem Renamed.selection (h : s.Renamed ν s')
    (recordOrder recordOrder' : List CollectiveRequestId) :
    List.Forall₂ ν.Pairs (s.selection recordOrder) (s'.selection recordOrder') :=
  h.refreshed.selectLoop (h.ranking recordOrder recordOrder') .nil

/-- A round selects and keeps as fallback paired requests, in the same order, and
issues the same grants. -/
theorem Renamed.scheduleRound (h : s.Renamed ν s') {t t' : Scheduler ℚ}
    {dec dec' : ScheduleDecision ℚ} {created created' : List CollectiveGrant}
    {recordOrder recordOrder' : List CollectiveRequestId}
    {grantOrder grantOrder' : List CollectiveGrantId}
    (hround : s.scheduleRound recordOrder grantOrder = (t, .ok (dec, created)))
    (hround' : s'.scheduleRound recordOrder' grantOrder' = (t', .ok (dec', created'))) :
    t.Renamed ν t' ∧ List.Forall₂ (CollectiveGrant.Renamed ν) created created' ∧
      List.Forall₂ ν.Pairs dec.selected dec'.selected ∧
      List.Forall₂ ν.Pairs dec.fallback dec'.fallback := by
  have hresult := scheduleRound_ok hround
  have hresult' := scheduleRound_ok hround'
  have hselection := h.selection recordOrder recordOrder'
  obtain ⟨hgranted, hcreated⟩ := h.refreshed.createGrants s.openDecision hselection
  refine ⟨?_, ?_, ?_, ?_⟩
  · rw [hresult.state, hresult'.state, h.openDecision]
    exact (hgranted.overlapGroup hselection).accountFairness
      (nodup_candidates h.records.keyed recordOrder)
      (nodup_candidates h.records.keyed' recordOrder')
      (fun hpair => h.mem_candidates hpair recordOrder recordOrder') hselection
  · rw [hresult.created, hresult'.created, h.openDecision]
    exact hcreated
  · rw [hresult.selected, hresult'.selected]
    exact hselection
  · rw [hresult.fallback, hresult'.fallback]
    refine List.rel_filter (fun id id' hpair => ?_) (h.ranking recordOrder recordOrder')
    simp only [mem_iff_of_pairs hselection hpair]

end Ranking

end Scheduler

end CollectiveScheduler
