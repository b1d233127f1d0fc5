/-
  Scheduler/Selection.lean --- what the selected requests of a round have in common.

  The selection loop compares a candidate with every request it has picked before, so
  any two selected requests have passed `can_overlap` in one order or the other.  The
  footprints it compares are those of the readiness pass, made from the requests and
  the plans of the state before the round.
-/
import CollectiveScheduler.Scheduler.Round

set_option autoImplicit false

namespace CollectiveScheduler

open Foundation

namespace Scheduler

variable {D : Type} [Double D]

/-! ## The bounds of the loop -/

/-- The loop never picks past the group bound. -/
theorem length_selectLoop_le (s : Scheduler D) (ids acc : List CollectiveRequestId)
    (h : acc.length ≤ s.policy.bounds.maxOverlapGroup.toNat) :
    (s.selectLoop ids acc).length ≤ s.policy.bounds.maxOverlapGroup.toNat := by
  induction ids generalizing acc with
  | nil => exact h
  | cons id rest ih =>
      unfold selectLoop
      split
      · exact ih acc h
      · simp only
        split_ifs with hbound hexcl hconflict hcompat hgroup hexclusive
        · exact h
        · exact ih acc h
        · exact ih acc h
        · exact ih acc h
        · exact h
        · rw [List.length_append, List.length_singleton]
          omega
        · refine ih _ ?_
          rw [List.length_append, List.length_singleton]
          omega

/-- A pick is made only while the active grants leave room for it. -/
theorem selectLoop_slots (s : Scheduler D) (ids acc : List CollectiveRequestId)
    (h : acc ≠ [] → s.activeGrants + acc.length ≤ s.policy.bounds.maxActiveGrants.toNat) :
    s.selectLoop ids acc ≠ [] →
      s.activeGrants + (s.selectLoop ids acc).length ≤
        s.policy.bounds.maxActiveGrants.toNat := by
  induction ids generalizing acc with
  | nil => exact h
  | cons id rest ih =>
      unfold selectLoop
      split
      · exact ih acc h
      · simp only
        split_ifs with hbound hexcl hconflict hcompat hgroup hexclusive
        · exact h
        · exact ih acc h
        · exact ih acc h
        · exact ih acc h
        · exact h
        · intro _
          rw [List.length_append, List.length_singleton]
          omega
        · refine ih _ fun _ => ?_
          rw [List.length_append, List.length_singleton]
          omega

theorem length_selection_le_group (s : Scheduler D) (recordOrder : List CollectiveRequestId) :
    (s.selection recordOrder).length ≤ s.policy.bounds.maxOverlapGroup.toNat :=
  length_selectLoop_le s.refreshed _ [] (Nat.zero_le _)

theorem selection_slots (s : Scheduler D) {recordOrder : List CollectiveRequestId}
    (h : s.selection recordOrder ≠ []) :
    s.activeGrants + (s.selection recordOrder).length ≤
      s.policy.bounds.maxActiveGrants.toNat :=
  selectLoop_slots s.refreshed _ [] (fun hnil => absurd rfl hnil) h

/-! ## Pairs of selected requests -/

/-- The record with the footprint the readiness pass gives it. -/
def footprinted (s : Scheduler D) (rec : Record D) : Record D :=
  { rec with
    footprint := makeFootprint rec.request.participants rec.request.resourceClaims
      (s.plan rec.request.planId) }

/-- `can_overlap` as a round of this state evaluates it, in one order or the other. -/
def mayOverlap (s : Scheduler D) (rec rec' : Record D) : Bool :=
  s.canOverlap (s.footprinted rec) (s.footprinted rec') ||
    s.canOverlap (s.footprinted rec') (s.footprinted rec)

/-- `can_overlap` reads the requests and the footprints. -/
theorem canOverlap_congr (s : Scheduler D) {a a' b b' : Record D}
    (ha : a'.request = a.request) (hfa : a'.footprint = a.footprint)
    (hb : b'.request = b.request) (hfb : b'.footprint = b.footprint) :
    s.canOverlap a' b' = s.canOverlap a b := by
  unfold canOverlap
  rw [ha, hfa, hb, hfb]

theorem canOverlap_refreshed (s : Scheduler D) {rec rec' : Record D}
    (h : s.eligible rec = true) (h' : s.eligible rec' = true) :
    s.refreshed.canOverlap (s.refreshRecord rec).1 (s.refreshRecord rec').1 =
      s.canOverlap (s.footprinted rec) (s.footprinted rec') := by
  have hterm := not_terminal_of_pending (eligible_iff.mp h).1
  have hterm' := not_terminal_of_pending (eligible_iff.mp h').1
  exact canOverlap_congr s (refreshRecord_frame s rec).1 (refreshRecord_footprint s hterm)
    (refreshRecord_frame s rec').1 (refreshRecord_footprint s hterm')

/-- A selected request was eligible. -/
theorem selection_eligible {s : Scheduler D} (hkeyed : s.Keyed)
    {recordOrder : List CollectiveRequestId} {id : CollectiveRequestId}
    (h : id ∈ s.selection recordOrder) :
    ∃ rec, s.records.find? id = some rec ∧ s.eligible rec = true :=
  (mem_ranking_iff hkeyed).mp ((s.selection_sublist recordOrder).subset h)

theorem eligible_of_selected {s : Scheduler D} (hkeyed : s.Keyed)
    {recordOrder : List CollectiveRequestId} {id : CollectiveRequestId} {rec : Record D}
    (hid : id ∈ s.selection recordOrder) (hfind : s.records.find? id = some rec) :
    s.eligible rec = true :=
  eligible_of_candidate hkeyed ((ranking_perm hkeyed recordOrder).subset
    ((s.selection_sublist recordOrder).subset hid)) hfind

/-- The loop selects the record if it meets it first: the record is a candidate, no executing
grant stands against it, and both bounds leave room for one request. -/
def selectable (s : Scheduler D) (rec : Record D) : Bool :=
  s.eligible rec && s.refreshed.activeConflicts (s.refreshRecord rec).1 == 0 &&
    decide (s.activeGrants < s.policy.bounds.maxActiveGrants.toNat) &&
    decide (0 < s.policy.bounds.maxOverlapGroup.toNat)

theorem selectable_iff {s : Scheduler D} {rec : Record D} :
    s.selectable rec = true ↔ s.eligible rec = true ∧
      s.refreshed.activeConflicts (s.refreshRecord rec).1 = 0 ∧
      s.activeGrants < s.policy.bounds.maxActiveGrants.toNat ∧
      0 < s.policy.bounds.maxOverlapGroup.toNat := by
  simp only [selectable, Bool.and_eq_true, beq_iff_eq, decide_eq_true_eq, and_assoc]

/-- Only selectable requests are selected. -/
theorem selectable_of_selected {s : Scheduler D} (hkeyed : s.Keyed)
    {recordOrder : List CollectiveRequestId} {id : CollectiveRequestId} {rec : Record D}
    (hid : id ∈ s.selection recordOrder) (hfind : s.records.find? id = some rec) :
    s.selectable rec = true := by
  obtain ⟨rec', hfind', hclear⟩ := s.selection_clear hid
  rw [find?_refreshed, hfind, Option.map_some, Option.some.injEq] at hfind'
  have hpos := List.length_pos_of_mem hid
  have hslots := s.selection_slots (List.ne_nil_of_mem hid)
  have hgroup := s.length_selection_le_group recordOrder
  exact selectable_iff.mpr ⟨eligible_of_selected hkeyed hid hfind, hfind' ▸ hclear, by omega,
    by omega⟩

/-- Two requests that are selected together have passed `can_overlap`. -/
theorem selection_mayOverlap {s : Scheduler D} (hkeyed : s.Keyed)
    {recordOrder : List CollectiveRequestId} {id id' : CollectiveRequestId} {rec rec' : Record D}
    (hid : id ∈ s.selection recordOrder) (hid' : id' ∈ s.selection recordOrder) (hne : id ≠ id')
    (hfind : s.records.find? id = some rec) (hfind' : s.records.find? id' = some rec') :
    s.mayOverlap rec rec' = true := by
  have helig := eligible_of_selected hkeyed hid hfind
  have helig' := eligible_of_selected hkeyed hid' hfind'
  have hrec : s.refreshed.records.find? id = some (s.refreshRecord rec).1 := by
    rw [find?_refreshed, hfind, Option.map_some]
  have hrec' : s.refreshed.records.find? id' = some (s.refreshRecord rec').1 := by
    rw [find?_refreshed, hfind', Option.map_some]
  -- the later of the two was compared with the earlier one
  have hpairs := List.pairwise_iff_getElem.mp (s.selection_overlaps recordOrder)
  obtain ⟨i, hi, rfl⟩ := List.getElem_of_mem hid
  obtain ⟨j, hj, rfl⟩ := List.getElem_of_mem hid'
  unfold mayOverlap
  rw [Bool.or_eq_true, ← canOverlap_refreshed s helig helig',
    ← canOverlap_refreshed s helig' helig]
  rcases lt_trichotomy i j with hij | hij | hij
  · exact .inr (hpairs i j hi hj hij _ _ hrec hrec')
  · subst hij
    exact absurd rfl hne
  · exact .inl (hpairs j i hj hi hij _ _ hrec' hrec)

/-- What `can_overlap` has checked of two requests that may overlap. -/
theorem mayOverlap_checks {s : Scheduler D} {rec rec' : Record D}
    (h : s.mayOverlap rec rec' = true) :
    (rec.request.overlap ≠ .unknown ∧ rec'.request.overlap ≠ .unknown) ∧
      (rec.request.overlap ≠ .exclusive ∧ rec'.request.overlap ≠ .exclusive) ∧
      rec.request.participants.Disjoint rec'.request.participants := by
  rcases Bool.or_eq_true _ _ ▸ h with h | h
  · obtain ⟨hunknown, hexclusive, hconflict, -⟩ := canOverlap_checks h
    refine ⟨hunknown, hexclusive, fun p hp hp' => ?_⟩
    exact Bool.false_ne_true
      (hconflict.symm.trans (makeFootprint_forbidsOverlap hp hp' _ _ _ _))
  · obtain ⟨hunknown, hexclusive, hconflict, -⟩ := canOverlap_checks h
    refine ⟨hunknown.symm, hexclusive.symm, fun p hp hp' => ?_⟩
    exact Bool.false_ne_true
      (hconflict.symm.trans (makeFootprint_forbidsOverlap hp' hp _ _ _ _))

/-- The resources of a request: its claims together with those of its plan. -/
def resourcesOf (s : Scheduler D) (req : CollectiveRequest D) : List ResourceId :=
  req.resourceClaims.map ResourceClaim.resource ++
    ((s.plan req.planId).map CommunicationPlan.resources).getD []

/-- The links of a request: those of its plan. -/
def linksOf (s : Scheduler D) (req : CollectiveRequest D) : List LinkId :=
  ((s.plan req.planId).map CommunicationPlan.links).getD []

/-- The plan of a request is published and valid. -/
def hasValidPlan (s : Scheduler D) (req : CollectiveRequest D) : Bool :=
  (s.plan req.planId).any CommunicationPlan.valid

omit [Double D] in
theorem footprinted_footprint (s : Scheduler D) (rec : Record D) :
    (s.footprinted rec).footprint.participants = sortUnique rec.request.participants ∧
      (s.footprinted rec).footprint.resources = sortUnique (s.resourcesOf rec.request) ∧
      (s.footprinted rec).footprint.links = sortUnique (s.linksOf rec.request) ∧
      (s.footprinted rec).footprint.exclusionClasses = [] ∧
      (s.footprinted rec).footprint.footprintUnknown = !s.hasValidPlan rec.request := by
  unfold footprinted makeFootprint resourcesOf linksOf hasValidPlan
  cases s.plan rec.request.planId with
  | none => simp [Footprint.normalize, sortUnique]
  | some pl => simp [Footprint.normalize, sortUnique]

end Scheduler

end CollectiveScheduler
