/-
  Scheduler/Admission.lean --- the selection loop as a greedy loop.

  The loop judges a candidate by the requests it has selected before: it passes the
  candidate over, selects it, selects it as the only one, or ends.  Its verdicts are
  explained by six reasons (`PassedOver`), so these decide by themselves which candidates
  of a round are selected.
-/
import CollectiveScheduler.Foundation.Greedy
import CollectiveScheduler.Scheduler.Selection

set_option autoImplicit false

namespace CollectiveScheduler

open Foundation

namespace Scheduler

variable {D : Type} [Double D]

/-! ## The verdicts of the loop -/

/-- What the body of the selection loop does with a candidate. -/
def verdict (s : Scheduler D) (selected : List CollectiveRequestId) (id : CollectiveRequestId) :
    Verdict :=
  match s.records.find? id with
  | none => .skip
  | some rec =>
      if s.activeGrants + selected.length ≥ s.policy.bounds.maxActiveGrants.toNat then .stop
      else if rec.request.overlap = .exclusive ∧ selected ≠ [] then .skip
      else if s.activeConflicts rec > 0 then .skip
      else if !s.compatibleWithAll rec selected then .skip
      else if selected.length ≥ s.policy.bounds.maxOverlapGroup.toNat then .stop
      else if rec.request.overlap = .exclusive then .last
      else .take

theorem selectLoop_eq_greedy (s : Scheduler D) (ids selected : List CollectiveRequestId) :
    s.selectLoop ids selected = greedy s.verdict ids selected := by
  induction ids generalizing selected with
  | nil => rfl
  | cons id rest ih =>
      unfold selectLoop greedy verdict
      cases s.records.find? id with
      | none => exact ih selected
      | some rec =>
          simp only
          -- both sides test the same guards in the same order
          by_cases hslot : s.activeGrants + selected.length ≥ s.policy.bounds.maxActiveGrants.toNat
          · rw [if_pos hslot, if_pos hslot]
          rw [if_neg hslot, if_neg hslot]
          by_cases hfirst : rec.request.overlap = .exclusive ∧ selected ≠ []
          · rw [if_pos hfirst, if_pos hfirst]
            exact ih selected
          rw [if_neg hfirst, if_neg hfirst]
          by_cases hconflict : s.activeConflicts rec > 0
          · rw [if_pos hconflict, if_pos hconflict]
            exact ih selected
          rw [if_neg hconflict, if_neg hconflict]
          by_cases hcompat : (!s.compatibleWithAll rec selected) = true
          · rw [if_pos hcompat, if_pos hcompat]
            exact ih selected
          rw [if_neg hcompat, if_neg hcompat]
          by_cases hgroup : selected.length ≥ s.policy.bounds.maxOverlapGroup.toNat
          · rw [if_pos hgroup, if_pos hgroup]
          rw [if_neg hgroup, if_neg hgroup]
          by_cases hexclusive : rec.request.overlap = .exclusive
          · rw [if_pos hexclusive, if_pos hexclusive]
          · rw [if_neg hexclusive, if_neg hexclusive]
            exact ih (selected ++ [id])

/-! ## The reasons -/

/-- Why a record is not selected, given the requests that were selected before it. -/
inductive PassedOver (s : Scheduler D) (before : List CollectiveRequestId) (rec : Record D) :
    Prop
  | activeConflict (h : 0 < s.activeConflicts rec)
  | incompatible {id : CollectiveRequestId} {other : Record D} (hid : id ∈ before)
      (hfind : s.records.find? id = some other) (h : s.canOverlap rec other = false)
  | notFirst (hexclusive : rec.request.overlap = .exclusive) (h : before ≠ [])
  | afterExclusive {id : CollectiveRequestId} {other : Record D} (hid : id ∈ before)
      (hfind : s.records.find? id = some other) (h : other.request.overlap = .exclusive)
  | noSlot (h : s.policy.bounds.maxActiveGrants.toNat ≤ s.activeGrants + before.length)
  | groupFull (h : s.policy.bounds.maxOverlapGroup.toNat ≤ before.length)

/-- More selected requests only add reasons. -/
theorem PassedOver.mono {s : Scheduler D} {before after : List CollectiveRequestId}
    {rec : Record D} (h : s.PassedOver before rec) (hfront : before <+: after) :
    s.PassedOver after rec := by
  have hlength := hfront.length_le
  cases h with
  | activeConflict h => exact .activeConflict h
  | incompatible hid hfind h => exact .incompatible (hfront.subset hid) hfind h
  | notFirst hexclusive h =>
      refine .notFirst hexclusive fun hnil => h ?_
      rw [hnil] at hfront
      exact List.prefix_nil.mp hfront
  | afterExclusive hid hfind h => exact .afterExclusive (hfront.subset hid) hfind h
  | noSlot h => exact .noSlot (by omega)
  | groupFull h => exact .groupFull (by omega)

/-- A request is held back by a reason, or because a record is missing. -/
def HeldBack (s : Scheduler D) (before : List CollectiveRequestId) (id : CollectiveRequestId) :
    Prop :=
  (∃ id' ∈ id :: before, s.records.find? id' = none) ∨
    ∃ rec, s.records.find? id = some rec ∧ s.PassedOver before rec

/-- More selected requests only hold back more. -/
theorem HeldBack.mono {s : Scheduler D} {before after : List CollectiveRequestId}
    {id : CollectiveRequestId} (hfront : before <+: after) (h : s.HeldBack before id) :
    s.HeldBack after id := by
  rcases h with ⟨id', hid', hnone⟩ | ⟨rec, hfind, hpassed⟩
  · exact .inl ⟨id', List.cons_subset_cons id hfront.subset hid', hnone⟩
  · exact .inr ⟨rec, hfind, hpassed.mono hfront⟩

omit [Double D] in
theorem all_found_of_mem {s : Scheduler D} {ids : List CollectiveRequestId}
    (h : ∀ id ∈ ids, ∃ rec, s.records.find? id = some rec) :
    ¬∃ id ∈ ids, s.records.find? id = none := by
  rintro ⟨id, hid, hnone⟩
  obtain ⟨rec, hfind⟩ := h id hid
  rw [hfind] at hnone
  cases hnone

theorem heldBack_iff {s : Scheduler D} {before : List CollectiveRequestId}
    {id : CollectiveRequestId} {rec : Record D} (hfind : s.records.find? id = some rec)
    (hbefore : ∀ id' ∈ before, ∃ rec', s.records.find? id' = some rec') :
    s.HeldBack before id ↔ s.PassedOver before rec := by
  have hfound : ∀ id' ∈ id :: before, ∃ rec', s.records.find? id' = some rec' := by
    intro id' hid'
    rcases List.mem_cons.mp hid' with rfl | hid'
    · exact ⟨rec, hfind⟩
    · exact hbefore id' hid'
  unfold HeldBack
  rw [or_iff_right (all_found_of_mem hfound)]
  simp only [hfind, Option.some.injEq, exists_eq_left']

/-- A bound that is reached holds every request back. -/
theorem heldBack_of_bound {s : Scheduler D} {before : List CollectiveRequestId}
    (h : ∀ rec : Record D, s.PassedOver before rec) (id : CollectiveRequestId) :
    s.HeldBack before id := by
  cases hfind : s.records.find? id with
  | none => exact .inl ⟨id, List.mem_cons_self, hfind⟩
  | some rec => exact .inr ⟨rec, hfind, h rec⟩

/-- A failed comparison with the selected requests names one of them. -/
theorem incompatible_cases {s : Scheduler D} {rec : Record D} {before : List CollectiveRequestId}
    (h : s.compatibleWithAll rec before = false) :
    ∃ id ∈ before, s.records.find? id = none ∨
      ∃ other, s.records.find? id = some other ∧ s.canOverlap rec other = false := by
  obtain ⟨id, hid, hfalse⟩ := List.all_eq_false.mp h
  refine ⟨id, hid, ?_⟩
  cases hfind : s.records.find? id with
  | none => exact .inl rfl
  | some other =>
      simp only [hfind, Bool.not_eq_true] at hfalse
      exact .inr ⟨other, rfl, hfalse⟩

/-- The candidate passes the checks of the loop. -/
structure Passes (s : Scheduler D) (before : List CollectiveRequestId) (rec : Record D) :
    Prop where
  slot : s.activeGrants + before.length < s.policy.bounds.maxActiveGrants.toNat
  first : ¬(rec.request.overlap = .exclusive ∧ before ≠ [])
  clear : s.activeConflicts rec = 0
  compatible : s.compatibleWithAll rec before = true
  group : before.length < s.policy.bounds.maxOverlapGroup.toNat

/-- A candidate that passed the checks of the loop has no reason against it. -/
theorem Passes.not_heldBack {s : Scheduler D} {before : List CollectiveRequestId}
    {id : CollectiveRequestId} {rec : Record D} (h : s.Passes before rec)
    (hfind : s.records.find? id = some rec) : ¬s.HeldBack before id := by
  have hpair : ∀ id' ∈ before, ∃ other, s.records.find? id' = some other ∧
      s.canOverlap rec other = true := by
    intro id' hid'
    have hone := List.all_eq_true.mp h.compatible id' hid'
    cases hother : s.records.find? id' with
    | none =>
        rw [hother] at hone
        cases hone
    | some other =>
        rw [hother] at hone
        exact ⟨other, rfl, hone⟩
  rw [heldBack_iff hfind fun id' hid' => (hpair id' hid').imp fun _ h => h.1]
  intro hpassed
  cases hpassed with
  | activeConflict hconflict => exact absurd h.clear hconflict.ne'
  | @incompatible id' other hid' hother hrefused =>
      obtain ⟨other', hother', hoverlap⟩ := hpair id' hid'
      rw [hother] at hother'
      cases hother'
      rw [hoverlap] at hrefused
      cases hrefused
  | notFirst hexclusive hbefore => exact h.first ⟨hexclusive, hbefore⟩
  | @afterExclusive id' other hid' hother hexclusive =>
      obtain ⟨other', hother', hoverlap⟩ := hpair id' hid'
      rw [hother] at hother'
      cases hother'
      exact (canOverlap_checks hoverlap).2.1.2 hexclusive
  | noSlot hfull => exact absurd hfull (Nat.not_le_of_lt h.slot)
  | groupFull hfull => exact absurd hfull (Nat.not_le_of_lt h.group)

/-- What stands behind each verdict. -/
inductive Judged (s : Scheduler D) (before : List CollectiveRequestId)
    (id : CollectiveRequestId) : Verdict → Prop
  | missing (hfind : s.records.find? id = none) : Judged s before id .skip
  | skipped {rec : Record D} (hfind : s.records.find? id = some rec)
      (h : (rec.request.overlap = .exclusive ∧ before ≠ []) ∨ 0 < s.activeConflicts rec ∨
        s.compatibleWithAll rec before = false) : Judged s before id .skip
  | bounded (h : s.policy.bounds.maxActiveGrants.toNat ≤ s.activeGrants + before.length ∨
      s.policy.bounds.maxOverlapGroup.toNat ≤ before.length) : Judged s before id .stop
  | last {rec : Record D} (hfind : s.records.find? id = some rec) (h : s.Passes before rec)
      (hexclusive : rec.request.overlap = .exclusive) : Judged s before id .last
  | taken {rec : Record D} (hfind : s.records.find? id = some rec) (h : s.Passes before rec) :
      Judged s before id .take

theorem judged (s : Scheduler D) (before : List CollectiveRequestId)
    (id : CollectiveRequestId) : s.Judged before id (s.verdict before id) := by
  unfold verdict
  cases hfind : s.records.find? id with
  | none => exact .missing hfind
  | some rec =>
      simp only
      -- the guards in the order of the loop
      by_cases hslot : s.activeGrants + before.length ≥ s.policy.bounds.maxActiveGrants.toNat
      · rw [if_pos hslot]
        exact .bounded (.inl hslot)
      rw [if_neg hslot]
      by_cases hfirst : rec.request.overlap = .exclusive ∧ before ≠ []
      · rw [if_pos hfirst]
        exact .skipped hfind (.inl hfirst)
      rw [if_neg hfirst]
      by_cases hconflict : s.activeConflicts rec > 0
      · rw [if_pos hconflict]
        exact .skipped hfind (.inr (.inl hconflict))
      rw [if_neg hconflict]
      cases hcompat : s.compatibleWithAll rec before with
      | false =>
          rw [if_pos Bool.not_false]
          exact .skipped hfind (.inr (.inr hcompat))
      | true =>
          rw [if_neg (by decide)]
          by_cases hgroup : before.length ≥ s.policy.bounds.maxOverlapGroup.toNat
          · rw [if_pos hgroup]
            exact .bounded (.inr hgroup)
          rw [if_neg hgroup]
          have hpasses : s.Passes before rec := ⟨Nat.lt_of_not_le hslot, hfirst,
            Nat.eq_zero_of_not_pos hconflict, hcompat, Nat.lt_of_not_le hgroup⟩
          by_cases hexclusive : rec.request.overlap = .exclusive
          · rw [if_pos hexclusive]
            exact .last hfind hpasses hexclusive
          · rw [if_neg hexclusive]
            exact .taken hfind hpasses

/-- The reasons explain the verdicts. -/
theorem verdict_explained (s : Scheduler D) : Explains s.verdict s.HeldBack := by
  constructor
  case skip =>
    intro before id h
    have hjudged := s.judged before id
    rw [h] at hjudged
    cases hjudged with
    | missing hfind => exact .inl ⟨id, List.mem_cons_self, hfind⟩
    | @skipped rec hfind hreason =>
        rcases hreason with hfirst | hconflict | hcompat
        · exact .inr ⟨rec, hfind, .notFirst hfirst.1 hfirst.2⟩
        · exact .inr ⟨rec, hfind, .activeConflict hconflict⟩
        · obtain ⟨id', hid', hnone | ⟨other, hother, hoverlap⟩⟩ := incompatible_cases hcompat
          · exact .inl ⟨id', List.mem_cons_of_mem _ hid', hnone⟩
          · exact .inr ⟨rec, hfind, .incompatible hid' hother hoverlap⟩
  case stop =>
    intro before id h
    have hjudged := s.judged before id
    rw [h] at hjudged
    cases hjudged with
    | bounded hbound =>
        rcases hbound with hslot | hgroup
        · exact heldBack_of_bound fun _ => .noSlot hslot
        · exact heldBack_of_bound fun _ => .groupFull hgroup
  case take =>
    intro before id h
    have hjudged := s.judged before id
    rw [h] at hjudged
    cases hjudged with
    | taken hfind hpasses => exact hpasses.not_heldBack hfind
  case last =>
    intro before id h
    have hjudged := s.judged before id
    rw [h] at hjudged
    cases hjudged with
    | last hfind hpasses hexclusive =>
        refine ⟨hpasses.not_heldBack hfind, heldBack_of_bound fun _ => ?_⟩
        exact .afterExclusive (List.mem_append_right _ (List.mem_singleton_self id)) hfind
          hexclusive

/-! ## The selection of a round -/

/-- Every candidate has a record in the state the round selects from. -/
theorem find?_of_mem_ranking {s : Scheduler D} (hkeyed : s.Keyed)
    {recordOrder : List CollectiveRequestId} {id : CollectiveRequestId}
    (h : id ∈ s.ranking recordOrder) : ∃ rec, s.refreshed.records.find? id = some rec := by
  obtain ⟨rec, hfind, -⟩ := (mem_ranking_iff hkeyed).mp h
  exact ⟨_, by rw [find?_refreshed, hfind, Option.map_some]⟩

theorem nodup_ranking {s : Scheduler D} (hkeyed : s.Keyed)
    (recordOrder : List CollectiveRequestId) : (s.ranking recordOrder).Nodup :=
  (ranking_perm hkeyed recordOrder).nodup_iff.mpr (nodup_candidates hkeyed recordOrder)

theorem selection_eq_greedy (s : Scheduler D) (recordOrder : List CollectiveRequestId) :
    s.selection recordOrder = greedy s.refreshed.verdict (s.ranking recordOrder) [] :=
  selectLoop_eq_greedy _ _ _

/-- A candidate is selected unless the requests selected before it hold it back. -/
theorem mem_selection_iff {s : Scheduler D} (hkeyed : s.Keyed)
    {recordOrder early late : List CollectiveRequestId} {id : CollectiveRequestId}
    (hsplit : s.ranking recordOrder = early ++ id :: late) :
    id ∈ s.selection recordOrder ↔
      ¬s.refreshed.HeldBack (greedy s.refreshed.verdict early []) id := by
  have hnodup := nodup_ranking hkeyed recordOrder
  rw [selection_eq_greedy, hsplit]
  rw [hsplit] at hnodup
  exact Greedy.mem_iff (verdict_explained _) hnodup

/-- A candidate is passed over exactly for one of the six reasons. -/
theorem passedOver_iff {s : Scheduler D} (hkeyed : s.Keyed)
    {recordOrder early late : List CollectiveRequestId} {id : CollectiveRequestId}
    {rec : Record D} (hsplit : s.ranking recordOrder = early ++ id :: late)
    (hfind : s.refreshed.records.find? id = some rec) :
    id ∉ s.selection recordOrder ↔
      s.refreshed.PassedOver (early.filter (· ∈ s.selection recordOrder)) rec := by
  have hnodup := nodup_ranking hkeyed recordOrder
  rw [hsplit] at hnodup
  have hbefore : greedy s.refreshed.verdict early [] =
      early.filter (· ∈ s.selection recordOrder) := by
    rw [Greedy.eq_filter (verdict_explained s.refreshed) hnodup, selection_eq_greedy, hsplit]
  rw [mem_selection_iff hkeyed hsplit, not_not, hbefore]
  refine heldBack_iff hfind fun id' hid' => ?_
  have hmem : id' ∈ s.ranking recordOrder := by
    rw [hsplit]
    exact List.mem_append_left _ (List.mem_of_mem_filter hid')
  exact find?_of_mem_ranking hkeyed hmem

end Scheduler

end CollectiveScheduler
