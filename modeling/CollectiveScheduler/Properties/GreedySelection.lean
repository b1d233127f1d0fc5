/-
  Properties/GreedySelection.lean --- which candidates a round selects, and why not the
  others.

  The round walks the candidates in rank order.  A candidate is selected unless a request
  selected before it, an active grant or one of the two bounds stands against it; the six
  reasons of `PassedOver` are all there is, and each of them keeps a candidate out.
-/
import CollectiveScheduler.Scheduler.Admission
import CollectiveScheduler.System.Scenario
import CollectiveScheduler.System.World

set_option autoImplicit false

namespace CollectiveScheduler

open Foundation

variable {D : Type} [Double D]

/-- The requests among `early` that a decision selected. -/
def ScheduleDecision.selectedAmong {D : Type} (dec : ScheduleDecision D)
    (early : List CollectiveRequestId) : List CollectiveRequestId :=
  early.filter (· ∈ dec.selected)

/-- The first candidate without active conflicts is selected where both bounds leave
room. -/
theorem Scheduler.mem_selection_of_first_clear {s : Scheduler D} (hkeyed : s.Keyed)
    {recordOrder early late : List CollectiveRequestId} {id : CollectiveRequestId}
    (hsplit : s.ranking recordOrder = early ++ id :: late)
    (hearly : ∀ id' ∈ early, ¬s.refreshed.ClearOfActive id')
    (hclear : s.refreshed.ClearOfActive id)
    (hslot : s.activeGrants < s.policy.bounds.maxActiveGrants.toNat)
    (hgroup : 0 < s.policy.bounds.maxOverlapGroup.toNat) : id ∈ s.selection recordOrder := by
  obtain ⟨rec, hfind, hnone⟩ := hclear
  -- a selected request is clear of the active grants, so none was selected before
  have hbefore : early.filter (· ∈ s.selection recordOrder) = [] := by
    refine List.filter_eq_nil_iff.mpr fun id' hid' => ?_
    rw [decide_eq_true_eq]
    exact fun hmem => hearly id' hid' (s.selection_clear hmem)
  by_contra hnot
  have hpassed := (passedOver_iff hkeyed hsplit hfind).mp hnot
  rw [hbefore] at hpassed
  cases hpassed with
  | activeConflict h => exact absurd hnone (Nat.ne_of_gt h)
  | incompatible hid _ _ => exact absurd hid List.not_mem_nil
  | notFirst _ h => exact absurd rfl h
  | afterExclusive hid _ _ => exact absurd hid List.not_mem_nil
  | noSlot h => exact absurd h (Nat.not_le_of_lt hslot)
  | groupFull h => exact absurd h (Nat.not_le_of_lt hgroup)

/-- In every reachable state, what a round selects is a subsequence of the candidates in
rank order, the fallback is the rest in rank order, a candidate is left out exactly for one
of the six reasons, and the first candidate without active conflicts is selected where both
bounds leave room. -/
theorem greedy_selection_is_justified (s : Scheduler D) (hreached : s.Reached)
    (recordOrder : List CollectiveRequestId) (grantOrder : List CollectiveGrantId)
    (s' : Scheduler D) (dec : ScheduleDecision D)
    (hdecided : s.schedule recordOrder grantOrder = (s', .ok dec)) :
    (s.ranking recordOrder).Perm (s.candidates recordOrder) ∧
    dec.selected.Sublist (s.ranking recordOrder) ∧
    dec.fallback = (s.ranking recordOrder).filter (· ∉ dec.selected) ∧
    ∀ early id late, s.ranking recordOrder = early ++ id :: late →
      ∃ rec, s.refreshed.records.find? id = some rec ∧
        (id ∉ dec.selected ↔ s.refreshed.PassedOver (dec.selectedAmong early) rec) ∧
        (s.refreshed.activeConflicts rec = 0 →
          (∀ id' ∈ early, ¬s.refreshed.ClearOfActive id') →
          s.activeGrants < s.policy.bounds.maxActiveGrants.toNat →
          0 < s.policy.bounds.maxOverlapGroup.toNat → id ∈ dec.selected) := by
  have hkeyed := hreached.keyed
  have hselected := Scheduler.schedule_selected hdecided
  refine ⟨Scheduler.ranking_perm hkeyed recordOrder, ?_, Scheduler.schedule_fallback hdecided, ?_⟩
  · rw [hselected]
    exact s.selection_sublist recordOrder
  · intro early id late hsplit
    have hmem : id ∈ s.ranking recordOrder := by
      rw [hsplit]
      exact List.mem_append_right _ List.mem_cons_self
    obtain ⟨rec, hfind⟩ := Scheduler.find?_of_mem_ranking hkeyed hmem
    simp only [ScheduleDecision.selectedAmong, hselected]
    refine ⟨rec, hfind, Scheduler.passedOver_iff hkeyed hsplit hfind, ?_⟩
    intro hnone hearly hslot hgroup
    exact Scheduler.mem_selection_of_first_clear hkeyed hsplit hearly ⟨rec, hfind, hnone⟩ hslot
      hgroup

/-- Of two requests that meet in a participant the one ranked first is selected, and the
other is left out for a reason. -/
theorem greedy_selection_is_justified_conflicting :
    ∃ s' dec, (World.afterCalls Scenario.conflictingRequests).schedule [] [] = (s', .ok dec) ∧
      dec.selected = [1] ∧ dec.fallback = [2] ∧
      ∃ rec, (World.afterCalls Scenario.conflictingRequests).refreshed.records.find? 2 = some rec ∧
        (World.afterCalls Scenario.conflictingRequests).refreshed.PassedOver
          (dec.selectedAmong [1]) rec := by
  obtain ⟨s', dec, hround, hids⟩ := Scenario.exists_of_selects
    (World.afterCalls Scenario.conflictingRequests) [1] (by decide +kernel)
  have hranking : (World.afterCalls Scenario.conflictingRequests).ranking [] = [1, 2] := by
    decide +kernel
  obtain ⟨-, -, hfallback, hreasons⟩ := greedy_selection_is_justified _
    (World.reached_afterCalls _) [] [] s' dec hround
  obtain ⟨rec, hfind, hiff, -⟩ := hreasons [1] 2 [] hranking
  refine ⟨s', dec, hround, hids, ?_, rec, hfind, hiff.mp ?_⟩
  · rw [hfallback, hids, hranking]
    decide
  · rw [hids]
    decide

end CollectiveScheduler
