/-
  Scheduler/Groups.lean --- the groups a round can select.

  A group is a list of requests that pass the checks of the selection loop one after the
  other.  What a round selects is a group, and the loop selects every group whose members
  it meets first.  So what all groups of a state have, every selection has; and where some
  group lacks it, the loop breaks it for some order of the same candidates.
-/
import Mathlib.Data.List.Permutation
import Mathlib.Data.List.Sublists
import CollectiveScheduler.Scheduler.Admission

set_option autoImplicit false

namespace CollectiveScheduler

open Foundation

namespace Scheduler

variable {D : Type} [Double D] {s : Scheduler D} {ids recordOrder : List CollectiveRequestId}
  {P : List CollectiveRequestId → Prop}

instance (s : Scheduler D) (earlier later : CollectiveRequestId) :
    Decidable (s.Overlaps earlier later) :=
  decidable_of_iff (∀ rec ∈ s.records.find? earlier, ∀ rec' ∈ s.records.find? later,
      s.canOverlap rec' rec = true)
    ⟨fun h rec rec' hfind hfind' => h rec hfind rec' hfind',
      fun h rec hfind rec' hfind' => h rec rec' hfind hfind'⟩

/-- Requests that one round may select together, in the order in which it meets them. -/
structure MayRunTogether (s : Scheduler D) (ids : List CollectiveRequestId) : Prop where
  distinct : ids.Nodup
  selectable : ∀ id ∈ ids, (s.records.find? id).any s.selectable = true
  overlaps : ids.Pairwise s.refreshed.Overlaps
  group : ids.length ≤ s.policy.bounds.maxOverlapGroup.toNat
  slots : s.activeGrants + ids.length ≤ s.policy.bounds.maxActiveGrants.toNat

instance (s : Scheduler D) (ids : List CollectiveRequestId) : Decidable (s.MayRunTogether ids) :=
  decidable_of_iff (ids.Nodup ∧ (∀ id ∈ ids, (s.records.find? id).any s.selectable = true) ∧
      ids.Pairwise s.refreshed.Overlaps ∧ ids.length ≤ s.policy.bounds.maxOverlapGroup.toNat ∧
      s.activeGrants + ids.length ≤ s.policy.bounds.maxActiveGrants.toNat)
    ⟨fun ⟨h₁, h₂, h₃, h₄, h₅⟩ => ⟨h₁, h₂, h₃, h₄, h₅⟩,
      fun h => ⟨h.distinct, h.selectable, h.overlaps, h.group, h.slots⟩⟩

/-- All requests that may run together have a property. -/
def EveryGroup (s : Scheduler D) (P : List CollectiveRequestId → Prop) : Prop :=
  ∀ ids, s.MayRunTogether ids → P ids

theorem MayRunTogether.stored (h : s.MayRunTogether ids) {id : CollectiveRequestId}
    (hid : id ∈ ids) : ∃ rec, s.records.find? id = some rec ∧ s.selectable rec = true :=
  (Option.any_eq_true _ _).mp (h.selectable id hid)

/-- There are finitely many groups to look at. -/
theorem everyGroup_iff : s.EveryGroup P ↔
    ∀ ids ∈ s.records.keys.sublists.flatMap List.permutations', s.MayRunTogether ids → P ids := by
  refine ⟨fun h ids _ => h ids, fun h ids htogether => h ids ?_ htogether⟩
  have hkeys : ids ⊆ s.records.keys := fun id hid =>
    FinMap.mem_keys_iff.mpr ((htogether.stored hid).imp fun _ h => h.1)
  obtain ⟨group, hperm, hsub⟩ := List.subperm_of_subset htogether.distinct hkeys
  exact List.mem_flatMap.mpr ⟨group, List.mem_sublists.mpr hsub,
    List.mem_permutations'.mpr hperm.symm⟩

instance [DecidablePred P] : Decidable (s.EveryGroup P) := decidable_of_iff _ everyGroup_iff.symm

/-! ## What a round selects -/

theorem selection_mayRunTogether (hkeyed : s.Keyed) (hne : s.selection recordOrder ≠ []) :
    s.MayRunTogether (s.selection recordOrder) where
  distinct := nodup_selection hkeyed recordOrder
  selectable id hid := by
    obtain ⟨rec, hfind, -⟩ := selection_eligible hkeyed hid
    rw [hfind]
    exact selectable_of_selected hkeyed hid hfind
  overlaps := s.selection_overlaps recordOrder
  group := s.length_selection_le_group recordOrder
  slots := s.selection_slots hne

/-- What all groups have, the selection of a round has. -/
theorem EveryGroup.selection (h : s.EveryGroup P) (hkeyed : s.Keyed) (hnil : P [])
    (recordOrder : List CollectiveRequestId) : P (s.selection recordOrder) := by
  by_cases hselection : s.selection recordOrder = []
  · rw [hselection]
    exact hnil
  · exact h _ (selection_mayRunTogether hkeyed hselection)

/-! ## What the loop would select -/

/-- Each member of a group passes the checks of the loop after those before it. -/
theorem MayRunTogether.passes (h : s.MayRunTogether ids) {early late : List CollectiveRequestId}
    {id : CollectiveRequestId} (hsplit : ids = early ++ id :: late) :
    ∃ rec, s.refreshed.records.find? id = some rec ∧ s.refreshed.Passes early rec := by
  subst hsplit
  obtain ⟨rec, hfind, hselectable⟩ := h.stored (List.mem_append_right early List.mem_cons_self)
  obtain ⟨-, hclear, -⟩ := selectable_iff.mp hselectable
  have hrec : s.refreshed.records.find? id = some (s.refreshRecord rec).1 := by
    rw [find?_refreshed, hfind, Option.map_some]
  -- every earlier member has a record, which the candidate may overlap
  have hearly : ∀ id' ∈ early, ∃ other, s.refreshed.records.find? id' = some other ∧
      s.refreshed.canOverlap (s.refreshRecord rec).1 other = true := by
    intro id' hid'
    obtain ⟨other, hother, -⟩ := h.stored (List.mem_append_left _ hid')
    have hother' : s.refreshed.records.find? id' = some (s.refreshRecord other).1 := by
      rw [find?_refreshed, hother, Option.map_some]
    exact ⟨_, hother', (List.pairwise_append.mp h.overlaps).2.2 id' hid' id List.mem_cons_self
      _ _ hother' hrec⟩
  have hgroup := h.group
  have hslots := h.slots
  rw [List.length_append, List.length_cons] at hgroup hslots
  have hslot : s.activeGrants + early.length < s.policy.bounds.maxActiveGrants.toNat := by omega
  have hfits : early.length < s.policy.bounds.maxOverlapGroup.toNat := by omega
  refine ⟨_, hrec, hslot, ?_, hclear, List.all_eq_true.mpr fun id' hid' => ?_, hfits⟩
  · rintro ⟨hexclusive, hne⟩
    obtain ⟨id', hid'⟩ := List.exists_mem_of_ne_nil _ hne
    obtain ⟨other, -, hoverlap⟩ := hearly id' hid'
    exact (canOverlap_checks hoverlap).2.1.1 hexclusive
  · obtain ⟨other, hother, hoverlap⟩ := hearly id' hid'
    rw [hother]
    exact hoverlap

/-- The loop selects a group that it meets first. -/
theorem MayRunTogether.selectLoop_append (h : s.MayRunTogether ids)
    (rest : List CollectiveRequestId) : ids <+: s.refreshed.selectLoop (ids ++ rest) [] := by
  have hall : greedy s.refreshed.verdict ids [] = ids := by
    refine Greedy.eq_self_of_not_barred (verdict_explained _) ids fun early id late hsplit => ?_
    obtain ⟨rec, hfind, hpasses⟩ := h.passes hsplit
    exact hpasses.not_heldBack hfind
  rw [selectLoop_eq_greedy, Greedy.append (verdict_explained _), hall]
  exact Greedy.prefix_self rest ids

/-- Some order of the candidates lets the selection loop pick requests without the
property. -/
def BrokenInSomeOrder (s : Scheduler D) (P : List CollectiveRequestId → Prop) : Prop :=
  ∃ order, order.Perm (s.candidates []) ∧ ¬P (s.refreshed.selectLoop order [])

/-- A property that a front inherits breaks for some order of the candidates as soon as one
group lacks it. -/
theorem brokenInSomeOrder (hkeyed : s.Keyed) (hfront : ∀ ids ids', ids <+: ids' → P ids' → P ids)
    (h : ¬s.EveryGroup P) : s.BrokenInSomeOrder P := by
  obtain ⟨ids, htogether, hnot⟩ : ∃ ids, s.MayRunTogether ids ∧ ¬P ids := by
    simpa only [EveryGroup, not_forall, exists_prop] using h
  have hsubset : ids ⊆ s.candidates [] := fun id hid => by
    obtain ⟨rec, hfind, hselectable⟩ := htogether.stored hid
    exact (mem_candidates_iff hkeyed).mpr ⟨rec, hfind, (selectable_iff.mp hselectable).1⟩
  obtain ⟨front, hfrontPerm, hsub⟩ := List.subperm_of_subset htogether.distinct hsubset
  obtain ⟨rest, hperm⟩ := hsub.exists_perm_append
  exact ⟨ids ++ rest, (hperm.trans (hfrontPerm.append_right rest)).symm, fun hall =>
    hnot (hfront _ _ (htogether.selectLoop_append rest) hall)⟩

end Scheduler

end CollectiveScheduler
