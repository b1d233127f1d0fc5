/-
  Foundation/SortUnique.lean --- sorted duplicate-free lists and their
  intersection test.

  `sortUnique` is the sort-then-unique idiom, `setIntersect` the two-pointer
  walk over two such lists.  The walk only answers correctly on ordered input;
  `setIntersect_iff` states what it decides there.
-/
import Mathlib.Data.List.Sort
import Mathlib.Data.List.Destutter

set_option autoImplicit false

namespace CollectiveScheduler.Foundation

variable {α : Type} [LinearOrder α]

/-- Sort, then drop each element equal to its predecessor. -/
def sortUnique (l : List α) : List α :=
  (l.insertionSort (· ≤ ·)).destutter (· ≠ ·)

/-- Walk two ordered lists in step until they meet in an equal element. -/
def setIntersect : List α → List α → Bool
  | [], _ => false
  | _ :: _, [] => false
  | x :: xs, y :: ys =>
      if x < y then setIntersect xs (y :: ys)
      else if y < x then setIntersect (x :: xs) ys
      else true
termination_by a b => a.length + b.length

/-! ## Normalisation -/

theorem mem_destutter'_ne {a b : α} {l : List α} :
    a ∈ l.destutter' (· ≠ ·) b ↔ a = b ∨ a ∈ l := by
  induction l generalizing b with
  | nil => simp
  | cons c l ih =>
      by_cases hbc : b = c
      · subst hbc
        rw [List.destutter'_cons_neg _ (by simp), ih]
        simp
      · rw [List.destutter'_cons_pos _ hbc, List.mem_cons, ih]
        simp

@[simp] theorem mem_sortUnique {a : α} {l : List α} :
    a ∈ sortUnique l ↔ a ∈ l := by
  unfold sortUnique
  rw [← List.mem_insertionSort (· ≤ ·) (l := l)]
  cases l.insertionSort (· ≤ ·) with
  | nil => simp
  | cons b l => rw [List.destutter_cons', mem_destutter'_ne, List.mem_cons]

/-- Normalised lists are strictly increasing. -/
theorem sortUnique_ordered (l : List α) : (sortUnique l).Pairwise (· < ·) := by
  have hle : (sortUnique l).Pairwise (· ≤ ·) :=
    (List.pairwise_insertionSort (· ≤ ·) l).sublist (List.destutter_sublist _ _)
  have hne : (sortUnique l).IsChain (· ≠ ·) := List.isChain_destutter _ _
  have hlt : (sortUnique l).IsChain (· < ·) := by
    have hboth := hle.isChain
    generalize sortUnique l = l' at hne hboth
    induction hne with
    | nil => exact .nil
    | singleton a => exact .singleton a
    | cons_cons hab _ ih =>
        obtain ⟨hle₁, hrest⟩ := List.isChain_cons_cons.mp hboth
        exact .cons_cons (lt_of_le_of_ne hle₁ hab) (ih hrest)
  exact hlt.pairwise

theorem nodup_sortUnique (l : List α) : (sortUnique l).Nodup :=
  (sortUnique_ordered l).imp ne_of_lt

/-- Normalisation keeps the length exactly when there was nothing to drop. -/
theorem length_sortUnique_eq_iff (l : List α) :
    (sortUnique l).length = l.length ↔ l.Nodup := by
  constructor
  · intro hlen
    have hsub : (sortUnique l).Sublist (l.insertionSort (· ≤ ·)) :=
      List.destutter_sublist _ _
    have heq : sortUnique l = l.insertionSort (· ≤ ·) :=
      hsub.eq_of_length (by rw [hlen, List.length_insertionSort])
    exact (List.perm_insertionSort (· ≤ ·) l).nodup_iff.mp (heq ▸ nodup_sortUnique l)
  · intro hnodup
    refine List.Perm.length_eq ((List.perm_ext_iff_of_nodup (nodup_sortUnique l) hnodup).mpr
      fun a => mem_sortUnique)

/-- Normalisation only sees which elements there are. -/
theorem sortUnique_congr {l l' : List α} (h : ∀ a, a ∈ l ↔ a ∈ l') :
    sortUnique l = sortUnique l' := by
  refine List.Subset.antisymm_of_pairwise (sortUnique_ordered l) (sortUnique_ordered l') ?_ ?_
  · intro a ha
    exact mem_sortUnique.mpr ((h a).mp (mem_sortUnique.mp ha))
  · intro a ha
    exact mem_sortUnique.mpr ((h a).mpr (mem_sortUnique.mp ha))

/-! ## Intersection -/

/-- The walk does not tell its lists apart, whatever order they are in. -/
theorem setIntersect_comm (a b : List α) : setIntersect a b = setIntersect b a := by
  fun_induction setIntersect a b with
  | case1 b =>
      cases b with
      | nil => rw [setIntersect]
      | cons y ys => rw [setIntersect]
  | case2 x xs => rw [setIntersect]
  | case3 x xs y ys hlt ih =>
      rw [ih, setIntersect.eq_3, if_neg (lt_asymm hlt), if_pos hlt]
  | case4 x xs y ys hlt hgt ih =>
      rw [ih, setIntersect.eq_3, if_pos hgt]
  | case5 x xs y ys hlt hgt =>
      rw [setIntersect.eq_3, if_neg hgt, if_neg hlt]

/-- On ordered lists the two-pointer walk decides whether they share an
element. -/
theorem setIntersect_iff {a b : List α} (ha : a.Pairwise (· < ·)) (hb : b.Pairwise (· < ·)) :
    setIntersect a b = true ↔ ∃ x, x ∈ a ∧ x ∈ b := by
  fun_induction setIntersect a b with
  | case1 b => simp
  | case2 x xs => simp
  | case3 x xs y ys hlt ih =>
      rw [ih (List.pairwise_cons.mp ha).2 hb]
      -- the head of the left list is below everything on the right
      have hx : x ∉ y :: ys := by
        intro hmem
        rcases List.mem_cons.mp hmem with rfl | hmem
        · exact lt_irrefl _ hlt
        · exact lt_asymm hlt ((List.pairwise_cons.mp hb).1 x hmem)
      constructor
      · rintro ⟨z, hz, hz'⟩
        exact ⟨z, List.mem_cons_of_mem _ hz, hz'⟩
      · rintro ⟨z, hz, hz'⟩
        rcases List.mem_cons.mp hz with rfl | hz
        · exact absurd hz' hx
        · exact ⟨z, hz, hz'⟩
  | case4 x xs y ys hlt hgt ih =>
      rw [ih ha (List.pairwise_cons.mp hb).2]
      have hy : y ∉ x :: xs := by
        intro hmem
        rcases List.mem_cons.mp hmem with rfl | hmem
        · exact lt_irrefl _ hgt
        · exact lt_asymm hgt ((List.pairwise_cons.mp ha).1 y hmem)
      constructor
      · rintro ⟨z, hz, hz'⟩
        exact ⟨z, hz, List.mem_cons_of_mem _ hz'⟩
      · rintro ⟨z, hz, hz'⟩
        rcases List.mem_cons.mp hz' with rfl | hz'
        · exact absurd hz hy
        · exact ⟨z, hz, hz'⟩
  | case5 x xs y ys hlt hgt =>
      have heq : x = y := le_antisymm (not_lt.mp hgt) (not_lt.mp hlt)
      simp only [true_iff]
      exact ⟨x, List.mem_cons_self, heq ▸ List.mem_cons_self⟩

/-- On normalised lists the walk decides whether the originals share an
element. -/
theorem setIntersect_sortUnique_iff {a b : List α} :
    setIntersect (sortUnique a) (sortUnique b) = true ↔ ∃ x, x ∈ a ∧ x ∈ b := by
  rw [setIntersect_iff (sortUnique_ordered a) (sortUnique_ordered b)]
  simp

instance decidableDisjoint (a b : List α) : Decidable (a.Disjoint b) :=
  decidable_of_iff (∀ x ∈ a, x ∉ b) ⟨fun h _ ha hb => h _ ha hb, fun h _ ha hb => h ha hb⟩

end CollectiveScheduler.Foundation
