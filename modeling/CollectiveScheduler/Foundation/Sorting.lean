/-
  Foundation/Sorting.lean --- sorting by a comparator, and sorted lists side by side.

  A comparator of floating-point keys is an order only where no key is a NaN, so it is asked
  to be one on the elements of the list at hand and not on the whole type.
-/
import Mathlib.Data.List.Sort

set_option autoImplicit false

namespace CollectiveScheduler.Foundation

variable {α : Type}

/-- The comparator orders the elements of a list strictly. -/
structure StrictOrderOn (before : α → α → Bool) (l : List α) : Prop where
  asymm : ∀ a ∈ l, ∀ b ∈ l, before a b = true → before b a = false
  trans : ∀ a ∈ l, ∀ b ∈ l, ∀ c ∈ l,
    before a b = true → before b c = true → before a c = true
  total : ∀ a ∈ l, ∀ b ∈ l, a ≠ b → before a b = true ∨ before b a = true

namespace StrictOrderOn

variable {before : α → α → Bool} {l l' : List α}

theorem perm (h : StrictOrderOn before l) (hperm : l.Perm l') : StrictOrderOn before l' := by
  constructor
  case asymm =>
    intro a ha b hb
    exact h.asymm a (hperm.mem_iff.mpr ha) b (hperm.mem_iff.mpr hb)
  case trans =>
    intro a ha b hb c hc
    exact h.trans a (hperm.mem_iff.mpr ha) b (hperm.mem_iff.mpr hb) c (hperm.mem_iff.mpr hc)
  case total =>
    intro a ha b hb
    exact h.total a (hperm.mem_iff.mpr ha) b (hperm.mem_iff.mpr hb)

/-- A comparator that is a strict order on the images of the elements. -/
theorem of_map {β : Type} {before' : β → β → Bool} {f : α → β}
    (h : StrictOrderOn before' (l.map f))
    (hbefore : ∀ a ∈ l, ∀ b ∈ l, before' (f a) (f b) = before a b)
    (hinj : ∀ a ∈ l, ∀ b ∈ l, f a = f b → a = b) : StrictOrderOn before l := by
  constructor
  case asymm =>
    intro a ha b hb
    rw [← hbefore a ha b hb, ← hbefore b hb a ha]
    exact h.asymm _ (List.mem_map_of_mem ha) _ (List.mem_map_of_mem hb)
  case trans =>
    intro a ha b hb c hc
    rw [← hbefore a ha b hb, ← hbefore b hb c hc, ← hbefore a ha c hc]
    exact h.trans _ (List.mem_map_of_mem ha) _ (List.mem_map_of_mem hb) _ (List.mem_map_of_mem hc)
  case total =>
    intro a ha b hb hne
    rw [← hbefore a ha b hb, ← hbefore b hb a ha]
    exact h.total _ (List.mem_map_of_mem ha) _ (List.mem_map_of_mem hb)
      fun heq => hne (hinj a ha b hb heq)

/-- Elements that the comparator leaves in either order are the same. -/
theorem eq_of_not_before (h : StrictOrderOn before l) {a b : α} (ha : a ∈ l) (hb : b ∈ l)
    (hba : before b a = false) (hab : before a b = false) : a = b := by
  by_contra hne
  rcases h.total a ha b hb hne with hlt | hlt
  · rw [hab] at hlt
    cases hlt
  · rw [hba] at hlt
    cases hlt

/-- The stable sort by the comparator sorts. -/
theorem pairwise_insertionSort (h : StrictOrderOn before l) :
    (l.insertionSort (fun a b => before b a = false)).Pairwise
      (fun a b => before b a = false) := by
  -- on the members the comparator is an order, so the sort is one of the members
  let onMembers : {a // a ∈ l} → {a // a ∈ l} → Prop := fun a b => before b.1 a.1 = false
  have htotal : Std.Total onMembers := ⟨fun a b => by
    cases hlt : before b.1 a.1 with
    | false => exact .inl hlt
    | true => exact .inr (h.asymm b.1 b.2 a.1 a.2 hlt)⟩
  have htrans : IsTrans {a // a ∈ l} onMembers := ⟨fun a b c hab hbc => by
    by_contra hca
    rw [Bool.not_eq_false] at hca
    by_cases heq : a.1 = b.1
    · rw [heq, hbc] at hca
      cases hca
    · have hlt : before a.1 b.1 = true :=
        (h.total a.1 a.2 b.1 b.2 heq).resolve_right (by rw [hab]; decide)
      have hcb := h.trans c.1 c.2 a.1 a.2 b.1 b.2 hca hlt
      rw [hbc] at hcb
      cases hcb⟩
  have hmap := List.map_insertionSort (r := onMembers) (fun a b : α => before b a = false)
    Subtype.val l.attach (fun _ _ _ _ => Iff.rfl)
  rw [List.attach_map_subtype_val] at hmap
  rw [← hmap]
  exact List.pairwise_map.mpr (List.pairwise_insertionSort onMembers l.attach)

/-- The sorted list depends on the elements only. -/
theorem insertionSort_eq_of_perm (h : StrictOrderOn before l) (hperm : l.Perm l') :
    l.insertionSort (fun a b => before b a = false) =
      l'.insertionSort (fun a b => before b a = false) := by
  have hsorted := List.perm_insertionSort (fun a b => before b a = false) l
  have hsorted' := List.perm_insertionSort (fun a b => before b a = false) l'
  refine (hsorted.trans (hperm.trans hsorted'.symm)).eq_of_pairwise ?_ h.pairwise_insertionSort
    (h.perm hperm).pairwise_insertionSort
  intro a b ha hb hba hab
  exact h.eq_of_not_before (hsorted.mem_iff.mp ha)
    (hperm.mem_iff.mpr (hsorted'.mem_iff.mp hb)) hba hab

end StrictOrderOn

/-! ## Sorted lists side by side -/

/-- Around an element that its name tells apart stand those of other names. -/
theorem mem_around_iff {β : Type} {name : α → β} {early late : List α} {x y : α}
    (hnodup : ((early ++ x :: late).map name).Nodup) :
    y ∈ early ++ late ↔ y ∈ early ++ x :: late ∧ name y ≠ name x := by
  have hmiddle : (early ++ x :: late).Perm (x :: (early ++ late)) := List.perm_middle
  have hother : name x ∉ (early ++ late).map name := by
    rw [(hmiddle.map name).nodup_iff, List.map_cons] at hnodup
    exact (List.nodup_cons.mp hnodup).1
  rw [hmiddle.mem_iff, List.mem_cons]
  constructor
  · intro hy
    exact ⟨.inr hy, fun heq => hother (heq ▸ List.mem_map_of_mem hy)⟩
  · rintro ⟨rfl | hy, hne⟩
    · exact absurd rfl hne
    · exact hy

section Keys

variable {β : Type} [LinearOrder β] {k : α → β}

/-- Of two strictly sorted lists, one that holds everything below its elements stands in
front of the other. -/
theorem isFront_of_lower {l l' : List α} (h : l.Pairwise (fun a b => k a < k b))
    (h' : l'.Pairwise (fun a b => k a < k b)) (hsub : l' ⊆ l)
    (hlower : ∀ y ∈ l', ∀ z ∈ l, k z < k y → z ∈ l') : l' <+: l := by
  induction l generalizing l' with
  | nil =>
      obtain rfl := List.subset_nil.mp hsub
      exact List.nil_prefix
  | cons a rest ih =>
      cases l' with
      | nil => exact List.nil_prefix
      | cons b rest' =>
          obtain ⟨hfirst, hrest⟩ := List.pairwise_cons.mp h
          obtain ⟨hfirst', hrest'⟩ := List.pairwise_cons.mp h'
          -- the least element is the same
          have hab : b = a := by
            rcases List.mem_cons.mp (hsub List.mem_cons_self) with hba | hb
            · exact hba
            · have hlt := hfirst b hb
              rcases List.mem_cons.mp
                (hlower b List.mem_cons_self a List.mem_cons_self hlt) with hab | ha
              · exact hab.symm
              · exact absurd (hfirst' a ha) hlt.not_gt
          subst hab
          refine (List.prefix_cons_inj b).mpr (ih hrest hrest' ?_ ?_)
          · intro y hy
            refine (List.mem_cons.mp (hsub (List.mem_cons_of_mem _ hy))).resolve_left ?_
            rintro rfl
            exact lt_irrefl _ (hfirst' y hy)
          · intro y hy z hz hlt
            refine (List.mem_cons.mp (hlower y (List.mem_cons_of_mem _ hy) z
              (List.mem_cons_of_mem _ hz) hlt)).resolve_left ?_
            rintro rfl
            exact lt_irrefl _ (hfirst z hz)

/-- Where one element of a strictly sorted list moves up and the others stay, what stands
before it afterwards stood there in front before. -/
theorem isFront_of_raised {early late early' late' : List α} {x x' : α}
    (h : (early ++ x :: late).Pairwise (fun a b => k a < k b))
    (h' : (early' ++ x' :: late').Pairwise (fun a b => k a < k b)) (hle : k x' ≤ k x)
    (hsame : ∀ y, y ∈ early ++ late ↔ y ∈ early' ++ late') : early' <+: early := by
  obtain ⟨hearly, hrest, hcross⟩ := List.pairwise_append.mp h
  obtain ⟨hearly', hrest', hcross'⟩ := List.pairwise_append.mp h'
  have hbefore : ∀ y ∈ early, k y < k x := fun y hy => hcross y hy x List.mem_cons_self
  have hafter : ∀ y ∈ late, k x < k y := (List.pairwise_cons.mp hrest).1
  have hbefore' : ∀ y ∈ early', k y < k x' := fun y hy => hcross' y hy x' List.mem_cons_self
  have hafter' : ∀ y ∈ late', k x' < k y := (List.pairwise_cons.mp hrest').1
  refine isFront_of_lower hearly hearly' ?_ ?_
  · intro y hy
    refine (List.mem_append.mp ((hsame y).mpr (List.mem_append_left _ hy))).resolve_right ?_
    exact fun hlate => absurd (hafter y hlate) ((hbefore' y hy).trans_le hle).not_gt
  · intro y hy z hz hlt
    refine (List.mem_append.mp ((hsame z).mp (List.mem_append_left _ hz))).resolve_right ?_
    exact fun hlate => absurd (hafter' z hlate) (hlt.trans (hbefore' y hy)).not_gt

end Keys

end CollectiveScheduler.Foundation
