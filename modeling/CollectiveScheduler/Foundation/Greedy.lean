/-
  Foundation/Greedy.lean --- greedy loops with early exits.

  A greedy loop walks a list and judges each element by what it has picked so far: the
  element is passed over, taken, taken as the last one, or the loop stops in front of it.
  Where a predicate on what was picked explains the verdicts, it decides the fate of every
  element by itself, and the loop can be cut anywhere: an early exit leaves a state in which
  every further element is barred.
-/
import Mathlib.Data.List.Induction
import Mathlib.Data.List.Nodup
import Mathlib.Data.List.Perm.Basic

set_option autoImplicit false

namespace CollectiveScheduler.Foundation

/-- What a greedy loop does with an element. -/
inductive Verdict where
  | skip
  | stop
  | take
  | last
  deriving DecidableEq, Repr

variable {α : Type}

/-- The loop, given what it has picked so far. -/
def greedy (judge : List α → α → Verdict) : List α → List α → List α
  | [], picked => picked
  | x :: rest, picked =>
      match judge picked x with
      | .skip => greedy judge rest picked
      | .stop => picked
      | .take => greedy judge rest (picked ++ [x])
      | .last => picked ++ [x]

/-- `barred picked x` is exactly what keeps `x` from being picked on top of `picked`, and
where the loop ends it bars everything. -/
structure Explains (judge : List α → α → Verdict) (barred : List α → α → Prop) : Prop where
  skip : ∀ picked x, judge picked x = .skip → barred picked x
  stop : ∀ picked x, judge picked x = .stop → ∀ y, barred picked y
  take : ∀ picked x, judge picked x = .take → ¬barred picked x
  last : ∀ picked x, judge picked x = .last →
    ¬barred picked x ∧ ∀ y, barred (picked ++ [x]) y

namespace Greedy

variable {judge : List α → α → Verdict} {barred : List α → α → Prop}

/-! ## What is picked -/

variable (judge) in
/-- The loop keeps what it has and adds elements of the list in their order. -/
theorem exists_append (l picked : List α) :
    ∃ more, greedy judge l picked = picked ++ more ∧ more.Sublist l := by
  induction l generalizing picked with
  | nil => exact ⟨[], (List.append_nil picked).symm, List.Sublist.refl []⟩
  | cons x rest ih =>
      unfold greedy
      cases judge picked x with
      | skip =>
          obtain ⟨more, heq, hsub⟩ := ih picked
          exact ⟨more, heq, hsub.cons x⟩
      | stop => exact ⟨[], (List.append_nil picked).symm, List.nil_sublist _⟩
      | take =>
          obtain ⟨more, heq, hsub⟩ := ih (picked ++ [x])
          refine ⟨x :: more, ?_, hsub.cons_cons x⟩
          rw [heq, List.append_assoc, List.singleton_append]
      | last => exact ⟨[x], rfl, List.Sublist.cons_cons x (List.nil_sublist rest)⟩

/-- What is picked first stays in front. -/
theorem prefix_self (l picked : List α) : picked <+: greedy judge l picked := by
  obtain ⟨more, heq, -⟩ := exists_append judge l picked
  exact ⟨more, heq.symm⟩

/-- Picked elements come from the list. -/
theorem sublist (l : List α) : (greedy judge l []).Sublist l := by
  obtain ⟨more, heq, hsub⟩ := exists_append judge l []
  rw [heq, List.nil_append]
  exact hsub

theorem mem_or_mem {l picked : List α} {x : α} (h : x ∈ greedy judge l picked) :
    x ∈ picked ∨ x ∈ l := by
  obtain ⟨more, heq, hsub⟩ := exists_append judge l picked
  rw [heq, List.mem_append] at h
  exact h.imp id (fun hmore => hsub.subset hmore)

/-! ## Explained loops -/

/-- Where everything is barred the loop picks nothing more. -/
theorem eq_self_of_barred (h : Explains judge barred) {picked : List α}
    (hall : ∀ y, barred picked y) (l : List α) : greedy judge l picked = picked := by
  induction l with
  | nil => rfl
  | cons x rest ih =>
      unfold greedy
      cases hjudge : judge picked x with
      | skip => exact ih
      | stop => rfl
      | take => exact absurd (hall x) (h.take picked x hjudge)
      | last => exact absurd (hall x) (h.last picked x hjudge).1

/-- An explained loop can be cut anywhere. -/
theorem append (h : Explains judge barred) (l l' picked : List α) :
    greedy judge (l ++ l') picked = greedy judge l' (greedy judge l picked) := by
  induction l generalizing picked with
  | nil => rfl
  | cons x rest ih =>
      rw [List.cons_append, greedy, greedy]
      cases hjudge : judge picked x with
      | skip => exact ih picked
      | stop => exact (eq_self_of_barred h (h.stop picked x hjudge) l').symm
      | take => exact ih (picked ++ [x])
      | last => exact (eq_self_of_barred h (h.last picked x hjudge).2 l').symm

/-- A longer list only adds to what is picked. -/
theorem prefix_append (h : Explains judge barred) (l l' : List α) :
    greedy judge l [] <+: greedy judge (l ++ l') [] := by
  rw [append h]
  exact prefix_self l' _

/-- An element is picked unless what was picked before it bars it. -/
theorem mem_iff (h : Explains judge barred) {early late : List α} {x : α}
    (hnodup : (early ++ x :: late).Nodup) :
    x ∈ greedy judge (early ++ x :: late) [] ↔ ¬barred (greedy judge early []) x := by
  have hdisjoint := (List.nodup_append'.mp hnodup).2.2
  have hlate : x ∉ late := (List.nodup_cons.mp (List.nodup_append'.mp hnodup).2.1).1
  have hearly : x ∉ greedy judge early [] := fun hmem =>
    hdisjoint ((sublist early).subset hmem) List.mem_cons_self
  rw [append h, greedy]
  cases hjudge : judge (greedy judge early []) x with
  | skip =>
      refine iff_of_false (fun hmem => ?_) (not_not.mpr (h.skip _ x hjudge))
      exact (mem_or_mem hmem).elim hearly hlate
  | stop => exact iff_of_false hearly (not_not.mpr (h.stop _ x hjudge x))
  | take =>
      refine iff_of_true ?_ (h.take _ x hjudge)
      exact (prefix_self late _).subset (List.mem_append_right _ (List.mem_singleton_self x))
  | last =>
      exact iff_of_true (List.mem_append_right _ (List.mem_singleton_self x))
        (h.last _ x hjudge).1

/-- A list of which no element is barred by those before it is picked as a whole. -/
theorem eq_self_of_not_barred (h : Explains judge barred) (l : List α)
    (hfree : ∀ early x late, l = early ++ x :: late → ¬barred early x) :
    greedy judge l [] = l := by
  induction l using List.reverseRecOn with
  | nil => rfl
  | append_singleton early x ih =>
      have hearly := ih fun front y late hsplit =>
        hfree front y (late ++ [x]) (by rw [hsplit, List.append_assoc, List.cons_append])
      have hx := hfree early x [] rfl
      rw [append h, hearly, greedy]
      cases hjudge : judge early x with
      | skip => exact absurd (h.skip early x hjudge) hx
      | stop => exact absurd (h.stop early x hjudge x) hx
      | take => rfl
      | last => rfl

/-- Where a longer choice bars no less, an element that is picked is also picked after a
front of what stood before it. -/
theorem mem_of_front (h : Explains judge barred)
    (hmono : ∀ picked picked' x, picked <+: picked' → barred picked x → barred picked' x)
    {early late early' late' : List α} {x : α} (hnodup : (early ++ x :: late).Nodup)
    (hnodup' : (early' ++ x :: late').Nodup) (hfront : early' <+: early)
    (hmem : x ∈ greedy judge (early ++ x :: late) []) :
    x ∈ greedy judge (early' ++ x :: late') [] := by
  rw [mem_iff h hnodup] at hmem
  rw [mem_iff h hnodup']
  obtain ⟨between, rfl⟩ := hfront
  exact fun hbarred => hmem (hmono _ _ x (prefix_append h early' between) hbarred)

/-- Verdicts that agree on a scope pick the same from a list within it. -/
theorem eq_of_agree {judge' : List α → α → Verdict} {scope : α → Prop}
    (hagree : ∀ picked x, (∀ y ∈ picked, scope y) → scope x → judge' picked x = judge picked x)
    {l picked : List α} (hl : ∀ x ∈ l, scope x) (hpicked : ∀ y ∈ picked, scope y) :
    greedy judge' l picked = greedy judge l picked := by
  induction l generalizing picked with
  | nil => rfl
  | cons x rest ih =>
      obtain ⟨hx, hrest⟩ := List.forall_mem_cons.mp hl
      have hone : ∀ y ∈ picked ++ [x], scope y := by
        intro y hy
        rcases List.mem_append.mp hy with hy | hy
        · exact hpicked y hy
        · rw [List.mem_singleton.mp hy]
          exact hx
      unfold greedy
      rw [hagree picked x hpicked hx]
      cases judge picked x with
      | skip => exact ih hrest hpicked
      | stop => rfl
      | take => exact ih hrest hone
      | last => rfl

/-- A part of a list without repetitions, taken out again by membership. -/
theorem filter_mem_eq [DecidableEq α] {l picked : List α} (hsub : picked.Sublist l)
    (hnodup : l.Nodup) : l.filter (· ∈ picked) = picked := by
  induction hsub with
  | slnil => rfl
  | cons a hsub ih =>
      obtain ⟨hnot, hrest⟩ := List.nodup_cons.mp hnodup
      rw [List.filter_cons_of_neg (by simpa using fun hmem => hnot (hsub.subset hmem))]
      exact ih hrest
  | @cons_cons picked l a hsub ih =>
      obtain ⟨hnot, hrest⟩ := List.nodup_cons.mp hnodup
      have hlater : l.filter (· ∈ a :: picked) = l.filter (· ∈ picked) := by
        refine List.filter_congr fun x hx => decide_eq_decide.mpr ?_
        have hne : x ≠ a := fun heq => hnot (heq ▸ hx)
        rw [List.mem_cons, or_iff_right hne]
      rw [List.filter_cons_of_pos (by simp), hlater, ih hrest]

/-- What is picked of the front of a list is what the whole loop picks there. -/
theorem eq_filter (h : Explains judge barred) [DecidableEq α] {early late : List α}
    (hnodup : (early ++ late).Nodup) :
    greedy judge early [] = early.filter (· ∈ greedy judge (early ++ late) []) := by
  obtain ⟨hearly, -, hdisjoint⟩ := List.nodup_append'.mp hnodup
  have hmem : ∀ x ∈ early, (x ∈ greedy judge (early ++ late) [] ↔ x ∈ greedy judge early []) := by
    intro x hx
    refine ⟨fun hpicked => ?_, fun hpicked => (prefix_append h early late).subset hpicked⟩
    rw [append h] at hpicked
    exact (mem_or_mem hpicked).resolve_right fun hlate => hdisjoint hx hlate
  rw [List.filter_congr (fun x hx => decide_eq_decide.mpr (hmem x hx))]
  exact (filter_mem_eq (sublist early) hearly).symm

end Greedy

end CollectiveScheduler.Foundation
