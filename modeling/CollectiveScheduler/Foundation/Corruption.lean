/-
  Foundation/Corruption.lean --- one changed byte, and checksums that notice it.

  A checksum that folds a step over the bytes notices a change of one of them when the
  step is injective in the byte and in the sum so far: behind the change the sums differ,
  and they go on to differ.  Bytes with such a checksum behind them are then protected as
  a whole, the checksum included.
-/
import CollectiveScheduler.Foundation.Codec
import Mathlib.Logic.Function.Defs

set_option autoImplicit false

namespace CollectiveScheduler.Foundation

/-! ## One changed element -/

/-- The lists agree except for the element at `i`, where they differ. -/
def ChangedAt {α : Type} (i : Nat) (a b : List α) : Prop :=
  ∃ front x y back, front.length = i ∧ a = front ++ x :: back ∧ b = front ++ y :: back ∧ x ≠ y

namespace ChangedAt

variable {α : Type} {i : Nat} {a a' b c : List α}

theorem set {y : α} (h : ∃ x ∈ a[i]?, x ≠ y) : ChangedAt i a (a.set i y) := by
  obtain ⟨x, hx, hne⟩ := h
  obtain ⟨hi, rfl⟩ := List.getElem?_eq_some_iff.mp hx
  refine ⟨a.take i, a[i], y, a.drop (i + 1), List.length_take_of_le (Nat.le_of_lt hi),
    ?_, ?_, hne⟩
  · rw [← List.drop_eq_getElem_cons hi, List.take_append_drop]
  · rw [List.set_eq_take_append_cons_drop, if_pos hi]

theorem length_eq (h : ChangedAt i a b) : b.length = a.length := by
  obtain ⟨front, x, y, back, -, rfl, rfl, -⟩ := h
  simp only [List.length_append, List.length_cons]

theorem ne (h : ChangedAt i a b) : a ≠ b := by
  obtain ⟨front, x, y, back, -, rfl, rfl, hne⟩ := h
  intro heq
  exact hne (List.cons.inj (List.append_cancel_left heq)).1

theorem cons (d : α) (h : ChangedAt i a b) : ChangedAt (i + 1) (d :: a) (d :: b) := by
  obtain ⟨front, x, y, back, hlen, rfl, rfl, hne⟩ := h
  exact ⟨d :: front, x, y, back, congrArg Nat.succ hlen, rfl, rfl, hne⟩

/-- A change in a list of two parts is one in the first or one in the second. -/
theorem append_cases (h : ChangedAt i (a ++ b) c) :
    (∃ a', c = a' ++ b ∧ ChangedAt i a a') ∨
      ∃ b', c = a ++ b' ∧ ChangedAt (i - a.length) b b' ∧ a.length ≤ i := by
  induction a generalizing i c with
  | nil => exact .inr ⟨c, rfl, h, Nat.zero_le i⟩
  | cons d rest ih =>
      obtain ⟨front, x, y, back, hlen, hwhole, rfl, hne⟩ := h
      cases front with
      | nil =>
          obtain ⟨rfl, rfl⟩ := List.cons.inj hwhole
          exact .inl ⟨y :: rest, rfl, [], d, y, rest, hlen, rfl, rfl, hne⟩
      | cons d' front =>
          obtain ⟨rfl, hrest⟩ := List.cons.inj hwhole
          subst hlen
          rcases ih ⟨front, x, y, back, rfl, hrest, rfl, hne⟩ with
            ⟨a', hc, hchanged⟩ | ⟨b', hc, hchanged, hle⟩
          · exact .inl ⟨d :: a', congrArg (List.cons d) hc, hchanged.cons d⟩
          · refine .inr ⟨b', congrArg (List.cons d) hc, ?_, Nat.succ_le_succ hle⟩
            rw [List.length_cons, List.length_cons, Nat.add_sub_add_right]
            exact hchanged

/-- A window beside the change shows the same. -/
theorem window_eq (h : ChangedAt i a b) {lo n : Nat} (hbeside : i < lo ∨ lo + n ≤ i) :
    (b.drop lo).take n = (a.drop lo).take n := by
  obtain ⟨front, x, y, back, rfl, rfl, rfl, -⟩ := h
  rcases hbeside with hlt | hle
  · obtain ⟨k, rfl⟩ : ∃ k, lo = front.length + (k + 1) :=
      ⟨lo - front.length - 1, by omega⟩
    simp only [List.drop_append, List.drop_succ_cons, Nat.add_sub_cancel_left]
  · have htake : ∀ z : α, (front ++ z :: back).take (lo + n) = front.take (lo + n) :=
      fun z => List.take_append_of_le_length hle
    rw [List.take_drop, List.take_drop, htake, htake]

end ChangedAt

/-! ## Checksums -/

section Fold

variable {σ α : Type} {step : σ → α → σ}

theorem foldl_injective (h : ∀ x, Function.Injective fun s => step s x) (l : List α) :
    Function.Injective fun s => l.foldl step s := by
  induction l with
  | nil => exact fun _ _ heq => heq
  | cons x rest ih => exact fun s t heq => h x (ih heq)

/-- A fold whose step is injective in both arguments notices one changed element. -/
theorem ChangedAt.foldl_ne (hsum : ∀ x, Function.Injective fun s => step s x)
    (helem : ∀ s, Function.Injective (step s)) {i : Nat} {a b : List α}
    (h : ChangedAt i a b) (s : σ) : a.foldl step s ≠ b.foldl step s := by
  obtain ⟨front, x, y, back, -, rfl, rfl, hne⟩ := h
  rw [List.foldl_append, List.foldl_append, List.foldl_cons, List.foldl_cons]
  exact fun heq => hne (helem _ (foldl_injective hsum back heq))

end Fold

/-! ## Bytes with their checksum behind them -/

/-- The number in the bytes of a checksum. -/
def storedSum (l : List UInt8) : UInt64 := UInt64.ofNat (ofLittleEndian l)

theorem toNat_storedSum {l : List UInt8} (h : l.length = 8) :
    (storedSum l).toNat = ofLittleEndian l := by
  have hlt := ofLittleEndian_lt l
  rw [h] at hlt
  exact UInt64.toNat_ofNat_of_lt hlt

theorem storedSum_injective {l l' : List UInt8} (h : l.length = 8) (h' : l'.length = 8)
    (heq : storedSum l = storedSum l') : l = l' := by
  refine ofLittleEndian_injective (h.trans h'.symm) ?_
  rw [← toNat_storedSum h, ← toNat_storedSum h', heq]

/-- One changed byte among some bytes and their checksum is noticed. -/
theorem ChangedAt.sum_ne (hash : List UInt8 → UInt64)
    (hhash : ∀ {i a b}, ChangedAt i a b → hash a ≠ hash b) {i : Nat}
    {body changed : List UInt8}
    (h : ChangedAt i (body ++ littleEndian 8 (hash body).toNat) changed) :
    storedSum (changed.drop body.length) ≠ hash (changed.take body.length) := by
  have hsum : storedSum (littleEndian 8 (hash body).toNat) = hash body := by
    rw [storedSum, ofLittleEndian_littleEndian (UInt64.toNat_lt _), UInt64.ofNat_toNat]
  rcases h.append_cases with ⟨body', rfl, hbody⟩ | ⟨sum', rfl, hchanged, -⟩
  · rw [List.drop_left' hbody.length_eq, List.take_left' hbody.length_eq, hsum]
    exact hhash hbody
  · rw [List.drop_left, List.take_left, ← hsum]
    intro heq
    have hlen := hchanged.length_eq
    rw [length_littleEndian] at hlen
    exact hchanged.ne (storedSum_injective (length_littleEndian _ _) hlen heq.symm)

end CollectiveScheduler.Foundation
