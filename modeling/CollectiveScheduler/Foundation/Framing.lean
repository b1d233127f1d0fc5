/-
  Foundation/Framing.lean --- streams of frames that arrive in pieces.

  A framer looks at the front of a buffer: it holds a whole frame, it can only become
  one with more bytes, or it is malformed.  Bytes that arrive later never change a frame
  or a malformed front, and a frame is recognised from its own bytes.  From these laws
  follows what a receiver finds that appends pieces to a buffer and takes the frames off
  its front after each: the frames of the whole stream, however it was cut.
-/
import Mathlib.Data.List.Basic

set_option autoImplicit false

namespace CollectiveScheduler.Foundation

/-- What the front of a buffer is. -/
inductive Scan (α M : Type) where
  | incomplete
  | malformed
  | frame (m : M) (rest : List α)

/-- A rule that recognises frames at the front of a buffer. -/
structure Framer (α M : Type) where
  scan : List α → Scan α M
  scan_nil : scan [] = .incomplete
  /-- a frame is recognised from its own bytes, of which there are some -/
  frame_local : ∀ {b m rest}, scan b = .frame m rest →
    ∃ front, front ≠ [] ∧ b = front ++ rest ∧ scan front = .frame m []
  frame_append : ∀ {b m rest} (t : List α), scan b = .frame m rest →
    scan (b ++ t) = .frame m (rest ++ t)
  malformed_append : ∀ {b} (t : List α), scan b = .malformed → scan (b ++ t) = .malformed

namespace Framer

variable {α M : Type} (F : Framer α M)

/-! ## The frames of a buffer -/

/-- The frames at the front of a buffer, at most so many, and what follows them. -/
def splitFuel : Nat → List α → List M × List α
  | 0, b => ([], b)
  | n + 1, b =>
      match F.scan b with
      | .frame m rest => (m :: (splitFuel n rest).1, (splitFuel n rest).2)
      | _ => ([], b)

/-- The frames at the front of a buffer, and what follows them. -/
def split (b : List α) : List M × List α := F.splitFuel b.length b

variable {F} {b b' r t : List α} {m : M} {ms : List M}

theorem length_lt_of_frame (h : F.scan b = .frame m r) : r.length < b.length := by
  obtain ⟨front, hfront, rfl, -⟩ := F.frame_local h
  have hpos := List.length_pos_iff.mpr hfront
  rw [List.length_append]
  omega

/-- A buffer of `n` bytes holds at most `n` frames. -/
theorem splitFuel_eq {n n' : Nat} (h : b.length ≤ n) (h' : b.length ≤ n') :
    F.splitFuel n b = F.splitFuel n' b := by
  induction n generalizing n' b with
  | zero =>
      obtain rfl := List.length_eq_zero_iff.mp (Nat.le_zero.mp h)
      cases n' with
      | zero => rfl
      | succ n' => simp only [splitFuel, F.scan_nil]
  | succ n ih =>
      cases n' with
      | zero =>
          obtain rfl := List.length_eq_zero_iff.mp (Nat.le_zero.mp h')
          simp only [splitFuel, F.scan_nil]
      | succ n' =>
          unfold splitFuel
          cases hscan : F.scan b with
          | incomplete => rfl
          | malformed => rfl
          | frame m rest =>
              have hlt := length_lt_of_frame hscan
              have hrest : F.splitFuel n rest = F.splitFuel n' rest := ih (by omega) (by omega)
              simp only [hrest]

theorem split_frame (h : F.scan b = .frame m r) :
    F.split b = (m :: (F.split r).1, (F.split r).2) := by
  have hlt := length_lt_of_frame h
  obtain ⟨n, hn⟩ : ∃ n, b.length = n + 1 := Nat.exists_eq_succ_of_ne_zero (by omega)
  have hrest : F.splitFuel n r = F.split r := splitFuel_eq (by omega) (Nat.le_refl _)
  unfold split at hrest ⊢
  rw [hn, splitFuel, h]
  simp only [hrest]

theorem split_stuck (h : ∀ m r, F.scan b ≠ .frame m r) : F.split b = ([], b) := by
  unfold split
  cases b.length with
  | zero => rfl
  | succ n =>
      unfold splitFuel
      split
      · rename_i m rest hscan
        exact absurd hscan (h m rest)
      · rfl

theorem split_incomplete (h : F.scan b = .incomplete) : F.split b = ([], b) :=
  split_stuck fun _ _ hframe => by rw [h] at hframe; cases hframe

theorem split_malformed (h : F.scan b = .malformed) : F.split b = ([], b) :=
  split_stuck fun _ _ hframe => by rw [h] at hframe; cases hframe

@[simp] theorem split_nil : F.split [] = ([], []) := split_incomplete F.scan_nil

/-- Induction along the frames of a buffer. -/
theorem split_induct {P : List α → Prop}
    (hstuck : ∀ b, (∀ m r, F.scan b ≠ .frame m r) → P b)
    (hframe : ∀ b m r, F.scan b = .frame m r → P r → P b) (b : List α) : P b := by
  induction hn : b.length using Nat.strongRecOn generalizing b with
  | _ n ih =>
      cases hscan : F.scan b with
      | frame m r => exact hframe b m r hscan (ih _ (hn ▸ length_lt_of_frame hscan) r rfl)
      | incomplete => exact hstuck b fun m r h => by rw [hscan] at h; cases h
      | malformed => exact hstuck b fun m r h => by rw [hscan] at h; cases h

/-- No frame is left behind the frames of a buffer. -/
theorem split_rest (b : List α) (m : M) (r : List α) : F.scan (F.split b).2 ≠ .frame m r := by
  induction b using split_induct (F := F) with
  | hstuck b h =>
      rw [split_stuck h]
      exact h m r
  | hframe b m' r' h ih =>
      rw [split_frame h]
      exact ih

/-- The frames of a longer buffer: those of its front, and those of what is left of it
together with the new bytes. -/
theorem split_append (b t : List α) :
    F.split (b ++ t) = ((F.split b).1 ++ (F.split ((F.split b).2 ++ t)).1,
      (F.split ((F.split b).2 ++ t)).2) := by
  induction b using split_induct (F := F) with
  | hstuck b h => rw [split_stuck h, List.nil_append]
  | hframe b m r h ih =>
      rw [split_frame (F.frame_append t h), split_frame h, ih]
      rfl

/-- Behind the frames of the buffer stands a malformed front. -/
def Broken (F : Framer α M) (b : List α) : Prop := F.scan (F.split b).2 = .malformed

instance (F : Framer α M) (b : List α) : Decidable (F.Broken b) :=
  match h : F.scan (F.split b).2 with
  | .malformed => isTrue h
  | .incomplete => isFalse (by rw [Broken, h]; exact nofun)
  | .frame _ _ => isFalse (by rw [Broken, h]; exact nofun)

/-- A broken buffer stays as it is when bytes are added. -/
theorem Broken.split_append (h : F.Broken b) (t : List α) :
    F.split (b ++ t) = ((F.split b).1, (F.split b).2 ++ t) := by
  rw [Framer.split_append, split_malformed (F.malformed_append t h), List.append_nil]

theorem Broken.append (h : F.Broken b) (t : List α) : F.Broken (b ++ t) := by
  unfold Broken
  rw [h.split_append]
  exact F.malformed_append t h

theorem not_broken_of_append (h : ¬F.Broken (b ++ t)) : ¬F.Broken b :=
  fun hbroken => h (hbroken.append t)

/-- What is left of a buffer that is not broken waits for more bytes. -/
theorem scan_rest_of_not_broken (h : ¬F.Broken b) : F.scan (F.split b).2 = .incomplete := by
  cases hscan : F.scan (F.split b).2 with
  | incomplete => rfl
  | malformed => exact absurd hscan h
  | frame m r => exact absurd hscan (split_rest b m r)

theorem not_broken_incomplete (h : F.scan b = .incomplete) : ¬F.Broken b := by
  intro hbroken
  rw [Broken, split_incomplete h, h] at hbroken
  cases hbroken

theorem broken_malformed (h : F.scan b = .malformed) : F.Broken b := by
  rw [Broken, split_malformed h, h]

theorem not_broken_of_split (h : F.split b = (ms, r)) (hr : F.scan r = .incomplete) :
    ¬F.Broken b := by
  rw [Broken, h, hr]
  exact nofun

theorem broken_frame (h : F.scan b = .frame m r) : F.Broken b ↔ F.Broken r := by
  unfold Broken
  rw [split_frame h]

theorem broken_append_iff (b t : List α) :
    F.Broken (b ++ t) ↔ F.Broken ((F.split b).2 ++ t) := by
  unfold Broken
  rw [split_append b t]

/-- What lies before the end of a frame waits for more bytes. -/
theorem scan_of_proper (h : F.scan (b ++ t) = .frame m []) (ht : t ≠ []) :
    F.scan b = .incomplete := by
  cases hscan : F.scan b with
  | incomplete => rfl
  | malformed =>
      rw [F.malformed_append t hscan] at h
      cases h
  | frame m' r =>
      rw [F.frame_append t hscan] at h
      obtain ⟨-, hnil⟩ := Scan.frame.inj h
      exact absurd (List.append_eq_nil_iff.mp hnil).2 ht

/-- A frame that ends behind an unfinished one ends inside the new bytes. -/
theorem length_rest_lt (hb : F.scan b = .incomplete) (h : F.scan (b ++ t) = .frame m r) :
    r.length < t.length := by
  obtain ⟨front, -, heq, hfront⟩ := F.frame_local h
  by_contra hle
  have hlen : front.length ≤ b.length := by
    have hsum := congrArg List.length heq
    rw [List.length_append, List.length_append] at hsum
    omega
  obtain ⟨u, rfl⟩ := List.prefix_of_prefix_length_le (List.prefix_append front r)
    (heq ▸ List.prefix_append b t) hlen
  rw [F.frame_append u hfront] at hb
  cases hb

/-- Where a frame is always the encoding of its message, a buffer is the encodings of its
frames and what follows them. -/
theorem flatten_split (encode : M → List α)
    (h : ∀ b m r, F.scan b = .frame m r → b = encode m ++ r) (b : List α) :
    b = ((F.split b).1.map encode).flatten ++ (F.split b).2 := by
  induction b using split_induct (F := F) with
  | hstuck b hstuck => rw [split_stuck hstuck, List.map_nil, List.flatten_nil, List.nil_append]
  | hframe b m r hscan ih =>
      rw [split_frame hscan, List.map_cons, List.flatten_cons, List.append_assoc, ← ih]
      exact h b m r hscan

/-- What every frame gives, every message of a buffer has. -/
theorem forall_split {P : M → Prop} (h : ∀ b m r, F.scan b = .frame m r → P m) (b : List α) :
    ∀ m ∈ (F.split b).1, P m := by
  induction b using split_induct (F := F) with
  | hstuck b hstuck =>
      rw [split_stuck hstuck]
      exact fun m hm => absurd hm List.not_mem_nil
  | hframe b m r hscan ih =>
      rw [split_frame hscan]
      intro m' hm'
      rcases List.mem_cons.mp hm' with rfl | hm'
      · exact h b m' r hscan
      · exact ih m' hm'

/-- A malformed front neither starts with a frame nor can become one. -/
theorem not_prefix_of_malformed {e : List α} (h : F.scan b = .malformed)
    (he : F.scan e = .frame m []) : ¬e <+: b ∧ ¬b <+: e := by
  constructor
  · rintro ⟨t, rfl⟩
    rw [F.frame_append t he] at h
    cases h
  · rintro ⟨t, rfl⟩
    rw [F.malformed_append t h] at he
    cases he

/-! ## Some of the frames of a stream -/

/-- The stream starts with these frames, and `rest` follows. -/
inductive Takes (F : Framer α M) : List α → List M → List α → Prop
  | nil (b : List α) : Takes F b [] b
  | cons {b b' r : List α} {m : M} {ms : List M} (h : F.scan b = .frame m b')
      (hrest : Takes F b' ms r) : Takes F b (m :: ms) r

theorem Takes.split (h : F.Takes b ms r) : F.split b = (ms ++ (F.split r).1, (F.split r).2) := by
  induction h with
  | nil b => rfl
  | cons hscan _ ih =>
      rw [split_frame hscan, ih]
      rfl

theorem takes_append {ms' : List M} (h : F.Takes b (ms ++ ms') r) :
    ∃ mid, F.Takes b ms mid ∧ F.Takes mid ms' r := by
  induction ms generalizing b with
  | nil => exact ⟨b, .nil b, h⟩
  | cons m rest ih =>
      cases h with
      | cons hscan hrest =>
          obtain ⟨mid, hfirst, hsecond⟩ := ih hrest
          exact ⟨mid, .cons hscan hfirst, hsecond⟩

/-- The bytes of the frames alone decide that they are taken. -/
theorem Takes.local (h : F.Takes b ms r) :
    ∃ front, b = front ++ r ∧ ∀ t, F.Takes (front ++ t) ms t := by
  induction h with
  | nil b => exact ⟨[], rfl, fun t => .nil t⟩
  | cons hscan _ ih =>
      obtain ⟨front, -, rfl, hfront⟩ := F.frame_local hscan
      obtain ⟨tail, rfl, htail⟩ := ih
      refine ⟨front ++ tail, (List.append_assoc _ _ _).symm, fun t => ?_⟩
      rw [List.append_assoc]
      exact .cons (F.frame_append (tail ++ t) hfront) (htail t)

/-- A stream whose last taken frame is cut off before its last byte. -/
theorem Takes.before_last (h : F.Takes b (ms ++ [m]) r) :
    ∃ early last partialFrame, b = early ++ last :: r ∧ F.split early = (ms, partialFrame) ∧
      F.scan partialFrame = .incomplete ∧
      ∀ t, F.scan (partialFrame ++ last :: t) = .frame m t := by
  obtain ⟨mid, hfirst, hlast⟩ := takes_append h
  cases hlast with
  | cons hscan hnil =>
      cases hnil
      obtain ⟨front, hne, rfl, hfront⟩ := F.frame_local hscan
      obtain ⟨early, rfl, hearly⟩ := hfirst.local
      have hcut := List.dropLast_append_getLast hne
      have hunfinished : F.scan front.dropLast = .incomplete := by
        refine scan_of_proper (t := [front.getLast hne]) (m := m) ?_ (List.cons_ne_nil _ _)
        rw [hcut]
        exact hfront
      refine ⟨early ++ front.dropLast, front.getLast hne, front.dropLast, ?_, ?_, hunfinished, ?_⟩
      · rw [List.append_assoc, List.append_cons front.dropLast, hcut]
      · rw [(hearly front.dropLast).split, split_incomplete hunfinished, List.append_nil]
      · intro t
        rw [List.append_cons, hcut]
        exact F.frame_append t hfront

end Framer

end CollectiveScheduler.Foundation
