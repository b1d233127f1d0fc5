/-
  Foundation/Codec.lean --- byte writers and bounded byte readers.

  A writer is the list of the bytes it appends.  A reader consumes a prefix of
  its input, or fails; it carries a limit on the size of one read.  `Decodes`
  relates the two: the reader returns the value and hands back whatever follows
  the bytes, so statements about parts compose to statements about the whole.
-/
import Mathlib.Algebra.Group.Nat.Defs
import Mathlib.Data.List.Basic

set_option autoImplicit false

namespace CollectiveScheduler.Foundation

/-! ## Little-endian integers -/

/-- The `width` low bytes of a number, least significant first. -/
def littleEndian : Nat → Nat → List UInt8
  | 0, _ => []
  | width + 1, n => UInt8.ofNat n :: littleEndian width (n / 256)

/-- The number whose bytes are listed, least significant first. -/
def ofLittleEndian : List UInt8 → Nat
  | [] => 0
  | b :: rest => b.toNat + 256 * ofLittleEndian rest

@[simp] theorem length_littleEndian (width n : Nat) : (littleEndian width n).length = width := by
  induction width generalizing n with
  | zero => rfl
  | succ width ih => rw [littleEndian, List.length_cons, ih]

theorem ofLittleEndian_littleEndian {width n : Nat} (h : n < 256 ^ width) :
    ofLittleEndian (littleEndian width n) = n := by
  induction width generalizing n with
  | zero =>
      rw [Nat.pow_zero, Nat.lt_one_iff] at h
      exact h.symm
  | succ width ih =>
      have hrest : n / 256 < 256 ^ width := by
        rw [Nat.pow_succ, Nat.mul_comm] at h
        exact Nat.div_lt_of_lt_mul h
      have hbyte : (UInt8.ofNat n).toNat = n % 256 := rfl
      rw [littleEndian, ofLittleEndian, ih hrest, hbyte]
      exact Nat.mod_add_div n 256

theorem ofLittleEndian_lt (l : List UInt8) : ofLittleEndian l < 256 ^ l.length := by
  induction l with
  | nil => exact Nat.one_pos
  | cons b rest ih =>
      have hbyte : b.toNat < 256 := b.toNat_lt
      rw [ofLittleEndian, List.length_cons, Nat.pow_succ]
      omega

/-- The bytes of a number are determined by it. -/
theorem ofLittleEndian_injective {l l' : List UInt8} (hlen : l.length = l'.length)
    (h : ofLittleEndian l = ofLittleEndian l') : l = l' := by
  induction l generalizing l' with
  | nil => exact (List.length_eq_zero_iff.mp hlen.symm).symm
  | cons b rest ih =>
      cases l' with
      | nil => cases hlen
      | cons b' rest' =>
          have hb : b.toNat < 256 := b.toNat_lt
          have hb' : b'.toNat < 256 := b'.toNat_lt
          rw [ofLittleEndian, ofLittleEndian] at h
          have hbyte : b = b' := UInt8.toNat_inj.mp (by omega)
          rw [hbyte, ih (Nat.succ.inj hlen) (by omega)]

/-- Every string of bytes is the one of its number. -/
theorem littleEndian_ofLittleEndian (l : List UInt8) :
    littleEndian l.length (ofLittleEndian l) = l :=
  ofLittleEndian_injective (length_littleEndian _ _)
    (ofLittleEndian_littleEndian (ofLittleEndian_lt l))

/-! ## Readers -/

/-- Reads a value from the front of the input, under a limit on the size of one
read; returns what is left. -/
def Reader (E α : Type) : Type := Nat → List UInt8 → Except E (α × List UInt8)

namespace Reader

variable {E α β : Type}

def pure (a : α) : Reader E α := fun _ input => .ok (a, input)

def bind (r : Reader E α) (f : α → Reader E β) : Reader E β := fun limit input =>
  match r limit input with
  | .error e => .error e
  | .ok (a, rest) => f a limit rest

instance : Monad (Reader E) where
  pure := pure
  bind := bind

def fail (e : E) : Reader E α := fun _ _ => .error e

/-- The current limit. -/
def limit : Reader E Nat := fun limit input => .ok (limit, input)

/-- The next `n` bytes; the errors are for a read beyond the limit and for one
beyond the input. -/
def chunk (oversized truncated : E) (n : Nat) : Reader E (List UInt8) := fun limit input =>
  if n > limit then .error oversized
  else if n > input.length then .error truncated
  else .ok (input.take n, input.drop n)

/-- The same reader `n` times. -/
def times (r : Reader E α) : Nat → Reader E (List α)
  | 0 => pure []
  | n + 1 => do
      let a ← r
      let rest ← times r n
      return a :: rest

/-- The reader returns `a` from these bytes, whatever follows them, under every
limit that admits them. -/
def Decodes (r : Reader E α) (bytes : List UInt8) (a : α) : Prop :=
  ∀ limit rest, bytes.length ≤ limit → r limit (bytes ++ rest) = .ok (a, rest)

/-- The reader fails with `e` on these bytes, whatever follows them. -/
def Fails (r : Reader E α) (bytes : List UInt8) (e : E) : Prop :=
  ∀ limit rest, bytes.length ≤ limit → r limit (bytes ++ rest) = .error e

variable {r : Reader E α} {f : α → Reader E β} {bytes bytes' : List UInt8} {a : α} {b : β} {e : E}

namespace Decodes

theorem pure (a : α) : Decodes (Pure.pure a : Reader E α) [] a := fun _ _ _ => rfl

theorem bind (h : Decodes r bytes a) (h' : Decodes (f a) bytes' b) :
    Decodes (r >>= f) (bytes ++ bytes') b := by
  intro limit rest hlimit
  rw [List.length_append] at hlimit
  have hfirst := h limit (bytes' ++ rest) (by omega)
  have hsecond := h' limit rest (by omega)
  change Reader.bind r f limit (bytes ++ bytes' ++ rest) = .ok (b, rest)
  rw [List.append_assoc, Reader.bind, hfirst]
  exact hsecond

/-- One part after the other, in a list of parts. -/
theorem seq {parts : List (List UInt8)} (h : Decodes r bytes a)
    (h' : Decodes (f a) parts.flatten b) :
    Decodes (r >>= f) (bytes :: parts).flatten b := by
  rw [List.flatten_cons]
  exact h.bind h'

/-- A value computed from a part. -/
theorem map {g : α → β} (h : Decodes r bytes a) :
    Decodes (r >>= fun x => Pure.pure (g x)) bytes (g a) := by
  have hmap := h.bind (f := fun x => Pure.pure (g x)) (Decodes.pure (g a))
  rwa [List.append_nil] at hmap

theorem chunk (oversized truncated : E) (bytes : List UInt8) :
    Decodes (Reader.chunk oversized truncated bytes.length) bytes bytes := by
  intro limit rest hlimit
  rw [Reader.chunk, if_neg (Nat.not_lt.mpr hlimit), if_neg (by simp), List.take_left,
    List.drop_left]

/-- A written vector is read back element by element. -/
theorem times {γ : Type} {write : γ → List UInt8} {value : γ → α} (items : List γ)
    (h : ∀ x ∈ items, Decodes r (write x) (value x)) :
    Decodes (r.times items.length) (items.map write).flatten (items.map value) := by
  induction items with
  | nil => exact Decodes.pure []
  | cons x rest ih =>
      have hrest := ih fun y hy => h y (List.mem_cons_of_mem _ hy)
      exact (h x List.mem_cons_self).seq hrest.map

/-- A failure after a part that was read. -/
theorem fails (h : Decodes r bytes a) (h' : Fails (f a) bytes' e) :
    Fails (r >>= f) (bytes ++ bytes') e := by
  intro limit rest hlimit
  rw [List.length_append] at hlimit
  have hfirst := h limit (bytes' ++ rest) (by omega)
  have hsecond := h' limit rest (by omega)
  change Reader.bind r f limit (bytes ++ bytes' ++ rest) = .error e
  rw [List.append_assoc, Reader.bind, hfirst]
  exact hsecond

theorem seqFails {parts : List (List UInt8)} (h : Decodes r bytes a)
    (h' : Fails (f a) parts.flatten e) : Fails (r >>= f) (bytes :: parts).flatten e := by
  rw [List.flatten_cons]
  exact h.fails h'

end Decodes

theorem fails_fail (e : E) (bytes : List UInt8) : Fails (fail e : Reader E α) bytes e :=
  fun _ _ _ => rfl

/-! ## What a reader returns from any input -/

/-- Every value the reader returns, whatever the input, has the property. -/
def Yields (r : Reader E α) (P : α → Prop) : Prop :=
  ∀ limit input a rest, r limit input = .ok (a, rest) → P a

namespace Yields

variable {P : α → Prop} {Q : β → Prop}

theorem pure (h : P a) : Yields (Pure.pure a : Reader E α) P := by
  intro limit input b rest hread
  cases hread
  exact h

theorem fail (e : E) : Yields (Reader.fail e : Reader E α) P := by
  intro limit input b rest hread
  cases hread

theorem bind (h : Yields r P) (h' : ∀ a, P a → Yields (f a) Q) : Yields (r >>= f) Q := by
  intro limit input b rest hread
  change Reader.bind r f limit input = .ok (b, rest) at hread
  unfold Reader.bind at hread
  split at hread
  · cases hread
  · rename_i a rest' hfirst
    exact h' a (h limit input a rest' hfirst) limit rest' b rest hread

/-- A part whose value does not matter. -/
theorem skip (h : ∀ a, Yields (f a) Q) : Yields (r >>= f) Q :=
  bind (P := fun _ => True) (fun _ _ _ _ _ => trivial) fun a _ => h a

theorem times (h : Yields r P) (n : Nat) :
    Yields (r.times n) (fun l => l.length = n ∧ ∀ a ∈ l, P a) := by
  induction n with
  | zero => exact pure ⟨rfl, fun _ ha => absurd ha List.not_mem_nil⟩
  | succ n ih =>
      refine h.bind fun a ha => ih.bind fun l hl => pure ⟨?_, ?_⟩
      · rw [List.length_cons, hl.1]
      · exact List.forall_mem_cons.mpr ⟨ha, hl.2⟩

end Yields

/-! ## Two readers over the same bytes -/

/-- Where the first reader returns a value, the second returns a related one and stops at the
same place. -/
def Follows {γ : Type} (r : Reader E α) (r' : Reader E γ) (R : α → γ → Prop) : Prop :=
  ∀ limit input a rest, r limit input = .ok (a, rest) →
    ∃ c, r' limit input = .ok (c, rest) ∧ R a c

namespace Follows

variable {γ δ : Type} {r' : Reader E γ} {f' : γ → Reader E δ} {c : γ} {R : α → γ → Prop}
  {S : β → δ → Prop}

theorem pure (h : R a c) : Follows (Pure.pure a : Reader E α) (Pure.pure c : Reader E γ) R := by
  intro limit input b rest hread
  cases hread
  exact ⟨c, rfl, h⟩

theorem fail (e : E) : Follows (Reader.fail e : Reader E α) r' R := by
  intro limit input b rest hread
  cases hread

theorem bind (h : Follows r r' R) (h' : ∀ a c, R a c → Follows (f a) (f' c) S) :
    Follows (r >>= f) (r' >>= f') S := by
  intro limit input b rest hread
  change Reader.bind r f limit input = .ok (b, rest) at hread
  unfold Reader.bind at hread
  split at hread
  · cases hread
  · rename_i a rest' hfirst
    obtain ⟨c, hfirst', hR⟩ := h limit input a rest' hfirst
    obtain ⟨d, hsecond', hS⟩ := h' a c hR limit rest' b rest hread
    refine ⟨d, ?_, hS⟩
    change Reader.bind r' f' limit input = .ok (d, rest)
    rw [Reader.bind, hfirst']
    exact hsecond'

/-- A value computed from what is read last. -/
theorem map {g : α → β} {S : β → γ → Prop} (h : Follows r r' R)
    (hS : ∀ a c, R a c → S (g a) c) : Follows (r >>= fun a => Pure.pure (g a)) r' S := by
  intro limit input b rest hread
  change Reader.bind r (fun a => Reader.pure (g a)) limit input = .ok (b, rest) at hread
  unfold Reader.bind at hread
  split at hread
  · cases hread
  · rename_i a rest' hfirst
    cases hread
    obtain ⟨c, hfirst', hR⟩ := h limit input a rest hfirst
    exact ⟨c, hfirst', hS a c hR⟩

/-- A part that both read alike. -/
theorem both {f' : α → Reader E δ} (h : ∀ a, Follows (f a) (f' a) S) :
    Follows (r >>= f) (r >>= f') S := by
  have hsame : Follows r r Eq := fun _ _ a _ hread => ⟨a, hread, rfl⟩
  refine hsame.bind fun a c hac => ?_
  subst hac
  exact h a

theorem times (h : Follows r r' R) (n : Nat) :
    Follows (r.times n) (r'.times n) (List.Forall₂ R) := by
  induction n with
  | zero => exact pure .nil
  | succ n ih => exact h.bind fun a c hR => ih.bind fun l l' hRs => pure (.cons hR hRs)

end Follows

end Reader

end CollectiveScheduler.Foundation
