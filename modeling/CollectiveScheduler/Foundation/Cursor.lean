/-
  Foundation/Cursor.lean --- a reader with a position in a buffer, as machine code keeps it.

  The position and the sizes are 64-bit and additions wrap around.  A byte is fetched by
  its index; an index outside the buffer is an outcome of its own, so that it cannot be
  mistaken for an error the reader reports.  Every size check, byte access, move of the
  position and turn of a loop is recorded.

  `Refines` compares such a reader with a `Reader`, which works on the list of the bytes
  that are left: the same value or error, every access inside the buffer, and the number
  of recorded events paid for by the bytes consumed, four events for a byte.
-/
import CollectiveScheduler.Foundation.Codec

set_option autoImplicit false

namespace CollectiveScheduler.Foundation

/-- A buffer and the limit on the size of one read. -/
structure Source where
  bytes : List UInt8
  max : UInt64
  fits : bytes.length < 2 ^ 64

namespace Source

/-- The length of the buffer, as the reader holds it. -/
def len (src : Source) : UInt64 := UInt64.ofNat src.bytes.length

@[simp] theorem toNat_len (src : Source) : src.len.toNat = src.bytes.length :=
  UInt64.toNat_ofNat_of_lt src.fits

/-- The sizes leave room for a read within the limit from any position in the buffer. -/
def NoWrap (src : Source) : Prop := src.bytes.length + src.max.toNat < 2 ^ 64

/-- The end of a read within the limit does not wrap around. -/
theorem NoWrap.toNat_add {src : Source} (h : src.NoWrap) {pos n : UInt64}
    (hpos : pos.toNat ≤ src.bytes.length) (hmax : n.toNat ≤ src.max.toNat) :
    (pos + n).toNat = pos.toNat + n.toNat := by
  unfold NoWrap at h
  rw [UInt64.toNat_add]
  exact Nat.mod_eq_of_lt (by omega)

end Source

namespace Cursor

/-- What a reader does to its buffer. -/
inductive Event where
  | need (n : UInt64)
  | access (index : UInt64)
  | move (pos : UInt64)
  | turn
  deriving DecidableEq, Repr

/-- The event touches nothing outside a buffer of this length. -/
def Event.Inside (length : Nat) : Event → Prop
  | access index => index.toNat < length
  | move pos => pos.toNat ≤ length
  | _ => True

/-- How a read ends; `outside` is an access beyond the buffer. -/
inductive Outcome (E α : Type) where
  | value (a : α)
  | thrown (e : E)
  | outside
  deriving DecidableEq, Repr

/-- A read: how it ends, where it leaves the position, and what it did. -/
structure Run (E α : Type) where
  outcome : Outcome E α
  pos : UInt64
  trace : List Event
  deriving DecidableEq, Repr

end Cursor

/-- A reader with a position. -/
def Cursor (E α : Type) : Type := Source → UInt64 → Cursor.Run E α

namespace Cursor

variable {E α β : Type}

def pure (a : α) : Cursor E α := fun _ pos => ⟨.value a, pos, []⟩

def bind (c : Cursor E α) (f : α → Cursor E β) : Cursor E β := fun src pos =>
  match c src pos with
  | ⟨.value a, pos', trace⟩ =>
      let next := f a src pos'
      ⟨next.outcome, next.pos, trace ++ next.trace⟩
  | ⟨.thrown e, pos', trace⟩ => ⟨.thrown e, pos', trace⟩
  | ⟨.outside, pos', trace⟩ => ⟨.outside, pos', trace⟩

instance : Monad (Cursor E) where
  pure := pure
  bind := bind

def fail (e : E) : Cursor E α := fun _ pos => ⟨.thrown e, pos, []⟩

/-- The current limit. -/
def limit : Cursor E Nat := fun src pos => ⟨.value src.max.toNat, pos, []⟩

/-- The size check: against the limit, then against the end of the buffer, with an
addition that wraps around. -/
def need (oversized truncated : E) (n : UInt64) : Cursor E Unit := fun src pos =>
  if n > src.max then ⟨.thrown oversized, pos, [.need n]⟩
  else if pos + n > src.len then ⟨.thrown truncated, pos, [.need n]⟩
  else ⟨.value (), pos, [.need n]⟩

/-- The byte `i` places after the position. -/
def byteAt (i : UInt64) : Cursor E UInt8 := fun src pos =>
  match src.bytes[(pos + i).toNat]? with
  | none => ⟨.outside, pos, [.access (pos + i)]⟩
  | some b => ⟨.value b, pos, [.access (pos + i)]⟩

/-- The `n` bytes from the one `i` places after the position. -/
def bytesAt : Nat → Nat → Cursor E (List UInt8)
  | 0, _ => pure []
  | n + 1, i => do
      let b ← byteAt (UInt64.ofNat i)
      let rest ← bytesAt n (i + 1)
      return b :: rest

def advance (n : UInt64) : Cursor E Unit := fun _ pos => ⟨.value (), pos + n, [.move (pos + n)]⟩

/-- The next `n` bytes: the size check, the accesses, and the move behind them. -/
def chunk (oversized truncated : E) (n : UInt64) : Cursor E (List UInt8) := do
  need oversized truncated n
  let bytes ← bytesAt n.toNat 0
  advance n
  return bytes

/-- The end of a turn of a loop. -/
def turn : Cursor E Unit := fun _ pos => ⟨.value (), pos, [.turn]⟩

/-- The same reader `n` times. -/
def times (c : Cursor E α) : Nat → Cursor E (List α)
  | 0 => pure []
  | n + 1 => do
      let a ← c
      turn
      let rest ← times c n
      return a :: rest

/-! ## Refinement -/

/-- The run agrees with what a reader makes of the bytes that are left, stays inside the
buffer, and records no more events than `before` and the bytes consumed pay for; a run
that returns leaves `after`. -/
inductive Matches (src : Source) (pos : UInt64) (before after : Nat) :
    Run E α → Except E (α × List UInt8) → Prop
  | value {a : α} {pos' : UInt64} {trace : List Event} (hend : pos'.toNat ≤ src.bytes.length)
      (hcost : trace.length + after + 4 * pos.toNat ≤ before + 4 * pos'.toNat)
      (hinside : ∀ ev ∈ trace, ev.Inside src.bytes.length) :
      Matches src pos before after ⟨.value a, pos', trace⟩ (.ok (a, src.bytes.drop pos'.toNat))
  | thrown {e : E} {pos' : UInt64} {trace : List Event} (hend : pos'.toNat ≤ src.bytes.length)
      (hcost : trace.length + 4 * pos.toNat ≤ before + 4 * pos'.toNat + 1)
      (hinside : ∀ ev ∈ trace, ev.Inside src.bytes.length) :
      Matches src pos before after ⟨.thrown e, pos', trace⟩ (.error e)

/-- From every position in a buffer whose sizes do not wrap around, the cursor does what
the reader does. -/
def Refines (before after : Nat) (c : Cursor E α) (r : Reader E α) : Prop :=
  ∀ (src : Source) (pos : UInt64), src.NoWrap → pos.toNat ≤ src.bytes.length →
    Matches src pos before after (c src pos) (r src.max.toNat (src.bytes.drop pos.toNat))

variable {c : Cursor E α} {r : Reader E α} {f : α → Cursor E β} {g : α → Reader E β}
  {before mid after : Nat}

namespace Refines

theorem pure (a : α) : Refines after after (Pure.pure a : Cursor E α) (Pure.pure a) := by
  intro src pos _ hpos
  exact .value hpos (by simp) (by simp)

theorem fail (e : E) :
    Refines before after (Cursor.fail e : Cursor E α) (Reader.fail e) := by
  intro src pos _ hpos
  exact .thrown hpos (by simp; omega) (by simp)

theorem limit : Refines after after (Cursor.limit : Cursor E Nat) Reader.limit := by
  intro src pos _ hpos
  exact .value hpos (by simp) (by simp)

/-- What one read leaves, the next one may spend. -/
theorem bind (h : Refines before mid c r) (h' : ∀ a, Refines mid after (f a) (g a)) :
    Refines before after (c >>= f) (r >>= g) := by
  intro src pos hwrap hpos
  change Matches src pos before after (Cursor.bind c f src pos)
    (Reader.bind r g src.max.toNat (src.bytes.drop pos.toNat))
  unfold Cursor.bind Reader.bind
  have hfirst := h src pos hwrap hpos
  generalize c src pos = first, r src.max.toNat (src.bytes.drop pos.toNat) = result at hfirst ⊢
  cases hfirst with
  | thrown hend hcost hinside => exact .thrown hend hcost hinside
  | @value a pos' trace hend hcost hinside =>
      have hnext := h' a src pos' hwrap hend
      simp only
      generalize f a src pos' = next, g a src.max.toNat (src.bytes.drop pos'.toNat) = result
        at hnext ⊢
      cases hnext with
      | thrown hend' hcost' hinside' =>
          refine .thrown hend' ?_ (List.forall_mem_append.mpr ⟨hinside, hinside'⟩)
          simp only [List.length_append]
          omega
      | value hend' hcost' hinside' =>
          refine .value hend' ?_ (List.forall_mem_append.mpr ⟨hinside, hinside'⟩)
          simp only [List.length_append]
          omega

/-- Events that are paid for may go unspent. -/
theorem mono {before' after' : Nat} (h : Refines before after c r) (hbefore : before ≤ before')
    (hafter : after' + before ≤ after + before') : Refines before' after' c r := by
  intro src pos hwrap hpos
  have hrun := h src pos hwrap hpos
  generalize c src pos = run, r src.max.toNat (src.bytes.drop pos.toNat) = result at hrun ⊢
  cases hrun with
  | thrown hend hcost hinside => exact .thrown hend (by omega) hinside
  | value hend hcost hinside => exact .value hend (by omega) hinside

/-- A read that leaves something pays for whatever follows it. -/
theorem seq (h : Refines 0 1 c r) (h' : ∀ a, Refines 0 after (f a) (g a)) :
    Refines 0 1 (c >>= f) (r >>= g) := by
  have hrest : ∀ a, Refines 1 1 (f a) (g a) := fun a => (h' a).mono (by omega) (by omega)
  exact h.bind hrest

theorem map {k : α → β} (h : Refines before after c r) :
    Refines before after (do return k (← c)) (do return k (← r)) :=
  h.bind fun a => pure (k a)

/-- The end of a turn costs one event. -/
theorem turn (h : Refines before after c r) :
    Refines (before + 1) after (Cursor.turn >>= fun _ => c) r := by
  intro src pos hwrap hpos
  have hrun := h src pos hwrap hpos
  change Matches src pos (before + 1) after (Cursor.bind Cursor.turn (fun _ => c) src pos) _
  unfold Cursor.bind Cursor.turn
  simp only
  generalize c src pos = run, r src.max.toNat (src.bytes.drop pos.toNat) = result at hrun ⊢
  cases hrun with
  | thrown hend hcost hinside =>
      exact .thrown hend (by simp; omega) (List.forall_mem_cons.mpr ⟨trivial, hinside⟩)
  | value hend hcost hinside =>
      exact .value hend (by simp; omega) (List.forall_mem_cons.mpr ⟨trivial, hinside⟩)

/-- A reader that leaves something at each turn pays for the loop. -/
theorem times (h : Refines 0 1 c r) (n : Nat) : Refines 0 0 (c.times n) (r.times n) := by
  induction n with
  | zero => exact pure []
  | succ n ih =>
      exact h.bind fun a => (ih.map (k := (a :: ·))).turn

end Refines

/-! ### The bytes of one read -/

theorem bind_value {src : Source} {pos pos' : UInt64} {a : α} {trace : List Event}
    (h : c src pos = ⟨.value a, pos', trace⟩) :
    (c >>= f) src pos =
      ⟨(f a src pos').outcome, (f a src pos').pos, trace ++ (f a src pos').trace⟩ := by
  change Cursor.bind c f src pos = _
  rw [Cursor.bind, h]

theorem bind_thrown {src : Source} {pos pos' : UInt64} {e : E} {trace : List Event}
    (h : c src pos = ⟨.thrown e, pos', trace⟩) : (c >>= f) src pos = ⟨.thrown e, pos', trace⟩ := by
  change Cursor.bind c f src pos = _
  rw [Cursor.bind, h]

theorem byteAt_eq {src : Source} {pos i : UInt64}
    (h : (pos + i).toNat < src.bytes.length) :
    (byteAt i : Cursor E UInt8) src pos =
      ⟨.value (src.bytes.get ⟨(pos + i).toNat, h⟩), pos, [.access (pos + i)]⟩ := by
  unfold byteAt
  rw [List.getElem?_eq_getElem h]
  rfl

/-- The accesses of one read, in a buffer that holds the bytes. -/
theorem bytesAt_eq (src : Source) (pos : UInt64) (n i : Nat)
    (h : pos.toNat + i + n ≤ src.bytes.length) :
    ∃ trace, (bytesAt n i : Cursor E (List UInt8)) src pos =
        ⟨.value ((src.bytes.drop (pos.toNat + i)).take n), pos, trace⟩ ∧
      trace.length = n ∧ ∀ ev ∈ trace, ev.Inside src.bytes.length := by
  induction n generalizing i with
  | zero => exact ⟨[], rfl, rfl, by simp⟩
  | succ n ih =>
      have hfits := src.fits
      obtain ⟨trace, hrest, hlength, hinside⟩ := ih (i + 1) (by omega)
      have hindex : (pos + UInt64.ofNat i).toNat = pos.toNat + i := by
        have hplace : (UInt64.ofNat i).toNat = i :=
          UInt64.toNat_ofNat_of_lt (show i < 2 ^ 64 by omega)
        rw [UInt64.toNat_add, hplace]
        exact Nat.mod_eq_of_lt (by omega)
      have hlt : (pos + UInt64.ofNat i).toNat < src.bytes.length := by omega
      refine ⟨.access (pos + UInt64.ofNat i) :: trace, ?_, by simp [hlength],
        List.forall_mem_cons.mpr ⟨hlt, hinside⟩⟩
      rw [bytesAt, bind_value (byteAt_eq hlt), bind_value hrest]
      have hbytes : (src.bytes.drop (pos.toNat + i)).take (n + 1) =
          src.bytes.get ⟨(pos + UInt64.ofNat i).toNat, hlt⟩ ::
            (src.bytes.drop (pos.toNat + (i + 1))).take n := by
        rw [List.drop_eq_getElem_cons (by omega), List.take_succ_cons]
        simp only [List.get_eq_getElem, hindex, Nat.add_assoc]
      rw [hbytes]
      simp only [List.append_nil, Pure.pure, pure, List.singleton_append]

/-- One read: the check, an event for each byte, and the move. -/
theorem Refines.chunk (oversized truncated : E) {n : UInt64}
    (hcost : after + 2 ≤ before + 3 * n.toNat) :
    Refines before after (Cursor.chunk oversized truncated n)
      (Reader.chunk oversized truncated n.toNat) := by
  intro src pos hwrap hpos
  unfold Cursor.chunk Reader.chunk
  by_cases hmax : n.toNat > src.max.toNat
  · have hneed : need oversized truncated n src pos = ⟨.thrown oversized, pos, [.need n]⟩ := by
      rw [need, if_pos (UInt64.lt_iff_toNat_lt.mpr hmax)]
    rw [bind_thrown hneed, if_pos hmax]
    exact .thrown hpos (by simp; omega) (by simp [Event.Inside])
  have hlimit : ¬n > src.max := fun hlt => hmax (UInt64.lt_iff_toNat_lt.mp hlt)
  have hend := hwrap.toNat_add hpos (Nat.le_of_not_lt hmax)
  rw [if_neg hmax, List.length_drop]
  by_cases hlen : pos.toNat + n.toNat > src.bytes.length
  · have hneed : need oversized truncated n src pos = ⟨.thrown truncated, pos, [.need n]⟩ := by
      rw [need, if_neg hlimit, if_pos]
      rw [gt_iff_lt, UInt64.lt_iff_toNat_lt, src.toNat_len, hend]
      exact hlen
    rw [bind_thrown hneed, if_pos (by omega)]
    exact .thrown hpos (by simp; omega) (by simp [Event.Inside])
  · have hneed : need oversized truncated n src pos = ⟨.value (), pos, [.need n]⟩ := by
      rw [need, if_neg hlimit, if_neg]
      rw [gt_iff_lt, UInt64.lt_iff_toNat_lt, src.toNat_len, hend]
      exact hlen
    obtain ⟨trace, hbytes, hlength, hinside⟩ :=
      bytesAt_eq (E := E) src pos n.toNat 0 (by omega)
    have hmove : ∀ bytes, (do advance n; return bytes : Cursor E (List UInt8)) src pos =
        ⟨.value bytes, pos + n, [.move (pos + n)]⟩ := fun bytes => rfl
    have hstop : (pos + n).toNat ≤ src.bytes.length := by omega
    rw [if_neg (by omega), bind_value hneed, bind_value hbytes, hmove, List.drop_drop, ← hend]
    have hlast : ∀ ev ∈ trace ++ [.move (pos + n)], ev.Inside src.bytes.length :=
      List.forall_mem_append.mpr ⟨hinside, List.forall_mem_singleton.mpr hstop⟩
    refine .value hstop ?_ (List.forall_mem_cons.mpr ⟨trivial, hlast⟩)
    simp only [List.length_append, List.length_singleton, hlength, hend]
    omega

/-- A read of a whole buffer ends, within four events for a byte and one more, in a value
or in an error that is thrown, and never leaves the buffer. -/
theorem Refines.contained (h : Refines 0 after c r) {src : Source} (hwrap : src.NoWrap) :
    ((∃ a, (c src 0).outcome = .value a) ∨ ∃ e, (c src 0).outcome = .thrown e) ∧
      (∀ ev ∈ (c src 0).trace, ev.Inside src.bytes.length) ∧
      (c src 0).pos.toNat ≤ src.bytes.length ∧
      (c src 0).trace.length ≤ 4 * src.bytes.length + 1 := by
  have hrun := h src 0 hwrap (Nat.zero_le _)
  have hzero : (0 : UInt64).toNat = 0 := rfl
  rw [hzero] at hrun
  generalize c src 0 = run, r src.max.toNat (src.bytes.drop 0) = result at hrun ⊢
  cases hrun with
  | @thrown e pos' trace hend hcost hinside =>
      exact ⟨.inr ⟨e, rfl⟩, hinside, hend, by simp only; omega⟩
  | @value a pos' trace hend hcost hinside =>
      exact ⟨.inl ⟨a, rfl⟩, hinside, hend, by simp only; omega⟩

end Cursor

end CollectiveScheduler.Foundation
