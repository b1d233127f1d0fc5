/-
  Foundation/Truncation.lean --- readers that look at nothing behind what they read.

  A reader is stable if more bytes behind its input, and a larger limit, do not change what
  it returned from it.  Stability composes like the readers do.  A string of bytes that a
  stable reader takes as a whole has no strict beginning from which it returns anything.
-/
import CollectiveScheduler.Foundation.Codec

set_option autoImplicit false

namespace CollectiveScheduler.Foundation.Reader

variable {E α β : Type} {r : Reader E α} {f : α → Reader E β} {bytes : List UInt8} {a : α}

/-- What the reader returned from an input it returns from every longer one. -/
def Stable (r : Reader E α) : Prop :=
  ∀ limit input a rest, r limit input = .ok (a, rest) → ∀ limit' more, limit ≤ limit' →
    r limit' (input ++ more) = .ok (a, rest ++ more)

namespace Stable

theorem pure (a : α) : Stable (Pure.pure a : Reader E α) := by
  intro limit input b rest hread limit' more _
  cases hread
  rfl

theorem fail (e : E) : Stable (Reader.fail e : Reader E α) := by
  intro limit input b rest hread limit' more _
  cases hread

theorem bind (h : Stable r) (h' : ∀ a, Stable (f a)) : Stable (r >>= f) := by
  intro limit input b rest hread limit' more hlimit
  change Reader.bind r f limit input = .ok (b, rest) at hread
  change Reader.bind r f limit' (input ++ more) = .ok (b, rest ++ more)
  unfold Reader.bind at hread ⊢
  split at hread
  · cases hread
  · rename_i a rest' hfirst
    rw [h limit input a rest' hfirst limit' more hlimit]
    exact h' a limit rest' b rest hread limit' more hlimit

/-- A value computed from what is read. -/
theorem map {g : α → β} (h : Stable r) : Stable (r >>= fun a => Pure.pure (g a)) :=
  h.bind fun a => pure (g a)

theorem chunk (oversized truncated : E) (n : Nat) :
    Stable (Reader.chunk oversized truncated n) := by
  intro limit input a rest hread limit' more hlimit
  unfold Reader.chunk at hread ⊢
  split_ifs at hread with hmax hlength
  cases hread
  have hfits : n ≤ input.length := by omega
  have hlonger : ¬n > (input ++ more).length := by
    rw [List.length_append]
    omega
  rw [if_neg (by omega), if_neg hlonger, List.take_append_of_le_length hfits,
    List.drop_append_of_le_length hfits]

/-- A reader that compares a number with the limit first.  The comparison is the only use of
the limit, so a larger one admits what a smaller one did. -/
theorem limited {n : Nat} (e : E) (h : Stable r) :
    Stable (Reader.limit >>= fun max => if n > max then Reader.fail e else r) := by
  intro limit input a rest hread limit' more hlimit
  change (if n > limit then Reader.fail e else r) limit input = .ok (a, rest) at hread
  change (if n > limit' then Reader.fail e else r) limit' (input ++ more) = .ok (a, rest ++ more)
  split_ifs at hread with hmax
  · cases hread
  · rw [if_neg (by omega)]
    exact h limit input a rest hread limit' more hlimit

theorem times (h : Stable r) (n : Nat) : Stable (r.times n) := by
  induction n with
  | zero => exact pure []
  | succ n ih => exact h.bind fun a => ih.bind fun rest => pure (a :: rest)

/-- What is read from a beginning of a string is read from the whole of it, with the bytes
that were cut off left over. -/
theorem of_take (hr : Stable r) {limit n : Nat} {rest : List UInt8}
    (h : r limit (bytes.take n) = .ok (a, rest)) :
    r (max limit bytes.length) bytes = .ok (a, rest ++ bytes.drop n) := by
  have hlonger := hr limit _ a rest h (max limit bytes.length) (bytes.drop n) (Nat.le_max_left _ _)
  rwa [List.take_append_drop] at hlonger

/-- Nothing is read from a beginning of a string on which the reader fails. -/
theorem rejects_take_of_fails (hr : Stable r) {e : E} (h : Fails r bytes e) {n : Nat}
    (limit : Nat) : ∃ e', r limit (bytes.take n) = .error e' := by
  cases hread : r limit (bytes.take n) with
  | error e' => exact ⟨e', rfl⟩
  | ok result =>
      have hwhole := h (max limit bytes.length) [] (Nat.le_max_right _ _)
      rw [List.append_nil, hr.of_take hread] at hwhole
      cases hwhole

/-- Nothing is read from a strict beginning of a string that is read as a whole. -/
theorem rejects_take (hr : Stable r) (h : Decodes r bytes a) {n : Nat} (hn : n < bytes.length)
    (limit : Nat) : ∃ e, r limit (bytes.take n) = .error e := by
  cases hread : r limit (bytes.take n) with
  | error e => exact ⟨e, rfl⟩
  | ok result =>
      -- the reader would return the same value from the whole string and leave the last bytes
      have hwhole := h (max limit bytes.length) [] (Nat.le_max_right _ _)
      rw [List.append_nil, hr.of_take hread] at hwhole
      have hleft := congrArg (List.length ∘ Prod.snd) (Except.ok.inj hwhole)
      simp only [Function.comp_apply, List.length_append, List.length_drop,
        List.length_nil] at hleft
      omega

end Stable

end CollectiveScheduler.Foundation.Reader
