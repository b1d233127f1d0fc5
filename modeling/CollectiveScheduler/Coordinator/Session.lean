/-
  Coordinator/Session.lean --- one session of the coordinator.

  Source: `Coordinator::session` of src/coordinator.cpp.

  The pieces are what `recv` returns, one after the other; the loop ends when none is
  left.  The session is the only one that is served meanwhile.  The environment of the
  handling is given for each message by its number in the session.
-/
import CollectiveScheduler.Coordinator.Coordinator
import CollectiveScheduler.Foundation.Session
import CollectiveScheduler.Protocol.Frame

set_option autoImplicit false

namespace CollectiveScheduler

open Foundation

namespace Coordinator

variable {D : Type}

/-- A session between two calls of `recv`. -/
structure SessionState (D : Type) where
  coordinator : Coordinator D
  buf : List UInt8 := []
  /-- the messages that were passed to `handle_message` -/
  handled : List Msg := []
  /-- the loop has not been left -/
  live : Bool := true

section Loop

variable [Double D] (env : Nat → Env) (fd : Nat)

/-- `for (auto& m : msgs) handle_message(fd, m);` an exception ends the process. -/
def handleAll : SessionState D → List Msg → SessionState D
  | x, [] => x
  | x, m :: ms =>
      match x.coordinator.handleMessage (env x.handled.length) fd m with
      | none => { x with handled := x.handled ++ [m], live := false }
      | some (c, _) => handleAll { x with coordinator := c, handled := x.handled ++ [m] } ms

/-- The body of the loop of `session`, with the bytes that `recv` returns. -/
def sessionTurn (x : SessionState D) (chunk : List UInt8) : SessionState D :=
  if x.live = false then x
  else if x.coordinator.running = false then { x with live := false }
  else
    match Protocol.decodeFrames (x.buf ++ chunk) [] with
    | (false, buf, _) => { x with buf := buf, live := false }
    | (true, buf, msgs) => handleAll env fd { x with buf := buf } msgs

/-- `session`: the messages it passes to `handle_message`. -/
def session (c : Coordinator D) (chunks : List (List UInt8)) : List Msg :=
  (Runs.exec (sessionTurn env fd) { coordinator := c } chunks).handled

/-- The size of the buffer that `recv` fills. -/
def recvLimit : Nat := 65536

/-- The coordinator after messages, from a number on, if none of them throws. -/
def handleEach : Nat → Coordinator D → List Msg → Option (Coordinator D)
  | _, c, [] => some c
  | n, c, m :: ms =>
      match c.handleMessage (env n) fd m with
      | none => none
      | some (c', _) => handleEach (n + 1) c' ms

end Loop

/-! ## The session as a receiver of frames -/

variable [Double D] {env : Nat → Env} {fd : Nat}

/-- The handling of messages, with the number of the next one. -/
def handler (env : Nat → Env) (fd : Nat) : Handler (Coordinator D × Nat) Msg where
  handle s m := (s.1.handleMessage (env s.2) fd m).map fun r => (r.1, s.2 + 1)
  running s := s.1.running

/-- Messages none of which throws or ends the loop. -/
theorem handler_reach_iff (ms : List Msg) (c : Coordinator D) (n : Nat)
    (s : Coordinator D × Nat) :
    (handler env fd).reach (c, n) ms = some s ↔
      c.running = true ∧ (∀ m ∈ ms, m.type ≠ .shutdown) ∧
        (handleEach env fd n c ms).map (fun c' => (c', n + ms.length)) = some s := by
  induction ms generalizing c n with
  | nil =>
      by_cases hrunning : c.running = true <;>
        simp [Handler.reach, handler, handleEach, hrunning]
  | cons m rest ih =>
      rw [Handler.reach, handleEach, List.forall_mem_cons]
      cases hrunning : (handler env fd).running (c, n) with
      | false =>
          have hstopped : c.running = false := hrunning
          simp [hstopped]
      | true =>
          have hgoes : c.running = true := hrunning
          cases hhandle : c.handleMessage (env n) fd m with
          | none => simp [handler, hhandle]
          | some r =>
              have hserve : (handler env fd).handle (c, n) m = some (r.1, n + 1) := by
                simp only [handler, hhandle, Option.map_some]
              have hkept : r.1.running = decide (m.type ≠ .shutdown) := by
                rw [(handleMessage_handled hhandle).running, hgoes, Bool.true_and]
              rw [if_pos rfl, hserve, Option.bind_some, ih, hkept, decide_eq_true_iff,
                List.length_cons, Nat.add_comm rest.length, ← Nat.add_assoc]
              simp only [hgoes, true_and, and_assoc]

/-! ## The session is a receiver -/

/-- A session and the receiver that mirrors it; what they hold when the loop has been left
is not read any more. -/
structure Mirrors (x : SessionState D) (y : Session (Coordinator D × Nat) UInt8 Msg) :
    Prop where
  live : y.live = x.live
  passed : y.passed = x.handled
  state : x.live = true → y.state = (x.coordinator, x.handled.length)
  buffer : x.live = true → y.buffer = x.buf

omit [Double D] in
theorem Mirrors.of_left {x : SessionState D} {y : Session (Coordinator D × Nat) UInt8 Msg}
    (hx : x.live = false) (hy : y.live = false) (hpassed : y.passed = x.handled) :
    Mirrors x y where
  live := hy.trans hx.symm
  passed := hpassed
  state h := absurd (h.symm.trans hx) (by decide)
  buffer h := absurd (h.symm.trans hx) (by decide)

/-- The messages of a piece are handled as the receiver serves them. -/
theorem handleAll_cases (env : Nat → Env) (fd : Nat) (ms : List Msg) (x : SessionState D) :
    (∃ passed s, (handler env fd).serve (x.coordinator, x.handled.length) ms = (passed, some s) ∧
      s.2 = (x.handled ++ passed).length ∧
      handleAll env fd x ms =
        { x with coordinator := s.1, handled := x.handled ++ passed }) ∨
    ∃ passed, (handler env fd).serve (x.coordinator, x.handled.length) ms = (passed, none) ∧
      (handleAll env fd x ms).handled = x.handled ++ passed ∧
      (handleAll env fd x ms).live = false := by
  induction ms generalizing x with
  | nil => exact .inl ⟨[], _, rfl, by rw [List.append_nil], by rw [List.append_nil]; rfl⟩
  | cons m rest ih =>
      have hnext : (x.handled ++ [m]).length = x.handled.length + 1 := List.length_append
      cases hhandle : x.coordinator.handleMessage (env x.handled.length) fd m with
      | none =>
          refine .inr ⟨[m], ?_, ?_, ?_⟩
          · simp only [Handler.serve, handler, hhandle, Option.map_none]
          · rw [handleAll, hhandle]
          · rw [handleAll, hhandle]
      | some r =>
          have hserve : (handler env fd).handle (x.coordinator, x.handled.length) m =
              some (r.1, (x.handled ++ [m]).length) := by
            simp only [handler, hhandle, Option.map_some, hnext]
          have hstep : handleAll env fd x (m :: rest) = handleAll env fd
              { x with coordinator := r.1, handled := x.handled ++ [m] } rest := by
            rw [handleAll, hhandle]
          rw [hstep]
          simp only [Handler.serve, hserve]
          rcases ih { x with coordinator := r.1, handled := x.handled ++ [m] } with
            ⟨passed, s, hrest, hcount, hall⟩ | ⟨passed, hrest, hhandled, hleft⟩
          · refine .inl ⟨m :: passed, s, by rw [hrest], ?_, ?_⟩
            · rw [hcount, List.append_assoc, List.singleton_append]
            · rw [hall, List.append_assoc, List.singleton_append]
          · refine .inr ⟨m :: passed, by rw [hrest], ?_, hleft⟩
            rw [hhandled, List.append_assoc, List.singleton_append]

/-- A turn of the loop of `session` is one of the receiver. -/
theorem Mirrors.turn {x : SessionState D} {y : Session (Coordinator D × Nat) UInt8 Msg}
    (h : Mirrors x y) (chunk : List UInt8) :
    Mirrors (sessionTurn env fd x chunk)
      (y.receive Protocol.framer (handler env fd) chunk) := by
  have hpassed := h.passed
  unfold sessionTurn Session.receive
  by_cases hleft : x.live = false
  · rw [if_pos hleft, if_pos (h.live.trans hleft)]
    exact h
  · have hx : x.live = true := Bool.eq_true_of_not_eq_false hleft
    have hy : ¬y.live = false := by rw [h.live]; exact hleft
    have hrunning : (handler env fd).running y.state = x.coordinator.running := by
      rw [h.state hx]
      rfl
    rw [if_neg hleft, if_neg hy, hrunning, h.buffer hx, Protocol.decodeFrames_eq]
    split_ifs with hstopped hbroken
    · exact .of_left rfl rfl hpassed
    · exact .of_left rfl rfl hpassed
    · rw [List.nil_append, h.state hx]
      simp only
      rcases handleAll_cases env fd (Protocol.framer.split (x.buf ++ chunk)).1
          { x with buf := (Protocol.framer.split (x.buf ++ chunk)).2 } with
        ⟨passed, s, hserve, hcount, hall⟩ | ⟨passed, hserve, hhandled, hgone⟩
      · rw [hserve, hall]
        exact ⟨h.live, congrArg (· ++ passed) hpassed, fun _ => Prod.ext rfl hcount, fun _ => rfl⟩
      · rw [hserve]
        exact .of_left hgone rfl ((congrArg (· ++ passed) hpassed).trans hhandled.symm)

/-- What a session handles is what the receiver passes. -/
theorem session_eq_passed (c : Coordinator D) (chunks : List (List UInt8)) :
    c.session env fd chunks =
      (Runs.exec (Session.receive Protocol.framer (handler env fd)) { state := (c, 0) }
        chunks).passed := by
  have hrun : ∀ (x : SessionState D) (y : Session (Coordinator D × Nat) UInt8 Msg),
      Mirrors x y → Mirrors (Runs.exec (sessionTurn env fd) x chunks)
        (Runs.exec (Session.receive Protocol.framer (handler env fd)) y chunks) := by
    induction chunks with
    | nil => exact fun x y h => h
    | cons chunk rest ih => exact fun x y h => ih _ _ (h.turn chunk)
  exact (hrun _ _ ⟨rfl, rfl, fun _ => rfl, fun _ => rfl⟩).passed.symm

end Coordinator

end CollectiveScheduler
