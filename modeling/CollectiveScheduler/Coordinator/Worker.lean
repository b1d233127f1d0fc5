/-
  Coordinator/Worker.lean --- the reference worker.

  Source: src/worker.cpp.

  A worker registers, publishes its participants and then answers every GRANT that names
  one of them.  The options it was started with are its parameters; the pieces that
  `recv` returns are inputs.  An exception that leaves the loop ends the process, and
  whoever leaves the loop otherwise sends SHUTDOWN first.
-/
import CollectiveScheduler.Coordinator.Coordinator
import CollectiveScheduler.Protocol.Frame

set_option autoImplicit false

namespace CollectiveScheduler

open Foundation

/-- The options of a worker. -/
structure Worker where
  worker : WorkerId
  boot : WorkerBootId
  participants : List ParticipantId
  deriving DecidableEq, Repr

namespace Worker

/-- A participant as the worker publishes it. -/
def participant (w : Worker) (pid : ParticipantId) : Participant where
  id := pid
  gen := 1
  worker := w.worker
  workerBoot := w.boot
  source := 1
  sourceBoot := 100
  device := ⟨pid.value⟩
  node := 1
  nic := ⟨pid.value⟩
  capabilityGen := 1
  healthGen := 1
  topologyGen := 1
  ready := true
  readinessSource := .real
  provenance := .real

open PersistenceWriter in
/-- What a worker sends when it has connected. -/
def prologue (w : Worker) : List Msg :=
  [{ type := .hello, seq := 0, payload := [] },
    { type := .register, seq := 1, payload := [ident w.worker, ident w.boot].flatten }] ++
    w.participants.map (fun pid =>
      { type := .publishParticipant, seq := 2,
        payload := serializeParticipant (w.participant pid) })

/-- The source boot that every worker reports. -/
def sourceBoot : SourceBootId := 100

/-- One of the participants of the grant is the worker's. -/
def concerns (w : Worker) (g : CollectiveGrant) : Bool :=
  g.participants.any (fun pid => pid ∈ w.participants)

/-- The answers to a message; nothing where its payload makes the reader throw. -/
def answers (w : Worker) (m : Msg) : Option (List Msg) :=
  match m.type with
  | .grant =>
      match m.read deserializeGrant with
      | .error _ => none
      | .ok g =>
          if w.concerns g && !g.terminal then
            some [Msg.executionAccepted m.seq g, Msg.complete (m.seq + 1) g w.boot sourceBoot]
          else some []
  | _ => some []

/-- Where a worker process is. -/
inductive Status where
  /-- in the loop -/
  | looping
  /-- the loop was left, and SHUTDOWN sent -/
  | left
  /-- an exception has ended the process -/
  | crashed
  deriving DecidableEq, Repr

/-- `send_frame(fd, MsgType::SHUTDOWN, 999, {})`. -/
def farewell : Msg := { type := .shutdown, seq := 999, payload := [] }

/-- `for (auto& m : msgs)`: the answers, whether the loop over `recv` goes on, and whether a
message threw. -/
def answerAll (w : Worker) : List Msg → List Msg × Status
  | [] => ([], .looping)
  | m :: ms =>
      match w.answers m with
      | none => ([], .crashed)
      | some sent =>
          let (later, status) := answerAll w ms
          (sent ++ later,
            if m.type = .shutdown ∧ status = .looping then .left else status)

/-- The body of the loop with the bytes that `recv` returns, none if the connection is
gone: the buffer, where the process is afterwards, and what it sends. -/
def turn (w : Worker) (buf chunk : List UInt8) : List UInt8 × Status × List Msg :=
  if chunk = [] then (buf, .left, [farewell])
  else
    match Protocol.decodeFrames (buf ++ chunk) [] with
    | (false, buf', _) => (buf', .left, [farewell])
    | (true, buf', msgs) =>
        match w.answerAll msgs with
        | (sent, .left) => (buf', .left, sent ++ [farewell])
        | (sent, status) => (buf', status, sent)

end Worker

end CollectiveScheduler
