/-
  Coordinator/Network.lean --- a coordinator, its workers and other clients.

  Source: the accept loop and `Coordinator::session` of src/coordinator.cpp, and the
  connection that src/worker.cpp opens.

  Every connection has a session thread at the coordinator and a program at its other
  end, a reference worker or a client that may write any bytes.  A step is taken by one
  of these parties: the test of `running`, one `recv`, the handling of one message.  The
  handling of QUERY_SCHEDULE is two steps, since other sessions may call the scheduler
  between the round and the broadcast.  Bytes travel in order, in pieces that the step
  chooses.

  Three things are coarser than in the source.  A frame is written in one step: two
  threads that call `send_frame` on one socket do not mix their bytes, which no lock of
  the source rules out (`send_all` may need several calls of `send`).  A broadcast is one
  step with the calls of `grantById` in front of it, between which other sessions could
  run.  And the accept loop goes on after SHUTDOWN, where the source accepts one more
  connection at most.
-/
import CollectiveScheduler.Coordinator.Session
import CollectiveScheduler.Coordinator.Worker
import CollectiveScheduler.Foundation.Stream

set_option autoImplicit false

namespace CollectiveScheduler

open Foundation

/-- `encode_frame` on a message. -/
def Msg.frame (m : Msg) : List UInt8 := Protocol.encodeFrame m.type m.seq m.payload

namespace Network

variable {D : Type}

/-- The program at the other end of a connection. -/
inductive Peer where
  | worker (w : Worker)
  | client
  deriving DecidableEq

/-- Where a session thread is. -/
inductive Phase (D : Type) where
  /-- before the test of `running` -/
  | testing
  /-- in `recv` -/
  | receiving
  /-- in the loop over the messages, with those that are left -/
  | handling (msgs : List Msg)
  /-- QUERY_SCHEDULE: the round has been taken, its grants are still to be sent -/
  | broadcasting (seq : UInt64) (dec : ScheduleDecision D) (msgs : List Msg)
  /-- the loop was left and the socket closed -/
  | closed

/-- A connection. -/
structure Link (D : Type) where
  peer : Peer
  up : Pipe UInt8 Msg := {}
  down : Pipe UInt8 Msg := {}
  phase : Phase D := .testing
  status : Worker.Status := .looping

/-- A connection that was just accepted: a worker has sent its prologue. -/
def Link.opened : Peer → Link D
  | .worker w => { peer := .worker w, up := ({} : Pipe UInt8 Msg).write Msg.frame w.prologue }
  | .client => { peer := .client }

/-- The session thread has not left its loop. -/
def Phase.isOpen : Phase D → Bool
  | .closed => false
  | _ => true

end Network

/-- A coordinator and its connections, by their sockets. -/
structure Network (D : Type) where
  coordinator : Coordinator D
  links : FinMap Nat (Network.Link D) := FinMap.empty

namespace Network

variable {D : Type}

/-- A step of one of the parties. -/
inductive Action where
  /-- a program connects -/
  | connect (fd : Nat) (peer : Peer)
  /-- a client writes bytes -/
  | write (fd : Nat) (bytes : List UInt8)
  /-- a session tests `running` -/
  | test (fd : Nat)
  /-- a session receives so many bytes at most -/
  | recv (fd : Nat) (n : Nat)
  /-- `recv` of a session fails: its peer is gone -/
  | hangUp (fd : Nat)
  /-- a session goes on with its messages -/
  | handle (fd : Nat) (env : Coordinator.Env)
  /-- a worker receives so many bytes at most, none if its session is closed -/
  | workerRecv (fd : Nat) (n : Nat)

/-- Write frames to the sockets they are for. -/
def send (links : FinMap Nat (Link D)) (frames : List (Nat × Msg)) : FinMap Nat (Link D) :=
  frames.foldl (fun links f => links.modify f.1 (fun l =>
    { l with down := l.down.write Msg.frame [f.2] })) links

/-- The messages among the frames that are for a socket. -/
def messagesFor (fd : Nat) (frames : List (Nat × Msg)) : List Msg :=
  (frames.filter (fun f => f.1 = fd)).map Prod.snd

/-- What a session has still to handle of the messages it has taken. -/
def Phase.pending : Phase D → List Msg
  | .handling msgs => msgs
  | .broadcasting _ _ msgs => msgs
  | _ => []

/-- The message that a session handles next, with those behind it. -/
def Phase.head : Phase D → Option (Msg × List Msg)
  | .handling (m :: rest) => some (m, rest)
  | _ => none

/-- The end of `session`: the socket is taken from the list and closed. -/
def close (net : Network D) (fd : Nat) (l : Link D) : Network D :=
  { coordinator := { net.coordinator with
      sessions := net.coordinator.sessions.filter (· ≠ fd) }
    links := net.links.insert fd { l with phase := .closed } }

/-- `++grants_issued` for each grant of a round that is read back. -/
def counted (c : Coordinator D) (dec : ScheduleDecision D) : Coordinator D :=
  { c with grantsIssued := c.grantsIssued +
      Int32.ofNat (dec.grants.filterMap c.sys.sched.grantById).length }

/-- GRANT. -/
def grantMsg (seq : UInt64) (g : CollectiveGrant) : Msg where
  type := .grant
  seq := seq
  payload := serializeGrant g

/-- The summary of a round. -/
def summaryMsg (seq : UInt64) (c : Coordinator D) (dec : ScheduleDecision D) : Msg where
  type := .hello
  seq := seq
  payload := c.summary dec

/-- The grants of a round as they are read back, for every session, and the summary for the
session that asked for it. -/
def broadcastFrames (c : Coordinator D) (fd : Nat) (seq : UInt64) (dec : ScheduleDecision D) :
    List (Nat × Msg) :=
  (dec.grants.filterMap c.sys.sched.grantById).flatMap
      (fun g => c.sessions.map (fun sess => (sess, grantMsg seq g))) ++
    [(fd, summaryMsg seq (counted c dec) dec)]

/-- The second half of QUERY_SCHEDULE. -/
def broadcast (net : Network D) (fd : Nat) (l : Link D) (seq : UInt64) (dec : ScheduleDecision D)
    (rest : List Msg) : Network D :=
  { coordinator := counted net.coordinator dec
    links := send (net.links.insert fd { l with phase := .handling rest })
      (broadcastFrames net.coordinator fd seq dec) }

section Steps

variable [Double D]

/-- The next message of a session. -/
def handleNext (net : Network D) (fd : Nat) (l : Link D) (env : Coordinator.Env) (m : Msg)
    (rest : List Msg) : Network D :=
  let c := net.coordinator
  if m.type = .querySchedule then
    match c.sys.outcome (.schedule env.recordOrder env.grantOrder) with
    | .decided dec =>
        { coordinator := { c with sys := c.sys.next (.schedule env.recordOrder env.grantOrder) }
          links := net.links.insert fd { l with phase := .broadcasting m.seq dec rest } }
    | _ => { net with coordinator := { c with terminated := true } }
  else
    match c.handleMessage env fd m with
    | some (c', frames) =>
        { coordinator := c'
          links := send (net.links.insert fd { l with phase := .handling rest }) frames }
    | none => { net with coordinator := { c with terminated := true } }

/-- The network after one step; a step that its party cannot take changes nothing. -/
def next (net : Network D) : Action → Network D
  | .connect fd peer =>
      if (net.links.find? fd).any (fun l => l.phase.isOpen) then net
      else
        { coordinator := { net.coordinator with sessions := net.coordinator.sessions ++ [fd] }
          links := net.links.insert fd (.opened peer) }
  | .write fd bytes =>
      match net.links.find? fd with
      | some l =>
          match l.peer with
          | .client => { net with links := net.links.insert fd { l with up := l.up.push bytes } }
          | .worker _ => net
      | none => net
  | .test fd =>
      match net.links.find? fd with
      | some l =>
          match l.phase with
          | .testing =>
              if net.coordinator.running then
                { net with links := net.links.insert fd { l with phase := .receiving } }
              else net.close fd l
          | _ => net
      | none => net
  | .recv fd n =>
      match net.links.find? fd with
      | some l =>
          match l.phase with
          | .receiving =>
              let chunk := l.up.transit.take (min n Coordinator.recvLimit)
              if chunk = [] then net
              else
                match Protocol.decodeFrames (l.up.buffer ++ chunk) [] with
                | (false, _, _) => net.close fd l
                | (true, buffer, msgs) =>
                    { net with
                      links := net.links.insert fd { l with
                        up := { l.up with
                          taken := l.up.taken ++ msgs
                          buffer := buffer
                          transit := l.up.transit.drop (min n Coordinator.recvLimit) }
                        phase := .handling msgs } }
          | _ => net
      | none => net
  | .hangUp fd =>
      match net.links.find? fd with
      | some l =>
          match l.phase with
          | .receiving => net.close fd l
          | _ => net
      | none => net
  | .handle fd env =>
      if net.coordinator.terminated then net
      else
        match net.links.find? fd with
        | some l =>
            match l.phase with
            | .handling [] =>
                { net with links := net.links.insert fd { l with phase := .testing } }
            | .handling (m :: rest) => net.handleNext fd l env m rest
            | .broadcasting seq dec rest => net.broadcast fd l seq dec rest
            | _ => net
        | none => net
  | .workerRecv fd n =>
      match net.links.find? fd with
      | some l =>
          match l.peer, l.status with
          | .worker w, .looping =>
              let chunk := l.down.transit.take (min n Coordinator.recvLimit)
              if chunk = [] ∧ l.phase.isOpen = true then net
              else
                match w.turn l.down.buffer chunk with
                | (buffer, status, sent) =>
                    { net with
                      links := net.links.insert fd { l with
                        down := { l.down with
                          taken := l.down.taken ++ (Protocol.framer.split
                            (l.down.buffer ++ chunk)).1
                          buffer := buffer
                          transit := l.down.transit.drop (min n Coordinator.recvLimit) }
                        up := l.up.write Msg.frame sent
                        status := status } }
          | _, _ => net
      | none => net

/-- The network after a list of steps. -/
def run (net : Network D) (actions : List Action) : Network D := Runs.exec next net actions

/-- A coordinator that has just started, without a file to restore. -/
def start (epoch : CoordinatorEpoch) (persists : Bool) : Network D where
  coordinator := Coordinator.start epoch persists none

end Steps

end Network

end CollectiveScheduler
