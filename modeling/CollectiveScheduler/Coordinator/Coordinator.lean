/-
  Coordinator/Coordinator.lean --- the reference multiprocess coordinator.

  Source: `Coordinator::run`, `Coordinator::session` and `Coordinator::handle_message`
  of src/coordinator.cpp.

  The handling of a message makes at most one call that changes the scheduler, so
  messages of different sessions are handled one after the other.  QUERY_SCHEDULE also
  reads its grants back, here from the state its round leaves.  The iteration order of
  the unordered maps and whether the file can be opened are inputs of the handling.
-/
import CollectiveScheduler.Protocol.Payload
import CollectiveScheduler.System.World

set_option autoImplicit false

namespace CollectiveScheduler

open Foundation

/-- A coordinator process. -/
structure Coordinator (D : Type) where
  sys : System D
  /-- the sockets of the sessions -/
  sessions : List Nat := []
  running : Bool := true
  staleRejections : Int32 := 0
  grantsIssued : Int32 := 0
  /-- `persist_file` is not empty -/
  persists : Bool := false
  /-- the contents of the file, if there is one -/
  file : Option (List UInt8) := none
  /-- an exception has left `handle_message` -/
  terminated : Bool := false

namespace Coordinator

/-- What the environment decides while a message is handled. -/
structure Env where
  recordOrder : List CollectiveRequestId := []
  grantOrder : List CollectiveGrantId := []
  /-- the file can be opened for writing -/
  writable : Bool := true

/-- What happens to a coordinator. -/
inductive Event where
  | connect (fd : Nat)
  | deliver (env : Env) (fd : Nat) (m : Msg)
  | disconnect (fd : Nat)

variable {D : Type}

/-- A call with a decoded payload; a payload that does not decode is dropped, and so is
what the call throws. -/
def call [Double D] {α : Type} (c : Coordinator D) (payload : Except SchedulerError α)
    (op : α → Op D) : Coordinator D :=
  match payload with
  | .error _ => c
  | .ok a => { c with sys := c.sys.next (op a) }

open PersistenceReader in
/-- The payload of COMPLETE. -/
def readCompletion : Read (CollectiveGrant × WorkerBootId × SourceBootId) := do
  let g ← deserializeGrant
  let wb ← ident
  let sb ← ident
  return (g, wb, sb)

open PersistenceReader in
/-- The payload of FENCE_WORKER. -/
def readFence : Read (WorkerId × WorkerBootId) := do
  let wid ← ident
  let wb ← ident
  return (wid, wb)

open PersistenceWriter in
/-- The summary of a round for the session that asked for it. -/
def summary (c : Coordinator D) (dec : ScheduleDecision D) : List UInt8 :=
  [u64 (UInt64.ofNat dec.selected.length), u64 c.grantsIssued.toInt64.toUInt64,
    u64 c.staleRejections.toInt64.toUInt64].flatten

section Handling

variable [Double D]

/-- `handle_message`, with the frames it sends; nothing where it throws. -/
def handleMessage (c : Coordinator D) (env : Env) (fd : Nat) (m : Msg) :
    Option (Coordinator D × List (Nat × Msg)) :=
  let reply (type : MsgType) (payload : List UInt8) : Nat × Msg :=
    (fd, { type := type, seq := m.seq, payload := payload })
  match m.type with
  | .hello => some (c, [reply .hello []])
  | .register => some (c, [reply .hello []])
  | .publishParticipant =>
      some (c.call (m.read deserializeParticipant) .publishParticipant, [])
  | .updatePlan => some (c.call (m.read deserializePlan) .publishPlan, [])
  | .updateCongestion => some (c.call (m.read deserializeCongestion) .publishCongestion, [])
  | .updateReservation => some (c.call (m.read deserializeReservation) .publishReservation, [])
  | .updateCapacity => some (c.call (m.read deserializeCapacity) .publishCapacity, [])
  | .updateDependency =>
      some (c.call (m.read deserializeDependencyState) .publishDependency, [])
  | .submitCollective =>
      match m.read deserializeRequest with
      | .error _ => some (c, [reply .error []])
      | .ok req =>
          let c' := { c with sys := c.sys.next (.submit req) }
          match c.sys.outcome (.submit req) with
          | .submitted id => some (c', [reply .error (PersistenceWriter.ident id)])
          | _ => some (c', [reply .error []])
  | .querySchedule =>
      match c.sys.outcome (.schedule env.recordOrder env.grantOrder) with
      | .decided dec =>
          let y := c.sys.next (.schedule env.recordOrder env.grantOrder)
          let found := dec.grants.filterMap y.sched.grantById
          let c' := { c with
            sys := y, grantsIssued := c.grantsIssued + Int32.ofNat found.length }
          let frame (g : CollectiveGrant) : Msg :=
            { type := .grant, seq := m.seq, payload := serializeGrant g }
          some (c', found.flatMap (fun g => c.sessions.map (fun sess => (sess, frame g))) ++
            [reply .hello (c'.summary dec)])
      | _ => none
  | .complete =>
      match m.read readCompletion with
      | .error _ => some (c, [])
      | .ok (g, wb, sb) =>
          some ({ c with
            sys := c.sys.next (.complete g wb sb)
            staleRejections := if (c.sys.outcome (.complete g wb sb)).isTrue then
                c.staleRejections
              else c.staleRejections + 1 }, [])
  | .fenceWorker =>
      match m.read readFence with
      | .error _ => some (c, [])
      | .ok (wid, wb) =>
          some ({ c with sys := c.sys.next (.fenceWorkerBoot wid wb env.recordOrder) },
            [reply .hello []])
  | .save =>
      if c.persists && env.writable then
        some ({ c with file := some (Persistence.save c.sys.sched env.recordOrder) }, [])
      else some (c, [])
  | .shutdown => some ({ c with running := false }, [])
  | _ => some (c, [])

/-- The coordinator after one event. -/
def next (c : Coordinator D) : Event → Coordinator D
  | .connect fd => { c with sessions := c.sessions ++ [fd] }
  | .deliver env fd m =>
      if c.terminated then c
      else
        match c.handleMessage env fd m with
        | some (c', _) => c'
        | none => { c with terminated := true }
  | .disconnect fd => { c with sessions := c.sessions.filter (· ≠ fd) }

/-- The coordinator after a list of events. -/
def serve (c : Coordinator D) (events : List Event) : Coordinator D := Runs.exec next c events

/-- `run` up to its loop: the scheduler is restored from the file, whatever it holds, and
brought to the epoch of the options. -/
def start (epoch : CoordinatorEpoch) (persists : Bool) (file : Option (List UInt8)) :
    Coordinator D :=
  let fresh : Scheduler D := Scheduler.fresh PolicyConfig.default 1
  let s :=
    match persists, file with
    | true, some bytes => (Persistence.restore fresh bytes).1
    | _, _ => fresh
  { sys := { sched := if s.epoch < epoch then (s.advanceCoordinatorEpoch epoch).1 else s }
    persists := persists
    file := file }

end Handling

end Coordinator

/-! ## The answers of a worker -/

open PersistenceWriter in
/-- EXECUTION_ACCEPTED, the first answer of src/worker.cpp to a GRANT. -/
def Msg.executionAccepted (seq : UInt64) (g : CollectiveGrant) : Msg where
  type := .executionAccepted
  seq := seq
  payload := [serializeGrant g, ident g.workload].flatten

open PersistenceWriter in
/-- COMPLETE, its second answer, with the boots of the worker and its source. -/
def Msg.complete (seq : UInt64) (g : CollectiveGrant) (wb : WorkerBootId) (sb : SourceBootId) :
    Msg where
  type := .complete
  seq := seq
  payload := [serializeGrant g, ident wb, ident sb].flatten

/-! ## The calls of a coordinator -/

section Calls

variable {D : Type}

/-- The calls that some message leads to. -/
def Op.isServed : Op D → Bool
  | .publishParticipant _ => true
  | .publishPlan _ => true
  | .publishDependency _ => true
  | .publishReservation _ => true
  | .publishCongestion _ => true
  | .publishCapacity _ => true
  | .submit _ => true
  | .schedule _ _ => true
  | .complete _ _ _ => true
  | .fenceWorkerBoot _ _ _ => true
  | _ => false

variable [Double D]

namespace Coordinator

/-- What a message leaves behind: the scheduler is as it was or has served one call, and
only SHUTDOWN ends the loops. -/
structure Handled (c : Coordinator D) (m : Msg) (c' : Coordinator D) : Prop where
  sys : c'.sys = c.sys ∨ ∃ op : Op D, op.isServed = true ∧ c'.sys = c.sys.next op
  running : c'.running = (c.running && decide (m.type ≠ .shutdown))

variable {c c' : Coordinator D} {m : Msg}

theorem Handled.quiet (hm : m.type ≠ .shutdown) (hsys : c'.sys = c.sys)
    (hrunning : c'.running = c.running) : c.Handled m c' where
  sys := .inl hsys
  running := by rw [hrunning, decide_eq_true hm, Bool.and_true]

theorem Handled.served (hm : m.type ≠ .shutdown) (op : Op D) (hop : op.isServed = true)
    (hsys : c'.sys = c.sys.next op) (hrunning : c'.running = c.running) : c.Handled m c' where
  sys := .inr ⟨op, hop, hsys⟩
  running := by rw [hrunning, decide_eq_true hm, Bool.and_true]

theorem Handled.call (hm : m.type ≠ .shutdown) {α : Type} (payload : Except SchedulerError α)
    {op : α → Op D} (hop : ∀ a, (op a).isServed = true) : c.Handled m (c.call payload op) := by
  cases payload with
  | error e => exact .quiet hm rfl rfl
  | ok a => exact .served hm (op a) (hop a) rfl rfl

/-- Every message that is handled leaves that behind. -/
theorem handleMessage_handled {env : Env} {fd : Nat} {frames : List (Nat × Msg)}
    (h : c.handleMessage env fd m = some (c', frames)) : c.Handled m c' := by
  have hto : ∀ {c'' : Coordinator D} {out : List (Nat × Msg)},
      some (c'', out) = some (c', frames) → c.Handled m c'' → c.Handled m c' := by
    intro c'' out heq hhandled
    cases heq
    exact hhandled
  unfold handleMessage at h
  by_cases hm : m.type = .shutdown
  · simp only [hm] at h
    refine hto h ⟨.inl rfl, ?_⟩
    rw [hm]
    exact (Bool.and_false _).symm
  · cases htype : m.type with
    | publishParticipant => rw [htype] at h; exact hto h (.call hm _ fun _ => rfl)
    | updatePlan => rw [htype] at h; exact hto h (.call hm _ fun _ => rfl)
    | updateCongestion => rw [htype] at h; exact hto h (.call hm _ fun _ => rfl)
    | updateReservation => rw [htype] at h; exact hto h (.call hm _ fun _ => rfl)
    | updateCapacity => rw [htype] at h; exact hto h (.call hm _ fun _ => rfl)
    | updateDependency => rw [htype] at h; exact hto h (.call hm _ fun _ => rfl)
    | submitCollective =>
        simp only [htype] at h
        split at h
        · exact hto h (.quiet hm rfl rfl)
        · rename_i req _
          split at h <;> exact hto h (.served hm (.submit req) rfl rfl rfl)
    | querySchedule =>
        simp only [htype] at h
        split at h
        · exact hto h (.served hm (.schedule env.recordOrder env.grantOrder) rfl rfl rfl)
        · cases h
    | complete =>
        simp only [htype] at h
        split at h
        · exact hto h (.quiet hm rfl rfl)
        · rename_i g wb sb _
          exact hto h (.served hm (.complete g wb sb) rfl rfl rfl)
    | fenceWorker =>
        simp only [htype] at h
        split at h
        · exact hto h (.quiet hm rfl rfl)
        · rename_i wid wb _
          exact hto h (.served hm (.fenceWorkerBoot wid wb env.recordOrder) rfl rfl rfl)
    | save =>
        simp only [htype] at h
        split_ifs at h <;> exact hto h (.quiet hm rfl rfl)
    | shutdown => exact absurd htype hm
    | _ => rw [htype] at h; exact hto h (.quiet hm rfl rfl)

/-- SHUTDOWN does not throw. -/
theorem handleMessage_shutdown (c : Coordinator D) (env : Env) (fd : Nat)
    (h : m.type = .shutdown) :
    c.handleMessage env fd m = some ({ c with running := false }, []) := by
  rw [handleMessage, h]

/-- An event leaves the scheduler alone or makes one of these calls. -/
theorem next_cases (c : Coordinator D) (e : Event) :
    (c.next e).sys = c.sys ∨
      ∃ op : Op D, op.isServed = true ∧ (c.next e).sys = c.sys.next op := by
  cases e with
  | connect fd => exact .inl rfl
  | disconnect fd => exact .inl rfl
  | deliver env fd m =>
      unfold next
      simp only
      split
      · exact .inl rfl
      · split
        · rename_i c' frames hhandle
          exact (handleMessage_handled hhandle).sys
        · exact .inl rfl

end Coordinator

end Calls

end CollectiveScheduler
