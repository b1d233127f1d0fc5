/-
  System/System.lean --- the scheduler under its callers.

  A run is a list of calls on one scheduler.  Each call is one critical section;
  `handoff` can also be made as its two sections, with any other calls between
  them.  The answer of the fabric and the iteration order of the unordered maps
  are inputs of the call.

  Two ghost components record what the calls so far have done: every grant that
  was created, and the handoffs that are between their two sections.
-/
import CollectiveScheduler.Foundation.Runs
import CollectiveScheduler.Scheduler.Operations

set_option autoImplicit false

namespace CollectiveScheduler

open Foundation

/-- A call on the scheduler. -/
inductive Op (D : Type) where
  | publishParticipant (p : Participant)
  | publishPlan (pl : CommunicationPlan D)
  | publishDependency (dep : DependencyState)
  | publishReservation (res : Reservation D)
  | publishCongestion (cong : CongestionState D)
  | publishCapacity (cap : CapacityState D)
  | setPolicy (cfg : PolicyConfig D)
  | submit (req : CollectiveRequest D)
  | supersede (req : CollectiveRequest D)
  | cancel (id : CollectiveRequestId)
  | advanceCoordinatorEpoch (epoch : CoordinatorEpoch)
  | advanceTime (d : Nanoseconds)
  | schedule (recordOrder : List CollectiveRequestId) (grantOrder : List CollectiveGrantId)
  | handoff (g : CollectiveGrant) (accepted : Bool)
  /-- the first critical section of a handoff -/
  | handoffBegin (g : CollectiveGrant)
  /-- the second critical section of a handoff that has begun -/
  | handoffEnd (g : CollectiveGrant) (accepted : Bool)
  | complete (g : CollectiveGrant) (wb : WorkerBootId) (sb : SourceBootId)
  | fenceWorkerBoot (worker : WorkerId) (boot : WorkerBootId)
      (recordOrder : List CollectiveRequestId)
  | resetDynamicStateForRecovery

/-- What the caller sees of a call. -/
inductive Outcome (D : Type) where
  | returned
  | threw (e : SchedulerError)
  | submitted (id : CollectiveRequestId)
  | decided (dec : ScheduleDecision D)
  /-- the first section of a handoff: whether the fabric is asked -/
  | asked (pending : Bool)
  /-- the boolean result of a handoff or a completion -/
  | answered (answer : Bool)
  deriving DecidableEq

/-- The call returned true. -/
def Outcome.isTrue {D : Type} : Outcome D → Bool
  | .answered answer => answer
  | _ => false

/-- The call was a submission and was accepted. -/
def Outcome.isSubmitted {D : Type} : Outcome D → Bool
  | .submitted _ => true
  | _ => false

/-- A scheduler and the history its callers have seen. -/
structure System (D : Type) where
  sched : Scheduler D
  /-- every grant created so far -/
  issued : List CollectiveGrant := []
  /-- the handoffs between their two sections -/
  inFlight : List CollectiveGrant := []

namespace System

variable {D : Type}

/-- A fresh scheduler. -/
def start (policy : PolicyConfig D) (epoch : CoordinatorEpoch) : System D where
  sched := Scheduler.fresh policy epoch

/-- The result of a call that returns nothing. -/
def ofVoid (y : System D) (r : Scheduler D × Except SchedulerError Unit) : System D × Outcome D :=
  ({ y with sched := r.1 },
    match r.2 with
    | .ok () => .returned
    | .error e => .threw e)

/-- The result of a call that returns a boolean. -/
def ofAnswer (y : System D) (r : Scheduler D × Bool × List PortCall) : System D × Outcome D :=
  ({ y with sched := r.1 }, .answered r.2.1)

variable [Double D]

/-- One call: the next state and what the caller sees. -/
def step (y : System D) : Op D → System D × Outcome D
  | .publishParticipant p => y.ofVoid (y.sched.publishParticipant p)
  | .publishPlan pl => y.ofVoid (y.sched.publishPlan pl)
  | .publishDependency dep => y.ofVoid (y.sched.publishDependency dep)
  | .publishReservation res => y.ofVoid (y.sched.publishReservation res)
  | .publishCongestion cong => y.ofVoid (y.sched.publishCongestion cong)
  | .publishCapacity cap => y.ofVoid (y.sched.publishCapacity cap)
  | .setPolicy cfg => y.ofVoid (y.sched.setPolicy cfg, .ok ())
  | .submit req =>
      let (s, result) := y.sched.submit req
      ({ y with sched := s },
        match result with
        | .ok id => .submitted id
        | .error e => .threw e)
  | .supersede req => y.ofVoid (y.sched.supersede req)
  | .cancel id =>
      let (s, result) := y.sched.cancel id
      y.ofVoid (s, result.map (fun _ => ()))
  | .advanceCoordinatorEpoch epoch => y.ofVoid (y.sched.advanceCoordinatorEpoch epoch)
  | .advanceTime d => y.ofVoid (y.sched.advanceTime d, .ok ())
  | .schedule recordOrder grantOrder =>
      match y.sched.scheduleRound recordOrder grantOrder with
      | (s, .ok (dec, created)) =>
          ({ y with sched := s, issued := y.issued ++ created }, .decided dec)
      | (s, .error e) => ({ y with sched := s }, .threw e)
  | .handoff g accepted => y.ofAnswer (y.sched.handoff g accepted)
  | .handoffBegin g =>
      match y.sched.handoffBegin g with
      | (s, none) => ({ y with sched := s }, .asked false)
      | (s, some gc) => ({ y with sched := s, inFlight := gc :: y.inFlight }, .asked true)
  | .handoffEnd g accepted =>
      if g ∈ y.inFlight then
        ({ y with inFlight := y.inFlight.erase g }).ofAnswer (y.sched.handoffEnd g accepted)
      else (y, .returned)
  | .complete g wb sb => y.ofAnswer (y.sched.complete g wb sb)
  | .fenceWorkerBoot worker boot recordOrder =>
      y.ofVoid (y.sched.fenceWorkerBoot worker boot recordOrder, .ok ())
  | .resetDynamicStateForRecovery => y.ofVoid (y.sched.resetDynamicStateForRecovery, .ok ())

/-- The state after one call. -/
def next (y : System D) (op : Op D) : System D := (y.step op).1

/-- What the caller of one call sees. -/
def outcome (y : System D) (op : Op D) : Outcome D := (y.step op).2

/-- The state after a run. -/
def run (y : System D) (ops : List (Op D)) : System D := Runs.exec next y ops

/-! ## The scheduler after a call -/

theorem sched_next_submit (y : System D) (req : CollectiveRequest D) :
    (y.next (.submit req)).sched = (y.sched.submit req).1 := rfl

theorem sched_next_schedule (y : System D) (recordOrder : List CollectiveRequestId)
    (grantOrder : List CollectiveGrantId) :
    (y.next (.schedule recordOrder grantOrder)).sched =
      (y.sched.scheduleRound recordOrder grantOrder).1 := by
  unfold next step
  simp only
  split <;> rename_i hround <;> rw [hround]

theorem sched_next_handoffBegin (y : System D) (g : CollectiveGrant) :
    (y.next (.handoffBegin g)).sched = (y.sched.handoffBegin g).1 := by
  unfold next step
  simp only
  split <;> rename_i hbegin <;> rw [hbegin]

/-- The second section runs only for a handoff that is under way. -/
theorem sched_next_handoffEnd (y : System D) (g : CollectiveGrant) (accepted : Bool) :
    (y.next (.handoffEnd g accepted)).sched =
      if g ∈ y.inFlight then (y.sched.handoffEnd g accepted).1 else y.sched := by
  unfold next step
  simp only
  split_ifs <;> rfl

/-! ## The issued grants -/

/-- Only a round issues grants. -/
theorem issued_next (y : System D) (op : Op D) :
    (y.next op).issued = y.issued ∨
    ∃ recordOrder grantOrder s dec created, op = .schedule recordOrder grantOrder ∧
      y.sched.scheduleRound recordOrder grantOrder = (s, .ok (dec, created)) ∧
      y.next op = { y with sched := s, issued := y.issued ++ created } := by
  cases op with
  | schedule recordOrder grantOrder =>
      cases hround : y.sched.scheduleRound recordOrder grantOrder with
      | mk s result =>
          cases result with
          | error e =>
              refine .inl ?_
              simp only [next, step, hround]
          | ok result =>
              refine .inr ⟨recordOrder, grantOrder, s, result.1, result.2, rfl, hround, ?_⟩
              simp only [next, step, hround]
  | handoffBegin g =>
      refine .inl ?_
      unfold next step
      simp only
      split <;> rfl
  | handoffEnd g accepted =>
      refine .inl ?_
      unfold next step
      simp only
      split_ifs <;> rfl
  | _ => exact .inl rfl

theorem mem_issued_next {y : System D} {g : CollectiveGrant} (h : g ∈ y.issued) (op : Op D) :
    g ∈ (y.next op).issued := by
  rcases y.issued_next op with hsame | ⟨_, _, _, _, created, -, -, hnext⟩
  · rw [hsame]
    exact h
  · rw [hnext]
    exact List.mem_append_left _ h

end System

namespace Op

variable {D : Type}

/-- The grant a call is made with. -/
def grantArgument : Op D → Option CollectiveGrant
  | .handoff g _ => some g
  | .handoffBegin g => some g
  | .complete g _ _ => some g
  | _ => none

/-- The call is atomic: not one of the two sections of a handoff. -/
def isAtomic : Op D → Bool
  | .handoffBegin _ => false
  | .handoffEnd _ _ => false
  | _ => true

/-- The call publishes, sets or advances something, and reads no record or grant. -/
def isQuiet : Op D → Bool
  | .publishPlan _ => true
  | .publishDependency _ => true
  | .publishReservation _ => true
  | .publishCongestion _ => true
  | .publishCapacity _ => true
  | .setPolicy _ => true
  | .advanceCoordinatorEpoch _ => true
  | .advanceTime _ => true
  | _ => false

/-- The call is made with a grant the scheduler issued, if with any. -/
def UsesIssued (y : System D) (op : Op D) : Prop :=
  ∀ g ∈ op.grantArgument, g ∈ y.issued

instance (y : System D) (op : Op D) : Decidable (op.UsesIssued y) :=
  inferInstanceAs (Decidable (∀ g ∈ op.grantArgument, g ∈ y.issued))

end Op

section Runs

variable {D : Type} [Double D]

/-- A run of atomic calls with issued grants. -/
def AtomicRun (y : System D) (ops : List (Op D)) : Prop :=
  Runs.Admissible System.next (fun y op => op.isAtomic = true ∧ op.UsesIssued y) y ops

/-- A run of critical sections in any interleaving, with issued grants. -/
def InterleavedRun (y : System D) (ops : List (Op D)) : Prop :=
  Runs.Admissible System.next (fun y op => op.UsesIssued y) y ops

instance (y : System D) (ops : List (Op D)) : Decidable (AtomicRun y ops) :=
  inferInstanceAs (Decidable (Runs.Admissible _ _ y ops))

instance (y : System D) (ops : List (Op D)) : Decidable (InterleavedRun y ops) :=
  inferInstanceAs (Decidable (Runs.Admissible _ _ y ops))

end Runs

end CollectiveScheduler
