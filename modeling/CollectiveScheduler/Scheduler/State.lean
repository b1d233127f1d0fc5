/-
  Scheduler/State.lean --- the scheduler's internal state.

  Source: `Scheduler::Record`, `Scheduler::GrantState` and the data members of
  `Scheduler::Impl` in src/scheduler.cpp, and its constructor.

  The mutex is not part of the state: an operation of the model is one critical
  section.  The ports are not part of it either; an operation returns the port
  calls it makes after releasing the lock.
-/
import CollectiveScheduler.Foundation.FinMap
import CollectiveScheduler.Model.Conflict
import CollectiveScheduler.Model.Scheduling

set_option autoImplicit false

namespace CollectiveScheduler

open Foundation

/-- `std::set`: a finite map to nothing. -/
abbrev OrdSet (K : Type) [LinearOrder K] := FinMap K Unit

/-- The index from a participant to the ids of its active grants. -/
abbrev ActiveIndex := FinMap ParticipantId (OrdSet CollectiveGrantId)

/-- `Scheduler::Record`: one tracked collective request. -/
structure Record (D : Type) where
  request : CollectiveRequest D
  lifecycle : LifecycleState := .declared
  lastReadiness : Readiness := .unknown
  enqueueSeq : UInt64 := 0
  ageTicks : UInt64 := 0
  fairness : FairnessAccount D
  eligibilityReasons : List RejectionReason := []
  hardEligible : Bool := false
  inReadyQueue : Bool := false
  footprint : Footprint := {}
  currentGrant : Option CollectiveGrant := none
  deriving DecidableEq, Repr

/-- `Scheduler::GrantState`: the scheduler's own view of an issued grant. -/
structure GrantState where
  grant : CollectiveGrant
  handedOff : Bool := false
  active : Bool := false
  terminal : Bool := false
  completedBy : WorkerBootId := 0
  completedBySource : SourceBootId := 0
  deriving DecidableEq, Repr

/-- A grant that is executing: active and without a terminal outcome. -/
def GrantState.isLive (gs : GrantState) : Bool := gs.active && !gs.terminal

/-- `Scheduler::Impl`. -/
structure Scheduler (D : Type) where
  epoch : CoordinatorEpoch
  now : Nanoseconds := 0
  policy : PolicyConfig D
  records : FinMap CollectiveRequestId (Record D) := .empty
  participants : FinMap ParticipantId Participant := .empty
  plans : FinMap CommunicationPlanId (CommunicationPlan D) := .empty
  deps : FinMap DependencyId DependencyState := .empty
  reservations : FinMap ReservationGeneration (Reservation D) := .empty
  congestion : Option (CongestionState D) := none
  capacity : Option (CapacityState D) := none
  grants : FinMap CollectiveGrantId GrantState := .empty
  participantRequests : FinMap ParticipantId (OrdSet CollectiveRequestId) := .empty
  activeByParticipant : ActiveIndex := .empty
  nextSeq : UInt64 := 0
  nextRequestId : CollectiveRequestId := 1
  nextScheduleId : CollectiveScheduleId := 1
  nextGrantId : CollectiveGrantId := 1
  nextGroupId : CollectiveGroupId := 1
  nextScheduleGen : CollectiveScheduleGeneration := 1
  nextGrantGen : CollectiveGrantGeneration := 1
  nextGroupGen : CollectiveGroupGeneration := 1
  activeGrants : Nat := 0
  queuedCount : Nat := 0
  readyCount : Nat := 0
  eligibleCount : Nat := 0
  capacityGen : CapacityGeneration := 0
  congestionGen : CongestionGeneration := 0
  reservationGen : ReservationGeneration := 0
  policyGen : PolicyGeneration := 0
  priorityGen : PriorityGeneration := 1
  fairnessGen : FairnessGeneration := 1
  topologyGen : TopologyGeneration := 0
  capabilityGen : CapabilityGeneration := 0
  healthGen : HealthGeneration := 0
  deriving DecidableEq

/-- `Scheduler::Scheduler(Options)`: a fresh scheduler. -/
def Scheduler.fresh {D : Type} (policy : PolicyConfig D) (startEpoch : CoordinatorEpoch) :
    Scheduler D where
  epoch := startEpoch
  policy := policy

/-- Every record is filed under the id of its request. -/
def Scheduler.Keyed {D : Type} (s : Scheduler D) : Prop :=
  ∀ id rec, s.records.find? id = some rec → rec.request.id = id

/-- The calls an operation makes on the ports once the lock is released. -/
inductive PortCall where
  | fabricAccept (grant : CollectiveGrant)
  | fabricRevoke (grant : CollectiveGrant)
  | brokerRelease (workload : WorkloadId)
  | requestPreemption (holder requester : CollectiveRequestId)
      (action : PriorityInversionAction)
  deriving DecidableEq, Repr

end CollectiveScheduler
