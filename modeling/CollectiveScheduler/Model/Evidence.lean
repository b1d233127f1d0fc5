/-
  Model/Evidence.lean --- the evidence other runtimes publish.

  Source: include/collective_scheduler/participant.hpp, plan.hpp, dependency.hpp,
  reservation.hpp, congestion.hpp and capacity.hpp.
-/
import CollectiveScheduler.Model.Identity
import CollectiveScheduler.Model.Enums

set_option autoImplicit false

namespace CollectiveScheduler

/-- A participant: an identity and a generation bound to a worker boot. -/
structure Participant where
  id : ParticipantId
  gen : ParticipantGeneration
  worker : WorkerId
  workerBoot : WorkerBootId
  source : SourceId
  sourceBoot : SourceBootId
  device : DeviceId
  node : NodeId
  nic : NicId
  capabilityGen : CapabilityGeneration
  healthGen : HealthGeneration
  topologyGen : TopologyGeneration
  processId : UInt32 := 0
  ready : Bool := false
  readinessSource : ProvenanceStatus := .unknown
  provenance : ProvenanceStatus := .unknown
  deriving DecidableEq, Repr

/-- `!ready || readiness_source == UNKNOWN`, negated: the test every reader of a
participant makes. -/
def Participant.isAvailable (p : Participant) : Bool :=
  p.ready && p.readinessSource != .unknown

/-- How participants may exchange data. -/
structure CommunicationPlan (D : Type) where
  id : CommunicationPlanId
  gen : CommunicationPlanGeneration
  kind : CollectiveKind := .unknown
  topologyGen : TopologyGeneration
  participants : List ParticipantId := []
  flows : List FlowId := []
  resources : List ResourceId := []
  links : List LinkId := []
  paths : List PathId := []
  byteCount : UInt64 := 0
  /-- bytes per second -/
  estimatedBandwidth : D
  estimatedDurationNs : Nanoseconds := 0
  communicationCost : Nanoseconds := 0
  provenance : ProvenanceStatus := .synthetic
  valid : Bool := false
  deriving DecidableEq, Repr

/-- Readiness of one dependency edge. -/
structure DependencyState where
  id : DependencyId
  kind : DependencyKind := .custom
  gen : DependencyGeneration
  satisfied : Bool := false
  source : ProvenanceStatus := .unknown
  deriving DecidableEq, Repr

/-- A bandwidth or resource reservation. -/
structure Reservation (D : Type) where
  gen : ReservationGeneration
  strength : ReservationStrength := .none
  reservedBandwidth : D
  resources : List ResourceId := []
  links : List LinkId := []
  windowStartNs : Nanoseconds := 0
  windowEndNs : Nanoseconds := 0
  provenance : ProvenanceStatus := .reported
  valid : Bool := false
  deriving DecidableEq, Repr

/-- Live congestion evidence. -/
structure CongestionState (D : Type) where
  gen : CongestionGeneration
  utilization : D
  residualBandwidth : D
  isCongested : Bool := false
  /-- whether the hard policy ceiling applies -/
  hardCeiling : Bool := false
  hardCeilingUtilization : D
  backpressureIntent : Bool := false
  bottlenecks : List LinkId := []
  provenance : ProvenanceStatus := .reported
  deriving DecidableEq, Repr

/-- Currently usable capacity. -/
structure CapacityState (D : Type) where
  gen : CapacityGeneration
  usableCapacity : D
  headroom : D
  confidence : D
  provenance : ProvenanceStatus := .reported
  deriving DecidableEq, Repr

end CollectiveScheduler
