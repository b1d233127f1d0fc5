/-
  Model/Scheduling.lean --- grants and scheduling decisions.

  Source: include/collective_scheduler/scheduling.hpp and overlap.hpp.
-/
import CollectiveScheduler.Foundation.SortUnique
import CollectiveScheduler.Model.Identity
import CollectiveScheduler.Model.Enums

set_option autoImplicit false

namespace CollectiveScheduler

open Foundation

/-- The generations that were current when a decision or grant was produced. -/
structure EvidenceSnapshot where
  epoch : CoordinatorEpoch := 0
  collectiveGen : CollectiveGeneration := 0
  requestGen : CollectiveRequestGeneration := 0
  planGen : CommunicationPlanGeneration := 0
  participantGen : ParticipantGeneration := 0
  dependencyGen : DependencyGeneration := 0
  reservationGen : ReservationGeneration := 0
  congestionGen : CongestionGeneration := 0
  capacityGen : CapacityGeneration := 0
  policyGen : PolicyGeneration := 0
  priorityGen : PriorityGeneration := 0
  fairnessGen : FairnessGeneration := 0
  topologyGen : TopologyGeneration := 0
  capabilityGen : CapabilityGeneration := 0
  healthGen : HealthGeneration := 0
  deriving DecidableEq, Repr

/-- What has to be revalidated before handoff and before completion. -/
structure RevalidationRequirements where
  requireFreshParticipants : Bool := true
  requireFreshPlan : Bool := true
  requireFreshReservation : Bool := true
  requireFreshDependencies : Bool := true
  requireFreshCongestion : Bool := true
  requireFreshCapacity : Bool := true
  requireFreshExecutionAuthority : Bool := true
  requireCurrentEpoch : Bool := true
  deriving DecidableEq, Repr

/-- `kDefaultRevalidation`. -/
def kDefaultRevalidation : RevalidationRequirements := {}

/-- A lower-priority active collective blocks a higher-priority eligible one. -/
structure PriorityInversionEvent where
  holder : CollectiveRequestId
  requester : CollectiveRequestId
  action : PriorityInversionAction := .noAction
  holderPriority : Int32 := 0
  requesterPriority : Int32 := 0
  evidence : EvidenceSnapshot
  deriving DecidableEq, Repr

/-- Requests that may execute concurrently. -/
structure OverlapGroup where
  id : CollectiveGroupId
  gen : CollectiveGroupGeneration
  members : List CollectiveRequestId
  mode : OverlapMode := .unknown
  bound : UInt64 := 1
  deriving DecidableEq, Repr

/-- `OverlapGroup::normalize`. -/
def OverlapGroup.normalize (g : OverlapGroup) : OverlapGroup :=
  { g with members := sortUnique g.members }

/-- One named factor value. -/
structure FactorValue (D : Type) where
  kind : SchedulingFactorKind
  value : D
  source : ProvenanceStatus := .derived
  deriving DecidableEq, Repr

/-- A scheduling decision. -/
structure ScheduleDecision (D : Type) where
  id : CollectiveScheduleId
  gen : CollectiveScheduleGeneration
  /-- in rank order -/
  selected : List CollectiveRequestId := []
  overlapGroups : List OverlapGroup := []
  /-- one for each selected request, parallel -/
  grants : List CollectiveGrantId := []
  evidence : EvidenceSnapshot
  revalidation : RevalidationRequirements := {}
  rankingFactors : List (FactorValue D) := []
  /-- the ranked candidates that were not selected -/
  fallback : List CollectiveRequestId := []
  priorityInversions : List PriorityInversionEvent := []
  explanation : String := ""
  deriving DecidableEq, Repr

/-- A grant authorising the handoff of exactly one collective. -/
structure CollectiveGrant where
  id : CollectiveGrantId
  gen : CollectiveGrantGeneration
  request : CollectiveRequestId
  requestGen : CollectiveRequestGeneration
  collective : CollectiveId
  collectiveGen : CollectiveGeneration
  schedule : CollectiveScheduleId
  scheduleGen : CollectiveScheduleGeneration
  participants : List ParticipantId
  participantGens : List ParticipantGeneration
  plan : CommunicationPlanId
  planGen : CommunicationPlanGeneration
  evidence : EvidenceSnapshot
  revalidation : RevalidationRequirements
  workload : WorkloadId
  executionAttempt : ExecutionId
  executionAttemptGen : ExecutionGeneration
  policyGen : PolicyGeneration
  active : Bool := false
  terminal : Bool := false
  deriving DecidableEq, Repr

end CollectiveScheduler
