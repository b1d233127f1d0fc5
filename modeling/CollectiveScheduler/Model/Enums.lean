/-
  Model/Enums.lean --- the enumerations and the error type.

  Source: include/collective_scheduler/enums.hpp, error.hpp and the enum of
  scheduling.hpp.

  Every enumeration has the fixed underlying type `uint8_t`, and the decoders
  cast a byte without a check.  The enumerations that can be read from bytes
  therefore have one constructor more, `undeclared`, for a byte that no
  enumerator has: it carries the proof that the byte lies beyond them.
-/
set_option autoImplicit false

namespace CollectiveScheduler

/-- Provenance tag of every element that feeds a decision. -/
inductive ProvenanceStatus where
  | real | measured | reported | derived | estimated | forecast | synthetic | unknown
  | undeclared (raw : UInt8) (h : 8 ≤ raw.toNat)
  deriving DecidableEq, Repr, Inhabited

inductive CollectiveKind where
  | allReduce | allGather | reduceScatter | broadcast | reduce | gather | scatter
  | allToAll | barrier | custom | unknown
  | undeclared (raw : UInt8) (h : 11 ≤ raw.toNat)
  deriving DecidableEq, Repr, Inhabited

inductive Readiness where
  | ready | waitingDependency | waitingParticipant | waitingCommunicationPlan
  | waitingReservation | waitingResource | waitingCapacity | blockedCongestion
  | blockedPolicy | revalidationRequired | stale | unknown
  deriving DecidableEq, Repr, Inhabited

inductive ConflictSeverity where
  | none | low | medium | high | fatal
  deriving DecidableEq, Repr, Inhabited

/-- The underlying value, which `severity >= HIGH` compares. -/
def ConflictSeverity.rank : ConflictSeverity → Nat
  | .none => 0
  | .low => 1
  | .medium => 2
  | .high => 3
  | .fatal => 4

inductive ConflictClassification where
  | noConflict | participantConflict | resourceConflict | linkConflict
  | bandwidthConflict | reservationConflict | dependencyConflict | policyConflict
  | unknown
  deriving DecidableEq, Repr, Inhabited

inductive OverlapMode where
  | exclusive | overlapAllowed | overlapLimited | serialize | unknown
  | undeclared (raw : UInt8) (h : 5 ≤ raw.toNat)
  deriving DecidableEq, Repr, Inhabited

/-- The states of the guarded lifecycle. -/
inductive LifecycleState where
  | declared | waiting | ready | eligible | queued | granted | dispatching | active
  | draining | completed | cancelled | failed | revalidationRequired | superseded
  | stale | retired
  deriving DecidableEq, Repr, Inhabited

inductive QueueClass where
  | latencyCritical | deadline | standard | throughput | background | recovery
  | checkpoint | control
  | undeclared (raw : UInt8) (h : 8 ≤ raw.toNat)
  deriving DecidableEq, Repr, Inhabited

inductive PriorityInversionAction where
  | requestPreemption | drainCurrent | deferNewConflictingWork | wait | noAction
  deriving DecidableEq, Repr, Inhabited

inductive FairnessClass where
  | defaultClass | protectedClass | bestEffort
  | undeclared (raw : UInt8) (h : 3 ≤ raw.toNat)
  deriving DecidableEq, Repr, Inhabited

inductive DependencyKind where
  | tensorReady | predecessorCompleted | executionPhaseComplete | checkpointReady
  | modelStageReady | timer | custom | unknown
  | undeclared (raw : UInt8) (h : 8 ≤ raw.toNat)
  deriving DecidableEq, Repr, Inhabited

inductive ReservationStrength where
  | hard | soft | none
  | undeclared (raw : UInt8) (h : 3 ≤ raw.toNat)
  deriving DecidableEq, Repr, Inhabited

/-- The named ranking factors the scheduler reports. -/
inductive SchedulingFactorKind where
  | externalPriority | deadlineSlack | age | fairnessDeficit | starvationRisk
  | expectedDuration | congestionPenalty | reservationFit | communicationCost
  | resourceFootprint | participantAvailability
  deriving DecidableEq, Repr, Inhabited

/-- The rejection reasons hard eligibility produces. -/
inductive RejectionReason where
  | staleCollectiveGeneration | staleParticipantGeneration | missingParticipant
  | unsatisfiedDependency | invalidCommunicationPlan | invalidReservation
  | noExecutionAuthority | invalidSchedulingWindow | exclusionPolicy
  | hardCongestionCeiling | unknown
  deriving DecidableEq, Repr, Inhabited

/-- Outcome of grant revalidation. -/
inductive GrantAdjudication where
  | valid | staleGrant | staleEvidence | cancelled | superseded | notActive
  | alreadyTerminal | epochMismatch | unknown
  deriving DecidableEq, Repr, Inhabited

/-- `name_of(LifecycleState)`. -/
def LifecycleState.nameOf : LifecycleState → String
  | .declared => "DECLARED"
  | .waiting => "WAITING"
  | .ready => "READY"
  | .eligible => "ELIGIBLE"
  | .queued => "QUEUED"
  | .granted => "GRANTED"
  | .dispatching => "DISPATCHING"
  | .active => "ACTIVE"
  | .draining => "DRAINING"
  | .completed => "COMPLETED"
  | .cancelled => "CANCELLED"
  | .failed => "FAILED"
  | .revalidationRequired => "REVALIDATION_REQUIRED"
  | .superseded => "SUPERSEDED"
  | .stale => "STALE"
  | .retired => "RETIRED"

/-- A byte as a value of an enumeration, given its enumerators in order. -/
def ofRawByte {α : Type} (enumerators : List α)
    (undeclared : (raw : UInt8) → enumerators.length ≤ raw.toNat → α) (b : UInt8) : α :=
  if h : b.toNat < enumerators.length then enumerators.get ⟨b.toNat, h⟩
  else undeclared b (Nat.le_of_not_lt h)

/-! ## Errors -/

/-- The error codes the scheduler throws with. -/
inductive ErrorCode where
  | invalidArgument | malformedRequest | arithmeticOverflow | outOfBounds
  | illegalTransition
  deriving DecidableEq, Repr, Inhabited

/-- A thrown `scheduler_error`: its code and its message. -/
structure SchedulerError where
  code : ErrorCode
  message : String
  deriving DecidableEq, Repr, Inhabited

def throwInvalid (msg : String) : SchedulerError := ⟨.invalidArgument, msg⟩
def throwMalformed (msg : String) : SchedulerError := ⟨.malformedRequest, msg⟩
def throwOverflow (msg : String) : SchedulerError := ⟨.arithmeticOverflow, msg⟩
def throwBounds (msg : String) : SchedulerError := ⟨.outOfBounds, msg⟩
def throwTransition (msg : String) : SchedulerError := ⟨.illegalTransition, msg⟩

/-- `if (bad) throw err;` in front of the rest of a body. -/
def rejectIf {α : Type} (bad : Bool) (err : SchedulerError) (rest : Except SchedulerError α) :
    Except SchedulerError α :=
  if bad then .error err else rest

theorem rejectIf_ok_iff {α : Type} {bad : Bool} {err : SchedulerError}
    {rest : Except SchedulerError α} {a : α} :
    rejectIf bad err rest = .ok a ↔ bad = false ∧ rest = .ok a := by
  cases bad <;> simp [rejectIf]

end CollectiveScheduler
