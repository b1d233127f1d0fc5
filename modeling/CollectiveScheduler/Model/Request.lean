/-
  Model/Request.lean --- the collective request and its validation.

  Source: include/collective_scheduler/request.hpp and `validate_request` of
  src/scheduler.cpp.
-/
import CollectiveScheduler.Foundation.Double
import CollectiveScheduler.Foundation.SortUnique
import CollectiveScheduler.Model.Identity
import CollectiveScheduler.Model.Policy

set_option autoImplicit false

namespace CollectiveScheduler

open Foundation

/-- A dependency edge a collective requires. -/
structure DependencyRequirement where
  id : DependencyId
  gen : DependencyGeneration
  kind : DependencyKind := .unknown
  provenance : ProvenanceStatus := .unknown
  deriving DecidableEq, Repr

/-- A resource claim expected by a collective. -/
structure ResourceClaim (D : Type) where
  resource : ResourceId
  gen : ResourceGeneration
  units : D
  exclusive : Bool := true
  provenance : ProvenanceStatus := .synthetic
  deriving DecidableEq, Repr

/-- Earliest start, latest start, deadline and expected duration; 0 means
unbounded. -/
structure SchedulingWindow where
  earliestStartNs : Nanoseconds := 0
  latestStartNs : Nanoseconds := 0
  deadlineNs : Nanoseconds := 0
  expectedDurationNs : Nanoseconds := 0
  slackNs : Nanoseconds := 0
  source : ProvenanceStatus := .reported
  deriving DecidableEq, Repr

/-- External priority: a higher value is more urgent. -/
structure ExternalPriority where
  value : Int32 := 0
  gen : PriorityGeneration := 0
  authoritative : Bool := false
  deriving DecidableEq, Repr

/-- The elements of a `std::vector` or `std::string`; the size fits `size_t`. -/
abbrev Sized (α : Type) := { l : List α // l.length < 2 ^ 64 }

namespace Sized

variable {α : Type}

def empty : Sized α := ⟨[], Nat.two_pow_pos 64⟩

/-- The vector of these elements, up to the largest size. -/
def ofList (l : List α) : Sized α :=
  ⟨l.take (2 ^ 64 - 1), lt_of_le_of_lt (List.length_take_le _ _) (by decide)⟩

theorem ofList_val {l : List α} (h : l.length < 2 ^ 64) : ofList l = ⟨l, h⟩ :=
  Subtype.ext (List.take_of_length_le (Nat.le_sub_one_of_lt h))

end Sized

/-- A `std::string`, as its bytes. -/
abbrev ByteString := Sized UInt8

/-- Everything needed to schedule one collective. -/
structure CollectiveRequest (D : Type) where
  id : CollectiveRequestId := 0
  gen : CollectiveRequestGeneration := 0
  collective : CollectiveId
  collectiveGen : CollectiveGeneration
  kind : CollectiveKind := .unknown
  participants : List ParticipantId
  /-- parallel to `participants` -/
  participantGens : List ParticipantGeneration
  payloadBytes : UInt64 := 0
  /-- empty, or parallel to `participants` -/
  perParticipantPayload : List UInt64 := []
  planId : CommunicationPlanId
  planGen : CommunicationPlanGeneration
  dependencies : List DependencyRequirement := []
  resourceClaims : List (ResourceClaim D) := []
  exclusionClasses : Sized ByteString := .empty
  priority : ExternalPriority := {}
  window : SchedulingWindow := {}
  overlap : OverlapMode := .unknown
  fairnessClass : FairnessClass := .defaultClass
  reservationGen : Option ReservationGeneration := none
  workload : WorkloadId := 0
  workloadGen : WorkloadGeneration := 0
  queueClass : QueueClass := .standard
  maxRetries : UInt32 := 0
  retryCount : UInt32 := 0
  policyGen : PolicyGeneration := 0
  provenance : ProvenanceStatus := .reported
  deriving DecidableEq, Repr

/-! ## Validation -/

/-- The order `std::sort` uses on strings: bytes compared as unsigned, left to
right. -/
def ByteString.toKey (s : ByteString) : List Nat := s.val.map UInt8.toNat

/-- `sort_unique_strings`. -/
def sortUniqueStrings (l : List ByteString) : List (List Nat) :=
  sortUnique (l.map ByteString.toKey)

/-- Accumulate the per-participant payload with the checked addition of
`checked_add`; `none` where it overflows. -/
def payloadSum : UInt64 → List UInt64 → Option UInt64
  | sum, [] => some sum
  | sum, v :: rest =>
      if sum.toNat > maxValue - v.toNat then none else payloadSum (sum + v) rest

/-- `validate_request`: the first check that fails, in the order of the source. -/
def validateRequest {D : Type} [Double D] (req : CollectiveRequest D) (p : PolicyConfig D) :
    Except SchedulerError Unit :=
  rejectIf (req.kind = .unknown)
    (throwMalformed "collective kind UNKNOWN has no supported execution semantics") <|
  rejectIf req.participants.isEmpty (throwMalformed "empty participant set") <|
  rejectIf (req.participants.length > p.bounds.maxParticipantsPerCollective.toNat)
    (throwBounds "participants exceed per-collective bound") <|
  rejectIf ((sortUnique req.participants).length ≠ req.participants.length)
    (throwMalformed "duplicate participants") <|
  rejectIf (req.participantGens.length ≠ req.participants.length)
    (throwMalformed "participant generation count mismatch") <|
  rejectIf (!req.perParticipantPayload.isEmpty &&
      req.perParticipantPayload.length != req.participants.length)
    (throwMalformed "per-participant payload count mismatch") <|
  rejectIf req.planId.null (throwMalformed "missing communication plan id") <|
  rejectIf req.planGen.null (throwMalformed "missing communication plan generation") <|
  rejectIf (req.window.latestStartNs ≠ 0 ∧
      req.window.earliestStartNs > req.window.latestStartNs)
    (throwMalformed "impossible scheduling window") <|
  rejectIf (req.window.deadlineNs ≠ 0 ∧ req.window.deadlineNs < req.window.earliestStartNs)
    (throwMalformed "impossible scheduling window: deadline before earliest start") <|
  rejectIf (req.window.deadlineNs ≠ 0 ∧ req.window.latestStartNs ≠ 0 ∧
      req.window.latestStartNs > req.window.deadlineNs)
    (throwMalformed "impossible scheduling window: latest start after deadline") <|
  rejectIf (req.resourceClaims.any (fun rc => !Double.isFinite rc.units))
    (throwMalformed "NaN/Inf resource claim units") <|
  rejectIf (req.resourceClaims.length > p.bounds.maxParticipantsPerCollective.toNat)
    (throwBounds "resource claims exceed bound") <|
  rejectIf (req.dependencies.length > p.bounds.maxDependenciesPerRequest.toNat)
    (throwBounds "dependencies exceed bound") <|
  rejectIf ((sortUniqueStrings req.exclusionClasses.val).length ≠ req.exclusionClasses.val.length)
    (throwMalformed "duplicate exclusion class") <|
  rejectIf (payloadSum 0 req.perParticipantPayload).isNone
    (throwOverflow "per-participant payload sum overflow") <|
  .ok ()

/-- What a validated request guarantees: its participants are distinct and have a
generation each, and its lists are as short as the bounds of the policy. -/
structure CollectiveRequest.WellFormed {D : Type} (req : CollectiveRequest D) : Prop where
  nonempty : req.participants ≠ []
  nodup : req.participants.Nodup
  parallel : req.participantGens.length = req.participants.length
  participants : req.participants.length < 2 ^ 64
  payload : req.perParticipantPayload.length ≤ req.participants.length
  claims : req.resourceClaims.length < 2 ^ 64
  dependencies : req.dependencies.length < 2 ^ 64

theorem validateRequest_wellFormed {D : Type} [Double D] {req : CollectiveRequest D}
    {p : PolicyConfig D} (h : validateRequest req p = .ok ()) : req.WellFormed := by
  simp only [validateRequest, rejectIf_ok_iff, decide_eq_false_iff_not] at h
  obtain ⟨-, hempty, hparticipants, hdup, hlen, hpayload, -, -, -, -, -, -, hclaims, hdeps, -⟩ := h
  have hbound : ∀ {n : Nat} {bound : UInt64}, ¬n > bound.toNat → n < 2 ^ 64 := fun hn =>
    lt_of_le_of_lt (not_lt.mp hn) (UInt64.toNat_lt _)
  exact
    { nonempty := by simpa using hempty
      nodup := (length_sortUnique_eq_iff _).mp (by simpa using hdup)
      parallel := by simpa using hlen
      participants := hbound hparticipants
      payload := by
        cases hcase : req.perParticipantPayload with
        | nil => exact Nat.zero_le _
        | cons v rest =>
            rw [hcase] at hpayload
            simp only [List.isEmpty_cons, Bool.not_false, Bool.true_and, bne_eq_false_iff_eq]
              at hpayload
            exact hpayload.le
      claims := hbound hclaims
      dependencies := hbound hdeps }

end CollectiveScheduler
