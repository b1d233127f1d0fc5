/-
  Scheduler/Readiness.lean --- the three walks over the published evidence:
  readiness, hard eligibility and grant revalidation.

  Source: `compute_readiness`, `hard_eligible`, `make_snapshot` and
  `revalidate_grant` of src/scheduler.cpp.

  The walks index `participant_gens` by the position of a participant; an index
  past its end reads no generation here, so it matches none.
-/
import CollectiveScheduler.Scheduler.State

set_option autoImplicit false

namespace CollectiveScheduler

open Foundation

namespace Scheduler

variable {D : Type} [Double D]

/-- `plan(id)`. -/
def plan (s : Scheduler D) (id : CommunicationPlanId) : Option (CommunicationPlan D) :=
  s.plans.find? id

/-- `participant(id)`. -/
def participant (s : Scheduler D) (id : ParticipantId) : Option Participant :=
  s.participants.find? id

/-- `congestion && congestion->hard_ceiling && utilization >= ceiling`. -/
def overHardCeiling (s : Scheduler D) : Bool :=
  match s.congestion with
  | none => false
  | some c => c.hardCeiling && Double.le c.hardCeilingUtilization c.utilization

/-- The summed units of the resource claims. -/
def demand (claims : List (ResourceClaim D)) : D :=
  claims.foldl (fun acc rc => acc + rc.units) (Double.ofRat 0)

/-- The capacity test of readiness: the demand exceeds what is usable. -/
def overCapacity (s : Scheduler D) (req : CollectiveRequest D) : Bool :=
  match s.capacity with
  | none => false
  | some cap => Double.lt cap.usableCapacity (demand req.resourceClaims)

/-! ## Readiness -/

/-- The participant is unpublished, or current but not available. -/
def isMissing (s : Scheduler D) (gens : List ParticipantGeneration) (pid : ParticipantId)
    (i : Nat) : Bool :=
  match s.participants.find? pid with
  | none => true
  | some p => gens[i]? = some p.gen && !p.isAvailable

/-- The participant is published at another generation. -/
def isStale (s : Scheduler D) (gens : List ParticipantGeneration) (pid : ParticipantId)
    (i : Nat) : Bool :=
  match s.participants.find? pid with
  | none => false
  | some p => gens[i]? ≠ some p.gen

/-- The body of the dependency loop of readiness: its early return, if any. -/
def dependencyBlock (s : Scheduler D) (d : DependencyRequirement) : Option Readiness :=
  match s.deps.find? d.id with
  | none => some .waitingDependency
  | some st =>
      if st.gen ≠ d.gen then some .stale
      else if !st.satisfied then some .waitingDependency
      else none

/-- The reservation test of readiness. -/
def reservationBlock (s : Scheduler D) (req : CollectiveRequest D) : Option Readiness :=
  match req.reservationGen with
  | none => none
  | some rg =>
      if rg ≠ s.reservationGen then some .stale
      else
        match s.reservations.find? rg with
        | none => some .waitingReservation
        | some res => if !res.valid then some .waitingReservation else none

/-- `compute_readiness`. -/
def computeReadiness (s : Scheduler D) (req : CollectiveRequest D) : Readiness :=
  if req.participants.zipIdx.any (fun e => s.isStale req.participantGens e.1 e.2) then .stale
  else if req.participants.zipIdx.any (fun e => s.isMissing req.participantGens e.1 e.2) then
    .waitingParticipant
  else
    match s.plan req.planId with
    | none => .waitingCommunicationPlan
    | some pl =>
        if pl.gen ≠ req.planGen then .stale
        else if !pl.valid then .waitingCommunicationPlan
        else
          match req.dependencies.findSome? s.dependencyBlock with
          | some rd => rd
          | none =>
              match s.reservationBlock req with
              | some rd => rd
              | none =>
                  if s.overHardCeiling then .blockedCongestion
                  else if s.overCapacity req then .waitingCapacity
                  else .ready

/-! ## Hard eligibility -/

/-- The reason a record is not ready, as hard eligibility reports it. -/
def notReadyReason : Readiness → RejectionReason
  | .stale => .staleCollectiveGeneration
  | .blockedCongestion => .hardCongestionCeiling
  | .blockedPolicy => .exclusionPolicy
  | _ => .unknown

/-- The window tests: `now` before the earliest start, after the latest start,
or too late for the deadline.  The deadline sum wraps at 64 bits. -/
def outsideWindow (now : Nanoseconds) (w : SchedulingWindow) : Bool :=
  (w.earliestStartNs != 0 && now < w.earliestStartNs) ||
  (w.latestStartNs != 0 && now > w.latestStartNs) ||
  (w.deadlineNs != 0 && now + w.expectedDurationNs > w.deadlineNs)

/-- The body of the participant loop of hard eligibility: its early return, if any. -/
def participantRejection (s : Scheduler D) (gens : List ParticipantGeneration)
    (entry : ParticipantId × Nat) : Option RejectionReason :=
  match s.participants.find? entry.1 with
  | none => some .missingParticipant
  | some p =>
      if gens[entry.2]? ≠ some p.gen then some .staleParticipantGeneration
      else if !p.isAvailable then some .missingParticipant
      else none

/-- `!pl || gen mismatch || !valid`, negated. -/
def planUsable (s : Scheduler D) (id : CommunicationPlanId) (gen : CommunicationPlanGeneration) :
    Bool :=
  match s.plan id with
  | none => false
  | some pl => pl.gen = gen && pl.valid

/-- A dependency is published at the required generation and satisfied. -/
def dependencySatisfied (s : Scheduler D) (d : DependencyRequirement) : Bool :=
  match s.deps.find? d.id with
  | none => false
  | some st => st.gen = d.gen && st.satisfied

/-- A named reservation generation is current and its reservation valid. -/
def reservationUsable (s : Scheduler D) (req : CollectiveRequest D) : Bool :=
  match req.reservationGen with
  | none => true
  | some rg =>
      rg = s.reservationGen &&
        match s.reservations.find? rg with
        | none => false
        | some res => res.valid

/-- `hard_eligible`: the reason of the first check that fails, `none` where the
source returns true. -/
def hardEligible (s : Scheduler D) (lastReadiness : Readiness) (req : CollectiveRequest D) :
    Option RejectionReason :=
  if lastReadiness ≠ .ready then some (notReadyReason lastReadiness)
  else if outsideWindow s.now req.window then some .invalidSchedulingWindow
  else
    match req.participants.zipIdx.findSome? (s.participantRejection req.participantGens) with
    | some reason => some reason
    | none =>
        if !s.planUsable req.planId req.planGen then some .invalidCommunicationPlan
        else if !req.dependencies.all s.dependencySatisfied then some .unsatisfiedDependency
        else if !s.reservationUsable req then some .invalidReservation
        else if s.overHardCeiling then some .hardCongestionCeiling
        else if req.workloadGen.null then some .noExecutionAuthority
        else none

/-! ## Snapshots and revalidation -/

/-- `make_snapshot`. -/
def makeSnapshot (s : Scheduler D) : EvidenceSnapshot where
  epoch := s.epoch
  policyGen := s.policyGen
  priorityGen := s.priorityGen
  fairnessGen := s.fairnessGen
  congestionGen := s.congestionGen
  capacityGen := s.capacityGen
  reservationGen := s.reservationGen
  topologyGen := s.topologyGen
  capabilityGen := s.capabilityGen
  healthGen := s.healthGen

/-- The participant test shared by revalidation and completion: published, at
the named generation, available. -/
def participantCurrent (s : Scheduler D) (gens : List ParticipantGeneration)
    (pid : ParticipantId) (i : Nat) : Bool :=
  match s.participants.find? pid with
  | none => false
  | some p => gens[i]? = some p.gen && p.isAvailable

/-- `revalidate_grant`. -/
def revalidateGrant (s : Scheduler D) (g : CollectiveGrant) : GrantAdjudication :=
  match s.records.find? g.request with
  | none => .staleGrant
  | some rec =>
      if rec.request.gen ≠ g.requestGen then .superseded
      else if rec.request.collectiveGen ≠ g.collectiveGen then .staleGrant
      else if g.evidence.epoch ≠ s.epoch then .epochMismatch
      else if rec.lifecycle = .cancelled then .cancelled
      else if rec.lifecycle = .superseded then .superseded
      else if rec.lifecycle = .stale then .staleGrant
      else if g.revalidation.requireFreshPlan && !s.planUsable g.plan g.planGen then .staleGrant
      else if g.revalidation.requireFreshParticipants &&
          (g.participants.length != rec.request.participants.length ||
            !g.participants.zipIdx.all
              (fun e => s.participantCurrent g.participantGens e.1 e.2)) then .staleGrant
      else if g.revalidation.requireFreshDependencies &&
          !rec.request.dependencies.all (fun d =>
            match s.deps.find? d.id with
            | none => false
            | some st => st.gen = d.gen) then .staleGrant
      else if g.revalidation.requireFreshReservation &&
          (match rec.request.reservationGen with
            | none => false
            | some rg => rg ≠ s.reservationGen) then .staleGrant
      else if g.revalidation.requireFreshCongestion &&
          (match s.congestion with
            | none => false
            | some c => c.gen ≠ g.evidence.congestionGen) then .staleGrant
      else if rec.lifecycle = .completed then .alreadyTerminal
      else .valid

end Scheduler

end CollectiveScheduler
