/-
  System/Scenario.lean --- the builders of concrete scenarios.

  Source: `tdata::P`, `tdata::Plan` and `tdata::Req` of tests/test_common.hpp.  A
  scenario names its participants, plans and collectives by numbers, as the tests
  of the repository do.
-/
import CollectiveScheduler.System.System

set_option autoImplicit false

namespace CollectiveScheduler

namespace Scenario

open Foundation

variable {D : Type} [Double D]

/-- `P(id, gen, worker, boot)`: a ready participant. -/
def participant (id gen worker boot : UInt64) : Participant where
  id := ⟨id⟩
  gen := ⟨gen⟩
  worker := ⟨worker⟩
  workerBoot := ⟨boot⟩
  source := ⟨1⟩
  sourceBoot := ⟨100⟩
  device := ⟨id⟩
  node := ⟨1⟩
  nic := ⟨id⟩
  capabilityGen := ⟨1⟩
  healthGen := ⟨1⟩
  topologyGen := ⟨1⟩
  ready := true
  readinessSource := .real
  provenance := .real

/-- `Plan(id, gen, ALL_REDUCE, parts)`: a valid plan. -/
def plan (id gen : UInt64) (parts : List UInt64) : CommunicationPlan D where
  id := ⟨id⟩
  gen := ⟨gen⟩
  kind := .allReduce
  topologyGen := ⟨1⟩
  participants := parts.map Id.mk
  estimatedBandwidth := Double.ofRat 1000000
  estimatedDurationNs := 1000
  provenance := .synthetic
  valid := true

/-- `Req(collective, ALL_REDUCE, parts, {1, …}, planId, 1)`: a request for
participants at generation 1. -/
def request (collective : UInt64) (parts : List UInt64) (planId : UInt64) :
    CollectiveRequest D where
  collective := ⟨collective⟩
  collectiveGen := ⟨1⟩
  kind := .allReduce
  participants := parts.map Id.mk
  participantGens := parts.map (fun _ => ⟨1⟩)
  planId := ⟨planId⟩
  planGen := ⟨1⟩
  workloadGen := ⟨1⟩
  priority := { gen := ⟨1⟩, authoritative := true }
  window := { expectedDurationNs := 1000 }
  queueClass := .standard

/-- `Scheduler s;`: the default policy, at epoch 1. -/
def start : System D := System.start PolicyConfig.default 1

/-- The grant a scenario retrieves by its id, as the callers do. -/
def grantOf (ops : List (Op D)) (gid : UInt64) : Option CollectiveGrant :=
  (start.run ops).sched.grantById ⟨gid⟩

/-- Extend a scenario by calls on the grant it has retrieved. -/
def withGrant (ops : List (Op D)) (gid : UInt64) (calls : CollectiveGrant → List (Op D)) :
    List (Op D) :=
  match grantOf ops gid with
  | none => ops
  | some g => ops ++ calls g

/-- Extend a run from a given start by calls on the grant it has retrieved. -/
def withGrantFrom (y : System D) (ops : List (Op D)) (gid : UInt64)
    (calls : CollectiveGrant → List (Op D)) : List (Op D) :=
  match (y.run ops).sched.grantById ⟨gid⟩ with
  | none => ops
  | some g => ops ++ calls g

/-- The conflict of the serialisation test: two requests that meet in
participant 2. -/
def conflictingRequests : List (Op ℚ) :=
  [.publishParticipant (participant 1 1 1 11), .publishParticipant (participant 2 1 1 11),
    .publishParticipant (participant 3 1 1 11), .publishPlan (plan 1 1 [1, 2]),
    .publishPlan (plan 2 1 [2, 3]), .submit (request 1 [1, 2] 1), .submit (request 2 [2, 3] 2)]

/-- Two requests on disjoint participants, in a mode and with exclusion classes. -/
def disjointRequests (mode : OverlapMode) (classes : Sized ByteString) : List (Op ℚ) :=
  [.publishParticipant (participant 1 1 1 11), .publishParticipant (participant 2 1 1 11),
    .publishPlan (plan 1 1 [1]), .publishPlan (plan 2 1 [2]),
    .submit { request 1 [1] 1 with overlap := mode, exclusionClasses := classes },
    .submit { request 2 [2] 2 with overlap := mode, exclusionClasses := classes }]

/-- A round in a state selects these requests. -/
def selects (s : Scheduler ℚ) (ids : List CollectiveRequestId) : Bool :=
  match (s.schedule [] []).2 with
  | .ok dec => dec.selected = ids
  | .error _ => false

theorem exists_of_selects (s : Scheduler ℚ) (ids : List CollectiveRequestId)
    (h : selects s ids = true) :
    ∃ s' dec, s.schedule [] [] = (s', .ok dec) ∧ dec.selected = ids := by
  unfold selects at h
  rcases hround : s.schedule [] [] with ⟨s', e | dec⟩
  · rw [hround] at h
    cases h
  · rw [hround] at h
    exact ⟨s', dec, rfl, of_decide_eq_true h⟩

/-- A request for a participant of worker 1 under boot 11 is granted. -/
def granted : List (Op ℚ) :=
  [.publishParticipant (participant 1 1 1 11), .publishPlan (plan 1 1 [1]),
    .submit (request 1 [1] 1), .schedule [] []]

/-- A granted request executes. -/
def executing : List (Op ℚ) := withGrant granted 1 (fun g => [.handoff g true])

/-- The next generation of the request. -/
def nextGeneration : CollectiveRequest ℚ := { request 1 [1] 1 with id := ⟨1⟩, gen := ⟨2⟩ }

/-- The evidence for two requests, and the request of one collective granted. -/
def grantOne (collective : UInt64) (parts : List UInt64) (planId : UInt64) : List (Op ℚ) :=
  [.publishParticipant (participant 1 1 1 11), .publishParticipant (participant 2 1 1 11),
    .publishParticipant (participant 3 1 1 11), .publishPlan (plan 1 1 [1, 2]),
    .publishPlan (plan 2 1 [2, 3]), .submit (request collective parts planId), .schedule [] []]

end Scenario

end CollectiveScheduler
