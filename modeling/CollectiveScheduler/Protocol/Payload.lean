/-
  Protocol/Payload.lean --- the messages of the wire protocol and their payloads.

  Source: include/collective_scheduler/protocol.hpp, and `serialize_grant`,
  `serialize_participant`, `serialize_plan`, `serialize_congestion`,
  `serialize_reservation`, `serialize_dependency`, `serialize_capacity` and their
  inverses of src/serialize.cpp.
-/
import CollectiveScheduler.Model.Evidence
import CollectiveScheduler.Model.Scheduling
import CollectiveScheduler.Persistence.Serialize

set_option autoImplicit false

namespace CollectiveScheduler

open Foundation Reader

/-! ## Messages -/

inductive MsgType where
  | hello | register | publishParticipant | publishReadiness | submitCollective
  | updateDependency | updatePriority | updatePlan | updateReservation | updateCongestion
  | updateCapacity | querySchedule | grant | executionAccepted | start | progress | complete
  | fail | cancel | supersede | fenceWorker | revalidate | save | shutdown | error
  deriving DecidableEq, Repr

structure Msg where
  type : MsgType := .hello
  seq : UInt64 := 0
  payload : List UInt8 := []
  deriving DecidableEq, Repr

/-- A reader over the whole payload, with `expect_end` behind it. -/
def Msg.read {α : Type} (r : PersistenceReader.Read α) (m : Msg) : Except SchedulerError α :=
  match r m.payload.length m.payload with
  | .error e => .error e
  | .ok (a, rest) =>
      if rest ≠ [] then .error (throwMalformed "persistence trailing garbage") else .ok a

/-- A payload that decodes is read to its end. -/
theorem Msg.read_of_decodes {α : Type} {r : PersistenceReader.Read α} {m : Msg} {a : α}
    (h : Decodes r m.payload a) : m.read r = .ok a := by
  have hread := h m.payload.length [] (le_refl _)
  rw [List.append_nil] at hread
  simp only [Msg.read, hread]
  rfl

namespace ReservationStrength

def toByte : ReservationStrength → UInt8
  | hard => 0
  | soft => 1
  | none => 2
  | undeclared raw _ => raw

/-- `static_cast<ReservationStrength>`. -/
def ofByte (b : UInt8) : ReservationStrength :=
  ofRawByte [hard, soft, none] undeclared b

theorem ofByte_toByte (x : ReservationStrength) : ofByte x.toByte = x := by
  cases x with
  | undeclared raw h => exact dif_neg (Nat.not_lt.mpr h)
  | _ => rfl

end ReservationStrength

/-! ## Grants -/

open PersistenceWriter in
/-- The evidence generations of a grant. -/
def serializeEvidenceSnapshot (e : EvidenceSnapshot) : List UInt8 :=
  [gen e.epoch,
    gen e.collectiveGen, gen e.requestGen, gen e.planGen,
    gen e.participantGen, gen e.dependencyGen,
    gen e.reservationGen, gen e.congestionGen, gen e.capacityGen,
    gen e.policyGen, gen e.priorityGen, gen e.fairnessGen,
    gen e.topologyGen, gen e.capabilityGen, gen e.healthGen].flatten

open PersistenceWriter in
/-- The revalidation flags of a grant. -/
def serializeRevalidation (v : RevalidationRequirements) : List UInt8 :=
  [bool v.requireFreshParticipants, bool v.requireFreshPlan,
    bool v.requireFreshReservation, bool v.requireFreshDependencies,
    bool v.requireFreshCongestion, bool v.requireFreshCapacity,
    bool v.requireFreshExecutionAuthority, bool v.requireCurrentEpoch].flatten

open PersistenceWriter in
/-- `serialize_grant`. -/
def serializeGrant (g : CollectiveGrant) : List UInt8 :=
  [ident g.id, gen g.gen,
    ident g.request, gen g.requestGen,
    ident g.collective, gen g.collectiveGen,
    ident g.schedule, gen g.scheduleGen,
    vec ident g.participants,
    vec gen g.participantGens,
    ident g.plan, gen g.planGen,
    serializeEvidenceSnapshot g.evidence,
    serializeRevalidation g.revalidation,
    ident g.workload,
    ident g.executionAttempt, gen g.executionAttemptGen,
    gen g.policyGen,
    bool g.active, bool g.terminal].flatten

open PersistenceReader in
def deserializeEvidenceSnapshot : Read EvidenceSnapshot := do
  let epoch ← gen
  let collectiveGen ← gen
  let requestGen ← gen
  let planGen ← gen
  let participantGen ← gen
  let dependencyGen ← gen
  let reservationGen ← gen
  let congestionGen ← gen
  let capacityGen ← gen
  let policyGen ← gen
  let priorityGen ← gen
  let fairnessGen ← gen
  let topologyGen ← gen
  let capabilityGen ← gen
  let healthGen ← gen
  return {
    epoch := epoch, collectiveGen := collectiveGen, requestGen := requestGen,
    planGen := planGen, participantGen := participantGen, dependencyGen := dependencyGen,
    reservationGen := reservationGen, congestionGen := congestionGen,
    capacityGen := capacityGen, policyGen := policyGen, priorityGen := priorityGen,
    fairnessGen := fairnessGen, topologyGen := topologyGen, capabilityGen := capabilityGen,
    healthGen := healthGen }

open PersistenceReader in
def deserializeRevalidation : Read RevalidationRequirements := do
  let participants ← bool
  let plan ← bool
  let reservation ← bool
  let dependencies ← bool
  let congestion ← bool
  let capacity ← bool
  let executionAuthority ← bool
  let currentEpoch ← bool
  return {
    requireFreshParticipants := participants, requireFreshPlan := plan,
    requireFreshReservation := reservation, requireFreshDependencies := dependencies,
    requireFreshCongestion := congestion, requireFreshCapacity := capacity,
    requireFreshExecutionAuthority := executionAuthority, requireCurrentEpoch := currentEpoch }

open PersistenceReader in
/-- `deserialize_grant`. -/
def deserializeGrant : Read CollectiveGrant := do
  let gid ← ident
  let ggen ← gen
  let request ← ident
  let requestGen ← gen
  let collective ← ident
  let collectiveGen ← gen
  let schedule ← ident
  let scheduleGen ← gen
  let participants ← vec ident
  let participantGens ← vec gen
  let plan ← ident
  let planGen ← gen
  let evidence ← deserializeEvidenceSnapshot
  let revalidation ← deserializeRevalidation
  let workload ← ident
  let executionAttempt ← ident
  let executionAttemptGen ← gen
  let policyGen ← gen
  let active ← bool
  let terminal ← bool
  return {
    id := gid, gen := ggen, request := request, requestGen := requestGen,
    collective := collective, collectiveGen := collectiveGen, schedule := schedule,
    scheduleGen := scheduleGen, participants := participants,
    participantGens := participantGens, plan := plan, planGen := planGen,
    evidence := evidence, revalidation := revalidation, workload := workload,
    executionAttempt := executionAttempt, executionAttemptGen := executionAttemptGen,
    policyGen := policyGen, active := active, terminal := terminal }

theorem decodes_evidenceSnapshot (e : EvidenceSnapshot) :
    Decodes deserializeEvidenceSnapshot (serializeEvidenceSnapshot e) e := by
  unfold deserializeEvidenceSnapshot serializeEvidenceSnapshot
  refine (decodes_gen _).seq <| (decodes_gen _).seq <| (decodes_gen _).seq <|
    (decodes_gen _).seq <| (decodes_gen _).seq <| (decodes_gen _).seq <|
    (decodes_gen _).seq <| (decodes_gen _).seq <| (decodes_gen _).seq ?_
  exact (decodes_gen _).seq <| (decodes_gen _).seq <| (decodes_gen _).seq <|
    (decodes_gen _).seq <| (decodes_gen _).seq <| (decodes_gen _).seq <| Decodes.pure _

theorem decodes_revalidation (v : RevalidationRequirements) :
    Decodes deserializeRevalidation (serializeRevalidation v) v := by
  unfold deserializeRevalidation serializeRevalidation
  exact (decodes_bool _).seq <| (decodes_bool _).seq <| (decodes_bool _).seq <|
    (decodes_bool _).seq <| (decodes_bool _).seq <| (decodes_bool _).seq <|
    (decodes_bool _).seq <| (decodes_bool _).seq <| Decodes.pure _

/-- A grant whose lists have a size is read back as it is. -/
theorem decodes_grant {g : CollectiveGrant} (hparticipants : g.participants.length < 2 ^ 64)
    (hgens : g.participantGens.length < 2 ^ 64) :
    Decodes deserializeGrant (serializeGrant g) g := by
  unfold deserializeGrant serializeGrant
  refine (decodes_ident _).seq <| (decodes_gen _).seq <| (decodes_ident _).seq <|
    (decodes_gen _).seq <| (decodes_ident _).seq <| (decodes_gen _).seq <|
    (decodes_ident _).seq <| (decodes_gen _).seq ?_
  refine (decodes_vec_self hparticipants decodes_ident).seq <|
    (decodes_vec_self hgens decodes_gen).seq <| (decodes_ident _).seq <|
    (decodes_gen _).seq <| (decodes_evidenceSnapshot _).seq <|
    (decodes_revalidation _).seq ?_
  exact (decodes_ident _).seq <| (decodes_ident _).seq <| (decodes_gen _).seq <|
    (decodes_gen _).seq <| (decodes_bool _).seq <| (decodes_bool _).seq <| Decodes.pure _

/-! ## Evidence -/

open PersistenceWriter in
/-- `serialize_participant`. -/
def serializeParticipant (p : Participant) : List UInt8 :=
  [ident p.id, gen p.gen, ident p.worker, ident p.workerBoot,
    ident p.source, ident p.sourceBoot,
    ident p.device, ident p.node, ident p.nic,
    gen p.capabilityGen, gen p.healthGen, gen p.topologyGen,
    u32 p.processId, bool p.ready, u8 p.readinessSource.toByte, u8 p.provenance.toByte].flatten

open PersistenceReader in
/-- `deserialize_participant`. -/
def deserializeParticipant : Read Participant := do
  let pid ← ident
  let pgen ← gen
  let worker ← ident
  let workerBoot ← ident
  let source ← ident
  let sourceBoot ← ident
  let device ← ident
  let node ← ident
  let nic ← ident
  let capabilityGen ← gen
  let healthGen ← gen
  let topologyGen ← gen
  let processId ← u32
  let ready ← bool
  let readinessSource ← u8
  let provenance ← u8
  return {
    id := pid, gen := pgen, worker := worker, workerBoot := workerBoot, source := source,
    sourceBoot := sourceBoot, device := device, node := node, nic := nic,
    capabilityGen := capabilityGen, healthGen := healthGen, topologyGen := topologyGen,
    processId := processId, ready := ready, readinessSource := .ofByte readinessSource,
    provenance := .ofByte provenance }

open PersistenceWriter in
/-- `serialize_dependency`. -/
def serializeDependencyState (d : DependencyState) : List UInt8 :=
  [ident d.id, u8 d.kind.toByte, gen d.gen, bool d.satisfied, u8 d.source.toByte].flatten

open PersistenceReader in
/-- `deserialize_dependency`. -/
def deserializeDependencyState : Read DependencyState := do
  let did ← ident
  let kind ← u8
  let dgen ← gen
  let satisfied ← bool
  let source ← u8
  return {
    id := did, kind := .ofByte kind, gen := dgen, satisfied := satisfied,
    source := .ofByte source }

section Doubles

variable {D : Type} [Double D]

open PersistenceWriter in
/-- `serialize_plan`. -/
def serializePlan (pl : CommunicationPlan D) : List UInt8 :=
  [ident pl.id, gen pl.gen, u8 pl.kind.toByte, gen pl.topologyGen,
    vec ident pl.participants,
    vec ident pl.flows,
    vec ident pl.resources,
    vec ident pl.links,
    vec ident pl.paths,
    u64 pl.byteCount, f64 pl.estimatedBandwidth, u64 pl.estimatedDurationNs,
    u64 pl.communicationCost,
    u8 pl.provenance.toByte, bool pl.valid].flatten

open PersistenceReader in
/-- `deserialize_plan`. -/
def deserializePlan : Read (CommunicationPlan D) := do
  let plid ← ident
  let plgen ← gen
  let kind ← u8
  let topologyGen ← gen
  let participants ← vec ident
  let flows ← vec ident
  let resources ← vec ident
  let links ← vec ident
  let paths ← vec ident
  let byteCount ← u64
  let estimatedBandwidth ← f64
  let estimatedDurationNs ← u64
  let communicationCost ← u64
  let provenance ← u8
  let valid ← bool
  return {
    id := plid, gen := plgen, kind := .ofByte kind, topologyGen := topologyGen,
    participants := participants, flows := flows, resources := resources, links := links,
    paths := paths, byteCount := byteCount, estimatedBandwidth := estimatedBandwidth,
    estimatedDurationNs := estimatedDurationNs, communicationCost := communicationCost,
    provenance := .ofByte provenance, valid := valid }

open PersistenceWriter in
/-- `serialize_congestion`. -/
def serializeCongestion (c : CongestionState D) : List UInt8 :=
  [gen c.gen, f64 c.utilization, f64 c.residualBandwidth, bool c.isCongested,
    bool c.hardCeiling, f64 c.hardCeilingUtilization, bool c.backpressureIntent,
    vec ident c.bottlenecks,
    u8 c.provenance.toByte].flatten

open PersistenceReader in
/-- `deserialize_congestion`. -/
def deserializeCongestion : Read (CongestionState D) := do
  let cgen ← gen
  let utilization ← f64
  let residualBandwidth ← f64
  let isCongested ← bool
  let hardCeiling ← bool
  let hardCeilingUtilization ← f64
  let backpressureIntent ← bool
  let bottlenecks ← vec ident
  let provenance ← u8
  return {
    gen := cgen, utilization := utilization, residualBandwidth := residualBandwidth,
    isCongested := isCongested, hardCeiling := hardCeiling,
    hardCeilingUtilization := hardCeilingUtilization, backpressureIntent := backpressureIntent,
    bottlenecks := bottlenecks, provenance := .ofByte provenance }

open PersistenceWriter in
/-- `serialize_reservation`. -/
def serializeReservation (res : Reservation D) : List UInt8 :=
  [gen res.gen, u8 res.strength.toByte, f64 res.reservedBandwidth,
    vec ident res.resources,
    vec ident res.links,
    u64 res.windowStartNs, u64 res.windowEndNs, u8 res.provenance.toByte,
    bool res.valid].flatten

open PersistenceReader in
/-- `deserialize_reservation`. -/
def deserializeReservation : Read (Reservation D) := do
  let rgen ← gen
  let strength ← u8
  let reservedBandwidth ← f64
  let resources ← vec ident
  let links ← vec ident
  let windowStartNs ← u64
  let windowEndNs ← u64
  let provenance ← u8
  let valid ← bool
  return {
    gen := rgen, strength := .ofByte strength, reservedBandwidth := reservedBandwidth,
    resources := resources, links := links, windowStartNs := windowStartNs,
    windowEndNs := windowEndNs, provenance := .ofByte provenance, valid := valid }

open PersistenceWriter in
/-- `serialize_capacity`. -/
def serializeCapacity (c : CapacityState D) : List UInt8 :=
  [gen c.gen, f64 c.usableCapacity, f64 c.headroom, f64 c.confidence,
    u8 c.provenance.toByte].flatten

open PersistenceReader in
/-- `deserialize_capacity`. -/
def deserializeCapacity : Read (CapacityState D) := do
  let cgen ← gen
  let usableCapacity ← f64
  let headroom ← f64
  let confidence ← f64
  let provenance ← u8
  return {
    gen := cgen, usableCapacity := usableCapacity, headroom := headroom,
    confidence := confidence, provenance := .ofByte provenance }

end Doubles

/-! ## Evidence that is read back -/

theorem decodes_participant (p : Participant) :
    Decodes deserializeParticipant (serializeParticipant p) p := by
  unfold deserializeParticipant serializeParticipant
  refine (decodes_ident _).seq <| (decodes_gen _).seq <| (decodes_ident _).seq <|
    (decodes_ident _).seq <| (decodes_ident _).seq <| (decodes_ident _).seq <|
    (decodes_ident _).seq <| (decodes_ident _).seq <| (decodes_ident _).seq ?_
  refine (decodes_gen _).seq <| (decodes_gen _).seq <| (decodes_gen _).seq <|
    (decodes_u32 _).seq <| (decodes_bool _).seq <| (decodes_u8 _).seq <| (decodes_u8 _).seq ?_
  rw [ProvenanceStatus.ofByte_toByte, ProvenanceStatus.ofByte_toByte]
  exact Decodes.pure p

theorem decodes_dependencyState (d : DependencyState) :
    Decodes deserializeDependencyState (serializeDependencyState d) d := by
  unfold deserializeDependencyState serializeDependencyState
  refine (decodes_ident _).seq <| (decodes_u8 _).seq <| (decodes_gen _).seq <|
    (decodes_bool _).seq <| (decodes_u8 _).seq ?_
  rw [DependencyKind.ofByte_toByte, ProvenanceStatus.ofByte_toByte]
  exact Decodes.pure d

section BitCast

variable {D : Type} [Double D] [Double.BitCast D]

/-- A double that is its bit pattern is read back as it is. -/
theorem decodes_f64_self (v : D) : Decodes PersistenceReader.f64 (PersistenceWriter.f64 v) v := by
  have hread := decodes_f64 v
  rwa [Double.BitCast.ofBits_toBits] at hread

/-- The sizes of the vectors fit `size_t`, as those of every `std::vector` do. -/
structure CommunicationPlan.SizesFit (pl : CommunicationPlan D) : Prop where
  participants : pl.participants.length < 2 ^ 64
  flows : pl.flows.length < 2 ^ 64
  resources : pl.resources.length < 2 ^ 64
  links : pl.links.length < 2 ^ 64
  paths : pl.paths.length < 2 ^ 64

theorem decodes_plan {pl : CommunicationPlan D} (h : pl.SizesFit) :
    Decodes deserializePlan (serializePlan pl) pl := by
  unfold deserializePlan serializePlan
  refine (decodes_ident _).seq <| (decodes_gen _).seq <| (decodes_u8 _).seq <|
    (decodes_gen _).seq ?_
  refine (decodes_vec_self h.participants decodes_ident).seq <|
    (decodes_vec_self h.flows decodes_ident).seq <|
    (decodes_vec_self h.resources decodes_ident).seq <|
    (decodes_vec_self h.links decodes_ident).seq <|
    (decodes_vec_self h.paths decodes_ident).seq ?_
  refine (decodes_u64 _).seq <| (decodes_f64_self _).seq <| (decodes_u64 _).seq <|
    (decodes_u64 _).seq <| (decodes_u8 _).seq <| (decodes_bool _).seq ?_
  rw [CollectiveKind.ofByte_toByte, ProvenanceStatus.ofByte_toByte]
  exact Decodes.pure pl

theorem decodes_congestion {c : CongestionState D} (h : c.bottlenecks.length < 2 ^ 64) :
    Decodes deserializeCongestion (serializeCongestion c) c := by
  unfold deserializeCongestion serializeCongestion
  refine (decodes_gen _).seq <| (decodes_f64_self _).seq <| (decodes_f64_self _).seq <|
    (decodes_bool _).seq <| (decodes_bool _).seq <| (decodes_f64_self _).seq <|
    (decodes_bool _).seq <| (decodes_vec_self h decodes_ident).seq <| (decodes_u8 _).seq ?_
  rw [ProvenanceStatus.ofByte_toByte]
  exact Decodes.pure c

theorem decodes_reservation {res : Reservation D} (hresources : res.resources.length < 2 ^ 64)
    (hlinks : res.links.length < 2 ^ 64) :
    Decodes deserializeReservation (serializeReservation res) res := by
  unfold deserializeReservation serializeReservation
  refine (decodes_gen _).seq <| (decodes_u8 _).seq <| (decodes_f64_self _).seq <|
    (decodes_vec_self hresources decodes_ident).seq <|
    (decodes_vec_self hlinks decodes_ident).seq <| (decodes_u64 _).seq <|
    (decodes_u64 _).seq <| (decodes_u8 _).seq <| (decodes_bool _).seq ?_
  rw [ReservationStrength.ofByte_toByte, ProvenanceStatus.ofByte_toByte]
  exact Decodes.pure res

theorem decodes_capacity (c : CapacityState D) :
    Decodes deserializeCapacity (serializeCapacity c) c := by
  unfold deserializeCapacity serializeCapacity
  refine (decodes_gen _).seq <| (decodes_f64_self _).seq <| (decodes_f64_self _).seq <|
    (decodes_f64_self _).seq <| (decodes_u8 _).seq ?_
  rw [ProvenanceStatus.ofByte_toByte]
  exact Decodes.pure c

end BitCast

end CollectiveScheduler
