/-
  Persistence/Positional.lean --- the deserializers over a buffer and a position.

  Source: `PersistenceReader` of src/persistence.cpp and the nine `deserialize_*`
  functions of src/serialize.cpp.

  The reader is kept here as the source has it: a pointer, a length, a limit and a
  position, all 64-bit.  The readers of Persistence/Codec.lean, Persistence/Serialize.lean
  and Protocol/Payload.lean, which work on the bytes that are left, are what it refines.
-/
import CollectiveScheduler.Foundation.Cursor
import CollectiveScheduler.Protocol.Payload

set_option autoImplicit false

namespace CollectiveScheduler.Positional

open Foundation

/-- A positional reader that throws. -/
abbrev Read (α : Type) := Cursor SchedulerError α

/-! ## Methods of the reader -/

/-- `need(n)`, the accesses behind it and `pos_ += n`. -/
def chunk (n : UInt64) : Read (List UInt8) :=
  Cursor.chunk (throwMalformed "persistence read exceeds max size")
    (throwMalformed "persistence truncation") n

/-- A little-endian number of `width` bytes. -/
def number (width : UInt64) : Read Nat := do
  let bytes ← chunk width
  return ofLittleEndian bytes

def u8 : Read UInt8 := do return UInt8.ofNat (← number 1)

def u32 : Read UInt32 := do return UInt32.ofNat (← number 4)

def u64 : Read UInt64 := do return UInt64.ofNat (← number 8)

def i32 : Read Int32 := do return (← u32).toInt32

def f64 {D : Type} [Double D] : Read D := do return Double.ofBits (← u64)

/-- `r.u8() != 0`. -/
def bool : Read Bool := do return (← u8) != 0

/-- `id` for an identity. -/
def ident {d : IdDomain} : Read (Id d) := do return ⟨← u64⟩

/-- `id` for a generation. -/
def gen {d : GenDomain} : Read (Gen d) := do return ⟨← u64⟩

/-- `auto n = r.u64(); for (std::uint64_t i = 0; i < n; ++i)`. -/
def vec {α : Type} (c : Read α) : Read (List α) := do
  let n ← u64
  c.times n.toNat

/-- `str`. -/
def str : Read ByteString := do
  let n ← u64
  let max ← Cursor.limit
  if n.toNat > max then Cursor.fail (throwMalformed "persistence string exceeds max")
  else return Sized.ofList (← chunk n)

/-- `if (r.u8())`. -/
def opt {α : Type} (c : Read α) : Read (Option α) := do
  if ← bool then return some (← c) else return none

/-! ## The deserializers -/

def deserializeDependency : Read DependencyRequirement := do
  let did ← ident
  let dgen ← gen
  let kind ← u8
  let provenance ← u8
  return {
    id := did, gen := dgen, kind := .ofByte kind, provenance := .ofByte provenance }

section Doubles

variable {D : Type} [Double D]

def deserializeClaim : Read (ResourceClaim D) := do
  let resource ← ident
  let cgen ← gen
  let units ← f64
  let exclusive ← bool
  let provenance ← u8
  return {
    resource := resource, gen := cgen, units := units, exclusive := exclusive,
    provenance := .ofByte provenance }

/-- `deserialize_request`. -/
def deserializeRequest : Read (CollectiveRequest D) := do
  let qid ← ident
  let qgen ← gen
  let collective ← ident
  let collectiveGen ← gen
  let kind ← u8
  let payloadBytes ← u64
  let participants ← vec ident
  let participantGens ← vec gen
  let perParticipantPayload ← vec u64
  let planId ← ident
  let planGen ← gen
  let dependencies ← vec deserializeDependency
  let resourceClaims ← vec deserializeClaim
  let exclusionClasses ← vec str
  let priorityValue ← i32
  let priorityGen ← gen
  let authoritative ← bool
  let earliestStartNs ← u64
  let latestStartNs ← u64
  let deadlineNs ← u64
  let expectedDurationNs ← u64
  let slackNs ← u64
  let windowSource ← u8
  let overlap ← u8
  let fairnessClass ← u8
  let reservationGen ← opt gen
  let workload ← ident
  let workloadGen ← gen
  let queueClass ← u8
  let maxRetries ← u32
  let retryCount ← u32
  let policyGen ← gen
  let provenance ← u8
  return {
    id := qid, gen := qgen, collective := collective, collectiveGen := collectiveGen,
    kind := .ofByte kind, participants := participants, participantGens := participantGens,
    payloadBytes := payloadBytes, perParticipantPayload := perParticipantPayload,
    planId := planId, planGen := planGen, dependencies := dependencies,
    resourceClaims := resourceClaims, exclusionClasses := Sized.ofList exclusionClasses,
    priority := { value := priorityValue, gen := priorityGen, authoritative := authoritative },
    window :=
      { earliestStartNs := earliestStartNs, latestStartNs := latestStartNs,
        deadlineNs := deadlineNs, expectedDurationNs := expectedDurationNs, slackNs := slackNs,
        source := .ofByte windowSource },
    overlap := .ofByte overlap, fairnessClass := .ofByte fairnessClass,
    reservationGen := reservationGen, workload := workload, workloadGen := workloadGen,
    queueClass := .ofByte queueClass, maxRetries := maxRetries, retryCount := retryCount,
    policyGen := policyGen, provenance := .ofByte provenance }

/-- `deserialize_fairness`. -/
def deserializeFairness : Read (FairnessAccount D) := do
  let cls ← u8
  let observedGrants ← u64
  let observedService ← f64
  let deficit ← f64
  let waitTicks ← u64
  let consecutiveBypasses ← u64
  let starved ← bool
  let targetShare ← f64
  return {
    cls := .ofByte cls, observedGrants := observedGrants, observedService := observedService,
    deficit := deficit, waitTicks := waitTicks, consecutiveBypasses := consecutiveBypasses,
    starved := starved, targetShare := targetShare }

/-- `deserialize_plan`. -/
def deserializePlan : Read (CommunicationPlan D) := do
  let plid ← ident
  let plgen ← gen
  let kind ← u8
  let topologyGen ← gen
  let participants ← vec ident
  let flows ← vec ident
  let resources ← vec ident
  let links ← vec ident
  let paths ← vec ident
  let byteCount ← u64
  let estimatedBandwidth ← f64
  let estimatedDurationNs ← u64
  let communicationCost ← u64
  let provenance ← u8
  let valid ← bool
  return {
    id := plid, gen := plgen, kind := .ofByte kind, topologyGen := topologyGen,
    participants := participants, flows := flows, resources := resources, links := links,
    paths := paths, byteCount := byteCount, estimatedBandwidth := estimatedBandwidth,
    estimatedDurationNs := estimatedDurationNs, communicationCost := communicationCost,
    provenance := .ofByte provenance, valid := valid }

/-- `deserialize_congestion`. -/
def deserializeCongestion : Read (CongestionState D) := do
  let cgen ← gen
  let utilization ← f64
  let residualBandwidth ← f64
  let isCongested ← bool
  let hardCeiling ← bool
  let hardCeilingUtilization ← f64
  let backpressureIntent ← bool
  let bottlenecks ← vec ident
  let provenance ← u8
  return {
    gen := cgen, utilization := utilization, residualBandwidth := residualBandwidth,
    isCongested := isCongested, hardCeiling := hardCeiling,
    hardCeilingUtilization := hardCeilingUtilization, backpressureIntent := backpressureIntent,
    bottlenecks := bottlenecks, provenance := .ofByte provenance }

/-- `deserialize_reservation`. -/
def deserializeReservation : Read (Reservation D) := do
  let rgen ← gen
  let strength ← u8
  let reservedBandwidth ← f64
  let resources ← vec ident
  let links ← vec ident
  let windowStartNs ← u64
  let windowEndNs ← u64
  let provenance ← u8
  let valid ← bool
  return {
    gen := rgen, strength := .ofByte strength, reservedBandwidth := reservedBandwidth,
    resources := resources, links := links, windowStartNs := windowStartNs,
    windowEndNs := windowEndNs, provenance := .ofByte provenance, valid := valid }

/-- `deserialize_capacity`. -/
def deserializeCapacity : Read (CapacityState D) := do
  let cgen ← gen
  let usableCapacity ← f64
  let headroom ← f64
  let confidence ← f64
  let provenance ← u8
  return {
    gen := cgen, usableCapacity := usableCapacity, headroom := headroom,
    confidence := confidence, provenance := .ofByte provenance }

end Doubles

def deserializeEvidenceSnapshot : Read EvidenceSnapshot := do
  let epoch ← gen
  let collectiveGen ← gen
  let requestGen ← gen
  let planGen ← gen
  let participantGen ← gen
  let dependencyGen ← gen
  let reservationGen ← gen
  let congestionGen ← gen
  let capacityGen ← gen
  let policyGen ← gen
  let priorityGen ← gen
  let fairnessGen ← gen
  let topologyGen ← gen
  let capabilityGen ← gen
  let healthGen ← gen
  return {
    epoch := epoch, collectiveGen := collectiveGen, requestGen := requestGen,
    planGen := planGen, participantGen := participantGen, dependencyGen := dependencyGen,
    reservationGen := reservationGen, congestionGen := congestionGen,
    capacityGen := capacityGen, policyGen := policyGen, priorityGen := priorityGen,
    fairnessGen := fairnessGen, topologyGen := topologyGen, capabilityGen := capabilityGen,
    healthGen := healthGen }

def deserializeRevalidation : Read RevalidationRequirements := do
  let participants ← bool
  let plan ← bool
  let reservation ← bool
  let dependencies ← bool
  let congestion ← bool
  let capacity ← bool
  let executionAuthority ← bool
  let currentEpoch ← bool
  return {
    requireFreshParticipants := participants, requireFreshPlan := plan,
    requireFreshReservation := reservation, requireFreshDependencies := dependencies,
    requireFreshCongestion := congestion, requireFreshCapacity := capacity,
    requireFreshExecutionAuthority := executionAuthority, requireCurrentEpoch := currentEpoch }

/-- `deserialize_grant`. -/
def deserializeGrant : Read CollectiveGrant := do
  let gid ← ident
  let ggen ← gen
  let request ← ident
  let requestGen ← gen
  let collective ← ident
  let collectiveGen ← gen
  let schedule ← ident
  let scheduleGen ← gen
  let participants ← vec ident
  let participantGens ← vec gen
  let plan ← ident
  let planGen ← gen
  let evidence ← deserializeEvidenceSnapshot
  let revalidation ← deserializeRevalidation
  let workload ← ident
  let executionAttempt ← ident
  let executionAttemptGen ← gen
  let policyGen ← gen
  let active ← bool
  let terminal ← bool
  return {
    id := gid, gen := ggen, request := request, requestGen := requestGen,
    collective := collective, collectiveGen := collectiveGen, schedule := schedule,
    scheduleGen := scheduleGen, participants := participants,
    participantGens := participantGens, plan := plan, planGen := planGen,
    evidence := evidence, revalidation := revalidation, workload := workload,
    executionAttempt := executionAttempt, executionAttemptGen := executionAttemptGen,
    policyGen := policyGen, active := active, terminal := terminal }

/-- `deserialize_participant`. -/
def deserializeParticipant : Read Participant := do
  let pid ← ident
  let pgen ← gen
  let worker ← ident
  let workerBoot ← ident
  let source ← ident
  let sourceBoot ← ident
  let device ← ident
  let node ← ident
  let nic ← ident
  let capabilityGen ← gen
  let healthGen ← gen
  let topologyGen ← gen
  let processId ← u32
  let ready ← bool
  let readinessSource ← u8
  let provenance ← u8
  return {
    id := pid, gen := pgen, worker := worker, workerBoot := workerBoot, source := source,
    sourceBoot := sourceBoot, device := device, node := node, nic := nic,
    capabilityGen := capabilityGen, healthGen := healthGen, topologyGen := topologyGen,
    processId := processId, ready := ready, readinessSource := .ofByte readinessSource,
    provenance := .ofByte provenance }

/-- `deserialize_dependency`. -/
def deserializeDependencyState : Read DependencyState := do
  let did ← ident
  let kind ← u8
  let dgen ← gen
  let satisfied ← bool
  let source ← u8
  return {
    id := did, kind := .ofByte kind, gen := dgen, satisfied := satisfied,
    source := .ofByte source }

end CollectiveScheduler.Positional
