/-
  Persistence/Serialize.lean --- requests and fairness accounts as bytes.

  Source: `serialize_request`, `deserialize_request`, `serialize_fairness` and
  `deserialize_fairness` of src/serialize.cpp.

  Enumerators are written as their byte and cast back without a check, and
  doubles go through their bit pattern, so what is read back is the value of the
  byte or pattern (`recoded`).
-/
import CollectiveScheduler.Foundation.Binary64
import CollectiveScheduler.Persistence.Codec

set_option autoImplicit false

namespace CollectiveScheduler

open Foundation Reader

/-! ## Enumerators -/

namespace ProvenanceStatus

def toByte : ProvenanceStatus → UInt8
  | real => 0
  | measured => 1
  | reported => 2
  | derived => 3
  | estimated => 4
  | forecast => 5
  | synthetic => 6
  | unknown => 7
  | undeclared raw _ => raw

/-- `static_cast<ProvenanceStatus>`. -/
def ofByte (b : UInt8) : ProvenanceStatus :=
  ofRawByte [real, measured, reported, derived, estimated, forecast, synthetic, unknown]
    undeclared b

theorem ofByte_toByte (x : ProvenanceStatus) : ofByte x.toByte = x := by
  cases x with
  | undeclared raw h => exact dif_neg (Nat.not_lt.mpr h)
  | _ => rfl

end ProvenanceStatus

namespace CollectiveKind

def toByte : CollectiveKind → UInt8
  | allReduce => 0
  | allGather => 1
  | reduceScatter => 2
  | broadcast => 3
  | reduce => 4
  | gather => 5
  | scatter => 6
  | allToAll => 7
  | barrier => 8
  | custom => 9
  | unknown => 10
  | undeclared raw _ => raw

/-- `static_cast<CollectiveKind>`. -/
def ofByte (b : UInt8) : CollectiveKind :=
  ofRawByte [allReduce, allGather, reduceScatter, broadcast, reduce, gather, scatter, allToAll,
    barrier, custom, unknown] undeclared b

theorem ofByte_toByte (x : CollectiveKind) : ofByte x.toByte = x := by
  cases x with
  | undeclared raw h => exact dif_neg (Nat.not_lt.mpr h)
  | _ => rfl

end CollectiveKind

namespace OverlapMode

def toByte : OverlapMode → UInt8
  | exclusive => 0
  | overlapAllowed => 1
  | overlapLimited => 2
  | serialize => 3
  | unknown => 4
  | undeclared raw _ => raw

/-- `static_cast<OverlapMode>`. -/
def ofByte (b : UInt8) : OverlapMode :=
  ofRawByte [exclusive, overlapAllowed, overlapLimited, serialize, unknown] undeclared b

theorem ofByte_toByte (x : OverlapMode) : ofByte x.toByte = x := by
  cases x with
  | undeclared raw h => exact dif_neg (Nat.not_lt.mpr h)
  | _ => rfl

end OverlapMode

namespace QueueClass

def toByte : QueueClass → UInt8
  | latencyCritical => 0
  | deadline => 1
  | standard => 2
  | throughput => 3
  | background => 4
  | recovery => 5
  | checkpoint => 6
  | control => 7
  | undeclared raw _ => raw

/-- `static_cast<QueueClass>`. -/
def ofByte (b : UInt8) : QueueClass :=
  ofRawByte [latencyCritical, deadline, standard, throughput, background, recovery, checkpoint,
    control] undeclared b

theorem ofByte_toByte (x : QueueClass) : ofByte x.toByte = x := by
  cases x with
  | undeclared raw h => exact dif_neg (Nat.not_lt.mpr h)
  | _ => rfl

end QueueClass

namespace FairnessClass

def toByte : FairnessClass → UInt8
  | defaultClass => 0
  | protectedClass => 1
  | bestEffort => 2
  | undeclared raw _ => raw

/-- `static_cast<FairnessClass>`. -/
def ofByte (b : UInt8) : FairnessClass :=
  ofRawByte [defaultClass, protectedClass, bestEffort] undeclared b

theorem ofByte_toByte (x : FairnessClass) : ofByte x.toByte = x := by
  cases x with
  | undeclared raw h => exact dif_neg (Nat.not_lt.mpr h)
  | _ => rfl

end FairnessClass

namespace DependencyKind

def toByte : DependencyKind → UInt8
  | tensorReady => 0
  | predecessorCompleted => 1
  | executionPhaseComplete => 2
  | checkpointReady => 3
  | modelStageReady => 4
  | timer => 5
  | custom => 6
  | unknown => 7
  | undeclared raw _ => raw

/-- `static_cast<DependencyKind>`. -/
def ofByte (b : UInt8) : DependencyKind :=
  ofRawByte [tensorReady, predecessorCompleted, executionPhaseComplete, checkpointReady,
    modelStageReady, timer, custom, unknown] undeclared b

theorem ofByte_toByte (x : DependencyKind) : ofByte x.toByte = x := by
  cases x with
  | undeclared raw h => exact dif_neg (Nat.not_lt.mpr h)
  | _ => rfl

end DependencyKind

/-! ## Requests -/

section Request

variable {D : Type} [Double D]

open PersistenceWriter in
def serializeDependency (d : DependencyRequirement) : List UInt8 :=
  [ident d.id, gen d.gen, u8 d.kind.toByte, u8 d.provenance.toByte].flatten

open PersistenceWriter in
def serializeClaim (c : ResourceClaim D) : List UInt8 :=
  [ident c.resource, gen c.gen, f64 c.units, bool c.exclusive, u8 c.provenance.toByte].flatten

open PersistenceWriter in
/-- `serialize_request`. -/
def serializeRequest (r : CollectiveRequest D) : List UInt8 :=
  [ident r.id, gen r.gen, ident r.collective, gen r.collectiveGen,
    u8 r.kind.toByte,
    u64 r.payloadBytes,
    vec ident r.participants,
    vec gen r.participantGens,
    vec u64 r.perParticipantPayload,
    ident r.planId, gen r.planGen,
    vec serializeDependency r.dependencies,
    vec serializeClaim r.resourceClaims,
    vec str r.exclusionClasses.val,
    i32 r.priority.value, gen r.priority.gen, bool r.priority.authoritative,
    u64 r.window.earliestStartNs, u64 r.window.latestStartNs, u64 r.window.deadlineNs,
    u64 r.window.expectedDurationNs, u64 r.window.slackNs, u8 r.window.source.toByte,
    u8 r.overlap.toByte,
    u8 r.fairnessClass.toByte,
    opt gen r.reservationGen,
    ident r.workload, gen r.workloadGen,
    u8 r.queueClass.toByte,
    u32 r.maxRetries, u32 r.retryCount,
    gen r.policyGen,
    u8 r.provenance.toByte].flatten

open PersistenceReader in
def deserializeDependency : Read DependencyRequirement := do
  let did ← ident
  let dgen ← gen
  let kind ← u8
  let provenance ← u8
  return {
    id := did, gen := dgen, kind := .ofByte kind, provenance := .ofByte provenance }

open PersistenceReader in
def deserializeClaim : Read (ResourceClaim D) := do
  let resource ← ident
  let cgen ← gen
  let units ← f64
  let exclusive ← bool
  let provenance ← u8
  return {
    resource := resource, gen := cgen, units := units, exclusive := exclusive,
    provenance := .ofByte provenance }

open PersistenceReader in
/-- `deserialize_request`. -/
def deserializeRequest : Read (CollectiveRequest D) := do
  let qid ← ident
  let qgen ← gen
  let collective ← ident
  let collectiveGen ← gen
  let kind ← u8
  let payloadBytes ← u64
  let participants ← vec ident
  let participantGens ← vec gen
  let perParticipantPayload ← vec u64
  let planId ← ident
  let planGen ← gen
  let dependencies ← vec deserializeDependency
  let resourceClaims ← vec deserializeClaim
  let exclusionClasses ← vec str
  let priorityValue ← i32
  let priorityGen ← gen
  let authoritative ← bool
  let earliestStartNs ← u64
  let latestStartNs ← u64
  let deadlineNs ← u64
  let expectedDurationNs ← u64
  let slackNs ← u64
  let windowSource ← u8
  let overlap ← u8
  let fairnessClass ← u8
  let reservationGen ← opt gen
  let workload ← ident
  let workloadGen ← gen
  let queueClass ← u8
  let maxRetries ← u32
  let retryCount ← u32
  let policyGen ← gen
  let provenance ← u8
  return {
    id := qid, gen := qgen, collective := collective, collectiveGen := collectiveGen,
    kind := .ofByte kind, participants := participants, participantGens := participantGens,
    payloadBytes := payloadBytes, perParticipantPayload := perParticipantPayload,
    planId := planId, planGen := planGen, dependencies := dependencies,
    resourceClaims := resourceClaims, exclusionClasses := Sized.ofList exclusionClasses,
    priority := { value := priorityValue, gen := priorityGen, authoritative := authoritative },
    window :=
      { earliestStartNs := earliestStartNs, latestStartNs := latestStartNs,
        deadlineNs := deadlineNs, expectedDurationNs := expectedDurationNs, slackNs := slackNs,
        source := .ofByte windowSource },
    overlap := .ofByte overlap, fairnessClass := .ofByte fairnessClass,
    reservationGen := reservationGen, workload := workload, workloadGen := workloadGen,
    queueClass := .ofByte queueClass, maxRetries := maxRetries, retryCount := retryCount,
    policyGen := policyGen, provenance := .ofByte provenance }

/-! ### What is read back -/

def DependencyRequirement.recoded (d : DependencyRequirement) : DependencyRequirement :=
  { d with kind := .ofByte d.kind.toByte, provenance := .ofByte d.provenance.toByte }

def ResourceClaim.recoded (c : ResourceClaim D) : ResourceClaim D :=
  { c with
    units := Double.ofBits (Double.toBits c.units)
    provenance := .ofByte c.provenance.toByte }

/-- The request with its enumerators and doubles read back from their bytes. -/
def CollectiveRequest.recoded (r : CollectiveRequest D) : CollectiveRequest D :=
  { r with
    kind := .ofByte r.kind.toByte
    dependencies := r.dependencies.map (·.recoded)
    resourceClaims := r.resourceClaims.map (·.recoded)
    window := { r.window with source := .ofByte r.window.source.toByte }
    overlap := .ofByte r.overlap.toByte
    fairnessClass := .ofByte r.fairnessClass.toByte
    queueClass := .ofByte r.queueClass.toByte
    provenance := .ofByte r.provenance.toByte }

theorem decodes_dependency (d : DependencyRequirement) :
    Decodes deserializeDependency (serializeDependency d) d.recoded := by
  unfold deserializeDependency serializeDependency
  exact (decodes_ident _).seq <| (decodes_gen _).seq <| (decodes_u8 _).seq <|
    (decodes_u8 _).seq <| Decodes.pure _

theorem decodes_claim (c : ResourceClaim D) :
    Decodes deserializeClaim (serializeClaim c) c.recoded := by
  unfold deserializeClaim serializeClaim
  exact (decodes_ident _).seq <| (decodes_gen _).seq <| (decodes_f64 _).seq <|
    (decodes_bool _).seq <| (decodes_u8 _).seq <| Decodes.pure _

/-- A vector whose elements are read back as they are. -/
theorem decodes_vec_self {α : Type} {write : α → List UInt8} {r : PersistenceReader.Read α}
    {l : List α} (hsize : l.length < 2 ^ 64) (h : ∀ a, Decodes r (write a) a) :
    Decodes (PersistenceReader.vec r) (PersistenceWriter.vec write l) l := by
  have hvec := decodes_vec hsize (fun a _ => h a)
  rwa [List.map_id'] at hvec

/-- The sizes of the vectors fit `size_t`, as those of every `std::vector` do. -/
structure CollectiveRequest.SizesFit (r : CollectiveRequest D) : Prop where
  participants : r.participants.length < 2 ^ 64
  gens : r.participantGens.length < 2 ^ 64
  payload : r.perParticipantPayload.length < 2 ^ 64
  dependencies : r.dependencies.length < 2 ^ 64
  claims : r.resourceClaims.length < 2 ^ 64

omit [Double D] in
theorem CollectiveRequest.WellFormed.sizesFit {r : CollectiveRequest D} (h : r.WellFormed) :
    r.SizesFit where
  participants := h.participants
  gens := h.parallel ▸ h.participants
  payload := lt_of_le_of_lt h.payload h.participants
  dependencies := h.dependencies
  claims := h.claims

/-- A request is read back, recoded. -/
theorem decodes_request {r : CollectiveRequest D} (h : r.SizesFit) :
    Decodes deserializeRequest (serializeRequest r) r.recoded := by
  unfold deserializeRequest serializeRequest
  refine (decodes_ident _).seq <| (decodes_gen _).seq <| (decodes_ident _).seq <|
    (decodes_gen _).seq <| (decodes_u8 _).seq <| (decodes_u64 _).seq ?_
  refine (decodes_vec_self h.participants decodes_ident).seq <|
    (decodes_vec_self h.gens decodes_gen).seq <|
    (decodes_vec_self h.payload decodes_u64).seq ?_
  refine (decodes_ident _).seq <| (decodes_gen _).seq <|
    (decodes_vec h.dependencies (fun d _ => decodes_dependency d)).seq <|
    (decodes_vec h.claims (fun c _ => decodes_claim c)).seq <|
    (decodes_vec_self r.exclusionClasses.property decodes_str).seq ?_
  refine (decodes_i32 _).seq <| (decodes_gen _).seq <| (decodes_bool _).seq ?_
  refine (decodes_u64 _).seq <| (decodes_u64 _).seq <| (decodes_u64 _).seq <|
    (decodes_u64 _).seq <| (decodes_u64 _).seq <| (decodes_u8 _).seq ?_
  refine (decodes_u8 _).seq <| (decodes_u8 _).seq <|
    (decodes_opt (fun g _ => decodes_gen g)).seq <| (decodes_ident _).seq <|
    (decodes_gen _).seq <| (decodes_u8 _).seq <| (decodes_u32 _).seq <|
    (decodes_u32 _).seq <| (decodes_gen _).seq <| (decodes_u8 _).seq ?_
  rw [Sized.ofList_val r.exclusionClasses.property]
  exact Decodes.pure _

end Request

/-! ## Fairness accounts -/

section Fairness

variable {D : Type} [Double D]

open PersistenceWriter in
/-- `serialize_fairness`. -/
def serializeFairness (f : FairnessAccount D) : List UInt8 :=
  [u8 f.cls.toByte, u64 f.observedGrants, f64 f.observedService, f64 f.deficit,
    u64 f.waitTicks, u64 f.consecutiveBypasses, bool f.starved, f64 f.targetShare].flatten

open PersistenceReader in
/-- `deserialize_fairness`. -/
def deserializeFairness : Read (FairnessAccount D) := do
  let cls ← u8
  let observedGrants ← u64
  let observedService ← f64
  let deficit ← f64
  let waitTicks ← u64
  let consecutiveBypasses ← u64
  let starved ← bool
  let targetShare ← f64
  return {
    cls := .ofByte cls, observedGrants := observedGrants, observedService := observedService,
    deficit := deficit, waitTicks := waitTicks, consecutiveBypasses := consecutiveBypasses,
    starved := starved, targetShare := targetShare }

def FairnessAccount.recoded (f : FairnessAccount D) : FairnessAccount D :=
  { f with
    cls := .ofByte f.cls.toByte
    observedService := Double.ofBits (Double.toBits f.observedService)
    deficit := Double.ofBits (Double.toBits f.deficit)
    targetShare := Double.ofBits (Double.toBits f.targetShare) }

theorem decodes_fairness (f : FairnessAccount D) :
    Decodes deserializeFairness (serializeFairness f) f.recoded := by
  unfold deserializeFairness serializeFairness
  exact (decodes_u8 _).seq <| (decodes_u64 _).seq <| (decodes_f64 _).seq <|
    (decodes_f64 _).seq <| (decodes_u64 _).seq <| (decodes_u64 _).seq <|
    (decodes_bool _).seq <| (decodes_f64 _).seq <| Decodes.pure _

end Fairness

/-! ## Doubles as bit patterns -/

section Recoded

variable {D : Type} [Double D] [Double.BitCast D]

omit [Double D] [Double.BitCast D] in
theorem DependencyRequirement.recoded_eq (d : DependencyRequirement) : d.recoded = d := by
  simp only [DependencyRequirement.recoded, DependencyKind.ofByte_toByte,
    ProvenanceStatus.ofByte_toByte]

theorem ResourceClaim.recoded_eq (c : ResourceClaim D) : c.recoded = c := by
  simp only [ResourceClaim.recoded, Double.BitCast.ofBits_toBits,
    ProvenanceStatus.ofByte_toByte]

theorem CollectiveRequest.recoded_eq (r : CollectiveRequest D) : r.recoded = r := by
  have hdependencies : r.dependencies.map (·.recoded) = r.dependencies := by
    simp only [DependencyRequirement.recoded_eq, List.map_id']
  have hclaims : r.resourceClaims.map (·.recoded) = r.resourceClaims := by
    simp only [ResourceClaim.recoded_eq, List.map_id']
  simp only [CollectiveRequest.recoded, hdependencies, hclaims, CollectiveKind.ofByte_toByte,
    ProvenanceStatus.ofByte_toByte, OverlapMode.ofByte_toByte, FairnessClass.ofByte_toByte,
    QueueClass.ofByte_toByte]

theorem FairnessAccount.recoded_eq (f : FairnessAccount D) : f.recoded = f := by
  simp only [FairnessAccount.recoded, Double.BitCast.ofBits_toBits, FairnessClass.ofByte_toByte]

end Recoded

end CollectiveScheduler
