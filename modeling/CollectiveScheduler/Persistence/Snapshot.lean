/-
  Persistence/Snapshot.lean --- saving and restoring the durable state.

  Source: `Scheduler::serializeState`, `Scheduler::deserializeState` and
  `persist_enum_ok` of src/scheduler.cpp, and `Persistence::save` and
  `Persistence::restore` of src/persistence.cpp.

  `restore` replaces the state before it checks that the input has ended, so a
  snapshot with trailing bytes throws after the replacement.
-/
import CollectiveScheduler.Persistence.Serialize
import CollectiveScheduler.Scheduler.Operations

set_option autoImplicit false

namespace CollectiveScheduler

open Foundation Reader

/-! ## Lifecycle states -/

namespace LifecycleState

/-- The states in the order of their bytes. -/
def all : List LifecycleState :=
  [declared, waiting, ready, eligible, queued, granted, dispatching, active, draining, completed,
    cancelled, failed, revalidationRequired, superseded, stale, retired]

def toByte : LifecycleState → UInt8
  | declared => 0
  | waiting => 1
  | ready => 2
  | eligible => 3
  | queued => 4
  | granted => 5
  | dispatching => 6
  | active => 7
  | draining => 8
  | completed => 9
  | cancelled => 10
  | failed => 11
  | revalidationRequired => 12
  | superseded => 13
  | stale => 14
  | retired => 15

/-- The cast and `persist_enum_ok`: a byte that no state has is refused. -/
def ofByte? (b : UInt8) : Option LifecycleState := all[b.toNat]?

theorem ofByte?_toByte (st : LifecycleState) : ofByte? st.toByte = some st := by
  cases st <;> rfl

end LifecycleState

section Records

variable {D : Type} [Double D]

/-! ## Records -/

open PersistenceWriter in
/-- The body of the loop of `serializeState`. -/
def serializeRecord (rec : Record D) : List UInt8 :=
  [serializeRequest rec.request, u8 rec.lifecycle.toByte, u64 rec.enqueueSeq, u64 rec.ageTicks,
    serializeFairness rec.fairness].flatten

open PersistenceReader in
def readLifecycle : Read LifecycleState := do
  let b ← u8
  match LifecycleState.ofByte? b with
  | none => Reader.fail (throwMalformed "invalid lifecycle enum in persistence")
  | some st => return st

open PersistenceReader in
/-- The body of the loop of `deserializeState`. -/
def deserializeRecord : Read (Record D) := do
  let request ← deserializeRequest
  let lifecycle ← readLifecycle
  let enqueueSeq ← u64
  let ageTicks ← u64
  let fairness ← deserializeFairness
  return {
    request := request, lifecycle := lifecycle, enqueueSeq := enqueueSeq, ageTicks := ageTicks,
    fairness := fairness }

/-- What is read back of a record. -/
def Record.recoded (rec : Record D) : Record D where
  request := rec.request.recoded
  lifecycle := rec.lifecycle
  enqueueSeq := rec.enqueueSeq
  ageTicks := rec.ageTicks
  fairness := rec.fairness.recoded

theorem decodes_lifecycle (st : LifecycleState) :
    Decodes readLifecycle (PersistenceWriter.u8 st.toByte) st := by
  have hcast : Decodes (match LifecycleState.ofByte? st.toByte with
      | none => Reader.fail (throwMalformed "invalid lifecycle enum in persistence")
      | some st => (Pure.pure st : PersistenceReader.Read LifecycleState)) [] st := by
    rw [LifecycleState.ofByte?_toByte]
    exact Decodes.pure st
  exact (decodes_u8 st.toByte).bind hcast

theorem decodes_record {rec : Record D} (h : rec.request.WellFormed) :
    Decodes deserializeRecord (serializeRecord rec) rec.recoded := by
  unfold deserializeRecord serializeRecord
  exact (decodes_request h.sizesFit).seq <| (decodes_lifecycle _).seq <| (decodes_u64 _).seq <|
    (decodes_u64 _).seq <| (decodes_fairness _).seq <| Decodes.pure _

end Records

/-! ## The durable state -/

/-- The values a snapshot holds. -/
structure StateImage (D : Type) where
  epoch : CoordinatorEpoch
  nextRequestId : CollectiveRequestId
  nextScheduleId : CollectiveScheduleId
  nextGrantId : CollectiveGrantId
  nextGroupId : CollectiveGroupId
  nextScheduleGen : CollectiveScheduleGeneration
  nextGrantGen : CollectiveGrantGeneration
  nextGroupGen : CollectiveGroupGeneration
  nextSeq : UInt64
  policyGen : PolicyGeneration
  records : List (Record D)

namespace Scheduler

variable {D : Type}

/-- The assignments at the end of `deserializeState`. -/
def install (s : Scheduler D) (image : StateImage D) : Scheduler D :=
  { s with
    epoch := image.epoch
    nextRequestId := image.nextRequestId
    nextScheduleId := image.nextScheduleId
    nextGrantId := image.nextGrantId
    nextGroupId := image.nextGroupId
    nextScheduleGen := image.nextScheduleGen
    nextGrantGen := image.nextGrantGen
    nextGroupGen := image.nextGroupGen
    nextSeq := image.nextSeq
    policyGen := image.policyGen
    records := image.records.foldl (fun m rec => m.emplace rec.request.id rec) .empty
    participantRequests := image.records.foldl
      (fun m rec => trackRequest m rec.request.participants rec.request.id) .empty
    grants := .empty
    activeByParticipant := .empty
    activeGrants := 0 }

variable [Double D]

open PersistenceWriter in
/-- `serializeState`, walking the records in iteration order. -/
def serializeState (s : Scheduler D) (recordOrder : List CollectiveRequestId) : List UInt8 :=
  [gen s.epoch, ident s.nextRequestId, ident s.nextScheduleId, ident s.nextGrantId,
    ident s.nextGroupId, gen s.nextScheduleGen, gen s.nextGrantGen, gen s.nextGroupGen,
    u64 s.nextSeq, gen s.policyGen,
    vec serializeRecord (s.records.valuesIn recordOrder)].flatten

open PersistenceReader in
/-- The reads of `deserializeState`, under the bound on the number of records. -/
def deserializeState (maxHistoryRecords : UInt64) : Read (StateImage D) := do
  let epoch ← gen
  let nrid ← ident
  let nsid ← ident
  let ngid ← ident
  let ngrpid ← ident
  let nscheduleGen ← gen
  let ngrantGen ← gen
  let ngroupGen ← gen
  let nseq ← u64
  let npol ← gen
  let nrec ← u64
  if nrec > maxHistoryRecords then
    Reader.fail (throwBounds "persistence record count exceeds bound")
  else
    let recs ← deserializeRecord.times nrec.toNat
    return {
      epoch := epoch, nextRequestId := nrid, nextScheduleId := nsid, nextGrantId := ngid,
      nextGroupId := ngrpid, nextScheduleGen := nscheduleGen, nextGrantGen := ngrantGen,
      nextGroupGen := ngroupGen, nextSeq := nseq, policyGen := npol, records := recs }

/-- Every record of an image was read by `deserializeRecord`. -/
theorem yields_deserializeState {P : Record D → Prop}
    (h : Reader.Yields (deserializeRecord (D := D)) P) (maxHistoryRecords : UInt64) :
    Reader.Yields (deserializeState (D := D) maxHistoryRecords)
      (fun image => ∀ rec ∈ image.records, P rec) := by
  unfold deserializeState
  refine .skip fun _ => .skip fun _ => .skip fun _ => .skip fun _ => .skip fun _ => .skip fun _ =>
    .skip fun _ => .skip fun _ => .skip fun _ => .skip fun _ => .skip fun nrec => ?_
  split_ifs
  · exact .fail _
  · exact (h.times nrec.toNat).bind fun recs hrecs => .pure hrecs.2

end Scheduler

/-! ## Save and restore -/

namespace Persistence

open Scheduler

variable {D : Type} [Double D]

def kMagic : UInt32 := 0x43535058

def kVersion : UInt16 := 1

def kCheckSeed : UInt64 := 0x4b2f9a8d1c7e3f5a

/-- Everything `save` writes in front of the checksum. -/
def body (s : Scheduler D) (recordOrder : List CollectiveRequestId) : List UInt8 :=
  PersistenceWriter.u32 kMagic ++ (PersistenceWriter.u16 kVersion ++ s.serializeState recordOrder)

/-- `Persistence::save`. -/
def save (s : Scheduler D) (recordOrder : List CollectiveRequestId) : List UInt8 :=
  body s recordOrder ++ PersistenceWriter.u64 (fnv1a64 (body s recordOrder) kCheckSeed)

open PersistenceReader in
/-- The magic number and the version. -/
def readHeader : Read (UInt32 × UInt16) := do
  let magic ← u32
  let ver ← u16
  return (magic, ver)

/-- The checks of `restore` in front of the state; `ok` with the bytes of the
state. -/
def checkEnvelope (bytes : List UInt8) : Except SchedulerError (List UInt8) :=
  if bytes.length < 4 + 2 + 8 then .error (throwMalformed "persistence truncated")
  else
    match readHeader bytes.length bytes with
    | .error e => .error e
    | .ok ((magic, ver), _) =>
        if magic ≠ kMagic then .error (throwMalformed "bad persistence magic")
        else if ver ≠ kVersion then .error (throwMalformed "unsupported persistence version")
        else
          let bodyLen := bytes.length - 8
          let stored := UInt64.ofNat (ofLittleEndian (bytes.drop bodyLen))
          if stored ≠ fnv1a64 (bytes.take bodyLen) kCheckSeed then
            .error (throwMalformed "persistence checksum mismatch")
          else .ok ((bytes.take bodyLen).drop 6)

/-- `Persistence::restore`. -/
def restore (s : Scheduler D) (bytes : List UInt8) : Scheduler D × Except SchedulerError Unit :=
  match checkEnvelope bytes with
  | .error e => (s, .error e)
  | .ok state =>
      match deserializeState s.policy.bounds.maxHistoryRecords state.length state with
      | .error e => (s, .error e)
      | .ok (image, rest) =>
          if rest ≠ [] then
            (s.install image, .error (throwMalformed "persistence trailing garbage"))
          else ((s.install image).resetDynamicStateForRecovery, .ok ())

end Persistence

/-! ## What a restored snapshot holds -/

section RoundTrip

variable {D : Type} [Double D]

/-- The records can be written: each is well formed, and their number fits the
count. -/
structure Scheduler.Storable (s : Scheduler D) : Prop where
  keyed : s.Keyed
  wellFormed : ∀ id rec, s.records.find? id = some rec → rec.request.WellFormed
  size : s.records.size < 2 ^ 64

/-- The image a snapshot of the state holds. -/
def Scheduler.image (s : Scheduler D) (recordOrder : List CollectiveRequestId) :
    StateImage D where
  epoch := s.epoch
  nextRequestId := s.nextRequestId
  nextScheduleId := s.nextScheduleId
  nextGrantId := s.nextGrantId
  nextGroupId := s.nextGroupId
  nextScheduleGen := s.nextScheduleGen
  nextGrantGen := s.nextGrantGen
  nextGroupGen := s.nextGroupGen
  nextSeq := s.nextSeq
  policyGen := s.policyGen
  records := (s.records.valuesIn recordOrder).map (·.recoded)

omit [Double D] in
theorem toNat_recordCount {s : Scheduler D} (h : s.Storable)
    (recordOrder : List CollectiveRequestId) :
    (UInt64.ofNat (s.records.valuesIn recordOrder).length).toNat = s.records.size := by
  rw [FinMap.length_valuesIn]
  exact toNat_size h.size

/-- The state is read back by a scheduler whose bound admits its records. -/
theorem decodes_state {s : Scheduler D} (h : s.Storable)
    (recordOrder : List CollectiveRequestId) {bound : UInt64}
    (hbound : s.records.size ≤ bound.toNat) :
    Decodes (Scheduler.deserializeState bound) (s.serializeState recordOrder)
      (s.image recordOrder) := by
  have hcount := toNat_recordCount h recordOrder
  have hrecords : ∀ rec ∈ s.records.valuesIn recordOrder,
      Decodes deserializeRecord (serializeRecord rec) rec.recoded := by
    intro rec hrec
    obtain ⟨id, hfind⟩ := FinMap.exists_of_mem_valuesIn hrec
    exact decodes_record (h.wellFormed id rec hfind)
  have hfits : ¬UInt64.ofNat (s.records.valuesIn recordOrder).length > bound := by
    rw [gt_iff_lt, UInt64.lt_iff_toNat_lt, hcount]
    exact Nat.not_lt.mpr hbound
  unfold Scheduler.deserializeState Scheduler.serializeState PersistenceWriter.vec
  refine (decodes_gen _).seq <| (decodes_ident _).seq <| (decodes_ident _).seq <|
    (decodes_ident _).seq <| (decodes_ident _).seq <| (decodes_gen _).seq <|
    (decodes_gen _).seq <| (decodes_gen _).seq <| (decodes_u64 _).seq <| (decodes_gen _).seq ?_
  rw [List.flatten_singleton]
  refine (decodes_u64 _).bind ?_
  rw [if_neg hfits, hcount, ← FinMap.length_valuesIn s.records recordOrder]
  exact (Decodes.times _ hrecords).map

/-- A scheduler whose bound does not admit the records throws. -/
theorem fails_state {s : Scheduler D} (h : s.Storable)
    (recordOrder : List CollectiveRequestId) {bound : UInt64}
    (hbound : bound.toNat < s.records.size) :
    Fails (Scheduler.deserializeState bound : PersistenceReader.Read (StateImage D))
      (s.serializeState recordOrder)
      (throwBounds "persistence record count exceeds bound") := by
  have hover : UInt64.ofNat (s.records.valuesIn recordOrder).length > bound := by
    rw [gt_iff_lt, UInt64.lt_iff_toNat_lt, toNat_recordCount h recordOrder]
    exact hbound
  unfold Scheduler.deserializeState Scheduler.serializeState PersistenceWriter.vec
  refine (decodes_gen _).seqFails <| (decodes_ident _).seqFails <|
    (decodes_ident _).seqFails <| (decodes_ident _).seqFails <| (decodes_ident _).seqFails <|
    (decodes_gen _).seqFails <| (decodes_gen _).seqFails <| (decodes_gen _).seqFails <|
    (decodes_u64 _).seqFails <| (decodes_gen _).seqFails ?_
  rw [List.flatten_singleton]
  refine (decodes_u64 _).fails ?_
  rw [if_pos hover]
  exact fails_fail _ _

namespace Persistence

theorem length_body (s : Scheduler D) (recordOrder : List CollectiveRequestId) :
    (body s recordOrder).length = 6 + (s.serializeState recordOrder).length := by
  simp only [body, PersistenceWriter.u32, PersistenceWriter.u16, List.length_append,
    length_littleEndian]
  omega

theorem length_save (s : Scheduler D) (recordOrder : List CollectiveRequestId) :
    (save s recordOrder).length = (body s recordOrder).length + 8 := by
  simp only [save, PersistenceWriter.u64, List.length_append, length_littleEndian]

theorem readHeader_save (s : Scheduler D) (recordOrder : List CollectiveRequestId) :
    ∃ rest, readHeader (save s recordOrder).length (save s recordOrder) =
      .ok ((kMagic, kVersion), rest) := by
  have hheader : Decodes readHeader
      (PersistenceWriter.u32 kMagic ++ PersistenceWriter.u16 kVersion) (kMagic, kVersion) :=
    (decodes_u32 kMagic).bind (decodes_u16 kVersion).map
  refine ⟨s.serializeState recordOrder ++
    PersistenceWriter.u64 (fnv1a64 (body s recordOrder) kCheckSeed), ?_⟩
  have hsplit : save s recordOrder =
      (PersistenceWriter.u32 kMagic ++ PersistenceWriter.u16 kVersion) ++
        (s.serializeState recordOrder ++
          PersistenceWriter.u64 (fnv1a64 (body s recordOrder) kCheckSeed)) := by
    simp only [save, body, List.append_assoc]
  have hlength : (PersistenceWriter.u32 kMagic ++ PersistenceWriter.u16 kVersion).length ≤
      (save s recordOrder).length := by
    rw [hsplit]
    exact (List.sublist_append_left _ _).length_le
  generalize (save s recordOrder).length = limit at hlength
  rw [hsplit]
  exact hheader limit _ hlength

/-- Every saved snapshot passes the checks, and the state is what was written. -/
theorem checkEnvelope_save (s : Scheduler D) (recordOrder : List CollectiveRequestId) :
    checkEnvelope (save s recordOrder) = .ok (s.serializeState recordOrder) := by
  have hbody := length_body s recordOrder
  have hlength := length_save s recordOrder
  obtain ⟨rest, hheader⟩ := readHeader_save s recordOrder
  have hlen : (save s recordOrder).length - 8 = (body s recordOrder).length := by omega
  have htake : (save s recordOrder).take (body s recordOrder).length = body s recordOrder :=
    List.take_left
  have hdrop : (save s recordOrder).drop (body s recordOrder).length =
      PersistenceWriter.u64 (fnv1a64 (body s recordOrder) kCheckSeed) := List.drop_left
  have hstored : UInt64.ofNat (ofLittleEndian
      (PersistenceWriter.u64 (fnv1a64 (body s recordOrder) kCheckSeed))) =
        fnv1a64 (body s recordOrder) kCheckSeed := by
    rw [PersistenceWriter.u64, ofLittleEndian_littleEndian (UInt64.toNat_lt _),
      UInt64.ofNat_toNat]
  have hstate : (body s recordOrder).drop 6 = s.serializeState recordOrder := by
    rw [body, ← List.append_assoc]
    exact List.drop_left' rfl
  unfold checkEnvelope
  rw [if_neg (by omega), hheader]
  simp only [ne_eq, not_true_eq_false, if_false, hlen, htake, hdrop, hstored, hstate]

/-- What a scheduler becomes when it restores a snapshot of `t`. -/
def restored (s t : Scheduler D) : Scheduler D :=
  { s.resetDynamicStateForRecovery with
    epoch := t.epoch
    nextRequestId := t.nextRequestId
    nextScheduleId := t.nextScheduleId
    nextGrantId := t.nextGrantId
    nextGroupId := t.nextGroupId
    nextScheduleGen := t.nextScheduleGen
    nextGrantGen := t.nextGrantGen
    nextGroupGen := t.nextGroupGen
    nextSeq := t.nextSeq
    policyGen := t.policyGen
    records := t.records.mapVals (fun _ rec => rec.recoded.recover) }

theorem install_image (s : Scheduler D) {t : Scheduler D} (h : t.Storable)
    (recordOrder : List CollectiveRequestId) :
    (s.install (t.image recordOrder)).resetDynamicStateForRecovery = restored s t := by
  have hrecords : (t.image recordOrder).records.foldl
      (fun m rec => m.emplace rec.request.id rec) .empty =
        t.records.mapVals (fun _ rec => rec.recoded) :=
    FinMap.foldl_emplace_valuesIn (f := Record.recoded)
      (fun id rec hfind => (h.keyed id rec hfind : rec.recoded.request.id = id)) recordOrder
  unfold restored Scheduler.resetDynamicStateForRecovery Scheduler.install
  rw [hrecords, FinMap.mapVals_mapVals]
  rfl

/-- Restoring a saved snapshot installs its state, or throws for its number of
records and changes nothing. -/
theorem restore_save (s : Scheduler D) {t : Scheduler D} (h : t.Storable)
    (recordOrder : List CollectiveRequestId) :
    restore s (save t recordOrder) =
      if t.records.size ≤ s.policy.bounds.maxHistoryRecords.toNat then (restored s t, .ok ())
      else (s, .error (throwBounds "persistence record count exceeds bound")) := by
  unfold restore
  rw [checkEnvelope_save]
  simp only
  split_ifs with hbound
  · have hread := decodes_state h recordOrder hbound (t.serializeState recordOrder).length []
      (le_refl _)
    rw [List.append_nil] at hread
    rw [hread]
    simp only [ne_eq, not_true_eq_false, if_false, install_image s h recordOrder]
  · have hread := fails_state h recordOrder (Nat.lt_of_not_le hbound)
      (t.serializeState recordOrder).length [] (le_refl _)
    rw [List.append_nil] at hread
    rw [hread]

end Persistence

end RoundTrip

end CollectiveScheduler
