/-
  Properties/DeclaredEnums.lean --- which inputs give records with declared enumerators.

  Of the enum bytes of a snapshot only the lifecycle is checked; the others are cast, in a
  snapshot as well as in the payload of SUBMIT_COLLECTIVE, and `validate_request` refuses one
  value of one of them.  A second reader walks the same bytes and says whether the enum bytes
  are in range.  The resulting records hold declared enumerators if and only if it says so, of
  the payload, and of the first record with each id in the snapshot.
-/
import CollectiveScheduler.Coordinator.Coordinator
import CollectiveScheduler.System.Scenario
import Mathlib.Data.List.Forall2

set_option autoImplicit false

namespace CollectiveScheduler

open Foundation Reader

/-! ## Declared enumerators -/

def ProvenanceStatus.isDeclared : ProvenanceStatus → Bool
  | undeclared _ _ => false
  | _ => true

def CollectiveKind.isDeclared : CollectiveKind → Bool
  | undeclared _ _ => false
  | _ => true

def OverlapMode.isDeclared : OverlapMode → Bool
  | undeclared _ _ => false
  | _ => true

def QueueClass.isDeclared : QueueClass → Bool
  | undeclared _ _ => false
  | _ => true

def FairnessClass.isDeclared : FairnessClass → Bool
  | undeclared _ _ => false
  | _ => true

def DependencyKind.isDeclared : DependencyKind → Bool
  | undeclared _ _ => false
  | _ => true

variable {D : Type}

def DependencyRequirement.enumsDeclared (d : DependencyRequirement) : Bool :=
  d.kind.isDeclared && d.provenance.isDeclared

/-- Every enum of the request holds a declared enumerator. -/
def CollectiveRequest.enumsDeclared (r : CollectiveRequest D) : Bool :=
  r.kind.isDeclared && r.dependencies.all (·.enumsDeclared) &&
    r.resourceClaims.all (·.provenance.isDeclared) && r.window.source.isDeclared &&
    r.overlap.isDeclared && r.fairnessClass.isDeclared && r.queueClass.isDeclared &&
    r.provenance.isDeclared

/-- Every enum of the record does; a lifecycle state is always declared. -/
def Record.enumsDeclared (rec : Record D) : Bool :=
  rec.request.enumsDeclared && rec.fairness.cls.isDeclared

/-! ## Reading the enum bytes -/

/-- A byte that is cast to an enumeration: whether one of its `count` enumerators has it. -/
def enumByte (count : Nat) : PersistenceReader.Read Bool := do
  return (← PersistenceReader.u8).toNat < count

open PersistenceReader in
def auditDependency : Read Bool := do
  let _did : DependencyId ← ident
  let _dgen : DependencyGeneration ← gen
  let kind ← enumByte 8
  let provenance ← enumByte 8
  return kind && provenance

section Audit

variable (D) [Double D]

open PersistenceReader in
def auditClaim : Read Bool := do
  let _resource : ResourceId ← ident
  let _cgen : ResourceGeneration ← gen
  let _units : D ← f64
  let _exclusive ← bool
  enumByte 8

open PersistenceReader in
/-- The id of a request, and whether its enum bytes are in range. -/
def auditRequest : Read (CollectiveRequestId × Bool) := do
  let qid ← ident
  let _qgen : CollectiveRequestGeneration ← gen
  let _collective : CollectiveId ← ident
  let _collectiveGen : CollectiveGeneration ← gen
  let kind ← enumByte 11
  let _payloadBytes ← u64
  let _participants : List ParticipantId ← vec ident
  let _participantGens : List ParticipantGeneration ← vec gen
  let _perParticipantPayload ← vec u64
  let _planId : CommunicationPlanId ← ident
  let _planGen : CommunicationPlanGeneration ← gen
  let dependencies ← vec auditDependency
  let resourceClaims ← vec (auditClaim D)
  let _exclusionClasses ← vec str
  let _priorityValue ← i32
  let _priorityGen : PriorityGeneration ← gen
  let _authoritative ← bool
  let _earliestStartNs ← u64
  let _latestStartNs ← u64
  let _deadlineNs ← u64
  let _expectedDurationNs ← u64
  let _slackNs ← u64
  let windowSource ← enumByte 8
  let overlap ← enumByte 5
  let fairnessClass ← enumByte 3
  let _reservationGen : Option ReservationGeneration ← opt gen
  let _workload : WorkloadId ← ident
  let _workloadGen : WorkloadGeneration ← gen
  let queueClass ← enumByte 8
  let _maxRetries ← u32
  let _retryCount ← u32
  let _policyGen : PolicyGeneration ← gen
  let provenance ← enumByte 8
  return (qid, kind && dependencies.all id && resourceClaims.all id && windowSource &&
    overlap && fairnessClass && queueClass && provenance)

open PersistenceReader in
def auditFairness : Read Bool := do
  let cls ← enumByte 3
  let _observedGrants ← u64
  let _observedService : D ← f64
  let _deficit : D ← f64
  let _waitTicks ← u64
  let _consecutiveBypasses ← u64
  let _starved ← bool
  let _targetShare : D ← f64
  return cls

open PersistenceReader in
/-- The lifecycle byte is read with its check. -/
def auditRecord : Read (CollectiveRequestId × Bool) := do
  let request ← auditRequest D
  let _lifecycle ← readLifecycle
  let _enqueueSeq ← u64
  let _ageTicks ← u64
  let fairness ← auditFairness D
  return (request.1, request.2 && fairness)

open PersistenceReader in
/-- The records of a snapshot, each with its id. -/
def auditState : Read (List (CollectiveRequestId × Bool)) := do
  let _epoch : CoordinatorEpoch ← gen
  let _nrid : CollectiveRequestId ← ident
  let _nsid : CollectiveScheduleId ← ident
  let _ngid : CollectiveGrantId ← ident
  let _ngrpid : CollectiveGroupId ← ident
  let _nscheduleGen : CollectiveScheduleGeneration ← gen
  let _ngrantGen : CollectiveGrantGeneration ← gen
  let _ngroupGen : CollectiveGroupGeneration ← gen
  let _nseq ← u64
  let _npol : PolicyGeneration ← gen
  let nrec ← u64
  (auditRecord D).times nrec.toNat

/-- The enum bytes of the payload are in range. -/
def Msg.enumsInRange (m : Msg) : Bool :=
  (m.read (auditRequest D)).toOption.any Prod.snd

/-- The first entry with each id is in range. -/
def firstsInRange (entries : List (CollectiveRequestId × Bool)) : Bool :=
  entries.all fun e => (entries.find? fun e' => e'.1 = e.1).all Prod.snd

/-- The enum bytes of the snapshot are in range, in the first record with each id: `emplace`
drops the others. -/
def Persistence.enumsInRange (bytes : List UInt8) : Bool :=
  match checkEnvelope bytes with
  | .error _ => false
  | .ok state =>
      match auditState D state.length state with
      | .error _ => false
      | .ok (entries, _) => firstsInRange entries

end Audit

/-! ## The two readers agree -/

/-- A cast gives a declared enumerator exactly from a byte that an enumerator has. -/
theorem isDeclared_ofRawByte {α : Type} {isDeclared : α → Bool} {enumerators : List α}
    {undeclared : (raw : UInt8) → enumerators.length ≤ raw.toNat → α}
    (hdeclared : ∀ x ∈ enumerators, isDeclared x = true)
    (hundeclared : ∀ raw h, isDeclared (undeclared raw h) = false) (b : UInt8) :
    isDeclared (ofRawByte enumerators undeclared b) = decide (b.toNat < enumerators.length) := by
  unfold ofRawByte
  split_ifs with h
  · rw [hdeclared _ (List.get_mem _ _), decide_eq_true h]
  · rw [hundeclared, decide_eq_false h]

theorem enumByte_follows {isDeclared : UInt8 → Bool} {count : Nat}
    (h : ∀ b, isDeclared b = decide (b.toNat < count)) :
    Follows PersistenceReader.u8 (enumByte count) (fun b ok => ok = isDeclared b) := by
  intro limit input b rest hread
  refine ⟨decide (b.toNat < count), ?_, (h b).symm⟩
  change Reader.bind PersistenceReader.u8 (fun b => Reader.pure (decide (b.toNat < count)))
    limit input = _
  rw [Reader.bind, hread]
  rfl

theorem provenance_follows : Follows PersistenceReader.u8 (enumByte 8)
    (fun b ok => ok = (ProvenanceStatus.ofByte b).isDeclared) :=
  enumByte_follows (isDeclared_ofRawByte (by decide) fun _ _ => rfl)

theorem dependencyKind_follows : Follows PersistenceReader.u8 (enumByte 8)
    (fun b ok => ok = (DependencyKind.ofByte b).isDeclared) :=
  enumByte_follows (isDeclared_ofRawByte (by decide) fun _ _ => rfl)

theorem collectiveKind_follows : Follows PersistenceReader.u8 (enumByte 11)
    (fun b ok => ok = (CollectiveKind.ofByte b).isDeclared) :=
  enumByte_follows (isDeclared_ofRawByte (by decide) fun _ _ => rfl)

theorem overlapMode_follows : Follows PersistenceReader.u8 (enumByte 5)
    (fun b ok => ok = (OverlapMode.ofByte b).isDeclared) :=
  enumByte_follows (isDeclared_ofRawByte (by decide) fun _ _ => rfl)

theorem fairnessClass_follows : Follows PersistenceReader.u8 (enumByte 3)
    (fun b ok => ok = (FairnessClass.ofByte b).isDeclared) :=
  enumByte_follows (isDeclared_ofRawByte (by decide) fun _ _ => rfl)

theorem queueClass_follows : Follows PersistenceReader.u8 (enumByte 8)
    (fun b ok => ok = (QueueClass.ofByte b).isDeclared) :=
  enumByte_follows (isDeclared_ofRawByte (by decide) fun _ _ => rfl)

theorem vec_follows {α β : Type} {r : PersistenceReader.Read α} {r' : PersistenceReader.Read β}
    {R : α → β → Prop} (h : Follows r r' R) :
    Follows (PersistenceReader.vec r) (PersistenceReader.vec r') (List.Forall₂ R) :=
  .both fun n => h.times n.toNat

theorem map_of_forall₂ {α β : Type} {g : α → β} {l : List α} {l' : List β}
    (h : List.Forall₂ (fun a b => b = g a) l l') : l' = l.map g := by
  have heq : List.Forall₂ Eq (l.map g) l' :=
    List.forall₂_map_left_iff.mpr (h.imp fun _ _ hab => hab.symm)
  rw [List.forall₂_eq_eq_eq] at heq
  exact heq.symm

theorem dependency_follows :
    Follows deserializeDependency auditDependency (fun d ok => ok = d.enumsDeclared) := by
  unfold deserializeDependency auditDependency
  refine .both fun _ => .both fun _ => ?_
  refine dependencyKind_follows.bind fun kind _ hkind => ?_
  refine provenance_follows.bind fun provenance _ hprovenance => .pure ?_
  rw [hkind, hprovenance]
  rfl

section Readers

variable [Double D]

theorem claim_follows : Follows (deserializeClaim (D := D)) (auditClaim D)
    (fun c ok => ok = c.provenance.isDeclared) := by
  unfold deserializeClaim auditClaim
  refine .both fun _ => .both fun _ => .both fun _ => .both fun _ => ?_
  exact provenance_follows.map fun _ _ hprovenance => hprovenance

theorem request_follows : Follows (deserializeRequest (D := D)) (auditRequest D)
    (fun r e => e = (r.id, r.enumsDeclared)) := by
  unfold deserializeRequest auditRequest
  refine .both fun _ => .both fun _ => .both fun _ => .both fun _ => ?_
  refine collectiveKind_follows.bind fun kind _ hkind => ?_
  refine .both fun _ => .both fun _ => .both fun _ => .both fun _ => .both fun _ =>
    .both fun _ => ?_
  refine (vec_follows dependency_follows).bind fun dependencies _ hdependencies => ?_
  refine (vec_follows claim_follows).bind fun claims _ hclaims => ?_
  refine .both fun _ => .both fun _ => .both fun _ => .both fun _ => .both fun _ =>
    .both fun _ => .both fun _ => .both fun _ => .both fun _ => ?_
  refine provenance_follows.bind fun source _ hsource => ?_
  refine overlapMode_follows.bind fun overlap _ hoverlap => ?_
  refine fairnessClass_follows.bind fun fairness _ hfairness => ?_
  refine .both fun _ => .both fun _ => .both fun _ => ?_
  refine queueClass_follows.bind fun queue _ hqueue => ?_
  refine .both fun _ => .both fun _ => .both fun _ => ?_
  refine provenance_follows.bind fun provenance _ hprovenance => .pure ?_
  rw [hkind, map_of_forall₂ hdependencies, map_of_forall₂ hclaims, hsource, hoverlap, hfairness,
    hqueue, hprovenance, List.all_map, List.all_map]
  rfl

theorem fairness_follows : Follows (deserializeFairness (D := D)) (auditFairness D)
    (fun f ok => ok = f.cls.isDeclared) := by
  unfold deserializeFairness auditFairness
  refine fairnessClass_follows.bind fun cls _ hcls => ?_
  exact .both fun _ => .both fun _ => .both fun _ => .both fun _ => .both fun _ => .both fun _ =>
    .both fun _ => .pure hcls

theorem record_follows : Follows (deserializeRecord (D := D)) (auditRecord D)
    (fun rec e => e = (rec.request.id, rec.enumsDeclared)) := by
  unfold deserializeRecord auditRecord
  refine request_follows.bind fun request _ hrequest => ?_
  refine .both fun _ => .both fun _ => .both fun _ => ?_
  refine fairness_follows.bind fun fairness _ hfairness => .pure ?_
  rw [hrequest, hfairness]
  rfl

theorem state_follows (maxHistoryRecords : UInt64) :
    Follows (Scheduler.deserializeState (D := D) maxHistoryRecords) (auditState D)
      (fun image entries =>
        entries = image.records.map fun rec => (rec.request.id, rec.enumsDeclared)) := by
  unfold Scheduler.deserializeState auditState
  refine .both fun _ => .both fun _ => .both fun _ => .both fun _ => .both fun _ => .both fun _ =>
    .both fun _ => .both fun _ => .both fun _ => .both fun _ => .both fun nrec => ?_
  split_ifs
  · exact .fail _
  · exact (record_follows.times nrec.toNat).map fun _ _ hrecs => map_of_forall₂ hrecs

/-! ## Snapshots -/

omit [Double D] in
/-- A restored scheduler holds, under each id, the first record of the snapshot with that id,
recovered. -/
theorem find?_restored (s : Scheduler D) (image : StateImage D) (id : CollectiveRequestId) :
    (s.install image).resetDynamicStateForRecovery.records.find? id =
      (image.records.find? fun rec => rec.request.id = id).map fun rec => rec.recover := by
  have hmap : (s.install image).resetDynamicStateForRecovery.records.find? id =
      ((s.install image).records.find? id).map fun rec => rec.recover := FinMap.find?_mapVals _ _ _
  have hfiled : (s.install image).records.find? id =
      (image.records.foldl (fun m rec => m.emplace rec.request.id rec) FinMap.empty).find? id := rfl
  rw [hmap, hfiled, FinMap.find?_foldl_emplace (fun rec : Record D => rec.request.id),
    FinMap.find?_empty, Option.none_or]

omit [Double D] in
/-- The first records with an id have declared enumerators if and only if their entries say
so. -/
theorem firsts_declared_iff (records : List (Record D)) :
    (∀ id rec, (records.find? fun rec => rec.request.id = id) = some rec →
        rec.enumsDeclared = true) ↔
      firstsInRange (records.map fun rec => (rec.request.id, rec.enumsDeclared)) = true := by
  have hfirst : ∀ id, ((records.map fun rec => (rec.request.id, rec.enumsDeclared)).find?
      fun e => e.1 = id) =
        (records.find? fun rec => rec.request.id = id).map
          fun rec => (rec.request.id, rec.enumsDeclared) := fun id => List.find?_map
  unfold firstsInRange
  simp only [hfirst, List.all_eq_true, List.mem_map, forall_exists_index, and_imp,
    forall_apply_eq_imp_iff₂]
  constructor
  · intro h rec _
    cases hrec : records.find? fun rec' => rec'.request.id = rec.request.id with
    | none => rfl
    | some rec' => exact h _ rec' hrec
  · intro h id rec hrec
    have hid : rec.request.id = id := by simpa using List.find?_some hrec
    have hall := h rec (List.mem_of_find?_eq_some hrec)
    rw [hid, hrec] at hall
    exact hall

theorem enumsInRange_of_ok {bytes state rest : List UInt8}
    {entries : List (CollectiveRequestId × Bool)}
    (henvelope : Persistence.checkEnvelope bytes = .ok state)
    (haudit : auditState D state.length state = .ok (entries, rest)) :
    Persistence.enumsInRange D bytes = firstsInRange entries := by
  unfold Persistence.enumsInRange
  simp only [henvelope, haudit]

theorem restore_enums_iff {s s' : Scheduler D} {bytes : List UInt8}
    (h : Persistence.restore s bytes = (s', .ok ())) :
    (∀ id rec, s'.records.find? id = some rec → rec.enumsDeclared = true) ↔
      Persistence.enumsInRange D bytes = true := by
  unfold Persistence.restore at h
  split at h
  · cases h
  · rename_i state henvelope
    split at h
    · cases h
    · rename_i image rest hstate
      split_ifs at h
      · cases h
      · cases h
        obtain ⟨entries, haudit, hentries⟩ := state_follows _ _ _ _ _ hstate
        rw [enumsInRange_of_ok henvelope haudit, hentries, ← firsts_declared_iff]
        simp only [find?_restored, Option.map_eq_some_iff]
        constructor
        · intro hall id rec hrec
          exact hall id rec.recover ⟨rec, hrec, rfl⟩
        · rintro hall id _ ⟨rec, hrec, rfl⟩
          exact hall id rec hrec

/-! ## Submissions -/

/-- The reader of a payload that is followed reads it to its end, too. -/
theorem Msg.read_follows {α β : Type} {r : PersistenceReader.Read α}
    {r' : PersistenceReader.Read β} {R : α → β → Prop} (h : Follows r r' R) {m : Msg} {a : α}
    (hread : m.read r = .ok a) : ∃ b, m.read r' = .ok b ∧ R a b := by
  unfold Msg.read at hread ⊢
  split at hread
  · cases hread
  · rename_i a' rest hfirst
    split_ifs at hread with hrest
    cases hread
    obtain ⟨b, hfirst', hR⟩ := h _ _ _ _ hfirst
    exact ⟨b, by rw [hfirst']; simp only [hrest, if_false], hR⟩

/-- SUBMIT_COLLECTIVE leaves the scheduler alone or submits the request of its payload. -/
theorem Coordinator.next_submitCollective (c : Coordinator D) (env : Env) (fd : Nat) {m : Msg}
    (hm : m.type = .submitCollective) :
    (c.next (.deliver env fd m)).sys = c.sys ∨
      ∃ req, m.read deserializeRequest = .ok req ∧
        (c.next (.deliver env fd m)).sys = c.sys.next (.submit req) := by
  simp only [Coordinator.next, Coordinator.handleMessage, hm]
  split_ifs
  · exact .inl rfl
  · cases hread : m.read (deserializeRequest (D := D)) with
    | error e => exact .inl rfl
    | ok req =>
        refine .inr ⟨req, rfl, ?_⟩
        simp only
        generalize c.sys.outcome (.submit req) = outcome
        cases outcome <;> rfl

/-- A record that SUBMIT_COLLECTIVE files. -/
theorem submit_enums_iff (c : Coordinator D) (env : Coordinator.Env) (fd : Nat) {m : Msg}
    (hm : m.type = .submitCollective) {id : CollectiveRequestId} {rec : Record D}
    (hnew : c.sys.sched.records.find? id = none)
    (hfind : (c.next (.deliver env fd m)).sys.sched.records.find? id = some rec) :
    rec.enumsDeclared = true ↔ m.enumsInRange D = true := by
  rcases c.next_submitCollective env fd hm with heq | ⟨req, hread, heq⟩
  · rw [heq, hnew] at hfind
    cases hfind
  · rw [heq, System.sched_next_submit] at hfind
    obtain ⟨e, haudit, he⟩ := Msg.read_follows request_follows hread
    have hrange : m.enumsInRange D = req.enumsDeclared := by
      rw [Msg.enumsInRange, haudit, he]
      rfl
    rcases c.sys.sched.submit_cases req with ⟨next, e, hsubmit⟩ | ⟨-, -, hsubmit⟩ <;>
      rw [hsubmit] at hfind
    · rw [hnew] at hfind
      cases hfind
    · rcases FinMap.find?_emplace_cases hfind with hold | ⟨-, -, rfl⟩
      · rw [hnew] at hold
        cases hold
      · -- the account takes its class from the request
        have hclass : (c.sys.sched.submittedRecord req).enumsDeclared =
            (req.enumsDeclared && req.fairnessClass.isDeclared) := rfl
        rw [hrange, hclass, Bool.and_eq_true, and_iff_left_iff_imp]
        intro hdeclared
        simp only [CollectiveRequest.enumsDeclared, Bool.and_eq_true] at hdeclared
        exact hdeclared.1.1.2

end Readers

/-- A restored scheduler holds declared enumerators only, if and only if the enum bytes of the
snapshot are in range, in the first record with each id.  A record that SUBMIT_COLLECTIVE files
does, if and only if those of the payload are. -/
theorem enums_declared_iff [Double D] :
    (∀ (s s' : Scheduler D) (bytes : List UInt8), Persistence.restore s bytes = (s', .ok ()) →
      ((∀ id rec, s'.records.find? id = some rec → rec.enumsDeclared = true) ↔
        Persistence.enumsInRange D bytes = true)) ∧
    (∀ (c : Coordinator D) (env : Coordinator.Env) (fd : Nat) (m : Msg),
      m.type = .submitCollective → ∀ id rec, c.sys.sched.records.find? id = none →
        (c.next (.deliver env fd m)).sys.sched.records.find? id = some rec →
        (rec.enumsDeclared = true ↔ m.enumsInRange D = true)) :=
  ⟨fun _ _ _ h => restore_enums_iff h,
    fun c env fd _ hm _ _ hnew hfind => submit_enums_iff c env fd hm hnew hfind⟩

namespace Scenario

/-- A request whose kind is cast from byte 200. -/
def miscast : CollectiveRequest ℚ :=
  { request 1 [1] 1 with kind := .undeclared 200 (by decide) }

/-- SUBMIT_COLLECTIVE for a request. -/
def submission (req : CollectiveRequest ℚ) : Msg where
  type := .submitCollective
  seq := 1
  payload := serializeRequest req

/-- A coordinator without a file, after the message. -/
def served (m : Msg) : Coordinator ℚ :=
  (Coordinator.start 1 false none).next (.deliver {} 0 m)

theorem served_eq (m : Msg) :
    (Coordinator.start (D := ℚ) 1 false none).next (.deliver {} 0 m) = served m := rfl

/-- A fresh scheduler after a restore of the snapshot of another. -/
def restoredFrom (s : Scheduler ℚ) : Scheduler ℚ × Except SchedulerError Unit :=
  Persistence.restore (Scheduler.fresh PolicyConfig.default 1) (Persistence.save s [])

theorem restoredFrom_ok {s : Scheduler ℚ} (h : (restoredFrom s).2.toOption = some ()) :
    Persistence.restore (Scheduler.fresh PolicyConfig.default 1) (Persistence.save s []) =
      ((restoredFrom s).1, .ok ()) := by
  rcases hcase : restoredFrom s with ⟨s', e | ⟨⟩⟩ <;> rw [hcase] at h
  · cases h
  · exact hcase

end Scenario

/-- A request with declared enumerators is filed, saved and restored with them. -/
theorem enums_declared_iff_request :
    let filed := (Scenario.served (Scenario.submission (Scenario.request 1 [1] 1))).sys.sched
    let restored := Scenario.restoredFrom filed
    (∃ rec, filed.records.find? 1 = some rec ∧ rec.enumsDeclared = true) ∧
      restored.2.toOption = some () ∧
      ∀ id rec, restored.1.records.find? id = some rec → rec.enumsDeclared = true := by
  intro filed restored
  have hfiled : (filed.records.find? 1).isSome = true := by decide +kernel
  have hok : restored.2.toOption = some () := by decide +kernel
  obtain ⟨rec, hfind⟩ := Option.isSome_iff_exists.mp hfiled
  obtain ⟨hsnapshot, hpayload⟩ := enums_declared_iff (D := ℚ)
  have hrecord := hpayload (Coordinator.start 1 false none) {} 0
    (Scenario.submission (Scenario.request 1 [1] 1)) rfl 1 rec rfl
  rw [Scenario.served_eq] at hrecord
  have hrecords := hsnapshot (Scheduler.fresh PolicyConfig.default 1) restored.1
    (Persistence.save filed []) (Scenario.restoredFrom_ok (s := filed) hok)
  have hpayloadBytes : (Scenario.submission (Scenario.request 1 [1] 1)).enumsInRange ℚ = true := by
    decide +kernel
  have hsnapshotBytes : Persistence.enumsInRange ℚ (Persistence.save filed []) = true := by
    decide +kernel
  exact ⟨⟨rec, hfind, (hrecord hfind).mpr hpayloadBytes⟩, hok, hrecords.mpr hsnapshotBytes⟩

/-- A kind byte of 200 is accepted in a payload, filed, saved and accepted in the snapshot. -/
theorem miscast_kind_is_accepted :
    let filed := (Scenario.served (Scenario.submission Scenario.miscast)).sys.sched
    let restored := Scenario.restoredFrom filed
    (filed.records.find? 1).map (·.request.kind) = some (.undeclared 200 (by decide)) ∧
      restored.2.toOption = some () ∧
      (restored.1.records.find? 1).map (·.request.kind) = some (.undeclared 200 (by decide)) := by
  decide +kernel

end CollectiveScheduler
