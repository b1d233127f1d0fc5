/-
  Properties/InsertionOrder.lean --- the order of submission does not matter.

  Two schedulers receive the same requests in two orders and then the same calls,
  with requests and grants named by their collective.  Request ids, sequence
  numbers and the iteration orders of the unordered maps differ between the two
  runs.  The runs stay renamings of each other, so every decision selects and
  keeps as fallback the same collectives in the same order.  Numbers are exact.
-/
import CollectiveScheduler.Scheduler.RenamedRound
import CollectiveScheduler.System.RecordStep
import CollectiveScheduler.System.Scenario

set_option autoImplicit false

namespace CollectiveScheduler

open Foundation

/-! ## Calls by name -/

/-- A call that names requests and grants by their collective. -/
inductive NamedOp (D : Type) where
  | publishParticipant (p : Participant)
  | publishPlan (pl : CommunicationPlan D)
  | publishDependency (dep : DependencyState)
  | publishReservation (res : Reservation D)
  | publishCongestion (cong : CongestionState D)
  | publishCapacity (cap : CapacityState D)
  | advanceTime (d : Nanoseconds)
  | schedule
  | cancel (c : CollectiveId)
  | handoff (c : CollectiveId) (accepted : Bool)
  | complete (c : CollectiveId) (wb : WorkerBootId) (sb : SourceBootId)
  | fenceWorkerBoot (worker : WorkerId) (boot : WorkerBootId)

/-- The iteration orders of the unordered maps during one call. -/
structure MapOrder where
  records : List CollectiveRequestId := []
  grants : List CollectiveGrantId := []

namespace System

variable {D : Type}

/-- The request of a collective. -/
def requestNamed (y : System D) (c : CollectiveId) : Option CollectiveRequestId :=
  y.sched.records.keys.find? (fun id =>
    (y.sched.records.find? id).any (fun rec => rec.request.collective = c))

/-- The grant that was issued to a collective. -/
def grantNamed (y : System D) (c : CollectiveId) : Option CollectiveGrant :=
  y.issued.find? (fun g => g.collective = c)

/-- The collective of a request. -/
def collectiveOf (y : System D) (id : CollectiveRequestId) : Option CollectiveId :=
  (y.sched.records.find? id).map (·.request.collective)

/-- The call a named call stands for; nothing where the name is not known. -/
def resolve (y : System D) (order : MapOrder) : NamedOp D → Option (Op D)
  | .publishParticipant p => some (.publishParticipant p)
  | .publishPlan pl => some (.publishPlan pl)
  | .publishDependency dep => some (.publishDependency dep)
  | .publishReservation res => some (.publishReservation res)
  | .publishCongestion cong => some (.publishCongestion cong)
  | .publishCapacity cap => some (.publishCapacity cap)
  | .advanceTime d => some (.advanceTime d)
  | .schedule => some (.schedule order.records order.grants)
  | .cancel c => (y.requestNamed c).map .cancel
  | .handoff c accepted => (y.grantNamed c).map (.handoff · accepted)
  | .complete c wb sb => (y.grantNamed c).map (.complete · wb sb)
  | .fenceWorkerBoot worker boot => some (.fenceWorkerBoot worker boot order.records)

variable [Double D]

/-- One named call. -/
def nextNamed (y : System D) (order : MapOrder) (op : NamedOp D) : System D :=
  match y.resolve order op with
  | none => y
  | some call => y.next call

/-- The decision of a `schedule` call, by collectives: what is selected and what
is kept as fallback. -/
def decision (y : System D) (order : MapOrder) :
    Option (List (Option CollectiveId) × List (Option CollectiveId)) :=
  match y.outcome (.schedule order.records order.grants) with
  | .decided dec => some (dec.selected.map y.collectiveOf, dec.fallback.map y.collectiveOf)
  | _ => none

/-- The decisions of all `schedule` calls of a run. -/
def decisions (y : System D) : List (NamedOp D × MapOrder) →
    List (Option (List (Option CollectiveId) × List (Option CollectiveId)))
  | [] => []
  | (op, order) :: rest =>
      match op with
      | .schedule => y.decision order :: decisions (y.nextNamed order op) rest
      | _ => decisions (y.nextNamed order op) rest

/-- The state after submitting requests. -/
def submitAll (y : System D) (reqs : List (CollectiveRequest D)) : System D :=
  y.run (reqs.map .submit)

/-- Every submission is accepted. -/
def Accepts (y : System D) (reqs : List (CollectiveRequest D)) : Prop :=
  Runs.Admissible System.next (fun y op => (y.outcome op).isSubmitted = true) y
    (reqs.map .submit)

instance (y : System D) (reqs : List (CollectiveRequest D)) : Decidable (y.Accepts reqs) :=
  inferInstanceAs (Decidable (Runs.Admissible _ _ y _))

end System

/-- The call publishes evidence. -/
def Op.isPublication {D : Type} : Op D → Bool
  | .publishParticipant _ | .publishPlan _ | .publishDependency _ | .publishReservation _
  | .publishCongestion _ | .publishCapacity _ => true
  | _ => false

/-! ## Filing the requests -/

section Filing

variable {D : Type}

/-- The record was filed for this request. -/
def Record.FiledFor (req : CollectiveRequest D) [Double D] (rec : Record D) : Prop :=
  ∃ id seq, rec =
    { request := { req with id := id, gen := 1 }
      enqueueSeq := seq
      fairness := { FairnessAccount.default with cls := req.fairnessClass } }

variable [Double D]

/-- Before the first submission: evidence at most. -/
structure Scheduler.Blank (s : Scheduler D) : Prop where
  records : s.records = .empty
  grants : s.grants = .empty
  index : s.activeByParticipant = .empty
  nextRequestId : s.nextRequestId = 1
  untracked : ∀ p id, ¬s.participantRequests.Indexes p id

/-- The state `s` is `s₀` after these requests were submitted. -/
structure Scheduler.Filed (s₀ : Scheduler D) (reqs : List (CollectiveRequest D))
    (s : Scheduler D) : Prop where
  rest : s = { s₀ with
    records := s.records
    participantRequests := s.participantRequests
    nextRequestId := Id.next^[reqs.length] s₀.nextRequestId
    nextSeq := (· + 1)^[reqs.length] s₀.nextSeq }
  size : s.records.size = reqs.length
  keyed : ∀ id rec, s.records.find? id = some rec →
    rec.request.id = id ∧ id.value.toNat ≤ reqs.length
  sound : ∀ id rec, s.records.find? id = some rec → ∃ req ∈ reqs, rec.FiledFor req
  complete : ∀ req ∈ reqs, ∃ id rec, s.records.find? id = some rec ∧ rec.FiledFor req
  unique : (reqs.map (·.collective)).Nodup → ∀ {id id' rec rec'},
    s.records.find? id = some rec → s.records.find? id' = some rec' →
    rec.request.collective = rec'.request.collective → id = id'
  tracked : ∀ p id, s.participantRequests.Indexes p id ↔
    ∃ rec, s.records.find? id = some rec ∧ p ∈ rec.request.participants

omit [Double D] in
theorem Scheduler.Blank.requestsOf {s : Scheduler D} (h : s.Blank) (p : ParticipantId) :
    s.requestsOf p = [] :=
  List.eq_nil_iff_forall_not_mem.mpr fun id hid =>
    h.untracked p id (Scheduler.mem_requestsOf_iff.mp hid)

omit [Double D] in
theorem Scheduler.Blank.publishParticipant {s : Scheduler D} (h : s.Blank) (p : Participant) :
    (s.publishParticipant p).1.Blank := by
  have hindex : ∀ q id, ¬(s.participantRequests.emplace p.id .empty).Indexes q id :=
    fun q id hindexed => h.untracked q id (FinMap.indexes_emplace_empty.mp hindexed)
  unfold Scheduler.publishParticipant
  rw [h.requestsOf]
  split_ifs
  · exact h
  · exact ⟨h.records, h.grants, h.index, h.nextRequestId, hindex⟩
  · exact ⟨h.records, h.grants, h.index, h.nextRequestId, hindex⟩

omit [Double D] in
theorem System.start_blank (policy : PolicyConfig D) (epoch : CoordinatorEpoch) :
    (System.start policy epoch).sched.Blank := by
  refine ⟨rfl, rfl, rfl, rfl, ?_⟩
  rintro p id ⟨ids, hids, -⟩
  cases hids

theorem System.next_blank {y : System D} {op : Op D} (h : y.sched.Blank)
    (hop : op.isPublication = true) :
    (y.next op).sched.Blank ∧ (y.next op).issued = y.issued := by
  by_cases hquiet : op.isQuiet = true
  · have hbooks := y.sameBooks_quiet hquiet
    obtain ⟨s, hnext, hrewritten⟩ := y.next_quiet hquiet
    rw [hnext] at hbooks ⊢
    refine ⟨⟨hbooks.records.trans h.records, hrewritten.grants.trans h.grants,
      hrewritten.activeByParticipant.trans h.index,
      hbooks.nextRequestId.trans h.nextRequestId, fun p id hindexed => ?_⟩, rfl⟩
    have hindex := hbooks.participantRequests
    exact h.untracked p id (hindex ▸ hindexed)
  cases op with
  | publishParticipant p => exact ⟨h.publishParticipant p, rfl⟩
  | _ => first | exact absurd rfl hquiet | cases hop

/-! ### One submission -/

theorem Scheduler.Blank.filed {s : Scheduler D} (h : s.Blank) : s.Filed [] s := by
  have hnone : ∀ id, s.records.find? id = none := fun id => by rw [h.records]; rfl
  refine ⟨rfl, by rw [h.records]; rfl, ?_, ?_, ?_, ?_, ?_⟩
  · intro id rec hfind
    rw [hnone] at hfind
    cases hfind
  · intro id rec hfind
    rw [hnone] at hfind
    cases hfind
  · intro req hreq
    cases hreq
  · intro _ id id' rec rec' hfind
    rw [hnone] at hfind
    cases hfind
  · intro p id
    refine ⟨fun hindex => absurd hindex (h.untracked p id), ?_⟩
    rintro ⟨rec, hfind, -⟩
    rw [hnone] at hfind
    cases hfind

omit [Double D] in
/-- Below saturation the n-th id after the first is n + 1. -/
theorem toNat_iterate_next {n : Nat} (h : n + 1 ≤ maxValue) :
    (Id.next^[n] (1 : CollectiveRequestId)).value.toNat = n + 1 := by
  induction n with
  | zero => rfl
  | succ n ih =>
      rw [Function.iterate_succ_apply', Id.toNat_next, ih (by omega)]
      omega

/-- The next id is one after the number of the records. -/
theorem Scheduler.Filed.toNat_nextRequestId {s₀ s : Scheduler D}
    {reqs : List (CollectiveRequest D)} (hblank : s₀.Blank) (h : s₀.Filed reqs s)
    (hsize : s.records.size < s.policy.bounds.maxCollectives.toNat) :
    s.nextRequestId.value.toNat = reqs.length + 1 := by
  have hroom : reqs.length + 1 ≤ maxValue := by
    have hlt := s.policy.bounds.maxCollectives.toNat_lt
    rw [h.size] at hsize
    simp only [maxValue]
    omega
  rw [h.rest]
  change (Id.next^[reqs.length] s₀.nextRequestId).value.toNat = reqs.length + 1
  rw [hblank.nextRequestId]
  exact toNat_iterate_next hroom

/-- The next id is fresh. -/
theorem Scheduler.Filed.find?_nextRequestId {s₀ s : Scheduler D}
    {reqs : List (CollectiveRequest D)} (hblank : s₀.Blank) (h : s₀.Filed reqs s)
    (hsize : s.records.size < s.policy.bounds.maxCollectives.toNat) :
    s.records.find? s.nextRequestId = none := by
  have hid := h.toNat_nextRequestId hblank hsize
  cases hfind : s.records.find? s.nextRequestId with
  | none => rfl
  | some rec =>
      have hle := (h.keyed _ rec hfind).2
      omega

/-- A collective that no filed request names is on no record. -/
theorem Scheduler.Filed.collective_ne {s₀ s : Scheduler D} {reqs : List (CollectiveRequest D)}
    (h : s₀.Filed reqs s) {req : CollectiveRequest D}
    (hnew : ∀ req' ∈ reqs, req'.collective ≠ req.collective) {id : CollectiveRequestId}
    {rec : Record D} (hfind : s.records.find? id = some rec) :
    rec.request.collective ≠ req.collective := by
  obtain ⟨req', hmem, _, _, rfl⟩ := h.sound id rec hfind
  exact hnew req' hmem

/-- An accepted submission files one more record. -/
theorem Scheduler.Filed.submit {s₀ s s' : Scheduler D} {reqs : List (CollectiveRequest D)}
    (hblank : s₀.Blank) (h : s₀.Filed reqs s) (req : CollectiveRequest D)
    (hsize : s.records.size < s.policy.bounds.maxCollectives.toNat)
    (heq : s' = { s with
      nextRequestId := s.nextRequestId.next
      nextSeq := s.nextSeq + 1
      participantRequests := trackRequest s.participantRequests req.participants s.nextRequestId
      records := s.records.emplace s.nextRequestId (s.submittedRecord req) }) :
    s₀.Filed (reqs ++ [req]) s' := by
  have hnext : s.nextRequestId = Id.next^[reqs.length] s₀.nextRequestId := by rw [h.rest]
  have hseq : s.nextSeq = (· + 1)^[reqs.length] s₀.nextSeq := by rw [h.rest]
  have hid := h.toNat_nextRequestId hblank hsize
  have hfresh := h.find?_nextRequestId hblank hsize
  have hfind : ∀ id, s'.records.find? id =
      if id = s.nextRequestId then some (s.submittedRecord req) else s.records.find? id := by
    intro id
    rw [heq]
    simp only [FinMap.find?_emplace, hfresh, Option.getD_none]
  have hlength : (reqs ++ [req]).length = reqs.length + 1 := List.length_append
  refine ⟨?_, ?_, ?_, ?_, ?_, ?_, ?_⟩
  · rw [hlength, Function.iterate_succ_apply', Function.iterate_succ_apply', ← hnext, ← hseq, heq]
    rw [h.rest]
  · rw [hlength, heq, ← h.size]
    exact FinMap.size_emplace _ hfresh
  · intro id rec hrec
    rw [hfind] at hrec
    rw [hlength]
    split_ifs at hrec with heqid
    · cases hrec
      exact ⟨heqid.symm, heqid ▸ hid.le⟩
    · exact ⟨(h.keyed id rec hrec).1, (h.keyed id rec hrec).2.trans (Nat.le_succ _)⟩
  · intro id rec hrec
    rw [hfind] at hrec
    split_ifs at hrec
    · cases hrec
      exact ⟨req, List.mem_append_right _ List.mem_cons_self, _, _, rfl⟩
    · obtain ⟨req', hmem, hfiled⟩ := h.sound id rec hrec
      exact ⟨req', List.mem_append_left _ hmem, hfiled⟩
  · intro req' hmem
    rcases List.mem_append.mp hmem with hmem | hmem
    · obtain ⟨id, rec, hrec, hfiled⟩ := h.complete req' hmem
      refine ⟨id, rec, ?_, hfiled⟩
      rw [hfind, if_neg ?_]
      · exact hrec
      · rintro rfl
        rw [hfresh] at hrec
        cases hrec
    · obtain rfl := List.mem_singleton.mp hmem
      have hplaced := hfind s.nextRequestId
      rw [if_pos rfl] at hplaced
      exact ⟨s.nextRequestId, _, hplaced, _, _, rfl⟩
  · -- the collective of the new request is on no record yet
    intro hdistinct
    rw [List.map_append, List.map_singleton] at hdistinct
    obtain ⟨hold, -, hnew⟩ := List.nodup_append.mp hdistinct
    have hother : ∀ req' ∈ reqs, req'.collective ≠ req.collective := fun req' hmem =>
      hnew _ (List.mem_map_of_mem hmem) _ List.mem_cons_self
    intro id id' rec rec' hrec hrec' hcollective
    rw [hfind] at hrec hrec'
    split_ifs at hrec hrec' with heqid heqid'
    · rw [heqid, heqid']
    · cases hrec
      exact absurd hcollective.symm (h.collective_ne hother hrec')
    · cases hrec'
      exact absurd hcollective (h.collective_ne hother hrec)
    · exact h.unique hold hrec hrec' hcollective
  · intro p id
    have hindexed : s'.participantRequests.Indexes p id ↔
        s.participantRequests.Indexes p id ∨ (p ∈ req.participants ∧ id = s.nextRequestId) := by
      rw [heq]
      exact FinMap.indexes_foldl_insert
    rw [hindexed, h.tracked, hfind]
    by_cases heqid : id = s.nextRequestId
    · subst heqid
      simp only [hfresh, reduceCtorEq, false_and, exists_false, false_or, and_true, if_true,
        Option.some.injEq, exists_eq_left']
      rfl
    · simp only [heqid, and_false, or_false, if_false]

/-- Accepted submissions file the requests, each once. -/
theorem System.submitAll_filed {y : System D} {s₀ : Scheduler D} (hblank : s₀.Blank)
    {done reqs : List (CollectiveRequest D)} (h : s₀.Filed done y.sched)
    (haccepted : y.Accepts reqs) :
    s₀.Filed (done ++ reqs) (y.submitAll reqs).sched ∧
      (y.submitAll reqs).issued = y.issued := by
  induction reqs generalizing y done with
  | nil =>
      rw [List.append_nil]
      exact ⟨h, rfl⟩
  | cons req rest ih =>
      obtain ⟨hone, hrest⟩ := haccepted
      have hnext : s₀.Filed (done ++ [req]) (y.next (.submit req)).sched := by
        rcases y.sched.submit_cases req with ⟨next, e, heq⟩ | ⟨hsize, -, heq⟩
        · simp only [outcome, step, heq, Outcome.isSubmitted] at hone
          cases hone
        · simp only [next, step, heq]
          exact h.submit hblank req hsize rfl
      have hlast := ih hnext hrest
      rw [List.append_assoc, List.singleton_append] at hlast
      exact hlast

/-- The names of the requests in two filings of the same requests. -/
def Scheduler.Filed.naming {s₀ s₀' s s' : Scheduler D} {reqs reqs' : List (CollectiveRequest D)}
    (h : s₀.Filed reqs s) (h' : s₀'.Filed reqs' s') (hperm : reqs.Perm reqs')
    (hdistinct : (reqs.map (·.collective)).Nodup) : Naming where
  left id := (s.records.find? id).map (·.request.collective)
  right id := (s'.records.find? id).map (·.request.collective)
  left_unique h₁ h₂ := by
    obtain ⟨rec₁, hfind₁, hname₁⟩ := Option.map_eq_some_iff.mp h₁
    obtain ⟨rec₂, hfind₂, hname₂⟩ := Option.map_eq_some_iff.mp h₂
    exact h.unique hdistinct hfind₁ hfind₂ (hname₁.trans hname₂.symm)
  right_unique h₁ h₂ := by
    obtain ⟨rec₁, hfind₁, hname₁⟩ := Option.map_eq_some_iff.mp h₁
    obtain ⟨rec₂, hfind₂, hname₂⟩ := Option.map_eq_some_iff.mp h₂
    exact h'.unique ((hperm.map _).nodup_iff.mp hdistinct) hfind₁ hfind₂
      (hname₁.trans hname₂.symm)
  range c := by
    have hrange : ∀ {s₀ s : Scheduler D} {reqs : List (CollectiveRequest D)}, s₀.Filed reqs s →
        ((∃ id, (s.records.find? id).map (·.request.collective) = some c) ↔
          ∃ req ∈ reqs, req.collective = c) := by
      intro s₀ s reqs h
      constructor
      · rintro ⟨id, hname⟩
        obtain ⟨rec, hfind, hcollective⟩ := Option.map_eq_some_iff.mp hname
        obtain ⟨req, hmem, _, _, rfl⟩ := h.sound id rec hfind
        exact ⟨req, hmem, hcollective⟩
      · rintro ⟨req, hmem, hcollective⟩
        obtain ⟨id, rec, hfind, _, _, rfl⟩ := h.complete req hmem
        exact ⟨id, by rw [hfind]; exact congrArg some hcollective⟩
    rw [hrange h, hrange h']
    exact exists_congr fun req => and_congr_left fun _ => hperm.mem_iff

/-- Two filings of the same requests are renamings of each other. -/
theorem Scheduler.Filed.renamed {s₀ s s' : Scheduler D} {reqs reqs' : List (CollectiveRequest D)}
    (hblank : s₀.Blank) (h : s₀.Filed reqs s) (h' : s₀.Filed reqs' s')
    (hperm : reqs.Perm reqs') (hdistinct : (reqs.map (·.collective)).Nodup) :
    s.Renamed (h.naming h' hperm hdistinct) s' := by
  have hpairs : ∀ {id id'}, (h.naming h' hperm hdistinct).Pairs id id' → ∃ rec rec',
      s.records.find? id = some rec ∧ s'.records.find? id' = some rec' ∧
        rec'.request.participants = rec.request.participants ∧
        rec.Renamed (h.naming h' hperm hdistinct) rec' := by
    rintro id id' ⟨c, hname, hname'⟩
    obtain ⟨rec, hfind, hcollective⟩ := Option.map_eq_some_iff.mp hname
    obtain ⟨rec', hfind', hcollective'⟩ := Option.map_eq_some_iff.mp hname'
    obtain ⟨req, hmem, rid, seq, rfl⟩ := h.sound id rec hfind
    obtain ⟨req', hmem', rid', seq', rfl⟩ := h'.sound id' rec' hfind'
    -- requests with the same collective are one request
    obtain rfl : req = req' := List.inj_on_of_nodup_map hdistinct hmem
      (hperm.mem_iff.mpr hmem') (hcollective.trans hcollective'.symm)
    exact ⟨_, _, hfind, hfind', rfl, rid', seq', none, rfl, .none⟩
  have hgrants : s.grants = .empty ∧ s'.grants = .empty := by
    rw [h.rest, h'.rest]
    exact ⟨hblank.grants, hblank.grants⟩
  have hindex : s.activeByParticipant = s'.activeByParticipant := by rw [h.rest, h'.rest]
  refine ⟨?_, ⟨fun _ => rfl, fun _ => rfl, fun id rec hfind => (h.keyed id rec hfind).1,
    fun id rec hfind => (h'.keyed id rec hfind).1, fun hpair => ?_⟩, fun gid => ?_,
    fun p gid => by rw [hindex], fun p id id' hpair => ?_⟩
  · rw [h.rest, h'.rest, hperm.length_eq]
  · obtain ⟨rec, rec', hfind, hfind', -, hrec⟩ := hpairs hpair
    exact ⟨rec, rec', hfind, hfind', hrec⟩
  · rw [hgrants.1, hgrants.2]
    exact .none
  · obtain ⟨rec, rec', hfind, hfind', hparticipants, -⟩ := hpairs hpair
    rw [mem_requestsOf_iff, mem_requestsOf_iff, h.tracked, h'.tracked, hfind, hfind']
    simp only [Option.some.injEq, exists_eq_left', hparticipants]

end Filing

/-! ## Two runs in step -/

namespace System

/-- Two systems whose schedulers are renamings of each other and that have issued
the same grants. -/
structure Twins (ν : Naming) (y y' : System ℚ) : Prop where
  sched : y.sched.Renamed ν y'.sched
  issued : List.Forall₂ (CollectiveGrant.Renamed ν) y.issued y'.issued
  orderly : y.sched.Orderly
  orderly' : y'.sched.Orderly

variable {ν : Naming} {y y' : System ℚ}

/-- A name leads to paired requests. -/
theorem Twins.requestNamed (h : y.Twins ν y') (c : CollectiveId) :
    Option.Rel ν.Pairs (y.requestNamed c) (y'.requestNamed c) := by
  have hspec : ∀ (z : System ℚ) id, z.requestNamed c = some id →
      (z.sched.records.find? id).map (·.request.collective) = some c := by
    intro z id hid
    have hfound := List.find?_some hid
    obtain ⟨rec, hfind, hcollective⟩ := (Option.any_eq_true _ _).mp hfound
    rw [hfind]
    exact congrArg some (of_decide_eq_true hcollective)
  have hsome : ∀ (z : System ℚ) id,
      (z.sched.records.find? id).map (·.request.collective) = some c →
      ∃ id', z.requestNamed c = some id' := by
    intro z id hname
    obtain ⟨rec, hfind, hcollective⟩ := Option.map_eq_some_iff.mp hname
    refine Option.isSome_iff_exists.mp (List.find?_isSome.mpr ⟨id, ?_, ?_⟩)
    · exact FinMap.mem_keys_iff.mpr ⟨rec, hfind⟩
    · rw [hfind]
      exact decide_eq_true hcollective
  have hleft := h.sched.records.left
  have hright := h.sched.records.right
  cases hname : y.requestNamed c with
  | none =>
      cases hname' : y'.requestNamed c with
      | none => exact .none
      | some id' =>
          obtain ⟨id, hid⟩ := (ν.range c).mpr ⟨id', (hright id').symm.trans (hspec y' id' hname')⟩
          obtain ⟨id₁, hid₁⟩ := hsome y id ((hleft id).trans hid)
          rw [hname] at hid₁
          cases hid₁
  | some id =>
      have hid := (hleft id).symm.trans (hspec y id hname)
      obtain ⟨id', hid'⟩ := (ν.range c).mp ⟨id, hid⟩
      obtain ⟨id₁, hid₁⟩ := hsome y' id' ((hright id').trans hid')
      rw [hid₁]
      exact .some ⟨c, hid, (hright id₁).symm.trans (hspec y' id₁ hid₁)⟩

/-- A name leads to the same grant. -/
theorem Twins.grantNamed (h : y.Twins ν y') (c : CollectiveId) :
    Option.Rel (CollectiveGrant.Renamed ν) (y.grantNamed c) (y'.grantNamed c) := by
  have hissued := h.issued
  unfold System.grantNamed
  generalize y.issued = issued at hissued
  generalize y'.issued = issued' at hissued
  induction hissued with
  | nil => exact .none
  | @cons g g' rest rest' hg _ ih =>
      have hcollective : g'.collective = g.collective := by
        obtain ⟨_, rfl, -⟩ := hg
        rfl
      rw [List.find?_cons, List.find?_cons, hcollective]
      split
      · exact .some hg
      · exact ih

/-- Calls that leave the issued grants alone. -/
theorem Twins.of_sched (h : y.Twins ν y') (op op' : Op ℚ)
    (hsched : (y.next op).sched.Renamed ν (y'.next op').sched)
    (hissued : (y.next op).issued = y.issued) (hissued' : (y'.next op').issued = y'.issued) :
    (y.next op).Twins ν (y'.next op') :=
  ⟨hsched, by rw [hissued, hissued']; exact h.issued, next_orderly op h.orderly,
    next_orderly op' h.orderly'⟩

/-- A `schedule` call on both sides decides alike. -/
theorem Twins.schedule (h : y.Twins ν y') (order order' : MapOrder) :
    (y.next (.schedule order.records order.grants)).Twins ν
        (y'.next (.schedule order'.records order'.grants)) ∧
      y.decision order = y'.decision order' := by
  obtain ⟨t, dec, created, hround⟩ :=
    Scheduler.scheduleRound_isOk h.orderly.settled order.records order.grants
  obtain ⟨t', dec', created', hround'⟩ :=
    Scheduler.scheduleRound_isOk h.orderly'.settled order'.records order'.grants
  obtain ⟨hsched, hcreated, hselected, hfallback⟩ := h.sched.scheduleRound hround hround'
  have hnames : ∀ {ids ids' : List CollectiveRequestId}, List.Forall₂ ν.Pairs ids ids' →
      ids.map y.collectiveOf = ids'.map y'.collectiveOf := by
    intro ids ids' hids
    induction hids with
    | nil => rfl
    | cons hpair _ ih =>
        obtain ⟨c, hl, hr⟩ := hpair
        rw [List.map_cons, List.map_cons, ih]
        congr 1
        exact ((h.sched.records.left _).trans hl).trans
          ((h.sched.records.right _).trans hr).symm
  constructor
  · refine ⟨?_, ?_, next_orderly _ h.orderly, next_orderly _ h.orderly'⟩
    · simp only [next, step, hround, hround']
      exact hsched
    · simp only [next, step, hround, hround']
      exact List.rel_append h.issued hcreated
  · simp only [decision, outcome, step, hround, hround', hnames hselected, hnames hfallback]

/-- A named call on both sides keeps the twins. -/
theorem Twins.nextNamed (h : y.Twins ν y') (order order' : MapOrder) (op : NamedOp ℚ) :
    (y.nextNamed order op).Twins ν (y'.nextNamed order' op) := by
  cases op with
  | publishParticipant p =>
      exact h.of_sched (.publishParticipant p) (.publishParticipant p)
        (h.sched.publishParticipant p) rfl rfl
  | publishPlan pl =>
      exact h.of_sched (.publishPlan pl) (.publishPlan pl) (h.sched.publishPlan pl) rfl rfl
  | publishDependency dep =>
      exact h.of_sched (.publishDependency dep) (.publishDependency dep)
        (h.sched.publishDependency dep) rfl rfl
  | publishReservation res =>
      exact h.of_sched (.publishReservation res) (.publishReservation res)
        (h.sched.publishReservation res) rfl rfl
  | publishCongestion cong =>
      exact h.of_sched (.publishCongestion cong) (.publishCongestion cong)
        (h.sched.publishCongestion cong) rfl rfl
  | publishCapacity cap =>
      exact h.of_sched (.publishCapacity cap) (.publishCapacity cap)
        (h.sched.publishCapacity cap) rfl rfl
  | advanceTime d =>
      exact h.of_sched (.advanceTime d) (.advanceTime d) (h.sched.advanceTime d) rfl rfl
  | schedule => exact (h.schedule order order').1
  | cancel c =>
      have hnamed := h.requestNamed c
      simp only [System.nextNamed, System.resolve]
      generalize y.requestNamed c = id at hnamed
      generalize y'.requestNamed c = id' at hnamed
      cases hnamed with
      | none => exact h
      | @some id id' hpair =>
          exact h.of_sched (.cancel id) (.cancel id') (h.sched.cancel hpair) rfl rfl
  | handoff c accepted =>
      have hnamed := h.grantNamed c
      simp only [System.nextNamed, System.resolve]
      generalize y.grantNamed c = g at hnamed
      generalize y'.grantNamed c = g' at hnamed
      cases hnamed with
      | none => exact h
      | @some g g' hg =>
          exact h.of_sched (.handoff g accepted) (.handoff g' accepted)
            (h.sched.handoff hg accepted) rfl rfl
  | complete c wb sb =>
      have hnamed := h.grantNamed c
      simp only [System.nextNamed, System.resolve]
      generalize y.grantNamed c = g at hnamed
      generalize y'.grantNamed c = g' at hnamed
      cases hnamed with
      | none => exact h
      | @some g g' hg =>
          exact h.of_sched (.complete g wb sb) (.complete g' wb sb)
            (h.sched.complete hg wb sb) rfl rfl
  | fenceWorkerBoot worker boot =>
      exact h.of_sched (.fenceWorkerBoot worker boot order.records)
        (.fenceWorkerBoot worker boot order'.records)
        (h.sched.fenceWorkerBoot worker boot order.records order'.records) rfl rfl

/-- Twins decide alike along every run of the same named calls. -/
theorem Twins.decisions (h : y.Twins ν y') {script script' : List (NamedOp ℚ × MapOrder)}
    (hsame : script.map Prod.fst = script'.map Prod.fst) :
    y.decisions script = y'.decisions script' := by
  induction script generalizing y y' script' with
  | nil =>
      cases script' with
      | nil => rfl
      | cons a' rest' => cases hsame
  | cons a rest ih =>
      cases script' with
      | nil => cases hsame
      | cons a' rest' =>
          obtain ⟨op, order⟩ := a
          obtain ⟨op', order'⟩ := a'
          obtain ⟨hop, htail⟩ := List.cons.inj hsame
          obtain rfl : op = op' := hop
          have hrest := ih (h.nextNamed order order' op) htail
          cases op with
          | schedule =>
              change y.decision order :: _ = y'.decision order' :: _
              rw [(h.schedule order order').2]
              exact congrArg _ hrest
          | _ => exact hrest

end System

/-! ## The property -/

/-- The same requests, with distinct collectives, submitted in two orders after
the same publications: whatever named calls follow and whatever the iteration
orders are, every decision is the same by collectives. -/
theorem insertion_order_independent (policy : PolicyConfig ℚ) (epoch : CoordinatorEpoch)
    (publications : List (Op ℚ)) (hpublications : ∀ op ∈ publications, op.isPublication = true)
    (reqs reqs' : List (CollectiveRequest ℚ)) (hperm : reqs.Perm reqs')
    (hdistinct : (reqs.map (·.collective)).Nodup)
    (haccepted : ((System.start policy epoch).run publications).Accepts reqs)
    (haccepted' : ((System.start policy epoch).run publications).Accepts reqs')
    (script script' : List (NamedOp ℚ × MapOrder))
    (hsame : script.map Prod.fst = script'.map Prod.fst) :
    (((System.start policy epoch).run publications).submitAll reqs).decisions script =
      (((System.start policy epoch).run publications).submitAll reqs').decisions script' := by
  have hpublished := Runs.invariant
    (I := fun y : System ℚ => y.sched.Blank ∧ y.issued = [])
    (fun y op hy hop => ⟨(System.next_blank hy.1 hop).1, (System.next_blank hy.1 hop).2.trans hy.2⟩)
    ⟨System.start_blank policy epoch, rfl⟩
    (Runs.admissible_of_forall hpublications (System.start policy epoch))
  have horderly := System.run_orderly (System.start_orderly policy epoch) publications
  generalize hy : (System.start policy epoch).run publications = y at *
  obtain ⟨hblank, hissued⟩ : y.sched.Blank ∧ y.issued = [] := hy ▸ hpublished
  obtain ⟨hfiled, hnone⟩ := System.submitAll_filed hblank hblank.filed haccepted
  obtain ⟨hfiled', hnone'⟩ := System.submitAll_filed hblank hblank.filed haccepted'
  rw [List.nil_append] at hfiled hfiled'
  have htwins : (y.submitAll reqs).Twins (hfiled.naming hfiled' hperm hdistinct)
      (y.submitAll reqs') := by
    refine ⟨Scheduler.Filed.renamed hblank hfiled hfiled' hperm hdistinct, ?_,
      System.run_orderly horderly _, System.run_orderly horderly _⟩
    rw [hnone, hnone', hissued]
    exact .nil
  exact htwins.decisions hsame

namespace Scenario

/-- The evidence of the serialisation test. -/
def contendedEvidence : List (Op ℚ) :=
  [.publishParticipant (participant 1 1 1 11), .publishParticipant (participant 2 1 1 11),
    .publishParticipant (participant 3 1 1 11), .publishPlan (plan 1 1 [1, 2]),
    .publishPlan (plan 2 1 [2, 3])]

/-- The calls that let one of the two requests execute before the other. -/
def contendedCalls : List (NamedOp ℚ) :=
  [.schedule, .handoff 1 true, .schedule, .complete 1 11 100, .schedule]

end Scenario

/-- Two conflicting requests in both orders: collective 1 runs first, collective 2
after it completed. -/
theorem insertion_order_independent_contended :
    let reqs := [Scenario.request 1 [1, 2] 1, Scenario.request 2 [2, 3] 2]
    let y := (System.start PolicyConfig.default 1).run Scenario.contendedEvidence
    y.Accepts reqs ∧ y.Accepts reqs.reverse ∧
      (y.submitAll reqs).decisions (Scenario.contendedCalls.map (fun op => (op, { }))) =
        [some ([some 1], [some 2]), some ([], [some 2]), some ([some 2], [])] ∧
      (y.submitAll reqs.reverse).decisions
          (Scenario.contendedCalls.map (fun op => (op, { records := [2, 1] }))) =
        [some ([some 1], [some 2]), some ([], [some 2]), some ([some 2], [])] := by
  have haccepted : ((System.start PolicyConfig.default 1).run Scenario.contendedEvidence).Accepts
      [Scenario.request 1 [1, 2] 1, Scenario.request 2 [2, 3] 2] := by decide +kernel
  have haccepted' : ((System.start PolicyConfig.default 1).run Scenario.contendedEvidence).Accepts
      [Scenario.request 2 [2, 3] 2, Scenario.request 1 [1, 2] 1] := by decide +kernel
  have hdecisions : (((System.start PolicyConfig.default 1).run
        Scenario.contendedEvidence).submitAll
          [Scenario.request 1 [1, 2] 1, Scenario.request 2 [2, 3] 2]).decisions
        (Scenario.contendedCalls.map (fun op => (op, { }))) =
      [some ([some 1], [some 2]), some ([], [some 2]), some ([some 2], [])] := by decide +kernel
  refine ⟨haccepted, haccepted', hdecisions, ?_⟩
  rw [← hdecisions]
  refine (insertion_order_independent PolicyConfig.default 1 Scenario.contendedEvidence
    (by decide) _ _ (List.Perm.swap _ _ _) (by decide) haccepted haccepted' _ _ ?_).symm
  rfl

end CollectiveScheduler
