/-
  Scheduler/Inversion.lean --- what each operation can do, said once.

  For every operation with branches one lemma lists its possible results, with
  the guards that lead to them.  The invariants of later modules are derived from
  these lemmas and never unfold an operation.
-/
import CollectiveScheduler.Scheduler.Adjudication
import CollectiveScheduler.Scheduler.Operations
import CollectiveScheduler.Scheduler.Rewriting

set_option autoImplicit false

namespace CollectiveScheduler

open Foundation LifecycleState

namespace LifecycleState

/-- What demanding revalidation may do to a state. -/
def Revokes (a b : LifecycleState) : Prop :=
  b = a ∨ a.isRevocable = true ∧ b = .revalidationRequired

theorem Revokes.refl (a : LifecycleState) : Revokes a a := .inl rfl

theorem Revokes.trans {a b c : LifecycleState} (h : Revokes a b) (h' : Revokes b c) :
    Revokes a c := by
  rcases h with rfl | ⟨ha, rfl⟩
  · exact h'
  · rcases h' with rfl | ⟨hb, -⟩
    · exact .inr ⟨ha, rfl⟩
    · exact absurd hb (by decide)

end LifecycleState

namespace Scheduler

variable {D : Type}

/-! ## Demanding revalidation -/

theorem demandRevalidation_frame (rec : Record D) :
    rec.demandRevalidation.request = rec.request ∧
      rec.demandRevalidation.currentGrant = rec.currentGrant ∧
      rec.lifecycle.Revokes rec.demandRevalidation.lifecycle := by
  unfold Record.demandRevalidation
  split_ifs with h
  · exact ⟨rfl, rfl, .inr ⟨h, transitionOrKeep_revalidationRequired h⟩⟩
  · exact ⟨rfl, rfl, .inl rfl⟩

theorem demandRevalidation_isTerminalState (rec : Record D) :
    rec.demandRevalidation.lifecycle.isTerminalState = rec.lifecycle.isTerminalState := by
  rcases (demandRevalidation_frame rec).2.2 with hkeep | ⟨hrevocable, hmove⟩
  · rw [hkeep]
  · rw [hmove]
    cases hlife : rec.lifecycle <;> first | rfl | exact absurd (hlife ▸ hrevocable) (by decide)

theorem demandRevalidation_terminal {rec : Record D}
    (h : rec.lifecycle.isTerminalState = false) :
    rec.demandRevalidation.lifecycle.isTerminalState = false :=
  (demandRevalidation_isTerminalState rec).trans h

/-! ## Evidence -/

section Evidence

variable (s : Scheduler D)

theorem publishPlan_rewritten (pl : CommunicationPlan D) :
    Rewritten Eq s (s.publishPlan pl).1 := by
  unfold publishPlan
  split_ifs <;> exact Rewritten.of_records_eq (fun _ => rfl) rfl ⟨rfl, rfl, rfl, rfl, le_refl _⟩

theorem publishDependency_rewritten (dep : DependencyState) :
    Rewritten Eq s (s.publishDependency dep).1 := by
  unfold publishDependency
  split_ifs <;> exact Rewritten.of_records_eq (fun _ => rfl) rfl ⟨rfl, rfl, rfl, rfl, le_refl _⟩

theorem publishReservation_rewritten (res : Reservation D) :
    Rewritten Eq s (s.publishReservation res).1 :=
  Rewritten.of_records_eq (fun _ => rfl) rfl ⟨rfl, rfl, rfl, rfl, le_refl _⟩

theorem publishCongestion_rewritten (cong : CongestionState D) :
    Rewritten Eq s (s.publishCongestion cong).1 := by
  unfold publishCongestion
  split_ifs <;> exact Rewritten.of_records_eq (fun _ => rfl) rfl ⟨rfl, rfl, rfl, rfl, le_refl _⟩

theorem publishCapacity_rewritten (cap : CapacityState D) :
    Rewritten Eq s (s.publishCapacity cap).1 := by
  unfold publishCapacity
  split_ifs <;> exact Rewritten.of_records_eq (fun _ => rfl) rfl ⟨rfl, rfl, rfl, rfl, le_refl _⟩

theorem setPolicy_rewritten (cfg : PolicyConfig D) : Rewritten Eq s (s.setPolicy cfg) :=
  Rewritten.of_records_eq (fun _ => rfl) rfl ⟨rfl, rfl, rfl, rfl, le_refl _⟩

theorem advanceCoordinatorEpoch_rewritten (epoch : CoordinatorEpoch) :
    Rewritten Eq s (s.advanceCoordinatorEpoch epoch).1 := by
  unfold advanceCoordinatorEpoch
  split_ifs with hbehind
  · exact Rewritten.refl (fun _ => rfl) s
  · exact Rewritten.of_records_eq (fun _ => rfl) rfl ⟨rfl, rfl, rfl, rfl, (not_le.mp hbehind).le⟩

theorem advanceTime_rewritten (d : Nanoseconds) : Rewritten Eq s (s.advanceTime d) :=
  Rewritten.of_records_eq (fun _ => rfl) rfl ⟨rfl, rfl, rfl, rfl, le_refl _⟩

/-- What a participant publication does to the records it finds outdated. -/
theorem revalidateAgainst_rewritten (p : Participant) (rec : Record D) :
    rec.Rewritten Revokes (revalidateAgainst p rec) := by
  unfold revalidateAgainst
  split_ifs
  · exact ⟨rfl, rfl, .inl rfl⟩
  · obtain ⟨hrequest, hgrant, hlife⟩ := demandRevalidation_frame rec
    exact ⟨hrequest, hgrant, hlife⟩
  · exact ⟨rfl, rfl, .inl rfl⟩

theorem publishParticipant_rewritten (p : Participant) :
    Rewritten Revokes s (s.publishParticipant p).1 := by
  unfold publishParticipant
  split_ifs
  · exact Rewritten.refl Revokes.refl s
  · exact Rewritten.of_records
      (RecordsRewritten.modifyAll Revokes.refl Revokes.trans _ _
        (fun _ rec => revalidateAgainst_rewritten p rec)) ⟨rfl, rfl, rfl, rfl, le_refl _⟩
  · exact Rewritten.of_records_eq Revokes.refl rfl ⟨rfl, rfl, rfl, rfl, le_refl _⟩

theorem fenceParticipants_rewritten (worker : WorkerId) (boot : WorkerBootId) :
    Rewritten Eq s (s.fenceParticipants worker boot) :=
  Rewritten.of_records_eq (fun _ => rfl) rfl ⟨rfl, rfl, rfl, rfl, le_refl _⟩

end Evidence

/-- The requests a participant publication walks over: those of the participant,
if it replaces a newer generation or another boot. -/
def publicationVisits (s : Scheduler D) (p : Participant) (id : CollectiveRequestId) : Bool :=
  !s.participantRegresses p && s.supplants p && decide (id ∈ s.requestsOf p.id)

theorem mem_requestsOf_iff {s : Scheduler D} {p : ParticipantId} {id : CollectiveRequestId} :
    id ∈ s.requestsOf p ↔ s.participantRequests.Indexes p id := by
  unfold requestsOf FinMap.Indexes
  cases s.participantRequests.find? p with
  | none => simp
  | some ids => simp [FinMap.mem_keys_iff, FinMap.contains_iff]

theorem find?_publishParticipant (s : Scheduler D) (p : Participant) (id : CollectiveRequestId) :
    (s.publishParticipant p).1.records.find? id =
      if s.publicationVisits p id then (s.records.find? id).map (revalidateAgainst p)
      else s.records.find? id := by
  have hnodup : (s.requestsOf p.id).Nodup := by
    unfold requestsOf
    cases s.participantRequests.find? p.id with
    | none => exact List.nodup_nil
    | some ids => exact ids.nodup_keys
  unfold publishParticipant publicationVisits
  cases s.participantRegresses p with
  | true => simp
  | false =>
      cases s.supplants p with
      | true => simp [FinMap.find?_modifyAll _ _ hnodup]
      | false => simp

/-! ## Executing grants -/

/-- The entry of a grant that is executing: active and not terminal. -/
def Live (s : Scheduler D) (gid : CollectiveGrantId) (gs : GrantState) : Prop :=
  s.grants.find? gid = some gs ∧ gs.isLive = true

theorem any_isLive_iff {s : Scheduler D} {gid : CollectiveGrantId} :
    (s.grants.find? gid).any GrantState.isLive = true ↔ ∃ gs, s.Live gid gs :=
  Option.any_eq_true _ _

/-- An entry that executes after its neighbour was replaced by one that does not
is one of the others. -/
theorem live_of_insert {s : Scheduler D} {gid gid' : CollectiveGrantId} {gs gs' : GrantState}
    (hdead : gs'.isLive = false)
    (hlive : (s.grants.insert gid gs').find? gid' = some gs ∧ gs.isLive = true) :
    s.Live gid' gs ∧ gid' ≠ gid := by
  obtain ⟨hfind, hl⟩ := hlive
  rw [FinMap.find?_insert] at hfind
  split_ifs at hfind with hid
  · cases hfind
    rw [hdead] at hl
    cases hl
  · exact ⟨⟨hfind, hl⟩, hid⟩

/-- Replacing an entry by one that does not execute removes it from the
executing ones. -/
theorem live_insert_iff {s : Scheduler D} {gid gid' : CollectiveGrantId} {gs gs' : GrantState}
    (hdead : gs'.isLive = false) :
    ((s.grants.insert gid gs').find? gid' = some gs ∧ gs.isLive = true) ↔
      s.Live gid' gs ∧ gid' ≠ gid := by
  refine ⟨live_of_insert hdead, fun ⟨hl, hne⟩ => ⟨?_, hl.2⟩⟩
  rw [FinMap.find?_insert_of_ne _ _ hne]
  exact hl.1

/-- A created grant does not execute. -/
theorem live_createGrant {s : Scheduler D} {id : CollectiveRequestId} {rec : Record D}
    {dec : ScheduleDecision D} {gid : CollectiveGrantId} {gs : GrantState} :
    (s.createGrant id rec dec).1.Live gid gs ↔ s.Live gid gs := by
  constructor
  · rintro ⟨hentry, hl⟩
    rcases FinMap.find?_emplace_cases hentry with hold | ⟨-, -, rfl⟩
    · exact ⟨hold, hl⟩
    · cases hl
  · rintro ⟨hentry, hl⟩
    exact ⟨FinMap.find?_emplace_of_some hentry _ _, hl⟩

/-! ## Submission and supersession -/

/-- `submit` throws, with at most an id consumed, or files a fresh record. -/
theorem submit_cases [Double D] (s : Scheduler D) (req : CollectiveRequest D) :
    (∃ next e, s.submit req = ({ s with nextRequestId := next }, .error e)) ∨
    (s.records.size < s.policy.bounds.maxCollectives.toNat ∧
      validateRequest (s.submittedRecord req).request s.policy = .ok () ∧
      s.submit req =
        ({ s with
            nextRequestId := s.nextRequestId.next
            nextSeq := s.nextSeq + 1
            participantRequests :=
              trackRequest s.participantRequests req.participants s.nextRequestId
            records := s.records.emplace s.nextRequestId (s.submittedRecord req) },
          .ok s.nextRequestId)) := by
  unfold submit
  split_ifs with hbound
  · exact .inl ⟨s.nextRequestId, _, rfl⟩
  · simp only
    cases hvalid : validateRequest (s.submittedRecord req).request s.policy with
    | error e => exact .inl ⟨_, e, rfl⟩
    | ok _ => exact .inr ⟨Nat.lt_of_not_le hbound, rfl, rfl⟩

theorem submit_isOk [Double D] {s : Scheduler D} {req : CollectiveRequest D}
    (hbound : s.records.size < s.policy.bounds.maxCollectives.toNat)
    (hvalid : validateRequest (s.submittedRecord req).request s.policy = .ok ()) :
    s.submit req =
      ({ s with
          nextRequestId := s.nextRequestId.next
          nextSeq := s.nextSeq + 1
          participantRequests :=
            trackRequest s.participantRequests req.participants s.nextRequestId
          records := s.records.emplace s.nextRequestId (s.submittedRecord req) },
        .ok s.nextRequestId) := by
  simp only [submit, if_neg (Nat.not_le_of_lt hbound), hvalid]

/-- What `supersede` does to the grant of the record it replaces. -/
def releaseForSupersede (s : Scheduler D) (grant : Option CollectiveGrant) : Scheduler D :=
  match grant with
  | none => s
  | some g => { s.revokeGrant g.id with activeGrants := (s.revokeGrant g.id).activeGrants - 1 }

theorem retireSuperseded_frame (old : Record D) :
    old.retireSuperseded.currentGrant = old.currentGrant ∧
      old.retireSuperseded.enqueueSeq = old.enqueueSeq ∧
      old.retireSuperseded.fairness = old.fairness := by
  unfold Record.retireSuperseded
  split_ifs <;> exact ⟨rfl, rfl, rfl⟩

/-- `supersede` throws and changes nothing, or replaces the record by one of a
larger generation. -/
theorem supersede_cases [Double D] (s : Scheduler D) (req : CollectiveRequest D) :
    (∃ e, s.supersede req = (s, .error e)) ∨
    (∃ old, s.records.find? req.id = some old ∧ old.request.gen < req.gen ∧
      validateRequest req s.policy = .ok () ∧
      s.supersede req =
        ({ s.releaseForSupersede old.currentGrant with
            participantRequests := trackRequest
              (s.releaseForSupersede old.currentGrant).participantRequests req.participants req.id
            records := (s.releaseForSupersede old.currentGrant).records.insert req.id
              (supersedingRecord old req) }, .ok ())) := by
  unfold supersede
  split
  · exact .inl ⟨_, rfl⟩
  · rename_i old hfind
    split_ifs with hgen
    · exact .inl ⟨_, rfl⟩
    · cases hvalid : validateRequest req s.policy with
      | error e => exact .inl ⟨e, rfl⟩
      | ok _ =>
          refine .inr ⟨old, hfind, not_le.mp hgen, rfl, ?_⟩
          obtain ⟨hgrant, hseq, hfair⟩ := retireSuperseded_frame old
          cases hcur : old.currentGrant <;>
            simp only [supersedingRecord, hgrant, hseq, hfair, hcur, releaseForSupersede]

theorem supersede_isOk [Double D] {s : Scheduler D} {req : CollectiveRequest D} {old : Record D}
    (hfind : s.records.find? req.id = some old) (hgen : old.request.gen < req.gen)
    (hvalid : validateRequest req s.policy = .ok ()) :
    s.supersede req =
      ({ s.releaseForSupersede old.currentGrant with
          participantRequests := trackRequest
            (s.releaseForSupersede old.currentGrant).participantRequests req.participants req.id
          records := (s.releaseForSupersede old.currentGrant).records.insert req.id
            (supersedingRecord old req) }, .ok ()) := by
  have hok : (s.supersede req).2 = .ok () := by
    simp only [supersede, hfind, if_neg (not_le.mpr hgen), hvalid]
  rcases s.supersede_cases req with ⟨e, heq⟩ | ⟨old', hfind', -, -, heq⟩
  · rw [heq] at hok
    cases hok
  · rw [hfind] at hfind'
    cases hfind'
    exact heq

/-! ## Revocation of a grant entry -/

section Revoke

variable (s : Scheduler D) (gid : CollectiveGrantId)

theorem find?_revokeGrant (gid' : CollectiveGrantId) :
    (s.revokeGrant gid).grants.find? gid' =
      if gid' = gid then (s.grants.find? gid').map revoked else s.grants.find? gid' := by
  unfold revokeGrant
  cases hfind : s.grants.find? gid with
  | none =>
      simp only
      split_ifs with hid
      · rw [hid, hfind, Option.map_none]
      · rfl
  | some gs =>
      simp only [FinMap.find?_insert]
      split_ifs with hid
      · rw [hid, hfind, Option.map_some]
      · rfl

/-- Revocation touches the grants and their index only. -/
theorem revokeGrant_eq :
    s.revokeGrant gid =
      { s with
        grants := (s.revokeGrant gid).grants
        activeByParticipant := (s.revokeGrant gid).activeByParticipant } := by
  unfold revokeGrant
  cases s.grants.find? gid <;> rfl

@[simp] theorem revokeGrant_records : (s.revokeGrant gid).records = s.records := by
  rw [revokeGrant_eq]

@[simp] theorem revokeGrant_activeGrants :
    (s.revokeGrant gid).activeGrants = s.activeGrants := by
  rw [revokeGrant_eq]

@[simp] theorem revokeGrant_nextGrantId : (s.revokeGrant gid).nextGrantId = s.nextGrantId := by
  rw [revokeGrant_eq]

@[simp] theorem revokeGrant_participants : (s.revokeGrant gid).participants = s.participants := by
  rw [revokeGrant_eq]

@[simp] theorem releaseForSupersede_records (grant : Option CollectiveGrant) :
    (s.releaseForSupersede grant).records = s.records := by
  cases grant with
  | none => rfl
  | some g => exact revokeGrant_records s g.id

end Revoke

/-! ## Cancellation -/

@[simp] theorem cancel_lifecycle (rec : Record D) : rec.cancel.lifecycle = .cancelled :=
  transitionOrForce_eq _ _

/-- The current grant of a record has an entry that is not terminal. -/
def HoldsOpenGrant (s : Scheduler D) (rec : Record D) (g : CollectiveGrant) (gs : GrantState) :
    Prop :=
  rec.currentGrant = some g ∧ s.grants.find? g.id = some gs ∧ gs.terminal = false

/-- `cancel` changes nothing, or cancels the record and revokes the open grant it
holds, if any. -/
theorem cancel_cases (s : Scheduler D) (id : CollectiveRequestId) :
    (s.cancel id).1 = s ∨
    (∃ rec, s.records.find? id = some rec ∧ rec.lifecycle.isTerminalState = false ∧
      ((∀ g gs, ¬s.HoldsOpenGrant rec g gs) ∧
          (s.cancel id).1 = { s with records := s.records.insert id rec.cancel } ∨
        ∃ g gs, s.HoldsOpenGrant rec g gs ∧
          (s.cancel id).1 =
            { s with
              records := s.records.insert id rec.cancel
              activeByParticipant := s.activeByParticipant.deindexActiveGrant gs.grant
              grants := s.grants.insert g.id (revoked gs)
              activeGrants := if gs.active then s.activeGrants - 1 else s.activeGrants })) := by
  unfold cancel
  split
  · exact .inl rfl
  · rename_i rec hfind
    split_ifs with hterminal
    · exact .inl rfl
    · refine .inr ⟨rec, hfind, by simpa using hterminal, ?_⟩
      simp only
      cases hcur : rec.currentGrant with
      | none =>
          refine .inl ⟨fun g gs hopen => ?_, rfl⟩
          have := hopen.1
          rw [hcur] at this
          cases this
      | some g =>
          simp only [Option.bind_some]
          cases hentry : s.grants.find? g.id with
          | none =>
              refine .inl ⟨fun g' gs hopen => ?_, rfl⟩
              obtain ⟨hg, hgs, -⟩ := hopen
              rw [hcur] at hg
              cases hg
              rw [hentry] at hgs
              cases hgs
          | some gs =>
              cases hterm : gs.terminal with
              | true =>
                  refine .inl ⟨fun g' gs' hopen => ?_, by simp only [hterm, if_true]⟩
                  obtain ⟨hg, hgs, hopen⟩ := hopen
                  rw [hcur] at hg
                  cases hg
                  rw [hentry] at hgs
                  cases hgs
                  rw [hterm] at hopen
                  cases hopen
              | false =>
                  refine .inr ⟨g, gs, ⟨hcur, hentry, hterm⟩, ?_⟩
                  simp only [hterm, Bool.false_eq_true, if_false]

/-- `cancel` revokes the open grant of a record at the fabric. -/
theorem cancel_emits {s : Scheduler D} {id : CollectiveRequestId} {rec : Record D}
    {g : CollectiveGrant} {gs : GrantState} (hfind : s.records.find? id = some rec)
    (hlife : rec.lifecycle.isTerminalState = false) (hopen : s.HoldsOpenGrant rec g gs) :
    (s.cancel id).2 =
      .ok [.brokerRelease rec.request.workload, .fabricRevoke gs.grant] := by
  obtain ⟨hcur, hentry, hterminal⟩ := hopen
  simp only [cancel, hfind, hlife, hcur, Option.bind_some, hentry, hterminal, Bool.false_eq_true,
    if_false]

/-! ## Handoff -/

/-- A grant that revalidates as VALID names the record's own generations and was
issued in the current epoch. -/
theorem revalidateGrant_valid {s : Scheduler D} {g : CollectiveGrant}
    (h : s.revalidateGrant g = .valid) :
    ∃ rec, s.records.find? g.request = some rec ∧ rec.request.gen = g.requestGen ∧
      rec.request.collectiveGen = g.collectiveGen ∧ g.evidence.epoch = s.epoch := by
  obtain ⟨rec, hfind, hchecks⟩ := revalidateGrant_eq_valid_iff.mp h
  exact ⟨rec, hfind, hchecks.requestGen, hchecks.collectiveGen, hchecks.epoch⟩

/-- A grant that revalidates as VALID and asks for fresh participants finds each of
them published at its generation and available. -/
theorem revalidateGrant_participants {s : Scheduler D} {g : CollectiveGrant}
    (h : s.revalidateGrant g = .valid) (hfresh : g.revalidation.requireFreshParticipants = true) :
    ∀ e ∈ g.participants.zipIdx, s.participantCurrent g.participantGens e.1 e.2 = true := by
  obtain ⟨rec, -, hchecks⟩ := revalidateGrant_eq_valid_iff.mp h
  exact (hchecks.participants hfresh).2

/-- The state after a successful first section of `handoff`. -/
def dispatched (s : Scheduler D) (g : CollectiveGrant) (rec : Record D) : Scheduler D :=
  { s with
    records := s.records.insert g.request { rec with lifecycle := .dispatching }
    grants := s.grants.modify g.id (fun gs => { gs with handedOff := true, grant := g }) }

/-- The first section of `handoff` changes nothing, or dispatches a GRANTED
record of the grant's own generation. -/
theorem handoffBegin_cases (s : Scheduler D) (g : CollectiveGrant) :
    s.handoffBegin g = (s, none) ∨
    (∃ rec, s.records.find? g.request = some rec ∧ s.revalidateGrant g = .valid ∧
      rec.lifecycle = .granted ∧ rec.request.gen = g.requestGen ∧
      s.handoffBegin g = (s.dispatched g rec, some g)) := by
  unfold handoffBegin
  split_ifs with hvalid
  · exact .inl rfl
  · have hvalid' := not_not.mp hvalid
    obtain ⟨rec, hfind, hgen, -⟩ := revalidateGrant_valid hvalid'
    simp only [hfind]
    cases htransition : rec.lifecycle.transition .dispatching with
    | error e => exact .inl rfl
    | ok st =>
        obtain ⟨hcan, rfl⟩ := transition_ok_iff.mp htransition
        exact .inr ⟨rec, rfl, hvalid', canTransition_dispatching.mp hcan, hgen, rfl⟩

/-- `handoff` gets past the checks of its first section: the grant revalidates as VALID
and its record is GRANTED. -/
def Dispatches (s : Scheduler D) (g : CollectiveGrant) : Prop :=
  s.revalidateGrant g = .valid ∧
    (s.records.find? g.request).any (fun rec => rec.lifecycle = .granted) = true

instance (s : Scheduler D) (g : CollectiveGrant) : Decidable (s.Dispatches g) :=
  inferInstanceAs (Decidable (_ ∧ _))

theorem dispatches_iff {s : Scheduler D} {g : CollectiveGrant} :
    s.Dispatches g ↔ ∃ rec, s.records.find? g.request = some rec ∧ rec.lifecycle = .granted ∧
      s.Revalidates g rec := by
  unfold Dispatches
  rw [revalidateGrant_eq_valid_iff, Option.any_eq_true]
  simp only [decide_eq_true_eq]
  constructor
  · rintro ⟨⟨rec, hfind, hchecks⟩, rec', hfind', hgranted⟩
    rw [hfind] at hfind'
    cases hfind'
    exact ⟨rec, hfind, hgranted, hchecks⟩
  · rintro ⟨rec, hfind, hgranted, hchecks⟩
    exact ⟨⟨rec, hfind, hchecks⟩, rec, hfind, hgranted⟩

theorem handoffBegin_of_dispatches {s : Scheduler D} {g : CollectiveGrant}
    (h : s.Dispatches g) :
    ∃ rec, s.records.find? g.request = some rec ∧ rec.lifecycle = .granted ∧
      s.handoffBegin g = (s.dispatched g rec, some g) := by
  obtain ⟨rec, hfind, hgranted⟩ := (Option.any_eq_true _ _).mp h.2
  have hlife : rec.lifecycle = .granted := of_decide_eq_true hgranted
  have hmove : rec.lifecycle.transition .dispatching = .ok .dispatching := by
    rw [hlife]
    rfl
  refine ⟨rec, hfind, hlife, ?_⟩
  simp only [handoffBegin, if_neg (not_not.mpr h.1), hfind, hmove]
  rfl

theorem handoffBegin_of_not_dispatches {s : Scheduler D} {g : CollectiveGrant}
    (h : ¬s.Dispatches g) : s.handoffBegin g = (s, none) := by
  rcases s.handoffBegin_cases g with heq | ⟨rec, hfind, hvalid, hgranted, -, -⟩
  · exact heq
  · exact absurd ⟨hvalid, (Option.any_eq_true _ _).mpr ⟨rec, hfind, decide_eq_true hgranted⟩⟩ h

/-- The record after the second section of `handoff`. -/
def landed (rec : Record D) (accepted : Bool) : Record D :=
  { rec with
    lifecycle := if rec.lifecycle = .dispatching ∧ accepted = true then .active
      else rec.lifecycle }

theorem landed_active {rec : Record D} {accepted : Bool}
    (h : (landed rec accepted).lifecycle = .active) :
    rec.lifecycle = .dispatching ∨ rec.lifecycle = .active := by
  unfold landed at h
  simp only at h
  split_ifs at h with hdisp
  · exact .inl hdisp.1
  · exact .inr h

/-- The state after the second section of `handoff` found an entry and an ACTIVE
record. -/
def activated (s : Scheduler D) (gc : CollectiveGrant) (rec : Record D) (gs : GrantState) :
    Scheduler D :=
  { s with
    records := s.records.insert gc.request rec
    grants := s.grants.insert gc.id { gs with active := true }
    activeGrants := s.activeGrants + 1
    activeByParticipant := s.activeByParticipant.indexActiveGrant gs.grant }

/-- The second section of `handoff`: the record is gone, the entry is gone, the
record is ACTIVE, or it is not.  Only the third case can return true. -/
theorem handoffEnd_cases (s : Scheduler D) (gc : CollectiveGrant) (accepted : Bool) :
    (s.records.find? gc.request = none ∧
        s.handoffEnd gc accepted = (s, false, [.fabricRevoke gc])) ∨
    (∃ rec, s.records.find? gc.request = some rec ∧
      (s.grants.find? gc.id = none ∧
          s.handoffEnd gc accepted =
            ({ s with records := s.records.insert gc.request (landed rec accepted) }, false,
              [.fabricRevoke gc]) ∨
        ∃ gs, s.grants.find? gc.id = some gs ∧
          ((landed rec accepted).lifecycle = .active ∧
              s.handoffEnd gc accepted =
                (s.activated gc (landed rec accepted) gs, accepted, []) ∨
            (landed rec accepted).lifecycle ≠ .active ∧
              s.handoffEnd gc accepted =
                ({ s with
                    records := s.records.insert gc.request (landed rec accepted)
                    grants := s.grants.insert gc.id { gs with active := false } }, false,
                  [.fabricRevoke gc])))) := by
  have hkeep : ∀ rec : Record D, (if rec.lifecycle = .dispatching ∧ accepted = true then
      rec.lifecycle.transitionOrKeep .active else rec.lifecycle) =
        (landed rec accepted).lifecycle := by
    intro rec
    unfold landed
    simp only
    split_ifs with h
    · rw [h.1]
      rfl
    · rfl
  unfold handoffEnd
  cases hfind : s.records.find? gc.request with
  | none => exact .inl ⟨rfl, rfl⟩
  | some rec =>
      refine .inr ⟨rec, rfl, ?_⟩
      simp only [hkeep rec]
      cases hentry : s.grants.find? gc.id with
      | none => exact .inl ⟨rfl, rfl⟩
      | some gs =>
          refine .inr ⟨gs, rfl, ?_⟩
          simp only
          split_ifs with hactive
          · exact .inl ⟨hactive, rfl⟩
          · exact .inr ⟨hactive, rfl⟩

/-- `handoff` is its two sections, one after the other. -/
theorem handoff_eq (s : Scheduler D) (g : CollectiveGrant) (accepted : Bool) :
    (s.handoff g accepted).1 =
        (match (s.handoffBegin g).2 with
          | none => (s.handoffBegin g).1
          | some gc => ((s.handoffBegin g).1.handoffEnd gc accepted).1) ∧
      (s.handoff g accepted).2.1 =
        (match (s.handoffBegin g).2 with
          | none => false
          | some gc => ((s.handoffBegin g).1.handoffEnd gc accepted).2.1) := by
  unfold handoff
  rcases s.handoffBegin g with ⟨s', asked⟩
  cases asked <;> exact ⟨rfl, rfl⟩

/-- The record after an atomic handoff. -/
def handedOff (rec : Record D) (accepted : Bool) : Record D :=
  { rec with lifecycle := if accepted then .active else .dispatching }

/-! The second section right after the first finds the record DISPATCHING. -/

section Dispatched

variable {s : Scheduler D} {g : CollectiveGrant} (rec : Record D) (accepted : Bool)

theorem find?_dispatched : (s.dispatched g rec).records.find? g.request =
    some { rec with lifecycle := .dispatching } := FinMap.find?_insert_self _ _ _

theorem landed_dispatching :
    landed { rec with lifecycle := .dispatching } accepted = handedOff rec accepted := by
  cases accepted <;> rfl

theorem insert_dispatched (r : Record D) : (s.dispatched g rec).records.insert g.request r =
    s.records.insert g.request r := FinMap.insert_insert _ _ _ _

theorem handoffEnd_dispatched_none (hentry : s.grants.find? g.id = none) :
    (s.dispatched g rec).handoffEnd g accepted =
      ({ s with records := s.records.insert g.request (handedOff rec accepted) }, false,
        [.fabricRevoke g]) := by
  have hnone : (s.dispatched g rec).grants.find? g.id = none := by
    simp [dispatched, FinMap.find?_modify, hentry]
  rcases (s.dispatched g rec).handoffEnd_cases g accepted with
    ⟨habsent, -⟩ | ⟨rec', hfind, ⟨-, hend⟩ | ⟨gs, hsome, -⟩⟩
  · rw [find?_dispatched] at habsent
    cases habsent
  · rw [find?_dispatched] at hfind
    cases hfind
    rw [hend, landed_dispatching, insert_dispatched]
    simp only [dispatched, FinMap.modify_of_none _ hentry]
  · rw [hnone] at hsome
    cases hsome

theorem handoffEnd_dispatched_some {gs : GrantState} (hentry : s.grants.find? g.id = some gs) :
    (s.dispatched g rec).handoffEnd g accepted =
      ({ s with
          records := s.records.insert g.request (handedOff rec accepted)
          grants := s.grants.insert g.id
            { gs with handedOff := true, grant := g, active := accepted }
          activeGrants := if accepted then s.activeGrants + 1 else s.activeGrants
          activeByParticipant :=
            if accepted then s.activeByParticipant.indexActiveGrant g
            else s.activeByParticipant }, accepted,
        if accepted then [] else [.fabricRevoke g]) := by
  have hsome : (s.dispatched g rec).grants.find? g.id =
      some { gs with handedOff := true, grant := g } := FinMap.find?_modify_self _ hentry
  have hgrants : ∀ gs' : GrantState, (s.dispatched g rec).grants.insert g.id gs' =
      s.grants.insert g.id gs' := by
    intro gs'
    simp only [dispatched, FinMap.modify_eq_insert _ hentry, FinMap.insert_insert]
  rcases (s.dispatched g rec).handoffEnd_cases g accepted with
    ⟨habsent, -⟩ | ⟨rec', hfind, ⟨hnone, -⟩ | ⟨gs', hsome', hcase⟩⟩
  · rw [find?_dispatched] at habsent
    cases habsent
  · rw [hsome] at hnone
    cases hnone
  · rw [find?_dispatched] at hfind
    rw [hsome] at hsome'
    cases hfind
    cases hsome'
    rw [landed_dispatching] at hcase
    rcases hcase with ⟨hactive, hend⟩ | ⟨hactive, hend⟩ <;> rw [hend]
    · cases accepted with
      | false => cases hactive
      | true =>
          simp only [activated, insert_dispatched, hgrants]
          rfl
    · cases accepted with
      | true => exact absurd rfl hactive
      | false =>
          simp only [insert_dispatched, hgrants]
          rfl

end Dispatched

/-- An atomic `handoff` changes nothing, or moves a GRANTED record of the grant's
own generation and marks the entry of the grant, if there is one. -/
theorem handoff_cases (s : Scheduler D) (g : CollectiveGrant) (accepted : Bool) :
    ((s.handoff g accepted).1 = s ∧ (s.handoff g accepted).2.1 = false) ∨
    (∃ rec, s.records.find? g.request = some rec ∧ s.revalidateGrant g = .valid ∧
      rec.lifecycle = .granted ∧ rec.request.gen = g.requestGen ∧
      ((s.grants.find? g.id = none ∧
          (s.handoff g accepted).1 =
            { s with records := s.records.insert g.request (handedOff rec accepted) } ∧
          (s.handoff g accepted).2.1 = false) ∨
        ∃ gs, s.grants.find? g.id = some gs ∧ (s.handoff g accepted).2.1 = accepted ∧
          (s.handoff g accepted).1 =
            { s with
              records := s.records.insert g.request (handedOff rec accepted)
              grants := s.grants.insert g.id
                { gs with handedOff := true, grant := g, active := accepted }
              activeGrants := if accepted then s.activeGrants + 1 else s.activeGrants
              activeByParticipant :=
                if accepted then s.activeByParticipant.indexActiveGrant g
                else s.activeByParticipant })) := by
  obtain ⟨hstate, hanswer⟩ := s.handoff_eq g accepted
  rcases s.handoffBegin_cases g with heq | ⟨rec, hfind, hvalid, hgranted, hgen, heq⟩
  · rw [heq] at hstate hanswer
    exact .inl ⟨hstate, hanswer⟩
  · rw [heq] at hstate hanswer
    simp only at hstate hanswer
    refine .inr ⟨rec, hfind, hvalid, hgranted, hgen, ?_⟩
    cases hentry : s.grants.find? g.id with
    | none =>
        rw [handoffEnd_dispatched_none rec accepted hentry] at hstate hanswer
        exact .inl ⟨rfl, hstate, hanswer⟩
    | some gs =>
        rw [handoffEnd_dispatched_some rec accepted hentry] at hstate hanswer
        exact .inr ⟨gs, rfl, hanswer, hstate⟩

theorem handoff_of_not_dispatches {s : Scheduler D} {g : CollectiveGrant}
    (h : ¬s.Dispatches g) (accepted : Bool) : s.handoff g accepted = (s, false, []) := by
  simp only [handoff, handoffBegin_of_not_dispatches h]

/-- What an atomic `handoff` does once it is past its checks: the fabric is asked, the
record moves, and the answer is the fabric's if the grant has an entry. -/
theorem handoff_of_dispatches {s : Scheduler D} {g : CollectiveGrant} (h : s.Dispatches g)
    (accepted : Bool) :
    ∃ rec, s.records.find? g.request = some rec ∧ rec.lifecycle = .granted ∧
      (s.handoff g accepted).1.records =
        s.records.insert g.request (handedOff rec accepted) ∧
      (s.handoff g accepted).2.1 = (accepted && (s.grants.find? g.id).isSome) ∧
      PortCall.fabricAccept g ∈ (s.handoff g accepted).2.2 := by
  obtain ⟨rec, hfind, hgranted, hbegin⟩ := handoffBegin_of_dispatches h
  refine ⟨rec, hfind, hgranted, ?_⟩
  simp only [handoff, hbegin]
  cases hentry : s.grants.find? g.id with
  | none =>
      rw [handoffEnd_dispatched_none rec accepted hentry]
      exact ⟨rfl, (Bool.and_false _).symm, List.mem_cons_self⟩
  | some gs =>
      rw [handoffEnd_dispatched_some rec accepted hentry]
      exact ⟨rfl, (Bool.and_true _).symm, List.mem_cons_self⟩

/-! ## Completion -/

/-- The record `complete` leaves behind. -/
def completedRecord (rec : Record D) : Record D :=
  { rec with
    lifecycle := .completed
    currentGrant := rec.currentGrant.map (fun cur => { cur with active := false }) }

/-- The state after a successful `complete`. -/
def completed (s : Scheduler D) (g : CollectiveGrant) (wb : WorkerBootId) (sb : SourceBootId)
    (rec : Record D) (gs : GrantState) : Scheduler D :=
  { s with
    records := s.records.insert g.request (completedRecord rec)
    grants := s.grants.insert g.id
      { gs with terminal := true, active := false, completedBy := wb, completedBySource := sb }
    activeByParticipant := s.activeByParticipant.deindexActiveGrant g
    activeGrants := s.activeGrants - 1 }

/-- What the checks of `complete` establish. -/
theorem completionAllowed_iff {s : Scheduler D} {g : CollectiveGrant} {wb : WorkerBootId}
    {sb : SourceBootId} {rec : Record D} {gs : GrantState} :
    s.completionAllowed g wb sb rec gs = true ↔
      gs.terminal = false ∧ g.evidence.epoch = s.epoch ∧
      (rec.lifecycle = .active ∨ rec.lifecycle = .dispatching) ∧
      (∃ cur, rec.currentGrant = some cur ∧ cur.id = g.id ∧ cur.gen = g.gen) ∧
      rec.request.gen = g.requestGen ∧ rec.request.collectiveGen = g.collectiveGen ∧
      (∀ e ∈ g.participants.zipIdx, s.participantCurrent g.participantGens e.1 e.2 = true) ∧
      s.bootMatches g.participants wb sb = true := by
  simp only [completionAllowed, Bool.and_eq_true, Bool.not_eq_true', Bool.or_eq_true,
    decide_eq_true_eq, List.all_eq_true, Option.any_eq_true, and_assoc]

/-- `complete` changes nothing and returns false, or completes an ACTIVE record. -/
theorem complete_cases (s : Scheduler D) (g : CollectiveGrant) (wb : WorkerBootId)
    (sb : SourceBootId) :
    s.complete g wb sb = (s, false, []) ∨
    (∃ rec gs, s.records.find? g.request = some rec ∧ s.grants.find? g.id = some gs ∧
      s.completionAllowed g wb sb rec gs = true ∧ rec.lifecycle = .active ∧
      s.complete g wb sb =
        (s.completed g wb sb rec gs, true, [.brokerRelease rec.request.workload])) := by
  unfold complete
  cases hfind : s.records.find? g.request with
  | none => exact .inl rfl
  | some rec =>
      cases hentry : s.grants.find? g.id with
      | none => exact .inl rfl
      | some gs =>
          simp only
          cases hallowed : s.completionAllowed g wb sb rec gs with
          | false => exact .inl rfl
          | true =>
              simp only [Bool.not_true, Bool.false_eq_true, if_false]
              cases htransition : rec.lifecycle.transition .completed with
              | error e => exact .inl rfl
              | ok st =>
                  obtain ⟨hcan, rfl⟩ := transition_ok_iff.mp htransition
                  have hactive : rec.lifecycle = .active := by
                    obtain ⟨-, -, hstate, -⟩ := completionAllowed_iff.mp hallowed
                    rcases canTransition_completed.mp hcan with h | h
                    · exact h
                    · rcases hstate with h' | h' <;> rw [h] at h' <;> cases h'
                  exact .inr ⟨rec, gs, rfl, rfl, hallowed, hactive, rfl⟩

/-! ## Fencing -/

theorem fenceHit_records (s : Scheduler D) (rid : CollectiveRequestId) (rec : Record D) :
    (s.fenceHit rid rec).records = s.records.insert rid rec.demandRevalidation := by
  unfold fenceHit
  cases rec.currentGrant with
  | none => rfl
  | some g => exact revokeGrant_records _ _

/-- A fence does not move a participant to another worker or boot. -/
theorem hostedBy_fenceParticipants (s : Scheduler D) (worker worker' : WorkerId)
    (boot boot' : WorkerBootId) (pid : ParticipantId) :
    (s.fenceParticipants worker boot).hostedBy worker' boot' pid =
      s.hostedBy worker' boot' pid := by
  simp only [hostedBy, Scheduler.fenceParticipants, FinMap.find?_mapVals]
  cases s.participants.find? pid with
  | none => rfl
  | some p =>
      simp only [Option.map_some, Option.any_some]
      split_ifs <;> rfl

/-- What holds after the participants were fenced and is kept by every hit holds
after the whole fence. -/
theorem fenceWorkerBoot_induct {P : Scheduler D → Prop} {s : Scheduler D} {worker : WorkerId}
    {boot : WorkerBootId} (recordOrder : List CollectiveRequestId)
    (hstart : P (s.fenceParticipants worker boot))
    (hhit : ∀ t rid rec pid, t.records.find? rid = some rec →
      rec.lifecycle.isTerminalState = false → pid ∈ rec.request.participants →
      t.hostedBy worker boot pid = true → P t → P (t.fenceHit rid rec)) :
    P (s.fenceWorkerBoot worker boot recordOrder) := by
  -- the inner loop, with what the record keeps while it runs
  have hinner : ∀ (pids : List ParticipantId) (t : Scheduler D) rid rec,
      t.records.find? rid = some rec → rec.lifecycle.isTerminalState = false →
      (∀ pid ∈ pids, pid ∈ rec.request.participants) → P t →
      P (pids.foldl (fenceStep worker boot rid) t) := by
    intro pids
    induction pids with
    | nil => intro t rid rec _ _ _ ht; exact ht
    | cons pid rest ih =>
        intro t rid rec hfind hterminal hpids ht
        rw [List.foldl_cons]
        by_cases hhost : t.hostedBy worker boot pid = true
        · have hone : fenceStep worker boot rid t pid = t.fenceHit rid rec := by
            simp only [fenceStep, hfind, hhost, if_true]
          rw [hone]
          refine ih _ rid rec.demandRevalidation ?_ (demandRevalidation_terminal hterminal) ?_
            (hhit t rid rec pid hfind hterminal (hpids pid List.mem_cons_self) hhost ht)
          · rw [fenceHit_records, FinMap.find?_insert_self]
          · intro pid' hpid'
            rw [(demandRevalidation_frame rec).1]
            exact hpids pid' (List.mem_cons_of_mem _ hpid')
        · have hone : fenceStep worker boot rid t pid = t := by
            simp only [fenceStep, hfind, hhost]
            rfl
          rw [hone]
          exact ih t rid rec hfind hterminal
            (fun pid' hpid' => hpids pid' (List.mem_cons_of_mem _ hpid')) ht
  unfold fenceWorkerBoot
  generalize s.records.iteration recordOrder = rids
  generalize s.fenceParticipants worker boot = t at hstart
  induction rids generalizing t with
  | nil => exact hstart
  | cons rid rest ih =>
      rw [List.foldl_cons]
      refine ih _ ?_
      unfold fenceRecord
      split
      · exact hstart
      · rename_i rec hfind
        split_ifs with hterminal
        · exact hstart
        · exact hinner _ t rid rec hfind (by simpa using hterminal) (fun _ h => h) hstart

end Scheduler

end CollectiveScheduler
