/-
  System/EvidenceStep.lean --- which calls touch the published evidence.

  Participants, plans, dependencies, reservations, congestion and capacity change by
  publications, fences and the reset only, the policy and the clock by their own calls, and
  the index of the requests of a participant grows until a reset.  The evidence is one
  value, so that a call which leaves it alone does so by one equation.
-/
import CollectiveScheduler.System.RecordStep

set_option autoImplicit false

namespace CollectiveScheduler

open Foundation

variable {D : Type}

/-- The evidence of a scheduler, with the generations stored beside it. -/
structure Evidence (D : Type) where
  participants : FinMap ParticipantId Participant
  plans : FinMap CommunicationPlanId (CommunicationPlan D)
  deps : FinMap DependencyId DependencyState
  reservations : FinMap ReservationGeneration (Reservation D)
  congestion : Option (CongestionState D)
  capacity : Option (CapacityState D)
  capacityGen : CapacityGeneration
  congestionGen : CongestionGeneration
  reservationGen : ReservationGeneration
  deriving DecidableEq

namespace Scheduler

def evidence (s : Scheduler D) : Evidence D where
  participants := s.participants
  plans := s.plans
  deps := s.deps
  reservations := s.reservations
  congestion := s.congestion
  capacity := s.capacity
  capacityGen := s.capacityGen
  congestionGen := s.congestionGen
  reservationGen := s.reservationGen

/-- What a round reads besides records and grants: the evidence and the policy. -/
def background (s : Scheduler D) : Evidence D × PolicyConfig D := (s.evidence, s.policy)

/-- What stays as it is when records and grants are rewritten. -/
structure Setting (D : Type) where
  background : Evidence D × PolicyConfig D
  now : Nanoseconds
  participantRequests : FinMap ParticipantId (OrdSet CollectiveRequestId)

def setting (s : Scheduler D) : Setting D where
  background := s.background
  now := s.now
  participantRequests := s.participantRequests

theorem evidence_of_setting {s t : Scheduler D} (h : t.setting = s.setting) :
    t.evidence = s.evidence :=
  congrArg (fun x => x.background.1) h

/-! ## The operations that leave it alone -/

@[simp] theorem setting_revokeGrant (s : Scheduler D) (gid : CollectiveGrantId) :
    (s.revokeGrant gid).setting = s.setting := by
  rw [revokeGrant_eq]
  rfl

theorem setting_cancel (s : Scheduler D) (id : CollectiveRequestId) :
    (s.cancel id).1.setting = s.setting := by
  rcases s.cancel_cases id with heq | ⟨rec, -, -, ⟨-, heq⟩ | ⟨g, gs, -, heq⟩⟩ <;> rw [heq] <;> rfl

theorem setting_handoffBegin (s : Scheduler D) (g : CollectiveGrant) :
    (s.handoffBegin g).1.setting = s.setting := by
  rcases s.handoffBegin_cases g with heq | ⟨rec, -, -, -, -, heq⟩
  · rw [heq]
  · rw [heq]
    rfl

theorem setting_handoffEnd (s : Scheduler D) (gc : CollectiveGrant) (accepted : Bool) :
    (s.handoffEnd gc accepted).1.setting = s.setting := by
  rcases s.handoffEnd_cases gc accepted with
    ⟨-, heq⟩ | ⟨rec, -, ⟨-, heq⟩ | ⟨gs, -, ⟨-, heq⟩ | ⟨-, heq⟩⟩⟩ <;> rw [heq] <;> rfl

theorem setting_handoff (s : Scheduler D) (g : CollectiveGrant) (accepted : Bool) :
    (s.handoff g accepted).1.setting = s.setting := by
  rw [(s.handoff_eq g accepted).1]
  cases (s.handoffBegin g).2 with
  | none => exact s.setting_handoffBegin g
  | some gc =>
      simp only
      rw [setting_handoffEnd, setting_handoffBegin]

theorem setting_complete (s : Scheduler D) (g : CollectiveGrant) (wb : WorkerBootId)
    (sb : SourceBootId) : (s.complete g wb sb).1.setting = s.setting := by
  rcases s.complete_cases g wb sb with heq | ⟨rec, gs, -, -, -, -, heq⟩
  · rw [heq]
  · rw [heq]
    rfl

theorem setting_createGrants (dec : ScheduleDecision D) (ids : List CollectiveRequestId)
    (s : Scheduler D) : (createGrants dec s ids).1.setting = s.setting :=
  createGrants_keeps (P := fun t => t.setting = s.setting) dec ids
    (fun _ _ _ _ _ _ _ ht => ht) rfl

/-- A fence takes the readiness from the participants it fences, and leaves the rest of
the setting alone. -/
theorem setting_fenceWorkerBoot (s : Scheduler D) (worker : WorkerId) (boot : WorkerBootId)
    (recordOrder : List CollectiveRequestId) :
    (s.fenceWorkerBoot worker boot recordOrder).setting =
      (s.fenceParticipants worker boot).setting := by
  refine fenceWorkerBoot_induct
    (P := fun t => t.setting = (s.fenceParticipants worker boot).setting) recordOrder rfl ?_
  intro t rid rec pid _ _ _ _ ht
  rw [← ht]
  unfold fenceHit
  simp only
  cases rec.currentGrant with
  | none => rfl
  | some g =>
      rw [setting_revokeGrant]
      rfl

theorem setting_releaseForSupersede (s : Scheduler D) (grant : Option CollectiveGrant) :
    (s.releaseForSupersede grant).setting = s.setting := by
  cases grant with
  | none => rfl
  | some g => exact s.setting_revokeGrant g.id

section Calls

variable [Double D]

theorem background_submit (s : Scheduler D) (req : CollectiveRequest D) :
    (s.submit req).1.background = s.background := by
  rcases s.submit_cases req with ⟨next, e, heq⟩ | ⟨-, -, heq⟩ <;> rw [heq] <;> rfl

theorem background_supersede (s : Scheduler D) (req : CollectiveRequest D) :
    (s.supersede req).1.background = s.background := by
  rcases s.supersede_cases req with ⟨e, heq⟩ | ⟨old, -, -, -, heq⟩
  · rw [heq]
  · rw [heq]
    exact congrArg Setting.background (s.setting_releaseForSupersede old.currentGrant)

theorem setting_refreshRecords (ids cands : List CollectiveRequestId) (s : Scheduler D) :
    (s.refreshRecords ids cands).1.setting = s.setting := by
  induction ids generalizing s cands with
  | nil => rfl
  | cons id rest ih =>
      unfold refreshRecords
      split
      · exact ih cands s
      · simp only
        split
        · rfl
        · exact ih _ _
        · exact ih _ _

theorem setting_scheduleRound (s : Scheduler D) (recordOrder : List CollectiveRequestId)
    (grantOrder : List CollectiveGrantId) :
    (s.scheduleRound recordOrder grantOrder).1.setting = s.setting := by
  cases hround : s.scheduleRound recordOrder grantOrder with
  | mk s' result =>
      cases result with
      | error e =>
          have hpass := setting_refreshRecords
            (s.consumeScheduleId.records.iteration recordOrder) [] s.consumeScheduleId
          unfold scheduleRound at hround
          simp only at hround
          split at hround
          · rename_i heq
            cases hround
            rw [heq] at hpass
            exact hpass
          · cases hround
      | ok result =>
          rw [(scheduleRound_ok hround).state]
          have hgroup : ∀ (t : Scheduler D) (ids : List CollectiveRequestId),
              (t.overlapGroup ids).1.setting = t.setting := by
            intro t ids
            unfold overlapGroup
            split_ifs <;> rfl
          exact (hgroup _ _).trans (setting_createGrants _ _ _)

theorem scheduleRound_evidence {s s' : Scheduler D} {recordOrder : List CollectiveRequestId}
    {grantOrder : List CollectiveGrantId}
    {result : Except SchedulerError (ScheduleDecision D × List CollectiveGrant)}
    (h : s.scheduleRound recordOrder grantOrder = (s', result)) : s'.evidence = s.evidence := by
  have hsetting := s.setting_scheduleRound recordOrder grantOrder
  rw [h] at hsetting
  exact evidence_of_setting hsetting

end Calls

end Scheduler

/-! ## Every call -/

/-- The calls that change evidence. -/
def Op.isEvidence : Op D → Bool
  | .publishParticipant _ => true
  | .publishPlan _ => true
  | .publishDependency _ => true
  | .publishReservation _ => true
  | .publishCongestion _ => true
  | .publishCapacity _ => true
  | .fenceWorkerBoot _ _ _ => true
  | .resetDynamicStateForRecovery => true
  | _ => false

/-- The call sets the policy. -/
def Op.isSetPolicy : Op D → Bool
  | .setPolicy _ => true
  | _ => false

/-- The call leaves the setting alone, whatever it does to records and grants. -/
def Op.keepsSetting : Op D → Bool
  | .cancel _ => true
  | .advanceCoordinatorEpoch _ => true
  | .schedule _ _ => true
  | .handoff _ _ => true
  | .handoffBegin _ => true
  | .handoffEnd _ _ => true
  | .complete _ _ _ => true
  | _ => false

theorem System.setting_next [Double D] (y : System D) {op : Op D} (hop : op.keepsSetting = true) :
    (y.next op).sched.setting = y.sched.setting := by
  cases op with
  | cancel id => exact y.sched.setting_cancel id
  | advanceCoordinatorEpoch epoch =>
      change (y.sched.advanceCoordinatorEpoch epoch).1.setting = y.sched.setting
      unfold Scheduler.advanceCoordinatorEpoch
      split_ifs <;> rfl
  | schedule recordOrder grantOrder =>
      rw [sched_next_schedule]
      exact y.sched.setting_scheduleRound recordOrder grantOrder
  | handoff g accepted => exact y.sched.setting_handoff g accepted
  | handoffBegin g =>
      rw [sched_next_handoffBegin]
      exact y.sched.setting_handoffBegin g
  | handoffEnd g accepted =>
      rw [sched_next_handoffEnd]
      split_ifs
      · exact y.sched.setting_handoffEnd g accepted
      · rfl
  | complete g wb sb => exact y.sched.setting_complete g wb sb
  | _ => cases hop

theorem System.background_next [Double D] (y : System D) {op : Op D}
    (hop : op.isEvidence = false) (hpolicy : op.isSetPolicy = false) :
    (y.next op).sched.background = y.sched.background := by
  by_cases hkeeps : op.keepsSetting = true
  · exact congrArg Scheduler.Setting.background (y.setting_next hkeeps)
  cases op with
  | submit req => exact y.sched.background_submit req
  | supersede req => exact y.sched.background_supersede req
  | advanceTime d => rfl
  | setPolicy cfg => cases hpolicy
  | _ => first | exact absurd rfl hkeeps | cases hop

theorem System.evidence_next [Double D] (y : System D) {op : Op D} (hop : op.isEvidence = false) :
    (y.next op).sched.evidence = y.sched.evidence := by
  cases hpolicy : op.isSetPolicy with
  | false => exact congrArg Prod.fst (y.background_next hop hpolicy)
  | true =>
      cases op with
      | setPolicy cfg => rfl
      | _ => cases hpolicy

/-! ## Policy, clock and index -/

/-- The one call that takes everything back. -/
def Op.isReset : Op D → Bool
  | .resetDynamicStateForRecovery => true
  | _ => false

/-- A change of evidence leaves the policy and the clock alone, and only the reset takes
anything from the index. -/
theorem System.evidence_frame [Double D] (y : System D) {op : Op D} (hop : op.isEvidence = true) :
    (y.next op).sched.policy = y.sched.policy ∧ (y.next op).sched.now = y.sched.now ∧
      (op.isReset = false → ∀ p id, y.sched.participantRequests.Indexes p id →
        (y.next op).sched.participantRequests.Indexes p id) := by
  have hkept : ∀ {s : Scheduler D}, s.policy = y.sched.policy → s.now = y.sched.now →
      s.participantRequests = y.sched.participantRequests →
      s.policy = y.sched.policy ∧ s.now = y.sched.now ∧
        (op.isReset = false → ∀ p id, y.sched.participantRequests.Indexes p id →
          s.participantRequests.Indexes p id) :=
    fun hpolicy hnow hindex => ⟨hpolicy, hnow, fun _ p id h => hindex ▸ h⟩
  cases op with
  | publishParticipant p =>
      change (y.sched.publishParticipant p).1.policy = _ ∧
        (y.sched.publishParticipant p).1.now = _ ∧ (_ → ∀ _ _, _ →
          (y.sched.publishParticipant p).1.participantRequests.Indexes _ _)
      unfold Scheduler.publishParticipant
      split_ifs
      · exact hkept rfl rfl rfl
      all_goals exact ⟨rfl, rfl, fun _ q id h => FinMap.indexes_emplace_empty.mpr h⟩
  | publishPlan pl =>
      change (y.sched.publishPlan pl).1.policy = _ ∧ (y.sched.publishPlan pl).1.now = _ ∧
        (_ → ∀ _ _, _ → (y.sched.publishPlan pl).1.participantRequests.Indexes _ _)
      unfold Scheduler.publishPlan
      split_ifs <;> exact hkept rfl rfl rfl
  | publishDependency dep =>
      change (y.sched.publishDependency dep).1.policy = _ ∧
        (y.sched.publishDependency dep).1.now = _ ∧
        (_ → ∀ _ _, _ → (y.sched.publishDependency dep).1.participantRequests.Indexes _ _)
      unfold Scheduler.publishDependency
      split_ifs <;> exact hkept rfl rfl rfl
  | publishReservation res => exact hkept rfl rfl rfl
  | publishCongestion cong =>
      change (y.sched.publishCongestion cong).1.policy = _ ∧
        (y.sched.publishCongestion cong).1.now = _ ∧
        (_ → ∀ _ _, _ → (y.sched.publishCongestion cong).1.participantRequests.Indexes _ _)
      unfold Scheduler.publishCongestion
      split_ifs <;> exact hkept rfl rfl rfl
  | publishCapacity cap =>
      change (y.sched.publishCapacity cap).1.policy = _ ∧ (y.sched.publishCapacity cap).1.now = _ ∧
        (_ → ∀ _ _, _ → (y.sched.publishCapacity cap).1.participantRequests.Indexes _ _)
      unfold Scheduler.publishCapacity
      split_ifs <;> exact hkept rfl rfl rfl
  | fenceWorkerBoot worker boot recordOrder =>
      have hsetting := y.sched.setting_fenceWorkerBoot worker boot recordOrder
      exact hkept (congrArg (fun x => x.background.2) hsetting)
        (congrArg Scheduler.Setting.now hsetting)
        (congrArg Scheduler.Setting.participantRequests hsetting)
  | resetDynamicStateForRecovery => exact ⟨rfl, rfl, fun h => by cases h⟩
  | _ => cases hop

/-- Only `set_policy` changes the policy. -/
theorem System.policy_next [Double D] (y : System D) {op : Op D}
    (hpolicy : op.isSetPolicy = false) : (y.next op).sched.policy = y.sched.policy := by
  cases hop : op.isEvidence with
  | false => exact congrArg Prod.snd (y.background_next hop hpolicy)
  | true => exact (y.evidence_frame hop).1

/-- What a call adds to the clock. -/
def Op.elapsed : Op D → Nanoseconds
  | .advanceTime d => d
  | _ => 0

theorem System.now_next [Double D] (y : System D) (op : Op D) :
    (y.next op).sched.now = y.sched.now + op.elapsed := by
  have hstill : ∀ {now : Nanoseconds}, now = y.sched.now → now = y.sched.now + 0 :=
    fun h => h.trans (UInt64.add_zero _).symm
  cases hop : op.isEvidence with
  | true =>
      have helapsed : op.elapsed = 0 := by
        cases op <;> first | rfl | cases hop
      rw [helapsed]
      exact hstill (y.evidence_frame hop).2.1
  | false =>
      by_cases hkeeps : op.keepsSetting = true
      · have helapsed : op.elapsed = 0 := by
          cases op <;> first | rfl | cases hkeeps
        rw [helapsed]
        exact hstill (congrArg Scheduler.Setting.now (y.setting_next hkeeps))
      cases op with
      | submit req =>
          refine hstill ?_
          rw [sched_next_submit]
          rcases y.sched.submit_cases req with ⟨next, e, heq⟩ | ⟨-, -, heq⟩ <;> rw [heq]
      | supersede req =>
          refine hstill ?_
          change (y.sched.supersede req).1.now = y.sched.now
          rcases y.sched.supersede_cases req with ⟨e, heq⟩ | ⟨old, -, -, -, heq⟩ <;> rw [heq]
          exact congrArg Scheduler.Setting.now
            (y.sched.setting_releaseForSupersede old.currentGrant)
      | advanceTime d => rfl
      | setPolicy cfg => exact hstill rfl
      | _ => first | exact absurd rfl hkeeps | cases hop

/-- What the index has, it keeps until a reset. -/
theorem System.tracked_next [Double D] (y : System D) {op : Op D} (hreset : op.isReset = false)
    {p : ParticipantId} {id : CollectiveRequestId} (h : y.sched.participantRequests.Indexes p id) :
    (y.next op).sched.participantRequests.Indexes p id := by
  cases hop : op.isEvidence with
  | true => exact (y.evidence_frame hop).2.2 hreset p id h
  | false =>
      by_cases hkeeps : op.keepsSetting = true
      · have hsame := congrArg Scheduler.Setting.participantRequests (y.setting_next hkeeps)
        change (y.next op).sched.participantRequests = y.sched.participantRequests at hsame
        rw [hsame]
        exact h
      cases op with
      | submit req =>
          rw [sched_next_submit]
          rcases y.sched.submit_cases req with ⟨next, e, heq⟩ | ⟨-, -, heq⟩ <;> rw [heq]
          · exact h
          · exact FinMap.indexes_foldl_insert.mpr (.inl h)
      | supersede req =>
          change (y.sched.supersede req).1.participantRequests.Indexes p id
          rcases y.sched.supersede_cases req with ⟨e, heq⟩ | ⟨old, -, -, -, heq⟩ <;> rw [heq]
          · exact h
          · have hsame := congrArg Scheduler.Setting.participantRequests
              (y.sched.setting_releaseForSupersede old.currentGrant)
            refine FinMap.indexes_foldl_insert.mpr (.inl ?_)
            change (y.sched.releaseForSupersede old.currentGrant).participantRequests =
              y.sched.participantRequests at hsame
            rw [hsame]
            exact h
      | advanceTime d => exact h
      | setPolicy cfg => exact h
      | _ => first | exact absurd rfl hkeeps | cases hop

/-! ## The steps of the evidence -/

/-- What a call does to the evidence: a publication that is not refused stores what it
offers, a fence takes readiness, and a reset forgets everything. -/
inductive Evidence.Step (e : Evidence D) : Op D → Evidence D → Prop
  | same (op : Op D) : Step e op e
  | participant {p : Participant}
      (h : ∀ old, e.participants.find? p.id = some old → old.gen ≤ p.gen) :
      Step e (.publishParticipant p) { e with participants := e.participants.insert p.id p }
  | plan {pl : CommunicationPlan D}
      (h : ∀ old, e.plans.find? pl.id = some old → old.gen ≤ pl.gen) :
      Step e (.publishPlan pl) { e with plans := e.plans.insert pl.id pl }
  | dependency {dep : DependencyState}
      (h : ∀ old, e.deps.find? dep.id = some old → old.gen ≤ dep.gen) :
      Step e (.publishDependency dep) { e with deps := e.deps.insert dep.id dep }
  | reservation (res : Reservation D) :
      Step e (.publishReservation res)
        { e with reservations := e.reservations.insert res.gen res, reservationGen := res.gen }
  | congestion {cong : CongestionState D}
      (h : ∀ old, e.congestion = some old → old.gen ≤ cong.gen) :
      Step e (.publishCongestion cong)
        { e with congestionGen := cong.gen, congestion := some cong }
  | capacity {cap : CapacityState D}
      (h : ∀ old, e.capacity = some old → old.gen ≤ cap.gen) :
      Step e (.publishCapacity cap) { e with capacityGen := cap.gen, capacity := some cap }
  | fence (worker : WorkerId) (boot : WorkerBootId) (recordOrder : List CollectiveRequestId) :
      Step e (.fenceWorkerBoot worker boot recordOrder)
        { e with participants := e.participants.mapVals (fun _ p =>
            if p.worker = worker ∧ p.workerBoot = boot then
              { p with ready := false, readinessSource := .unknown }
            else p) }
  | reset : Step e .resetDynamicStateForRecovery
      ⟨.empty, .empty, .empty, .empty, none, none, 0, 0, 0⟩

/-- A publication that passes its check offers no smaller generation. -/
theorem le_of_not_regresses {V G : Type} [LinearOrder G] {found : Option V} {gen : V → G}
    {offered : G} (h : ¬(found.any fun old => offered < gen old) = true) :
    ∀ old, found = some old → gen old ≤ offered := by
  rintro old rfl
  simpa using h

theorem Scheduler.participantRegresses_eq (s : Scheduler D) (p : Participant) :
    s.participantRegresses p = (s.participants.find? p.id).any fun old => p.gen < old.gen := by
  unfold participantRegresses
  cases s.participants.find? p.id <;> rfl

theorem System.evidenceStep [Double D] (y : System D) (op : Op D) :
    y.sched.evidence.Step op (y.next op).sched.evidence := by
  cases hop : op.isEvidence with
  | false =>
      rw [y.evidence_next hop]
      exact .same op
  | true =>
      cases op with
      | publishParticipant p =>
          change Evidence.Step _ _ (y.sched.publishParticipant p).1.evidence
          rw [Scheduler.publishParticipant, Scheduler.participantRegresses_eq]
          split
          · exact .same _
          · rename_i hregress
            exact .participant (le_of_not_regresses hregress)
      | publishPlan pl =>
          change Evidence.Step _ _ (y.sched.publishPlan pl).1.evidence
          rw [Scheduler.publishPlan]
          split_ifs with hregress
          · exact .same _
          · exact .plan (le_of_not_regresses hregress)
      | publishDependency dep =>
          change Evidence.Step _ _ (y.sched.publishDependency dep).1.evidence
          rw [Scheduler.publishDependency]
          split_ifs with hregress
          · exact .same _
          · exact .dependency (le_of_not_regresses hregress)
      | publishReservation res => exact .reservation res
      | publishCongestion cong =>
          change Evidence.Step _ _ (y.sched.publishCongestion cong).1.evidence
          rw [Scheduler.publishCongestion]
          split_ifs with hregress
          · exact .same _
          · exact .congestion (le_of_not_regresses hregress)
      | publishCapacity cap =>
          change Evidence.Step _ _ (y.sched.publishCapacity cap).1.evidence
          rw [Scheduler.publishCapacity]
          split_ifs with hregress
          · exact .same _
          · exact .capacity (le_of_not_regresses hregress)
      | fenceWorkerBoot worker boot recordOrder =>
          change Evidence.Step _ _ (y.sched.fenceWorkerBoot worker boot recordOrder).evidence
          have hfence : (y.sched.fenceWorkerBoot worker boot recordOrder).evidence =
              (y.sched.fenceParticipants worker boot).evidence :=
            Scheduler.evidence_of_setting
              (y.sched.setting_fenceWorkerBoot worker boot recordOrder)
          rw [hfence]
          exact .fence worker boot recordOrder
      | resetDynamicStateForRecovery => exact .reset
      | _ => cases hop

/-- What a call can do to the participants: an accepted publication stores one, a
fence takes readiness, and a reset forgets them. -/
theorem System.participants_next [Double D] (y : System D) (op : Op D) :
    (y.next op).sched.participants = y.sched.participants ∨
    (∃ p, op = .publishParticipant p ∧ y.sched.participantRegresses p = false ∧
      (y.next op).sched.participants = y.sched.participants.insert p.id p) ∨
    (∃ worker boot recordOrder, op = .fenceWorkerBoot worker boot recordOrder ∧
      (y.next op).sched.participants = (y.sched.fenceParticipants worker boot).participants) ∨
    (op = .resetDynamicStateForRecovery ∧ (y.next op).sched.participants = .empty) := by
  have hstep := y.evidenceStep op
  generalize hafter : (y.next op).sched.evidence = after at hstep
  have hparticipants : (y.next op).sched.participants = after.participants :=
    congrArg Evidence.participants hafter
  rw [hparticipants]
  cases hstep with
  | participant hle =>
      refine .inr (.inl ⟨_, rfl, ?_, rfl⟩)
      rw [Scheduler.participantRegresses_eq, Option.any_eq_false_iff_get]
      intro hsome
      exact decide_eq_false (not_lt_of_ge (hle _ (Option.some_get hsome).symm))
  | fence worker boot recordOrder => exact .inr (.inr (.inl ⟨worker, boot, recordOrder, rfl, rfl⟩))
  | reset => exact .inr (.inr (.inr ⟨rfl, rfl⟩))
  | _ => exact .inl rfl

end CollectiveScheduler
