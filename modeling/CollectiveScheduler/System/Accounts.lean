/-
  System/Accounts.lean --- which calls touch the fairness accounts.

  Only the fairness pass of a round writes an account: it brings the accounts of the
  requests in its decision up to date.  A submission files a new one, and every other call
  keeps them; `supersede` hands the account of the old record to the new one.
-/
import CollectiveScheduler.System.EvidenceStep

set_option autoImplicit false

namespace CollectiveScheduler

open Foundation

variable {D : Type}

/-- The records have the same account. -/
def Record.SameAccount (rec rec' : Record D) : Prop := rec'.fairness = rec.fairness

theorem Record.SameAccount.refl (rec : Record D) : rec.SameAccount rec := rfl

theorem Record.SameAccount.trans (rec rec' rec'' : Record D) (h : rec.SameAccount rec')
    (h' : rec'.SameAccount rec'') : rec.SameAccount rec'' :=
  Eq.trans h' h

namespace Scheduler

/-- No record is added or removed, and each keeps its account. -/
def AccountsKept (s s' : Scheduler D) : Prop :=
  FinMap.Related Record.SameAccount s.records s'.records

namespace AccountsKept

variable {s s' s'' : Scheduler D}

theorem of_records (h : s'.records = s.records) : s.AccountsKept s' := by
  unfold AccountsKept
  rw [h]
  exact FinMap.Related.refl Record.SameAccount.refl s.records

theorem refl (s : Scheduler D) : s.AccountsKept s := of_records rfl

theorem trans (h : s.AccountsKept s') (h' : s'.AccountsKept s'') : s.AccountsKept s'' :=
  FinMap.Related.trans Record.SameAccount.trans h h'

/-- One record is replaced by another one with the same account. -/
theorem replace {id : CollectiveRequestId} {rec rec' : Record D}
    (hfind : s.records.find? id = some rec) (hrecords : s'.records = s.records.insert id rec')
    (hrec : rec.SameAccount rec') : s.AccountsKept s' := by
  unfold AccountsKept
  rw [hrecords]
  exact FinMap.Related.replace Record.SameAccount.refl hfind hrec

theorem demandRevalidation (rec : Record D) : rec.SameAccount rec.demandRevalidation := by
  unfold Record.SameAccount Record.demandRevalidation
  split_ifs <;> rfl

theorem publishParticipant (s : Scheduler D) (p : Participant) :
    s.AccountsKept (s.publishParticipant p).1 := by
  unfold Scheduler.publishParticipant
  split_ifs
  · exact refl s
  · refine FinMap.Related.modifyAll Record.SameAccount.refl Record.SameAccount.trans _ _
      fun _ rec => ?_
    unfold revalidateAgainst
    split_ifs
    · exact .refl rec
    · exact demandRevalidation rec
    · exact .refl rec
  · exact of_records rfl

theorem supersede [Double D] (s : Scheduler D) (req : CollectiveRequest D) :
    s.AccountsKept (s.supersede req).1 := by
  rcases s.supersede_cases req with ⟨e, heq⟩ | ⟨old, hfind, -, -, heq⟩ <;> rw [heq]
  · exact refl s
  · have hrecords : (s.releaseForSupersede old.currentGrant).records.insert req.id
        (supersedingRecord old req) = s.records.insert req.id (supersedingRecord old req) := by
      rw [releaseForSupersede_records]
    exact replace hfind hrecords rfl

theorem cancel (s : Scheduler D) (id : CollectiveRequestId) : s.AccountsKept (s.cancel id).1 := by
  rcases s.cancel_cases id with heq | ⟨rec, hfind, -, ⟨-, heq⟩ | ⟨g, gs, -, heq⟩⟩ <;> rw [heq]
  · exact refl s
  · exact replace hfind rfl rfl
  · exact replace hfind rfl rfl

theorem handoffBegin (s : Scheduler D) (g : CollectiveGrant) :
    s.AccountsKept (s.handoffBegin g).1 := by
  rcases s.handoffBegin_cases g with heq | ⟨rec, hfind, -, -, -, heq⟩ <;> rw [heq]
  · exact refl s
  · exact replace hfind rfl rfl

theorem handoffEnd (s : Scheduler D) (gc : CollectiveGrant) (accepted : Bool) :
    s.AccountsKept (s.handoffEnd gc accepted).1 := by
  rcases s.handoffEnd_cases gc accepted with
    ⟨-, heq⟩ | ⟨rec, hfind, ⟨-, heq⟩ | ⟨gs, -, ⟨-, heq⟩ | ⟨-, heq⟩⟩⟩ <;> rw [heq]
  · exact refl s
  · exact replace hfind rfl rfl
  · exact replace hfind rfl rfl
  · exact replace hfind rfl rfl

theorem handoff (s : Scheduler D) (g : CollectiveGrant) (accepted : Bool) :
    s.AccountsKept (s.handoff g accepted).1 := by
  rw [(s.handoff_eq g accepted).1]
  cases (s.handoffBegin g).2 with
  | none => exact handoffBegin s g
  | some gc => exact (handoffBegin s g).trans (handoffEnd _ gc accepted)

theorem complete (s : Scheduler D) (g : CollectiveGrant) (wb : WorkerBootId) (sb : SourceBootId) :
    s.AccountsKept (s.complete g wb sb).1 := by
  rcases s.complete_cases g wb sb with heq | ⟨rec, gs, hfind, -, -, -, heq⟩ <;> rw [heq]
  · exact refl s
  · exact replace hfind rfl rfl

theorem fenceWorkerBoot (s : Scheduler D) (worker : WorkerId) (boot : WorkerBootId)
    (recordOrder : List CollectiveRequestId) :
    s.AccountsKept (s.fenceWorkerBoot worker boot recordOrder) := by
  refine fenceWorkerBoot_induct (P := s.AccountsKept) recordOrder (of_records rfl) ?_
  intro t rid rec pid hfind _ _ _ ht
  exact ht.trans (replace hfind (fenceHit_records t rid rec) (demandRevalidation rec))

theorem reset (s : Scheduler D) : s.AccountsKept s.resetDynamicStateForRecovery := by
  have hrec : ∀ rec : Record D, rec.SameAccount rec.recover := fun _ => rfl
  exact FinMap.Related.mapVals (fun _ rec => hrec rec) s.records

theorem createGrants (dec : ScheduleDecision D) (ids : List CollectiveRequestId)
    (s : Scheduler D) : s.AccountsKept (Scheduler.createGrants dec s ids).1 := by
  refine createGrants_keeps (P := s.AccountsKept) dec ids ?_ (refl s)
  intro t id rec rec' _ hfind hpromote ht
  refine ht.trans (replace hfind rfl ?_)
  rw [promoteToGranted_ok hpromote]
  exact .refl rec

theorem refreshed [Double D] (s : Scheduler D) : s.AccountsKept s.refreshed := by
  have hrec : ∀ rec : Record D, rec.SameAccount (s.refreshRecord rec).1 :=
    fun rec => (s.refreshRecord_frame rec).2.2.2
  exact FinMap.Related.mapVals (fun _ rec => hrec rec) s.records

end AccountsKept

/-! ## The round -/

section Round

variable [Double D] {s s' : Scheduler D} {recordOrder : List CollectiveRequestId}
  {grantOrder : List CollectiveGrantId} {dec : ScheduleDecision D}

/-- The account of a request after a decision. -/
def accountAfter (p : PolicyConfig D) (dec : ScheduleDecision D) (id : CollectiveRequestId)
    (f : FairnessAccount D) : FairnessAccount D :=
  if id ∈ dec.selected then accountRound p true f
  else if id ∈ dec.fallback then accountRound p false f
  else f

/-- A round brings the accounts of the requests in its decision up to date. -/
theorem schedule_accounts (hkeyed : s.Keyed)
    (h : s.schedule recordOrder grantOrder = (s', .ok dec)) (id : CollectiveRequestId) :
    Option.Rel (fun rec rec' : Record D =>
        rec'.fairness = accountAfter s.policy dec id rec.fairness)
      (s.records.find? id) (s'.records.find? id) := by
  have hcandidate : id ∈ s.candidates recordOrder ↔ id ∈ dec.selected ∨ id ∈ dec.fallback := by
    rw [mem_decision_iff hkeyed h, mem_candidates_iff hkeyed]
  have hkept := (AccountsKept.refreshed s).trans
    (.createGrants s.openDecision dec.selected s.refreshed)
  have hpolicy : (createGrants s.openDecision s.refreshed dec.selected).1.policy = s.policy :=
    congrArg (fun c : Setting D => c.background.2) (setting_createGrants _ _ s.refreshed)
  have hrel := hkept id
  rw [schedule_state h, ← schedule_selected h,
    find?_accountFairness _ _ (nodup_candidates hkeyed recordOrder), overlapGroup_records,
    (overlapGroup_frame _ _).1, hpolicy]
  generalize s.records.find? id = before at hrel ⊢
  generalize (createGrants s.openDecision s.refreshed dec.selected).1.records.find? id = after
    at hrel ⊢
  cases hrel with
  | none => exact .none
  | @some rec rec' hrec =>
      refine .some ?_
      change (if id ∈ s.candidates recordOrder then
        accountRound s.policy (id ∈ dec.selected) rec'.fairness else rec'.fairness) = _
      have haccount : rec'.fairness = rec.fairness := hrec
      unfold accountAfter
      by_cases hselected : id ∈ dec.selected
      · rw [if_pos (hcandidate.mpr (.inl hselected)), if_pos hselected, haccount,
          decide_eq_true hselected]
      · rw [if_neg hselected, decide_eq_false hselected, haccount]
        by_cases hfallback : id ∈ dec.fallback
        · rw [if_pos (hcandidate.mpr (.inr hfallback)), if_pos hfallback]
        · rw [if_neg (fun hmem => (hcandidate.mp hmem).elim hselected hfallback),
            if_neg hfallback]

/-- After a round that selects nothing, an eligible request is READY. -/
theorem find?_schedule_of_empty (horderly : s.Orderly)
    (h : s.schedule recordOrder grantOrder = (s', .ok dec)) (hempty : dec.selected = [])
    {id : CollectiveRequestId} {rec : Record D} (hfind : s.records.find? id = some rec)
    (heligible : s.eligible rec = true) :
    ∃ rec', s'.records.find? id = some rec' ∧ rec'.request = rec.request ∧
      rec'.lifecycle = .ready := by
  have hrest := horderly.settled id rec hfind
  rw [schedule_state h, ← schedule_selected h, hempty,
    find?_accountFairness _ _ (nodup_candidates horderly.keyed recordOrder), overlapGroup_records,
    createGrants, find?_refreshed, hfind]
  exact ⟨_, rfl, (refreshRecord_frame s rec).1, refreshRecord_ready s heligible hrest.1 hrest.2⟩

end Round

end Scheduler

/-! ## Every call -/

/-- The call neither files a record nor takes a decision. -/
def Op.keepsAccounts : Op D → Bool
  | .submit _ => false
  | .schedule _ _ => false
  | _ => true

namespace System

variable [Double D]

/-- Every call but a submission and a round keeps the accounts. -/
theorem next_accountsKept (y : System D) {op : Op D} (hop : op.keepsAccounts = true) :
    y.sched.AccountsKept (y.next op).sched := by
  by_cases hquiet : op.isQuiet = true
  · exact .of_records (y.sameBooks_quiet hquiet).records
  cases op with
  | publishParticipant p => exact .publishParticipant y.sched p
  | supersede req => exact .supersede y.sched req
  | cancel id => exact .cancel y.sched id
  | handoff g accepted => exact .handoff y.sched g accepted
  | handoffBegin g =>
      rw [sched_next_handoffBegin]
      exact .handoffBegin y.sched g
  | handoffEnd g accepted =>
      rw [sched_next_handoffEnd]
      split_ifs
      · exact .handoffEnd y.sched g accepted
      · exact .refl y.sched
  | complete g wb sb => exact .complete y.sched g wb sb
  | fenceWorkerBoot worker boot recordOrder =>
      exact .fenceWorkerBoot y.sched worker boot recordOrder
  | resetDynamicStateForRecovery => exact .reset y.sched
  | _ => first | exact absurd rfl hquiet | cases hop

end System

end CollectiveScheduler
