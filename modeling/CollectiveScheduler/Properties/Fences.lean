/-
  Properties/Fences.lean --- fences commute and repeat without effect.

  A fence takes the readiness of the participants of a boot and hits the records that name
  one of them.  It changes neither who hosts a participant, nor what a record names, nor
  which records are terminal, so a second fence finds the records it would have found
  first.  The two fenced states agree on the index as well, because no operation leaves an
  empty set in it.
-/
import CollectiveScheduler.Scheduler.Fencing
import CollectiveScheduler.System.Scenario
import CollectiveScheduler.System.World

set_option autoImplicit false

namespace CollectiveScheduler

open Foundation

variable {D : Type}

/-! ## The index keeps no empty set -/

namespace ActiveIndex

variable {idx : ActiveIndex}

theorem tidy_dropGrant (h : idx.Tidy) (gid : CollectiveGrantId) (pid : ParticipantId) :
    (dropGrant gid idx pid).Tidy := by
  unfold dropGrant
  split
  · exact h
  · simp only
    split_ifs with hsize
    · exact h.erase pid
    · exact h.insert fun hempty => hsize (by rw [hempty, FinMap.size_empty])

theorem tidy_deindexActiveGrant (h : idx.Tidy) (g : CollectiveGrant) :
    (idx.deindexActiveGrant g).Tidy := by
  unfold deindexActiveGrant
  generalize g.participants = pids
  induction pids generalizing idx with
  | nil => exact h
  | cons pid rest ih => exact ih (tidy_dropGrant h g.id pid)

theorem tidy_indexActiveGrant (h : idx.Tidy) (g : CollectiveGrant) :
    (idx.indexActiveGrant g).Tidy :=
  h.foldl_insert g.participants g.id

end ActiveIndex

namespace Scheduler

/-- The index of the scheduler keeps no empty set. -/
def IndexTidy (s : Scheduler D) : Prop := s.activeByParticipant.Tidy

variable {s s' : Scheduler D}

theorem IndexTidy.rewritten {R : LifecycleState → LifecycleState → Prop} (h : s.IndexTidy)
    (hrewritten : Rewritten R s s') : s'.IndexTidy := by
  unfold IndexTidy
  rw [hrewritten.activeByParticipant]
  exact h

theorem IndexTidy.revokeGrant (h : s.IndexTidy) (gid : CollectiveGrantId) :
    (s.revokeGrant gid).IndexTidy := by
  unfold Scheduler.revokeGrant
  split
  · exact h
  · exact ActiveIndex.tidy_deindexActiveGrant h _

theorem IndexTidy.fenceWorkerBoot (h : s.IndexTidy) (worker : WorkerId) (boot : WorkerBootId)
    (recordOrder : List CollectiveRequestId) :
    (s.fenceWorkerBoot worker boot recordOrder).IndexTidy := by
  refine fenceWorkerBoot_induct (P := IndexTidy) recordOrder h ?_
  intro t rid rec pid _ _ _ _ ht
  unfold fenceHit
  simp only
  split
  · exact ht
  · exact IndexTidy.revokeGrant
      (s := { t with records := t.records.insert rid rec.demandRevalidation }) ht _

theorem createGrants_activeByParticipant (dec : ScheduleDecision D)
    (ids : List CollectiveRequestId) (s : Scheduler D) :
    (createGrants dec s ids).1.activeByParticipant = s.activeByParticipant :=
  createGrants_keeps (P := fun t => t.activeByParticipant = s.activeByParticipant) dec ids
    (fun _ _ _ _ _ _ _ ht => ht) rfl

theorem IndexTidy.scheduleRound [Double D] (h : s.IndexTidy)
    (recordOrder : List CollectiveRequestId) (grantOrder : List CollectiveGrantId) :
    (s.scheduleRound recordOrder grantOrder).1.IndexTidy := by
  cases hround : s.scheduleRound recordOrder grantOrder with
  | mk s' result =>
      cases result with
      | error e => exact h.rewritten (scheduleRound_error hround)
      | ok result =>
          rw [(scheduleRound_ok hround).state]
          refine IndexTidy.rewritten ?_ (closeRound_rewritten _ _ _)
          unfold IndexTidy
          rw [createGrants_activeByParticipant, (refreshed_rewritten s).activeByParticipant]
          exact h

theorem IndexTidy.submit [Double D] (h : s.IndexTidy) (req : CollectiveRequest D) :
    (s.submit req).1.IndexTidy := by
  rcases s.submit_cases req with ⟨next, e, heq⟩ | ⟨-, -, heq⟩ <;> rw [heq] <;> exact h

theorem IndexTidy.supersede [Double D] (h : s.IndexTidy) (req : CollectiveRequest D) :
    (s.supersede req).1.IndexTidy := by
  rcases s.supersede_cases req with ⟨e, heq⟩ | ⟨old, -, -, -, heq⟩ <;> rw [heq]
  · exact h
  · cases old.currentGrant with
    | none => exact h
    | some g => exact h.revokeGrant g.id

theorem IndexTidy.cancel (h : s.IndexTidy) (id : CollectiveRequestId) :
    (s.cancel id).1.IndexTidy := by
  rcases s.cancel_cases id with heq | ⟨rec, -, -, ⟨-, heq⟩ | ⟨g, gs, -, heq⟩⟩ <;> rw [heq]
  · exact h
  · exact h
  · exact ActiveIndex.tidy_deindexActiveGrant h gs.grant

theorem IndexTidy.complete (h : s.IndexTidy) (g : CollectiveGrant) (wb : WorkerBootId)
    (sb : SourceBootId) : (s.complete g wb sb).1.IndexTidy := by
  rcases s.complete_cases g wb sb with heq | ⟨rec, gs, -, -, -, -, heq⟩ <;> rw [heq]
  · exact h
  · exact ActiveIndex.tidy_deindexActiveGrant h g

theorem IndexTidy.handoffBegin (h : s.IndexTidy) (g : CollectiveGrant) :
    (s.handoffBegin g).1.IndexTidy := by
  rcases s.handoffBegin_cases g with heq | ⟨rec, -, -, -, -, heq⟩ <;> rw [heq] <;> exact h

theorem IndexTidy.handoffEnd (h : s.IndexTidy) (gc : CollectiveGrant) (accepted : Bool) :
    (s.handoffEnd gc accepted).1.IndexTidy := by
  rcases s.handoffEnd_cases gc accepted with
    ⟨-, heq⟩ | ⟨rec, -, ⟨-, heq⟩ | ⟨gs, -, ⟨-, heq⟩ | ⟨-, heq⟩⟩⟩ <;> rw [heq]
  · exact h
  · exact h
  · exact ActiveIndex.tidy_indexActiveGrant h gs.grant
  · exact h

theorem IndexTidy.handoff (h : s.IndexTidy) (g : CollectiveGrant) (accepted : Bool) :
    (s.handoff g accepted).1.IndexTidy := by
  rw [(s.handoff_eq g accepted).1]
  cases (s.handoffBegin g).2 with
  | none => exact h.handoffBegin g
  | some gc => exact (h.handoffBegin g).handoffEnd gc accepted

theorem IndexTidy.install (s : Scheduler D) (image : StateImage D) :
    (s.install image).IndexTidy := FinMap.tidy_empty

theorem IndexTidy.reset (s : Scheduler D) : s.resetDynamicStateForRecovery.IndexTidy :=
  FinMap.tidy_empty

theorem IndexTidy.restore [Double D] (h : s.IndexTidy) (bytes : List UInt8) :
    (Persistence.restore s bytes).1.IndexTidy := by
  unfold Persistence.restore
  split
  · exact h
  · split
    · exact h
    · split_ifs
      · exact IndexTidy.install s _
      · exact IndexTidy.reset _

end Scheduler

theorem System.next_indexTidy [Double D] {y : System D} (h : y.sched.IndexTidy) (op : Op D) :
    (y.next op).sched.IndexTidy := by
  by_cases hquiet : op.isQuiet = true
  · obtain ⟨s, hnext, hrewritten⟩ := y.next_quiet hquiet
    rw [hnext]
    exact h.rewritten hrewritten
  cases op with
  | publishParticipant p => exact h.rewritten (y.sched.publishParticipant_rewritten p)
  | submit req => exact h.submit req
  | supersede req => exact h.supersede req
  | cancel id => exact h.cancel id
  | schedule recordOrder grantOrder =>
      rw [System.sched_next_schedule]
      exact h.scheduleRound recordOrder grantOrder
  | handoff g accepted => exact h.handoff g accepted
  | handoffBegin g =>
      rw [System.sched_next_handoffBegin]
      exact h.handoffBegin g
  | handoffEnd g accepted =>
      rw [System.sched_next_handoffEnd]
      split_ifs
      · exact h.handoffEnd g accepted
      · exact h
  | complete g wb sb => exact h.complete g wb sb
  | fenceWorkerBoot worker boot recordOrder => exact h.fenceWorkerBoot worker boot recordOrder
  | resetDynamicStateForRecovery => exact Scheduler.IndexTidy.reset y.sched
  | _ => exact absurd rfl hquiet

namespace Scheduler

theorem Reached.indexTidy [Double D] {s : Scheduler D} (h : s.Reached) : s.IndexTidy :=
  h.invariant (fun _ _ => FinMap.tidy_empty) (fun _ op hy => System.next_indexTidy hy op)
    fun _ bytes hs => hs.restore bytes

/-! ## Two fences -/

/-- A participant on a fenced boot. -/
def fencedParticipant (worker : WorkerId) (boot : WorkerBootId) (p : Participant) : Participant :=
  if p.worker = worker ∧ p.workerBoot = boot then
    { p with ready := false, readinessSource := .unknown }
  else p

theorem fencedParticipant_comm (worker worker' : WorkerId) (boot boot' : WorkerBootId)
    (p : Participant) :
    fencedParticipant worker boot (fencedParticipant worker' boot' p) =
      fencedParticipant worker' boot' (fencedParticipant worker boot p) := by
  unfold fencedParticipant
  split_ifs <;> rfl

theorem fencedParticipant_idem (worker : WorkerId) (boot : WorkerBootId) (p : Participant) :
    fencedParticipant worker boot (fencedParticipant worker boot p) =
      fencedParticipant worker boot p := by
  unfold fencedParticipant
  split_ifs <;> rfl

variable {s : Scheduler D}

theorem fenceParticipants_eq (s : Scheduler D) (worker : WorkerId) (boot : WorkerBootId) :
    s.fenceParticipants worker boot =
      { s with
        participants := s.participants.mapVals fun _ p => fencedParticipant worker boot p } :=
  rfl

theorem fenceParticipants_comm (s : Scheduler D) (worker worker' : WorkerId)
    (boot boot' : WorkerBootId) :
    (s.fenceParticipants worker boot).fenceParticipants worker' boot' =
      (s.fenceParticipants worker' boot').fenceParticipants worker boot := by
  simp only [fenceParticipants_eq, FinMap.mapVals_mapVals, fencedParticipant_comm worker worker']

theorem fenceParticipants_idem (s : Scheduler D) (worker : WorkerId) (boot : WorkerBootId) :
    (s.fenceParticipants worker boot).fenceParticipants worker boot =
      s.fenceParticipants worker boot := by
  simp only [fenceParticipants_eq, FinMap.mapVals_mapVals, fencedParticipant_idem]

/-- Two fences hit the records of both boots. -/
theorem fences_hits (s : Scheduler D) (worker worker' : WorkerId) (boot boot' : WorkerBootId)
    (recordOrder recordOrder' : List CollectiveRequestId) :
    ((s.fenceParticipants worker boot).fenceParticipants worker' boot').AfterHits
      (fun rid => s.FenceHits worker boot rid ∨ s.FenceHits worker' boot' rid)
      ((s.fenceWorkerBoot worker boot recordOrder).fenceWorkerBoot worker' boot'
        recordOrder') := by
  have hfirst := (s.fenceWorkerBoot_hits worker boot recordOrder).fenceParticipants worker' boot'
  have hsecond :=
    (s.fenceWorkerBoot worker boot recordOrder).fenceWorkerBoot_hits worker' boot' recordOrder'
  refine (hfirst.trans hsecond).congr fun rid => ?_
  rw [fenceHits_fenceWorkerBoot]

end Scheduler

/-- In every reachable state two fences give the same state in either order, and a fence
that is repeated gives the state of the first, whatever orders they walk the records
in. -/
theorem fences_commute_idempotent [Double D] {s : Scheduler D} (h : s.Reached)
    (worker worker' : WorkerId) (boot boot' : WorkerBootId)
    (o₁ o₂ o₃ o₄ : List CollectiveRequestId) :
    (s.fenceWorkerBoot worker boot o₁).fenceWorkerBoot worker' boot' o₂ =
        (s.fenceWorkerBoot worker' boot' o₃).fenceWorkerBoot worker boot o₄ ∧
      (s.fenceWorkerBoot worker boot o₁).fenceWorkerBoot worker boot o₂ =
        s.fenceWorkerBoot worker boot o₃ := by
  have htidy := h.indexTidy
  constructor
  · have hone := s.fences_hits worker worker' boot boot' o₁ o₂
    have hother := s.fences_hits worker' worker boot' boot o₃ o₄
    rw [s.fenceParticipants_comm worker' worker boot' boot] at hother
    exact hone.unique (hother.congr fun rid => or_comm)
      ((htidy.fenceWorkerBoot _ _ _).fenceWorkerBoot _ _ _)
      ((htidy.fenceWorkerBoot _ _ _).fenceWorkerBoot _ _ _)
  · have htwice := s.fences_hits worker worker boot boot o₁ o₂
    rw [s.fenceParticipants_idem] at htwice
    exact (htwice.congr fun rid => or_self_iff).unique (s.fenceWorkerBoot_hits worker boot o₃)
      ((htidy.fenceWorkerBoot _ _ _).fenceWorkerBoot _ _ _) (htidy.fenceWorkerBoot _ _ _)

/-- Two boots are fenced while a collective on both executes. -/
theorem fences_commute_idempotent_executing :
    let s := World.afterCalls (D := ℚ) (Scenario.withGrant
      [.publishParticipant (Scenario.participant 1 1 1 11),
        .publishParticipant (Scenario.participant 2 1 2 22),
        .publishPlan (Scenario.plan 1 1 [1, 2]), .submit (Scenario.request 1 [1, 2] 1),
        .schedule [] []] 1 (fun g => [.handoff g true]))
    s.activeGrants = 1 ∧
      (s.fenceWorkerBoot 1 11 []).fenceWorkerBoot 2 22 [] =
        (s.fenceWorkerBoot 2 22 []).fenceWorkerBoot 1 11 [] ∧
      (s.fenceWorkerBoot 1 11 []).fenceWorkerBoot 1 11 [] = s.fenceWorkerBoot 1 11 [] := by
  intro s
  exact ⟨by decide +kernel,
    fences_commute_idempotent (World.reached_afterCalls _) 1 2 11 22 [] [] [] []⟩

end CollectiveScheduler
