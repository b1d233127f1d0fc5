/-
  System/Untouched.lean --- the calls that leave a record alone.

  A record that is past scheduling changes its state only by a call that names its
  request, and by the calls that walk over all records: a fence, a participant
  publication and a reset.  Every other call rewrites at most its bookkeeping.  The
  calls that the ports see are collected here as well.
-/
import CollectiveScheduler.System.RecordStep

set_option autoImplicit false

namespace CollectiveScheduler

open Foundation LifecycleState

variable {D : Type}

/-- The call names the request, or walks over all records. -/
def Op.touches (id : CollectiveRequestId) : Op D → Bool
  | .supersede req => req.id = id
  | .cancel id' => id' = id
  | .handoff g _ => g.request = id
  | .handoffBegin g => g.request = id
  | .handoffEnd g _ => g.request = id
  | .complete g _ _ => g.request = id
  | .publishParticipant _ => true
  | .fenceWorkerBoot _ _ _ => true
  | .resetDynamicStateForRecovery => true
  | _ => false

namespace Scheduler

/-- The record is there, with the same request, grant and lifecycle. -/
def Keeps (s : Scheduler D) (id : CollectiveRequestId) (rec : Record D) : Prop :=
  ∃ rec', s.records.find? id = some rec' ∧ rec.Rewritten Eq rec'

variable {s s' : Scheduler D} {id : CollectiveRequestId} {rec : Record D}

theorem Keeps.of_find? (h : s.records.find? id = some rec) : s.Keeps id rec :=
  ⟨rec, h, rfl, rfl, rfl⟩

theorem Keeps.insert_of_ne {id' : CollectiveRequestId} {r : Record D}
    (hfind : s.records.find? id = some rec) (hrecords : s'.records = s.records.insert id' r)
    (hne : id ≠ id') : s'.Keeps id rec := by
  refine Keeps.of_find? ?_
  rw [hrecords, FinMap.find?_insert_of_ne _ _ hne]
  exact hfind

theorem Keeps.rewritten {R : LifecycleState → LifecycleState → Prop} (h : Rewritten R s s')
    (hfind : s.records.find? id = some rec)
    (hsame : ∀ st, R rec.lifecycle st → st = rec.lifecycle) :
    s'.Keeps id rec := by
  obtain ⟨rec', hfind', hrec⟩ := h.records.find? hfind
  exact ⟨rec', hfind', hrec.request, hrec.currentGrant, (hsame _ hrec.lifecycle).symm⟩

theorem Keeps.rewrittenEq (h : Rewritten Eq s s') (hfind : s.records.find? id = some rec) :
    s'.Keeps id rec :=
  Keeps.rewritten h hfind (fun _ heq => heq.symm)

theorem Keeps.trans (h : s.Keeps id rec) (hnext : ∀ r, s.records.find? id = some r →
    rec.lifecycle = r.lifecycle → s'.Keeps id r) : s'.Keeps id rec := by
  obtain ⟨r, hr, hrec⟩ := h
  obtain ⟨r', hr', hrec'⟩ := hnext r hr hrec.lifecycle
  exact ⟨r', hr', hrec'.request.trans hrec.request, hrec'.currentGrant.trans hrec.currentGrant,
    hrec.lifecycle.trans hrec'.lifecycle⟩

theorem find?_createGrants_of_notMem (dec : ScheduleDecision D) {ids : List CollectiveRequestId}
    (h : id ∉ ids) (s : Scheduler D) :
    (createGrants dec s ids).1.records.find? id = s.records.find? id := by
  refine createGrants_keeps (P := fun t => t.records.find? id = s.records.find? id) dec ids ?_ rfl
  intro t id' rec rec' hmem _ _ ht
  have hne : id ≠ id' := fun heq => h (heq ▸ hmem)
  exact (find?_createGrant_of_ne t _ _ hne).trans ht

/-! ### The calls that name another request -/

theorem Keeps.cancel (hfind : s.records.find? id = some rec) {id' : CollectiveRequestId}
    (hne : id ≠ id') : (s.cancel id').1.Keeps id rec := by
  rcases s.cancel_cases id' with heq | ⟨r, -, -, ⟨-, heq⟩ | ⟨g, gs, -, heq⟩⟩ <;> rw [heq]
  · exact .of_find? hfind
  · exact .insert_of_ne hfind rfl hne
  · exact .insert_of_ne hfind rfl hne

theorem Keeps.handoffBegin (hfind : s.records.find? id = some rec) {g : CollectiveGrant}
    (hne : id ≠ g.request) : (s.handoffBegin g).1.Keeps id rec := by
  rcases s.handoffBegin_cases g with heq | ⟨r, -, -, -, -, heq⟩ <;> rw [heq]
  · exact .of_find? hfind
  · exact .insert_of_ne hfind rfl hne

theorem Keeps.handoffEnd (hfind : s.records.find? id = some rec) {g : CollectiveGrant}
    (hne : id ≠ g.request) (accepted : Bool) : (s.handoffEnd g accepted).1.Keeps id rec := by
  rcases s.handoffEnd_cases g accepted with
    ⟨-, heq⟩ | ⟨r, -, ⟨-, heq⟩ | ⟨gs, -, ⟨-, heq⟩ | ⟨-, heq⟩⟩⟩ <;> rw [heq]
  · exact .of_find? hfind
  · exact .insert_of_ne hfind rfl hne
  · exact .insert_of_ne hfind rfl hne
  · exact .insert_of_ne hfind rfl hne

theorem Keeps.handoff (hfind : s.records.find? id = some rec) {g : CollectiveGrant}
    (hne : id ≠ g.request) (accepted : Bool) : (s.handoff g accepted).1.Keeps id rec := by
  rcases s.handoff_cases g accepted with
    ⟨heq, -⟩ | ⟨r, -, -, -, -, ⟨-, heq, -⟩ | ⟨gs, -, -, heq⟩⟩ <;> rw [heq]
  · exact .of_find? hfind
  · exact .insert_of_ne hfind rfl hne
  · exact .insert_of_ne hfind rfl hne

theorem Keeps.complete (hfind : s.records.find? id = some rec) {g : CollectiveGrant}
    (hne : id ≠ g.request) (wb : WorkerBootId) (sb : SourceBootId) :
    (s.complete g wb sb).1.Keeps id rec := by
  rcases s.complete_cases g wb sb with heq | ⟨r, gs, -, -, -, -, heq⟩ <;> rw [heq]
  · exact .of_find? hfind
  · exact .insert_of_ne hfind rfl hne

section Round

variable [Double D]

theorem Keeps.submit (hfind : s.records.find? id = some rec) (req : CollectiveRequest D) :
    (s.submit req).1.Keeps id rec := by
  refine .of_find? ?_
  rcases s.submit_cases req with ⟨next, e, heq⟩ | ⟨-, -, heq⟩ <;> rw [heq]
  · exact hfind
  · exact FinMap.find?_emplace_of_some hfind _ _

theorem Keeps.supersede (hfind : s.records.find? id = some rec) {req : CollectiveRequest D}
    (hne : id ≠ req.id) : (s.supersede req).1.Keeps id rec := by
  rcases s.supersede_cases req with ⟨e, heq⟩ | ⟨old, -, -, -, heq⟩ <;> rw [heq]
  · exact .of_find? hfind
  · refine .insert_of_ne (r := supersedingRecord old req) hfind ?_ hne
    rw [releaseForSupersede_records]

/-- A round leaves a record that is not pending in its state. -/
theorem Keeps.scheduleRound (hkeyed : s.Keyed) (hfind : s.records.find? id = some rec)
    (hrest : rec.lifecycle.isPending = false) (recordOrder : List CollectiveRequestId)
    (grantOrder : List CollectiveGrantId) :
    (s.scheduleRound recordOrder grantOrder).1.Keeps id rec := by
  have hstays : ∀ st, Refreshes rec.lifecycle st → st = rec.lifecycle :=
    fun _ hst => hst.eq_of_not_pending hrest
  cases hround : s.scheduleRound recordOrder grantOrder with
  | mk s' result =>
      cases result with
      | error e => exact Keeps.rewritten (scheduleRound_error hround) hfind hstays
      | ok result =>
          have hnot : id ∉ s.selection recordOrder := by
            intro hid
            obtain ⟨rec', hfind', heligible⟩ := (mem_ranking_iff hkeyed).mp
              ((s.selection_sublist recordOrder).subset hid)
            rw [hfind] at hfind'
            cases hfind'
            have hpending := (eligible_iff.mp heligible).1
            rw [hrest] at hpending
            cases hpending
          rw [(scheduleRound_ok hround).state]
          refine (Keeps.rewritten (refreshed_rewritten s) hfind hstays).trans fun r hr _ => ?_
          refine Keeps.rewrittenEq (closeRound_rewritten _ _ _) ?_
          rw [find?_createGrants_of_notMem _ hnot]
          exact hr

end Round

end Scheduler

theorem System.untouched_next [Double D] {y : System D} {op : Op D} {id : CollectiveRequestId}
    {rec : Record D} (hkeyed : y.sched.Keyed) (hfind : y.sched.records.find? id = some rec)
    (hrest : rec.lifecycle.isPending = false) (hop : op.touches id = false) :
    (y.next op).sched.Keeps id rec := by
  have hne : ∀ {id' : CollectiveRequestId}, decide (id' = id) = false → id ≠ id' :=
    fun h heq => of_decide_eq_false h heq.symm
  by_cases hquiet : op.isQuiet = true
  · obtain ⟨s, hnext, hrewritten⟩ := y.next_quiet hquiet
    rw [hnext]
    exact .rewrittenEq hrewritten hfind
  cases op with
  | submit req => exact .submit hfind req
  | supersede req => exact .supersede hfind (hne hop)
  | cancel id' => exact .cancel hfind (hne hop)
  | schedule recordOrder grantOrder =>
      rw [sched_next_schedule]
      exact .scheduleRound hkeyed hfind hrest recordOrder grantOrder
  | handoff g accepted => exact .handoff hfind (hne hop) accepted
  | handoffBegin g =>
      rw [sched_next_handoffBegin]
      exact .handoffBegin hfind (hne hop)
  | handoffEnd g accepted =>
      rw [sched_next_handoffEnd]
      split_ifs
      · exact .handoffEnd hfind (hne hop) accepted
      · exact .of_find? hfind
  | complete g wb sb => exact .complete hfind (hne hop) wb sb
  | _ => first | exact absurd rfl hquiet | cases hop

/-! ## Port calls -/

/-- The calls that an operation makes on the ports, in order.  The fabric is asked
after the first section of a handoff. -/
def System.emits [Double D] (y : System D) : Op D → List PortCall
  | .cancel id =>
      match (y.sched.cancel id).2 with
      | .ok calls => calls
      | .error _ => []
  | .schedule recordOrder grantOrder =>
      match (y.sched.scheduleRound recordOrder grantOrder).2 with
      | .ok (dec, _) => Scheduler.preemptionCalls dec
      | .error _ => []
  | .handoff g accepted => (y.sched.handoff g accepted).2.2
  | .handoffBegin g => ((y.sched.handoffBegin g).2.map PortCall.fabricAccept).toList
  | .handoffEnd g accepted => if g ∈ y.inFlight then (y.sched.handoffEnd g accepted).2.2 else []
  | .complete g wb sb => (y.sched.complete g wb sb).2.2
  | _ => []

end CollectiveScheduler
