/-
  System/Race.lean --- one handoff among other calls, down to the port calls.

  `handoff` and `cancel` call the fabric after they have released the lock, so the
  fabric need not see the calls in the order of the critical sections.  A race takes one
  handoff apart into its first section, the question to the fabric and its second
  section.  Other calls run between them, and what a section has to tell the ports waits
  until its thread makes the call.
-/
import CollectiveScheduler.System.NewGrants
import CollectiveScheduler.System.Untouched

set_option autoImplicit false

namespace CollectiveScheduler

open Foundation LifecycleState

variable {D : Type}

/-- The calls that may run beside a handoff of the request. -/
def Op.races (id : CollectiveRequestId) : Op D → Bool
  | .publishParticipant _ => true
  | .publishPlan _ => true
  | .publishDependency _ => true
  | .publishReservation _ => true
  | .publishCongestion _ => true
  | .publishCapacity _ => true
  | .submit _ => true
  | .cancel id' => id' = id
  | .advanceTime _ => true
  | .schedule _ _ => true
  | .complete _ _ _ => true
  | _ => false

/-- How far the handoff has come. -/
inductive Race.Stage where
  /-- before its first section -/
  | ready
  /-- the fabric is to be asked -/
  | asking
  /-- before its second section, with the answer of the fabric -/
  | answered (accepted : Bool)
  | finished
  deriving DecidableEq

/-- A scheduler during the handoff of one grant. -/
structure Race (D : Type) where
  sys : System D
  stage : Race.Stage := .ready
  /-- the port calls that are still to be made -/
  pending : List PortCall := []
  /-- the port calls made so far, in order -/
  log : List PortCall := []

/-- What happens next: the critical section of another call, a part of the handoff, or
a port call. -/
inductive Race.Event (D : Type) where
  | run (op : Op D)
  | begin
  | ask (accepted : Bool)
  | finish
  | deliver (c : PortCall)

namespace Race

/-- The event belongs to the handoff or is a call that may run beside it. -/
def Event.races (g : CollectiveGrant) : Event D → Bool
  | .run op => op.races g.request
  | _ => true

/-- The handoff and all port calls are over. -/
def Settled (r : Race D) : Prop := r.stage = .finished ∧ r.pending = []

instance (r : Race D) : Decidable r.Settled :=
  inferInstanceAs (Decidable (r.stage = .finished ∧ r.pending = []))

variable [Double D]

/-- The race after one event. -/
def next (g : CollectiveGrant) (r : Race D) : Event D → Race D
  | .run op =>
      { r with sys := r.sys.next op, pending := r.pending ++ r.sys.emits op }
  | .begin =>
      if r.stage = .ready then
        { r with
          sys := r.sys.next (.handoffBegin g)
          stage := if (r.sys.sched.handoffBegin g).2.isSome then .asking else .finished }
      else r
  | .ask accepted =>
      if r.stage = .asking then
        { r with stage := .answered accepted, log := r.log ++ [.fabricAccept g] }
      else r
  | .finish =>
      match r.stage with
      | .answered accepted =>
          { r with
            sys := r.sys.next (.handoffEnd g accepted)
            stage := .finished
            pending := r.pending ++ r.sys.emits (.handoffEnd g accepted) }
      | _ => r
  | .deliver c =>
      if c ∈ r.pending then { r with pending := r.pending.erase c, log := r.log ++ [c] }
      else r

/-- The race after a list of events. -/
def run (g : CollectiveGrant) (r : Race D) (events : List (Event D)) : Race D :=
  Runs.exec (next g) r events

/-- No event takes the grant-id counter back. -/
theorem counter_le_next (g : CollectiveGrant) (r : Race D) (e : Event D) :
    r.sys.sched.nextGrantId ≤ (r.next g e).sys.sched.nextGrantId := by
  cases e with
  | run op => exact (r.sys.grantStep op).counter
  | begin =>
      unfold next
      simp only
      split
      · exact (r.sys.grantStep _).counter
      · exact le_refl r.sys.sched.nextGrantId
  | ask accepted =>
      unfold next
      simp only
      split_ifs <;> exact le_refl r.sys.sched.nextGrantId
  | finish =>
      unfold next
      simp only
      split
      · exact (r.sys.grantStep _).counter
      · exact le_refl r.sys.sched.nextGrantId
  | deliver c =>
      unfold next
      simp only
      split_ifs <;> exact le_refl r.sys.sched.nextGrantId

theorem counter_le_run (g : CollectiveGrant) (r : Race D) (events : List (Event D)) :
    r.sys.sched.nextGrantId ≤ (r.run g events).sys.sched.nextGrantId :=
  Runs.exec_induct (P := fun r' : Race D => r.sys.sched.nextGrantId ≤ r'.sys.sched.nextGrantId)
    (fun r' e h => h.trans (r'.counter_le_next g e)) events (le_refl r.sys.sched.nextGrantId)

end Race

/-! ## The calls beside the handoff -/

section Calls

variable [Double D] {y : System D} {op : Op D} {id : CollectiveRequestId}

omit [Double D] in
theorem Op.races_atomic (h : op.races id = true) : op.isAtomic = true := by
  cases op <;> first | rfl | cases h

theorem Op.races_sound (h : op.races id = true) (hsound : y.Sound) : (y.next op).Sound := by
  cases op with
  | complete g wb sb => exact System.complete_sound hsound g wb sb
  | handoff g accepted => cases h
  | handoffBegin g => cases h
  | _ => exact System.next_sound hsound (fun _ hg => by cases hg)

/-- Every record keeps its request. -/
theorem Op.races_carried (h : op.races id = true) {rid : CollectiveRequestId} {rec : Record D}
    (hfind : y.sched.records.find? rid = some rec) :
    ∃ rec', (y.next op).sched.records.find? rid = some rec' ∧ rec.Carried rec' := by
  have hstep := y.recordStep op rid
  rw [hfind] at hstep
  generalize (y.next op).sched.records.find? rid = after at hstep
  cases hstep with
  | carried hcarried => exact ⟨_, rfl, hcarried⟩
  | replaced heq =>
      rw [heq] at h
      cases h

/-- Only the handoff asks the fabric. -/
theorem Op.races_asks_nobody (h : op.races id = true) (g : CollectiveGrant) :
    PortCall.fabricAccept g ∉ y.emits op := by
  cases op with
  | cancel rid =>
      simp only [System.emits]
      cases hcalls : (y.sched.cancel rid).2 with
      | error e => exact List.not_mem_nil
      | ok calls =>
          unfold Scheduler.cancel at hcalls
          split at hcalls
          · cases hcalls
          · split_ifs at hcalls
            · cases hcalls
              exact List.not_mem_nil
            · simp only at hcalls
              split at hcalls
              · split_ifs at hcalls <;> cases hcalls <;> simp
              · cases hcalls
                exact List.not_mem_nil
  | schedule recordOrder grantOrder =>
      simp only [System.emits]
      split
      · simp [Scheduler.preemptionCalls]
      · exact List.not_mem_nil
  | complete g' wb sb =>
      simp only [System.emits]
      rcases y.sched.complete_cases g' wb sb with heq | ⟨rec, gs, -, -, -, -, heq⟩
      · rw [heq]
        exact List.not_mem_nil
      · rw [heq]
        simp
  | _ => first | exact List.not_mem_nil | cases h

end Calls

namespace Scheduler

/-- The grants that a round creates leave the entries that are there. -/
theorem find?_grants_scheduleRound [Double D] {s : Scheduler D} {gid : CollectiveGrantId}
    {gs : GrantState} (h : s.grants.find? gid = some gs)
    (recordOrder : List CollectiveRequestId) (grantOrder : List CollectiveGrantId) :
    (s.scheduleRound recordOrder grantOrder).1.grants.find? gid = some gs := by
  cases hround : s.scheduleRound recordOrder grantOrder with
  | mk s' result =>
      cases result with
      | error e =>
          rw [(scheduleRound_error hround).grants]
          exact h
      | ok result =>
          rw [(scheduleRound_ok hround).state, (closeRound_rewritten _ _ _).grants]
          refine find?_grants_createGrants _ _ ?_
          rw [(refreshed_rewritten s).grants]
          exact h

end Scheduler

end CollectiveScheduler
