/-
  Properties/Candidacy.lean --- which requests a round considers.

  On a request whose evidence is current, hard eligibility has nothing left to check but the
  window and the workload.  Whether the round then ranks it is decided by its lifecycle
  alone: the readiness pass derives DECLARED, WAITING, READY, ELIGIBLE and QUEUED again, and
  has no case for REVALIDATION_REQUIRED, although the lifecycle allows the way back to READY.
  In service these two are all there is: a record that is not terminal and holds no open
  grant is pending or waits for a revalidation that never comes.
-/
import CollectiveScheduler.System.Provenance

set_option autoImplicit false

namespace CollectiveScheduler

open Foundation LifecycleState

variable {D : Type}

namespace Scheduler

section Evidence

variable [Double D] {s : Scheduler D} {req : CollectiveRequest D}

/-- On a request whose evidence is current only the window and the workload are left. -/
theorem hardEligible_of_ready (h : s.computeReadiness req = .ready)
    (hwindow : outsideWindow s.now req.window = false) (hworkload : req.workloadGen.null = false) :
    s.hardEligible .ready req = none := by
  obtain ⟨hparticipants, hplan, hdeps, hreservation, hcongestion, -⟩ :=
    computeReadiness_eq_ready_iff.mp h
  have hnone : req.participants.zipIdx.findSome? (s.participantRejection req.participantGens) =
      none :=
    findSome?_participantRejection_eq_none_iff.mpr hparticipants
  have hall : req.dependencies.all s.dependencySatisfied = true := List.all_eq_true.mpr hdeps
  unfold hardEligible
  simp only [hwindow, hnone, hplan, hall, hreservation, hcongestion, hworkload, ne_eq,
    not_true_eq_false, if_false, Bool.not_true, Bool.false_eq_true]

end Evidence

end Scheduler

/-! ## Who is considered -/

/-- In every reachable state, a request that is ready, inside its window and has a workload
is selected or kept as fallback if and only if its lifecycle is one the readiness pass
derives again: DECLARED, WAITING, READY, ELIGIBLE or QUEUED. -/
theorem ready_request_is_ranked_iff [Double D] (s : Scheduler D) (hreached : s.Reached)
    (recordOrder : List CollectiveRequestId) (grantOrder : List CollectiveGrantId)
    (s' : Scheduler D) (dec : ScheduleDecision D)
    (hdecided : s.schedule recordOrder grantOrder = (s', .ok dec))
    (id : CollectiveRequestId) (rec : Record D) (hfind : s.records.find? id = some rec)
    (hready : s.computeReadiness rec.request = .ready)
    (hwindow : Scheduler.outsideWindow s.now rec.request.window = false)
    (hworkload : rec.request.workloadGen.null = false) :
    id ∈ dec.selected ∨ id ∈ dec.fallback ↔ rec.lifecycle.isPending = true := by
  rw [Scheduler.mem_decision_iff hreached.keyed hdecided]
  constructor
  · rintro ⟨rec', hfind', heligible⟩
    rw [hfind] at hfind'
    cases hfind'
    exact (Scheduler.eligible_iff.mp heligible).1
  · intro hpending
    exact ⟨rec, hfind, Scheduler.eligible_iff.mpr
      ⟨hpending, hready, Scheduler.hardEligible_of_ready hready hwindow hworkload⟩⟩

/-- In service, as long as grant ids are left, a record that is not terminal and holds no
open grant is pending or has to be revalidated. -/
theorem System.InService.pending_or_revalidation [Double D] {y : System D} (h : y.InService)
    (hids : y.sched.nextGrantId.value.toNat < maxValue) {id : CollectiveRequestId}
    {rec : Record D} (hfind : y.sched.records.find? id = some rec)
    (hterminal : rec.lifecycle.isTerminalState = false)
    (hopen : ∀ g gs, ¬y.sched.HoldsOpenGrant rec g gs) :
    rec.lifecycle.isPending = true ∨ rec.lifecycle = .revalidationRequired := by
  have hattested := h.attested
  have hrest := (hattested.orderly id rec hfind).atRest
  have hholder : rec.lifecycle.isHolder = false := by
    by_contra hnot
    have hholds := (Bool.not_eq_false _).mp hnot
    obtain ⟨g, hcur⟩ := Option.ne_none_iff_exists'.mp
      ((hattested.attributed.records id rec hfind).holder hholds)
    obtain ⟨gs, hentry, hgs⟩ := (hattested.table hids).held id rec g hfind hholds hcur
    exact hopen g gs ⟨hcur, hentry, hgs⟩
  revert hterminal hrest hholder
  cases rec.lifecycle <;> decide

/-! ### A fence and a restore -/

namespace Scenario

/-- The evidence of a request on participant 1. -/
def evidenceOfFirst : List (Op ℚ) :=
  [.publishParticipant (participant 1 1 1 11), .publishPlan (plan 1 1 [1])]

/-- A granted request whose worker boot is fenced; the same evidence is published again. -/
def fencedAndPublished : List (Action ℚ) :=
  (Scenario.granted ++ .fenceWorkerBoot 1 11 [] :: evidenceOfFirst).map .call

def submitted : List (Op ℚ) := evidenceOfFirst ++ [.submit (request 1 [1] 1)]

/-- A submitted request is saved and restored into a fresh scheduler; the same evidence is
published again. -/
def restoredAndPublished : List (Action ℚ) :=
  submitted.map .call ++
    .restoreFresh PolicyConfig.default 1 (Persistence.save (World.afterCalls submitted) []) ::
      evidenceOfFirst.map .call

/-- The scheduler after the actions. -/
def after (actions : List (Action ℚ)) : Scheduler ℚ :=
  ((World.start PolicyConfig.default 1).run actions).sys.sched

theorem reached_after (actions : List (Action ℚ)) : (after actions).Reached :=
  ⟨PolicyConfig.default, 1, actions, rfl⟩

/-- The first record is in a state, has all its evidence and holds no open grant. -/
structure Waits (s : Scheduler ℚ) (state : LifecycleState) (rec : Record ℚ) : Prop where
  find : s.records.find? 1 = some rec
  lifecycle : rec.lifecycle = state
  ready : s.computeReadiness rec.request = .ready
  window : Scheduler.outsideWindow s.now rec.request.window = false
  workload : rec.request.workloadGen.null = false
  free : ∀ g gs, ¬s.HoldsOpenGrant rec g gs

/-- The test for it. -/
def waits (s : Scheduler ℚ) (state : LifecycleState) : Bool :=
  (s.records.find? 1).any (fun rec =>
    rec.lifecycle = state ∧ s.computeReadiness rec.request = .ready ∧
      Scheduler.outsideWindow s.now rec.request.window = false ∧
      rec.request.workloadGen.null = false ∧
      ∀ g ∈ rec.currentGrant, ∀ gs ∈ s.grants.find? g.id, gs.terminal = true)

theorem exists_of_waits {s : Scheduler ℚ} {state : LifecycleState} (h : waits s state = true) :
    ∃ rec, Waits s state rec := by
  obtain ⟨rec, hfind, htest⟩ := (Option.any_eq_true _ _).mp h
  obtain ⟨hlife, hready, hwindow, hworkload, hterminal⟩ := of_decide_eq_true htest
  refine ⟨rec, hfind, hlife, hready, hwindow, hworkload, ?_⟩
  rintro g gs ⟨hcur, hentry, hopen⟩
  rw [hterminal g hcur gs hentry] at hopen
  cases hopen

/-- A round decides without the first request. -/
def leavesOut (s : Scheduler ℚ) : Bool :=
  (s.schedule [] []).2.toOption.any (fun dec => 1 ∉ dec.selected ∧ 1 ∉ dec.fallback)

end Scenario

/-- After a submission, the request is ready and a round ranks it. -/
theorem ready_request_is_ranked_iff_submitted :
    let s := Scenario.after (Scenario.submitted.map .call)
    ∃ rec s' dec, Scenario.Waits s .declared rec ∧ s.schedule [] [] = (s', .ok dec) ∧
      (1 ∈ dec.selected ∨ 1 ∈ dec.fallback) := by
  intro s
  have hwaits : Scenario.waits s .declared = true := by decide +kernel
  have hselects : Scenario.selects s [1] = true := by decide +kernel
  obtain ⟨rec, hrec⟩ := Scenario.exists_of_waits hwaits
  obtain ⟨s', dec, hdecided, -⟩ := Scenario.exists_of_selects s [1] hselects
  refine ⟨rec, s', dec, hrec, hdecided, ?_⟩
  refine (ready_request_is_ranked_iff s (Scenario.reached_after _) [] [] s' dec hdecided 1 rec
    hrec.find hrec.ready hrec.window hrec.workload).mpr ?_
  rw [hrec.lifecycle]
  rfl

/-- After a fence and after a restore, a request that is not terminal and holds no open grant
has all its evidence and is in neither list. -/
theorem revalidation_is_forgotten :
    ((∃ rec, Scenario.Waits (Scenario.after Scenario.fencedAndPublished)
          .revalidationRequired rec) ∧
        Scenario.leavesOut (Scenario.after Scenario.fencedAndPublished) = true) ∧
      (∃ rec, Scenario.Waits (Scenario.after Scenario.restoredAndPublished)
          .revalidationRequired rec) ∧
        Scenario.leavesOut (Scenario.after Scenario.restoredAndPublished) = true := by
  have hfenced : Scenario.waits (Scenario.after Scenario.fencedAndPublished)
      .revalidationRequired = true := by decide +kernel
  have hrestored : Scenario.waits (Scenario.after Scenario.restoredAndPublished)
      .revalidationRequired = true := by decide +kernel
  exact ⟨⟨Scenario.exists_of_waits hfenced, by decide +kernel⟩,
    Scenario.exists_of_waits hrestored, by decide +kernel⟩

end CollectiveScheduler
