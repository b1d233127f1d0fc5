/-
  Properties/HardEligibility.lean --- no decision bypasses the evidence.

  Readiness, lifecycle derivation and hard eligibility are separate passes, and
  the selection trusts what they computed.  Whatever a request's priority,
  deadline, age or starvation score, it is ranked only when both passes let it
  through, so the evidence behind every selected or fallback request holds in the
  state of the call.  The state may be reached by any calls and by restoring any
  bytes.
-/
import CollectiveScheduler.System.Scenario
import CollectiveScheduler.System.World
import Mathlib.Algebra.BigOperators.Group.List.Basic

set_option autoImplicit false

namespace CollectiveScheduler

open Foundation

namespace Scheduler

section Passes

variable {D : Type} [Double D] {s : Scheduler D} {req : CollectiveRequest D}

/-! ## What the passes let through -/

/-- Hard eligibility without a reason: every check passed. -/
theorem hardEligible_none (h : s.hardEligible .ready req = none) :
    outsideWindow s.now req.window = false ∧
      (∀ e ∈ req.participants.zipIdx, s.participantRejection req.participantGens e = none) ∧
      s.planUsable req.planId req.planGen = true ∧
      (∀ d ∈ req.dependencies, s.dependencySatisfied d = true) ∧
      s.reservationUsable req = true ∧ s.overHardCeiling = false ∧
      req.workloadGen.null = false := by
  unfold hardEligible at h
  rw [if_neg (not_not.mpr rfl)] at h
  by_cases hwindow : outsideWindow s.now req.window = true
  · rw [if_pos hwindow] at h
    cases h
  · rw [if_neg hwindow] at h
    split at h
    · cases h
    · rename_i hparticipants
      split_ifs at h with hplan hdeps hres hceiling hauthority
      refine ⟨Bool.eq_false_iff.mpr hwindow, List.findSome?_eq_none_iff.mp hparticipants,
        by simpa using hplan, by simpa using hdeps, by simpa using hres,
        Bool.eq_false_iff.mpr hceiling, Bool.eq_false_iff.mpr hauthority⟩

end Passes

/-! ## The evidence, spelled out -/

/-- Everything a request needs before it may run, over exact numbers. -/
structure HardEvidence (s : Scheduler ℚ) (req : CollectiveRequest ℚ) : Prop where
  /-- published at the generation the request names, ready, from a known source -/
  participants : ∀ pid i, (pid, i) ∈ req.participants.zipIdx →
    ∃ p, s.participants.find? pid = some p ∧ req.participantGens[i]? = some p.gen ∧
      p.ready = true ∧ p.readinessSource ≠ .unknown
  plan : ∃ pl, s.plans.find? req.planId = some pl ∧ pl.gen = req.planGen ∧ pl.valid = true
  dependencies : ∀ d ∈ req.dependencies,
    ∃ st, s.deps.find? d.id = some st ∧ st.gen = d.gen ∧ st.satisfied = true
  reservation : ∀ rg, req.reservationGen = some rg → rg = s.reservationGen ∧
    ∃ res, s.reservations.find? rg = some res ∧ res.valid = true
  congestion : ∀ c, s.congestion = some c → c.hardCeiling = true →
    c.utilization < c.hardCeilingUtilization
  capacity : ∀ cap, s.capacity = some cap →
    (req.resourceClaims.map (·.units)).sum ≤ cap.usableCapacity
  window : (req.window.earliestStartNs ≠ 0 → req.window.earliestStartNs ≤ s.now) ∧
    (req.window.latestStartNs ≠ 0 → s.now ≤ req.window.latestStartNs)
  authority : req.workloadGen ≠ 0

theorem participantRejection_none {D : Type} {s : Scheduler D}
    {gens : List ParticipantGeneration} {pid : ParticipantId} {i : Nat}
    (h : s.participantRejection gens (pid, i) = none) :
    ∃ p, s.participants.find? pid = some p ∧ gens[i]? = some p.gen ∧ p.ready = true ∧
      p.readinessSource ≠ .unknown := by
  unfold participantRejection at h
  split at h
  · cases h
  · rename_i p hfind
    split_ifs at h with hgen havailable
    have hready : p.isAvailable = true := by simpa using havailable
    simp only [Participant.isAvailable, Bool.and_eq_true, bne_iff_ne, ne_eq] at hready
    exact ⟨p, hfind, not_not.mp hgen, hready.1, hready.2⟩

theorem demand_eq_sum (claims : List (ResourceClaim ℚ)) :
    demand claims = (claims.map (·.units)).sum := by
  rw [List.sum_eq_foldl, List.foldl_map]
  rfl

theorem eligible_hardEvidence {s : Scheduler ℚ} {rec : Record ℚ} (h : s.eligible rec = true) :
    s.HardEvidence rec.request := by
  obtain ⟨-, hready, hhard⟩ := eligible_iff.mp h
  obtain ⟨hwindow, hparticipants, hplan, hdeps, hres, hceiling, hauthority⟩ :=
    hardEligible_none hhard
  have hcapacity := (computeReadiness_eq_ready_iff.mp hready).capacity
  constructor
  case participants =>
    intro pid i hmem
    exact participantRejection_none (hparticipants (pid, i) hmem)
  case plan =>
    unfold planUsable at hplan
    split at hplan
    · cases hplan
    · rename_i pl hfind
      simp only [Bool.and_eq_true, decide_eq_true_eq] at hplan
      exact ⟨pl, hfind, hplan⟩
  case dependencies =>
    intro d hd
    have hdep := hdeps d hd
    unfold dependencySatisfied at hdep
    split at hdep
    · cases hdep
    · rename_i st hfind
      simp only [Bool.and_eq_true, decide_eq_true_eq] at hdep
      exact ⟨st, hfind, hdep⟩
  case reservation =>
    intro rg hrg
    unfold reservationUsable at hres
    rw [hrg] at hres
    simp only [Bool.and_eq_true, decide_eq_true_eq] at hres
    obtain ⟨hcurrent, hvalid⟩ := hres
    split at hvalid
    · cases hvalid
    · rename_i res hfind
      exact ⟨hcurrent, res, hfind, hvalid⟩
  case congestion =>
    intro c hc hlimit
    simp only [overHardCeiling, hc, hlimit, Bool.true_and, Double.rat_le,
      decide_eq_false_iff_not] at hceiling
    exact not_le.mp hceiling
  case capacity =>
    intro cap hcap
    simp only [overCapacity, hcap, Double.rat_lt, decide_eq_false_iff_not,
      demand_eq_sum] at hcapacity
    exact not_lt.mp hcapacity
  case window =>
    simp only [outsideWindow, Bool.or_eq_false_iff, Bool.and_eq_false_iff, bne_eq_false_iff_eq,
      decide_eq_false_iff_not, gt_iff_lt] at hwindow
    obtain ⟨⟨hearliest, hlatest⟩, -⟩ := hwindow
    exact ⟨fun hne => UInt64.not_lt.mp (hearliest.resolve_left hne),
      fun hne => UInt64.not_lt.mp (hlatest.resolve_left hne)⟩
  case authority =>
    intro hzero
    rw [hzero] at hauthority
    cases hauthority

end Scheduler

/-- In every reachable state and for every policy, each request that `schedule`
selects or keeps as fallback has all of its evidence. -/
theorem hard_eligibility_never_bypassed (policy : PolicyConfig ℚ) (epoch : CoordinatorEpoch)
    (actions : List (Action ℚ)) (recordOrder : List CollectiveRequestId)
    (grantOrder : List CollectiveGrantId) (s' : Scheduler ℚ) (dec : ScheduleDecision ℚ)
    (hdecided : ((World.start policy epoch).run actions).sys.sched.schedule recordOrder
      grantOrder = (s', .ok dec))
    (id : CollectiveRequestId) (hid : id ∈ dec.selected ∨ id ∈ dec.fallback) :
    ∃ rec, ((World.start policy epoch).run actions).sys.sched.records.find? id = some rec ∧
      ((World.start policy epoch).run actions).sys.sched.HardEvidence rec.request := by
  obtain ⟨rec, hfind, heligible⟩ :=
    (Scheduler.mem_decision_iff (World.run_keyed policy epoch actions) hdecided).mp hid
  exact ⟨rec, hfind, Scheduler.eligible_hardEvidence heligible⟩

/-- With two conflicting requests, one is selected and the other is the fallback;
both have their evidence. -/
theorem hard_eligibility_never_bypassed_contended :
    ∃ s' dec, ((World.start PolicyConfig.default 1).run
          (Scenario.conflictingRequests.map .call)).sys.sched.schedule [] [] = (s', .ok dec) ∧
      ∀ id ∈ ([1, 2] : List CollectiveRequestId), (id ∈ dec.selected ∨ id ∈ dec.fallback) ∧
        ∃ rec, ((World.start PolicyConfig.default 1).run
            (Scenario.conflictingRequests.map .call)).sys.sched.records.find? id = some rec ∧
          ((World.start PolicyConfig.default 1).run
            (Scenario.conflictingRequests.map .call)).sys.sched.HardEvidence rec.request := by
  have hcheck : (((World.start PolicyConfig.default 1).run
        (Scenario.conflictingRequests.map .call)).sys.sched.schedule [] []).2.toOption.any
      (fun dec => ∀ id ∈ ([1, 2] : List CollectiveRequestId),
        id ∈ dec.selected ∨ id ∈ dec.fallback) = true := by decide +kernel
  rcases hround : ((World.start PolicyConfig.default 1).run
      (Scenario.conflictingRequests.map .call)).sys.sched.schedule [] [] with ⟨s', e | dec⟩
  · rw [hround] at hcheck
    cases hcheck
  · rw [hround] at hcheck
    have hranked : ∀ id ∈ ([1, 2] : List CollectiveRequestId),
        id ∈ dec.selected ∨ id ∈ dec.fallback := of_decide_eq_true hcheck
    exact ⟨s', dec, rfl, fun id hid => ⟨hranked id hid,
      hard_eligibility_never_bypassed _ _ _ _ _ s' dec hround id (hranked id hid)⟩⟩

end CollectiveScheduler
