/-
  Properties/AtMostOnce.lean --- the fabric is asked about a request generation once.

  The first section of `handoff` asks the fabric about a grant of a GRANTED record and
  leaves the record DISPATCHING.  No call leads from there back to GRANTED: a record that
  is DISPATCHING or ACTIVE stays started or is spent, and a spent one stays spent, until a
  larger generation takes its place.  So a generation goes to the fabric at most once, and
  it is DISPATCHING, ACTIVE or COMPLETED only if it went there.
-/
import CollectiveScheduler.System.FabricStep
import CollectiveScheduler.System.Scenario

set_option autoImplicit false

namespace CollectiveScheduler

open Foundation LifecycleState

variable {D : Type}

namespace System

variable [Double D] {y : System D} {op : Op D} {id : CollectiveRequestId}
  {gen : CollectiveRequestGeneration}

/-! ## Generations that are past the fabric -/

/-- The record of the id is past the fabric at this generation, or at a later one. -/
def PastFabric (id : CollectiveRequestId) (gen : CollectiveRequestGeneration) (y : System D) :
    Prop :=
  ∃ rec, y.sched.records.find? id = some rec ∧
    (gen < rec.request.gen ∨ rec.request.gen = gen ∧ rec.lifecycle.isPast = true)

/-- The record of the id is DISPATCHING, ACTIVE or COMPLETED at this generation. -/
def StartedAt (id : CollectiveRequestId) (gen : CollectiveRequestGeneration) (y : System D) :
    Prop :=
  ∃ rec, y.sched.records.find? id = some rec ∧ rec.request.gen = gen ∧
    rec.lifecycle.isStarted = true

theorem pastFabric_of_asked (h : asksFabric id gen y op = true) :
    PastFabric id gen (y.next op) := by
  obtain ⟨g, hasked, rfl, rfl⟩ := asksFabric_iff.mp h
  obtain ⟨rec, st, -, -, hgen, hstarted, hrecords⟩ := askedAbout_some hasked
  refine ⟨{ rec with lifecycle := st }, ?_, .inr ⟨hgen, ?_⟩⟩
  · rw [hrecords, FinMap.find?_insert_self]
  · rw [isPast, hstarted, Bool.true_or]

theorem PastFabric.next (h : PastFabric id gen y) (op : Op D) :
    PastFabric id gen (y.next op) := by
  obtain ⟨rec, hfind, hcase⟩ := h
  have hstep := y.fabricStep op id
  rw [hfind] at hstep
  generalize hafter : (y.next op).sched.records.find? id = after at hstep
  cases hstep with
  | paced hpaced =>
      refine ⟨_, hafter, ?_⟩
      rw [hpaced.request]
      exact hcase.imp_right fun ⟨hgen, hpast⟩ => ⟨hgen, hpaced.paces.past hpast⟩
  | replaced hgen hlife =>
      refine ⟨_, hafter, .inl ?_⟩
      rcases hcase with hlater | ⟨rfl, -⟩
      · exact lt_trans hlater hgen
      · exact hgen
  | asked hrequest hgranted hstarted _ =>
      refine ⟨_, hafter, ?_⟩
      rw [hrequest]
      refine hcase.imp_right fun ⟨hgen, _⟩ => ⟨hgen, ?_⟩
      rw [isPast, hstarted, Bool.true_or]

theorem PastFabric.not_asked (h : PastFabric id gen y) (op : Op D) :
    asksFabric id gen y op = false := by
  rw [Bool.eq_false_iff]
  intro hevent
  obtain ⟨g, hasked, rfl, rfl⟩ := asksFabric_iff.mp hevent
  obtain ⟨rec, -, hfind, hgranted, hgen, -⟩ := askedAbout_some hasked
  obtain ⟨rec', hfind', hcase⟩ := h
  rw [hfind, Option.some.injEq] at hfind'
  subst hfind'
  rcases hcase with hlater | ⟨-, hpast⟩
  · exact absurd hgen hlater.ne'
  · rw [hgranted] at hpast
    cases hpast

theorem startedAt_of_next (hnot : asksFabric id gen y op = false)
    (h : StartedAt id gen (y.next op)) : StartedAt id gen y := by
  obtain ⟨rec', hfind', hgen, hstarted⟩ := h
  have hstep := y.fabricStep op id
  rw [hfind'] at hstep
  obtain ⟨rec, hfind, hrequest, hcase⟩ := hstep.started_cases hstarted
  rw [← hrequest, hgen, hnot] at hcase
  obtain ⟨-, hbefore⟩ := hcase.resolve_right Bool.false_ne_true
  exact ⟨rec, hfind, hrequest ▸ hgen, hbefore⟩

end System

/-- In every run, with any interleaving of critical sections and any grant arguments, the
fabric is asked about a request generation at most once; and it was asked about every
generation that is DISPATCHING, ACTIVE or COMPLETED. -/
theorem fabric_is_asked_once [Double D] (policy : PolicyConfig D) (epoch : CoordinatorEpoch)
    (ops : List (Op D)) (id : CollectiveRequestId) (gen : CollectiveRequestGeneration) :
    let asked := Runs.occurrences System.next (System.asksFabric id gen)
      (System.start policy epoch) ops
    asked ≤ 1 ∧ (((System.start policy epoch).run ops).StartedAt id gen → asked = 1) := by
  intro asked
  have honce : asked ≤ 1 :=
    Runs.occurrences_le_one (fun _ _ h => System.pastFabric_of_asked h)
      (fun _ op h => h.next op) (fun _ op h => h.not_asked op) ops _
  refine ⟨honce, fun hstarted => Nat.le_antisymm honce ?_⟩
  refine Runs.occurrences_pos (P := System.StartedAt id gen)
    (fun _ _ hnot h => System.startedAt_of_next hnot h) ?_ hstarted
  rintro ⟨rec, hfind, -⟩
  cases hfind

namespace Scenario

/-- A handoff is tried again between its two sections and after them, before the work is
completed. -/
def repeatedHandoff : List (Op ℚ) :=
  withGrant [.publishParticipant (participant 1 1 1 11), .publishPlan (plan 1 1 [1]),
    .submit (request 1 [1] 1), .schedule [] []] 1
    (fun g => [.handoffBegin g, .handoff g true, .handoffEnd g true, .handoff g true,
      .complete g 11 100])

end Scenario

/-- Three calls offer the grant, and one of them reaches the fabric. -/
theorem fabric_is_asked_once_repeated :
    ((System.start PolicyConfig.default 1).run Scenario.repeatedHandoff).StartedAt 1 1 ∧
    Runs.occurrences System.next (System.asksFabric 1 1) (System.start PolicyConfig.default 1)
      Scenario.repeatedHandoff = 1 := by
  have hcompleted : (((System.start PolicyConfig.default 1).run
      Scenario.repeatedHandoff).sched.records.find? 1).map
        (fun rec => (rec.request.gen, rec.lifecycle)) = some (1, .completed) := by
    decide +kernel
  obtain ⟨rec, hfind, hrec⟩ := Option.map_eq_some_iff.mp hcompleted
  obtain ⟨hgen, hlife⟩ := Prod.mk.injEq _ _ _ _ ▸ hrec
  have hstarted : ((System.start PolicyConfig.default 1).run
      Scenario.repeatedHandoff).StartedAt 1 1 := ⟨rec, hfind, hgen, by rw [hlife]; rfl⟩
  exact ⟨hstarted,
    (fabric_is_asked_once PolicyConfig.default 1 Scenario.repeatedHandoff 1 1).2 hstarted⟩

end CollectiveScheduler
