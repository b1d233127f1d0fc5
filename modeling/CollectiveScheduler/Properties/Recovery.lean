/-
  Properties/Recovery.lean --- recovery in place is conservative.

  `resetDynamicStateForRecovery` clears the grant table and takes every record out
  of the states that lead to a grant.  A grant that was issued before is then spent
  for good: its record is found at the grant's generation in a spent state, or at a
  later generation.  Republishing the same evidence does not change that.

  The state before the reset is any that calls and restores can reach; the grants
  are those issued since the last restore, which are all of them when there was
  none.  An older grant is not covered: the restore may have set the counters back
  behind it (`recovery_accepts_grant_of_lost_request`).
-/
import CollectiveScheduler.System.Barred
import CollectiveScheduler.System.Scenario

set_option autoImplicit false

namespace CollectiveScheduler

open Foundation

variable {D : Type}

/-- In every continuation of a reset, a handoff or a completion with a grant that
was issued since the last restore before it returns false.  A handoff that was between
its two sections at the reset returns false as well, unless the id counter was
saturated. -/
theorem recovery_refuses_issued_grants [Double D] (policy : PolicyConfig D)
    (epoch : CoordinatorEpoch) (actions : List (Action D)) (after : List (Op D))
    (g : CollectiveGrant) (accepted : Bool) (wb : WorkerBootId) (sb : SourceBootId) :
    let w := (World.start policy epoch).run actions
    let z := (w.sys.next .resetDynamicStateForRecovery).run after
    g ∈ w.issuedSinceRestore →
      z.outcome (.handoff g accepted) = .answered false ∧
      z.outcome (.handoffBegin g) = .asked false ∧
      z.outcome (.complete g wb sb) = .answered false ∧
      (w.sys.sched.nextGrantId.value.toNat < maxValue →
        (z.outcome (.handoffEnd g accepted)).isTrue = false) := by
  intro w z hg
  have hrecorded : w.sinceRestore.Recorded := World.sinceRestore_recorded policy epoch actions
  obtain ⟨rec, hfind, hgen⟩ := hrecorded.known g hg
  have hspent : z.sched.Spent g := System.run_spent (Scheduler.spent_reset hfind hgen) after
  obtain ⟨hhandoff, hbegin, hcomplete⟩ := System.refuses_spent hspent accepted wb sb
  refine ⟨hhandoff, hbegin, hcomplete, fun hroom => ?_⟩
  have hvacant : z.sched.Vacant g.id := by
    refine System.run_vacant ⟨?_, rfl⟩ after
    rcases hrecorded.counted g hg with hlt | hmax
    · exact hlt
    · exact absurd hmax (Nat.ne_of_lt hroom)
  simp only [System.outcome, System.step]
  split_ifs
  · exact hvacant.handoffEnd_false accepted
  · rfl

namespace Scenario

/-- The fresh scheduler is saved and restored, and a request is granted and handed off. -/
def executingAfterRestore : List (Action ℚ) :=
  .save [] :: .restore (Persistence.save (start : System ℚ).sched []) :: executing.map .call

/-- The evidence is published again, and the request is superseded and granted again. -/
def grantedAgain : List (Op ℚ) :=
  [.publishParticipant (participant 1 1 1 11), .publishPlan (plan 1 1 [1]),
    .supersede nextGeneration, .schedule [] []]

/-- The fresh scheduler is saved, a request of collective 1 is granted, and the snapshot is
restored. -/
def grantLost : List (Action ℚ) :=
  .save [] :: (grantOne 1 [1, 2] 1).map .call ++
    [.restore (Persistence.save (start : System ℚ).sched [])]

end Scenario

/-- The old grant stays refused although the record is granted. -/
theorem recovery_refuses_issued_grants_superseded :
    let w := (World.start PolicyConfig.default 1).run Scenario.executingAfterRestore
    let z := (w.sys.next .resetDynamicStateForRecovery).run Scenario.grantedAgain
    ∃ g ∈ w.issuedSinceRestore,
      (z.sched.records.find? g.request).map (·.lifecycle) = some .granted ∧
      z.outcome (.handoff g true) = .answered false := by
  intro w z
  obtain ⟨g, hg, hgranted⟩ : ∃ g ∈ w.issuedSinceRestore,
      (z.sched.records.find? g.request).map (·.lifecycle) = some .granted := by decide +kernel
  exact ⟨g, hg, hgranted, (recovery_refuses_issued_grants PolicyConfig.default 1
    Scenario.executingAfterRestore Scenario.grantedAgain g true 11 100 hg).1⟩

/-- After the restore and the reset, a request of collective 2 gets the ids of the lost one,
and the grant of collective 1 is handed off and completes it. -/
theorem recovery_accepts_grant_of_lost_request :
    let w := (World.start PolicyConfig.default 1).run Scenario.grantLost
    let z := (w.sys.next .resetDynamicStateForRecovery).run (Scenario.grantOne 2 [2, 3] 2)
    w.sys.sched.nextGrantId.value.toNat < maxValue ∧ ∃ g ∈ w.sys.issued,
      g ∉ w.issuedSinceRestore ∧ g.collective = ⟨1⟩ ∧
      (z.sched.records.find? g.request).map (·.request.collective) = some ⟨2⟩ ∧
      z.outcome (.handoff g true) = .answered true ∧
      (z.next (.handoff g true)).outcome (.complete g 11 100) = .answered true := by
  decide +kernel

end CollectiveScheduler
