/-
  Properties/LifecycleGuard.lean --- the lifecycle guard is never bypassed.

  Three operations catch the error of a refused transition and overwrite the state
  with the target: `cancel`, `supersede` and `resetDynamicStateForRecovery`.  And
  `schedule` would throw on a record left in ELIGIBLE whose evidence has gone,
  because the table has no step from there to WAITING.  Neither happens: between
  calls a record is only ever in one of nine states (`LifecycleState.atRest`), and
  from those the guard admits everything the operations ask of it.

  The statement is over every state that calls and restores of saved snapshots can
  reach, with any grants as arguments and handoffs interleaved in any way.
-/
import CollectiveScheduler.System.Durable
import CollectiveScheduler.System.Scenario

set_option autoImplicit false

namespace CollectiveScheduler

open Foundation LifecycleState

variable {D : Type}

/-! ## Reachable states -/

/-- The states reached from a fresh scheduler by calls, and by restores of bytes
that `save` wrote in a reachable state. -/
inductive System.Reachable [Double D] : System D → Prop
  | start (policy : PolicyConfig D) (epoch : CoordinatorEpoch) :
      Reachable (System.start policy epoch)
  | call {y : System D} (h : Reachable y) (op : Op D) : Reachable (y.next op)
  | restore {y z : System D} (h : Reachable y) (hz : Reachable z)
      (recordOrder : List CollectiveRequestId) :
      Reachable { y with
        sched := (Persistence.restore y.sched (Persistence.save z.sched recordOrder)).1 }

theorem System.Reachable.run [Double D] {y : System D} (h : y.Reachable) (ops : List (Op D)) :
    (y.run ops).Reachable :=
  Runs.exec_induct (P := System.Reachable) (fun _ op hy => hy.call op) ops h

theorem System.Reachable.durable [Double D] {y : System D} (h : y.Reachable) :
    y.sched.Durable := by
  induction h with
  | start policy epoch => exact Scheduler.fresh_durable policy epoch
  | call _ op ih => exact System.next_durable ih op
  | restore _ _ recordOrder ih ihz =>
      dsimp only
      exact ih.restore_save ihz recordOrder

/-! ## The handlers -/

/-- No handler that overwrites a lifecycle state has work to do on the record: the
transition in front of it succeeds, or the state already is the target. -/
structure Record.Unforced (rec : Record D) : Prop where
  cancel : rec.lifecycle.isTerminalState = false →
    rec.lifecycle.transition .cancelled = .ok .cancelled
  supersede : rec.lifecycle ≠ .completed → rec.lifecycle ≠ .cancelled →
    rec.lifecycle.transition .superseded = .ok .superseded
  recover : rec.lifecycle.isTerminalState = false →
    rec.lifecycle = .revalidationRequired ∨
      rec.lifecycle.transition .revalidationRequired = .ok .revalidationRequired

theorem Record.unforced_of_atRest {rec : Record D} (h : rec.lifecycle.atRest = true) :
    rec.Unforced := by
  -- every target is in the table's row of each of the nine states, except for the
  -- states that the tests in front of the transitions exclude
  constructor
  · intro hterminal
    cases hlife : rec.lifecycle <;> rw [hlife] at h hterminal <;> first
      | rfl
      | exact absurd h (by decide)
      | exact absurd hterminal (by decide)
  · intro hcompleted hcancelled
    cases hlife : rec.lifecycle <;> rw [hlife] at h hcompleted hcancelled <;> first
      | rfl
      | exact absurd h (by decide)
      | exact absurd rfl hcompleted
      | exact absurd rfl hcancelled
  · intro hterminal
    cases hlife : rec.lifecycle <;> rw [hlife] at h hterminal <;> first
      | exact .inl rfl
      | exact .inr rfl
      | exact absurd h (by decide)
      | exact absurd hterminal (by decide)

/-! ## The guard -/

/-- From a state at rest, a call moves a record along the table or replaces it. -/
theorem RecordStep.chain {op : Op D} {id : CollectiveRequestId} {rec rec' : Record D}
    (h : RecordStep op id (some rec) (some rec')) (hrest : rec.lifecycle.atRest = true) :
    Chain rec.lifecycle rec'.lifecycle ∨
      ∃ req, op = .supersede req ∧ req.id = id ∧ rec.request.gen < req.gen ∧
        rec'.request = req := by
  cases h with
  | carried hcarried => exact .inl (hcarried.moves.guarded hrest).1
  | replaced hop hid hgen _ => exact .inr ⟨_, hop, hid, hgen, rfl⟩

/-- In every reachable state the records are in the nine states of `atRest`, every
call moves each record along the table or replaces it by `supersede`, no handler
overwrites a state that the guard protects, and a scheduling round returns a
decision. -/
theorem lifecycle_guard_never_bypassed [Double D] {y : System D} (h : y.Reachable) :
    (∀ id rec, y.sched.records.find? id = some rec →
      rec.lifecycle.atRest = true ∧ rec.Unforced) ∧
    (∀ op id rec rec', y.sched.records.find? id = some rec →
      (y.next op).sched.records.find? id = some rec' →
      Chain rec.lifecycle rec'.lifecycle ∨
        ∃ req, op = .supersede req ∧ req.id = id ∧ rec.request.gen < req.gen ∧
          rec'.request = req) ∧
    (∀ recordOrder grantOrder,
      ∃ dec, y.outcome (.schedule recordOrder grantOrder) = .decided dec) := by
  have horderly := h.durable.orderly
  refine ⟨fun id rec hfind => ?_, fun op id rec rec' hfind hfind' => ?_,
    fun recordOrder grantOrder => ?_⟩
  · have hrest := (horderly id rec hfind).atRest
    exact ⟨hrest, Record.unforced_of_atRest hrest⟩
  · have hstep := y.recordStep op id
    rw [hfind, hfind'] at hstep
    exact hstep.chain (horderly id rec hfind).atRest
  · obtain ⟨s, dec, created, hround⟩ :=
      Scheduler.scheduleRound_isOk horderly.settled recordOrder grantOrder
    refine ⟨dec, ?_⟩
    simp only [System.outcome, System.step, hround]

/-- A granted collective is saved and restored into a fresh scheduler: its record
waits for revalidation, and a round decides. -/
theorem lifecycle_guard_never_bypassed_restored :
    let fresh : System ℚ := Scenario.start
    let y := fresh.run
      [.publishParticipant (Scenario.participant 1 1 1 11), .publishPlan (Scenario.plan 1 1 [1]),
        .submit (Scenario.request 1 [1] 1), .schedule [] []]
    let z := { fresh with
      sched := (Persistence.restore fresh.sched (Persistence.save y.sched [])).1 }
    (y.sched.records.find? ⟨1⟩).map (·.lifecycle) = some .granted ∧
      (z.sched.records.find? ⟨1⟩).map (·.lifecycle) = some .revalidationRequired ∧
      ∃ dec, z.outcome (.schedule [] []) = .decided dec := by
  intro fresh y z
  have hfresh : fresh.Reachable := .start _ _
  have hz : z.Reachable := .restore hfresh (hfresh.run _) []
  exact ⟨by decide +kernel, by decide +kernel, (lifecycle_guard_never_bypassed hz).2.2 [] []⟩

end CollectiveScheduler
