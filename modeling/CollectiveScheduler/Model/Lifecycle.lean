/-
  Model/Lifecycle.lean --- the guarded lifecycle state machine.

  Source: include/collective_scheduler/lifecycle.hpp and `is_terminal_state` of
  src/scheduler.cpp.
-/
import Mathlib.Logic.Relation
import CollectiveScheduler.Model.Enums

set_option autoImplicit false

namespace CollectiveScheduler

namespace LifecycleState

/-- `Lifecycle::can_transition`. -/
def canTransition (source target : LifecycleState) : Bool :=
  match source with
  | .declared =>
      target ∈ [waiting, ready, cancelled, revalidationRequired, superseded, stale,
        retired, failed]
  | .waiting =>
      target ∈ [ready, revalidationRequired, cancelled, superseded, stale, retired, failed]
  | .ready =>
      target ∈ [eligible, waiting, revalidationRequired, cancelled, superseded, stale,
        retired, failed]
  | .eligible =>
      target ∈ [queued, cancelled, revalidationRequired, superseded, stale, retired, failed]
  | .queued =>
      target ∈ [granted, waiting, cancelled, revalidationRequired, superseded, stale,
        retired, failed]
  | .granted =>
      target ∈ [dispatching, cancelled, revalidationRequired, superseded, stale, retired,
        failed]
  | .dispatching =>
      target ∈ [active, cancelled, failed, revalidationRequired, superseded, stale, retired]
  | .active =>
      target ∈ [completed, draining, failed, cancelled, revalidationRequired, superseded,
        stale, retired]
  | .draining => target ∈ [completed, active, failed, superseded, stale, retired]
  | .completed => target = retired
  | .cancelled => target = retired
  | .failed => target ∈ [revalidationRequired, retired]
  | .revalidationRequired =>
      target ∈ [ready, waiting, cancelled, superseded, stale, retired, failed]
  | .superseded => target = retired
  | .stale => target = retired
  | .retired => false

/-- `Lifecycle::transition`: the new state, or the thrown error. -/
def transition (source target : LifecycleState) : Except SchedulerError LifecycleState :=
  if source.canTransition target then .ok target
  else .error (throwTransition
    ("illegal lifecycle transition " ++ source.nameOf ++ " -> " ++ target.nameOf))

/-- A transition inside `try { … } catch (const scheduler_error&) {}`: a refused
one leaves the state as it is. -/
def transitionOrKeep (source target : LifecycleState) : LifecycleState :=
  match source.transition target with
  | .ok st => st
  | .error _ => source

/-- A transition whose handler overwrites the state with the target. -/
def transitionOrForce (source target : LifecycleState) : LifecycleState :=
  match source.transition target with
  | .ok st => st
  | .error _ => target

/-- `is_terminal_state`. -/
def isTerminalState (st : LifecycleState) : Bool :=
  st ∈ [completed, cancelled, superseded, stale, retired]

/-- The states in which a participant change or a fence demands revalidation. -/
def isRevocable (st : LifecycleState) : Bool :=
  st ∈ [ready, eligible, queued, granted, dispatching, active]

/-- The states from which no operation takes a record back to a grant. -/
def isSpent (st : LifecycleState) : Bool :=
  st ∈ [draining, completed, cancelled, failed, revalidationRequired, superseded, stale, retired]

/-! ## The table, read backwards -/

theorem transition_ok_iff {source target st : LifecycleState} :
    source.transition target = .ok st ↔ source.canTransition target = true ∧ st = target := by
  by_cases h : source.canTransition target = true
  · simp [transition, h, eq_comm]
  · simp [transition, h]

theorem canTransition_dispatching {st : LifecycleState} :
    st.canTransition dispatching = true ↔ st = granted := by
  cases st <;> decide

theorem canTransition_completed {st : LifecycleState} :
    st.canTransition completed = true ↔ st = active ∨ st = draining := by
  cases st <;> decide

@[simp] theorem transitionOrForce_eq (source target : LifecycleState) :
    source.transitionOrForce target = target := by
  by_cases h : source.canTransition target = true
  · simp [transitionOrForce, transition, h]
  · simp [transitionOrForce, transition, h]

/-- A fence or a participant change always succeeds on a revocable state. -/
theorem transitionOrKeep_revalidationRequired {st : LifecycleState} (h : st.isRevocable) :
    st.transitionOrKeep revalidationRequired = revalidationRequired := by
  cases st <;> first | rfl | exact absurd h (by decide)

/-! ## Chains of guarded transitions -/

/-- `target` is reached from `source` by guarded transitions, possibly none. -/
def Chain (source target : LifecycleState) : Prop :=
  Relation.ReflTransGen (fun a b => a.canTransition b = true) source target

theorem Chain.refl (st : LifecycleState) : Chain st st := Relation.ReflTransGen.refl

theorem Chain.single {a b : LifecycleState} (h : a.canTransition b = true) : Chain a b :=
  Relation.ReflTransGen.single h

theorem Chain.trans {a b c : LifecycleState} (h : Chain a b) (h' : Chain b c) : Chain a c :=
  Relation.ReflTransGen.trans h h'

theorem Chain.ofTransition {a b st : LifecycleState} (h : a.transition b = .ok st) :
    Chain a st := by
  obtain ⟨hcan, rfl⟩ := transition_ok_iff.mp h
  exact Chain.single hcan

/-- The states a record is left in between operations. -/
def atRest (st : LifecycleState) : Bool :=
  st ∈ [declared, waiting, ready, granted, dispatching, active, completed, cancelled,
    revalidationRequired]

end LifecycleState

end CollectiveScheduler
