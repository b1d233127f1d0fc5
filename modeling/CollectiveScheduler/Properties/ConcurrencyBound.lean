/-
  Properties/ConcurrencyBound.lean --- how many grants execute at once.

  `schedule` compares the number of active grants plus what it has selected with
  `bounds.max_active_grants`, and a grant becomes active later, in `handoff`.  Grants
  that were issued and not handed off yet are not counted, so two rounds before the
  first handoff can exceed the bound.  Executing grants and granted requests together
  are the load of the state: a handoff moves a request from one to the other, and only a
  round adds to it.
-/
import CollectiveScheduler.Scheduler.Groups
import CollectiveScheduler.System.EvidenceStep
import CollectiveScheduler.System.Execution
import CollectiveScheduler.System.Scenario

set_option autoImplicit false

namespace CollectiveScheduler

open Foundation

variable {D : Type}

namespace Scheduler

/-- The requests that are granted and not handed off yet. -/
def grantedCount (s : Scheduler D) : Nat :=
  s.records.count fun rec => decide (rec.lifecycle = .granted)

/-- The grants that execute or may be handed off. -/
def load (s : Scheduler D) : Nat := s.grants.count GrantState.isLive + s.grantedCount

/-- Whatever a round of this state can grant fits beside the load. -/
def HasRoomForRound [Double D] (s : Scheduler D) : Prop :=
  s.EveryGroup fun ids => s.load + ids.length ≤ s.policy.bounds.maxActiveGrants.toNat

instance [Double D] (s : Scheduler D) : Decidable s.HasRoomForRound :=
  inferInstanceAs (Decidable (s.EveryGroup _))

variable {s s' : Scheduler D} {admitted : List CollectiveRequestId}

theorem ExecutionStep.count_live_le (h : ExecutionStep admitted s s') :
    s'.grants.count GrantState.isLive ≤ s.grants.count GrantState.isLive := by
  refine FinMap.count_le_add [] fun gid hgid => .inl ?_
  obtain ⟨gs, hl⟩ := any_isLive_iff.mp hgid
  exact any_isLive_iff.mpr ⟨gs, h.live gid gs hl⟩

theorem ExecutionStep.grantedCount_le (h : ExecutionStep admitted s s') :
    s'.grantedCount ≤ s.grantedCount + admitted.length := by
  refine FinMap.count_le_add admitted fun id hid => ?_
  obtain ⟨rec', hfind', hg'⟩ := (Option.any_eq_true _ _).mp hid
  obtain ⟨rec, hfind, -, hcase⟩ := h.granted id rec' hfind' (of_decide_eq_true hg')
  exact hcase.imp_left fun hg => (Option.any_eq_true _ _).mpr ⟨rec, hfind, decide_eq_true hg⟩

/-- Only what a call admits adds to the load. -/
theorem ExecutionStep.load_le (h : ExecutionStep admitted s s') :
    s'.load ≤ s.load + admitted.length := by
  have hlive := h.count_live_le
  have hgranted := h.grantedCount_le
  unfold load
  omega

/-- A handoff moves a request from the granted to the executing ones. -/
theorem Launch.load_le {g : CollectiveGrant} {rec rec' : Record D} {gs : GrantState}
    (h : Launch g rec rec' gs s s') : s'.load ≤ s.load := by
  have hlive : s'.grants.count GrantState.isLive ≤
      s.grants.count GrantState.isLive + [g.id].length := by
    refine FinMap.count_le_add [g.id] fun gid hgid => ?_
    obtain ⟨gs', hl⟩ := any_isLive_iff.mp hgid
    rcases h.live hl with ⟨hid, -⟩ | ⟨-, hl₀⟩
    · exact .inr (List.mem_singleton.mpr hid)
    · exact .inl (any_isLive_iff.mpr ⟨gs', hl₀⟩)
  have hgranted : s.grantedCount = s'.grantedCount + 1 := by
    refine FinMap.count_succ (k := g.request) ?_ ?_ fun id hid => ?_
    · rw [h.records, FinMap.find?_insert_self]
      exact decide_eq_false h.executes.not_granted
    · rw [h.found]
      exact decide_eq_true h.granted
    · rw [h.records, FinMap.find?_insert_of_ne _ _ hid]
  rw [List.length_singleton] at hlive
  unfold load
  omega

end Scheduler

/-! ## Whole runs -/

/-- The call leaves the policy as it is. -/
def Op.KeepsPolicy (policy : PolicyConfig D) : Op D → Prop
  | .setPolicy cfg => cfg = policy
  | _ => True

instance [DecidableEq D] (policy : PolicyConfig D) (op : Op D) :
    Decidable (op.KeepsPolicy policy) := by
  rcases op <;> unfold Op.KeepsPolicy <;> infer_instance

/-- A scheduling round is made only where what it can grant fits beside what is engaged. -/
def Op.FitsRound [Double D] (y : System D) : Op D → Prop
  | .schedule _ _ => y.sched.HasRoomForRound
  | _ => True

instance [Double D] (y : System D) (op : Op D) : Decidable (op.FitsRound y) := by
  rcases op <;> unfold Op.FitsRound <;> infer_instance

theorem System.next_policy [Double D] {y : System D} {op : Op D} {policy : PolicyConfig D}
    (h : y.sched.policy = policy) (hop : op.KeepsPolicy policy) :
    (y.next op).sched.policy = policy := by
  cases hset : op.isSetPolicy with
  | false => exact (y.policy_next hset).trans h
  | true =>
      cases op with
      | setPolicy cfg => exact hop
      | _ => cases hset

/-- The load stays within the bound when every round has room for what it can grant. -/
theorem System.next_load [Double D] {y : System D} {op : Op D} (hsound : y.Sound)
    (h : y.sched.load ≤ y.sched.policy.bounds.maxActiveGrants.toNat)
    (hatomic : op.isAtomic = true) (hissued : op.UsesIssued y) (hfits : op.FitsRound y) :
    (y.next op).sched.load ≤ y.sched.policy.bounds.maxActiveGrants.toNat := by
  rcases next_execution hsound hatomic hissued with hstep | ⟨g, rec, rec', gs, hlaunch⟩
  · refine hstep.load_le.trans ?_
    cases op with
    | schedule recordOrder grantOrder =>
        exact Scheduler.EveryGroup.selection hfits hsound.orderly.keyed h recordOrder
    | _ => exact h
  · exact hlaunch.load_le.trans h

/-- In every run of atomic calls with issued grants that keeps its policy and makes a
scheduling round only where what it can grant fits beside what is engaged, no more grants
execute than the policy allows. -/
theorem concurrency_bounded_of_fitting_rounds [Double D] (policy : PolicyConfig D)
    (epoch : CoordinatorEpoch) (ops : List (Op D))
    (hrun : Runs.Admissible System.next
      (fun y op => op.isAtomic = true ∧ op.UsesIssued y ∧ op.KeepsPolicy policy ∧ op.FitsRound y)
      (System.start policy epoch) ops) :
    ((System.start policy epoch).run ops).sched.grants.count GrantState.isLive ≤
      policy.bounds.maxActiveGrants.toNat := by
  have hinvariant := Runs.invariant
    (I := fun y : System D => y.Sound ∧ y.sched.policy = policy ∧
      y.sched.load ≤ policy.bounds.maxActiveGrants.toNat)
    (fun y op ⟨hsound, hpolicy, hload⟩ ⟨hatomic, hissued, hkeeps, hfits⟩ => by
      refine ⟨System.next_sound hsound hissued, System.next_policy hpolicy hkeeps, ?_⟩
      rw [← hpolicy] at hload ⊢
      exact System.next_load hsound hload hatomic hissued hfits)
    ⟨System.start_sound policy epoch, rfl, Nat.zero_le _⟩ hrun
  exact (Nat.le_add_right _ _).trans hinvariant.2.2

namespace Scenario

/-- The default policy with room for one grant. -/
def oneAtATime : PolicyConfig ℚ :=
  { PolicyConfig.default with bounds := { maxActiveGrants := 1 } }

/-- Two requests without a common participant. -/
def pairRequests : List (Op ℚ) := disjointRequests .overlapAllowed .empty

/-- The first request completes before the second round. -/
def oneByOne : List (Op ℚ) :=
  withGrantFrom (System.start oneAtATime 1)
    (withGrantFrom (System.start oneAtATime 1) (pairRequests ++ [.schedule [] []]) 1
      (fun g => [.handoff g true, .complete g 11 100, .schedule [] []]))
    2 (fun g => [.handoff g true])

/-- Two rounds before the first handoff. -/
def bothGranted : List (Op ℚ) :=
  withGrantFrom (System.start oneAtATime 1)
    (withGrantFrom (System.start oneAtATime 1)
      (pairRequests ++ [.schedule [] [], .schedule [] []]) 1 (fun g => [.handoff g true]))
    2 (fun g => [.handoff g true])

end Scenario

theorem concurrency_bounded_of_fitting_rounds_one_by_one :
    Runs.Admissible System.next
        (fun y op => op.isAtomic = true ∧ op.UsesIssued y ∧
          op.KeepsPolicy Scenario.oneAtATime ∧ op.FitsRound y)
        (System.start Scenario.oneAtATime 1) Scenario.oneByOne ∧
      ((System.start Scenario.oneAtATime 1).run Scenario.oneByOne).sched.grants.count
        GrantState.isLive ≤ 1 :=
  have hrun : Runs.Admissible System.next
      (fun y op => op.isAtomic = true ∧ op.UsesIssued y ∧
        op.KeepsPolicy Scenario.oneAtATime ∧ op.FitsRound y)
      (System.start Scenario.oneAtATime 1) Scenario.oneByOne := by decide +kernel
  ⟨hrun, concurrency_bounded_of_fitting_rounds Scenario.oneAtATime 1 Scenario.oneByOne hrun⟩

/-- Under a policy with room for one grant, two rounds before the first handoff grant both
requests, and both execute after their handoffs. -/
theorem concurrency_bound_is_exceeded :
    AtomicRun (System.start Scenario.oneAtATime 1) Scenario.bothGranted ∧
      (∀ op ∈ Scenario.bothGranted, op.KeepsPolicy Scenario.oneAtATime) ∧
      Scenario.oneAtATime.bounds.maxActiveGrants.toNat <
        ((System.start Scenario.oneAtATime 1).run Scenario.bothGranted).sched.grants.count
          GrantState.isLive :=
  ⟨by decide +kernel, by decide +kernel, by decide +kernel⟩

end CollectiveScheduler
