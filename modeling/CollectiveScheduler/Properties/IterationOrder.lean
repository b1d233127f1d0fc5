/-
  Properties/IterationOrder.lean --- the order of a hash map is not observable.

  `schedule` walks the records and the grants in the iteration order of two unordered
  maps, `fenceWorkerBoot` the records.  The order is an input of the model's calls.  Over
  exact scores two runs that differ in these orders only go through the same states and
  return the same values, up to the order in which a decision lists its priority
  inversions.
-/
import CollectiveScheduler.Properties.Fences
import CollectiveScheduler.Properties.LifecycleGuard
import CollectiveScheduler.Scheduler.RankOrder

set_option autoImplicit false

namespace CollectiveScheduler

open Foundation

/-! ## Calls and answers up to the order -/

section Agreement

variable {D : Type}

/-- The same call, whatever order it walks the maps in. -/
inductive Op.SameCall : Op D → Op D → Prop
  | refl (op : Op D) : SameCall op op
  | schedule (recordOrder recordOrder' : List CollectiveRequestId)
      (grantOrder grantOrder' : List CollectiveGrantId) :
      SameCall (.schedule recordOrder grantOrder) (.schedule recordOrder' grantOrder')
  | fenceWorkerBoot (worker : WorkerId) (boot : WorkerBootId)
      (recordOrder recordOrder' : List CollectiveRequestId) :
      SameCall (.fenceWorkerBoot worker boot recordOrder)
        (.fenceWorkerBoot worker boot recordOrder')

/-- Decisions that list their priority inversions in different orders at most. -/
def ScheduleDecision.Agrees (dec dec' : ScheduleDecision D) : Prop :=
  dec' = { dec with priorityInversions := dec'.priorityInversions } ∧
    dec.priorityInversions.Perm dec'.priorityInversions

/-- Answers that differ in the order of the priority inversions at most. -/
inductive Outcome.Agrees : Outcome D → Outcome D → Prop
  | refl (out : Outcome D) : Agrees out out
  | decided {dec dec' : ScheduleDecision D} (h : dec.Agrees dec') :
      Agrees (.decided dec) (.decided dec')

/-- What the callers of a run see. -/
def System.outcomes [Double D] : System D → List (Op D) → List (Outcome D)
  | _, [] => []
  | y, op :: rest => y.outcome op :: System.outcomes (y.next op) rest

end Agreement

/-! ## The round -/

namespace Scheduler

variable {s : Scheduler ℚ} (recordOrder recordOrder' : List CollectiveRequestId)
  (grantOrder grantOrder' : List CollectiveGrantId)

theorem candidates_perm (hkeyed : s.Keyed) :
    (s.candidates recordOrder).Perm (s.candidates recordOrder') := by
  rw [List.perm_ext_iff_of_nodup (nodup_candidates hkeyed recordOrder)
    (nodup_candidates hkeyed recordOrder')]
  intro id
  rw [mem_candidates_iff hkeyed, mem_candidates_iff hkeyed]

/-- The comparator tells all candidates apart, so the sort forgets the order in which they
were collected. -/
theorem rank_eq_of_perm {candidates candidates' : List CollectiveRequestId}
    (h : candidates.Perm candidates') : s.rank candidates = s.rank candidates' := by
  have hentries := h.filterMap (fun id => (s.records.find? id).map (s.rankedOf id))
  have hsorted := List.perm_insertionSort (fun a b => Ranked.before b a = false)
    (candidates.filterMap fun id => (s.records.find? id).map (s.rankedOf id))
  have hsorted' := List.perm_insertionSort (fun a b => Ranked.before b a = false)
    (candidates'.filterMap fun id => (s.records.find? id).map (s.rankedOf id))
  refine (hsorted.trans (hentries.trans hsorted'.symm)).eq_of_pairwise (fun a b _ _ hab hba => ?_)
    (s.rank_ordered candidates) (s.rank_ordered candidates')
  exact Ranked.rankOrder_injective (le_antisymm hab hba)

theorem accountFairness_eq_of_perm {t : Scheduler ℚ}
    {candidates candidates' : List CollectiveRequestId} (h : candidates.Perm candidates')
    (hnodup : candidates.Nodup) (selected : List CollectiveRequestId) :
    t.accountFairness candidates selected = t.accountFairness candidates' selected := by
  have hrecords : (t.accountFairness candidates selected).records =
      (t.accountFairness candidates' selected).records := by
    refine FinMap.ext_find? fun id => ?_
    rw [find?_accountFairness t selected hnodup,
      find?_accountFairness t selected (h.nodup_iff.mp hnodup)]
    simp only [h.mem_iff]
  exact congrArg (fun records => { t with records := records }) hrecords

theorem collectPriorityInversions_perm (t : Scheduler ℚ) (fallback : List CollectiveRequestId) :
    (t.collectPriorityInversions fallback grantOrder).Perm
      (t.collectPriorityInversions fallback grantOrder') := by
  unfold collectPriorityInversions
  refine List.Perm.flatMap_left fallback fun id _ => ?_
  split
  · exact .refl _
  · split_ifs
    · exact .refl _
    · exact ((t.grants.iteration_perm grantOrder).trans
        (t.grants.iteration_perm grantOrder').symm).filterMap _

/-- The passes after the candidates are known do not depend on the order they are in. -/
theorem decideRound_agrees (t : Scheduler ℚ) (dec : ScheduleDecision ℚ)
    {candidates candidates' : List CollectiveRequestId} (h : candidates.Perm candidates')
    (hnodup : candidates.Nodup) :
    (t.decideRound dec candidates grantOrder).1 = (t.decideRound dec candidates' grantOrder').1 ∧
      (t.decideRound dec candidates grantOrder).2.1.Agrees
        (t.decideRound dec candidates' grantOrder').2.1 ∧
      (t.decideRound dec candidates grantOrder).2.2 =
        (t.decideRound dec candidates' grantOrder').2.2 := by
  unfold decideRound
  simp only [rank_eq_of_perm h, accountFairness_eq_of_perm h hnodup]
  exact ⟨trivial, ⟨rfl, collectPriorityInversions_perm grantOrder grantOrder' _ _⟩, trivial⟩

/-- A round is its readiness pass and the passes after. -/
theorem scheduleRound_eq_decideRound (hsettled : s.Settled) :
    s.scheduleRound recordOrder grantOrder =
      ((s.passed.decideRound s.openDecision (s.candidates recordOrder) grantOrder).1,
        .ok (s.passed.decideRound s.openDecision (s.candidates recordOrder) grantOrder).2) := by
  obtain ⟨s', dec, created, hround⟩ := scheduleRound_isOk hsettled recordOrder grantOrder
  unfold scheduleRound at hround ⊢
  simp only at hround ⊢
  split at hround
  · cases hround
  · rename_i s₁ cands hpass
    obtain ⟨hpassed, hcandidates⟩ := refreshRecords_iteration hpass
    rw [hpassed, hcandidates]

end Scheduler

/-! ## Every call -/

section Calls

variable {y : System ℚ}

/-- The same call in another order gives the same state and an agreeing answer. -/
theorem System.step_agrees (horderly : y.sched.Orderly) (htidy : y.sched.IndexTidy)
    {op op' : Op ℚ} (h : op.SameCall op') :
    y.next op = y.next op' ∧ (y.outcome op).Agrees (y.outcome op') := by
  cases h with
  | refl => exact ⟨rfl, .refl _⟩
  | schedule recordOrder recordOrder' grantOrder grantOrder' =>
      obtain ⟨hstate, hdecision, hcreated⟩ := y.sched.passed.decideRound_agrees grantOrder
        grantOrder' y.sched.openDecision
        (Scheduler.candidates_perm recordOrder recordOrder' horderly.keyed)
        (Scheduler.nodup_candidates horderly.keyed recordOrder)
      unfold System.next System.outcome System.step
      simp only [Scheduler.scheduleRound_eq_decideRound _ _ horderly.settled]
      refine ⟨?_, .decided hdecision⟩
      rw [hstate, hcreated]
  | fenceWorkerBoot worker boot recordOrder recordOrder' =>
      have hsame : y.sched.fenceWorkerBoot worker boot recordOrder =
          y.sched.fenceWorkerBoot worker boot recordOrder' :=
        (y.sched.fenceWorkerBoot_hits worker boot recordOrder).unique
          (y.sched.fenceWorkerBoot_hits worker boot recordOrder')
          (htidy.fenceWorkerBoot _ _ _) (htidy.fenceWorkerBoot _ _ _)
      refine ⟨?_, .refl _⟩
      unfold System.next System.step
      simp only [hsame]

theorem System.Reachable.indexTidy (h : y.Reachable) : y.sched.IndexTidy := by
  induction h with
  | start policy epoch => exact FinMap.tidy_empty
  | call _ op ih => exact System.next_indexTidy ih op
  | restore _ _ recordOrder ih _ => exact ih.restore _

end Calls

/-- From every reachable state, two runs of the same calls that walk the hash maps in
different orders end in the same state, and their callers see the same answers up to the
order of the priority inversions in a decision. -/
theorem iteration_order_unobservable (y : System ℚ) (hreached : y.Reachable)
    (ops ops' : List (Op ℚ)) (hsame : List.Forall₂ Op.SameCall ops ops') :
    y.run ops = y.run ops' ∧ List.Forall₂ Outcome.Agrees (y.outcomes ops) (y.outcomes ops') := by
  induction hsame generalizing y with
  | nil => exact ⟨rfl, .nil⟩
  | @cons op op' rest rest' hop _ ih =>
      obtain ⟨hnext, houtcome⟩ :=
        System.step_agrees hreached.durable.orderly hreached.indexTidy hop
      obtain ⟨hrun, houtcomes⟩ := ih (y.next op) (hreached.call op)
      rw [System.outcomes, System.outcomes, ← hnext]
      refine ⟨?_, .cons houtcome houtcomes⟩
      change (y.next op).run rest = (y.next op').run rest'
      rw [← hnext]
      exact hrun

/-- Two requests are collected in both orders, and one of them is granted and fenced. -/
theorem iteration_order_unobservable_collected :
    let y := (System.start PolicyConfig.default 1).run Scenario.conflictingRequests
    y.sched.candidates [] = [1, 2] ∧ y.sched.candidates [2, 1] = [2, 1] ∧
      y.run [.schedule [] [], .fenceWorkerBoot 1 11 []] =
        y.run [.schedule [2, 1] [], .fenceWorkerBoot 1 11 [2, 1]] := by
  refine ⟨by decide +kernel, by decide +kernel, ?_⟩
  exact (iteration_order_unobservable _ ((System.Reachable.start _ _).run _) _ _
    (.cons (.schedule [] [2, 1] [] []) (.cons (.fenceWorkerBoot 1 11 [] [2, 1]) .nil))).1

end CollectiveScheduler
