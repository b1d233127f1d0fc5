/-
  Properties/PriorityMonotonicity.lean --- a larger priority never costs a request its
  selection.

  The priority of a request is read by the ranking alone.  Under a weight that is not
  negative a larger one moves the request up and leaves the order of the others as it is, so
  what the loop has walked through when it reaches the request is a front of what it walked
  through before, and nothing that a shorter front selects can hold the request back.
-/
import CollectiveScheduler.Scheduler.Alike
import CollectiveScheduler.Scheduler.RankOrder
import CollectiveScheduler.System.Scenario
import CollectiveScheduler.System.World
import Mathlib.Tactic.Linarith
import Mathlib.Tactic.Ring

set_option autoImplicit false

namespace CollectiveScheduler

open Foundation

namespace Scheduler

/-! ## The rank of a request with a larger priority -/

/-- The factor of the priority. -/
def priorityFactor (s : Scheduler ℚ) (priority : ExternalPriority) : ℚ :=
  priority.value.toInt / 100 * s.policy.wPriority

/-- The priority shows in one factor of the key. -/
theorem rankingKey_withPriority (s : Scheduler ℚ) (rec : Record ℚ)
    (priority : ExternalPriority) :
    ∃ urgency rest,
      s.rankingKey rec = urgency :: s.priorityFactor rec.request.priority :: rest ∧
      s.rankingKey (rec.withPriority priority) = urgency :: s.priorityFactor priority :: rest :=
  ⟨_, _, rfl, rfl⟩

theorem priorityFactor_le {s : Scheduler ℚ} (hweight : 0 ≤ s.policy.wPriority)
    {priority priority' : ExternalPriority} (hle : priority.value ≤ priority'.value) :
    s.priorityFactor priority ≤ s.priorityFactor priority' := by
  have hvalue : (priority.value.toInt : ℚ) ≤ priority'.value.toInt :=
    Int.cast_le.mpr (Int32.le_iff_toInt_le.mp hle)
  exact mul_le_mul_of_nonneg_right (div_le_div_of_nonneg_right hvalue (by norm_num)) hweight

/-- A larger priority ranks no later. -/
theorem rankOrder_withPriority_le {s : Scheduler ℚ} (hweight : 0 ≤ s.policy.wPriority)
    (id : CollectiveRequestId) {rec : Record ℚ} {priority : ExternalPriority}
    (hle : rec.request.priority.value ≤ priority.value) :
    (s.rankedOf id (rec.withPriority priority)).rankOrder ≤ (s.rankedOf id rec).rankOrder := by
  obtain ⟨urgency, rest, hkey, hkey'⟩ := s.rankingKey_withPriority rec priority
  rcases (priorityFactor_le hweight hle).eq_or_lt with heq | hlt
  · -- the weight is zero or the value the same: so is the entry
    have hsame : s.rankedOf id (rec.withPriority priority) = s.rankedOf id rec := by
      unfold rankedOf
      rw [hkey, hkey', heq]
      rfl
    rw [hsame]
  · have hscore : rankingScore (s.rankingKey rec) <
        rankingScore (s.rankingKey (rec.withPriority priority)) := by
      rw [rankingScore_eq_sum, rankingScore_eq_sum, hkey, hkey']
      simp only [List.sum_cons]
      linarith
    refine le_of_lt ((Ranked.before_iff _ _).mp ?_)
    unfold Ranked.before rankedOf
    simp only [Double.rat_eq, Double.rat_lt, hscore.ne', decide_false, Bool.not_false, if_true,
      decide_eq_true_eq]
    exact hscore

/-! ## The ranking with a larger priority -/

/-- The state with another priority value of one request. -/
def withPriorityOf (s : Scheduler ℚ) (id : CollectiveRequestId) (value : Int32) : Scheduler ℚ :=
  { s with
    records := s.records.modify id (fun rec =>
      rec.withPriority { rec.request.priority with value := value }) }

section Raised

variable {s : Scheduler ℚ} {id : CollectiveRequestId} {value : Int32}

theorem find?_withPriorityOf_of_ne {id' : CollectiveRequestId} (hne : id' ≠ id) :
    (s.withPriorityOf id value).records.find? id' = s.records.find? id' :=
  (FinMap.find?_modify _ _ _ _).trans (if_neg hne)

theorem find?_withPriorityOf_self {rec : Record ℚ} (hfind : s.records.find? id = some rec) :
    (s.withPriorityOf id value).records.find? id =
      some (rec.withPriority { rec.request.priority with value := value }) :=
  FinMap.find?_modify_self _ hfind

theorem withPriorityOf_sameEvidence (s : Scheduler ℚ) (id : CollectiveRequestId)
    (value : Int32) : s.SameEvidence (s.withPriorityOf id value) := rfl

/-- Every record agrees with the old one up to its priority. -/
theorem withPriorityOf_alike (s : Scheduler ℚ) (id : CollectiveRequestId) (value : Int32) :
    s.Alike (fun _ => True) (s.withPriorityOf id value) := by
  refine ⟨rfl, fun id' _ => ?_, fun _ _ _ _ => trivial⟩
  by_cases hid : id' = id
  · subst hid
    cases hfind : s.records.find? id' with
    | none =>
        rw [withPriorityOf, FinMap.modify_of_none _ hfind, hfind]
        exact .none
    | some rec =>
        rw [find?_withPriorityOf_self hfind]
        exact .some ⟨_, rfl⟩
  · rw [find?_withPriorityOf_of_ne hid]
    cases s.records.find? id' with
    | none => exact .none
    | some rec => exact .some (.refl rec)

theorem withPriorityOf_keyed (hkeyed : s.Keyed) (id : CollectiveRequestId) (value : Int32) :
    (s.withPriorityOf id value).Keyed := by
  intro id' rec' hfind'
  rcases (s.withPriorityOf_alike id value).found id' trivial with
    ⟨-, hnone⟩ | ⟨rec, priority, hfind, hsome⟩
  · rw [hnone] at hfind'
    cases hfind'
  · rw [hsome] at hfind'
    cases hfind'
    exact hkeyed id' rec hfind

/-- The other entries of the ranking are the same. -/
theorem mem_rank_withPriorityOf (hkeyed : s.Keyed) (recordOrder recordOrder' :
    List CollectiveRequestId) {e : Ranked ℚ} (hne : e.id ≠ id) :
    e ∈ (s.withPriorityOf id value).refreshed.rank
        ((s.withPriorityOf id value).candidates recordOrder') ↔
      e ∈ s.refreshed.rank (s.candidates recordOrder) := by
  have hevidence := s.withPriorityOf_sameEvidence id value
  rw [mem_rank_iff, mem_rank_iff]
  refine exists_congr fun id' => ?_
  by_cases hid : id' = id
  · refine iff_of_false ?_ ?_
    · rintro ⟨-, _, -, rfl⟩
      exact hne hid
    · rintro ⟨-, _, -, rfl⟩
      exact hne hid
  · rw [mem_candidates_iff (withPriorityOf_keyed hkeyed id value), mem_candidates_iff hkeyed,
      find?_withPriorityOf_of_ne hid, find?_refreshed, find?_refreshed,
      find?_withPriorityOf_of_ne hid]
    simp only [hevidence.eligible_eq, hevidence.refreshRecord_eq, hevidence.refreshed.rankedOf_eq]

/-- What is ranked before the request once its priority is larger was ranked in front
before. -/
theorem ranking_withPriorityOf (hkeyed : s.Keyed) (hweight : 0 ≤ s.policy.wPriority)
    {rec : Record ℚ} (hfind : s.records.find? id = some rec)
    (hle : rec.request.priority.value ≤ value) (helig : s.eligible rec = true)
    (recordOrder recordOrder' : List CollectiveRequestId) :
    ∃ early late early' late', s.ranking recordOrder = early ++ id :: late ∧
      (s.withPriorityOf id value).ranking recordOrder' = early' ++ id :: late' ∧
      early' <+: early := by
  have hevidence := s.withPriorityOf_sameEvidence id value
  have hkeyed' := withPriorityOf_keyed hkeyed id value
  have hnodup := nodup_ranking hkeyed recordOrder
  have hnodup' := nodup_ranking hkeyed' recordOrder'
  -- the entries of the request on the two sides
  have hentry := mem_rank_of_eligible hkeyed hfind helig recordOrder
  have hentry' := mem_rank_of_eligible hkeyed' (find?_withPriorityOf_self hfind)
    ((hevidence.eligible_withPriority rec _).trans helig) recordOrder'
  rw [hevidence.refreshRecord_withPriority, hevidence.refreshed.rankedOf_eq] at hentry'
  obtain ⟨early, late, hsplit⟩ := List.append_of_mem hentry
  obtain ⟨early', late', hsplit'⟩ := List.append_of_mem hentry'
  have hfront : early' <+: early := by
    have hordered := rank_strictly_ordered hnodup
    have hordered' := rank_strictly_ordered hnodup'
    unfold ranking at hnodup hnodup'
    rw [hsplit] at hnodup hordered
    rw [hsplit'] at hnodup' hordered'
    refine isFront_of_raised hordered hordered' ?_ fun e => ?_
    · refine rankOrder_withPriority_le hweight id ?_
      rw [(refreshRecord_frame s rec).1]
      exact hle
    · rw [mem_around_iff hnodup, mem_around_iff hnodup', ← hsplit, ← hsplit']
      exact and_congr_left fun hne =>
        (mem_rank_withPriorityOf hkeyed recordOrder recordOrder' hne).symm
  refine ⟨early.map Ranked.id, late.map Ranked.id, early'.map Ranked.id, late'.map Ranked.id,
    ?_, ?_, hfront.map _⟩
  · rw [ranking, hsplit, List.map_append, List.map_cons]
    rfl
  · rw [ranking, hsplit', List.map_append, List.map_cons]
    rfl

/-- A request that is selected stays selected with a larger priority. -/
theorem mem_selection_withPriorityOf (hkeyed : s.Keyed) (hweight : 0 ≤ s.policy.wPriority)
    {rec : Record ℚ} (hfind : s.records.find? id = some rec)
    (hle : rec.request.priority.value ≤ value)
    (recordOrder recordOrder' : List CollectiveRequestId)
    (hmem : id ∈ s.selection recordOrder) :
    id ∈ (s.withPriorityOf id value).selection recordOrder' := by
  obtain ⟨early, late, early', late', hsplit, hsplit', hfront⟩ := ranking_withPriorityOf hkeyed
    hweight hfind hle (eligible_of_selected hkeyed hmem hfind) recordOrder recordOrder'
  have hnodup := nodup_ranking hkeyed recordOrder
  have hnodup' := nodup_ranking (withPriorityOf_keyed hkeyed id value)
    recordOrder'
  rw [hsplit] at hnodup
  rw [hsplit'] at hnodup'
  rw [selection_eq_greedy, hsplit] at hmem
  rw [selection_eq_greedy, hsplit',
    (s.withPriorityOf_alike id value).refreshed.greedy (fun _ _ => trivial)]
  exact Greedy.mem_of_front (verdict_explained _) (fun _ _ _ => HeldBack.mono) hnodup hnodup'
    hfront hmem

end Raised

end Scheduler

/-- In every reachable state whose policy does not weigh the priority negatively, a request
that a round selects is also selected, in whatever order the round walks, in the state that
differs by a larger priority value of the request. -/
theorem larger_priority_keeps_selection (s : Scheduler ℚ) (hreached : s.Reached)
    (hweight : 0 ≤ s.policy.wPriority) (id : CollectiveRequestId) (rec : Record ℚ)
    (hfind : s.records.find? id = some rec) (value : Int32)
    (hlarger : rec.request.priority.value ≤ value)
    (recordOrder recordOrder' : List CollectiveRequestId)
    (grantOrder grantOrder' : List CollectiveGrantId) (t : Scheduler ℚ) (dec : ScheduleDecision ℚ)
    (hdecided : s.schedule recordOrder grantOrder = (t, .ok dec)) (hselected : id ∈ dec.selected) :
    ∃ t' dec', (s.withPriorityOf id value).schedule recordOrder' grantOrder' = (t', .ok dec') ∧
      id ∈ dec'.selected := by
  have hok := (s.schedule_isOk_iff recordOrder grantOrder).mp ⟨t, dec, hdecided⟩
  obtain ⟨t', dec', hdecided'⟩ :=
    ((s.withPriorityOf id value).schedule_isOk_iff recordOrder' grantOrder').mpr fun id' =>
      (s.withPriorityOf_alike id value).refreshRecord_isOk trivial (hok id')
  refine ⟨t', dec', hdecided', ?_⟩
  rw [Scheduler.schedule_selected hdecided] at hselected
  rw [Scheduler.schedule_selected hdecided']
  exact Scheduler.mem_selection_withPriorityOf hreached.keyed hweight hfind hlarger recordOrder
    recordOrder' hselected

/-- The request that a conflict leaves selected, with a larger priority. -/
theorem larger_priority_keeps_selection_conflicting :
    ∃ t' dec', ((World.afterCalls Scenario.conflictingRequests).withPriorityOf 1 7).schedule [] [] =
      (t', .ok dec') ∧ (1 : CollectiveRequestId) ∈ dec'.selected := by
  obtain ⟨s', dec, hround, hids⟩ := Scenario.exists_of_selects
    (World.afterCalls Scenario.conflictingRequests) [1] (by decide +kernel)
  have hpriority : ((World.afterCalls Scenario.conflictingRequests).records.find? 1).any
      (fun rec => rec.request.priority.value ≤ 7) = true := by decide +kernel
  obtain ⟨rec, hfind, hle⟩ := (Option.any_eq_true _ _).mp hpriority
  exact larger_priority_keeps_selection _ (World.reached_afterCalls _) (by decide +kernel) 1 rec
    hfind 7 (of_decide_eq_true hle) [] [] [] [] s' dec hround (by rw [hids]; decide)

end CollectiveScheduler
