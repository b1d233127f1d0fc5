/-
  Properties/BypassGuarantee.lean --- where the promotion after too many bypasses carries.

  A candidate that has been passed over `max_bypass_count` times gets 1000 in the place of its
  starvation pressure, which under the default weights is worth 150000 points.  The other
  factors of a score have no such bound, so the promotion puts the candidate in front of
  those that are not promoted as long as they do not lead by more.
-/
import CollectiveScheduler.Scheduler.Admission
import CollectiveScheduler.Scheduler.RankOrder
import CollectiveScheduler.System.Scenario
import CollectiveScheduler.System.World
import Mathlib.Tactic.Linarith
import Mathlib.Tactic.Ring

set_option autoImplicit false

namespace CollectiveScheduler

open Foundation

/-- The arbitration weights of a policy, in the order of the factors they weigh. -/
def PolicyConfig.weights {D : Type} (p : PolicyConfig D) : List D :=
  [p.wDeadline, p.wPriority, p.wStarvationRisk, p.wFairnessDeficit, p.wAge, p.wExpectedDuration,
    p.wReservationFit, p.wCommunicationCost, p.wResourceFootprint, p.wCongestionPenalty,
    p.wParticipantAvailability]

namespace Scheduler

/-! ## The points of a candidate -/

/-- The points the default weights give a candidate for what it asks and how long it has
waited, its starvation pressure aside. -/
def merit (s : Scheduler ℚ) (rec : Record ℚ) : ℚ :=
  200 * s.deadlineUrgency rec.request + rec.request.priority.value.toInt +
    120 * min rec.fairness.deficit 1 + ((rec.ageTicks + 1).toNat : ℚ) / 1000 -
    (rec.request.window.expectedDurationNs.toNat : ℚ) / 10 ^ 9 +
    90 * s.reservationFit rec.request - (rec.request.resourceClaims.length : ℚ) / 2

/-- The starvation pressure of a candidate that is not promoted. -/
def pressure (s : Scheduler ℚ) (rec : Record ℚ) : ℚ :=
  max 0 (((rec.fairness.consecutiveBypasses.toNat : ℚ) / s.policy.maxBypassCount.toNat +
    min rec.fairness.deficit 1) / 2)

/-- By how much a candidate leads another one that is promoted, the promotion aside. -/
def lead (s : Scheduler ℚ) (rec promoted : Record ℚ) : ℚ :=
  s.merit rec + 150 * s.pressure rec - s.merit promoted

/-- The promotion carries: the other candidate does not lead by the 150000 points it is worth
or, where it leads by just as many, asks neither more urgently nor, as urgently, with a larger
priority. -/
def PromotionCarries (s : Scheduler ℚ) (promoted rec : Record ℚ) : Prop :=
  s.lead rec promoted < 150000 ∨ (s.lead rec promoted = 150000 ∧
    (s.deadlineUrgency rec.request < s.deadlineUrgency promoted.request ∨
      (s.deadlineUrgency rec.request = s.deadlineUrgency promoted.request ∧
        rec.request.priority.value.toInt ≤ promoted.request.priority.value.toInt)))

/-! ## The starvation factor -/

theorem ite_one_lt (d : ℚ) :
    (if Double.lt (Double.ofRat 1) d = true then Double.ofRat 1 else d) = min d 1 := by
  simp only [Double.rat_lt, decide_eq_true_eq]
  split_ifs with h
  · exact (min_eq_right (le_of_lt h)).symm
  · exact (min_eq_left (not_lt.mp h)).symm

theorem ite_half_sum {share deficit : ℚ} (hshare : share < 1) (hdeficit : deficit ≤ 1) :
    (if 1 / 2 * share + 1 / 2 * deficit < 0 then 0
      else min (1 / 2 * share + 1 / 2 * deficit) 1) = max 0 ((share + deficit) / 2) := by
  split_ifs with hneg
  · rw [max_eq_left (by linarith)]
  · rw [min_eq_left (by linarith), max_eq_right (by linarith)]
    ring

theorem starvationFactor_promoted {p : PolicyConfig ℚ} {f : FairnessAccount ℚ}
    (h : p.maxBypassCount ≤ f.consecutiveBypasses) : starvationFactor p f = 1000 :=
  if_pos h

section Below

variable {s : Scheduler ℚ} {rec : Record ℚ}

theorem bypassShare_lt_one (h : rec.fairness.consecutiveBypasses < s.policy.maxBypassCount) :
    (rec.fairness.consecutiveBypasses.toNat : ℚ) / s.policy.maxBypassCount.toNat < 1 := by
  have hlt := UInt64.lt_iff_toNat_lt.mp h
  have hpos : (0 : ℚ) < s.policy.maxBypassCount.toNat :=
    Nat.cast_pos.mpr (lt_of_le_of_lt (Nat.zero_le _) hlt)
  rw [div_lt_one hpos]
  exact Nat.cast_lt.mpr hlt

theorem pressure_le_one (h : rec.fairness.consecutiveBypasses < s.policy.maxBypassCount) :
    s.pressure rec ≤ 1 := by
  have hshare := bypassShare_lt_one h
  have hdeficit := min_le_right rec.fairness.deficit 1
  refine max_le zero_le_one ?_
  linarith

/-- Below the bypass limit the factor is the pressure. -/
theorem starvationFactor_below
    (h : rec.fairness.consecutiveBypasses < s.policy.maxBypassCount) :
    starvationFactor s.policy rec.fairness = s.pressure rec := by
  have hpos : 0 < s.policy.maxBypassCount.toNat :=
    lt_of_le_of_lt (Nat.zero_le _) (UInt64.lt_iff_toNat_lt.mp h)
  unfold starvationFactor starvationPressure
  simp only [ge_iff_le, UInt64.not_le.mpr h, ite_one_lt, Bool.not_true, Bool.false_eq_true,
    if_false, if_pos hpos]
  simp only [Double.rat_lt, decide_eq_true_eq, Double.rat_ofRat]
  rw [min_eq_left (le_of_lt (bypassShare_lt_one h))]
  exact ite_half_sum (bypassShare_lt_one h) (min_le_right _ _)

end Below

/-! ## The entry of a candidate -/

/-- The factors of a candidate that stand after the pressure. -/
def laterFactors (s : Scheduler ℚ) (rec : Record ℚ) : List ℚ :=
  let duration : ℚ := (rec.request.window.expectedDurationNs.toNat : ℚ) / 10 ^ 9
  [120 * min rec.fairness.deficit 1, ((rec.ageTicks + 1).toNat : ℚ) / 1000, -duration / 2,
    90 * s.reservationFit rec.request, -duration / 2,
    -(rec.request.resourceClaims.length : ℚ) / 2,
    -80 * (s.congestion.map CongestionState.utilization).getD 0, 40]

/-- The factors of a candidate under the default weights. -/
theorem rankingKey_refreshed {s : Scheduler ℚ}
    (hweights : s.policy.weights = PolicyConfig.default.weights) {rec : Record ℚ}
    (hlive : rec.lifecycle.isTerminalState = false) :
    s.refreshed.rankingKey (s.refreshRecord rec).1 =
      200 * s.deadlineUrgency rec.request :: (rec.request.priority.value.toInt : ℚ) ::
        150 * starvationFactor s.policy rec.fairness :: s.laterFactors rec := by
  obtain ⟨hrequest, -, -, hfairness⟩ := refreshRecord_frame s rec
  have hage := refreshRecord_ageTicks s hlive
  have hcongestion : s.refreshed.congestion = s.congestion := rfl
  -- the factors before they are weighed
  have hkey : s.refreshed.rankingKey (s.refreshRecord rec).1 = List.zipWith (· * ·)
      [s.deadlineUrgency rec.request, (rec.request.priority.value.toInt : ℚ) / 100,
        starvationFactor s.policy rec.fairness, min rec.fairness.deficit 1,
        ((rec.ageTicks + 1).toNat : ℚ) / 1000,
        -(rec.request.window.expectedDurationNs.toNat : ℚ) / 1000000000,
        s.reservationFit rec.request,
        -(rec.request.window.expectedDurationNs.toNat : ℚ) / 1000000000,
        -(rec.request.resourceClaims.length : ℚ),
        -(s.congestion.map CongestionState.utilization).getD 0, 1] s.policy.weights := by
    unfold rankingKey
    rw [hrequest, hfairness, hage, ite_one_lt, hcongestion]
    cases s.congestion <;> rfl
  rw [hkey, hweights]
  simp only [PolicyConfig.weights, PolicyConfig.default, List.zipWith_cons_cons,
    List.zipWith_nil_left, laterFactors, List.cons.injEq, Double.rat_ofRat, and_true]
  refine ⟨?_, ?_, ?_, ?_, ?_, ?_, ?_, ?_, ?_, ?_, ?_⟩ <;> ring

/-- The points that every candidate of a round gets alike. -/
def commonPoints (s : Scheduler ℚ) : ℚ :=
  40 - 80 * (s.congestion.map CongestionState.utilization).getD 0

/-- The factors and the score of a candidate's entry. -/
theorem rankedOf_refreshed {s : Scheduler ℚ} (id : CollectiveRequestId)
    (hweights : s.policy.weights = PolicyConfig.default.weights) {rec : Record ℚ}
    (hlive : rec.lifecycle.isTerminalState = false) :
    (s.refreshed.rankedOf id (s.refreshRecord rec).1).key =
        200 * s.deadlineUrgency rec.request :: (rec.request.priority.value.toInt : ℚ) ::
          150 * starvationFactor s.policy rec.fairness :: s.laterFactors rec ∧
      (s.refreshed.rankedOf id (s.refreshRecord rec).1).score =
        s.merit rec + 150 * starvationFactor s.policy rec.fairness + s.commonPoints := by
  have hkey := rankingKey_refreshed hweights hlive
  have hscore : rankingScore (s.refreshed.rankingKey (s.refreshRecord rec).1) =
      s.merit rec + 150 * starvationFactor s.policy rec.fairness + s.commonPoints := by
    rw [rankingScore_eq_sum, hkey]
    simp only [laterFactors, List.sum_cons, List.sum_nil, merit, commonPoints]
    ring
  exact ⟨hkey, hscore⟩

/-- Keys with different pressures are compared by urgency and priority, and a larger pressure
settles a tie. -/
theorem key_lt_iff_of_pressure_lt {urgency urgency' pressure pressure' : ℚ}
    {priority priority' : ℤ} {later later' : List ℚ} (h : pressure' < pressure) :
    200 * urgency' :: (priority' : ℚ) :: pressure' :: later' <
        200 * urgency :: (priority : ℚ) :: pressure :: later ↔
      urgency' < urgency ∨ (urgency' = urgency ∧ priority' ≤ priority) := by
  simp only [List.cons_lt_cons_iff, h, true_or, Int.cast_lt, Int.cast_inj, and_true]
  rw [← le_iff_lt_or_eq, mul_lt_mul_iff_right₀ (by norm_num), mul_right_inj' (by norm_num)]

/-- An entry of the ranking is made from the refreshed record of its request. -/
theorem eq_rankedOf_of_mem_rank {s : Scheduler ℚ} {recordOrder : List CollectiveRequestId}
    {e : Ranked ℚ} {rec : Record ℚ} (he : e ∈ s.refreshed.rank (s.candidates recordOrder))
    (hfind : s.records.find? e.id = some rec) :
    e = s.refreshed.rankedOf e.id (s.refreshRecord rec).1 := by
  obtain ⟨id, -, rec', hfind', rfl⟩ := mem_rank_iff.mp he
  have hid : (s.refreshed.rankedOf id rec').id = id := rfl
  rw [hid] at hfind
  rw [find?_refreshed, hfind] at hfind'
  cases hfind'
  rfl

section Ranking

variable {s : Scheduler ℚ} {recordOrder : List CollectiveRequestId}
  {a b : CollectiveRequestId} {recA recB : Record ℚ}

/-- Of two candidates the one that is less in the order of the comparator stands first. -/
theorem ranked_before_iff (hkeyed : s.Keyed)
    (hfindA : s.records.find? a = some recA) (hfindB : s.records.find? b = some recB)
    (heligA : s.eligible recA = true) (heligB : s.eligible recB = true) :
    [a, b].Sublist (s.ranking recordOrder) ↔
      (s.refreshed.rankedOf a (s.refreshRecord recA).1).rankOrder <
        (s.refreshed.rankedOf b (s.refreshRecord recB).1).rankOrder := by
  have hordered := rank_strictly_ordered (nodup_ranking hkeyed recordOrder)
  constructor
  · intro h
    obtain ⟨entries, hsub, hids⟩ := List.sublist_map_iff.mp h
    match entries, hids with
    | [ea, eb], hids =>
      cases hids
      have hlt := List.pairwise_iff_forall_sublist.mp hordered hsub
      rw [eq_rankedOf_of_mem_rank (hsub.subset List.mem_cons_self) hfindA,
        eq_rankedOf_of_mem_rank (hsub.subset (List.mem_cons_of_mem _ List.mem_cons_self)) hfindB]
        at hlt
      exact hlt
  · intro hlt
    have hentryA := mem_rank_of_eligible hkeyed hfindA heligA recordOrder
    have hentryB := mem_rank_of_eligible hkeyed hfindB heligB recordOrder
    have : Std.Antisymm fun e e' : Ranked ℚ => e.rankOrder < e'.rankOrder :=
      ⟨fun _ _ h h' => absurd h' h.asymm⟩
    have hpair : [s.refreshed.rankedOf a (s.refreshRecord recA).1,
        s.refreshed.rankedOf b (s.refreshRecord recB).1].Pairwise
          (fun e e' => e.rankOrder < e'.rankOrder) := List.pairwise_pair.mpr hlt
    have hnodup := hpair.imp fun {_ _} h => ne_of_apply_ne Ranked.rankOrder h.ne
    have hsub := List.sublist_of_subperm_of_pairwise (List.subperm_of_subset hnodup
      (List.cons_subset.mpr ⟨hentryA, List.cons_subset.mpr ⟨hentryB, List.nil_subset _⟩⟩))
      hpair hordered
    exact hsub.map Ranked.id

/-- A promoted candidate is less in the order of the comparator where the promotion carries. -/
theorem rankOrder_promoted_lt_iff
    (hweights : s.policy.weights = PolicyConfig.default.weights)
    (hliveA : recA.lifecycle.isTerminalState = false)
    (hliveB : recB.lifecycle.isTerminalState = false)
    (hpromoted : s.policy.maxBypassCount ≤ recA.fairness.consecutiveBypasses)
    (hbelow : recB.fairness.consecutiveBypasses < s.policy.maxBypassCount) :
    (s.refreshed.rankedOf a (s.refreshRecord recA).1).rankOrder <
        (s.refreshed.rankedOf b (s.refreshRecord recB).1).rankOrder ↔
      s.PromotionCarries recA recB := by
  obtain ⟨hkeyA, hscoreA⟩ := rankedOf_refreshed a hweights hliveA
  obtain ⟨hkeyB, hscoreB⟩ := rankedOf_refreshed b hweights hliveB
  rw [starvationFactor_promoted hpromoted] at hkeyA hscoreA
  rw [starvationFactor_below hbelow] at hkeyB hscoreB
  have hpressure : 150 * s.pressure recB < 150 * 1000 := by
    have := pressure_le_one hbelow
    linarith
  have hne : (s.refreshed.rankedOf a (s.refreshRecord recA).1).key ≠
      (s.refreshed.rankedOf b (s.refreshRecord recB).1).key := by
    rw [hkeyA, hkeyB]
    intro heq
    simp only [List.cons.injEq] at heq
    exact hpressure.ne heq.2.2.1.symm
  rw [Ranked.rankOrder_lt_iff_of_key_ne hne, hscoreA, hscoreB, hkeyA, hkeyB,
    key_lt_iff_of_pressure_lt hpressure]
  unfold PromotionCarries lead
  refine or_congr ⟨fun h => ?_, fun h => ?_⟩ (and_congr_left' ⟨fun h => ?_, fun h => ?_⟩)
  all_goals linarith

end Ranking

end Scheduler

/-- In every reachable state with the default weights, a candidate that has been passed over
`max_bypass_count` times stands in the ranking of a round before one that has not exactly
where the promotion carries. -/
theorem promoted_ranked_first_iff (s : Scheduler ℚ) (hreached : s.Reached)
    (hweights : s.policy.weights = PolicyConfig.default.weights)
    (recordOrder : List CollectiveRequestId) (id id' : CollectiveRequestId)
    (hmem : id ∈ s.candidates recordOrder) (hmem' : id' ∈ s.candidates recordOrder)
    (rec rec' : Record ℚ) (hfind : s.records.find? id = some rec)
    (hfind' : s.records.find? id' = some rec')
    (hpromoted : s.policy.maxBypassCount ≤ rec.fairness.consecutiveBypasses)
    (hbelow : rec'.fairness.consecutiveBypasses < s.policy.maxBypassCount) :
    [id, id'].Sublist (s.ranking recordOrder) ↔ s.PromotionCarries rec rec' := by
  have helig := Scheduler.eligible_of_candidate hreached.keyed hmem hfind
  have helig' := Scheduler.eligible_of_candidate hreached.keyed hmem' hfind'
  rw [Scheduler.ranked_before_iff hreached.keyed hfind hfind' helig helig']
  exact Scheduler.rankOrder_promoted_lt_iff hweights
    (Scheduler.not_terminal_of_pending (Scheduler.eligible_iff.mp helig).1)
    (Scheduler.not_terminal_of_pending (Scheduler.eligible_iff.mp helig').1) hpromoted hbelow

/-- Request 2 is passed over in sixteen rounds for the grant that executes on its
participant; request 3 comes in with a priority just before that grant completes. -/
def Scenario.passedOver (priority : Int32) : List (Op ℚ) :=
  withGrant
    (executing ++ [.submit (request 2 [1] 1)] ++ List.replicate 16 (.schedule [] []) ++
      [.submit { request 3 [1] 1 with
        priority := { value := priority, gen := ⟨1⟩, authoritative := true } }]) 1
    (fun g => [.complete g 11 100])

/-- Over a priority of 5 the promotion carries. -/
theorem promoted_ranked_first_iff_carried :
    ([2, 3] : List CollectiveRequestId).Sublist
      ((World.afterCalls (Scenario.passedOver 5)).ranking []) := by
  have hlead : ((World.afterCalls (Scenario.passedOver 5)).records.find? 2).any (fun rec =>
      ((World.afterCalls (Scenario.passedOver 5)).records.find? 3).any (fun rec' =>
        16 ≤ rec.fairness.consecutiveBypasses && rec'.fairness.consecutiveBypasses < 16 &&
          (World.afterCalls (Scenario.passedOver 5)).lead rec' rec < 150000)) = true := by
    decide +kernel
  have hcandidates : (World.afterCalls (Scenario.passedOver 5)).candidates [] = [2, 3] := by
    decide +kernel
  have hpolicy : (World.afterCalls (Scenario.passedOver 5)).policy = PolicyConfig.default := by
    decide +kernel
  obtain ⟨rec, hfind, hrest⟩ := (Option.any_eq_true _ _).mp hlead
  obtain ⟨rec', hfind', hrest⟩ := (Option.any_eq_true _ _).mp hrest
  simp only [Bool.and_eq_true, decide_eq_true_eq] at hrest
  obtain ⟨⟨hpromoted, hbelow⟩, hlt⟩ := hrest
  exact (promoted_ranked_first_iff _ (World.reached_afterCalls _) (by rw [hpolicy]) [] 2 3
    (by rw [hcandidates]; decide) (by rw [hcandidates]; decide) rec rec' hfind hfind'
    (by rw [hpolicy]; exact hpromoted) (by rw [hpolicy]; exact hbelow)).mpr (.inl hlt)

/-- Under the default policy a candidate with a priority of 200000 is ranked before one that
has been passed over sixteen times, and is selected in its place. -/
theorem passed_over_request_is_outranked :
    (World.afterCalls (Scenario.passedOver 200000)).Reached ∧
      (World.afterCalls (Scenario.passedOver 200000)).policy = PolicyConfig.default ∧
      ((World.afterCalls (Scenario.passedOver 200000)).records.find? 2).map
        (fun rec => rec.fairness.consecutiveBypasses) = some 16 ∧
      ((World.afterCalls (Scenario.passedOver 200000)).records.find? 3).map
        (fun rec => rec.fairness.consecutiveBypasses) = some 0 ∧
      (World.afterCalls (Scenario.passedOver 200000)).ranking [] = [3, 2] ∧
      Scenario.selects (World.afterCalls (Scenario.passedOver 200000)) [3] = true := by
  refine ⟨World.reached_afterCalls _, ?_⟩
  decide +kernel

end CollectiveScheduler
