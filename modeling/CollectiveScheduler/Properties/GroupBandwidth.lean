/-
  Properties/GroupBandwidth.lean --- the bandwidth of the requests one round selects.

  `can_overlap` compares the bandwidth of a candidate and of one request selected before
  with the residual bandwidth, and the loop repeats this for each of them.  Two selected
  requests therefore fit into the residual bandwidth, but the sum over a larger group is
  never formed: three requests that fit pairwise are selected together although they exceed
  it.  The bound holds in a state where whatever three or more requests may run together fit;
  in any other state it is left to the ranking.
-/
import CollectiveScheduler.Scheduler.Groups
import CollectiveScheduler.System.Scenario
import CollectiveScheduler.System.World
import Mathlib.Algebra.Order.BigOperators.Group.List

set_option autoImplicit false

namespace CollectiveScheduler

open Foundation

namespace Scheduler

/-- The bandwidth a request's plan is estimated to take. -/
def requestBandwidth (s : Scheduler ℚ) (req : CollectiveRequest ℚ) : ℚ :=
  ((s.plan req.planId).map CommunicationPlan.estimatedBandwidth).getD 0

/-- The bandwidth of a stored request. -/
def bandwidthOf (s : Scheduler ℚ) (id : CollectiveRequestId) : ℚ :=
  ((s.records.find? id).map fun rec => s.requestBandwidth rec.request).getD 0

/-- The bandwidth requests take together. -/
def groupBandwidth (s : Scheduler ℚ) (ids : List CollectiveRequestId) : ℚ :=
  (ids.map s.bandwidthOf).sum

theorem bandwidthOf_eq {s : Scheduler ℚ} {id : CollectiveRequestId} {rec : Record ℚ}
    (h : s.records.find? id = some rec) : s.bandwidthOf id = s.requestBandwidth rec.request := by
  rw [bandwidthOf, h]
  rfl

/-! ## Two requests -/

/-- `can_overlap` has compared the bandwidth of the two requests with the residual one. -/
theorem canOverlap_bandwidth {s : Scheduler ℚ} {c : CongestionState ℚ}
    (hcongestion : s.congestion = some c) {a b : Record ℚ} (h : s.canOverlap a b = true) :
    s.requestBandwidth a.request + s.requestBandwidth b.request ≤ c.residualBandwidth := by
  unfold canOverlap at h
  rw [hcongestion] at h
  split_ifs at h
  simp only [Double.rat_lt] at h
  split_ifs at h with hresidual hceiling
  rw [decide_eq_true_eq, not_lt] at hresidual
  refine le_trans (le_of_eq ?_) hresidual
  unfold requestBandwidth
  cases s.plan a.request.planId <;> cases s.plan b.request.planId <;> simp [Double.ofRat]

theorem mayOverlap_bandwidth {s : Scheduler ℚ} {c : CongestionState ℚ}
    (hcongestion : s.congestion = some c) {rec rec' : Record ℚ}
    (h : s.mayOverlap rec rec' = true) :
    s.requestBandwidth rec.request + s.requestBandwidth rec'.request ≤ c.residualBandwidth := by
  rcases Bool.or_eq_true _ _ ▸ h with h | h
  · exact canOverlap_bandwidth (a := s.footprinted rec) (b := s.footprinted rec') hcongestion h
  · rw [add_comm]
    exact canOverlap_bandwidth (a := s.footprinted rec') (b := s.footprinted rec) hcongestion h

/-! ## Groups -/

/-- Three or more of the requests fit into the residual bandwidth. -/
def FitsResidual (s : Scheduler ℚ) (residual : ℚ) (ids : List CollectiveRequestId) : Prop :=
  3 ≤ ids.length → s.groupBandwidth ids ≤ residual

instance (s : Scheduler ℚ) (residual : ℚ) : DecidablePred (s.FitsResidual residual) := fun _ =>
  inferInstanceAs (Decidable (_ → _))

/-- Whatever three or more requests may run together fit into the residual bandwidth. -/
def GroupsFit (s : Scheduler ℚ) (residual : ℚ) : Prop := s.EveryGroup (s.FitsResidual residual)

instance (s : Scheduler ℚ) (residual : ℚ) : Decidable (s.GroupsFit residual) :=
  inferInstanceAs (Decidable (s.EveryGroup _))

theorem GroupsFit.selection {s : Scheduler ℚ} (hkeyed : s.Keyed) {c : CongestionState ℚ}
    (hcongestion : s.congestion = some c) (hfit : s.GroupsFit c.residualBandwidth)
    {recordOrder : List CollectiveRequestId} (htwo : 2 ≤ (s.selection recordOrder).length) :
    s.groupBandwidth (s.selection recordOrder) ≤ c.residualBandwidth := by
  rcases Nat.lt_or_ge 2 (s.selection recordOrder).length with hthree | hle
  · -- a larger group is covered by the condition on the state
    have hnil : s.FitsResidual c.residualBandwidth [] := fun h => absurd h (by decide)
    exact EveryGroup.selection hfit hkeyed hnil recordOrder hthree
  · -- two requests were compared with the residual bandwidth by the loop itself
    obtain ⟨id, id', hpair⟩ := List.length_eq_two.mp (Nat.le_antisymm hle htwo)
    have hnodup := nodup_selection hkeyed recordOrder
    have hid : id ∈ s.selection recordOrder := by simp [hpair]
    have hid' : id' ∈ s.selection recordOrder := by simp [hpair]
    obtain ⟨rec, hfind, -⟩ := selection_eligible hkeyed hid
    obtain ⟨rec', hfind', -⟩ := selection_eligible hkeyed hid'
    rw [hpair] at hnodup ⊢
    have hne : id ≠ id' := fun heq => (List.nodup_cons.mp hnodup).1 (heq ▸ List.mem_cons_self)
    rw [groupBandwidth, List.map_cons, List.map_singleton, List.sum_cons, List.sum_singleton,
      bandwidthOf_eq hfind, bandwidthOf_eq hfind']
    exact mayOverlap_bandwidth hcongestion (selection_mayOverlap hkeyed hid hid' hne hfind hfind')

/-- Without negative bandwidths, what fits has fronts that fit. -/
theorem FitsResidual.front {s : Scheduler ℚ} (hnonneg : ∀ id, 0 ≤ s.bandwidthOf id)
    {residual : ℚ} {ids ids' : List CollectiveRequestId} (hfront : ids <+: ids')
    (h : s.FitsResidual residual ids') : s.FitsResidual residual ids := by
  intro hthree
  obtain ⟨more, rfl⟩ := hfront
  refine le_trans ?_ (h (hthree.trans (List.prefix_append ids more).length_le))
  rw [groupBandwidth, groupBandwidth, List.map_append, List.sum_append]
  refine le_add_of_nonneg_right (List.sum_nonneg fun q hq => ?_)
  obtain ⟨id, -, rfl⟩ := List.mem_map.mp hq
  exact hnonneg id

end Scheduler

/-- In every reachable state with congestion evidence, the requests a round selects together
take no more than the residual bandwidth where whatever three or more may run together fit
into it.  Where some do not, and no bandwidth is negative, the selection loop exceeds it for
some order of the candidates. -/
theorem group_bandwidth_of_fit (s : Scheduler ℚ) (hreached : s.Reached) (c : CongestionState ℚ)
    (hcongestion : s.congestion = some c) :
    (s.GroupsFit c.residualBandwidth → ∀ recordOrder grantOrder s' dec,
      s.schedule recordOrder grantOrder = (s', .ok dec) → 2 ≤ dec.selected.length →
        s.groupBandwidth dec.selected ≤ c.residualBandwidth) ∧
    (¬s.GroupsFit c.residualBandwidth → (∀ id, 0 ≤ s.bandwidthOf id) →
      s.BrokenInSomeOrder (s.FitsResidual c.residualBandwidth)) := by
  refine ⟨fun hfit recordOrder grantOrder s' dec hdecided htwo => ?_, fun hnot hnonneg =>
    Scheduler.brokenInSomeOrder hreached.keyed (fun _ _ hfront => .front hnonneg hfront) hnot⟩
  rw [Scheduler.schedule_selected hdecided] at htwo ⊢
  exact hfit.selection hreached.keyed hcongestion htwo

namespace Scenario

/-- Three requests on different participants, each of 1000000 bytes a second, beside a
residual bandwidth. -/
def threeRequests (residual : ℚ) : List (Op ℚ) :=
  [.publishParticipant (participant 1 1 1 11), .publishParticipant (participant 2 1 1 11),
    .publishParticipant (participant 3 1 1 11), .publishPlan (plan 1 1 [1]),
    .publishPlan (plan 2 1 [2]), .publishPlan (plan 3 1 [3]),
    .publishCongestion (congestion residual),
    .submit { request 1 [1] 1 with overlap := .overlapAllowed },
    .submit { request 2 [2] 2 with overlap := .overlapAllowed },
    .submit { request 3 [3] 3 with overlap := .overlapAllowed }]
where
  congestion (residual : ℚ) : CongestionState ℚ :=
    { gen := ⟨1⟩, utilization := 0, residualBandwidth := residual, hardCeilingUtilization := 0 }

end Scenario

theorem group_bandwidth_of_fit_three :
    (World.afterCalls (Scenario.threeRequests 3000000)).GroupsFit 3000000 ∧
    ∃ s' dec, (World.afterCalls (Scenario.threeRequests 3000000)).schedule [] [] =
        (s', .ok dec) ∧ dec.selected = [1, 2, 3] ∧
      (World.afterCalls (Scenario.threeRequests 3000000)).groupBandwidth dec.selected ≤
        3000000 := by
  have hfit : (World.afterCalls (Scenario.threeRequests 3000000)).GroupsFit 3000000 := by
    decide +kernel
  obtain ⟨s', dec, hround, hids⟩ := Scenario.exists_of_selects
    (World.afterCalls (Scenario.threeRequests 3000000)) [1, 2, 3] (by decide +kernel)
  exact ⟨hfit, s', dec, hround, hids, (group_bandwidth_of_fit _ (World.reached_afterCalls _)
    (Scenario.threeRequests.congestion 3000000) (by decide +kernel)).1 hfit [] [] s' dec hround
    (by rw [hids]; decide)⟩

/-- Three requests of which any two fit into the residual bandwidth are selected together
and exceed it. -/
theorem group_bandwidth_exceeds_residual :
    (World.afterCalls (Scenario.threeRequests 2500000)).Reached ∧
    (World.afterCalls (Scenario.threeRequests 2500000)).congestion =
      some (Scenario.threeRequests.congestion 2500000) ∧
    ∃ s' dec, (World.afterCalls (Scenario.threeRequests 2500000)).schedule [] [] =
        (s', .ok dec) ∧ dec.selected = [1, 2, 3] ∧
      (World.afterCalls (Scenario.threeRequests 2500000)).groupBandwidth dec.selected =
        3000000 := by
  obtain ⟨s', dec, hround, hids⟩ := Scenario.exists_of_selects
    (World.afterCalls (Scenario.threeRequests 2500000)) [1, 2, 3] (by decide +kernel)
  refine ⟨World.reached_afterCalls _, by decide +kernel, s', dec, hround, hids, ?_⟩
  rw [hids]
  decide +kernel

end CollectiveScheduler
