/-
  Properties/NoStarvation.lean --- how often a request that could run is passed over.

  A round passes a request over although nothing that executes stands in its way only for
  another one that it ranks first.  Without arrivals the line in front of it gets shorter
  with every such round.  With arrivals the age decides: while the request waits it is
  promoted, and once it is old enough no later one can make up for its age, whatever it
  asks within the given range; from then on only those who were in line all along are
  served first.
-/
import CollectiveScheduler.Properties.BypassGuarantee
import CollectiveScheduler.Properties.LifecycleGuard
import CollectiveScheduler.System.Waiting
import Mathlib.Algebra.Order.Floor.Semiring
import Mathlib.Tactic.GCongr
import Mathlib.Tactic.Positivity

set_option autoImplicit false

namespace CollectiveScheduler

open Foundation

section AnyNumbers

variable {D : Type} [Double D]

namespace Scheduler

/-- A round passes a candidate over although nothing that executes stands in its way: it
conflicts with no active grant, a grant and a place in the group are to be had, and yet it
is not selected. -/
structure PassesOver (s : Scheduler D) (id : CollectiveRequestId)
    (recordOrder : List CollectiveRequestId) : Prop where
  candidate : id ∈ s.candidates recordOrder
  clear : s.refreshed.ClearOfActive id
  slot : s.activeGrants < s.policy.bounds.maxActiveGrants.toNat
  group : 0 < s.policy.bounds.maxOverlapGroup.toNat
  passed : id ∉ s.selection recordOrder

instance (s : Scheduler D) (id : CollectiveRequestId) : Decidable (s.ClearOfActive id) :=
  decidable_of_iff ((s.records.find? id).any (fun rec => s.activeConflicts rec = 0) = true) (by
    simp only [ClearOfActive, Option.any_eq_true, decide_eq_true_eq])

instance (s : Scheduler D) (id : CollectiveRequestId) (recordOrder : List CollectiveRequestId) :
    Decidable (s.PassesOver id recordOrder) :=
  decidable_of_iff (id ∈ s.candidates recordOrder ∧ s.refreshed.ClearOfActive id ∧
      s.activeGrants < s.policy.bounds.maxActiveGrants.toNat ∧
      0 < s.policy.bounds.maxOverlapGroup.toNat ∧ id ∉ s.selection recordOrder)
    ⟨fun h => ⟨h.1, h.2.1, h.2.2.1, h.2.2.2.1, h.2.2.2.2⟩,
      fun h => ⟨h.candidate, h.clear, h.slot, h.group, h.passed⟩⟩

variable {s : Scheduler D} {id : CollectiveRequestId} {recordOrder : List CollectiveRequestId}

/-- It is passed over for one that is ranked before it. -/
theorem PassesOver.exists_before (hkeyed : s.Keyed) (h : s.PassesOver id recordOrder) :
    ∃ id' ∈ s.selection recordOrder, [id', id].Sublist (s.ranking recordOrder) := by
  have hranked : id ∈ s.ranking recordOrder :=
    (ranking_perm hkeyed recordOrder).mem_iff.mpr h.candidate
  obtain ⟨early, late, hsplit⟩ := List.append_of_mem hranked
  obtain ⟨rec, hfind, hclear⟩ := h.clear
  have hreason := (passedOver_iff hkeyed hsplit hfind).mp h.passed
  -- each of the reasons but the first needs a request that was selected before
  have hsome : early.filter (· ∈ s.selection recordOrder) ≠ [] := by
    intro hnone
    rw [hnone] at hreason
    cases hreason with
    | activeConflict hconflict => exact absurd hclear (Nat.ne_of_gt hconflict)
    | incompatible hid _ _ => exact absurd hid List.not_mem_nil
    | notFirst _ hne => exact absurd rfl hne
    | afterExclusive hid _ _ => exact absurd hid List.not_mem_nil
    | noSlot hfull => exact absurd hfull (Nat.not_le_of_lt h.slot)
    | groupFull hfull => exact absurd hfull (Nat.not_le_of_lt h.group)
  obtain ⟨id', hid'⟩ := List.exists_mem_of_ne_nil _ hsome
  obtain ⟨hearly, hselected⟩ := List.mem_filter.mp hid'
  refine ⟨id', of_decide_eq_true hselected, ?_⟩
  rw [hsplit]
  exact (List.singleton_sublist.mpr hearly).append
    (List.singleton_sublist.mpr List.mem_cons_self)

end Scheduler

/-- If the call is a round, it passes the request over. -/
def System.KeepsWaiting (id : CollectiveRequestId) (y : System D) : Op D → Prop
  | .schedule recordOrder _ => y.sched.PassesOver id recordOrder
  | _ => True

instance (id : CollectiveRequestId) (y : System D) (op : Op D) :
    Decidable (y.KeepsWaiting id op) := by
  rcases op <;> unfold System.KeepsWaiting <;> infer_instance

/-! ## The line in front of a request -/

/-- Another request that is in line, of an age that counts. -/
def Record.isAhead (id : CollectiveRequestId) (senior : UInt64 → Bool) (rec : Record D) : Bool :=
  rec.lifecycle.isPending && decide (rec.request.id ≠ id) && senior rec.ageTicks

/-- How many others are in line, of an age that counts. -/
def Scheduler.ahead (s : Scheduler D) (id : CollectiveRequestId) (senior : UInt64 → Bool) : Nat :=
  s.records.count (Record.isAhead id senior)

omit [Double D] in
theorem Record.isAhead_iff {id : CollectiveRequestId} {senior : UInt64 → Bool} {rec : Record D} :
    rec.isAhead id senior = true ↔
      rec.lifecycle.isPending = true ∧ rec.request.id ≠ id ∧ senior rec.ageTicks = true := by
  simp only [Record.isAhead, Bool.and_eq_true, decide_eq_true_eq, and_assoc]

section Line

variable {y : System D} {op : Op D} {id : CollectiveRequestId} {senior senior' : UInt64 → Bool}

/-- Who counts after a call counted before it, if arrivals do not count. -/
theorem System.isAhead_of_next (horderly : y.sched.Orderly)
    (harrival : op.arrives = true → senior' 0 = false)
    (hage : ∀ age, senior' (age + op.ticks) = true → senior age = true)
    (k : CollectiveRequestId)
    (h : ((y.next op).sched.records.find? k).any (Record.isAhead id senior') = true) :
    (y.sched.records.find? k).any (Record.isAhead id senior) = true := by
  obtain ⟨rec', hfind', hahead⟩ := (Option.any_eq_true _ _).mp h
  obtain ⟨hpending', hother, hsenior⟩ := Record.isAhead_iff.mp hahead
  have hkey' := (System.next_orderly op horderly).keyed k rec' hfind'
  rcases System.next_inLine horderly op hfind' hpending' with
    ⟨harrives, hzero⟩ | ⟨rec, hfind, hpending, hticks⟩
  · rw [hzero, harrival harrives] at hsenior
    cases hsenior
  · rw [hticks] at hsenior
    refine (Option.any_eq_true _ _).mpr ⟨rec, hfind, Record.isAhead_iff.mpr
      ⟨hpending, ?_, hage _ hsenior⟩⟩
    rw [horderly.keyed k rec hfind, ← hkey']
    exact hother

/-- Without arrivals that count, the line does not get longer. -/
theorem System.ahead_next (horderly : y.sched.Orderly)
    (harrival : op.arrives = true → senior' 0 = false)
    (hage : ∀ age, senior' (age + op.ticks) = true → senior age = true) :
    (y.next op).sched.ahead id senior' ≤ y.sched.ahead id senior :=
  FinMap.count_le_count (System.isAhead_of_next horderly harrival hage)

/-- A round that selects one of those who count makes the line shorter. -/
theorem System.ahead_round (horderly : y.sched.Orderly)
    {recordOrder : List CollectiveRequestId} {grantOrder : List CollectiveGrantId}
    (hage : ∀ age, senior' (age + 1) = true → senior age = true)
    {id' : CollectiveRequestId} {rec : Record D} (hselected : id' ∈ y.sched.selection recordOrder)
    (hfind : y.sched.records.find? id' = some rec) (hahead : rec.isAhead id senior = true) :
    (y.next (.schedule recordOrder grantOrder)).sched.ahead id senior' <
      y.sched.ahead id senior := by
  refine FinMap.count_lt_count (k := id') ((Option.any_eq_true _ _).mpr ⟨rec, hfind, hahead⟩) ?_
    (System.isAhead_of_next horderly (fun h => by cases h) hage)
  obtain ⟨s', dec, created, hround⟩ :=
    Scheduler.scheduleRound_isOk horderly.settled recordOrder grantOrder
  rw [← (Scheduler.scheduleRound_ok hround).selected] at hselected
  obtain ⟨-, rec', -, -, hfind', hgranted⟩ :=
    Scheduler.granted_of_mem_selected horderly hround hselected
  rw [sched_next_schedule, hround, hfind', Option.any_some, Record.isAhead, hgranted]
  rfl

end Line

/-! ## Without arrivals -/

theorem countP_isRound (y : System D) (ops : List (Op D)) :
    Runs.occurrences System.next (fun _ op => op.isRound) y ops = ops.countP Op.isRound := by
  induction ops generalizing y with
  | nil => rfl
  | cons op rest ih =>
      rw [Runs.occurrences, ih, List.countP_cons]
      omega

/-- Without arrivals a request is passed over at most once for each other one in line,
whatever the numbers, the policy and the other calls. -/
theorem passed_over_once_for_each_other (y : System D) (hreached : y.Reachable)
    (id : CollectiveRequestId) (ops : List (Op D))
    (hrun : Runs.Admissible System.next
      (fun y op => op.arrives = false ∧ y.KeepsWaiting id op) y ops) :
    ops.countP Op.isRound ≤ y.sched.ahead id (fun _ => true) := by
  rw [← countP_isRound y ops]
  refine Runs.occurrences_le_measure (I := fun y : System D => y.sched.Orderly)
    (fun y : System D => y.sched.ahead id (fun _ => true))
    (fun y op hy _ => System.next_orderly op hy) (fun y op hy hok => ?_)
    hreached.durable.orderly hrun
  obtain ⟨harrives, hwaits⟩ := hok
  cases hround : op.isRound with
  | false =>
      exact System.ahead_next hy (fun h => by rw [harrives] at h; cases h) (fun _ _ => rfl)
  | true =>
      cases op with
      | schedule recordOrder grantOrder =>
          obtain ⟨id', hselected, hbefore⟩ := Scheduler.PassesOver.exists_before hy.keyed hwaits
          obtain ⟨rec, hfind, heligible, -⟩ :=
            Scheduler.selection_ready hy.keyed hy.settled hselected
          have hne : id' ≠ id := by
            rintro rfl
            exact hwaits.passed hselected
          have hahead : rec.isAhead id (fun _ => true) = true :=
            Record.isAhead_iff.mpr ⟨(Scheduler.eligible_iff.mp heligible).1,
              by rw [hy.keyed id' rec hfind]; exact hne, rfl⟩
          exact System.ahead_round hy (fun _ _ => rfl) hselected hfind hahead
      | _ => cases hround

/-- Three requests on one participant. -/
def Scenario.threeInLine : List (Op ℚ) :=
  [.publishParticipant (participant 1 1 1 11), .publishPlan (plan 1 1 [1]),
    .submit (request 1 [1] 1), .submit (request 2 [1] 1), .submit (request 3 [1] 1)]

/-- The third of three requests is passed over for the two others. -/
theorem passed_over_once_for_each_other_twice :
    ([.schedule [] [], .schedule [] []] : List (Op ℚ)).countP Op.isRound ≤
        ((System.start PolicyConfig.default 1).run Scenario.threeInLine).sched.ahead 3
          (fun _ => true) ∧
      ((System.start PolicyConfig.default 1).run Scenario.threeInLine).sched.ahead 3
        (fun _ => true) = 2 :=
  ⟨passed_over_once_for_each_other _ ((System.Reachable.start _ _).run _) 3 _ (by decide +kernel),
    by decide +kernel⟩

end AnyNumbers

/-! ## The points of two candidates -/

/-- A range for what the requests ask. -/
structure Range where
  priority : Nat
  durationNs : Nat
  claims : Nat

/-- The request keeps to the range. -/
def CollectiveRequest.Within (r : Range) (req : CollectiveRequest ℚ) : Prop :=
  req.priority.value.toInt.natAbs ≤ r.priority ∧
    req.window.expectedDurationNs.toNat ≤ r.durationNs ∧ req.resourceClaims.length ≤ r.claims

instance (r : Range) (req : CollectiveRequest ℚ) : Decidable (req.Within r) :=
  inferInstanceAs (Decidable (_ ∧ _ ∧ _))

/-- How many points two candidates in the range can be apart, age and starvation risk
aside. -/
def Range.spread (r : Range) (p : PolicyConfig ℚ) : ℚ :=
  p.wDeadline + 2 * r.priority / 100 * p.wPriority + p.wFairnessDeficit +
    r.durationNs / 10 ^ 9 * (p.wExpectedDuration + p.wCommunicationCost) + p.wReservationFit +
    r.claims * p.wResourceFootprint

/-- The lead in age that no request in the range can make up for. -/
def Range.patience (r : Range) (p : PolicyConfig ℚ) : Nat := ⌊1000 * r.spread p / p.wAge⌋₊ + 1

namespace Scheduler

theorem deadlineUrgency_mem (s : Scheduler ℚ) (req : CollectiveRequest ℚ) :
    0 ≤ s.deadlineUrgency req ∧ s.deadlineUrgency req ≤ 1 := by
  unfold deadlineUrgency
  split_ifs
  · simp only [Double.rat_ofRat]
    have hslack : (0 : ℚ) ≤ ((req.window.deadlineNs - s.now).toNat : ℚ) / 1000000000 := by
      positivity
    refine ⟨by positivity, ?_⟩
    rw [div_le_one (by positivity)]
    linarith
  · exact ⟨le_refl _, zero_le_one⟩

theorem reservationFit_mem (s : Scheduler ℚ) (req : CollectiveRequest ℚ) :
    0 ≤ s.reservationFit req ∧ s.reservationFit req ≤ 1 := by
  unfold reservationFit
  split
  · exact ⟨le_refl _, zero_le_one⟩
  · split_ifs
    · exact ⟨zero_le_one, le_refl _⟩
    · exact ⟨le_refl _, zero_le_one⟩

theorem starvationFactor_le (s : Scheduler ℚ) (rec : Record ℚ) :
    starvationFactor s.policy rec.fairness ≤ 1000 := by
  by_cases h : s.policy.maxBypassCount ≤ rec.fairness.consecutiveBypasses
  · exact (starvationFactor_promoted h).le
  · rw [starvationFactor_below (UInt64.not_le.mp h)]
    exact (pressure_le_one (UInt64.not_le.mp h)).trans (by norm_num)

/-- The score of a candidate, its age aside. -/
def standing (s : Scheduler ℚ) (rec : Record ℚ) : ℚ :=
  s.deadlineUrgency rec.request * s.policy.wDeadline +
    (rec.request.priority.value.toInt : ℚ) / 100 * s.policy.wPriority +
    starvationFactor s.policy rec.fairness * s.policy.wStarvationRisk +
    min rec.fairness.deficit 1 * s.policy.wFairnessDeficit -
    (rec.request.window.expectedDurationNs.toNat : ℚ) / 10 ^ 9 *
      (s.policy.wExpectedDuration + s.policy.wCommunicationCost) +
    s.reservationFit rec.request * s.policy.wReservationFit -
    (rec.request.resourceClaims.length : ℚ) * s.policy.wResourceFootprint

/-- The points every candidate of a round gets alike. -/
def sharedPoints (s : Scheduler ℚ) : ℚ :=
  s.policy.wParticipantAvailability -
    (s.congestion.map CongestionState.utilization).getD 0 * s.policy.wCongestionPenalty

theorem score_refreshed (s : Scheduler ℚ) (id : CollectiveRequestId) {rec : Record ℚ}
    (hlive : rec.lifecycle.isTerminalState = false) :
    (s.refreshed.rankedOf id (s.refreshRecord rec).1).score =
      s.standing rec + ((rec.ageTicks + 1).toNat : ℚ) / 1000 * s.policy.wAge +
        s.sharedPoints := by
  obtain ⟨hrequest, -, -, hfairness⟩ := refreshRecord_frame s rec
  have hage := refreshRecord_ageTicks s hlive
  have hcongestion : s.refreshed.congestion = s.congestion := rfl
  change rankingScore (s.refreshed.rankingKey (s.refreshRecord rec).1) = _
  rw [rankingScore_eq_sum]
  unfold rankingKey
  rw [hrequest, hfairness, hage, ite_one_lt, hcongestion]
  have hsame : s.refreshed.deadlineUrgency rec.request = s.deadlineUrgency rec.request ∧
      s.refreshed.reservationFit rec.request = s.reservationFit rec.request ∧
      s.refreshed.policy = s.policy := ⟨rfl, rfl, rfl⟩
  unfold sharedPoints
  cases s.congestion <;>
    simp only [hsame, List.sum_cons, List.sum_nil, Double.rat_ofRat, standing, Option.map_none,
      Option.getD_none, Option.map_some, Option.getD_some] <;> ring

theorem weigh {a b c w : ℚ} (h : b ≤ a + c) (hw : 0 ≤ w) : b * w ≤ a * w + c * w := by
  rw [← add_mul]
  exact mul_le_mul_of_nonneg_right h hw

section Gap

variable {s : Scheduler ℚ} {r : Range} {recA recB : Record ℚ}

theorem priority_mem {req : CollectiveRequest ℚ} (h : req.Within r) :
    -(r.priority : ℚ) ≤ req.priority.value.toInt ∧ (req.priority.value.toInt : ℚ) ≤ r.priority := by
  have hint : |req.priority.value.toInt| ≤ (r.priority : ℤ) := by
    rw [Int.abs_eq_natAbs]
    exact_mod_cast h.1
  obtain ⟨hlow, hhigh⟩ := abs_le.mp hint
  exact ⟨by exact_mod_cast hlow, by exact_mod_cast hhigh⟩

/-- A promoted candidate with no negative deficit is at most the spread behind. -/
theorem standing_le (hweights : ∀ w ∈ s.policy.weights, 0 ≤ w)
    (hA : recA.request.Within r) (hB : recB.request.Within r)
    (hpromoted : s.policy.maxBypassCount ≤ recA.fairness.consecutiveBypasses)
    (hdeficit : 0 ≤ recA.fairness.deficit) :
    s.standing recB ≤ s.standing recA + r.spread s.policy := by
  simp only [PolicyConfig.weights, List.forall_mem_cons] at hweights
  obtain ⟨hdeadline, hpriority, hstarvation, hfairness, -, hduration, hreservation, hcost,
    hfootprint, -⟩ := hweights
  have hurgency : s.deadlineUrgency recB.request ≤ s.deadlineUrgency recA.request + 1 := by
    linarith [s.deadlineUrgency_mem recA.request, s.deadlineUrgency_mem recB.request]
  have hprio : (recB.request.priority.value.toInt : ℚ) / 100 ≤
      (recA.request.priority.value.toInt : ℚ) / 100 + 2 * r.priority / 100 := by
    linarith [priority_mem hA, priority_mem hB]
  have hstarve : starvationFactor s.policy recB.fairness ≤
      starvationFactor s.policy recA.fairness + 0 := by
    rw [starvationFactor_promoted hpromoted, add_zero]
    exact starvationFactor_le s recB
  have hshare : min recB.fairness.deficit 1 ≤ min recA.fairness.deficit 1 + 1 := by
    linarith [min_le_right recB.fairness.deficit 1, le_min hdeficit zero_le_one]
  have htime : -((recB.request.window.expectedDurationNs.toNat : ℚ) / 10 ^ 9) ≤
      -((recA.request.window.expectedDurationNs.toNat : ℚ) / 10 ^ 9) + r.durationNs / 10 ^ 9 := by
    have hlong : (recA.request.window.expectedDurationNs.toNat : ℚ) ≤ r.durationNs := by
      exact_mod_cast hA.2.1
    have hpos : (0 : ℚ) ≤ recB.request.window.expectedDurationNs.toNat := Nat.cast_nonneg _
    linarith
  have hreserve : s.reservationFit recB.request ≤ s.reservationFit recA.request + 1 := by
    linarith [s.reservationFit_mem recA.request, s.reservationFit_mem recB.request]
  have hclaims : -(recB.request.resourceClaims.length : ℚ) ≤
      -(recA.request.resourceClaims.length : ℚ) + r.claims := by
    have hmany : (recA.request.resourceClaims.length : ℚ) ≤ r.claims := by
      exact_mod_cast hA.2.2
    have hpos : (0 : ℚ) ≤ recB.request.resourceClaims.length := Nat.cast_nonneg _
    linarith
  -- each difference, weighed
  have hurgency := weigh hurgency hdeadline
  have hprio := weigh hprio hpriority
  have hstarve := weigh hstarve hstarvation
  have hshare := weigh hshare hfairness
  have htime := weigh htime (add_nonneg hduration hcost)
  have hreserve := weigh hreserve hreservation
  have hclaims := weigh hclaims hfootprint
  simp only [standing, Range.spread]
  linarith

/-- Who is ranked before a promoted candidate is not younger by the patience of the range. -/
theorem age_lt_of_score_le (hweights : ∀ w ∈ s.policy.weights, 0 ≤ w) (hage : 0 < s.policy.wAge)
    (hA : recA.request.Within r) (hB : recB.request.Within r)
    (hpromoted : s.policy.maxBypassCount ≤ recA.fairness.consecutiveBypasses)
    (hdeficit : 0 ≤ recA.fairness.deficit) {a b : CollectiveRequestId}
    (hliveA : recA.lifecycle.isTerminalState = false)
    (hliveB : recB.lifecycle.isTerminalState = false)
    (hscore : (s.refreshed.rankedOf a (s.refreshRecord recA).1).score ≤
      (s.refreshed.rankedOf b (s.refreshRecord recB).1).score) :
    (recA.ageTicks + 1).toNat < (recB.ageTicks + 1).toNat + r.patience s.policy := by
  rw [score_refreshed s a hliveA, score_refreshed s b hliveB] at hscore
  have hstanding := standing_le hweights hA hB hpromoted hdeficit
  have hlead : (((recA.ageTicks + 1).toNat : ℚ) - (recB.ageTicks + 1).toNat) ≤
      1000 * r.spread s.policy / s.policy.wAge := by
    rw [le_div_iff₀ hage]
    linarith
  have hfloor := Nat.lt_floor_add_one (1000 * r.spread s.policy / s.policy.wAge)
  have hlt : ((recA.ageTicks + 1).toNat : ℚ) <
      ((recB.ageTicks + 1).toNat + r.patience s.policy : ℕ) := by
    unfold Range.patience
    push_cast
    linarith
  exact_mod_cast hlt

end Gap

end Scheduler

/-! ## With arrivals -/

theorem toNat_tick_le (age : UInt64) : (age + 1).toNat ≤ age.toNat + 1 := by
  rw [UInt64.toNat_add]
  exact Nat.mod_le _ _

theorem toNat_tick {age : UInt64} (h : age.toNat + 1 < 2 ^ 64) :
    (age + 1).toNat = age.toNat + 1 := by
  rw [UInt64.toNat_add]
  exact Nat.mod_eq_of_lt h

/-- If the call is a round, it passes the request over among candidates in the range; the
policy stays, and so does the request. -/
def System.WaitsAmong (r : Range) (id : CollectiveRequestId) (y : System ℚ) : Op ℚ → Prop
  | .schedule recordOrder _ => y.sched.PassesOver id recordOrder ∧
      ∀ k ∈ y.sched.candidates recordOrder,
        (y.sched.records.find? k).all (fun rec => decide (rec.request.Within r)) = true
  | .setPolicy _ => False
  | op => op.supersedes id = false

instance (r : Range) (id : CollectiveRequestId) (y : System ℚ) (op : Op ℚ) :
    Decidable (y.WaitsAmong r id op) := by
  rcases op <;> unfold System.WaitsAmong <;> infer_instance

namespace Range

variable (r : Range) (p : PolicyConfig ℚ)

/-- How many rounds it takes until a request is promoted and old enough. -/
def remaining (rec : Record ℚ) : Nat :=
  max (p.maxBypassCount.toNat - rec.fairness.consecutiveBypasses.toNat)
    (r.patience p - rec.ageTicks.toNat)

/-- The ages that a request in the range can still make up for. -/
def senior (rec : Record ℚ) (age : UInt64) : Bool :=
  decide (rec.ageTicks.toNat < age.toNat + r.patience p)

/-- How often the request can still be passed over: until it is promoted and old enough,
and then once for each senior in line. -/
def measure (s : Scheduler ℚ) (id : CollectiveRequestId) (rec : Record ℚ) : Nat :=
  r.remaining s.policy rec +
    if r.remaining s.policy rec = 0 then s.ahead id (r.senior s.policy rec)
    else s.policy.bounds.maxCollectives.toNat

/-- How often a request can be passed over. -/
def bound : Nat := max p.maxBypassCount.toNat (r.patience p) + p.bounds.maxCollectives.toNat

end Range

/-- What holds while a request waits. -/
structure System.Waiting (r : Range) (p : PolicyConfig ℚ) (id : CollectiveRequestId)
    (y : System ℚ) (rec : Record ℚ) : Prop where
  orderly : y.sched.Orderly
  policy : y.sched.policy = p
  size : y.sched.records.size ≤ p.bounds.maxCollectives.toNat
  find : y.sched.records.find? id = some rec
  deficit : 0 ≤ rec.fairness.deficit
  ageRoom : rec.ageTicks.toNat + r.measure y.sched id rec + 1 < 2 ^ 64
  bypassRoom : rec.fairness.consecutiveBypasses.toNat + r.measure y.sched id rec + 1 < 2 ^ 64

namespace System.Waiting

variable {r : Range} {p : PolicyConfig ℚ} {id : CollectiveRequestId} {y : System ℚ}
  {rec : Record ℚ}

theorem ahead_le_size (s : Scheduler ℚ) (id : CollectiveRequestId) (senior : UInt64 → Bool) :
    s.ahead id senior ≤ s.records.size := by
  rw [FinMap.size_eq_count]
  refine FinMap.count_le_count fun k hk => ?_
  obtain ⟨rec, hfind, -⟩ := (Option.any_eq_true _ _).mp hk
  rw [hfind]
  rfl

/-- Between the rounds the measure does not grow: who arrives is no senior of a request
that is old enough. -/
theorem idle (h : y.Waiting r p id rec) {op : Op ℚ} (hround : op.isRound = false)
    (hok : y.WaitsAmong r id op) :
    ∃ rec', (y.next op).Waiting r p id rec' ∧
      r.measure (y.next op).sched id rec' ≤ r.measure y.sched id rec := by
  have hpolicy : op.isSetPolicy = false := by
    cases op with
    | setPolicy => exact hok.elim
    | _ => rfl
  have hsupersedes : op.supersedes id = false := by
    cases op with
    | schedule => cases hround
    | setPolicy => rfl
    | _ => exact hok
  have hkept : (y.next op).sched.policy = p := (y.policy_next hpolicy).trans h.policy
  obtain ⟨rec', hfind', hplace⟩ := y.next_place hround hsupersedes h.find
  have hremaining : r.remaining p rec' = r.remaining p rec := by
    unfold Range.remaining
    rw [hplace.ageTicks, hplace.fairness]
  have hmeasure : r.measure (y.next op).sched id rec' ≤ r.measure y.sched id rec := by
    unfold Range.measure
    rw [hkept, h.policy, hremaining]
    split_ifs with hzero
    · refine Nat.add_le_add_left (System.ahead_next h.orderly (fun _ => ?_) fun age hage => ?_) _
      · have hold : r.patience p - rec.ageTicks.toNat = 0 :=
          Nat.le_zero.mp (hzero ▸ le_max_right _ _)
        rw [Range.senior, hplace.ageTicks, decide_eq_false_iff_not]
        change ¬_ < 0 + _
        omega
      · have hticks : op.ticks = 0 := by
          cases op with
          | schedule => cases hround
          | _ => rfl
        rw [hticks, UInt64.add_zero] at hage
        rw [Range.senior, hplace.ageTicks] at hage
        exact hage
    · exact le_refl _
  refine ⟨rec', ⟨System.next_orderly op h.orderly, hkept, ?_, hfind', ?_, ?_, ?_⟩, hmeasure⟩
  · refine (System.size_next_le y op).trans (max_le h.size ?_)
    rw [h.policy]
  · rw [hplace.fairness]
    exact h.deficit
  · rw [hplace.ageTicks]
    have := h.ageRoom
    omega
  · rw [hplace.fairness]
    have := h.bypassRoom
    omega

section Round

variable {recordOrder : List CollectiveRequestId}

/-- What a round that passes a request over does to its record. -/
theorem find?_passed (horderly : y.sched.Orderly) (hfind : y.sched.records.find? id = some rec)
    (hpass : y.sched.PassesOver id recordOrder) (grantOrder : List CollectiveGrantId) :
    ∃ rec', (y.next (.schedule recordOrder grantOrder)).sched.records.find? id = some rec' ∧
      rec'.ageTicks = rec.ageTicks + 1 ∧
      rec'.fairness = Scheduler.accountRound y.sched.policy false rec.fairness := by
  obtain ⟨s', dec, created, hround⟩ :=
    Scheduler.scheduleRound_isOk horderly.settled recordOrder grantOrder
  have hnot : id ∉ dec.selected := by
    rw [(Scheduler.scheduleRound_ok hround).selected]
    exact hpass.passed
  have heligible := Scheduler.eligible_of_candidate horderly.keyed hpass.candidate hfind
  rw [sched_next_schedule, hround,
    Scheduler.find?_scheduleRound_of_notMem horderly.keyed hround hnot, hfind]
  refine ⟨_, rfl, ?_, if_pos hpass.candidate⟩
  exact y.sched.refreshRecord_ageTicks
    (Scheduler.not_terminal_of_pending (Scheduler.eligible_iff.mp heligible).1)

/-- Of two candidates the one ranked first has no smaller score. -/
theorem score_le_of_sublist {s : Scheduler ℚ} (hkeyed : s.Keyed) {a b : CollectiveRequestId}
    {recA recB : Record ℚ} (hfindA : s.records.find? a = some recA)
    (hfindB : s.records.find? b = some recB) (heligA : s.eligible recA = true)
    (heligB : s.eligible recB = true) (h : [a, b].Sublist (s.ranking recordOrder)) :
    (s.refreshed.rankedOf b (s.refreshRecord recB).1).score ≤
      (s.refreshed.rankedOf a (s.refreshRecord recA).1).score := by
  have hlt := (Scheduler.ranked_before_iff hkeyed hfindA hfindB heligA heligB).mp h
  have hprecedence := Prod.Lex.monotone_fst _ _ hlt.le
  exact OrderDual.toDual_le_toDual.mp (Prod.Lex.monotone_fst _ _ hprecedence)

variable (hweights : ∀ w ∈ p.weights, 0 ≤ w) (hage : 0 < p.wAge)

include hweights hage

/-- A request that is promoted and old enough is passed over for a senior. -/
theorem exists_senior (h : y.Waiting r p id rec) (hpass : y.sched.PassesOver id recordOrder)
    (hwithin : ∀ k ∈ y.sched.candidates recordOrder,
      (y.sched.records.find? k).all (fun rec => decide (rec.request.Within r)) = true)
    (hpromoted : p.maxBypassCount ≤ rec.fairness.consecutiveBypasses) :
    ∃ id' rec', id' ∈ y.sched.selection recordOrder ∧ y.sched.records.find? id' = some rec' ∧
      rec'.isAhead id (r.senior p rec) = true := by
  have hkeyed := h.orderly.keyed
  have hpolicy := h.policy
  obtain ⟨id', hselected, hbefore⟩ := hpass.exists_before hkeyed
  obtain ⟨rec', hfind', heligible', -⟩ :=
    Scheduler.selection_ready hkeyed h.orderly.settled hselected
  have heligible := Scheduler.eligible_of_candidate hkeyed hpass.candidate h.find
  have hcandidate' : id' ∈ y.sched.candidates recordOrder :=
    (Scheduler.mem_candidates_iff hkeyed).mpr ⟨rec', hfind', heligible'⟩
  have hpending := (Scheduler.eligible_iff.mp heligible).1
  have hpending' := (Scheduler.eligible_iff.mp heligible').1
  have hin := hwithin id hpass.candidate
  have hin' := hwithin id' hcandidate'
  rw [h.find, Option.all_some, decide_eq_true_eq] at hin
  rw [hfind', Option.all_some, decide_eq_true_eq] at hin'
  have hgap := Scheduler.age_lt_of_score_le (s := y.sched) (by rw [hpolicy]; exact hweights)
    (by rw [hpolicy]; exact hage) hin hin' (by rw [hpolicy]; exact hpromoted) h.deficit
    (Scheduler.not_terminal_of_pending hpending) (Scheduler.not_terminal_of_pending hpending')
    (score_le_of_sublist hkeyed hfind' h.find heligible' heligible hbefore)
  have hne : id' ≠ id := by
    rintro rfl
    exact hpass.passed hselected
  refine ⟨id', rec', hselected, hfind', Record.isAhead_iff.mpr ⟨hpending', ?_, ?_⟩⟩
  · rw [hkeyed id' rec' hfind']
    exact hne
  · rw [Range.senior, decide_eq_true_eq]
    have hroom := h.ageRoom
    have hyounger := toNat_tick_le rec'.ageTicks
    rw [hpolicy, toNat_tick (by omega)] at hgap
    omega

/-- With every round that passes the request over the measure falls. -/
theorem round (h : y.Waiting r p id rec) (hgrowth : 0 ≤ p.agingGrowth)
    (hpass : y.sched.PassesOver id recordOrder) (grantOrder : List CollectiveGrantId)
    (hwithin : ∀ k ∈ y.sched.candidates recordOrder,
      (y.sched.records.find? k).all (fun rec => decide (rec.request.Within r)) = true) :
    ∃ rec', (y.next (.schedule recordOrder grantOrder)).Waiting r p id rec' ∧
      r.measure (y.next (.schedule recordOrder grantOrder)).sched id rec' + 1 ≤
        r.measure y.sched id rec := by
  obtain ⟨rec', hfind', hticks, haccount⟩ :=
    find?_passed h.orderly h.find hpass grantOrder
  rw [h.policy] at haccount
  have hageRoom := h.ageRoom
  have hbypassRoom := h.bypassRoom
  have hage' : rec'.ageTicks.toNat = rec.ageTicks.toNat + 1 := by
    rw [hticks]
    exact toNat_tick (by omega)
  have hbypass' : rec'.fairness.consecutiveBypasses.toNat =
      rec.fairness.consecutiveBypasses.toNat + 1 := by
    have hadd : rec'.fairness.consecutiveBypasses = rec.fairness.consecutiveBypasses + 1 := by
      rw [haccount]
      rfl
    rw [hadd]
    exact toNat_tick (by omega)
  have hremaining : r.remaining p rec' = r.remaining p rec - 1 := by
    unfold Range.remaining
    rw [hage', hbypass']
    omega
  have hkept : (y.next (.schedule recordOrder grantOrder)).sched.policy = p :=
    (y.policy_next rfl).trans h.policy
  have hsize : (y.next (.schedule recordOrder grantOrder)).sched.records.size ≤
      p.bounds.maxCollectives.toNat := by
    refine (System.size_next_le y _).trans (max_le h.size ?_)
    rw [h.policy]
  have hmeasure : r.measure (y.next (.schedule recordOrder grantOrder)).sched id rec' + 1 ≤
      r.measure y.sched id rec := by
    unfold Range.measure
    rw [hkept, h.policy, hremaining]
    by_cases hzero : r.remaining p rec = 0
    · -- the request is promoted and old enough: a senior leaves the line
      rw [hzero, if_pos rfl, if_pos rfl, Nat.zero_add, Nat.zero_add]
      have hpromoted : p.maxBypassCount ≤ rec.fairness.consecutiveBypasses := by
        rw [UInt64.le_iff_toNat_le]
        unfold Range.remaining at hzero
        omega
      obtain ⟨id', r', hselected, hr', hahead⟩ :=
        exists_senior hweights hage h hpass hwithin hpromoted
      refine System.ahead_round h.orderly (fun age hsenior => ?_) hselected hr' hahead
      rw [Range.senior, decide_eq_true_eq, hage'] at hsenior
      rw [Range.senior, decide_eq_true_eq]
      have hyounger := toNat_tick_le age
      omega
    · -- the request gets closer to it
      have hahead := ahead_le_size (y.next (.schedule recordOrder grantOrder)).sched id
        (r.senior p rec')
      split_ifs <;> omega
  refine ⟨rec', ⟨System.next_orderly _ h.orderly, hkept, hsize, hfind', ?_, ?_, ?_⟩, hmeasure⟩
  · rw [haccount]
    exact add_nonneg h.deficit hgrowth
  · omega
  · omega

end Round

end System.Waiting

/-- How often the request can still be passed over. -/
def System.patienceLeft (r : Range) (id : CollectiveRequestId) (y : System ℚ) : Nat :=
  match y.sched.records.find? id with
  | none => 0
  | some rec => r.measure y.sched id rec

theorem System.Waiting.patienceLeft {r : Range} {p : PolicyConfig ℚ} {id : CollectiveRequestId}
    {y : System ℚ} {rec : Record ℚ} (h : y.Waiting r p id rec) :
    y.patienceLeft r id = r.measure y.sched id rec := by
  rw [System.patienceLeft, h.find]

/-- A waiting request stays one, and every round costs it some of its patience. -/
theorem System.Waiting.next {r : Range} {p : PolicyConfig ℚ} {id : CollectiveRequestId}
    {y : System ℚ} {rec : Record ℚ} (h : y.Waiting r p id rec)
    (hweights : ∀ w ∈ p.weights, 0 ≤ w) (hage : 0 < p.wAge) (hgrowth : 0 ≤ p.agingGrowth)
    {op : Op ℚ} (hok : y.WaitsAmong r id op) :
    ∃ rec', (y.next op).Waiting r p id rec' ∧
      (y.next op).patienceLeft r id + (if op.isRound then 1 else 0) ≤ y.patienceLeft r id := by
  rw [h.patienceLeft]
  cases hround : op.isRound with
  | false =>
      obtain ⟨rec', hnext, hmeasure⟩ := h.idle hround hok
      refine ⟨rec', hnext, ?_⟩
      rw [hnext.patienceLeft]
      exact hmeasure
  | true =>
      cases op with
      | schedule recordOrder grantOrder =>
          obtain ⟨rec', hnext, hmeasure⟩ := h.round hweights hage hgrowth hok.1 _ hok.2
          refine ⟨rec', hnext, ?_⟩
          rw [hnext.patienceLeft]
          exact hmeasure
      | _ => cases hround

/-- With the weights of the factors not negative and a positive one for the age, a request
is passed over at most as often as the bound says, though nothing that executes stands in
its way, whatever else arrives within the range. -/
theorem waiting_is_bounded (y : System ℚ) (hreached : y.Reachable) (r : Range)
    (hweights : ∀ w ∈ y.sched.policy.weights, 0 ≤ w) (hage : 0 < y.sched.policy.wAge)
    (hgrowth : 0 ≤ y.sched.policy.agingGrowth)
    (hsize : y.sched.records.size ≤ y.sched.policy.bounds.maxCollectives.toNat)
    (id : CollectiveRequestId) (rec : Record ℚ) (hfind : y.sched.records.find? id = some rec)
    (hdeficit : 0 ≤ rec.fairness.deficit)
    (hroom : max rec.ageTicks.toNat rec.fairness.consecutiveBypasses.toNat +
      r.bound y.sched.policy + 1 < 2 ^ 64)
    (ops : List (Op ℚ)) (hrun : Runs.Admissible System.next (System.WaitsAmong r id) y ops) :
    ops.countP Op.isRound ≤ r.bound y.sched.policy := by
  have hmeasure : r.measure y.sched id rec ≤ r.bound y.sched.policy := by
    have hahead := System.Waiting.ahead_le_size y.sched id (r.senior y.sched.policy rec)
    unfold Range.measure Range.bound Range.remaining
    split_ifs <;> omega
  have hstart : y.Waiting r y.sched.policy id rec := by
    refine ⟨hreached.durable.orderly, rfl, hsize, hfind, hdeficit, ?_, ?_⟩ <;> omega
  rw [← countP_isRound y ops]
  refine le_trans ?_ (hstart.patienceLeft.trans_le hmeasure)
  generalize y.sched.policy = p at hstart hweights hage hgrowth
  refine Runs.occurrences_le_measure (I := fun y : System ℚ => ∃ rec, y.Waiting r p id rec)
    (System.patienceLeft r id) (fun z op hz hok => ?_) (fun z op hz hok => ?_)
    ⟨rec, hstart⟩ hrun
  all_goals
    obtain ⟨rec, hz⟩ := hz
    obtain ⟨rec', hnext, hfalls⟩ := hz.next hweights hage hgrowth hok
  · exact ⟨rec', hnext⟩
  · exact hfalls

/-- A policy that ranks by age alone, for at most three collectives. -/
def Scenario.byAge : PolicyConfig ℚ where
  wPriority := 0
  wDeadline := 0
  wAge := 1
  wFairnessDeficit := 0
  wStarvationRisk := 0
  wExpectedDuration := 0
  wCongestionPenalty := 0
  wReservationFit := 0
  wCommunicationCost := 0
  wResourceFootprint := 0
  wParticipantAvailability := 0
  maxBypassCount := 1
  agingGrowth := 0
  bounds := { maxCollectives := 3 }

/-- Two rounds, and between them the first request comes in anew. -/
def Scenario.rejoining : List (Op ℚ) :=
  [.schedule [] [], .supersede { request 1 [1] 1 with id := 1, gen := 2 }, .schedule [] []]

/-- Ranked by age alone, the third request is passed over twice, the second time for the
one that did not come in anew, and never more than four times. -/
theorem waiting_is_bounded_by_four :
    Scenario.rejoining.countP Op.isRound ≤ Range.bound ⟨0, 1000, 0⟩ Scenario.byAge ∧
      Range.bound ⟨0, 1000, 0⟩ Scenario.byAge = 4 := by
  refine ⟨?_, by decide +kernel⟩
  have hpolicy : ((System.start Scenario.byAge 1).run Scenario.threeInLine).sched.policy =
    Scenario.byAge := by decide +kernel
  have hrecord : (((System.start Scenario.byAge 1).run
      Scenario.threeInLine).sched.records.find? 3).any (fun rec => rec.ageTicks = 0 &&
        rec.fairness.consecutiveBypasses = 0 && decide (0 ≤ rec.fairness.deficit)) = true := by
    decide +kernel
  obtain ⟨rec, hfind, hfields⟩ := (Option.any_eq_true _ _).mp hrecord
  simp only [Bool.and_eq_true, decide_eq_true_eq] at hfields
  obtain ⟨⟨hage, hbypasses⟩, hdeficit⟩ := hfields
  have hbound := waiting_is_bounded _ ((System.Reachable.start Scenario.byAge 1).run
    Scenario.threeInLine) ⟨0, 1000, 0⟩ (by rw [hpolicy]; decide +kernel)
    (by rw [hpolicy]; decide +kernel) (by rw [hpolicy]; decide +kernel) (by decide +kernel) 3 rec
    hfind hdeficit (by rw [hpolicy, hage, hbypasses]; decide +kernel) Scenario.rejoining
    (by decide +kernel)
  rw [hpolicy] at hbound
  exact hbound

end CollectiveScheduler
