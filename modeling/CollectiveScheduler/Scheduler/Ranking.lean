/-
  Scheduler/Ranking.lean --- the ranking factors and the comparator.

  Source: `ranking_key` and the comparator inside `schedule` of
  src/scheduler.cpp, `cmp_double` and `cmp_rank` of
  include/collective_scheduler/deterministic.hpp.
-/
import CollectiveScheduler.Scheduler.State

set_option autoImplicit false

namespace CollectiveScheduler

open Foundation

variable {D : Type} [Double D]

/-- `cmp_double`: NaN is greater than every number and equal to NaN. -/
def cmpDouble (a b : D) : Ordering :=
  if Double.isNaN a && Double.isNaN b then .eq
  else if Double.isNaN a then .gt
  else if Double.isNaN b then .lt
  else if Double.lt a b then .lt
  else if Double.lt b a then .gt
  else .eq

/-- `cmp_rank`: lexicographic, a proper prefix is less. -/
def cmpRank : List D → List D → Ordering
  | [], [] => .eq
  | [], _ :: _ => .lt
  | _ :: _, [] => .gt
  | a :: as, b :: bs => (cmpDouble a b).then (cmpRank as bs)

namespace Scheduler

/-- `[0]` deadline urgency, larger when the deadline is nearer. -/
def deadlineUrgency (s : Scheduler D) (req : CollectiveRequest D) : D :=
  if req.window.deadlineNs ≠ 0 ∧ s.now < req.window.deadlineNs then
    let rem : D := Double.ofRat (req.window.deadlineNs - s.now).toNat
    let slack := rem / Double.ofRat 1000000000
    Double.ofRat 1 / (Double.ofRat 1 + slack)
  else Double.ofRat 0

/-- `[2]` starvation pressure, replaced by a large constant after
`max_bypass_count` consecutive bypasses. -/
def starvationFactor (p : PolicyConfig D) (f : FairnessAccount D) : D :=
  let fp : FairnessPolicy D :=
    { protectedMinShare := Double.ofRat (1 / 20)
      agingGrowth := p.agingGrowth
      maxBypassCount := p.maxBypassCount
      windowGrants := p.fairnessWindowGrants
      starvationEnabled := true }
  if f.consecutiveBypasses ≥ p.maxBypassCount then Double.ofRat 1000
  else starvationPressure f fp

/-- `[6]` whether the named reservation is known. -/
def reservationFit (s : Scheduler D) (req : CollectiveRequest D) : D :=
  match req.reservationGen with
  | none => Double.ofRat 0
  | some rg => if s.reservations.contains rg then Double.ofRat 1 else Double.ofRat 0

/-- `ranking_key`: the eleven weighted factors. -/
def rankingKey (s : Scheduler D) (rec : Record D) : List D :=
  let req := rec.request
  let p := s.policy
  let duration : D := Double.ofRat req.window.expectedDurationNs.toNat
  let billion : D := Double.ofRat 1000000000
  let deficit :=
    if Double.lt (Double.ofRat 1) rec.fairness.deficit then Double.ofRat 1
    else rec.fairness.deficit
  let cong := match s.congestion with
    | none => Double.ofRat 0
    | some c => c.utilization
  [ s.deadlineUrgency req * p.wDeadline,
    Double.ofRat req.priority.value.toInt / Double.ofRat 100 * p.wPriority,
    starvationFactor p rec.fairness * p.wStarvationRisk,
    deficit * p.wFairnessDeficit,
    Double.ofRat rec.ageTicks.toNat / Double.ofRat 1000 * p.wAge,
    -duration / billion * p.wExpectedDuration,
    s.reservationFit req * p.wReservationFit,
    -duration / billion * p.wCommunicationCost,
    -(Double.ofRat req.resourceClaims.length) * p.wResourceFootprint,
    -cong * p.wCongestionPenalty,
    Double.ofRat 1 * p.wParticipantAvailability ]

/-- The factor names, parallel to `rankingKey`. -/
def factorKinds : List SchedulingFactorKind :=
  [.deadlineSlack, .externalPriority, .starvationRisk, .fairnessDeficit, .age,
    .expectedDuration, .reservationFit, .communicationCost, .resourceFootprint,
    .congestionPenalty, .participantAvailability]

/-- The sum of the factors, accumulated left to right. -/
def rankingScore (key : List D) : D := key.foldl (· + ·) (Double.ofRat 0)

/-- `struct Ranked`, with the collective the comparator looks up. -/
structure Ranked (D : Type) where
  id : CollectiveRequestId
  key : List D
  score : D
  seq : UInt64
  collective : CollectiveId

/-- One entry of the ranked list, with `records.at(id)` resolved. -/
def rankedOf (s : Scheduler D) (id : CollectiveRequestId) (rec : Record D) : Ranked D :=
  let key := s.rankingKey rec
  { id := id, key := key, score := rankingScore key, seq := rec.enqueueSeq,
    collective := rec.request.collective }

/-- The comparator of the stable sort: whether `a` ranks strictly before `b`. -/
def Ranked.before (a b : Ranked D) : Bool :=
  if !Double.eq a.score b.score then Double.lt b.score a.score
  else
    match cmpRank a.key b.key with
    | .gt => true
    | .lt => false
    | .eq =>
        if a.collective ≠ b.collective then a.collective < b.collective
        else if a.seq ≠ b.seq then a.seq < b.seq
        else a.id < b.id

/-- The candidates in rank order (`std::stable_sort`). -/
def rank (s : Scheduler D) (candidates : List CollectiveRequestId) : List (Ranked D) :=
  (candidates.filterMap (fun id => (s.records.find? id).map (s.rankedOf id))).insertionSort
    (fun a b => Ranked.before b a = false)

end Scheduler

end CollectiveScheduler
