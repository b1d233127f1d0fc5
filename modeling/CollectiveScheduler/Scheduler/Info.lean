/-
  Scheduler/Info.lean --- the report of `info`.

  Source: `Scheduler::Info` of include/collective_scheduler/scheduler.hpp and `info` of
  src/scheduler.cpp.

  The list of eligible requests is read from the flag that the last round left in the
  records; `eligible` is never assigned and keeps its default.
-/
import CollectiveScheduler.Scheduler.State

set_option autoImplicit false

namespace CollectiveScheduler

open Foundation

/-- `Scheduler::Info`. -/
structure Info where
  records : Nat := 0
  participants : Nat := 0
  plans : Nat := 0
  queued : Nat := 0
  ready : Nat := 0
  eligible : Nat := 0
  activeGrants : Nat := 0
  retired : Nat := 0
  capacityGen : CapacityGeneration := 0
  congestionGen : CongestionGeneration := 0
  reservationGen : ReservationGeneration := 0
  epoch : CoordinatorEpoch := 0
  nowNs : Nanoseconds := 0
  nextEligible : List CollectiveRequestId := []

variable {D : Type}

/-- The test that puts a record into `next_eligible`. -/
def Record.isListed (rec : Record D) : Bool :=
  rec.hardEligible && rec.lifecycle ≠ .granted && rec.lifecycle ≠ .active

/-- An entry of the list before it is sorted, with `records.at(id)` resolved. -/
structure Listing where
  id : CollectiveRequestId
  seq : UInt64
  collective : CollectiveId

/-- The comparator of `info`. -/
def Listing.before (a b : Listing) : Bool :=
  if a.collective ≠ b.collective then a.collective < b.collective
  else if a.seq ≠ b.seq then a.seq < b.seq
  else a.id < b.id

namespace Scheduler

/-- The entries of the list, in iteration order. -/
def listings (s : Scheduler D) (recordOrder : List CollectiveRequestId) : List Listing :=
  (s.records.iteration recordOrder).filterMap fun id =>
    (s.records.find? id).bind fun rec =>
      if rec.isListed then
        some { id := id, seq := rec.enqueueSeq, collective := rec.request.collective }
      else none

/-- `info`, walking the records in iteration order. -/
def info (s : Scheduler D) (recordOrder : List CollectiveRequestId) : Info where
  records := s.records.size
  participants := s.participants.size
  plans := s.plans.size
  queued := s.records.count (fun r => r.lifecycle = .queued || r.lifecycle = .eligible)
  ready := s.records.count (fun r => r.lifecycle = .ready)
  activeGrants := s.activeGrants
  retired := s.records.count (fun r => r.lifecycle = .retired)
  capacityGen := s.capacityGen
  congestionGen := s.congestionGen
  reservationGen := s.reservationGen
  epoch := s.epoch
  nowNs := s.now
  nextEligible := ((s.listings recordOrder).insertionSort
    (fun a b => Listing.before b a = false)).map Listing.id

theorem listings_ids (s : Scheduler D) (recordOrder : List CollectiveRequestId) :
    (s.listings recordOrder).map Listing.id =
      (s.records.iteration recordOrder).filter
        (fun id => (s.records.find? id).any Record.isListed) := by
  rw [listings, List.map_filterMap, ← List.filterMap_eq_filter]
  refine List.filterMap_congr fun id _ => ?_
  cases hfind : s.records.find? id with
  | none => simp [Option.guard, hfind]
  | some rec => cases hlisted : rec.isListed <;> simp [Option.guard, hfind, hlisted]

/-- The list is a permutation of the listed records. -/
theorem nextEligible_perm (s : Scheduler D) (recordOrder : List CollectiveRequestId) :
    (s.info recordOrder).nextEligible.Perm ((s.records.iteration recordOrder).filter
      (fun id => (s.records.find? id).any Record.isListed)) := by
  rw [← s.listings_ids recordOrder]
  exact (List.perm_insertionSort _ _).map _

theorem mem_nextEligible_iff {s : Scheduler D} {recordOrder : List CollectiveRequestId}
    {id : CollectiveRequestId} :
    id ∈ (s.info recordOrder).nextEligible ↔
      ∃ rec, s.records.find? id = some rec ∧ rec.isListed = true := by
  rw [(s.nextEligible_perm recordOrder).mem_iff, List.mem_filter, FinMap.mem_iteration_iff,
    Option.any_eq_true]
  constructor
  · rintro ⟨-, hlisted⟩
    exact hlisted
  · rintro ⟨rec, hfind, hlisted⟩
    exact ⟨⟨rec, hfind⟩, rec, hfind, hlisted⟩

theorem nodup_nextEligible (s : Scheduler D) (recordOrder : List CollectiveRequestId) :
    (s.info recordOrder).nextEligible.Nodup :=
  (s.nextEligible_perm recordOrder).nodup_iff.mpr ((s.records.nodup_iteration recordOrder).filter _)

end Scheduler

end CollectiveScheduler
