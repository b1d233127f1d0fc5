/-
  Properties/RoundTrip.lean --- saving and restoring a scheduler.

  A saved snapshot restores into any scheduler that has room for its records: the
  counters and the records come back as they were, every record that was not
  terminal waits for revalidation, and the evidence and the grants are gone.  A
  second save and restore changes nothing.
-/
import CollectiveScheduler.Foundation.Binary64
import CollectiveScheduler.Properties.LifecycleGuard
import CollectiveScheduler.System.Durable
import CollectiveScheduler.System.Scenario

set_option autoImplicit false

namespace CollectiveScheduler

open Foundation

variable {D : Type}

/-! ## What is read back is what was written -/

section Recoded

variable [Double D] [Double.BitCast D]

/-- The readiness, the candidate flags, the footprint and the grant of a record are
not written; the recovery after a restore sets the rest of them. -/
theorem Record.recoded_eq (rec : Record D) :
    rec.recoded =
      { request := rec.request, lifecycle := rec.lifecycle, enqueueSeq := rec.enqueueSeq,
        ageTicks := rec.ageTicks, fairness := rec.fairness } := by
  simp only [Record.recoded, CollectiveRequest.recoded_eq, FairnessAccount.recoded_eq]

end Recoded

/-! ## The restored state -/

/-- A record after it was saved and restored. -/
structure Record.RecoveredFrom (rec rec' : Record D) : Prop where
  request : rec'.request = rec.request
  enqueueSeq : rec'.enqueueSeq = rec.enqueueSeq
  ageTicks : rec'.ageTicks = rec.ageTicks
  fairness : rec'.fairness = rec.fairness
  lifecycle : rec'.lifecycle =
    if rec.lifecycle.isTerminalState then rec.lifecycle else .revalidationRequired
  currentGrant : rec'.currentGrant = none

/-- A scheduler into which a snapshot of `s` was restored. -/
structure Scheduler.RestoredFrom (s t : Scheduler D) : Prop where
  epoch : t.epoch = s.epoch
  ids : t.nextRequestId = s.nextRequestId ∧ t.nextScheduleId = s.nextScheduleId ∧
    t.nextGrantId = s.nextGrantId ∧ t.nextGroupId = s.nextGroupId
  gens : t.nextScheduleGen = s.nextScheduleGen ∧ t.nextGrantGen = s.nextGrantGen ∧
    t.nextGroupGen = s.nextGroupGen
  nextSeq : t.nextSeq = s.nextSeq
  policyGen : t.policyGen = s.policyGen
  records : ∀ id, Option.Rel Record.RecoveredFrom (s.records.find? id) (t.records.find? id)
  evidence : t.participants = .empty ∧ t.plans = .empty ∧ t.deps = .empty ∧
    t.reservations = .empty ∧ t.congestion = none ∧ t.capacity = none
  grants : t.grants = .empty ∧ t.activeGrants = 0

section Restored

variable [Double D] [Double.BitCast D]

theorem Record.recoveredFrom_recoded (rec : Record D) : rec.RecoveredFrom rec.recoded.recover := by
  rw [Record.recoded_eq]
  refine ⟨rfl, rfl, rfl, rfl, ?_, rfl⟩
  simp only [Record.recover, LifecycleState.transitionOrForce_eq]

theorem Persistence.restoredFrom (s t : Scheduler D) : s.RestoredFrom (restored t s) where
  epoch := rfl
  ids := ⟨rfl, rfl, rfl, rfl⟩
  gens := ⟨rfl, rfl, rfl⟩
  nextSeq := rfl
  policyGen := rfl
  records id := by
    have hmap : (restored t s).records.find? id =
        (s.records.find? id).map (fun rec => rec.recoded.recover) := FinMap.find?_mapVals _ _ _
    rw [hmap]
    cases s.records.find? id with
    | none => exact .none
    | some rec => exact .some rec.recoveredFrom_recoded
  evidence := ⟨rfl, rfl, rfl, rfl, rfl, rfl⟩
  grants := ⟨rfl, rfl⟩

/-- A recovered record is not changed by another round of writing, reading and
recovering. -/
theorem Record.recover_recoded_recover (rec : Record D) :
    rec.recoded.recover.recoded.recover = rec.recoded.recover := by
  simp only [Record.recoded_eq, Record.recover, LifecycleState.transitionOrForce_eq]
  cases rec.lifecycle <;> rfl

theorem Persistence.restored_restored (s t : Scheduler D) :
    restored (restored t s) (restored t s) = restored t s := by
  have hrecords : (restored t s).records.mapVals (fun _ rec => rec.recoded.recover) =
      (restored t s).records := by
    refine FinMap.ext_find? fun id => ?_
    simp only [restored, FinMap.find?_mapVals]
    cases s.records.find? id with
    | none => rfl
    | some rec => simp only [Option.map_some, Record.recover_recoded_recover]
  conv_lhs => rw [restored]
  rw [hrecords]
  rfl

end Restored

/-- Every reachable scheduler is restored from its snapshot by every scheduler whose
history bound admits its records, and a second save and restore changes nothing. -/
theorem save_restore_round_trip [Double D] [Double.BitCast D] {y : System D}
    (h : y.Reachable) (t : Scheduler D)
    (hbound : y.sched.records.size ≤ t.policy.bounds.maxHistoryRecords.toNat)
    (recordOrder recordOrder' : List CollectiveRequestId) :
    ∃ t', Persistence.restore t (Persistence.save y.sched recordOrder) = (t', .ok ()) ∧
      y.sched.RestoredFrom t' ∧
      Persistence.restore t' (Persistence.save t' recordOrder') = (t', .ok ()) := by
  have hdurable := h.durable
  have hsize : (Persistence.restored t y.sched).records.size = y.sched.records.size :=
    FinMap.size_mapVals _ _
  refine ⟨Persistence.restored t y.sched, ?_, Persistence.restoredFrom y.sched t, ?_⟩
  · rw [Persistence.restore_save t hdurable.storable, if_pos hbound]
  · rw [Persistence.restore_save _ (hdurable.restored t).storable, Persistence.restored_restored,
      if_pos]
    rw [hsize]
    exact hbound

/-- A granted request is saved by one scheduler and restored by another, with
doubles as bit patterns. -/
theorem save_restore_round_trip_granted :
    let y : System Binary64 := Scenario.start.run
      [.publishParticipant (Scenario.participant 1 1 1 11), .publishPlan (Scenario.plan 1 1 [1]),
        .submit (Scenario.request 1 [1] 1), .schedule [] []]
    let t : Scheduler Binary64 := .fresh .default 7
    (y.sched.records.find? ⟨1⟩).map (·.lifecycle) = some .granted ∧
      ∃ t', Persistence.restore t (Persistence.save y.sched []) = (t', .ok ()) ∧
        y.sched.RestoredFrom t' := by
  intro y t
  have hreachable : y.Reachable := System.Reachable.run (.start _ _) _
  obtain ⟨t', hrestore, hfrom, -⟩ :=
    save_restore_round_trip hreachable t (by decide +kernel) [] []
  exact ⟨by decide +kernel, t', hrestore, hfrom⟩

end CollectiveScheduler
