/-
  Persistence/Truncation.lean --- a record or a snapshot that is cut short is rejected.

  Source: `PersistenceReader` and `Persistence::restore` of src/persistence.cpp, and the
  functions of src/serialize.cpp that read.

  Every count and every length stands in front of what it counts, and the readers look at
  nothing else, so they are stable.  A snapshot that lost its last bytes is therefore
  rejected by the reader of its state, also where its last eight bytes happen to be the
  checksum of those in front of them.
-/
import CollectiveScheduler.Foundation.Truncation
import CollectiveScheduler.Persistence.Snapshot
import CollectiveScheduler.Protocol.Payload

set_option autoImplicit false

namespace CollectiveScheduler

open Foundation Reader

/-! ## The methods of the reader -/

section Methods

open PersistenceReader

theorem stable_number (width : Nat) : Stable (number width) :=
  (Stable.chunk _ _ width).map

theorem stable_u8 : Stable u8 := (stable_number 1).map

theorem stable_u32 : Stable u32 := (stable_number 4).map

theorem stable_u64 : Stable u64 := (stable_number 8).map

theorem stable_i32 : Stable i32 := stable_u32.map

theorem stable_f64 {D : Type} [Double D] : Stable (f64 : Read D) := stable_u64.map

theorem stable_bool : Stable bool := stable_u8.map

theorem stable_ident {d : IdDomain} : Stable (ident : Read (Id d)) := stable_u64.map

theorem stable_gen {d : GenDomain} : Stable (gen : Read (Gen d)) := stable_u64.map

theorem stable_vec {α : Type} {r : Read α} (h : Stable r) : Stable (vec r) :=
  stable_u64.bind fun n => h.times n.toNat

theorem stable_str : Stable str :=
  stable_u64.bind fun _ => Stable.limited _ (Stable.chunk _ _ _).map

theorem stable_opt {α : Type} {r : Read α} (h : Stable r) : Stable (opt r) := by
  refine stable_bool.bind fun flag => ?_
  cases flag with
  | false => exact .pure none
  | true => exact h.map

end Methods

/-! ## Records -/

theorem stable_dependency : Stable deserializeDependency := by
  unfold deserializeDependency
  exact stable_ident.bind fun _ => stable_gen.bind fun _ => stable_u8.bind fun _ =>
    stable_u8.bind fun _ => .pure _

section Doubles

variable {D : Type} [Double D]

theorem stable_claim : Stable (deserializeClaim (D := D)) := by
  unfold deserializeClaim
  exact stable_ident.bind fun _ => stable_gen.bind fun _ => stable_f64.bind fun _ =>
    stable_bool.bind fun _ => stable_u8.bind fun _ => .pure _

theorem stable_request : Stable (deserializeRequest (D := D)) := by
  unfold deserializeRequest
  refine stable_ident.bind fun _ => stable_gen.bind fun _ => stable_ident.bind fun _ =>
    stable_gen.bind fun _ => stable_u8.bind fun _ => stable_u64.bind fun _ =>
    (stable_vec stable_ident).bind fun _ => (stable_vec stable_gen).bind fun _ =>
    (stable_vec stable_u64).bind fun _ => stable_ident.bind fun _ => stable_gen.bind fun _ =>
    (stable_vec stable_dependency).bind fun _ => (stable_vec stable_claim).bind fun _ =>
    (stable_vec stable_str).bind fun _ => ?_
  exact stable_i32.bind fun _ => stable_gen.bind fun _ =>
    stable_bool.bind fun _ => stable_u64.bind fun _ => stable_u64.bind fun _ =>
    stable_u64.bind fun _ => stable_u64.bind fun _ => stable_u64.bind fun _ =>
    stable_u8.bind fun _ => stable_u8.bind fun _ => stable_u8.bind fun _ =>
    (stable_opt stable_gen).bind fun _ => stable_ident.bind fun _ => stable_gen.bind fun _ =>
    stable_u8.bind fun _ => stable_u32.bind fun _ => stable_u32.bind fun _ =>
    stable_gen.bind fun _ => stable_u8.bind fun _ => .pure _

theorem stable_fairness : Stable (deserializeFairness (D := D)) := by
  unfold deserializeFairness
  exact stable_u8.bind fun _ => stable_u64.bind fun _ => stable_f64.bind fun _ =>
    stable_f64.bind fun _ => stable_u64.bind fun _ => stable_u64.bind fun _ =>
    stable_bool.bind fun _ => stable_f64.bind fun _ => .pure _

theorem stable_plan : Stable (deserializePlan (D := D)) := by
  unfold deserializePlan
  exact stable_ident.bind fun _ => stable_gen.bind fun _ => stable_u8.bind fun _ =>
    stable_gen.bind fun _ => (stable_vec stable_ident).bind fun _ =>
    (stable_vec stable_ident).bind fun _ => (stable_vec stable_ident).bind fun _ =>
    (stable_vec stable_ident).bind fun _ => (stable_vec stable_ident).bind fun _ =>
    stable_u64.bind fun _ => stable_f64.bind fun _ => stable_u64.bind fun _ =>
    stable_u64.bind fun _ => stable_u8.bind fun _ => stable_bool.bind fun _ => .pure _

theorem stable_congestion : Stable (deserializeCongestion (D := D)) := by
  unfold deserializeCongestion
  exact stable_gen.bind fun _ => stable_f64.bind fun _ => stable_f64.bind fun _ =>
    stable_bool.bind fun _ => stable_bool.bind fun _ => stable_f64.bind fun _ =>
    stable_bool.bind fun _ => (stable_vec stable_ident).bind fun _ => stable_u8.bind fun _ =>
    .pure _

theorem stable_reservation : Stable (deserializeReservation (D := D)) := by
  unfold deserializeReservation
  exact stable_gen.bind fun _ => stable_u8.bind fun _ => stable_f64.bind fun _ =>
    (stable_vec stable_ident).bind fun _ => (stable_vec stable_ident).bind fun _ =>
    stable_u64.bind fun _ => stable_u64.bind fun _ => stable_u8.bind fun _ =>
    stable_bool.bind fun _ => .pure _

theorem stable_capacity : Stable (deserializeCapacity (D := D)) := by
  unfold deserializeCapacity
  exact stable_gen.bind fun _ => stable_f64.bind fun _ => stable_f64.bind fun _ =>
    stable_f64.bind fun _ => stable_u8.bind fun _ => .pure _

end Doubles

theorem stable_evidenceSnapshot : Stable deserializeEvidenceSnapshot := by
  unfold deserializeEvidenceSnapshot
  exact stable_gen.bind fun _ => stable_gen.bind fun _ => stable_gen.bind fun _ =>
    stable_gen.bind fun _ => stable_gen.bind fun _ => stable_gen.bind fun _ =>
    stable_gen.bind fun _ => stable_gen.bind fun _ => stable_gen.bind fun _ =>
    stable_gen.bind fun _ => stable_gen.bind fun _ => stable_gen.bind fun _ =>
    stable_gen.bind fun _ => stable_gen.bind fun _ => stable_gen.bind fun _ => .pure _

theorem stable_revalidation : Stable deserializeRevalidation := by
  unfold deserializeRevalidation
  exact stable_bool.bind fun _ => stable_bool.bind fun _ => stable_bool.bind fun _ =>
    stable_bool.bind fun _ => stable_bool.bind fun _ => stable_bool.bind fun _ =>
    stable_bool.bind fun _ => stable_bool.bind fun _ => .pure _

theorem stable_grant : Stable deserializeGrant := by
  unfold deserializeGrant
  exact stable_ident.bind fun _ => stable_gen.bind fun _ => stable_ident.bind fun _ =>
    stable_gen.bind fun _ => stable_ident.bind fun _ => stable_gen.bind fun _ =>
    stable_ident.bind fun _ => stable_gen.bind fun _ => (stable_vec stable_ident).bind fun _ =>
    (stable_vec stable_gen).bind fun _ => stable_ident.bind fun _ => stable_gen.bind fun _ =>
    stable_evidenceSnapshot.bind fun _ => stable_revalidation.bind fun _ =>
    stable_ident.bind fun _ => stable_ident.bind fun _ => stable_gen.bind fun _ =>
    stable_gen.bind fun _ => stable_bool.bind fun _ => stable_bool.bind fun _ => .pure _

theorem stable_participant : Stable deserializeParticipant := by
  unfold deserializeParticipant
  exact stable_ident.bind fun _ => stable_gen.bind fun _ => stable_ident.bind fun _ =>
    stable_ident.bind fun _ => stable_ident.bind fun _ => stable_ident.bind fun _ =>
    stable_ident.bind fun _ => stable_ident.bind fun _ => stable_ident.bind fun _ =>
    stable_gen.bind fun _ => stable_gen.bind fun _ => stable_gen.bind fun _ =>
    stable_u32.bind fun _ => stable_bool.bind fun _ => stable_u8.bind fun _ =>
    stable_u8.bind fun _ => .pure _

theorem stable_dependencyState : Stable deserializeDependencyState := by
  unfold deserializeDependencyState
  exact stable_ident.bind fun _ => stable_u8.bind fun _ => stable_gen.bind fun _ =>
    stable_bool.bind fun _ => stable_u8.bind fun _ => .pure _

/-! ## Snapshots -/

section Snapshots

variable {D : Type} [Double D]

theorem stable_lifecycle : Stable readLifecycle := by
  unfold readLifecycle
  refine stable_u8.bind fun b => ?_
  cases LifecycleState.ofByte? b with
  | none => exact .fail _
  | some st => exact .pure st

theorem stable_record : Stable (deserializeRecord (D := D)) := by
  unfold deserializeRecord
  exact stable_request.bind fun _ => stable_lifecycle.bind fun _ => stable_u64.bind fun _ =>
    stable_u64.bind fun _ => stable_fairness.bind fun _ => .pure _

theorem stable_state (bound : UInt64) : Stable (Scheduler.deserializeState (D := D) bound) := by
  unfold Scheduler.deserializeState
  refine stable_gen.bind fun _ => stable_ident.bind fun _ => stable_ident.bind fun _ =>
    stable_ident.bind fun _ => stable_ident.bind fun _ => stable_gen.bind fun _ =>
    stable_gen.bind fun _ => stable_gen.bind fun _ => stable_u64.bind fun _ =>
    stable_gen.bind fun _ => stable_u64.bind fun nrec => ?_
  split_ifs
  · exact .fail _
  · exact (stable_record.times nrec.toNat).map

/-- No state is read from a strict beginning of a state, whatever the bound on its records. -/
theorem Scheduler.deserializeState_take {s : Scheduler D} (h : s.Storable)
    (recordOrder : List CollectiveRequestId) (bound : UInt64) {n : Nat}
    (hn : n < (s.serializeState recordOrder).length) (limit : Nat) :
    ∃ e, Scheduler.deserializeState (D := D) bound limit
      ((s.serializeState recordOrder).take n) = .error e := by
  by_cases hbound : s.records.size ≤ bound.toNat
  · exact (stable_state bound).rejects_take (decodes_state h recordOrder hbound) hn limit
  · exact (stable_state bound).rejects_take_of_fails
      (fails_state h recordOrder (Nat.lt_of_not_le hbound)) limit

namespace Persistence

/-- The bytes of the state in a snapshot that is cut short, if the checks admit it. -/
theorem checkEnvelope_take {s : Scheduler D} {recordOrder : List CollectiveRequestId} {n : Nat}
    (hn : n < (save s recordOrder).length) {state : List UInt8}
    (h : checkEnvelope ((save s recordOrder).take n) = .ok state) :
    ∃ k < (s.serializeState recordOrder).length, state = (s.serializeState recordOrder).take k := by
  have hlength := length_save s recordOrder
  have hbody := length_body s recordOrder
  have htaken : ((save s recordOrder).take n).length = n := by
    rw [List.length_take]
    omega
  have hheader : (body s recordOrder).drop 6 = s.serializeState recordOrder := by
    rw [body, ← List.append_assoc]
    exact List.drop_left' rfl
  unfold checkEnvelope at h
  rw [htaken] at h
  split_ifs at h with hshort
  split at h
  · cases h
  · rename_i magic ver rest hread
    simp only at h
    split_ifs at h
    refine ⟨n - 14, by omega, ?_⟩
    rw [← Except.ok.inj h, List.take_take, Nat.min_eq_left (by omega), save,
      List.take_append_of_le_length (by omega), List.drop_take, hheader]
    congr 1

/-- A snapshot that is cut short is rejected, and the scheduler stays as it is. -/
theorem restore_take (t : Scheduler D) {s : Scheduler D} (h : s.Storable)
    (recordOrder : List CollectiveRequestId) {n : Nat}
    (hn : n < (save s recordOrder).length) :
    ∃ e, restore t ((save s recordOrder).take n) = (t, .error e) := by
  unfold restore
  cases henvelope : checkEnvelope ((save s recordOrder).take n) with
  | error e => exact ⟨e, rfl⟩
  | ok state =>
      obtain ⟨k, hk, rfl⟩ := checkEnvelope_take hn henvelope
      obtain ⟨e, hread⟩ := Scheduler.deserializeState_take h recordOrder
        t.policy.bounds.maxHistoryRecords hk ((s.serializeState recordOrder).take k).length
      simp only
      rw [hread]
      exact ⟨e, rfl⟩

end Persistence

end Snapshots

end CollectiveScheduler
