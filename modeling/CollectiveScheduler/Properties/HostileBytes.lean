/-
  Properties/HostileBytes.lean --- decoding hostile bytes stays inside the buffer.

  The counts and string lengths that `deserialize_*` reads are whatever the sender wrote,
  up to `2 ^ 64 - 1`.  A string length is compared with the limit and with the end of the
  buffer, and a count is not compared with anything: the loop ends because every element
  takes at least one byte, so that it runs out of bytes first.  `need` adds the size to the
  position with wrap-around, which cannot happen while both are below `2 ^ 63`.
-/
import CollectiveScheduler.Persistence.Positional

set_option autoImplicit false

namespace CollectiveScheduler

open Foundation Cursor

namespace Positional

variable {α : Type}

/-! ## The methods of the reader -/

theorem refines_number {width : UInt64} (h : 1 ≤ width.toNat) :
    Refines 0 1 (number width) (PersistenceReader.number width.toNat) :=
  (Refines.chunk _ _ (by omega)).map

theorem refines_u8 : Refines 0 1 u8 PersistenceReader.u8 :=
  (refines_number (by decide)).map

theorem refines_u32 : Refines 0 1 u32 PersistenceReader.u32 :=
  (refines_number (by decide)).map

theorem refines_u64 : Refines 0 1 u64 PersistenceReader.u64 :=
  (refines_number (by decide)).map

theorem refines_i32 : Refines 0 1 i32 PersistenceReader.i32 := refines_u32.map

theorem refines_f64 {D : Type} [Double D] :
    Refines 0 1 (f64 : Read D) PersistenceReader.f64 := refines_u64.map

theorem refines_bool : Refines 0 1 bool PersistenceReader.bool := refines_u8.map

theorem refines_ident {d : IdDomain} :
    Refines 0 1 (ident : Read (Id d)) PersistenceReader.ident := refines_u64.map

theorem refines_gen {d : GenDomain} :
    Refines 0 1 (gen : Read (Gen d)) PersistenceReader.gen := refines_u64.map

/-- The loop over a count ends with the bytes, if each element takes one. -/
theorem refines_vec {c : Read α} {r : PersistenceReader.Read α} (h : Refines 0 1 c r) :
    Refines 0 1 (vec c) (PersistenceReader.vec r) :=
  refines_u64.seq fun n => h.times n.toNat

/-- The eight bytes of the length pay for the check of an empty string. -/
theorem refines_str : Refines 0 1 str PersistenceReader.str := by
  have hsize : Refines 0 22 u64 PersistenceReader.u64 := by
    have hchunk : Refines 0 22 (chunk 8) (PersistenceReader.need 8) :=
      Refines.chunk _ _ (by decide)
    exact hchunk.map.map
  refine hsize.bind fun n => Refines.limit.bind fun max => ?_
  by_cases hmax : n.toNat > max
  · rw [if_pos hmax, if_pos hmax]
    exact Refines.fail _
  · rw [if_neg hmax, if_neg hmax]
    exact (Refines.chunk _ _ (by omega)).map

theorem refines_opt {c : Read α} {r : PersistenceReader.Read α} (h : Refines 0 1 c r) :
    Refines 0 1 (opt c) (PersistenceReader.opt r) := by
  refine refines_bool.seq fun flag => show Refines 0 0 _ _ from ?_
  cases flag with
  | false => exact Refines.pure none
  | true => exact (h.map (k := some)).mono (by omega) (by omega)

/-! ## The deserializers -/

theorem refines_dependency :
    Refines 0 1 deserializeDependency CollectiveScheduler.deserializeDependency := by
  unfold deserializeDependency CollectiveScheduler.deserializeDependency
  exact refines_ident.seq fun _ => refines_gen.seq fun _ => refines_u8.seq fun _ =>
    refines_u8.seq fun _ => Refines.pure _

section Doubles

variable {D : Type} [Double D]

theorem refines_claim :
    Refines 0 1 (deserializeClaim : Read (ResourceClaim D))
      CollectiveScheduler.deserializeClaim := by
  unfold deserializeClaim CollectiveScheduler.deserializeClaim
  exact refines_ident.seq fun _ => refines_gen.seq fun _ => refines_f64.seq fun _ =>
    refines_bool.seq fun _ => refines_u8.seq fun _ => Refines.pure _

theorem refines_request :
    Refines 0 1 (deserializeRequest : Read (CollectiveRequest D))
      CollectiveScheduler.deserializeRequest := by
  unfold deserializeRequest CollectiveScheduler.deserializeRequest
  exact refines_ident.seq fun _ => refines_gen.seq fun _ => refines_ident.seq fun _ =>
    refines_gen.seq fun _ => refines_u8.seq fun _ => refines_u64.seq fun _ =>
    (refines_vec refines_ident).seq fun _ => (refines_vec refines_gen).seq fun _ =>
    (refines_vec refines_u64).seq fun _ => refines_ident.seq fun _ => refines_gen.seq fun _ =>
    (refines_vec refines_dependency).seq fun _ => (refines_vec refines_claim).seq fun _ =>
    (refines_vec refines_str).seq fun _ => refines_i32.seq fun _ => refines_gen.seq fun _ =>
    refines_bool.seq fun _ => refines_u64.seq fun _ => refines_u64.seq fun _ =>
    refines_u64.seq fun _ => refines_u64.seq fun _ => refines_u64.seq fun _ =>
    refines_u8.seq fun _ => refines_u8.seq fun _ => refines_u8.seq fun _ =>
    (refines_opt refines_gen).seq fun _ => refines_ident.seq fun _ => refines_gen.seq fun _ =>
    refines_u8.seq fun _ => refines_u32.seq fun _ => refines_u32.seq fun _ =>
    refines_gen.seq fun _ => refines_u8.seq fun _ => Refines.pure _

theorem refines_fairness :
    Refines 0 1 (deserializeFairness : Read (FairnessAccount D))
      CollectiveScheduler.deserializeFairness := by
  unfold deserializeFairness CollectiveScheduler.deserializeFairness
  exact refines_u8.seq fun _ => refines_u64.seq fun _ => refines_f64.seq fun _ =>
    refines_f64.seq fun _ => refines_u64.seq fun _ => refines_u64.seq fun _ =>
    refines_bool.seq fun _ => refines_f64.seq fun _ => Refines.pure _

theorem refines_plan :
    Refines 0 1 (deserializePlan : Read (CommunicationPlan D))
      CollectiveScheduler.deserializePlan := by
  unfold deserializePlan CollectiveScheduler.deserializePlan
  exact refines_ident.seq fun _ => refines_gen.seq fun _ => refines_u8.seq fun _ =>
    refines_gen.seq fun _ => (refines_vec refines_ident).seq fun _ =>
    (refines_vec refines_ident).seq fun _ => (refines_vec refines_ident).seq fun _ =>
    (refines_vec refines_ident).seq fun _ => (refines_vec refines_ident).seq fun _ =>
    refines_u64.seq fun _ => refines_f64.seq fun _ => refines_u64.seq fun _ =>
    refines_u64.seq fun _ => refines_u8.seq fun _ => refines_bool.seq fun _ => Refines.pure _

theorem refines_congestion :
    Refines 0 1 (deserializeCongestion : Read (CongestionState D))
      CollectiveScheduler.deserializeCongestion := by
  unfold deserializeCongestion CollectiveScheduler.deserializeCongestion
  exact refines_gen.seq fun _ => refines_f64.seq fun _ => refines_f64.seq fun _ =>
    refines_bool.seq fun _ => refines_bool.seq fun _ => refines_f64.seq fun _ =>
    refines_bool.seq fun _ => (refines_vec refines_ident).seq fun _ => refines_u8.seq fun _ =>
    Refines.pure _

theorem refines_reservation :
    Refines 0 1 (deserializeReservation : Read (Reservation D))
      CollectiveScheduler.deserializeReservation := by
  unfold deserializeReservation CollectiveScheduler.deserializeReservation
  exact refines_gen.seq fun _ => refines_u8.seq fun _ => refines_f64.seq fun _ =>
    (refines_vec refines_ident).seq fun _ => (refines_vec refines_ident).seq fun _ =>
    refines_u64.seq fun _ => refines_u64.seq fun _ => refines_u8.seq fun _ =>
    refines_bool.seq fun _ => Refines.pure _

theorem refines_capacity :
    Refines 0 1 (deserializeCapacity : Read (CapacityState D))
      CollectiveScheduler.deserializeCapacity := by
  unfold deserializeCapacity CollectiveScheduler.deserializeCapacity
  exact refines_gen.seq fun _ => refines_f64.seq fun _ => refines_f64.seq fun _ =>
    refines_f64.seq fun _ => refines_u8.seq fun _ => Refines.pure _

end Doubles

theorem refines_evidenceSnapshot :
    Refines 0 1 deserializeEvidenceSnapshot CollectiveScheduler.deserializeEvidenceSnapshot := by
  unfold deserializeEvidenceSnapshot CollectiveScheduler.deserializeEvidenceSnapshot
  exact refines_gen.seq fun _ => refines_gen.seq fun _ => refines_gen.seq fun _ =>
    refines_gen.seq fun _ => refines_gen.seq fun _ => refines_gen.seq fun _ =>
    refines_gen.seq fun _ => refines_gen.seq fun _ => refines_gen.seq fun _ =>
    refines_gen.seq fun _ => refines_gen.seq fun _ => refines_gen.seq fun _ =>
    refines_gen.seq fun _ => refines_gen.seq fun _ => refines_gen.seq fun _ => Refines.pure _

theorem refines_revalidation :
    Refines 0 1 deserializeRevalidation CollectiveScheduler.deserializeRevalidation := by
  unfold deserializeRevalidation CollectiveScheduler.deserializeRevalidation
  exact refines_bool.seq fun _ => refines_bool.seq fun _ => refines_bool.seq fun _ =>
    refines_bool.seq fun _ => refines_bool.seq fun _ => refines_bool.seq fun _ =>
    refines_bool.seq fun _ => refines_bool.seq fun _ => Refines.pure _

theorem refines_grant : Refines 0 1 deserializeGrant CollectiveScheduler.deserializeGrant := by
  unfold deserializeGrant CollectiveScheduler.deserializeGrant
  exact refines_ident.seq fun _ => refines_gen.seq fun _ => refines_ident.seq fun _ =>
    refines_gen.seq fun _ => refines_ident.seq fun _ => refines_gen.seq fun _ =>
    refines_ident.seq fun _ => refines_gen.seq fun _ => (refines_vec refines_ident).seq fun _ =>
    (refines_vec refines_gen).seq fun _ => refines_ident.seq fun _ => refines_gen.seq fun _ =>
    refines_evidenceSnapshot.seq fun _ => refines_revalidation.seq fun _ =>
    refines_ident.seq fun _ => refines_ident.seq fun _ => refines_gen.seq fun _ =>
    refines_gen.seq fun _ => refines_bool.seq fun _ => refines_bool.seq fun _ => Refines.pure _

theorem refines_participant :
    Refines 0 1 deserializeParticipant CollectiveScheduler.deserializeParticipant := by
  unfold deserializeParticipant CollectiveScheduler.deserializeParticipant
  exact refines_ident.seq fun _ => refines_gen.seq fun _ => refines_ident.seq fun _ =>
    refines_ident.seq fun _ => refines_ident.seq fun _ => refines_ident.seq fun _ =>
    refines_ident.seq fun _ => refines_ident.seq fun _ => refines_ident.seq fun _ =>
    refines_gen.seq fun _ => refines_gen.seq fun _ => refines_gen.seq fun _ =>
    refines_u32.seq fun _ => refines_bool.seq fun _ => refines_u8.seq fun _ =>
    refines_u8.seq fun _ => Refines.pure _

theorem refines_dependencyState :
    Refines 0 1 deserializeDependencyState CollectiveScheduler.deserializeDependencyState := by
  unfold deserializeDependencyState CollectiveScheduler.deserializeDependencyState
  exact refines_ident.seq fun _ => refines_u8.seq fun _ => refines_gen.seq fun _ =>
    refines_bool.seq fun _ => refines_u8.seq fun _ => Refines.pure _

/-! ## The nine functions -/

/-- The functions of src/serialize.cpp that read. -/
inductive Deserializer where
  | request | fairness | grant | participant | plan | congestion | reservation | dependency
  | capacity
  deriving DecidableEq, Repr

namespace Deserializer

variable {D : Type}

/-- What the function returns. -/
def Value (D : Type) : Deserializer → Type
  | request => CollectiveRequest D
  | fairness => FairnessAccount D
  | grant => CollectiveGrant
  | participant => Participant
  | plan => CommunicationPlan D
  | congestion => CongestionState D
  | reservation => Reservation D
  | dependency => DependencyState
  | capacity => CapacityState D

variable [Double D]

def decode : (k : Deserializer) → Read (k.Value D)
  | request => deserializeRequest
  | fairness => deserializeFairness
  | grant => deserializeGrant
  | participant => deserializeParticipant
  | plan => deserializePlan
  | congestion => deserializeCongestion
  | reservation => deserializeReservation
  | dependency => deserializeDependencyState
  | capacity => deserializeCapacity

/-- The same function on the bytes that are left. -/
def read : (k : Deserializer) → PersistenceReader.Read (k.Value D)
  | request => CollectiveScheduler.deserializeRequest
  | fairness => CollectiveScheduler.deserializeFairness
  | grant => CollectiveScheduler.deserializeGrant
  | participant => CollectiveScheduler.deserializeParticipant
  | plan => CollectiveScheduler.deserializePlan
  | congestion => CollectiveScheduler.deserializeCongestion
  | reservation => CollectiveScheduler.deserializeReservation
  | dependency => CollectiveScheduler.deserializeDependencyState
  | capacity => CollectiveScheduler.deserializeCapacity

theorem refines (k : Deserializer) : Refines 0 1 (k.decode : Read (k.Value D)) k.read := by
  cases k with
  | request => exact refines_request
  | fairness => exact refines_fairness
  | grant => exact refines_grant
  | participant => exact refines_participant
  | plan => exact refines_plan
  | congestion => exact refines_congestion
  | reservation => exact refines_reservation
  | dependency => exact refines_dependencyState
  | capacity => exact refines_capacity

end Deserializer

end Positional

open Positional

/-- On every byte string shorter than `2 ^ 63`, with the length as the limit, each of the
nine functions ends in a value or in a thrown error after at most four events for a byte
and one more (size checks, byte accesses, moves of the position, turns of a loop).  Every
byte access is below the length, and the position never exceeds it. -/
theorem hostile_bytes_contained {D : Type} [Double D] (k : Deserializer) (src : Source)
    (hlength : src.bytes.length < 2 ^ 63) (hmax : src.max = src.len)
    (run : Run SchedulerError (k.Value D)) (hrun : k.decode src 0 = run) :
    ((∃ a, run.outcome = .value a) ∨ ∃ e, run.outcome = .thrown e) ∧
      run.trace.length ≤ 4 * src.bytes.length + 1 ∧
      (∀ index, .access index ∈ run.trace → index.toNat < src.bytes.length) ∧
      (∀ pos, .move pos ∈ run.trace → pos.toNat ≤ src.bytes.length) ∧
      run.pos.toNat ≤ src.bytes.length := by
  subst hrun
  have hwrap : src.NoWrap := by
    unfold Source.NoWrap
    rw [hmax, src.toNat_len]
    omega
  obtain ⟨houtcome, hinside, hend, hcost⟩ := (k.refines (D := D)).contained hwrap
  exact ⟨houtcome, hcost, fun index hmem => hinside (.access index) hmem,
    fun pos hmem => hinside (.move pos) hmem, hend⟩

namespace Scenario

/-- A request that ends in the count of its participants, which is `2 ^ 64 - 1`. -/
def hostileRequest : Source where
  bytes := List.replicate 41 0 ++ List.replicate 8 255
  max := 49
  fits := by decide

end Scenario

/-- The first element of the loop finds no byte left. -/
theorem hostile_bytes_contained_count :
    Scenario.hostileRequest.bytes.length < 2 ^ 63 ∧
      Scenario.hostileRequest.max = Scenario.hostileRequest.len ∧
      (Deserializer.request.decode (D := ℚ) Scenario.hostileRequest 0).outcome =
        .thrown (throwMalformed "persistence truncation") ∧
      (Deserializer.request.decode (D := ℚ) Scenario.hostileRequest 0).trace.length ≤ 197 := by
  have hlength : Scenario.hostileRequest.bytes.length < 2 ^ 63 := by decide
  have hmax : Scenario.hostileRequest.max = Scenario.hostileRequest.len := by decide
  obtain ⟨-, hcost, -⟩ := hostile_bytes_contained (D := ℚ) .request Scenario.hostileRequest hlength
    hmax _ rfl
  have hthrown : (Positional.deserializeRequest (D := ℚ) Scenario.hostileRequest 0).outcome =
      .thrown (throwMalformed "persistence truncation") := by decide +kernel
  exact ⟨hlength, hmax, hthrown, hcost⟩

end CollectiveScheduler
