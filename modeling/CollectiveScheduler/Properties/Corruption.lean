/-
  Properties/Corruption.lean --- a changed byte is noticed.

  One step of `fnv1a64` is injective in the byte and in the sum so far, because its
  factor is odd.  So the sums of two byte strings that differ in one byte differ, and a
  snapshot or a frame with one changed byte is refused, by its checksum or before it is
  looked at.  A payload of 2^32 bytes or more does not fit the length field of a frame,
  and its frame can be taken for a shorter one.
-/
import CollectiveScheduler.Foundation.Corruption
import CollectiveScheduler.Persistence.Snapshot
import CollectiveScheduler.Protocol.Frame
import CollectiveScheduler.System.Scenario

set_option autoImplicit false

namespace CollectiveScheduler

open Foundation

/-! ## The checksum -/

/-- The factor of `fnv1a64` is odd, so it has an inverse modulo 2^64. -/
theorem fnv_mul_injective : Function.Injective fun h : UInt64 => h * 0x100000001b3 := by
  have hinverse : (0x100000001b3 : UInt64) * 0xce965057aff6957b = 1 := by decide
  intro x y hxy
  have hboth := congrArg (fun h : UInt64 => h * 0xce965057aff6957b) hxy
  simpa only [UInt64.mul_assoc, hinverse, UInt64.mul_one] using hboth

theorem fnv_step_injective (b : UInt8) :
    Function.Injective fun h : UInt64 => (h ^^^ b.toUInt64) * 0x100000001b3 :=
  fun _ _ hxy => (UInt64.xor_left_inj _).mp (fnv_mul_injective hxy)

theorem fnv_byte_injective (h : UInt64) :
    Function.Injective fun b : UInt8 => (h ^^^ b.toUInt64) * 0x100000001b3 :=
  fun _ _ hxy => UInt8.toUInt64_inj.mp ((UInt64.xor_right_inj _).mp (fnv_mul_injective hxy))

/-- The sums of byte strings that differ in one byte differ. -/
theorem fnv1a64_ne {i : Nat} {a b : List UInt8} (h : ChangedAt i a b) (seed : UInt64) :
    fnv1a64 a seed ≠ fnv1a64 b seed :=
  h.foldl_ne fnv_step_injective fnv_byte_injective _

/-! ## Snapshots -/

/-- A snapshot with one changed byte does not pass the checks. -/
theorem Persistence.checkEnvelope_changed {D : Type} [Double D] {s : Scheduler D}
    {recordOrder : List CollectiveRequestId} {i : Nat} {bytes : List UInt8}
    (h : ChangedAt i (save s recordOrder) bytes) : ∃ e, checkEnvelope bytes = .error e := by
  have hlen := h.length_eq
  rw [length_save, length_body] at hlen
  have hbody : bytes.length - 8 = (body s recordOrder).length := by
    rw [length_body]
    omega
  have hsum := ChangedAt.sum_ne (fnv1a64 · kCheckSeed) (fun hab => fnv1a64_ne hab _) h
  unfold checkEnvelope
  rw [if_neg (by omega)]
  cases readHeader bytes.length bytes with
  | error e => exact ⟨e, rfl⟩
  | ok r =>
      simp only [hbody]
      split_ifs with hmagic hversion hchecksum
      · exact ⟨_, rfl⟩
      · exact ⟨_, rfl⟩
      · exact ⟨_, rfl⟩
      · exact absurd (not_not.mp hchecksum) hsum

/-! ## Frames -/

namespace Protocol

theorem checkHeader_plen {p : List UInt8} {type : MsgType} {seq : UInt64} {plen : Nat}
    (h : checkHeader p = some (type, seq, plen)) :
    plen = (le32 (p.drop 16)).toNat := by
  unfold checkHeader at h
  split_ifs at h
  split at h
  · cases h
  · simp only at h
    split_ifs at h
    cases h
    rfl

/-- A frame with one changed byte outside its length is malformed. -/
theorem scanFrame_changed {type : MsgType} {seq : UInt64} {payload frame : List UInt8} {i : Nat}
    (hpayload : payload.length < 2 ^ 32) (h : ChangedAt i (encodeFrame type seq payload) frame)
    (hi : i < 16 ∨ 20 ≤ i) : scanFrame frame = .malformed := by
  have hlen := h.length_eq
  rw [length_encodeFrame] at hlen
  have hfield : le32 (frame.drop 16) = UInt32.ofNat payload.length := by
    rw [le32, h.window_eq hi, encodeFrame, List.append_assoc]
    exact le32_encodeHeader _ type seq payload
  refine scanFrame_eq_malformed.mpr ⟨by omega, ?_⟩
  cases hheader : checkHeader frame with
  | none => exact .inl rfl
  | some r =>
      -- the length is the one that was written, so the checksum stands where it was put
      have hplen : r.2.2 = payload.length := by
        rw [checkHeader_plen hheader, hfield]
        exact UInt32.toNat_ofNat_of_lt hpayload
      have hbody : (encodeHeader type seq payload ++ payload).length = headerSize + r.2.2 := by
        rw [List.length_append, length_encodeHeader, hplen]
      have hsum := ChangedAt.sum_ne (fnv1a64 · protoSeed) (fun hab => fnv1a64_ne hab _) h
      rw [hbody] at hsum
      have hstored : (frame.drop (headerSize + r.2.2)).take 8 =
          frame.drop (headerSize + r.2.2) := by
        refine List.take_of_length_le ?_
        rw [List.length_drop, hlen, hplen, checksumSize]
        omega
      refine .inr ⟨r.1, r.2.1, r.2.2, rfl, by omega, ?_⟩
      rw [le64, hstored]
      exact hsum

theorem decodeFrames_malformed {buffer : List UInt8} (h : scanFrame buffer = .malformed)
    (out : List Msg) : decodeFrames buffer out = (false, buffer, out) := by
  have hscan : framer.scan buffer = .malformed := h
  rw [decodeFrames_eq, if_pos (Framer.broken_malformed hscan), Framer.split_malformed hscan,
    List.append_nil]

end Protocol

/-- A changed byte is detected: `fnv1a64` differs, a snapshot makes `restore` throw and
change nothing, and a frame whose payload fits the length field makes `decode_frames` fail
without a message. -/
theorem single_byte_corruption_detected {D : Type} [Double D] :
    (∀ (seed : UInt64) (i : Nat) (a b : List UInt8), ChangedAt i a b →
      fnv1a64 a seed ≠ fnv1a64 b seed) ∧
    (∀ (s t : Scheduler D) (recordOrder : List CollectiveRequestId) (i : Nat)
      (bytes : List UInt8), ChangedAt i (Persistence.save s recordOrder) bytes →
      ∃ e, Persistence.restore t bytes = (t, .error e)) ∧
    ∀ (type : MsgType) (seq : UInt64) (payload : List UInt8), payload.length < 2 ^ 32 →
      ∀ (i : Nat) (frame : List UInt8),
        ChangedAt i (Protocol.encodeFrame type seq payload) frame → (i < 16 ∨ 20 ≤ i) →
        ∀ out, Protocol.decodeFrames frame out = (false, frame, out) := by
  refine ⟨fun seed i a b h => fnv1a64_ne h seed, ?_, ?_⟩
  · intro s t recordOrder i bytes h
    obtain ⟨e, he⟩ := Persistence.checkEnvelope_changed h
    exact ⟨e, by rw [Persistence.restore, he]⟩
  · intro type seq payload hpayload i frame h hi out
    exact Protocol.decodeFrames_malformed (Protocol.scanFrame_changed hpayload h hi) out

namespace Scenario

/-- The snapshot of a scheduler with a granted request, with a byte of the state changed. -/
def corruptedSnapshot : List UInt8 :=
  (Persistence.save (start.run granted).sched []).set 40 0xff

/-- A HELLO with a byte of the payload changed. -/
def corruptedHello : List UInt8 := (Protocol.encodeFrame .hello 7 [9, 8, 7]).set 21 0

end Scenario

/-- Changes that no check notices but the one of the checksum. -/
theorem single_byte_corruption_detected_by_checksum :
    fnv1a64 [1, 2] 0 ≠ fnv1a64 [1, 3] 0 ∧
    Persistence.checkEnvelope Scenario.corruptedSnapshot =
      .error (throwMalformed "persistence checksum mismatch") ∧
    (∃ e, Persistence.restore (Scenario.start (D := ℚ)).sched Scenario.corruptedSnapshot =
      (Scenario.start.sched, .error e)) ∧
    Protocol.decodeFrames Scenario.corruptedHello [] = (false, Scenario.corruptedHello, []) := by
  have hall := single_byte_corruption_detected (D := ℚ)
  refine ⟨hall.1 0 1 [1, 2] [1, 3] ⟨[1], 2, 3, [], rfl, rfl, rfl, by decide⟩, by decide +kernel,
    hall.2.1 (Scenario.start.run Scenario.granted).sched _ [] 40 _ (ChangedAt.set ?_),
    hall.2.2 .hello 7 [9, 8, 7] (by decide) 21 _ (ChangedAt.set ?_) (.inr (by decide)) []⟩
  · decide +kernel
  · decide +kernel

/-! ## A payload that does not fit the length field -/

namespace Protocol

/-- A payload that holds the checksum of the header it gets and, behind it, zeros. -/
def hugePayload (zeros : Nat) : List UInt8 :=
  putLe64 (fnv1a64 (encodeHeader .hello 0 []) protoSeed) ++ List.replicate zeros 0

/-- The length of 2^32 is written as zero, so the frame starts with a frame without
payload. -/
theorem encodeFrame_hugePayload {zeros : Nat} (h : 8 + zeros = 2 ^ 32) :
    ∃ sum, encodeFrame .hello 0 (hugePayload zeros) =
      encodeFrame .hello 0 [] ++ (List.replicate zeros 0 ++ putLe64 sum) := by
  have hlen : (hugePayload zeros).length = 2 ^ 32 := by
    simp only [hugePayload, putLe64, List.length_append, length_littleEndian,
      List.length_replicate, h]
  have hheader : encodeHeader .hello 0 (hugePayload zeros) = encodeHeader .hello 0 [] := by
    rw [encodeHeader, hlen]
    rfl
  refine ⟨fnv1a64 (encodeHeader .hello 0 [] ++ hugePayload zeros) protoSeed, ?_⟩
  rw [encodeFrame, hheader]
  generalize fnv1a64 (encodeHeader .hello 0 [] ++ hugePayload zeros) protoSeed = sum
  simp only [encodeFrame, hugePayload, List.append_assoc, List.append_nil]

/-- A change behind the frame without payload does not keep it from being taken. -/
theorem decodeFrames_hello_zeros (late : List UInt8) :
    (decodeFrames (encodeFrame .hello 0 [] ++ (List.replicate 20 0 ++ late)) []).2.2 =
      [{ type := .hello, seq := 0 }] := by
  have hscan : framer.scan (encodeFrame .hello 0 [] ++ (List.replicate 20 0 ++ late)) =
      .frame { type := .hello, seq := 0 } (List.replicate 20 0 ++ late) := by
    rw [framer_scan]
    exact scanFrame_encodeFrame _ .hello 0 (Nat.zero_le _)
  have hzeros : framer.scan (List.replicate 20 0 ++ late) = .malformed :=
    framer.malformed_append late rfl
  rw [decodeFrames_messages, Framer.split_frame hscan, Framer.split_malformed hzeros]
  rfl

end Protocol

/-- The frame of a payload of 2^32 bytes with one of its bytes changed still gives a
message. -/
theorem corruption_of_huge_frame_undetected :
    ∃ (payload frame : List UInt8) (i : Nat),
      ChangedAt i (Protocol.encodeFrame .hello 0 payload) frame ∧ 20 ≤ i ∧
        (Protocol.decodeFrames frame []).2.2 = [{ type := .hello, seq := 0 }] := by
  obtain ⟨more, hmore⟩ : ∃ more, 8 + (20 + (1 + more)) = 2 ^ 32 := ⟨2 ^ 32 - 29, by decide⟩
  obtain ⟨sum, hframe⟩ := Protocol.encodeFrame_hugePayload hmore
  have hzeros : List.replicate (20 + (1 + more)) (0 : UInt8) =
      List.replicate 20 0 ++ 0 :: List.replicate more 0 := by
    rw [List.replicate_add, List.replicate_add]
    rfl
  rw [hzeros, List.append_assoc, List.cons_append] at hframe
  -- the byte behind the first twenty zeros becomes a one
  refine ⟨Protocol.hugePayload (20 + (1 + more)),
    Protocol.encodeFrame .hello 0 [] ++ (List.replicate 20 0 ++
      1 :: (List.replicate more 0 ++ Protocol.putLe64 sum)), 48,
    ⟨Protocol.encodeFrame .hello 0 [] ++ List.replicate 20 0, 0, 1,
      List.replicate more 0 ++ Protocol.putLe64 sum, rfl, ?_, ?_, by decide⟩,
    by decide, Protocol.decodeFrames_hello_zeros _⟩
  · rw [hframe, List.append_assoc]
  · rw [List.append_assoc]

end CollectiveScheduler
