/-
  Properties/FrameExact.lean --- `decode_frames` takes exactly what `encode_frame` writes.

  A frame that is taken off a buffer is the encoding of the message it gives, byte for
  byte, because the header and the checksum are read back from the bytes that would be
  written.  What is left behind the frames is too short, waits for the rest of a frame, or
  is the beginning of no frame at all, and only the last makes `decode_frames` fail.
-/
import CollectiveScheduler.Properties.FrameStream

set_option autoImplicit false

namespace CollectiveScheduler

open Foundation

namespace Protocol

variable {p rest : List UInt8} {m : Msg}

/-! ## A header and its bytes -/

theorem MsgType.toCode_of_ofCode? {code : UInt16} {type : MsgType}
    (h : MsgType.ofCode? code = some type) : type.toCode = code := by
  have hcode := List.find?_some h
  exact of_decide_eq_true hcode

/-- What the checks on a header say of its bytes. -/
theorem checkHeader_eq_some {type : MsgType} {seq : UInt64} {plen : Nat}
    (h : checkHeader p = some (type, seq, plen)) :
    le32 p = magic ∧ le16 (p.drop 4) = version ∧ le16 (p.drop 6) = type.toCode ∧
      le64 (p.drop 8) = seq ∧ (le32 (p.drop 16)).toNat = plen ∧ plen ≤ maxPayload := by
  unfold checkHeader at h
  split_ifs at h with hmagic hversion
  split at h
  · cases h
  · rename_i type' htype
    simp only at h
    split_ifs at h with hlen
    cases h
    exact ⟨not_not.mp hmagic, not_not.mp hversion, (MsgType.toCode_of_ofCode? htype).symm, rfl,
      rfl, not_lt.mp hlen⟩

/-- The first bytes of a buffer and the number they hold. -/
theorem littleEndian_take {width : Nat} (h : width ≤ p.length) :
    ofLittleEndian (p.take width) < 256 ^ width ∧
      littleEndian width (ofLittleEndian (p.take width)) = p.take width := by
  have hlen : (p.take width).length = width := List.length_take_of_le h
  have hlt := ofLittleEndian_lt (p.take width)
  have hbytes := littleEndian_ofLittleEndian (p.take width)
  rw [hlen] at hlt hbytes
  exact ⟨hlt, hbytes⟩

theorem putLe16_le16 (h : 2 ≤ p.length) : putLe16 (le16 p) = p.take 2 := by
  obtain ⟨hlt, hbytes⟩ := littleEndian_take h
  have hvalue : (le16 p).toNat = ofLittleEndian (p.take 2) := UInt16.toNat_ofNat_of_lt hlt
  rw [putLe16, hvalue, hbytes]

theorem putLe32_le32 (h : 4 ≤ p.length) : putLe32 (le32 p) = p.take 4 := by
  obtain ⟨hlt, hbytes⟩ := littleEndian_take h
  have hvalue : (le32 p).toNat = ofLittleEndian (p.take 4) := UInt32.toNat_ofNat_of_lt hlt
  rw [putLe32, hvalue, hbytes]

theorem putLe64_le64 (h : 8 ≤ p.length) : putLe64 (le64 p) = p.take 8 := by
  obtain ⟨hlt, hbytes⟩ := littleEndian_take h
  have hvalue : (le64 p).toNat = ofLittleEndian (p.take 8) := UInt64.toNat_ofNat_of_lt hlt
  rw [putLe64, hvalue, hbytes]

/-- A header that passes the checks is the one that would be written. -/
theorem encodeHeader_of_checkHeader {type : MsgType} {seq : UInt64} {payload : List UInt8}
    (hlen : headerSize ≤ p.length) (h : checkHeader p = some (type, seq, payload.length)) :
    encodeHeader type seq payload = p.take headerSize := by
  have hlen' : 20 ≤ p.length := hlen
  obtain ⟨hmagic, hversion, htype, hseq, hplen, -⟩ := checkHeader_eq_some h
  have hsize : UInt32.ofNat payload.length = le32 (p.drop 16) := by
    rw [← hplen, UInt32.ofNat_toNat]
  have hfields : p.take headerSize = p.take 4 ++ ((p.drop 4).take 2 ++ ((p.drop 6).take 2 ++
      ((p.drop 8).take 8 ++ (p.drop 16).take 4))) := by
    rw [show headerSize = 4 + (2 + (2 + (8 + 4))) from rfl, List.take_add, List.take_add,
      List.take_add, List.take_add, List.drop_drop, List.drop_drop, List.drop_drop]
  rw [hfields, ← putLe32_le32 (p := p) (by omega),
    ← putLe16_le16 (p := p.drop 4) (by rw [List.length_drop]; omega),
    ← putLe16_le16 (p := p.drop 6) (by rw [List.length_drop]; omega),
    ← putLe64_le64 (p := p.drop 8) (by rw [List.length_drop]; omega),
    ← putLe32_le32 (p := p.drop 16) (by rw [List.length_drop]; omega),
    hmagic, hversion, htype, hseq, ← hsize]
  simp only [encodeHeader, List.flatten_cons, List.flatten_nil, List.append_nil]

/-- A frame that is taken off a buffer is the encoding of its message. -/
theorem scanFrame_eq_encode (h : scanFrame p = .frame m rest) :
    p = Msg.encode m ++ rest ∧ m.payload.length ≤ maxPayload := by
  obtain ⟨plen, hheader, hlen, hsum, hpayload, rfl⟩ := scanFrame_eq_frame.mp h
  have hplen : m.payload.length = plen := by
    rw [hpayload, List.length_take_of_le]
    rw [List.length_drop]
    simp only [checksumSize] at hlen
    omega
  have hbound := (checkHeader_eq_some hheader).2.2.2.2.2
  refine ⟨?_, hplen ▸ hbound⟩
  have hcovered : encodeHeader m.type m.seq m.payload ++ m.payload =
      p.take (headerSize + plen) := by
    rw [encodeHeader_of_checkHeader (p := p) (by omega) (by rw [hplen]; exact hheader),
      hpayload, ← List.take_add]
  have hchecksum : putLe64 (fnv1a64 (p.take (headerSize + plen)) protoSeed) =
      (p.drop (headerSize + plen)).take checksumSize := by
    rw [← hsum]
    exact putLe64_le64 (by rw [List.length_drop]; simp only [checksumSize] at hlen; omega)
  have hframe : Msg.encode m = p.take (headerSize + plen + checksumSize) := by
    simp only [Msg.encode, encodeFrame]
    rw [hcovered, hchecksum, ← List.take_add]
  rw [hframe, List.take_append_drop]

/-! ## What is left -/

/-- The bytes start with a well-formed header, and the frame it announces is longer. -/
structure Unfinished (p : List UInt8) : Prop where
  header : headerSize ≤ p.length
  magic : le32 p = magic
  version : le16 (p.drop 4) = version
  type : ∃ type : MsgType, le16 (p.drop 6) = type.toCode
  bounded : (le32 (p.drop 16)).toNat ≤ maxPayload
  short : p.length < headerSize + (le32 (p.drop 16)).toNat + checksumSize

/-- The bytes are not the beginning of a frame, and do not start with one. -/
structure Foreign (p : List UInt8) : Prop where
  header : headerSize ≤ p.length
  not_begins : ∀ type seq payload, payload.length ≤ maxPayload →
    ¬encodeFrame type seq payload <+: p
  not_prefix : ∀ type seq payload, payload.length ≤ maxPayload →
    ¬p <+: encodeFrame type seq payload

theorem unfinished_of_incomplete (h : scanFrame p = .incomplete) :
    p.length < headerSize ∨ Unfinished p := by
  unfold scanFrame at h
  split_ifs at h with hshort
  · exact .inl hshort
  · split at h
    · cases h
    · rename_i type seq plen hheader
      simp only at h
      split_ifs at h with hframe
      obtain ⟨hmagic, hversion, htype, -, rfl, hbound⟩ := checkHeader_eq_some hheader
      exact .inr ⟨not_lt.mp hshort, hmagic, hversion, ⟨type, htype⟩, hbound, hframe⟩

theorem foreign_of_malformed (h : scanFrame p = .malformed) : Foreign p := by
  have hneither : ∀ type seq payload, payload.length ≤ maxPayload →
      ¬encodeFrame type seq payload <+: p ∧ ¬p <+: encodeFrame type seq payload := by
    intro type seq payload hpayload
    have hscan := scanFrame_encodeFrame [] type seq hpayload
    rw [List.append_nil] at hscan
    exact Framer.not_prefix_of_malformed (F := framer) h hscan
  exact ⟨(scanFrame_eq_malformed.mp h).1,
    fun type seq payload hp => (hneither type seq payload hp).1,
    fun type seq payload hp => (hneither type seq payload hp).2⟩

end Protocol

/-- `decode_frames` appends some messages, and the buffer is their encodings and a rest.
Where it returns true, the rest is left in the buffer and is shorter than a header or
starts with the header of an unfinished frame.  Where it returns false, the buffer is as
it was, and the rest neither starts with a frame nor is the beginning of one. -/
theorem decode_frames_exact (b : List UInt8) (out : List Msg) :
    ∃ msgs rest, (Protocol.decodeFrames b out).2.2 = out ++ msgs ∧
      b = (msgs.map fun m => Protocol.encodeFrame m.type m.seq m.payload).flatten ++ rest ∧
      (∀ m ∈ msgs, m.payload.length ≤ Protocol.maxPayload) ∧
      ((Protocol.decodeFrames b out).1 = true → (Protocol.decodeFrames b out).2.1 = rest ∧
        (rest.length < Protocol.headerSize ∨ Protocol.Unfinished rest)) ∧
      ((Protocol.decodeFrames b out).1 = false → (Protocol.decodeFrames b out).2.1 = b ∧
        Protocol.Foreign rest) := by
  have hflatten := Framer.flatten_split (F := Protocol.framer) Protocol.Msg.encode
    (fun b m r h => (Protocol.scanFrame_eq_encode h).1) b
  refine ⟨(Protocol.framer.split b).1, (Protocol.framer.split b).2,
    Protocol.decodeFrames_messages b out, hflatten, ?_, ?_, ?_⟩
  · exact Framer.forall_split (F := Protocol.framer)
      (fun b m r h => (Protocol.scanFrame_eq_encode h).2) b
  · intro htrue
    have hbroken := (Protocol.decodeFrames_succeeds_iff b out).mp htrue
    refine ⟨by rw [Protocol.decodeFrames_eq, if_neg hbroken], ?_⟩
    exact Protocol.unfinished_of_incomplete (Framer.scan_rest_of_not_broken hbroken)
  · intro hfalse
    have hbroken : Protocol.framer.Broken b := by
      by_contra hnot
      rw [(Protocol.decodeFrames_succeeds_iff b out).mpr hnot] at hfalse
      cases hfalse
    refine ⟨by rw [Protocol.decodeFrames_eq, if_pos hbroken], ?_⟩
    exact Protocol.foreign_of_malformed hbroken

end CollectiveScheduler
