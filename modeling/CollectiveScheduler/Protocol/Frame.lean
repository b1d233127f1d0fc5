/-
  Protocol/Frame.lean --- the framing of the wire protocol.

  Source: `encode_frame`, `decode_frames` and `is_known_message_type` of
  src/protocol.cpp.

  A buffer is the list of its bytes, and the offset of the decoding loop is what is left
  of it.  The laws of a framer are proved of one turn of the loop, so that what is known
  of framers holds of the decoder.
-/
import CollectiveScheduler.Foundation.Framing
import CollectiveScheduler.Protocol.Payload

set_option autoImplicit false

namespace CollectiveScheduler

open Foundation

/-! ## Message types -/

namespace MsgType

/-- The enumerator as a number. -/
def toCode : MsgType → UInt16
  | hello => 0
  | register => 1
  | publishParticipant => 2
  | publishReadiness => 3
  | submitCollective => 4
  | updateDependency => 5
  | updatePriority => 6
  | updatePlan => 7
  | updateReservation => 8
  | updateCongestion => 9
  | updateCapacity => 10
  | querySchedule => 11
  | grant => 12
  | executionAccepted => 13
  | start => 14
  | progress => 15
  | complete => 16
  | fail => 17
  | cancel => 18
  | supersede => 19
  | fenceWorker => 20
  | revalidate => 21
  | save => 22
  | shutdown => 23
  | error => 24

/-- `is_known_message_type` and the cast to the enumeration. -/
def ofCode? (code : UInt16) : Option MsgType :=
  [hello, register, publishParticipant, publishReadiness, submitCollective, updateDependency,
    updatePriority, updatePlan, updateReservation, updateCongestion, updateCapacity,
    querySchedule, grant, executionAccepted, start, progress, complete, fail, cancel, supersede,
    fenceWorker, revalidate, save, shutdown, error].find? fun type => type.toCode = code

theorem ofCode?_toCode (type : MsgType) : ofCode? type.toCode = some type := by
  cases type <;> rfl

end MsgType

/-! ## Frames -/

namespace Protocol

/-- magic, version, type, sequence number and payload length -/
def headerSize : Nat := 20

def checksumSize : Nat := 8

def protoSeed : UInt64 := 0x9d6b3f5a7c1e2843

/-- `CS_PROTOCOL_MAGIC`: "CSPR". -/
def magic : UInt32 := 0x43535052

/-- `CS_PROTOCOL_VERSION`. -/
def version : UInt16 := 1

/-- `CS_MAX_PROTOCOL_PAYLOAD`: 16 MiB. -/
def maxPayload : Nat := 16 * 1024 * 1024

def putLe16 (v : UInt16) : List UInt8 := littleEndian 2 v.toNat

def putLe32 (v : UInt32) : List UInt8 := littleEndian 4 v.toNat

def putLe64 (v : UInt64) : List UInt8 := littleEndian 8 v.toNat

def le16 (p : List UInt8) : UInt16 := UInt16.ofNat (ofLittleEndian (p.take 2))

def le32 (p : List UInt8) : UInt32 := UInt32.ofNat (ofLittleEndian (p.take 4))

def le64 (p : List UInt8) : UInt64 := UInt64.ofNat (ofLittleEndian (p.take 8))

/-- The header of a frame; the length is cut to 32 bits. -/
def encodeHeader (type : MsgType) (seq : UInt64) (payload : List UInt8) : List UInt8 :=
  [putLe32 magic, putLe16 version, putLe16 type.toCode, putLe64 seq,
    putLe32 (UInt32.ofNat payload.length)].flatten

/-- `encode_frame`. -/
def encodeFrame (type : MsgType) (seq : UInt64) (payload : List UInt8) : List UInt8 :=
  let buf := encodeHeader type seq payload ++ payload
  buf ++ putLe64 (fnv1a64 buf protoSeed)

/-- The checks of `decode_frames` on a header: its type, sequence number and payload
length. -/
def checkHeader (p : List UInt8) : Option (MsgType × UInt64 × Nat) :=
  if le32 p ≠ magic then none
  else if le16 (p.drop 4) ≠ version then none
  else
    match MsgType.ofCode? (le16 (p.drop 6)) with
    | none => none
    | some type =>
        let seq := le64 (p.drop 8)
        let plen := (le32 (p.drop 16)).toNat
        if plen > maxPayload then none else some (type, seq, plen)

/-- One turn of the loop of `decode_frames`. -/
def scanFrame (p : List UInt8) : Scan UInt8 Msg :=
  if p.length < headerSize then .incomplete
  else
    match checkHeader p with
    | none => .malformed
    | some (type, seq, plen) =>
        let frameLen := headerSize + plen + checksumSize
        if p.length < frameLen then .incomplete
        else
          let stored := le64 (p.drop (headerSize + plen))
          let computed := fnv1a64 (p.take (headerSize + plen)) protoSeed
          if stored ≠ computed then .malformed
          else
            .frame { type := type, seq := seq, payload := (p.drop headerSize).take plen }
              (p.drop frameLen)

/-- The loop of `decode_frames`; a frame takes at least a byte, so it makes fewer turns
than there are bytes. -/
def decodeLoop : Nat → List UInt8 → List Msg → Bool × List UInt8 × List Msg
  | 0, rest, out => (true, rest, out)
  | turns + 1, rest, out =>
      match scanFrame rest with
      | .incomplete => (true, rest, out)
      | .malformed => (false, rest, out)
      | .frame m rest' => decodeLoop turns rest' (out ++ [m])

/-- `decode_frames`: the result, the buffer and the messages.  The buffer keeps its bytes
where the result is false, and the messages in front of the malformed frame stay. -/
def decodeFrames (buffer : List UInt8) (out : List Msg) : Bool × List UInt8 × List Msg :=
  match decodeLoop buffer.length buffer out with
  | (true, rest, out) => (true, rest, out)
  | (false, _, out) => (false, buffer, out)

/-! ## The laws of a framer -/

section Laws

variable {p t : List UInt8}

theorem le16_append (h : 2 ≤ p.length) : le16 (p ++ t) = le16 p := by
  rw [le16, List.take_append_of_le_length h]
  rfl

theorem le32_append (h : 4 ≤ p.length) : le32 (p ++ t) = le32 p := by
  rw [le32, List.take_append_of_le_length h]
  rfl

theorem le64_append (h : 8 ≤ p.length) : le64 (p ++ t) = le64 p := by
  rw [le64, List.take_append_of_le_length h]
  rfl

/-- The header is read from its own bytes. -/
theorem checkHeader_append (h : headerSize ≤ p.length) : checkHeader (p ++ t) = checkHeader p := by
  have hlen : 20 ≤ p.length := h
  unfold checkHeader
  rw [List.drop_append_of_le_length (by omega), List.drop_append_of_le_length (by omega),
    List.drop_append_of_le_length (by omega), List.drop_append_of_le_length (by omega),
    le32_append (by omega), le16_append (by rw [List.length_drop]; omega),
    le16_append (by rw [List.length_drop]; omega), le64_append (by rw [List.length_drop]; omega),
    le32_append (by rw [List.length_drop]; omega)]

/-- A buffer from which a frame is taken. -/
theorem scanFrame_eq_frame {m : Msg} {rest : List UInt8} :
    scanFrame p = .frame m rest ↔ ∃ plen, checkHeader p = some (m.type, m.seq, plen) ∧
      headerSize + plen + checksumSize ≤ p.length ∧
      le64 (p.drop (headerSize + plen)) = fnv1a64 (p.take (headerSize + plen)) protoSeed ∧
      m.payload = (p.drop headerSize).take plen ∧
      rest = p.drop (headerSize + plen + checksumSize) := by
  unfold scanFrame
  constructor
  · intro h
    split_ifs at h with hshort
    split at h
    · cases h
    · rename_i type seq plen hheader
      simp only at h
      split_ifs at h with hframe hsum
      cases h
      exact ⟨plen, hheader, not_lt.mp hframe, not_not.mp hsum, rfl, rfl⟩
  · rintro ⟨plen, hheader, hlen, hsum, hpayload, rfl⟩
    have hshort : ¬p.length < headerSize := by omega
    simp only [if_neg hshort, hheader, if_neg (not_lt.mpr hlen), ne_eq, hsum, not_true_eq_false,
      if_false, ← hpayload]

theorem scanFrame_eq_malformed :
    scanFrame p = .malformed ↔ headerSize ≤ p.length ∧ (checkHeader p = none ∨
      ∃ type seq plen, checkHeader p = some (type, seq, plen) ∧
        headerSize + plen + checksumSize ≤ p.length ∧
        le64 (p.drop (headerSize + plen)) ≠ fnv1a64 (p.take (headerSize + plen)) protoSeed) := by
  unfold scanFrame
  constructor
  · intro h
    split_ifs at h with hshort
    refine ⟨not_lt.mp hshort, ?_⟩
    split at h
    · rename_i hheader
      exact .inl hheader
    · rename_i type seq plen hheader
      simp only at h
      split_ifs at h with hframe hsum
      exact .inr ⟨type, seq, plen, hheader, not_lt.mp hframe, hsum⟩
  · rintro ⟨hlen, hnone | ⟨type, seq, plen, hheader, hframe, hsum⟩⟩
    · simp only [if_neg (not_lt.mpr hlen), hnone]
    · simp only [if_neg (not_lt.mpr hlen), hheader, if_neg (not_lt.mpr hframe), if_pos hsum]

/-- What a turn reads of a buffer that holds the whole frame does not depend on what
follows the frame. -/
theorem fields_append {plen : Nat} (h : headerSize + plen + checksumSize ≤ p.length) :
    checkHeader (p ++ t) = checkHeader p ∧
      le64 ((p ++ t).drop (headerSize + plen)) = le64 (p.drop (headerSize + plen)) ∧
      (p ++ t).take (headerSize + plen) = p.take (headerSize + plen) ∧
      ((p ++ t).drop headerSize).take plen = (p.drop headerSize).take plen ∧
      (p ++ t).drop (headerSize + plen + checksumSize) =
        p.drop (headerSize + plen + checksumSize) ++ t := by
  have hsum : headerSize + plen ≤ p.length := by omega
  refine ⟨checkHeader_append (by omega), ?_, List.take_append_of_le_length hsum, ?_,
    List.drop_append_of_le_length h⟩
  · rw [List.drop_append_of_le_length hsum,
      le64_append (by rw [List.length_drop]; simp only [checksumSize] at h; omega)]
  · rw [List.drop_append_of_le_length (by omega),
      List.take_append_of_le_length (by rw [List.length_drop]; omega)]

theorem scanFrame_append {m : Msg} {rest : List UInt8} (t : List UInt8)
    (h : scanFrame p = .frame m rest) : scanFrame (p ++ t) = .frame m (rest ++ t) := by
  obtain ⟨plen, hheader, hlen, hsum, hpayload, rfl⟩ := scanFrame_eq_frame.mp h
  obtain ⟨hheader', hstored, hcovered, hpayload', hrest⟩ := fields_append (t := t) hlen
  refine scanFrame_eq_frame.mpr ⟨plen, hheader'.trans hheader, ?_, ?_, ?_, hrest.symm⟩
  · rw [List.length_append]
    omega
  · rw [hstored, hcovered, hsum]
  · rw [hpayload', hpayload]

theorem scanFrame_malformed_append (t : List UInt8) (h : scanFrame p = .malformed) :
    scanFrame (p ++ t) = .malformed := by
  obtain ⟨hlen, hcase⟩ := scanFrame_eq_malformed.mp h
  refine scanFrame_eq_malformed.mpr ⟨by rw [List.length_append]; omega, ?_⟩
  rw [checkHeader_append hlen]
  rcases hcase with hnone | ⟨type, seq, plen, hheader, hframe, hsum⟩
  · exact .inl hnone
  · obtain ⟨-, hstored, hcovered, -⟩ := fields_append (t := t) hframe
    refine .inr ⟨type, seq, plen, hheader, by rw [List.length_append]; omega, ?_⟩
    rw [hstored, hcovered]
    exact hsum

/-- A frame is taken from its own bytes. -/
theorem scanFrame_local {m : Msg} {rest : List UInt8} (h : scanFrame p = .frame m rest) :
    ∃ front, front ≠ [] ∧ p = front ++ rest ∧ scanFrame front = .frame m [] := by
  obtain ⟨plen, hheader, hlen, hsum, hpayload, rfl⟩ := scanFrame_eq_frame.mp h
  have hcut := List.take_append_drop (headerSize + plen + checksumSize) p
  have hfront : (p.take (headerSize + plen + checksumSize)).length =
      headerSize + plen + checksumSize := by
    rw [List.length_take]
    omega
  refine ⟨p.take (headerSize + plen + checksumSize), ?_, hcut.symm, ?_⟩
  · intro hnil
    rw [hnil] at hfront
    cases hfront
  · generalize p.take (headerSize + plen + checksumSize) = front at hcut hfront
    obtain ⟨hheader', hstored, hcovered, hpayload', -⟩ := fields_append
      (t := p.drop (headerSize + plen + checksumSize)) (Nat.le_of_eq hfront.symm)
    rw [hcut] at hheader' hstored hcovered hpayload'
    refine scanFrame_eq_frame.mpr ⟨plen, hheader'.symm.trans hheader, Nat.le_of_eq hfront.symm,
      ?_, hpayload.trans hpayload', ?_⟩
    · rw [← hstored, ← hcovered, hsum]
    · rw [List.drop_of_length_le (Nat.le_of_eq hfront)]

end Laws

/-- The frames of the protocol. -/
def framer : Framer UInt8 Msg where
  scan := scanFrame
  scan_nil := rfl
  frame_local := scanFrame_local
  frame_append := scanFrame_append
  malformed_append := scanFrame_malformed_append

@[simp] theorem framer_scan (p : List UInt8) : framer.scan p = scanFrame p := rfl

/-! ## The decoder -/

theorem decodeLoop_eq {turns : Nat} {rest : List UInt8} (h : rest.length ≤ turns)
    (out : List Msg) :
    decodeLoop turns rest out =
      (!decide (framer.Broken rest), (framer.split rest).2, out ++ (framer.split rest).1) := by
  induction turns generalizing rest out with
  | zero =>
      obtain rfl := List.length_eq_zero_iff.mp (Nat.le_zero.mp h)
      simp [decodeLoop, Framer.not_broken_incomplete framer.scan_nil]
  | succ turns ih =>
      unfold decodeLoop
      cases hscan : scanFrame rest with
      | incomplete =>
          have hscan' : framer.scan rest = .incomplete := hscan
          simp [Framer.split_incomplete hscan', Framer.not_broken_incomplete hscan']
      | malformed =>
          have hscan' : framer.scan rest = .malformed := hscan
          simp [Framer.split_malformed hscan', Framer.broken_malformed hscan']
      | frame m rest' =>
          have hscan' : framer.scan rest = .frame m rest' := hscan
          have hshorter : rest'.length ≤ turns := by
            have hlt := Framer.length_lt_of_frame hscan'
            omega
          simp only [ih hshorter, Framer.split_frame hscan',
            Framer.broken_frame hscan', List.append_assoc, List.singleton_append]

/-- `decode_frames` takes the frames off the front of the buffer and appends their
messages; it fails where a malformed front is left. -/
theorem decodeFrames_eq (buffer : List UInt8) (out : List Msg) :
    decodeFrames buffer out =
      if framer.Broken buffer then (false, buffer, out ++ (framer.split buffer).1)
      else (true, (framer.split buffer).2, out ++ (framer.split buffer).1) := by
  unfold decodeFrames
  rw [decodeLoop_eq (Nat.le_refl _)]
  by_cases hbroken : framer.Broken buffer
  · simp [hbroken]
  · simp [hbroken]

theorem decodeFrames_succeeds_iff (buffer : List UInt8) (out : List Msg) :
    (decodeFrames buffer out).1 = true ↔ ¬framer.Broken buffer := by
  rw [decodeFrames_eq]
  split_ifs with hbroken <;> simp [hbroken]

theorem decodeFrames_messages (buffer : List UInt8) (out : List Msg) :
    (decodeFrames buffer out).2.2 = out ++ (framer.split buffer).1 := by
  rw [decodeFrames_eq]
  split_ifs <;> rfl

/-! ## The encoder -/

section Encode

variable (t : List UInt8)

theorem le16_putLe16 (v : UInt16) : le16 (putLe16 v ++ t) = v := by
  rw [le16, List.take_left' (by simp [putLe16]), putLe16, ofLittleEndian_littleEndian v.toNat_lt,
    UInt16.ofNat_toNat]

theorem le32_putLe32 (v : UInt32) : le32 (putLe32 v ++ t) = v := by
  rw [le32, List.take_left' (by simp [putLe32]), putLe32, ofLittleEndian_littleEndian v.toNat_lt,
    UInt32.ofNat_toNat]

theorem le64_putLe64 (v : UInt64) : le64 (putLe64 v ++ t) = v := by
  rw [le64, List.take_left' (by simp [putLe64]), putLe64, ofLittleEndian_littleEndian v.toNat_lt,
    UInt64.ofNat_toNat]

@[simp] theorem length_encodeHeader (type : MsgType) (seq : UInt64) (payload : List UInt8) :
    (encodeHeader type seq payload).length = headerSize := by
  simp [encodeHeader, putLe16, putLe32, putLe64, headerSize]

/-- The length of a header that was written is read back. -/
theorem le32_encodeHeader (type : MsgType) (seq : UInt64) (payload : List UInt8) :
    le32 ((encodeHeader type seq payload ++ t).drop 16) = UInt32.ofNat payload.length := by
  simp only [encodeHeader, List.flatten_cons, List.append_assoc]
  rw [← List.append_assoc (putLe16 type.toCode), ← List.append_assoc (putLe16 version),
    ← List.append_assoc (putLe32 magic),
    List.drop_left' (by simp [putLe32, putLe16, putLe64])]
  exact le32_putLe32 _ _

/-- The fields of a header that was written are read back. -/
theorem checkHeader_encodeHeader (type : MsgType) (seq : UInt64) (payload : List UInt8) :
    checkHeader (encodeHeader type seq payload ++ t) =
      if (UInt32.ofNat payload.length).toNat > maxPayload then none
      else some (type, seq, (UInt32.ofNat payload.length).toNat) := by
  have hmagic : le32 (encodeHeader type seq payload ++ t) = magic := by
    simp only [encodeHeader, List.flatten_cons, List.append_assoc]
    exact le32_putLe32 _ _
  have hversion : le16 ((encodeHeader type seq payload ++ t).drop 4) = version := by
    simp only [encodeHeader, List.flatten_cons, List.append_assoc]
    rw [List.drop_left' (by simp [putLe32])]
    exact le16_putLe16 _ _
  have htype : le16 ((encodeHeader type seq payload ++ t).drop 6) = type.toCode := by
    simp only [encodeHeader, List.flatten_cons, List.append_assoc]
    rw [← List.append_assoc (putLe32 magic), List.drop_left' (by simp [putLe32, putLe16])]
    exact le16_putLe16 _ _
  have hseq : le64 ((encodeHeader type seq payload ++ t).drop 8) = seq := by
    simp only [encodeHeader, List.flatten_cons, List.append_assoc]
    rw [← List.append_assoc (putLe16 version), ← List.append_assoc (putLe32 magic),
      List.drop_left' (by simp [putLe32, putLe16])]
    exact le64_putLe64 _ _
  unfold checkHeader
  simp only [hmagic, hversion, htype, hseq, le32_encodeHeader, MsgType.ofCode?_toCode, ne_eq,
    not_true_eq_false, if_false]

theorem length_encodeFrame (type : MsgType) (seq : UInt64) (payload : List UInt8) :
    (encodeFrame type seq payload).length = headerSize + payload.length + checksumSize := by
  simp [encodeFrame, putLe64, headerSize, checksumSize, Nat.add_assoc]

/-- An encoded frame is taken off the front of a stream, and gives its message back. -/
theorem scanFrame_encodeFrame (type : MsgType) (seq : UInt64) {payload : List UInt8}
    (h : payload.length ≤ maxPayload) :
    scanFrame (encodeFrame type seq payload ++ t) =
      .frame { type := type, seq := seq, payload := payload } t := by
  have hsmall : payload.length < 2 ^ 32 := lt_of_le_of_lt h (by decide)
  have hplen : (UInt32.ofNat payload.length).toNat = payload.length :=
    UInt32.toNat_ofNat_of_lt hsmall
  have hheader : (encodeHeader type seq payload).length = headerSize := length_encodeHeader ..
  refine scanFrame_eq_frame.mpr ⟨payload.length, ?_, ?_, ?_, ?_, ?_⟩
  · simp only [encodeFrame, List.append_assoc]
    rw [checkHeader_encodeHeader, hplen, if_neg (not_lt.mpr h)]
  · rw [List.length_append, length_encodeFrame]
    omega
  · have hcovered : (encodeHeader type seq payload ++ payload).length =
        headerSize + payload.length := by rw [List.length_append, hheader]
    simp only [encodeFrame]
    rw [List.append_assoc, List.drop_left' hcovered, List.take_left' hcovered, le64_putLe64]
  · simp only [encodeFrame, List.append_assoc]
    rw [List.drop_left' hheader, List.take_left]
  · rw [List.drop_left' (length_encodeFrame ..)]

end Encode

end Protocol

end CollectiveScheduler
