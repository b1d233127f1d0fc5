/-
  Properties/FrameStream.lean --- a stream of frames that arrives in pieces.

  Whatever the cuts are, a receiver that appends each piece to its buffer and calls
  `decode_frames` ends with the messages that were encoded, in order, and with an empty
  buffer, and no call fails on the way.
-/
import CollectiveScheduler.Foundation.Session
import CollectiveScheduler.Protocol.Frame

set_option autoImplicit false

namespace CollectiveScheduler

open Foundation

namespace Protocol

/-- A receiver: its buffer, the messages so far and the results of the calls. -/
structure Receiver where
  buffer : List UInt8 := []
  out : List Msg := []
  results : List Bool := []
  deriving DecidableEq

/-- A piece arrives: it is appended to the buffer, and `decode_frames` is called. -/
def Receiver.append (x : Receiver) (chunk : List UInt8) : Receiver :=
  match decodeFrames (x.buffer ++ chunk) x.out with
  | (result, buffer, out) =>
      { buffer := buffer, out := out, results := x.results ++ [result] }

/-- `encode_frame` on a message. -/
def Msg.encode (m : Msg) : List UInt8 := encodeFrame m.type m.seq m.payload

/-- Where no malformed frame is in the stream, the receiver finds the frames of the whole
stream, however it is cut. -/
theorem Receiver.exec_append (chunks : List (List UInt8)) (x : Receiver)
    (hbuffer : framer.scan x.buffer = .incomplete)
    (hbroken : ¬framer.Broken (x.buffer ++ chunks.flatten)) :
    Runs.exec Receiver.append x chunks =
      { buffer := (framer.split (x.buffer ++ chunks.flatten)).2
        out := x.out ++ (framer.split (x.buffer ++ chunks.flatten)).1
        results := x.results ++ List.replicate chunks.length true } := by
  induction chunks generalizing x with
  | nil =>
      rw [List.flatten_nil, List.append_nil, Framer.split_incomplete hbuffer]
      simp
  | cons c rest ih =>
      rw [List.flatten_cons, ← List.append_assoc] at hbroken ⊢
      have hfirst := Framer.not_broken_of_append hbroken
      have hstep : x.append c =
          { buffer := (framer.split (x.buffer ++ c)).2
            out := x.out ++ (framer.split (x.buffer ++ c)).1
            results := x.results ++ [true] } := by
        rw [Receiver.append, decodeFrames_eq, if_neg hfirst]
      rw [Framer.broken_append_iff] at hbroken
      have hrest := ih { buffer := (framer.split (x.buffer ++ c)).2
                         out := x.out ++ (framer.split (x.buffer ++ c)).1
                         results := x.results ++ [true] }
        (Framer.scan_rest_of_not_broken hfirst) hbroken
      rw [Runs.exec_cons, hstep, hrest, Framer.split_append (x.buffer ++ c)]
      simp only [List.append_assoc, List.length_cons, List.replicate_succ, List.singleton_append]

/-- The frames of a concatenation of encoded messages are these messages. -/
theorem split_encoded {msgs : List Msg} (h : ∀ m ∈ msgs, m.payload.length ≤ maxPayload) :
    framer.split (msgs.map Msg.encode).flatten = (msgs, []) := by
  induction msgs with
  | nil => exact Framer.split_nil
  | cons m rest ih =>
      have hscan : framer.scan (Msg.encode m ++ (rest.map Msg.encode).flatten) =
          .frame m (rest.map Msg.encode).flatten := by
        rw [framer_scan, Msg.encode, scanFrame_encodeFrame _ _ _ (h m List.mem_cons_self)]
      rw [List.map_cons, List.flatten_cons, Framer.split_frame hscan,
        ih fun m' hm' => h m' (List.mem_cons_of_mem _ hm')]

end Protocol

/-- However a stream of encoded messages is cut into pieces, every call of `decode_frames`
returns true, the messages come out in order, and the buffer is empty at the end. -/
theorem frame_stream_round_trip (msgs : List Msg)
    (hpayload : ∀ m ∈ msgs, m.payload.length ≤ Protocol.maxPayload) (chunks : List (List UInt8))
    (hchunks : chunks.flatten =
      (msgs.map fun m => Protocol.encodeFrame m.type m.seq m.payload).flatten) :
    Runs.exec Protocol.Receiver.append {} chunks =
      { buffer := [], out := msgs, results := List.replicate chunks.length true } := by
  have hsplit : Protocol.framer.split chunks.flatten = (msgs, []) := by
    rw [hchunks]
    exact Protocol.split_encoded hpayload
  have hbroken : ¬Protocol.framer.Broken chunks.flatten :=
    Framer.not_broken_of_split hsplit Protocol.framer.scan_nil
  have hexec := Protocol.Receiver.exec_append chunks {} rfl hbroken
  rw [hexec]
  simp only [List.nil_append, hsplit]

/-- A message with a payload, one without, and another with one. -/
def Scenario.threeMessages : List Msg :=
  [{ type := .hello, seq := 7, payload := [9, 8, 7] }, { type := .querySchedule, seq := 8 },
    { type := .cancel, seq := 9, payload := [1, 2] }]

/-- Three frames, of 31, 28 and 30 bytes, one byte at a time. -/
theorem frame_stream_round_trip_bytewise :
    Runs.exec Protocol.Receiver.append {}
        (Session.bytewise (Scenario.threeMessages.map Protocol.Msg.encode).flatten) =
      { buffer := [], out := Scenario.threeMessages, results := List.replicate 89 true } := by
  have hrun := frame_stream_round_trip Scenario.threeMessages (by decide) _
    (Session.flatten_bytewise _)
  have hlength : (Session.bytewise
      (Scenario.threeMessages.map Protocol.Msg.encode).flatten).length = 89 := by decide +kernel
  rw [← hlength]
  exact hrun

end CollectiveScheduler
