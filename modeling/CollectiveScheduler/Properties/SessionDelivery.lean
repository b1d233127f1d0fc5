/-
  Properties/SessionDelivery.lean --- what a session handles, and the cuts of TCP.

  The messages of a piece are handled after the whole piece was decoded.  So a message is
  lost when a malformed frame stands behind it in its piece, and one behind SHUTDOWN is
  still handled when it stands in the same piece.  Both depend on the cut.  Where neither
  can happen, the cut does not matter.
-/
import CollectiveScheduler.Coordinator.Session
import CollectiveScheduler.Properties.FrameStream

set_option autoImplicit false

namespace CollectiveScheduler

open Foundation

namespace Coordinator

variable {D : Type} [Double D]

/-- No message of the stream is at the mercy of the cut: behind each one that is reached,
`decode_frames` finds no malformed frame in the bytes that one call of `recv` can add, and
behind SHUTDOWN no frame at all. -/
def DeliverySettled (c : Coordinator D) (env : Nat → Env) (fd : Nat) (stream : List UInt8) :
    Prop :=
  ∀ ms m rest, Protocol.framer.Takes stream (ms ++ [m]) rest → c.running = true →
    (∀ m' ∈ ms, m'.type ≠ .shutdown) → (handleEach env fd 0 c ms).isSome = true →
    (Protocol.decodeFrames (rest.take (recvLimit - 1)) []).1 = true ∧
      (m.type = .shutdown → (Protocol.decodeFrames (rest.take (recvLimit - 1)) []).2.2 = [])

/-- A message ends the loop exactly when it is SHUTDOWN. -/
theorem handler_stops_iff {env : Nat → Env} {fd : Nat} {s : Coordinator D × Nat}
    (hrunning : s.1.running = true) (m : Msg) :
    (∃ s', (handler env fd).handle s m = some s' ∧ (handler env fd).running s' = false) ↔
      m.type = .shutdown := by
  constructor
  · rintro ⟨s', hhandle, hstopped⟩
    obtain ⟨r, hmessage, rfl⟩ := Option.map_eq_some_iff.mp hhandle
    have hkept := (handleMessage_handled hmessage).running
    rw [show r.1.running = false from hstopped, hrunning, Bool.true_and] at hkept
    exact not_not.mp (of_decide_eq_false hkept.symm)
  · intro htype
    refine ⟨({ s.1 with running := false }, s.2 + 1), ?_, rfl⟩
    simp only [handler, handleMessage_shutdown _ _ _ htype, Option.map_some]

theorem deliverySettled_iff (c : Coordinator D) (env : Nat → Env) (fd : Nat)
    (stream : List UInt8) :
    Session.Settles Protocol.framer (handler env fd) (recvLimit - 1) (c, 0) stream ↔
      c.DeliverySettled env fd stream := by
  constructor
  · intro h ms m rest htakes hrunning htypes hhandled
    obtain ⟨c', hc'⟩ := Option.isSome_iff_exists.mp hhandled
    have hreach := (handler_reach_iff ms c 0 (c', 0 + ms.length)).mpr
      ⟨hrunning, htypes, by rw [hc']; rfl⟩
    obtain ⟨hbroken, hstop⟩ := h ms m rest _ htakes hreach
    rw [Protocol.decodeFrames_succeeds_iff, Protocol.decodeFrames_messages, List.nil_append]
    refine ⟨hbroken, fun htype => ?_⟩
    obtain ⟨s', hhandle, hstopped⟩ :=
      (handler_stops_iff (Handler.running_of_reach_end hreach) m).mpr htype
    exact hstop s' hhandle hstopped
  · intro h ms m rest s' htakes hreach
    obtain ⟨hrunning, htypes, hmap⟩ := (handler_reach_iff ms c 0 s').mp hreach
    obtain ⟨c', hc', -⟩ := Option.map_eq_some_iff.mp hmap
    obtain ⟨hresult, hnone⟩ := h ms m rest htakes hrunning htypes (by rw [hc']; rfl)
    rw [Protocol.decodeFrames_succeeds_iff] at hresult
    rw [Protocol.decodeFrames_messages, List.nil_append] at hnone
    refine ⟨hresult, fun s'' hhandle hstopped => ?_⟩
    exact hnone ((handler_stops_iff (Handler.running_of_reach_end hreach) m).mp
      ⟨s'', hhandle, hstopped⟩)

/-- A stream of encoded messages in which nothing follows SHUTDOWN is delivered however it
is cut. -/
theorem deliverySettled_of_encoded (c : Coordinator D) (env : Nat → Env) (fd : Nat)
    {msgs : List Msg} (hpayload : ∀ m ∈ msgs, m.payload.length ≤ Protocol.maxPayload)
    (hlast : ∀ ms m ms', msgs = ms ++ m :: ms' → m.type = .shutdown → ms' = []) :
    c.DeliverySettled env fd (msgs.map Protocol.Msg.encode).flatten := by
  intro ms m rest htakes _ _ _
  have hsplit := htakes.split
  rw [Protocol.split_encoded hpayload] at hsplit
  obtain ⟨hmsgs, hrest⟩ := Prod.mk.inj hsplit
  have hwhole := Framer.split_append (F := Protocol.framer) (rest.take (recvLimit - 1))
    (rest.drop (recvLimit - 1))
  rw [List.take_append_drop] at hwhole
  rw [Protocol.decodeFrames_succeeds_iff, Protocol.decodeFrames_messages, List.nil_append]
  refine ⟨?_, fun htype => ?_⟩
  · have hparts : Protocol.framer.split rest = ((Protocol.framer.split rest).1, []) :=
      Prod.ext rfl hrest.symm
    have hbroken : ¬Protocol.framer.Broken rest :=
      Framer.not_broken_of_split hparts Protocol.framer.scan_nil
    rw [← List.take_append_drop (recvLimit - 1) rest] at hbroken
    exact Framer.not_broken_of_append hbroken
  · have hnone := hlast ms m _ (by rw [hmsgs, List.append_assoc, List.singleton_append]) htype
    rw [hwhole] at hnone
    exact (List.append_eq_nil_iff.mp hnone).1

end Coordinator

/-- A session handles the same messages for every two ways in which its stream can be cut
into what `recv` returns exactly when no message is at the mercy of the cut. -/
theorem session_delivery_independent_iff {D : Type} [Double D] (c : Coordinator D)
    (env : Nat → Coordinator.Env) (fd : Nat) (stream : List UInt8) :
    (∀ chunks chunks', Session.Cut Coordinator.recvLimit stream chunks →
      Session.Cut Coordinator.recvLimit stream chunks' →
      c.session env fd chunks = c.session env fd chunks') ↔
      c.DeliverySettled env fd stream := by
  rw [← Coordinator.deliverySettled_iff, ← Session.passed_independent_iff]
  simp only [Coordinator.session_eq_passed]
  rfl

/-- A HELLO with junk behind it is handled when the junk arrives after it, and lost when
both arrive together. -/
theorem session_delivery_depends_on_cut :
    ∃ (stream : List UInt8) (chunks chunks' : List (List UInt8)),
      Session.Cut Coordinator.recvLimit stream chunks ∧
      Session.Cut Coordinator.recvLimit stream chunks' ∧
      (Coordinator.start 1 false none : Coordinator ℚ).session (fun _ => {}) 5 chunks =
        [{ type := .hello, seq := 1 }] ∧
      (Coordinator.start 1 false none : Coordinator ℚ).session (fun _ => {}) 5 chunks' = [] := by
  refine ⟨Protocol.encodeFrame .hello 1 [] ++ List.replicate 20 0,
    [Protocol.encodeFrame .hello 1 [], List.replicate 20 0],
    [Protocol.encodeFrame .hello 1 [] ++ List.replicate 20 0], ⟨rfl, ?_, ?_⟩, ⟨rfl, ?_, ?_⟩, ?_, ?_⟩
  all_goals decide +kernel

end CollectiveScheduler
