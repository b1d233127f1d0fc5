/-
  Properties/SessionMemory.lean --- what a session holds of the bytes of its peer.

  `session` appends what `recv` returns to its buffer and takes the whole frames off the
  front.  `decode_frames` compares the length in a header with the largest payload before
  it waits for the rest of the frame, so that no peer can make the buffer grow beyond the
  largest frame; the messages that are handled between two calls of `recv` come out of
  the buffer and of the bytes of one call.
-/
import CollectiveScheduler.Properties.Deployment
import CollectiveScheduler.Properties.FrameExact

set_option autoImplicit false

namespace CollectiveScheduler

open Foundation

/-! ## Unfinished frames -/

namespace Protocol

/-- The size of the largest frame. -/
def maxFrame : Nat := headerSize + maxPayload + checksumSize

/-- A buffer that waits for more bytes is shorter than the largest frame. -/
theorem length_lt_of_incomplete {b : List UInt8} (h : framer.scan b = .incomplete) :
    b.length < maxFrame := by
  unfold maxFrame
  change scanFrame b = .incomplete at h
  unfold scanFrame at h
  split_ifs at h with hheader
  · omega
  · split at h
    · cases h
    · rename_i type seq plen hcheck
      have hplen : plen ≤ maxPayload := by
        unfold checkHeader at hcheck
        split_ifs at hcheck
        split at hcheck
        · cases hcheck
        · simp only [Option.ite_none_left_eq_some, Option.some.injEq, Prod.mk.injEq] at hcheck
          obtain ⟨hfits, -, -, rfl⟩ := hcheck
          exact not_lt.mp hfits
      simp only at h
      split_ifs at h with hlength
      omega

end Protocol

/-! ## Sessions -/

namespace Network

variable {D : Type}

/-- The bytes of the messages that a session has still to handle, and of its buffer. -/
def Link.held (l : Link D) : Nat :=
  (l.phase.pending.map Msg.frame).flatten.length + l.up.buffer.length

/-- The session holds little. -/
structure Link.Modest (l : Link D) : Prop where
  buffer : l.up.buffer.length < Protocol.maxFrame
  held : l.held < Protocol.maxFrame + Coordinator.recvLimit

namespace Link.Modest

variable {l l' : Link D}

/-- The session goes on with a part of its messages. -/
theorem move (h : l.Modest) (hbuffer : l'.up.buffer = l.up.buffer)
    (hpending : l'.phase.pending <:+ l.phase.pending) : l'.Modest := by
  have hframes : (l'.phase.pending.map Msg.frame).flatten.length ≤
      (l.phase.pending.map Msg.frame).flatten.length := by
    obtain ⟨handled, heq⟩ := hpending
    rw [← heq, List.map_append, List.flatten_append, List.length_append]
    omega
  have hheld := h.held
  unfold Link.held at hheld
  refine ⟨hbuffer ▸ h.buffer, ?_⟩
  unfold Link.held
  rw [hbuffer]
  omega

theorem opened (peer : Peer) : (Link.opened peer : Link D).Modest := by
  have hempty : (Link.opened peer : Link D).up.buffer = [] := by cases peer <;> rfl
  have hheld : (Link.opened peer : Link D).held = 0 := by cases peer <;> rfl
  constructor
  · rw [hempty]
    decide
  · rw [hheld]
    decide

/-- One call of `recv`: the frames and the new buffer are the old buffer and the bytes that
came. -/
theorem receive (h : l.Modest) {n : Nat}
    (hwhole : ¬Protocol.framer.Broken
      (l.up.buffer ++ l.up.transit.take (min n Coordinator.recvLimit))) :
    ({ l with
      up := l.up.read Protocol.framer (min n Coordinator.recvLimit)
      phase := .handling (l.up.arriving Protocol.framer (min n Coordinator.recvLimit)) } :
        Link D).Modest := by
  have hrest := Protocol.length_lt_of_incomplete (Framer.scan_rest_of_not_broken hwhole)
  have hparts := congrArg List.length (Framer.flatten_split (F := Protocol.framer) Msg.frame
    (fun b m r hframe => (Protocol.scanFrame_eq_encode hframe).1)
    (l.up.buffer ++ l.up.transit.take (min n Coordinator.recvLimit)))
  have hbuffer := h.buffer
  refine ⟨hrest, ?_⟩
  change (((Protocol.framer.split (l.up.buffer ++
    l.up.transit.take (min n Coordinator.recvLimit))).1.map Msg.frame).flatten.length +
      (Protocol.framer.split (l.up.buffer ++
        l.up.transit.take (min n Coordinator.recvLimit))).2.length) < _
  rw [List.length_append, List.length_append, List.length_take] at hparts
  omega

end Link.Modest

/-- Every session holds little. -/
def Modest (links : FinMap Nat (Link D)) : Prop := ∀ fd l, links.find? fd = some l → l.Modest

namespace Modest

variable {links : FinMap Nat (Link D)} {fd : Nat} {l l' : Link D}

theorem insert (h : Modest links) (hl' : l'.Modest) : Modest (links.insert fd l') := by
  intro fd' l hfind
  rw [FinMap.find?_insert] at hfind
  split_ifs at hfind
  · rw [← Option.some.inj hfind]
    exact hl'
  · exact h fd' l hfind

/-- A session goes on with a part of its messages. -/
theorem move (h : Modest links) (hfind : links.find? fd = some l)
    (hbuffer : l'.up.buffer = l.up.buffer) (hpending : l'.phase.pending <:+ l.phase.pending) :
    Modest (links.insert fd l') :=
  h.insert ((h fd l hfind).move hbuffer hpending)

/-- Frames for a peer do not count. -/
theorem send (h : Modest links) (frames : List (Nat × Msg)) :
    Modest (Network.send links frames) := by
  intro fd l hfind
  rw [find?_send, Option.map_eq_some_iff] at hfind
  obtain ⟨l₀, hfind₀, rfl⟩ := hfind
  exact (h fd l₀ hfind₀).move rfl (List.suffix_refl _)

end Modest

variable [Double D] {net : Network D}

theorem Sound.modest_next (h : net.Sound) (hmodest : Modest net.links) (a : Action) :
    Modest (net.next a).links := by
  have hstep := h.step a
  generalize net.next a = net' at hstep
  cases hstep with
  | idle => exact hmodest
  | connect peer hfree => exact hmodest.insert (.opened peer)
  | write bytes hfind hpeer => exact hmodest.move hfind rfl (List.suffix_refl _)
  | proceed hfind hphase => exact hmodest.move hfind rfl List.nil_suffix
  | stop hfind hphase hstopped => exact hmodest.move hfind rfl List.nil_suffix
  | receive hfind hphase hwhole => exact hmodest.insert ((hmodest _ _ hfind).receive hwhole)
  | drop hfind hphase => exact hmodest.move hfind rfl List.nil_suffix
  | turn env hfind hphase => exact hmodest.move hfind rfl List.nil_suffix
  | @round fd l env m rest dec hfind hphase hm hdecided =>
      refine hmodest.move hfind rfl ?_
      rw [hphase]
      exact List.suffix_cons m rest
  | @message fd l env m rest c frames hfind hphase hm hhandle hreplied =>
      refine Modest.send ?_ frames
      refine hmodest.move hfind rfl ?_
      rw [hphase]
      exact List.suffix_cons m rest
  | @broadcast fd l seq dec rest env hfind hphase =>
      refine Modest.send ?_ _
      refine hmodest.move hfind rfl ?_
      rw [hphase]
      exact List.suffix_refl rest
  | answer hfind hpeer hlooping => exact hmodest.move hfind rfl (List.suffix_refl _)
  | leave hfind hpeer hlooping hclosed => exact hmodest.move hfind rfl (List.suffix_refl _)

/-- Whatever its peer sends, and however it arrives, the buffer of a session stays shorter than
the largest frame, and with the messages it has still to handle it is at most one `recv`
longer. -/
theorem session_memory_is_bounded (hnet : net.Reached) {fd : Nat} {l : Link D}
    (hfind : net.links.find? fd = some l) :
    l.up.buffer.length < Protocol.headerSize + Protocol.maxPayload + Protocol.checksumSize ∧
      (l.phase.pending.map Msg.frame).flatten.length + l.up.buffer.length <
        Protocol.headerSize + Protocol.maxPayload + Protocol.checksumSize +
          Coordinator.recvLimit := by
  have hmodest : Modest net.links := hnet.induct (P := fun net => Modest net.links)
    (fun _ _ _ fd l hfind => by cases hfind)
    (fun _ a hsound hmodest => hsound.modest_next hmodest a)
  exact ⟨(hmodest fd l hfind).buffer, (hmodest fd l hfind).held⟩

/-- A client has sent three messages; its session still has the last of them to handle. -/
theorem session_memory_is_bounded_asked :
    ∃ l : Link Binary64, Scenario.ready.links.find? 6 = some l ∧ l.phase.pending.length = 1 ∧
      (l.phase.pending.map Msg.frame).flatten.length + l.up.buffer.length <
        Protocol.headerSize + Protocol.maxPayload + Protocol.checksumSize +
          Coordinator.recvLimit := by
  have hfound : (Scenario.ready.links.find? 6).any
      (fun l => l.phase.pending.length = 1) = true := by decide +kernel
  obtain ⟨l, hfind, hpending⟩ := (Option.any_eq_true _ _).mp hfound
  have hnet : Scenario.ready.Reached := (Reached.start 1 false).run Scenario.asked
  exact ⟨l, hfind, of_decide_eq_true hpending, (session_memory_is_bounded hnet hfind).2⟩

end Network

end CollectiveScheduler
