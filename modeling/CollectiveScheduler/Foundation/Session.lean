/-
  Foundation/Session.lean --- a receiver that passes the frames of a stream to a handler.

  The pieces of the stream are appended to a buffer, and the frames at its front are
  passed to the handler.  The handler can end the loop, but the loop looks only between
  two pieces, and a piece with a malformed front behind some frames is given up together
  with these frames.  So what is passed can depend on the cut.  The last theorem says for
  which streams it does not.
-/
import CollectiveScheduler.Foundation.Framing
import CollectiveScheduler.Foundation.Runs

set_option autoImplicit false

namespace CollectiveScheduler.Foundation

/-! ## Handlers -/

/-- What takes the messages: it may throw, and it says whether the loop goes on. -/
structure Handler (σ M : Type) where
  handle : σ → M → Option σ
  running : σ → Bool

namespace Handler

variable {σ M : Type} (H : Handler σ M)

/-- The messages of one piece, one after the other; a throw ends the process. -/
def serve : σ → List M → List M × Option σ
  | s, [] => ([], some s)
  | s, m :: ms =>
      match H.handle s m with
      | none => ([m], none)
      | some s' => (m :: (serve s' ms).1, (serve s' ms).2)

/-- The state after messages none of which throws or ends the loop. -/
def reach : σ → List M → Option σ
  | s, [] => if H.running s then some s else none
  | s, m :: ms => if H.running s then (H.handle s m).bind (fun s' => reach s' ms) else none

/-- The messages up to the first that throws or ends the loop. -/
def deliver : σ → List M → List M
  | _, [] => []
  | s, m :: ms =>
      if H.running s then
        match H.handle s m with
        | none => [m]
        | some s' => m :: deliver s' ms
      else []

variable {H} {s s' : σ} {ms : List M}

theorem deliver_stopped (h : H.running s = false) (ms : List M) : H.deliver s ms = [] := by
  cases ms with
  | nil => rfl
  | cons m ms => rw [deliver, h]; rfl

theorem running_of_reach (h : H.reach s ms = some s') : H.running s = true := by
  cases ms <;> rw [reach] at h <;> split_ifs at h with hrunning <;> exact hrunning

theorem reach_cons {m : M} (h : H.reach s (m :: ms) = some s') :
    ∃ s₁, H.handle s m = some s₁ ∧ H.reach s₁ ms = some s' := by
  rw [reach] at h
  split_ifs at h
  exact Option.bind_eq_some_iff.mp h

theorem reach_append {ms' : List M} (h : H.reach s (ms ++ ms') = some s') :
    ∃ s₁, H.reach s ms = some s₁ ∧ H.reach s₁ ms' = some s' := by
  induction ms generalizing s with
  | nil =>
      refine ⟨s, ?_, h⟩
      rw [reach, if_pos (running_of_reach h)]
  | cons m rest ih =>
      obtain ⟨s₁, hhandle, hrest⟩ := reach_cons h
      obtain ⟨s₂, hfirst, hsecond⟩ := ih hrest
      refine ⟨s₂, ?_, hsecond⟩
      rw [reach, if_pos (running_of_reach h), hhandle]
      exact hfirst

theorem running_of_reach_end (h : H.reach s ms = some s') : H.running s' = true := by
  have hends := h
  rw [← List.append_nil ms] at hends
  obtain ⟨s₁, hfirst, hnil⟩ := reach_append hends
  rw [h] at hfirst
  cases hfirst
  exact running_of_reach hnil

theorem serve_of_reach (h : H.reach s ms = some s') : H.serve s ms = (ms, some s') := by
  induction ms generalizing s with
  | nil =>
      rw [reach] at h
      split_ifs at h
      cases h
      rfl
  | cons m rest ih =>
      obtain ⟨s₁, hhandle, hrest⟩ := reach_cons h
      simp only [serve, hhandle, ih hrest]

theorem deliver_of_reach (h : H.reach s ms = some s') (ms' : List M) :
    H.deliver s (ms ++ ms') = ms ++ H.deliver s' ms' := by
  induction ms generalizing s with
  | nil =>
      rw [reach] at h
      split_ifs at h
      cases h
      rfl
  | cons m rest ih =>
      obtain ⟨s₁, hhandle, hrest⟩ := reach_cons h
      rw [List.cons_append, deliver, if_pos (running_of_reach h), hhandle]
      exact congrArg (List.cons m) (ih hrest)

end Handler

/-! ## Sessions -/

/-- The receiving end of a connection. -/
structure Session (σ α M : Type) where
  state : σ
  buffer : List α := []
  /-- the messages that were passed to the handler -/
  passed : List M := []
  /-- the loop has not been left -/
  live : Bool := true

namespace Session

variable {σ α M : Type} (F : Framer α M) (H : Handler σ M)

/-- One turn of the loop, with the piece that arrives in it. -/
def receive (x : Session σ α M) (chunk : List α) : Session σ α M :=
  if x.live = false then x
  else if H.running x.state = false then { x with live := false }
  else if F.Broken (x.buffer ++ chunk) then { x with live := false }
  else
    match H.serve x.state (F.split (x.buffer ++ chunk)).1 with
    | (passed, none) => { x with passed := x.passed ++ passed, live := false }
    | (passed, some s) =>
        { x with
          state := s
          buffer := (F.split (x.buffer ++ chunk)).2
          passed := x.passed ++ passed }

/-- A way to cut a stream into pieces that arrive one by one. -/
structure Cut (limit : Nat) (stream : List α) (chunks : List (List α)) : Prop where
  flatten : chunks.flatten = stream
  nonempty : ∀ c ∈ chunks, c ≠ []
  short : ∀ c ∈ chunks, c.length ≤ limit

/-- No message of the stream is at the mercy of the cut: where one is passed, no malformed
front follows within the `reach` bytes a piece can hold behind it, and if it ends the loop,
no frame does. -/
def Settles (reach : Nat) (s : σ) (stream : List α) : Prop :=
  ∀ ms m rest s', F.Takes stream (ms ++ [m]) rest → H.reach s ms = some s' →
    ¬F.Broken (rest.take reach) ∧
      ∀ s'', H.handle s' m = some s'' → H.running s'' = false →
        (F.split (rest.take reach)).1 = []

variable {F H} {x : Session σ α M} {chunk b rest : List α} {chunks : List (List α)} {reach : Nat}
  {s s' : σ} {m : M}

/-! ### What follows a message -/

theorem Settles.next (h : Settles F H reach s b) (hscan : F.scan b = .frame m rest)
    (hrunning : H.running s = true) (hhandle : H.handle s m = some s') :
    Settles F H reach s' rest := by
  intro ms m' rest' s'' htakes hreach
  refine h (m :: ms) m' rest' s'' (.cons hscan htakes) ?_
  rw [Handler.reach, if_pos hrunning, hhandle]
  exact hreach

/-- What holds of the bytes a piece can hold behind a message holds of those it does. -/
theorem Settles.first (h : Settles F H reach s b) (hscan : F.scan b = .frame m (rest ++ chunk))
    (hrunning : H.running s = true) (hlen : rest.length ≤ reach) :
    ¬F.Broken rest ∧ ∀ s', H.handle s m = some s' → H.running s' = false →
      (F.split rest).1 = [] := by
  have hreach : H.reach s [] = some s := by rw [Handler.reach, if_pos hrunning]
  obtain ⟨hbroken, hstop⟩ := h [] m _ s (.cons hscan (.nil _)) hreach
  have htake : (rest ++ chunk).take reach = rest ++ chunk.take (reach - rest.length) := by
    rw [List.take_append, List.take_of_length_le hlen]
  rw [htake] at hbroken hstop
  refine ⟨Framer.not_broken_of_append hbroken, fun s' hhandle hstopped => ?_⟩
  have hnone := hstop s' hhandle hstopped
  rw [Framer.split_append] at hnone
  exact (List.append_eq_nil_iff.mp hnone).1

/-- The messages of a piece are passed as they would be one by one, and what is left
of the stream settles again. -/
theorem serve_settles (t : List α) (b : List α) (s : σ) (hrunning : H.running s = true)
    (hsettles : Settles F H reach s (b ++ t))
    (hlen : ∀ m rest, F.scan b = .frame m rest → rest.length ≤ reach) :
    (∀ passed, H.serve s (F.split b).1 = (passed, none) →
      H.deliver s (F.split (b ++ t)).1 = passed) ∧
    ∀ passed s', H.serve s (F.split b).1 = (passed, some s') →
      H.deliver s (F.split (b ++ t)).1 =
          passed ++ H.deliver s' (F.split ((F.split b).2 ++ t)).1 ∧
        (H.running s' = true → Settles F H reach s' ((F.split b).2 ++ t)) := by
  induction b using Framer.split_induct (F := F) generalizing s with
  | hstuck b h =>
      rw [Framer.split_stuck h]
      refine ⟨fun passed hserve => (by cases hserve), fun passed s' hserve => ?_⟩
      cases hserve
      exact ⟨rfl, fun _ => hsettles⟩
  | hframe b m rest hscan ih =>
      have hwhole := F.frame_append t hscan
      have hrest := hlen m rest hscan
      rw [Framer.split_frame hwhole, Framer.split_frame hscan]
      simp only [Handler.serve, Handler.deliver, hrunning, if_true]
      cases hhandle : H.handle s m with
      | none =>
          refine ⟨fun passed hserve => ?_, fun passed s' hserve => (by cases hserve)⟩
          cases hserve
          rfl
      | some s₁ =>
          simp only
          cases hgoes : H.running s₁ with
          | true =>
              obtain ⟨hthrow, hpass⟩ := ih s₁ hgoes (hsettles.next hwhole hrunning hhandle)
                fun m' rest' hscan' =>
                  Nat.le_trans (Nat.le_of_lt (Framer.length_lt_of_frame hscan')) hrest
              refine ⟨fun passed hserve => ?_, fun passed s' hserve => ?_⟩
              · obtain ⟨rfl, hnone⟩ := Prod.mk.inj hserve
                rw [hthrow _ (Prod.ext rfl hnone)]
              · obtain ⟨rfl, hsome⟩ := Prod.mk.inj hserve
                obtain ⟨hdeliver, hsettled⟩ := hpass _ s' (Prod.ext rfl hsome)
                exact ⟨by rw [hdeliver]; rfl, hsettled⟩
          | false =>
              -- the loop ends behind `m`, so no frame follows it in the piece
              have hnone := (hsettles.first hwhole hrunning hrest).2 s₁ hhandle hgoes
              rw [hnone, Handler.deliver_stopped hgoes]
              refine ⟨fun passed hserve => (by cases hserve), fun passed s' hserve => ?_⟩
              cases hserve
              exact ⟨by rw [Handler.deliver_stopped hgoes]; rfl,
                fun hrun => absurd (hrun.symm.trans hgoes) (by decide)⟩

/-! ### Runs of the loop -/

theorem receive_left (h : x.live = false) (chunk : List α) : x.receive F H chunk = x := by
  rw [receive, if_pos h]

theorem exec_left (h : x.live = false) (chunks : List (List α)) :
    Runs.exec (receive F H) x chunks = x := by
  induction chunks with
  | nil => rfl
  | cons c rest ih =>
      rw [Runs.exec_cons, receive_left h]
      exact ih

/-- A stream that settles is passed message by message, however it is cut. -/
theorem passed_of_settles (hlive : x.live = true) (hbuffer : F.scan x.buffer = .incomplete)
    (hshort : ∀ c ∈ chunks, c.length ≤ reach + 1)
    (hsettles : Settles F H reach x.state (x.buffer ++ chunks.flatten)) :
    (Runs.exec (receive F H) x chunks).passed =
      x.passed ++ H.deliver x.state (F.split (x.buffer ++ chunks.flatten)).1 := by
  induction chunks generalizing x with
  | nil =>
      rw [List.flatten_nil, List.append_nil, Framer.split_incomplete hbuffer]
      exact (List.append_nil _).symm
  | cons c rest ih =>
      rw [List.flatten_cons, ← List.append_assoc] at hsettles ⊢
      rw [Runs.exec_cons, receive, if_neg (by rw [hlive]; decide)]
      have hlen : ∀ m r, F.scan (x.buffer ++ c) = .frame m r → r.length ≤ reach := by
        intro m r hscan
        have hlt := Framer.length_rest_lt hbuffer hscan
        have hc := hshort c List.mem_cons_self
        omega
      cases hrunning : H.running x.state with
      | false =>
          rw [if_pos rfl, exec_left rfl, Handler.deliver_stopped hrunning, List.append_nil]
      | true =>
          rw [if_neg (by decide)]
          obtain ⟨hthrow, hpass⟩ := serve_settles rest.flatten (x.buffer ++ c) x.state hrunning
            hsettles hlen
          split_ifs with hbroken
          · -- a malformed front stands first, or the piece would not settle
            have hnone : (F.split (x.buffer ++ c)).1 = [] := by
              cases hscan : F.scan (x.buffer ++ c) with
              | frame m r =>
                  have hfirst := hsettles.first (F.frame_append _ hscan) hrunning (hlen m r hscan)
                  exact absurd ((Framer.broken_frame hscan).mp hbroken) hfirst.1
              | incomplete => exact absurd hbroken (Framer.not_broken_incomplete hscan)
              | malformed => rw [Framer.split_malformed hscan]
            rw [exec_left rfl, hbroken.split_append, hnone]
            exact (List.append_nil _).symm
          · split
            · rename_i passed hserve
              rw [exec_left rfl, hthrow passed hserve]
            · rename_i passed s' hserve
              obtain ⟨hdeliver, hsettled⟩ := hpass passed s' hserve
              have hrest := Framer.scan_rest_of_not_broken hbroken
              cases hgoes : H.running s' with
              | true =>
                  rw [ih (x := { x with state := s', buffer := _, passed := _ }) hlive hrest
                    (fun c' hc' => hshort c' (List.mem_cons_of_mem _ hc')) (hsettled hgoes),
                    hdeliver, List.append_assoc]
              | false =>
                  rw [hdeliver, Handler.deliver_stopped hgoes, List.append_nil]
                  cases rest with
                  | nil => rfl
                  | cons c' rest' =>
                      rw [Runs.exec_cons, receive, if_neg (by rw [hlive]; decide), if_pos hgoes,
                        exec_left rfl]

/-- Messages that neither throw nor end the loop are passed, however the stream is cut. -/
theorem exec_of_reach (hlive : x.live = true) (hbuffer : F.scan x.buffer = .incomplete)
    (hbroken : ¬F.Broken (x.buffer ++ chunks.flatten))
    (hreach : H.reach x.state (F.split (x.buffer ++ chunks.flatten)).1 = some s') :
    Runs.exec (receive F H) x chunks =
      { x with
        state := s'
        buffer := (F.split (x.buffer ++ chunks.flatten)).2
        passed := x.passed ++ (F.split (x.buffer ++ chunks.flatten)).1 } := by
  induction chunks generalizing x with
  | nil =>
      rw [List.flatten_nil, List.append_nil, Framer.split_incomplete hbuffer] at hreach ⊢
      rw [Handler.reach] at hreach
      split_ifs at hreach
      cases hreach
      rw [List.append_nil]
      rfl
  | cons c rest ih =>
      rw [List.flatten_cons, ← List.append_assoc] at hbroken hreach ⊢
      rw [Framer.split_append] at hreach ⊢
      have hfirst := Framer.not_broken_of_append hbroken
      obtain ⟨s₁, hreach₁, hreach₂⟩ := Handler.reach_append hreach
      rw [Runs.exec_cons, receive, if_neg (by rw [hlive]; decide),
        if_neg (by rw [Handler.running_of_reach hreach₁]; decide), if_neg hfirst,
        Handler.serve_of_reach hreach₁]
      rw [Framer.broken_append_iff] at hbroken
      simp only
      rw [ih (x := { x with state := s₁, buffer := _, passed := _ }) hlive
        (Framer.scan_rest_of_not_broken hfirst) hbroken hreach₂]
      simp only [List.append_assoc]

/-! ### The cut does not matter -/

/-- The pieces of one byte each. -/
def bytewise (stream : List α) : List (List α) := stream.map fun a => [a]

theorem flatten_bytewise (stream : List α) : (bytewise stream).flatten = stream := by
  induction stream with
  | nil => rfl
  | cons a rest ih => exact congrArg (List.cons a) ih

theorem cut_bytewise {limit : Nat} (hlimit : 0 < limit) (stream : List α) :
    Cut limit stream (bytewise stream) where
  flatten := flatten_bytewise stream
  nonempty c hc := by
    obtain ⟨a, -, rfl⟩ := List.mem_map.mp hc
    exact List.cons_ne_nil a []
  short c hc := by
    obtain ⟨a, -, rfl⟩ := List.mem_map.mp hc
    exact hlimit

theorem settles_zero (s : σ) (stream : List α) : Settles F H 0 s stream := by
  intro ms m rest s' _ _
  rw [List.take_zero]
  refine ⟨Framer.not_broken_incomplete F.scan_nil, fun _ _ _ => ?_⟩
  rw [Framer.split_nil]

/-- Byte by byte, the messages are passed up to the first that throws or ends the loop. -/
theorem passed_bytewise (s : σ) (stream : List α) :
    (Runs.exec (receive F H) { state := s } (bytewise stream)).passed =
      H.deliver s (F.split stream).1 := by
  have hpassed := passed_of_settles (F := F) (H := H) (x := { state := s }) rfl F.scan_nil
    (cut_bytewise Nat.one_pos stream).short (settles_zero s _)
  rw [hpassed, flatten_bytewise]
  rfl

/-- The cut with one piece for the last byte of a message and as much as fits behind it. -/
theorem cut_around {early late : List α} (last : α) (reach : Nat) :
    Cut (reach + 1) (early ++ last :: late)
      (bytewise early ++ (last :: late.take reach) :: bytewise (late.drop reach)) where
  flatten := by
    rw [List.flatten_append, List.flatten_cons, flatten_bytewise, flatten_bytewise,
      List.cons_append, List.take_append_drop]
  nonempty c hc := by
    rcases List.mem_append.mp hc with hc | hc
    · exact (cut_bytewise Nat.one_pos early).nonempty c hc
    · rcases List.mem_cons.mp hc with rfl | hc
      · exact List.cons_ne_nil _ _
      · exact (cut_bytewise Nat.one_pos _).nonempty c hc
  short c hc := by
    rcases List.mem_append.mp hc with hc | hc
    · exact (cut_bytewise (Nat.succ_pos reach) early).short c hc
    · rcases List.mem_cons.mp hc with rfl | hc
      · rw [List.length_cons, List.length_take]
        omega
      · exact (cut_bytewise (Nat.succ_pos reach) _).short c hc

/-- The state of the loop before the last byte of a message. -/
theorem exec_before_last {early partialFrame : List α} {ms : List M}
    (hsplit : F.split early = (ms, partialFrame))
    (hunfinished : F.scan partialFrame = .incomplete) (hreach : H.reach s ms = some s') :
    Runs.exec (receive F H) { state := s } (bytewise early) =
      { state := s', buffer := partialFrame, passed := ms } := by
  have hflat : ([] : List α) ++ (bytewise early).flatten = early := flatten_bytewise early
  have hbroken : ¬F.Broken early := Framer.not_broken_of_split hsplit hunfinished
  have hends : H.reach s (F.split ([] ++ (bytewise early).flatten)).1 = some s' := by
    rw [hflat, hsplit]
    exact hreach
  have hexec := exec_of_reach (x := { state := s }) rfl F.scan_nil (by rw [hflat]; exact hbroken)
    hends
  rw [hexec, hflat, hsplit]
  rfl

theorem length_passed_receive (x : Session σ α M) (chunk : List α) :
    x.passed.length ≤ (x.receive F H chunk).passed.length := by
  unfold receive
  split_ifs
  · exact Nat.le_refl _
  · exact Nat.le_refl _
  · exact Nat.le_refl _
  · split <;> simp only [List.length_append] <;> exact Nat.le_add_right _ _

/-- Nothing that was passed is taken back. -/
theorem length_passed_exec (x : Session σ α M) (chunks : List (List α)) :
    x.passed.length ≤ (Runs.exec (receive F H) x chunks).passed.length := by
  induction chunks generalizing x with
  | nil => exact Nat.le_refl _
  | cons c rest ih => exact Nat.le_trans (length_passed_receive x c) (ih _)

section Around

variable {early late partialFrame : List α} {last : α} {ms : List M}

/-- A message is lost when a malformed front stands behind it in its piece. -/
theorem passed_around_broken (hsplit : F.split early = (ms, partialFrame))
    (hunfinished : F.scan partialFrame = .incomplete)
    (hscan : ∀ t, F.scan (partialFrame ++ last :: t) = .frame m t)
    (hreach : H.reach s ms = some s') (hbroken : F.Broken (late.take reach)) :
    (Runs.exec (receive F H) { state := s }
      (bytewise early ++ (last :: late.take reach) :: bytewise (late.drop reach))).passed =
        ms := by
  have hpiece := (Framer.broken_frame (hscan (late.take reach))).mpr hbroken
  rw [Runs.exec_append, exec_before_last hsplit hunfinished hreach, Runs.exec_cons, receive]
  simp only [Handler.running_of_reach_end hreach, hpiece, if_true, Bool.true_eq_false, if_false]
  rw [exec_left rfl]

/-- A message behind the end of the loop is passed when it stands in the same piece. -/
theorem passed_around_frame (hsplit : F.split early = (ms, partialFrame))
    (hunfinished : F.scan partialFrame = .incomplete)
    (hscan : ∀ t, F.scan (partialFrame ++ last :: t) = .frame m t)
    (hreach : H.reach s ms = some s') (hbroken : ¬F.Broken (late.take reach)) {s'' : σ}
    (hhandle : H.handle s' m = some s'') (hframes : (F.split (late.take reach)).1 ≠ []) :
    ms.length + 2 ≤ (Runs.exec (receive F H) { state := s }
      (bytewise early ++ (last :: late.take reach) ::
        bytewise (late.drop reach))).passed.length := by
  have hpiece : ¬F.Broken (partialFrame ++ last :: late.take reach) := fun h =>
    hbroken ((Framer.broken_frame (hscan (late.take reach))).mp h)
  rw [Runs.exec_append, exec_before_last hsplit hunfinished hreach, Runs.exec_cons]
  refine Nat.le_trans ?_ (length_passed_exec _ _)
  obtain ⟨m', more, hmore⟩ := List.exists_cons_of_ne_nil hframes
  rw [receive]
  simp only [Handler.running_of_reach_end hreach, hpiece, Bool.true_eq_false, if_false,
    Framer.split_frame (hscan (late.take reach)), Handler.serve, hhandle, hmore]
  cases H.handle s'' m' with
  | none => simp
  | some s₃ =>
      simp only
      split <;> rename_i hserve <;> obtain ⟨rfl, -⟩ := Prod.mk.inj hserve <;>
        simp only [List.length_append, List.length_cons] <;> omega

end Around

/-- What is passed to the handler does not depend on the cut exactly when the stream
settles. -/
theorem passed_independent_iff (reach : Nat) (s : σ) (stream : List α) :
    (∀ chunks chunks', Cut (reach + 1) stream chunks → Cut (reach + 1) stream chunks' →
      (Runs.exec (receive F H) { state := s } chunks).passed =
        (Runs.exec (receive F H) { state := s } chunks').passed) ↔
      Settles F H reach s stream := by
  constructor
  · intro hsame ms m rest s' htakes hreach
    obtain ⟨early, last, partialFrame, rfl, hsplit, hunfinished, hscan⟩ := htakes.before_last
    have hagree := hsame _ _ (cut_around last reach) (cut_bytewise (Nat.succ_pos reach) _)
    rw [passed_bytewise, htakes.split, List.append_assoc, Handler.deliver_of_reach hreach,
      List.singleton_append, Handler.deliver, if_pos (Handler.running_of_reach_end hreach)]
      at hagree
    have hbroken : ¬F.Broken (rest.take reach) := by
      intro hbroken
      rw [passed_around_broken hsplit hunfinished hscan hreach hbroken] at hagree
      have hlength := congrArg List.length hagree
      rw [List.length_append] at hlength
      split at hlength <;> simp only [List.length_cons] at hlength <;> omega
    refine ⟨hbroken, fun s'' hhandle hstopped => ?_⟩
    by_contra hframes
    have hlength := passed_around_frame hsplit hunfinished hscan hreach hbroken hhandle hframes
    simp only [hagree, hhandle, Handler.deliver_stopped hstopped, List.length_append,
      List.length_cons, List.length_nil] at hlength
    omega
  · intro hsettles chunks chunks' hcut hcut'
    rw [passed_of_settles (x := { state := s }) rfl F.scan_nil hcut.short
        (by rw [hcut.flatten]; exact hsettles),
      passed_of_settles (x := { state := s }) rfl F.scan_nil hcut'.short
        (by rw [hcut'.flatten]; exact hsettles), hcut.flatten, hcut'.flatten]

end Session

end CollectiveScheduler.Foundation
