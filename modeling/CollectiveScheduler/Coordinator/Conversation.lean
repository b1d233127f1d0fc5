/-
  Coordinator/Conversation.lean --- what the parties of a network say to each other.

  The coordinator sends short answers and grants that it issued.  All of these fit into a
  frame and decode again, so a worker that takes them never leaves its loop and has
  answered each of them.  The invariant of a connection attributes every message on it:
  those to the peer to the coordinator's answers and issued grants, those of a worker to
  its prologue and to the grants it took.
-/
import CollectiveScheduler.Coordinator.Network
import CollectiveScheduler.Coordinator.Served

set_option autoImplicit false

namespace CollectiveScheduler

open Foundation

variable {D : Type}

/-! ## Sizes -/

theorem length_serializeGrant (g : CollectiveGrant) :
    (serializeGrant g).length = 258 + 8 * (g.participants.length + g.participantGens.length) := by
  have hsum : ∀ {α : Type} (l : List α), (l.map (fun _ => 8)).sum = 8 * l.length := fun l => by
    simp [Nat.mul_comm]
  simp only [serializeGrant, serializeEvidenceSnapshot, serializeRevalidation,
    PersistenceWriter.ident, PersistenceWriter.gen, PersistenceWriter.u64, PersistenceWriter.bool,
    PersistenceWriter.u8, PersistenceWriter.vec, List.length_flatten, List.map_cons, List.map_nil,
    List.sum_cons, List.sum_nil, List.length_append, length_littleEndian, List.map_map,
    Function.comp_def, List.length_cons, List.length_nil, hsum]
  omega

theorem length_serializeParticipant (p : Participant) :
    (serializeParticipant p).length = 103 := by
  simp [serializeParticipant, PersistenceWriter.ident, PersistenceWriter.gen,
    PersistenceWriter.u64, PersistenceWriter.u32, PersistenceWriter.bool, PersistenceWriter.u8]

theorem length_ident {d : IdDomain} (v : Id d) : (PersistenceWriter.ident v).length = 8 :=
  length_littleEndian 8 _

/-- A payload of at most 16 MiB is read back from its frame. -/
theorem Msg.legible {m : Msg} (h : m.payload.length ≤ Protocol.maxPayload) :
    Pipe.Legible Protocol.framer Msg.frame m := by
  intro t
  rw [Protocol.framer_scan, Msg.frame, Protocol.scanFrame_encodeFrame t m.type m.seq h]

/-- The bounds of the default policy allow 4096 participants. -/
theorem CollectiveGrant.Fits.length_lists {g : CollectiveGrant} (h : g.Fits {}) :
    g.participants.length ≤ 4096 ∧ g.participantGens.length ≤ 4096 := by
  have hbound : ({} : Bounds).maxParticipantsPerCollective.toNat = 4096 := by decide
  exact ⟨hbound ▸ h.participants, hbound ▸ h.participantGens⟩

/-- Such a grant leaves room for two identities in the payload. -/
theorem CollectiveGrant.Fits.length_le {g : CollectiveGrant} (h : g.Fits {}) :
    (serializeGrant g).length + 16 ≤ Protocol.maxPayload := by
  have hlists := h.length_lists
  rw [length_serializeGrant, Protocol.maxPayload]
  omega

theorem CollectiveGrant.Fits.decodes {g : CollectiveGrant} (h : g.Fits {}) :
    Reader.Decodes deserializeGrant (serializeGrant g) g := by
  have hlists := h.length_lists
  exact decodes_grant (by omega) (by omega)

/-! ## The messages of the coordinator -/

/-- What the coordinator sends: short answers, and grants it has issued. -/
inductive Msg.FromCoordinator (issued : List CollectiveGrant) : Msg → Prop where
  | hello (seq : UInt64) {payload : List UInt8} (h : payload.length ≤ 24) :
      FromCoordinator issued ⟨.hello, seq, payload⟩
  | error (seq : UInt64) {payload : List UInt8} (h : payload.length ≤ 8) :
      FromCoordinator issued ⟨.error, seq, payload⟩
  | grant (seq : UInt64) {g : CollectiveGrant} (h : g ∈ issued) :
      FromCoordinator issued ⟨.grant, seq, serializeGrant g⟩

namespace Msg.FromCoordinator

variable {issued issued' : List CollectiveGrant} {m : Msg}

theorem mono (h : FromCoordinator issued m) (hsub : issued ⊆ issued') :
    FromCoordinator issued' m := by
  cases h with
  | hello seq h => exact .hello seq h
  | error seq h => exact .error seq h
  | grant seq h => exact .grant seq (hsub h)

theorem legible (h : FromCoordinator issued m)
    (hfits : ∀ g ∈ issued, g.Fits {}) :
    Pipe.Legible Protocol.framer Msg.frame m := by
  refine Msg.legible ?_
  cases h with
  | hello seq h => exact h.trans (by decide)
  | error seq h => exact h.trans (by decide)
  | grant seq h => exact (Nat.le_add_right _ 16).trans (hfits _ h).length_le

end Msg.FromCoordinator

section Replies

variable {c c' : Coordinator D} {fd : Nat} {m : Msg}

/-- What the handling of a message other than QUERY_SCHEDULE sends and leaves alone. -/
structure Coordinator.Replied (c : Coordinator D) (fd : Nat) (c' : Coordinator D)
    (frames : List (Nat × Msg)) : Prop where
  frames : ∀ f ∈ frames, f.1 = fd ∧ ∀ issued, Msg.FromCoordinator issued f.2
  sessions : c'.sessions = c.sessions
  terminated : c'.terminated = c.terminated

namespace Coordinator

theorem Replied.none (hsessions : c'.sessions = c.sessions)
    (hterminated : c'.terminated = c.terminated) : c.Replied fd c' [] where
  frames _ hf := absurd hf List.not_mem_nil
  sessions := hsessions
  terminated := hterminated

theorem Replied.one (hm : ∀ issued, Msg.FromCoordinator issued m)
    (hsessions : c'.sessions = c.sessions) (hterminated : c'.terminated = c.terminated) :
    c.Replied fd c' [(fd, m)] where
  frames f hf := by
    rw [List.mem_singleton.mp hf]
    exact ⟨rfl, hm⟩
  sessions := hsessions
  terminated := hterminated

theorem Replied.call [Double D] {α : Type} (payload : Except SchedulerError α) (op : α → Op D) :
    c.Replied fd (c.call payload op) [] := by
  cases payload with
  | error e => exact .none rfl rfl
  | ok a => exact .none rfl rfl

/-- Only QUERY_SCHEDULE can throw. -/
theorem handleMessage_replied [Double D] (c : Coordinator D) (env : Env) (fd : Nat)
    (hm : m.type ≠ .querySchedule) :
    ∃ c' frames, c.handleMessage env fd m = some (c', frames) ∧ c.Replied fd c' frames := by
  unfold handleMessage
  cases htype : m.type with
  | querySchedule => exact absurd htype hm
  | hello => exact ⟨_, _, rfl, .one (fun _ => .hello m.seq (by decide)) rfl rfl⟩
  | register => exact ⟨_, _, rfl, .one (fun _ => .hello m.seq (by decide)) rfl rfl⟩
  | publishParticipant => exact ⟨_, _, rfl, .call _ _⟩
  | updatePlan => exact ⟨_, _, rfl, .call _ _⟩
  | updateCongestion => exact ⟨_, _, rfl, .call _ _⟩
  | updateReservation => exact ⟨_, _, rfl, .call _ _⟩
  | updateCapacity => exact ⟨_, _, rfl, .call _ _⟩
  | updateDependency => exact ⟨_, _, rfl, .call _ _⟩
  | submitCollective =>
      simp only
      split
      · exact ⟨_, _, rfl, .one (fun _ => .error m.seq (by decide)) rfl rfl⟩
      · split
        · refine ⟨_, _, rfl, .one (fun _ => .error m.seq ?_) rfl rfl⟩
          rw [length_ident]
        · exact ⟨_, _, rfl, .one (fun _ => .error m.seq (by decide)) rfl rfl⟩
  | complete =>
      simp only
      split
      · exact ⟨_, _, rfl, .none rfl rfl⟩
      · exact ⟨_, _, rfl, .none rfl rfl⟩
  | fenceWorker =>
      simp only
      split
      · exact ⟨_, _, rfl, .none rfl rfl⟩
      · exact ⟨_, _, rfl, .one (fun _ => .hello m.seq (by decide)) rfl rfl⟩
  | save =>
      simp only
      split_ifs
      · exact ⟨_, _, rfl, .none rfl rfl⟩
      · exact ⟨_, _, rfl, .none rfl rfl⟩
  | shutdown => exact ⟨_, _, rfl, .none rfl rfl⟩
  | _ => exact ⟨_, _, rfl, .none rfl rfl⟩

theorem length_summary (c : Coordinator D) (dec : ScheduleDecision D) :
    (c.summary dec).length = 24 := by
  simp [summary, PersistenceWriter.u64]

end Coordinator

end Replies

/-! ## The answers of a worker -/

namespace Worker

variable {w : Worker} {issued : List CollectiveGrant} {m : Msg}

/-- The answers to a message that does not make the reader throw. -/
def replies (w : Worker) (m : Msg) : List Msg := (w.answers m).getD []

/-- The answers to a grant. -/
theorem answers_grant {g : CollectiveGrant}
    (h : g.Fits {}) (w : Worker) (seq : UInt64) :
    w.answers ⟨.grant, seq, serializeGrant g⟩ = some (if w.concerns g then
      [Msg.executionAccepted seq g, Msg.complete (seq + 1) g w.boot sourceBoot] else []) := by
  have hread : (⟨.grant, seq, serializeGrant g⟩ : Msg).read deserializeGrant = .ok g :=
    Msg.read_of_decodes h.decodes
  simp only [answers, hread, h.open_, Bool.not_false, Bool.and_true]
  split_ifs <;> rfl

/-- A worker answers whatever the coordinator sends. -/
theorem answers_eq (h : Msg.FromCoordinator issued m)
    (hfits : ∀ g ∈ issued, g.Fits {}) :
    w.answers m = some (w.replies m) ∧ m.type ≠ .shutdown := by
  unfold replies
  cases h with
  | hello seq h => exact ⟨rfl, nofun⟩
  | error seq h => exact ⟨rfl, nofun⟩
  | grant seq h =>
      rw [answers_grant (hfits _ h), Option.getD_some]
      exact ⟨rfl, nofun⟩

theorem answerAll_eq {ms : List Msg} (h : ∀ m ∈ ms, Msg.FromCoordinator issued m)
    (hfits : ∀ g ∈ issued, g.Fits {}) :
    w.answerAll ms = (ms.flatMap w.replies, .looping) := by
  induction ms with
  | nil => rfl
  | cons m rest ih =>
      obtain ⟨hanswers, htype⟩ := answers_eq (w := w) (h m List.mem_cons_self) hfits
      have hrest := ih fun m' hm' => h m' (List.mem_cons_of_mem m hm')
      simp only [answerAll, hanswers, hrest, htype, false_and, if_false, List.flatMap_cons]

/-- What a worker sends in its loop. -/
theorem mem_replies {m' : Msg} (h : Msg.FromCoordinator issued m)
    (hfits : ∀ g ∈ issued, g.Fits {})
    (hm' : m' ∈ w.replies m) :
    ∃ g ∈ issued, w.concerns g = true ∧ (m' = Msg.executionAccepted m.seq g ∨
      m' = Msg.complete (m.seq + 1) g w.boot sourceBoot) := by
  unfold replies at hm'
  cases h with
  | hello seq h => cases hm'
  | error seq h => cases hm'
  | grant seq h =>
      rw [answers_grant (hfits _ h), Option.getD_some] at hm'
      split_ifs at hm' with hconcerns
      · refine ⟨_, h, hconcerns, ?_⟩
        simpa using hm'
      · cases hm'

theorem legible_replies {m' : Msg} (h : Msg.FromCoordinator issued m)
    (hfits : ∀ g ∈ issued, g.Fits {})
    (hm' : m' ∈ w.replies m) : Pipe.Legible Protocol.framer Msg.frame m' := by
  obtain ⟨g, hg, -, heq⟩ := mem_replies h hfits hm'
  have hlength := (hfits g hg).length_le
  refine Msg.legible ?_
  rcases heq with rfl | rfl <;>
    simp only [Msg.executionAccepted, Msg.complete, List.flatten_cons, List.flatten_nil,
      List.length_append, List.length_nil, length_ident] <;> omega

theorem legible_prologue (hm : m ∈ w.prologue) :
    Pipe.Legible Protocol.framer Msg.frame m := by
  refine Msg.legible ?_
  rcases List.mem_append.mp hm with hm | hm
  · rcases List.mem_cons.mp hm with rfl | hm
    · exact Nat.zero_le _
    · rw [List.mem_singleton.mp hm]
      simp [length_ident, Protocol.maxPayload]
  · obtain ⟨pid, -, rfl⟩ := List.mem_map.mp hm
    rw [length_serializeParticipant]
    decide

theorem legible_farewell : Pipe.Legible Protocol.framer Msg.frame farewell :=
  Msg.legible (Nat.zero_le _)

/-- A worker does not send SHUTDOWN, COMPLETE or QUERY_SCHEDULE first. -/
theorem type_prologue (hm : m ∈ w.prologue) :
    m.type = .hello ∨ m.type = .register ∨ m.type = .publishParticipant := by
  rcases List.mem_append.mp hm with hm | hm
  · rcases List.mem_cons.mp hm with rfl | hm
    · exact .inl rfl
    · rw [List.mem_singleton.mp hm]
      exact .inr (.inl rfl)
  · obtain ⟨pid, -, rfl⟩ := List.mem_map.mp hm
    exact .inr (.inr rfl)

end Worker

/-! ## Connections -/

namespace Network

namespace Link

variable {issued issued' : List CollectiveGrant} {l : Link D} {w : Worker}

/-- What a worker says that has left its loop. -/
def lastWords (l : Link D) : List Msg := if l.status = .left then [Worker.farewell] else []

/-- The worker has answered what it took, and it leaves its loop only when its session is
closed. -/
structure Talks (l : Link D) (w : Worker) : Prop where
  faithful : l.up.Faithful Protocol.framer Msg.frame
  spoken : l.up.sent = w.prologue ++ l.down.taken.flatMap w.replies ++ l.lastWords
  intact : l.status ≠ .crashed
  stays : l.status = .left → l.phase.isOpen = false

/-- What holds of a connection. -/
structure Sound (issued : List CollectiveGrant) (l : Link D) : Prop where
  faithful : l.down.Faithful Protocol.framer Msg.frame
  attributed : ∀ m ∈ l.down.sent, Msg.FromCoordinator issued m
  pending : l.phase.pending <:+ l.up.taken
  talks : ∀ w, l.peer = .worker w → l.Talks w

theorem Sound.mono (h : l.Sound issued) (hsub : issued ⊆ issued') : l.Sound issued' where
  faithful := h.faithful
  attributed m hm := (h.attributed m hm).mono hsub
  pending := h.pending
  talks := h.talks

/-- A connection that was just accepted. -/
theorem Sound.opened (peer : Peer) : (Link.opened peer : Link D).Sound issued := by
  cases peer with
  | client =>
      exact
        { faithful := .empty
          attributed := fun _ hm => absurd hm List.not_mem_nil
          pending := List.suffix_refl _
          talks := fun _ hpeer => by cases hpeer }
  | worker w =>
      refine
        { faithful := .empty
          attributed := fun _ hm => absurd hm List.not_mem_nil
          pending := List.suffix_refl _
          talks := fun w' hpeer => ?_ }
      cases hpeer
      exact
        { faithful := Pipe.Faithful.empty.write fun m hm => Worker.legible_prologue hm
          spoken := by simp [Link.opened, Pipe.write, lastWords]
          intact := nofun
          stays := nofun }

/-- The session goes on to another place in its loop. -/
theorem Sound.move (h : l.Sound issued) {phase : Phase D} (hpending : phase.pending <:+ l.up.taken)
    (hopen : phase.isOpen = true → l.phase.isOpen = true) :
    ({ l with phase := phase } : Link D).Sound issued where
  faithful := h.faithful
  attributed := h.attributed
  pending := hpending
  talks w hpeer :=
    { faithful := (h.talks w hpeer).faithful
      spoken := (h.talks w hpeer).spoken
      intact := (h.talks w hpeer).intact
      stays := fun hleft => by
        have hclosed := (h.talks w hpeer).stays hleft
        rw [← Bool.not_eq_true] at hclosed ⊢
        exact mt hopen hclosed }

/-- A client writes. -/
theorem Sound.push (h : l.Sound issued) (hpeer : l.peer = .client) (bytes : List UInt8) :
    ({ l with up := l.up.push bytes } : Link D).Sound issued where
  faithful := h.faithful
  attributed := h.attributed
  pending := h.pending
  talks w hw := by cases hpeer.symm.trans hw

/-- The coordinator writes. -/
theorem Sound.tell (h : l.Sound issued) {ms : List Msg}
    (hms : ∀ m ∈ ms, Msg.FromCoordinator issued m) (hfits : ∀ g ∈ issued, g.Fits {}) :
    ({ l with down := l.down.write Msg.frame ms } : Link D).Sound issued where
  faithful := h.faithful.write fun m hm => (hms m hm).legible hfits
  attributed m hm := (List.mem_append.mp hm).elim (h.attributed m) (hms m)
  pending := h.pending
  talks w hpeer := ⟨(h.talks w hpeer).faithful, (h.talks w hpeer).spoken,
    (h.talks w hpeer).intact, (h.talks w hpeer).stays⟩

/-- The session receives. -/
theorem Sound.receive (h : l.Sound issued) (hopen : l.phase.isOpen = true) (n : Nat) :
    ({ l with
      up := l.up.read Protocol.framer n
      phase := .handling (l.up.arriving Protocol.framer n) } : Link D).Sound issued where
  faithful := h.faithful
  attributed := h.attributed
  pending := List.suffix_append _ _
  talks w hpeer :=
    { faithful := (h.talks w hpeer).faithful.read n
      spoken := (h.talks w hpeer).spoken
      intact := (h.talks w hpeer).intact
      stays := fun hleft => by
        rw [(h.talks w hpeer).stays hleft] at hopen
        cases hopen }

/-- A worker in its loop receives and answers. -/
theorem Sound.answer (h : l.Sound issued) (hpeer : l.peer = .worker w)
    (hlooping : l.status = .looping) (hfits : ∀ g ∈ issued, g.Fits {}) (n : Nat) :
    ({ l with
      down := l.down.read Protocol.framer n
      up := l.up.write Msg.frame ((l.down.arriving Protocol.framer n).flatMap w.replies) } :
      Link D).Sound issued where
  faithful := h.faithful.read n
  attributed := h.attributed
  pending := h.pending
  talks w' hpeer' := by
    cases hpeer.symm.trans hpeer'
    have htalks := h.talks w hpeer
    refine ⟨htalks.faithful.write fun m' hm' => ?_, ?_, htalks.intact, htalks.stays⟩
    · obtain ⟨m, hm, hreply⟩ := List.mem_flatMap.mp hm'
      exact Worker.legible_replies
        (h.attributed m (h.faithful.mem_sent_of_arriving n m hm)) hfits hreply
    · have hsilent : l.lastWords = [] := if_neg (by rw [hlooping]; decide)
      have hspoken := htalks.spoken
      rw [hsilent, List.append_nil] at hspoken
      have hsilent' : ∀ up down, ({ l with up := up, down := down } : Link D).lastWords = [] :=
        fun _ _ => hsilent
      simp only [Pipe.write, Pipe.read, hspoken, hsilent', List.flatMap_append,
        List.append_assoc, List.append_nil]

/-- A worker leaves its loop, as its session is closed and nothing is on its way. -/
theorem Sound.leave (h : l.Sound issued) (hpeer : l.peer = .worker w)
    (hlooping : l.status = .looping) (hclosed : l.phase.isOpen = false) :
    ({ l with
      up := l.up.write Msg.frame [Worker.farewell]
      status := .left } : Link D).Sound issued where
  faithful := h.faithful
  attributed := h.attributed
  pending := h.pending
  talks w' hpeer' := by
    cases hpeer.symm.trans hpeer'
    have htalks := h.talks w hpeer
    refine ⟨htalks.faithful.write fun m hm => ?_, ?_, nofun, fun _ => hclosed⟩
    · rw [List.mem_singleton.mp hm]
      exact Worker.legible_farewell
    · have hsilent : l.lastWords = [] := if_neg (by rw [hlooping]; decide)
      have hspoken := htalks.spoken
      rw [hsilent, List.append_nil] at hspoken
      exact congrArg (· ++ [Worker.farewell]) hspoken

end Link

end Network

end CollectiveScheduler
