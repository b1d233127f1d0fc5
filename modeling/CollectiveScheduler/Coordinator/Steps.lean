/-
  Coordinator/Steps.lean --- the invariant of a network.

  The scheduler of the coordinator is that of a deployment, no exception has left the
  handling of a message, the list of sessions holds the open ones once each, and every
  connection is sound.  In such a network a step is one of a few: what each party can do
  is said once, by the constructors of `Network.Step`, and the invariant and what is
  proved about runs follow from these cases.
-/
import CollectiveScheduler.Coordinator.Conversation

set_option autoImplicit false

namespace CollectiveScheduler

open Foundation

variable {D : Type}

/-! ## Turns and frames -/

/-- A turn of the loop of a worker, with bytes of a faithful pipe. -/
theorem Worker.turn_eq {w : Worker} {issued : List CollectiveGrant} {buf chunk : List UInt8}
    (hchunk : chunk ≠ []) (hbroken : ¬Protocol.framer.Broken (buf ++ chunk))
    (hms : ∀ m ∈ (Protocol.framer.split (buf ++ chunk)).1, Msg.FromCoordinator issued m)
    (hfits : ∀ g ∈ issued, g.Fits {}) :
    w.turn buf chunk = ((Protocol.framer.split (buf ++ chunk)).2, .looping,
      (Protocol.framer.split (buf ++ chunk)).1.flatMap w.replies) := by
  simp only [turn, if_neg hchunk, Protocol.decodeFrames_eq, if_neg hbroken, List.nil_append,
    answerAll_eq hms hfits]

namespace Network

theorem messagesFor_append (fd : Nat) (frames frames' : List (Nat × Msg)) :
    messagesFor fd (frames ++ frames') = messagesFor fd frames ++ messagesFor fd frames' := by
  simp only [messagesFor, List.filter_append, List.map_append]

/-- Every connection is told the messages that are for it. -/
theorem find?_send (links : FinMap Nat (Link D)) (frames : List (Nat × Msg)) (fd : Nat) :
    (send links frames).find? fd = (links.find? fd).map (fun l =>
      { l with down := l.down.write Msg.frame (messagesFor fd frames) }) := by
  induction frames generalizing links with
  | nil =>
      have hnil : messagesFor fd [] = [] := rfl
      simp only [send, List.foldl_nil, hnil, Pipe.write_nil, Option.map_id']
  | cons f rest ih =>
      have hstep : send links (f :: rest) = send (links.modify f.1 (fun l =>
        { l with down := l.down.write Msg.frame [f.2] })) rest := rfl
      rw [hstep, ih, FinMap.find?_modify]
      by_cases hfd : fd = f.1
      · have hfor : messagesFor fd (f :: rest) = [f.2] ++ messagesFor fd rest := by
          simp [messagesFor, hfd]
        rw [if_pos hfd, Option.map_map, hfor]
        simp only [Function.comp_def, Pipe.write_write]
      · have hfor : messagesFor fd (f :: rest) = messagesFor fd rest := by
          simp [messagesFor, Ne.symm hfd]
        rw [if_neg hfd, hfor]

theorem Phase.head_eq_some {phase : Phase D} {m : Msg} {rest : List Msg} :
    phase.head = some (m, rest) ↔ phase = .handling (m :: rest) := by
  constructor
  · intro h
    unfold head at h
    split at h
    · cases h
      rfl
    · cases h
  · rintro rfl
    rfl

variable [Double D]

/-! ## The invariant -/

/-- What holds of a network. -/
structure Sound (net : Network D) : Prop where
  deployed : net.coordinator.sys.Deployed
  alive : net.coordinator.terminated = false
  distinct : net.coordinator.sessions.Nodup
  sessions : ∀ fd, fd ∈ net.coordinator.sessions ↔
    ∃ l, net.links.find? fd = some l ∧ l.phase.isOpen = true
  links : ∀ fd l, net.links.find? fd = some l → l.Sound net.coordinator.sys.issued

namespace Sound

variable {net : Network D} {fd : Nat} {l : Link D}

theorem fits (h : net.Sound) : ∀ g ∈ net.coordinator.sys.issued, g.Fits {} := by
  have hfits := h.deployed.issued
  rw [h.deployed.policy] at hfits
  exact hfits

/-- A coordinator that nobody has connected to. -/
theorem opened {c : Coordinator D} (hdeployed : c.sys.Deployed) (hsessions : c.sessions = [])
    (halive : c.terminated = false) : ({ coordinator := c } : Network D).Sound where
  deployed := hdeployed
  alive := halive
  distinct := hsessions.symm ▸ List.nodup_nil
  sessions fd := by
    rw [hsessions]
    exact ⟨fun hfd => absurd hfd List.not_mem_nil, by
      rintro ⟨l, hfind, -⟩
      cases hfind⟩
  links fd l hfind := by cases hfind

/-- One connection changes, and its session stays open or closed. -/
theorem insert (h : net.Sound) (hfind : net.links.find? fd = some l) {l' : Link D}
    (hsound : l'.Sound net.coordinator.sys.issued)
    (hopen : l'.phase.isOpen = l.phase.isOpen) :
    ({ net with links := net.links.insert fd l' } : Network D).Sound where
  deployed := h.deployed
  alive := h.alive
  distinct := h.distinct
  sessions fd' := by
    rw [h.sessions, FinMap.find?_insert]
    split_ifs with hfd
    · rw [hfd, hfind]
      simp only [Option.some.injEq, exists_eq_left', hopen]
    · rfl
  links fd' l'' hfind' := by
    rw [FinMap.find?_insert] at hfind'
    split_ifs at hfind' with hfd
    · rw [← Option.some.inj hfind']
      exact hsound
    · exact h.links fd' l'' hfind'

/-- A session leaves its loop. -/
theorem close (h : net.Sound) (hfind : net.links.find? fd = some l) :
    (net.close fd l).Sound where
  deployed := h.deployed
  alive := h.alive
  distinct := h.distinct.filter _
  sessions fd' := by
    simp only [Network.close, List.mem_filter, decide_eq_true_eq, FinMap.find?_insert, h.sessions]
    by_cases hfd : fd' = fd
    · simp [hfd, Phase.isOpen]
    · simp [hfd]
  links fd' l' hfind' := by
    simp only [Network.close, FinMap.find?_insert] at hfind'
    split_ifs at hfind' with hfd
    · rw [← Option.some.inj hfind']
      exact (h.links fd l hfind).move List.nil_suffix nofun
    · exact h.links fd' l' hfind'

/-- The scheduler serves a call. -/
theorem serve (h : net.Sound) {c : Coordinator D}
    (hsys : c.sys = net.coordinator.sys ∨
      ∃ op : Op D, op.isServed = true ∧ c.sys = net.coordinator.sys.next op)
    (hsessions : c.sessions = net.coordinator.sessions)
    (halive : c.terminated = net.coordinator.terminated) :
    ({ net with coordinator := c } : Network D).Sound := by
  have hdeployed : c.sys.Deployed := by
    rcases hsys with hsame | ⟨op, hserved, hnext⟩
    · exact hsame ▸ h.deployed
    · exact hnext ▸ h.deployed.next hserved
  have hissued : net.coordinator.sys.issued ⊆ c.sys.issued := by
    rcases hsys with hsame | ⟨op, -, hnext⟩
    · rw [hsame]
      exact List.Subset.refl _
    · rw [hnext]
      exact fun g hg => System.mem_issued_next hg op
  exact
    { deployed := hdeployed
      alive := halive.trans h.alive
      distinct := hsessions.symm ▸ h.distinct
      sessions := fun fd => by rw [hsessions, h.sessions]
      links := fun fd l hfind => (h.links fd l hfind).mono hissued }

/-- The coordinator sends frames. -/
theorem send (h : net.Sound) {frames : List (Nat × Msg)}
    (hframes : ∀ f ∈ frames, Msg.FromCoordinator net.coordinator.sys.issued f.2) :
    ({ net with links := Network.send net.links frames } : Network D).Sound where
  deployed := h.deployed
  alive := h.alive
  distinct := h.distinct
  sessions fd := by
    simp only [find?_send, Option.map_eq_some_iff]
    rw [h.sessions]
    constructor
    · rintro ⟨l, hfind, hopen⟩
      exact ⟨_, ⟨l, hfind, rfl⟩, hopen⟩
    · rintro ⟨_, ⟨l, hfind, rfl⟩, hopen⟩
      exact ⟨l, hfind, hopen⟩
  links fd l hfind := by
    simp only [find?_send, Option.map_eq_some_iff] at hfind
    obtain ⟨l₀, hfind₀, rfl⟩ := hfind
    refine (h.links fd l₀ hfind₀).tell (fun m hm => ?_) h.fits
    obtain ⟨f, hf, rfl⟩ := List.mem_map.mp hm
    exact hframes f (List.mem_of_mem_filter hf)

end Sound

/-! ## The steps -/

/-- What a step of the network can be. -/
inductive Step (net : Network D) : Action → Network D → Prop where
  | idle (a : Action) : Step net a net
  | connect {fd : Nat} (peer : Peer)
      (hfree : ∀ l, net.links.find? fd = some l → l.phase.isOpen = false) :
      Step net (.connect fd peer)
        { coordinator := { net.coordinator with sessions := net.coordinator.sessions ++ [fd] }
          links := net.links.insert fd (.opened peer) }
  | write {fd : Nat} {l : Link D} (bytes : List UInt8) (hfind : net.links.find? fd = some l)
      (hpeer : l.peer = .client) :
      Step net (.write fd bytes)
        { net with links := net.links.insert fd { l with up := l.up.push bytes } }
  | proceed {fd : Nat} {l : Link D} (hfind : net.links.find? fd = some l)
      (hphase : l.phase = .testing) :
      Step net (.test fd)
        { net with links := net.links.insert fd { l with phase := .receiving } }
  | stop {fd : Nat} {l : Link D} (hfind : net.links.find? fd = some l)
      (hphase : l.phase = .testing) (hstopped : net.coordinator.running = false) :
      Step net (.test fd) (net.close fd l)
  | receive {fd n : Nat} {l : Link D} (hfind : net.links.find? fd = some l)
      (hphase : l.phase = .receiving)
      (hwhole : ¬Protocol.framer.Broken
        (l.up.buffer ++ l.up.transit.take (min n Coordinator.recvLimit))) :
      Step net (.recv fd n)
        { net with
          links := net.links.insert fd { l with
            up := l.up.read Protocol.framer (min n Coordinator.recvLimit)
            phase := .handling (l.up.arriving Protocol.framer (min n Coordinator.recvLimit)) } }
  /-- the session meets a malformed frame, or its peer is gone -/
  | drop {a : Action} {fd : Nat} {l : Link D} (hfind : net.links.find? fd = some l)
      (hphase : l.phase = .receiving) : Step net a (net.close fd l)
  | turn {fd : Nat} {l : Link D} (env : Coordinator.Env) (hfind : net.links.find? fd = some l)
      (hphase : l.phase = .handling []) :
      Step net (.handle fd env)
        { net with links := net.links.insert fd { l with phase := .testing } }
  | round {fd : Nat} {l : Link D} {env : Coordinator.Env} {m : Msg} {rest : List Msg}
      {dec : ScheduleDecision D} (hfind : net.links.find? fd = some l)
      (hphase : l.phase = .handling (m :: rest)) (hm : m.type = .querySchedule)
      (hdecided : net.coordinator.sys.outcome (.schedule env.recordOrder env.grantOrder) =
        .decided dec) :
      Step net (.handle fd env)
        { coordinator := { net.coordinator with
            sys := net.coordinator.sys.next (.schedule env.recordOrder env.grantOrder) }
          links := net.links.insert fd { l with phase := .broadcasting m.seq dec rest } }
  | message {fd : Nat} {l : Link D} {env : Coordinator.Env} {m : Msg} {rest : List Msg}
      {c : Coordinator D} {frames : List (Nat × Msg)} (hfind : net.links.find? fd = some l)
      (hphase : l.phase = .handling (m :: rest)) (hm : m.type ≠ .querySchedule)
      (hhandle : net.coordinator.handleMessage env fd m = some (c, frames))
      (hreplied : net.coordinator.Replied fd c frames) :
      Step net (.handle fd env)
        { coordinator := c
          links := send (net.links.insert fd { l with phase := .handling rest }) frames }
  | broadcast {fd : Nat} {l : Link D} {seq : UInt64} {dec : ScheduleDecision D}
      {rest : List Msg} (env : Coordinator.Env) (hfind : net.links.find? fd = some l)
      (hphase : l.phase = .broadcasting seq dec rest) :
      Step net (.handle fd env) (net.broadcast fd l seq dec rest)
  | answer {fd n : Nat} {l : Link D} {w : Worker} (hfind : net.links.find? fd = some l)
      (hpeer : l.peer = .worker w) (hlooping : l.status = .looping) :
      Step net (.workerRecv fd n)
        { net with
          links := net.links.insert fd { l with
            down := l.down.read Protocol.framer (min n Coordinator.recvLimit)
            up := l.up.write Msg.frame ((l.down.arriving Protocol.framer
              (min n Coordinator.recvLimit)).flatMap w.replies) } }
  | leave {fd n : Nat} {l : Link D} {w : Worker} (hfind : net.links.find? fd = some l)
      (hpeer : l.peer = .worker w) (hlooping : l.status = .looping)
      (hclosed : l.phase.isOpen = false) :
      Step net (.workerRecv fd n)
        { net with
          links := net.links.insert fd { l with
            up := l.up.write Msg.frame [Worker.farewell]
            status := .left } }

namespace Sound

variable {net : Network D} {fd : Nat} {l : Link D}

/-- The next message of a session. -/
theorem step_handleNext (h : net.Sound) (hfind : net.links.find? fd = some l)
    (env : Coordinator.Env) {m : Msg} {rest : List Msg} (hphase : l.phase = .handling (m :: rest)) :
    net.Step (.handle fd env) (net.handleNext fd l env m rest) := by
  unfold handleNext
  by_cases hm : m.type = .querySchedule
  · obtain ⟨s, dec, created, hround⟩ :=
      Scheduler.scheduleRound_isOk h.deployed.orderly.settled env.recordOrder env.grantOrder
    have hdecided := (System.Deployed.next_schedule hround).2
    rw [if_pos hm, hdecided]
    exact .round hfind hphase hm hdecided
  · obtain ⟨c, frames, hhandle, hreplied⟩ :=
      net.coordinator.handleMessage_replied env fd hm
    rw [if_neg hm]
    simp only [hhandle]
    exact .message hfind hphase hm hhandle hreplied

/-- A worker in its loop receives. -/
theorem step_turn (h : net.Sound) (hfind : net.links.find? fd = some l) {w : Worker}
    (hpeer : l.peer = .worker w) (hlooping : l.status = .looping) (n : Nat)
    (hreads : ¬(l.down.transit.take (min n Coordinator.recvLimit) = [] ∧ l.phase.isOpen = true)) :
    net.Step (.workerRecv fd n)
      (match w.turn l.down.buffer (l.down.transit.take (min n Coordinator.recvLimit)) with
      | (buffer, status, sent) =>
          { net with
            links := net.links.insert fd { l with
              down := { l.down with
                taken := l.down.taken ++ (Protocol.framer.split (l.down.buffer ++
                  l.down.transit.take (min n Coordinator.recvLimit))).1
                buffer := buffer
                transit := l.down.transit.drop (min n Coordinator.recvLimit) }
              up := l.up.write Msg.frame sent
              status := status } }) := by
  have hlink := h.links fd l hfind
  by_cases hchunk : l.down.transit.take (min n Coordinator.recvLimit) = []
  · have hclosed : l.phase.isOpen = false := by
      rw [← Bool.not_eq_true]
      exact fun hopen => hreads ⟨hchunk, hopen⟩
    have hdrop : l.down.transit.drop (min n Coordinator.recvLimit) = l.down.transit := by
      have hwhole := List.take_append_drop (min n Coordinator.recvLimit) l.down.transit
      rw [hchunk, List.nil_append] at hwhole
      exact hwhole
    rw [hchunk, List.append_nil, hdrop, Framer.split_incomplete hlink.faithful.waits,
      List.append_nil]
    exact .leave hfind hpeer hlooping hclosed
  · rw [Worker.turn_eq hchunk (hlink.faithful.not_broken _)
      (fun m hm => hlink.attributed m (hlink.faithful.mem_sent_of_arriving _ m hm)) h.fits,
      ← hlooping]
    exact .answer hfind hpeer hlooping

/-- In a sound network every step is one of these. -/
theorem step (h : net.Sound) (a : Action) : net.Step a (net.next a) := by
  cases a with
  | connect fd peer =>
      simp only [Network.next]
      split_ifs with hopen
      · exact .idle _
      · refine .connect peer fun l hfind => ?_
        rw [hfind, Option.any_some, Bool.not_eq_true] at hopen
        exact hopen
  | write fd bytes =>
      simp only [Network.next]
      split
      · rename_i l hfind
        split
        · rename_i hpeer
          exact .write bytes hfind hpeer
        · exact .idle _
      · exact .idle _
  | test fd =>
      simp only [Network.next]
      split
      · rename_i l hfind
        split
        · rename_i hphase
          split_ifs with hrunning
          · exact .proceed hfind hphase
          · exact .stop hfind hphase (Bool.not_eq_true _ ▸ hrunning)
        · exact .idle _
      · exact .idle _
  | recv fd n =>
      simp only [Network.next]
      split
      · rename_i l hfind
        split
        · rename_i hphase
          split_ifs
          · exact .idle _
          · rw [Protocol.decodeFrames_eq]
            split_ifs with hbroken
            · exact .drop hfind hphase
            · exact .receive hfind hphase hbroken
        · exact .idle _
      · exact .idle _
  | hangUp fd =>
      simp only [Network.next]
      split
      · rename_i l hfind
        split
        · rename_i hphase
          exact .drop hfind hphase
        · exact .idle _
      · exact .idle _
  | handle fd env =>
      simp only [Network.next, h.alive, Bool.false_eq_true, if_false]
      split
      · rename_i l hfind
        split
        · rename_i hphase
          exact .turn env hfind hphase
        · rename_i m rest hphase
          exact h.step_handleNext hfind env hphase
        · rename_i seq dec rest hphase
          exact .broadcast env hfind hphase
        · exact .idle _
      · exact .idle _
  | workerRecv fd n =>
      simp only [Network.next]
      split
      · rename_i l hfind
        split
        · rename_i w hpeer hlooping
          split_ifs with hwaits
          · exact .idle _
          · exact h.step_turn hfind hpeer hlooping n hwaits
        · exact .idle _
      · exact .idle _

/-! ## The steps keep the invariant -/

/-- A broadcast sends grants of the table and a summary. -/
theorem broadcastFrames (h : net.Sound) (fd : Nat) (seq : UInt64) (dec : ScheduleDecision D) :
    ∀ f ∈ Network.broadcastFrames net.coordinator fd seq dec,
      Msg.FromCoordinator net.coordinator.sys.issued f.2 := by
  intro f hf
  rcases List.mem_append.mp hf with hf | hf
  · obtain ⟨g, hg, hf⟩ := List.mem_flatMap.mp hf
    obtain ⟨sess, -, rfl⟩ := List.mem_map.mp hf
    obtain ⟨gid, -, hstored⟩ := List.mem_filterMap.mp hg
    obtain ⟨gs, hentry, rfl⟩ := Option.map_eq_some_iff.mp hstored
    exact .grant seq (h.deployed.entries gid gs hentry)
  · rw [List.mem_singleton.mp hf]
    exact .hello seq (Coordinator.length_summary _ _).le

theorem connect (h : net.Sound) (peer : Peer)
    (hfree : ∀ l, net.links.find? fd = some l → l.phase.isOpen = false) :
    ({ coordinator := { net.coordinator with sessions := net.coordinator.sessions ++ [fd] }
       links := net.links.insert fd (.opened peer) } : Network D).Sound := by
  have hclosed : ¬∃ l, net.links.find? fd = some l ∧ l.phase.isOpen = true := by
    rintro ⟨l, hfind, hopen⟩
    rw [hfree l hfind] at hopen
    cases hopen
  have hopened : (Link.opened peer : Link D).phase.isOpen = true := by cases peer <;> rfl
  refine ⟨h.deployed, h.alive, ?_, fun fd' => ?_, fun fd' l' hfind' => ?_⟩
  · refine List.Nodup.append h.distinct (List.nodup_singleton fd) ?_
    rw [List.disjoint_singleton, h.sessions]
    exact hclosed
  · rw [List.mem_append, h.sessions, List.mem_singleton, FinMap.find?_insert]
    by_cases hfd : fd' = fd
    · simp [hfd, hopened]
    · simp [hfd]
  · rw [FinMap.find?_insert] at hfind'
    split_ifs at hfind' with hfd
    · rw [← Option.some.inj hfind']
      exact .opened peer
    · exact h.links fd' l' hfind'

/-- A session goes on with what is left of its messages. -/
theorem advance (h : net.Sound) (hfind : net.links.find? fd = some l)
    (hopen : l.phase.isOpen = true) (phase : Phase D)
    (hpending : phase.pending <:+ l.phase.pending) (hphase : phase.isOpen = true) :
    ({ net with links := net.links.insert fd { l with phase := phase } } : Network D).Sound :=
  h.insert hfind
    ((h.links fd l hfind).move (hpending.trans (h.links fd l hfind).pending) fun _ => hopen)
    (hphase.trans hopen.symm)

/-- Every step keeps the network sound. -/
theorem next (h : net.Sound) (a : Action) : (net.next a).Sound := by
  have hsteps := h.step a
  generalize net.next a = net' at hsteps
  cases hsteps with
  | idle => exact h
  | connect peer hfree => exact h.connect peer hfree
  | write bytes hfind hpeer => exact h.insert hfind ((h.links _ _ hfind).push hpeer bytes) rfl
  | proceed hfind hphase => exact h.advance hfind (by rw [hphase]; rfl) _ List.nil_suffix rfl
  | stop hfind hphase hstopped => exact h.close hfind
  | @receive fd n l hfind hphase hwhole =>
      have hopen : l.phase.isOpen = true := by rw [hphase]; rfl
      exact h.insert hfind ((h.links _ _ hfind).receive hopen _) hopen.symm
  | drop hfind hphase => exact h.close hfind
  | turn env hfind hphase => exact h.advance hfind (by rw [hphase]; rfl) _ List.nil_suffix rfl
  | @round fd l env m rest dec hfind hphase hm hdecided =>
      have hserved := h.serve (c := { net.coordinator with
        sys := net.coordinator.sys.next (.schedule env.recordOrder env.grantOrder) })
        (.inr ⟨.schedule env.recordOrder env.grantOrder, rfl, rfl⟩) rfl rfl
      refine hserved.advance hfind (by rw [hphase]; rfl) _ ?_ rfl
      rw [hphase]
      exact List.suffix_cons m rest
  | @message fd l env m rest c frames hfind hphase hm hhandle hreplied =>
      have hserved := h.serve (Coordinator.handleMessage_handled hhandle).sys hreplied.sessions
        hreplied.terminated
      have hadvanced := hserved.advance hfind (by rw [hphase]; rfl) (.handling rest)
        (by rw [hphase]; exact List.suffix_cons m rest) rfl
      exact hadvanced.send fun f hf => (hreplied.frames f hf).2 _
  | @broadcast fd l seq dec rest env hfind hphase =>
      have hcounted := h.serve (c := counted net.coordinator dec) (.inl rfl) rfl rfl
      have hadvanced := hcounted.advance hfind (by rw [hphase]; rfl) (.handling rest)
        (by rw [hphase]; exact List.suffix_refl rest) rfl
      exact hadvanced.send (h.broadcastFrames fd seq dec)
  | answer hfind hpeer hlooping =>
      exact h.insert hfind ((h.links _ _ hfind).answer hpeer hlooping h.fits _) rfl
  | leave hfind hpeer hlooping hclosed =>
      exact h.insert hfind ((h.links _ _ hfind).leave hpeer hlooping hclosed) rfl

/-- Every run keeps the network sound. -/
theorem run (h : net.Sound) (actions : List Action) : (net.run actions).Sound :=
  Runs.exec_induct (fun _ a hnet => hnet.next a) actions h

/-- A step calls the scheduler at most once. -/
theorem serves (h : net.Sound) (a : Action) :
    (net.next a).coordinator.sys = net.coordinator.sys ∨
      ∃ op : Op D, op.isServed = true ∧
        (net.next a).coordinator.sys = net.coordinator.sys.next op := by
  have hsteps := h.step a
  generalize net.next a = net' at hsteps
  cases hsteps with
  | @round fd l env m rest dec hfind hphase hm hdecided =>
      exact .inr ⟨.schedule env.recordOrder env.grantOrder, rfl, rfl⟩
  | message hfind hphase hm hhandle hreplied =>
      exact (Coordinator.handleMessage_handled hhandle).sys
  | _ => exact .inl rfl

end Sound

end Network

end CollectiveScheduler
