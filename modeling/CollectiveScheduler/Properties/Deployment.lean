/-
  Properties/Deployment.lean --- a coordinator with workers and clients.

  The clients may write any bytes, and the steps of the parties interleave in any way.
  A worker answers every grant that reaches it once and in order, and it stays in its
  loop while its session is open; nothing that is sent brings the coordinator down; the
  scheduler behind it goes through a run of atomic calls; and the two sections of
  QUERY_SCHEDULE act as one.  The coordinator may have been restarted any number of times
  before.

  All of it rests on the steps of `Network`: frames that several threads send on one
  socket do not mix, and a broadcast reads its grants and sends them in one step.
-/
import CollectiveScheduler.Coordinator.Site
import CollectiveScheduler.Properties.CoordinatorCompletion
import CollectiveScheduler.Properties.FreshGrants
import CollectiveScheduler.System.Barred

set_option autoImplicit false

namespace CollectiveScheduler

open Foundation

variable {D : Type} [Double D]

namespace Network

/-- Some run of steps and restarts leads to the network. -/
def Reached (net : Network D) : Prop :=
  ∃ epoch persists actions, net = ((Site.start epoch persists).run actions).net

namespace Reached

variable {net : Network D}

theorem start (epoch : CoordinatorEpoch) (persists : Bool) :
    (Network.start (D := D) epoch persists).Reached := ⟨epoch, persists, [], rfl⟩

theorem next (h : net.Reached) (a : Action) : (net.next a).Reached := by
  obtain ⟨epoch, persists, actions, rfl⟩ := h
  refine ⟨epoch, persists, actions ++ [.step a], ?_⟩
  rw [Site.run, Site.run, Runs.exec_append]
  rfl

theorem run (h : net.Reached) (actions : List Action) : (net.run actions).Reached :=
  Runs.exec_induct (fun _ a hnet => hnet.next a) actions h

theorem sound (h : net.Reached) : net.Sound := by
  obtain ⟨epoch, persists, actions, rfl⟩ := h
  exact ((Site.Sound.start epoch persists).run actions).net

theorem attested (h : net.Reached) : net.coordinator.sys.Attested := by
  obtain ⟨epoch, persists, actions, rfl⟩ := h
  exact ((Site.Sound.start epoch persists).run actions).attested

/-- What a coordinator has that nobody has connected to, and every step keeps. -/
theorem induct {P : Network D → Prop}
    (hopened : ∀ epoch persists file, P { coordinator := Coordinator.start epoch persists file })
    (hstep : ∀ net a, net.Sound → P net → P (net.next a)) (h : net.Reached) : P net := by
  obtain ⟨epoch, persists, actions, rfl⟩ := h
  refine (Runs.exec_induct (P := fun site : Site D => site.Sound ∧ P site.net)
    (fun site a hsite => ⟨hsite.1.next a, ?_⟩) actions
    ⟨.start epoch persists, hopened epoch persists none⟩).2
  cases a with
  | step a => exact hstep site.net a hsite.1.net hsite.2
  | restart epoch => exact hopened _ _ _
  | restartSaving a n epoch =>
      simp only [Site.next]
      split
      · exact hopened _ _ _
      · exact hsite.2

end Reached

/-! ## Workers -/

/-- Every worker has answered what it took, message by message: a grant that names one of
its participants by EXECUTION_ACCEPTED and COMPLETE with its own boot, anything else by
nothing.  It never crashes, and while its session is open it does not leave its loop.
What is not on its way any more has been taken. -/
theorem worker_answers_every_grant {net : Network D} (hnet : net.Reached) {fd : Nat} {l : Link D}
    (hfind : net.links.find? fd = some l) {w : Worker} (hpeer : l.peer = .worker w) :
    (∀ m ∈ l.down.sent, m.FromCoordinator net.coordinator.sys.issued) ∧
      l.down.taken <+: l.down.sent ∧ (l.down.transit = [] → l.down.taken = l.down.sent) ∧
      l.up.sent = w.prologue ++ l.down.taken.flatMap w.replies ++ l.lastWords ∧
      (∀ g ∈ net.coordinator.sys.issued, ∀ seq, w.replies (grantMsg seq g) =
        if w.concerns g then
          [Msg.executionAccepted seq g, Msg.complete (seq + 1) g w.boot Worker.sourceBoot]
        else []) ∧
      l.up.taken <+: l.up.sent ∧ (l.up.transit = [] → l.up.taken = l.up.sent) ∧
      l.phase.pending <:+ l.up.taken ∧
      l.status ≠ .crashed ∧ (l.status = .left → l.phase.isOpen = false) := by
  have hsound := hnet.sound
  have hlink := hsound.links fd l hfind
  have htalks := hlink.talks w hpeer
  refine ⟨hlink.attributed, hlink.faithful.taken_first, hlink.faithful.taken_eq_sent,
    htalks.spoken, fun g hg seq => ?_, htalks.faithful.taken_first,
    htalks.faithful.taken_eq_sent, hlink.pending, htalks.intact, htalks.stays⟩
  rw [Worker.replies, grantMsg, Worker.answers_grant (hsound.fits g hg), Option.getD_some]

end Network

namespace Scenario

/-- A worker with one participant. -/
def soloWorker : Worker := ⟨1, 11, [1]⟩

/-- A client publishes a plan, submits a request for the participant and asks for a round. -/
def askForRound : List UInt8 :=
  Msg.frame ⟨.updatePlan, 0, serializePlan (plan 1 1 [1] : CommunicationPlan Binary64)⟩ ++
    Msg.frame ⟨.submitCollective, 1,
      serializeRequest (request 1 [1] 1 : CollectiveRequest Binary64)⟩ ++
    Msg.frame ⟨.querySchedule, 2, []⟩

/-- The bytes of the client arrive in two pieces; its session is about to take the round. -/
def asked : List Network.Action :=
  [.connect 5 (.worker soloWorker), .connect 6 .client, .write 6 askForRound, .test 5, .test 6,
    .recv 6 100, .recv 5 65536, .handle 5 {}, .handle 5 {}, .handle 5 {}, .handle 6 {}, .test 6,
    .recv 6 65536, .handle 6 {}, .handle 6 {}]

/-- The network before the round. -/
def ready : Network Binary64 := (Network.start 1 false).run asked

/-- Steps of the worker and of its session. -/
def meanwhile : List Network.Action := [.workerRecv 5 65536, .handle 5 {}, .test 5]

/-- The round is taken and sent, and the worker answers. -/
def answered : List Network.Action :=
  asked ++ [.handle 6 {}, .handle 5 {}, .workerRecv 5 40, .handle 6 {}, .workerRecv 5 65536]

end Scenario

namespace Network

theorem worker_answers_every_grant_solo :
    ∃ l : Link Binary64, ((start 1 false).run Scenario.answered).links.find? 5 = some l ∧
      l.down.taken.map Msg.type = [.hello, .hello, .grant] ∧
      l.up.sent = Scenario.soloWorker.prologue ++
        l.down.taken.flatMap Scenario.soloWorker.replies ++ l.lastWords ∧
      l.up.sent.length = 5 := by
  have hfound : ((start (D := Binary64) 1 false).run Scenario.answered).links.find? 5 |>.any
      (fun l => decide (l.peer = .worker Scenario.soloWorker) &&
        decide (l.down.taken.map Msg.type = [.hello, .hello, .grant]) &&
        decide (l.up.sent.length = 5)) := by decide +kernel
  obtain ⟨l, hfind, hl⟩ := (Option.any_eq_true _ _).mp hfound
  simp only [Bool.and_eq_true, decide_eq_true_eq] at hl
  obtain ⟨⟨hpeer, htaken⟩, hlength⟩ := hl
  obtain ⟨-, -, -, hspoken, -⟩ :=
    worker_answers_every_grant ((Reached.start 1 false).run Scenario.answered) hfind hpeer
  exact ⟨l, hfind, htaken, hspoken, hlength⟩

/-! ## The scheduler -/

/-- A call that passes no grant, and is no section of a handoff. -/
def NoGrant (op : Op D) : Prop := op.isAtomic = true ∧ op.grantArgument = none

/-- Such calls lead to the scheduler, and no record of it has started. -/
structure Simulated (y : System D) : Prop where
  run : ∃ ops : List (Op D), (∀ op ∈ ops, NoGrant op) ∧
    y = (System.start PolicyConfig.default 1).run ops
  idle : y.sched.Idle

namespace Simulated

variable {y : System D}

theorem start (epoch : CoordinatorEpoch) (persists : Bool) :
    Simulated (Coordinator.start (D := D) epoch persists none).sys where
  run := by
    have hstart : (Coordinator.start (D := D) epoch persists none).sys =
        { sched := if (Scheduler.fresh (D := D) PolicyConfig.default 1).epoch < epoch then
            ((Scheduler.fresh PolicyConfig.default 1).advanceCoordinatorEpoch epoch).1
          else Scheduler.fresh PolicyConfig.default 1 } := by
      cases persists <;> rfl
    rw [hstart]
    split_ifs
    · refine ⟨[.advanceCoordinatorEpoch epoch], fun op hop => ?_, rfl⟩
      rw [List.mem_singleton.mp hop]
      exact ⟨rfl, rfl⟩
    · exact ⟨[], fun op hop => absurd hop List.not_mem_nil, rfl⟩
  idle := (Coordinator.serve_unstarted epoch persists none []).idle

/-- COMPLETE leaves the scheduler alone, and the other calls pass no grant. -/
theorem next (h : Simulated y) {op : Op D} (hserved : op.isServed = true) :
    Simulated (y.next op) := by
  have hidle : (y.next op).sched.Idle := h.idle.next hserved
  obtain ⟨ops, hops, rfl⟩ := h.run
  refine ⟨?_, hidle⟩
  by_cases hgrant : NoGrant op
  · refine ⟨ops ++ [op], fun op' hop' => ?_, ?_⟩
    · rcases List.mem_append.mp hop' with hop' | hop'
      · exact hops op' hop'
      · rw [List.mem_singleton.mp hop']
        exact hgrant
    · rw [System.run, System.run, Runs.exec_append]
      rfl
  · cases op with
    | complete g wb sb =>
        refine ⟨ops, hops, ?_⟩
        simp only [System.next, System.step, System.ofAnswer, h.idle.complete g wb sb]
    | _ => first | exact absurd ⟨rfl, rfl⟩ hgrant | cases hserved

end Simulated

theorem Sound.simulated {net : Network D} (h : net.Sound)
    (hsimulated : Simulated net.coordinator.sys) (a : Action) :
    Simulated (net.next a).coordinator.sys := by
  rcases h.serves a with hsame | ⟨op, hserved, hnext⟩
  · rw [hsame]
    exact hsimulated
  · rw [hnext]
    exact hsimulated.next hserved

theorem simulated_run (epoch : CoordinatorEpoch) (persists : Bool) (actions : List Action) :
    Simulated ((start (D := D) epoch persists).run actions).coordinator.sys :=
  (Runs.exec_induct (P := fun net : Network D => net.Sound ∧ Simulated net.coordinator.sys)
    (fun _ a hnet => ⟨hnet.1.next a, hnet.1.simulated hnet.2 a⟩) actions
    ⟨(Reached.start epoch persists).sound, .start epoch persists⟩).2

/-- Whatever the clients write and however the steps interleave, the scheduler behind a
coordinator that restored nothing has gone through a run of atomic calls, without a handoff
or a completion. -/
theorem deployment_is_an_atomic_run (epoch : CoordinatorEpoch) (persists : Bool)
    (actions : List Action) :
    ∃ ops : List (Op D), (∀ op ∈ ops, op.grantArgument = none) ∧
      AtomicRun (System.start PolicyConfig.default 1) ops ∧
      ((start epoch persists).run actions).coordinator.sys =
        (System.start PolicyConfig.default 1).run ops := by
  obtain ⟨ops, hops, hrun⟩ := (simulated_run (D := D) epoch persists actions).run
  exact ⟨ops, fun op hop => (hops op hop).2, AtomicRun.of_no_grants hops, hrun⟩

/-! ## Staying up -/

omit [Double D] in
/-- What a session of a worker has still to handle: the prologue, and answers to issued
grants. -/
theorem Link.Sound.spoken {issued : List CollectiveGrant} {l : Link D} {w : Worker}
    (h : l.Sound issued) (hfits : ∀ g ∈ issued, g.Fits {}) (hpeer : l.peer = .worker w)
    (hopen : l.phase.isOpen = true) {m : Msg} (hm : m ∈ l.phase.pending) :
    m ∈ w.prologue ∨ ∃ g ∈ issued, w.concerns g = true ∧ ∃ seq,
      m = Msg.executionAccepted seq g ∨ m = Msg.complete (seq + 1) g w.boot Worker.sourceBoot := by
  have htalks := h.talks w hpeer
  have hsilent : l.lastWords = [] := by
    refine if_neg fun hleft => ?_
    rw [htalks.stays hleft] at hopen
    cases hopen
  have hsent := htalks.faithful.taken_first.subset (h.pending.subset hm)
  rw [htalks.spoken, hsilent, List.append_nil] at hsent
  rcases List.mem_append.mp hsent with hfirst | hreply
  · exact .inl hfirst
  · obtain ⟨m₀, hm₀, hreply⟩ := List.mem_flatMap.mp hreply
    have hfrom := h.attributed m₀ (h.faithful.taken_first.subset hm₀)
    obtain ⟨g, hg, hconcerns, heq⟩ := Worker.mem_replies hfrom hfits hreply
    exact .inr ⟨g, hg, hconcerns, m₀.seq, heq⟩

/-- The connection is one of a client, and its session handles SHUTDOWN next. -/
def Link.asksToStop (l : Link D) : Bool :=
  decide (l.peer = .client) && l.phase.head.any (fun next => next.1.type = .shutdown)

/-- The step handles SHUTDOWN of a client. -/
def stops (net : Network D) : Action → Bool
  | .handle fd _ => (net.links.find? fd).any Link.asksToStop
  | _ => false

theorem Sound.running {net : Network D} (h : net.Sound) (hrunning : net.coordinator.running = true)
    {a : Action} (ha : net.stops a = false) : (net.next a).coordinator.running = true := by
  have hstep := h.step a
  generalize net.next a = net' at hstep
  cases hstep with
  | @message fd l env m rest c frames hfind hphase hm hhandle hreplied =>
      have hstays : m.type ≠ .shutdown := by
        cases hpeer : l.peer with
        | client =>
            have hstops : l.asksToStop = false := by
              simpa only [stops, hfind, Option.any_some] using ha
            simpa [Link.asksToStop, hpeer, hphase, Phase.head] using hstops
        | worker w =>
            have hpending : m ∈ l.phase.pending := by
              rw [hphase]
              exact List.mem_cons_self
            rcases (h.links fd l hfind).spoken h.fits hpeer (by rw [hphase]; rfl) hpending with
              hfirst | ⟨g, -, -, seq, rfl | rfl⟩
            · rcases Worker.type_prologue hfirst with htype | htype | htype <;> rw [htype] <;>
                decide
            · intro htype
              cases htype
            · intro htype
              cases htype
      change c.running = true
      rw [(Coordinator.handleMessage_handled hhandle).running, hrunning, Bool.true_and]
      exact decide_eq_true hstays
  | _ => exact hrunning

/-- A session between the sections stays there while it takes no step. -/
theorem Sound.phase_next {net : Network D} (h : net.Sound) {fd : Nat} {l : Link D}
    (hfind : net.links.find? fd = some l) {seq : UInt64} {dec : ScheduleDecision D}
    {rest : List Msg} (hphase : l.phase = .broadcasting seq dec rest) {a : Action}
    (ha : ∀ env, a ≠ .handle fd env) :
    ∃ l', (net.next a).links.find? fd = some l' ∧ l'.phase = .broadcasting seq dec rest := by
  have hstep := h.step a
  generalize net.next a = net' at hstep
  -- a step of another session leaves the connection alone or tells it something
  have hother : ∀ (fd' : Nat) (l' : Link D), fd' ≠ fd →
      (net.links.insert fd' l').find? fd = some l := fun fd' l' hne => by
    rw [FinMap.find?_insert, if_neg hne.symm, hfind]
  have htold : ∀ (links : FinMap Nat (Link D)) (frames : List (Nat × Msg)),
      links.find? fd = some l → ∃ l', (Network.send links frames).find? fd = some l' ∧
        l'.phase = .broadcasting seq dec rest := fun links frames hl =>
    ⟨{ l with down := l.down.write Msg.frame (messagesFor fd frames) },
      by rw [find?_send, hl, Option.map_some], hphase⟩
  have hsame : ∀ {fd' : Nat} {l' l'' : Link D}, net.links.find? fd' = some l' →
      (fd' = fd → l'.phase = .broadcasting seq dec rest →
        l''.phase = .broadcasting seq dec rest) →
      ∃ l₁, (net.links.insert fd' l'').find? fd = some l₁ ∧
        l₁.phase = .broadcasting seq dec rest := by
    intro fd' l' l'' hfind' hkept
    by_cases hfd : fd' = fd
    · subst hfd
      rw [hfind, Option.some.injEq] at hfind'
      subst hfind'
      exact ⟨l'', by rw [FinMap.find?_insert, if_pos rfl], hkept rfl hphase⟩
    · exact ⟨l, hother fd' l'' hfd, hphase⟩
  cases hstep with
  | idle => exact ⟨l, hfind, hphase⟩
  | @connect fd' peer hfree =>
      have hne : fd' ≠ fd := by
        rintro rfl
        have hclosed := hfree l hfind
        rw [hphase] at hclosed
        cases hclosed
      exact ⟨l, hother fd' _ hne, hphase⟩
  | write bytes hfind' hpeer => exact hsame hfind' fun _ hkept => hkept
  | proceed hfind' hphase' => exact hsame hfind' fun _ hkept => by cases hphase'.symm.trans hkept
  | stop hfind' hphase' hstopped =>
      exact hsame hfind' fun _ hkept => by cases hphase'.symm.trans hkept
  | receive hfind' hphase' hwhole =>
      exact hsame hfind' fun _ hkept => by cases hphase'.symm.trans hkept
  | drop hfind' hphase' => exact hsame hfind' fun _ hkept => by cases hphase'.symm.trans hkept
  | turn env hfind' hphase' => exact hsame hfind' fun _ hkept => by cases hphase'.symm.trans hkept
  | round hfind' hphase' hm hdecided =>
      exact hsame hfind' fun _ hkept => by cases hphase'.symm.trans hkept
  | @message fd' l' env m rest' c frames hfind' hphase' hm hhandle hreplied =>
      exact htold _ _ (hother fd' _ fun hfd => ha env (by rw [hfd]))
  | @broadcast fd' l' seq' dec' rest' env hfind' hphase' =>
      exact htold _ _ (hother fd' _ fun hfd => ha env (by rw [hfd]))
  | answer hfind' hpeer hlooping => exact hsame hfind' fun _ hkept => hkept
  | leave hfind' hpeer hlooping hclosed => exact hsame hfind' fun _ hkept => hkept

/-- A session has taken a round with these grants and has still to send them. -/
structure Owes (net : Network D) (fd : Nat) (seq : UInt64) (dec : ScheduleDecision D)
    (created : List CollectiveGrant) : Prop where
  sound : net.Sound
  phase : ∃ l rest, net.links.find? fd = some l ∧ l.phase = .broadcasting seq dec rest
  stored : ∀ g ∈ created, net.coordinator.sys.sched.grantById g.id = some g

theorem Owes.next {net : Network D} {fd : Nat} {seq : UInt64} {dec : ScheduleDecision D}
    {created : List CollectiveGrant} (h : net.Owes fd seq dec created) {a : Action}
    (ha : ∀ env, a ≠ .handle fd env) : (net.next a).Owes fd seq dec created where
  sound := h.sound.next a
  phase := by
    obtain ⟨l, rest, hfind, hphase⟩ := h.phase
    obtain ⟨l', hfind', hphase'⟩ := h.sound.phase_next hfind hphase ha
    exact ⟨l', rest, hfind', hphase'⟩
  stored g hg := by
    rcases h.sound.serves a with hsame | ⟨op, hserved, hnext⟩
    · rw [hsame]
      exact h.stored g hg
    · rw [hnext]
      exact h.sound.deployed.grantById_next hserved (h.stored g hg)

theorem Owes.run {net : Network D} {fd : Nat} {seq : UInt64} {dec : ScheduleDecision D}
    {created : List CollectiveGrant} (h : net.Owes fd seq dec created) {others : List Action}
    (hothers : ∀ a ∈ others, ∀ env, a ≠ .handle fd env) :
    (net.run others).Owes fd seq dec created :=
  Runs.invariant (I := fun net : Network D => net.Owes fd seq dec created)
    (fun _ _ hnet ha => hnet.next ha) h (Runs.admissible_of_forall hothers net)

/-- The first section: the grants it creates can be read back by their ids. -/
theorem Sound.owes {net : Network D} (h : net.Sound) (hattested : net.coordinator.sys.Attested)
    {fd : Nat} {l : Link D} (hfind : net.links.find? fd = some l) {m : Msg} {rest : List Msg}
    (hphase : l.phase = .handling (m :: rest)) (hm : m.type = .querySchedule)
    (hroom : net.coordinator.sys.sched.nextGrantId.value.toNat +
      net.coordinator.sys.sched.records.size < maxValue) (env : Coordinator.Env) :
    ∃ dec created, dec.grants = created.map CollectiveGrant.id ∧
      dec.selected.length = created.length ∧
      (net.next (.handle fd env)).coordinator.sys.issued =
        net.coordinator.sys.issued ++ created ∧
      (net.next (.handle fd env)).Owes fd m.seq dec created := by
  have horderly := h.deployed.orderly
  obtain ⟨s, dec, created, hround⟩ :=
    Scheduler.scheduleRound_isOk horderly.settled env.recordOrder env.grantOrder
  obtain ⟨hnext, hdecided⟩ := System.Deployed.next_schedule hround
  have hstep : net.next (.handle fd env) =
      { coordinator := { net.coordinator with
          sys := net.coordinator.sys.next (.schedule env.recordOrder env.grantOrder) }
        links := net.links.insert fd { l with phase := .broadcasting m.seq dec rest } } := by
    simp only [Network.next, h.alive, Bool.false_eq_true, if_false, hfind, hphase, handleNext,
      if_pos hm, hdecided]
  have hselected : dec.selected.length ≤ net.coordinator.sys.sched.records.size := by
    rw [(Scheduler.scheduleRound_ok hround).selected]
    exact Scheduler.length_selection_le horderly.keyed env.recordOrder
  have hstored := Scheduler.stored_scheduleRound horderly hround
    (Scheduler.nodup_ids_scheduleRound horderly hround (by omega))
    fun g hg => (hattested.fresh_of_le (by omega)
      (Scheduler.le_ids_scheduleRound horderly hround g hg)).1
  refine ⟨dec, created, Scheduler.scheduleRound_grants hround, ?_, ?_,
    h.next (.handle fd env), ?_, ?_⟩
  · rw [← Scheduler.requests_scheduleRound horderly hround, List.length_map]
  · rw [hstep, hnext]
  · rw [hstep]
    exact ⟨_, rest, by rw [FinMap.find?_insert, if_pos rfl], rfl⟩
  · intro g hg
    rw [hstep, hnext]
    simp only [Scheduler.grantById, hstored g hg, Option.map_some]

omit [Double D] in
/-- A message to all sessions reaches each of them once. -/
theorem messagesFor_all {sessions : List Nat} (hdistinct : sessions.Nodup) (fd : Nat) (m : Msg) :
    messagesFor fd (sessions.map (fun sess => (sess, m))) = if fd ∈ sessions then [m] else [] := by
  have hfilter : (sessions.map (fun sess => (sess, m))).filter (fun f => f.1 = fd) =
      (sessions.filter (fun sess => sess == fd)).map (fun sess => (sess, m)) := by
    rw [List.filter_map]
    rfl
  rw [messagesFor, hfilter, List.filter_beq, hdistinct.count]
  split_ifs <;> rfl

omit [Double D] in
/-- What a broadcast tells a connection. -/
theorem messagesFor_broadcastFrames {c : Coordinator D} (hdistinct : c.sessions.Nodup)
    (fd' fd : Nat) (seq : UInt64) (dec : ScheduleDecision D) :
    messagesFor fd' (broadcastFrames c fd seq dec) =
      (if fd' ∈ c.sessions then
        (dec.grants.filterMap c.sys.sched.grantById).map (grantMsg seq) else []) ++
      if fd' = fd then [summaryMsg seq (counted c dec) dec] else [] := by
  have hgrants : ∀ found : List CollectiveGrant, messagesFor fd' (found.flatMap (fun g =>
      c.sessions.map (fun sess => (sess, grantMsg seq g)))) =
        if fd' ∈ c.sessions then found.map (grantMsg seq) else [] := by
    intro found
    induction found with
    | nil => split_ifs <;> rfl
    | cons g rest ih =>
        rw [List.flatMap_cons, messagesFor_append, ih, messagesFor_all hdistinct]
        split_ifs <;> rfl
  rw [broadcastFrames, messagesFor_append, hgrants]
  congr 1
  by_cases hfd : fd' = fd
  · simp [messagesFor, hfd]
  · simp [messagesFor, hfd, Ne.symm hfd]

/-- The second section sends what the session owes. -/
theorem Owes.paid {net : Network D} {fd : Nat} {seq : UInt64} {dec : ScheduleDecision D}
    {created : List CollectiveGrant} (h : net.Owes fd seq dec created)
    (hids : dec.grants = created.map CollectiveGrant.id) (env : Coordinator.Env) :
    (net.next (.handle fd env)).coordinator = { net.coordinator with
        grantsIssued := net.coordinator.grantsIssued + Int32.ofNat created.length } ∧
      ∀ fd' l', net.links.find? fd' = some l' →
        ∃ l'', (net.next (.handle fd env)).links.find? fd' = some l'' ∧
          l''.down.sent = l'.down.sent ++
            (if l'.phase.isOpen then created.map (grantMsg seq) else []) ++
            if fd' = fd then
              [summaryMsg seq (net.next (.handle fd env)).coordinator dec] else [] := by
  obtain ⟨l, rest, hfind, hphase⟩ := h.phase
  have hfound : dec.grants.filterMap net.coordinator.sys.sched.grantById = created := by
    rw [hids, List.filterMap_map]
    exact (List.filterMap_congr fun g hg => h.stored g hg).trans List.filterMap_some
  have hstep : net.next (.handle fd env) = net.broadcast fd l seq dec rest := by
    simp only [Network.next, h.sound.alive, Bool.false_eq_true, if_false, hfind, hphase]
  have hcounted : (net.next (.handle fd env)).coordinator = { net.coordinator with
      grantsIssued := net.coordinator.grantsIssued + Int32.ofNat created.length } := by
    rw [hstep, Network.broadcast, counted, hfound]
  refine ⟨hcounted, fun fd' l' hfind' => ?_⟩
  have hopen : fd' ∈ net.coordinator.sessions ↔ l'.phase.isOpen = true := by
    rw [h.sound.sessions, hfind']
    simp
  have hbefore : ∃ l₁, (net.links.insert fd { l with phase := .handling rest }).find? fd' =
      some l₁ ∧ l₁.down = l'.down := by
    rw [FinMap.find?_insert]
    split_ifs with hfd
    · rw [hfd, hfind, Option.some.injEq] at hfind'
      exact ⟨_, rfl, by rw [← hfind']⟩
    · exact ⟨l', hfind', rfl⟩
  obtain ⟨l₁, hfind₁, hdown⟩ := hbefore
  have htold := find?_send (net.links.insert fd { l with phase := .handling rest })
    (broadcastFrames net.coordinator fd seq dec) fd'
  rw [hfind₁, Option.map_some] at htold
  rw [hstep]
  refine ⟨_, htold, ?_⟩
  rw [Pipe.write, hdown, messagesFor_broadcastFrames h.sound.distinct, hfound, List.append_assoc]
  simp only [hopen]
  rfl

/-- Between the round of QUERY_SCHEDULE and its broadcast the other sessions may do
anything.  The broadcast then sends every open session the grants that the round created,
each once and in order, and nothing else but the summary for the session that asked. -/
theorem broadcast_sends_what_the_round_created {net : Network D} (hnet : net.Reached) {fd : Nat}
    {l : Link D} (hfind : net.links.find? fd = some l) {m : Msg} {rest : List Msg}
    (hphase : l.phase = .handling (m :: rest)) (hm : m.type = .querySchedule)
    (hroom : net.coordinator.sys.sched.nextGrantId.value.toNat +
      net.coordinator.sys.sched.records.size < maxValue) {others : List Action}
    (hothers : ∀ a ∈ others, ∀ env, a ≠ .handle fd env) (env env' : Coordinator.Env) :
    let mid := (net.next (.handle fd env)).run others
    let net' := mid.next (.handle fd env')
    ∃ (dec : ScheduleDecision D) (created : List CollectiveGrant),
      (net.next (.handle fd env)).coordinator.sys.issued = net.coordinator.sys.issued ++ created ∧
      dec.selected.length = created.length ∧
      net'.coordinator = { mid.coordinator with
        grantsIssued := mid.coordinator.grantsIssued + Int32.ofNat created.length } ∧
      ∀ fd' l', mid.links.find? fd' = some l' → ∃ l'', net'.links.find? fd' = some l'' ∧
        l''.down.sent = l'.down.sent ++
          (if l'.phase.isOpen then created.map (grantMsg m.seq) else []) ++
          if fd' = fd then [summaryMsg m.seq net'.coordinator dec] else [] := by
  intro mid net'
  obtain ⟨dec, created, hids, hlength, hissued, howes⟩ :=
    hnet.sound.owes hnet.attested hfind hphase hm hroom env
  obtain ⟨hcoordinator, hlinks⟩ := (howes.run hothers).paid hids env'
  exact ⟨dec, created, hissued, hlength, hcoordinator, hlinks⟩

/-- The worker receives the answers to its prologue between the two sections. -/
theorem broadcast_sends_what_the_round_created_solo :
    ∃ (created : List CollectiveGrant) (seq : UInt64) (l l' : Link Binary64),
      created.length = 1 ∧ (Scenario.ready.next (.handle 6 {})).coordinator.sys.issued = created ∧
      ((Scenario.ready.next (.handle 6 {})).run Scenario.meanwhile).links.find? 5 = some l ∧
      (((Scenario.ready.next (.handle 6 {})).run Scenario.meanwhile).next
        (.handle 6 {})).links.find? 5 = some l' ∧
      l'.down.sent = l.down.sent ++ created.map (grantMsg seq) := by
  have hfound : (Scenario.ready.links.find? 6).any (fun l => l.phase.head.any
      (fun next => next.1.type = .querySchedule)) = true := by decide +kernel
  have hnet : Scenario.ready.Reached := (Reached.start 1 false).run Scenario.asked
  have hothers : ∀ a ∈ Scenario.meanwhile, ∀ env, a ≠ .handle 6 env := by
    simp [Scenario.meanwhile]
  have hnone : Scenario.ready.coordinator.sys.issued = [] := by decide +kernel
  have hone : (Scenario.ready.next (.handle 6 {})).coordinator.sys.issued.length = 1 := by
    decide +kernel
  have hopen : (((Scenario.ready.next (.handle 6 {})).run Scenario.meanwhile).links.find? 5).any
      (fun l => l.phase.isOpen) = true := by decide +kernel
  obtain ⟨l, hfind, hl⟩ := (Option.any_eq_true _ _).mp hfound
  obtain ⟨l₅, hfind₅, hopen₅⟩ := (Option.any_eq_true _ _).mp hopen
  obtain ⟨⟨m, rest⟩, hhead, hm⟩ := (Option.any_eq_true _ _).mp hl
  obtain ⟨dec, created, hissued, -, -, hlinks⟩ :=
    broadcast_sends_what_the_round_created hnet hfind (Phase.head_eq_some.mp hhead)
      (of_decide_eq_true hm) (by decide +kernel) hothers {} {}
  obtain ⟨l', hfind', hsent⟩ := hlinks 5 l₅ hfind₅
  have happend : Scenario.ready.coordinator.sys.issued ++ created = created := by
    rw [hnone, List.nil_append]
  have hcreated := hissued.trans happend
  rw [if_pos hopen₅, if_neg (by decide), List.append_nil] at hsent
  exact ⟨created, m.seq, l₅, l', (congrArg List.length hcreated).symm.trans hone, hcreated,
    hfind₅, hfind', hsent⟩

end Network

end CollectiveScheduler
