/-
  Properties/CoordinatorCompletion.lean --- completions that reach a coordinator.

  A worker answers a GRANT with EXECUTION_ACCEPTED and then COMPLETE.  The handler has no
  case for EXECUTION_ACCEPTED, and no message leads to `handoff`.  So no record of a
  coordinator is ever handed off, while `complete` wants one that is ACTIVE: every
  completion is refused and counted as stale (`granted_work_never_completes`).
-/
import CollectiveScheduler.Coordinator.Coordinator
import CollectiveScheduler.Foundation.Binary64
import CollectiveScheduler.System.Barred
import CollectiveScheduler.System.FabricStep
import CollectiveScheduler.System.Scenario

set_option autoImplicit false

namespace CollectiveScheduler

open Foundation LifecycleState

variable {D : Type}

/-! ## Records that were never handed off -/

namespace Scheduler

/-- A started record has no grant. -/
def Idle (s : Scheduler D) : Prop :=
  ∀ id rec, s.records.find? id = some rec → rec.lifecycle.isStarted = true →
    rec.currentGrant = none

/-- `complete` finds no record that it may complete. -/
theorem Idle.complete {s : Scheduler D} (h : s.Idle) (g : CollectiveGrant) (wb : WorkerBootId)
    (sb : SourceBootId) : s.complete g wb sb = (s, false, []) := by
  rcases s.complete_cases g wb sb with heq | ⟨rec, gs, hfind, -, hallowed, hactive, -⟩
  · exact heq
  · obtain ⟨-, -, -, ⟨cur, hcur, -⟩, -⟩ := completionAllowed_iff.mp hallowed
    rw [h _ rec hfind (by rw [hactive]; rfl)] at hcur
    cases hcur

end Scheduler

/-! ## The calls of a coordinator -/

/-- No call of a coordinator comes to the fabric, so a started record was started
before. -/
theorem System.served_started [Double D] {y : System D} {op : Op D} (hop : op.isServed = true)
    {id : CollectiveRequestId} {rec' : Record D}
    (hfind' : (y.next op).sched.records.find? id = some rec')
    (hstarted : rec'.lifecycle.isStarted = true) :
    ∃ rec, y.sched.records.find? id = some rec ∧ rec.lifecycle.isStarted = true ∧
      (rec.currentGrant = none → rec'.currentGrant = none) := by
  have hstep := y.fabricStep op id
  rw [hfind'] at hstep
  obtain ⟨rec, hfind, -, ⟨hpaced, hbefore⟩ | hasked⟩ := hstep.started_cases hstarted
  · exact ⟨rec, hfind, hbefore, hpaced.ungranted hstarted⟩
  · have hnone : y.askedAbout op = none := by cases op <;> first | rfl | cases hop
    rw [System.asksFabric, hnone] at hasked
    cases hasked

theorem Scheduler.Idle.next [Double D] {y : System D} (h : y.sched.Idle) {op : Op D}
    (hop : op.isServed = true) : (y.next op).sched.Idle := by
  intro id rec' hfind' hstarted
  obtain ⟨rec, hfind, hbefore, hgrant⟩ := System.served_started hop hfind' hstarted
  exact hgrant (h id rec hfind hbefore)

/-- The two lists of a request or a grant have a size. -/
def WireSized (participants : List ParticipantId) (gens : List ParticipantGeneration) : Prop :=
  participants.length < 2 ^ 64 ∧ gens.length < 2 ^ 64

/-- What holds of the scheduler of a coordinator: the request of an issued grant was never
started. -/
structure System.Unstarted (y : System D) : Prop where
  keyed : y.sched.Keyed
  idle : y.sched.Idle
  wireSized : ∀ id rec, y.sched.records.find? id = some rec →
    WireSized rec.request.participants rec.request.participantGens
  issued : ∀ g ∈ y.issued, WireSized g.participants g.participantGens ∧
    ∃ rec, y.sched.records.find? g.request = some rec ∧ rec.lifecycle.isStarted = false

theorem RecordStep.wireSized {op : Op D} {id : CollectiveRequestId}
    {before after : Option (Record D)} (h : RecordStep op id before after)
    (hbefore : ∀ rec, before = some rec →
      WireSized rec.request.participants rec.request.participantGens) :
    ∀ rec, after = some rec →
      WireSized rec.request.participants rec.request.participantGens := by
  have hvalid : ∀ {req : CollectiveRequest D}, req.WellFormed →
      WireSized req.participants req.participantGens := fun hreq =>
    ⟨hreq.participants, hreq.parallel ▸ hreq.participants⟩
  intro rec hafter
  cases h with
  | absent => cases hafter
  | filed _ _ hwell _ _ =>
      cases hafter
      exact hvalid hwell
  | carried hcarried =>
      cases hafter
      rw [hcarried.request]
      exact hbefore _ rfl
  | replaced _ _ _ hwell =>
      cases hafter
      exact hvalid hwell

theorem System.Unstarted.next [Double D] {y : System D} (h : y.Unstarted) {op : Op D}
    (hop : op.isServed = true) : (y.next op).Unstarted := by
  -- a record that is there and not started stays so
  have hstays : ∀ {id rec}, y.sched.records.find? id = some rec →
      rec.lifecycle.isStarted = false → ∃ rec', (y.next op).sched.records.find? id = some rec' ∧
        rec'.lifecycle.isStarted = false := by
    intro id rec hfind hnot
    have hstep := y.recordStep op id
    rw [hfind] at hstep
    obtain ⟨rec', hfind', -⟩ := hstep.gen_le
    refine ⟨rec', hfind', Bool.eq_false_iff.mpr fun hstarted => ?_⟩
    obtain ⟨r, hr, hbefore, -⟩ := System.served_started hop hfind' hstarted
    rw [hfind] at hr
    cases hr
    rw [hbefore] at hnot
    cases hnot
  refine ⟨fun id => (y.recordStep op id).keyed (h.keyed id), h.idle.next hop,
    fun id => (y.recordStep op id).wireSized (h.wireSized id), fun g hg => ?_⟩
  rcases y.issued_next op with
    hsame | ⟨recordOrder, grantOrder, s, dec, created, -, hround, heq⟩
  · rw [hsame] at hg
    obtain ⟨hsized, rec, hfind, hnot⟩ := h.issued g hg
    exact ⟨hsized, hstays hfind hnot⟩
  · rw [heq] at hg
    rcases List.mem_append.mp hg with hg | hg
    · obtain ⟨hsized, rec, hfind, hnot⟩ := h.issued g hg
      exact ⟨hsized, hstays hfind hnot⟩
    · obtain ⟨rec, t, hfind, heligible, hgrant, -⟩ := created_eligible h.keyed hround hg
      have hsized : WireSized g.participants g.participantGens := by
        rw [hgrant]
        exact h.wireSized _ rec hfind
      refine ⟨hsized, hstays hfind ?_⟩
      have hpending := (Scheduler.eligible_iff.mp heligible).1
      cases hlife : rec.lifecycle <;> rw [hlife] at hpending <;> first | rfl | cases hpending

/-! ## The start of a coordinator -/

section Start

variable [Double D]

theorem yields_vec {α : Type} (r : PersistenceReader.Read α) :
    Reader.Yields (PersistenceReader.vec r) (fun l => l.length < 2 ^ 64) := by
  have hany : Reader.Yields r (fun _ => True) := fun _ _ _ _ _ => trivial
  refine .skip fun n limit input l rest hread => ?_
  rw [(hany.times n.toNat limit input l rest hread).1]
  exact UInt64.toNat_lt n

theorem yields_request :
    Reader.Yields (deserializeRequest (D := D))
      (fun req => WireSized req.participants req.participantGens) := by
  unfold deserializeRequest
  refine .skip fun _ => .skip fun _ => .skip fun _ => .skip fun _ => .skip fun _ => .skip fun _ =>
    (yields_vec _).bind fun participants hparticipants =>
    (yields_vec _).bind fun gens hgens => ?_
  refine .skip fun _ => .skip fun _ => .skip fun _ => .skip fun _ => .skip fun _ => .skip fun _ =>
    .skip fun _ => .skip fun _ => .skip fun _ => .skip fun _ => .skip fun _ => .skip fun _ => ?_
  refine .skip fun _ => .skip fun _ => .skip fun _ => .skip fun _ => .skip fun _ => .skip fun _ =>
    .skip fun _ => .skip fun _ => .skip fun _ => .skip fun _ => .skip fun _ => .skip fun _ => ?_
  exact .skip fun _ => .pure ⟨hparticipants, hgens⟩

/-- No grant is read from a file. -/
theorem yields_record :
    Reader.Yields (deserializeRecord (D := D)) (fun rec => rec.currentGrant = none ∧
      WireSized rec.request.participants rec.request.participantGens) := by
  unfold deserializeRecord
  exact yields_request.bind fun _ hrequest => .skip fun _ => .skip fun _ => .skip fun _ =>
    .skip fun _ => .pure ⟨rfl, hrequest⟩

/-- Whatever the file holds. -/
theorem Coordinator.start_unstarted (epoch : CoordinatorEpoch) (persists : Bool)
    (file : Option (List UInt8)) :
    (Coordinator.start (D := D) epoch persists file).sys.Unstarted := by
  -- the records of the scheduler before the epoch is set
  have hopened : ∀ s : Scheduler D, s.Keyed →
      (∀ id rec, s.records.find? id = some rec → rec.currentGrant = none ∧
        WireSized rec.request.participants rec.request.participantGens) →
      System.Unstarted (D := D)
        { sched := if s.epoch < epoch then (s.advanceCoordinatorEpoch epoch).1 else s } := by
    intro s hkeyed hrecords
    have hepoch : (if s.epoch < epoch then (s.advanceCoordinatorEpoch epoch).1 else s).records =
        s.records := by
      split_ifs
      · unfold Scheduler.advanceCoordinatorEpoch
        split_ifs <;> rfl
      · rfl
    constructor
    case keyed =>
      intro id rec hfind
      rw [hepoch] at hfind
      exact hkeyed id rec hfind
    case idle =>
      intro id rec hfind _
      rw [hepoch] at hfind
      exact (hrecords id rec hfind).1
    case wireSized =>
      intro id rec hfind
      rw [hepoch] at hfind
      exact (hrecords id rec hfind).2
    case issued => exact fun g hg => absurd hg List.not_mem_nil
  have hfresh : (Scheduler.fresh PolicyConfig.default 1 : Scheduler D).Keyed :=
    fun id rec hfind => by cases hfind
  unfold Coordinator.start
  simp only
  split
  · refine hopened _ (hfresh.restore _) (Scheduler.restore_records _ ?_ yields_record ?_)
    · intro id rec hfind
      cases hfind
    · exact fun rec hrec => ⟨rfl, hrec.2⟩
  · refine hopened _ hfresh fun id rec hfind => ?_
    cases hfind

theorem Coordinator.serve_unstarted (epoch : CoordinatorEpoch) (persists : Bool)
    (file : Option (List UInt8)) (events : List Event) :
    ((Coordinator.start (D := D) epoch persists file).serve events).sys.Unstarted := by
  refine Runs.exec_induct (P := fun c : Coordinator D => c.sys.Unstarted) (fun c e hc => ?_) events
    (start_unstarted epoch persists file)
  rcases c.next_cases e with hsame | ⟨op, hop, hnext⟩
  · rw [hsame]
    exact hc
  · rw [hnext]
    exact hc.next hop

end Start

/-! ## The result -/

theorem Msg.read_complete (seq : UInt64) {g : CollectiveGrant}
    (h : WireSized g.participants g.participantGens) (wb : WorkerBootId) (sb : SourceBootId) :
    (Msg.complete seq g wb sb).read Coordinator.readCompletion = .ok (g, wb, sb) :=
  Msg.read_of_decodes <| (decodes_grant h.1 h.2).seq <| (decodes_ident wb).seq <|
    (decodes_ident sb).seq <| Reader.Decodes.pure _

/-- With no started record, COMPLETE for a grant only counts a stale rejection. -/
theorem Coordinator.handleMessage_complete [Double D] {c : Coordinator D}
    (hidle : c.sys.sched.Idle) {g : CollectiveGrant}
    (hsized : WireSized g.participants g.participantGens) (env : Env) (fd : Nat) (seq : UInt64)
    (wb : WorkerBootId) (sb : SourceBootId) :
    c.handleMessage env fd (.complete seq g wb sb) =
      some ({ c with staleRejections := c.staleRejections + 1 }, []) := by
  have hstep : c.sys.step (.complete g wb sb) = (c.sys, .answered false) := by
    simp only [System.step, System.ofAnswer, hidle.complete g wb sb]
  have htype : (Msg.complete seq g wb sb).type = .complete := rfl
  simp only [handleMessage, htype, Msg.read_complete seq hsized wb sb, System.next,
    System.outcome, hstep, Outcome.isTrue, Bool.false_eq_true, if_false]

/-- Whatever a coordinator has restored and served: EXECUTION_ACCEPTED and COMPLETE for a
grant that it issued, with any boots, leave the request of the grant not COMPLETED, and
their handling counts a stale rejection. -/
theorem granted_work_never_completes [Double D] (epoch : CoordinatorEpoch) (persists : Bool)
    (file : Option (List UInt8)) (events : List Coordinator.Event) (g : CollectiveGrant)
    (wb : WorkerBootId) (sb : SourceBootId) (env env' : Coordinator.Env) (fd fd' : Nat)
    (seq seq' : UInt64)
    (hissued : g ∈ ((Coordinator.start (D := D) epoch persists file).serve events).sys.issued) :
    let c := (Coordinator.start (D := D) epoch persists file).serve events
    let c' := c.serve [.deliver env fd (.executionAccepted seq g),
      .deliver env' fd' (.complete seq' g wb sb)]
    (∃ rec, c'.sys.sched.records.find? g.request = some rec ∧ rec.lifecycle ≠ .completed) ∧
      (c.terminated = false → c'.staleRejections = c.staleRejections + 1) := by
  intro c c'
  have hunstarted : c.sys.Unstarted := Coordinator.serve_unstarted epoch persists file events
  obtain ⟨hsized, rec, hfind, hnot⟩ := hunstarted.issued g hissued
  have hnotCompleted : rec.lifecycle ≠ .completed := by
    intro hcompleted
    rw [hcompleted] at hnot
    cases hnot
  have haccepted : c.next (.deliver env fd (.executionAccepted seq g)) = c := by
    simp only [Coordinator.next, Coordinator.handleMessage, Msg.executionAccepted, ite_self]
  have hlast : c' = c.next (.deliver env' fd' (.complete seq' g wb sb)) :=
    congrArg (fun served => served.next (.deliver env' fd' (.complete seq' g wb sb))) haccepted
  have hhandled :=
    Coordinator.handleMessage_complete hunstarted.idle hsized env' fd' seq' wb sb
  simp only [Coordinator.next, hhandled] at hlast
  cases hterminated : c.terminated with
  | true =>
      rw [hterminated, if_pos rfl] at hlast
      rw [hlast]
      exact ⟨⟨rec, hfind, hnotCompleted⟩, fun hfalse => absurd hfalse (by decide)⟩
  | false =>
      rw [hterminated, if_neg Bool.false_ne_true] at hlast
      rw [hlast]
      exact ⟨⟨rec, hfind, hnotCompleted⟩, fun _ => rfl⟩

/-- A worker connects and publishes its participant; a client submits a request for it and
asks for a round. -/
def Scenario.grantedToWorker : List Coordinator.Event :=
  [.connect 5,
    .deliver {} 5 ⟨.publishParticipant, 0,
      serializeParticipant (Scenario.participant 1 1 1 11)⟩,
    .deliver {} 6 ⟨.updatePlan, 0,
      serializePlan (Scenario.plan 1 1 [1] : CommunicationPlan Binary64)⟩,
    .deliver {} 6 ⟨.submitCollective, 0,
      serializeRequest (Scenario.request 1 [1] 1 : CollectiveRequest Binary64)⟩,
    .deliver {} 6 ⟨.querySchedule, 0, []⟩]

/-- The theorem at that run, with the boots of the worker. -/
theorem granted_work_never_completes_worker :
    let c := (Coordinator.start (D := Binary64) 1 false none).serve Scenario.grantedToWorker
    c.terminated = false ∧ ∃ g, g ∈ c.sys.issued ∧
      let c' := c.serve [.deliver {} 5 (.executionAccepted 1 g),
        .deliver {} 5 (.complete 2 g 11 100)]
      (∃ rec, c'.sys.sched.records.find? g.request = some rec ∧ rec.lifecycle ≠ .completed) ∧
        (c.terminated = false → c'.staleRejections = c.staleRejections + 1) := by
  have hissued : ((Coordinator.start (D := Binary64) 1 false none).serve
      Scenario.grantedToWorker).sys.issued ≠ [] := by decide +kernel
  obtain ⟨g, hg⟩ := List.exists_mem_of_ne_nil _ hissued
  exact ⟨by decide +kernel, g, hg,
    granted_work_never_completes 1 false none Scenario.grantedToWorker g 11 100 {} {} 5 5 1 2 hg⟩

/-- The worker answers the grant with its own boots, which are those of the stored
participant: the request stays GRANTED and a stale rejection is counted. -/
theorem completion_of_worker_is_rejected :
    let c := (Coordinator.start (D := Binary64) 1 false none).serve Scenario.grantedToWorker
    ∃ g ∈ c.sys.issued, g.participants = [1] ∧
      (c.sys.sched.participants.find? 1).map (fun p => (p.workerBoot, p.sourceBoot)) =
        some (11, 100) ∧
      let c' := c.serve [.deliver {} 5 (.executionAccepted 1 g),
        .deliver {} 5 (.complete 2 g 11 100)]
      (c'.sys.sched.records.find? g.request).map (·.lifecycle) = some .granted ∧
        c.staleRejections = 0 ∧ c'.staleRejections = 1 := by
  decide +kernel

end CollectiveScheduler
