/-
  System/RecordStep.lean --- what any call can do to one record.

  The relation holds of every call in every state, whatever grants the callers
  pass: a record appears by `submit`, is replaced by `supersede` at a larger
  generation, and otherwise keeps its request while its lifecycle moves.  The
  facts about single records (keys, well-formed requests, states at rest,
  terminal outcomes) follow from it.
-/
import CollectiveScheduler.Scheduler.Inversion
import CollectiveScheduler.Scheduler.Round
import CollectiveScheduler.System.System

set_option autoImplicit false

namespace CollectiveScheduler

open Foundation

namespace LifecycleState

/-- A lifecycle change that respects the guard from every state at rest, never
leaves a terminal state and never leads from a spent state back to a grant. -/
structure Moves (a b : LifecycleState) : Prop where
  guarded : a.atRest = true → Chain a b ∧ b.atRest = true
  terminal : a.isTerminalState = true → b = a
  spent : a.isSpent = true → b.isSpent = true

theorem Moves.refl (a : LifecycleState) : Moves a a :=
  ⟨fun h => ⟨Chain.refl a, h⟩, fun _ => rfl, fun h => h⟩

theorem Moves.ofEq {a b : LifecycleState} (h : a = b) : Moves a b := h ▸ Moves.refl a

theorem Moves.trans {a b c : LifecycleState} (h : Moves a b) (h' : Moves b c) : Moves a c where
  guarded ha := by
    obtain ⟨hab, hb⟩ := h.guarded ha
    obtain ⟨hbc, hc⟩ := h'.guarded hb
    exact ⟨hab.trans hbc, hc⟩
  terminal ha := by
    have hab := h.terminal ha
    rw [h'.terminal (hab.symm ▸ ha), hab]
  spent ha := h'.spent (h.spent ha)

theorem Refreshes.moves {a b : LifecycleState} (h : Refreshes a b) : Moves a b where
  guarded ha := by
    refine ⟨h.chain, ?_⟩
    rcases h.moved with rfl | ⟨-, rfl | rfl | rfl⟩
    · exact ha
    all_goals rfl
  terminal ha := by
    refine h.eq_of_not_pending ?_
    cases a <;> first | rfl | exact absurd ha (by decide)
  spent ha := by
    have hab : b = a := by
      refine h.eq_of_not_pending ?_
      cases a <;> first | rfl | exact absurd ha (by decide)
    rw [hab]
    exact ha

theorem Revokes.moves {a b : LifecycleState} (h : Revokes a b) : Moves a b := by
  rcases h with rfl | ⟨ha, rfl⟩
  · exact Moves.refl _
  · refine ⟨fun _ => ⟨Chain.single ?_, rfl⟩, fun hterminal => ?_, fun _ => rfl⟩
    · cases a <;> first | rfl | exact absurd ha (by decide)
    · cases a <;> first | exact absurd ha (by decide) | exact absurd hterminal (by decide)

/-- The overwriting handler of `cancel` never acts on a state at rest. -/
theorem moves_cancelled {a : LifecycleState} (h : a.isTerminalState = false) :
    Moves a .cancelled where
  guarded ha := by
    refine ⟨Chain.single ?_, rfl⟩
    cases a <;> first | rfl | exact absurd ha (by decide) | exact absurd h (by decide)
  terminal ha := by
    rw [h] at ha
    cases ha
  spent _ := rfl

/-- The overwriting handler of recovery at most rewrites the target by itself. -/
theorem moves_recover {a : LifecycleState} :
    Moves a (if a.isTerminalState then a else .revalidationRequired) where
  guarded ha := by
    cases a <;> first
      | exact ⟨Chain.refl _, rfl⟩
      | exact ⟨Chain.single rfl, rfl⟩
      | exact absurd ha (by decide)
  terminal ha := if_pos ha
  spent _ := by cases a <;> rfl

end LifecycleState

open LifecycleState

variable {D : Type}

/-- A record that keeps its request while its lifecycle moves. -/
structure Record.Carried (rec rec' : Record D) : Prop where
  request : rec'.request = rec.request
  moves : Moves rec.lifecycle rec'.lifecycle

theorem Record.Carried.refl (rec : Record D) : rec.Carried rec := ⟨rfl, Moves.refl _⟩

theorem Record.Carried.trans {rec rec' rec'' : Record D} (h : rec.Carried rec')
    (h' : rec'.Carried rec'') : rec.Carried rec'' :=
  ⟨h'.request.trans h.request, h.moves.trans h'.moves⟩

theorem Record.carried_recover (rec : Record D) : rec.Carried rec.recover := by
  refine ⟨rfl, ?_⟩
  simp only [Record.recover, transitionOrForce_eq]
  exact moves_recover

/-- A record map in which every record is carried over. -/
def RecordsCarried (m m' : FinMap CollectiveRequestId (Record D)) : Prop :=
  ∀ id, Option.Rel Record.Carried (m.find? id) (m'.find? id)

namespace RecordsCarried

variable {m m' m'' : FinMap CollectiveRequestId (Record D)}

theorem refl (m : FinMap CollectiveRequestId (Record D)) : RecordsCarried m m :=
  FinMap.Related.refl Record.Carried.refl m

theorem trans (h : RecordsCarried m m') (h' : RecordsCarried m' m'') : RecordsCarried m m'' :=
  FinMap.Related.trans (fun _ _ _ hrec hrec' => hrec.trans hrec') h h'

theorem ofRewritten {R : LifecycleState → LifecycleState → Prop}
    (hmoves : ∀ {a b}, R a b → Moves a b) (h : RecordsRewritten R m m') : RecordsCarried m m' :=
  FinMap.Related.mono (fun _ _ hrec => ⟨hrec.request, hmoves hrec.lifecycle⟩) h

theorem insert {id : CollectiveRequestId} {rec rec' : Record D} (hfind : m.find? id = some rec)
    (hrec : rec.Carried rec') : RecordsCarried m (m.insert id rec') :=
  FinMap.Related.replace Record.Carried.refl hfind hrec

end RecordsCarried

/-! ## The operations that carry every record over -/

namespace Scheduler

/-- The chain READY, ELIGIBLE, QUEUED, GRANTED of a promotion. -/
theorem promoteToGranted_carried {rec rec' : Record D} (h : promoteToGranted rec = .ok rec') :
    rec.Carried rec' := by
  have hqueued : Chain .ready .queued :=
    (Chain.single (a := .ready) (b := .eligible) rfl).trans (Chain.single rfl)
  have hchain : Chain .ready .granted := hqueued.trans (Chain.single rfl)
  unfold promoteToGranted at h
  cases hlife : rec.lifecycle <;> rw [hlife] at h <;> cases h <;>
    refine ⟨rfl, ⟨fun ha => ?_, fun ha => ?_, fun ha => ?_⟩⟩ <;> rw [hlife] at ha
  case ready.refl.refine_1 =>
    rw [hlife]
    exact ⟨hchain, rfl⟩
  case granted.refl.refine_1 =>
    rw [hlife]
    exact ⟨Chain.refl _, rfl⟩
  all_goals exact absurd ha (by decide)

theorem createGrants_carried (dec : ScheduleDecision D) (ids : List CollectiveRequestId)
    (s : Scheduler D) : RecordsCarried s.records (createGrants dec s ids).1.records := by
  refine createGrants_keeps (P := fun t => RecordsCarried s.records t.records) dec ids ?_
    (RecordsCarried.refl _)
  intro t id rec rec' _ hfind hpromote ht
  have hone : rec.Carried { rec' with currentGrant := some (t.grantFor rec'.request dec) } :=
    let h := promoteToGranted_carried hpromote
    ⟨h.request, h.moves⟩
  exact ht.trans (RecordsCarried.insert hfind hone)

theorem scheduleRound_carried [Double D] (s : Scheduler D)
    (recordOrder : List CollectiveRequestId) (grantOrder : List CollectiveGrantId) :
    RecordsCarried s.records (s.scheduleRound recordOrder grantOrder).1.records := by
  cases hround : s.scheduleRound recordOrder grantOrder with
  | mk s' result =>
      cases result with
      | error e => exact .ofRewritten Refreshes.moves (scheduleRound_error hround).records
      | ok result =>
          obtain ⟨dec, created⟩ := result
          rw [(scheduleRound_ok hround).state]
          refine RecordsCarried.trans
            (.ofRewritten Refreshes.moves (refreshed_rewritten s).records) ?_
          refine
            (createGrants_carried s.openDecision (s.selection recordOrder) s.refreshed).trans ?_
          exact .ofRewritten Moves.ofEq (closeRound_rewritten _ _ _).records

theorem cancel_carried (s : Scheduler D) (id : CollectiveRequestId) :
    RecordsCarried s.records (s.cancel id).1.records := by
  rcases s.cancel_cases id with heq | ⟨rec, hfind, hterminal, hcase⟩
  · rw [heq]
    exact RecordsCarried.refl _
  · have hrec : rec.Carried rec.cancel := by
      refine ⟨rfl, ?_⟩
      rw [Record.cancel, transitionOrForce_eq]
      exact moves_cancelled hterminal
    rcases hcase with ⟨-, heq⟩ | ⟨g, gs, -, heq⟩
    · rw [heq]
      exact RecordsCarried.insert hfind hrec
    · rw [heq]
      exact RecordsCarried.insert hfind hrec

theorem handoffBegin_carried (s : Scheduler D) (g : CollectiveGrant) :
    RecordsCarried s.records (s.handoffBegin g).1.records := by
  rcases s.handoffBegin_cases g with heq | ⟨rec, hfind, -, hgranted, -, heq⟩
  · rw [heq]
    exact RecordsCarried.refl _
  · rw [heq]
    refine RecordsCarried.insert hfind ⟨rfl, ?_⟩
    rw [hgranted]
    exact ⟨fun _ => ⟨Chain.single rfl, rfl⟩, fun h => absurd h (by decide),
      fun h => absurd h (by decide)⟩

theorem landed_carried (rec : Record D) (accepted : Bool) :
    rec.Carried (landed rec accepted) := by
  refine ⟨rfl, ?_⟩
  unfold landed
  simp only
  split_ifs with h
  · rw [h.1]
    exact ⟨fun _ => ⟨Chain.single rfl, rfl⟩, fun hterminal => absurd hterminal (by decide),
      fun hspent => absurd hspent (by decide)⟩
  · exact Moves.refl _

theorem handoffEnd_carried (s : Scheduler D) (gc : CollectiveGrant) (accepted : Bool) :
    RecordsCarried s.records (s.handoffEnd gc accepted).1.records := by
  rcases s.handoffEnd_cases gc accepted with ⟨-, heq⟩ | ⟨rec, hfind, hcase⟩
  · rw [heq]
    exact RecordsCarried.refl _
  · have hrec := RecordsCarried.insert hfind (landed_carried rec accepted)
    rcases hcase with ⟨-, heq⟩ | ⟨gs, -, ⟨-, heq⟩ | ⟨-, heq⟩⟩ <;> rw [heq] <;> exact hrec

theorem handoff_carried (s : Scheduler D) (g : CollectiveGrant) (accepted : Bool) :
    RecordsCarried s.records (s.handoff g accepted).1.records := by
  rw [(s.handoff_eq g accepted).1]
  cases (s.handoffBegin g).2 with
  | none => exact s.handoffBegin_carried g
  | some gc => exact (s.handoffBegin_carried g).trans (handoffEnd_carried _ gc accepted)

theorem complete_carried (s : Scheduler D) (g : CollectiveGrant) (wb : WorkerBootId)
    (sb : SourceBootId) : RecordsCarried s.records (s.complete g wb sb).1.records := by
  rcases s.complete_cases g wb sb with heq | ⟨rec, gs, hfind, -, -, hactive, heq⟩
  · rw [heq]
    exact RecordsCarried.refl _
  · rw [heq]
    refine RecordsCarried.insert hfind ⟨rfl, ?_⟩
    rw [hactive]
    exact ⟨fun _ => ⟨Chain.single rfl, rfl⟩, fun h => absurd h (by decide),
      fun h => absurd h (by decide)⟩

theorem fenceWorkerBoot_carried (s : Scheduler D) (worker : WorkerId) (boot : WorkerBootId)
    (recordOrder : List CollectiveRequestId) :
    RecordsCarried s.records (s.fenceWorkerBoot worker boot recordOrder).records := by
  refine fenceWorkerBoot_induct (P := fun t => RecordsCarried s.records t.records) recordOrder
    (RecordsCarried.refl s.records) ?_
  intro t rid rec pid hfind _ _ _ hcarried
  obtain ⟨hrequest, -, hlife⟩ := demandRevalidation_frame rec
  rw [fenceHit_records]
  exact hcarried.trans (RecordsCarried.insert hfind ⟨hrequest, hlife.moves⟩)

theorem reset_carried (s : Scheduler D) :
    RecordsCarried s.records s.resetDynamicStateForRecovery.records := by
  intro id
  have hfind : s.resetDynamicStateForRecovery.records.find? id =
      (s.records.find? id).map (fun rec => rec.recover) := FinMap.find?_mapVals _ _ _
  rw [hfind]
  cases s.records.find? id with
  | none => exact .none
  | some rec => exact .some rec.carried_recover

/-- The records are the same, and so are the counter and the index a submission writes. -/
structure SameBooks (s s' : Scheduler D) : Prop where
  records : s'.records = s.records
  nextRequestId : s'.nextRequestId = s.nextRequestId
  participantRequests : s'.participantRequests = s.participantRequests

end Scheduler

/-! ## Every call -/

/-- A quiet call changes the scheduler only, and leaves records and grants as they are. -/
theorem System.next_quiet [Double D] (y : System D) {op : Op D} (hop : op.isQuiet = true) :
    ∃ s, y.next op = { y with sched := s } ∧ Scheduler.Rewritten Eq y.sched s := by
  cases op with
  | publishPlan pl => exact ⟨_, rfl, y.sched.publishPlan_rewritten pl⟩
  | publishDependency dep => exact ⟨_, rfl, y.sched.publishDependency_rewritten dep⟩
  | publishReservation res => exact ⟨_, rfl, y.sched.publishReservation_rewritten res⟩
  | publishCongestion cong => exact ⟨_, rfl, y.sched.publishCongestion_rewritten cong⟩
  | publishCapacity cap => exact ⟨_, rfl, y.sched.publishCapacity_rewritten cap⟩
  | setPolicy cfg => exact ⟨_, rfl, y.sched.setPolicy_rewritten cfg⟩
  | advanceCoordinatorEpoch epoch =>
      exact ⟨_, rfl, y.sched.advanceCoordinatorEpoch_rewritten epoch⟩
  | advanceTime d => exact ⟨_, rfl, y.sched.advanceTime_rewritten d⟩
  | _ => cases hop

theorem System.sameBooks_quiet [Double D] (y : System D) {op : Op D} (hop : op.isQuiet = true) :
    y.sched.SameBooks (y.next op).sched := by
  cases op with
  | publishPlan pl =>
      change y.sched.SameBooks (y.sched.publishPlan pl).1
      unfold Scheduler.publishPlan
      split_ifs <;> exact ⟨rfl, rfl, rfl⟩
  | publishDependency dep =>
      change y.sched.SameBooks (y.sched.publishDependency dep).1
      unfold Scheduler.publishDependency
      split_ifs <;> exact ⟨rfl, rfl, rfl⟩
  | publishReservation res => exact ⟨rfl, rfl, rfl⟩
  | publishCongestion cong =>
      change y.sched.SameBooks (y.sched.publishCongestion cong).1
      unfold Scheduler.publishCongestion
      split_ifs <;> exact ⟨rfl, rfl, rfl⟩
  | publishCapacity cap =>
      change y.sched.SameBooks (y.sched.publishCapacity cap).1
      unfold Scheduler.publishCapacity
      split_ifs <;> exact ⟨rfl, rfl, rfl⟩
  | setPolicy cfg => exact ⟨rfl, rfl, rfl⟩
  | advanceCoordinatorEpoch epoch =>
      change y.sched.SameBooks (y.sched.advanceCoordinatorEpoch epoch).1
      unfold Scheduler.advanceCoordinatorEpoch
      split_ifs <;> exact ⟨rfl, rfl, rfl⟩
  | advanceTime d => exact ⟨rfl, rfl, rfl⟩
  | _ => cases hop

/-- What a call does to the record under one id. -/
inductive RecordStep (op : Op D) (id : CollectiveRequestId) :
    Option (Record D) → Option (Record D) → Prop
  | absent : RecordStep op id none none
  | filed {rec : Record D} {req : CollectiveRequest D} (hop : op = .submit req)
      (hid : rec.request.id = id) (hvalid : rec.request.WellFormed)
      (hlife : rec.lifecycle = .declared) (hgrant : rec.currentGrant = none) :
      RecordStep op id none (some rec)
  | carried {rec rec' : Record D} (h : rec.Carried rec') : RecordStep op id (some rec) (some rec')
  | replaced {rec : Record D} {req : CollectiveRequest D} (hop : op = .supersede req)
      (hid : req.id = id) (hgen : rec.request.gen < req.gen) (hvalid : req.WellFormed) :
      RecordStep op id (some rec) (some (Scheduler.supersedingRecord rec req))

theorem RecordsCarried.step {m m' : FinMap CollectiveRequestId (Record D)}
    (h : RecordsCarried m m') (op : Op D) (id : CollectiveRequestId) :
    RecordStep op id (m.find? id) (m'.find? id) := by
  have hrel := h id
  generalize m.find? id = found at hrel
  generalize m'.find? id = found' at hrel
  cases hrel with
  | none => exact .absent
  | some hrec => exact .carried hrec

namespace System

variable [Double D] (y : System D)

theorem submit_recordStep (req : CollectiveRequest D) (id : CollectiveRequestId) :
    RecordStep (.submit req) id (y.sched.records.find? id)
      ((y.sched.submit req).1.records.find? id) := by
  rcases y.sched.submit_cases req with ⟨next, e, heq⟩ | ⟨-, hvalid, heq⟩
  · rw [heq]
    exact (RecordsCarried.refl _).step _ id
  · rw [heq, FinMap.find?_emplace]
    split_ifs with hid
    · subst hid
      cases y.sched.records.find? y.sched.nextRequestId with
      | none => exact .filed rfl rfl (validateRequest_wellFormed hvalid) rfl rfl
      | some rec => exact .carried (Record.Carried.refl rec)
    · exact (RecordsCarried.refl _).step _ id

theorem supersede_recordStep (req : CollectiveRequest D) (id : CollectiveRequestId) :
    RecordStep (.supersede req) id (y.sched.records.find? id)
      ((y.sched.supersede req).1.records.find? id) := by
  rcases y.sched.supersede_cases req with ⟨e, heq⟩ | ⟨old, hfind, hgen, hvalid, heq⟩
  · rw [heq]
    exact (RecordsCarried.refl _).step _ id
  · rw [heq]
    simp only [Scheduler.releaseForSupersede_records, FinMap.find?_insert]
    split_ifs with hid
    · rw [hid, hfind]
      exact .replaced rfl rfl hgen (validateRequest_wellFormed hvalid)
    · exact (RecordsCarried.refl _).step _ id

/-- Every call, in every state and with any arguments, does to every record one
of the four things. -/
theorem recordStep (op : Op D) (id : CollectiveRequestId) :
    RecordStep op id (y.sched.records.find? id) ((y.next op).sched.records.find? id) := by
  by_cases hquiet : op.isQuiet = true
  · obtain ⟨s, hnext, hrewritten⟩ := y.next_quiet hquiet
    rw [hnext]
    exact RecordsCarried.step (.ofRewritten Moves.ofEq hrewritten.records) op id
  cases op with
  | publishParticipant p =>
      exact RecordsCarried.step
        (.ofRewritten Revokes.moves (y.sched.publishParticipant_rewritten p).records) _ id
  | submit req => exact y.submit_recordStep req id
  | supersede req => exact y.supersede_recordStep req id
  | cancel rid => exact (y.sched.cancel_carried rid).step _ id
  | schedule recordOrder grantOrder =>
      rw [sched_next_schedule]
      exact (y.sched.scheduleRound_carried recordOrder grantOrder).step _ id
  | handoff g accepted => exact (y.sched.handoff_carried g accepted).step _ id
  | handoffBegin g =>
      rw [sched_next_handoffBegin]
      exact (y.sched.handoffBegin_carried g).step _ id
  | handoffEnd g accepted =>
      rw [sched_next_handoffEnd]
      split_ifs
      · exact (y.sched.handoffEnd_carried g accepted).step _ id
      · exact (RecordsCarried.refl _).step _ id
  | complete g wb sb => exact (y.sched.complete_carried g wb sb).step _ id
  | fenceWorkerBoot worker boot recordOrder =>
      exact (y.sched.fenceWorkerBoot_carried worker boot recordOrder).step _ id
  | resetDynamicStateForRecovery => exact y.sched.reset_carried.step _ id
  | _ => exact absurd rfl hquiet

end System

/-! ## Keys and generations -/

theorem Scheduler.Keyed.rewritten {R : LifecycleState → LifecycleState → Prop}
    {s s' : Scheduler D} (h : s.Keyed) (hrecords : RecordsRewritten R s.records s'.records) :
    s'.Keyed := by
  intro id rec' hfind'
  obtain ⟨rec, hfind, hrec⟩ := hrecords.find?_new hfind'
  rw [hrec.request]
  exact h id rec hfind

theorem RecordStep.keyed {op : Op D} {id : CollectiveRequestId}
    {before after : Option (Record D)} (h : RecordStep op id before after)
    (hbefore : ∀ rec, before = some rec → rec.request.id = id) :
    ∀ rec, after = some rec → rec.request.id = id := by
  intro rec hafter
  cases h with
  | absent => cases hafter
  | filed _ hid _ _ _ =>
      cases hafter
      exact hid
  | carried hcarried =>
      cases hafter
      rw [hcarried.request]
      exact hbefore _ rfl
  | replaced _ hid _ _ =>
      cases hafter
      exact hid

theorem RecordStep.gen_le {op : Op D} {id : CollectiveRequestId} {rec : Record D}
    {after : Option (Record D)} (h : RecordStep op id (some rec) after) :
    ∃ rec', after = some rec' ∧ rec.request.gen ≤ rec'.request.gen := by
  cases h with
  | carried hcarried => exact ⟨_, rfl, hcarried.request ▸ le_refl _⟩
  | replaced _ _ hgen _ => exact ⟨_, rfl, hgen.le⟩

/-! ## Orderly records -/

/-- What every record satisfies between calls. -/
structure Record.Orderly (id : CollectiveRequestId) (rec : Record D) : Prop where
  keyed : rec.request.id = id
  wellFormed : rec.request.WellFormed
  atRest : rec.lifecycle.atRest = true

theorem Record.Orderly.carried {id : CollectiveRequestId} {rec rec' : Record D}
    (h : rec.Orderly id) (hcarried : rec.Carried rec') : rec'.Orderly id where
  keyed := by rw [hcarried.request]; exact h.keyed
  wellFormed := by rw [hcarried.request]; exact h.wellFormed
  atRest := (hcarried.moves.guarded h.atRest).2

/-- All records are orderly. -/
def Scheduler.Orderly (s : Scheduler D) : Prop :=
  ∀ id rec, s.records.find? id = some rec → rec.Orderly id

theorem Scheduler.Orderly.keyed {s : Scheduler D} (h : s.Orderly) : s.Keyed :=
  fun id rec hfind => (h id rec hfind).keyed

theorem Scheduler.Orderly.settled {s : Scheduler D} (h : s.Orderly) : s.Settled := by
  intro id rec hfind
  have hrest := (h id rec hfind).atRest
  constructor <;> intro hlife <;> rw [hlife] at hrest <;> exact absurd hrest (by decide)

theorem RecordStep.orderly {op : Op D} {id : CollectiveRequestId}
    {before after : Option (Record D)} (h : RecordStep op id before after)
    (hbefore : ∀ rec, before = some rec → rec.Orderly id) :
    ∀ rec, after = some rec → rec.Orderly id := by
  intro rec hafter
  cases h with
  | absent => cases hafter
  | filed hop hid hvalid hlife hgrant =>
      cases hafter
      exact ⟨hid, hvalid, by rw [hlife]; rfl⟩
  | carried hcarried =>
      cases hafter
      exact (hbefore _ rfl).carried hcarried
  | replaced hop hid hgen hvalid =>
      cases hafter
      exact ⟨hid, hvalid, rfl⟩

theorem System.start_orderly (policy : PolicyConfig D) (epoch : CoordinatorEpoch) :
    (System.start policy epoch).sched.Orderly := by
  intro id rec hfind
  cases hfind

theorem System.next_orderly [Double D] {y : System D} (op : Op D) (h : y.sched.Orderly) :
    (y.next op).sched.Orderly :=
  fun id => (y.recordStep op id).orderly (h id)

theorem System.run_orderly [Double D] {y : System D} (h : y.sched.Orderly) (ops : List (Op D)) :
    (y.run ops).sched.Orderly :=
  Runs.exec_induct (P := fun y : System D => y.sched.Orderly)
    (fun _ op hy => System.next_orderly op hy) ops h

end CollectiveScheduler
