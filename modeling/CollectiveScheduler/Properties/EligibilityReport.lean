/-
  Properties/EligibilityReport.lean --- what `info` lists as eligible.

  `info` lists the records that carry the flag of the readiness pass and are neither GRANTED
  nor ACTIVE.  The flag is set for every candidate of a round, the selected ones included.
  Handoff, completion, cancellation and fences leave it standing, and later rounds pass over
  terminal records.  A listed request is in the fallback list of the most recent decision, and
  still open and without a grant, exactly when its record is not terminal and has no current
  grant.
-/
import CollectiveScheduler.Scheduler.Info
import CollectiveScheduler.System.Issuance
import CollectiveScheduler.System.Scenario
import CollectiveScheduler.System.Untouched
import CollectiveScheduler.System.World

set_option autoImplicit false

namespace CollectiveScheduler

open Foundation LifecycleState

variable {D : Type}

/-! ## Calls that leave the flag alone -/

/-- What a call that files no record and runs no round does to a record, as far as the report
goes. -/
structure Record.Fades (rec rec' : Record D) : Prop where
  request : rec'.request = rec.request
  flag : rec'.hardEligible = true → rec.hardEligible = true
  held : rec'.currentGrant.isSome = rec.currentGrant.isSome
  pending : rec'.lifecycle.isPending = true → rec.lifecycle.isPending = true
  terminal : rec.lifecycle.isTerminalState = true → rec'.lifecycle.isTerminalState = true

namespace Record.Fades

theorem refl (rec : Record D) : rec.Fades rec := ⟨rfl, id, rfl, id, id⟩

theorem trans {rec rec' rec'' : Record D} (h : rec.Fades rec') (h' : rec'.Fades rec'') :
    rec.Fades rec'' where
  request := h'.request.trans h.request
  flag hflag := h.flag (h'.flag hflag)
  held := h'.held.trans h.held
  pending hpending := h.pending (h'.pending hpending)
  terminal hterminal := h'.terminal (h.terminal hterminal)

/-- A record that moves to a state that is not pending, from one that is not terminal. -/
theorem move (rec : Record D) {st : LifecycleState} (hst : st.isPending = false)
    (hopen : rec.lifecycle.isTerminalState = false) : rec.Fades { rec with lifecycle := st } where
  request := rfl
  flag := id
  held := rfl
  pending hpending := by
    rw [show ({ rec with lifecycle := st } : Record D).lifecycle = st from rfl, hst] at hpending
    cases hpending
  terminal hterminal := by
    rw [hopen] at hterminal
    cases hterminal

theorem demandRevalidation (rec : Record D) : rec.Fades rec.demandRevalidation := by
  unfold Record.demandRevalidation
  split_ifs with hrevocable
  · rw [transitionOrKeep_revalidationRequired hrevocable]
    refine move rec rfl ?_
    revert hrevocable
    cases rec.lifecycle <;> decide
  · exact refl rec

end Record.Fades

/-- Every record fades, and none appears. -/
def RecordsFade (m m' : FinMap CollectiveRequestId (Record D)) : Prop :=
  FinMap.Related Record.Fades m m'

namespace RecordsFade

variable {m m' m'' : FinMap CollectiveRequestId (Record D)}

theorem refl (m : FinMap CollectiveRequestId (Record D)) : RecordsFade m m :=
  FinMap.Related.refl Record.Fades.refl m

theorem trans (h : RecordsFade m m') (h' : RecordsFade m' m'') : RecordsFade m m'' :=
  FinMap.Related.trans (fun _ _ _ hrec hrec' => hrec.trans hrec') h h'

theorem insert {id : CollectiveRequestId} {rec rec' : Record D} (hfind : m.find? id = some rec)
    (hrec : rec.Fades rec') : RecordsFade m (m.insert id rec') :=
  FinMap.Related.replace Record.Fades.refl hfind hrec

end RecordsFade

namespace Scheduler

theorem publishParticipant_fades (s : Scheduler D) (p : Participant) :
    RecordsFade s.records (s.publishParticipant p).1.records := by
  unfold publishParticipant
  split_ifs
  · exact RecordsFade.refl _
  · refine FinMap.Related.modifyAll Record.Fades.refl (fun _ _ _ hrec hrec' => hrec.trans hrec') _ _
      fun _ rec => ?_
    unfold revalidateAgainst
    split_ifs
    · exact Record.Fades.refl rec
    · exact Record.Fades.demandRevalidation rec
    · exact Record.Fades.refl rec
  · exact RecordsFade.refl _

theorem cancel_fades (s : Scheduler D) (id : CollectiveRequestId) :
    RecordsFade s.records (s.cancel id).1.records := by
  rcases s.cancel_cases id with heq | ⟨rec, hfind, hopen, hcase⟩
  · rw [heq]
    exact RecordsFade.refl _
  · have hrec : rec.Fades rec.cancel := by
      unfold Record.cancel
      rw [transitionOrForce_eq]
      exact Record.Fades.move rec rfl hopen
    rcases hcase with ⟨-, heq⟩ | ⟨g, gs, -, heq⟩ <;> rw [heq] <;>
      exact RecordsFade.insert hfind hrec

theorem handoffBegin_fades (s : Scheduler D) (g : CollectiveGrant) :
    RecordsFade s.records (s.handoffBegin g).1.records := by
  rcases s.handoffBegin_cases g with heq | ⟨rec, hfind, -, hgranted, -, heq⟩ <;> rw [heq]
  · exact RecordsFade.refl _
  · exact RecordsFade.insert hfind (Record.Fades.move rec rfl (by rw [hgranted]; rfl))

theorem landed_fades (rec : Record D) (accepted : Bool) : rec.Fades (landed rec accepted) := by
  unfold landed
  split_ifs with hdispatching
  · exact Record.Fades.move rec rfl (by rw [hdispatching.1]; rfl)
  · exact Record.Fades.refl rec

theorem handoffEnd_fades (s : Scheduler D) (gc : CollectiveGrant) (accepted : Bool) :
    RecordsFade s.records (s.handoffEnd gc accepted).1.records := by
  rcases s.handoffEnd_cases gc accepted with ⟨-, heq⟩ | ⟨rec, hfind, hcase⟩
  · rw [heq]
    exact RecordsFade.refl _
  · have hrecords := RecordsFade.insert hfind (landed_fades rec accepted)
    rcases hcase with ⟨-, heq⟩ | ⟨gs, -, ⟨-, heq⟩ | ⟨-, heq⟩⟩ <;> rw [heq] <;> exact hrecords

theorem handoff_fades (s : Scheduler D) (g : CollectiveGrant) (accepted : Bool) :
    RecordsFade s.records (s.handoff g accepted).1.records := by
  rw [(s.handoff_eq g accepted).1]
  cases (s.handoffBegin g).2 with
  | none => exact s.handoffBegin_fades g
  | some gc => exact (s.handoffBegin_fades g).trans (handoffEnd_fades _ gc accepted)

theorem complete_fades (s : Scheduler D) (g : CollectiveGrant) (wb : WorkerBootId)
    (sb : SourceBootId) : RecordsFade s.records (s.complete g wb sb).1.records := by
  rcases s.complete_cases g wb sb with heq | ⟨rec, gs, hfind, -, -, hactive, heq⟩ <;> rw [heq]
  · exact RecordsFade.refl _
  · refine RecordsFade.insert hfind
      ⟨rfl, id, Option.isSome_map .., fun hpending => ?_, fun _ => rfl⟩
    cases hpending

theorem fenceWorkerBoot_fades (s : Scheduler D) (worker : WorkerId) (boot : WorkerBootId)
    (recordOrder : List CollectiveRequestId) :
    RecordsFade s.records (s.fenceWorkerBoot worker boot recordOrder).records := by
  refine fenceWorkerBoot_induct (P := fun t => RecordsFade s.records t.records) recordOrder
    (RecordsFade.refl _) ?_
  intro t rid rec pid hfind _ _ _ ht
  rw [fenceHit_records]
  exact ht.trans (RecordsFade.insert hfind (Record.Fades.demandRevalidation rec))

end Scheduler

theorem System.next_fades [Double D] (y : System D) {op : Op D}
    (hop : op.rewritesRecords = true) : RecordsFade y.sched.records (y.next op).sched.records := by
  by_cases hquiet : op.isQuiet = true
  · rw [(y.sameBooks_quiet hquiet).records]
    exact RecordsFade.refl _
  cases op with
  | publishParticipant p => exact y.sched.publishParticipant_fades p
  | cancel id => exact y.sched.cancel_fades id
  | handoff g accepted => exact y.sched.handoff_fades g accepted
  | handoffBegin g =>
      rw [sched_next_handoffBegin]
      exact y.sched.handoffBegin_fades g
  | handoffEnd g accepted =>
      rw [sched_next_handoffEnd]
      split_ifs
      · exact y.sched.handoffEnd_fades g accepted
      · exact RecordsFade.refl _
  | complete g wb sb => exact y.sched.complete_fades g wb sb
  | fenceWorkerBoot worker boot recordOrder =>
      exact y.sched.fenceWorkerBoot_fades worker boot recordOrder
  | _ => first | exact absurd rfl hquiet | cases hop

/-! ## The most recent decision -/

/-- A world with the outcome of its most recent `schedule` call, if there was one. -/
structure Watched (D : Type) where
  world : World D
  last : Option (Except SchedulerError (ScheduleDecision D)) := none

namespace Watched

def start (policy : PolicyConfig D) (epoch : CoordinatorEpoch) : Watched D where
  world := World.start policy epoch

def sched (x : Watched D) : Scheduler D := x.world.sys.sched

/-- The request is open, holds no grant that is, and is in the fallback list of the most
recent decision. -/
structure Current (x : Watched D) (id : CollectiveRequestId) (rec : Record D) : Prop where
  nonterminal : rec.lifecycle.isTerminalState = false
  unheld : ∀ g gs, ¬x.sched.HoldsOpenGrant rec g gs
  waits : ∃ dec, x.last = some (.ok dec) ∧ id ∈ dec.fallback

variable [Double D]

/-- The outcome on record after an action. -/
def lastAfter (x : Watched D) : Action D → Option (Except SchedulerError (ScheduleDecision D))
  | .call (.schedule recordOrder grantOrder) =>
      some (x.sched.schedule recordOrder grantOrder).2
  | _ => x.last

def next (x : Watched D) (a : Action D) : Watched D where
  world := x.world.next a
  last := x.lastAfter a

def run (x : Watched D) (actions : List (Action D)) : Watched D := Runs.exec next x actions

/-- Watching does not interfere. -/
theorem world_run (x : Watched D) (actions : List (Action D)) :
    (x.run actions).world = x.world.run actions := by
  induction actions generalizing x with
  | nil => rfl
  | cons a rest ih => exact ih (x.next a)

end Watched

/-! ## What the flag of a record says -/

/-- A record that the readiness pass would derive again has no grant.  A flag on a record that
is not terminal comes from the most recent round: the record was left in the fallback list, or
got a grant. -/
structure Record.Told (last : Option (Except SchedulerError (ScheduleDecision D)))
    (rec : Record D) : Prop where
  unheld : rec.lifecycle.isPending = true → rec.currentGrant = none
  round : rec.hardEligible = true → rec.lifecycle.isTerminalState = false →
    last ≠ none ∧ ∀ dec, last = some (.ok dec) →
      (rec.request.id ∈ dec.fallback ↔ rec.currentGrant = none)

variable {last : Option (Except SchedulerError (ScheduleDecision D))}

/-- A record that is filed, read or recovered. -/
theorem Record.Told.of_cleared {rec : Record D} (hflag : rec.hardEligible = false)
    (hgrant : rec.currentGrant = none) : rec.Told last where
  unheld _ := hgrant
  round h := by
    rw [hflag] at h
    cases h

theorem Record.Told.fade {rec rec' : Record D} (h : rec.Told last) (hfade : rec.Fades rec') :
    rec'.Told last where
  unheld hpending := by
    have hnone := h.unheld (hfade.pending hpending)
    rw [← Option.isNone_iff_eq_none, ← Option.not_isSome, hfade.held, hnone]
    rfl
  round hflag hopen := by
    have hopen₀ : rec.lifecycle.isTerminalState = false :=
      Bool.eq_false_iff.mpr fun h => Bool.eq_false_iff.mp hopen (hfade.terminal h)
    obtain ⟨hsome, hround⟩ := h.round (hfade.flag hflag) hopen₀
    refine ⟨hsome, fun dec hdec => ?_⟩
    rw [hfade.request, hround dec hdec, ← Option.isNone_iff_eq_none, ← Option.isNone_iff_eq_none,
      ← Option.not_isSome, ← Option.not_isSome, hfade.held]

namespace Scheduler

/-- The flags of all records are those of the most recent round. -/
def Told (last : Option (Except SchedulerError (ScheduleDecision D))) (s : Scheduler D) : Prop :=
  ∀ id rec, s.records.find? id = some rec → rec.Told last

variable {s s' : Scheduler D}

theorem Told.fade (h : s.Told last) (hfade : RecordsFade s.records s'.records) :
    s'.Told last := by
  intro id rec' hfind'
  obtain ⟨rec, hfind, hrec⟩ := FinMap.Related.find?_new hfade hfind'
  exact (h id rec hfind).fade hrec

section Calls

variable [Double D]

theorem Told.submit (h : s.Told last) (req : CollectiveRequest D) :
    (s.submit req).1.Told last := by
  rcases s.submit_cases req with ⟨next, e, heq⟩ | ⟨-, -, heq⟩ <;> rw [heq]
  · exact h
  · intro id rec' hfind'
    rcases FinMap.find?_emplace_cases hfind' with hold | ⟨-, -, rfl⟩
    · exact h id rec' hold
    · exact .of_cleared rfl rfl

theorem Told.supersede (h : s.Told last) (req : CollectiveRequest D) :
    (s.supersede req).1.Told last := by
  rcases s.supersede_cases req with ⟨e, heq⟩ | ⟨old, -, -, -, heq⟩ <;> rw [heq]
  · exact h
  · intro id rec' hfind'
    simp only [releaseForSupersede_records] at hfind'
    rw [FinMap.find?_insert] at hfind'
    split_ifs at hfind'
    · cases hfind'
      exact .of_cleared rfl rfl
    · exact h id rec' hfind'

omit [Double D] in
theorem Told.reset (s : Scheduler D) : s.resetDynamicStateForRecovery.Told last := by
  intro id rec' hfind'
  have hmap : s.resetDynamicStateForRecovery.records.find? id =
      (s.records.find? id).map (fun rec => rec.recover) := FinMap.find?_mapVals _ _ _
  rw [hmap] at hfind'
  obtain ⟨rec, -, rfl⟩ := Option.map_eq_some_iff.mp hfind'
  exact .of_cleared rfl rfl

theorem Told.restore (h : s.Told last) (bytes : List UInt8) :
    (Persistence.restore s bytes).1.Told last := by
  refine restore_records bytes h ?_ fun rec _ => .of_cleared rfl rfl
  unfold deserializeRecord
  exact .skip fun _ => .skip fun _ => .skip fun _ => .skip fun _ => .skip fun _ =>
    .pure (.of_cleared rfl rfl)

/-! ## The round -/

omit [Double D] in
/-- The loop grants every request it can promote. -/
theorem createGrants_granted (dec : ScheduleDecision D) {ids : List CollectiveRequestId}
    {s : Scheduler D} (hnodup : ids.Nodup)
    (hpromote : ∀ id ∈ ids, ∃ rec, s.records.find? id = some rec ∧
      promoteToGranted rec = .ok (promoted rec)) {id : CollectiveRequestId} (hid : id ∈ ids) :
    ∃ rec g, (createGrants dec s ids).1.records.find? id =
      some { promoted rec with currentGrant := some g } := by
  induction ids generalizing s with
  | nil => cases hid
  | cons head rest ih =>
      obtain ⟨hnot, hrest⟩ := List.nodup_cons.mp hnodup
      obtain ⟨rec, hfind, hrec⟩ := hpromote head List.mem_cons_self
      unfold createGrants
      simp only [hfind, hrec]
      rcases List.mem_cons.mp hid with rfl | hid
      · rw [find?_createGrants_of_notMem dec hnot]
        exact ⟨rec, _, FinMap.find?_insert_self _ _ _⟩
      · refine ih hrest (fun id' hid' => ?_) hid
        have hne : id' ≠ head := fun heq => hnot (heq ▸ hid')
        rw [find?_createGrant_of_ne s _ _ hne]
        exact hpromote id' (List.mem_cons_of_mem _ hid')

/-- A round tells every record apart: the selected ones have a grant, the other eligible ones
are its fallback, and the rest is not flagged. -/
theorem Told.schedule {recordOrder : List CollectiveRequestId}
    {grantOrder : List CollectiveGrantId} {dec : ScheduleDecision D} (h : s.Told last)
    (hkeyed : s.Keyed) (hkeyed' : s'.Keyed)
    (hround : s.schedule recordOrder grantOrder = (s', .ok dec)) :
    s'.Told (some (.ok dec)) := by
  intro id rec' hfind'
  have hid := hkeyed' id rec' hfind'
  have hselected := schedule_selected hround
  have hfallback := schedule_fallback hround
  rw [schedule_state hround] at hfind'
  obtain ⟨rec₁, hfind₁, account, rfl⟩ := (closeRound_records _ _ _).find?_new hfind'
  by_cases hmem : id ∈ s.selection recordOrder
  · -- the request was selected
    have hpromote : ∀ id ∈ s.selection recordOrder, ∃ rec,
        s.refreshed.records.find? id = some rec ∧
          promoteToGranted rec = .ok (promoted rec) := by
      intro id hid
      obtain ⟨rec, hfind, helig⟩ :=
        (mem_ranking_iff hkeyed).mp ((s.selection_sublist recordOrder).subset hid)
      refine ⟨_, by rw [find?_refreshed, hfind, Option.map_some], ?_⟩
      exact promoteToGranted_candidate ((s.refreshRecord_outcome rec).mpr helig)
    obtain ⟨rec, g, hgranted⟩ := createGrants_granted s.openDecision
      (nodup_selection hkeyed recordOrder) hpromote hmem
    rw [hgranted] at hfind₁
    cases hfind₁
    refine ⟨fun hpending => (by cases hpending), fun _ _ => ⟨fun h => (by cases h), ?_⟩⟩
    rintro _ ⟨⟩
    rw [hid, hfallback, hselected]
    exact iff_of_false (fun hwaits => by simp [hmem] at hwaits) (fun hnone => by cases hnone)
  · -- the record is as the readiness pass left it
    rw [find?_createGrants_of_notMem _ hmem, find?_refreshed] at hfind₁
    obtain ⟨rec, hfind, rfl⟩ := Option.map_eq_some_iff.mp hfind₁
    have hgrant := (s.refreshRecord_frame rec).2.1
    constructor
    case unheld =>
      intro hpending
      have hpending₀ := (s.refreshRecord_refreshes rec).pending hpending
      exact hgrant.trans ((h id rec hfind).unheld hpending₀)
    case round =>
      intro hflag hopen
      have hopen₀ : rec.lifecycle.isTerminalState = false := by
        cases hpending : rec.lifecycle.isPending with
        | true => exact not_terminal_of_pending hpending
        | false =>
            rw [← (s.refreshRecord_refreshes rec).eq_of_not_pending hpending]
            exact hopen
      have helig := (s.refreshRecord_outcome rec).mp ((s.refreshRecord_flag hopen₀).mp hflag)
      refine ⟨fun h => (by cases h), ?_⟩
      rintro _ ⟨⟩
      rw [hid]
      refine iff_of_true ?_ (hgrant.trans ((h id rec hfind).unheld (eligible_iff.mp helig).1))
      exact ((mem_decision_iff hkeyed hround).mpr ⟨rec, hfind, helig⟩).resolve_left
        (hselected ▸ hmem)

/-- A round that throws leaves the grants of its records alone. -/
theorem Told.throws {recordOrder : List CollectiveRequestId}
    {grantOrder : List CollectiveGrantId} {e : SchedulerError} (h : s.Told last)
    (hround : s.scheduleRound recordOrder grantOrder = (s', .error e)) :
    s'.Told (some (.error e)) := by
  intro id rec' hfind'
  obtain ⟨rec, hfind, hrec⟩ := FinMap.Related.find?_new (scheduleRound_error hround).records hfind'
  refine ⟨fun hpending => ?_, fun _ _ => ⟨fun h => (by cases h), fun _ h => (by cases h)⟩⟩
  exact hrec.currentGrant.trans ((h id rec hfind).unheld (hrec.lifecycle.pending hpending))

end Calls

end Scheduler

/-! ## Runs -/

namespace Watched

variable [Double D]

theorem next_told {x : Watched D} (h : x.sched.Told x.last) (hkeyed : x.sched.Keyed)
    (a : Action D) : (x.next a).sched.Told (x.next a).last := by
  have hrestores : (∀ op, a = .call op → (x.world.sys.next op).sched.Told x.last) →
      (x.next a).sched.Told x.last :=
    World.next_keeps (P := Scheduler.Told x.last) (fun _ _ id rec hfind => by cases hfind) h
      (fun _ bytes _ hs => hs.restore bytes)
  cases a with
  | call op =>
      by_cases hop : op.rewritesRecords = true
      · have hlast : (x.next (.call op)).last = x.last := by
          cases op <;> first | rfl | cases hop
        rw [hlast]
        exact h.fade (x.world.sys.next_fades hop)
      cases op with
      | submit req => exact h.submit req
      | supersede req => exact h.supersede req
      | resetDynamicStateForRecovery => exact Scheduler.Told.reset x.sched
      | schedule recordOrder grantOrder =>
          have hkeyed' : (x.next (.call (.schedule recordOrder grantOrder))).sched.Keyed :=
            World.next_keyed hkeyed _
          have hsched : (x.next (.call (.schedule recordOrder grantOrder))).sched =
              (x.sched.scheduleRound recordOrder grantOrder).1 :=
            x.world.sys.sched_next_schedule recordOrder grantOrder
          have hlast : (x.next (.call (.schedule recordOrder grantOrder))).last =
              some (x.sched.schedule recordOrder grantOrder).2 := rfl
          rcases hround : x.sched.scheduleRound recordOrder grantOrder with
            ⟨s', e | ⟨dec, created⟩⟩
          · rw [hlast, hsched, Scheduler.schedule, hround]
            exact h.throws hround
          · have hdecided : x.sched.schedule recordOrder grantOrder = (s', .ok dec) := by
              rw [Scheduler.schedule, hround]
              rfl
            rw [hsched, hround] at hkeyed'
            rw [hlast, hsched, hdecided, hround]
            exact h.schedule hkeyed hkeyed' hdecided
      | _ => exact absurd rfl hop
  | save recordOrder => exact hrestores fun op hop => (by cases hop)
  | restore bytes => exact hrestores fun op hop => (by cases hop)
  | restoreFresh policy epoch bytes => exact hrestores fun op hop => (by cases hop)

theorem run_told (policy : PolicyConfig D) (epoch : CoordinatorEpoch)
    (actions : List (Action D)) :
    let x := (start policy epoch).run actions
    x.sched.Keyed ∧ x.sched.Told x.last := by
  have hstep : ∀ (x : Watched D) a, x.sched.Keyed ∧ x.sched.Told x.last →
      (x.next a).sched.Keyed ∧ (x.next a).sched.Told (x.next a).last :=
    fun x a hx => ⟨World.next_keyed hx.1 a, next_told hx.2 hx.1 a⟩
  refine Runs.exec_induct hstep actions ⟨?_, ?_⟩ <;>
  · intro id rec hfind
    cases hfind

end Watched

/-- Whatever the calls, saves and restores, and unless the most recent `schedule` call threw,
the list has no repetitions, and a request on it is open, holds no open grant and is in the
fallback list of the most recent decision exactly when its record is not terminal and has no
current grant. -/
theorem listed_request_is_current_iff [Double D] (policy : PolicyConfig D)
    (epoch : CoordinatorEpoch) (actions : List (Action D)) (recordOrder : List CollectiveRequestId)
    (x : Watched D) (hrun : x = (Watched.start policy epoch).run actions)
    (hreturned : ∀ e, x.last ≠ some (.error e)) :
    (x.sched.info recordOrder).nextEligible.Nodup ∧
      ∀ id ∈ (x.sched.info recordOrder).nextEligible, ∃ rec,
        x.sched.records.find? id = some rec ∧
          (x.Current id rec ↔
            rec.lifecycle.isTerminalState = false ∧ rec.currentGrant = none) := by
  refine ⟨x.sched.nodup_nextEligible recordOrder, fun id hlisted => ?_⟩
  obtain ⟨hkeyed, htold⟩ := Watched.run_told policy epoch actions
  rw [← hrun] at hkeyed htold
  obtain ⟨rec, hfind, hrec⟩ := Scheduler.mem_nextEligible_iff.mp hlisted
  have hflag : rec.hardEligible = true := by
    simp only [Record.isListed, Bool.and_eq_true] at hrec
    exact hrec.1.1
  refine ⟨rec, hfind, fun hcurrent => ?_, fun hquiet => ?_⟩
  · obtain ⟨dec, hdec, hwaits⟩ := hcurrent.waits
    refine ⟨hcurrent.nonterminal, ?_⟩
    rw [← hkeyed id rec hfind] at hwaits
    exact (((htold id rec hfind).round hflag hcurrent.nonterminal).2 dec hdec).mp hwaits
  · obtain ⟨hsome, hround⟩ := (htold id rec hfind).round hflag hquiet.1
    obtain ⟨outcome, houtcome⟩ := Option.ne_none_iff_exists'.mp hsome
    cases outcome with
    | error e => exact absurd houtcome (hreturned e)
    | ok dec =>
        refine ⟨hquiet.1, fun g gs hholds => ?_, dec, houtcome, ?_⟩
        · rw [hholds.1] at hquiet
          cases hquiet.2
        · rw [← hkeyed id rec hfind]
          exact (hround dec houtcome).mpr hquiet.2

namespace Scenario

/-- The outcome of a run of calls. -/
def watched (ops : List (Op ℚ)) : Watched ℚ :=
  (Watched.start PolicyConfig.default 1).run (ops.map .call)

/-- Of two conflicting requests, the round selects the first. -/
def secondWaits : List (Op ℚ) := conflictingRequests ++ [.schedule [] []]

/-- The first request is handed off and completed. -/
def firstCompleted : List (Op ℚ) :=
  withGrant secondWaits 1 fun g => [.handoff g true, .complete g 11 100]

/-- The execution port refuses the grant of the first request. -/
def firstRefused : List (Op ℚ) := withGrant secondWaits 1 fun g => [.handoff g false]

/-- The current grant of the first record has an open entry. -/
def holdsOpen (s : Scheduler ℚ) : Bool :=
  (s.records.find? 1).any fun rec => rec.currentGrant.any fun g =>
    (s.grants.find? g.id).any fun gs => gs.terminal = false

theorem exists_of_holdsOpen {s : Scheduler ℚ} (h : holdsOpen s = true) :
    ∃ rec g gs, s.records.find? 1 = some rec ∧ s.HoldsOpenGrant rec g gs := by
  obtain ⟨rec, hfind, hrec⟩ := (Option.any_eq_true _ _).mp h
  obtain ⟨g, hcur, hg⟩ := (Option.any_eq_true _ _).mp hrec
  obtain ⟨gs, hentry, hopen⟩ := (Option.any_eq_true _ _).mp hg
  exact ⟨rec, g, gs, hfind, hcur, hentry, of_decide_eq_true hopen⟩

end Scenario

/-- After the round, `info` lists the request that has to wait. -/
theorem listed_request_is_current_iff_waiting :
    let x := Scenario.watched Scenario.secondWaits
    (x.sched.info []).nextEligible = [2] ∧
      ∃ rec, x.sched.records.find? 2 = some rec ∧ x.Current 2 rec := by
  intro x
  have hlisted : (x.sched.info []).nextEligible = [2] := by decide +kernel
  have hreturned : x.last.all (fun outcome => outcome.toOption.isSome) = true := by decide +kernel
  have hquiet : (x.sched.records.find? 2).map (fun rec => (rec.lifecycle, rec.currentGrant)) =
      some (.ready, none) := by decide +kernel
  obtain ⟨-, hcurrent⟩ := listed_request_is_current_iff PolicyConfig.default 1
    (Scenario.secondWaits.map .call) [] x rfl fun e he => by
      rw [he] at hreturned
      cases hreturned
  obtain ⟨rec, hfind, hiff⟩ := hcurrent 2 (hlisted ▸ List.mem_singleton_self 2)
  rw [hfind, Option.map_some, Option.some.injEq, Prod.mk.injEq] at hquiet
  refine ⟨hlisted, rec, hfind, hiff.mpr ⟨?_, hquiet.2⟩⟩
  rw [hquiet.1]
  rfl

/-- A completed request stays on the list, and so does one that holds an open grant, after
its handoff was refused. -/
theorem finished_request_is_listed :
    (let x := Scenario.watched Scenario.firstCompleted
     ∃ rec, 1 ∈ (x.sched.info []).nextEligible ∧ x.sched.records.find? 1 = some rec ∧
       rec.lifecycle = .completed ∧ ¬x.Current 1 rec) ∧
    (let x := Scenario.watched Scenario.firstRefused
     ∃ rec g gs, 1 ∈ (x.sched.info []).nextEligible ∧ x.sched.records.find? 1 = some rec ∧
       x.sched.HoldsOpenGrant rec g gs ∧ ¬x.Current 1 rec) := by
  constructor
  · intro x
    have hlisted : 1 ∈ (x.sched.info []).nextEligible := by decide +kernel
    have hlife : (x.sched.records.find? 1).map (·.lifecycle) = some .completed := by
      decide +kernel
    obtain ⟨rec, hfind, hcompleted⟩ := Option.map_eq_some_iff.mp hlife
    refine ⟨rec, hlisted, hfind, hcompleted, fun hcurrent => ?_⟩
    have hopen := hcurrent.nonterminal
    rw [hcompleted] at hopen
    cases hopen
  · intro x
    have hlisted : 1 ∈ (x.sched.info []).nextEligible := by decide +kernel
    have hholds : Scenario.holdsOpen x.sched = true := by decide +kernel
    obtain ⟨rec, g, gs, hfind, hgrant⟩ := Scenario.exists_of_holdsOpen hholds
    exact ⟨rec, g, gs, hlisted, hfind, hgrant, fun hcurrent => hcurrent.unheld g gs hgrant⟩

end CollectiveScheduler
