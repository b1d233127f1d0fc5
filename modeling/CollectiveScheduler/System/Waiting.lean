/-
  System/Waiting.lean --- who waits for a grant, and for how long.

  A record is in line while the readiness pass can still make it a candidate.  Nothing
  brings a record back in line but `supersede`, which files it anew, and only the round
  counts its age: so whoever is in line after a call was in line before it, or starts at
  age zero.
-/
import CollectiveScheduler.System.Accounts
import CollectiveScheduler.System.NewGrants
import CollectiveScheduler.System.Untouched

set_option autoImplicit false

namespace CollectiveScheduler

open Foundation LifecycleState

variable {D : Type}

/-! ## The rewrites of single records -/

/-- The call begins a handoff. -/
def Op.isHandoff : Op D → Bool
  | .handoff _ _ => true
  | .handoffBegin _ => true
  | _ => false

/-- What a call other than a submission, a supersession and a round writes into a
record. -/
inductive Record.Touch (op : Op D) : Record D → Record D → Prop
  | revalidate (rec : Record D) : Touch op rec rec.demandRevalidation
  | cancel {rec : Record D} (h : rec.lifecycle.isTerminalState = false) : Touch op rec rec.cancel
  | dispatch {rec : Record D} (hop : op.isHandoff = true) (h : rec.lifecycle = .granted) :
      Touch op rec { rec with lifecycle := .dispatching }
  | land (rec : Record D) (accepted : Bool) : Touch op rec (Scheduler.landed rec accepted)
  | handOff {rec : Record D} (hop : op.isHandoff = true) (h : rec.lifecycle = .granted)
      (accepted : Bool) : Touch op rec (Scheduler.handedOff rec accepted)
  | complete {rec : Record D} (h : rec.lifecycle = .active) :
      Touch op rec (Scheduler.completedRecord rec)
  | recover (rec : Record D) : Touch op rec rec.recover

/-- The call puts a request in line. -/
def Op.arrives : Op D → Bool
  | .submit _ => true
  | .supersede _ => true
  | _ => false

/-- The call is a round. -/
def Op.isRound : Op D → Bool
  | .schedule _ _ => true
  | _ => false

/-- The call neither files a record nor takes a decision. -/
def Op.onlyTouches (op : Op D) : Bool := !op.arrives && !op.isRound

section Rule

variable {op : Op D} {R : Record D → Record D → Prop} (hrefl : ∀ rec, R rec rec)
  (htrans : ∀ rec rec' rec'', R rec rec' → R rec' rec'' → R rec rec'')
  (htouch : ∀ rec rec', Record.Touch op rec rec' → R rec rec')

include hrefl htouch

theorem Scheduler.related_of_touch {s s' : Scheduler D} {id : CollectiveRequestId}
    {rec rec' : Record D} (hfind : s.records.find? id = some rec)
    (hrecords : s'.records = s.records.insert id rec') (htouched : Record.Touch op rec rec') :
    FinMap.Related R s.records s'.records := by
  rw [hrecords]
  exact FinMap.Related.replace hrefl hfind (htouch _ _ htouched)

include htrans

theorem Scheduler.related_publishParticipant (s : Scheduler D) (p : Participant) :
    FinMap.Related R s.records (s.publishParticipant p).1.records := by
  unfold publishParticipant
  split_ifs
  · exact FinMap.Related.refl hrefl _
  · refine FinMap.Related.modifyAll hrefl htrans _ _ fun _ rec => ?_
    unfold revalidateAgainst
    split_ifs
    · exact hrefl rec
    · exact htouch _ _ (.revalidate rec)
    · exact hrefl rec
  · exact FinMap.Related.refl hrefl _

/-- What every rewrite of a record keeps, every call keeps of all records that neither
files one nor takes a decision. -/
theorem System.next_related [Double D] (y : System D) (hop : op.onlyTouches = true) :
    FinMap.Related R y.sched.records (y.next op).sched.records := by
  have hsame : FinMap.Related R y.sched.records y.sched.records := FinMap.Related.refl hrefl _
  by_cases hquiet : op.isQuiet = true
  · rw [(y.sameBooks_quiet hquiet).records]
    exact hsame
  cases op with
  | publishParticipant p =>
      exact Scheduler.related_publishParticipant hrefl htrans htouch y.sched p
  | cancel id =>
      change FinMap.Related R y.sched.records (y.sched.cancel id).1.records
      rcases y.sched.cancel_cases id with
        heq | ⟨rec, hfind, hlive, ⟨-, heq⟩ | ⟨g, gs, -, heq⟩⟩ <;> rw [heq]
      · exact hsame
      · exact Scheduler.related_of_touch hrefl htouch hfind rfl (.cancel hlive)
      · exact Scheduler.related_of_touch hrefl htouch hfind rfl (.cancel hlive)
  | handoff g accepted =>
      change FinMap.Related R y.sched.records (y.sched.handoff g accepted).1.records
      rcases y.sched.handoff_cases g accepted with
        ⟨heq, -⟩ | ⟨rec, hfind, -, hgranted, -, ⟨-, heq, -⟩ | ⟨gs, -, -, heq⟩⟩ <;> rw [heq]
      · exact hsame
      · exact Scheduler.related_of_touch hrefl htouch hfind rfl (.handOff rfl hgranted accepted)
      · exact Scheduler.related_of_touch hrefl htouch hfind rfl (.handOff rfl hgranted accepted)
  | handoffBegin g =>
      rw [sched_next_handoffBegin]
      rcases y.sched.handoffBegin_cases g with heq | ⟨rec, hfind, -, hgranted, -, heq⟩ <;> rw [heq]
      · exact hsame
      · exact Scheduler.related_of_touch hrefl htouch hfind rfl (.dispatch rfl hgranted)
  | handoffEnd g accepted =>
      rw [sched_next_handoffEnd]
      split_ifs
      · rcases y.sched.handoffEnd_cases g accepted with
          ⟨-, heq⟩ | ⟨rec, hfind, ⟨-, heq⟩ | ⟨gs, -, ⟨-, heq⟩ | ⟨-, heq⟩⟩⟩ <;> rw [heq]
        · exact hsame
        all_goals exact Scheduler.related_of_touch hrefl htouch hfind rfl (.land rec accepted)
      · exact hsame
  | complete g wb sb =>
      change FinMap.Related R y.sched.records (y.sched.complete g wb sb).1.records
      rcases y.sched.complete_cases g wb sb with
        heq | ⟨rec, gs, hfind, -, -, hactive, heq⟩ <;> rw [heq]
      · exact hsame
      · exact Scheduler.related_of_touch hrefl htouch hfind rfl (.complete hactive)
  | fenceWorkerBoot worker boot recordOrder =>
      refine Scheduler.fenceWorkerBoot_induct
        (P := fun t => FinMap.Related R y.sched.records t.records) recordOrder hsame ?_
      intro t rid rec pid hfind _ _ _ ht
      exact FinMap.Related.trans htrans ht
        (Scheduler.related_of_touch hrefl htouch hfind (Scheduler.fenceHit_records t rid rec)
          (.revalidate rec))
  | resetDynamicStateForRecovery =>
      exact FinMap.Related.mapVals (fun _ rec => htouch _ _ (.recover rec)) y.sched.records
  | _ => first | exact absurd rfl hquiet | cases hop

end Rule

/-! ## The place of a record in line -/

/-- The record keeps its age and its account, and is not brought back in line. -/
structure Record.KeepsPlace (rec rec' : Record D) : Prop where
  ageTicks : rec'.ageTicks = rec.ageTicks
  fairness : rec'.fairness = rec.fairness
  pending : rec'.lifecycle.isPending = true → rec.lifecycle.isPending = true

theorem Record.KeepsPlace.refl (rec : Record D) : rec.KeepsPlace rec := ⟨rfl, rfl, id⟩

theorem Record.KeepsPlace.trans (rec rec' rec'' : Record D) (h : rec.KeepsPlace rec')
    (h' : rec'.KeepsPlace rec'') : rec.KeepsPlace rec'' where
  ageTicks := h'.ageTicks.trans h.ageTicks
  fairness := h'.fairness.trans h.fairness
  pending hpending := h.pending (h'.pending hpending)

theorem Record.Touch.keepsPlace {op : Op D} (rec rec' : Record D) (h : Record.Touch op rec rec') :
    rec.KeepsPlace rec' := by
  cases h with
  | revalidate =>
      have hlife := (Scheduler.demandRevalidation_frame rec).2.2
      refine ⟨?_, Scheduler.AccountsKept.demandRevalidation rec, fun hpending => ?_⟩
      · unfold Record.demandRevalidation
        split_ifs <;> rfl
      · rcases hlife with hkeep | ⟨-, hmove⟩
        · rw [hkeep] at hpending
          exact hpending
        · rw [hmove] at hpending
          cases hpending
  | cancel =>
      refine ⟨rfl, rfl, fun hpending => ?_⟩
      rw [Scheduler.cancel_lifecycle] at hpending
      cases hpending
  | dispatch => exact ⟨rfl, rfl, fun hpending => by cases hpending⟩
  | land accepted =>
      refine ⟨rfl, rfl, fun hpending => ?_⟩
      unfold Scheduler.landed at hpending
      simp only at hpending
      split_ifs at hpending
      · cases hpending
      · exact hpending
  | handOff _ _ accepted =>
      refine ⟨rfl, rfl, fun hpending => ?_⟩
      cases accepted <;> cases hpending
  | complete => exact ⟨rfl, rfl, fun hpending => by cases hpending⟩
  | recover =>
      refine ⟨rfl, rfl, fun hpending => ?_⟩
      simp only [Record.recover, transitionOrForce_eq] at hpending
      split_ifs at hpending
      · exact hpending
      · cases hpending

theorem System.next_keepsPlace [Double D] (y : System D) {op : Op D}
    (hop : op.onlyTouches = true) :
    FinMap.Related Record.KeepsPlace y.sched.records (y.next op).sched.records :=
  y.next_related Record.KeepsPlace.refl Record.KeepsPlace.trans Record.Touch.keepsPlace hop

/-! ## The round -/

section Round

variable [Double D] {s s' : Scheduler D} {recordOrder : List CollectiveRequestId}
  {grantOrder : List CollectiveGrantId} {dec : ScheduleDecision D}
  {created : List CollectiveGrant} {id : CollectiveRequestId}

namespace Scheduler

/-- A record that a round does not select is refreshed, and its account is brought up to
date if it was a candidate. -/
theorem find?_scheduleRound_of_notMem (hkeyed : s.Keyed)
    (h : s.scheduleRound recordOrder grantOrder = (s', .ok (dec, created)))
    (hnot : id ∉ dec.selected) :
    s'.records.find? id = (s.records.find? id).map (fun rec => { (s.refreshRecord rec).1 with
      fairness := if id ∈ s.candidates recordOrder then accountRound s.policy false rec.fairness
        else rec.fairness }) := by
  have hresult := scheduleRound_ok h
  rw [hresult.selected] at hnot
  have hpolicy : (createGrants s.openDecision s.refreshed (s.selection recordOrder)).1.policy =
      s.policy :=
    congrArg (fun c : Setting D => c.background.2) (setting_createGrants _ _ s.refreshed)
  rw [hresult.state, find?_accountFairness _ _ (nodup_candidates hkeyed recordOrder),
    overlapGroup_records, (overlapGroup_frame _ _).1, hpolicy, find?_createGrants_of_notMem _ hnot,
    find?_refreshed, Option.map_map]
  refine congrArg (fun f => Option.map f (s.records.find? id)) (funext fun rec => ?_)
  simp only [Function.comp_apply, decide_eq_false hnot, (refreshRecord_frame s rec).2.2.2]

/-- A record that a round selects is GRANTED afterwards. -/
theorem granted_of_mem_selected (horderly : s.Orderly)
    (h : s.scheduleRound recordOrder grantOrder = (s', .ok (dec, created)))
    (hmem : id ∈ dec.selected) :
    ∃ rec rec', s.records.find? id = some rec ∧ s.eligible rec = true ∧
      s'.records.find? id = some rec' ∧ rec'.lifecycle = .granted := by
  rw [← requests_scheduleRound horderly h] at hmem
  obtain ⟨g, hg, rfl⟩ := List.mem_map.mp hmem
  obtain ⟨rec, t, rec', hfind, heligible, -, hfind', -, hgranted, -⟩ :=
    held_scheduleRound horderly h g hg
  exact ⟨rec, rec', hfind, heligible, hfind', hgranted⟩

/-- Who is in line after a round was in line before, and is one tick older. -/
theorem inLine_scheduleRound (horderly : s.Orderly)
    (h : s.scheduleRound recordOrder grantOrder = (s', .ok (dec, created))) {rec' : Record D}
    (hfind' : s'.records.find? id = some rec') (hpending : rec'.lifecycle.isPending = true) :
    id ∉ dec.selected ∧ ∃ rec, s.records.find? id = some rec ∧
      rec.lifecycle.isPending = true ∧ rec'.ageTicks = rec.ageTicks + 1 := by
  have hnot : id ∉ dec.selected := by
    intro hmem
    obtain ⟨-, r, -, -, hr, hgranted⟩ := granted_of_mem_selected horderly h hmem
    rw [hr, Option.some.injEq] at hfind'
    rw [← hfind', hgranted] at hpending
    cases hpending
  refine ⟨hnot, ?_⟩
  rw [find?_scheduleRound_of_notMem horderly.keyed h hnot] at hfind'
  obtain ⟨rec, hfind, rfl⟩ := Option.map_eq_some_iff.mp hfind'
  have hbefore : rec.lifecycle.isPending = true :=
    (s.refreshRecord_refreshes rec).pending hpending
  exact ⟨rec, hfind, hbefore, s.refreshRecord_ageTicks (not_terminal_of_pending hbefore)⟩

end Scheduler

end Round

/-! ## Every call -/

/-- What a call adds to the age of a record in line. -/
def Op.ticks : Op D → UInt64
  | .schedule _ _ => 1
  | _ => 0

/-- Who is in line after a call starts at age zero, or was in line before it and has aged
by the call. -/
theorem System.next_inLine [Double D] {y : System D} (horderly : y.sched.Orderly) (op : Op D)
    {id : CollectiveRequestId} {rec' : Record D}
    (hfind' : (y.next op).sched.records.find? id = some rec')
    (hpending : rec'.lifecycle.isPending = true) :
    (op.arrives = true ∧ rec'.ageTicks = 0) ∨
      ∃ rec, y.sched.records.find? id = some rec ∧ rec.lifecycle.isPending = true ∧
        rec'.ageTicks = rec.ageTicks + op.ticks := by
  have hkept : ∀ {rec : Record D}, y.sched.records.find? id = some rec → rec.KeepsPlace rec' →
      ∃ rec, y.sched.records.find? id = some rec ∧ rec.lifecycle.isPending = true ∧
        rec'.ageTicks = rec.ageTicks + 0 := by
    intro rec hfind hplace
    exact ⟨rec, hfind, hplace.pending hpending, by rw [hplace.ageTicks, UInt64.add_zero]⟩
  cases hop : op.onlyTouches with
  | true =>
      obtain ⟨rec, hfind, hplace⟩ := (y.next_keepsPlace hop).find?_new hfind'
      refine .inr ?_
      have hticks : op.ticks = 0 := by cases op <;> first | rfl | cases hop
      rw [hticks]
      exact hkept hfind hplace
  | false =>
      cases op with
      | submit req =>
          rw [sched_next_submit] at hfind'
          rcases y.sched.submit_cases req with ⟨next, e, heq⟩ | ⟨-, -, heq⟩ <;>
            rw [heq] at hfind'
          · exact .inr (hkept hfind' (.refl rec'))
          · rcases FinMap.find?_emplace_cases hfind' with hold | ⟨-, -, rfl⟩
            · exact .inr (hkept hold (.refl rec'))
            · exact .inl ⟨rfl, rfl⟩
      | supersede req =>
          change (y.sched.supersede req).1.records.find? id = some rec' at hfind'
          rcases y.sched.supersede_cases req with ⟨e, heq⟩ | ⟨old, -, -, -, heq⟩ <;>
            rw [heq] at hfind'
          · exact .inr (hkept hfind' (.refl rec'))
          · simp only [Scheduler.releaseForSupersede_records, FinMap.find?_insert] at hfind'
            split_ifs at hfind'
            · cases hfind'
              exact .inl ⟨rfl, rfl⟩
            · exact .inr (hkept hfind' (.refl rec'))
      | schedule recordOrder grantOrder =>
          obtain ⟨s', dec, created, hround⟩ :=
            Scheduler.scheduleRound_isOk horderly.settled recordOrder grantOrder
          rw [sched_next_schedule, hround] at hfind'
          exact .inr (Scheduler.inLine_scheduleRound horderly hround hfind' hpending).2
      | _ => cases hop

/-- The call files the request anew. -/
def Op.supersedes (id : CollectiveRequestId) : Op D → Bool
  | .supersede req => req.id = id
  | _ => false

/-- Between the rounds a record that is not filed anew keeps its age and its account. -/
theorem System.next_place [Double D] (y : System D) {op : Op D} (hround : op.isRound = false)
    {id : CollectiveRequestId} (hkept : op.supersedes id = false) {rec : Record D}
    (hfind : y.sched.records.find? id = some rec) :
    ∃ rec', (y.next op).sched.records.find? id = some rec' ∧ rec.KeepsPlace rec' := by
  cases hop : op.onlyTouches with
  | true => exact (y.next_keepsPlace hop).find?_some hfind
  | false =>
      refine ⟨rec, ?_, .refl rec⟩
      cases op with
      | submit req =>
          rw [sched_next_submit]
          rcases y.sched.submit_cases req with ⟨next, e, heq⟩ | ⟨-, -, heq⟩ <;> rw [heq]
          · exact hfind
          · exact FinMap.find?_emplace_of_some hfind _ _
      | supersede req =>
          change (y.sched.supersede req).1.records.find? id = some rec
          rcases y.sched.supersede_cases req with ⟨e, heq⟩ | ⟨old, -, -, -, heq⟩ <;> rw [heq]
          · exact hfind
          · have hne : id ≠ req.id := fun heq => of_decide_eq_false hkept heq.symm
            simp only [Scheduler.releaseForSupersede_records]
            exact (FinMap.find?_insert_of_ne _ _ hne).trans hfind
      | schedule => cases hround
      | _ => cases hop

end CollectiveScheduler
