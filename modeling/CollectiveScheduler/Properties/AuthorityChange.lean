/-
  Properties/AuthorityChange.lean --- a participant that changes under a grant.

  A grant lists its participants at the generations they had when it was created.
  Once a publication has raised the generation of one of them, the grant is refused
  for good: the stored generation never goes back, and a reset, which forgets it,
  spends the grant.  A publication that changes the worker boot and keeps the
  generation invalidates nothing (`restarted_worker_keeps_grant`), since a grant
  lists no boots.
-/
import CollectiveScheduler.Properties.HardEligibility
import CollectiveScheduler.System.Barred
import CollectiveScheduler.System.EvidenceStep
import CollectiveScheduler.System.Scenario

set_option autoImplicit false

namespace CollectiveScheduler

open Foundation

variable {D : Type}

namespace Scheduler

/-- The participant is stored at the generation or a later one. -/
def Reaches (s : Scheduler D) (pid : ParticipantId) (gen : ParticipantGeneration) : Prop :=
  ∃ p, s.participants.find? pid = some p ∧ gen ≤ p.gen

/-- The grant lists each of its participants at a generation that the stored one has
reached. -/
def Dated (s : Scheduler D) (g : CollectiveGrant) : Prop :=
  ∀ e ∈ g.participants.zipIdx, ∃ gen, g.participantGens[e.2]? = some gen ∧ s.Reaches e.1 gen

/-- The grant lists a participant at a generation that the stored one has passed. -/
def Overtaken (s : Scheduler D) (g : CollectiveGrant) : Prop :=
  ∃ e ∈ g.participants.zipIdx, ∃ gen later, g.participantGens[e.2]? = some gen ∧ gen < later ∧
    s.Reaches e.1 later

theorem Overtaken.not_current {s : Scheduler D} {g : CollectiveGrant} (h : s.Overtaken g) :
    ¬∀ e ∈ g.participants.zipIdx, s.participantCurrent g.participantGens e.1 e.2 = true := by
  obtain ⟨e, he, gen, later, hgen, hlt, p, hfind, hle⟩ := h
  intro hall
  have hcurrent := hall e he
  simp only [participantCurrent, hfind, hgen, Bool.and_eq_true, decide_eq_true_eq,
    Option.some.injEq] at hcurrent
  rw [hcurrent.1] at hlt
  exact absurd (lt_of_lt_of_le hlt hle) (lt_irrefl _)

end Scheduler

/-! ## Stored generations only move forward -/

section Steps

variable [Double D] {y : System D} {g : CollectiveGrant}

/-- What a call leaves of a stored participant, unless it is a reset. -/
theorem System.next_reaches {pid : ParticipantId} {gen : ParticipantGeneration} (op : Op D)
    (h : y.sched.Reaches pid gen) :
    (y.next op).sched.Reaches pid gen ∨ op = .resetDynamicStateForRecovery := by
  obtain ⟨p, hfind, hle⟩ := h
  rcases y.participants_next op with
    heq | ⟨p', -, hregress, heq⟩ | ⟨worker, boot, recordOrder, -, heq⟩ | ⟨hop, -⟩
  · exact .inl ⟨p, heq ▸ hfind, hle⟩
  · refine .inl ?_
    unfold Scheduler.Reaches
    rw [heq, FinMap.find?_insert]
    split_ifs with hid
    · refine ⟨p', rfl, hle.trans ?_⟩
      rw [Scheduler.participantRegresses, ← hid, hfind] at hregress
      exact not_lt.mp (of_decide_eq_false hregress)
    · exact ⟨p, hfind, hle⟩
  · refine .inl ?_
    unfold Scheduler.Reaches
    rw [heq, Scheduler.fenceParticipants, FinMap.find?_mapVals, hfind, Option.map_some]
    refine ⟨_, rfl, ?_⟩
    split_ifs <;> exact hle
  · exact .inr hop

theorem System.next_dated (hrecorded : y.Recorded) (hg : g ∈ y.issued) (op : Op D)
    (h : y.sched.Spent g ∨ y.sched.Dated g) :
    (y.next op).sched.Spent g ∨ (y.next op).sched.Dated g := by
  rcases h with hspent | hdated
  · exact .inl (next_spent hspent op)
  · by_cases hop : op = .resetDynamicStateForRecovery
    · subst hop
      obtain ⟨rec, hfind, hgen⟩ := hrecorded.known g hg
      exact .inl (Scheduler.spent_reset hfind hgen)
    · refine .inr fun e he => ?_
      obtain ⟨gen, hgen, hreaches⟩ := hdated e he
      exact ⟨gen, hgen, (next_reaches op hreaches).resolve_right hop⟩

/-- The issued grants ask for fresh participants, and are spent or dated. -/
structure System.Listed (y : System D) : Prop where
  recorded : y.Recorded
  fresh : ∀ g ∈ y.issued, g.revalidation.requireFreshParticipants = true
  dated : ∀ g ∈ y.issued, y.sched.Spent g ∨ y.sched.Dated g

/-- A grant of a round lists the participants of an eligible request. -/
theorem System.created_dated (hkeyed : y.sched.Keyed)
    {recordOrder : List CollectiveRequestId} {grantOrder : List CollectiveGrantId}
    {s : Scheduler D} {dec : ScheduleDecision D} {created : List CollectiveGrant}
    (hround : y.sched.scheduleRound recordOrder grantOrder = (s, .ok (dec, created)))
    (hg : g ∈ created) :
    g.revalidation.requireFreshParticipants = true ∧ y.sched.Dated g := by
  obtain ⟨rec, t, -, heligible, hgrant, -⟩ := created_eligible hkeyed hround hg
  obtain ⟨-, -, hhard⟩ := Scheduler.eligible_iff.mp heligible
  obtain ⟨-, hparticipants, -⟩ := Scheduler.hardEligible_none hhard
  constructor
  · rw [hgrant]
    rfl
  · intro e he
    have hlisted : e ∈ rec.request.participants.zipIdx := by
      rw [hgrant] at he
      exact he
    obtain ⟨p, hfind, hgen, -⟩ := Scheduler.participantRejection_none (hparticipants e hlisted)
    refine ⟨p.gen, ?_, p, hfind, le_refl _⟩
    rw [hgrant]
    exact hgen

theorem System.next_listed (h : y.Listed) (op : Op D) : (y.next op).Listed := by
  have hrecorded := next_recorded h.recorded op
  rcases y.issued_next op with heq | ⟨recordOrder, grantOrder, s, dec, created, rfl, hround, heq⟩
  · refine ⟨hrecorded, ?_, ?_⟩ <;> rw [heq]
    · exact h.fresh
    · exact fun g hg => next_dated h.recorded hg op (h.dated g hg)
  · have hmem : ∀ {g : CollectiveGrant}, g ∈ (y.next (.schedule recordOrder grantOrder)).issued →
        g ∈ y.issued ∨ g ∈ created := by
      intro g hg
      rw [heq] at hg
      exact List.mem_append.mp hg
    refine ⟨hrecorded, fun g hg => ?_, fun g hg => ?_⟩
    · exact (hmem hg).elim (h.fresh g) (fun hg => (created_dated h.recorded.keyed hround hg).1)
    · rcases hmem hg with hg | hg
      · exact next_dated h.recorded hg _ (h.dated g hg)
      · refine .inr fun e he => ?_
        obtain ⟨gen, hgen, hreaches⟩ := (created_dated h.recorded.keyed hround hg).2 e he
        exact ⟨gen, hgen, (next_reaches _ hreaches).resolve_right (by rintro ⟨⟩)⟩

/-! ## After the publication -/

/-- The grant is spent or overtaken, and its record is at its generation or a later
one. -/
structure System.Superannuated (y : System D) (g : CollectiveGrant) : Prop where
  known : ∃ rec, y.sched.records.find? g.request = some rec ∧ g.requestGen ≤ rec.request.gen
  fresh : g.revalidation.requireFreshParticipants = true
  past : y.sched.Spent g ∨ y.sched.Overtaken g

theorem System.next_superannuated (h : y.Superannuated g) (op : Op D) :
    (y.next op).Superannuated g := by
  obtain ⟨rec, hfind, hgen⟩ := h.known
  have hstep := y.recordStep op g.request
  rw [hfind] at hstep
  obtain ⟨rec', hfind', hlater⟩ := hstep.gen_le
  refine ⟨⟨rec', hfind', hgen.trans hlater⟩, h.fresh, ?_⟩
  rcases h.past with hspent | ⟨e, he, gen, later, hlisted, hlt, hreaches⟩
  · exact .inl (next_spent hspent op)
  · rcases next_reaches op hreaches with hreaches' | rfl
    · exact .inr ⟨e, he, gen, later, hlisted, hlt, hreaches'⟩
    · exact .inl (Scheduler.spent_reset hfind hgen)

omit [Double D] in
theorem System.Superannuated.handoffBegin_none (h : y.Superannuated g) :
    (y.sched.handoffBegin g).2 = none := by
  rcases h.past with hspent | hovertaken
  · exact Scheduler.handoffBegin_none_of (.inl hspent)
  · rcases y.sched.handoffBegin_cases g with heq | ⟨rec, -, hvalid, -⟩
    · rw [heq]
    · exact absurd (Scheduler.revalidateGrant_participants hvalid h.fresh) hovertaken.not_current

omit [Double D] in
theorem System.Superannuated.complete_false (h : y.Superannuated g) (wb : WorkerBootId)
    (sb : SourceBootId) : (y.sched.complete g wb sb).2.1 = false := by
  rcases h.past with hspent | hovertaken
  · exact Scheduler.Barred.complete_false (.inr (.inl hspent)) wb sb
  · refine Bool.eq_false_of_not_eq_true fun htrue => ?_
    obtain ⟨rec, gs, -, -, hallowed, -⟩ := Scheduler.complete_true htrue
    obtain ⟨-, -, -, -, -, -, hcurrent, -⟩ := Scheduler.completionAllowed_iff.mp hallowed
    exact hovertaken.not_current hcurrent

/-- A publication that raises the generation of a participant overtakes the grants
that list it. -/
theorem System.Listed.superannuated (h : y.Listed) (hg : g ∈ y.issued) {p old : Participant}
    (hold : y.sched.participants.find? p.id = some old) (hraised : old.gen < p.gen)
    (hlisted : p.id ∈ g.participants) : (y.next (.publishParticipant p)).Superannuated g := by
  refine ⟨(next_recorded h.recorded _).known g hg, h.fresh g hg, ?_⟩
  rcases h.dated g hg with hspent | hdated
  · exact .inl (next_spent hspent _)
  · refine .inr ?_
    obtain ⟨i, hi⟩ := List.mem_iff_getElem?.mp hlisted
    have he := List.mk_mem_zipIdx_iff_getElem?.mpr hi
    obtain ⟨gen, hgen, old', hold', hle⟩ := hdated _ he
    rw [hold] at hold'
    cases hold'
    refine ⟨_, he, gen, p.gen, hgen, lt_of_le_of_lt hle hraised, p, ?_, le_refl _⟩
    have haccepted : y.sched.participantRegresses p = false := by
      rw [Scheduler.participantRegresses, hold]
      exact decide_eq_false (not_lt.mpr hraised.le)
    change (y.sched.publishParticipant p).1.participants.find? p.id = some p
    rw [Scheduler.publishParticipant, if_neg (Bool.eq_false_iff.mp haccepted)]
    exact FinMap.find?_insert_self _ _ _

end Steps

/-- In every continuation of a publication that raises the generation of a stored
participant, a handoff or a completion with a grant that was issued since the last restore
before it and lists the participant is refused.  A handoff that was not between its two
sections at the publication does not reach the second one. -/
theorem raised_participant_refuses_grants [Double D] (policy : PolicyConfig D)
    (epoch : CoordinatorEpoch) (actions : List (Action D)) (after : List (Op D))
    (p old : Participant) (g : CollectiveGrant) (accepted : Bool) (wb : WorkerBootId)
    (sb : SourceBootId) :
    let w := (World.start policy epoch).run actions
    let z := (w.sys.next (.publishParticipant p)).run after
    w.sys.sched.participants.find? p.id = some old → old.gen < p.gen →
    g ∈ w.issuedSinceRestore → p.id ∈ g.participants →
      z.outcome (.handoff g accepted) = .answered false ∧
      z.outcome (.handoffBegin g) = .asked false ∧
      z.outcome (.complete g wb sb) = .answered false ∧
      (g ∉ w.sys.inFlight → (z.outcome (.handoffEnd g accepted)).isTrue = false) := by
  intro w z hold hraised hg hlisted
  have hy : w.sinceRestore.Listed := World.run_sinceRestore (P := System.Listed)
    (fun _ hkeyed hnil => ⟨.ofKeyed hkeyed hnil, fun _ h => absurd (hnil ▸ h) List.not_mem_nil,
      fun _ h => absurd (hnil ▸ h) List.not_mem_nil⟩)
    (fun _ op hy => System.next_listed hy op) policy epoch actions
  have hsince := hy.superannuated hg hold hraised hlisted
  have hpublished : (w.sys.next (.publishParticipant p)).Superannuated g :=
    ⟨hsince.known, hsince.fresh, hsince.past⟩
  have hz : z.Superannuated g := Runs.exec_induct (P := fun y : System D => y.Superannuated g)
    (fun _ op hy => System.next_superannuated hy op) after hpublished
  obtain ⟨hhandoff, hbegin⟩ := System.refuses_handoff hz.handoffBegin_none accepted
  refine ⟨hhandoff, hbegin, ?_, fun hground => ?_⟩
  · simp only [System.outcome, System.step, System.ofAnswer, hz.complete_false wb sb]
  · have hground' : g ∉ z.inFlight :=
      System.run_grounded (P := fun y => y.Superannuated g)
        (fun _ op hy => System.next_superannuated hy op)
        (fun _ hy => hy.handoffBegin_none) hpublished hground after
    simp only [System.outcome, System.step, if_neg hground']
    rfl

/-- The worker restarts under a new boot and a new generation: the grant is refused,
also after the request was superseded and granted at the new generation. -/
theorem raised_participant_refuses_grants_restarted :
    let w := (World.start PolicyConfig.default 1).run (Scenario.granted.map .call)
    let p := Scenario.participant 1 2 1 12
    let renewed : CollectiveRequest ℚ := { Scenario.nextGeneration with participantGens := [2] }
    let z := (w.sys.next (.publishParticipant p)).run [.supersede renewed, .schedule [] []]
    ∃ g ∈ w.issuedSinceRestore, (z.sched.records.find? 1).map (·.lifecycle) = some .granted ∧
      z.outcome (.handoff g true) = .answered false := by
  intro w p renewed z
  have hissued : w.issuedSinceRestore.any (fun g => ⟨1⟩ ∈ g.participants) = true := by
    decide +kernel
  obtain ⟨g, hg, hlisted⟩ := List.any_eq_true.mp hissued
  refine ⟨g, hg, by decide +kernel, ?_⟩
  exact (raised_participant_refuses_grants PolicyConfig.default 1 (Scenario.granted.map .call)
    [.supersede renewed, .schedule [] []] p (Scenario.participant 1 1 1 11) g true 0 0
    (by decide +kernel) (by decide) hg (of_decide_eq_true hlisted)).1

/-- The worker restarts under a new boot and publishes its participant at the old
generation: the publication is accepted, and the grant of the old boot is still handed
off and completed. -/
theorem restarted_worker_keeps_grant :
    let y := Scenario.start.run Scenario.granted
    let p := Scenario.participant 1 1 1 12
    y.sched.participants.find? p.id = some (Scenario.participant 1 1 1 11) ∧
    p.workerBoot ≠ (Scenario.participant 1 1 1 11).workerBoot ∧
    y.outcome (.publishParticipant p) = .returned ∧
    ∃ g ∈ y.issued, p.id ∈ g.participants ∧
      (y.next (.publishParticipant p)).outcome (.handoff g true) = .answered true ∧
      ((y.next (.publishParticipant p)).next (.handoff g true)).outcome (.complete g 12 100) =
        .answered true := by
  decide +kernel

end CollectiveScheduler
