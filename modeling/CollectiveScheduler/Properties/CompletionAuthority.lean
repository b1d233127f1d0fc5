/-
  Properties/CompletionAuthority.lean --- who may complete a request.

  `complete` takes the participants, their generations and the epoch it checks
  from its argument, while the lifecycle it changes belongs to the record.  A
  grant decoded from the wire need not be the one that was issued, so the checks
  say something about the record only as far as the argument covers it.  This
  module says exactly how far that is, in every state reached by any calls and by
  restoring any bytes.
-/
import CollectiveScheduler.System.GrantTable
import CollectiveScheduler.System.Scenario
import CollectiveScheduler.System.World

set_option autoImplicit false

namespace CollectiveScheduler

open Foundation

variable {D : Type}

namespace Scheduler

/-- What an accepted completion should mean for the record it ends. -/
structure Authorised (s : Scheduler D) (g : CollectiveGrant) (wb : WorkerBootId)
    (sb : SourceBootId) (rec : Record D) (gs : GrantState) : Prop where
  collective : g.collective = rec.request.collective
  /-- the stored grant was issued in the current epoch -/
  epoch : gs.grant.evidence.epoch = s.epoch
  /-- published at the generation the request names, ready, from a known source -/
  participants : ∀ pid i, (pid, i) ∈ rec.request.participants.zipIdx →
    ∃ p, s.participants.find? pid = some p ∧ rec.request.participantGens[i]? = some p.gen ∧
      p.ready = true ∧ p.readinessSource ≠ .unknown
  boots : ∃ pid ∈ rec.request.participants, ∃ p, s.participants.find? pid = some p ∧
    p.workerBoot = wb ∧ p.sourceBoot = sb

/-- The argument lists a participant at a generation. -/
def lists (g : CollectiveGrant) (pid : ParticipantId) (gen : Option ParticipantGeneration) :
    Prop :=
  ∃ j, (pid, j) ∈ g.participants.zipIdx ∧ g.participantGens[j]? = gen

/-- The argument covers the record: it names its collective, it carries the epoch
of the stored grant, the participants of the record it does not list are current
without it, and the boots belong to a participant of the record, listed or not. -/
structure Covers (s : Scheduler D) (g : CollectiveGrant) (wb : WorkerBootId)
    (sb : SourceBootId) (rec : Record D) (gs : GrantState) : Prop where
  collective : g.collective = rec.request.collective
  epoch : g.evidence.epoch = gs.grant.evidence.epoch
  unlisted : ∀ pid i, (pid, i) ∈ rec.request.participants.zipIdx →
    ¬lists g pid rec.request.participantGens[i]? →
    s.participantCurrent rec.request.participantGens pid i = true
  boots : s.bootMatches (g.participants.filter (· ∈ rec.request.participants)) wb sb = true ∨
    s.bootMatches (rec.request.participants.filter (· ∉ g.participants)) wb sb = true

variable {s : Scheduler D} {g : CollectiveGrant} {wb : WorkerBootId} {sb : SourceBootId}
  {rec : Record D} {gs : GrantState}

theorem participantCurrent_iff {gens : List ParticipantGeneration} {pid : ParticipantId}
    {i : Nat} :
    s.participantCurrent gens pid i = true ↔
      ∃ p, s.participants.find? pid = some p ∧ gens[i]? = some p.gen ∧ p.ready = true ∧
        p.readinessSource ≠ .unknown := by
  unfold participantCurrent
  cases s.participants.find? pid with
  | none => simp
  | some p => simp [Participant.isAvailable]

theorem bootMatches_iff {pids : List ParticipantId} :
    s.bootMatches pids wb sb = true ↔
      ∃ pid ∈ pids, ∃ p, s.participants.find? pid = some p ∧ p.workerBoot = wb ∧
        p.sourceBoot = sb := by
  simp only [bootMatches, List.any_eq_true, Option.any_eq_true, Bool.and_eq_true,
    decide_eq_true_eq]

/-- A participant that an accepted argument lists is current at the generation it
is listed at. -/
theorem current_of_lists
    (hchecked : ∀ e ∈ g.participants.zipIdx,
      s.participantCurrent g.participantGens e.1 e.2 = true)
    {pid : ParticipantId} {gens : List ParticipantGeneration} {i : Nat}
    (hlists : lists g pid gens[i]?) : s.participantCurrent gens pid i = true := by
  obtain ⟨j, hmem, hgen⟩ := hlists
  obtain ⟨p, hfind, hcurrent, havailable⟩ := participantCurrent_iff.mp (hchecked _ hmem)
  exact participantCurrent_iff.mpr ⟨p, hfind, hgen ▸ hcurrent, havailable⟩

/-- Boots of a participant of the record, by whether the argument lists it. -/
theorem bootMatches_split (listed own : List ParticipantId) :
    s.bootMatches own wb sb = true ↔
      s.bootMatches (listed.filter (· ∈ own)) wb sb = true ∨
        s.bootMatches (own.filter (· ∉ listed)) wb sb = true := by
  simp only [bootMatches_iff, List.mem_filter, decide_eq_true_eq]
  constructor
  · rintro ⟨pid, hown, hboots⟩
    by_cases hlisted : pid ∈ listed
    · exact .inl ⟨pid, ⟨hlisted, hown⟩, hboots⟩
    · exact .inr ⟨pid, ⟨hown, hlisted⟩, hboots⟩
  · rintro (⟨pid, ⟨-, hown⟩, hboots⟩ | ⟨pid, ⟨hown, -⟩, hboots⟩)
    · exact ⟨pid, hown, hboots⟩
    · exact ⟨pid, hown, hboots⟩

/-- Behind checks that passed, the record is authorised exactly as far as it is
covered. -/
theorem authorised_iff_covers (hallowed : s.completionAllowed g wb sb rec gs = true) :
    s.Authorised g wb sb rec gs ↔ s.Covers g wb sb rec gs := by
  obtain ⟨-, hepoch, -, -, -, -, hchecked, -⟩ := completionAllowed_iff.mp hallowed
  constructor
  · intro h
    refine ⟨h.collective, hepoch.trans h.epoch.symm, fun pid i hmem _ => ?_, ?_⟩
    · exact participantCurrent_iff.mpr (h.participants pid i hmem)
    · exact (bootMatches_split g.participants rec.request.participants).mp
        (bootMatches_iff.mpr h.boots)
  · intro h
    refine ⟨h.collective, h.epoch.symm.trans hepoch, fun pid i hmem => ?_, ?_⟩
    · by_cases hlists : lists g pid rec.request.participantGens[i]?
      · exact participantCurrent_iff.mp (current_of_lists hchecked hlists)
      · exact participantCurrent_iff.mp (h.unlisted pid i hmem hlists)
    · exact bootMatches_iff.mp
        ((bootMatches_split g.participants rec.request.participants).mpr h.boots)

instance : Decidable (s.Authorised g wb sb rec gs) :=
  decidable_of_iff (g.collective = rec.request.collective ∧ gs.grant.evidence.epoch = s.epoch ∧
      (∀ e ∈ rec.request.participants.zipIdx,
        s.participantCurrent rec.request.participantGens e.1 e.2 = true) ∧
      s.bootMatches rec.request.participants wb sb = true) <| by
    constructor
    · rintro ⟨hcollective, hepoch, hparticipants, hboots⟩
      exact ⟨hcollective, hepoch,
        fun pid i hmem => participantCurrent_iff.mp (hparticipants (pid, i) hmem),
        bootMatches_iff.mp hboots⟩
    · intro h
      exact ⟨h.collective, h.epoch,
        fun e hmem => participantCurrent_iff.mpr (h.participants e.1 e.2 hmem),
        bootMatches_iff.mpr h.boots⟩

theorem complete_accepts (h : (s.complete g wb sb).2.1 = true) :
    ∃ rec gs, s.records.find? g.request = some rec ∧ s.grants.find? g.id = some gs ∧
      s.completionAllowed g wb sb rec gs = true := by
  rcases s.complete_cases g wb sb with heq | ⟨rec, gs, hfind, hentry, hallowed, -, -⟩
  · rw [heq] at h
    cases h
  · exact ⟨rec, gs, hfind, hentry, hallowed⟩

/-- The callers that pass issued grants unaltered are covered. -/
theorem covers_of_issued {issued : List CollectiveGrant} (h : s.Tabled issued)
    (hg : g ∈ issued) (hfind : s.records.find? g.request = some rec)
    (hentry : s.grants.find? g.id = some gs)
    (hallowed : s.completionAllowed g wb sb rec gs = true) : s.Covers g wb sb rec gs := by
  obtain ⟨-, -, -, ⟨cur, hcur, hid, -⟩, -, -, -, hboots⟩ := completionAllowed_iff.mp hallowed
  obtain ⟨hmem, hnames⟩ := (h.issuance.records _ rec hfind).current cur hcur
  obtain rfl : cur = g := h.table.distinct cur hmem g hg hid
  refine ⟨hnames.collective, ?_, fun pid i hmem hlists => ?_, .inl ?_⟩
  · rw [h.table.entry_grant h.issuance hg hentry]
  · rw [← hnames.participants] at hmem
    exact absurd ⟨i, hmem, by rw [hnames.participantGens]⟩ hlists
  · rw [← hnames.participants, List.filter_eq_self.mpr (fun pid hpid => by simpa using hpid)]
    exact hboots

/-- A completion is accepted with authority over the record it ends. -/
def CompletesWithAuthority (s : Scheduler D) (g : CollectiveGrant) (wb : WorkerBootId)
    (sb : SourceBootId) : Prop :=
  ∃ rec gs, s.records.find? g.request = some rec ∧ s.grants.find? g.id = some gs ∧
    s.Authorised g wb sb rec gs

instance : Decidable (s.CompletesWithAuthority g wb sb) :=
  decidable_of_iff (∃ rec ∈ s.records.find? g.request, ∃ gs ∈ s.grants.find? g.id,
      s.Authorised g wb sb rec gs) <| by
    simp only [CompletesWithAuthority, Option.mem_def]
    constructor
    · rintro ⟨rec, hfind, gs, hentry, h⟩
      exact ⟨rec, gs, hfind, hentry, h⟩
    · rintro ⟨rec, gs, hfind, hentry, h⟩
      exact ⟨rec, hfind, gs, hentry, h⟩

end Scheduler

/-! ## The property -/

/-- Callers that pass on the grants they were issued complete with authority, in
every run that leaves room for grant ids. -/
theorem completesWithAuthority_of_issued [Double D] (policy : PolicyConfig D)
    (epoch : CoordinatorEpoch) (ops : List (Op D))
    (hrun : Runs.Admissible System.next (fun y op => op.UsesIssued y ∧ op.LeavesRoom y)
      (System.start policy epoch) ops)
    {g : CollectiveGrant} (hg : g ∈ ((System.start policy epoch).run ops).issued)
    {wb : WorkerBootId} {sb : SourceBootId}
    (haccepted : (((System.start policy epoch).run ops).sched.complete g wb sb).2.1 = true) :
    ((System.start policy epoch).run ops).sched.CompletesWithAuthority g wb sb := by
  have hinvariant := Runs.invariant
    (I := fun y : System D => y.Sound ∧ y.sched.GrantTable y.issued)
    (fun y op hy hop => ⟨System.next_sound hy.1 hop.1, System.next_grantTable hy.1 hy.2 hop.2⟩)
    ⟨System.start_sound policy epoch, Scheduler.GrantTable.fresh policy epoch⟩ hrun
  obtain ⟨hsound, htable⟩ := hinvariant
  obtain ⟨rec, gs, hfind, hentry, hallowed⟩ := Scheduler.complete_accepts haccepted
  exact ⟨rec, gs, hfind, hentry, (Scheduler.authorised_iff_covers hallowed).mpr
    (Scheduler.covers_of_issued ⟨hsound.orderly.keyed, hsound.issuance, htable⟩ hg hfind hentry
      hallowed)⟩

/-- In every reachable state, a completion that is accepted for any grant value
has authority over the record exactly when the grant value covers it. -/
theorem completion_authority_iff_covers [Double D] (policy : PolicyConfig D)
    (epoch : CoordinatorEpoch) (actions : List (Action D)) (g : CollectiveGrant)
    (wb : WorkerBootId) (sb : SourceBootId)
    (haccepted : (((World.start policy epoch).run actions).sys.sched.complete g wb sb).2.1 =
      true) :
    ((World.start policy epoch).run actions).sys.sched.CompletesWithAuthority g wb sb ↔
      ∃ rec gs, ((World.start policy epoch).run actions).sys.sched.records.find? g.request =
          some rec ∧
        ((World.start policy epoch).run actions).sys.sched.grants.find? g.id = some gs ∧
        ((World.start policy epoch).run actions).sys.sched.Covers g wb sb rec gs := by
  obtain ⟨rec, gs, hfind, hentry, hallowed⟩ := Scheduler.complete_accepts haccepted
  have hiff := Scheduler.authorised_iff_covers hallowed
  constructor
  · rintro ⟨rec', gs', hfind', hentry', hauthorised⟩
    rw [hfind] at hfind'
    rw [hentry] at hentry'
    cases hfind'
    cases hentry'
    exact ⟨rec, gs, hfind, hentry, hiff.mp hauthorised⟩
  · rintro ⟨rec', gs', hfind', hentry', hcovers⟩
    rw [hfind] at hfind'
    rw [hentry] at hentry'
    cases hfind'
    cases hentry'
    exact ⟨rec, gs, hfind, hentry, hiff.mpr hcovers⟩

namespace Scenario

/-- Three participants on three workers; a request for the first two executes. -/
def spread : List (Op ℚ) :=
  withGrant
    [.publishParticipant (participant 1 1 1 11), .publishParticipant (participant 2 1 2 22),
      .publishParticipant (participant 3 1 3 33), .publishPlan (plan 1 1 [1, 2]),
      .submit (request 1 [1, 2] 1), .schedule [] []]
    1 (fun g => [.handoff g true])

/-- The grant that executes. -/
def spreadGrant : CollectiveGrant := (grantOf spread 1).get (by decide +kernel)

/-- The scheduler after further calls. -/
def spreadThen (ops : List (Op ℚ)) : Scheduler ℚ :=
  ((World.start PolicyConfig.default 1).run ((spread ++ ops).map .call)).sys.sched

/-- The second participant is withdrawn at its generation. -/
def withdrawn : Participant := { participant 2 1 2 22 with ready := false }

end Scenario

/-- The grant itself, returned by the worker of the second participant, covers
its record. -/
theorem completion_authority_iff_covers_spread :
    ((Scenario.spreadThen []).complete Scenario.spreadGrant 22 100).2.1 = true ∧
      ∃ rec gs, (Scenario.spreadThen []).records.find? 1 = some rec ∧
        (Scenario.spreadThen []).grants.find? 1 = some gs ∧
        (Scenario.spreadThen []).Covers Scenario.spreadGrant 22 100 rec gs := by
  have haccepted : ((Scenario.spreadThen []).complete Scenario.spreadGrant 22 100).2.1 = true := by
    decide +kernel
  have hauthority :
      (Scenario.spreadThen []).CompletesWithAuthority Scenario.spreadGrant 22 100 := by
    decide +kernel
  exact ⟨haccepted,
    (completion_authority_iff_covers _ _ _ Scenario.spreadGrant 22 100 haccepted).mp hauthority⟩

/-- Four grant values that are accepted without authority: another collective; an
epoch the stored grant is not from; a list that leaves out a withdrawn
participant; a list with a participant of another worker, which vouches. -/
theorem completion_authority_fails :
    (((Scenario.spreadThen []).complete { Scenario.spreadGrant with collective := 9 }
          11 100).2.1 = true ∧
      ¬(Scenario.spreadThen []).CompletesWithAuthority
        { Scenario.spreadGrant with collective := 9 } 11 100) ∧
    (((Scenario.spreadThen [.advanceCoordinatorEpoch 2]).complete
          { Scenario.spreadGrant with
            evidence := { Scenario.spreadGrant.evidence with epoch := 2 } } 11 100).2.1 = true ∧
      ¬(Scenario.spreadThen [.advanceCoordinatorEpoch 2]).CompletesWithAuthority
          { Scenario.spreadGrant with
            evidence := { Scenario.spreadGrant.evidence with epoch := 2 } } 11 100) ∧
    (((Scenario.spreadThen [.publishParticipant Scenario.withdrawn]).complete
          { Scenario.spreadGrant with participants := [1], participantGens := [1] }
          11 100).2.1 = true ∧
      ¬(Scenario.spreadThen [.publishParticipant Scenario.withdrawn]).CompletesWithAuthority
          { Scenario.spreadGrant with participants := [1], participantGens := [1] } 11 100) ∧
    (((Scenario.spreadThen []).complete
          { Scenario.spreadGrant with participants := [1, 2, 3], participantGens := [1, 1, 1] }
          33 100).2.1 = true ∧
      ¬(Scenario.spreadThen []).CompletesWithAuthority
          { Scenario.spreadGrant with participants := [1, 2, 3], participantGens := [1, 1, 1] }
          33 100) := by
  decide +kernel

end CollectiveScheduler
