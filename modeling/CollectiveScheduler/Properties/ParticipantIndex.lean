/-
  Properties/ParticipantIndex.lean --- the index of requests and the walk of a publication.

  `publishParticipant` walks over the requests listed in `participant_requests`, and only
  when it replaces a generation or a boot.  Two invariants make this the same as a scan of
  every record: a record that is not spent is listed under each of its participants, and a
  record that can be revoked names every participant at the generation that is published.
-/
import CollectiveScheduler.System.Execution
import CollectiveScheduler.System.Provenance

set_option autoImplicit false

namespace CollectiveScheduler

open Foundation LifecycleState

variable {D : Type}

namespace Scheduler

/-! ## The scan -/

/-- The staleness rule on one record: a request that names the participant at another
generation, in READY to ACTIVE, has to be revalidated. -/
def stalenessRule (p : Participant) (rec : Record D) : Record D :=
  if namesOutdated rec.request p && rec.lifecycle.isRevocable then
    { rec with lifecycle := .revalidationRequired }
  else rec

/-- The rule applied to every record. -/
def scanRecords (s : Scheduler D) (p : Participant) : FinMap CollectiveRequestId (Record D) :=
  s.records.mapVals (fun _ => stalenessRule p)

/-- The body of the walk is the rule: no state that can be revoked is terminal. -/
theorem revalidateAgainst_eq (p : Participant) (rec : Record D) :
    revalidateAgainst p rec = stalenessRule p rec := by
  unfold revalidateAgainst stalenessRule Record.demandRevalidation
  cases hrevocable : rec.lifecycle.isRevocable with
  | false =>
      rw [Bool.and_false, if_neg Bool.false_ne_true, if_neg Bool.false_ne_true]
      split_ifs <;> rfl
  | true =>
      have hterminal : rec.lifecycle.isTerminalState = false := by
        cases hlife : rec.lifecycle <;>
          first | rfl | exact absurd (hlife ▸ hrevocable) (by decide)
      rw [Bool.and_true, hterminal, if_neg Bool.false_ne_true, if_pos rfl,
        transitionOrKeep_revalidationRequired hrevocable]

/-- The rule only speaks of records that can be revoked and name the participant. -/
theorem stalenessRule_eq_self {p : Participant} {rec : Record D}
    (h : rec.lifecycle.isRevocable = true → namesOutdated rec.request p = false) :
    stalenessRule p rec = rec := by
  unfold stalenessRule
  cases hrevocable : rec.lifecycle.isRevocable with
  | false => rw [Bool.and_false, if_neg Bool.false_ne_true]
  | true => rw [h hrevocable, Bool.false_and, if_neg Bool.false_ne_true]

/-- A record that can still be revoked after the rule is not outdated. -/
theorem stalenessRule_revocable {p : Participant} {rec : Record D}
    (h : (stalenessRule p rec).lifecycle.isRevocable = true) :
    rec.lifecycle.isRevocable = true ∧ namesOutdated rec.request p = false := by
  unfold stalenessRule at h
  split_ifs at h with hrule
  · cases h
  · refine ⟨h, ?_⟩
    rw [h, Bool.and_true] at hrule
    exact Bool.eq_false_iff.mpr hrule

theorem mem_participants_of_namesOutdated {p : Participant} {req : CollectiveRequest D}
    (h : namesOutdated req p = true) : p.id ∈ req.participants := by
  obtain ⟨e, he, hnames⟩ := List.any_eq_true.mp h
  have hid : e.1 = p.id := of_decide_eq_true ((Bool.and_eq_true_iff.mp hnames).1)
  rw [← hid]
  exact List.fst_mem_of_mem_zipIdx he

/-! ## The invariants -/

/-- A record that is not spent is listed under each participant it names. -/
def Tracked (s : Scheduler D) : Prop :=
  ∀ id rec, s.records.find? id = some rec → rec.lifecycle.isSpent = false →
    ∀ p ∈ rec.request.participants, s.participantRequests.Indexes p id

/-- Every participant of the request is published at the generation the request names. -/
def NamesPublished (s : Scheduler D) (req : CollectiveRequest D) : Prop :=
  ∀ e ∈ req.participants.zipIdx, ∃ q, s.participants.find? e.1 = some q ∧
    req.participantGens[e.2]? = some q.gen

/-- A record that can be revoked names what is published. -/
def Published (s : Scheduler D) : Prop :=
  ∀ id rec, s.records.find? id = some rec → rec.lifecycle.isRevocable = true →
    s.NamesPublished rec.request

theorem isSpent_of_isRevocable {st : LifecycleState} (h : st.isRevocable = true) :
    st.isSpent = false := by
  cases st <;> first | rfl | exact absurd h (by decide)

/-- Where every record is spent, both hold. -/
theorem tracked_of_spent {s : Scheduler D}
    (h : ∀ id rec, s.records.find? id = some rec → rec.lifecycle.isSpent = true) :
    s.Tracked ∧ s.Published := by
  refine ⟨fun id rec hfind hspent => ?_, fun id rec hfind hrevocable => ?_⟩
  · rw [h id rec hfind] at hspent
    cases hspent
  · have hspent := isSpent_of_isRevocable hrevocable
    rw [h id rec hfind] at hspent
    cases hspent

theorem recovered_spent {s t : Scheduler D} {f : Record D → Record D}
    (h : ∀ id, t.records.find? id = (s.records.find? id).map fun rec => (f rec).recover) :
    ∀ id rec, t.records.find? id = some rec → rec.lifecycle.isSpent = true := by
  intro id rec hfind
  rw [h id] at hfind
  obtain ⟨rec₀, -, rfl⟩ := Option.map_eq_some_iff.mp hfind
  exact (f rec₀).recover_spent

/-- A participant that does not supplant the published one leaves nothing outdated. -/
theorem NamesPublished.not_outdated {s : Scheduler D} {req : CollectiveRequest D}
    (h : s.NamesPublished req) {p : Participant} (haccepted : s.participantRegresses p = false)
    (hsame : s.supplants p = false) : namesOutdated req p = false := by
  rw [namesOutdated, List.any_eq_false]
  intro e he hnames
  obtain ⟨hid, hgen⟩ := Bool.and_eq_true_iff.mp hnames
  obtain ⟨q, hq, hnamed⟩ := h e he
  rw [of_decide_eq_true hid] at hq
  simp only [participantRegresses, hq, decide_eq_false_iff_not, not_lt] at haccepted
  simp only [supplants, hq, Bool.or_eq_false_iff, decide_eq_false_iff_not, not_lt] at hsame
  rw [hnamed, le_antisymm haccepted hsame.1] at hgen
  exact of_decide_eq_true hgen rfl

theorem namesPublished_of_ready [Double D] {s : Scheduler D} {req : CollectiveRequest D}
    (h : s.computeReadiness req = .ready) : s.NamesPublished req := by
  intro e he
  have hcurrent := (computeReadiness_eq_ready_iff.mp h).participants e he
  unfold participantCurrent at hcurrent
  split at hcurrent
  · cases hcurrent
  · rename_i q hq
    refine ⟨q, hq, ?_⟩
    simpa using (Bool.and_eq_true_iff.mp hcurrent).1

/-- The walk of a publication is the scan. -/
theorem publishParticipant_records {s : Scheduler D} (htracked : s.Tracked)
    (hpublished : s.Published) {p : Participant} (haccepted : s.participantRegresses p = false) :
    (s.publishParticipant p).1.records = s.scanRecords p := by
  refine FinMap.ext_find? fun id => ?_
  rw [find?_publishParticipant, scanRecords, FinMap.find?_mapVals]
  cases hfind : s.records.find? id with
  | none => rw [Option.map_none, Option.map_none, ite_self]
  | some rec =>
      simp only [Option.map_some, revalidateAgainst_eq]
      by_cases hvisits : s.publicationVisits p id = true
      · rw [if_pos hvisits]
      · -- a record the walk leaves out is not listed, or the publication supplants nothing
        rw [if_neg hvisits, stalenessRule_eq_self]
        intro hrevocable
        cases hsupplants : s.supplants p with
        | false => exact (hpublished id rec hfind hrevocable).not_outdated haccepted hsupplants
        | true =>
            by_contra houtdated
            refine hvisits ?_
            have hlisted := mem_requestsOf_iff.mpr (htracked id rec hfind
              (isSpent_of_isRevocable hrevocable) p.id
              (mem_participants_of_namesOutdated ((Bool.not_eq_false _).mp houtdated)))
            simp only [publicationVisits, haccepted, hsupplants, hlisted, Bool.not_false,
              Bool.and_self, decide_true]

end Scheduler

/-! ## Every call keeps them -/

namespace System

variable [Double D]

theorem next_tracked {y : System D} (h : y.sched.Tracked) (op : Op D) :
    (y.next op).sched.Tracked := by
  cases hreset : op.isReset with
  | true =>
      cases op with
      | resetDynamicStateForRecovery =>
          exact (Scheduler.tracked_of_spent (Scheduler.recovered_spent (f := fun rec => rec)
            fun id => FinMap.find?_mapVals _ _ _)).1
      | _ => cases hreset
  | false =>
      intro id rec' hfind' hspent p hp
      have hstep := y.recordStep op id
      rw [hfind'] at hstep
      generalize hfind : y.sched.records.find? id = found at hstep
      cases hstep with
      | @filed _ req hop _ _ _ _ =>
          subst hop
          rw [sched_next_submit] at hfind' ⊢
          rcases y.sched.submit_cases req with ⟨next, e, heq⟩ | ⟨-, -, heq⟩ <;>
            rw [heq] at hfind' ⊢
          · rw [hfind] at hfind'
            cases hfind'
          · rcases FinMap.find?_emplace_cases hfind' with hold | ⟨-, hid, rfl⟩
            · rw [hfind] at hold
              cases hold
            · exact FinMap.indexes_foldl_insert.mpr (.inr ⟨hp, hid⟩)
      | @carried rec _ hcarried =>
          have hbefore : rec.lifecycle.isSpent = false := by
            by_contra hnot
            rw [hcarried.moves.spent ((Bool.not_eq_false _).mp hnot)] at hspent
            cases hspent
          rw [hcarried.request] at hp
          exact y.tracked_next hreset (h id rec hfind hbefore p hp)
      | @replaced old req hop hid _ _ =>
          subst hop
          change (y.sched.supersede req).1.participantRequests.Indexes p id
          change (y.sched.supersede req).1.records.find? id = _ at hfind'
          rcases y.sched.supersede_cases req with ⟨e, heq⟩ | ⟨old', -, -, -, heq⟩ <;>
            rw [heq] at hfind' ⊢
          · exact h id _ hfind' hspent p hp
          · exact FinMap.indexes_foldl_insert.mpr (.inr ⟨hp, hid.symm⟩)

/-- A call that rewrites records makes no state revocable, and a publication revokes what
it outdates. -/
theorem rewrites_published {y : System D} (hattributed : y.sched.Attribution y.issued)
    (htracked : y.sched.Tracked) (h : y.sched.Published) {op : Op D}
    (hop : op.rewritesRecords = true) : (y.next op).sched.Published := by
  intro id rec' hfind' hrevocable' e he
  obtain ⟨rec, hfind, hrec⟩ := (next_withdraws hattributed hop).find?_new hfind'
  have hrevocable := hrec.lifecycle.revocable hrevocable'
  rw [hrec.request] at he ⊢
  obtain ⟨q, hq, hnamed⟩ := h id rec hfind hrevocable e he
  rcases y.participants_next op with
    hsame | ⟨p, rfl, haccepted, hinsert⟩ | ⟨worker, boot, recordOrder, rfl, hfence⟩ | ⟨rfl, -⟩
  · rw [hsame]
    exact ⟨q, hq, hnamed⟩
  · rw [hinsert, FinMap.find?_insert]
    split_ifs with hid
    · -- the record is not outdated, or the walk would have found it
      have hscan : (y.next (.publishParticipant p)).sched.records.find? id =
          some (Scheduler.stalenessRule p rec) := by
        change (y.sched.publishParticipant p).1.records.find? id = _
        rw [Scheduler.publishParticipant_records htracked h haccepted, Scheduler.scanRecords,
          FinMap.find?_mapVals, hfind, Option.map_some]
      rw [hfind'] at hscan
      cases hscan
      have hcurrent := (Scheduler.stalenessRule_revocable hrevocable').2
      rw [Scheduler.namesOutdated, List.any_eq_false] at hcurrent
      have hgen := hcurrent e he
      rw [decide_eq_true hid, Bool.true_and] at hgen
      exact ⟨p, rfl, not_not.mp fun hne => hgen (decide_eq_true hne)⟩
    · exact ⟨q, hq, hnamed⟩
  · rw [hfence, Scheduler.fenceParticipants, FinMap.find?_mapVals, hq, Option.map_some]
    refine ⟨_, rfl, ?_⟩
    rw [hnamed]
    split_ifs <;> rfl
  · cases hop

theorem schedule_published {y : System D} (horderly : y.sched.Orderly) (h : y.sched.Published)
    (recordOrder : List CollectiveRequestId) (grantOrder : List CollectiveGrantId) :
    (y.next (.schedule recordOrder grantOrder)).sched.Published := by
  have hparticipants : (y.next (.schedule recordOrder grantOrder)).sched.participants =
      y.sched.participants := congrArg Evidence.participants (y.evidence_next rfl)
  intro id rec' hfind' hrevocable'
  unfold Scheduler.NamesPublished
  rw [hparticipants]
  rw [sched_next_schedule] at hfind'
  obtain ⟨s', dec, created, hround⟩ :=
    Scheduler.scheduleRound_isOk horderly.settled recordOrder grantOrder
  rw [hround, (Scheduler.scheduleRound_ok hround).state] at hfind'
  obtain ⟨rec₂, hfind₂, hrec₂⟩ :=
    (Scheduler.closeRound_rewritten _ _ _).records.find?_new hfind'
  obtain ⟨rec₁, hfind₁, hrequest₁, hcase⟩ :=
    (Scheduler.grantsAdded_round horderly recordOrder).origin id rec₂ hfind₂
  rw [Scheduler.find?_refreshed] at hfind₁
  obtain ⟨rec, hfind, rfl⟩ := Option.map_eq_some_iff.mp hfind₁
  rw [hrec₂.request, hrequest₁, (y.sched.refreshRecord_frame rec).1]
  have hready : rec.lifecycle.isRevocable = true ∨
      y.sched.computeReadiness rec.request = .ready := by
    rcases hcase with hlife | ⟨hmem, -⟩
    · refine y.sched.refreshRecord_revocable ?_
      rw [← hlife, hrec₂.lifecycle]
      exact hrevocable'
    · obtain ⟨r, hr, helig, -⟩ :=
        Scheduler.selection_ready horderly.keyed horderly.settled hmem
      rw [hfind] at hr
      cases hr
      exact .inr (Scheduler.eligible_iff.mp helig).2.1
  rcases hready with hrevocable | hready
  · exact h id rec hfind hrevocable
  · exact Scheduler.namesPublished_of_ready hready

theorem next_published {y : System D} (hattested : y.Attested) (htracked : y.sched.Tracked)
    (h : y.sched.Published) (op : Op D) : (y.next op).sched.Published := by
  by_cases hop : op.rewritesRecords = true
  · exact rewrites_published hattested.attributed htracked h hop
  -- a record that is filed or replaced is DECLARED or WAITING
  have hkeep : ∀ {s : Scheduler D}, s.participants = y.sched.participants →
      (∀ id rec, s.records.find? id = some rec → rec.lifecycle.isRevocable = true →
        y.sched.records.find? id = some rec) → s.Published := by
    intro s hparticipants hrecords id rec hfind hrevocable
    unfold Scheduler.NamesPublished
    rw [hparticipants]
    exact h id rec (hrecords id rec hfind hrevocable) hrevocable
  cases op with
  | submit req =>
      refine hkeep (congrArg Evidence.participants (y.evidence_next rfl)) ?_
      intro id rec hfind hrevocable
      rw [sched_next_submit] at hfind
      rcases y.sched.submit_cases req with ⟨next, e, heq⟩ | ⟨-, -, heq⟩ <;> rw [heq] at hfind
      · exact hfind
      · rcases FinMap.find?_emplace_cases hfind with hold | ⟨-, -, rfl⟩
        · exact hold
        · cases hrevocable
  | supersede req =>
      refine hkeep (congrArg Evidence.participants (y.evidence_next rfl)) ?_
      intro id rec hfind hrevocable
      change (y.sched.supersede req).1.records.find? id = some rec at hfind
      rcases y.sched.supersede_cases req with ⟨e, heq⟩ | ⟨old, -, -, -, heq⟩ <;> rw [heq] at hfind
      · exact hfind
      · simp only [Scheduler.releaseForSupersede_records, FinMap.find?_insert] at hfind
        split_ifs at hfind
        · cases hfind
          cases hrevocable
        · exact hfind
  | schedule recordOrder grantOrder =>
      exact schedule_published hattested.orderly h recordOrder grantOrder
  | resetDynamicStateForRecovery =>
      exact (Scheduler.tracked_of_spent (Scheduler.recovered_spent (f := fun rec => rec)
        fun id => FinMap.find?_mapVals _ _ _)).2
  | _ => exact absurd rfl hop

/-- In service, every record is listed where a publication looks for it, and no record
that can be revoked is behind what is published. -/
theorem Served.tracked {P : System D → Op D → Prop} {y : System D} (h : y.Served P) :
    y.sched.Tracked ∧ y.sched.Published := by
  induction h with
  | start policy epoch =>
      exact Scheduler.tracked_of_spent fun id rec hfind => by cases hfind
  | call hy op _ ih =>
      exact ⟨next_tracked ih.1 op, next_published hy.attested ih.1 ih.2 op⟩
  | @restore y z hy hz recordOrder hok ih ihz =>
      dsimp only
      rw [hz.restored_eq (y := y) hok]
      exact Scheduler.tracked_of_spent (Scheduler.recovered_spent (s := z.sched)
        (f := Record.recoded) fun id => FinMap.find?_mapVals _ _ _)

/-! ## The walk and the scan -/

/-- In every state in service, after any resets, restores of saved bytes and supersessions
with other participants, an accepted publication leaves the records that the staleness rule
makes of all of them. -/
theorem publication_scans_every_record (y : System D) (h : y.InService) (p : Participant)
    (haccepted : (y.sched.publishParticipant p).2 = .ok ()) :
    (y.sched.publishParticipant p).1.records = y.sched.scanRecords p := by
  have hregress : y.sched.participantRegresses p = false := by
    by_contra hnot
    rw [Scheduler.publishParticipant, if_pos ((Bool.not_eq_false _).mp hnot)] at haccepted
    cases haccepted
  obtain ⟨htracked, hpublished⟩ := Served.tracked h
  exact Scheduler.publishParticipant_records htracked hpublished hregress

end System

/-! ### A publication after a supersession -/

/-- A granted request is superseded by one for another participant, which is granted. -/
def Scenario.movedRequest : List (Op ℚ) :=
  Scenario.granted ++ [.publishParticipant (Scenario.participant 2 1 1 11),
    .publishPlan (Scenario.plan 2 1 [2]),
    .supersede { Scenario.request 2 [2] 1 with id := 1, gen := 2 }, .schedule [] []]

def Scenario.moved : System ℚ := (System.start PolicyConfig.default 1).run Scenario.movedRequest

theorem Scenario.moved_inService : Scenario.moved.InService :=
  System.InService.run (.start PolicyConfig.default 1) Scenario.movedRequest

/-- The publication of the new participant reaches the record, that of the old one does
not. -/
theorem publication_scans_every_record_moved :
    let y := Scenario.moved
    let old := Scenario.participant 1 2 1 11
    let new := Scenario.participant 2 2 1 11
    (y.sched.publishParticipant new).1.records = y.sched.scanRecords new ∧
      (y.sched.publishParticipant old).1.records = y.sched.scanRecords old ∧
      (y.sched.records.find? 1).map (·.lifecycle) = some .granted ∧
      ((y.sched.scanRecords new).find? 1).map (·.lifecycle) = some .revalidationRequired ∧
      ((y.sched.scanRecords old).find? 1).map (·.lifecycle) = some .granted :=
  ⟨System.publication_scans_every_record _ Scenario.moved_inService _ (by decide +kernel),
    System.publication_scans_every_record _ Scenario.moved_inService _ (by decide +kernel),
    by decide +kernel, by decide +kernel, by decide +kernel⟩

end CollectiveScheduler
