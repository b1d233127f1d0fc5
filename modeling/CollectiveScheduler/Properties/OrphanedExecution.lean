/-
  Properties/OrphanedExecution.lean --- who tells the fabric that work has lost its
  grant.

  A grant executes while its record is ACTIVE and holds it.  `cancel` revokes the
  grant at the fabric.  A supersession, a fence, a participant publication and a reset
  take the grant from an ACTIVE record as well, and tell the fabric nothing
  (`superseded_execution_is_orphaned`).  These four are the only ways to orphan an
  execution.
-/
import CollectiveScheduler.Scheduler.Fencing
import CollectiveScheduler.System.Barred
import CollectiveScheduler.System.GrantTable
import CollectiveScheduler.System.Scenario
import CollectiveScheduler.System.Untouched

set_option autoImplicit false

namespace CollectiveScheduler

open Foundation LifecycleState

variable {D : Type}

/-- The record of the grant is ACTIVE and holds it. -/
def Scheduler.Executing (s : Scheduler D) (g : CollectiveGrant) : Prop :=
  ∃ rec, s.records.find? g.request = some rec ∧ rec.lifecycle = .active ∧
    rec.currentGrant = some g

instance (s : Scheduler D) (g : CollectiveGrant) : Decidable (s.Executing g) :=
  inferInstanceAs (Decidable (∃ rec ∈ s.records.find? g.request, rec.lifecycle = .active ∧
    rec.currentGrant = some g))

/-- The call takes the record of the grant without a call on the fabric: a supersession
that passes its checks, a fence of a boot that hosts a participant, a publication that
finds the request outdated, or a reset. -/
def Op.Orphans [Double D] (y : System D) (g : CollectiveGrant) : Op D → Prop
  | .supersede req => req.id = g.request ∧ g.requestGen < req.gen ∧
      validateRequest req y.sched.policy = .ok ()
  | .fenceWorkerBoot worker boot _ =>
      ∃ pid ∈ g.participants, y.sched.hostedBy worker boot pid = true
  | .publishParticipant p => y.sched.publicationVisits p g.request = true ∧
      ∃ rec, y.sched.records.find? g.request = some rec ∧
        Scheduler.namesOutdated rec.request p = true
  | .resetDynamicStateForRecovery => True
  | _ => False

/-- The grant keeps executing, is completed, or is revoked at the fabric. -/
def System.Settles [Double D] (y : System D) (g : CollectiveGrant) (op : Op D) : Prop :=
  (y.next op).sched.Executing g ∨
    (∃ wb sb, op = .complete g wb sb ∧ y.outcome op = .answered true) ∨
    PortCall.fabricRevoke g ∈ y.emits op

namespace Scheduler

variable {s s' : Scheduler D} {g : CollectiveGrant} {rec : Record D}

theorem Keeps.executing (h : s.Keeps g.request rec) (hactive : rec.lifecycle = .active)
    (hcur : rec.currentGrant = some g) : s.Executing g := by
  obtain ⟨rec', hfind', hrec⟩ := h
  exact ⟨rec', hfind', hrec.lifecycle.symm.trans hactive, hrec.currentGrant.trans hcur⟩

/-- The record at the request of the grant decides whether it executes. -/
theorem executing_iff (hfind : s.records.find? g.request = some rec) :
    s.Executing g ↔ rec.lifecycle = .active ∧ rec.currentGrant = some g := by
  constructor
  · rintro ⟨rec', hfind', hactive, hcur⟩
    rw [hfind] at hfind'
    cases hfind'
    exact ⟨hactive, hcur⟩
  · exact fun h => ⟨rec, hfind, h.1, h.2⟩

theorem not_executing_of (hfind : s.records.find? g.request = some rec)
    (hnot : rec.lifecycle.isHolder = false) : ¬s.Executing g := by
  rw [executing_iff hfind]
  rintro ⟨hactive, -⟩
  rw [hactive] at hnot
  cases hnot

end Scheduler

section Steps

variable [Double D] {y : System D} {g : CollectiveGrant} {rec : Record D}

theorem System.Settles.of_keeps {op : Op D} (h : (y.next op).sched.Keeps g.request rec)
    (hactive : rec.lifecycle = .active) (hcur : rec.currentGrant = some g) : y.Settles g op :=
  .inl (h.executing hactive hcur)

/-- A call that the ports do not see, and that is no completion, settles a grant only by
leaving it alone. -/
theorem System.settles_iff_executing {op : Op D} (hemits : y.emits op = [])
    (hop : ∀ wb sb, op ≠ .complete g wb sb) :
    y.Settles g op ↔ (y.next op).sched.Executing g := by
  unfold Settles
  rw [hemits]
  simp [hop]

theorem System.settles_supersede (hissuance : y.sched.Issuance y.issued)
    (hfind : y.sched.records.find? g.request = some rec) (hactive : rec.lifecycle = .active)
    (hcur : rec.currentGrant = some g) (req : CollectiveRequest D) :
    y.Settles g (.supersede req) ↔ ¬(Op.supersede req).Orphans y g := by
  have hnames := ((hissuance.records _ rec hfind).current g hcur).2
  rw [settles_iff_executing rfl (by rintro wb sb ⟨⟩)]
  change (y.sched.supersede req).1.Executing g ↔ ¬(req.id = g.request ∧ _ ∧ _)
  rcases y.sched.supersede_cases req with ⟨e, heq⟩ | ⟨old, hold, hgen, hvalid, heq⟩
  · refine iff_of_true (heq ▸ ⟨rec, hfind, hactive, hcur⟩) ?_
    rintro ⟨hid, hgen, hvalid⟩
    rw [Scheduler.supersede_isOk (hid ▸ hfind) (hnames.requestGen ▸ hgen) hvalid] at heq
    cases (Prod.mk.inj heq).2
  · have hrecords : (y.sched.supersede req).1.records =
        y.sched.records.insert req.id (Scheduler.supersedingRecord old req) := by
      rw [heq, Scheduler.releaseForSupersede_records]
    by_cases hid : req.id = g.request
    · have hafter : (y.sched.supersede req).1.records.find? g.request =
          some (Scheduler.supersedingRecord old req) := by
        rw [hrecords, hid, FinMap.find?_insert_self]
      refine iff_of_false (Scheduler.not_executing_of hafter rfl) ?_
      · rw [hid, hfind] at hold
        cases hold
        exact fun hnot => hnot ⟨hid, hnames.requestGen ▸ hgen, hvalid⟩
    · refine iff_of_true ⟨rec, ?_, hactive, hcur⟩ (fun h => hid h.1)
      rw [hrecords, FinMap.find?_insert_of_ne _ _ (Ne.symm hid)]
      exact hfind

theorem System.settles_fence (hissuance : y.sched.Issuance y.issued)
    (hfind : y.sched.records.find? g.request = some rec) (hactive : rec.lifecycle = .active)
    (hcur : rec.currentGrant = some g) (worker : WorkerId) (boot : WorkerBootId)
    (recordOrder : List CollectiveRequestId) :
    y.Settles g (.fenceWorkerBoot worker boot recordOrder) ↔
      ¬(Op.fenceWorkerBoot worker boot recordOrder).Orphans y g := by
  have hnames := ((hissuance.records _ rec hfind).current g hcur).2
  have hhit : y.sched.isHit worker boot rec = true ↔
      ∃ pid ∈ g.participants, y.sched.hostedBy worker boot pid = true := by
    rw [Scheduler.isHit, hactive, hnames.participants]
    exact List.any_eq_true
  have hafter : (y.sched.fenceWorkerBoot worker boot recordOrder).records.find? g.request =
      some (if y.sched.isHit worker boot rec then rec.demandRevalidation else rec) := by
    rw [Scheduler.find?_records_fenceWorkerBoot, hfind, Option.map_some]
  rw [settles_iff_executing rfl (by rintro wb sb ⟨⟩)]
  change (y.sched.fenceWorkerBoot worker boot recordOrder).Executing g ↔ ¬∃ pid ∈ _, _
  rw [← hhit]
  by_cases hone : y.sched.isHit worker boot rec = true
  · rw [if_pos hone] at hafter
    exact iff_of_false (Scheduler.not_executing_of hafter
      (Scheduler.demandRevalidation_not_holder rec)) (fun hnot => hnot hone)
  · rw [if_neg hone] at hafter
    exact iff_of_true ⟨rec, hafter, hactive, hcur⟩ hone

theorem System.settles_publishParticipant
    (hfind : y.sched.records.find? g.request = some rec) (hactive : rec.lifecycle = .active)
    (hcur : rec.currentGrant = some g) (p : Participant) :
    y.Settles g (.publishParticipant p) ↔ ¬(Op.publishParticipant p).Orphans y g := by
  rw [settles_iff_executing rfl (by rintro wb sb ⟨⟩)]
  change (y.sched.publishParticipant p).1.Executing g ↔
    ¬(y.sched.publicationVisits p g.request = true ∧ _)
  have hafter := y.sched.find?_publishParticipant p g.request
  rw [hfind] at hafter
  split_ifs at hafter with hvisits
  · rw [Option.map_some, Scheduler.revalidateAgainst, hactive] at hafter
    cases hnames : Scheduler.namesOutdated rec.request p with
    | true =>
        rw [hnames] at hafter
        refine iff_of_false (Scheduler.not_executing_of hafter
          (Scheduler.demandRevalidation_not_holder rec)) (fun hnot => hnot ?_)
        exact ⟨hvisits, rec, hfind, hnames⟩
    | false =>
        rw [hnames] at hafter
        refine iff_of_true ⟨rec, hafter, hactive, hcur⟩ ?_
        rintro ⟨-, rec', hfind', hnames'⟩
        rw [hfind] at hfind'
        cases hfind'
        rw [hnames] at hnames'
        cases hnames'
  · exact iff_of_true ⟨rec, hafter, hactive, hcur⟩ (fun h => hvisits h.1)

theorem System.settles_cancel (htabled : y.sched.Tabled y.issued)
    (hfind : y.sched.records.find? g.request = some rec) (hactive : rec.lifecycle = .active)
    (hcur : rec.currentGrant = some g) (id : CollectiveRequestId) :
    y.Settles g (.cancel id) := by
  by_cases hid : id = g.request
  · subst hid
    refine .inr (.inr ?_)
    have hg := ((htabled.issuance.records _ rec hfind).current g hcur).1
    obtain ⟨gs, hentry, hopen⟩ :=
      htabled.table.held _ rec g hfind (by rw [hactive]; rfl) hcur
    have hsame := htabled.table.entry_grant htabled.issuance hg hentry
    have hcalls := Scheduler.cancel_emits hfind (by rw [hactive]; rfl) ⟨hcur, hentry, hopen⟩
    simp only [emits, hcalls, hsame, List.mem_cons, true_or, or_true]
  · exact .of_keeps (untouched_next htabled.keyed hfind (by rw [hactive]; rfl)
      (decide_eq_false hid)) hactive hcur

theorem System.settles_handoff (hfind : y.sched.records.find? g.request = some rec)
    (hactive : rec.lifecycle = .active) (hcur : rec.currentGrant = some g)
    (hkeyed : y.sched.Keyed) (g' : CollectiveGrant) (accepted : Bool) :
    y.Settles g (.handoff g' accepted) := by
  by_cases hid : g'.request = g.request
  · rcases y.sched.handoff_cases g' accepted with ⟨heq, -⟩ | ⟨r, hr, -, hgranted, -⟩
    · refine .inl ?_
      change (y.sched.handoff g' accepted).1.Executing g
      rw [heq]
      exact ⟨rec, hfind, hactive, hcur⟩
    · rw [hid, hfind] at hr
      cases hr
      rw [hactive] at hgranted
      cases hgranted
  · exact .of_keeps (untouched_next hkeyed hfind (by rw [hactive]; rfl)
      (decide_eq_false hid)) hactive hcur

/-- A completion that changes the record is one with its own grant. -/
theorem System.settles_complete (hissuance : y.sched.Issuance y.issued)
    (hfind : y.sched.records.find? g.request = some rec) (hactive : rec.lifecycle = .active)
    (hcur : rec.currentGrant = some g) (hkeyed : y.sched.Keyed) {g' : CollectiveGrant}
    (hg' : g' ∈ y.issued) (wb : WorkerBootId) (sb : SourceBootId) :
    y.Settles g (.complete g' wb sb) := by
  by_cases hid : g'.request = g.request
  · cases hanswer : (y.sched.complete g' wb sb).2.1 with
    | false =>
        refine .inl ?_
        change (y.sched.complete g' wb sb).1.Executing g
        rcases y.sched.complete_cases g' wb sb with heq | ⟨r, gs, -, -, -, -, heq⟩
        · rw [heq]
          exact ⟨rec, hfind, hactive, hcur⟩
        · rw [heq] at hanswer
          cases hanswer
    | true =>
        obtain ⟨r, gs, hr, -, hallowed, -⟩ := Scheduler.complete_true hanswer
        rw [hid, hfind] at hr
        cases hr
        obtain ⟨-, -, -, -, hgen, -⟩ := Scheduler.completionAllowed_iff.mp hallowed
        obtain ⟨hcur', -⟩ := hissuance.current_of_holder hg' (hid.symm ▸ hfind) hgen
          (by rw [hactive]; rfl)
        rw [hcur] at hcur'
        cases hcur'
        refine .inr (.inl ⟨wb, sb, rfl, ?_⟩)
        simp only [outcome, step, ofAnswer, hanswer]
  · exact .of_keeps (untouched_next hkeyed hfind (by rw [hactive]; rfl)
      (decide_eq_false hid)) hactive hcur

theorem System.not_settles_reset (hfind : y.sched.records.find? g.request = some rec) :
    ¬y.Settles g .resetDynamicStateForRecovery := by
  rw [settles_iff_executing rfl (by rintro wb sb ⟨⟩)]
  have hafter : (y.next .resetDynamicStateForRecovery).sched.records.find? g.request =
      some rec.recover := by
    refine (FinMap.find?_mapVals _ _ _).trans ?_
    rw [hfind, Option.map_some]
  exact Scheduler.not_executing_of hafter (Scheduler.recover_not_holder rec)

end Steps

/-! ## The result -/

/-- In every run of atomic calls on issued grants that has not used up the grant ids, a
call lets an executing grant go on, completes it or revokes it at the fabric exactly
when it is none of the calls that take the record silently. -/
theorem execution_settled_iff_not_orphaned [Double D] (policy : PolicyConfig D)
    (epoch : CoordinatorEpoch) (ops : List (Op D)) (op : Op D) (g : CollectiveGrant)
    (hrun : AtomicRun (System.start policy epoch) (ops ++ [op]))
    (hids : ((System.start policy epoch).run ops).sched.nextGrantId.value.toNat < maxValue)
    (hexecuting : ((System.start policy epoch).run ops).sched.Executing g) :
    ((System.start policy epoch).run ops).Settles g op ↔
      ¬op.Orphans ((System.start policy epoch).run ops) g := by
  obtain ⟨hbefore, hop⟩ := Runs.admissible_append.mp hrun
  obtain ⟨⟨hatomic, hissued⟩, -⟩ := hop
  have hinterleaved := AtomicRun.interleaved hbefore
  have hsound := hinterleaved.sound
  have htable := hinterleaved.grantTable hids
  change op.UsesIssued ((System.start policy epoch).run ops) at hissued
  generalize (System.start policy epoch).run ops = y at *
  have hissuance := hsound.issuance
  have hkeyed := hsound.orderly.keyed
  obtain ⟨rec, hfind, hactive, hcur⟩ := hexecuting
  have hkept : op.touches g.request = false → y.Settles g op := fun htouches =>
    .of_keeps (System.untouched_next hkeyed hfind (by rw [hactive]; rfl) htouches) hactive hcur
  cases op with
  | supersede req => exact System.settles_supersede hissuance hfind hactive hcur req
  | fenceWorkerBoot worker boot recordOrder =>
      exact System.settles_fence hissuance hfind hactive hcur worker boot recordOrder
  | publishParticipant p => exact System.settles_publishParticipant hfind hactive hcur p
  | resetDynamicStateForRecovery =>
      exact iff_of_false (System.not_settles_reset hfind) (fun hnot => hnot trivial)
  | cancel id =>
      exact iff_of_true (System.settles_cancel ⟨hkeyed, hissuance, htable⟩ hfind hactive hcur id)
        (fun h => h)
  | handoff g' accepted =>
      exact iff_of_true (System.settles_handoff hfind hactive hcur hkeyed g' accepted)
        (fun h => h)
  | complete g' wb sb =>
      exact iff_of_true (System.settles_complete hissuance hfind hactive hcur hkeyed
        (hissued g' rfl) wb sb) (fun h => h)
  | handoffBegin g' => cases hatomic
  | handoffEnd g' accepted => cases hatomic
  | _ => exact iff_of_true (hkept rfl) (fun h => h)

/-- A cancellation of the executing request settles its grant. -/
theorem execution_settled_iff_not_orphaned_cancelled :
    let ops := Scenario.executing
    ∃ g ∈ (Scenario.start.run ops).issued, (Scenario.start.run ops).sched.Executing g ∧
      (Scenario.start.run ops).Settles g (.cancel 1) := by
  intro ops
  obtain ⟨g, hg, hexecuting⟩ : ∃ g ∈ (Scenario.start.run ops).issued,
      (Scenario.start.run ops).sched.Executing g := by decide +kernel
  refine ⟨g, hg, hexecuting, ?_⟩
  exact (execution_settled_iff_not_orphaned PolicyConfig.default 1 ops (.cancel 1) g
    (by decide +kernel) (by decide +kernel) hexecuting).mpr (fun h => h)

/-- The fabric accepts a grant.  A supersession, a fence and a participant publication
each end its execution and make no call on the fabric. -/
theorem superseded_execution_is_orphaned :
    let y := Scenario.start.run Scenario.granted
    let superseding : CollectiveRequest ℚ := { Scenario.request 1 [1] 1 with id := 1, gen := 2 }
    ∃ g ∈ y.issued, y.outcome (.handoff g true) = .answered true ∧
      (y.next (.handoff g true)).sched.Executing g ∧
      ∀ op ∈ [.supersede superseding, .fenceWorkerBoot ⟨1⟩ ⟨11⟩ [],
          .publishParticipant (Scenario.participant 1 2 1 12)],
        ¬((y.next (.handoff g true)).next op).sched.Executing g ∧
          (y.next (.handoff g true)).emits op = [] := by
  decide +kernel

end CollectiveScheduler
