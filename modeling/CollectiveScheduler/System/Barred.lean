/-
  System/Barred.lean --- grants that can never be used again.

  A grant is out of use for good in three ways: its id was given out and has no
  entry, the record of its request has moved past it, or its epoch has passed.  No
  call undoes any of the three, and each makes `handoff` and `complete` return
  false, whatever else the callers do in between.
-/
import CollectiveScheduler.System.GrantStep
import CollectiveScheduler.System.World

set_option autoImplicit false

namespace CollectiveScheduler

open Foundation

variable {D : Type}

/-- The record is past the grant: at a later generation, or at the grant's own in a
state from which it is not granted again. -/
def Record.Outlives (rec : Record D) (g : CollectiveGrant) : Prop :=
  g.requestGen < rec.request.gen ∨
    g.requestGen = rec.request.gen ∧ rec.lifecycle.isSpent = true

namespace Scheduler

variable (s : Scheduler D) (g : CollectiveGrant)

/-- The id was given out, and no entry is left under it. -/
def Vacant (gid : CollectiveGrantId) : Prop :=
  gid < s.nextGrantId ∧ s.grants.find? gid = none

/-- The record of the grant's request is past the grant. -/
def Spent : Prop :=
  ∃ rec, s.records.find? g.request = some rec ∧ rec.Outlives g

/-- The grant is out of use in one of the three ways. -/
def Barred : Prop :=
  s.Vacant g.id ∨ s.Spent g ∨ g.evidence.epoch < s.epoch

end Scheduler

/-! ## No call undoes it -/

theorem Record.Carried.outlives {rec rec' : Record D} {g : CollectiveGrant}
    (h : rec.Carried rec') (hrec : rec.Outlives g) : rec'.Outlives g := by
  unfold Record.Outlives
  rw [h.request]
  rcases hrec with hlt | ⟨hgen, hspent⟩
  · exact .inl hlt
  · exact .inr ⟨hgen, h.moves.spent hspent⟩

theorem RecordStep.outlives {op : Op D} {id : CollectiveRequestId} {rec : Record D}
    {after : Option (Record D)} {g : CollectiveGrant}
    (h : RecordStep op id (some rec) after) (hrec : rec.Outlives g) :
    ∃ rec', after = some rec' ∧ rec'.Outlives g := by
  cases h with
  | carried hcarried => exact ⟨_, rfl, hcarried.outlives hrec⟩
  | replaced _ _ hgen _ =>
      refine ⟨_, rfl, .inl ?_⟩
      rcases hrec with hlt | ⟨heq, -⟩
      · exact hlt.trans hgen
      · exact heq ▸ hgen

namespace Scheduler

theorem GrantStep.vacant {s s' : Scheduler D} {gid : CollectiveGrantId} (h : s.GrantStep s')
    (hvacant : s.Vacant gid) : s'.Vacant gid := by
  obtain ⟨hlt, hnone⟩ := hvacant
  refine ⟨lt_of_lt_of_le hlt h.counter, ?_⟩
  cases hentry : s'.grants.find? gid with
  | none => rfl
  | some gs' =>
      obtain ⟨gs, hsome, -⟩ := h.entries gid gs' hlt hentry
      rw [hnone] at hsome
      cases hsome

end Scheduler

namespace System

variable [Double D] {y : System D} {g : CollectiveGrant}

theorem next_spent (h : y.sched.Spent g) (op : Op D) : (y.next op).sched.Spent g := by
  obtain ⟨rec, hfind, hrec⟩ := h
  have hstep := y.recordStep op g.request
  rw [hfind] at hstep
  exact hstep.outlives hrec

theorem next_vacant {gid : CollectiveGrantId} (h : y.sched.Vacant gid) (op : Op D) :
    (y.next op).sched.Vacant gid :=
  (y.grantStep op).vacant h

theorem next_barred (h : y.sched.Barred g) (op : Op D) : (y.next op).sched.Barred g := by
  rcases h with hvacant | hspent | hepoch
  · exact .inl (next_vacant hvacant op)
  · exact .inr (.inl (next_spent hspent op))
  · exact .inr (.inr (lt_of_lt_of_le hepoch (y.grantStep op).epoch))

theorem run_spent (h : y.sched.Spent g) (ops : List (Op D)) : (y.run ops).sched.Spent g :=
  Runs.exec_induct (P := fun y : System D => y.sched.Spent g)
    (fun _ op hy => next_spent hy op) ops h

theorem run_vacant {gid : CollectiveGrantId} (h : y.sched.Vacant gid) (ops : List (Op D)) :
    (y.run ops).sched.Vacant gid :=
  Runs.exec_induct (P := fun y : System D => y.sched.Vacant gid)
    (fun _ op hy => next_vacant hy op) ops h

end System

/-! ## A reset spends what was issued -/

theorem Record.recover_spent (rec : Record D) : rec.recover.lifecycle.isSpent = true := by
  simp only [Record.recover, LifecycleState.transitionOrForce_eq]
  cases rec.lifecycle <;> rfl

/-- After a reset, a record at the grant's generation or a later one is past it. -/
theorem Scheduler.spent_reset {s : Scheduler D} {g : CollectiveGrant} {rec : Record D}
    (hfind : s.records.find? g.request = some rec) (hgen : g.requestGen ≤ rec.request.gen) :
    s.resetDynamicStateForRecovery.Spent g := by
  have hmap : s.resetDynamicStateForRecovery.records.find? g.request =
      (s.records.find? g.request).map (fun rec => rec.recover) := FinMap.find?_mapVals _ _ _
  refine ⟨rec.recover, by rw [hmap, hfind, Option.map_some], ?_⟩
  rcases lt_or_eq_of_le hgen with hlt | heq
  · exact .inl hlt
  · exact .inr ⟨heq, rec.recover_spent⟩

/-! ## It is not accepted -/

namespace Scheduler

variable {s : Scheduler D} {g : CollectiveGrant}

/-- What the first section of a handoff has found when it asks the fabric. -/
theorem handoffBegin_some {gc : CollectiveGrant} (h : (s.handoffBegin g).2 = some gc) :
    gc = g ∧ g.evidence.epoch = s.epoch ∧
      ∃ rec, s.records.find? g.request = some rec ∧ rec.lifecycle = .granted ∧
        rec.request.gen = g.requestGen := by
  rcases s.handoffBegin_cases g with heq | ⟨rec, hfind, hvalid, hgranted, hgen, heq⟩
  · rw [heq] at h
    cases h
  · rw [heq] at h
    cases h
    obtain ⟨-, -, -, -, hepoch⟩ := revalidateGrant_valid hvalid
    exact ⟨rfl, hepoch, rec, hfind, hgranted, hgen⟩

/-- A handoff in one piece that returns true found an entry. -/
theorem handoff_true {accepted : Bool} (h : (s.handoff g accepted).2.1 = true) :
    (∃ gc, (s.handoffBegin g).2 = some gc) ∧ ∃ gs, s.grants.find? g.id = some gs := by
  constructor
  · cases hbegin : (s.handoffBegin g).2 with
    | none =>
        rw [(s.handoff_eq g accepted).2, hbegin] at h
        cases h
    | some gc => exact ⟨gc, rfl⟩
  · rcases s.handoff_cases g accepted with ⟨-, hfalse⟩ | ⟨rec, -, -, -, -, hcase⟩
    · rw [hfalse] at h
      cases h
    · rcases hcase with ⟨-, -, hfalse⟩ | ⟨gs, hentry, -⟩
      · rw [hfalse] at h
        cases h
      · exact ⟨gs, hentry⟩

/-- A second section of a handoff that returns true found an entry. -/
theorem handoffEnd_true {accepted : Bool} (h : (s.handoffEnd g accepted).2.1 = true) :
    ∃ gs, s.grants.find? g.id = some gs := by
  rcases s.handoffEnd_cases g accepted with ⟨-, heq⟩ | ⟨rec, -, ⟨-, heq⟩ | ⟨gs, hentry, -⟩⟩
  · rw [heq] at h
    cases h
  · rw [heq] at h
    cases h
  · exact ⟨gs, hentry⟩

theorem complete_true {wb : WorkerBootId} {sb : SourceBootId}
    (h : (s.complete g wb sb).2.1 = true) :
    ∃ rec gs, s.records.find? g.request = some rec ∧ s.grants.find? g.id = some gs ∧
      s.completionAllowed g wb sb rec gs = true ∧ rec.lifecycle = .active := by
  rcases s.complete_cases g wb sb with heq | ⟨rec, gs, hfind, hentry, hallowed, hactive, -⟩
  · rw [heq] at h
    cases h
  · exact ⟨rec, gs, hfind, hentry, hallowed, hactive⟩

/-- A spent grant meets no record that is granted or active at its generation. -/
theorem Spent.not_holder (h : s.Spent g) {rec : Record D}
    (hfind : s.records.find? g.request = some rec) (hgen : rec.request.gen = g.requestGen) :
    rec.lifecycle.isSpent = true := by
  obtain ⟨rec', hfind', hrec⟩ := h
  rw [hfind] at hfind'
  cases hfind'
  rcases hrec with hlt | ⟨-, hspent⟩
  · rw [hgen] at hlt
    exact absurd hlt (lt_irrefl _)
  · exact hspent

/-- The fabric is not asked about a spent grant or one of a past epoch. -/
theorem handoffBegin_none_of (h : s.Spent g ∨ g.evidence.epoch < s.epoch) :
    (s.handoffBegin g).2 = none := by
  cases hbegin : (s.handoffBegin g).2 with
  | none => rfl
  | some gc =>
      obtain ⟨-, hepoch, rec, hfind, hgranted, hgen⟩ := handoffBegin_some hbegin
      rcases h with hspent | hlt
      · have hrec := hspent.not_holder hfind hgen
        rw [hgranted] at hrec
        exact absurd hrec (by decide)
      · rw [hepoch] at hlt
        exact absurd hlt (lt_irrefl _)

theorem Vacant.handoffEnd_false (h : s.Vacant g.id) (accepted : Bool) :
    (s.handoffEnd g accepted).2.1 = false := by
  refine Bool.eq_false_of_not_eq_true fun htrue => ?_
  obtain ⟨gs, hentry⟩ := handoffEnd_true htrue
  rw [h.2] at hentry
  cases hentry

theorem Barred.handoff_false (h : s.Barred g) (accepted : Bool) :
    (s.handoff g accepted).2.1 = false := by
  refine Bool.eq_false_of_not_eq_true fun htrue => ?_
  obtain ⟨⟨gc, hbegin⟩, gs, hentry⟩ := handoff_true htrue
  rcases h with hvacant | hrest
  · rw [hvacant.2] at hentry
    cases hentry
  · rw [handoffBegin_none_of hrest] at hbegin
    cases hbegin

theorem Barred.complete_false (h : s.Barred g) (wb : WorkerBootId) (sb : SourceBootId) :
    (s.complete g wb sb).2.1 = false := by
  refine Bool.eq_false_of_not_eq_true fun htrue => ?_
  obtain ⟨rec, gs, hfind, hentry, hallowed, hactive⟩ := complete_true htrue
  obtain ⟨-, hepoch, -, -, hgen, -⟩ := completionAllowed_iff.mp hallowed
  rcases h with hvacant | hspent | hlt
  · rw [hvacant.2] at hentry
    cases hentry
  · have hrec := hspent.not_holder hfind hgen
    rw [hactive] at hrec
    exact absurd hrec (by decide)
  · rw [hepoch] at hlt
    exact absurd hlt (lt_irrefl _)

end Scheduler

/-- A grant in flight was in flight, or its handoff has just begun. -/
theorem System.mem_inFlight_next [Double D] {y : System D} {op : Op D} {g : CollectiveGrant}
    (h : g ∈ (y.next op).inFlight) :
    g ∈ y.inFlight ∨ (y.sched.handoffBegin g).2 = some g := by
  cases op with
  | schedule recordOrder grantOrder =>
      refine .inl ?_
      unfold next step at h
      simp only at h
      split at h <;> exact h
  | handoffBegin g' =>
      rcases y.sched.handoffBegin_cases g' with heq | ⟨rec, -, -, -, -, heq⟩
      · simp only [next, step, heq] at h
        exact .inl h
      · simp only [next, step, heq] at h
        rcases List.mem_cons.mp h with rfl | h
        · exact .inr (by rw [heq])
        · exact .inl h
  | handoffEnd g' accepted =>
      refine .inl ?_
      unfold next step at h
      simp only at h
      split_ifs at h
      · exact List.mem_of_mem_erase h
      · exact h
  | _ => exact .inl h

/-- As long as the fabric is not asked about a grant, it does not get in flight. -/
theorem System.run_grounded [Double D] {P : System D → Prop} {g : CollectiveGrant}
    (hstep : ∀ y op, P y → P (y.next op)) (hnone : ∀ y, P y → (y.sched.handoffBegin g).2 = none)
    {y : System D} (h : P y) (hground : g ∉ y.inFlight) (ops : List (Op D)) :
    g ∉ (y.run ops).inFlight := by
  have hrun := Runs.exec_induct (P := fun y : System D => P y ∧ g ∉ y.inFlight)
    (fun y op hy => ⟨hstep y op hy.1, fun hflight => by
      rcases mem_inFlight_next hflight with hold | hbegin
      · exact hy.2 hold
      · rw [hnone y hy.1] at hbegin
        cases hbegin⟩) ops ⟨h, hground⟩
  exact hrun.2

theorem System.inFlight_next_of_atomic [Double D] (y : System D) {op : Op D}
    (hop : op.isAtomic = true) : (y.next op).inFlight = y.inFlight := by
  cases op with
  | schedule recordOrder grantOrder =>
      unfold next step
      simp only
      split <;> rfl
  | handoffBegin g => cases hop
  | handoffEnd g accepted => cases hop
  | _ => rfl

/-- Calls that pass no grants around make an atomic run. -/
theorem AtomicRun.of_no_grants [Double D] {y : System D} {ops : List (Op D)}
    (h : ∀ op ∈ ops, op.isAtomic = true ∧ op.grantArgument = none) : AtomicRun y ops := by
  refine (Runs.admissible_of_forall h y).mono fun y op hop => ⟨hop.1, fun g hg => ?_⟩
  rw [hop.2] at hg
  cases hg

/-- Atomic calls leave no handoff between its sections. -/
theorem AtomicRun.inFlight_nil [Double D] {y : System D} {ops : List (Op D)}
    (hrun : AtomicRun y ops) (h : y.inFlight = []) : (y.run ops).inFlight = [] :=
  Runs.invariant (I := fun y : System D => y.inFlight = [])
    (fun y _ hy hop => (y.inFlight_next_of_atomic hop.1).trans hy) h hrun

/-- What the callers of a handoff see when the fabric is not asked. -/
theorem System.refuses_handoff [Double D] {z : System D} {g : CollectiveGrant}
    (hnone : (z.sched.handoffBegin g).2 = none) (accepted : Bool) :
    z.outcome (.handoff g accepted) = .answered false ∧
      z.outcome (.handoffBegin g) = .asked false := by
  constructor
  · have hanswer := (z.sched.handoff_eq g accepted).2
    rw [hnone] at hanswer
    simp only [outcome, step, ofAnswer, hanswer]
  · simp only [outcome, step]
    split
    · rfl
    · rename_i hsome
      rw [hsome] at hnone
      cases hnone

/-- What the callers see of a spent grant. -/
theorem System.refuses_spent [Double D] {z : System D} {g : CollectiveGrant}
    (hspent : z.sched.Spent g) (accepted : Bool) (wb : WorkerBootId) (sb : SourceBootId) :
    z.outcome (.handoff g accepted) = .answered false ∧
      z.outcome (.handoffBegin g) = .asked false ∧
      z.outcome (.complete g wb sb) = .answered false := by
  obtain ⟨hhandoff, hbegin⟩ :=
    refuses_handoff (Scheduler.handoffBegin_none_of (.inl hspent)) accepted
  refine ⟨hhandoff, hbegin, ?_⟩
  have hbarred : z.sched.Barred g := .inr (.inl hspent)
  simp only [outcome, step, ofAnswer, hbarred.complete_false wb sb]

/-! ## Issued grants and their records -/

/-- Every issued grant finds a record, at its generation or a later one, and its id
is below the counter until the counter saturates. -/
structure System.Recorded (y : System D) : Prop where
  keyed : y.sched.Keyed
  known : ∀ g ∈ y.issued, ∃ rec, y.sched.records.find? g.request = some rec ∧
    g.requestGen ≤ rec.request.gen
  counted : ∀ g ∈ y.issued, g.id < y.sched.nextGrantId ∨
    y.sched.nextGrantId.value.toNat = maxValue

namespace Scheduler

/-- Every created grant is filled in for a record of the list, and its id was taken
from the counter. -/
theorem createGrants_from {s : Scheduler D} (dec : ScheduleDecision D)
    (ids : List CollectiveRequestId) :
    ∀ g ∈ (createGrants dec s ids).2,
      (∃ id ∈ ids, ∃ rec t, s.records.find? id = some rec ∧ g = grantFor t rec.request dec) ∧
      (g.id < (createGrants dec s ids).1.nextGrantId ∨
        (createGrants dec s ids).1.nextGrantId.value.toNat = maxValue) := by
  induction ids generalizing s with
  | nil =>
      intro g hg
      cases hg
  | cons id rest ih =>
      -- a later member of the list
      have hlater : ∀ {g : CollectiveGrant} {s' : Scheduler D},
          RecordsCarried s.records s'.records →
          (∃ id' ∈ rest, ∃ rec t, s'.records.find? id' = some rec ∧
            g = grantFor t rec.request dec) →
          ∃ id' ∈ id :: rest, ∃ rec t, s.records.find? id' = some rec ∧
            g = grantFor t rec.request dec := by
        rintro g s' hcarried ⟨id', hid', r, t, hr, hgrant⟩
        have hrel := hcarried id'
        rw [hr] at hrel
        generalize hfound : s.records.find? id' = found at hrel
        cases hrel with
        | some hrec =>
            exact ⟨id', List.mem_cons_of_mem _ hid', _, t, hfound, hrec.request ▸ hgrant⟩
      unfold createGrants
      split
      · exact fun g hg => ⟨hlater (RecordsCarried.refl _) (ih g hg).1, (ih g hg).2⟩
      · rename_i rec hfind
        split
        · exact fun g hg => ⟨hlater (RecordsCarried.refl _) (ih g hg).1, (ih g hg).2⟩
        · rename_i rec' hpromote
          have hrequest := (promoteToGranted_carried hpromote).request
          have hone : RecordsCarried s.records (s.createGrant id rec' dec).1.records :=
            RecordsCarried.insert hfind
              ⟨hrequest, (promoteToGranted_carried hpromote).moves⟩
          intro g hg
          rcases List.mem_cons.mp hg with rfl | hg
          · refine ⟨⟨id, List.mem_cons_self, rec, s, hfind, by rw [← hrequest]; rfl⟩, ?_⟩
            -- the counter moved past the id, or had no larger value to move to
            have hlast : s.nextGrantId.next ≤
                (createGrants dec (s.createGrant id rec' dec).1 rest).1.nextGrantId :=
              (GrantStep.createGrants dec rest (s.createGrant id rec' dec).1).counter
            change s.nextGrantId <
                (createGrants dec (s.createGrant id rec' dec).1 rest).1.nextGrantId ∨
              (createGrants dec (s.createGrant id rec' dec).1
                rest).1.nextGrantId.value.toNat = maxValue
            generalize (createGrants dec (s.createGrant id rec' dec).1
              rest).1.nextGrantId = last at hlast ⊢
            have hle := Id.toNat_le_maxValue last
            rw [Id.le_def, Id.toNat_next] at hlast
            rw [Id.lt_def]
            omega
          · exact ⟨hlater hone (ih g hg).1, (ih g hg).2⟩

end Scheduler

namespace System

theorem Recorded.ofKeyed {y : System D} (h : y.sched.Keyed) (hnil : y.issued = []) :
    y.Recorded where
  keyed := h
  known _ hg := absurd (hnil ▸ hg) List.not_mem_nil
  counted _ hg := absurd (hnil ▸ hg) List.not_mem_nil

variable [Double D]

/-- The counter is not below a value it had. -/
theorem Recorded.counted_next {y : System D} (h : y.Recorded) (op : Op D)
    {g : CollectiveGrant} (hg : g ∈ y.issued) :
    g.id < (y.next op).sched.nextGrantId ∨
      (y.next op).sched.nextGrantId.value.toNat = maxValue := by
  have hcounter := (y.grantStep op).counter
  rcases h.counted g hg with hlt | hmax
  · exact .inl (lt_of_lt_of_le hlt hcounter)
  · refine .inr (Nat.le_antisymm (Id.toNat_le_maxValue _) ?_)
    rw [← hmax]
    exact Id.le_def.mp hcounter

theorem Recorded.known_next {y : System D} (h : y.Recorded) (op : Op D)
    {g : CollectiveGrant} (hg : g ∈ y.issued) :
    ∃ rec, (y.next op).sched.records.find? g.request = some rec ∧
      g.requestGen ≤ rec.request.gen := by
  obtain ⟨rec, hfind, hle⟩ := h.known g hg
  have hstep := y.recordStep op g.request
  rw [hfind] at hstep
  obtain ⟨rec', hfind', hgen⟩ := hstep.gen_le
  exact ⟨rec', hfind', hle.trans hgen⟩

/-- A grant of a round is filled in for a request that was eligible before it. -/
theorem created_eligible {y : System D} (hkeyed : y.sched.Keyed)
    {recordOrder : List CollectiveRequestId} {grantOrder : List CollectiveGrantId}
    {s : Scheduler D} {dec : ScheduleDecision D} {created : List CollectiveGrant}
    (hround : y.sched.scheduleRound recordOrder grantOrder = (s, .ok (dec, created)))
    {g : CollectiveGrant} (hg : g ∈ created) :
    ∃ rec t, y.sched.records.find? g.request = some rec ∧ y.sched.eligible rec = true ∧
      g = Scheduler.grantFor t rec.request y.sched.openDecision ∧
      (g.id < s.nextGrantId ∨ s.nextGrantId.value.toNat = maxValue) := by
  have hresult := Scheduler.scheduleRound_ok hround
  rw [hresult.created] at hg
  obtain ⟨⟨id, hid, rec', t, hfind', hgrant⟩, hcounted⟩ := Scheduler.createGrants_from _ _ g hg
  obtain ⟨rec, hfind, heligible⟩ := (Scheduler.mem_ranking_iff hkeyed).mp
    ((y.sched.selection_sublist recordOrder).subset hid)
  rw [Scheduler.find?_refreshed, hfind, Option.map_some] at hfind'
  cases hfind'
  rw [(Scheduler.refreshRecord_frame y.sched rec).1] at hgrant
  refine ⟨rec, t, ?_, heligible, hgrant, ?_⟩
  · have hrequest : g.request = id := by
      rw [hgrant]
      exact hkeyed id rec hfind
    rw [hrequest]
    exact hfind
  · rw [hresult.state, (Scheduler.closeRound_rewritten _ _ _).nextGrantId]
    exact hcounted

theorem next_recorded {y : System D} (h : y.Recorded) (op : Op D) : (y.next op).Recorded := by
  have hkeyed : (y.next op).sched.Keyed := fun id => (y.recordStep op id).keyed (h.keyed id)
  rcases y.issued_next op with heq | ⟨recordOrder, grantOrder, s, dec, created, -, hround, heq⟩
  · refine ⟨hkeyed, ?_, ?_⟩ <;> rw [heq]
    · exact fun g hg => h.known_next op hg
    · exact fun g hg => h.counted_next op hg
  · have hmem : ∀ {g : CollectiveGrant}, g ∈ (y.next op).issued → g ∈ y.issued ∨ g ∈ created := by
      intro g hg
      rw [heq] at hg
      exact List.mem_append.mp hg
    refine ⟨hkeyed, fun g hg => ?_, fun g hg => ?_⟩
    · rcases hmem hg with hg | hg
      · exact h.known_next op hg
      · obtain ⟨rec, t, hfind, -, hgrant, -⟩ := created_eligible h.keyed hround hg
        have hstep := y.recordStep op g.request
        rw [hfind] at hstep
        obtain ⟨rec', hfind', hle⟩ := hstep.gen_le
        have hgen : g.requestGen = rec.request.gen := by rw [hgrant]; rfl
        exact ⟨rec', hfind', hgen ▸ hle⟩
    · rcases hmem hg with hg | hg
      · exact h.counted_next op hg
      · obtain ⟨rec, t, -, -, -, hcounted⟩ := created_eligible h.keyed hround hg
        rw [heq]
        exact hcounted

end System

/-- Grants issued since the last restore are in the books. -/
theorem World.sinceRestore_recorded [Double D] (policy : PolicyConfig D) (epoch : CoordinatorEpoch)
    (actions : List (Action D)) :
    ((World.start policy epoch).run actions).sinceRestore.Recorded :=
  World.run_sinceRestore (P := System.Recorded) (fun _ => .ofKeyed)
    (fun _ op hy => System.next_recorded hy op) policy epoch actions

end CollectiveScheduler
