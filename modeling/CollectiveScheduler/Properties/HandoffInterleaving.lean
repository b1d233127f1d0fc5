/-
  Properties/HandoffInterleaving.lean --- what a handoff may find when it comes
  back from the fabric.

  The second section of a handoff looks the record up by its request id and then
  at its lifecycle only.  If the record was superseded in between and the newer
  generation is dispatching or active, the old handoff returns true and marks the
  revoked entry of its grant as active.  A supersede alone does no harm: where no
  newer generation is handed off before the old handoff came back, a handoff that
  returns true has handed over the record's current grant.
-/
import CollectiveScheduler.System.FabricStep
import CollectiveScheduler.System.GrantTable
import CollectiveScheduler.System.Scenario

set_option autoImplicit false

namespace CollectiveScheduler

open Foundation LifecycleState

variable {D : Type}

namespace Scheduler

/-- The grant is the record's current one, of the record's own generation, and
its entry is not terminal. -/
def HandedOver (s : Scheduler D) (g : CollectiveGrant) : Prop :=
  ∃ rec gs, s.records.find? g.request = some rec ∧ rec.currentGrant = some g ∧
    g.requestGen = rec.request.gen ∧ s.grants.find? g.id = some gs ∧ gs.terminal = false

instance (s : Scheduler D) (g : CollectiveGrant) : Decidable (s.HandedOver g) :=
  decidable_of_iff ((∃ rec ∈ s.records.find? g.request, rec.currentGrant = some g ∧
      g.requestGen = rec.request.gen) ∧ ∃ gs ∈ s.grants.find? g.id, gs.terminal = false)
    ⟨fun ⟨⟨rec, hfind, hcur, hgen⟩, gs, hentry, hopen⟩ =>
        ⟨rec, gs, hfind, hcur, hgen, hentry, hopen⟩,
      fun ⟨rec, gs, hfind, hcur, hgen, hentry, hopen⟩ =>
        ⟨⟨rec, hfind, hcur, hgen⟩, gs, hentry, hopen⟩⟩

/-- No entry is active and terminal. -/
def FlagsSound (s : Scheduler D) : Prop :=
  ∀ gid gs, s.grants.find? gid = some gs → gs.active = true → gs.terminal = false

instance (s : Scheduler D) : Decidable s.FlagsSound :=
  inferInstanceAs (Decidable (∀ gid gs, s.grants.find? gid = some gs →
    gs.active = true → gs.terminal = false))

variable {s s' : Scheduler D} {issued : List CollectiveGrant}

/-! ## Entry flags -/

theorem FlagsSound.grants_eq (h : s.FlagsSound) (heq : s'.grants = s.grants) :
    s'.FlagsSound := by
  unfold FlagsSound
  rw [heq]
  exact h

/-- Replacing one entry by one with sound flags. -/
theorem FlagsSound.insert (h : s.FlagsSound) {gid : CollectiveGrantId} {gs : GrantState}
    (hgs : gs.active = true → gs.terminal = false)
    (heq : s'.grants = s.grants.insert gid gs) : s'.FlagsSound := by
  intro gid' gs' hfind
  rw [heq, FinMap.find?_insert] at hfind
  split_ifs at hfind with hid
  · cases hfind
    exact hgs
  · exact h gid' gs' hfind

theorem FlagsSound.revokeGrant (h : s.FlagsSound) (gid : CollectiveGrantId) :
    (s.revokeGrant gid).FlagsSound := by
  intro gid' gs hfind
  rw [find?_revokeGrant] at hfind
  split_ifs at hfind with hid
  · obtain ⟨gs₀, -, rfl⟩ := Option.map_eq_some_iff.mp hfind
    exact fun hactive => absurd hactive Bool.false_ne_true
  · exact h gid' gs hfind

theorem FlagsSound.cancel (h : s.FlagsSound) (id : CollectiveRequestId) :
    (s.cancel id).1.FlagsSound := by
  rcases s.cancel_cases id with heq | ⟨rec, -, -, ⟨-, heq⟩ | ⟨g, gs, -, heq⟩⟩
  · rw [heq]
    exact h
  · rw [heq]
    exact h.grants_eq rfl
  · rw [heq]
    exact h.insert (fun hactive => absurd hactive Bool.false_ne_true) rfl

theorem FlagsSound.complete (h : s.FlagsSound) (g : CollectiveGrant) (wb : WorkerBootId)
    (sb : SourceBootId) : (s.complete g wb sb).1.FlagsSound := by
  rcases s.complete_cases g wb sb with heq | ⟨rec, gs, -, -, -, -, heq⟩
  · rw [heq]
    exact h
  · rw [heq]
    exact h.insert (fun hactive => absurd hactive Bool.false_ne_true) rfl

theorem FlagsSound.supersede [Double D] (h : s.FlagsSound) (req : CollectiveRequest D) :
    (s.supersede req).1.FlagsSound := by
  rcases s.supersede_cases req with ⟨e, heq⟩ | ⟨old, -, -, -, heq⟩
  · rw [heq]
    exact h
  · rw [heq]
    cases old.currentGrant with
    | none => exact h.grants_eq rfl
    | some g => exact (h.revokeGrant g.id).grants_eq rfl

theorem FlagsSound.submit [Double D] (h : s.FlagsSound) (req : CollectiveRequest D) :
    (s.submit req).1.FlagsSound := by
  rcases s.submit_cases req with ⟨next, e, heq⟩ | ⟨-, -, heq⟩ <;> rw [heq] <;>
    exact h.grants_eq rfl

theorem FlagsSound.fenceWorkerBoot (h : s.FlagsSound) (worker : WorkerId) (boot : WorkerBootId)
    (recordOrder : List CollectiveRequestId) :
    (s.fenceWorkerBoot worker boot recordOrder).FlagsSound := by
  refine fenceWorkerBoot_induct recordOrder
    (h.grants_eq (s.fenceParticipants_rewritten worker boot).grants) ?_
  intro t rid rec pid _ _ _ _ ht
  have hmarked : FlagsSound { t with records := t.records.insert rid rec.demandRevalidation } :=
    ht.grants_eq rfl
  unfold fenceHit
  cases rec.currentGrant with
  | none => exact hmarked
  | some g => exact hmarked.revokeGrant g.id

theorem FlagsSound.createGrant (h : s.FlagsSound) (id : CollectiveRequestId) (rec : Record D)
    (dec : ScheduleDecision D) : (s.createGrant id rec dec).1.FlagsSound := by
  intro gid gs hfind
  rcases FinMap.find?_emplace_cases hfind with hfind | ⟨-, -, rfl⟩
  · exact h gid gs hfind
  · exact fun _ => rfl

theorem FlagsSound.scheduleRound [Double D] (h : s.FlagsSound) (horderly : s.Orderly)
    {recordOrder : List CollectiveRequestId} {grantOrder : List CollectiveGrantId}
    {dec : ScheduleDecision D} {created : List CollectiveGrant}
    (hround : s.scheduleRound recordOrder grantOrder = (s', .ok (dec, created))) :
    s'.FlagsSound := by
  have hcreated := createGrants_induct (P := fun t _ => t.FlagsSound) s.openDecision
    (s.selection recordOrder) s.refreshed []
    (fun t _ id rec _ _ _ _ ht => ht.createGrant id (promoted rec) _)
    (nodup_selection horderly.keyed recordOrder)
    (selection_all_ready horderly.keyed horderly.settled recordOrder)
    (h.grants_eq (refreshed_rewritten s).grants)
  rw [(scheduleRound_ok hround).state]
  exact hcreated.grants_eq (closeRound_rewritten _ _ _).grants

theorem FlagsSound.handoffBegin (h : s.FlagsSound) (g : CollectiveGrant) :
    (s.handoffBegin g).1.FlagsSound := by
  rcases s.handoffBegin_cases g with heq | ⟨rec, -, -, -, -, heq⟩
  · rw [heq]
    exact h
  · rw [heq]
    intro gid gs hfind
    simp only [dispatched, FinMap.find?_modify] at hfind
    split_ifs at hfind with hid
    · obtain ⟨gs₀, hfind₀, rfl⟩ := Option.map_eq_some_iff.mp hfind
      exact h gid gs₀ hfind₀
    · exact h gid gs hfind

/-! ## The second section -/

/-- The record a handoff in flight was begun for has the generation of its grant, or a
generation that was not handed off. -/
def FlightCurrent (s : Scheduler D) (g : CollectiveGrant) : Prop :=
  ∃ rec, s.records.find? g.request = some rec ∧
    (rec.lifecycle.isStarted = true → rec.request.gen = g.requestGen)

/-- A current handoff that finds an ACTIVE record finds it holding the grant, with an open
entry. -/
theorem held_of_landed (htable : s.GrantTable issued) (hissuance : s.Issuance issued)
    {gc : CollectiveGrant} (hgc : gc ∈ issued) (hflight : s.FlightCurrent gc)
    {rec : Record D} (hfind : s.records.find? gc.request = some rec) {accepted : Bool}
    (hlanded : (landed rec accepted).lifecycle = .active) {gs : GrantState}
    (hentry : s.grants.find? gc.id = some gs) :
    rec.currentGrant = some gc ∧ rec.request.gen = gc.requestGen ∧ gs.terminal = false := by
  obtain ⟨rec', hfind', hstarted⟩ := hflight
  rw [hfind] at hfind'
  cases hfind'
  have hlife := landed_active hlanded
  have hgen := hstarted (by rcases hlife with h | h <;> rw [h] <;> rfl)
  have hholder : rec.lifecycle.isHolder = true := by
    rcases hlife with h | h <;> rw [h] <;> rfl
  have hcur := (hissuance.current_of_holder hgc hfind hgen hholder).1
  obtain ⟨gs', hentry', hopen⟩ := htable.held _ rec gc hfind hholder hcur
  rw [hentry] at hentry'
  cases hentry'
  exact ⟨hcur, hgen, hopen⟩

theorem FlagsSound.handoffEnd (h : s.FlagsSound) (htable : s.GrantTable issued)
    (hissuance : s.Issuance issued) {gc : CollectiveGrant} (hgc : gc ∈ issued)
    (hflight : s.FlightCurrent gc) (accepted : Bool) :
    (s.handoffEnd gc accepted).1.FlagsSound := by
  rcases s.handoffEnd_cases gc accepted with ⟨-, heq⟩ | ⟨rec, hfind, hcase⟩
  · rw [heq]
    exact h
  · rcases hcase with ⟨-, heq⟩ | ⟨gs, hentry, ⟨hlanded, heq⟩ | ⟨-, heq⟩⟩
    · rw [heq]
      exact h.grants_eq rfl
    · obtain ⟨-, -, hopen⟩ := held_of_landed htable hissuance hgc hflight hfind hlanded hentry
      have hflag : ({ gs with active := true } : GrantState).terminal = false := hopen
      rw [heq]
      exact h.insert (fun _ => hflag) rfl
    · rw [heq]
      exact h.insert (fun hactive => absurd hactive Bool.false_ne_true) rfl

theorem handedOver_of_handoffEnd (htable : s.GrantTable issued)
    (hissuance : s.Issuance issued) {gc : CollectiveGrant} (hgc : gc ∈ issued)
    (hflight : s.FlightCurrent gc) {accepted : Bool}
    (htrue : (s.handoffEnd gc accepted).2.1 = true) :
    (s.handoffEnd gc accepted).1.HandedOver gc := by
  rcases s.handoffEnd_cases gc accepted with ⟨-, heq⟩ | ⟨rec, hfind, hcase⟩
  · rw [heq] at htrue
    cases htrue
  · rcases hcase with ⟨-, heq⟩ | ⟨gs, hentry, ⟨hlanded, heq⟩ | ⟨-, heq⟩⟩
    · rw [heq] at htrue
      cases htrue
    · obtain ⟨hcur, hgen, hopen⟩ :=
        held_of_landed htable hissuance hgc hflight hfind hlanded hentry
      rw [heq]
      exact ⟨landed rec accepted, { gs with active := true }, FinMap.find?_insert_self _ _ _,
        hcur, hgen.symm, FinMap.find?_insert_self _ _ _, hopen⟩
    · rw [heq] at htrue
      cases htrue

/-- After a first section that asks the fabric, the record has the generation of
the grant. -/
theorem flightCurrent_of_begin {g gc : CollectiveGrant}
    (hasked : (s.handoffBegin g).2 = some gc) :
    gc = g ∧ (s.handoffBegin g).1.FlightCurrent g := by
  rcases s.handoffBegin_cases g with heq | ⟨rec, -, -, -, hgen, heq⟩
  · rw [heq] at hasked
    cases hasked
  · rw [heq] at hasked ⊢
    cases hasked
    exact ⟨rfl, { rec with lifecycle := .dispatching }, FinMap.find?_insert_self _ _ _,
      fun _ => hgen⟩

end Scheduler

/-! ## Whole runs -/

/-- A call that asks the fabric about a grant meets no handoff in flight of the same request
at another generation. -/
def Op.SparesInFlight (y : System D) (op : Op D) : Prop :=
  ∀ g ∈ y.askedAbout op, ∀ g' ∈ y.inFlight, g'.request = g.request → g'.requestGen = g.requestGen

instance (y : System D) (op : Op D) : Decidable (op.SparesInFlight y) :=
  inferInstanceAs (Decidable (∀ g ∈ y.askedAbout op, ∀ g' ∈ y.inFlight,
    g'.request = g.request → g'.requestGen = g.requestGen))

namespace System

/-- The invariant of interleaved runs: handoffs in flight are current, and no
entry is active and terminal. -/
structure HandoffSound (y : System D) : Prop where
  sound : y.Sound
  table : y.sched.GrantTable y.issued
  flights : ∀ g ∈ y.inFlight, y.sched.FlightCurrent g
  flags : y.sched.FlagsSound

theorem start_handoffSound (policy : PolicyConfig D) (epoch : CoordinatorEpoch) :
    (start policy epoch).HandoffSound where
  sound := start_sound policy epoch
  table := Scheduler.GrantTable.fresh policy epoch
  flights g hg := absurd hg List.not_mem_nil
  flags gid gs hfind := by cases hfind

variable [Double D] {y : System D} {op : Op D}

/-- A handoff stays current until another generation of its request is handed off. -/
theorem flightCurrent_next (hspares : op.SparesInFlight y) {g : CollectiveGrant}
    (hg : g ∈ y.inFlight) (h : y.sched.FlightCurrent g) :
    (y.next op).sched.FlightCurrent g := by
  obtain ⟨rec, hfind, hgen⟩ := h
  have hrecord := y.recordStep op g.request
  rw [hfind] at hrecord
  obtain ⟨rec', hfind', -⟩ := hrecord.gen_le
  refine ⟨rec', hfind', fun hstarted => ?_⟩
  have hstep := y.fabricStep op g.request
  rw [hfind, hfind'] at hstep
  obtain ⟨r, hr, hrequest, hcase⟩ := hstep.started_cases hstarted
  cases hr
  rw [hrequest]
  rcases hcase with ⟨-, hbefore⟩ | hasked
  · exact hgen hbefore
  · obtain ⟨g', hg', hid, hgen'⟩ := asksFabric_iff.mp hasked
    rw [← hgen', hspares g' hg' g hg hid.symm]

theorem next_flights (h : y.HandoffSound) (hspares : op.SparesInFlight y) :
    ∀ g ∈ (y.next op).inFlight, (y.next op).sched.FlightCurrent g := by
  -- a flight of the new state was one before, or its first section was this call
  have hold : ∀ g ∈ (y.next op).inFlight, g ∈ y.inFlight ∨
      (op = .handoffBegin g ∧ (y.sched.handoffBegin g).2 = some g ∧
        (y.next op).sched = (y.sched.handoffBegin g).1) := by
    intro g hg
    cases op with
    | handoffBegin g' =>
        rcases y.sched.handoffBegin_cases g' with heq | ⟨rec, -, -, -, -, heq⟩
        · simp only [next, step, heq] at hg
          exact .inl hg
        · simp only [next, step, heq, List.mem_cons] at hg
          rcases hg with rfl | hg
          · refine .inr ⟨rfl, by rw [heq], ?_⟩
            simp only [next, step, heq]
          · exact .inl hg
    | handoffEnd g' accepted =>
        simp only [next, step] at hg
        split_ifs at hg with hmem
        · exact .inl (List.mem_of_mem_erase hg)
        · exact .inl hg
    | schedule recordOrder grantOrder =>
        simp only [next, step] at hg
        split at hg <;> exact .inl hg
    | _ => exact .inl hg
  intro g hg
  rcases hold g hg with hg | ⟨-, hasked, hsched⟩
  · exact flightCurrent_next hspares hg (h.flights g hg)
  · rw [hsched]
    exact (Scheduler.flightCurrent_of_begin hasked).2

theorem next_flags (h : y.HandoffSound) (hissued : op.UsesIssued y) :
    (y.next op).sched.FlagsSound := by
  have hflags := h.flags
  by_cases hquiet : op.isQuiet = true
  · obtain ⟨s, hnext, hrewritten⟩ := y.next_quiet hquiet
    rw [hnext]
    exact hflags.grants_eq hrewritten.grants
  cases op with
  | publishParticipant p => exact hflags.grants_eq (y.sched.publishParticipant_rewritten p).grants
  | submit req => exact hflags.submit req
  | supersede req => exact hflags.supersede req
  | cancel id => exact hflags.cancel id
  | schedule recordOrder grantOrder =>
      obtain ⟨s, dec, created, hround⟩ :=
        Scheduler.scheduleRound_isOk h.sound.orderly.settled recordOrder grantOrder
      simp only [next, step, hround]
      exact hflags.scheduleRound h.sound.orderly hround
  | handoff g accepted =>
      change (y.sched.handoff g accepted).1.FlagsSound
      rw [(y.sched.handoff_eq g accepted).1]
      cases hasked : (y.sched.handoffBegin g).2 with
      | none => exact hflags.handoffBegin g
      | some gc =>
          obtain ⟨rfl, hflight⟩ := Scheduler.flightCurrent_of_begin hasked
          exact (hflags.handoffBegin gc).handoffEnd (h.table.handoffBegin gc)
            (h.sound.issuance.handoffBegin fun _ => hissued gc rfl) (hissued gc rfl) hflight
            accepted
  | handoffBegin g =>
      rw [sched_next_handoffBegin]
      exact hflags.handoffBegin g
  | handoffEnd g accepted =>
      rw [sched_next_handoffEnd]
      split_ifs with hmem
      · exact hflags.handoffEnd h.table h.sound.issuance (h.sound.inFlight g hmem)
          (h.flights g hmem) accepted
      · exact hflags
  | complete g wb sb => exact hflags.complete g wb sb
  | fenceWorkerBoot worker boot recordOrder =>
      exact hflags.fenceWorkerBoot worker boot recordOrder
  | resetDynamicStateForRecovery => exact fun gid gs hfind => by cases hfind
  | _ => exact absurd rfl hquiet

theorem next_handoffSound (h : y.HandoffSound) (hissued : op.UsesIssued y)
    (hroom : op.LeavesRoom y) (hspares : op.SparesInFlight y) : (y.next op).HandoffSound where
  sound := next_sound h.sound hissued
  table := next_grantTable h.sound h.table hroom
  flights := next_flights h hspares
  flags := next_flags h hissued

/-- A second section that returns true hands the grant over. -/
theorem handedOver_of_end (h : y.HandoffSound) {g : CollectiveGrant} {accepted : Bool}
    (htrue : y.outcome (.handoffEnd g accepted) = .answered true) :
    (y.next (.handoffEnd g accepted)).sched.HandedOver g := by
  by_cases hmem : g ∈ y.inFlight
  · simp only [outcome, step, if_pos hmem, ofAnswer, Outcome.answered.injEq] at htrue
    simp only [next, step, if_pos hmem, ofAnswer]
    exact Scheduler.handedOver_of_handoffEnd h.table h.sound.issuance (h.sound.inFlight g hmem)
      (h.flights g hmem) htrue
  · simp only [outcome, step, if_neg hmem] at htrue
    cases htrue

/-- So does a handoff in one piece. -/
theorem handedOver_of_handoff (h : y.HandoffSound) {g : CollectiveGrant} (hg : g ∈ y.issued)
    {accepted : Bool} (htrue : y.outcome (.handoff g accepted) = .answered true) :
    (y.next (.handoff g accepted)).sched.HandedOver g := by
  have hanswer : (y.sched.handoff g accepted).2.1 = true := Outcome.answered.inj htrue
  change (y.sched.handoff g accepted).1.HandedOver g
  obtain ⟨hstate, hresult⟩ := y.sched.handoff_eq g accepted
  rw [hresult] at hanswer
  rw [hstate]
  cases hasked : (y.sched.handoffBegin g).2 with
  | none =>
      rw [hasked] at hanswer
      cases hanswer
  | some gc =>
      rw [hasked] at hanswer
      obtain ⟨rfl, hflight⟩ := Scheduler.flightCurrent_of_begin hasked
      exact Scheduler.handedOver_of_handoffEnd (h.table.handoffBegin gc)
        (h.sound.issuance.handoffBegin fun _ => hg) hg hflight hanswer

end System

/-- In every interleaved run with issued grants in which no generation of a request is
handed off while a handoff of another one is in flight and grant ids do not run out: no
entry is ever active and terminal, and every handoff that returns true next leaves its
grant current, open and of the record's generation. -/
theorem handoff_safe_of_spared [Double D] (policy : PolicyConfig D) (epoch : CoordinatorEpoch)
    (ops : List (Op D))
    (hrun : Runs.Admissible System.next
      (fun y op => op.UsesIssued y ∧ op.LeavesRoom y ∧ op.SparesInFlight y)
      (System.start policy epoch) ops) :
    ((System.start policy epoch).run ops).sched.FlagsSound ∧
      ∀ g accepted,
        (((System.start policy epoch).run ops).outcome (.handoffEnd g accepted) =
            .answered true →
          (((System.start policy epoch).run ops).next (.handoffEnd g accepted)).sched.HandedOver
            g) ∧
        (g ∈ ((System.start policy epoch).run ops).issued →
          ((System.start policy epoch).run ops).outcome (.handoff g accepted) = .answered true →
          (((System.start policy epoch).run ops).next (.handoff g accepted)).sched.HandedOver
            g) := by
  have hinvariant := Runs.invariant (I := fun y : System D => y.HandoffSound)
    (fun y op hy hop => System.next_handoffSound hy hop.1 hop.2.1 hop.2.2)
    (System.start_handoffSound policy epoch) hrun
  exact ⟨hinvariant.flags, fun g accepted =>
    ⟨System.handedOver_of_end hinvariant,
      fun hg htrue => System.handedOver_of_handoff hinvariant hg htrue⟩⟩

namespace Scenario

/-- One request, granted; its handoff has asked the fabric. -/
def handoffBegun : List (Op ℚ) :=
  withGrant
    [.publishParticipant (participant 1 1 1 11), .publishParticipant (participant 2 1 1 11),
      .publishPlan (plan 1 1 [1, 2]), .submit (request 1 [1, 2] 1), .schedule [] []]
    1 (fun g => [.handoffBegin g])

/-- Before the fabric answers, the request is superseded, and its next generation is
granted. -/
def regranted : List (Op ℚ) :=
  handoffBegun ++ [.supersede { request 1 [1, 2] 1 with id := 1, gen := 2 }, .schedule [] []]

/-- The next generation is handed off after the old handoff came back. -/
def handedOffInTurn : List (Op ℚ) :=
  withGrant (withGrant regranted 1 (fun g => [.handoffEnd g true])) 2
    (fun g => [.handoffBegin g])

/-- The next generation is handed off while the old handoff is in flight. -/
def supersededInFlight : List (Op ℚ) := withGrant regranted 2 (fun g => [.handoff g true])

end Scenario

/-- A request is superseded while its handoff is in flight, which then returns false; the
handoff of the next generation returns true. -/
theorem handoff_safe_of_spared_regranted :
    ∃ g, Runs.Admissible System.next
        (fun y op => op.UsesIssued y ∧ op.LeavesRoom y ∧ op.SparesInFlight y)
        Scenario.start Scenario.handedOffInTurn ∧
      (Scenario.start.run Scenario.handedOffInTurn).outcome (.handoffEnd g true) =
        .answered true ∧
      ((Scenario.start.run Scenario.handedOffInTurn).next (.handoffEnd g true)).sched.HandedOver
        g := by
  have hrun : Runs.Admissible System.next
      (fun y op => op.UsesIssued y ∧ op.LeavesRoom y ∧ op.SparesInFlight y)
      Scenario.start Scenario.handedOffInTurn := by decide +kernel
  have hanswer : ∃ g ∈ Scenario.grantOf Scenario.handedOffInTurn 2,
      (Scenario.start.run Scenario.handedOffInTurn).outcome (.handoffEnd g true) =
        .answered true := by decide +kernel
  obtain ⟨g, -, htrue⟩ := hanswer
  exact ⟨g, hrun, htrue, ((handoff_safe_of_spared PolicyConfig.default 1
    Scenario.handedOffInTurn hrun).2 g true).1 htrue⟩

/-- The old handoff returns true for a grant that is neither current nor open,
and marks its terminal entry active. -/
theorem handoff_unsafe_when_superseded_in_flight :
    InterleavedRun Scenario.start Scenario.supersededInFlight ∧
      ∃ g ∈ Scenario.grantOf Scenario.supersededInFlight 1,
        (Scenario.start.run Scenario.supersededInFlight).outcome (.handoffEnd g true) =
          .answered true ∧
        ¬((Scenario.start.run Scenario.supersededInFlight).next
          (.handoffEnd g true)).sched.HandedOver g ∧
        ¬((Scenario.start.run Scenario.supersededInFlight).next
          (.handoffEnd g true)).sched.FlagsSound := by
  decide +kernel

end CollectiveScheduler
