/-
  Properties/ActiveIndex.lean --- the participant index holds what executes, and nothing else.

  `handoff` lists a grant in `active_by_participant` under every participant it names, and
  `supersede`, `cancel`, `complete` and `fenceWorkerBoot` take it out again, each from the
  grant it has at hand: the stored one, or the one the worker sent.  As long as a grant id
  names one grant the two are the same, so each call that ends an execution removes every
  listing of it and no other.
-/
import CollectiveScheduler.Properties.Fences
import CollectiveScheduler.System.Execution
import CollectiveScheduler.System.GrantTable
import CollectiveScheduler.System.Scenario

set_option autoImplicit false

namespace CollectiveScheduler

open Foundation LifecycleState

variable {D : Type}

namespace Scheduler

/-- The index lists a grant under a participant exactly when the grant executes and names
the participant. -/
def IndexExact (s : Scheduler D) : Prop :=
  ∀ p gid, s.activeByParticipant.Lists p gid ↔
    ∃ gs, s.Live gid gs ∧ p ∈ gs.grant.participants

variable {s s' : Scheduler D} {issued : List CollectiveGrant}

/-- Nothing is listed and nothing executes. -/
theorem IndexExact.of_empty (hgrants : s.grants = .empty)
    (hindex : s.activeByParticipant = .empty) : s.IndexExact := by
  intro p gid
  constructor
  · rintro ⟨ids, hfind, -⟩
    rw [hindex] at hfind
    cases hfind
  · rintro ⟨gs, ⟨hentry, -⟩, -⟩
    rw [hgrants] at hentry
    cases hentry

theorem IndexExact.fresh (policy : PolicyConfig D) (epoch : CoordinatorEpoch) :
    IndexExact (Scheduler.fresh policy epoch) :=
  of_empty rfl rfl

theorem IndexExact.reset (s : Scheduler D) : s.resetDynamicStateForRecovery.IndexExact :=
  of_empty rfl rfl

/-! ## What a call does to one entry -/

/-- The index stays, and so does everything that executes. -/
theorem IndexExact.congr (h : s.IndexExact)
    (hindex : s'.activeByParticipant = s.activeByParticipant)
    (hlive : ∀ gid gs, s'.Live gid gs ↔ s.Live gid gs) : s'.IndexExact := by
  intro p gid
  rw [hindex, h p gid]
  exact exists_congr fun gs => and_congr_left fun _ => (hlive gid gs).symm

theorem IndexExact.rewritten {R : LifecycleState → LifecycleState → Prop} (h : s.IndexExact)
    (hrewritten : Rewritten R s s') : s'.IndexExact :=
  h.congr hrewritten.activeByParticipant fun gid gs => by rw [Live, hrewritten.grants, Live]

/-- An entry under another id is not concerned by an insertion. -/
theorem live_insert_ne {gid gid' : CollectiveGrantId} {gs gs' : GrantState}
    (hgrants : s'.grants = s.grants.insert gid gs') (hne : gid' ≠ gid) :
    s'.Live gid' gs ↔ s.Live gid' gs := by
  rw [Live, Live, hgrants, FinMap.find?_insert, if_neg hne]

theorem live_insert_self {gid : CollectiveGrantId} {gs gs' : GrantState}
    (hgrants : s'.grants = s.grants.insert gid gs') :
    s'.Live gid gs ↔ gs = gs' ∧ gs'.isLive = true := by
  rw [Live, hgrants, FinMap.find?_insert, if_pos rfl]
  constructor
  · rintro ⟨hentry, hl⟩
    cases hentry
    exact ⟨rfl, hl⟩
  · rintro ⟨rfl, hl⟩
    exact ⟨rfl, hl⟩

/-- An entry that does not execute is replaced by another one that does not. -/
theorem IndexExact.dismiss (h : s.IndexExact) {gid : CollectiveGrantId} {gs gs' : GrantState}
    (hentry : s.grants.find? gid = some gs) (hidle : gs.isLive = false)
    (hdead : gs'.isLive = false) (hgrants : s'.grants = s.grants.insert gid gs')
    (hindex : s'.activeByParticipant = s.activeByParticipant) : s'.IndexExact := by
  refine h.congr hindex fun gid' gs₀ => ?_
  rw [Live, hgrants, live_insert_iff hdead]
  refine and_iff_left_of_imp ?_
  rintro ⟨hfind, hl⟩ rfl
  rw [hentry] at hfind
  cases hfind
  rw [hidle] at hl
  cases hl

/-- An entry is ended and its grant is taken out of the index. -/
theorem IndexExact.retire (h : s.IndexExact) {gid : CollectiveGrantId} {gs gs' : GrantState}
    (hentry : s.grants.find? gid = some gs) (hid : gs.grant.id = gid) (hdead : gs'.isLive = false)
    (hgrants : s'.grants = s.grants.insert gid gs')
    (hindex : s'.activeByParticipant = s.activeByParticipant.deindexActiveGrant gs.grant) :
    s'.IndexExact := by
  intro p gid'
  have hlive : ∀ gs₀, s'.Live gid' gs₀ ↔ s.Live gid' gs₀ ∧ gid' ≠ gid := fun gs₀ => by
    rw [Live, hgrants, live_insert_iff hdead]
  rw [hindex, ActiveIndex.lists_deindexActiveGrant, h p gid', hid]
  constructor
  · -- only the participants of the entry listed it, and all of them were removed
    rintro ⟨⟨gs₀, hl, hp⟩, hnot⟩
    refine ⟨gs₀, (hlive gs₀).mpr ⟨hl, ?_⟩, hp⟩
    rintro rfl
    rw [Live, hentry] at hl
    cases hl.1
    exact hnot ⟨hp, rfl⟩
  · rintro ⟨gs₀, hl, hp⟩
    obtain ⟨hold, hne⟩ := (hlive gs₀).mp hl
    exact ⟨⟨gs₀, hold, hp⟩, fun hboth => hne hboth.2⟩

/-- An entry that did not execute starts to, and its grant is listed. -/
theorem IndexExact.enter (h : s.IndexExact) {gid : CollectiveGrantId} {gs gs' : GrantState}
    (hentry : s.grants.find? gid = some gs) (hidle : gs.isLive = false)
    (hid : gs'.grant.id = gid) (hlive : gs'.isLive = true)
    (hgrants : s'.grants = s.grants.insert gid gs')
    (hindex : s'.activeByParticipant = s.activeByParticipant.indexActiveGrant gs'.grant) :
    s'.IndexExact := by
  intro p gid'
  rw [hindex, ActiveIndex.lists_indexActiveGrant, h p gid', hid]
  by_cases hgid : gid' = gid
  · subst hgid
    constructor
    · rintro (⟨gs₀, hl, -⟩ | ⟨hp, -⟩)
      · rw [Live, hentry] at hl
        cases hl.1
        rw [hidle] at hl
        cases hl.2
      · exact ⟨gs', (live_insert_self hgrants).mpr ⟨rfl, hlive⟩, hp⟩
    · rintro ⟨gs₀, hl, hp⟩
      obtain ⟨rfl, -⟩ := (live_insert_self hgrants).mp hl
      exact .inr ⟨hp, rfl⟩
  · have hother : ¬(p ∈ gs'.grant.participants ∧ gid' = gid) := fun hboth => hgid hboth.2
    rw [or_iff_left hother]
    exact exists_congr fun gs₀ => and_congr_left fun _ => (live_insert_ne hgrants hgid).symm

/-! ## The calls -/

theorem IndexExact.revokeGrant (h : s.IndexExact) (gid : CollectiveGrantId)
    (hid : ∀ gs, s.grants.find? gid = some gs → gs.grant.id = gid) :
    (s.revokeGrant gid).IndexExact := by
  cases hentry : s.grants.find? gid with
  | none =>
      have heq : s.revokeGrant gid = s := by rw [Scheduler.revokeGrant, hentry]
      rw [heq]
      exact h
  | some gs =>
      have heq : s.revokeGrant gid =
          { s with
            activeByParticipant := s.activeByParticipant.deindexActiveGrant gs.grant
            grants := s.grants.insert gid (revoked gs) } := by
        rw [Scheduler.revokeGrant, hentry]
      rw [heq]
      exact h.retire hentry (hid gs hentry) rfl rfl rfl

theorem IndexExact.supersede [Double D] (h : s.IndexExact) (hissuance : s.Issuance issued)
    (req : CollectiveRequest D) : (s.supersede req).1.IndexExact := by
  rcases s.supersede_cases req with ⟨e, heq⟩ | ⟨old, -, -, -, heq⟩ <;> rw [heq]
  · exact h
  · cases old.currentGrant with
    | none => exact h
    | some g => exact h.revokeGrant g.id fun gs hentry => (hissuance.entries g.id gs hentry).1

theorem IndexExact.cancel (h : s.IndexExact) (hissuance : s.Issuance issued)
    (id : CollectiveRequestId) : (s.cancel id).1.IndexExact := by
  rcases s.cancel_cases id with
    heq | ⟨rec, -, -, ⟨-, heq⟩ | ⟨g, gs, ⟨-, hentry, -⟩, heq⟩⟩ <;> rw [heq]
  · exact h
  · exact h
  · exact h.retire hentry (hissuance.entries g.id gs hentry).1 rfl rfl rfl

/-- A completion takes out the grant of the call, which is the stored one. -/
theorem IndexExact.complete (h : s.IndexExact) (hissuance : s.Issuance issued)
    (htable : s.GrantTable issued) {g : CollectiveGrant} (hg : g ∈ issued) (wb : WorkerBootId)
    (sb : SourceBootId) : (s.complete g wb sb).1.IndexExact := by
  rcases s.complete_cases g wb sb with heq | ⟨rec, gs, -, hentry, -, -, heq⟩ <;> rw [heq]
  · exact h
  · have hgrant := htable.entry_grant hissuance hg hentry
    refine h.retire hentry (by rw [hgrant]) rfl rfl ?_
    rw [hgrant]
    rfl

theorem IndexExact.fenceWorkerBoot (h : s.IndexExact) (hissuance : s.Issuance issued)
    (worker : WorkerId) (boot : WorkerBootId) (recordOrder : List CollectiveRequestId) :
    (s.fenceWorkerBoot worker boot recordOrder).IndexExact := by
  have hmarked := s.fenceParticipants_rewritten worker boot
  have hfence := fenceWorkerBoot_induct
    (P := fun t => t.IndexExact ∧ t.Issuance issued) recordOrder
    ⟨h.rewritten hmarked, hissuance.rewritten Advances.ofEq hmarked⟩ ?_
  · exact hfence.1
  · rintro t rid rec pid hfind - - - ⟨hexact, ht⟩
    refine ⟨?_, ht.fenceHit hfind⟩
    unfold fenceHit
    cases rec.currentGrant with
    | none => exact hexact
    | some g =>
        exact IndexExact.revokeGrant
          (s := { t with records := t.records.insert rid rec.demandRevalidation }) hexact g.id
          fun gs hentry => (ht.entries g.id gs hentry).1

theorem IndexExact.scheduleRound [Double D] (h : s.IndexExact)
    (recordOrder : List CollectiveRequestId) (grantOrder : List CollectiveGrantId) :
    (s.scheduleRound recordOrder grantOrder).1.IndexExact := by
  cases hround : s.scheduleRound recordOrder grantOrder with
  | mk s' result =>
      cases result with
      | error e => exact h.rewritten (scheduleRound_error hround)
      | ok result =>
          rw [(scheduleRound_ok hround).state]
          refine IndexExact.rewritten ?_ (closeRound_rewritten _ _ _)
          refine createGrants_keeps (P := IndexExact) _ _ ?_ (h.rewritten (refreshed_rewritten s))
          intro t id rec rec' _ _ _ ht
          exact ht.congr rfl fun gid gs => live_createGrant

/-- The entry of a granted request does not execute yet. -/
theorem Owned.idle_of_granted (h : s.Owned) {g : CollectiveGrant} {rec : Record D}
    {gs : GrantState} (hfind : s.records.find? g.request = some rec)
    (hgranted : rec.lifecycle = .granted) (hentry : s.grants.find? g.id = some gs)
    (hgrant : gs.grant = g) : gs.isLive = false := by
  cases hl : gs.isLive with
  | false => rfl
  | true =>
      obtain ⟨owner, howner, hexecutes⟩ := h.owner g.id gs ⟨hentry, hl⟩
      rw [hgrant, hfind] at howner
      cases howner
      exact absurd hgranted hexecutes.not_granted

/-- A handoff stores the grant of the call, which is the stored one, and lists it when the
worker accepts. -/
theorem IndexExact.handoff (h : s.IndexExact) (howned : s.Owned) (hissuance : s.Issuance issued)
    (htable : s.GrantTable issued) {g : CollectiveGrant} (hg : g ∈ issued) (accepted : Bool) :
    (s.handoff g accepted).1.IndexExact := by
  rcases s.handoff_cases g accepted with
    ⟨heq, -⟩ | ⟨rec, hfind, -, hgranted, hgen, ⟨-, heq, -⟩ | ⟨gs, hentry, -, heq⟩⟩ <;> rw [heq]
  · exact h
  · exact h
  · have hgrant := htable.entry_grant hissuance hg hentry
    have hidle := howned.idle_of_granted hfind hgranted hentry hgrant
    cases accepted with
    | false => exact h.dismiss hentry hidle rfl rfl rfl
    | true =>
        have hholder : rec.lifecycle.isHolder = true := by rw [hgranted]; rfl
        obtain ⟨hcur, -⟩ := hissuance.current_of_holder hg hfind hgen hholder
        obtain ⟨gs₀, hentry₀, hopen⟩ := htable.held g.request rec g hfind hholder hcur
        rw [hentry] at hentry₀
        cases hentry₀
        exact h.enter hentry hidle rfl (by simp [GrantState.isLive, hopen]) rfl rfl

end Scheduler

namespace System

variable [Double D] {y : System D} {op : Op D}

/-- An atomic call with an issued grant keeps the index exact. -/
theorem next_indexExact (hsound : y.Sound) (howned : y.sched.Owned)
    (htable : y.sched.GrantTable y.issued) (h : y.sched.IndexExact)
    (hatomic : op.isAtomic = true) (hissued : op.UsesIssued y) :
    (y.next op).sched.IndexExact := by
  have hissuance := hsound.issuance
  by_cases hquiet : op.isQuiet = true
  · obtain ⟨s, hnext, hrewritten⟩ := y.next_quiet hquiet
    rw [hnext]
    exact h.rewritten hrewritten
  cases op with
  | publishParticipant p => exact h.rewritten (y.sched.publishParticipant_rewritten p)
  | submit req =>
      change (y.sched.submit req).1.IndexExact
      rcases y.sched.submit_cases req with ⟨next, e, heq⟩ | ⟨-, -, heq⟩ <;> rw [heq] <;> exact h
  | supersede req => exact h.supersede hissuance req
  | cancel id => exact h.cancel hissuance id
  | schedule recordOrder grantOrder =>
      rw [sched_next_schedule]
      exact h.scheduleRound recordOrder grantOrder
  | handoff g accepted => exact h.handoff howned hissuance htable (hissued g rfl) accepted
  | handoffBegin g => cases hatomic
  | handoffEnd g accepted => cases hatomic
  | complete g wb sb => exact h.complete hissuance htable (hissued g rfl) wb sb
  | fenceWorkerBoot worker boot recordOrder =>
      exact h.fenceWorkerBoot hissuance worker boot recordOrder
  | resetDynamicStateForRecovery => exact .reset y.sched
  | _ => exact absurd rfl hquiet

end System

/-- The run rule for the index: exact and without empty sets, together with what makes a
call keep it so. -/
theorem AtomicRun.indexExact [Double D] {policy : PolicyConfig D} {epoch : CoordinatorEpoch}
    {ops : List (Op D)} (hrun : AtomicRun (System.start policy epoch) ops)
    (hids : ((System.start policy epoch).run ops).sched.nextGrantId.value.toNat < maxValue) :
    ((System.start policy epoch).run ops).sched.IndexExact ∧
      ((System.start policy epoch).run ops).sched.IndexTidy := by
  have hinvariant := Runs.invariant
    (I := fun y : System D => y.Sound ∧ y.sched.Owned ∧ y.sched.GrantTable y.issued ∧
      y.sched.IndexExact ∧ y.sched.IndexTidy)
    (fun y op ⟨hsound, howned, htable, hexact, htidy⟩ ⟨⟨hatomic, hissued⟩, _, hbelow⟩ =>
      ⟨System.next_sound hsound hissued, System.next_owned hsound howned hatomic hissued,
        hsound.next_grantTable htable (System.fitsSelection_of_next hsound.orderly hbelow),
        System.next_indexExact hsound howned htable hexact hatomic hissued,
        System.next_indexTidy htidy op⟩)
    ⟨System.start_sound policy epoch, .fresh policy epoch, .fresh policy epoch,
      .fresh policy epoch, FinMap.tidy_empty⟩
    (hrun.and (hrun.interleaved.below hids))
  exact hinvariant.2.2.2

/-- In every state that atomic calls with issued grants reach before the grant ids run out,
`active_by_participant` holds a grant id under a participant exactly when the grant is
stored, active, not terminal and names the participant; no set in it is empty. -/
theorem active_index_exact [Double D] (policy : PolicyConfig D) (epoch : CoordinatorEpoch)
    (ops : List (Op D)) (s : Scheduler D) (hrun : AtomicRun (System.start policy epoch) ops)
    (hreached : ((System.start policy epoch).run ops).sched = s)
    (hids : s.nextGrantId.value.toNat < maxValue) :
    (∀ p gid, (∃ set, s.activeByParticipant.find? p = some set ∧ set.contains gid = true) ↔
      ∃ gs, s.grants.find? gid = some gs ∧ gs.active = true ∧ gs.terminal = false ∧
        p ∈ gs.grant.participants) ∧
    ∀ p set, s.activeByParticipant.find? p = some set → ∃ gid, set.contains gid = true := by
  subst hreached
  obtain ⟨hexact, htidy⟩ := hrun.indexExact hids
  refine ⟨fun p gid => (hexact p gid).trans (exists_congr fun gs => ?_), fun p set hset => ?_⟩
  · simp only [Scheduler.Live, GrantState.isLive, Bool.and_eq_true, Bool.not_eq_true', and_assoc]
  · by_contra hnone
    refine htidy p (hset.trans (congrArg some (FinMap.ext_contains fun gid => ?_)))
    constructor
    · exact fun hmem => absurd ⟨gid, hmem⟩ hnone
    · intro hmem
      cases hmem

/-- Two requests that meet in participant 2: the first one executes, then it is completed
and the second one executes. -/
def Scenario.takesTurns : List (Op ℚ) :=
  withGrant
    (withGrant (conflictingRequests ++ [.schedule [] []]) 1
      (fun g => [.handoff g true, .complete g 11 100, .schedule [] []]))
    2 (fun g => [.handoff g true])

/-- Participant 2 lists the grant of the second turn only. -/
theorem active_index_exact_turns :
    AtomicRun Scenario.start Scenario.takesTurns ∧
      (Scenario.start.run Scenario.takesTurns).sched.nextGrantId.value.toNat < maxValue ∧
      (∃ set, (Scenario.start.run Scenario.takesTurns).sched.activeByParticipant.find? 2 =
        some set ∧ set.contains 2 = true) ∧
      ¬∃ set, (Scenario.start.run Scenario.takesTurns).sched.activeByParticipant.find? 2 =
        some set ∧ set.contains 1 = true := by
  have hrun : AtomicRun Scenario.start Scenario.takesTurns := by decide +kernel
  have hids : (Scenario.start.run Scenario.takesTurns).sched.nextGrantId.value.toNat < maxValue :=
    by decide +kernel
  have hstored : ∀ gid gs,
      (Scenario.start.run Scenario.takesTurns).sched.grants.find? gid = some gs →
      (gs.active = true ∧ gs.terminal = false ↔ gid = 2) ∧ 2 ∈ gs.grant.participants := by
    decide +kernel
  obtain ⟨hexact, -⟩ := active_index_exact PolicyConfig.default 1 Scenario.takesTurns _ hrun rfl
    hids
  refine ⟨hrun, hids, (hexact 2 2).mpr ?_, fun hlisted => ?_⟩
  · obtain ⟨gs, hentry⟩ : ∃ gs,
        (Scenario.start.run Scenario.takesTurns).sched.grants.find? 2 = some gs :=
      Option.isSome_iff_exists.mp (by decide +kernel)
    obtain ⟨hactive, hopen⟩ := (hstored 2 gs hentry).1.mpr rfl
    exact ⟨gs, hentry, hactive, hopen, (hstored 2 gs hentry).2⟩
  · obtain ⟨gs, hentry, hactive, hopen, -⟩ := (hexact 2 1).mp hlisted
    exact absurd ((hstored 1 gs hentry).1.mp ⟨hactive, hopen⟩) (by decide)

end CollectiveScheduler
