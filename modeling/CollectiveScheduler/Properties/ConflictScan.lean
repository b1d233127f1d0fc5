/-
  Properties/ConflictScan.lean --- the indexed conflict check against the full scan.

  `active_conflicts` visits the active grants that `active_by_participant` lists under a
  participant of the candidate, and `collect_priority_inversions` visits all of them.
  Both ask `classify_conflict`, which also forbids overlap for a common resource, a common
  link or an unknown footprint.  A conflict of that kind with a grant on other
  participants is found by the scan and missed by the check.  In runs with issued grants
  the index lists an executing grant under exactly the participants it names, so the two
  agree when a conflict always comes with a common participant.
-/
import CollectiveScheduler.System.Execution
import CollectiveScheduler.System.GrantTable
import CollectiveScheduler.System.Scenario

set_option autoImplicit false

namespace CollectiveScheduler

open Foundation

variable {D : Type}

namespace Scheduler

/-- The executing grant under `gid` belongs to a record whose footprint forbids overlap
with that of `rec`. -/
structure ConflictsAt (s : Scheduler D) (rec : Record D) (gid : CollectiveGrantId)
    (gs : GrantState) (other : Record D) : Prop where
  live : s.Live gid gs
  found : s.records.find? gs.grant.request = some other
  forbids : (classifyConflict rec.footprint other.footprint).forbidsOverlap = true

/-- The full scan finds a conflict. -/
def ScanConflicts (s : Scheduler D) (rec : Record D) : Prop :=
  ∃ gid gs other, s.ConflictsAt rec gid gs other

/-- If the scan finds a conflict, it finds one with a grant that the index lists under a
participant of the record. -/
def ConflictListed (s : Scheduler D) (rec : Record D) : Prop :=
  s.ScanConflicts rec → ∃ gid gs other, s.ConflictsAt rec gid gs other ∧
    ∃ p ∈ rec.request.participants, s.activeByParticipant.Lists p gid

/-- If the scan finds a conflict, it finds one with a grant that names a participant of
the record. -/
def ConflictShared (s : Scheduler D) (rec : Record D) : Prop :=
  s.ScanConflicts rec → ∃ gid gs other, s.ConflictsAt rec gid gs other ∧
    ∃ p ∈ rec.request.participants, p ∈ gs.grant.participants

variable {s s' : Scheduler D} {issued : List CollectiveGrant}

theorem conflictsWith_iff {rec : Record D} {gid : CollectiveGrantId} :
    s.conflictsWith rec gid = true ↔ ∃ gs other, s.ConflictsAt rec gid gs other := by
  unfold conflictsWith
  constructor
  · intro h
    split at h
    · cases h
    · rename_i gs hentry
      split_ifs at h with hdead
      split at h
      · cases h
      · rename_i other hfind
        refine ⟨gs, other, ⟨hentry, ?_⟩, hfind, h⟩
        simpa [GrantState.isLive] using hdead
  · rintro ⟨gs, other, ⟨hentry, hlive⟩, hfind, hforbids⟩
    have hdead : (!gs.active || gs.terminal) = false := by
      simpa [GrantState.isLive] using hlive
    simp only [hentry, hdead, hfind, hforbids, Bool.false_eq_true, if_false]

/-- The check counts the conflicts among the listed grants. -/
theorem activeConflicts_pos_iff {rec : Record D} :
    0 < s.activeConflicts rec ↔ ∃ gid gs other, s.ConflictsAt rec gid gs other ∧
      ∃ p ∈ rec.request.participants, s.activeByParticipant.Lists p gid := by
  unfold activeConflicts
  rw [List.countP_pos_iff]
  constructor
  · rintro ⟨gid, hmem, hconflict⟩
    obtain ⟨gs, other, hat⟩ := conflictsWith_iff.mp hconflict
    exact ⟨gid, gs, other, hat, mem_conflictCandidates.mp hmem⟩
  · rintro ⟨gid, gs, other, hat, hlisted⟩
    exact ⟨gid, mem_conflictCandidates.mpr hlisted, conflictsWith_iff.mpr ⟨gs, other, hat⟩⟩

/-- The check agrees with the scan exactly when a conflict is listed where it looks. -/
theorem activeConflicts_scan_iff (s : Scheduler D) (rec : Record D) :
    (0 < s.activeConflicts rec ↔ s.ScanConflicts rec) ↔ s.ConflictListed rec := by
  have hcheck : 0 < s.activeConflicts rec → s.ScanConflicts rec := by
    intro hpos
    obtain ⟨gid, gs, other, hat, -⟩ := activeConflicts_pos_iff.mp hpos
    exact ⟨gid, gs, other, hat⟩
  constructor
  · exact fun hagree hscan => activeConflicts_pos_iff.mp (hagree.mpr hscan)
  · exact fun hlisted => ⟨hcheck, fun hscan => activeConflicts_pos_iff.mpr (hlisted hscan)⟩

/-- An event names the conflict it reports. -/
theorem inversionEvent_eq_some [Double D] {rec : Record D} {gid : CollectiveGrantId}
    {ev : PriorityInversionEvent} (h : s.inversionEvent rec gid = some ev) :
    ev.requester = rec.request.id ∧ ∃ gs other, s.ConflictsAt rec gid gs other ∧
      other.request.priority.value < rec.request.priority.value ∧
      ev.holder = other.request.id := by
  unfold inversionEvent at h
  split at h
  · cases h
  · rename_i gs hentry
    split_ifs at h with hdead
    split at h
    · cases h
    · rename_i other hfind
      split_ifs at h with hpriority hforbids
      cases h
      refine ⟨rfl, gs, other, ⟨⟨hentry, ?_⟩, hfind, by simpa using hforbids⟩, ?_, rfl⟩
      · simpa [GrantState.isLive] using hdead
      · simpa using hpriority

/-- `collect_priority_inversions` reports a grant exactly when the scan finds a conflict
with it and its request has the lower priority. -/
theorem inversionEvent_isSome_iff [Double D] {rec : Record D} {gid : CollectiveGrantId} :
    (s.inversionEvent rec gid).isSome = true ↔ ∃ gs other, s.ConflictsAt rec gid gs other ∧
      other.request.priority.value < rec.request.priority.value := by
  constructor
  · intro h
    obtain ⟨ev, hev⟩ := Option.isSome_iff_exists.mp h
    obtain ⟨-, gs, other, hat, hlower, -⟩ := inversionEvent_eq_some hev
    exact ⟨gs, other, hat, hlower⟩
  · rintro ⟨gs, other, ⟨⟨hentry, hlive⟩, hfind, hforbids⟩, hlower⟩
    have hdead : (!gs.active || gs.terminal) = false := by
      simpa [GrantState.isLive] using hlive
    have hpriority : ¬other.request.priority.value ≥ rec.request.priority.value := by
      simpa using hlower
    unfold inversionEvent
    simp only [hentry, hdead, hfind, hforbids, hpriority, Bool.false_eq_true, if_false,
      Bool.not_true]
    rfl

/-! ## The index and the executing grants -/

/-- The index lists executing grants under the participants they name, and lists nothing
that was not issued for the participant. -/
structure IndexInStep (issued : List CollectiveGrant) (s : Scheduler D) : Prop where
  complete : ∀ gid gs, s.Live gid gs → ∀ p ∈ gs.grant.participants,
    s.activeByParticipant.Lists p gid
  sound : ∀ p gid, s.activeByParticipant.Lists p gid →
    ∃ g ∈ issued, g.id = gid ∧ p ∈ g.participants

theorem IndexInStep.fresh (policy : PolicyConfig D) (epoch : CoordinatorEpoch) :
    IndexInStep [] (Scheduler.fresh policy epoch) where
  complete gid gs hl := by cases hl.1
  sound p gid hlists := by
    obtain ⟨ids, hfind, -⟩ := hlists
    cases hfind

/-- Below saturation, an executing grant is listed under the participants it names. -/
theorem IndexInStep.lists_iff (h : s.IndexInStep issued) (htable : s.GrantTable issued)
    (hissuance : s.Issuance issued) {gid : CollectiveGrantId} {gs : GrantState}
    (hl : s.Live gid gs) (p : ParticipantId) :
    s.activeByParticipant.Lists p gid ↔ p ∈ gs.grant.participants := by
  constructor
  · intro hlists
    obtain ⟨g, hg, hid, hp⟩ := h.sound p gid hlists
    subst hid
    rw [htable.entry_grant hissuance hg hl.1]
    exact hp
  · exact h.complete gid gs hl p

theorem conflictShared_iff_listed
    (h : ∀ gid gs, s.Live gid gs → ∀ p, s.activeByParticipant.Lists p gid ↔
      p ∈ gs.grant.participants) (rec : Record D) :
    s.ConflictListed rec ↔ s.ConflictShared rec := by
  refine imp_congr_right fun _ => exists_congr fun gid => exists_congr fun gs =>
    exists_congr fun other => and_congr_right fun hat => exists_congr fun p => ?_
  rw [h gid gs hat.live p]

theorem lists_revokeGrant {gid gid' : CollectiveGrantId} {p : ParticipantId}
    (h : (s.revokeGrant gid).activeByParticipant.Lists p gid') :
    s.activeByParticipant.Lists p gid' := by
  unfold revokeGrant at h
  split at h
  · exact h
  · exact (ActiveIndex.lists_deindexActiveGrant.mp h).1

theorem lists_fenceWorkerBoot {worker : WorkerId} {boot : WorkerBootId}
    {recordOrder : List CollectiveRequestId} {p : ParticipantId} {gid : CollectiveGrantId}
    (h : (s.fenceWorkerBoot worker boot recordOrder).activeByParticipant.Lists p gid) :
    s.activeByParticipant.Lists p gid := by
  refine fenceWorkerBoot_induct
    (P := fun t => t.activeByParticipant.Lists p gid → s.activeByParticipant.Lists p gid)
    recordOrder id ?_ h
  intro t rid rec pid _ _ _ _ ht hlists
  refine ht ?_
  unfold fenceHit at hlists
  simp only at hlists
  split at hlists
  · exact hlists
  · have hold := lists_revokeGrant hlists
    exact hold

section Calls

variable {p : ParticipantId} {gid : CollectiveGrantId}

theorem lists_supersede [Double D] {req : CollectiveRequest D}
    (h : (s.supersede req).1.activeByParticipant.Lists p gid) :
    s.activeByParticipant.Lists p gid := by
  rcases s.supersede_cases req with ⟨e, heq⟩ | ⟨old, -, -, -, heq⟩
  · rw [heq] at h
    exact h
  · rw [heq] at h
    cases hcur : old.currentGrant with
    | none =>
        rw [hcur] at h
        exact h
    | some g =>
        rw [hcur] at h
        exact lists_revokeGrant h

theorem lists_cancel {id : CollectiveRequestId}
    (h : (s.cancel id).1.activeByParticipant.Lists p gid) : s.activeByParticipant.Lists p gid := by
  rcases s.cancel_cases id with heq | ⟨rec, -, -, ⟨-, heq⟩ | ⟨g, gs, -, heq⟩⟩ <;> rw [heq] at h
  · exact h
  · exact h
  · exact (ActiveIndex.lists_deindexActiveGrant.mp h).1

theorem lists_complete {g : CollectiveGrant} {wb : WorkerBootId} {sb : SourceBootId}
    (h : (s.complete g wb sb).1.activeByParticipant.Lists p gid) :
    s.activeByParticipant.Lists p gid := by
  rcases s.complete_cases g wb sb with heq | ⟨rec, gs, -, -, -, -, heq⟩ <;> rw [heq] at h
  · exact h
  · exact (ActiveIndex.lists_deindexActiveGrant.mp h).1

/-- A handoff in one piece lists the grant of the call. -/
theorem lists_handoff {g : CollectiveGrant} {accepted : Bool}
    (h : (s.handoff g accepted).1.activeByParticipant.Lists p gid) :
    s.activeByParticipant.Lists p gid ∨ (g.id = gid ∧ p ∈ g.participants) := by
  rcases s.handoff_cases g accepted with
    ⟨heq, -⟩ | ⟨rec, -, -, -, -, ⟨-, heq, -⟩ | ⟨gs, -, -, heq⟩⟩ <;> rw [heq] at h
  · exact .inl h
  · exact .inl h
  · cases accepted with
    | false => exact .inl h
    | true =>
        rcases ActiveIndex.lists_indexActiveGrant.mp h with hold | ⟨hp, hid⟩
        · exact .inl hold
        · exact .inr ⟨hid.symm, hp⟩

end Calls

/-- The second section of a handoff lists the grant of the entry it activates. -/
theorem lists_handoffEnd {gc : CollectiveGrant} {accepted : Bool} {p : ParticipantId}
    {gid : CollectiveGrantId}
    (h : (s.handoffEnd gc accepted).1.activeByParticipant.Lists p gid) :
    s.activeByParticipant.Lists p gid ∨ ∃ gs, s.grants.find? gc.id = some gs ∧
      gs.grant.id = gid ∧ p ∈ gs.grant.participants := by
  rcases s.handoffEnd_cases gc accepted with
    ⟨-, heq⟩ | ⟨rec, -, ⟨-, heq⟩ | ⟨gs, hentry, ⟨-, heq⟩ | ⟨-, heq⟩⟩⟩ <;> rw [heq] at h
  · exact .inl h
  · exact .inl h
  · rcases ActiveIndex.lists_indexActiveGrant.mp h with hold | ⟨hp, hid⟩
    · exact .inl hold
    · exact .inr ⟨gs, hentry, hid.symm, hp⟩
  · exact .inl h

end Scheduler

namespace System

variable [Double D] {y : System D} {op : Op D}

/-- What the index lists after a call it listed before, or an issued grant names it. -/
theorem lists_next (hsound : y.Sound) (hissued : op.UsesIssued y) {p : ParticipantId}
    {gid : CollectiveGrantId} (h : (y.next op).sched.activeByParticipant.Lists p gid) :
    y.sched.activeByParticipant.Lists p gid ∨
      ∃ g ∈ y.issued, g.id = gid ∧ p ∈ g.participants := by
  have hissuance := hsound.issuance
  by_cases hquiet : op.isQuiet = true
  · obtain ⟨s, hnext, hrewritten⟩ := y.next_quiet hquiet
    rw [hnext] at h
    rw [← hrewritten.activeByParticipant]
    exact .inl h
  cases op with
  | publishParticipant q =>
      have hsame := (y.sched.publishParticipant_rewritten q).activeByParticipant
      rw [← hsame]
      exact .inl h
  | submit req =>
      change (y.sched.submit req).1.activeByParticipant.Lists p gid at h
      rcases y.sched.submit_cases req with ⟨next, e, heq⟩ | ⟨-, -, heq⟩ <;> rw [heq] at h <;>
        exact .inl h
  | supersede req => exact .inl (Scheduler.lists_supersede h)
  | cancel id => exact .inl (Scheduler.lists_cancel h)
  | schedule recordOrder grantOrder =>
      obtain ⟨s, dec, created, hround⟩ :=
        Scheduler.scheduleRound_isOk hsound.orderly.settled recordOrder grantOrder
      rw [sched_next_schedule, hround, (Scheduler.scheduleRound_ok hround).state,
        (Scheduler.closeRound_rewritten _ _ _).activeByParticipant,
        (Scheduler.grantsAdded_round hsound.orderly recordOrder).index,
        (Scheduler.refreshed_rewritten y.sched).activeByParticipant] at h
      exact .inl h
  | handoff g accepted =>
      rcases Scheduler.lists_handoff h with hold | ⟨hid, hp⟩
      · exact .inl hold
      · exact .inr ⟨g, hissued g rfl, hid, hp⟩
  | handoffBegin g =>
      rw [sched_next_handoffBegin] at h
      rcases y.sched.handoffBegin_cases g with heq | ⟨rec, -, -, -, -, heq⟩ <;> rw [heq] at h <;>
        exact .inl h
  | handoffEnd g accepted =>
      rw [sched_next_handoffEnd] at h
      split_ifs at h
      · rcases Scheduler.lists_handoffEnd h with hold | ⟨gs, hentry, hid, hp⟩
        · exact .inl hold
        · exact .inr ⟨gs.grant, (hissuance.entries _ gs hentry).2, hid, hp⟩
      · exact .inl h
  | complete g wb sb => exact .inl (Scheduler.lists_complete h)
  | fenceWorkerBoot worker boot recordOrder =>
      exact .inl (Scheduler.lists_fenceWorkerBoot h)
  | resetDynamicStateForRecovery =>
      obtain ⟨ids, hfind, -⟩ := h
      cases hfind
  | _ => exact absurd rfl hquiet

/-- Below saturation, what executes after a call is listed under the participants it
names. -/
theorem next_live_listed (hsound : y.Sound) (htable : y.sched.GrantTable y.issued)
    (h : y.sched.IndexInStep y.issued) (hissued : op.UsesIssued y) {gid : CollectiveGrantId}
    {gs : GrantState} (hl : (y.next op).sched.Live gid gs) {p : ParticipantId}
    (hp : p ∈ gs.grant.participants) : (y.next op).sched.activeByParticipant.Lists p gid := by
  have hissuance := hsound.issuance
  cases hatomic : op.isAtomic with
  | true =>
      rcases next_execution hsound hatomic hissued with hstep | ⟨g, rec, rec', gs', hlaunch⟩
      · exact hstep.listed gid gs p hl (h.complete gid gs (hstep.live gid gs hl) p hp)
      · rw [hlaunch.index]
        refine ActiveIndex.lists_indexActiveGrant.mpr ?_
        rcases hlaunch.live hl with ⟨hid, hgrant⟩ | ⟨-, hl₀⟩
        · rw [hgrant] at hp
          exact .inr ⟨hp, hid⟩
        · exact .inl (h.complete gid gs hl₀ p hp)
  | false =>
      cases op with
      | handoffBegin g =>
          rw [sched_next_handoffBegin] at hl ⊢
          rcases y.sched.handoffBegin_cases g with heq | ⟨rec, -, -, -, -, heq⟩
          · rw [heq] at hl ⊢
            exact h.complete gid gs hl p hp
          · rw [heq] at hl ⊢
            -- the entry already holds the grant that is stored into it
            obtain ⟨hentry, hlive⟩ := hl
            simp only [Scheduler.dispatched, FinMap.find?_modify] at hentry
            split_ifs at hentry with hid
            · obtain ⟨gs₀, hentry₀, rfl⟩ := Option.map_eq_some_iff.mp hentry
              subst hid
              have hgrant := htable.entry_grant hissuance (hissued g rfl) hentry₀
              exact h.complete _ gs₀ ⟨hentry₀, hlive⟩ p (by rw [hgrant]; exact hp)
            · exact h.complete gid gs ⟨hentry, hlive⟩ p hp
      | handoffEnd g accepted =>
          rw [sched_next_handoffEnd] at hl ⊢
          split_ifs at hl ⊢ with hflight
          · rcases y.sched.handoffEnd_cases g accepted with
              ⟨-, heq⟩ | ⟨rec, -, ⟨-, heq⟩ | ⟨gs₀, hentry₀, ⟨-, heq⟩ | ⟨-, heq⟩⟩⟩ <;>
              rw [heq] at hl ⊢
            · exact h.complete gid gs hl p hp
            · exact h.complete gid gs hl p hp
            · obtain ⟨hentry, hlive⟩ := hl
              refine ActiveIndex.lists_indexActiveGrant.mpr ?_
              simp only [Scheduler.activated, FinMap.find?_insert] at hentry
              split_ifs at hentry with hid
              · cases hentry
                subst hid
                exact .inr ⟨hp, (hissuance.entries _ gs₀ hentry₀).1.symm⟩
              · exact .inl (h.complete gid gs ⟨hentry, hlive⟩ p hp)
            · exact h.complete gid gs (Scheduler.live_of_insert (by
                simp [GrantState.isLive]) hl).1 p hp
          · exact h.complete gid gs hl p hp
      | _ => cases hatomic

theorem next_indexInStep (hsound : y.Sound) (htable : y.sched.GrantTable y.issued)
    (h : y.sched.IndexInStep y.issued) (hissued : op.UsesIssued y) :
    (y.next op).sched.IndexInStep (y.next op).issued where
  complete _ _ hl _ hp := next_live_listed hsound htable h hissued hl hp
  sound p gid hlists := by
    have hold : ∃ g ∈ y.issued, g.id = gid ∧ p ∈ g.participants := by
      rcases lists_next hsound hissued hlists with hlisted | hnamed
      · exact h.sound p gid hlisted
      · exact hnamed
    obtain ⟨g, hg, hnames⟩ := hold
    exact ⟨g, mem_issued_next hg op, hnames⟩

end System

theorem InterleavedRun.indexInStep [Double D] {policy : PolicyConfig D} {epoch : CoordinatorEpoch}
    {ops : List (Op D)} (hrun : InterleavedRun (System.start policy epoch) ops)
    (hids : ((System.start policy epoch).run ops).sched.nextGrantId.value.toNat < maxValue) :
    ((System.start policy epoch).run ops).sched.IndexInStep
      ((System.start policy epoch).run ops).issued := by
  have hinvariant := Runs.invariant
    (I := fun y : System D => y.Sound ∧ y.sched.GrantTable y.issued ∧
      y.sched.IndexInStep y.issued)
    (fun y op ⟨hsound, htable, hindex⟩ ⟨hissued, hbelow⟩ =>
      ⟨System.next_sound hsound hissued,
        hsound.next_grantTable htable (System.fitsSelection_of_next hsound.orderly hbelow),
        System.next_indexInStep hsound htable hindex hissued⟩)
    ⟨System.start_sound policy epoch, .fresh policy epoch, .fresh policy epoch⟩ (hrun.below hids)
  exact hinvariant.2.2

/-- In every state and for every record, the indexed check agrees with the full scan, which
is the relation `collect_priority_inversions` evaluates, exactly when a conflict is listed
under a participant of the record.  In runs with issued grants whose ids have not run out,
that is when a conflict comes with a common participant. -/
theorem conflict_check_agrees_iff [Double D] :
    (∀ (s : Scheduler D) (rec : Record D),
      ((0 < s.activeConflicts rec ↔ s.ScanConflicts rec) ↔ s.ConflictListed rec) ∧
      ∀ gid, (s.inversionEvent rec gid).isSome = true ↔ ∃ gs other,
        s.ConflictsAt rec gid gs other ∧
          other.request.priority.value < rec.request.priority.value) ∧
    ∀ (policy : PolicyConfig D) (epoch : CoordinatorEpoch) (ops : List (Op D)) (s : Scheduler D),
      InterleavedRun (System.start policy epoch) ops →
      ((System.start policy epoch).run ops).sched = s → s.nextGrantId.value.toNat < maxValue →
      ∀ rec, (0 < s.refreshed.activeConflicts rec ↔ s.refreshed.ScanConflicts rec) ↔
        s.refreshed.ConflictShared rec := by
  refine ⟨fun s rec => ⟨s.activeConflicts_scan_iff rec, fun gid =>
    Scheduler.inversionEvent_isSome_iff⟩, ?_⟩
  rintro policy epoch ops s hrun rfl hids rec
  have hindex := hrun.indexInStep hids
  have htable := hrun.grantTable hids
  have hissuance := hrun.sound.issuance
  -- the readiness pass leaves the grants and the index alone
  refine (Scheduler.activeConflicts_scan_iff _ rec).trans
    (Scheduler.conflictShared_iff_listed (fun gid gs hl p => ?_) rec)
  exact hindex.lists_iff htable hissuance hl p

namespace Scenario

/-- The first of two requests executes; both plans use link 7. -/
def linkHeld : List (Op ℚ) :=
  withGrant
    [.publishParticipant (participant 1 1 1 11), .publishParticipant (participant 2 1 1 11),
      .publishPlan { plan 1 1 [1] with links := [⟨7⟩] },
      .publishPlan { plan 2 1 [2] with links := [⟨7⟩] }, .submit (request 1 [1] 1),
      .submit (request 2 [2] 2), .schedule [] []]
    1 (fun g => [.handoff g true])

/-- The first of two requests that meet in participant 2 executes. -/
def participantHeld : List (Op ℚ) :=
  withGrant (conflictingRequests ++ [.schedule [] []]) 1 (fun g => [.handoff g true])

/-- What the check and the scan say of a record during the round. -/
def conflictVerdicts (s : Scheduler ℚ) (id : CollectiveRequestId) : Option (Bool × Bool) :=
  (s.refreshed.records.find? id).map fun rec =>
    (decide (0 < s.refreshed.activeConflicts rec),
      s.refreshed.grants.entries.any fun e => s.refreshed.conflictsWith rec e.1)

theorem exists_of_conflictVerdicts (s : Scheduler ℚ) (id : CollectiveRequestId) (check : Bool)
    (h : conflictVerdicts s id = some (check, true)) :
    ∃ rec, s.refreshed.records.find? id = some rec ∧ s.refreshed.ScanConflicts rec ∧
      (check = true ↔ 0 < s.refreshed.activeConflicts rec) := by
  obtain ⟨rec, hfind, hverdicts⟩ := Option.map_eq_some_iff.mp h
  obtain ⟨hcheck, hscan⟩ := Prod.mk.inj hverdicts
  obtain ⟨e, -, hconflict⟩ := List.any_eq_true.mp hscan
  obtain ⟨gs, other, hat⟩ := Scheduler.conflictsWith_iff.mp hconflict
  exact ⟨rec, hfind, ⟨e.1, gs, other, hat⟩, by rw [← hcheck, decide_eq_true_iff]⟩

end Scenario

/-- A candidate that shares a participant with an executing grant: check and scan agree, so
the conflict is shared. -/
theorem conflict_check_agrees_iff_participant_held :
    InterleavedRun Scenario.start Scenario.participantHeld ∧
      2 ∈ (Scenario.start.run Scenario.participantHeld).sched.candidates [] ∧
      ∃ rec, (Scenario.start.run Scenario.participantHeld).sched.refreshed.records.find? 2 =
          some rec ∧
        0 < (Scenario.start.run Scenario.participantHeld).sched.refreshed.activeConflicts rec ∧
        (Scenario.start.run Scenario.participantHeld).sched.refreshed.ConflictShared rec := by
  have hrun : InterleavedRun Scenario.start Scenario.participantHeld := by decide +kernel
  obtain ⟨rec, hfind, hscan, hcheck⟩ := Scenario.exists_of_conflictVerdicts
    (Scenario.start.run Scenario.participantHeld).sched 2 true (by decide +kernel)
  refine ⟨hrun, by decide +kernel, rec, hfind, hcheck.mp rfl, ?_⟩
  exact (conflict_check_agrees_iff.2 PolicyConfig.default 1 Scenario.participantHeld _ hrun rfl
    (by decide +kernel) rec).mp ⟨fun _ => hscan, fun _ => hcheck.mp rfl⟩

/-- The plan of the candidate uses the link of an executing grant on another participant:
the scan finds the conflict, and the check does not. -/
theorem conflict_check_misses_a_link :
    InterleavedRun Scenario.start Scenario.linkHeld ∧
      2 ∈ (Scenario.start.run Scenario.linkHeld).sched.candidates [] ∧
      ∃ rec, (Scenario.start.run Scenario.linkHeld).sched.refreshed.records.find? 2 = some rec ∧
        (Scenario.start.run Scenario.linkHeld).sched.refreshed.ScanConflicts rec ∧
        ¬0 < (Scenario.start.run Scenario.linkHeld).sched.refreshed.activeConflicts rec := by
  obtain ⟨rec, hfind, hscan, hcheck⟩ := Scenario.exists_of_conflictVerdicts
    (Scenario.start.run Scenario.linkHeld).sched 2 false (by decide +kernel)
  exact ⟨by decide +kernel, by decide +kernel, rec, hfind, hscan,
    fun hpos => Bool.false_ne_true (hcheck.mpr hpos)⟩

end CollectiveScheduler
