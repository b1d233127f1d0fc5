/-
  System/GrantStep.lean --- what any call can do to the grant table.

  The counterpart of `RecordStep` for grants: the id counter and the epoch never go
  back, an entry under an id that was already given out is an older entry, and a
  terminal entry stays terminal.  Like `RecordStep` it holds of every call in every
  state, whatever grants the callers pass.

  Apart from a round, which adds entries, and the reset, which drops them all, a call
  replaces entries in place, so that the ids with an entry stay the same.
-/
import CollectiveScheduler.System.RecordStep

set_option autoImplicit false

namespace CollectiveScheduler

open Foundation

variable {D : Type}

namespace Scheduler

/-! ## Entries replaced in place -/

/-- Entries of the grant table are replaced one after the other, by ones that are
terminal if the old ones were. -/
inductive EntriesUpdated : Scheduler D → Scheduler D → Prop
  | keep {s s' : Scheduler D} (hgrants : s'.grants = s.grants)
      (hnext : s'.nextGrantId = s.nextGrantId) (hepoch : s.epoch ≤ s'.epoch) :
      EntriesUpdated s s'
  | replace {s s' : Scheduler D} {gid : CollectiveGrantId} {gs gs' : GrantState}
      (hentry : s.grants.find? gid = some gs) (hgrants : s'.grants = s.grants.insert gid gs')
      (hterminal : gs.terminal = true → gs'.terminal = true)
      (hnext : s'.nextGrantId = s.nextGrantId) (hepoch : s'.epoch = s.epoch) :
      EntriesUpdated s s'
  | trans {s s' s'' : Scheduler D} (h : EntriesUpdated s s') (h' : EntriesUpdated s' s'') :
      EntriesUpdated s s''

namespace EntriesUpdated

variable {s s' : Scheduler D}

theorem refl (s : Scheduler D) : EntriesUpdated s s := .keep rfl rfl (le_refl _)

theorem of_rewritten {R : LifecycleState → LifecycleState → Prop} (h : Rewritten R s s') :
    EntriesUpdated s s' :=
  .keep h.grants h.nextGrantId h.epoch

/-- The same ids have an entry. -/
theorem isSome_eq (h : EntriesUpdated s s') (gid : CollectiveGrantId) :
    (s'.grants.find? gid).isSome = (s.grants.find? gid).isSome := by
  induction h with
  | keep hgrants => rw [hgrants]
  | replace hentry hgrants =>
      rw [hgrants, FinMap.find?_insert]
      split_ifs with hid
      · rw [hid, hentry]
        rfl
      · rfl
  | trans _ _ ih ih' => exact ih'.trans ih

theorem revokeGrant (s : Scheduler D) (gid : CollectiveGrantId) :
    EntriesUpdated s (s.revokeGrant gid) := by
  unfold Scheduler.revokeGrant
  cases hentry : s.grants.find? gid with
  | none => exact refl s
  | some gs => exact .replace hentry rfl (fun _ => rfl) rfl rfl

theorem cancel (s : Scheduler D) (id : CollectiveRequestId) :
    EntriesUpdated s (s.cancel id).1 := by
  rcases s.cancel_cases id with heq | ⟨rec, -, -, ⟨-, heq⟩ | ⟨g, gs, hopen, heq⟩⟩
  · rw [heq]
    exact refl s
  · rw [heq]
    exact .keep rfl rfl (le_refl _)
  · rw [heq]
    exact .replace hopen.2.1 rfl (fun _ => rfl) rfl rfl

theorem handoffBegin (s : Scheduler D) (g : CollectiveGrant) :
    EntriesUpdated s (s.handoffBegin g).1 := by
  rcases s.handoffBegin_cases g with heq | ⟨rec, -, -, -, -, heq⟩
  · rw [heq]
    exact refl s
  · have hgrants : (s.dispatched g rec).grants = s.grants.modify g.id
        (fun gs => { gs with handedOff := true, grant := g }) := rfl
    rw [heq]
    cases hentry : s.grants.find? g.id with
    | none =>
        rw [FinMap.modify_of_none _ hentry] at hgrants
        exact .keep hgrants rfl (le_refl _)
    | some gs =>
        rw [FinMap.modify_eq_insert _ hentry] at hgrants
        exact .replace hentry hgrants (fun hterm => hterm) rfl rfl

theorem handoffEnd (s : Scheduler D) (gc : CollectiveGrant) (accepted : Bool) :
    EntriesUpdated s (s.handoffEnd gc accepted).1 := by
  rcases s.handoffEnd_cases gc accepted with ⟨-, heq⟩ | ⟨rec, -, hcase⟩
  · rw [heq]
    exact refl s
  · rcases hcase with ⟨-, heq⟩ | ⟨gs, hentry, ⟨-, heq⟩ | ⟨-, heq⟩⟩
    · rw [heq]
      exact .keep rfl rfl (le_refl _)
    · rw [heq]
      exact .replace hentry rfl (fun hterm => hterm) rfl rfl
    · rw [heq]
      exact .replace hentry rfl (fun hterm => hterm) rfl rfl

theorem handoff (s : Scheduler D) (g : CollectiveGrant) (accepted : Bool) :
    EntriesUpdated s (s.handoff g accepted).1 := by
  rw [(s.handoff_eq g accepted).1]
  cases (s.handoffBegin g).2 with
  | none => exact handoffBegin s g
  | some gc => exact (handoffBegin s g).trans (handoffEnd _ gc accepted)

theorem complete (s : Scheduler D) (g : CollectiveGrant) (wb : WorkerBootId)
    (sb : SourceBootId) : EntriesUpdated s (s.complete g wb sb).1 := by
  rcases s.complete_cases g wb sb with heq | ⟨rec, gs, -, hentry, -, -, heq⟩
  · rw [heq]
    exact refl s
  · rw [heq]
    exact .replace hentry rfl (fun _ => rfl) rfl rfl

theorem fenceHit (s : Scheduler D) (rid : CollectiveRequestId) (rec : Record D) :
    EntriesUpdated s (s.fenceHit rid rec) := by
  have hmarked : EntriesUpdated s
      { s with records := s.records.insert rid rec.demandRevalidation } :=
    .keep rfl rfl (le_refl _)
  unfold Scheduler.fenceHit
  simp only
  cases rec.currentGrant with
  | none => exact hmarked
  | some g => exact hmarked.trans (revokeGrant _ g.id)

theorem fenceWorkerBoot (s : Scheduler D) (worker : WorkerId) (boot : WorkerBootId)
    (recordOrder : List CollectiveRequestId) :
    EntriesUpdated s (s.fenceWorkerBoot worker boot recordOrder) :=
  fenceWorkerBoot_induct (P := fun t => EntriesUpdated s t) recordOrder
    (of_rewritten (s.fenceParticipants_rewritten worker boot))
    (fun t rid rec _ _ _ _ _ ht => ht.trans (fenceHit t rid rec))

section Calls

variable [Double D]

theorem submit (s : Scheduler D) (req : CollectiveRequest D) :
    EntriesUpdated s (s.submit req).1 := by
  rcases s.submit_cases req with ⟨next, e, heq⟩ | ⟨-, -, heq⟩
  · rw [heq]
    exact .keep rfl rfl (le_refl _)
  · rw [heq]
    exact .keep rfl rfl (le_refl _)

theorem supersede (s : Scheduler D) (req : CollectiveRequest D) :
    EntriesUpdated s (s.supersede req).1 := by
  rcases s.supersede_cases req with ⟨e, heq⟩ | ⟨old, -, -, -, heq⟩
  · rw [heq]
    exact refl s
  · have hreleased : EntriesUpdated s (s.releaseForSupersede old.currentGrant) := by
      cases old.currentGrant with
      | none => exact refl s
      | some g => exact (revokeGrant s g.id).trans (.keep rfl rfl (le_refl _))
    rw [heq]
    exact hreleased.trans (.keep rfl rfl (le_refl _))

end Calls

end EntriesUpdated

end Scheduler

/-- The call neither creates entries nor drops the table. -/
def Op.updatesEntries : Op D → Bool
  | .schedule _ _ => false
  | .resetDynamicStateForRecovery => false
  | _ => true

theorem System.entriesUpdated [Double D] (y : System D) {op : Op D}
    (hop : op.updatesEntries = true) : y.sched.EntriesUpdated (y.next op).sched := by
  by_cases hquiet : op.isQuiet = true
  · obtain ⟨s, hnext, hrewritten⟩ := y.next_quiet hquiet
    rw [hnext]
    exact .of_rewritten hrewritten
  cases op with
  | publishParticipant p => exact .of_rewritten (y.sched.publishParticipant_rewritten p)
  | submit req => exact .submit y.sched req
  | supersede req => exact .supersede y.sched req
  | cancel id => exact .cancel y.sched id
  | handoff g accepted => exact .handoff y.sched g accepted
  | handoffBegin g =>
      rw [sched_next_handoffBegin]
      exact .handoffBegin y.sched g
  | handoffEnd g accepted =>
      rw [sched_next_handoffEnd]
      split_ifs
      · exact .handoffEnd y.sched g accepted
      · exact .refl y.sched
  | complete g wb sb => exact .complete y.sched g wb sb
  | fenceWorkerBoot worker boot recordOrder =>
      exact .fenceWorkerBoot y.sched worker boot recordOrder
  | schedule | resetDynamicStateForRecovery => cases hop
  | _ => exact absurd rfl hquiet

/-! ## Every call -/

namespace Scheduler

/-- The counters move forward, and entries below the counter are old ones. -/
structure GrantStep (s s' : Scheduler D) : Prop where
  counter : s.nextGrantId ≤ s'.nextGrantId
  epoch : s.epoch ≤ s'.epoch
  entries : ∀ gid gs', gid < s.nextGrantId → s'.grants.find? gid = some gs' →
    ∃ gs, s.grants.find? gid = some gs ∧ (gs.terminal = true → gs'.terminal = true)

namespace GrantStep

variable {s s' s'' : Scheduler D}

theorem refl (s : Scheduler D) : GrantStep s s :=
  ⟨le_refl _, le_refl _, fun _ gs' _ hentry => ⟨gs', hentry, fun h => h⟩⟩

theorem trans (h : GrantStep s s') (h' : GrantStep s' s'') : GrantStep s s'' where
  counter := h.counter.trans h'.counter
  epoch := h.epoch.trans h'.epoch
  entries gid gs'' hgid hentry'' := by
    obtain ⟨gs', hentry', hlater⟩ :=
      h'.entries gid gs'' (lt_of_lt_of_le hgid h.counter) hentry''
    obtain ⟨gs, hentry, hearlier⟩ := h.entries gid gs' hgid hentry'
    exact ⟨gs, hentry, fun hterminal => hlater (hearlier hterminal)⟩

theorem of_updated (h : EntriesUpdated s s') : GrantStep s s' := by
  induction h with
  | keep hgrants hnext hepoch =>
      refine ⟨hnext.ge, hepoch, fun gid gs' _ hentry => ⟨gs', ?_, fun h => h⟩⟩
      rw [← hgrants]
      exact hentry
  | replace hentry hgrants hterminal hnext hepoch =>
      refine ⟨hnext.ge, hepoch.ge, fun gid' gs'' _ hentry' => ?_⟩
      rw [hgrants, FinMap.find?_insert] at hentry'
      split_ifs at hentry' with hid
      · cases hentry'
        rw [hid]
        exact ⟨_, hentry, hterminal⟩
      · exact ⟨gs'', hentry', fun h => h⟩
  | trans _ _ ih ih' => exact ih.trans ih'

theorem of_rewritten {R : LifecycleState → LifecycleState → Prop} (h : Rewritten R s s') :
    GrantStep s s' :=
  of_updated (.of_rewritten h)

theorem reset (s : Scheduler D) : GrantStep s s.resetDynamicStateForRecovery :=
  ⟨le_refl _, le_refl _, fun gid gs' _ hentry => by cases hentry⟩

/-- A new grant takes the id of the counter, which is not below it. -/
theorem createGrant (s : Scheduler D) (id : CollectiveRequestId) (rec : Record D)
    (dec : ScheduleDecision D) : GrantStep s (s.createGrant id rec dec).1 := by
  refine ⟨Id.le_next _, le_refl _, fun gid gs' hgid hentry => ?_⟩
  have hne : gid ≠ (s.grantFor rec.request dec).id := ne_of_lt hgid
  exact ⟨gs', (FinMap.find?_emplace_of_ne _ _ hne).symm.trans hentry, fun h => h⟩

theorem createGrants (dec : ScheduleDecision D) (ids : List CollectiveRequestId)
    (s : Scheduler D) : GrantStep s (createGrants dec s ids).1 := by
  induction ids generalizing s with
  | nil => exact refl s
  | cons id rest ih =>
      unfold Scheduler.createGrants
      split
      · exact ih s
      · rename_i rec _
        split
        · exact ih s
        · rename_i rec' _
          exact (createGrant s id rec' dec).trans (ih (s.createGrant id rec' dec).1)

theorem scheduleRound [Double D] (s : Scheduler D)
    (recordOrder : List CollectiveRequestId)
    (grantOrder : List CollectiveGrantId) :
    GrantStep s (s.scheduleRound recordOrder grantOrder).1 := by
  cases hround : s.scheduleRound recordOrder grantOrder with
  | mk s' result =>
      cases result with
      | error e => exact of_rewritten (scheduleRound_error hround)
      | ok result =>
          obtain ⟨dec, created⟩ := result
          rw [(scheduleRound_ok hround).state]
          have hcreated := createGrants s.openDecision (s.selection recordOrder) s.refreshed
          exact ((of_rewritten (refreshed_rewritten s)).trans hcreated).trans
            (of_rewritten (closeRound_rewritten _ _ _))

end GrantStep

end Scheduler

theorem System.grantStep [Double D] (y : System D) (op : Op D) :
    y.sched.GrantStep (y.next op).sched := by
  by_cases hop : op.updatesEntries = true
  · exact .of_updated (y.entriesUpdated hop)
  cases op with
  | schedule recordOrder grantOrder =>
      rw [sched_next_schedule]
      exact .scheduleRound y.sched recordOrder grantOrder
  | resetDynamicStateForRecovery => exact .reset y.sched
  | _ => exact absurd rfl hop

end CollectiveScheduler
