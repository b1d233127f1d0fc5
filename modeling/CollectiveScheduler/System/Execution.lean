/-
  System/Execution.lean --- what executes, what is granted, and how calls change it.

  A request is engaged from the round that grants it to the end of its execution.  Of
  the atomic calls with issued grants, only `schedule` engages a request, and only
  `handoff` turns a granted request into an executing one.  Every other call can only
  end an execution or withdraw a grant, and what still executes keeps its record and its
  listing in the participant index.
-/
import CollectiveScheduler.System.Issuance

set_option autoImplicit false

namespace CollectiveScheduler

open Foundation LifecycleState

variable {D : Type}

/-- The record is the owner of an execution under `g`. -/
def Record.Executes (rec : Record D) (g : CollectiveGrant) : Prop :=
  rec.currentGrant = some g ∧ (rec.lifecycle = .active ∨ rec.lifecycle = .revalidationRequired)

theorem Record.Executes.not_ready {rec : Record D} {g : CollectiveGrant} (h : rec.Executes g) :
    rec.lifecycle ≠ .ready := by
  rcases h.2 with hlife | hlife <;> rw [hlife] <;> decide

theorem Record.Executes.not_granted {rec : Record D} {g : CollectiveGrant} (h : rec.Executes g) :
    rec.lifecycle ≠ .granted := by
  rcases h.2 with hlife | hlife <;> rw [hlife] <;> decide

namespace Scheduler

/-- Every executing grant has its record and its listing. -/
structure Owned (s : Scheduler D) : Prop where
  owner : ∀ gid gs, s.Live gid gs →
    ∃ rec, s.records.find? gs.grant.request = some rec ∧ rec.Executes gs.grant
  indexed : ∀ gid gs, s.Live gid gs → ∀ p ∈ gs.grant.participants,
    s.activeByParticipant.Lists p gid

/-- Nothing new executes, and only `admitted` requests are newly granted; what still
executes keeps its record and its listing. -/
structure ExecutionStep (admitted : List CollectiveRequestId) (s s' : Scheduler D) : Prop where
  live : ∀ gid gs, s'.Live gid gs → s.Live gid gs
  granted : ∀ id rec', s'.records.find? id = some rec' → rec'.lifecycle = .granted →
    ∃ rec, s.records.find? id = some rec ∧ rec'.request = rec.request ∧
      (rec.lifecycle = .granted ∨ id ∈ admitted)
  owner : ∀ gid gs rec, s'.Live gid gs → s.records.find? gs.grant.request = some rec →
    rec.Executes gs.grant →
    ∃ rec', s'.records.find? gs.grant.request = some rec' ∧ rec'.request = rec.request ∧
      rec'.Executes gs.grant
  listed : ∀ gid gs p, s'.Live gid gs → s.activeByParticipant.Lists p gid →
    s'.activeByParticipant.Lists p gid

/-- A granted request starts to execute under its current grant `g`: its record leaves
GRANTED, and the entry of the grant becomes one that executes. -/
structure Launch (g : CollectiveGrant) (rec rec' : Record D) (gs : GrantState)
    (s s' : Scheduler D) : Prop where
  found : s.records.find? g.request = some rec
  granted : rec.lifecycle = .granted
  request : rec'.request = rec.request
  executes : rec'.Executes g
  entry : gs.grant = g
  records : s'.records = s.records.insert g.request rec'
  grants : s'.grants = s.grants.insert g.id gs
  index : s'.activeByParticipant = s.activeByParticipant.indexActiveGrant g

variable {s s' s'' : Scheduler D} {issued : List CollectiveGrant}
  {admitted : List CollectiveRequestId}

namespace ExecutionStep

theorem refl (s : Scheduler D) : ExecutionStep [] s s where
  live _ _ hl := hl
  granted _ rec hfind hg := ⟨rec, hfind, rfl, .inl hg⟩
  owner _ _ rec _ hfind hexec := ⟨rec, hfind, rfl, hexec⟩
  listed _ _ _ _ hlists := hlists

/-- A step after which nothing is newly granted. -/
theorem trans (h : ExecutionStep admitted s s') (h' : ExecutionStep [] s' s'') :
    ExecutionStep admitted s s'' where
  live gid gs hl := h.live gid gs (h'.live gid gs hl)
  granted id rec'' hfind'' hg'' := by
    obtain ⟨rec', hfind', hreq', hg' | hmem⟩ := h'.granted id rec'' hfind'' hg''
    · obtain ⟨rec, hfind, hreq, hcase⟩ := h.granted id rec' hfind' hg'
      exact ⟨rec, hfind, hreq'.trans hreq, hcase⟩
    · cases hmem
  owner gid gs rec hl hfind hexec := by
    obtain ⟨rec', hfind', hreq', hexec'⟩ := h.owner gid gs rec (h'.live gid gs hl) hfind hexec
    obtain ⟨rec'', hfind'', hreq'', hexec''⟩ := h'.owner gid gs rec' hl hfind' hexec'
    exact ⟨rec'', hfind'', hreq''.trans hreq', hexec''⟩
  listed gid gs p hl hlists :=
    h'.listed gid gs p hl (h.listed gid gs p (h'.live gid gs hl) hlists)

end ExecutionStep

/-! ## Steps that leave the grant table alone -/

/-- A lifecycle move that makes no record granted and keeps the owners of
executing grants. -/
structure KeepsOwners (a b : LifecycleState) : Prop where
  granted : b = .granted → a = .granted
  owner : a = .active ∨ a = .revalidationRequired → b = .active ∨ b = .revalidationRequired

theorem keepsOwners_refl (a : LifecycleState) : KeepsOwners a a := ⟨id, id⟩

theorem keepsOwners_of_eq {a b : LifecycleState} (h : a = b) : KeepsOwners a b :=
  h ▸ keepsOwners_refl a

theorem keepsOwners_of_refreshes {a b : LifecycleState} (h : Refreshes a b) :
    KeepsOwners a b := by
  rcases h.moved with rfl | ⟨ha, hb⟩
  · exact keepsOwners_refl _
  · refine ⟨fun hgranted => ?_, fun howner => ?_⟩
    · rcases hb with rfl | rfl | rfl <;> cases hgranted
    · rcases howner with rfl | rfl <;> exact absurd ha (by decide)

theorem keepsOwners_of_revokes {a b : LifecycleState} (h : Revokes a b) : KeepsOwners a b := by
  rcases h with rfl | ⟨-, rfl⟩
  · exact keepsOwners_refl _
  · exact ⟨fun hgranted => (by cases hgranted), fun _ => .inr rfl⟩

theorem ExecutionStep.rewritten {R : LifecycleState → LifecycleState → Prop}
    (hkeeps : ∀ {a b}, R a b → KeepsOwners a b) (h : Rewritten R s s') :
    ExecutionStep [] s s' where
  live gid gs hl := by
    rw [Live, h.grants] at hl
    exact hl
  granted id rec' hfind' hg' := by
    obtain ⟨rec, hfind, hrec⟩ := h.records.find?_new hfind'
    exact ⟨rec, hfind, hrec.request, .inl ((hkeeps hrec.lifecycle).granted hg')⟩
  owner gid gs rec _ hfind hexec := by
    obtain ⟨rec', hfind', hrec⟩ := h.records.find? hfind
    exact ⟨rec', hfind', hrec.request, hrec.currentGrant.trans hexec.1,
      (hkeeps hrec.lifecycle).owner hexec.2⟩
  listed gid gs p _ hlists := by
    rw [h.activeByParticipant]
    exact hlists

/-! ## Steps that end an execution -/

/-- One record is rewritten to a state other than GRANTED and the grant it holds
stops executing; every other entry that executes is as before. -/
theorem ExecutionStep.retire (hissuance : s.Issuance issued)
    {id : CollectiveRequestId} {rec rec' : Record D} (hfind : s.records.find? id = some rec)
    (hrecords : s'.records = s.records.insert id rec') (hnot : rec'.lifecycle ≠ .granted)
    (hentries : ∀ gid gs, s'.Live gid gs →
      s.Live gid gs ∧ ∀ g, rec.currentGrant = some g → g.id ≠ gid)
    (hindex : ∀ gid gs p, s'.Live gid gs → s.activeByParticipant.Lists p gid →
      s'.activeByParticipant.Lists p gid) : ExecutionStep [] s s' where
  live gid gs hl := (hentries gid gs hl).1
  granted id' rec'' hfind' hg := by
    rw [hrecords, FinMap.find?_insert] at hfind'
    split_ifs at hfind' with hid
    · cases hfind'
      exact absurd hg hnot
    · exact ⟨rec'', hfind', rfl, .inl hg⟩
  owner gid gs rec₀ hl hfind₀ hexec := by
    obtain ⟨hl₀, hother⟩ := hentries gid gs hl
    have hne : gs.grant.request ≠ id := by
      intro heq
      rw [heq, hfind] at hfind₀
      cases hfind₀
      exact hother gs.grant hexec.1 (hissuance.entries gid gs hl₀.1).1
    refine ⟨rec₀, ?_, rfl, hexec⟩
    rw [hrecords, FinMap.find?_insert_of_ne _ _ hne]
    exact hfind₀
  listed := hindex

theorem ExecutionStep.cancel (hissuance : s.Issuance issued) (id : CollectiveRequestId) :
    ExecutionStep [] s (s.cancel id).1 := by
  rcases s.cancel_cases id with heq | ⟨rec, hfind, -, hcase⟩
  · rw [heq]
    exact refl s
  · have hnot : rec.cancel.lifecycle ≠ .granted := by
      rw [cancel_lifecycle]
      decide
    rcases hcase with ⟨hclosed, heq⟩ | ⟨g, gs, hopen, heq⟩
    · rw [heq]
      refine retire hissuance hfind rfl hnot (fun gid gs hl => ⟨hl, ?_⟩)
        (fun _ _ _ _ hlists => hlists)
      -- the record's grant has no open entry, so none that executes
      intro g hcur hgid
      subst hgid
      refine hclosed g gs ⟨hcur, hl.1, ?_⟩
      have hlive := hl.2
      simp only [GrantState.isLive, Bool.and_eq_true, Bool.not_eq_true'] at hlive
      exact hlive.2
    · rw [heq]
      have hothers : ∀ gid gs',
          (s.grants.insert g.id (revoked gs)).find? gid = some gs' ∧ gs'.isLive = true →
          s.Live gid gs' ∧ gid ≠ g.id := fun gid gs' hl => live_of_insert rfl hl
      refine retire hissuance hfind rfl hnot (fun gid gs' hl => ⟨(hothers gid gs' hl).1, ?_⟩) ?_
      · intro g' hcur hgid
        rw [hopen.1] at hcur
        cases hcur
        exact (hothers gid gs' hl).2 hgid.symm
      · intro gid gs' p hl hlists
        refine ActiveIndex.lists_deindexActiveGrant.mpr ⟨hlists, ?_⟩
        rintro ⟨-, hgid⟩
        rw [(hissuance.entries g.id gs hopen.2.1).1] at hgid
        exact (hothers gid gs' hl).2 hgid

theorem ExecutionStep.fenceHit (hissuance : s.Issuance issued) {rid : CollectiveRequestId}
    {rec : Record D} (hfind : s.records.find? rid = some rec) :
    ExecutionStep [] s (s.fenceHit rid rec) := by
  obtain ⟨hrequest, hgrant, hlife⟩ := demandRevalidation_frame rec
  have hmarked : ExecutionStep [] s
      { s with records := s.records.insert rid rec.demandRevalidation } :=
    rewritten keepsOwners_of_revokes (Rewritten.of_records
      (RecordsRewritten.insert Revokes.refl hfind ⟨hrequest, hgrant, hlife⟩)
      ⟨rfl, rfl, rfl, rfl, le_refl _⟩)
  have hissued : Issuance issued
      { s with records := s.records.insert rid rec.demandRevalidation } :=
    hissuance.rewrite (RecordsRewritten.insert Advances.refl hfind
      ⟨hrequest, hgrant, hlife.advances⟩) hissuance.entries
  unfold Scheduler.fenceHit
  simp only
  cases hcur : rec.currentGrant with
  | none => exact hmarked
  | some g =>
      have hfind' : ({ s with records := s.records.insert rid rec.demandRevalidation } :
          Scheduler D).records.find? rid = some rec.demandRevalidation :=
        FinMap.find?_insert_self _ _ _
      have hrecords : (({ s with records := s.records.insert rid rec.demandRevalidation } :
          Scheduler D).revokeGrant g.id).records =
            (s.records.insert rid rec.demandRevalidation).insert rid rec.demandRevalidation := by
        rw [revokeGrant_records]
        exact (FinMap.insert_insert _ _ _ _).symm
      refine hmarked.trans (retire hissued hfind' hrecords ?_ ?_ ?_)
      · intro hgranted
        rcases hlife with hkeep | ⟨-, hmove⟩
        · -- GRANTED is revocable, so it does not stay
          rw [hkeep] at hgranted
          unfold Record.demandRevalidation at hkeep
          rw [hgranted] at hkeep
          cases hkeep
        · rw [hmove] at hgranted
          cases hgranted
      · intro gid gs hl
        obtain ⟨hl₀, hne, -⟩ := live_revokeGrant hissued hl
        refine ⟨hl₀, fun g' hcur' hgid => ?_⟩
        rw [hgrant, hcur] at hcur'
        cases hcur'
        exact hne hgid.symm
      · intro gid gs p hl hlists
        exact (live_revokeGrant hissued hl).2.2 p hlists

theorem ExecutionStep.fenceWorkerBoot (hissuance : s.Issuance issued) (worker : WorkerId)
    (boot : WorkerBootId) (recordOrder : List CollectiveRequestId) :
    ExecutionStep [] s (s.fenceWorkerBoot worker boot recordOrder) := by
  have hmarked := s.fenceParticipants_rewritten worker boot
  have hfence := fenceWorkerBoot_induct
    (P := fun t => ExecutionStep [] s t ∧ t.Issuance issued) recordOrder
    ⟨rewritten keepsOwners_of_eq hmarked, hissuance.rewritten Advances.ofEq hmarked⟩
    (fun t rid rec pid hfind _ _ _ ht =>
      ⟨ht.1.trans (fenceHit ht.2 hfind), ht.2.fenceHit hfind⟩)
  exact hfence.1

/-- A completion ends the execution of the grant it is made with. -/
theorem ExecutionStep.complete (hissuance : s.Issuance issued) {g : CollectiveGrant}
    (hg : g ∈ issued) (wb : WorkerBootId) (sb : SourceBootId) :
    ExecutionStep [] s (s.complete g wb sb).1 := by
  rcases s.complete_cases g wb sb with heq | ⟨rec, gs, hfind, hentry, hallowed, hactive, heq⟩
  · rw [heq]
    exact refl s
  · rw [heq]
    obtain ⟨-, -, -, -, hgen, -⟩ := completionAllowed_iff.mp hallowed
    have hcur := (hissuance.current_of_holder hg hfind hgen (by rw [hactive]; rfl)).1
    have hothers : ∀ gid gs', (s.completed g wb sb rec gs).Live gid gs' →
        s.Live gid gs' ∧ gid ≠ g.id := fun gid gs' hl => live_of_insert rfl hl
    refine retire hissuance hfind rfl (fun hgranted => (by cases hgranted))
      (fun gid gs' hl => ⟨(hothers gid gs' hl).1, ?_⟩) ?_
    · intro g' hcur' hgid
      rw [hcur] at hcur'
      cases hcur'
      exact (hothers gid gs' hl).2 hgid.symm
    · intro gid gs' p hl hlists
      refine ActiveIndex.lists_deindexActiveGrant.mpr ⟨hlists, ?_⟩
      rintro ⟨-, hgid⟩
      exact (hothers gid gs' hl).2 hgid

theorem ExecutionStep.supersede [Double D] (hissuance : s.Issuance issued)
    (req : CollectiveRequest D) : ExecutionStep [] s (s.supersede req).1 := by
  rcases s.supersede_cases req with ⟨e, heq⟩ | ⟨old, hfind, -, -, heq⟩
  · rw [heq]
    exact refl s
  · rw [heq]
    cases hcur : old.currentGrant with
    | none =>
        refine retire hissuance hfind rfl (fun hgranted => (by cases hgranted))
          (fun gid gs hl => ⟨hl, fun g hg => ?_⟩) (fun _ _ _ _ hlists => hlists)
        rw [hcur] at hg
        cases hg
    | some g =>
        have hrecords : (s.releaseForSupersede (some g)).records.insert req.id
            (supersedingRecord old req) = s.records.insert req.id (supersedingRecord old req) := by
          rw [releaseForSupersede_records]
        refine retire hissuance hfind hrecords (fun hgranted => (by cases hgranted)) ?_ ?_
        · intro gid gs hl
          obtain ⟨hl₀, hne, -⟩ := live_revokeGrant hissuance hl
          refine ⟨hl₀, fun g' hcur' hgid => ?_⟩
          rw [hcur] at hcur'
          cases hcur'
          exact hne hgid.symm
        · intro gid gs p hl hlists
          exact (live_revokeGrant hissuance hl).2.2 p hlists

theorem ExecutionStep.submit [Double D] (s : Scheduler D) (req : CollectiveRequest D) :
    ExecutionStep [] s (s.submit req).1 := by
  rcases s.submit_cases req with ⟨next, e, heq⟩ | ⟨-, -, heq⟩
  · rw [heq]
    exact ⟨(refl s).live, (refl s).granted, (refl s).owner, (refl s).listed⟩
  · rw [heq]
    refine ⟨(refl s).live, fun id rec hfind hg => ?_, fun gid gs rec _ hfind hexec => ?_,
      (refl s).listed⟩
    · -- the new record is DECLARED, and no record that was there is touched
      rcases FinMap.find?_emplace_cases hfind with hfind | ⟨-, -, rfl⟩
      · exact ⟨rec, hfind, rfl, .inl hg⟩
      · cases hg
    · exact ⟨rec, FinMap.find?_emplace_of_some hfind _ _, rfl, hexec⟩

theorem ExecutionStep.reset (s : Scheduler D) :
    ExecutionStep [] s s.resetDynamicStateForRecovery where
  live gid gs hl := by cases hl.1
  granted id rec hfind hg := by
    have hmap : s.resetDynamicStateForRecovery.records.find? id =
        (s.records.find? id).map (fun rec => rec.recover) := FinMap.find?_mapVals _ _ _
    rw [hmap] at hfind
    obtain ⟨rec₀, -, rfl⟩ := Option.map_eq_some_iff.mp hfind
    have hnot : rec₀.recover.lifecycle ≠ .granted := by
      simp only [Record.recover, transitionOrForce_eq]
      cases rec₀.lifecycle <;> decide
    exact absurd hg hnot
  owner gid gs rec hl := by cases hl.1
  listed gid gs p hl := by cases hl.1

/-! ## The handoff -/

/-- An atomic handoff launches the request of its grant, or ends its turn. -/
theorem handoff_execution (hissuance : s.Issuance issued) {g : CollectiveGrant} (hg : g ∈ issued)
    (accepted : Bool) :
    ExecutionStep [] s (s.handoff g accepted).1 ∨
      ∃ rec rec' gs, Launch g rec rec' gs s (s.handoff g accepted).1 := by
  rcases s.handoff_cases g accepted with ⟨heq, -⟩ | ⟨rec, hfind, -, hgranted, hgen, hcase⟩
  · rw [heq]
    exact .inl (ExecutionStep.refl s)
  · obtain ⟨hcur, -⟩ := hissuance.current_of_holder hg hfind hgen (by rw [hgranted]; rfl)
    have hnot : (handedOff rec accepted).lifecycle ≠ .granted := by
      cases accepted <;> exact fun hgranted => (by cases hgranted)
    have hother : ∀ {gid}, gid ≠ g.id → ∀ g', rec.currentGrant = some g' → g'.id ≠ gid := by
      intro gid hne g' hcur' hgid
      rw [hcur] at hcur'
      cases hcur'
      exact hne hgid.symm
    rcases hcase with ⟨hnone, heq, -⟩ | ⟨gs, hentry, -, heq⟩
    · rw [heq]
      refine .inl (ExecutionStep.retire hissuance hfind rfl hnot
        (fun gid gs hl => ⟨hl, hother ?_⟩) (fun _ _ _ _ hlists => hlists))
      rintro rfl
      rw [Live, hnone] at hl
      cases hl.1
    · cases accepted with
      | false =>
          rw [heq]
          have hothers : ∀ gid gs', (s.grants.insert g.id
                { gs with handedOff := true, grant := g, active := false }).find? gid = some gs' ∧
                gs'.isLive = true →
              s.Live gid gs' ∧ gid ≠ g.id := fun gid gs' hl => live_of_insert rfl hl
          exact .inl (ExecutionStep.retire hissuance hfind rfl hnot
            (fun gid gs' hl => ⟨(hothers gid gs' hl).1, hother (hothers gid gs' hl).2⟩)
            (fun _ _ _ _ hlists => hlists))
      | true =>
          rw [heq]
          exact .inr ⟨rec, handedOff rec true, _, hfind, hgranted, rfl, ⟨hcur, .inl rfl⟩, rfl,
            rfl, rfl, rfl⟩

section Launch

variable {g : CollectiveGrant} {rec rec' : Record D} {gs : GrantState}

/-- An executing entry is the new one, or an old one under another id. -/
theorem Launch.live (h : Launch g rec rec' gs s s') {gid : CollectiveGrantId} {gs' : GrantState}
    (hl : s'.Live gid gs') : gid = g.id ∧ gs'.grant = g ∨ gid ≠ g.id ∧ s.Live gid gs' := by
  obtain ⟨hentry, hl⟩ := hl
  rw [h.grants, FinMap.find?_insert] at hentry
  split_ifs at hentry with hid
  · cases hentry
    exact .inl ⟨hid, h.entry⟩
  · exact .inr ⟨hid, hentry, hl⟩

/-- A grant that executes beside the launched one belongs to another request. -/
theorem Launch.other (h : Launch g rec rec' gs s s') {gs' : GrantState} {r : Record D}
    (hfind : s.records.find? gs'.grant.request = some r) (hexec : r.Executes gs'.grant) :
    gs'.grant.request ≠ g.request := by
  intro hreq
  rw [hreq, h.found] at hfind
  cases hfind
  exact hexec.not_granted h.granted

end Launch

/-! ## The scheduling round -/

/-- What a number of grant creations for selected READY records does. -/
structure GrantsAdded (selected : List CollectiveRequestId) (s t : Scheduler D) : Prop where
  origin : ∀ id rec', t.records.find? id = some rec' → ∃ rec, s.records.find? id = some rec ∧
    rec'.request = rec.request ∧
    (rec'.lifecycle = rec.lifecycle ∨ id ∈ selected ∧ rec'.lifecycle = .granted)
  kept : ∀ id rec, s.records.find? id = some rec → rec.lifecycle ≠ .ready →
    t.records.find? id = some rec
  live : ∀ gid gs, t.Live gid gs → s.Live gid gs
  index : t.activeByParticipant = s.activeByParticipant

theorem GrantsAdded.createGrant {selected : List CollectiveRequestId} {t : Scheduler D}
    (h : GrantsAdded selected s t) {id : CollectiveRequestId} {rec : Record D}
    (dec : ScheduleDecision D) (hmem : id ∈ selected) (hfind : t.records.find? id = some rec)
    (hready : rec.lifecycle = .ready) :
    GrantsAdded selected s (t.createGrant id (promoted rec) dec).1 where
  origin id' rec' hfind' := by
    simp only [Scheduler.createGrant, FinMap.find?_insert] at hfind'
    split_ifs at hfind' with hid
    · cases hfind'
      obtain ⟨rec₀, hfind₀, hreq, -⟩ := h.origin id rec hfind
      rw [hid]
      exact ⟨rec₀, hfind₀, hreq, .inr ⟨hmem, rfl⟩⟩
    · exact h.origin id' rec' hfind'
  kept id' rec₀ hfind₀ hnot := by
    have hkept := h.kept id' rec₀ hfind₀ hnot
    have hne : id' ≠ id := by
      rintro rfl
      rw [hfind] at hkept
      cases hkept
      exact hnot hready
    rw [find?_createGrant_of_ne t _ _ hne]
    exact hkept
  live gid gs hl := h.live gid gs (live_createGrant.mp hl)
  index := h.index

section Round

variable [Double D] {recordOrder : List CollectiveRequestId}

/-- The grants of a round are added one by one, without touching what executes. -/
theorem grantsAdded_round (horderly : s.Orderly) (recordOrder : List CollectiveRequestId) :
    GrantsAdded (s.selection recordOrder) s.refreshed
      (createGrants s.openDecision s.refreshed (s.selection recordOrder)).1 :=
  createGrants_induct (P := fun t _ => GrantsAdded (s.selection recordOrder) s.refreshed t)
    s.openDecision (s.selection recordOrder) s.refreshed []
    (fun _ _ _ _ hmem _ hfind hready ht => ht.createGrant _ hmem hfind hready)
    (nodup_selection horderly.keyed recordOrder)
    (selection_all_ready horderly.keyed horderly.settled recordOrder)
    ⟨fun _ rec hfind => ⟨rec, hfind, rfl, .inl rfl⟩, fun _ _ hfind _ => hfind,
      fun _ _ hl => hl, rfl⟩

/-- A record that is granted after a round was granted before it, or was selected. -/
theorem granted_source (horderly : s.Orderly) {id : CollectiveRequestId} {rec' : Record D}
    (hfind' : (createGrants s.openDecision s.refreshed
      (s.selection recordOrder)).1.records.find? id = some rec')
    (hgranted : rec'.lifecycle = .granted) :
    ∃ rec, s.records.find? id = some rec ∧ rec'.request = rec.request ∧
      (rec.lifecycle = .granted ∨ id ∈ s.selection recordOrder ∧ s.eligible rec = true) := by
  obtain ⟨rec₁, hfind₁, hreq₁, hcase⟩ := (grantsAdded_round horderly recordOrder).origin _ _ hfind'
  obtain ⟨rec, hfind, hrec⟩ := (refreshed_rewritten s).records.find?_new hfind₁
  refine ⟨rec, hfind, hreq₁.trans hrec.request, ?_⟩
  rcases hcase with hlife | ⟨hmem, -⟩
  · exact .inl ((keepsOwners_of_refreshes hrec.lifecycle).granted (hlife.symm.trans hgranted))
  · obtain ⟨r, hr, helig, -⟩ := selection_ready horderly.keyed horderly.settled hmem
    rw [hfind] at hr
    cases hr
    exact .inr ⟨hmem, helig⟩

/-- A round grants what it selects and leaves what executes alone. -/
theorem ExecutionStep.scheduleRound (horderly : s.Orderly) {grantOrder : List CollectiveGrantId}
    {dec : ScheduleDecision D} {created : List CollectiveGrant}
    (hround : s.scheduleRound recordOrder grantOrder = (s', .ok (dec, created))) :
    ExecutionStep (s.selection recordOrder) s s' := by
  have hrefreshed := refreshed_rewritten s
  have hadded := grantsAdded_round horderly recordOrder
  rw [(scheduleRound_ok hround).state]
  refine trans ?_ (rewritten keepsOwners_of_eq (closeRound_rewritten _ _ _))
  constructor
  case live =>
    intro gid gs hl
    exact (rewritten keepsOwners_of_refreshes hrefreshed).live gid gs (hadded.live gid gs hl)
  case granted =>
    intro id rec' hfind' hg
    obtain ⟨rec, hfind, hreq, hcase⟩ := granted_source horderly hfind' hg
    exact ⟨rec, hfind, hreq, hcase.imp_right And.left⟩
  case owner =>
    intro gid gs rec hl hfind hexec
    obtain ⟨rec', hfind', hreq, hexec'⟩ := (rewritten keepsOwners_of_refreshes hrefreshed).owner
      gid gs rec (hadded.live gid gs hl) hfind hexec
    exact ⟨rec', hadded.kept _ rec' hfind' hexec'.not_ready, hreq, hexec'⟩
  case listed =>
    intro gid gs p _ hlists
    rw [hadded.index, hrefreshed.activeByParticipant]
    exact hlists

end Round

/-! ## Owners -/

theorem Owned.fresh (policy : PolicyConfig D) (epoch : CoordinatorEpoch) :
    Owned (Scheduler.fresh policy epoch) where
  owner gid gs h := by cases h.1
  indexed gid gs h := by cases h.1

theorem Owned.step (h : s.Owned) (hstep : ExecutionStep admitted s s') : s'.Owned where
  owner gid gs hl := by
    obtain ⟨rec, hfind, hexec⟩ := h.owner gid gs (hstep.live gid gs hl)
    obtain ⟨rec', hfind', -, hexec'⟩ := hstep.owner gid gs rec hl hfind hexec
    exact ⟨rec', hfind', hexec'⟩
  indexed gid gs hl p hp :=
    hstep.listed gid gs p hl (h.indexed gid gs (hstep.live gid gs hl) p hp)

theorem Owned.launch (h : s.Owned) {g : CollectiveGrant} {rec rec' : Record D} {gs : GrantState}
    (hlaunch : Launch g rec rec' gs s s') : s'.Owned where
  owner gid gs' hl := by
    rw [hlaunch.records]
    rcases hlaunch.live hl with ⟨-, hgrant⟩ | ⟨hne, hl₀⟩
    · rw [hgrant]
      exact ⟨rec', FinMap.find?_insert_self _ _ _, hlaunch.executes⟩
    · obtain ⟨r, hfind, hexec⟩ := h.owner gid gs' hl₀
      refine ⟨r, ?_, hexec⟩
      rw [FinMap.find?_insert_of_ne _ _ (hlaunch.other hfind hexec)]
      exact hfind
  indexed gid gs' hl p hp := by
    rw [hlaunch.index]
    refine ActiveIndex.lists_indexActiveGrant.mpr ?_
    rcases hlaunch.live hl with ⟨hid, hgrant⟩ | ⟨-, hl₀⟩
    · rw [hgrant] at hp
      exact .inr ⟨hp, hid⟩
    · exact .inl (h.indexed gid gs' hl₀ p hp)

/-- A request has at most one executing grant. -/
theorem Owned.unique (h : s.Owned) (hissuance : s.Issuance issued)
    {gid gid' : CollectiveGrantId} {gs gs' : GrantState} (hl : s.Live gid gs)
    (hl' : s.Live gid' gs') (hreq : gs.grant.request = gs'.grant.request) : gid = gid' := by
  obtain ⟨rec, hfind, hexec⟩ := h.owner gid gs hl
  obtain ⟨rec', hfind', hexec'⟩ := h.owner gid' gs' hl'
  rw [hreq, hfind'] at hfind
  cases hfind
  have hgrant : gs'.grant = gs.grant := Option.some.inj (hexec'.1.symm.trans hexec.1)
  rw [← (hissuance.entries gid gs hl.1).1, ← (hissuance.entries gid' gs' hl'.1).1, hgrant]

/-! ## Engaged requests -/

/-- Some grant of the request executes. -/
def Occupied (s : Scheduler D) (id : CollectiveRequestId) : Prop :=
  ∃ gid gs, s.Live gid gs ∧ gs.grant.request = id

theorem occupied_iff {id : CollectiveRequestId} :
    s.Occupied id ↔
      s.grants.entries.any (fun e => e.2.isLive && e.2.grant.request = id) = true := by
  simp only [Occupied, Live, List.any_eq_true, Bool.and_eq_true, decide_eq_true_eq, Prod.exists,
    FinMap.mem_entries_iff, and_assoc]

instance (s : Scheduler D) (id : CollectiveRequestId) : Decidable (s.Occupied id) :=
  decidable_of_iff _ occupied_iff.symm

/-- The request under `id` has been granted and its turn is not over. -/
structure Engaged (s : Scheduler D) (id : CollectiveRequestId) (rec : Record D) : Prop where
  found : s.records.find? id = some rec
  turn : rec.lifecycle = .granted ∨ s.Occupied id

/-- Any two engaged requests are related by `R`. -/
def Apart (R : CollectiveRequest D → CollectiveRequest D → Prop) (s : Scheduler D) : Prop :=
  ∀ id id' rec rec', s.Engaged id rec → s.Engaged id' rec' → id ≠ id' →
    R rec.request rec'.request

theorem Apart.fresh (R : CollectiveRequest D → CollectiveRequest D → Prop)
    (policy : PolicyConfig D) (epoch : CoordinatorEpoch) :
    (Scheduler.fresh policy epoch).Apart R :=
  fun _ _ _ _ h => by cases h.found

theorem ExecutionStep.engaged (h : ExecutionStep admitted s s') (howned : s.Owned)
    {id : CollectiveRequestId} {rec' : Record D} (hengaged : s'.Engaged id rec') :
    ∃ rec, s.records.find? id = some rec ∧ rec'.request = rec.request ∧
      (s.Engaged id rec ∨ id ∈ admitted) := by
  rcases hengaged.turn with hg | ⟨gid, gs, hl, rfl⟩
  · obtain ⟨rec, hfind, hreq, hcase⟩ := h.granted id rec' hengaged.found hg
    exact ⟨rec, hfind, hreq, hcase.imp_left fun hg => ⟨hfind, .inl hg⟩⟩
  · have hl₀ := h.live gid gs hl
    obtain ⟨rec, hfind, hexec⟩ := howned.owner gid gs hl₀
    obtain ⟨r, hr, hreq, -⟩ := h.owner gid gs rec hl hfind hexec
    have hsame := Option.some.inj (hengaged.found.symm.trans hr)
    rw [hsame]
    exact ⟨rec, hfind, hreq, .inl ⟨hfind, .inr ⟨gid, gs, hl₀, rfl⟩⟩⟩

theorem Launch.engaged {g : CollectiveGrant} {rec₀ rec₁ : Record D} {gs : GrantState}
    (h : Launch g rec₀ rec₁ gs s s') {id : CollectiveRequestId} {rec' : Record D}
    (hengaged : s'.Engaged id rec') :
    ∃ rec, s.Engaged id rec ∧ rec'.request = rec.request := by
  have hfind' := hengaged.found
  rw [h.records, FinMap.find?_insert] at hfind'
  split_ifs at hfind' with hid
  · cases hfind'
    rw [hid]
    exact ⟨rec₀, ⟨h.found, .inl h.granted⟩, h.request⟩
  · refine ⟨rec', ⟨hfind', ?_⟩, rfl⟩
    rcases hengaged.turn with hg | ⟨gid, gs', hl, hreq⟩
    · exact .inl hg
    · rcases h.live hl with ⟨-, hgrant⟩ | ⟨-, hl₀⟩
      · rw [hgrant] at hreq
        exact absurd hreq.symm hid
      · exact .inr ⟨gid, gs', hl₀, hreq⟩

end Scheduler

/-! ## Whole runs -/

/-- The requests the call grants. -/
def Op.admits [Double D] (y : System D) : Op D → List CollectiveRequestId
  | .schedule recordOrder _ => y.sched.selection recordOrder
  | _ => []

namespace System

variable [Double D] {y : System D} {op : Op D}

/-- What an atomic call with an issued grant does to what is engaged. -/
theorem next_execution (hsound : y.Sound) (hatomic : op.isAtomic = true)
    (hissued : op.UsesIssued y) :
    Scheduler.ExecutionStep (op.admits y) y.sched (y.next op).sched ∨
      ∃ g rec rec' gs, Scheduler.Launch g rec rec' gs y.sched (y.next op).sched := by
  have hissuance := hsound.issuance
  by_cases hquiet : op.isQuiet = true
  · obtain ⟨s, hnext, hrewritten⟩ := y.next_quiet hquiet
    have hadmits : op.admits y = [] := by
      cases op <;> first | rfl | cases hquiet
    rw [hnext, hadmits]
    exact .inl (.rewritten Scheduler.keepsOwners_of_eq hrewritten)
  cases op with
  | publishParticipant p =>
      exact .inl (.rewritten Scheduler.keepsOwners_of_revokes
        (y.sched.publishParticipant_rewritten p))
  | submit req => exact .inl (.submit y.sched req)
  | supersede req => exact .inl (.supersede hissuance req)
  | cancel id => exact .inl (.cancel hissuance id)
  | schedule recordOrder grantOrder =>
      obtain ⟨s, dec, created, hround⟩ :=
        Scheduler.scheduleRound_isOk hsound.orderly.settled recordOrder grantOrder
      rw [sched_next_schedule, hround]
      exact .inl (.scheduleRound hsound.orderly hround)
  | handoff g accepted =>
      rcases Scheduler.handoff_execution hissuance (hissued g rfl) accepted with
        hstep | ⟨rec, rec', gs, hlaunch⟩
      · exact .inl hstep
      · exact .inr ⟨g, rec, rec', gs, hlaunch⟩
  | handoffBegin g => cases hatomic
  | handoffEnd g accepted => cases hatomic
  | complete g wb sb => exact .inl (.complete hissuance (hissued g rfl) wb sb)
  | fenceWorkerBoot worker boot recordOrder =>
      exact .inl (.fenceWorkerBoot hissuance worker boot recordOrder)
  | resetDynamicStateForRecovery => exact .inl (.reset y.sched)
  | _ => exact absurd rfl hquiet

theorem next_owned (hsound : y.Sound) (h : y.sched.Owned) (hatomic : op.isAtomic = true)
    (hissued : op.UsesIssued y) : (y.next op).sched.Owned := by
  rcases next_execution hsound hatomic hissued with hstep | ⟨g, rec, rec', gs, hlaunch⟩
  · exact h.step hstep
  · exact h.launch hlaunch

/-- Engaged requests stay apart when the ones a round grants are apart from each other
and from those engaged before. -/
theorem next_apart {R : CollectiveRequest D → CollectiveRequest D → Prop}
    (hsymm : ∀ a b, R a b → R b a) (hsound : y.Sound) (howned : y.sched.Owned)
    (h : y.sched.Apart R) (hatomic : op.isAtomic = true) (hissued : op.UsesIssued y)
    (hadmits : ∀ id rec id' rec', id ∈ op.admits y → y.sched.records.find? id = some rec →
      y.sched.records.find? id' = some rec' → id ≠ id' →
      y.sched.Engaged id' rec' ∨ id' ∈ op.admits y → R rec.request rec'.request) :
    (y.next op).sched.Apart R := by
  intro id id' rec rec' hengaged hengaged' hne
  rcases next_execution hsound hatomic hissued with hstep | ⟨g, r, r', gs, hlaunch⟩
  · obtain ⟨r, hfind, hreq, hcase⟩ := hstep.engaged howned hengaged
    obtain ⟨r', hfind', hreq', hcase'⟩ := hstep.engaged howned hengaged'
    rw [hreq, hreq']
    rcases hcase with hold | hnew
    · rcases hcase' with hold' | hnew'
      · exact h id id' r r' hold hold' hne
      · exact hsymm _ _ (hadmits id' r' id r hnew' hfind' hfind hne.symm (.inl hold))
    · exact hadmits id r id' r' hnew hfind hfind' hne hcase'
  · obtain ⟨r, hold, hreq⟩ := hlaunch.engaged hengaged
    obtain ⟨r', hold', hreq'⟩ := hlaunch.engaged hengaged'
    rw [hreq, hreq']
    exact h id id' r r' hold hold' hne

end System

end CollectiveScheduler
