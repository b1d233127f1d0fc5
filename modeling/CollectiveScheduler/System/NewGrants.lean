/-
  System/NewGrants.lean --- the grants one round creates.

  The creation loop visits the selected requests in order and takes one id from the
  counter for each.  Grants and requests run parallel, every record holds its grant
  afterwards, and a grant whose id had no entry finds itself under it.  The grants may
  then be handed off in any order: a handoff moves the record of its own grant only.
-/
import CollectiveScheduler.System.EvidenceStep
import CollectiveScheduler.System.Issuance
import CollectiveScheduler.System.Untouched

set_option autoImplicit false

namespace CollectiveScheduler

open Foundation

variable {D : Type}

namespace Scheduler

/-! ## The creation loop -/

section Loop

variable {s : Scheduler D} {dec : ScheduleDecision D} {id : CollectiveRequestId}
  {ids : List CollectiveRequestId} {rec : Record D}

theorem createGrants_cons (hfind : s.records.find? id = some rec)
    (hready : rec.lifecycle = .ready) :
    createGrants dec s (id :: ids) =
      ((createGrants dec (s.createGrant id (promoted rec) dec).1 ids).1,
        s.grantFor rec.request dec ::
          (createGrants dec (s.createGrant id (promoted rec) dec).1 ids).2) := by
  rw [createGrants]
  simp only [hfind, promoteToGranted_ready hready]
  rfl

/-- The loop takes the ids from the counter one after the other, and the largest one
from then on. -/
theorem toNat_ids_createGrants (hnodup : ids.Nodup)
    (hready : ∀ id ∈ ids, ∃ rec, s.records.find? id = some rec ∧ rec.lifecycle = .ready) :
    (createGrants dec s ids).2.map (fun g => g.id.value.toNat) =
      (List.range ids.length).map (fun k => min (s.nextGrantId.value.toNat + k) maxValue) := by
  induction ids generalizing s with
  | nil => rfl
  | cons id rest ih =>
      obtain ⟨hnot, hrest⟩ := List.nodup_cons.mp hnodup
      obtain ⟨rec, hfind, hlife⟩ := hready id List.mem_cons_self
      have htail := ih hrest (createGrant_ready (promoted rec) dec hnot hready)
      have hcounter : (s.createGrant id (promoted rec) dec).1.nextGrantId.value.toNat =
          min (s.nextGrantId.value.toNat + 1) maxValue := Id.toNat_next s.nextGrantId
      rw [createGrants_cons hfind hlife, List.map_cons, htail, hcounter, List.length_cons,
        List.range_succ_eq_map, List.map_cons, List.map_map]
      have hbound := Id.toNat_le_maxValue s.nextGrantId
      have hhead : (s.grantFor rec.request dec).id.value.toNat =
          min (s.nextGrantId.value.toNat + 0) maxValue := (Nat.min_eq_left hbound).symm
      rw [hhead]
      refine congrArg _ (List.map_congr_left fun k _ => ?_)
      simp only [Function.comp_apply]
      omega

/-- The grants run parallel to the requests they are created for. -/
theorem requests_createGrants (hkeyed : s.Keyed) (hnodup : ids.Nodup)
    (hready : ∀ id ∈ ids, ∃ rec, s.records.find? id = some rec ∧ rec.lifecycle = .ready) :
    (createGrants dec s ids).2.map CollectiveGrant.request = ids := by
  induction ids generalizing s with
  | nil => rfl
  | cons id rest ih =>
      obtain ⟨hnot, hrest⟩ := List.nodup_cons.mp hnodup
      obtain ⟨rec, hfind, hlife⟩ := hready id List.mem_cons_self
      have hid := hkeyed id rec hfind
      have hkeyed' : (s.createGrant id (promoted rec) dec).1.Keyed := hkeyed.createGrant dec hid
      have htail := ih hkeyed' hrest (createGrant_ready (promoted rec) dec hnot hready)
      rw [createGrants_cons hfind hlife, List.map_cons, htail]
      exact congrArg (· :: rest) hid

/-- Each grant is filled in from the record of its request, which holds it after the
loop. -/
theorem held_createGrants (hkeyed : s.Keyed) (hnodup : ids.Nodup)
    (hready : ∀ id ∈ ids, ∃ rec, s.records.find? id = some rec ∧ rec.lifecycle = .ready) :
    ∀ g ∈ (createGrants dec s ids).2, ∃ rec t, s.records.find? g.request = some rec ∧
      g = grantFor t rec.request dec ∧
      (createGrants dec s ids).1.records.find? g.request =
        some { promoted rec with currentGrant := some g } := by
  induction ids generalizing s with
  | nil =>
      intro g hg
      cases hg
  | cons id rest ih =>
      obtain ⟨hnot, hrest⟩ := List.nodup_cons.mp hnodup
      obtain ⟨rec, hfind, hlife⟩ := hready id List.mem_cons_self
      have hid := hkeyed id rec hfind
      have hkeyed' : (s.createGrant id (promoted rec) dec).1.Keyed := hkeyed.createGrant dec hid
      have hready' := createGrant_ready (promoted rec) dec hnot hready
      rw [createGrants_cons hfind hlife]
      intro g hg
      rcases List.mem_cons.mp hg with rfl | hg
      · -- the rest of the loop does not come back to the request
        change ∃ rec' t, s.records.find? rec.request.id = some rec' ∧ _ ∧
          (createGrants dec _ rest).1.records.find? rec.request.id = _
        rw [hid, find?_createGrants_of_notMem dec hnot]
        exact ⟨rec, s, hfind, rfl, FinMap.find?_insert_self _ _ _⟩
      · obtain ⟨rec', t, hfind', hgrant, hheld⟩ := ih hkeyed' hrest hready' g hg
        have hmem : g.request ∈ rest := by
          rw [← requests_createGrants hkeyed' hrest hready']
          exact List.mem_map_of_mem hg
        have hne : g.request ≠ id := fun heq => hnot (heq ▸ hmem)
        rw [find?_createGrant_of_ne s _ _ hne] at hfind'
        exact ⟨rec', t, hfind', hgrant, hheld⟩

/-- The loop keeps the entries there are. -/
theorem find?_grants_createGrants (dec : ScheduleDecision D) (ids : List CollectiveRequestId)
    {s : Scheduler D} {gid : CollectiveGrantId} {gs : GrantState}
    (h : s.grants.find? gid = some gs) :
    (createGrants dec s ids).1.grants.find? gid = some gs :=
  createGrants_keeps (P := fun t => t.grants.find? gid = some gs) dec ids
    (fun _ _ _ _ _ _ _ ht => FinMap.find?_emplace_of_some ht _ _) h

/-- Grants with distinct ids that had no entry are stored under them. -/
theorem stored_createGrants (hnodup : ids.Nodup)
    (hready : ∀ id ∈ ids, ∃ rec, s.records.find? id = some rec ∧ rec.lifecycle = .ready)
    (hdistinct : ((createGrants dec s ids).2.map CollectiveGrant.id).Nodup)
    (hfresh : ∀ g ∈ (createGrants dec s ids).2, s.grants.find? g.id = none) :
    ∀ g ∈ (createGrants dec s ids).2,
      (createGrants dec s ids).1.grants.find? g.id = some { grant := g } := by
  induction ids generalizing s with
  | nil =>
      intro g hg
      cases hg
  | cons id rest ih =>
      obtain ⟨hnot, hrest⟩ := List.nodup_cons.mp hnodup
      obtain ⟨rec, hfind, hlife⟩ := hready id List.mem_cons_self
      rw [createGrants_cons hfind hlife] at hdistinct hfresh ⊢
      rw [List.map_cons, List.nodup_cons] at hdistinct
      obtain ⟨hnew, hothers⟩ := List.forall_mem_cons.mp hfresh
      intro g hg
      rcases List.mem_cons.mp hg with rfl | hg
      · exact find?_grants_createGrants _ _ (FinMap.find?_emplace_of_none hnew _)
      · refine ih hrest (createGrant_ready (promoted rec) dec hnot hready) hdistinct.2
          (fun g' hg' => ?_) g hg
        have hne : g'.id ≠ (s.grantFor rec.request dec).id := fun heq =>
          hdistinct.1 (heq ▸ List.mem_map_of_mem hg')
        exact (FinMap.find?_emplace_of_ne _ _ hne).trans (hothers g' hg')

theorem createGrants_epoch (ids : List CollectiveRequestId) (s : Scheduler D) :
    (createGrants dec s ids).1.epoch = s.epoch :=
  createGrants_keeps (P := fun t => t.epoch = s.epoch) dec ids (fun _ _ _ _ _ _ _ ht => ht) rfl

end Loop

/-! ## The round -/

section Round

variable [Double D] {s s' : Scheduler D} {recordOrder : List CollectiveRequestId}
  {grantOrder : List CollectiveGrantId} {dec : ScheduleDecision D}
  {created : List CollectiveGrant}

theorem scheduleRound_grants
    (h : s.scheduleRound recordOrder grantOrder = (s', .ok (dec, created))) :
    dec.grants = created.map CollectiveGrant.id := by
  unfold scheduleRound at h
  simp only at h
  split at h
  · cases h
  · cases h
    rfl

theorem scheduleRound_epoch
    (h : s.scheduleRound recordOrder grantOrder = (s', .ok (dec, created))) :
    s'.epoch = s.epoch := by
  rw [(scheduleRound_ok h).state, (closeRound_frame _ _ _).2.2.1, createGrants_epoch]
  rfl

/-- The ids of a round, counted from where the counter stood. -/
theorem toNat_ids_scheduleRound (horderly : s.Orderly)
    (h : s.scheduleRound recordOrder grantOrder = (s', .ok (dec, created))) :
    created.map (fun g => g.id.value.toNat) = (List.range dec.selected.length).map
      (fun k => min (s.nextGrantId.value.toNat + k) maxValue) := by
  have hresult := scheduleRound_ok h
  rw [hresult.created, hresult.selected, toNat_ids_createGrants
    (nodup_selection horderly.keyed recordOrder)
    (selection_all_ready horderly.keyed horderly.settled recordOrder),
    (refreshed_rewritten s).nextGrantId]

/-- The grants of a round run parallel to the requests it selects. -/
theorem requests_scheduleRound (horderly : s.Orderly)
    (h : s.scheduleRound recordOrder grantOrder = (s', .ok (dec, created))) :
    created.map CollectiveGrant.request = dec.selected := by
  have hresult := scheduleRound_ok h
  rw [hresult.created, hresult.selected]
  exact requests_createGrants (horderly.keyed.rewritten (refreshed_rewritten s).records)
    (nodup_selection horderly.keyed recordOrder)
    (selection_all_ready horderly.keyed horderly.settled recordOrder)

/-- Each grant is filled in from a record that was eligible before the round, and that
is GRANTED with it afterwards. -/
theorem held_scheduleRound (horderly : s.Orderly)
    (h : s.scheduleRound recordOrder grantOrder = (s', .ok (dec, created))) :
    ∀ g ∈ created, ∃ rec t rec', s.records.find? g.request = some rec ∧
      s.eligible rec = true ∧ g = grantFor t rec.request s.openDecision ∧
      s'.records.find? g.request = some rec' ∧ rec'.request = rec.request ∧
      rec'.lifecycle = .granted ∧ rec'.currentGrant = some g := by
  intro g hg
  have hresult := scheduleRound_ok h
  have hselected : g.request ∈ s.selection recordOrder := by
    rw [← hresult.selected, ← requests_scheduleRound horderly h]
    exact List.mem_map_of_mem hg
  obtain ⟨rec, hfind, heligible, hrefreshed, -⟩ :=
    selection_ready horderly.keyed horderly.settled hselected
  rw [hresult.created] at hg
  obtain ⟨r, t, hr, hgrant, hheld⟩ := held_createGrants
    (horderly.keyed.rewritten (refreshed_rewritten s).records)
    (nodup_selection horderly.keyed recordOrder)
    (selection_all_ready horderly.keyed horderly.settled recordOrder) g hg
  rw [hr, Option.some.injEq] at hrefreshed
  have hrequest : r.request = rec.request := by
    rw [hrefreshed, (refreshRecord_frame s rec).1]
  -- the passes after the loop rewrite bookkeeping only
  have hclosed := closeRound_rewritten (createGrants s.openDecision s.refreshed
    (s.selection recordOrder)).1 (s.candidates recordOrder) (s.selection recordOrder)
  rw [← hresult.state] at hclosed
  obtain ⟨rec', hfind', hkept⟩ := hclosed.records.find? hheld
  exact ⟨rec, t, rec', hfind, heligible, hrequest ▸ hgrant, hfind',
    hkept.request.trans hrequest, hkept.lifecycle.symm, hkept.currentGrant⟩

/-- Grants with distinct ids that had no entry are stored under them. -/
theorem stored_scheduleRound (horderly : s.Orderly)
    (h : s.scheduleRound recordOrder grantOrder = (s', .ok (dec, created)))
    (hdistinct : (created.map CollectiveGrant.id).Nodup)
    (hfresh : ∀ g ∈ created, s.grants.find? g.id = none) :
    ∀ g ∈ created, s'.grants.find? g.id = some { grant := g } := by
  have hresult := scheduleRound_ok h
  rw [hresult.created] at hdistinct hfresh ⊢
  rw [hresult.state, (closeRound_rewritten _ _ _).grants]
  refine stored_createGrants (nodup_selection horderly.keyed recordOrder)
    (selection_all_ready horderly.keyed horderly.settled recordOrder) hdistinct fun g hg => ?_
  rw [(refreshed_rewritten s).grants]
  exact hfresh g hg

end Round

/-! ## Handing off -/

section HandingOff

variable {s s' : Scheduler D} {g g' : CollectiveGrant} {gs : List CollectiveGrant}

/-- Revalidation reads the evidence and the epoch besides the record. -/
theorem Revalidates.congr {rec : Record D} (h : s.Revalidates g rec)
    (hevidence : s'.evidence = s.evidence) (hepoch : s'.epoch = s.epoch) :
    s'.Revalidates g rec := by
  have hreads : s = { s with
      participants := s'.evidence.participants
      plans := s'.evidence.plans
      deps := s'.evidence.deps
      reservationGen := s'.evidence.reservationGen
      congestion := s'.evidence.congestion
      epoch := s'.epoch } := by
    rw [hevidence, hepoch]
    rfl
  rw [hreads] at h
  exact ⟨h.requestGen, h.collectiveGen, h.epoch, h.lifecycle, h.plan, h.participants,
    h.dependencies, h.reservation, h.congestion⟩

theorem handoff_epoch (s : Scheduler D) (g : CollectiveGrant) (accepted : Bool) :
    (s.handoff g accepted).1.epoch = s.epoch := by
  have hbegin : (s.handoffBegin g).1.epoch = s.epoch := by
    rcases s.handoffBegin_cases g with heq | ⟨rec, -, -, -, -, heq⟩
    · rw [heq]
    · rw [heq]
      rfl
  have hend : ∀ (t : Scheduler D) (gc : CollectiveGrant),
      (t.handoffEnd gc accepted).1.epoch = t.epoch := by
    intro t gc
    rcases t.handoffEnd_cases gc accepted with
      ⟨-, heq⟩ | ⟨rec, -, ⟨-, heq⟩ | ⟨gs, -, ⟨-, heq⟩ | ⟨-, heq⟩⟩⟩ <;> rw [heq]
    rfl
  rw [(s.handoff_eq g accepted).1]
  cases (s.handoffBegin g).2 with
  | none => exact hbegin
  | some gc => exact (hend _ gc).trans hbegin

/-- The grant gets past the checks of a handoff and has an entry. -/
structure Deliverable (s : Scheduler D) (g : CollectiveGrant) : Prop where
  dispatches : s.Dispatches g
  stored : (s.grants.find? g.id).isSome = true

/-- A handoff to a fabric that accepts makes the record of the grant ACTIVE and leaves
the other records alone. -/
theorem Deliverable.handoff (h : s.Deliverable g) :
    (s.handoff g true).2.1 = true ∧
      (∃ rec, (s.handoff g true).1.records.find? g.request = some rec ∧
        rec.lifecycle = .active) ∧
      ∀ id, id ≠ g.request →
        (s.handoff g true).1.records.find? id = s.records.find? id := by
  obtain ⟨rec, -, -, hrecords, hanswer, -⟩ := handoff_of_dispatches h.dispatches true
  rw [hanswer, h.stored, hrecords]
  exact ⟨rfl, ⟨handedOff rec true, FinMap.find?_insert_self _ _ _, rfl⟩,
    fun id hne => FinMap.find?_insert_of_ne _ _ hne⟩

/-- The grants of other requests stay deliverable. -/
theorem Deliverable.after (h : s.Deliverable g) (hg' : s.Deliverable g')
    (hne : g.request ≠ g'.request) : (s.handoff g' true).1.Deliverable g := by
  constructor
  case dispatches =>
    obtain ⟨rec, hfind, hgranted, hchecks⟩ := dispatches_iff.mp h.dispatches
    have hevidence : (s.handoff g' true).1.evidence = s.evidence :=
      evidence_of_setting (s.setting_handoff g' true)
    refine dispatches_iff.mpr ⟨rec, ?_, hgranted,
      hchecks.congr hevidence (s.handoff_epoch g' true)⟩
    rw [hg'.handoff.2.2 g.request hne]
    exact hfind
  case stored =>
    rw [(EntriesUpdated.handoff s g' true).isSome_eq]
    exact h.stored

/-- The grants are handed off one after the other to a fabric that accepts; with the
answers. -/
def handoffAll : Scheduler D → List CollectiveGrant → Scheduler D × List Bool
  | s, [] => (s, [])
  | s, g :: rest =>
      let (s', answer, _) := s.handoff g true
      let (s'', answers) := s'.handoffAll rest
      (s'', answer :: answers)

/-- Deliverable grants of different requests are all accepted, and their records are
ACTIVE in the end. -/
theorem handoffAll_deliverable (hgs : ∀ g ∈ gs, s.Deliverable g)
    (hdistinct : (gs.map CollectiveGrant.request).Nodup) :
    (s.handoffAll gs).2 = List.replicate gs.length true ∧
      (∀ g ∈ gs, ∃ rec, (s.handoffAll gs).1.records.find? g.request = some rec ∧
        rec.lifecycle = .active) ∧
      ∀ id, id ∉ gs.map CollectiveGrant.request →
        (s.handoffAll gs).1.records.find? id = s.records.find? id := by
  -- the induction runs over the grants still to be handed off
  induction gs generalizing s with
  | nil => exact ⟨rfl, fun g hg => absurd hg List.not_mem_nil, fun _ _ => rfl⟩
  | cons g rest ih =>
      obtain ⟨hg, hrest⟩ := List.forall_mem_cons.mp hgs
      rw [List.map_cons, List.nodup_cons] at hdistinct
      have hafter : ∀ g' ∈ rest, (s.handoff g true).1.Deliverable g' := fun g' hg' =>
        (hrest g' hg').after hg fun heq => hdistinct.1 (heq ▸ List.mem_map_of_mem hg')
      obtain ⟨hanswers, hactive, hothers⟩ := ih hafter hdistinct.2
      obtain ⟨hanswer, ⟨rec, hfind, hlife⟩, hkept⟩ := hg.handoff
      refine ⟨?_, ?_, ?_⟩
      · change (s.handoff g true).2.1 :: ((s.handoff g true).1.handoffAll rest).2 = _
        rw [hanswer, hanswers]
        rfl
      · intro g' hg'
        rcases List.mem_cons.mp hg' with rfl | hg'
        · exact ⟨rec, (hothers g'.request hdistinct.1).trans hfind, hlife⟩
        · exact hactive g' hg'
      · intro id hid
        rw [List.map_cons, List.mem_cons, not_or] at hid
        exact (hothers id hid.2).trans (hkept id hid.1)

end HandingOff

end Scheduler

end CollectiveScheduler
