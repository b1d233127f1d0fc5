/-
  Scheduler/Alike.lean --- states whose rounds are compared.

  Two states with the same evidence and the same grants differ for a round in their records
  only.  The readiness pass and the selection read neither the priority of a request nor
  records outside the requests they compare, so they go alike on both sides where the
  records agree up to the priority; the ranking is the one pass that reads it.
-/
import CollectiveScheduler.Scheduler.Admission

set_option autoImplicit false

namespace CollectiveScheduler

open Foundation

variable {D : Type}

/-- The record with another priority. -/
def Record.withPriority (rec : Record D) (priority : ExternalPriority) : Record D :=
  { rec with request := { rec.request with priority := priority } }

/-- The records agree up to the priority of the request. -/
def Record.Reprioritised (rec rec' : Record D) : Prop :=
  ∃ priority, rec' = rec.withPriority priority

theorem Record.Reprioritised.refl (rec : Record D) : rec.Reprioritised rec :=
  ⟨rec.request.priority, rfl⟩

namespace Scheduler

/-! ## The same evidence -/

/-- The states differ at most in their records, in the bookkeeping of submissions and in the
counts a round takes anew. -/
def SameEvidence (s s' : Scheduler D) : Prop :=
  s' = { s with
    records := s'.records
    participantRequests := s'.participantRequests
    nextSeq := s'.nextSeq
    nextRequestId := s'.nextRequestId
    queuedCount := s'.queuedCount
    readyCount := s'.readyCount
    eligibleCount := s'.eligibleCount }

variable [Double D] {s s' : Scheduler D}

/-- The readiness pass does not read the priority. -/
theorem SameEvidence.refreshRecord_withPriority (h : s.SameEvidence s') (rec : Record D)
    (priority : ExternalPriority) :
    s'.refreshRecord (rec.withPriority priority) =
      ((s.refreshRecord rec).1.withPriority priority, (s.refreshRecord rec).2) := by
  have hready : s'.computeReadiness (rec.withPriority priority).request =
      s.computeReadiness rec.request := by
    rw [h]
    rfl
  have heligible : ∀ rd, s'.hardEligible rd (rec.withPriority priority).request =
      s.hardEligible rd rec.request := by
    intro rd
    rw [h]
    rfl
  have hplan : s'.plan rec.request.planId = s.plan rec.request.planId := by
    rw [h]
    rfl
  change s'.computeReadiness { rec.request with priority := priority } = _ at hready
  change ∀ rd, s'.hardEligible rd { rec.request with priority := priority } = _ at heligible
  unfold refreshRecord Record.withPriority
  simp only [hready, heligible, hplan]
  split_ifs
  · rfl
  · split
    · rfl
    · split_ifs
      · rfl
      · split <;> rfl
      · rfl

theorem SameEvidence.refreshRecord_eq (h : s.SameEvidence s') (rec : Record D) :
    s'.refreshRecord rec = s.refreshRecord rec := by
  have hkept : (s.refreshRecord rec).1.withPriority rec.request.priority =
      (s.refreshRecord rec).1 := by
    rw [← (refreshRecord_frame s rec).1]
    rfl
  have hpass := h.refreshRecord_withPriority rec rec.request.priority
  rw [hkept] at hpass
  exact hpass

theorem SameEvidence.eligible_withPriority (h : s.SameEvidence s') (rec : Record D)
    (priority : ExternalPriority) :
    s'.eligible (rec.withPriority priority) = s.eligible rec := by
  rw [Bool.eq_iff_iff, ← refreshRecord_outcome, ← refreshRecord_outcome,
    h.refreshRecord_withPriority]

theorem SameEvidence.eligible_eq (h : s.SameEvidence s') (rec : Record D) :
    s'.eligible rec = s.eligible rec :=
  h.eligible_withPriority rec rec.request.priority

theorem SameEvidence.refreshed (h : s.SameEvidence s') : s.refreshed.SameEvidence s'.refreshed := by
  unfold SameEvidence Scheduler.refreshed
  rw [h]
  rfl

theorem SameEvidence.rankedOf_eq (h : s.SameEvidence s') (id : CollectiveRequestId)
    (rec : Record D) : s'.rankedOf id rec = s.rankedOf id rec := by
  unfold rankedOf
  rw [h]
  rfl

/-! ## The selection -/

/-- Within a scope that holds the requests of the executing grants the records agree up to
the priority. -/
structure Alike (scope : CollectiveRequestId → Prop) (s s' : Scheduler D) : Prop where
  evidence : s.SameEvidence s'
  records : ∀ id, scope id →
    Option.Rel Record.Reprioritised (s.records.find? id) (s'.records.find? id)
  holders : ∀ gid gs, s.grants.find? gid = some gs → gs.isLive = true → scope gs.grant.request

variable {scope : CollectiveRequestId → Prop}

omit [Double D] in
theorem Alike.found (h : s.Alike scope s') (id : CollectiveRequestId) (hid : scope id) :
    (s.records.find? id = none ∧ s'.records.find? id = none) ∨
      ∃ rec priority, s.records.find? id = some rec ∧
        s'.records.find? id = some (rec.withPriority priority) := by
  have hrel := h.records id hid
  generalize s.records.find? id = found at hrel ⊢
  generalize s'.records.find? id = found' at hrel ⊢
  cases hrel with
  | none => exact .inl ⟨rfl, rfl⟩
  | @some rec rec' hrec =>
      obtain ⟨priority, rfl⟩ := hrec
      exact .inr ⟨rec, priority, rfl, rfl⟩

/-- The readiness pass gets past the same requests. -/
theorem Alike.refreshRecord_isOk (h : s.Alike scope s') {id : CollectiveRequestId}
    (hid : scope id)
    (hok : ∀ rec, s.records.find? id = some rec → ∃ b, (s.refreshRecord rec).2 = .ok b) :
    ∀ rec', s'.records.find? id = some rec' → ∃ b, (s'.refreshRecord rec').2 = .ok b := by
  intro rec' hfind'
  rcases h.found id hid with ⟨-, hnone⟩ | ⟨rec, priority, hfind, hsome⟩
  · rw [hnone] at hfind'
    cases hfind'
  · rw [hsome] at hfind'
    cases hfind'
    rw [h.evidence.refreshRecord_withPriority]
    exact hok rec hfind

theorem Alike.canOverlap (h : s.Alike scope s') {a a' b b' : Record D}
    (ha : a.Reprioritised a') (hb : b.Reprioritised b') :
    s'.canOverlap a' b' = s.canOverlap a b := by
  obtain ⟨_, rfl⟩ := ha
  obtain ⟨_, rfl⟩ := hb
  unfold Scheduler.canOverlap
  rw [h.evidence]
  rfl

omit [Double D] in
theorem Alike.conflictsWith (h : s.Alike scope s') {rec rec' : Record D}
    (hrec : rec.Reprioritised rec') (gid : CollectiveGrantId) :
    s'.conflictsWith rec' gid = s.conflictsWith rec gid := by
  have hgrants : s'.grants = s.grants := by rw [h.evidence]
  obtain ⟨_, rfl⟩ := hrec
  unfold Scheduler.conflictsWith
  rw [hgrants]
  cases hentry : s.grants.find? gid with
  | none => rfl
  | some gs =>
      simp only
      split_ifs with hidle
      · rfl
      · have hlive := GrantState.isLive_of_not_idle hidle
        rcases h.found _ (h.holders gid gs hentry hlive) with
          ⟨hnone, hnone'⟩ | ⟨holder, priority, hfind, hfind'⟩
        · rw [hnone, hnone']
        · rw [hfind, hfind']
          rfl

omit [Double D] in
theorem Alike.activeConflicts (h : s.Alike scope s') {rec rec' : Record D}
    (hrec : rec.Reprioritised rec') : s'.activeConflicts rec' = s.activeConflicts rec := by
  have hcandidates : s'.conflictCandidates rec'.request.participants =
      s.conflictCandidates rec.request.participants := by
    obtain ⟨_, rfl⟩ := hrec
    unfold conflictCandidates
    rw [h.evidence]
    rfl
  unfold Scheduler.activeConflicts
  rw [hcandidates]
  exact List.countP_congr fun gid _ => by rw [h.conflictsWith hrec gid]

theorem Alike.compatibleWithAll (h : s.Alike scope s') {rec rec' : Record D}
    (hrec : rec.Reprioritised rec') {selected : List CollectiveRequestId}
    (hselected : ∀ id ∈ selected, scope id) :
    s'.compatibleWithAll rec' selected = s.compatibleWithAll rec selected := by
  unfold Scheduler.compatibleWithAll
  rw [Bool.eq_iff_iff, List.all_eq_true, List.all_eq_true]
  refine forall_congr' fun id => forall_congr' fun hid => ?_
  rcases h.found id (hselected id hid) with ⟨hnone, hnone'⟩ | ⟨other, priority, hfind, hfind'⟩
  · rw [hnone, hnone']
  · simp only [hfind, hfind', h.canOverlap hrec ⟨priority, rfl⟩]

/-- The loop judges a request within the scope alike. -/
theorem Alike.verdict (h : s.Alike scope s') {selected : List CollectiveRequestId}
    (hselected : ∀ id ∈ selected, scope id) {id : CollectiveRequestId} (hid : scope id) :
    s'.verdict selected id = s.verdict selected id := by
  have hactive : s'.activeGrants = s.activeGrants := by rw [h.evidence]
  have hpolicy : s'.policy = s.policy := by rw [h.evidence]
  unfold Scheduler.verdict
  rcases h.found id hid with ⟨hnone, hnone'⟩ | ⟨rec, priority, hfind, hfind'⟩
  · rw [hnone, hnone']
  · have hrec : rec.Reprioritised (rec.withPriority priority) := ⟨priority, rfl⟩
    have hmode : (rec.withPriority priority).request.overlap = rec.request.overlap := rfl
    simp only [hfind, hfind', hactive, hpolicy, hmode, h.activeConflicts hrec,
      h.compatibleWithAll hrec hselected]

/-- The loop selects alike from requests within the scope. -/
theorem Alike.greedy (h : s.Alike scope s') {ids : List CollectiveRequestId}
    (hids : ∀ id ∈ ids, scope id) :
    Foundation.greedy s'.verdict ids [] = Foundation.greedy s.verdict ids [] :=
  Greedy.eq_of_agree (fun _ _ hselected hid => h.verdict hselected hid) hids
    (fun _ hmem => absurd hmem List.not_mem_nil)

/-- The readiness pass keeps states alike. -/
theorem Alike.refreshed (h : s.Alike scope s') : s.refreshed.Alike scope s'.refreshed := by
  refine ⟨h.evidence.refreshed, fun id hid => ?_, h.holders⟩
  rw [find?_refreshed, find?_refreshed]
  rcases h.found id hid with ⟨hnone, hnone'⟩ | ⟨rec, priority, hfind, hfind'⟩
  · rw [hnone, hnone']
    exact .none
  · rw [hfind, hfind']
    refine .some ⟨priority, ?_⟩
    simp only [h.evidence.refreshRecord_withPriority]

end Scheduler

end CollectiveScheduler
