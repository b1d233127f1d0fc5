/-
  Scheduler/Overlap.lean --- overlap permission and the index of active grants.

  Source: `can_overlap`, `active_conflicts`, `index_active_grant` and
  `deindex_active_grant` of src/scheduler.cpp.
-/
import CollectiveScheduler.Scheduler.Readiness

set_option autoImplicit false

namespace CollectiveScheduler

open Foundation

namespace ActiveIndex

/-- `index_active_grant`. -/
def indexActiveGrant (idx : ActiveIndex) (g : CollectiveGrant) : ActiveIndex :=
  g.participants.foldl
    (fun idx pid => idx.insert pid (((idx.find? pid).getD .empty).insert g.id ())) idx

/-- The body of the loop of `deindex_active_grant`; an emptied set is removed. -/
def dropGrant (gid : CollectiveGrantId) (idx : ActiveIndex) (pid : ParticipantId) : ActiveIndex :=
  match idx.find? pid with
  | none => idx
  | some ids =>
      let ids := ids.erase gid
      if ids.size = 0 then idx.erase pid else idx.insert pid ids

/-- `deindex_active_grant`. -/
def deindexActiveGrant (idx : ActiveIndex) (g : CollectiveGrant) : ActiveIndex :=
  g.participants.foldl (dropGrant g.id) idx

/-- The index lists a grant under a participant. -/
def Lists (idx : ActiveIndex) (pid : ParticipantId) (gid : CollectiveGrantId) : Prop :=
  ∃ ids, idx.find? pid = some ids ∧ ids.contains gid = true

end ActiveIndex

namespace Scheduler

variable {D : Type} [Double D]

/-- `can_overlap`. -/
def canOverlap (s : Scheduler D) (a b : Record D) : Bool :=
  if a.request.overlap = .unknown ∨ b.request.overlap = .unknown then false
  else if a.request.overlap = .exclusive ∨ b.request.overlap = .exclusive then false
  else if (classifyConflict a.footprint b.footprint).forbidsOverlap then false
  else if a.request.reservationGen.isSome ∧ b.request.reservationGen.isSome ∧
      a.request.reservationGen = b.request.reservationGen then false
  else
    match s.congestion with
    | none => true
    | some c =>
        let bw : D := Double.ofRat 0
        let bw := match s.plan a.request.planId with
          | none => bw
          | some pa => bw + pa.estimatedBandwidth
        let bw := match s.plan b.request.planId with
          | none => bw
          | some pb => bw + pb.estimatedBandwidth
        if Double.lt c.residualBandwidth bw then false
        else if c.hardCeiling && Double.le c.hardCeilingUtilization c.utilization then false
        else true

/-- The ids of the active grants that share a participant with a request. -/
def conflictCandidates (s : Scheduler D) (participants : List ParticipantId) :
    List CollectiveGrantId :=
  sortUnique (participants.flatMap (fun pid =>
    match s.activeByParticipant.find? pid with
    | none => []
    | some ids => ids.keys))

/-- One candidate of the active-conflict scan counts as a conflict. -/
def conflictsWith (s : Scheduler D) (rec : Record D) (gid : CollectiveGrantId) : Bool :=
  match s.grants.find? gid with
  | none => false
  | some gs =>
      if !gs.active || gs.terminal then false
      else
        match s.records.find? gs.grant.request with
        | none => false
        | some other => (classifyConflict rec.footprint other.footprint).forbidsOverlap

/-- `active_conflicts`. -/
def activeConflicts (s : Scheduler D) (rec : Record D) : Nat :=
  (s.conflictCandidates rec.request.participants).countP (s.conflictsWith rec)

end Scheduler

/-! ## What the index holds -/

namespace ActiveIndex

theorem lists_indexActiveGrant {idx : ActiveIndex} {g : CollectiveGrant} {pid : ParticipantId}
    {gid : CollectiveGrantId} :
    Lists (idx.indexActiveGrant g) pid gid ↔
      Lists idx pid gid ∨ (pid ∈ g.participants ∧ gid = g.id) :=
  FinMap.indexes_foldl_insert

theorem lists_dropGrant {idx : ActiveIndex} {g : CollectiveGrantId} {pid pid' : ParticipantId}
    {gid : CollectiveGrantId} :
    Lists (dropGrant g idx pid) pid' gid ↔ Lists idx pid' gid ∧ ¬(pid' = pid ∧ gid = g) := by
  unfold dropGrant
  cases hids : idx.find? pid with
  | none =>
      simp only
      constructor
      · intro h
        refine ⟨h, ?_⟩
        rintro ⟨rfl, -⟩
        obtain ⟨ids, hfind, -⟩ := h
        rw [hids] at hfind
        cases hfind
      · exact And.left
  | some ids =>
      have herase : ∀ gid, (ids.erase g).contains gid = true ↔
          ids.contains gid = true ∧ gid ≠ g := by
        intro gid
        rw [FinMap.contains, FinMap.find?_erase]
        by_cases hgid : gid = g
        · simp [hgid]
        · simp [hgid, FinMap.contains]
      simp only
      split
      · rename_i hempty
        have hnone : ∀ gid, (ids.erase g).contains gid = false := by
          intro gid
          have hnil : (ids.erase g).entries = [] := List.length_eq_zero_iff.mp hempty
          rw [FinMap.contains, FinMap.find?, hnil]
          rfl
        unfold Lists
        simp only [FinMap.find?_erase]
        by_cases hpid : pid' = pid
        · subst hpid
          simp only [if_true, hids, true_and]
          constructor
          · rintro ⟨_, h, -⟩
            cases h
          · rintro ⟨⟨ids', hids', hmem⟩, hne⟩
            cases hids'
            have := (herase gid).mpr ⟨hmem, hne⟩
            rw [hnone gid] at this
            cases this
        · simp [hpid]
      · unfold Lists
        simp only [FinMap.find?_insert]
        by_cases hpid : pid' = pid
        · subst hpid
          simp only [if_true, Option.some.injEq, exists_eq_left', hids, herase, true_and, ne_eq]
        · simp [hpid]

theorem lists_deindexActiveGrant {idx : ActiveIndex} {g : CollectiveGrant} {pid : ParticipantId}
    {gid : CollectiveGrantId} :
    Lists (idx.deindexActiveGrant g) pid gid ↔
      Lists idx pid gid ∧ ¬(pid ∈ g.participants ∧ gid = g.id) := by
  unfold deindexActiveGrant
  generalize g.participants = pids
  induction pids generalizing idx with
  | nil => simp
  | cons p pids ih =>
      rw [List.foldl_cons, ih, lists_dropGrant, List.mem_cons]
      tauto

end ActiveIndex

/-- The scans of the grants pass over those that do not execute. -/
theorem GrantState.isLive_of_not_idle {gs : GrantState}
    (h : ¬(!gs.active || gs.terminal) = true) : gs.isLive = true := by
  simpa [GrantState.isLive] using h

/-! ## What the two overlap tests rule out -/

namespace Scheduler

variable {D : Type}

/-- What the checks of `can_overlap` establish. -/
theorem canOverlap_checks [Double D] {s : Scheduler D} {a b : Record D}
    (h : s.canOverlap a b = true) :
    (a.request.overlap ≠ .unknown ∧ b.request.overlap ≠ .unknown) ∧
      (a.request.overlap ≠ .exclusive ∧ b.request.overlap ≠ .exclusive) ∧
      (classifyConflict a.footprint b.footprint).forbidsOverlap = false ∧
      ∀ rg, a.request.reservationGen = some rg → b.request.reservationGen ≠ some rg := by
  unfold canOverlap at h
  split_ifs at h with hunknown hexclusive hforbids hreservation
  refine ⟨not_or.mp hunknown, not_or.mp hexclusive, by simpa using hforbids, fun rg ha hb => ?_⟩
  exact hreservation ⟨by rw [ha]; rfl, by rw [hb]; rfl, ha.trans hb.symm⟩

theorem mem_conflictCandidates {s : Scheduler D} {ps : List ParticipantId}
    {gid : CollectiveGrantId} :
    gid ∈ s.conflictCandidates ps ↔ ∃ p ∈ ps, s.activeByParticipant.Lists p gid := by
  unfold conflictCandidates
  rw [mem_sortUnique, List.mem_flatMap]
  refine exists_congr fun p => and_congr_right fun _ => ?_
  unfold ActiveIndex.Lists
  cases hids : s.activeByParticipant.find? p with
  | none => simp
  | some ids => simp [FinMap.mem_keys_iff, FinMap.contains_iff]

/-- A record without active conflicts overlaps no executing grant it is indexed
with. -/
theorem not_forbids_of_activeConflicts {s : Scheduler D} {rec other : Record D}
    (h : s.activeConflicts rec = 0) {p : ParticipantId} (hp : p ∈ rec.request.participants)
    {gid : CollectiveGrantId} (hlists : s.activeByParticipant.Lists p gid) {gs : GrantState}
    (hentry : s.grants.find? gid = some gs) (hlive : gs.isLive = true)
    (hother : s.records.find? gs.grant.request = some other) :
    (classifyConflict rec.footprint other.footprint).forbidsOverlap = false := by
  have hnone := List.countP_eq_zero.mp h gid (mem_conflictCandidates.mpr ⟨p, hp, hlists⟩)
  simp only [GrantState.isLive, Bool.and_eq_true, Bool.not_eq_true'] at hlive
  simpa [conflictsWith, hentry, hlive.1, hlive.2, hother] using hnone

end Scheduler

end CollectiveScheduler
