/-
  Scheduler/Fencing.lean --- what a fence does, whatever order it walks in.

  `fenceWorkerBoot` walks the records in the order of an unordered map and hits a
  record once for each of its participants on the fenced boot.  The hits commute
  and repeat without effect, so the result is described by the set of records
  that were hit.
-/
import CollectiveScheduler.Scheduler.Inversion

set_option autoImplicit false

namespace CollectiveScheduler

open Foundation

namespace Scheduler

variable {D : Type}

/-- The id is the one of the current grant of a record that was hit. -/
def RevokedBy (s : Scheduler D) (hit : CollectiveRequestId → Prop) (gid : CollectiveGrantId) :
    Prop :=
  ∃ rid rec g, hit rid ∧ s.records.find? rid = some rec ∧ rec.currentGrant = some g ∧ g.id = gid

/-- The scheduler `t` is `s` after hits on a set of records. -/
structure AfterHits (s : Scheduler D) (hit : CollectiveRequestId → Prop) (t : Scheduler D) :
    Prop where
  rest : t = { s with
    records := t.records, grants := t.grants, activeByParticipant := t.activeByParticipant }
  records : ∀ rid, (hit rid →
      t.records.find? rid = (s.records.find? rid).map Record.demandRevalidation) ∧
    (¬hit rid → t.records.find? rid = s.records.find? rid)
  grants : ∀ gid, (s.RevokedBy hit gid →
      t.grants.find? gid = (s.grants.find? gid).map revoked) ∧
    (¬s.RevokedBy hit gid → t.grants.find? gid = s.grants.find? gid)
  index : ∀ p gid, t.activeByParticipant.Lists p gid ↔ s.activeByParticipant.Lists p gid ∧
    ¬∃ gid' gs, s.RevokedBy hit gid' ∧ s.grants.find? gid' = some gs ∧
      p ∈ gs.grant.participants ∧ gid = gs.grant.id

variable {s t : Scheduler D} {hit hit' : CollectiveRequestId → Prop}

theorem AfterHits.refl (s : Scheduler D) : s.AfterHits (fun _ => False) s := by
  have hnone : ∀ gid, ¬s.RevokedBy (fun _ => False) gid := by
    rintro gid ⟨-, -, -, h, -⟩
    exact h
  refine ⟨rfl, fun rid => ⟨False.elim, fun _ => rfl⟩,
    fun gid => ⟨fun h => absurd h (hnone gid), fun _ => rfl⟩, fun p gid => ?_⟩
  refine ⟨fun h => ⟨h, ?_⟩, And.left⟩
  rintro ⟨gid', -, h, -⟩
  exact hnone gid' h

theorem AfterHits.congr (h : s.AfterHits hit t) (hiff : ∀ rid, hit rid ↔ hit' rid) :
    s.AfterHits hit' t := by
  obtain rfl : hit = hit' := funext fun rid => propext (hiff rid)
  exact h

theorem demandRevalidation_idem (rec : Record D) :
    rec.demandRevalidation.demandRevalidation = rec.demandRevalidation := by
  by_cases h : rec.lifecycle.isRevocable = true
  · have hlife : rec.demandRevalidation.lifecycle = .revalidationRequired := by
      simp only [Record.demandRevalidation, h, if_true]
      exact LifecycleState.transitionOrKeep_revalidationRequired h
    conv_lhs => rw [Record.demandRevalidation, hlife]
    rfl
  · have hsame : rec.demandRevalidation = rec := by
      simp only [Record.demandRevalidation, h, Bool.false_eq_true, if_false]
    rw [hsame, hsame]

/-! ## One hit -/

/-- The ids revoked by one more hit. -/
theorem revokedBy_or {rid : CollectiveRequestId} {rec : Record D}
    (hfind : s.records.find? rid = some rec) {gid : CollectiveGrantId} :
    s.RevokedBy (fun id => hit id ∨ id = rid) gid ↔
      s.RevokedBy hit gid ∨ ∃ g, rec.currentGrant = some g ∧ g.id = gid := by
  constructor
  · rintro ⟨id, rec', g, hid | rfl, hfind', hcur, hgid⟩
    · exact .inl ⟨id, rec', g, hid, hfind', hcur, hgid⟩
    · rw [hfind] at hfind'
      cases hfind'
      exact .inr ⟨g, hcur, hgid⟩
  · rintro (⟨id, rec', g, hid, hfind', hcur, hgid⟩ | ⟨g, hcur, hgid⟩)
    · exact ⟨id, rec', g, .inl hid, hfind', hcur, hgid⟩
    · exact ⟨rid, rec, g, .inr rfl, hfind, hcur, hgid⟩

/-- The entry of a grant keeps its grant through hits. -/
theorem AfterHits.entry (h : s.AfterHits hit t) {gid : CollectiveGrantId} {gs : GrantState}
    (hentry : t.grants.find? gid = some gs) :
    ∃ gs₀, s.grants.find? gid = some gs₀ ∧ gs.grant = gs₀.grant := by
  by_cases hrevoked : s.RevokedBy hit gid
  · rw [(h.grants gid).1 hrevoked] at hentry
    obtain ⟨gs₀, hentry₀, rfl⟩ := Option.map_eq_some_iff.mp hentry
    exact ⟨gs₀, hentry₀, rfl⟩
  · rw [(h.grants gid).2 hrevoked] at hentry
    exact ⟨gs, hentry, rfl⟩

theorem AfterHits.find?_isSome (h : s.AfterHits hit t) {gid : CollectiveGrantId}
    {gs₀ : GrantState} (hentry : s.grants.find? gid = some gs₀) :
    ∃ gs, t.grants.find? gid = some gs ∧ gs.grant = gs₀.grant := by
  by_cases hrevoked : s.RevokedBy hit gid
  · exact ⟨revoked gs₀, by rw [(h.grants gid).1 hrevoked, hentry, Option.map_some], rfl⟩
  · exact ⟨gs₀, by rw [(h.grants gid).2 hrevoked, hentry], rfl⟩

/-- The record that a hit finds, first hit or not. -/
theorem AfterHits.record (h : s.AfterHits hit t) {rid : CollectiveRequestId} {rec : Record D}
    (hfind : s.records.find? rid = some rec) :
    ∃ cur, t.records.find? rid = some cur ∧ cur.currentGrant = rec.currentGrant ∧
      cur.request = rec.request ∧ cur.demandRevalidation = rec.demandRevalidation := by
  by_cases hhit : hit rid
  · refine ⟨rec.demandRevalidation, ?_, (demandRevalidation_frame rec).2.1,
      (demandRevalidation_frame rec).1, demandRevalidation_idem rec⟩
    rw [(h.records rid).1 hhit, hfind, Option.map_some]
  · exact ⟨rec, by rw [(h.records rid).2 hhit, hfind], rfl, rfl, rfl⟩

theorem revokeGrant_lists (s : Scheduler D) (gid : CollectiveGrantId) (p : ParticipantId)
    (gid' : CollectiveGrantId) :
    (s.revokeGrant gid).activeByParticipant.Lists p gid' ↔
      s.activeByParticipant.Lists p gid' ∧ ¬∃ gs, s.grants.find? gid = some gs ∧
        p ∈ gs.grant.participants ∧ gid' = gs.grant.id := by
  unfold revokeGrant
  cases hfind : s.grants.find? gid with
  | none =>
      refine ⟨fun h => ⟨h, ?_⟩, And.left⟩
      rintro ⟨gs, hgs, -⟩
      cases hgs
  | some gs =>
      rw [ActiveIndex.lists_deindexActiveGrant]
      refine and_congr_right fun _ => not_congr ⟨fun h => ⟨gs, rfl, h⟩, ?_⟩
      rintro ⟨gs', hgs', h⟩
      cases hgs'
      exact h

section Hit

variable {rid : CollectiveRequestId} {rec cur : Record D}

theorem AfterHits.records_fenceHit (h : s.AfterHits hit t)
    (hfind : s.records.find? rid = some rec)
    (hdemand : cur.demandRevalidation = rec.demandRevalidation) (id : CollectiveRequestId) :
    (hit id ∨ id = rid → (t.fenceHit rid cur).records.find? id =
        (s.records.find? id).map Record.demandRevalidation) ∧
      (¬(hit id ∨ id = rid) → (t.fenceHit rid cur).records.find? id = s.records.find? id) := by
  rw [fenceHit_records, FinMap.find?_insert]
  split_ifs with hid
  · subst hid
    exact ⟨fun _ => by rw [hfind, hdemand, Option.map_some],
      fun hnot => absurd (.inr rfl) hnot⟩
  · simp only [hid, or_false]
    exact h.records id

/-- One more revoked entry, whether an earlier hit has revoked it or not. -/
theorem AfterHits.grants_revokeGrant (h : s.AfterHits hit t) (gid₀ gid : CollectiveGrantId) :
    (s.RevokedBy hit gid ∨ gid₀ = gid →
        (t.revokeGrant gid₀).grants.find? gid = (s.grants.find? gid).map revoked) ∧
      (¬(s.RevokedBy hit gid ∨ gid₀ = gid) →
        (t.revokeGrant gid₀).grants.find? gid = s.grants.find? gid) := by
  rw [find?_revokeGrant]
  constructor
  · rintro (hrevoked | rfl)
    · rw [(h.grants gid).1 hrevoked]
      split_ifs
      · cases s.grants.find? gid <;> rfl
      · rfl
    · rw [if_pos rfl]
      by_cases hrevoked : s.RevokedBy hit gid₀
      · rw [(h.grants gid₀).1 hrevoked]
        cases s.grants.find? gid₀ <;> rfl
      · rw [(h.grants gid₀).2 hrevoked]
  · intro hnot
    rw [if_neg (fun heq => hnot (.inr heq.symm))]
    exact (h.grants gid).2 (fun hrevoked => hnot (.inl hrevoked))

theorem AfterHits.fenceHit (h : s.AfterHits hit t) (hfind : s.records.find? rid = some rec)
    (hcur : t.records.find? rid = some cur) :
    s.AfterHits (fun id => hit id ∨ id = rid) (t.fenceHit rid cur) := by
  obtain ⟨cur', hcur', hgrant, -, hdemand⟩ := h.record hfind
  rw [hcur] at hcur'
  obtain rfl : cur = cur' := Option.some.inj hcur'
  have hrecords := h.records_fenceHit hfind hdemand
  cases hgrant' : rec.currentGrant with
  | none =>
      have hsame : ∀ gid, s.RevokedBy (fun id => hit id ∨ id = rid) gid ↔ s.RevokedBy hit gid := by
        intro gid
        rw [revokedBy_or hfind, hgrant']
        simp
      have heq : t.fenceHit rid cur =
          { t with records := t.records.insert rid cur.demandRevalidation } := by
        simp only [Scheduler.fenceHit, hgrant, hgrant']
      refine ⟨?_, hrecords, fun gid => ?_, fun p gid => ?_⟩
      · rw [heq, h.rest]
      · simp only [hsame, heq]
        exact h.grants gid
      · simp only [hsame, heq]
        exact h.index p gid
  | some g =>
      have hmore : ∀ gid, s.RevokedBy (fun id => hit id ∨ id = rid) gid ↔
          s.RevokedBy hit gid ∨ g.id = gid := by
        intro gid
        rw [revokedBy_or hfind, hgrant']
        simp
      have heq : t.fenceHit rid cur =
          ({ t with records := t.records.insert rid cur.demandRevalidation }).revokeGrant g.id := by
        simp only [Scheduler.fenceHit, hgrant, hgrant']
      refine ⟨?_, hrecords, fun gid => ?_, fun p gid => ?_⟩
      · rw [heq, revokeGrant_eq, h.rest]
      · rw [heq, hmore, find?_revokeGrant, ← find?_revokeGrant t]
        exact h.grants_revokeGrant g.id gid
      · rw [heq, revokeGrant_lists, h.index, and_assoc]
        refine and_congr_right fun _ => ?_
        rw [← not_or]
        refine not_congr ⟨?_, ?_⟩
        · rintro (⟨gid', gs, hrevoked, hentry, hlisted⟩ | ⟨gs, hentry, hlisted⟩)
          · exact ⟨gid', gs, (hmore gid').mpr (.inl hrevoked), hentry, hlisted⟩
          · obtain ⟨gs₀, hentry₀, hsame⟩ := h.entry hentry
            exact ⟨g.id, gs₀, (hmore g.id).mpr (.inr rfl), hentry₀, hsame ▸ hlisted⟩
        · rintro ⟨gid', gs, hrevoked, hentry, hlisted⟩
          rcases (hmore gid').mp hrevoked with hrevoked | rfl
          · exact .inl ⟨gid', gs, hrevoked, hentry, hlisted⟩
          · obtain ⟨gs', hentry', hsame⟩ := h.find?_isSome hentry
            exact .inr ⟨gs', hentry', hsame.symm ▸ hlisted⟩

end Hit

/-! ## The walk -/

/-- The fence hits the record: it is not terminal and a participant of it is
hosted by the fenced boot. -/
def isHit (s : Scheduler D) (worker : WorkerId) (boot : WorkerBootId) (rec : Record D) : Bool :=
  !rec.lifecycle.isTerminalState && rec.request.participants.any (s.hostedBy worker boot)

theorem AfterHits.hostedBy (h : s.AfterHits hit t) (worker : WorkerId) (boot : WorkerBootId) :
    t.hostedBy worker boot = s.hostedBy worker boot := by
  rw [h.rest]
  rfl

theorem AfterHits.fenceSteps (h : s.AfterHits hit t) {worker : WorkerId} {boot : WorkerBootId}
    {rid : CollectiveRequestId} {rec : Record D} (hfind : s.records.find? rid = some rec)
    (pids : List ParticipantId) :
    s.AfterHits (fun id => hit id ∨ (id = rid ∧ pids.any (s.hostedBy worker boot) = true))
      (pids.foldl (fenceStep worker boot rid) t) := by
  induction pids generalizing t hit with
  | nil => exact h.congr (fun id => by simp)
  | cons pid rest ih =>
      obtain ⟨cur, hcur, -⟩ := h.record hfind
      rw [List.foldl_cons]
      by_cases hhost : s.hostedBy worker boot pid = true
      · have hone : fenceStep worker boot rid t pid = t.fenceHit rid cur := by
          simp only [fenceStep, hcur, h.hostedBy, hhost, if_true]
        rw [hone]
        refine (ih (h.fenceHit hfind hcur)).congr fun id => ?_
        simp only [List.any_cons, hhost, Bool.true_or, and_true]
        tauto
      · have hone : fenceStep worker boot rid t pid = t := by
          simp only [fenceStep, hcur, h.hostedBy, hhost]
          rfl
        rw [hone]
        refine (ih h).congr fun id => ?_
        simp only [List.any_cons, hhost, Bool.false_or]

theorem AfterHits.fenceRecord (h : s.AfterHits hit t) (worker : WorkerId) (boot : WorkerBootId)
    {rid : CollectiveRequestId} (hnot : ¬hit rid) :
    s.AfterHits (fun id => hit id ∨
        (id = rid ∧ ∃ rec, s.records.find? rid = some rec ∧ s.isHit worker boot rec = true))
      (t.fenceRecord worker boot rid) := by
  have hsame := (h.records rid).2 hnot
  unfold Scheduler.fenceRecord
  rw [hsame]
  cases hfind : s.records.find? rid with
  | none => exact h.congr (fun id => by simp)
  | some rec =>
      simp only
      split_ifs with hterminal
      · exact h.congr (fun id => by simp [isHit, hterminal])
      · refine (h.fenceSteps hfind rec.request.participants).congr fun id => ?_
        simp [isHit, hterminal]

/-- A fence hits every record that it should, whatever the order of the walk. -/
theorem fenceWorkerBoot_afterHits (s : Scheduler D) (worker : WorkerId) (boot : WorkerBootId)
    (recordOrder : List CollectiveRequestId) :
    (s.fenceParticipants worker boot).AfterHits
      (fun rid => ∃ rec, s.records.find? rid = some rec ∧
        (s.fenceParticipants worker boot).isHit worker boot rec = true)
      (s.fenceWorkerBoot worker boot recordOrder) := by
  have hwalk : ∀ (rids : List CollectiveRequestId) (hit : CollectiveRequestId → Prop)
      (t : Scheduler D), rids.Nodup → (∀ rid ∈ rids, ¬hit rid) →
      (s.fenceParticipants worker boot).AfterHits hit t →
      (s.fenceParticipants worker boot).AfterHits
        (fun id => hit id ∨ (id ∈ rids ∧ ∃ rec, s.records.find? id = some rec ∧
          (s.fenceParticipants worker boot).isHit worker boot rec = true))
        (rids.foldl (Scheduler.fenceRecord worker boot) t) := by
    intro rids
    induction rids with
    | nil => intro hit t _ _ h; exact h.congr (fun id => by simp)
    | cons rid rest ih =>
        intro hit t hnodup hfree h
        obtain ⟨hnot, hrest⟩ := List.nodup_cons.mp hnodup
        have hone := h.fenceRecord worker boot (hfree rid List.mem_cons_self)
        refine (ih _ _ hrest ?_ hone).congr fun id => ?_
        · rintro rid' hmem (hhit | ⟨rfl, -⟩)
          · exact hfree rid' (List.mem_cons_of_mem _ hmem) hhit
          · exact hnot hmem
        · simp only [List.mem_cons]
          constructor
          · rintro ((hhit | ⟨rfl, hrec⟩) | ⟨hmem, hrec⟩)
            · exact .inl hhit
            · exact .inr ⟨.inl rfl, hrec⟩
            · exact .inr ⟨.inr hmem, hrec⟩
          · rintro (hhit | ⟨rfl | hmem, hrec⟩)
            · exact .inl (.inl hhit)
            · exact .inl (.inr ⟨rfl, hrec⟩)
            · exact .inr ⟨hmem, hrec⟩
  refine (hwalk _ _ _ (FinMap.nodup_iteration _ recordOrder) (fun _ _ h => h)
    (AfterHits.refl _)).congr fun id => ?_
  simp only [false_or, and_iff_right_iff_imp]
  rintro ⟨rec, hfind, -⟩
  exact FinMap.mem_iteration_iff.mpr ⟨rec, hfind⟩

/-! ## A fence, read at one record and at one entry -/

theorem isHit_fenceParticipants (s : Scheduler D) (worker worker' : WorkerId)
    (boot boot' : WorkerBootId) (rec : Record D) :
    (s.fenceParticipants worker boot).isHit worker' boot' rec = s.isHit worker' boot' rec := by
  have hhosted : (s.fenceParticipants worker boot).hostedBy worker' boot' =
      s.hostedBy worker' boot' :=
    funext (s.hostedBy_fenceParticipants worker worker' boot boot')
  rw [isHit, isHit, hhosted]

theorem find?_records_fenceWorkerBoot (s : Scheduler D) (worker : WorkerId)
    (boot : WorkerBootId) (recordOrder : List CollectiveRequestId) (rid : CollectiveRequestId) :
    (s.fenceWorkerBoot worker boot recordOrder).records.find? rid =
      (s.records.find? rid).map (fun rec =>
        if s.isHit worker boot rec then rec.demandRevalidation else rec) := by
  have hafter := (s.fenceWorkerBoot_afterHits worker boot recordOrder).records rid
  have hrecords : (s.fenceParticipants worker boot).records.find? rid = s.records.find? rid := rfl
  simp only [isHit_fenceParticipants, hrecords] at hafter
  cases hfind : s.records.find? rid with
  | none =>
      rw [hafter.2 (by rintro ⟨rec, hrec, -⟩; rw [hfind] at hrec; cases hrec), hfind]
      rfl
  | some rec =>
      rw [Option.map_some]
      split_ifs with hhit
      · rw [hafter.1 ⟨rec, hfind, hhit⟩, hfind, Option.map_some]
      · rw [hafter.2 ?_, hfind]
        rintro ⟨rec', hfind', hhit'⟩
        rw [hfind] at hfind'
        cases hfind'
        exact hhit hhit'

/-- The entry that a hit record points to is revoked. -/
theorem find?_grants_fenceWorkerBoot_hit {s : Scheduler D} {worker : WorkerId}
    {boot : WorkerBootId} (recordOrder : List CollectiveRequestId) {rid : CollectiveRequestId}
    {rec : Record D} {g : CollectiveGrant} (hfind : s.records.find? rid = some rec)
    (hhit : s.isHit worker boot rec = true) (hcur : rec.currentGrant = some g) :
    (s.fenceWorkerBoot worker boot recordOrder).grants.find? g.id =
      (s.grants.find? g.id).map revoked := by
  refine ((s.fenceWorkerBoot_afterHits worker boot recordOrder).grants g.id).1 ?_
  rw [← s.isHit_fenceParticipants worker worker boot boot] at hhit
  exact ⟨rid, rec, g, ⟨rec, hfind, hhit⟩, hfind, hcur, rfl⟩

/-- An entry that no hit record points to is left alone. -/
theorem find?_grants_fenceWorkerBoot {s : Scheduler D} {worker : WorkerId} {boot : WorkerBootId}
    (recordOrder : List CollectiveRequestId) {gid : CollectiveGrantId}
    (h : ∀ rid rec g, s.records.find? rid = some rec → s.isHit worker boot rec = true →
      rec.currentGrant = some g → g.id ≠ gid) :
    (s.fenceWorkerBoot worker boot recordOrder).grants.find? gid = s.grants.find? gid := by
  refine ((s.fenceWorkerBoot_afterHits worker boot recordOrder).grants gid).2 ?_
  rintro ⟨rid, rec, g, ⟨rec', hfind', hhit⟩, hfind, hcur, hgid⟩
  rw [show s.records.find? rid = some rec from hfind] at hfind'
  cases hfind'
  rw [isHit_fenceParticipants] at hhit
  exact h rid rec g hfind hhit hcur hgid

/-! ## Fences after fences -/

variable {u : Scheduler D}

theorem AfterHits.revokedBy_iff (h : s.AfterHits hit t) {gid : CollectiveGrantId} :
    t.RevokedBy hit' gid ↔ s.RevokedBy hit' gid := by
  constructor
  · rintro ⟨rid, cur, g, hhit, hfind, hcur, hgid⟩
    cases hfind₀ : s.records.find? rid with
    | none =>
        by_cases hwas : hit rid
        · rw [(h.records rid).1 hwas, hfind₀] at hfind
          cases hfind
        · rw [(h.records rid).2 hwas, hfind₀] at hfind
          cases hfind
    | some rec =>
        obtain ⟨cur', hcur', hgrant, -⟩ := h.record hfind₀
        rw [hfind] at hcur'
        cases hcur'
        exact ⟨rid, rec, g, hhit, hfind₀, hgrant.symm.trans hcur, hgid⟩
  · rintro ⟨rid, rec, g, hhit, hfind, hcur, hgid⟩
    obtain ⟨cur, hcur', hgrant, -⟩ := h.record hfind
    exact ⟨rid, cur, g, hhit, hcur', hgrant.trans hcur, hgid⟩

/-- An idempotent change that is made in one case and then in another is made once, if in
either. -/
theorem map_of_or {α : Type} {f : α → α} (hidem : ∀ x, f (f x) = f x) {p q : Prop}
    {a b c : Option α} (h : (p → b = a.map f) ∧ (¬p → b = a))
    (h' : (q → c = b.map f) ∧ (¬q → c = b)) :
    (p ∨ q → c = a.map f) ∧ (¬(p ∨ q) → c = a) := by
  constructor
  · intro hany
    by_cases hlater : q
    · rw [h'.1 hlater]
      by_cases hearlier : p
      · rw [h.1 hearlier, Option.map_map]
        exact congrArg (Option.map · a) (funext hidem)
      · rw [h.2 hearlier]
    · rw [h'.2 hlater, h.1 (hany.resolve_right hlater)]
  · intro hnone
    rw [h'.2 fun hlater => hnone (.inr hlater), h.2 fun hearlier => hnone (.inl hearlier)]

/-- Hits on two sets of records, one set after the other. -/
theorem AfterHits.trans (h : s.AfterHits hit t) (h' : t.AfterHits hit' u) :
    s.AfterHits (fun rid => hit rid ∨ hit' rid) u := by
  have hrevoked : ∀ gid, s.RevokedBy (fun rid => hit rid ∨ hit' rid) gid ↔
      s.RevokedBy hit gid ∨ t.RevokedBy hit' gid := by
    intro gid
    rw [h.revokedBy_iff]
    constructor
    · rintro ⟨rid, rec, g, hhit | hhit, hrest⟩
      · exact .inl ⟨rid, rec, g, hhit, hrest⟩
      · exact .inr ⟨rid, rec, g, hhit, hrest⟩
    · rintro (⟨rid, rec, g, hhit, hrest⟩ | ⟨rid, rec, g, hhit, hrest⟩)
      · exact ⟨rid, rec, g, .inl hhit, hrest⟩
      · exact ⟨rid, rec, g, .inr hhit, hrest⟩
  constructor
  case rest => rw [h'.rest, h.rest]
  case records =>
    exact fun rid => map_of_or demandRevalidation_idem (h.records rid) (h'.records rid)
  case grants =>
    intro gid
    rw [hrevoked]
    exact map_of_or (f := revoked) (fun _ => rfl) (h.grants gid) (h'.grants gid)
  case index =>
    intro p gid
    rw [h'.index, h.index, and_assoc, ← not_or]
    refine and_congr_right fun _ => not_congr ⟨?_, ?_⟩
    · rintro (⟨gid', gs, hearlier, hentry, hlisted⟩ | ⟨gid', gs, hlater, hentry, hlisted⟩)
      · exact ⟨gid', gs, (hrevoked gid').mpr (.inl hearlier), hentry, hlisted⟩
      · obtain ⟨gs₀, hentry₀, hsame⟩ := h.entry hentry
        exact ⟨gid', gs₀, (hrevoked gid').mpr (.inr hlater), hentry₀, hsame ▸ hlisted⟩
    · rintro ⟨gid', gs, hany, hentry, hlisted⟩
      rcases (hrevoked gid').mp hany with hearlier | hlater
      · exact .inl ⟨gid', gs, hearlier, hentry, hlisted⟩
      · obtain ⟨gs', hentry', hsame⟩ := h.find?_isSome hentry
        exact .inr ⟨gid', gs', hlater, hentry', hsame.symm ▸ hlisted⟩

/-- Hits read no participant, so fencing participants before or after them is the same. -/
theorem AfterHits.fenceParticipants (h : s.AfterHits hit t) (worker : WorkerId)
    (boot : WorkerBootId) :
    (s.fenceParticipants worker boot).AfterHits hit (t.fenceParticipants worker boot) where
  rest := by
    rw [h.rest]
    rfl
  records := h.records
  grants := h.grants
  index := h.index

/-- The hits determine the state, where the index keeps no empty set. -/
theorem AfterHits.unique (h : s.AfterHits hit t) (h' : s.AfterHits hit u)
    (ht : t.activeByParticipant.Tidy) (hu : u.activeByParticipant.Tidy) : t = u := by
  have hrecords : t.records = u.records := by
    refine FinMap.ext_find? fun rid => ?_
    by_cases hhit : hit rid
    · rw [(h.records rid).1 hhit, (h'.records rid).1 hhit]
    · rw [(h.records rid).2 hhit, (h'.records rid).2 hhit]
  have hgrants : t.grants = u.grants := by
    refine FinMap.ext_find? fun gid => ?_
    by_cases hrevoked : s.RevokedBy hit gid
    · rw [(h.grants gid).1 hrevoked, (h'.grants gid).1 hrevoked]
    · rw [(h.grants gid).2 hrevoked, (h'.grants gid).2 hrevoked]
  have hindex : t.activeByParticipant = u.activeByParticipant :=
    ht.ext hu fun p gid => (h.index p gid).trans (h'.index p gid).symm
  rw [h.rest, h'.rest, hrecords, hgrants, hindex]

/-- The fence hits the record under the id. -/
def FenceHits (s : Scheduler D) (worker : WorkerId) (boot : WorkerBootId)
    (rid : CollectiveRequestId) : Prop :=
  ∃ rec, s.records.find? rid = some rec ∧ s.isHit worker boot rec = true

/-- A fence is hits on the records of the fenced boot. -/
theorem fenceWorkerBoot_hits (s : Scheduler D) (worker : WorkerId) (boot : WorkerBootId)
    (recordOrder : List CollectiveRequestId) :
    (s.fenceParticipants worker boot).AfterHits (s.FenceHits worker boot)
      (s.fenceWorkerBoot worker boot recordOrder) := by
  refine (s.fenceWorkerBoot_afterHits worker boot recordOrder).congr fun rid => ?_
  simp only [isHit_fenceParticipants]
  rfl

/-- A fence changes neither whom a later fence hits nor who hosts a participant. -/
theorem fenceHits_fenceWorkerBoot (s : Scheduler D) (worker worker' : WorkerId)
    (boot boot' : WorkerBootId) (recordOrder : List CollectiveRequestId)
    (rid : CollectiveRequestId) :
    (s.fenceWorkerBoot worker boot recordOrder).FenceHits worker' boot' rid ↔
      s.FenceHits worker' boot' rid := by
  have hhits : ∀ rec, (s.fenceWorkerBoot worker boot recordOrder).isHit worker' boot' rec =
      s.isHit worker' boot' rec := by
    intro rec
    rw [← s.isHit_fenceParticipants worker worker' boot boot', isHit, isHit,
      (s.fenceWorkerBoot_hits worker boot recordOrder).hostedBy]
  have hrecord : ∀ rec, s.isHit worker' boot'
      (if s.isHit worker boot rec then rec.demandRevalidation else rec) =
        s.isHit worker' boot' rec := by
    intro rec
    split_ifs
    · obtain ⟨hrequest, -, -⟩ := demandRevalidation_frame rec
      rw [isHit, isHit, hrequest, demandRevalidation_isTerminalState]
    · rfl
  unfold FenceHits
  rw [find?_records_fenceWorkerBoot]
  simp only [hhits]
  cases s.records.find? rid with
  | none => simp
  | some rec => simp [hrecord]

end Scheduler

end CollectiveScheduler
