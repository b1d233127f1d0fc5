/-
  Properties/ActiveAccounting.lean --- the counter of active grants.

  `schedule` trusts `active_grants`, which seven operations update apart from the
  grant flags and the lifecycle.  Three of them do not keep the three in step: a
  fence revokes the entry of an ACTIVE record and leaves the counter; a
  participant publication takes an ACTIVE record out of ACTIVE and leaves entry
  and counter; and a supersede lowers the counter also for a grant that never
  became active.  Where these do not meet such a record, the counter is the
  number of executing grants and ACTIVE means holding one of them.
-/
import CollectiveScheduler.System.GrantTable
import CollectiveScheduler.System.Scenario

set_option autoImplicit false

namespace CollectiveScheduler

open Foundation LifecycleState

variable {D : Type}

namespace Scheduler

/-- The counter is the number of executing grants, and a record is ACTIVE exactly
when its current grant executes. -/
structure AccountsActive (s : Scheduler D) : Prop where
  count : s.activeGrants = s.grants.count GrantState.isLive
  active : ∀ id rec, s.records.find? id = some rec →
    (rec.lifecycle = .active ↔ ∃ g gs, rec.currentGrant = some g ∧ s.Live g.id gs)

/-- The current grant of a record executes. -/
def holdsLive (s : Scheduler D) (rec : Record D) : Bool :=
  rec.currentGrant.any (fun g => (s.grants.find? g.id).any GrantState.isLive)

theorem holdsLive_iff {s : Scheduler D} {rec : Record D} :
    s.holdsLive rec = true ↔ ∃ g gs, rec.currentGrant = some g ∧ s.Live g.id gs := by
  rw [holdsLive, Option.any_eq_true]
  refine exists_congr fun g => ?_
  rw [any_isLive_iff, exists_and_left]

instance (s : Scheduler D) : Decidable s.AccountsActive :=
  decidable_of_iff (s.activeGrants = s.grants.count GrantState.isLive ∧
      ∀ id rec, s.records.find? id = some rec →
        (rec.lifecycle = .active ↔ s.holdsLive rec = true))
    ⟨fun h => ⟨h.1, fun id rec hfind => (h.2 id rec hfind).trans holdsLive_iff⟩,
      fun h => ⟨h.count, fun id rec hfind => (h.active id rec hfind).trans holdsLive_iff.symm⟩⟩

/-- The inductive form: each executing grant belongs to the ACTIVE record it
names, and each ACTIVE record holds an executing grant. -/
structure Accounting (s : Scheduler D) : Prop where
  count : s.activeGrants = s.grants.count GrantState.isLive
  owner : ∀ gid gs, s.Live gid gs → ∃ rec, s.records.find? gs.grant.request = some rec ∧
    rec.currentGrant = some gs.grant ∧ rec.lifecycle = .active
  active : ∀ id rec, s.records.find? id = some rec → rec.lifecycle = .active →
    ∃ g gs, rec.currentGrant = some g ∧ s.Live g.id gs

variable {s s' : Scheduler D} {issued : List CollectiveGrant}

theorem Accounting.fresh (policy : PolicyConfig D) (epoch : CoordinatorEpoch) :
    Accounting (Scheduler.fresh policy epoch) where
  count := rfl
  owner gid gs h := by cases h.1
  active id rec h := by cases h

/-- A record whose current grant executes is ACTIVE. -/
theorem Accounting.active_of_live (h : s.Accounting) (ht : s.Tabled issued)
    {id : CollectiveRequestId} {rec : Record D} {g : CollectiveGrant} {gs : GrantState}
    (hfind : s.records.find? id = some rec) (hcur : rec.currentGrant = some g)
    (hlive : s.Live g.id gs) : rec.lifecycle = .active := by
  obtain ⟨owner, hofind, hocur, hactive⟩ := h.owner g.id gs hlive
  have hid : gs.grant.id = g.id := (ht.issuance.entries g.id gs hlive.1).1
  have hsame := ht.table.same_record ht.issuance.attribution ht.keyed hofind hfind hocur hcur hid
  rw [hsame, hfind] at hofind
  cases hofind
  exact hactive

theorem Accounting.accountsActive (h : s.Accounting) (ht : s.Tabled issued) :
    s.AccountsActive where
  count := h.count
  active id rec hfind :=
    ⟨h.active id rec hfind, fun ⟨_, _, hcur, hlive⟩ => h.active_of_live ht hfind hcur hlive⟩

/-! ## Steps that start and end no execution -/

theorem count_eq_of_live (hlive : ∀ gid, (∃ gs, s'.Live gid gs) ↔ ∃ gs, s.Live gid gs) :
    s'.grants.count GrantState.isLive = s.grants.count GrantState.isLive :=
  FinMap.count_congr fun gid => by
    rw [Bool.eq_iff_iff, any_isLive_iff, any_isLive_iff]
    exact hlive gid

/-- Every ACTIVE record stays as it is and none appears. -/
theorem Accounting.rewrite (h : s.Accounting) (hgrants : s'.grants = s.grants)
    (hactive : s'.activeGrants = s.activeGrants)
    (hkept : ∀ id rec, s.records.find? id = some rec → rec.lifecycle = .active →
      ∃ rec', s'.records.find? id = some rec' ∧ rec'.currentGrant = rec.currentGrant ∧
        rec'.lifecycle = .active)
    (hnone : ∀ id rec', s'.records.find? id = some rec' → rec'.lifecycle = .active →
      ∃ rec, s.records.find? id = some rec ∧ rec'.currentGrant = rec.currentGrant ∧
        rec.lifecycle = .active) : s'.Accounting where
  count := by
    rw [hactive, hgrants]
    exact h.count
  owner gid gs hlive := by
    rw [Live, hgrants] at hlive
    obtain ⟨rec, hfind, hcur, hlife⟩ := h.owner gid gs hlive
    obtain ⟨rec', hfind', hgrant, hlife'⟩ := hkept _ rec hfind hlife
    exact ⟨rec', hfind', hgrant.trans hcur, hlife'⟩
  active id rec' hfind' hlife' := by
    obtain ⟨rec, hfind, hgrant, hlife⟩ := hnone id rec' hfind' hlife'
    obtain ⟨g, gs, hcur, hlive⟩ := h.active id rec hfind hlife
    refine ⟨g, gs, hgrant.trans hcur, ?_⟩
    rw [Live, hgrants]
    exact hlive

theorem Accounting.rewritten {R : LifecycleState → LifecycleState → Prop} (h : s.Accounting)
    (hkeeps : ∀ {a b}, R a b → (b = .active ↔ a = .active)) (hrewritten : Rewritten R s s') :
    s'.Accounting := by
  refine h.rewrite hrewritten.grants hrewritten.activeGrants ?_ ?_
  · intro id rec hfind hlife
    obtain ⟨rec', hfind', hrec⟩ := hrewritten.records.find? hfind
    exact ⟨rec', hfind', hrec.currentGrant, (hkeeps hrec.lifecycle).mpr hlife⟩
  · intro id rec' hfind' hlife'
    obtain ⟨rec, hfind, hrec⟩ := hrewritten.records.find?_new hfind'
    exact ⟨rec, hfind, hrec.currentGrant, (hkeeps hrec.lifecycle).mp hlife'⟩

theorem active_iff_of_eq {a b : LifecycleState} (h : a = b) : b = .active ↔ a = .active := by
  rw [h]

theorem active_iff_of_refreshes {a b : LifecycleState} (h : Refreshes a b) :
    b = .active ↔ a = .active := by
  rcases h.moved with rfl | ⟨ha, hb⟩
  · exact Iff.rfl
  · refine ⟨fun hactive => ?_, fun hactive => ?_⟩
    · rcases hb with rfl | rfl | rfl <;> cases hactive
    · subst hactive
      cases ha

/-- A record that is not ACTIVE is rewritten to one that is not, and the same
grants execute. -/
theorem Accounting.aside (h : s.Accounting) {id : CollectiveRequestId} {rec rec' : Record D}
    (hfind : s.records.find? id = some rec) (hnot : rec.lifecycle ≠ .active)
    (hnot' : rec'.lifecycle ≠ .active) (hrecords : s'.records = s.records.insert id rec')
    (hactive : s'.activeGrants = s.activeGrants)
    (hlive : ∀ gid gs, s'.Live gid gs ↔ s.Live gid gs) : s'.Accounting where
  count := by
    rw [hactive, h.count]
    exact (count_eq_of_live fun gid => exists_congr fun gs => hlive gid gs).symm
  owner gid gs hl := by
    obtain ⟨rec₀, hfind₀, hcur, hlife⟩ := h.owner gid gs ((hlive gid gs).mp hl)
    have hne : gs.grant.request ≠ id := by
      intro heq
      rw [heq, hfind] at hfind₀
      cases hfind₀
      exact hnot hlife
    refine ⟨rec₀, ?_, hcur, hlife⟩
    rw [hrecords, FinMap.find?_insert_of_ne _ _ hne]
    exact hfind₀
  active id₀ rec₀ hfind₀ hlife := by
    rw [hrecords, FinMap.find?_insert] at hfind₀
    split_ifs at hfind₀ with hid
    · cases hfind₀
      exact absurd hlife hnot'
    · obtain ⟨g, gs, hcur, hl⟩ := h.active id₀ rec₀ hfind₀ hlife
      exact ⟨g, gs, hcur, (hlive g.id gs).mpr hl⟩

/-! ## Steps that end an execution -/

/-- An ACTIVE record leaves ACTIVE together with the grant it holds. -/
theorem Accounting.stop (h : s.Accounting) (ht : s.Tabled issued) {id : CollectiveRequestId}
    {rec rec' : Record D} {g : CollectiveGrant} (hfind : s.records.find? id = some rec)
    (hcur : rec.currentGrant = some g) (hlife : rec.lifecycle = .active)
    (hnot' : rec'.lifecycle ≠ .active) (hrecords : s'.records = s.records.insert id rec')
    (hactive : s'.activeGrants = s.activeGrants - 1)
    (hlive : ∀ gid gs, s'.Live gid gs ↔ s.Live gid gs ∧ gid ≠ g.id) : s'.Accounting where
  count := by
    have hcount : s.grants.count GrantState.isLive = s'.grants.count GrantState.isLive + 1 := by
      refine FinMap.count_succ (k := g.id) ?_ ?_ (fun gid hne => ?_)
      · rw [Bool.eq_false_iff, ne_eq, any_isLive_iff]
        rintro ⟨gs, hl⟩
        exact ((hlive g.id gs).mp hl).2 rfl
      · obtain ⟨g', gs, hcur', hl⟩ := h.active id rec hfind hlife
        rw [hcur] at hcur'
        cases hcur'
        exact any_isLive_iff.mpr ⟨gs, hl⟩
      · rw [Bool.eq_iff_iff, any_isLive_iff, any_isLive_iff]
        exact exists_congr fun gs => (hlive gid gs).trans (and_iff_left hne)
    rw [hactive, h.count, hcount]
    rfl
  owner gid gs hl := by
    obtain ⟨hl₀, hgid⟩ := (hlive gid gs).mp hl
    obtain ⟨rec₀, hfind₀, hcur₀, hlife₀⟩ := h.owner gid gs hl₀
    have hne : gs.grant.request ≠ id := by
      intro heq
      rw [heq, hfind] at hfind₀
      cases hfind₀
      rw [hcur] at hcur₀
      cases hcur₀
      exact hgid (ht.issuance.entries gid gs hl₀.1).1.symm
    refine ⟨rec₀, ?_, hcur₀, hlife₀⟩
    rw [hrecords, FinMap.find?_insert_of_ne _ _ hne]
    exact hfind₀
  active id₀ rec₀ hfind₀ hlife₀ := by
    rw [hrecords, FinMap.find?_insert] at hfind₀
    split_ifs at hfind₀ with hid
    · cases hfind₀
      exact absurd hlife₀ hnot'
    · obtain ⟨g₀, gs, hcur₀, hl⟩ := h.active id₀ rec₀ hfind₀ hlife₀
      refine ⟨g₀, gs, hcur₀, (hlive g₀.id gs).mpr ⟨hl, fun hgid => hid ?_⟩⟩
      exact ht.table.same_record ht.issuance.attribution ht.keyed hfind₀ hfind hcur₀ hcur hgid

theorem live_revokeGrant_iff {gid gid' : CollectiveGrantId} {gs : GrantState} :
    (s.revokeGrant gid).Live gid' gs ↔ s.Live gid' gs ∧ gid' ≠ gid := by
  simp only [Live, find?_revokeGrant]
  by_cases hid : gid' = gid
  · rw [if_pos hid]
    refine ⟨fun hl => ?_, fun hl => absurd hid hl.2⟩
    obtain ⟨gs₀, -, rfl⟩ := Option.map_eq_some_iff.mp hl.1
    cases hl.2
  · rw [if_neg hid]
    exact ⟨fun hl => ⟨hl, hid⟩, fun hl => hl.1⟩

/-- For a record that is not ACTIVE the entry of its current grant does not
execute. -/
theorem Accounting.not_live (h : s.Accounting) (ht : s.Tabled issued)
    {id : CollectiveRequestId} {rec : Record D} {g : CollectiveGrant}
    (hfind : s.records.find? id = some rec) (hcur : rec.currentGrant = some g)
    (hnot : rec.lifecycle ≠ .active) {gid : CollectiveGrantId} {gs : GrantState}
    (hlive : s.Live gid gs) : gid ≠ g.id := by
  rintro rfl
  exact hnot (h.active_of_live ht hfind hcur hlive)

theorem Accounting.cancel (h : s.Accounting) (ht : s.Tabled issued) (id : CollectiveRequestId) :
    (s.cancel id).1.Accounting := by
  rcases s.cancel_cases id with heq | ⟨rec, hfind, -, hcase⟩
  · rw [heq]
    exact h
  · have hnot' : rec.cancel.lifecycle ≠ .active := by
      rw [cancel_lifecycle]
      decide
    rcases hcase with ⟨hclosed, heq⟩ | ⟨g, gs, ⟨hcur, hentry, hopen⟩, heq⟩
    · rw [heq]
      refine h.aside hfind (fun hlife => ?_) hnot' rfl rfl (fun _ _ => Iff.rfl)
      obtain ⟨g, gs, hcur, hl⟩ := h.active id rec hfind hlife
      refine hclosed g gs ⟨hcur, hl.1, ?_⟩
      have hlive := hl.2
      simp only [GrantState.isLive, Bool.and_eq_true, Bool.not_eq_true'] at hlive
      exact hlive.2
    · rw [heq]
      by_cases hlife : rec.lifecycle = .active
      · have hflag : gs.active = true := by
          obtain ⟨g', gs', hcur', hl⟩ := h.active id rec hfind hlife
          rw [hcur] at hcur'
          cases hcur'
          rw [Live, hentry] at hl
          obtain ⟨hgs, hlive⟩ := hl
          cases hgs
          exact (Bool.and_eq_true_iff.mp hlive).1
        refine h.stop ht hfind hcur hlife hnot' rfl ?_ (fun _ _ => live_insert_iff rfl)
        simp only [hflag, if_true]
      · have hflag : gs.active = false := by
          cases hflag : gs.active with
          | false => rfl
          | true =>
              refine absurd (h.active_of_live ht hfind hcur ⟨hentry, ?_⟩) hlife
              rw [GrantState.isLive, hflag, hopen]
              rfl
        refine h.aside hfind hlife hnot' rfl ?_ (fun gid gs' => ?_)
        · simp only [hflag, Bool.false_eq_true, if_false]
        · exact (live_insert_iff rfl).trans
            (and_iff_left_of_imp fun hl => h.not_live ht hfind hcur hlife hl)

theorem Accounting.complete (h : s.Accounting) (ht : s.Tabled issued) (g : CollectiveGrant)
    (wb : WorkerBootId) (sb : SourceBootId) : (s.complete g wb sb).1.Accounting := by
  rcases s.complete_cases g wb sb with heq | ⟨rec, gs, hfind, hentry, hallowed, hlife, heq⟩
  · rw [heq]
    exact h
  · obtain ⟨-, -, -, ⟨cur, hcur, hid, -⟩, -⟩ := completionAllowed_iff.mp hallowed
    rw [heq]
    refine h.stop ht hfind hcur hlife (fun hactive => (by cases hactive)) rfl rfl ?_
    intro gid gs'
    rw [hid]
    exact live_insert_iff rfl

/-! ## Supersede -/

/-- The request replaced by a supersede has no grant, or is ACTIVE, or nothing
executes. -/
def SupersedeAccounted [Double D] (s : Scheduler D) (req : CollectiveRequest D) : Prop :=
  ∀ old, s.records.find? req.id = some old → old.request.gen < req.gen →
    validateRequest req s.policy = .ok () →
    old.currentGrant = none ∨ old.lifecycle = .active ∨ s.activeGrants = 0

instance [Double D] (s : Scheduler D) (req : CollectiveRequest D) :
    Decidable (s.SupersedeAccounted req) :=
  inferInstanceAs (Decidable (∀ old ∈ s.records.find? req.id, old.request.gen < req.gen →
    validateRequest req s.policy = .ok () →
    old.currentGrant = none ∨ old.lifecycle = .active ∨ s.activeGrants = 0))

theorem Accounting.supersede [Double D] (h : s.Accounting) (ht : s.Tabled issued)
    {req : CollectiveRequest D} (hreq : s.SupersedeAccounted req) :
    (s.supersede req).1.Accounting := by
  rcases s.supersede_cases req with ⟨e, heq⟩ | ⟨old, hfind, hgen, hvalid, heq⟩
  · rw [heq]
    exact h
  · have hnot' : (supersedingRecord old req).lifecycle ≠ .active := fun hactive => by cases hactive
    rw [heq]
    cases hcur : old.currentGrant with
    | none =>
        refine h.aside hfind (fun hlife => ?_) hnot' rfl rfl (fun _ _ => Iff.rfl)
        obtain ⟨g, gs, hcur', -⟩ := h.active _ old hfind hlife
        rw [hcur] at hcur'
        cases hcur'
    | some g =>
        have hrecords : (s.releaseForSupersede (some g)).records.insert req.id
            (supersedingRecord old req) = s.records.insert req.id (supersedingRecord old req) := by
          rw [releaseForSupersede_records]
        have hcounter : (s.releaseForSupersede (some g)).activeGrants = s.activeGrants - 1 := by
          simp only [releaseForSupersede, revokeGrant_activeGrants]
        by_cases hlife : old.lifecycle = .active
        · exact h.stop ht hfind hcur hlife hnot' hrecords hcounter
            (fun _ _ => live_revokeGrant_iff)
        · have hzero : s.activeGrants = 0 := by
            rcases hreq old hfind hgen hvalid with hnone | hactive | hzero
            · rw [hcur] at hnone
              cases hnone
            · exact absurd hactive hlife
            · exact hzero
          refine h.aside hfind hlife hnot' hrecords ?_ (fun gid gs => ?_)
          · rw [hcounter, hzero]
          · exact live_revokeGrant_iff.trans
              (and_iff_left_of_imp fun hl => h.not_live ht hfind hcur hlife hl)

/-! ## Fence -/

/-- No ACTIVE record has a participant on the fenced boot. -/
def FenceAccounted (s : Scheduler D) (worker : WorkerId) (boot : WorkerBootId) : Prop :=
  ∀ id rec, s.records.find? id = some rec → rec.lifecycle = .active →
    ∀ pid ∈ rec.request.participants, s.hostedBy worker boot pid = false

instance (s : Scheduler D) (worker : WorkerId) (boot : WorkerBootId) :
    Decidable (s.FenceAccounted worker boot) :=
  inferInstanceAs (Decidable (∀ id rec, s.records.find? id = some rec → rec.lifecycle = .active →
    ∀ pid ∈ rec.request.participants, s.hostedBy worker boot pid = false))

theorem Accounting.fenceHit (h : s.Accounting) (ht : s.Tabled issued)
    {rid : CollectiveRequestId} {rec : Record D} (hfind : s.records.find? rid = some rec)
    (hnot : rec.lifecycle ≠ .active) : (s.fenceHit rid rec).Accounting := by
  have hnot' : rec.demandRevalidation.lifecycle ≠ .active := by
    intro hactive
    have hholder := demandRevalidation_not_holder rec
    rw [hactive] at hholder
    cases hholder
  refine h.aside hfind hnot hnot' (s.fenceHit_records rid rec) ?_ (fun gid gs => ?_)
  · unfold Scheduler.fenceHit
    cases rec.currentGrant with
    | none => rfl
    | some g => exact revokeGrant_activeGrants _ _
  · unfold Scheduler.fenceHit
    cases hcur : rec.currentGrant with
    | none => exact Iff.rfl
    | some g =>
        exact live_revokeGrant_iff.trans
          (and_iff_left_of_imp fun hl => h.not_live ht hfind hcur hnot hl)

theorem hostedBy_fenceHit (s : Scheduler D) (rid : CollectiveRequestId) (rec : Record D)
    (worker : WorkerId) (boot : WorkerBootId) (pid : ParticipantId) :
    (s.fenceHit rid rec).hostedBy worker boot pid = s.hostedBy worker boot pid := by
  unfold Scheduler.fenceHit
  cases rec.currentGrant with
  | none => rfl
  | some g => simp only [hostedBy, revokeGrant_participants]

theorem FenceAccounted.fenceHit {worker : WorkerId} {boot : WorkerBootId}
    (h : s.FenceAccounted worker boot) {rid : CollectiveRequestId} {rec : Record D} :
    (s.fenceHit rid rec).FenceAccounted worker boot := by
  intro id rec' hfind' hlife pid hpid
  rw [hostedBy_fenceHit]
  rw [fenceHit_records, FinMap.find?_insert] at hfind'
  split_ifs at hfind' with hid
  · cases hfind'
    have hholder := demandRevalidation_not_holder rec
    rw [hlife] at hholder
    cases hholder
  · exact h id rec' hfind' hlife pid hpid

theorem Accounting.fenceWorkerBoot (h : s.Accounting) (ht : s.Tabled issued)
    {worker : WorkerId} {boot : WorkerBootId} (hfence : s.FenceAccounted worker boot)
    (recordOrder : List CollectiveRequestId) :
    (s.fenceWorkerBoot worker boot recordOrder).Accounting := by
  have hfenced := s.fenceParticipants_rewritten worker boot
  have hwalk := fenceWorkerBoot_induct
    (P := fun t => t.Accounting ∧ t.Tabled issued ∧ t.FenceAccounted worker boot) recordOrder
    ⟨h.rewritten active_iff_of_eq hfenced,
      ht.rewritten Advances.ofEq hfenced,
      fun id rec hfind hlife pid hpid =>
        (hostedBy_fenceParticipants s worker worker boot boot pid).trans
          (hfence id rec hfind hlife pid hpid)⟩
    (fun t rid rec pid hfind _ hpid hhost hwalk => by
      obtain ⟨haccount, htabled, hclear⟩ := hwalk
      have hnot : rec.lifecycle ≠ .active := by
        intro hlife
        rw [hclear rid rec hfind hlife pid hpid] at hhost
        cases hhost
      exact ⟨haccount.fenceHit htabled hfind hnot, htabled.fenceHit hfind, hclear.fenceHit⟩)
  exact hwalk.1

/-! ## Participant publication -/

/-- The publication finds no ACTIVE record that names another generation. -/
def PublicationAccounted (s : Scheduler D) (p : Participant) : Prop :=
  ∀ id rec, s.records.find? id = some rec → rec.lifecycle = .active →
    s.publicationVisits p id = true → namesOutdated rec.request p = false

instance (s : Scheduler D) (p : Participant) : Decidable (s.PublicationAccounted p) :=
  inferInstanceAs (Decidable (∀ id rec, s.records.find? id = some rec → rec.lifecycle = .active →
    s.publicationVisits p id = true → namesOutdated rec.request p = false))

theorem Accounting.publishParticipant (h : s.Accounting) {p : Participant}
    (hp : s.PublicationAccounted p) : (s.publishParticipant p).1.Accounting := by
  have hrewritten := s.publishParticipant_rewritten p
  refine h.rewrite hrewritten.grants hrewritten.activeGrants ?_ ?_
  · intro id rec hfind hlife
    refine ⟨rec, ?_, rfl, hlife⟩
    rw [find?_publishParticipant, hfind]
    split_ifs with hvisit
    · -- an up-to-date ACTIVE record is left as it is
      rw [Option.map_some]
      unfold revalidateAgainst
      rw [hp id rec hfind hlife hvisit]
      simp
    · rfl
  · intro id rec' hfind' hlife'
    obtain ⟨rec, hfind, hrec⟩ := hrewritten.records.find?_new hfind'
    refine ⟨rec, hfind, hrec.currentGrant, ?_⟩
    rcases hrec.lifecycle with hkeep | ⟨-, hmove⟩
    · exact hkeep.symm.trans hlife'
    · rw [hmove] at hlife'
      cases hlife'

/-! ## Steps that start an execution or file records -/

/-- A record that was not ACTIVE becomes so together with the grant it holds. -/
theorem Accounting.launch (h : s.Accounting) (ht : s.Tabled issued) {g : CollectiveGrant}
    {rec rec' : Record D} {gs : GrantState} (hfind : s.records.find? g.request = some rec)
    (hcur : rec.currentGrant = some g) (hnot : rec.lifecycle ≠ .active)
    (hcur' : rec'.currentGrant = some g) (hactive : rec'.lifecycle = .active)
    (hgs : gs.grant = g) (hlive : gs.isLive = true)
    (hrecords : s'.records = s.records.insert g.request rec')
    (hgrants : s'.grants = s.grants.insert g.id gs)
    (hcount : s'.activeGrants = s.activeGrants + 1) : s'.Accounting where
  count := by
    rw [hcount, h.count, hgrants]
    refine (FinMap.count_succ (k := g.id) ?_ ?_ (fun gid hne => ?_)).symm
    · rw [Bool.eq_false_iff, ne_eq, any_isLive_iff]
      rintro ⟨gs', hl⟩
      exact h.not_live ht hfind hcur hnot hl rfl
    · rw [FinMap.find?_insert_self]
      exact hlive
    · rw [FinMap.find?_insert_of_ne _ _ hne]
  owner gid gs' hl := by
    obtain ⟨hentry, hl⟩ := hl
    rw [hgrants, FinMap.find?_insert] at hentry
    rw [hrecords]
    split_ifs at hentry with hid
    · cases hentry
      rw [hgs]
      exact ⟨rec', FinMap.find?_insert_self _ _ _, hcur', hactive⟩
    · obtain ⟨rec₀, hfind₀, hcur₀, hlife₀⟩ := h.owner gid gs' ⟨hentry, hl⟩
      have hne : gs'.grant.request ≠ g.request := by
        intro hreq
        rw [hreq, hfind] at hfind₀
        cases hfind₀
        exact hnot hlife₀
      refine ⟨rec₀, ?_, hcur₀, hlife₀⟩
      rw [FinMap.find?_insert_of_ne _ _ hne]
      exact hfind₀
  active id rec₀ hfind₀ hlife₀ := by
    rw [hrecords, FinMap.find?_insert] at hfind₀
    simp only [Live, hgrants]
    split_ifs at hfind₀ with hid
    · cases hfind₀
      exact ⟨g, gs, hcur', FinMap.find?_insert_self _ _ _, hlive⟩
    · obtain ⟨g', gs', hcur₀, hl⟩ := h.active id rec₀ hfind₀ hlife₀
      refine ⟨g', gs', hcur₀, ?_, hl.2⟩
      rw [FinMap.find?_insert_of_ne _ _ (h.not_live ht hfind hcur hnot hl)]
      exact hl.1

theorem Accounting.handoff (h : s.Accounting) (ht : s.Tabled issued) {g : CollectiveGrant}
    (hg : g ∈ issued) (accepted : Bool) : (s.handoff g accepted).1.Accounting := by
  rcases s.handoff_cases g accepted with ⟨heq, -⟩ | ⟨rec, hfind, -, hgranted, hgen, hcase⟩
  · rw [heq]
    exact h
  · have hholder : rec.lifecycle.isHolder = true := by rw [hgranted]; rfl
    have hnot : rec.lifecycle ≠ .active := by rw [hgranted]; decide
    have hcur := (ht.issuance.current_of_holder hg hfind hgen hholder).1
    obtain ⟨gs, hentry, hopen⟩ := ht.table.held _ rec g hfind hholder hcur
    rcases hcase with ⟨hnone, -⟩ | ⟨gs', hentry', -, heq⟩
    · rw [hentry] at hnone
      cases hnone
    · rw [hentry] at hentry'
      cases hentry'
      rw [heq]
      cases accepted with
      | false =>
          refine h.aside hfind hnot (fun hactive => (by cases hactive)) rfl rfl (fun gid gs' => ?_)
          exact (live_insert_iff rfl).trans
            (and_iff_left_of_imp fun hl => h.not_live ht hfind hcur hnot hl)
      | true =>
          have hnew : ({ gs with handedOff := true, grant := g, active := true } :
              GrantState).isLive = true := by
            rw [GrantState.isLive, hopen]
            rfl
          have hkept : (handedOff rec true).currentGrant = some g := hcur
          exact h.launch ht hfind hcur hnot hkept rfl rfl hnew rfl rfl rfl

theorem Accounting.submit [Double D] (h : s.Accounting) (req : CollectiveRequest D) :
    (s.submit req).1.Accounting := by
  rcases s.submit_cases req with ⟨next, e, heq⟩ | ⟨-, -, heq⟩
  · rw [heq]
    exact ⟨h.count, h.owner, h.active⟩
  · rw [heq]
    refine h.rewrite rfl rfl (fun id rec hfind hlife => ⟨rec, ?_, rfl, hlife⟩)
      (fun id rec' hfind' hlife' => ⟨rec', ?_, rfl, hlife'⟩)
    · exact FinMap.find?_emplace_of_some hfind _ _
    · rcases FinMap.find?_emplace_cases hfind' with hfind' | ⟨-, -, rfl⟩
      · exact hfind'
      · cases hlife'

theorem Accounting.reset (s : Scheduler D) : s.resetDynamicStateForRecovery.Accounting where
  count := rfl
  owner gid gs h := by cases h.1
  active id rec' hfind' hlife' := by
    have hmap : s.resetDynamicStateForRecovery.records.find? id =
        (s.records.find? id).map (fun rec => rec.recover) := FinMap.find?_mapVals _ _ _
    rw [hmap] at hfind'
    obtain ⟨rec, -, rfl⟩ := Option.map_eq_some_iff.mp hfind'
    have hholder := recover_not_holder rec
    rw [hlife'] at hholder
    cases hholder

theorem Accounting.createGrant (h : s.Accounting) {id : CollectiveRequestId} {rec : Record D}
    (dec : ScheduleDecision D) (hfind : s.records.find? id = some rec)
    (hready : rec.lifecycle = .ready) : (s.createGrant id (promoted rec) dec).1.Accounting := by
  have hnot : ({ promoted rec with
      currentGrant := some (s.grantFor (promoted rec).request dec) } : Record D).lifecycle ≠
        .active := fun hactive => by cases hactive
  exact h.aside hfind (by rw [hready]; decide) hnot rfl rfl (fun gid gs => live_createGrant)

theorem Accounting.scheduleRound [Double D] (h : s.Accounting) (ht : s.Tabled issued)
    (horderly : s.Orderly) (hroom : s.HasRoom)
    {recordOrder : List CollectiveRequestId} {grantOrder : List CollectiveGrantId}
    {dec : ScheduleDecision D} {created : List CollectiveGrant}
    (hround : s.scheduleRound recordOrder grantOrder = (s', .ok (dec, created))) :
    s'.Accounting := by
  have hrefreshed := refreshed_rewritten s
  have hcreated := createGrants_tabled (P := fun t => t.Accounting) ht horderly.settled
    (hroom.fitsSelection horderly.keyed recordOrder)
    (h.rewritten active_iff_of_refreshes hrefreshed)
    (fun _ _ _ _ _ hfind hready haccount => haccount.createGrant _ hfind hready)
  rw [(scheduleRound_ok hround).state]
  exact hcreated.2.rewritten active_iff_of_eq (closeRound_rewritten _ _ _)

end Scheduler

/-! ## Whole runs -/

/-- What a call may not find for the accounting to hold after it. -/
def Op.Accounted [Double D] (y : System D) : Op D → Prop
  | .supersede req => y.sched.SupersedeAccounted req
  | .fenceWorkerBoot worker boot _ => y.sched.FenceAccounted worker boot
  | .publishParticipant p => y.sched.PublicationAccounted p
  | .schedule _ _ => y.sched.HasRoom
  | _ => True

instance [Double D] (y : System D) (op : Op D) : Decidable (op.Accounted y) := by
  rcases op <;> unfold Op.Accounted <;> infer_instance

theorem Op.Accounted.leavesRoom [Double D] {y : System D} {op : Op D} (h : op.Accounted y) :
    op.LeavesRoom y := by
  cases op with
  | schedule _ _ => exact h
  | _ => trivial

theorem System.next_accounting [Double D] {y : System D} {op : Op D} (hsound : y.Sound)
    (htable : y.sched.GrantTable y.issued) (h : y.sched.Accounting)
    (hatomic : op.isAtomic = true) (hissued : op.UsesIssued y) (hop : op.Accounted y) :
    (y.next op).sched.Accounting := by
  have ht : y.sched.Tabled y.issued := ⟨hsound.orderly.keyed, hsound.issuance, htable⟩
  by_cases hquiet : op.isQuiet = true
  · obtain ⟨s, hnext, hrewritten⟩ := y.next_quiet hquiet
    rw [hnext]
    exact h.rewritten Scheduler.active_iff_of_eq hrewritten
  cases op with
  | publishParticipant p => exact h.publishParticipant hop
  | submit req => exact h.submit req
  | supersede req => exact h.supersede ht hop
  | cancel id => exact h.cancel ht id
  | schedule recordOrder grantOrder =>
      obtain ⟨s, dec, created, hround⟩ :=
        Scheduler.scheduleRound_isOk hsound.orderly.settled recordOrder grantOrder
      simp only [next, step, hround]
      exact h.scheduleRound ht hsound.orderly hop hround
  | handoff g accepted => exact h.handoff ht (hissued g rfl) accepted
  | handoffBegin g => cases hatomic
  | handoffEnd g accepted => cases hatomic
  | complete g wb sb => exact h.complete ht g wb sb
  | fenceWorkerBoot worker boot recordOrder => exact h.fenceWorkerBoot ht hop recordOrder
  | resetDynamicStateForRecovery => exact Scheduler.Accounting.reset y.sched
  | _ => exact absurd rfl hquiet

/-- In every run of atomic calls with issued grants that meet the conditions
above, the counter is the number of executing grants and a record is ACTIVE
exactly when its current grant executes. -/
theorem active_accounting_of_accounted [Double D] (policy : PolicyConfig D)
    (epoch : CoordinatorEpoch) (ops : List (Op D))
    (hrun : Runs.Admissible System.next
      (fun y op => op.isAtomic = true ∧ op.UsesIssued y ∧ op.Accounted y)
      (System.start policy epoch) ops) :
    ((System.start policy epoch).run ops).sched.AccountsActive := by
  have hinvariant := Runs.invariant
    (I := fun y : System D => y.Sound ∧ y.sched.GrantTable y.issued ∧ y.sched.Accounting)
    (fun y op hy hop =>
      ⟨System.next_sound hy.1 hop.2.1,
        System.next_grantTable hy.1 hy.2.1 hop.2.2.leavesRoom,
        System.next_accounting hy.1 hy.2.1 hy.2.2 hop.1 hop.2.1 hop.2.2⟩)
    ⟨System.start_sound policy epoch, Scheduler.GrantTable.fresh policy epoch,
      Scheduler.Accounting.fresh policy epoch⟩ hrun
  obtain ⟨hsound, htable, haccounting⟩ := hinvariant
  exact haccounting.accountsActive ⟨hsound.orderly.keyed, hsound.issuance, htable⟩

namespace Scenario

/-- Two requests without a common participant, the first of them executing. -/
def firstExecutes : List (Op ℚ) :=
  withGrant
    [.publishParticipant (participant 1 1 1 11), .publishParticipant (participant 2 1 1 11),
      .publishParticipant (participant 3 1 2 22), .publishParticipant (participant 4 1 2 22),
      .publishPlan (plan 1 1 [1, 2]), .publishPlan (plan 2 1 [3, 4]),
      .submit (request 1 [1, 2] 1), .submit (request 2 [3, 4] 2), .schedule [] []]
    1 (fun g => [.handoff g true])

/-- The next generation of the second request. -/
def secondReplaced : CollectiveRequest ℚ := { request 2 [3, 4] 2 with id := 2, gen := 2 }

/-- The boot that hosts the executing request is fenced. -/
def fencedWhileExecuting : List (Op ℚ) := firstExecutes ++ [.fenceWorkerBoot 1 11 []]

/-- A participant of the executing request moves to its next generation. -/
def republishedWhileExecuting : List (Op ℚ) :=
  firstExecutes ++ [.publishParticipant (participant 1 2 1 11)]

/-- The second request is granted and superseded before its handoff. -/
def supersededBeforeHandoff : List (Op ℚ) :=
  firstExecutes ++ [.schedule [] [], .supersede secondReplaced]

/-- The second request is superseded while it waits, the other boot is fenced and
its participants are published again; then the first request completes. -/
def accountedRun : List (Op ℚ) :=
  withGrant (firstExecutes ++
      [.supersede secondReplaced, .fenceWorkerBoot 2 22 [],
        .publishParticipant (participant 3 2 2 23)])
    1 (fun g => [.complete g 11 100])

end Scenario

theorem active_accounting_of_accounted_completes :
    Runs.Admissible System.next
        (fun y op => op.isAtomic = true ∧ op.UsesIssued y ∧ op.Accounted y)
        Scenario.start Scenario.accountedRun ∧
      (Scenario.start.run Scenario.accountedRun).sched.AccountsActive :=
  have hrun : Runs.Admissible System.next
      (fun y op => op.isAtomic = true ∧ op.UsesIssued y ∧ op.Accounted y)
      Scenario.start Scenario.accountedRun := by decide +kernel
  ⟨hrun, active_accounting_of_accounted PolicyConfig.default 1 Scenario.accountedRun hrun⟩

/-- A fence, a participant publication and a supersede that each leave counter,
entries and lifecycles out of step. -/
theorem active_accounting_fails :
    (AtomicRun Scenario.start Scenario.fencedWhileExecuting ∧
      ¬(Scenario.start.run Scenario.fencedWhileExecuting).sched.AccountsActive) ∧
    (AtomicRun Scenario.start Scenario.republishedWhileExecuting ∧
      ¬(Scenario.start.run Scenario.republishedWhileExecuting).sched.AccountsActive) ∧
    (AtomicRun Scenario.start Scenario.supersededBeforeHandoff ∧
      ¬(Scenario.start.run Scenario.supersededBeforeHandoff).sched.AccountsActive) := by
  decide +kernel

end CollectiveScheduler
