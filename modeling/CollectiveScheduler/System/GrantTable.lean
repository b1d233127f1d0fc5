/-
  System/GrantTable.lean --- grant ids below saturation.

  The grant-id counter stops at its largest value instead of wrapping.  As long
  as every scheduling round finds an id for each request it selects, the issued
  grants have distinct ids below the counter, and every record that holds a grant
  finds an open entry for it in the grant table.  A run whose counter ends below
  its largest value has found them.
-/
import CollectiveScheduler.System.GrantStep
import CollectiveScheduler.System.Issuance

set_option autoImplicit false

namespace CollectiveScheduler

open Foundation LifecycleState

variable {D : Type}

namespace Scheduler

/-- The counter has an id left for every record. -/
def HasRoom (s : Scheduler D) : Prop := s.nextGrantId.value.toNat + s.records.size ≤ maxValue

instance (s : Scheduler D) : Decidable s.HasRoom :=
  inferInstanceAs (Decidable (s.nextGrantId.value.toNat + s.records.size ≤ maxValue))

/-- The counter has an id left for every request a round selects. -/
def FitsSelection [Double D] (s : Scheduler D) (recordOrder : List CollectiveRequestId) : Prop :=
  s.nextGrantId.value.toNat + (s.selection recordOrder).length ≤ maxValue

theorem HasRoom.fitsSelection [Double D] {s : Scheduler D} (h : s.HasRoom) (hkeyed : s.Keyed)
    (recordOrder : List CollectiveRequestId) : s.FitsSelection recordOrder :=
  (Nat.add_le_add_left (length_selection_le hkeyed recordOrder) _).trans h

/-- Distinct grant ids, and an open entry for every grant that is held. -/
structure GrantTable (issued : List CollectiveGrant) (s : Scheduler D) : Prop where
  below : ∀ g ∈ issued, g.id < s.nextGrantId
  distinct : ∀ g ∈ issued, ∀ g' ∈ issued, g.id = g'.id → g = g'
  held : ∀ id rec g, s.records.find? id = some rec → rec.lifecycle.isHolder = true →
    rec.currentGrant = some g → ∃ gs, s.grants.find? g.id = some gs ∧ gs.terminal = false

variable {s s' : Scheduler D} {issued : List CollectiveGrant}

theorem GrantTable.fresh (policy : PolicyConfig D) (epoch : CoordinatorEpoch) :
    GrantTable [] (Scheduler.fresh policy epoch) where
  below g hg := absurd hg List.not_mem_nil
  distinct g hg := absurd hg List.not_mem_nil
  held id rec g hfind := by cases hfind

/-- The entry of an issued grant holds that grant. -/
theorem GrantTable.entry_grant (h : s.GrantTable issued) (hissuance : s.Issuance issued)
    {g : CollectiveGrant} (hg : g ∈ issued) {gs : GrantState}
    (hentry : s.grants.find? g.id = some gs) : gs.grant = g := by
  obtain ⟨hid, hmem⟩ := hissuance.entries g.id gs hentry
  exact h.distinct gs.grant hmem g hg hid

/-- Every entry stands under the id of an issued grant. -/
def EntriesNamed (issued : List CollectiveGrant) (s : Scheduler D) : Prop :=
  ∀ gid gs, s.grants.find? gid = some gs → ∃ g ∈ issued, g.id = gid

theorem Issuance.entriesNamed (h : s.Issuance issued) : s.EntriesNamed issued := by
  intro gid gs hentry
  obtain ⟨hid, hmem⟩ := h.entries gid gs hentry
  exact ⟨gs.grant, hmem, hid⟩

/-- Two records whose current grants have the same id are one record. -/
theorem GrantTable.same_record (h : s.GrantTable issued) (hattributed : s.Attribution issued)
    (hkeyed : s.Keyed) {id id' : CollectiveRequestId} {rec rec' : Record D}
    {g g' : CollectiveGrant} (hfind : s.records.find? id = some rec)
    (hfind' : s.records.find? id' = some rec') (hcur : rec.currentGrant = some g)
    (hcur' : rec'.currentGrant = some g') (hid : g.id = g'.id) : id = id' := by
  obtain ⟨hg, hnames⟩ := (hattributed.records id rec hfind).current g hcur
  obtain ⟨hg', hnames'⟩ := (hattributed.records id' rec' hfind').current g' hcur'
  have heq := h.distinct g hg g' hg' hid
  calc id = rec.request.id := (hkeyed id rec hfind).symm
    _ = g.request := hnames.request.symm
    _ = g'.request := by rw [heq]
    _ = rec'.request.id := hnames'.request
    _ = id' := hkeyed id' rec' hfind'

/-! ## Preservation -/

/-- Rewriting records and keeping the entries of held grants open. -/
theorem GrantTable.rewrite (h : s.GrantTable issued)
    (hrecords : RecordsRewritten Advances s.records s'.records)
    (hnext : s'.nextGrantId = s.nextGrantId)
    (hentries : ∀ gid gs, s.grants.find? gid = some gs → gs.terminal = false →
      ∃ gs', s'.grants.find? gid = some gs' ∧ gs'.terminal = false) : s'.GrantTable issued where
  below g hg := by
    rw [hnext]
    exact h.below g hg
  distinct := h.distinct
  held id rec' g hfind' hholder hcur := by
    obtain ⟨rec, hfind, hrec⟩ := hrecords.find?_new hfind'
    obtain ⟨gs, hentry, hopen⟩ := h.held id rec g hfind (hrec.lifecycle.holder hholder)
      (hrec.currentGrant.symm.trans hcur)
    exact hentries g.id gs hentry hopen

theorem GrantTable.rewritten {R : LifecycleState → LifecycleState → Prop}
    (h : s.GrantTable issued) (hadvances : ∀ {a b}, R a b → Advances a b)
    (hrewritten : Rewritten R s s') : s'.GrantTable issued := by
  refine h.rewrite (hrewritten.records.mono hadvances) hrewritten.nextGrantId
    (fun gid gs hentry hopen => ⟨gs, ?_, hopen⟩)
  rw [hrewritten.grants]
  exact hentry

/-- An entry replaced by one that is as open as it was. -/
theorem find?_insert_open {m : FinMap CollectiveGrantId GrantState} {gid : CollectiveGrantId}
    {gs gs' : GrantState} (hfind : m.find? gid = some gs) (hterm : gs'.terminal = gs.terminal) :
    ∀ gid' gs₀, m.find? gid' = some gs₀ → gs₀.terminal = false →
      ∃ gs₁, (m.insert gid gs').find? gid' = some gs₁ ∧ gs₁.terminal = false := by
  intro gid' gs₀ hentry hopen
  rw [FinMap.find?_insert]
  split_ifs with hid
  · rw [hid, hfind] at hentry
    cases hentry
    exact ⟨gs', rfl, hterm.trans hopen⟩
  · exact ⟨gs₀, hentry, hopen⟩

/-- One record gives up its grant, and only the entry of that grant changes. -/
theorem GrantTable.retire (h : s.GrantTable issued) (hattributed : s.Attribution issued)
    (hkeyed : s.Keyed) {id : CollectiveRequestId} {rec rec' : Record D}
    (hfind : s.records.find? id = some rec) (hrecords : s'.records = s.records.insert id rec')
    (hnot : rec'.lifecycle.isHolder = false) (hnext : s'.nextGrantId = s.nextGrantId)
    (hentries : ∀ gid, (∀ g, rec.currentGrant = some g → g.id ≠ gid) →
      s'.grants.find? gid = s.grants.find? gid) : s'.GrantTable issued where
  below g hg := by
    rw [hnext]
    exact h.below g hg
  distinct := h.distinct
  held id₁ rec₁ g hfind₁ hholder hcur := by
    rw [hrecords, FinMap.find?_insert] at hfind₁
    split_ifs at hfind₁ with hid
    · cases hfind₁
      rw [hnot] at hholder
      cases hholder
    · rw [hentries g.id (fun g' hcur' hgid =>
        hid (h.same_record hattributed hkeyed hfind₁ hfind hcur hcur' hgid.symm))]
      exact h.held id₁ rec₁ g hfind₁ hholder hcur

theorem GrantTable.cancel (h : s.GrantTable issued) (hattributed : s.Attribution issued)
    (hkeyed : s.Keyed) (id : CollectiveRequestId) : (s.cancel id).1.GrantTable issued := by
  rcases s.cancel_cases id with heq | ⟨rec, hfind, -, hcase⟩
  · rw [heq]
    exact h
  · have hnot : rec.cancel.lifecycle.isHolder = false := by
      rw [cancel_lifecycle]
      rfl
    rcases hcase with ⟨-, heq⟩ | ⟨g, gs, hopen, heq⟩
    · rw [heq]
      exact h.retire hattributed hkeyed hfind rfl hnot rfl (fun _ _ => rfl)
    · rw [heq]
      refine h.retire hattributed hkeyed hfind rfl hnot rfl (fun gid hother => ?_)
      exact FinMap.find?_insert_of_ne _ _ (hother g hopen.1).symm

theorem GrantTable.handoffBegin (h : s.GrantTable issued) (g : CollectiveGrant) :
    (s.handoffBegin g).1.GrantTable issued := by
  rcases s.handoffBegin_cases g with heq | ⟨rec, hfind, -, hgranted, -, heq⟩
  · rw [heq]
    exact h
  · rw [heq]
    refine h.rewrite (RecordsRewritten.insert Advances.refl hfind ⟨rfl, rfl, ?_⟩) rfl ?_
    · rw [hgranted]
      exact (Withdraws.hold rfl rfl).advances
    · intro gid gs hentry hopen
      simp only [dispatched, FinMap.find?_modify]
      split_ifs with hid
      · rw [hentry]
        exact ⟨_, rfl, hopen⟩
      · exact ⟨gs, hentry, hopen⟩

theorem GrantTable.handoffEnd (h : s.GrantTable issued) (gc : CollectiveGrant)
    (accepted : Bool) : (s.handoffEnd gc accepted).1.GrantTable issued := by
  rcases s.handoffEnd_cases gc accepted with ⟨-, heq⟩ | ⟨rec, hfind, hcase⟩
  · rw [heq]
    exact h
  · have hrecords := (RecordsRewritten.insert Withdraws.refl hfind
      (landed_withdraws rec accepted)).mono Withdraws.advances
    rcases hcase with ⟨-, heq⟩ | ⟨gs, hentry, ⟨-, heq⟩ | ⟨-, heq⟩⟩
    · rw [heq]
      exact h.rewrite hrecords rfl (fun _ gs hentry hopen => ⟨gs, hentry, hopen⟩)
    · rw [heq]
      exact h.rewrite hrecords rfl (find?_insert_open hentry rfl)
    · rw [heq]
      exact h.rewrite hrecords rfl (find?_insert_open hentry rfl)

theorem GrantTable.handoff (h : s.GrantTable issued) (g : CollectiveGrant) (accepted : Bool) :
    (s.handoff g accepted).1.GrantTable issued := by
  rw [(s.handoff_eq g accepted).1]
  cases (s.handoffBegin g).2 with
  | none => exact h.handoffBegin g
  | some gc => exact (h.handoffBegin g).handoffEnd gc accepted

theorem GrantTable.complete (h : s.GrantTable issued) (hattributed : s.Attribution issued)
    (hkeyed : s.Keyed) (g : CollectiveGrant) (wb : WorkerBootId) (sb : SourceBootId) :
    (s.complete g wb sb).1.GrantTable issued := by
  rcases s.complete_cases g wb sb with heq | ⟨rec, gs, hfind, hentry, hallowed, -, heq⟩
  · rw [heq]
    exact h
  · obtain ⟨-, -, -, ⟨cur, hcur, hid, -⟩, -⟩ := completionAllowed_iff.mp hallowed
    rw [heq]
    refine h.retire hattributed hkeyed hfind rfl rfl rfl (fun gid hother => ?_)
    exact FinMap.find?_insert_of_ne _ _ (fun hgid => hother cur hcur (hid.trans hgid.symm))

/-- Demanding revalidation takes the grant away from a record that holds one. -/
theorem demandRevalidation_not_holder (rec : Record D) :
    rec.demandRevalidation.lifecycle.isHolder = false := by
  cases hrevocable : rec.lifecycle.isRevocable with
  | true =>
      simp only [Record.demandRevalidation, hrevocable, if_true,
        transitionOrKeep_revalidationRequired hrevocable]
      rfl
  | false =>
      simp only [Record.demandRevalidation, hrevocable, Bool.false_eq_true, if_false]
      cases hlife : rec.lifecycle <;> rw [hlife] at hrevocable <;> first | rfl | cases hrevocable

theorem GrantTable.fenceHit (h : s.GrantTable issued) (hattributed : s.Attribution issued)
    (hkeyed : s.Keyed) {rid : CollectiveRequestId} {rec : Record D}
    (hfind : s.records.find? rid = some rec) : (s.fenceHit rid rec).GrantTable issued := by
  refine h.retire hattributed hkeyed hfind (s.fenceHit_records rid rec)
    (demandRevalidation_not_holder rec) ?_ (fun gid hother => ?_)
  · unfold Scheduler.fenceHit
    cases rec.currentGrant with
    | none => rfl
    | some g => exact revokeGrant_nextGrantId _ _
  · unfold Scheduler.fenceHit
    cases hcur : rec.currentGrant with
    | none => rfl
    | some g =>
        simp only [find?_revokeGrant]
        rw [if_neg (fun hgid => hother g hcur hgid.symm)]

theorem Keyed.fenceHit (h : s.Keyed) {rid : CollectiveRequestId} {rec : Record D}
    (hfind : s.records.find? rid = some rec) : (s.fenceHit rid rec).Keyed := by
  refine h.rewritten (R := Revokes) ?_
  rw [fenceHit_records]
  obtain ⟨hrequest, hgrant, hlife⟩ := demandRevalidation_frame rec
  exact RecordsRewritten.insert Revokes.refl hfind ⟨hrequest, hgrant, hlife⟩

theorem GrantTable.fenceWorkerBoot (h : s.GrantTable issued) (hattributed : s.Attribution issued)
    (hkeyed : s.Keyed) (worker : WorkerId) (boot : WorkerBootId)
    (recordOrder : List CollectiveRequestId) :
    (s.fenceWorkerBoot worker boot recordOrder).GrantTable issued := by
  have hfenced := s.fenceParticipants_rewritten worker boot
  have hfence := fenceWorkerBoot_induct
    (P := fun t => t.GrantTable issued ∧ t.Attribution issued ∧ t.Keyed) recordOrder
    ⟨h.rewritten Advances.ofEq hfenced, hattributed.rewritten Advances.ofEq hfenced,
      hkeyed.rewritten hfenced.records⟩
    (fun t rid rec pid hfind _ _ _ ht =>
      ⟨ht.1.fenceHit ht.2.1 ht.2.2 hfind,
        ht.2.1.rewrite ((fenceHit_withdraws hfind).mono Withdraws.advances),
        ht.2.2.fenceHit hfind⟩)
  exact hfence.1

theorem recover_not_holder (rec : Record D) : rec.recover.lifecycle.isHolder = false := by
  simp only [Record.recover, transitionOrForce_eq]
  cases rec.lifecycle <;> decide

theorem GrantTable.reset (h : s.GrantTable issued) :
    s.resetDynamicStateForRecovery.GrantTable issued where
  below := h.below
  distinct := h.distinct
  held id rec' g hfind' hholder _ := by
    have hmap : s.resetDynamicStateForRecovery.records.find? id =
        (s.records.find? id).map (fun rec => rec.recover) := FinMap.find?_mapVals _ _ _
    rw [hmap] at hfind'
    obtain ⟨rec, -, rfl⟩ := Option.map_eq_some_iff.mp hfind'
    rw [recover_not_holder] at hholder
    cases hholder

theorem GrantTable.submit [Double D] (h : s.GrantTable issued) (req : CollectiveRequest D) :
    (s.submit req).1.GrantTable issued := by
  rcases s.submit_cases req with ⟨next, e, heq⟩ | ⟨-, -, heq⟩
  · rw [heq]
    exact ⟨h.below, h.distinct, h.held⟩
  · rw [heq]
    refine ⟨h.below, h.distinct, fun id rec g hfind hholder hcur => ?_⟩
    rcases FinMap.find?_emplace_cases hfind with hfind | ⟨-, -, rfl⟩
    · exact h.held id rec g hfind hholder hcur
    · cases hcur

theorem GrantTable.supersede [Double D] (h : s.GrantTable issued)
    (hattributed : s.Attribution issued) (hkeyed : s.Keyed) (req : CollectiveRequest D) :
    (s.supersede req).1.GrantTable issued := by
  rcases s.supersede_cases req with ⟨e, heq⟩ | ⟨old, hfind, -, -, heq⟩
  · rw [heq]
    exact h
  · rw [heq]
    cases hcur : old.currentGrant with
    | none => exact h.retire hattributed hkeyed hfind rfl rfl rfl (fun _ _ => rfl)
    | some g =>
        have hrecords : (s.releaseForSupersede (some g)).records.insert req.id
            (supersedingRecord old req) = s.records.insert req.id (supersedingRecord old req) := by
          rw [releaseForSupersede_records]
        refine h.retire hattributed hkeyed hfind hrecords rfl ?_ ?_
        · exact revokeGrant_nextGrantId _ _
        · intro gid hother
          simp only [releaseForSupersede, find?_revokeGrant]
          rw [if_neg (fun hgid => hother g hcur hgid.symm)]

/-- No entry waits under the next id. -/
theorem GrantTable.next_absent (h : s.GrantTable issued) (hnamed : s.EntriesNamed issued) :
    s.grants.find? s.nextGrantId = none := by
  cases hentry : s.grants.find? s.nextGrantId with
  | none => rfl
  | some gs =>
      obtain ⟨g, hmem, hid⟩ := hnamed _ gs hentry
      have hlt := h.below g hmem
      rw [hid] at hlt
      exact absurd hlt (lt_irrefl _)

theorem GrantTable.createGrant (h : s.GrantTable issued) (hattributed : s.Attribution issued)
    (hnamed : s.EntriesNamed issued) (hroom : s.nextGrantId.value.toNat < maxValue)
    (id : CollectiveRequestId) (rec : Record D)
    (dec : ScheduleDecision D) :
    (s.createGrant id (promoted rec) dec).1.GrantTable
      (issued ++ [s.grantFor rec.request dec]) := by
  have hmem : ∀ {g : CollectiveGrant}, g ∈ issued ++ [s.grantFor rec.request dec] →
      g ∈ issued ∨ g = s.grantFor rec.request dec := fun hg => by simpa using hg
  have hnew : (s.grantFor rec.request dec).id = s.nextGrantId := rfl
  have habsent := h.next_absent hnamed
  constructor
  case below =>
    intro g hg
    rcases hmem hg with hg | rfl
    · exact lt_of_lt_of_le (h.below g hg) (Id.le_next _)
    · exact Id.lt_next hroom
  case distinct =>
    intro g hg g' hg' hid
    rcases hmem hg with hg | rfl <;> rcases hmem hg' with hg' | rfl
    · exact h.distinct g hg g' hg' hid
    · exact absurd (hid.trans hnew) (h.below g hg).ne
    · exact absurd (hid.symm.trans hnew) (h.below g' hg').ne
    · rfl
  case held =>
    intro id' rec' g hfind' hholder hcur
    simp only [Scheduler.createGrant, FinMap.find?_insert] at hfind'
    split_ifs at hfind' with hid
    · cases hfind'
      cases hcur
      exact ⟨{ grant := s.grantFor (promoted rec).request dec },
        FinMap.find?_emplace_of_none habsent _, rfl⟩
    · obtain ⟨gs, hentry, hopen⟩ := h.held id' rec' g hfind' hholder hcur
      have hne : g.id ≠ (s.grantFor (promoted rec).request dec).id :=
        (h.below g ((hattributed.records id' rec' hfind').current g hcur).1).ne
      exact ⟨gs, (FinMap.find?_emplace_of_ne _ _ hne).trans hentry, hopen⟩

/-- The records, the issued grants and the grant table together. -/
structure Tabled (issued : List CollectiveGrant) (s : Scheduler D) : Prop where
  keyed : s.Keyed
  issuance : s.Issuance issued
  table : s.GrantTable issued

theorem Tabled.rewritten {R : LifecycleState → LifecycleState → Prop} (h : s.Tabled issued)
    (hadvances : ∀ {a b}, R a b → Advances a b) (hrewritten : Rewritten R s s') :
    s'.Tabled issued :=
  ⟨h.keyed.rewritten hrewritten.records, h.issuance.rewritten hadvances hrewritten,
    h.table.rewritten hadvances hrewritten⟩

theorem Tabled.fenceHit (h : s.Tabled issued) {rid : CollectiveRequestId} {rec : Record D}
    (hfind : s.records.find? rid = some rec) : (s.fenceHit rid rec).Tabled issued :=
  ⟨h.keyed.fenceHit hfind, h.issuance.fenceHit hfind,
    h.table.fenceHit h.issuance.attribution h.keyed hfind⟩

/-- The grant-creation loop of a round with room for its ids: every creation finds the
counter below its largest value. -/
theorem createGrants_below [Double D] {P : Scheduler D → List CollectiveGrant → Prop}
    (hkeyed : s.Keyed) (hsettled : s.Settled) {recordOrder : List CollectiveRequestId}
    (hroom : s.FitsSelection recordOrder) (hstart : P s.refreshed issued)
    (hstep : ∀ t grants id rec, t.nextGrantId.value.toNat < maxValue → rec.request.id = id →
      t.records.find? id = some rec → rec.lifecycle = .ready → P t grants →
      P (t.createGrant id (promoted rec) s.openDecision).1
        (grants ++ [t.grantFor rec.request s.openDecision])) :
    P (createGrants s.openDecision s.refreshed (s.selection recordOrder)).1
      (issued ++ (createGrants s.openDecision s.refreshed (s.selection recordOrder)).2) := by
  -- along the loop the counter has advanced by one for each grant created so far
  have hcreated := createGrants_induct
    (P := fun t grants => (t.Keyed ∧ P t grants) ∧
      t.nextGrantId.value.toNat + issued.length = s.nextGrantId.value.toNat + grants.length)
    s.openDecision (s.selection recordOrder) s.refreshed issued
    (fun t grants id rec _ hcount hfind hready ht => by
      obtain ⟨⟨htkeyed, hP⟩, hcounter⟩ := ht
      have hid := htkeyed id rec hfind
      have hspace : t.nextGrantId.value.toNat < maxValue := by
        simp only [FitsSelection] at hroom
        omega
      refine ⟨⟨htkeyed.createGrant _ hid, hstep t grants id rec hspace hid hfind hready hP⟩, ?_⟩
      simp only [Scheduler.createGrant, Id.toNat_next, List.length_append, List.length_singleton]
      omega)
    (nodup_selection hkeyed recordOrder)
    (selection_all_ready hkeyed hsettled recordOrder)
    ⟨⟨hkeyed.rewritten (refreshed_rewritten s).records, hstart⟩,
      by rw [(refreshed_rewritten s).nextGrantId]⟩
  exact hcreated.1.2

/-- What each creation of such a loop keeps in a state with distinct ids, the loop keeps. -/
theorem createGrants_tabled [Double D] {P : Scheduler D → Prop} (h : s.Tabled issued)
    (hsettled : s.Settled) {recordOrder : List CollectiveRequestId}
    (hroom : s.FitsSelection recordOrder) (hstart : P s.refreshed)
    (hstep : ∀ t grants id rec, t.Tabled grants → t.records.find? id = some rec →
      rec.lifecycle = .ready → P t → P (t.createGrant id (promoted rec) s.openDecision).1) :
    (createGrants s.openDecision s.refreshed (s.selection recordOrder)).1.Tabled
        (issued ++ (createGrants s.openDecision s.refreshed (s.selection recordOrder)).2) ∧
      P (createGrants s.openDecision s.refreshed (s.selection recordOrder)).1 := by
  refine createGrants_below (P := fun t grants => t.Tabled grants ∧ P t) h.keyed hsettled hroom
    ⟨h.rewritten Refreshes.advances (refreshed_rewritten s), hstart⟩ ?_
  intro t grants id rec hspace hid hfind hready ⟨htabled, hP⟩
  exact ⟨⟨htabled.keyed.createGrant _ hid, htabled.issuance.createGrant _ hfind hid hready,
    htabled.table.createGrant htabled.issuance.attribution htabled.issuance.entriesNamed hspace id
      rec _⟩, hstep t grants id rec htabled hfind hready hP⟩

theorem EntriesNamed.createGrant (h : s.EntriesNamed issued) (id : CollectiveRequestId)
    (rec : Record D) (dec : ScheduleDecision D) :
    (s.createGrant id (promoted rec) dec).1.EntriesNamed
      (issued ++ [s.grantFor rec.request dec]) := by
  intro gid gs hentry
  rcases FinMap.find?_emplace_cases hentry with hentry | ⟨-, hid, rfl⟩
  · obtain ⟨g, hg, hgid⟩ := h gid gs hentry
    exact ⟨g, List.mem_append_left _ hg, hgid⟩
  · exact ⟨_, List.mem_append_right _ (List.mem_singleton_self _), hid.symm⟩

theorem GrantTable.scheduleRound [Double D] (h : s.GrantTable issued)
    (hattributed : s.Attribution issued) (hnamed : s.EntriesNamed issued) (horderly : s.Orderly)
    {recordOrder : List CollectiveRequestId} (hroom : s.FitsSelection recordOrder)
    {grantOrder : List CollectiveGrantId}
    {dec : ScheduleDecision D} {created : List CollectiveGrant}
    (hround : s.scheduleRound recordOrder grantOrder = (s', .ok (dec, created))) :
    s'.GrantTable (issued ++ created) := by
  have hresult := scheduleRound_ok hround
  have hrefreshed := refreshed_rewritten s
  have hcreated := createGrants_below
    (P := fun t grants => t.GrantTable grants ∧ t.Attribution grants ∧ t.EntriesNamed grants)
    horderly.keyed horderly.settled hroom
    ⟨h.rewritten Refreshes.advances hrefreshed,
      hattributed.rewritten Refreshes.advances hrefreshed, hnamed⟩
    (fun t grants id rec hspace hid hfind hready ⟨htable, hattr, hname⟩ =>
      ⟨htable.createGrant hattr hname hspace id rec _, hattr.createGrant _ hfind hid hready,
        hname.createGrant id rec _⟩)
  rw [hresult.state, hresult.created]
  exact hcreated.1.rewritten Advances.ofEq (closeRound_rewritten _ _ _)

end Scheduler

/-! ## Runs that leave room for grant ids -/

/-- A scheduling round finds an id for every record. -/
def Op.LeavesRoom (y : System D) : Op D → Prop
  | .schedule _ _ => y.sched.HasRoom
  | _ => True

instance (y : System D) (op : Op D) : Decidable (op.LeavesRoom y) := by
  rcases op <;> unfold Op.LeavesRoom <;> infer_instance

/-- A scheduling round finds an id for every request it selects. -/
def Op.FitsSelection [Double D] (y : System D) : Op D → Prop
  | .schedule recordOrder _ => y.sched.FitsSelection recordOrder
  | _ => True

theorem Op.LeavesRoom.fitsSelection [Double D] {y : System D} {op : Op D}
    (h : op.LeavesRoom y) (hkeyed : y.sched.Keyed) : op.FitsSelection y := by
  cases op with
  | schedule recordOrder grantOrder => exact Scheduler.HasRoom.fitsSelection h hkeyed recordOrder
  | _ => trivial

theorem System.next_grantTable_of_fits [Double D] {y : System D} {op : Op D}
    (horderly : y.sched.Orderly) (hattributed : y.sched.Attribution y.issued)
    (hnamed : y.sched.EntriesNamed y.issued) (h : y.sched.GrantTable y.issued)
    (hroom : op.FitsSelection y) : (y.next op).sched.GrantTable (y.next op).issued := by
  have hkeyed := horderly.keyed
  by_cases hquiet : op.isQuiet = true
  · obtain ⟨s, hnext, hrewritten⟩ := y.next_quiet hquiet
    rw [hnext]
    exact h.rewritten Advances.ofEq hrewritten
  cases op with
  | publishParticipant p =>
      exact h.rewritten Revokes.advances (y.sched.publishParticipant_rewritten p)
  | submit req => exact h.submit req
  | supersede req => exact h.supersede hattributed hkeyed req
  | cancel id => exact h.cancel hattributed hkeyed id
  | schedule recordOrder grantOrder =>
      obtain ⟨s, dec, created, hround⟩ :=
        Scheduler.scheduleRound_isOk horderly.settled recordOrder grantOrder
      simp only [next, step, hround]
      exact h.scheduleRound hattributed hnamed horderly hroom hround
  | handoff g accepted => exact h.handoff g accepted
  | handoffBegin g =>
      have hbegin := h.handoffBegin g
      rcases y.sched.handoffBegin_cases g with heq | ⟨rec, -, -, -, -, heq⟩ <;>
        simpa only [next, step, heq] using hbegin
  | handoffEnd g accepted =>
      simp only [next, step]
      split_ifs with hmem
      · exact h.handoffEnd g accepted
      · exact h
  | complete g wb sb => exact h.complete hattributed hkeyed g wb sb
  | fenceWorkerBoot worker boot recordOrder =>
      exact h.fenceWorkerBoot hattributed hkeyed worker boot recordOrder
  | resetDynamicStateForRecovery => exact h.reset
  | _ => exact absurd rfl hquiet

theorem System.Sound.next_grantTable [Double D] {y : System D} {op : Op D} (hsound : y.Sound)
    (h : y.sched.GrantTable y.issued) (hroom : op.FitsSelection y) :
    (y.next op).sched.GrantTable (y.next op).issued :=
  System.next_grantTable_of_fits hsound.orderly hsound.issuance.attribution
    hsound.issuance.entriesNamed h hroom

theorem System.next_grantTable [Double D] {y : System D} {op : Op D} (hsound : y.Sound)
    (h : y.sched.GrantTable y.issued) (hroom : op.LeavesRoom y) :
    (y.next op).sched.GrantTable (y.next op).issued :=
  hsound.next_grantTable h (hroom.fitsSelection hsound.orderly.keyed)

/-! ## Runs whose counter ends below saturation -/

/-- A round moves the counter by one for each request it selects, up to the largest
value. -/
theorem Scheduler.scheduleRound_counter [Double D] {s s' : Scheduler D} (horderly : s.Orderly)
    {recordOrder : List CollectiveRequestId} {grantOrder : List CollectiveGrantId}
    {dec : ScheduleDecision D} {created : List CollectiveGrant}
    (hround : s.scheduleRound recordOrder grantOrder = (s', .ok (dec, created))) :
    s'.nextGrantId.value.toNat =
      min (s.nextGrantId.value.toNat + (s.selection recordOrder).length) maxValue := by
  have hnodup := nodup_selection horderly.keyed recordOrder
  have hready := selection_all_ready horderly.keyed horderly.settled recordOrder
  have hloop := createGrants_induct
    (P := fun t grants =>
      t.nextGrantId.value.toNat = min (s.nextGrantId.value.toNat + grants.length) maxValue)
    s.openDecision (s.selection recordOrder) s.refreshed []
    (fun t grants id rec _ _ _ _ ht => by
      simp only [createGrant, Id.toNat_next, List.length_append, List.length_singleton]
      omega)
    hnodup hready (by
      rw [(refreshed_rewritten s).nextGrantId]
      exact (Nat.min_eq_left (Id.toNat_le_maxValue _)).symm)
  simp only [List.nil_append] at hloop
  rw [length_createGrants s.openDecision hnodup hready] at hloop
  rw [(scheduleRound_ok hround).state, (closeRound_rewritten _ _ _).nextGrantId]
  exact hloop

/-- A call after which the counter is not saturated found the ids it needed. -/
theorem System.fitsSelection_of_next [Double D] {y : System D} {op : Op D}
    (horderly : y.sched.Orderly)
    (h : (y.next op).sched.nextGrantId.value.toNat < maxValue) : op.FitsSelection y := by
  cases op with
  | schedule recordOrder grantOrder =>
      obtain ⟨s, dec, created, hround⟩ :=
        Scheduler.scheduleRound_isOk horderly.settled recordOrder grantOrder
      simp only [next, step, hround] at h
      rw [Scheduler.scheduleRound_counter horderly hround] at h
      simp only [Op.FitsSelection, Scheduler.FitsSelection]
      omega
  | _ => trivial

/-- The counter never goes back, so a run that ends below saturation was below it
all along. -/
theorem InterleavedRun.below [Double D] {y : System D} {ops : List (Op D)}
    (hrun : InterleavedRun y ops)
    (hids : (y.run ops).sched.nextGrantId.value.toNat < maxValue) :
    Runs.Admissible System.next (fun y op => op.UsesIssued y ∧
      (y.next op).sched.nextGrantId.value.toNat < maxValue) y ops := by
  refine hrun.and (Runs.admissible_of_exec
    (Q := fun y : System D => y.sched.nextGrantId.value.toNat < maxValue)
    (fun y op hlater => ?_) hids)
  exact lt_of_le_of_lt (Id.le_def.mp (y.grantStep op).counter) hlater

theorem InterleavedRun.grantTable [Double D] {policy : PolicyConfig D} {epoch : CoordinatorEpoch}
    {ops : List (Op D)} (hrun : InterleavedRun (System.start policy epoch) ops)
    (hids : ((System.start policy epoch).run ops).sched.nextGrantId.value.toNat < maxValue) :
    ((System.start policy epoch).run ops).sched.GrantTable
      ((System.start policy epoch).run ops).issued := by
  have hrun' := Runs.invariant
    (I := fun y : System D => y.Sound ∧ y.sched.GrantTable y.issued)
    (fun y op hy hop => ⟨System.next_sound hy.1 hop.1,
      hy.1.next_grantTable hy.2 (System.fitsSelection_of_next hy.1.orderly hop.2)⟩)
    ⟨System.start_sound policy epoch, Scheduler.GrantTable.fresh policy epoch⟩ (hrun.below hids)
  exact hrun'.2

end CollectiveScheduler
