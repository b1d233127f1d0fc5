/-
  System/Issuance.lean --- issued grants and the records they belong to.

  Callers that only pass grants the scheduler issued cannot confuse two
  generations of a request: a grant names one record at one generation, a record
  is granted at most once per generation, and a record that is granted,
  dispatching or active holds exactly that grant.  No assumption on the number
  of grants is made here, so ids may repeat once the counter has saturated.
-/
import CollectiveScheduler.System.GrantStep

set_option autoImplicit false

namespace CollectiveScheduler

open Foundation LifecycleState

namespace LifecycleState

/-- The states in which a record holds its grant. -/
def isHolder (st : LifecycleState) : Bool := st ∈ [granted, dispatching, active]

/-- A move that neither makes a record pending again nor gives it a grant. -/
structure Advances (a b : LifecycleState) : Prop where
  pending : b.isPending = true → a.isPending = true
  holder : b.isHolder = true → a.isHolder = true

theorem Advances.refl (a : LifecycleState) : Advances a a := ⟨id, id⟩

theorem Advances.ofEq {a b : LifecycleState} (h : a = b) : Advances a b := h ▸ Advances.refl a

theorem Refreshes.advances {a b : LifecycleState} (h : Refreshes a b) : Advances a b := by
  rcases h.moved with rfl | ⟨ha, hb⟩
  · exact Advances.refl _
  · refine ⟨fun _ => ha, fun hholder => ?_⟩
    rcases hb with rfl | rfl | rfl <;> exact absurd hholder (by decide)

theorem Revokes.advances {a b : LifecycleState} (h : Revokes a b) : Advances a b := by
  rcases h with rfl | ⟨-, rfl⟩
  · exact Advances.refl _
  · exact ⟨fun h => absurd h (by decide), fun h => absurd h (by decide)⟩

/-- A move of a call that runs no round: none at all, from one holder to another, or to a
spent state. -/
def Withdraws (a b : LifecycleState) : Prop :=
  b = a ∨ (a.isHolder = true ∧ b.isHolder = true) ∨ b.isSpent = true

theorem Withdraws.refl (a : LifecycleState) : Withdraws a a := .inl rfl

theorem Withdraws.ofEq {a b : LifecycleState} (h : a = b) : Withdraws a b := .inl h.symm

theorem Withdraws.hold {a b : LifecycleState} (ha : a.isHolder = true) (hb : b.isHolder = true) :
    Withdraws a b := .inr (.inl ⟨ha, hb⟩)

theorem Withdraws.leave {a b : LifecycleState} (hb : b.isSpent = true) : Withdraws a b :=
  .inr (.inr hb)

theorem Withdraws.trans {a b c : LifecycleState} (h : Withdraws a b) (h' : Withdraws b c) :
    Withdraws a c := by
  rcases h' with rfl | ⟨hb, hc⟩ | hc
  · exact h
  · rcases h with rfl | ⟨ha, -⟩ | hspent
    · exact .hold hb hc
    · exact .hold ha hc
    · exfalso
      revert hb hspent
      cases b <;> decide
  · exact .leave hc

theorem Withdraws.advances {a b : LifecycleState} (h : Withdraws a b) : Advances a b := by
  rcases h with rfl | ⟨ha, hb⟩ | hb
  · exact Advances.refl _
  · refine ⟨fun hpending => ?_, fun _ => ha⟩
    exfalso
    revert hb hpending
    cases b <;> decide
  · refine ⟨fun hpending => ?_, fun hholder => ?_⟩
    · exfalso
      revert hb hpending
      cases b <;> decide
    · exfalso
      revert hb hholder
      cases b <;> decide

theorem Withdraws.revocable {a b : LifecycleState} (h : Withdraws a b)
    (hb : b.isRevocable = true) : a.isRevocable = true := by
  rcases h with rfl | ⟨ha, -⟩ | hspent
  · exact hb
  · revert ha
    cases a <;> decide
  · exfalso
    revert hb hspent
    cases b <;> decide

theorem Revokes.withdraws {a b : LifecycleState} (h : Revokes a b) : Withdraws a b := by
  rcases h with rfl | ⟨-, rfl⟩
  · exact .refl _
  · exact .leave rfl

end LifecycleState

variable {D : Type}

/-- The grant was created for this request, at this generation. -/
structure CollectiveGrant.Names (g : CollectiveGrant) (req : CollectiveRequest D) : Prop where
  request : g.request = req.id
  requestGen : g.requestGen = req.gen
  collective : g.collective = req.collective
  collectiveGen : g.collectiveGen = req.collectiveGen
  participants : g.participants = req.participants
  participantGens : g.participantGens = req.participantGens

/-- One record against the grants issued so far. -/
structure Record.Issued (issued : List CollectiveGrant) (id : CollectiveRequestId)
    (rec : Record D) : Prop where
  current : ∀ g, rec.currentGrant = some g → g ∈ issued ∧ g.Names rec.request
  bounded : ∀ g ∈ issued, g.request = id → g.requestGen ≤ rec.request.gen
  pending : rec.lifecycle.isPending = true →
    ∀ g ∈ issued, g.request = id → g.requestGen ≠ rec.request.gen
  unique : ∀ g ∈ issued, g.request = id → g.requestGen = rec.request.gen →
    rec.currentGrant = some g ∨ rec.currentGrant = none
  holder : rec.lifecycle.isHolder = true → rec.currentGrant ≠ none

/-- The records against the grants issued so far. -/
structure Scheduler.Attribution (issued : List CollectiveGrant) (s : Scheduler D) : Prop where
  records : ∀ id rec, s.records.find? id = some rec → rec.Issued issued id
  known : ∀ g ∈ issued, ∃ rec, s.records.find? g.request = some rec
  inactive : ∀ g ∈ issued, g.active = false

/-- The records and the grant table against the grants issued so far. -/
structure Scheduler.Issuance (issued : List CollectiveGrant) (s : Scheduler D) : Prop where
  records : ∀ id rec, s.records.find? id = some rec → rec.Issued issued id
  known : ∀ g ∈ issued, ∃ rec, s.records.find? g.request = some rec
  inactive : ∀ g ∈ issued, g.active = false
  entries : ∀ gid gs, s.grants.find? gid = some gs → gs.grant.id = gid ∧ gs.grant ∈ issued

namespace Record.Issued

variable {issued : List CollectiveGrant} {id : CollectiveRequestId} {rec rec' : Record D}
  {g : CollectiveGrant}

/-- A grant for another request is none of this record's. -/
theorem other (h : rec.Issued issued id) (hne : g.request ≠ id) :
    rec.Issued (issued ++ [g]) id := by
  have hold : ∀ {g'}, g' ∈ issued ++ [g] → g'.request = id → g' ∈ issued := by
    intro g' hg' hreq
    rcases List.mem_append.mp hg' with hg' | hg'
    · exact hg'
    · obtain rfl := List.mem_singleton.mp hg'
      exact absurd hreq hne
  constructor
  case current =>
    intro g' hcur
    obtain ⟨hissued, hnames⟩ := h.current g' hcur
    exact ⟨List.mem_append_left _ hissued, hnames⟩
  case bounded => exact fun g' hg' hreq => h.bounded g' (hold hg' hreq) hreq
  case pending => exact fun hpending g' hg' hreq => h.pending hpending g' (hold hg' hreq) hreq
  case unique => exact fun g' hg' hreq => h.unique g' (hold hg' hreq) hreq
  case holder => exact h.holder

/-- A pending record is granted: before, no grant of its generation had been issued. -/
theorem promoted (h : rec.Issued issued id) (hpending : rec.lifecycle.isPending = true)
    (hnames : g.Names rec.request) (hrequest : rec'.request = rec.request)
    (hlife : rec'.lifecycle = .granted) (hcur : rec'.currentGrant = some g) :
    rec'.Issued (issued ++ [g]) id := by
  constructor
  case current =>
    intro g' hcur'
    rw [hcur] at hcur'
    cases hcur'
    rw [hrequest]
    exact ⟨List.mem_append_right _ (List.mem_singleton_self _), hnames⟩
  case bounded =>
    intro g' hg' hreq
    rw [hrequest]
    rcases List.mem_append.mp hg' with hg' | hg'
    · exact h.bounded g' hg' hreq
    · obtain rfl := List.mem_singleton.mp hg'
      exact hnames.requestGen.le
  case pending =>
    intro hstill
    rw [hlife] at hstill
    cases hstill
  case unique =>
    intro g' hg' hreq hgen
    rw [hrequest] at hgen
    rcases List.mem_append.mp hg' with hg' | hg'
    · exact absurd hgen (h.pending hpending g' hg' hreq)
    · obtain rfl := List.mem_singleton.mp hg'
      exact .inl hcur
  case holder =>
    intro _ hnone
    rw [hcur] at hnone
    cases hnone

end Record.Issued

namespace Scheduler

open LifecycleState

variable {s s' : Scheduler D} {issued : List CollectiveGrant}

theorem Issuance.attribution (h : s.Issuance issued) : s.Attribution issued :=
  ⟨h.records, h.known, h.inactive⟩

theorem Attribution.issuance (h : s.Attribution issued)
    (hentries : ∀ gid gs, s.grants.find? gid = some gs →
      gs.grant.id = gid ∧ gs.grant ∈ issued) : s.Issuance issued :=
  ⟨h.records, h.known, h.inactive, hentries⟩

theorem Attribution.fresh (policy : PolicyConfig D) (epoch : CoordinatorEpoch) :
    Attribution [] (Scheduler.fresh policy epoch) where
  records id rec hfind := by cases hfind
  known g hg := absurd hg List.not_mem_nil
  inactive g hg := absurd hg List.not_mem_nil

theorem Issuance.fresh (policy : PolicyConfig D) (epoch : CoordinatorEpoch) :
    Issuance [] (Scheduler.fresh policy epoch) :=
  (Attribution.fresh policy epoch).issuance fun gid gs hfind => by cases hfind

/-- An issued grant of the record's own generation is the one the record holds. -/
theorem Attribution.current_of_holder (h : s.Attribution issued) {g : CollectiveGrant}
    (hg : g ∈ issued) {rec : Record D} (hfind : s.records.find? g.request = some rec)
    (hgen : rec.request.gen = g.requestGen) (hholder : rec.lifecycle.isHolder = true) :
    rec.currentGrant = some g ∧ g.Names rec.request := by
  have hrec := h.records _ rec hfind
  have hcur : rec.currentGrant = some g := by
    rcases hrec.unique g hg rfl hgen.symm with hsome | hnone
    · exact hsome
    · exact absurd hnone (hrec.holder hholder)
  exact ⟨hcur, (hrec.current g hcur).2⟩

theorem Issuance.current_of_holder (h : s.Issuance issued) {g : CollectiveGrant}
    (hg : g ∈ issued) {rec : Record D} (hfind : s.records.find? g.request = some rec)
    (hgen : rec.request.gen = g.requestGen) (hholder : rec.lifecycle.isHolder = true) :
    rec.currentGrant = some g ∧ g.Names rec.request :=
  h.attribution.current_of_holder hg hfind hgen hholder

/-! ## Preservation -/

theorem issued_of_rewritten {rec rec' : Record D} {id : CollectiveRequestId}
    (h : rec.Issued issued id) (hrec : rec.Rewritten Advances rec') : rec'.Issued issued id where
  current g hg := by
    rw [hrec.currentGrant] at hg
    rw [hrec.request]
    exact h.current g hg
  bounded g hg hid := by
    rw [hrec.request]
    exact h.bounded g hg hid
  pending hpending g hg hid := by
    rw [hrec.request]
    exact h.pending (hrec.lifecycle.pending hpending) g hg hid
  unique g hg hid hgen := by
    rw [hrec.request] at hgen
    rw [hrec.currentGrant]
    exact h.unique g hg hid hgen
  holder hholder := by
    rw [hrec.currentGrant]
    exact h.holder (hrec.lifecycle.holder hholder)

theorem Attribution.rewrite (h : s.Attribution issued)
    (hrecords : RecordsRewritten Advances s.records s'.records) : s'.Attribution issued where
  records id rec' hfind' := by
    obtain ⟨rec, hfind, hrec⟩ := hrecords.find?_new hfind'
    exact issued_of_rewritten (h.records id rec hfind) hrec
  known g hg := by
    obtain ⟨rec, hfind⟩ := h.known g hg
    obtain ⟨rec', hfind', -⟩ := hrecords.find? hfind
    exact ⟨rec', hfind'⟩
  inactive := h.inactive

theorem Attribution.rewritten {R : LifecycleState → LifecycleState → Prop}
    (h : s.Attribution issued) (hadvances : ∀ {a b}, R a b → Advances a b)
    (hrewritten : Rewritten R s s') : s'.Attribution issued :=
  h.rewrite (hrewritten.records.mono hadvances)

/-- Rewriting records keeps issuance, as long as every entry still holds an
issued grant of its id. -/
theorem Issuance.rewrite (h : s.Issuance issued)
    (hrecords : RecordsRewritten Advances s.records s'.records)
    (hentries : ∀ gid gs, s'.grants.find? gid = some gs →
      gs.grant.id = gid ∧ gs.grant ∈ issued) : s'.Issuance issued :=
  (h.attribution.rewrite hrecords).issuance hentries

theorem Issuance.rewritten {R : LifecycleState → LifecycleState → Prop}
    (h : s.Issuance issued) (hadvances : ∀ {a b}, R a b → Advances a b)
    (hrewritten : Rewritten R s s') : s'.Issuance issued := by
  refine h.rewrite (hrewritten.records.mono hadvances) ?_
  rw [hrewritten.grants]
  exact h.entries

/-- An entry replaced by one with the same grant. -/
theorem Issuance.entries_insert (h : s.Issuance issued) {gid : CollectiveGrantId}
    {gs gs' : GrantState} (hfind : s.grants.find? gid = some gs) (hgrant : gs'.grant = gs.grant) :
    ∀ gid' gs'', (s.grants.insert gid gs').find? gid' = some gs'' →
      gs''.grant.id = gid' ∧ gs''.grant ∈ issued := by
  intro gid' gs'' hfind'
  rw [FinMap.find?_insert] at hfind'
  split_ifs at hfind' with hid
  · cases hfind'
    rw [hgrant, hid]
    exact h.entries gid gs hfind
  · exact h.entries gid' gs'' hfind'

theorem Issuance.entries_revokeGrant (h : s.Issuance issued) (gid : CollectiveGrantId) :
    ∀ gid' gs, (s.revokeGrant gid).grants.find? gid' = some gs →
      gs.grant.id = gid' ∧ gs.grant ∈ issued := by
  intro gid' gs hfind
  rw [find?_revokeGrant] at hfind
  split_ifs at hfind with hid
  · obtain ⟨gs₀, hfind₀, rfl⟩ := Option.map_eq_some_iff.mp hfind
    exact h.entries gid' gs₀ hfind₀
  · exact h.entries gid' gs hfind

/-- Executing entries after a revocation are the other ones, still indexed. -/
theorem live_revokeGrant (hissuance : s.Issuance issued) {gid gid' : CollectiveGrantId}
    {gs : GrantState} (hlive : (s.revokeGrant gid).Live gid' gs) :
    s.Live gid' gs ∧ gid' ≠ gid ∧ ∀ p, s.activeByParticipant.Lists p gid' →
      (s.revokeGrant gid).activeByParticipant.Lists p gid' := by
  obtain ⟨hfind, hl⟩ := hlive
  rw [find?_revokeGrant] at hfind
  split_ifs at hfind with hid
  · obtain ⟨gs₀, -, rfl⟩ := Option.map_eq_some_iff.mp hfind
    cases hl
  · refine ⟨⟨hfind, hl⟩, hid, fun p hlists => ?_⟩
    unfold revokeGrant
    cases hentry : s.grants.find? gid with
    | none => exact hlists
    | some gs₀ =>
        refine ActiveIndex.lists_deindexActiveGrant.mpr ⟨hlists, ?_⟩
        rintro ⟨-, hgid⟩
        rw [(hissuance.entries gid gs₀ hentry).1] at hgid
        exact hid hgid

/-! ### Cancellation -/

theorem cancel_withdraws (s : Scheduler D) (id : CollectiveRequestId) :
    RecordsRewritten Withdraws s.records (s.cancel id).1.records := by
  rcases s.cancel_cases id with heq | ⟨rec, hfind, -, hcase⟩
  · rw [heq]
    exact RecordsRewritten.refl Withdraws.refl _
  · have hrecords : RecordsRewritten Withdraws s.records (s.records.insert id rec.cancel) := by
      refine RecordsRewritten.insert Withdraws.refl hfind ⟨rfl, rfl, ?_⟩
      rw [Record.cancel, transitionOrForce_eq]
      exact Withdraws.leave rfl
    rcases hcase with ⟨-, heq⟩ | ⟨g, gs, -, heq⟩
    · rw [heq]
      exact hrecords
    · rw [heq]
      exact hrecords

theorem Issuance.cancel (h : s.Issuance issued) (id : CollectiveRequestId) :
    (s.cancel id).1.Issuance issued := by
  refine h.rewrite ((s.cancel_withdraws id).mono Withdraws.advances) ?_
  rcases s.cancel_cases id with heq | ⟨rec, -, -, ⟨-, heq⟩ | ⟨g, gs, hopen, heq⟩⟩
  · rw [heq]
    exact h.entries
  · rw [heq]
    exact h.entries
  · rw [heq]
    exact h.entries_insert hopen.2.1 rfl

/-! ### Handoff -/

theorem handoffBegin_withdraws (s : Scheduler D) (g : CollectiveGrant) :
    RecordsRewritten Withdraws s.records (s.handoffBegin g).1.records := by
  rcases s.handoffBegin_cases g with heq | ⟨rec, hfind, -, hgranted, -, heq⟩
  · rw [heq]
    exact RecordsRewritten.refl Withdraws.refl _
  · rw [heq]
    refine RecordsRewritten.insert Withdraws.refl hfind ⟨rfl, rfl, ?_⟩
    rw [hgranted]
    exact Withdraws.hold rfl rfl

theorem Issuance.handoffBegin (h : s.Issuance issued) {g : CollectiveGrant}
    (hg : s.Dispatches g → g ∈ issued) : (s.handoffBegin g).1.Issuance issued := by
  refine h.rewrite ((s.handoffBegin_withdraws g).mono Withdraws.advances) ?_
  by_cases hpast : s.Dispatches g
  · -- the entry of the grant now holds the caller's copy, which was issued
    obtain ⟨rec, -, -, heq⟩ := handoffBegin_of_dispatches hpast
    rw [heq]
    intro gid gs hentry
    simp only [dispatched, FinMap.find?_modify] at hentry
    split_ifs at hentry with hid
    · obtain ⟨gs₀, -, rfl⟩ := Option.map_eq_some_iff.mp hentry
      exact ⟨hid.symm, hg hpast⟩
    · exact h.entries gid gs hentry
  · rw [handoffBegin_of_not_dispatches hpast]
    exact h.entries

theorem landed_withdraws (rec : Record D) (accepted : Bool) :
    rec.Rewritten Withdraws (landed rec accepted) := by
  refine ⟨rfl, rfl, ?_⟩
  unfold landed
  simp only
  split_ifs with hdisp
  · rw [hdisp.1]
    exact Withdraws.hold rfl rfl
  · exact Withdraws.refl _

theorem handoffEnd_withdraws (s : Scheduler D) (gc : CollectiveGrant) (accepted : Bool) :
    RecordsRewritten Withdraws s.records (s.handoffEnd gc accepted).1.records := by
  rcases s.handoffEnd_cases gc accepted with ⟨-, heq⟩ | ⟨rec, hfind, hcase⟩
  · rw [heq]
    exact RecordsRewritten.refl Withdraws.refl _
  · have hrecords := RecordsRewritten.insert Withdraws.refl hfind (landed_withdraws rec accepted)
    rcases hcase with ⟨-, heq⟩ | ⟨gs, -, ⟨-, heq⟩ | ⟨-, heq⟩⟩
    all_goals
      rw [heq]
      exact hrecords

theorem Issuance.handoffEnd (h : s.Issuance issued) (gc : CollectiveGrant) (accepted : Bool) :
    (s.handoffEnd gc accepted).1.Issuance issued := by
  refine h.rewrite ((s.handoffEnd_withdraws gc accepted).mono Withdraws.advances) ?_
  rcases s.handoffEnd_cases gc accepted with
    ⟨-, heq⟩ | ⟨rec, -, ⟨-, heq⟩ | ⟨gs, hentry, ⟨-, heq⟩ | ⟨-, heq⟩⟩⟩
  · rw [heq]
    exact h.entries
  · rw [heq]
    exact h.entries
  · rw [heq]
    exact h.entries_insert hentry rfl
  · rw [heq]
    exact h.entries_insert hentry rfl

theorem handoff_withdraws (s : Scheduler D) (g : CollectiveGrant) (accepted : Bool) :
    RecordsRewritten Withdraws s.records (s.handoff g accepted).1.records := by
  rw [(s.handoff_eq g accepted).1]
  cases (s.handoffBegin g).2 with
  | none => exact s.handoffBegin_withdraws g
  | some gc =>
      exact (s.handoffBegin_withdraws g).trans Withdraws.trans (handoffEnd_withdraws _ gc accepted)

theorem Issuance.handoff (h : s.Issuance issued) {g : CollectiveGrant}
    (hg : s.Dispatches g → g ∈ issued) (accepted : Bool) :
    (s.handoff g accepted).1.Issuance issued := by
  rw [(s.handoff_eq g accepted).1]
  cases (s.handoffBegin g).2 with
  | none => exact h.handoffBegin hg
  | some gc => exact (h.handoffBegin hg).handoffEnd gc accepted

/-! ### Completion -/

/-- The grant a record holds keeps its value when `complete` clears its flag. -/
theorem Attribution.completedRecord_eq (h : s.Attribution issued) {id : CollectiveRequestId}
    {rec : Record D} (hfind : s.records.find? id = some rec) :
    completedRecord rec = { rec with lifecycle := .completed } := by
  unfold completedRecord
  cases hcur : rec.currentGrant with
  | none => rfl
  | some cur =>
      have hactive := h.inactive cur ((h.records id rec hfind).current cur hcur).1
      rw [Option.map_some, ← hactive]

theorem Attribution.complete_withdraws (h : s.Attribution issued) (g : CollectiveGrant)
    (wb : WorkerBootId) (sb : SourceBootId) :
    RecordsRewritten Withdraws s.records (s.complete g wb sb).1.records := by
  rcases s.complete_cases g wb sb with heq | ⟨rec, gs, hfind, -, -, -, heq⟩
  · rw [heq]
    exact RecordsRewritten.refl Withdraws.refl _
  · rw [heq]
    simp only [completed, h.completedRecord_eq hfind]
    exact RecordsRewritten.insert Withdraws.refl hfind ⟨rfl, rfl, Withdraws.leave rfl⟩

theorem Issuance.complete (h : s.Issuance issued) (g : CollectiveGrant) (wb : WorkerBootId)
    (sb : SourceBootId) : (s.complete g wb sb).1.Issuance issued := by
  refine h.rewrite ((h.attribution.complete_withdraws g wb sb).mono Withdraws.advances) ?_
  rcases s.complete_cases g wb sb with heq | ⟨rec, gs, -, hentry, -, -, heq⟩
  · rw [heq]
    exact h.entries
  · rw [heq]
    exact h.entries_insert hentry rfl

/-! ### Fencing and recovery -/

theorem fenceHit_withdraws {rid : CollectiveRequestId} {rec : Record D}
    (hfind : s.records.find? rid = some rec) :
    RecordsRewritten Withdraws s.records (s.fenceHit rid rec).records := by
  obtain ⟨hrequest, hgrant, hlife⟩ := demandRevalidation_frame rec
  rw [fenceHit_records]
  exact RecordsRewritten.insert Withdraws.refl hfind ⟨hrequest, hgrant, hlife.withdraws⟩

theorem Issuance.fenceHit (h : s.Issuance issued) {rid : CollectiveRequestId} {rec : Record D}
    (hfind : s.records.find? rid = some rec) : (s.fenceHit rid rec).Issuance issued := by
  refine h.rewrite ((fenceHit_withdraws hfind).mono Withdraws.advances) ?_
  have hmarked : Issuance issued
      { s with records := s.records.insert rid rec.demandRevalidation } := by
    obtain ⟨hrequest, hgrant, hlife⟩ := demandRevalidation_frame rec
    exact h.rewrite (RecordsRewritten.insert Advances.refl hfind
      ⟨hrequest, hgrant, hlife.advances⟩) h.entries
  unfold Scheduler.fenceHit
  simp only
  cases rec.currentGrant with
  | none => exact h.entries
  | some g => exact hmarked.entries_revokeGrant g.id

theorem fenceWorkerBoot_withdraws (s : Scheduler D) (worker : WorkerId) (boot : WorkerBootId)
    (recordOrder : List CollectiveRequestId) :
    RecordsRewritten Withdraws s.records (s.fenceWorkerBoot worker boot recordOrder).records :=
  fenceWorkerBoot_induct (P := fun t => RecordsRewritten Withdraws s.records t.records) recordOrder
    ((s.fenceParticipants_rewritten worker boot).records.mono Withdraws.ofEq)
    (fun _ _ _ _ hfind _ _ _ ht => ht.trans Withdraws.trans (fenceHit_withdraws hfind))

theorem Issuance.fenceWorkerBoot (h : s.Issuance issued) (worker : WorkerId)
    (boot : WorkerBootId) (recordOrder : List CollectiveRequestId) :
    (s.fenceWorkerBoot worker boot recordOrder).Issuance issued :=
  fenceWorkerBoot_induct recordOrder
    (h.rewritten Advances.ofEq (s.fenceParticipants_rewritten worker boot))
    (fun _ _ _ _ hfind _ _ _ ht => ht.fenceHit hfind)

theorem Attribution.reset (h : s.Attribution issued) :
    s.resetDynamicStateForRecovery.Attribution issued where
  records id rec' hfind' := by
    have hmap : s.resetDynamicStateForRecovery.records.find? id =
        (s.records.find? id).map (fun rec => rec.recover) := FinMap.find?_mapVals _ _ _
    rw [hmap] at hfind'
    obtain ⟨rec, hfind, rfl⟩ := Option.map_eq_some_iff.mp hfind'
    have hlife : rec.recover.lifecycle.isPending = false ∧
        rec.recover.lifecycle.isHolder = false := by
      simp only [Record.recover, transitionOrForce_eq]
      cases rec.lifecycle <;> decide
    exact
      { current := fun g hg => by cases hg
        bounded := (h.records id rec hfind).bounded
        pending := fun hpending => absurd hpending (by rw [hlife.1]; decide)
        unique := fun _ _ _ _ => .inr rfl
        holder := fun hholder => absurd hholder (by rw [hlife.2]; decide) }
  known g hg := by
    obtain ⟨rec, hfind⟩ := h.known g hg
    refine ⟨rec.recover, ?_⟩
    exact (FinMap.find?_mapVals _ _ _).trans (by rw [hfind, Option.map_some])
  inactive := h.inactive

theorem Issuance.reset (h : s.Issuance issued) :
    s.resetDynamicStateForRecovery.Issuance issued :=
  h.attribution.reset.issuance fun gid gs hfind => by cases hfind

/-! ### New requests -/

/-- A record filed under a new id: no grant was issued for it. -/
theorem Attribution.submit [Double D] (h : s.Attribution issued) (req : CollectiveRequest D) :
    (s.submit req).1.Attribution issued := by
  rcases s.submit_cases req with ⟨next, e, heq⟩ | ⟨-, -, heq⟩
  · rw [heq]
    exact h.rewrite (RecordsRewritten.refl Advances.refl _)
  · rw [heq]
    constructor
    case records =>
      intro id rec hfind
      rcases FinMap.find?_emplace_cases hfind with hfind | ⟨hfree, -, rfl⟩
      · exact h.records id rec hfind
      · have hnone : ∀ g ∈ issued, g.request ≠ id := by
          intro g hg hreq
          obtain ⟨rec, hfind⟩ := h.known g hg
          rw [hreq, hfree] at hfind
          cases hfind
        exact
          { current := fun g hg => by cases hg
            bounded := fun g hg hreq => absurd hreq (hnone g hg)
            pending := fun _ g hg hreq => absurd hreq (hnone g hg)
            unique := fun g hg hreq => absurd hreq (hnone g hg)
            holder := fun hholder => absurd hholder Bool.false_ne_true }
    case known =>
      intro g hg
      obtain ⟨rec, hfind⟩ := h.known g hg
      exact ⟨rec, FinMap.find?_emplace_of_some hfind _ _⟩
    case inactive => exact h.inactive

theorem Issuance.submit [Double D] (h : s.Issuance issued) (req : CollectiveRequest D) :
    (s.submit req).1.Issuance issued := by
  refine (h.attribution.submit req).issuance ?_
  rcases s.submit_cases req with ⟨next, e, heq⟩ | ⟨-, -, heq⟩
  · rw [heq]
    exact h.entries
  · rw [heq]
    exact h.entries

/-- A larger generation: every grant issued for the id is older. -/
theorem Attribution.supersede [Double D] (h : s.Attribution issued) (req : CollectiveRequest D) :
    (s.supersede req).1.Attribution issued := by
  rcases s.supersede_cases req with ⟨e, heq⟩ | ⟨old, hfind, hgen, -, heq⟩
  · rw [heq]
    exact h
  · have hreleased := s.releaseForSupersede_records old.currentGrant
    have holder : ∀ g ∈ issued, g.request = req.id → g.requestGen < req.gen := fun g hg hreq =>
      lt_of_le_of_lt ((h.records _ old hfind).bounded g hg hreq) hgen
    rw [heq]
    constructor
    case records =>
      intro id rec hfind'
      simp only [hreleased, FinMap.find?_insert] at hfind'
      split_ifs at hfind' with hid
      · cases hfind'
        subst hid
        exact
          { current := fun g hg => by cases hg
            bounded := fun g hg hreq => (holder g hg hreq).le
            pending := fun _ g hg hreq => (holder g hg hreq).ne
            unique := fun _ _ _ _ => .inr rfl
            holder := fun hholder => absurd hholder Bool.false_ne_true }
      · exact h.records id rec hfind'
    case known =>
      intro g hg
      obtain ⟨rec, hfind'⟩ := h.known g hg
      simp only [hreleased, FinMap.find?_insert]
      split_ifs with hid
      · exact ⟨_, rfl⟩
      · exact ⟨rec, hfind'⟩
    case inactive => exact h.inactive

theorem Issuance.supersede [Double D] (h : s.Issuance issued) (req : CollectiveRequest D) :
    (s.supersede req).1.Issuance issued := by
  refine (h.attribution.supersede req).issuance ?_
  rcases s.supersede_cases req with ⟨e, heq⟩ | ⟨old, -, -, -, heq⟩
  · rw [heq]
    exact h.entries
  · rw [heq]
    cases old.currentGrant with
    | none => exact h.entries
    | some g => exact h.entries_revokeGrant g.id

/-! ### Scheduling rounds -/

/-- One grant created for a READY record. -/
theorem Attribution.createGrant (h : s.Attribution issued) {id : CollectiveRequestId}
    {rec : Record D} (dec : ScheduleDecision D) (hfind : s.records.find? id = some rec)
    (hkeyed : rec.request.id = id) (hready : rec.lifecycle = .ready) :
    (s.createGrant id (promoted rec) dec).1.Attribution
      (issued ++ [s.grantFor rec.request dec]) := by
  constructor
  case records =>
    intro id' rec' hfind'
    simp only [Scheduler.createGrant, FinMap.find?_insert] at hfind'
    split_ifs at hfind' with hid
    · cases hfind'
      subst hid
      exact (h.records id' rec hfind).promoted (by rw [hready]; rfl) ⟨rfl, rfl, rfl, rfl, rfl, rfl⟩
        rfl rfl rfl
    · exact (h.records id' rec' hfind').other fun heq => hid (heq.symm.trans hkeyed)
  case known =>
    intro g hg
    simp only [Scheduler.createGrant, FinMap.find?_insert]
    split_ifs with hid
    · exact ⟨_, rfl⟩
    · rcases List.mem_append.mp hg with hg | hg
      · exact h.known g hg
      · obtain rfl := List.mem_singleton.mp hg
        exact absurd hkeyed hid
  case inactive =>
    intro g hg
    rcases List.mem_append.mp hg with hg | hg
    · exact h.inactive g hg
    · obtain rfl := List.mem_singleton.mp hg
      rfl

theorem Issuance.createGrant (h : s.Issuance issued) {id : CollectiveRequestId}
    {rec : Record D} (dec : ScheduleDecision D) (hfind : s.records.find? id = some rec)
    (hkeyed : rec.request.id = id) (hready : rec.lifecycle = .ready) :
    (s.createGrant id (promoted rec) dec).1.Issuance
      (issued ++ [s.grantFor rec.request dec]) := by
  refine (h.attribution.createGrant dec hfind hkeyed hready).issuance fun gid gs hentry => ?_
  rcases FinMap.find?_emplace_cases hentry with hentry | ⟨-, hid, rfl⟩
  · obtain ⟨hgid, hissued⟩ := h.entries gid gs hentry
    exact ⟨hgid, List.mem_append_left _ hissued⟩
  · exact ⟨hid.symm, List.mem_append_right _ (List.mem_singleton_self _)⟩

theorem Keyed.createGrant (h : s.Keyed) {id : CollectiveRequestId} {rec : Record D}
    (dec : ScheduleDecision D) (hkeyed : rec.request.id = id) :
    (s.createGrant id rec dec).1.Keyed := by
  intro id' rec' hfind'
  simp only [Scheduler.createGrant, FinMap.find?_insert] at hfind'
  split_ifs at hfind' with hid
  · cases hfind'
    exact hkeyed.trans hid.symm
  · exact h id' rec' hfind'

/-- What every creation keeps that speaks of the grants created so far, a round keeps. -/
theorem scheduleRound_induct [Double D] {P : List CollectiveGrant → Scheduler D → Prop}
    (issued : List CollectiveGrant) (horderly : s.Orderly)
    (hrewritten : ∀ {t t' : Scheduler D} {grants} {R : LifecycleState → LifecycleState → Prop},
      (∀ {a b}, R a b → Advances a b) → Rewritten R t t' → P grants t → P grants t')
    (hcreate : ∀ {t : Scheduler D} {grants id rec}, t.records.find? id = some rec →
      rec.request.id = id → rec.lifecycle = .ready → P grants t →
      P (grants ++ [t.grantFor rec.request s.openDecision])
        (t.createGrant id (promoted rec) s.openDecision).1)
    (h : P issued s) {recordOrder : List CollectiveRequestId}
    {grantOrder : List CollectiveGrantId} {dec : ScheduleDecision D}
    {created : List CollectiveGrant}
    (hround : s.scheduleRound recordOrder grantOrder = (s', .ok (dec, created))) :
    P (issued ++ created) s' := by
  have hresult := scheduleRound_ok hround
  have hrefreshed := refreshed_rewritten s
  have hcreated := createGrants_induct
    (P := fun t grants => P grants t ∧ t.Keyed)
    s.openDecision (s.selection recordOrder) s.refreshed issued
    (fun t grants id rec _ _ hfind hready ht =>
      ⟨hcreate hfind (ht.2 id rec hfind) hready ht.1, ht.2.createGrant _ (ht.2 id rec hfind)⟩)
    (nodup_selection horderly.keyed recordOrder)
    (selection_all_ready horderly.keyed horderly.settled recordOrder)
    ⟨hrewritten Refreshes.advances hrefreshed h, horderly.keyed.rewritten hrefreshed.records⟩
  rw [hresult.state, hresult.created]
  exact hrewritten Advances.ofEq (closeRound_rewritten _ _ _) hcreated.1

theorem Attribution.scheduleRound [Double D] (h : s.Attribution issued) (horderly : s.Orderly)
    {recordOrder : List CollectiveRequestId} {grantOrder : List CollectiveGrantId}
    {dec : ScheduleDecision D} {created : List CollectiveGrant}
    (hround : s.scheduleRound recordOrder grantOrder = (s', .ok (dec, created))) :
    s'.Attribution (issued ++ created) :=
  scheduleRound_induct (P := Attribution) issued horderly
    (fun hadvances hrewritten ht => ht.rewritten hadvances hrewritten)
    (fun hfind hid hready ht => ht.createGrant _ hfind hid hready) h hround

theorem Issuance.scheduleRound [Double D] (h : s.Issuance issued) (horderly : s.Orderly)
    {recordOrder : List CollectiveRequestId} {grantOrder : List CollectiveGrantId}
    {dec : ScheduleDecision D} {created : List CollectiveGrant}
    (hround : s.scheduleRound recordOrder grantOrder = (s', .ok (dec, created))) :
    s'.Issuance (issued ++ created) :=
  scheduleRound_induct (P := Issuance) issued horderly
    (fun hadvances hrewritten ht => ht.rewritten hadvances hrewritten)
    (fun hfind hid hready ht => ht.createGrant _ hfind hid hready) h hround

end Scheduler

/-! ## Runs with issued grants -/

namespace Op

/-- The call files no request, runs no round and is not the reset. -/
def rewritesRecords : Op D → Bool
  | .submit _ => false
  | .supersede _ => false
  | op => op.updatesEntries

theorem updatesEntries_of_rewritesRecords {op : Op D} (h : op.rewritesRecords = true) :
    op.updatesEntries = true := by
  cases op <;> first | rfl | cases h

/-- The grant a call hands off. -/
def handoffArgument : Op D → Option CollectiveGrant
  | .handoff g _ => some g
  | .handoffBegin g => some g
  | _ => none

/-- A grant that gets past the checks of a handoff was issued. -/
def HandsOffIssued (y : System D) (op : Op D) : Prop :=
  ∀ g ∈ op.handoffArgument, y.sched.Dispatches g → g ∈ y.issued

instance (y : System D) (op : Op D) : Decidable (op.HandsOffIssued y) :=
  inferInstanceAs (Decidable (∀ g ∈ op.handoffArgument, y.sched.Dispatches g → g ∈ y.issued))

theorem UsesIssued.handsOffIssued {y : System D} {op : Op D} (h : op.UsesIssued y) :
    op.HandsOffIssued y := by
  cases op with
  | handoff g accepted => exact fun g' hg' _ => h g' hg'
  | handoffBegin g => exact fun g' hg' _ => h g' hg'
  | _ => exact fun g' hg' => by cases hg'

end Op

/-- What holds between calls as long as callers pass issued grants. -/
structure System.Sound (y : System D) : Prop where
  orderly : y.sched.Orderly
  issuance : y.sched.Issuance y.issued
  inFlight : ∀ g ∈ y.inFlight, g ∈ y.issued

namespace System

variable [Double D]

omit [Double D] in
theorem start_sound (policy : PolicyConfig D) (epoch : CoordinatorEpoch) :
    (start policy epoch).Sound where
  orderly := start_orderly policy epoch
  issuance := Scheduler.Issuance.fresh policy epoch
  inFlight _ hg := absurd hg List.not_mem_nil

/-- Whatever grants the callers pass, a call that files no request, runs no round and is
not the reset only rewrites records. -/
theorem next_withdraws {y : System D} (h : y.sched.Attribution y.issued) {op : Op D}
    (hop : op.rewritesRecords = true) :
    RecordsRewritten Withdraws y.sched.records (y.next op).sched.records := by
  by_cases hquiet : op.isQuiet = true
  · obtain ⟨s, hnext, hrewritten⟩ := y.next_quiet hquiet
    rw [hnext]
    exact hrewritten.records.mono Withdraws.ofEq
  cases op with
  | publishParticipant p =>
      exact (y.sched.publishParticipant_rewritten p).records.mono Revokes.withdraws
  | cancel id => exact y.sched.cancel_withdraws id
  | handoff g accepted => exact y.sched.handoff_withdraws g accepted
  | handoffBegin g =>
      rw [sched_next_handoffBegin]
      exact y.sched.handoffBegin_withdraws g
  | handoffEnd g accepted =>
      rw [sched_next_handoffEnd]
      split_ifs
      · exact y.sched.handoffEnd_withdraws g accepted
      · exact RecordsRewritten.refl Withdraws.refl _
  | complete g wb sb => exact h.complete_withdraws g wb sb
  | fenceWorkerBoot worker boot recordOrder =>
      exact y.sched.fenceWorkerBoot_withdraws worker boot recordOrder
  | submit | supersede | schedule | resetDynamicStateForRecovery => cases hop
  | _ => exact absurd rfl hquiet

theorem next_advances {y : System D} (h : y.sched.Attribution y.issued) {op : Op D}
    (hop : op.rewritesRecords = true) :
    RecordsRewritten Advances y.sched.records (y.next op).sched.records :=
  (next_withdraws h hop).mono Withdraws.advances

theorem issued_next_of_updatesEntries {y : System D} {op : Op D}
    (hop : op.updatesEntries = true) : (y.next op).issued = y.issued := by
  rcases y.issued_next op with hsame | ⟨recordOrder, grantOrder, _, _, _, rfl, -, -⟩
  · exact hsame
  · cases hop

/-- Whatever grants the callers pass, the records stand in the same relation to the issued
ones. -/
theorem next_attribution {y : System D} (horderly : y.sched.Orderly)
    (h : y.sched.Attribution y.issued) (op : Op D) :
    (y.next op).sched.Attribution (y.next op).issued := by
  by_cases hop : op.rewritesRecords = true
  · rw [issued_next_of_updatesEntries (Op.updatesEntries_of_rewritesRecords hop)]
    exact h.rewrite (next_advances h hop)
  cases op with
  | submit req => exact h.submit req
  | supersede req => exact h.supersede req
  | schedule recordOrder grantOrder =>
      obtain ⟨s, dec, created, hround⟩ :=
        Scheduler.scheduleRound_isOk horderly.settled recordOrder grantOrder
      simp only [next, step, hround]
      exact h.scheduleRound horderly hround
  | resetDynamicStateForRecovery => exact h.reset
  | _ => exact absurd rfl hop

/-- As long as a grant that gets past the checks of a handoff was issued, the entries hold
issued grants. -/
theorem next_issuance {y : System D} {op : Op D} (horderly : y.sched.Orderly)
    (h : y.sched.Issuance y.issued) (hop : op.HandsOffIssued y) :
    (y.next op).sched.Issuance (y.next op).issued := by
  by_cases hquiet : op.isQuiet = true
  · obtain ⟨s, hnext, hrewritten⟩ := y.next_quiet hquiet
    rw [hnext]
    exact h.rewritten Advances.ofEq hrewritten
  cases op with
  | publishParticipant p =>
      exact h.rewritten Revokes.advances (y.sched.publishParticipant_rewritten p)
  | submit req => exact h.submit req
  | supersede req => exact h.supersede req
  | cancel id => exact h.cancel id
  | schedule recordOrder grantOrder =>
      obtain ⟨s, dec, created, hround⟩ :=
        Scheduler.scheduleRound_isOk horderly.settled recordOrder grantOrder
      simp only [next, step, hround]
      exact h.scheduleRound horderly hround
  | handoff g accepted => exact h.handoff (hop g rfl) accepted
  | handoffBegin g =>
      rw [sched_next_handoffBegin, issued_next_of_updatesEntries rfl]
      exact h.handoffBegin (hop g rfl)
  | handoffEnd g accepted =>
      rw [sched_next_handoffEnd, issued_next_of_updatesEntries rfl]
      split_ifs
      · exact h.handoffEnd g accepted
      · exact h
  | complete g wb sb => exact h.complete g wb sb
  | fenceWorkerBoot worker boot recordOrder => exact h.fenceWorkerBoot worker boot recordOrder
  | resetDynamicStateForRecovery => exact h.reset
  | _ => exact absurd rfl hquiet

/-- The handoffs under way are of issued grants, as long as those that begin are. -/
theorem next_inFlight {y : System D} {op : Op D} (hop : op.UsesIssued y)
    (h : ∀ g ∈ y.inFlight, g ∈ y.issued) :
    ∀ g ∈ (y.next op).inFlight, g ∈ (y.next op).issued := by
  cases op with
  | schedule recordOrder grantOrder =>
      unfold next step
      simp only
      split
      · exact fun g hg => List.mem_append_left _ (h g hg)
      · exact h
  | handoffBegin g =>
      rw [issued_next_of_updatesEntries rfl]
      rcases y.sched.handoffBegin_cases g with heq | ⟨rec, -, -, -, -, heq⟩
      · simp only [next, step, heq]
        exact h
      · simp only [next, step, heq]
        intro g' hg'
        rcases List.mem_cons.mp hg' with rfl | hg'
        · exact hop g' rfl
        · exact h g' hg'
  | handoffEnd g accepted =>
      rw [issued_next_of_updatesEntries rfl]
      unfold next step
      simp only
      split_ifs
      · exact fun g' hg' => h g' (List.mem_of_mem_erase hg')
      · exact h
  | _ => exact h

theorem next_sound {y : System D} {op : Op D} (h : y.Sound) (hop : op.UsesIssued y) :
    (y.next op).Sound where
  orderly := next_orderly op h.orderly
  issuance := next_issuance h.orderly h.issuance hop.handsOffIssued
  inFlight := next_inFlight hop h.inFlight

/-- A completion is checked against the record and the entry, so its argument need not
be an issued grant. -/
theorem complete_sound {y : System D} (h : y.Sound) (g : CollectiveGrant) (wb : WorkerBootId)
    (sb : SourceBootId) : (y.next (.complete g wb sb)).Sound :=
  ⟨next_orderly _ h.orderly, h.issuance.complete g wb sb, h.inFlight⟩

end System

theorem AtomicRun.interleaved [Double D] {y : System D} {ops : List (Op D)}
    (h : AtomicRun y ops) : InterleavedRun y ops :=
  h.mono fun _ _ hop => hop.2

theorem InterleavedRun.sound [Double D] {policy : PolicyConfig D} {epoch : CoordinatorEpoch}
    {ops : List (Op D)} (h : InterleavedRun (System.start policy epoch) ops) :
    ((System.start policy epoch).run ops).Sound :=
  Runs.invariant (I := System.Sound) (fun _ _ hy hop => System.next_sound hy hop)
    (System.start_sound policy epoch) h

end CollectiveScheduler
