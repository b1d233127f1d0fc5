/-
  Properties/OutstandingGrant.lean --- at most one grant of a request is outstanding.

  A round creates grants; a cancellation, a completion, a supersession, a fence and a
  reset retire them.  A record that lost its evidence keeps its open entry.  While every
  grant has an id of its own, an open entry holds the current grant of the record it
  names, so a request has at most one open entry
  (`outstanding_grant_is_current`).
-/
import CollectiveScheduler.System.GrantTable
import CollectiveScheduler.System.Scenario

set_option autoImplicit false

namespace CollectiveScheduler

open Foundation LifecycleState

variable {D : Type}

/-- Every open entry holds the current grant of the record it names. -/
def Scheduler.Outstanding (s : Scheduler D) : Prop :=
  ∀ gid gs, s.grants.find? gid = some gs → gs.terminal = false →
    ∃ rec, s.records.find? gs.grant.request = some rec ∧ rec.currentGrant = some gs.grant

namespace Scheduler.Outstanding

variable {s s' : Scheduler D} {issued : List CollectiveGrant}

theorem fresh (policy : PolicyConfig D) (epoch : CoordinatorEpoch) :
    (Scheduler.fresh policy epoch).Outstanding := by
  intro gid gs hentry
  cases hentry

/-! ## Preservation -/

/-- Rewriting records keeps their grants; the open entries are older open entries. -/
theorem rewrite {R : LifecycleState → LifecycleState → Prop} (h : s.Outstanding)
    (hrecords : RecordsRewritten R s.records s'.records)
    (hentries : ∀ gid gs', s'.grants.find? gid = some gs' → gs'.terminal = false →
      ∃ gs, s.grants.find? gid = some gs ∧ gs.terminal = false ∧ gs'.grant = gs.grant) :
    s'.Outstanding := by
  intro gid gs' hentry' hopen'
  obtain ⟨gs, hentry, hopen, hgrant⟩ := hentries gid gs' hentry' hopen'
  obtain ⟨rec, hfind, hcur⟩ := h gid gs hentry hopen
  obtain ⟨rec', hfind', hrec⟩ := hrecords.find? hfind
  rw [hgrant]
  exact ⟨rec', hfind', hrec.currentGrant.trans hcur⟩

theorem rewritten {R : LifecycleState → LifecycleState → Prop} (h : s.Outstanding)
    (hrewritten : Rewritten R s s') : s'.Outstanding := by
  refine h.rewrite hrewritten.records fun gid gs hentry hopen => ⟨gs, ?_, hopen, rfl⟩
  rw [← hrewritten.grants]
  exact hentry

/-- One record changes at will, once the entry of its grant is closed. -/
theorem retire (h : s.Outstanding) (hissuance : s.Issuance issued) {id : CollectiveRequestId}
    {rec rec' : Record D} (hfind : s.records.find? id = some rec)
    (hrecords : s'.records = s.records.insert id rec')
    (hentries : ∀ gid gs, s'.grants.find? gid = some gs → gs.terminal = false →
      s.grants.find? gid = some gs ∧ ∀ g, rec.currentGrant = some g → g.id ≠ gid) :
    s'.Outstanding := by
  intro gid gs hentry' hopen
  obtain ⟨hentry, hother⟩ := hentries gid gs hentry' hopen
  obtain ⟨r, hr, hcur⟩ := h gid gs hentry hopen
  refine ⟨r, ?_, hcur⟩
  rw [hrecords, FinMap.find?_insert]
  split_ifs with hid
  · rw [hid, hfind] at hr
    cases hr
    exact absurd (hissuance.entries gid gs hentry).1 (hother gs.grant hcur)
  · exact hr

/-- An entry replaced by one for the same grant, which is closed if it was. -/
theorem entries_insert {gid₀ : CollectiveGrantId} {gs₀ gs₁ : GrantState}
    (hentry₀ : s.grants.find? gid₀ = some gs₀) (hgrant : gs₁.grant = gs₀.grant)
    (hterminal : gs₁.terminal = false → gs₀.terminal = false) :
    ∀ gid gs', (s.grants.insert gid₀ gs₁).find? gid = some gs' → gs'.terminal = false →
      ∃ gs, s.grants.find? gid = some gs ∧ gs.terminal = false ∧ gs'.grant = gs.grant := by
  intro gid gs' hentry' hopen'
  rw [FinMap.find?_insert] at hentry'
  split_ifs at hentry' with hid
  · cases hentry'
    rw [hid]
    exact ⟨gs₀, hentry₀, hterminal hopen', hgrant⟩
  · exact ⟨gs', hentry', hopen', rfl⟩

theorem cancel (h : s.Outstanding) (id : CollectiveRequestId) : (s.cancel id).1.Outstanding := by
  rcases s.cancel_cases id with heq | ⟨rec, hfind, -, hcase⟩
  · rw [heq]
    exact h
  · have hrecords : RecordsRewritten (fun _ _ => True) s.records
        (s.records.insert id rec.cancel) :=
      RecordsRewritten.insert (fun _ => trivial) hfind ⟨rfl, rfl, trivial⟩
    rcases hcase with ⟨-, heq⟩ | ⟨g, gs, hopen, heq⟩
    · rw [heq]
      exact h.rewrite hrecords fun gid gs hentry hopen => ⟨gs, hentry, hopen, rfl⟩
    · rw [heq]
      exact h.rewrite hrecords (entries_insert hopen.2.1 rfl (fun hfalse => by cases hfalse))

/-- The first section of a handoff stores its argument in the entry, which holds that
grant already. -/
theorem handoffBegin (h : s.Outstanding) (hissuance : s.Issuance issued)
    (htable : s.GrantTable issued) {g : CollectiveGrant} (hg : g ∈ issued) :
    (s.handoffBegin g).1.Outstanding := by
  rcases s.handoffBegin_cases g with heq | ⟨rec, hfind, -, -, -, heq⟩
  · rw [heq]
    exact h
  · rw [heq]
    refine h.rewrite (R := fun _ _ => True)
      (RecordsRewritten.insert (fun _ => trivial) hfind ⟨rfl, rfl, trivial⟩) ?_
    intro gid gs' hentry' hopen'
    simp only [dispatched, FinMap.find?_modify] at hentry'
    split_ifs at hentry' with hid
    · obtain ⟨gs, hentry, rfl⟩ := Option.map_eq_some_iff.mp hentry'
      rw [hid] at hentry ⊢
      exact ⟨gs, hentry, hopen', (htable.entry_grant hissuance hg hentry).symm⟩
    · exact ⟨gs', hentry', hopen', rfl⟩

theorem handoffEnd (h : s.Outstanding) (gc : CollectiveGrant) (accepted : Bool) :
    (s.handoffEnd gc accepted).1.Outstanding := by
  rcases s.handoffEnd_cases gc accepted with ⟨-, heq⟩ | ⟨rec, hfind, hcase⟩
  · rw [heq]
    exact h
  · have hrecords : RecordsRewritten (fun _ _ => True) s.records
        (s.records.insert gc.request (landed rec accepted)) :=
      RecordsRewritten.insert (fun _ => trivial) hfind ⟨rfl, rfl, trivial⟩
    rcases hcase with ⟨-, heq⟩ | ⟨gs, hentry, ⟨-, heq⟩ | ⟨-, heq⟩⟩
    · rw [heq]
      exact h.rewrite hrecords fun gid gs hentry hopen => ⟨gs, hentry, hopen, rfl⟩
    · rw [heq]
      exact h.rewrite hrecords (entries_insert hentry rfl (fun hopen => hopen))
    · rw [heq]
      exact h.rewrite hrecords (entries_insert hentry rfl (fun hopen => hopen))

theorem handoff (h : s.Outstanding) (hissuance : s.Issuance issued)
    (htable : s.GrantTable issued) {g : CollectiveGrant} (hg : g ∈ issued) (accepted : Bool) :
    (s.handoff g accepted).1.Outstanding := by
  have hbegin := h.handoffBegin hissuance htable hg
  rw [(s.handoff_eq g accepted).1]
  cases (s.handoffBegin g).2 with
  | none => exact hbegin
  | some gc => exact hbegin.handoffEnd gc accepted

theorem complete (h : s.Outstanding) (hissuance : s.Issuance issued) (g : CollectiveGrant)
    (wb : WorkerBootId) (sb : SourceBootId) : (s.complete g wb sb).1.Outstanding := by
  rcases s.complete_cases g wb sb with heq | ⟨rec, gs, hfind, -, hallowed, -, heq⟩
  · rw [heq]
    exact h
  · obtain ⟨-, -, -, ⟨cur, hcur, hid, -⟩, -⟩ := completionAllowed_iff.mp hallowed
    rw [heq]
    refine h.retire hissuance hfind rfl fun gid gs' hentry' hopen' => ?_
    simp only [completed, FinMap.find?_insert] at hentry'
    split_ifs at hentry' with hgid
    · cases hentry'
      cases hopen'
    · refine ⟨hentry', fun g' hcur' hgid' => hgid ?_⟩
      rw [hcur] at hcur'
      cases hcur'
      exact hgid'.symm.trans hid

theorem fenceHit (h : s.Outstanding) {rid : CollectiveRequestId} {rec : Record D}
    (hfind : s.records.find? rid = some rec) : (s.fenceHit rid rec).Outstanding := by
  obtain ⟨hrequest, hgrant, hlife⟩ := demandRevalidation_frame rec
  have hrecords : RecordsRewritten Revokes s.records (s.fenceHit rid rec).records := by
    rw [fenceHit_records]
    exact RecordsRewritten.insert Revokes.refl hfind ⟨hrequest, hgrant, hlife⟩
  refine h.rewrite hrecords fun gid gs' hentry' hopen' => ?_
  unfold Scheduler.fenceHit at hentry'
  cases hcur : rec.currentGrant with
  | none =>
      rw [hcur] at hentry'
      exact ⟨gs', hentry', hopen', rfl⟩
  | some g =>
      rw [hcur] at hentry'
      simp only [find?_revokeGrant] at hentry'
      split_ifs at hentry' with hid
      · obtain ⟨gs, -, rfl⟩ := Option.map_eq_some_iff.mp hentry'
        cases hopen'
      · exact ⟨gs', hentry', hopen', rfl⟩

theorem fenceWorkerBoot (h : s.Outstanding) (worker : WorkerId) (boot : WorkerBootId)
    (recordOrder : List CollectiveRequestId) :
    (s.fenceWorkerBoot worker boot recordOrder).Outstanding :=
  fenceWorkerBoot_induct (P := Outstanding) recordOrder
    (h.rewritten (s.fenceParticipants_rewritten worker boot))
    (fun _ _ _ _ hfind _ _ _ ht => ht.fenceHit hfind)

theorem reset (s : Scheduler D) : s.resetDynamicStateForRecovery.Outstanding := by
  intro gid gs hentry
  cases hentry

theorem submit [Double D] (h : s.Outstanding) (req : CollectiveRequest D) :
    (s.submit req).1.Outstanding := by
  rcases s.submit_cases req with ⟨next, e, heq⟩ | ⟨-, -, heq⟩
  · rw [heq]
    exact h
  · rw [heq]
    intro gid gs hentry hopen
    obtain ⟨rec, hfind, hcur⟩ := h gid gs hentry hopen
    exact ⟨rec, FinMap.find?_emplace_of_some hfind _ _, hcur⟩

theorem supersede [Double D] (h : s.Outstanding) (hissuance : s.Issuance issued)
    (req : CollectiveRequest D) : (s.supersede req).1.Outstanding := by
  rcases s.supersede_cases req with ⟨e, heq⟩ | ⟨old, hfind, -, -, heq⟩
  · rw [heq]
    exact h
  · rw [heq]
    cases hcur : old.currentGrant with
    | none =>
        refine h.retire hissuance hfind rfl fun gid gs hentry _ => ⟨hentry, fun g hcur' => ?_⟩
        rw [hcur] at hcur'
        cases hcur'
    | some g =>
        refine h.retire hissuance hfind
          (congrArg (FinMap.insert · req.id _) (revokeGrant_records s g.id)) ?_
        intro gid gs hentry hopen
        simp only [releaseForSupersede, find?_revokeGrant] at hentry
        split_ifs at hentry with hgid
        · obtain ⟨gs₀, -, rfl⟩ := Option.map_eq_some_iff.mp hentry
          cases hopen
        · refine ⟨hentry, fun g' hcur' hgid' => hgid ?_⟩
          rw [hcur] at hcur'
          cases hcur'
          exact hgid'.symm

/-- A record that is granted has no open entry: a READY record holds no grant of its
generation. -/
theorem createGrant (h : s.Outstanding) (htabled : s.Tabled issued)
    {id : CollectiveRequestId} {rec : Record D} (hfind : s.records.find? id = some rec)
    (hready : rec.lifecycle = .ready) (dec : ScheduleDecision D) :
    (s.createGrant id (promoted rec) dec).1.Outstanding := by
  intro gid gs hentry hopen
  rcases FinMap.find?_emplace_cases hentry with hentry | ⟨-, -, rfl⟩
  · obtain ⟨r, hr, hcur⟩ := h gid gs hentry hopen
    have hne : gs.grant.request ≠ id := by
      intro hid
      rw [hid, hfind] at hr
      cases hr
      have hissued := htabled.issuance.records id rec hfind
      obtain ⟨hmem, hnames⟩ := hissued.current gs.grant hcur
      exact hissued.pending (by rw [hready]; rfl) gs.grant hmem hid hnames.requestGen
    refine ⟨r, ?_, hcur⟩
    rw [find?_createGrant_of_ne s _ _ hne]
    exact hr
  · have hkey : (s.grantFor (promoted rec).request dec).request = id := htabled.keyed id rec hfind
    refine ⟨{ promoted rec with
      currentGrant := some (s.grantFor (promoted rec).request dec) }, ?_, rfl⟩
    simp only [Scheduler.createGrant, hkey]
    exact FinMap.find?_insert_self _ _ _

theorem scheduleRound [Double D] (h : s.Outstanding) (hissuance : s.Issuance issued)
    (htable : s.GrantTable issued) (horderly : s.Orderly)
    {recordOrder : List CollectiveRequestId} (hroom : s.FitsSelection recordOrder)
    {grantOrder : List CollectiveGrantId} {dec : ScheduleDecision D}
    {created : List CollectiveGrant}
    (hround : s.scheduleRound recordOrder grantOrder = (s', .ok (dec, created))) :
    s'.Outstanding := by
  have hcreated := createGrants_tabled (P := Outstanding) ⟨horderly.keyed, hissuance, htable⟩
    horderly.settled hroom (h.rewritten (refreshed_rewritten s))
    (fun t _ id rec ht hfind hready hP => hP.createGrant ht hfind hready _)
  rw [(scheduleRound_ok hround).state]
  exact hcreated.2.rewritten (closeRound_rewritten _ _ _)

end Scheduler.Outstanding

/-! ## Every call -/

theorem System.next_outstanding [Double D] {y : System D} {op : Op D} (hsound : y.Sound)
    (htable : y.sched.GrantTable y.issued) (hop : op.UsesIssued y) (hroom : op.FitsSelection y)
    (h : y.sched.Outstanding) : (y.next op).sched.Outstanding := by
  have hissuance := hsound.issuance
  by_cases hquiet : op.isQuiet = true
  · obtain ⟨s, hnext, hrewritten⟩ := y.next_quiet hquiet
    rw [hnext]
    exact h.rewritten hrewritten
  cases op with
  | publishParticipant p => exact h.rewritten (y.sched.publishParticipant_rewritten p)
  | submit req => exact h.submit req
  | supersede req => exact h.supersede hissuance req
  | cancel id => exact h.cancel id
  | schedule recordOrder grantOrder =>
      obtain ⟨s, dec, created, hround⟩ :=
        Scheduler.scheduleRound_isOk hsound.orderly.settled recordOrder grantOrder
      simp only [next, step, hround]
      exact h.scheduleRound hissuance htable hsound.orderly hroom hround
  | handoff g accepted => exact h.handoff hissuance htable (hop g rfl) accepted
  | handoffBegin g =>
      rw [sched_next_handoffBegin]
      exact h.handoffBegin hissuance htable (hop g rfl)
  | handoffEnd g accepted =>
      rw [sched_next_handoffEnd]
      split_ifs
      · exact h.handoffEnd g accepted
      · exact h
  | complete g wb sb => exact h.complete hissuance g wb sb
  | fenceWorkerBoot worker boot recordOrder => exact h.fenceWorkerBoot worker boot recordOrder
  | resetDynamicStateForRecovery => exact .reset y.sched
  | _ => exact absurd rfl hquiet

/-- What a run below saturation keeps, its table and its open entries. -/
theorem InterleavedRun.outstanding [Double D] {policy : PolicyConfig D}
    {epoch : CoordinatorEpoch} {ops : List (Op D)}
    (hrun : InterleavedRun (System.start policy epoch) ops)
    (hids : ((System.start policy epoch).run ops).sched.nextGrantId.value.toNat < maxValue) :
    ((System.start policy epoch).run ops).sched.Outstanding := by
  have hall := Runs.invariant
    (I := fun y : System D => (y.Sound ∧ y.sched.GrantTable y.issued) ∧ y.sched.Outstanding)
    (fun y op hy hop => by
      obtain ⟨⟨hsound, htable⟩, houtstanding⟩ := hy
      have hroom := System.fitsSelection_of_next hsound.orderly hop.2
      exact ⟨⟨System.next_sound hsound hop.1, hsound.next_grantTable htable hroom⟩,
        System.next_outstanding hsound htable hop.1 hroom houtstanding⟩)
    ⟨⟨System.start_sound policy epoch, Scheduler.GrantTable.fresh policy epoch⟩,
      Scheduler.Outstanding.fresh policy epoch⟩ (hrun.below hids)
  exact hall.2

/-! ## The result -/

/-- In every state reached by sections of calls on issued grants in any interleaving,
with the grant-id counter below its largest value, an open entry holds the current grant of its
request, at the request's generation, and no other entry of that request is open. -/
theorem outstanding_grant_is_current [Double D] (policy : PolicyConfig D)
    (epoch : CoordinatorEpoch) (ops : List (Op D))
    (hrun : InterleavedRun (System.start policy epoch) ops)
    (hids : ((System.start policy epoch).run ops).sched.nextGrantId.value.toNat < maxValue) :
    let s := ((System.start policy epoch).run ops).sched
    ∀ gid gs, s.grants.find? gid = some gs → gs.terminal = false →
      (∃ rec, s.records.find? gs.grant.request = some rec ∧ rec.currentGrant = some gs.grant ∧
        rec.request.gen = gs.grant.requestGen) ∧
      ∀ gid' gs', s.grants.find? gid' = some gs' → gs'.terminal = false →
        gs'.grant.request = gs.grant.request → gid' = gid := by
  intro s gid gs hentry hopen
  have hissuance : s.Issuance _ := hrun.sound.issuance
  have houtstanding : s.Outstanding := hrun.outstanding hids
  obtain ⟨rec, hfind, hcur⟩ := houtstanding gid gs hentry hopen
  have hnames := ((hissuance.records _ rec hfind).current gs.grant hcur).2
  refine ⟨⟨rec, hfind, hcur, hnames.requestGen.symm⟩, fun gid' gs' hentry' hopen' hrequest => ?_⟩
  obtain ⟨rec', hfind', hcur'⟩ := houtstanding gid' gs' hentry' hopen'
  rw [hrequest, hfind] at hfind'
  cases hfind'
  have hgrant : gs.grant = gs'.grant := Option.some.inj (hcur.symm.trans hcur')
  calc gid' = gs'.grant.id := (hissuance.entries gid' gs' hentry').1.symm
    _ = gs.grant.id := by rw [hgrant]
    _ = gid := (hissuance.entries gid gs hentry).1

/-- The request is superseded and granted again: its second grant is the one that is
outstanding. -/
theorem outstanding_grant_is_current_superseded :
    let ops : List (Op ℚ) := Scenario.granted ++
      [.supersede { Scenario.request 1 [1] 1 with id := 1, gen := 2 }, .schedule [] []]
    let s := (Scenario.start.run ops).sched
    s.grants.keys = [1, 2] ∧ ∃ gs, s.grants.find? 2 = some gs ∧ gs.terminal = false ∧
      (∃ rec, s.records.find? gs.grant.request = some rec ∧ rec.currentGrant = some gs.grant ∧
        rec.request.gen = gs.grant.requestGen) ∧
      ∀ gid' gs', s.grants.find? gid' = some gs' → gs'.terminal = false →
        gs'.grant.request = gs.grant.request → gid' = 2 := by
  intro ops s
  have hopen : (s.grants.find? 2).any (fun gs => gs.terminal = false) = true := by decide +kernel
  simp only [Option.any_eq_true, decide_eq_true_eq] at hopen
  obtain ⟨gs, hentry, hopen⟩ := hopen
  exact ⟨by decide +kernel, gs, hentry, hopen,
    outstanding_grant_is_current PolicyConfig.default 1 ops (by decide +kernel)
      (by decide +kernel) 2 gs hentry hopen⟩

end CollectiveScheduler
