/-
  System/Provenance.lean --- a scheduler in service, whatever grants its callers pass.

  `handoff` and `complete` take a grant by value, so that a caller may pass one the
  scheduler never issued, or an altered copy.  A state in service is reached by calls
  with any arguments and by restores of snapshots saved in service; the grants issued
  since the last restore are the ones its grant table can speak of.  Between those
  grants and the records a relation holds that no caller can break: what a handoff may
  overwrite is the copy inside an entry, never the records, and never which ids have
  an entry.
-/
import CollectiveScheduler.System.Barred
import CollectiveScheduler.System.Durable
import CollectiveScheduler.System.EvidenceStep
import CollectiveScheduler.System.GrantTable
import CollectiveScheduler.System.Scenario

set_option autoImplicit false

namespace CollectiveScheduler

open Foundation LifecycleState

variable {D : Type}

/-! ## Service -/

/-- The states reached from a fresh scheduler by calls that `P` allows, and by restores
of snapshots saved in such states.  A restore forgets the grants issued before it. -/
inductive System.Served [Double D] (P : System D → Op D → Prop) : System D → Prop
  | start (policy : PolicyConfig D) (epoch : CoordinatorEpoch) :
      Served P (System.start policy epoch)
  | call {y : System D} (h : Served P y) (op : Op D) (hop : P y op) : Served P (y.next op)
  | restore {y z : System D} (h : Served P y) (hz : Served P z)
      (recordOrder : List CollectiveRequestId)
      (hok : (Persistence.restore y.sched (Persistence.save z.sched recordOrder)).2 = .ok ()) :
      Served P { y with
        sched := (Persistence.restore y.sched (Persistence.save z.sched recordOrder)).1
        issued := [] }

/-- The states reached by any calls and by restores of saved snapshots. -/
def System.InService [Double D] (y : System D) : Prop := y.Served fun _ _ => True

/-- Some scheduler in service issued the grant, at any time and before any restore. -/
def CollectiveGrant.FromSchedule (D : Type) [Double D] (g : CollectiveGrant) : Prop :=
  ∃ y : System D, y.InService ∧ g ∈ y.issued

namespace System

variable [Double D]

theorem InService.next {y : System D} (h : y.InService) (op : Op D) : (y.next op).InService :=
  .call h op trivial

theorem InService.run {y : System D} (h : y.InService) (ops : List (Op D)) :
    (y.run ops).InService :=
  Runs.exec_induct (P := System.InService) (fun _ op hy => hy.next op) ops h

theorem Served.run {P : System D → Op D → Prop} {y : System D} (h : y.Served P)
    {ops : List (Op D)} (hops : Runs.Admissible System.next P y ops) : (y.run ops).Served P :=
  Runs.invariant (I := System.Served P) (fun _ op hy hop => hy.call op hop) h hops

theorem Served.durable {P : System D → Op D → Prop} {y : System D} (h : y.Served P) :
    y.sched.Durable := by
  induction h with
  | start policy epoch => exact Scheduler.fresh_durable policy epoch
  | call _ op _ ih => exact System.next_durable ih op
  | restore _ _ recordOrder _ ih ihz =>
      dsimp only
      exact ih.restore_save ihz recordOrder

/-- What a restore that returns leaves behind. -/
theorem Served.restored_eq {P : System D → Op D → Prop} {y z : System D} (hz : z.Served P)
    {recordOrder : List CollectiveRequestId}
    (hok : (Persistence.restore y.sched (Persistence.save z.sched recordOrder)).2 = .ok ()) :
    (Persistence.restore y.sched (Persistence.save z.sched recordOrder)).1 =
      Persistence.restored y.sched z.sched := by
  rw [Persistence.restore_save y.sched hz.durable.storable] at hok ⊢
  split_ifs at hok ⊢
  · rfl

end System

/-! ## Grants and the requests they were drawn from -/

/-- The grant holds what the request names. -/
structure CollectiveGrant.DrawnFrom (g : CollectiveGrant) (req : CollectiveRequest D) :
    Prop where
  participants : g.participants = req.participants
  participantGens : g.participantGens = req.participantGens
  plan : g.plan = req.planId
  planGen : g.planGen = req.planGen

namespace Scheduler

/-- Every issued grant asks for all checks, and holds what its record's request names for
as long as the record has the generation of the grant. -/
def Drawn (issued : List CollectiveGrant) (s : Scheduler D) : Prop :=
  ∀ g ∈ issued, g.revalidation = kDefaultRevalidation ∧
    ∀ rec, s.records.find? g.request = some rec → rec.request.gen = g.requestGen →
      g.DrawnFrom rec.request

/-- The current grant of a record that holds one has an entry. -/
def Stocked (s : Scheduler D) : Prop :=
  ∀ id rec g, s.records.find? id = some rec → rec.lifecycle.isHolder = true →
    rec.currentGrant = some g → (s.grants.find? g.id).isSome = true

/-- The congestion has the generation stored beside it. -/
def CongestionDated (e : Evidence D) : Prop :=
  ∀ c, e.congestion = some c → c.gen = e.congestionGen

variable {s s' : Scheduler D} {issued : List CollectiveGrant}

/-! ### Entries -/

theorem EntriesNamed.updated (h : s.EntriesNamed issued) (hupdated : s.EntriesUpdated s') :
    s'.EntriesNamed issued := by
  intro gid gs' hentry'
  have hsome := hupdated.isSome_eq gid
  rw [hentry', Option.isSome_some] at hsome
  obtain ⟨gs, hentry⟩ := Option.isSome_iff_exists.mp hsome.symm
  exact h gid gs hentry

theorem Stocked.rewrite (h : s.Stocked)
    (hrecords : RecordsRewritten Advances s.records s'.records)
    (hentries : ∀ gid, (s'.grants.find? gid).isSome = (s.grants.find? gid).isSome) :
    s'.Stocked := by
  intro id rec' g hfind' hholder hcur
  obtain ⟨rec, hfind, hrec⟩ := hrecords.find?_new hfind'
  rw [hentries g.id]
  exact h id rec g hfind (hrec.lifecycle.holder hholder) (hrec.currentGrant.symm.trans hcur)

/-- One record appears or is replaced by one that holds no grant. -/
theorem Stocked.replace (h : s.Stocked) (new : Record D)
    (hnot : new.lifecycle.isHolder = false)
    (hrecords : ∀ id rec, s'.records.find? id = some rec →
      s.records.find? id = some rec ∨ rec = new)
    (hentries : ∀ gid, (s'.grants.find? gid).isSome = (s.grants.find? gid).isSome) :
    s'.Stocked := by
  intro id rec g hfind' hholder hcur
  rcases hrecords id rec hfind' with hfind | rfl
  · rw [hentries g.id]
    exact h id rec g hfind hholder hcur
  · rw [hnot] at hholder
    cases hholder

theorem Stocked.submit [Double D] (h : s.Stocked) (req : CollectiveRequest D) :
    (s.submit req).1.Stocked := by
  have hentries := (EntriesUpdated.submit s req).isSome_eq
  rcases s.submit_cases req with ⟨next, e, heq⟩ | ⟨-, -, heq⟩
  · rw [heq] at hentries ⊢
    exact h.rewrite (RecordsRewritten.refl Advances.refl _) hentries
  · rw [heq] at hentries ⊢
    refine h.replace (s.submittedRecord req) rfl (fun id rec hfind' => ?_) hentries
    rcases FinMap.find?_emplace_cases hfind' with hfind | ⟨-, -, rfl⟩
    · exact .inl hfind
    · exact .inr rfl

theorem Stocked.supersede [Double D] (h : s.Stocked) (req : CollectiveRequest D) :
    (s.supersede req).1.Stocked := by
  have hentries := (EntriesUpdated.supersede s req).isSome_eq
  rcases s.supersede_cases req with ⟨e, heq⟩ | ⟨old, -, -, -, heq⟩
  · rw [heq]
    exact h
  · rw [heq] at hentries ⊢
    refine h.replace (supersedingRecord old req) rfl (fun id rec hfind' => ?_) hentries
    simp only [releaseForSupersede_records, FinMap.find?_insert] at hfind'
    split_ifs at hfind' with hid
    · cases hfind'
      exact .inr rfl
    · exact .inl hfind'

/-- A new grant gets an entry, unless its id already has one. -/
theorem Stocked.createGrant (h : s.Stocked) (id : CollectiveRequestId) (rec : Record D)
    (dec : ScheduleDecision D) : (s.createGrant id (promoted rec) dec).1.Stocked := by
  intro id' rec' g hfind' hholder hcur
  have hkept : ∀ gid, (s.grants.find? gid).isSome = true →
      ((s.createGrant id (promoted rec) dec).1.grants.find? gid).isSome = true := by
    intro gid hsome
    obtain ⟨gs, hentry⟩ := Option.isSome_iff_exists.mp hsome
    exact Option.isSome_iff_exists.mpr ⟨gs, FinMap.find?_emplace_of_some hentry _ _⟩
  simp only [Scheduler.createGrant, FinMap.find?_insert] at hfind'
  split_ifs at hfind' with hid
  · cases hfind'
    cases hcur
    simp only [Scheduler.createGrant, FinMap.find?_emplace, if_true, Option.isSome_some]
  · exact hkept g.id (h id' rec' g hfind' hholder hcur)

/-! ### After a restore -/

/-- No record has a grant, and the table is empty. -/
structure Vacated (s : Scheduler D) : Prop where
  records : ∀ id rec, s.records.find? id = some rec →
    rec.currentGrant = none ∧ rec.lifecycle.isHolder = false
  grants : s.grants = .empty

theorem Vacated.attribution (h : s.Vacated) : s.Attribution [] where
  records id rec hfind :=
    { current := fun g hcur => by
        rw [(h.records id rec hfind).1] at hcur
        cases hcur
      bounded := fun g hg => absurd hg List.not_mem_nil
      pending := fun _ g hg => absurd hg List.not_mem_nil
      unique := fun g hg => absurd hg List.not_mem_nil
      holder := fun hholder => by
        rw [(h.records id rec hfind).2] at hholder
        cases hholder }
  known g hg := absurd hg List.not_mem_nil
  inactive g hg := absurd hg List.not_mem_nil

theorem Vacated.find?_grants (h : s.Vacated) (gid : CollectiveGrantId) :
    s.grants.find? gid = none := by
  rw [h.grants]
  rfl

theorem Vacated.entriesNamed (h : s.Vacated) (issued : List CollectiveGrant) :
    s.EntriesNamed issued := by
  intro gid gs hentry
  rw [h.find?_grants] at hentry
  cases hentry

theorem Vacated.issuance (h : s.Vacated) : s.Issuance [] := by
  refine h.attribution.issuance fun gid gs hentry => ?_
  rw [h.find?_grants] at hentry
  cases hentry

theorem Vacated.stocked (h : s.Vacated) : s.Stocked := by
  intro id rec g hfind hholder
  rw [(h.records id rec hfind).2] at hholder
  cases hholder

theorem Vacated.grantTable (h : s.Vacated) : s.GrantTable [] where
  below g hg := absurd hg List.not_mem_nil
  distinct g hg := absurd hg List.not_mem_nil
  held id rec g hfind hholder := by
    rw [(h.records id rec hfind).2] at hholder
    cases hholder

theorem Vacated.fresh (policy : PolicyConfig D) (epoch : CoordinatorEpoch) :
    (Scheduler.fresh policy epoch).Vacated where
  records id rec hfind := by cases hfind
  grants := rfl

theorem Vacated.reset (s : Scheduler D) : s.resetDynamicStateForRecovery.Vacated where
  records id rec' hfind' := by
    have hmap : s.resetDynamicStateForRecovery.records.find? id =
        (s.records.find? id).map (fun rec => rec.recover) := FinMap.find?_mapVals _ _ _
    rw [hmap] at hfind'
    obtain ⟨rec, -, rfl⟩ := Option.map_eq_some_iff.mp hfind'
    exact ⟨rfl, recover_not_holder rec⟩
  grants := rfl

theorem Vacated.restored [Double D] (s t : Scheduler D) :
    (Persistence.restored s t).Vacated where
  records id rec' hfind' := by
    have hmap : (Persistence.restored s t).records.find? id =
        (t.records.find? id).map (fun rec => rec.recoded.recover) := FinMap.find?_mapVals _ _ _
    rw [hmap] at hfind'
    obtain ⟨rec, -, rfl⟩ := Option.map_eq_some_iff.mp hfind'
    exact ⟨rfl, recover_not_holder rec.recoded⟩
  grants := rfl

end Scheduler

/-! ## Every call -/

namespace System

variable [Double D]

/-- A record at the generation of an issued grant has the request it had before. -/
theorem request_next {y : System D} (hattributed : y.sched.Attribution y.issued)
    {g : CollectiveGrant} (hg : g ∈ y.issued) {op : Op D} {rec' : Record D}
    (hfind' : (y.next op).sched.records.find? g.request = some rec')
    (hgen : rec'.request.gen = g.requestGen) :
    ∃ rec, y.sched.records.find? g.request = some rec ∧ rec'.request = rec.request := by
  obtain ⟨rec, hfind⟩ := hattributed.known g hg
  have hstep := y.recordStep op g.request
  rw [hfind, hfind'] at hstep
  refine ⟨rec, hfind, ?_⟩
  cases hstep with
  | carried hrec => exact hrec.request
  | replaced _ _ hlater _ =>
      -- the superseding request is younger than every grant issued for the id
      have hbound := (hattributed.records _ rec hfind).bounded g hg rfl
      rw [← hgen] at hbound
      exact absurd hlater (not_lt.mpr hbound)

theorem next_drawn {y : System D} (hkeyed : y.sched.Keyed)
    (hattributed : y.sched.Attribution y.issued) (h : y.sched.Drawn y.issued) (op : Op D) :
    (y.next op).sched.Drawn (y.next op).issued := by
  have hold : ∀ g ∈ y.issued, g.revalidation = kDefaultRevalidation ∧
      ∀ rec, (y.next op).sched.records.find? g.request = some rec →
        rec.request.gen = g.requestGen → g.DrawnFrom rec.request := by
    intro g hg
    refine ⟨(h g hg).1, fun rec' hfind' hgen => ?_⟩
    obtain ⟨rec, hfind, hrequest⟩ := request_next hattributed hg hfind' hgen
    rw [hrequest] at hgen ⊢
    exact (h g hg).2 rec hfind hgen
  rcases y.issued_next op with heq | ⟨recordOrder, grantOrder, s, dec, created, rfl, hround, heq⟩
  · unfold Scheduler.Drawn
    rw [heq]
    exact hold
  · intro g hg
    have hissued : (y.next (.schedule recordOrder grantOrder)).issued = y.issued ++ created := by
      rw [heq]
    rw [hissued] at hg
    rcases List.mem_append.mp hg with hg | hg
    · exact hold g hg
    · -- a new grant is filled in from the request, which the round carries over
      obtain ⟨rec, t, hfind, -, hgrant, -⟩ := created_eligible hkeyed hround hg
      refine ⟨by rw [hgrant]; rfl, fun rec' hfind' _ => ?_⟩
      have hstep := y.recordStep (.schedule recordOrder grantOrder) g.request
      rw [hfind, hfind'] at hstep
      cases hstep with
      | carried hrec =>
          rw [hrec.request, hgrant]
          exact ⟨rfl, rfl, rfl, rfl⟩
      | replaced hop => cases hop

theorem next_entriesNamed {y : System D} (horderly : y.sched.Orderly)
    (h : y.sched.EntriesNamed y.issued) (op : Op D) :
    (y.next op).sched.EntriesNamed (y.next op).issued := by
  by_cases hop : op.updatesEntries = true
  · rw [issued_next_of_updatesEntries hop]
    exact h.updated (y.entriesUpdated hop)
  cases op with
  | schedule recordOrder grantOrder =>
      obtain ⟨s, dec, created, hround⟩ :=
        Scheduler.scheduleRound_isOk horderly.settled recordOrder grantOrder
      simp only [next, step, hround]
      exact Scheduler.scheduleRound_induct (P := Scheduler.EntriesNamed) y.issued horderly
        (fun _ hrewritten ht => ht.updated (.of_rewritten hrewritten))
        (fun _ _ _ ht => ht.createGrant _ _ _) h hround
  | resetDynamicStateForRecovery => exact (Scheduler.Vacated.reset y.sched).entriesNamed _
  | _ => exact absurd rfl hop

theorem next_stocked {y : System D} (horderly : y.sched.Orderly)
    (hattributed : y.sched.Attribution y.issued) (h : y.sched.Stocked) (op : Op D) :
    (y.next op).sched.Stocked := by
  by_cases hop : op.rewritesRecords = true
  · exact h.rewrite (next_advances hattributed hop)
      (y.entriesUpdated (Op.updatesEntries_of_rewritesRecords hop)).isSome_eq
  cases op with
  | submit req => exact h.submit req
  | supersede req => exact h.supersede req
  | schedule recordOrder grantOrder =>
      obtain ⟨s, dec, created, hround⟩ :=
        Scheduler.scheduleRound_isOk horderly.settled recordOrder grantOrder
      simp only [next, step, hround]
      exact Scheduler.scheduleRound_induct (P := fun _ t => t.Stocked) y.issued horderly
        (fun hadvances hrewritten ht => ht.rewrite (hrewritten.records.mono hadvances)
          (Scheduler.EntriesUpdated.of_rewritten hrewritten).isSome_eq)
        (fun _ _ _ ht => ht.createGrant _ _ _) h hround
  | resetDynamicStateForRecovery => exact (Scheduler.Vacated.reset y.sched).stocked
  | _ => exact absurd rfl hop

omit [Double D] in
theorem congestionDated_step {e e' : Evidence D} (h : Scheduler.CongestionDated e) {op : Op D}
    (hstep : e.Step op e') : Scheduler.CongestionDated e' := by
  cases hstep with
  | congestion _ =>
      intro c hc
      cases hc
      rfl
  | reset =>
      intro c hc
      cases hc
  | _ => exact h

/-! ## States in service -/

/-- What holds in service, whatever grants the callers pass. -/
structure Attested (y : System D) : Prop where
  orderly : y.sched.Orderly
  attributed : y.sched.Attribution y.issued
  drawn : y.sched.Drawn y.issued
  named : y.sched.EntriesNamed y.issued
  stocked : y.sched.Stocked
  /-- below saturation, ids are distinct and held grants open -/
  table : y.sched.nextGrantId.value.toNat < maxValue → y.sched.GrantTable y.issued
  dated : Scheduler.CongestionDated y.sched.evidence

omit [Double D] in
theorem attested_of_vacated {s : Scheduler D} (horderly : s.Orderly) (h : s.Vacated)
    (hdated : Scheduler.CongestionDated s.evidence) (inFlight : List CollectiveGrant) :
    (System.mk s [] inFlight).Attested where
  orderly := horderly
  attributed := h.attribution
  drawn _ hg := absurd hg List.not_mem_nil
  named := h.entriesNamed []
  stocked := h.stocked
  table _ := h.grantTable
  dated := hdated

theorem Attested.next {y : System D} (h : y.Attested) (op : Op D) : (y.next op).Attested where
  orderly := next_orderly op h.orderly
  attributed := next_attribution h.orderly h.attributed op
  drawn := next_drawn h.orderly.keyed h.attributed h.drawn op
  named := next_entriesNamed h.orderly h.named op
  stocked := next_stocked h.orderly h.attributed h.stocked op
  table hbelow := by
    have hbefore : y.sched.nextGrantId.value.toNat < maxValue :=
      lt_of_le_of_lt (Id.le_def.mp (y.grantStep op).counter) hbelow
    exact next_grantTable_of_fits h.orderly h.attributed h.named (h.table hbefore)
      (fitsSelection_of_next h.orderly hbelow)
  dated := congestionDated_step h.dated (y.evidenceStep op)

theorem Served.attested {P : System D → Op D → Prop} {y : System D} (h : y.Served P) :
    y.Attested := by
  induction h with
  | start policy epoch =>
      exact attested_of_vacated (System.start_orderly policy epoch) (.fresh policy epoch)
        (fun c hc => by cases hc) []
  | call _ op _ ih => exact ih.next op
  | @restore y z hy hz recordOrder hok ih ihz =>
      have heq := hz.restored_eq (y := y) hok
      rw [heq]
      exact attested_of_vacated (hz.durable.restored y.sched).orderly (.restored _ _)
        (fun c hc => by cases hc) y.inFlight

theorem InService.attested {y : System D} (h : y.InService) : y.Attested := Served.attested h

/-- As long as every grant that gets past the checks of a handoff was issued, the entries
hold issued grants. -/
theorem Served.issuance {y : System D} (h : y.Served fun y op => op.HandsOffIssued y) :
    y.sched.Issuance y.issued := by
  induction h with
  | start policy epoch => exact .fresh policy epoch
  | call hy op hop ih => exact next_issuance hy.attested.orderly ih hop
  | @restore y z hy hz recordOrder hok ih ihz =>
      have heq := hz.restored_eq (y := y) hok
      rw [heq]
      exact (Scheduler.Vacated.restored y.sched z.sched).issuance

/-- Every grant of a round asks for all checks. -/
theorem revalidation_of_fromSchedule {g : CollectiveGrant} (h : g.FromSchedule D) :
    g.revalidation = kDefaultRevalidation := by
  obtain ⟨y, hy, hg⟩ := h
  exact (hy.attested.drawn g hg).1

end System

/-! ## Scenarios -/

namespace Scenario

/-- After these calls, some issued grant and its record pass a test. -/
def someGrant (ops : List (Op ℚ)) (test : Scheduler ℚ → CollectiveGrant → Record ℚ → Bool) :
    Bool :=
  (start.run ops).issued.any fun g =>
    ((start.run ops).sched.records.find? g.request).any (test (start.run ops).sched g)

theorem exists_of_someGrant (ops : List (Op ℚ))
    (test : Scheduler ℚ → CollectiveGrant → Record ℚ → Bool) (h : someGrant ops test = true) :
    ∃ (y : System ℚ) (g : CollectiveGrant) (rec : Record ℚ), y.InService ∧ g ∈ y.issued ∧
      y.sched.records.find? g.request = some rec ∧ test y.sched g rec = true := by
  simp only [someGrant, List.any_eq_true, Option.any_eq_true] at h
  obtain ⟨g, hg, rec, hfind, htest⟩ := h
  exact ⟨_, g, rec, System.InService.run (.start PolicyConfig.default 1) ops, hg, hfind, htest⟩

end Scenario

end CollectiveScheduler
