/-
  Properties/Revalidation.lean --- what the adjudication VALID stands for.

  Readiness, revalidation and completion walk over the same evidence with three lists
  of checks, and revalidation does not look at the grant table.  For the grants that
  rounds have issued, the lists are compared here: which evidence revalidation leaves
  unread, which dead grants it lets pass, and which of its checks a completion skips.
-/
import CollectiveScheduler.System.Provenance

set_option autoImplicit false

namespace CollectiveScheduler

open Foundation

variable {D : Type}

/-! ## Readiness -/

namespace Scheduler

/-- The participants and the plan of a request are current. -/
structure Manned (s : Scheduler D) (req : CollectiveRequest D) : Prop where
  participants : ∀ e ∈ req.participants.zipIdx,
    s.participantCurrent req.participantGens e.1 e.2 = true
  plan : s.planUsable req.planId req.planGen = true

/-- The evidence that revalidation leaves unread is in order: published dependencies are
satisfied, a named reservation is stored and valid, and neither the hard ceiling nor the
usable capacity is exceeded. -/
structure UnreadInOrder [Double D] (s : Scheduler D) (req : CollectiveRequest D) : Prop where
  dependencies : ∀ d ∈ req.dependencies, ∀ st, s.deps.find? d.id = some st → st.satisfied = true
  reservation : ∀ rg, req.reservationGen = some rg →
    ∃ res, s.reservations.find? rg = some res ∧ res.valid = true
  congestion : s.overHardCeiling = false
  capacity : s.overCapacity req = false

variable {s : Scheduler D} {req : CollectiveRequest D}

/-- Readiness is what revalidation reads of a request and what it leaves unread. -/
theorem prepared_iff [Double D] :
    s.Prepared req ↔ s.Manned req ∧
      ((∀ d ∈ req.dependencies, s.dependencyCurrent d = true) ∧
        s.reservationCurrent req = true) ∧ s.UnreadInOrder req := by
  constructor
  · intro h
    have hdeps := fun d hd => dependencySatisfied_iff.mp (h.dependencies d hd)
    have hres := reservationUsable_iff.mp h.reservation
    exact ⟨⟨h.participants, h.plan⟩, ⟨fun d hd => (hdeps d hd).1, hres.1⟩,
      ⟨fun d hd => (hdeps d hd).2, hres.2, h.congestion, h.capacity⟩⟩
  · rintro ⟨hmanned, ⟨hdeps, hres⟩, hunread⟩
    exact
      { participants := hmanned.participants
        plan := hmanned.plan
        dependencies := fun d hd =>
          dependencySatisfied_iff.mpr ⟨hdeps d hd, hunread.dependencies d hd⟩
        reservation := reservationUsable_iff.mpr ⟨hres, hunread.reservation⟩
        congestion := hunread.congestion
        capacity := hunread.capacity }

/-- What VALID says of a grant that asks for all checks. -/
theorem Revalidates.manned {g : CollectiveGrant} {rec : Record D} (h : s.Revalidates g rec)
    (hall : g.revalidation = kDefaultRevalidation) (hdrawn : g.DrawnFrom rec.request) :
    s.Manned rec.request := by
  constructor
  · rw [← hdrawn.participants, ← hdrawn.participantGens]
    exact (h.participants (by rw [hall]; rfl)).2
  · rw [← hdrawn.plan, ← hdrawn.planGen]
    exact h.plan (by rw [hall]; rfl)

end Scheduler

/-- In service, a VALID grant finds its record READY exactly when the evidence that
revalidation leaves unread is in order.  For a grant issued before the last restore, which
may meet another request under its id, the participants and the plan of that request have
to be current as well. -/
theorem valid_grant_is_ready_iff [Double D] {y : System D} (hy : y.InService)
    {g : CollectiveGrant} (hg : g.FromSchedule D) {rec : Record D}
    (hfind : y.sched.records.find? g.request = some rec)
    (hvalid : y.sched.revalidateGrant g = .valid) :
    y.sched.computeReadiness rec.request = .ready ↔
      (g ∉ y.issued → y.sched.Manned rec.request) ∧ y.sched.UnreadInOrder rec.request := by
  have hall := System.revalidation_of_fromSchedule hg
  obtain ⟨rec', hfind', hchecks⟩ := Scheduler.revalidateGrant_eq_valid_iff.mp hvalid
  rw [hfind] at hfind'
  cases hfind'
  have hread : (∀ d ∈ rec.request.dependencies, y.sched.dependencyCurrent d = true) ∧
      y.sched.reservationCurrent rec.request = true :=
    ⟨hchecks.dependencies (by rw [hall]; rfl), hchecks.reservation (by rw [hall]; rfl)⟩
  rw [Scheduler.computeReadiness_eq_ready_iff, Scheduler.prepared_iff]
  constructor
  · exact fun ⟨hmanned, _, hunread⟩ => ⟨fun _ => hmanned, hunread⟩
  · rintro ⟨hmanned, hunread⟩
    refine ⟨?_, hread, hunread⟩
    by_cases hissued : g ∈ y.issued
    · exact hchecks.manned hall
        ((hy.attested.drawn g hissued).2 rec hfind hchecks.requestGen)
    · exact hmanned hissued

namespace Scenario

/-- A request that waits for dependency 1 is granted. -/
def dependentGranted : List (Op ℚ) :=
  [.publishParticipant (participant 1 1 1 11), .publishPlan (plan 1 1 [1]),
    .publishDependency { id := ⟨1⟩, gen := ⟨1⟩, satisfied := true },
    .submit { request 1 [1] 1 with dependencies := [{ id := ⟨1⟩, gen := ⟨1⟩ }] },
    .schedule [] []]

/-- The dependency is published again at its generation, no longer satisfied. -/
def dependencyLost : List (Op ℚ) :=
  dependentGranted ++ [.publishDependency { id := ⟨1⟩, gen := ⟨1⟩, satisfied := false }]

end Scenario

theorem valid_grant_is_ready_iff_granted :
    ∃ (y : System ℚ) (g : CollectiveGrant) (rec : Record ℚ), y.InService ∧ g.FromSchedule ℚ ∧
      y.sched.records.find? g.request = some rec ∧ y.sched.revalidateGrant g = .valid ∧
      y.sched.computeReadiness rec.request = .ready ∧ y.sched.UnreadInOrder rec.request := by
  obtain ⟨y, g, rec, hy, hg, hfind, htest⟩ := Scenario.exists_of_someGrant
    Scenario.dependentGranted
    (fun s g rec => s.revalidateGrant g = .valid && s.computeReadiness rec.request = .ready)
    (by decide +kernel)
  simp only [Bool.and_eq_true, decide_eq_true_eq] at htest
  obtain ⟨hvalid, hready⟩ := htest
  have hissued : g.FromSchedule ℚ := ⟨y, hy, hg⟩
  exact ⟨y, g, rec, hy, hissued, hfind, hvalid, hready,
    ((valid_grant_is_ready_iff hy hissued hfind hvalid).mp hready).2⟩

/-- The grant stays VALID while its record waits for a dependency that was satisfied when
the grant was issued. -/
theorem valid_grant_waits_for_dependency :
    ∃ (y : System ℚ) (g : CollectiveGrant) (rec : Record ℚ), y.InService ∧ g ∈ y.issued ∧
      y.sched.records.find? g.request = some rec ∧ y.sched.revalidateGrant g = .valid ∧
      y.sched.computeReadiness rec.request = .waitingDependency := by
  obtain ⟨y, g, rec, hy, hg, hfind, htest⟩ := Scenario.exists_of_someGrant
    Scenario.dependencyLost
    (fun s g rec => s.revalidateGrant g = .valid &&
      s.computeReadiness rec.request = .waitingDependency)
    (by decide +kernel)
  simp only [Bool.and_eq_true, decide_eq_true_eq] at htest
  exact ⟨y, g, rec, hy, hg, hfind, htest.1, htest.2⟩

/-! ## Authority -/

namespace Scheduler

/-- The grant has an open entry, is the current grant of its record, and the record is
GRANTED, DISPATCHING or ACTIVE. -/
structure Authorises (s : Scheduler D) (g : CollectiveGrant) (rec : Record D) : Prop where
  entry : ∃ gs, s.grants.find? g.id = some gs ∧ gs.terminal = false
  current : rec.currentGrant = some g
  lifecycle : rec.lifecycle ∈ [LifecycleState.granted, .dispatching, .active]

end Scheduler

/-- An issued grant of the record's generation has taken the record out of the pending
states, so that a VALID one meets a holder or a record to be revalidated. -/
theorem System.Attested.holder_of_revalidates {y : System D} (h : y.Attested)
    {g : CollectiveGrant} (hg : g ∈ y.issued) {rec : Record D}
    (hfind : y.sched.records.find? g.request = some rec) (hchecks : y.sched.Revalidates g rec)
    (hkept : rec.lifecycle ≠ .revalidationRequired) : rec.lifecycle.isHolder = true := by
  have hrest := (h.orderly _ rec hfind).atRest
  have hopen := hchecks.lifecycle
  have hpending : ¬rec.lifecycle.isPending = true := fun hpending =>
    (h.attributed.records _ rec hfind).pending hpending g hg rfl hchecks.requestGen.symm
  cases hlife : rec.lifecycle <;> rw [hlife] at hrest hopen hpending hkept <;> first
    | rfl
    | exact absurd rfl hkept
    | exact absurd hrest (by decide)
    | exact absurd rfl hpending
    | exact absurd (by decide) hopen

/-- In service, a VALID grant, issued or not, has live authority exactly when it was issued
since the last restore and its record is not to be revalidated; once the ids are used up,
its entry also has to be open. -/
theorem valid_grant_authorises_iff [Double D] {y : System D} (hy : y.InService)
    {g : CollectiveGrant} {rec : Record D}
    (hfind : y.sched.records.find? g.request = some rec)
    (hvalid : y.sched.revalidateGrant g = .valid) :
    y.sched.Authorises g rec ↔
      g ∈ y.issued ∧ rec.lifecycle ≠ .revalidationRequired ∧
        (y.sched.nextGrantId.value.toNat = maxValue →
          ∃ gs, y.sched.grants.find? g.id = some gs ∧ gs.terminal = false) := by
  have hattested := hy.attested
  obtain ⟨rec', hfind', hchecks⟩ := Scheduler.revalidateGrant_eq_valid_iff.mp hvalid
  rw [hfind] at hfind'
  cases hfind'
  constructor
  · intro h
    refine ⟨((hattested.attributed.records _ rec hfind).current g h.current).1, ?_,
      fun _ => h.entry⟩
    intro hlife
    have hmem := h.lifecycle
    rw [hlife] at hmem
    exact absurd hmem (by decide)
  · rintro ⟨hissued, hkept, hsaturated⟩
    have hholder := hattested.holder_of_revalidates hissued hfind hchecks hkept
    obtain ⟨hcur, -⟩ :=
      hattested.attributed.current_of_holder hissued hfind hchecks.requestGen hholder
    refine ⟨?_, hcur, of_decide_eq_true hholder⟩
    rcases (Id.toNat_le_maxValue y.sched.nextGrantId).lt_or_eq with hbelow | hmax
    · exact (hattested.table hbelow).held _ rec g hfind hholder hcur
    · exact hsaturated hmax

namespace Scenario

/-- The worker boot of a granted request is fenced, and its participant is published
again as it was. -/
def fencedThenPublished : List (Op ℚ) :=
  Scenario.granted ++ [.fenceWorkerBoot 1 11 [], .publishParticipant (participant 1 1 1 11)]

end Scenario

theorem valid_grant_authorises_iff_granted :
    ∃ (y : System ℚ) (g : CollectiveGrant) (rec : Record ℚ), y.InService ∧ g ∈ y.issued ∧
      y.sched.records.find? g.request = some rec ∧ y.sched.revalidateGrant g = .valid ∧
      y.sched.Authorises g rec := by
  obtain ⟨y, g, rec, hy, hg, hfind, htest⟩ := Scenario.exists_of_someGrant Scenario.granted
    (fun s g rec => s.revalidateGrant g = .valid && rec.lifecycle ≠ .revalidationRequired &&
      s.nextGrantId.value.toNat ≠ maxValue)
    (by decide +kernel)
  simp only [Bool.and_eq_true, decide_eq_true_eq] at htest
  obtain ⟨⟨hvalid, hkept⟩, hbelow⟩ := htest
  exact ⟨y, g, rec, hy, hg, hfind, hvalid, (valid_grant_authorises_iff hy hfind hvalid).mpr
    ⟨hg, hkept, fun hmax => absurd hmax hbelow⟩⟩

/-- The fence has made the grant terminal and demands revalidation of its record, and the
grant is VALID. -/
theorem valid_grant_of_fenced_boot :
    ∃ (y : System ℚ) (g : CollectiveGrant) (rec : Record ℚ), y.InService ∧ g ∈ y.issued ∧
      y.sched.records.find? g.request = some rec ∧ y.sched.revalidateGrant g = .valid ∧
      rec.lifecycle = .revalidationRequired ∧
      (y.sched.grants.find? g.id).any GrantState.terminal = true := by
  obtain ⟨y, g, rec, hy, hg, hfind, htest⟩ := Scenario.exists_of_someGrant
    Scenario.fencedThenPublished
    (fun s g rec => s.revalidateGrant g = .valid && rec.lifecycle = .revalidationRequired &&
      (s.grants.find? g.id).any GrantState.terminal)
    (by decide +kernel)
  simp only [Bool.and_eq_true, decide_eq_true_eq] at htest
  exact ⟨y, g, rec, hy, hg, hfind, htest.1.1, htest.1.2, htest.2⟩

/-! ## Completion -/

/-- In service, a grant whose completion is accepted revalidates as VALID exactly when its
plan is usable, the dependencies and the reservation of its record have the generations
the request names, and the congestion has the generation of the grant.  For a grant issued
before the last restore, the record also has to name as many participants. -/
theorem completed_grant_is_valid_iff [Double D] {y : System D} (hy : y.InService)
    {g : CollectiveGrant} (hg : g.FromSchedule D) {wb : WorkerBootId} {sb : SourceBootId}
    (haccepted : (y.sched.complete g wb sb).2.1 = true) {rec : Record D}
    (hfind : y.sched.records.find? g.request = some rec) :
    y.sched.revalidateGrant g = .valid ↔
      y.sched.planUsable g.plan g.planGen = true ∧
      (∀ d ∈ rec.request.dependencies, y.sched.dependencyCurrent d = true) ∧
      y.sched.reservationCurrent rec.request = true ∧
      y.sched.congestionCurrent g.evidence.congestionGen = true ∧
      (g ∉ y.issued → g.participants.length = rec.request.participants.length) := by
  have hall := System.revalidation_of_fromSchedule hg
  obtain ⟨rec', gs, hfind', -, hallowed, hactive⟩ := Scheduler.complete_true haccepted
  rw [hfind] at hfind'
  cases hfind'
  obtain ⟨-, hepoch, -, -, hgen, hcgen, hparticipants, -⟩ :=
    Scheduler.completionAllowed_iff.mp hallowed
  rw [Scheduler.revalidateGrant_eq_valid_iff]
  constructor
  · rintro ⟨rec', hfind', hchecks⟩
    rw [hfind] at hfind'
    cases hfind'
    exact ⟨hchecks.plan (by rw [hall]; rfl), hchecks.dependencies (by rw [hall]; rfl),
      hchecks.reservation (by rw [hall]; rfl), hchecks.congestion (by rw [hall]; rfl),
      fun _ => (hchecks.participants (by rw [hall]; rfl)).1⟩
  · rintro ⟨hplan, hdeps, hres, hcong, hcount⟩
    have hlength : g.participants.length = rec.request.participants.length := by
      by_cases hissued : g ∈ y.issued
      · rw [((hy.attested.drawn g hissued).2 rec hfind hgen).participants]
      · exact hcount hissued
    exact ⟨rec, hfind,
      { requestGen := hgen
        collectiveGen := hcgen
        epoch := hepoch
        lifecycle := by rw [hactive]; decide
        plan := fun _ => hplan
        participants := fun _ => ⟨hlength, hparticipants⟩
        dependencies := fun _ => hdeps
        reservation := fun _ => hres
        congestion := fun _ => hcong }⟩

namespace Scenario

/-- The plan of the executing request is withdrawn. -/
def planWithdrawn : List (Op ℚ) :=
  executing ++ [.publishPlan { plan 1 1 [1] with valid := false }]

end Scenario

theorem completed_grant_is_valid_iff_executing :
    ∃ (y : System ℚ) (g : CollectiveGrant) (rec : Record ℚ), y.InService ∧ g.FromSchedule ℚ ∧
      (y.sched.complete g 11 100).2.1 = true ∧ y.sched.records.find? g.request = some rec ∧
      y.sched.revalidateGrant g = .valid ∧ y.sched.planUsable g.plan g.planGen = true := by
  obtain ⟨y, g, rec, hy, hg, hfind, htest⟩ := Scenario.exists_of_someGrant Scenario.executing
    (fun s g _ => (s.complete g 11 100).2.1 && s.revalidateGrant g = .valid)
    (by decide +kernel)
  simp only [Bool.and_eq_true, decide_eq_true_eq] at htest
  obtain ⟨haccepted, hvalid⟩ := htest
  have hissued : g.FromSchedule ℚ := ⟨y, hy, hg⟩
  exact ⟨y, g, rec, hy, hissued, haccepted, hfind, hvalid,
    ((completed_grant_is_valid_iff hy hissued haccepted hfind).mp hvalid).1⟩

/-- The completion is accepted under a plan that is no longer valid, where revalidation
answers STALE_GRANT. -/
theorem completed_grant_of_withdrawn_plan :
    ∃ (y : System ℚ) (g : CollectiveGrant) (rec : Record ℚ), y.InService ∧ g ∈ y.issued ∧
      y.sched.records.find? g.request = some rec ∧
      (y.sched.complete g 11 100).2.1 = true ∧ y.sched.revalidateGrant g = .staleGrant := by
  obtain ⟨y, g, rec, hy, hg, hfind, htest⟩ := Scenario.exists_of_someGrant Scenario.planWithdrawn
    (fun s g _ => (s.complete g 11 100).2.1 && s.revalidateGrant g = .staleGrant)
    (by decide +kernel)
  simp only [Bool.and_eq_true, decide_eq_true_eq] at htest
  exact ⟨y, g, rec, hy, hg, hfind, htest.1, htest.2⟩

end CollectiveScheduler
