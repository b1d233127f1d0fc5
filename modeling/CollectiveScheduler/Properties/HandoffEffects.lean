/-
  Properties/HandoffEffects.lean --- what a handoff does, and to which grants.

  `handoff` adjudicates the caller's copy of a grant against the record, with the
  requirements the copy carries, and looks into the grant table only afterwards.  Past
  its checks the fabric is asked and the record is DISPATCHING, whatever the fabric
  answers then.
-/
import CollectiveScheduler.System.Provenance

set_option autoImplicit false

namespace CollectiveScheduler

open Foundation

variable {D : Type}

namespace Scheduler

/-- The records, the grant table, the index of active grants and their number are the
same. -/
structure SameTables (s s' : Scheduler D) : Prop where
  records : s'.records = s.records
  grants : s'.grants = s.grants
  activeByParticipant : s'.activeByParticipant = s.activeByParticipant
  activeGrants : s'.activeGrants = s.activeGrants

theorem SameTables.refl (s : Scheduler D) : s.SameTables s := ⟨rfl, rfl, rfl, rfl⟩

/-- The handoff asks the fabric about the grant, or changes a record or an entry. -/
def HandoffTouches (s : Scheduler D) (g : CollectiveGrant) (accepted : Bool) : Prop :=
  PortCall.fabricAccept g ∈ (s.handoff g accepted).2.2 ∨
    (s.handoff g accepted).1.records ≠ s.records ∨ (s.handoff g accepted).1.grants ≠ s.grants

/-- The grant is the stored one under its id, not terminal, and the current grant of a
GRANTED record. -/
structure Stores (s : Scheduler D) (g : CollectiveGrant) : Prop where
  entry : ∃ gs, s.grants.find? g.id = some gs ∧ gs.grant = g ∧ gs.terminal = false
  current : ∃ id rec, s.records.find? id = some rec ∧ rec.currentGrant = some g ∧
    rec.lifecycle = .granted

variable {s : Scheduler D} {g : CollectiveGrant}

/-- A handoff has an effect exactly when it gets past its checks. -/
theorem handoffTouches_iff (accepted : Bool) : s.HandoffTouches g accepted ↔ s.Dispatches g := by
  constructor
  · intro htouches
    by_contra hrefused
    simp only [HandoffTouches, handoff_of_not_dispatches hrefused, List.not_mem_nil, ne_eq,
      not_true_eq_false, or_self] at htouches
  · intro hpast
    obtain ⟨rec, -, -, -, -, hcall⟩ := handoff_of_dispatches hpast accepted
    exact .inl hcall

/-- Past the checks, the record does not stay GRANTED. -/
theorem Dispatches.records_ne (h : s.Dispatches g) (accepted : Bool) :
    (s.handoff g accepted).1.records ≠ s.records := by
  obtain ⟨rec, hfind, hgranted, hrecords, -, -⟩ := handoff_of_dispatches h accepted
  intro hsame
  have hmoved : s.records.find? g.request = some (handedOff rec accepted) := by
    rw [← hsame, hrecords, FinMap.find?_insert_self]
  rw [hfind, Option.some.injEq] at hmoved
  have hlife : (handedOff rec accepted).lifecycle = .granted := hmoved ▸ hgranted
  cases accepted <;> cases hlife

end Scheduler

/-- An issued grant that gets past the checks of a handoff is the current grant of its
record. -/
theorem System.Attested.current_of_dispatches {y : System D} (h : y.Attested)
    {g : CollectiveGrant} (hg : g ∈ y.issued) (hpast : y.sched.Dispatches g) :
    ∃ rec, y.sched.records.find? g.request = some rec ∧ rec.lifecycle = .granted ∧
      rec.currentGrant = some g := by
  obtain ⟨rec, hfind, hgranted, hchecks⟩ := Scheduler.dispatches_iff.mp hpast
  have hholder : rec.lifecycle.isHolder = true := by
    rw [hgranted]
    rfl
  exact ⟨rec, hfind, hgranted,
    (h.attributed.current_of_holder hg hfind hchecks.requestGen hholder).1⟩

/-! ## Which grants reach the fabric -/

/-- In service, as long as every grant that got past the checks of an earlier handoff was
issued, a handoff has an effect only for the stored grant of a GRANTED record exactly when
a grant that gets past its checks was issued since the last restore; once the ids are used
up, the entry also has to hold that grant and to be open. -/
theorem handoff_touches_stored_iff [Double D] {y : System D}
    (hy : y.Served fun y op => op.HandsOffIssued y) (g : CollectiveGrant) (accepted : Bool) :
    (y.sched.HandoffTouches g accepted → y.sched.Stores g) ↔
      (y.sched.Dispatches g → g ∈ y.issued ∧
        (y.sched.nextGrantId.value.toNat = maxValue →
          ∃ gs, y.sched.grants.find? g.id = some gs ∧ gs.grant = g ∧ gs.terminal = false)) := by
  have hattested := hy.attested
  rw [Scheduler.handoffTouches_iff]
  constructor
  · intro h hpast
    have hstored := h hpast
    obtain ⟨gs, hentry, hgrant, -⟩ := hstored.entry
    exact ⟨hgrant ▸ (hy.issuance.entries g.id gs hentry).2, fun _ => hstored.entry⟩
  · intro h hpast
    obtain ⟨hissued, hsaturated⟩ := h hpast
    obtain ⟨rec, hfind, hgranted, hcur⟩ := hattested.current_of_dispatches hissued hpast
    refine ⟨?_, g.request, rec, hfind, hcur, hgranted⟩
    rcases (Id.toNat_le_maxValue y.sched.nextGrantId).lt_or_eq with hbelow | hmax
    · have htable := hattested.table hbelow
      have hholder : rec.lifecycle.isHolder = true := by
        rw [hgranted]
        rfl
      obtain ⟨gs, hentry, hopen⟩ := htable.held _ rec g hfind hholder hcur
      exact ⟨gs, hentry, htable.entry_grant hy.issuance hissued hentry, hopen⟩
    · exact hsaturated hmax

theorem handoff_touches_stored_iff_granted :
    ∃ (y : System ℚ) (g : CollectiveGrant), (y.Served fun y op => op.HandsOffIssued y) ∧
      y.sched.HandoffTouches g true ∧ y.sched.Stores g := by
  have hy : (Scenario.start.run Scenario.granted).Served fun y op => op.HandsOffIssued y :=
    .run (.start PolicyConfig.default 1) (by decide +kernel)
  obtain ⟨g, hg, hpast⟩ : ∃ g ∈ (Scenario.start.run Scenario.granted).issued,
      (Scenario.start.run Scenario.granted).sched.Dispatches g := by decide +kernel
  have hbelow : (Scenario.start.run Scenario.granted).sched.nextGrantId.value.toNat ≠ maxValue := by
    decide +kernel
  have htouches := (Scheduler.handoffTouches_iff true).mpr hpast
  exact ⟨_, g, hy, htouches, (handoff_touches_stored_iff hy g true).mpr
    (fun _ => ⟨hg, fun hmax => absurd hmax hbelow⟩) htouches⟩

/-- A copy of an issued grant under an id that was never given out reaches the fabric. -/
theorem handoff_touches_unstored_copy :
    ∃ (y : System ℚ) (g : CollectiveGrant), y.InService ∧
      g.participants.length = g.participantGens.length ∧ y.sched.HandoffTouches g true ∧
      y.sched.grants.find? g.id = none ∧ ¬y.sched.Stores g := by
  obtain ⟨y, g, rec, hy, -, -, htest⟩ := Scenario.exists_of_someGrant Scenario.granted
    (fun s g _ => g.participants.length = g.participantGens.length &&
      s.Dispatches { g with id := ⟨7⟩ } && (s.grants.find? ⟨7⟩).isNone)
    (by decide +kernel)
  simp only [Bool.and_eq_true, decide_eq_true_eq, Option.isNone_iff_eq_none] at htest
  obtain ⟨⟨hlength, hpast⟩, habsent⟩ := htest
  refine ⟨y, { g with id := ⟨7⟩ }, hy, hlength, (Scheduler.handoffTouches_iff true).mpr hpast,
    habsent, fun hstored => ?_⟩
  obtain ⟨gs, hentry, -⟩ := hstored.entry
  rw [habsent] at hentry
  cases hentry

/-! ## Handoffs that fail -/

/-- In service, a handoff that returns false leaves the records, the grant table and the
index as they were exactly when the fabric accepts every grant that gets past its checks;
a grant issued before the last restore also needs an entry. -/
theorem failed_handoff_leaves_no_trace_iff [Double D] {y : System D} (hy : y.InService)
    (g : CollectiveGrant) (accepted : Bool) :
    ((y.sched.handoff g accepted).2.1 = false →
        y.sched.SameTables (y.sched.handoff g accepted).1) ↔
      (y.sched.Dispatches g → accepted = true ∧
        (g ∉ y.issued → (y.sched.grants.find? g.id).isSome = true)) := by
  by_cases hpast : y.sched.Dispatches g
  · obtain ⟨rec, -, -, -, hanswer, -⟩ := Scheduler.handoff_of_dispatches hpast accepted
    have hstocked : g ∈ y.issued → (y.sched.grants.find? g.id).isSome = true := by
      intro hissued
      obtain ⟨rec, hfind, hgranted, hcur⟩ := hy.attested.current_of_dispatches hissued hpast
      exact hy.attested.stocked _ rec g hfind (by rw [hgranted]; rfl) hcur
    constructor
    · intro h _
      -- the record has moved, so that the handoff did not return false
      have htrue : (y.sched.handoff g accepted).2.1 = true :=
        Bool.eq_true_of_not_eq_false fun hfalse => hpast.records_ne accepted (h hfalse).records
      rw [hanswer, Bool.and_eq_true] at htrue
      exact ⟨htrue.1, fun _ => htrue.2⟩
    · intro h hfalse
      obtain ⟨haccepted, hentry⟩ := h hpast
      have hsome : (y.sched.grants.find? g.id).isSome = true := by
        by_cases hissued : g ∈ y.issued
        · exact hstocked hissued
        · exact hentry hissued
      rw [hanswer, haccepted, hsome] at hfalse
      cases hfalse
  · rw [Scheduler.handoff_of_not_dispatches hpast]
    exact ⟨fun _ h => absurd h hpast, fun _ _ => .refl _⟩

namespace Scenario

/-- The request is granted, and its participant goes down. -/
def participantDown : List (Op ℚ) :=
  Scenario.granted ++ [.publishParticipant { participant 1 1 1 11 with ready := false }]

end Scenario

/-- A handoff that revalidation refuses leaves no trace. -/
theorem failed_handoff_leaves_no_trace_iff_refused :
    ∃ (y : System ℚ) (g : CollectiveGrant), y.InService ∧ g ∈ y.issued ∧
      (y.sched.handoff g false).2.1 = false ∧ y.sched.SameTables (y.sched.handoff g false).1 := by
  obtain ⟨y, g, rec, hy, hg, -, htest⟩ := Scenario.exists_of_someGrant Scenario.participantDown
    (fun s g _ => !(s.handoff g false).2.1 && !decide (s.Dispatches g)) (by decide +kernel)
  simp only [Bool.and_eq_true, Bool.not_eq_true', decide_eq_false_iff_not] at htest
  exact ⟨y, g, hy, hg, htest.1, (failed_handoff_leaves_no_trace_iff hy g false).mpr
    (fun hpast => absurd hpast htest.2) htest.1⟩

/-- The fabric refuses the grant: the handoff returns false, the record stays DISPATCHING
and the entry is marked as handed off, and the grant cannot be handed off again. -/
theorem failed_handoff_leaves_record_dispatching :
    ∃ (y : System ℚ) (g : CollectiveGrant), y.InService ∧ g ∈ y.issued ∧
      (y.sched.handoff g false).2.1 = false ∧
      (y.sched.records.find? g.request).map (·.lifecycle) = some .granted ∧
      ((y.sched.handoff g false).1.records.find? g.request).map (·.lifecycle) =
        some .dispatching ∧
      (y.sched.grants.find? g.id).map (·.handedOff) = some false ∧
      ((y.sched.handoff g false).1.grants.find? g.id).map (·.handedOff) = some true ∧
      ((y.sched.handoff g false).1.handoff g true).2.1 = false := by
  obtain ⟨y, g, rec, hy, hg, -, htest⟩ := Scenario.exists_of_someGrant Scenario.granted
    (fun s g _ => !(s.handoff g false).2.1 &&
      (s.records.find? g.request).map (·.lifecycle) = some .granted &&
      ((s.handoff g false).1.records.find? g.request).map (·.lifecycle) = some .dispatching &&
      (s.grants.find? g.id).map (·.handedOff) = some false &&
      ((s.handoff g false).1.grants.find? g.id).map (·.handedOff) = some true &&
      !((s.handoff g false).1.handoff g true).2.1)
    (by decide +kernel)
  simp only [Bool.and_eq_true, Bool.not_eq_true', decide_eq_true_eq, and_assoc] at htest
  exact ⟨y, g, hy, hg, htest⟩

end CollectiveScheduler
