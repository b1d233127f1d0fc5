/-
  Scheduler/Adjudication.lean --- the walks over the evidence as lists of checks.

  Readiness and grant revalidation are chains of early returns.  A chain that ends in
  its last value has passed every check in front of it, so that each walk is the
  conjunction of its checks.  Both read the same evidence, and the lists show which
  part of it either of them leaves unread.
-/
import CollectiveScheduler.Scheduler.Readiness

set_option autoImplicit false

namespace CollectiveScheduler

open Foundation

namespace Scheduler

/-- A chain of guards that ends in `v` has passed each guard whose result is not `v`. -/
theorem guard_eq_iff {α : Type} {p : Prop} [Decidable p] {a b v : α} (ha : a ≠ v) :
    (if p then a else b) = v ↔ ¬p ∧ b = v := by
  by_cases hp : p
  · rw [if_pos hp]
    exact ⟨fun h => absurd h ha, fun h => absurd hp h.1⟩
  · rw [if_neg hp]
    exact ⟨fun h => ⟨hp, h⟩, And.right⟩

variable {D : Type} {s : Scheduler D} {req : CollectiveRequest D}

/-! ## Readiness -/

theorem isStale_eq_false_and_isMissing_eq_false {gens : List ParticipantGeneration}
    {pid : ParticipantId} {i : Nat} :
    s.isStale gens pid i = false ∧ s.isMissing gens pid i = false ↔
      s.participantCurrent gens pid i = true := by
  unfold isStale isMissing participantCurrent
  cases s.participants.find? pid with
  | none => simp
  | some p => by_cases hgen : gens[i]? = some p.gen <;> simp [hgen]

theorem dependencyBlock_ne_ready (s : Scheduler D) (d : DependencyRequirement) :
    s.dependencyBlock d ≠ some .ready := by
  unfold dependencyBlock
  split
  · exact fun h => by cases h
  · split_ifs <;> exact fun h => by cases h

theorem dependencyBlock_eq_none {d : DependencyRequirement} :
    s.dependencyBlock d = none ↔ s.dependencySatisfied d = true := by
  unfold dependencyBlock dependencySatisfied
  cases s.deps.find? d.id with
  | none => simp
  | some st => by_cases hgen : st.gen = d.gen <;> simp [hgen]

theorem reservationBlock_ne_ready (s : Scheduler D) (req : CollectiveRequest D) :
    s.reservationBlock req ≠ some .ready := by
  unfold reservationBlock
  split
  · exact fun h => by cases h
  · split_ifs
    · exact fun h => by cases h
    · split
      · exact fun h => by cases h
      · split_ifs <;> exact fun h => by cases h

theorem reservationBlock_eq_none :
    s.reservationBlock req = none ↔ s.reservationUsable req = true := by
  unfold reservationBlock reservationUsable
  cases req.reservationGen with
  | none => simp
  | some rg =>
      by_cases hcurrent : rg = s.reservationGen
      · subst hcurrent
        cases hfind : s.reservations.find? s.reservationGen <;> simp [hfind]
      · simp [hcurrent]

/-- The participant loop of hard eligibility runs through exactly if every participant is
current. -/
theorem findSome?_participantRejection_eq_none_iff {gens : List ParticipantGeneration}
    {entries : List (ParticipantId × Nat)} :
    entries.findSome? (s.participantRejection gens) = none ↔
      ∀ e ∈ entries, s.participantCurrent gens e.1 e.2 = true := by
  rw [List.findSome?_eq_none_iff]
  refine forall₂_congr fun e _ => ?_
  unfold participantRejection participantCurrent
  cases s.participants.find? e.1 with
  | none => simp
  | some p => by_cases hgen : gens[e.2]? = some p.gen <;> simp [hgen]

/-- The checks behind the readiness READY. -/
structure Prepared [Double D] (s : Scheduler D) (req : CollectiveRequest D) : Prop where
  participants : ∀ e ∈ req.participants.zipIdx,
    s.participantCurrent req.participantGens e.1 e.2 = true
  plan : s.planUsable req.planId req.planGen = true
  dependencies : ∀ d ∈ req.dependencies, s.dependencySatisfied d = true
  reservation : s.reservationUsable req = true
  congestion : s.overHardCeiling = false
  capacity : s.overCapacity req = false

theorem computeReadiness_eq_ready_iff [Double D] :
    s.computeReadiness req = .ready ↔ s.Prepared req := by
  have hparticipants : (∀ e ∈ req.participants.zipIdx,
        s.participantCurrent req.participantGens e.1 e.2 = true) ↔
      ¬req.participants.zipIdx.any (fun e => s.isStale req.participantGens e.1 e.2) = true ∧
        ¬req.participants.zipIdx.any (fun e => s.isMissing req.participantGens e.1 e.2) = true := by
    simp only [← isStale_eq_false_and_isMissing_eq_false, Bool.not_eq_true, List.any_eq_false,
      ← forall_and]
  have hdependencies : (∀ d ∈ req.dependencies, s.dependencySatisfied d = true) ↔
      req.dependencies.findSome? s.dependencyBlock = none := by
    simp only [List.findSome?_eq_none_iff, dependencyBlock_eq_none]
  unfold computeReadiness
  rw [guard_eq_iff (by decide), guard_eq_iff (by decide), ← and_assoc, ← hparticipants]
  constructor
  · rintro ⟨hcurrent, h⟩
    cases hplan : s.plan req.planId with
    | none =>
        rw [hplan] at h
        cases h
    | some pl =>
        rw [hplan] at h
        obtain ⟨hgen, h⟩ := (guard_eq_iff (by decide)).mp h
        obtain ⟨hvalid, h⟩ := (guard_eq_iff (by decide)).mp h
        cases hdeps : req.dependencies.findSome? s.dependencyBlock with
        | some rd =>
            rw [hdeps] at h
            obtain ⟨d, -, hd⟩ := List.exists_of_findSome?_eq_some hdeps
            exact absurd (hd.trans (congrArg some h)) (s.dependencyBlock_ne_ready d)
        | none =>
            rw [hdeps] at h
            cases hres : s.reservationBlock req with
            | some rd =>
                rw [hres] at h
                exact absurd (hres.trans (congrArg some h)) (s.reservationBlock_ne_ready req)
            | none =>
                rw [hres] at h
                obtain ⟨hceiling, h⟩ := (guard_eq_iff (by decide)).mp h
                obtain ⟨hcapacity, -⟩ := (guard_eq_iff (by decide)).mp h
                refine ⟨hcurrent, ?_, hdependencies.mpr hdeps, reservationBlock_eq_none.mp hres,
                  Bool.eq_false_iff.mpr hceiling, Bool.eq_false_iff.mpr hcapacity⟩
                simp only [planUsable, hplan]
                simpa using And.intro (not_not.mp hgen) hvalid
  · intro h
    refine ⟨h.participants, ?_⟩
    have hplan := h.plan
    unfold planUsable at hplan
    cases hfind : s.plan req.planId with
    | none =>
        rw [hfind] at hplan
        cases hplan
    | some pl =>
        simp only [hfind, Bool.and_eq_true, decide_eq_true_eq] at hplan
        simp only [hplan.1, hplan.2, hdependencies.mp h.dependencies,
          reservationBlock_eq_none.mpr h.reservation, h.congestion, h.capacity, ne_eq,
          not_true_eq_false, Bool.not_true, Bool.false_eq_true, if_false]

/-! ## Revalidation -/

/-- A dependency is published at the required generation. -/
def dependencyCurrent (s : Scheduler D) (d : DependencyRequirement) : Bool :=
  match s.deps.find? d.id with
  | none => false
  | some st => st.gen = d.gen

/-- A named reservation generation is the current one. -/
def reservationCurrent (s : Scheduler D) (req : CollectiveRequest D) : Bool :=
  match req.reservationGen with
  | none => true
  | some rg => rg = s.reservationGen

/-- The congestion, if published, has the generation of a snapshot. -/
def congestionCurrent (s : Scheduler D) (gen : CongestionGeneration) : Bool :=
  match s.congestion with
  | none => true
  | some c => c.gen = gen

theorem dependencySatisfied_iff {d : DependencyRequirement} :
    s.dependencySatisfied d = true ↔ s.dependencyCurrent d = true ∧
      ∀ st, s.deps.find? d.id = some st → st.satisfied = true := by
  unfold dependencySatisfied dependencyCurrent
  cases s.deps.find? d.id <;> simp

theorem reservationUsable_iff :
    s.reservationUsable req = true ↔ s.reservationCurrent req = true ∧
      ∀ rg, req.reservationGen = some rg →
        ∃ res, s.reservations.find? rg = some res ∧ res.valid = true := by
  unfold reservationUsable reservationCurrent
  cases req.reservationGen with
  | none => simp
  | some rg => cases hfind : s.reservations.find? rg <;> simp [hfind]

/-- The checks behind the adjudication VALID, with those the grant asks for. -/
structure Revalidates (s : Scheduler D) (g : CollectiveGrant) (rec : Record D) : Prop where
  requestGen : rec.request.gen = g.requestGen
  collectiveGen : rec.request.collectiveGen = g.collectiveGen
  epoch : g.evidence.epoch = s.epoch
  lifecycle : rec.lifecycle ∉
    [LifecycleState.cancelled, .superseded, .stale, .completed]
  plan : g.revalidation.requireFreshPlan = true → s.planUsable g.plan g.planGen = true
  participants : g.revalidation.requireFreshParticipants = true →
    g.participants.length = rec.request.participants.length ∧
      ∀ e ∈ g.participants.zipIdx, s.participantCurrent g.participantGens e.1 e.2 = true
  dependencies : g.revalidation.requireFreshDependencies = true →
    ∀ d ∈ rec.request.dependencies, s.dependencyCurrent d = true
  reservation : g.revalidation.requireFreshReservation = true →
    s.reservationCurrent rec.request = true
  congestion : g.revalidation.requireFreshCongestion = true →
    s.congestionCurrent g.evidence.congestionGen = true

/-- A check that is made on demand only passes where it is not demanded or holds. -/
theorem demanded_iff {demand check : Bool} :
    ¬(demand && !check) = true ↔ (demand = true → check = true) := by
  cases demand <;> cases check <;> decide

theorem revalidateGrant_eq_valid_iff {g : CollectiveGrant} :
    s.revalidateGrant g = .valid ↔
      ∃ rec, s.records.find? g.request = some rec ∧ s.Revalidates g rec := by
  unfold revalidateGrant
  cases s.records.find? g.request with
  | none => simp
  | some rec =>
      simp only [Option.some.injEq, exists_eq_left']
      -- the guards of the chain, one after the other
      rw [guard_eq_iff (by decide), guard_eq_iff (by decide), guard_eq_iff (by decide),
        guard_eq_iff (by decide), guard_eq_iff (by decide), guard_eq_iff (by decide),
        guard_eq_iff (by decide), guard_eq_iff (by decide), guard_eq_iff (by decide),
        guard_eq_iff (by decide), guard_eq_iff (by decide), guard_eq_iff (by decide)]
      constructor
      · rintro ⟨hgen, hcgen, hepoch, hcancelled, hsuperseded, hstale, hplan, hparts, hdeps, hres,
          hcong, hcompleted, -⟩
        constructor
        case requestGen => exact not_not.mp hgen
        case collectiveGen => exact not_not.mp hcgen
        case epoch => exact not_not.mp hepoch
        case lifecycle => simp [hcancelled, hsuperseded, hstale, hcompleted]
        case plan => exact demanded_iff.mp hplan
        case participants =>
          intro hdemand
          simpa [hdemand] using hparts
        case dependencies =>
          intro hdemand
          exact List.all_eq_true.mp (demanded_iff.mp hdeps hdemand)
        case reservation =>
          intro hdemand
          unfold reservationCurrent
          cases hnamed : rec.request.reservationGen with
          | none => rfl
          | some rg => simpa [hdemand, hnamed] using hres
        case congestion =>
          intro hdemand
          unfold congestionCurrent
          cases hpublished : s.congestion with
          | none => rfl
          | some c => simpa [hdemand, hpublished] using hcong
      · intro h
        have hlife := h.lifecycle
        simp only [List.mem_cons, List.not_mem_nil, or_false, not_or] at hlife
        refine ⟨not_not.mpr h.requestGen, not_not.mpr h.collectiveGen, not_not.mpr h.epoch,
          hlife.1, hlife.2.1, hlife.2.2.1, demanded_iff.mpr h.plan, ?_,
          demanded_iff.mpr fun hdemand => List.all_eq_true.mpr (h.dependencies hdemand), ?_, ?_,
          hlife.2.2.2, rfl⟩
        · simpa using h.participants
        · have hres := h.reservation
          unfold reservationCurrent at hres
          cases hnamed : rec.request.reservationGen with
          | none => simp
          | some rg => simpa [hnamed] using hres
        · have hcong := h.congestion
          unfold congestionCurrent at hcong
          cases hpublished : s.congestion with
          | none => simp
          | some c => simpa [hpublished] using hcong

end Scheduler

end CollectiveScheduler
