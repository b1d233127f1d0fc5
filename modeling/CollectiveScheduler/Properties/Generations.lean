/-
  Properties/Generations.lean --- whether stored generations regress.

  Each publication but one compares the generation it offers with the stored one.
  `publishReservation` does not: it makes the offered generation the current one,
  whatever it is.  This is the only way back, so a run keeps its generations exactly
  when none of its reservations goes below the current one
  (`generations_never_regress_iff`).

  Congestion and capacity store their generation twice, in the evidence and in a
  counter; the check reads the first copy, and the second is the one that grants carry.
-/
import CollectiveScheduler.System.EvidenceStep
import CollectiveScheduler.System.GrantStep
import CollectiveScheduler.System.Scenario

set_option autoImplicit false

namespace CollectiveScheduler

open Foundation

variable {D : Type}

/-! ## The order of generations -/

/-- No generation of the evidence falls. -/
structure Evidence.GenerationsLe (e e' : Evidence D) : Prop where
  participants : FinMap.Climbs (·.gen) e.participants e'.participants
  plans : FinMap.Climbs (·.gen) e.plans e'.plans
  deps : FinMap.Climbs (·.gen) e.deps e'.deps
  congestion : ∀ old, e.congestion = some old →
    ∃ new, e'.congestion = some new ∧ old.gen ≤ new.gen
  congestionGen : e.congestionGen ≤ e'.congestionGen
  capacity : ∀ old, e.capacity = some old → ∃ new, e'.capacity = some new ∧ old.gen ≤ new.gen
  capacityGen : e.capacityGen ≤ e'.capacityGen
  reservationGen : e.reservationGen ≤ e'.reservationGen

/-- No stored generation falls: those of the evidence, of each request, and the epoch. -/
structure Scheduler.GenerationsLe (s s' : Scheduler D) : Prop where
  evidence : s.evidence.GenerationsLe s'.evidence
  records : FinMap.Climbs (·.request.gen) s.records s'.records
  epoch : s.epoch ≤ s'.epoch

namespace Evidence.GenerationsLe

variable {e e' e'' : Evidence D}

theorem refl (e : Evidence D) : e.GenerationsLe e where
  participants := .refl _
  plans := .refl _
  deps := .refl _
  congestion old hold := ⟨old, hold, le_refl _⟩
  congestionGen := le_refl _
  capacity old hold := ⟨old, hold, le_refl _⟩
  capacityGen := le_refl _
  reservationGen := le_refl _

theorem trans (h : e.GenerationsLe e') (h' : e'.GenerationsLe e'') : e.GenerationsLe e'' where
  participants := h.participants.trans h'.participants
  plans := h.plans.trans h'.plans
  deps := h.deps.trans h'.deps
  congestion old hold := by
    obtain ⟨mid, hmid, hle⟩ := h.congestion old hold
    obtain ⟨new, hnew, hle'⟩ := h'.congestion mid hmid
    exact ⟨new, hnew, hle.trans hle'⟩
  congestionGen := h.congestionGen.trans h'.congestionGen
  capacity old hold := by
    obtain ⟨mid, hmid, hle⟩ := h.capacity old hold
    obtain ⟨new, hnew, hle'⟩ := h'.capacity mid hmid
    exact ⟨new, hnew, hle.trans hle'⟩
  capacityGen := h.capacityGen.trans h'.capacityGen
  reservationGen := h.reservationGen.trans h'.reservationGen

end Evidence.GenerationsLe

theorem Scheduler.GenerationsLe.refl (s : Scheduler D) : s.GenerationsLe s :=
  ⟨.refl _, .refl _, le_refl _⟩

theorem Scheduler.GenerationsLe.trans {s s' s'' : Scheduler D} (h : s.GenerationsLe s')
    (h' : s'.GenerationsLe s'') : s.GenerationsLe s'' :=
  ⟨h.evidence.trans h'.evidence, h.records.trans h'.records, h.epoch.trans h'.epoch⟩

/-! ## The two copies -/

/-- The counters are the generations of the evidence, or 0 where there is none. -/
structure Evidence.Mirrored (e : Evidence D) : Prop where
  congestion : e.congestionGen = e.congestion.elim 0 (·.gen)
  capacity : e.capacityGen = e.capacity.elim 0 (·.gen)

theorem Evidence.Step.mirrored {e e' : Evidence D} {op : Op D} (h : e.Step op e')
    (he : e.Mirrored) : e'.Mirrored := by
  cases h with
  | congestion _ => exact ⟨rfl, he.capacity⟩
  | capacity _ => exact ⟨he.congestion, rfl⟩
  | reset => exact ⟨rfl, rfl⟩
  | _ => exact ⟨he.congestion, he.capacity⟩

/-- A counter is not above a generation that is not below the evidence. -/
theorem counter_le {V : Type} {d : GenDomain} {found : Option V} {gen : V → Gen d}
    {offered : Gen d} (h : ∀ old, found = some old → gen old ≤ offered) :
    found.elim 0 gen ≤ offered := by
  cases found with
  | none => exact Nat.zero_le _
  | some old => exact h old rfl

/-! ## The steps -/

/-- A reservation of the call is not below the current one. -/
def Op.keepsReservation (s : Scheduler D) : Op D → Bool
  | .publishReservation res => s.reservationGen ≤ res.gen
  | _ => true

/-- The call offers a generation smaller than the stored one. -/
def Op.offersSmaller (s : Scheduler D) : Op D → Bool
  | .publishParticipant p => (s.participants.find? p.id).any fun old => p.gen < old.gen
  | .publishPlan pl => (s.plans.find? pl.id).any fun old => pl.gen < old.gen
  | .publishDependency dep => (s.deps.find? dep.id).any fun old => dep.gen < old.gen
  | .publishReservation res => res.gen < s.reservationGen
  | .publishCongestion cong => cong.gen < s.congestionGen
  | .publishCapacity cap => cap.gen < s.capacityGen
  | .supersede req => (s.records.find? req.id).any fun old => req.gen < old.request.gen
  | .advanceCoordinatorEpoch epoch => epoch < s.epoch
  | _ => false

theorem Evidence.Step.generationsLe {s : Scheduler D} {e' : Evidence D} {op : Op D}
    (h : s.evidence.Step op e') (hmirrored : s.evidence.Mirrored) (hreset : op.isReset = false)
    (hkeeps : op.keepsReservation s = true) : s.evidence.GenerationsLe e' := by
  cases h with
  | same op => exact .refl _
  | participant hle => exact { GenerationsLe.refl _ with participants := FinMap.climbs_insert hle }
  | plan hle => exact { GenerationsLe.refl _ with plans := FinMap.climbs_insert hle }
  | dependency hle => exact { GenerationsLe.refl _ with deps := FinMap.climbs_insert hle }
  | reservation res =>
      exact { GenerationsLe.refl _ with reservationGen := of_decide_eq_true hkeeps }
  | congestion hle =>
      exact { GenerationsLe.refl _ with
        congestion := fun old hold => ⟨_, rfl, hle old hold⟩
        congestionGen := hmirrored.congestion.trans_le (counter_le hle) }
  | capacity hle =>
      exact { GenerationsLe.refl _ with
        capacity := fun old hold => ⟨_, rfl, hle old hold⟩
        capacityGen := hmirrored.capacity.trans_le (counter_le hle) }
  | fence worker boot recordOrder =>
      refine { GenerationsLe.refl _ with participants := FinMap.climbs_mapVals fun _ p => ?_ }
      split_ifs <;> exact le_refl _
  | reset => cases hreset

section Calls

variable [Double D]

theorem System.generationsLe_next {y : System D} {op : Op D} (hmirrored : y.sched.evidence.Mirrored)
    (hreset : op.isReset = false) (hkeeps : op.keepsReservation y.sched = true) :
    y.sched.GenerationsLe (y.next op).sched where
  evidence := (y.evidenceStep op).generationsLe hmirrored hreset hkeeps
  records id rec hfind := by
    have hstep := y.recordStep op id
    rw [hfind] at hstep
    exact hstep.gen_le
  epoch := (y.grantStep op).epoch

omit [Double D] in
/-- A call that is refused throws and changes nothing. -/
theorem System.ofVoid_refused {y : System D} {r : Scheduler D × Except SchedulerError Unit}
    {e : SchedulerError} (h : r = (y.sched, .error e)) : y.ofVoid r = (y, .threw e) := by
  rw [h]
  rfl

/-- Every call but the publication of a reservation refuses a smaller generation. -/
theorem System.refuses_smaller {y : System D} {op : Op D} (hmirrored : y.sched.evidence.Mirrored)
    (hkeeps : op.keepsReservation y.sched = true) (hsmaller : op.offersSmaller y.sched = true) :
    ∃ e, y.step op = (y, .threw e) := by
  cases op with
  | publishParticipant p =>
      have hregress : y.sched.participantRegresses p = true := by
        rw [Scheduler.participantRegresses_eq]
        exact hsmaller
      exact ⟨_, ofVoid_refused (if_pos hregress)⟩
  | publishPlan pl =>
      exact ⟨_, ofVoid_refused (if_pos hsmaller)⟩
  | publishDependency dep =>
      exact ⟨_, ofVoid_refused (if_pos hsmaller)⟩
  | publishReservation res =>
      exact absurd (of_decide_eq_true hsmaller) (not_lt_of_ge (of_decide_eq_true hkeeps))
  | publishCongestion cong =>
      have hregress : (y.sched.congestion.any fun old => cong.gen < old.gen) = true := by
        by_contra hnot
        exact absurd (of_decide_eq_true hsmaller)
          (not_lt_of_ge (hmirrored.congestion.trans_le (counter_le (le_of_not_regresses hnot))))
      exact ⟨_, ofVoid_refused (if_pos hregress)⟩
  | publishCapacity cap =>
      have hregress : (y.sched.capacity.any fun old => cap.gen < old.gen) = true := by
        by_contra hnot
        exact absurd (of_decide_eq_true hsmaller)
          (not_lt_of_ge (hmirrored.capacity.trans_le (counter_le (le_of_not_regresses hnot))))
      exact ⟨_, ofVoid_refused (if_pos hregress)⟩
  | supersede req =>
      obtain ⟨old, hfind, hlt⟩ := (Option.any_eq_true _ _).mp hsmaller
      have hle : req.gen ≤ old.request.gen := (of_decide_eq_true hlt).le
      have hrefused : y.sched.supersede req =
          (y.sched, .error (throwTransition "supersede generation must advance")) := by
        rw [Scheduler.supersede, hfind]
        exact if_pos hle
      exact ⟨_, ofVoid_refused hrefused⟩
  | advanceCoordinatorEpoch epoch =>
      have hle : epoch ≤ y.sched.epoch := (of_decide_eq_true hsmaller).le
      exact ⟨_, ofVoid_refused (if_pos hle)⟩
  | _ => cases hsmaller

/-! ## The result -/

omit [Double D] in
theorem System.start_mirrored (policy : PolicyConfig D) (epoch : CoordinatorEpoch) :
    (System.start policy epoch).sched.evidence.Mirrored := ⟨rfl, rfl⟩

theorem System.run_mirrored {y : System D} (h : y.sched.evidence.Mirrored) (ops : List (Op D)) :
    (y.run ops).sched.evidence.Mirrored :=
  Runs.exec_induct (P := fun y : System D => y.sched.evidence.Mirrored)
    (fun y op hy => (y.evidenceStep op).mirrored hy) ops h

/-- What the steps of a run keep, the run keeps. -/
theorem System.generationsLe_run {y : System D} {ops : List (Op D)}
    (hmirrored : y.sched.evidence.Mirrored) (hreset : ∀ op ∈ ops, op.isReset = false)
    (hkeeps : Runs.Admissible System.next (fun y op => op.keepsReservation y.sched = true) y ops) :
    y.sched.GenerationsLe (y.run ops).sched := by
  refine (Runs.invariant
    (I := fun z : System D => z.sched.evidence.Mirrored ∧ y.sched.GenerationsLe z.sched)
    (fun z op hz hop => ?_) ⟨hmirrored, .refl _⟩
    (hkeeps.and (Runs.admissible_of_forall hreset y))).2
  exact ⟨(z.evidenceStep op).mirrored hz.1,
    hz.2.trans (System.generationsLe_next hz.1 hop.2 hop.1)⟩

/-- Over a run of calls without a reset no stored generation ever falls and every call
that offers a smaller one throws and changes nothing, exactly when each reservation the
run publishes is not below the current one. -/
theorem generations_never_regress_iff (policy : PolicyConfig D) (epoch : CoordinatorEpoch)
    (ops : List (Op D)) (hreset : ∀ op ∈ ops, op.isReset = false) :
    let y := System.start policy epoch
    ((∀ early mid late, ops = early ++ mid ++ late →
        (y.run early).sched.GenerationsLe (y.run (early ++ mid)).sched) ∧
      ∀ early op late, ops = early ++ op :: late → op.offersSmaller (y.run early).sched = true →
        ∃ e, (y.run early).step op = (y.run early, .threw e)) ↔
    Runs.Admissible System.next (fun y op => op.keepsReservation y.sched = true) y ops := by
  intro y
  have hmirrored : ∀ early, (y.run early).sched.evidence.Mirrored :=
    System.run_mirrored (System.start_mirrored policy epoch)
  have happend : ∀ early mid, y.run (early ++ mid) = (y.run early).run mid :=
    fun _ _ => Runs.exec_append _ _ _
  constructor
  · rintro ⟨hle, -⟩
    refine Runs.admissible_iff_split.mpr fun early op late hsplit => ?_
    cases op with
    | publishReservation res =>
        have hstep := (hle early [.publishReservation res] late (by simpa using hsplit)).evidence
        rw [happend] at hstep
        exact decide_eq_true hstep.reservationGen
    | _ => rfl
  · intro hkeeps
    refine ⟨fun early mid late hsplit => ?_, fun early op late hsplit hsmaller => ?_⟩
    · rw [hsplit, List.append_assoc] at hkeeps hreset
      have hmid := (Runs.admissible_append.mp (Runs.admissible_append.mp hkeeps).2).1
      rw [happend]
      exact System.generationsLe_run (hmirrored early)
        (fun op hop => hreset op (by simp [hop])) hmid
    · exact System.refuses_smaller (hmirrored early)
        (Runs.admissible_iff_split.mp hkeeps early op late hsplit) hsmaller

end Calls

/-- Two reservations in order, and a plan that is offered again at its first generation:
that call is refused. -/
theorem generations_never_regress_iff_reserved :
    let ops : List (Op ℚ) := [.publishReservation { gen := 1, reservedBandwidth := 0 },
      .publishReservation { gen := 2, reservedBandwidth := 0 },
      .publishPlan (Scenario.plan 1 2 [1]), .publishPlan (Scenario.plan 1 1 [1])]
    let y : System ℚ := System.start PolicyConfig.default 1
    (∀ early mid late, ops = early ++ mid ++ late →
        (y.run early).sched.GenerationsLe (y.run (early ++ mid)).sched) ∧
      ∀ early op late, ops = early ++ op :: late → op.offersSmaller (y.run early).sched = true →
        ∃ e, (y.run early).step op = (y.run early, .threw e) := by
  intro ops y
  exact (generations_never_regress_iff PolicyConfig.default 1 ops (by decide)).mpr
    (by decide +kernel)

/-- A reservation of generation 1 after one of generation 2 is accepted, and the current
generation falls. -/
theorem reservation_generation_regresses :
    let y := (System.start PolicyConfig.default 1).run
      [.publishReservation { gen := 2, reservedBandwidth := (0 : ℚ) }]
    let op : Op ℚ := .publishReservation { gen := 1, reservedBandwidth := 0 }
    y.sched.reservationGen = 2 ∧ op.offersSmaller y.sched = true ∧ y.outcome op = .returned ∧
      (y.next op).sched.reservationGen = 1 := by
  decide +kernel

end CollectiveScheduler
