/-
  System/Saturation.lean --- a run that uses up the grant ids.

  The grant-id counter stops at its largest value, and a grant created from then on
  gets an id that another grant has.  One request that is superseded and granted in
  turn brings the counter there, one id at a time; `Cycled` describes the scheduler
  after any number of turns.
-/
import CollectiveScheduler.System.EvidenceStep
import CollectiveScheduler.System.NewGrants
import CollectiveScheduler.System.Scenario

set_option autoImplicit false

namespace CollectiveScheduler

open Foundation

variable {D : Type}

/-! ## A round with one candidate -/

namespace Scheduler

variable [Double D]

/-- One record is eligible, no other one is pending, and no grant is active. -/
structure SoleCandidate (s : Scheduler D) (id : CollectiveRequestId) (rec : Record D) :
    Prop where
  found : s.records.find? id = some rec
  eligible : s.eligible rec = true
  sole : ∀ id' rec', s.records.find? id' = some rec' → id' ≠ id →
    rec'.lifecycle.isPending = false
  free : s.activeGrants = 0
  idle : s.activeByParticipant = .empty
  bounds : s.policy.bounds = {}

variable {s : Scheduler D} {id : CollectiveRequestId} {rec : Record D}

theorem SoleCandidate.ranking (h : s.SoleCandidate id rec) (hkeyed : s.Keyed)
    (recordOrder : List CollectiveRequestId) : s.ranking recordOrder = [id] := by
  have hnodup : (s.ranking recordOrder).Nodup :=
    (ranking_perm hkeyed recordOrder).nodup_iff.mpr (nodup_candidates hkeyed recordOrder)
  refine List.perm_singleton.mp ((List.perm_ext_iff_of_nodup hnodup
    (List.nodup_singleton id)).mpr fun id' => ?_)
  rw [mem_ranking_iff hkeyed, List.mem_singleton]
  constructor
  · rintro ⟨rec', hfind, heligible⟩
    by_contra hne
    have hpending := (eligible_iff.mp heligible).1
    rw [h.sole id' rec' hfind hne] at hpending
    cases hpending
  · rintro rfl
    exact ⟨rec, h.found, h.eligible⟩

omit [Double D] in
theorem activeConflicts_of_idle (hidle : s.activeByParticipant = .empty) (rec : Record D) :
    s.activeConflicts rec = 0 := by
  refine List.countP_eq_zero.mpr fun gid hgid => ?_
  obtain ⟨p, -, ids, hfind, -⟩ := mem_conflictCandidates.mp hgid
  rw [hidle] at hfind
  cases hfind

theorem SoleCandidate.selection (h : s.SoleCandidate id rec) (hkeyed : s.Keyed)
    (recordOrder : List CollectiveRequestId) : s.selection recordOrder = [id] := by
  have hfind : s.refreshed.records.find? id = some (s.refreshRecord rec).1 := by
    rw [find?_refreshed, h.found, Option.map_some]
  have hrefreshed := refreshed_rewritten s
  have hclear : s.refreshed.activeConflicts (s.refreshRecord rec).1 = 0 :=
    activeConflicts_of_idle (hrefreshed.activeByParticipant.trans h.idle) _
  have hbounds : s.refreshed.policy.bounds = {} := h.bounds
  have hfree : s.refreshed.activeGrants = 0 := h.free
  have hroom : ¬(0 + ([] : List CollectiveRequestId).length ≥
      ({} : Bounds).maxActiveGrants.toNat) := by decide
  have hgroup : ¬(([] : List CollectiveRequestId).length ≥
      ({} : Bounds).maxOverlapGroup.toNat) := by decide
  rw [Scheduler.selection, h.ranking hkeyed]
  -- an exclusive request is selected and ends the loop; another one is and the list ends
  simp only [selectLoop, hfind, hclear, hbounds, hfree, if_neg hroom, if_neg hgroup, ne_eq,
    not_true, and_false, if_false, gt_iff_lt, lt_irrefl, compatibleWithAll, List.all_nil,
    Bool.not_true, Bool.false_eq_true, List.nil_append, ite_self]

/-- What a round with one candidate does. -/
structure SoleRound (s : Scheduler D) (id : CollectiveRequestId) (rec : Record D)
    (g : CollectiveGrant) (s' : Scheduler D) : Prop where
  grant : g = s.grantFor rec.request s.openDecision
  counter : s'.nextGrantId = s.nextGrantId.next
  grants : s'.grants = s.grants.emplace g.id { grant := g }
  granted : ∃ rec', s'.records.find? id = some rec' ∧ rec'.request = rec.request ∧
    rec'.lifecycle = .granted ∧ rec'.currentGrant = some g
  others : ∀ id', id' ≠ id →
    Option.Rel (Record.Rewritten Eq) (s.records.find? id') (s'.records.find? id')
  evidence : s'.evidence = s.evidence
  frame : s'.policy = s.policy ∧ s'.now = s.now ∧ s'.epoch = s.epoch ∧
    s'.nextRequestId = s.nextRequestId ∧ s'.activeGrants = s.activeGrants ∧
    s'.activeByParticipant = s.activeByParticipant

/-- The readiness pass leaves the lifecycle of the other records. -/
theorem SoleCandidate.refreshRecord_other (h : s.SoleCandidate id rec)
    {id' : CollectiveRequestId} {rec' : Record D} (hfind : s.records.find? id' = some rec')
    (hne : id' ≠ id) : rec'.Rewritten Eq (s.refreshRecord rec').1 where
  request := (refreshRecord_frame s rec').1
  currentGrant := (refreshRecord_frame s rec').2.1
  lifecycle := ((refreshRecord_refreshes s rec').eq_of_not_pending
    (h.sole id' rec' hfind hne)).symm

theorem SoleCandidate.round (h : s.SoleCandidate id rec) (horderly : s.Orderly)
    (recordOrder : List CollectiveRequestId) (grantOrder : List CollectiveGrantId) :
    ∃ s' dec g, s.scheduleRound recordOrder grantOrder = (s', .ok (dec, [g])) ∧
      s.SoleRound id rec g s' := by
  obtain ⟨s', dec, created, hround⟩ :=
    scheduleRound_isOk horderly.settled recordOrder grantOrder
  have hresult := scheduleRound_ok hround
  have hselection := h.selection horderly.keyed recordOrder
  have hfind : s.refreshed.records.find? id = some (s.refreshRecord rec).1 := by
    rw [find?_refreshed, h.found, Option.map_some]
  have hrest := horderly.settled id rec h.found
  have hready := refreshRecord_ready s h.eligible hrest.1 hrest.2
  have hrequest : (s.refreshRecord rec).1.request = rec.request := (refreshRecord_frame s rec).1
  have hcreated : createGrants s.openDecision s.refreshed [id] =
      ((s.refreshed.createGrant id (promoted (s.refreshRecord rec).1) s.openDecision).1,
        [s.grantFor rec.request s.openDecision]) := by
    rw [createGrants_cons hfind hready, hrequest]
    rfl
  have hstate := hresult.state
  have hlist := hresult.created
  rw [hselection, hcreated] at hstate hlist
  have hclose := closeRound_rewritten
    (s.refreshed.createGrant id (promoted (s.refreshRecord rec).1) s.openDecision).1
    (s.candidates recordOrder) [id]
  rw [← hstate] at hclose
  refine ⟨s', dec, s.grantFor rec.request s.openDecision, by rw [hround, hlist], ?_⟩
  constructor
  case grant => rfl
  case counter => exact hclose.nextGrantId
  case grants =>
    rw [hclose.grants, ← hrequest]
    rfl
  case granted =>
    have hmem : s.grantFor rec.request s.openDecision ∈ created := by
      rw [hlist]
      exact List.mem_singleton_self _
    have hid : rec.request.id = id := horderly.keyed id rec h.found
    obtain ⟨r, -, rec', hr, -, -, hfind', hrequest', hgranted, hcurrent⟩ :=
      held_scheduleRound horderly hround _ hmem
    change s.records.find? rec.request.id = some r at hr
    change s'.records.find? rec.request.id = some rec' at hfind'
    rw [hid] at hr hfind'
    rw [h.found, Option.some.injEq] at hr
    exact ⟨rec', hfind', hrequest'.trans (by rw [hr]), hgranted, hcurrent⟩
  case others =>
    intro id' hne
    have hrel := hclose.records id'
    rw [find?_createGrant_of_ne _ _ _ hne, find?_refreshed] at hrel
    cases hold : s.records.find? id' with
    | none =>
        rw [hold, Option.map_none] at hrel
        exact hrel
    | some rec' =>
        rw [hold, Option.map_some] at hrel
        generalize s'.records.find? id' = found at hrel
        cases hrel with
        | some hrec => exact .some ((h.refreshRecord_other hold hne).trans Eq.trans hrec)
  case evidence => exact scheduleRound_evidence hround
  case frame =>
    obtain ⟨hpolicy, hnow, hepoch, hid⟩ := closeRound_frame
      (s.refreshed.createGrant id (promoted (s.refreshRecord rec).1) s.openDecision).1
      (s.candidates recordOrder) [id]
    rw [← hstate] at hpolicy hnow hepoch hid
    exact ⟨hpolicy, hnow, hepoch, hid, hclose.activeGrants, hclose.activeByParticipant⟩

/-- Eligibility reads the evidence and the clock. -/
theorem eligible_congr {t : Scheduler D} (hevidence : s.evidence = t.evidence)
    (hnow : s.now = t.now) (rec : Record D) : s.eligible rec = t.eligible rec := by
  have hreads : s.eligible rec = ({ t with
      participants := s.evidence.participants
      plans := s.evidence.plans
      deps := s.evidence.deps
      reservations := s.evidence.reservations
      congestion := s.evidence.congestion
      capacity := s.evidence.capacity
      reservationGen := s.evidence.reservationGen
      now := s.now }).eligible rec := rfl
  rw [hreads, hevidence, hnow]
  rfl

end Scheduler

theorem ActiveIndex.deindexActiveGrant_empty (g : CollectiveGrant) :
    ActiveIndex.deindexActiveGrant .empty g = .empty := by
  unfold deindexActiveGrant
  induction g.participants with
  | nil => rfl
  | cons pid rest ih => exact ih

/-! ## The cycle -/

namespace Saturation

/-- Two participants on two workers, each with a plan of its own. -/
def evidence : List (Op ℚ) :=
  [.publishParticipant (Scenario.participant 1 1 1 11),
    .publishParticipant (Scenario.participant 2 1 2 22),
    .publishPlan (Scenario.plan 1 1 [1]), .publishPlan (Scenario.plan 2 1 [2])]

/-- The scheduler with this evidence. -/
def published : Scheduler ℚ := (Scenario.start.run evidence).sched

/-- The first request, at a generation. -/
def requestAt (n : Nat) : CollectiveRequest ℚ :=
  { Scenario.request 1 [1] 1 with id := 1, gen := ⟨UInt64.ofNat n⟩ }

/-- The second request, as `submit` files it. -/
def otherRequest : CollectiveRequest ℚ := { Scenario.request 2 [2] 2 with id := 2, gen := 1 }

/-- The first request is granted, and superseded and granted again any number of
times. -/
def turns : Nat → List (Op ℚ)
  | 0 => evidence ++ [.submit (Scenario.request 1 [1] 1), .schedule [] []]
  | n + 1 => turns n ++ [.supersede (requestAt (n + 2)), .schedule [] []]

theorem eligible_requestAt (n : Nat) {rec : Record ℚ} (hrequest : rec.request = requestAt n)
    (hpending : rec.lifecycle.isPending = true) : published.eligible rec = true := by
  rw [Scheduler.eligible_iff, hrequest]
  refine ⟨hpending, ?_, ?_⟩
  · change published.computeReadiness (Scenario.request 1 [1] 1) = .ready
    decide +kernel
  · change published.hardEligible .ready (Scenario.request 1 [1] 1) = none
    decide +kernel

theorem validate_requestAt (n : Nat) :
    validateRequest (requestAt n) PolicyConfig.default = .ok () := by
  change validateRequest (Scenario.request 1 [1] 1 : CollectiveRequest ℚ) PolicyConfig.default = _
  decide +kernel

/-- The published evidence, the default policy, the clock at zero and the first
epoch. -/
structure Prepared (s : Scheduler ℚ) : Prop where
  evidence : s.evidence = published.evidence
  policy : s.policy = PolicyConfig.default
  now : s.now = 0
  epoch : s.epoch = 1

theorem Prepared.ofRound {s s' : Scheduler ℚ} (h : Prepared s) {id : CollectiveRequestId}
    {rec : Record ℚ} {g : CollectiveGrant} (hround : s.SoleRound id rec g s') : Prepared s' := by
  obtain ⟨hpolicy, hnow, hepoch, -⟩ := hround.frame
  exact ⟨hround.evidence.trans h.evidence, hpolicy.trans h.policy, hnow.trans h.now,
    hepoch.trans h.epoch⟩

/-- The first request is the only one and not pending, and no grant is active. -/
structure Quiet (y : System ℚ) : Prop where
  sound : y.Sound
  prepared : Prepared y.sched
  nextRequestId : y.sched.nextRequestId = 2
  free : y.sched.activeGrants = 0
  idle : y.sched.activeByParticipant = .empty
  sole : ∀ id rec, y.sched.records.find? id = some rec →
    id = 1 ∧ rec.lifecycle.isPending = false

/-- The scheduler after the grant of one generation of the first request, which has
the number of the generation as its id. -/
structure Cycled (n : Nat) (y : System ℚ) : Prop extends Quiet y where
  counter : y.sched.nextGrantId.value.toNat = min (n + 1) maxValue
  entries : ∀ gid gs, y.sched.grants.find? gid = some gs → gid.value.toNat ≤ n
  held : ∃ rec g, y.sched.records.find? 1 = some rec ∧ rec.request = requestAt n ∧
    rec.lifecycle = .granted ∧ rec.currentGrant = some g ∧ g.id.value.toNat = n ∧
    y.sched.grants.find? g.id = some { grant := g }

theorem cycled_first : Cycled 1 (Scenario.start.run (turns 0)) := by
  have hrecords : (Scenario.start.run (turns 0)).sched.records.keys = [1] := by decide +kernel
  have hgrants : (Scenario.start.run (turns 0)).sched.grants.keys = [1] := by decide +kernel
  have hheld : ((Scenario.start.run (turns 0)).sched.records.find? 1).any (fun rec =>
      rec.request = requestAt 1 ∧ rec.lifecycle = .granted ∧
        rec.currentGrant.any (fun g => g.id = 1 ∧
          (Scenario.start.run (turns 0)).sched.grants.find? g.id = some { grant := g })) =
      true := by
    decide +kernel
  simp only [Option.any_eq_true, decide_eq_true_eq] at hheld
  obtain ⟨rec, hfind, hrequest, hlife, g, hcur, hid, hentry⟩ := hheld
  constructor
  case toQuiet =>
    constructor
    case sound =>
      exact InterleavedRun.sound (by decide +kernel : InterleavedRun Scenario.start (turns 0))
    case prepared => constructor <;> decide +kernel
    case sole =>
      intro id rec' hfind'
      have hmem := FinMap.mem_keys_iff.mpr ⟨rec', hfind'⟩
      rw [hrecords, List.mem_singleton] at hmem
      subst hmem
      rw [hfind] at hfind'
      cases hfind'
      exact ⟨rfl, by rw [hlife]; rfl⟩
    all_goals decide +kernel
  case counter => decide +kernel
  case entries =>
    intro gid gs hgs
    have hmem := FinMap.mem_keys_iff.mpr ⟨gs, hgs⟩
    rw [hgrants, List.mem_singleton] at hmem
    rw [hmem]
    exact le_refl 1
  case held => exact ⟨rec, g, hfind, hrequest, hlife, hcur, by rw [hid]; rfl, hentry⟩

theorem gen_lt {n : Nat} (hn : n + 1 ≤ maxValue) :
    (requestAt n).gen < (requestAt (n + 1)).gen := by
  have hle : n + 1 < 2 ^ 64 := by
    simp only [maxValue] at hn
    omega
  change (UInt64.ofNat n).toNat < (UInt64.ofNat (n + 1)).toNat
  rw [UInt64.toNat_ofNat_of_lt' hle, UInt64.toNat_ofNat_of_lt' (Nat.lt_of_succ_lt hle)]
  exact Nat.lt_succ_self n

/-- The state between the supersession and the round of a turn. -/
structure Turning (n : Nat) (t : Scheduler ℚ) (rec : Record ℚ) : Prop where
  candidate : t.SoleCandidate 1 rec
  request : rec.request = requestAt (n + 1)
  prepared : Prepared t
  nextRequestId : t.nextRequestId = 2
  counter : t.nextGrantId.value.toNat = n + 1
  entries : ∀ gid gs, t.grants.find? gid = some gs → gid.value.toNat ≤ n
  sole : ∀ id rec, t.records.find? id = some rec → id = 1

/-- The supersession takes the grant from the record and leaves it pending. -/
theorem Cycled.superseded {n : Nat} {y : System ℚ} (h : Cycled n y) (hn : n + 1 ≤ maxValue) :
    ∃ t rec, y.sched.supersede (requestAt (n + 1)) = (t, .ok ()) ∧ Turning n t rec := by
  obtain ⟨old, g, hfind, hrequest, -, hcur, -, hentry⟩ := h.held
  have hgen : old.request.gen < (requestAt (n + 1)).gen := by
    rw [hrequest]
    exact gen_lt hn
  have hvalid : validateRequest (requestAt (n + 1)) y.sched.policy = .ok () := by
    rw [h.prepared.policy]
    exact validate_requestAt (n + 1)
  have hsupersede := Scheduler.supersede_isOk hfind hgen hvalid
  have hevidence : (y.sched.supersede (requestAt (n + 1))).1.evidence = y.sched.evidence :=
    congrArg Prod.fst (y.sched.background_supersede (requestAt (n + 1)))
  rw [hsupersede] at hevidence
  have hrevoke : y.sched.revokeGrant g.id =
      { y.sched with
        activeByParticipant := .empty
        grants := y.sched.grants.insert g.id (Scheduler.revoked { grant := g }) } := by
    simp only [Scheduler.revokeGrant, hentry, h.idle, ActiveIndex.deindexActiveGrant_empty]
  simp only [hcur, Scheduler.releaseForSupersede, hrevoke, h.free] at hsupersede hevidence
  refine ⟨_, Scheduler.supersedingRecord old (requestAt (n + 1)), hsupersede, ?_⟩
  constructor
  case candidate =>
    constructor
    case found => exact FinMap.find?_insert_self _ _ _
    case eligible =>
      rw [Scheduler.eligible_congr (hevidence.trans h.prepared.evidence) h.prepared.now]
      exact eligible_requestAt (n + 1) rfl rfl
    case sole =>
      intro id' rec' hfind' hne
      have hold := (FinMap.find?_insert_of_ne y.sched.records
        (Scheduler.supersedingRecord old (requestAt (n + 1))) hne).symm.trans hfind'
      exact absurd (h.sole id' rec' hold).1 hne
    case free => rfl
    case idle => rfl
    case bounds => exact congrArg PolicyConfig.bounds h.prepared.policy
  case request => rfl
  case prepared =>
    exact ⟨hevidence.trans h.prepared.evidence, h.prepared.policy, h.prepared.now,
      h.prepared.epoch⟩
  case nextRequestId => exact h.nextRequestId
  case counter => exact h.counter.trans (Nat.min_eq_left hn)
  case entries =>
    intro gid gs hgs
    simp only [FinMap.find?_insert] at hgs
    split_ifs at hgs with hgid
    · rw [hgid]
      exact h.entries g.id _ hentry
    · exact h.entries gid gs hgs
  case sole =>
    intro id rec hrec
    simp only [FinMap.find?_insert] at hrec
    split_ifs at hrec with hid
    · exact hid
    · exact (h.sole id rec hrec).1

/-- The round grants the first request again, under a new id. -/
theorem Turning.granted {n : Nat} {t : Scheduler ℚ} {rec : Record ℚ} {g : CollectiveGrant}
    {z : System ℚ} (h : Turning n t rec) (hround : t.SoleRound 1 rec g z.sched)
    (hsound : z.Sound) : Cycled (n + 1) z := by
  obtain ⟨-, -, -, hnextRequest, hfree, hidle⟩ := hround.frame
  obtain ⟨rec', hfind', hrequest', hlife, hcur⟩ := hround.granted
  have hgid : g.id.value.toNat = n + 1 := by
    rw [hround.grant]
    exact h.counter
  have hfresh : t.grants.find? g.id = none := by
    cases hold : t.grants.find? g.id with
    | none => rfl
    | some gs =>
        have hle := h.entries g.id gs hold
        omega
  constructor
  case toQuiet =>
    refine ⟨hsound, h.prepared.ofRound hround, hnextRequest.trans h.nextRequestId,
      hfree.trans h.candidate.free, hidle.trans h.candidate.idle, fun id r hr => ?_⟩
    by_cases hid : id = 1
    · subst hid
      rw [hfind'] at hr
      cases hr
      exact ⟨rfl, by rw [hlife]; rfl⟩
    · have hrel := hround.others id hid
      rw [hr] at hrel
      generalize hold : t.records.find? id = found at hrel
      cases hrel with
      | some _ => exact absurd (h.sole id _ hold) hid
  case counter => rw [hround.counter, Id.toNat_next, h.counter]
  case entries =>
    intro gid gs hgs
    rw [hround.grants, FinMap.find?_emplace] at hgs
    split_ifs at hgs with hid
    · rw [hid, hgid]
    · exact (h.entries gid gs hgs).trans (Nat.le_succ n)
  case held =>
    refine ⟨rec', g, hfind', hrequest'.trans h.request, hlife, hcur, hgid, ?_⟩
    rw [hround.grants, FinMap.find?_emplace_of_none hfresh]

/-- A round with one candidate issues a grant for it. -/
theorem next_schedule {y : System ℚ} {id : CollectiveRequestId} {rec : Record ℚ} (hsound : y.Sound)
    (h : y.sched.SoleCandidate id rec) :
    ∃ g, (y.next (.schedule [] [])).Sound ∧ g ∈ (y.next (.schedule [] [])).issued ∧
      y.sched.SoleRound id rec g (y.next (.schedule [] [])).sched := by
  obtain ⟨s', dec, g, hround, hafter⟩ := h.round hsound.orderly [] []
  have hsound' : (y.next (.schedule [] [])).Sound :=
    System.next_sound hsound (fun _ hg => by cases hg)
  have hnext : y.next (.schedule [] []) = { y with sched := s', issued := y.issued ++ [g] } := by
    simp only [System.next, System.step, hround]
  rw [hnext] at hsound' ⊢
  exact ⟨g, hsound', List.mem_append_right _ (List.mem_singleton_self g), hafter⟩

/-- One more turn. -/
theorem Cycled.turn {n : Nat} {y : System ℚ} (h : Cycled n y) (hn : n + 1 ≤ maxValue) :
    Cycled (n + 1) ((y.next (.supersede (requestAt (n + 1)))).next (.schedule [] [])) := by
  obtain ⟨t, rec, hsupersede, hturning⟩ := h.superseded hn
  have hsound : (y.next (.supersede (requestAt (n + 1)))).Sound :=
    System.next_sound h.sound (fun _ hg => by cases hg)
  have hnext : y.next (.supersede (requestAt (n + 1))) = { y with sched := t } := by
    simp only [System.next, System.step, System.ofVoid, hsupersede]
  rw [hnext] at hsound ⊢
  obtain ⟨g, hsound', -, hround⟩ :=
    next_schedule (y := { y with sched := t }) hsound hturning.candidate
  exact hturning.granted hround hsound'

theorem cycled_turns : ∀ n, n + 1 ≤ maxValue → Cycled (n + 1) (Scenario.start.run (turns n))
  | 0, _ => cycled_first
  | n + 1, hn => by
      have hbefore := cycled_turns n (Nat.le_of_succ_le hn)
      have hsplit : Scenario.start.run (turns (n + 1)) =
          ((Scenario.start.run (turns n)).next (.supersede (requestAt (n + 2)))).next
            (.schedule [] []) :=
        Runs.exec_append _ _ _
      rw [hsplit]
      exact hbefore.turn hn

/-- The turns pass no grants around. -/
theorem turns_atomic : ∀ n, ∀ op ∈ turns n, op.isAtomic = true ∧ op.grantArgument = none
  | 0 => by decide
  | n + 1 => by
      intro op hop
      rcases List.mem_append.mp hop with hop | hop
      · exact turns_atomic n op hop
      · rcases List.mem_pair.mp hop with rfl | rfl
        · exact ⟨rfl, rfl⟩
        · exact ⟨rfl, rfl⟩

/-- A run after which the counter stands at its largest value, and the first request
holds the grant with that id. -/
theorem exists_cycled_saturated :
    ∃ ops : List (Op ℚ), (∀ op ∈ ops, op.isAtomic = true ∧ op.grantArgument = none) ∧
      Cycled maxValue (Scenario.start.run ops) := by
  obtain ⟨n, hn⟩ : ∃ n, n + 1 = maxValue := ⟨maxValue - 1, rfl⟩
  exact ⟨turns n, turns_atomic n, hn ▸ cycled_turns n hn.le⟩

/-! ## Another request at saturation -/

/-- The second request, submitted and scheduled. -/
def admitOther : List (Op ℚ) := [.submit (Scenario.request 2 [2] 2), .schedule [] []]

theorem admitOther_atomic : ∀ op ∈ admitOther, op.isAtomic = true ∧ op.grantArgument = none := by
  decide

theorem eligible_otherRequest {rec : Record ℚ} (hrequest : rec.request = otherRequest)
    (hpending : rec.lifecycle.isPending = true) : published.eligible rec = true := by
  rw [Scheduler.eligible_iff, hrequest]
  exact ⟨hpending, by decide +kernel, by decide +kernel⟩

theorem Quiet.size_le {y : System ℚ} (h : Quiet y) : y.sched.records.size ≤ 1 := by
  have hsubset : y.sched.records.keys ⊆ [1] := by
    intro id hid
    obtain ⟨rec, hfind⟩ := FinMap.mem_keys_iff.mp hid
    exact List.mem_singleton.mpr (h.sole id rec hfind).1
  have hle := (List.subperm_of_subset (FinMap.nodup_keys _) hsubset).length_le
  simpa [FinMap.keys, FinMap.size] using hle

/-- The second request is granted beside the first, under the id the counter
stands at. -/
structure Admitted (y : System ℚ) (g : CollectiveGrant) (z : System ℚ) : Prop where
  sound : z.Sound
  prepared : Prepared z.sched
  issued : g ∈ z.issued
  grant : ∃ s dec, g = Scheduler.grantFor s otherRequest dec ∧
    s.nextGrantId = y.sched.nextGrantId ∧ dec.evidence.epoch = 1
  held : ∃ rec, z.sched.records.find? 2 = some rec ∧ rec.request = otherRequest ∧
    rec.lifecycle = .granted ∧ rec.currentGrant = some g
  grants : z.sched.grants = y.sched.grants.emplace g.id { grant := g }
  first : Option.Rel (Record.Rewritten Eq) (y.sched.records.find? 1) (z.sched.records.find? 1)

/-- The submission leaves the second request as the only candidate. -/
theorem Quiet.submitOther {y : System ℚ} (h : Quiet y) :
    ∃ t rec, y.next (.submit (Scenario.request 2 [2] 2)) = { y with sched := t } ∧
      t.SoleCandidate 2 rec ∧ rec.request = otherRequest ∧ Prepared t ∧
      t.nextGrantId = y.sched.nextGrantId ∧ t.grants = y.sched.grants ∧
      t.records.find? 1 = y.sched.records.find? 1 := by
  have hrecord : (y.sched.submittedRecord (Scenario.request 2 [2] 2)).request = otherRequest := by
    simp only [Scheduler.submittedRecord, h.nextRequestId, otherRequest]
  have hbound : y.sched.records.size < y.sched.policy.bounds.maxCollectives.toNat := by
    rw [h.prepared.policy]
    exact Nat.lt_of_le_of_lt h.size_le (by decide)
  have hvalid : validateRequest (y.sched.submittedRecord (Scenario.request 2 [2] 2)).request
      y.sched.policy = .ok () := by
    rw [h.prepared.policy, hrecord]
    decide +kernel
  have hsubmit := Scheduler.submit_isOk hbound hvalid
  have hevidence : (y.sched.submit (Scenario.request 2 [2] 2)).1.evidence = y.sched.evidence :=
    congrArg Prod.fst (y.sched.background_submit (Scenario.request 2 [2] 2))
  rw [hsubmit] at hevidence
  rw [h.nextRequestId] at hsubmit hevidence
  have hvacant : y.sched.records.find? 2 = none := by
    cases hold : y.sched.records.find? 2 with
    | none => rfl
    | some rec => exact absurd (h.sole 2 rec hold).1 (by decide)
  refine ⟨_, y.sched.submittedRecord (Scenario.request 2 [2] 2), ?_, ?_, hrecord,
    ⟨hevidence.trans h.prepared.evidence, h.prepared.policy, h.prepared.now, h.prepared.epoch⟩,
    rfl, rfl, ?_⟩
  · simp only [System.next, System.step, hsubmit]
  · constructor
    case found => exact FinMap.find?_emplace_of_none hvacant _
    case eligible =>
      rw [Scheduler.eligible_congr (hevidence.trans h.prepared.evidence) h.prepared.now]
      exact eligible_otherRequest hrecord rfl
    case sole =>
      intro id' rec' hfind' hne
      rw [FinMap.find?_emplace_of_ne _ _ hne] at hfind'
      exact (h.sole id' rec' hfind').2
    case free => exact h.free
    case idle => exact h.idle
    case bounds => exact congrArg PolicyConfig.bounds h.prepared.policy
  · have hne : (1 : CollectiveRequestId) ≠ 2 := by decide
    exact FinMap.find?_emplace_of_ne _ _ hne

theorem Quiet.admitOther {y : System ℚ} (h : Quiet y) :
    ∃ g, Admitted y g (y.run admitOther) := by
  obtain ⟨t, rec, hnext, hcandidate, hrequest, hprepared, hcounter, hgrants, hfirst⟩ :=
    h.submitOther
  have hsound : (y.next (.submit (Scenario.request 2 [2] 2))).Sound :=
    System.next_sound h.sound (fun _ hg => by cases hg)
  have hrun : y.run Saturation.admitOther =
      (y.next (.submit (Scenario.request 2 [2] 2))).next (.schedule [] []) := rfl
  rw [hrun]
  rw [hnext] at hsound ⊢
  obtain ⟨g, hsound', hissued, hround⟩ :=
    next_schedule (y := { y with sched := t }) hsound hcandidate
  refine ⟨g, hsound', hprepared.ofRound hround, hissued, ?_, ?_, ?_, ?_⟩
  · exact ⟨t, t.openDecision, hrequest ▸ hround.grant, hcounter, hprepared.epoch⟩
  · obtain ⟨rec', hfind, hrequest', hlife, hcur⟩ := hround.granted
    exact ⟨rec', hfind, hrequest'.trans hrequest, hlife, hcur⟩
  · exact hround.grants.trans (by rw [← hgrants])
  · have hrel := hround.others 1 (by decide)
    simp only [hfirst] at hrel
    exact hrel

end Saturation

end CollectiveScheduler
