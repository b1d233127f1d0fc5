/-
  System/LastIds.lean --- a round that runs out of grant ids.

  The run of `Saturation` brings the counter to any value below its largest one and
  leaves the scheduler idle.  From there a third participant is published and one request
  is submitted for each of the three; the round that follows selects them all, and the
  last of its ids is given twice when the counter has two ids left.
-/
import CollectiveScheduler.Scheduler.Groups
import CollectiveScheduler.System.Saturation

set_option autoImplicit false

namespace CollectiveScheduler

open Foundation

variable {D : Type}

namespace Scheduler

theorem publishParticipant_of_new {s : Scheduler D} {p : Participant}
    (h : s.participants.find? p.id = none) :
    s.publishParticipant p = ({ s with
      participants := s.participants.insert p.id p
      participantRequests := s.participantRequests.emplace p.id .empty }, .ok ()) := by
  simp only [publishParticipant, participantRegresses, supplants, h, Bool.false_eq_true, if_false]

theorem publishPlan_of_new {s : Scheduler D} {pl : CommunicationPlan D}
    (h : s.plans.find? pl.id = none) :
    s.publishPlan pl = ({ s with plans := s.plans.insert pl.id pl }, .ok ()) := by
  simp only [publishPlan, h, Option.any_none, Bool.false_eq_true, if_false]

/-- Whether two requests may overlap in a round depends on the evidence. -/
theorem canOverlap_footprinted_congr [Double D] {s t : Scheduler D}
    (hevidence : s.evidence = t.evidence) {a a' b b' : Record D} (ha : a'.request = a.request)
    (hb : b'.request = b.request) :
    s.canOverlap (s.footprinted a') (s.footprinted b') =
      t.canOverlap (t.footprinted a) (t.footprinted b) := by
  have hplans : s.plans = t.plans := congrArg Evidence.plans hevidence
  have hcongestion : s.congestion = t.congestion := congrArg Evidence.congestion hevidence
  unfold canOverlap footprinted plan
  rw [ha, hb, hplans, hcongestion]

end Scheduler

namespace Saturation

/-- A third participant, with a plan of its own. -/
def third : List (Op ℚ) :=
  [.publishParticipant (Scenario.participant 3 1 3 33), .publishPlan (Scenario.plan 3 1 [3])]

/-- The scheduler with the evidence for three requests. -/
def equipped : Scheduler ℚ := (Scenario.start.run (evidence ++ third)).sched

/-- A request for one participant, which may overlap others. -/
def solo (collective part : UInt64) : CollectiveRequest ℚ :=
  { Scenario.request collective [part] part with overlap := .overlapAllowed }

/-- The three requests as `submit` files them. -/
def crowd : List (CollectiveRequest ℚ) :=
  [{ solo 2 1 with id := 2, gen := 1 }, { solo 3 2 with id := 3, gen := 1 },
    { solo 4 3 with id := 4, gen := 1 }]

/-- The third participant is published and the three requests are submitted. -/
def gather : List (Op ℚ) := third ++ [.submit (solo 2 1), .submit (solo 3 2), .submit (solo 4 3)]

/-- Nothing executes, and the pending records are those of the requests. -/
structure Waiting (reqs : List (CollectiveRequest ℚ)) (s : Scheduler ℚ) : Prop where
  evidence : s.evidence = equipped.evidence
  policy : s.policy = PolicyConfig.default
  now : s.now = 0
  free : s.activeGrants = 0
  idle : s.activeByParticipant = .empty
  nextRequestId : s.nextRequestId.value.toNat = reqs.length + 2
  size : s.records.size ≤ reqs.length + 1
  ids : ∀ id rec, s.records.find? id = some rec → id.value.toNat < reqs.length + 2
  pending : ∀ id rec, s.records.find? id = some rec → rec.lifecycle.isPending = true →
    rec.request ∈ reqs
  filed : ∀ req ∈ reqs, ∃ rec, s.records.find? req.id = some rec ∧ rec.request = req ∧
    rec.lifecycle.isPending = true

/-- The publications leave the records and the counters alone. -/
theorem Quiet.equip {y : System ℚ} (h : Quiet y) :
    Waiting [] (y.run third).sched ∧
      (y.run third).sched.nextGrantId = y.sched.nextGrantId := by
  have hparticipants : y.sched.participants = published.participants :=
    congrArg Evidence.participants h.prepared.evidence
  have hplans : y.sched.plans = published.plans := congrArg Evidence.plans h.prepared.evidence
  have hnew : y.sched.participants.find? (Scenario.participant 3 1 3 33).id = none := by
    rw [hparticipants]
    decide +kernel
  have hnewPlan : y.sched.plans.find? (Scenario.plan 3 1 [3] : CommunicationPlan ℚ).id = none := by
    rw [hplans]
    decide +kernel
  have hrun : (y.run third).sched = { y.sched with
      participants := y.sched.participants.insert ⟨3⟩ (Scenario.participant 3 1 3 33)
      participantRequests := y.sched.participantRequests.emplace ⟨3⟩ .empty
      plans := y.sched.plans.insert ⟨3⟩ (Scenario.plan 3 1 [3]) } := by
    change ((y.sched.publishParticipant _).1.publishPlan _).1 = _
    rw [Scheduler.publishParticipant_of_new hnew]
    exact congrArg Prod.fst (Scheduler.publishPlan_of_new (by exact hnewPlan))
  have hevidence : (y.run third).sched.evidence = { published.evidence with
      participants := published.participants.insert ⟨3⟩ (Scenario.participant 3 1 3 33)
      plans := published.plans.insert ⟨3⟩ (Scenario.plan 3 1 [3]) } := by
    rw [hrun, ← hparticipants, ← hplans, ← h.prepared.evidence]
    rfl
  refine ⟨?_, by rw [hrun]⟩
  constructor
  case evidence =>
    rw [hevidence]
    decide +kernel
  case policy => rw [hrun]; exact h.prepared.policy
  case now => rw [hrun]; exact h.prepared.now
  case free => rw [hrun]; exact h.free
  case idle => rw [hrun]; exact h.idle
  case nextRequestId =>
    rw [hrun]
    change y.sched.nextRequestId.value.toNat = 2
    rw [h.nextRequestId]
    rfl
  case size => rw [hrun]; exact h.size_le
  case ids =>
    intro id rec hfind
    rw [hrun] at hfind
    rw [(h.sole id rec hfind).1]
    decide
  case pending =>
    intro id rec hfind hpending
    rw [hrun] at hfind
    rw [(h.sole id rec hfind).2] at hpending
    cases hpending
  case filed => exact fun req hreq => absurd hreq List.not_mem_nil

/-- One more submission. -/
theorem Waiting.submit {reqs : List (CollectiveRequest ℚ)} {s : Scheduler ℚ}
    (h : Waiting reqs s) (hfew : reqs.length ≤ 2) (req : CollectiveRequest ℚ)
    (id : CollectiveRequestId) (hid : id.value.toNat = reqs.length + 2)
    (hvalid : validateRequest { req with id := id, gen := 1 } PolicyConfig.default = .ok ()) :
    Waiting (reqs ++ [{ req with id := id, gen := 1 }]) (s.submit req).1 ∧
      (s.submit req).1.nextGrantId = s.nextGrantId := by
  obtain rfl : id = s.nextRequestId := Id.ext_toNat (hid.trans h.nextRequestId.symm)
  have hbound : s.records.size < s.policy.bounds.maxCollectives.toNat := by
    have hsize := h.size
    rw [h.policy]
    change s.records.size < 100000
    omega
  have hsubmit := Scheduler.submit_isOk hbound (by rw [h.policy]; exact hvalid)
  have hevidence : (s.submit req).1.evidence = s.evidence :=
    congrArg Prod.fst (s.background_submit req)
  have hvacant : s.records.find? s.nextRequestId = none := by
    cases hold : s.records.find? s.nextRequestId with
    | none => rfl
    | some rec =>
        have hlt := h.ids _ rec hold
        rw [h.nextRequestId] at hlt
        exact absurd hlt (lt_irrefl _)
  have hlength : (reqs ++ [{ req with id := s.nextRequestId, gen := 1 }]).length =
      reqs.length + 1 := by simp
  -- a record is an old one or the new one
  have hcases : ∀ id rec, (s.submit req).1.records.find? id = some rec →
      s.records.find? id = some rec ∨
        (id = s.nextRequestId ∧ rec = s.submittedRecord req) := by
    intro id rec hfind
    rw [hsubmit] at hfind
    rcases FinMap.find?_emplace_cases hfind with hold | ⟨-, hid, hrec⟩
    · exact .inl hold
    · exact .inr ⟨hid, hrec⟩
  refine ⟨?_, by rw [hsubmit]⟩
  constructor
  case evidence => exact hevidence.trans h.evidence
  case policy => rw [hsubmit]; exact h.policy
  case now => rw [hsubmit]; exact h.now
  case free => rw [hsubmit]; exact h.free
  case idle => rw [hsubmit]; exact h.idle
  case nextRequestId =>
    rw [hsubmit, hlength]
    change s.nextRequestId.next.value.toNat = _
    rw [Id.toNat_next, h.nextRequestId, Nat.min_eq_left]
    simp only [maxValue]
    omega
  case size =>
    rw [hsubmit, hlength]
    change (s.records.emplace s.nextRequestId (s.submittedRecord req)).size ≤ _
    rw [FinMap.size_emplace _ hvacant]
    exact Nat.succ_le_succ h.size
  case ids =>
    intro id rec hfind
    rw [hlength]
    rcases hcases id rec hfind with hold | ⟨rfl, -⟩
    · exact (h.ids id rec hold).trans (Nat.lt_succ_self _)
    · rw [h.nextRequestId]
      omega
  case pending =>
    intro id rec hfind hpending
    rcases hcases id rec hfind with hold | ⟨-, rfl⟩
    · exact List.mem_append_left _ (h.pending id rec hold hpending)
    · exact List.mem_append_right _ (List.mem_singleton_self _)
  case filed =>
    intro req' hreq'
    rw [hsubmit]
    rcases List.mem_append.mp hreq' with hold | hnew
    · obtain ⟨rec, hfind, hrequest, hpending⟩ := h.filed req' hold
      exact ⟨rec, FinMap.find?_emplace_of_some hfind _ _, hrequest, hpending⟩
    · rw [List.mem_singleton.mp hnew]
      exact ⟨s.submittedRecord req, FinMap.find?_emplace_of_none hvacant _, rfl, rfl⟩

/-- The crowd is waiting, and no id has been taken. -/
theorem Quiet.gather {y : System ℚ} (h : Quiet y) :
    Waiting crowd (y.run gather).sched ∧
      (y.run Saturation.gather).sched.nextGrantId = y.sched.nextGrantId := by
  obtain ⟨hnone, hcounter₀⟩ := h.equip
  obtain ⟨hone, hcounter₁⟩ := hnone.submit (by decide) (solo 2 1) 2 rfl (by decide +kernel)
  obtain ⟨htwo, hcounter₂⟩ := hone.submit (by decide) (solo 3 2) 3 rfl (by decide +kernel)
  obtain ⟨hthree, hcounter₃⟩ := htwo.submit (by decide) (solo 4 3) 4 rfl (by decide +kernel)
  have hrun : ∀ (z : System ℚ) (a b c : CollectiveRequest ℚ),
      (z.run [.submit a, .submit b, .submit c]).sched =
        (((z.sched.submit a).1.submit b).1.submit c).1 := by
    intro z a b c
    simp only [System.run, Runs.exec_cons, Runs.exec_nil, System.sched_next_submit]
  have hsplit : y.run Saturation.gather =
      (y.run third).run [.submit (solo 2 1), .submit (solo 3 2), .submit (solo 4 3)] :=
    Runs.exec_append _ _ _
  rw [hsplit, hrun]
  exact ⟨hthree, hcounter₃.trans (hcounter₂.trans (hcounter₁.trans hcounter₀))⟩

/-! ## The round -/

/-- A record with nothing but a request. -/
def bare (req : CollectiveRequest ℚ) : Record ℚ :=
  { request := req, fairness := FairnessAccount.default }

section Round

variable {s : Scheduler ℚ}

theorem Waiting.eligible (h : Waiting crowd s) {rec : Record ℚ} (hrequest : rec.request ∈ crowd)
    (hpending : rec.lifecycle.isPending = true) : s.eligible rec = true := by
  have hready : ∀ req ∈ crowd, equipped.computeReadiness req = .ready ∧
      equipped.hardEligible .ready req = none := by decide +kernel
  have hnow : s.now = equipped.now := h.now.trans (by decide +kernel)
  rw [Scheduler.eligible_congr h.evidence hnow, Scheduler.eligible_iff]
  exact ⟨hpending, hready rec.request hrequest⟩

/-- The crowd is what the round ranks. -/
theorem Waiting.mem_ranking_iff (h : Waiting crowd s) (hkeyed : s.Keyed)
    {id : CollectiveRequestId} : id ∈ s.ranking [] ↔ id ∈ crowd.map CollectiveRequest.id := by
  rw [Scheduler.mem_ranking_iff hkeyed, List.mem_map]
  constructor
  · rintro ⟨rec, hfind, heligible⟩
    exact ⟨rec.request, h.pending id rec hfind (Scheduler.eligible_iff.mp heligible).1,
      hkeyed id rec hfind⟩
  · rintro ⟨req, hreq, rfl⟩
    obtain ⟨rec, hfind, hrequest, hpending⟩ := h.filed req hreq
    exact ⟨rec, hfind, h.eligible (hrequest ▸ hreq) hpending⟩

theorem Waiting.ranking_perm (h : Waiting crowd s) (hkeyed : s.Keyed) :
    (s.ranking []).Perm (crowd.map CollectiveRequest.id) :=
  (List.perm_ext_iff_of_nodup (Scheduler.nodup_ranking hkeyed []) (by decide)).mpr
    fun _ => h.mem_ranking_iff hkeyed

/-- Any two requests of the crowd may overlap. -/
theorem Waiting.overlap (h : Waiting crowd s) (hkeyed : s.Keyed) :
    (s.ranking []).Pairwise s.refreshed.Overlaps := by
  have hpairs : ∀ a ∈ crowd, ∀ b ∈ crowd, a.id ≠ b.id → equipped.canOverlap
      (equipped.footprinted (bare a)) (equipped.footprinted (bare b)) = true := by
    decide +kernel
  -- the record the round refreshes, with a request of the crowd
  have hrecord : ∀ id ∈ s.ranking [], ∀ r, s.refreshed.records.find? id = some r →
      ∃ rec, s.eligible rec = true ∧ r = (s.refreshRecord rec).1 ∧ rec.request ∈ crowd ∧
        rec.request.id = id := by
    intro id hid r hr
    obtain ⟨rec, hfind, heligible⟩ := (Scheduler.mem_ranking_iff hkeyed).mp hid
    rw [Scheduler.find?_refreshed, hfind, Option.map_some, Option.some.injEq] at hr
    exact ⟨rec, heligible, hr.symm, h.pending id rec hfind (Scheduler.eligible_iff.mp heligible).1,
      hkeyed id rec hfind⟩
  refine (Scheduler.nodup_ranking hkeyed []).pairwise_of_forall_ne fun id hid id' hid' hne => ?_
  intro r r' hr hr'
  obtain ⟨rec, heligible, rfl, hmem, rfl⟩ := hrecord id hid r hr
  obtain ⟨rec', heligible', rfl, hmem', rfl⟩ := hrecord id' hid' r' hr'
  rw [Scheduler.canOverlap_refreshed s heligible' heligible,
    Scheduler.canOverlap_footprinted_congr h.evidence
      (rfl : rec'.request = (bare rec'.request).request)
      (rfl : rec.request = (bare rec.request).request)]
  exact hpairs _ hmem' _ hmem hne.symm

/-- No grant is in the way of the crowd, and the bounds leave room for all of it. -/
theorem Waiting.mayRunTogether (h : Waiting crowd s) (hkeyed : s.Keyed) :
    s.MayRunTogether (s.ranking []) := by
  have hlength : (s.ranking []).length = 3 := (h.ranking_perm hkeyed).length_eq
  have hidle := (Scheduler.refreshed_rewritten s).activeByParticipant.trans h.idle
  refine ⟨Scheduler.nodup_ranking hkeyed [], fun id hid => ?_, h.overlap hkeyed, ?_, ?_⟩
  · obtain ⟨rec, hfind, heligible⟩ := (Scheduler.mem_ranking_iff hkeyed).mp hid
    rw [hfind]
    refine Scheduler.selectable_iff.mpr
      ⟨heligible, Scheduler.activeConflicts_of_idle hidle _, ?_, ?_⟩
    · rw [h.free, h.policy]
      decide
    · rw [h.policy]
      decide
  · rw [h.policy, hlength]
    decide
  · rw [h.free, h.policy, hlength]
    decide

/-- The round selects the whole crowd. -/
theorem Waiting.selection_perm (h : Waiting crowd s) (hkeyed : s.Keyed) :
    (s.selection []).Perm (crowd.map CollectiveRequest.id) := by
  have hall := (h.mayRunTogether hkeyed).selectLoop_append []
  rw [List.append_nil] at hall
  have hselection : s.selection [] = s.ranking [] :=
    (s.selection_sublist []).antisymm hall.sublist
  rw [hselection]
  exact h.ranking_perm hkeyed

/-- With two ids left, the round gives the last one twice. -/
theorem Waiting.last_id_twice (h : Waiting crowd s) (horderly : s.Orderly)
    (hcounter : s.nextGrantId.value.toNat + 1 = maxValue) :
    ∃ s' dec, s.schedule [] [] = (s', .ok dec) ∧ dec.selected.length = 3 ∧
      ¬dec.grants.Nodup := by
  obtain ⟨s', dec, created, hround⟩ := Scheduler.scheduleRound_isOk horderly.settled [] []
  have hlength : dec.selected.length = 3 := by
    rw [(Scheduler.scheduleRound_ok hround).selected]
    exact (h.selection_perm horderly.keyed).length_eq
  refine ⟨s', dec, by rw [Scheduler.schedule, hround]; rfl, hlength, fun hnodup => ?_⟩
  have hids := Scheduler.toNat_ids_scheduleRound horderly hround
  rw [Scheduler.scheduleRound_grants hround] at hnodup
  have hvalues : ((created.map CollectiveGrant.id).map (·.value.toNat)).Nodup :=
    hnodup.map fun _ _ heq => Id.ext_toNat heq
  rw [List.map_map] at hvalues
  change (created.map (fun g => g.id.value.toNat)).Nodup at hvalues
  rw [hids, hlength] at hvalues
  -- the second and the third id
  have hsame : min (s.nextGrantId.value.toNat + 1) maxValue =
      min (s.nextGrantId.value.toNat + 2) maxValue := by omega
  have hthree : List.range 3 = [0, 1, 2] := rfl
  rw [hthree] at hvalues
  simp [hsame] at hvalues

end Round

end Saturation

end CollectiveScheduler
