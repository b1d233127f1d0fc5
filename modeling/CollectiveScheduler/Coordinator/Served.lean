/-
  Coordinator/Served.lean --- the scheduler behind a coordinator.

  The messages of a coordinator lead to some of the calls only: nothing is handed off,
  superseded, cancelled or reset, and the policy stays the default.  So a stored request
  keeps to the bounds of the policy, the grant table holds issued grants, and an entry
  keeps the grant it was created with, whoever completes it or fences its worker.
-/
import CollectiveScheduler.Coordinator.Coordinator
import CollectiveScheduler.System.NewGrants

set_option autoImplicit false

namespace CollectiveScheduler

open Foundation

variable {D : Type}

/-! ## Requests within the bounds -/

/-- The lists of the request are as short as the bounds say. -/
structure CollectiveRequest.Fits (b : Bounds) (req : CollectiveRequest D) : Prop where
  participants : req.participants.length ≤ b.maxParticipantsPerCollective.toNat
  parallel : req.participantGens.length = req.participants.length
  claims : req.resourceClaims.length ≤ b.maxParticipantsPerCollective.toNat
  dependencies : req.dependencies.length ≤ b.maxDependenciesPerRequest.toNat

theorem validateRequest_fits [Double D] {req : CollectiveRequest D} {p : PolicyConfig D}
    (h : validateRequest req p = .ok ()) : req.Fits p.bounds := by
  simp only [validateRequest, rejectIf_ok_iff, decide_eq_false_iff_not] at h
  obtain ⟨-, -, hparticipants, -, hlen, -, -, -, -, -, -, -, hclaims, hdeps, -⟩ := h
  exact ⟨not_lt.mp hparticipants, not_not.mp hlen, not_lt.mp hclaims, not_lt.mp hdeps⟩

/-- Every stored request keeps to the bounds. -/
def Scheduler.Fits (s : Scheduler D) (b : Bounds) : Prop :=
  ∀ id rec, s.records.find? id = some rec → rec.request.Fits b

/-- While the policy stays, what is stored keeps to its bounds. -/
theorem System.next_fits [Double D] {y : System D} (h : y.sched.Fits y.sched.policy.bounds)
    (op : Op D) : (y.next op).sched.Fits y.sched.policy.bounds := by
  intro id rec' hfind'
  have hstep := y.recordStep op id
  rw [hfind'] at hstep
  cases hbefore : y.sched.records.find? id with
  | none =>
      rw [hbefore] at hstep
      cases hstep with
      | filed hop =>
          subst hop
          rw [sched_next_submit] at hfind'
          rcases y.sched.submit_cases _ with ⟨next, e, heq⟩ | ⟨-, hvalid, heq⟩ <;>
            rw [heq] at hfind'
          · rw [hbefore] at hfind'
            cases hfind'
          · rcases FinMap.find?_emplace_cases hfind' with hold | ⟨-, -, rfl⟩
            · rw [hbefore] at hold
              cases hold
            · exact validateRequest_fits hvalid
  | some rec =>
      have hfits := h id rec hbefore
      rw [hbefore] at hstep
      cases hstep with
      | carried hcarried =>
          rw [hcarried.request]
          exact hfits
      | replaced hop hid hgen _ =>
          subst hop
          change (y.sched.supersede _).1.records.find? id = _ at hfind'
          rcases y.sched.supersede_cases _ with ⟨e, heq⟩ | ⟨old, -, -, hvalid, heq⟩ <;>
            rw [heq] at hfind'
          · rw [hbefore] at hfind'
            rw [← Option.some.inj hfind']
            exact hfits
          · exact validateRequest_fits hvalid

/-! ## Entries that keep their grant -/

namespace Scheduler

/-- The same grants are stored under the same ids. -/
def GrantsKept (s s' : Scheduler D) : Prop := ∀ gid, s'.grantById gid = s.grantById gid

theorem GrantsKept.of_grants {s s' : Scheduler D} (h : s'.grants = s.grants) :
    s.GrantsKept s' := fun gid => by rw [grantById, h, grantById]

theorem GrantsKept.trans {s s' s'' : Scheduler D} (h : s.GrantsKept s')
    (h' : s'.GrantsKept s'') : s.GrantsKept s'' := fun gid => (h' gid).trans (h gid)

/-- An entry is replaced by one with the same grant. -/
theorem GrantsKept.replace {s s' : Scheduler D} {gid : CollectiveGrantId} {gs gs' : GrantState}
    (hentry : s.grants.find? gid = some gs) (hgrants : s'.grants = s.grants.insert gid gs')
    (hgrant : gs'.grant = gs.grant) : s.GrantsKept s' := by
  intro gid'
  unfold grantById
  rw [hgrants, FinMap.find?_insert]
  split_ifs with hid
  · rw [hid, hentry, Option.map_some, Option.map_some, hgrant]
  · rfl

theorem GrantsKept.revokeGrant (s : Scheduler D) (gid : CollectiveGrantId) :
    s.GrantsKept (s.revokeGrant gid) := by
  unfold Scheduler.revokeGrant
  cases hentry : s.grants.find? gid with
  | none => exact .of_grants rfl
  | some gs => exact .replace hentry rfl rfl

theorem GrantsKept.fenceWorkerBoot (s : Scheduler D) (worker : WorkerId) (boot : WorkerBootId)
    (recordOrder : List CollectiveRequestId) :
    s.GrantsKept (s.fenceWorkerBoot worker boot recordOrder) := by
  refine fenceWorkerBoot_induct (P := fun t => s.GrantsKept t) recordOrder (.of_grants rfl) ?_
  intro t rid rec _ _ _ _ _ ht
  refine ht.trans ?_
  have hmarked : t.GrantsKept { t with records := t.records.insert rid rec.demandRevalidation } :=
    .of_grants rfl
  unfold Scheduler.fenceHit
  simp only
  cases rec.currentGrant with
  | none => exact hmarked
  | some g => exact hmarked.trans (.revokeGrant _ g.id)

end Scheduler

/-- Every call of a coordinator but a round keeps the stored grants. -/
theorem System.served_grantsKept [Double D] (y : System D) {op : Op D}
    (hserved : op.isServed = true) (hround : ∀ ro go, op ≠ .schedule ro go) :
    y.sched.GrantsKept (y.next op).sched := by
  by_cases hquiet : op.isQuiet = true
  · obtain ⟨s, hnext, hrewritten⟩ := y.next_quiet hquiet
    rw [hnext]
    exact .of_grants hrewritten.grants
  cases op with
  | publishParticipant p => exact .of_grants (y.sched.publishParticipant_rewritten p).grants
  | submit req =>
      rw [sched_next_submit]
      rcases y.sched.submit_cases req with ⟨next, e, heq⟩ | ⟨-, -, heq⟩ <;> rw [heq] <;>
        exact .of_grants rfl
  | schedule recordOrder grantOrder => exact absurd rfl (hround recordOrder grantOrder)
  | complete g wb sb =>
      change y.sched.GrantsKept (y.sched.complete g wb sb).1
      rcases y.sched.complete_cases g wb sb with heq | ⟨rec, gs, -, hentry, -, -, heq⟩ <;> rw [heq]
      · exact .of_grants rfl
      · exact .replace hentry rfl rfl
  | fenceWorkerBoot worker boot recordOrder =>
      exact .fenceWorkerBoot y.sched worker boot recordOrder
  | _ => first | exact absurd rfl hquiet | cases hserved

/-! ## The round -/

section Round

variable [Double D] {s s' : Scheduler D} {recordOrder : List CollectiveRequestId}
  {grantOrder : List CollectiveGrantId} {dec : ScheduleDecision D}
  {created : List CollectiveGrant}

namespace Scheduler

/-- A stored grant stays stored under its id. -/
theorem grantById_scheduleRound
    (h : s.scheduleRound recordOrder grantOrder = (s', .ok (dec, created)))
    {gid : CollectiveGrantId} {g : CollectiveGrant} (hstored : s.grantById gid = some g) :
    s'.grantById gid = some g := by
  obtain ⟨gs, hentry, hgrant⟩ := Option.map_eq_some_iff.mp hstored
  rw [← (refreshed_rewritten s).grants] at hentry
  have hkept := find?_grants_createGrants s.openDecision (s.selection recordOrder) hentry
  unfold grantById
  rw [(scheduleRound_ok h).state, (closeRound_rewritten _ _ _).grants, hkept, Option.map_some,
    hgrant]

/-- What is stored after a round was stored before or was created by it. -/
theorem entry_scheduleRound (horderly : s.Orderly)
    (h : s.scheduleRound recordOrder grantOrder = (s', .ok (dec, created)))
    {issued : List CollectiveGrant}
    (hentries : ∀ gid gs, s.grants.find? gid = some gs → gs.grant ∈ issued) :
    ∀ gid gs, s'.grants.find? gid = some gs → gs.grant ∈ issued ++ created := by
  have hresult := scheduleRound_ok h
  rw [hresult.state, (closeRound_rewritten _ _ _).grants, hresult.created]
  refine createGrants_induct
    (P := fun t grants => ∀ gid gs, t.grants.find? gid = some gs → gs.grant ∈ grants)
    s.openDecision (s.selection recordOrder) s.refreshed issued ?_
    (nodup_selection horderly.keyed recordOrder)
    (selection_all_ready horderly.keyed horderly.settled recordOrder) ?_
  · intro t grants id rec _ _ _ _ ht gid gs hentry
    rcases FinMap.find?_emplace_cases hentry with hold | ⟨-, -, rfl⟩
    · exact List.mem_append_left _ (ht gid gs hold)
    · exact List.mem_append_right _ List.mem_cons_self
  · rw [(refreshed_rewritten s).grants]
    exact hentries

end Scheduler

end Round

/-! ## The invariant -/

/-- A grant as a round creates it from a request within the bounds. -/
structure CollectiveGrant.Fits (b : Bounds) (g : CollectiveGrant) : Prop where
  participants : g.participants.length ≤ b.maxParticipantsPerCollective.toNat
  participantGens : g.participantGens.length ≤ b.maxParticipantsPerCollective.toNat
  open_ : g.terminal = false

/-- What holds of the scheduler of a coordinator. -/
structure System.Deployed [Double D] (y : System D) : Prop where
  orderly : y.sched.Orderly
  policy : y.sched.policy = PolicyConfig.default
  requests : y.sched.Fits y.sched.policy.bounds
  issued : ∀ g ∈ y.issued, g.Fits y.sched.policy.bounds
  entries : ∀ gid gs, y.sched.grants.find? gid = some gs → gs.grant ∈ y.issued

namespace System.Deployed

variable [Double D] {y : System D}

/-- A scheduler with an empty grant table that has issued nothing. -/
theorem opened {s : Scheduler D} (horderly : s.Orderly) (hpolicy : s.policy = PolicyConfig.default)
    (hfits : s.Fits s.policy.bounds) (hgrants : s.grants = .empty) :
    System.Deployed { sched := s } where
  orderly := horderly
  policy := hpolicy
  requests := hfits
  issued _ hg := absurd hg List.not_mem_nil
  entries gid gs hentry := by
    change s.grants.find? gid = some gs at hentry
    rw [hgrants] at hentry
    cases hentry

/-- The state after a round, and what it created. -/
theorem next_schedule {recordOrder : List CollectiveRequestId}
    {grantOrder : List CollectiveGrantId} {s : Scheduler D} {dec : ScheduleDecision D}
    {created : List CollectiveGrant}
    (hround : y.sched.scheduleRound recordOrder grantOrder = (s, .ok (dec, created))) :
    y.next (.schedule recordOrder grantOrder) =
        { y with sched := s, issued := y.issued ++ created } ∧
      y.outcome (.schedule recordOrder grantOrder) = .decided dec := by
  simp only [System.next, System.outcome, System.step, hround, and_self]

theorem next (h : y.Deployed) {op : Op D} (hserved : op.isServed = true) :
    (y.next op).Deployed := by
  have hpolicy : (y.next op).sched.policy = y.sched.policy := by
    refine y.policy_next ?_
    cases op <;> first | rfl | cases hserved
  have horderly := System.next_orderly op h.orderly
  have hrequests : (y.next op).sched.Fits (y.next op).sched.policy.bounds := by
    rw [hpolicy]
    exact System.next_fits h.requests op
  by_cases hop : ∃ recordOrder grantOrder, op = .schedule recordOrder grantOrder
  · obtain ⟨recordOrder, grantOrder, rfl⟩ := hop
    obtain ⟨s, dec, created, hround⟩ :=
      Scheduler.scheduleRound_isOk h.orderly.settled recordOrder grantOrder
    have hissued : (y.next (.schedule recordOrder grantOrder)).issued = y.issued ++ created := by
      rw [(next_schedule hround).1]
    refine ⟨horderly, hpolicy.trans h.policy, hrequests, fun g hg => ?_, ?_⟩
    · rw [hissued] at hg
      rw [hpolicy]
      rcases List.mem_append.mp hg with hg | hg
      · exact h.issued g hg
      · obtain ⟨rec, t, -, hfind, -, rfl, -⟩ :=
          Scheduler.held_scheduleRound h.orderly hround g hg
        have hfits := h.requests _ rec hfind
        exact ⟨hfits.participants, hfits.parallel ▸ hfits.participants, rfl⟩
    · rw [hissued, sched_next_schedule, hround]
      exact Scheduler.entry_scheduleRound h.orderly hround h.entries
  · have hround : ∀ ro go, op ≠ .schedule ro go := fun ro go heq => hop ⟨ro, go, heq⟩
    have hissued : (y.next op).issued = y.issued := by
      rcases y.issued_next op with hsame | ⟨ro, go, -, -, -, heq, -⟩
      · exact hsame
      · exact absurd heq (hround ro go)
    refine ⟨horderly, hpolicy.trans h.policy, hrequests, ?_, fun gid gs hentry => ?_⟩
    · rw [hissued, hpolicy]
      exact h.issued
    · have hkept := y.served_grantsKept hserved hround gid
      unfold Scheduler.grantById at hkept
      rw [hentry, Option.map_some] at hkept
      obtain ⟨gs₀, hentry₀, hgrant⟩ := Option.map_eq_some_iff.mp hkept.symm
      rw [hissued, ← hgrant]
      exact h.entries gid gs₀ hentry₀

/-- A stored grant stays stored under its id. -/
theorem grantById_next (h : y.Deployed) {op : Op D} (hserved : op.isServed = true)
    {gid : CollectiveGrantId} {g : CollectiveGrant} (hstored : y.sched.grantById gid = some g) :
    (y.next op).sched.grantById gid = some g := by
  by_cases hop : ∃ recordOrder grantOrder, op = .schedule recordOrder grantOrder
  · obtain ⟨recordOrder, grantOrder, rfl⟩ := hop
    obtain ⟨s, dec, created, hround⟩ :=
      Scheduler.scheduleRound_isOk h.orderly.settled recordOrder grantOrder
    rw [sched_next_schedule, hround]
    exact Scheduler.grantById_scheduleRound hround hstored
  · rw [y.served_grantsKept hserved (fun ro go heq => hop ⟨ro, go, heq⟩) gid]
    exact hstored

end System.Deployed

end CollectiveScheduler
