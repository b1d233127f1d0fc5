/-
  Scheduler/Schedule.lean --- one scheduling round.

  Source: `promote_to_granted`, `create_grant`, `collect_priority_inversions`
  and `schedule` of src/scheduler.cpp.

  The round is cut into its passes, one definition each, in the order of the
  source: readiness and candidate collection, counts, ranking, selection, grant
  creation, overlap group, fairness accounting, fallback, ranking factors and
  priority inversions.  The walks over unordered maps take their order as an
  argument.  Only the readiness pass can throw, and what it changed before the
  throw stays changed.
-/
import CollectiveScheduler.Model.Lifecycle
import CollectiveScheduler.Scheduler.Overlap
import CollectiveScheduler.Scheduler.Ranking

set_option autoImplicit false

namespace CollectiveScheduler

open Foundation

namespace Scheduler

variable {D : Type} [Double D]

/-! ## Readiness and candidates -/

/-- The readiness values that send an eligible or queued record back to waiting. -/
def isWaitingReadiness (rd : Readiness) : Bool :=
  rd ∈ [.waitingDependency, .waitingParticipant, .waitingCommunicationPlan,
    .waitingReservation, .waitingResource, .waitingCapacity]

/-- The `switch` of the readiness pass: the state it moves a record to, if any,
and whether the loop body ends there with `continue`. -/
def lifecycleTarget (rd : Readiness) (st : LifecycleState) : Option (LifecycleState × Bool) :=
  match st with
  | .declared => if rd = .ready then some (.ready, false) else some (.waiting, false)
  | .waiting =>
      if rd = .ready then some (.ready, false)
      else if rd = .stale then some (.revalidationRequired, true)
      else none
  | .ready => if rd ≠ .ready ∧ rd = .stale then some (.revalidationRequired, true) else none
  | .eligible | .queued =>
      if rd = .stale then some (.revalidationRequired, true)
      else if isWaitingReadiness rd then some (.waiting, true)
      else none
  | _ => none

/-- The derived state, through the guarded transition. -/
def deriveLifecycle (rd : Readiness) (st : LifecycleState) :
    Except SchedulerError (LifecycleState × Bool) :=
  match lifecycleTarget rd st with
  | none => .ok (st, false)
  | some (target, done) =>
      match st.transition target with
      | .ok st' => .ok (st', done)
      | .error e => .error e

/-- The body of the readiness loop on one record: the rewritten record, and
whether the record became a candidate or the pass threw. -/
def refreshRecord (s : Scheduler D) (rec : Record D) : Record D × Except SchedulerError Bool :=
  if rec.lifecycle.isTerminalState then (rec, .ok false)
  else
    let rd := s.computeReadiness rec.request
    let r : Record D :=
      { rec with
        ageTicks := rec.ageTicks + 1
        footprint := makeFootprint rec.request.participants rec.request.resourceClaims
          (s.plan rec.request.planId)
        lastReadiness := rd
        hardEligible := false
        eligibilityReasons := [] }
    match deriveLifecycle rd rec.lifecycle with
    | .error e => (r, .error e)
    | .ok (st, done) =>
        let r := { r with lifecycle := st }
        if done then (r, .ok false)
        else if st = .ready ∨ st = .eligible ∨ st = .queued then
          match s.hardEligible r.lastReadiness r.request with
          | none => ({ r with hardEligible := true }, .ok true)
          | some reason => ({ r with eligibilityReasons := [reason] }, .ok false)
        else (r, .ok false)

/-- The readiness loop over the records in iteration order.  Candidates are
collected in that order; a throw keeps the records rewritten so far. -/
def refreshRecords (s : Scheduler D) : List CollectiveRequestId → List CollectiveRequestId →
    Scheduler D × Except SchedulerError (List CollectiveRequestId)
  | [], candidates => (s, .ok candidates)
  | id :: rest, candidates =>
      match s.records.find? id with
      | none => refreshRecords s rest candidates
      | some rec =>
          let (rec', outcome) := s.refreshRecord rec
          let s' := { s with records := s.records.insert id rec' }
          match outcome with
          | .error e => (s', .error e)
          | .ok true => refreshRecords s' rest (candidates ++ [rec'.request.id])
          | .ok false => refreshRecords s' rest candidates

/-- The refreshed counters. -/
def refreshCounts (s : Scheduler D) : Scheduler D :=
  { s with
    readyCount := s.records.count (fun r => r.lifecycle = .ready)
    queuedCount := s.records.count (fun r => r.lifecycle = .queued || r.lifecycle = .eligible)
    eligibleCount := s.records.count (fun r => r.hardEligible) }

/-! ## Selection -/

/-- `can_overlap` against every request selected so far. -/
def compatibleWithAll (s : Scheduler D) (rec : Record D) (selected : List CollectiveRequestId) :
    Bool :=
  selected.all fun id =>
    match s.records.find? id with
    | none => false
    | some other => s.canOverlap rec other

/-- The selection loop over the ranked candidates. -/
def selectLoop (s : Scheduler D) : List CollectiveRequestId → List CollectiveRequestId →
    List CollectiveRequestId
  | [], selected => selected
  | id :: rest, selected =>
      match s.records.find? id with
      | none => selectLoop s rest selected
      | some rec =>
          if s.activeGrants + selected.length ≥ s.policy.bounds.maxActiveGrants.toNat then selected
          else
            let exclusive := rec.request.overlap = .exclusive
            if exclusive ∧ selected ≠ [] then selectLoop s rest selected
            else if s.activeConflicts rec > 0 then selectLoop s rest selected
            else if !s.compatibleWithAll rec selected then selectLoop s rest selected
            else if selected.length ≥ s.policy.bounds.maxOverlapGroup.toNat then selected
            else if exclusive then selected ++ [id]
            else selectLoop s rest (selected ++ [id])

/-! ## Grants -/

/-- `promote_to_granted`, with its fall-through cases. -/
def promoteToGranted (rec : Record D) : Except SchedulerError (Record D) :=
  let step (st : LifecycleState) (target : LifecycleState) := st.transition target
  let granted : Except SchedulerError LifecycleState :=
    match rec.lifecycle with
    | .ready => do
        let st ← step .ready .eligible
        let st ← step st .queued
        step st .granted
    | .eligible => do
        let st ← step .eligible .queued
        step st .granted
    | .queued => step .queued .granted
    | .granted => .ok .granted
    | _ => .error (throwTransition "cannot promote to granted")
  match granted with
  | .ok st => .ok { rec with lifecycle := st, inReadyQueue := true }
  | .error e => .error e

/-- The largest generation of a list, starting from a given one. -/
def maxGeneration {d : GenDomain} (start : Gen d) (gens : List (Gen d)) : Gen d :=
  gens.foldl (fun m v => if m < v then v else m) start

/-- The grant `create_grant` fills in for a record. -/
def grantFor (s : Scheduler D) (req : CollectiveRequest D) (dec : ScheduleDecision D) :
    CollectiveGrant where
  id := s.nextGrantId
  gen := s.nextGrantGen
  request := req.id
  requestGen := req.gen
  collective := req.collective
  collectiveGen := req.collectiveGen
  schedule := dec.id
  scheduleGen := dec.gen
  participants := req.participants
  participantGens := req.participantGens
  plan := req.planId
  planGen := req.planGen
  evidence :=
    { dec.evidence with
      requestGen := req.gen
      planGen := req.planGen
      collectiveGen := req.collectiveGen
      participantGen :=
        match req.participantGens with
        | [] => dec.evidence.participantGen
        | g :: _ => maxGeneration g req.participantGens
      dependencyGen := maxGeneration 0 (req.dependencies.map DependencyRequirement.gen) }
  revalidation := kDefaultRevalidation
  workload := req.workload
  executionAttempt := 0
  executionAttemptGen := 0
  policyGen := s.policyGen

/-- `create_grant`: a fresh grant becomes the record's current one.  `emplace`
keeps an entry that already has the id. -/
def createGrant (s : Scheduler D) (id : CollectiveRequestId) (rec : Record D)
    (dec : ScheduleDecision D) : Scheduler D × CollectiveGrant :=
  let g := s.grantFor rec.request dec
  ({ s with
      nextGrantId := s.nextGrantId.next
      nextGrantGen := s.nextGrantGen.next
      records := s.records.insert id { rec with currentGrant := some g }
      grants := s.grants.emplace g.id { grant := g } }, g)

/-- The grant-creation loop, with the grants it creates; a record that cannot be
promoted is skipped. -/
def createGrants (dec : ScheduleDecision D) : Scheduler D → List CollectiveRequestId →
    Scheduler D × List CollectiveGrant
  | s, [] => (s, [])
  | s, id :: rest =>
      match s.records.find? id with
      | none => createGrants dec s rest
      | some rec =>
          match promoteToGranted rec with
          | .error _ => createGrants dec s rest
          | .ok rec' =>
              let (s', g) := s.createGrant id rec' dec
              let (s'', created) := createGrants dec s' rest
              (s'', g :: created)

/-! ## Overlap group, fairness, factors, inversions -/

/-- The mode of the overlap group: a single member's own mode, else limited as
soon as one member is. -/
def groupMode (s : Scheduler D) (selected : List CollectiveRequestId) : OverlapMode :=
  let modeOf (id : CollectiveRequestId) : OverlapMode :=
    match s.records.find? id with
    | none => .unknown
    | some rec => rec.request.overlap
  match selected with
  | [id] => modeOf id
  | _ => if selected.any (fun id => modeOf id = .overlapLimited) then .overlapLimited
      else .overlapAllowed

/-- The overlap group of a non-empty selection. -/
def overlapGroup (s : Scheduler D) (selected : List CollectiveRequestId) :
    Scheduler D × List OverlapGroup :=
  if selected.isEmpty then (s, [])
  else
    let grp : OverlapGroup :=
      { id := s.nextGroupId, gen := s.nextGroupGen, members := selected,
        mode := s.groupMode selected, bound := s.policy.bounds.maxOverlapGroup }
    ({ s with nextGroupId := s.nextGroupId.next, nextGroupGen := s.nextGroupGen.next },
      [grp.normalize])

/-- The account of a candidate after the round. -/
def accountRound (p : PolicyConfig D) (wasSelected : Bool) (f : FairnessAccount D) :
    FairnessAccount D :=
  if wasSelected then
    { f with
      observedGrants := f.observedGrants + 1
      observedService := f.observedService + Double.ofRat 1
      consecutiveBypasses := 0
      deficit := if Double.lt p.agingGrowth f.deficit then f.deficit - p.agingGrowth
        else Double.ofRat 0
      starved := false }
  else
    { f with
      consecutiveBypasses := f.consecutiveBypasses + 1
      waitTicks := f.waitTicks + 1
      deficit := f.deficit + p.agingGrowth
      starved := f.consecutiveBypasses + 1 ≥ p.maxBypassCount }

/-- The fairness pass over the candidates. -/
def accountFairness (s : Scheduler D) (candidates selected : List CollectiveRequestId) :
    Scheduler D :=
  { s with
    records := s.records.modifyAll candidates (fun id rec =>
      { rec with fairness := accountRound s.policy (id ∈ selected) rec.fairness }) }

/-- The factors of the top candidate. -/
def topFactors (s : Scheduler D) (ranked : List CollectiveRequestId) : List (FactorValue D) :=
  match ranked with
  | [] => []
  | id :: _ =>
      match s.records.find? id with
      | none => []
      | some rec => List.zipWith (fun k v => { kind := k, value := v }) factorKinds
          (s.rankingKey rec)

/-- The inversion event of one waiting request against one grant, if any. -/
def inversionEvent (s : Scheduler D) (requester : Record D) (gid : CollectiveGrantId) :
    Option PriorityInversionEvent :=
  match s.grants.find? gid with
  | none => none
  | some gs =>
      if !gs.active || gs.terminal then none
      else
        match s.records.find? gs.grant.request with
        | none => none
        | some holder =>
            if holder.request.priority.value ≥ requester.request.priority.value then none
            else if
              !(classifyConflict requester.footprint holder.footprint).forbidsOverlap then none
            else
              let w := requester.request.window
              let urgent := w.deadlineNs ≠ 0 ∧ w.deadlineNs ≤ s.now + w.expectedDurationNs * 2
              some
                { holder := holder.request.id
                  requester := requester.request.id
                  holderPriority := holder.request.priority.value
                  requesterPriority := requester.request.priority.value
                  evidence := s.makeSnapshot
                  action := if urgent then .requestPreemption else .drainCurrent }

/-- `collect_priority_inversions`, walking the grants in iteration order. -/
def collectPriorityInversions (s : Scheduler D) (fallback : List CollectiveRequestId)
    (grantOrder : List CollectiveGrantId) : List PriorityInversionEvent :=
  fallback.flatMap fun id =>
    match s.records.find? id with
    | none => []
    | some rec =>
        if !rec.request.priority.authoritative then []
        else (s.grants.iteration grantOrder).filterMap (s.inversionEvent rec)

/-! ## The round -/

/-- The passes after the candidates are known: the decision, and the grants that
were created for it. -/
def decideRound (s : Scheduler D) (dec : ScheduleDecision D)
    (candidates : List CollectiveRequestId) (grantOrder : List CollectiveGrantId) :
    Scheduler D × ScheduleDecision D × List CollectiveGrant :=
  let s := s.refreshCounts
  let ranked := (s.rank candidates).map Ranked.id
  let selected := s.selectLoop ranked []
  let (s, created) := createGrants dec s selected
  let (s, groups) := s.overlapGroup selected
  let s := s.accountFairness candidates selected
  let fallback := ranked.filter (fun id => id ∉ selected)
  (s,
    { dec with
      selected := selected
      grants := created.map CollectiveGrant.id
      overlapGroups := groups
      fallback := fallback
      rankingFactors := s.topFactors ranked
      priorityInversions := s.collectPriorityInversions fallback grantOrder
      explanation := "collective " ++ toString selected.length ++ " selected" },
    created)

/-- The decision at the start of a round: its identity and the evidence. -/
def openDecision (s : Scheduler D) : ScheduleDecision D :=
  { id := s.nextScheduleId, gen := s.nextScheduleGen, evidence := s.makeSnapshot,
    revalidation := kDefaultRevalidation }

/-- The counters consumed by a round. -/
def consumeScheduleId (s : Scheduler D) : Scheduler D :=
  { s with nextScheduleId := s.nextScheduleId.next, nextScheduleGen := s.nextScheduleGen.next }

/-- `Impl::schedule`, with the grants it creates. -/
def scheduleRound (s : Scheduler D) (recordOrder : List CollectiveRequestId)
    (grantOrder : List CollectiveGrantId) :
    Scheduler D × Except SchedulerError (ScheduleDecision D × List CollectiveGrant) :=
  let dec := s.openDecision
  let s := s.consumeScheduleId
  match s.refreshRecords (s.records.iteration recordOrder) [] with
  | (s, .error e) => (s, .error e)
  | (s, .ok candidates) =>
      let (s, dec, created) := s.decideRound dec candidates grantOrder
      (s, .ok (dec, created))

/-- `Scheduler::schedule`: the decision of the round. -/
def schedule (s : Scheduler D) (recordOrder : List CollectiveRequestId)
    (grantOrder : List CollectiveGrantId) :
    Scheduler D × Except SchedulerError (ScheduleDecision D) :=
  let (s, outcome) := s.scheduleRound recordOrder grantOrder
  (s, outcome.map Prod.fst)

/-- The calls `schedule` makes on the preemption port, where one is installed. -/
def preemptionCalls (dec : ScheduleDecision D) : List PortCall :=
  dec.priorityInversions.map (fun ev => .requestPreemption ev.holder ev.requester ev.action)

end Scheduler

end CollectiveScheduler
