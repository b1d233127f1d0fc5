/-
  Scheduler/Operations.lean --- the public operations of the scheduler.

  Source: the public API section of src/scheduler.cpp.

  Each operation is one critical section on the state; `handoff` has two, with
  the fabric's answer between them, and is given both as its sections and as
  their composition.  An operation that throws returns the state as the throw
  leaves it.  The calls made on the ports after the lock is released are part of
  the result.
-/
import CollectiveScheduler.Scheduler.Schedule

set_option autoImplicit false

namespace CollectiveScheduler

open Foundation

/-- The `switch` shared by participant publication and fencing: a record in a
revocable state has to be revalidated. -/
def Record.demandRevalidation {D : Type} (rec : Record D) : Record D :=
  if rec.lifecycle.isRevocable then
    { rec with lifecycle := rec.lifecycle.transitionOrKeep .revalidationRequired }
  else rec

/-- The record that `supersede` retires; it is replaced right after. -/
def Record.retireSuperseded {D : Type} (old : Record D) : Record D :=
  if old.lifecycle ≠ .completed ∧ old.lifecycle ≠ .cancelled then
    { old with lifecycle := old.lifecycle.transitionOrForce .superseded }
  else old

/-- The record `cancel` leaves behind. -/
def Record.cancel {D : Type} (rec : Record D) : Record D :=
  { rec with lifecycle := rec.lifecycle.transitionOrForce .cancelled }

/-- Recovery of one record: terminal ones keep their state, no grant survives. -/
def Record.recover {D : Type} (rec : Record D) : Record D :=
  { rec with
    lifecycle :=
      if rec.lifecycle.isTerminalState then rec.lifecycle
      else rec.lifecycle.transitionOrForce .revalidationRequired
    currentGrant := none
    hardEligible := false
    lastReadiness := .unknown }

namespace Scheduler

variable {D : Type} [Double D]

/-! ## Evidence -/

/-- The request names a participant at another generation than the published one. -/
def namesOutdated (req : CollectiveRequest D) (p : Participant) : Bool :=
  req.participants.zipIdx.any (fun e => e.1 = p.id && req.participantGens[e.2]? ≠ some p.gen)

/-- The body of the walk of `publishParticipant` over the requests of the
participant. -/
def revalidateAgainst (p : Participant) (rec : Record D) : Record D :=
  if rec.lifecycle.isTerminalState then rec
  else if namesOutdated rec.request p then rec.demandRevalidation
  else rec

/-- The requests indexed under a participant. -/
def requestsOf (s : Scheduler D) (pid : ParticipantId) : List CollectiveRequestId :=
  match s.participantRequests.find? pid with
  | none => []
  | some ids => ids.keys

/-- Whether a publication replaces the stored participant by a newer generation
or another boot. -/
def supplants (s : Scheduler D) (p : Participant) : Bool :=
  match s.participants.find? p.id with
  | none => false
  | some old => old.gen < p.gen || old.workerBoot ≠ p.workerBoot

/-- The publication regresses the stored generation. -/
def participantRegresses (s : Scheduler D) (p : Participant) : Bool :=
  match s.participants.find? p.id with
  | none => false
  | some old => p.gen < old.gen

/-- `publishParticipant`. -/
def publishParticipant (s : Scheduler D) (p : Participant) :
    Scheduler D × Except SchedulerError Unit :=
  if s.participantRegresses p then (s, .error (throwTransition "participant generation regress"))
  else
    ({ s with
        records := if s.supplants p then
            s.records.modifyAll (s.requestsOf p.id) (fun _ => revalidateAgainst p)
          else s.records
        participants := s.participants.insert p.id p
        participantRequests := s.participantRequests.emplace p.id .empty }, .ok ())

/-- `publishPlan`. -/
def publishPlan (s : Scheduler D) (pl : CommunicationPlan D) :
    Scheduler D × Except SchedulerError Unit :=
  if (s.plans.find? pl.id).any (fun old => pl.gen < old.gen) then
    (s, .error (throwTransition "plan generation regress"))
  else ({ s with plans := s.plans.insert pl.id pl }, .ok ())

/-- `publishDependency`. -/
def publishDependency (s : Scheduler D) (dep : DependencyState) :
    Scheduler D × Except SchedulerError Unit :=
  if (s.deps.find? dep.id).any (fun old => dep.gen < old.gen) then
    (s, .error (throwTransition "dependency generation regress"))
  else ({ s with deps := s.deps.insert dep.id dep }, .ok ())

/-- `publishReservation`: the newest publication is the current one, whatever
its generation. -/
def publishReservation (s : Scheduler D) (res : Reservation D) :
    Scheduler D × Except SchedulerError Unit :=
  ({ s with reservations := s.reservations.insert res.gen res, reservationGen := res.gen }, .ok ())

/-- `publishCongestion`. -/
def publishCongestion (s : Scheduler D) (cong : CongestionState D) :
    Scheduler D × Except SchedulerError Unit :=
  if s.congestion.any (fun old => cong.gen < old.gen) then
    (s, .error (throwTransition "congestion generation regress"))
  else ({ s with congestionGen := cong.gen, congestion := some cong }, .ok ())

/-- `publishCapacity`. -/
def publishCapacity (s : Scheduler D) (cap : CapacityState D) :
    Scheduler D × Except SchedulerError Unit :=
  if s.capacity.any (fun old => cap.gen < old.gen) then
    (s, .error (throwTransition "capacity generation regress"))
  else ({ s with capacityGen := cap.gen, capacity := some cap }, .ok ())

/-- `setPolicy`: this generation wraps instead of saturating. -/
def setPolicy (s : Scheduler D) (cfg : PolicyConfig D) : Scheduler D :=
  { s with policy := cfg, policyGen := ⟨s.policyGen.value + 1⟩ }

/-- `advanceCoordinatorEpoch`. -/
def advanceCoordinatorEpoch (s : Scheduler D) (epoch : CoordinatorEpoch) :
    Scheduler D × Except SchedulerError Unit :=
  if epoch ≤ s.epoch then (s, .error (throwTransition "coordinator epoch must advance"))
  else ({ s with epoch := epoch }, .ok ())

/-- `advanceTime`. -/
def advanceTime (s : Scheduler D) (d : Nanoseconds) : Scheduler D :=
  { s with now := s.now + d }

/-! ## Requests -/

/-- Index a request under each of its participants. -/
def trackRequest (index : FinMap ParticipantId (OrdSet CollectiveRequestId))
    (participants : List ParticipantId) (id : CollectiveRequestId) :
    FinMap ParticipantId (OrdSet CollectiveRequestId) :=
  participants.foldl
    (fun idx pid => idx.insert pid (((idx.find? pid).getD .empty).insert id ())) index

/-- The record `submit` files. -/
def submittedRecord (s : Scheduler D) (req : CollectiveRequest D) : Record D :=
  { request := { req with id := s.nextRequestId, gen := 1 }
    enqueueSeq := s.nextSeq
    lifecycle := .declared
    fairness := { FairnessAccount.default with cls := req.fairnessClass } }

/-- `submit`: an id is consumed even when validation throws, and `emplace` keeps
a record that already has the id. -/
def submit (s : Scheduler D) (req : CollectiveRequest D) :
    Scheduler D × Except SchedulerError CollectiveRequestId :=
  if s.records.size ≥ s.policy.bounds.maxCollectives.toNat then
    (s, .error (throwBounds "collective count bound"))
  else
    let id := s.nextRequestId
    let r := s.submittedRecord req
    let s := { s with nextRequestId := id.next }
    match validateRequest r.request s.policy with
    | .error e => (s, .error e)
    | .ok () =>
        ({ s with
            nextSeq := s.nextSeq + 1
            participantRequests := trackRequest s.participantRequests req.participants id
            records := s.records.emplace id r }, .ok id)

/-- The effect shared by cancellation, supersession and fencing on the entry of a
grant. -/
def revoked (gs : GrantState) : GrantState := { gs with terminal := true, active := false }

/-- The effect shared by supersession and fencing on the grant tables. -/
def revokeGrant (s : Scheduler D) (gid : CollectiveGrantId) : Scheduler D :=
  match s.grants.find? gid with
  | none => s
  | some gs =>
      { s with
        activeByParticipant := s.activeByParticipant.deindexActiveGrant gs.grant
        grants := s.grants.insert gid (revoked gs) }

/-- The record that replaces a superseded one. -/
def supersedingRecord (old : Record D) (req : CollectiveRequest D) : Record D :=
  { request := req, enqueueSeq := old.enqueueSeq, lifecycle := .waiting,
    fairness := old.fairness }

/-- `supersede`.  The counter goes down for every current grant, active or not. -/
def supersede (s : Scheduler D) (req : CollectiveRequest D) :
    Scheduler D × Except SchedulerError Unit :=
  match s.records.find? req.id with
  | none => (s, .error (throwInvalid "supersede for unknown request"))
  | some old =>
      if req.gen ≤ old.request.gen then
        (s, .error (throwTransition "supersede generation must advance"))
      else
        match validateRequest req s.policy with
        | .error e => (s, .error e)
        | .ok () =>
            let old := old.retireSuperseded
            let s := match old.currentGrant with
              | none => s
              | some g =>
                  let s := s.revokeGrant g.id
                  { s with activeGrants := s.activeGrants - 1 }
            ({ s with
                participantRequests := trackRequest s.participantRequests req.participants req.id
                records := s.records.insert req.id (supersedingRecord old req) }, .ok ())

/-- `cancel`, with the port calls after the lock is released. -/
def cancel (s : Scheduler D) (id : CollectiveRequestId) :
    Scheduler D × Except SchedulerError (List PortCall) :=
  match s.records.find? id with
  | none => (s, .error (throwInvalid "cancel for unknown request"))
  | some rec =>
      if rec.lifecycle.isTerminalState then (s, .ok [])
      else
        let release := PortCall.brokerRelease rec.request.workload
        match rec.currentGrant, rec.currentGrant.bind (fun g => s.grants.find? g.id) with
        | some g, some gs =>
            if gs.terminal then
              ({ s with records := s.records.insert id rec.cancel }, .ok [release])
            else
              ({ s with
                  records := s.records.insert id rec.cancel
                  activeByParticipant := s.activeByParticipant.deindexActiveGrant gs.grant
                  grants := s.grants.insert g.id (revoked gs)
                  activeGrants := if gs.active then s.activeGrants - 1 else s.activeGrants },
                .ok [release, .fabricRevoke gs.grant])
        | _, _ => ({ s with records := s.records.insert id rec.cancel }, .ok [])

/-! ## Handoff and completion -/

/-- The first critical section of `handoff`: the grant the fabric is asked to
accept, or nothing where `handoff` returns false at once. -/
def handoffBegin (s : Scheduler D) (g : CollectiveGrant) : Scheduler D × Option CollectiveGrant :=
  if s.revalidateGrant g ≠ .valid then (s, none)
  else
    match s.records.find? g.request with
    | none => (s, none)
    | some rec =>
        match rec.lifecycle.transition .dispatching with
        | .error _ => (s, none)
        | .ok st =>
            ({ s with
                records := s.records.insert g.request { rec with lifecycle := st }
                grants := s.grants.modify g.id (fun gs =>
                  { gs with handedOff := true, grant := g }) }, some g)

/-- The second critical section of `handoff`, given the fabric's answer: the
value `handoff` returns and the port calls made on the way out. -/
def handoffEnd (s : Scheduler D) (gc : CollectiveGrant) (accepted : Bool) :
    Scheduler D × Bool × List PortCall :=
  match s.records.find? gc.request with
  | none => (s, false, [.fabricRevoke gc])
  | some rec =>
      let st := if rec.lifecycle = .dispatching ∧ accepted then
          rec.lifecycle.transitionOrKeep .active
        else rec.lifecycle
      let s := { s with records := s.records.insert gc.request { rec with lifecycle := st } }
      match s.grants.find? gc.id with
      | none => (s, false, [.fabricRevoke gc])
      | some gs =>
          if st = .active then
            ({ s with
                grants := s.grants.insert gc.id { gs with active := true }
                activeGrants := s.activeGrants + 1
                activeByParticipant := s.activeByParticipant.indexActiveGrant gs.grant },
              accepted, [])
          else
            ({ s with grants := s.grants.insert gc.id { gs with active := false } },
              false, [.fabricRevoke gc])

/-- `handoff` with nothing between its critical sections. -/
def handoff (s : Scheduler D) (g : CollectiveGrant) (accepted : Bool) :
    Scheduler D × Bool × List PortCall :=
  match s.handoffBegin g with
  | (s, none) => (s, false, [])
  | (s, some gc) =>
      let (s, answer, calls) := s.handoffEnd gc accepted
      (s, answer, .fabricAccept gc :: calls)

/-- Some participant of a list was booted as the completing worker and source. -/
def bootMatches (s : Scheduler D) (participants : List ParticipantId) (wb : WorkerBootId)
    (sb : SourceBootId) : Bool :=
  participants.any (fun pid =>
    (s.participants.find? pid).any (fun p => p.workerBoot = wb && p.sourceBoot = sb))

/-- The checks of `complete` on the argument, the record and the grant entry. -/
def completionAllowed (s : Scheduler D) (g : CollectiveGrant) (wb : WorkerBootId)
    (sb : SourceBootId) (rec : Record D) (gs : GrantState) : Bool :=
  !gs.terminal && g.evidence.epoch = s.epoch &&
  (rec.lifecycle = .active || rec.lifecycle = .dispatching) &&
  rec.currentGrant.any (fun cur => cur.id = g.id && cur.gen = g.gen) &&
  rec.request.gen = g.requestGen && rec.request.collectiveGen = g.collectiveGen &&
  g.participants.zipIdx.all (fun e => s.participantCurrent g.participantGens e.1 e.2) &&
  s.bootMatches g.participants wb sb

/-- `complete`. -/
def complete (s : Scheduler D) (g : CollectiveGrant) (wb : WorkerBootId) (sb : SourceBootId) :
    Scheduler D × Bool × List PortCall :=
  match s.records.find? g.request, s.grants.find? g.id with
  | some rec, some gs =>
      if !s.completionAllowed g wb sb rec gs then (s, false, [])
      else
        match rec.lifecycle.transition .completed with
        | .error _ => (s, false, [])
        | .ok st =>
            ({ s with
                records := s.records.insert g.request
                  { rec with
                    lifecycle := st
                    currentGrant := rec.currentGrant.map (fun cur => { cur with active := false }) }
                grants := s.grants.insert g.id
                  { gs with terminal := true, active := false, completedBy := wb,
                            completedBySource := sb }
                activeByParticipant := s.activeByParticipant.deindexActiveGrant g
                activeGrants := s.activeGrants - 1 },
              true, [.brokerRelease rec.request.workload])
  | _, _ => (s, false, [])

/-! ## Fencing and recovery -/

/-- A published participant runs under a worker boot. -/
def hostedBy (s : Scheduler D) (worker : WorkerId) (boot : WorkerBootId) (pid : ParticipantId) :
    Bool :=
  (s.participants.find? pid).any (fun p => p.worker = worker && p.workerBoot = boot)

/-- A record hit by a fence: it has to be revalidated and its grant is revoked. -/
def fenceHit (s : Scheduler D) (rid : CollectiveRequestId) (rec : Record D) : Scheduler D :=
  let s := { s with records := s.records.insert rid rec.demandRevalidation }
  match rec.currentGrant with
  | none => s
  | some g => s.revokeGrant g.id

/-- The body of the inner loop of `fenceWorkerBoot` on one participant of a
record. -/
def fenceStep (worker : WorkerId) (boot : WorkerBootId) (rid : CollectiveRequestId)
    (s : Scheduler D) (pid : ParticipantId) : Scheduler D :=
  match s.records.find? rid with
  | none => s
  | some rec => if s.hostedBy worker boot pid then s.fenceHit rid rec else s

/-- The body of the outer loop of `fenceWorkerBoot`. -/
def fenceRecord (worker : WorkerId) (boot : WorkerBootId) (s : Scheduler D)
    (rid : CollectiveRequestId) : Scheduler D :=
  match s.records.find? rid with
  | none => s
  | some rec =>
      if rec.lifecycle.isTerminalState then s
      else rec.request.participants.foldl (fenceStep worker boot rid) s

/-- The participants of a fenced boot lose their readiness. -/
def fenceParticipants (s : Scheduler D) (worker : WorkerId) (boot : WorkerBootId) :
    Scheduler D :=
  { s with
    participants := s.participants.mapVals (fun _ p =>
      if p.worker = worker ∧ p.workerBoot = boot then
        { p with ready := false, readinessSource := .unknown }
      else p) }

/-- `fenceWorkerBoot`, walking the records in iteration order.  The counter of
active grants is not touched. -/
def fenceWorkerBoot (s : Scheduler D) (worker : WorkerId) (boot : WorkerBootId)
    (recordOrder : List CollectiveRequestId) : Scheduler D :=
  (s.records.iteration recordOrder).foldl (fenceRecord worker boot)
    (s.fenceParticipants worker boot)

/-- `resetDynamicStateForRecovery`. -/
def resetDynamicStateForRecovery (s : Scheduler D) : Scheduler D :=
  { s with
    participants := .empty
    plans := .empty
    deps := .empty
    reservations := .empty
    congestion := none
    capacity := none
    participantRequests := .empty
    congestionGen := 0
    capacityGen := 0
    reservationGen := 0
    activeGrants := 0
    grants := .empty
    activeByParticipant := .empty
    records := s.records.mapVals (fun _ rec => rec.recover) }

/-- `grantById`. -/
def grantById (s : Scheduler D) (id : CollectiveGrantId) : Option CollectiveGrant :=
  (s.grants.find? id).map GrantState.grant

end Scheduler

end CollectiveScheduler
