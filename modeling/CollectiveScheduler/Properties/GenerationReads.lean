/-
  Properties/GenerationReads.lean --- the reads of the parallel generation list.

  Five functions walk over `participants` and read `participant_gens` at the same positions.
  `submit` and `supersede` refuse lists of different lengths; a snapshot and a decoded grant
  carry a length for each list, and nobody compares them.  Here each function has a version
  whose reads are checked.  In every state that is reached without restoring a record with
  fewer generations than participants, and for every grant argument with as many, the checked
  functions return what the unchecked ones do.
-/
import CollectiveScheduler.Coordinator.Coordinator
import CollectiveScheduler.Scheduler.Adjudication
import CollectiveScheduler.System.Scenario

set_option autoImplicit false

namespace CollectiveScheduler

open Foundation

variable {D : Type}

/-- A read beyond the end of the list. -/
structure OutOfBounds where
  index : Nat
  length : Nat
  deriving DecidableEq, Repr

namespace Scheduler

/-! ## Checked reads -/

/-- `participant_gens[i]`. -/
def readGen (gens : List ParticipantGeneration) (i : Nat) :
    Except OutOfBounds ParticipantGeneration :=
  match gens[i]? with
  | none => .error { index := i, length := gens.length }
  | some gen => .ok gen

/-- The participant loop of `compute_readiness`: `any_missing` and `any_stale`. -/
def readinessLoop (s : Scheduler D) (gens : List ParticipantGeneration) :
    List (ParticipantId × Nat) → Bool → Bool → Except OutOfBounds (Bool × Bool)
  | [], missing, stale => .ok (missing, stale)
  | e :: rest, missing, stale =>
      match s.participants.find? e.1 with
      | none => s.readinessLoop gens rest true stale
      | some p =>
          match readGen gens e.2 with
          | .error oob => .error oob
          | .ok gen =>
              if p.gen ≠ gen then s.readinessLoop gens rest missing true
              else if !p.isAvailable then s.readinessLoop gens rest true stale
              else s.readinessLoop gens rest missing stale

/-- The participant loop of `hard_eligible`: its early return, if any.  Those of
`revalidate_grant` and `complete` return in the same places. -/
def participantLoop (s : Scheduler D) (gens : List ParticipantGeneration) :
    List (ParticipantId × Nat) → Except OutOfBounds (Option RejectionReason)
  | [] => .ok none
  | e :: rest =>
      match s.participants.find? e.1 with
      | none => .ok (some .missingParticipant)
      | some p =>
          match readGen gens e.2 with
          | .error oob => .error oob
          | .ok gen =>
              if p.gen ≠ gen then .ok (some .staleParticipantGeneration)
              else if !p.isAvailable then .ok (some .missingParticipant)
              else s.participantLoop gens rest

/-- The loop of `publishParticipant` over the participants of a record: `affected`.  A
generation is read only where the participant is the published one. -/
def affectedLoop (p : Participant) (gens : List ParticipantGeneration) :
    List (ParticipantId × Nat) → Bool → Except OutOfBounds Bool
  | [], affected => .ok affected
  | e :: rest, affected =>
      if e.1 = p.id then
        match readGen gens e.2 with
        | .error oob => .error oob
        | .ok gen => affectedLoop p gens rest (affected || gen ≠ p.gen)
      else affectedLoop p gens rest affected

/-- The walk of `publishParticipant` over the requests of the participant.  It rewrites only
records it has passed. -/
def publicationWalk (s : Scheduler D) (p : Participant) :
    List CollectiveRequestId → Except OutOfBounds Unit
  | [] => .ok ()
  | rid :: rest =>
      match s.records.find? rid with
      | none => s.publicationWalk p rest
      | some rec =>
          if rec.lifecycle.isTerminalState then s.publicationWalk p rest
          else
            match affectedLoop p rec.request.participantGens rec.request.participants.zipIdx
                false with
            | .error oob => .error oob
            | .ok _ => s.publicationWalk p rest

section Functions

variable [Double D]

/-- `compute_readiness`; what follows the loop reads no generation. -/
def computeReadinessChecked (s : Scheduler D) (req : CollectiveRequest D) :
    Except OutOfBounds Readiness :=
  match s.readinessLoop req.participantGens req.participants.zipIdx false false with
  | .error oob => .error oob
  | .ok (missing, stale) =>
      if stale then .ok .stale
      else if missing then .ok .waitingParticipant
      else .ok (s.computeReadiness req)

/-- `hard_eligible`; what stands in front of the loop and behind it reads no generation. -/
def hardEligibleChecked (s : Scheduler D) (lastReadiness : Readiness)
    (req : CollectiveRequest D) : Except OutOfBounds (Option RejectionReason) :=
  if lastReadiness ≠ .ready ∨ outsideWindow s.now req.window = true then
    .ok (s.hardEligible lastReadiness req)
  else
    match s.participantLoop req.participantGens req.participants.zipIdx with
    | .error oob => .error oob
    | .ok (some reason) => .ok (some reason)
    | .ok none => .ok (s.hardEligible lastReadiness req)

/-- `publishParticipant`. -/
def publishParticipantChecked (s : Scheduler D) (p : Participant) :
    Except OutOfBounds (Scheduler D × Except SchedulerError Unit) :=
  if !s.participantRegresses p && s.supplants p then
    match s.publicationWalk p (s.requestsOf p.id) with
    | .error oob => .error oob
    | .ok () => .ok (s.publishParticipant p)
  else .ok (s.publishParticipant p)

/-- The checks of `revalidate_grant` in front of its participant loop. -/
def reachesParticipants (s : Scheduler D) (g : CollectiveGrant) (rec : Record D) : Bool :=
  rec.request.gen = g.requestGen && rec.request.collectiveGen = g.collectiveGen &&
  g.evidence.epoch = s.epoch && rec.lifecycle ≠ .cancelled && rec.lifecycle ≠ .superseded &&
  rec.lifecycle ≠ .stale && (!g.revalidation.requireFreshPlan || s.planUsable g.plan g.planGen) &&
  g.revalidation.requireFreshParticipants &&
  g.participants.length = rec.request.participants.length

/-- `revalidate_grant`. -/
def revalidateGrantChecked (s : Scheduler D) (g : CollectiveGrant) :
    Except OutOfBounds GrantAdjudication :=
  match s.records.find? g.request with
  | none => .ok .staleGrant
  | some rec =>
      if s.reachesParticipants g rec then
        match s.participantLoop g.participantGens g.participants.zipIdx with
        | .error oob => .error oob
        | .ok (some _) => .ok .staleGrant
        | .ok none => .ok (s.revalidateGrant g)
      else .ok (s.revalidateGrant g)

/-- The checks of `complete` in front of its participant loop. -/
def reachesAuthority (s : Scheduler D) (g : CollectiveGrant) (rec : Record D) (gs : GrantState) :
    Bool :=
  !gs.terminal && g.evidence.epoch = s.epoch &&
  (rec.lifecycle = .active || rec.lifecycle = .dispatching) &&
  rec.currentGrant.any (fun cur => cur.id = g.id && cur.gen = g.gen) &&
  rec.request.gen = g.requestGen && rec.request.collectiveGen = g.collectiveGen

/-- `complete`. -/
def completeChecked (s : Scheduler D) (g : CollectiveGrant) (wb : WorkerBootId)
    (sb : SourceBootId) : Except OutOfBounds (Scheduler D × Bool × List PortCall) :=
  match s.records.find? g.request, s.grants.find? g.id with
  | some rec, some gs =>
      if s.reachesAuthority g rec gs then
        match s.participantLoop g.participantGens g.participants.zipIdx with
        | .error oob => .error oob
        | .ok (some _) => .ok (s, false, [])
        | .ok none => .ok (s.complete g wb sb)
      else .ok (s, false, [])
  | _, _ => .ok (s, false, [])

end Functions

/-! ## The loops on lists that are long enough -/

theorem readGen_of_lt {gens : List ParticipantGeneration} {i : Nat} (h : i < gens.length) :
    ∃ gen, readGen gens i = .ok gen ∧ gens[i]? = some gen := by
  have hget : gens[i]? = some gens[i] := List.getElem?_eq_getElem h
  exact ⟨gens[i], by rw [readGen, hget], hget⟩

section Loops

variable (s : Scheduler D) {gens : List ParticipantGeneration}
  {entries : List (ParticipantId × Nat)}

theorem readinessLoop_eq_ok (h : ∀ e ∈ entries, e.2 < gens.length) (missing stale : Bool) :
    s.readinessLoop gens entries missing stale =
      .ok (missing || entries.any (fun e => s.isMissing gens e.1 e.2),
        stale || entries.any (fun e => s.isStale gens e.1 e.2)) := by
  induction entries generalizing missing stale with
  | nil => simp [readinessLoop]
  | cons e rest ih =>
      have hrest := ih fun e' he' => h e' (List.mem_cons_of_mem e he')
      obtain ⟨gen, hread, hget⟩ := readGen_of_lt (h e List.mem_cons_self)
      rw [List.any_cons, List.any_cons, readinessLoop, isMissing, isStale, hread, hget]
      cases s.participants.find? e.1 with
      | none => simp only [hrest, Bool.true_or, Bool.or_true, Bool.false_or]
      | some p =>
          by_cases hgen : gen = p.gen
          · cases havailable : p.isAvailable <;> simp [hgen, havailable, hrest]
          · simp [hgen, Ne.symm hgen, hrest]

theorem participantLoop_eq_ok (h : ∀ e ∈ entries, e.2 < gens.length) :
    s.participantLoop gens entries =
      .ok (entries.findSome? (s.participantRejection gens)) := by
  induction entries with
  | nil => rfl
  | cons e rest ih =>
      have hrest := ih fun e' he' => h e' (List.mem_cons_of_mem e he')
      obtain ⟨gen, hread, hget⟩ := readGen_of_lt (h e List.mem_cons_self)
      rw [List.findSome?_cons, participantRejection, participantLoop, hread, hget]
      cases s.participants.find? e.1 with
      | none => rfl
      | some p =>
          by_cases hgen : gen = p.gen
          · cases havailable : p.isAvailable <;> simp [hgen, havailable, hrest]
          · simp [hgen, Ne.symm hgen]

theorem affectedLoop_eq_ok (p : Participant) (h : ∀ e ∈ entries, e.2 < gens.length)
    (affected : Bool) :
    affectedLoop p gens entries affected =
      .ok (affected || entries.any (fun e => e.1 = p.id && gens[e.2]? ≠ some p.gen)) := by
  induction entries generalizing affected with
  | nil => simp [affectedLoop]
  | cons e rest ih =>
      have hrest := ih fun e' he' => h e' (List.mem_cons_of_mem e he')
      obtain ⟨gen, hread, hget⟩ := readGen_of_lt (h e List.mem_cons_self)
      rw [List.any_cons, affectedLoop, hread, hget]
      by_cases hid : e.1 = p.id <;> simp [hid, hrest, Bool.or_assoc]

end Loops

/-! ## The functions on lists that are long enough -/

/-- There is a generation for every participant. -/
def Parallel (participants : List ParticipantId) (gens : List ParticipantGeneration) : Prop :=
  participants.length ≤ gens.length

theorem Parallel.lt {participants : List ParticipantId} {gens : List ParticipantGeneration}
    (h : Parallel participants gens) : ∀ e ∈ participants.zipIdx, e.2 < gens.length := by
  intro e he
  exact lt_of_lt_of_le (by simpa using List.snd_lt_of_mem_zipIdx he) h

section Functions

variable (s : Scheduler D)

theorem computeReadinessChecked_eq_ok [Double D] {req : CollectiveRequest D}
    (h : Parallel req.participants req.participantGens) :
    s.computeReadinessChecked req = .ok (s.computeReadiness req) := by
  unfold computeReadinessChecked
  rw [s.readinessLoop_eq_ok h.lt]
  simp only [Bool.false_or]
  split_ifs with hstale hmissing
  · rw [computeReadiness, if_pos hstale]
  · rw [computeReadiness, if_neg hstale, if_pos hmissing]
  · rfl

theorem hardEligibleChecked_eq_ok [Double D] {req : CollectiveRequest D}
    (h : Parallel req.participants req.participantGens) (lastReadiness : Readiness) :
    s.hardEligibleChecked lastReadiness req = .ok (s.hardEligible lastReadiness req) := by
  unfold hardEligibleChecked
  rw [s.participantLoop_eq_ok h.lt]
  split_ifs with hguard
  · rfl
  · rw [not_or, not_not] at hguard
    cases hloop :
        req.participants.zipIdx.findSome? (s.participantRejection req.participantGens) with
    | none => rfl
    | some reason =>
        simp only [hardEligible, hguard.1, hguard.2, hloop, ne_eq, not_true_eq_false, if_false,
          Bool.false_eq_true]

theorem publicationWalk_eq_ok {s : Scheduler D}
    (h : ∀ id rec, s.records.find? id = some rec →
      Parallel rec.request.participants rec.request.participantGens)
    (p : Participant) (ids : List CollectiveRequestId) : s.publicationWalk p ids = .ok () := by
  induction ids with
  | nil => rfl
  | cons rid rest ih =>
      unfold publicationWalk
      cases hfind : s.records.find? rid with
      | none => exact ih
      | some rec =>
          simp only
          rw [affectedLoop_eq_ok p (h rid rec hfind).lt]
          split_ifs <;> exact ih

theorem publishParticipantChecked_eq_ok {s : Scheduler D}
    (h : ∀ id rec, s.records.find? id = some rec →
      Parallel rec.request.participants rec.request.participantGens)
    (p : Participant) : s.publishParticipantChecked p = .ok (s.publishParticipant p) := by
  unfold publishParticipantChecked
  rw [publicationWalk_eq_ok h]
  split_ifs <;> rfl

/-- A loop that returned early met a participant that is not current. -/
theorem all_current_eq_false {gens : List ParticipantGeneration}
    {entries : List (ParticipantId × Nat)} {reason : RejectionReason}
    (h : entries.findSome? (s.participantRejection gens) = some reason) :
    entries.all (fun e => s.participantCurrent gens e.1 e.2) = false := by
  rw [← Bool.not_eq_true, List.all_eq_true, ← findSome?_participantRejection_eq_none_iff, h]
  exact fun hnone => by cases hnone

theorem revalidateGrantChecked_eq_ok {g : CollectiveGrant}
    (h : Parallel g.participants g.participantGens) :
    s.revalidateGrantChecked g = .ok (s.revalidateGrant g) := by
  unfold revalidateGrantChecked
  rw [s.participantLoop_eq_ok h.lt]
  cases hfind : s.records.find? g.request with
  | none => rw [revalidateGrant, hfind]
  | some rec =>
      simp only
      split_ifs with hreaches
      · cases hloop : g.participants.zipIdx.findSome?
            (s.participantRejection g.participantGens) with
        | none => rfl
        | some reason =>
            simp only [reachesParticipants, Bool.and_eq_true, Bool.or_eq_true,
              decide_eq_true_eq] at hreaches
            obtain ⟨⟨⟨⟨⟨⟨⟨⟨hgen, hcollective⟩, hepoch⟩, hcancelled⟩, hsuperseded⟩, hstale⟩, hplan⟩,
              hfresh⟩, hlength⟩ := hreaches
            have hcurrent := s.all_current_eq_false hloop
            simp only [revalidateGrant, hfind, hgen, hcollective, hepoch, hcancelled, hsuperseded,
              hstale, hfresh, hlength, hcurrent, ne_eq, not_true_eq_false, if_false,
              bne_self_eq_false, Bool.not_false, Bool.or_true, Bool.and_true, if_true]
            split_ifs <;> rfl
      · rfl

theorem completeChecked_eq_ok {g : CollectiveGrant}
    (h : Parallel g.participants g.participantGens) (wb : WorkerBootId) (sb : SourceBootId) :
    s.completeChecked g wb sb = .ok (s.complete g wb sb) := by
  unfold completeChecked
  rw [s.participantLoop_eq_ok h.lt]
  cases hfind : s.records.find? g.request with
  | none => simp only [complete, hfind]
  | some rec =>
      cases hentry : s.grants.find? g.id with
      | none => simp only [complete, hfind, hentry]
      | some gs =>
          have hallowed : s.completionAllowed g wb sb rec gs = (s.reachesAuthority g rec gs &&
              g.participants.zipIdx.all (fun e => s.participantCurrent g.participantGens e.1 e.2) &&
              s.bootMatches g.participants wb sb) := rfl
          have hrefused : s.completionAllowed g wb sb rec gs = false →
              s.complete g wb sb = (s, false, []) := by
            intro hfalse
            simp only [complete, hfind, hentry, hfalse, Bool.not_false, if_true]
          simp only
          split_ifs with hreaches
          · cases hloop : g.participants.zipIdx.findSome?
                (s.participantRejection g.participantGens) with
            | none => rfl
            | some reason =>
                rw [hrefused]
                rw [hallowed, s.all_current_eq_false hloop, Bool.and_false, Bool.false_and]
          · rw [hrefused]
            rw [hallowed, Bool.eq_false_iff.mpr hreaches, Bool.false_and, Bool.false_and]

end Functions

end Scheduler

/-! ## Runs -/

/-- Every record of the snapshot has a generation for each of its participants. -/
def Persistence.ParallelLists (D : Type) [Double D] (bytes : List UInt8) : Prop :=
  ∀ image : StateImage D, Reads bytes image → ∀ rec ∈ image.records,
    Scheduler.Parallel rec.request.participants rec.request.participantGens

section Run

variable [Double D]

/-- What the action restores has parallel lists. -/
def Action.Parallel (a : Action D) : Prop :=
  ∀ bytes ∈ a.bytes?, Persistence.ParallelLists D bytes

/-- Every record has a generation for each of its participants. -/
def Scheduler.RecordsParallel (s : Scheduler D) : Prop :=
  ∀ id rec, s.records.find? id = some rec →
    Parallel rec.request.participants rec.request.participantGens

/-- `submit` and `supersede` check the lengths, and no other call sets a request. -/
theorem System.next_recordsParallel {y : System D} (h : y.sched.RecordsParallel) (op : Op D) :
    (y.next op).sched.RecordsParallel := by
  intro id rec' hfind'
  have hstep := y.recordStep op id
  rw [hfind'] at hstep
  generalize hfind : y.sched.records.find? id = found at hstep
  cases hstep with
  | filed hop hid hvalid => exact hvalid.parallel.ge
  | carried hrec =>
      rw [hrec.request]
      exact h id _ hfind
  | replaced hop hid hgen hvalid => exact hvalid.parallel.ge

theorem World.next_recordsParallel {w : World D} (h : w.sys.sched.RecordsParallel)
    {a : Action D} (ha : a.Parallel) : (w.next a).sys.sched.RecordsParallel := by
  refine World.next_keeps (P := Scheduler.RecordsParallel) ?_ h ?_ ?_
  · intro policy epoch id rec hfind
    cases hfind
  · intro s bytes hbytes hs
    exact Scheduler.restore_records_of_image hs (ha bytes hbytes) fun _ hrec => hrec
  · intro op _
    exact System.next_recordsParallel h op

theorem World.run_recordsParallel (policy : PolicyConfig D) (epoch : CoordinatorEpoch)
    {actions : List (Action D)} (hactions : ∀ a ∈ actions, a.Parallel) :
    ((World.start policy epoch).run actions).sys.sched.RecordsParallel := by
  refine Runs.invariant (I := fun w : World D => w.sys.sched.RecordsParallel)
    (fun _ _ hw ha => World.next_recordsParallel hw ha) ?_ (Runs.admissible_of_forall hactions _)
  intro id rec hfind
  cases hfind

end Run

/-- In every state that a run reaches without restoring a record that has fewer generations
than participants, the functions read generations of the records only within the lists, and
those of a grant argument that has a generation for each participant. -/
theorem generation_reads_in_bounds [Double D] (policy : PolicyConfig D) (epoch : CoordinatorEpoch)
    (actions : List (Action D)) (hactions : ∀ a ∈ actions, a.Parallel) (s : Scheduler D)
    (hrun : s = ((World.start policy epoch).run actions).sys.sched) :
    (∀ id rec, s.records.find? id = some rec →
      s.computeReadinessChecked rec.request = .ok (s.computeReadiness rec.request) ∧
        ∀ lastReadiness, s.hardEligibleChecked lastReadiness rec.request =
          .ok (s.hardEligible lastReadiness rec.request)) ∧
    (∀ p, s.publishParticipantChecked p = .ok (s.publishParticipant p)) ∧
    (∀ g : CollectiveGrant, g.participants.length ≤ g.participantGens.length →
      s.revalidateGrantChecked g = .ok (s.revalidateGrant g) ∧
        ∀ wb sb, s.completeChecked g wb sb = .ok (s.complete g wb sb)) := by
  have hrecords : s.RecordsParallel := hrun ▸ World.run_recordsParallel policy epoch hactions
  refine ⟨fun id rec hfind => ⟨?_, ?_⟩, ?_, fun g hg => ⟨?_, ?_⟩⟩
  · exact s.computeReadinessChecked_eq_ok (hrecords id rec hfind)
  · exact s.hardEligibleChecked_eq_ok (hrecords id rec hfind)
  · exact Scheduler.publishParticipantChecked_eq_ok hrecords
  · exact s.revalidateGrantChecked_eq_ok hg
  · exact s.completeChecked_eq_ok hg

namespace Scenario

/-- The read that stops a function. -/
def fault? {α : Type} : Except OutOfBounds α → Option OutOfBounds
  | .error oob => some oob
  | .ok _ => none

/-- A snapshot with one record: a request on participants 1 and 2, with the generation of the
first only. -/
def unpairedSnapshot : List UInt8 :=
  let req : CollectiveRequest ℚ :=
    { request 1 [1, 2] 1 with id := 1, gen := 1, participantGens := [1] }
  let s : Scheduler ℚ := Scheduler.fresh PolicyConfig.default 1
  Persistence.save { s with records := FinMap.empty.insert 1 (s.submittedRecord req) } []

/-- The snapshot is restored, and participant 2 is published. -/
def unpairedRecord : Scheduler ℚ :=
  ((World.start PolicyConfig.default 1).run
    [.restore unpairedSnapshot, .call (.publishParticipant (participant 2 1 1 11))]).sys.sched

/-- The grant of the scenario, without its generations. -/
def unpairedGrant (ops : List (Op ℚ)) : Option CollectiveGrant :=
  (grantOf ops 1).map fun g => { g with participantGens := [] }

end Scenario

/-- The functions read the generations of a submitted request and of its grant. -/
theorem generation_reads_in_bounds_granted :
    let s := World.afterCalls Scenario.granted
    ∃ rec g, s.records.find? 1 = some rec ∧ s.grantById 1 = some g ∧
      s.computeReadinessChecked rec.request = .ok (s.computeReadiness rec.request) ∧
      s.revalidateGrantChecked g = .ok (s.revalidateGrant g) := by
  intro s
  have hfiled : (s.records.find? 1).isSome = true := by decide +kernel
  have hgranted : (s.grantById 1).any (fun g =>
      g.participants.length ≤ g.participantGens.length) = true := by decide +kernel
  obtain ⟨rec, hfind⟩ := Option.isSome_iff_exists.mp hfiled
  obtain ⟨g, hg, hlength⟩ := (Option.any_eq_true _ _).mp hgranted
  obtain ⟨hrecords, -, hgrants⟩ := generation_reads_in_bounds PolicyConfig.default 1
    (Scenario.granted.map .call) (fun a ha bytes hbytes => by
      obtain ⟨op, -, rfl⟩ := List.mem_map.mp ha
      cases hbytes) s rfl
  exact ⟨rec, g, hfind, hg, (hrecords 1 rec hfind).1, (hgrants g (of_decide_eq_true hlength)).1⟩

/-- A restored record makes `compute_readiness` read beyond the end, and a grant argument that
a COMPLETE payload decodes to does the same to `revalidate_grant` and `complete`. -/
theorem unpaired_generations_are_read :
    (let s := Scenario.unpairedRecord
     (s.records.find? 1).any (fun rec => rec.lifecycle.isTerminalState = false ∧
       Scenario.fault? (s.computeReadinessChecked rec.request) = some ⟨1, 1⟩) = true) ∧
    (Scenario.unpairedGrant Scenario.granted).any (fun g =>
      ((Msg.complete 1 g 11 100).read Coordinator.readCompletion).toOption = some (g, 11, 100) ∧
      Scenario.fault? ((World.afterCalls Scenario.granted).revalidateGrantChecked g) =
        some ⟨0, 0⟩ ∧
      Scenario.fault? ((World.afterCalls Scenario.executing).completeChecked g 11 100) =
        some ⟨0, 0⟩) = true := by
  decide +kernel

end CollectiveScheduler
