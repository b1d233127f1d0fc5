/-
  Properties/TerminalOutcome.lean --- a request generation ends once.

  Terminal records stay reachable by every call, each with its own filter for
  terminal states.  `RecordStep` says what any call, with any arguments and
  between any critical sections, can do to a record: it keeps the request while
  its lifecycle moves, and no move leaves a terminal state, or a supersede
  replaces it by a larger generation.  Completion and cancellation are then ends
  that exclude each other and themselves.
-/
import CollectiveScheduler.System.RecordStep
import CollectiveScheduler.System.Scenario

set_option autoImplicit false

namespace CollectiveScheduler

open Foundation LifecycleState

variable {D : Type}

namespace System

/-! ## Events -/

/-- The record of the id is at this generation. -/
def atGeneration (y : System D) (id : CollectiveRequestId) (gen : CollectiveRequestGeneration) :
    Bool :=
  (y.sched.records.find? id).any (fun rec => rec.request.gen = gen)

/-- The lifecycle of the record under an id. -/
def stateOf (y : System D) (id : CollectiveRequestId) : Option LifecycleState :=
  (y.sched.records.find? id).map (·.lifecycle)

variable [Double D]

/-- `complete` returned true for this id at this generation, or `cancel` moved
this id at this generation to CANCELLED. -/
def endsRequest (id : CollectiveRequestId) (gen : CollectiveRequestGeneration) (y : System D) :
    Op D → Bool
  | .complete g wb sb =>
      decide (g.request = id) && y.atGeneration id gen &&
        (y.outcome (.complete g wb sb)).isTrue
  | .cancel rid =>
      decide (rid = id) && y.atGeneration id gen &&
        decide (y.stateOf id ≠ some .cancelled) &&
        decide ((y.next (.cancel rid)).stateOf id = some .cancelled)
  | _ => false

/-- The generation has ended: its record is terminal, or a later one has taken
its place. -/
def Ended (id : CollectiveRequestId) (gen : CollectiveRequestGeneration) (y : System D) : Prop :=
  ∃ rec, y.sched.records.find? id = some rec ∧
    (gen < rec.request.gen ∨
      rec.request.gen = gen ∧ rec.lifecycle.isTerminalState = true)

omit [Double D] in
theorem atGeneration_iff {y : System D} {id : CollectiveRequestId}
    {gen : CollectiveRequestGeneration} :
    y.atGeneration id gen = true ↔
      ∃ rec, y.sched.records.find? id = some rec ∧ rec.request.gen = gen := by
  simp only [atGeneration, Option.any_eq_true, decide_eq_true_eq]

variable {y : System D} {id : CollectiveRequestId} {gen : CollectiveRequestGeneration}

/-- A completion that returned true found an ACTIVE record and left it
COMPLETED. -/
theorem complete_isTrue {g : CollectiveGrant} {wb : WorkerBootId} {sb : SourceBootId}
    (h : (y.outcome (.complete g wb sb)).isTrue = true) :
    ∃ rec rec', y.sched.records.find? g.request = some rec ∧ rec.lifecycle = .active ∧
      (y.next (.complete g wb sb)).sched.records.find? g.request = some rec' ∧
      rec'.request = rec.request ∧ rec'.lifecycle = .completed := by
  simp only [outcome, step, ofAnswer, Outcome.isTrue] at h
  simp only [next, step, ofAnswer]
  rcases y.sched.complete_cases g wb sb with heq | ⟨rec, gs, hfind, -, -, hactive, heq⟩
  · rw [heq] at h
    cases h
  · rw [heq]
    exact ⟨rec, _, hfind, hactive, FinMap.find?_insert_self _ _ _, rfl, rfl⟩

/-- A cancellation never finds a terminal record to move. -/
theorem cancel_of_terminal {rec : Record D} (hfind : y.sched.records.find? id = some rec)
    (hterminal : rec.lifecycle.isTerminalState = true) :
    (y.next (.cancel id)).stateOf id = y.stateOf id := by
  have hsame : (y.sched.cancel id).1 = y.sched := by
    rcases y.sched.cancel_cases id with heq | ⟨rec', hfind', hopen, -⟩
    · exact heq
    · rw [hfind] at hfind'
      cases hfind'
      rw [hterminal] at hopen
      cases hopen
  change Option.map _ ((y.sched.cancel id).1.records.find? id) = _
  rw [hsame]
  rfl

theorem ended_of_endsRequest (op : Op D) (h : endsRequest id gen y op = true) :
    Ended id gen (y.next op) := by
  cases op with
  | complete g wb sb =>
      simp only [endsRequest, Bool.and_eq_true, decide_eq_true_eq, atGeneration_iff] at h
      obtain ⟨⟨rfl, rec, hfind, hgen⟩, htrue⟩ := h
      obtain ⟨rec₀, rec', hfind₀, -, hfind', hrequest, hlife⟩ := complete_isTrue htrue
      rw [hfind] at hfind₀
      cases hfind₀
      refine ⟨rec', hfind', .inr ⟨?_, by rw [hlife]; rfl⟩⟩
      rw [hrequest]
      exact hgen
  | cancel rid =>
      simp only [endsRequest, Bool.and_eq_true, decide_eq_true_eq, atGeneration_iff] at h
      obtain ⟨⟨⟨rfl, rec, hfind, hgen⟩, -⟩, hcancelled⟩ := h
      obtain ⟨rec', hfind', hlife⟩ := Option.map_eq_some_iff.mp hcancelled
      have hstep := y.recordStep (.cancel rid) rid
      rw [hfind, hfind'] at hstep
      refine ⟨rec', hfind', .inr ⟨?_, by rw [hlife]; rfl⟩⟩
      cases hstep with
      | carried hcarried =>
          rw [hcarried.request]
          exact hgen
      | replaced hop => cases hop
  | _ => cases h

theorem Ended.next (h : Ended id gen y) (op : Op D) : Ended id gen (y.next op) := by
  obtain ⟨rec, hfind, hcase⟩ := h
  have hstep := y.recordStep op id
  rw [hfind] at hstep
  generalize hafter : (y.next op).sched.records.find? id = after at hstep
  cases hstep with
  | carried hcarried =>
      refine ⟨_, hafter, ?_⟩
      rw [hcarried.request]
      rcases hcase with hlater | ⟨hgen, hterminal⟩
      · exact .inl hlater
      · rw [hcarried.moves.terminal hterminal]
        exact .inr ⟨hgen, hterminal⟩
  | replaced hop hid hgen hvalid =>
      refine ⟨_, hafter, .inl ?_⟩
      rcases hcase with hlater | ⟨hsame, -⟩
      · exact lt_trans hlater hgen
      · exact hsame ▸ hgen

theorem Ended.excludes (h : Ended id gen y) (op : Op D) : endsRequest id gen y op = false := by
  obtain ⟨rec, hfind, hcase⟩ := h
  -- at this generation the record is terminal
  have hterminal : ∀ rec', y.sched.records.find? id = some rec' → rec'.request.gen = gen →
      rec'.lifecycle.isTerminalState = true := by
    intro rec' hfind' hgen
    rw [hfind] at hfind'
    cases hfind'
    rcases hcase with hlater | ⟨-, hterminal⟩
    · exact absurd hgen hlater.ne'
    · exact hterminal
  rw [Bool.eq_false_iff]
  intro hevent
  cases op with
  | complete g wb sb =>
      simp only [endsRequest, Bool.and_eq_true, decide_eq_true_eq, atGeneration_iff] at hevent
      obtain ⟨⟨rfl, rec', hfind', hgen⟩, htrue⟩ := hevent
      obtain ⟨rec₀, -, hfind₀, hactive, -⟩ := complete_isTrue htrue
      have hend := hterminal rec' hfind' hgen
      rw [hfind'] at hfind₀
      cases hfind₀
      rw [hactive] at hend
      cases hend
  | cancel rid =>
      simp only [endsRequest, Bool.and_eq_true, decide_eq_true_eq, atGeneration_iff] at hevent
      obtain ⟨⟨⟨rfl, rec', hfind', hgen⟩, hnot⟩, hcancelled⟩ := hevent
      rw [cancel_of_terminal hfind' (hterminal rec' hfind' hgen)] at hcancelled
      exact hnot hcancelled
  | _ => cases hevent

/-! ## Terminal records -/

/-- The record under an id still has the request and the state of `rec`. -/
def Keeps (id : CollectiveRequestId) (rec : Record D) (y : System D) : Prop :=
  ∃ rec', y.sched.records.find? id = some rec' ∧ rec'.request = rec.request ∧
    rec'.lifecycle = rec.lifecycle

/-- The call supersedes the record under an id: its request is put in the place
of an older generation. -/
def SupersedesAbove (id : CollectiveRequestId) (gen : CollectiveRequestGeneration) (y : System D)
    (op : Op D) : Prop :=
  ∃ req rec', op = .supersede req ∧ req.id = id ∧ gen < req.gen ∧
    (y.next op).sched.records.find? id = some rec' ∧ rec'.request = req

theorem Keeps.next {rec : Record D} (hterminal : rec.lifecycle.isTerminalState = true)
    (op : Op D) (h : Keeps id rec y) :
    Keeps id rec (y.next op) ∨ SupersedesAbove id rec.request.gen y op := by
  obtain ⟨cur, hfind, hrequest, hlife⟩ := h
  have hstep := y.recordStep op id
  rw [hfind] at hstep
  generalize hafter : (y.next op).sched.records.find? id = after at hstep
  cases hstep with
  | carried hcarried =>
      refine .inl ⟨_, hafter, hcarried.request.trans hrequest, ?_⟩
      rw [hcarried.moves.terminal (hlife.symm ▸ hterminal)]
      exact hlife
  | replaced hop hid hgen hvalid =>
      rw [hrequest] at hgen
      exact .inr ⟨_, _, hop, hid, hgen, hafter, rfl⟩

end System

/-! ## The property -/

/-- In every run, with any interleaving of critical sections and any grant
arguments, a request generation ends at most once by completion or cancellation;
and a record that is COMPLETED or CANCELLED keeps its state and its request until
a supersede puts a larger generation in its place. -/
theorem terminal_outcome_once [Double D] (policy : PolicyConfig D) (epoch : CoordinatorEpoch)
    (ops : List (Op D)) :
    (∀ id gen,
      Runs.occurrences System.next (System.endsRequest id gen) (System.start policy epoch) ops
        ≤ 1) ∧
    (∀ pre post, ops = pre ++ post → ∀ id rec,
      ((System.start policy epoch).run pre).sched.records.find? id = some rec →
      rec.lifecycle = .completed ∨ rec.lifecycle = .cancelled →
      System.Keeps id rec ((System.start policy epoch).run ops) ∨
        ∃ mid op late, post = mid ++ op :: late ∧
          System.Keeps id rec ((System.start policy epoch).run (pre ++ mid)) ∧
          System.SupersedesAbove id rec.request.gen
            ((System.start policy epoch).run (pre ++ mid)) op) := by
  constructor
  · intro id gen
    exact Runs.occurrences_le_one (fun _ op h => System.ended_of_endsRequest op h)
      (fun _ op h => h.next op) (fun _ op h => h.excludes op) ops _
  · rintro pre post rfl id rec hfind hlife
    have hterminal : rec.lifecycle.isTerminalState = true := by
      rcases hlife with hlife | hlife <;> rw [hlife] <;> rfl
    have hkept := Runs.kept_until (fun y op => System.Keeps.next (y := y) hterminal op) post
      ⟨rec, hfind, rfl, rfl⟩
    simp only [System.run, Runs.exec_append]
    exact hkept

/-- The test of duplicate completion: a collective is granted, handed off and
completed, and the completion is repeated before the request is cancelled. -/
def Scenario.duplicateCompletion : List (Op ℚ) :=
  Scenario.withGrant
    [.publishParticipant (Scenario.participant 1 1 1 11), .publishPlan (Scenario.plan 1 1 [1]),
      .submit (Scenario.request 1 [1] 1), .schedule [] []] 1
    (fun g => [.handoff g true, .complete g 11 100, .complete g 11 100, .cancel 1])

/-- The repeated completion and the late cancellation end nothing: the first
completion is the one end of the generation. -/
theorem terminal_outcome_once_duplicate :
    Runs.occurrences System.next (System.endsRequest 1 1) (System.start PolicyConfig.default 1)
      Scenario.duplicateCompletion = 1 ∧
    ((System.start PolicyConfig.default 1).run Scenario.duplicateCompletion).stateOf 1 =
      some .completed := by
  have hcount : 1 ≤ Runs.occurrences System.next (System.endsRequest 1 1)
      (System.start PolicyConfig.default 1) Scenario.duplicateCompletion := by decide +kernel
  have honce := (terminal_outcome_once PolicyConfig.default 1 Scenario.duplicateCompletion).1 1 1
  exact ⟨Nat.le_antisymm honce hcount, by decide +kernel⟩

end CollectiveScheduler
