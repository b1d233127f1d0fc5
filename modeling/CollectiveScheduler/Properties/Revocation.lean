/-
  Properties/Revocation.lean --- what takes a grant back takes it back for good.

  A newer epoch, a superseding request, a cancellation and a completion each end the
  grants that were issued before: the first for all requests, the others for theirs.
  In no continuation is such a grant handed to the fabric or completed, whatever calls
  are made with whatever arguments, and however the sections of handoffs interleave.

  The state is any that calls and restores can reach; the grants are those issued since
  the last restore.
-/
import CollectiveScheduler.System.Barred
import CollectiveScheduler.System.Scenario

set_option autoImplicit false

namespace CollectiveScheduler

open Foundation

variable {D : Type} [Double D]

/-! ## The epochs of issued grants -/

/-- No grant is from an epoch ahead. -/
def System.EpochsReached (y : System D) : Prop :=
  ∀ g ∈ y.issued, g.evidence.epoch ≤ y.sched.epoch

theorem System.EpochsReached.next {y : System D} (h : y.EpochsReached) (op : Op D) :
    (y.next op).EpochsReached := by
  have hepoch := (y.grantStep op).epoch
  intro g hg
  rcases y.issued_next op with hsame | ⟨recordOrder, grantOrder, s, dec, created, -, hround, hnext⟩
  · rw [hsame] at hg
    exact (h g hg).trans hepoch
  · rw [hnext] at hg
    rcases List.mem_append.mp hg with hold | hnew
    · exact (h g hold).trans hepoch
    · rw [(Scheduler.scheduleRound_ok hround).created] at hnew
      obtain ⟨⟨id, -, rec, t, -, rfl⟩, -⟩ := Scheduler.createGrants_from _ _ g hnew
      exact hepoch

/-! ## What ends a grant -/

/-- The call ends the grant. -/
def System.Revokes (y : System D) (g : CollectiveGrant) : Op D → Prop
  | .advanceCoordinatorEpoch epoch => y.sched.epoch < epoch
  | .supersede req => req.id = g.request ∧ y.outcome (.supersede req) = .returned
  | .cancel id => id = g.request
  | .complete g' wb sb =>
      g'.request = g.request ∧ y.outcome (.complete g' wb sb) = .answered true
  | _ => False

namespace Scheduler

variable {s : Scheduler D} {g : CollectiveGrant} {rec : Record D}

theorem isSpent_of_isTerminalState {st : LifecycleState} (h : st.isTerminalState = true) :
    st.isSpent = true := by
  cases st <;> first | rfl | cases h

omit [Double D] in
/-- A spent record at the grant's generation or a later one. -/
theorem spent_of_spentRecord (rec : Record D) (hgen : g.requestGen ≤ rec.request.gen)
    (hfind : s.records.find? g.request = some rec) (hspent : rec.lifecycle.isSpent = true) :
    s.Spent g := by
  refine ⟨rec, hfind, ?_⟩
  rcases lt_or_eq_of_le hgen with hlt | heq
  · exact .inl hlt
  · exact .inr ⟨heq, hspent⟩

omit [Double D] in
theorem spent_cancel (hfind : s.records.find? g.request = some rec)
    (hgen : g.requestGen ≤ rec.request.gen) : (s.cancel g.request).1.Spent g := by
  cases hterminal : rec.lifecycle.isTerminalState with
  | true =>
      have hsame : (s.cancel g.request).1 = s := by
        simp only [cancel, hfind, hterminal, if_true]
      rw [hsame]
      exact spent_of_spentRecord rec hgen hfind (isSpent_of_isTerminalState hterminal)
  | false =>
      have hcancelled : (s.cancel g.request).1.records.find? g.request = some rec.cancel := by
        simp only [cancel, hfind, hterminal, Bool.false_eq_true, if_false]
        split
        · split_ifs <;> exact (FinMap.find?_insert _ _ _ _).trans (if_pos rfl)
        · exact (FinMap.find?_insert _ _ _ _).trans (if_pos rfl)
      refine spent_of_spentRecord rec.cancel hgen hcancelled ?_
      rw [Record.cancel, LifecycleState.transitionOrForce_eq]
      rfl

theorem spent_supersede {req : CollectiveRequest D} (hreq : req.id = g.request)
    (hok : (s.supersede req).2 = .ok ()) (hfind : s.records.find? g.request = some rec)
    (hgen : g.requestGen ≤ rec.request.gen) : (s.supersede req).1.Spent g := by
  rcases s.supersede_cases req with ⟨e, heq⟩ | ⟨old, hold, hlater, -, heq⟩
  · rw [heq] at hok
    cases hok
  · rw [hreq, hfind, Option.some.injEq] at hold
    subst hold
    rw [heq]
    refine ⟨supersedingRecord rec req, ?_, .inl (lt_of_le_of_lt hgen hlater)⟩
    simp only [FinMap.find?_insert, hreq, if_true]

omit [Double D] in
theorem spent_complete {g' : CollectiveGrant} {wb : WorkerBootId} {sb : SourceBootId}
    (hrequest : g'.request = g.request) (htrue : (s.complete g' wb sb).2.1 = true)
    (hfind : s.records.find? g.request = some rec) (hgen : g.requestGen ≤ rec.request.gen) :
    (s.complete g' wb sb).1.Spent g := by
  rcases s.complete_cases g' wb sb with heq | ⟨rec', gs, hfind', -, -, -, heq⟩
  · rw [heq] at htrue
    cases htrue
  · rw [hrequest, hfind, Option.some.injEq] at hfind'
    subst hfind'
    rw [heq]
    refine spent_of_spentRecord (completedRecord rec) hgen ?_ rfl
    simp only [completed, FinMap.find?_insert, hrequest, if_true]

end Scheduler

namespace System

variable {y : System D} {g : CollectiveGrant}

/-- After a call that ends it, a grant is spent or from a past epoch. -/
theorem Revokes.ends {op : Op D} (h : y.Revokes g op) {rec : Record D}
    (hfind : y.sched.records.find? g.request = some rec) (hgen : g.requestGen ≤ rec.request.gen)
    (hepoch : g.evidence.epoch ≤ y.sched.epoch) :
    (y.next op).sched.Spent g ∨ g.evidence.epoch < (y.next op).sched.epoch := by
  cases op with
  | advanceCoordinatorEpoch epoch =>
      have hahead : ¬epoch ≤ y.sched.epoch := not_le.mpr h
      refine .inr (lt_of_le_of_lt hepoch ?_)
      simp only [next, step, ofVoid, Scheduler.advanceCoordinatorEpoch, if_neg hahead]
      exact h
  | supersede req =>
      refine .inl (Scheduler.spent_supersede h.1 ?_ hfind hgen)
      have houtcome := h.2
      simp only [outcome, step, ofVoid] at houtcome
      split at houtcome
      · assumption
      · cases houtcome
  | cancel id =>
      obtain rfl : id = g.request := h
      exact .inl (Scheduler.spent_cancel hfind hgen)
  | complete g' wb sb =>
      refine .inl (Scheduler.spent_complete h.1 ?_ hfind hgen)
      have houtcome := h.2
      simp only [outcome, step, ofAnswer, Outcome.answered.injEq] at houtcome
      exact houtcome
  | _ => cases h

/-- No call undoes it. -/
theorem ended_run (h : y.sched.Spent g ∨ g.evidence.epoch < y.sched.epoch) (ops : List (Op D)) :
    (y.run ops).sched.Spent g ∨ g.evidence.epoch < (y.run ops).sched.epoch :=
  Runs.exec_induct
    (P := fun y : System D => y.sched.Spent g ∨ g.evidence.epoch < y.sched.epoch)
    (fun y op hy => hy.imp (fun hspent => next_spent hspent op)
      (fun hlt => lt_of_lt_of_le hlt (y.grantStep op).epoch)) ops h

end System

/-- In every continuation of a call that ends a grant, the grant is not handed to the fabric
and not completed. -/
theorem revocation_is_final (policy : PolicyConfig D) (epoch : CoordinatorEpoch)
    (actions : List (Action D)) (after : List (Op D)) (op : Op D) (g : CollectiveGrant)
    (accepted : Bool) (wb : WorkerBootId) (sb : SourceBootId) :
    let w := (World.start policy epoch).run actions
    let z := (w.sys.next op).run after
    g ∈ w.issuedSinceRestore → w.sys.Revokes g op →
      z.outcome (.handoff g accepted) = .answered false ∧
      z.outcome (.handoffBegin g) = .asked false ∧
      z.outcome (.complete g wb sb) = .answered false := by
  intro w z hg hrevokes
  have hrecorded : w.sinceRestore.Recorded := World.sinceRestore_recorded policy epoch actions
  have hreached : w.sinceRestore.EpochsReached :=
    World.run_sinceRestore (P := System.EpochsReached)
      (fun _ _ hnil g hg => absurd (hnil ▸ hg) List.not_mem_nil) (fun _ op hy => hy.next op)
      policy epoch actions
  obtain ⟨rec, hfind, hgen⟩ := hrecorded.known g hg
  have hended := System.ended_run (hrevokes.ends hfind hgen (hreached g hg)) after
  obtain ⟨hhandoff, hbegin⟩ :=
    System.refuses_handoff (Scheduler.handoffBegin_none_of hended) accepted
  have hcomplete : (z.sched.complete g wb sb).2.1 = false :=
    Scheduler.Barred.complete_false (.inr hended) wb sb
  exact ⟨hhandoff, hbegin, congrArg Outcome.answered hcomplete⟩

/-- A request is superseded while it runs and granted again: its first grant stays refused,
although the record is granted. -/
theorem revocation_is_final_superseded :
    let w := (World.start PolicyConfig.default 1).run (Scenario.executing.map .call)
    let z := (w.sys.next (.supersede Scenario.nextGeneration)).run [.schedule [] []]
    ∃ g ∈ w.issuedSinceRestore,
      (z.sched.records.find? g.request).map (·.lifecycle) = some .granted ∧
      z.outcome (.handoff g true) = .answered false ∧
      z.outcome (.complete g 11 100) = .answered false := by
  intro w z
  obtain ⟨g, hg, hrequest, hgranted⟩ : ∃ g ∈ w.issuedSinceRestore, Scenario.nextGeneration.id =
      g.request ∧ (z.sched.records.find? g.request).map (·.lifecycle) = some .granted := by
    decide +kernel
  have hrevokes : w.sys.Revokes g (.supersede Scenario.nextGeneration) :=
    ⟨hrequest, by decide +kernel⟩
  obtain ⟨hhandoff, -, hcomplete⟩ := revocation_is_final PolicyConfig.default 1
    (Scenario.executing.map .call) [.schedule [] []] (.supersede Scenario.nextGeneration) g true
    11 100 hg hrevokes
  exact ⟨g, hg, hgranted, hhandoff, hcomplete⟩

end CollectiveScheduler
