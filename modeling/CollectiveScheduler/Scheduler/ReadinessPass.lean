/-
  Scheduler/ReadinessPass.lean --- what the first pass of a round does.

  The readiness pass treats every record on its own, so after it the records are
  the old ones rewritten one by one, and the candidates are the eligible ones in
  the order the pass visits them.  The pass throws only on a record that rests in
  ELIGIBLE.
-/
import CollectiveScheduler.Scheduler.Rewriting
import CollectiveScheduler.Scheduler.Schedule

set_option autoImplicit false

namespace CollectiveScheduler

open Foundation

namespace LifecycleState

/-- The states the readiness pass derives again. -/
def isPending (st : LifecycleState) : Bool :=
  st ∈ [declared, waiting, ready, eligible, queued]

/-- What the readiness pass may do to a state. -/
structure Refreshes (a b : LifecycleState) : Prop where
  chain : Chain a b
  moved : b = a ∨ (a.isPending = true ∧ (b = ready ∨ b = waiting ∨ b = revalidationRequired))

theorem Refreshes.refl (a : LifecycleState) : Refreshes a a := ⟨Chain.refl a, .inl rfl⟩

theorem Refreshes.trans {a b c : LifecycleState} (h : Refreshes a b) (h' : Refreshes b c) :
    Refreshes a c := by
  refine ⟨h.chain.trans h'.chain, ?_⟩
  rcases h'.moved with rfl | ⟨-, hc⟩
  · exact h.moved
  · rcases h.moved with rfl | ⟨ha, -⟩
    · exact h'.moved
    · exact .inr ⟨ha, hc⟩

theorem Refreshes.pending {a b : LifecycleState} (h : Refreshes a b) (hb : b.isPending = true) :
    a.isPending = true := by
  rcases h.moved with rfl | ⟨ha, -⟩
  · exact hb
  · exact ha

/-- The readiness pass leaves every other state alone. -/
theorem Refreshes.eq_of_not_pending {a b : LifecycleState} (h : Refreshes a b)
    (ha : a.isPending = false) : b = a := by
  rcases h.moved with h | ⟨hpending, -⟩
  · exact h
  · rw [ha] at hpending
    cases hpending

end LifecycleState

namespace Scheduler

open LifecycleState

variable {D : Type} [Double D]

/-! ## The readiness pass on one record -/

theorem lifecycleTarget_some {rd : Readiness} {st target : LifecycleState} {done : Bool}
    (h : lifecycleTarget rd st = some (target, done)) :
    st.isPending = true ∧
      (target = .ready ∨ target = .waiting ∨ target = .revalidationRequired) := by
  cases st <;> simp only [lifecycleTarget] at h <;> (try split_ifs at h) <;> cases h <;>
    exact ⟨rfl, by decide⟩

theorem deriveLifecycle_refreshes {rd : Readiness} {st st' : LifecycleState} {done : Bool}
    (h : deriveLifecycle rd st = .ok (st', done)) : st.Refreshes st' := by
  unfold deriveLifecycle at h
  split at h
  · cases h
    exact Refreshes.refl st
  · rename_i target done' htarget
    obtain ⟨hpending, hstates⟩ := lifecycleTarget_some htarget
    split at h
    · rename_i st'' htransition
      cases h
      refine ⟨Chain.ofTransition htransition, .inr ⟨hpending, ?_⟩⟩
      obtain ⟨-, rfl⟩ := transition_ok_iff.mp htransition
      exact hstates
    · cases h

/-- Only readiness brings a record to READY. -/
theorem ready_of_lifecycleTarget {rd : Readiness} {st : LifecycleState} {done : Bool}
    (h : lifecycleTarget rd st = some (.ready, done)) : rd = .ready := by
  cases st <;> simp only [lifecycleTarget] at h <;> (try split_ifs at h with hready) <;>
    first | exact hready | cases h

/-- A state that can be revoked after the derivation could be revoked before, or the
readiness is READY. -/
theorem deriveLifecycle_revocable {rd : Readiness} {st st' : LifecycleState} {done : Bool}
    (h : deriveLifecycle rd st = .ok (st', done)) (hrevocable : st'.isRevocable = true) :
    st.isRevocable = true ∨ rd = .ready := by
  unfold deriveLifecycle at h
  split at h
  · cases h
    exact .inl hrevocable
  · rename_i target done' htarget
    split at h
    · rename_i st'' htransition
      cases h
      obtain ⟨-, rfl⟩ := transition_ok_iff.mp htransition
      rcases (lifecycleTarget_some htarget).2 with rfl | rfl | rfl
      · exact .inr (ready_of_lifecycleTarget htarget)
      · cases hrevocable
      · cases hrevocable
    · cases h

/-- The only refused derivation is the one from ELIGIBLE back to WAITING. -/
theorem deriveLifecycle_isOk (rd : Readiness) {st : LifecycleState} (h : st ≠ .eligible) :
    ∃ result, deriveLifecycle rd st = .ok result := by
  unfold deriveLifecycle
  cases htarget : lifecycleTarget rd st with
  | none => exact ⟨_, rfl⟩
  | some target =>
      obtain ⟨target, done⟩ := target
      have hcan : st.canTransition target = true := by
        cases st <;> simp only [lifecycleTarget] at htarget <;> (try split_ifs at htarget) <;>
          cases htarget <;> first | rfl | exact absurd rfl h
      exact ⟨(target, done), by simp only [transition, hcan, if_true]⟩

theorem deriveLifecycle_ready {st : LifecycleState} (h : st.isPending = true) :
    ∃ st', deriveLifecycle .ready st = .ok (st', false) ∧
      (st' = .ready ∨ st' = .eligible ∨ st' = .queued) := by
  cases st <;> first | exact ⟨_, rfl, by decide⟩ | exact absurd h (by decide)

theorem deriveLifecycle_ready_of_rest {st : LifecycleState} (h : st.isPending = true)
    (helig : st ≠ .eligible) (hqueued : st ≠ .queued) :
    deriveLifecycle .ready st = .ok (.ready, false) := by
  cases st <;> first | rfl | exact absurd h (by decide) | exact absurd rfl helig |
    exact absurd rfl hqueued

/-- The record would become a candidate: it is pending, its readiness is READY
and it passes hard eligibility. -/
def eligible (s : Scheduler D) (rec : Record D) : Bool :=
  rec.lifecycle.isPending && s.computeReadiness rec.request = .ready &&
    (s.hardEligible .ready rec.request).isNone

theorem eligible_iff {s : Scheduler D} {rec : Record D} :
    s.eligible rec = true ↔ rec.lifecycle.isPending = true ∧
      s.computeReadiness rec.request = .ready ∧ s.hardEligible .ready rec.request = none := by
  simp only [eligible, Bool.and_eq_true, decide_eq_true_eq, Option.isNone_iff_eq_none, and_assoc]

theorem not_terminal_of_pending {st : LifecycleState} (h : st.isPending = true) :
    st.isTerminalState = false := by
  cases st <;> first | rfl | exact absurd h (by decide)

theorem refreshRecord_terminal (s : Scheduler D) {rec : Record D}
    (h : rec.lifecycle.isTerminalState = true) : s.refreshRecord rec = (rec, .ok false) :=
  if_pos h

/-- A record that the pass has visited, with what the pass found out about it. -/
def visited (s : Scheduler D) (rec : Record D) (st : LifecycleState) (flag : Bool)
    (reasons : List RejectionReason) : Record D :=
  { rec with
    ageTicks := rec.ageTicks + 1
    footprint := makeFootprint rec.request.participants rec.request.resourceClaims
      (s.plan rec.request.planId)
    lastReadiness := s.computeReadiness rec.request
    lifecycle := st
    hardEligible := flag
    eligibilityReasons := reasons }

/-- The pass visits every record that is not terminal; it flags the candidates. -/
theorem refreshRecord_live (s : Scheduler D) {rec : Record D}
    (h : rec.lifecycle.isTerminalState = false) :
    ∃ st flag reasons, (s.refreshRecord rec).1 = s.visited rec st flag reasons ∧
      (st = rec.lifecycle ∨
        ∃ done, deriveLifecycle (s.computeReadiness rec.request) rec.lifecycle = .ok (st, done)) ∧
      (flag = true ↔ (s.refreshRecord rec).2 = .ok true) := by
  unfold refreshRecord
  simp only [h, Bool.false_eq_true, if_false]
  split
  · exact ⟨_, false, [], rfl, .inl rfl, by simp⟩
  · rename_i st done hderive
    split_ifs
    · exact ⟨st, false, [], rfl, .inr ⟨done, hderive⟩, by simp⟩
    · split
      · exact ⟨st, true, [], rfl, .inr ⟨done, hderive⟩, by simp⟩
      · exact ⟨st, false, _, rfl, .inr ⟨done, hderive⟩, by simp⟩
    · exact ⟨st, false, [], rfl, .inr ⟨done, hderive⟩, by simp⟩

theorem refreshRecord_frame (s : Scheduler D) (rec : Record D) :
    (s.refreshRecord rec).1.request = rec.request ∧
      (s.refreshRecord rec).1.currentGrant = rec.currentGrant ∧
      (s.refreshRecord rec).1.enqueueSeq = rec.enqueueSeq ∧
      (s.refreshRecord rec).1.fairness = rec.fairness := by
  cases hterminal : rec.lifecycle.isTerminalState with
  | true =>
      rw [s.refreshRecord_terminal hterminal]
      exact ⟨rfl, rfl, rfl, rfl⟩
  | false =>
      obtain ⟨st, flag, reasons, heq, -⟩ := s.refreshRecord_live hterminal
      rw [heq]
      exact ⟨rfl, rfl, rfl, rfl⟩

theorem refreshRecord_refreshes (s : Scheduler D) (rec : Record D) :
    rec.lifecycle.Refreshes (s.refreshRecord rec).1.lifecycle := by
  cases hterminal : rec.lifecycle.isTerminalState with
  | true =>
      rw [s.refreshRecord_terminal hterminal]
      exact Refreshes.refl _
  | false =>
      obtain ⟨st, flag, reasons, heq, hst, -⟩ := s.refreshRecord_live hterminal
      rw [heq]
      rcases hst with rfl | ⟨done, hderive⟩
      · exact Refreshes.refl _
      · exact deriveLifecycle_refreshes hderive

theorem refreshRecord_revocable (s : Scheduler D) {rec : Record D}
    (h : (s.refreshRecord rec).1.lifecycle.isRevocable = true) :
    rec.lifecycle.isRevocable = true ∨ s.computeReadiness rec.request = .ready := by
  cases hterminal : rec.lifecycle.isTerminalState with
  | true =>
      rw [s.refreshRecord_terminal hterminal] at h
      exact .inl h
  | false =>
      obtain ⟨st, flag, reasons, heq, hst, -⟩ := s.refreshRecord_live hterminal
      rw [heq] at h
      rcases hst with rfl | ⟨done, hderive⟩
      · exact .inl h
      · exact deriveLifecycle_revocable hderive h

/-- Every record that is not terminal gets its footprint recomputed. -/
theorem refreshRecord_footprint (s : Scheduler D) {rec : Record D}
    (h : rec.lifecycle.isTerminalState = false) :
    (s.refreshRecord rec).1.footprint = makeFootprint rec.request.participants
      rec.request.resourceClaims (s.plan rec.request.planId) := by
  obtain ⟨st, flag, reasons, heq, -⟩ := s.refreshRecord_live h
  rw [heq]
  rfl

/-- Every record that is not terminal ages by one tick. -/
theorem refreshRecord_ageTicks (s : Scheduler D) {rec : Record D}
    (h : rec.lifecycle.isTerminalState = false) :
    (s.refreshRecord rec).1.ageTicks = rec.ageTicks + 1 := by
  obtain ⟨st, flag, reasons, heq, -⟩ := s.refreshRecord_live h
  rw [heq]
  rfl

/-- The pass flags the candidates, among the records that are not terminal. -/
theorem refreshRecord_flag (s : Scheduler D) {rec : Record D}
    (h : rec.lifecycle.isTerminalState = false) :
    (s.refreshRecord rec).1.hardEligible = true ↔ (s.refreshRecord rec).2 = .ok true := by
  obtain ⟨st, flag, reasons, heq, -, hflag⟩ := s.refreshRecord_live h
  rw [← hflag, heq]
  rfl

theorem refreshRecord_outcome (s : Scheduler D) (rec : Record D) :
    (s.refreshRecord rec).2 = .ok true ↔ s.eligible rec = true := by
  rw [eligible_iff]
  unfold refreshRecord
  constructor
  · intro h
    split_ifs at h with hterminal
    · cases h
    · simp only at h
      split at h
      · cases h
      · rename_i st done hderive
        split_ifs at h with hdone hstate
        · cases h
        · split at h
          · rename_i helig
            have hready : s.computeReadiness rec.request = .ready := by
              by_contra hne
              simp [hardEligible, hne] at helig
            have hpending : rec.lifecycle.isPending = true := by
              rcases (deriveLifecycle_refreshes hderive).moved with heq | ⟨hp, -⟩
              · rw [← heq]
                rcases hstate with rfl | rfl | rfl <;> rfl
              · exact hp
            rw [hready] at helig
            exact ⟨hpending, hready, helig⟩
          · cases h
        · cases h
  · rintro ⟨hpending, hready, helig⟩
    obtain ⟨st, hderive, hst⟩ := deriveLifecycle_ready hpending
    simp only [not_terminal_of_pending hpending, hready, hderive, hst, helig,
      Bool.false_eq_true, if_false, if_true]

theorem refreshRecord_isOk (s : Scheduler D) {rec : Record D} (h : rec.lifecycle ≠ .eligible) :
    ∃ b, (s.refreshRecord rec).2 = .ok b := by
  obtain ⟨⟨st, done⟩, hderive⟩ := deriveLifecycle_isOk (s.computeReadiness rec.request) h
  unfold refreshRecord
  simp only [hderive]
  split_ifs
  · exact ⟨_, rfl⟩
  · exact ⟨_, rfl⟩
  · split <;> exact ⟨_, rfl⟩
  · exact ⟨_, rfl⟩

/-- An eligible record that is not in a transient state is READY after the pass. -/
theorem refreshRecord_ready (s : Scheduler D) {rec : Record D} (h : s.eligible rec = true)
    (helig : rec.lifecycle ≠ .eligible) (hqueued : rec.lifecycle ≠ .queued) :
    (s.refreshRecord rec).1.lifecycle = .ready := by
  obtain ⟨hpending, hready, hnone⟩ := eligible_iff.mp h
  unfold refreshRecord
  simp only [not_terminal_of_pending hpending, hready,
    deriveLifecycle_ready_of_rest hpending helig hqueued, hnone, Bool.false_eq_true, if_false,
    true_or, if_true]

theorem refreshRecord_rewritten (s : Scheduler D) (rec : Record D) :
    rec.Rewritten Refreshes (s.refreshRecord rec).1 where
  request := (refreshRecord_frame s rec).1
  currentGrant := (refreshRecord_frame s rec).2.1
  lifecycle := refreshRecord_refreshes s rec

/-! ## The readiness pass over all records -/

/-- The candidate the readiness pass takes from one record. -/
def candidateOf (s : Scheduler D) (id : CollectiveRequestId) : Option CollectiveRequestId :=
  (s.records.find? id).bind (fun rec => if s.eligible rec then some rec.request.id else none)

theorem candidateOf_insert_of_ne (s : Scheduler D) {id id' : CollectiveRequestId}
    (rec : Record D) (h : id' ≠ id) :
    candidateOf { s with records := s.records.insert id rec } id' = s.candidateOf id' := by
  unfold candidateOf
  rw [FinMap.find?_insert_of_ne _ _ h]
  rfl

/-- Whatever the pass does, it only rewrites records. -/
theorem refreshRecords_rewritten (s : Scheduler D) (ids acc : List CollectiveRequestId) :
    Rewritten Refreshes s (s.refreshRecords ids acc).1 := by
  induction ids generalizing s acc with
  | nil => exact Rewritten.refl Refreshes.refl s
  | cons id rest ih =>
      unfold refreshRecords
      split
      · exact ih s acc
      · rename_i rec hfind
        have hone : Rewritten Refreshes s
            { s with records := s.records.insert id (s.refreshRecord rec).1 } :=
          Rewritten.of_records
            (RecordsRewritten.insert Refreshes.refl hfind (refreshRecord_rewritten s rec))
            ⟨rfl, rfl, rfl, rfl, le_refl _⟩
        simp only
        split
        · exact hone
        · exact hone.trans Refreshes.trans (ih _ _)
        · exact hone.trans Refreshes.trans (ih _ _)

/-- A pass that does not throw rewrites the visited records one by one and
collects the eligible ones in the order it visits them. -/
theorem refreshRecords_ok {s s' : Scheduler D} {ids acc candidates : List CollectiveRequestId}
    (hnodup : ids.Nodup) (h : s.refreshRecords ids acc = (s', .ok candidates)) :
    s' = { s with records := s.records.modifyAll ids (fun _ rec => (s.refreshRecord rec).1) } ∧
      candidates = acc ++ ids.filterMap s.candidateOf := by
  induction ids generalizing s acc with
  | nil =>
      cases h
      exact ⟨rfl, (List.append_nil _).symm⟩
  | cons id rest ih =>
      obtain ⟨hnot, hrest⟩ := List.nodup_cons.mp hnodup
      unfold refreshRecords at h
      rw [FinMap.modifyAll, List.foldl_cons, ← FinMap.modifyAll]
      split at h
      · rename_i hfind
        have hnone : s.candidateOf id = none := by rw [candidateOf, hfind]; rfl
        rw [FinMap.modify_of_none _ hfind, List.filterMap_cons_none hnone]
        exact ih hrest h
      · rename_i rec hfind
        rw [FinMap.modify_eq_insert _ hfind]
        -- the rest of the walk does not see the record just rewritten
        have hlater : rest.filterMap (candidateOf
              { s with records := s.records.insert id (s.refreshRecord rec).1 }) =
            rest.filterMap s.candidateOf := by
          refine List.filterMap_congr fun id' hid' => ?_
          exact candidateOf_insert_of_ne s _ (fun heq => hnot (heq ▸ hid'))
        simp only at h
        split at h
        · cases h
        · rename_i hout
          obtain ⟨hs', hcand⟩ := ih hrest h
          have hsome : s.candidateOf id = some rec.request.id := by
            rw [candidateOf, hfind, Option.bind_some,
              if_pos ((refreshRecord_outcome s rec).mp hout)]
          refine ⟨hs', ?_⟩
          rw [hcand, hlater, List.filterMap_cons_some hsome, (refreshRecord_frame s rec).1,
            List.append_assoc, List.singleton_append]
        · rename_i hout
          obtain ⟨hs', hcand⟩ := ih hrest h
          have hnone : s.candidateOf id = none := by
            have hinelig : s.eligible rec ≠ true := by
              intro helig
              rw [(refreshRecord_outcome s rec).mpr helig] at hout
              cases hout
            rw [candidateOf, hfind, Option.bind_some, if_neg hinelig]
          refine ⟨hs', ?_⟩
          rw [hcand, hlater, List.filterMap_cons_none hnone]

/-- The pass throws exactly where one of the visited records does. -/
theorem refreshRecords_isOk_iff {s : Scheduler D} {ids : List CollectiveRequestId}
    (hnodup : ids.Nodup) (acc : List CollectiveRequestId) :
    (∃ candidates, (s.refreshRecords ids acc).2 = .ok candidates) ↔
      ∀ id ∈ ids, ∀ rec, s.records.find? id = some rec → ∃ b, (s.refreshRecord rec).2 = .ok b := by
  induction ids generalizing s acc with
  | nil => exact iff_of_true ⟨acc, rfl⟩ (fun _ hid => absurd hid List.not_mem_nil)
  | cons id rest ih =>
      obtain ⟨hnot, hrest⟩ := List.nodup_cons.mp hnodup
      rw [List.forall_mem_cons]
      unfold refreshRecords
      split
      · rename_i hfind
        rw [ih hrest, hfind]
        exact (and_iff_right (fun _ h => by cases h)).symm
      · rename_i rec hfind
        -- the rest of the walk does not see the record just rewritten
        have hlater : ∀ acc', (∃ candidates, (refreshRecords
              { s with records := s.records.insert id (s.refreshRecord rec).1 }
              rest acc').2 = .ok candidates) ↔
            ∀ id' ∈ rest, ∀ rec', s.records.find? id' = some rec' →
              ∃ b, (s.refreshRecord rec').2 = .ok b := by
          intro acc'
          rw [ih hrest]
          refine forall_congr' fun id' => forall_congr' fun hid' => ?_
          have hne : id' ≠ id := fun heq => hnot (heq ▸ hid')
          rw [FinMap.find?_insert_of_ne _ _ hne]
          rfl
        simp only [hfind, Option.some.injEq, forall_eq']
        cases hout : (s.refreshRecord rec).2 with
        | error e => exact iff_of_false (fun ⟨_, h⟩ => by cases h) (fun ⟨⟨_, h⟩, _⟩ => by cases h)
        | ok b =>
            rw [and_iff_right ⟨b, rfl⟩]
            cases b with
            | false => exact hlater _
            | true => exact hlater _

end Scheduler

end CollectiveScheduler
