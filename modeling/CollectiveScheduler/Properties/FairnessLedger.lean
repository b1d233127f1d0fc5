/-
  Properties/FairnessLedger.lean --- the fairness accounts and the decisions taken.

  Only the fairness pass of a round touches an account.  It visits the candidates, which
  are the requests of the decision: the selected ones and those in the fallback list.
  `supersede` hands the account on, and a request without a record is in no decision, so
  the account of a request counts the decisions of the whole run.  The counters are
  64-bit and wrap around, so that they hold the counts modulo `2 ^ 64`.
-/
import Mathlib.Data.List.DropRight
import CollectiveScheduler.Scheduler.Selection
import CollectiveScheduler.System.Accounts
import CollectiveScheduler.System.Saturation
import CollectiveScheduler.System.Scenario

set_option autoImplicit false

namespace CollectiveScheduler

open Foundation

variable {D : Type}

/-! ## The decisions of a run -/

/-- A decision and the bypass limit in force when it was taken. -/
structure Verdict (D : Type) where
  decision : ScheduleDecision D
  maxBypassCount : UInt64

namespace Verdict

def selects (id : CollectiveRequestId) (v : Verdict D) : Bool := id ∈ v.decision.selected

def passesOver (id : CollectiveRequestId) (v : Verdict D) : Bool := id ∈ v.decision.fallback

/-- The request was a candidate of the round. -/
def lists (id : CollectiveRequestId) (v : Verdict D) : Bool := v.selects id || v.passesOver id

end Verdict

namespace System

variable [Double D]

/-- The decision of a call, if it takes one. -/
def verdict (y : System D) : Op D → Option (Verdict D)
  | .schedule recordOrder grantOrder =>
      match (y.sched.schedule recordOrder grantOrder).2 with
      | .ok dec => some ⟨dec, y.sched.policy.maxBypassCount⟩
      | .error _ => none
  | _ => none

/-- The decisions of a run, the first one first. -/
def history (y : System D) : List (Op D) → List (Verdict D)
  | [] => []
  | op :: rest => (y.verdict op).toList ++ history (y.next op) rest

end System

/-! ## The accounts -/

namespace FairnessAccount

/-- The account holds what the decisions say of the request: how many of them selected it,
how many passed it over, and how many passed it over since the last one that selected it.
It is starved after the last decision that listed it if that one passed it over and the
bypasses had reached the limit. -/
structure Tallies (id : CollectiveRequestId) (history : List (Verdict D))
    (f : FairnessAccount D) : Prop where
  observedGrants : f.observedGrants.toNat = history.countP (·.selects id) % 2 ^ 64
  waitTicks : f.waitTicks.toNat = history.countP (·.passesOver id) % 2 ^ 64
  consecutiveBypasses : f.consecutiveBypasses.toNat =
    (history.rtakeWhile (!·.selects id)).countP (·.passesOver id) % 2 ^ 64
  starved : ∀ v, (history.filter (·.lists id)).getLast? = some v →
    (f.starved = true ↔ v.selects id = false ∧ v.maxBypassCount ≤ f.consecutiveBypasses)

variable {id : CollectiveRequestId} {history : List (Verdict D)} {f : FairnessAccount D}
  {v : Verdict D}

/-- A counter that holds a count modulo its size still does one later. -/
theorem toNat_succ {x : UInt64} {n : Nat} (h : x.toNat = n % 2 ^ 64) :
    (x + 1).toNat = (n + 1) % 2 ^ 64 := by
  have hone : (1 : UInt64).toNat = 1 := rfl
  rw [UInt64.toNat_add, h, hone, Nat.mod_add_mod]

/-- A new account, before any decision on the request. -/
theorem Tallies.new [Double D] (cls : FairnessClass)
    (h : ∀ v ∈ history, v.lists id = false) :
    Tallies id history { (FairnessAccount.default : FairnessAccount D) with cls := cls } := by
  have hnever : ∀ v ∈ history, v.selects id = false ∧ v.passesOver id = false := by
    intro v hv
    exact Bool.or_eq_false_iff.mp (h v hv)
  have hselects : history.countP (·.selects id) = 0 :=
    List.countP_eq_zero.mpr fun v hv => by simp [(hnever v hv).1]
  have hpasses : history.countP (·.passesOver id) = 0 :=
    List.countP_eq_zero.mpr fun v hv => by simp [(hnever v hv).2]
  have hsince : (history.rtakeWhile (!·.selects id)).countP (·.passesOver id) = 0 := by
    refine List.countP_eq_zero.mpr fun v hv => ?_
    have hmem := (List.rtakeWhile_suffix _ history).subset hv
    simp [(hnever v hmem).2]
  have hlast : history.filter (·.lists id) = [] :=
    List.filter_eq_nil_iff.mpr fun v hv => by simp [h v hv]
  constructor
  · rw [hselects]
    rfl
  · rw [hpasses]
    rfl
  · rw [hsince]
    rfl
  · intro v hv
    rw [hlast] at hv
    cases hv

section Round

variable [Double D] {p : PolicyConfig D}

omit [Double D] in
/-- A decision that does not list the request. -/
theorem Tallies.unlisted (h : Tallies id history f) (hv : v.lists id = false) :
    Tallies id (history ++ [v]) f := by
  obtain ⟨hselects, hpasses⟩ := Bool.or_eq_false_iff.mp hv
  constructor
  · rw [List.countP_append, List.countP_singleton, hselects]
    exact h.observedGrants
  · rw [List.countP_append, List.countP_singleton, hpasses]
    exact h.waitTicks
  · rw [List.rtakeWhile_concat, hselects, Bool.not_false, if_pos rfl, List.countP_append,
      List.countP_singleton, hpasses]
    exact h.consecutiveBypasses
  · rw [List.filter_append, List.filter_singleton, hv]
    simpa using h.starved

/-- A decision that selects the request. -/
theorem Tallies.selected (h : Tallies id history f) (hselects : v.selects id = true)
    (hpasses : v.passesOver id = false) :
    Tallies id (history ++ [v]) (Scheduler.accountRound p true f) := by
  constructor
  · rw [List.countP_append, List.countP_singleton, hselects]
    exact toNat_succ h.observedGrants
  · rw [List.countP_append, List.countP_singleton, hpasses]
    exact h.waitTicks
  · rw [List.rtakeWhile_concat, hselects]
    rfl
  · intro w hw
    have hlists : v.lists id = true := by rw [Verdict.lists, hselects, Bool.true_or]
    rw [List.filter_append, List.filter_cons_of_pos hlists, List.filter_nil,
      List.getLast?_concat] at hw
    cases hw
    simp [Scheduler.accountRound, hselects]

/-- A decision that passes the request over. -/
theorem Tallies.passedOver (h : Tallies id history f) (hselects : v.selects id = false)
    (hpasses : v.passesOver id = true) (hlimit : v.maxBypassCount = p.maxBypassCount) :
    Tallies id (history ++ [v]) (Scheduler.accountRound p false f) := by
  constructor
  · rw [List.countP_append, List.countP_singleton, hselects]
    exact h.observedGrants
  · rw [List.countP_append, List.countP_singleton, hpasses]
    exact toNat_succ h.waitTicks
  · rw [List.rtakeWhile_concat, hselects, Bool.not_false, if_pos rfl, List.countP_append,
      List.countP_singleton, hpasses]
    exact toNat_succ h.consecutiveBypasses
  · intro w hw
    have hlists : v.lists id = true := by rw [Verdict.lists, hpasses, Bool.or_true]
    rw [List.filter_append, List.filter_cons_of_pos hlists, List.filter_nil,
      List.getLast?_concat] at hw
    cases hw
    simp [Scheduler.accountRound, hselects, hlimit]

end Round

end FairnessAccount

/-! ## Runs -/

/-- The accounts hold what the decisions so far say, and no decision lists a request
without a record. -/
structure Scheduler.LedgerAgrees (history : List (Verdict D)) (s : Scheduler D) : Prop where
  filed : ∀ id rec, s.records.find? id = some rec → rec.fairness.Tallies id history
  unfiled : ∀ id, s.records.find? id = none → ∀ v ∈ history, v.lists id = false

namespace Scheduler.LedgerAgrees

variable {history : List (Verdict D)} {s s' : Scheduler D}

theorem fresh (policy : PolicyConfig D) (epoch : CoordinatorEpoch) :
    LedgerAgrees [] (Scheduler.fresh policy epoch) where
  filed id rec hfind := by cases hfind
  unfiled id _ v hv := absurd hv List.not_mem_nil

/-- A call that keeps the accounts takes no decision. -/
theorem kept (h : s.LedgerAgrees history) (hkept : s.AccountsKept s') :
    s'.LedgerAgrees history where
  filed id rec' hfind' := by
    obtain ⟨rec, hfind, hrec⟩ := hkept.find?_new hfind'
    have haccount : rec'.fairness = rec.fairness := hrec
    rw [haccount]
    exact h.filed id rec hfind
  unfiled id hnone' := by
    cases hfind : s.records.find? id with
    | none => exact h.unfiled id hfind
    | some rec =>
        obtain ⟨rec', hfind', -⟩ := hkept.find?_some hfind
        rw [hfind'] at hnone'
        cases hnone'

/-- A submission files a new account, or leaves the record that has its id. -/
theorem submit [Double D] (h : s.LedgerAgrees history) (req : CollectiveRequest D) :
    (s.submit req).1.LedgerAgrees history := by
  rcases s.submit_cases req with ⟨next, e, heq⟩ | ⟨-, -, heq⟩ <;> rw [heq]
  · exact h.kept (.of_records rfl)
  · constructor
    · intro id rec hfind
      rcases FinMap.find?_emplace_cases hfind with hold | ⟨hnone, -, rfl⟩
      · exact h.filed id rec hold
      · exact .new req.fairnessClass (h.unfiled id hnone)
    · intro id hnone
      cases hfind : s.records.find? id with
      | none => exact h.unfiled id hfind
      | some rec =>
          have hkept := FinMap.find?_emplace_of_some hfind s.nextRequestId (s.submittedRecord req)
          exact absurd (hkept.symm.trans hnone) (by simp)

variable [Double D] {recordOrder : List CollectiveRequestId}
  {grantOrder : List CollectiveGrantId} {dec : ScheduleDecision D}

/-- A round adds its decision. -/
theorem schedule (h : s.LedgerAgrees history) (hkeyed : s.Keyed)
    (hdecided : s.schedule recordOrder grantOrder = (s', .ok dec)) :
    s'.LedgerAgrees (history ++ [⟨dec, s.policy.maxBypassCount⟩]) := by
  constructor
  · intro id rec' hfind'
    have hrel := schedule_accounts hkeyed hdecided id
    rw [hfind'] at hrel
    cases hfind : s.records.find? id with
    | none =>
        rw [hfind] at hrel
        cases hrel
    | some rec =>
        rw [hfind] at hrel
        cases hrel with
        | some haccount =>
            rw [haccount]
            have htallies := h.filed id rec hfind
            unfold accountAfter
            split_ifs with hselected hfallback
            · refine htallies.selected (decide_eq_true hselected) (decide_eq_false ?_)
              rw [schedule_fallback hdecided]
              exact fun hmem => of_decide_eq_true (List.mem_filter.mp hmem).2 hselected
            · exact htallies.passedOver (decide_eq_false hselected) (decide_eq_true hfallback) rfl
            · refine htallies.unlisted (Bool.or_eq_false_iff.mpr ?_)
              exact ⟨decide_eq_false hselected, decide_eq_false hfallback⟩
  · intro id hnone'
    have hrel := schedule_accounts hkeyed hdecided id
    rw [hnone'] at hrel
    cases hfind : s.records.find? id with
    | some rec =>
        rw [hfind] at hrel
        cases hrel
    | none =>
        -- a request in the decision has a record
        have hunlisted : ¬(id ∈ dec.selected ∨ id ∈ dec.fallback) := by
          rw [mem_decision_iff hkeyed hdecided, hfind]
          rintro ⟨rec, hsome, -⟩
          cases hsome
        refine List.forall_mem_append.mpr
          ⟨h.unfiled id hfind, List.forall_mem_singleton.mpr (Bool.or_eq_false_iff.mpr ?_)⟩
        exact ⟨decide_eq_false fun hmem => hunlisted (.inl hmem),
          decide_eq_false fun hmem => hunlisted (.inr hmem)⟩

end Scheduler.LedgerAgrees

namespace System

variable [Double D] {y : System D} {history : List (Verdict D)}

/-- Every call keeps the ledger in step with the decisions. -/
theorem next_ledgerAgrees (horderly : y.sched.Orderly) (h : y.sched.LedgerAgrees history)
    (op : Op D) : (y.next op).sched.LedgerAgrees (history ++ (y.verdict op).toList) := by
  have hquiet : op.keepsAccounts = true → y.verdict op = none := by
    intro hop
    cases op <;> first | rfl | cases hop
  by_cases hop : op.keepsAccounts = true
  · rw [hquiet hop, Option.toList_none, List.append_nil]
    exact h.kept (y.next_accountsKept hop)
  cases op with
  | submit req =>
      have hverdict : y.verdict (.submit req) = none := rfl
      rw [hverdict, Option.toList_none, List.append_nil]
      exact h.submit req
  | schedule recordOrder grantOrder =>
      obtain ⟨s, dec, created, hround⟩ :=
        Scheduler.scheduleRound_isOk horderly.settled recordOrder grantOrder
      have hdecided : y.sched.schedule recordOrder grantOrder = (s, .ok dec) := by
        rw [Scheduler.schedule, hround]
        rfl
      have hverdict : y.verdict (.schedule recordOrder grantOrder) =
          some ⟨dec, y.sched.policy.maxBypassCount⟩ := by
        rw [verdict, hdecided]
      rw [hverdict, sched_next_schedule, hround]
      exact h.schedule horderly.keyed hdecided
  | _ => exact absurd rfl hop

/-- A run keeps the ledger in step with its decisions. -/
theorem run_ledgerAgrees (horderly : y.sched.Orderly) (h : y.sched.LedgerAgrees history)
    (ops : List (Op D)) : (y.run ops).sched.LedgerAgrees (history ++ y.history ops) := by
  induction ops generalizing y history with
  | nil =>
      rw [System.history, List.append_nil]
      exact h
  | cons op rest ih =>
      have hrest := ih (next_orderly op horderly) (next_ledgerAgrees horderly h op)
      rw [List.append_assoc] at hrest
      exact hrest

end System

/-- In every run without restore, the account of a request, which `supersede` hands on,
counts the decisions of the run modulo `2 ^ 64`: those that selected it, those that passed
it over, and those that passed it over since the last one that selected it; a request
without a record is in none.  After a decision that listed it, and until the next one that
does, the request is starved exactly when that decision passed it over and its bypasses
have reached the limit that was in force. -/
theorem fairness_ledger_counts_decisions [Double D] (policy : PolicyConfig D)
    (epoch : CoordinatorEpoch) (ops : List (Op D)) (s : Scheduler D) (history : List (Verdict D))
    (hrun : ((System.start policy epoch).run ops).sched = s)
    (hhistory : (System.start policy epoch).history ops = history) (id : CollectiveRequestId) :
    (∀ rec, s.records.find? id = some rec →
      rec.fairness.observedGrants.toNat = history.countP (·.selects id) % 2 ^ 64 ∧
      rec.fairness.waitTicks.toNat = history.countP (·.passesOver id) % 2 ^ 64 ∧
      rec.fairness.consecutiveBypasses.toNat =
        (history.rtakeWhile (!·.selects id)).countP (·.passesOver id) % 2 ^ 64 ∧
      ∀ v, (history.filter (·.lists id)).getLast? = some v →
        (rec.fairness.starved = true ↔
          v.selects id = false ∧ v.maxBypassCount ≤ rec.fairness.consecutiveBypasses)) ∧
    (s.records.find? id = none → ∀ v ∈ history, v.lists id = false) := by
  subst hrun hhistory
  have hledger := System.run_ledgerAgrees (System.start_orderly policy epoch)
    (Scheduler.LedgerAgrees.fresh policy epoch) ops
  refine ⟨fun rec hfind => ?_, hledger.unfiled id⟩
  obtain ⟨hgrants, hwaits, hbypasses, hstarved⟩ := hledger.filed id rec hfind
  exact ⟨hgrants, hwaits, hbypasses, hstarved⟩

/-- Request 2 is passed over, superseded and selected. -/
def Scenario.secondChance : List (Op ℚ) :=
  conflictingRequests ++ [.schedule [] [],
    .supersede { request 2 [2, 3] 2 with id := 2, gen := 2 }, .schedule [] []]

theorem fairness_ledger_counts_decisions_superseded :
    ∃ rec, (Scenario.start.run Scenario.secondChance).sched.records.find? 2 = some rec ∧
      rec.fairness.observedGrants.toNat = 1 ∧ rec.fairness.waitTicks.toNat = 1 ∧
      rec.fairness.consecutiveBypasses.toNat = 0 ∧ rec.fairness.starved = false := by
  obtain ⟨rec, hfind⟩ : ∃ rec,
      (Scenario.start.run Scenario.secondChance).sched.records.find? 2 = some rec :=
    Option.isSome_iff_exists.mp (by decide +kernel)
  have hcounts : ((Scenario.start.history Scenario.secondChance).countP (·.selects 2),
      (Scenario.start.history Scenario.secondChance).countP (·.passesOver 2),
      ((Scenario.start.history Scenario.secondChance).rtakeWhile (!·.selects 2)).countP
        (·.passesOver 2)) = (1, 1, 0) := by
    decide +kernel
  have hlast : (((Scenario.start.history Scenario.secondChance).filter (·.lists 2)).getLast?).any
      (·.selects 2) = true := by
    decide +kernel
  simp only [Prod.mk.injEq] at hcounts
  obtain ⟨v, hv, hselects⟩ := (Option.any_eq_true _ _).mp hlast
  obtain ⟨hgrants, hwaits, hbypasses, hstarved⟩ := (fairness_ledger_counts_decisions
    PolicyConfig.default 1 Scenario.secondChance _ _ rfl rfl 2).1 rec hfind
  change _ = (Scenario.start.history Scenario.secondChance).countP _ % _ at hgrants hwaits
  change _ = ((Scenario.start.history Scenario.secondChance).rtakeWhile _).countP _ % _
    at hbypasses
  rw [hcounts.1] at hgrants
  rw [hcounts.2.1] at hwaits
  rw [hcounts.2.2] at hbypasses
  refine ⟨rec, hfind, hgrants, hwaits, hbypasses, Bool.eq_false_iff.mpr fun htrue => ?_⟩
  have hnot := ((hstarved v hv).mp htrue).1
  rw [hselects] at hnot
  cases hnot

/-! ## A counter that wraps around -/

namespace System

variable [Double D] {y : System D} {id : CollectiveRequestId}

theorem history_append (y : System D) (early late : List (Op D)) :
    y.history (early ++ late) = y.history early ++ (y.run early).history late := by
  induction early generalizing y with
  | nil => rfl
  | cons op rest ih =>
      rw [List.cons_append, System.history, System.history, ih, List.append_assoc]
      rfl

/-- The request is a candidate of every round, and no round selects anything. -/
structure Parked (id : CollectiveRequestId) (y : System D) : Prop where
  orderly : y.sched.Orderly
  closed : y.sched.policy.bounds.maxActiveGrants = 0
  waits : ∃ rec, y.sched.records.find? id = some rec ∧ y.sched.eligible rec = true

/-- The round passes the request over and leaves it parked. -/
theorem Parked.round (h : y.Parked id) (recordOrder : List CollectiveRequestId)
    (grantOrder : List CollectiveGrantId) :
    (y.next (.schedule recordOrder grantOrder)).Parked id ∧
      ∃ v, y.verdict (.schedule recordOrder grantOrder) = some v ∧ v.passesOver id = true := by
  obtain ⟨rec, hfind, heligible⟩ := h.waits
  obtain ⟨s, dec, created, hround⟩ :=
    Scheduler.scheduleRound_isOk h.orderly.settled recordOrder grantOrder
  have hdecided : y.sched.schedule recordOrder grantOrder = (s, .ok dec) := by
    rw [Scheduler.schedule, hround]
    rfl
  have hempty : dec.selected = [] := by
    rw [Scheduler.schedule_selected hdecided]
    by_contra hsome
    have hslots := y.sched.selection_slots hsome
    have hlength := List.length_pos_of_ne_nil hsome
    rw [h.closed] at hslots
    have hzero : (0 : UInt64).toNat = 0 := rfl
    omega
  have hfallback : id ∈ dec.fallback := by
    have hlisted := (Scheduler.mem_decision_iff h.orderly.keyed hdecided).mpr
      ⟨rec, hfind, heligible⟩
    rw [hempty] at hlisted
    exact hlisted.resolve_left List.not_mem_nil
  refine ⟨⟨next_orderly _ h.orderly, ?_, ?_⟩, ⟨dec, y.sched.policy.maxBypassCount⟩, ?_,
    decide_eq_true hfallback⟩
  · rw [y.policy_next rfl]
    exact h.closed
  · obtain ⟨rec', hfind', hrequest, hready⟩ :=
      Scheduler.find?_schedule_of_empty h.orderly hdecided hempty hfind heligible
    have hsetting : (y.next (.schedule recordOrder grantOrder)).sched.setting =
        y.sched.setting := y.setting_next rfl
    rw [sched_next_schedule, hround] at hsetting ⊢
    refine ⟨rec', hfind', ?_⟩
    rw [Scheduler.eligible_congr (Scheduler.evidence_of_setting hsetting)
      (congrArg Scheduler.Setting.now hsetting), Scheduler.eligible_iff, hrequest, hready]
    exact ⟨rfl, (Scheduler.eligible_iff.mp heligible).2⟩
  · rw [verdict, hdecided]

/-- Any number of rounds pass the request over. -/
theorem Parked.rounds (h : y.Parked id) (n : Nat) :
    (y.run (List.replicate n (.schedule [] []))).Parked id ∧
      (y.history (List.replicate n (.schedule [] []))).countP (·.passesOver id) = n := by
  induction n generalizing y with
  | zero => exact ⟨h, rfl⟩
  | succ n ih =>
      obtain ⟨hparked, v, hverdict, hpasses⟩ := h.round [] []
      obtain ⟨hlast, hcount⟩ := ih hparked
      refine ⟨hlast, ?_⟩
      rw [List.replicate_succ, System.history, hverdict, List.countP_append, hcount,
        Option.toList_some, List.countP_singleton, hpasses]
      exact Nat.add_comm 1 n

end System

/-- One request is submitted to a scheduler that may have no active grant. -/
def Scenario.parkedSetup : List (Op ℚ) :=
  [.publishParticipant (participant 1 1 1 11), .publishPlan (plan 1 1 [1]),
    .submit (request 1 [1] 1)]

def Scenario.closedStart : System ℚ :=
  System.start { PolicyConfig.default with bounds := { maxActiveGrants := 0 } } 1

theorem Scenario.parked_setup : (closedStart.run parkedSetup).Parked 1 where
  orderly := System.run_orderly (System.start_orderly _ _) _
  closed := by decide +kernel
  waits := by
    have hwaits : ((closedStart.run parkedSetup).sched.records.find? 1).any
        (closedStart.run parkedSetup).sched.eligible = true := by
      decide +kernel
    exact (Option.any_eq_true _ _).mp hwaits

/-- After `2 ^ 64` rounds that passed it over, the request has waited for none. -/
theorem wait_ticks_wrap_around :
    ((Scenario.closedStart.history (Scenario.parkedSetup ++
        List.replicate (2 ^ 64) (.schedule [] []))).countP (·.passesOver 1) = 2 ^ 64) ∧
      ∃ rec, (Scenario.closedStart.run (Scenario.parkedSetup ++
          List.replicate (2 ^ 64) (.schedule [] []))).sched.records.find? 1 = some rec ∧
        rec.fairness.waitTicks.toNat = 0 := by
  obtain ⟨hparked, hcount⟩ := Scenario.parked_setup.rounds (2 ^ 64)
  have hhistory : (Scenario.closedStart.history (Scenario.parkedSetup ++
      List.replicate (2 ^ 64) (.schedule [] []))).countP (·.passesOver 1) = 2 ^ 64 := by
    rw [System.history_append, List.countP_append, hcount]
    rfl
  have hrun : Scenario.closedStart.run (Scenario.parkedSetup ++
      List.replicate (2 ^ 64) (.schedule [] [])) =
      (Scenario.closedStart.run Scenario.parkedSetup).run
        (List.replicate (2 ^ 64) (.schedule [] [])) := Runs.exec_append ..
  obtain ⟨rec, hfind, -⟩ := hparked.waits
  rw [← hrun] at hfind
  have hledger := System.run_ledgerAgrees (y := Scenario.closedStart)
    (System.start_orderly _ _) (Scheduler.LedgerAgrees.fresh _ _)
    (Scenario.parkedSetup ++ List.replicate (2 ^ 64) (.schedule [] []))
  have hwaits := (hledger.filed 1 rec hfind).waitTicks
  rw [List.nil_append, hhistory, Nat.mod_self] at hwaits
  exact ⟨hhistory, rec, hfind, hwaits⟩

end CollectiveScheduler
