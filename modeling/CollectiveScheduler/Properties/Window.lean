/-
  Properties/Window.lean --- the window checks against unbounded time.

  The clock is a 64-bit sum of the durations passed to `advanceTime`, and the deadline check
  adds the expected duration to it in 64 bits.  A selected request has its window in
  unbounded time if and only if neither sum has wrapped where it is used: the earliest start
  never suffers, the latest start needs the clock, and the deadline needs the sum.
-/
import CollectiveScheduler.Properties.HardEligibility
import CollectiveScheduler.System.EvidenceStep

set_option autoImplicit false

namespace CollectiveScheduler

open Foundation

variable {D : Type}

/-! ## Unbounded time -/

section Time

variable [Double D]

/-- The unbounded time after an action: `advanceTime` adds to it, and a scheduler that takes
over starts at zero. -/
def World.elapse (time : Nat) : Action D → Nat
  | .call op => time + op.elapsed.toNat
  | .save _ => time
  | .restore _ => time
  | .restoreFresh policy epoch bytes =>
      match (Persistence.restore (Scheduler.fresh policy epoch) bytes).2 with
      | .ok () => 0
      | .error _ => time

/-- The sum of all durations passed to `advanceTime` in a run. -/
def World.elapsed (actions : List (Action D)) : Nat := Runs.exec World.elapse 0 actions

theorem Scheduler.now_restore (s : Scheduler D) (bytes : List UInt8) :
    (Persistence.restore s bytes).1.now = s.now := by
  unfold Persistence.restore
  split
  · rfl
  · split
    · rfl
    · split_ifs <;> rfl

/-- The clock shows the time, as far as 64 bits go. -/
def World.Shows (w : World D) (time : Nat) : Prop := w.sys.sched.now = UInt64.ofNat time

theorem World.Shows.next {w : World D} {time : Nat} (h : w.Shows time) (a : Action D) :
    (w.next a).Shows (World.elapse time a) := by
  cases a with
  | call op =>
      change (w.sys.next op).sched.now = UInt64.ofNat (time + op.elapsed.toNat)
      rw [System.now_next, h, UInt64.ofNat_add, UInt64.ofNat_toNat]
  | save recordOrder => exact h
  | restore bytes =>
      have hnow := w.sys.sched.now_restore bytes
      unfold World.Shows World.next
      simp only
      split <;> rename_i hcase <;> rw [hcase] at hnow <;> exact hnow.trans h
  | restoreFresh policy epoch bytes =>
      have hnow := (Scheduler.fresh policy epoch).now_restore bytes
      unfold World.Shows World.next World.elapse
      simp only
      split <;> rename_i hcase <;> rw [hcase] at hnow ⊢
      · exact hnow
      · exact h

theorem World.shows_run (policy : PolicyConfig D) (epoch : CoordinatorEpoch)
    (actions : List (Action D)) :
    ((World.start policy epoch).run actions).Shows (World.elapsed actions) := by
  have hrun : ∀ {w : World D} {time : Nat}, w.Shows time →
      (w.run actions).Shows (Runs.exec World.elapse time actions) := by
    induction actions with
    | nil => exact fun h => h
    | cons a rest ih => exact fun h => ih (h.next a)
  exact hrun rfl

end Time

/-! ## Windows -/

namespace SchedulingWindow

/-- A start at this time keeps the window, in unbounded integers. -/
structure Respected (w : SchedulingWindow) (time : Nat) : Prop where
  earliest : w.earliestStartNs.toNat ≤ time
  latest : w.latestStartNs ≠ 0 → time ≤ w.latestStartNs.toNat
  deadline : w.deadlineNs ≠ 0 → time + w.expectedDurationNs.toNat ≤ w.deadlineNs.toNat

/-- The sums that the window is checked with fit into 64 bits. -/
structure Fits (w : SchedulingWindow) (time : Nat) : Prop where
  clock : w.latestStartNs ≠ 0 → time < 2 ^ 64
  sum : w.deadlineNs ≠ 0 → time + w.expectedDurationNs.toNat < 2 ^ 64

/-- What the window checks establish of the clock. -/
theorem of_not_outsideWindow {now : Nanoseconds} {w : SchedulingWindow}
    (h : Scheduler.outsideWindow now w = false) :
    w.earliestStartNs.toNat ≤ now.toNat ∧
      (w.latestStartNs ≠ 0 → now.toNat ≤ w.latestStartNs.toNat) ∧
      (w.deadlineNs ≠ 0 → (now + w.expectedDurationNs).toNat ≤ w.deadlineNs.toNat) := by
  simp only [Scheduler.outsideWindow, Bool.or_eq_false_iff, Bool.and_eq_false_iff,
    bne_eq_false_iff_eq, decide_eq_false_iff_not, gt_iff_lt, UInt64.not_lt] at h
  obtain ⟨⟨hearliest, hlatest⟩, hdeadline⟩ := h
  refine ⟨?_, fun hne => UInt64.le_iff_toNat_le.mp (hlatest.resolve_left hne),
    fun hne => UInt64.le_iff_toNat_le.mp (hdeadline.resolve_left hne)⟩
  rcases hearliest with hzero | hle
  · rw [hzero]
    exact Nat.zero_le _
  · exact UInt64.le_iff_toNat_le.mp hle

/-- A window that passes the checks is kept exactly when the sums fit: a bound that is met
is itself below 2^64. -/
theorem respected_iff_fits {w : SchedulingWindow} {time : Nat}
    (h : Scheduler.outsideWindow (UInt64.ofNat time) w = false) :
    w.Respected time ↔ w.Fits time := by
  obtain ⟨hearliest, hlatest, hdeadline⟩ := of_not_outsideWindow h
  rw [UInt64.toNat_ofNat'] at hearliest hlatest
  rw [UInt64.toNat_add, UInt64.toNat_ofNat', Nat.mod_add_mod] at hdeadline
  constructor
  · rintro ⟨-, hbefore, hinTime⟩
    exact ⟨fun hne => lt_of_le_of_lt (hbefore hne) w.latestStartNs.toNat_lt,
      fun hne => lt_of_le_of_lt (hinTime hne) w.deadlineNs.toNat_lt⟩
  · rintro ⟨hclock, hsum⟩
    refine ⟨hearliest.trans (Nat.mod_le _ _), fun hne => ?_, fun hne => ?_⟩
    · rw [← Nat.mod_eq_of_lt (hclock hne)]
      exact hlatest hne
    · rw [← Nat.mod_eq_of_lt (hsum hne)]
      exact hdeadline hne

end SchedulingWindow

/-! ## Selected requests -/

/-- Whatever the run and whatever the request names, a selected request is inside its window
in unbounded time if and only if the sums behind its checks fit into 64 bits. -/
theorem selected_in_window_iff [Double D] (policy : PolicyConfig D) (epoch : CoordinatorEpoch)
    (actions : List (Action D)) (recordOrder : List CollectiveRequestId)
    (grantOrder : List CollectiveGrantId) (s' : Scheduler D) (dec : ScheduleDecision D)
    (hdecided : ((World.start policy epoch).run actions).sys.sched.schedule recordOrder
      grantOrder = (s', .ok dec))
    (id : CollectiveRequestId) (hid : id ∈ dec.selected) :
    ∃ rec, ((World.start policy epoch).run actions).sys.sched.records.find? id = some rec ∧
      (rec.request.window.Respected (World.elapsed actions) ↔
        rec.request.window.Fits (World.elapsed actions)) := by
  obtain ⟨rec, hfind, heligible⟩ :=
    (Scheduler.mem_decision_iff (World.run_keyed policy epoch actions) hdecided).mp (.inl hid)
  refine ⟨rec, hfind, SchedulingWindow.respected_iff_fits ?_⟩
  rw [← World.shows_run policy epoch actions]
  exact (Scheduler.hardEligible_none (Scheduler.eligible_iff.mp heligible).2.2).1

/-! ### Runs with a window -/

namespace Scenario

/-- A request with a window is submitted, and some durations pass. -/
def timedCalls (window : SchedulingWindow) (durations : List Nanoseconds) : List (Op ℚ) :=
  [.publishParticipant (participant 1 1 1 11), .publishPlan (plan 1 1 [1]),
    .submit { request 1 [1] 1 with window := window }] ++ durations.map .advanceTime

def timed (window : SchedulingWindow) (durations : List Nanoseconds) : List (Action ℚ) :=
  (timedCalls window durations).map .call

/-- The scheduler after it. -/
def timedState (window : SchedulingWindow) (durations : List Nanoseconds) : Scheduler ℚ :=
  ((World.start PolicyConfig.default 1).run (timed window durations)).sys.sched

/-- The run selects a request that has this window, after this time. -/
structure SelectsAt (window : SchedulingWindow) (durations : List Nanoseconds) (time : Nat) :
    Prop where
  selected : selects (timedState window durations) [1] = true
  request : ((timedState window durations).records.find? 1).map (·.request.window) = some window
  elapsed : World.elapsed (timed window durations) = time

instance (window : SchedulingWindow) (durations : List Nanoseconds) (time : Nat) :
    Decidable (SelectsAt window durations time) :=
  decidable_of_iff (_ ∧ _ ∧ _) ⟨fun h => ⟨h.1, h.2.1, h.2.2⟩, fun h => ⟨h.1, h.2, h.3⟩⟩

/-- A window that is open at time 10. -/
def openWindow : SchedulingWindow :=
  { earliestStartNs := 5, latestStartNs := 20, deadlineNs := 30, expectedDurationNs := 12 }

/-- A deadline that has passed at time 10, and a duration with which the sum wraps. -/
def missedDeadline : SchedulingWindow :=
  { deadlineNs := 5, expectedDurationNs := 18446744073709551608 }

/-- A latest start, long passed when the clock has wrapped. -/
def missedStart : SchedulingWindow := { latestStartNs := 1 }

end Scenario

/-- At time 10 a request is selected inside its window. -/
theorem selected_in_window_iff_open :
    ∃ s' dec rec, (Scenario.timedState Scenario.openWindow [3, 7]).schedule [] [] = (s', .ok dec) ∧
      1 ∈ dec.selected ∧
      (Scenario.timedState Scenario.openWindow [3, 7]).records.find? 1 = some rec ∧
      rec.request.window.Respected 10 := by
  have hrun : Scenario.SelectsAt Scenario.openWindow [3, 7] 10 := by decide +kernel
  obtain ⟨s', dec, hdecided, hselected⟩ := Scenario.exists_of_selects _ _ hrun.selected
  have hid : (1 : CollectiveRequestId) ∈ dec.selected := hselected ▸ List.mem_singleton_self 1
  obtain ⟨rec, hfind, hiff⟩ := selected_in_window_iff _ _ _ [] [] s' dec hdecided 1 hid
  have hwindow : some rec.request.window = some Scenario.openWindow := by
    rw [← hrun.request, Scenario.timedState, hfind, Option.map_some]
  rw [hrun.elapsed, Option.some.inj hwindow] at hiff
  refine ⟨s', dec, rec, hdecided, hid, hfind, ?_⟩
  rw [Option.some.inj hwindow]
  exact hiff.mpr ⟨fun _ => by decide, fun _ => by decide⟩

/-- A request is selected at time 10 with deadline 5, because the deadline sum wraps; and
another at time 2^64 with latest start 1, because the clock has wrapped. -/
theorem selected_outside_window :
    Scenario.SelectsAt Scenario.missedDeadline [10] 10 ∧
      ¬Scenario.missedDeadline.Respected 10 ∧
      Scenario.SelectsAt Scenario.missedStart [9223372036854775808, 9223372036854775808] (2 ^ 64) ∧
      ¬Scenario.missedStart.Respected (2 ^ 64) :=
  ⟨by decide +kernel, fun h => absurd (h.deadline (by decide)) (by decide),
    by decide +kernel, fun h => absurd (h.latest (by decide)) (by decide)⟩

end CollectiveScheduler
