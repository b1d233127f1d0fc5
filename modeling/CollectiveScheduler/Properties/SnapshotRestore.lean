/-
  Properties/SnapshotRestore.lean --- old grants after a snapshot is restored.

  A snapshot holds the counters as they were when it was taken.  Restoring it sets
  the request-id, grant-id and generation counters back together, so a request that
  is submitted afterwards can get the id of one that the snapshot does not hold, and
  the grant of the lost request then passes every check of `handoff` and `complete`
  against the new record (`old_grant_accepted_after_restore`).

  A grant is safe as soon as the snapshot outdates it: the snapshot has given out
  its id, holds its request at its generation or a later one, or is of a later
  epoch.  The module proves that no outdated grant is ever accepted again, in runs
  of calls, saves and restores of any length.
-/
import CollectiveScheduler.System.Barred
import CollectiveScheduler.System.Durable
import CollectiveScheduler.System.Scenario
import CollectiveScheduler.System.World

set_option autoImplicit false

namespace CollectiveScheduler

open Foundation

variable {D : Type}

/-! ## The condition -/

/-- A snapshot of this state is past the grant. -/
def Scheduler.Outdates (t : Scheduler D) (g : CollectiveGrant) : Prop :=
  g.id < t.nextGrantId ∨
  (∃ rec, t.records.find? g.request = some rec ∧ g.requestGen ≤ rec.request.gen) ∨
  g.evidence.epoch < t.epoch

instance (t : Scheduler D) (g : CollectiveGrant) : Decidable (t.Outdates g) :=
  have : Decidable (∃ rec, t.records.find? g.request = some rec ∧
      g.requestGen ≤ rec.request.gen) :=
    decidable_of_iff
      ((t.records.find? g.request).any (fun rec => g.requestGen ≤ rec.request.gen) = true) (by
        rw [Option.any_eq_true]
        simp only [decide_eq_true_eq])
  inferInstanceAs (Decidable (_ ∨ _ ∨ _))

/-- The snapshots with these bytes outdate every grant issued so far. -/
def World.PastSnapshot (w : World D) (bytes : List UInt8) : Prop :=
  ∀ snapshot ∈ w.saved, snapshot.2 = bytes → ∀ g ∈ w.sys.issued, snapshot.1.Outdates g

instance (w : World D) (bytes : List UInt8) : Decidable (w.PastSnapshot bytes) :=
  inferInstanceAs (Decidable (∀ snapshot ∈ w.saved, snapshot.2 = bytes →
    ∀ g ∈ w.sys.issued, snapshot.1.Outdates g))

namespace Action

/-- A restore is given bytes that were saved in the run. -/
def RestoresSaved (w : World D) : Action D → Prop
  | .restore bytes => ∃ snapshot ∈ w.saved, snapshot.2 = bytes
  | .restoreFresh _ _ bytes => ∃ snapshot ∈ w.saved, snapshot.2 = bytes
  | _ => True

/-- A restored snapshot outdates every grant issued so far, and no handoff is
between its two sections in the scheduler that is restored. -/
def RestoresPast (w : World D) : Action D → Prop
  | .restore bytes => w.sys.inFlight = [] ∧ w.PastSnapshot bytes
  | .restoreFresh _ _ bytes => w.PastSnapshot bytes
  | _ => True

instance (w : World D) (a : Action D) : Decidable (a.RestoresSaved w) := by
  rcases a <;> unfold RestoresSaved <;> infer_instance

instance (w : World D) (a : Action D) : Decidable (a.RestoresPast w) := by
  rcases a <;> unfold RestoresPast <;> infer_instance

end Action

/-! ## The invariant -/

section Invariant

variable [Double D]

/-- An outdated grant is barred in the restored state. -/
theorem Scheduler.Outdates.barred {s t : Scheduler D} {g : CollectiveGrant} (h : t.Outdates g) :
    (Persistence.restored s t).Barred g := by
  rcases h with hid | ⟨rec, hfind, hgen⟩ | hepoch
  · exact .inl ⟨hid, rfl⟩
  · have hmap : (Persistence.restored s t).records.find? g.request =
        (t.records.find? g.request).map (fun rec => rec.recoded.recover) :=
      FinMap.find?_mapVals _ _ _
    refine .inr (.inl ⟨rec.recoded.recover, by rw [hmap, hfind, Option.map_some], ?_⟩)
    rcases lt_or_eq_of_le hgen with hlt | heq
    · exact .inl hlt
    · exact .inr ⟨heq, rec.recoded.recover_spent⟩
  · exact .inr (.inr hepoch)

/-- What holds along a run of calls, saves and restores of saved bytes. -/
structure World.Tidy (w : World D) : Prop where
  durable : w.sys.sched.Durable
  saved : ∀ t bytes, (t, bytes) ∈ w.saved →
    t.Durable ∧ ∃ recordOrder, bytes = Persistence.save t recordOrder

/-- The grants issued before the last restore are barred, and those among them that
are being handed off have no entry. -/
structure World.Refused (w : World D) : Prop where
  tidy : w.Tidy
  barred : ∀ g ∈ w.before, w.sys.sched.Barred g
  inFlight : ∀ g ∈ w.before, g ∈ w.sys.inFlight → w.sys.sched.Vacant g.id

theorem World.start_refused (policy : PolicyConfig D) (epoch : CoordinatorEpoch) :
    (World.start policy epoch).Refused where
  tidy := ⟨Scheduler.fresh_durable policy epoch, fun _ _ h => absurd h List.not_mem_nil⟩
  barred _ h := absurd h List.not_mem_nil
  inFlight _ h := absurd h List.not_mem_nil

theorem World.Refused.call {w : World D} (h : w.Refused) (op : Op D) :
    (w.next (.call op)).Refused where
  tidy := ⟨System.next_durable h.tidy.durable op, h.tidy.saved⟩
  barred g hg := System.next_barred (h.barred g hg) op
  inFlight g hg hflight := by
    refine System.next_vacant ?_ op
    rcases System.mem_inFlight_next hflight with hold | hbegin
    · exact h.inFlight g hg hold
    · -- the fabric is asked about a barred grant only when its entry is gone
      rcases h.barred g hg with hvacant | hrest
      · exact hvacant
      · rw [Scheduler.handoffBegin_none_of hrest] at hbegin
        cases hbegin

/-- What a restore of saved bytes leaves behind: the state of the snapshot, or the
state before it threw. -/
theorem World.Tidy.restore {w : World D} (h : w.Tidy) {t : Scheduler D} {bytes : List UInt8}
    (hsaved : (t, bytes) ∈ w.saved) (s : Scheduler D) :
    Persistence.restore s bytes = (Persistence.restored s t, .ok ()) ∨
      ∃ e, Persistence.restore s bytes = (s, .error e) := by
  obtain ⟨hdurable, recordOrder, rfl⟩ := h.saved t bytes hsaved
  rw [Persistence.restore_save s hdurable.storable]
  split_ifs
  · exact .inl rfl
  · exact .inr ⟨_, rfl⟩

theorem World.Refused.afterRestore {w : World D} (h : w.Refused) {s t : Scheduler D}
    {bytes : List UInt8} (hsaved : (t, bytes) ∈ w.saved)
    (hpast : ∀ g ∈ w.sys.issued, t.Outdates g) :
    (w.afterRestore (Persistence.restored s t) []).Refused where
  tidy := ⟨(h.tidy.saved t bytes hsaved).1.restored s, h.tidy.saved⟩
  barred g hg := (hpast g hg).barred
  inFlight _ _ hflight := absurd hflight List.not_mem_nil

theorem World.next_refused {w : World D} {a : Action D} (h : w.Refused)
    (hsaved : a.RestoresSaved w) (hpast : a.RestoresPast w) : (w.next a).Refused := by
  cases a with
  | call op => exact h.call op
  | save recordOrder =>
      refine ⟨⟨h.tidy.durable, fun t bytes hmem => ?_⟩, h.barred, h.inFlight⟩
      rcases List.mem_cons.mp hmem with heq | hmem
      · cases heq
        exact ⟨h.tidy.durable, recordOrder, rfl⟩
      · exact h.tidy.saved t bytes hmem
  | restore bytes =>
      obtain ⟨⟨t, bytes'⟩, hmem, rfl⟩ := hsaved
      obtain ⟨hquiet, hpast⟩ := hpast
      rcases h.tidy.restore hmem w.sys.sched with heq | ⟨e, heq⟩
      · simp only [World.next, heq, hquiet]
        exact h.afterRestore hmem (hpast _ hmem rfl)
      · simp only [World.next, heq]
        exact ⟨⟨h.tidy.durable, h.tidy.saved⟩, h.barred, h.inFlight⟩
  | restoreFresh policy epoch bytes =>
      obtain ⟨⟨t, bytes'⟩, hmem, rfl⟩ := hsaved
      rcases h.tidy.restore hmem (Scheduler.fresh policy epoch) with heq | ⟨e, heq⟩
      · simp only [World.next, heq]
        exact h.afterRestore hmem (hpast _ hmem rfl)
      · simp only [World.next, heq]
        exact h

end Invariant

/-! ## The result -/

/-- In every run of calls, saves and restores of saved bytes, in which every
restored snapshot outdates the grants issued so far, no grant issued before the last
restore is accepted. -/
theorem restored_snapshot_refuses_old_grants [Double D] (policy : PolicyConfig D)
    (epoch : CoordinatorEpoch) (actions : List (Action D))
    (hsaved : Runs.Admissible World.next (fun w a => a.RestoresSaved w)
      (World.start policy epoch) actions)
    (hpast : Runs.Admissible World.next (fun w a => a.RestoresPast w)
      (World.start policy epoch) actions)
    (accepted : Bool) (wb : WorkerBootId) (sb : SourceBootId) :
    let w := (World.start policy epoch).run actions
    ∀ g ∈ w.before,
      w.sys.outcome (.handoff g accepted) = .answered false ∧
      (w.sys.outcome (.handoffEnd g accepted)).isTrue = false ∧
      w.sys.outcome (.complete g wb sb) = .answered false := by
  intro w g hg
  have hrefused : w.Refused :=
    Runs.invariant (I := World.Refused) (fun _ _ h ha => World.next_refused h ha.1 ha.2)
      (World.start_refused policy epoch) (hsaved.and hpast)
  have hbarred := hrefused.barred g hg
  refine ⟨?_, ?_, ?_⟩
  · simp only [System.outcome, System.step, System.ofAnswer, hbarred.handoff_false accepted]
  · simp only [System.outcome, System.step]
    split_ifs with hflight
    · exact (hrefused.inFlight g hg hflight).handoffEnd_false accepted
    · rfl
  · simp only [System.outcome, System.step, System.ofAnswer, hbarred.complete_false wb sb]

/-! ## Concrete runs -/

namespace Scenario

/-- A snapshot of the fresh scheduler, a grant for collective 1, a restore of the
snapshot and a grant for collective 2. -/
def snapshotThenGrant : List (Action ℚ) :=
  .save [] :: (grantOne 1 [1, 2] 1).map .call ++
    .restore (Persistence.save (start : System ℚ).sched []) ::
      (grantOne 2 [2, 3] 2).map .call

/-- A grant for collective 1, and a snapshot taken and restored after it. -/
def grantThenSnapshot : List (Action ℚ) :=
  (grantOne 1 [1, 2] 1).map .call ++
    [.save [],
      .restore (Persistence.save ((start : System ℚ).run (grantOne 1 [1, 2] 1)).sched [])]

end Scenario

/-- The grant of collective 1, issued before the restore, is handed off and
completes the request of collective 2. -/
theorem old_grant_accepted_after_restore :
    let w := (World.start (PolicyConfig.default : PolicyConfig ℚ) 1).run Scenario.snapshotThenGrant
    ∃ g ∈ w.before,
      g.collective = ⟨1⟩ ∧
      (w.sys.sched.records.find? g.request).map (·.request.collective) = some ⟨2⟩ ∧
      w.sys.outcome (.handoff g true) = .answered true ∧
      (w.sys.next (.handoff g true)).outcome (.complete g 11 100) = .answered true := by
  decide +kernel

/-- A snapshot that is taken after the grant outdates it. -/
theorem restored_snapshot_refuses_old_grants_saved_later :
    let w := (World.start (PolicyConfig.default : PolicyConfig ℚ) 1).run
      Scenario.grantThenSnapshot
    ∃ g ∈ w.before, w.sys.outcome (.complete g 11 100) = .answered false := by
  intro w
  have hrefuse := restored_snapshot_refuses_old_grants PolicyConfig.default 1
    Scenario.grantThenSnapshot (by decide +kernel) (by decide +kernel) true 11 100
  obtain ⟨g, hg⟩ : ∃ g, g ∈ w.before := List.exists_mem_of_ne_nil _ (by decide +kernel)
  exact ⟨g, hg, (hrefuse g hg).2.2⟩

end CollectiveScheduler
