/-
  System/World.lean --- a scheduler with its snapshots.

  Besides the calls of `System`, a run here may save a snapshot, restore bytes
  into the scheduler, and restore bytes into a fresh scheduler that then takes
  over.  Ghost components record the snapshots that were saved, the grants that
  were issued before the last restore, and where in the history of issued grants
  the last restore stands.  A restore that throws counts as one there, since it
  can leave the state of the bytes behind.
-/
import CollectiveScheduler.Persistence.Snapshot
import CollectiveScheduler.System.RecordStep

set_option autoImplicit false

namespace CollectiveScheduler

open Foundation

/-- What can happen to a scheduler with persistence. -/
inductive Action (D : Type) where
  | call (op : Op D)
  | save (recordOrder : List CollectiveRequestId)
  | restore (bytes : List UInt8)
  /-- a restore into a fresh scheduler, which takes over unless it throws -/
  | restoreFresh (policy : PolicyConfig D) (epoch : CoordinatorEpoch) (bytes : List UInt8)

/-- The bytes an action restores. -/
def Action.bytes? {D : Type} : Action D → Option (List UInt8)
  | .restore bytes => some bytes
  | .restoreFresh _ _ bytes => some bytes
  | _ => none

/-- A scheduler, the history its callers have seen and its snapshots. -/
structure World (D : Type) where
  sys : System D
  /-- the states that were saved, with their snapshots -/
  saved : List (Scheduler D × List UInt8) := []
  /-- the grants issued before the last restore that returned -/
  before : List CollectiveGrant := []
  /-- how many grants were issued before the last restore, returned or thrown -/
  mark : Nat := 0

namespace World

variable {D : Type}

/-- A fresh scheduler without snapshots. -/
def start (policy : PolicyConfig D) (epoch : CoordinatorEpoch) : World D where
  sys := System.start policy epoch

/-- The scheduler was replaced by a restored one. -/
def afterRestore (w : World D) (s : Scheduler D) (inFlight : List CollectiveGrant) : World D :=
  { w with
    sys := { w.sys with sched := s, inFlight := inFlight }
    before := w.sys.issued
    mark := w.sys.issued.length }

/-- The grants issued since the last restore. -/
def issuedSinceRestore (w : World D) : List CollectiveGrant := w.sys.issued.drop w.mark

variable [Double D]

/-- One action. -/
def next (w : World D) : Action D → World D
  | .call op => { w with sys := w.sys.next op }
  | .save recordOrder =>
      { w with saved := (w.sys.sched, Persistence.save w.sys.sched recordOrder) :: w.saved }
  | .restore bytes =>
      match Persistence.restore w.sys.sched bytes with
      | (s, .ok ()) => w.afterRestore s w.sys.inFlight
      | (s, .error _) => { w with sys := { w.sys with sched := s }, mark := w.sys.issued.length }
  | .restoreFresh policy epoch bytes =>
      match Persistence.restore (Scheduler.fresh policy epoch) bytes with
      | (s, .ok ()) => w.afterRestore s []
      | (_, .error _) => w

/-- The world after a run. -/
def run (w : World D) (actions : List (Action D)) : World D := Runs.exec next w actions

end World

/-! ## Records stay under their ids -/

variable {D : Type}

/-- The bytes pass the checks of the envelope, and an image is read from them. -/
def Persistence.Reads [Double D] (bytes : List UInt8) (image : StateImage D) : Prop :=
  ∃ state bound rest, checkEnvelope bytes = .ok state ∧
    Scheduler.deserializeState bound state.length state = .ok (image, rest)

namespace Scheduler

theorem Keyed.install (s : Scheduler D) (image : StateImage D) : (s.install image).Keyed := by
  intro id rec hfind
  have hfiled : (image.records.foldl (fun m rec => m.emplace rec.request.id rec)
      FinMap.empty).find? id = some rec := hfind
  rw [FinMap.find?_foldl_emplace (fun rec : Record D => rec.request.id), FinMap.find?_empty,
    Option.none_or] at hfiled
  simpa using List.find?_some hfiled

theorem Keyed.reset {s : Scheduler D} (h : s.Keyed) : s.resetDynamicStateForRecovery.Keyed := by
  intro id rec hfind
  have hmap : s.resetDynamicStateForRecovery.records.find? id =
      (s.records.find? id).map (fun rec => rec.recover) := FinMap.find?_mapVals _ _ _
  rw [hmap] at hfind
  obtain ⟨rec₀, hfind₀, rfl⟩ := Option.map_eq_some_iff.mp hfind
  exact h id rec₀ hfind₀

/-- Whatever the bytes are, a restore files the records under their ids. -/
theorem Keyed.restore [Double D] {s : Scheduler D} (h : s.Keyed) (bytes : List UInt8) :
    (Persistence.restore s bytes).1.Keyed := by
  unfold Persistence.restore
  split
  · exact h
  · split
    · exact h
    · split_ifs
      · exact Keyed.install s _
      · exact (Keyed.install s _).reset

/-- What the records of the bytes have, and recovery keeps, every record of a restored
scheduler has. -/
theorem restore_records_of_image [Double D] {P : Record D → Prop} {s : Scheduler D}
    {bytes : List UInt8} (hold : ∀ id rec, s.records.find? id = some rec → P rec)
    (himage : ∀ image : StateImage D, Persistence.Reads bytes image → ∀ rec ∈ image.records, P rec)
    (hrecover : ∀ rec : Record D, P rec → P rec.recover) :
    ∀ id rec, (Persistence.restore s bytes).1.records.find? id = some rec → P rec := by
  have hinstall : ∀ {image : StateImage D}, Persistence.Reads bytes image →
      ∀ id rec, (s.install image).records.find? id = some rec → P rec := by
    intro image hreads id rec hfind
    have hfiled : (image.records.foldl (fun m rec => m.emplace rec.request.id rec)
        FinMap.empty).find? id = some rec := hfind
    rw [FinMap.find?_foldl_emplace (fun rec : Record D => rec.request.id), FinMap.find?_empty,
      Option.none_or] at hfiled
    exact himage image hreads rec (List.mem_of_find?_eq_some hfiled)
  unfold Persistence.restore
  split
  · exact hold
  · rename_i state henvelope
    split
    · exact hold
    · rename_i image rest hstate
      have hreads : Persistence.Reads bytes image := ⟨state, _, rest, henvelope, hstate⟩
      split_ifs
      · exact hinstall hreads
      · intro id rec hfind
        have hmap : (s.install image).resetDynamicStateForRecovery.records.find? id =
            ((s.install image).records.find? id).map (fun rec => rec.recover) :=
          FinMap.find?_mapVals _ _ _
        rw [hmap] at hfind
        obtain ⟨rec₀, hfind₀, rfl⟩ := Option.map_eq_some_iff.mp hfind
        exact hrecover rec₀ (hinstall hreads id rec₀ hfind₀)

/-- What every record has that is read from bytes, and recovery keeps, every record of a
restored scheduler has. -/
theorem restore_records [Double D] {P : Record D → Prop} {s : Scheduler D} (bytes : List UInt8)
    (hold : ∀ id rec, s.records.find? id = some rec → P rec)
    (hread : Reader.Yields (deserializeRecord (D := D)) P)
    (hrecover : ∀ rec : Record D, P rec → P rec.recover) :
    ∀ id rec, (Persistence.restore s bytes).1.records.find? id = some rec → P rec := by
  refine restore_records_of_image hold ?_ hrecover
  rintro image ⟨state, bound, rest, -, hstate⟩
  exact yields_deserializeState hread bound state.length state image rest hstate

end Scheduler

/-! ## Runs of actions -/

/-- What the restore and the call of the action keep, the action keeps. -/
theorem World.next_keeps [Double D] {P : Scheduler D → Prop}
    (hfresh : ∀ policy epoch, P (Scheduler.fresh policy epoch)) {w : World D}
    (h : P w.sys.sched) {a : Action D}
    (hrestore : ∀ s, ∀ bytes ∈ a.bytes?, P s → P (Persistence.restore s bytes).1)
    (hcall : ∀ op, a = .call op → P (w.sys.next op).sched) : P (w.next a).sys.sched := by
  cases a with
  | call op => exact hcall op rfl
  | save recordOrder => exact h
  | restore bytes =>
      have hafter := hrestore w.sys.sched bytes rfl h
      unfold World.next
      simp only
      split <;> rename_i hcase <;> rw [hcase] at hafter <;> exact hafter
  | restoreFresh policy epoch bytes =>
      have hafter := hrestore _ bytes rfl (hfresh policy epoch)
      unfold World.next
      simp only
      split
      · rename_i hcase
        rw [hcase] at hafter
        exact hafter
      · exact h

/-- What calls and restores keep, every action keeps. -/
theorem World.next_invariant [Double D] {P : Scheduler D → Prop}
    (hfresh : ∀ policy epoch, P (Scheduler.fresh policy epoch))
    (hcall : ∀ (y : System D) op, P y.sched → P (y.next op).sched)
    (hrestore : ∀ s bytes, P s → P (Persistence.restore s bytes).1) {w : World D}
    (h : P w.sys.sched) (a : Action D) : P (w.next a).sys.sched :=
  World.next_keeps hfresh h (fun s bytes _ hs => hrestore s bytes hs) fun op _ => hcall w.sys op h

/-- Some run of calls, saves and restores leads to the state. -/
def Scheduler.Reached [Double D] (s : Scheduler D) : Prop :=
  ∃ policy epoch actions, ((World.start policy epoch).run actions).sys.sched = s

/-- What a fresh scheduler has and calls and restores keep, every reached state has. -/
theorem Scheduler.Reached.invariant [Double D] {P : Scheduler D → Prop}
    (hfresh : ∀ policy epoch, P (Scheduler.fresh policy epoch))
    (hcall : ∀ (y : System D) op, P y.sched → P (y.next op).sched)
    (hrestore : ∀ s bytes, P s → P (Persistence.restore s bytes).1) {s : Scheduler D}
    (h : s.Reached) : P s := by
  obtain ⟨policy, epoch, actions, rfl⟩ := h
  exact Runs.exec_induct (P := fun w : World D => P w.sys.sched)
    (fun _ a hw => World.next_invariant hfresh hcall hrestore hw a) actions (hfresh policy epoch)

theorem World.next_keyed [Double D] {w : World D} (h : w.sys.sched.Keyed) (a : Action D) :
    (w.next a).sys.sched.Keyed :=
  World.next_invariant (P := Scheduler.Keyed) (fun _ _ id rec hfind => by cases hfind)
    (fun y op hy id => (y.recordStep op id).keyed (hy id)) (fun _ bytes hs => hs.restore bytes)
    h a

theorem Scheduler.Reached.keyed [Double D] {s : Scheduler D} (h : s.Reached) : s.Keyed :=
  h.invariant (fun _ _ id rec hfind => by cases hfind)
    (fun y op hy id => (y.recordStep op id).keyed (hy id)) fun _ bytes hs => hs.restore bytes

theorem World.run_keyed [Double D] (policy : PolicyConfig D) (epoch : CoordinatorEpoch)
    (actions : List (Action D)) : ((World.start policy epoch).run actions).sys.sched.Keyed :=
  Scheduler.Reached.keyed ⟨policy, epoch, actions, rfl⟩

/-! ## The history since the last restore -/

/-- A call does not read what was issued before it. -/
theorem System.next_drop_issued [Double D] (y : System D) {n : Nat} (hn : n ≤ y.issued.length)
    (op : Op D) : ({ y with issued := y.issued.drop n } : System D).next op =
      { y.next op with issued := (y.next op).issued.drop n } := by
  cases op with
  | schedule recordOrder grantOrder =>
      unfold System.next System.step
      simp only
      split
      · simp only [List.drop_append_of_le_length hn]
      · rfl
  | handoffBegin g =>
      unfold System.next System.step
      simp only
      split <;> rfl
  | handoffEnd g accepted =>
      unfold System.next System.step
      simp only
      split_ifs <;> rfl
  | _ => rfl

/-- The scheduler with what was issued since the last restore for its history. -/
def World.sinceRestore (w : World D) : System D := { w.sys with issued := w.issuedSinceRestore }

/-- The history since the last restore has a property. -/
structure World.HistoryHas (P : System D → Prop) (w : World D) : Prop where
  keyed : w.sys.sched.Keyed
  mark : w.mark ≤ w.sys.issued.length
  since : P w.sinceRestore

section History

variable [Double D] {P : System D → Prop}
  (hrestored : ∀ y : System D, y.sched.Keyed → y.issued = [] → P y)
  (hcall : ∀ (y : System D) op, P y → P (y.next op))

include hrestored hcall

theorem World.next_historyHas {w : World D} (h : w.HistoryHas P) (a : Action D) :
    (w.next a).HistoryHas P := by
  have hnext := World.next_keyed h.keyed a
  cases a with
  | call op =>
      refine ⟨hnext, h.mark.trans ?_, ?_⟩
      · rcases w.sys.issued_next op with hsame | ⟨_, _, _, _, created, -, -, heq⟩
        · exact hsame ▸ le_refl _
        · change _ ≤ (w.sys.next op).issued.length
          rw [heq, List.length_append]
          exact Nat.le_add_right _ _
      · have hsince : (w.next (.call op)).sinceRestore = w.sinceRestore.next op :=
          (w.sys.next_drop_issued h.mark op).symm
        rw [hsince]
        exact hcall _ op h.since
  | save recordOrder => exact ⟨hnext, h.mark, h.since⟩
  | restore bytes =>
      unfold World.next at hnext ⊢
      simp only at hnext ⊢
      split at hnext <;> exact ⟨hnext, le_refl _, hrestored _ hnext List.drop_length⟩
  | restoreFresh policy epoch bytes =>
      unfold World.next at hnext ⊢
      simp only at hnext ⊢
      split at hnext
      · exact ⟨hnext, le_refl _, hrestored _ hnext List.drop_length⟩
      · exact h

/-- What holds of a state without a history and calls keep, holds after every run with the
history since the last restore. -/
theorem World.run_sinceRestore (policy : PolicyConfig D) (epoch : CoordinatorEpoch)
    (actions : List (Action D)) : P ((World.start policy epoch).run actions).sinceRestore := by
  have hstart := World.run_keyed policy epoch []
  exact (Runs.exec_induct (P := World.HistoryHas P)
    (fun _ a hw => World.next_historyHas hrestored hcall hw a) actions
    ⟨hstart, Nat.zero_le _, hrestored _ hstart rfl⟩).since

end History

/-- The scheduler after calls under the default policy, at epoch 1. -/
def World.afterCalls [Double D] (ops : List (Op D)) : Scheduler D :=
  ((World.start PolicyConfig.default 1).run (ops.map .call)).sys.sched

theorem World.reached_afterCalls [Double D] (ops : List (Op D)) :
    (World.afterCalls ops).Reached :=
  ⟨PolicyConfig.default, 1, _, rfl⟩

end CollectiveScheduler
