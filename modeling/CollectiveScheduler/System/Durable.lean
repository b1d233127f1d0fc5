/-
  System/Durable.lean --- the states a snapshot can hold.

  A state is durable when its records are orderly and their number fits the count
  of the format.  Every call keeps a state durable, and so does restoring a
  snapshot of a durable state, so that `restore_save` applies along whole runs.
-/
import CollectiveScheduler.Persistence.Snapshot
import CollectiveScheduler.System.RecordStep

set_option autoImplicit false

namespace CollectiveScheduler

open Foundation

variable {D : Type}

/-- The records are orderly, and there are fewer than `2 ^ 64`. -/
structure Scheduler.Durable (s : Scheduler D) : Prop where
  orderly : s.Orderly
  size : s.records.size < 2 ^ 64

theorem Scheduler.Durable.storable {s : Scheduler D} (h : s.Durable) : s.Storable where
  keyed := h.orderly.keyed
  wellFormed id rec hfind := (h.orderly id rec hfind).wellFormed
  size := h.size

theorem Scheduler.fresh_durable (policy : PolicyConfig D) (epoch : CoordinatorEpoch) :
    (Scheduler.fresh policy epoch).Durable where
  orderly := System.start_orderly policy epoch
  size := by
    change (FinMap.empty : FinMap CollectiveRequestId (Record D)).size < 2 ^ 64
    rw [FinMap.size_empty]
    decide

/-! ## Calls -/

/-- Only a submission adds a record, and no call removes one. -/
theorem RecordStep.isSome_eq {op : Op D} {id : CollectiveRequestId}
    {before after : Option (Record D)} (h : RecordStep op id before after)
    (hop : ∀ req, op ≠ .submit req) : before.isSome = after.isSome := by
  cases h with
  | absent => rfl
  | filed hsubmit _ _ _ _ => exact absurd hsubmit (hop _)
  | carried _ => rfl
  | replaced _ _ _ _ => rfl

section Calls

variable [Double D]

/-- The bound on the number of collectives is a 64-bit number. -/
theorem Scheduler.submit_size {s : Scheduler D} (h : s.records.size < 2 ^ 64)
    (req : CollectiveRequest D) : (s.submit req).1.records.size < 2 ^ 64 := by
  rcases s.submit_cases req with ⟨next, e, heq⟩ | ⟨hbound, -, heq⟩
  · rw [heq]
    exact h
  · rw [heq]
    simp only
    have hmax := UInt64.toNat_lt s.policy.bounds.maxCollectives
    cases hfind : s.records.find? s.nextRequestId with
    | none =>
        rw [FinMap.size_emplace _ hfind]
        omega
    | some rec =>
        have hkept : s.records.emplace s.nextRequestId (s.submittedRecord req) = s.records := by
          unfold FinMap.emplace
          rw [if_pos (by rw [FinMap.contains, hfind]; rfl)]
        rw [hkept]
        exact h

theorem System.next_durable {y : System D} (h : y.sched.Durable) (op : Op D) :
    (y.next op).sched.Durable where
  orderly := System.next_orderly op h.orderly
  size := by
    by_cases hop : ∃ req, op = .submit req
    · obtain ⟨req, rfl⟩ := hop
      exact Scheduler.submit_size h.size req
    · have hsize : y.sched.records.size = (y.next op).sched.records.size :=
        FinMap.size_congr fun id =>
          (y.recordStep op id).isSome_eq fun req heq => hop ⟨req, heq⟩
      exact hsize ▸ h.size

/-- The store does not grow past the bound on the collectives. -/
theorem System.size_next_le (y : System D) (op : Op D) :
    (y.next op).sched.records.size ≤
      max y.sched.records.size y.sched.policy.bounds.maxCollectives.toNat := by
  by_cases hop : ∃ req, op = .submit req
  · obtain ⟨req, rfl⟩ := hop
    rw [sched_next_submit]
    rcases y.sched.submit_cases req with ⟨next, e, heq⟩ | ⟨hbound, -, heq⟩ <;> rw [heq]
    · exact le_max_left _ _
    · cases hfind : y.sched.records.find? y.sched.nextRequestId with
      | none =>
          refine le_max_of_le_right ?_
          rw [FinMap.size_emplace _ hfind]
          exact hbound
      | some rec =>
          refine le_max_of_le_left (FinMap.size_congr fun id => ?_).ge
          rw [FinMap.find?_emplace]
          split_ifs with hid
          · rw [hid, hfind]
            rfl
          · rfl
  · refine le_max_of_le_left (FinMap.size_congr fun id => ?_).ge
    exact (y.recordStep op id).isSome_eq fun req heq => hop ⟨req, heq⟩

end Calls

/-! ## Restores -/

section Restores

variable [Double D]

theorem CollectiveRequest.WellFormed.recoded {r : CollectiveRequest D} (h : r.WellFormed) :
    r.recoded.WellFormed where
  nonempty := h.nonempty
  nodup := h.nodup
  parallel := h.parallel
  participants := h.participants
  payload := h.payload
  claims := by
    change (r.resourceClaims.map (·.recoded)).length < 2 ^ 64
    rw [List.length_map]
    exact h.claims
  dependencies := by
    change (r.dependencies.map (·.recoded)).length < 2 ^ 64
    rw [List.length_map]
    exact h.dependencies

theorem Record.Orderly.recoded {id : CollectiveRequestId} {rec : Record D} (h : rec.Orderly id) :
    rec.recoded.Orderly id :=
  ⟨h.keyed, h.wellFormed.recoded, h.atRest⟩

namespace Scheduler.Durable

theorem restored (s : Scheduler D) {t : Scheduler D} (h : t.Durable) :
    (Persistence.restored s t).Durable where
  orderly := by
    intro id rec hfind
    have hmap : (Persistence.restored s t).records.find? id =
        (t.records.find? id).map (fun rec => rec.recoded.recover) := FinMap.find?_mapVals _ _ _
    rw [hmap] at hfind
    obtain ⟨rec₀, hfind₀, rfl⟩ := Option.map_eq_some_iff.mp hfind
    exact (h.orderly id rec₀ hfind₀).recoded.carried (Record.carried_recover _)
  size := by
    change (t.records.mapVals _).size < 2 ^ 64
    rw [FinMap.size_mapVals]
    exact h.size

/-- A restore of a snapshot of a durable state leaves a durable state, whether it
throws or not. -/
theorem restore_save {s t : Scheduler D} (hs : s.Durable) (ht : t.Durable)
    (recordOrder : List CollectiveRequestId) :
    (Persistence.restore s (Persistence.save t recordOrder)).1.Durable := by
  rw [Persistence.restore_save s ht.storable]
  split_ifs
  · exact ht.restored s
  · exact hs

end Scheduler.Durable

end Restores

end CollectiveScheduler
