/-
  Properties/RestoreAtomicity.lean --- a restore that throws.

  `deserializeState` reads everything it needs before it assigns anything, so a
  snapshot that ends too early, holds too many records or holds a bad lifecycle byte
  leaves the scheduler alone.  The check for the end of the input comes after the
  assignments: a sound envelope whose state is followed by more bytes replaces the
  durable state and then throws.
-/
import CollectiveScheduler.Persistence.Snapshot
import CollectiveScheduler.System.Scenario

set_option autoImplicit false

namespace CollectiveScheduler

open Foundation

variable {D : Type}

namespace Scheduler

/-- Two schedulers with the same durable state. -/
structure SameDurable (s t : Scheduler D) : Prop where
  epoch : t.epoch = s.epoch
  ids : t.nextRequestId = s.nextRequestId ∧ t.nextScheduleId = s.nextScheduleId ∧
    t.nextGrantId = s.nextGrantId ∧ t.nextGroupId = s.nextGroupId
  gens : t.nextScheduleGen = s.nextScheduleGen ∧ t.nextGrantGen = s.nextGrantGen ∧
    t.nextGroupGen = s.nextGroupGen
  nextSeq : t.nextSeq = s.nextSeq
  policyGen : t.policyGen = s.policyGen
  records : t.records = s.records
  grants : t.grants = s.grants
  participantRequests : t.participantRequests = s.participantRequests

theorem SameDurable.refl (s : Scheduler D) : s.SameDurable s :=
  ⟨rfl, ⟨rfl, rfl, rfl, rfl⟩, ⟨rfl, rfl, rfl⟩, rfl, rfl, rfl, rfl, rfl⟩

/-- The scheduler already holds the image, and no grants. -/
structure Holds (s : Scheduler D) (image : StateImage D) : Prop where
  epoch : image.epoch = s.epoch
  ids : image.nextRequestId = s.nextRequestId ∧ image.nextScheduleId = s.nextScheduleId ∧
    image.nextGrantId = s.nextGrantId ∧ image.nextGroupId = s.nextGroupId
  gens : image.nextScheduleGen = s.nextScheduleGen ∧ image.nextGrantGen = s.nextGrantGen ∧
    image.nextGroupGen = s.nextGroupGen
  nextSeq : image.nextSeq = s.nextSeq
  policyGen : image.policyGen = s.policyGen
  records : image.records.foldl (fun m rec => m.emplace rec.request.id rec) .empty = s.records
  grants : s.grants = .empty
  participantRequests : image.records.foldl
    (fun m rec => trackRequest m rec.request.participants rec.request.id) .empty =
      s.participantRequests

theorem sameDurable_install_iff {s : Scheduler D} {image : StateImage D} :
    s.SameDurable (s.install image) ↔ s.Holds image := by
  constructor
  · intro h
    exact ⟨h.epoch, h.ids, h.gens, h.nextSeq, h.policyGen, h.records, h.grants.symm,
      h.participantRequests⟩
  · intro h
    exact ⟨h.epoch, h.ids, h.gens, h.nextSeq, h.policyGen, h.records, h.grants.symm,
      h.participantRequests⟩

end Scheduler

namespace Persistence

variable [Double D]

/-- A sound envelope around the bytes of an image that are followed by others. -/
def Overlong (bound : UInt64) (bytes : List UInt8) (image : StateImage D) : Prop :=
  ∃ state rest, checkEnvelope bytes = .ok state ∧
    Scheduler.deserializeState bound state.length state = .ok (image, rest) ∧ rest ≠ []

/-- A restore throws and changes nothing, throws after it has installed the image of
an overlong snapshot, or succeeds. -/
theorem restore_cases (s : Scheduler D) (bytes : List UInt8) :
    ((∃ e, restore s bytes = (s, .error e)) ∧
      ∀ image : StateImage D, ¬Overlong s.policy.bounds.maxHistoryRecords bytes image) ∨
    (∃ (image : StateImage D) (e : SchedulerError),
      Overlong s.policy.bounds.maxHistoryRecords bytes image ∧
      (∀ image', Overlong s.policy.bounds.maxHistoryRecords bytes image' → image' = image) ∧
      restore s bytes = (s.install image, .error e)) ∨
    ((∀ image : StateImage D, ¬Overlong s.policy.bounds.maxHistoryRecords bytes image) ∧
      (restore s bytes).2 = .ok ()) := by
  unfold restore
  cases henvelope : checkEnvelope bytes with
  | error e =>
      refine .inl ⟨⟨e, rfl⟩, ?_⟩
      rintro image ⟨state, rest, hstate, -⟩
      rw [henvelope] at hstate
      cases hstate
  | ok state =>
      have hstate : ∀ {state'}, checkEnvelope bytes = .ok state' → state' = state := by
        intro state' h
        rw [henvelope] at h
        cases h
        rfl
      simp only
      cases hread : (Scheduler.deserializeState s.policy.bounds.maxHistoryRecords state.length
          state : Except SchedulerError (StateImage D × List UInt8)) with
      | error e =>
          refine .inl ⟨⟨e, rfl⟩, ?_⟩
          rintro image ⟨state', rest, h, hread', -⟩
          rw [hstate h, hread] at hread'
          cases hread'
      | ok result =>
          obtain ⟨image, rest⟩ := result
          have honly : ∀ {image' : StateImage D} {rest' : List UInt8},
              Scheduler.deserializeState s.policy.bounds.maxHistoryRecords state.length state =
                .ok (image', rest') → image' = image ∧ rest' = rest := by
            intro image' rest' h
            rw [hread] at h
            cases h
            exact ⟨rfl, rfl⟩
          simp only
          split_ifs with hrest
          · refine .inr (.inl ⟨image, _, ⟨state, rest, henvelope, hread, hrest⟩, ?_, rfl⟩)
            rintro image' ⟨state', rest', h, hread', -⟩
            rw [hstate h] at hread'
            exact (honly hread').1
          · refine .inr (.inr ⟨?_, rfl⟩)
            rintro image' ⟨state', rest', h, hread', hrest'⟩
            rw [hstate h] at hread'
            exact hrest ((honly hread').2 ▸ hrest')

end Persistence

/-- A restore that throws leaves the durable state as it was exactly when the bytes
are not an overlong snapshot, or are one of an image that the scheduler already
holds. -/
theorem restore_atomic_iff_not_overlong [Double D] (s : Scheduler D) (bytes : List UInt8) :
    (∀ e, (Persistence.restore s bytes).2 = .error e →
        s.SameDurable (Persistence.restore s bytes).1) ↔
      ∀ image : StateImage D, Persistence.Overlong s.policy.bounds.maxHistoryRecords bytes image →
        s.Holds image := by
  rcases Persistence.restore_cases s bytes with
    ⟨⟨e, heq⟩, hnone⟩ | ⟨image, e, hlong, honly, heq⟩ | ⟨hnone, hok⟩
  · constructor
    · intro _ image hlong
      exact absurd hlong (hnone image)
    · intro _ _ _
      rw [heq]
      exact Scheduler.SameDurable.refl s
  · rw [heq]
    constructor
    · intro h image' hlong'
      rw [honly image' hlong']
      exact Scheduler.sameDurable_install_iff.mp (h e rfl)
    · intro h _ _
      exact Scheduler.sameDurable_install_iff.mpr (h image hlong)
  · constructor
    · intro _ image hlong
      exact absurd hlong (hnone image)
    · intro _ e he
      rw [hok] at he
      cases he

namespace Scenario

/-- A snapshot of the fresh scheduler with one byte more, under a matching
checksum. -/
def overlongSnapshot : List UInt8 :=
  let body := Persistence.body (start : System ℚ).sched [] ++ [0x55]
  body ++ PersistenceWriter.u64 (fnv1a64 body Persistence.kCheckSeed)

/-- A scheduler with one request. -/
def oneRequest : Scheduler ℚ := ((start : System ℚ).run [.submit (request 1 [1, 2] 1)]).sched

end Scenario

/-- The restore throws, and the request is gone. -/
theorem restore_throws_and_forgets :
    (Persistence.restore Scenario.oneRequest Scenario.overlongSnapshot).2 =
        .error (throwMalformed "persistence trailing garbage") ∧
      Scenario.oneRequest.records.size = 1 ∧
      (Persistence.restore Scenario.oneRequest Scenario.overlongSnapshot).1.records.size = 0 := by
  decide +kernel

end CollectiveScheduler
