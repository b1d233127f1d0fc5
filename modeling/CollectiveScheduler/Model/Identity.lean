/-
  Model/Identity.lean --- strongly typed identities and generations.

  Source: include/collective_scheduler/identity.hpp and domains.hpp.

  `Id` and `Gen` carry their domain in the type, so identities of two domains
  are never interchanged.  The storage is an unsigned 64-bit counter; value 0
  means unset, and the increment stops at the largest value instead of wrapping.
-/
import Mathlib.Algebra.Group.Nat.Defs
import Mathlib.Order.Lattice

set_option autoImplicit false

namespace CollectiveScheduler

/-- The identity domains the scheduler reads. -/
inductive IdDomain where
  | collective | collectiveRequest | collectiveSchedule | collectiveGrant
  | collectiveGroup | participant | communicationPlan | flow | dependency
  | resource | link | path | device | node | nic | workload | execution
  | worker | workerBoot | source | sourceBoot
  deriving DecidableEq, Repr

/-- The generation and epoch domains the scheduler reads. -/
inductive GenDomain where
  | collective | collectiveRequest | collectiveSchedule | collectiveGrant
  | collectiveGroup | participant | communicationPlan | dependency | resource
  | capacity | reservation | congestion | topology | capability | health
  | workload | execution | policy | priority | fairness | coordinatorEpoch
  deriving DecidableEq, Repr

/-- The largest value of the 64-bit counter. -/
def maxValue : Nat := 2 ^ 64 - 1

/-- An identity of one domain. -/
structure Id (d : IdDomain) where
  value : UInt64
  deriving DecidableEq, Repr, Inhabited

/-- A generation of one domain. -/
structure Gen (d : GenDomain) where
  value : UInt64
  deriving DecidableEq, Repr, Inhabited

namespace Id

variable {d : IdDomain}

/-- `null()`: the reserved value 0. -/
def null (i : Id d) : Bool := i.value == 0

/-- `operator++`: saturates at the largest value. -/
def next (i : Id d) : Id d :=
  if i.value.toNat < maxValue then ⟨i.value + 1⟩ else i

instance (n : Nat) : OfNat (Id d) n := ⟨⟨UInt64.ofNat n⟩⟩

instance : LawfulBEq (Id d) := inferInstance

theorem ext_toNat {a b : Id d} (h : a.value.toNat = b.value.toNat) : a = b := by
  cases a
  cases b
  exact congrArg Id.mk (UInt64.toNat_inj.mp h)

instance : LinearOrder (Id d) where
  le a b := a.value.toNat ≤ b.value.toNat
  lt a b := a.value.toNat < b.value.toNat
  le_refl a := Nat.le_refl _
  le_trans a b c := Nat.le_trans
  lt_iff_le_not_ge a b := Nat.lt_iff_le_and_not_ge
  le_antisymm a b h h' := ext_toNat (Nat.le_antisymm h h')
  le_total a b := Nat.le_total _ _
  toDecidableLE a b := inferInstanceAs (Decidable (a.value.toNat ≤ b.value.toNat))
  toDecidableLT a b := inferInstanceAs (Decidable (a.value.toNat < b.value.toNat))
  toDecidableEq := inferInstance

theorem lt_def {a b : Id d} : a < b ↔ a.value.toNat < b.value.toNat := Iff.rfl

theorem le_def {a b : Id d} : a ≤ b ↔ a.value.toNat ≤ b.value.toNat := Iff.rfl

theorem toNat_le_maxValue (a : Id d) : a.value.toNat ≤ maxValue :=
  Nat.le_sub_one_of_lt a.value.toNat_lt_size

/-- The increment as arithmetic: one more, capped. -/
theorem toNat_next (a : Id d) : a.next.value.toNat = min (a.value.toNat + 1) maxValue := by
  have hle := toNat_le_maxValue a
  unfold next
  split_ifs with h
  · rw [Nat.min_eq_left h]
    simp only [UInt64.toNat_add, UInt64.toNat_one]
    exact Nat.mod_eq_of_lt (by simp only [maxValue] at h; omega)
  · omega

theorem le_next (a : Id d) : a ≤ a.next := by
  rw [le_def, toNat_next]
  have := toNat_le_maxValue a
  omega

/-- Below saturation the increment is strict. -/
theorem lt_next {a : Id d} (h : a.value.toNat < maxValue) : a < a.next := by
  rw [lt_def, toNat_next]
  omega

end Id

namespace Gen

variable {d : GenDomain}

/-- `null()`: the reserved value 0. -/
def null (i : Gen d) : Bool := i.value == 0

/-- `operator++`: saturates at the largest value. -/
def next (i : Gen d) : Gen d :=
  if i.value.toNat < maxValue then ⟨i.value + 1⟩ else i

instance (n : Nat) : OfNat (Gen d) n := ⟨⟨UInt64.ofNat n⟩⟩

theorem ext_toNat {a b : Gen d} (h : a.value.toNat = b.value.toNat) : a = b := by
  cases a
  cases b
  exact congrArg Gen.mk (UInt64.toNat_inj.mp h)

instance : LinearOrder (Gen d) where
  le a b := a.value.toNat ≤ b.value.toNat
  lt a b := a.value.toNat < b.value.toNat
  le_refl a := Nat.le_refl _
  le_trans a b c := Nat.le_trans
  lt_iff_le_not_ge a b := Nat.lt_iff_le_and_not_ge
  le_antisymm a b h h' := ext_toNat (Nat.le_antisymm h h')
  le_total a b := Nat.le_total _ _
  toDecidableLE a b := inferInstanceAs (Decidable (a.value.toNat ≤ b.value.toNat))
  toDecidableLT a b := inferInstanceAs (Decidable (a.value.toNat < b.value.toNat))
  toDecidableEq := inferInstance

end Gen

/-! ## The named domains -/

abbrev CollectiveId := Id .collective
abbrev CollectiveRequestId := Id .collectiveRequest
abbrev CollectiveScheduleId := Id .collectiveSchedule
abbrev CollectiveGrantId := Id .collectiveGrant
abbrev CollectiveGroupId := Id .collectiveGroup
abbrev ParticipantId := Id .participant
abbrev CommunicationPlanId := Id .communicationPlan
abbrev FlowId := Id .flow
abbrev DependencyId := Id .dependency
abbrev ResourceId := Id .resource
abbrev LinkId := Id .link
abbrev PathId := Id .path
abbrev DeviceId := Id .device
abbrev NodeId := Id .node
abbrev NicId := Id .nic
abbrev WorkloadId := Id .workload
abbrev ExecutionId := Id .execution
abbrev WorkerId := Id .worker
abbrev WorkerBootId := Id .workerBoot
abbrev SourceId := Id .source
abbrev SourceBootId := Id .sourceBoot

abbrev CollectiveGeneration := Gen .collective
abbrev CollectiveRequestGeneration := Gen .collectiveRequest
abbrev CollectiveScheduleGeneration := Gen .collectiveSchedule
abbrev CollectiveGrantGeneration := Gen .collectiveGrant
abbrev CollectiveGroupGeneration := Gen .collectiveGroup
abbrev ParticipantGeneration := Gen .participant
abbrev CommunicationPlanGeneration := Gen .communicationPlan
abbrev DependencyGeneration := Gen .dependency
abbrev ResourceGeneration := Gen .resource
abbrev CapacityGeneration := Gen .capacity
abbrev ReservationGeneration := Gen .reservation
abbrev CongestionGeneration := Gen .congestion
abbrev TopologyGeneration := Gen .topology
abbrev CapabilityGeneration := Gen .capability
abbrev HealthGeneration := Gen .health
abbrev WorkloadGeneration := Gen .workload
abbrev ExecutionGeneration := Gen .execution
abbrev PolicyGeneration := Gen .policy
abbrev PriorityGeneration := Gen .priority
abbrev FairnessGeneration := Gen .fairness
abbrev CoordinatorEpoch := Gen .coordinatorEpoch

/-- Nanosecond durations and timestamps (`time.hpp`), wrapping at 64 bits. -/
abbrev Nanoseconds := UInt64

end CollectiveScheduler
