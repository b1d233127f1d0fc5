/-
  Properties/OverlapGroup.lean --- which requests one round selects together.

  Requests that are selected together are distinct and compatible in every dimension of
  their footprints, and the two hard bounds are kept.  Three things the documentation
  promises are not decided by the selection: `overlap_enabled` and the policy's own
  `max_overlap_group` are read nowhere, SERIALIZE is treated like OVERLAP_ALLOWED, and
  `make_footprint` drops the exclusion classes of the request, so that the branch of
  `classify_conflict` for them is never taken.  The promises hold in a state where all
  requests that may run together keep them; in any other state it is left to the ranking.
-/
import CollectiveScheduler.Properties.HardEligibility
import CollectiveScheduler.Scheduler.Groups
import CollectiveScheduler.System.Scenario
import CollectiveScheduler.System.World

set_option autoImplicit false

namespace CollectiveScheduler

open Foundation

variable {D : Type}

namespace Scheduler

/-- Two requests that one round may grant together. -/
structure Compatible (s : Scheduler D) (req req' : CollectiveRequest D) : Prop where
  participants : req.participants.Disjoint req'.participants
  resources : (s.resourcesOf req).Disjoint (s.resourcesOf req')
  links : (s.linksOf req).Disjoint (s.linksOf req')
  /-- both plans are published at the generation the request names, and valid -/
  plans : s.planUsable req.planId req.planGen = true ∧ s.planUsable req'.planId req'.planGen = true
  reservations : ∀ rg, req.reservationGen = some rg → req'.reservationGen ≠ some rg

theorem Compatible.symm {s : Scheduler D} {req req' : CollectiveRequest D}
    (h : s.Compatible req req') : s.Compatible req' req :=
  ⟨h.participants.symm, h.resources.symm, h.links.symm, h.plans.symm,
    fun rg hrg' hrg => h.reservations rg hrg hrg'⟩

variable [Double D] {s : Scheduler D}

/-- An eligible request has a current, valid plan. -/
theorem planUsable_of_eligible {rec : Record D} (h : s.eligible rec = true) :
    s.planUsable rec.request.planId rec.request.planGen = true :=
  (hardEligible_none (eligible_iff.mp h).2.2).2.2.1

theorem disjoint_of_setIntersect {α : Type} [LinearOrder α] {a b : List α}
    (h : setIntersect (sortUnique a) (sortUnique b) = false) : a.Disjoint b := by
  intro x hx hx'
  rw [setIntersect_sortUnique_iff.mpr ⟨x, hx, hx'⟩] at h
  cases h

theorem compatible_of_canOverlap {rec rec' : Record D} (helig : s.eligible rec = true)
    (helig' : s.eligible rec' = true)
    (h : s.canOverlap (s.footprinted rec) (s.footprinted rec') = true) :
    s.Compatible rec.request rec'.request := by
  obtain ⟨-, -, hconflict, hreservation⟩ := canOverlap_checks h
  obtain ⟨hparticipants, hresources, hlinks, -⟩ :=
    classifyConflict_forbids_eq_false.mp hconflict
  obtain ⟨hp, hr, hl, -⟩ := s.footprinted_footprint rec
  obtain ⟨hp', hr', hl', -⟩ := s.footprinted_footprint rec'
  rw [hp, hp'] at hparticipants
  rw [hr, hr'] at hresources
  rw [hl, hl'] at hlinks
  exact ⟨disjoint_of_setIntersect hparticipants, disjoint_of_setIntersect hresources,
    disjoint_of_setIntersect hlinks,
    ⟨planUsable_of_eligible helig, planUsable_of_eligible helig'⟩, hreservation⟩

/-- Two eligible requests that may overlap are compatible, and neither mode is UNKNOWN or
EXCLUSIVE. -/
theorem compatible_of_mayOverlap {rec rec' : Record D} (helig : s.eligible rec = true)
    (helig' : s.eligible rec' = true) (h : s.mayOverlap rec rec' = true) :
    s.Compatible rec.request rec'.request ∧
      rec.request.overlap ≠ .unknown ∧ rec.request.overlap ≠ .exclusive := by
  obtain ⟨hunknown, hexclusive, -⟩ := mayOverlap_checks h
  refine ⟨?_, hunknown.1, hexclusive.1⟩
  rcases Bool.or_eq_true _ _ ▸ h with h | h
  · exact compatible_of_canOverlap helig helig' h
  · exact (compatible_of_canOverlap helig' helig h).symm

/-- A member of a selection of two or more has another beside it. -/
theorem exists_other_of_two {ids : List CollectiveRequestId} (hnodup : ids.Nodup)
    (htwo : 2 ≤ ids.length) (id : CollectiveRequestId) : ∃ id' ∈ ids, id ≠ id' := by
  match ids, hnodup, htwo with
  | a :: b :: rest, hnodup, _ =>
      have hab : a ≠ b := fun heq => (List.nodup_cons.mp hnodup).1 (heq ▸ List.mem_cons_self)
      by_cases hid : id = a
      · exact ⟨b, List.mem_cons_of_mem _ List.mem_cons_self, hid ▸ hab⟩
      · exact ⟨a, List.mem_cons_self, hid⟩

end Scheduler

/-! ## The group of one round -/

namespace Scheduler

/-- What a round may select: distinct requests that are pairwise compatible, none of them
UNKNOWN or EXCLUSIVE beside another, within the two hard bounds. -/
structure SafeGroup (s : Scheduler D) (selected : List CollectiveRequestId) : Prop where
  found : ∀ id ∈ selected, ∃ rec, s.records.find? id = some rec
  distinct : selected.Nodup
  compatible : ∀ id ∈ selected, ∀ id' ∈ selected, id ≠ id' → ∀ rec rec',
    s.records.find? id = some rec → s.records.find? id' = some rec' →
      s.Compatible rec.request rec'.request
  modes : 2 ≤ selected.length → ∀ id ∈ selected, ∀ rec, s.records.find? id = some rec →
    rec.request.overlap ≠ .unknown ∧ rec.request.overlap ≠ .exclusive
  group : selected.length ≤ s.policy.bounds.maxOverlapGroup.toNat
  slots : selected ≠ [] →
    s.activeGrants + selected.length ≤ s.policy.bounds.maxActiveGrants.toNat

variable [Double D] {s : Scheduler D}

theorem selection_safe (hkeyed : s.Keyed) (recordOrder : List CollectiveRequestId) :
    s.SafeGroup (s.selection recordOrder) := by
  have hpair : ∀ id ∈ s.selection recordOrder, ∀ id' ∈ s.selection recordOrder, id ≠ id' →
      ∀ rec rec', s.records.find? id = some rec → s.records.find? id' = some rec' →
      s.Compatible rec.request rec'.request ∧
        rec.request.overlap ≠ .unknown ∧ rec.request.overlap ≠ .exclusive := by
    intro id hid id' hid' hne rec rec' hfind hfind'
    exact compatible_of_mayOverlap (eligible_of_selected hkeyed hid hfind)
      (eligible_of_selected hkeyed hid' hfind')
      (selection_mayOverlap hkeyed hid hid' hne hfind hfind')
  constructor
  case found =>
    intro id hid
    obtain ⟨rec, hfind, -⟩ := selection_eligible hkeyed hid
    exact ⟨rec, hfind⟩
  case distinct => exact nodup_selection hkeyed recordOrder
  case compatible =>
    intro id hid id' hid' hne rec rec' hfind hfind'
    exact (hpair id hid id' hid' hne rec rec' hfind hfind').1
  case modes =>
    intro htwo id hid rec hfind
    obtain ⟨id', hid', hne⟩ := exists_other_of_two (nodup_selection hkeyed recordOrder) htwo id
    obtain ⟨rec', hfind', -⟩ := selection_eligible hkeyed hid'
    exact (hpair id hid id' hid' hne rec rec' hfind hfind').2
  case group => exact s.length_selection_le_group recordOrder
  case slots => exact s.selection_slots

end Scheduler

/-- In every reachable state and for every policy, the requests one round selects form a
safe group. -/
theorem overlap_group_is_safe [Double D] (s : Scheduler D) (hreached : s.Reached)
    (recordOrder : List CollectiveRequestId) (grantOrder : List CollectiveGrantId)
    (s' : Scheduler D) (dec : ScheduleDecision D)
    (hdecided : s.schedule recordOrder grantOrder = (s', .ok dec)) :
    s.SafeGroup dec.selected := by
  rw [Scheduler.schedule_selected hdecided]
  exact Scheduler.selection_safe hreached.keyed recordOrder

namespace Scenario

/-- The scheduler once the requests are submitted, under a policy. -/
def disjointState (policy : PolicyConfig ℚ) (mode : OverlapMode) (classes : Sized ByteString) :
    Scheduler ℚ :=
  ((World.start policy 1).run ((disjointRequests mode classes).map .call)).sys.sched

theorem reached_disjointState (policy : PolicyConfig ℚ) (mode : OverlapMode)
    (classes : Sized ByteString) : (disjointState policy mode classes).Reached :=
  ⟨policy, 1, _, rfl⟩

end Scenario

/-- The disjoint requests of the overlap test are selected together, as a safe group. -/
theorem overlap_group_is_safe_disjoint :
    ∃ s' dec, (Scenario.disjointState PolicyConfig.default .overlapAllowed .empty).schedule [] [] =
        (s', .ok dec) ∧ dec.selected = [1, 2] ∧
      (Scenario.disjointState PolicyConfig.default .overlapAllowed .empty).SafeGroup
        dec.selected := by
  obtain ⟨s', dec, hround, hids⟩ := Scenario.exists_of_selects
    (Scenario.disjointState PolicyConfig.default .overlapAllowed .empty) [1, 2]
    (by decide +kernel)
  exact ⟨s', dec, hround, hids, overlap_group_is_safe _
    (Scenario.reached_disjointState _ _ _) [] [] s' dec hround⟩

/-! ## The overlap policy -/

namespace Scheduler

variable [Double D]

/-- Two or more requests are selected only as the policy permits. -/
def HonoursOverlapPolicy (s : Scheduler D) (selected : List CollectiveRequestId) : Prop :=
  2 ≤ selected.length →
    s.policy.overlapEnabled = true ∧ selected.length ≤ s.policy.maxOverlapGroup.toNat ∧
    ∀ id ∈ selected, ∃ rec, s.records.find? id = some rec ∧
      (rec.request.overlap = .overlapAllowed ∨ rec.request.overlap = .overlapLimited)

instance (s : Scheduler D) : DecidablePred s.HonoursOverlapPolicy := fun selected =>
  inferInstanceAs (Decidable (2 ≤ selected.length →
    s.policy.overlapEnabled = true ∧ selected.length ≤ s.policy.maxOverlapGroup.toNat ∧
    ∀ id ∈ selected, ∃ rec ∈ s.records.find? id,
      (rec.request.overlap = .overlapAllowed ∨ rec.request.overlap = .overlapLimited)))

/-- The policy permits whatever may run together. -/
def OverlapGoverned (s : Scheduler D) : Prop := s.EveryGroup s.HonoursOverlapPolicy

instance (s : Scheduler D) : Decidable s.OverlapGoverned :=
  inferInstanceAs (Decidable (s.EveryGroup _))

omit [Double D] in
theorem HonoursOverlapPolicy.nil (s : Scheduler D) : s.HonoursOverlapPolicy [] :=
  fun htwo => absurd htwo (by decide)

omit [Double D] in
theorem HonoursOverlapPolicy.front {s : Scheduler D} {ids ids' : List CollectiveRequestId}
    (hfront : ids <+: ids') (h : s.HonoursOverlapPolicy ids') : s.HonoursOverlapPolicy ids := by
  intro htwo
  obtain ⟨henabled, hbound, hmodes⟩ := h (htwo.trans hfront.length_le)
  exact ⟨henabled, hfront.length_le.trans hbound, fun id hid => hmodes id (hfront.subset hid)⟩

end Scheduler

/-- In every reachable state, a round honours the overlap policy where the policy permits
whatever may run together; where it does not, the selection loop disregards the policy for
some order of the candidates. -/
theorem overlap_policy_honoured_of_governed [Double D] (s : Scheduler D) (hreached : s.Reached) :
    (s.OverlapGoverned → ∀ recordOrder grantOrder s' dec,
      s.schedule recordOrder grantOrder = (s', .ok dec) → s.HonoursOverlapPolicy dec.selected) ∧
    (¬s.OverlapGoverned → s.BrokenInSomeOrder s.HonoursOverlapPolicy) := by
  refine ⟨fun hgoverned recordOrder grantOrder s' dec hdecided => ?_,
    Scheduler.brokenInSomeOrder hreached.keyed fun _ _ hfront => .front hfront⟩
  rw [Scheduler.schedule_selected hdecided]
  exact Scheduler.EveryGroup.selection hgoverned hreached.keyed (.nil s) recordOrder

theorem overlap_policy_honoured_of_governed_disjoint :
    (Scenario.disjointState PolicyConfig.default .overlapAllowed .empty).OverlapGoverned ∧
    ∃ s' dec, (Scenario.disjointState PolicyConfig.default .overlapAllowed .empty).schedule [] [] =
        (s', .ok dec) ∧ dec.selected = [1, 2] ∧
      (Scenario.disjointState PolicyConfig.default .overlapAllowed .empty).HonoursOverlapPolicy
        dec.selected := by
  have hgoverned :
      (Scenario.disjointState PolicyConfig.default .overlapAllowed .empty).OverlapGoverned := by
    decide +kernel
  obtain ⟨s', dec, hround, hids⟩ := Scenario.exists_of_selects
    (Scenario.disjointState PolicyConfig.default .overlapAllowed .empty) [1, 2]
    (by decide +kernel)
  exact ⟨hgoverned, s', dec, hround, hids, (overlap_policy_honoured_of_governed _
    (Scenario.reached_disjointState _ _ _)).1 hgoverned [] [] s' dec hround⟩

/-- A policy that switches overlap off and allows groups of one. -/
def Scenario.serialPolicy : PolicyConfig ℚ :=
  { PolicyConfig.default with overlapEnabled := false, maxOverlapGroup := 1 }

/-- Two SERIALIZE requests are selected together although the policy switches overlap off
and allows groups of one. -/
theorem overlap_policy_is_ignored :
    (Scenario.disjointState Scenario.serialPolicy .serialize .empty).Reached ∧
    ∃ s' dec, (Scenario.disjointState Scenario.serialPolicy .serialize .empty).schedule [] [] =
        (s', .ok dec) ∧ dec.selected = [1, 2] ∧
      ¬(Scenario.disjointState Scenario.serialPolicy .serialize .empty).HonoursOverlapPolicy
        dec.selected := by
  obtain ⟨s', dec, hround, hids⟩ := Scenario.exists_of_selects
    (Scenario.disjointState Scenario.serialPolicy .serialize .empty) [1, 2] (by decide +kernel)
  refine ⟨Scenario.reached_disjointState _ _ _, s', dec, hround, hids, fun hhonours => ?_⟩
  have hoff : (Scenario.disjointState Scenario.serialPolicy .serialize
      .empty).policy.overlapEnabled = false := by decide +kernel
  rw [hids] at hhonours
  exact absurd (hhonours (le_refl 2)).1 (by rw [hoff]; decide)

/-! ## Exclusion classes -/

namespace Scheduler

variable [Double D]

/-- Two stored requests have no exclusion class in common. -/
def NoCommonClass (s : Scheduler D) (id id' : CollectiveRequestId) : Prop :=
  ∀ rec ∈ s.records.find? id, ∀ rec' ∈ s.records.find? id',
    ∀ cls ∈ rec.request.exclusionClasses.val, cls ∉ rec'.request.exclusionClasses.val

instance (s : Scheduler D) (id id' : CollectiveRequestId) : Decidable (s.NoCommonClass id id') :=
  inferInstanceAs (Decidable (∀ rec ∈ s.records.find? id, ∀ rec' ∈ s.records.find? id',
    ∀ cls ∈ rec.request.exclusionClasses.val, cls ∉ rec'.request.exclusionClasses.val))

/-- No two of the requests have an exclusion class in common. -/
def SerialisesClasses (s : Scheduler D) (selected : List CollectiveRequestId) : Prop :=
  selected.Pairwise s.NoCommonClass

instance (s : Scheduler D) : DecidablePred s.SerialisesClasses := fun _ =>
  inferInstanceAs (Decidable (List.Pairwise _ _))

/-- Requests that may run together have no exclusion class in common. -/
def ClassesApart (s : Scheduler D) : Prop := s.EveryGroup s.SerialisesClasses

instance (s : Scheduler D) : Decidable s.ClassesApart :=
  inferInstanceAs (Decidable (s.EveryGroup _))

end Scheduler

/-- In every reachable state, requests selected together have no exclusion class in common
where requests that may run together have none; where some have, the selection loop picks
two with a common class for some order of the candidates. -/
theorem exclusion_classes_serialise_of_apart [Double D] (s : Scheduler D)
    (hreached : s.Reached) :
    (s.ClassesApart → ∀ recordOrder grantOrder s' dec,
      s.schedule recordOrder grantOrder = (s', .ok dec) → s.SerialisesClasses dec.selected) ∧
    (¬s.ClassesApart → s.BrokenInSomeOrder s.SerialisesClasses) := by
  refine ⟨fun hapart recordOrder grantOrder s' dec hdecided => ?_,
    Scheduler.brokenInSomeOrder hreached.keyed fun _ _ hfront hclasses =>
      hclasses.sublist hfront.sublist⟩
  rw [Scheduler.schedule_selected hdecided]
  exact Scheduler.EveryGroup.selection hapart hreached.keyed .nil recordOrder

theorem exclusion_classes_serialise_of_apart_disjoint :
    (Scenario.disjointState PolicyConfig.default .overlapAllowed .empty).ClassesApart ∧
    ∃ s' dec, (Scenario.disjointState PolicyConfig.default .overlapAllowed .empty).schedule [] [] =
        (s', .ok dec) ∧ dec.selected = [1, 2] ∧
      (Scenario.disjointState PolicyConfig.default .overlapAllowed .empty).SerialisesClasses
        dec.selected := by
  have hapart :
      (Scenario.disjointState PolicyConfig.default .overlapAllowed .empty).ClassesApart := by
    decide +kernel
  obtain ⟨s', dec, hround, hids⟩ := Scenario.exists_of_selects
    (Scenario.disjointState PolicyConfig.default .overlapAllowed .empty) [1, 2]
    (by decide +kernel)
  exact ⟨hapart, s', dec, hround, hids, (exclusion_classes_serialise_of_apart _
    (Scenario.reached_disjointState _ _ _)).1 hapart [] [] s' dec hround⟩

/-- The exclusion class "a". -/
def Scenario.classA : Sized ByteString := .ofList [.ofList [97]]

/-- Two requests with the exclusion class "a" are selected together. -/
theorem exclusion_class_is_dropped :
    (Scenario.disjointState PolicyConfig.default .overlapAllowed Scenario.classA).Reached ∧
    ∃ s' dec, (Scenario.disjointState PolicyConfig.default .overlapAllowed
        Scenario.classA).schedule [] [] = (s', .ok dec) ∧ dec.selected = [1, 2] ∧
      ¬(Scenario.disjointState PolicyConfig.default .overlapAllowed
        Scenario.classA).SerialisesClasses dec.selected := by
  obtain ⟨s', dec, hround, hids⟩ := Scenario.exists_of_selects
    (Scenario.disjointState PolicyConfig.default .overlapAllowed Scenario.classA) [1, 2]
    (by decide +kernel)
  refine ⟨Scenario.reached_disjointState _ _ _, s', dec, hround, hids, fun hserial => ?_⟩
  have hshared : ∀ id ∈ ([1, 2] : List CollectiveRequestId),
      ∃ rec ∈ (Scenario.disjointState PolicyConfig.default .overlapAllowed
        Scenario.classA).records.find? id, rec.request.exclusionClasses = Scenario.classA := by
    decide +kernel
  obtain ⟨rec, hfind, hclasses⟩ := hshared 1 (by decide)
  obtain ⟨rec', hfind', hclasses'⟩ := hshared 2 (by decide)
  rw [hids] at hserial
  refine List.rel_of_pairwise_cons hserial (List.mem_singleton_self 2) rec hfind rec' hfind'
    (.ofList [97]) ?_ ?_
  · rw [hclasses]
    decide
  · rw [hclasses']
    decide

end CollectiveScheduler
