/-
  Properties/ConflictMeaning.lean --- what the conflict classification decides.

  A footprint is computed from the participants and claims of a request and from its plan,
  lists in any order and with repetitions; the classification walks the normalised lists in
  step and returns at the first dimension in which they meet.  What it decides is a statement
  about sets: whether two requests occupy a common participant, resource or link, or one of
  them has no valid plan to tell.
-/
import CollectiveScheduler.System.Scenario
import Mathlib.Data.Set.Basic

set_option autoImplicit false

namespace CollectiveScheduler

open Foundation

variable {D : Type}

/-! ## What a request occupies -/

/-- What `make_footprint` is given of a request. -/
structure Demand (D : Type) where
  participants : List ParticipantId
  claims : List (ResourceClaim D)
  plan : Option (CommunicationPlan D)

namespace Demand

def footprint (d : Demand D) : Footprint := makeFootprint d.participants d.claims d.plan

/-- The resources of a request, claimed or from its plan. -/
def resources (d : Demand D) : Set ResourceId :=
  {r | (∃ c ∈ d.claims, c.resource = r) ∨ ∃ pl ∈ d.plan, r ∈ pl.resources}

/-- The links of its plan. -/
def links (d : Demand D) : Set LinkId := {l | ∃ pl ∈ d.plan, l ∈ pl.links}

/-- The plan is missing or invalid. -/
def Unplanned (d : Demand D) : Prop := d.plan = none ∨ ∃ pl ∈ d.plan, pl.valid = false

/-- Two requests must not run together. -/
def Clash (d d' : Demand D) : Prop :=
  (∃ p, p ∈ d.participants ∧ p ∈ d'.participants) ∨ (d.resources ∩ d'.resources).Nonempty ∨
    (d.links ∩ d'.links).Nonempty ∨ d.Unplanned ∨ d'.Unplanned

/-- Two plans with the same resources and links, in another order or number. -/
structure PlanReordered (pl pl' : CommunicationPlan D) : Prop where
  resources : ∀ r, r ∈ pl.resources ↔ r ∈ pl'.resources
  links : ∀ l, l ∈ pl.links ↔ l ∈ pl'.links
  valid : pl.valid = pl'.valid

/-- The same elements in every list, in another order or number. -/
structure Reordered (d d' : Demand D) : Prop where
  participants : ∀ p, p ∈ d.participants ↔ p ∈ d'.participants
  claims : ∀ c, c ∈ d.claims ↔ c ∈ d'.claims
  plan : Option.Rel PlanReordered d.plan d'.plan

theorem Reordered.refl (d : Demand D) : d.Reordered d where
  participants _ := Iff.rfl
  claims _ := Iff.rfl
  plan := by
    cases d.plan with
    | none => exact .none
    | some pl => exact .some ⟨fun _ => Iff.rfl, fun _ => Iff.rfl, rfl⟩

/-! ## The footprint -/

/-- The resources that `make_footprint` collects. -/
def resourceList (d : Demand D) : List ResourceId :=
  d.claims.map ResourceClaim.resource ++ (d.plan.map CommunicationPlan.resources).getD []

def linkList (d : Demand D) : List LinkId := (d.plan.map CommunicationPlan.links).getD []

theorem footprint_eq (d : Demand D) :
    d.footprint = { participants := sortUnique d.participants
                    resources := sortUnique d.resourceList
                    links := sortUnique d.linkList
                    exclusionClasses := []
                    footprintUnknown := !d.plan.any CommunicationPlan.valid } := by
  obtain ⟨participants, claims, plan⟩ := d
  cases plan with
  | none =>
      unfold footprint makeFootprint resourceList linkList
      simp only [Option.map_none, Option.getD_none, List.append_nil]
      rfl
  | some pl => rfl

theorem mem_resourceList {d : Demand D} {r : ResourceId} :
    r ∈ d.resourceList ↔ r ∈ d.resources := by
  obtain ⟨participants, claims, plan⟩ := d
  cases plan with
  | none => simp [resourceList, resources]
  | some pl => simp [resourceList, resources]

theorem mem_linkList {d : Demand D} {l : LinkId} : l ∈ d.linkList ↔ l ∈ d.links := by
  obtain ⟨participants, claims, plan⟩ := d
  cases plan with
  | none => simp [linkList, links]
  | some pl => simp [linkList, links]

theorem unplanned_iff {d : Demand D} :
    d.Unplanned ↔ ¬d.plan.any CommunicationPlan.valid = true := by
  obtain ⟨participants, claims, plan⟩ := d
  cases plan with
  | none => simp [Unplanned]
  | some pl => simp [Unplanned]

/-- Reordered lists give the same footprint. -/
theorem Reordered.footprint_eq {d d' : Demand D} (h : d.Reordered d') :
    d.footprint = d'.footprint := by
  obtain ⟨participants, claims, plan⟩ := d
  obtain ⟨participants', claims', plan'⟩ := d'
  have hclaimed : ∀ r, r ∈ claims.map ResourceClaim.resource ↔
      r ∈ claims'.map ResourceClaim.resource := by
    intro r
    rw [List.mem_map, List.mem_map]
    exact exists_congr fun c => and_congr_left' (h.claims c)
  rw [Demand.footprint_eq, Demand.footprint_eq, sortUnique_congr h.participants]
  unfold resourceList linkList
  cases h.plan with
  | none => simp only [Option.map_none, Option.getD_none, List.append_nil,
      sortUnique_congr hclaimed]
  | @some pl pl' hplan =>
      have hboth : ∀ r, r ∈ claims.map ResourceClaim.resource ++ pl.resources ↔
          r ∈ claims'.map ResourceClaim.resource ++ pl'.resources := by
        intro r
        rw [List.mem_append, List.mem_append]
        exact or_congr (hclaimed r) (hplan.resources r)
      simp only [Option.map_some, Option.getD_some, Option.any_some, sortUnique_congr hboth,
        sortUnique_congr hplan.links, hplan.valid]

/-- The classification of two footprints forbids an overlap where the requests clash. -/
theorem forbidsOverlap_iff (d d' : Demand D) :
    (classifyConflict d.footprint d'.footprint).forbidsOverlap = true ↔ d.Clash d' := by
  have hresources : (∃ r, r ∈ d.resourceList ∧ r ∈ d'.resourceList) ↔
      (d.resources ∩ d'.resources).Nonempty :=
    exists_congr fun r => and_congr mem_resourceList mem_resourceList
  have hlinks : (∃ l, l ∈ d.linkList ∧ l ∈ d'.linkList) ↔ (d.links ∩ d'.links).Nonempty :=
    exists_congr fun l => and_congr mem_linkList mem_linkList
  have hclasses : setIntersect ([] : List (List Nat)) [] = false := by rw [setIntersect]
  rw [← Bool.not_eq_false, classifyConflict_forbids_eq_false, Demand.footprint_eq,
    Demand.footprint_eq]
  simp only [← Bool.not_eq_true, setIntersect_sortUnique_iff, not_and_or, not_not, hresources,
    hlinks, hclasses, not_true_eq_false, false_or, Bool.not_eq_true']
  rw [← unplanned_iff, ← unplanned_iff]
  rfl

end Demand

/-- Two footprints are classified the same way from either side. -/
theorem classifyConflict_comm (a b : Footprint) : classifyConflict a b = classifyConflict b a := by
  unfold classifyConflict
  rw [setIntersect_comm a.participants, setIntersect_comm a.resources, setIntersect_comm a.links,
    setIntersect_comm a.exclusionClasses, Bool.or_comm]

/-- For all participants, claims and plans of two requests, the classification of their
footprints forbids an overlap exactly when they share a participant, a resource or a link or
one of the plans is missing or invalid; it is the same from either side, and the same for
every order and multiplicity of the lists. -/
theorem conflict_classification_meaning (d d' : Demand D) :
    ((classifyConflict d.footprint d'.footprint).forbidsOverlap = true ↔ d.Clash d') ∧
      classifyConflict d.footprint d'.footprint = classifyConflict d'.footprint d.footprint ∧
      ∀ e e' : Demand D, d.Reordered e → d'.Reordered e' →
        classifyConflict e.footprint e'.footprint =
          classifyConflict d.footprint d'.footprint := by
  refine ⟨Demand.forbidsOverlap_iff d d', classifyConflict_comm _ _, fun e e' h h' => ?_⟩
  rw [h.footprint_eq, h'.footprint_eq]

namespace Scenario

/-- A request that claims resource 4; its plan uses resource 5 and two links. -/
def claimant : Demand ℚ where
  participants := [⟨1⟩, ⟨2⟩]
  claims := [{ resource := ⟨4⟩, gen := ⟨1⟩, units := 1 }]
  plan := some { plan 1 1 [1, 2] with resources := [⟨5⟩], links := [⟨7⟩, ⟨8⟩] }

/-- The same request with its lists reversed and repeated. -/
def claimantRepeated : Demand ℚ where
  participants := [⟨2⟩, ⟨1⟩, ⟨1⟩]
  claims := List.replicate 2 { resource := ⟨4⟩, gen := ⟨1⟩, units := 1 }
  plan := some { plan 1 1 [1, 2] with resources := [⟨5⟩, ⟨5⟩], links := [⟨8⟩, ⟨7⟩] }

/-- A request that meets the first one in link 8 only. -/
def neighbour : Demand ℚ where
  participants := [⟨3⟩]
  claims := []
  plan := some { plan 2 1 [3] with links := [⟨8⟩] }

theorem claimant_reordered : claimant.Reordered claimantRepeated where
  participants p := by simp [claimant, claimantRepeated, or_comm]
  claims c := by simp [claimant, claimantRepeated]
  plan := .some {
    resources := fun r => by simp
    links := fun l => by simp [or_comm]
    valid := rfl }

end Scenario

/-- Two requests that meet in a link are kept apart, also when the lists of one of them are
reordered and the other one is compared first. -/
theorem conflict_classification_meaning_link :
    Scenario.claimant.Clash Scenario.neighbour ∧
      (classifyConflict Scenario.neighbour.footprint
        Scenario.claimantRepeated.footprint).classification = .linkConflict := by
  obtain ⟨hclash, hsymm, hreordered⟩ :=
    conflict_classification_meaning Scenario.claimant Scenario.neighbour
  have hforbids : (classifyConflict Scenario.claimant.footprint
      Scenario.neighbour.footprint).forbidsOverlap = true := by decide +kernel
  have hlink : (classifyConflict Scenario.claimant.footprint
      Scenario.neighbour.footprint).classification = .linkConflict := by decide +kernel
  refine ⟨hclash.mp hforbids, ?_⟩
  rw [classifyConflict_comm, hreordered _ _ Scenario.claimant_reordered (.refl _), hlink]

end CollectiveScheduler
