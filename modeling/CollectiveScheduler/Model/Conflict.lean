/-
  Model/Conflict.lean --- footprints and conflict classification.

  Source: include/collective_scheduler/conflict.hpp and src/conflict.cpp.
-/
import CollectiveScheduler.Foundation.SortUnique
import CollectiveScheduler.Model.Evidence
import CollectiveScheduler.Model.Request

set_option autoImplicit false

namespace CollectiveScheduler

open Foundation

/-- The converged footprint of a collective, normalised to sorted-unique. -/
structure Footprint where
  participants : List ParticipantId := []
  resources : List ResourceId := []
  links : List LinkId := []
  exclusionClasses : List (List Nat) := []
  /-- some dimension is not known -/
  footprintUnknown : Bool := false
  deriving DecidableEq, Repr

/-- `Footprint::normalize`. -/
def Footprint.normalize (fp : Footprint) : Footprint :=
  { fp with
    participants := sortUnique fp.participants
    resources := sortUnique fp.resources
    links := sortUnique fp.links
    exclusionClasses := sortUnique fp.exclusionClasses }

/-- The result of comparing two footprints. -/
structure ConflictResult where
  classification : ConflictClassification := .noConflict
  severity : ConflictSeverity := .none
  reasons : List String := []
  deriving DecidableEq, Repr

/-- `ConflictResult::forbids_overlap`: unknown evidence always forbids. -/
def ConflictResult.forbidsOverlap (r : ConflictResult) : Bool :=
  if r.classification = .noConflict then false
  else if r.classification = .unknown then true
  else decide (r.severity.rank ≥ ConflictSeverity.high.rank)

/-- `make_footprint`: a missing plan leaves the footprint unknown. -/
def makeFootprint {D : Type} (participants : List ParticipantId)
    (resourceClaims : List (ResourceClaim D)) (plan : Option (CommunicationPlan D)) : Footprint :=
  let claimed := resourceClaims.map ResourceClaim.resource
  match plan with
  | some pl =>
      Footprint.normalize
        { participants := participants
          resources := claimed ++ pl.resources
          links := pl.links
          footprintUnknown := !pl.valid }
  | none =>
      Footprint.normalize
        { participants := participants
          resources := claimed
          footprintUnknown := true }

/-- `classify_conflict`: the first dimension in which two footprints meet. -/
def classifyConflict (a b : Footprint) : ConflictResult :=
  if setIntersect a.participants b.participants then
    { classification := .participantConflict, severity := .fatal,
      reasons := ["participant overlap"] }
  else if setIntersect a.resources b.resources then
    { classification := .resourceConflict, severity := .high, reasons := ["resource overlap"] }
  else if setIntersect a.links b.links then
    { classification := .linkConflict, severity := .high, reasons := ["link overlap"] }
  else if setIntersect a.exclusionClasses b.exclusionClasses then
    { classification := .policyConflict, severity := .high,
      reasons := ["exclusion class overlap"] }
  else if a.footprintUnknown || b.footprintUnknown then
    { classification := .unknown, severity := .high,
      reasons := ["unknown footprint evidence"] }
  else { classification := .noConflict, severity := .none }

/-- Two footprints may overlap exactly when they meet in no dimension and nothing about
them is unknown. -/
theorem classifyConflict_forbids_eq_false {a b : Footprint} :
    (classifyConflict a b).forbidsOverlap = false ↔
      setIntersect a.participants b.participants = false ∧
      setIntersect a.resources b.resources = false ∧ setIntersect a.links b.links = false ∧
      setIntersect a.exclusionClasses b.exclusionClasses = false ∧
      a.footprintUnknown = false ∧ b.footprintUnknown = false := by
  unfold classifyConflict
  split_ifs with hparticipants hresources hlinks hclasses hunknown
  · simp [ConflictResult.forbidsOverlap, ConflictSeverity.rank, hparticipants]
  · simp [ConflictResult.forbidsOverlap, ConflictSeverity.rank, hresources]
  · simp [ConflictResult.forbidsOverlap, ConflictSeverity.rank, hlinks]
  · simp [ConflictResult.forbidsOverlap, ConflictSeverity.rank, hclasses]
  · simp only [Bool.or_eq_true] at hunknown
    simp only [ConflictResult.forbidsOverlap, reduceCtorEq, if_false, if_true, false_iff]
    rintro ⟨-, -, -, -, ha, hb⟩
    rcases hunknown with h | h
    · rw [h] at ha
      cases ha
    · rw [h] at hb
      cases hb
  · simp only [Bool.or_eq_true, not_or, Bool.not_eq_true] at *
    exact ⟨fun _ => ⟨hparticipants, hresources, hlinks, hclasses, hunknown⟩, fun _ => rfl⟩

/-- Sharing a participant is always classified as a participant conflict. -/
theorem classifyConflict_of_shared {a b : Footprint}
    (h : setIntersect a.participants b.participants = true) :
    (classifyConflict a b).classification = .participantConflict ∧
      (classifyConflict a b).forbidsOverlap = true := by
  simp only [classifyConflict, h, if_true]
  decide

theorem makeFootprint_participants {D : Type} (participants : List ParticipantId)
    (claims : List (ResourceClaim D)) (plan : Option (CommunicationPlan D)) :
    (makeFootprint participants claims plan).participants = sortUnique participants := by
  cases plan <;> rfl

/-- Requests that share a participant have conflicting footprints, whatever
their claims and plans are. -/
theorem makeFootprint_forbidsOverlap {D : Type} {ps ps' : List ParticipantId}
    {p : ParticipantId} (hp : p ∈ ps) (hp' : p ∈ ps')
    (claims claims' : List (ResourceClaim D)) (plan plan' : Option (CommunicationPlan D)) :
    (classifyConflict (makeFootprint ps claims plan)
      (makeFootprint ps' claims' plan')).forbidsOverlap = true := by
  refine (classifyConflict_of_shared ?_).2
  rw [makeFootprint_participants, makeFootprint_participants, setIntersect_sortUnique_iff]
  exact ⟨p, hp, hp'⟩

end CollectiveScheduler
