/-
  Model/Policy.lean --- bounds, policy weights and fairness accounts.

  Source: include/collective_scheduler/config.hpp and fairness.hpp.  Bounds and
  weights that no function of the scheduler reads are left out.
-/
import CollectiveScheduler.Foundation.Double
import CollectiveScheduler.Model.Enums

set_option autoImplicit false

namespace CollectiveScheduler

open Foundation

/-- The hard bounds (`size_t` values) that the scheduler checks. -/
structure Bounds where
  maxCollectives : UInt64 := 100000
  maxParticipantsPerCollective : UInt64 := 4096
  maxActiveGrants : UInt64 := 4096
  maxOverlapGroup : UInt64 := 4096
  maxHistoryRecords : UInt64 := 100000
  maxDependenciesPerRequest : UInt64 := 4096
  deriving DecidableEq, Repr

/-- The arbitration policy. -/
structure PolicyConfig (D : Type) where
  wPriority : D
  wDeadline : D
  wAge : D
  wFairnessDeficit : D
  wStarvationRisk : D
  wExpectedDuration : D
  wCongestionPenalty : D
  wReservationFit : D
  wCommunicationCost : D
  wResourceFootprint : D
  wParticipantAvailability : D
  fairnessWindowGrants : UInt64 := 64
  maxBypassCount : UInt64 := 16
  /-- fairness deficit added for each bypass -/
  agingGrowth : D
  maxOverlapGroup : UInt64 := 2
  overlapEnabled : Bool := true
  bounds : Bounds := {}
  deriving DecidableEq, Repr

/-- `PolicyConfig{}`: the default member initialisers. -/
def PolicyConfig.default {D : Type} [Double D] : PolicyConfig D where
  wPriority := Double.ofRat 100
  wDeadline := Double.ofRat 200
  wAge := Double.ofRat 1
  wFairnessDeficit := Double.ofRat 120
  wStarvationRisk := Double.ofRat 150
  wExpectedDuration := Double.ofRat (1 / 2)
  wCongestionPenalty := Double.ofRat 80
  wReservationFit := Double.ofRat 90
  wCommunicationCost := Double.ofRat (1 / 2)
  wResourceFootprint := Double.ofRat (1 / 2)
  wParticipantAvailability := Double.ofRat 40
  agingGrowth := Double.ofRat (1 / 20)

/-- Per-collective fairness accounting. -/
structure FairnessAccount (D : Type) where
  cls : FairnessClass := .defaultClass
  observedGrants : UInt64 := 0
  observedService : D
  deficit : D
  /-- scheduling rounds waited -/
  waitTicks : UInt64 := 0
  /-- times ranked but not selected since the last selection -/
  consecutiveBypasses : UInt64 := 0
  starved : Bool := false
  targetShare : D
  deriving DecidableEq, Repr

/-- `FairnessAccount{}`. -/
def FairnessAccount.default {D : Type} [Double D] : FairnessAccount D where
  observedService := Double.ofRat 0
  deficit := Double.ofRat 0
  targetShare := Double.ofRat 0

/-- The parameters of the starvation pressure. -/
structure FairnessPolicy (D : Type) where
  protectedMinShare : D
  agingGrowth : D
  maxBypassCount : UInt64
  windowGrants : UInt64
  starvationEnabled : Bool
  deriving DecidableEq, Repr

/-- `starvation_pressure`: how strongly an account deserves earlier service,
clamped to `[0, 1]`. -/
def starvationPressure {D : Type} [Double D] (a : FairnessAccount D) (p : FairnessPolicy D) : D :=
  let zero : D := Double.ofRat 0
  let one : D := Double.ofRat 1
  let half : D := Double.ofRat (1 / 2)
  if !p.starvationEnabled then zero
  else
    let bypass : D := Double.ofRat a.consecutiveBypasses.toNat
    let cap : D := Double.ofRat (if p.maxBypassCount.toNat > 0 then p.maxBypassCount.toNat else 1)
    let frac := bypass / cap
    let frac := if Double.lt one frac then one else frac
    let deficitTerm := if Double.lt one a.deficit then one else a.deficit
    let pressure := half * frac + half * deficitTerm
    if Double.lt pressure zero then zero
    else if Double.lt one pressure then one else pressure

end CollectiveScheduler
