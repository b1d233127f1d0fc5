/-
  Scheduler/Rewriting.lean --- states that differ in bookkeeping only.

  Most of what an operation does to a record leaves its request and its current
  grant alone.  `RecordsRewritten R` relates two record maps that differ in that
  way, with every lifecycle move allowed by `R`; `Rewritten R` adds that the
  grants are the same.
-/
import CollectiveScheduler.Scheduler.State

set_option autoImplicit false

namespace CollectiveScheduler

open Foundation

variable {D : Type}

/-- A record with its bookkeeping rewritten: the same request and grant, and a
lifecycle move that `R` allows. -/
structure Record.Rewritten (R : LifecycleState → LifecycleState → Prop)
    (rec rec' : Record D) : Prop where
  request : rec'.request = rec.request
  currentGrant : rec'.currentGrant = rec.currentGrant
  lifecycle : R rec.lifecycle rec'.lifecycle

/-- A record map with some records rewritten, none added and none removed. -/
def RecordsRewritten (R : LifecycleState → LifecycleState → Prop)
    (m m' : FinMap CollectiveRequestId (Record D)) : Prop :=
  ∀ id, Option.Rel (Record.Rewritten R) (m.find? id) (m'.find? id)

/-- A scheduler with some records rewritten and its grants untouched. -/
structure Scheduler.Rewritten (R : LifecycleState → LifecycleState → Prop)
    (s s' : Scheduler D) : Prop where
  records : RecordsRewritten R s.records s'.records
  grants : s'.grants = s.grants
  activeByParticipant : s'.activeByParticipant = s.activeByParticipant
  activeGrants : s'.activeGrants = s.activeGrants
  nextGrantId : s'.nextGrantId = s.nextGrantId
  epoch : s.epoch ≤ s'.epoch

variable {R R' : LifecycleState → LifecycleState → Prop}

theorem Record.Rewritten.trans {rec rec' rec'' : Record D} (h : rec.Rewritten R rec')
    (htrans : ∀ {a b c}, R a b → R b c → R a c) (h' : rec'.Rewritten R rec'') :
    rec.Rewritten R rec'' :=
  ⟨h'.request.trans h.request, h'.currentGrant.trans h.currentGrant,
    htrans h.lifecycle h'.lifecycle⟩

/-! ## Record maps -/

namespace RecordsRewritten

variable {m m' m'' : FinMap CollectiveRequestId (Record D)}

/-- Rewriting seen from a record of the old map. -/
theorem find? (h : RecordsRewritten R m m') {id : CollectiveRequestId} {rec : Record D}
    (hfind : m.find? id = some rec) :
    ∃ rec', m'.find? id = some rec' ∧ rec.Rewritten R rec' :=
  FinMap.Related.find?_some h hfind

/-- Rewriting seen from a record of the new map. -/
theorem find?_new (h : RecordsRewritten R m m') {id : CollectiveRequestId} {rec' : Record D}
    (hfind : m'.find? id = some rec') :
    ∃ rec, m.find? id = some rec ∧ rec.Rewritten R rec' :=
  FinMap.Related.find?_new h hfind

theorem refl (hrefl : ∀ st, R st st) (m : FinMap CollectiveRequestId (Record D)) :
    RecordsRewritten R m m :=
  FinMap.Related.refl (fun _ => ⟨rfl, rfl, hrefl _⟩) m

theorem mono (himp : ∀ {a b}, R a b → R' a b) (h : RecordsRewritten R m m') :
    RecordsRewritten R' m m' :=
  FinMap.Related.mono
    (fun _ _ hrec => ⟨hrec.request, hrec.currentGrant, himp hrec.lifecycle⟩) h

theorem trans (htrans : ∀ {a b c}, R a b → R b c → R a c) (h : RecordsRewritten R m m')
    (h' : RecordsRewritten R m' m'') : RecordsRewritten R m m'' := by
  refine FinMap.Related.trans ?_ h h'
  exact fun _ _ _ hrec hrec' => hrec.trans htrans hrec'

/-- One record rewritten in place. -/
theorem insert (hrefl : ∀ st, R st st) {id : CollectiveRequestId} {rec rec' : Record D}
    (hfind : m.find? id = some rec) (hrec : rec.Rewritten R rec') :
    RecordsRewritten R m (m.insert id rec') :=
  FinMap.Related.replace (fun _ => ⟨rfl, rfl, hrefl _⟩) hfind hrec

/-- Any number of records rewritten by a walk. -/
theorem modifyAll (hrefl : ∀ st, R st st) (htrans : ∀ {a b c}, R a b → R b c → R a c)
    (m : FinMap CollectiveRequestId (Record D)) (ids : List CollectiveRequestId)
    {f : CollectiveRequestId → Record D → Record D}
    (hf : ∀ id (rec : Record D), rec.Rewritten R (f id rec)) :
    RecordsRewritten R m (m.modifyAll ids f) := by
  refine FinMap.Related.modifyAll ?_ ?_ m ids hf
  · exact fun _ => ⟨rfl, rfl, hrefl _⟩
  · exact fun _ _ _ hrec hrec' => hrec.trans htrans hrec'

/-- Every record rewritten in place. -/
theorem mapVals (m : FinMap CollectiveRequestId (Record D))
    {f : CollectiveRequestId → Record D → Record D}
    (hf : ∀ id (rec : Record D), rec.Rewritten R (f id rec)) :
    RecordsRewritten R m (m.mapVals f) :=
  FinMap.Related.mapVals hf m

end RecordsRewritten

/-! ## Schedulers -/

namespace Scheduler.Rewritten

variable {s s' s'' : Scheduler D}

/-- Nothing the relation looks at changed, except the records. -/
theorem of_records (hrecords : RecordsRewritten R s.records s'.records)
    (h : s'.grants = s.grants ∧ s'.activeByParticipant = s.activeByParticipant ∧
      s'.activeGrants = s.activeGrants ∧ s'.nextGrantId = s.nextGrantId ∧
      s.epoch ≤ s'.epoch) :
    Rewritten R s s' :=
  ⟨hrecords, h.1, h.2.1, h.2.2.1, h.2.2.2.1, h.2.2.2.2⟩

/-- Nothing the relation looks at changed. -/
theorem of_records_eq (hrefl : ∀ st, R st st) (hrecords : s'.records = s.records)
    (h : s'.grants = s.grants ∧ s'.activeByParticipant = s.activeByParticipant ∧
      s'.activeGrants = s.activeGrants ∧ s'.nextGrantId = s.nextGrantId ∧
      s.epoch ≤ s'.epoch) :
    Rewritten R s s' :=
  of_records (hrecords ▸ RecordsRewritten.refl hrefl s.records) h

theorem refl (hrefl : ∀ st, R st st) (s : Scheduler D) : Rewritten R s s :=
  of_records_eq hrefl rfl ⟨rfl, rfl, rfl, rfl, le_refl _⟩

theorem trans (htrans : ∀ {a b c}, R a b → R b c → R a c) (h : Rewritten R s s')
    (h' : Rewritten R s' s'') : Rewritten R s s'' where
  records := h.records.trans htrans h'.records
  grants := h'.grants.trans h.grants
  activeByParticipant := h'.activeByParticipant.trans h.activeByParticipant
  activeGrants := h'.activeGrants.trans h.activeGrants
  nextGrantId := h'.nextGrantId.trans h.nextGrantId
  epoch := h.epoch.trans h'.epoch

end Scheduler.Rewritten

end CollectiveScheduler
