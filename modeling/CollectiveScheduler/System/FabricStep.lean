/-
  System/FabricStep.lean --- what a call does to a record, as far as the fabric is
  concerned.

  Only the first section of `handoff` asks the fabric, about a grant of a GRANTED record,
  and only then does a record become DISPATCHING or ACTIVE.  `FabricStep` says what any
  call does to one record in these terms.
-/
import CollectiveScheduler.System.Waiting

set_option autoImplicit false

namespace CollectiveScheduler

open Foundation LifecycleState

variable {D : Type}

/-! ## Moves that begin no handoff -/

namespace LifecycleState

/-- The states that only a handoff leads to. -/
def isStarted (st : LifecycleState) : Bool := st ∈ [dispatching, active, completed]

/-- The states from which no call leads to GRANTED at the same generation. -/
def isPast (st : LifecycleState) : Bool := st.isStarted || st.isSpent

/-- A move after which the record is no nearer to the fabric than before. -/
structure Paces (a b : LifecycleState) : Prop where
  past : a.isPast = true → b.isPast = true
  started : b.isStarted = true → a.isStarted = true

theorem Paces.refl (a : LifecycleState) : Paces a a := ⟨id, id⟩

theorem Paces.ofEq {a b : LifecycleState} (h : a = b) : Paces a b := h ▸ Paces.refl a

theorem Paces.trans {a b c : LifecycleState} (h : Paces a b) (h' : Paces b c) : Paces a c :=
  ⟨fun ha => h'.past (h.past ha), fun hc => h.started (h'.started hc)⟩

/-- From any state to a spent one that is not COMPLETED. -/
theorem paces_spent {a b : LifecycleState} (hspent : b.isSpent = true)
    (hnot : b.isStarted = false) : Paces a b where
  past _ := by rw [isPast, hspent, Bool.or_true]
  started hb := by rw [hnot] at hb; cases hb

theorem Refreshes.paces {a b : LifecycleState} (h : Refreshes a b) : Paces a b where
  past ha := by
    have hab : b = a := by
      refine h.eq_of_not_pending ?_
      cases a <;> first | rfl | exact absurd ha (by decide)
    rw [hab]
    exact ha
  started hb := by
    rcases h.moved with rfl | ⟨-, rfl | rfl | rfl⟩
    · exact hb
    all_goals cases hb

theorem Revokes.paces {a b : LifecycleState} (h : Revokes a b) : Paces a b := by
  rcases h with rfl | ⟨-, rfl⟩
  · exact Paces.refl _
  · exact paces_spent rfl rfl

end LifecycleState

/-- A record that keeps its request and does not begin a handoff. -/
structure Record.Paced (rec rec' : Record D) : Prop where
  request : rec'.request = rec.request
  paces : Paces rec.lifecycle rec'.lifecycle
  ungranted : rec'.lifecycle.isStarted = true → rec.currentGrant = none →
    rec'.currentGrant = none

namespace Record.Paced

theorem refl (rec : Record D) : rec.Paced rec := ⟨rfl, Paces.refl _, fun _ => id⟩

theorem trans (rec rec' rec'' : Record D) (h : rec.Paced rec') (h' : rec'.Paced rec'') :
    rec.Paced rec'' where
  request := h'.request.trans h.request
  paces := h.paces.trans h'.paces
  ungranted hstarted hnone :=
    h'.ungranted hstarted (h.ungranted (h'.paces.started hstarted) hnone)

end Record.Paced

/-- A record map in which no record begins a handoff. -/
abbrev RecordsPaced (m m' : FinMap CollectiveRequestId (Record D)) : Prop :=
  FinMap.Related Record.Paced m m'

namespace RecordsPaced

variable {m m' m'' : FinMap CollectiveRequestId (Record D)}

theorem refl (m : FinMap CollectiveRequestId (Record D)) : RecordsPaced m m :=
  FinMap.Related.refl Record.Paced.refl m

theorem trans (h : RecordsPaced m m') (h' : RecordsPaced m' m'') : RecordsPaced m m'' :=
  FinMap.Related.trans Record.Paced.trans h h'

theorem ofRewritten {R : LifecycleState → LifecycleState → Prop}
    (hpaces : ∀ {a b}, R a b → Paces a b) (h : RecordsRewritten R m m') : RecordsPaced m m' :=
  FinMap.Related.mono
    (fun _ _ hrec => ⟨hrec.request, hpaces hrec.lifecycle, fun _ => hrec.currentGrant.trans⟩) h

end RecordsPaced

namespace Scheduler

/-- Only a record that was never started is promoted. -/
theorem promoteToGranted_paces {rec rec' : Record D} (h : promoteToGranted rec = .ok rec') :
    rec'.request = rec.request ∧ rec'.lifecycle = .granted ∧
      Paces rec.lifecycle rec'.lifecycle := by
  unfold promoteToGranted at h
  cases hlife : rec.lifecycle <;> rw [hlife] at h <;> cases h <;>
    refine ⟨rfl, rfl, ⟨fun ha => ?_, fun hb => ?_⟩⟩
  all_goals first | cases hb | cases ha

theorem createGrants_paced (dec : ScheduleDecision D) (ids : List CollectiveRequestId)
    (s : Scheduler D) : RecordsPaced s.records (createGrants dec s ids).1.records := by
  refine createGrants_keeps (P := fun t => RecordsPaced s.records t.records) dec ids ?_
    (RecordsPaced.refl _)
  intro t id rec rec' _ hfind hpromote ht
  obtain ⟨hrequest, hgranted, hpaces⟩ := promoteToGranted_paces hpromote
  refine ht.trans (FinMap.Related.replace Record.Paced.refl hfind
    ⟨hrequest, hpaces, fun hstarted => ?_⟩)
  change rec'.lifecycle.isStarted = true at hstarted
  rw [hgranted] at hstarted
  cases hstarted

theorem scheduleRound_paced [Double D] (s : Scheduler D)
    (recordOrder : List CollectiveRequestId) (grantOrder : List CollectiveGrantId) :
    RecordsPaced s.records (s.scheduleRound recordOrder grantOrder).1.records := by
  cases hround : s.scheduleRound recordOrder grantOrder with
  | mk s' result =>
      cases result with
      | error e => exact .ofRewritten Refreshes.paces (scheduleRound_error hround).records
      | ok result =>
          rw [(scheduleRound_ok hround).state]
          have hrefreshed := RecordsPaced.ofRewritten Refreshes.paces
            (refreshed_rewritten s).records
          exact (hrefreshed.trans (createGrants_paced _ _ _)).trans
            (.ofRewritten Paces.ofEq (closeRound_rewritten _ _ _).records)

end Scheduler

/-- What a call that begins no handoff writes into a record. -/
theorem Record.Touch.paced {op : Op D} (hop : op.isHandoff = false) (rec rec' : Record D)
    (h : Record.Touch op rec rec') : rec.Paced rec' := by
  cases h with
  | revalidate =>
      obtain ⟨hrequest, hgrant, hlife⟩ := Scheduler.demandRevalidation_frame rec
      exact ⟨hrequest, hlife.paces, fun _ => hgrant.trans⟩
  | cancel =>
      have hlife := Scheduler.cancel_lifecycle rec
      refine ⟨rfl, ?_, fun hstarted => ?_⟩
      · rw [hlife]
        exact paces_spent rfl rfl
      · rw [hlife] at hstarted
        cases hstarted
  | dispatch hbegins =>
      rw [hop] at hbegins
      cases hbegins
  | land accepted =>
      refine ⟨rfl, ?_, fun _ => id⟩
      unfold Scheduler.landed
      simp only
      split_ifs with hdispatching
      · rw [hdispatching.1]
        exact ⟨fun _ => rfl, fun _ => rfl⟩
      · exact Paces.refl _
  | handOff hbegins =>
      rw [hop] at hbegins
      cases hbegins
  | complete hactive =>
      refine ⟨rfl, ?_, fun _ hnone => congrArg (Option.map _) hnone⟩
      rw [hactive]
      exact ⟨fun _ => rfl, fun _ => rfl⟩
  | recover =>
      refine ⟨rfl, ?_, fun _ _ => rfl⟩
      simp only [Record.recover, transitionOrForce_eq]
      split_ifs
      · exact Paces.refl _
      · exact paces_spent rfl rfl

/-! ## Calls that ask the fabric -/

namespace System

/-- The grant that a call asks the fabric about, if it comes to that. -/
def askedAbout (y : System D) : Op D → Option CollectiveGrant
  | .handoff g accepted =>
      if .fabricAccept g ∈ (y.sched.handoff g accepted).2.2 then some g else none
  | .handoffBegin g => (y.sched.handoffBegin g).2
  | _ => none

/-- The call asks the fabric about this id at this generation. -/
def asksFabric (id : CollectiveRequestId) (gen : CollectiveRequestGeneration) (y : System D)
    (op : Op D) : Bool :=
  (y.askedAbout op).any (fun g => g.request = id ∧ g.requestGen = gen)

variable {y : System D} {op : Op D} {id : CollectiveRequestId}
  {gen : CollectiveRequestGeneration}

theorem asksFabric_iff :
    asksFabric id gen y op = true ↔
      ∃ g, y.askedAbout op = some g ∧ g.request = id ∧ g.requestGen = gen := by
  simp only [asksFabric, Option.any_eq_true, decide_eq_true_eq]

/-- What a call does to the record under one id, as far as the fabric is concerned. -/
inductive FabricStep (y : System D) (op : Op D) (id : CollectiveRequestId) :
    Option (Record D) → Option (Record D) → Prop
  | absent : FabricStep y op id none none
  | filed {rec : Record D} (hlife : rec.lifecycle = .declared) :
      FabricStep y op id none (some rec)
  | paced {rec rec' : Record D} (h : rec.Paced rec') :
      FabricStep y op id (some rec) (some rec')
  | replaced {rec rec' : Record D} (hgen : rec.request.gen < rec'.request.gen)
      (hlife : rec'.lifecycle = .waiting) : FabricStep y op id (some rec) (some rec')
  | asked {rec rec' : Record D} (hrequest : rec'.request = rec.request)
      (hgranted : rec.lifecycle = .granted) (hstarted : rec'.lifecycle.isStarted = true)
      (hasked : asksFabric id rec.request.gen y op = true) :
      FabricStep y op id (some rec) (some rec')

/-- A record that is started after a call was started before it, or the call asked the fabric
about it. -/
theorem FabricStep.started_cases {before : Option (Record D)} {rec' : Record D}
    (h : FabricStep y op id before (some rec')) (hstarted : rec'.lifecycle.isStarted = true) :
    ∃ rec, before = some rec ∧ rec'.request = rec.request ∧
      (rec.Paced rec' ∧ rec.lifecycle.isStarted = true ∨
        asksFabric id rec.request.gen y op = true) := by
  cases h with
  | filed hlife =>
      rw [hlife] at hstarted
      cases hstarted
  | paced hpaced =>
      exact ⟨_, rfl, hpaced.request, .inl ⟨hpaced, hpaced.paces.started hstarted⟩⟩
  | replaced _ hlife =>
      rw [hlife] at hstarted
      cases hstarted
  | asked hrequest _ _ hasked => exact ⟨_, rfl, hrequest, .inr hasked⟩

theorem fabricStep_of_paced {m m' : FinMap CollectiveRequestId (Record D)}
    (h : RecordsPaced m m') (id : CollectiveRequestId) :
    FabricStep y op id (m.find? id) (m'.find? id) := by
  have hrel := h id
  generalize m.find? id = found at hrel
  generalize m'.find? id = found' at hrel
  cases hrel with
  | none => exact .absent
  | some hrec => exact .paced hrec

variable [Double D]

/-- The fabric is asked about a GRANTED record of the grant's generation, and the record is
started then. -/
theorem askedAbout_some {g : CollectiveGrant} (h : y.askedAbout op = some g) :
    ∃ rec st, y.sched.records.find? g.request = some rec ∧ rec.lifecycle = .granted ∧
      rec.request.gen = g.requestGen ∧ isStarted st = true ∧
      (y.next op).sched.records =
        y.sched.records.insert g.request { rec with lifecycle := st } := by
  cases op with
  | handoff g' accepted =>
      simp only [askedAbout] at h
      split_ifs at h with hcall
      cases h
      rcases y.sched.handoffBegin_cases g with hrefused | ⟨rec, hfind, hvalid, hgranted, hgen, -⟩
      · simp only [Scheduler.handoff, hrefused, List.not_mem_nil] at hcall
      · have hpast : y.sched.Dispatches g :=
          ⟨hvalid, (Option.any_eq_true _ _).mpr ⟨rec, hfind, decide_eq_true hgranted⟩⟩
        obtain ⟨rec', hfind', -, hrecords, -⟩ := Scheduler.handoff_of_dispatches hpast accepted
        rw [hfind, Option.some.injEq] at hfind'
        subst hfind'
        refine ⟨rec, _, hfind, hgranted, hgen, ?_, hrecords⟩
        cases accepted <;> rfl
  | handoffBegin g' =>
      simp only [askedAbout] at h
      rcases y.sched.handoffBegin_cases g' with hrefused | ⟨rec, hfind, -, hgranted, hgen, hbegin⟩
      · rw [hrefused] at h
        cases h
      · rw [hbegin, Option.some.injEq] at h
        subst h
        refine ⟨rec, .dispatching, hfind, hgranted, hgen, rfl, ?_⟩
        rw [sched_next_handoffBegin, hbegin]
        rfl
  | _ => cases h

/-- A call that asks the fabric touches the record of the grant only. -/
theorem fabricStep_of_askedAbout {g : CollectiveGrant} (h : y.askedAbout op = some g)
    (id : CollectiveRequestId) :
    FabricStep y op id (y.sched.records.find? id) ((y.next op).sched.records.find? id) := by
  obtain ⟨rec, st, hfind, hgranted, hgen, hstarted, hrecords⟩ := askedAbout_some h
  rw [hrecords, FinMap.find?_insert]
  split_ifs with hid
  · subst hid
    rw [hfind]
    exact .asked rfl hgranted hstarted (asksFabric_iff.mpr ⟨g, h, rfl, hgen.symm⟩)
  · exact fabricStep_of_paced (.refl _) id

/-- A handoff that does not come to the fabric changes nothing. -/
theorem sched_next_of_askedAbout_none (hop : op.isHandoff = true) (h : y.askedAbout op = none) :
    (y.next op).sched = y.sched := by
  cases op with
  | handoff g accepted =>
      by_cases hpast : y.sched.Dispatches g
      · obtain ⟨-, -, -, -, -, hcall⟩ := Scheduler.handoff_of_dispatches hpast accepted
        simp only [askedAbout, if_pos hcall, reduceCtorEq] at h
      · exact congrArg Prod.fst (Scheduler.handoff_of_not_dispatches hpast accepted)
  | handoffBegin g =>
      rw [sched_next_handoffBegin]
      rcases y.sched.handoffBegin_cases g with hrefused | ⟨rec, -, -, -, -, hbegin⟩
      · rw [hrefused]
      · simp only [askedAbout, hbegin, reduceCtorEq] at h
  | _ => cases hop

theorem fabricStep_submit (y : System D) (req : CollectiveRequest D)
    (id : CollectiveRequestId) :
    FabricStep y (.submit req) id (y.sched.records.find? id)
      ((y.next (.submit req)).sched.records.find? id) := by
  rw [sched_next_submit]
  rcases y.sched.submit_cases req with ⟨next, e, heq⟩ | ⟨-, -, heq⟩
  · rw [heq]
    exact fabricStep_of_paced (.refl _) id
  · rw [heq, FinMap.find?_emplace]
    split_ifs with hid
    · subst hid
      cases y.sched.records.find? y.sched.nextRequestId with
      | none => exact .filed rfl
      | some rec => exact .paced (.refl rec)
    · exact fabricStep_of_paced (.refl _) id

theorem fabricStep_supersede (y : System D) (req : CollectiveRequest D)
    (id : CollectiveRequestId) :
    FabricStep y (.supersede req) id (y.sched.records.find? id)
      ((y.sched.supersede req).1.records.find? id) := by
  rcases y.sched.supersede_cases req with ⟨e, heq⟩ | ⟨old, hfind, hgen, -, heq⟩
  · rw [heq]
    exact fabricStep_of_paced (.refl _) id
  · rw [heq]
    simp only [Scheduler.releaseForSupersede_records, FinMap.find?_insert]
    split_ifs with hid
    · rw [hid, hfind]
      exact .replaced hgen rfl
    · exact fabricStep_of_paced (.refl _) id

theorem fabricStep (y : System D) (op : Op D) (id : CollectiveRequestId) :
    FabricStep y op id (y.sched.records.find? id) ((y.next op).sched.records.find? id) := by
  cases hhandoff : op.isHandoff with
  | true =>
      cases hasked : y.askedAbout op with
      | none =>
          rw [sched_next_of_askedAbout_none hhandoff hasked]
          exact fabricStep_of_paced (.refl _) id
      | some g => exact fabricStep_of_askedAbout hasked id
  | false =>
      cases htouches : op.onlyTouches with
      | true =>
          exact fabricStep_of_paced
            (y.next_related Record.Paced.refl Record.Paced.trans (Record.Touch.paced hhandoff)
              htouches) id
      | false =>
          cases op with
          | submit req => exact fabricStep_submit y req id
          | supersede req => exact fabricStep_supersede y req id
          | schedule recordOrder grantOrder =>
              rw [sched_next_schedule]
              exact fabricStep_of_paced (y.sched.scheduleRound_paced recordOrder grantOrder) id
          | _ => cases htouches

end System

end CollectiveScheduler
