/-
  Properties/PriorityInversion.lean --- which inversions a round reports.

  `collect_priority_inversions` looks for the holder among the grant entries that are active
  and not terminal, and never at the lifecycle of the holder's record.  Entry and lifecycle
  part when a participant publication takes an ACTIVE record to REVALIDATION_REQUIRED and
  leaves its entry active.  Where a holder is ACTIVE exactly when one grant of it executes,
  the reported pairs are the inversions, each once.
-/
import CollectiveScheduler.Properties.ConflictScan
import CollectiveScheduler.System.World

set_option autoImplicit false

namespace CollectiveScheduler

open Foundation

variable {D : Type}

/-- The pairs of holder and requester that a decision reports. -/
def ScheduleDecision.inversionPairs (dec : ScheduleDecision D) :
    List (CollectiveRequestId × CollectiveRequestId) :=
  dec.priorityInversions.map fun ev => (ev.holder, ev.requester)

namespace Scheduler

/-! ## Inversions -/

/-- The footprint a record has in a round: recomputed from the current plan, unless the
record is terminal. -/
def roundFootprint (s : Scheduler D) (rec : Record D) : Footprint :=
  if rec.lifecycle.isTerminalState then rec.footprint
  else makeFootprint rec.request.participants rec.request.resourceClaims
    (s.plans.find? rec.request.planId)

/-- The holder has the lower priority, and the footprints forbid overlap. -/
structure Inverts (s : Scheduler D) (requester holder : Record D) : Prop where
  lower : holder.request.priority.value < requester.request.priority.value
  forbids : (classifyConflict (s.roundFootprint requester)
    (s.roundFootprint holder)).forbidsOverlap = true

/-- The requester is a fallback of the decision with an authoritative priority, and the
holder an ACTIVE record that it is inverted with. -/
structure Inversion (s : Scheduler D) (fallback : List CollectiveRequestId)
    (pair : CollectiveRequestId × CollectiveRequestId) (requester holder : Record D) : Prop where
  waits : pair.2 ∈ fallback
  asks : s.records.find? pair.2 = some requester
  authoritative : requester.request.priority.authoritative = true
  holds : s.records.find? pair.1 = some holder
  active : holder.lifecycle = .active
  inverts : s.Inverts requester holder

/-- The decision reports the inversions, each once. -/
structure ReportsInversions (s : Scheduler D) (dec : ScheduleDecision D) : Prop where
  once : dec.inversionPairs.Nodup
  exact : ∀ pair, pair ∈ dec.inversionPairs ↔
    ∃ requester holder, s.Inversion dec.fallback pair requester holder

/-- The record is ACTIVE exactly when a grant of it executes, and then one does. -/
structure InStep (s : Scheduler D) (id : CollectiveRequestId) (rec : Record D) : Prop where
  active : rec.lifecycle = .active ↔ s.Occupied id
  single : ∀ gid gid' gs gs', s.Live gid gs → s.Live gid' gs' → gs.grant.request = id →
    gs'.grant.request = id → gid = gid'

/-- Every record that one of the requests is inverted with, at an authoritative priority, is
in step with its grants. -/
def HoldersInStep (s : Scheduler D) (requests : CollectiveRequestId → Record D → Prop) : Prop :=
  ∀ id requester, s.records.find? id = some requester → requests id requester →
    requester.request.priority.authoritative = true →
    ∀ id' holder, s.records.find? id' = some holder → s.Inverts requester holder →
      s.InStep id' holder

instance (s : Scheduler D) (requester holder : Record D) :
    Decidable (s.Inverts requester holder) :=
  decidable_of_iff (_ ∧ _) ⟨fun h => ⟨h.1, h.2⟩, fun h => ⟨h.1, h.2⟩⟩

instance (s : Scheduler D) (id : CollectiveRequestId) (rec : Record D) :
    Decidable (s.InStep id rec) :=
  decidable_of_iff ((rec.lifecycle = .active ↔ s.Occupied id) ∧
      ∀ gid gs, s.grants.find? gid = some gs → ∀ gid' gs', s.grants.find? gid' = some gs' →
        gs.isLive = true → gs'.isLive = true → gs.grant.request = id →
        gs'.grant.request = id → gid = gid')
    ⟨fun h => ⟨h.1, fun gid gid' gs gs' hl hl' =>
        h.2 gid gs hl.1 gid' gs' hl'.1 hl.2 hl'.2⟩,
      fun h => ⟨h.active, fun gid gs hentry gid' gs' hentry' hl hl' =>
        h.single gid gid' gs gs' ⟨hentry, hl⟩ ⟨hentry', hl'⟩⟩⟩

instance (s : Scheduler D) (requests : CollectiveRequestId → Record D → Prop)
    [∀ id rec, Decidable (requests id rec)] : Decidable (s.HoldersInStep requests) :=
  inferInstanceAs (Decidable (∀ id requester, s.records.find? id = some requester →
    requests id requester → requester.request.priority.authoritative = true →
    ∀ id' holder, s.records.find? id' = some holder → s.Inverts requester holder →
      s.InStep id' holder))

/-! ## What the round shows -/

/-- The records with their requests and footprints. -/
def SameFaces (m m' : FinMap CollectiveRequestId (Record D)) : Prop :=
  FinMap.Related (fun rec rec' => rec'.request = rec.request ∧ rec'.footprint = rec.footprint) m m'

theorem SameFaces.refl (m : FinMap CollectiveRequestId (Record D)) : SameFaces m m :=
  FinMap.Related.refl (fun _ => ⟨rfl, rfl⟩) m

theorem SameFaces.trans {m m' m'' : FinMap CollectiveRequestId (Record D)}
    (h : SameFaces m m') (h' : SameFaces m' m'') : SameFaces m m'' :=
  FinMap.Related.trans (fun _ _ _ hrec hrec' =>
    ⟨hrec'.1.trans hrec.1, hrec'.2.trans hrec.2⟩) h h'

section Round

variable [Double D] {s s' : Scheduler D} {recordOrder : List CollectiveRequestId}
  {grantOrder : List CollectiveGrantId} {dec : ScheduleDecision D}

theorem refreshRecord_roundFootprint (s : Scheduler D) (rec : Record D) :
    (s.refreshRecord rec).1.footprint = s.roundFootprint rec := by
  unfold roundFootprint
  split_ifs with hterminal
  · rw [s.refreshRecord_terminal hterminal]
  · exact s.refreshRecord_footprint (Bool.eq_false_iff.mpr hterminal)

/-- The inversions are collected over the same requests, with the footprints of the round,
and over the grants that executed before it. -/
structure Shows (s s' : Scheduler D) : Prop where
  records : FinMap.Related (fun rec rec' => rec'.request = rec.request ∧
    rec'.footprint = s.roundFootprint rec) s.records s'.records
  live : ∀ gid gs, s'.Live gid gs ↔ s.Live gid gs

theorem schedule_shows (h : s.schedule recordOrder grantOrder = (s', .ok dec)) : s.Shows s' := by
  have hcreated := createGrants_keeps
    (P := fun t => SameFaces s.refreshed.records t.records ∧
      ∀ gid gs, t.Live gid gs ↔ s.Live gid gs)
    s.openDecision (s.selection recordOrder)
    (fun t id rec rec' _ hfind hpromote ht =>
      ⟨ht.1.trans (FinMap.Related.replace (fun _ => ⟨rfl, rfl⟩) hfind
          (by rw [promoteToGranted_ok hpromote]; exact ⟨rfl, rfl⟩)),
        fun gid gs => live_createGrant.trans (ht.2 gid gs)⟩)
    ⟨SameFaces.refl _, fun _ _ => Iff.rfl⟩
  have hclosed : ∀ (t : Scheduler D) candidates selected,
      SameFaces t.records ((t.overlapGroup selected).1.accountFairness candidates
        selected).records := by
    intro t candidates selected
    refine (t.closeRound_records candidates selected).mono ?_
    rintro rec _ ⟨account, rfl⟩
    exact ⟨rfl, rfl⟩
  rw [schedule_state h]
  refine ⟨?_, fun gid gs => ?_⟩
  · have hrefreshed : FinMap.Related (fun rec rec' => rec'.request = rec.request ∧
        rec'.footprint = s.roundFootprint rec) s.records s.refreshed.records :=
      FinMap.Related.mapVals (fun _ rec =>
        ⟨(s.refreshRecord_frame rec).1, s.refreshRecord_roundFootprint rec⟩) s.records
    exact FinMap.Related.trans (fun _ _ _ hrec hrec' =>
      ⟨hrec'.1.trans hrec.1, hrec'.2.trans hrec.2⟩) hrefreshed
      (hcreated.1.trans (hclosed _ _ _))
  · unfold Live
    rw [(closeRound_rewritten _ _ _).grants]
    exact hcreated.2 gid gs

/-! ## The reported pairs -/

/-- An event is about an executing grant of a record that the requester is inverted with. -/
theorem Shows.event_origin (h : s.Shows s') (hkeyed : s.Keyed) {requester requester' : Record D}
    (hrequest : requester'.request = requester.request)
    (hfootprint : requester'.footprint = s.roundFootprint requester) {gid : CollectiveGrantId}
    {ev : PriorityInversionEvent} (hev : s'.inversionEvent requester' gid = some ev) :
    ev.requester = requester.request.id ∧ ∃ gs holder, s.Live gid gs ∧
      gs.grant.request = ev.holder ∧ s.records.find? ev.holder = some holder ∧
      s.Inverts requester holder := by
  obtain ⟨hasks, gs, other, hat, hlower, hholder⟩ := inversionEvent_eq_some hev
  obtain ⟨holder, hfind, hother, hface⟩ := h.records.find?_new hat.found
  have hid : gs.grant.request = ev.holder := by
    rw [hholder, hother]
    exact (hkeyed _ holder hfind).symm
  refine ⟨by rw [hasks, hrequest], gs, holder, (h.live gid gs).mp hat.live, hid, hid ▸ hfind, ?_⟩
  have hforbids := hat.forbids
  rw [hfootprint, hface] at hforbids
  rw [hother, hrequest] at hlower
  exact ⟨hlower, hforbids⟩

/-- An executing grant of a record that the requester is inverted with gives an event. -/
theorem Shows.event_of_inverts (h : s.Shows s') (hkeyed : s.Keyed)
    {requester requester' holder : Record D}
    (hrequest : requester'.request = requester.request)
    (hfootprint : requester'.footprint = s.roundFootprint requester) {gid : CollectiveGrantId}
    {gs : GrantState} (hl : s.Live gid gs)
    (hfind : s.records.find? gs.grant.request = some holder)
    (hinverts : s.Inverts requester holder) :
    ∃ ev, s'.inversionEvent requester' gid = some ev ∧ ev.holder = gs.grant.request ∧
      ev.requester = requester.request.id := by
  obtain ⟨holder', hfind', hother, hface⟩ := h.records.find?_some hfind
  have hat : s'.ConflictsAt requester' gid gs holder' := by
    refine ⟨(h.live gid gs).mpr hl, hfind', ?_⟩
    rw [hfootprint, hface]
    exact hinverts.forbids
  have hlower : holder'.request.priority.value < requester'.request.priority.value := by
    rw [hother, hrequest]
    exact hinverts.lower
  obtain ⟨ev, hev⟩ := Option.isSome_iff_exists.mp
    (inversionEvent_isSome_iff.mpr ⟨gs, holder', hat, hlower⟩)
  obtain ⟨hasks, gs', other, hat', -, hholder⟩ := inversionEvent_eq_some hev
  have hgs : gs' = gs := Option.some.inj (hat'.live.1.symm.trans hat.live.1)
  have hsame : some other = some holder' := by
    rw [← hat'.found, ← hfind', hgs]
  refine ⟨ev, hev, ?_, hasks.trans (congrArg _ hrequest)⟩
  rw [hholder, Option.some.inj hsame, hother]
  exact hkeyed _ holder hfind

/-- The events of one waiting request. -/
def eventsOf (s : Scheduler D) (grantOrder : List CollectiveGrantId) (id : CollectiveRequestId) :
    List PriorityInversionEvent :=
  match s.records.find? id with
  | none => []
  | some rec =>
      if !rec.request.priority.authoritative then []
      else (s.grants.iteration grantOrder).filterMap (s.inversionEvent rec)

theorem inversionPairs_eq (h : s.schedule recordOrder grantOrder = (s', .ok dec)) :
    dec.inversionPairs = dec.fallback.flatMap fun id =>
      (s'.eventsOf grantOrder id).map fun ev => (ev.holder, ev.requester) := by
  unfold ScheduleDecision.inversionPairs
  rw [schedule_inversions h]
  exact List.map_flatMap

omit [Double D] in
theorem eventsOf_eq {id : CollectiveRequestId} {rec : Record D}
    (hfind : s.records.find? id = some rec)
    (hauthority : rec.request.priority.authoritative = true) :
    s.eventsOf grantOrder id =
      (s.grants.iteration grantOrder).filterMap (s.inversionEvent rec) := by
  unfold eventsOf
  rw [hfind]
  simp only [hauthority, Bool.not_true, Bool.false_eq_true, if_false]

omit [Double D] in
/-- Only a record with an authoritative priority has events. -/
theorem mem_eventsOf {id : CollectiveRequestId} {ev : PriorityInversionEvent}
    (h : ev ∈ s.eventsOf grantOrder id) :
    ∃ rec gid, s.records.find? id = some rec ∧
      rec.request.priority.authoritative = true ∧ s.inversionEvent rec gid = some ev := by
  unfold eventsOf at h
  split at h
  · cases h
  · rename_i rec hfind
    split_ifs at h with hauthority
    · cases h
    · obtain ⟨gid, -, hev⟩ := List.mem_filterMap.mp h
      exact ⟨rec, gid, hfind, by simpa using hauthority, hev⟩

/-- A pair is reported for each executing grant of a record that a waiting request with an
authoritative priority is inverted with. -/
theorem mem_inversionPairs_iff (hkeyed : s.Keyed)
    (h : s.schedule recordOrder grantOrder = (s', .ok dec))
    {pair : CollectiveRequestId × CollectiveRequestId} :
    pair ∈ dec.inversionPairs ↔ pair.2 ∈ dec.fallback ∧ s.Occupied pair.1 ∧
      ∃ requester holder, s.records.find? pair.2 = some requester ∧
        requester.request.priority.authoritative = true ∧
        s.records.find? pair.1 = some holder ∧ s.Inverts requester holder := by
  have hshows := schedule_shows h
  rw [inversionPairs_eq h, List.mem_flatMap]
  constructor
  · rintro ⟨id, hid, hpair⟩
    obtain ⟨ev, hev, rfl⟩ := List.mem_map.mp hpair
    obtain ⟨requester', gid, hfind', hauthority, hevent⟩ := mem_eventsOf hev
    obtain ⟨requester, hfind, hrequest, hface⟩ := hshows.records.find?_new hfind'
    obtain ⟨hasks, gs, holder, hl, hholder, hfound, hinverts⟩ :=
      hshows.event_origin hkeyed hrequest hface hevent
    rw [hkeyed id requester hfind] at hasks
    rw [hrequest] at hauthority
    simp only [hasks]
    exact ⟨hid, ⟨gid, gs, hl, hholder⟩, requester, holder, hfind, hauthority, hfound, hinverts⟩
  · rintro ⟨hid, ⟨gid, gs, hl, hrequest⟩, requester, holder, hfind, hauthority, hfound, hinverts⟩
    obtain ⟨requester', hfind', hsame, hface⟩ := hshows.records.find?_some hfind
    rw [← hrequest] at hfound
    obtain ⟨ev, hev, hholder, hasks⟩ :=
      hshows.event_of_inverts hkeyed hsame hface hl hfound hinverts
    refine ⟨pair.2, hid, List.mem_map.mpr ⟨ev, ?_, ?_⟩⟩
    · rw [eventsOf_eq hfind' (by rw [hsame, hauthority])]
      exact List.mem_filterMap.mpr ⟨gid,
        FinMap.mem_iteration_iff.mpr ⟨gs, ((hshows.live gid gs).mpr hl).1⟩, hev⟩
    · rw [hholder, hrequest, hasks, hkeyed _ requester hfind]

/-- The executing grants of the records that the request is inverted with belong to different
records. -/
def HoldersExecuteOnce (s : Scheduler D) (requester : Record D) : Prop :=
  ∀ gid gid' gs gs' holder, s.Live gid gs → s.Live gid' gs' →
    gs'.grant.request = gs.grant.request → s.records.find? gs.grant.request = some holder →
    s.Inverts requester holder → gid = gid'

/-- The pairs of one request are different exactly when they come from different records:
the walk visits each grant once. -/
theorem nodup_eventsOf_iff (hkeyed : s.Keyed) (hshows : s.Shows s')
    {id : CollectiveRequestId} {requester : Record D}
    (hfind : s.records.find? id = some requester)
    (hauthority : requester.request.priority.authoritative = true) :
    ((s'.eventsOf grantOrder id).map fun ev => (ev.holder, ev.requester)).Nodup ↔
      s.HoldersExecuteOnce requester := by
  obtain ⟨requester', hfind', hrequest, hface⟩ := hshows.records.find?_some hfind
  rw [eventsOf_eq hfind' (by rw [hrequest, hauthority]), List.map_filterMap]
  constructor
  · intro hnodup gid gid' gs gs' holder hl hl' hsame hfound hinverts
    have hmem : ∀ {gid gs}, s.Live gid gs → gid ∈ s'.grants.iteration grantOrder :=
      fun hlive => FinMap.mem_iteration_iff.mpr ⟨_, ((hshows.live _ _).mpr hlive).1⟩
    obtain ⟨ev, hev, hholder, hasks⟩ :=
      hshows.event_of_inverts hkeyed hrequest hface hl hfound hinverts
    obtain ⟨ev', hev', hholder', hasks'⟩ :=
      hshows.event_of_inverts hkeyed hrequest hface hl' (hsame ▸ hfound) hinverts
    refine FinMap.eq_of_nodup_filterMap hnodup (hmem hl) (hmem hl')
      (Option.map_eq_some_iff.mpr ⟨ev, hev, rfl⟩) (Option.map_eq_some_iff.mpr ⟨ev', hev', ?_⟩)
    rw [hholder, hholder', hsame, hasks, hasks']
  · intro honce
    refine List.Nodup.filterMap ?_ (FinMap.nodup_iteration _ _)
    intro gid gid' pair hpair hpair'
    obtain ⟨ev, hev, rfl⟩ := Option.map_eq_some_iff.mp hpair
    obtain ⟨ev', hev', hsame⟩ := Option.map_eq_some_iff.mp hpair'
    obtain ⟨-, gs, holder, hl, hholder, hfound, hinverts⟩ :=
      hshows.event_origin hkeyed hrequest hface hev
    obtain ⟨-, gs', -, hl', hholder', -, -⟩ :=
      hshows.event_origin hkeyed hrequest hface hev'
    have hboth : gs'.grant.request = gs.grant.request := by
      rw [hholder, hholder', (Prod.mk.inj hsame).1]
    exact honce gid gid' gs gs' holder hl hl' hboth (hholder ▸ hfound) hinverts

theorem nodup_inversionPairs_iff (hkeyed : s.Keyed)
    (h : s.schedule recordOrder grantOrder = (s', .ok dec)) :
    dec.inversionPairs.Nodup ↔ ∀ id ∈ dec.fallback, ∀ requester,
      s.records.find? id = some requester → requester.request.priority.authoritative = true →
        s.HoldersExecuteOnce requester := by
  have hshows := schedule_shows h
  have hfallback : dec.fallback.Nodup := by
    rw [schedule_fallback h]
    exact ((ranking_perm hkeyed recordOrder).nodup_iff.mpr
      (nodup_candidates hkeyed recordOrder)).filter _
  rw [inversionPairs_eq h, List.nodup_flatMap]
  constructor
  · rintro ⟨heach, -⟩ id hid requester hfind hauthority
    exact (nodup_eventsOf_iff hkeyed hshows hfind hauthority).mp (heach id hid)
  · intro honce
    constructor
    · intro id hid
      by_cases hnone : s'.eventsOf grantOrder id = []
      · rw [hnone]
        exact List.nodup_nil
      · obtain ⟨ev, hev⟩ := List.exists_mem_of_ne_nil _ hnone
        obtain ⟨requester', -, hfind', hauthority, -⟩ := mem_eventsOf hev
        obtain ⟨requester, hfind, hrequest, -⟩ := hshows.records.find?_new hfind'
        rw [hrequest] at hauthority
        exact (nodup_eventsOf_iff hkeyed hshows hfind hauthority).mpr
          (honce id hid requester hfind hauthority)
    · -- the pairs of two requests differ in the requester
      have hasks : ∀ {id pair}, pair ∈ (s'.eventsOf grantOrder id).map
          (fun ev => (ev.holder, ev.requester)) → pair.2 = id := by
        intro id pair hpair
        obtain ⟨ev, hev, rfl⟩ := List.mem_map.mp hpair
        obtain ⟨requester', gid, hfind', -, hevent⟩ := mem_eventsOf hev
        obtain ⟨requester, hfind, hrequest, hface⟩ := hshows.records.find?_new hfind'
        rw [(hshows.event_origin hkeyed hrequest hface hevent).1]
        exact hkeyed id requester hfind
      refine hfallback.pairwise_of_forall_ne fun id _ id' _ hne =>
        List.disjoint_left.mpr fun pair hpair hpair' => hne ?_
      rw [← hasks hpair, ← hasks hpair']

/-- The inversions are reported exactly if and only if the holders of the requests that wait
are in step with their grants. -/
theorem reportsInversions_iff (hkeyed : s.Keyed)
    (h : s.schedule recordOrder grantOrder = (s', .ok dec)) :
    s.ReportsInversions dec ↔ s.HoldersInStep (fun id _ => id ∈ dec.fallback) := by
  constructor
  · rintro ⟨honce, hexact⟩ id requester hfind hid hauthority id' holder hfound hinverts
    refine ⟨?_, fun gid gid' gs gs' hl hl' hreq hreq' => ?_⟩
    · have hpair := (hexact (id', id)).symm.trans (mem_inversionPairs_iff hkeyed h)
      constructor
      · intro hactive
        exact (hpair.mp ⟨requester, holder, hid, hfind, hauthority, hfound, hactive,
          hinverts⟩).2.1
      · intro hoccupied
        obtain ⟨requester', holder', hinversion⟩ :=
          hpair.mpr ⟨hid, hoccupied, requester, holder, hfind, hauthority, hfound, hinverts⟩
        have hsame : holder' = holder := Option.some.inj (hinversion.holds.symm.trans hfound)
        exact hsame ▸ hinversion.active
    · exact (nodup_inversionPairs_iff hkeyed h).mp honce id hid requester hfind hauthority
        gid gid' gs gs' holder hl hl' (hreq'.trans hreq.symm) (hreq ▸ hfound) hinverts
  · intro hstep
    constructor
    case once =>
      refine (nodup_inversionPairs_iff hkeyed h).mpr ?_
      intro id hid requester hfind hauthority gid gid' gs gs' holder hl hl' hsame hfound hinverts
      exact (hstep id requester hfind hid hauthority _ holder hfound hinverts).single
        gid gid' gs gs' hl hl' rfl hsame
    case exact =>
      intro pair
      rw [mem_inversionPairs_iff hkeyed h]
      constructor
      · rintro ⟨hid, hoccupied, requester, holder, hfind, hauthority, hfound, hinverts⟩
        exact ⟨requester, holder, hid, hfind, hauthority, hfound,
          (hstep _ requester hfind hid hauthority _ holder hfound hinverts).active.mpr hoccupied,
          hinverts⟩
      · rintro ⟨requester, holder, hid, hfind, hauthority, hfound, hactive, hinverts⟩
        exact ⟨hid,
          (hstep _ requester hfind hid hauthority _ holder hfound hinverts).active.mp hactive,
          requester, holder, hfind, hauthority, hfound, hinverts⟩

end Round

end Scheduler

/-- In every reachable state, a round reports the inversions with ACTIVE holders, each once,
if and only if the holders of the requests it leaves waiting are ACTIVE exactly when one
grant of them executes; so it does if this holds for the holders of every eligible request. -/
theorem inversions_reported_exactly [Double D] (s : Scheduler D) (hreached : s.Reached)
    (recordOrder : List CollectiveRequestId) (grantOrder : List CollectiveGrantId)
    (s' : Scheduler D) (dec : ScheduleDecision D)
    (hdecided : s.schedule recordOrder grantOrder = (s', .ok dec)) :
    (s.HoldersInStep (fun _ rec => s.eligible rec = true) → s.ReportsInversions dec) ∧
    (s.ReportsInversions dec ↔ s.HoldersInStep (fun id _ => id ∈ dec.fallback)) := by
  have hiff := Scheduler.reportsInversions_iff hreached.keyed hdecided
  refine ⟨fun hstep => hiff.mpr fun id requester hfind hid => ?_, hiff⟩
  obtain ⟨rec, hrec, heligible⟩ :=
    (Scheduler.mem_decision_iff hreached.keyed hdecided).mp (.inr hid)
  rw [hfind] at hrec
  cases hrec
  exact hstep id requester hfind heligible

/-! ### A holder that is no longer ACTIVE -/

namespace Scenario

/-- A request with an authoritative priority. -/
def prioritized (req : CollectiveRequest ℚ) (value : Int32) : CollectiveRequest ℚ :=
  { req with priority := { value := value, authoritative := true } }

/-- The first request executes at priority 1; the second meets it in participant 2 at
priority 10. -/
def inverted : List (Op ℚ) :=
  withGrant
    [.publishParticipant (participant 1 1 1 11), .publishParticipant (participant 2 1 1 11),
      .publishParticipant (participant 3 1 1 11), .publishPlan (plan 1 1 [1, 2]),
      .publishPlan (plan 2 1 [2, 3]), .submit (prioritized (request 1 [1, 2] 1) 1),
      .schedule [] []]
    1 (fun g => [.handoff g true, .submit (prioritized (request 2 [2, 3] 2) 10)])

/-- Participant 1, which only the first request names, moves to its next generation. -/
def outdatedHolder : List (Op ℚ) := inverted ++ [.publishParticipant (participant 1 2 1 11)]

/-- A round reports exactly these pairs. -/
def reports (s : Scheduler ℚ) (pairs : List (CollectiveRequestId × CollectiveRequestId)) : Bool :=
  (s.schedule [] []).2.toOption.any fun dec => dec.inversionPairs = pairs

theorem exists_of_reports {s : Scheduler ℚ}
    {pairs : List (CollectiveRequestId × CollectiveRequestId)} (h : reports s pairs = true) :
    ∃ s' dec, s.schedule [] [] = (s', .ok dec) ∧ dec.inversionPairs = pairs := by
  unfold reports at h
  rcases hround : s.schedule [] [] with ⟨s', e | dec⟩
  · rw [hround] at h
    cases h
  · rw [hround] at h
    exact ⟨s', dec, rfl, of_decide_eq_true h⟩

end Scenario

/-- While the holder is ACTIVE, the round reports the one inversion there is. -/
theorem inversions_reported_exactly_active :
    let s := World.afterCalls Scenario.inverted
    ∃ s' dec, s.schedule [] [] = (s', .ok dec) ∧ dec.inversionPairs = [(1, 2)] ∧
      s.HoldersInStep (fun _ rec => s.eligible rec = true) ∧ s.ReportsInversions dec := by
  intro s
  have hreports : Scenario.reports s [(1, 2)] = true := by decide +kernel
  have hstep : s.HoldersInStep (fun _ rec => s.eligible rec = true) := by decide +kernel
  obtain ⟨s', dec, hdecided, hpairs⟩ := Scenario.exists_of_reports hreports
  exact ⟨s', dec, hdecided, hpairs, hstep, (inversions_reported_exactly s
    (World.reached_afterCalls Scenario.inverted) [] [] s' dec hdecided).1 hstep⟩

/-- After the publication the holder has to be revalidated, and the round still reports it. -/
theorem outdated_holder_is_reported :
    let s := World.afterCalls Scenario.outdatedHolder
    ∃ s' dec, s.schedule [] [] = (s', .ok dec) ∧ dec.inversionPairs = [(1, 2)] ∧
      (s.records.find? 1).map (·.lifecycle) = some .revalidationRequired ∧
      ¬s.ReportsInversions dec := by
  intro s
  have hreports : Scenario.reports s [(1, 2)] = true := by decide +kernel
  have hlife : (s.records.find? 1).map (·.lifecycle) = some .revalidationRequired := by
    decide +kernel
  obtain ⟨s', dec, hdecided, hpairs⟩ := Scenario.exists_of_reports hreports
  refine ⟨s', dec, hdecided, hpairs, hlife, fun hexact => ?_⟩
  obtain ⟨requester, holder, hinversion⟩ :=
    (hexact.exact (1, 2)).mp (hpairs ▸ List.mem_singleton_self _)
  rw [hinversion.holds, Option.map_some, hinversion.active] at hlife
  cases hlife

end CollectiveScheduler
