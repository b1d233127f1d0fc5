/-
  Properties/FreshGrants.lean --- the grants of a round are honoured in any order.

  A round finds its candidates by one walk over the evidence; every handoff makes
  another one, from the fields of the grant.  For a grant that has just been created the
  two agree, and each handoff leaves the other grants of the round as they were.  What a
  round may give twice is an id, when the counter stops at its largest value before the
  last grant.
-/
import CollectiveScheduler.System.LastIds
import CollectiveScheduler.System.Provenance

set_option autoImplicit false

namespace CollectiveScheduler

open Foundation

variable {D : Type}

namespace Scheduler

/-- The record is GRANTED with the grant, which names its request, the generations of the
request and the current epoch. -/
structure GrantedWith (s : Scheduler D) (g : CollectiveGrant) (rec : Record D) : Prop where
  lifecycle : rec.lifecycle = .granted
  current : rec.currentGrant = some g
  names : g.Names rec.request
  drawn : g.DrawnFrom rec.request
  epoch : g.evidence.epoch = s.epoch

/-- What holds of the grants of a round that takes `s` to `s'`. -/
structure Honours (s s' : Scheduler D) (issued : List CollectiveGrant)
    (dec : ScheduleDecision D) (created : List CollectiveGrant) : Prop where
  ids : dec.grants = created.map CollectiveGrant.id
  /-- the grants run parallel to the selected requests -/
  requests : created.map CollectiveGrant.request = dec.selected
  held : ∀ g ∈ created, ∃ rec, s'.records.find? g.request = some rec ∧ s'.GrantedWith g rec
  fresh : ∀ gid ∈ dec.grants, s.grants.find? gid = none ∧ ∀ g ∈ issued, g.id ≠ gid
  valid : ∀ g ∈ created, s'.revalidateGrant g = .valid
  /-- a fabric that accepts gets all of them, in any order -/
  handedOff : ∀ order : List CollectiveGrant, order.Perm created →
    (s'.handoffAll order).2 = List.replicate created.length true ∧
      ∀ id ∈ dec.selected, ∃ rec,
        (s'.handoffAll order).1.records.find? id = some rec ∧ rec.lifecycle = .active

variable [Double D] {s s' : Scheduler D}

/-- A grant filled in for a READY request revalidates against its record. -/
theorem revalidates_grantFor {rec rec' : Record D}
    (hready : s.computeReadiness rec.request = .ready) (hdated : CongestionDated s.evidence)
    (hrequest : rec'.request = rec.request) (hgranted : rec'.lifecycle = .granted)
    (t : Scheduler D) : s.Revalidates (grantFor t rec.request s.openDecision) rec' := by
  have hprepared := computeReadiness_eq_ready_iff.mp hready
  constructor
  case requestGen => rw [hrequest]; rfl
  case collectiveGen => rw [hrequest]; rfl
  case epoch => rfl
  case lifecycle => rw [hgranted]; decide
  case plan => exact fun _ => hprepared.plan
  case participants => exact fun _ => ⟨by rw [hrequest]; rfl, hprepared.participants⟩
  case dependencies =>
    rw [hrequest]
    exact fun _ d hd => (dependencySatisfied_iff.mp (hprepared.dependencies d hd)).1
  case reservation =>
    rw [hrequest]
    exact fun _ => (reservationUsable_iff.mp hprepared.reservation).1
  case congestion =>
    intro _
    unfold congestionCurrent
    cases hpublished : s.congestion with
    | none => rfl
    | some c => exact decide_eq_true (hdated c hpublished)

section Ids

variable {recordOrder : List CollectiveRequestId} {grantOrder : List CollectiveGrantId}
  {dec : ScheduleDecision D} {created : List CollectiveGrant}

/-- The ids of a round are not below the counter. -/
theorem le_ids_scheduleRound (horderly : s.Orderly)
    (hround : s.scheduleRound recordOrder grantOrder = (s', .ok (dec, created))) :
    ∀ g ∈ created, s.nextGrantId.value.toNat ≤ g.id.value.toNat := by
  intro g hg
  have hmem : g.id.value.toNat ∈ created.map (fun g => g.id.value.toNat) :=
    List.mem_map_of_mem hg
  rw [toNat_ids_scheduleRound horderly hround] at hmem
  obtain ⟨k, -, hk⟩ := List.mem_map.mp hmem
  have hbound := Id.toNat_le_maxValue s.nextGrantId
  omega

/-- They are distinct if the counter has one for each selected request. -/
theorem nodup_ids_scheduleRound (horderly : s.Orderly)
    (hround : s.scheduleRound recordOrder grantOrder = (s', .ok (dec, created)))
    (hroom : s.nextGrantId.value.toNat + dec.selected.length ≤ maxValue + 1) :
    (created.map CollectiveGrant.id).Nodup := by
  have hids : created.map (fun g => g.id.value.toNat) =
      (List.range dec.selected.length).map (s.nextGrantId.value.toNat + ·) := by
    rw [toNat_ids_scheduleRound horderly hround]
    refine List.map_congr_left fun k hk => Nat.min_eq_left ?_
    have hlt := List.mem_range.mp hk
    omega
  refine List.Nodup.of_map (fun gid : CollectiveGrantId => gid.value.toNat) ?_
  rw [List.map_map]
  change (created.map (fun g => g.id.value.toNat)).Nodup
  rw [hids]
  exact List.nodup_range.map fun _ _ h => Nat.add_left_cancel h

end Ids

end Scheduler

/-! ## The grants of a round in service -/

namespace System.Attested

/-- Below saturation, no entry and no issued grant has an id from the counter on. -/
theorem fresh_of_le {y : System D} (h : y.Attested)
    (hbelow : y.sched.nextGrantId.value.toNat < maxValue) {gid : CollectiveGrantId}
    (hgid : y.sched.nextGrantId.value.toNat ≤ gid.value.toNat) :
    y.sched.grants.find? gid = none ∧ ∀ g ∈ y.issued, g.id ≠ gid := by
  have hissued : ∀ g ∈ y.issued, g.id ≠ gid := by
    rintro g hg rfl
    exact absurd hgid (not_le.mpr (Id.lt_def.mp ((h.table hbelow).below g hg)))
  refine ⟨?_, hissued⟩
  cases hentry : y.sched.grants.find? gid with
  | none => rfl
  | some gs =>
      obtain ⟨g, hg, hid⟩ := h.named gid gs hentry
      exact absurd hid (hissued g hg)

variable [Double D] {y : System D} {s' : Scheduler D} {recordOrder : List CollectiveRequestId}
  {grantOrder : List CollectiveGrantId} {dec : ScheduleDecision D}
  {created : List CollectiveGrant}

theorem grantedWith (h : y.Attested)
    (hround : y.sched.scheduleRound recordOrder grantOrder = (s', .ok (dec, created))) :
    ∀ g ∈ created, ∃ rec, s'.records.find? g.request = some rec ∧ s'.GrantedWith g rec := by
  intro g hg
  obtain ⟨rec, t, rec', -, -, hgrant, hfind', hrequest, hgranted, hcurrent⟩ :=
    Scheduler.held_scheduleRound h.orderly hround g hg
  refine ⟨rec', hfind', hgranted, hcurrent, ?_, ?_, ?_⟩
  · rw [hrequest, hgrant]
    exact ⟨rfl, rfl, rfl, rfl, rfl, rfl⟩
  · rw [hrequest, hgrant]
    exact ⟨rfl, rfl, rfl, rfl⟩
  · rw [Scheduler.scheduleRound_epoch hround, hgrant]
    rfl

/-- The checks of a handoff find the evidence the round has read. -/
theorem deliverable (h : y.Attested)
    (hround : y.sched.scheduleRound recordOrder grantOrder = (s', .ok (dec, created))) :
    ∀ g ∈ created, s'.Deliverable g := by
  intro g hg
  obtain ⟨rec, t, rec', -, heligible, hgrant, hfind', hrequest, hgranted, hcurrent⟩ :=
    Scheduler.held_scheduleRound h.orderly hround g hg
  constructor
  case dispatches =>
    have hchecks := Scheduler.revalidates_grantFor (Scheduler.eligible_iff.mp heligible).2.1
      h.dated hrequest hgranted t
    rw [← hgrant] at hchecks
    exact Scheduler.dispatches_iff.mpr ⟨rec', hfind', hgranted, hchecks.congr
      (Scheduler.scheduleRound_evidence hround) (Scheduler.scheduleRound_epoch hround)⟩
  case stored =>
    have hstocked := (h.next (.schedule recordOrder grantOrder)).stocked
    rw [sched_next_schedule, hround] at hstocked
    exact hstocked _ rec' g hfind' (by rw [hgranted]; rfl) hcurrent

/-- Handed off in any order, all of them are accepted. -/
theorem handedOff (h : y.Attested)
    (hround : y.sched.scheduleRound recordOrder grantOrder = (s', .ok (dec, created)))
    {order : List CollectiveGrant} (horder : order.Perm created) :
    (s'.handoffAll order).2 = List.replicate created.length true ∧
      ∀ id ∈ dec.selected, ∃ rec,
        (s'.handoffAll order).1.records.find? id = some rec ∧ rec.lifecycle = .active := by
  have hrequests := Scheduler.requests_scheduleRound h.orderly hround
  have hnodup : (order.map CollectiveGrant.request).Nodup := by
    rw [(horder.map _).nodup_iff, hrequests, (Scheduler.scheduleRound_ok hround).selected]
    exact Scheduler.nodup_selection h.orderly.keyed recordOrder
  obtain ⟨hanswers, hactive, -⟩ := Scheduler.handoffAll_deliverable
    (fun g hg => h.deliverable hround g (horder.mem_iff.mp hg)) hnodup
  refine ⟨by rw [hanswers, horder.length_eq], fun id hid => ?_⟩
  rw [← hrequests, ← (horder.map _).mem_iff] at hid
  obtain ⟨g, hg, rfl⟩ := List.mem_map.mp hid
  exact hactive g hg

end System.Attested

/-- In service, with the grant-id counter below its largest value, a round returns a
decision, and its grants are parallel to the selected requests, new, held, valid, and
accepted in whatever order they are handed off.  If the counter has an id left for each of
them, the ids are distinct and every id leads to its grant. -/
theorem fresh_grants_are_honoured [Double D] {y : System D} (hy : y.InService)
    (hbelow : y.sched.nextGrantId.value.toNat < maxValue)
    (recordOrder : List CollectiveRequestId) (grantOrder : List CollectiveGrantId) :
    ∃ s' dec created, y.sched.schedule recordOrder grantOrder = (s', .ok dec) ∧
      y.sched.Honours s' y.issued dec created ∧
      (y.sched.nextGrantId.value.toNat + dec.selected.length ≤ maxValue + 1 →
        dec.grants.Nodup ∧ dec.grants.map s'.grantById = created.map some) := by
  have hattested := hy.attested
  have horderly := hattested.orderly
  obtain ⟨s', dec, created, hround⟩ :=
    Scheduler.scheduleRound_isOk horderly.settled recordOrder grantOrder
  have hgrants := Scheduler.scheduleRound_grants hround
  have hfresh : ∀ g ∈ created, y.sched.grants.find? g.id = none ∧ ∀ g' ∈ y.issued, g'.id ≠ g.id :=
    fun g hg => hattested.fresh_of_le hbelow
      (Scheduler.le_ids_scheduleRound horderly hround g hg)
  refine ⟨s', dec, created, by rw [Scheduler.schedule, hround]; rfl, ?_, fun hroom => ?_⟩
  · constructor
    case ids => exact hgrants
    case requests => exact Scheduler.requests_scheduleRound horderly hround
    case held => exact hattested.grantedWith hround
    case fresh =>
      intro gid hgid
      rw [hgrants] at hgid
      obtain ⟨g, hg, rfl⟩ := List.mem_map.mp hgid
      exact hfresh g hg
    case valid => exact fun g hg => (hattested.deliverable hround g hg).dispatches.1
    case handedOff => exact fun order horder => hattested.handedOff hround horder
  · have hdistinct := Scheduler.nodup_ids_scheduleRound horderly hround hroom
    have hstored := Scheduler.stored_scheduleRound horderly hround hdistinct
      fun g hg => (hfresh g hg).1
    rw [hgrants, List.map_map]
    refine ⟨hdistinct, List.map_congr_left fun g hg => ?_⟩
    simp only [Function.comp_apply, Scheduler.grantById, hstored g hg, Option.map_some]

theorem fresh_grants_are_honoured_crowd :
    ∃ (y : System ℚ) (s' : Scheduler ℚ) (dec : ScheduleDecision ℚ)
      (created : List CollectiveGrant), y.InService ∧
      y.sched.nextGrantId.value.toNat < maxValue ∧ y.sched.schedule [] [] = (s', .ok dec) ∧
      dec.selected.length = 3 ∧ y.sched.Honours s' y.issued dec created ∧ dec.grants.Nodup ∧
      dec.grants.map s'.grantById = created.map some := by
  have hy : (Scenario.start.run (Saturation.evidence ++ Saturation.gather)).InService :=
    .run (.start PolicyConfig.default 1) _
  have hselection : ((Scenario.start.run
      (Saturation.evidence ++ Saturation.gather)).sched.selection []).length = 3 := by
    decide +kernel
  have hcounter : (Scenario.start.run
      (Saturation.evidence ++ Saturation.gather)).sched.nextGrantId = 1 := by
    decide +kernel
  have hbelow : (Scenario.start.run
      (Saturation.evidence ++ Saturation.gather)).sched.nextGrantId.value.toNat < maxValue := by
    rw [hcounter]
    decide
  obtain ⟨s', dec, created, hround, hhonours, hdistinct⟩ :=
    fresh_grants_are_honoured hy hbelow [] []
  have hlength : dec.selected.length = 3 := by
    rw [Scheduler.schedule_selected hround]
    exact hselection
  exact ⟨_, s', dec, created, hy, hbelow, hround, hlength, hhonours,
    hdistinct (by rw [hcounter, hlength]; decide)⟩

/-- The counter is below its largest value, with two ids left: a round that selects three
requests gives two of them grants with the same id. -/
theorem fresh_ids_run_out :
    ∃ y : System ℚ, y.InService ∧ y.sched.nextGrantId.value.toNat < maxValue ∧
      ∃ s' dec, y.sched.schedule [] [] = (s', .ok dec) ∧ dec.selected.length = 3 ∧
        ¬dec.grants.Nodup := by
  obtain ⟨n, hn⟩ : ∃ n, n + 3 = maxValue := ⟨maxValue - 3, rfl⟩
  have hcycled := Saturation.cycled_turns n (by omega)
  obtain ⟨hwaiting, hkept⟩ := hcycled.toQuiet.gather
  have hy : ((Scenario.start.run (Saturation.turns n)).run Saturation.gather).InService :=
    (System.InService.run (.start PolicyConfig.default 1) _).run _
  have hcounter : ((Scenario.start.run (Saturation.turns n)).run
      Saturation.gather).sched.nextGrantId.value.toNat + 1 = maxValue := by
    rw [hkept, hcycled.counter]
    omega
  exact ⟨_, hy, Nat.lt_of_succ_le hcounter.le,
    hwaiting.last_id_twice hy.attested.orderly hcounter⟩

end CollectiveScheduler
