/-
  Properties/FenceScope.lean --- a fence reaches the grants of the fenced boot, and
  no others.

  A fence spends every issued grant whose request has a participant on the fenced
  boot: the record loses its grant for good, whatever is republished afterwards.  A
  record without such a participant keeps its state and its grant entry as long as
  grant ids are unique.  Once the id counter is saturated two records can share an
  entry, and the fence of one revokes the grant of the other
  (`fence_revokes_shared_entry`).
-/
import CollectiveScheduler.Scheduler.Fencing
import CollectiveScheduler.System.Barred
import CollectiveScheduler.System.GrantTable
import CollectiveScheduler.System.Saturation

set_option autoImplicit false

namespace CollectiveScheduler

open Foundation LifecycleState

variable {D : Type}

namespace LifecycleState

theorem isSpent_of_not_pending {st : LifecycleState} (hpending : st.isPending = false)
    (hholder : st.isHolder = false) : st.isSpent = true := by
  cases st <;> first | rfl | exact absurd hpending (by decide) | exact absurd hholder (by decide)

theorem not_terminal_of_isHolder {st : LifecycleState} (h : st.isHolder = true) :
    st.isTerminalState = false := by
  cases st <;> first | rfl | exact absurd h (by decide)

end LifecycleState

namespace Scheduler

variable {s : Scheduler D} {issued : List CollectiveGrant} {g : CollectiveGrant}

/-- An issued grant whose record does not hold it is spent. -/
theorem Issuance.spent_of_not_holder (h : s.Issuance issued) (hg : g ∈ issued) {rec : Record D}
    (hfind : s.records.find? g.request = some rec)
    (hnot : g.requestGen = rec.request.gen → rec.lifecycle.isHolder = false) : s.Spent g := by
  have hrec := h.records g.request rec hfind
  refine ⟨rec, hfind, ?_⟩
  rcases lt_or_eq_of_le (hrec.bounded g hg rfl) with hlt | heq
  · exact .inl hlt
  · refine .inr ⟨heq, isSpent_of_not_pending ?_ (hnot heq)⟩
    exact Bool.eq_false_of_not_eq_true fun hpending => hrec.pending hpending g hg rfl heq

/-- After a fence of a boot that hosts a participant of the grant or of its request,
the grant is spent. -/
theorem Issuance.fence_spent (h : s.Issuance issued) (hg : g ∈ issued) {rec : Record D}
    (hfind : s.records.find? g.request = some rec) {worker : WorkerId} {boot : WorkerBootId}
    {pid : ParticipantId} (hlisted : pid ∈ rec.request.participants ∨ pid ∈ g.participants)
    (hhosted : s.hostedBy worker boot pid = true) (recordOrder : List CollectiveRequestId) :
    (s.fenceWorkerBoot worker boot recordOrder).Spent g := by
  have hafter : (s.fenceWorkerBoot worker boot recordOrder).records.find? g.request =
      some (if s.isHit worker boot rec then rec.demandRevalidation else rec) := by
    rw [find?_records_fenceWorkerBoot, hfind, Option.map_some]
  refine (h.fenceWorkerBoot worker boot recordOrder).spent_of_not_holder hg hafter fun hgen => ?_
  split_ifs at hgen ⊢ with hhit
  · exact demandRevalidation_not_holder rec
  · -- a record that holds the grant names the hosted participant, and would be hit
    refine Bool.eq_false_of_not_eq_true fun hholder => hhit ?_
    obtain ⟨-, hnames⟩ := h.current_of_holder hg hfind hgen.symm hholder
    have hmem : pid ∈ rec.request.participants :=
      hlisted.elim id (fun hpid => hnames.participants ▸ hpid)
    rw [isHit, not_terminal_of_isHolder hholder]
    exact List.any_eq_true.mpr ⟨pid, hmem, hhosted⟩

/-- A record without a participant on the boot is not hit. -/
theorem not_isHit {worker : WorkerId} {boot : WorkerBootId} {rec : Record D}
    (h : ∀ pid ∈ rec.request.participants, s.hostedBy worker boot pid = false) :
    s.isHit worker boot rec = false := by
  have hany : rec.request.participants.any (s.hostedBy worker boot) = false :=
    List.any_eq_false.mpr fun pid hpid => by rw [h pid hpid]; decide
  rw [isHit, hany, Bool.and_false]

/-- With unique grant ids, the entries of a record that is not hit stay as they are. -/
theorem GrantTable.fence_entry (h : s.GrantTable issued) (hissuance : s.Issuance issued)
    (hkeyed : s.Keyed) {worker : WorkerId} {boot : WorkerBootId}
    (recordOrder : List CollectiveRequestId) {rid : CollectiveRequestId} {rec : Record D}
    (hfind : s.records.find? rid = some rec) (hnot : s.isHit worker boot rec = false)
    {gid : CollectiveGrantId} {gs : GrantState} (hentry : s.grants.find? gid = some gs)
    (hrequest : gs.grant.request = rid) :
    (s.fenceWorkerBoot worker boot recordOrder).grants.find? gid = some gs := by
  rw [find?_grants_fenceWorkerBoot recordOrder, hentry]
  intro rid' rec' g' hfind' hhit hcur hgid
  obtain ⟨hid, hmem⟩ := hissuance.entries gid gs hentry
  obtain ⟨hg', hnames⟩ := (hissuance.records rid' rec' hfind').current g' hcur
  have hsame : gs.grant = g' := h.distinct gs.grant hmem g' hg' (hid.trans hgid.symm)
  have hrid : rid' = rid := by
    rw [← hkeyed rid' rec' hfind', ← hnames.request, ← hsame, hrequest]
  subst hrid
  rw [hfind] at hfind'
  cases hfind'
  rw [hnot] at hhit
  cases hhit

end Scheduler

/-! ## The result -/

/-- After a fence, every grant issued before it for a request with a participant on
the fenced boot is refused in every continuation.  As long as the grant-id counter is
not saturated, every record without such a participant and every entry that names its
request are unchanged by the fence. -/
theorem fence_kills_exactly_hosted_grants [Double D] (policy : PolicyConfig D)
    (epoch : CoordinatorEpoch) (ops after : List (Op D)) (worker : WorkerId)
    (boot : WorkerBootId) (order : List CollectiveRequestId)
    (hrun : AtomicRun (System.start policy epoch) ops) :
    let y := (System.start policy epoch).run ops
    let fenced := y.next (.fenceWorkerBoot worker boot order)
    (∀ g ∈ y.issued, ∀ rec pid, y.sched.records.find? g.request = some rec →
      pid ∈ rec.request.participants ∨ pid ∈ g.participants →
      y.sched.hostedBy worker boot pid = true → ∀ accepted wb sb,
        (fenced.run after).outcome (.handoff g accepted) = .answered false ∧
        (fenced.run after).outcome (.handoffBegin g) = .asked false ∧
        ((fenced.run after).outcome (.handoffEnd g accepted)).isTrue = false ∧
        (fenced.run after).outcome (.complete g wb sb) = .answered false) ∧
    (y.sched.nextGrantId.value.toNat < maxValue →
      ∀ rid rec, y.sched.records.find? rid = some rec →
        (∀ pid ∈ rec.request.participants, y.sched.hostedBy worker boot pid = false) →
        fenced.sched.records.find? rid = some rec ∧
        ∀ gid gs, y.sched.grants.find? gid = some gs → gs.grant.request = rid →
          fenced.sched.grants.find? gid = some gs) := by
  intro y fenced
  have hinterleaved := hrun.interleaved
  have hsound : y.Sound := hinterleaved.sound
  constructor
  · intro g hg rec pid hfind hlisted hhosted accepted wb sb
    have hspent : fenced.sched.Spent g :=
      hsound.issuance.fence_spent hg hfind hlisted hhosted order
    have hground : g ∉ fenced.inFlight := by
      rw [y.inFlight_next_of_atomic rfl, hrun.inFlight_nil rfl]
      exact List.not_mem_nil
    have hground' := System.run_grounded (P := fun y => y.sched.Spent g)
      (fun _ op hy => System.next_spent hy op)
      (fun _ hy => Scheduler.handoffBegin_none_of (.inl hy)) hspent hground after
    obtain ⟨hhandoff, hbegin, hcomplete⟩ :=
      System.refuses_spent (System.run_spent hspent after) accepted wb sb
    refine ⟨hhandoff, hbegin, ?_, hcomplete⟩
    simp only [System.outcome, System.step, if_neg hground']
    rfl
  · intro hids rid rec hfind hunhosted
    have hnot := Scheduler.not_isHit hunhosted
    refine ⟨?_, fun gid gs hentry hrequest => ?_⟩
    · change (y.sched.fenceWorkerBoot worker boot order).records.find? rid = some rec
      rw [Scheduler.find?_records_fenceWorkerBoot, hfind, Option.map_some, hnot]
      rfl
    · exact (hinterleaved.grantTable hids).fence_entry hsound.issuance hsound.orderly.keyed order
        hfind hnot hentry hrequest

/-- Two requests on two workers are granted, and the boot of the second worker is
fenced: its grant stays refused when the participant is published again, and the first
request keeps its grant. -/
theorem fence_kills_exactly_hosted_grants_republished :
    let ops : List (Op ℚ) := Saturation.turns 0 ++ Saturation.admitOther
    let after : List (Op ℚ) := [.publishParticipant (Scenario.participant 2 1 2 22)]
    let y := Scenario.start.run ops
    let fenced := y.next (.fenceWorkerBoot ⟨2⟩ ⟨22⟩ [])
    ∃ g ∈ y.issued, ∃ rec, g.request = ⟨2⟩ ∧
      (fenced.run after).outcome (.handoff g true) = .answered false ∧
      y.sched.records.find? ⟨1⟩ = some rec ∧ rec.lifecycle = .granted ∧
      fenced.sched.records.find? ⟨1⟩ = some rec := by
  intro ops after y fenced
  have hall := fence_kills_exactly_hosted_grants PolicyConfig.default 1 ops after ⟨2⟩ ⟨22⟩ []
    (by decide +kernel)
  have hissued : (y.issued.find? (fun g => g.request = ⟨2⟩)).isSome = true := by decide +kernel
  obtain ⟨g, hg⟩ := Option.isSome_iff_exists.mp hissued
  have hrequest : g.request = ⟨2⟩ := by simpa using List.find?_some hg
  have hfirst : (y.sched.records.find? ⟨1⟩).any (fun rec => rec.lifecycle = .granted ∧
      ∀ pid ∈ rec.request.participants, y.sched.hostedBy ⟨2⟩ ⟨22⟩ pid = false) = true := by
    decide +kernel
  have hsecond : (y.sched.records.find? ⟨2⟩).any (fun rec => ⟨2⟩ ∈ rec.request.participants) =
      true := by
    decide +kernel
  simp only [Option.any_eq_true, decide_eq_true_eq] at hfirst hsecond
  obtain ⟨rec, hfind, hlife, hunhosted⟩ := hfirst
  obtain ⟨other, hother, hlisted⟩ := hsecond
  refine ⟨g, List.mem_of_find?_eq_some hg, rec, hrequest, ?_, hfind, hlife, ?_⟩
  · exact (hall.1 g (List.mem_of_find?_eq_some hg) other ⟨2⟩ (hrequest ▸ hother) (.inl hlisted)
      (by decide +kernel) true 0 0).1
  · exact (hall.2 (by decide +kernel) ⟨1⟩ rec hfind hunhosted).1

/-- Once the id counter is saturated, two requests share the entry of the largest id.
The fence of a boot that hosts only the second one marks the entry of the first one's
grant terminal. -/
theorem fence_revokes_shared_entry :
    ∃ ops : List (Op ℚ), AtomicRun Scenario.start ops ∧
      let s := (Scenario.start.run ops).sched
      ∃ rec g gs, s.records.find? ⟨1⟩ = some rec ∧ rec.currentGrant = some g ∧
        (∀ pid ∈ rec.request.participants, s.hostedBy ⟨2⟩ ⟨22⟩ pid = false) ∧
        s.grants.find? g.id = some gs ∧ gs.grant.request = ⟨1⟩ ∧ gs.terminal = false ∧
        (s.fenceWorkerBoot ⟨2⟩ ⟨22⟩ []).grants.find? g.id = some { gs with terminal := true } := by
  obtain ⟨ops, hops, hcycled⟩ := Saturation.exists_cycled_saturated
  obtain ⟨g', hadmitted⟩ := hcycled.toQuiet.admitOther
  obtain ⟨first, g, hfirst, hrequest, -, hcur, hgid, hentry⟩ := hcycled.held
  obtain ⟨s₀, dec, hgrant, hnext, -⟩ := hadmitted.grant
  obtain ⟨second, hsecond, hrequest', hlife', hcur'⟩ := hadmitted.held
  -- the second grant has the id of the first one, whose entry stays
  have hsame : g'.id = g.id := by
    refine Id.ext_toNat ?_
    rw [hgrant, hgid]
    change s₀.nextGrantId.value.toNat = maxValue
    rw [hnext, hcycled.counter, Nat.min_eq_right (Nat.le_succ _)]
  have hnames : g.Names first.request :=
    ((hcycled.sound.issuance.records ⟨1⟩ first hfirst).current g hcur).2
  have hrel := hadmitted.first
  rw [hfirst] at hrel
  have hatomic : AtomicRun (Scenario.start : System ℚ) (ops ++ Saturation.admitOther) :=
    AtomicRun.of_no_grants fun op hop =>
      (List.mem_append.mp hop).elim (hops op) (Saturation.admitOther_atomic op)
  have hsplit : (Scenario.start : System ℚ).run (ops ++ Saturation.admitOther) =
      (Scenario.start.run ops).run Saturation.admitOther := Runs.exec_append _ _ _
  refine ⟨ops ++ Saturation.admitOther, hatomic, ?_⟩
  rw [hsplit]
  generalize (Scenario.start.run ops).run Saturation.admitOther = z at *
  have hparticipants : z.sched.participants = Saturation.published.participants :=
    congrArg Evidence.participants hadmitted.prepared.evidence
  have hhosted : z.sched.hostedBy ⟨2⟩ ⟨22⟩ = Saturation.published.hostedBy ⟨2⟩ ⟨22⟩ := by
    unfold Scheduler.hostedBy
    rw [hparticipants]
  have hentry' : z.sched.grants.find? g.id = some { grant := g } := by
    rw [hadmitted.grants, FinMap.find?_emplace, if_pos hsame.symm, hsame, hentry, Option.getD_some]
  have hhit : z.sched.isHit ⟨2⟩ ⟨22⟩ second = true := by
    rw [Scheduler.isHit, hlife', hrequest', hhosted]
    decide +kernel
  generalize hfound : z.sched.records.find? 1 = found at hrel
  cases hrel with
  | @some _ first' hrec =>
      refine ⟨first', g, { grant := g }, hfound, hrec.currentGrant.trans hcur, ?_, hentry',
        hnames.request.trans (by rw [hrequest]; rfl), rfl, ?_⟩
      · rw [hrec.request, hrequest, hhosted]
        decide +kernel
      · have hrevoked := Scheduler.find?_grants_fenceWorkerBoot_hit [] hsecond hhit hcur'
        rw [hsame, hentry'] at hrevoked
        exact hrevoked

end CollectiveScheduler
