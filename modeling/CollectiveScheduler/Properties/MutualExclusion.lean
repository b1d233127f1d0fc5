/-
  Properties/MutualExclusion.lean --- no two executing grants share a
  participant.

  `schedule` compares a candidate with the grants that are already active, and a
  grant becomes active later, in `handoff`.  A grant that was issued and not
  handed off yet is seen by neither check, so two rounds before the first handoff
  can grant the same participant twice.  As long as no round could select a
  request that shares a participant with a GRANTED one, executing grants are
  disjoint in every reachable state.
-/
import CollectiveScheduler.Scheduler.Selection
import CollectiveScheduler.System.Execution
import CollectiveScheduler.System.Scenario

set_option autoImplicit false

namespace CollectiveScheduler

open Foundation LifecycleState

variable {D : Type}

namespace Scheduler

/-- No two distinct executing grants share a participant. -/
def MutuallyExclusive (s : Scheduler D) : Prop :=
  ∀ gid gid' gs gs', s.Live gid gs → s.Live gid' gs' → gid ≠ gid' →
    gs.grant.participants.Disjoint gs'.grant.participants

/-- The state keeps executing grants and granted requests apart. -/
structure Exclusion (s : Scheduler D) : Prop where
  /-- an executing grant is the current one of its record -/
  owner : ∀ gid gs, s.Live gid gs → ∃ rec, s.records.find? gs.grant.request = some rec ∧
    rec.currentGrant = some gs.grant ∧
    (rec.lifecycle = .active ∨ rec.lifecycle = .revalidationRequired)
  indexed : ∀ gid gs, s.Live gid gs → ∀ p ∈ gs.grant.participants,
    s.activeByParticipant.Lists p gid
  live : s.MutuallyExclusive
  granted : ∀ id id' rec rec', s.records.find? id = some rec →
    s.records.find? id' = some rec' → rec.lifecycle = .granted → rec'.lifecycle = .granted →
    id ≠ id' → rec.request.participants.Disjoint rec'.request.participants
  grantedLive : ∀ id rec gid gs, s.records.find? id = some rec → rec.lifecycle = .granted →
    s.Live gid gs → rec.request.participants.Disjoint gs.grant.participants

variable {s s' : Scheduler D} {issued : List CollectiveGrant}

/-- The requests have no participant in common. -/
def ParticipantsDisjoint (a b : CollectiveRequest D) : Prop :=
  a.participants.Disjoint b.participants

theorem Exclusion.fresh (policy : PolicyConfig D) (epoch : CoordinatorEpoch) :
    Exclusion (Scheduler.fresh policy epoch) where
  owner gid gs h := by cases h.1
  indexed gid gs h := by cases h.1
  live gid gid' gs gs' h := by cases h.1
  granted id id' rec rec' h := by cases h
  grantedLive id rec gid gs h := by cases h

theorem Exclusion.owned (h : s.Exclusion) : s.Owned := ⟨h.owner, h.indexed⟩

/-- The grant of an executing request names the participants of its record. -/
theorem Owned.participants (h : s.Owned) (hissuance : s.Issuance issued)
    {gid : CollectiveGrantId} {gs : GrantState} {rec : Record D} (hl : s.Live gid gs)
    (hfind : s.records.find? gs.grant.request = some rec) :
    gs.grant.participants = rec.request.participants := by
  obtain ⟨owner, hofind, hexec⟩ := h.owner gid gs hl
  rw [hfind] at hofind
  cases hofind
  exact ((hissuance.records _ rec hfind).current gs.grant hexec.1).2.participants

/-- An exclusion keeps the engaged requests apart. -/
theorem Exclusion.apart (h : s.Exclusion) (hissuance : s.Issuance issued) :
    s.Apart ParticipantsDisjoint := by
  rintro id id' rec rec' ⟨hfind, hturn⟩ ⟨hfind', hturn'⟩ hne
  unfold ParticipantsDisjoint
  rcases hturn with hg | ⟨gid, gs, hl, rfl⟩
  · rcases hturn' with hg' | ⟨gid', gs', hl', rfl⟩
    · exact h.granted id id' rec rec' hfind hfind' hg hg' hne
    · rw [← h.owned.participants hissuance hl' hfind']
      exact h.grantedLive id rec gid' gs' hfind hg hl'
  · rw [← h.owned.participants hissuance hl hfind]
    rcases hturn' with hg' | ⟨gid', gs', hl', rfl⟩
    · exact (h.grantedLive id' rec' gid gs hfind' hg' hl).symm
    · rw [← h.owned.participants hissuance hl' hfind']
      exact h.live gid gid' gs gs' hl hl' fun hgid => hne (by
        subst hgid
        rw [Option.some.inj (hl.1.symm.trans hl'.1)])

/-- Engaged requests that are kept apart are an exclusion. -/
theorem Exclusion.of_apart (howned : s.Owned) (hissuance : s.Issuance issued)
    (h : s.Apart ParticipantsDisjoint) : s.Exclusion where
  owner := howned.owner
  indexed := howned.indexed
  live gid gid' gs gs' hl hl' hne := by
    obtain ⟨rec, hfind, -⟩ := howned.owner gid gs hl
    obtain ⟨rec', hfind', -⟩ := howned.owner gid' gs' hl'
    rw [howned.participants hissuance hl hfind, howned.participants hissuance hl' hfind']
    exact h _ _ rec rec' ⟨hfind, .inr ⟨gid, gs, hl, rfl⟩⟩ ⟨hfind', .inr ⟨gid', gs', hl', rfl⟩⟩
      fun hreq => hne (howned.unique hissuance hl hl' hreq)
  granted id id' rec rec' hfind hfind' hg hg' hne :=
    h id id' rec rec' ⟨hfind, .inl hg⟩ ⟨hfind', .inl hg'⟩ hne
  grantedLive id rec gid gs hfind hg hl := by
    obtain ⟨owner, hofind, hexec⟩ := howned.owner gid gs hl
    rw [howned.participants hissuance hl hofind]
    refine h _ _ rec owner ⟨hfind, .inl hg⟩ ⟨hofind, .inr ⟨gid, gs, hl, rfl⟩⟩ ?_
    rintro rfl
    rw [hfind] at hofind
    cases hofind
    exact hexec.not_granted hg

/-! ## The scheduling round -/

/-- No request that the round could select shares a participant with a request that is
granted and not handed off yet. -/
def NoGrantedOverlap [Double D] (s : Scheduler D) : Prop :=
  ∀ id rec, s.records.find? id = some rec → s.selectable rec = true →
    ∀ id' rec', s.records.find? id' = some rec' → rec'.lifecycle = .granted →
      rec.request.participants.Disjoint rec'.request.participants

instance [Double D] (s : Scheduler D) : Decidable s.NoGrantedOverlap :=
  inferInstanceAs (Decidable (∀ id rec, s.records.find? id = some rec → s.selectable rec = true →
    ∀ id' rec', s.records.find? id' = some rec' → rec'.lifecycle = .granted →
      rec.request.participants.Disjoint rec'.request.participants))

/-- Records that the pass refreshed and whose footprints do not conflict share no
participant. -/
theorem disjoint_of_not_forbids [Double D] {rec rec' : Record D}
    (hrec : rec.lifecycle.isTerminalState = false) (hrec' : rec'.lifecycle.isTerminalState = false)
    (h : (classifyConflict (s.refreshRecord rec).1.footprint
      (s.refreshRecord rec').1.footprint).forbidsOverlap = false) :
    rec.request.participants.Disjoint rec'.request.participants := by
  rw [refreshRecord_footprint s hrec, refreshRecord_footprint s hrec'] at h
  intro p hp hp'
  rw [makeFootprint_forbidsOverlap hp hp'] at h
  cases h

section Round

variable [Double D] {recordOrder : List CollectiveRequestId}

/-- A selected request shares no participant with an executing grant. -/
theorem selection_disjoint_live (h : s.Owned) (hissuance : s.Issuance issued)
    (horderly : s.Orderly) {id : CollectiveRequestId} {rec : Record D} {gid : CollectiveGrantId}
    {gs : GrantState} (hid : id ∈ s.selection recordOrder)
    (hfind : s.records.find? id = some rec) (hlive : s.Live gid gs) :
    rec.request.participants.Disjoint gs.grant.participants := by
  intro p hp hp'
  obtain ⟨r, hr, helig, hrfind, -⟩ := selection_ready horderly.keyed horderly.settled hid
  rw [hfind] at hr
  cases hr
  obtain ⟨r', hrfind', hzero⟩ := s.selection_clear hid
  rw [hrfind] at hrfind'
  cases hrfind'
  -- the readiness pass leaves the grants and their listing alone
  obtain ⟨owner, hofind, hexec⟩ := h.owner gid gs hlive
  have hoterm : owner.lifecycle.isTerminalState = false := by
    rcases hexec.2 with hlife | hlife <;> rw [hlife] <;> rfl
  have hforbids := not_forbids_of_activeConflicts hzero
    (by rw [(refreshRecord_frame s rec).1]; exact hp) (h.indexed gid gs hlive p hp')
    hlive.1 hlive.2 (by rw [find?_refreshed, hofind]; rfl)
  have hdisj := disjoint_of_not_forbids (not_terminal_of_pending (eligible_iff.mp helig).1)
    hoterm hforbids
  rw [h.participants hissuance hlive hofind] at hp'
  exact hdisj hp hp'

/-- What a round admits shares no participant with what was engaged before, nor with
what it admits besides. -/
theorem admitted_disjoint (h : s.Owned) (hissuance : s.Issuance issued) (horderly : s.Orderly)
    (hclear : s.NoGrantedOverlap) {id id' : CollectiveRequestId} {rec rec' : Record D}
    (hid : id ∈ s.selection recordOrder) (hfind : s.records.find? id = some rec)
    (hfind' : s.records.find? id' = some rec') (hne : id ≠ id')
    (hcase : s.Engaged id' rec' ∨ id' ∈ s.selection recordOrder) :
    ParticipantsDisjoint rec.request rec'.request := by
  rcases hcase with ⟨-, hg' | ⟨gid, gs, hl, rfl⟩⟩ | hid'
  · exact hclear id rec hfind (selectable_of_selected horderly.keyed hid hfind) id' rec' hfind' hg'
  · unfold ParticipantsDisjoint
    rw [← h.participants hissuance hl hfind']
    exact selection_disjoint_live h hissuance horderly hid hfind hl
  · exact (mayOverlap_checks
      (selection_mayOverlap horderly.keyed hid hid' hne hfind hfind')).2.2

end Round

end Scheduler

/-! ## Whole runs -/

/-- A scheduling round is made only where what it could select is apart from what is
granted. -/
def Op.GrantedApart [Double D] (y : System D) : Op D → Prop
  | .schedule _ _ => y.sched.NoGrantedOverlap
  | _ => True

instance [Double D] (y : System D) (op : Op D) : Decidable (op.GrantedApart y) := by
  rcases op <;> unfold Op.GrantedApart <;> infer_instance

theorem System.next_exclusion [Double D] {y : System D} {op : Op D} (hsound : y.Sound)
    (h : y.sched.Exclusion) (hatomic : op.isAtomic = true) (hissued : op.UsesIssued y)
    (hapart : op.GrantedApart y) : (y.next op).sched.Exclusion := by
  have hissuance := hsound.issuance
  refine Scheduler.Exclusion.of_apart (next_owned hsound h.owned hatomic hissued)
    (next_sound hsound hissued).issuance
    (next_apart (fun _ _ hdisj => hdisj.symm) hsound h.owned (h.apart hissuance) hatomic hissued ?_)
  intro id rec id' rec' hid hfind hfind' hne hcase
  cases op with
  | schedule recordOrder grantOrder =>
      exact Scheduler.admitted_disjoint h.owned hissuance hsound.orderly hapart hid hfind hfind'
        hne hcase
  | _ => cases hid

/-- Footprints made from the participants of two executing grants never classify
as a participant conflict. -/
def Scheduler.NoParticipantConflict (s : Scheduler D) : Prop :=
  ∀ gid gid' gs gs', s.Live gid gs → s.Live gid' gs' → gid ≠ gid' →
    ∀ (claims claims' : List (ResourceClaim D)) (plan plan' : Option (CommunicationPlan D)),
      (classifyConflict (makeFootprint gs.grant.participants claims plan)
        (makeFootprint gs'.grant.participants claims' plan')).classification ≠
          .participantConflict

theorem Scheduler.MutuallyExclusive.noParticipantConflict {s : Scheduler D}
    (h : s.MutuallyExclusive) : s.NoParticipantConflict := by
  intro gid gid' gs gs' hl hl' hne claims claims' plan plan' hconflict
  have hmeet : setIntersect (makeFootprint gs.grant.participants claims plan).participants
      (makeFootprint gs'.grant.participants claims' plan').participants = false := by
    rw [makeFootprint_participants, makeFootprint_participants, Bool.eq_false_iff,
      ne_eq, setIntersect_sortUnique_iff]
    rintro ⟨p, hp, hp'⟩
    exact h gid gid' gs gs' hl hl' hne hp hp'
  unfold classifyConflict at hconflict
  rw [hmeet] at hconflict
  simp only [Bool.false_eq_true, if_false] at hconflict
  split_ifs at hconflict

/-- In every run of atomic calls with issued grants whose scheduling rounds find
granted and selectable requests apart, executing grants share no participant. -/
theorem mutual_exclusion_of_granted_apart [Double D] (policy : PolicyConfig D)
    (epoch : CoordinatorEpoch) (ops : List (Op D))
    (hrun : Runs.Admissible System.next
      (fun y op => op.isAtomic = true ∧ op.UsesIssued y ∧ op.GrantedApart y)
      (System.start policy epoch) ops) :
    ((System.start policy epoch).run ops).sched.MutuallyExclusive ∧
      ((System.start policy epoch).run ops).sched.NoParticipantConflict := by
  have hinvariant := Runs.invariant (I := fun y : System D => y.Sound ∧ y.sched.Exclusion)
    (fun y op hy hop =>
      ⟨System.next_sound hy.1 hop.2.1,
        System.next_exclusion hy.1 hy.2 hop.1 hop.2.1 hop.2.2⟩)
    ⟨System.start_sound policy epoch, Scheduler.Exclusion.fresh policy epoch⟩ hrun
  exact ⟨hinvariant.2.live, hinvariant.2.live.noParticipantConflict⟩

namespace Scenario

/-- The first request runs to completion before the second round. -/
def serialised : List (Op ℚ) :=
  withGrant
    (withGrant (conflictingRequests ++ [.schedule [] []]) 1
      (fun g => [.handoff g true, .complete g 11 100, .schedule [] []]))
    2 (fun g => [.handoff g true])

/-- Two rounds before the first handoff. -/
def twoRounds : List (Op ℚ) :=
  withGrant (withGrant (conflictingRequests ++ [.schedule [] [], .schedule [] []]) 1
    (fun g => [.handoff g true])) 2 (fun g => [.handoff g true])

/-- Two executing grants share a participant. -/
def executesTwice {D : Type} (s : Scheduler D) : Bool :=
  s.grants.entries.any fun e => s.grants.entries.any fun e' =>
    e.1 ≠ e'.1 && e.2.isLive && e'.2.isLive &&
      !decide (e.2.grant.participants.Disjoint e'.2.grant.participants)

theorem not_mutuallyExclusive {D : Type} {s : Scheduler D} (h : executesTwice s = true) :
    ¬s.MutuallyExclusive := by
  intro hexclusive
  simp only [executesTwice, List.any_eq_true, Bool.and_eq_true, decide_eq_true_eq,
    Bool.not_eq_true', decide_eq_false_iff_not] at h
  obtain ⟨⟨gid, gs⟩, hmem, ⟨gid', gs'⟩, hmem', ⟨⟨hne, hlive⟩, hlive'⟩, hshared⟩ := h
  exact hshared (hexclusive gid gid' gs gs' ⟨FinMap.mem_entries_iff.mp hmem, hlive⟩
    ⟨FinMap.mem_entries_iff.mp hmem', hlive'⟩ hne)

end Scenario

theorem mutual_exclusion_of_granted_apart_serialised :
    Runs.Admissible System.next
        (fun y op => op.isAtomic = true ∧ op.UsesIssued y ∧ op.GrantedApart y)
        Scenario.start Scenario.serialised ∧
      (Scenario.start.run Scenario.serialised).sched.MutuallyExclusive ∧
      (Scenario.start.run Scenario.serialised).sched.NoParticipantConflict :=
  have hrun : Runs.Admissible System.next
      (fun y op => op.isAtomic = true ∧ op.UsesIssued y ∧ op.GrantedApart y)
      Scenario.start Scenario.serialised := by decide +kernel
  ⟨hrun, mutual_exclusion_of_granted_apart PolicyConfig.default 1 Scenario.serialised hrun⟩

/-- Two rounds before the first handoff grant participant 2 twice, and both
grants execute after their handoffs. -/
theorem mutual_exclusion_fails_for_two_rounds :
    AtomicRun Scenario.start Scenario.twoRounds ∧
      ¬(Scenario.start.run Scenario.twoRounds).sched.MutuallyExclusive :=
  ⟨by decide +kernel, Scenario.not_mutuallyExclusive (by decide +kernel)⟩

end CollectiveScheduler
