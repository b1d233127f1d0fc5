/-
  Properties/FencedBoot.lean --- evidence from a fenced worker boot.

  A fence takes the readiness of the participants that are stored at that moment and
  keeps no memory of the boot.  A publication of the dead boot that arrives later is
  stored like any other, and its participant is ready again
  (`fenced_boot_comes_back`).  As long as no such publication is accepted, the boot
  stays silent in every continuation: its participants are never ready, no request
  that names one is selected, and none of them authorises a completion.
-/
import CollectiveScheduler.Properties.HardEligibility
import CollectiveScheduler.System.Barred
import CollectiveScheduler.System.EvidenceStep
import CollectiveScheduler.System.Scenario
import CollectiveScheduler.System.World

set_option autoImplicit false

namespace CollectiveScheduler

open Foundation

variable {D : Type}

/-- No stored participant of the boot is ready with a known source. -/
def Scheduler.Silenced (s : Scheduler D) (worker : WorkerId) (boot : WorkerBootId) : Prop :=
  ∀ pid p, s.participants.find? pid = some p → p.worker = worker → p.workerBoot = boot →
    p.isAvailable = false

/-- The action publishes a participant of the boot as ready with a known source, and
the publication is not refused for its generation. -/
def Action.Revives (worker : WorkerId) (boot : WorkerBootId) (w : World D) : Action D → Prop
  | .call (.publishParticipant p) => p.worker = worker ∧ p.workerBoot = boot ∧
      p.isAvailable = true ∧ w.sys.sched.participantRegresses p = false
  | _ => False

instance (worker : WorkerId) (boot : WorkerBootId) (w : World D) (a : Action D) :
    Decidable (a.Revives worker boot w) := by
  unfold Action.Revives
  split <;> infer_instance

/-! ## The invariant -/

namespace Scheduler

variable {s : Scheduler D} {worker : WorkerId} {boot : WorkerBootId}

/-- Another fence only takes readiness. -/
theorem Silenced.fenceParticipants (h : s.Silenced worker boot) (worker' : WorkerId)
    (boot' : WorkerBootId) : (s.fenceParticipants worker' boot').Silenced worker boot := by
  intro pid p hfind hworker hboot
  have hmap : (s.participants.find? pid).map _ = some p :=
    (FinMap.find?_mapVals _ _ _).symm.trans hfind
  obtain ⟨p₀, hfind₀, rfl⟩ := Option.map_eq_some_iff.mp hmap
  split_ifs at hworker hboot ⊢ with hfenced
  · rfl
  · exact h pid p₀ hfind₀ hworker hboot

theorem silenced_fenceParticipants (s : Scheduler D) (worker : WorkerId) (boot : WorkerBootId) :
    (s.fenceParticipants worker boot).Silenced worker boot := by
  intro pid p hfind hworker hboot
  have hmap : (s.participants.find? pid).map _ = some p :=
    (FinMap.find?_mapVals _ _ _).symm.trans hfind
  obtain ⟨p₀, -, rfl⟩ := Option.map_eq_some_iff.mp hmap
  split_ifs at hworker hboot ⊢ with hfenced
  · rfl
  · exact absurd ⟨hworker, hboot⟩ hfenced

theorem Silenced.of_participants_eq {s' : Scheduler D} (h : s.Silenced worker boot)
    (heq : s'.participants = s.participants) : s'.Silenced worker boot := by
  unfold Silenced
  rw [heq]
  exact h

theorem silenced_of_empty {s' : Scheduler D} (heq : s'.participants = .empty) :
    s'.Silenced worker boot := by
  intro pid p hfind
  rw [heq] at hfind
  cases hfind

theorem Silenced.restore [Double D] (h : s.Silenced worker boot) (bytes : List UInt8) :
    (Persistence.restore s bytes).1.Silenced worker boot := by
  unfold Persistence.restore
  split
  · exact h
  · split
    · exact h
    · split_ifs
      · exact h.of_participants_eq rfl
      · exact silenced_of_empty rfl

end Scheduler

section Steps

variable [Double D] {worker : WorkerId} {boot : WorkerBootId}

theorem System.next_silenced {y : System D} {op : Op D} (h : y.sched.Silenced worker boot)
    (hop : ∀ p, op = .publishParticipant p → y.sched.participantRegresses p = false →
      p.worker = worker → p.workerBoot = boot → p.isAvailable = false) :
    (y.next op).sched.Silenced worker boot := by
  rcases y.participants_next op with
    heq | ⟨p, rfl, hregress, heq⟩ | ⟨worker', boot', recordOrder, rfl, heq⟩ | ⟨rfl, heq⟩
  · exact h.of_participants_eq heq
  · intro pid p' hfind hworker hboot
    rw [heq, FinMap.find?_insert] at hfind
    split_ifs at hfind
    · cases hfind
      exact hop _ rfl hregress hworker hboot
    · exact h pid p' hfind hworker hboot
  · exact (h.fenceParticipants worker' boot').of_participants_eq heq
  · exact Scheduler.silenced_of_empty heq

theorem World.next_silenced {w : World D} {a : Action D}
    (h : w.sys.sched.Silenced worker boot) (ha : ¬a.Revives worker boot w) :
    (w.next a).sys.sched.Silenced worker boot := by
  cases a with
  | call op =>
      refine System.next_silenced h fun p hop hregress hworker hboot => ?_
      subst hop
      exact Bool.eq_false_of_not_eq_true fun hready => ha ⟨hworker, hboot, hready, hregress⟩
  | save recordOrder => exact h
  | restore bytes =>
      have hrestore := h.restore bytes
      unfold World.next
      simp only
      split <;> rename_i hcase <;> rw [hcase] at hrestore <;> exact hrestore
  | restoreFresh policy epoch bytes =>
      have hfresh : (Scheduler.fresh policy epoch).Silenced worker boot :=
        Scheduler.silenced_of_empty rfl
      have hrestore := hfresh.restore bytes
      unfold World.next
      simp only
      split
      · rename_i hcase
        rw [hcase] at hrestore
        exact hrestore
      · exact h

end Steps

/-! ## The result -/

namespace Scheduler

variable {s : Scheduler D} {worker : WorkerId} {boot : WorkerBootId}

/-- A participant that is available does not run under a silenced boot. -/
theorem Silenced.hostedBy_false (h : s.Silenced worker boot) {pid : ParticipantId}
    {p : Participant} (hfind : s.participants.find? pid = some p)
    (hready : p.isAvailable = true) : s.hostedBy worker boot pid = false := by
  refine Bool.eq_false_of_not_eq_true fun hhosted => ?_
  simp only [hostedBy, hfind, Option.any_some, Bool.and_eq_true, decide_eq_true_eq] at hhosted
  rw [h pid p hfind hhosted.1 hhosted.2] at hready
  cases hready

end Scheduler

/-- After a fence, in every continuation in which no publication of the boot is
accepted as ready, no stored participant of the boot is ready, no request that names
one is selected, and no grant that lists one is completed. -/
theorem fenced_boot_stays_silent [Double D] (policy : PolicyConfig D) (epoch : CoordinatorEpoch)
    (actions later : List (Action D)) (worker : WorkerId) (boot : WorkerBootId)
    (order : List CollectiveRequestId)
    (hlater : Runs.Admissible World.next (fun w a => ¬a.Revives worker boot w)
      (((World.start policy epoch).run actions).next (.call (.fenceWorkerBoot worker boot order)))
      later) :
    let w := (((World.start policy epoch).run actions).next
      (.call (.fenceWorkerBoot worker boot order))).run later
    w.sys.sched.Silenced worker boot ∧
    (∀ recordOrder grantOrder s' dec,
      w.sys.sched.schedule recordOrder grantOrder = (s', .ok dec) → ∀ id ∈ dec.selected,
        ∃ rec, w.sys.sched.records.find? id = some rec ∧
          ∀ pid ∈ rec.request.participants, w.sys.sched.hostedBy worker boot pid = false) ∧
    (∀ g wb sb, (w.sys.sched.complete g wb sb).2.1 = true →
      ∀ pid ∈ g.participants, w.sys.sched.hostedBy worker boot pid = false) := by
  intro w
  have hfenced : (((World.start policy epoch).run actions).next
      (.call (.fenceWorkerBoot worker boot order))).sys.sched.Silenced worker boot :=
    (Scheduler.silenced_fenceParticipants ((World.start policy epoch).run actions).sys.sched
      worker boot).of_participants_eq
        (congrArg Evidence.participants (Scheduler.evidence_of_setting
          (Scheduler.setting_fenceWorkerBoot _ worker boot order)))
  have hsilent : w.sys.sched.Silenced worker boot :=
    Runs.invariant (I := fun w : World D => w.sys.sched.Silenced worker boot)
      (fun _ _ h ha => World.next_silenced h ha) hfenced hlater
  have hkeyed : w.sys.sched.Keyed :=
    Runs.exec_induct (P := fun w : World D => w.sys.sched.Keyed)
      (fun _ a h => World.next_keyed h a) later
      (World.next_keyed (World.run_keyed policy epoch actions) _)
  refine ⟨hsilent, ?_, ?_⟩
  · intro recordOrder grantOrder s' dec hdecided id hid
    obtain ⟨rec, hfind, heligible⟩ :=
      (Scheduler.mem_decision_iff hkeyed hdecided).mp (.inl hid)
    obtain ⟨-, -, hhard⟩ := Scheduler.eligible_iff.mp heligible
    obtain ⟨-, hparticipants, -⟩ := Scheduler.hardEligible_none hhard
    refine ⟨rec, hfind, fun pid hpid => ?_⟩
    obtain ⟨i, hi⟩ := List.mem_iff_getElem?.mp hpid
    obtain ⟨p, hp, -, hready, hsource⟩ := Scheduler.participantRejection_none
      (hparticipants (pid, i) (List.mk_mem_zipIdx_iff_getElem?.mpr hi))
    refine hsilent.hostedBy_false hp ?_
    simp only [Participant.isAvailable, hready, Bool.true_and, bne_iff_ne, ne_eq]
    exact hsource
  · intro g wb sb hcomplete pid hpid
    obtain ⟨rec, gs, -, -, hallowed, -⟩ := Scheduler.complete_true hcomplete
    obtain ⟨-, -, -, -, -, -, hcurrent, -⟩ := Scheduler.completionAllowed_iff.mp hallowed
    obtain ⟨i, hi⟩ := List.mem_iff_getElem?.mp hpid
    have hone := hcurrent (pid, i) (List.mk_mem_zipIdx_iff_getElem?.mpr hi)
    unfold Scheduler.participantCurrent at hone
    split at hone
    · cases hone
    · rename_i p hp
      simp only [Bool.and_eq_true] at hone
      exact hsilent.hostedBy_false hp hone.2

/-- Worker 1 publishes its participant under boot 11, a request for it is filed, and
the boot is fenced. -/
def Scenario.fenced : List (Op ℚ) :=
  [.publishParticipant (Scenario.participant 1 1 1 11), .publishPlan (Scenario.plan 1 1 [1]),
    .submit (Scenario.request 1 [1] 1), .fenceWorkerBoot ⟨1⟩ ⟨11⟩ []]

/-- The worker restarts: its participant is published under the next boot after the
fence, and the fenced boot stays silent. -/
theorem fenced_boot_stays_silent_restarted :
    ((World.start (PolicyConfig.default : PolicyConfig ℚ) 1).run
      ((Scenario.fenced.take 3).map .call)).sys.sched.hostedBy ⟨1⟩ ⟨11⟩ ⟨1⟩ = true ∧
    ((((World.start (PolicyConfig.default : PolicyConfig ℚ) 1).run
      ((Scenario.fenced.take 3).map .call)).next (.call (.fenceWorkerBoot ⟨1⟩ ⟨11⟩ []))).run
        [.call (.publishParticipant (Scenario.participant 1 1 1 12))]).sys.sched.Silenced
          ⟨1⟩ ⟨11⟩ :=
  ⟨by decide +kernel,
    (fenced_boot_stays_silent PolicyConfig.default 1 ((Scenario.fenced.take 3).map .call)
      [.call (.publishParticipant (Scenario.participant 1 1 1 12))] ⟨1⟩ ⟨11⟩ []
      (by decide +kernel)).1⟩

/-- A publication of the fenced boot that arrives after the fence is stored: the
participant is ready again, and the request for it is selected. -/
theorem fenced_boot_comes_back :
    let y := (Scenario.start.run Scenario.fenced).next
      (.publishParticipant (Scenario.participant 1 1 1 11))
    ¬y.sched.Silenced ⟨1⟩ ⟨11⟩ ∧ y.sched.hostedBy ⟨1⟩ ⟨11⟩ ⟨1⟩ = true ∧
      ((y.sched.schedule [] []).2.toOption.map (·.selected)) = some [⟨1⟩] := by
  intro y
  refine ⟨fun hsilent => ?_, by decide +kernel, by decide +kernel⟩
  have hfind : y.sched.participants.find? ⟨1⟩ = some (Scenario.participant 1 1 1 11) := by
    decide +kernel
  exact absurd (hsilent _ _ hfind rfl rfl) (by decide)

end CollectiveScheduler
