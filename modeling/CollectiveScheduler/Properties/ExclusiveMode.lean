/-
  Properties/ExclusiveMode.lean --- EXCLUSIVE requests across rounds.

  The selection loop keeps an EXCLUSIVE request alone among the requests of its round.
  What an earlier round has granted is compared with a candidate only through the
  participants they share, and the overlap mode is not part of that comparison, so an
  EXCLUSIVE request and one on other participants can execute together when they are
  granted in two rounds.  As long as every round finds the EXCLUSIVE requests apart from
  what is engaged, an EXCLUSIVE request executes alone in every reachable state.
-/
import CollectiveScheduler.Scheduler.Selection
import CollectiveScheduler.System.Execution
import CollectiveScheduler.System.Scenario

set_option autoImplicit false

namespace CollectiveScheduler

open Foundation

variable {D : Type}

namespace Scheduler

/-- While a grant of an EXCLUSIVE request executes, no other grant does. -/
def ExclusiveAlone (s : Scheduler D) : Prop :=
  ∀ gid gs rec, s.Live gid gs → s.records.find? gs.grant.request = some rec →
    rec.request.overlap = .exclusive → ∀ gid' gs', s.Live gid' gs' → gid' = gid

/-- Neither request is EXCLUSIVE. -/
def NeitherExclusive (a b : CollectiveRequest D) : Prop :=
  a.overlap ≠ .exclusive ∧ b.overlap ≠ .exclusive

instance (a b : CollectiveRequest D) : Decidable (NeitherExclusive a b) :=
  inferInstanceAs (Decidable (_ ∧ _))

/-- The round could select no request beside one that is granted or executes, where either
is EXCLUSIVE. -/
def ExclusiveClear [Double D] (s : Scheduler D) : Prop :=
  ∀ id rec, s.records.find? id = some rec → s.selectable rec = true →
    ∀ id' rec', s.records.find? id' = some rec' →
      rec'.lifecycle = .granted ∨ s.Occupied id' → NeitherExclusive rec.request rec'.request

instance [Double D] (s : Scheduler D) : Decidable s.ExclusiveClear :=
  inferInstanceAs (Decidable (∀ id rec, s.records.find? id = some rec → s.selectable rec = true →
    ∀ id' rec', s.records.find? id' = some rec' →
      rec'.lifecycle = .granted ∨ s.Occupied id' → NeitherExclusive rec.request rec'.request))

variable {s : Scheduler D} {issued : List CollectiveGrant}

/-- Where engaged requests stand beside each other only without an EXCLUSIVE one, an
EXCLUSIVE request executes alone. -/
theorem Apart.exclusiveAlone (h : s.Apart NeitherExclusive) (howned : s.Owned)
    (hissuance : s.Issuance issued) : s.ExclusiveAlone := by
  intro gid gs rec hl hfind hexclusive gid' gs' hl'
  obtain ⟨rec', hfind', -⟩ := howned.owner gid' gs' hl'
  by_contra hne
  have hreq : gs.grant.request ≠ gs'.grant.request := fun hreq =>
    hne (howned.unique hissuance hl hl' hreq).symm
  have hneither := h _ _ rec rec' ⟨hfind, .inr ⟨gid, gs, hl, rfl⟩⟩
    ⟨hfind', .inr ⟨gid', gs', hl', rfl⟩⟩ hreq
  exact hneither.1 hexclusive

/-- What a round admits stands beside another request only without an EXCLUSIVE one. -/
theorem admitted_neitherExclusive [Double D] (hkeyed : s.Keyed) (hclear : s.ExclusiveClear)
    {recordOrder : List CollectiveRequestId} {id id' : CollectiveRequestId} {rec rec' : Record D}
    (hid : id ∈ s.selection recordOrder) (hfind : s.records.find? id = some rec)
    (hfind' : s.records.find? id' = some rec') (hne : id ≠ id')
    (hcase : s.Engaged id' rec' ∨ id' ∈ s.selection recordOrder) :
    NeitherExclusive rec.request rec'.request := by
  rcases hcase with hengaged | hid'
  · exact hclear id rec hfind (selectable_of_selected hkeyed hid hfind) id' rec' hfind'
      hengaged.turn
  · exact (mayOverlap_checks (selection_mayOverlap hkeyed hid hid' hne hfind hfind')).2.1

end Scheduler

/-! ## Whole runs -/

/-- A scheduling round is made only where the EXCLUSIVE requests are clear of each other
and of the rest. -/
def Op.ExclusiveApart [Double D] (y : System D) : Op D → Prop
  | .schedule _ _ => y.sched.ExclusiveClear
  | _ => True

instance [Double D] (y : System D) (op : Op D) : Decidable (op.ExclusiveApart y) := by
  rcases op <;> unfold Op.ExclusiveApart <;> infer_instance

theorem System.next_neitherExclusive [Double D] {y : System D} {op : Op D} (hsound : y.Sound)
    (howned : y.sched.Owned) (h : y.sched.Apart Scheduler.NeitherExclusive)
    (hatomic : op.isAtomic = true) (hissued : op.UsesIssued y) (hapart : op.ExclusiveApart y) :
    (y.next op).sched.Apart Scheduler.NeitherExclusive := by
  refine next_apart (fun _ _ hneither => hneither.symm) hsound howned h hatomic hissued ?_
  intro id rec id' rec' hid hfind hfind' hne hcase
  cases op with
  | schedule recordOrder grantOrder =>
      exact Scheduler.admitted_neitherExclusive hsound.orderly.keyed hapart hid hfind hfind' hne
        hcase
  | _ => cases hid

/-- In every run of atomic calls with issued grants whose scheduling rounds find the
EXCLUSIVE requests apart from what is engaged, an EXCLUSIVE request executes alone. -/
theorem exclusive_alone_of_apart [Double D] (policy : PolicyConfig D) (epoch : CoordinatorEpoch)
    (ops : List (Op D))
    (hrun : Runs.Admissible System.next
      (fun y op => op.isAtomic = true ∧ op.UsesIssued y ∧ op.ExclusiveApart y)
      (System.start policy epoch) ops) :
    ((System.start policy epoch).run ops).sched.ExclusiveAlone := by
  have hinvariant := Runs.invariant
    (I := fun y : System D => y.Sound ∧ y.sched.Owned ∧ y.sched.Apart Scheduler.NeitherExclusive)
    (fun y op ⟨hsound, howned, hneither⟩ ⟨hatomic, hissued, hapart⟩ =>
      ⟨System.next_sound hsound hissued, System.next_owned hsound howned hatomic hissued,
        System.next_neitherExclusive hsound howned hneither hatomic hissued hapart⟩)
    ⟨System.start_sound policy epoch, .fresh policy epoch, .fresh _ policy epoch⟩ hrun
  exact hinvariant.2.2.exclusiveAlone hinvariant.2.1 hinvariant.1.issuance

namespace Scenario

/-- The two EXCLUSIVE requests take their turns. -/
def turnsTaken : List (Op ℚ) :=
  withGrant
    (withGrant (disjointRequests .exclusive .empty ++ [.schedule [] []]) 1
      (fun g => [.handoff g true, .complete g 11 100, .schedule [] []]))
    2 (fun g => [.handoff g true])

/-- The second EXCLUSIVE request is granted while the first executes. -/
def turnsMixed : List (Op ℚ) :=
  withGrant
    (withGrant (disjointRequests .exclusive .empty ++ [.schedule [] []]) 1
      (fun g => [.handoff g true, .schedule [] []]))
    2 (fun g => [.handoff g true])

/-- Some executing grant is of an EXCLUSIVE request and does not execute alone. -/
def exclusiveBeside {D : Type} (s : Scheduler D) : Bool :=
  s.grants.entries.any fun e => s.grants.entries.any fun e' =>
    e.2.isLive && e'.2.isLive && e'.1 ≠ e.1 &&
      (s.records.find? e.2.grant.request).any fun rec => rec.request.overlap = .exclusive

theorem not_exclusiveAlone {D : Type} {s : Scheduler D} (h : exclusiveBeside s = true) :
    ¬s.ExclusiveAlone := by
  intro halone
  simp only [exclusiveBeside, List.any_eq_true, Bool.and_eq_true, decide_eq_true_eq,
    Option.any_eq_true] at h
  obtain ⟨⟨gid, gs⟩, hmem, ⟨gid', gs'⟩, hmem', ⟨⟨hl, hl'⟩, hne⟩, rec, hfind, hexclusive⟩ := h
  exact hne (halone gid gs rec ⟨FinMap.mem_entries_iff.mp hmem, hl⟩ hfind hexclusive gid' gs'
    ⟨FinMap.mem_entries_iff.mp hmem', hl'⟩)

end Scenario

theorem exclusive_alone_of_apart_turns :
    Runs.Admissible System.next
        (fun y op => op.isAtomic = true ∧ op.UsesIssued y ∧ op.ExclusiveApart y)
        Scenario.start Scenario.turnsTaken ∧
      (Scenario.start.run Scenario.turnsTaken).sched.ExclusiveAlone :=
  have hrun : Runs.Admissible System.next
      (fun y op => op.isAtomic = true ∧ op.UsesIssued y ∧ op.ExclusiveApart y)
      Scenario.start Scenario.turnsTaken := by decide +kernel
  ⟨hrun, exclusive_alone_of_apart PolicyConfig.default 1 Scenario.turnsTaken hrun⟩

/-- Two EXCLUSIVE requests on different participants are granted in two rounds, and both
execute. -/
theorem exclusive_requests_execute_together :
    AtomicRun Scenario.start Scenario.turnsMixed ∧
      ¬(Scenario.start.run Scenario.turnsMixed).sched.ExclusiveAlone :=
  ⟨by decide +kernel, Scenario.not_exclusiveAlone (by decide +kernel)⟩

end CollectiveScheduler
