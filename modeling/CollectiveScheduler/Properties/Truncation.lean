/-
  Properties/Truncation.lean --- what was written is read as a whole or not at all.

  A snapshot that lost bytes at its end is rejected and leaves the scheduler as it was.
  A message whose payload lost bytes, or has bytes behind it, leaves the coordinator as it
  was: the readers throw before the call, at the end of the bytes or in `expect_end`.
-/
import CollectiveScheduler.Coordinator.Coordinator
import CollectiveScheduler.Foundation.Binary64
import CollectiveScheduler.Persistence.Truncation
import CollectiveScheduler.Properties.LifecycleGuard
import CollectiveScheduler.System.Scenario

set_option autoImplicit false

namespace CollectiveScheduler

open Foundation Reader

/-! ## Snapshots -/

/-- A snapshot of a reachable scheduler that lost any number of its last bytes is rejected by
every scheduler, which stays as it is, whatever its bounds and whatever the checksum of the
bytes that are left. -/
theorem truncated_snapshot_is_rejected {D : Type} [Double D] {y : System D} (hy : y.Reachable)
    (t : Scheduler D) (recordOrder : List CollectiveRequestId) {n : Nat}
    (hn : n < (Persistence.save y.sched recordOrder).length) :
    ∃ e, Persistence.restore t ((Persistence.save y.sched recordOrder).take n) = (t, .error e) :=
  Persistence.restore_take t hy.durable.storable recordOrder hn

/-- A snapshot with one request without its last byte, for a fresh scheduler. -/
theorem truncated_snapshot_is_rejected_last_byte :
    let y : System Binary64 := (System.start PolicyConfig.default 1).next
      (.submit (Scenario.request 1 [1] 1))
    let bytes := Persistence.save y.sched [⟨1⟩]
    let t : Scheduler Binary64 := Scheduler.fresh PolicyConfig.default 1
    y.sched.records.size = 1 ∧
      ∃ e, Persistence.restore t (bytes.take (bytes.length - 1)) = (t, .error e) := by
  intro y bytes t
  have hlength : bytes.length - 1 < bytes.length := by
    have hsave := Persistence.length_save y.sched [⟨1⟩]
    change bytes.length = _ at hsave
    omega
  exact ⟨by decide +kernel, truncated_snapshot_is_rejected (.call (.start _ _) _) _ _ hlength⟩

/-! ## Messages -/

open PersistenceWriter in
/-- A message for the scheduler as it is written: the payload is the record for its type. -/
inductive Msg.Written (D : Type) [Double D] : Msg → Prop where
  | participant (seq : UInt64) (p : Participant) :
      Written D ⟨.publishParticipant, seq, serializeParticipant p⟩
  | plan (seq : UInt64) (pl : CommunicationPlan D) (h : pl.SizesFit) :
      Written D ⟨.updatePlan, seq, serializePlan pl⟩
  | congestion (seq : UInt64) (c : CongestionState D) (h : c.bottlenecks.length < 2 ^ 64) :
      Written D ⟨.updateCongestion, seq, serializeCongestion c⟩
  | reservation (seq : UInt64) (res : Reservation D) (hresources : res.resources.length < 2 ^ 64)
      (hlinks : res.links.length < 2 ^ 64) :
      Written D ⟨.updateReservation, seq, serializeReservation res⟩
  | capacity (seq : UInt64) (c : CapacityState D) :
      Written D ⟨.updateCapacity, seq, serializeCapacity c⟩
  | dependency (seq : UInt64) (d : DependencyState) :
      Written D ⟨.updateDependency, seq, serializeDependencyState d⟩
  | request (seq : UInt64) (r : CollectiveRequest D) (h : r.SizesFit) :
      Written D ⟨.submitCollective, seq, serializeRequest r⟩
  | complete (seq : UInt64) (g : CollectiveGrant) (wb : WorkerBootId) (sb : SourceBootId)
      (hparticipants : g.participants.length < 2 ^ 64)
      (hgens : g.participantGens.length < 2 ^ 64) : Written D (.complete seq g wb sb)
  | fence (seq : UInt64) (worker : WorkerId) (boot : WorkerBootId) :
      Written D ⟨.fenceWorker, seq, [ident worker, ident boot].flatten⟩

/-- The second message has the type of the first, and a part of its payload or its payload
and more. -/
structure Msg.Mangled (m m' : Msg) : Prop where
  type : m'.type = m.type
  payload : m'.payload ≠ m.payload
  cut : m'.payload <+: m.payload ∨ m.payload <+: m'.payload

/-- Such a payload is not read. -/
theorem Msg.Mangled.read {α : Type} {r : PersistenceReader.Read α} {m m' : Msg} {a : α}
    (h : m.Mangled m') (hr : Stable r) (hread : Decodes r m.payload a) :
    ∃ e, m'.read r = .error e := by
  unfold Msg.read
  rcases h.cut with hshort | ⟨more, hlong⟩
  · -- the reader runs out of bytes
    have hlength : m'.payload.length < m.payload.length := by
      refine lt_of_le_of_ne hshort.length_le fun heq => h.payload ?_
      exact hshort.eq_of_length heq
    obtain ⟨e, he⟩ := hr.rejects_take hread hlength m'.payload.length
    rw [← List.prefix_iff_eq_take.mp hshort] at he
    rw [he]
    exact ⟨e, rfl⟩
  · -- `expect_end` finds the bytes behind it
    have hmore : more ≠ [] := by
      rintro rfl
      rw [List.append_nil] at hlong
      exact h.payload hlong.symm
    have hwhole := hread m'.payload.length more (by rw [← hlong, List.length_append]; omega)
    rw [hlong] at hwhole
    rw [hwhole]
    exact ⟨_, if_pos hmore⟩

namespace Coordinator

theorem stable_completion : Stable readCompletion := by
  unfold readCompletion
  exact stable_grant.bind fun _ => stable_ident.bind fun _ => stable_ident.bind fun _ => .pure _

theorem decodes_completion {g : CollectiveGrant} (hparticipants : g.participants.length < 2 ^ 64)
    (hgens : g.participantGens.length < 2 ^ 64) (seq : UInt64) (wb : WorkerBootId)
    (sb : SourceBootId) :
    Decodes readCompletion (Msg.complete seq g wb sb).payload (g, wb, sb) := by
  unfold readCompletion Msg.complete
  exact (decodes_grant hparticipants hgens).seq <| (decodes_ident wb).seq <|
    (decodes_ident sb).seq <| Decodes.pure _

theorem stable_fence : Stable readFence := by
  unfold readFence
  exact stable_ident.bind fun _ => stable_ident.bind fun _ => .pure _

theorem decodes_fence (worker : WorkerId) (boot : WorkerBootId) :
    Decodes readFence [PersistenceWriter.ident worker, PersistenceWriter.ident boot].flatten
      (worker, boot) := by
  unfold readFence
  exact (decodes_ident worker).seq <| (decodes_ident boot).seq <| Decodes.pure _

variable {D : Type} [Double D]

/-- A record that is not read is not published. -/
theorem call_mangled {α : Type} {m m' : Msg} (h : m.Mangled m')
    {r : PersistenceReader.Read α} (hr : Stable r) {a : α} (hread : Decodes r m.payload a)
    (c : Coordinator D) (op : α → Op D) : c.call (m'.read r) op = c := by
  obtain ⟨e, he⟩ := h.read hr hread
  rw [he, Coordinator.call]

/-- A message for the scheduler whose payload was cut short, or has bytes behind it, leaves
the coordinator as it is; only SUBMIT_COLLECTIVE is answered, by an empty ERROR. -/
theorem mangled_payload_changes_nothing [Double.BitCast D] {m m' : Msg} (hm : Msg.Written D m)
    (h : m.Mangled m') (c : Coordinator D) (env : Env) (fd : Nat) :
    c.handleMessage env fd m' = some (c, if m.type = .submitCollective then
      [(fd, { type := .error, seq := m'.seq, payload := [] })] else []) := by
  have htype := h.type
  unfold handleMessage
  cases hm with
  | participant seq p =>
      simp only [htype, call_mangled h stable_participant (decodes_participant p)]
      rfl
  | plan seq pl hsizes =>
      simp only [htype, call_mangled h stable_plan (decodes_plan hsizes)]
      rfl
  | congestion seq evidence hsizes =>
      simp only [htype, call_mangled h stable_congestion (decodes_congestion hsizes)]
      rfl
  | reservation seq res hresources hlinks =>
      simp only [htype,
        call_mangled h stable_reservation (decodes_reservation hresources hlinks)]
      rfl
  | capacity seq evidence =>
      simp only [htype, call_mangled h stable_capacity (decodes_capacity evidence)]
      rfl
  | dependency seq d =>
      simp only [htype, call_mangled h stable_dependencyState (decodes_dependencyState d)]
      rfl
  | request seq r hsizes =>
      obtain ⟨e, he⟩ := h.read stable_request (decodes_request hsizes)
      simp only [htype, he]
      rfl
  | complete seq g wb sb hparticipants hgens =>
      obtain ⟨e, he⟩ := h.read stable_completion (decodes_completion hparticipants hgens seq wb sb)
      have hcomplete : m'.type = .complete := htype
      simp only [hcomplete, he]
      rfl
  | fence seq worker boot =>
      obtain ⟨e, he⟩ := h.read stable_fence (decodes_fence worker boot)
      simp only [htype, he]
      rfl

/-- SUBMIT_COLLECTIVE with one byte behind the request. -/
theorem mangled_payload_changes_nothing_trailing :
    let r : CollectiveRequest Binary64 := Scenario.request 1 [1] 1
    let c : Coordinator Binary64 := Coordinator.start 1 false none
    (c.handleMessage {} 5 ⟨.submitCollective, 7, serializeRequest r⟩).map
        (fun out => out.1.sys.sched.records.size) = some 1 ∧
      c.handleMessage {} 5 ⟨.submitCollective, 7, serializeRequest r ++ [0]⟩ =
        some (c, [(5, ⟨.error, 7, []⟩)]) := by
  intro r c
  refine ⟨by decide +kernel, ?_⟩
  have hsizes : r.SizesFit := by constructor <;> decide
  have hmangled : Msg.Mangled ⟨.submitCollective, 7, serializeRequest r⟩
      ⟨.submitCollective, 7, serializeRequest r ++ [0]⟩ :=
    ⟨rfl, by simp, .inr (List.prefix_append _ _)⟩
  exact mangled_payload_changes_nothing (.request 7 r hsizes) hmangled c {} 5

end Coordinator

end CollectiveScheduler
