/-
  Coordinator/Site.lean --- a coordinator that is stopped and started again.

  Source: `Coordinator::run` and the handling of SAVE of src/coordinator.cpp.

  The process may end between any two steps, or while SAVE writes the file: `fopen` has
  emptied it, and it then holds a beginning of the snapshot.  The snapshot is taken and
  written in one step, so the SAVEs of two sessions do not overlap, though nothing in the
  source keeps two threads from writing the file at once.  The connections end with the
  process.
  The next process has the same options but for the epoch, reads the file and goes on
  with what it restores from it.
-/
import CollectiveScheduler.Coordinator.Steps
import CollectiveScheduler.Persistence.Truncation
import CollectiveScheduler.System.Provenance

set_option autoImplicit false

namespace CollectiveScheduler

open Foundation

variable {D : Type}

namespace Network

variable [Double D]

/-- What a step writes to the file. -/
def written (net : Network D) : Action → Option (List UInt8)
  | .handle fd env =>
      if !net.coordinator.terminated && (net.coordinator.persists && env.writable) &&
          (net.links.find? fd).any (fun l => l.phase.head.any (fun next => next.1.type = .save))
      then some (Persistence.save net.coordinator.sys.sched env.recordOrder)
      else none
  | _ => none

/-- The next process, which finds the file with these contents. -/
def restarted (net : Network D) (epoch : CoordinatorEpoch) (file : Option (List UInt8)) :
    Network D where
  coordinator := Coordinator.start epoch net.coordinator.persists file

end Network

/-- The processes of a coordinator, one after the other. -/
structure Site (D : Type) where
  net : Network D
  /-- the state of which the file holds the whole snapshot -/
  saved : Option (Scheduler D) := none

namespace Site

inductive Action where
  | step (a : Network.Action)
  /-- the process ends, and the next one starts -/
  | restart (epoch : CoordinatorEpoch)
  /-- the process ends in a step that writes the file, with so many bytes in it -/
  | restartSaving (a : Network.Action) (n : Nat) (epoch : CoordinatorEpoch)

variable [Double D]

def next (site : Site D) : Action → Site D
  | .step a =>
      { net := site.net.next a
        saved := if (site.net.written a).isSome then some site.net.coordinator.sys.sched
          else site.saved }
  | .restart epoch => { site with net := site.net.restarted epoch site.net.coordinator.file }
  | .restartSaving a n epoch =>
      match site.net.written a with
      | some bytes =>
          { net := site.net.restarted epoch (some (bytes.take n))
            saved := if n < bytes.length then none else some site.net.coordinator.sys.sched }
      | none => site

def run (site : Site D) (actions : List Action) : Site D := Runs.exec next site actions

/-- The first process, without a file. -/
def start (epoch : CoordinatorEpoch) (persists : Bool) : Site D where
  net := Network.start epoch persists

end Site

/-! ## What is saved -/

/-- A scheduler of a coordinator as far as a snapshot of it holds it. -/
structure Scheduler.Recoverable (s : Scheduler D) : Prop where
  durable : s.Durable
  requests : s.Fits {}
  size : s.records.size ≤ ({} : Bounds).maxHistoryRecords.toNat

/-- The contents of the file: the snapshot of the saved state, or nothing that can be
restored. -/
inductive Filed [Double D] : Option (List UInt8) → Option (Scheduler D) → Prop
  | nothing : Filed none none
  | whole {s : Scheduler D} (h : s.Recoverable) (recordOrder : List CollectiveRequestId) :
      Filed (some (Persistence.save s recordOrder)) (some s)
  | torn {s : Scheduler D} (h : s.Recoverable) (recordOrder : List CollectiveRequestId) {n : Nat}
      (hn : n < (Persistence.save s recordOrder).length) :
      Filed (some ((Persistence.save s recordOrder).take n)) none

/-- A scheduler that is brought to an epoch unless it is beyond it. -/
def Scheduler.atEpoch (s : Scheduler D) (epoch : CoordinatorEpoch) : Scheduler D :=
  { s with epoch := max s.epoch epoch }

theorem Scheduler.advance_eq_atEpoch (s : Scheduler D) (epoch : CoordinatorEpoch) :
    (if s.epoch < epoch then (s.advanceCoordinatorEpoch epoch).1 else s) = s.atEpoch epoch := by
  unfold atEpoch advanceCoordinatorEpoch
  split_ifs with hbehind hahead
  · exact absurd hbehind (not_lt.mpr hahead)
  · rw [max_eq_right hbehind.le]
  · rw [max_eq_left (not_lt.mp hbehind)]

section Recovery

variable [Double D]

/-- The scheduler of the next process, in front of the epoch of its options. -/
def Scheduler.recovered : Option (Scheduler D) → Scheduler D
  | some s => Persistence.restored (.fresh PolicyConfig.default 1) s
  | none => .fresh PolicyConfig.default 1

namespace Scheduler.Recoverable

variable {s : Scheduler D}

omit [Double D] in
theorem fresh (policy : PolicyConfig D) (epoch : CoordinatorEpoch) :
    (Scheduler.fresh policy epoch).Recoverable where
  durable := Scheduler.fresh_durable policy epoch
  requests id rec hfind := by cases hfind
  size := Nat.zero_le _

theorem next {y : System D} (h : y.sched.Recoverable)
    (hpolicy : y.sched.policy = PolicyConfig.default) (op : Op D) :
    (y.next op).sched.Recoverable where
  durable := System.next_durable h.durable op
  requests := by
    have hfits := System.next_fits (y := y) (by rw [hpolicy]; exact h.requests) op
    rw [hpolicy] at hfits
    exact hfits
  size := by
    refine (System.size_next_le y op).trans (max_le h.size ?_)
    rw [hpolicy]
    exact le_refl _

theorem restored (h : s.Recoverable) (t : Scheduler D) :
    (Persistence.restored t s).Recoverable where
  durable := h.durable.restored t
  requests := by
    intro id rec hfind
    have hmap : (Persistence.restored t s).records.find? id =
        (s.records.find? id).map (fun rec => rec.recoded.recover) := FinMap.find?_mapVals _ _ _
    rw [hmap] at hfind
    obtain ⟨rec₀, hfind₀, rfl⟩ := Option.map_eq_some_iff.mp hfind
    have hfits := h.requests id rec₀ hfind₀
    refine ⟨hfits.participants, hfits.parallel, ?_, ?_⟩
    · change (rec₀.request.resourceClaims.map (·.recoded)).length ≤ _
      rw [List.length_map]
      exact hfits.claims
    · change (rec₀.request.dependencies.map (·.recoded)).length ≤ _
      rw [List.length_map]
      exact hfits.dependencies
  size := by
    change (s.records.mapVals _).size ≤ _
    rw [FinMap.size_mapVals]
    exact h.size

end Scheduler.Recoverable

namespace Filed

variable {file : Option (List UInt8)} {saved : Option (Scheduler D)}

/-- What a process restores from the file. -/
theorem restore (h : Filed file saved) {bytes : List UInt8} (hfile : file = some bytes) :
    (Persistence.restore (.fresh PolicyConfig.default 1) bytes).1 =
      Scheduler.recovered saved := by
  cases h with
  | nothing => cases hfile
  | whole hs recordOrder =>
      cases hfile
      rw [Persistence.restore_save _ hs.durable.storable]
      exact congrArg Prod.fst (if_pos hs.size)
  | torn hs recordOrder hn =>
      cases hfile
      obtain ⟨e, he⟩ := Persistence.restore_take (.fresh PolicyConfig.default 1)
        hs.durable.storable recordOrder hn
      rw [he]
      rfl

/-- The scheduler of the next process is the saved one, recovered and at its epoch. -/
theorem start (h : Filed file saved) {persists : Bool} (hpersists : persists = false → file = none)
    (epoch : CoordinatorEpoch) :
    (Coordinator.start epoch persists file).sys =
      { sched := (Scheduler.recovered saved).atEpoch epoch } := by
  have hread : (Coordinator.start epoch persists file).sys =
      { sched := if (Scheduler.recovered saved).epoch < epoch then
          ((Scheduler.recovered saved).advanceCoordinatorEpoch epoch).1
        else Scheduler.recovered saved } := by
    cases h with
    | nothing => cases persists <;> rfl
    | whole hs recordOrder =>
        cases persists with
        | true => rw [← (Filed.whole hs recordOrder).restore rfl]; rfl
        | false => cases hpersists rfl
    | torn hs recordOrder hn =>
        cases persists with
        | true => rw [← (Filed.torn hs recordOrder hn).restore rfl]; rfl
        | false => cases hpersists rfl
  rw [hread, Scheduler.advance_eq_atEpoch]

/-- What is read from the file is a scheduler of a coordinator. -/
theorem recoverable (h : Filed file saved) : (Scheduler.recovered saved).Recoverable := by
  cases h with
  | nothing => exact .fresh _ _
  | whole hs recordOrder => exact hs.restored _
  | torn hs recordOrder hn => exact .fresh _ _

end Filed

end Recovery

/-! ## The invariant -/

section Invariant

variable [Double D]

/-- A process starts without grants. -/
theorem Scheduler.Vacated.recovered (saved : Option (Scheduler D)) (epoch : CoordinatorEpoch) :
    ((Scheduler.recovered saved).atEpoch epoch).Vacated := by
  cases saved with
  | none => exact ⟨(Vacated.fresh PolicyConfig.default 1).records, rfl⟩
  | some s => exact ⟨(Vacated.restored (.fresh PolicyConfig.default 1) s).records, rfl⟩

theorem Scheduler.policy_recovered (saved : Option (Scheduler D)) :
    (Scheduler.recovered saved).policy = PolicyConfig.default := by
  cases saved <;> rfl

theorem Scheduler.congestion_recovered (saved : Option (Scheduler D)) :
    (Scheduler.recovered saved).congestion = none := by
  cases saved <;> rfl

/-- Only SAVE writes the file, if there is one. -/
theorem Coordinator.handleMessage_file {c c' : Coordinator D} {env : Env} {fd : Nat} {m : Msg}
    {frames : List (Nat × Msg)} (h : c.handleMessage env fd m = some (c', frames)) :
    c'.persists = c.persists ∧
      c'.file = if c.persists && env.writable && decide (m.type = .save) then
        some (Persistence.save c.sys.sched env.recordOrder) else c.file := by
  have hcall : ∀ {α : Type} (payload : Except SchedulerError α) (op : α → Op D),
      (c.call payload op).persists = c.persists ∧ (c.call payload op).file = c.file := by
    intro α payload op
    cases payload <;> exact ⟨rfl, rfl⟩
  by_cases hm : m.type = .save
  · simp only [handleMessage, hm] at h
    simp only [hm, decide_true, Bool.and_true]
    split_ifs at h ⊢ <;> cases h <;> exact ⟨rfl, rfl⟩
  · simp only [hm, decide_false, Bool.and_false, Bool.false_eq_true, if_false]
    have hto : ∀ {c'' : Coordinator D} {out : List (Nat × Msg)},
        some (c'', out) = some (c', frames) →
          c''.persists = c.persists ∧ c''.file = c.file →
            c'.persists = c.persists ∧ c'.file = c.file := by
      intro c'' out heq hsame
      cases heq
      exact hsame
    unfold handleMessage at h
    cases htype : m.type with
    | publishParticipant => rw [htype] at h; exact hto h (hcall _ _)
    | updatePlan => rw [htype] at h; exact hto h (hcall _ _)
    | updateCongestion => rw [htype] at h; exact hto h (hcall _ _)
    | updateReservation => rw [htype] at h; exact hto h (hcall _ _)
    | updateCapacity => rw [htype] at h; exact hto h (hcall _ _)
    | updateDependency => rw [htype] at h; exact hto h (hcall _ _)
    | submitCollective =>
        simp only [htype] at h
        split at h
        · exact hto h ⟨rfl, rfl⟩
        · split at h <;> exact hto h ⟨rfl, rfl⟩
    | querySchedule =>
        simp only [htype] at h
        split at h
        · exact hto h ⟨rfl, rfl⟩
        · cases h
    | complete => simp only [htype] at h; split at h <;> exact hto h ⟨rfl, rfl⟩
    | fenceWorker => simp only [htype] at h; split at h <;> exact hto h ⟨rfl, rfl⟩
    | save => exact absurd htype hm
    | _ => rw [htype] at h; exact hto h ⟨rfl, rfl⟩

namespace Network

variable {net : Network D} {fd : Nat} {l : Link D}

/-- What a session writes with its next message. -/
theorem written_handle (halive : net.coordinator.terminated = false)
    (hfind : net.links.find? fd = some l) {m : Msg} {rest : List Msg}
    (hphase : l.phase = .handling (m :: rest)) (env : Coordinator.Env) :
    net.written (.handle fd env) =
      if net.coordinator.persists && env.writable && decide (m.type = .save) then
        some (Persistence.save net.coordinator.sys.sched env.recordOrder) else none := by
  simp only [written, halive, hfind, hphase, Phase.head, Option.any_some, Bool.not_false,
    Bool.true_and]

/-- A session that has no message at hand writes nothing. -/
theorem written_idle (env : Coordinator.Env)
    (hhead : (net.links.find? fd).bind (fun l => l.phase.head) = none) :
    net.written (.handle fd env) = none := by
  cases hfind : net.links.find? fd with
  | none => simp [written, hfind]
  | some l =>
      rw [hfind, Option.bind_some] at hhead
      simp [written, hfind, hhead]

/-- The file after the next message of a session. -/
theorem Sound.file_handleNext (h : net.Sound) (hfind : net.links.find? fd = some l)
    (env : Coordinator.Env) {m : Msg} {rest : List Msg} (hphase : l.phase = .handling (m :: rest)) :
    (net.handleNext fd l env m rest).coordinator.persists = net.coordinator.persists ∧
      (net.handleNext fd l env m rest).coordinator.file =
        (net.written (.handle fd env)).or net.coordinator.file := by
  rw [written_handle h.alive hfind hphase]
  unfold handleNext
  by_cases hm : m.type = .querySchedule
  · obtain ⟨s, dec, created, hround⟩ :=
      Scheduler.scheduleRound_isOk h.deployed.orderly.settled env.recordOrder env.grantOrder
    rw [if_pos hm, (System.Deployed.next_schedule hround).2]
    simp [hm]
  · obtain ⟨c, frames, hhandle, -⟩ := net.coordinator.handleMessage_replied env fd hm
    obtain ⟨hpersists, hfile⟩ := Coordinator.handleMessage_file hhandle
    rw [if_neg hm]
    simp only [hhandle, hpersists, hfile, true_and]
    split_ifs <;> rfl

/-- The file after a step of a session with its messages. -/
theorem Sound.file_handle (h : net.Sound) (fd : Nat) (env : Coordinator.Env) :
    (net.next (.handle fd env)).coordinator.persists = net.coordinator.persists ∧
      (net.next (.handle fd env)).coordinator.file =
        (net.written (.handle fd env)).or net.coordinator.file := by
  simp only [Network.next, h.alive, Bool.false_eq_true, if_false]
  split
  · rename_i l hfind
    split
    · rename_i hphase
      rw [written_idle env (by rw [hfind, Option.bind_some, hphase]; rfl)]
      exact ⟨rfl, rfl⟩
    · rename_i m rest hphase
      exact h.file_handleNext hfind env hphase
    · rename_i seq dec rest hphase
      rw [written_idle env (by rw [hfind, Option.bind_some, hphase]; rfl)]
      exact ⟨rfl, rfl⟩
    · rename_i hnil hcons hbroadcasting
      have hhead : l.phase.head = none := by
        unfold Phase.head
        split
        · rename_i m rest hphase
          exact absurd hphase (hcons m rest)
        · rfl
      rw [written_idle env (by rw [hfind, Option.bind_some, hhead])]
      exact ⟨rfl, rfl⟩
  · rename_i hfind
    rw [written_idle env (by rw [hfind]; rfl)]
    exact ⟨rfl, rfl⟩

/-- The file after a step. -/
theorem Sound.file_next (h : net.Sound) (a : Action) :
    (net.next a).coordinator.persists = net.coordinator.persists ∧
      (net.next a).coordinator.file = (net.written a).or net.coordinator.file := by
  by_cases ha : ∃ fd env, a = .handle fd env
  · obtain ⟨fd, env, rfl⟩ := ha
    exact h.file_handle fd env
  · have hwritten : net.written a = none := by
      cases a with
      | handle fd env => exact absurd ⟨fd, env, rfl⟩ ha
      | _ => rfl
    rw [hwritten]
    have hstep := h.step a
    generalize net.next a = net' at hstep
    cases hstep <;> first | exact ⟨rfl, rfl⟩ | exact absurd ⟨_, _, rfl⟩ ha

end Network

/-- What holds of a site. -/
structure Site.Sound (site : Site D) : Prop where
  net : site.net.Sound
  attested : site.net.coordinator.sys.Attested
  recoverable : site.net.coordinator.sys.sched.Recoverable
  forgets : site.net.coordinator.persists = false → site.net.coordinator.file = none
  filed : Filed site.net.coordinator.file site.saved

namespace Site.Sound

variable {site : Site D}

/-- The next process. -/
theorem restarted (net : Network D) {file : Option (List UInt8)} {saved : Option (Scheduler D)}
    (hforgets : net.coordinator.persists = false → file = none) (h : Filed file saved)
    (epoch : CoordinatorEpoch) :
    Site.Sound { net := net.restarted epoch file, saved := saved } := by
  have hsys : (net.restarted epoch file).coordinator.sys =
      { sched := (Scheduler.recovered saved).atEpoch epoch } := h.start hforgets epoch
  have hrecoverable := h.recoverable
  have horderly : ((Scheduler.recovered saved).atEpoch epoch).Orderly :=
    hrecoverable.durable.orderly
  have hpolicy : ((Scheduler.recovered saved).atEpoch epoch).policy = PolicyConfig.default :=
    Scheduler.policy_recovered saved
  have hvacated := Scheduler.Vacated.recovered saved epoch
  refine ⟨.opened ?_ rfl rfl, ?_, ?_, hforgets, h⟩
  · change (net.restarted epoch file).coordinator.sys.Deployed
    rw [hsys]
    refine .opened horderly hpolicy ?_ hvacated.grants
    rw [hpolicy]
    exact hrecoverable.requests
  · change (net.restarted epoch file).coordinator.sys.Attested
    rw [hsys]
    refine System.attested_of_vacated horderly hvacated (fun c hc => ?_) []
    cases (Scheduler.congestion_recovered saved).symm.trans hc
  · change (net.restarted epoch file).coordinator.sys.sched.Recoverable
    rw [hsys]
    exact ⟨⟨horderly, hrecoverable.durable.size⟩, hrecoverable.requests, hrecoverable.size⟩

theorem start (epoch : CoordinatorEpoch) (persists : Bool) :
    (Site.start (D := D) epoch persists).Sound :=
  restarted (Network.start epoch persists) (fun _ => rfl) .nothing epoch

/-- What a step that writes leaves in the file. -/
theorem written_eq {a : Network.Action} {bytes : List UInt8}
    (hwritten : site.net.written a = some bytes) :
    site.net.coordinator.persists = true ∧
      ∃ recordOrder, bytes = Persistence.save site.net.coordinator.sys.sched recordOrder := by
  cases a with
  | handle fd env =>
      simp only [Network.written, Option.ite_none_right_eq_some, Bool.and_eq_true] at hwritten
      exact ⟨hwritten.1.1.2.1, env.recordOrder, (Option.some.inj hwritten.2).symm⟩
  | _ => cases hwritten

/-- A step of the network. -/
theorem step (h : site.Sound) (a : Network.Action) : (site.next (.step a)).Sound := by
  obtain ⟨hpersists, hfile⟩ := h.net.file_next a
  have hsched : (site.net.next a).coordinator.sys.Attested ∧
      (site.net.next a).coordinator.sys.sched.Recoverable := by
    rcases h.net.serves a with hsame | ⟨op, -, hnext⟩
    · rw [hsame]
      exact ⟨h.attested, h.recoverable⟩
    · rw [hnext]
      exact ⟨h.attested.next op, h.recoverable.next h.net.deployed.policy op⟩
  refine ⟨h.net.next a, hsched.1, hsched.2, ?_, ?_⟩
  · change (site.net.next a).coordinator.persists = false →
      (site.net.next a).coordinator.file = none
    rw [hpersists, hfile]
    intro hforgets
    cases hwritten : site.net.written a with
    | none => exact h.forgets hforgets
    | some bytes =>
        rw [(written_eq hwritten).1] at hforgets
        cases hforgets
  · change Filed (site.net.next a).coordinator.file
      (if (site.net.written a).isSome then some site.net.coordinator.sys.sched else site.saved)
    rw [hfile]
    cases hwritten : site.net.written a with
    | none => exact h.filed
    | some bytes =>
        obtain ⟨-, recordOrder, rfl⟩ := written_eq hwritten
        exact .whole h.recoverable recordOrder

/-- Every step and every restart keeps the site sound. -/
theorem next (h : site.Sound) (a : Action) : (site.next a).Sound := by
  cases a with
  | step a => exact h.step a
  | restart epoch => exact restarted _ h.forgets h.filed epoch
  | restartSaving a n epoch =>
      cases hwritten : site.net.written a with
      | none =>
          simp only [Site.next, hwritten]
          exact h
      | some bytes =>
          simp only [Site.next, hwritten]
          obtain ⟨hpersists, recordOrder, rfl⟩ := written_eq hwritten
          have hforgets : site.net.coordinator.persists = false → (some ((Persistence.save
              site.net.coordinator.sys.sched recordOrder).take n)) = none := by
            rw [hpersists]
            exact nofun
          refine restarted _ hforgets ?_ epoch
          split_ifs with hn
          · exact .torn h.recoverable recordOrder hn
          · rw [List.take_of_length_le (Nat.le_of_not_lt hn)]
            exact .whole h.recoverable recordOrder

theorem run (h : site.Sound) (actions : List Action) : (site.run actions).Sound :=
  Runs.exec_induct (fun _ a hsite => hsite.next a) actions h

end Site.Sound

end Invariant

end CollectiveScheduler
