/-
  Properties/CancelRace.lean --- a cancellation that races a handoff.

  `cancel` may revoke a grant before the handoff has asked the fabric to accept it, and
  `handoff` may ask after its request is cancelled.  Its second section then finds the
  record no longer DISPATCHING and revokes the grant once more, so the last word to the
  fabric is a revocation (`cancelled_handoff_is_revoked`).

  The argument needs every grant to have an entry of its own.  With the grant ids used
  up, the entry of the accepted grant may be one that an earlier cancellation closed, and
  no revocation follows (`shared_entry_is_not_revoked`).
-/
import CollectiveScheduler.System.Barred
import CollectiveScheduler.System.GrantTable
import CollectiveScheduler.System.Race
import CollectiveScheduler.System.Saturation

set_option autoImplicit false

namespace CollectiveScheduler

open Foundation LifecycleState

variable {D : Type}

/-! ## The calls the fabric has seen -/

/-- The fabric was asked to accept the grant and has not been told to revoke it since. -/
def Unrevoked (g : CollectiveGrant) (log : List PortCall) : Prop :=
  ∃ before after, log = before ++ .fabricAccept g :: after ∧ .fabricRevoke g ∉ after

theorem not_unrevoked_nil (g : CollectiveGrant) : ¬Unrevoked g [] := by
  rintro ⟨before, after, hlog, -⟩
  simp at hlog

/-- One more port call. -/
theorem Unrevoked.of_append {g : CollectiveGrant} {log : List PortCall} {c : PortCall}
    (h : Unrevoked g (log ++ [c])) :
    c = .fabricAccept g ∨ Unrevoked g log ∧ c ≠ .fabricRevoke g := by
  obtain ⟨before, after, hlog, hnot⟩ := h
  rcases List.eq_nil_or_concat after with rfl | ⟨init, last, rfl⟩
  · exact .inl (List.singleton_inj.mp (List.append_inj' hlog rfl).2)
  · rw [List.concat_eq_append, ← List.cons_append, ← List.append_assoc] at hlog
    obtain ⟨hinit, hlast⟩ := List.append_inj' hlog rfl
    obtain rfl := List.singleton_inj.mp hlast
    rw [List.concat_eq_append] at hnot
    refine .inr ⟨⟨before, init, hinit, fun hmem => hnot (List.mem_append_left _ hmem)⟩, ?_⟩
    rintro rfl
    exact hnot (List.mem_append_right _ (List.mem_singleton_self _))

/-! ## Grants that a cancellation would revoke -/

/-- A cancellation of the request would revoke the grant, or comes too late for it. -/
def Scheduler.Guards (s : Scheduler D) (g : CollectiveGrant) : Prop :=
  ∃ rec, s.records.find? g.request = some rec ∧
    (rec.lifecycle = .completed ∨
      rec.lifecycle.isTerminalState = false ∧ ∃ gs, s.HoldsOpenGrant rec g gs)

section Steps

variable [Double D] {y : System D} {op : Op D} {g : CollectiveGrant} {rec : Record D}
  {gs : GrantState}

omit [Double D] in
/-- The record and the entry are as they were. -/
theorem Scheduler.Guards.of_keeps {s s' : Scheduler D}
    (hlife : rec.lifecycle.isTerminalState = false)
    (hopen : s.HoldsOpenGrant rec g gs) (hkeeps : s'.Keeps g.request rec)
    (hentry : s'.grants.find? g.id = s.grants.find? g.id) : s'.Guards g := by
  obtain ⟨rec', hfind', hrec⟩ := hkeeps
  refine ⟨rec', hfind', .inr ⟨hrec.lifecycle ▸ hlife, gs, ?_⟩⟩
  exact ⟨hrec.currentGrant.trans hopen.1, hentry.trans hopen.2.1, hopen.2.2⟩

/-- A completion of another request leaves the entry of the grant. -/
theorem System.guards_complete (htabled : y.sched.Tabled y.issued)
    (hfind : y.sched.records.find? g.request = some rec)
    (hlife : rec.lifecycle.isTerminalState = false) (hopen : y.sched.HoldsOpenGrant rec g gs)
    (hrest : rec.lifecycle.isPending = false) (g' : CollectiveGrant) (wb : WorkerBootId)
    (sb : SourceBootId) : (y.next (.complete g' wb sb)).sched.Guards g := by
  change (y.sched.complete g' wb sb).1.Guards g
  rcases y.sched.complete_cases g' wb sb with heq | ⟨r, gs', hr, -, hallowed, -, heq⟩
  · rw [heq]
    exact ⟨rec, hfind, .inr ⟨hlife, gs, hopen⟩⟩
  · by_cases hid : g.request = g'.request
    · rw [heq]
      refine ⟨Scheduler.completedRecord r, ?_, .inl rfl⟩
      rw [hid]
      exact FinMap.find?_insert_self _ _ _
    · obtain ⟨-, -, -, ⟨cur, hcur, hgid, -⟩, -⟩ := Scheduler.completionAllowed_iff.mp hallowed
      have hne : g.id ≠ g'.id := fun hsame => hid (htabled.table.same_record
        htabled.issuance.attribution htabled.keyed hfind hr hopen.1 hcur
        (hsame.trans hgid.symm))
      have hkeeps : (y.next (.complete g' wb sb)).sched.Keeps g.request rec :=
        untouched_next htabled.keyed hfind hrest (decide_eq_false (Ne.symm hid))
      refine .of_keeps hlife hopen hkeeps ?_
      rw [heq]
      exact FinMap.find?_insert_of_ne _ _ hne

/-- A call beside the handoff keeps the grant guarded or revokes it. -/
theorem System.guards_next (htabled : y.sched.Tabled y.issued)
    (hop : op.races g.request = true) (h : y.sched.Guards g) :
    (y.next op).sched.Guards g ∨ PortCall.fabricRevoke g ∈ y.emits op := by
  obtain ⟨rec, hfind, hcompleted | ⟨hlife, gs, hopen⟩⟩ := h
  · obtain ⟨rec', hfind', hrec⟩ := Op.races_carried hop hfind
    have hstays := hrec.moves.terminal (by rw [hcompleted]; rfl)
    exact .inl ⟨rec', hfind', .inl (hstays.trans hcompleted)⟩
  · obtain ⟨hg, hnames⟩ := (htabled.issuance.records _ rec hfind).current g hopen.1
    have hrest : rec.lifecycle.isPending = false := by
      refine Bool.eq_false_iff.mpr fun hpending => ?_
      exact (htabled.issuance.records _ rec hfind).pending hpending g hg rfl hnames.requestGen
    have hkept : op.touches g.request = false →
        (y.next op).sched.grants.find? g.id = y.sched.grants.find? g.id →
        (y.next op).sched.Guards g := fun htouches hentry =>
      .of_keeps hlife hopen (untouched_next htabled.keyed hfind hrest htouches) hentry
    have hsame : op.touches g.request = false → (y.next op).sched.grants = y.sched.grants →
        (y.next op).sched.Guards g := fun htouches hgrants => hkept htouches (by rw [hgrants])
    by_cases hquiet : op.isQuiet = true
    · obtain ⟨s, hnext, hrewritten⟩ := y.next_quiet hquiet
      have htouches : op.touches g.request = false := by
        cases op <;> first | rfl | cases hquiet
      exact .inl (hsame htouches (by rw [hnext]; exact hrewritten.grants))
    cases op with
    | publishParticipant p =>
        have hrewritten := y.sched.publishParticipant_rewritten p
        obtain ⟨rec', hfind', hrec⟩ := hrewritten.records.find? hfind
        refine .inl ⟨rec', hfind', .inr ⟨?_, gs, hrec.currentGrant.trans hopen.1, ?_, hopen.2.2⟩⟩
        · rcases hrec.lifecycle with hsame | ⟨-, hrevalidate⟩
          · rw [hsame]
            exact hlife
          · rw [hrevalidate]
            rfl
        · exact (congrArg (FinMap.find? · g.id) hrewritten.grants).trans hopen.2.1
    | submit req =>
        refine .inl (hsame rfl ?_)
        change (y.sched.submit req).1.grants = _
        rcases y.sched.submit_cases req with ⟨next, e, heq⟩ | ⟨-, -, heq⟩ <;> rw [heq]
    | cancel id =>
        obtain rfl : id = g.request := of_decide_eq_true hop
        have hgrant := htabled.table.entry_grant htabled.issuance hg hopen.2.1
        refine .inr ?_
        simp only [emits, Scheduler.cancel_emits hfind hlife hopen, hgrant, List.mem_cons, true_or,
          or_true]
    | schedule recordOrder grantOrder =>
        refine .inl (hkept rfl ?_)
        rw [hopen.2.1, sched_next_schedule]
        exact Scheduler.find?_grants_scheduleRound hopen.2.1 recordOrder grantOrder
    | complete g' wb sb =>
        exact .inl (guards_complete htabled hfind hlife hopen hrest g' wb sb)
    | _ => first | exact absurd rfl hquiet | cases hop

/-- The second section of the handoff revokes the grant or leaves it guarded. -/
theorem System.guards_handoffEnd (htabled : y.sched.Tabled y.issued) (hg : g ∈ y.issued)
    (hflight : g ∈ y.inFlight) (hfind : y.sched.records.find? g.request = some rec)
    (hgen : rec.request.gen = g.requestGen) (accepted : Bool) :
    y.emits (.handoffEnd g accepted) = [.fabricRevoke g] ∨
      y.emits (.handoffEnd g accepted) = [] ∧
        (y.next (.handoffEnd g accepted)).sched.Guards g := by
  simp only [emits, next, step, if_pos hflight, ofAnswer]
  rcases y.sched.handoffEnd_cases g accepted with
    ⟨-, heq⟩ | ⟨r, hr, ⟨-, heq⟩ | ⟨gs, hentry, ⟨hactive, heq⟩ | ⟨-, heq⟩⟩⟩
  · exact .inl (by rw [heq])
  · exact .inl (by rw [heq])
  · -- an ACTIVE record of the grant's generation holds it, so its entry is open
    rw [hfind] at hr
    cases hr
    have hholder : rec.lifecycle.isHolder = true := by
      rcases Scheduler.landed_active hactive with hlife | hlife <;> rw [hlife] <;> rfl
    obtain ⟨hcur, -⟩ := htabled.issuance.current_of_holder hg hfind hgen hholder
    obtain ⟨gs', hentry', hopen⟩ := htabled.table.held _ rec g hfind hholder hcur
    rw [hentry] at hentry'
    cases hentry'
    rw [heq]
    refine .inr ⟨rfl, Scheduler.landed rec accepted, FinMap.find?_insert_self _ _ _, .inr ?_⟩
    rw [hactive]
    exact ⟨rfl, { gs with active := true }, hcur, FinMap.find?_insert_self _ _ _, hopen⟩
  · exact .inl (by rw [heq])

end Steps

/-! ## The race -/

/-- The handoff is between its two sections. -/
def Race.Stage.isOpen : Race.Stage → Bool
  | .asking => true
  | .answered _ => true
  | _ => false

/-- Someone will still revoke the grant: the second section of the handoff, a port call
that waits, or a cancellation to come. -/
def Race.Owes (g : CollectiveGrant) (r : Race D) : Prop :=
  match r.stage with
  | .answered _ => True
  | .finished => .fabricRevoke g ∈ r.pending ∨ r.sys.sched.Guards g
  | _ => False

/-- What holds during a race. -/
structure Race.Tracked (g : CollectiveGrant) (r : Race D) : Prop where
  sound : r.sys.Sound
  table : r.sys.sched.GrantTable r.sys.issued
  issued : g ∈ r.sys.issued
  unasked : .fabricAccept g ∉ r.pending
  flight : r.stage.isOpen = true → g ∈ r.sys.inFlight ∧
    ∃ rec, r.sys.sched.records.find? g.request = some rec ∧ rec.request.gen = g.requestGen
  owes : Unrevoked g r.log → r.Owes g

namespace Race.Tracked

variable [Double D] {g : CollectiveGrant} {r : Race D}

omit [Double D] in
theorem tabled (h : r.Tracked g) : r.sys.sched.Tabled r.sys.issued :=
  ⟨h.sound.orderly.keyed, h.sound.issuance, h.table⟩

theorem next_run (h : r.Tracked g) {op : Op D} (hop : op.races g.request = true)
    (hids : (r.sys.next op).sched.nextGrantId.value.toNat < maxValue) :
    (r.next g (.run op)).Tracked g where
  sound := Op.races_sound hop h.sound
  table := h.sound.next_grantTable h.table
    (System.fitsSelection_of_next h.sound.orderly hids)
  issued := System.mem_issued_next h.issued op
  unasked hmem := (List.mem_append.mp hmem).elim h.unasked (Op.races_asks_nobody hop g)
  flight hstage := by
    obtain ⟨hflight, rec, hfind, hgen⟩ := h.flight hstage
    obtain ⟨rec', hfind', hrec⟩ := Op.races_carried hop hfind
    refine ⟨?_, rec', hfind', hrec.request ▸ hgen⟩
    change g ∈ (r.sys.next op).inFlight
    rw [r.sys.inFlight_next_of_atomic (Op.races_atomic hop)]
    exact hflight
  owes hlog := by
    have howes := h.owes hlog
    unfold Race.Owes at howes ⊢
    change match r.stage with
      | .answered _ => True
      | .finished => _ ∈ r.pending ++ r.sys.emits op ∨ (r.sys.next op).sched.Guards g
      | _ => False
    cases hstage : r.stage with
    | finished =>
        rw [hstage] at howes
        rcases howes with hpending | hguards
        · exact .inl (List.mem_append_left _ hpending)
        · rcases System.guards_next h.tabled hop hguards with hkept | hemits
          · exact .inr hkept
          · exact .inl (List.mem_append_right _ hemits)
    | _ =>
        rw [hstage] at howes
        exact howes

theorem next_begin (h : r.Tracked g) : (r.next g .begin).Tracked g := by
  by_cases hstage : r.stage = .ready
  · have hquiet : ¬Unrevoked g r.log := by
      intro hlog
      have howes := h.owes hlog
      rw [Race.Owes, hstage] at howes
      exact howes
    have hop : (Op.handoffBegin g : Op D).UsesIssued r.sys := by
      rintro g' ⟨⟩
      exact h.issued
    have htable : (r.sys.next (.handoffBegin g)).sched.GrantTable
        (r.sys.next (.handoffBegin g)).issued :=
      h.sound.next_grantTable h.table trivial
    simp only [Race.next, if_pos hstage]
    refine ⟨System.next_sound h.sound hop, htable, System.mem_issued_next h.issued _, h.unasked,
      fun hopen => ?_, fun hlog => absurd hlog hquiet⟩
    rcases r.sys.sched.handoffBegin_cases g with heq | ⟨rec, -, -, -, hgen, heq⟩
    · rw [heq] at hopen
      cases hopen
    · simp only [System.next, System.step, heq]
      exact ⟨List.mem_cons_self, _, FinMap.find?_insert_self _ _ _, hgen⟩
  · simp only [Race.next, if_neg hstage]
    exact h

theorem next_ask (h : r.Tracked g) (accepted : Bool) : (r.next g (.ask accepted)).Tracked g := by
  unfold Race.next
  simp only
  split
  · rename_i hstage
    refine ⟨h.sound, h.table, h.issued, h.unasked, fun _ => h.flight (by rw [hstage]; rfl), ?_⟩
    exact fun _ => trivial
  · exact h

theorem next_finish (h : r.Tracked g) : (r.next g .finish).Tracked g := by
  unfold Race.next
  simp only
  split
  · rename_i accepted hstage
    obtain ⟨hflight, rec, hfind, hgen⟩ := h.flight (by rw [hstage]; rfl)
    have hsound : (r.sys.next (.handoffEnd g accepted)).Sound :=
      System.next_sound h.sound (fun _ hg => by cases hg)
    have htable : (r.sys.next (.handoffEnd g accepted)).sched.GrantTable
        (r.sys.next (.handoffEnd g accepted)).issued :=
      h.sound.next_grantTable h.table trivial
    have hissued := System.mem_issued_next h.issued (.handoffEnd g accepted)
    rcases System.guards_handoffEnd h.tabled h.issued hflight hfind hgen accepted with
      hemits | ⟨hemits, hguards⟩
    · rw [hemits]
      refine ⟨hsound, htable, hissued, fun hmem => ?_, nofun,
        fun _ => .inl (List.mem_append_right _ (List.mem_singleton_self _))⟩
      rcases List.mem_append.mp hmem with hold | hnew
      · exact h.unasked hold
      · cases List.mem_singleton.mp hnew
    · rw [hemits, List.append_nil]
      exact ⟨hsound, htable, hissued, h.unasked, nofun,
        fun _ => .inr hguards⟩
  · exact h

theorem next_deliver (h : r.Tracked g) (c : PortCall) : (r.next g (.deliver c)).Tracked g := by
  unfold Race.next
  simp only
  split
  · rename_i hpending
    refine ⟨h.sound, h.table, h.issued, fun hmem => h.unasked (List.mem_of_mem_erase hmem),
      h.flight, fun hlog => ?_⟩
    rcases hlog.of_append with rfl | ⟨hbefore, hne⟩
    · exact absurd hpending h.unasked
    · have howes := h.owes hbefore
      unfold Race.Owes at howes ⊢
      simp only
      cases hstage : r.stage with
      | finished =>
          rw [hstage] at howes
          exact howes.imp_left (List.mem_erase_of_ne (Ne.symm hne)).mpr
      | _ =>
          rw [hstage] at howes
          exact howes
  · exact h

/-- Every event of a race that has not used up the grant ids. -/
theorem next (h : r.Tracked g) {e : Race.Event D} (he : e.races g = true)
    (hids : (r.next g e).sys.sched.nextGrantId.value.toNat < maxValue) :
    (r.next g e).Tracked g := by
  cases e with
  | run op => exact h.next_run he hids
  | begin => exact h.next_begin
  | ask accepted => exact h.next_ask accepted
  | finish => exact h.next_finish
  | deliver c => exact h.next_deliver c

theorem run (h : r.Tracked g) {events : List (Race.Event D)}
    (hraces : ∀ e ∈ events, e.races g = true)
    (hids : (r.run g events).sys.sched.nextGrantId.value.toNat < maxValue) :
    (r.run g events).Tracked g := by
  have hbelow := Runs.admissible_of_exec
    (Q := fun r : Race D => r.sys.sched.nextGrantId.value.toNat < maxValue)
    (fun r e hlater => lt_of_le_of_lt (Id.le_def.mp (r.counter_le_next g e)) hlater) hids
  exact Runs.invariant (I := Race.Tracked g) (fun _ _ hr hok => hr.next hok.1 hok.2) h
    ((Runs.admissible_of_forall hraces r).and hbelow)

end Race.Tracked

/-! ## The result -/

/-- In any interleaving of the parts of one handoff of an issued grant with cancellations of its
request and the other calls that may run beside it, which does not use up the grant ids:
when everything is over and the request is CANCELLED, every call that asked the fabric to
accept the grant is followed by one that revokes it. -/
theorem cancelled_handoff_is_revoked [Double D] (policy : PolicyConfig D)
    (epoch : CoordinatorEpoch) (ops : List (Op D)) (g : CollectiveGrant)
    (events : List (Race.Event D)) (hrun : InterleavedRun (System.start policy epoch) ops)
    (hissued : g ∈ ((System.start policy epoch).run ops).issued)
    (hraces : ∀ e ∈ events, e.races g = true) :
    let r := Race.run g { sys := (System.start policy epoch).run ops } events
    r.sys.sched.nextGrantId.value.toNat < maxValue → r.Settled →
      ∀ rec, r.sys.sched.records.find? g.request = some rec → rec.lifecycle = .cancelled →
        ∀ before after, r.log = before ++ .fabricAccept g :: after → .fabricRevoke g ∈ after := by
  intro r hids hsettled rec hfind hcancelled before after hlog
  have hcounter := Race.counter_le_run g { sys := (System.start policy epoch).run ops } events
  have hstart : ((System.start policy epoch).run ops).sched.nextGrantId.value.toNat < maxValue :=
    lt_of_le_of_lt (Id.le_def.mp hcounter) hids
  have htracked : Race.Tracked g { sys := (System.start policy epoch).run ops } :=
    ⟨hrun.sound, hrun.grantTable hstart, hissued, List.not_mem_nil, nofun,
      fun hlog => absurd hlog (not_unrevoked_nil g)⟩
  by_contra hnot
  have howes := (htracked.run hraces hids).owes ⟨before, after, hlog, hnot⟩
  rw [Race.Owes, hsettled.1] at howes
  rcases howes with hpending | ⟨rec', hfind', hguarded⟩
  · have hnone : r.pending = [] := hsettled.2
    rw [hnone] at hpending
    cases hpending
  · rw [hfind] at hfind'
    cases hfind'
    rw [hcancelled] at hguarded
    rcases hguarded with hcompleted | ⟨hlife, -⟩
    · cases hcompleted
    · cases hlife

/-- The request is cancelled before the fabric is asked, and the fabric sees the
revocation of `cancel` first. -/
def Scenario.lateAccept (g : CollectiveGrant) : List (Race.Event ℚ) :=
  [.begin, .run (.cancel 1), .deliver (.fabricRevoke g), .ask true, .finish,
    .deliver (.brokerRelease 0), .deliver (.fabricRevoke g)]

/-- The handoff revokes the grant again. -/
theorem cancelled_handoff_is_revoked_late :
    ∃ g ∈ (Scenario.start.run Scenario.granted).issued,
      let r := Race.run g { sys := Scenario.start.run Scenario.granted } (Scenario.lateAccept g)
      r.log = [.fabricRevoke g, .fabricAccept g, .brokerRelease 0, .fabricRevoke g] ∧
      ∀ before after, r.log = before ++ .fabricAccept g :: after → .fabricRevoke g ∈ after := by
  unfold Scenario.start
  obtain ⟨g, hg, hraces, hids, hsettled, hcancelled, hlog⟩ :
      ∃ g ∈ ((System.start PolicyConfig.default 1).run Scenario.granted).issued,
        let r := Race.run g { sys := (System.start PolicyConfig.default 1).run Scenario.granted }
          (Scenario.lateAccept g)
        (Scenario.lateAccept g).all (Race.Event.races g) = true ∧
        r.sys.sched.nextGrantId.value.toNat < maxValue ∧ r.Settled ∧
        (r.sys.sched.records.find? g.request).any (fun rec => rec.lifecycle = .cancelled) = true ∧
        r.log = [.fabricRevoke g, .fabricAccept g, .brokerRelease 0, .fabricRevoke g] := by
    decide +kernel
  simp only [Option.any_eq_true, decide_eq_true_eq] at hcancelled
  obtain ⟨rec, hfind, hlife⟩ := hcancelled
  have hall := cancelled_handoff_is_revoked PolicyConfig.default 1 Scenario.granted g
    (Scenario.lateAccept g) (by decide +kernel) hg (List.all_eq_true.mp hraces)
  refine ⟨g, hg, hlog, ?_⟩
  exact hall hids hsettled rec hfind hlife

/-! ## A closed entry -/

theorem Scheduler.handoffBegin_isOk {s : Scheduler D} {g : CollectiveGrant} {rec : Record D}
    (hvalid : s.revalidateGrant g = .valid) (hfind : s.records.find? g.request = some rec)
    (hlife : rec.lifecycle = .granted) : s.handoffBegin g = (s.dispatched g rec, some g) := by
  unfold handoffBegin
  rw [if_neg (not_not.mpr hvalid)]
  simp only [hfind, hlife]
  rfl

/-- A record whose grant has a terminal entry is handed off and cancelled, and the grant
is not revoked. -/
theorem Race.closed_entry [Double D] {y : System D} {g : CollectiveGrant} {rec : Record D}
    {gs : GrantState} (hvalid : y.sched.revalidateGrant g = .valid)
    (hfind : y.sched.records.find? g.request = some rec) (hlife : rec.lifecycle = .granted)
    (hcur : rec.currentGrant = some g) (hentry : y.sched.grants.find? g.id = some gs)
    (hterminal : gs.terminal = true) :
    let r := Race.run g { sys := y } [.begin, .ask true, .finish, .run (.cancel g.request),
      .deliver (.brokerRelease rec.request.workload)]
    r.Settled ∧ r.log = [.fabricAccept g, .brokerRelease rec.request.workload] ∧
      ∃ rec', r.sys.sched.records.find? g.request = some rec' ∧ rec'.lifecycle = .cancelled := by
  have hbegin := Scheduler.handoffBegin_isOk hvalid hfind hlife
  -- the second section activates the record and leaves the entry terminal
  have hend : ∃ t r, (y.sched.dispatched g rec).handoffEnd g true = (t, true, []) ∧
      t.records.find? g.request = some r ∧ r.lifecycle = .active ∧ r.request = rec.request ∧
      r.currentGrant = some g ∧ ∃ gs', t.grants.find? g.id = some gs' ∧ gs'.terminal = true := by
    have hrec : (y.sched.dispatched g rec).records.find? g.request =
        some { rec with lifecycle := .dispatching } := FinMap.find?_insert_self _ _ _
    have hopen : (y.sched.dispatched g rec).grants.find? g.id =
        some { gs with handedOff := true, grant := g } := FinMap.find?_modify_self _ hentry
    rcases (y.sched.dispatched g rec).handoffEnd_cases g true with
      ⟨hnone, -⟩ | ⟨r, hr, ⟨hnone, -⟩ | ⟨gs', hgs, ⟨-, heq⟩ | ⟨hnot, -⟩⟩⟩
    · rw [hrec] at hnone
      cases hnone
    · rw [hopen] at hnone
      cases hnone
    · rw [hrec] at hr
      rw [hopen] at hgs
      cases hr
      cases hgs
      exact ⟨_, _, heq, FinMap.find?_insert_self _ _ _, rfl, rfl, hcur, _,
        FinMap.find?_insert_self _ _ _, hterminal⟩
    · rw [hrec] at hr
      cases hr
      exact absurd rfl hnot
  obtain ⟨t, r, hend, hr, hactive, hrequest, hcur', gs', hgs, hterminal'⟩ := hend
  have hcancel : t.cancel g.request = ({ t with records := t.records.insert g.request r.cancel },
      .ok [.brokerRelease rec.request.workload]) := by
    simp only [Scheduler.cancel, hr, hactive, hcur', Option.bind_some, hgs, hterminal', hrequest]
    rfl
  have hrun : Race.run g { sys := y } [.begin, .ask true, .finish, .run (.cancel g.request),
      .deliver (.brokerRelease rec.request.workload)] =
      { sys := { y with sched := { t with records := t.records.insert g.request r.cancel } }
        stage := .finished
        pending := []
        log := [.fabricAccept g, .brokerRelease rec.request.workload] } := by
    simp only [Race.run, Runs.exec_cons, Runs.exec_nil, Race.next, System.next, System.step,
      System.emits, System.ofAnswer, System.ofVoid, hbegin, hend, hcancel, if_true,
      Option.isSome_some, List.mem_cons_self, List.erase_cons_head, List.nil_append,
      List.singleton_append]
  rw [hrun]
  exact ⟨⟨rfl, rfl⟩, rfl, r.cancel, FinMap.find?_insert_self _ _ _, Scheduler.cancel_lifecycle r⟩

namespace Saturation

/-- The cancelled first request leaves its entry behind. -/
theorem Cycled.cancel {n : Nat} {y : System ℚ} (h : Cycled n y) :
    Quiet (y.next (.cancel 1)) ∧ (y.next (.cancel 1)).sched.nextGrantId = y.sched.nextGrantId ∧
      ∃ gid gs, gid.value.toNat = n ∧
        (y.next (.cancel 1)).sched.grants.find? gid = some gs ∧ gs.terminal = true := by
  obtain ⟨rec, g, hfind, -, hlife, hcur, hid, hentry⟩ := h.held
  have hnext : (y.next (.cancel 1)).sched =
      { y.sched with
        records := y.sched.records.insert 1 rec.cancel
        activeByParticipant := .empty
        grants := y.sched.grants.insert g.id (Scheduler.revoked { grant := g })
        activeGrants := 0 } := by
    change (y.sched.cancel 1).1 = _
    simp only [Scheduler.cancel, hfind, hlife, hcur, Option.bind_some, hentry, h.idle, h.free,
      ActiveIndex.deindexActiveGrant_empty]
    rfl
  have hevidence : (y.next (.cancel 1)).sched.evidence = y.sched.evidence :=
    Scheduler.evidence_of_setting (y.sched.setting_cancel 1)
  have hsound : (y.next (.cancel 1)).Sound := System.next_sound h.sound (fun _ hg => by cases hg)
  rw [hnext] at hevidence
  refine ⟨?_, by rw [hnext], g.id, Scheduler.revoked { grant := g }, hid, ?_, rfl⟩
  · constructor
    case sound => exact hsound
    case sole =>
      intro id rec' hfind'
      rw [hnext] at hfind'
      simp only [FinMap.find?_insert] at hfind'
      split_ifs at hfind' with hone
      · cases hfind'
        refine ⟨hone, ?_⟩
        rw [Scheduler.cancel_lifecycle]
        rfl
      · exact h.sole id rec' hfind'
    case prepared =>
      rw [hnext]
      exact ⟨hevidence.trans h.prepared.evidence, h.prepared.policy, h.prepared.now,
        h.prepared.epoch⟩
    all_goals rw [hnext]
    case nextRequestId => exact h.nextRequestId
  · rw [hnext]
    exact FinMap.find?_insert_self _ _ _

/-- The grant of the second request passes revalidation. -/
theorem Admitted.valid {y z : System ℚ} {g : CollectiveGrant} (h : Admitted y g z) :
    z.sched.revalidateGrant g = .valid := by
  obtain ⟨s, dec, rfl, -, hepoch⟩ := h.grant
  obtain ⟨rec, hfind, hrequest, hlife, -⟩ := h.held
  have hplan : z.sched.planUsable otherRequest.planId otherRequest.planGen = true := by
    have hplans : z.sched.plans = published.plans := congrArg Evidence.plans h.prepared.evidence
    rw [Scheduler.planUsable, Scheduler.plan, hplans]
    decide +kernel
  have hcurrent : otherRequest.participants.zipIdx.all
      (fun e => z.sched.participantCurrent otherRequest.participantGens e.1 e.2) = true := by
    have hparticipants : z.sched.participants = published.participants :=
      congrArg Evidence.participants h.prepared.evidence
    simp only [Scheduler.participantCurrent, hparticipants]
    decide +kernel
  have hcongestion : z.sched.congestion = none := congrArg Evidence.congestion h.prepared.evidence
  have hfind' : z.sched.records.find? otherRequest.id = some rec := hfind
  simp only [Scheduler.revalidateGrant, Scheduler.grantFor, hfind', hrequest, hlife,
    hepoch, h.prepared.epoch, hcongestion, hplan, hcurrent]
  rfl

end Saturation

/-- With the grant ids used up, a cancelled request leaves the entry of the largest id
terminal, and the grant of the next request shares it.  That grant is handed off, the fabric
accepts it, its request is cancelled, and the fabric is never told to revoke it. -/
theorem shared_entry_is_not_revoked :
    ∃ (ops : List (Op ℚ)) (g : CollectiveGrant) (events : List (Race.Event ℚ)),
      AtomicRun Scenario.start ops ∧ g ∈ (Scenario.start.run ops).issued ∧
      (∀ e ∈ events, e.races g = true) ∧
      let r := Race.run g { sys := Scenario.start.run ops } events
      r.Settled ∧ r.log = [.fabricAccept g, .brokerRelease 0] ∧
      ∃ rec, r.sys.sched.records.find? g.request = some rec ∧ rec.lifecycle = .cancelled := by
  obtain ⟨ops, hops, hcycled⟩ := Saturation.exists_cycled_saturated
  obtain ⟨hquiet, hcounter, gid, gs, hgid, hentry, hterminal⟩ := hcycled.cancel
  obtain ⟨g, hadmitted⟩ := hquiet.admitOther
  obtain ⟨s, dec, hgrant, hnext, -⟩ := hadmitted.grant
  obtain ⟨rec, hfind, hrequest, hlife, hcur⟩ := hadmitted.held
  have hsame : g.id = gid := by
    refine Id.ext_toNat ?_
    rw [hgrant, hgid]
    change s.nextGrantId.value.toNat = maxValue
    rw [hnext, hcounter, hcycled.counter, Nat.min_eq_right (Nat.le_succ _)]
  have hcalls : ∀ op ∈ ops ++ .cancel 1 :: Saturation.admitOther,
      op.isAtomic = true ∧ op.grantArgument = none := by
    intro op hop
    rcases List.mem_append.mp hop with hop | hop
    · exact hops op hop
    · rcases List.mem_cons.mp hop with rfl | hop
      · exact ⟨rfl, rfl⟩
      · exact Saturation.admitOther_atomic op hop
  have hsplit : (Scenario.start : System ℚ).run (ops ++ .cancel 1 :: Saturation.admitOther) =
      ((Scenario.start.run ops).next (.cancel 1)).run Saturation.admitOther :=
    (Runs.exec_append _ _ _).trans (Runs.exec_cons _ _ _)
  have hrid : g.request = 2 := by rw [hgrant]; rfl
  refine ⟨ops ++ .cancel 1 :: Saturation.admitOther, g,
    [.begin, .ask true, .finish, .run (.cancel g.request), .deliver (.brokerRelease 0)],
    AtomicRun.of_no_grants hcalls, ?_, ?_, ?_⟩
  · rw [hsplit]
    exact hadmitted.issued
  · simp [Race.Event.races, Op.races]
  · rw [hsplit]
    have hwork : rec.request.workload = 0 := by rw [hrequest]; rfl
    have hshared : (((Scenario.start.run ops).next (.cancel 1)).run
        Saturation.admitOther).sched.grants.find? g.id = some gs := by
      rw [hadmitted.grants, FinMap.find?_emplace, if_pos rfl, hsame, hentry, Option.getD_some]
    have hclosed := Race.closed_entry hadmitted.valid (hrid ▸ hfind) hlife hcur hshared hterminal
    rw [hwork] at hclosed
    exact hclosed

end CollectiveScheduler
