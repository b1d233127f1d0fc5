/-
  Scheduler/Renaming.lean --- schedulers that differ in their request ids.

  Two schedulers that received the same requests in different orders give them
  different ids and sequence numbers.  A `Naming` pairs the ids of the same
  collective, and `Renamed` relates two schedulers that agree in everything but
  these ids.  Each operation, made on paired ids and grants, keeps the relation.
-/
import CollectiveScheduler.Scheduler.Fencing
import Mathlib.Data.Option.Basic

set_option autoImplicit false

namespace CollectiveScheduler

open Foundation

variable {D : Type}

/-! ## Pairing ids -/

/-- Two ways to name the same collectives by request ids. -/
structure Naming where
  left : CollectiveRequestId → Option CollectiveId
  right : CollectiveRequestId → Option CollectiveId
  left_unique : ∀ {id₁ id₂ c}, left id₁ = some c → left id₂ = some c → id₁ = id₂
  right_unique : ∀ {id₁ id₂ c}, right id₁ = some c → right id₂ = some c → id₁ = id₂
  range : ∀ c, (∃ id, left id = some c) ↔ ∃ id, right id = some c

namespace Naming

variable (ν : Naming)

/-- The two ids name the same collective. -/
def Pairs (id id' : CollectiveRequestId) : Prop :=
  ∃ c, ν.left id = some c ∧ ν.right id' = some c

variable {ν}

theorem Pairs.eq_iff {id₁ id₂ id₁' id₂' : CollectiveRequestId} (h₁ : ν.Pairs id₁ id₁')
    (h₂ : ν.Pairs id₂ id₂') : id₁ = id₂ ↔ id₁' = id₂' := by
  obtain ⟨c₁, hl₁, hr₁⟩ := h₁
  obtain ⟨c₂, hl₂, hr₂⟩ := h₂
  constructor
  · rintro rfl
    rw [hl₁] at hl₂
    cases hl₂
    exact ν.right_unique hr₁ hr₂
  · rintro rfl
    rw [hr₁] at hr₂
    cases hr₂
    exact ν.left_unique hl₁ hl₂

theorem exists_right {id : CollectiveRequestId} {c : CollectiveId} (h : ν.left id = some c) :
    ∃ id', ν.Pairs id id' := by
  obtain ⟨id', h'⟩ := (ν.range c).mp ⟨id, h⟩
  exact ⟨id', c, h, h'⟩

theorem exists_left {id' : CollectiveRequestId} {c : CollectiveId} (h : ν.right id' = some c) :
    ∃ id, ν.Pairs id id' := by
  obtain ⟨id, h'⟩ := (ν.range c).mpr ⟨id', h⟩
  exact ⟨id, c, h', h⟩

end Naming

/-! ## The relation -/

/-- The same grant for paired requests. -/
def CollectiveGrant.Renamed (ν : Naming) (g g' : CollectiveGrant) : Prop :=
  ∃ rid, g' = { g with request := rid } ∧ ν.Pairs g.request rid

/-- The same entry for paired requests. -/
def GrantState.Renamed (ν : Naming) (gs gs' : GrantState) : Prop :=
  ∃ g, gs' = { gs with grant := g } ∧ gs.grant.Renamed ν g

/-- The same record under another id, with another place in the arrival order. -/
def Record.Renamed (ν : Naming) (rec rec' : Record D) : Prop :=
  ∃ rid seq cur, rec' = { rec with
      request := { rec.request with id := rid }, enqueueSeq := seq, currentGrant := cur } ∧
    Option.Rel (CollectiveGrant.Renamed ν) rec.currentGrant cur

/-- Two record maps with the same records under paired ids. -/
structure RecordsRenamed (ν : Naming) (m m' : FinMap CollectiveRequestId (Record D)) : Prop where
  left : ∀ id, (m.find? id).map (·.request.collective) = ν.left id
  right : ∀ id, (m'.find? id).map (·.request.collective) = ν.right id
  keyed : ∀ id rec, m.find? id = some rec → rec.request.id = id
  keyed' : ∀ id rec, m'.find? id = some rec → rec.request.id = id
  pairs : ∀ {id id'}, ν.Pairs id id' →
    ∃ rec rec', m.find? id = some rec ∧ m'.find? id' = some rec' ∧ rec.Renamed ν rec'

/-- Two grant tables with the same entries. -/
def EntriesRenamed (ν : Naming) (m m' : FinMap CollectiveGrantId GrantState) : Prop :=
  ∀ gid, Option.Rel (GrantState.Renamed ν) (m.find? gid) (m'.find? gid)

namespace RecordsRenamed

variable {ν : Naming} {m m' n n' : FinMap CollectiveRequestId (Record D)}

theorem exists_right (h : RecordsRenamed ν m m') {id : CollectiveRequestId} {rec : Record D}
    (hfind : m.find? id = some rec) : ∃ id', ν.Pairs id id' := by
  have hname := h.left id
  rw [hfind, Option.map_some] at hname
  exact Naming.exists_right hname.symm

theorem exists_left (h : RecordsRenamed ν m m') {id' : CollectiveRequestId} {rec' : Record D}
    (hfind : m'.find? id' = some rec') : ∃ id, ν.Pairs id id' := by
  have hname := h.right id'
  rw [hfind, Option.map_some] at hname
  exact Naming.exists_left hname.symm

/-- Records rewritten on both sides, each keeping its request. -/
theorem update (h : RecordsRenamed ν m m') {f f' : CollectiveRequestId → Record D → Record D}
    (hn : ∀ id, n.find? id = (m.find? id).map (f id))
    (hn' : ∀ id, n'.find? id = (m'.find? id).map (f' id))
    (hkeep : ∀ id rec, m.find? id = some rec → (f id rec).request = rec.request)
    (hkeep' : ∀ id rec, m'.find? id = some rec → (f' id rec).request = rec.request)
    (hrel : ∀ {id id' rec rec'}, ν.Pairs id id' → m.find? id = some rec →
      m'.find? id' = some rec' → rec.Renamed ν rec' → (f id rec).Renamed ν (f' id' rec')) :
    RecordsRenamed ν n n' where
  left id := by
    rw [hn, ← h.left id]
    cases hfind : m.find? id with
    | none => rfl
    | some rec => simp only [Option.map_some, hkeep id rec hfind]
  right id := by
    rw [hn', ← h.right id]
    cases hfind : m'.find? id with
    | none => rfl
    | some rec => simp only [Option.map_some, hkeep' id rec hfind]
  keyed id rec hfind := by
    rw [hn] at hfind
    obtain ⟨rec₀, hfind₀, rfl⟩ := Option.map_eq_some_iff.mp hfind
    rw [hkeep id rec₀ hfind₀]
    exact h.keyed id rec₀ hfind₀
  keyed' id rec hfind := by
    rw [hn'] at hfind
    obtain ⟨rec₀, hfind₀, rfl⟩ := Option.map_eq_some_iff.mp hfind
    rw [hkeep' id rec₀ hfind₀]
    exact h.keyed' id rec₀ hfind₀
  pairs {id id'} hpair := by
    obtain ⟨rec, rec', hfind, hfind', hrec⟩ := h.pairs hpair
    exact ⟨f id rec, f' id' rec', by rw [hn, hfind, Option.map_some],
      by rw [hn', hfind', Option.map_some], hrel hpair hfind hfind' hrec⟩

/-- One record rewritten on both sides. -/
theorem insert (h : RecordsRenamed ν m m') {id id' : CollectiveRequestId}
    {old old' rec rec' : Record D} (hpair : ν.Pairs id id') (hfind : m.find? id = some old)
    (hfind' : m'.find? id' = some old') (hkeep : rec.request = old.request)
    (hkeep' : rec'.request = old'.request) (hrel : rec.Renamed ν rec') :
    RecordsRenamed ν (m.insert id rec) (m'.insert id' rec') := by
  have hplace : ∀ {k : CollectiveRequestId} {v w : Record D}
      {l : FinMap CollectiveRequestId (Record D)}, l.find? k = some v →
      ∀ i, (l.insert k w).find? i = (l.find? i).map (fun x => if i = k then w else x) := by
    intro k v w l hk i
    rw [FinMap.find?_insert]
    split_ifs with hi
    · rw [hi, hk, Option.map_some]
    · rw [Option.map_id']
  refine h.update (hplace hfind) (hplace hfind') ?_ ?_ ?_
  · intro i x hx
    split_ifs with hi
    · rw [hi, hfind] at hx
      cases hx
      exact hkeep
    · rfl
  · intro i x hx
    split_ifs with hi
    · rw [hi, hfind'] at hx
      cases hx
      exact hkeep'
    · rfl
  · intro i i' x x' hi hx hx' hxrel
    by_cases heq : i = id
    · rw [if_pos heq, if_pos ((hi.eq_iff hpair).mp heq)]
      exact hrel
    · rw [if_neg heq, if_neg (fun h' => heq ((hi.eq_iff hpair).mpr h'))]
      exact hxrel

end RecordsRenamed

namespace EntriesRenamed

variable {ν : Naming} {m m' : FinMap CollectiveGrantId GrantState}

theorem insert (h : EntriesRenamed ν m m') (gid : CollectiveGrantId) {gs gs' : GrantState}
    (hrel : gs.Renamed ν gs') : EntriesRenamed ν (m.insert gid gs) (m'.insert gid gs') :=
  FinMap.Related.insert h gid hrel

theorem emplace (h : EntriesRenamed ν m m') (gid : CollectiveGrantId) {gs gs' : GrantState}
    (hrel : gs.Renamed ν gs') : EntriesRenamed ν (m.emplace gid gs) (m'.emplace gid gs') :=
  FinMap.Related.emplace h gid hrel

theorem modify (h : EntriesRenamed ν m m') (gid : CollectiveGrantId)
    {f f' : GrantState → GrantState}
    (hrel : ∀ gs gs', gs.Renamed ν gs' → (f gs).Renamed ν (f' gs')) :
    EntriesRenamed ν (m.modify gid f) (m'.modify gid f') :=
  FinMap.Related.modify h gid hrel

theorem find?_some (h : EntriesRenamed ν m m') {gid : CollectiveGrantId} {gs : GrantState}
    (hfind : m.find? gid = some gs) : ∃ gs', m'.find? gid = some gs' ∧ gs.Renamed ν gs' :=
  FinMap.Related.find?_some h hfind

theorem find?_none (h : EntriesRenamed ν m m') {gid : CollectiveGrantId}
    (hfind : m.find? gid = none) : m'.find? gid = none :=
  FinMap.Related.find?_none h hfind

end EntriesRenamed

namespace Record.Renamed

variable {ν : Naming} {rec rec' : Record D}

theorem demandRevalidation (h : rec.Renamed ν rec') :
    rec.demandRevalidation.Renamed ν rec'.demandRevalidation := by
  obtain ⟨rid, seq, cur, rfl, hcur⟩ := h
  unfold Record.demandRevalidation
  simp only
  split_ifs
  · exact ⟨rid, seq, cur, rfl, hcur⟩
  · exact ⟨rid, seq, cur, rfl, hcur⟩

theorem revalidateAgainst (h : rec.Renamed ν rec') (p : Participant) :
    (Scheduler.revalidateAgainst p rec).Renamed ν (Scheduler.revalidateAgainst p rec') := by
  have hlife : rec'.lifecycle = rec.lifecycle := by
    obtain ⟨rid, seq, cur, rfl, -⟩ := h
    rfl
  have hnames : Scheduler.namesOutdated rec'.request p =
      Scheduler.namesOutdated rec.request p := by
    obtain ⟨rid, seq, cur, rfl, -⟩ := h
    rfl
  unfold Scheduler.revalidateAgainst
  rw [hlife, hnames]
  split_ifs
  · exact h
  · exact h.demandRevalidation
  · exact h

/-- Both records move to the same state. -/
theorem moved (h : rec.Renamed ν rec') (st : LifecycleState) :
    Record.Renamed ν { rec with lifecycle := st } { rec' with lifecycle := st } := by
  obtain ⟨rid, seq, cur, rfl, hcur⟩ := h
  exact ⟨rid, seq, cur, rfl, hcur⟩

theorem lifecycle_eq (h : rec.Renamed ν rec') : rec'.lifecycle = rec.lifecycle := by
  obtain ⟨rid, seq, cur, rfl, -⟩ := h
  rfl

/-- Both records hold a grant of this id and generation, or neither does. -/
theorem holds (h : rec.Renamed ν rec') (gid : CollectiveGrantId)
    (gen : CollectiveGrantGeneration) :
    rec'.currentGrant.any (fun cur => cur.id = gid && cur.gen = gen) =
      rec.currentGrant.any (fun cur => cur.id = gid && cur.gen = gen) := by
  obtain ⟨_, _, cur, rfl, hcur⟩ := h
  simp only
  generalize rec.currentGrant = cur₀ at hcur
  cases hcur with
  | none => rfl
  | some hg =>
      obtain ⟨_, rfl, -⟩ := hg
      rfl

/-- Both records are completed, and their grants are no longer active. -/
theorem completed (h : rec.Renamed ν rec') (st : LifecycleState) :
    Record.Renamed ν
      { rec with
        lifecycle := st
        currentGrant := rec.currentGrant.map (fun cur => { cur with active := false }) }
      { rec' with
        lifecycle := st
        currentGrant := rec'.currentGrant.map (fun cur => { cur with active := false }) } := by
  obtain ⟨rid, seq, cur, rfl, hcur⟩ := h
  refine ⟨rid, seq, cur.map (fun cur => { cur with active := false }), rfl, ?_⟩
  generalize rec.currentGrant = cur₀ at hcur
  cases hcur with
  | none => exact .none
  | some hg =>
      obtain ⟨rid', rfl, hpair⟩ := hg
      exact .some ⟨rid', rfl, hpair⟩

end Record.Renamed

namespace Scheduler

/-- The same scheduler with its requests under paired ids. -/
structure Renamed (ν : Naming) (s s' : Scheduler D) : Prop where
  rest : s' = { s with
    records := s'.records, grants := s'.grants
    participantRequests := s'.participantRequests
    activeByParticipant := s'.activeByParticipant
    queuedCount := s'.queuedCount, readyCount := s'.readyCount
    eligibleCount := s'.eligibleCount }
  records : RecordsRenamed ν s.records s'.records
  grants : EntriesRenamed ν s.grants s'.grants
  index : ∀ p gid, s.activeByParticipant.Lists p gid ↔ s'.activeByParticipant.Lists p gid
  tracked : ∀ p {id id'}, ν.Pairs id id' → (id ∈ s.requestsOf p ↔ id' ∈ s'.requestsOf p)

/-! ## Evidence -/

/-- Publishing a participant indexes no request. -/
theorem mem_requestsOf_emplace (s : Scheduler D) (p q : ParticipantId)
    (id : CollectiveRequestId) :
    id ∈ requestsOf { s with participantRequests := s.participantRequests.emplace p .empty } q ↔
      id ∈ s.requestsOf q := by
  rw [mem_requestsOf_iff, mem_requestsOf_iff]
  exact FinMap.indexes_emplace_empty

variable {ν : Naming} {s s' : Scheduler D}

theorem Renamed.publishPlan (h : s.Renamed ν s') (pl : CommunicationPlan D) :
    (s.publishPlan pl).1.Renamed ν (s'.publishPlan pl).1 := by
  have hplans : s'.plans = s.plans := by rw [h.rest]
  unfold Scheduler.publishPlan
  rw [hplans]
  split_ifs
  · exact h
  · exact ⟨by rw [h.rest], h.records, h.grants, h.index, h.tracked⟩

theorem Renamed.publishDependency (h : s.Renamed ν s') (dep : DependencyState) :
    (s.publishDependency dep).1.Renamed ν (s'.publishDependency dep).1 := by
  have hdeps : s'.deps = s.deps := by rw [h.rest]
  unfold Scheduler.publishDependency
  rw [hdeps]
  split_ifs
  · exact h
  · exact ⟨by rw [h.rest], h.records, h.grants, h.index, h.tracked⟩

theorem Renamed.publishReservation (h : s.Renamed ν s') (res : Reservation D) :
    (s.publishReservation res).1.Renamed ν (s'.publishReservation res).1 := by
  have hres : s'.reservations = s.reservations := by rw [h.rest]
  unfold Scheduler.publishReservation
  rw [hres]
  exact ⟨by rw [h.rest], h.records, h.grants, h.index, h.tracked⟩

theorem Renamed.publishCongestion (h : s.Renamed ν s') (cong : CongestionState D) :
    (s.publishCongestion cong).1.Renamed ν (s'.publishCongestion cong).1 := by
  have hcong : s'.congestion = s.congestion := by rw [h.rest]
  unfold Scheduler.publishCongestion
  rw [hcong]
  split_ifs
  · exact h
  · exact ⟨by rw [h.rest], h.records, h.grants, h.index, h.tracked⟩

theorem Renamed.publishCapacity (h : s.Renamed ν s') (cap : CapacityState D) :
    (s.publishCapacity cap).1.Renamed ν (s'.publishCapacity cap).1 := by
  have hcap : s'.capacity = s.capacity := by rw [h.rest]
  unfold Scheduler.publishCapacity
  rw [hcap]
  split_ifs
  · exact h
  · exact ⟨by rw [h.rest], h.records, h.grants, h.index, h.tracked⟩

theorem Renamed.advanceTime (h : s.Renamed ν s') (d : Nanoseconds) :
    (s.advanceTime d).Renamed ν (s'.advanceTime d) := by
  have hnow : s'.now = s.now := by rw [h.rest]
  unfold Scheduler.advanceTime
  rw [hnow]
  exact ⟨by rw [h.rest], h.records, h.grants, h.index, h.tracked⟩

theorem Renamed.publishParticipant (h : s.Renamed ν s') (p : Participant) :
    (s.publishParticipant p).1.Renamed ν (s'.publishParticipant p).1 := by
  have hregress : s'.participantRegresses p = s.participantRegresses p := by
    rw [h.rest]
    rfl
  have hsupplants : s'.supplants p = s.supplants p := by
    rw [h.rest]
    rfl
  have hvisits : ∀ {id id'}, ν.Pairs id id' →
      s'.publicationVisits p id' = s.publicationVisits p id := by
    intro id id' hpair
    simp only [publicationVisits, hregress, hsupplants, h.tracked p.id hpair]
  have hfind : ∀ (t : Scheduler D) id, (t.publishParticipant p).1.records.find? id =
      (t.records.find? id).map
        (fun rec => if t.publicationVisits p id then revalidateAgainst p rec else rec) := by
    intro t id
    rw [find?_publishParticipant]
    split_ifs
    · rfl
    · rw [Option.map_id']
  have hkeep : ∀ (t : Scheduler D) id (rec : Record D),
      (if t.publicationVisits p id then revalidateAgainst p rec else rec).request =
        rec.request := by
    intro t id rec
    split_ifs
    · exact (revalidateAgainst_rewritten p rec).request
    · rfl
  have hrecords := h.records.update (hfind s) (hfind s') (fun id rec _ => hkeep s id rec)
    (fun id rec _ => hkeep s' id rec) (by
      intro id id' rec rec' hpair _ _ hrec
      rw [hvisits hpair]
      split_ifs
      · exact hrec.revalidateAgainst p
      · exact hrec)
  have htracked : ∀ q {id id'}, ν.Pairs id id' →
      (id ∈ requestsOf
          { s with participantRequests := s.participantRequests.emplace p.id .empty } q ↔
        id' ∈ requestsOf
          { s' with participantRequests := s'.participantRequests.emplace p.id .empty } q) := by
    intro q id id' hpair
    rw [mem_requestsOf_emplace, mem_requestsOf_emplace]
    exact h.tracked q hpair
  have hparticipants : s'.participants = s.participants := by rw [h.rest]
  unfold Scheduler.publishParticipant at hrecords ⊢
  rw [hregress] at hrecords ⊢
  split_ifs at hrecords ⊢
  · exact h
  all_goals
    refine ⟨?_, hrecords, h.grants, h.index, htracked⟩
    rw [hparticipants, h.rest]

/-! ## Grants -/

theorem Renamed.deindex (h : s.Renamed ν s') {g g' : CollectiveGrant} (hg : g.Renamed ν g')
    (p : ParticipantId) (gid : CollectiveGrantId) :
    (s.activeByParticipant.deindexActiveGrant g).Lists p gid ↔
      (s'.activeByParticipant.deindexActiveGrant g').Lists p gid := by
  obtain ⟨rid, rfl, -⟩ := hg
  rw [ActiveIndex.lists_deindexActiveGrant, ActiveIndex.lists_deindexActiveGrant, h.index]

/-- One record rewritten on both sides. -/
theorem Renamed.setRecord (h : s.Renamed ν s') {id id' : CollectiveRequestId}
    {old old' rec rec' : Record D} (hpair : ν.Pairs id id')
    (hfind : s.records.find? id = some old) (hfind' : s'.records.find? id' = some old')
    (hkeep : rec.request = old.request) (hkeep' : rec'.request = old'.request)
    (hrel : rec.Renamed ν rec') :
    Renamed ν { s with records := s.records.insert id rec }
      { s' with records := s'.records.insert id' rec' } :=
  ⟨by rw [h.rest], h.records.insert hpair hfind hfind' hkeep hkeep' hrel, h.grants, h.index,
    h.tracked⟩

theorem Renamed.cancel (h : s.Renamed ν s') {id id' : CollectiveRequestId}
    (hpair : ν.Pairs id id') : (s.cancel id).1.Renamed ν (s'.cancel id').1 := by
  obtain ⟨rec, rec', hfind, hfind', hrec⟩ := h.records.pairs hpair
  have hcancel : rec.cancel.Renamed ν rec'.cancel := by
    rw [Record.cancel, Record.cancel, hrec.lifecycle_eq]
    exact hrec.moved _
  have hset : Renamed ν { s with records := s.records.insert id rec.cancel }
      { s' with records := s'.records.insert id' rec'.cancel } :=
    h.setRecord hpair hfind hfind' rfl rfl hcancel
  have hactive : s'.activeGrants = s.activeGrants := by rw [h.rest]
  unfold Scheduler.cancel
  rw [hfind, hfind']
  simp only [hrec.lifecycle_eq]
  split_ifs with hterminal
  · exact h
  · obtain ⟨rid, seq, cur, rfl, hcur⟩ := hrec
    generalize rec.currentGrant = cur₀ at hcur
    cases hcur with
    | none => exact hset
    | @some g g' hg =>
        obtain ⟨_, rfl, -⟩ := hg
        simp only [Option.bind_some]
        cases hentry : s.grants.find? g.id with
        | none =>
            rw [h.grants.find?_none hentry]
            exact hset
        | some gs =>
            obtain ⟨gs', hentry', hgs⟩ := h.grants.find?_some hentry
            rw [hentry']
            obtain ⟨g₀, rfl, hg₀⟩ := hgs
            have hrevoked : (revoked gs).Renamed ν (revoked { gs with grant := g₀ }) :=
              ⟨g₀, rfl, hg₀⟩
            simp only
            split_ifs with hclosed
            · exact hset
            all_goals
              refine ⟨?_, hset.records, h.grants.insert g.id hrevoked, h.deindex hg₀, h.tracked⟩
              rw [hactive, h.rest]

theorem Renamed.revalidateGrant (h : s.Renamed ν s') {g g' : CollectiveGrant}
    (hg : g.Renamed ν g') : s'.revalidateGrant g' = s.revalidateGrant g := by
  obtain ⟨rid, rfl, hpair⟩ := hg
  obtain ⟨rec, rec', hfind, hfind', hrec⟩ := h.records.pairs hpair
  obtain ⟨_, _, _, rfl, -⟩ := hrec
  unfold Scheduler.revalidateGrant
  simp only [hfind, hfind']
  rw [h.rest]
  rfl

theorem Renamed.handoffBegin (h : s.Renamed ν s') {g g' : CollectiveGrant}
    (hg : g.Renamed ν g') :
    (s.handoffBegin g).1.Renamed ν (s'.handoffBegin g').1 ∧
      Option.Rel (CollectiveGrant.Renamed ν) (s.handoffBegin g).2 (s'.handoffBegin g').2 := by
  have hvalid := h.revalidateGrant hg
  have hcopy := hg
  obtain ⟨rid, rfl, hpair⟩ := hg
  obtain ⟨rec, rec', hfind, hfind', hrec⟩ := h.records.pairs hpair
  unfold Scheduler.handoffBegin
  rw [hvalid]
  split_ifs
  · exact ⟨h, .none⟩
  · simp only [hfind, hfind', hrec.lifecycle_eq]
    cases rec.lifecycle.transition .dispatching with
    | error e => exact ⟨h, .none⟩
    | ok st =>
        refine ⟨⟨by rw [h.rest], ?_, ?_, h.index, h.tracked⟩, .some hcopy⟩
        · exact h.records.insert hpair hfind hfind' rfl rfl (hrec.moved st)
        · -- the entry takes the caller's copy on both sides
          refine h.grants.modify g.id fun gs gs' hgs => ?_
          obtain ⟨g₀, rfl, -⟩ := hgs
          exact ⟨_, rfl, hcopy⟩

theorem Renamed.handoffEnd (h : s.Renamed ν s') {g g' : CollectiveGrant}
    (hg : g.Renamed ν g') (accepted : Bool) :
    (s.handoffEnd g accepted).1.Renamed ν (s'.handoffEnd g' accepted).1 := by
  obtain ⟨rid, rfl, hpair⟩ := hg
  obtain ⟨rec, rec', hfind, hfind', hrec⟩ := h.records.pairs hpair
  have hactive : s'.activeGrants = s.activeGrants := by rw [h.rest]
  unfold Scheduler.handoffEnd
  simp only [hfind, hfind', hrec.lifecycle_eq]
  generalize (if rec.lifecycle = .dispatching ∧ accepted = true then
    rec.lifecycle.transitionOrKeep .active else rec.lifecycle) = st
  have hset : Renamed ν
      { s with records := s.records.insert g.request { rec with lifecycle := st } }
      { s' with records := s'.records.insert rid { rec' with lifecycle := st } } :=
    h.setRecord hpair hfind hfind' rfl rfl (hrec.moved st)
  cases hentry : s.grants.find? g.id with
  | none =>
      rw [h.grants.find?_none hentry]
      exact hset
  | some gs =>
      obtain ⟨gs', hentry', hgs⟩ := h.grants.find?_some hentry
      obtain ⟨g₀, rfl, hg₀⟩ := hgs
      rw [hentry']
      simp only
      split_ifs
      · refine ⟨by rw [hactive, h.rest], hset.records, h.grants.insert g.id ⟨g₀, rfl, hg₀⟩, ?_,
          h.tracked⟩
        intro p gid
        obtain ⟨_, rfl, -⟩ := hg₀
        rw [ActiveIndex.lists_indexActiveGrant, ActiveIndex.lists_indexActiveGrant, h.index]
      · exact ⟨by rw [h.rest], hset.records, h.grants.insert g.id ⟨g₀, rfl, hg₀⟩, h.index,
          h.tracked⟩

theorem Renamed.handoff (h : s.Renamed ν s') {g g' : CollectiveGrant} (hg : g.Renamed ν g')
    (accepted : Bool) : (s.handoff g accepted).1.Renamed ν (s'.handoff g' accepted).1 := by
  obtain ⟨hbegin, hasked⟩ := h.handoffBegin hg
  rw [(s.handoff_eq g accepted).1, (s'.handoff_eq g' accepted).1]
  generalize (s.handoffBegin g).2 = asked at hasked
  generalize (s'.handoffBegin g').2 = asked' at hasked
  cases hasked with
  | none => exact hbegin
  | some hcopy => exact hbegin.handoffEnd hcopy accepted

theorem Renamed.complete (h : s.Renamed ν s') {g g' : CollectiveGrant} (hg : g.Renamed ν g')
    (wb : WorkerBootId) (sb : SourceBootId) :
    (s.complete g wb sb).1.Renamed ν (s'.complete g' wb sb).1 := by
  have hcopy := hg
  obtain ⟨rid, rfl, hpair⟩ := hg
  obtain ⟨rec, rec', hfind, hfind', hrec⟩ := h.records.pairs hpair
  have hactive : s'.activeGrants = s.activeGrants := by rw [h.rest]
  unfold Scheduler.complete
  simp only [hfind, hfind']
  cases hentry : s.grants.find? g.id with
  | none =>
      rw [h.grants.find?_none hentry]
      exact h
  | some gs =>
      obtain ⟨gs', hentry', hgs⟩ := h.grants.find?_some hentry
      obtain ⟨g₀, rfl, hg₀⟩ := hgs
      have hallowed : s'.completionAllowed { g with request := rid } wb sb rec'
          { gs with grant := g₀ } = s.completionAllowed g wb sb rec gs := by
        have hcurrent := hrec.holds g.id g.gen
        obtain ⟨_, _, _, rfl, -⟩ := hrec
        unfold completionAllowed
        simp only at hcurrent ⊢
        rw [hcurrent, h.rest]
        rfl
      rw [hentry']
      simp only [hallowed, hrec.lifecycle_eq]
      split_ifs
      · exact h
      · cases rec.lifecycle.transition .completed with
        | error e => exact h
        | ok st =>
            refine ⟨by rw [hactive, h.rest], ?_, h.grants.insert g.id ⟨g₀, rfl, hg₀⟩,
              h.deindex hcopy, h.tracked⟩
            exact h.records.insert hpair hfind hfind' rfl rfl (hrec.completed st)

/-! ## Fencing -/

theorem Renamed.fenceParticipants (h : s.Renamed ν s') (worker : WorkerId)
    (boot : WorkerBootId) :
    (s.fenceParticipants worker boot).Renamed ν (s'.fenceParticipants worker boot) := by
  have hparticipants : s'.participants = s.participants := by rw [h.rest]
  unfold Scheduler.fenceParticipants
  rw [hparticipants]
  exact ⟨by rw [h.rest], h.records, h.grants, h.index, h.tracked⟩

/-- Paired hits revoke the same grants. -/
theorem Renamed.revokedBy (h : s.Renamed ν s') {hit hit' : CollectiveRequestId → Prop}
    (hhit : ∀ {id id'}, ν.Pairs id id' → (hit id ↔ hit' id')) (gid : CollectiveGrantId) :
    s.RevokedBy hit gid ↔ s'.RevokedBy hit' gid := by
  constructor
  · rintro ⟨rid, rec, g, hrid, hfind, hcur, hgid⟩
    obtain ⟨rid', hpair⟩ := h.records.exists_right hfind
    obtain ⟨rec₀, rec', hfind₀, hfind', _, _, cur, rfl, hrel⟩ := h.records.pairs hpair
    rw [hfind] at hfind₀
    obtain rfl : rec = rec₀ := Option.some.inj hfind₀
    rw [hcur] at hrel
    cases hrel with
    | @some _ g' hg =>
        obtain ⟨_, rfl, -⟩ := hg
        exact ⟨rid', _, _, (hhit hpair).mp hrid, hfind', rfl, hgid⟩
  · rintro ⟨rid', rec', g', hrid, hfind', hcur, hgid⟩
    obtain ⟨rid, hpair⟩ := h.records.exists_left hfind'
    obtain ⟨rec, rec₀, hfind, hfind₀, _, _, cur, rfl, hrel⟩ := h.records.pairs hpair
    rw [hfind'] at hfind₀
    obtain rfl := Option.some.inj hfind₀
    obtain rfl : cur = some g' := hcur
    generalize hcur₀ : rec.currentGrant = cur₀ at hrel
    cases hrel with
    | @some g _ hg =>
        obtain ⟨_, rfl, -⟩ := hg
        exact ⟨rid, rec, g, (hhit hpair).mpr hrid, hfind, hcur₀, hgid⟩

theorem Renamed.afterHits (h : s.Renamed ν s') {hit hit' : CollectiveRequestId → Prop}
    (hhit : ∀ {id id'}, ν.Pairs id id' → (hit id ↔ hit' id')) {t t' : Scheduler D}
    (ht : s.AfterHits hit t) (ht' : s'.AfterHits hit' t') : t.Renamed ν t' := by
  classical
  have hrevoked := h.revokedBy hhit
  have hfind : ∀ {hit : CollectiveRequestId → Prop} {s t : Scheduler D}, s.AfterHits hit t →
      ∀ id, t.records.find? id = (s.records.find? id).map
        (fun rec => if hit id then rec.demandRevalidation else rec) := by
    intro hit s t ht id
    by_cases hid : hit id
    · simp only [(ht.records id).1 hid, if_pos hid]
    · simp only [(ht.records id).2 hid, if_neg hid, Option.map_id']
  have hkeep : ∀ (hit : CollectiveRequestId → Prop) id (rec : Record D),
      (if hit id then rec.demandRevalidation else rec).request = rec.request := by
    intro hit id rec
    split_ifs
    · exact (demandRevalidation_frame rec).1
    · rfl
  refine ⟨?_, ?_, ?_, ?_, ?_⟩
  · rw [ht'.rest, ht.rest, h.rest]
  · refine h.records.update (hfind ht) (hfind ht') (fun id rec _ => hkeep hit id rec)
      (fun id rec _ => hkeep hit' id rec) ?_
    intro id id' rec rec' hpair _ _ hrec
    by_cases hid : hit id
    · rw [if_pos hid, if_pos ((hhit hpair).mp hid)]
      exact hrec.demandRevalidation
    · rw [if_neg hid, if_neg (fun hid' => hid ((hhit hpair).mpr hid'))]
      exact hrec
  · intro gid
    have hentry := h.grants gid
    by_cases hgid : s.RevokedBy hit gid
    · rw [(ht.grants gid).1 hgid, (ht'.grants gid).1 ((hrevoked gid).mp hgid)]
      generalize s.grants.find? gid = found at hentry
      generalize s'.grants.find? gid = found' at hentry
      cases hentry with
      | none => exact .none
      | some hgs =>
          obtain ⟨g, rfl, hg⟩ := hgs
          exact .some ⟨g, rfl, hg⟩
    · rw [(ht.grants gid).2 hgid, (ht'.grants gid).2 (fun hgid' => hgid ((hrevoked gid).mpr hgid'))]
      exact hentry
  · intro p gid
    rw [ht.index, ht'.index, h.index]
    refine and_congr_right fun _ => not_congr ⟨?_, ?_⟩
    · rintro ⟨gid', gs, hgid', hentry, hlisted⟩
      obtain ⟨gs', hentry', g, rfl, _, rfl, -⟩ := h.grants.find?_some hentry
      exact ⟨gid', _, (hrevoked gid').mp hgid', hentry', hlisted⟩
    · rintro ⟨gid', gs', hgid', hentry', hlisted⟩
      have hrel := h.grants gid'
      rw [hentry'] at hrel
      generalize hentry : s.grants.find? gid' = found at hrel
      cases hrel with
      | some hgs =>
          obtain ⟨g, rfl, _, rfl, -⟩ := hgs
          exact ⟨gid', _, (hrevoked gid').mpr hgid', hentry, hlisted⟩
  · intro p id id' hpair
    have hsame : ∀ {hit : CollectiveRequestId → Prop} {s t : Scheduler D}, s.AfterHits hit t →
        t.requestsOf p = s.requestsOf p := by
      intro hit s t ht
      rw [ht.rest]
      rfl
    rw [hsame ht, hsame ht']
    exact h.tracked p hpair

theorem Renamed.fenceWorkerBoot (h : s.Renamed ν s') (worker : WorkerId) (boot : WorkerBootId)
    (recordOrder recordOrder' : List CollectiveRequestId) :
    (s.fenceWorkerBoot worker boot recordOrder).Renamed ν
      (s'.fenceWorkerBoot worker boot recordOrder') := by
  have hfenced := h.fenceParticipants worker boot
  refine hfenced.afterHits ?_ (s.fenceWorkerBoot_afterHits worker boot recordOrder)
    (s'.fenceWorkerBoot_afterHits worker boot recordOrder')
  intro id id' hpair
  obtain ⟨rec, rec', hfind, hfind', _, _, _, rfl, -⟩ := h.records.pairs hpair
  have hhit : ∀ req seq cur, (s'.fenceParticipants worker boot).isHit worker boot
        { rec with request := { rec.request with id := req }, enqueueSeq := seq,
                   currentGrant := cur } =
      (s.fenceParticipants worker boot).isHit worker boot rec := by
    intro req seq cur
    unfold isHit
    rw [hfenced.rest]
    rfl
  rw [hfind, hfind']
  simp only [Option.some.injEq, exists_eq_left', hhit]

end Scheduler

end CollectiveScheduler
