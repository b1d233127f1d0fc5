/-
  Scheduler/RankOrder.lean --- the comparator is a linear order.

  Over exact numbers the comparator of the stable sort compares score, factors and
  collective, and then the arrival: sequence number and request id.  Sorting by it is
  sorting by a lexicographic order, so what the ranking says about scores, factors and
  collectives depends on the candidates as a set only.  Scores that are not NaN are
  compared like exact numbers.
-/
import CollectiveScheduler.Foundation.Sorting
import CollectiveScheduler.Scheduler.Ranking
import Mathlib.Data.List.Lex
import Mathlib.Data.Prod.Lex
import Mathlib.Order.Compare

set_option autoImplicit false

namespace CollectiveScheduler

open Foundation OrderDual

/-! ## The comparator -/

theorem cmpDouble_compares (a b : ℚ) : (cmpDouble a b).Compares a b := by
  unfold cmpDouble
  simp only [Double.rat_isNaN, Double.rat_lt, decide_eq_true_eq, Bool.and_self,
    Bool.false_eq_true, if_false]
  split_ifs with hlt hgt
  · exact hlt
  · exact hgt
  · exact le_antisymm (not_lt.mp hgt) (not_lt.mp hlt)

/-- `cmp_rank` is the lexicographic comparison. -/
theorem cmpRank_compares (a b : List ℚ) : (cmpRank a b).Compares a b := by
  induction a generalizing b with
  | nil =>
      cases b with
      | nil => exact (rfl : ([] : List ℚ) = [])
      | cons y ys => exact List.nil_lt_cons y ys
  | cons x xs ih =>
      cases b with
      | nil => exact List.nil_lt_cons x xs
      | cons y ys =>
          have hhead := cmpDouble_compares x y
          have htail := ih ys
          rw [cmpRank]
          cases hcmp : cmpDouble x y with
          | lt =>
              rw [hcmp] at hhead
              exact List.cons_lt_cons_iff.mpr (.inl hhead)
          | gt =>
              rw [hcmp] at hhead
              exact List.cons_lt_cons_iff.mpr (.inl hhead)
          | eq =>
              rw [hcmp] at hhead
              obtain rfl : x = y := hhead
              rw [Ordering.eq_then]
              cases hrest : cmpRank xs ys with
              | lt =>
                  rw [hrest] at htail
                  exact List.cons_lt_cons_iff.mpr (.inr ⟨rfl, htail⟩)
              | gt =>
                  rw [hrest] at htail
                  exact List.cons_lt_cons_iff.mpr (.inr ⟨rfl, htail⟩)
              | eq =>
                  rw [hrest] at htail
                  exact congrArg (x :: ·) (htail : xs = ys)

namespace Scheduler

/-- What the comparator looks at first: larger score, larger factors, smaller
collective. -/
def Ranked.precedence (a : Ranked ℚ) : ℚᵒᵈ ×ₗ (List ℚ)ᵒᵈ ×ₗ CollectiveId :=
  toLex (toDual a.score, toLex (toDual a.key, a.collective))

/-- The last two tie-breaks. -/
def Ranked.arrival (a : Ranked ℚ) : ℕ ×ₗ CollectiveRequestId := toLex (a.seq.toNat, a.id)

/-- The whole order of the comparator. -/
def Ranked.rankOrder (a : Ranked ℚ) :
    (ℚᵒᵈ ×ₗ (List ℚ)ᵒᵈ ×ₗ CollectiveId) ×ₗ (ℕ ×ₗ CollectiveRequestId) :=
  toLex (a.precedence, a.arrival)

theorem Ranked.before_iff (a b : Ranked ℚ) :
    Ranked.before a b = true ↔ a.rankOrder < b.rankOrder := by
  unfold Ranked.before Ranked.rankOrder Ranked.precedence Ranked.arrival
  simp only [Prod.Lex.toLex_lt_toLex, EmbeddingLike.apply_eq_iff_eq, Prod.mk.injEq,
    toDual_lt_toDual, Double.rat_eq, Double.rat_lt, UInt64.lt_iff_toNat_lt, UInt64.toNat_inj]
  have hkey := cmpRank_compares a.key b.key
  by_cases hscore : a.score = b.score
  · cases hcmp : cmpRank a.key b.key with
    | lt =>
        rw [hcmp] at hkey
        have hlt : a.key < b.key := hkey
        simp [hscore, hlt.ne, hlt.not_gt]
    | gt =>
        rw [hcmp] at hkey
        have hgt : b.key < a.key := hkey
        simp [hscore, hgt]
    | eq =>
        rw [hcmp] at hkey
        have heq : a.key = b.key := hkey
        by_cases hcollective : a.collective = b.collective
        · by_cases hseq : a.seq = b.seq <;> simp [hscore, heq, hcollective, hseq]
        · simp [hscore, heq, hcollective]
  · simp [hscore]

theorem Ranked.not_before_iff (a b : Ranked ℚ) :
    Ranked.before b a = false ↔ a.rankOrder ≤ b.rankOrder := by
  rw [← not_lt, ← Ranked.before_iff, Bool.not_eq_true]

/-- Where the factors differ they settle a tie of the scores. -/
theorem Ranked.rankOrder_lt_iff_of_key_ne {a b : Ranked ℚ} (hne : a.key ≠ b.key) :
    a.rankOrder < b.rankOrder ↔ b.score < a.score ∨ (a.score = b.score ∧ b.key < a.key) := by
  unfold Ranked.rankOrder Ranked.precedence
  simp only [Prod.Lex.toLex_lt_toLex, toDual_lt_toDual, EmbeddingLike.apply_eq_iff_eq,
    Prod.mk.injEq, hne, false_and, and_false, or_false]

/-- The order tells entries apart. -/
theorem Ranked.rankOrder_injective : Function.Injective Ranked.rankOrder := by
  rintro ⟨id, key, score, seq, collective⟩ ⟨id', key', score', seq', collective'⟩ h
  simp only [Ranked.rankOrder, Ranked.precedence, Ranked.arrival, EmbeddingLike.apply_eq_iff_eq,
    Prod.mk.injEq, UInt64.toNat_inj] at h
  obtain ⟨⟨rfl, rfl, rfl⟩, rfl, rfl⟩ := h
  rfl

/-- Over exact numbers the comparator is a strict order. -/
theorem Ranked.strictOrderOn (l : List (Ranked ℚ)) : StrictOrderOn Ranked.before l := by
  constructor
  case asymm =>
    intro a _ b _ h
    rw [Ranked.before_iff] at h
    rw [Ranked.not_before_iff]
    exact h.le
  case trans =>
    intro a _ b _ c _ h h'
    rw [Ranked.before_iff] at h h' ⊢
    exact h.trans h'
  case total =>
    intro a _ b _ hne
    rw [Ranked.before_iff, Ranked.before_iff]
    exact lt_or_gt_of_ne (fun heq => hne (Ranked.rankOrder_injective heq))

/-! ## Scores that are not NaN -/

section Numbers

variable {D : Type} [Double D] {place : D → ℚ}

theorem cmpDouble_place (h : Double.Places place) (a b : D) :
    cmpDouble (place a) (place b) = cmpDouble a b := by
  unfold cmpDouble
  cases ha : Double.isNaN a <;> cases hb : Double.isNaN b
  · simp [h.lt a b ha hb, h.lt b a hb ha]
  · simp [h.last b a hb ha]
  · simp [h.last a b ha hb, (h.last a b ha hb).le]
  · simp [h.same a b ha hb]

/-- An entry with its doubles moved to their places. -/
def Ranked.exact (place : D → ℚ) (a : Ranked D) : Ranked ℚ :=
  { id := a.id, key := a.key.map place, score := place a.score, seq := a.seq,
    collective := a.collective }

theorem Ranked.before_exact (h : Double.Places place) {a b : Ranked D}
    (ha : Double.isNaN a.score = false) (hb : Double.isNaN b.score = false) :
    Ranked.before (a.exact place) (b.exact place) = Ranked.before a b := by
  have hkey : cmpRank (a.key.map place) (b.key.map place) = cmpRank a.key b.key := by
    generalize a.key = k
    generalize b.key = k'
    induction k generalizing k' with
    | nil => cases k' <;> rfl
    | cons x xs ih =>
        cases k' with
        | nil => rfl
        | cons y ys => simp only [List.map_cons, cmpRank, cmpDouble_place h, ih]
  simp only [Ranked.before, Ranked.exact, hkey, h.eq _ _ ha hb, h.lt _ _ hb ha, Double.rat_eq,
    Double.rat_lt]
  rfl

/-- The comparator is a strict order of entries whose scores are not NaN. -/
theorem Ranked.strictOrderOn_of_numbers [Double.Ordered D] {l : List (Ranked D)}
    (hids : (l.map Ranked.id).Nodup) (hnumbers : ∀ a ∈ l, Double.isNaN a.score = false) :
    StrictOrderOn Ranked.before l := by
  obtain ⟨place, hplace⟩ := Double.Ordered.places (D := D)
  refine (Ranked.strictOrderOn (l.map (Ranked.exact place))).of_map
    (fun a ha b hb => Ranked.before_exact hplace (hnumbers a ha) (hnumbers b hb)) ?_
  intro a ha b hb heq
  have hid : (a.exact place).id = (b.exact place).id := by rw [heq]
  exact List.inj_on_of_nodup_map hids ha hb hid

end Numbers

theorem rankingScore_eq_sum (key : List ℚ) : rankingScore key = key.sum := by
  rw [List.sum_eq_foldl]
  rfl

/-! ## Sorting -/

/-- A ranked list is ordered by the comparator. -/
theorem rank_ordered (s : Scheduler ℚ) (candidates : List CollectiveRequestId) :
    (s.rank candidates).Pairwise (fun a b => a.rankOrder ≤ b.rankOrder) :=
  (Ranked.strictOrderOn _).pairwise_insertionSort.imp fun {a b} h =>
    (Ranked.not_before_iff a b).mp h

/-- Without repetitions the order is strict. -/
theorem rank_strictly_ordered {s : Scheduler ℚ} {candidates : List CollectiveRequestId}
    (hnodup : ((s.rank candidates).map Ranked.id).Nodup) :
    (s.rank candidates).Pairwise (fun a b => a.rankOrder < b.rankOrder) :=
  (s.rank_ordered candidates).imp₂ (fun _ _ hle hne =>
    lt_of_le_of_ne hle (fun heq => hne (Ranked.rankOrder_injective heq)))
    (List.Nodup.of_map _ hnodup)

/-- A ranked list is ordered by precedence. -/
theorem precedence_ordered (s : Scheduler ℚ) (candidates : List CollectiveRequestId) :
    ((s.rank candidates).map Ranked.precedence).Pairwise (· ≤ ·) :=
  List.pairwise_map.mpr ((s.rank_ordered candidates).imp fun {_ _} h =>
    Prod.Lex.monotone_fst _ _ h)

/-- Candidates that agree in precedence are ranked alike, in whatever order they
were collected. -/
theorem precedence_eq_of_perm {s s' : Scheduler ℚ}
    {candidates candidates' : List CollectiveRequestId}
    (h : ((candidates.filterMap fun id => (s.records.find? id).map (s.rankedOf id)).map
        Ranked.precedence).Perm
      ((candidates'.filterMap fun id => (s'.records.find? id).map (s'.rankedOf id)).map
        Ranked.precedence)) :
    (s.rank candidates).map Ranked.precedence = (s'.rank candidates').map Ranked.precedence := by
  have hsorted := (List.perm_insertionSort (fun a b => Ranked.before b a = false)
    (candidates.filterMap fun id => (s.records.find? id).map (s.rankedOf id))).map
      Ranked.precedence
  have hsorted' := (List.perm_insertionSort (fun a b => Ranked.before b a = false)
    (candidates'.filterMap fun id => (s'.records.find? id).map (s'.rankedOf id))).map
      Ranked.precedence
  exact (hsorted.trans (h.trans hsorted'.symm)).eq_of_pairwise
    (fun _ _ _ _ hab hba => le_antisymm hab hba)
    (s.precedence_ordered candidates) (s'.precedence_ordered candidates')

end Scheduler

end CollectiveScheduler
