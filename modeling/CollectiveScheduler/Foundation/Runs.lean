/-
  Foundation/Runs.lean --- runs of a state machine and their invariants.

  A machine is a total step function.  A run is a list of actions; what may be
  assumed of the actions is a predicate on the action and the state it is taken
  in, so a restriction on the environment is part of the run and not of the
  machine.
-/
import Mathlib.Data.List.Basic

set_option autoImplicit false

namespace CollectiveScheduler.Foundation.Runs

variable {σ α : Type}

/-- The state after a list of actions. -/
def exec (step : σ → α → σ) (s : σ) (actions : List α) : σ := actions.foldl step s

/-- Every action meets `ok` in the state it is taken in. -/
def Admissible (step : σ → α → σ) (ok : σ → α → Prop) : σ → List α → Prop
  | _, [] => True
  | s, a :: rest => ok s a ∧ Admissible step ok (step s a) rest

instance decidableAdmissible (step : σ → α → σ) (ok : σ → α → Prop)
    [∀ s a, Decidable (ok s a)] : ∀ (s : σ) (l : List α), Decidable (Admissible step ok s l)
  | _, [] => isTrue trivial
  | s, a :: rest =>
      have := decidableAdmissible step ok (step s a) rest
      inferInstanceAs (Decidable (ok s a ∧ Admissible step ok (step s a) rest))

variable {step : σ → α → σ} {ok ok' : σ → α → Prop}

@[simp] theorem exec_nil (s : σ) : exec step s [] = s := rfl

@[simp] theorem exec_cons (s : σ) (a : α) (rest : List α) :
    exec step s (a :: rest) = exec step (step s a) rest := rfl

theorem exec_append (s : σ) (l l' : List α) :
    exec step s (l ++ l') = exec step (exec step s l) l' :=
  List.foldl_append ..

theorem admissible_append {s : σ} {l l' : List α} :
    Admissible step ok s (l ++ l') ↔
      Admissible step ok s l ∧ Admissible step ok (exec step s l) l' := by
  induction l generalizing s with
  | nil => simp [Admissible]
  | cons a rest ih => simp [Admissible, ih, and_assoc]

/-- A run is admissible when each of its actions is, after those before it. -/
theorem admissible_iff_split {s : σ} {l : List α} :
    Admissible step ok s l ↔
      ∀ early a late, l = early ++ a :: late → ok (exec step s early) a := by
  constructor
  · rintro h early a late rfl
    exact (admissible_append.mp h).2.1
  · intro h
    induction l generalizing s with
    | nil => trivial
    | cons a rest ih =>
        refine ⟨h [] a rest rfl, ih fun early b late hsplit => ?_⟩
        exact h (a :: early) b late (congrArg (List.cons a) hsplit)

theorem Admissible.mono (himp : ∀ s a, ok s a → ok' s a) {s : σ} {l : List α}
    (h : Admissible step ok s l) : Admissible step ok' s l := by
  induction l generalizing s with
  | nil => trivial
  | cons a rest ih => exact ⟨himp s a h.1, ih h.2⟩

theorem Admissible.and {s : σ} {l : List α} (h : Admissible step ok s l)
    (h' : Admissible step ok' s l) : Admissible step (fun s a => ok s a ∧ ok' s a) s l := by
  induction l generalizing s with
  | nil => trivial
  | cons a rest ih => exact ⟨⟨h.1, h'.1⟩, ih h.2 h'.2⟩

/-- A restriction on the actions alone. -/
theorem admissible_of_forall {ok : α → Prop} {l : List α} (h : ∀ a ∈ l, ok a) (s : σ) :
    Admissible step (fun _ a => ok a) s l := by
  induction l generalizing s with
  | nil => trivial
  | cons a rest ih =>
      exact ⟨h a List.mem_cons_self, ih (fun b hb => h b (List.mem_cons_of_mem _ hb)) _⟩

/-- What every action preserves, every run preserves. -/
theorem exec_induct {P : σ → Prop} (hstep : ∀ s a, P s → P (step s a)) (l : List α) {s : σ}
    (h : P s) : P (exec step s l) := by
  induction l generalizing s with
  | nil => exact h
  | cons a rest ih => exact ih (hstep s a h)

/-- What one admissible action preserves, a whole admissible run preserves. -/
theorem invariant {I : σ → Prop} (hstep : ∀ s a, I s → ok s a → I (step s a)) :
    ∀ {l : List α} {s : σ}, I s → Admissible step ok s l → I (exec step s l) := by
  intro l
  induction l with
  | nil => intro s hs _; exact hs
  | cons a rest ih =>
      intro s hs hrun
      exact ih (hstep s a hs hrun.1) hrun.2

/-- What no action can establish, and holds at the end of a run, held after each of its
actions. -/
theorem admissible_of_exec {Q : σ → Prop} (hback : ∀ s a, Q (step s a) → Q s) {l : List α}
    {s : σ} (h : Q (exec step s l)) : Admissible step (fun s a => Q (step s a)) s l := by
  induction l generalizing s with
  | nil => trivial
  | cons a rest ih =>
      have hfirst : ∀ (l : List α) (s : σ), Q (exec step s l) → Q s := by
        intro l
        induction l with
        | nil => exact fun _ h => h
        | cons b rest ih' => exact fun s h => hback s b (ih' _ h)
      exact ⟨hfirst rest _ h, ih h⟩

/-- What every action preserves or releases is kept until an action releases
it. -/
theorem kept_until {P : σ → Prop} {releases : σ → α → Prop}
    (hstep : ∀ s a, P s → P (step s a) ∨ releases s a) (l : List α) {s : σ} (h : P s) :
    P (exec step s l) ∨
      ∃ mid a late, l = mid ++ a :: late ∧ P (exec step s mid) ∧
        releases (exec step s mid) a := by
  induction l generalizing s with
  | nil => exact .inl h
  | cons a rest ih =>
      rcases hstep s a h with hkept | hreleased
      · rcases ih hkept with hend | ⟨mid, b, late, rfl, hmid, hb⟩
        · exact .inl hend
        · exact .inr ⟨a :: mid, b, late, rfl, hmid, hb⟩
      · exact .inr ⟨[], a, rest, rfl, h, hreleased⟩

/-! ## Events -/

/-- How often an event happens along a run. -/
def occurrences (step : σ → α → σ) (event : σ → α → Bool) : σ → List α → Nat
  | _, [] => 0
  | s, a :: rest => (if event s a then 1 else 0) + occurrences step event (step s a) rest

/-- An event that cannot happen after itself happens at most once: `done` holds
after it, stays, and excludes it. -/
theorem occurrences_le_one {event : σ → α → Bool} {done : σ → Prop}
    (hafter : ∀ s a, event s a = true → done (step s a))
    (hstays : ∀ s a, done s → done (step s a))
    (hexcludes : ∀ s a, done s → event s a = false) (l : List α) (s : σ) :
    occurrences step event s l ≤ 1 := by
  have hnone : ∀ (l : List α) (s : σ), done s → occurrences step event s l = 0 := by
    intro l
    induction l with
    | nil => intro s _; rfl
    | cons a rest ih =>
        intro s hs
        rw [occurrences, hexcludes s a hs, ih _ (hstays s a hs)]
        rfl
  induction l generalizing s with
  | nil => exact Nat.zero_le 1
  | cons a rest ih =>
      rw [occurrences]
      cases hevent : event s a with
      | true => rw [hnone rest _ (hafter s a hevent)]; exact Nat.le_refl 1
      | false => simpa using ih (step s a)

/-- A state that only an event leads to was preceded by one. -/
theorem occurrences_pos {event : σ → α → Bool} {P : σ → Prop}
    (hstep : ∀ s a, event s a = false → P (step s a) → P s) {l : List α} {s : σ} (hs : ¬P s)
    (h : P (exec step s l)) : 0 < occurrences step event s l := by
  induction l generalizing s with
  | nil => exact absurd h hs
  | cons a rest ih =>
      rw [occurrences]
      cases hevent : event s a with
      | true => exact Nat.lt_of_lt_of_le Nat.zero_lt_one (Nat.le_add_right _ _)
      | false =>
          have hrest := ih (fun hnext => hs (hstep s a hevent hnext)) h
          exact Nat.lt_of_lt_of_le hrest (Nat.le_add_left _ _)

/-- Bounded waiting: a measure that no action of the run raises and every event lowers
bounds the number of events. -/
theorem occurrences_le_measure {event : σ → α → Bool} {I : σ → Prop} (measure : σ → Nat)
    (hinv : ∀ s a, I s → ok s a → I (step s a))
    (hfalls : ∀ s a, I s → ok s a →
      measure (step s a) + (if event s a then 1 else 0) ≤ measure s) {l : List α} {s : σ}
    (h : I s) (hrun : Admissible step ok s l) : occurrences step event s l ≤ measure s := by
  induction l generalizing s with
  | nil => exact Nat.zero_le _
  | cons a rest ih =>
      have hrest := ih (hinv s a h hrun.1) hrun.2
      have hfirst := hfalls s a h hrun.1
      rw [occurrences]
      omega

end CollectiveScheduler.Foundation.Runs
