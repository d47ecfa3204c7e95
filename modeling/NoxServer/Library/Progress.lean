import Mathlib.Data.Prod.Lex
import NoxServer.Library.Consume

/-!
Readers that get on, and loops that end.

A reader keeps its data when that is the same once it completes (`Keeps`), and it advances by a
number when also its cursor has moved on by at least as much (`Advances`). A loop is a function that
gives the next state or none (`after`, `Ends`); it ends when a rank goes down with each of its
steps, and it ends exactly when from some step on all steps are good, if good steps lower the rank
(`ends_iff`).
-/

namespace Progress

open Consume

variable {σ ε α β ι : Type} {view : View σ ι}

/-- When the reader completes, the data is what it was; the cursor may be anywhere. -/
def Keeps (view : View σ ι) (reader : StateT σ (Except ε) α) : Prop :=
  ∀ s x t, reader s = .ok (x, t) → view.data t = view.data s

theorem keeps_pure (x : α) : Keeps view (pure x : StateT σ (Except ε) α) := by
  rintro s _ _ ⟨⟩
  rfl

theorem keeps_get : Keeps view (get : StateT σ (Except ε) σ) := by
  rintro s _ _ ⟨⟩
  rfl

theorem keeps_of_yields {reader : StateT σ (Except ε) α} {count : Nat} {value : List ι → α}
    (yields : Yields view reader count value) : Keeps view reader := by
  intro s x t run
  have here := yields s
  rw [run] at here
  exact here.2.1

theorem Keeps.bind {first : StateT σ (Except ε) α} {next : α → StateT σ (Except ε) β}
    (keeps : Keeps view first) (keeps' : ∀ x, Keeps view (next x)) :
    Keeps view (first >>= next) := by
  intro s y t run
  obtain ⟨x, mid, first_run, run⟩ := bind_run_eq_ok run
  exact (keeps' x mid y t run).trans (keeps s x mid first_run)

theorem Keeps.ite {c : Prop} [Decidable c] {yes no : StateT σ (Except ε) α}
    (first : Keeps view yes) (second : Keeps view no) : Keeps view (if c then yes else no) := by
  split
  · exact first
  · exact second

/-- When the reader completes, the cursor has moved on by at least `count`. -/
def Advances (view : View σ ι) (reader : StateT σ (Except ε) α) (count : Nat) : Prop :=
  ∀ s x t, reader s = .ok (x, t) → view.data t = view.data s ∧ view.pos s + count ≤ view.pos t

theorem advances_pure (x : α) : Advances view (pure x : StateT σ (Except ε) α) 0 := by
  rintro s _ _ ⟨⟩
  exact ⟨rfl, Nat.le_refl _⟩

theorem advances_get : Advances view (get : StateT σ (Except ε) σ) 0 := by
  rintro s _ _ ⟨⟩
  exact ⟨rfl, Nat.le_refl _⟩

theorem advances_of_yields {reader : StateT σ (Except ε) α} {count : Nat} {value : List ι → α}
    (yields : Yields view reader count value) : Advances view reader count := by
  intro s x t run
  have here := yields s
  rw [run] at here
  exact ⟨here.2.1, Nat.le_of_eq here.2.2.symm⟩

theorem Advances.mono {reader : StateT σ (Except ε) α} {count fewer : Nat}
    (advances : Advances view reader count) (le : fewer ≤ count) :
    Advances view reader fewer := by
  intro s x t run
  obtain ⟨data, pos⟩ := advances s x t run
  exact ⟨data, Nat.le_trans (Nat.add_le_add_left le _) pos⟩

theorem Advances.bind {first : StateT σ (Except ε) α} {next : α → StateT σ (Except ε) β}
    {count count' : Nat} (advances : Advances view first count)
    (advances' : ∀ x, Advances view (next x) count') :
    Advances view (first >>= next) (count + count') := by
  intro s y t run
  cases first_run : first s with
  | error fault =>
      rw [run_bind_error first_run] at run
      cases run
  | ok out =>
      obtain ⟨x, mid⟩ := out
      rw [run_bind_ok first_run] at run
      obtain ⟨data, pos⟩ := advances s x mid first_run
      obtain ⟨data', pos'⟩ := advances' x mid y t run
      exact ⟨data'.trans data, by omega⟩

/-- What comes after does not go back. -/
theorem Advances.andThen {first : StateT σ (Except ε) α} {next : α → StateT σ (Except ε) β}
    {count : Nat} (advances : Advances view first count)
    (advances' : ∀ x, Advances view (next x) 0) : Advances view (first >>= next) count :=
  advances.bind advances'

/-! ### Loops -/

/-- The state after some steps, if the loop has not ended before. -/
def after (next : σ → Option σ) : Nat → σ → Option σ
  | 0, s => some s
  | n + 1, s => (next s).bind (after next n)

variable {next : σ → Option σ}

theorem after_add (m n : Nat) (s : σ) :
    after next (m + n) s = (after next m s).bind (after next n) := by
  induction m generalizing s with
  | zero => rw [Nat.zero_add, after, Option.bind_some]
  | succ m ih =>
      rw [Nat.succ_add, after, after]
      cases next s with
      | none => rfl
      | some t => exact ih t

/-- The loop comes from one state to another one. -/
def Reaches (next : σ → Option σ) (s t : σ) : Prop := ∃ n, after next n s = some t

theorem Reaches.refl (s : σ) : Reaches next s s := ⟨0, rfl⟩

theorem Reaches.of_next {s t : σ} (step : next s = some t) : Reaches next s t := by
  refine ⟨1, ?_⟩
  rw [after, step]
  rfl

theorem Reaches.trans {s t u : σ} (first : Reaches next s t) (second : Reaches next t u) :
    Reaches next s u := by
  obtain ⟨m, reached⟩ := first
  obtain ⟨n, reached'⟩ := second
  refine ⟨m + n, ?_⟩
  rw [after_add, reached]
  exact reached'

/-- The loop comes to a state without a next one. -/
def Ends (next : σ → Option σ) (s : σ) : Prop :=
  ∃ n t, after next n s = some t ∧ next t = none

theorem Ends.of_next {s t : σ} (step : next s = some t) (ends : Ends next t) : Ends next s := by
  obtain ⟨n, last, reached, stops⟩ := ends
  refine ⟨n + 1, last, ?_, stops⟩
  rw [after, step]
  exact reached

theorem Ends.of_after {n : Nat} {s t : σ} (reached : after next n s = some t)
    (ends : Ends next t) : Ends next s := by
  obtain ⟨m, last, reached', stops⟩ := ends
  refine ⟨n + m, last, ?_, stops⟩
  rw [after_add, reached]
  exact reached'

/-- A loop has one last state. -/
theorem last_unique {m n : Nat} {s t u : σ} (reached : after next m s = some t)
    (stops : next t = none) (reached' : after next n s = some u) (stops' : next u = none) :
    t = u := by
  have no_more {k : Nat} {v w : σ} (stops : next v = none) (more : after next k v = some w) :
      v = w := by
    cases k with
    | zero => exact Option.some.inj more
    | succ k =>
        rw [after, stops] at more
        cases more
  rcases Nat.le_total m n with le | le
  · obtain ⟨k, rfl⟩ := Nat.exists_eq_add_of_le le
    rw [after_add, reached] at reached'
    exact no_more stops reached'
  · obtain ⟨k, rfl⟩ := Nat.exists_eq_add_of_le le
    rw [after_add, reached'] at reached
    exact (no_more stops' reached).symm

/-- A loop that has not got to some step has ended before. -/
theorem ends_of_after_none {n : Nat} {s : σ} (stops : after next n s = none) : Ends next s := by
  induction n generalizing s with
  | zero => cases stops
  | succ n ih =>
      cases step : next s with
      | none => exact ⟨0, s, rfl, step⟩
      | some t =>
          rw [after, step] at stops
          exact .of_next step (ih stops)

/-- A loop ends when a rank goes down with each step it takes. -/
theorem ends_of_rank {ρ : Type} {lt : ρ → ρ → Prop} (wf : WellFounded lt) (rank : σ → ρ) {s : σ}
    (lowers : ∀ n t t', after next n s = some t → next t = some t' → lt (rank t') (rank t)) :
    Ends next s := by
  induction known : rank s using wf.induction generalizing s with
  | h r ih =>
      cases step : next s with
      | none => exact ⟨0, s, rfl, step⟩
      | some t =>
          refine .of_next step (ih (rank t) (known ▸ lowers 0 s t rfl step) ?_ rfl)
          intro n u u' reached step'
          refine lowers (n + 1) u u' ?_ step'
          rw [after, step]
          exact reached

/-- A loop whose good steps lower a rank ends exactly when all its steps are good from some
step on. -/
theorem ends_iff {ρ : Type} {lt : ρ → ρ → Prop} (wf : WellFounded lt) (rank : σ → ρ)
    {good : σ → Prop} (lowers : ∀ t t', good t → next t = some t' → lt (rank t') (rank t)) (s : σ) :
    Ends next s ↔ ∃ N, ∀ n t, N ≤ n → after next n s = some t → good t := by
  constructor
  · rintro ⟨n, last, reached, stops⟩
    refine ⟨n + 1, ?_⟩
    intro m t late reached'
    obtain ⟨k, rfl⟩ : ∃ k, m = n + (k + 1) := ⟨m - (n + 1), by omega⟩
    rw [after_add, reached, Option.bind_some, after, stops] at reached'
    cases reached'
  · rintro ⟨N, all⟩
    cases reached : after next N s with
    | none => exact ends_of_after_none reached
    | some t =>
        refine .of_after reached (ends_of_rank wf rank ?_)
        intro n u u' reached' step
        refine lowers u u' (all (N + n) u (Nat.le_add_right N n) ?_) step
        rw [after_add, reached]
        exact reached'

end Progress
