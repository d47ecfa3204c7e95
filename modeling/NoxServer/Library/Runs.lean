import Mathlib.Data.List.Infix
import Mathlib.Data.List.Induction

/-!
Runs of a labelled transition relation, and invariants along them.

An invariant is proved of one step and used of a whole run (`Run.invariant`). Two runs
join end to end (`Run.append`), and a restriction of the steps to those that meet a
condition (`guarded`) keeps both. Where the labels decide the states, a condition on the steps
may be exact for a whole run (`forall_prefix_foldl_iff`).
-/

namespace Runs

variable {σ α : Type*}

/-- `Run step s as t`: the steps labelled `as`, in order, lead from `s` to `t`. -/
inductive Run (step : σ → α → σ → Prop) : σ → List α → σ → Prop
  | nil (s : σ) : Run step s [] s
  | cons {s m t : σ} {a : α} {as : List α} : step s a m → Run step m as t →
      Run step s (a :: as) t

/-- The steps that meet a condition on the state before and the label. -/
def guarded (condition : σ → α → Prop) (step : σ → α → σ → Prop) (s : σ) (a : α) (t : σ) :
    Prop :=
  condition s a ∧ step s a t

/-- The steps together with a record of the labels so far. -/
def recording {ρ : Type*} (record : ρ → α → ρ) (step : σ → α → σ → Prop) (s : ρ × σ) (a : α)
    (t : ρ × σ) : Prop :=
  t.1 = record s.1 a ∧ step s.2 a t.2

variable {step : σ → α → σ → Prop} {s m t : σ} {as bs : List α}

/-- What one step preserves, a run preserves. -/
theorem Run.invariant {holds : σ → Prop} (run : Run step s as t)
    (preserved : ∀ s a t, holds s → step s a t → holds t) (start : holds s) : holds t := by
  induction run with
  | nil s => exact start
  | cons first _ ih => exact ih (preserved _ _ _ start first)

/-- A run after a run is a run. -/
theorem Run.append (first : Run step s as m) (second : Run step m bs t) :
    Run step s (as ++ bs) t := by
  induction first with
  | nil s => exact second
  | cons step _ ih => exact .cons step (ih second)

/-- A run of one step. -/
theorem Run.single {a : α} (one : step s a t) : Run step s [a] t := .cons one (.nil t)

/-- A run of more steps is one of fewer conditions. -/
theorem Run.mono {step' : σ → α → σ → Prop} (run : Run step s as t)
    (weaker : ∀ s a t, step s a t → step' s a t) : Run step' s as t := by
  induction run with
  | nil s => exact .nil s
  | cons first _ ih => exact .cons (weaker _ _ _ first) ih

/-- A guarded run is a run. -/
theorem Run.unguarded {condition : σ → α → Prop} (run : Run (guarded condition step) s as t) :
    Run step s as t :=
  run.mono fun _ _ _ guarded => guarded.2

/-- What every state of a deterministic run is, when a step keeps it exactly under a condition: the
first state is, and every step meets the condition. -/
theorem forall_prefix_foldl_iff {apply : σ → α → σ} {holds : σ → Prop} {condition : σ → α → Prop}
    (exact_step : ∀ s a, holds s → (holds (apply s a) ↔ condition s a)) (s : σ) (as : List α) :
    (∀ before, before <+: as → holds (before.foldl apply s)) ↔
      holds s ∧ ∀ before a, before ++ [a] <+: as → condition (before.foldl apply s) a := by
  constructor
  · intro always
    refine ⟨always [] List.nil_prefix, fun before a ahead => ?_⟩
    have now := always before ((List.prefix_append before [a]).trans ahead)
    have next := always (before ++ [a]) ahead
    rw [List.foldl_append] at next
    exact (exact_step _ a now).mp next
  · rintro ⟨start, met⟩ before
    induction before using List.reverseRecOn with
    | nil => exact fun _ => start
    | append_singleton before a ih =>
        intro ahead
        rw [List.foldl_append]
        exact (exact_step _ a (ih ((List.prefix_append before [a]).trans ahead))).mpr
          (met before a ahead)

end Runs
