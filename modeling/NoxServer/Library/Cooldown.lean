import Mathlib.Data.List.Basic

/-!
Countdowns that keep something from being done too often.

What a countdown guards is done only when the countdown is over, and starts it again; a tick takes
one from it, and it may be cleared. `ready` says without a countdown when the thing may be done
again: when as many ticks have gone by as there are in a delay. A countdown keeps to that
(`run_remaining`), and so the thing is done no oftener than there are delays in the time that goes
by (`uses_le`).
-/

namespace Cooldown

/-- What happens to a countdown: the thing it guards is asked for, time goes by, or the countdown is
set to 0. -/
inductive Event where
  | use
  | tick
  | clear
  deriving DecidableEq

/-- The countdown after an event. -/
def step (delay left : Nat) : Event → Nat
  | .use => if left = 0 then delay else left
  | .tick => left - 1
  | .clear => 0

/-- The countdown after some events. -/
def run (delay left : Nat) (events : List Event) : Nat := events.foldl (step delay) left

theorem run_tick (delay left : Nat) : run delay left [.tick] = left - 1 := rfl

/-- How often the thing is done. -/
def uses (delay left : Nat) : List Event → Nat
  | [] => 0
  | event :: events =>
      (if event = .use ∧ left = 0 then 1 else 0) + uses delay (step delay left event) events

/-! ### The rule -/

/-- Whether the thing may be done, by how many ticks ago it was done last, if it was. -/
def ready (delay : Nat) : Option Nat → Bool
  | none => true
  | some waited => delay ≤ waited

/-- How many ticks ago the thing was done, after an event. -/
def follow (delay : Nat) (since : Option Nat) : Event → Option Nat
  | .use => if ready delay since then some 0 else since
  | .tick => since.map (· + 1)
  | .clear => none

/-- What the countdown is to be. -/
def remaining (delay : Nat) : Option Nat → Nat
  | none => 0
  | some waited => delay - waited

variable {delay : Nat} {since : Option Nat}

theorem remaining_eq_zero_iff : remaining delay since = 0 ↔ ready delay since = true := by
  cases since with
  | none => simp [remaining, ready]
  | some waited => simp [remaining, ready, Nat.sub_eq_zero_iff_le]

theorem step_remaining (event : Event) :
    step delay (remaining delay since) event = remaining delay (follow delay since event) := by
  cases event with
  | use =>
      simp only [step, follow, remaining_eq_zero_iff]
      split
      · rfl
      · rfl
  | tick =>
      cases since with
      | none => rfl
      | some waited => simp only [step, follow, remaining, Option.map_some, Nat.sub_sub]
  | clear => rfl

/-- A countdown keeps to the rule. -/
theorem run_remaining (events : List Event) :
    run delay (remaining delay since) events =
      remaining delay (events.foldl (follow delay) since) := by
  induction events generalizing since with
  | nil => rfl
  | cons event events ih =>
      rw [run, List.foldl_cons, step_remaining]
      exact ih

/-! ### How often -/

theorem run_append (left : Nat) (first second : List Event) :
    run delay left (first ++ second) = run delay (run delay left first) second :=
  List.foldl_append ..

theorem uses_append (left : Nat) (first second : List Event) :
    uses delay left (first ++ second) =
      uses delay left first + uses delay (run delay left first) second := by
  induction first generalizing left with
  | nil => simp [uses, run]
  | cons event first ih =>
      rw [List.cons_append, uses, uses, ih, Nat.add_assoc]
      rfl

/-- Each time a thing is done costs a delay, which ticks and clearings pay for. -/
theorem uses_min_le (left : Nat) (events : List Event) :
    uses delay left events * delay + min left delay ≤
      events.count .tick + (events.count .clear + 1) * delay := by
  induction events generalizing left with
  | nil =>
      simp only [uses, List.count_nil, Nat.zero_mul, Nat.zero_add, Nat.one_mul]
      exact Nat.min_le_right ..
  | cons event events ih =>
      have rest := ih (step delay left event)
      have most : min left delay ≤ delay := Nat.min_le_right ..
      rw [Nat.add_mul] at rest ⊢
      rw [uses, Nat.add_mul]
      cases event with
      | use =>
          by_cases done : left = 0
          · subst done
            simp only [step, if_true, Nat.min_self] at rest
            simp [step] at rest ⊢
            omega
          · simp only [step, if_neg done] at rest
            simpa [step, done] using rest
      | tick =>
          have less : min left delay ≤ min (left - 1) delay + 1 := by omega
          simp only [step] at rest
          simp [step] at rest ⊢
          omega
      | clear =>
          simp only [step, Nat.zero_min] at rest
          simp [step, Nat.add_mul] at rest ⊢
          omega

/-- The thing is done no oftener than there are delays in the ticks, one more for each clearing and
for the beginning. -/
theorem uses_le (left : Nat) (events : List Event) :
    uses delay left events * delay ≤ events.count .tick + (events.count .clear + 1) * delay :=
  Nat.le_trans (Nat.le_add_right ..) (uses_min_le left events)

end Cooldown
