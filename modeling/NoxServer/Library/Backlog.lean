import Mathlib.Algebra.BigOperators.Intervals
import Mathlib.Order.Interval.Finset.Nat

/-!
A timer that takes off at most one interval a turn.

The amounts of the turns add up in the timer, and a turn that brings it to the interval is served:
one interval is taken off. The totals alone decide which turns are served: a turn stays idle where,
since each earlier turn, fewer multiples of the interval are passed than turns (`idle_iff`).
-/

namespace Backlog

open Finset (range)

variable (interval : Nat) (amount : Nat → Nat)

/-- What the first `n` turns bring. -/
def total (n : Nat) : Nat := ∑ i ∈ range n, amount i

/-- The timer before turn `n`. -/
def backlog : Nat → Nat
  | 0 => 0
  | n + 1 =>
      if interval ≤ backlog n + amount n then backlog n + amount n - interval
      else backlog n + amount n

/-- The turns before turn `n` that are not served. -/
def idles : Nat → Nat
  | 0 => 0
  | n + 1 => if interval ≤ backlog interval amount n + amount n then idles n else idles n + 1

/-- Since each earlier turn, fewer multiples of the interval are passed than turns. -/
def Idle (n : Nat) : Prop :=
  ∀ m, m ≤ n → total amount (n + 1) / interval < total amount m / interval + (n + 1 - m)

instance (n : Nat) : Decidable (Idle interval amount n) :=
  inferInstanceAs (Decidable (∀ m, m ≤ n → _))

theorem total_succ (n : Nat) : total amount (n + 1) = total amount n + amount n :=
  Finset.sum_range_succ amount n

/-- The idle turns are as many as the totals stayed behind the turns, at the most. -/
structure Level (n : Nat) : Prop where
  amounts : backlog interval amount n + interval * n =
    total amount n + interval * idles interval amount n
  behind : ∀ m, m ≤ n → m ≤ idles interval amount n + total amount m / interval
  reached : ∃ m, m ≤ n ∧ m = idles interval amount n + total amount m / interval

variable {interval amount} {n : Nat}

theorem Level.served_iff (level : Level interval amount n) (pos : 0 < interval) :
    interval ≤ backlog interval amount n + amount n ↔
      n + 1 ≤ idles interval amount n + total amount (n + 1) / interval := by
  have amounts := level.amounts
  have brought := total_succ amount n
  calc interval ≤ backlog interval amount n + amount n
      ↔ interval * (n + 1) ≤ total amount (n + 1) + interval * idles interval amount n := by
        rw [Nat.mul_succ]
        omega
    _ ↔ n + 1 ≤ (total amount (n + 1) + interval * idles interval amount n) / interval := by
        rw [Nat.le_div_iff_mul_le pos, Nat.mul_comm]
    _ ↔ n + 1 ≤ idles interval amount n + total amount (n + 1) / interval := by
        rw [Nat.add_mul_div_left _ _ pos, Nat.add_comm (total amount (n + 1) / interval)]

theorem level_zero : Level interval amount 0 where
  amounts := by simp [backlog, total, idles]
  behind m le := Nat.le_trans le (Nat.zero_le _)
  reached := ⟨0, Nat.le_refl 0, by simp [idles, total]⟩

/-- One more turn keeps the account of what has come and what is served, whether it is idle or not.
-/
theorem Level.next (level : Level interval amount n) (pos : 0 < interval) :
    Level interval amount (n + 1) := by
  have amounts := level.amounts
  have brought := total_succ amount n
  have served_iff := level.served_iff pos
  have grown : total amount n / interval ≤ total amount (n + 1) / interval :=
    Nat.div_le_div_right (by omega)
  by_cases served : interval ≤ backlog interval amount n + amount n
  · have idle : idles interval amount (n + 1) = idles interval amount n := if_pos served
    have left : backlog interval amount (n + 1) = backlog interval amount n + amount n - interval :=
      if_pos served
    constructor
    · rw [idle, left, Nat.mul_succ]
      omega
    · intro m le
      rw [idle]
      rcases Nat.le_succ_iff.mp le with before | rfl
      · exact level.behind m before
      · exact served_iff.mp served
    · obtain ⟨m, le, same⟩ := level.reached
      rw [idle]
      exact ⟨m, Nat.le_succ_of_le le, same⟩
  · have idle : idles interval amount (n + 1) = idles interval amount n + 1 := if_neg served
    have left : backlog interval amount (n + 1) = backlog interval amount n + amount n :=
      if_neg served
    have before := level.behind n (Nat.le_refl n)
    rw [served_iff] at served
    constructor
    · rw [idle, left, Nat.mul_succ, Nat.mul_succ]
      omega
    · intro m le
      rw [idle]
      rcases Nat.le_succ_iff.mp le with before | rfl
      · exact Nat.le_trans (level.behind m before) (by omega)
      · rw [Nat.succ_eq_add_one]
        omega
    · refine ⟨n + 1, Nat.le_refl _, ?_⟩
      rw [idle]
      omega

theorem level (pos : 0 < interval) (n : Nat) : Level interval amount n := by
  induction n with
  | zero => exact level_zero
  | succ n ih => exact ih.next pos

/-- A turn is idle by the totals where the timer does not reach the interval. -/
theorem idle_iff (pos : 0 < interval) :
    Idle interval amount n ↔ ¬interval ≤ backlog interval amount n + amount n := by
  have level : Level interval amount n := level pos n
  rw [level.served_iff pos]
  constructor
  · intro idle
    obtain ⟨m, le, same⟩ := level.reached
    have fewer := idle m le
    omega
  · intro few m le
    have behind := level.behind m le
    omega

theorem backlog_of_idle (pos : 0 < interval) (idle : Idle interval amount n) :
    backlog interval amount (n + 1) = backlog interval amount n + amount n :=
  if_neg ((idle_iff pos).mp idle)

theorem backlog_of_served (pos : 0 < interval) (served : ¬Idle interval amount n) :
    interval ≤ backlog interval amount n + amount n ∧
      backlog interval amount (n + 1) = backlog interval amount n + amount n - interval := by
  rw [idle_iff pos, not_not] at served
  exact ⟨served, if_pos served⟩

end Backlog
