import Mathlib.Data.Nat.Notation

/-!
Counting loops whose body may fail.

An invariant of the body that also makes it complete carries a loop to its end (`loop_total`).
One that a completed body keeps holds at the end of a completed loop (`loop_partial`).

A loop over distinct items whose body changes only what is seen of its own item does to what is
seen of each what the body does to it (`seen_foldl_of_mem`).
-/

namespace Loops

variable {σ ε : Type} {body : Nat → σ → Except ε σ} {P : Nat → σ → Prop}

/-- The body for `count` numbers from `i` on. -/
def loop (body : Nat → σ → Except ε σ) : Nat → Nat → σ → Except ε σ
  | 0, _, s => .ok s
  | count + 1, i, s => body i s >>= loop body count (i + 1)

theorem loop_succ_of_ok {i : Nat} {s t : σ} (run : body i s = .ok t) (count : Nat) :
    loop body (count + 1) i s = loop body count (i + 1) t := by
  rw [loop, run]
  rfl

/-- A body that completes from the invariant, and keeps it, makes the loop complete. -/
theorem loop_total {count i : Nat} {s : σ} (start : P i s)
    (step : ∀ j s, i ≤ j → j < i + count → P j s → ∃ t, body j s = .ok t ∧ P (j + 1) t) :
    ∃ t, loop body count i s = .ok t ∧ P (i + count) t := by
  induction count generalizing i s with
  | zero => exact ⟨s, rfl, start⟩
  | succ count ih =>
      obtain ⟨m, run, kept⟩ := step i s (Nat.le_refl i) (by omega) start
      obtain ⟨t, rest, final⟩ := ih kept fun j s lower upper =>
        step j s (Nat.le_of_succ_le lower) (by omega)
      refine ⟨t, (loop_succ_of_ok run count).trans rest, ?_⟩
      rwa [show i + (count + 1) = i + 1 + count by omega]

/-- What a completed body keeps holds after a completed loop. -/
theorem loop_partial {count i : Nat} {s t : σ} (start : P i s) (run : loop body count i s = .ok t)
    (step : ∀ j s t, i ≤ j → j < i + count → P j s → body j s = .ok t → P (j + 1) t) :
    P (i + count) t := by
  induction count generalizing i s with
  | zero =>
      cases run
      exact start
  | succ count ih =>
      cases first : body i s with
      | error e =>
          rw [loop, first] at run
          cases run
      | ok m =>
          rw [loop_succ_of_ok first] at run
          have kept := step i s m (Nat.le_refl i) (by omega) start first
          have final := ih kept run fun j s t lower upper =>
            step j s t (Nat.le_of_succ_le lower) (by omega)
          rwa [show i + (count + 1) = i + 1 + count by omega]

/-! ### Loops over distinct items -/

section Items

variable {ι β : Type} (seen : ι → σ → β) {visit : σ → ι → σ}

/-- An item that is not visited stays as it is. -/
theorem seen_foldl_of_notMem (apart : ∀ s i j, i ≠ j → seen j (visit s i) = seen j s)
    {items : List ι} {j : ι} (s : σ) (notMem : j ∉ items) :
    seen j (items.foldl visit s) = seen j s := by
  induction items generalizing s with
  | nil => rfl
  | cons i items ih =>
      rw [List.mem_cons, not_or] at notMem
      exact (ih (visit s i) notMem.2).trans (apart s i j (Ne.symm notMem.1))

/-- An item that is visited once is as its visit leaves it. -/
theorem seen_foldl_of_mem (apart : ∀ s i j, i ≠ j → seen j (visit s i) = seen j s)
    (own : ι → β → β) (visited : ∀ s j, seen j (visit s j) = own j (seen j s)) {items : List ι}
    {j : ι} (s : σ) (distinct : items.Nodup) (mem : j ∈ items) :
    seen j (items.foldl visit s) = own j (seen j s) := by
  induction items generalizing s with
  | nil => cases mem
  | cons i items ih =>
      rw [List.nodup_cons] at distinct
      rw [List.foldl_cons]
      rcases List.mem_cons.mp mem with rfl | mem
      · rw [seen_foldl_of_notMem seen apart _ distinct.1, visited]
      · have other : i ≠ j := fun same => distinct.1 (same ▸ mem)
        rw [ih _ distinct.2 mem, apart s i j other]

end Items

end Loops
