import Mathlib.Logic.Basic

/-!
Computations that end in a result or a fault, and the faults they never end in.

A computation spares a kind of fault when it does not end in one. The rules say when a computation
spares a kind by what its parts do, exactly, so that the condition for a whole computation is found
from its end (`spares_bind_iff`).
-/

namespace Faults

variable {ε δ α β : Type}

/-- The computation does not end in a bad fault. -/
def Spares (bad : ε → Prop) (m : Except ε α) : Prop := ∀ fault, m = .error fault → ¬ bad fault

variable {bad : ε → Prop} {m : Except ε α}

theorem spares_ok (x : α) : Spares bad (.ok x : Except ε α) := fun _ ends => nomatch ends

theorem spares_error_iff {fault : ε} : Spares bad (.error fault : Except ε α) ↔ ¬ bad fault := by
  constructor
  · intro spares
    exact spares fault rfl
  · intro good fault' ends
    cases ends
    exact good

/-- A sequence spares what its first part spares, and its second part after each result. -/
theorem spares_bind_iff {next : α → Except ε β} :
    Spares bad (m >>= next) ↔ Spares bad m ∧ ∀ x, m = .ok x → Spares bad (next x) := by
  cases m with
  | error fault =>
      refine spares_error_iff.trans (Iff.trans spares_error_iff.symm (and_iff_left ?_).symm)
      exact fun x ends => nomatch ends
  | ok x =>
      refine Iff.trans ?_ (and_iff_right (spares_ok x)).symm
      constructor
      · intro spares y ends
        cases ends
        exact spares
      · intro spares
        exact spares x rfl

theorem Spares.bind {next : α → Except ε β} (first : Spares bad m)
    (second : ∀ x, Spares bad (next x)) : Spares bad (m >>= next) :=
  spares_bind_iff.mpr ⟨first, fun x _ => second x⟩

/-- Faults under other names. -/
theorem spares_mapError_iff {rename : ε → δ} {bad : δ → Prop} :
    Spares bad (m.mapError rename) ↔ Spares (fun fault => bad (rename fault)) m := by
  cases m with
  | error fault =>
      have spares : Spares (fun fault => bad (rename fault)) (.error fault : Except ε α) ↔
          ¬ bad (rename fault) := spares_error_iff
      exact spares_error_iff.trans spares.symm
  | ok x => exact iff_of_true (spares_ok x) (spares_ok x)

theorem mapError_bind (rename : ε → δ) (m : Except ε α) (next : α → Except ε β) :
    (m >>= next).mapError rename = m.mapError rename >>= fun x => (next x).mapError rename := by
  cases m with
  | error fault => rfl
  | ok x => rfl

end Faults
