import Mathlib.Data.Nat.Notation

/-!
The ways a step of the server can stop it. `ASSERT` (`Errors.h`) ends the process, and so does
an exception that nothing catches; the others are accesses C++ leaves undefined, and the model
stops at them.
-/

namespace NoxServer

/-- Why a step did not complete. -/
inductive Fault where
  /-- A failed `ASSERT`. -/
  | assertion
  /-- A member access through a NULL pointer. -/
  | nullPointer
  /-- An array access outside the array. -/
  | outOfBounds
  /-- A use of an object that has been deleted. -/
  | danglingPointer
  /-- A `std::length_error`. -/
  | lengthError
  deriving DecidableEq, Repr

instance decidableEqExcept {ε α : Type} [DecidableEq ε] [DecidableEq α] :
    DecidableEq (Except ε α)
  | .ok a, .ok b => decidable_of_iff (a = b) (by simp)
  | .error a, .error b => decidable_of_iff (a = b) (by simp)
  | .ok _, .error _ => isFalse nofun
  | .error _, .ok _ => isFalse nofun

/-! ### Sequencing -/

variable {ε α β : Type}

@[simp] theorem ok_bind (value : α) (next : α → Except ε β) :
    (Except.ok value >>= next) = next value := rfl

@[simp] theorem error_bind (fault : ε) (next : α → Except ε β) :
    ((Except.error fault : Except ε α) >>= next) = .error fault := rfl

/-- A sequence completes only through its first part. -/
theorem bind_eq_ok {first : Except ε α} {next : α → Except ε β} {result : β} :
    (first >>= next) = .ok result ↔ ∃ value, first = .ok value ∧ next value = .ok result := by
  cases first with
  | error fault => simp
  | ok value => simp

/-- A sequence fails in its first part or after it. -/
theorem bind_eq_error {first : Except ε α} {next : α → Except ε β} {fault : ε} :
    (first >>= next) = .error fault ↔
      first = .error fault ∨ ∃ value, first = .ok value ∧ next value = .error fault := by
  cases first with
  | error fault => simp
  | ok value => simp

end NoxServer
