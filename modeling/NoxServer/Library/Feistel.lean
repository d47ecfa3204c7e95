import Mathlib.Data.Prod.Basic

/-!
Feistel networks over an arbitrary masking operation.

A network alternates two moves on a pair of halves: a half is masked with a
subkey, and the other half is masked with a function of it before the halves trade
places. Nothing is asked of the round function. Running the network with its key
schedule reversed undoes it (`Schedule.crypt_reverse_crypt`), so a cipher and its
inverse can share one body and differ in the schedule alone.
-/

namespace Feistel

/-- A masking operation: masking twice with one key is the identity, and the order
in which two masks are applied is irrelevant. -/
structure Masking (W : Type*) where
  mask : W → W → W
  mask_mask : ∀ x k, mask (mask x k) k = x
  mask_right_comm : ∀ x k l, mask (mask x k) l = mask (mask x l) k

/-- The subkeys of a network: the one masked in before the first turn, one for each
turn, and the one masked in after the halves are put back. -/
structure Schedule (W : Type*) where
  first : W
  middle : List W
  last : W
  deriving DecidableEq

variable {W : Type*}

/-- The schedule read backwards. -/
def Schedule.reverse (s : Schedule W) : Schedule W :=
  ⟨s.last, s.middle.reverse, s.first⟩

@[simp] theorem Schedule.reverse_reverse (s : Schedule W) : s.reverse.reverse = s := by
  cases s
  simp [Schedule.reverse]

variable (M : Masking W) (F : W → W)

/-- Mask the left half with a subkey. -/
def whiten (k : W) (x : W × W) : W × W := (M.mask x.1 k, x.2)

/-- Mask the right half with `F` of the left one, then let the halves trade places. -/
def turn (x : W × W) : W × W := (M.mask x.2 (F x.1), x.1)

/-- One keyed turn. -/
def round (k : W) (x : W × W) : W × W := whiten M k (turn M F x)

/-- The keyed turns of a whole schedule. -/
def rounds (ks : List W) (x : W × W) : W × W := ks.foldl (fun y k => round M F k y) x

/-- The network of a schedule. -/
def Schedule.crypt (s : Schedule W) (x : W × W) : W × W :=
  whiten M s.last (rounds M F s.middle (whiten M s.first x)).swap

@[simp] theorem whiten_whiten (k : W) (x : W × W) : whiten M k (whiten M k x) = x := by
  simp [whiten, M.mask_mask]

theorem rounds_cons (k : W) (ks : List W) (x : W × W) :
    rounds M F (k :: ks) x = rounds M F ks (round M F k x) := rfl

theorem rounds_append (ks ls : List W) (x : W × W) :
    rounds M F (ks ++ ls) x = rounds M F ls (rounds M F ks x) := by
  simp [rounds]

/-- A keyed turn is undone by swapping the halves and turning once more. -/
theorem round_swap_round (k : W) (x : W × W) :
    round M F k (round M F k x).swap = x.swap := by
  obtain ⟨l, r⟩ := x
  simp only [round, whiten, turn, Prod.swap_prod_mk]
  rw [M.mask_right_comm r (F l) k, M.mask_mask, M.mask_mask]

/-- The turns of a schedule are undone by those of the reversed one. -/
theorem rounds_reverse_swap_rounds (ks : List W) (x : W × W) :
    rounds M F ks.reverse (rounds M F ks x).swap = x.swap := by
  induction ks generalizing x with
  | nil => rfl
  | cons k ks ih =>
      rw [List.reverse_cons, rounds_append, rounds_cons M F k ks x, ih]
      exact round_swap_round M F k x

/-- The network of the reversed schedule inverts the network. -/
theorem Schedule.crypt_reverse_crypt (s : Schedule W) (x : W × W) :
    s.reverse.crypt M F (s.crypt M F x) = x := by
  simp only [Schedule.crypt, Schedule.reverse]
  rw [whiten_whiten, rounds_reverse_swap_rounds, Prod.swap_swap, whiten_whiten]

theorem Schedule.crypt_crypt_reverse (s : Schedule W) (x : W × W) :
    s.crypt M F (s.reverse.crypt M F x) = x := by
  have h := s.reverse.crypt_reverse_crypt M F x
  rwa [Schedule.reverse_reverse] at h

end Feistel
