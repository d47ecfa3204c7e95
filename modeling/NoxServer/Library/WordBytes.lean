import Mathlib.Data.BitVec

/-!
The bytes of a word, the lowest first, and the bits of a byte.

A word keeps every bit outside a byte that is written (`getLsbD_setByte`), and a byte every bit but
the one a mask of one bit sets or clears (`getLsbD_or_bit`, `getLsbD_and_notBit`).
-/

namespace WordBytes

variable {w : Nat}

/-- Byte `k` of a word. -/
def byte (word : BitVec w) (k : Nat) : BitVec 8 := word.extractLsb' (8 * k) 8

/-- The word with byte `k` replaced. -/
def setByte (word : BitVec w) (k : Nat) (value : BitVec 8) : BitVec w :=
  (word &&& ~~~((0xff#8).setWidth w <<< (8 * k))) ||| (value.setWidth w <<< (8 * k))

@[simp] theorem getLsbD_byte (word : BitVec w) {k j : Nat} (inside : j < 8) :
    (byte word k).getLsbD j = word.getLsbD (8 * k + j) := by
  rw [byte, BitVec.getLsbD_extractLsb', decide_eq_true inside, Bool.true_and]

theorem getLsbD_full {j : Nat} : (0xff#8).getLsbD j = decide (j < 8) := by
  rw [show 0xff#8 = BitVec.allOnes 8 from rfl, BitVec.getLsbD_allOnes]

/-- Bit `i` of a word one of whose bytes is written. -/
theorem getLsbD_setByte (word : BitVec w) (k : Nat) (value : BitVec 8) {i : Nat} (inside : i < w) :
    (setByte word k value).getLsbD i =
      if i / 8 = k then value.getLsbD (i % 8) else word.getLsbD i := by
  rw [setByte, BitVec.getLsbD_or, BitVec.getLsbD_and, BitVec.getLsbD_not, BitVec.getLsbD_shiftLeft,
    BitVec.getLsbD_shiftLeft, BitVec.getLsbD_setWidth, BitVec.getLsbD_setWidth, getLsbD_full]
  split
  · next same =>
      have offset : i - 8 * k = i % 8 := by omega
      have reached : ¬i < 8 * k := by omega
      simp [inside, offset, reached, Nat.mod_lt i (by decide : 0 < 8),
        show i % 8 < w from Nat.lt_of_le_of_lt (Nat.mod_le i 8) inside]
  · next other =>
      by_cases before : i < 8 * k
      · simp [inside, before]
      · have beyond : 8 ≤ i - 8 * k := by omega
        simp [inside, before, beyond, Nat.not_lt.mpr beyond]

/-! ### Masks of one bit -/

variable (value : BitVec w) {i j : Nat}

/-- The mask of one bit tests that bit. -/
theorem and_bit_ne_zero (inside : i < w) :
    (value &&& (1#w <<< i) ≠ 0#w) ↔ value.getLsbD i = true := by
  rw [← BitVec.twoPow_eq, BitVec.and_twoPow]
  split
  · next set =>
      have nonzero : BitVec.twoPow w i ≠ 0#w :=
        ne_of_apply_ne (BitVec.getLsbD · i) (by simp [inside])
      exact iff_of_true nonzero set
  · next clear => exact iff_of_false (not_not_intro rfl) clear

/-- The mask of one bit sets that bit. -/
theorem getLsbD_or_bit (inside : i < w) :
    (value ||| (1#w <<< i)).getLsbD j = if j = i then true else value.getLsbD j := by
  rw [← BitVec.twoPow_eq, BitVec.getLsbD_or, BitVec.getLsbD_twoPow]
  split
  · next same => simp [same, inside]
  · next other => simp [Ne.symm other]

/-- The complement of the mask of one bit clears that bit. -/
theorem getLsbD_and_notBit (inside : j < 8) (byte : BitVec 8) :
    (byte &&& (0xff#8 ^^^ (1#8 <<< i))).getLsbD j = if j = i then false else byte.getLsbD j := by
  rw [← BitVec.twoPow_eq, BitVec.getLsbD_and, BitVec.getLsbD_xor, BitVec.getLsbD_twoPow,
    getLsbD_full]
  split
  · next same => simp [← same, inside]
  · next other => simp [inside, Ne.symm other]

end WordBytes
