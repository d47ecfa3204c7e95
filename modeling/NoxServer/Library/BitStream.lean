import Mathlib.Data.Nat.Bitwise

/-!
Streams of bits in groups.

A list of bytes is read as a stream of bits, least significant first, `width` from each byte
(`bit`). A reader or writer of such a stream may go on to the next byte only when the next bit is
due: after `count` bits it is in byte `group` and has done `place` bits of it, so a byte is left
behind one bit late (`due`). Bytes are put together bit by bit (`Holds.push`).
-/

namespace BitStream

/-- Bit `k` of the stream. -/
def bit (width : Nat) (data : List UInt8) (k : Nat) : Bool :=
  (data.getD (k / width) 0).toNat.testBit (k % width)

/-- The bit at a place in a group. -/
theorem bit_eq {width i b : Nat} (small : b < width) (data : List UInt8) :
    bit width data (width * i + b) = (data.getD i 0).toNat.testBit b := by
  have positive : 0 < width := Nat.zero_lt_of_lt small
  rw [bit, Nat.mul_add_div positive, Nat.div_eq_of_lt small, Nat.mul_add_mod, Nat.add_zero,
    Nat.mod_eq_of_lt small]

/-! ### Where a reader is -/

section Places

variable (width count : Nat)

/-- The byte of a reader after `count` bits. -/
def group : Nat := (count - 1) / width

/-- The bits it has done of that byte. -/
def place : Nat := count - width * group width count

@[simp]
theorem group_succ : group width (count + 1) = count / width := rfl

theorem place_succ : place width (count + 1) = count % width + 1 := by
  have split := Nat.div_add_mod count width
  rw [place, group_succ]
  omega

theorem group_add_place : width * group width count + place width count = count := by
  have le : width * group width count ≤ count :=
    (Nat.mul_div_le (count - 1) width).trans (Nat.sub_le count 1)
  rw [place]
  omega

variable {width}

/-- The byte is done, and the next bit is the first of the next one, or it goes on. -/
theorem due (positive : 0 < width) (count : Nat) :
    (place width count = width ∧ count / width = group width count + 1 ∧ count % width = 0) ∨
      (place width count < width ∧ count / width = group width count ∧
        count % width = place width count) := by
  have sum := group_add_place width count
  have le : place width count ≤ width := by
    cases count with
    | zero => exact (Nat.sub_le 0 _).trans (Nat.zero_le width)
    | succ count =>
        rw [place_succ]
        exact Nat.mod_lt count positive
  rcases Nat.eq_or_lt_of_le le with done | more
  · have whole : width * (group width count + 1) = count := by
      rw [Nat.mul_add_one]
      omega
    refine .inl ⟨done, ?_, ?_⟩
    · rw [← whole, Nat.mul_div_cancel_left _ positive, whole]
    · rw [← whole, Nat.mul_mod_right]
  · refine .inr ⟨more, ?_, ?_⟩
    · conv => lhs; rw [← sum, Nat.mul_add_div positive, Nat.div_eq_of_lt more, Nat.add_zero]
    · conv => lhs; rw [← sum, Nat.mul_add_mod, Nat.mod_eq_of_lt more]

end Places

/-! ### Bytes bit by bit -/

/-- The byte's low `count` bits are those of `f`, and the others are 0. -/
def Holds (byte : UInt8) (count : Nat) (f : Nat → Bool) : Prop :=
  ∀ b, byte.toNat.testBit b = (decide (b < count) && f b)

theorem holds_zero (f : Nat → Bool) : Holds 0 0 f := by
  intro b
  simp

/-- One bit of a byte, at the lowest place. -/
theorem toNat_pick (byte : UInt8) {loc : UInt8} (small : loc.toNat < 8) :
    ((byte &&& ((1 : UInt8) <<< loc)) >>> loc).toNat = (byte.toNat.testBit loc.toNat).toNat := by
  have shifted : ((1 : UInt8) <<< loc).toNat = 2 ^ loc.toNat := by
    rw [UInt8.toNat_shiftLeft, UInt8.toNat_one, Nat.mod_eq_of_lt small, Nat.one_shiftLeft,
      Nat.mod_eq_of_lt (Nat.pow_lt_pow_right (by decide) small)]
  rw [UInt8.toNat_shiftRight, UInt8.toNat_and, shifted, Nat.mod_eq_of_lt small, Nat.and_two_pow,
    Nat.shiftRight_eq_div_pow, Nat.mul_div_cancel _ (Nat.two_pow_pos _)]

/-- One bit of a byte, moved to another place. -/
theorem testBit_pick (byte : UInt8) {loc place : UInt8} (small : loc.toNat < 8)
    (small' : place.toNat < 8) (b : Nat) :
    (((byte &&& ((1 : UInt8) <<< loc)) >>> loc) <<< place).toNat.testBit b =
      (decide (b = place.toNat) && byte.toNat.testBit loc.toNat) := by
  rw [UInt8.toNat_shiftLeft, toNat_pick byte small, Nat.mod_eq_of_lt small']
  cases byte.toNat.testBit loc.toNat with
  | false => simp
  | true =>
      rw [Bool.toNat_true, Nat.one_shiftLeft,
        Nat.mod_eq_of_lt (Nat.pow_lt_pow_right (by decide) small'), Nat.testBit_two_pow]
      simp [eq_comm]

/-- The next bit is taken from another byte. -/
theorem Holds.push {v byte : UInt8} {count : Nat} {f : Nat → Bool} (holds : Holds v count f)
    {loc place : UInt8} (small : loc.toNat < 8) (small' : place.toNat < 8)
    (here : place.toNat = count) (next : f count = byte.toNat.testBit loc.toNat) :
    Holds (v ^^^ (((byte &&& ((1 : UInt8) <<< loc)) >>> loc) <<< place)) (count + 1) f := by
  intro b
  rw [UInt8.toNat_xor, Nat.testBit_xor, holds b, testBit_pick byte small small', here, ← next]
  rcases Nat.lt_trichotomy b count with below | rfl | above
  · simp [below, Nat.ne_of_lt below, Nat.lt_succ_of_lt below]
  · simp
  · simp [Nat.lt_asymm above, Nat.ne_of_gt above, Nat.not_lt.mpr (Nat.succ_le_of_lt above)]

/-- Bytes with the same bits are the same. -/
theorem eq_of_testBit {a b : UInt8} (same : ∀ i < 8, a.toNat.testBit i = b.toNat.testBit i) :
    a = b := by
  refine UInt8.toNat_inj.mp (Nat.eq_of_testBit_eq fun i => ?_)
  by_cases small : i < 8
  · exact same i small
  · have high (c : UInt8) : c.toNat.testBit i = false :=
      Nat.testBit_lt_two_pow (c.toNat_lt.trans_le (Nat.pow_le_pow_right (by decide)
        (Nat.not_lt.mp small)))
    rw [high a, high b]

end BitStream
