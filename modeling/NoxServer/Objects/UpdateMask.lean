import NoxServer.Library.Loops
import NoxServer.Library.WordBytes
import NoxServer.Shared.Errors

/-!
The set of changed fields (`UpdateMask.h`): 32-bit blocks, read and written by single bits through
their bytes, the lowest byte of a block first, and combined with another mask block by block.

`operator &=` and `operator |=` assert that the other mask counts no more values and then run over
their own blocks, so they read past the other mask's where it has fewer (`combine_isOk_iff`). On as
many blocks the result is right up to the last block's bits the other mask does not count
(`combines_iff`).
-/

namespace NoxServer

/-- The blocks `SetCount` allocates for a number of values. -/
def blockCount (valuesCount : UInt32) : Nat := ((valuesCount + 31) / 32).toNat

/-- `UpdateMask`, owning the blocks its count asks for. -/
structure UpdateMask where
  mCount : UInt32
  mUpdateMask : List (BitVec 32)
  owned : mUpdateMask.length = blockCount mCount

namespace UpdateMask

/-! ### Blocks -/

def mBlocks (m : UpdateMask) : Nat := m.mUpdateMask.length

def block (m : UpdateMask) (i : Nat) : BitVec 32 := m.mUpdateMask.getD i 0

/-- `mUpdateMask[i]`. -/
def readBlock (m : UpdateMask) (i : Nat) : Except Fault (BitVec 32) :=
  if i < m.mBlocks then .ok (m.block i) else .error .outOfBounds

/-- The mask with one of its blocks written. -/
def writeBlock (m : UpdateMask) (i : Nat) (word : BitVec 32) : UpdateMask :=
  { m with mUpdateMask := m.mUpdateMask.set i word, owned := by rw [List.length_set, m.owned] }

/-- `SetCount`: every bit is clear. -/
def setCount (valuesCount : UInt32) : UpdateMask where
  mCount := valuesCount
  mUpdateMask := List.replicate (blockCount valuesCount) 0
  owned := List.length_replicate

/-- `operator =`: `SetCount`, and a copy of as many blocks. -/
def assign (mask : UpdateMask) : Except Fault UpdateMask :=
  if blockCount mask.mCount ≤ mask.mBlocks then
    .ok {
      mCount := mask.mCount
      mUpdateMask := mask.mUpdateMask.take (blockCount mask.mCount)
      owned := by
        rw [List.length_take, mask.owned]
        exact Nat.min_self _ }
  else .error .outOfBounds

/-! ### Bits -/

/-- `((uint8 *)mUpdateMask)[k]`. -/
def getByte (m : UpdateMask) (k : Nat) : Except Fault (BitVec 8) := do
  let word ← m.readBlock (k / 4)
  .ok (WordBytes.byte word (k % 4))

def setByte (m : UpdateMask) (k : Nat) (value : BitVec 8) : Except Fault UpdateMask := do
  let word ← m.readBlock (k / 4)
  .ok (m.writeBlock (k / 4) (WordBytes.setByte word (k % 4) value))

def setBit (m : UpdateMask) (index : UInt32) : Except Fault UpdateMask := do
  let byte ← m.getByte (index >>> 3).toNat
  m.setByte (index >>> 3).toNat (byte ||| (1#8 <<< (index &&& 7).toNat))

def unsetBit (m : UpdateMask) (index : UInt32) : Except Fault UpdateMask := do
  let byte ← m.getByte (index >>> 3).toNat
  m.setByte (index >>> 3).toNat (byte &&& (0xff#8 ^^^ (1#8 <<< (index &&& 7).toNat)))

def getBit (m : UpdateMask) (index : UInt32) : Except Fault Bool := do
  let byte ← m.getByte (index >>> 3).toNat
  .ok (byte &&& (1#8 <<< (index &&& 7).toNat) != 0#8)

/-! ### Combining with another mask -/

/-- One block of `operator &=` and `operator |=`. -/
def combineBlock (op : BitVec 32 → BitVec 32 → BitVec 32) (mask : UpdateMask) (i : Nat)
    (m : UpdateMask) : Except Fault UpdateMask := do
  let own ← m.readBlock i
  let other ← mask.readBlock i
  .ok (m.writeBlock i (op own other))

def combine (op : BitVec 32 → BitVec 32 → BitVec 32) (m mask : UpdateMask) :
    Except Fault UpdateMask :=
  if mask.mCount ≤ m.mCount then Loops.loop (combineBlock op mask) m.mBlocks 0 m
  else .error .assertion

def andAssign (m mask : UpdateMask) : Except Fault UpdateMask := m.combine (· &&& ·) mask

def orAssign (m mask : UpdateMask) : Except Fault UpdateMask := m.combine (· ||| ·) mask

/-- `operator &` and `operator |`: the operation on a copy. -/
def onCopy (operation : UpdateMask → UpdateMask → Except Fault UpdateMask) (m mask : UpdateMask) :
    Except Fault UpdateMask :=
  if mask.mCount ≤ m.mCount then do
    let newmask ← assign m
    operation newmask mask
  else .error .assertion

def and (m mask : UpdateMask) : Except Fault UpdateMask := onCopy andAssign m mask

def or (m mask : UpdateMask) : Except Fault UpdateMask := onCopy orAssign m mask

/-! ### Accesses of a mask -/

variable {m : UpdateMask} {i : Nat}

theorem readBlock_of_lt (inside : i < m.mBlocks) : m.readBlock i = .ok (m.block i) :=
  if_pos inside

theorem readBlock_of_ge (outside : ¬i < m.mBlocks) : m.readBlock i = .error .outOfBounds :=
  if_neg outside

@[simp] theorem writeBlock_mCount (word : BitVec 32) : (m.writeBlock i word).mCount = m.mCount :=
  rfl

@[simp] theorem writeBlock_mBlocks (word : BitVec 32) :
    (m.writeBlock i word).mBlocks = m.mBlocks := List.length_set

theorem block_writeBlock (inside : i < m.mBlocks) (word : BitVec 32) (j : Nat) :
    (m.writeBlock i word).block j = if j = i then word else m.block j := by
  simp only [block, writeBlock, List.getD_eq_getElem?_getD]
  split
  · next same => rw [same, List.getElem?_set_self inside, Option.getD_some]
  · next other => rw [List.getElem?_set_ne (Ne.symm other)]

theorem assign_eq (mask : UpdateMask) : assign mask = .ok mask := by
  have all : blockCount mask.mCount ≤ mask.mBlocks := Nat.le_of_eq mask.owned.symm
  rw [assign, if_pos all]
  congr
  exact List.take_of_length_le (Nat.le_of_eq mask.owned)

/-- The operators on a copy do what the assigning ones do. -/
theorem onCopy_eq {op : BitVec 32 → BitVec 32 → BitVec 32} (m mask : UpdateMask) :
    onCopy (combine op) m mask = m.combine op mask := by
  rw [onCopy, assign_eq, ok_bind]
  by_cases admitted : mask.mCount ≤ m.mCount
  · rw [if_pos admitted]
  · rw [if_neg admitted, combine, if_neg admitted]

theorem and_eq (m mask : UpdateMask) : m.and mask = m.andAssign mask := onCopy_eq m mask

theorem or_eq (m mask : UpdateMask) : m.or mask = m.orAssign mask := onCopy_eq m mask

/-! ### Bits of a mask -/

/-- Bit `n` of the blocks. -/
def bit (m : UpdateMask) (n : Nat) : Bool := (m.block (n / 32)).getLsbD (n % 32)

theorem shifted (index : UInt32) : (index >>> 3).toNat = index.toNat / 8 := by
  rw [UInt32.toNat_shiftRight, show UInt32.toNat 3 % 32 = 3 from rfl, Nat.shiftRight_eq_div_pow]

theorem masked (index : UInt32) : (index &&& 7).toNat = index.toNat % 8 := by
  rw [UInt32.toNat_and]
  exact Nat.and_two_pow_sub_one_eq_mod index.toNat 3

theorem getByte_of_lt {index : UInt32} (inside : index.toNat / 32 < m.mBlocks) :
    m.getByte (index >>> 3).toNat =
      .ok (WordBytes.byte (m.block (index.toNat / 32)) (index.toNat / 8 % 4)) := by
  rw [getByte, shifted, Nat.div_div_eq_div_mul, readBlock_of_lt inside, ok_bind]

theorem getByte_of_ge {index : UInt32} (outside : ¬index.toNat / 32 < m.mBlocks) :
    m.getByte (index >>> 3).toNat = .error .outOfBounds := by
  rw [getByte, shifted, Nat.div_div_eq_div_mul, readBlock_of_ge outside, error_bind]

/-- `GetBit` reads the bit of its index from the blocks. -/
theorem getBit_of_lt {index : UInt32} (inside : index.toNat / 32 < m.mBlocks) :
    m.getBit index = .ok (m.bit index.toNat) := by
  have offset : 8 * (index.toNat / 8 % 4) + index.toNat % 8 = index.toNat % 32 := by omega
  have small : index.toNat % 8 < 8 := Nat.mod_lt _ (by decide)
  rw [getBit, getByte_of_lt inside, ok_bind, masked]
  congr 1
  rw [Bool.eq_iff_iff, bne_iff_ne, WordBytes.and_bit_ne_zero _ small,
    WordBytes.getLsbD_byte _ small, offset, bit]

theorem getBit_of_ge {index : UInt32} (outside : ¬index.toNat / 32 < m.mBlocks) :
    m.getBit index = .error .outOfBounds := by
  rw [getBit, getByte_of_ge outside, error_bind]

theorem getBit_eq_ok {index : UInt32} {value : Bool} :
    m.getBit index = .ok value ↔ index.toNat / 32 < m.mBlocks ∧ m.bit index.toNat = value := by
  by_cases inside : index.toNat / 32 < m.mBlocks
  · simp [getBit_of_lt inside, inside]
  · simp [getBit_of_ge inside, inside]

/-- The write of a byte, by the bits of the blocks. -/
theorem bit_setByte {index : UInt32} (inside : index.toNat / 32 < m.mBlocks)
    (value : BitVec 8) :
    ∃ r, m.setByte (index >>> 3).toNat value = .ok r ∧ r.mCount = m.mCount ∧
      r.mBlocks = m.mBlocks ∧
      ∀ n, r.bit n = if n / 8 = index.toNat / 8 then value.getLsbD (n % 8) else m.bit n := by
  rw [setByte, shifted, Nat.div_div_eq_div_mul, readBlock_of_lt inside, ok_bind]
  refine ⟨_, rfl, rfl, writeBlock_mBlocks _, ?_⟩
  intro n
  simp only [bit, block_writeBlock inside]
  have small : n % 32 < 32 := Nat.mod_lt _ (by decide)
  have offset : n % 32 % 8 = n % 8 := by omega
  by_cases word : n / 32 = index.toNat / 32
  · rw [if_pos word, WordBytes.getLsbD_setByte _ _ _ small, offset, word]
    have byte : n % 32 / 8 = index.toNat / 8 % 4 ↔ n / 8 = index.toNat / 8 := by omega
    simp only [byte]
  · rw [if_neg word, if_neg (by omega)]

/-- A run gives the mask with one bit of it as asked, and every other read as before. -/
def Writes (m : UpdateMask) (index : UInt32) (value : Bool) (run : Except Fault UpdateMask) :
    Prop :=
  ∃ r, run = .ok r ∧ r.mCount = m.mCount ∧ r.getBit index = .ok value ∧
    ∀ j, j ≠ index → r.getBit j = m.getBit j

/-- A byte written with one bit changed is that bit changed. -/
theorem writes_setByte {index : UInt32} (inside : index.toNat / 32 < m.mBlocks) {value : Bool}
    {byte : BitVec 8} (changed : ∀ j, j < 8 → byte.getLsbD j =
      if j = index.toNat % 8 then value
      else (WordBytes.byte (m.block (index.toNat / 32)) (index.toNat / 8 % 4)).getLsbD j) :
    Writes m index value (m.setByte (index >>> 3).toNat byte) := by
  obtain ⟨r, run, count, blocks, bits⟩ := bit_setByte inside byte
  refine ⟨r, run, count, ?_, ?_⟩
  · rw [getBit_of_lt (blocks ▸ inside), bits, if_pos rfl, changed _ (Nat.mod_lt _ (by decide)),
      if_pos rfl]
  · intro j other
    have apart : j.toNat ≠ index.toNat := fun same => other (UInt32.toNat_inj.mp same)
    by_cases within : j.toNat / 32 < m.mBlocks
    · rw [getBit_of_lt (blocks ▸ within), getBit_of_lt within, bits]
      split
      · next byte =>
          have offset : 8 * (index.toNat / 8 % 4) + j.toNat % 8 = j.toNat % 32 := by omega
          have word : index.toNat / 32 = j.toNat / 32 := by omega
          have small : j.toNat % 8 < 8 := Nat.mod_lt _ (by decide)
          rw [changed _ small, if_neg (by omega), WordBytes.getLsbD_byte _ small, offset, word, bit]
      · rfl
    · rw [getBit_of_ge (blocks ▸ within), getBit_of_ge within]

theorem writes_setBit {index : UInt32} (inside : index.toNat / 32 < m.mBlocks) :
    Writes m index true (m.setBit index) := by
  rw [setBit, getByte_of_lt inside, ok_bind, masked]
  apply writes_setByte inside
  intro j _
  exact WordBytes.getLsbD_or_bit _ (Nat.mod_lt _ (by decide))

theorem writes_unsetBit {index : UInt32} (inside : index.toNat / 32 < m.mBlocks) :
    Writes m index false (m.unsetBit index) := by
  rw [unsetBit, getByte_of_lt inside, ok_bind, masked]
  apply writes_setByte inside
  intro j small
  exact WordBytes.getLsbD_and_notBit small _

/-- `SetBit` and `UnsetBit` write the bit `GetBit` reads, or all three leave the blocks. -/
theorem writes_or_outOfBounds (m : UpdateMask) (index : UInt32) :
    (∃ value, m.getBit index = .ok value) ∧ Writes m index true (m.setBit index) ∧
        Writes m index false (m.unsetBit index) ∨
      m.getBit index = .error .outOfBounds ∧ m.setBit index = .error .outOfBounds ∧
        m.unsetBit index = .error .outOfBounds := by
  by_cases inside : index.toNat / 32 < m.mBlocks
  · exact .inl ⟨⟨_, getBit_of_lt inside⟩, writes_setBit inside, writes_unsetBit inside⟩
  · refine .inr ⟨getBit_of_ge inside, ?_, ?_⟩
    · rw [setBit, getByte_of_ge inside, error_bind]
    · rw [unsetBit, getByte_of_ge inside, error_bind]

/-! ### The blocks of a combination -/

/-- `k` blocks of a mask are combined, the others as they were. -/
structure Combined (op : BitVec 32 → BitVec 32 → BitVec 32) (a b : UpdateMask) (k : Nat)
    (m : UpdateMask) : Prop where
  count : m.mCount = a.mCount
  blocks : m.mBlocks = a.mBlocks
  block : ∀ j, m.block j = if j < k then op (a.block j) (b.block j) else a.block j

variable {op : BitVec 32 → BitVec 32 → BitVec 32} {a b r : UpdateMask} {k : Nat}

theorem Combined.start : Combined op a b 0 a where
  count := rfl
  blocks := rfl
  block j := (if_neg (Nat.not_lt_zero j)).symm

theorem Combined.step (so : Combined op a b k m) (own : k < a.mBlocks) (other : k < b.mBlocks) :
    ∃ t, combineBlock op b k m = .ok t ∧ Combined op a b (k + 1) t := by
  have inside : k < m.mBlocks := so.blocks ▸ own
  rw [combineBlock, readBlock_of_lt inside, ok_bind, readBlock_of_lt other, ok_bind]
  refine ⟨_, rfl, ?_⟩
  constructor
  · exact so.count
  · exact (writeBlock_mBlocks _).trans so.blocks
  · intro j
    rw [block_writeBlock inside]
    by_cases here : j = k
    · rw [if_pos here, if_pos (by omega), so.block, if_neg (Nat.lt_irrefl k), here]
    · rw [if_neg here, so.block]
      by_cases done : j < k
      · rw [if_pos done, if_pos (by omega)]
      · rw [if_neg done, if_neg (by omega)]

/-- The operation combines all blocks of its own mask where the other has as many. -/
theorem combine_of_le (op : BitVec 32 → BitVec 32 → BitVec 32) (admitted : b.mCount ≤ a.mCount)
    (enough : a.mBlocks ≤ b.mBlocks) :
    ∃ r, a.combine op b = .ok r ∧ Combined op a b a.mBlocks r := by
  rw [combine, if_pos admitted]
  have final : ∃ r, Loops.loop (combineBlock op b) a.mBlocks 0 a = .ok r ∧
      Combined op a b (0 + a.mBlocks) r :=
    Loops.loop_total Combined.start fun j m _ upper so => so.step (by omega) (by omega)
  rwa [Nat.zero_add] at final

/-- A completed operation read all those blocks of the other mask. -/
theorem le_of_combine (run : a.combine op b = .ok r) : a.mBlocks ≤ b.mBlocks := by
  rw [combine] at run
  split at run
  · have final := Loops.loop_partial (P := fun k _ => k ≤ b.mBlocks) (Nat.zero_le _) run
      (by
        intro j m t _ _ _ done
        by_contra beyond
        have outside : ¬j < b.mBlocks := by omega
        rw [combineBlock, readBlock_of_ge outside] at done
        obtain ⟨_, _, failed⟩ := bind_eq_ok.mp done
        cases failed)
    rwa [Nat.zero_add] at final
  · cases run

theorem combine_isOk_iff (op : BitVec 32 → BitVec 32 → BitVec 32)
    (admitted : b.mCount ≤ a.mCount) :
    (∃ r, a.combine op b = .ok r) ↔ a.mBlocks ≤ b.mBlocks := by
  constructor
  · rintro ⟨r, run⟩
    exact le_of_combine run
  · intro enough
    obtain ⟨r, run, _⟩ := combine_of_le op admitted enough
    exact ⟨r, run⟩

/-! ### Blocks of a count -/

theorem blockCount_of_le {count : UInt32} (small : count ≤ 0xFFFFFFE0) :
    blockCount count = (count.toNat + 31) / 32 := by
  have bound : count.toNat ≤ 0xFFFFFFE0 := UInt32.le_iff_toNat_le.mp small
  rw [blockCount, UInt32.toNat_div, UInt32.toNat_add]
  simp only [UInt32.reduceToNat]
  omega

/-- From there on the rounding up wraps, and no block is allocated. -/
theorem blockCount_of_gt {count : UInt32} (large : ¬count ≤ 0xFFFFFFE0) : blockCount count = 0 := by
  have bound : ¬count.toNat ≤ 0xFFFFFFE0 := fun le => large (UInt32.le_iff_toNat_le.mpr le)
  have width := count.toNat_lt
  rw [blockCount, UInt32.toNat_div, UInt32.toNat_add]
  simp only [UInt32.reduceToNat]
  omega

/-- Every counted bit is in the blocks. -/
theorem inside_of_lt (small : m.mCount ≤ 0xFFFFFFE0) {index : UInt32} (counted : index < m.mCount) :
    index.toNat / 32 < m.mBlocks := by
  have below : index.toNat < m.mCount.toNat := UInt32.lt_iff_toNat_lt.mp counted
  have blocks : m.mBlocks = (m.mCount.toNat + 31) / 32 := m.owned.trans (blockCount_of_le small)
  omega

theorem mBlocks_le (small : a.mCount ≤ 0xFFFFFFE0) (admitted : b.mCount ≤ a.mCount) :
    b.mBlocks ≤ a.mBlocks := by
  have ours : a.mBlocks = (a.mCount.toNat + 31) / 32 := a.owned.trans (blockCount_of_le small)
  have theirs : b.mBlocks = (b.mCount.toNat + 31) / 32 :=
    b.owned.trans (blockCount_of_le (UInt32.le_trans admitted small))
  have counts : b.mCount.toNat ≤ a.mCount.toNat := UInt32.le_iff_toNat_le.mp admitted
  omega

/-! ### The bits of a combination -/

/-- What a mask says of an index: clear at its count and beyond. -/
def countedBit (m : UpdateMask) (index : UInt32) : Except Fault Bool :=
  if index < m.mCount then m.getBit index else .ok false

/-- A run completes, and each bit `a` counts is combined from `a`'s and `b`'s. -/
def Combines (f : Bool → Bool → Bool) (a b : UpdateMask) (run : Except Fault UpdateMask) : Prop :=
  ∃ r, run = .ok r ∧ ∀ i, i < a.mCount →
    ∃ x y, a.getBit i = .ok x ∧ b.countedBit i = .ok y ∧ r.getBit i = .ok (f x y)

/-- The rounding up does not wrap, and both masks own the same number of blocks. -/
def SameBlocks (a b : UpdateMask) : Prop := a.mCount ≤ 0xFFFFFFE0 ∧ a.mBlocks = b.mBlocks

instance (a b : UpdateMask) : Decidable (SameBlocks a b) := inferInstanceAs (Decidable (_ ∧ _))

theorem Combined.bit {f : Bool → Bool → Bool}
    (bitwise : ∀ (x y : BitVec 32) (n : Nat), n < 32 →
      (op x y).getLsbD n = f (x.getLsbD n) (y.getLsbD n))
    (so : Combined op a b a.mBlocks r) {n : Nat} (inside : n / 32 < a.mBlocks) :
    r.bit n = f (a.bit n) (b.bit n) := by
  rw [UpdateMask.bit, so.block, if_pos inside, bitwise _ _ _ (Nat.mod_lt _ (by decide))]
  rfl

/-- Where the rounding up wraps there are no blocks, so no counted bit is read. -/
theorem Combines.small {f : Bool → Bool → Bool} {run : Except Fault UpdateMask}
    (combines : Combines f a b run) : a.mCount ≤ 0xFFFFFFE0 := by
  by_contra large
  have first : (0 : UInt32) < a.mCount := by
    rw [UInt32.lt_iff_toNat_lt]
    rw [UInt32.le_iff_toNat_le] at large
    exact Nat.lt_trans (by decide) (Nat.lt_of_not_le large)
  have none : a.mBlocks = 0 := a.owned.trans (blockCount_of_gt large)
  obtain ⟨r, _, reads⟩ := combines
  obtain ⟨x, _, read, _⟩ := reads 0 first
  rw [getBit_eq_ok, none] at read
  exact Nat.not_lt_zero _ read.1

/-- An operation is right up to what it makes of the other mask's bits beyond its count. -/
theorem combines_iff_of {f : Bool → Bool → Bool}
    (bitwise : ∀ (x y : BitVec 32) (n : Nat), n < 32 →
      (op x y).getLsbD n = f (x.getLsbD n) (y.getLsbD n))
    (admitted : b.mCount ≤ a.mCount) :
    Combines f a b (a.combine op b) ↔ SameBlocks a b ∧ ∀ i, b.mCount ≤ i → i < a.mCount →
      f (a.bit i.toNat) (b.bit i.toNat) = f (a.bit i.toNat) false := by
  constructor
  · intro combines
    have small := combines.small
    obtain ⟨r, run, reads⟩ := combines
    have enough := le_of_combine run
    have same : a.mBlocks = b.mBlocks := Nat.le_antisymm enough (mBlocks_le small admitted)
    refine ⟨⟨small, same⟩, ?_⟩
    intro i beyond counted
    obtain ⟨r', run', so⟩ := combine_of_le op admitted enough
    obtain rfl : r' = r := Except.ok.inj (run'.symm.trans run)
    obtain ⟨x, y, own, other, read⟩ := reads i counted
    rw [countedBit, if_neg (UInt32.not_lt.mpr beyond)] at other
    cases other
    rw [getBit_eq_ok] at own read
    rw [← so.bit bitwise own.1, read.2, own.2]
  · rintro ⟨⟨small, same⟩, tail⟩
    obtain ⟨r, run, so⟩ := combine_of_le op admitted (Nat.le_of_eq same)
    refine ⟨r, run, ?_⟩
    intro i counted
    have inside : i.toNat / 32 < a.mBlocks := inside_of_lt small counted
    have reads : r.getBit i = .ok (f (a.bit i.toNat) (b.bit i.toNat)) := by
      rw [getBit_of_lt (so.blocks ▸ inside), so.bit bitwise inside]
    rw [countedBit]
    by_cases theirs : i < b.mCount
    · rw [if_pos theirs]
      exact ⟨_, _, getBit_of_lt inside, getBit_of_lt (same ▸ inside), reads⟩
    · rw [if_neg theirs]
      rw [tail i (UInt32.not_lt.mp theirs) counted] at reads
      exact ⟨_, _, getBit_of_lt inside, rfl, reads⟩

theorem andAssign_combines_iff (admitted : b.mCount ≤ a.mCount) :
    Combines (· && ·) a b (a.andAssign b) ↔ SameBlocks a b ∧ ∀ i, b.mCount ≤ i → i < a.mCount →
      ¬(a.getBit i = .ok true ∧ b.getBit i = .ok true) := by
  rw [andAssign, combines_iff_of (fun x y n _ => BitVec.getLsbD_and) admitted]
  apply and_congr_right
  rintro ⟨small, same⟩
  apply forall₃_congr
  intro i _ counted
  have inside : i.toNat / 32 < a.mBlocks := inside_of_lt small counted
  rw [getBit_of_lt inside, getBit_of_lt (same ▸ inside)]
  cases a.bit i.toNat <;> cases b.bit i.toNat <;> simp

theorem orAssign_combines_iff (admitted : b.mCount ≤ a.mCount) :
    Combines (· || ·) a b (a.orAssign b) ↔ SameBlocks a b ∧ ∀ i, b.mCount ≤ i → i < a.mCount →
      b.getBit i = .ok true → a.getBit i = .ok true := by
  rw [orAssign, combines_iff_of (fun x y n _ => BitVec.getLsbD_or) admitted]
  apply and_congr_right
  rintro ⟨small, same⟩
  apply forall₃_congr
  intro i _ counted
  have inside : i.toNat / 32 < a.mBlocks := inside_of_lt small counted
  rw [getBit_of_lt inside, getBit_of_lt (same ▸ inside)]
  cases a.bit i.toNat <;> cases b.bit i.toNat <;> simp

/-- **The set operations are right exactly on as many blocks with no surplus bits**: both masks own
the same number, and beyond the other's count its bits change nothing. `SetBit` and `UnsetBit`
always write the bit `GetBit` reads, where that is in the blocks. -/
theorem combines_iff {a b : UpdateMask} (admitted : b.mCount ≤ a.mCount) (m : UpdateMask)
    (index : UInt32) :
    (Combines (· && ·) a b (a.andAssign b) ↔ SameBlocks a b ∧
      ∀ i, b.mCount ≤ i → i < a.mCount → ¬(a.getBit i = .ok true ∧ b.getBit i = .ok true)) ∧
    (Combines (· || ·) a b (a.orAssign b) ↔ SameBlocks a b ∧
      ∀ i, b.mCount ≤ i → i < a.mCount → b.getBit i = .ok true → a.getBit i = .ok true) ∧
    ((∃ value, m.getBit index = .ok value) ∧ Writes m index true (m.setBit index) ∧
        Writes m index false (m.unsetBit index) ∨
      m.getBit index = .error .outOfBounds ∧ m.setBit index = .error .outOfBounds ∧
        m.unsetBit index = .error .outOfBounds) :=
  ⟨andAssign_combines_iff admitted, orAssign_combines_iff admitted, writes_or_outOfBounds m index⟩

/-- Two masks of forty values. -/
theorem combines_iff_forty :
    (setCount 40).mCount ≤ (setCount 40).mCount ∧
      Combines (· && ·) (setCount 40) (setCount 40) ((setCount 40).andAssign (setCount 40)) := by
  have admitted : (setCount 40).mCount ≤ (setCount 40).mCount := by decide
  refine ⟨admitted, (combines_iff admitted (setCount 40) 0).1.mpr ⟨by decide, ?_⟩⟩
  intro i beyond counted
  exact absurd beyond (UInt32.not_le.mpr counted)

/-- A mask of one value is admitted against one of forty, and its second block is read. -/
theorem smaller_mask_overrun :
    (setCount 1).mCount ≤ (setCount 40).mCount ∧
      (setCount 40).andAssign (setCount 1) = .error .outOfBounds ∧
      ¬Combines (· && ·) (setCount 40) (setCount 1) ((setCount 40).andAssign (setCount 1)) := by
  have overrun : (setCount 40).andAssign (setCount 1) = .error .outOfBounds := by rfl
  refine ⟨by decide, overrun, ?_⟩
  rintro ⟨r, run, _⟩
  rw [overrun] at run
  cases run

end UpdateMask

end NoxServer
