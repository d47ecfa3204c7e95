import Mathlib.Data.Nat.Bitwise
import NoxServer.Library.Loops
import NoxServer.Shared.Memory
import NoxServer.Shared.Streams
import NoxServer.Shared.WorldPacket

/-!
Packed GUIDs (`tools.cpp`).

A GUID is sent as a byte that says which of its eight bytes are not zero, and those. They are put
together in an array of eight, the mask included, which has no room for nine: `writeGUID` and
`readGUID` undo each other exactly if some byte of the GUID is zero
(`writeGUID_roundTrips_iff`).
-/

namespace NoxServer.Tools

open ByteBuffer Consume Loops
open Decode (Cursor)

/-! ### Writing -/

/-- `*(test + i)`, with `test` the address of the GUID. -/
def guidByte (guid : UInt64) (i : Nat) : UInt8 := UInt8.ofNat (guid.toNat / 256 ^ i)

/-- The local variables of `writeGUID`. -/
structure Packing where
  packedGuid : List UInt8 := List.replicate 8 0
  rawMask : UInt8 := 0
  j : Nat := 1

/-- What `writeGUID` does about one byte of the GUID. -/
def packByte (guid : UInt64) (i : Nat) (p : Packing) : Except Fault Packing :=
  if guidByte guid i ≠ 0 then do
    let packedGuid ← setByte p.packedGuid p.j (guidByte guid i)
    return { packedGuid, rawMask := p.rawMask ||| 1 <<< UInt8.ofNat i, j := p.j + 1 }
  else return p

def writeGUID (data : WorldPacket) (guid : UInt64) : Except Fault WorldPacket := do
  let p ← loop (packByte guid) 8 0 {}
  let packedGuid ← setByte p.packedGuid 0 p.rawMask
  let bytes ← copyOf packedGuid p.j
  data.append bytes

/-! ### Reading -/

/-- `count` turns of the loop of `readGUID`, from the byte `i` on. -/
def readBytes (guidmark : UInt8) : Nat → Nat → UInt8 → UInt64 → Reader UInt64
  | 0, _, _, guid => return guid
  | count + 1, i, shiftdata, guid => do
      if guidmark &&& shiftdata ≠ 0 then
        let bit ← readUInt8
        readBytes guidmark count (i + 1) (shiftdata <<< 1)
          (guid ||| bit.toUInt64 <<< UInt64.ofNat (i * 8))
      else readBytes guidmark count (i + 1) (shiftdata <<< 1) guid

def readGUID : Reader UInt64 := do
  let guidmark ← readUInt8
  readBytes guidmark 8 0 1 0

/-! ### What is written -/

/-- The bytes that are not zero, of `count` from the byte `i` on. -/
def nonzeroBytes (guid : UInt64) (i count : Nat) : List UInt8 :=
  ((List.range' i count).map (guidByte guid)).filter fun byte => byte ≠ 0

/-- The mask says which bytes are not zero. -/
def Marks (mask : UInt8) (guid : UInt64) (count : Nat) : Prop :=
  ∀ k < 8, mask.toNat.testBit k = decide (k < count ∧ guidByte guid k ≠ 0)

/-- What is packed of the first bytes. -/
structure Packed (guid : UInt64) (count : Nat) (p : Packing) : Prop where
  inside : p.j ≤ 8
  marks : Marks p.rawMask guid count
  next : p.j = 1 + (nonzeroBytes guid 0 count).length
  array : p.packedGuid = 0 :: nonzeroBytes guid 0 count ++ List.replicate (8 - p.j) 0

variable {guid : UInt64}

theorem nonzeroBytes_succ (guid : UInt64) (count : Nat) :
    nonzeroBytes guid 0 (count + 1) =
      nonzeroBytes guid 0 count ++
        if guidByte guid count ≠ 0 then [guidByte guid count] else [] := by
  unfold nonzeroBytes
  rw [List.range'_1_concat, List.map_append, List.filter_append, Nat.zero_add]
  congr 1
  by_cases zero : guidByte guid count = 0
  · simp [zero]
  · simp [zero]

theorem toNat_bit : ∀ k < 8, ((1 : UInt8) <<< UInt8.ofNat k).toNat = 2 ^ k := by decide

theorem marks_succ {mask : UInt8} {count : Nat} (marks : Marks mask guid count)
    (zero : guidByte guid count = 0) : Marks mask guid (count + 1) := by
  intro k small
  rw [marks k small]
  by_cases here : k = count
  · simp [here, zero]
  · have same : k < count + 1 ↔ k < count := by omega
    simp [same]

theorem marks_or {mask : UInt8} {count : Nat} (small : count < 8) (marks : Marks mask guid count)
    (nonzero : guidByte guid count ≠ 0) :
    Marks (mask ||| 1 <<< UInt8.ofNat count) guid (count + 1) := by
  intro k below
  rw [UInt8.toNat_or, Nat.testBit_or, marks k below, toNat_bit count small, Nat.testBit_two_pow]
  by_cases here : count = k
  · subst here
    simp [nonzero]
  · have same : k < count + 1 ↔ k < count := by omega
    simp [here, same]

/-- The next byte is packed, if there is room. -/
theorem packByte_packed {count : Nat} {p : Packing} (small : count < 8)
    (packed : Packed guid count p) (room : guidByte guid count ≠ 0 → p.j < 8) :
    ∃ q, packByte guid count p = .ok q ∧ Packed guid (count + 1) q := by
  obtain ⟨inside, marks, next, array⟩ := packed
  unfold packByte
  by_cases zero : guidByte guid count = 0
  · have same : nonzeroBytes guid 0 (count + 1) = nonzeroBytes guid 0 count := by
      rw [nonzeroBytes_succ, if_neg (not_not_intro zero), List.append_nil]
    rw [if_neg (not_not_intro zero)]
    exact ⟨p, rfl, inside, marks_succ marks zero, same ▸ next, same ▸ array⟩
  · have more : nonzeroBytes guid 0 (count + 1) =
        nonzeroBytes guid 0 count ++ [guidByte guid count] := by
      rw [nonzeroBytes_succ, if_pos zero]
    have left : 8 - p.j = 8 - (p.j + 1) + 1 := by have := room zero; omega
    have length : p.packedGuid.length = 8 := by
      rw [array, List.length_append, List.length_cons, List.length_replicate]
      omega
    have set : p.packedGuid.set p.j (guidByte guid count) =
        0 :: (nonzeroBytes guid 0 count ++ [guidByte guid count]) ++
          List.replicate (8 - (p.j + 1)) 0 := by
      have place : p.j = (0 :: nonzeroBytes guid 0 count).length := by
        rw [List.length_cons, next, Nat.add_comm]
      rw [array, left, place, List.set_append_right _ _ (Nat.le_refl _), Nat.sub_self,
        List.replicate_succ, List.set_cons_zero]
      simp
    rw [if_pos zero, setByte_of_lt (length ▸ room zero)]
    refine ⟨_, rfl, room zero, marks_or small marks zero, ?_, ?_⟩
    · rw [more, List.length_append, next]
      rfl
    · rw [more]
      exact set

theorem packed_start (guid : UInt64) : Packed guid 0 {} := by
  refine ⟨by decide, fun k small => ?_, rfl, rfl⟩
  have none : ((0 : UInt8).toNat).testBit k = false := Nat.zero_testBit k
  rw [none]
  simp

theorem length_nonzeroBytes_le {count : Nat} (small : count ≤ 8) :
    (nonzeroBytes guid 0 count).length ≤ (nonzeroBytes guid 0 8).length := by
  have more : List.range' 0 8 = List.range' 0 count ++ List.range' count (8 - count) := by
    rw [← Nat.add_sub_of_le small, ← List.range'_append_1, Nat.zero_add, Nat.add_sub_cancel_left]
  unfold nonzeroBytes
  rw [more, List.map_append, List.filter_append, List.length_append]
  exact Nat.le_add_right _ _

/-- There is room for all bytes exactly if one of them is zero. -/
theorem length_nonzeroBytes_lt_iff :
    (nonzeroBytes guid 0 8).length < 8 ↔ ∃ i < 8, guidByte guid i = 0 := by
  have all : ((List.range' 0 8).map (guidByte guid)).length = 8 := rfl
  unfold nonzeroBytes
  conv_lhs => rhs; rw [← all]
  rw [List.length_filter_lt_length_iff_exists]
  simp [List.mem_range']

/-- A GUID with a byte that is zero is packed. -/
theorem exists_packed (zero : ∃ i < 8, guidByte guid i = 0) :
    ∃ p, loop (packByte guid) 8 0 {} = .ok p ∧ Packed guid 8 p := by
  refine loop_total (packed_start guid) fun count p _ below packed => ?_
  refine packByte_packed (by omega) packed fun nonzero => ?_
  have room := length_nonzeroBytes_lt_iff.mpr zero
  have le : (nonzeroBytes guid 0 (count + 1)).length ≤ _ := length_nonzeroBytes_le (by omega)
  rw [nonzeroBytes_succ, if_pos nonzero, List.length_append, List.length_singleton] at le
  rw [packed.next]
  omega

/-- A GUID that is packed has one. -/
theorem zero_of_packed {p : Packing} (run : loop (packByte guid) 8 0 {} = .ok p) :
    ∃ i < 8, guidByte guid i = 0 := by
  have packed : Packed guid 8 p := by
    refine loop_partial (P := Packed guid) (packed_start guid) run
      fun count q q' _ below packed step => ?_
    have room (nonzero : guidByte guid count ≠ 0) : q.j < 8 := by
      have length : q.packedGuid.length = 8 := by
        rw [packed.array, List.length_append, List.length_cons, List.length_replicate]
        have := packed.next
        have := packed.inside
        omega
      rw [packByte, if_pos nonzero] at step
      by_contra full
      have outside : setByte q.packedGuid q.j (guidByte guid count) = .error .outOfBounds :=
        if_neg (length ▸ full)
      rw [outside] at step
      cases step
    obtain ⟨r, run', kept⟩ := packByte_packed (by omega) packed room
    rw [run'] at step
    cases step
    exact kept
  have inside := packed.inside
  rw [packed.next] at inside
  exact length_nonzeroBytes_lt_iff.mp (by omega)

/-- What is appended: the mask, and the bytes that are not zero. -/
theorem writeGUID_eq (data : WorldPacket) (zero : ∃ i < 8, guidByte guid i = 0) :
    ∃ mask, Marks mask guid 8 ∧
      writeGUID data guid = data.append (mask :: nonzeroBytes guid 0 8) := by
  obtain ⟨p, run, inside, marks, next, array⟩ := exists_packed zero
  have first : setByte p.packedGuid 0 p.rawMask =
      .ok (p.rawMask :: nonzeroBytes guid 0 8 ++ List.replicate (8 - p.j) 0) := by
    rw [array]
    exact setByte_of_lt (Nat.zero_lt_succ _) _
  have copied : copyOf (p.rawMask :: nonzeroBytes guid 0 8 ++ List.replicate (8 - p.j) 0) p.j =
      .ok (p.rawMask :: nonzeroBytes guid 0 8) := by
    have place : p.j = (p.rawMask :: nonzeroBytes guid 0 8).length := by
      rw [List.length_cons, next, Nat.add_comm]
    unfold copyOf
    rw [if_pos, place, List.take_left]
    rw [place, List.length_append]
    exact Nat.le_add_right _ _
  refine ⟨p.rawMask, marks, ?_⟩
  unfold writeGUID
  rw [run, ok_bind, first, ok_bind, copied, ok_bind]

/-! ### What is read -/

theorem and_bit_ne_zero_iff {mask : UInt8} {i : Nat} (small : i < 8) :
    mask &&& 1 <<< UInt8.ofNat i ≠ 0 ↔ mask.toNat.testBit i = true := by
  rw [ne_eq, ← UInt8.toNat_inj, UInt8.toNat_and, toNat_bit i small, UInt8.toNat_zero,
    Nat.and_two_pow]
  cases mask.toNat.testBit i with
  | false => simp
  | true => simp

theorem shiftLeft_bit : ∀ i < 8,
    ((1 : UInt8) <<< UInt8.ofNat i) <<< 1 = 1 <<< UInt8.ofNat (i + 1) ∨ i = 7 := by
  decide

/-- The bytes read so far are the low ones. -/
theorem or_byte {low : UInt64} {i : Nat} (small : i < 8) (same : low.toNat = guid.toNat % 256 ^ i) :
    (low ||| (guidByte guid i).toUInt64 <<< UInt64.ofNat (i * 8)).toNat =
      guid.toNat % 256 ^ (i + 1) := by
  have base : (256 : Nat) ^ i = 2 ^ (i * 8) := by rw [Nat.mul_comm, Nat.pow_mul]
  have byte : (guidByte guid i).toUInt64.toNat = guid.toNat / 256 ^ i % 256 := UInt8.toNat_ofNat'
  have place : (UInt64.ofNat (i * 8)).toNat % 64 = i * 8 := by
    rw [UInt64.toNat_ofNat_of_lt' (by omega : i * 8 < 2 ^ 64)]
    omega
  have shifted : ((guidByte guid i).toUInt64 <<< UInt64.ofNat (i * 8)).toNat =
      2 ^ (i * 8) * (guid.toNat / 256 ^ i % 256) := by
    have fits : 2 ^ (i * 8) * (guid.toNat / 256 ^ i % 256) < 2 ^ 64 := by
      have top : 2 ^ (i * 8) * 256 ≤ 2 ^ 64 := by
        have power : 2 ^ (i * 8 + 8) ≤ 2 ^ 64 := Nat.pow_le_pow_right (by decide) (by omega)
        rwa [Nat.pow_add] at power
      have digit := Nat.mod_lt (guid.toNat / 256 ^ i) (by decide : 0 < 256)
      exact Nat.lt_of_lt_of_le (Nat.mul_lt_mul_of_pos_left digit (Nat.two_pow_pos _)) top
    rw [UInt64.toNat_shiftLeft, place, byte, Nat.shiftLeft_eq, Nat.mul_comm, Nat.mod_eq_of_lt fits]
  have low_lt : low.toNat < 2 ^ (i * 8) := by
    rw [same, ← base]
    exact Nat.mod_lt _ (Nat.pow_pos (by decide))
  rw [UInt64.toNat_or, shifted, Nat.lor_comm, ← Nat.two_pow_add_eq_or_of_lt low_lt, same, ← base,
    Nat.add_comm, ← Nat.mod_pow_succ]

theorem nonzeroBytes_cons (guid : UInt64) (i count : Nat) :
    nonzeroBytes guid i (count + 1) =
      (if guidByte guid i ≠ 0 then [guidByte guid i] else []) ++
        nonzeroBytes guid (i + 1) count := by
  unfold nonzeroBytes
  rw [List.range'_succ, List.map_cons, List.filter_cons]
  by_cases zero : guidByte guid i = 0
  · simp [zero]
  · simp [zero]

/-- The loop reads the bytes that are left. -/
theorem readBytes_run {mask : UInt8} (marks : Marks mask guid 8) {i count : Nat}
    (left : i + count = 8) {low : UInt64} (same : low.toNat = guid.toNat % 256 ^ i)
    {b : ByteBuffer} {more : List UInt8}
    (ahead : cursor.rest b = nonzeroBytes guid i count ++ more) :
    readBytes mask count i (1 <<< UInt8.ofNat i) low b =
      .ok (guid, cursor.advance b (nonzeroBytes guid i count).length) := by
  induction count generalizing i low b with
  | zero =>
      have whole : low = guid := by
        rw [← UInt64.toNat_inj, same, show i = 8 from left]
        exact Nat.mod_eq_of_lt guid.toNat_lt
      rw [whole]
      rfl
  | succ count ih =>
      have small : i < 8 := by omega
      have bit := marks i small
      rw [nonzeroBytes_cons] at ahead ⊢
      have next : readBytes mask count (i + 1) (1 <<< UInt8.ofNat i <<< 1) =
          readBytes mask count (i + 1) (1 <<< UInt8.ofNat (i + 1)) := by
        rcases shiftLeft_bit i small with shifted | rfl
        · rw [shifted]
        · obtain rfl : count = 0 := by omega
          rfl
      unfold readBytes
      by_cases zero : guidByte guid i = 0
      · rw [if_neg (not_not_intro zero)] at ahead ⊢
        have unmarked : ¬mask &&& 1 <<< UInt8.ofNat i ≠ 0 := by
          rw [and_bit_ne_zero_iff small, bit]
          simp [zero]
        have low_same : low.toNat = guid.toNat % 256 ^ (i + 1) := by
          have digit : guid.toNat / 256 ^ i % 256 = 0 :=
            (UInt8.toNat_ofNat' (n := guid.toNat / 256 ^ i)).symm.trans (congrArg UInt8.toNat zero)
          rw [Nat.mod_pow_succ, digit, Nat.mul_zero, Nat.add_zero, same]
        rw [if_neg unmarked, next]
        exact ih (by omega) low_same ahead
      · rw [if_pos zero] at ahead ⊢
        have marked : mask &&& 1 <<< UInt8.ofNat i ≠ 0 := by
          rw [and_bit_ne_zero_iff small, bit]
          simp [zero, small]
        have after : cursor.rest (cursor.advance b 1) = nonzeroBytes guid (i + 1) count ++ more :=
          Cursor.rest_advance [guidByte guid i] ahead
        rw [if_pos marked, run_bind_ok (readUInt8_ahead ahead), next,
          ih (by omega) (or_byte small same) after, cursor.advance_add, List.length_append]
        rfl

/-! ### Round trips -/

/-- The mask and the bytes that are not zero are appended, and whatever follows them, reading them
gives the GUID and takes as many bytes. -/
def RoundTrips (data : WorldPacket) (guid : UInt64) : Prop :=
  ∃ mask, writeGUID data guid = .ok (data.extend (mask :: nonzeroBytes guid 0 8)) ∧
    ∀ (b : ByteBuffer) (following : List UInt8),
      cursor.rest b = (mask :: nonzeroBytes guid 0 8) ++ following →
        readGUID b = .ok (guid, cursor.advance b (1 + (nonzeroBytes guid 0 8).length))

theorem readGUID_run {mask : UInt8} (marks : Marks mask guid 8) {b : ByteBuffer}
    {following : List UInt8}
    (ahead : cursor.rest b = (mask :: nonzeroBytes guid 0 8) ++ following) :
    readGUID b = .ok (guid, cursor.advance b (1 + (nonzeroBytes guid 0 8).length)) := by
  have none : (0 : UInt64).toNat = guid.toNat % 256 ^ 0 := (Nat.mod_one _).symm
  have bytes := Cursor.rest_advance [mask] ahead
  rw [readGUID, run_bind_ok (readUInt8_ahead ahead), ← cursor.advance_add]
  exact readBytes_run marks rfl none bytes

/-- A GUID is written and read back exactly if one of its bytes is zero: the array has eight places,
the first is for the mask, and the last of eight bytes that are not zero is written behind it. -/
theorem writeGUID_roundTrips_iff (data : WorldPacket) (guid : UInt64) (atEnd : data.AtEnd)
    (room : data.size < appendLimit) : RoundTrips data guid ↔ ∃ i < 8, guidByte guid i = 0 := by
  constructor
  · rintro ⟨mask, written, -⟩
    obtain ⟨p, run, -⟩ := bind_eq_ok.mp written
    exact zero_of_packed run
  · intro zero
    obtain ⟨mask, marks, written⟩ := writeGUID_eq data zero
    rw [WorldPacket.append_eq_ok atEnd fun _ => room] at written
    exact ⟨mask, written, fun b following ahead => readGUID_run marks ahead⟩

theorem roundTrips_low : RoundTrips {} 0x0123 ↔ ∃ i < 8, guidByte 0x0123 i = 0 :=
  writeGUID_roundTrips_iff {} 0x0123 rfl (by decide)

/-- Eight bytes that are not zero do not fit into the array behind the mask. -/
theorem writeGUID_outside :
    writeGUID {} 0x0102030405060708 = .error .outOfBounds ∧ ¬RoundTrips {} 0x0102030405060708 := by
  have outside : writeGUID {} 0x0102030405060708 = .error .outOfBounds := by decide
  refine ⟨outside, ?_⟩
  rintro ⟨mask, written, -⟩
  rw [outside] at written
  cases written

end NoxServer.Tools
