import NoxServer.Crypt.NoxCrypt
import NoxServer.Library.Loops
import NoxServer.Shared.Memory

/-!
The buffers that `NoxCrypt_crypt` is called on.

The block loop goes on while `dataNdx < BuffLen` and takes eight bytes at a time, so it needs the
size of the data rounded up to whole blocks. `cryptBuffer` is the loop on a buffer of `BuffLen`
bytes; here it is on a buffer of any size, an access at a time, and the two agree where both are
defined (`cryptBlocks_eq_cryptBuffer`). Of the loaders only `Load_Thingdb` has room to spare.
-/

namespace NoxServer.Crypt

open Loops

/-! ### The block loop, an access at a time -/

/-- The four bytes at an index, as a word. -/
def readWord (data : List UInt8) (i : Nat) : Except Fault UInt32 := do
  let b0 ← byteAt data i
  let b1 ← byteAt data (i + 1)
  let b2 ← byteAt data (i + 2)
  let b3 ← byteAt data (i + 3)
  return loadWord b0 b1 b2 b3

/-- A word stored at an index. -/
def writeWord (data : List UInt8) (i : Nat) (w : UInt32) : Except Fault (List UInt8) := do
  let data ← setByte data i (wordByte w 24)
  let data ← setByte data (i + 1) (wordByte w 16)
  let data ← setByte data (i + 2) (wordByte w 8)
  setByte data (i + 3) (wordByte w 0)

/-- The body of the loop, for the block at `dataNdx`. -/
def cryptBlock (table : Array UInt32) (taOFFset dataNdx : Nat) (data : List UInt8) :
    Except Fault (List UInt8) := do
  let part1 ← readWord data dataNdx
  let part2 ← readWord data (dataNdx + 4)
  let parts := cryptWords table taOFFset (part1, part2)
  let data ← writeWord data dataNdx parts.1
  writeWord data (dataNdx + 4) parts.2

/-- The loop: `dataNdx` is 0, 8, 16 and so on below `BuffLen`. -/
def cryptBlocks (table : Array UInt32) (taOFFset : Nat) (data : List UInt8) (BuffLen : Nat) :
    Except Fault (List UInt8) :=
  loop (fun block => cryptBlock table taOFFset (8 * block)) ((BuffLen + 7) / 8) 0 data

/-- `NoxCrypt_crypt(data, BuffLen, tabl, mode)`, on a buffer of any size. -/
def noxCrypt_cryptIn (data : List UInt8) (BuffLen tabl mode : Nat) :
    Except Fault (Nat × List UInt8) :=
  match selectTable tabl with
  | none => .ok (1, data)
  | some table => do
      let data ← cryptBlocks table (if mode = 1 then 0x418 else 0x400) data BuffLen
      return (0, data)

/-! ### Loaders -/

/-- A file in a buffer with some bytes to spare, decrypted. -/
def decryptFile (file : List UInt8) (spare : Nat) (fileType : NoxCryptFileTypes) :
    Except Fault (Nat × List UInt8) :=
  noxCrypt_cryptIn (file ++ List.replicate spare 0) file.length fileType.value 1

/-- `NoxBuffer::decrypt(fileType)`: the storage of the buffer. -/
def noxBufferDecrypt (storage : List UInt8) (fileType : NoxCryptFileTypes) :
    Except Fault (Nat × List UInt8) :=
  decryptFile storage 0 fileType

/-- `ModifierBin::LoadBin`: `new unsigned char [len]`. -/
def modifierBinLoad (file : List UInt8) : Except Fault (Nat × List UInt8) :=
  decryptFile file 0 .modifierBin

/-- `ThingBin::Load_Thingdb`: `new unsigned char [len+10]`. -/
def loadThingdb (file : List UInt8) : Except Fault (Nat × List UInt8) :=
  decryptFile file 10 .thingBin

/-! ### What is accessed -/

theorem readWord_ok {data : List UInt8} {i : Nat} (inside : i + 4 ≤ data.length) :
    ∃ w, readWord data i = .ok w := by
  rw [readWord, byteAt_of_lt (by omega), ok_bind, byteAt_of_lt (by omega), ok_bind,
    byteAt_of_lt (by omega), ok_bind, byteAt_of_lt (by omega)]
  exact ⟨_, rfl⟩

theorem readWord_inside {data : List UInt8} {i : Nat} {w : UInt32}
    (run : readWord data i = .ok w) : i + 4 ≤ data.length := by
  obtain ⟨_, _, run⟩ := bind_eq_ok.mp run
  obtain ⟨_, _, run⟩ := bind_eq_ok.mp run
  obtain ⟨_, _, run⟩ := bind_eq_ok.mp run
  obtain ⟨_, last, _⟩ := bind_eq_ok.mp run
  exact byteAt_eq_ok last

theorem writeWord_ok {data : List UInt8} {i : Nat} (inside : i + 4 ≤ data.length) (w : UInt32) :
    ∃ out, writeWord data i w = .ok out := by
  rw [writeWord, setByte_of_lt (by omega), ok_bind, setByte_of_lt, ok_bind, setByte_of_lt, ok_bind,
    setByte_of_lt]
  · exact ⟨_, rfl⟩
  all_goals
    simp only [List.length_set]
    omega

theorem writeWord_length {data out : List UInt8} {i : Nat} {w : UInt32}
    (run : writeWord data i w = .ok out) : out.length = data.length := by
  obtain ⟨_, first, run⟩ := bind_eq_ok.mp run
  obtain ⟨_, second, run⟩ := bind_eq_ok.mp run
  obtain ⟨_, third, last⟩ := bind_eq_ok.mp run
  rw [setByte_length last, setByte_length third, setByte_length second, setByte_length first]

section Blocks

variable {table : Array UInt32} {taOFFset : Nat}

/-- A block is in the buffer. -/
theorem cryptBlock_ok {data : List UInt8} {i : Nat} (inside : i + 8 ≤ data.length) :
    ∃ out, cryptBlock table taOFFset i data = .ok out ∧ out.length = data.length := by
  obtain ⟨part1, first⟩ := readWord_ok (by omega : i + 4 ≤ data.length)
  obtain ⟨part2, second⟩ := readWord_ok (by omega : i + 4 + 4 ≤ data.length)
  let parts := cryptWords table taOFFset (part1, part2)
  obtain ⟨half, third⟩ := writeWord_ok (by omega : i + 4 ≤ data.length) parts.1
  have same := writeWord_length third
  obtain ⟨out, last⟩ := writeWord_ok (by omega : i + 4 + 4 ≤ half.length) parts.2
  refine ⟨out, ?_, (writeWord_length last).trans same⟩
  rw [cryptBlock, first, ok_bind, second, ok_bind]
  exact (bind_eq_ok.mpr ⟨half, third, last⟩)

theorem cryptBlock_inside {data out : List UInt8} {i : Nat}
    (run : cryptBlock table taOFFset i data = .ok out) :
    i + 8 ≤ data.length ∧ out.length = data.length := by
  obtain ⟨_, _, run⟩ := bind_eq_ok.mp run
  obtain ⟨_, second, run⟩ := bind_eq_ok.mp run
  obtain ⟨_, third, last⟩ := bind_eq_ok.mp run
  exact ⟨readWord_inside second, (writeWord_length last).trans (writeWord_length third)⟩

/-- The loop stays in a buffer that has room for whole blocks, and in no other. -/
theorem cryptBlocks_ok_iff {data : List UInt8} {BuffLen : Nat} :
    (∃ out, cryptBlocks table taOFFset data BuffLen = .ok out) ↔
      8 * ((BuffLen + 7) / 8) ≤ data.length := by
  constructor
  · rintro ⟨out, run⟩
    have reached := loop_partial
      (P := fun block (bytes : List UInt8) =>
        bytes.length = data.length ∧ 8 * block ≤ data.length)
      ⟨rfl, Nat.zero_le _⟩ run fun block s t _ _ inv run => by
        obtain ⟨inside, same⟩ := cryptBlock_inside run
        exact ⟨same.trans inv.1, by rw [inv.1] at inside; omega⟩
    rw [Nat.zero_add] at reached
    exact reached.2
  · intro room
    have total : ∃ out, cryptBlocks table taOFFset data BuffLen = .ok out ∧
        out.length = data.length := by
      refine loop_total (P := fun _ (bytes : List UInt8) => bytes.length = data.length) rfl
        fun block bytes _ lt same => ?_
      have inside : 8 * block + 8 ≤ bytes.length := by omega
      obtain ⟨out, run, length⟩ := cryptBlock_ok inside
      exact ⟨out, run, length.trans same⟩
    exact total.imp fun _ => And.left

/-! ### The loop on a buffer of whole blocks -/

theorem byteAt_append (front data : List UInt8) (i : Nat) :
    byteAt (front ++ data) (front.length + i) = byteAt data i := by
  simp [byteAt, List.getElem?_append_right]

theorem setByte_append (front data : List UInt8) (i : Nat) (byte : UInt8) :
    setByte (front ++ data) (front.length + i) byte =
      (front ++ ·) <$> setByte data i byte := by
  unfold setByte
  rw [List.length_append]
  by_cases inside : i < data.length
  · rw [if_pos (by omega), if_pos inside, List.set_append_right _ _ (by omega),
      Nat.add_sub_cancel_left]
    rfl
  · rw [if_neg (by omega), if_neg inside]
    rfl

/-- The word at an index after some bytes. -/
theorem readWord_append (front data : List UInt8) (i : Nat) :
    readWord (front ++ data) (front.length + i) = readWord data i := by
  simp only [readWord, Nat.add_assoc, byteAt_append]

theorem map_bind_append {front : List UInt8} (first : Except Fault (List UInt8))
    (next : List UInt8 → Except Fault (List UInt8)) {next' : List UInt8 → Except Fault (List UInt8)}
    (same : ∀ data, next (front ++ data) = (front ++ ·) <$> next' data) :
    (((front ++ ·) <$> first) >>= next) = (front ++ ·) <$> (first >>= next') := by
  cases first with
  | error fault => rfl
  | ok data => exact same data

theorem writeWord_append (front data : List UInt8) (i : Nat) (w : UInt32) :
    writeWord (front ++ data) (front.length + i) w = (front ++ ·) <$> writeWord data i w := by
  simp only [writeWord, Nat.add_assoc, setByte_append]
  refine map_bind_append _ _ fun data => ?_
  rw [setByte_append]
  refine map_bind_append _ _ fun data => ?_
  rw [setByte_append]
  refine map_bind_append _ _ fun data => ?_
  rw [setByte_append]

/-- A block after some bytes. -/
theorem cryptBlock_append (front data : List UInt8) (i : Nat) :
    cryptBlock table taOFFset (front.length + i) (front ++ data) =
      (front ++ ·) <$> cryptBlock table taOFFset i data := by
  simp only [cryptBlock, readWord_append, Nat.add_assoc]
  cases readWord data i with
  | error fault => rfl
  | ok part1 =>
      cases readWord data (i + 4) with
      | error fault => rfl
      | ok part2 =>
          simp only [ok_bind, writeWord_append]
          refine map_bind_append _ _ fun data => ?_
          rw [writeWord_append]

/-- The first block of a buffer. -/
theorem cryptBlock_cons (rest : List UInt8) (b0 b1 b2 b3 b4 b5 b6 b7 : UInt8) :
    let parts := cryptWords table taOFFset (loadWord b0 b1 b2 b3, loadWord b4 b5 b6 b7)
    cryptBlock table taOFFset 0 (b0 :: b1 :: b2 :: b3 :: b4 :: b5 :: b6 :: b7 :: rest) =
      .ok (storeWord parts.1 ++ storeWord parts.2 ++ rest) := by
  simp [cryptBlock, readWord, writeWord, byteAt, setByte, storeWord]

/-- The blocks after the first one. -/
theorem loop_append {front : List UInt8} (length : front.length = 8) (count block : Nat)
    (data : List UInt8) :
    loop (fun block => cryptBlock table taOFFset (8 * block)) count (block + 1) (front ++ data) =
      (front ++ ·) <$> loop (fun block => cryptBlock table taOFFset (8 * block)) count block
        data := by
  induction count generalizing block data with
  | zero => rfl
  | succ count ih =>
      have index : 8 * (block + 1) = front.length + 8 * block := by omega
      rw [loop, loop, index, cryptBlock_append]
      exact map_bind_append _ _ fun data => ih (block + 1) data

/-- On a buffer of `BuffLen` bytes the accesses amount to `cryptBuffer`. -/
theorem cryptBlocks_eq_cryptBuffer :
    ∀ data : List UInt8,
      cryptBlocks table taOFFset data data.length = cryptBuffer table taOFFset data
  | [] => rfl
  | b0 :: b1 :: b2 :: b3 :: b4 :: b5 :: b6 :: b7 :: rest => by
      let parts := cryptWords table taOFFset (loadWord b0 b1 b2 b3, loadWord b4 b5 b6 b7)
      have count : (rest.length + 8 + 7) / 8 = (rest.length + 7) / 8 + 1 := by omega
      have length : (storeWord parts.1 ++ storeWord parts.2).length = 8 := rfl
      have ih := cryptBlocks_eq_cryptBuffer rest
      unfold cryptBlocks at ih ⊢
      show loop _ ((rest.length + 8 + 7) / 8) 0 _ = _
      rw [count, loop, Nat.mul_zero, cryptBlock_cons, ok_bind, loop_append length, ih, cryptBuffer]
      cases cryptBuffer table taOFFset rest with
      | error fault => rfl
      | ok out => rfl
  | [_] | [_, _] | [_, _, _] | [_, _, _, _] | [_, _, _, _, _] | [_, _, _, _, _, _]
  | [_, _, _, _, _, _, _] => by
      simp [cryptBlocks, cryptBuffer, loop, cryptBlock, readWord, byteAt]

end Blocks

/-- Decryption of a buffer of exactly `BuffLen` bytes. -/
theorem noxCrypt_cryptIn_eq (data : List UInt8) (tabl mode : Nat) :
    noxCrypt_cryptIn data data.length tabl mode = noxCrypt_crypt data tabl mode := by
  unfold noxCrypt_cryptIn noxCrypt_crypt
  cases selectTable tabl with
  | none => rfl
  | some table => simp only [cryptBlocks_eq_cryptBuffer]

theorem noxCrypt_cryptIn_ok_iff {data : List UInt8} {BuffLen mode : Nat}
    (fileType : NoxCryptFileTypes) :
    (∃ result, noxCrypt_cryptIn data BuffLen fileType.value mode = .ok result) ↔
      8 * ((BuffLen + 7) / 8) ≤ data.length := by
  obtain ⟨table, selected⟩ := selectTable_value fileType
  rw [noxCrypt_cryptIn, selected, ← @cryptBlocks_ok_iff table (if mode = 1 then 0x418 else 0x400)]
  constructor
  · rintro ⟨result, run⟩
    obtain ⟨out, blocks, _⟩ := bind_eq_ok.mp run
    exact ⟨out, blocks⟩
  · rintro ⟨out, run⟩
    exact ⟨(0, out), bind_eq_ok.mpr ⟨out, run, rfl⟩⟩

/-- `Load_Thingdb` has room for the last block, whatever the size of the file. -/
theorem loadThingdb_ok (file : List UInt8) : ∃ result, loadThingdb file = .ok result := by
  refine (noxCrypt_cryptIn_ok_iff .thingBin).mpr ?_
  rw [List.length_append, List.length_replicate]
  omega

/-- A file in a buffer of its own size. -/
theorem decryptFile_ok_iff (file : List UInt8) (fileType : NoxCryptFileTypes) :
    (∃ result, decryptFile file 0 fileType = .ok result) ↔ 8 ∣ file.length := by
  rw [decryptFile, noxCrypt_cryptIn_ok_iff, List.length_append, List.length_replicate]
  omega

/-- A buffer of exactly the size of the data is left exactly when it is not made of whole blocks:
for each of the three callers the loop goes on while there is a byte left, and then reads and writes
eight. -/
theorem decrypt_inside_iff (data : List UInt8) (fileType : NoxCryptFileTypes) (mode : Nat) :
    ((∃ result, noxCrypt_cryptIn data data.length fileType.value mode = .ok result) ↔
      8 ∣ data.length) ∧
    ((∃ result, noxBufferDecrypt data fileType = .ok result) ↔ 8 ∣ data.length) ∧
    ((∃ result, modifierBinLoad data = .ok result) ↔ 8 ∣ data.length) := by
  refine ⟨?_, decryptFile_ok_iff data fileType, decryptFile_ok_iff data .modifierBin⟩
  rw [noxCrypt_cryptIn_ok_iff]
  omega

theorem decrypt_inside_not : ¬∀ (data : List UInt8) (fileType : NoxCryptFileTypes),
    ∃ result, noxBufferDecrypt data fileType = .ok result := by
  intro claim
  obtain ⟨result, run⟩ := claim [0x00] .modifierBin
  have outside := (noxCrypt_cryptIn_ok_iff .modifierBin).mp ⟨result, run⟩
  exact absurd outside (by decide)

end NoxServer.Crypt
