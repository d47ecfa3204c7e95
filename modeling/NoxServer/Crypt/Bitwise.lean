import NoxServer.Library.BitStream
import NoxServer.Library.Loops
import NoxServer.Shared.Memory

/-!
`NoxCrypt::EncryptBitwise` and `NoxCrypt::DecryptBitwise` (`NoxCrypt.cpp`), which pack bytes into
seven bits each.

The bits of the first `dataLen - 9` bytes go, seven at a time, into the low bits of the bytes of the
result, each with its eighth bit set. `EncryptBitwise` writes a group when the first bit of the next
one is due, so the last group is never written. `DecryptBitwise` works in place: it reads ahead of
where it writes, and clears what it has read.
-/

namespace NoxServer.Crypt

open BitStream Loops

/-! ### The two loops -/

/-- `dataLen - 0x09`. It wraps around below 9, and such a loop leaves its buffer. -/
def payload (dataLen : Nat) : Except Fault Nat :=
  if dataLen < 9 then .error .outOfBounds else .ok (dataLen - 9)

/-- The variables of `DecryptBitwise`; `bittester` is an index. -/
structure Decrypting where
  data : List UInt8
  bittester : Nat := 0
  val2 : UInt8 := 0
  bitcount : UInt8 := 0
  bitloc : UInt8 := 0

/-- The eighth bit of a byte is left out, and a byte that is done is cleared. -/
def Decrypting.skip (s : Decrypting) : Except Fault Decrypting :=
  let s := if s.bitcount = 7 then { s with bitcount := 0, bitloc := s.bitloc + 1 } else s
  if s.bitloc = 8 then do
    let data ← setByte s.data s.bittester 0
    return { s with data := data, bittester := s.bittester + 1, bitloc := 0 }
  else .ok s

/-- A bit of a byte becomes bit `j` of `val2`. -/
def Decrypting.push (s : Decrypting) (j : Nat) (byte : UInt8) : Decrypting :=
  { s with
    val2 := s.val2 ^^^ (((byte &&& ((1 : UInt8) <<< s.bitloc)) >>> s.bitloc) <<< UInt8.ofNat j)
    bitloc := s.bitloc + 1
    bitcount := s.bitcount + 1 }

/-- The body of the inner loop. -/
def decryptBit (j : Nat) (s : Decrypting) : Except Fault Decrypting := do
  let s ← s.skip
  let byte ← byteAt s.data s.bittester
  return s.push j byte

/-- The body of the outer loop. -/
def decryptByte (i : Nat) (s : Decrypting) : Except Fault Decrypting := do
  let s ← loop decryptBit 8 0 { s with val2 := 0 }
  let data ← setByte s.data i s.val2
  return { s with data := data }

def decryptBitwise (data : List UInt8) (dataLen : Nat) : Except Fault (List UInt8) := do
  let count ← payload dataLen
  let s ← loop decryptByte count 0 { data := data }
  return s.data

/-- The variables of `EncryptBitwise`; `bittester` is an index into `temdata`. -/
structure Encrypting where
  data : List UInt8
  temdata : List UInt8
  bittester : Nat := 0
  val2 : UInt8 := 0
  bitcount : UInt8 := 0
  bitloc : UInt8 := 0
  bitloc2 : UInt8 := 0

def Encrypting.leave (s : Encrypting) : Encrypting :=
  if s.bitloc = 8 then { s with bitloc := 0, bittester := s.bittester + 1 } else s

/-- A group that is done is written. -/
def Encrypting.flush (s : Encrypting) : Except Fault Encrypting :=
  if s.bitloc2 = 7 then do
    let data ← setByte s.data s.bitcount.toNat (s.val2 ^^^ ((1 : UInt8) <<< 7))
    return { s with data := data, bitcount := s.bitcount + 1, val2 := 0, bitloc2 := 0 }
  else .ok s

/-- A bit of a byte becomes the next one of `val2`. -/
def Encrypting.push (s : Encrypting) (byte : UInt8) : Encrypting :=
  { s with
    val2 := s.val2 ^^^ (((byte &&& ((1 : UInt8) <<< s.bitloc)) >>> s.bitloc) <<< s.bitloc2)
    bitloc := s.bitloc + 1
    bitloc2 := s.bitloc2 + 1 }

/-- The body of the inner loop, which is the same for every `j`. -/
def encryptBit (_j : Nat) (s : Encrypting) : Except Fault Encrypting := do
  let s ← s.leave.flush
  let byte ← byteAt s.temdata s.bittester
  return s.push byte

def encryptBitwise (data : List UInt8) (dataLen : Nat) : Except Fault (List UInt8) := do
  let temdata ← copyOf data dataLen
  let count ← payload dataLen
  let s ← loop (fun _ => loop encryptBit 8 0) count 0 { data := data, temdata := temdata }
  return s.data

theorem toNat_succ {x : UInt8} (small : x.toNat < 255) : (x + 1).toNat = x.toNat + 1 := by
  rw [UInt8.toNat_add, UInt8.toNat_one, Nat.mod_eq_of_lt (by omega)]

/-! ### Decoding in place -/

/-- `DecryptBitwise` after `i` bytes and `j` bits of the next one: what is still to be read is as
it was, and the results stay. -/
structure Decrypted (orig : List UInt8) (i j : Nat) (s : Decrypting) : Prop where
  length : s.data.length = orig.length
  bittester : s.bittester = group 7 (8 * i + j)
  bitcount : s.bitcount.toNat = place 7 (8 * i + j)
  bitloc : s.bitloc = s.bitcount
  inside : 8 * i + j ≠ 0 → s.bittester < orig.length
  unread : ∀ k, s.bittester ≤ k → s.data.getD k 0 = orig.getD k 0
  results : ∀ k < i, ∀ b < 8, (s.data.getD k 0).toNat.testBit b = bit 7 orig (8 * k + b)
  val2 : Holds s.val2 j fun b => bit 7 orig (8 * i + b)

/-- The reader is not behind the writer. -/
theorem le_group (i j : Nat) : i ≤ group 7 (8 * i + j) := by
  unfold group
  omega

/-- The reader at the next bit, with the byte that is done cleared. -/
structure Skipped (orig : List UInt8) (i j : Nat) (s s' : Decrypting) : Prop where
  length : s'.data.length = orig.length
  bittester : s'.bittester = (8 * i + j) / 7
  bitcount : s'.bitcount.toNat = (8 * i + j) % 7
  bitloc : s'.bitloc = s'.bitcount
  val2 : s'.val2 = s.val2
  unread : ∀ k, s'.bittester ≤ k → s'.data.getD k 0 = orig.getD k 0
  results : ∀ k < i, s'.data.getD k 0 = s.data.getD k 0

/-- A byte whose seven bits have been read is cleared and the next one is begun, over its eighth
bit. The results so far stay, as they are before it. -/
theorem Decrypted.skip {orig : List UInt8} {i j : Nat} {s : Decrypting}
    (inv : Decrypted orig i j s) : ∃ s', s.skip = .ok s' ∧ Skipped orig i j s s' := by
  have behind := le_group i j
  rw [← inv.bittester] at behind
  rcases due (by decide : 0 < 7) (8 * i + j) with ⟨done, next, first⟩ | ⟨more, here, same⟩
  · have full : s.bitcount = 7 := UInt8.toNat_inj.mp (inv.bitcount.trans done)
    have some : 8 * i + j ≠ 0 := by
      intro none
      rw [none] at done
      cases done
    have inside : s.bittester < s.data.length := inv.length ▸ inv.inside some
    let cleared : Decrypting := { s with
      data := s.data.set s.bittester 0
      bittester := s.bittester + 1
      bitcount := 0
      bitloc := 0 }
    refine ⟨cleared, ?_, ?_⟩
    · simp [Decrypting.skip, full, inv.bitloc, setByte_of_lt inside]
      rfl
    · exact {
        length := List.length_set.trans inv.length
        bittester := (congrArg (· + 1) inv.bittester).trans next.symm
        bitcount := first.symm
        bitloc := rfl
        val2 := rfl
        unread := fun k le => (getD_set_of_ne (Nat.ne_of_lt le) _ _).trans
          (inv.unread k (Nat.le_of_succ_le le))
        results := fun k lt => getD_set_of_ne (Nat.ne_of_gt (Nat.lt_of_lt_of_le lt behind)) _ _ }
  · have notFull : s.bitcount ≠ 7 := by
      intro full
      have value := inv.bitcount
      rw [full] at value
      exact absurd (value.trans_lt more) (by decide)
    have notEight : s.bitloc ≠ 8 := by
      intro eight
      have value := inv.bitcount
      rw [← inv.bitloc, eight] at value
      exact absurd (value.trans_lt more) (by decide)
    refine ⟨s, ?_, ?_⟩
    · simp [Decrypting.skip, notFull, notEight]
    · exact {
        length := inv.length
        bittester := inv.bittester.trans here.symm
        bitcount := inv.bitcount.trans same.symm
        bitloc := inv.bitloc
        val2 := rfl
        unread := inv.unread
        results := fun _ _ => rfl }

/-- One bit is read. -/
theorem Decrypted.step {orig : List UInt8} {i j : Nat} {s : Decrypting}
    (inv : Decrypted orig i j s) (small : j < 8) (inside : (8 * i + j) / 7 < orig.length) :
    ∃ s', decryptBit j s = .ok s' ∧ Decrypted orig i (j + 1) s' := by
  obtain ⟨m, skip, skipped⟩ := inv.skip
  have here : m.bittester < m.data.length := by
    rw [skipped.bittester, skipped.length]
    exact inside
  have loc : m.bitloc.toNat = (8 * i + j) % 7 := skipped.bitloc ▸ skipped.bitcount
  have less : m.bitloc.toNat < 7 := loc ▸ Nat.mod_lt _ (by decide)
  have place : (UInt8.ofNat j).toNat = j :=
    UInt8.toNat_ofNat_of_lt' (small.trans (by decide))
  refine ⟨m.push j (m.data.getD m.bittester 0), ?_, ?_⟩
  · rw [decryptBit, skip, ok_bind, byteAt_of_lt here]
    rfl
  · have later : 8 * i + (j + 1) = 8 * i + j + 1 := rfl
    exact {
      length := skipped.length
      bittester := by
        rw [later, group_succ]
        exact skipped.bittester
      bitcount := by
        have value := skipped.bitcount
        rw [later, place_succ, ← value]
        exact toNat_succ (by omega)
      bitloc := congrArg (· + 1) skipped.bitloc
      inside := fun _ => skipped.bittester ▸ inside
      unread := skipped.unread
      results := by
        intro k lt b bound
        rw [← inv.results k lt b bound]
        exact congrArg (fun byte : UInt8 => byte.toNat.testBit b) (skipped.results k lt)
      val2 := by
        have holds : Holds m.val2 j fun b => bit 7 orig (8 * i + b) := skipped.val2 ▸ inv.val2
        refine holds.push (by omega) (by omega) place ?_
        rw [skipped.unread m.bittester (Nat.le_refl _), skipped.bittester, loc]
        rfl }

/-- A bit beyond the buffer is not read. -/
theorem Decrypted.inside_of_ok {orig : List UInt8} {i j : Nat} {s s' : Decrypting}
    (inv : Decrypted orig i j s) (run : decryptBit j s = .ok s') :
    (8 * i + j) / 7 < orig.length := by
  obtain ⟨m, skip, skipped⟩ := inv.skip
  rw [decryptBit, skip, ok_bind] at run
  obtain ⟨byte, read, _⟩ := bind_eq_ok.mp run
  have inside := byteAt_eq_ok read
  rwa [skipped.bittester, skipped.length] at inside

theorem Decrypted.start {orig : List UInt8} : Decrypted orig 0 0 { data := orig } where
  length := rfl
  bittester := rfl
  bitcount := rfl
  bitloc := rfl
  inside := nofun
  unread := fun _ _ => rfl
  results := nofun
  val2 := holds_zero _

/-- A byte that is whole is written where nothing is still to be read. -/
theorem Decrypted.write {orig : List UInt8} {i : Nat} {s : Decrypting}
    (inv : Decrypted orig i 8 s) :
    i < s.data.length ∧
      Decrypted orig (i + 1) 0 { s with data := s.data.set i s.val2, val2 := 0 } := by
  have ahead : i < s.bittester := by
    rw [inv.bittester]
    unfold group
    omega
  have inside : i < s.data.length := by
    rw [inv.length]
    exact ahead.trans (inv.inside (by omega))
  refine ⟨inside, ?_⟩
  exact {
    length := List.length_set.trans inv.length
    bittester := inv.bittester
    bitcount := inv.bitcount
    bitloc := inv.bitloc
    inside := inv.inside
    unread := fun k le => (getD_set_of_ne (Nat.ne_of_lt (Nat.lt_of_lt_of_le ahead le)) _ _).trans
      (inv.unread k le)
    results := by
      intro k lt b bound
      by_cases here : k = i
      · subst here
        show (((s.data.set k s.val2).getD k 0).toNat).testBit b = _
        rw [getD_set_self inside, inv.val2 b]
        simp [bound]
      · show (((s.data.set i s.val2).getD k 0).toNat).testBit b = _
        rw [getD_set_of_ne (Ne.symm here)]
        exact inv.results k (by omega) b bound
    val2 := holds_zero _ }

/-- A byte is decoded. -/
theorem Decrypted.byte {orig : List UInt8} {i : Nat} {s : Decrypting}
    (inv : Decrypted orig i 0 { s with val2 := 0 })
    (inside : ∀ j < 8, (8 * i + j) / 7 < orig.length) :
    ∃ s', decryptByte i s = .ok s' ∧ Decrypted orig (i + 1) 0 { s' with val2 := 0 } := by
  have bits : ∃ m, loop decryptBit 8 0 { s with val2 := 0 } = .ok m ∧ Decrypted orig i 8 m :=
    loop_total inv fun j s _ lt inv => inv.step (by omega) (inside j (by omega))
  obtain ⟨m, read, whole⟩ := bits
  obtain ⟨here, written⟩ := whole.write
  refine ⟨{ m with data := m.data.set i m.val2 }, ?_, written⟩
  rw [decryptByte, read, ok_bind, setByte_of_lt here]
  rfl

/-- A byte has been decoded, so its bits lie in the buffer. -/
theorem Decrypted.byte_of_ok {orig : List UInt8} {i : Nat} {s s' : Decrypting}
    (inv : Decrypted orig i 0 { s with val2 := 0 }) (run : decryptByte i s = .ok s') :
    Decrypted orig (i + 1) 0 { s' with val2 := 0 } := by
  obtain ⟨m, read, written⟩ := bind_eq_ok.mp run
  have whole : Decrypted orig i 8 m := by
    refine loop_partial (P := Decrypted orig i) inv read fun j s t _ lt inv run => ?_
    obtain ⟨t', run', kept⟩ := inv.step (by omega) (inv.inside_of_ok run)
    rw [run] at run'
    cases run'
    exact kept
  obtain ⟨here, final⟩ := whole.write
  rw [setByte_of_lt here, ok_bind] at written
  cases written
  exact final

/-- The first `count` bytes are decoded if their bits lie in the buffer. -/
theorem decryptBytes {orig : List UInt8} {count : Nat}
    (inside : ∀ k < 8 * count, k / 7 < orig.length) :
    ∃ s, loop decryptByte count 0 { data := orig } = .ok s ∧
      Decrypted orig count 0 { s with val2 := 0 } := by
  have decoded : ∃ s, loop decryptByte count 0 { data := orig } = .ok s ∧
      Decrypted orig (0 + count) 0 { s with val2 := 0 } :=
    loop_total (P := fun i (s : Decrypting) => Decrypted orig i 0 { s with val2 := 0 })
      Decrypted.start
      fun i s _ lt inv => inv.byte fun j small => inside _ (by omega)
  rwa [Nat.zero_add] at decoded

theorem decryptBytes_of_ok {orig : List UInt8} {count : Nat} {s : Decrypting}
    (run : loop decryptByte count 0 { data := orig } = .ok s) :
    Decrypted orig count 0 { s with val2 := 0 } := by
  have decoded :=
    loop_partial (P := fun i (s : Decrypting) => Decrypted orig i 0 { s with val2 := 0 })
      Decrypted.start run fun i s t _ _ inv run => inv.byte_of_ok run
  rwa [Nat.zero_add] at decoded

theorem payload_of_le {dataLen : Nat} (le : 9 ≤ dataLen) : payload dataLen = .ok (dataLen - 9) :=
  if_neg (Nat.not_lt.mpr le)

theorem decryptBitwise_eq_ok {data out : List UInt8} {dataLen : Nat} (le : 9 ≤ dataLen) :
    decryptBitwise data dataLen = .ok out ↔
      ∃ s, loop decryptByte (dataLen - 9) 0 { data := data } = .ok s ∧ s.data = out := by
  rw [decryptBitwise, payload_of_le le, ok_bind, bind_eq_ok]
  exact exists_congr fun s => and_congr_right fun _ => Iff.of_eq (Except.ok.injEq _ _)

/-- A result is decoded if the bits it is made of lie in the buffer. -/
theorem decryptBitwise_of_inside {data : List UInt8} {dataLen : Nat} (le : 9 ≤ dataLen)
    (inside : ∀ k < 8 * (dataLen - 9), k / 7 < data.length) :
    ∃ out, decryptBitwise data dataLen = .ok out ∧ out.length = data.length ∧
      ∀ i < dataLen - 9, ∀ b < 8, (out.getD i 0).toNat.testBit b = bit 7 data (8 * i + b) := by
  obtain ⟨s, run, inv⟩ := decryptBytes inside
  exact ⟨s.data, (decryptBitwise_eq_ok le).mpr ⟨s, run, rfl⟩, inv.length, inv.results⟩

/-- Byte `i` of the result is made of bits `8 i` to `8 i + 7` of the stream of the original bytes'
low seven bits. After any number of bytes, those still to be read are as they were and those
written are as they stay. -/
theorem decryptBitwise_eq_stream {data : List UInt8} {dataLen : Nat} (le : 9 ≤ dataLen)
    (room : 8 * (dataLen - 9) / 7 + 1 ≤ data.length) :
    ∃ out, decryptBitwise data dataLen = .ok out ∧ out.length = data.length ∧
      (∀ i < dataLen - 9, ∀ b < 8,
        (out.getD i 0).toNat.testBit b = bit 7 data (8 * i + b)) ∧
      ∀ m ≤ dataLen - 9, ∃ s, loop decryptByte m 0 { data := data } = .ok s ∧
        (∀ k, group 7 (8 * m) ≤ k → s.data.getD k 0 = data.getD k 0) ∧
        ∀ i < m, s.data.getD i 0 = out.getD i 0 := by
  have inside : ∀ k < 8 * (dataLen - 9), k / 7 < data.length := by
    intro k lt
    omega
  obtain ⟨out, run, length, results⟩ := decryptBitwise_of_inside le inside
  refine ⟨out, run, length, results, fun m few => ?_⟩
  have begun : ∀ k < 8 * m, k / 7 < data.length := fun k lt => inside k (by omega)
  obtain ⟨t, run, part⟩ := decryptBytes begun
  refine ⟨t, run, fun k ahead => part.unread k (part.bittester ▸ ahead), fun i lt => ?_⟩
  refine eq_of_testBit fun b small => ?_
  have done := part.results i lt b small
  have last := results i (Nat.lt_of_lt_of_le lt few) b small
  exact done.trans last.symm

theorem decryptBitwise_sixteen :
    ∃ out, decryptBitwise (List.replicate 9 0xD5) 16 = .ok out ∧ out.length = 9 ∧
      (∀ i < 7, ∀ b < 8,
        (out.getD i 0).toNat.testBit b = bit 7 (List.replicate 9 0xD5) (8 * i + b)) ∧
      ∀ m ≤ 7, ∃ s, loop decryptByte m 0 { data := List.replicate 9 0xD5 } = .ok s ∧
        (∀ k, group 7 (8 * m) ≤ k → s.data.getD k 0 = (List.replicate 9 0xD5).getD k 0) ∧
        ∀ i < m, s.data.getD i 0 = out.getD i 0 :=
  decryptBitwise_eq_stream (by decide) (by decide)

/-! ### Encoding -/

/-- `EncryptBitwise` after `k` bits of the copy `tem`: the groups that are done have been written,
each with its eighth bit set, and nothing else. -/
structure Encrypted (orig tem : List UInt8) (k : Nat) (s : Encrypting) : Prop where
  temdata : s.temdata = tem
  length : s.data.length = orig.length
  bittester : s.bittester = group 8 k
  bitloc : s.bitloc.toNat = place 8 k
  bitcount : s.bitcount = UInt8.ofNat (group 7 k)
  bitloc2 : s.bitloc2.toNat = place 7 k
  unwritten : ∀ g, group 7 k ≤ g → s.data.getD g 0 = orig.getD g 0
  written : ∀ g < group 7 k, (s.data.getD g 0).toNat.testBit 7 = true ∧
    ∀ b < 7, (s.data.getD g 0).toNat.testBit b = bit 8 tem (7 * g + b)
  val2 : Holds s.val2 (place 7 k) fun b => bit 8 tem (7 * group 7 k + b)

/-- The eighth bit of a group is set. -/
theorem testBit_flag {v : UInt8} {f : Nat → Bool} (holds : Holds v 7 f) :
    (v ^^^ ((1 : UInt8) <<< 7)).toNat.testBit 7 = true ∧
      ∀ b < 7, (v ^^^ ((1 : UInt8) <<< 7)).toNat.testBit b = f b := by
  have flag : ((1 : UInt8) <<< 7).toNat = 2 ^ 7 := by decide
  rw [UInt8.toNat_xor, flag]
  constructor
  · rw [Nat.testBit_xor, holds 7, Nat.testBit_two_pow_self]
    simp
  · intro b small
    rw [Nat.testBit_xor, holds b, Nat.testBit_two_pow_of_ne (Nat.ne_of_gt small)]
    simp [small]

/-- The reader is at the next bit. -/
theorem Encrypted.leave {orig tem : List UInt8} {k : Nat} {s : Encrypting}
    (inv : Encrypted orig tem k s) :
    s.leave = { s with bittester := k / 8, bitloc := UInt8.ofNat (k % 8) } := by
  have value := inv.bitloc
  rcases due (by decide : 0 < 8) k with ⟨done, next, first⟩ | ⟨more, here, same⟩
  · have full : s.bitloc = 8 := UInt8.toNat_inj.mp (value.trans done)
    rw [Encrypting.leave, if_pos full, next, first, inv.bittester]
    rfl
  · have notFull : s.bitloc ≠ 8 := by
      intro full
      rw [full] at value
      exact absurd (value.trans_lt more) (by decide)
    have loc : s.bitloc = UInt8.ofNat (k % 8) := by
      rw [same, ← value, UInt8.ofNat_toNat]
    rw [Encrypting.leave, if_neg notFull, here, ← inv.bittester, ← loc]

/-- The writer with room for the next bit. -/
structure Flushed (orig tem : List UInt8) (k : Nat) (s : Encrypting) : Prop where
  length : s.data.length = orig.length
  bitcount : s.bitcount = UInt8.ofNat (k / 7)
  bitloc2 : s.bitloc2.toNat = k % 7
  unwritten : ∀ g, k / 7 ≤ g → s.data.getD g 0 = orig.getD g 0
  written : ∀ g < k / 7, (s.data.getD g 0).toNat.testBit 7 = true ∧
    ∀ b < 7, (s.data.getD g 0).toNat.testBit b = bit 8 tem (7 * g + b)
  val2 : Holds s.val2 (k % 7) fun b => bit 8 tem (7 * (k / 7) + b)

/-- A group whose seven bits are there is written with the eighth bit set, and the writer is empty
again; otherwise it stays as it is. Either way it has room for the next bit. -/
theorem Encrypted.flush {orig tem : List UInt8} {k : Nat} {s : Encrypting}
    (inv : Encrypted orig tem k s) (room : k / 7 ≤ orig.length) (few : k / 7 ≤ 256)
    (bittester : Nat) (bitloc : UInt8) :
    ∃ s', { s with bittester := bittester, bitloc := bitloc : Encrypting }.flush = .ok s' ∧
      Flushed orig tem k s' ∧ s'.temdata = s.temdata ∧ s'.bittester = bittester ∧
      s'.bitloc = bitloc := by
  have value := inv.bitloc2
  rcases due (by decide : 0 < 7) k with ⟨done, next, first⟩ | ⟨more, here, same⟩
  · have full : s.bitloc2 = 7 := UInt8.toNat_inj.mp (value.trans done)
    let g := group 7 k
    have slot : s.bitcount.toNat = g := by
      rw [inv.bitcount]
      exact UInt8.toNat_ofNat_of_lt' (by show g < 256; omega)
    have inside : g < s.data.length := by
      rw [inv.length]
      omega
    let byte := s.val2 ^^^ ((1 : UInt8) <<< 7)
    let written : Encrypting := { s with
      data := s.data.set g byte
      bittester := bittester
      bitcount := s.bitcount + 1
      val2 := 0
      bitloc := bitloc
      bitloc2 := 0 }
    refine ⟨written, ?_, ?_, rfl, rfl, rfl⟩
    · rw [Encrypting.flush, if_pos full]
      dsimp only
      rw [slot, setByte_of_lt inside]
      rfl
    · exact {
        length := List.length_set.trans inv.length
        bitcount := by
          show s.bitcount + 1 = _
          rw [next, inv.bitcount]
          exact (UInt8.ofNat_add _ 1).symm
        bitloc2 := first.symm
        unwritten := fun i le => by
          rw [next] at le
          exact (getD_set_of_ne (Nat.ne_of_lt le) _ _).trans
            (inv.unwritten i (Nat.le_of_succ_le le))
        written := by
          intro i lt
          rw [next] at lt
          have holds := done ▸ inv.val2
          rcases Nat.lt_succ_iff_lt_or_eq.mp lt with before | rfl
          · have same : written.data.getD i 0 = s.data.getD i 0 :=
              getD_set_of_ne (Nat.ne_of_gt before) _ _
            rw [same]
            exact inv.written i before
          · have same : written.data.getD g 0 = byte := getD_set_self inside _
            rw [same]
            exact testBit_flag holds
        val2 := by
          rw [first]
          exact holds_zero _ }
  · have notFull : s.bitloc2 ≠ 7 := by
      intro full
      rw [full] at value
      exact absurd (value.trans_lt more) (by decide)
    refine ⟨{ s with bittester := bittester, bitloc := bitloc }, if_neg notFull, ?_, rfl, rfl, rfl⟩
    exact {
      length := inv.length
      bitcount := here ▸ inv.bitcount
      bitloc2 := same ▸ inv.bitloc2
      unwritten := here ▸ inv.unwritten
      written := here ▸ inv.written
      val2 := by
        rw [here, same]
        exact inv.val2 }

/-- One bit is copied. -/
theorem Encrypted.step {orig tem : List UInt8} {k : Nat} {s : Encrypting}
    (inv : Encrypted orig tem k s) (inside : k / 8 < tem.length) (room : k / 7 ≤ orig.length)
    (few : k / 7 ≤ 256) (j : Nat) :
    ∃ s', encryptBit j s = .ok s' ∧ Encrypted orig tem (k + 1) s' := by
  obtain ⟨m, flushed, ready, temdata, bittester, bitloc⟩ :=
    inv.flush room few (k / 8) (UInt8.ofNat (k % 8))
  have tem_eq : m.temdata = tem := temdata.trans inv.temdata
  have here : m.bittester < m.temdata.length := by
    rw [bittester, tem_eq]
    exact inside
  have loc : m.bitloc.toNat = k % 8 := by
    rw [bitloc]
    exact UInt8.toNat_ofNat_of_lt' ((Nat.mod_lt k (by decide)).trans (by decide))
  have loc2 := ready.bitloc2
  refine ⟨m.push (m.temdata.getD m.bittester 0), ?_, ?_⟩
  · rw [encryptBit, inv.leave, flushed, ok_bind, byteAt_of_lt here]
    rfl
  · exact {
      temdata := tem_eq
      length := ready.length
      bittester := bittester
      bitloc := by
        rw [place_succ, ← loc]
        exact toNat_succ (by omega)
      bitcount := ready.bitcount
      bitloc2 := by
        rw [place_succ, ← loc2]
        exact toNat_succ (by omega)
      unwritten := ready.unwritten
      written := ready.written
      val2 := by
        rw [place_succ, group_succ]
        refine ready.val2.push (by omega) (by omega) loc2 ?_
        rw [Nat.div_add_mod, tem_eq, bittester, loc]
        rfl }

theorem encrypted_start {orig tem : List UInt8} :
    Encrypted orig tem 0 { data := orig, temdata := tem } where
  temdata := rfl
  length := rfl
  bittester := rfl
  bitloc := rfl
  bitcount := rfl
  bitloc2 := rfl
  unwritten := fun _ _ => rfl
  written := nofun
  val2 := holds_zero _

/-- The first `count` bytes are encoded. -/
theorem encryptBytes {orig tem : List UInt8} {count : Nat} (inside : count ≤ tem.length)
    (room : ∀ k < 8 * count, k / 7 ≤ orig.length ∧ k / 7 ≤ 256) :
    ∃ s, loop (fun _ => loop encryptBit 8 0) count 0 { data := orig, temdata := tem } = .ok s ∧
      Encrypted orig tem (8 * count) s := by
  have encoded : ∃ s,
      loop (fun _ => loop encryptBit 8 0) count 0 { data := orig, temdata := tem } = .ok s ∧
        Encrypted orig tem (8 * (0 + count)) s := by
    refine loop_total (P := fun i s => Encrypted orig tem (8 * i) s) encrypted_start
      fun i s _ lt inv => ?_
    refine loop_total (P := fun j s => Encrypted orig tem (8 * i + j) s) inv
      fun j s _ lt' inv => ?_
    have bound := room (8 * i + j) (by omega)
    exact inv.step (by omega) bound.1 bound.2 j
  rwa [Nat.zero_add] at encoded

/-- The groups that `EncryptBitwise` writes: all but the last. -/
def groups (count : Nat) : Nat := (8 * count - 1) / 7

/-- Bytes that are copied give the same stream. -/
theorem bit_take {data : List UInt8} {n k : Nat} (inside : k / 8 < n) :
    bit 8 (data.take n) k = bit 8 data k := by
  rw [bit, bit, List.getD_eq_getElem?_getD, List.getElem?_take_of_lt inside,
    ← List.getD_eq_getElem?_getD]

/-- The groups that are written have their eighth bit set and seven bits of the stream of the first
`dataLen - 9` bytes, and nothing else is written. -/
theorem encryptBitwise_eq_stream {data : List UInt8} {dataLen : Nat} (le : 10 ≤ dataLen)
    (few : groups (dataLen - 9) ≤ 256) (size : dataLen ≤ data.length)
    (room : groups (dataLen - 9) ≤ data.length) :
    ∃ out, encryptBitwise data dataLen = .ok out ∧ out.length = data.length ∧
      (∀ k < groups (dataLen - 9), (out.getD k 0).toNat.testBit 7 = true ∧
        ∀ b < 7, (out.getD k 0).toNat.testBit b = bit 8 data (7 * k + b)) ∧
      ∀ k, groups (dataLen - 9) ≤ k → out.getD k 0 = data.getD k 0 := by
  unfold groups at few room ⊢
  have copied : dataLen - 9 ≤ (data.take dataLen).length := by
    rw [List.length_take]
    omega
  have written : ∀ k < 8 * (dataLen - 9), k / 7 ≤ data.length ∧ k / 7 ≤ 256 := by
    intro k lt
    omega
  obtain ⟨s, run, inv⟩ := encryptBytes copied written
  refine ⟨s.data, ?_, inv.length, fun k lt => ?_, inv.unwritten⟩
  · rw [encryptBitwise, copyOf, if_pos size, ok_bind, payload_of_le (by omega), ok_bind, run]
    rfl
  · obtain ⟨flag, bits⟩ := inv.written k lt
    refine ⟨flag, fun b small => (bits b small).trans (bit_take ?_)⟩
    omega

/-! ### Encoding and decoding -/

theorem encryptBit_length {j : Nat} {s t : Encrypting} (run : encryptBit j s = .ok t) :
    t.data.length = s.data.length := by
  have left : s.leave.data = s.data := by
    unfold Encrypting.leave
    split
    · rfl
    · rfl
  obtain ⟨m, flushed, read⟩ := bind_eq_ok.mp run
  obtain ⟨byte, _, pushed⟩ := bind_eq_ok.mp read
  cases pushed
  show m.data.length = s.data.length
  rw [← left]
  unfold Encrypting.flush at flushed
  split at flushed
  · obtain ⟨data, set, done⟩ := bind_eq_ok.mp flushed
    cases done
    exact setByte_length set
  · cases flushed
    rfl

/-- Encoding does not change the size of the buffer. -/
theorem encryptBitwise_length {data out : List UInt8} {dataLen : Nat}
    (run : encryptBitwise data dataLen = .ok out) : out.length = data.length := by
  obtain ⟨tem, _, run⟩ := bind_eq_ok.mp run
  obtain ⟨count, _, run⟩ := bind_eq_ok.mp run
  obtain ⟨s, encoded, done⟩ := bind_eq_ok.mp run
  cases done
  refine loop_partial (P := fun _ (s : Encrypting) => s.data.length = data.length) rfl encoded
    fun _ _ _ _ _ same run => ?_
  refine loop_partial (P := fun _ (s : Encrypting) => s.data.length = data.length) same run
    fun _ _ _ _ _ same run => ?_
  exact (encryptBit_length run).trans same

/-- Encoding and decoding a buffer stay in it and restore the bytes that are encoded. -/
def RoundTrips (data : List UInt8) (dataLen : Nat) : Prop :=
  ∃ encoded decoded, encryptBitwise data dataLen = .ok encoded ∧
    decryptBitwise encoded dataLen = .ok decoded ∧
      decoded.take (dataLen - 9) = data.take (dataLen - 9)

/-- The bits of the last group, which is not written, agree with the byte that is read for it. -/
def LastGroup (data : List UInt8) (dataLen : Nat) : Prop :=
  ∀ b < 8 * (dataLen - 9) - 7 * groups (dataLen - 9),
    (data.getD (groups (dataLen - 9)) 0).toNat.testBit b =
      bit 8 data (7 * groups (dataLen - 9) + b)

/-- The first bytes are the same exactly if all their bits are. -/
theorem take_eq_take_iff {data out : List UInt8} {count : Nat} (length : out.length = data.length)
    (inside : count ≤ data.length) :
    out.take count = data.take count ↔ ∀ i < count, ∀ b < 8,
      (out.getD i 0).toNat.testBit b = bit 8 data (8 * i + b) := by
  constructor
  · intro same i lt b small
    rw [bit_eq small]
    have here := congrArg (fun bytes : List UInt8 => bytes.getD i 0) same
    simp only [List.getD_eq_getElem?_getD, List.getElem?_take_of_lt lt] at here
    rw [List.getD_eq_getElem?_getD, List.getD_eq_getElem?_getD, here]
  · intro same
    refine List.ext_getElem? fun i => ?_
    by_cases lt : i < count
    · rw [List.getElem?_take_of_lt lt, List.getElem?_take_of_lt lt]
      have bits := fun b small => (same i lt b small).trans (bit_eq small data)
      have bytes := eq_of_testBit bits
      rw [List.getD_eq_getElem _ _ (by omega), List.getD_eq_getElem _ _ (by omega)] at bytes
      rw [List.getElem?_eq_getElem (by omega), List.getElem?_eq_getElem (by omega), bytes]
    · rw [List.getElem?_eq_none, List.getElem?_eq_none]
      · exact (List.length_take_le count data).trans (Nat.not_lt.mp lt)
      · exact (List.length_take_le count out).trans (Nat.not_lt.mp lt)

/-- The stream that is decoded is the one that was encoded, up to the last group. -/
theorem bit_encoded {data encoded : List UInt8} {last : Nat}
    (written : ∀ g < last, ∀ b < 7, (encoded.getD g 0).toNat.testBit b = bit 8 data (7 * g + b))
    (unwritten : encoded.getD last 0 = data.getD last 0) {k : Nat} (near : k < 7 * last + 7) :
    bit 7 encoded k =
      if k < 7 * last then bit 8 data k else (data.getD last 0).toNat.testBit (k - 7 * last) := by
  split
  · next before =>
      have split := Nat.div_add_mod k 7
      conv => lhs; rw [← split, bit_eq (Nat.mod_lt k (by decide)),
        written (k / 7) (by omega) (k % 7) (Nat.mod_lt k (by decide)), split]
  · next after =>
      have split : 7 * last + (k - 7 * last) = k := by omega
      conv => lhs; rw [← split, bit_eq (by omega), unwritten]

/-- A round trip restores the bytes exactly when it stays in the buffer, which it does up to 72
bytes, and the last group happens to be there: it is never written, so its bits are those that byte
of the buffer had before. -/
theorem roundTrips_iff {data : List UInt8} {dataLen : Nat} (le : 10 ≤ dataLen)
    (size : data.length = dataLen) :
    RoundTrips data dataLen ↔ dataLen ≤ 72 ∧ LastGroup data dataLen := by
  have stays : RoundTrips data dataLen → dataLen ≤ 72 := by
    rintro ⟨encoded, decoded, encode, decode, _⟩
    obtain ⟨s, run, _⟩ := (decryptBitwise_eq_ok (by omega)).mp decode
    have inv := decryptBytes_of_ok run
    have inside := inv.inside (by omega)
    rw [inv.bittester, encryptBitwise_length encode, size] at inside
    have last : group 7 (8 * (dataLen - 9) + 0) < dataLen := inside
    unfold group at last
    omega
  have restores : dataLen ≤ 72 → (RoundTrips data dataLen ↔ LastGroup data dataLen) := by
    intro small
    have bound : 7 * groups (dataLen - 9) < 8 * (dataLen - 9) ∧
        8 * (dataLen - 9) ≤ 7 * groups (dataLen - 9) + 7 ∧ groups (dataLen - 9) < dataLen := by
      unfold groups
      omega
    unfold LastGroup
    generalize groups_eq : groups (dataLen - 9) = last at bound ⊢
    generalize count_eq : dataLen - 9 = count at bound ⊢
    obtain ⟨encoded, encode, length, written, unwritten⟩ := encryptBitwise_eq_stream le
      (by omega) (Nat.le_of_eq size.symm) (by omega)
    rw [groups_eq] at written unwritten
    have inside : ∀ k < 8 * (dataLen - 9), k / 7 < encoded.length := by
      intro k lt
      omega
    obtain ⟨decoded, decode, length', results⟩ :=
      decryptBitwise_of_inside (Nat.le_of_succ_le le) inside
    rw [count_eq] at results
    have stream {k : Nat} (lt : k < 8 * count) := bit_encoded (k := k)
      (fun g lt b small => (written g lt).2 b small) (unwritten last (Nat.le_refl last)) (by omega)
    have taken := take_eq_take_iff (length'.trans length) (by omega : count ≤ data.length)
    have trips : RoundTrips data dataLen ↔ decoded.take count = data.take count := by
      rw [RoundTrips, count_eq]
      constructor
      · rintro ⟨encoded', decoded', encode', decode', same⟩
        cases encode.symm.trans encode'
        cases decode.symm.trans decode'
        exact same
      · exact fun same => ⟨encoded, decoded, encode, decode, same⟩
    rw [trips, taken]
    constructor
    · intro same b few
      have k_lt : 7 * last + b < 8 * count := by omega
      have split := Nat.div_add_mod (7 * last + b) 8
      have here := same ((7 * last + b) / 8) (by omega) ((7 * last + b) % 8)
        (Nat.mod_lt _ (by decide))
      rw [results _ (by omega) _ (Nat.mod_lt _ (by decide)), split, stream k_lt,
        if_neg (by omega), Nat.add_sub_cancel_left] at here
      exact here
    · intro agree i lt b small
      rw [results i lt b small, stream (by omega)]
      split
      · rfl
      · next after =>
          have here := agree (8 * i + b - 7 * last) (by omega)
          rw [here]
          exact congrArg (bit 8 data) (by omega)
  constructor
  · exact fun trips => ⟨stays trips, (restores (stays trips)).mp trips⟩
  · exact fun ⟨small, last⟩ => (restores small).mpr last

theorem roundTrips_sixteen : RoundTrips (List.replicate 16 0x5A) 16 ↔
    16 ≤ 72 ∧ LastGroup (List.replicate 16 0x5A) 16 :=
  roundTrips_iff (by decide) (by decide)

/-- The eighth bit of a single byte is lost. -/
theorem roundTrips_not : ¬∀ (data : List UInt8) (dataLen : Nat), 10 ≤ dataLen →
    data.length = dataLen → RoundTrips data dataLen := by
  intro claim
  obtain ⟨encoded, decoded, encode, decode, same⟩ :=
    claim (0x80 :: List.replicate 9 0) 10 (by decide) (by decide)
  have packed : encryptBitwise (0x80 :: List.replicate 9 0) 10 =
      .ok (0x80 :: List.replicate 9 0) := by decide
  have unpacked : decryptBitwise (0x80 :: List.replicate 9 0) 10 =
      .ok (List.replicate 10 0) := by decide
  cases packed.symm.trans encode
  cases unpacked.symm.trans decode
  exact absurd same (by decide)

end NoxServer.Crypt
