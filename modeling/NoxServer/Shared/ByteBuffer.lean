import Mathlib.Algebra.Ring.Nat
import NoxServer.Library.Consume
import NoxServer.Shared.Errors

/-!
`ByteBuffer` (`shared/ByteBuffer.h`): a byte vector with a read and a write position.

Reads and writes check their range with `ASSERT`. The class declares an `error` type,
and callers set up handlers for it, but nothing in the class throws it: a read that
does not fit is a failed assertion. The server is a program of 32 bits, and the check of a
read adds in a `size_t`: where that wraps, the check passes and the bytes read are outside the
vector.
-/

namespace NoxServer

structure ByteBuffer where
  rpos : Nat := 0
  wpos : Nat := 0
  storage : List UInt8 := []
  deriving DecidableEq, Repr

/-- A computation that reads a buffer and may stop the server. -/
abbrev Reader := StateT ByteBuffer (Except Fault)

namespace ByteBuffer

def size (b : ByteBuffer) : Nat := b.storage.length

def clear (_ : ByteBuffer) : ByteBuffer := {}

/-- The size from which `append` refuses to grow a buffer. -/
def appendLimit : Nat := 10000000

/-- `append(src, cnt)`: the vector grows to hold the bytes and they are copied in at the
write position. -/
def append (b : ByteBuffer) (src : List UInt8) : Except Fault ByteBuffer :=
  if src = [] then .ok b
  else if ¬ b.size < appendLimit then .error .assertion
  else
    let grown := b.storage ++ List.replicate (b.wpos + src.length - b.size) 0
    .ok { b with
      storage := grown.take b.wpos ++ src ++ grown.drop (b.wpos + src.length)
      wpos := b.wpos + src.length }

/-- A number as a `size_t`. -/
def sizeT (n : Nat) : Nat := n % 0x100000000

/-- `read(dest, len)`: the check, and then the copy. -/
def read (len : Nat) : Reader (List UInt8) := fun b =>
  if len = 0 then .ok ([], b)
  else if b.size < sizeT (b.rpos + len) then .error .assertion
  else if b.size < b.rpos + len then .error .outOfBounds
  else .ok ((b.storage.drop b.rpos).take len, { b with rpos := b.rpos + len })

/-- The bytes `operator<<` appends for a number of `count` bytes, low byte first. -/
def toBytes : Nat → Nat → List UInt8
  | 0, _ => []
  | count + 1, value => UInt8.ofNat value :: toBytes count (value / 256)

/-- The number whose bytes are given, low byte first. -/
def fromBytes : List UInt8 → Nat
  | [] => 0
  | byte :: bytes => byte.toNat + 256 * fromBytes bytes

def readUInt8 : Reader UInt8 := do
  let bytes ← read 1
  return UInt8.ofNat (fromBytes bytes)

def readUInt16 : Reader UInt16 := do
  let bytes ← read 2
  return UInt16.ofNat (fromBytes bytes)

def readUInt32 : Reader UInt32 := do
  let bytes ← read 4
  return UInt32.ofNat (fromBytes bytes)

def getRpos : Reader Nat := do
  let b ← get
  return b.rpos

/-- `rpos(rpos)`: the position is not checked. -/
def setRpos (rpos : Nat) : Reader Unit := modify fun b => { b with rpos := rpos }

/-- `rpos(rpos() + count)`. -/
def skip (count : Nat) : Reader Unit := modify fun b => { b with rpos := b.rpos + count }

/-- Reads of numbers of the given sizes, whose values are not used. -/
def readFields : List Nat → Reader Unit
  | [] => pure ()
  | size :: sizes => do
      let _ ← read size
      readFields sizes

/-! ### Numbers as bytes -/

@[simp] theorem length_toBytes (count value : Nat) : (toBytes count value).length = count := by
  induction count generalizing value with
  | zero => rfl
  | succ count ih => simp [toBytes, ih]

theorem fromBytes_toBytes (count value : Nat) :
    fromBytes (toBytes count value) = value % 256 ^ count := by
  induction count generalizing value with
  | zero => simp [toBytes, fromBytes, Nat.mod_one]
  | succ count ih =>
      have byte : (UInt8.ofNat value).toNat = value % 256 := UInt8.toNat_ofNat'
      rw [toBytes, fromBytes, ih, byte, Nat.pow_succ', Nat.mod_mul]

theorem fromBytes_lt (bytes : List UInt8) : fromBytes bytes < 256 ^ bytes.length := by
  induction bytes with
  | nil => simp [fromBytes]
  | cons byte bytes ih =>
      have low := byte.toNat_lt
      rw [fromBytes, List.length_cons, Nat.pow_succ]
      omega

/-! ### What reads take -/

/-- A buffer as it is read. -/
def view : Consume.View ByteBuffer UInt8 where
  data := ByteBuffer.storage
  pos := ByteBuffer.rpos

theorem sizeT_le (n : Nat) : sizeT n ≤ n := Nat.mod_le n _

theorem sizeT_of_lt {n : Nat} (small : n < 0x100000000) : sizeT n = n := Nat.mod_eq_of_lt small

theorem read_eq_ok {len : Nat} {b : ByteBuffer} (positive : 0 < len)
    (room : b.rpos + len ≤ b.size) :
    read len b = .ok ((b.storage.drop b.rpos).take len, { b with rpos := b.rpos + len }) := by
  have checked : ¬b.size < sizeT (b.rpos + len) :=
    Nat.not_lt_of_le (Nat.le_trans (sizeT_le _) room)
  rw [read, if_neg (Nat.pos_iff_ne_zero.mp positive), if_neg checked,
    if_neg (Nat.not_lt_of_le room)]

/-- A read that does not fit fails its check, or passes it and is outside the vector. -/
theorem read_eq_error {len : Nat} {b : ByteBuffer} (positive : 0 < len)
    (short : ¬ b.rpos + len ≤ b.size) :
    ∃ fault, read len b = .error fault ∧ (fault = .assertion ∨ fault = .outOfBounds) := by
  rw [read, if_neg (Nat.pos_iff_ne_zero.mp positive), if_pos (Nat.lt_of_not_le short)]
  split
  · exact ⟨_, rfl, .inl rfl⟩
  · exact ⟨_, rfl, .inr rfl⟩

theorem read_yields (len : Nat) : Consume.Yields view (read len) len fun rest => rest.take len := by
  intro b
  by_cases zero : len = 0
  · subst zero
    exact ⟨rfl, rfl, rfl⟩
  · by_cases fits : b.rpos + len ≤ b.size
    · rw [read_eq_ok (Nat.pos_of_ne_zero zero) fits]
      exact ⟨rfl, rfl, rfl⟩
    · obtain ⟨fault, fails, -⟩ := read_eq_error (Nat.pos_of_ne_zero zero) fits
      rw [fails]
      exact Nat.lt_of_not_le fits

theorem readUInt8_yields :
    Consume.Yields view readUInt8 1 fun rest => UInt8.ofNat (fromBytes (rest.take 1)) :=
  (read_yields 1).bind fun _ => Consume.yields_pure _

/-- A read that completes was within the buffer. -/
theorem read_room {len : Nat} {b b' : ByteBuffer} {bytes : List UInt8} (positive : 0 < len)
    (run : read len b = .ok (bytes, b')) : b.rpos + len ≤ b.size := by
  by_contra short
  obtain ⟨fault, fails, -⟩ := read_eq_error positive short
  rw [fails] at run
  cases run

/-- A read gives as many bytes as it is asked for. -/
theorem length_read {len : Nat} {b b' : ByteBuffer} {bytes : List UInt8}
    (run : read len b = .ok (bytes, b')) : bytes.length = len := by
  rcases Nat.eq_zero_or_pos len with rfl | positive
  · cases run
    rfl
  · have room := read_room positive run
    rw [read_eq_ok positive room] at run
    cases run
    rw [List.length_take, List.length_drop]
    unfold size at room
    omega

theorem readUInt8_eq_ok {b : ByteBuffer} (room : b.rpos + 1 ≤ b.size) :
    readUInt8 b = .ok (UInt8.ofNat (fromBytes ((b.storage.drop b.rpos).take 1)),
      { b with rpos := b.rpos + 1 }) :=
  Consume.run_bind_ok (read_eq_ok Nat.one_pos room)

theorem readUInt8_eq_error {b : ByteBuffer} (short : ¬ b.rpos + 1 ≤ b.size) :
    ∃ fault, readUInt8 b = .error fault := by
  obtain ⟨fault, fails, -⟩ := read_eq_error Nat.one_pos short
  exact ⟨fault, Consume.run_bind_error fails⟩

theorem readUInt16_yields :
    Consume.Yields view readUInt16 2 fun rest => UInt16.ofNat (fromBytes (rest.take 2)) :=
  (read_yields 2).bind fun _ => Consume.yields_pure _

theorem readUInt32_yields :
    Consume.Yields view readUInt32 4 fun rest => UInt32.ofNat (fromBytes (rest.take 4)) :=
  (read_yields 4).bind fun _ => Consume.yields_pure _

theorem getRpos_takes : Consume.Takes view getRpos fun _ => some 0 :=
  Consume.takes_get fun _ => Consume.takes_pure _

theorem skip_yields (count : Nat) : Consume.Yields view (skip count) count fun _ => () :=
  fun _ => ⟨rfl, rfl, rfl⟩

theorem readFields_yields (sizes : List Nat) :
    Consume.Yields view (readFields sizes) sizes.sum fun _ => () := by
  induction sizes with
  | nil => exact Consume.yields_pure ()
  | cons size sizes ih =>
      rw [List.sum_cons]
      exact (read_yields size).bind fun _ => ih

/-! ### How reads fail -/

theorem read_fault {len : Nat} {b : ByteBuffer} {fault : Fault}
    (run : read len b = .error fault) : fault = .assertion ∨ fault = .outOfBounds := by
  unfold read at run
  split at run
  · cases run
  · split at run
    · cases run
      exact .inl rfl
    · split at run
      · cases run
        exact .inr rfl
      · cases run

theorem readFields_fault {sizes : List Nat} {b : ByteBuffer} {fault : Fault}
    (run : readFields sizes b = .error fault) : fault = .assertion ∨ fault = .outOfBounds := by
  induction sizes generalizing b with
  | nil => cases run
  | cons size sizes ih =>
      rcases bind_eq_error.mp run with first | ⟨_, _, rest⟩
      · exact read_fault first
      · exact ih rest

theorem readUInt32_fault {b : ByteBuffer} {fault : Fault}
    (run : readUInt32 b = .error fault) : fault = .assertion ∨ fault = .outOfBounds := by
  rcases bind_eq_error.mp run with first | ⟨_, _, rest⟩
  · exact read_fault first
  · cases rest

/-! ### Appending at the end -/

/-- The write position is the end of the vector. It is so from construction on, and only
`wpos(size_t)`, which the packet code never calls, could change it. -/
def AtEnd (b : ByteBuffer) : Prop := b.wpos = b.size

/-- Below the limit, appending adds the bytes at the end. -/
theorem append_eq_ok {b : ByteBuffer} (atEnd : b.AtEnd) {src : List UInt8}
    (room : src ≠ [] → b.size < appendLimit) :
    b.append src = .ok
      { b with storage := b.storage ++ src, wpos := b.wpos + src.length } := by
  unfold AtEnd size at atEnd
  by_cases empty : src = []
  · simp [append, empty]
  · have fits := room empty
    have grow : b.storage.length + src.length - b.storage.length = src.length := by omega
    have tail : b.storage.drop (b.storage.length + src.length) = [] :=
      List.drop_eq_nil_of_le (by omega)
    rw [append, if_neg empty, if_neg (not_not_intro fits)]
    simp only [size, atEnd, grow]
    simp [List.drop_append, tail]

/-- At the limit, appending a byte fails its assertion. -/
theorem append_eq_error {b : ByteBuffer} {src : List UInt8} (nonempty : src ≠ [])
    (full : appendLimit ≤ b.size) : b.append src = .error .assertion := by
  simp [append, nonempty, full]

end ByteBuffer

end NoxServer
