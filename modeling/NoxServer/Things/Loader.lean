import NoxServer.Shared.Streams
import NoxServer.Things.MList

/-!
What the functions of `ThingBin` that load thing.bin share (`NoxThinglib.cpp`).

They copy from the buffer at `count` with `memcpy` and move `count` on by themselves, and `Type` has
the four characters of the tag that was copied last. An access outside the buffer stops the model.
-/

namespace NoxServer.Things

open ByteBuffer Consume
open Decode (Cursor Decodes)

/-- What the loading works on: the buffer, `count`, the first four characters of `Type`, of which
the fifth is 0, and what it has loaded. -/
structure Loader (δ : Type) where
  buff : List UInt8
  count : Nat
  type : List UInt8
  thing : δ

/-- A part of the loading. -/
abbrev Load (δ : Type) := StateT (Loader δ) (Except Fault)

variable {δ : Type}

/-- `memcpy` of some bytes from `buff+count`. -/
def peek (length : Nat) : Load δ (List UInt8) := fun s =>
  if length = 0 ∨ s.count + length ≤ s.buff.length then
    .ok ((s.buff.drop s.count).take length, s)
  else .error .outOfBounds

/-- `count += length`. -/
def move (length : Nat) : Load δ Unit := modify fun s => { s with count := s.count + length }

/-- A copy, and `count` moved behind what is copied. -/
def copy (length : Nat) : Load δ (List UInt8) := do
  let bytes ← peek length
  move length
  return bytes

/-- A copy into a variable. -/
def copyValue (T : Type) [Scalar T] : Load δ T := do
  let bytes ← copy (Scalar.sizeof T)
  return Scalar.ofBits (fromBytes bytes)

/-- A copy into the start of an array of `size` bytes that is cleared before. -/
def copyText (size length : Nat) : Load δ (List UInt8) := do
  let bytes ← copy length
  if length ≤ size then return bytes ++ List.replicate (size - length) 0
  else throw .outOfBounds

/-- `memcpy` of four bytes into `Type`. -/
def copyType : Load δ Unit := do
  let bytes ← peek 4
  modify fun s => { s with type := bytes }

/-! ### Reading on -/

/-- The buffer as it is read. -/
def reading : Cursor (Loader δ) UInt8 where
  data := Loader.buff
  pos := Loader.count
  advance s count := { s with count := s.count + count }
  advance_zero _ := rfl
  advance_add s count count' := by rw [Nat.add_assoc]
  data_advance _ _ := rfl
  pos_advance _ _ := rfl

variable {s : Loader δ} {bytes more : List UInt8}

theorem peek_run (ahead : reading.rest s = bytes ++ more) :
    peek bytes.length s = .ok (bytes, s) := by
  have front : s.buff.drop s.count = bytes ++ more := ahead
  have inside : bytes.length = 0 ∨ s.count + bytes.length ≤ s.buff.length := by
    have lengths := congrArg List.length front
    rw [List.length_drop, List.length_append] at lengths
    omega
  rw [peek, if_pos inside, front, List.take_left]

theorem copy_run (ahead : reading.rest s = bytes ++ more) :
    copy bytes.length s = .ok (bytes, reading.advance s bytes.length) := by
  rw [copy, run_bind_ok (peek_run ahead)]
  rfl

theorem copyValue_run {T : Type} [Scalar T] (v : T)
    (ahead : reading.rest s = encodeScalar v ++ more) :
    copyValue T s = .ok (v, reading.advance s (encodeScalar v).length) := by
  have bytes := copy_run ahead
  rw [length_encodeScalar] at bytes
  have value : Scalar.ofBits (fromBytes (encodeScalar v)) = v := by
    rw [encodeScalar, fromBytes_toBytes, Nat.mod_eq_of_lt (Scalar.bits_lt v), Scalar.ofBits_bits]
  rw [copyValue, run_bind_ok bytes, value, length_encodeScalar]
  rfl

/-- A text, with zeros behind it. -/
def padded (size : Nat) (bytes : List UInt8) : List UInt8 :=
  bytes ++ List.replicate (size - bytes.length) 0

theorem copyText_run {size : Nat} (fits : bytes.length ≤ size)
    (ahead : reading.rest s = bytes ++ more) :
    copyText size bytes.length s = .ok (padded size bytes, reading.advance s bytes.length) := by
  rw [copyText, run_bind_ok (copy_run ahead), if_pos fits]
  rfl

theorem copyType_run (four : bytes.length = 4) (ahead : reading.rest s = bytes ++ more) :
    copyType s = .ok ((), { s with type := bytes }) := by
  have bytes := peek_run ahead
  rw [four] at bytes
  exact run_bind_ok bytes

end NoxServer.Things
