import NoxServer.Shared.Errors

/-!
Accesses of a buffer of bytes through an index. One outside the buffer is undefined.
-/

namespace NoxServer

/-- `*(data + i)`. -/
def byteAt (data : List UInt8) (i : Nat) : Except Fault UInt8 :=
  if i < data.length then .ok (data.getD i 0) else .error .outOfBounds

/-- `*(data + i) = byte`. -/
def setByte (data : List UInt8) (i : Nat) (byte : UInt8) : Except Fault (List UInt8) :=
  if i < data.length then .ok (data.set i byte) else .error .outOfBounds

/-- `memcpy` of the first bytes to somewhere else. -/
def copyOf (data : List UInt8) (count : Nat) : Except Fault (List UInt8) :=
  if count ≤ data.length then .ok (data.take count) else .error .outOfBounds

theorem byteAt_of_lt {data : List UInt8} {i : Nat} (inside : i < data.length) :
    byteAt data i = .ok (data.getD i 0) := if_pos inside

theorem setByte_of_lt {data : List UInt8} {i : Nat} (inside : i < data.length) (byte : UInt8) :
    setByte data i byte = .ok (data.set i byte) := if_pos inside

theorem byteAt_eq_ok {data : List UInt8} {i : Nat} {byte : UInt8}
    (run : byteAt data i = .ok byte) : i < data.length := by
  unfold byteAt at run
  split at run
  · next inside => exact inside
  · cases run

theorem getD_set_self {data : List UInt8} {i : Nat} (inside : i < data.length) (byte : UInt8) :
    (data.set i byte).getD i 0 = byte := by
  rw [List.getD_eq_getElem?_getD, List.getElem?_set_self inside, Option.getD_some]

theorem getD_set_of_ne {i k : Nat} (other : i ≠ k) (data : List UInt8) (byte : UInt8) :
    (data.set i byte).getD k 0 = data.getD k 0 := by
  rw [List.getD_eq_getElem?_getD, List.getElem?_set_ne other, ← List.getD_eq_getElem?_getD]

theorem setByte_length {data out : List UInt8} {i : Nat} {byte : UInt8}
    (run : setByte data i byte = .ok out) : out.length = data.length := by
  unfold setByte at run
  split at run
  · cases run
    exact List.length_set
  · cases run

end NoxServer
