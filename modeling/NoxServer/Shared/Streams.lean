import Mathlib.Data.List.Lex
import Mathlib.Data.Prod.Lex
import Mathlib.Order.Lattice
import NoxServer.Library.Decode
import NoxServer.Shared.ByteBuffer

/-!
The stream operators of `ByteBuffer`: `operator<<` and `operator>>` for truth values,
integers, strings, vectors, lists and maps.

The operators are templates, so each container's operators are given those of its items
(`StreamType`), and `Ty` names the types that can be built this way, nested to any depth.
`Ty.encode` says which bytes a value becomes. `write_eq_ok` is about the one operator and
`reads_decode` about the other, both by induction on the type; together they give the
round trip of any list of values.
-/

namespace NoxServer

namespace ByteBuffer

open Decode (Cursor Decodes readLoop)

/-! ### Integers -/

/-- The integer types of the streams. `bits` is the value as its bytes hold it, and
`value` the number it stands for, by which `std::less` compares. -/
class Scalar (T : Type) where
  sizeof : Nat
  bits : T → Nat
  ofBits : Nat → T
  value : T → Int
  sizeof_pos : 0 < sizeof
  bits_lt : ∀ v, bits v < 256 ^ sizeof
  ofBits_bits : ∀ v, ofBits (bits v) = v
  value_injective : Function.Injective value

def appendValue {T : Type} [Scalar T] (v : T) (b : ByteBuffer) : Except Fault ByteBuffer :=
  b.append (toBytes (Scalar.sizeof T) (Scalar.bits v))

def readValue (T : Type) [Scalar T] : Reader T := do
  let bytes ← read (Scalar.sizeof T)
  return Scalar.ofBits (fromBytes bytes)

instance scalarUInt8 : Scalar UInt8 where
  sizeof := 1
  bits := UInt8.toNat
  ofBits := UInt8.ofNat
  value v := v.toNat
  sizeof_pos := by decide
  bits_lt v := v.toNat_lt
  ofBits_bits _ := UInt8.ofNat_toNat
  value_injective _ _ same := UInt8.toNat_inj.mp (Int.ofNat.inj same)

instance scalarUInt16 : Scalar UInt16 where
  sizeof := 2
  bits := UInt16.toNat
  ofBits := UInt16.ofNat
  value v := v.toNat
  sizeof_pos := by decide
  bits_lt v := v.toNat_lt
  ofBits_bits _ := UInt16.ofNat_toNat
  value_injective _ _ same := UInt16.toNat_inj.mp (Int.ofNat.inj same)

instance scalarUInt32 : Scalar UInt32 where
  sizeof := 4
  bits := UInt32.toNat
  ofBits := UInt32.ofNat
  value v := v.toNat
  sizeof_pos := by decide
  bits_lt v := v.toNat_lt
  ofBits_bits _ := UInt32.ofNat_toNat
  value_injective _ _ same := UInt32.toNat_inj.mp (Int.ofNat.inj same)

instance scalarUInt64 : Scalar UInt64 where
  sizeof := 8
  bits := UInt64.toNat
  ofBits := UInt64.ofNat
  value v := v.toNat
  sizeof_pos := by decide
  bits_lt v := v.toNat_lt
  ofBits_bits _ := UInt64.ofNat_toNat
  value_injective _ _ same := UInt64.toNat_inj.mp (Int.ofNat.inj same)

-- The signed types are stored in two's complement, as the unsigned type of their size.
instance scalarInt8 : Scalar Int8 where
  sizeof := 1
  bits v := v.toUInt8.toNat
  ofBits n := (UInt8.ofNat n).toInt8
  value := Int8.toInt
  sizeof_pos := by decide
  bits_lt v := v.toUInt8.toNat_lt
  ofBits_bits v := by rw [UInt8.ofNat_toNat, Int8.toInt8_toUInt8]
  value_injective _ _ same := Int8.toInt_inj.mp same

instance scalarInt16 : Scalar Int16 where
  sizeof := 2
  bits v := v.toUInt16.toNat
  ofBits n := (UInt16.ofNat n).toInt16
  value := Int16.toInt
  sizeof_pos := by decide
  bits_lt v := v.toUInt16.toNat_lt
  ofBits_bits v := by rw [UInt16.ofNat_toNat, Int16.toInt16_toUInt16]
  value_injective _ _ same := Int16.toInt_inj.mp same

instance scalarInt32 : Scalar Int32 where
  sizeof := 4
  bits v := v.toUInt32.toNat
  ofBits n := (UInt32.ofNat n).toInt32
  value := Int32.toInt
  sizeof_pos := by decide
  bits_lt v := v.toUInt32.toNat_lt
  ofBits_bits v := by rw [UInt32.ofNat_toNat, Int32.toInt32_toUInt32]
  value_injective _ _ same := Int32.toInt_inj.mp same

instance scalarInt64 : Scalar Int64 where
  sizeof := 8
  bits v := v.toUInt64.toNat
  ofBits n := (UInt64.ofNat n).toInt64
  value := Int64.toInt
  sizeof_pos := by decide
  bits_lt v := v.toUInt64.toNat_lt
  ofBits_bits v := by rw [UInt64.ofNat_toNat, Int64.toInt64_toUInt64]
  value_injective _ _ same := Int64.toInt_inj.mp same

/-! ### Maps -/

/-- `std::map<K, V>`: its entries in the order of their keys, no key twice. -/
structure StdMap (K V : Type) [LT K] where
  entries : List (K × V)
  ascending : entries.Pairwise fun a b => a.1 < b.1

section Map

variable {K V : Type} [LinearOrder K]

/-- Where a new key goes; a key that is there keeps its value. -/
def insertEntry (key : K) (value : V) : List (K × V) → List (K × V)
  | [] => [(key, value)]
  | entry :: entries =>
      if key < entry.1 then (key, value) :: entry :: entries
      else if entry.1 < key then entry :: insertEntry key value entries
      else entry :: entries

theorem mem_insertEntry {key : K} {value : V} {entries : List (K × V)} {entry : K × V}
    (mem : entry ∈ insertEntry key value entries) : entry = (key, value) ∨ entry ∈ entries := by
  induction entries with
  | nil => exact .inl (List.mem_singleton.mp mem)
  | cons first entries ih =>
      rw [insertEntry] at mem
      split at mem
      · exact List.mem_cons.mp mem
      · split at mem
        · rcases List.mem_cons.mp mem with rfl | later
          · exact .inr List.mem_cons_self
          · exact (ih later).imp_right (List.mem_cons_of_mem first)
        · exact .inr mem

/-- A map stays in the order of its keys when an entry is put into it. -/
theorem insertEntry_ascending {key : K} {value : V} {entries : List (K × V)}
    (ascending : entries.Pairwise fun a b => a.1 < b.1) :
    (insertEntry key value entries).Pairwise fun a b => a.1 < b.1 := by
  induction entries with
  | nil => exact List.pairwise_singleton _ _
  | cons first entries ih =>
      obtain ⟨least, rest⟩ := List.pairwise_cons.mp ascending
      rw [insertEntry]
      split
      · rename_i before
        refine List.pairwise_cons.mpr ⟨fun entry mem => ?_, ascending⟩
        rcases List.mem_cons.mp mem with rfl | later
        · exact before
        · exact before.trans (least entry later)
      · split
        · rename_i after
          refine List.pairwise_cons.mpr ⟨fun entry mem => ?_, ih rest⟩
          rcases mem_insertEntry mem with rfl | old
          · exact after
          · exact least entry old
        · exact ascending

/-- A key above all others goes to the end. -/
theorem insertEntry_last {key : K} {value : V} {entries : List (K × V)}
    (above : ∀ entry ∈ entries, entry.1 < key) :
    insertEntry key value entries = entries ++ [(key, value)] := by
  induction entries with
  | nil => rfl
  | cons first entries ih =>
      have below := above first List.mem_cons_self
      rw [insertEntry, if_neg (lt_asymm below), if_pos below,
        ih fun entry mem => above entry (List.mem_cons_of_mem first mem), List.cons_append]

def StdMap.empty : StdMap K V := ⟨[], .nil⟩

def StdMap.insert (m : StdMap K V) (entry : K × V) : StdMap K V :=
  ⟨insertEntry entry.1 entry.2 m.entries, insertEntry_ascending m.ascending⟩

@[ext] theorem StdMap.ext {m m' : StdMap K V} (same : m.entries = m'.entries) : m = m' := by
  cases m
  cases m'
  cases same
  rfl

/-- Entries in ascending order are put at the end, one after the other. -/
theorem entries_foldl_insert (entries : List (K × V)) (m : StdMap K V)
    (ascending : (m.entries ++ entries).Pairwise fun a b => a.1 < b.1) :
    (entries.foldl StdMap.insert m).entries = m.entries ++ entries := by
  induction entries generalizing m with
  | nil => exact (List.append_nil _).symm
  | cons entry entries ih =>
      obtain ⟨-, -, above⟩ := List.pairwise_append.mp ascending
      have atEnd : (m.insert entry).entries = m.entries ++ [entry] :=
        insertEntry_last fun old mem => above old mem entry List.mem_cons_self
      have front : m.entries ++ entry :: entries = (m.insert entry).entries ++ entries := by
        rw [atEnd, List.append_assoc, List.singleton_append]
      rw [front] at ascending
      rw [List.foldl_cons, ih _ ascending, front]

/-- A map read back entry by entry is the map. -/
theorem foldl_insert_entries (m : StdMap K V) :
    m.entries.foldl StdMap.insert .empty = m :=
  StdMap.ext (entries_foldl_insert m.entries .empty m.ascending)

end Map

/-! ### The operators -/

/-- A C++ type together with its stream operators. `order` is `std::less`. -/
structure StreamType where
  Value : Type
  order : LinearOrder Value
  write : Value → ByteBuffer → Except Fault ByteBuffer
  read : Reader Value

instance StreamType.linearOrder (type : StreamType) : LinearOrder type.Value := type.order

/-- `operator<<(bool)` and `operator>>(bool &)`: a `char`. -/
def boolStream : StreamType where
  Value := Bool
  order := inferInstance
  write v := appendValue (if v then (1 : Int8) else 0)
  read := do
    let c ← readValue Int8
    return decide (0 < Scalar.value c)

/-- `operator<<` and `operator>>` for an integer type. -/
def scalarStream (T : Type) [Scalar T] : StreamType where
  Value := T
  order := LinearOrder.lift' Scalar.value Scalar.value_injective
  write := appendValue
  read := readValue T

/-- `operator<<(const std::string &)`. -/
def writeString (value : List UInt8) (b : ByteBuffer) : Except Fault ByteBuffer := do
  let b ← b.append value
  appendValue (0 : UInt8) b

/-- The loop of `operator>>(std::string &)`. Each round that goes on reads a byte, so as
many rounds as there are bytes ahead are all it can make. -/
def readCharacters : Nat → Reader (List UInt8)
  | 0 => pure []
  | rounds + 1 => do
      let b ← get
      if b.rpos < b.size then
        let c ← readValue UInt8
        if c = 0 then pure []
        else
          let value ← readCharacters rounds
          return c :: value
      else pure []

/-- `operator>>(std::string &)`. -/
def readString : Reader (List UInt8) := do
  let b ← get
  readCharacters (b.size - b.rpos)

/-- Strings compare byte by byte. -/
def stringStream : StreamType where
  Value := List UInt8
  order := LinearOrder.lift' (List.map UInt8.toNat)
    (List.map_injective_iff.mpr fun _ _ => UInt8.toNat_inj.mp)
  write := writeString
  read := readString

/-- The loop of a container's `operator<<`. -/
def writeItems {α : Type} (write : α → ByteBuffer → Except Fault ByteBuffer) :
    List α → ByteBuffer → Except Fault ByteBuffer
  | [], b => .ok b
  | item :: items, b => do
      let b ← write item b
      writeItems write items b

/-- A container's `operator<<`: a 32-bit count and then the items. -/
def writeCounted {α : Type} (write : α → ByteBuffer → Except Fault ByteBuffer)
    (items : List α) (b : ByteBuffer) : Except Fault ByteBuffer := do
  let b ← appendValue (UInt32.ofNat items.length) b
  writeItems write items b

/-- A container's `operator>>`: the items are put into the cleared container, as many as
the count says. -/
def readCounted {α γ : Type} (reader : Reader α) (put : γ → α → γ) (cleared : γ) : Reader γ := do
  let count ← readValue UInt32
  readLoop reader put count.toNat cleared

/-- The operators of `std::vector` and `std::list`, which are the same. -/
def sequenceStream (item : StreamType) : StreamType where
  Value := List item.Value
  order := inferInstance
  write := writeCounted item.write
  read := readCounted item.read (fun v t => v ++ [t]) []

/-- `operator<<` and `operator>>` for `std::vector<T>`. -/
def vectorStream (item : StreamType) : StreamType := sequenceStream item

/-- `operator<<` and `operator>>` for `std::list<T>`. -/
def listStream (item : StreamType) : StreamType := sequenceStream item

/-- `b << i->first << i->second`. -/
def writeEntry (key value : StreamType) (entry : key.Value × value.Value) (b : ByteBuffer) :
    Except Fault ByteBuffer := do
  let b ← key.write entry.1 b
  value.write entry.2 b

/-- `b >> k >> v`. -/
def readEntry (key value : StreamType) : Reader (key.Value × value.Value) := do
  let k ← key.read
  let v ← value.read
  return (k, v)

/-- `operator<<` and `operator>>` for `std::map<K, V>`. -/
def mapStream (key value : StreamType) : StreamType where
  Value := StdMap key.Value value.Value
  order := LinearOrder.lift' (fun m => m.entries.map toLex) fun _ _ same =>
    StdMap.ext (List.map_injective_iff.mpr toLex.injective same)
  write m := writeCounted (writeEntry key value) m.entries
  read := readCounted (readEntry key value) StdMap.insert .empty

/-- The types the operators are made for. -/
inductive Ty where
  | bool
  | uint8
  | uint16
  | uint32
  | uint64
  | int8
  | int16
  | int32
  | int64
  | string
  | vector (item : Ty)
  | list (item : Ty)
  | map (key value : Ty)

/-- The operators the compiler picks for a type. -/
def Ty.stream : Ty → StreamType
  | .bool => boolStream
  | .uint8 => scalarStream UInt8
  | .uint16 => scalarStream UInt16
  | .uint32 => scalarStream UInt32
  | .uint64 => scalarStream UInt64
  | .int8 => scalarStream Int8
  | .int16 => scalarStream Int16
  | .int32 => scalarStream Int32
  | .int64 => scalarStream Int64
  | .string => stringStream
  | .vector item => vectorStream item.stream
  | .list item => listStream item.stream
  | .map key value => mapStream key.stream value.stream

/-- The values of a type. -/
abbrev Ty.Value (ty : Ty) : Type := ty.stream.Value

/-- A value of any of the types. -/
abbrev Datum := (ty : Ty) × ty.Value

/-- The values written one after the other. -/
def writeAll : List Datum → ByteBuffer → Except Fault ByteBuffer :=
  writeItems fun datum => datum.1.stream.write datum.2

/-- Variables of the given types read one after the other. -/
def readAll : List Ty → Reader (List Datum)
  | [] => pure []
  | ty :: types => do
      let v ← ty.stream.read
      let data ← readAll types
      return ⟨ty, v⟩ :: data

/-! ### The encoding -/

/-- The bytes of a sequence: the count and then those of the items. -/
def encodeItems {α : Type} (encode : α → List UInt8) (items : List α) : List UInt8 :=
  toBytes 4 items.length ++ items.flatMap encode

def encodeScalar {T : Type} [Scalar T] (v : T) : List UInt8 :=
  toBytes (Scalar.sizeof T) (Scalar.bits v)

/-- The bytes a value becomes. -/
def Ty.encode : (ty : Ty) → ty.Value → List UInt8
  | .bool => fun (v : Bool) => [if v then 1 else 0]
  | .uint8 => encodeScalar (T := UInt8)
  | .uint16 => encodeScalar (T := UInt16)
  | .uint32 => encodeScalar (T := UInt32)
  | .uint64 => encodeScalar (T := UInt64)
  | .int8 => encodeScalar (T := Int8)
  | .int16 => encodeScalar (T := Int16)
  | .int32 => encodeScalar (T := Int32)
  | .int64 => encodeScalar (T := Int64)
  | .string => fun (v : List UInt8) => v ++ [0]
  | .vector item => encodeItems item.encode
  | .list item => encodeItems item.encode
  | .map key value => fun (m : StdMap key.Value value.Value) =>
      encodeItems (fun e => key.encode e.1 ++ value.encode e.2) m.entries

/-- No string in the value contains the byte that ends a string. -/
def Ty.NulFree : (ty : Ty) → ty.Value → Prop
  | .string => fun (v : List UInt8) => 0 ∉ v
  | .vector item => fun (v : List item.Value) => ∀ x ∈ v, item.NulFree x
  | .list item => fun (v : List item.Value) => ∀ x ∈ v, item.NulFree x
  | .map key value => fun (m : StdMap key.Value value.Value) =>
      ∀ e ∈ m.entries, key.NulFree e.1 ∧ value.NulFree e.2
  | _ => fun _ => True

theorem length_encodeScalar {T : Type} [Scalar T] (v : T) :
    (encodeScalar v).length = Scalar.sizeof T := length_toBytes _ _

/-- Every value takes at least one byte. -/
theorem Ty.encode_pos (ty : Ty) (v : ty.Value) : 0 < (ty.encode v).length := by
  have scalar : ∀ {T : Type} [Scalar T] (v : T), 0 < (encodeScalar v).length := by
    intro T _ v
    rw [length_encodeScalar]
    exact Scalar.sizeof_pos
  have items : ∀ {α : Type} (encode : α → List UInt8) (xs : List α),
      0 < (encodeItems encode xs).length := by
    intro α encode xs
    rw [encodeItems, List.length_append, length_toBytes]
    omega
  cases ty with
  | bool => exact Nat.one_pos
  | uint8 | uint16 | uint32 | uint64 | int8 | int16 | int32 | int64 => exact scalar _
  | string => exact List.length_pos_of_mem (List.mem_append_right _ List.mem_cons_self)
  | vector | list | map => exact items _ _

section Items

variable {α : Type} {encode : α → List UInt8}

theorem length_encodeItems (items : List α) :
    (encodeItems encode items).length = 4 + (items.flatMap encode).length := by
  rw [encodeItems, List.length_append, length_toBytes]

/-- An item's bytes are among those of the sequence. -/
theorem length_encode_le (encode : α → List UInt8) {items : List α} {item : α}
    (mem : item ∈ items) :
    (encode item).length ≤ (items.flatMap encode).length := by
  obtain ⟨before, after, rfl⟩ := List.append_of_mem mem
  rw [List.flatMap_append, List.flatMap_cons, List.length_append, List.length_append]
  omega

/-- A sequence has no more items than bytes. -/
theorem length_le_flatMap (pos : ∀ x, 0 < (encode x).length) (items : List α) :
    items.length ≤ (items.flatMap encode).length := by
  induction items with
  | nil => exact Nat.zero_le _
  | cons item items ih =>
      have := pos item
      rw [List.flatMap_cons, List.length_append, List.length_cons]
      omega

/-- The count of a sequence below the limit fits its 32 bits. -/
theorem toNat_count (pos : ∀ x, 0 < (encode x).length) {items : List α}
    (small : (encodeItems encode items).length < appendLimit) :
    (UInt32.ofNat items.length).toNat = items.length := by
  have few := length_le_flatMap pos items
  rw [length_encodeItems, appendLimit] at small
  exact UInt32.toNat_ofNat_of_lt (Nat.lt_trans (by omega : _ < 10000000) (by decide))

end Items

/-! ### Writing -/

/-- The buffer with more bytes at its end. -/
def extend (b : ByteBuffer) (bytes : List UInt8) : ByteBuffer :=
  { b with storage := b.storage ++ bytes, wpos := b.wpos + bytes.length }

@[simp] theorem size_extend (b : ByteBuffer) (bytes : List UInt8) :
    (b.extend bytes).size = b.size + bytes.length := List.length_append

@[simp] theorem extend_extend (b : ByteBuffer) (bytes bytes' : List UInt8) :
    (b.extend bytes).extend bytes' = b.extend (bytes ++ bytes') := by
  simp [extend, List.append_assoc, Nat.add_assoc]

theorem AtEnd.extend {b : ByteBuffer} (atEnd : b.AtEnd) (bytes : List UInt8) :
    (b.extend bytes).AtEnd := by
  rw [AtEnd, size_extend, ← atEnd]
  rfl

/-- The operator appends the encoding, as long as that stays below the limit. -/
def Writes {α : Type} (write : α → ByteBuffer → Except Fault ByteBuffer)
    (encode : α → List UInt8) : Prop :=
  ∀ v b, b.AtEnd → b.size + (encode v).length < appendLimit →
    write v b = .ok (b.extend (encode v))

theorem append_extend {b : ByteBuffer} (atEnd : b.AtEnd) {bytes : List UInt8}
    (room : b.size + bytes.length < appendLimit) : b.append bytes = .ok (b.extend bytes) :=
  append_eq_ok atEnd fun _ => by omega

theorem appendValue_writes (T : Type) [Scalar T] : Writes (appendValue (T := T)) encodeScalar :=
  fun _ _ atEnd room => append_extend atEnd room

theorem writeBool_writes : Writes boolStream.write Ty.bool.encode := by
  intro v b atEnd room
  cases v with
  | false => exact append_extend atEnd room
  | true => exact append_extend atEnd room

theorem writeString_writes : Writes writeString Ty.string.encode := by
  intro v b atEnd room
  have total : (Ty.string.encode v).length = v.length + 1 := List.length_append
  have first : b.append v = .ok (b.extend v) := append_extend atEnd (by omega)
  have last : appendValue (0 : UInt8) (b.extend v) = .ok ((b.extend v).extend [0]) :=
    append_extend (atEnd.extend v) (by
      rw [size_extend]
      exact Nat.lt_of_le_of_lt (Nat.le_of_eq (by rw [total, Nat.add_assoc]; rfl)) room)
  rw [writeString, first, ok_bind, last, extend_extend]
  rfl

/-- The loop writes one item behind the other. -/
theorem writeItems_writes {α : Type} {write : α → ByteBuffer → Except Fault ByteBuffer}
    {encode : α → List UInt8} (writes : Writes write encode) :
    Writes (writeItems write) (List.flatMap encode) := by
  intro items
  induction items with
  | nil =>
      intro b _ _
      simp [writeItems, extend]
  | cons item items ih =>
      intro b atEnd room
      rw [List.flatMap_cons, List.length_append] at room
      have first : write item b = .ok (b.extend (encode item)) := writes item b atEnd (by omega)
      have rest := ih (b.extend (encode item)) (atEnd.extend _) (by
        rw [size_extend]
        omega)
      rw [writeItems, first, ok_bind, rest, extend_extend, List.flatMap_cons]

/-- A count and then the items. -/
theorem writeCounted_writes {α : Type} {write : α → ByteBuffer → Except Fault ByteBuffer}
    {encode : α → List UInt8} (writes : Writes write encode)
    (pos : ∀ x, 0 < (encode x).length) :
    Writes (writeCounted write) (encodeItems encode) := by
  intro items b atEnd room
  have count : (UInt32.ofNat items.length).toNat = items.length :=
    toNat_count pos (Nat.lt_of_le_of_lt (Nat.le_add_left _ _) room)
  have header : encodeScalar (UInt32.ofNat items.length) = toBytes 4 items.length :=
    congrArg (toBytes 4) count
  rw [length_encodeItems] at room
  have first := appendValue_writes UInt32 (UInt32.ofNat items.length) b atEnd (by
    rw [length_encodeScalar]
    exact Nat.lt_of_le_of_lt (Nat.add_le_add_left (Nat.le_add_right 4 _) _) room)
  have rest := writeItems_writes writes items (b.extend (toBytes 4 items.length))
    (atEnd.extend _) (by
      rw [size_extend, length_toBytes]
      omega)
  rw [writeCounted, first, ok_bind, header, rest, extend_extend]
  rfl

theorem writeEntry_writes {key value : StreamType} {encodeKey : key.Value → List UInt8}
    {encodeValue : value.Value → List UInt8} (writesKey : Writes key.write encodeKey)
    (writesValue : Writes value.write encodeValue) :
    Writes (writeEntry key value) fun e => encodeKey e.1 ++ encodeValue e.2 := by
  intro e b atEnd room
  rw [List.length_append] at room
  have first := writesKey e.1 b atEnd (by omega)
  have second := writesValue e.2 (b.extend (encodeKey e.1)) (atEnd.extend _) (by
    rw [size_extend]
    omega)
  rw [writeEntry, first, ok_bind, second, extend_extend]

/-- Every type's `operator<<` appends the encoding. -/
theorem Ty.writes (ty : Ty) : Writes ty.stream.write ty.encode := by
  induction ty with
  | bool => exact writeBool_writes
  | uint8 => exact appendValue_writes UInt8
  | uint16 => exact appendValue_writes UInt16
  | uint32 => exact appendValue_writes UInt32
  | uint64 => exact appendValue_writes UInt64
  | int8 => exact appendValue_writes Int8
  | int16 => exact appendValue_writes Int16
  | int32 => exact appendValue_writes Int32
  | int64 => exact appendValue_writes Int64
  | string => exact writeString_writes
  | vector item ih | list item ih => exact writeCounted_writes ih item.encode_pos
  | map key value ihKey ihValue =>
      have entry := writeEntry_writes ihKey ihValue
      intro m
      exact writeCounted_writes entry
        (fun e => List.length_append ▸ Nat.add_pos_left (key.encode_pos e.1) _) m.entries

/-! ### Reading -/

/-- A buffer as it is read. -/
def cursor : Cursor ByteBuffer UInt8 where
  toView := view
  advance b count := { b with rpos := b.rpos + count }
  advance_zero _ := rfl
  advance_add b count count' := by rw [Nat.add_assoc]
  data_advance _ _ := rfl
  pos_advance _ _ := rfl

/-- As many bytes as lie ahead are left up to the end. -/
theorem length_rest {b : ByteBuffer} {bytes : List UInt8} (ahead : cursor.rest b = bytes) :
    bytes.length = b.size - b.rpos := by
  rw [← ahead]
  exact List.length_drop

/-- Bytes that lie ahead can be read. -/
theorem read_ahead {bytes more : List UInt8} (nonempty : 0 < bytes.length) {b : ByteBuffer}
    (ahead : cursor.rest b = bytes ++ more) :
    read bytes.length b = .ok (bytes, cursor.advance b bytes.length) := by
  have drop : b.storage.drop b.rpos = bytes ++ more := ahead
  have length := length_rest ahead
  rw [List.length_append] at length
  rw [read_eq_ok nonempty (by omega), drop, List.take_left]
  rfl

/-- Bytes that lie ahead can be read, also if there are none. -/
theorem read_run {bytes more : List UInt8} {b : ByteBuffer}
    (ahead : cursor.rest b = bytes ++ more) :
    read bytes.length b = .ok (bytes, cursor.advance b bytes.length) := by
  by_cases empty : bytes.length = 0
  · rw [List.length_eq_zero_iff.mp empty]
    rfl
  · exact read_ahead (Nat.pos_of_ne_zero empty) ahead

/-- Numbers that lie ahead can be moved over. -/
theorem readFields_run {sizes : List Nat} {bytes more : List UInt8} {b : ByteBuffer}
    (length : bytes.length = sizes.sum) (ahead : cursor.rest b = bytes ++ more) :
    readFields sizes b = .ok ((), cursor.advance b bytes.length) := by
  induction sizes generalizing bytes b with
  | nil =>
      obtain rfl := List.length_eq_zero_iff.mp length
      rfl
  | cons size sizes ih =>
      rw [List.sum_cons] at length
      have front : (bytes.take size).length = size :=
        List.length_take.trans (Nat.min_eq_left (by omega))
      have behind : (bytes.drop size).length = sizes.sum := by
        rw [List.length_drop]
        omega
      rw [← List.take_append_drop size bytes, List.append_assoc] at ahead
      have read := read_run ahead
      rw [front] at read
      have after := Cursor.rest_advance _ ahead
      rw [front] at after
      rw [readFields, Consume.run_bind_ok read, ih behind after, cursor.advance_add, behind, length]

theorem readValue_decodes (T : Type) [Scalar T] :
    Decodes cursor (readValue T) encodeScalar fun _ => True := by
  intro b v more _ ahead
  have size : (encodeScalar v).length = Scalar.sizeof T := length_encodeScalar v
  have bytes : read (Scalar.sizeof T) b =
      .ok (encodeScalar v, cursor.advance b (encodeScalar v).length) := by
    rw [← size]
    exact read_ahead (size ▸ Scalar.sizeof_pos) ahead
  have value : Scalar.ofBits (fromBytes (encodeScalar v)) = v := by
    rw [encodeScalar, fromBytes_toBytes, Nat.mod_eq_of_lt (Scalar.bits_lt v), Scalar.ofBits_bits]
  rw [readValue, Consume.run_bind_ok bytes, value]
  rfl

theorem readUInt8_ahead {b : ByteBuffer} {byte : UInt8} {more : List UInt8}
    (ahead : cursor.rest b = byte :: more) : readUInt8 b = .ok (byte, cursor.advance b 1) := by
  have bytes : read 1 b = .ok ([byte], cursor.advance b 1) :=
    read_ahead (show 0 < [byte].length from Nat.one_pos) ahead
  have value : UInt8.ofNat (fromBytes [byte]) = byte := UInt8.ofNat_toNat
  rw [readUInt8, Consume.run_bind_ok bytes, value]
  rfl

theorem readBool_decodes : Decodes cursor boolStream.read Ty.bool.encode fun _ => True := by
  intro b v more _ ahead
  have char (c : Int8) (here : cursor.rest b = encodeScalar c ++ more) :
      boolStream.read b = .ok (decide (0 < Scalar.value c), cursor.advance b 1) :=
    (readValue_decodes Int8).run_bind trivial here fun c => return decide (0 < Scalar.value c)
  cases v with
  | false => exact char 0 ahead
  | true => exact char 1 ahead

/-- One round of the loop. -/
theorem readCharacters_succ {b : ByteBuffer} {byte : UInt8} {more : List UInt8}
    (ahead : cursor.rest b = byte :: more) (rounds : Nat) :
    readCharacters (rounds + 1) b =
      (if byte = 0 then pure [] else do
        let value ← readCharacters rounds
        return byte :: value : Reader (List UInt8)) (cursor.advance b 1) := by
  have inside : b.rpos < b.size := by
    have length := length_rest ahead
    rw [List.length_cons] at length
    omega
  have bytes : cursor.rest b = encodeScalar byte ++ more := by
    rw [ahead]
    simp [encodeScalar, Scalar.sizeof, Scalar.bits, toBytes]
  have got : (get : Reader ByteBuffer) b = .ok (b, b) := rfl
  rw [readCharacters, Consume.run_bind_ok got, if_pos inside]
  exact (readValue_decodes UInt8).run_bind trivial bytes _

/-- The loop reads up to the end of the string. -/
theorem readCharacters_run (value : List UInt8) (nulFree : 0 ∉ value) {rounds : Nat}
    (enough : value.length < rounds) {b : ByteBuffer} {more : List UInt8}
    (ahead : cursor.rest b = value ++ 0 :: more) :
    readCharacters rounds b = .ok (value, cursor.advance b (value.length + 1)) := by
  obtain ⟨left, rfl⟩ := Nat.exists_eq_add_of_lt enough
  induction value generalizing b with
  | nil =>
      rw [readCharacters_succ ahead]
      rfl
  | cons byte value ih =>
      have notByte : byte ≠ 0 := fun zero => nulFree (zero ▸ List.mem_cons_self)
      have notValue : 0 ∉ value := fun mem => nulFree (List.mem_cons_of_mem byte mem)
      have after : cursor.rest (cursor.advance b 1) = value ++ 0 :: more :=
        Cursor.rest_advance [byte] ahead
      rw [readCharacters_succ ahead, if_neg notByte, List.length_cons,
        Nat.add_right_comm value.length 1 left,
        Consume.run_bind_ok (ih notValue after (by omega)), cursor.advance_add,
        Nat.add_comm 1 (value.length + 1)]
      rfl

theorem readString_decodes : Decodes cursor readString Ty.string.encode Ty.string.NulFree := by
  rintro b (v : List UInt8) more nulFree ahead
  have bytes : cursor.rest b = v ++ 0 :: more := ahead.trans (List.append_assoc v [0] more)
  have enough : v.length < b.size - b.rpos := by
    rw [← length_rest bytes, List.length_append, List.length_cons]
    omega
  have total : (Ty.string.encode v).length = v.length + 1 := List.length_append
  have got : (get : Reader ByteBuffer) b = .ok (b, b) := rfl
  rw [readString, Consume.run_bind_ok got,
    readCharacters_run v nulFree enough bytes, total]

/-- A count and then a loop that reads that many items. -/
theorem readCounted_run {α γ : Type} {reader : Reader α} {encode : α → List UInt8}
    {Good : α → Prop} (decodes : Decodes cursor reader encode Good)
    (pos : ∀ x, 0 < (encode x).length) (put : γ → α → γ) (start : γ) {items : List α}
    (good : ∀ x ∈ items, Good x) (small : (encodeItems encode items).length < appendLimit)
    {b : ByteBuffer} {more : List UInt8}
    (ahead : cursor.rest b = encodeItems encode items ++ more) :
    readCounted reader put start b =
      .ok (items.foldl put start, cursor.advance b (encodeItems encode items).length) := by
  have count : (UInt32.ofNat items.length).toNat = items.length := toNat_count pos small
  have header : encodeScalar (UInt32.ofNat items.length) = toBytes 4 items.length :=
    congrArg (toBytes 4) count
  have after := Cursor.rest_advance _ (ahead.trans (List.append_assoc _ _ more))
  rw [encodeItems, List.append_assoc, ← header] at ahead
  rw [← header] at after
  rw [readCounted, (readValue_decodes UInt32).run_bind trivial ahead, count,
    Decode.readLoop_run decodes put items good start after, cursor.advance_add,
    length_encodeItems, header, length_toBytes]

/-- A value that comes back whole: its strings have no NUL inside, and its encoding is
below the limit of a buffer. -/
def Ty.Sendable (ty : Ty) (v : ty.Value) : Prop :=
  ty.NulFree v ∧ (ty.encode v).length < appendLimit

/-- A vector's or list's operators. -/
theorem sequence_decodes {item : Ty}
    (decodes : Decodes cursor item.stream.read item.encode item.Sendable) :
    Decodes cursor (sequenceStream item.stream).read (encodeItems item.encode)
      fun v : List item.Value =>
        (∀ x ∈ v, item.NulFree x) ∧ (encodeItems item.encode v).length < appendLimit := by
  rintro b (v : List item.Value) more ⟨nulFree, small⟩ ahead
  have sendable : ∀ x ∈ v, item.Sendable x := by
    intro x mem
    have inside := length_encode_le item.encode mem
    rw [length_encodeItems] at small
    exact ⟨nulFree x mem, by omega⟩
  have run := readCounted_run decodes item.encode_pos (fun v t => v ++ [t]) [] sendable small
    ahead
  rwa [Decode.foldl_concat, List.nil_append] at run

/-- Every type's `operator>>` undoes the encoding. -/
theorem Ty.decodes (ty : Ty) : Decodes cursor ty.stream.read ty.encode ty.Sendable := by
  induction ty with
  | bool => exact readBool_decodes.mono fun _ _ => trivial
  | uint8 => exact (readValue_decodes UInt8).mono fun _ _ => trivial
  | uint16 => exact (readValue_decodes UInt16).mono fun _ _ => trivial
  | uint32 => exact (readValue_decodes UInt32).mono fun _ _ => trivial
  | uint64 => exact (readValue_decodes UInt64).mono fun _ _ => trivial
  | int8 => exact (readValue_decodes Int8).mono fun _ _ => trivial
  | int16 => exact (readValue_decodes Int16).mono fun _ _ => trivial
  | int32 => exact (readValue_decodes Int32).mono fun _ _ => trivial
  | int64 => exact (readValue_decodes Int64).mono fun _ _ => trivial
  | string => exact readString_decodes.mono fun _ sendable => sendable.1
  | vector item ih | list item ih => exact sequence_decodes ih
  | map key value ihKey ihValue =>
      rintro b (m : StdMap key.Value value.Value) more ⟨nulFree, small⟩ ahead
      have sendable : ∀ e ∈ m.entries, key.Sendable e.1 ∧ value.Sendable e.2 := by
        intro e mem
        have inside := length_encode_le
          (fun e : key.Value × value.Value => key.encode e.1 ++ value.encode e.2) mem
        have total : ((Ty.map key value).encode m).length = _ := length_encodeItems m.entries
        rw [List.length_append] at inside
        obtain ⟨nulKey, nulValue⟩ := nulFree e mem
        exact ⟨⟨nulKey, by omega⟩, nulValue, by omega⟩
      have run := readCounted_run (ihKey.pair ihValue)
        (fun e => List.length_append ▸ Nat.add_pos_left (key.encode_pos e.1) _)
        StdMap.insert .empty sendable small ahead
      rwa [foldl_insert_entries] at run

/-! ### The round trip -/

def encodeAll (data : List Datum) : List UInt8 := data.flatMap fun datum => datum.1.encode datum.2

/-- Variables of the types that were written read what was written. -/
theorem readAll_run (data : List Datum) (sendable : ∀ d ∈ data, d.1.Sendable d.2)
    {b : ByteBuffer} {more : List UInt8} (ahead : cursor.rest b = encodeAll data ++ more) :
    readAll (data.map Sigma.fst) b =
      .ok (data, cursor.advance b (encodeAll data).length) := by
  induction data generalizing b with
  | nil => rfl
  | cons d data ih =>
      rw [encodeAll, List.flatMap_cons, List.append_assoc] at ahead
      have rest := ih (fun d mem => sendable d (List.mem_cons_of_mem _ mem))
        (Cursor.rest_advance _ ahead)
      rw [List.map_cons, readAll, d.1.decodes.run_bind (sendable d List.mem_cons_self) ahead,
        Consume.run_bind_ok rest, cursor.advance_add, ← List.length_append]
      rfl

/-- Values of any of the types, nested to any depth, that are written into an empty buffer are read
back as they were, and the buffer is then read and written to its end. Strings have no NUL in them,
and the encoding is below what `append` takes. -/
theorem readAll_writeAll (data : List Datum) (nulFree : ∀ d ∈ data, d.1.NulFree d.2)
    (room : (encodeAll data).length < appendLimit) :
    ∃ b b', writeAll data {} = .ok b ∧ b.storage = encodeAll data ∧
      readAll (data.map Sigma.fst) b = .ok (data, b') ∧
      b'.rpos = b'.size ∧ b'.wpos = b'.size := by
  have written : writeAll data {} = .ok (extend {} (encodeAll data)) :=
    writeItems_writes (fun d : Datum => d.1.writes d.2) data {} rfl
      ((Nat.zero_add _).symm ▸ room)
  have sendable : ∀ d ∈ data, d.1.Sendable d.2 := fun d mem =>
    ⟨nulFree d mem, Nat.lt_of_le_of_lt
      (length_encode_le (fun d : Datum => d.1.encode d.2) mem) room⟩
  have ahead : cursor.rest (extend {} (encodeAll data)) = encodeAll data ++ [] :=
    (List.append_nil _).symm
  refine ⟨_, _, written, rfl, readAll_run data sendable ahead, ?_, ?_⟩
  · exact Nat.zero_add _
  · exact Nat.zero_add _

/-- A map from a string to two shorts, and a truth value behind it. -/
def sampleData : List Datum :=
  [⟨.map .string (.vector .int16), (⟨[([65], ([-1, 2] : List Int16))],
    List.pairwise_singleton _ _⟩ : StdMap Ty.string.Value (Ty.vector .int16).Value)⟩,
    ⟨.bool, true⟩]

example : encodeAll sampleData =
    [1, 0, 0, 0, 65, 0, 2, 0, 0, 0, 255, 255, 2, 0, 1] := by decide

theorem sampleData_nulFree : ∀ d ∈ sampleData, d.1.NulFree d.2 := by
  intro d mem
  rcases List.mem_cons.mp mem with rfl | mem
  · intro entry inside
    obtain rfl := List.mem_singleton.mp inside
    have letter : (0 : UInt8) ∉ [65] := by decide
    exact ⟨letter, fun _ _ => trivial⟩
  · obtain rfl := List.mem_singleton.mp mem
    trivial

theorem readAll_writeAll_sample :
    ∃ b b', writeAll sampleData {} = .ok b ∧ b.storage = encodeAll sampleData ∧
      readAll (sampleData.map Sigma.fst) b = .ok (sampleData, b') ∧
      b'.rpos = b'.size ∧ b'.wpos = b'.size :=
  readAll_writeAll sampleData sampleData_nulFree (by decide)

end ByteBuffer

end NoxServer
