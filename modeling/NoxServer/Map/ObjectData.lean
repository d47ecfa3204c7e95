import Mathlib.Data.Finset.Insert
import NoxServer.Map.NoxMap
import NoxServer.Objects.Casts
import NoxServer.Shared.Streams

/-!
The objects of a map (`NoxMap::readObjects`, `ObjectMgr::CreateObjectFromFile`).

An object is its number in the table of names, a frame with a record, and the objects in it. The
record says how many there are, and the length of the frame where they begin. What kind of object is
built is asked of the entry that comes after the object's own in thing.bin, so the last entry's
objects are not read (`readObjects_faithful_iff`).
-/

namespace NoxServer.Map

open ByteBuffer Objects Consume
open Decode (Cursor Decodes Reads ReadsIn reads_pure)

/-! ### Records -/

/-- What `DefaultXferHandler` reads of an object; the flags are not always there. -/
structure Xfer where
  props1 : UInt16
  props2 : UInt16
  extent : UInt16
  x : UInt32
  y : UInt32
  flags : Option UInt32
  inventory : UInt8

/-- `DefaultXferHandler(obj, rdr)`; a `float` is read as its four bytes. -/
def readXfer : Reader Xfer := do
  let props1 ← readUInt16
  let props2 ← readUInt16
  let extent ← readUInt32
  readFields [4]
  let x ← readUInt32
  let y ← readUInt32
  let more ← readUInt8
  if more = 0xFF then
    let flags ← readUInt32
    let _ ← readstring 1 256
    readFields [1]
    let inventory ← readUInt8
    let count ← readUInt16
    readFields (List.replicate count.toNat 4)
    readFields [2, 4]
    if props2 = 0x40 then
      let _ ← readstring 4 256
    readFields [8]
    return ⟨props1, props2, extent.toUInt16, x, y, some flags, inventory⟩
  else return ⟨props1, props2, extent.toUInt16, x, y, none, 0⟩

/-- It is what the loading makes of it. -/
theorem readXfer_inventory :
    (fun xfer => xfer.inventory.toNat) <$> readXfer = defaultXferHandler := by
  have map_ite {α β : Type} {p : Prop} [Decidable p] (f : α → β) (a b : Reader α) :
      f <$> (if p then a else b) = if p then f <$> a else f <$> b :=
    apply_ite (Functor.map f) p a b
  simp only [readXfer, defaultXferHandler, readFields, readUInt16, readUInt32, bind_assoc,
    pure_bind, map_bind, map_ite, map_pure]
  rfl

/-! ### Objects -/

/-- An object of a map; its inventory is a set of others, by their numbers in the order in which
they were made. -/
structure MapObject where
  type : UInt16
  builtAs : BuiltAs
  props1 : UInt16 := 0
  props2 : UInt16 := 0
  x : UInt32 := 0
  y : UInt32 := 0
  flags : Option UInt32 := none
  inventory : Finset Nat := ∅
  deriving DecidableEq

/-- The objects that are made, with thing.bin and the manager. -/
structure Making where
  things : ThingList
  made : List MapObject := []
  mgr : ObjectMgr Nat := { extent := fun _ => 0 }

namespace Making

variable (w : Making)

/-- What the manager asks of an object. -/
def kind : ObjectClass Nat where
  type obj := (w.made[obj]?.map (·.type)).getD 0
  immobile obj := (w.made[obj]?.bind fun o => w.things.getObjectInfo o.type).any (·.immobile)

/-- `new Object(type, pos)` or `new WorldObject(type, pos)`. -/
def construct (type : UInt16) (builtAs : BuiltAs) : Making :=
  { w with made := w.made ++ [{ type := type, builtAs := builtAs }] }

/-- What is read of an object is stored in it. -/
def transfer (obj : Nat) (xfer : Xfer) : Making :=
  { w with
    made := w.made.modify obj fun o =>
      { o with
        props1 := xfer.props1
        props2 := xfer.props2
        x := xfer.x
        y := xfer.y
        flags := xfer.flags }
    mgr := { w.mgr with extent := Function.update w.mgr.extent obj xfer.extent } }

/-- `obj->m_inventory.insert(child)`. -/
def insertInventory (obj child : Nat) : Making :=
  { w with
    made := w.made.modify obj fun o => { o with inventory := insert child o.inventory } }

/-- `obj->AddToWorld()`: what the manager does with it. -/
def addToWorld (obj : Nat) : Making := { w with mgr := w.mgr.addObject w.kind obj }

/-- `CreateObjectFromFile(rdr, toc)` up to its loop: NULL, or an object that is to have some number
of objects. -/
def createObject (toc : List (UInt16 × List UInt8)) :
    Reader (Option (Nat × UInt8) × Making) := do
  let type ← readUInt16
  match toc.lookup type with
  | none => return (none, w)
  | some name =>
      skipToQword
      let (type, things) := w.things.getIndex name
      if type = 0 then throw .assertion
      match things.getAt type.toNat with
      | none => throw .nullPointer
      | some info =>
          let obj := w.made.length
          let w := { w with things := things }.construct type
            (if info.immobile then .object else .worldObject)
          let jump ← readJump
          let xfer ← readXfer
          setRpos jump.finish
          return (some (obj, xfer.inventory), w.transfer obj xfer)

end Making

/-- The loop over the inventory, with what creates an object; none when that did not come to an
end. -/
def inventoryLoop (create : Making → Reader (Option (Option Nat × Making))) (obj : Nat) :
    Nat → Making → Reader (Option Making)
  | 0, w => return some w
  | inventory + 1, w => do
      match ← create w with
      | none => return none
      | some (none, w) => return some w
      | some (some child, w) => inventoryLoop create obj inventory (w.insertInventory obj child)

/-- `CreateObjectFromFile(rdr, toc)`, with calls in calls down to some depth. -/
def createObjectFromFile (toc : List (UInt16 × List UInt8)) :
    Nat → Making → Reader (Option (Option Nat × Making))
  | 0, _ => return none
  | depth + 1, w => do
      match ← w.createObject toc with
      | (none, w) => return some (none, w)
      | (some (obj, inventory), w) =>
          match ← inventoryLoop (createObjectFromFile toc depth) obj inventory.toNat w with
          | none => return none
          | some w => return some (some obj, w.addToWorld obj)

/-- The loop of `readObjects`, for some turns. -/
def objectsLoop (toc : List (UInt16 × List UInt8)) (depth : Nat) :
    Nat → Making → Reader (Option Making)
  | 0, _ => return none
  | turns + 1, w => do
      let b ← get
      if b.rpos < b.size then
        match ← createObjectFromFile toc depth w with
        | none => return none
        | some (none, w) => return some w
        | some (some _, w) => objectsLoop toc depth turns w
      else return some w

def readObjects (toc : List (UInt16 × List UInt8)) (depth turns : Nat) (w : Making) :
    Reader (Option Making) := do
  let _ ← readJump
  readFields [2]
  objectsLoop toc depth turns w

/-! ### What the records are -/

/-- What a record has when it says so. -/
structure More where
  flags : UInt32
  script : List UInt8
  team : UInt8
  inventory : UInt8
  group : List UInt32
  word : UInt16
  dword : UInt32
  text : List UInt8
  qword : UInt64
  script_short : script.length < 0x100
  group_short : group.length < 0x10000
  text_short : text.length < 0x100000000

namespace More

variable (m : More)

theorem script_bits : Scalar.bits (UInt8.ofNat m.script.length) = m.script.length :=
  UInt8.toNat_ofNat_of_lt m.script_short

theorem group_bits : (UInt16.ofNat m.group.length).toNat = m.group.length :=
  UInt16.toNat_ofNat_of_lt m.group_short

theorem text_bits : Scalar.bits (UInt32.ofNat m.text.length) = m.text.length :=
  UInt32.toNat_ofNat_of_lt m.text_short

end More

/-- A record of an object, with the byte that says that there is no more. -/
structure DataRecord where
  props1 : UInt16
  props2 : UInt16
  extent : UInt32
  unknown : UInt32
  x : UInt32
  y : UInt32
  more : Option More
  plain : UInt8
  plain_ne : plain ≠ 0xFF

namespace DataRecord

/-- The number of objects in the inventory that the record declares. -/
def inventory (r : DataRecord) : UInt8 := r.more.elim 0 (·.inventory)

/-- What is read of the record. -/
def xfer (r : DataRecord) : Xfer where
  props1 := r.props1
  props2 := r.props2
  extent := r.extent.toUInt16
  x := r.x
  y := r.y
  flags := r.more.map (·.flags)
  inventory := r.inventory

/-- A string with its length before it. -/
def counted {T : Type} [Scalar T] (length : T) (string : List UInt8) : List UInt8 :=
  encodeScalar length ++ string

/-- The rest of the record, of an object that has `props2`. -/
def tail (props2 : UInt16) : Option More → UInt8 → List UInt8
  | none, plain => encodeScalar plain
  | some m, _ =>
      encodeScalar (0xFF : UInt8) ++ (encodeScalar m.flags ++
        (counted (UInt8.ofNat m.script.length) m.script ++ (encodeScalar m.team ++
          (encodeScalar m.inventory ++ (encodeScalar (UInt16.ofNat m.group.length) ++
            (m.group.flatMap encodeScalar ++ ((encodeScalar m.word ++ encodeScalar m.dword) ++
              ((if props2 = 0x40 then counted (UInt32.ofNat m.text.length) m.text else []) ++
                encodeScalar m.qword))))))))

def bytes (r : DataRecord) : List UInt8 :=
  encodeScalar r.props1 ++ (encodeScalar r.props2 ++ (encodeScalar r.extent ++
    (encodeScalar r.unknown ++ (encodeScalar r.x ++ (encodeScalar r.y ++
      tail r.props2 r.more r.plain)))))

end DataRecord

section Reading

theorem readUInt8_reads (v : UInt8) : Reads cursor readUInt8 (encodeScalar v) v :=
  (readValue_decodes UInt8).reads trivial

theorem readUInt16_reads (v : UInt16) : Reads cursor readUInt16 (encodeScalar v) v :=
  (readValue_decodes UInt16).reads trivial

theorem readUInt32_reads (v : UInt32) : Reads cursor readUInt32 (encodeScalar v) v :=
  (readValue_decodes UInt32).reads trivial

theorem readFields_reads {sizes : List Nat} {bytes : List UInt8}
    (length : bytes.length = sizes.sum) : Reads cursor (readFields sizes) bytes () :=
  fun _ _ ahead => readFields_run length ahead

/-- The length of a string that lies ahead is read, also at the end of the buffer. -/
theorem readstring_count {T : Type} [Scalar T] {v : T} {cs more : List UInt8} {b : ByteBuffer}
    (length : Scalar.bits v = cs.length) (ahead : cursor.rest b = encodeScalar v ++ (cs ++ more)) :
    read (Scalar.sizeof T) b = .ok (encodeScalar v, cursor.advance b (Scalar.sizeof T)) ∧
      cursor.rest (cursor.advance b (Scalar.sizeof T)) = cs ++ more ∧
      (if (cursor.advance b (Scalar.sizeof T)).rpos ≥ (cursor.advance b (Scalar.sizeof T)).size
        then 0 else fromBytes (encodeScalar v)) = cs.length := by
  have after := Cursor.rest_advance _ ahead
  have first := read_run ahead
  rw [length_encodeScalar] at first after
  refine ⟨first, after, ?_⟩
  split
  · next ended =>
      -- Behind the end nothing lies ahead, so the string is empty.
      have none : cursor.rest (cursor.advance b (Scalar.sizeof T)) = [] :=
        List.drop_eq_nil_of_le ended
      rw [none] at after
      have empty := congrArg List.length after
      rw [List.length_append, List.length_nil] at empty
      omega
  · rw [encodeScalar, fromBytes_toBytes, Nat.mod_eq_of_lt (Scalar.bits_lt v), length]

/-- A buffer whose positions are `size_t`s. -/
def Sized (storage : List UInt8) : Prop := storage.length < 0x100000000

/-- A string that lies ahead, and that has room, is read. -/
theorem readstring_fits {T : Type} [Scalar T] {v : T} {cs : List UInt8} {maxlength : Nat}
    (length : Scalar.bits v = cs.length) (room : cs.length ≤ maxlength - 1) :
    Reads cursor (readstring (Scalar.sizeof T) maxlength) (DataRecord.counted v cs) cs := by
  intro b more ahead
  rw [DataRecord.counted, List.append_assoc] at ahead
  obtain ⟨first, after, count⟩ := readstring_count length ahead
  rw [readstring, run_bind_ok first, run_bind_ok rfl, count, if_neg (Nat.not_lt_of_le room),
    read_run after, cursor.advance_add, DataRecord.counted, List.length_append,
    length_encodeScalar]

/-- A string that lies ahead is read as far as there is room, and moved over. -/
theorem readstring_reads {T : Type} [Scalar T] {v : T} {cs : List UInt8} (maxlength : Nat)
    (length : Scalar.bits v = cs.length) :
    ReadsIn cursor Sized (readstring (Scalar.sizeof T) maxlength) (DataRecord.counted v cs)
      (cs.take (maxlength - 1)) := by
  by_cases room : cs.length ≤ maxlength - 1
  · rw [List.take_of_length_le room]
    exact (readstring_fits length room).readsIn _
  · intro b more sized ahead
    rw [DataRecord.counted, List.append_assoc] at ahead
    obtain ⟨first, after, count⟩ := readstring_count length ahead
    have long : cs.length > maxlength - 1 := Nat.lt_of_not_le room
    have split : cs ++ more = cs.take (maxlength - 1) ++ (cs.drop (maxlength - 1) ++ more) := by
      rw [← List.append_assoc, List.take_append_drop]
    have taken : (cs.take (maxlength - 1)).length = maxlength - 1 :=
      List.length_take.trans (Nat.min_eq_left (Nat.le_of_lt long))
    have copied := read_run (after.trans split)
    rw [taken] at copied
    -- The end of the string lies in the buffer, so the position does not wrap.
    have whole := length_rest after
    rw [List.length_append] at whole
    have size : (cursor.advance b (Scalar.sizeof T)).size < 0x100000000 := sized
    have moved : sizeT ((cursor.advance b (Scalar.sizeof T)).rpos + (maxlength - 1) + cs.length -
        (maxlength - 1)) = b.rpos + (Scalar.sizeof T + cs.length) := by
      have here : (cursor.advance b (Scalar.sizeof T)).rpos = b.rpos + Scalar.sizeof T := rfl
      rw [sizeT_of_lt (by omega)]
      omega
    rw [readstring, run_bind_ok first, run_bind_ok rfl, count, if_pos long, run_bind_ok copied,
      run_bind_ok rfl, DataRecord.counted, List.length_append, length_encodeScalar]
    exact congrArg (fun pos => Except.ok (cs.take (maxlength - 1), { b with rpos := pos })) moved

theorem length_group (group : List UInt32) :
    (group.flatMap encodeScalar).length = group.length * 4 := by
  induction group with
  | nil => rfl
  | cons v group ih =>
      rw [List.flatMap_cons, List.length_append, length_encodeScalar, ih, List.length_cons]
      have size : Scalar.sizeof UInt32 = 4 := rfl
      omega

/-- `DefaultXferHandler` reads the record. -/
theorem readXfer_reads (r : DataRecord) : ReadsIn cursor Sized readXfer r.bytes r.xfer := by
  refine (readUInt16_reads r.props1).bindIn ((readUInt16_reads r.props2).bindIn
    ((readUInt32_reads r.extent).bindIn ((readFields_reads ?_).bindIn
      ((readUInt32_reads r.x).bindIn ((readUInt32_reads r.y).bindIn ?_)))))
  · rw [length_encodeScalar]
    rfl
  · cases is : r.more with
    | none =>
        have xfer : r.xfer = ⟨r.props1, r.props2, r.extent.toUInt16, r.x, r.y, none, 0⟩ := by
          simp [DataRecord.xfer, DataRecord.inventory, is]
        rw [DataRecord.tail, xfer, ← List.append_nil (encodeScalar r.plain)]
        refine (readUInt8_reads r.plain).bindIn ?_
        rw [if_neg r.plain_ne]
        exact (reads_pure cursor _).readsIn _
    | some m =>
        have xfer : r.xfer =
            ⟨r.props1, r.props2, r.extent.toUInt16, r.x, r.y, some m.flags, m.inventory⟩ := by
          simp [DataRecord.xfer, DataRecord.inventory, is]
        rw [DataRecord.tail, xfer]
        refine (readUInt8_reads 0xFF).bindIn ?_
        rw [if_pos rfl]
        refine (readUInt32_reads m.flags).bindIn ((readstring_reads 256 m.script_bits).bind
          ((readFields_reads ?_).bindIn ((readUInt8_reads m.inventory).bindIn
            ((readUInt16_reads _).bindIn ((readFields_reads ?_).bindIn
              ((readFields_reads ?_).bindIn ?_))))))
        · rw [length_encodeScalar]
          rfl
        · rw [m.group_bits, List.sum_replicate_nat]
          exact length_group m.group
        · rw [List.length_append, length_encodeScalar, length_encodeScalar]
          rfl
        · have last : Reads cursor (do
              readFields [8]
              return ⟨r.props1, r.props2, r.extent.toUInt16, r.x, r.y, some m.flags, m.inventory⟩ :
                Reader Xfer) (encodeScalar m.qword)
              ⟨r.props1, r.props2, r.extent.toUInt16, r.x, r.y, some m.flags, m.inventory⟩ := by
            rw [← List.append_nil (encodeScalar m.qword)]
            refine (readFields_reads ?_).bind (reads_pure cursor _)
            rw [length_encodeScalar]
            rfl
          by_cases texts : r.props2 = 0x40
          · rw [if_pos texts, if_pos texts]
            exact (readstring_reads 256 m.text_bits).bind (last.readsIn _)
          · rw [if_neg texts, if_neg texts]
            exact last.readsIn _

end Reading

/-! ### Trees of objects -/

/-- An object in a map: its number in the table of names, its record and what comes after that in
its frame, the bytes up to the boundary before the length of the frame, and the objects in it. -/
inductive ObjectNode where
  | mk (id : UInt16) (record : DataRecord) (tail : List UInt8) (pad : Nat → UInt8)
      (children : List ObjectNode)

namespace ObjectNode

/-- The bytes up to the next boundary of eight bytes. -/
def padding (pad : Nat → UInt8) (pos : Nat) : List UInt8 :=
  (List.range ((8 - pos % 8) % 8)).map pad

/-- An object without those in it, at a position. -/
def head (id : UInt16) (pad : Nat → UInt8) (body : List UInt8) (pos : Nat) : List UInt8 :=
  encodeScalar id ++ (padding pad (pos + 2) ++ (encodeScalar (UInt64.ofNat body.length) ++ body))

mutual

/-- The bytes of an object at a position. -/
def encode : ObjectNode → Nat → List UInt8
  | mk id record tail pad children, pos =>
      head id pad (record.bytes ++ tail) pos ++
        encodeAll children (pos + (head id pad (record.bytes ++ tail) pos).length)

def encodeAll : List ObjectNode → Nat → List UInt8
  | [], _ => []
  | node :: rest, pos => encode node pos ++ encodeAll rest (pos + (encode node pos).length)

end

mutual

/-- The object has a number of the table, its record declares the objects that are in it, and the
length of its frame is an `int64`. -/
def Encodable (toc : List (UInt16 × List UInt8)) : ObjectNode → Prop
  | mk id record tail _ children =>
      (toc.lookup id).isSome ∧ record.inventory.toNat = children.length ∧
        (record.bytes ++ tail).length < 0x8000000000000000 ∧ EncodableAll toc children

/-- All of some objects are. -/
def EncodableAll (toc : List (UInt16 × List UInt8)) : List ObjectNode → Prop
  | [] => True
  | node :: rest => Encodable toc node ∧ EncodableAll toc rest

end

mutual

/-- How many objects there are. -/
def count : ObjectNode → Nat
  | mk _ _ _ _ children => countAll children + 1

def countAll : List ObjectNode → Nat
  | [] => 0
  | node :: rest => count node + countAll rest

end

mutual

/-- How deep the calls are. -/
def depth : ObjectNode → Nat
  | mk _ _ _ _ children => depthAll children + 1

def depthAll : List ObjectNode → Nat
  | [] => 0
  | node :: rest => Nat.max (depth node) (depthAll rest)

end

/-- The numbers of some objects, each before those that are in it. -/
def refs : List ObjectNode → Nat → Finset Nat
  | [], _ => ∅
  | node :: rest, next => insert next (refs rest (next + count node))

section Objects

variable (toc : List (UInt16 × List UInt8)) (things : ThingList)

/-- The position `GetIndex` gives for the name of an object. -/
def position (id : UInt16) : UInt16 := (things.getIndex ((toc.lookup id).getD [])).1

/-- `Objects.Get(type)`: the entry the source asks. -/
def nextEntry (id : UInt16) : Option GNHT := things.getAt (position toc things id).toNat

mutual

/-- The objects that are to be made of one, from a number on. -/
def objects : ObjectNode → Nat → List MapObject
  | mk id record _ _ children, next =>
      { type := position toc things id
        builtAs := if (nextEntry toc things id).any (·.immobile) then .object else .worldObject
        props1 := record.props1
        props2 := record.props2
        x := record.x
        y := record.y
        flags := record.more.map (·.flags)
        inventory := refs children (next + 1) } :: objectsAll children (next + 1)

/-- The objects that are to be made of some. -/
def objectsAll : List ObjectNode → Nat → List MapObject
  | [], _ => []
  | node :: rest, next => objects node next ++ objectsAll rest (next + count node)

end

mutual

/-- The name of each object has a position, and there is an entry after it. -/
def Readable : ObjectNode → Prop
  | mk id _ _ _ children =>
      (position toc things id ≠ 0 ∧ (nextEntry toc things id).isSome) ∧ ReadableAll children

/-- All of some objects are. -/
def ReadableAll : List ObjectNode → Prop
  | [] => True
  | node :: rest => Readable node ∧ ReadableAll rest

end

end Objects

variable {toc : List (UInt16 × List UInt8)} {things : ThingList}

mutual

theorem length_objects : ∀ (node : ObjectNode) (next : Nat),
    (objects toc things node next).length = node.count
  | mk _ _ _ _ children, next => by
      rw [objects, List.length_cons, length_objectsAll children, count]

theorem length_objectsAll : ∀ (nodes : List ObjectNode) (next : Nat),
    (objectsAll toc things nodes next).length = countAll nodes
  | [], _ => rfl
  | node :: rest, next => by
      rw [objectsAll, List.length_append, length_objects node, length_objectsAll rest, countAll]

end

/-! ### One object -/

theorem length_padding (pad : Nat → UInt8) (pos : Nat) :
    (padding pad pos).length = (8 - pos % 8) % 8 := by
  rw [padding, List.length_map, List.length_range]

/-- A length that is read, and the position after it. -/
theorem readJump_run {b : ByteBuffer} {length : UInt64} {more : List UInt8}
    (ahead : cursor.rest b = encodeScalar length ++ more) :
    readJump b = .ok (⟨(Int64.ofNat length.toNat).toInt, b.rpos + 8⟩, cursor.advance b 8) := by
  have eight : (encodeScalar length).length = 8 := length_encodeScalar length
  have read := read_run ahead
  have value : fromBytes (encodeScalar length) = length.toNat := by
    rw [encodeScalar, fromBytes_toBytes]
    exact Nat.mod_eq_of_lt length.toNat_lt
  rw [eight] at read
  rw [readJump, run_bind_ok read, run_bind_ok rfl, value]
  rfl

theorem finish_eq {length pos : Nat} (inside : length + pos < 0x100000000) :
    Jump.finish ⟨(Int64.ofNat (UInt64.ofNat length).toNat).toInt, pos⟩ = length + pos := by
  have size : UInt64.size = 0x10000000000000000 := rfl
  have unsigned : (UInt64.ofNat length).toNat = length :=
    UInt64.toNat_ofNat_of_lt (by omega)
  have signed : (Int64.ofNat length).toInt = length := Int64.toInt_ofNat_of_lt (by omega)
  rw [unsigned, Jump.finish]
  dsimp only
  rw [signed]
  omega

section One

variable {w : Making} {b : ByteBuffer} {id : UInt16} {record : DataRecord} {tail more : List UInt8}
  {pad : Nat → UInt8}

/-- A lookup gives the position, and leaves the cursor at the first entry. -/
theorem getIndex_position {name : List UInt8} (name_is : toc.lookup id = some name)
    (same : w.things = things) (first : things.cur = 0) :
    w.things.getIndex name = (position toc things id, w.things) := by
  have index : (w.things.getIndex name).1 = position toc things id := by
    rw [position, name_is, same]
    rfl
  have still : (w.things.getIndex name).2 = w.things := by
    rw [same]
    cases things
    exact congrArg (ThingList.mk _) first.symm
  exact Prod.ext index still

/-- An object with an entry after its own is made and read, up to the end of its frame. -/
theorem createObject_run (listed : (toc.lookup id).isSome) (same : w.things = things)
    (first : things.cur = 0) (found : position toc things id ≠ 0)
    (after : (nextEntry toc things id).isSome)
    (small : b.size < 0x100000000)
    (ahead : cursor.rest b = head id pad (record.bytes ++ tail) b.rpos ++ more) :
    w.createObject toc b = .ok ((some (w.made.length, record.inventory),
      (w.construct (position toc things id)
        (if (nextEntry toc things id).any (·.immobile) then .object else .worldObject)).transfer
          w.made.length record.xfer),
      cursor.advance b (head id pad (record.bytes ++ tail) b.rpos).length) := by
  obtain ⟨name, name_is⟩ := Option.isSome_iff_exists.mp listed
  obtain ⟨info, info_is⟩ := Option.isSome_iff_exists.mp after
  have lookup := getIndex_position name_is same first
  have entry : w.things.getAt (position toc things id).toNat = some info := by
    rw [same]
    exact info_is
  have whole := length_rest ahead
  rw [List.length_append] at whole
  rw [head, List.append_assoc, List.append_assoc, List.append_assoc] at ahead
  have two : (encodeScalar id).length = 2 := length_encodeScalar id
  have eight : (encodeScalar (UInt64.ofNat (record.bytes ++ tail).length)).length = 8 :=
    length_encodeScalar _
  -- the reads one after the other, each from behind the one before
  have ahead₁ := Cursor.rest_advance _ ahead
  have ahead₂ := Cursor.rest_advance _ ahead₁
  have ahead₃ := Cursor.rest_advance _ ahead₂
  rw [List.append_assoc] at ahead₃
  have typed := readUInt16_reads id b _ ahead
  have jumped := readJump_run ahead₂
  have read (sized : Sized _) := readXfer_reads record _ _ sized ahead₃
  have skipped : skipToQword (cursor.advance b (encodeScalar id).length) =
      .ok ((), cursor.advance (cursor.advance b (encodeScalar id).length)
        (padding pad (b.rpos + 2)).length) := by
    rw [length_padding, two]
    rfl
  have total : (head id pad (record.bytes ++ tail) b.rpos).length =
      2 + (padding pad (b.rpos + 2)).length + 8 + (record.bytes ++ tail).length := by
    rw [head, List.length_append, List.length_append, List.length_append, two, eight]
    omega
  have behind : (cursor.advance (cursor.advance b (encodeScalar id).length)
      (padding pad (b.rpos + 2)).length).rpos + 8 =
        b.rpos + 2 + (padding pad (b.rpos + 2)).length + 8 := by
    rw [two]
    rfl
  have finish : Jump.finish ⟨(Int64.ofNat (UInt64.ofNat (record.bytes ++ tail).length).toNat).toInt,
      b.rpos + 2 + (padding pad (b.rpos + 2)).length + 8⟩ =
        b.rpos + (head id pad (record.bytes ++ tail) b.rpos).length := by
    rw [finish_eq (by omega)]
    omega
  rw [Making.createObject, run_bind_ok typed]
  dsimp only
  rw [name_is]
  dsimp only
  rw [run_bind_ok skipped, lookup]
  dsimp only
  rw [if_neg found, entry]
  dsimp only
  rw [eight] at read
  rw [run_bind_ok jumped, run_bind_ok (read small), run_bind_ok rfl, behind, finish, info_is,
    Option.any_some]
  rfl

/-- An object without a position, or without an entry after its own, stops the server. -/
theorem createObject_fails (listed : (toc.lookup id).isSome) (same : w.things = things)
    (first : things.cur = 0)
    (unreadable : ¬ (position toc things id ≠ 0 ∧ (nextEntry toc things id).isSome))
    (ahead : cursor.rest b = encodeScalar id ++ more) :
    ∃ fault, w.createObject toc b = .error fault := by
  obtain ⟨name, name_is⟩ := Option.isSome_iff_exists.mp listed
  have lookup := getIndex_position name_is same first
  rw [Making.createObject, run_bind_ok (readUInt16_reads id b _ ahead)]
  dsimp only
  rw [name_is]
  dsimp only
  rw [run_bind_ok rfl, lookup]
  dsimp only
  by_cases found : position toc things id = 0
  · rw [if_pos found]
    exact ⟨.assertion, rfl⟩
  · have entry : w.things.getAt (position toc things id).toNat = none := by
      rw [same]
      exact Option.not_isSome_iff_eq_none.mp fun after => unreadable ⟨found, after⟩
    rw [if_neg found, entry]
    exact ⟨.nullPointer, rfl⟩

end One

/-! ### Trees -/

section Trees

theorem encode_ahead (node : ObjectNode) (pos : Nat) : 0 < (encode node pos).length := by
  obtain ⟨id, record, tail, pad, children⟩ := node
  have two : (encodeScalar id).length = 2 := length_encodeScalar id
  rw [encode, head, List.length_append, List.length_append, two]
  omega

/-- The objects are made of what lies ahead, after those that were made before. -/
def MadeOf (nodes : List MapObject) (w : Making) (things : ThingList) (w' : Making) : Prop :=
  w'.things = things ∧ w'.made = w.made ++ nodes

/-- The inventory of an object grows by some objects. -/
def store (inventory : Finset Nat) (o : MapObject) : MapObject :=
  { o with inventory := o.inventory ∪ inventory }

theorem modify_append {made more : List MapObject} {obj : Nat} (inside : obj < made.length)
    (change : MapObject → MapObject) :
    (made ++ more).modify obj change = made.modify obj change ++ more := by
  refine List.ext_getElem? fun i => ?_
  rw [List.getElem?_modify]
  by_cases before : i < made.length
  · rw [List.getElem?_append_left before,
      List.getElem?_append_left (by rwa [List.length_modify]), List.getElem?_modify]
  · have other : obj ≠ i := by omega
    rw [List.getElem?_append_right (by omega),
      List.getElem?_append_right (by rw [List.length_modify]; omega), List.length_modify]
    simp [other]

theorem modify_last (made : List MapObject) (o : MapObject) (change : MapObject → MapObject) :
    (made ++ [o]).modify made.length change = made ++ [change o] := by
  refine List.ext_getElem? fun i => ?_
  rw [List.getElem?_modify]
  by_cases here : i = made.length
  · subst here
    simp
  · have other : made.length ≠ i := fun same => here same.symm
    by_cases before : i < made.length
    · simp [other, List.getElem?_append_left before]
    · have past : ∀ o : MapObject, (made ++ [o])[i]? = none := fun o => by
        refine List.getElem?_eq_none ?_
        rw [List.length_append, List.length_singleton]
        omega
      rw [past, past]
      rfl

/-- What is made of an object is behind those that were there. -/
theorem createObject_made {id : UInt16} {record : DataRecord} {tail : List UInt8}
    {pad : Nat → UInt8} {w : Making} {b : ByteBuffer} {more : List UInt8}
    (listed : (toc.lookup id).isSome) (same : w.things = things) (first : things.cur = 0)
    (found : position toc things id ≠ 0) (after : (nextEntry toc things id).isSome)
    (small : b.size < 0x100000000)
    (ahead : cursor.rest b = head id pad (record.bytes ++ tail) b.rpos ++ more) :
    ∃ w₁, w.createObject toc b = .ok ((some (w.made.length, record.inventory), w₁),
        cursor.advance b (head id pad (record.bytes ++ tail) b.rpos).length) ∧
      w₁.things = things ∧ w₁.made = w.made ++ [{
        type := position toc things id
        builtAs := if (nextEntry toc things id).any (·.immobile) then .object else .worldObject
        props1 := record.props1
        props2 := record.props2
        x := record.x
        y := record.y
        flags := record.more.map (·.flags) }] :=
  ⟨_, createObject_run listed same first found after small ahead, same, modify_last _ _ _⟩

mutual

/-- An object is made as it is to be, with those in it. -/
theorem create_run (first : things.cur = 0) : ∀ (node : ObjectNode) {w : Making} {b : ByteBuffer}
    {more : List UInt8} {deep : Nat}, Encodable toc node → Readable toc things node →
    node.depth ≤ deep → w.things = things → b.size < 0x100000000 →
    cursor.rest b = encode node b.rpos ++ more →
      ∃ w', createObjectFromFile toc deep w b =
          .ok (some (some w.made.length, w'), cursor.advance b (encode node b.rpos).length) ∧
        MadeOf (objects toc things node w.made.length) w things w'
  | mk id record tail pad children, w, b, more, deep, encodable, readable, enough, same, small,
      ahead => by
      obtain ⟨listed, declared, -, inner⟩ := encodable
      obtain ⟨⟨found, after⟩, readable⟩ := readable
      rw [depth] at enough
      obtain ⟨deep, rfl⟩ : ∃ rest, deep = rest + 1 := ⟨deep - 1, by omega⟩
      rw [encode, List.append_assoc] at ahead
      have ahead' := Cursor.rest_advance _ ahead
      obtain ⟨w₁, built, same₁, made₁⟩ :=
        createObject_made listed same first found after small ahead
      have length₁ : w₁.made.length = w.made.length + 1 := by
        rw [made₁, List.length_append, List.length_singleton]
      have inside : w.made.length < w₁.made.length := by omega
      obtain ⟨w₂, looped, same₂, made₂⟩ := loop_run first children (b := cursor.advance b _) inner
        readable (Nat.le_of_succ_le_succ enough) same₁ small inside ahead'
      refine ⟨w₂.addToWorld w.made.length, ?_, same₂, ?_⟩
      · rw [createObjectFromFile, run_bind_ok built]
        dsimp only
        rw [declared, run_bind_ok looped, cursor.advance_add, encode, List.length_append]
        rfl
      · change w₂.made = _
        rw [made₂, made₁, modify_last, List.append_assoc, objects, List.length_append]
        simp [store]

/-- The loop over an inventory makes its objects in their order, each with those in it, and puts
each into the inventory of the object it is of. The induction is on the nodes, with the size of the
tree below as what ends it. -/
theorem loop_run (first : things.cur = 0) : ∀ (nodes : List ObjectNode) {w : Making}
    {b : ByteBuffer} {more : List UInt8} {deep obj : Nat}, EncodableAll toc nodes →
    ReadableAll toc things nodes → depthAll nodes ≤ deep → w.things = things →
    b.size < 0x100000000 → obj < w.made.length →
    cursor.rest b = encodeAll nodes b.rpos ++ more →
      ∃ w', inventoryLoop (createObjectFromFile toc deep) obj nodes.length w b =
          .ok (some w', cursor.advance b (encodeAll nodes b.rpos).length) ∧
        w'.things = things ∧ w'.made = w.made.modify obj (store (refs nodes w.made.length)) ++
          objectsAll toc things nodes w.made.length
  | [], w, b, more, deep, obj, _, _, _, same, _, _, _ => by
      refine ⟨w, rfl, same, ?_⟩
      have nothing : store (refs [] w.made.length) = id := by
        funext o
        simp [store, refs]
      rw [nothing, List.modify_id, objectsAll, List.append_nil]
  | node :: rest, w, b, more, deep, obj, encodable, readable, enough, same, small, inside,
      ahead => by
      rw [encodeAll, List.append_assoc] at ahead
      have ahead' := Cursor.rest_advance _ ahead
      obtain ⟨w₁, created, same₁, made₁⟩ := create_run first node encodable.1 readable.1
        ((Nat.le_max_left _ _).trans enough) same small ahead
      have made₁' : (w₁.insertInventory obj w.made.length).made =
          w.made.modify obj (fun o => { o with inventory := insert w.made.length o.inventory }) ++
            objects toc things node w.made.length := by
        rw [← modify_append inside, ← made₁]
        rfl
      have length₁ : (w₁.insertInventory obj w.made.length).made.length =
          w.made.length + count node := by
        rw [made₁', List.length_append, List.length_modify, length_objects]
      have inside₁ : obj < (w₁.insertInventory obj w.made.length).made.length := by omega
      obtain ⟨w₂, looped, same₂, made₂⟩ := loop_run first rest
        (w := w₁.insertInventory obj w.made.length) (b := cursor.advance b _)
        encodable.2 readable.2 ((Nat.le_max_right _ _).trans enough) same₁ small inside₁ ahead'
      refine ⟨w₂, ?_, same₂, ?_⟩
      · rw [List.length_cons, inventoryLoop, run_bind_ok created]
        dsimp only
        rw [looped, cursor.advance_add, encodeAll, List.length_append]
        rfl
      · have stored : store (refs rest (w.made.length + count node)) ∘
            (fun o => { o with inventory := insert w.made.length o.inventory }) =
              store (refs (node :: rest) w.made.length) := by
          funext o
          simp [store, refs, Finset.insert_union, Finset.union_insert]
        rw [made₂, length₁, made₁', modify_append (by rwa [List.length_modify]),
          List.modify_modify_eq, stored, List.append_assoc, objectsAll]

end

mutual

/-- An object that cannot be made, or has one in it that cannot, stops the server. -/
theorem create_fails (first : things.cur = 0) : ∀ (node : ObjectNode) {w : Making}
    {b : ByteBuffer} {more : List UInt8} {deep : Nat}, Encodable toc node →
    ¬ Readable toc things node → node.depth ≤ deep → w.things = things →
    b.size < 0x100000000 → cursor.rest b = encode node b.rpos ++ more →
      ∃ fault, createObjectFromFile toc deep w b = .error fault
  | mk id record tail pad children, w, b, more, deep, encodable, unreadable, enough, same, small,
      ahead => by
      obtain ⟨listed, declared, -, inner⟩ := encodable
      rw [depth] at enough
      obtain ⟨deep, rfl⟩ : ∃ rest, deep = rest + 1 := ⟨deep - 1, by omega⟩
      rw [encode, List.append_assoc] at ahead
      rw [createObjectFromFile]
      by_cases readable : position toc things id ≠ 0 ∧ (nextEntry toc things id).isSome
      · obtain ⟨w₁, built, same₁, made₁⟩ :=
          createObject_made listed same first readable.1 readable.2 small ahead
        have inside : w.made.length < w₁.made.length := by
          rw [made₁, List.length_append, List.length_singleton]
          omega
        obtain ⟨fault, failed⟩ := loop_fails first children (w := w₁) (b := cursor.advance b _)
          inner (fun all => unreadable ⟨readable, all⟩) (Nat.le_of_succ_le_succ enough) same₁ small
          w.made.length inside (Cursor.rest_advance _ ahead)
        refine ⟨fault, ?_⟩
        rw [run_bind_ok built]
        dsimp only
        rw [declared, run_bind_error failed]
      · rw [head, List.append_assoc] at ahead
        obtain ⟨fault, failed⟩ := createObject_fails listed same first readable ahead
        exact ⟨fault, run_bind_error failed⟩

/-- Where some node of an inventory has no entry behind its own, the loop over the inventory stops
with a fault, at the first such node. -/
theorem loop_fails (first : things.cur = 0) : ∀ (nodes : List ObjectNode) {w : Making}
    {b : ByteBuffer} {more : List UInt8} {deep : Nat}, EncodableAll toc nodes →
    ¬ ReadableAll toc things nodes → depthAll nodes ≤ deep → w.things = things →
    b.size < 0x100000000 → ∀ obj < w.made.length,
    cursor.rest b = encodeAll nodes b.rpos ++ more →
      ∃ fault, inventoryLoop (createObjectFromFile toc deep) obj nodes.length w b = .error fault
  | [], _, _, _, _, _, unreadable, _, _, _, _, _, _ => (unreadable trivial).elim
  | node :: rest, w, b, more, deep, encodable, unreadable, enough, same, small, obj, inside,
      ahead => by
      rw [encodeAll, List.append_assoc] at ahead
      rw [List.length_cons, inventoryLoop]
      have enough₁ := (Nat.le_max_left _ _).trans enough
      by_cases readable : Readable toc things node
      · obtain ⟨w₁, created, same₁, made₁⟩ := create_run first node encodable.1 readable enough₁
          same small ahead
        have inside₁ : obj < (w₁.insertInventory obj w.made.length).made.length := by
          have length₁ : (w₁.insertInventory obj w.made.length).made.length = w₁.made.length :=
            List.length_modify ..
          rw [length₁, made₁, List.length_append]
          omega
        obtain ⟨fault, failed⟩ := loop_fails first rest
          (w := w₁.insertInventory obj w.made.length) (b := cursor.advance b _) encodable.2
          (fun all => unreadable ⟨readable, all⟩) ((Nat.le_max_right _ _).trans enough) same₁ small
          obj inside₁ (Cursor.rest_advance _ ahead)
        refine ⟨fault, ?_⟩
        rw [run_bind_ok created]
        exact failed
      · obtain ⟨fault, failed⟩ := create_fails first node encodable.1 readable enough₁ same small
          ahead
        exact ⟨fault, run_bind_error failed⟩

end

end Trees

/-! ### The section -/

section Objects

variable {w : Making} {b : ByteBuffer} {more : List UInt8} {deep turns : Nat} {closing : UInt16}

/-- What lies ahead is not at the end. -/
theorem rpos_lt {bytes : List UInt8} (nonempty : 0 < bytes.length)
    (ahead : cursor.rest b = bytes ++ more) : b.rpos < b.size := by
  have whole := length_rest ahead
  rw [List.length_append] at whole
  omega

/-- A number that is not in the table ends the loop. -/
theorem objectsLoop_closing (unlisted : toc.lookup closing = none)
    (ahead : cursor.rest b = encodeScalar closing ++ more) :
    objectsLoop toc (deep + 1) (turns + 1) w b =
      .ok (some w, cursor.advance b (encodeScalar closing).length) := by
  have two : 0 < (encodeScalar closing).length := by
    rw [length_encodeScalar]
    decide
  have created : createObjectFromFile toc (deep + 1) w b =
      .ok (some (none, w), cursor.advance b (encodeScalar closing).length) := by
    have read : w.createObject toc b =
        .ok ((none, w), cursor.advance b (encodeScalar closing).length) := by
      rw [Making.createObject, run_bind_ok (readUInt16_reads closing b _ ahead)]
      dsimp only
      rw [unlisted]
      rfl
    rw [createObjectFromFile, run_bind_ok read]
    rfl
  rw [objectsLoop, run_bind_ok rfl, if_pos (rpos_lt two ahead), run_bind_ok created]
  rfl

/-- The loop makes the objects, one turn for each, and one for the number that ends it. -/
theorem objectsLoop_run (first : things.cur = 0) (unlisted : toc.lookup closing = none)
    {nodes : List ObjectNode} (encodable : EncodableAll toc nodes)
    (readable : ReadableAll toc things nodes) (enough : depthAll nodes ≤ deep + 1)
    (turns_enough : nodes.length ≤ turns) (same : w.things = things)
    (small : b.size < 0x100000000)
    (ahead : cursor.rest b = encodeAll nodes b.rpos ++ (encodeScalar closing ++ more)) :
    ∃ w', objectsLoop toc (deep + 1) (turns + 1) w b = .ok (some w',
        cursor.advance b ((encodeAll nodes b.rpos).length + (encodeScalar closing).length)) ∧
      w'.made = w.made ++ objectsAll toc things nodes w.made.length := by
  induction nodes generalizing w b turns with
  | nil =>
      refine ⟨w, ?_, (List.append_nil _).symm⟩
      rw [objectsLoop_closing unlisted ahead, encodeAll, List.length_nil, Nat.zero_add]
  | cons node rest ih =>
      obtain ⟨turns, rfl⟩ : ∃ before, turns = before + 1 := by
        rw [List.length_cons] at turns_enough
        exact ⟨turns - 1, by omega⟩
      rw [encodeAll, List.append_assoc] at ahead
      obtain ⟨w₁, created, same₁, made₁⟩ := create_run first node encodable.1 readable.1
        ((Nat.le_max_left _ _).trans enough) same small ahead
      obtain ⟨w₂, looped, made₂⟩ := ih (b := cursor.advance b _) encodable.2 readable.2
        ((Nat.le_max_right _ _).trans enough) (Nat.le_of_succ_le_succ turns_enough) same₁ small
        (Cursor.rest_advance _ ahead)
      refine ⟨w₂, ?_, ?_⟩
      · rw [objectsLoop, run_bind_ok rfl, if_pos (rpos_lt (encode_ahead node _) ahead),
          run_bind_ok created]
        dsimp only
        rw [looped, cursor.advance_add, encodeAll, List.length_append, Nat.add_assoc]
        rfl
      · rw [made₂, made₁, List.append_assoc, List.length_append, length_objects, objectsAll]

/-- Where some object of a section has no entry behind its own, the loop over the section stops with
a fault. -/
theorem objectsLoop_fails (first : things.cur = 0) {nodes : List ObjectNode}
    (encodable : EncodableAll toc nodes) (unreadable : ¬ ReadableAll toc things nodes)
    (enough : depthAll nodes ≤ deep) (turns_enough : nodes.length ≤ turns)
    (same : w.things = things) (small : b.size < 0x100000000)
    (ahead : cursor.rest b = encodeAll nodes b.rpos ++ more) :
    ∃ fault, objectsLoop toc deep turns w b = .error fault := by
  induction nodes generalizing w b turns with
  | nil => exact (unreadable trivial).elim
  | cons node rest ih =>
      obtain ⟨turns, rfl⟩ : ∃ before, turns = before + 1 := by
        rw [List.length_cons] at turns_enough
        exact ⟨turns - 1, by omega⟩
      rw [encodeAll, List.append_assoc] at ahead
      have enough₁ := (Nat.le_max_left _ _).trans enough
      rw [objectsLoop, run_bind_ok rfl, if_pos (rpos_lt (encode_ahead node _) ahead)]
      by_cases readable : Readable toc things node
      · obtain ⟨w₁, created, same₁, -⟩ := create_run first node encodable.1 readable enough₁ same
          small ahead
        obtain ⟨fault, failed⟩ := ih (b := cursor.advance b _) encodable.2
          (fun all => unreadable ⟨readable, all⟩) ((Nat.le_max_right _ _).trans enough)
          (Nat.le_of_succ_le_succ turns_enough) same₁ small (Cursor.rest_advance _ ahead)
        refine ⟨fault, ?_⟩
        rw [run_bind_ok created]
        exact failed
      · obtain ⟨fault, failed⟩ := create_fails first node encodable.1 readable enough₁ same small
          ahead
        exact ⟨fault, run_bind_error failed⟩

end Objects

/-- The bytes of the section, from its length on, at a position. -/
def sectionBytes (length : UInt64) (word : UInt16) (nodes : List ObjectNode) (closing : UInt16)
    (pos : Nat) : List UInt8 :=
  (encodeScalar length ++ encodeScalar word) ++
    (encodeAll nodes (pos + 10) ++ encodeScalar closing)

end ObjectNode

open ObjectNode

/-- `readObjects` comes to an end behind some bytes, and has made some objects. -/
def ReadsObjects (toc : List (UInt16 × List UInt8)) (w : Making) (b : ByteBuffer) (length : Nat)
    (nodes : List MapObject) : Prop :=
  ∃ deep turns, ∀ deep' ≥ deep, ∀ turns' ≥ turns, ∃ w',
    readObjects toc deep' turns' w b = .ok (some w', cursor.advance b length) ∧ w'.made = nodes

/-- `readObjects` makes of a section the objects that are in it, each before those in it and with
those in its inventory, exactly if for each there is an entry after the one its name has in
thing.bin. -/
theorem readObjects_faithful_iff {toc : List (UInt16 × List UInt8)} {things : ThingList}
    (first : things.cur = 0) (mgr : ObjectMgr Nat) {nodes : List ObjectNode}
    (encodable : EncodableAll toc nodes) {closing : UInt16} (unlisted : toc.lookup closing = none)
    (length : UInt64) (word : UInt16) {b : ByteBuffer} {more : List UInt8}
    (small : b.size < 0x100000000)
    (ahead : cursor.rest b = sectionBytes length word nodes closing b.rpos ++ more) :
    ReadsObjects toc { things := things, mgr := mgr } b
      (sectionBytes length word nodes closing b.rpos).length (objectsAll toc things nodes 0) ↔
        ReadableAll toc things nodes := by
  have eight : (encodeScalar length).length = 8 := length_encodeScalar length
  have two : (encodeScalar word).length = 2 := length_encodeScalar word
  have ten : (encodeScalar length ++ encodeScalar word).length = 10 := by
    rw [List.length_append, eight, two]
  have total : (sectionBytes length word nodes closing b.rpos).length =
      10 + ((encodeAll nodes (b.rpos + 10)).length + (encodeScalar closing).length) := by
    rw [sectionBytes, List.length_append, ten, List.length_append]
  rw [sectionBytes, List.append_assoc, List.append_assoc] at ahead
  have behind := Cursor.rest_advance _ ahead
  rw [eight] at behind
  have inner := Cursor.rest_advance _ behind
  rw [two, cursor.advance_add, List.append_assoc] at inner
  have fields : Reads cursor (readFields [2]) (encodeScalar word) () := readFields_reads two
  have skipped := fields _ _ behind
  rw [two, cursor.advance_add] at skipped
  have start (deep turns : Nat) :
      readObjects toc deep turns { things := things, mgr := mgr } b =
        objectsLoop toc deep turns { things := things, mgr := mgr } (cursor.advance b 10) := by
    rw [readObjects, run_bind_ok (readJump_run ahead), run_bind_ok skipped]
  constructor
  · rintro ⟨deep, turns, reads⟩
    by_contra unreadable
    obtain ⟨w', read, -⟩ := reads (Nat.max deep (depthAll nodes)) (Nat.le_max_left _ _)
      (Nat.max turns nodes.length) (Nat.le_max_left _ _)
    obtain ⟨fault, failed⟩ := objectsLoop_fails first encodable unreadable (Nat.le_max_right _ _)
      (Nat.le_max_right _ _) (w := { things := things, mgr := mgr }) rfl (b := cursor.advance b 10)
      small inner
    rw [start, failed] at read
    cases read
  · intro readable
    refine ⟨depthAll nodes + 1, nodes.length + 1, fun deep deep_enough turns turns_enough => ?_⟩
    obtain ⟨deep, rfl⟩ : ∃ before, deep = before + 1 := ⟨deep - 1, by omega⟩
    obtain ⟨turns, rfl⟩ : ∃ before, turns = before + 1 := ⟨turns - 1, by omega⟩
    have deep_enough : depthAll nodes ≤ deep + 1 := Nat.le_of_succ_le deep_enough
    have turns_enough : nodes.length ≤ turns := Nat.le_of_succ_le_succ turns_enough
    obtain ⟨w', run, made⟩ := objectsLoop_run first unlisted encodable readable deep_enough
      turns_enough (w := { things := things, mgr := mgr }) rfl (b := cursor.advance b 10) small
      inner
    refine ⟨w', ?_, made⟩
    rw [start, run, total, cursor.advance_add]
    rfl

/-- A record without more. -/
def plainRecord (props1 : UInt16) : DataRecord where
  props1 := props1
  props2 := 0
  extent := 0
  unknown := 0
  x := 0
  y := 0
  more := none
  plain := 0
  plain_ne := by decide

/-- A record of an object that has one in it. -/
def bagRecord : DataRecord :=
  { plainRecord 7 with
    more := some {
      flags := 0, script := [0x41], team := 0, inventory := 1, group := [5], word := 0, dword := 0
      text := [], qword := 0
      script_short := by decide, group_short := by decide, text_short := by decide } }

def bagNode : ObjectNode :=
  .mk 1 bagRecord [] (fun _ => 0) [.mk 2 (plainRecord 8) [0, 0] (fun _ => 0) []]

/-- A table of two names. -/
def bagTOC : List (UInt16 × List UInt8) := [(1, [0x41]), (2, [0x42])]

def bagFile : ByteBuffer where
  storage := sectionBytes 0 1 [bagNode] 0 0

/-- With a third entry in thing.bin, the bag is read with what is in it. -/
theorem readObjects_faithful_bag :
    ReadsObjects bagTOC { things := ⟨[⟨[0x41], 0⟩, ⟨[0x42], 0⟩, ⟨[0x43], 0⟩], 0⟩ } bagFile
      (sectionBytes 0 1 [bagNode] 0 0).length
      (objectsAll bagTOC ⟨[⟨[0x41], 0⟩, ⟨[0x42], 0⟩, ⟨[0x43], 0⟩], 0⟩ [bagNode] 0) := by
  have encodable : EncodableAll bagTOC [bagNode] := by
    refine ⟨⟨rfl, rfl, by decide, ⟨rfl, rfl, by decide, trivial⟩, trivial⟩, trivial⟩
  have readable : ReadableAll bagTOC ⟨[⟨[0x41], 0⟩, ⟨[0x42], 0⟩, ⟨[0x43], 0⟩], 0⟩ [bagNode] := by
    refine ⟨⟨⟨by decide, rfl⟩, ⟨⟨by decide, rfl⟩, trivial⟩, trivial⟩, trivial⟩
  have whole : cursor.rest bagFile = sectionBytes 0 1 [bagNode] 0 bagFile.rpos ++ [] :=
    (List.append_nil _).symm
  exact (readObjects_faithful_iff rfl _ encodable rfl 0 1 (by decide) whole).mpr readable

/-- The object in the bag alone. -/
def loneNode : ObjectNode := .mk 2 (plainRecord 8) [0, 0] (fun _ => 0) []

def loneFile : ByteBuffer where
  storage := sectionBytes 0 1 [loneNode] 0 0

/-- An object of the only entry in thing.bin: the pointer to the entry after it is NULL. -/
theorem readObjects_last_fails :
    EncodableAll [(2, [0x42])] [loneNode] ∧
      ¬ ReadsObjects [(2, [0x42])] { things := ⟨[⟨[0x42], 0⟩], 0⟩ } loneFile
        (sectionBytes 0 1 [loneNode] 0 0).length
        (objectsAll [(2, [0x42])] ⟨[⟨[0x42], 0⟩], 0⟩ [loneNode] 0) := by
  refine ⟨⟨⟨rfl, rfl, by decide, trivial⟩, trivial⟩, ?_⟩
  rintro ⟨deep, turns, reads⟩
  have failed : readObjects [(2, [0x42])] (deep + 1) (turns + 1)
      { things := ⟨[⟨[0x42], 0⟩], 0⟩ } loneFile = .error .nullPointer := rfl
  obtain ⟨w', read, -⟩ := reads (deep + 1) (Nat.le_add_right _ _) (turns + 1) (Nat.le_add_right _ _)
  rw [failed] at read
  cases read

end NoxServer.Map
