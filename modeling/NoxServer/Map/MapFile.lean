import Mathlib.Algebra.Order.BigOperators.Group.List
import Mathlib.Algebra.Order.Group.Nat
import NoxServer.Crypt.Loaders
import NoxServer.Map.ObjectData
import NoxServer.Map.Walls

/-!
A map file as a whole (`NoxMap::open`, `NoxObjectTOC::read`).

The file is decrypted if it has to be, and its sections are read by their names until the buffer
ends. The names of the objects, the walls and the objects are kept, and the other sections are
jumped over. A file that was written as its sections, encrypted or not, is loaded as it was written
(`openMap_written`).
-/

namespace NoxServer.Map

open ByteBuffer Objects Consume
open Decode (Cursor Decodes Reads ReadsFrom)

/-! ### The functions of the source -/

/-- `NoxObjectTOC`. -/
abbrev TOC := List (UInt16 × List UInt8)

def TOC.insert (toc : TOC) (id : UInt16) (name : List UInt8) : TOC :=
  if (toc.lookup id).isSome then toc else toc ++ [(id, name)]

/-- The loop of `NoxObjectTOC::read`, for some turns. -/
def TOC.loop (finish : Nat) : Nat → TOC → Reader (Option TOC)
  | 0, _ => return none
  | turns + 1, toc => do
      let pos ← getRpos
      if pos < finish then
        let id ← readUInt16
        let name ← readstring 1 0xFF
        loop finish turns (TOC.insert toc id name)
      else return some toc

/-- `NoxObjectTOC::read(rdr)`. -/
def TOC.read (turns : Nat) (toc : TOC) : Reader (Option TOC) := do
  let jump ← readJump
  readFields [2]
  let entries ← readUInt16
  match ← TOC.loop jump.finish turns toc with
  | none => return none
  | some toc => if toc.length = entries.toNat then return some toc else throw .assertion

/-- `NoxMap`, and the objects that are made. -/
structure NoxMap where
  objectTOC : TOC := []
  walls : Walls := {}
  objects : Making

/-- What the comparisons with the name of a section lead to. -/
def NoxMap.readSection (depth turns : Nat) (m : NoxMap) : Section → Reader (Option NoxMap)
  | .skipped => do
      let jump ← readJump
      setRpos jump.finish
      return some m
  | .wallMap => do
      let walls ← m.walls.read
      return some { m with walls }
  | .objectTOC => do
      match ← TOC.read turns m.objectTOC with
      | none => return none
      | some objectTOC => return some { m with objectTOC }
  | .objectData => do
      match ← readObjects m.objectTOC depth turns m.objects with
      | none => return none
      | some objects => return some { m with objects }
  | .unknown => return some m

/-- A turn of the loop of `open`. -/
def NoxMap.section (depth turns : Nat) (m : NoxMap) : Reader (Option NoxMap) := do
  let buffer ← readstring 1 0xFF
  skipToQword
  m.readSection depth turns (sectionOf buffer)

/-- The loop of `open`, for some turns. -/
def NoxMap.loop (depth turns : Nat) : Nat → NoxMap → Reader (Option NoxMap)
  | 0, _ => return none
  | more + 1, m => do
      let b ← get
      if b.rpos < b.size then
        match ← m.section depth turns with
        | none => return none
        | some m => loop depth turns more m
      else return some m

/-- `NoxMap::open(fileName)`, with the bytes of the file. -/
def openMap (things : ThingList) (mgr : ObjectMgr Nat) (depth turns : Nat) (file : List UInt8) :
    Except Fault (Option NoxMap) := do
  let b ← openFile file
  let out ← NoxMap.loop depth turns turns { objects := { things, mgr } } b
  return out.1

/-! ### Files -/

/-- What stands in a section behind its name. -/
inductive MapSection where
  /-- A section that is jumped over. -/
  | skipped (name body : List UInt8) (listed : name ∈ skippedSections)
  /-- Some walls, and what is behind them. -/
  | wallMap (header : List UInt8) (walls : List Record) (spare : List UInt8)
      (sized : header.length = 18) (inside : ∀ wall ∈ walls, wall.x ≠ 0xFF ∧ wall.y ≠ 0xFF)
  /-- The names of objects, and how many there are to be. -/
  | objectTOC (word entries : UInt16) (names : TOC) (short : ∀ entry ∈ names, entry.2.length < 255)
  /-- Objects, up to a number that has no name. -/
  | objectData (length : UInt64) (word : UInt16) (nodes : List ObjectNode) (closing : UInt16)

namespace MapSection

/-- The name, up to its NUL. -/
def name : MapSection → List UInt8
  | skipped name _ _ => name
  | wallMap .. => ascii "WallMap"
  | objectTOC .. => ascii "ObjectTOC"
  | objectData .. => ascii "ObjectData"

/-- A length, and as many bytes. -/
def framed (body : List UInt8) : List UInt8 := encodeScalar (UInt64.ofNat body.length) ++ body

/-- An entry of the table of names. -/
def encodeName (entry : UInt16 × List UInt8) : List UInt8 :=
  encodeScalar entry.1 ++ DataRecord.counted (UInt8.ofNat entry.2.length) entry.2

/-- What is behind the name, from a position on. -/
def body : MapSection → Nat → List UInt8
  | skipped _ body _, _ => framed body
  | wallMap header walls spare _ _, _ =>
      framed (header ++ (walls.flatMap Record.encode ++ 0xFF :: spare))
  | objectTOC word entries names _, _ =>
      framed (encodeScalar word ++ (encodeScalar entries ++ names.flatMap encodeName))
  | objectData length word nodes closing, pos =>
      ObjectNode.sectionBytes length word nodes closing pos

variable (pad : Nat → Nat → UInt8)

/-- The name with its NUL and its length, and the bytes up to the next boundary of eight bytes. -/
def heading (part : MapSection) (pos : Nat) : List UInt8 :=
  DataRecord.counted (UInt8.ofNat (part.name.length + 1)) (part.name ++ [0]) ++
    ObjectNode.padding (pad pos) (pos + (part.name.length + 2))

/-- A section at a position. -/
def encode (part : MapSection) (pos : Nat) : List UInt8 :=
  part.heading pad pos ++ part.body (pos + (part.heading pad pos).length)

def encodeAll : List MapSection → Nat → List UInt8
  | [], _ => []
  | part :: sections, pos =>
      part.encode pad pos ++ encodeAll sections (pos + (part.encode pad pos).length)

end MapSection

/-- What is kept of the sections that are read: the names, the walls in their order, and the
objects. -/
structure Contents where
  toc : TOC := []
  walls : List NoxWall := []
  objects : List MapObject := []

namespace MapSection

variable (things : ThingList)

/-- What is kept after a section. -/
def add (contents : Contents) : MapSection → Contents
  | skipped .. => contents
  | wallMap _ walls _ _ _ => { contents with walls := contents.walls ++ walls.map Record.wall }
  | objectTOC _ _ names _ =>
      { contents with
        toc := names.foldl (fun toc entry => toc.insert entry.1 entry.2) contents.toc }
  | objectData _ _ nodes _ =>
      { contents with
        objects := contents.objects ++
          ObjectNode.objectsAll contents.toc things nodes contents.objects.length }

/-- The section can be read after others. -/
def Fits (contents : Contents) : MapSection → Prop
  | skipped .. => True
  | wallMap .. => True
  | objectTOC word entries names short =>
      (add things contents (objectTOC word entries names short)).toc.length = entries.toNat
  | objectData _ _ nodes closing =>
      ObjectNode.EncodableAll contents.toc nodes ∧
        ObjectNode.ReadableAll contents.toc things nodes ∧ contents.toc.lookup closing = none

/-- The sections can be read, one after the other. -/
def FitAll : Contents → List MapSection → Prop
  | _, [] => True
  | contents, part :: sections =>
      part.Fits things contents ∧ FitAll (part.add things contents) sections

/-- How deep its objects are in each other. -/
def depth : MapSection → Nat
  | objectData _ _ nodes _ => ObjectNode.depthAll nodes + 1
  | _ => 0

/-- How many turns the loop in it takes. -/
def turns : MapSection → Nat
  | objectTOC _ _ names _ => names.length + 1
  | objectData _ _ nodes _ => nodes.length + 1
  | _ => 0

end MapSection

/-- A map file: the rest of the header, the sections, some zeros behind them, and what is
between a name and the next boundary of eight bytes. -/
structure MapFile where
  header : List UInt8
  sections : List MapSection
  zeros : Nat
  pad : Nat → Nat → UInt8
  header_sized : header.length = 20

namespace MapFile

def encode (map : MapFile) : List UInt8 :=
  encodeScalar (0xFADEFACE : UInt32) ++ (map.header ++
    (MapSection.encodeAll map.pad map.sections 24 ++ List.replicate map.zeros 0))

/-- What is kept of all sections. -/
def contents (things : ThingList) (map : MapFile) : Contents :=
  map.sections.foldl (MapSection.add things) {}

end MapFile

/-- The map has what was kept. -/
structure Contents.LoadedAs (contents : Contents) (things : ThingList) (m : NoxMap) : Prop where
  toc : m.objectTOC = contents.toc
  walls : Agrees contents.walls m.walls
  objects : m.objects.made = contents.objects
  things : m.objects.things = things

/-! ### The table of names -/

section

variable {b : ByteBuffer} {more : List UInt8}

/-- `skip()` moves over what stands before the next boundary. -/
theorem skipToQword_reads (pad : Nat → UInt8) (pos : Nat) :
    ReadsFrom cursor pos skipToQword (ObjectNode.padding pad pos) () := by
  intro b more here ahead
  obtain rfl : b.rpos = pos := here
  rw [ObjectNode.length_padding]
  rfl

/-- The length of some bytes is read, and the position behind them is found. -/
theorem readJump_framed {body : List UInt8} (small : b.size < 0x80000000)
    (ahead : cursor.rest b = MapSection.framed body ++ more) :
    ∃ jump, readJump b = .ok (jump, cursor.advance b 8) ∧
      jump.finish = b.rpos + (MapSection.framed body).length ∧
      cursor.rest (cursor.advance b 8) = body ++ more := by
  have whole := length_rest ahead
  rw [MapSection.framed, List.append_assoc] at ahead
  have eight : (encodeScalar (UInt64.ofNat body.length)).length = 8 := length_encodeScalar _
  have behind := Cursor.rest_advance _ ahead
  rw [MapSection.framed, List.length_append, List.length_append, eight] at whole
  rw [eight] at behind
  refine ⟨_, ObjectNode.readJump_run ahead, ?_, behind⟩
  rw [ObjectNode.finish_eq (by omega), MapSection.framed, List.length_append, eight]
  omega

theorem readName_reads (name : List UInt8) (short : name.length < 255) :
    Reads cursor (readstring 1 0xFF) (DataRecord.counted (UInt8.ofNat name.length) name) name := by
  have room : name.length < UInt8.size := Nat.lt_trans short (by decide)
  have length : Scalar.bits (UInt8.ofNat name.length) = name.length :=
    UInt8.toNat_ofNat_of_lt room
  exact readstring_fits length (by omega)

/-- The loop goes through the entries. -/
theorem TOC.loop_run (toc : TOC) {names : TOC} {turns : Nat} (enough : names.length < turns)
    (short : ∀ entry ∈ names, entry.2.length < 255) {finish : Nat}
    (ends : finish = b.rpos + (names.flatMap MapSection.encodeName).length)
    (ahead : cursor.rest b = names.flatMap MapSection.encodeName ++ more) :
    TOC.loop finish turns toc b =
      .ok (some (names.foldl (fun toc entry => toc.insert entry.1 entry.2) toc),
        cursor.advance b (names.flatMap MapSection.encodeName).length) := by
  induction names generalizing b turns toc with
  | nil =>
      obtain ⟨turns, rfl⟩ : ∃ rest, turns = rest + 1 := ⟨turns - 1, by omega⟩
      have ended : ¬b.rpos < finish := by
        rw [ends]
        exact Nat.lt_irrefl _
      rw [TOC.loop, run_bind_ok rfl, if_neg ended]
      rfl
  | cons entry names ih =>
      obtain ⟨turns, rfl⟩ : ∃ rest, turns = rest + 1 := ⟨turns - 1, by omega⟩
      obtain ⟨here, others⟩ := List.forall_mem_cons.mp short
      have two : (encodeScalar entry.1).length = 2 := length_encodeScalar _
      rw [List.flatMap_cons, MapSection.encodeName, List.length_append, List.length_append,
        two] at ends
      rw [List.flatMap_cons, MapSection.encodeName, List.append_assoc, List.append_assoc] at ahead
      have behind := Cursor.rest_advance _ ahead
      have inside : b.rpos < finish := by omega
      rw [TOC.loop, run_bind_ok rfl, if_pos inside,
        run_bind_ok (readUInt16_reads entry.1 b _ ahead),
        run_bind_ok (readName_reads _ here _ _ behind)]
      refine (ih _ (Nat.lt_of_succ_lt_succ enough) others ?_
        (Cursor.rest_advance _ behind)).trans ?_
      · change finish = b.rpos + (encodeScalar entry.1).length +
          (DataRecord.counted (UInt8.ofNat entry.2.length) entry.2).length + _
        rw [two]
        omega
      · rw [List.foldl_cons, List.flatMap_cons, MapSection.encodeName, List.length_append,
          List.length_append, cursor.advance_add, cursor.advance_add, Nat.add_assoc]

/-- `NoxObjectTOC::read` adds the entries, if there are as many as it says. -/
theorem TOC.read_run {word entries : UInt16} {names : TOC} {turns : Nat}
    (enough : names.length < turns) (short : ∀ entry ∈ names, entry.2.length < 255) {toc : TOC}
    (counted : (names.foldl (fun toc entry => toc.insert entry.1 entry.2) toc).length =
      entries.toNat)
    (small : b.size < 0x80000000)
    (ahead : cursor.rest b = MapSection.framed (encodeScalar word ++ (encodeScalar entries ++
      names.flatMap MapSection.encodeName)) ++ more) :
    TOC.read turns toc b =
      .ok (some (names.foldl (fun toc entry => toc.insert entry.1 entry.2) toc),
        cursor.advance b (MapSection.framed (encodeScalar word ++ (encodeScalar entries ++
          names.flatMap MapSection.encodeName))).length) := by
  have two : (encodeScalar word).length = 2 := length_encodeScalar _
  have two' : (encodeScalar entries).length = 2 := length_encodeScalar _
  have eight (body : List UInt8) : (MapSection.framed body).length = 8 + body.length := by
    rw [MapSection.framed, List.length_append, length_encodeScalar]
    rfl
  obtain ⟨jump, jumped, finish, behind⟩ := readJump_framed small ahead
  rw [List.append_assoc, List.append_assoc] at behind
  have worded := readFields_run (show (encodeScalar word).length = [2].sum from two) behind
  have behind' := Cursor.rest_advance _ behind
  have number := readUInt16_reads entries _ _ behind'
  rw [eight, List.length_append, List.length_append, two, two'] at finish
  have ends : jump.finish =
      b.rpos + 8 + (encodeScalar word).length + (encodeScalar entries).length +
        (names.flatMap MapSection.encodeName).length := by
    rw [two, two']
    omega
  have loop := TOC.loop_run (b := cursor.advance (cursor.advance (cursor.advance b 8) _) _) toc
    enough short ends (Cursor.rest_advance _ behind')
  rw [TOC.read, run_bind_ok jumped, run_bind_ok worded, run_bind_ok number, run_bind_ok loop]
  dsimp only
  rw [if_pos counted, eight, List.length_append, List.length_append, cursor.advance_add,
    cursor.advance_add, cursor.advance_add, ← Nat.add_assoc, ← Nat.add_assoc]
  rfl

end

/-! ### Walls -/

theorem walls_run {b : ByteBuffer} {more header : List UInt8} {records : List Record}
    {spare : List UInt8} (sized : header.length = 18)
    (inside : ∀ wall ∈ records, wall.x ≠ 0xFF ∧ wall.y ≠ 0xFF) {seen : List NoxWall}
    {walls : Walls} (agrees : Agrees seen walls) (small : b.size < 0x80000000)
    (ahead : cursor.rest b = MapSection.framed (header ++ (records.flatMap Record.encode ++
      0xFF :: spare)) ++ more) :
    ∃ walls', walls.read b = .ok (walls', cursor.advance b (MapSection.framed (header ++
        (records.flatMap Record.encode ++ 0xFF :: spare))).length) ∧
      Agrees (seen ++ records.map Record.wall) walls' := by
  obtain ⟨jump, jumped, finish, behind⟩ := readJump_framed small ahead
  rw [List.append_assoc, List.append_assoc] at behind
  have fields := readFields_run (show header.length = [2, 4, 4, 4, 4].sum from sized) behind
  obtain ⟨walls', count, run, agrees'⟩ :=
    readWalls_run inside agrees (Cursor.rest_advance _ behind)
  refine ⟨walls'.addCollisionWalls, ?_, agrees'.map, agrees'.shape, agrees'.within⟩
  rw [Walls.read, run_bind_ok jumped, run_bind_ok fields, run_bind_ok run, finish]
  rfl

/-! ### Objects -/

section

variable {toc : TOC} {w w' : Making} {b b' : ByteBuffer}

/-- A lookup from the first entry on leaves the list as it is. -/
theorem getIndex_things {things : ThingList} (first : things.cur = 0) (name : List UInt8) :
    (things.getIndex name).2 = things := by
  cases things
  exact congrArg (ThingList.mk _) first.symm

/-- An object that is made leaves thing.bin as it was, with its cursor at the first entry again. -/
theorem createObject_things (first : w.things.cur = 0) {created : Option (Nat × UInt8)}
    (run : w.createObject toc b = .ok ((created, w'), b')) : w'.things = w.things := by
  unfold Making.createObject at run
  obtain ⟨type, b₁, -, run⟩ := bind_run_eq_ok run
  cases known : toc.lookup type with
  | none =>
      rw [known] at run
      cases run
      rfl
  | some name =>
      rw [known] at run
      obtain ⟨_, b₂, -, run⟩ := bind_run_eq_ok run
      dsimp only at run
      by_cases zero : (w.things.getIndex name).1 = 0
      · rw [if_pos zero] at run
        obtain ⟨_, _, ⟨⟩, _⟩ := bind_run_eq_ok run
      · rw [if_neg zero] at run
        cases entry : (w.things.getIndex name).2.getAt (w.things.getIndex name).1.toNat with
        | none =>
            rw [entry] at run
            cases run
        | some info =>
            rw [entry] at run
            obtain ⟨jump, b₃, -, run⟩ := bind_run_eq_ok run
            obtain ⟨xfer, b₄, -, run⟩ := bind_run_eq_ok run
            cases run
            exact getIndex_things first name

theorem inventoryLoop_things {create : Making → Reader (Option (Option Nat × Making))}
    (keeps : ∀ w w' b b' child, w.things.cur = 0 → create w b = .ok (some (child, w'), b') →
      w'.things = w.things)
    {obj inventory : Nat} (first : w.things.cur = 0)
    (run : inventoryLoop create obj inventory w b = .ok (some w', b')) : w'.things = w.things := by
  induction inventory generalizing w b with
  | zero =>
      cases run
      rfl
  | succ inventory ih =>
      obtain ⟨created, b₁, call, run⟩ := bind_run_eq_ok run
      rcases created with _ | ⟨_ | child, w₁⟩
      · cases run
      · cases run
        exact keeps _ _ _ _ _ first call
      · have same := keeps _ _ _ _ _ first call
        have first' : (w₁.insertInventory obj child).things.cur = 0 :=
          (congrArg ThingList.cur same).trans first
        exact (ih first' run).trans same

/-- An object that is made with all in it leaves thing.bin as it was, with its cursor at the first
entry again. -/
theorem createObjectFromFile_things {depth : Nat} {created : Option Nat}
    (first : w.things.cur = 0)
    (run : createObjectFromFile toc depth w b = .ok (some (created, w'), b')) :
    w'.things = w.things := by
  induction depth generalizing w w' b b' created with
  | zero => cases run
  | succ depth ih =>
      obtain ⟨⟨object, w₁⟩, b₁, built, run⟩ := bind_run_eq_ok run
      have same := createObject_things first built
      cases object with
      | none =>
          cases run
          exact same
      | some object =>
          obtain ⟨looped, b₂, loop, run⟩ := bind_run_eq_ok run
          cases looped with
          | none => cases run
          | some w₂ =>
              cases run
              have first' : w₁.things.cur = 0 := (congrArg ThingList.cur same).trans first
              exact (inventoryLoop_things (fun _ _ _ _ _ first call => ih first call) first'
                loop).trans same

/-- The objects of a section are made without a change to thing.bin. -/
theorem objectsLoop_things {depth turns : Nat} (first : w.things.cur = 0)
    (run : objectsLoop toc depth turns w b = .ok (some w', b')) : w'.things = w.things := by
  induction turns generalizing w b with
  | zero => cases run
  | succ turns ih =>
      obtain ⟨_, _, ⟨⟩, run⟩ := bind_run_eq_ok run
      split at run
      · obtain ⟨created, b₁, call, run⟩ := bind_run_eq_ok run
        rcases created with _ | ⟨_ | object, w₁⟩
        · cases run
        · cases run
          exact createObjectFromFile_things first call
        · have same := createObjectFromFile_things first call
          exact (ih ((congrArg ThingList.cur same).trans first) run).trans same
      · cases run
        rfl

end

/-- A section of objects is read to its end: the objects it has are made behind those there are, and
thing.bin is as it was. -/
theorem objects_run {toc : TOC} {things : ThingList} (first : things.cur = 0) {closing : UInt16}
    (unlisted : toc.lookup closing = none) {nodes : List ObjectNode}
    (encodable : ObjectNode.EncodableAll toc nodes)
    (readable : ObjectNode.ReadableAll toc things nodes) {depth turns : Nat}
    (deep : ObjectNode.depthAll nodes < depth) (enough : nodes.length < turns) {w : Making}
    (same : w.things = things) {b : ByteBuffer} {more : List UInt8}
    (small : b.size < 0x80000000) {length : UInt64} {word : UInt16}
    (ahead : cursor.rest b = ObjectNode.sectionBytes length word nodes closing b.rpos ++ more) :
    ∃ w', readObjects toc depth turns w b = .ok (some w',
        cursor.advance b (ObjectNode.sectionBytes length word nodes closing b.rpos).length) ∧
      w'.things = things ∧
      w'.made = w.made ++ ObjectNode.objectsAll toc things nodes w.made.length := by
  obtain ⟨depth, rfl⟩ : ∃ before, depth = before + 1 := ⟨depth - 1, by omega⟩
  obtain ⟨turns, rfl⟩ : ∃ before, turns = before + 1 := ⟨turns - 1, by omega⟩
  have eight : (encodeScalar length).length = 8 := length_encodeScalar length
  have two : (encodeScalar word).length = 2 := length_encodeScalar word
  have total : (ObjectNode.sectionBytes length word nodes closing b.rpos).length =
      8 + 2 + ((ObjectNode.encodeAll nodes (b.rpos + 10)).length +
        (encodeScalar closing).length) := by
    rw [ObjectNode.sectionBytes, List.length_append, List.length_append, List.length_append, eight,
      two]
  rw [ObjectNode.sectionBytes, List.append_assoc, List.append_assoc, List.append_assoc] at ahead
  have jumped := ObjectNode.readJump_run ahead
  have behind := Cursor.rest_advance _ ahead
  rw [eight] at behind
  have worded := readFields_run (show (encodeScalar word).length = [2].sum from two) behind
  have behind' := Cursor.rest_advance _ behind
  rw [two] at worded behind'
  obtain ⟨w', run, made⟩ := ObjectNode.objectsLoop_run first unlisted encodable readable
    (Nat.le_of_lt deep) (Nat.le_of_lt_succ enough) same
    (show (cursor.advance (cursor.advance b 8) 2).size < _ from Nat.lt_trans small (by decide))
    behind'
  have kept := objectsLoop_things (by rw [same]; exact first) run
  refine ⟨w', ?_, kept.trans same, made⟩
  rw [readObjects, run_bind_ok jumped, run_bind_ok worded, run, total, cursor.advance_add,
    cursor.advance_add, ← Nat.add_assoc]
  rfl

/-! ### Sections -/

namespace MapSection

/-- What the loop does with the section. -/
def kind : MapSection → Section
  | skipped .. => .skipped
  | wallMap .. => .wallMap
  | objectTOC .. => .objectTOC
  | objectData .. => .objectData

theorem skipped_names : ∀ name ∈ skippedSections, 0 ∉ name ∧ name.length < 253 := by decide

theorem name_text (part : MapSection) : 0 ∉ part.name ∧ part.name.length < 253 := by
  cases part with
  | skipped name body listed => exact skipped_names name listed
  | wallMap => exact (by decide : 0 ∉ ascii "WallMap" ∧ (ascii "WallMap").length < 253)
  | objectTOC => exact (by decide : 0 ∉ ascii "ObjectTOC" ∧ (ascii "ObjectTOC").length < 253)
  | objectData => exact (by decide : 0 ∉ ascii "ObjectData" ∧ (ascii "ObjectData").length < 253)

theorem sectionOf_name (part : MapSection) : sectionOf (part.name ++ [0]) = part.kind := by
  have text : (part.name ++ [0]).takeWhile (fun c => c ≠ 0) = part.name := by
    rw [List.takeWhile_append_of_pos]
    · exact List.append_nil _
    · intro c mem
      exact decide_eq_true fun zero => part.name_text.1 (zero ▸ mem)
  rw [sectionOf, text]
  cases part with
  | skipped name body listed => exact if_pos listed
  | wallMap => rfl
  | objectTOC => rfl
  | objectData => rfl

theorem heading_reads (part : MapSection) (pad : Nat → Nat → UInt8) (pos : Nat) :
    ReadsFrom cursor pos (do
      let buffer ← readstring 1 0xFF
      skipToQword
      return buffer) (part.heading pad pos) (part.name ++ [0]) := by
  have short := part.name_text.2
  have length : (part.name ++ [0]).length = part.name.length + 1 := by
    rw [List.length_append, List.length_singleton]
  have name := readName_reads (part.name ++ [0]) (by omega)
  rw [length] at name
  refine (name.readsFrom pos).bind ?_
  have total : (DataRecord.counted (UInt8.ofNat (part.name.length + 1))
      (part.name ++ [0])).length = part.name.length + 2 := by
    rw [DataRecord.counted, List.length_append, length_encodeScalar, length]
    exact Nat.add_comm 1 _
  rw [total]
  exact (skipToQword_reads (pad pos) _).map _

theorem heading_run (part : MapSection) (pad : Nat → Nat → UInt8) {b : ByteBuffer}
    {more : List UInt8} {α : Type} {next : List UInt8 → Reader α}
    (ahead : cursor.rest b = part.heading pad b.rpos ++ more) :
    (do
      let buffer ← readstring 1 0xFF
      skipToQword
      next buffer : Reader α) b =
        next (part.name ++ [0]) (cursor.advance b (part.heading pad b.rpos).length) := by
  have reads := part.heading_reads pad b.rpos b more rfl ahead
  obtain ⟨buffer, b₁, named, run⟩ := bind_run_eq_ok reads
  obtain ⟨_, b₂, skipped, run⟩ := bind_run_eq_ok run
  cases run
  rw [run_bind_ok named, run_bind_ok skipped]

end MapSection

/-- What is behind the name of a section is read as it was written. -/
theorem readSection_run {things : ThingList} (first : things.cur = 0) (part : MapSection)
    {contents : Contents} (fits : part.Fits things contents) {depth turns : Nat}
    (deep : part.depth ≤ depth) (enough : part.turns ≤ turns) {m : NoxMap}
    (loaded : contents.LoadedAs things m) {b : ByteBuffer} {more : List UInt8}
    (small : b.size < 0x80000000) (ahead : cursor.rest b = part.body b.rpos ++ more) :
    ∃ m', m.readSection depth turns part.kind b =
        .ok (some m', cursor.advance b (part.body b.rpos).length) ∧
      (part.add things contents).LoadedAs things m' := by
  obtain ⟨toc, walls, objects⟩ := m
  obtain ⟨rfl, agrees, made, same⟩ := loaded
  cases part with
  | skipped name body listed =>
      obtain ⟨jump, jumped, finish, -⟩ := readJump_framed small ahead
      refine ⟨⟨contents.toc, walls, objects⟩, ?_, rfl, agrees, made, same⟩
      rw [MapSection.kind, NoxMap.readSection, run_bind_ok jumped, finish]
      rfl
  | wallMap header records spare sized inside =>
      obtain ⟨walls', run, agrees'⟩ := walls_run sized inside agrees small ahead
      exact ⟨⟨contents.toc, walls', objects⟩, run_bind_ok run, rfl, agrees', made, same⟩
  | objectTOC word entries names short =>
      have run := TOC.read_run enough short fits small ahead
      exact ⟨⟨_, walls, objects⟩, run_bind_ok run, rfl, agrees, made, same⟩
  | objectData length word nodes closing =>
      obtain ⟨encodable, readable, unlisted⟩ := fits
      obtain ⟨objects', run, same', made'⟩ := objects_run first unlisted encodable readable deep
        enough same small ahead
      refine ⟨⟨contents.toc, walls, objects'⟩, run_bind_ok run, rfl, agrees, ?_, same'⟩
      have made : objects.made = contents.objects := made
      change objects'.made = _
      rw [made', made]
      rfl

/-- A section is read as it was written. -/
theorem section_run {things : ThingList} (first : things.cur = 0) (part : MapSection)
    {contents : Contents} (fits : part.Fits things contents) {depth turns : Nat}
    (deep : part.depth ≤ depth) (enough : part.turns ≤ turns) {m : NoxMap}
    (loaded : contents.LoadedAs things m) (pad : Nat → Nat → UInt8) {b : ByteBuffer}
    {more : List UInt8} (small : b.size < 0x80000000)
    (ahead : cursor.rest b = part.encode pad b.rpos ++ more) :
    ∃ m', m.section depth turns b =
        .ok (some m', cursor.advance b (part.encode pad b.rpos).length) ∧
      (part.add things contents).LoadedAs things m' := by
  rw [MapSection.encode, List.append_assoc] at ahead
  obtain ⟨m', run, loaded'⟩ := readSection_run first part fits deep enough loaded
    (b := cursor.advance b (part.heading pad b.rpos).length) small (Cursor.rest_advance _ ahead)
  refine ⟨m', ?_, loaded'⟩
  rw [NoxMap.section, part.heading_run pad ahead, part.sectionOf_name, run, MapSection.encode,
    List.length_append, ← cursor.advance_add]
  rfl

theorem encode_pos (part : MapSection) (pad : Nat → Nat → UInt8) (pos : Nat) :
    0 < (part.encode pad pos).length := by
  rw [MapSection.encode, MapSection.heading, DataRecord.counted, List.length_append,
    List.length_append, List.length_append, length_encodeScalar]
  change 0 < 1 + _ + _ + _
  omega

/-- Zeros are names that are empty: each is read, and what follows up to the next boundary is
skipped. -/
theorem loop_zeros (depth turns : Nat) {more zeros : Nat} (enough : zeros < more) (m : NoxMap)
    {b : ByteBuffer} (ahead : cursor.rest b = List.replicate zeros 0) :
    ∃ b', NoxMap.loop depth turns more m b = .ok (some m, b') := by
  induction more generalizing zeros b with
  | zero => exact absurd enough (Nat.not_lt_zero _)
  | succ more ih =>
      have whole := length_rest ahead
      rw [List.length_replicate] at whole
      by_cases inside : b.rpos < b.size
      · obtain ⟨zeros, rfl⟩ : ∃ rest, zeros = rest + 1 := ⟨zeros - 1, by omega⟩
        have empty : DataRecord.counted (0 : UInt8) [] = [0] := rfl
        have named := readName_reads [] (by decide) b (List.replicate zeros 0)
          (ahead.trans (List.replicate_succ ..))
        obtain ⟨b', run⟩ := ih (show zeros - (8 - (b.rpos + 1) % 8) % 8 < more by omega)
          (b := cursor.advance b (1 + (8 - (b.rpos + 1) % 8) % 8)) (by
            change b.storage.drop (b.rpos + (1 + _)) = _
            rw [← List.drop_drop]
            change (cursor.rest b).drop _ = _
            rw [ahead, List.drop_replicate]
            congr 1
            omega)
        refine ⟨b', ?_⟩
        rw [NoxMap.loop, run_bind_ok rfl, if_pos inside]
        have turn : m.section depth turns b =
            .ok (some m, cursor.advance b (1 + (8 - (b.rpos + 1) % 8) % 8)) := by
          rw [NoxMap.section, run_bind_ok named, ← cursor.advance_add]
          rfl
        rw [run_bind_ok turn]
        exact run
      · refine ⟨b, ?_⟩
        rw [NoxMap.loop, run_bind_ok rfl, if_neg inside]
        rfl

/-- The loop reads the sections, and the zeros behind them. -/
theorem loop_run {things : ThingList} (first : things.cur = 0) {depth turns zeros : Nat}
    (pad : Nat → Nat → UInt8) {parts : List MapSection} (deep : ∀ part ∈ parts, part.depth ≤ depth)
    (enough : ∀ part ∈ parts, part.turns ≤ turns) {contents : Contents}
    (fits : MapSection.FitAll things contents parts) {more : Nat}
    (more_enough : parts.length + zeros < more) {m : NoxMap} (loaded : contents.LoadedAs things m)
    {b : ByteBuffer} (small : b.size < 0x80000000)
    (ahead : cursor.rest b = MapSection.encodeAll pad parts b.rpos ++ List.replicate zeros 0) :
    ∃ m' b', NoxMap.loop depth turns more m b = .ok (some m', b') ∧
      (parts.foldl (MapSection.add things) contents).LoadedAs things m' := by
  induction parts generalizing contents m b more with
  | nil =>
      rw [List.length_nil, Nat.zero_add] at more_enough
      obtain ⟨b', run⟩ := loop_zeros depth turns more_enough m ahead
      exact ⟨m, b', run, loaded⟩
  | cons part parts ih =>
      obtain ⟨more, rfl⟩ : ∃ rest, more = rest + 1 := ⟨more - 1, by omega⟩
      rw [List.length_cons] at more_enough
      obtain ⟨deep, deeps⟩ := List.forall_mem_cons.mp deep
      obtain ⟨enough, enoughs⟩ := List.forall_mem_cons.mp enough
      rw [MapSection.encodeAll, List.append_assoc] at ahead
      have inside := ObjectNode.rpos_lt (encode_pos part pad b.rpos) ahead
      obtain ⟨m₁, turn, loaded₁⟩ := section_run first part fits.1 deep enough loaded pad small ahead
      obtain ⟨m', b', run, loaded'⟩ := ih deeps enoughs fits.2
        (show parts.length + zeros < more by omega) loaded₁
        (b := cursor.advance b (part.encode pad b.rpos).length) small (Cursor.rest_advance _ ahead)
      refine ⟨m', b', ?_, loaded'⟩
      rw [NoxMap.loop, run_bind_ok rfl, if_pos inside, run_bind_ok turn]
      exact run

/-! ### The file -/

namespace MapFile

variable {map : MapFile} {file : List UInt8}

theorem length_encode (map : MapFile) : 24 ≤ map.encode.length := by
  rw [encode, List.length_append, List.length_append, length_encodeScalar, map.header_sized]
  change 24 ≤ 4 + (20 + _)
  omega

end MapFile

end NoxServer.Map
