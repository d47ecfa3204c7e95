import NoxServer.Crypt.NoxCrypt
import NoxServer.Objects.ThingBin
import NoxServer.Shared.ByteBuffer

/-!
Loading a map (`NoxMap.cpp`, `NoxBuffer.h`, `ObjectMgr::CreateObjectFromFile`).

The source reads a map with one loop over its sections, with loops within some sections, and
with a recursion over the objects that are in the inventory of one that is read. Here this is one
machine: `Place` says in which loop the loading is, with the calls of `CreateObjectFromFile` that
are under way as the stack of the numbers of objects they still have to read, and a step is one
turn of the loop (`Loading.step`).

A step that reads a length the source jumps by reports it (`Jump`). A position is a `size_t` of 32
bits, so a jump, and a skip by a length that is read, may wrap. Of the objects and walls that are
built there is nothing here.
-/

namespace NoxServer.Map

open ByteBuffer Objects

/-! ### Reading -/

/-- The bytes of a name in the source. -/
def ascii (s : String) : List UInt8 := s.toList.map fun c => UInt8.ofNat c.toNat

/-- A length that is read, and the position it is added to. -/
structure Jump where
  length : Int
  pos : Nat
  deriving DecidableEq

/-- `read<int64>() + rpos()`, as a `size_t`. -/
def Jump.finish (jump : Jump) : Nat := ((jump.length + jump.pos) % 0x100000000).toNat

/-- The length that `size_t finish = read<int64>() + rpos()` reads. -/
def readJump : Reader Jump := do
  let bytes ← read 8
  let pos ← getRpos
  return { length := (Int64.ofNat (fromBytes bytes)).toInt, pos := pos }

/-- `readstring<T>(string, maxlength)`, with a `T` of `width` bytes. -/
def readstring (width maxlength : Nat) : Reader (List UInt8) := do
  let bytes ← read width
  let b ← get
  let length := if b.rpos ≥ b.size then 0 else fromBytes bytes
  if length > maxlength - 1 then
    let string ← read (maxlength - 1)
    let pos ← getRpos
    setRpos (sizeT (pos + length - (maxlength - 1)))
    return string
  else read length

/-- `skip()`: to the next boundary of eight bytes, from a position just behind something that was
read. -/
def skipToQword : Reader Unit := do
  let pos ← getRpos
  ByteBuffer.skip ((8 - pos % 8) % 8)

/-! ### The loading -/

/-- What the section loop does with a section. -/
inductive Section where
  | skipped
  | wallMap
  | objectTOC
  | objectData
  | unknown

def skippedSections : List (List UInt8) :=
  ["MapInfo", "FloorMap", "SecretWalls", "DestructableWalls", "WayPoints", "DebugData",
    "WindowWalls", "GroupData", "ScriptObject", "AmbientData", "Polygons", "MapIntro",
    "ScriptData"].map ascii

/-- The comparisons with the name in the buffer, up to its NUL. -/
def sectionOf (buffer : List UInt8) : Section :=
  let name := buffer.takeWhile fun c => c ≠ 0
  if name ∈ skippedSections then .skipped
  else if name = ascii "WallMap" then .wallMap
  else if name = ascii "ObjectTOC" then .objectTOC
  else if name = ascii "ObjectData" then .objectData
  else .unknown

/-- Where the loading is. -/
inductive Place where
  /-- The loop of `NoxMap::open`. -/
  | sections
  /-- The loop of `NoxObjectTOC::read`. -/
  | toc (finish : Nat) (entries : UInt16)
  /-- The loop of `NoxWallMap::read`. -/
  | walls (finish : Nat)
  /-- The loop of `readObjects`; for each object that is being read, the innermost first, the
  number of objects its own loop is still to read. -/
  | objects (inventories : List Nat)
  deriving DecidableEq

/-- What the loading keeps besides the buffer: the table of object names, and thing.bin. -/
structure Loading where
  toc : List (UInt16 × List UInt8) := []
  things : ThingList
  place : Place := .sections

/-- `insert(NoxObjectTOCPair(id, name))`: an id that is there keeps its name. -/
def Loading.insertTOC (w : Loading) (id : UInt16) (name : List UInt8) : Loading :=
  if (w.toc.lookup id).isSome then w else { w with toc := w.toc ++ [(id, name)] }

/-- `DefaultXferHandler(obj, rdr)`: the number of objects in the inventory. -/
def defaultXferHandler : Reader Nat := do
  readFields [2]
  let props2 ← readUInt16
  readFields [4, 4, 4, 4]
  let more ← readUInt8
  if more = 0xFF then
    readFields [4]
    let _ ← readstring 1 256
    readFields [1]
    let inventory ← readUInt8
    let count ← readUInt16
    readFields (List.replicate count.toNat 4)
    readFields [2, 4]
    if props2 = 0x40 then
      let _ ← readstring 4 256
    readFields [8]
    return inventory.toNat
  else return 0

/-- `CreateObjectFromFile(rdr, toc)` up to its loop: NULL, or an object that is to have
`inventory` objects, with the jump to its end. -/
def Loading.createObjectFromFile (w : Loading) : Reader (Option (Jump × Nat) × Loading) := do
  let type ← readUInt16
  match w.toc.lookup type with
  | none => return (none, w)
  | some name =>
      skipToQword
      let (index, things) := w.things.getIndex name
      if index = 0 then throw .assertion
      if (things.getAt index.toNat).isNone then throw .nullPointer
      let jump ← readJump
      let inventory ← defaultXferHandler
      setRpos jump.finish
      return (some (jump, inventory), { w with things := things })

/-- A turn of the loop of `NoxMap::open`, in a section. -/
def Loading.section (w : Loading) : Reader (Option Jump × Loading) := do
  let buffer ← readstring 1 0xFF
  skipToQword
  match sectionOf buffer with
  | .skipped =>
      let jump ← readJump
      setRpos jump.finish
      return (some jump, w)
  | .wallMap =>
      let jump ← readJump
      readFields [2, 4, 4, 4, 4]
      return (some jump, { w with place := .walls jump.finish })
  | .objectTOC =>
      let jump ← readJump
      readFields [2]
      let entries ← readUInt16
      return (none, { w with place := .toc jump.finish entries })
  | .objectData =>
      let _ ← readJump
      readFields [2]
      return (none, { w with place := .objects [] })
  | .unknown => return (none, w)

/-- The condition of the loop of `NoxWallMap::read`. -/
def moreWalls : Reader Bool := do
  let first ← readUInt8
  if first ≠ 0xFF then
    let second ← readUInt8
    return second ≠ 0xFF
  else return false

/-- A turn of the loop of `NoxWallMap::read`. -/
def Loading.wall (w : Loading) (finish : Nat) : Reader (Option Jump × Loading) := do
  if ← moreWalls then
    let pos ← getRpos
    setRpos (pos - 2)
    readFields [1, 1, 1, 1, 1, 1, 1]
    return (none, w)
  else
    setRpos finish
    return (none, { w with place := .sections })

/-- A turn of the loop of `NoxObjectTOC::read`. -/
def Loading.tocEntry (w : Loading) (finish : Nat) (entries : UInt16) :
    Reader (Option Jump × Loading) := do
  let pos ← getRpos
  if pos < finish then
    let id ← readUInt16
    let name ← readstring 1 0xFF
    return (none, w.insertTOC id name)
  else if w.toc.length = entries.toNat then return (none, { w with place := .sections })
  else throw .assertion

/-- A call of `CreateObjectFromFile`, from `readObjects` or for one of the objects in an
inventory; a call that gives NULL ends the loop it is made in. -/
def Loading.object (w : Loading) (inventories : List Nat) (ended : Place) :
    Reader (Option Jump × Loading) := do
  let (created, w) ← w.createObjectFromFile
  match created with
  | none => return (none, { w with place := ended })
  | some (jump, inventory) =>
      return (some jump, { w with place := .objects (inventory :: inventories) })

/-- One turn of the loop the loading is in, with the jump it makes; none at the end. -/
def Loading.step (w : Loading) : Reader (Option (Option Jump × Loading)) := do
  let b ← get
  match w.place with
  | .sections => if b.rpos < b.size then return some (← w.section) else return none
  | .toc finish entries => return some (← w.tocEntry finish entries)
  | .walls finish => return some (← w.wall finish)
  | .objects [] =>
      if b.rpos < b.size then return some (← w.object [] .sections)
      else return some (none, { w with place := .sections })
  | .objects (0 :: inventories) => return some (none, { w with place := .objects inventories })
  | .objects ((inventory + 1) :: inventories) =>
      return some (← w.object (inventory :: inventories) (.objects inventories))

/-- `NoxBuffer::open(fileName)`, with the bytes of the file. Its size is asked for as a `long`,
which is -1 for a longer file, and `reserve` does not take that. -/
def openBuffer (file : List UInt8) : Except Fault ByteBuffer :=
  if file.length < 0x80000000 then .ok { storage := file } else .error .lengthError

/-- `NoxMap::open` up to its loop. -/
def openFile (file : List UInt8) : Except Fault ByteBuffer := do
  let (fileid, _) ← readUInt32 (← openBuffer file)
  let file ← if fileid ≠ 0xFADEFACE then (fun out => out.2) <$> Crypt.decrypt file .map
    else .ok file
  let (fileid, b) ← readUInt32 { storage := file }
  let ((), b) ← readFields [20] b
  if fileid = 0xFADEFACE then return b else throw .assertion

end NoxServer.Map
