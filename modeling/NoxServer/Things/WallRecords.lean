import NoxServer.Things.ObjectRecords
import NoxServer.Things.Sounds
import NoxServer.Things.Tiles

/-!
The walls of thing.bin (`ThingBin::Load_Walls`, `NoxThinglib.cpp`).

A record has parts that begin at a multiple of eight of the file, so that what is loaded depends on
where it is. Its images are read through `Type`, which still has the tag of the record at the first
turn: the tag becomes the first of them (`loadWalls_run`).

The lists of walls are Lean lists here: each `MLIST` gets nodes of its own, as the variable that a
wall is loaded into is cleared after its copy.
-/

namespace NoxServer.Things

open ByteBuffer Consume
open Decode (Cursor Reads ReadsFrom reads_pure)

/-! ### The functions of the source -/

def llaw : List UInt8 := [0x4C, 0x4C, 0x41, 0x57]

/-- `LLAW`, without `Unknowns` and `ImageCode`, which nothing sets. -/
structure LLAW where
  unknown : UInt32
  nameLen : UInt8
  name : List UInt8
  objects : List Property
  soundOpenLen : UInt8
  soundOpen : List UInt8
  soundCloseLen : UInt8
  soundClose : List UInt8
  soundDestroyLen : UInt8
  soundDestroy : List UInt8
  images : List UInt32 := []
  deriving DecidableEq

section

variable {δ : Type}

/-- `*(buff+count)`, and `count += length`. -/
def byteOf (length : Nat) : Load δ UInt8 := do
  let byte ← byteHere
  move length
  return byte

/-- A length, and so many bytes in an array of `size` bytes that is cleared before. -/
def lengthAndText (size : Nat) : Load δ (UInt8 × List UInt8) := do
  let length ← copyValue UInt8
  let text ← copyText size length.toNat
  return (length, text)

/-- `numObjects`, and `count` at the next multiple of eight behind it. -/
def numberOfObjects (sizeofLong : Nat) : Load δ UInt8 := do
  let numObjects ← byteOf sizeofLong
  align
  return numObjects

/-- The loop of the objects of a wall. -/
def wallObjects : Nat → Load δ (List Property)
  | 0 => return []
  | numObjects + 1 => do
      let object ← lengthAndText 255
      let objects ← wallObjects numObjects
      return ⟨object.1, object.2⟩ :: objects

/-- `while((int)*(buff+count)!=0x00)`. Each turn reads further on, so that it leaves the buffer in
as many turns as there are bytes. -/
def skipBlocks : Nat → Load δ Unit
  | 0 => throw .outOfBounds
  | turns + 1 => do
      let byte ← byteHere
      if byte = 0 then return
      else
        move 1
        align
        skipBlocks turns

/-- `Load_Wall` moves to the boundary of the images. -/
def toImageBoundary : Load δ Unit := do
  align
  let s ← get
  skipBlocks s.buff.length
  move 1
  align

/-- `Load_Wall` up to the images. -/
def loadWallHeader (sizeofLong : Nat) : Load δ LLAW := do
  let unknown ← byteOf 4
  let name ← lengthAndText 25
  move 14
  align
  let numObjects ← numberOfObjects sizeofLong
  let objects ← wallObjects numObjects.toNat
  let soundOpen ← lengthAndText 25
  let soundClose ← lengthAndText 25
  let soundDestroy ← lengthAndText 25
  toImageBoundary
  return {
    unknown := unknown.toUInt32
    nameLen := name.1
    name := name.2
    objects := objects
    soundOpenLen := soundOpen.1
    soundOpen := soundOpen.2
    soundCloseLen := soundClose.1
    soundClose := soundClose.2
    soundDestroyLen := soundDestroy.1
    soundDestroy := soundDestroy.2 }

/-- What stands before the next code of an image, if the images do not end here. -/
def beforeCode : Load δ Unit := do
  let s ← get
  if s.type = dne then return
  else
    let tem ← byteOf 2
    if 0 < tem then move 14 else move 6

/-- `Type` is moved on to the next code of an image, or to the tag at the end. -/
def nextImage : Load δ Unit := do
  copyType
  beforeCode
  copyType

/-- `while(strcmp(Type," DNE"))`. -/
def wallImages : Nat → List UInt32 → Load δ (List UInt32)
  | 0, _ => throw .outOfBounds
  | turns + 1, images => do
      let s ← get
      if s.type = dne then return images
      else
        move 4
        let images := images ++ [UInt32.ofNat (fromBytes s.type)]
        nextImage
        wallImages turns images

def loadWall (sizeofLong : Nat) : Load δ LLAW := do
  let wall ← loadWallHeader sizeofLong
  let s ← get
  let images ← wallImages (s.buff.length + 1) []
  move 4
  return { wall with images }

end

/-- The loop of `Load_Walls`. -/
def wallsLoop (sizeofLong : Nat) : Nat → Load (List LLAW) Unit
  | 0 => throw .outOfBounds
  | turns + 1 => do
      let s ← get
      if s.type = llaw then
        let wall ← loadWall sizeofLong
        modify fun s => { s with thing := s.thing ++ [wall] }
        copyType
        move 4
        wallsLoop sizeofLong turns
      else return

def loadWalls (sizeofLong : Nat) : Load (List LLAW) Unit := do
  let s ← get
  wallsLoop sizeofLong (s.buff.length + 1)
  modify fun s => { s with count := s.count - 4 }

/-! ### The encoding -/

/-- How many bytes there are from a place to the next multiple of eight. -/
def gap (place : Nat) : Nat := (8 - place % 8) % 8

/-- A text with its length. -/
def encodeText (text : List UInt8) : List UInt8 :=
  encodeScalar (UInt8.ofNat text.length) ++ text

/-- Eight bytes that are skipped before the images: the first one is not 0. -/
structure SkippedBlock where
  first : UInt8
  rest : List UInt8
  not_last : first ≠ 0
  sized : rest.length = 7

/-- What stands before the next code of an image, or before the tag at the end: its first byte says
how long it is. -/
structure BeforeCode where
  first : UInt8
  rest : List UInt8
  sized : rest.length = if first = 0 then 7 else 15
  not_end : (first :: rest).take 4 ≠ dne

def BeforeCode.encode (before : BeforeCode) : List UInt8 := before.first :: before.rest

/-- What stands before a tag, if anything does. -/
def encodeBefore (before : Option BeforeCode) : List UInt8 :=
  (before.map BeforeCode.encode).getD []

/-- A record of a wall, with the bytes that are skipped. -/
structure WallRecord where
  id : UInt8
  idRest : List UInt8
  name : List UInt8
  unknowns : List UInt8
  space : List UInt8
  numberRest : List UInt8
  objects : List (List UInt8)
  soundOpen : List UInt8
  soundClose : List UInt8
  soundDestroy : List UInt8
  space' : List UInt8
  skipped : List SkippedBlock
  lastRest : List UInt8
  front : List UInt8
  images : List (BeforeCode × ImageCode)
  back : Option BeforeCode
  id_sized : idRest.length = 3
  name_short : name.length ≤ 25
  unknowns_sized : unknowns.length = 14
  number_sized : numberRest.length = 7
  objects_few : objects.length < 256
  objects_short : ∀ object ∈ objects, object.length < 256
  open_short : soundOpen.length ≤ 25
  close_short : soundClose.length ≤ 25
  destroy_short : soundDestroy.length ≤ 25
  last_sized : lastRest.length = 7
  front_sized : front.length = 4

namespace WallRecord

/-- The beginning of a record, up to the first multiple of eight. -/
def encodeStart (record : WallRecord) : List UInt8 :=
  (record.id :: record.idRest) ++ (encodeText record.name ++ record.unknowns)

/-- The objects and sounds of a record. -/
def encodeTexts (record : WallRecord) : List UInt8 :=
  record.objects.flatMap encodeText ++ (encodeText record.soundOpen ++
    (encodeText record.soundClose ++ encodeText record.soundDestroy))

/-- What is skipped before the images, from a multiple of eight on. -/
def encodeSkipped (record : WallRecord) : List UInt8 :=
  record.skipped.flatMap (fun block => block.first :: block.rest) ++ 0 :: record.lastRest

/-- A record up to the images. -/
def encodeHeader (record : WallRecord) : List UInt8 :=
  record.encodeStart ++ (record.space ++
    ((UInt8.ofNat record.objects.length :: record.numberRest) ++
      (record.encodeTexts ++ (record.space' ++ record.encodeSkipped))))

end WallRecord

/-- Some images, each with what stands before it. -/
def encodeWallImages (images : List (BeforeCode × ImageCode)) : List UInt8 :=
  images.flatMap fun image => image.1.encode ++ encodeScalar image.2.1

namespace WallRecord

/-- The images of a record and the tag behind them. -/
def encodeImages (record : WallRecord) : List UInt8 :=
  record.front ++ (encodeWallImages record.images ++ (encodeBefore record.back ++ dne))

def body (record : WallRecord) : List UInt8 := record.encodeHeader ++ record.encodeImages

/-- The spaces of a record that begins at a place reach to a multiple of eight. -/
structure Placed (record : WallRecord) (place : Nat) : Prop where
  space : record.space.length = gap (place + record.encodeStart.length)
  space' : record.space'.length = gap (place + record.encodeStart.length + record.space.length + 8 +
    record.encodeTexts.length)

/-- What is loaded of a record: its first image is the tag. -/
def wall (record : WallRecord) : LLAW where
  unknown := record.id.toUInt32
  nameLen := UInt8.ofNat record.name.length
  name := padded 25 record.name
  objects := record.objects.map fun object => ⟨UInt8.ofNat object.length, padded 255 object⟩
  soundOpenLen := UInt8.ofNat record.soundOpen.length
  soundOpen := padded 25 record.soundOpen
  soundCloseLen := UInt8.ofNat record.soundClose.length
  soundClose := padded 25 record.soundClose
  soundDestroyLen := UInt8.ofNat record.soundDestroy.length
  soundDestroy := padded 25 record.soundDestroy
  images := UInt32.ofNat (fromBytes llaw) :: record.images.map fun image => image.2.1

end WallRecord

/-- Some records, each behind its tag. -/
def encodeWalls (records : List WallRecord) : List UInt8 :=
  records.flatMap fun record => llaw ++ record.body

/-- Records in a row, of which the first one begins at a place with its tag. -/
def WallsPlaced : Nat → List WallRecord → Prop
  | _, [] => True
  | place, record :: records =>
      record.Placed (place + 4) ∧ WallsPlaced (place + 4 + record.body.length) records

/-! ### Readers -/

section

variable {δ : Type} {bytes : List UInt8}

variable {s : Loader δ} {more : List UInt8}

end

/-! ### All records -/

section

variable {s : Loader (List LLAW)} {more : List UInt8} {sizeofLong : Nat}

end

end NoxServer.Things
