import NoxServer.Things.WallRecords

/-!
The images of thing.bin (`ThingBin::Load_Images`, `NoxThinglib.cpp`).

An image is a single one, or the codes of an animation. What `Load_Images` loads is what the records
say, and the four bytes behind them are in `Type` afterwards (`loadImages_run`).
-/

namespace NoxServer.Things

open ByteBuffer Consume
open Decode (Cursor Reads ReadsFrom reads_pure Decodes)

/-! ### The functions of the source -/

/-- `GAMI`, without the `ImageCode` that nothing sets. -/
structure GAMI where
  nameLen : UInt8
  name : List UInt8
  aniName : List UInt8
  images : List UInt32
  deriving DecidableEq

section

variable {δ : Type}

/-- An image that is not a single one. -/
def loadAnimatedImage (name : UInt8 × List UInt8) : Load δ GAMI := do
  let numLoop ← byteOf 2
  let aniName ← lengthAndText 50
  let images ← loadCodes numLoop.toNat
  return { nameLen := name.1, name := name.2, aniName := aniName.2, images := images }

def loadImage : Load δ GAMI := do
  let name ← lengthAndText 50
  let numImages ← copyValue UInt8
  if numImages = 1 then
    let imageCode ← copyValue UInt32
    return {
      nameLen := name.1
      name := name.2
      aniName := padded 50 (chars "Static Image")
      images := [imageCode] }
  else loadAnimatedImage name

end

/-- The loop of `Load_Images`. -/
def imagesLoop : Nat → Load (List GAMI) Unit
  | 0 => return
  | numImages + 1 => do
      let image ← loadImage
      modify fun s => { s with thing := s.thing ++ [image] }
      imagesLoop numImages

def loadImages : Load (List GAMI) Unit := do
  let numImages ← copyValue Int32
  imagesLoop numImages.toInt.toNat
  copyType
  move 4

/-! ### The encoding -/

/-- What an image has behind its name. -/
inductive ImageKind where
  | single (code : UInt32)
  | animated (numImages spare : UInt8) (aniName : List UInt8) (codes : List UInt32)
      (several : numImages ≠ 1) (short : aniName.length ≤ 50) (few : codes.length < 256)

namespace ImageKind

def encode : ImageKind → List UInt8
  | single code => encodeScalar (1 : UInt8) ++ encodeScalar code
  | animated numImages spare aniName codes _ _ _ =>
      encodeScalar numImages ++ (UInt8.ofNat codes.length :: [spare] ++
        (encodeText aniName ++ codes.flatMap encodeScalar))

/-- The image of this kind. -/
def image (name : List UInt8) : ImageKind → GAMI
  | single code => {
      nameLen := UInt8.ofNat name.length
      name := padded 50 name
      aniName := padded 50 (chars "Static Image")
      images := [code] }
  | animated _ _ aniName codes _ _ _ => {
      nameLen := UInt8.ofNat name.length
      name := padded 50 name
      aniName := padded 50 aniName
      images := codes }

end ImageKind

structure ImageRecord where
  name : List UInt8
  kind : ImageKind
  name_short : name.length ≤ 50

namespace ImageRecord

def encode (record : ImageRecord) : List UInt8 := encodeText record.name ++ record.kind.encode

/-- What is loaded of a record. -/
def image (record : ImageRecord) : GAMI := record.kind.image record.name

end ImageRecord

/-- The section of some records, behind its tag. -/
def encodeImageRecords (records : List ImageRecord) : List UInt8 :=
  toBytes 4 records.length ++ records.flatMap ImageRecord.encode

/-! ### Loading -/

section

variable {δ : Type}

end

section

variable {s : Loader (List GAMI)} {more : List UInt8}

end

end NoxServer.Things
