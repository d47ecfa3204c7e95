import Mathlib.Data.List.Forall2
import NoxServer.Things.FastList
import NoxServer.Things.Loader

/-!
The tiles and edges of thing.bin (`ThingBin::Load_Tiles`, `NoxThinglib.cpp`).

The records of the two kinds follow each other in any order, and each ends with a list of images and
a tag. The tag that says which record is next is in `Type`, which the loading of a record uses for
its images too. A record leaves no trace in the next one, as the variable it is loaded into is
cleared after it has been added with its list of images (`loadTiles_run`).
-/

namespace NoxServer.Things

open LinkedList ByteBuffer Consume
open Decode (Cursor)

/-! ### Records -/

def rolf : List UInt8 := [0x52, 0x4F, 0x4C, 0x46]

def egde : List UInt8 := [0x45, 0x47, 0x44, 0x45]

def dne : List UInt8 := [0x20, 0x44, 0x4E, 0x45]

/-- What `ROLF` and `EGDE` begin with. -/
structure Header where
  unknown : Int32 := 0
  nameLen : UInt8 := 0
  name : List UInt8 := List.replicate 25 0
  unknowns : List UInt8 := List.replicate 14 0
  deriving DecidableEq

structure EGDE extends Header where
  images : MList := {}

/-- `ROLF`, of whose `FASTLIST` the two lists are here. -/
structure ROLF extends Header where
  one : Int16 := 0
  images : MList := {}
  speedList : MList := {}

/-- `Thing.Tile.Tiles` and `Thing.Edge.Edges`, with the nodes of the lists of images. -/
structure TileLists where
  tiles : MList
  tileNodes : Nodes ROLF
  edges : MList
  edgeNodes : Nodes EGDE
  images : Nodes UInt32
  speeds : Nodes Nat

/-- The beginning of `Load_Tile` and `Load_Edge`. -/
def loadHeader : Load TileLists Header := do
  let unknown ← copyValue Int32
  let nameLen ← copyValue UInt8
  let name ← copyText 25 nameLen.toNat
  let unknowns ← copy 14
  return { unknown, nameLen, name, unknowns }

/-- `Tile.Images.Add((unsigned int &)Type)`. -/
def addTileImage (tile : ROLF) : Load TileLists ROLF := do
  let s ← get
  let images ← liftM (FastList.add ⟨tile.images, s.thing.images, tile.speedList, s.thing.speeds⟩
    (UInt32.ofNat (fromBytes s.type)))
  set { s with thing := { s.thing with images := images.nodes, speeds := images.speedNodes } }
  return { tile with images := images.base, speedList := images.speedList }

/-- The loop of `Load_Tile`. Each turn reads four bytes further on, so that it leaves the buffer in
as many turns as there are bytes. -/
def tileImages : Nat → ROLF → Load TileLists ROLF
  | 0, _ => throw .outOfBounds
  | turns + 1, tile => do
      copyType
      move 4
      let s ← get
      if s.type = dne then return tile
      else
        let tile ← addTileImage tile
        tileImages turns tile

def loadTile (tile : ROLF) : Load TileLists ROLF := do
  let header ← loadHeader
  let one ← copyValue Int16
  let s ← get
  tileImages s.buff.length { tile with toHeader := header, one }

/-- `Edge.Images.Add(ImageCode)`. -/
def addEdgeImage (edge : EGDE) (imageCode : UInt32) : Load TileLists EGDE := do
  let s ← get
  let (images, nodes) ← liftM (edge.images.add s.thing.images imageCode)
  set { s with thing := { s.thing with images := nodes } }
  return { edge with images }

/-- The loop of `Load_Edge`. -/
def edgeImages : Nat → EGDE → Load TileLists EGDE
  | 0, _ => throw .outOfBounds
  | turns + 1, edge => do
      copyType
      let s ← get
      if s.type = dne then
        move 4
        return edge
      else
        let imageCode ← copyValue UInt32
        let edge ← addEdgeImage edge imageCode
        edgeImages turns edge

def loadEdge (edge : EGDE) : Load TileLists EGDE := do
  let header ← loadHeader
  let s ← get
  edgeImages s.buff.length { edge with toHeader := header }

/-- `Thing.Tile.Tiles.Add(Tile)`. -/
def addTile (tile : ROLF) : Load TileLists Unit := do
  let s ← get
  let (tiles, tileNodes) ← liftM (s.thing.tiles.add s.thing.tileNodes tile)
  set { s with thing := { s.thing with tiles, tileNodes } }

/-- `Thing.Edge.Edges.Add(Edge)`. -/
def addEdge (edge : EGDE) : Load TileLists Unit := do
  let s ← get
  let (edges, edgeNodes) ← liftM (s.thing.edges.add s.thing.edgeNodes edge)
  set { s with thing := { s.thing with edges, edgeNodes } }

/-- The loop of `Load_Tiles`, with its `Tile` and `Edge`. -/
def tilesLoop : Nat → ROLF → EGDE → Load TileLists Unit
  | 0, _, _ => throw .outOfBounds
  | turns + 1, tile, edge => do
      let s ← get
      if s.type = rolf then
        let tile ← loadTile tile
        addTile tile
        copyType
        move 4
        tilesLoop turns {} edge
      else if s.type = egde then
        let edge ← loadEdge edge
        addEdge edge
        copyType
        move 4
        tilesLoop turns tile {}
      else return

/-- `Load_Tiles`. A turn of the loop reads some bytes, so that it makes no more turns than there are
bytes, and one. -/
def loadTiles : Load TileLists Unit := do
  copyType
  move 4
  let s ← get
  tilesLoop (s.buff.length + 1) {} {}

/-! ### The encoding -/

/-- The beginning of a record. -/
structure TileHeader where
  id : Int32
  name : List UInt8
  unknowns : List UInt8
  name_short : name.length ≤ 24
  unknowns_sized : unknowns.length = 14

namespace TileHeader

def encode (header : TileHeader) : List UInt8 :=
  encodeScalar header.id ++ (encodeScalar (UInt8.ofNat header.name.length) ++
    (header.name ++ header.unknowns))

/-- What is loaded of it. -/
def header (header : TileHeader) : Header where
  unknown := header.id
  nameLen := UInt8.ofNat header.name.length
  name := padded 25 header.name
  unknowns := header.unknowns

end TileHeader

/-- The code of an image, which is not the tag at the end of the images. -/
def ImageCode : Type := { code : UInt32 // encodeScalar code ≠ dne }

/-- The images of a record and the tag behind them. -/
def encodeImages (codes : List ImageCode) : List UInt8 :=
  codes.flatMap (fun code => encodeScalar code.1) ++ dne

structure TileRecord where
  header : TileHeader
  one : Int16
  codes : List ImageCode

structure EdgeRecord where
  header : TileHeader
  codes : List ImageCode

def TileRecord.encode (tile : TileRecord) : List UInt8 :=
  tile.header.encode ++ (encodeScalar tile.one ++ encodeImages tile.codes)

def EdgeRecord.encode (edge : EdgeRecord) : List UInt8 :=
  edge.header.encode ++ encodeImages edge.codes

/-- A record behind its tag. -/
def encodeRecord : TileRecord ⊕ EdgeRecord → List UInt8
  | .inl tile => rolf ++ tile.encode
  | .inr edge => egde ++ edge.encode

/-! ### One record -/

variable {s : Loader TileLists} {more : List UInt8}

theorem rest_of_eq {s' : Loader TileLists} (buff : s'.buff = s.buff) (count : s'.count = s.count) :
    reading.rest s' = reading.rest s := by
  change s'.buff.drop s'.count = s.buff.drop s.count
  rw [buff, count]

theorem loadHeader_run (header : TileHeader) (ahead : reading.rest s = header.encode ++ more) :
    loadHeader s = .ok (header.header, reading.advance s header.encode.length) := by
  rw [TileHeader.encode, List.append_assoc, List.append_assoc, List.append_assoc] at ahead
  have ahead₁ := Cursor.rest_advance _ ahead
  have ahead₂ := Cursor.rest_advance _ ahead₁
  have ahead₃ := Cursor.rest_advance _ ahead₂
  have length : (UInt8.ofNat header.name.length).toNat = header.name.length := by
    have short := header.name_short
    rw [UInt8.toNat_ofNat', Nat.mod_eq_of_lt (by omega)]
  have name := copyText_run (show header.name.length ≤ 25 by have := header.name_short; omega)
    ahead₂
  have unknowns := copy_run ahead₃
  rw [header.unknowns_sized] at unknowns
  rw [loadHeader, run_bind_ok (copyValue_run _ ahead), run_bind_ok (copyValue_run _ ahead₁), length,
    run_bind_ok name, run_bind_ok unknowns]
  simp only [TileHeader.encode, List.length_append, ← reading.advance_add, header.unknowns_sized]
  rfl

/-- A list of images is the one of some codes. -/
def ImagesAre (images : Nodes UInt32) (l : MList) (codes : List ImageCode) : Prop :=
  ∃ nodes, Sound l images nodes ∧ nodes.map (fun node => node.2.msg) = codes.map Subtype.val

theorem ImagesAre.grows {images images' : Nodes UInt32} {l : MList} {codes : List ImageCode}
    (are : ImagesAre images l codes) (grows : images.Grows images') :
    ImagesAre images' l codes := by
  obtain ⟨nodes, sound, msgs⟩ := are
  exact ⟨nodes, sound.grows grows, msgs⟩

/-- The four bytes of a code, as a number. -/
theorem ofNat_fromBytes_encode (code : UInt32) :
    UInt32.ofNat (fromBytes (encodeScalar code)) = code := by
  rw [encodeScalar, fromBytes_toBytes, Nat.mod_eq_of_lt (Scalar.bits_lt code)]
  exact Scalar.ofBits_bits code

theorem encodeImages_cons (code : ImageCode) (codes : List ImageCode) :
    encodeImages (code :: codes) = encodeScalar code.1 ++ encodeImages codes := by
  rw [encodeImages, List.flatMap_cons, List.append_assoc]
  rfl

/-- An image of a tile is added behind those it has, in nodes that nothing else has, and the nodes
below stay as they are. -/
theorem addTileImage_run {tile : ROLF} {floor : Nodes UInt32} {nodes : List (Nat × Entry UInt32)}
    {speeds : List (Nat × Entry Nat)} (code : UInt32) (type : s.type = encodeScalar code)
    (sound : Sound tile.images s.thing.images nodes) (above : Above floor s.thing.images nodes)
    (second : Sound tile.speedList s.thing.speeds speeds) :
    ∃ f' : FastList UInt32, ∃ speeds' nodes', addTileImage tile s =
        .ok ({ tile with images := f'.base, speedList := f'.speedList },
          { s with thing := { s.thing with images := f'.nodes, speeds := f'.speedNodes } }) ∧
      Sound f'.base f'.nodes nodes' ∧ Above floor f'.nodes nodes' ∧
      Sound f'.speedList f'.speedNodes speeds' ∧
      nodes'.map (fun node => node.2.msg) = nodes.map (fun node => node.2.msg) ++ [code] := by
  obtain ⟨f', speeds', run, sound', above', second'⟩ := FastList.add_above
    (f := ⟨tile.images, s.thing.images, tile.speedList, s.thing.speeds⟩) sound above second
    (UInt32.ofNat (fromBytes s.type)) 0
  refine ⟨f', speeds', _, ?_, sound', above', second', ?_⟩
  · rw [addTileImage, run_bind_ok rfl]
    have added : (liftM (FastList.add ⟨tile.images, s.thing.images, tile.speedList,
        s.thing.speeds⟩ (UInt32.ofNat (fromBytes s.type))) : Load TileLists _) s = .ok (f', s) := by
      rw [run]
      rfl
    rw [run_bind_ok added]
    rfl
  · rw [List.map_append, type, ofNat_fromBytes_encode]
    rfl

/-- The images of a tile are added behind those it has. -/
theorem tileImages_run {codes : List ImageCode} {turns : Nat} (enough : codes.length < turns)
    (tile : ROLF) {floor : Nodes UInt32} {nodes : List (Nat × Entry UInt32)}
    {speeds : List (Nat × Entry Nat)} (sound : Sound tile.images s.thing.images nodes)
    (above : Above floor s.thing.images nodes) (second : Sound tile.speedList s.thing.speeds speeds)
    (ahead : reading.rest s = encodeImages codes ++ more) :
    ∃ tile' images' speeds' nodes', tileImages turns tile s = .ok (tile', { s with
        count := s.count + (encodeImages codes).length, type := dne
        thing := { s.thing with images := images', speeds := speeds' } }) ∧
      tile'.toHeader = tile.toHeader ∧ tile'.one = tile.one ∧
      Sound tile'.images images' nodes' ∧ Above floor images' nodes' ∧
      nodes'.map (fun node => node.2.msg) =
        nodes.map (fun node => node.2.msg) ++ codes.map Subtype.val := by
  induction codes generalizing turns tile s nodes speeds with
  | nil =>
      obtain ⟨turns, rfl⟩ : ∃ rest, turns = rest + 1 := ⟨turns - 1, by omega⟩
      have type := copyType_run (show dne.length = 4 from rfl) ahead
      refine ⟨tile, s.thing.images, s.thing.speeds, nodes, ?_, rfl, rfl, sound, above,
        (List.append_nil _).symm⟩
      rw [tileImages, run_bind_ok type]
      rfl
  | cons code codes ih =>
      obtain ⟨turns, rfl⟩ : ∃ rest, turns = rest + 1 := ⟨turns - 1, by omega⟩
      rw [encodeImages_cons, List.append_assoc] at ahead
      have type := copyType_run (length_encodeScalar code.1) ahead
      obtain ⟨f', speeds', nodes', add, sound', above', second', msgs⟩ := addTileImage_run
        (s := { s with count := s.count + 4, type := encodeScalar code.1 }) code.1 rfl sound above
        second
      obtain ⟨tile', images', speeds'', nodes'', run, header, one, sound'', above'', msgs'⟩ := ih
        (s := { s with
          count := s.count + 4, type := encodeScalar code.1
          thing := { s.thing with images := f'.nodes, speeds := f'.speedNodes } })
        (Nat.lt_of_succ_lt_succ enough)
        { tile with images := f'.base, speedList := f'.speedList } sound' above' second'
        ((rest_of_eq rfl rfl).trans (Cursor.rest_advance _ ahead))
      refine ⟨tile', images', speeds'', nodes'', ?_, header, one, sound'', above'', ?_⟩
      · rw [tileImages, run_bind_ok type, run_bind_ok rfl, run_bind_ok rfl, if_neg code.2,
          run_bind_ok add, run, encodeImages_cons, List.length_append, ← Nat.add_assoc]
        rfl
      · rw [msgs', msgs, List.append_assoc]
        rfl

/-- What a record is loaded as. -/
structure IsTile (images : Nodes UInt32) (record : TileRecord) (tile : ROLF) : Prop where
  header : tile.toHeader = record.header.header
  one : tile.one = record.one
  images : ImagesAre images tile.images record.codes

structure IsEdge (images : Nodes UInt32) (record : EdgeRecord) (edge : EGDE) : Prop where
  header : edge.toHeader = record.header.header
  images : ImagesAre images edge.images record.codes

theorem length_encodeImages (codes : List ImageCode) :
    (encodeImages codes).length = 4 * codes.length + 4 := by
  induction codes with
  | nil => rfl
  | cons code codes ih =>
      rw [encodeImages_cons, List.length_append, length_encodeScalar, ih, List.length_cons]
      have four : Scalar.sizeof UInt32 = 4 := rfl
      omega

/-- There are more bytes than images ahead. -/
theorem codes_lt {codes : List ImageCode} (ahead : reading.rest s = encodeImages codes ++ more) :
    codes.length < s.buff.length := by
  have front : s.buff.drop s.count = encodeImages codes ++ more := ahead
  have lengths := congrArg List.length front
  rw [List.length_drop, List.length_append, length_encodeImages] at lengths
  omega

theorem loadTile_run (record : TileRecord) (ahead : reading.rest s = record.encode ++ more) :
    ∃ tile images' speeds', loadTile {} s = .ok (tile, { s with
        count := s.count + record.encode.length, type := dne
        thing := { s.thing with images := images', speeds := speeds' } }) ∧
      s.thing.images.Grows images' ∧ IsTile images' record tile := by
  rw [TileRecord.encode, List.append_assoc, List.append_assoc] at ahead
  have ahead₁ := Cursor.rest_advance _ ahead
  have ahead₂ := Cursor.rest_advance _ ahead₁
  obtain ⟨tile, images', speeds', nodes', run, header, one, sound, above, msgs⟩ := tileImages_run
    (s := reading.advance (reading.advance s _) _) (codes_lt ahead₂)
    ⟨record.header.header, record.one, {}, {}⟩ (sound_empty _)
    ⟨Store.Grows.refl s.thing.images, nofun⟩ (sound_empty _) ahead₂
  refine ⟨tile, images', speeds', ?_, above.grows, header, one, nodes', sound, msgs⟩
  rw [loadTile, run_bind_ok (loadHeader_run _ ahead), run_bind_ok (copyValue_run _ ahead₁),
    run_bind_ok rfl]
  refine run.trans ?_
  rw [TileRecord.encode, List.length_append, List.length_append, ← Nat.add_assoc, ← Nat.add_assoc]
  rfl

/-- The images of an edge are added behind those it has. -/
theorem edgeImages_run {codes : List ImageCode} {turns : Nat} (enough : codes.length < turns)
    (edge : EGDE) {floor : Nodes UInt32} {nodes : List (Nat × Entry UInt32)}
    (sound : Sound edge.images s.thing.images nodes) (above : Above floor s.thing.images nodes)
    (ahead : reading.rest s = encodeImages codes ++ more) :
    ∃ edge' images' nodes', edgeImages turns edge s = .ok (edge', { s with
        count := s.count + (encodeImages codes).length, type := dne
        thing := { s.thing with images := images' } }) ∧
      edge'.toHeader = edge.toHeader ∧
      Sound edge'.images images' nodes' ∧ Above floor images' nodes' ∧
      nodes'.map (fun node => node.2.msg) =
        nodes.map (fun node => node.2.msg) ++ codes.map Subtype.val := by
  induction codes generalizing turns edge s nodes with
  | nil =>
      obtain ⟨turns, rfl⟩ : ∃ rest, turns = rest + 1 := ⟨turns - 1, by omega⟩
      have type := copyType_run (show dne.length = 4 from rfl) ahead
      refine ⟨edge, s.thing.images, nodes, ?_, rfl, sound, above, (List.append_nil _).symm⟩
      rw [edgeImages, run_bind_ok type]
      rfl
  | cons code codes ih =>
      obtain ⟨turns, rfl⟩ : ∃ rest, turns = rest + 1 := ⟨turns - 1, by omega⟩
      rw [encodeImages_cons, List.append_assoc] at ahead
      have type := copyType_run (length_encodeScalar code.1) ahead
      have value := copyValue_run (s := { s with type := encodeScalar code.1 }) code.1
        ((rest_of_eq rfl rfl).trans ahead)
      obtain ⟨l', images₁, add, sound', above'⟩ := sound.add_above above code.1 0
      have added : addEdgeImage edge code.1 (reading.advance
          { s with type := encodeScalar code.1 } (encodeScalar code.1).length) =
          .ok ({ edge with images := l' }, { s with
            count := s.count + 4, type := encodeScalar code.1
            thing := { s.thing with images := images₁ } }) := by
        have lifted : (liftM (edge.images.add s.thing.images code.1) : Load TileLists _)
            (reading.advance { s with type := encodeScalar code.1 } (encodeScalar code.1).length) =
            .ok ((l', images₁), reading.advance { s with type := encodeScalar code.1 }
              (encodeScalar code.1).length) := by
          rw [add]
          rfl
        rw [addEdgeImage, run_bind_ok rfl]
        exact run_bind_ok lifted
      obtain ⟨edge', images', nodes', run, header, sound'', above'', msgs⟩ := ih
        (s := { s with
          count := s.count + 4, type := encodeScalar code.1
          thing := { s.thing with images := images₁ } })
        (Nat.lt_of_succ_lt_succ enough) { edge with images := l' } sound' above'
        ((rest_of_eq rfl rfl).trans (Cursor.rest_advance _ ahead))
      refine ⟨edge', images', nodes', ?_, header, sound'', above'', ?_⟩
      · rw [edgeImages, run_bind_ok type, run_bind_ok rfl, if_neg code.2, run_bind_ok value,
          run_bind_ok added, run, encodeImages_cons, List.length_append, ← Nat.add_assoc]
        rfl
      · rw [msgs, List.map_append, List.append_assoc]
        rfl

theorem loadEdge_run (record : EdgeRecord) (ahead : reading.rest s = record.encode ++ more) :
    ∃ edge images', loadEdge {} s = .ok (edge, { s with
        count := s.count + record.encode.length, type := dne
        thing := { s.thing with images := images' } }) ∧
      s.thing.images.Grows images' ∧ IsEdge images' record edge := by
  rw [EdgeRecord.encode, List.append_assoc] at ahead
  have ahead₁ := Cursor.rest_advance _ ahead
  obtain ⟨edge, images', nodes', run, header, sound, above, msgs⟩ := edgeImages_run
    (s := reading.advance s _) (codes_lt ahead₁) ⟨record.header.header, {}⟩ (sound_empty _)
    ⟨Store.Grows.refl s.thing.images, nofun⟩ ahead₁
  refine ⟨edge, images', ?_, above.grows, header, nodes', sound, msgs⟩
  rw [loadEdge, run_bind_ok (loadHeader_run _ ahead), run_bind_ok rfl]
  refine run.trans ?_
  rw [EdgeRecord.encode, List.length_append, ← Nat.add_assoc]
  rfl

/-! ### All records -/

/-- Behind what the lists had before, they have the records in their order, and the images that were
there before are as they were. -/
structure TilesLoaded (start : TileLists) (tiles : List (Nat × Entry ROLF))
    (edges : List (Nat × Entry EGDE)) (records : List (TileRecord ⊕ EdgeRecord))
    (thing : TileLists) : Prop where
  tiles : ∃ new, Sound thing.tiles thing.tileNodes (tiles ++ new) ∧
    List.Forall₂ (IsTile thing.images) (records.filterMap Sum.getLeft?)
      (new.map fun node => node.2.msg)
  edges : ∃ new, Sound thing.edges thing.edgeNodes (edges ++ new) ∧
    List.Forall₂ (IsEdge thing.images) (records.filterMap Sum.getRight?)
      (new.map fun node => node.2.msg)
  images : start.images.Grows thing.images

variable {start : TileLists} {tiles : List (Nat × Entry ROLF)} {edges : List (Nat × Entry EGDE)}
  {seen : List (TileRecord ⊕ EdgeRecord)}

/-- More images make no difference to what has been loaded. -/
theorem TilesLoaded.grows {thing thing' : TileLists}
    (loaded : TilesLoaded start tiles edges seen thing) (grows : thing.images.Grows thing'.images)
    (same_tiles : thing'.tiles = thing.tiles) (same_tileNodes : thing'.tileNodes = thing.tileNodes)
    (same_edges : thing'.edges = thing.edges)
    (same_edgeNodes : thing'.edgeNodes = thing.edgeNodes) :
    TilesLoaded start tiles edges seen thing' := by
  obtain ⟨newTiles, soundTiles, areTiles⟩ := loaded.tiles
  obtain ⟨newEdges, soundEdges, areEdges⟩ := loaded.edges
  refine ⟨⟨newTiles, ?_, ?_⟩, ⟨newEdges, ?_, ?_⟩, loaded.images.trans grows⟩
  · rw [same_tiles, same_tileNodes]
    exact soundTiles
  · exact areTiles.imp fun _ _ is => ⟨is.header, is.one, is.images.grows grows⟩
  · rw [same_edges, same_edgeNodes]
    exact soundEdges
  · exact areEdges.imp fun _ _ is => ⟨is.header, is.images.grows grows⟩

/-- A tile that has been read is put behind those there are. -/
theorem addTile_run {record : TileRecord} {tile : ROLF}
    (loaded : TilesLoaded start tiles edges seen s.thing) (is : IsTile s.thing.images record tile) :
    ∃ thing', addTile tile s = .ok ((), { s with thing := thing' }) ∧
      TilesLoaded start tiles edges (seen ++ [.inl record]) thing' := by
  obtain ⟨new, sound, are⟩ := loaded.tiles
  obtain ⟨l', nodes', run, sound', -⟩ := sound.add tile 0
  have lifted : (liftM (s.thing.tiles.add s.thing.tileNodes tile) : Load TileLists _) s =
      .ok ((l', nodes'), s) := by
    rw [run]
    rfl
  refine ⟨{ s.thing with tiles := l', tileNodes := nodes' }, ?_,
    ⟨new ++ [(s.thing.tileNodes.fresh, ⟨tile, 0⟩)], ?_, ?_⟩, ?_, loaded.images⟩
  · rw [addTile, run_bind_ok rfl, run_bind_ok lifted]
    rfl
  · rw [← List.append_assoc]
    exact sound'
  · rw [List.filterMap_append, List.map_append]
    exact List.rel_append are (.cons is .nil)
  · have none : [Sum.inl record].filterMap (Sum.getRight? : TileRecord ⊕ EdgeRecord → _) = [] := rfl
    rw [List.filterMap_append, none, List.append_nil]
    exact loaded.edges

/-- An edge that has been read is put behind those there are. -/
theorem addEdge_run {record : EdgeRecord} {edge : EGDE}
    (loaded : TilesLoaded start tiles edges seen s.thing) (is : IsEdge s.thing.images record edge) :
    ∃ thing', addEdge edge s = .ok ((), { s with thing := thing' }) ∧
      TilesLoaded start tiles edges (seen ++ [.inr record]) thing' := by
  obtain ⟨new, sound, are⟩ := loaded.edges
  obtain ⟨l', nodes', run, sound', -⟩ := sound.add edge 0
  have lifted : (liftM (s.thing.edges.add s.thing.edgeNodes edge) : Load TileLists _) s =
      .ok ((l', nodes'), s) := by
    rw [run]
    rfl
  refine ⟨{ s.thing with edges := l', edgeNodes := nodes' }, ?_, ?_,
    ⟨new ++ [(s.thing.edgeNodes.fresh, ⟨edge, 0⟩)], ?_, ?_⟩, loaded.images⟩
  · rw [addEdge, run_bind_ok rfl, run_bind_ok lifted]
    rfl
  · have none : [Sum.inr record].filterMap (Sum.getLeft? : TileRecord ⊕ EdgeRecord → _) = [] := rfl
    rw [List.filterMap_append, none, List.append_nil]
    exact loaded.tiles
  · rw [← List.append_assoc]
    exact sound'
  · rw [List.filterMap_append, List.map_append]
    exact List.rel_append are (.cons is .nil)

/-- A tag is copied into `Type`, and `count` moves behind it. -/
theorem nextTag_run {β : Type} {tag : List UInt8} (four : tag.length = 4)
    (ahead : reading.rest s = tag ++ more) (next : Load TileLists β) :
    (copyType >>= fun _ => move 4 >>= fun _ => next) s =
      next { s with count := s.count + 4, type := tag } := by
  rw [run_bind_ok (copyType_run four ahead)]
  exact run_bind_ok rfl

/-- What the records and the tag behind them begin with. -/
theorem split_tag (records : List (TileRecord ⊕ EdgeRecord)) {tag : List UInt8}
    (four : tag.length = 4) (more : List UInt8) :
    ∃ type rest, records.flatMap encodeRecord ++ (tag ++ more) = type ++ rest ∧
      type.length = 4 := by
  cases records with
  | nil => exact ⟨tag, more, rfl, four⟩
  | cons record records =>
      cases record with
      | inl tile =>
          refine ⟨rolf, tile.encode ++ (records.flatMap encodeRecord ++ (tag ++ more)), ?_, rfl⟩
          rw [List.flatMap_cons, encodeRecord, List.append_assoc, List.append_assoc]
      | inr edge =>
          refine ⟨egde, edge.encode ++ (records.flatMap encodeRecord ++ (tag ++ more)), ?_, rfl⟩
          rw [List.flatMap_cons, encodeRecord, List.append_assoc, List.append_assoc]

/-- How many bytes a record has behind its tag. -/
def recordSize (record : TileRecord ⊕ EdgeRecord) : Nat := (encodeRecord record).length - 4

/-- From behind the tag of a record on, the loop loads that record and goes on. -/
theorem tilesLoop_cons (record : TileRecord ⊕ EdgeRecord) (type : s.type.length = 4)
    (loaded : TilesLoaded start tiles edges seen s.thing)
    (ahead : s.type ++ reading.rest s = encodeRecord record ++ more) (turns : Nat) :
    ∃ thing', TilesLoaded start tiles edges (seen ++ [record]) thing' ∧
      reading.rest ⟨s.buff, s.count + recordSize record, dne, thing'⟩ = more ∧
      tilesLoop (turns + 1) {} {} s = (copyType >>= fun _ => move 4 >>= fun _ =>
        tilesLoop turns {} {}) ⟨s.buff, s.count + recordSize record, dne, thing'⟩ := by
  cases record with
  | inl tile =>
      have size : recordSize (.inl tile) = tile.encode.length := by
        rw [recordSize, encodeRecord, List.length_append]
        exact Nat.add_sub_cancel_left 4 _
      rw [encodeRecord, List.append_assoc] at ahead
      obtain ⟨is_rolf, ahead⟩ := List.append_inj ahead type
      obtain ⟨rolf', images', speeds', load, grows, is⟩ := loadTile_run tile ahead
      obtain ⟨thing', add, loaded'⟩ := addTile_run
        (s := ⟨s.buff, s.count + tile.encode.length, dne,
          { s.thing with images := images', speeds := speeds' }⟩)
        (loaded.grows grows rfl rfl rfl rfl) is
      rw [size]
      refine ⟨thing', loaded', (rest_of_eq rfl rfl).trans (Cursor.rest_advance _ ahead), ?_⟩
      rw [tilesLoop, run_bind_ok rfl, if_pos is_rolf, run_bind_ok load, run_bind_ok add]
  | inr edge =>
      have size : recordSize (.inr edge) = edge.encode.length := by
        rw [recordSize, encodeRecord, List.length_append]
        exact Nat.add_sub_cancel_left 4 _
      rw [encodeRecord, List.append_assoc] at ahead
      obtain ⟨is_egde, ahead⟩ := List.append_inj ahead type
      have not_rolf : s.type ≠ rolf := by
        rw [is_egde]
        decide
      obtain ⟨egde', images', load, grows, is⟩ := loadEdge_run edge ahead
      obtain ⟨thing', add, loaded'⟩ := addEdge_run
        (s := ⟨s.buff, s.count + edge.encode.length, dne, { s.thing with images := images' }⟩)
        (loaded.grows grows rfl rfl rfl rfl) is
      rw [size]
      refine ⟨thing', loaded', (rest_of_eq rfl rfl).trans (Cursor.rest_advance _ ahead), ?_⟩
      rw [tilesLoop, run_bind_ok rfl, if_neg not_rolf, if_pos is_egde, run_bind_ok load,
        run_bind_ok add]

theorem recordSize_add (record : TileRecord ⊕ EdgeRecord) :
    recordSize record + 4 = (encodeRecord record).length := by
  refine Nat.sub_add_cancel ?_
  cases record with
  | inl tile => exact List.length_append ▸ Nat.le_add_right 4 _
  | inr edge => exact List.length_append ▸ Nat.le_add_right 4 _

/-- From behind the tag in `Type` on, the loop loads the records up to a tag that is another one. -/
theorem tilesLoop_run {records : List (TileRecord ⊕ EdgeRecord)} {turns : Nat}
    (enough : records.length < turns) {tag : List UInt8} (four : tag.length = 4)
    (not_rolf : tag ≠ rolf) (not_egde : tag ≠ egde) (type : s.type.length = 4)
    (loaded : TilesLoaded start tiles edges seen s.thing)
    (ahead : s.type ++ reading.rest s = records.flatMap encodeRecord ++ (tag ++ more)) :
    ∃ thing', tilesLoop turns {} {} s = .ok ((),
        ⟨s.buff, s.count + (records.flatMap encodeRecord).length, tag, thing'⟩) ∧
      TilesLoaded start tiles edges (seen ++ records) thing' := by
  induction records generalizing turns s seen with
  | nil =>
      obtain ⟨turns, rfl⟩ : ∃ rest, turns = rest + 1 := ⟨turns - 1, by omega⟩
      have ahead : s.type ++ reading.rest s = tag ++ more := ahead
      obtain ⟨same, -⟩ := List.append_inj ahead (type.trans four.symm)
      refine ⟨s.thing, ?_, by rwa [List.append_nil]⟩
      rw [tilesLoop, run_bind_ok rfl, same, if_neg not_rolf, if_neg not_egde, ← same]
      rfl
  | cons record records ih =>
      obtain ⟨turns, rfl⟩ : ∃ rest, turns = rest + 1 := ⟨turns - 1, by omega⟩
      obtain ⟨nextType, rest, split, next_four⟩ := split_tag records four more
      rw [List.flatMap_cons, List.append_assoc, split] at ahead
      obtain ⟨thing', loaded', behind, turn⟩ := tilesLoop_cons record type loaded ahead turns
      have after := Cursor.rest_advance _ behind
      rw [next_four] at after
      obtain ⟨thing'', run, loaded''⟩ := ih
        (s := ⟨s.buff, s.count + recordSize record + 4, nextType, thing'⟩)
        (Nat.lt_of_succ_lt_succ enough) next_four loaded' (by
          rw [split]
          exact congrArg (nextType ++ ·) ((rest_of_eq rfl rfl).trans after))
      rw [List.append_assoc] at loaded''
      refine ⟨thing'', ?_, loaded''⟩
      rw [turn, nextTag_run next_four behind]
      refine run.trans ?_
      rw [Nat.add_assoc, recordSize_add, List.flatMap_cons, List.length_append, Nat.add_assoc]

/-- There are no more records than bytes. -/
theorem length_le_encode (records : List (TileRecord ⊕ EdgeRecord)) :
    records.length ≤ (records.flatMap encodeRecord).length := by
  induction records with
  | nil => exact Nat.le_refl _
  | cons record records ih =>
      rw [List.flatMap_cons, List.length_append, ← recordSize_add, List.length_cons]
      omega

/-- `Load_Tiles` puts tiles and edges, in their order and with their images, behind those there are,
and stops behind the tag that follows them. The records are any, also in their mixture; the lists
there are before are any that are whole. -/
theorem loadTiles_run (records : List (TileRecord ⊕ EdgeRecord)) {tag : List UInt8}
    (four : tag.length = 4) (not_rolf : tag ≠ rolf) (not_egde : tag ≠ egde)
    (soundTiles : Sound s.thing.tiles s.thing.tileNodes tiles)
    (soundEdges : Sound s.thing.edges s.thing.edgeNodes edges)
    (ahead : reading.rest s = records.flatMap encodeRecord ++ (tag ++ more)) :
    ∃ thing', loadTiles s = .ok ((),
        ⟨s.buff, s.count + (records.flatMap encodeRecord).length + 4, tag, thing'⟩) ∧
      TilesLoaded s.thing tiles edges records thing' := by
  obtain ⟨type, rest, split, type_four⟩ := split_tag records four more
  have behind := ahead.trans split
  have after := Cursor.rest_advance _ behind
  rw [type_four] at after
  have start : TilesLoaded s.thing tiles edges [] s.thing :=
    ⟨⟨[], by rwa [List.append_nil], .nil⟩, ⟨[], by rwa [List.append_nil], .nil⟩,
      Store.Grows.refl _⟩
  have enough : records.length < s.buff.length + 1 := by
    have lengths := congrArg List.length (show s.buff.drop s.count = _ from ahead)
    rw [List.length_drop, List.length_append] at lengths
    have := length_le_encode records
    omega
  obtain ⟨thing', run, loaded⟩ := tilesLoop_run (s := ⟨s.buff, s.count + 4, type, s.thing⟩)
    enough four not_rolf not_egde type_four start (by
      rw [split]
      exact congrArg (type ++ ·) ((rest_of_eq rfl rfl).trans after))
  refine ⟨thing', ?_, loaded⟩
  rw [loadTiles, nextTag_run type_four behind, run_bind_ok rfl]
  refine run.trans ?_
  rw [Nat.add_right_comm]

/-- Before anything is loaded. -/
def TileLists.empty : TileLists := ⟨{}, .empty, {}, .empty, .empty, .empty⟩

theorem sample_code : encodeScalar (5 : UInt32) ≠ dne := by decide

/-- A tile with an image, and an edge with none. -/
def sampleRecords : List (TileRecord ⊕ EdgeRecord) :=
  let header : TileHeader := ⟨1, [0x54], List.replicate 14 0, by decide, rfl⟩
  [.inl ⟨header, 1, [⟨5, sample_code⟩]⟩, .inr ⟨header, []⟩]

/-- The records up to "LLAW". -/
theorem loadTiles_run_sample : ∃ thing',
    loadTiles ⟨sampleRecords.flatMap encodeRecord ++ ([0x4C, 0x4C, 0x41, 0x57] ++ []), 0, [],
        .empty⟩ =
      .ok ((), ⟨sampleRecords.flatMap encodeRecord ++ ([0x4C, 0x4C, 0x41, 0x57] ++ []),
        0 + (sampleRecords.flatMap encodeRecord).length + 4, [0x4C, 0x4C, 0x41, 0x57], thing'⟩) ∧
      TilesLoaded .empty [] [] sampleRecords thing' :=
  loadTiles_run sampleRecords (by decide) (by decide) (by decide) (sound_empty _) (sound_empty _)
    rfl

end NoxServer.Things
