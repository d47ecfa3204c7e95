import NoxServer.Map.Loading
import NoxServer.Shared.Streams

/-!
The walls of a map (`NoxMap.h`, `NoxMap.cpp`, `NoxWallObject`).

`NoxWallMap::read` keeps a wall for each position and adds it to the shape the objects collide
with. The map does not take a second wall for a position, and such a wall is not added to the shape
either. `Agrees` says what both have received, wall by wall, and a section leaves them with the
first wall given for each position (`read_agrees`).
-/

namespace NoxServer.Map

open ByteBuffer Consume
open Decode (Cursor)

/-! ### Walls -/

/-- `NoxWallPosition`, by its `coords`. -/
structure NoxWallPosition where
  x : UInt8
  y : UInt8
  deriving DecidableEq, Repr

/-- The `key` of the union. -/
def NoxWallPosition.key (position : NoxWallPosition) : UInt16 :=
  UInt16.ofNat (fromBytes [position.x, position.y])

structure NoxWall where
  position : NoxWallPosition
  facing : UInt8
  variation : UInt8
  minimap : UInt8
  deriving DecidableEq, Repr

structure CoordPair where
  x_coord : UInt32
  y_coord : UInt32
  deriving DecidableEq, Repr

def NoxWall.getPosition (wall : NoxWall) : CoordPair :=
  ⟨wall.position.x.toUInt32, wall.position.y.toUInt32⟩

def NoxWall.read : Reader NoxWall := do
  let x ← readUInt8
  let y ← readUInt8
  let facing ← readUInt8
  let _matId ← readUInt8
  let variation ← readUInt8
  let minimap ← readUInt8
  let _null ← readUInt8
  return { position := ⟨x, y⟩, facing := facing &&& 0x7F, variation, minimap }

/-! ### The shape -/

/-- The four flags a facing has in `AddWall`, as the lines from the centre of a cell. -/
inductive Flag where
  | north
  | west
  | south
  | east
  deriving DecidableEq, Repr

/-- The cases of `NoxWallObject::AddWall`, by the numbers of `NoxWallFacingType`. -/
def wallFlags (facing : UInt8) : List Flag :=
  match facing.toNat with
  | 0 => [.north, .south]
  | 1 => [.east, .west]
  | 3 => [.north, .south, .west]
  | 4 => [.north, .east, .west]
  | 5 => [.north, .south, .east]
  | 6 => [.south, .east, .west]
  | 7 => [.north, .west]
  | 8 => [.north, .east]
  | 9 => [.south, .east]
  | 10 => [.south, .west]
  | _ => [.north, .south]

/-- Where a line of half a wall's length ends, from the centre. -/
def Flag.direction : Flag → Int × Int
  | .north => (1, -1)
  | .south => (-1, 1)
  | .east => (1, 1)
  | .west => (-1, -1)

/-- A `Composite` of lines from its centre; the lengths are halves of the source's. -/
structure Composite where
  center : Int × Int
  ends : List (Int × Int)
  deriving DecidableEq, Repr

/-- `CreateWall(pos, flags)`: a wall has size 23. -/
def createWall (pos : CoordPair) (flags : List Flag) : Composite :=
  let x : Int := pos.x_coord.toNat * 46 + 23
  let y : Int := pos.y_coord.toNat * 46 + 23
  { center := (x, y)
    ends := flags.map fun flag => (x + 23 * flag.direction.1, y + 23 * flag.direction.2) }

/-- `NoxWallObject`: the calls of `AddWall` it has received. -/
structure NoxWallObject where
  received : List (CoordPair × UInt8) := []
  deriving DecidableEq, Repr

def NoxWallObject.addWall (walls : NoxWallObject) (pos : CoordPair) (facing : UInt8) :
    NoxWallObject :=
  { received := walls.received ++ [(pos, facing)] }

/-- The shape: each call pushes a part. -/
def NoxWallObject.shape (walls : NoxWallObject) : List Composite :=
  walls.received.map fun call => createWall call.1 (wallFlags call.2)

/-! ### The map -/

/-- `NoxWallMap`: a `hash_map`, with no key twice. -/
structure NoxWallMap where
  entries : List (UInt16 × NoxWall)
  nodup : (entries.map Prod.fst).Nodup

def NoxWallMap.empty : NoxWallMap := ⟨[], .nil⟩

def NoxWallMap.find (walls : NoxWallMap) (key : UInt16) : Option NoxWall :=
  walls.entries.lookup key

theorem find_of_mem_keys {walls : NoxWallMap} {key : UInt16}
    (mem : key ∈ walls.entries.map Prod.fst) : (walls.find key).isSome := by
  obtain ⟨entry, there, rfl⟩ := List.mem_map.mp mem
  exact List.lookup_isSome_iff.mpr ⟨entry, there, beq_self_eq_true _⟩

/-- `insert(NoxWallPair(key, wall))`: whether the wall is inserted. -/
def NoxWallMap.insert (walls : NoxWallMap) (key : UInt16) (wall : NoxWall) : NoxWallMap × Bool :=
  if there : (walls.find key).isSome then (walls, false)
  else
    ({ entries := walls.entries ++ [(key, wall)]
       nodup := by
        rw [List.map_append, List.nodup_append]
        refine ⟨walls.nodup, List.pairwise_singleton _ _, ?_⟩
        intro old mem new here same
        rw [same, List.mem_singleton.mp here] at mem
        exact there (find_of_mem_keys mem) }, true)

def NoxWallMap.getWall (walls : NoxWallMap) (position : NoxWallPosition) : Option NoxWall :=
  walls.find position.key

/-- `GetWall(GridPair)`. -/
def NoxWallMap.getWallAt (walls : NoxWallMap) (pos : CoordPair) : Option NoxWall :=
  walls.getWall ⟨(pos.x_coord / 23).toUInt8, (pos.y_coord / 23).toUInt8⟩

/-- The map of the walls, and what of the object manager has to do with them. -/
structure Walls where
  map : NoxWallMap := .empty
  collisionWalls : NoxWallObject := {}
  /-- `objectTable` has `&collisionWalls`. -/
  listed : Bool := false

/-- `NoxWallMap::AddWall(wall)`. -/
def Walls.addWall (walls : Walls) (wall : NoxWall) : Bool × Walls :=
  match walls.map.insert wall.position.key wall with
  | (_, false) => (false, walls)
  | (map, true) =>
      (true, { walls with
        map, collisionWalls := walls.collisionWalls.addWall wall.getPosition wall.facing })

def Walls.addCollisionWalls (walls : Walls) : Walls := { walls with listed := true }

/-! ### Reading -/

/-- A turn of the loop of `NoxWallMap::read`; none if it ends. -/
def Walls.turn (walls : Walls) : Reader (Option Walls) := do
  if ← moreWalls then
    let pos ← getRpos
    setRpos (pos - 2) -- go back two to accommodate the condition
    let wall ← NoxWall.read
    return some (walls.addWall wall).2
  else return none

theorem noxWall_read_yields :
    ∃ value, Yields view NoxWall.read 7 value :=
  ⟨_, readUInt8_yields.bind fun _ => readUInt8_yields.bind fun _ => readUInt8_yields.bind fun _ =>
    readUInt8_yields.bind fun _ => readUInt8_yields.bind fun _ => readUInt8_yields.bind fun _ =>
      readUInt8_yields.bind fun _ => yields_pure _⟩

/-- The wall that is next, if the loop goes on. -/
def nextWall : Reader (Option NoxWall) := do
  if ← moreWalls then
    let pos ← getRpos
    setRpos (pos - 2)
    let wall ← NoxWall.read
    return some wall
  else return none

theorem turn_eq (walls : Walls) :
    walls.turn = do
      match ← nextWall with
      | some wall => return some (walls.addWall wall).2
      | none => return none := by
  unfold Walls.turn nextWall
  simp only [bind_assoc]
  refine congrArg (moreWalls >>= ·) (funext fun more => ?_)
  cases more with
  | true => simp only [if_true, bind_assoc, pure_bind]
  | false => simp

/-- A wall that is next has been read. -/
theorem nextWall_moves {wall : NoxWall} {b b' : ByteBuffer}
    (run : nextWall b = .ok (some wall, b')) : b'.size - b'.rpos < b.size - b.rpos := by
  unfold nextWall at run
  obtain ⟨more, b1, condition, run⟩ := bind_run_eq_ok run
  obtain ⟨room, data1, two⟩ := moreWalls_leads condition
  cases more with
  | true =>
      have back := two rfl
      obtain ⟨_, _, ⟨⟩, run⟩ := bind_run_eq_ok run
      obtain ⟨_, _, ⟨⟩, run⟩ := bind_run_eq_ok run
      obtain ⟨wall, b2, read, run⟩ := bind_run_eq_ok run
      obtain ⟨value, yields⟩ := noxWall_read_yields
      have here := yields { b1 with rpos := b1.rpos - 2 }
      rw [read] at here
      obtain ⟨-, data2, pos2⟩ := here
      have moved : b2.rpos = b1.rpos - 2 + 7 := pos2
      have size : b2.size = b.size := congrArg List.length (data2.trans data1)
      cases run
      omega
  | false => cases run

/-- A turn that goes on has read a wall. -/
theorem turn_moves {walls walls' : Walls} {b b' : ByteBuffer}
    (run : walls.turn b = .ok (some walls', b')) : b'.size - b'.rpos < b.size - b.rpos := by
  rw [turn_eq] at run
  obtain ⟨next, b1, read, run⟩ := bind_run_eq_ok run
  cases next with
  | some wall =>
      cases run
      exact nextWall_moves read
  | none => cases run

/-- The loop of `NoxWallMap::read`. -/
def Walls.readWalls (walls : Walls) (b : ByteBuffer) : Except Fault (Walls × ByteBuffer) :=
  match _turn : walls.turn b with
  | .error fault => .error fault
  | .ok (none, b') => .ok (walls, b')
  | .ok (some walls', b') => walls'.readWalls b'
termination_by b.size - b.rpos
decreasing_by exact turn_moves _turn

/-- `NoxWallMap::read(rdr)`. -/
def Walls.read (walls : Walls) : Reader Walls := do
  let jump ← readJump
  readFields [2, 4, 4, 4, 4]
  let walls ← walls.readWalls
  setRpos jump.finish
  return walls.addCollisionWalls

/-! ### The loading of a map -/

/-- A wall is seven numbers of a byte. -/
theorem noxWall_read_fields :
    (do let _ ← NoxWall.read; pure ()) = readFields [1, 1, 1, 1, 1, 1, 1] := by
  simp only [NoxWall.read, readUInt8, readFields, bind_assoc, pure_bind]

/-- The loading makes this loop's turns. -/
theorem wall_eq_turn (w : Loading) (finish : Nat) (walls : Walls) :
    w.wall finish = (do
      if (← walls.turn).isSome then return (none, w)
      else
        setRpos finish
        return (none, { w with place := .sections })) := by
  unfold Loading.wall Walls.turn
  rw [← noxWall_read_fields]
  simp only [bind_assoc, pure_bind]
  refine congrArg (moreWalls >>= ·) (funext fun more => ?_)
  cases more with
  | true => simp only [if_true, bind_assoc, pure_bind, Option.isSome_some]
  | false => simp

/-! ### Agreement -/

theorem key_injective : Function.Injective NoxWallPosition.key := by
  rintro ⟨x, y⟩ ⟨x', y'⟩ same
  have value := congrArg UInt16.toNat same
  have low := x.toNat_lt
  have low' := x'.toNat_lt
  have high := y.toNat_lt
  have high' := y'.toNat_lt
  simp only [NoxWallPosition.key, fromBytes, UInt16.toNat_ofNat'] at value
  obtain rfl : x = x' := UInt8.toNat_inj.mp (by omega)
  obtain rfl : y = y' := UInt8.toNat_inj.mp (by omega)
  rfl

/-- Where a position is in the coordinates of the grid. -/
def NoxWallPosition.coords (position : NoxWallPosition) : CoordPair :=
  ⟨position.x.toUInt32, position.y.toUInt32⟩

theorem coords_injective : Function.Injective NoxWallPosition.coords := by
  rintro ⟨x, y⟩ ⟨x', y'⟩ same
  obtain ⟨same_x, same_y⟩ := CoordPair.mk.inj same
  obtain rfl : x = x' := UInt8.toUInt32_inj.mp same_x
  obtain rfl : y = y' := UInt8.toUInt32_inj.mp same_y
  rfl

/-- The first wall at a position. -/
def firstAt (walls : List NoxWall) (position : NoxWallPosition) : Option NoxWall :=
  walls.find? fun wall => wall.position = position

/-- The map has the first of the walls at each position, and the shape has received that wall and no
other one there. -/
structure Agrees (seen : List NoxWall) (walls : Walls) : Prop where
  map : ∀ position, walls.map.getWall position = firstAt seen position
  shape : ∀ position, walls.collisionWalls.received.filter (fun call => call.1 = position.coords) =
    ((firstAt seen position).map fun wall => (position.coords, wall.facing)).toList
  within : ∀ call ∈ walls.collisionWalls.received,
    ∃ position : NoxWallPosition, call.1 = position.coords

theorem firstAt_concat (seen : List NoxWall) (wall : NoxWall) (position : NoxWallPosition) :
    firstAt (seen ++ [wall]) position =
      (firstAt seen position).or (if wall.position = position then some wall else none) := by
  rw [firstAt, List.find?_append, List.find?_singleton]
  simp only [decide_eq_true_eq]
  rfl

/-- `AddWall` where there is a wall. -/
theorem addWall_of_some {walls : Walls} {wall : NoxWall}
    (there : (walls.map.getWall wall.position).isSome) : walls.addWall wall = (false, walls) := by
  have found : (walls.map.find wall.position.key).isSome := there
  rw [Walls.addWall, NoxWallMap.insert, dif_pos found]

/-- `AddWall` where there is none. -/
theorem addWall_of_none {walls : Walls} {wall : NoxWall}
    (none : walls.map.getWall wall.position = none) :
    ∃ map : NoxWallMap, walls.addWall wall = (true, { walls with
        map, collisionWalls := walls.collisionWalls.addWall wall.getPosition wall.facing }) ∧
      ∀ position, map.getWall position = (walls.map.getWall position).or
        (if wall.position = position then some wall else Option.none) := by
  have not_there : ¬(walls.map.find wall.position.key).isSome := by
    simp [show walls.map.find wall.position.key = Option.none from none]
  refine ⟨(walls.map.insert wall.position.key wall).1, ?_, fun position => ?_⟩
  · rw [Walls.addWall, NoxWallMap.insert, dif_neg not_there]
  · rw [NoxWallMap.insert, dif_neg not_there, NoxWallMap.getWall, NoxWallMap.find,
      List.lookup_append]
    refine congrArg (Option.or _) ?_
    by_cases same : wall.position = position
    · simp [same]
    · have other : (position.key == wall.position.key) = false :=
        beq_false_of_ne fun keys => same (key_injective keys).symm
      simp [List.lookup_cons, other, same]

/-- Adding a wall keeps the map and the shape in agreement. -/
theorem Agrees.addWall {seen : List NoxWall} {walls : Walls} (agrees : Agrees seen walls)
    (wall : NoxWall) : Agrees (seen ++ [wall]) (walls.addWall wall).2 := by
  have before := agrees.map wall.position
  cases there : firstAt seen wall.position with
  | some first =>
      -- The position has a wall, which the map and the shape keep.
      have same : ∀ position, firstAt (seen ++ [wall]) position = firstAt seen position := by
        intro position
        rw [firstAt_concat]
        split
        · next here =>
            rw [← here, there]
            rfl
        · exact Option.or_none
      have found : (walls.map.getWall wall.position).isSome := by
        rw [before, there]
        rfl
      rw [addWall_of_some found]
      exact ⟨fun position => (agrees.map position).trans (same position).symm,
        fun position => (agrees.shape position).trans (by rw [same]), agrees.within⟩
  | none =>
      obtain ⟨map, added, getWall⟩ := addWall_of_none (before.trans there)
      have placed : wall.getPosition = wall.position.coords := rfl
      rw [added]
      refine ⟨fun position => ?_, fun position => ?_, fun call mem => ?_⟩
      · rw [getWall, agrees.map, firstAt_concat]
      · have calls : (walls.collisionWalls.addWall wall.getPosition wall.facing).received =
            walls.collisionWalls.received ++ [(wall.position.coords, wall.facing)] := rfl
        rw [calls, List.filter_append, agrees.shape, firstAt_concat]
        by_cases same : wall.position = position
        · subst same
          simp [there]
        · have apart : wall.position.coords ≠ position.coords :=
            fun coords => same (coords_injective coords)
          simp [same, apart]
      · rcases List.mem_append.mp mem with old | new
        · exact agrees.within call old
        · exact ⟨wall.position, congrArg Prod.fst (List.mem_singleton.mp new)⟩

/-! ### Sections -/

/-- The seven bytes of a wall. -/
structure Record where
  x : UInt8
  y : UInt8
  facing : UInt8
  material : UInt8
  variation : UInt8
  minimap : UInt8
  null : UInt8

def Record.encode (r : Record) : List UInt8 :=
  [r.x, r.y, r.facing, r.material, r.variation, r.minimap, r.null]

def Record.wall (r : Record) : NoxWall :=
  { position := ⟨r.x, r.y⟩, facing := r.facing &&& 0x7F, variation := r.variation,
    minimap := r.minimap }

theorem noxWall_read_run (r : Record) {b : ByteBuffer} {more : List UInt8}
    (ahead : cursor.rest b = r.encode ++ more) :
    NoxWall.read b = .ok (r.wall, cursor.advance b 7) := by
  have next : ∀ {b : ByteBuffer} {byte : UInt8} {more : List UInt8},
      cursor.rest b = byte :: more → cursor.rest (cursor.advance b 1) = more :=
    fun {_ byte _} ahead => Cursor.rest_advance [byte] ahead
  have ahead2 := next ahead
  have ahead3 := next ahead2
  have ahead4 := next ahead3
  have ahead5 := next ahead4
  have ahead6 := next ahead5
  have ahead7 := next ahead6
  rw [NoxWall.read, run_bind_ok (readUInt8_ahead ahead), run_bind_ok (readUInt8_ahead ahead2),
    run_bind_ok (readUInt8_ahead ahead3), run_bind_ok (readUInt8_ahead ahead4),
    run_bind_ok (readUInt8_ahead ahead5), run_bind_ok (readUInt8_ahead ahead6),
    run_bind_ok (readUInt8_ahead ahead7)]
  rfl

/-- Before a wall, the loop reads it. -/
theorem nextWall_of_record {r : Record} (x : r.x ≠ 0xFF) (y : r.y ≠ 0xFF) {b : ByteBuffer}
    {more : List UInt8} (ahead : cursor.rest b = r.encode ++ more) :
    nextWall b = .ok (some r.wall, cursor.advance b 7) := by
  have condition : moreWalls b = .ok (true, cursor.advance b 2) := by
    have ahead' : cursor.rest (cursor.advance b 1) =
        [r.y, r.facing, r.material, r.variation, r.minimap, r.null] ++ more :=
      Cursor.rest_advance [r.x] ahead
    rw [moreWalls, run_bind_ok (readUInt8_ahead ahead), if_pos x,
      run_bind_ok (readUInt8_ahead ahead')]
    simp [y]
    rfl
  have back : (cursor.advance b 2).rpos - 2 = b.rpos := Nat.add_sub_cancel _ _
  rw [nextWall, run_bind_ok condition, if_pos rfl, run_bind_ok rfl, back, run_bind_ok rfl]
  exact run_bind_ok (noxWall_read_run r ahead)

/-- Before the end of the walls, the loop stops. -/
theorem nextWall_of_end {b : ByteBuffer} {more : List UInt8}
    (ahead : cursor.rest b = 0xFF :: more) : nextWall b = .ok (none, cursor.advance b 1) := by
  have condition : moreWalls b = .ok (false, cursor.advance b 1) := by
    rw [moreWalls, run_bind_ok (readUInt8_ahead ahead), if_neg (not_not_intro rfl)]
    rfl
  rw [nextWall, run_bind_ok condition]
  rfl

theorem turn_of_record (walls : Walls) {r : Record} (x : r.x ≠ 0xFF) (y : r.y ≠ 0xFF)
    {b : ByteBuffer} {more : List UInt8} (ahead : cursor.rest b = r.encode ++ more) :
    walls.turn b = .ok (some (walls.addWall r.wall).2, cursor.advance b 7) := by
  rw [turn_eq]
  exact run_bind_ok (nextWall_of_record x y ahead)

theorem turn_of_end (walls : Walls) {b : ByteBuffer} {more : List UInt8}
    (ahead : cursor.rest b = 0xFF :: more) :
    walls.turn b = .ok (none, cursor.advance b 1) := by
  rw [turn_eq]
  exact run_bind_ok (nextWall_of_end ahead)

/-- The loop reads the walls up to their end. -/
theorem readWalls_run {records : List Record} (inside : ∀ r ∈ records, r.x ≠ 0xFF ∧ r.y ≠ 0xFF)
    {seen : List NoxWall} {walls : Walls} (agrees : Agrees seen walls) {b : ByteBuffer}
    {more : List UInt8} (ahead : cursor.rest b = records.flatMap Record.encode ++ 0xFF :: more) :
    ∃ walls' count, walls.readWalls b = .ok (walls', cursor.advance b count) ∧
      Agrees (seen ++ records.map Record.wall) walls' := by
  induction records generalizing seen walls b with
  | nil =>
      refine ⟨walls, 1, ?_, by simpa using agrees⟩
      rw [Walls.readWalls, turn_of_end walls ahead]
  | cons r records ih =>
      rw [List.flatMap_cons, List.append_assoc] at ahead
      obtain ⟨x, y⟩ := inside r List.mem_cons_self
      have turn := turn_of_record walls x y ahead
      obtain ⟨walls', count, run, agrees'⟩ := ih
        (fun r' mem => inside r' (List.mem_cons_of_mem r mem)) (agrees.addWall r.wall)
        (Cursor.rest_advance r.encode ahead)
      refine ⟨walls', 7 + count, ?_, by simpa using agrees'⟩
      rw [Walls.readWalls, turn, ← cursor.advance_add]
      exact run

theorem readJump_run (length : Int64) {b : ByteBuffer} {more : List UInt8}
    (ahead : cursor.rest b = encodeScalar length ++ more) :
    readJump b = .ok (⟨length.toInt, b.rpos + 8⟩, cursor.advance b 8) := by
  have bytes : read 8 b = .ok (encodeScalar length, cursor.advance b 8) := read_run ahead
  have value : Int64.ofNat (fromBytes (encodeScalar length)) = length := by
    rw [encodeScalar, fromBytes_toBytes, Nat.mod_eq_of_lt (Scalar.bits_lt length)]
    exact Scalar.ofBits_bits length
  rw [readJump, run_bind_ok bytes, run_bind_ok rfl, value]
  rfl

/-- A pixel is in a cell. -/
theorem getWallAt_cell (walls : NoxWallMap) (position : NoxWallPosition) {dx dy : UInt32}
    (dx_lt : dx < 23) (dy_lt : dy < 23) :
    walls.getWallAt ⟨position.x.toUInt32 * 23 + dx, position.y.toUInt32 * 23 + dy⟩ =
      walls.getWall position := by
  have cell : ∀ (c : UInt8) {d : UInt32}, d < 23 → ((c.toUInt32 * 23 + d) / 23).toUInt8 = c := by
    intro c d inside
    have small := c.toNat_lt
    have inside : d.toNat < 23 := UInt32.lt_iff_toNat_lt.mp inside
    have product : c.toNat * 23 < 2 ^ 32 := by omega
    have sum : c.toNat * 23 + d.toNat < 2 ^ 32 := by omega
    apply UInt8.toNat_inj.mp
    simp only [UInt32.toNat_toUInt8, UInt32.toNat_div, UInt32.toNat_add, UInt32.toNat_mul,
      UInt8.toNat_toUInt32, UInt32.reduceToNat]
    rw [Nat.mod_eq_of_lt product, Nat.mod_eq_of_lt sum]
    omega
  rw [NoxWallMap.getWallAt, cell position.x dx_lt, cell position.y dy_lt]

/-- After a section, the map has the first wall given for each position, which is found from each
pixel in its cell, the shape has received that wall once, and the position is at the end that the
section declares. -/
theorem read_agrees {records : List Record} (inside : ∀ r ∈ records, r.x ≠ 0xFF ∧ r.y ≠ 0xFF)
    (length : Int64) {header : List UInt8} (header_length : header.length = 18) {b : ByteBuffer}
    {more : List UInt8}
    (ahead : cursor.rest b =
      encodeScalar length ++ (header ++ (records.flatMap Record.encode ++ 0xFF :: more))) :
    ∃ walls, Walls.read {} b =
        .ok (walls, { b with rpos := Jump.finish ⟨length.toInt, b.rpos + 8⟩ }) ∧
      Agrees (records.map Record.wall) walls ∧
      ∀ (position : NoxWallPosition) (dx dy : UInt32), dx < 23 → dy < 23 →
        walls.map.getWallAt ⟨position.x.toUInt32 * 23 + dx, position.y.toUInt32 * 23 + dy⟩ =
          firstAt (records.map Record.wall) position := by
  have ahead' : cursor.rest (cursor.advance b 8) = _ := Cursor.rest_advance _ ahead
  have fields := readFields_run (show header.length = [2, 4, 4, 4, 4].sum from header_length) ahead'
  have empty : Agrees [] ({} : Walls) := ⟨fun _ => rfl, fun _ => rfl, nofun⟩
  obtain ⟨walls, count, run, agrees⟩ :=
    readWalls_run inside empty (Cursor.rest_advance _ ahead')
  have agrees : Agrees (records.map Record.wall) walls.addCollisionWalls :=
    ⟨agrees.map, agrees.shape, agrees.within⟩
  refine ⟨walls.addCollisionWalls, ?_, agrees, fun position dx dy dx_lt dy_lt => ?_⟩
  · rw [Walls.read, run_bind_ok (readJump_run length ahead), run_bind_ok fields,
      run_bind_ok run]
    rfl
  · rw [getWallAt_cell _ _ dx_lt dy_lt, agrees.map]

/-- Two walls for one position: the second is left out. -/
theorem read_agrees_twice :
    ∃ walls, Walls.read {} ⟨0, 0, encodeScalar (33 : Int64) ++ (List.replicate 18 0 ++
          ([⟨1, 2, 0x83, 0, 0, 0, 0⟩, ⟨1, 2, 4, 0, 0, 0, 0⟩].flatMap Record.encode ++ [0xFF]))⟩ =
        .ok (walls, ⟨41, 0, encodeScalar (33 : Int64) ++ (List.replicate 18 0 ++
          ([⟨1, 2, 0x83, 0, 0, 0, 0⟩, ⟨1, 2, 4, 0, 0, 0, 0⟩].flatMap Record.encode ++
            [0xFF]))⟩) ∧
      Agrees ([⟨1, 2, 0x83, 0, 0, 0, 0⟩, ⟨1, 2, 4, 0, 0, 0, 0⟩].map Record.wall) walls ∧
      ∀ (position : NoxWallPosition) (dx dy : UInt32), dx < 23 → dy < 23 →
        walls.map.getWallAt ⟨position.x.toUInt32 * 23 + dx, position.y.toUInt32 * 23 + dy⟩ =
          firstAt ([⟨1, 2, 0x83, 0, 0, 0, 0⟩, ⟨1, 2, 4, 0, 0, 0, 0⟩].map Record.wall) position :=
  read_agrees (by decide) 33 (by decide) rfl

end NoxServer.Map
