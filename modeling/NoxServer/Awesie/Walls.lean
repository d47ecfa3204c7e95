import Mathlib.Data.List.AList
import Mathlib.Tactic.IntervalCases
import NoxServer.Map.Walls

/-!
The walls of a map (`NoxMap.h`, `NoxMap.cpp` of the awesie server).

A wall makes its shapes when it is made, and is then given to the map, by a position that nothing
sets: the key is what the memory of the wall holds. And a wall the map does not take leaves its
shapes behind. So the map and the shapes are right exactly where the memory sorts the walls as
their positions would, and a wall that is not taken has no shapes (`read_matches_iff`).

The section is read as the other server's is; the walls are numbered in the order they are made.
-/

namespace NoxServer.Awesie

open Map ByteBuffer Consume
open Decode (Cursor)

/-- A `b2Shape` of the body of the walls: the wall whose `m_shapes` has it, its side, and where the
wall was when it was made. -/
structure Shape where
  wall : Nat
  side : Flag
  place : NoxWallPosition
  deriving DecidableEq

/-- The cases of `create_body`, by the numbers of `NoxWallFacingType`. The cross and the four Ts go
on into the case behind them, as the source has no `break` there. -/
def sides (facing : UInt8) : List Flag :=
  match facing.toNat with
  | 2 => [.east, .west, .north, .south]
  | 0 => [.north, .south]
  | 1 => [.east, .west]
  | 3 => [.north, .west, .south]
  | 7 => [.west, .south]
  | 6 => [.east, .west, .north]
  | 10 => [.west, .north]
  | 5 => [.south, .north, .east]
  | 9 => [.north, .east]
  | 4 => [.west, .east, .south]
  | 8 => [.east, .south]
  | _ => []

/-- The walls that have been made, the `NoxWallMap` of their pointers, and the shapes of the
body. -/
structure WallWorld where
  walls : List NoxWall := []
  map : AList fun _ : UInt16 => Nat := ∅
  shapes : List Shape := []

namespace WallWorld

/-- `SetPosition(x, y)`: `destroy_body()` and `create_body(x, y)`. -/
def setPosition (w : WallWorld) (wall : Nat) (facing : UInt8) (place : NoxWallPosition) :
    WallWorld :=
  { w with
    shapes := w.shapes.filter (fun s => s.wall ≠ wall) ++
      (sides facing).map fun side => { wall := wall, side := side, place := place } }

/-- `NoxWall(rdr)` of what has been read, where `memory` is what the walls' `_position` holds. -/
def construct (memory : Nat → NoxWallPosition) (w : WallWorld) (read : NoxWall) : WallWorld :=
  let wall := w.walls.length
  let w := { w with walls := w.walls ++ [{ read with position := memory wall }] }
  w.setPosition wall read.facing read.position

/-- `AddWall(wall)`, by its `GetPositionKey()`. -/
def addWall (w : WallWorld) (key : UInt16) (wall : Nat) : Bool × WallWorld :=
  match w.map.lookup key with
  | some _ => (false, w)
  | none => (true, { w with map := w.map.insert key wall })

/-- The body of the loop of `NoxWallMap::read`. -/
def step (memory : Nat → NoxWallPosition) (w : WallWorld) (read : NoxWall) : WallWorld :=
  let wall := w.walls.length
  ((w.construct memory read).addWall (memory wall).key wall).2

/-- The loop of `NoxWallMap::read`. -/
def readWalls (memory : Nat → NoxWallPosition) (w : WallWorld) (b : ByteBuffer) :
    Except Fault (WallWorld × ByteBuffer) :=
  match _next : nextWall b with
  | .error fault => .error fault
  | .ok (none, b') => .ok (w, b')
  | .ok (some wall, b') => (w.step memory wall).readWalls memory b'
termination_by b.size - b.rpos
decreasing_by exact nextWall_moves _next

/-- `NoxWallMap::read(rdr)`. -/
def read (memory : Nat → NoxWallPosition) : Reader WallWorld := do
  let jump ← readJump
  readFields [2, 4, 4, 4, 4]
  let w ← readWalls memory {}
  setRpos jump.finish
  return w

def getWall (w : WallWorld) (position : NoxWallPosition) : Option NoxWall :=
  (w.map.lookup position.key).bind (w.walls[·]?)

/-! ### What the walls leave -/

/-- The first of some walls whose memory holds a position. -/
def firstHeld (memory : Nat → NoxWallPosition) (count : Nat) (position : NoxWallPosition) :
    Option Nat :=
  (List.range count).find? fun n => decide (memory n = position)

/-- What walls of these records have left: each is made, each has made its shapes, and the map has
the first for each key the memory holds. -/
structure Built (memory : Nat → NoxWallPosition) (records : List NoxWall) (w : WallWorld) :
    Prop where
  walls : w.walls = records.mapIdx fun n record => { record with position := memory n }
  map : ∀ position : NoxWallPosition,
    w.map.lookup position.key = firstHeld memory records.length position
  shapes : ∀ s, s ∈ w.shapes ↔
    ∃ record, records[s.wall]? = some record ∧ s.side ∈ sides record.facing ∧
      s.place = record.position

variable {memory : Nat → NoxWallPosition} {records : List NoxWall} {w : WallWorld}

theorem built_nil : Built memory [] {} where
  walls := rfl
  map _ := rfl
  shapes s := by simp

theorem firstHeld_succ (count : Nat) (position : NoxWallPosition) :
    firstHeld memory (count + 1) position =
      (firstHeld memory count position).or
        (if memory count = position then some count else none) := by
  rw [firstHeld, List.range_succ, List.find?_append, List.find?_singleton]
  simp only [decide_eq_true_eq]
  rfl

theorem firstHeld_eq_some {count n : Nat} {position : NoxWallPosition} :
    firstHeld memory count position = some n ↔
      memory n = position ∧ n < count ∧ ∀ m, m < n → memory m ≠ position := by
  rw [firstHeld, List.find?_range_eq_some]
  simp

theorem Built.length (built : Built memory records w) : w.walls.length = records.length := by
  rw [built.walls, List.length_mapIdx]

theorem lookup_addWall (w : WallWorld) (key key' : UInt16) (wall : Nat) :
    (w.addWall key wall).2.map.lookup key' =
      (w.map.lookup key').or (if key' = key then some wall else none) := by
  rw [addWall]
  cases found : w.map.lookup key with
  | some old =>
      by_cases same : key' = key
      · rw [same, found]
        rfl
      · rw [if_neg same, Option.or_none]
  | none =>
      by_cases same : key' = key
      · rw [same, AList.lookup_insert, found, if_pos rfl]
        rfl
      · rw [AList.lookup_insert_ne same, if_neg same, Option.or_none]

theorem addWall_walls (w : WallWorld) (key : UInt16) (wall : Nat) :
    (w.addWall key wall).2.walls = w.walls := by
  rw [addWall]
  split
  · rfl
  · rfl

theorem addWall_shapes (w : WallWorld) (key : UInt16) (wall : Nat) :
    (w.addWall key wall).2.shapes = w.shapes := by
  rw [addWall]
  split
  · rfl
  · rfl

/-- One more wall. -/
theorem Built.step (built : Built memory records w) (record : NoxWall) :
    Built memory (records ++ [record]) (w.step memory record) := by
  have length := built.length
  constructor
  · rw [WallWorld.step, addWall_walls, List.mapIdx_append, ← built.walls]
    simp [construct, setPosition, length]
  · intro position
    rw [WallWorld.step, lookup_addWall, List.length_append, List.length_singleton, firstHeld_succ,
      ← built.map, length]
    refine congrArg (Option.or _) ?_
    by_cases here : memory records.length = position
    · rw [if_pos here, if_pos (congrArg NoxWallPosition.key here.symm)]
    · rw [if_neg here, if_neg fun same => here (key_injective same).symm]
  · intro s
    rw [WallWorld.step, addWall_shapes]
    change s ∈ w.shapes.filter (fun s => decide (s.wall ≠ w.walls.length)) ++ _ ↔ _
    rw [List.mem_append, List.mem_filter, decide_eq_true_iff, List.mem_map, length, built.shapes]
    by_cases new : s.wall = records.length
    · have here : (records ++ [record])[s.wall]? = some record := by
        rw [new, List.getElem?_concat_length]
      rw [here]
      constructor
      · rintro (⟨_, old⟩ | ⟨side, mem, rfl⟩)
        · exact absurd new old
        · exact ⟨record, rfl, mem, rfl⟩
      · rintro ⟨record', same, mem, place⟩
        cases same
        refine .inr ⟨s.side, mem, ?_⟩
        rw [← new, ← place]
    · have before : (records ++ [record])[s.wall]? = records[s.wall]? := by
        by_cases inside : s.wall < records.length
        · exact List.getElem?_append_left inside
        · rw [List.getElem?_eq_none (by rw [List.length_append, List.length_singleton]; omega),
            List.getElem?_eq_none (by omega)]
      rw [before]
      constructor
      · rintro (⟨old, _⟩ | ⟨side, _, rfl⟩)
        · exact old
        · exact absurd rfl new
      · intro old
        exact .inl ⟨old, new⟩

/-- The loop makes a wall of each record. -/
theorem readWalls_run {records : List Record} (inside : ∀ r ∈ records, r.x ≠ 0xFF ∧ r.y ≠ 0xFF)
    {seen : List NoxWall} (built : Built memory seen w) {b : ByteBuffer} {more : List UInt8}
    (ahead : cursor.rest b = records.flatMap Record.encode ++ 0xFF :: more) :
    ∃ w' count, w.readWalls memory b = .ok (w', cursor.advance b count) ∧
      Built memory (seen ++ records.map Record.wall) w' := by
  induction records generalizing seen w b with
  | nil =>
      refine ⟨w, 1, ?_, by simpa using built⟩
      rw [readWalls, nextWall_of_end ahead]
  | cons r records ih =>
      rw [List.flatMap_cons, List.append_assoc] at ahead
      obtain ⟨x, y⟩ := inside r List.mem_cons_self
      obtain ⟨w', count, run, built'⟩ := ih (fun r' mem => inside r' (List.mem_cons_of_mem r mem))
        (built.step r.wall) (Cursor.rest_advance r.encode ahead)
      refine ⟨w', 7 + count, ?_, by simpa using built'⟩
      rw [readWalls, nextWall_of_record x y ahead, ← cursor.advance_add]
      exact run

/-- A section is read to the end it declares. -/
theorem read_run (memory : Nat → NoxWallPosition) {records : List Record}
    (inside : ∀ r ∈ records, r.x ≠ 0xFF ∧ r.y ≠ 0xFF) (length : Int64) {header : List UInt8}
    (header_length : header.length = 18) {b : ByteBuffer} {more : List UInt8}
    (ahead : cursor.rest b =
      encodeScalar length ++ (header ++ (records.flatMap Record.encode ++ 0xFF :: more))) :
    ∃ w, read memory b = .ok (w, { b with rpos := Jump.finish ⟨length.toInt, b.rpos + 8⟩ }) ∧
      Built memory (records.map Record.wall) w := by
  have ahead' : cursor.rest (cursor.advance b 8) = _ := Cursor.rest_advance _ ahead
  have fields := readFields_run (show header.length = [2, 4, 4, 4, 4].sum from header_length) ahead'
  obtain ⟨w, count, run, built⟩ := readWalls_run inside built_nil (Cursor.rest_advance _ ahead')
  refine ⟨w, ?_, built⟩
  rw [read, run_bind_ok (readJump_run length ahead), run_bind_ok fields, run_bind_ok run]
  rfl

/-! ### The map and the shapes -/

/-- What of a wall its entry is to carry. -/
def look (wall : NoxWall) : UInt8 × UInt8 × UInt8 := (wall.facing, wall.variation, wall.minimap)

/-- The map and the body are right: under the key of each position is a wall with the looks of the
first record of that position and under no other key is one, and the shapes are those of these
entries' walls. -/
structure Matches (records : List NoxWall) (w : WallWorld) : Prop where
  map : ∀ position : NoxWallPosition,
    (w.getWall position).map look = (firstAt records position).map look
  only : ∀ key, (w.map.lookup key).isSome = true →
    ∃ record ∈ records, record.position.key = key
  rejected : ∀ s ∈ w.shapes, ∃ key, w.map.lookup key = some s.wall
  kept : ∀ key n wall, w.map.lookup key = some n → w.walls[n]? = some wall →
    ∀ side ∈ sides wall.facing, ∃ s ∈ w.shapes, s.wall = n ∧ s.side = side

/-- For each position, the first wall whose memory holds it looks like the first record of it. -/
def Sorted (memory : Nat → NoxWallPosition) (records : List NoxWall) : Prop :=
  ∀ position, ((firstHeld memory records.length position).bind (records[·]?)).map look =
    (firstAt records position).map look

/-- A wall whose memory holds what an earlier wall's does has a facing without shapes. -/
def RepeatsBare (memory : Nat → NoxWallPosition) (records : List NoxWall) : Prop :=
  ∀ m n record, m < n → memory m = memory n → records[n]? = some record → 10 < record.facing

theorem key_surjective : Function.Surjective NoxWallPosition.key := by
  intro key
  have bound := key.toNat_lt
  refine ⟨⟨UInt8.ofNat (key.toNat % 256), UInt8.ofNat (key.toNat / 256)⟩, ?_⟩
  apply UInt16.toNat_inj.mp
  simp only [NoxWallPosition.key, fromBytes, UInt16.toNat_ofNat', UInt8.toNat_ofNat']
  omega

theorem sides_eq_nil_iff (facing : UInt8) : sides facing = [] ↔ 10 < facing := by
  have limit : 10 < facing ↔ 10 < facing.toNat := UInt8.lt_iff_toNat_lt
  rw [sides, limit]
  generalize facing.toNat = n
  constructor
  · intro none
    by_contra small
    have le : n ≤ 10 := Nat.le_of_not_lt small
    interval_cases n <;> cases none
  · intro large
    split
    any_goals omega
    rfl

theorem Built.getWall (built : Built memory records w) (position : NoxWallPosition) :
    (w.getWall position).map look =
      ((firstHeld memory records.length position).bind (records[·]?)).map look := by
  rw [WallWorld.getWall, built.map, built.walls]
  cases firstHeld memory records.length position with
  | none => rfl
  | some n =>
      rw [Option.bind_some, Option.bind_some, List.getElem?_mapIdx, Option.map_map]
      rfl

theorem firstAt_mem {records : List NoxWall} {position : NoxWallPosition}
    (found : (firstAt records position).isSome = true) :
    ∃ record ∈ records, record.position = position := by
  obtain ⟨record, first⟩ := Option.isSome_iff_exists.mp found
  have here := List.find?_some (p := fun wall : NoxWall => decide (wall.position = position)) first
  exact ⟨record, List.mem_of_find?_eq_some first, of_decide_eq_true here⟩

/-- A shape of a wall that is no entry is one of a wall whose memory repeats an earlier wall's. -/
theorem Built.rejected_iff (built : Built memory records w) :
    (∀ s ∈ w.shapes, ∃ key, w.map.lookup key = some s.wall) ↔ RepeatsBare memory records := by
  constructor
  · intro rejected m n record before same read
    by_contra shaped
    have some_side : sides record.facing ≠ [] := fun none =>
      shaped ((sides_eq_nil_iff _).mp none)
    obtain ⟨side, mem⟩ := List.exists_mem_of_ne_nil _ some_side
    obtain ⟨key, entry⟩ := rejected ⟨n, side, record.position⟩
      ((built.shapes _).mpr ⟨record, read, mem, rfl⟩)
    obtain ⟨position, rfl⟩ := key_surjective key
    rw [built.map, firstHeld_eq_some] at entry
    exact entry.2.2 m before (same.trans entry.1)
  · intro bare s mem
    obtain ⟨record, read, side, _⟩ := (built.shapes s).mp mem
    refine ⟨(memory s.wall).key, ?_⟩
    rw [built.map, firstHeld_eq_some]
    refine ⟨rfl, (List.getElem?_eq_some_iff.mp read).1, ?_⟩
    intro m before same
    have none := (sides_eq_nil_iff _).mpr (bare m s.wall record before same read)
    rw [none] at side
    cases side

theorem Built.kept (built : Built memory records w) (key : UInt16) (n : Nat) (wall : NoxWall)
    (_entry : w.map.lookup key = some n) (here : w.walls[n]? = some wall) :
    ∀ side ∈ sides wall.facing, ∃ s ∈ w.shapes, s.wall = n ∧ s.side = side := by
  intro side mem
  rw [built.walls, List.getElem?_mapIdx, Option.map_eq_some_iff] at here
  obtain ⟨record, read, rfl⟩ := here
  exact ⟨⟨n, side, record.position⟩, (built.shapes _).mpr ⟨record, read, mem, rfl⟩, rfl, rfl⟩

theorem Built.only (built : Built memory records w) (sorted : Sorted memory records) (key : UInt16)
    (entry : (w.map.lookup key).isSome = true) : ∃ record ∈ records, record.position.key = key := by
  obtain ⟨position, rfl⟩ := key_surjective key
  obtain ⟨n, first⟩ := Option.isSome_iff_exists.mp entry
  rw [built.map] at first
  have inside := (firstHeld_eq_some.mp first).2.1
  have looks := sorted position
  rw [first, Option.bind_some, List.getElem?_eq_getElem inside] at looks
  have there : (firstAt records position).isSome = true := by
    rw [← Option.isSome_map (f := look), ← looks]
    rfl
  obtain ⟨record, mem, same⟩ := firstAt_mem there
  exact ⟨record, mem, congrArg NoxWallPosition.key same⟩

theorem Built.matches_iff (built : Built memory records w) :
    Matches records w ↔ Sorted memory records ∧ RepeatsBare memory records := by
  constructor
  · intro right
    refine ⟨?_, built.rejected_iff.mp right.rejected⟩
    intro position
    rw [← built.getWall]
    exact right.map position
  · rintro ⟨sorted, bare⟩
    constructor
    · intro position
      rw [built.getWall]
      exact sorted position
    · exact built.only sorted
    · exact built.rejected_iff.mpr bare
    · exact built.kept

/-- Memory that happens to hold the walls' own positions sorts them. -/
theorem sorted_of_own (own : ∀ n record, records[n]? = some record → memory n = record.position) :
    Sorted memory records := by
  intro position
  cases first : firstHeld memory records.length position with
  | some n =>
      obtain ⟨held, inside, before⟩ := firstHeld_eq_some.mp first
      have here := List.getElem?_eq_getElem inside
      have found : firstAt records position = some records[n] := by
        rw [firstAt, List.find?_eq_some_iff_getElem]
        refine ⟨?_, n, inside, rfl, ?_⟩
        · rw [decide_eq_true_iff, ← own n _ here, held]
        · intro m earlier
          have there := List.getElem?_eq_getElem (Nat.lt_trans earlier inside)
          rw [Bool.not_eq_true', decide_eq_false_iff_not, ← own m _ there]
          exact before m earlier
      rw [found, Option.bind_some, here]
  | none =>
      have nowhere : firstAt records position = none := by
        rw [firstAt, List.find?_eq_none]
        intro record mem
        obtain ⟨n, inside, rfl⟩ := List.mem_iff_getElem.mp mem
        rw [firstHeld, List.find?_eq_none] at first
        have apart := first n (List.mem_range.mpr inside)
        rwa [own n _ (List.getElem?_eq_getElem inside)] at apart
      rw [nowhere]
      rfl

/-- No records but none are right whatever the memory holds. -/
theorem always_matches_iff (records : List NoxWall) :
    (∀ memory, Sorted memory records ∧ RepeatsBare memory records) ↔ records = [] := by
  constructor
  · intro always
    cases records with
    | nil => rfl
    | cons record records =>
        -- a memory that holds another position everywhere
        have several : Nontrivial NoxWallPosition := ⟨⟨0, 0⟩, ⟨1, 0⟩, by decide⟩
        obtain ⟨other, apart⟩ := exists_ne record.position
        have looks := (always fun _ => other).1 record.position
        have nothing : firstHeld (fun _ => other) (record :: records).length record.position =
            none := by
          rw [firstHeld, List.find?_eq_none]
          intro n _
          simpa using apart
        have here : firstAt (record :: records) record.position = some record := by
          simp [firstAt]
        rw [nothing, here] at looks
        cases looks
  · rintro rfl memory
    refine ⟨fun _ => rfl, ?_⟩
    intro m n record _ _ read
    cases read

/-- **The map and the shapes are right exactly where the memory sorts the walls as their positions
would, and a wall whose memory repeats another's has no shapes.** The position of a wall is never
stored, so what its memory held before is the key it is put under. -/
theorem read_matches_iff (memory : Nat → NoxWallPosition) {records : List Record}
    (inside : ∀ r ∈ records, r.x ≠ 0xFF ∧ r.y ≠ 0xFF) (length : Int64) {header : List UInt8}
    (header_length : header.length = 18) {b : ByteBuffer} {more : List UInt8}
    (ahead : cursor.rest b =
      encodeScalar length ++ (header ++ (records.flatMap Record.encode ++ 0xFF :: more))) :
    ∃ w, read memory b = .ok (w, { b with rpos := Jump.finish ⟨length.toInt, b.rpos + 8⟩ }) ∧
      (Matches (records.map Record.wall) w ↔
        Sorted memory (records.map Record.wall) ∧
          RepeatsBare memory (records.map Record.wall)) := by
  obtain ⟨w, run, built⟩ := read_run memory inside length header_length ahead
  exact ⟨w, run, built.matches_iff⟩

def sectionOf (records : List Record) : ByteBuffer where
  rpos := 0
  wpos := 0
  storage := encodeScalar (Int64.ofNat (19 + 7 * records.length)) ++
    (List.replicate 18 0 ++ (records.flatMap Record.encode ++ [0xFF]))

def wallAt (x y facing : UInt8) : Record := ⟨x, y, facing, 0, 0, 0, 0⟩

/-- Two positions, and a second wall at the first of them that has no shapes. -/
def threeWalls : List Record := [wallAt 1 2 0x83, wallAt 3 4 1, wallAt 1 2 11]

/-- The memory of three walls that holds their positions. -/
def threePlaces (n : Nat) : NoxWallPosition := [⟨1, 2⟩, ⟨3, 4⟩, ⟨1, 2⟩].getD n ⟨0, 0⟩

theorem read_matches_three :
    ∃ w b, read threePlaces (sectionOf threeWalls) = .ok (w, b) ∧
      Matches (threeWalls.map Record.wall) w := by
  have here : ∃ w, read threePlaces (sectionOf threeWalls) = .ok (w, _) ∧
      (Matches (threeWalls.map Record.wall) w ↔ _) :=
    read_matches_iff threePlaces (by decide) _ (by decide) rfl
  obtain ⟨w, run, right⟩ := here
  have few : ∀ {n : Nat} {record : NoxWall},
      (threeWalls.map Record.wall)[n]? = some record → n < 3 :=
    fun read => (List.getElem?_eq_some_iff.mp read).1
  refine ⟨w, _, run, right.mpr ⟨sorted_of_own ?_, ?_⟩⟩
  · intro n record read
    have inside := few read
    interval_cases n <;> cases read <;> rfl
  · intro m n record before same read
    have inside := few read
    interval_cases n <;> interval_cases m <;> cases read
    · exact absurd same (by decide)
    · decide
    · exact absurd same (by decide)

theorem read_sectionOf (memory : Nat → NoxWallPosition) {records : List Record}
    (inside : ∀ r ∈ records, r.x ≠ 0xFF ∧ r.y ≠ 0xFF) :
    ∃ w b, read memory (sectionOf records) = .ok (w, b) ∧
      Built memory (records.map Record.wall) w := by
  obtain ⟨w, run, built⟩ := read_run memory inside (Int64.ofNat (19 + 7 * records.length))
    (List.length_replicate : (List.replicate 18 (0 : UInt8)).length = 18)
    (show cursor.rest (sectionOf records) = _ from rfl)
  exact ⟨w, _, run, built⟩

/-- Memory of zeros loses a wall, and a second wall for a position leaves its shapes. -/
theorem walls_apart :
    (∃ w b, read (fun _ => ⟨0, 0⟩) (sectionOf [wallAt 1 2 0x83]) = .ok (w, b) ∧
      ¬Matches ([wallAt 1 2 0x83].map Record.wall) w) ∧
    ∃ w b, read (fun _ => ⟨1, 2⟩) (sectionOf [wallAt 1 2 0, wallAt 1 2 1]) = .ok (w, b) ∧
      ¬Matches ([wallAt 1 2 0, wallAt 1 2 1].map Record.wall) w := by
  constructor
  · obtain ⟨w, b, run, built⟩ := read_sectionOf (fun _ => ⟨0, 0⟩)
      (show ∀ r ∈ [wallAt 1 2 0x83], r.x ≠ 0xFF ∧ r.y ≠ 0xFF by decide)
    refine ⟨w, b, run, ?_⟩
    intro right
    have looks := (built.matches_iff.mp right).1 ⟨1, 2⟩
    exact absurd looks (by decide)
  · obtain ⟨w, b, run, built⟩ := read_sectionOf (fun _ => ⟨1, 2⟩)
      (show ∀ r ∈ [wallAt 1 2 0, wallAt 1 2 1], r.x ≠ 0xFF ∧ r.y ≠ 0xFF by decide)
    refine ⟨w, b, run, ?_⟩
    intro right
    have bare := (built.matches_iff.mp right).2 0 1 _ Nat.zero_lt_one rfl rfl
    exact absurd bare (by decide)

end WallWorld

end NoxServer.Awesie
