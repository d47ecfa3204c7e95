import NoxServer.Library.Runs
import NoxServer.Shared.Errors
import NoxServer.Objects.ObjectMgr
import NoxServer.Objects.ThingBin

/-!
The casts of the object table.

An object keeps its type, which is one more than the place of its entry in the list of thing.bin.
`GetObjectInfo` subtracts the one, and `CreateObjectFromFile` does not: it decides by the entry
that comes after the object's own whether to build an `Object` or a `WorldObject`. So the casts
of `GetObj` are sound as long as the two entries agree on `CLASS_IMMOBILE` (`NextAgrees`).
-/

namespace NoxServer.Objects

open Runs

/-! ### Objects as they were built -/

/-- The class an object was constructed as. -/
inductive BuiltAs where
  | object
  | worldObject
  deriving DecidableEq

/-- An object: its type, its class, and whether `CreateObjectFromFile` made it. -/
structure Built where
  type : UInt16
  builtAs : BuiltAs
  fromFile : Bool
  deriving DecidableEq

/-- The objects there are, with the manager. -/
structure Table where
  things : ThingList
  objects : Nat → Option Built := fun _ => none
  mgr : ObjectMgr Nat := { extent := fun _ => 0 }

namespace Table

/-- `IsImmobile()`, none through NULL. -/
def isImmobile (s : Table) (obj : Built) : Option Bool :=
  (s.things.getObjectInfo obj.type).map (·.immobile)

/-- What the manager asks of an object. -/
def kind (s : Table) : ObjectClass Nat where
  type r := (s.objects r).elim 0 (·.type)
  immobile r := ((s.objects r).bind s.isImmobile).getD false

/-- An object is constructed. -/
def construct (s : Table) (r : Nat) (obj : Built) (extent : UInt16) : Table :=
  { s with
    objects := Function.update s.objects r (some obj)
    mgr := { s.mgr with
      extent := Function.update s.mgr.extent r (if extent > maxExtent then 0 else extent) } }

/-- `CreateObjectFromFile` up to the constructor: the assertion fails when the list has no
entry of the name, and the entry after it may be NULL. -/
def createFromFile (s : Table) (r : Nat) (name : List UInt8) : Except Fault Table :=
  let type := (s.things.getIndex name).1
  let things := (s.things.getIndex name).2
  if type = 0 then .error .assertion
  else
    match things.getAt type.toNat with
    | none => .error .nullPointer
    | some info =>
        let builtAs := if info.immobile then BuiltAs.object else .worldObject
        .ok ({ s with things := things }.construct r ⟨type, builtAs, true⟩ 0)

def addObject (s : Table) (r : Nat) : Table := { s with mgr := s.mgr.addObject s.kind r }

/-- `new WorldObject(type, pos, extent)` or a class derived of it; one with an extent is added
to the world. -/
def newWorldObject (s : Table) (r : Nat) (type extent : UInt16) : Table :=
  let s := s.construct r ⟨type, .worldObject, false⟩ extent
  if extent ≠ 0 then s.addObject r else s

/-- `delete obj`. -/
def delete (s : Table) (r : Nat) : Table :=
  { s with
    objects := Function.update s.objects r none
    mgr := (s.mgr.removeObject s.kind r).1 }

def changeObjectExtent (s : Table) (r : Nat) (newExtent : UInt16) : Table :=
  { s with mgr := (s.mgr.changeObjectExtent s.kind r newExtent).1 }

end Table

/-- What is done with objects. -/
inductive CastOp where
  | createFromFile (r : Nat) (name : List UInt8)
  | addObject (r : Nat)
  | newWorldObject (r : Nat) (type extent : UInt16)
  | delete (r : Nat)
  | changeObjectExtent (r : Nat) (newExtent : UInt16)
  /-- A call of `Get()`, which moves the list on. -/
  | get

def CastOp.apply (s : Table) : CastOp → Except Fault Table
  | createFromFile r name => s.createFromFile r name
  | addObject r => .ok (s.addObject r)
  | newWorldObject r type extent => .ok (s.newWorldObject r type extent)
  | delete r => .ok (s.delete r)
  | changeObjectExtent r newExtent => .ok (s.changeObjectExtent r newExtent)
  | get => .ok { s with things := s.things.get.2 }

def CastOp.Step (s : Table) (op : CastOp) (t : Table) : Prop := op.apply s = .ok t

/-- The entry after that of an object read from a map is there, and is immobile just as the
object's own. -/
def NextAgrees (s : Table) : CastOp → Prop
  | .createFromFile _ name =>
      let type := (s.things.getIndex name).1.toNat
      ∃ own next, s.things.getAt (type - 1) = some own ∧ s.things.getAt type = some next ∧
        next.immobile = own.immobile
  | _ => True

/-! ### Soundness -/

/-- An object is a plain `Object` only when it is read from a map, and then exactly when its own
entry is immobile. -/
structure Built.Sound (entries : List GNHT) (obj : Built) : Prop where
  fromFile : obj.builtAs = .object → obj.fromFile = true
  own : obj.fromFile = true → obj.type ≠ 0 ∧ ∃ info, entries[obj.type.toNat - 1]? = some info ∧
    (obj.builtAs = .object ↔ info.immobile = true)

/-- All objects are sound. -/
structure Table.Sound (entries : List GNHT) (s : Table) : Prop where
  same : s.things.entries = entries
  each : ∀ r obj, s.objects r = some obj → obj.Sound entries

namespace Table.Sound

variable {entries : List GNHT} {s t : Table}

@[simp] theorem objects_construct (r : Nat) (obj : Built) (extent : UInt16) :
    (s.construct r obj extent).objects = Function.update s.objects r (some obj) := rfl

@[simp] theorem objects_delete (r : Nat) :
    (s.delete r).objects = Function.update s.objects r none := rfl

theorem construct (sound : s.Sound entries) (r : Nat) {obj : Built} (new : obj.Sound entries)
    (extent : UInt16) : (s.construct r obj extent).Sound entries := by
  refine ⟨sound.same, ?_⟩
  intro r' obj' found
  by_cases here : r' = r
  · rw [objects_construct, here, Function.update_self] at found
    cases found
    exact new
  · rw [objects_construct, Function.update_of_ne here] at found
    exact sound.each r' obj' found

/-- What `CreateObjectFromFile` constructs. -/
theorem createFromFile_eq_ok {r : Nat} {name : List UInt8}
    (run : s.createFromFile r name = .ok t) :
    (s.things.getIndex name).1 ≠ 0 ∧ t.things.entries = s.things.entries ∧
      ∃ next, s.things.getAt (s.things.getIndex name).1.toNat = some next ∧
        t.objects = Function.update s.objects r (some ⟨(s.things.getIndex name).1,
          if next.immobile then .object else .worldObject, true⟩) := by
  unfold Table.createFromFile at run
  dsimp only at run
  split at run
  · cases run
  · next positive =>
      have same : (s.things.getIndex name).2.getAt (s.things.getIndex name).1.toNat =
          s.things.getAt (s.things.getIndex name).1.toNat := rfl
      rw [same] at run
      split at run
      · cases run
      · next next after =>
          cases run
          exact ⟨positive, rfl, next, after, rfl⟩

/-- The object is sound exactly when the next entry agrees. -/
theorem createFromFile_iff {r : Nat} {name : List UInt8}
    (run : s.createFromFile r name = .ok t) :
    (∃ obj, t.objects r = some obj ∧ obj.Sound s.things.entries) ↔
      NextAgrees s (.createFromFile r name) := by
  obtain ⟨positive, -, next, after, objects⟩ := createFromFile_eq_ok run
  rw [objects, Function.update_self]
  constructor
  · rintro ⟨obj, ⟨⟩, sound⟩
    obtain ⟨-, own, is, same⟩ := sound.own rfl
    refine ⟨own, next, is, after, ?_⟩
    rw [Bool.eq_iff_iff, ← same]
    constructor
    · intro immobile
      exact if_pos immobile
    · intro plain
      by_contra movable
      rw [if_neg movable] at plain
      cases plain
  · rintro ⟨own, next', is, after', same⟩
    cases after.symm.trans after'
    refine ⟨_, rfl, fun _ => rfl, fun _ => ⟨positive, own, is, ?_⟩⟩
    rw [same]
    cases own.immobile <;> simp

theorem createFromFile (sound : s.Sound entries) {r : Nat} {name : List UInt8}
    (agrees : NextAgrees s (.createFromFile r name)) (run : s.createFromFile r name = .ok t) :
    t.Sound entries := by
  obtain ⟨obj, found, new⟩ := (createFromFile_iff run).mpr agrees
  obtain ⟨-, things, next, -, objects⟩ := createFromFile_eq_ok run
  refine ⟨things.trans sound.same, ?_⟩
  intro r' obj' found'
  by_cases here : r' = r
  · rw [here, found] at found'
    cases found'
    exact sound.same ▸ new
  · rw [objects, Function.update_of_ne here] at found'
    exact sound.each r' obj' found'

/-- A step whose next entry agrees keeps all objects sound. -/
theorem step {op : CastOp} (sound : s.Sound entries)
    (step : guarded NextAgrees CastOp.Step s op t) : t.Sound entries := by
  obtain ⟨agrees, run⟩ := step
  cases op with
  | createFromFile r name => exact sound.createFromFile agrees run
  | addObject r =>
      cases run
      exact ⟨sound.same, sound.each⟩
  | newWorldObject r type extent =>
      cases run
      have new : (⟨type, .worldObject, false⟩ : Built).Sound entries := ⟨nofun, nofun⟩
      have constructed := sound.construct r new extent
      unfold Table.newWorldObject
      split
      · exact ⟨constructed.same, constructed.each⟩
      · exact constructed
  | delete r =>
      cases run
      refine ⟨sound.same, ?_⟩
      intro r' obj found
      by_cases here : r' = r
      · rw [objects_delete, here, Function.update_self] at found
        cases found
      · rw [objects_delete, Function.update_of_ne here] at found
        exact sound.each r' obj found
  | changeObjectExtent r newExtent =>
      cases run
      exact ⟨sound.same, sound.each⟩
  | get =>
      cases run
      refine ⟨?_, sound.each⟩
      rw [ThingList.get_entries]
      exact sound.same

end Table.Sound

/-- In a run in which the next entries agree, an object that the casts of the manager take for
one that can move is a `WorldObject`, and an object read from a map is a plain `Object` exactly
when its own entry is immobile. -/
theorem casts_sound (entries : List GNHT) {ops : List CastOp} {s : Table}
    (run : Run (guarded NextAgrees CastOp.Step) { things := { entries := entries } } ops s) :
    (∀ e r obj, s.mgr.getImmobileObj e = some r → s.objects r = some obj →
      s.isImmobile obj = some false → obj.builtAs = .worldObject) ∧
    ∀ r obj, s.objects r = some obj → obj.fromFile = true →
      ∃ info, entries[obj.type.toNat - 1]? = some info ∧
        (obj.builtAs = .object ↔ info.immobile = true) := by
  have sound : s.Sound entries := run.invariant (fun _ _ _ => Table.Sound.step) ⟨rfl, nofun⟩
  refine ⟨?_, ?_⟩
  · intro e r obj _ found movable
    have each := sound.each r obj found
    by_contra plain
    have is : obj.builtAs = .object := by
      cases built : obj.builtAs with
      | object => rfl
      | worldObject => exact absurd built plain
    obtain ⟨positive, info, own, same⟩ := each.own (each.fromFile is)
    rw [Table.isImmobile, ThingList.getObjectInfo, if_neg positive, ThingList.getAt, sound.same,
      own, Option.map_some, same.mp is] at movable
    cases movable
  · intro r obj found fromFile
    obtain ⟨_, own⟩ := (sound.each r obj found).own fromFile
    exact own

/-! ### A crate before a wall -/

/-- A crate that can move, and then two things that cannot. -/
def crateAndWalls : List GNHT :=
  [{ name := [67] }, { name := [87], classes := 0x00200000 },
    { name := [90], classes := 0x00200000 }]

/-- A wall is read from a map, and a player comes to where it is. -/
theorem casts_sound_wall : ∃ s, Run (guarded NextAgrees CastOp.Step)
      { things := { entries := crateAndWalls } }
      [.createFromFile 0 [87], .addObject 0, .newWorldObject 1 3 0xFFFF] s ∧
    (∀ e r obj, s.mgr.getImmobileObj e = some r → s.objects r = some obj →
      s.isImmobile obj = some false → obj.builtAs = .worldObject) ∧
    ∀ r obj, s.objects r = some obj → obj.fromFile = true →
      ∃ info, crateAndWalls[obj.type.toNat - 1]? = some info ∧
        (obj.builtAs = .object ↔ info.immobile = true) := by
  have run : Run (guarded NextAgrees CastOp.Step) { things := { entries := crateAndWalls } }
      [.createFromFile 0 [87], .addObject 0, .newWorldObject 1 3 0xFFFF] _ :=
    .cons ⟨⟨_, _, rfl, rfl, rfl⟩, rfl⟩ (.cons ⟨trivial, rfl⟩ (.single ⟨trivial, rfl⟩))
  exact ⟨_, run, casts_sound crateAndWalls run⟩

/-- The crate is read from a map: it is built as a plain `Object`, and `GetObj` casts it. -/
theorem cast_unsound : ∃ s, Run CastOp.Step { things := { entries := crateAndWalls } }
      [.createFromFile 0 [67], .addObject 0] s ∧
    s.mgr.getImmobileObj 1 = some 0 ∧ s.objects 0 = some ⟨1, .object, true⟩ ∧
    s.isImmobile ⟨1, .object, true⟩ = some false ∧ s.mgr.getObj s.kind 1 = some 0 := by
  refine ⟨_, .cons rfl (.single rfl), ?_⟩
  decide

end NoxServer.Objects
