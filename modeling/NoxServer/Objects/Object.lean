import Mathlib.Data.Finset.Erase
import Mathlib.Data.Finset.Insert
import Mathlib.Logic.Function.Basic
import NoxServer.Session.WorldSession

/-!
Objects (`Object.h`, `Object.cpp`) and what a write to one of their members changes.

An object is known by its address. What a method of an object reads and writes of others is
in the heap of all objects, so the methods are functions of it, with the object as their
first argument; a method that a player overrides tests for a player. The only units are
players, and only they have equipment. Of an object's entry in thing.bin there is what the
methods read. The packets they send, the sounds and the health they restore are not modelled,
nor what a view of the object sees of it.
-/

namespace NoxServer

/-- The address of an object. -/
abbrev Ref := Nat

def GridPair.distance (a b : GridPair) : UInt32 :=
  UInt32.ofNat (Nat.sqrt (((a.x_coord.toNat : Int) - b.x_coord.toNat).natAbs ^ 2 +
    ((a.y_coord.toNat : Int) - b.y_coord.toNat).natAbs ^ 2))

namespace Objects

/-- The position of an object that is in an inventory. -/
def inventoryPosition : GridPair := ⟨5880, 5880⟩

def slotSize : Nat := 13

def slotFlag : Fin slotSize := ⟨0x9, by decide⟩
def slotQuiver : Fin slotSize := ⟨0xA, by decide⟩
def slotWepPrimary : Fin slotSize := ⟨0xB, by decide⟩
def slotWepSecondary : Fin slotSize := ⟨0xC, by decide⟩

def subclassWeapon : UInt32 := 0x20
def subclassFlag : UInt32 := 0x20
def subclassQuiver : UInt32 := 0x21
def subclassHealthPotion : UInt32 := 0x53
def subclassManaPotion : UInt32 := 0x54
def subclassCurePoisonPotion : UInt32 := 0x55
def subclassMushroom : UInt32 := 0x56

/-- The handlers of `pickupTable`. -/
inductive PickupHandler where
  | food
  | armor
  | weapon
  deriving DecidableEq

/-- The handlers of `useTable`. -/
inductive UseHandler where
  | potion
  | consume
  | consumeConfuse
  | mushroom
  deriving DecidableEq

/-- `GetObjectInfo()`: `immobile` is the flag `CLASS_IMMOBILE`, `pickup` and `use` are the
handlers the tables have, `amount` is the number in `use_args[0]`, and `name` is `Name`. -/
structure ObjectInfo where
  name : String := ""
  immobile : Bool := false
  subclass : UInt32 := 0
  pickup : Option PickupHandler := none
  use : Option UseHandler := none
  amount : Int := 0

/-- What a player has besides what other objects have. -/
structure Player where
  equipment : Fin slotSize → Option Ref := fun _ => none
  health : Int := 0
  maxHealth : Int := 0
  maxMana : Int := 0
  poisoned : Bool := false

/-- `Object`, and `Player` where there is a player. -/
structure Obj where
  info : ObjectInfo
  position : GridPair
  inventory : Finset Ref := ∅
  player : Option Player := none

end Objects

/-- All objects, and those that are to be removed. -/
structure Objects where
  heap : Ref → Option Objects.Obj := fun _ => none
  removeList : List Ref := []

namespace Objects

/-! ### Fields -/

/-- A write to an object. -/
def modify (w : Objects) (r : Ref) (change : Obj → Obj) : Objects :=
  { w with heap := fun s => if s = r then (w.heap r).map change else w.heap s }

def new (w : Objects) (r : Ref) (obj : Obj) : Objects :=
  { w with heap := fun s => if s = r then some obj else w.heap s }

def delete (w : Objects) (r : Ref) : Objects :=
  { w with heap := fun s => if s = r then none else w.heap s }

/-- There is an object at an address. -/
def isLive (w : Objects) (r : Ref) : Bool := (w.heap r).isSome

def getPosition (w : Objects) (r : Ref) : GridPair := ((w.heap r).map (·.position)).getD {}

/-- `GetPositionX()`, of sixteen bits. -/
def getPositionX (w : Objects) (r : Ref) : UInt32 := (w.getPosition r).x_coord.toUInt16.toUInt32

/-- `GetPositionY()`, of sixteen bits. -/
def getPositionY (w : Objects) (r : Ref) : UInt32 := (w.getPosition r).y_coord.toUInt16.toUInt32

def getObjectInfo (w : Objects) (r : Ref) : Option ObjectInfo := (w.heap r).map (·.info)

def setPosition (w : Objects) (r : Ref) (position : GridPair) : Objects :=
  w.modify r fun o => { o with position := position }

def isImmobile (w : Objects) (r : Ref) : Bool := (w.heap r).any (·.info.immobile)

/-- The object is a player. -/
def isPlayer (w : Objects) (r : Ref) : Bool := (w.heap r).any (·.player.isSome)

def inAnInventory (w : Objects) (r : Ref) : Bool :=
  (w.heap r).any fun o => o.position = inventoryPosition

def inMyInventory (w : Objects) (owner obj : Ref) : Bool :=
  (w.heap owner).any fun o => obj ∈ o.inventory

/-- `m_inventory.insert(obj)`. -/
def insertInventory (w : Objects) (owner obj : Ref) : Objects :=
  w.modify owner fun o => { o with inventory := insert obj o.inventory }

/-- `m_inventory.erase(obj)`. -/
def eraseInventory (w : Objects) (owner obj : Ref) : Objects :=
  w.modify owner fun o => { o with inventory := o.inventory.erase obj }

/-- `m_equipment[slot]`. -/
def equipment (w : Objects) (plr : Ref) (slot : Fin slotSize) : Option Ref :=
  ((w.heap plr).bind (·.player)).bind (·.equipment slot)

/-- A write to a player. -/
def modifyPlayer (w : Objects) (plr : Ref) (change : Player → Player) : Objects :=
  w.modify plr fun o => { o with player := o.player.map change }

/-- `m_equipment[slot] = obj`. -/
def setEquipment (w : Objects) (plr : Ref) (slot : Fin slotSize) (obj : Option Ref) : Objects :=
  w.modifyPlayer plr fun p =>
    { p with equipment := fun i => if i = slot then obj else p.equipment i }

def addObjectToRemoveList (w : Objects) (obj : Ref) : Objects :=
  { w with removeList := w.removeList.insert obj }

/-! ### What a write leaves -/

section Writes

variable {w : Objects} {r s o x y owner : Ref}

/-- A write leaves what it does not change. -/
theorem modify_any {change : Obj → Obj} {seen : Obj → Bool}
    (same : ∀ obj, seen (change obj) = seen obj) :
    ((w.modify r change).heap s).any seen = (w.heap s).any seen := by
  by_cases here : s = r
  · cases found : w.heap r with
    | none => simp [modify, here, found]
    | some obj => simp [modify, here, found, same]
  · simp [modify, here]

/-- A write leaves what kind of thing an object is, unless it changes that. -/
theorem modify_info {change : Obj → Obj} (same : ∀ obj, (change obj).info = obj.info) :
    (w.modify r change).getObjectInfo = w.getObjectInfo := by
  funext s
  by_cases here : s = r
  · cases found : w.heap r <;> simp [getObjectInfo, modify, here, found, same]
  · simp [getObjectInfo, modify, here]

/-- A write leaves the slots it does not change. -/
theorem modify_equipment {change : Obj → Obj}
    (same : ∀ obj slot,
      (change obj).player.bind (·.equipment slot) = obj.player.bind (·.equipment slot)) :
    (w.modify r change).equipment = w.equipment := by
  funext s slot
  by_cases here : s = r
  · cases found : w.heap r with
    | none => simp [equipment, modify, here, found]
    | some obj => simp [equipment, modify, here, found, same]
  · simp [equipment, modify, here]

@[simp] theorem modify_isLive (change : Obj → Obj) : (w.modify r change).isLive = w.isLive := by
  funext s
  by_cases here : s = r
  · simp [isLive, modify, here]
  · simp [isLive, modify, here]

@[simp] theorem setPosition_frame (p : GridPair) :
    (w.setPosition x p).isLive = w.isLive ∧ (w.setPosition x p).isImmobile = w.isImmobile ∧
      (w.setPosition x p).isPlayer = w.isPlayer ∧
      (w.setPosition x p).inMyInventory = w.inMyInventory ∧
      (w.setPosition x p).equipment = w.equipment ∧
      (w.setPosition x p).getObjectInfo = w.getObjectInfo :=
  ⟨modify_isLive _, funext fun _ => modify_any fun _ => rfl,
    funext fun _ => modify_any fun _ => rfl,
    funext₂ fun _ _ => modify_any fun _ => rfl, modify_equipment fun _ _ => rfl,
    modify_info fun _ => rfl⟩

@[simp] theorem insertInventory_frame :
    (w.insertInventory o x).isLive = w.isLive ∧
      (w.insertInventory o x).isImmobile = w.isImmobile ∧
      (w.insertInventory o x).isPlayer = w.isPlayer ∧
      (w.insertInventory o x).inAnInventory = w.inAnInventory ∧
      (w.insertInventory o x).equipment = w.equipment ∧
      (w.insertInventory o x).getObjectInfo = w.getObjectInfo :=
  ⟨modify_isLive _, funext fun _ => modify_any fun _ => rfl,
    funext fun _ => modify_any fun _ => rfl,
    funext fun _ => modify_any fun _ => rfl, modify_equipment fun _ _ => rfl,
    modify_info fun _ => rfl⟩

@[simp] theorem eraseInventory_frame :
    (w.eraseInventory o x).isLive = w.isLive ∧ (w.eraseInventory o x).isImmobile = w.isImmobile ∧
      (w.eraseInventory o x).isPlayer = w.isPlayer ∧
      (w.eraseInventory o x).inAnInventory = w.inAnInventory ∧
      (w.eraseInventory o x).equipment = w.equipment :=
  ⟨modify_isLive _, funext fun _ => modify_any fun _ => rfl,
    funext fun _ => modify_any fun _ => rfl,
    funext fun _ => modify_any fun _ => rfl, modify_equipment fun _ _ => rfl⟩

@[simp] theorem addObjectToRemoveList_frame :
    (w.addObjectToRemoveList x).isLive = w.isLive ∧
      (w.addObjectToRemoveList x).isImmobile = w.isImmobile ∧
      (w.addObjectToRemoveList x).isPlayer = w.isPlayer ∧
      (w.addObjectToRemoveList x).inAnInventory = w.inAnInventory ∧
      (w.addObjectToRemoveList x).inMyInventory = w.inMyInventory ∧
      (w.addObjectToRemoveList x).equipment = w.equipment :=
  ⟨rfl, rfl, rfl, rfl, rfl, rfl⟩

/-! ### What a write changes -/

theorem getPosition_modify {r : Ref} {change : Obj → Obj}
    (same : ∀ o, (change o).position = o.position) :
    (w.modify r change).getPosition = w.getPosition := by
  funext s
  by_cases here : s = r
  · cases found : w.heap r <;> simp [getPosition, modify, here, found, same]
  · simp [getPosition, modify, here]

theorem getPosition_setPosition {x y : Ref} {p : GridPair} (live : w.isLive x) :
    (w.setPosition x p).getPosition y = if y = x then p else w.getPosition y := by
  obtain ⟨o, found⟩ := Option.isSome_iff_exists.mp live
  by_cases here : y = x <;> simp [getPosition, setPosition, modify, here, found]

theorem inAnInventory_setPosition (p : GridPair) :
    (w.setPosition x p).inAnInventory y =
      if y = x then w.isLive x && decide (p = inventoryPosition) else w.inAnInventory y := by
  by_cases here : y = x
  · cases found : w.heap x <;> simp [inAnInventory, setPosition, modify, isLive, here, found]
  · simp [inAnInventory, setPosition, modify, here]

theorem inMyInventory_insertInventory (live : w.isLive owner) :
    (w.insertInventory owner x).inMyInventory o y ↔
      w.inMyInventory o y ∨ (o = owner ∧ y = x) := by
  by_cases here : o = owner
  · obtain ⟨obj, found⟩ := Option.isSome_iff_exists.mp live
    simp [inMyInventory, insertInventory, modify, here, found, or_comm]
  · simp [inMyInventory, insertInventory, modify, here]

theorem inMyInventory_eraseInventory :
    (w.eraseInventory owner x).inMyInventory o y ↔
      w.inMyInventory o y ∧ ¬ (o = owner ∧ y = x) := by
  by_cases here : o = owner
  · cases found : w.heap owner with
    | none => simp [inMyInventory, eraseInventory, modify, here, found]
    | some obj => simp [inMyInventory, eraseInventory, modify, here, found, and_comm]
  · simp [inMyInventory, eraseInventory, modify, here]

/-- Only a player has what is written to its slots. -/
theorem equipment_setEquipment (player : w.isPlayer r) (slot : Fin slotSize) (obj : Option Ref) :
    (w.setEquipment r slot obj).equipment r = Function.update (w.equipment r) slot obj := by
  funext i
  cases found : w.heap r with
  | none => simp [isPlayer, found] at player
  | some at_r =>
    obtain ⟨p, is⟩ : ∃ p, at_r.player = some p :=
      Option.isSome_iff_exists.mp (by simpa [isPlayer, found] using player)
    simp [equipment, setEquipment, modifyPlayer, modify, found, is, Function.update_apply]

theorem equipment_setEquipment_ne (other : s ≠ r) (slot : Fin slotSize) (obj : Option Ref) :
    (w.setEquipment r slot obj).equipment s = w.equipment s := by
  funext i
  simp [equipment, setEquipment, modifyPlayer, modify, other]

@[simp] theorem isLive_new (obj : Obj) : (w.new r obj).isLive s ↔ s = r ∨ w.isLive s := by
  by_cases here : s = r <;> simp [isLive, new, here]

/-- What is seen of a new object, and of the others. -/
theorem new_any (obj : Obj) (seen : Obj → Bool) :
    ((w.new r obj).heap s).any seen = if s = r then seen obj else (w.heap s).any seen := by
  by_cases here : s = r <;> simp [new, here]

/-- A new object has nothing. -/
theorem inMyInventory_new {obj : Obj} (new : ¬ w.isLive r) (empty : obj.inventory = ∅) :
    (w.new r obj).inMyInventory = w.inMyInventory := by
  have nothing : w.heap r = none := by simpa [isLive] using new
  funext o y
  by_cases here : o = r
  · simp [inMyInventory, new_any, here, empty, nothing]
  · simp [inMyInventory, new_any, here]

@[simp] theorem getObjectInfo_new (obj : Obj) :
    (w.new r obj).getObjectInfo r = some obj.info := by
  simp [getObjectInfo, new]

/-- What is seen where an object was, and of the others. -/
theorem delete_any (seen : Obj → Bool) :
    ((w.delete r).heap s).any seen = if s = r then false else (w.heap s).any seen := by
  by_cases here : s = r <;> simp [delete, here]

end Writes

end Objects

end NoxServer
