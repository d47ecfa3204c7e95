import Mathlib.Data.List.FinRange
import NoxServer.Objects.Object

/-!
What objects contain and players wear (`Object.cpp`, `Unit.cpp`, `Player.cpp`): the methods
that equip, take out, use and pick up, and what each of them can do.
-/

namespace NoxServer

namespace Objects

/-! ### Equipment -/

/-- The first slot that holds the object. -/
def slotOf (w : Objects) (plr obj : Ref) : Option (Fin slotSize) :=
  (List.finRange slotSize).find? fun i => w.equipment plr i = some obj

theorem equipment_slotOf {w : Objects} {plr obj : Ref} {slot : Fin slotSize}
    (found : w.slotOf plr obj = some slot) : w.equipment plr slot = some obj := by
  simpa using List.find?_some found

theorem slotOf_eq_none {w : Objects} {plr obj : Ref} (missing : w.slotOf plr obj = none)
    (slot : Fin slotSize) : w.equipment plr slot ≠ some obj := by
  simpa using List.find?_eq_none.mp missing slot (List.mem_finRange slot)

/-- `Unit::Dequip(obj)`. -/
def dequip (w : Objects) (plr : Ref) (obj : Option Ref) : Objects × Bool :=
  match obj.bind (w.slotOf plr) with
  | some slot => (w.setEquipment plr slot none, true)
  | none => (w, false)

/-- An object that is in a slot is taken out of it. -/
theorem dequip_cases (w : Objects) (plr : Ref) (obj : Option Ref) :
    ((w.dequip plr obj).1 = w ∧ ∀ x ∈ obj, ∀ slot, w.equipment plr slot ≠ some x) ∨
      ∃ slot x, obj = some x ∧ w.equipment plr slot = some x ∧
        (w.dequip plr obj).1 = w.setEquipment plr slot none := by
  unfold dequip
  cases obj with
  | none => exact .inl ⟨rfl, nofun⟩
  | some x =>
    cases found : w.slotOf plr x with
    | none =>
      refine .inl ⟨by simp [found], ?_⟩
      rintro y ⟨⟩
      exact slotOf_eq_none found
    | some slot => exact .inr ⟨slot, x, rfl, equipment_slotOf found, by simp [found]⟩

def weaponSlot (subclass : UInt32) : Fin slotSize :=
  if subclass = subclassQuiver then slotQuiver
  else if subclass = subclassFlag then slotFlag
  else slotWepPrimary

/-- The slot `Unit::Equip(obj)` asks for. -/
def equipSlot (subclass : UInt32) : Nat :=
  if subclass &&& subclassWeapon ≠ 0 then weaponSlot subclass else subclass.toNat

/-- The subclass of an object. -/
def subclass (w : Objects) (obj : Ref) : UInt32 :=
  ((w.getObjectInfo obj).map (·.subclass)).getD 0

/-- `Unit::Equip(obj, slot)`. -/
def equipAt (w : Objects) (plr obj : Ref) (slot : Nat) : Objects × Bool :=
  if inside : slot < slotSize then
    if w.inMyInventory plr obj then
      ((w.dequip plr (w.equipment plr ⟨slot, inside⟩)).1.setEquipment plr ⟨slot, inside⟩ obj, true)
    else (w, false)
  else (w, false)

/-- `Unit::Equip(obj)`. -/
def equip (w : Objects) (plr : Ref) (obj : Option Ref) : Objects × Bool :=
  match obj with
  | some obj => w.equipAt plr obj (equipSlot (w.subclass obj))
  | none => (w, false)

/-- `EquipSecondary(obj)`. NULL is in no inventory. -/
def equipSecondary (w : Objects) (plr : Ref) (obj : Option Ref) : Objects :=
  if obj = none ∧ ¬ obj.any (w.inMyInventory plr) then w
  else
    let newSecondary := obj <|> w.equipment plr slotWepPrimary
    let oldSecondary := w.equipment plr slotWepSecondary
    let w := (w.dequip plr newSecondary).1
    let w := w.setEquipment plr slotWepSecondary newSecondary
    if obj = none then (w.equip plr oldSecondary).1 else w

/-! ### What equipping leaves -/

/-- The second state differs from the first in what players have besides other objects. -/
structure SameThings (w w' : Objects) : Prop where
  isLive : w'.isLive = w.isLive
  isImmobile : w'.isImmobile = w.isImmobile
  isPlayer : w'.isPlayer = w.isPlayer
  inAnInventory : w'.inAnInventory = w.inAnInventory
  inMyInventory : w'.inMyInventory = w.inMyInventory
  removeList : w'.removeList = w.removeList

theorem SameThings.refl (w : Objects) : SameThings w w := ⟨rfl, rfl, rfl, rfl, rfl, rfl⟩

theorem SameThings.trans {w w' w'' : Objects} (first : SameThings w w')
    (second : SameThings w' w'') : SameThings w w'' :=
  ⟨second.isLive.trans first.isLive, second.isImmobile.trans first.isImmobile,
    second.isPlayer.trans first.isPlayer, second.inAnInventory.trans first.inAnInventory,
    second.inMyInventory.trans first.inMyInventory, second.removeList.trans first.removeList⟩

section Equipping

variable (w : Objects) (plr : Ref)

theorem sameThings_modifyPlayer (change : Player → Player) :
    SameThings w (w.modifyPlayer plr change) :=
  ⟨modify_isLive _, funext fun _ => modify_any fun _ => rfl,
    funext fun _ => modify_any fun obj => by simp, funext fun _ => modify_any fun _ => rfl,
    funext₂ fun _ _ => modify_any fun _ => rfl, rfl⟩

theorem sameThings_setEquipment (slot : Fin slotSize) (obj : Option Ref) :
    SameThings w (w.setEquipment plr slot obj) :=
  sameThings_modifyPlayer w plr _

theorem sameThings_dequip (obj : Option Ref) : SameThings w (w.dequip plr obj).1 := by
  unfold dequip
  split
  · exact sameThings_setEquipment w plr _ _
  · exact .refl w

theorem sameThings_equip (obj : Option Ref) : SameThings w (w.equip plr obj).1 := by
  unfold equip equipAt
  split
  · split
    · split
      · exact (sameThings_dequip w plr _).trans (sameThings_setEquipment _ plr _ _)
      · exact .refl w
    · exact .refl w
  · exact .refl w

theorem sameThings_equipSecondary (obj : Option Ref) :
    SameThings w (w.equipSecondary plr obj) := by
  unfold equipSecondary
  split
  · exact .refl w
  · have put := (sameThings_dequip w plr (obj <|> w.equipment plr slotWepPrimary)).trans
      (sameThings_setEquipment _ plr slotWepSecondary (obj <|> w.equipment plr slotWepPrimary))
    dsimp only
    split
    · exact put.trans (sameThings_equip _ plr _)
    · exact put

end Equipping

/-! ### Taking out of inventories -/

/-- `RemoveFromInventory(obj, newPos)`, of a player or of another object. -/
def removeFromInventory (w : Objects) (owner obj : Ref) (newPos : GridPair) : Objects :=
  if w.isPlayer owner then
    if w.inMyInventory owner obj then
      ((w.dequip owner obj).1.setPosition obj newPos).eraseInventory owner obj
    else w
  else (w.setPosition obj newPos).eraseInventory owner obj

theorem removeFromInventory_of_mem {w : Objects} {owner obj : Ref}
    (mem : w.inMyInventory owner obj) (newPos : GridPair) :
    w.removeFromInventory owner obj newPos =
      ((if w.isPlayer owner then (w.dequip owner obj).1 else w).setPosition obj newPos
        ).eraseInventory owner obj := by
  by_cases player : w.isPlayer owner
  · simp [removeFromInventory, player, mem]
  · simp [removeFromInventory, player]

theorem removeFromInventory_of_not_mem {w : Objects} {plr obj : Ref} (player : w.isPlayer plr)
    (out : ¬ w.inMyInventory plr obj) (newPos : GridPair) :
    w.removeFromInventory plr obj newPos = w := by
  simp [removeFromInventory, player, out]

theorem isPlayer_removeFromInventory (w : Objects) (owner obj : Ref) (newPos : GridPair) :
    (w.removeFromInventory owner obj newPos).isPlayer = w.isPlayer := by
  unfold removeFromInventory
  split
  · split
    · simp [(sameThings_dequip w owner obj).isPlayer]
    · rfl
  · simp

/-- Taking out puts nothing into an inventory. -/
theorem inMyInventory_removeFromInventory {w : Objects} {owner obj o x : Ref} {newPos : GridPair}
    (mem : (w.removeFromInventory owner obj newPos).inMyInventory o x) :
    w.inMyInventory o x ∧ ¬ (o = owner ∧ x = obj) := by
  unfold removeFromInventory at mem
  split at mem
  · split at mem
    · rw [inMyInventory_eraseInventory] at mem
      simpa [(sameThings_dequip w owner obj).inMyInventory] using mem
    · next out => exact ⟨mem, fun same => out (same.1 ▸ same.2 ▸ mem)⟩
  · rw [inMyInventory_eraseInventory] at mem
    simpa using mem

/-- `Object::Drop(obj, max_dist, newPos)`. -/
def objectDrop (w : Objects) (owner : Ref) (obj : Option Ref) (newPos : GridPair) :
    Objects × Bool :=
  match obj with
  | some obj =>
      if w.inMyInventory owner obj then (w.removeFromInventory owner obj newPos, true)
      else (w, false)
  | none => (w, false)

/-- Where `Unit::Drop` drops. The offset is what it computes with `cos` and `sin` of the
angle. -/
def dropPosition (w : Objects) (owner : Ref) (maxDist : UInt32) (newPos offset : GridPair) :
    GridPair :=
  if newPos.distance (w.getPosition owner) > maxDist then
    { x_coord :=
        if newPos.x_coord < w.getPositionX owner then w.getPositionX owner - offset.x_coord
        else offset.x_coord + w.getPositionX owner
      y_coord :=
        if newPos.y_coord < w.getPositionY owner then w.getPositionY owner - offset.y_coord
        else offset.y_coord + w.getPositionY owner }
  else newPos

/-- `Drop(obj, max_dist, newPos)`, of a player or of another object. -/
def drop (w : Objects) (owner : Ref) (obj : Option Ref) (maxDist : UInt32)
    (newPos offset : GridPair) : Objects × Bool :=
  if w.isPlayer owner then w.objectDrop owner obj (w.dropPosition owner maxDist newPos offset)
  else w.objectDrop owner obj newPos

/-! ### Use -/

/-- The end of the use handlers: the object is taken from the player and removed. -/
def consume (w : Objects) (plr obj : Ref) : Objects :=
  (w.removeFromInventory plr obj inventoryPosition).addObjectToRemoveList obj

def cure (w : Objects) (plr : Ref) : Objects :=
  w.modifyPlayer plr fun p => { p with poisoned := false }

/-- The player at an address. -/
def player (w : Objects) (plr : Ref) : Player := ((w.heap plr).bind (·.player)).getD {}

def potionUse (w : Objects) (plr obj : Ref) : Objects :=
  let type := w.subclass obj
  if type &&& subclassManaPotion ≠ 0 then
    if (w.player plr).maxMana = 0 then w.consume plr obj else w
  else if type &&& subclassHealthPotion ≠ 0 then w.consume plr obj
  else if type &&& subclassCurePoisonPotion ≠ 0 then
    if (w.player plr).poisoned then (w.cure plr).consume plr obj else w
  else w.consume plr obj

def consumeUse (w : Objects) (plr obj : Ref) : Objects := w.consume plr obj

def consumeConfuseUse (w : Objects) (plr obj : Ref) : Objects := w.consume plr obj

def mushroomUse (w : Objects) (plr obj : Ref) : Objects := (w.cure plr).consume plr obj

def use (w : Objects) (plr obj : Ref) : Objects :=
  match (w.getObjectInfo obj).bind (·.use) with
  | some .potion => w.potionUse plr obj
  | some .consume => w.consumeUse plr obj
  | some .consumeConfuse => w.consumeConfuseUse plr obj
  | some .mushroom => w.mushroomUse plr obj
  | none => w

/-- What is used is consumed, after a cure at most, or stays as it is. -/
theorem use_cases (w : Objects) (plr obj : Ref) :
    w.use plr obj = w ∨
      ∃ w', SameThings w w' ∧ w'.equipment = w.equipment ∧ w.use plr obj = w'.consume plr obj := by
  have cured : SameThings w (w.cure plr) ∧ (w.cure plr).equipment = w.equipment :=
    ⟨sameThings_modifyPlayer w plr _, modify_equipment fun obj slot => by cases obj.player <;> rfl⟩
  have consumed : ∃ w', SameThings w w' ∧ w'.equipment = w.equipment ∧
      w.consume plr obj = w'.consume plr obj := ⟨w, .refl w, rfl, rfl⟩
  unfold use
  split
  · unfold potionUse
    dsimp only
    split
    · split
      · exact .inr consumed
      · exact .inl rfl
    · split
      · exact .inr consumed
      · split
        · split
          · exact .inr ⟨w.cure plr, cured.1, cured.2, rfl⟩
          · exact .inl rfl
        · exact .inr consumed
  · exact .inr consumed
  · exact .inr consumed
  · exact .inr ⟨w.cure plr, cured.1, cured.2, rfl⟩
  · exact .inl rfl

theorem isPlayer_use (w : Objects) (plr obj : Ref) : (w.use plr obj).isPlayer = w.isPlayer := by
  rcases use_cases w plr obj with same | ⟨w', same, _, eq⟩
  · rw [same]
  · rw [eq, consume]
    simp [isPlayer_removeFromInventory, same.isPlayer]

theorem inMyInventory_use {w : Objects} {plr obj o x : Ref}
    (mem : (w.use plr obj).inMyInventory o x) : w.inMyInventory o x := by
  rcases use_cases w plr obj with same | ⟨w', same, _, eq⟩
  · rwa [same] at mem
  · rw [eq, consume] at mem
    simp only [addObjectToRemoveList_frame] at mem
    exact same.inMyInventory ▸ (inMyInventory_removeFromInventory mem).1

/-! ### Picking up -/

def foodPickup (w : Objects) (plr obj : Ref) : Objects × Bool :=
  let p := w.player plr
  let amt := ((w.getObjectInfo obj).map (·.amount)).getD 0
  if p.maxHealth - p.health > amt ∧ w.subclass obj &&& subclassMushroom = 0 then
    (w.use plr obj, false)
  else if w.subclass obj &&& subclassMushroom ≠ 0 ∧ p.poisoned then (w.use plr obj, false)
  else (w, true)

/-- `ArmorPickup(plr)`. The slot is the subclass, which is not checked. -/
def armorPickup (w : Objects) (plr obj : Ref) : Except Fault (Objects × Bool) :=
  if inside : (w.subclass obj).toNat < slotSize then
    if (w.equipment plr ⟨(w.subclass obj).toNat, inside⟩).isSome then .ok (w, true)
    else .ok (w.setEquipment plr ⟨(w.subclass obj).toNat, inside⟩ obj, true)
  else .error .outOfBounds

def weaponPickup (w : Objects) (plr obj : Ref) : Objects × Bool :=
  let slot := weaponSlot (w.subclass obj)
  if (w.equipment plr slot).isSome then (w, true) else (w.setEquipment plr slot obj, true)

def handlePickup (w : Objects) (plr obj : Ref) : Except Fault (Objects × Bool) :=
  match (w.getObjectInfo obj).bind (·.pickup) with
  | some .food => .ok (w.foodPickup plr obj)
  | some .armor => w.armorPickup plr obj
  | some .weapon => .ok (w.weaponPickup plr obj)
  | none => .ok (w, false)

/-- Only a piece of armour of a subclass past the slots goes wrong. -/
theorem handlePickup_error {w : Objects} {plr obj : Ref} {fault : Fault}
    (failed : w.handlePickup plr obj = .error fault) :
    (w.getObjectInfo obj).bind (·.pickup) = some .armor ∧ slotSize ≤ (w.subclass obj).toNat := by
  unfold handlePickup at failed
  split at failed
  · cases failed
  · next armor =>
    refine ⟨armor, ?_⟩
    by_contra inside
    unfold armorPickup at failed
    rw [dif_pos (Nat.lt_of_not_le inside)] at failed
    split at failed
    · cases failed
    · cases failed
  · cases failed
  · cases failed

/-- What is picked up is used, or stays as it is, or is put into a slot that is empty. -/
theorem handlePickup_cases {w w' : Objects} {plr obj : Ref} {taken : Bool}
    (done : w.handlePickup plr obj = .ok (w', taken)) :
    w' = w.use plr obj ∨ w' = w ∨
      ∃ slot, w.equipment plr slot = none ∧ w' = w.setEquipment plr slot obj := by
  unfold handlePickup at done
  split at done
  · unfold foodPickup at done
    dsimp only at done
    split at done
    · cases done
      exact .inl rfl
    · split at done
      · cases done
        exact .inl rfl
      · cases done
        exact .inr (.inl rfl)
  · unfold armorPickup at done
    split at done
    · split at done
      · cases done
        exact .inr (.inl rfl)
      · next empty =>
        cases done
        exact .inr (.inr ⟨_, by simpa using empty, rfl⟩)
    · cases done
  · unfold weaponPickup at done
    dsimp only at done
    split at done
    · cases done
      exact .inr (.inl rfl)
    · next empty =>
      cases done
      exact .inr (.inr ⟨_, by simpa using empty, rfl⟩)
  · cases done
    exact .inr (.inl rfl)

theorem isPlayer_handlePickup {w w' : Objects} {plr obj : Ref} {taken : Bool}
    (done : w.handlePickup plr obj = .ok (w', taken)) : w'.isPlayer = w.isPlayer := by
  rcases handlePickup_cases done with rfl | rfl | ⟨slot, _, rfl⟩
  · exact isPlayer_use w plr obj
  · rfl
  · exact (sameThings_setEquipment w plr slot obj).isPlayer

theorem inMyInventory_handlePickup {w w' : Objects} {plr obj o x : Ref} {taken : Bool}
    (done : w.handlePickup plr obj = .ok (w', taken)) (mem : w'.inMyInventory o x) :
    w.inMyInventory o x := by
  rcases handlePickup_cases done with rfl | rfl | ⟨slot, _, rfl⟩
  · exact inMyInventory_use mem
  · exact mem
  · exact (sameThings_setEquipment w plr slot obj).inMyInventory ▸ mem

def addToInventory (w : Objects) (owner obj : Ref) : Objects × Bool :=
  if w.inAnInventory obj then (w, false)
  else ((w.setPosition obj inventoryPosition).insertInventory owner obj, true)

/-- `Object::Pickup(obj, max_dist)`. -/
def objectPickup (w : Objects) (owner : Ref) (obj : Option Ref) (maxDist : UInt32) :
    Objects × Bool :=
  match obj with
  | some obj =>
      if w.inAnInventory obj then (w, false)
      else if maxDist ≠ 0 ∧ (w.getPosition owner).distance (w.getPosition obj) > maxDist then
        (w, false)
      else w.addToInventory owner obj
  | none => (w, false)

/-- `Pickup(obj, max_dist)`, of a player or of another object. -/
def pickup (w : Objects) (owner : Ref) (obj : Option Ref) (maxDist : UInt32) :
    Except Fault (Objects × Bool) :=
  match obj, w.isPlayer owner, w.objectPickup owner obj maxDist with
  | some obj, true, (w, true) => w.handlePickup owner obj
  | _, _, out => .ok out

/-- An object is refused, or put into the inventory. -/
theorem objectPickup_cases (w : Objects) (owner : Ref) (obj : Option Ref) (maxDist : UInt32) :
    w.objectPickup owner obj maxDist = (w, false) ∨
      ∃ x, obj = some x ∧ ¬ w.inAnInventory x ∧
        ¬ (maxDist ≠ 0 ∧ (w.getPosition owner).distance (w.getPosition x) > maxDist) ∧
          w.objectPickup owner obj maxDist =
            ((w.setPosition x inventoryPosition).insertInventory owner x, true) := by
  unfold objectPickup
  split
  · next x =>
    split
    · exact .inl rfl
    · next free =>
      split
      · exact .inl rfl
      · next near => exact .inr ⟨x, rfl, free, near, by simp [addToInventory, free]⟩
  · exact .inl rfl

/-- A player does with what it has picked up what the object says. -/
theorem pickup_cases {w w' : Objects} {owner : Ref} {obj : Option Ref} {maxDist : UInt32}
    {taken : Bool} (done : w.pickup owner obj maxDist = .ok (w', taken)) :
    (w', taken) = w.objectPickup owner obj maxDist ∨
      ∃ x, obj = some x ∧ w.isPlayer owner ∧ (w.objectPickup owner obj maxDist).2 ∧
        (w.objectPickup owner obj maxDist).1.handlePickup owner x = .ok (w', taken) := by
  unfold pickup at done
  split at done
  · next x _ player put =>
    exact .inr ⟨x, rfl, player, by simp [put], by simpa [put] using done⟩
  · injection done with same
    exact .inl same.symm

/-- Picking up puts one object into one inventory at most. -/
theorem inMyInventory_pickup {w w' : Objects} {owner obj o x : Ref} {maxDist : UInt32}
    {taken : Bool} (live : w.isLive owner)
    (done : w.pickup owner (some obj) maxDist = .ok (w', taken)) (mem : w'.inMyInventory o x) :
    w.inMyInventory o x ∨ (o = owner ∧ x = obj) := by
  have put {o x : Ref} (mem : (w.objectPickup owner (some obj) maxDist).1.inMyInventory o x) :
      w.inMyInventory o x ∨ (o = owner ∧ x = obj) := by
    rcases objectPickup_cases w owner (some obj) maxDist with refused | ⟨y, ⟨⟩, _, _, entered⟩
    · exact .inl (by simpa [refused] using mem)
    · rw [entered, inMyInventory_insertInventory (by simpa using live)] at mem
      simpa using mem
  rcases pickup_cases done with same | ⟨y, ⟨⟩, _, _, handled⟩
  · rw [← same] at put
    exact put mem
  · exact put (inMyInventory_handlePickup handled mem)

/-- Picking up goes wrong where a player handles a piece of armour past the slots. -/
theorem pickup_error {w : Objects} {owner : Ref} {obj : Option Ref} {maxDist : UInt32}
    {fault : Fault} (failed : w.pickup owner obj maxDist = .error fault) :
    ∃ x, obj = some x ∧ w.isPlayer owner ∧ ¬ w.inAnInventory x ∧
      ¬ (maxDist ≠ 0 ∧ (w.getPosition owner).distance (w.getPosition x) > maxDist) ∧
        (w.getObjectInfo x).bind (·.pickup) = some .armor ∧ slotSize ≤ (w.subclass x).toNat := by
  unfold pickup at failed
  split at failed
  · next x w₁ player put =>
    rcases objectPickup_cases w owner (some x) maxDist with refused | ⟨y, ⟨⟩, free, near, entered⟩
    · simp [refused] at put
    · obtain ⟨armor, past⟩ := handlePickup_error failed
      -- what kind of thing it is does not change when it is put in
      have same : (w.setPosition x inventoryPosition).insertInventory owner x = w₁ := by
        rw [entered] at put
        exact congrArg Prod.fst put
      rw [subclass, ← same] at past
      rw [← same] at armor
      exact ⟨x, rfl, player, free, near, by simpa using armor, by simpa [subclass] using past⟩
  · cases failed

theorem isPlayer_pickup {w w' : Objects} {owner : Ref} {obj : Option Ref} {maxDist : UInt32}
    {taken : Bool} (done : w.pickup owner obj maxDist = .ok (w', taken)) :
    w'.isPlayer = w.isPlayer := by
  have put : (w.objectPickup owner obj maxDist).1.isPlayer = w.isPlayer := by
    rcases objectPickup_cases w owner obj maxDist with refused | ⟨y, _, _, _, entered⟩
    · rw [refused]
    · simp [entered]
  rcases pickup_cases done with same | ⟨y, _, _, _, handled⟩
  · rw [← same] at put
    exact put
  · exact (isPlayer_handlePickup handled).trans put

/-- What is not in an inventory is not refused where the distance does not matter, so that a
player who has it and does not take it used it or had no use for it. -/
theorem isPlayer_of_pickup {w w' : Objects} {owner obj : Ref} (free : ¬ w.inAnInventory obj)
    (done : w.pickup owner (some obj) 0 = .ok (w', false)) : w'.isPlayer owner := by
  have put : w.objectPickup owner (some obj) 0 =
      ((w.setPosition obj inventoryPosition).insertInventory owner obj, true) := by
    simp [objectPickup, addToInventory, free]
  rcases pickup_cases done with same | ⟨_, _, player, _, _⟩
  · simp [put] at same
  · rw [isPlayer_pickup done]
    exact player

/-- `NewPickup(type, extent, modifier)`, with the entry of the type and the address of the
new object. -/
def newPickup (w : Objects) (owner obj : Ref) (info : ObjectInfo) : Except Fault Objects := do
  let (w, taken) ← (w.new obj { info := info, position := ⟨1, 1⟩ }).pickup owner obj 0
  if taken then return w
  else return (w.removeFromInventory owner obj ⟨0, 0⟩).delete obj

end Objects

end NoxServer
