import NoxServer.Library.Displays
import NoxServer.Objects.Death
import NoxServer.Objects.Pickups

/-!
What is told of what a player wears (`Unit.cpp`, `Object.cpp`, `Player.cpp`).

A packet says of a unit that it puts something on or takes something off, by a bit for each kind of
armour and of weapon. The operations are those of the objects, with the packets they send to the
player's session (`apply_onObjects`). What the client shows then is a set of marks, and so is what
the slots show.
-/

namespace NoxServer

namespace Objects

open Displays Runs

/-! ### Packets -/

/-- The opcodes that report equipment. -/
inductive EquipOpcode where
  | reportModifiableArmorEquip
  | reportMundaneArmorEquip
  | reportModifiableWeaponEquip
  | reportMundaneWeaponEquip
  | reportArmorDequip
  | reportWeaponDequip
  deriving DecidableEq

/-- A packet that reports equipment. -/
structure EquipPacket where
  opcode : EquipOpcode
  extent : UInt16
  slot : BitVec 32
  modifier : Option UInt32 := none

def buildEquipPacket (extent : UInt16) (armor : Bool) (slot : BitVec 32) (modifier : UInt32) :
    EquipPacket where
  opcode :=
    if armor ∧ modifier ≠ 0 then .reportModifiableArmorEquip
    else if armor then .reportMundaneArmorEquip
    else if modifier ≠ 0 then .reportModifiableWeaponEquip
    else .reportMundaneWeaponEquip
  extent := extent ||| 0x8000
  slot := slot
  modifier := if modifier ≠ 0 then some modifier else none

def buildDequipPacket (extent : UInt16) (armor : Bool) (slot : BitVec 32) : EquipPacket where
  opcode := if armor then .reportArmorDequip else .reportWeaponDequip
  extent := extent
  slot := slot

/-- What a client shows a unit with. -/
structure Masks where
  armor : BitVec 32 := 0
  weapons : BitVec 32 := 0
  deriving DecidableEq

/-- A client is told of a unit; other units have other extents. -/
def Masks.receive (extent : UInt16) (masks : Masks) (packet : EquipPacket) : Masks :=
  if packet.extent ||| 0x8000 = extent ||| 0x8000 then
    match packet.opcode with
    | .reportModifiableArmorEquip | .reportMundaneArmorEquip =>
        { masks with armor := masks.armor ||| packet.slot }
    | .reportModifiableWeaponEquip | .reportMundaneWeaponEquip =>
        { masks with weapons := masks.weapons ||| packet.slot }
    | .reportArmorDequip => { masks with armor := masks.armor &&& ~~~packet.slot }
    | .reportWeaponDequip => { masks with weapons := masks.weapons &&& ~~~packet.slot }
  else masks

/-! ### Bits -/

/-- `UnitArmorType` by name: `g_noxUnitArmorNames`. -/
def unitArmorNames : List (BitVec 32 × String) :=
  [(0x1, "StreetSneakers"), (0x2, "MedievalCloak"), (0x4, "StreetPants"), (0x8, "MedievalPants"),
    (0x10, "LeatherLeggings"), (0x20, "ChainLeggings"), (0x40, "LeatherBoots"),
    (0x80, "LeatherArmoredBoots"), (0x100, "PlateBoots"), (0x200, "PlateLeggings"),
    (0x400, "StreetShirt"), (0x800, "MedievalShirt"), (0x1000, "LeatherArmbands"),
    (0x2000, "PlateArms"), (0x4000, "WizardRobe"), (0x8000, "LeatherArmor"),
    (0x10000, "ChainTunic"), (0x20000, "Breastplate"), (0x40000, "ChainCoif"),
    (0x80000, "WizardHelm"), (0x100000, "ConjurerHelm"), (0x200000, "LeatherHelm"),
    (0x400000, "SteelHelm"), (0x800000, "OrnateHelm"), (0x1000000, "RoundShield"),
    (0x2000000, "SteelShield")]

/-- `noxNameToEnum(name, table)`; the last pair of a table has no name and the number 0. -/
def noxNameToEnum (name : String) : List (BitVec 32 × String) → BitVec 32
  | [] => 0
  | pair :: table => if name = pair.2 then pair.1 else noxNameToEnum name table

/-- `ObjectToUnitArmor(obj)`, of the entry of the object's type. -/
def unitArmor (info : ObjectInfo) : BitVec 32 := noxNameToEnum info.name unitArmorNames

def objectToUnitArmor (w : Objects) (obj : Ref) : BitVec 32 :=
  unitArmor ((w.getObjectInfo obj).getD {})

/-- The bit of a weapon: `1 << (subclass & 0x1F)`. -/
def weaponBit (subclass : UInt32) : BitVec 32 := 1#32 <<< (subclass &&& 0x1F).toNat

/-- `SLOT_SHIELD`, the last slot of armour. -/
def slotShield : Fin slotSize := ⟨0x8, by decide⟩

def armorSlots : List (Fin slotSize) := (List.finRange slotSize).filter (· ≤ slotShield)

/-- The bits of what a slot holds. -/
def slotBits (w : Objects) (plr : Ref) (bits : Ref → BitVec 32) (slot : Fin slotSize) :
    BitVec 32 :=
  (w.equipment plr slot).elim 0 bits

/-- What a player wears, as a client is to show it. -/
def worn (w : Objects) (plr : Ref) : Masks where
  armor := armorSlots.foldl (fun mask slot => mask ||| w.slotBits plr w.objectToUnitArmor slot) 0
  weapons := [slotWepPrimary, slotQuiver, slotFlag].foldl
    (fun mask slot => mask ||| w.slotBits plr (fun obj => weaponBit (w.subclass obj)) slot) 0

/-! ### What a player does -/

/-- A player, with the packets about its equipment that its session was sent. -/
structure Outfit where
  objects : Objects
  plr : Ref
  extent : UInt16
  sent : List EquipPacket := []

inductive PlayerClass where
  | warrior
  | wizard
  | conjurer
  deriving DecidableEq

namespace Outfit

/-- The packet of `Dequip(obj)`, of an object that is in a slot. -/
def dequipPacket (s : Outfit) (slot : Fin slotSize) (obj : Ref) : EquipPacket :=
  if s.objects.subclass obj &&& subclassWeapon ≠ 0 ∧ slot ≠ slotWepSecondary then
    buildDequipPacket s.extent false (weaponBit (s.objects.subclass obj))
  else buildDequipPacket s.extent true (s.objects.objectToUnitArmor obj)

def dequip (s : Outfit) (obj : Option Ref) : Outfit :=
  match obj with
  | some obj =>
      match s.objects.slotOf s.plr obj with
      | some slot =>
          { s with
            objects := s.objects.setEquipment s.plr slot none
            sent := s.sent ++ [s.dequipPacket slot obj] }
      | none => s
  | none => s

/-- `Equip(obj, slot)`. -/
def equipAt (s : Outfit) (obj : Ref) (slot : Nat) : Outfit × Bool :=
  if inside : slot < slotSize then
    if s.objects.inMyInventory s.plr obj then
      let s := s.dequip (s.objects.equipment s.plr ⟨slot, inside⟩)
      ({ s with objects := s.objects.setEquipment s.plr ⟨slot, inside⟩ obj }, true)
    else (s, false)
  else (s, false)

/-- The packet of `Equip(obj)`. -/
def equipPacket (s : Outfit) (obj : Ref) : EquipPacket :=
  if s.objects.subclass obj &&& subclassWeapon ≠ 0 then
    buildEquipPacket s.extent false (weaponBit (s.objects.subclass obj)) 0xFFFFFFFF
  else buildEquipPacket s.extent true (s.objects.objectToUnitArmor obj) 0xFFFFFFFF

def equip (s : Outfit) (obj : Option Ref) : Outfit :=
  match obj with
  | some obj =>
      let (s, done) := s.equipAt obj (equipSlot (s.objects.subclass obj))
      if done then { s with sent := s.sent ++ [s.equipPacket obj] } else s
  | none => s

/-- `EquipSecondary(obj)`. NULL is in no inventory. -/
def equipSecondary (s : Outfit) (obj : Option Ref) : Outfit :=
  if obj = none ∧ ¬ obj.any (s.objects.inMyInventory s.plr) then s
  else
    let newSecondary := obj <|> s.objects.equipment s.plr slotWepPrimary
    let oldSecondary := s.objects.equipment s.plr slotWepSecondary
    let s := s.dequip newSecondary
    let s := { s with objects := s.objects.setEquipment s.plr slotWepSecondary newSecondary }
    if obj = none then s.equip oldSecondary else s

def removeFromInventory (s : Outfit) (obj : Ref) (newPos : GridPair) : Outfit :=
  if s.objects.inMyInventory s.plr obj then
    let s := s.dequip obj
    { s with objects := (s.objects.setPosition obj newPos).eraseInventory s.plr obj }
  else s

def drop (s : Outfit) (obj : Option Ref) (maxDist : UInt32) (newPos offset : GridPair) : Outfit :=
  match obj with
  | some obj =>
      s.removeFromInventory obj (s.objects.dropPosition s.plr maxDist newPos offset)
  | none => s

/-- The end of the use handlers. -/
def consume (s : Outfit) (obj : Ref) : Outfit :=
  let s := s.removeFromInventory obj inventoryPosition
  { s with objects := s.objects.addObjectToRemoveList obj }

def cure (s : Outfit) : Outfit := { s with objects := s.objects.cure s.plr }

def potionUse (s : Outfit) (obj : Ref) : Outfit :=
  let type := s.objects.subclass obj
  if type &&& subclassManaPotion ≠ 0 then
    if (s.objects.player s.plr).maxMana = 0 then s.consume obj else s
  else if type &&& subclassHealthPotion ≠ 0 then s.consume obj
  else if type &&& subclassCurePoisonPotion ≠ 0 then
    if (s.objects.player s.plr).poisoned then s.cure.consume obj else s
  else s.consume obj

def use (s : Outfit) (obj : Ref) : Outfit :=
  match (s.objects.getObjectInfo obj).bind (·.use) with
  | some .potion => s.potionUse obj
  | some .consume => s.consume obj
  | some .consumeConfuse => s.consume obj
  | some .mushroom => s.cure.consume obj
  | none => s

def foodPickup (s : Outfit) (obj : Ref) : Outfit × Bool :=
  let p := s.objects.player s.plr
  let amt := ((s.objects.getObjectInfo obj).map (·.amount)).getD 0
  if p.maxHealth - p.health > amt ∧ s.objects.subclass obj &&& subclassMushroom = 0 then
    (s.use obj, false)
  else if s.objects.subclass obj &&& subclassMushroom ≠ 0 ∧ p.poisoned then (s.use obj, false)
  else (s, true)

/-- A piece of armour or a weapon is put into a slot, and that is told. -/
def putOn (s : Outfit) (slot : Fin slotSize) (obj : Ref) (armor : Bool) (bits : BitVec 32) :
    Outfit :=
  { s with
    objects := s.objects.setEquipment s.plr slot obj
    sent := s.sent ++ [buildEquipPacket s.extent armor bits 0xFFFFFFFF] }

def armorPickup (s : Outfit) (obj : Ref) : Except Fault (Outfit × Bool) :=
  if inside : (s.objects.subclass obj).toNat < slotSize then
    let slot : Fin slotSize := ⟨(s.objects.subclass obj).toNat, inside⟩
    if (s.objects.equipment s.plr slot).isSome then .ok (s, true)
    else .ok (s.putOn slot obj true (s.objects.objectToUnitArmor obj), true)
  else .error .outOfBounds

def weaponPickup (s : Outfit) (obj : Ref) : Outfit × Bool :=
  let slot := weaponSlot (s.objects.subclass obj)
  if (s.objects.equipment s.plr slot).isSome then (s, true)
  else (s.putOn slot obj false (weaponBit (s.objects.subclass obj)), true)

def handlePickup (s : Outfit) (obj : Ref) : Except Fault (Outfit × Bool) :=
  match (s.objects.getObjectInfo obj).bind (·.pickup) with
  | some .food => .ok (s.foodPickup obj)
  | some .armor => s.armorPickup obj
  | some .weapon => .ok (s.weaponPickup obj)
  | none => .ok (s, false)

def pickup (s : Outfit) (obj : Option Ref) (maxDist : UInt32) : Except Fault (Outfit × Bool) :=
  match obj, s.objects.objectPickup s.plr obj maxDist with
  | some obj, (w, true) => { s with objects := w }.handlePickup obj
  | _, (w, taken) => .ok ({ s with objects := w }, taken)

def newPickup (s : Outfit) (obj : Ref) (info : ObjectInfo) : Except Fault Outfit := do
  let created := s.objects.new obj { info := info, position := ⟨1, 1⟩ }
  let (s, taken) ← { s with objects := created }.pickup obj 0
  if taken then return s
  else
    let s := s.removeFromInventory obj ⟨0, 0⟩
    return { s with objects := s.objects.delete obj }

def die (s : Outfit) : Outfit :=
  let pos := s.objects.getPosition s.plr
  let s := (s.objects.inventoryList s.plr).foldl (fun s obj => s.removeFromInventory obj pos) s
  { s with objects := s.objects.modifyPlayer s.plr fun p => { p with health := 0 } }

/-! ### Respawns -/

/-- The names of what a class starts with. -/
def startNames (pclass : Option PlayerClass) : List String :=
  (match pclass with
    | some .warrior => ["Longsword"]
    | some .conjurer => ["StreetShirt"]
    | some .wizard => ["StreetShirt", "WizardRobe"]
    | none => []) ++ ["StreetPants", "StreetSneakers"]

/-- The loop of `Pickup(NewPickup(type))`: what `NewPickup` returns is picked up already. -/
def startWith (s : Outfit) : List (Ref × ObjectInfo) → Except Fault Outfit
  | [] => .ok s
  | (obj, info) :: rest => do
      let s ← s.newPickup obj info
      s.startWith rest

/-- `Respawn()`: `things` finds a thing by its name, `refs` are where the new objects are, and
`health` and `mana` are what the configuration has for the class. -/
def respawn (s : Outfit) (pclass : Option PlayerClass) (things : String → Option ObjectInfo)
    (refs : List Ref) (health mana : Int) : Except Fault Outfit := do
  let s := { s with
    objects := s.objects.modifyPlayer s.plr fun p => { p with health := health } }
  let s ← s.startWith (refs.zip ((startNames pclass).filterMap things))
  let s := { s with
    objects := (s.objects.modifyPlayer s.plr fun p =>
      { p with maxMana := mana, maxHealth := p.health }).setPosition s.plr ⟨3000, 2900⟩ }
  return { s with sent := s.sent ++
    [buildDequipPacket s.extent true 0xFFFFFFFF, buildDequipPacket s.extent false 0xFFFFFFFF] }

/-! ### Calls -/

/-- The calls about what a player has. -/
inductive Call where
  | pickup (obj : Option Ref) (maxDist : UInt32)
  | drop (obj : Option Ref) (maxDist : UInt32) (newPos offset : GridPair)
  | equip (obj : Option Ref)
  | dequip (obj : Option Ref)
  | equipSecondary (obj : Option Ref)
  | die
  | respawn (pclass : Option PlayerClass) (things : String → Option ObjectInfo) (refs : List Ref)
      (health mana : Int)

/-- What is promised of the arguments: objects are there, and new ones are where nothing is. -/
def Enabled (s : Outfit) : Call → Prop
  | .pickup obj _ | .drop obj _ _ _ | .equip obj | .dequip obj | .equipSecondary obj =>
      ∀ x ∈ obj, s.objects.isLive x
  | .die => True
  | .respawn pclass _ refs _ _ =>
      refs.length = (startNames pclass).length ∧ refs.Nodup ∧ ∀ r ∈ refs, ¬ s.objects.isLive r

def apply (s : Outfit) : Call → Except Fault Outfit
  | .pickup obj maxDist => return (← s.pickup obj maxDist).1
  | .drop obj maxDist newPos offset => .ok (s.drop obj maxDist newPos offset)
  | .equip obj => .ok (s.equip obj)
  | .dequip obj => .ok (s.dequip obj)
  | .equipSecondary obj => .ok (s.equipSecondary obj)
  | .die => .ok s.die
  | .respawn pclass things refs health mana => s.respawn pclass things refs health mana

/-- A call on what is promised for it, done to its end. -/
def Step (s : Outfit) (call : Call) (s' : Outfit) : Prop := s.Enabled call ∧ s.apply call = .ok s'

/-- What the client of the player was told. -/
def masks (s : Outfit) : Masks := s.sent.foldl (Masks.receive s.extent) {}

/-- A player that has nothing and of whom nothing was told. -/
structure Fresh (s : Outfit) : Prop where
  player : s.objects.isPlayer s.plr
  bare : ∀ slot, s.objects.equipment s.plr slot = none
  empty : ∀ x, ¬ s.objects.inMyInventory s.plr x
  silent : s.sent = []

/-! ### Without the packets -/

/-- The objects after a call, if no packets are sent. -/
def Call.onObjects (plr : Ref) (w : Objects) : Call → Except Fault Objects
  | .pickup obj maxDist => return (← w.pickup plr obj maxDist).1
  | .drop obj maxDist newPos offset => .ok (w.drop plr obj maxDist newPos offset).1
  | .equip obj => .ok (w.equip plr obj).1
  | .dequip obj => .ok (w.dequip plr obj).1
  | .equipSecondary obj => .ok (w.equipSecondary plr obj)
  | .die => .ok (w.die plr)
  | .respawn pclass things refs health mana => do
      let w := w.modifyPlayer plr fun p => { p with health := health }
      let w ← (refs.zip ((startNames pclass).filterMap things)).foldlM
        (fun w (obj, info) => w.newPickup plr obj info) w
      return (w.modifyPlayer plr fun p =>
        { p with maxMana := mana, maxHealth := p.health }).setPosition plr ⟨3000, 2900⟩

section Untold

variable {s s' : Outfit}

/-- The objects are those that the operation of the objects leaves, and the player is the same. -/
structure Follows (plr : Ref) (s : Outfit) (w : Objects) : Prop where
  objects : s.objects = w
  plr : s.plr = plr

theorem dequip_follows (s : Outfit) (obj : Option Ref) :
    Follows s.plr (s.dequip obj) (s.objects.dequip s.plr obj).1 := by
  unfold dequip Objects.dequip
  cases obj with
  | none => exact ⟨rfl, rfl⟩
  | some x =>
      dsimp only [Option.bind_some]
      cases s.objects.slotOf s.plr x with
      | none => exact ⟨rfl, rfl⟩
      | some slot => exact ⟨rfl, rfl⟩

theorem equipAt_follows (s : Outfit) (x : Ref) (slot : Nat) :
    Follows s.plr (s.equipAt x slot).1 (s.objects.equipAt s.plr x slot).1 ∧
      (s.equipAt x slot).2 = (s.objects.equipAt s.plr x slot).2 := by
  unfold equipAt Objects.equipAt
  by_cases inside : slot < slotSize
  · obtain ⟨objects, plr⟩ := dequip_follows s (s.objects.equipment s.plr ⟨slot, inside⟩)
    rw [dif_pos inside, dif_pos inside]
    by_cases mem : s.objects.inMyInventory s.plr x
    · rw [if_pos mem, if_pos mem]
      exact ⟨⟨by simp only [objects, plr], plr⟩, rfl⟩
    · rw [if_neg mem, if_neg mem]
      exact ⟨⟨rfl, rfl⟩, rfl⟩
  · rw [dif_neg inside, dif_neg inside]
    exact ⟨⟨rfl, rfl⟩, rfl⟩

theorem equip_follows (s : Outfit) (obj : Option Ref) :
    Follows s.plr (s.equip obj) (s.objects.equip s.plr obj).1 := by
  cases obj with
  | none => exact ⟨rfl, rfl⟩
  | some x =>
      obtain ⟨⟨objects, plr⟩, done⟩ := equipAt_follows s x (equipSlot (s.objects.subclass x))
      simp only [equip, Objects.equip]
      split
      · exact ⟨objects, plr⟩
      · exact ⟨objects, plr⟩

/-- `EquipSecondary` does to the objects what it does without the packets. -/
theorem equipSecondary_follows (s : Outfit) (obj : Option Ref) :
    Follows s.plr (s.equipSecondary obj) (s.objects.equipSecondary s.plr obj) := by
  unfold equipSecondary Objects.equipSecondary
  by_cases bare : obj = none ∧ ¬ obj.any (s.objects.inMyInventory s.plr)
  · rw [if_pos bare, if_pos bare]
    exact ⟨rfl, rfl⟩
  · have follows := dequip_follows s (obj <|> s.objects.equipment s.plr slotWepPrimary)
    rw [if_neg bare, if_neg bare]
    dsimp only
    generalize s.dequip (obj <|> s.objects.equipment s.plr slotWepPrimary) = s₁ at follows ⊢
    obtain ⟨objects, plr⟩ := follows
    by_cases none : obj = none
    · rw [if_pos none, if_pos none]
      obtain ⟨objects', plr'⟩ := equip_follows
        { s₁ with
          objects := s₁.objects.setEquipment s₁.plr slotWepSecondary
            (obj <|> s.objects.equipment s.plr slotWepPrimary) }
        (s.objects.equipment s.plr slotWepSecondary)
      refine ⟨objects'.trans ?_, plr'.trans plr⟩
      simp only [objects, plr]
    · rw [if_neg none, if_neg none]
      exact ⟨by simp only [objects, plr], plr⟩

theorem removeFromInventory_follows (player : s.objects.isPlayer s.plr) (x : Ref)
    (pos : GridPair) :
    Follows s.plr (s.removeFromInventory x pos) (s.objects.removeFromInventory s.plr x pos) := by
  obtain ⟨objects, plr⟩ := dequip_follows s x
  unfold removeFromInventory Objects.removeFromInventory
  rw [if_pos player]
  by_cases mem : s.objects.inMyInventory s.plr x
  · rw [if_pos mem, if_pos mem]
    exact ⟨by simp only [objects, plr], plr⟩
  · rw [if_neg mem, if_neg mem]
    exact ⟨rfl, rfl⟩

theorem drop_follows (player : s.objects.isPlayer s.plr) (obj : Option Ref) (maxDist : UInt32)
    (newPos offset : GridPair) :
    Follows s.plr (s.drop obj maxDist newPos offset)
      (s.objects.drop s.plr obj maxDist newPos offset).1 := by
  unfold drop Objects.drop objectDrop
  rw [if_pos player]
  cases obj with
  | none => exact ⟨rfl, rfl⟩
  | some x =>
      have follows := removeFromInventory_follows player x
        (s.objects.dropPosition s.plr maxDist newPos offset)
      by_cases mem : s.objects.inMyInventory s.plr x
      · simp only [if_pos mem]
        exact follows
      · rw [Objects.removeFromInventory_of_not_mem player mem] at follows
        simp only [if_neg mem]
        exact follows

theorem consume_follows (player : s.objects.isPlayer s.plr) (x : Ref) :
    Follows s.plr (s.consume x) (s.objects.consume s.plr x) := by
  obtain ⟨objects, plr⟩ := removeFromInventory_follows player x inventoryPosition
  exact ⟨congrArg (·.addObjectToRemoveList x) objects, plr⟩

theorem cure_consume_follows (player : s.objects.isPlayer s.plr) (x : Ref) :
    Follows s.plr (s.cure.consume x) ((s.objects.cure s.plr).consume s.plr x) := by
  have still : s.cure.objects.isPlayer s.cure.plr :=
    (congrFun (sameThings_modifyPlayer s.objects s.plr _).isPlayer s.plr).trans player
  obtain ⟨objects, plr⟩ := consume_follows still x
  exact ⟨objects, plr⟩

theorem potionUse_follows (player : s.objects.isPlayer s.plr) (x : Ref) :
    Follows s.plr (s.potionUse x) (s.objects.potionUse s.plr x) := by
  have same : Follows s.plr s s.objects := ⟨rfl, rfl⟩
  have consumed := consume_follows player x
  have cured := cure_consume_follows player x
  unfold potionUse Objects.potionUse
  dsimp only
  split_ifs <;> assumption

theorem use_follows (player : s.objects.isPlayer s.plr) (x : Ref) :
    Follows s.plr (s.use x) (s.objects.use s.plr x) := by
  have same : Follows s.plr s s.objects := ⟨rfl, rfl⟩
  have drunk := potionUse_follows player x
  have consumed := consume_follows player x
  have cured := cure_consume_follows player x
  unfold use Objects.use
  cases (s.objects.getObjectInfo x).bind (·.use) with
  | none => exact same
  | some handler =>
      cases handler with
      | potion => exact drunk
      | consume | consumeConfuse => exact consumed
      | mushroom => exact cured

theorem foodPickup_follows (player : s.objects.isPlayer s.plr) (x : Ref) :
    Follows s.plr (s.foodPickup x).1 (s.objects.foodPickup s.plr x).1 ∧
      (s.foodPickup x).2 = (s.objects.foodPickup s.plr x).2 := by
  have used := use_follows player x
  unfold foodPickup Objects.foodPickup
  dsimp only
  split_ifs
  · exact ⟨used, rfl⟩
  · exact ⟨used, rfl⟩
  · exact ⟨⟨rfl, rfl⟩, rfl⟩

/-- What goes wrong with the packets goes wrong without them; otherwise the same is returned. -/
structure Agrees {α : Type} (plr : Ref) (out : Except Fault (Outfit × α))
    (out' : Except Fault (Objects × α)) : Prop where
  map : out.map (fun r => (r.1.objects, r.2)) = out'
  plr : ∀ r, out = .ok r → r.1.plr = plr

theorem Follows.agrees {α : Type} {plr : Ref} {out : Outfit × α} {out' : Objects × α}
    (follows : Follows plr out.1 out'.1) (same : out.2 = out'.2) :
    Agrees plr (.ok out) (.ok out') :=
  ⟨congrArg Except.ok (Prod.ext follows.objects same), fun _ is => by cases is; exact follows.plr⟩

theorem weaponPickup_follows (s : Outfit) (x : Ref) :
    Follows s.plr (s.weaponPickup x).1 (s.objects.weaponPickup s.plr x).1 ∧
      (s.weaponPickup x).2 = (s.objects.weaponPickup s.plr x).2 := by
  unfold weaponPickup Objects.weaponPickup
  dsimp only
  split_ifs <;> exact ⟨⟨rfl, rfl⟩, rfl⟩

theorem armorPickup_agrees (s : Outfit) (x : Ref) :
    Agrees s.plr (s.armorPickup x) (s.objects.armorPickup s.plr x) := by
  unfold armorPickup Objects.armorPickup
  dsimp only
  split_ifs
  · exact Follows.agrees ⟨rfl, rfl⟩ rfl
  · exact Follows.agrees ⟨rfl, rfl⟩ rfl
  · exact ⟨rfl, nofun⟩

theorem handlePickup_agrees (player : s.objects.isPlayer s.plr) (x : Ref) :
    Agrees s.plr (s.handlePickup x) (s.objects.handlePickup s.plr x) := by
  obtain ⟨ate, eaten⟩ := foodPickup_follows player x
  obtain ⟨armed, taken⟩ := weaponPickup_follows s x
  unfold handlePickup Objects.handlePickup
  cases (s.objects.getObjectInfo x).bind (·.pickup) with
  | none => exact Follows.agrees ⟨rfl, rfl⟩ rfl
  | some handler =>
      cases handler with
      | food => exact ate.agrees eaten
      | armor => exact armorPickup_agrees s x
      | weapon => exact armed.agrees taken

/-- A pickup does to the objects what it does without the packets, and returns the same. -/
theorem pickup_agrees (player : s.objects.isPlayer s.plr) (obj : Option Ref)
    (maxDist : UInt32) :
    Agrees s.plr (s.pickup obj maxDist) (s.objects.pickup s.plr obj maxDist) := by
  unfold pickup Objects.pickup
  rw [player]
  cases obj with
  | none => exact Follows.agrees ⟨rfl, rfl⟩ rfl
  | some x =>
      obtain ⟨⟨w, taken⟩, put⟩ : ∃ out, s.objects.objectPickup s.plr (some x) maxDist = out :=
        ⟨_, rfl⟩
      have still : w.isPlayer s.plr := by
        rcases objectPickup_cases s.objects s.plr (some x) maxDist with same | ⟨y, -, -, -, same⟩
        · rw [put] at same
          cases same
          exact player
        · rw [put] at same
          cases same
          simpa using player
      rw [put]
      cases taken with
      | false => exact Follows.agrees ⟨rfl, rfl⟩ rfl
      | true => exact handlePickup_agrees (s := { s with objects := w }) still x

/-- `NewPickup` does to the objects what it does without the packets, and the player stays the one
it is for. -/
theorem newPickup_agrees (player : s.objects.isPlayer s.plr) {x : Ref} (other : s.plr ≠ x)
    (info : ObjectInfo) :
    (s.newPickup x info).map objects = s.objects.newPickup s.plr x info ∧
      ∀ s', s.newPickup x info = .ok s' → s'.plr = s.plr ∧ s'.objects.isPlayer s.plr := by
  have still : (s.objects.new x { info := info, position := ⟨1, 1⟩ }).isPlayer s.plr := by
    rw [isPlayer, new_any, if_neg other]
    exact player
  have agrees := pickup_agrees (s := { s with
    objects := s.objects.new x { info := info, position := ⟨1, 1⟩ } }) still (some x) 0
  unfold newPickup Objects.newPickup
  dsimp only at agrees ⊢
  rw [← agrees.map]
  cases picked : pickup { s with
      objects := s.objects.new x { info := info, position := ⟨1, 1⟩ } } (some x) 0 with
  | error fault => exact ⟨rfl, nofun⟩
  | ok out =>
      obtain ⟨s₁, taken⟩ := out
      rw [picked] at agrees
      have plr₁ : s₁.plr = s.plr := agrees.plr _ rfl
      have player₁ : s₁.objects.isPlayer s₁.plr := by
        rw [isPlayer_pickup agrees.map.symm, plr₁]
        exact still
      cases taken with
      | true =>
          refine ⟨rfl, fun s' done => ?_⟩
          cases done
          exact ⟨plr₁, plr₁ ▸ player₁⟩
      | false =>
          obtain ⟨objects, plr⟩ := removeFromInventory_follows player₁ x ⟨0, 0⟩
          refine ⟨?_, fun s' done => ?_⟩
          · rw [plr₁] at objects
            exact congrArg (fun w => Except.ok (w.delete x)) objects
          · cases done
            refine ⟨plr.trans plr₁, ?_⟩
            change ((s₁.removeFromInventory x ⟨0, 0⟩).objects.delete x).isPlayer s.plr = true
            rw [objects, isPlayer, delete_any, if_neg other]
            exact (congrFun (isPlayer_removeFromInventory _ _ _ _) s.plr).trans (plr₁ ▸ player₁)

theorem foldl_remove_follows (pos : GridPair) (list : List Ref) :
    ∀ {s : Outfit}, s.objects.isPlayer s.plr →
      Follows s.plr (list.foldl (fun s obj => s.removeFromInventory obj pos) s)
        (list.foldl (fun w obj => w.removeFromInventory s.plr obj pos) s.objects) := by
  induction list with
  | nil => exact fun _ => ⟨rfl, rfl⟩
  | cons x rest ih =>
      intro s player
      obtain ⟨objects, plr⟩ := removeFromInventory_follows player x pos
      have player₁ : (s.removeFromInventory x pos).objects.isPlayer
          (s.removeFromInventory x pos).plr := by
        rw [objects, plr, isPlayer_removeFromInventory]
        exact player
      rw [List.foldl_cons, List.foldl_cons, ← objects, ← plr]
      exact ih player₁

theorem isPlayer_die (w : Objects) (plr : Ref) : (w.die plr).isPlayer = w.isPlayer := by
  have dropped (pos : GridPair) (list : List Ref) : ∀ w : Objects,
      (list.foldl (fun w obj => w.removeFromInventory plr obj pos) w).isPlayer = w.isPlayer := by
    induction list with
    | nil => exact fun _ => rfl
    | cons x rest ih =>
        exact fun w => (ih _).trans (isPlayer_removeFromInventory w plr x pos)
  exact (sameThings_modifyPlayer _ plr _).isPlayer.trans (dropped _ _ w)

theorem die_follows (player : s.objects.isPlayer s.plr) :
    Follows s.plr s.die (s.objects.die s.plr) := by
  obtain ⟨objects, plr⟩ := foldl_remove_follows (s.objects.getPosition s.plr)
    (s.objects.inventoryList s.plr) player
  exact ⟨by simp only [die, Objects.die, dropAll, objects, plr], plr⟩

theorem startWith_agrees (items : List (Ref × ObjectInfo)) : ∀ {s : Outfit},
    s.objects.isPlayer s.plr → (∀ item ∈ items, s.plr ≠ item.1) →
      (s.startWith items).map objects =
          items.foldlM (fun w item => w.newPickup s.plr item.1 item.2) s.objects ∧
        ∀ s', s.startWith items = .ok s' → s'.plr = s.plr ∧ s'.objects.isPlayer s.plr := by
  induction items with
  | nil => exact fun player _ => ⟨rfl, fun s' done => by cases done; exact ⟨rfl, player⟩⟩
  | cons item rest ih =>
      obtain ⟨x, info⟩ := item
      intro s player others
      obtain ⟨agrees, kept⟩ := newPickup_agrees player (others _ List.mem_cons_self) info
      rw [startWith, List.foldlM_cons, ← agrees]
      cases picked : s.newPickup x info with
      | error fault => exact ⟨rfl, nofun⟩
      | ok s₁ =>
          obtain ⟨plr₁, player₁⟩ := kept s₁ picked
          obtain ⟨agrees', kept'⟩ := ih (s := s₁) (plr₁ ▸ player₁)
            fun item mem => plr₁ ▸ others item (List.mem_cons_of_mem _ mem)
          rw [plr₁] at agrees' kept'
          exact ⟨agrees', kept'⟩

/-- A respawn does to the objects what it does without the packets. -/
theorem respawn_agrees (player : s.objects.isPlayer s.plr) (pclass : Option PlayerClass)
    (things : String → Option ObjectInfo) {refs : List Ref} (others : ∀ r ∈ refs, s.plr ≠ r)
    (health mana : Int) :
    (s.respawn pclass things refs health mana).map objects =
        (Call.respawn pclass things refs health mana).onObjects s.plr s.objects ∧
      ∀ s', s.respawn pclass things refs health mana = .ok s' →
        s'.plr = s.plr ∧ s'.objects.isPlayer s.plr := by
  have still : (s.objects.modifyPlayer s.plr fun p => { p with health := health }).isPlayer s.plr :=
    (congrFun (sameThings_modifyPlayer _ _ _).isPlayer s.plr).trans player
  obtain ⟨agrees, kept⟩ := startWith_agrees (refs.zip ((startNames pclass).filterMap things))
    (s := { s with objects := s.objects.modifyPlayer s.plr fun p => { p with health := health } })
    still fun item mem => others item.1 (List.of_mem_zip mem).1
  rw [respawn, Call.onObjects]
  dsimp only at agrees kept ⊢
  rw [← agrees]
  cases started : startWith { s with
      objects := s.objects.modifyPlayer s.plr fun p => { p with health := health } }
      (refs.zip ((startNames pclass).filterMap things)) with
  | error fault => exact ⟨rfl, nofun⟩
  | ok s₁ =>
      obtain ⟨plr₁, player₁⟩ := kept s₁ started
      refine ⟨by rw [← plr₁]; rfl, fun s' done => ?_⟩
      cases done
      refine ⟨plr₁, ?_⟩
      simpa [(sameThings_modifyPlayer _ _ _).isPlayer] using player₁

/-- A call does to the objects what it does if no packets are sent. -/
theorem apply_onObjects (player : s.objects.isPlayer s.plr) {call : Call}
    (enabled : s.Enabled call) :
    (s.apply call).map objects = call.onObjects s.plr s.objects ∧
      ∀ s', s.apply call = .ok s' → s'.plr = s.plr ∧ s'.objects.isPlayer s.plr := by
  have done {s' : Outfit} {w : Objects} (follows : Follows s.plr s' w)
      (still : w.isPlayer = s.objects.isPlayer) :
      (Except.ok s' : Except Fault Outfit).map objects = .ok w ∧
        ∀ s'', (.ok s' : Except Fault Outfit) = .ok s'' →
          s''.plr = s.plr ∧ s''.objects.isPlayer s.plr := by
    refine ⟨congrArg Except.ok follows.objects, fun s'' is => ?_⟩
    cases is
    exact ⟨follows.plr, by rw [follows.objects, still]; exact player⟩
  cases call with
  | pickup obj maxDist =>
      have agrees := pickup_agrees player obj maxDist
      rw [apply, Call.onObjects, ← agrees.map]
      cases picked : s.pickup obj maxDist with
      | error fault => exact ⟨rfl, nofun⟩
      | ok out =>
          refine ⟨rfl, fun s' is => ?_⟩
          cases is
          refine ⟨agrees.plr _ picked, ?_⟩
          rw [picked] at agrees
          rw [isPlayer_pickup agrees.map.symm]
          exact player
  | drop obj maxDist newPos offset =>
      refine done (drop_follows player obj maxDist newPos offset) ?_
      unfold Objects.drop objectDrop
      rw [if_pos player]
      split
      · split
        · exact isPlayer_removeFromInventory _ _ _ _
        · rfl
      · rfl
  | equip obj => exact done (equip_follows s obj) (sameThings_equip _ _ _).isPlayer
  | dequip obj => exact done (dequip_follows s obj) (sameThings_dequip _ _ _).isPlayer
  | equipSecondary obj =>
      exact done (equipSecondary_follows s obj) (sameThings_equipSecondary _ _ _).isPlayer
  | die => exact done (die_follows player) (isPlayer_die _ _)
  | respawn pclass things refs health mana =>
      refine respawn_agrees player pclass things (fun r mem same => ?_) health mana
      exact enabled.2.2 r mem (same ▸ isLive_of_isPlayer player)

/-- The objects go through the calls as they do if no packets are sent. -/
theorem run_onObjects {calls : List Call} (run : Run Step s calls s')
    (player : s.objects.isPlayer s.plr) :
    Run (fun w call w' => call.onObjects s.plr w = .ok w') s.objects calls s'.objects := by
  induction run with
  | nil s => exact .nil _
  | cons first _ ih =>
      obtain ⟨enabled, done⟩ := first
      obtain ⟨same, kept⟩ := apply_onObjects player enabled
      obtain ⟨plr, still⟩ := kept _ done
      rw [done] at same
      rw [← plr] at same still ⊢
      exact .cons same.symm (ih still)

end Untold

end Outfit

/-! ### Marks -/

/-- A bit of armour or of a weapon. -/
abbrev Mark := Bool × Nat

/-- The marks that the bits of a packet stand for. -/
def kindMarks (armor : Bool) (mask : BitVec 32) : Set Mark := {m | m.1 = armor ∧ m.2 ∈ bits mask}

/-- The marks of what a client shows. -/
def Masks.marks (masks : Masks) : Set Mark :=
  kindMarks true masks.armor ∪ kindMarks false masks.weapons

/-- The marks a thing has in a slot; the second weapon is not shown. -/
def infoMarks (slot : Fin slotSize) (info : ObjectInfo) : Set Mark :=
  if slot ≤ slotShield then kindMarks true (unitArmor info)
  else if slot = slotWepSecondary then ∅
  else kindMarks false (weaponBit info.subclass)

/-- The marks an object has in a slot. -/
def slotMarks (w : Objects) (slot : Fin slotSize) (obj : Ref) : Set Mark :=
  infoMarks slot ((w.getObjectInfo obj).getD {})

section Marks

variable {masks masks' : Masks}

theorem mem_marks (k : Nat) :
    ((true, k) ∈ masks.marks ↔ k ∈ bits masks.armor) ∧
      ((false, k) ∈ masks.marks ↔ k ∈ bits masks.weapons) := by
  simp [Masks.marks, kindMarks]

theorem marks_injective (same : masks.marks = masks'.marks) : masks = masks' := by
  have armor : masks.armor = masks'.armor := bits_injective (Set.ext fun k => by
    rw [← (mem_marks k).1, same, (mem_marks k).1])
  have weapons : masks.weapons = masks'.weapons := bits_injective (Set.ext fun k => by
    rw [← (mem_marks k).2, same, (mem_marks k).2])
  cases masks
  cases masks'
  exact congrArg₂ Masks.mk armor weapons

/-- A packet that puts on adds its marks. -/
theorem marks_receive_equip (extent : UInt16) (masks : Masks) (armor : Bool) (mask : BitVec 32)
    (modifier : UInt32) :
    (masks.receive extent (buildEquipPacket extent armor mask modifier)).marks =
      masks.marks ∪ kindMarks armor mask := by
  have mine : (extent ||| 0x8000) ||| 0x8000 = extent ||| 0x8000 := by
    rw [UInt16.or_assoc, UInt16.or_self]
  ext ⟨kind, k⟩
  by_cases modified : modifier = 0
  · cases armor <;> cases kind <;>
      simp [Masks.receive, buildEquipPacket, mine, modified, Masks.marks, kindMarks, bits]
  · cases armor <;> cases kind <;>
      simp [Masks.receive, buildEquipPacket, mine, modified, Masks.marks, kindMarks, bits]

/-- A packet that takes off takes its marks away. -/
theorem marks_receive_dequip (extent : UInt16) (masks : Masks) (armor : Bool) (mask : BitVec 32) :
    (masks.receive extent (buildDequipPacket extent armor mask)).marks =
      masks.marks \ kindMarks armor mask := by
  have bit {a b : BitVec 32} {k : Nat} :
      (a &&& ~~~b).getLsbD k = true ↔ a.getLsbD k = true ∧ ¬ b.getLsbD k = true := by
    rw [BitVec.getLsbD_and, BitVec.getLsbD_not]
    by_cases inside : k < 32
    · simp [inside]
    · simp [BitVec.getLsbD_of_ge _ _ (Nat.le_of_not_lt inside)]
  ext ⟨kind, k⟩
  cases armor <;> cases kind <;>
    simp only [Masks.receive, buildDequipPacket, Masks.marks, kindMarks, bits, bit, Set.mem_union,
      Set.mem_sdiff, Set.mem_ofPred_eq, if_true, Bool.false_eq_true, if_false] <;> simp

theorem mem_armorSlots (slot : Fin slotSize) : slot ∈ armorSlots ↔ slot ≤ slotShield := by
  simp [armorSlots]

theorem mem_weaponSlots (slot : Fin slotSize) :
    slot ∈ [slotWepPrimary, slotQuiver, slotFlag] ↔
      ¬ slot ≤ slotShield ∧ slot ≠ slotWepSecondary := by
  revert slot
  decide

/-- What is to be shown of a player are the marks of what is in its slots. -/
theorem marks_worn (w : Objects) (plr : Ref) :
    (w.worn plr).marks = shown w.slotMarks (w.equipment plr) := by
  have subclass (x : Ref) : w.subclass x = ((w.getObjectInfo x).getD {}).subclass := by
    unfold Objects.subclass
    cases w.getObjectInfo x <;> rfl
  have held {f : Ref → BitVec 32} {slot : Fin slotSize} {k : Nat} :
      k ∈ bits (w.slotBits plr f slot) ↔ ∃ x, w.equipment plr slot = some x ∧ k ∈ bits (f x) := by
    unfold slotBits
    cases w.equipment plr slot <;> simp [bits]
  ext ⟨kind, k⟩
  cases kind with
  | true =>
      rw [(mem_marks k).1, worn, mem_bits_foldl_or]
      constructor
      · rintro (none | ⟨slot, mem, there⟩)
        · simp [bits] at none
        · obtain ⟨x, here, bit⟩ := held.mp there
          refine ⟨slot, x, here, ?_⟩
          rw [slotMarks, infoMarks, if_pos ((mem_armorSlots slot).mp mem)]
          exact ⟨rfl, bit⟩
      · rintro ⟨slot, x, here, mark⟩
        rw [slotMarks, infoMarks] at mark
        split at mark
        · next armor =>
            exact .inr ⟨slot, (mem_armorSlots slot).mpr armor, held.mpr ⟨x, here, mark.2⟩⟩
        · split at mark
          · exact absurd mark (Set.notMem_empty _)
          · cases mark.1
  | false =>
      rw [(mem_marks k).2, worn, mem_bits_foldl_or]
      constructor
      · rintro (none | ⟨slot, mem, there⟩)
        · simp [bits] at none
        · obtain ⟨x, here, bit⟩ := held.mp there
          obtain ⟨weapon, first⟩ := (mem_weaponSlots slot).mp mem
          refine ⟨slot, x, here, ?_⟩
          rw [slotMarks, infoMarks, if_neg weapon, if_neg first]
          exact ⟨rfl, subclass x ▸ bit⟩
      · rintro ⟨slot, x, here, mark⟩
        rw [slotMarks, infoMarks] at mark
        split at mark
        · cases mark.1
        · next weapon =>
            split at mark
            · exact absurd mark (Set.notMem_empty _)
            · next first =>
                exact .inr ⟨slot, (mem_weaponSlots slot).mpr ⟨weapon, first⟩,
                  held.mpr ⟨x, here, subclass x ▸ mark.2⟩⟩

end Marks

end Objects

end NoxServer
