import Mathlib.Data.Nat.Bitwise
import NoxServer.Objects.Outfit

/-!
What a player wears is what its client shows.

What is put on is told with the marks it has in its slot, if it is of the kind the slot is for; what
is taken off is told with those marks, and with them those of other things that share them or of a
thing like the one that is carried as the second weapon. `Respawn` tells that everything is taken
off and takes nothing off. Where none of this happens, the client shows what is worn
(`masks_worn`).
-/

namespace NoxServer

namespace Objects

open Displays Runs

namespace Outfit

def slots (s : Outfit) : Fin slotSize → Option Ref := s.objects.equipment s.plr

/-! ### Where things are told as they are -/

/-- A thing that `Equip` puts into a slot is of the kind the slot is for. -/
def Suits (subclass : UInt32) : Prop := subclass &&& subclassWeapon ≠ 0 ∨ subclass.toNat ≤ 8

/-- A slot is the one for a thing. -/
def Fitting (slot : Fin slotSize) (subclass : UInt32) : Prop :=
  slot.val = equipSlot subclass ∧ Suits subclass

/-- The slot that the pickup of a thing puts it into. -/
def pickupSlot (info : ObjectInfo) : Option Nat :=
  match info.pickup with
  | some .armor => some info.subclass.toNat
  | some .weapon => some (weaponSlot info.subclass)
  | _ => none

/-- What is told to be taken off with an object in a slot. -/
def wiped (s : Outfit) (slot : Fin slotSize) (obj : Ref) : Set Mark :=
  if s.objects.subclass obj &&& subclassWeapon ≠ 0 ∧ slot ≠ slotWepSecondary then
    kindMarks false (weaponBit (s.objects.subclass obj))
  else kindMarks true (s.objects.objectToUnitArmor obj)

/-- When the object is taken off, what is told of it is told of nothing else that is worn, besides
what is told to be put on again. -/
def Apart (s : Outfit) (obj : Option Ref) (again : Set Mark) : Prop :=
  ∀ x ∈ obj, ∀ slot, s.objects.slotOf s.plr x = some slot →
    s.wiped slot x ∩ shown s.objects.slotMarks (Function.update s.slots slot none) ⊆ again

/-- What a class gets without a look whether it is in thing.bin. -/
def unaskedNames : Option PlayerClass → List String
  | some .warrior => ["Longsword"]
  | some .conjurer => ["StreetShirt"]
  | _ => []

/-- A call tells what it does to the slots. -/
def Honest (s : Outfit) : Call → Prop
  | .pickup obj maxDist => ∀ x ∈ obj, ∀ info ∈ s.objects.getObjectInfo x,
      ¬ s.objects.Refused s.plr x maxDist →
        (∀ slot : Fin slotSize, pickupSlot info = some slot.val → s.slots slot = none →
          Fitting slot info.subclass) ∧
        (usedAtOnce (s.objects.player s.plr) info → s.objects.usedUp s.plr x → s.Apart x ∅)
  | .drop obj _ _ _ => ∀ x ∈ obj, s.objects.inMyInventory s.plr x → s.Apart x ∅
  | .equip obj => ∀ x ∈ obj, s.objects.inMyInventory s.plr x →
      ∀ slot : Fin slotSize, slot.val = equipSlot (s.objects.subclass x) →
        Suits (s.objects.subclass x) ∧ s.Apart (s.slots slot) (s.objects.slotMarks slot x)
  | .dequip obj | .equipSecondary obj => s.Apart obj ∅
  | .die => True
  | .respawn pclass things _ _ _ =>
      (∀ name ∈ unaskedNames pclass, (things name).isSome) ∧
      (∀ slot, ∀ x ∈ s.slots slot, s.objects.slotMarks slot x = ∅) ∧
      ∀ info ∈ (startNames pclass).filterMap things, ∀ slot : Fin slotSize,
        pickupSlot info = some slot.val → s.slots slot = none → infoMarks slot info = ∅

/-! ### Slots -/

/-- The things in the slots are there, those that are shown are in the inventory, and each is in the
slot it is for. -/
structure Sound (s : Outfit) : Prop where
  player : s.objects.isPlayer s.plr
  live : ∀ slot x, s.slots slot = some x → s.objects.isLive x
  held : ∀ slot x, slot ≠ slotWepSecondary → s.slots slot = some x →
    s.objects.inMyInventory s.plr x
  fitting : ∀ slot x, slot ≠ slotWepSecondary → s.slots slot = some x →
    Fitting slot (s.objects.subclass x)

section Slots

variable {s s' : Outfit} {x y : Ref} {slot slot' : Fin slotSize}

/-- A player's slots change, and what is put into one is there and, if it is shown, fits. -/
theorem Sound.dress (sound : Sound s) (plr : s'.plr = s.plr)
    (same : SameThings s.objects s'.objects)
    (infos : s'.objects.getObjectInfo = s.objects.getObjectInfo)
    (filled : ∀ slot x, s'.slots slot = some x → s.slots slot = some x ∨
      (s.objects.isLive x ∧ (slot ≠ slotWepSecondary →
        s.objects.inMyInventory s.plr x ∧ Fitting slot (s.objects.subclass x)))) : Sound s' := by
  have subclass (x : Ref) : s'.objects.subclass x = s.objects.subclass x := by
    rw [Objects.subclass, Objects.subclass, infos]
  refine ⟨?_, fun slot x here => ?_, fun slot x visible here => ?_, fun slot x visible here => ?_⟩
  · rw [plr, same.isPlayer]
    exact sound.player
  · rw [same.isLive]
    rcases filled slot x here with old | new
    · exact sound.live slot x old
    · exact new.1
  · rw [plr, same.inMyInventory]
    rcases filled slot x here with old | new
    · exact sound.held slot x visible old
    · exact (new.2 visible).1
  · rw [subclass]
    rcases filled slot x here with old | new
    · exact sound.fitting slot x visible old
    · exact (new.2 visible).2

theorem getObjectInfo_setEquipment (w : Objects) (plr : Ref) (slot : Fin slotSize)
    (obj : Option Ref) : (w.setEquipment plr slot obj).getObjectInfo = w.getObjectInfo :=
  modify_info fun _ => rfl

theorem slots_setEquipment (sound : Sound s) (slot : Fin slotSize) (obj : Option Ref)
    (sent : List EquipPacket) :
    ({ s with objects := s.objects.setEquipment s.plr slot obj, sent := sent } : Outfit).slots =
      Function.update s.slots slot obj :=
  equipment_setEquipment sound.player slot obj

/-- A slot is emptied or given a thing. -/
theorem Sound.setEquipment (sound : Sound s) (slot : Fin slotSize) (obj : Option Ref)
    (sent : List EquipPacket)
    (fits : ∀ x ∈ obj, s.objects.isLive x ∧ (slot ≠ slotWepSecondary →
      s.objects.inMyInventory s.plr x ∧ Fitting slot (s.objects.subclass x))) :
    Sound { s with objects := s.objects.setEquipment s.plr slot obj, sent := sent } := by
  refine sound.dress rfl (sameThings_setEquipment s.objects s.plr slot obj)
    (getObjectInfo_setEquipment s.objects s.plr slot obj) fun slot' x here => ?_
  rw [slots_setEquipment sound] at here
  by_cases same : slot' = slot
  · subst same
    rw [Function.update_self] at here
    exact .inr (fits x here)
  · rw [Function.update_of_ne same] at here
    exact .inl here

/-- A thing is in one shown slot at most. -/
theorem Sound.once (sound : Sound s) (visible : slot ≠ slotWepSecondary)
    (visible' : slot' ≠ slotWepSecondary) (here : s.slots slot = some x)
    (here' : s.slots slot' = some x) : slot = slot' :=
  Fin.ext ((sound.fitting slot x visible here).1.trans
    (sound.fitting slot' x visible' here').1.symm)

/-- `Dequip` finds the first slot. -/
theorem slotOf_le (first : s.objects.slotOf s.plr x = some slot) (here : s.slots slot' = some x) :
    slot ≤ slot' := by
  obtain ⟨_, before, after, split, none⟩ := List.find?_eq_some_iff_append.mp first
  have mem : slot' ∈ before ++ slot :: after := split ▸ List.mem_finRange slot'
  have increasing : (before ++ slot :: after).Pairwise (· < ·) :=
    split ▸ List.pairwise_lt_finRange slotSize
  rcases List.mem_append.mp mem with earlier | later
  · have other := none slot' earlier
    simp [slots] at here
    simp [here] at other
  · rcases List.mem_cons.mp later with rfl | later
    · exact le_rfl
    · have tail := (List.pairwise_append.mp increasing).2.1
      exact le_of_lt (List.rel_of_pairwise_cons tail later)

/-- An object that is shown is found where it is shown. -/
theorem Sound.slotOf (sound : Sound s) (visible : slot ≠ slotWepSecondary)
    (here : s.slots slot = some x) : s.objects.slotOf s.plr x = some slot := by
  cases first : s.objects.slotOf s.plr x with
  | none => exact absurd here (slotOf_eq_none first slot)
  | some slot' =>
      have there : s.slots slot' = some x := equipment_slotOf first
      have le := slotOf_le first here
      have visible' : slot' ≠ slotWepSecondary := by
        rintro rfl
        exact visible (le_antisymm (Fin.le_last slot) le)
      rw [sound.once visible' visible there here]

/-- Nothing is taken off, or the object is, out of a slot. -/
theorem dequip_cases (s : Outfit) (obj : Option Ref) :
    (s.dequip obj = s ∧ ∀ x ∈ obj, ∀ slot, s.slots slot ≠ some x) ∨
      ∃ x slot, obj = some x ∧ s.objects.slotOf s.plr x = some slot ∧ s.dequip obj =
        { s with
          objects := s.objects.setEquipment s.plr slot none
          sent := s.sent ++ [s.dequipPacket slot x] } := by
  cases obj with
  | none => exact .inl ⟨rfl, nofun⟩
  | some x =>
      cases found : s.objects.slotOf s.plr x with
      | none =>
          refine .inl ⟨by simp [dequip, found], ?_⟩
          rintro y ⟨⟩ slot
          exact slotOf_eq_none found slot
      | some slot => exact .inr ⟨x, slot, rfl, found, by simp [dequip, found]⟩

end Slots

/-! ### Taking off -/

section Dequip

variable {s s' : Outfit} {x y : Ref} {slot : Fin slotSize}

/-- What the client shows. -/
abbrev told (s : Outfit) : Set Mark := s.masks.marks

abbrev toShow (s : Outfit) : Set Mark := shown s.objects.slotMarks s.slots

theorem told_append (s : Outfit) (objects : Objects) (packet : EquipPacket) :
    ({ s with objects := objects, sent := s.sent ++ [packet] } : Outfit).told =
      (s.masks.receive s.extent packet).marks := by
  rw [told, masks, List.foldl_append]
  rfl

theorem told_dequipPacket (s : Outfit) (objects : Objects) (slot : Fin slotSize) (obj : Ref) :
    ({ s with objects := objects, sent := s.sent ++ [s.dequipPacket slot obj] } : Outfit).told =
      s.told \ s.wiped slot obj := by
  rw [told_append, dequipPacket, wiped]
  split
  · exact marks_receive_dequip ..
  · exact marks_receive_dequip ..

theorem subclass_getD (w : Objects) (obj : Ref) :
    w.subclass obj = ((w.getObjectInfo obj).getD {}).subclass := by
  unfold Objects.subclass
  cases w.getObjectInfo obj <;> rfl

/-- A piece of armour has its slot's number and is no weapon. -/
theorem Fitting.weapon_iff {subclass : UInt32} (fits : Fitting slot subclass) :
    subclass &&& subclassWeapon ≠ 0 ↔ ¬ slot ≤ slotShield := by
  obtain ⟨here, suits⟩ := fits
  rw [equipSlot] at here
  have weapon_slots : ∀ subclass, ¬ (weaponSlot subclass).val ≤ 8 := by
    intro subclass
    unfold weaponSlot
    split
    · decide
    · split <;> decide
  have armor : slot ≤ slotShield ↔ slot.val ≤ 8 := Iff.rfl
  rw [armor]
  by_cases weapon : subclass &&& subclassWeapon ≠ 0
  · rw [if_pos weapon] at here
    exact iff_of_true weapon (here ▸ weapon_slots subclass)
  · rw [if_neg weapon] at here
    exact iff_of_false weapon (not_not_intro (here ▸ suits.resolve_left weapon))

/-- What is told of a thing that is taken off has the marks it has in its slot. -/
theorem Sound.marks_wiped (sound : Sound s) (here : s.slots slot = some x) :
    s.objects.slotMarks slot x ⊆ s.wiped slot x := by
  rw [slotMarks, infoMarks, wiped, objectToUnitArmor]
  by_cases second : slot = slotWepSecondary
  · have weapon : ¬ slotWepSecondary ≤ slotShield := by decide
    rw [second, if_neg weapon, if_pos rfl]
    exact Set.empty_subset _
  · have weapon_iff := (sound.fitting slot x second here).weapon_iff
    by_cases armor : slot ≤ slotShield
    · have none : ¬ s.objects.subclass x &&& subclassWeapon ≠ 0 := fun weapon =>
        weapon_iff.mp weapon armor
      rw [if_pos armor, if_neg fun both => none both.1]
    · rw [if_neg armor, if_neg second, if_pos ⟨weapon_iff.mpr armor, second⟩, subclass_getD]

theorem dequip_sound (sound : Sound s) (obj : Option Ref) :
    Sound (s.dequip obj) ∧ SameThings s.objects (s.dequip obj).objects ∧
      (s.dequip obj).objects.getObjectInfo = s.objects.getObjectInfo ∧
      (s.dequip obj).plr = s.plr ∧ (s.dequip obj).extent = s.extent := by
  rcases dequip_cases s obj with ⟨same, _⟩ | ⟨x, slot, rfl, _, eq⟩
  · rw [same]
    exact ⟨sound, .refl _, rfl, rfl, rfl⟩
  · rw [eq]
    exact ⟨sound.setEquipment slot none _ nofun, sameThings_setEquipment _ _ _ _,
      getObjectInfo_setEquipment _ _ _ _, rfl, rfl⟩

/-- After `Dequip` the object is in no slot that is shown. -/
theorem dequip_off (sound : Sound s) {slot : Fin slotSize} (visible : slot ≠ slotWepSecondary) :
    (s.dequip x).slots slot ≠ some x := by
  rcases dequip_cases s x with ⟨same, off⟩ | ⟨y, first, ⟨⟩, found, eq⟩
  · rw [same]
    exact off x rfl slot
  · rw [eq, slots_setEquipment sound]
    intro here
    have old := Slots.filled_of_clear here
    rw [sound.slotOf visible old] at found
    cases found
    rw [Function.update_self] at here
    cases here

theorem dequip_filled (sound : Sound s) {obj : Option Ref} {slot : Fin slotSize}
    (here : (s.dequip obj).slots slot = some y) : s.slots slot = some y := by
  rcases dequip_cases s obj with ⟨same, _⟩ | ⟨x, first, rfl, _, eq⟩
  · rw [same] at here
    exact here
  · rw [eq, slots_setEquipment sound] at here
    exact Slots.filled_of_clear here

theorem slotMarks_congr {w w' : Objects} (infos : w'.getObjectInfo = w.getObjectInfo) :
    w'.slotMarks = w.slotMarks := by
  funext slot obj
  rw [slotMarks, slotMarks, infos]

/-- What is told is to be shown, besides what is to be told again. -/
theorem dequip_told (sound : Sound s) (right : s.told = s.toShow) {obj : Option Ref}
    {again : Set Mark} (apart : s.Apart obj again) :
    (s.dequip obj).told ∪ again = (s.dequip obj).toShow ∪ again := by
  rcases dequip_cases s obj with ⟨same, _⟩ | ⟨x, slot, rfl, found, eq⟩
  · rw [same, right]
  · have here : s.slots slot = some x := equipment_slotOf found
    rw [eq, told_dequipPacket, toShow, slots_setEquipment sound,
      slotMarks_congr (getObjectInfo_setEquipment _ _ _ _), right]
    exact shown_replace here (sound.marks_wiped here) (apart x rfl slot found)

/-- Nothing is told that is not to be shown. -/
theorem dequip_told_subset (sound : Sound s) (right : s.told ⊆ s.toShow) (obj : Option Ref) :
    (s.dequip obj).told ⊆ (s.dequip obj).toShow := by
  rcases dequip_cases s obj with ⟨same, _⟩ | ⟨x, slot, rfl, found, eq⟩
  · rw [same]
    exact right
  · have here : s.slots slot = some x := equipment_slotOf found
    rw [eq, told_dequipPacket, toShow, slots_setEquipment sound,
      slotMarks_congr (getObjectInfo_setEquipment _ _ _ _)]
    refine (Set.sdiff_subset_sdiff_left right).trans ?_
    rw [shown_diff here (sound.marks_wiped here)]
    exact Set.sdiff_subset

end Dequip

/-! ### Putting on -/

/-- What the client shows is what is in the slots. -/
structure Right (s : Outfit) : Prop extends Sound s where
  right : s.told = s.toShow

section Equip

variable {s : Outfit} {x : Ref} {slot : Fin slotSize}

theorem Fitting.visible {subclass : UInt32} (fits : Fitting slot subclass) :
    slot ≠ slotWepSecondary := by
  rintro rfl
  obtain ⟨here, suits⟩ := fits
  have second : slotWepSecondary.val = 12 := rfl
  rw [equipSlot, second] at here
  split at here
  · next weapon =>
      unfold weaponSlot at here
      split at here
      · cases here
      · split at here <;> cases here
  · next none =>
      have armor := suits.resolve_left none
      omega

/-- The packet that puts a fitting thing on tells the marks the thing has in the slot. -/
theorem told_equipPacket (fits : Fitting slot (s.objects.subclass x)) (objects : Objects) :
    ({ s with objects := objects, sent := s.sent ++ [s.equipPacket x] } : Outfit).told =
      s.told ∪ s.objects.slotMarks slot x := by
  rw [told_append, equipPacket, slotMarks, infoMarks]
  by_cases armor : slot ≤ slotShield
  · have none : ¬ s.objects.subclass x &&& subclassWeapon ≠ 0 := fun weapon =>
      fits.weapon_iff.mp weapon armor
    rw [if_neg none, if_pos armor, marks_receive_equip, objectToUnitArmor]
  · rw [if_pos (fits.weapon_iff.mpr armor), if_neg armor, if_neg fits.visible,
      marks_receive_equip, subclass_getD]

/-- The slot that `Equip` empties is empty. -/
theorem dequip_empties (sound : Sound s) (visible : slot ≠ slotWepSecondary) :
    (s.dequip (s.slots slot)).slots slot = none := by
  cases filled : (s.dequip (s.slots slot)).slots slot with
  | none => rfl
  | some y =>
      have old := dequip_filled sound filled
      rw [old] at filled
      exact absurd filled (dequip_off sound visible)

/-- An honest `Equip` leaves what is shown right: the bits of what it takes off are nobody else's,
or it sets them again. -/
theorem equip_right (held : Right s) {obj : Option Ref} (live : ∀ x ∈ obj, s.objects.isLive x)
    (honest : s.Honest (.equip obj)) : Right (s.equip obj) := by
  cases obj with
  | none => exact held
  | some x =>
      by_cases inside : equipSlot (s.objects.subclass x) < slotSize
      · by_cases mem : s.objects.inMyInventory s.plr x
        · let slot : Fin slotSize := ⟨equipSlot (s.objects.subclass x), inside⟩
          let bare := s.dequip (s.slots slot)
          obtain ⟨suits, apart⟩ := honest x rfl mem slot rfl
          have fits : Fitting slot (s.objects.subclass x) := ⟨rfl, suits⟩
          obtain ⟨sound, same, infos, plr, extent⟩ := dequip_sound held.toSound (s.slots slot)
          have fits' : Fitting slot (bare.objects.subclass x) := by
            rw [Objects.subclass, infos]
            exact fits
          have told := dequip_told held.toSound held.right apart
          have empty : bare.slots slot = none := dequip_empties held.toSound fits.visible
          have infos' := getObjectInfo_setEquipment bare.objects bare.plr slot (some x)
          let put : Outfit := { bare with
            objects := bare.objects.setEquipment bare.plr slot (some x) }
          have packet : put.equipPacket x = bare.equipPacket x := by
            have infos_put : put.objects.getObjectInfo = bare.objects.getObjectInfo := infos'
            unfold equipPacket Objects.subclass objectToUnitArmor
            rw [infos_put]
          have eq : s.equip (some x) = { put with sent := put.sent ++ [put.equipPacket x] } := by
            simp only [equip, equipAt, dif_pos inside, if_pos mem, if_true]
            rfl
          rw [eq, packet]
          refine ⟨sound.setEquipment slot (some x) _ ?_, ?_⟩
          · rintro y ⟨⟩
            rw [same.isLive, plr, same.inMyInventory]
            exact ⟨live x rfl, fun _ => ⟨mem, fits'⟩⟩
          · rw [told_equipPacket fits', toShow, slots_setEquipment sound, slotMarks_congr infos',
              shown_put empty, slotMarks_congr infos]
            rw [toShow, slotMarks_congr infos] at told
            exact told
        · have eq : s.equip (some x) = s := by simp [equip, equipAt, inside, mem]
          rw [eq]
          exact held
      · have eq : s.equip (some x) = s := by simp [equip, equipAt, inside]
        rw [eq]
        exact held

/-- An honest `EquipSecondary` leaves what is shown right: it shows nothing, so it is enough that
the bits of what it takes off are nobody else's. -/
theorem equipSecondary_right (held : Right s) {obj : Option Ref}
    (live : ∀ x ∈ obj, s.objects.isLive x) (honest : s.Apart obj ∅) :
    Right (s.equipSecondary obj) := by
  cases obj with
  | none => simpa [equipSecondary] using held
  | some x =>
      obtain ⟨sound, same, infos, plr, extent⟩ := dequip_sound held.toSound (some x)
      have told := dequip_told held.toSound held.right honest
      rw [Set.union_empty, Set.union_empty] at told
      have eq : s.equipSecondary (some x) = { s.dequip (some x) with
          objects := (s.dequip (some x)).objects.setEquipment (s.dequip (some x)).plr
            slotWepSecondary (some x) } := by
        simp [equipSecondary]
      rw [eq]
      refine ⟨sound.setEquipment slotWepSecondary (some x) _ ?_, ?_⟩
      · rintro y ⟨⟩
        rw [same.isLive]
        exact ⟨live x rfl, fun visible => absurd rfl visible⟩
      · have unmarked (y : Ref) :
            (s.dequip (some x)).objects.slotMarks slotWepSecondary y = ∅ := by
          have weapon : ¬ slotWepSecondary ≤ slotShield := by decide
          rw [slotMarks, infoMarks, if_neg weapon, if_pos rfl]
        rw [toShow, slots_setEquipment sound,
          slotMarks_congr (getObjectInfo_setEquipment _ _ _ _), shown_update_unmarked unmarked]
        exact told

theorem dequip_right (held : Right s) {obj : Option Ref} (honest : s.Apart obj ∅) :
    Right (s.dequip obj) := by
  have told := dequip_told held.toSound held.right honest
  rw [Set.union_empty, Set.union_empty] at told
  exact ⟨(dequip_sound held.toSound obj).1, told⟩

end Equip

/-! ### Taking out -/

section Remove

variable {s : Outfit} {x y : Ref} {slot : Fin slotSize} {pos : GridPair}

/-- Only what is in no shown slot goes out of the inventory, and the slots are as `Dequip` leaves
them. -/
theorem removeFromInventory_cases (s : Outfit) (x : Ref) (pos : GridPair) :
    (¬ s.objects.inMyInventory s.plr x ∧ s.removeFromInventory x pos = s) ∨
      (s.objects.inMyInventory s.plr x ∧ s.removeFromInventory x pos = { s.dequip (some x) with
        objects := ((s.dequip (some x)).objects.setPosition x pos).eraseInventory
          (s.dequip (some x)).plr x }) := by
  by_cases mem : s.objects.inMyInventory s.plr x
  · exact .inr ⟨mem, by simp [removeFromInventory, mem]⟩
  · exact .inl ⟨mem, by simp [removeFromInventory, mem]⟩

theorem getObjectInfo_takeOut (w : Objects) (plr x : Ref) (pos : GridPair) :
    ((w.setPosition x pos).eraseInventory plr x).getObjectInfo = w.getObjectInfo := by
  have erased : ((w.setPosition x pos).eraseInventory plr x).getObjectInfo =
      (w.setPosition x pos).getObjectInfo := modify_info fun _ => rfl
  rw [erased]
  simp

/-- An object that is taken out of the inventory is taken off first, from the first slot that has
it. -/
theorem removeFromInventory_sound (sound : Sound s) (x : Ref) (pos : GridPair) :
    Sound (s.removeFromInventory x pos) := by
  rcases removeFromInventory_cases s x pos with ⟨_, eq⟩ | ⟨_, eq⟩
  · rw [eq]
    exact sound
  · obtain ⟨bare, _⟩ := dequip_sound sound (some x)
    have slots : (s.removeFromInventory x pos).slots = (s.dequip (some x)).slots := by
      rw [eq]
      simp [Outfit.slots]
    refine ⟨?_, fun slot y here => ?_, fun slot y visible here => ?_,
      fun slot y visible here => ?_⟩
    · rw [eq]
      simpa using bare.player
    · rw [slots] at here
      rw [eq]
      simpa using bare.live slot y here
    · rw [slots] at here
      have other : y ≠ x := fun same => dequip_off sound visible (same ▸ here)
      rw [eq]
      exact inMyInventory_eraseInventory.mpr
        ⟨by simpa using bare.held slot y visible here, fun same => other same.2⟩
    · rw [slots] at here
      rw [eq, Objects.subclass, getObjectInfo_takeOut]
      exact bare.fitting slot y visible here

/-- Taking out tells what `Dequip` tells. -/
theorem removeFromInventory_told (pos : GridPair) (mem : s.objects.inMyInventory s.plr x) :
    (s.removeFromInventory x pos).told = (s.dequip (some x)).told ∧
      (s.removeFromInventory x pos).toShow = (s.dequip (some x)).toShow := by
  rcases removeFromInventory_cases s x pos with ⟨out, _⟩ | ⟨_, eq⟩
  · exact absurd mem out
  · rw [eq]
    refine ⟨rfl, ?_⟩
    rw [toShow, toShow, slotMarks_congr (getObjectInfo_takeOut _ _ _ _)]
    simp [Outfit.slots]

theorem removeFromInventory_right (held : Right s)
    (honest : s.objects.inMyInventory s.plr x → s.Apart (some x) ∅) :
    Right (s.removeFromInventory x pos) := by
  refine ⟨removeFromInventory_sound held.toSound x pos, ?_⟩
  by_cases mem : s.objects.inMyInventory s.plr x
  · obtain ⟨told, toShow⟩ := removeFromInventory_told pos mem
    rw [told, toShow]
    exact (dequip_right held (honest mem)).right
  · rcases removeFromInventory_cases s x pos with ⟨_, eq⟩ | ⟨inside, _⟩
    · rw [eq]
      exact held.right
    · exact absurd inside mem

/-- What is taken out is in no shown slot, and nothing new is. -/
theorem removeFromInventory_off (sound : Sound s) (visible : slot ≠ slotWepSecondary)
    (here : (s.removeFromInventory x pos).slots slot = some y) :
    s.slots slot = some y ∧ y ≠ x := by
  rcases removeFromInventory_cases s x pos with ⟨out, eq⟩ | ⟨_, eq⟩
  · rw [eq] at here
    refine ⟨here, ?_⟩
    rintro rfl
    exact out (sound.held slot y visible here)
  · have slots : (s.removeFromInventory x pos).slots = (s.dequip (some x)).slots := by
      rw [eq]
      simp [Outfit.slots]
    rw [slots] at here
    refine ⟨dequip_filled sound here, ?_⟩
    rintro rfl
    exact dequip_off sound visible here

/-- `DropAll` tells nothing that is not to be shown, and takes everything out of the slots that are
shown. -/
theorem foldl_remove_sound (list : List Ref) (pos : GridPair) (sound : Sound s)
    (right : s.told ⊆ s.toShow) :
    let s' := list.foldl (fun s obj => s.removeFromInventory obj pos) s
    Sound s' ∧ s'.told ⊆ s'.toShow ∧
      ∀ slot y, slot ≠ slotWepSecondary → s'.slots slot = some y →
        s.slots slot = some y ∧ y ∉ list := by
  induction list generalizing s with
  | nil => exact ⟨sound, right, fun slot y _ here => ⟨here, List.not_mem_nil⟩⟩
  | cons x rest ih =>
      have sound' := removeFromInventory_sound sound x pos
      have right' : (s.removeFromInventory x pos).told ⊆ (s.removeFromInventory x pos).toShow := by
        by_cases mem : s.objects.inMyInventory s.plr x
        · obtain ⟨told, toShow⟩ := removeFromInventory_told pos mem
          rw [told, toShow]
          exact dequip_told_subset sound right (some x)
        · rcases removeFromInventory_cases s x pos with ⟨_, eq⟩ | ⟨inside, _⟩
          · rw [eq]
            exact right
          · exact absurd inside mem
      obtain ⟨sound'', right'', off⟩ := ih sound' right'
      refine ⟨sound'', right'', fun slot y visible here => ?_⟩
      obtain ⟨old, later⟩ := off slot y visible here
      obtain ⟨before, other⟩ := removeFromInventory_off sound visible old
      refine ⟨before, fun mem => ?_⟩
      rcases List.mem_cons.mp mem with same | mem
      · exact other same
      · exact later mem

/-- What a player is besides its slots does not matter. -/
theorem Sound.modifyPlayer (sound : Sound s) (change : Player → Player)
    (same : ∀ p, (change p).equipment = p.equipment) :
    Sound { s with objects := s.objects.modifyPlayer s.plr change } ∧
      ({ s with objects := s.objects.modifyPlayer s.plr change } : Outfit).slots = s.slots ∧
      (s.objects.modifyPlayer s.plr change).getObjectInfo = s.objects.getObjectInfo := by
  have equipment : (s.objects.modifyPlayer s.plr change).equipment = s.objects.equipment :=
    modify_equipment fun obj _ => by cases obj.player <;> simp [same]
  have slots : ({ s with objects := s.objects.modifyPlayer s.plr change } : Outfit).slots =
      s.slots := by simp [Outfit.slots, equipment]
  have infos : (s.objects.modifyPlayer s.plr change).getObjectInfo = s.objects.getObjectInfo :=
    modify_info fun _ => rfl
  refine ⟨?_, slots, infos⟩
  exact sound.dress rfl (sameThings_modifyPlayer _ _ _) infos fun slot x here => .inl (slots ▸ here)

/-- A dead player shows nothing, and has nothing to show. -/
theorem die_right (held : Right s) : Right s.die := by
  obtain ⟨sound, right, off⟩ := foldl_remove_sound (s.objects.inventoryList s.plr)
    (s.objects.getPosition s.plr) held.toSound held.right.subset
  obtain ⟨sound', slots, infos⟩ := sound.modifyPlayer (fun p => { p with health := 0 })
    fun _ => rfl
  have nothing : shown ((s.objects.inventoryList s.plr).foldl
      (fun s' obj => s'.removeFromInventory obj (s.objects.getPosition s.plr)) s).objects.slotMarks
      ((s.objects.inventoryList s.plr).foldl
      (fun s' obj => s'.removeFromInventory obj (s.objects.getPosition s.plr)) s).slots = ∅ := by
    refine shown_eq_empty fun slot y here => ?_
    by_cases visible : slot = slotWepSecondary
    · have weapon : ¬ slotWepSecondary ≤ slotShield := by decide
      rw [visible, slotMarks, infoMarks, if_neg weapon, if_pos rfl]
    · obtain ⟨old, out⟩ := off slot y visible here
      exact absurd (mem_inventoryList.mpr (held.held slot y visible old)) out
  refine ⟨sound', ?_⟩
  have none := Set.subset_empty_iff.mp (right.trans nothing.subset)
  have shown_none : s.die.toShow = ∅ := by
    rw [toShow]
    change shown (Objects.slotMarks (Objects.modifyPlayer _ _ _)) _ = _
    rw [slotMarks_congr infos]
    exact (congrArg _ slots).trans nothing
  exact none.trans shown_none.symm

end Remove

/-! ### Picking up -/

section Pickup

variable {s s' : Outfit} {x : Ref} {slot : Fin slotSize} {taken : Bool}

/-- What matters of two players is the same. -/
theorem Apart.congr {again : Set Mark} {obj : Option Ref} (apart : s.Apart obj again)
    (equipment : s'.objects.equipment = s.objects.equipment) (plr : s'.plr = s.plr)
    (infos : s'.objects.getObjectInfo = s.objects.getObjectInfo) : s'.Apart obj again := by
  intro x mem slot found
  rw [slotOf, equipment, plr] at found
  have wiped : s'.wiped slot x = s.wiped slot x := by
    unfold Outfit.wiped Objects.subclass objectToUnitArmor
    rw [infos]
  have slots : s'.slots = s.slots := by rw [Outfit.slots, Outfit.slots, equipment, plr]
  rw [wiped, slots, slotMarks_congr infos]
  exact apart x mem slot found

/-- A state in which only objects differ that are in no slot. -/
theorem Right.same (held : Right s) (sound : Sound s') (slots : s'.slots = s.slots)
    (infos : ∀ slot x, s.slots slot = some x →
      s'.objects.getObjectInfo x = s.objects.getObjectInfo x)
    (told : s'.told = s.told) : Right s' := by
  refine ⟨sound, ?_⟩
  rw [told, held.right, toShow, toShow, slots]
  refine (shown_congr fun slot x here => ?_).symm
  rw [slotMarks, slotMarks, infos slot x here]

theorem cure_sound (sound : Sound s) :
    Sound s.cure ∧ s.cure.slots = s.slots ∧
      s.cure.objects.getObjectInfo = s.objects.getObjectInfo :=
  sound.modifyPlayer (fun p => { p with poisoned := false }) fun _ => rfl

theorem cure_right (held : Right s) : Right s.cure := by
  obtain ⟨sound, slots, infos⟩ := cure_sound held.toSound
  exact held.same sound slots (fun _ _ _ => by rw [infos]) rfl

theorem consume_sound (sound : Sound s) (x : Ref) : Sound (s.consume x) := by
  have out := removeFromInventory_sound sound x inventoryPosition
  exact ⟨out.player, out.live, out.held, out.fitting⟩

theorem consume_right (held : Right s)
    (honest : s.objects.inMyInventory s.plr x → s.Apart (some x) ∅) : Right (s.consume x) := by
  have out : Right (s.removeFromInventory x inventoryPosition) :=
    removeFromInventory_right held honest
  exact out.same (consume_sound held.toSound x) rfl (fun _ _ _ => rfl) rfl

/-- What is used is consumed, after a cure at most, or nothing happens. -/
theorem use_cases (s : Outfit) (x : Ref) :
    s.use x = s ∨ (s.objects.usedUp s.plr x ∧
      (s.use x = s.consume x ∨ s.use x = s.cure.consume x)) := by
  unfold use usedUp
  cases (s.objects.getObjectInfo x).bind (·.use) with
  | none => exact .inl rfl
  | some handler =>
      cases handler with
      | consume => exact .inr ⟨rfl, .inl rfl⟩
      | consumeConfuse => exact .inr ⟨rfl, .inl rfl⟩
      | mushroom => exact .inr ⟨rfl, .inr rfl⟩
      | potion =>
          dsimp only
          unfold potionUse
          dsimp only
          split
          · split
            · next none => exact .inr ⟨decide_eq_true none, .inl rfl⟩
            · exact .inl rfl
          · split
            · exact .inr ⟨rfl, .inl rfl⟩
            · split
              · split
                · next poisoned => exact .inr ⟨poisoned, .inr rfl⟩
                · exact .inl rfl
              · exact .inr ⟨rfl, .inl rfl⟩

theorem use_right (held : Right s) (honest : s.objects.usedUp s.plr x → s.Apart (some x) ∅) :
    Right (s.use x) := by
  rcases use_cases s x with same | ⟨up, eq | eq⟩
  · rw [same]
    exact held
  · rw [eq]
    exact consume_right held fun _ => honest up
  · obtain ⟨_, _, infos⟩ := cure_sound held.toSound
    have equipment : s.cure.objects.equipment = s.objects.equipment :=
      modify_equipment fun obj _ => by cases obj.player <;> rfl
    rw [eq]
    exact consume_right (cure_right held) fun _ => (honest up).congr equipment rfl infos

/-- Where what is put into an empty slot is told with the marks it has there. -/
theorem putOn_right (held : Right s) (empty : s.slots slot = none) {armor : Bool}
    {mask : BitVec 32} (live : s.objects.isLive x) (mem : s.objects.inMyInventory s.plr x)
    (fits : Fitting slot (s.objects.subclass x))
    (marks : kindMarks armor mask = s.objects.slotMarks slot x) :
    Right (s.putOn slot x armor mask) := by
  refine ⟨held.toSound.setEquipment slot (some x) _ ?_, ?_⟩
  · rintro y ⟨⟩
    exact ⟨live, fun _ => ⟨mem, fits⟩⟩
  · rw [putOn, told_append, marks_receive_equip, marks, toShow, slots_setEquipment held.toSound,
      slotMarks_congr (getObjectInfo_setEquipment _ _ _ _), shown_put empty]
    exact congrArg (· ∪ _) held.right

/-- What is picked up stays as it is, or is used, or is put into the slot for it. -/
theorem handlePickup_cases {info : ObjectInfo} (is : s.objects.getObjectInfo x = some info)
    (done : s.handlePickup x = .ok (s', taken)) :
    s' = s ∨ (usedAtOnce (s.objects.player s.plr) info ∧ s' = s.use x ∧ taken = false) ∨
      ∃ slot : Fin slotSize, pickupSlot info = some slot.val ∧ s.slots slot = none ∧ taken = true ∧
        ((s' = s.putOn slot x true (unitArmor info) ∧ slot.val = info.subclass.toNat) ∨
          (s' = s.putOn slot x false (weaponBit info.subclass) ∧
            slot = weaponSlot info.subclass)) := by
  have subclass : s.objects.subclass x = info.subclass := by simp [Objects.subclass, is]
  have armor : s.objects.objectToUnitArmor x = unitArmor info := by simp [objectToUnitArmor, is]
  unfold handlePickup at done
  rw [is, Option.bind_some] at done
  split at done
  · next food =>
      unfold foodPickup at done
      rw [is, subclass] at done
      dsimp only [Option.map_some, Option.getD_some] at done
      split at done
      · next hurt =>
          cases done
          exact .inr (.inl ⟨by simp [usedAtOnce, food, hurt], rfl, rfl⟩)
      · split at done
        · next poisoned =>
            cases done
            exact .inr (.inl ⟨by simp [usedAtOnce, food, poisoned], rfl, rfl⟩)
        · cases done
          exact .inl rfl
  · next is_armor =>
      unfold armorPickup at done
      split at done
      · dsimp only at done
        split at done
        · cases done
          exact .inl rfl
        · next inside empty =>
            cases done
            have free : s.slots ⟨(s.objects.subclass x).toNat, inside⟩ = none := by
              simpa [slots] using empty
            refine .inr (.inr ⟨⟨(s.objects.subclass x).toNat, inside⟩, ?_, free, rfl,
              .inl ⟨by rw [armor], congrArg UInt32.toNat subclass⟩⟩)
            simp [pickupSlot, is_armor, subclass]
      · cases done
  · next is_weapon =>
      unfold weaponPickup at done
      dsimp only at done
      split at done
      · cases done
        exact .inl rfl
      · next empty =>
          cases done
          have free : s.slots (weaponSlot (s.objects.subclass x)) = none := by
            simpa [slots] using empty
          refine .inr (.inr ⟨weaponSlot (s.objects.subclass x), ?_, free, rfl,
            .inr ⟨by rw [subclass], by rw [subclass]⟩⟩)
          simp [pickupSlot, is_weapon, subclass]
  · cases done
    exact .inl rfl

/-- What has the bit of a weapon has a subclass past the slots. -/
theorem weapon_le {subclass : UInt32} (weapon : subclass &&& subclassWeapon ≠ 0) :
    32 ≤ subclass.toNat := by
  by_contra small
  have bit : subclass.toNat &&& 2 ^ 5 = 0 := by
    rw [Nat.and_two_pow, Nat.testBit_lt_two_pow (by omega : subclass.toNat < 2 ^ 5)]
    rfl
  exact weapon (UInt32.toNat_inj.mp (by rw [UInt32.toNat_and]; exact bit))

/-- The slot of a weapon is no slot of armour, and it is shown. -/
theorem weaponSlot_shown (subclass : UInt32) :
    ¬ weaponSlot subclass ≤ slotShield ∧ weaponSlot subclass ≠ slotWepSecondary := by
  unfold weaponSlot
  split
  · decide
  · split <;> decide

/-- What is put in is in no slot yet. -/
theorem putIn_sound (sound : Sound s) (x : Ref) :
    let w := (s.objects.setPosition x inventoryPosition).insertInventory s.plr x
    Sound { s with objects := w } ∧ ({ s with objects := w } : Outfit).slots = s.slots ∧
      w.getObjectInfo = s.objects.getObjectInfo ∧ w.equipment = s.objects.equipment ∧
      w.inMyInventory s.plr x := by
  intro w
  have live : (s.objects.setPosition x inventoryPosition).isLive s.plr := by
    simpa using isLive_of_isPlayer sound.player
  have infos : w.getObjectInfo = s.objects.getObjectInfo := by simp [w]
  have equipment : w.equipment = s.objects.equipment := by simp [w]
  have slots : ({ s with objects := w } : Outfit).slots = s.slots := by
    simp [Outfit.slots, equipment]
  refine ⟨⟨?_, fun slot y here => ?_, fun slot y visible here => ?_, fun slot y visible here => ?_⟩,
    slots, infos, equipment, ?_⟩
  · simpa [w] using sound.player
  · simpa [w] using sound.live slot y (slots ▸ here)
  · refine (inMyInventory_insertInventory live).mpr (.inl ?_)
    simpa using sound.held slot y visible (slots ▸ here)
  · have fits := sound.fitting slot y visible (slots ▸ here)
    rwa [Objects.subclass, infos]
  · exact (inMyInventory_insertInventory live).mpr (.inr ⟨rfl, rfl⟩)

/-- A pickup is refused, or the handler of what is put in is asked. -/
theorem pickup_cases {maxDist : UInt32}
    (done : s.pickup (some x) maxDist = .ok (s', taken)) :
    (s.objects.Refused s.plr x maxDist ∧ s' = s ∧ taken = false) ∨
      (¬ s.objects.Refused s.plr x maxDist ∧
        ({ s with objects :=
          (s.objects.setPosition x inventoryPosition).insertInventory s.plr x } :
            Outfit).handlePickup x = .ok (s', taken)) := by
  by_cases marked : s.objects.inAnInventory x
  · refine .inl ⟨.inl marked, ?_⟩
    have same : s.pickup (some x) maxDist = .ok (s, false) := by
      simp [pickup, objectPickup, marked]
    rw [same] at done
    cases done
    exact ⟨rfl, rfl⟩
  · by_cases far : maxDist ≠ 0 ∧
        (s.objects.getPosition s.plr).distance (s.objects.getPosition x) > maxDist
    · refine .inl ⟨.inr far, ?_⟩
      have same : s.pickup (some x) maxDist = .ok (s, false) := by
        simp [pickup, objectPickup, marked, far]
      rw [same] at done
      cases done
      exact ⟨rfl, rfl⟩
    · refine .inr ⟨fun refused => refused.elim marked far, ?_⟩
      have asked : s.pickup (some x) maxDist = ({ s with objects :=
          (s.objects.setPosition x inventoryPosition).insertInventory s.plr x } :
            Outfit).handlePickup x := by
        simp [pickup, objectPickup, addToInventory, marked, far]
      rw [asked] at done
      exact done

/-- An honest pickup that returns leaves what is shown right, whether it is refused, the handler
leaves the object in the inventory, puts it on, or uses it at once. -/
theorem pickup_right (held : Right s) {obj : Option Ref} {maxDist : UInt32}
    (live : ∀ x ∈ obj, s.objects.isLive x) (honest : s.Honest (.pickup obj maxDist))
    (done : s.pickup obj maxDist = .ok (s', taken)) : Right s' := by
  cases obj with
  | none =>
      cases done
      exact held
  | some x =>
      rcases pickup_cases done with ⟨_, rfl, _⟩ | ⟨free, asked⟩
      · exact held
      · obtain ⟨info, is⟩ : ∃ info, s.objects.getObjectInfo x = some info := by
          obtain ⟨o, found⟩ := Option.isSome_iff_exists.mp (live x rfl)
          exact ⟨o.info, by simp [getObjectInfo, found]⟩
        obtain ⟨fits, apart⟩ := honest x rfl info is free
        obtain ⟨sound, slots, infos, equipment, mem⟩ := putIn_sound held.toSound x
        have inside := held.same sound slots (fun _ _ _ => by rw [infos]) rfl
        have live' : ((s.objects.setPosition x inventoryPosition).insertInventory s.plr x).isLive
            x := by simpa using live x rfl
        have is' := is
        rw [← infos] at is'
        rcases handlePickup_cases is' asked with same | ⟨used, eq, _⟩ | ⟨slot, into, empty, _, put⟩
        · rw [same]
          exact inside
        · rw [eq]
          refine use_right inside fun up => ?_
          rw [player_putIn] at used
          rw [usedUp_putIn] at up
          exact (apart used up).congr equipment rfl infos
        · rw [slots] at empty
          have fit := fits slot into empty
          have subclass : Objects.subclass
              ((s.objects.setPosition x inventoryPosition).insertInventory s.plr x) x =
                info.subclass := by simp [Objects.subclass, is']
          have marks_of : Objects.slotMarks
              ((s.objects.setPosition x inventoryPosition).insertInventory s.plr x) slot x =
                infoMarks slot info := by rw [slotMarks, is', Option.getD_some]
          rw [← subclass] at fit
          rw [← slots] at empty
          rcases put with ⟨eq, number⟩ | ⟨eq, is_weapon⟩
          · rw [eq]
            refine putOn_right inside empty live' mem fit ?_
            rw [marks_of, infoMarks]
            have armor : slot ≤ slotShield := by
              by_contra weapon
              have past := weapon_le (fit.weapon_iff.mpr weapon)
              rw [subclass, ← number] at past
              exact absurd slot.isLt (Nat.not_lt.mpr ((by decide : slotSize ≤ 32).trans past))
            rw [if_pos armor]
          · rw [eq]
            refine putOn_right inside empty live' mem fit ?_
            obtain ⟨weapon, first⟩ := weaponSlot_shown info.subclass
            rw [marks_of, infoMarks, is_weapon, if_neg weapon, if_neg first]

end Pickup

/-! ### Respawns -/

/-- The slots are as they were, and so are the objects that are there and what they are. -/
structure Leaves (s s' : Outfit) : Prop where
  plr : s'.plr = s.plr
  slots : s'.slots = s.slots
  infos : s'.objects.getObjectInfo = s.objects.getObjectInfo
  isLive : s'.objects.isLive = s.objects.isLive

/-- Nothing that is in the slots is to be shown. -/
def Blank (s : Outfit) : Prop := ∀ slot, ∀ x ∈ s.slots slot, s.objects.slotMarks slot x = ∅

section Respawn

variable {s s' s'' : Outfit} {x : Ref}

theorem Leaves.refl (s : Outfit) : Leaves s s := ⟨rfl, rfl, rfl, rfl⟩

theorem Leaves.trans (first : Leaves s s') (second : Leaves s' s'') : Leaves s s'' :=
  ⟨second.plr.trans first.plr, second.slots.trans first.slots, second.infos.trans first.infos,
    second.isLive.trans first.isLive⟩

/-- Taking out an object that is in no slot leaves the slots. -/
theorem removeFromInventory_leaves (off : ∀ slot, s.slots slot ≠ some x) (pos : GridPair) :
    Leaves s (s.removeFromInventory x pos) := by
  rcases removeFromInventory_cases s x pos with ⟨_, eq⟩ | ⟨_, eq⟩
  · rw [eq]
    exact .refl s
  · have bare : s.dequip (some x) = s := by
      rcases dequip_cases s (some x) with ⟨same, _⟩ | ⟨y, slot, ⟨⟩, found, _⟩
      · exact same
      · exact absurd (equipment_slotOf found) (off slot)
    rw [eq, bare]
    exact ⟨rfl, by simp [Outfit.slots], getObjectInfo_takeOut _ _ _ _, by simp⟩

theorem consume_leaves (off : ∀ slot, s.slots slot ≠ some x) : Leaves s (s.consume x) := by
  obtain ⟨plr, slots, infos, isLive⟩ := removeFromInventory_leaves off inventoryPosition
  exact ⟨plr, slots, infos, isLive⟩

theorem modifyPlayer_leaves (sound : Sound s) (change : Player → Player)
    (same : ∀ p, (change p).equipment = p.equipment) :
    Leaves s { s with objects := s.objects.modifyPlayer s.plr change } := by
  obtain ⟨_, slots, infos⟩ := sound.modifyPlayer change same
  exact ⟨rfl, slots, infos, (sameThings_modifyPlayer _ _ _).isLive⟩

theorem use_leaves (sound : Sound s) (off : ∀ slot, s.slots slot ≠ some x) :
    Sound (s.use x) ∧ Leaves s (s.use x) := by
  rcases use_cases s x with same | ⟨_, eq | eq⟩
  · rw [same]
    exact ⟨sound, .refl s⟩
  · rw [eq]
    exact ⟨consume_sound sound x, consume_leaves off⟩
  · have cured : Leaves s s.cure :=
      modifyPlayer_leaves sound (fun p => { p with poisoned := false }) fun _ => rfl
    rw [eq]
    refine ⟨consume_sound (cure_sound sound).1 x, cured.trans (consume_leaves fun slot => ?_)⟩
    rw [cured.slots]
    exact off slot

theorem Blank.leaves (blank : Blank s) (leaves : Leaves s s') : Blank s' := by
  intro slot x here
  rw [leaves.slots] at here
  rw [slotMarks_congr leaves.infos]
  exact blank slot x here

/-- An object that is in no slot comes or goes. -/
theorem Sound.others (sound : Sound s) {w : Objects} (off : ∀ slot, s.slots slot ≠ some x)
    (other : s.plr ≠ x) (same : ∀ y, y ≠ x → w.heap y = s.objects.heap y) :
    Sound { s with objects := w } ∧ ({ s with objects := w } : Outfit).slots = s.slots ∧
      ∀ slot y, s.slots slot = some y → w.getObjectInfo y = s.objects.getObjectInfo y := by
  have heap := same s.plr other
  have slots : ({ s with objects := w } : Outfit).slots = s.slots := by
    funext slot
    simp [Outfit.slots, equipment, heap]
  have worn (slot : Fin slotSize) (y : Ref) (here : s.slots slot = some y) :
      w.heap y = s.objects.heap y :=
    same y fun is => off slot (is ▸ here)
  refine ⟨⟨?_, fun slot y here => ?_, fun slot y visible here => ?_, fun slot y visible here => ?_⟩,
    slots, fun slot y here => by rw [getObjectInfo, worn slot y here, getObjectInfo]⟩
  · rw [isPlayer, heap]
    exact sound.player
  · rw [slots] at here
    rw [isLive, worn slot y here]
    exact sound.live slot y here
  · rw [slots] at here
    rw [inMyInventory, heap]
    exact sound.held slot y visible here
  · rw [slots] at here
    rw [Objects.subclass, getObjectInfo, worn slot y here]
    exact sound.fitting slot y visible here

theorem Blank.others (blank : Blank s) {w : Objects}
    (slots : ({ s with objects := w } : Outfit).slots = s.slots)
    (infos : ∀ slot y, s.slots slot = some y → w.getObjectInfo y = s.objects.getObjectInfo y) :
    Blank { s with objects := w } := by
  intro slot y here
  rw [slots] at here
  rw [slotMarks, infos slot y here]
  exact blank slot y here

theorem weaponBit_marks (subclass : UInt32) : (kindMarks false (weaponBit subclass)).Nonempty := by
  refine ⟨(false, (subclass &&& 0x1F).toNat), rfl, ?_⟩
  have small : subclass.toNat &&& 31 < 32 := Nat.lt_of_le_of_lt Nat.and_le_right (by decide)
  simp [bits, weaponBit, small]

/-- A new thing that is put on and not to be shown is armour, or a second weapon. -/
theorem Fitting.of_unmarked {slot : Fin slotSize} {info : ObjectInfo}
    (unmarked : infoMarks slot info = ∅) (visible : slot ≠ slotWepSecondary)
    (into : slot.val = info.subclass.toNat ∨ slot = weaponSlot info.subclass) :
    Fitting slot info.subclass := by
  have armor : slot ≤ slotShield := by
    by_contra weapon
    rw [infoMarks, if_neg weapon, if_neg visible] at unmarked
    exact (weaponBit_marks info.subclass).ne_empty unmarked
  rcases into with number | is_weapon
  · have small : info.subclass.toNat ≤ 8 := number ▸ armor
    have none : ¬ info.subclass &&& subclassWeapon ≠ 0 := fun weapon => by
      have := weapon_le weapon
      omega
    exact ⟨by rw [equipSlot, if_neg none, number], .inr small⟩
  · exact absurd (is_weapon ▸ armor) (weaponSlot_shown info.subclass).1

/-- A thing that would not be shown is put on, or used, or kept. -/
theorem handlePickup_blank {info : ObjectInfo} {taken : Bool} (sound : Sound s) (blank : Blank s)
    (is : s.objects.getObjectInfo x = some info) (live : s.objects.isLive x)
    (mem : s.objects.inMyInventory s.plr x) (off : ∀ slot, s.slots slot ≠ some x)
    (unmarked : ∀ slot : Fin slotSize, pickupSlot info = some slot.val → s.slots slot = none →
      infoMarks slot info = ∅)
    (done : s.handlePickup x = .ok (s', taken)) :
    Sound s' ∧ Blank s' ∧ s'.plr = s.plr ∧
      (∀ slot, s'.slots slot = none → s.slots slot = none) ∧
      s'.objects.isLive = s.objects.isLive ∧
      (taken = false → ∀ slot, s'.slots slot ≠ some x) := by
  rcases handlePickup_cases is done with rfl | ⟨_, rfl, _⟩ | ⟨slot, into, empty, rfl, put⟩
  · exact ⟨sound, blank, rfl, fun _ => id, rfl, fun _ => off⟩
  · obtain ⟨used, leaves⟩ := use_leaves sound off
    exact ⟨used, blank.leaves leaves, leaves.plr, fun slot here => leaves.slots ▸ here,
      leaves.isLive, fun _ slot here => off slot (leaves.slots ▸ here)⟩
  · have none := unmarked slot into empty
    have subclass : s.objects.subclass x = info.subclass := by simp [Objects.subclass, is]
    have into : slot.val = info.subclass.toNat ∨ slot = weaponSlot info.subclass :=
      put.imp And.right And.right
    obtain ⟨armor, mask, rfl⟩ : ∃ armor mask, s' = s.putOn slot x armor mask := by
      rcases put with ⟨eq, _⟩ | ⟨eq, _⟩
      · exact ⟨_, _, eq⟩
      · exact ⟨_, _, eq⟩
    have filled : (s.putOn slot x armor mask).slots = Function.update s.slots slot (some x) :=
      slots_setEquipment sound slot (some x) _
    have infos : (s.putOn slot x armor mask).objects.getObjectInfo = s.objects.getObjectInfo :=
      getObjectInfo_setEquipment _ _ _ _
    refine ⟨sound.setEquipment slot (some x) _ ?_, fun slot' y here => ?_, rfl,
      fun slot' here => ?_, (sameThings_setEquipment _ _ _ _).isLive, fun left => by cases left⟩
    · rintro y ⟨⟩
      refine ⟨live, fun visible => ⟨mem, ?_⟩⟩
      rw [subclass]
      exact .of_unmarked none visible into
    · rw [filled] at here
      rw [slotMarks_congr infos]
      by_cases same : slot' = slot
      · subst same
        rw [Function.update_self] at here
        cases here
        rw [slotMarks, is, Option.getD_some]
        exact none
      · rw [Function.update_of_ne same] at here
        exact blank slot' y here
    · rw [filled] at here
      by_cases same : slot' = slot
      · rw [same, Function.update_self] at here
        cases here
      · rwa [Function.update_of_ne same] at here

/-- A new thing that would not be shown leaves a player with nothing that is. -/
theorem newPickup_blank {info : ObjectInfo} (sound : Sound s) (blank : Blank s)
    (new : ¬ s.objects.isLive x)
    (unmarked : ∀ slot : Fin slotSize, pickupSlot info = some slot.val → s.slots slot = none →
      infoMarks slot info = ∅)
    (done : s.newPickup x info = .ok s') :
    Sound s' ∧ Blank s' ∧ s'.plr = s.plr ∧
      (∀ slot, s'.slots slot = none → s.slots slot = none) ∧
      ∀ r, s'.objects.isLive r → s.objects.isLive r ∨ r = x := by
  let created : Outfit := { s with
    objects := s.objects.new x { info := info, position := ⟨1, 1⟩ } }
  let put : Outfit := { created with
    objects := (created.objects.setPosition x inventoryPosition).insertInventory s.plr x }
  have other : s.plr ≠ x := fun same => new (same ▸ isLive_of_isPlayer sound.player)
  have off (slot : Fin slotSize) : s.slots slot ≠ some x := fun here =>
    new (sound.live slot x here)
  have live (r : Ref) : created.objects.isLive r ↔ r = x ∨ s.objects.isLive r := isLive_new _
  obtain ⟨sound₀, slots₀, infos₀⟩ := sound.others (w := created.objects) off other
    fun y apart => by simp [created, Objects.new, apart]
  obtain ⟨sound₁, slots₁, infos₁, _, mem⟩ := putIn_sound sound₀ x
  have live₁ : put.objects.isLive = created.objects.isLive := by simp [put]
  have blank₁ : Blank put :=
    (blank.others slots₀ infos₀).leaves ⟨rfl, slots₁, infos₁, live₁⟩
  have slots : put.slots = s.slots := slots₁.trans slots₀
  have free : ¬ created.objects.Refused s.plr x 0 := by
    rintro (marked | ⟨far, -⟩)
    · rw [inAnInventory, new_any, if_pos rfl] at marked
      have apart : (⟨1, 1⟩ : GridPair) ≠ inventoryPosition := by decide
      exact apart (of_decide_eq_true marked)
    · exact far rfl
  have is : put.objects.getObjectInfo x = some info := by simp [put, created]
  obtain ⟨⟨s₂, taken⟩, picked, done⟩ := bind_eq_ok.mp done
  have asked : put.handlePickup x = .ok (s₂, taken) := by
    rcases pickup_cases picked with ⟨refused, _⟩ | ⟨_, asked⟩
    · exact absurd refused free
    · exact asked
  obtain ⟨sound₂, blank₂, plr₂, fewer, live₂, out⟩ := handlePickup_blank sound₁ blank₁ is
    (by rw [live₁]; exact (live x).mpr (.inl rfl)) mem (fun slot => slots ▸ off slot)
    (fun slot into empty => unmarked slot into (slots ▸ empty)) asked
  cases taken with
  | true =>
      cases done
      refine ⟨sound₂, blank₂, plr₂, fun slot here => slots ▸ fewer slot here, fun r there => ?_⟩
      rw [live₂] at there
      exact ((live r).mp (live₁ ▸ there)).symm
  | false =>
      cases done
      have leaves := removeFromInventory_leaves (out rfl) ⟨0, 0⟩
      have sound₃ := removeFromInventory_sound sound₂ x ⟨0, 0⟩
      obtain ⟨sound₄, slots₄, infos₄⟩ := sound₃.others
        (w := (s₂.removeFromInventory x ⟨0, 0⟩).objects.delete x)
        (fun slot => leaves.slots ▸ out rfl slot)
        (by rw [leaves.plr, plr₂]; exact other) fun y apart => by simp [delete, apart]
      refine ⟨sound₄, (blank₂.leaves leaves).others slots₄ infos₄, leaves.plr.trans plr₂,
        fun slot here => ?_, fun r there => ?_⟩
      · rw [slots₄, leaves.slots] at here
        exact slots ▸ fewer slot here
      · have there : ((s₂.removeFromInventory x ⟨0, 0⟩).objects.delete x).isLive r := there
        by_cases same : r = x
        · exact .inr same
        · have before : (s₂.removeFromInventory x ⟨0, 0⟩).objects.isLive r := by
            simpa [isLive, delete, same] using there
          rw [leaves.isLive, live₂] at before
          exact ((live r).mp (live₁ ▸ before)).symm

/-- A class starts with things that would not be shown. -/
theorem startWith_blank {items : List (Ref × ObjectInfo)} (sound : Sound s) (blank : Blank s)
    (nodup : (items.map Prod.fst).Nodup) (new : ∀ item ∈ items, ¬ s.objects.isLive item.1)
    (unmarked : ∀ item ∈ items, ∀ slot : Fin slotSize, pickupSlot item.2 = some slot.val →
      s.slots slot = none → infoMarks slot item.2 = ∅)
    (done : s.startWith items = .ok s') : Sound s' ∧ Blank s' := by
  induction items generalizing s with
  | nil =>
      cases done
      exact ⟨sound, blank⟩
  | cons item rest ih =>
      obtain ⟨s₁, picked, done⟩ := bind_eq_ok.mp done
      obtain ⟨once, nodup⟩ := List.nodup_cons.mp nodup
      obtain ⟨sound₁, blank₁, plr₁, fewer, live₁⟩ := newPickup_blank sound blank
        (new item List.mem_cons_self) (unmarked item List.mem_cons_self) picked
      refine ih sound₁ blank₁ nodup (fun later mem there => ?_)
        (fun later mem slot into empty =>
          unmarked later (List.mem_cons_of_mem _ mem) slot into (fewer slot empty)) done
      rcases live₁ later.1 there with old | same
      · exact new later (List.mem_cons_of_mem _ mem) old
      · exact once (same ▸ List.mem_map_of_mem mem)

/-- After the packets of `Respawn` nothing is shown. -/
theorem told_blank (s : Outfit) :
    ({ s with sent := s.sent ++ [buildDequipPacket s.extent true 0xFFFFFFFF,
      buildDequipPacket s.extent false 0xFFFFFFFF] } : Outfit).told = ∅ := by
  have all {k : Nat} {mask : BitVec 32} (mem : k ∈ bits mask) :
      k ∈ bits (0xFFFFFFFF : BitVec 32) := by
    have inside : k < 32 := BitVec.lt_of_getLsbD mem
    have ones : (0xFFFFFFFF : BitVec 32) = BitVec.allOnes 32 := by decide
    change (0xFFFFFFFF : BitVec 32).getLsbD k = true
    rw [ones, BitVec.getLsbD_allOnes]
    exact decide_eq_true inside
  rw [told, masks, List.foldl_append]
  change Masks.marks (Masks.receive s.extent (Masks.receive s.extent _ _) _) = ∅
  rw [marks_receive_dequip, marks_receive_dequip]
  refine Set.eq_empty_of_forall_notMem fun m => ?_
  rintro ⟨⟨armor | weapon, off⟩, off'⟩
  · exact off ⟨armor.1, all armor.2⟩
  · exact off' ⟨weapon.1, all weapon.2⟩

theorem map_fst_zip_prefix {α β : Type} (as : List α) (bs : List β) :
    (as.zip bs).map Prod.fst <+: as := by
  induction as generalizing bs with
  | nil => exact List.nil_prefix
  | cons a as ih =>
      cases bs with
      | nil => exact List.nil_prefix
      | cons b bs => exact List.prefix_cons_inj a |>.mpr (ih bs)

/-- An honest respawn leaves what is shown right: the items of the class are put on one after the
other, each into a slot that is empty or that it clears. -/
theorem respawn_right (held : Right s) {pclass : Option PlayerClass}
    {things : String → Option ObjectInfo} {refs : List Ref} {health mana : Int}
    (enabled : s.Enabled (.respawn pclass things refs health mana))
    (honest : s.Honest (.respawn pclass things refs health mana))
    (done : s.respawn pclass things refs health mana = .ok s') : Right s' := by
  obtain ⟨_, nodup, new⟩ := enabled
  obtain ⟨_, blank, unmarked⟩ := honest
  have blank : Blank s := blank
  let revive (p : Player) : Player := { p with health := health }
  let refill (p : Player) : Player := { p with maxMana := mana, maxHealth := p.health }
  have sound₀ := (held.toSound.modifyPlayer revive fun _ => rfl).1
  have leaves₀ := modifyPlayer_leaves held.toSound revive fun _ => rfl
  obtain ⟨s₁, started, done⟩ := bind_eq_ok.mp done
  have firsts : (refs.zip ((startNames pclass).filterMap things)).map Prod.fst <+: refs :=
    map_fst_zip_prefix _ _
  obtain ⟨sound₁, blank₁⟩ := startWith_blank sound₀ (blank.leaves leaves₀)
    (nodup.sublist firsts.sublist)
    (fun item mem => by
      rw [leaves₀.isLive]
      exact new item.1 (firsts.subset (List.mem_map_of_mem mem)))
    (fun item mem slot into empty =>
      unmarked item.2 (List.of_mem_zip mem).2 slot into (leaves₀.slots ▸ empty)) started
  have sound₂ := (sound₁.modifyPlayer refill fun _ => rfl).1
  have leaves₂ := modifyPlayer_leaves sound₁ refill fun _ => rfl
  let moved : Outfit := { s₁ with
    objects := (s₁.objects.modifyPlayer s₁.plr refill).setPosition s₁.plr ⟨3000, 2900⟩ }
  have leaves₃ : Leaves { s₁ with objects := s₁.objects.modifyPlayer s₁.plr refill } moved :=
    ⟨rfl, by simp [Outfit.slots, moved], by simp [moved], by simp [moved]⟩
  have sound₃ : Sound moved := by
    refine ⟨?_, fun slot x here => ?_, fun slot x visible here => ?_,
      fun slot x visible here => ?_⟩
    · simpa [moved] using sound₂.player
    · rw [leaves₃.isLive]
      exact sound₂.live slot x (leaves₃.slots ▸ here)
    · simpa [moved] using sound₂.held slot x visible (leaves₃.slots ▸ here)
    · rw [Objects.subclass, leaves₃.infos]
      exact sound₂.fitting slot x visible (leaves₃.slots ▸ here)
  have blank₃ : Blank moved := (blank₁.leaves leaves₂).leaves leaves₃
  cases done
  exact ⟨⟨sound₃.player, sound₃.live, sound₃.held, sound₃.fitting⟩,
    (told_blank moved).trans (shown_eq_empty blank₃).symm⟩

end Respawn

/-! ### Runs -/

/-- Every honest call leaves what is shown right; there is a lemma for each call. -/
theorem step_right (s : Outfit) (call : Call) (s' : Outfit) (held : Right s)
    (step : guarded Honest Step s call s') : Right s' := by
  obtain ⟨honest, enabled, done⟩ := step
  cases call with
  | pickup obj maxDist =>
      obtain ⟨⟨s₁, taken⟩, picked, done⟩ := bind_eq_ok.mp done
      cases done
      exact pickup_right held enabled honest picked
  | drop obj maxDist newPos offset =>
      cases done
      cases obj with
      | none => exact held
      | some x => exact removeFromInventory_right held (honest x rfl)
  | equip obj =>
      cases done
      exact equip_right held enabled honest
  | dequip obj =>
      cases done
      exact dequip_right held honest
  | equipSecondary obj =>
      cases done
      exact equipSecondary_right held enabled honest
  | die =>
      cases done
      exact die_right held
  | respawn pclass things refs health mana => exact respawn_right held enabled honest done

theorem Fresh.right {s : Outfit} (fresh : Fresh s) : Right s := by
  have bare (slot : Fin slotSize) : s.slots slot = none := fresh.bare slot
  refine ⟨⟨fresh.player, fun slot x here => ?_, fun slot x _ here => ?_, fun slot x _ here => ?_⟩,
    ?_⟩
  · cases (bare slot).symm.trans here
  · cases (bare slot).symm.trans here
  · cases (bare slot).symm.trans here
  · have nothing : s.toShow = ∅ := shown_eq_empty fun slot x here => by
      cases (bare slot).symm.trans here
    rw [nothing, told, masks, fresh.silent]
    simp [Masks.marks, kindMarks, bits]

/-- After every run of honest calls of a fresh player, what its client shows is what it wears. What
is honest is said of the state before each call: what is put into a slot is of its kind, and the
bits of what is taken off belong to nothing else that is worn. -/
theorem masks_worn {s s' : Outfit} {calls : List Call} (fresh : Fresh s)
    (run : Run (guarded Honest Step) s calls s') : s'.masks = s'.objects.worn s'.plr := by
  have held : Right s' := run.invariant step_right fresh.right
  refine marks_injective ?_
  rw [marks_worn]
  exact held.right

def streetPants : ObjectInfo := { armor 3 with name := "StreetPants" }

def longsword : ObjectInfo := { name := "Longsword", subclass := 0x29, pickup := some .weapon }

/-- The things of a small thing.bin. -/
def fewThings (name : String) : Option ObjectInfo :=
  if name = "StreetPants" then some streetPants
  else if name = "Longsword" then some longsword
  else none

/-- A player that comes to two pants. -/
def newcomer : Outfit where
  objects := {
    heap := fun r =>
      match r with
      | 0 => some { info := {}, position := {}, player := some {} }
      | 1 => some { info := streetPants, position := {} }
      | 2 => some { info := streetPants, position := {} }
      | _ => none }
  plr := 0
  extent := 7

theorem fresh_newcomer : Fresh newcomer := ⟨rfl, fun _ => rfl, fun _ => Bool.false_ne_true, rfl⟩

/-- The player takes pants, and shows them. -/
theorem masks_worn_pants : ∃ s, Run (guarded Honest Step) newcomer [.pickup (some 1) 75] s ∧
    s.masks = s.objects.worn s.plr ∧ s.masks = { armor := 4 } := by
  obtain ⟨s, run, shows⟩ : ∃ s, Run (guarded Honest Step) newcomer [.pickup (some 1) 75] s ∧
      s.masks = { armor := 4 } := by
    refine ⟨_, .single ⟨?_, ?_, rfl⟩, by decide⟩
    · rintro x ⟨⟩ info ⟨⟩ _
      refine ⟨fun slot into _ => ?_, fun used => absurd used (by decide)⟩
      have number : 3 = slot.val := Option.some.inj into
      exact ⟨number.symm, .inr (by decide)⟩
    · rintro x ⟨⟩
      rfl
  exact ⟨s, run, masks_worn fresh_newcomer run, shows⟩

/-- A player that respawns wears what it starts with and shows nothing; one that takes off the pants
it carries as a second weapon does not show the pants it wears. -/
theorem masks_unlike_worn :
    (∃ s, Run Step newcomer [.respawn (some .warrior) fewThings [3, 4, 5] 150 0] s ∧
      s.masks = {} ∧ s.objects.worn s.plr = { armor := 4, weapons := 0x200 }) ∧
    ∃ s, Run Step newcomer
      [.pickup (some 1) 75, .pickup (some 2) 75, .equipSecondary (some 2), .dequip (some 2)] s ∧
        s.masks = {} ∧ s.objects.worn s.plr = { armor := 4 } := by
  refine ⟨⟨_, .single ⟨by rw [Enabled]; decide, rfl⟩, by decide, by decide⟩,
    ⟨_, .cons ⟨?_, rfl⟩ (.cons ⟨?_, rfl⟩ (.cons ⟨?_, rfl⟩ (.single ⟨?_, rfl⟩))), by decide,
      by decide⟩⟩
  all_goals
    rintro x ⟨⟩
    rfl

end Outfit

end Objects

end NoxServer
