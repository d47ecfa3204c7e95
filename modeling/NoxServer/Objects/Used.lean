import NoxServer.Objects.Inventory
import NoxServer.Objects.ObjectMgr

/-!
What is left of an object that is used up.

`MSG_TRY_USE` may name any object. The use handlers take it from the player that uses it and put it
on the list of those to remove; `Dequip` empties the first slot that has it, and nobody else is
asked. So nothing refers to it after exactly if the player alone had it, in one slot at most
(`tryUse_unlisted_iff`).
-/

namespace NoxServer

namespace Objects

/-! ### The handler -/

/-- `HandleTryUseOpcode`, once the extent is read. -/
def tryUse (w : Objects) (mgr : ObjectMgr Ref) (kind : ObjectClass Ref) (plr : Ref)
    (extent : UInt16) : Objects :=
  match mgr.getObj kind extent with
  | some obj => w.use plr obj
  | none => w

/-- `Use(plr)` ends in `AddObjectToRemoveList`. -/
def usedUp (w : Objects) (plr obj : Ref) : Bool :=
  match (w.getObjectInfo obj).bind (·.use) with
  | some .potion =>
      let type := w.subclass obj
      if type &&& subclassManaPotion ≠ 0 then (w.player plr).maxMana = 0
      else if type &&& subclassHealthPotion ≠ 0 then true
      else if type &&& subclassCurePoisonPotion ≠ 0 then (w.player plr).poisoned
      else true
  | some .consume | some .consumeConfuse | some .mushroom => true
  | none => false

/-- The object is in no inventory and in no slot. -/
structure Unlisted (w : Objects) (obj : Ref) : Prop where
  inventory : ∀ owner, ¬ w.inMyInventory owner obj
  equipment : ∀ plr slot, w.equipment plr slot ≠ some obj

/-- Nobody but the player has the object, and the player wears it only if it has it, and once. -/
structure OnlyWith (w : Objects) (plr obj : Ref) : Prop where
  inventory : ∀ owner, w.inMyInventory owner obj → owner = plr
  equipment : ∀ other slot, w.equipment other slot = some obj → other = plr
  worn : ∀ slot, w.equipment plr slot = some obj → w.inMyInventory plr obj
  once : ∀ slot slot', w.equipment plr slot = some obj → w.equipment plr slot' = some obj →
    slot = slot'

section Use

variable {w : Objects} {plr obj : Ref}

/-- What is used up is consumed, after a cure at most. -/
theorem use_of_usedUp (up : w.usedUp plr obj = true) :
    ∃ w', SameThings w w' ∧ w'.equipment = w.equipment ∧ w.use plr obj = w'.consume plr obj := by
  have cured : SameThings w (w.cure plr) ∧ (w.cure plr).equipment = w.equipment :=
    ⟨sameThings_modifyPlayer w plr _, modify_equipment fun obj slot => by cases obj.player <;> rfl⟩
  have consumed : ∃ w', SameThings w w' ∧ w'.equipment = w.equipment ∧
      w.consume plr obj = w'.consume plr obj := ⟨w, .refl w, rfl, rfl⟩
  unfold use
  split
  · next is =>
      rw [usedUp, is] at up
      dsimp only at up
      unfold potionUse
      dsimp only
      split
      · next mana =>
          rw [if_pos mana, decide_eq_true_eq] at up
          rw [if_pos up]
          exact consumed
      · next other =>
          rw [if_neg other] at up
          split
          · exact consumed
          · next other =>
              rw [if_neg other] at up
              split
              · next curing =>
                  rw [if_pos curing] at up
                  rw [if_pos up]
                  exact ⟨w.cure plr, cured.1, cured.2, rfl⟩
              · exact consumed
  · exact consumed
  · exact consumed
  · exact ⟨w.cure plr, cured.1, cured.2, rfl⟩
  · next is =>
      rw [usedUp, is] at up
      cases up

/-- Only the first slot of the player that has the object is emptied, if the player has it. -/
theorem equipment_consume (player : w.isPlayer plr) (other : Ref) (slot : Fin slotSize) :
    (w.consume plr obj).equipment other slot =
      if other = plr ∧ w.inMyInventory plr obj ∧ w.slotOf plr obj = some slot then none
      else w.equipment other slot := by
  have same : (w.consume plr obj).equipment =
      (w.removeFromInventory plr obj inventoryPosition).equipment := rfl
  rw [same]
  by_cases mem : w.inMyInventory plr obj
  · have out : (w.removeFromInventory plr obj inventoryPosition).equipment =
        (w.dequip plr obj).1.equipment := by
      rw [removeFromInventory_of_mem mem, if_pos player]
      simp
    rw [out, dequip, Option.bind_some]
    cases found : w.slotOf plr obj with
    | none => simp
    | some first =>
        dsimp only
        by_cases own : other = plr
        · subst own
          rw [equipment_setEquipment player]
          by_cases here : slot = first
          · rw [here, Function.update_self, if_pos ⟨rfl, mem, rfl⟩]
          · rw [Function.update_of_ne here, if_neg]
            rintro ⟨-, -, same⟩
            exact here (Option.some.inj same).symm
        · rw [equipment_setEquipment_ne own, if_neg]
          rintro ⟨same, -⟩
          exact own same
  · rw [removeFromInventory_of_not_mem player mem, if_neg]
    rintro ⟨-, inside, -⟩
    exact mem inside

theorem inMyInventory_consume (player : w.isPlayer plr) (owner : Ref) :
    (w.consume plr obj).inMyInventory owner obj ↔ w.inMyInventory owner obj ∧ owner ≠ plr := by
  have same : (w.consume plr obj).inMyInventory =
      (w.removeFromInventory plr obj inventoryPosition).inMyInventory := rfl
  rw [same]
  by_cases mem : w.inMyInventory plr obj
  · rw [removeFromInventory_of_mem mem, if_pos player, inMyInventory_eraseInventory]
    simp [(sameThings_dequip w plr obj).inMyInventory]
  · rw [removeFromInventory_of_not_mem player mem]
    refine ⟨fun inside => ⟨inside, ?_⟩, And.left⟩
    rintro rfl
    exact mem inside

/-- What `Consume` removes is gone from all inventories and slots exactly if nobody but the player
had it, and the player wore it once at most. -/
theorem unlisted_consume_iff (player : w.isPlayer plr) :
    Unlisted (w.consume plr obj) obj ↔ OnlyWith w plr obj := by
  constructor
  · intro unlisted
    have stays (other : Ref) (slot : Fin slotSize) (here : w.equipment other slot = some obj) :
        other = plr ∧ w.inMyInventory plr obj ∧ w.slotOf plr obj = some slot := by
      by_contra kept
      refine unlisted.equipment other slot ?_
      rw [equipment_consume player, if_neg kept]
      exact here
    refine ⟨fun owner mem => ?_, fun other slot here => (stays other slot here).1,
      fun slot here => (stays plr slot here).2.1, fun slot slot' here here' => ?_⟩
    · by_contra other
      exact unlisted.inventory owner ((inMyInventory_consume player owner).mpr ⟨mem, other⟩)
    · have first := (stays plr slot here).2.2
      rw [(stays plr slot' here').2.2] at first
      exact (Option.some.inj first).symm
  · intro only
    refine ⟨fun owner mem => ?_, fun other slot here => ?_⟩
    · obtain ⟨inside, other⟩ := (inMyInventory_consume player owner).mp mem
      exact other (only.inventory owner inside)
    · rw [equipment_consume player] at here
      split at here
      · cases here
      · next kept =>
          obtain rfl := only.equipment other slot here
          refine kept ⟨rfl, only.worn slot here, ?_⟩
          cases found : w.slotOf other obj with
          | none => exact absurd here (slotOf_eq_none found slot)
          | some first => rw [only.once first slot (equipment_slotOf found) here]

/-- What is seen of the others stays when the object is deleted. -/
theorem Unlisted.delete (unlisted : Unlisted w obj) : Unlisted (w.delete obj) obj := by
  refine ⟨fun owner mem => ?_, fun other slot here => ?_⟩
  · rw [inMyInventory, delete_any] at mem
    split at mem
    · cases mem
    · exact unlisted.inventory owner mem
  · refine unlisted.equipment other slot ?_
    unfold Objects.equipment Objects.delete at here
    dsimp only at here
    split at here
    · cases here
    · exact here

end Use

/-! ### Uses -/

/-- After a use that ends with the object on the list, nothing refers to the object, now and once it
is deleted, exactly if nobody but the player had it, and the player wore it once at most. The
handler does not ask who has the object, where those for drops and equipment do. -/
theorem tryUse_unlisted_iff {w : Objects} {mgr : ObjectMgr Ref} {kind : ObjectClass Ref}
    {plr obj : Ref} {extent : UInt16} (player : w.isPlayer plr)
    (found : mgr.getObj kind extent = some obj) (up : w.usedUp plr obj = true) :
    Unlisted (w.tryUse mgr kind plr extent) obj ∧
        Unlisted ((w.tryUse mgr kind plr extent).delete obj) obj ↔
      OnlyWith w plr obj := by
  have used : w.tryUse mgr kind plr extent = w.use plr obj := by
    rw [tryUse, found]
  obtain ⟨w', same, equipment, eq⟩ := use_of_usedUp up
  have only : OnlyWith w' plr obj ↔ OnlyWith w plr obj := by
    constructor
    · rintro ⟨inventory, elsewhere, worn, once⟩
      rw [same.inMyInventory] at inventory worn
      rw [equipment] at elsewhere worn once
      exact ⟨inventory, elsewhere, worn, once⟩
    · rintro ⟨inventory, elsewhere, worn, once⟩
      rw [← same.inMyInventory] at inventory worn
      rw [← equipment] at elsewhere worn once
      exact ⟨inventory, elsewhere, worn, once⟩
  rw [used, eq, ← only, ← unlisted_consume_iff (same.isPlayer ▸ player)]
  exact ⟨And.left, fun unlisted => ⟨unlisted, unlisted.delete⟩⟩

/-- Two players, and an apple that the second one has. -/
def appleOfAnother : Objects where
  heap r :=
    match r with
    | 0 => some { info := {}, position := {}, player := some {} }
    | 1 => some { info := {}, position := {}, inventory := {2}, player := some {} }
    | 2 => some { info := { use := some .consume }, position := inventoryPosition }
    | _ => none

/-- The manager that has the three. -/
def threeObjects : ObjectMgr Ref where
  extent r := UInt16.ofNat (r + 1)
  objectExtents e :=
    if e = 1 then some 0 else if e = 2 then some 1 else if e = 3 then some 2 else none
  objectTable := {0, 1, 2}

/-- The second player uses its apple. -/
theorem tryUse_unlisted_own :
    Unlisted (appleOfAnother.tryUse threeObjects ⟨fun _ => 0, fun _ => false⟩ 1 3) 2 ∧
        Unlisted
          ((appleOfAnother.tryUse threeObjects ⟨fun _ => 0, fun _ => false⟩ 1 3).delete 2) 2 ↔
      OnlyWith appleOfAnother 1 2 :=
  tryUse_unlisted_iff rfl rfl rfl

/-- The first player uses it, and it stays in the inventory of the second one. -/
theorem apple_listed :
    2 ∈ (appleOfAnother.tryUse threeObjects ⟨fun _ => 0, fun _ => false⟩ 0 3).removeList ∧
      (appleOfAnother.tryUse threeObjects ⟨fun _ => 0, fun _ => false⟩ 0 3).inMyInventory 1 2 := by
  decide

end Objects

end NoxServer
