import NoxServer.Objects.Equipment
import NoxServer.Objects.Used

/-!
What a pickup says of the object (`Player::Pickup`, `Object::NewPickup`).

A pickup that returns true leaves the object in the player's inventory. One that returns false
refused the object and changed nothing, or put it in (`Held`) and then asked its handler: an object
without a handler stays held, and food has been used at once, which is all that happened
(`pickups_tell`). `NewPickup` deletes what was not taken, which is on the remove list as well if it
was used up.
-/

namespace NoxServer

namespace Objects

/-- The object is refused: it is in an inventory already, or too far away. -/
def Refused (w : Objects) (owner obj : Ref) (maxDist : UInt32) : Prop :=
  w.inAnInventory obj ∨
    (maxDist ≠ 0 ∧ (w.getPosition owner).distance (w.getPosition obj) > maxDist)

/-- The player's body has a use for food of the kind: `FoodPickup` calls `Use`. -/
def usedAtOnce (p : Player) (info : ObjectInfo) : Bool :=
  info.pickup = some .food &&
    ((p.maxHealth - p.health > info.amount && info.subclass &&& subclassMushroom = 0) ||
      (info.subclass &&& subclassMushroom ≠ 0 && p.poisoned))

/-- `NewPickup(type, extent, modifier)` with what it returns. -/
def newPickupReturning (w : Objects) (owner obj : Ref) (info : ObjectInfo) :
    Except Fault (Objects × Option Ref) := do
  let (w, taken) ← (w.new obj { info := info, position := ⟨1, 1⟩ }).pickup owner obj 0
  if taken then return (w, some obj)
  else return ((w.removeFromInventory owner obj ⟨0, 0⟩).delete obj, none)

section Pickup

variable {w w' : Objects} {plr obj : Ref} {maxDist : UInt32} {taken : Bool}

/-- It is `NewPickup` as it is done. -/
theorem newPickupReturning_fst (w : Objects) (owner obj : Ref) (info : ObjectInfo) :
    (w.newPickupReturning owner obj info).map Prod.fst = w.newPickup owner obj info := by
  unfold newPickupReturning newPickup
  cases (w.new obj { info := info, position := ⟨1, 1⟩ }).pickup owner obj 0 with
  | error fault => rfl
  | ok out =>
      obtain ⟨w', taken⟩ := out
      cases taken <;> rfl

/-- A player who is not refused asks the handler of the object that is put in. -/
theorem pickup_player (player : w.isPlayer plr) (obj : Ref) (maxDist : UInt32) :
    (w.Refused plr obj maxDist ∧ w.pickup plr (some obj) maxDist = .ok (w, false)) ∨
      (¬ w.Refused plr obj maxDist ∧ w.pickup plr (some obj) maxDist =
        ((w.setPosition obj inventoryPosition).insertInventory plr obj).handlePickup plr obj) := by
  by_cases marked : w.inAnInventory obj
  · exact .inl ⟨.inl marked, by simp [pickup, objectPickup, marked, player]⟩
  · by_cases far : maxDist ≠ 0 ∧
        (w.getPosition plr).distance (w.getPosition obj) > maxDist
    · exact .inl ⟨.inr far, by simp [pickup, objectPickup, marked, far, player]⟩
    · refine .inr ⟨fun refused => refused.elim marked far, ?_⟩
      simp [pickup, objectPickup, addToInventory, marked, far, player]

/-- A handler that takes the object leaves it, and the list, as they are. -/
theorem handlePickup_true (done : w.handlePickup plr obj = .ok (w', true)) :
    SameThings w w' := by
  unfold handlePickup at done
  split at done
  · unfold foodPickup at done
    dsimp only at done
    split at done
    · cases done
    · split at done
      · cases done
      · cases done
        exact .refl w
  · unfold armorPickup at done
    split at done
    · split at done
      · cases done
        exact .refl w
      · cases done
        exact sameThings_setEquipment w plr _ _
    · cases done
  · unfold weaponPickup at done
    dsimp only at done
    split at done
    · cases done
      exact .refl w
    · cases done
      exact sameThings_setEquipment w plr _ _
  · cases done

/-- An object that is not taken has no handler, or is food that was used at once. -/
theorem handlePickup_false {info : ObjectInfo} (is : w.getObjectInfo obj = some info)
    (done : w.handlePickup plr obj = .ok (w', false)) :
    (info.pickup = none ∧ w' = w) ∨
      (usedAtOnce (w.player plr) info = true ∧ w' = w.use plr obj) := by
  have subclass : w.subclass obj = info.subclass := by simp [Objects.subclass, is]
  unfold handlePickup at done
  rw [is, Option.bind_some] at done
  split at done
  · next food =>
      unfold foodPickup at done
      rw [is, subclass] at done
      dsimp only [Option.map_some, Option.getD_some] at done
      split at done
      · next hurt =>
          cases done
          exact .inr ⟨by simp [usedAtOnce, food, hurt], rfl⟩
      · split at done
        · next poisoned =>
            cases done
            exact .inr ⟨by simp [usedAtOnce, food, poisoned], rfl⟩
        · cases done
  · unfold armorPickup at done
    split at done
    · split at done <;> cases done
    · cases done
  · unfold weaponPickup at done
    dsimp only at done
    split at done <;> cases done
  · next none =>
      cases done
      exact .inl ⟨none, rfl⟩

/-- What is not used up stays as it is. -/
theorem use_of_not_usedUp (stays : w.usedUp plr obj = false) : w.use plr obj = w := by
  unfold use
  unfold usedUp at stays
  split
  · next is =>
      rw [is] at stays
      dsimp only at stays
      unfold potionUse
      dsimp only
      split
      · next mana =>
          rw [if_pos mana, decide_eq_false_iff_not] at stays
          rw [if_neg stays]
      · next other =>
          rw [if_neg other] at stays
          split
          · next health =>
              rw [if_pos health] at stays
              cases stays
          · next other =>
              rw [if_neg other] at stays
              split
              · next curing =>
                  rw [if_pos curing] at stays
                  rw [stays, if_neg Bool.false_ne_true]
              · next other =>
                  rw [if_neg other] at stays
                  cases stays
  · next is => simp [is] at stays
  · next is => simp [is] at stays
  · next is => simp [is] at stays
  · rfl

/-- What is used up by the player who has it is on the list, and with the player no more. -/
theorem use_of_usedUp_of_mem (player : w.isPlayer plr) (up : w.usedUp plr obj = true) :
    obj ∈ (w.use plr obj).removeList ∧ ¬ (w.use plr obj).inMyInventory plr obj ∧
      (w.inMyInventory plr obj →
        (∀ slot slot', w.equipment plr slot = some obj → w.equipment plr slot' = some obj →
          slot = slot') →
        ∀ slot, (w.use plr obj).equipment plr slot ≠ some obj) := by
  obtain ⟨w₁, same, equipment, eq⟩ := use_of_usedUp up
  have player₁ : w₁.isPlayer plr := same.isPlayer ▸ player
  rw [eq]
  refine ⟨List.mem_insert_self, fun mem => ?_, fun mem once slot here => ?_⟩
  · exact ((inMyInventory_consume player₁ plr).mp mem).2 rfl
  · rw [equipment_consume player₁] at here
    split at here
    · cases here
    · next kept =>
        rw [← equipment] at once
        refine kept ⟨rfl, same.inMyInventory ▸ mem, ?_⟩
        cases found : w₁.slotOf plr obj with
        | none => exact absurd here (slotOf_eq_none found slot)
        | some first => rw [once first slot (equipment_slotOf found) here]

/-- A write leaves what players are besides other objects, unless it changes that. -/
theorem player_modify {r : Ref} {change : Obj → Obj}
    (same : ∀ o, (change o).player = o.player) : (w.modify r change).player = w.player := by
  funext s
  by_cases here : s = r
  · cases found : w.heap r <;> simp [Objects.player, modify, here, found, same]
  · simp [Objects.player, modify, here]

theorem player_putIn (w : Objects) (owner x : Ref) (p : GridPair) :
    ((w.setPosition x p).insertInventory owner x).player = w.player := by
  have moved : (w.setPosition x p).player = w.player := player_modify fun _ => rfl
  have put : ((w.setPosition x p).insertInventory owner x).player = (w.setPosition x p).player :=
    player_modify fun _ => rfl
  exact put.trans moved

/-- Putting an object in leaves what the handlers read. -/
theorem usedUp_putIn (w : Objects) (owner x plr obj : Ref) (p : GridPair) :
    ((w.setPosition x p).insertInventory owner x).usedUp plr obj = w.usedUp plr obj := by
  unfold usedUp subclass
  rw [player_putIn]
  simp

/-- The object has been put in the inventory of the player, at (5880, 5880), and nothing else of the
objects has changed. -/
structure Held (w : Objects) (plr obj : Ref) (w' : Objects) : Prop where
  position : w'.getPosition obj = inventoryPosition
  positions : ∀ x, x ≠ obj → w'.getPosition x = w.getPosition x
  inventory : ∀ owner x,
    w'.inMyInventory owner x ↔ w.inMyInventory owner x ∨ (owner = plr ∧ x = obj)
  equipment : w'.equipment = w.equipment
  player : w'.player = w.player
  info : w'.getObjectInfo = w.getObjectInfo
  isLive : w'.isLive = w.isLive
  removeList : w'.removeList = w.removeList

theorem getPosition_insertInventory (w : Objects) (owner x y : Ref) :
    (w.insertInventory owner x).getPosition y = w.getPosition y := by
  refine congrFun (getPosition_modify ?_) y
  exact fun _ => rfl

theorem held_putIn (player : w.isPlayer plr) (live : w.isLive obj) :
    Held w plr obj ((w.setPosition obj inventoryPosition).insertInventory plr obj) where
  position := by
    rw [getPosition_insertInventory, getPosition_setPosition live, if_pos rfl]
  positions x other := by
    rw [getPosition_insertInventory, getPosition_setPosition live, if_neg other]
  inventory owner x := by
    have there : (w.setPosition obj inventoryPosition).isLive plr := by
      simpa using isLive_of_isPlayer player
    rw [inMyInventory_insertInventory there]
    simp
  equipment := by simp
  player := player_putIn w plr obj inventoryPosition
  info := by simp
  isLive := by simp
  removeList := rfl

/-! ### What is removed -/

/-- The objects on the list are there, and each is listed once. -/
structure Removable (w : Objects) : Prop where
  nodup : w.removeList.Nodup
  live : ∀ r ∈ w.removeList, w.isLive r

/-- What is removable is removed without harm. -/
theorem removeObjects_ok {list : List Ref} (nodup : list.Nodup) (live : ∀ r ∈ list, w.isLive r) :
    ∃ w', w.removeObjects list = .ok w' := by
  induction list generalizing w with
  | nil => exact ⟨_, rfl⟩
  | cons obj rest ih =>
      obtain ⟨once, nodup⟩ := List.nodup_cons.mp nodup
      obtain ⟨there, found⟩ := Option.isSome_iff_exists.mp (live obj List.mem_cons_self)
      rw [removeObjects, found]
      refine ih nodup fun r mem => ?_
      have other : r ≠ obj := fun same => once (same ▸ mem)
      simpa [isLive, delete, other] using live r (List.mem_cons_of_mem _ mem)

theorem removeFromInventory_list (w : Objects) (owner obj : Ref) (newPos : GridPair) :
    (w.removeFromInventory owner obj newPos).removeList = w.removeList ∧
      (w.removeFromInventory owner obj newPos).isLive = w.isLive := by
  have same := sameThings_dequip w owner obj
  unfold removeFromInventory
  split
  · split
    · exact ⟨same.removeList, by simp [same.isLive]⟩
    · exact ⟨rfl, rfl⟩
  · exact ⟨rfl, by simp⟩

end Pickup

/-! ### Results -/

/-- What a pickup tells of the object with its result: that it is in the inventory, or that it was
refused, that it is held and has no handler, or that it was held and used at once. -/
def Tells (w : Objects) (plr obj : Ref) (info : ObjectInfo) (maxDist : UInt32) (w' : Objects) :
    Bool → Prop
  | true => w'.inMyInventory plr obj
  | false =>
      (w.Refused plr obj maxDist ∧ w' = w) ∨ (info.pickup = none ∧ Held w plr obj w') ∨
        (usedAtOnce (w.player plr) info ∧
          ∃ held, Held w plr obj held ∧ w' = held.use plr obj ∧
            (w.usedUp plr obj = false → w' = held) ∧
            (w.usedUp plr obj →
              obj ∈ w'.removeList ∧ ¬ w'.inMyInventory plr obj ∧
                ((∀ slot slot', w.equipment plr slot = some obj →
                  w.equipment plr slot' = some obj → slot = slot') →
                    ∀ slot, w'.equipment plr slot ≠ some obj)))

/-- What `Pickup` returns is told by the three ways it goes: refused, held without a handler's word,
or held and used at once. -/
theorem pickup_tells {w w' : Objects} {plr obj : Ref} {info : ObjectInfo} {maxDist : UInt32}
    {taken : Bool} (player : w.isPlayer plr) (is : w.getObjectInfo obj = some info)
    (done : w.pickup plr (some obj) maxDist = .ok (w', taken)) :
    Tells w plr obj info maxDist w' taken := by
  let put := (w.setPosition obj inventoryPosition).insertInventory plr obj
  have live : w.isLive obj := by
    obtain ⟨o, found, -⟩ := Option.map_eq_some_iff.mp is
    simp [isLive, found]
  have held : Held w plr obj put := held_putIn player live
  have mem : put.inMyInventory plr obj := (held.inventory plr obj).mpr (.inr ⟨rfl, rfl⟩)
  rcases pickup_player player obj maxDist with ⟨refused, same⟩ | ⟨_, asked⟩
  · rw [same] at done
    cases done
    exact .inl ⟨refused, rfl⟩
  · rw [asked] at done
    cases taken with
    | true =>
        have same := handlePickup_true done
        rw [Tells, same.inMyInventory]
        exact mem
    | false =>
        have is' : put.getObjectInfo obj = some info := held.info.symm ▸ is
        rcases handlePickup_false is' done with ⟨none, rfl⟩ | ⟨used, rfl⟩
        · exact .inr (.inl ⟨none, held⟩)
        · rw [held.player] at used
          refine .inr (.inr ⟨used, put, held, rfl, fun stays => ?_, fun up => ?_⟩)
          · rw [← usedUp_putIn w plr obj plr obj inventoryPosition] at stays
            exact use_of_not_usedUp stays
          · rw [← usedUp_putIn w plr obj plr obj inventoryPosition] at up
            have player' : put.isPlayer plr := by simpa [put] using player
            obtain ⟨listed, out, off⟩ := use_of_usedUp_of_mem player' up
            refine ⟨listed, out, fun once => off mem ?_⟩
            rw [held.equipment]
            exact once

/-- The new object is food that is used up at once. -/
def usedUpAtOnce (w : Objects) (plr obj : Ref) (info : ObjectInfo) : Bool :=
  usedAtOnce (w.player plr) info &&
    (w.new obj { info := info, position := ⟨1, 1⟩ }).usedUp plr obj

/-- A new object that is returned is in the inventory and not to be removed, and where it is not
used up at once what is to be removed is there, and once. -/
theorem newPickup_tells {w w' : Objects} {plr obj : Ref} {info : ObjectInfo} {given : Option Ref}
    (player : w.isPlayer plr) (new : ¬ w.isLive obj) (removable : Removable w)
    (done : w.newPickupReturning plr obj info = .ok (w', given)) :
    (∀ r ∈ given, r = obj ∧ w'.inMyInventory plr r ∧ r ∉ w'.removeList) ∧
      (w.usedUpAtOnce plr obj info = false → Removable w') := by
  let created := w.new obj { info := info, position := ⟨1, 1⟩ }
  let put := (created.setPosition obj inventoryPosition).insertInventory plr obj
  have unlisted : obj ∉ w.removeList := fun mem => new (removable.live obj mem)
  have other : plr ≠ obj := fun same => new (same ▸ isLive_of_isPlayer player)
  have player₁ : created.isPlayer plr := by
    rw [isPlayer, new_any, if_neg other]
    exact player
  have samePlayer : created.player plr = w.player plr := by
    simp [created, Objects.player, Objects.new, other]
  have is : created.getObjectInfo obj = some info := getObjectInfo_new _
  have live {r : Ref} : created.isLive r ↔ r = obj ∨ w.isLive r := isLive_new _
  have mem : put.inMyInventory plr obj := by
    refine (inMyInventory_insertInventory ?_).mpr (.inr ⟨rfl, rfl⟩)
    simpa using isLive_of_isPlayer player₁
  have free : ¬ created.Refused plr obj 0 := by
    rintro (marked | ⟨far, -⟩)
    · rw [inAnInventory, new_any, if_pos rfl] at marked
      have apart : (⟨1, 1⟩ : GridPair) ≠ inventoryPosition := by decide
      exact apart (of_decide_eq_true marked)
    · exact far rfl
  obtain ⟨⟨w₁, taken⟩, picked, done⟩ := bind_eq_ok.mp done
  have asked : put.handlePickup plr obj = .ok (w₁, taken) := by
    rcases pickup_player player₁ obj 0 with ⟨refused, _⟩ | ⟨_, asked⟩
    · exact absurd refused free
    · rw [← asked]
      exact picked
  cases taken with
  | true =>
      obtain ⟨rfl, rfl⟩ : w₁ = w' ∧ some obj = given := by
        cases done
        exact ⟨rfl, rfl⟩
      have same := handlePickup_true asked
      have list : w₁.removeList = w.removeList := same.removeList
      refine ⟨?_, fun _ => ⟨list ▸ removable.nodup, fun r listed => ?_⟩⟩
      · rintro r ⟨⟩
        exact ⟨rfl, same.inMyInventory ▸ mem, list ▸ unlisted⟩
      · rw [same.isLive]
        simpa [put] using live.mpr (.inr (removable.live r (list ▸ listed)))
  | false =>
      cases done
      refine ⟨fun r none => (by cases none), fun stays => ?_⟩
      have is' : put.getObjectInfo obj = some info := by simpa [put] using is
      have left : w₁ = put := by
        rcases handlePickup_false is' asked with ⟨_, same⟩ | ⟨used, rfl⟩
        · exact same
        · rw [player_putIn, samePlayer] at used
          refine use_of_not_usedUp ?_
          rw [usedUp_putIn]
          rw [usedUpAtOnce, used, Bool.true_and] at stays
          exact stays
      subst left
      obtain ⟨list, lives⟩ := removeFromInventory_list put plr obj ⟨0, 0⟩
      have list : ((put.removeFromInventory plr obj ⟨0, 0⟩).delete obj).removeList =
          w.removeList := list
      refine ⟨list ▸ removable.nodup, fun r listed => ?_⟩
      have apart : r ≠ obj := fun same => unlisted (same ▸ list ▸ listed)
      have there : (put.removeFromInventory plr obj ⟨0, 0⟩).isLive r := by
        rw [lives]
        simpa [put] using live.mpr (.inr (removable.live r (list ▸ listed)))
      simpa [isLive, delete, apart] using there

/-- A pickup that returns true leaves the object in the inventory, and one that returns false
changed nothing, or the object is held and has no handler, or it was held and used at once, and what
was used up is with the player no more and is to be removed. A new object that is returned is in the
inventory and not to be removed, and if it is not used up at once the removal deletes nothing twice.
-/
theorem pickups_tell {w : Objects} {plr : Ref} (player : w.isPlayer plr) :
    (∀ obj info maxDist w' taken, w.getObjectInfo obj = some info →
      w.pickup plr (some obj) maxDist = .ok (w', taken) →
        Tells w plr obj info maxDist w' taken) ∧
    ∀ obj info w' given, ¬ w.isLive obj → Removable w →
      w.newPickupReturning plr obj info = .ok (w', given) →
        (∀ r ∈ given, r = obj ∧ w'.inMyInventory plr r ∧ r ∉ w'.removeList) ∧
          (w.usedUpAtOnce plr obj info = false →
            ∃ w'', w'.removeObjects w'.removeList = .ok w'') := by
  refine ⟨fun obj info maxDist w' taken is done => pickup_tells player is done, ?_⟩
  intro obj info w' given new removable done
  obtain ⟨kept, left⟩ := newPickup_tells player new removable done
  refine ⟨kept, fun stays => ?_⟩
  obtain ⟨nodup, live⟩ := left stays
  exact removeObjects_ok nodup live

def bread : ObjectInfo := { pickup := some .food, use := some .consume, amount := 2 }

/-- A hurt player with a bread, a sword, a thing without handlers and food that is of no use. -/
def hurtPlayer : Objects where
  heap r :=
    match r with
    | 0 => some {
        info := {}, position := {}, inventory := {1}
        player := some { health := 5, maxHealth := 10 } }
    | 1 => some { info := bread, position := inventoryPosition }
    | 2 => some { info := sword, position := {} }
    | 3 => some { info := {}, position := {} }
    | 4 => some { info := { pickup := some .food }, position := {} }
    | _ => none

/-- The player takes the sword, and gets another one. -/
theorem pickups_tell_sword : ∃ (w' w'' : Objects) (given : Option Ref),
    Tells hurtPlayer 0 2 sword 75 w' true ∧
      (∀ r ∈ given, r = 5 ∧ w''.inMyInventory 0 r ∧ r ∉ w''.removeList) ∧
      ∃ w, w''.removeObjects w''.removeList = .ok w := by
  have player : hurtPlayer.isPlayer 0 := rfl
  obtain ⟨pickup, newPickup⟩ := pickups_tell player
  have fresh : Removable hurtPlayer := ⟨List.nodup_nil, nofun⟩
  obtain ⟨kept, removed⟩ := newPickup 5 sword _ _ nofun fresh rfl
  exact ⟨_, _, _, pickup 2 sword 75 _ true rfl rfl, kept, removed rfl⟩

/-- The bread the player has is refused and stays in the inventory; so do the thing without handlers
and the food of no use, which are not taken; a new bread is eaten, deleted, and deleted again. -/
theorem pickups_misleading :
    (∃ w', hurtPlayer.pickup 0 (some 1) 75 = .ok (w', false) ∧ w'.inMyInventory 0 1) ∧
    (∃ w', hurtPlayer.pickup 0 (some 3) 75 = .ok (w', false) ∧ w'.inMyInventory 0 3) ∧
    (∃ w', hurtPlayer.pickup 0 (some 4) 75 = .ok (w', false) ∧ w'.inMyInventory 0 4) ∧
    ∃ w', hurtPlayer.newPickupReturning 0 5 bread = .ok (w', none) ∧
      w'.removeObjects w'.removeList = .error .danglingPointer :=
  ⟨⟨_, rfl, by decide⟩, ⟨_, rfl, by decide⟩, ⟨_, rfl, by decide⟩, _, rfl, rfl⟩

end Objects

end NoxServer
