import NoxServer.Library.Runs
import NoxServer.Library.Slots
import NoxServer.Objects.Steps

/-!
What players wear: `m_equipment`.

The slots of a player hold what the player has with it, each thing in one slot at most
(`EquipmentInvariant`). That lasts because what a player has is at (5880, 5880), so that it is
not picked up again, and is had by that player alone (`Dressed`). Each operation that a client
triggers keeps it, but for three that check too little: those have a condition (`Fits`).
-/

namespace NoxServer
namespace Objects

open Slots Runs

/-- What is in the inventory of an object. -/
def carried (w : Objects) (owner : Ref) : Set Ref := {x | w.inMyInventory owner x}

/-- The slots of each player hold what is in its inventory, and no object is in two. -/
def EquipmentInvariant (w : Objects) : Prop := ∀ plr, Worn (w.equipment plr) (w.carried plr)

/-- The slots of players are right, and what players have is had by one and is marked. -/
structure Dressed (w : Objects) : Prop where
  worn : ∀ plr, w.isPlayer plr → Worn (w.equipment plr) (w.carried plr)
  stowed : ∀ plr x, w.isPlayer plr → w.inMyInventory plr x → w.inAnInventory x
  alone : ∀ plr plr' x, w.isPlayer plr → w.isPlayer plr' →
    w.inMyInventory plr x → w.inMyInventory plr' x → plr = plr'

section Dressed

variable {w w' : Objects} {plr owner x : Ref}

/-- Where there is no player there are no slots. -/
theorem Dressed.equipmentInvariant (dressed : Dressed w) : EquipmentInvariant w := by
  intro plr
  by_cases player : w.isPlayer plr
  · exact dressed.worn plr player
  · refine .empty fun slot => ?_
    cases found : w.heap plr with
    | none => simp [equipment, found]
    | some obj =>
      have none : obj.player = none := by simpa [isPlayer, found] using player
      simp [equipment, found, none]

/-- What is not marked is in no player's inventory, so in none of its slots. -/
theorem Dressed.free (dressed : Dressed w) (free : ¬ w.inAnInventory x) (player : w.isPlayer plr) :
    ¬ w.inMyInventory plr x :=
  fun mem => free (dressed.stowed plr x player mem)

/-! ### Writes to the slots of one player -/

/-- A player's slots change, and nothing else does. -/
theorem Dressed.dress (dressed : Dressed w) (same : SameThings w w')
    (others : ∀ q, q ≠ plr → w'.equipment q = w.equipment q)
    (worn : Worn (w'.equipment plr) (w.carried plr)) : Dressed w' := by
  refine ⟨fun q player => ?_, ?_, ?_⟩
  · unfold carried
    rw [same.inMyInventory]
    by_cases here : q = plr
    · exact here ▸ worn
    · exact others q here ▸ dressed.worn q (same.isPlayer ▸ player)
  · rw [same.isPlayer, same.inMyInventory, same.inAnInventory]
    exact dressed.stowed
  · rw [same.isPlayer, same.inMyInventory]
    exact dressed.alone

theorem Dressed.same (dressed : Dressed w) (same : SameThings w w')
    (equipment : w'.equipment = w.equipment) : Dressed w' := by
  refine ⟨fun q player => ?_, ?_, ?_⟩
  · rw [equipment, carried, same.inMyInventory]
    exact dressed.worn q (same.isPlayer ▸ player)
  · rw [same.isPlayer, same.inMyInventory, same.inAnInventory]
    exact dressed.stowed
  · rw [same.isPlayer, same.inMyInventory]
    exact dressed.alone

theorem setEquipment_dressed (dressed : Dressed w) (player : w.isPlayer plr) (slot : Fin slotSize)
    {obj : Option Ref}
    (worn : Worn (Function.update (w.equipment plr) slot obj) (w.carried plr)) :
    Dressed (w.setEquipment plr slot obj) := by
  refine dressed.dress (sameThings_setEquipment w plr slot obj)
    (fun q other => equipment_setEquipment_ne other slot obj) ?_
  rw [equipment_setEquipment player]
  exact worn

/-- What is taken off is in no slot after, and no slot is filled. -/
theorem dequip_dressed (dressed : Dressed w) (player : w.isPlayer plr) (obj : Option Ref) :
    Dressed (w.dequip plr obj).1 ∧ (∀ x ∈ obj, Off ((w.dequip plr obj).1.equipment plr) x) ∧
      ∀ x slot, (w.dequip plr obj).1.equipment plr slot = some x →
        w.equipment plr slot = some x := by
  rcases dequip_cases w plr obj with ⟨eq, off⟩ | ⟨slot, x, rfl, here, eq⟩
  · rw [eq]
    exact ⟨dressed, off, fun _ _ => id⟩
  · rw [eq, equipment_setEquipment player]
    have worn := dressed.worn plr player
    refine ⟨setEquipment_dressed dressed player slot (worn.clear slot), ?_,
      fun y j => filled_of_clear⟩
    rintro y ⟨⟩
    exact worn.clear_off here

/-- An object of the player that is in no other slot than the one it is put into leaves everyone
dressed. -/
theorem equip_dressed (dressed : Dressed w) (player : w.isPlayer plr) {obj : Option Ref}
    (elsewhere : ∀ x ∈ obj, ∀ slot, w.equipment plr slot = some x →
      equipSlot (w.subclass x) < slotSize → slot.val = equipSlot (w.subclass x)) :
    Dressed (w.equip plr obj).1 := by
  unfold equip equipAt
  split
  · next x =>
    split
    · next inside =>
      split
      · next mem =>
        -- the slot is emptied, and nothing is put into another
        obtain ⟨bare, _, fewer⟩ := dequip_dressed dressed player
          (w.equipment plr ⟨equipSlot (w.subclass x), inside⟩)
        have same := sameThings_dequip w plr (w.equipment plr ⟨equipSlot (w.subclass x), inside⟩)
        have player' := same.isPlayer ▸ player
        refine setEquipment_dressed bare player' _ ((bare.worn plr player').put ?_ fun j here => ?_)
        · rw [carried, same.inMyInventory]
          exact mem
        · exact Fin.ext (elsewhere x rfl j (fewer x j here) inside)
      · exact dressed
    · exact dressed
  · exact dressed

/-- The object is in the inventory; NULL is refused before anything is done. -/
theorem equipSecondary_dressed (dressed : Dressed w) (player : w.isPlayer plr) {obj : Option Ref}
    (mem : ∀ x ∈ obj, w.inMyInventory plr x) : Dressed (w.equipSecondary plr obj) := by
  cases obj with
  | none => simpa [equipSecondary] using dressed
  | some x =>
    obtain ⟨bare, off, _⟩ := dequip_dressed dressed player (some x)
    have same := sameThings_dequip w plr (some x)
    have player' := same.isPlayer ▸ player
    have put := setEquipment_dressed bare player' slotWepSecondary
      ((bare.worn plr player').put (by
        rw [carried, same.inMyInventory]
        exact mem x rfl) fun j here => absurd here (off x rfl j))
    simpa [equipSecondary] using put

/-! ### Taking out and putting in -/

/-- What is in no slot is taken out of the inventory. -/
theorem takeOut_dressed (dressed : Dressed w) (player : w.isPlayer plr)
    (mem : w.inMyInventory plr x) (off : Off (w.equipment plr) x) (newPos : GridPair) :
    Dressed ((w.setPosition x newPos).eraseInventory plr x) := by
  have left {q y : Ref} : ((w.setPosition x newPos).eraseInventory plr x).inMyInventory q y ↔
      w.inMyInventory q y ∧ ¬ (q = plr ∧ y = x) := by
    simp [inMyInventory_eraseInventory]
  refine ⟨fun q here => ?_, fun q y here inside => ?_, fun q q' y here here' inside inside' => ?_⟩
  · have here : w.isPlayer q := by simpa using here
    have worn := dressed.worn q here
    simp only [eraseInventory_frame, setPosition_frame]
    by_cases mine : q = plr
    · subst mine
      refine (worn.lose off).mono fun y kept => left.mpr ⟨kept.1, fun same => kept.2 same.2⟩
    · exact worn.mono fun y kept => left.mpr ⟨kept, fun same => mine same.1⟩
  · have here : w.isPlayer q := by simpa using here
    obtain ⟨inside, other⟩ := left.mp inside
    -- nobody else had what is taken out
    have apart : y ≠ x := fun same =>
      other ⟨dressed.alone q plr x here player (same ▸ inside) mem, same⟩
    simpa [inAnInventory_setPosition, apart] using dressed.stowed q y here inside
  · exact dressed.alone q q' y (by simpa using here) (by simpa using here')
      (left.mp inside).1 (left.mp inside').1

theorem removeFromInventory_dressed (dressed : Dressed w) (player : w.isPlayer plr) (x : Ref)
    (newPos : GridPair) : Dressed (w.removeFromInventory plr x newPos) := by
  by_cases mem : w.inMyInventory plr x
  · obtain ⟨bare, off, _⟩ := dequip_dressed dressed player (some x)
    have same := sameThings_dequip w plr (some x)
    rw [removeFromInventory_of_mem mem, if_pos player]
    exact takeOut_dressed bare (same.isPlayer ▸ player) (same.inMyInventory ▸ mem) (off x rfl)
      newPos
  · rw [removeFromInventory_of_not_mem player mem]
    exact dressed

theorem use_dressed (dressed : Dressed w) (player : w.isPlayer plr) : Dressed (w.use plr x) := by
  rcases use_cases w plr x with same | ⟨w₁, same, equipment, eq⟩
  · rw [same]
    exact dressed
  · rw [eq, consume]
    have out := removeFromInventory_dressed (dressed.same same equipment)
      (same.isPlayer ▸ player) x inventoryPosition
    exact ⟨out.worn, out.stowed, out.alone⟩

theorem objectDrop_dressed (dressed : Dressed w) (player : w.isPlayer plr) (obj : Option Ref)
    (newPos : GridPair) : Dressed (w.objectDrop plr obj newPos).1 := by
  unfold objectDrop
  split
  · split
    · exact removeFromInventory_dressed dressed player _ newPos
    · exact dressed
  · exact dressed

/-- What is not marked is marked and put into one inventory. -/
theorem putIn_dressed (dressed : Dressed w) (live : w.isLive owner) (here : w.isLive x)
    (free : ¬ w.inAnInventory x) :
    Dressed ((w.setPosition x inventoryPosition).insertInventory owner x) := by
  have put {q y : Ref} :
      ((w.setPosition x inventoryPosition).insertInventory owner x).inMyInventory q y ↔
        w.inMyInventory q y ∨ (q = owner ∧ y = x) := by
    rw [inMyInventory_insertInventory (by simpa using live)]
    simp
  refine ⟨fun q player => ?_, fun q y player mem => ?_, fun q q' y player player' mem mem' => ?_⟩
  · have worn := dressed.worn q (by simpa using player)
    simp only [insertInventory_frame, setPosition_frame]
    exact worn.mono fun y mem => put.mpr (.inl mem)
  · rcases put.mp mem with old | ⟨_, rfl⟩
    · have marked := dressed.stowed q y (by simpa using player) old
      simp [inAnInventory_setPosition, here, marked]
    · simp [inAnInventory_setPosition, here]
  · replace player : w.isPlayer q := by simpa using player
    replace player' : w.isPlayer q' := by simpa using player'
    rcases put.mp mem with old | ⟨rfl, rfl⟩
    · rcases put.mp mem' with old' | ⟨rfl, rfl⟩
      · exact dressed.alone q q' y player player' old old'
      · exact absurd old (dressed.free free player)
    · rcases put.mp mem' with old' | ⟨rfl, _⟩
      · exact absurd old' (dressed.free free player')
      · rfl

theorem handlePickup_dressed {taken : Bool} (dressed : Dressed w) (player : w.isPlayer plr)
    (mem : w.inMyInventory plr x) (off : Off (w.equipment plr) x)
    (done : w.handlePickup plr x = .ok (w', taken)) : Dressed w' := by
  rcases handlePickup_cases done with rfl | rfl | ⟨slot, _, rfl⟩
  · exact use_dressed dressed player
  · exact dressed
  · refine setEquipment_dressed dressed player slot ?_
    exact (dressed.worn plr player).put mem fun j filled => absurd filled (off j)

theorem pickup_dressed {obj : Option Ref} {maxDist : UInt32} {taken : Bool} (dressed : Dressed w)
    (live : w.isLive owner) (present : ∀ x ∈ obj, w.isLive x)
    (done : w.pickup owner obj maxDist = .ok (w', taken)) : Dressed w' := by
  rcases objectPickup_cases w owner obj maxDist with refused | ⟨x, rfl, free, _, put⟩
  · rcases pickup_cases done with same | ⟨_, _, _, put, _⟩
    · rw [refused] at same
      cases same
      exact dressed
    · simp [refused] at put
  · have inside := putIn_dressed dressed live (present x rfl) free
    rcases pickup_cases done with same | ⟨y, ⟨⟩, player, _, handled⟩
    · rw [put] at same
      cases same
      exact inside
    · rw [put] at handled
      refine handlePickup_dressed inside (by simpa using player) ?_ ?_ handled
      · rw [inMyInventory_insertInventory (by simpa using live)]
        exact .inr ⟨rfl, rfl⟩
      · simp only [insertInventory_frame, setPosition_frame]
        exact (dressed.worn owner player).off (dressed.free free player)

/-! ### Objects that come and go -/

/-- Players are as they were, or new and with nothing, and so is what players have. -/
theorem Dressed.transfer (dressed : Dressed w)
    (players : ∀ q, w'.isPlayer q → (w.isPlayer q ∧ w'.heap q = w.heap q) ∨
      (∀ slot, w'.equipment q slot = none) ∧ ∀ y, ¬ w'.inMyInventory q y)
    (things : ∀ q y, w.isPlayer q → w.inMyInventory q y → w'.heap y = w.heap y) : Dressed w' := by
  have old {q y : Ref} (player : w'.isPlayer q) (mem : w'.inMyInventory q y) :
      w.isPlayer q ∧ w.inMyInventory q y := by
    rcases players q player with ⟨before, same⟩ | ⟨_, nothing⟩
    · exact ⟨before, by rwa [inMyInventory, same] at mem⟩
    · exact absurd mem (nothing y)
  refine ⟨fun q player => ?_, fun q y player mem => ?_, fun q q' y player player' mem mem' => ?_⟩
  · rcases players q player with ⟨before, same⟩ | ⟨bare, _⟩
    · have slots : w'.equipment q = w.equipment q := funext fun _ => by simp [equipment, same]
      have inside : w'.carried q = w.carried q := by simp [carried, inMyInventory, same]
      rw [slots, inside]
      exact dressed.worn q before
    · exact .empty bare
  · obtain ⟨before, mem⟩ := old player mem
    have marked := dressed.stowed q y before mem
    rwa [inAnInventory, things q y before mem]
  · obtain ⟨before, mem⟩ := old player mem
    obtain ⟨before', mem'⟩ := old player' mem'
    exact dressed.alone q q' y before before' mem mem'

theorem isLive_of_isPlayer (player : w.isPlayer plr) : w.isLive plr := by
  cases found : w.heap plr with
  | none => simp [isPlayer, found] at player
  | some obj => simp [isLive, found]

theorem isLive_of_inAnInventory (marked : w.inAnInventory x) : w.isLive x := by
  cases found : w.heap x with
  | none => simp [inAnInventory, found] at marked
  | some obj => simp [isLive, found]

theorem new_dressed {obj : Obj} (dressed : Dressed w) (new : ¬ w.isLive x)
    (empty : obj.inventory = ∅) (bare : ∀ p ∈ obj.player, ∀ slot, p.equipment slot = none) :
    Dressed (w.new x obj) := by
  have kept {y : Ref} (live : w.isLive y) : (w.new x obj).heap y = w.heap y := by
    have other : y ≠ x := fun same => new (same ▸ live)
    simp [Objects.new, other]
  refine dressed.transfer (fun q player => ?_) fun q y player mem =>
    kept (isLive_of_inAnInventory (dressed.stowed q y player mem))
  by_cases here : q = x
  · refine .inr ⟨fun slot => ?_, fun y => ?_⟩
    · cases is : obj.player with
      | none => simp [equipment, Objects.new, here, is]
      | some p => simp [equipment, Objects.new, here, is, bare p is slot]
    · simp [inMyInventory, Objects.new, here, empty]
  · rw [isPlayer, new_any, if_neg here] at player
    exact .inl ⟨player, kept (isLive_of_isPlayer player)⟩

theorem delete_dressed (dressed : Dressed w)
    (out : ∀ q, w.isPlayer q → ¬ w.inMyInventory q x) : Dressed (w.delete x) := by
  refine dressed.transfer (fun q player => ?_) fun q y player mem => ?_
  · rw [isPlayer, delete_any] at player
    split at player
    · cases player
    · next other => exact .inl ⟨player, by simp [delete, other]⟩
  · have other : y ≠ x := fun same => out q player (same ▸ mem)
    simp [delete, other]

theorem createObjectFromFile_dressed {file : FileObject} (dressed : Dressed w)
    (new : ∀ r ∈ file.refs, ¬ w.isLive r) : Dressed (w.createObjectFromFile file) := by
  have kept {y : Ref} (live : w.isLive y) :
      (w.createObjectFromFile file).heap y = w.heap y :=
    createObjectFromFile_heap w file fun mem => new y mem live
  refine dressed.transfer (fun q player => ?_) fun q y player mem =>
    kept (isLive_of_inAnInventory (dressed.stowed q y player mem))
  have before := isPlayer_createObjectFromFile w file player
  exact .inl ⟨before, kept (isLive_of_isPlayer before)⟩

/-- A new object is picked up, or deleted again: either way everyone is dressed in what they have.
-/
theorem newPickup_dressed {info : ObjectInfo} (dressed : Dressed w) (live : w.isLive owner)
    (new : ¬ w.isLive x) (done : w.newPickup owner x info = .ok w') : Dressed w' := by
  obtain ⟨⟨w₁, taken⟩, picked, done⟩ := bind_eq_ok.mp done
  have made : Dressed (w.new x { info := info, position := ⟨1, 1⟩ }) :=
    new_dressed dressed new rfl nofun
  have dressed₁ : Dressed w₁ := pickup_dressed made (by simp [live]) (by simp) picked
  cases taken with
  | true =>
    cases done
    exact dressed₁
  | false =>
    cases done
    have free : ¬ (w.new x { info := info, position := ⟨1, 1⟩ }).inAnInventory x := by
      simp [inAnInventory, new_any, inventoryPosition]
    have player := isPlayer_of_pickup free picked
    refine delete_dressed (removeFromInventory_dressed dressed₁ player x ⟨0, 0⟩)
      fun q wearer mem => ?_
    rw [isPlayer_removeFromInventory, isPlayer_pickup picked, isPlayer, new_any] at wearer
    obtain ⟨mem, other⟩ := inMyInventory_removeFromInventory mem
    have inside := inMyInventory_pickup (by simp [live]) picked mem
    rw [inMyInventory_new new rfl] at inside
    have old := inside.resolve_right other
    split at wearer
    · cases wearer
    · exact new (isLive_of_inAnInventory (dressed.stowed q x wearer old))

end Dressed

/-! ### Runs -/

/-- What players do, and what comes before they do it: maps are read, players enter and get
what they start with, and time and the fight pass. -/
def Played (w : Objects) : Op → Prop
  | .pickup owner _ _ | .drop owner _ _ _ _ => w.isPlayer owner
  | .setPosition _ _ | .logoutPlayer _ | .removeAllObjectsInRemoveList => False
  | _ => True

/-- An operation keeps the slots right and inside the array. -/
def Fits (w : Objects) : Op → Prop
  | .pickup owner obj maxDist => ∀ x ∈ obj, ¬ w.inAnInventory x →
      ¬ (maxDist ≠ 0 ∧ (w.getPosition owner).distance (w.getPosition x) > maxDist) →
        (w.getObjectInfo x).bind (·.pickup) = some .armor → (w.subclass x).toNat < slotSize
  | .newPickup owner _ info =>
      w.isPlayer owner → info.pickup = some .armor → info.subclass.toNat < slotSize
  | .equip plr obj => ∀ x ∈ obj, ∀ slot, w.equipment plr slot = some x →
      equipSlot (w.subclass x) < slotSize → slot.val = equipSlot (w.subclass x)
  | .equipSecondary plr obj => ∀ x ∈ obj, w.inMyInventory plr x
  | _ => True

/-- An operation puts no object into a second slot, and none that the player does not have. -/
def PutsOnce (w : Objects) : Op → Prop
  | .equip plr obj => ∀ x ∈ obj, ∀ slot, w.equipment plr slot = some x →
      equipSlot (w.subclass x) < slotSize → slot.val = equipSlot (w.subclass x)
  | .equipSecondary plr obj => ∀ x ∈ obj, w.inMyInventory plr x
  | _ => True

theorem Fits.putsOnce {w : Objects} {op : Op} (fits : w.Fits op) : w.PutsOnce op := by
  cases op with
  | equip plr obj => exact fits
  | equipSecondary plr obj => exact fits
  | _ => exact trivial

/-- Each operation that puts things on once keeps what players wear right. -/
theorem step_dressed_of_once {w w' : Objects} {op : Op} (dressed : Dressed w)
    (once : w.PutsOnce op) (step : guarded Played Step w op w') : Dressed w' := by
  obtain ⟨played, enabled, done⟩ := step
  cases op with
  | createObjectFromFile file =>
    cases done
    exact createObjectFromFile_dressed dressed enabled.2
  | newPlayer plr info =>
    cases done
    refine new_dressed dressed enabled rfl ?_
    rintro p ⟨⟩ slot
    rfl
  | pickup owner obj maxDist =>
    obtain ⟨⟨w₁, taken⟩, picked, done⟩ := bind_eq_ok.mp done
    cases done
    exact pickup_dressed dressed enabled.1 enabled.2 picked
  | newPickup owner obj info => exact newPickup_dressed dressed enabled.1 enabled.2 done
  | drop owner obj maxDist newPos offset =>
    cases done
    have player : w.isPlayer owner := played
    rw [drop, if_pos player]
    exact objectDrop_dressed dressed player obj _
  | use plr obj =>
    cases done
    exact use_dressed dressed enabled.1
  | equip plr obj =>
    cases done
    exact equip_dressed dressed enabled.1 once
  | dequip plr obj =>
    cases done
    exact (dequip_dressed dressed enabled.1 obj).1
  | equipSecondary plr obj =>
    cases done
    exact equipSecondary_dressed dressed enabled.1 once
  | setPosition obj position => exact played.elim
  | setVitals plr health maxHealth maxMana poisoned =>
    cases done
    exact dressed.same (sameThings_modifyPlayer w plr _)
      (modify_equipment fun obj _ => by cases obj.player <;> rfl)
  | logoutPlayer plr => exact played.elim
  | removeAllObjectsInRemoveList => exact played.elim

/-- Each operation that fits keeps what players wear right. -/
theorem step_dressed (w : Objects) (op : Op) (w' : Objects) (dressed : Dressed w)
    (step : guarded Fits (guarded Played Step) w op w') : Dressed w' :=
  step_dressed_of_once dressed step.1.putsOnce step.2

theorem start_dressed : Dressed {} where
  worn _ player := by cases player
  stowed _ _ player := by cases player
  alone _ _ _ player := by cases player

/-- An operation that fits indexes the slots inside the array. -/
theorem apply_inside {w : Objects} {op : Op} (played : w.Played op) (fits : w.Fits op) :
    w.apply op ≠ .error .outOfBounds := by
  intro failed
  cases op with
  | pickup owner obj maxDist =>
    rcases bind_eq_error.mp failed with past | ⟨_, _, past⟩
    · obtain ⟨x, rfl, _, free, near, armor, outside⟩ := pickup_error past
      exact absurd (fits x rfl free near armor) (Nat.not_lt.mpr outside)
    · cases past
  | newPickup owner obj info =>
    rcases bind_eq_error.mp failed with past | ⟨⟨w₁, taken⟩, _, past⟩
    · obtain ⟨x, ⟨⟩, player, _, _, armor, outside⟩ := pickup_error past
      rw [isPlayer, new_any] at player
      split at player
      · cases player
      · have inside := fits player (by simpa using armor)
        exact absurd inside (Nat.not_lt.mpr (by simpa [subclass] using outside))
    · cases taken <;> cases past
  | setPosition obj position => exact played.elim
  | logoutPlayer plr => exact played.elim
  | removeAllObjectsInRemoveList => exact played.elim
  | _ => cases failed

/-- In every run from no objects, through what players do and what comes before: the slots of
players hold what the players have, and no operation that fits indexes them outside the array. What
fits is said of the state before each operation, and drops, uses and what is taken off always do. -/
theorem equipment_invariant {ops : List Op} {w : Objects}
    (run : Run (guarded Fits (guarded Played Step)) {} ops w) :
    EquipmentInvariant w ∧
      ∀ op, w.Played op → w.Fits op → w.apply op ≠ .error .outOfBounds := by
  have dressed : Dressed w := run.invariant step_dressed start_dressed
  exact ⟨dressed.equipmentInvariant, fun _ => apply_inside⟩

/-- A piece of armour of a subclass. -/
def armor (subclass : UInt32) : ObjectInfo := { subclass := subclass, pickup := some .armor }

/-- A weapon, neither a quiver nor a flag. -/
def sword : ObjectInfo := { subclass := 0x22, pickup := some .weapon }

/-- A player gets armour and a sword, and carries the sword as its second weapon. -/
theorem equipment_invariant_sword : ∃ w,
    Run (guarded Fits (guarded Played Step)) {} [.newPlayer 1 {}, .newPickup 1 2 (armor 3),
      .newPickup 1 3 sword, .equipSecondary 1 (some 3), .equip 1 (some 2)] w ∧
      w.equipment 1 slotWepSecondary = some 3 ∧ EquipmentInvariant w := by
  obtain ⟨w, run, second⟩ : ∃ w,
      Run (guarded Fits (guarded Played Step)) {} [.newPlayer 1 {}, .newPickup 1 2 (armor 3),
        .newPickup 1 3 sword, .equipSecondary 1 (some 3), .equip 1 (some 2)] w ∧
        w.equipment 1 slotWepSecondary = some 3 := by
    refine ⟨_, .cons ⟨trivial, trivial, by rw [Enabled]; decide, rfl⟩
      (.cons ⟨fun _ _ => by decide, trivial, ⟨by decide, by decide⟩, rfl⟩
        (.cons ⟨fun _ handler => absurd handler (by decide), trivial, ⟨by decide, by decide⟩, rfl⟩
          (.cons ⟨?_, trivial, ⟨by decide, by decide⟩, rfl⟩
            (.cons ⟨?_, trivial, ⟨by decide, by decide⟩, rfl⟩ (.nil _))))), ?_⟩
    · rintro x ⟨⟩
      decide
    · rintro x ⟨⟩
      decide
    · decide
  exact ⟨w, run, second, (equipment_invariant run).1⟩

/-- `EquipSecondary` takes an object that lies on the ground; `Equip` puts the second weapon
into the slot of the first as well; a piece of armour of subclass 13 is written past the
slots. -/
theorem equipment_invariant_fails :
    (∃ w, Run (guarded Played Step) {} [.newPlayer 1 {},
      .createObjectFromFile (.mk 2 sword playerPosition []), .equipSecondary 1 (some 2)] w ∧
        ¬ EquipmentInvariant w) ∧
    (∃ w, Run (guarded Played Step) {} [.newPlayer 1 {}, .newPickup 1 2 sword,
      .equipSecondary 1 (some 2), .equip 1 (some 2)] w ∧ ¬ EquipmentInvariant w) ∧
    ∃ w, Run (guarded Played Step) {} [.newPlayer 1 {},
      .createObjectFromFile (.mk 2 (armor 13) playerPosition [])] w ∧
        w.apply (.pickup 1 (some 2) 75) = .error .outOfBounds := by
  refine ⟨⟨_, .cons ⟨trivial, by rw [Enabled]; decide, rfl⟩
      (.cons ⟨trivial, ⟨by decide, by decide⟩, rfl⟩
        (.cons ⟨trivial, ⟨by decide, by decide⟩, rfl⟩ (.nil _))), fun worn => ?_⟩,
    ⟨_, .cons ⟨trivial, by rw [Enabled]; decide, rfl⟩
      (.cons ⟨trivial, ⟨by decide, by decide⟩, rfl⟩
        (.cons ⟨trivial, ⟨by decide, by decide⟩, rfl⟩
          (.cons ⟨trivial, ⟨by decide, by decide⟩, rfl⟩ (.nil _)))), fun worn => ?_⟩,
    ⟨_, .cons ⟨trivial, by rw [Enabled]; decide, rfl⟩
      (.cons ⟨trivial, ⟨by decide, by decide⟩, rfl⟩ (.nil _)), by rfl⟩⟩
  · have mem : Objects.inMyInventory _ 1 2 := (worn 1).held slotWepSecondary 2 (by decide)
    exact absurd mem (by decide)
  · exact absurd ((worn 1).once slotWepPrimary slotWepSecondary 2 (by decide) (by decide))
      (by decide)

end Objects
end NoxServer
