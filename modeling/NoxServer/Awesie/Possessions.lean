import Mathlib.Data.List.FinRange
import NoxServer.Library.Holding
import NoxServer.Library.Runs
import NoxServer.Shared.Errors

/-!
What the objects of the server under `awesie_test` hold (`object.cpp`, `unit.cpp`, `player.cpp`).

An object is known by its address. That one holds another is in `m_inventory` of the holder and in
`m_parent` of what is held, which has no body then (`OneRelation`). The functions that change hands
do not all look after both: objects of a map that are nested are put into an inventory only, a
deleted player stays the parent of what it held, and nothing keeps a player from picking up itself.
`Orderly` says when a step is none of these (`oneRelation_iff_orderly`).
-/

namespace NoxServer

namespace Awesie

namespace Possessions

open Holding Runs

/-- The address of an object. -/
abbrev Ref := Nat

def slotSize : Nat := 13

def slotFlag : Fin slotSize := ⟨0x9, by decide⟩
def slotQuiver : Fin slotSize := ⟨0xA, by decide⟩
def slotWepPrimary : Fin slotSize := ⟨0xB, by decide⟩

def subclassWeapon : UInt32 := 0x20
def subclassFlag : UInt32 := 0x20
def subclassQuiver : UInt32 := 0x21

/-- What the constructor of an object may set as `m_pickup_handler`. -/
inductive PickupHandler where
  | food
  | armor
  | weapon
  deriving DecidableEq

/-- What the functions here read of an entry of thing.bin. -/
structure ObjectInfo where
  subclass : UInt32
  pickup : Option PickupHandler := none
  deriving DecidableEq

/-- `object`. The only units are players. -/
structure Object where
  info : ObjectInfo
  isUnit : Bool := false
  parent : Option Ref := none
  inventory : Finset Ref := ∅
  /-- `m_body` is not NULL. -/
  hasBody : Bool := false
  equipment : Fin slotSize → Option Ref := fun _ => none

abbrev World := Ref → Option Object

/-- Why a function is not carried out: an access C++ leaves undefined. An address that is in use is
not given to a new object. -/
inductive Fault where
  | danglingPointer
  | nullPointer
  | addressInUse
  deriving DecidableEq

/-- An access through a pointer. -/
def read (w : World) (r : Ref) : Except Fault Object :=
  match w r with
  | some o => .ok o
  | none => .error .danglingPointer

def write (w : World) (r : Ref) (o : Object) : World := Function.update w r (some o)

/-- `new`. -/
def allocate (w : World) (r : Ref) (o : Object) : Except Fault World :=
  match w r with
  | some _ => .error .addressInUse
  | none => .ok (write w r o)

/-! ### Equipment -/

/-- The first slot that holds the object. -/
def Object.slotOf (o : Object) (x : Ref) : Option (Fin slotSize) :=
  (List.finRange slotSize).find? fun i => o.equipment i = some x

/-- `unit::dequip(obj)`. -/
def dequip (w : World) (unit : Ref) (obj : Option Ref) : Except Fault (World × Bool) :=
  match obj with
  | none => .ok (w, false)
  | some x => do
      let o ← read w x
      if o.parent = some unit then do
        let u ← read w unit
        match u.slotOf x with
        | none => .ok (w, false)
        | some i =>
            .ok (write w unit { u with equipment := Function.update u.equipment i none }, true)
      else .ok (w, false)

/-- The slot of `unit::equip(obj)`, if there is one. -/
def equipSlot (subclass : UInt32) : Option (Fin slotSize) :=
  if subclass &&& subclassWeapon ≠ 0 then
    if subclass = subclassQuiver then some slotQuiver
    else if subclass = subclassFlag then some slotFlag
    else some slotWepPrimary
  else if inside : subclass.toNat < slotSize then some ⟨subclass.toNat, inside⟩
  else none

/-- `unit::equip(obj)`. -/
def equip (w : World) (unit : Ref) (obj : Option Ref) : Except Fault (World × Bool) :=
  match obj with
  | none => .ok (w, false)
  | some x => do
      let o ← read w x
      if o.parent = some unit then
        match equipSlot o.info.subclass with
        | none => .ok (w, false)
        | some slot => do
            let (w, _) ← dequip w unit (some x)
            let u ← read w unit
            let (w, _) ← dequip w unit (u.equipment slot)
            let u ← read w unit
            .ok (write w unit
              { u with equipment := Function.update u.equipment slot (some x) }, true)
      else .ok (w, false)

/-! ### Picking up and dropping -/

/-- `set_position`: the body is moved, or there is a new one. -/
def setPosition (w : World) (obj : Ref) : Except Fault World := do
  let o ← read w obj
  .ok (write w obj { o with hasBody := true })

def handlePickup (w : World) (obj parent : Ref) : Except Fault World := do
  let o ← read w obj
  let w := write w obj { o with parent := some parent, hasBody := false }
  match o.info.pickup with
  | some .armor | some .weapon => do
      let p ← read w parent
      if p.isUnit then do
        let (w, _) ← equip w parent (some obj)
        .ok w
      else .ok w
  -- `use` does nothing.
  | some .food | none => .ok w

/-- `object::pickup(obj)`. -/
def objectPickup (w : World) (holder obj : Ref) : Except Fault (World × Bool) := do
  let o ← read w obj
  if o.parent = none then do
    let p ← read w holder
    let w ← handlePickup (write w holder { p with inventory := insert obj p.inventory }) obj holder
    .ok (w, true)
  else .ok (w, false)

/-- `player::pickup(obj, max_dist)`: `near` is that the object is not too far away. -/
def pickup (w : World) (plr : Ref) (obj : Option Ref) (near : Bool) :
    Except Fault (World × Bool) :=
  match obj with
  | none => .error .nullPointer
  | some x => do
      let o ← read w x
      if o.parent = none ∧ near then objectPickup w plr x
      else .ok (w, false)

/-- `object::drop(obj, x, y)`. -/
def objectDrop (w : World) (holder obj : Ref) : Except Fault (World × Bool) := do
  let p ← read w holder
  if obj ∈ p.inventory then do
    let w ← setPosition (write w holder { p with inventory := p.inventory.erase obj }) obj
    let o ← read w obj
    .ok (write w obj { o with parent := none }, true)
  else .ok (w, false)

/-- `player::drop(obj, max_dist, x, y)`. NULL is in no inventory. -/
def drop (w : World) (plr : Ref) (obj : Option Ref) : Except Fault (World × Bool) :=
  match obj with
  | none => .ok (w, false)
  | some x => do
      let p ← read w plr
      if x ∈ p.inventory then do
        let (w, _) ← dequip w plr (some x)
        -- `unit::drop` does so again.
        let (w, _) ← dequip w plr (some x)
        objectDrop w plr x
      else .ok (w, false)

/-! ### Objects that come and go -/

/-- An object of a map with what its inventory has, and the addresses they get. Where an object of
an inventory cannot be created, there are no further ones. -/
inductive FileObject where
  | mk (ref : Ref) (info : ObjectInfo) (inventory : List FileObject)

def FileObject.ref : FileObject → Ref
  | .mk ref _ _ => ref

def FileObject.inventory : FileObject → List FileObject
  | .mk _ _ inventory => inventory

mutual

def createObjectFromFile (w : World) : FileObject → Except Fault World
  | .mk ref info inventory => do
      let w ← allocate w ref { info := info }
      let w ← setPosition w ref
      createInventory w ref inventory

/-- The loop over the inventory. -/
def createInventory (w : World) (owner : Ref) : List FileObject → Except Fault World
  | [] => .ok w
  | child :: rest => do
      let w ← createObjectFromFile w child
      let o ← read w owner
      createInventory (write w owner { o with inventory := insert child.ref o.inventory }) owner
        rest

end

/-- The pickups of `respawn()`, of new objects. -/
def giveItems (w : World) (plr : Ref) : List (Ref × ObjectInfo) → Except Fault World
  | [] => .ok w
  | item :: items => do
      let w ← allocate w item.1 { info := item.2 }
      let (w, _) ← pickup w plr (some item.1) true
      giveItems w plr items

/-- `respawn()`: the items are street pants and street sneakers, if thing.bin has them. -/
def respawn (w : World) (plr : Ref) (items : List (Ref × ObjectInfo)) : Except Fault World := do
  let w ← setPosition w plr
  giveItems w plr items

/-- `logout()`: the body is destroyed and the player deleted. -/
def logout (w : World) (plr : Ref) : Except Fault World := do
  let _ ← read w plr
  .ok (Function.update w plr none)

/-! ### Runs -/

/-- What happens to objects. An object is named by a client; NULL is what an extent stands for
that no object has. -/
inductive Event where
  | load (file : FileObject)
  | login (plr : Ref) (info : ObjectInfo)
  | respawn (plr : Ref) (items : List (Ref × ObjectInfo))
  | tryGet (plr : Ref) (obj : Option Ref) (near : Bool)
  | tryDrop (plr : Ref) (obj : Option Ref)
  | tryEquip (plr : Ref) (obj : Option Ref)
  | tryDequip (plr : Ref) (obj : Option Ref)
  | logout (plr : Ref)

def perform (w : World) : Event → Except Fault World
  | .load file => createObjectFromFile w file
  | .login plr info => allocate w plr { info := info, isUnit := true }
  | .respawn plr items => Possessions.respawn w plr items
  | .tryGet plr obj near => do
      let (w, _) ← pickup w plr obj near
      .ok w
  | .tryDrop plr obj => do
      let (w, _) ← drop w plr obj
      .ok w
  | .tryEquip plr obj => do
      let (w, _) ← equip w plr obj
      .ok w
  | .tryDequip plr obj => do
      let (w, _) ← dequip w plr obj
      .ok w
  | .logout plr => Possessions.logout w plr

/-- The session of the event, if there is one, has a player. -/
def Allowed (w : World) : Event → Prop
  | .load _ | .login _ _ => True
  | .respawn plr _ | .tryGet plr _ _ | .tryDrop plr _ | .tryEquip plr _ | .tryDequip plr _
  | .logout plr => ∃ p, w plr = some p ∧ p.isUnit = true

def Step (w : World) (event : Event) (t : World) : Prop :=
  Allowed w event ∧ perform w event = .ok t

/-- `get_parent()` of what there is. -/
def parentOf (w : World) (r : Ref) : Option Ref := (w r).bind Object.parent

/-- Both notes of who holds what agree, no parent is gone, no object is its own ancestor, and what
is held has no body. -/
structure OneRelation (w : World) : Prop where
  agree : ∀ o p a b, w o = some a → w p = some b → (o ∈ b.inventory ↔ a.parent = some p)
  alive : ∀ o a p, w o = some a → a.parent = some p → ∃ b, w p = some b
  acyclic : ∀ o, ¬ Above (parentOf w) o o
  bodiless : ∀ o a, w o = some a → a.parent ≠ none → a.hasBody = false

/-- The address is in no inventory, but maybe in that of the given object. -/
def Unnoted (w : World) (r : Ref) (except : Option Ref) : Prop :=
  ∀ p b, w p = some b → r ∈ b.inventory → some p = except

/-- Objects of a map are not nested; a new object is not at an address that is left in an
inventory; a player is not held when it respawns, picks up nothing that is above it, and holds
nothing when it logs out. -/
def Orderly (w : World) : Event → Prop
  | .load file => file.inventory = [] ∧ Unnoted w file.ref none
  | .login plr _ => Unnoted w plr none
  | .respawn plr items => parentOf w plr = none ∧ ∀ item ∈ items, Unnoted w item.1 (some plr)
  | .tryGet plr (some x) near => near = true → parentOf w x = none →
      x ≠ plr ∧ ¬ Above (parentOf w) plr x
  | .logout plr => ∀ p, w plr = some p → ∀ x a, w x = some a → x ∉ p.inventory
  | _ => True

def nothing : World := fun _ => none

/-! ### Objects as things -/

/-- What is noted of who holds an object. -/
def Object.thing (o : Object) : Thing Ref := ⟨o.parent, o.inventory, o.hasBody⟩

def things (w : World) : Things Ref := fun r => (w r).map Object.thing

theorem things_of {w : World} {r : Ref} {o : Object} (here : w r = some o) :
    things w r = some o.thing := by
  rw [things, here, Option.map_some]

theorem of_things {w : World} {r : Ref} {a : Thing Ref} (here : things w r = some a) :
    ∃ o, w r = some o ∧ o.thing = a := Option.map_eq_some_iff.mp here

theorem holderOf_things (w : World) : holderOf (things w) = parentOf w := by
  funext r
  unfold holderOf things parentOf
  cases w r with
  | none => rfl
  | some o => rfl

/-- The objects' notes are one relation exactly if the things are consistent. -/
theorem oneRelation_iff {w : World} : OneRelation w ↔ Consistent (things w) := by
  constructor
  · intro one
    refine ⟨fun x p a b here there => ?_, fun x a p here held => ?_, ?_, fun x a here held => ?_⟩
    · obtain ⟨o, is, rfl⟩ := of_things here
      obtain ⟨q, is', rfl⟩ := of_things there
      exact one.agree x p o q is is'
    · obtain ⟨o, is, rfl⟩ := of_things here
      obtain ⟨q, is'⟩ := one.alive x o p is held
      exact ⟨q.thing, things_of is'⟩
    · rw [holderOf_things]
      exact one.acyclic
    · obtain ⟨o, is, rfl⟩ := of_things here
      exact one.bodiless x o is held
  · intro consistent
    refine ⟨fun x p o q here there => ?_, fun x o p here held => ?_, ?_, fun x o here held => ?_⟩
    · exact consistent.both x p o.thing q.thing (things_of here) (things_of there)
    · obtain ⟨b, is⟩ := consistent.alive x o.thing p (things_of here) held
      obtain ⟨q, is', -⟩ := of_things is
      exact ⟨q, is'⟩
    · rw [← holderOf_things]
      exact consistent.acyclic
    · exact consistent.unplaced x o.thing (things_of here) held

theorem unnoted_none_iff {w : World} {r : Ref} :
    Unnoted w r none ↔ ∀ p b, things w p = some b → r ∉ b.contents := by
  constructor
  · intro unnoted p b here mem
    obtain ⟨o, is, rfl⟩ := of_things here
    cases unnoted p o is mem
  · intro unnoted p o here mem
    exact absurd mem (unnoted p o.thing (things_of here))

theorem unnoted_some_iff {w : World} {r plr : Ref} :
    Unnoted w r (some plr) ↔ ∀ p b, things w p = some b → r ∈ b.contents → p = plr := by
  constructor
  · intro unnoted p b here mem
    obtain ⟨o, is, rfl⟩ := of_things here
    exact Option.some.inj (unnoted p o is mem)
  · intro unnoted p o here mem
    rw [unnoted p o.thing (things_of here) mem]

/-! ### What the functions do to things -/

theorem read_eq_ok {w : World} {r : Ref} {o : Object} (run : read w r = .ok o) :
    w r = some o := by
  unfold read at run
  split at run
  · next here =>
      cases run
      exact here
  · cases run

theorem things_write (w : World) (r : Ref) (o : Object) :
    things (write w r o) = Function.update (things w) r (some o.thing) := by
  funext r'
  unfold things write
  by_cases here : r' = r
  · rw [here, Function.update_self, Function.update_self, Option.map_some]
  · rw [Function.update_of_ne here, Function.update_of_ne here]

/-- Equipment is not noted. -/
theorem things_equipment {w : World} {r : Ref} {o : Object} (here : w r = some o)
    (equipment : Fin slotSize → Option Ref) :
    things (write w r { o with equipment := equipment }) = things w := by
  rw [things_write, Function.update_eq_self_iff, things_of here]
  rfl

theorem dequip_things {w t : World} {unit : Ref} {obj : Option Ref} {done : Bool}
    (run : dequip w unit obj = .ok (t, done)) : things t = things w := by
  unfold dequip at run
  cases obj with
  | none =>
      cases run
      rfl
  | some x =>
      obtain ⟨o, -, run⟩ := bind_eq_ok.mp run
      split at run
      · obtain ⟨u, access, run⟩ := bind_eq_ok.mp run
        split at run
        · cases run
          rfl
        · cases run
          exact things_equipment (read_eq_ok access) _
      · cases run
        rfl

/-- What is put on changes nothing of who holds what. -/
theorem equip_things {w t : World} {unit : Ref} {obj : Option Ref} {done : Bool}
    (run : equip w unit obj = .ok (t, done)) : things t = things w := by
  unfold equip at run
  cases obj with
  | none =>
      cases run
      rfl
  | some x =>
      obtain ⟨o, -, run⟩ := bind_eq_ok.mp run
      split at run
      · split at run
        · cases run
          rfl
        · obtain ⟨⟨w₁, _⟩, first, run⟩ := bind_eq_ok.mp run
          obtain ⟨u, -, run⟩ := bind_eq_ok.mp run
          obtain ⟨⟨w₂, _⟩, second, run⟩ := bind_eq_ok.mp run
          obtain ⟨u', access, run⟩ := bind_eq_ok.mp run
          cases run
          rw [things_equipment (read_eq_ok access), dequip_things second, dequip_things first]
      · cases run
        rfl

theorem setPosition_things {w t : World} {obj : Ref} (run : setPosition w obj = .ok t) :
    (∃ o, w obj = some o) ∧ things t = place (things w) obj := by
  obtain ⟨o, access, run⟩ := bind_eq_ok.mp run
  have here := read_eq_ok access
  cases run
  refine ⟨⟨o, here⟩, ?_⟩
  rw [things_write]
  funext r
  unfold place
  by_cases own : r = obj
  · rw [own, Function.update_self, things_of here, Option.map_some, if_pos rfl]
    rfl
  · rw [Function.update_of_ne own]
    cases things w r with
    | none => rfl
    | some a => rw [Option.map_some, if_neg own]

theorem allocate_eq_ok {w t : World} {r : Ref} {o : Object} (run : allocate w r o = .ok t) :
    w r = none ∧ t = write w r o := by
  unfold allocate at run
  split at run
  · cases run
  · next free =>
      cases run
      exact ⟨free, rfl⟩

theorem things_none {w : World} {r : Ref} (free : w r = none) : things w r = none := by
  rw [things, free, Option.map_none]

/-- A new object is held by none and holds nothing. -/
theorem things_new (w : World) (r : Ref) {o : Object} (top : o.parent = none)
    (empty : o.inventory = ∅) : things (write w r o) = create (things w) r o.hasBody := by
  rw [things_write, Object.thing, top, empty]
  rfl

theorem logout_things {w t : World} {plr : Ref} (run : logout w plr = .ok t) :
    (∃ p, w plr = some p) ∧ things t = delete (things w) plr := by
  obtain ⟨p, access, run⟩ := bind_eq_ok.mp run
  cases run
  refine ⟨⟨p, read_eq_ok access⟩, ?_⟩
  funext r
  unfold things delete
  by_cases own : r = plr
  · rw [own, Function.update_self, Function.update_self, Option.map_none]
  · rw [Function.update_of_ne own, Function.update_of_ne own]

/-- What a pickup handler changes of who holds what is the parent of the object and that it has no
body, whatever it puts on. -/
theorem handlePickup_things {w t : World} {obj parent : Ref}
    (run : handlePickup w obj parent = .ok t) :
    ∃ o, w obj = some o ∧ things t = Function.update (things w) obj
      (some ⟨some parent, o.inventory, false⟩) := by
  unfold handlePickup at run
  obtain ⟨o, access, run⟩ := bind_eq_ok.mp run
  refine ⟨o, read_eq_ok access, ?_⟩
  have noted : things (write w obj { o with parent := some parent, hasBody := false }) =
      Function.update (things w) obj (some ⟨some parent, o.inventory, false⟩) := things_write ..
  have equips (run : (do
      let p ← read (write w obj { o with parent := some parent, hasBody := false }) parent
      if p.isUnit then do
        let (w, _) ← equip (write w obj { o with parent := some parent, hasBody := false }) parent
          (some obj)
        .ok w
      else .ok (write w obj { o with parent := some parent, hasBody := false })) = .ok t) :
      things t = things (write w obj { o with parent := some parent, hasBody := false }) := by
    obtain ⟨p, -, run⟩ := bind_eq_ok.mp run
    split at run
    · obtain ⟨⟨w', _⟩, equips, run⟩ := bind_eq_ok.mp run
      cases run
      exact equip_things equips
    · cases run
      rfl
  rw [← noted]
  dsimp only at run
  split at run
  · exact equips run
  · exact equips run
  · cases run
    rfl
  · cases run
    rfl

/-- A pickup of what has a parent changes nothing, and any other hangs it on the holder, whatever
its handler puts on. -/
theorem objectPickup_things {w t : World} {holder obj : Ref} {taken : Bool}
    (run : objectPickup w holder obj = .ok (t, taken)) :
    ∃ o, w obj = some o ∧ (o.parent ≠ none ∧ t = w ∨
      o.parent = none ∧ (∃ p, w holder = some p) ∧ things t = hang (things w) obj holder) := by
  unfold objectPickup at run
  obtain ⟨o, access, run⟩ := bind_eq_ok.mp run
  have here := read_eq_ok access
  refine ⟨o, here, ?_⟩
  split at run
  · next free =>
      obtain ⟨p, access', run⟩ := bind_eq_ok.mp run
      have there := read_eq_ok access'
      obtain ⟨w', picks, run⟩ := bind_eq_ok.mp run
      cases run
      obtain ⟨o', here', after⟩ := handlePickup_things picks
      refine .inr ⟨free, ⟨p, there⟩, ?_⟩
      rw [after, things_write]
      have now : things (write w holder { p with inventory := insert obj p.inventory }) obj =
          some o'.thing := things_of here'
      rw [things_write] at now
      exact (hang_eq_update (things_of there) now).symm
  · next held =>
      cases run
      exact .inl ⟨held, rfl⟩

/-- A player takes up what is held by none and near. -/
theorem pickup_things {w t : World} {plr x : Ref} {near taken : Bool}
    (run : pickup w plr (some x) near = .ok (t, taken)) :
    ∃ o, w x = some o ∧ (¬ (o.parent = none ∧ near = true) ∧ t = w ∨
      (o.parent = none ∧ near = true) ∧ (∃ p, w plr = some p) ∧
        things t = hang (things w) x plr) := by
  unfold pickup at run
  obtain ⟨o, access, run⟩ := bind_eq_ok.mp run
  have here := read_eq_ok access
  refine ⟨o, here, ?_⟩
  split at run
  · next free =>
      obtain ⟨o', here', ⟨held, -⟩ | ⟨-, there, after⟩⟩ := objectPickup_things run
      · cases here.symm.trans here'
        exact absurd free.1 held
      · exact .inr ⟨free, there, after⟩
  · next refused =>
      cases run
      exact .inl ⟨refused, rfl⟩

/-- A drop of what the holder does not list changes nothing, and any other takes it from the holder:
of who holds what nothing else is changed. -/
theorem objectDrop_things {w t : World} {holder x : Ref} {dropped : Bool}
    (run : objectDrop w holder x = .ok (t, dropped)) :
    ∃ p, w holder = some p ∧ (x ∉ p.inventory ∧ t = w ∨
      x ∈ p.inventory ∧ (∃ o, w x = some o) ∧ things t = take (things w) x holder) := by
  unfold objectDrop at run
  obtain ⟨p, access, run⟩ := bind_eq_ok.mp run
  have there := read_eq_ok access
  refine ⟨p, there, ?_⟩
  split at run
  · next mem =>
      obtain ⟨w₁, moves, run⟩ := bind_eq_ok.mp run
      obtain ⟨⟨o₀, here₀⟩, moved⟩ := setPosition_things moves
      obtain ⟨o, access', run⟩ := bind_eq_ok.mp run
      have here := read_eq_ok access'
      cases run
      have live : ∃ o, w x = some o := by
        by_cases self : x = holder
        · rw [self]
          exact ⟨p, there⟩
        · exact ⟨o₀, (Function.update_of_ne self ..).symm.trans here₀⟩
      refine .inr ⟨mem, live, ?_⟩
      have now : things w₁ x = some o.thing := things_of here
      rw [moved, things_write] at now
      rw [things_write, moved, things_write]
      exact (take_eq_update (things_of there) now).symm
  · next absent =>
      cases run
      exact .inl ⟨absent, rfl⟩

/-- A player puts down what it has. -/
theorem drop_things {w t : World} {plr : Ref} {obj : Option Ref} {dropped : Bool}
    (run : drop w plr obj = .ok (t, dropped)) :
    things t = things w ∨ ∃ x o p, w x = some o ∧ w plr = some p ∧ x ∈ p.inventory ∧
      things t = take (things w) x plr := by
  unfold drop at run
  cases obj with
  | none =>
      cases run
      exact .inl rfl
  | some x =>
      obtain ⟨p, access, run⟩ := bind_eq_ok.mp run
      have there := read_eq_ok access
      dsimp only at run
      split at run
      · next mem =>
          obtain ⟨⟨w₁, _⟩, first, run⟩ := bind_eq_ok.mp run
          obtain ⟨⟨w₂, _⟩, second, run⟩ := bind_eq_ok.mp run
          have same : things w₂ = things w := (dequip_things second).trans (dequip_things first)
          obtain ⟨q, -, ⟨-, after⟩ | ⟨-, ⟨o, live⟩, after⟩⟩ := objectDrop_things run
          · rw [after, same]
            exact .inl rfl
          · have noted := things_of live
            rw [same] at noted after
            obtain ⟨o', live', -⟩ := of_things noted
            exact .inr ⟨x, o', p, live', there, mem, after⟩
      · cases run
        exact .inl rfl

/-! ### New objects -/

theorem pickup_new {w t : World} {plr x : Ref} {info : ObjectInfo} {taken : Bool}
    (new : w x = some { info := info }) (run : pickup w plr (some x) true = .ok (t, taken)) :
    (∃ p, w plr = some p) ∧ things t = hang (things w) x plr := by
  obtain ⟨o, here, ⟨refused, -⟩ | ⟨-, there, after⟩⟩ := pickup_things run
  · cases new.symm.trans here
    exact absurd ⟨rfl, rfl⟩ refused
  · exact ⟨there, after⟩

/-- New objects may be given to a player exactly if no other object notes them. -/
theorem consistent_giveItems_iff {plr : Ref} {items : List (Ref × ObjectInfo)} {w t : World}
    (live : ∃ p, w plr = some p) (run : giveItems w plr items = .ok t) :
    Consistent (things t) ↔
      Consistent (things w) ∧ ∀ item ∈ items, Unnoted w item.1 (some plr) := by
  induction items generalizing w with
  | nil =>
      cases run
      simp
  | cons item items ih =>
      obtain ⟨w₁, allocates, next⟩ := bind_eq_ok.mp run
      obtain ⟨free, rfl⟩ := allocate_eq_ok allocates
      obtain ⟨⟨w₂, _⟩, picks, gives⟩ := bind_eq_ok.mp next
      obtain ⟨p, there⟩ := live
      obtain ⟨-, hangs⟩ := pickup_new (Function.update_self ..) picks
      have news : things (write w item.1 { info := item.2 }) = create (things w) item.1 false :=
        things_new w item.1 rfl rfl
      have after : things w₂ = give (things w) item.1 plr := by
        rw [hangs, give, ← news, write]
      have live' : ∃ p, w₂ plr = some p := by
        obtain ⟨b, is⟩ := exists_give (x := item.1) (things_none free) (things_of there)
        rw [← after] at is
        obtain ⟨p', is', -⟩ := of_things is
        exact ⟨p', is'⟩
      rw [ih live' gives, List.forall_mem_cons, ← and_assoc, after,
        consistent_give_iff (things_none free) (things_of there), unnoted_some_iff]
      refine and_congr_right fun _ => forall₂_congr fun later _ => ?_
      rw [unnoted_some_iff, unnoted_some_iff, after,
        give_noted_iff (things_none free) (things_of there)]

theorem consistent_respawn_iff {plr : Ref} {items : List (Ref × ObjectInfo)} {w t : World}
    (consistent : Consistent (things w)) (run : respawn w plr items = .ok t) :
    Consistent (things t) ↔
      parentOf w plr = none ∧ ∀ item ∈ items, Unnoted w item.1 (some plr) := by
  obtain ⟨w₁, moves, gives⟩ := bind_eq_ok.mp run
  obtain ⟨⟨p, there⟩, placed⟩ := setPosition_things moves
  have live : ∃ p, w₁ plr = some p := by
    obtain ⟨b, is⟩ := exists_place (things_of there) (x := plr)
    rw [← placed] at is
    obtain ⟨p', is', -⟩ := of_things is
    exact ⟨p', is'⟩
  have top : parentOf w plr = none ↔ p.thing.holder = none := by
    rw [parentOf, there, Option.bind_some, Object.thing]
  rw [consistent_giveItems_iff live gives, placed,
    consistent_place_iff consistent (things_of there), top]
  refine and_congr_right fun _ => forall₂_congr fun item _ => ?_
  rw [unnoted_some_iff, unnoted_some_iff, placed, place_noted_iff]

/-! ### Objects of a map -/

/-- No object is gone or changes hands, and none holds less. -/
def Grows (w t : World) : Prop :=
  ∀ r o, w r = some o → ∃ o', t r = some o' ∧ o'.parent = o.parent ∧ o.inventory ⊆ o'.inventory

theorem Grows.refl (w : World) : Grows w w :=
  fun _ o here => ⟨o, here, rfl, subset_rfl⟩

theorem Grows.trans {w m t : World} (first : Grows w m) (second : Grows m t) : Grows w t := by
  intro r o here
  obtain ⟨o₁, here₁, parent₁, more₁⟩ := first r o here
  obtain ⟨o₂, here₂, parent₂, more₂⟩ := second r o₁ here₁
  exact ⟨o₂, here₂, parent₂.trans parent₁, more₁.trans more₂⟩

theorem Grows.write {w : World} {r : Ref} {o : Object}
    (more : ∀ o₀, w r = some o₀ → o.parent = o₀.parent ∧ o₀.inventory ⊆ o.inventory) :
    Grows w (write w r o) := by
  intro r' o' here
  by_cases own : r' = r
  · subst own
    exact ⟨o, Function.update_self .., more o' here⟩
  · exact ⟨o', (Function.update_of_ne own ..).trans here, rfl, subset_rfl⟩

mutual

/-- A map object is not held by any. -/
theorem createObjectFromFile_grows : ∀ (file : FileObject) {w t : World},
    createObjectFromFile w file = .ok t →
      Grows w t ∧ ∃ o, t file.ref = some o ∧ o.parent = none
  | .mk ref info inventory, w, t, run => by
      rw [createObjectFromFile] at run
      obtain ⟨w₁, allocates, next⟩ := bind_eq_ok.mp run
      obtain ⟨w₂, moves, creates⟩ := bind_eq_ok.mp next
      obtain ⟨free, rfl⟩ := allocate_eq_ok allocates
      obtain ⟨o, access, placed⟩ := bind_eq_ok.mp moves
      have same : write w ref { info := info } ref = some { info := info } :=
        Function.update_self ..
      cases same.symm.trans (read_eq_ok access)
      cases placed
      have rest := createInventory_grows inventory creates
      refine ⟨Grows.trans (.write ?_) (.trans (.write ?_) rest), ?_⟩
      · intro o₀ here
        cases free.symm.trans here
      · intro o₀ here
        cases same.symm.trans here
        exact ⟨rfl, subset_rfl⟩
      · obtain ⟨o', here', top, -⟩ := rest ref _ (Function.update_self ..)
        exact ⟨o', here', top⟩

theorem createInventory_grows : ∀ (inventory : List FileObject) {w t : World} {owner : Ref},
    createInventory w owner inventory = .ok t → Grows w t
  | [], w, t, owner, run => by
      rw [createInventory] at run
      cases run
      exact .refl w
  | child :: rest, w, t, owner, run => by
      rw [createInventory] at run
      obtain ⟨w₁, creates, next⟩ := bind_eq_ok.mp run
      obtain ⟨o, access, others⟩ := bind_eq_ok.mp next
      refine (createObjectFromFile_grows child creates).1.trans
        (.trans (.write ?_) (createInventory_grows rest others))
      intro o₀ here
      cases (read_eq_ok access).symm.trans here
      exact ⟨rfl, Finset.subset_insert ..⟩

end

/-- What is nested in a map object is in its inventory, but has no parent. -/
theorem createInventory_nested {child : FileObject} {rest : List FileObject} {w t : World}
    {owner : Ref} (run : createInventory w owner (child :: rest) = .ok t) :
    ∃ o p, t child.ref = some o ∧ t owner = some p ∧ child.ref ∈ p.inventory ∧ o.parent = none := by
  rw [createInventory] at run
  obtain ⟨w₁, creates, next⟩ := bind_eq_ok.mp run
  obtain ⟨p, access, others⟩ := bind_eq_ok.mp next
  obtain ⟨-, o, here, top⟩ := createObjectFromFile_grows child creates
  have first : Grows w₁ (write w₁ owner { p with inventory := insert child.ref p.inventory }) :=
    .write fun o₀ here => by
      cases (read_eq_ok access).symm.trans here
      exact ⟨rfl, Finset.subset_insert ..⟩
  have rest := createInventory_grows rest others
  obtain ⟨o', here', top', -⟩ := first.trans rest _ o here
  obtain ⟨p', there', -, more⟩ := rest owner _ (Function.update_self ..)
  exact ⟨o', p', here', there', more (Finset.mem_insert_self ..), top'.trans top⟩

/-- Loading keeps the notes one relation exactly if nothing is nested, and no object notes the
address already. -/
theorem oneRelation_load_iff {file : FileObject} {w t : World} (one : OneRelation w)
    (run : createObjectFromFile w file = .ok t) :
    OneRelation t ↔ file.inventory = [] ∧ Unnoted w file.ref none := by
  obtain ⟨ref, info, inventory⟩ := file
  rw [createObjectFromFile] at run
  obtain ⟨w₁, allocates, next⟩ := bind_eq_ok.mp run
  obtain ⟨w₂, moves, creates⟩ := bind_eq_ok.mp next
  obtain ⟨free, rfl⟩ := allocate_eq_ok allocates
  cases inventory with
  | nil =>
      rw [createInventory] at creates
      cases creates
      have created : things t = create (things w) ref true := by
        rw [(setPosition_things moves).2, things_new w ref rfl rfl, place_create]
      rw [oneRelation_iff, created, consistent_create_iff (things_none free), ← oneRelation_iff,
        and_iff_right one, FileObject.inventory, FileObject.ref, unnoted_none_iff,
        and_iff_right rfl]
  | cons child rest =>
      obtain ⟨o, p, here, there, mem, top⟩ := createInventory_nested creates
      refine iff_of_false (fun after => ?_) nofun
      cases top.symm.trans ((after.agree child.ref ref o p here there).mp mem)

/-! ### What a step keeps -/

/-- Pickups keep the notes one relation exactly if nothing is picked up by itself or by what is
below it. -/
theorem oneRelation_tryGet_iff {plr : Ref} {obj : Option Ref} {near taken : Bool} {w t : World}
    (one : OneRelation w) (run : pickup w plr obj near = .ok (t, taken)) :
    OneRelation t ↔ Orderly w (.tryGet plr obj near) := by
  cases obj with
  | none => cases run
  | some x =>
      have consistent := oneRelation_iff.mp one
      obtain ⟨o, here, ⟨refused, rfl⟩ | ⟨free, ⟨p, there⟩, after⟩⟩ := pickup_things run
      · refine iff_of_true one fun close top => absurd ⟨?_, close⟩ refused
        rwa [parentOf, here, Option.bind_some] at top
      · have top : parentOf w x = none := by
          rw [parentOf, here, Option.bind_some, free.1]
        rw [oneRelation_iff, after,
          consistent_hang_iff consistent (things_of here) free.1 (things_of there),
          holderOf_things]
        exact ⟨fun apart _ _ => apart, fun orderly => orderly free.2 top⟩

theorem oneRelation_logout_iff {plr : Ref} {w t : World} (one : OneRelation w)
    (run : logout w plr = .ok t) : OneRelation t ↔ Orderly w (.logout plr) := by
  have consistent := oneRelation_iff.mp one
  obtain ⟨⟨p, there⟩, after⟩ := logout_things run
  rw [oneRelation_iff, after, consistent_delete_iff consistent (things_of there)]
  constructor
  · intro empty p' there' x o here
    cases there.symm.trans there'
    exact empty x o.thing (things_of here)
  · intro orderly x a here
    obtain ⟨o, is, rfl⟩ := of_things here
    exact orderly p there x o is

theorem oneRelation_drop {plr : Ref} {obj : Option Ref} {dropped : Bool} {w t : World}
    (one : OneRelation w) (run : drop w plr obj = .ok (t, dropped)) : OneRelation t := by
  have consistent := oneRelation_iff.mp one
  rw [oneRelation_iff]
  obtain same | ⟨x, o, p, here, there, mem, after⟩ := drop_things run
  · rwa [same]
  · rw [after]
    exact consistent.take (things_of here) (things_of there) mem

/-- An event keeps the notes one relation exactly if it is orderly. -/
theorem oneRelation_iff_orderly {w t : World} {event : Event} (one : OneRelation w)
    (step : Step w event t) : OneRelation t ↔ Orderly w event := by
  have consistent := oneRelation_iff.mp one
  obtain ⟨-, run⟩ := step
  cases event with
  | load file => exact oneRelation_load_iff one run
  | login plr info =>
      obtain ⟨free, rfl⟩ := allocate_eq_ok run
      rw [oneRelation_iff, things_new w plr rfl rfl,
        consistent_create_iff (things_none free), and_iff_right consistent]
      exact unnoted_none_iff.symm
  | respawn plr items =>
      rw [oneRelation_iff]
      exact consistent_respawn_iff consistent run
  | tryGet plr obj near =>
      obtain ⟨⟨w', taken⟩, picks, done⟩ := bind_eq_ok.mp run
      cases done
      exact oneRelation_tryGet_iff one picks
  | tryDrop plr obj =>
      obtain ⟨⟨w', dropped⟩, drops, done⟩ := bind_eq_ok.mp run
      cases done
      exact iff_of_true (oneRelation_drop one drops) trivial
  | tryEquip plr obj =>
      obtain ⟨⟨w', _⟩, equips, done⟩ := bind_eq_ok.mp run
      cases done
      refine iff_of_true ?_ trivial
      rwa [oneRelation_iff, equip_things equips]
  | tryDequip plr obj =>
      obtain ⟨⟨w', _⟩, dequips, done⟩ := bind_eq_ok.mp run
      cases done
      refine iff_of_true ?_ trivial
      rwa [oneRelation_iff, dequip_things dequips]
  | logout plr => exact oneRelation_logout_iff one run

theorem oneRelation_nothing : OneRelation nothing :=
  oneRelation_iff.mpr Consistent.empty

/-! ### Runs of the world -/

/-- The world after an event that is carried out. -/
def result (w : World) (event : Event) : World :=
  match perform w event with
  | .ok t => t
  | .error _ => w

theorem step_result {w : World} {event : Event} (allowed : Allowed w event)
    (done : (perform w event).isOk = true) : Step w event (result w event) := by
  refine ⟨allowed, ?_⟩
  unfold result
  cases run : perform w event with
  | error fault =>
      rw [run] at done
      cases done
  | ok t => rfl

def potion : ObjectInfo := { subclass := 0 }
def streetPants : ObjectInfo := { subclass := 2, pickup := some .armor }
def newPlayer : ObjectInfo := { subclass := 0 }

def loadsPotion : Event := .load (.mk 0 potion [])

def withPotion : World := result nothing loadsPotion
def loggedIn : World := result withPotion (.login 1 newPlayer)
def respawned : World := result loggedIn (.respawn 1 [(2, streetPants)])
def holding : World := result respawned (.tryGet 1 (some 0) true)
def withPants : World := result holding (.tryDrop 1 (some 0))
def emptyHanded : World := result withPants (.tryDrop 1 (some 2))

/-- In every run from nothing whose events are orderly, who holds what is one relation: a unit lists
just what has it as parent, no parent is gone, no object is above itself, and what is held has no
body. `oneRelation_iff_orderly` shows for each event that just the orderly ones keep it so. -/
theorem one_relation {events : List Event} {w : World}
    (run : Run (guarded Orderly Step) nothing events w) : OneRelation w :=
  run.invariant
    (fun _ _ _ one step => (oneRelation_iff_orderly one step.2).mpr step.1) oneRelation_nothing

theorem unnoted_write {w : World} {r x : Ref} {o : Object} {except : Option Ref}
    (unnoted : Unnoted w r except) (empty : o.inventory = ∅) :
    Unnoted (write w x o) r except := by
  intro p b there mem
  by_cases own : p = x
  · subst own
    have same : write w p o p = some o := Function.update_self ..
    cases same.symm.trans there
    rw [empty] at mem
    exact absurd mem (Finset.notMem_empty r)
  · exact unnoted p b ((Function.update_of_ne own ..).symm.trans there) mem

theorem unnoted_nothing (r : Ref) (except : Option Ref) : Unnoted nothing r except :=
  fun _ _ there => nomatch there

/-- A player comes, takes a potion, leaves all it has and goes. -/
theorem one_relation_of_visit : ∃ w,
    Run (guarded Orderly Step) nothing
      [loadsPotion, .login 1 newPlayer, .respawn 1 [(2, streetPants)], .tryGet 1 (some 0) true,
        .tryDrop 1 (some 0), .tryDrop 1 (some 2), .logout 1] w ∧
      parentOf holding 0 = some 1 ∧ parentOf holding 2 = some 1 ∧ OneRelation w := by
  have run : Run (guarded Orderly Step) nothing
      [loadsPotion, .login 1 newPlayer, .respawn 1 [(2, streetPants)], .tryGet 1 (some 0) true,
        .tryDrop 1 (some 0), .tryDrop 1 (some 2), .logout 1] (result emptyHanded (.logout 1)) := by
    refine .cons ⟨⟨rfl, unnoted_nothing 0 none⟩, step_result trivial (by decide +kernel)⟩ ?_
    refine .cons ⟨?_, step_result trivial (by decide +kernel)⟩ ?_
    · exact unnoted_write (unnoted_write (unnoted_nothing 1 none) rfl) rfl
    refine .cons ⟨⟨rfl, ?_⟩, step_result ⟨_, rfl, rfl⟩ (by decide +kernel)⟩ ?_
    · rw [List.forall_mem_singleton]
      exact unnoted_write (unnoted_write (unnoted_write (unnoted_nothing 2 (some 1)) rfl) rfl) rfl
    refine .cons ⟨?_, step_result ⟨_, rfl, rfl⟩ (by decide +kernel)⟩ ?_
    · intro _ _
      refine ⟨by decide, fun above => ?_⟩
      obtain ⟨p, is⟩ := above.holder
      cases is
    refine .cons ⟨trivial, step_result ⟨_, rfl, rfl⟩ (by decide +kernel)⟩ ?_
    refine .cons ⟨trivial, step_result ⟨_, rfl, rfl⟩ (by decide +kernel)⟩ ?_
    refine .single ⟨?_, step_result ⟨_, rfl, rfl⟩ (by decide +kernel)⟩
    intro p there x a _ mem
    have empty : (emptyHanded 1).map Object.inventory = some ∅ := by decide +kernel
    have same : (emptyHanded 1).map Object.inventory = some p.inventory :=
      congrArg (Option.map Object.inventory) there
    rw [Option.some.inj (same.symm.trans empty)] at mem
    exact Finset.notMem_empty x mem
  exact ⟨_, run, rfl, rfl, one_relation run⟩

/-- A chest with a potion in it. -/
def loadsChest : Event := .load (.mk 0 { subclass := 0 } [.mk 1 potion []])

/-- The potion in the chest has no parent. -/
theorem relation_splits : ¬ ∀ events w, Run Step nothing events w → OneRelation w := by
  intro all
  have one := all [loadsChest] (result nothing loadsChest)
    (.single (step_result trivial (by decide +kernel)))
  have held := (one.agree 1 0 _ _ rfl rfl).mp (by decide +kernel)
  cases held

end Possessions

end Awesie

end NoxServer
