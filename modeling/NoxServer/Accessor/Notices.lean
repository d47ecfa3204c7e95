import Mathlib.Data.Finset.Sort
import NoxServer.Accessor.Introductions
import NoxServer.Library.Loops

/-!
Who is told that an object has moved (`WorldObject::SetPosition`).

The players that can see the old place and those that can see the new one are found before the
object moves. The latter are given the object to be updated, and the rest of the former a
MSG_OBJECT_OUT_OF_SIGHT, which `SendPacket` drops for a session without a socket and for one
that is loading; if the object is then in an inventory, all of the former are. The sets are gone
through in the order of the players' addresses, which does not matter (`setPosition_eq`).
-/

namespace NoxServer.Accessor

open Loops Objects Session

def msgObjectOutOfSight : UInt8 := 0x32

/-- The packet of `ObjectOutOfSight`, for the extent of the object. -/
def outOfSightPacket (extent : UInt16) : WorldPacket :=
  .ofPayload msgObjectOutOfSight 0 0 (ByteBuffer.toBytes 2 extent.toNat)

/-- An order in which sets of players are gone through. -/
structure AddressOrder where
  list : Finset Nat → List Nat
  nodup : ∀ s, (list s).Nodup
  mem_list : ∀ s p, p ∈ list s ↔ p ∈ s

/-- The order of the numbers. -/
def AddressOrder.ascending : AddressOrder where
  list s := s.sort (· ≤ ·)
  nodup _ := Finset.sort_nodup ..
  mem_list _ _ := Finset.mem_sort ..

/-- The accessor, and the sessions of the players with the packets `SendPacket` took. -/
structure Audience where
  world : ObjectAccessor
  session : Nat → WorldSession
  taken : Nat → List WorldPacket := fun _ => []

namespace Audience

variable (a : Audience) (p o : Nat)

/-- `SendPacket(&packet)` of the session of a player. -/
def sendPacket (packet : WorldPacket) : Audience :=
  if takes (a.session p) true then
    { a with
      taken := Function.update a.taken p (a.taken p ++ [{ packet with unk := (a.session p).unk }]) }
  else a

def addUpdateObject : Audience :=
  { a with world := { a.world with
      updateQueue := Function.update a.world.updateQueue p (insert o (a.world.updateQueue p)) } }

def objectOutOfSight : Audience :=
  let a := { a with world := { a.world with
      updateQueue := Function.update a.world.updateQueue p ((a.world.updateQueue p).erase o) } }
  a.sendPacket p (outOfSightPacket (a.world.mgr.extent o))

def inAnInventory : Bool := a.world.position o = ⟨5880, 5880⟩

/-- The body of the loop of those that can see the new place, with those left of the others. -/
def reveal (o : Nat) (s : Finset Nat × Audience) (p : Nat) : Finset Nat × Audience :=
  (s.1.erase p, s.2.addUpdateObject p o)

def setPosition (order : AddressOrder) (pos : GridPair) : Audience :=
  let oldPlayers := (a.world.playersCanSeePoint (a.world.position o)).toFinset
  let newPlayers := (a.world.playersCanSeePoint pos).toFinset
  let a := { a with world := { a.world with position := Function.update a.world.position o pos } }
  let (oldPlayers, a) :=
    if ¬a.inAnInventory o then (order.list newPlayers).foldl (reveal o) (oldPlayers, a)
    else (oldPlayers, a)
  (order.list oldPlayers).foldl (fun a p => a.objectOutOfSight p o) a

/-! ### What the loops do for one player -/

/-- What a session takes of a packet: the packet, or nothing if it has no socket or is loading. -/
def accepted (s : WorldSession) (packet : WorldPacket) : List WorldPacket :=
  if takes s true then [{ packet with unk := s.unk }] else []

theorem taken_sendPacket_self (packet : WorldPacket) :
    (a.sendPacket p packet).taken p = a.taken p ++ accepted (a.session p) packet := by
  unfold sendPacket accepted
  split
  · exact Function.update_self ..
  · exact (List.append_nil _).symm

theorem taken_sendPacket_of_ne {p p' : Nat} (other : p ≠ p') (packet : WorldPacket) :
    (a.sendPacket p packet).taken p' = a.taken p' := by
  unfold sendPacket
  split
  · exact Function.update_of_ne (Ne.symm other) ..
  · rfl

theorem sendPacket_world (packet : WorldPacket) :
    (a.sendPacket p packet).world = a.world ∧ (a.sendPacket p packet).session = a.session := by
  unfold sendPacket
  split
  · exact ⟨rfl, rfl⟩
  · exact ⟨rfl, rfl⟩

/-- A player's queue and what its session took, with the session and the extent of the object. -/
def seen (o p : Nat) (a : Audience) : Finset Nat × List WorldPacket × WorldSession × UInt16 :=
  (a.world.updateQueue p, a.taken p, a.session p, a.world.mgr.extent o)

/-- What `ObjectOutOfSight` does to its player. -/
def leave (o : Nat) :
    Finset Nat × List WorldPacket × WorldSession × UInt16 →
      Finset Nat × List WorldPacket × WorldSession × UInt16
  | (queue, taken, session, extent) =>
      (queue.erase o, taken ++ accepted session (outOfSightPacket extent), session, extent)

theorem seen_objectOutOfSight_self : (a.objectOutOfSight p o).seen o p = leave o (a.seen o p) := by
  unfold objectOutOfSight seen leave
  dsimp only
  rw [(sendPacket_world ..).1, (sendPacket_world ..).2, taken_sendPacket_self]
  dsimp only
  rw [Function.update_self]

theorem seen_objectOutOfSight_of_ne {p p' : Nat} (other : p ≠ p') :
    (a.objectOutOfSight p o).seen o p' = a.seen o p' := by
  unfold objectOutOfSight seen
  dsimp only
  rw [(sendPacket_world ..).1, (sendPacket_world ..).2, taken_sendPacket_of_ne _ other]
  dsimp only
  rw [Function.update_of_ne (Ne.symm other)]

/-- What the loop over those that can no longer see the object does for a player. -/
theorem seen_foldl_objectOutOfSight (order : AddressOrder) (players : Finset Nat) :
    ((order.list players).foldl (fun a p => a.objectOutOfSight p o) a).seen o p =
      if p ∈ players then leave o (a.seen o p) else a.seen o p := by
  have apart (a : Audience) (p p' : Nat) (other : p ≠ p') := a.seen_objectOutOfSight_of_ne o other
  split
  · next mem =>
      exact seen_foldl_of_mem (seen o) apart (fun _ => leave o)
        (fun a p => a.seen_objectOutOfSight_self p o) a (order.nodup players)
        ((order.mem_list players p).mpr mem)
  · next notMem =>
      exact seen_foldl_of_notMem (seen o) apart a (notMem ∘ (order.mem_list players p).mp)

/-- What `AddUpdateObject` does to its player. -/
def join (o : Nat) :
    Finset Nat × List WorldPacket × WorldSession × UInt16 →
      Finset Nat × List WorldPacket × WorldSession × UInt16
  | (queue, rest) => (insert o queue, rest)

theorem seen_addUpdateObject_self : (a.addUpdateObject p o).seen o p = join o (a.seen o p) := by
  unfold addUpdateObject seen join
  dsimp only
  rw [Function.update_self]

theorem seen_addUpdateObject_of_ne {p p' : Nat} (other : p ≠ p') :
    (a.addUpdateObject p o).seen o p' = a.seen o p' := by
  unfold addUpdateObject seen
  dsimp only
  rw [Function.update_of_ne (Ne.symm other)]

/-- The loop over those that can see the new place leaves the rest of the others. -/
theorem fst_foldl_reveal (oldPlayers : Finset Nat) (players : List Nat) :
    (players.foldl (reveal o) (oldPlayers, a)).1 = oldPlayers \ players.toFinset := by
  induction players generalizing a oldPlayers with
  | nil => exact (Finset.sdiff_empty).symm
  | cons p players ih =>
      rw [List.foldl_cons, List.toFinset_cons]
      refine (ih (a.addUpdateObject p o) (oldPlayers.erase p)).trans ?_
      ext q
      simp only [Finset.mem_sdiff, Finset.mem_erase, Finset.mem_insert]
      tauto

/-- What it does for a player. -/
theorem seen_foldl_reveal (order : AddressOrder) (oldPlayers players : Finset Nat) :
    ((order.list players).foldl (reveal o) (oldPlayers, a)).2.seen o p =
      if p ∈ players then join o (a.seen o p) else a.seen o p := by
  have apart (s : Finset Nat × Audience) (p p' : Nat) (other : p ≠ p') :
      (reveal o s p).2.seen o p' = s.2.seen o p' := s.2.seen_addUpdateObject_of_ne o other
  split
  · next mem =>
      exact seen_foldl_of_mem (fun p (s : Finset Nat × Audience) => s.2.seen o p) apart
        (fun _ => join o) (fun s p => s.2.seen_addUpdateObject_self p o) (oldPlayers, a)
        (order.nodup players) ((order.mem_list players p).mpr mem)
  · next notMem =>
      exact seen_foldl_of_notMem (fun p (s : Finset Nat × Audience) => s.2.seen o p) apart
        (oldPlayers, a) (notMem ∘ (order.mem_list players p).mp)

/-! ### Moves -/

def move (pos : GridPair) : Audience :=
  { a with world := { a.world with position := Function.update a.world.position o pos } }

theorem inAnInventory_move (pos : GridPair) :
    (a.move o pos).inAnInventory o = decide (pos = ⟨5880, 5880⟩) :=
  congrArg (fun place : GridPair => decide (place = ⟨5880, 5880⟩)) (Function.update_self ..)

theorem setPosition_of_inventory (order : AddressOrder) :
    a.setPosition o order ⟨5880, 5880⟩ =
      (order.list (a.world.playersCanSeePoint (a.world.position o)).toFinset).foldl
        (fun a p => a.objectOutOfSight p o) (a.move o ⟨5880, 5880⟩) := by
  have inside : ¬¬(a.move o ⟨5880, 5880⟩).inAnInventory o = true := by
    rw [inAnInventory_move]
    decide
  unfold setPosition
  dsimp only
  exact congrArg (fun s : Finset Nat × Audience =>
    (order.list s.1).foldl (fun a p => a.objectOutOfSight p o) s.2) (if_neg inside)

theorem setPosition_of_ne (order : AddressOrder) {pos : GridPair} (outside : pos ≠ ⟨5880, 5880⟩) :
    a.setPosition o order pos =
      let s := (order.list (a.world.playersCanSeePoint pos).toFinset).foldl (reveal o)
        ((a.world.playersCanSeePoint (a.world.position o)).toFinset, a.move o pos)
      (order.list s.1).foldl (fun a p => a.objectOutOfSight p o) s.2 := by
  have free : ¬(a.move o pos).inAnInventory o = true := by
    rw [inAnInventory_move, decide_eq_true_eq]
    exact outside
  unfold setPosition
  dsimp only
  exact congrArg (fun s : Finset Nat × Audience =>
    (order.list s.1).foldl (fun a p => a.objectOutOfSight p o) s.2) (if_pos free)

theorem seen_setPosition (order : AddressOrder) (pos : GridPair) :
    (a.setPosition o order pos).seen o p =
      if pos ≠ ⟨5880, 5880⟩ ∧ p ∈ a.world.playersCanSeePoint pos then join o (a.seen o p)
      else if p ∈ a.world.playersCanSeePoint (a.world.position o) then leave o (a.seen o p)
      else a.seen o p := by
  have moved : (a.move o pos).seen o p = a.seen o p := rfl
  by_cases inside : pos = ⟨5880, 5880⟩
  · subst inside
    have kept : ¬((⟨5880, 5880⟩ : GridPair) ≠ ⟨5880, 5880⟩ ∧
        p ∈ a.world.playersCanSeePoint ⟨5880, 5880⟩) := fun both => both.1 rfl
    rw [setPosition_of_inventory, seen_foldl_objectOutOfSight, moved, if_neg kept]
    exact if_congr List.mem_toFinset rfl rfl
  · rw [setPosition_of_ne a o order inside]
    dsimp only
    rw [seen_foldl_objectOutOfSight, seen_foldl_reveal, fst_foldl_reveal, moved]
    simp only [Finset.mem_sdiff, List.mem_toFinset, order.mem_list]
    by_cases sees : p ∈ a.world.playersCanSeePoint pos
    · simp only [sees, not_true_eq_false, and_false, if_false, if_true, ne_eq, inside,
        not_false_eq_true, and_self]
    · simp only [sees, not_false_eq_true, and_true, if_false, and_false]

/-- Each player that can see the new place has the object to be updated, unless it is now in an
inventory; each other one that could see the old place has it no more, and its session is given
one MSG_OBJECT_OUT_OF_SIGHT; for the others nothing changes. -/
theorem setPosition_eq (order : AddressOrder) (pos : GridPair) :
    ((a.setPosition o order pos).world.updateQueue p, (a.setPosition o order pos).taken p) =
      if pos ≠ ⟨5880, 5880⟩ ∧ p ∈ a.world.playersCanSeePoint pos then
        (insert o (a.world.updateQueue p), a.taken p)
      else if p ∈ a.world.playersCanSeePoint (a.world.position o) then
        ((a.world.updateQueue p).erase o,
          a.taken p ++ accepted (a.session p) (outOfSightPacket (a.world.mgr.extent o)))
      else (a.world.updateQueue p, a.taken p) := by
  refine (congrArg (fun x => (x.1, x.2.1)) (a.seen_setPosition p o order pos)).trans ?_
  split
  · rfl
  · split <;> rfl

/-! ### The move without the sessions -/

/-- The world but for the update queues. -/
def still : ObjectAccessor := { a.world with updateQueue := fun _ => ∅ }

theorem still_objectOutOfSight : (a.objectOutOfSight p o).still = a.still := by
  unfold objectOutOfSight still
  dsimp only
  rw [(sendPacket_world ..).1]

theorem still_foldl_objectOutOfSight (players : List Nat) :
    (players.foldl (fun a p => a.objectOutOfSight p o) a).still = a.still := by
  induction players generalizing a with
  | nil => rfl
  | cons p players ih => exact (ih (a.objectOutOfSight p o)).trans (a.still_objectOutOfSight p o)

theorem still_foldl_reveal (oldPlayers : Finset Nat) (players : List Nat) :
    (players.foldl (reveal o) (oldPlayers, a)).2.still = a.still := by
  induction players generalizing a oldPlayers with
  | nil => rfl
  | cons p players ih => exact ih (a.addUpdateObject p o) (oldPlayers.erase p)

theorem still_setPosition (order : AddressOrder) (pos : GridPair) :
    (a.setPosition o order pos).still = (a.move o pos).still := by
  by_cases inside : pos = ⟨5880, 5880⟩
  · rw [inside, setPosition_of_inventory]
    exact still_foldl_objectOutOfSight ..
  · rw [setPosition_of_ne a o order inside]
    exact (still_foldl_objectOutOfSight ..).trans (still_foldl_reveal ..)

/-- What `SetPosition` does to the accessor is what it does without sessions. -/
theorem setPosition_world (order : AddressOrder) (pos : GridPair) :
    (a.setPosition o order pos).world = a.world.setPosition o pos := by
  have queue : (a.setPosition o order pos).world.updateQueue =
      (a.world.setPosition o pos).updateQueue := by
    funext p
    refine (congrArg Prod.fst (a.seen_setPosition p o order pos)).trans ?_
    unfold ObjectAccessor.setPosition
    dsimp only
    split
    · rfl
    · split <;> rfl
  calc (a.setPosition o order pos).world
      = { (a.setPosition o order pos).still with
          updateQueue := (a.setPosition o order pos).world.updateQueue } := rfl
    _ = { (a.move o pos).still with updateQueue := (a.world.setPosition o pos).updateQueue } := by
        rw [still_setPosition, queue]
    _ = a.world.setPosition o pos := rfl

/-! ### A player that is loading -/

/-- A player that is loading, and an object beside it. -/
def loadingBeside : Audience where
  world :=
    { position := fun _ => ⟨1000, 1000⟩
      players := [(1, 0)]
      mgr := { extent := fun o => if o = 0 then 1 else 2 } }
  session _ := { WorldSession.create 0 with player := true, playerLoading := true }

/-- The object goes out of its sight, and its session takes no packet. -/
theorem loadingBeside_untold :
    0 ∈ loadingBeside.world.playersCanSeePoint (loadingBeside.world.position 1) ∧
      0 ∉ loadingBeside.world.playersCanSeePoint ⟨2000, 2000⟩ ∧
      (loadingBeside.setPosition 1 .ascending ⟨2000, 2000⟩).taken 0 = [] := by
  refine ⟨by decide, by decide, ?_⟩
  exact congrArg (fun x => x.2.1) (loadingBeside.seen_setPosition 0 1 .ascending ⟨2000, 2000⟩)

end Audience

end NoxServer.Accessor
