import NoxServer.Accessor.ObjectAccessor
import NoxServer.Library.Runs

/-!
The pointers the accessor keeps, and the objects that are deleted.

An object that is deleted is taken out of the tables of the manager, of `i_objects` and, if a
session logs it out, of `i_players`, but not of the update queues of other players. So no pointer
dangles as long as what is deleted is in no one else's queue (`no_dangling`), and one does when
a player logs out whom another is to be sent (`logout_dangles`).
-/

namespace NoxServer.Accessor

open Objects Runs

/-! ### Runs -/

/-- What can happen to the objects: the session updates and the object updates, in any order, as
far as they touch what the accessor keeps. -/
inductive Action where
  | create (type extent : UInt16) (immobile updates : Bool) (pos : GridPair)
  /-- `HandlePlayerJoinOpcode`: a new player, inserted. -/
  | login (updates : Bool)
  /-- `HandlePlayerJoinOpcode` of a session that has a player: it is inserted again. -/
  | joinAgain (p : Nat)
  | setPosition (o : Nat) (pos : GridPair)
  /-- `objmgr.Update(diff)`, which moves bodies without `SetPosition`. -/
  | quickStep (position : Nat → GridPair)
  | addObjectToRemoveList (o : Nat)
  /-- `_update()`, from `ObjectAccessor::Update`. -/
  | update
  | updateSight (p : Nat)
  | sendUpdatePacket (p : Nat)
  | forceUpdateAll (p : Nat)
  /-- `delete obj` in `NewPickup`. -/
  | deleteObject (o : Nat)
  | logoutPlayer (p : Nat)

namespace ObjectAccessor

/-- A player logs in. -/
def login (w : ObjectAccessor) (updates : Bool) : ObjectAccessor :=
  (w.newPlayer updates).insertPlayer w.next

def act (w : ObjectAccessor) : Action → Except Fault ObjectAccessor
  | .create type extent immobile updates pos =>
      .ok (w.create type extent immobile updates pos)
  | .login updates => .ok (w.login updates)
  | .joinAgain p => .ok (w.insertPlayer p)
  | .setPosition o pos => .ok (w.setPosition o pos)
  | .quickStep position => .ok { w with position := position }
  | .addObjectToRemoveList o => .ok (w.addObjectToRemoveList o)
  | .update => .ok w._update
  | .updateSight p => .ok (w.updateSight p)
  | .sendUpdatePacket p => w.sendUpdatePacket p
  | .forceUpdateAll p => .ok (w.forceUpdateAll p)
  | .deleteObject o => .ok (w.deleteObject o)
  | .logoutPlayer p => .ok (w.logoutPlayer p)

/-- Calls are made on objects that are live. -/
def Made (w : ObjectAccessor) : Action → Prop
  | .joinAgain p => p ∈ w.live
  | .setPosition o _ => o ∈ w.live
  | .addObjectToRemoveList o => o ∈ w.live
  | .updateSight p => p ∈ w.live
  | .sendUpdatePacket p => p ∈ w.live
  | .forceUpdateAll p => p ∈ w.live
  | .deleteObject o => o ∈ w.live
  | .logoutPlayer p => p ∈ w.live
  | _ => True

def Step : ObjectAccessor → Action → ObjectAccessor → Prop :=
  guarded Made fun w a w' => w.act a = .ok w'

/-! ### Dangling pointers -/

/-- Every pointer that is kept is of an object that has not been deleted. -/
structure NoDangling (w : ObjectAccessor) : Prop where
  updateQueue : ∀ p ∈ w.live, ∀ o ∈ w.updateQueue p, o ∈ w.live
  objects : ∀ o ∈ w.objects, o ∈ w.live
  playerList : ∀ o ∈ w.mgr.playerList, o ∈ w.live
  players : ∀ entry ∈ w.players, entry.2 ∈ w.live

/-- No other object that is live has it in its update queue. -/
def Unqueued (w : ObjectAccessor) (o : Nat) : Prop :=
  ∀ p ∈ w.live, p ≠ o → o ∉ w.updateQueue p

instance (w : ObjectAccessor) (o : Nat) : Decidable (w.Unqueued o) :=
  inferInstanceAs (Decidable (∀ p ∈ w.live, p ≠ o → o ∉ w.updateQueue p))

/-- It is in no one's queue and no player that has been inserted. -/
structure Clear (w : ObjectAccessor) (o : Nat) : Prop where
  unqueued : w.Unqueued o
  players : ∀ entry ∈ w.players, entry.2 ≠ o

/-- What an action deletes may be deleted. -/
def DeletesClear (w : ObjectAccessor) : Action → Prop
  | .login _ => ∀ o ∈ w.objectsToRemove, w.Clear o
  | .joinAgain p => ∀ o ∈ w.objectsToRemove, w.Clear o ∧ p ≠ o
  | .update => ∀ o ∈ w.objectsToRemove, w.Clear o
  | .deleteObject o => w.Clear o
  | .logoutPlayer p => w.Unqueued p
  | _ => True

end ObjectAccessor

/-! ### The manager's tables -/

section Manager

variable {kind : ObjectClass Nat} {m : ObjectMgr Nat} {o x : Nat}

theorem extent_addObject (other : x ≠ o) : (m.addObject kind o).extent x = m.extent x := by
  rcases m.addObject_cases kind o with ⟨_, same⟩ | ⟨e, _, added⟩
  · rw [same]
  · rw [added]
    exact Function.update_of_ne other _ _

theorem mem_objectTable_addObject (mem : x ∈ (m.addObject kind o).objectTable) :
    x = o ∨ x ∈ m.objectTable := by
  rcases m.addObject_cases kind o with ⟨_, same⟩ | ⟨e, _, added⟩
  · exact .inr (same ▸ mem)
  · rw [added] at mem
    exact Finset.mem_insert.mp mem

/-- The players in the list are in the table. -/
def PlayersListed (kind : ObjectClass Nat) (m : ObjectMgr Nat) : Prop :=
  ∀ p ∈ m.playerList, p ∈ m.objectTable ∧ kind.type p = playerType

theorem PlayersListed.addObject (listed : PlayersListed kind m) :
    PlayersListed kind (m.addObject kind o) := by
  rcases m.addObject_cases kind o with ⟨_, same⟩ | ⟨e, _, added⟩
  · rw [same]
    exact listed
  · rw [added]
    intro p mem
    dsimp only [ObjectMgr.register] at mem ⊢
    split at mem
    · next player =>
        rcases Finset.mem_insert.mp mem with rfl | before
        · exact ⟨Finset.mem_insert_self _ _, player⟩
        · exact ⟨Finset.mem_insert_of_mem (listed p before).1, (listed p before).2⟩
    · exact ⟨Finset.mem_insert_of_mem (listed p mem).1, (listed p mem).2⟩

theorem extent_removeObject : (m.removeObject kind o).1.extent = m.extent := by
  by_cases present : o ∈ m.objectTable
  · rw [ObjectMgr.removeObject_of_mem present]
    rfl
  · rw [ObjectMgr.removeObject_of_notMem present]

theorem mem_objectTable_removeObject :
    x ∈ (m.removeObject kind o).1.objectTable ↔ x ∈ m.objectTable ∧ x ≠ o := by
  by_cases present : o ∈ m.objectTable
  · rw [ObjectMgr.removeObject_of_mem present]
    exact Finset.mem_erase.trans And.comm
  · rw [ObjectMgr.removeObject_of_notMem present]
    exact ⟨fun mem => ⟨mem, fun same => present (same ▸ mem)⟩, And.left⟩

theorem mem_playerList_removeObject (listed : PlayersListed kind m)
    (mem : x ∈ (m.removeObject kind o).1.playerList) : x ∈ m.playerList ∧ x ≠ o := by
  by_cases present : o ∈ m.objectTable
  · rw [ObjectMgr.removeObject_of_mem present] at mem
    dsimp only [ObjectMgr.unregister] at mem
    split at mem
    · exact ⟨Finset.mem_of_mem_erase mem, Finset.ne_of_mem_erase mem⟩
    · next noPlayer => exact ⟨mem, fun same => noPlayer (same ▸ (listed x mem).2)⟩
  · rw [ObjectMgr.removeObject_of_notMem present] at mem
    exact ⟨mem, fun same => present (same ▸ (listed x mem).1)⟩

theorem PlayersListed.removeObject (listed : PlayersListed kind m) :
    PlayersListed kind (m.removeObject kind o).1 := by
  intro p mem
  obtain ⟨before, other⟩ := mem_playerList_removeObject listed mem
  obtain ⟨inTable, player⟩ := listed p before
  exact ⟨mem_objectTable_removeObject.mpr ⟨inTable, other⟩, player⟩

end Manager

/-! ### What deleting leaves -/

namespace ObjectAccessor

/-- What holds of the pointers in every state: besides that none dangles, the tables hold live
objects, and players are kept under their extents. -/
structure Kept (w : ObjectAccessor) : Prop extends NoDangling w where
  table : ∀ o ∈ w.mgr.objectTable, o ∈ w.live
  listed : PlayersListed w.kind w.mgr
  extents : ∀ entry ∈ w.players, w.mgr.extent entry.2 = entry.1
  created : ∀ o ∈ w.live, o < w.next
  removals : ∀ o ∈ w.objectsToRemove, o < w.next

variable {w : ObjectAccessor}

theorem kept_start : Kept {} where
  updateQueue := nofun
  objects := nofun
  playerList := nofun
  players := nofun
  table := nofun
  listed := nofun
  extents := nofun
  created := nofun
  removals := nofun

/-- The queues may hold other objects that are live. -/
theorem Kept.queues (kept : Kept w) {updateQueue : Nat → Finset Nat}
    (live : ∀ p ∈ w.live, ∀ o ∈ updateQueue p, o ∈ w.live) (position : Nat → GridPair)
    (updateAll : Nat → Bool) (oldPosition : Nat → GridPair) :
    Kept { w with
      updateQueue := updateQueue, position := position, updateAll := updateAll
      oldPosition := oldPosition } where
  updateQueue := live
  objects := kept.objects
  playerList := kept.playerList
  players := kept.players
  table := kept.table
  listed := kept.listed
  extents := kept.extents
  created := kept.created
  removals := kept.removals

/-- An object that is in no one else's queue, and is no player that is kept, can be deleted: the
tables give it up themselves. -/
theorem Kept.deleteObject (kept : Kept w) {o : Nat} (clear : w.Clear o) :
    Kept (w.deleteObject o) where
  updateQueue := by
    intro p mem x queued
    obtain ⟨other, live⟩ := Finset.mem_erase.mp mem
    refine Finset.mem_erase.mpr ⟨fun same => ?_, kept.updateQueue p live x queued⟩
    exact clear.unqueued p live other (same ▸ queued)
  objects := by
    intro x mem
    obtain ⟨other, mem⟩ := Finset.mem_erase.mp mem
    exact Finset.mem_erase.mpr ⟨other, kept.objects x mem⟩
  playerList := by
    intro x mem
    obtain ⟨mem, other⟩ := mem_playerList_removeObject kept.listed mem
    exact Finset.mem_erase.mpr ⟨other, kept.playerList x mem⟩
  players := by
    intro entry mem
    exact Finset.mem_erase.mpr ⟨clear.players entry mem, kept.players entry mem⟩
  table := by
    intro x mem
    obtain ⟨mem, other⟩ := mem_objectTable_removeObject.mp mem
    exact Finset.mem_erase.mpr ⟨other, kept.table x mem⟩
  listed := kept.listed.removeObject
  extents := by
    intro entry mem
    exact (congrFun extent_removeObject entry.2).trans (kept.extents entry mem)
  created := fun x mem => kept.created x (Finset.mem_of_mem_erase mem)
  removals := kept.removals

theorem Kept.removePlayer (kept : Kept w) (p : Nat) : Kept (w.removePlayer p) where
  updateQueue := kept.updateQueue
  objects := kept.objects
  playerList := fun x mem => kept.playerList x (mem_playerList_removeObject kept.listed mem).1
  players := fun entry mem => kept.players entry (List.mem_of_mem_filter mem)
  table := fun x mem => kept.table x (mem_objectTable_removeObject.mp mem).1
  listed := kept.listed.removeObject
  extents := by
    intro entry mem
    exact (congrFun extent_removeObject entry.2).trans
      (kept.extents entry (List.mem_of_mem_filter mem))
  created := kept.created
  removals := kept.removals

/-- A player that logs out is found under its extent. -/
theorem Kept.logoutPlayer (kept : Kept w) {p : Nat} (unqueued : w.Unqueued p) :
    Kept (w.logoutPlayer p) := by
  refine (kept.removePlayer p).deleteObject ⟨unqueued, ?_⟩
  intro entry mem same
  obtain ⟨mem, other⟩ := List.mem_filter.mp mem
  have here : w.mgr.extent p = entry.1 := same ▸ kept.extents entry mem
  exact of_decide_eq_true other here.symm

theorem Clear.deleteObject {o x : Nat} (clear : w.Clear x) : (w.deleteObject o).Clear x where
  unqueued := fun p live => clear.unqueued p (Finset.mem_of_mem_erase live)
  players := clear.players

/-- Objects that are all clear may be deleted one after the other. -/
theorem Kept.deleteAll (os : List Nat) (kept : Kept w) (clear : ∀ o ∈ os, w.Clear o) :
    Kept (os.foldl ObjectAccessor.deleteObject w) := by
  induction os generalizing w with
  | nil => exact kept
  | cons o os ih =>
      refine ih (kept.deleteObject (clear o List.mem_cons_self)) fun x mem => ?_
      exact (clear x (List.mem_cons_of_mem _ mem)).deleteObject

theorem Kept.removeAll (kept : Kept w) (clear : ∀ o ∈ w.objectsToRemove, w.Clear o) :
    Kept w.removeAllObjectsInRemoveList := by
  have deleted := kept.deleteAll w.objectsToRemove clear
  exact { deleted with removals := nofun }

theorem Kept.update (kept : Kept w) (clear : ∀ o ∈ w.objectsToRemove, w.Clear o) :
    Kept w._update := by
  have removed := kept.removeAll clear
  refine removed.queues (fun p live x queued => ?_) _ _ _
  split at queued
  · rcases Finset.mem_union.mp queued with before | seen
    · exact removed.updateQueue p live x before
    · have player := List.mem_of_mem_filter (List.mem_toFinset.mp seen)
      obtain ⟨entry, mem, rfl⟩ := List.mem_map.mp player
      exact removed.players entry mem
  · exact removed.updateQueue p live x queued

/-! ### What creating leaves -/

theorem Kept.ne_next (kept : Kept w) {o : Nat} (live : o ∈ w.live) : o ≠ w.next :=
  Nat.ne_of_lt (kept.created o live)

/-- A new object has an address that nothing has yet, so every pointer to it is to one that is live,
and none is left over from an earlier one. -/
theorem Kept.create (kept : Kept w) (type extent : UInt16) (immobile updates : Bool)
    (pos : GridPair) : Kept (w.create type extent immobile updates pos) := by
  let kind : ObjectClass Nat :=
    { type := Function.update w.kind.type w.next type
      immobile := Function.update w.kind.immobile w.next immobile }
  let renumbered : ObjectMgr Nat :=
    { w.mgr with extent := Function.update w.mgr.extent w.next extent }
  have listed : PlayersListed kind renumbered := by
    intro p mem
    obtain ⟨inTable, player⟩ := kept.listed p mem
    refine ⟨inTable, ?_⟩
    exact (Function.update_of_ne (kept.ne_next (kept.table p inTable)) _ _).trans player
  have table : ∀ x ∈ (renumbered.addObject kind w.next).objectTable,
      x ∈ insert w.next w.live := by
    intro x mem
    rcases mem_objectTable_addObject mem with rfl | before
    · exact Finset.mem_insert_self _ _
    · exact Finset.mem_insert_of_mem (kept.table x before)
  exact {
    updateQueue := by
      intro p mem x queued
      dsimp only [ObjectAccessor.create] at queued
      rcases Finset.mem_insert.mp mem with rfl | live
      · rw [Function.update_self] at queued
        cases queued
      · rw [Function.update_of_ne (kept.ne_next live)] at queued
        exact Finset.mem_insert_of_mem (kept.updateQueue p live x queued)
    objects := by
      intro x mem
      dsimp only [ObjectAccessor.create] at mem
      split at mem
      · rcases Finset.mem_insert.mp mem with rfl | before
        · exact Finset.mem_insert_self _ _
        · exact Finset.mem_insert_of_mem (kept.objects x before)
      · exact Finset.mem_insert_of_mem (kept.objects x mem)
    playerList := fun x mem => table x (listed.addObject x mem).1
    players := fun entry mem => Finset.mem_insert_of_mem (kept.players entry mem)
    table := table
    listed := listed.addObject
    extents := by
      intro entry mem
      have other := kept.ne_next (kept.players entry mem)
      calc (renumbered.addObject kind w.next).extent entry.2
          = renumbered.extent entry.2 := extent_addObject other
        _ = w.mgr.extent entry.2 := Function.update_of_ne other _ _
        _ = entry.1 := kept.extents entry mem
    created := by
      intro x mem
      rcases Finset.mem_insert.mp mem with rfl | live
      · exact Nat.lt_succ_self _
      · exact Nat.lt_succ_of_lt (kept.created x live)
    removals := fun x mem => Nat.lt_succ_of_lt (kept.removals x mem) }

theorem mem_putPlayer {extent : UInt16} {p : Nat} {players : List (UInt16 × Nat)}
    {entry : UInt16 × Nat} (mem : entry ∈ putPlayer extent p players) :
    entry = (extent, p) ∨ entry ∈ players := by
  induction players with
  | nil => exact .inl (List.mem_singleton.mp mem)
  | cons first players ih =>
      unfold putPlayer at mem
      split at mem
      · exact (List.mem_cons.mp mem).imp_right (List.mem_cons_of_mem _)
      · rcases List.mem_cons.mp mem with rfl | later
        · exact .inr List.mem_cons_self
        · exact (ih later).imp_right (List.mem_cons_of_mem _)

/-- A live object that is inserted as a player. -/
theorem Kept.putPlayer (kept : Kept w) {p : Nat} (live : p ∈ w.live) :
    Kept { w with players := putPlayer (w.mgr.extent p) p w.players } :=
  { kept with
    players := by
      intro entry mem
      rcases mem_putPlayer mem with rfl | before
      · exact live
      · exact kept.players entry before
    extents := by
      intro entry mem
      rcases mem_putPlayer mem with rfl | before
      · rfl
      · exact kept.extents entry before }

/-- A player logs in, and the objects that are to be removed are clear. -/
theorem Kept.login (kept : Kept w) (updates : Bool)
    (clear : ∀ o ∈ w.objectsToRemove, w.Clear o) : Kept (w.login updates) := by
  have created := kept.create playerType 0 false updates ⟨2285, 2600⟩
  refine (created.putPlayer (Finset.mem_insert_self w.next w.live)).update fun o mem => ?_
  have old : o ≠ w.next := Nat.ne_of_lt (kept.removals o mem)
  constructor
  · intro p live other queued
    dsimp only [ObjectAccessor.create] at queued
    rcases Finset.mem_insert.mp live with rfl | before
    · rw [Function.update_self] at queued
      cases queued
    · rw [Function.update_of_ne (kept.ne_next before)] at queued
      exact (clear o mem).unqueued p before other queued
  · intro entry put
    rcases mem_putPlayer put with rfl | before
    · exact old.symm
    · exact (clear o mem).players entry before

/-- A player that is live is inserted again, and is not among what is removed. -/
theorem Kept.joinAgain (kept : Kept w) {p : Nat} (live : p ∈ w.live)
    (clear : ∀ o ∈ w.objectsToRemove, w.Clear o ∧ p ≠ o) : Kept (w.insertPlayer p) := by
  refine (kept.putPlayer live).update fun o mem => ?_
  obtain ⟨before, other⟩ := clear o mem
  refine ⟨before.unqueued, fun entry put => ?_⟩
  rcases mem_putPlayer put with rfl | old
  · exact other
  · exact before.players entry old

/-! ### What the queues hold -/

theorem mem_live_of_getObjectsInRect (kept : Kept w) {leftTop rightBottom : GridPair} {o : Nat}
    (mem : o ∈ w.getObjectsInRect leftTop rightBottom) : o ∈ w.live :=
  kept.table o (Finset.mem_of_mem_filter o mem)

theorem mem_live_of_newInView (kept : Kept w) {p o : Nat} (mem : o ∈ w.newInView p) :
    o ∈ w.live := by
  unfold newInView at mem
  dsimp only at mem
  split at mem
  · rcases Finset.mem_union.mp mem with here | here
    · split at here
      · exact mem_live_of_getObjectsInRect kept here
      · cases here
    · split at here
      · exact mem_live_of_getObjectsInRect kept here
      · cases here
  · cases mem

/-- One player's queue gets objects that are live. -/
theorem Kept.enqueue (kept : Kept w) (p : Nat) {seen : Finset Nat}
    (live : ∀ o ∈ seen, o ∈ w.live) (updateAll : Nat → Bool) (oldPosition : Nat → GridPair) :
    Kept { w with
      updateQueue := Function.update w.updateQueue p (w.updateQueue p ∪ seen)
      updateAll := updateAll, oldPosition := oldPosition } := by
  refine kept.queues (fun q mem o queued => ?_) w.position updateAll oldPosition
  by_cases same : q = p
  · subst same
    rw [Function.update_self] at queued
    exact (Finset.mem_union.mp queued).elim (kept.updateQueue q mem o) (live o)
  · rw [Function.update_of_ne same] at queued
    exact kept.updateQueue q mem o queued

theorem Kept.updateSight (kept : Kept w) (p : Nat) : Kept (w.updateSight p) := by
  unfold ObjectAccessor.updateSight
  split
  · exact kept.enqueue p (fun o mem => mem_live_of_getObjectsInRect kept mem) _ _
  · unfold updateView
    dsimp only
    split
    · exact kept.enqueue p (fun o mem => mem_live_of_newInView kept mem) _ _
    · exact kept.queues kept.updateQueue _ _ _

theorem Kept.setPosition (kept : Kept w) {o : Nat} (live : o ∈ w.live) (pos : GridPair) :
    Kept (w.setPosition o pos) := by
  refine kept.queues (fun p mem x queued => ?_) _ _ _
  split at queued
  · rcases Finset.mem_insert.mp queued with rfl | before
    · exact live
    · exact kept.updateQueue p mem x before
  · split at queued
    · exact kept.updateQueue p mem x (Finset.mem_of_mem_erase queued)
    · exact kept.updateQueue p mem x queued

/-- Without dangling pointers the queue of a player can be sent. -/
theorem Kept.sendUpdatePacket_eq (kept : Kept w) {p : Nat} (live : p ∈ w.live) :
    w.sendUpdatePacket p =
      .ok { w with updateQueue := Function.update w.updateQueue p ∅ } := by
  refine if_pos fun o mem => ?_
  exact kept.updateQueue p live o (Finset.mem_of_mem_erase mem)

/-! ### Runs -/

/-- Every action that deletes only what no one else has queued keeps the accessor free of dangling
pointers; there is one lemma for each action. -/
theorem Kept.step {w w' : ObjectAccessor} {a : Action} (kept : Kept w)
    (clear : w.DeletesClear a) (step : Step w a w') : Kept w' := by
  obtain ⟨made, done⟩ := step
  cases a with
  | create type extent immobile updates pos =>
      cases done
      exact kept.create type extent immobile updates pos
  | login updates =>
      cases done
      exact kept.login updates clear
  | joinAgain p =>
      cases done
      exact kept.joinAgain made clear
  | setPosition o pos =>
      cases done
      exact kept.setPosition made pos
  | quickStep position =>
      cases done
      exact kept.queues kept.updateQueue position _ _
  | addObjectToRemoveList o =>
      cases done
      refine { kept with removals := fun x mem => ?_ }
      rcases List.mem_insert_iff.mp mem with rfl | before
      · exact kept.created x made
      · exact kept.removals x before
  | update =>
      cases done
      exact kept.update clear
  | updateSight p =>
      cases done
      exact kept.updateSight p
  | sendUpdatePacket p =>
      have sent := kept.sendUpdatePacket_eq made
      cases sent.symm.trans done
      refine kept.queues (fun q mem o queued => ?_) _ _ _
      by_cases same : q = p
      · subst same
        rw [Function.update_self] at queued
        cases queued
      · rw [Function.update_of_ne same] at queued
        exact kept.updateQueue q mem o queued
  | forceUpdateAll p =>
      cases done
      exact kept.queues kept.updateQueue _ _ _
  | deleteObject o =>
      cases done
      exact kept.deleteObject clear
  | logoutPlayer p =>
      cases done
      exact kept.logoutPlayer clear

end ObjectAccessor

open ObjectAccessor

/-- In a run whose actions delete only objects that are in no one else's queue, and no player that
has not logged out, no pointer dangles: none in a live player's `updateQueue`, in `i_objects`, in
the list of players or in `i_players`. The actions are in any order, a second join of a session
among them. -/
theorem no_dangling {actions : List Action} {w : ObjectAccessor}
    (run : Run (guarded DeletesClear Step) {} actions w) : NoDangling w := by
  have kept : Kept w := run.invariant
    (fun _ _ _ kept guarded => kept.step guarded.1 guarded.2) kept_start
  exact kept.toNoDangling

/-- Two players that see each other: the second is sent the first before the first logs out. -/
theorem no_dangling_sent : ∃ w, Run (guarded DeletesClear Step) {}
    [.login true, .login true, .sendUpdatePacket 1, .logoutPlayer 0] w ∧ NoDangling w := by
  have run : ∃ w, Run (guarded DeletesClear Step) {}
      [.login true, .login true, .sendUpdatePacket 1, .logoutPlayer 0] w :=
    ⟨_, .cons ⟨nofun, trivial, rfl⟩ (.cons ⟨nofun, trivial, rfl⟩
      (.cons ⟨trivial, Finset.mem_insert_self 1 _, rfl⟩ (.cons
        ⟨(by decide +kernel : Unqueued _ 0),
          Finset.mem_insert_of_mem (Finset.mem_insert_self 0 _), rfl⟩ (.nil _))))⟩
  obtain ⟨w, run⟩ := run
  exact ⟨w, run, no_dangling run⟩

/-- When the first of two players logs out at once, it stays in the queue of the second. -/
theorem logout_dangles : ¬∀ (actions : List Action) (w : ObjectAccessor),
    Run Step {} actions w → NoDangling w := by
  intro always
  have run : ∃ w, Run Step {} [.login true, .login true, .logoutPlayer 0] w ∧
      1 ∈ w.live ∧ 0 ∈ w.updateQueue 1 ∧ 0 ∉ w.live :=
    ⟨_, .cons ⟨trivial, rfl⟩ (.cons ⟨trivial, rfl⟩
        (.cons ⟨Finset.mem_insert_of_mem (Finset.mem_insert_self 0 _), rfl⟩ (.nil _))),
      by decide +kernel, by decide +kernel, by decide +kernel⟩
  obtain ⟨w, run, live, queued, deleted⟩ := run
  exact deleted ((always _ w run).updateQueue 1 live 0 queued)

end NoxServer.Accessor
