import NoxServer.Objects.ObjectMgr
import NoxServer.Session.WorldSession

/-!
`ObjectAccessor` (`ObjectAccessor.cpp`): who is to be told about which object, and when objects
are deleted.

Objects are numbered in the order they are created, and no number is used twice, so a number that
is not live belongs to an object that has been deleted. Each player has an update queue of
objects it is to be sent (`Player.cpp`); the accessor keeps the players by their extents, the
objects that are updated, and the objects to remove. The manager's tables are those of
`ObjectMgr`.
-/

namespace NoxServer.Accessor

open Objects

/-- `ObjectAccessor`, with the manager and the objects it is about. -/
structure ObjectAccessor where
  /-- The number of the next object. -/
  next : Nat := 0
  live : Finset Nat := ∅
  kind : ObjectClass Nat := { type := fun _ => 0, immobile := fun _ => false }
  position : Nat → GridPair := fun _ => {}
  mgr : ObjectMgr Nat := { extent := fun _ => 0 }
  /-- `i_players`, in the order of the map's buckets. -/
  players : List (UInt16 × Nat) := []
  /-- `i_objects`. -/
  objects : Finset Nat := ∅
  /-- `i_objectsToRemove`. -/
  objectsToRemove : List Nat := []
  /-- `updateQueue`, `updateAll` and `m_oldposition` of players. -/
  updateQueue : Nat → Finset Nat := fun _ => ∅
  updateAll : Nat → Bool := fun _ => false
  oldPosition : Nat → GridPair := fun _ => {}

/-- `in(leftTop, rightBottom)`. -/
def inRect (pos leftTop rightBottom : GridPair) : Bool :=
  leftTop.x_coord ≤ pos.x_coord && rightBottom.x_coord ≥ pos.x_coord &&
    leftTop.y_coord ≤ pos.y_coord && rightBottom.y_coord ≥ pos.y_coord

/-- A place as `GetPositionX()` and `GetPositionY()` give it: 16 bits a coordinate. -/
def short (pos : GridPair) : GridPair :=
  ⟨pos.x_coord.toUInt16.toUInt32, pos.y_coord.toUInt16.toUInt32⟩

namespace ObjectAccessor

variable (w : ObjectAccessor)

/-! ### Seeing -/

/-- `CanSeePoint(x, y, size)` of an object. -/
def canSeePoint (p : Nat) (point : GridPair) : Bool :=
  let pos := w.position p
  inRect (short point) ⟨pos.x_coord - 300, pos.y_coord - 300⟩
    ⟨pos.x_coord + 300, pos.y_coord + 300⟩

def playersCanSeePoint (point : GridPair) : List Nat :=
  (w.players.map Prod.snd).filter fun p => w.canSeePoint p point

def getObjectsInRect (leftTop rightBottom : GridPair) : Finset Nat :=
  w.mgr.objectTable.filter fun o =>
    !w.kind.immobile o && inRect (w.position o) leftTop rightBottom

/-! ### Objects come and go -/

/-- An object that is created and put in the world with `extent` as its own; `updates` says
whether it has an update handler. -/
def create (type extent : UInt16) (immobile updates : Bool) (pos : GridPair) :
    ObjectAccessor :=
  let kind : ObjectClass Nat :=
    { type := Function.update w.kind.type w.next type
      immobile := Function.update w.kind.immobile w.next immobile }
  { w with
    next := w.next + 1
    live := insert w.next w.live
    kind := kind
    position := Function.update w.position w.next pos
    mgr := ObjectMgr.addObject kind
      { w.mgr with extent := Function.update w.mgr.extent w.next extent } w.next
    objects := if updates then insert w.next w.objects else w.objects
    updateQueue := Function.update w.updateQueue w.next ∅
    updateAll := Function.update w.updateAll w.next false
    oldPosition := Function.update w.oldPosition w.next {} }

def removeFromWorld (o : Nat) : ObjectAccessor :=
  { w with mgr := (w.mgr.removeObject w.kind o).1, objects := w.objects.erase o }

/-- `delete obj`: the destructor takes it out of the world. -/
def deleteObject (o : Nat) : ObjectAccessor :=
  { w.removeFromWorld o with live := w.live.erase o }

def addObjectToRemoveList (o : Nat) : ObjectAccessor :=
  { w with objectsToRemove := w.objectsToRemove.insert o }

def removeAllObjectsInRemoveList : ObjectAccessor :=
  { w.objectsToRemove.foldl deleteObject w with objectsToRemove := [] }

/-! ### Update queues -/

/-- `SetPosition(position)` of an object. -/
def setPosition (o : Nat) (pos : GridPair) : ObjectAccessor :=
  let oldPlayers := w.playersCanSeePoint (w.position o)
  let newPlayers := w.playersCanSeePoint pos
  let inAnInventory := pos = ⟨5880, 5880⟩
  { w with
    position := Function.update w.position o pos
    updateQueue := fun p =>
      if ¬inAnInventory ∧ p ∈ newPlayers then insert o (w.updateQueue p)
      else if p ∈ oldPlayers then (w.updateQueue p).erase o
      else w.updateQueue p }

/-- The objects that `_update()` adds to a player's queue: the other players it can see. -/
def seenPlayers (p : Nat) : Finset Nat :=
  ((w.players.map Prod.snd).filter fun other =>
    other ≠ p && w.canSeePoint p (w.position other)).toFinset

def _update : ObjectAccessor :=
  let w := w.removeAllObjectsInRemoveList
  { w with updateQueue := fun p =>
      if p ∈ w.players.map Prod.snd then w.updateQueue p ∪ w.seenPlayers p
      else w.updateQueue p }

/-- The objects `UpdateView()` adds to a player's queue: those in the strips that have come into
its view. -/
def newInView (p : Nat) : Finset Nat :=
  let pos := w.position p
  let deltax := (pos.x_coord - (w.oldPosition p).x_coord).toUInt16.toInt16
  let deltay := (pos.y_coord - (w.oldPosition p).y_coord).toUInt16.toInt16
  let dx := deltax.toInt32.toUInt32
  let dy := deltay.toInt32.toUInt32
  if deltax > 10 ∨ deltay > 10 then
    let left := if deltax < 0 then pos.x_coord - 300 else pos.x_coord - dx + 300
    let top := if deltay < 0 then pos.y_coord - 300 else pos.y_coord - dy + 300
    (if deltax ≠ 0 then
      w.getObjectsInRect ⟨left, pos.y_coord - 300⟩
        ⟨left + (if deltax < 0 then -dx else dx), pos.y_coord + 300⟩
    else ∅) ∪
    if deltay ≠ 0 then
      w.getObjectsInRect ⟨pos.x_coord - 300, top⟩
        ⟨pos.x_coord + 300, top + if deltay < 0 then -dy else dy⟩
    else ∅
  else ∅

def updateView (p : Nat) : ObjectAccessor :=
  let old := w.oldPosition p
  let pos := w.position p
  if old.x_coord ≠ 0 ∧ old.y_coord ≠ 0 then
    let deltax := (pos.x_coord - old.x_coord).toUInt16.toInt16
    let deltay := (pos.y_coord - old.y_coord).toUInt16.toInt16
    { w with
      updateQueue := Function.update w.updateQueue p (w.updateQueue p ∪ w.newInView p)
      oldPosition :=
        if deltax > 10 ∨ deltay > 10 then Function.update w.oldPosition p pos
        else w.oldPosition }
  else { w with oldPosition := Function.update w.oldPosition p pos }

/-- The part of `Player::Update(time)` before the packets. -/
def updateSight (p : Nat) : ObjectAccessor :=
  if w.updateAll p then
    let pos := short (w.position p)
    { w with
      updateQueue := Function.update w.updateQueue p
        (w.updateQueue p ∪
          w.getObjectsInRect ⟨pos.x_coord - 300, pos.y_coord - 300⟩
            ⟨pos.x_coord + 300, pos.y_coord + 300⟩)
      updateAll := Function.update w.updateAll p false }
  else w.updateView p

/-- `SendUpdatePacket()`: every object in the queue is asked for its packet. -/
def sendUpdatePacket (p : Nat) : Except Fault ObjectAccessor :=
  if (w.updateQueue p).erase p ⊆ w.live then
    .ok { w with updateQueue := Function.update w.updateQueue p ∅ }
  else .error .danglingPointer

def forceUpdateAll (p : Nat) : ObjectAccessor :=
  { w with updateAll := Function.update w.updateAll p true }

/-! ### Players -/

/-- `i_players[extent] = pl`, at the end of the list if the extent is new. -/
def putPlayer (extent : UInt16) (p : Nat) : List (UInt16 × Nat) → List (UInt16 × Nat)
  | [] => [(extent, p)]
  | entry :: players =>
      if entry.1 = extent then (extent, p) :: players
      else entry :: putPlayer extent p players

def insertPlayer (p : Nat) : ObjectAccessor :=
  _update { w with players := putPlayer (w.mgr.extent p) p w.players }

/-- `RemovePlayer(pl)`; nothing is ever put in `i_changed_objects`. -/
def removePlayer (p : Nat) : ObjectAccessor :=
  { w with
    players := w.players.filter fun entry => entry.1 ≠ w.mgr.extent p
    mgr := (w.mgr.removeObject w.kind p).1 }

/-- `LogoutPlayer(Save)` of a session with a player. -/
def logoutPlayer (p : Nat) : ObjectAccessor := (w.removePlayer p).deleteObject p

/-- `new Player(session)`. Its extent is -1 at first, which is out of range and becomes 0. -/
def newPlayer (updates : Bool) : ObjectAccessor :=
  w.create playerType 0 false updates ⟨2285, 2600⟩

end ObjectAccessor

end NoxServer.Accessor
