import NoxServer.Objects.Inventory

/-!
Objects that come and go (`ObjectMgr::CreateObjectFromFile`,
`ObjectAccessor::RemoveAllObjectsInRemoveList`), and the steps of the game: what may be done
with objects, on which arguments, and what it does.
-/

namespace NoxServer

namespace Objects

/-! ### Objects that come and go -/

/-- An object as it is read from a map: its type's entry, its position, and the objects in
it, each with the address it is given. -/
inductive FileObject where
  | mk (ref : Ref) (info : ObjectInfo) (position : GridPair) (inventory : List FileObject)

/-- The address of an object that is read. -/
def FileObject.ref : FileObject → Ref
  | .mk ref _ _ _ => ref

mutual

/-- `CreateObjectFromFile(rdr, toc)`, once the object is read. -/
def createObjectFromFile (w : Objects) : FileObject → Objects
  | .mk ref info position inventory =>
      createInventory (w.new ref { info := info, position := position }) ref inventory

/-- The loop over the objects inside. -/
def createInventory (w : Objects) (owner : Ref) : List FileObject → Objects
  | [] => w
  | child :: rest =>
      createInventory ((createObjectFromFile w child).insertInventory owner child.ref) owner rest

end

/-- `RemoveAllObjectsInRemoveList()`, for what is on the list. -/
def removeObjects (w : Objects) : List Ref → Except Fault Objects
  | [] => .ok { w with removeList := [] }
  | obj :: rest =>
      match w.heap obj with
      | some _ => removeObjects { w.delete obj with removeList := rest } rest
      | none => .error .danglingPointer

/-! ### Steps -/

mutual

/-- The objects inside, at any depth. -/
def FileObject.nested : FileObject → List FileObject
  | .mk _ _ _ inventory => nestedAll inventory

/-- Some objects and those inside them. -/
def nestedAll : List FileObject → List FileObject
  | [] => []
  | child :: rest => child :: (child.nested ++ nestedAll rest)

end

/-- The addresses of an object that is read and of those inside. -/
def FileObject.refs (file : FileObject) : List Ref := file.ref :: file.nested.map FileObject.ref

theorem refs_mk {ref : Ref} {info : ObjectInfo} {position : GridPair}
    {inventory : List FileObject} : (FileObject.mk ref info position inventory).refs =
      ref :: (nestedAll inventory).map FileObject.ref := rfl

theorem refs_cons {child : FileObject} {rest : List FileObject} :
    (nestedAll (child :: rest)).map FileObject.ref =
      child.refs ++ (nestedAll rest).map FileObject.ref := by
  simp [nestedAll, FileObject.refs]

/-- What is seen of an object besides what is in it. -/
def outline (w : Objects) (r : Ref) : Option Obj :=
  (w.heap r).map fun o => { o with inventory := ∅ }

theorem outline_insertInventory (w : Objects) (owner obj r : Ref) :
    (w.insertInventory owner obj).outline r = w.outline r := by
  by_cases here : r = owner
  · cases found : w.heap owner <;> simp [outline, insertInventory, modify, here, found]
  · simp [outline, insertInventory, modify, here]

mutual

/-- Reading an object leaves those it does not read. -/
theorem createObjectFromFile_heap (w : Objects) {r : Ref} :
    ∀ file : FileObject, r ∉ file.refs → (w.createObjectFromFile file).heap r = w.heap r
  | .mk ref info position inventory, other => by
      rw [refs_mk, List.mem_cons, not_or] at other
      rw [createObjectFromFile, createInventory_heap _ _ other.1 inventory other.2]
      simp [new, other.1]

theorem createInventory_heap (w : Objects) (owner : Ref) {r : Ref} (elsewhere : r ≠ owner) :
    ∀ files : List FileObject, r ∉ (nestedAll files).map FileObject.ref →
      (w.createInventory owner files).heap r = w.heap r
  | [], _ => rfl
  | child :: rest, other => by
      rw [refs_cons, List.mem_append, not_or] at other
      rw [createInventory, createInventory_heap _ _ elsewhere rest other.2]
      simpa [insertInventory, modify, elsewhere] using
        createObjectFromFile_heap w child other.1

end

mutual

/-- No player is read from a map. -/
theorem isPlayer_createObjectFromFile (w : Objects) {r : Ref} :
    ∀ file : FileObject, (w.createObjectFromFile file).isPlayer r → w.isPlayer r
  | .mk ref info position inventory, player => by
      have before := isPlayer_createInventory _ ref inventory player
      rw [isPlayer, new_any] at before
      split at before
      · cases before
      · exact before

theorem isPlayer_createInventory (w : Objects) (owner : Ref) {r : Ref} :
    ∀ files : List FileObject, (w.createInventory owner files).isPlayer r → w.isPlayer r
  | [], player => player
  | child :: rest, player => by
      have before := isPlayer_createInventory _ owner rest player
      rw [insertInventory_frame.2.2.1] at before
      exact isPlayer_createObjectFromFile w child before

end

/-- Reading the objects inside leaves what is seen of the one they are in. -/
theorem createInventory_outline (w : Objects) (owner : Ref) {r : Ref} (files : List FileObject)
    (other : r ∉ (nestedAll files).map FileObject.ref) :
    (w.createInventory owner files).outline r = w.outline r := by
  induction files generalizing w with
  | nil => rfl
  | cons child rest ih =>
    rw [refs_cons, List.mem_append, not_or] at other
    rw [createInventory, ih _ other.2, outline_insertInventory, outline,
      createObjectFromFile_heap w child other.1]
    rfl

/-- An object that is read is as it is in the file. -/
theorem createObjectFromFile_outline (w : Objects) {ref : Ref} {info : ObjectInfo}
    {position : GridPair} {inventory : List FileObject}
    (fresh : (FileObject.mk ref info position inventory).refs.Nodup) :
    (w.createObjectFromFile (.mk ref info position inventory)).outline ref =
      some { info := info, position := position } := by
  rw [refs_mk, List.nodup_cons] at fresh
  rw [createObjectFromFile, createInventory_outline _ _ inventory fresh.1]
  simp [outline, new]

/-- `Player(session)`: where a player is made. -/
def playerPosition : GridPair := ⟨2285, 2600⟩

/-- What is done with objects. `setVitals` is what time and the fight do to a player. -/
inductive Op where
  | createObjectFromFile (file : FileObject)
  | newPlayer (plr : Ref) (info : ObjectInfo)
  | pickup (owner : Ref) (obj : Option Ref) (maxDist : UInt32)
  | newPickup (owner obj : Ref) (info : ObjectInfo)
  | drop (owner : Ref) (obj : Option Ref) (maxDist : UInt32) (newPos offset : GridPair)
  | use (plr obj : Ref)
  | equip (plr : Ref) (obj : Option Ref)
  | dequip (plr : Ref) (obj : Option Ref)
  | equipSecondary (plr : Ref) (obj : Option Ref)
  | setPosition (obj : Ref) (position : GridPair)
  | setVitals (plr : Ref) (health maxHealth maxMana : Int) (poisoned : Bool)
  | logoutPlayer (plr : Ref)
  | removeAllObjectsInRemoveList

/-- What is promised of the arguments: objects are there, players are players, and what is
new is at addresses where there is nothing. -/
def Enabled (w : Objects) : Op → Prop
  | .createObjectFromFile file => file.refs.Nodup ∧ ∀ r ∈ file.refs, ¬ w.isLive r
  | .newPlayer plr _ => ¬ w.isLive plr
  | .pickup owner obj _ | .drop owner obj _ _ _ => w.isLive owner ∧ ∀ x ∈ obj, w.isLive x
  | .newPickup owner obj _ => w.isLive owner ∧ ¬ w.isLive obj
  | .use plr obj => w.isPlayer plr ∧ w.isLive obj
  | .equip plr obj | .dequip plr obj | .equipSecondary plr obj =>
      w.isPlayer plr ∧ ∀ x ∈ obj, w.isLive x
  | .setPosition obj _ => w.isLive obj
  | .setVitals plr _ _ _ _ | .logoutPlayer plr => w.isPlayer plr
  | .removeAllObjectsInRemoveList => True

def apply (w : Objects) : Op → Except Fault Objects
  | .createObjectFromFile file => .ok (w.createObjectFromFile file)
  | .newPlayer plr info =>
      .ok (w.new plr { info := info, position := playerPosition, player := some {} })
  | .pickup owner obj maxDist => return (← w.pickup owner obj maxDist).1
  | .newPickup owner obj info => w.newPickup owner obj info
  | .drop owner obj maxDist newPos offset => .ok (w.drop owner obj maxDist newPos offset).1
  | .use plr obj => .ok (w.use plr obj)
  | .equip plr obj => .ok (w.equip plr obj).1
  | .dequip plr obj => .ok (w.dequip plr obj).1
  | .equipSecondary plr obj => .ok (w.equipSecondary plr obj)
  | .setPosition obj position => .ok (w.setPosition obj position)
  | .setVitals plr health maxHealth maxMana poisoned =>
      .ok (w.modifyPlayer plr fun p =>
        { p with
          health := health
          maxHealth := maxHealth
          maxMana := maxMana
          poisoned := poisoned })
  | .logoutPlayer plr => .ok (w.delete plr)
  | .removeAllObjectsInRemoveList => w.removeObjects w.removeList

/-- An operation on what is promised for it, done to its end. -/
def Step (w : Objects) (op : Op) (w' : Objects) : Prop := w.Enabled op ∧ w.apply op = .ok w'

end Objects

end NoxServer
