import Mathlib.Data.Finset.Card
import Mathlib.Order.Interval.Finset.Nat
import Mathlib.Logic.Function.Basic
import NoxServer.Library.Runs

/-!
`ObjectMgr` (`ObjectMgr.h`, `ObjectMgr.cpp`): the table of the objects in the world and
the array that finds an object by its extent.

An object's extent is kept in the object, in the array and, by membership, in the table.
`Consistent` says that the three agree. Every operation of the manager keeps it, whatever
extents the objects come with (`Consistent.step`), so it holds in every state a run from an
empty manager reaches.
-/

namespace NoxServer.Objects

/-- What the manager asks of an object and no operation changes. -/
structure ObjectClass (Obj : Type) where
  /-- `GetType()`. -/
  type : Obj → UInt16
  /-- `IsImmobile()`. -/
  immobile : Obj → Bool

def invalidExtent : UInt16 := 0

def maxExtent : UInt16 := 0x7FFF

/-- The type id of players. -/
def playerType : UInt16 := 0x2C9

/-- `ObjectMgr`, with the `m_extent` of the objects it manages. -/
structure ObjectMgr (Obj : Type) where
  extent : Obj → UInt16
  objectExtents : UInt16 → Option Obj := fun _ => none
  objectTable : Finset Obj := ∅
  playerList : Finset Obj := ∅

namespace ObjectMgr

variable {Obj : Type} [DecidableEq Obj]

def getImmobileObj (m : ObjectMgr Obj) (extent : UInt16) : Option Obj :=
  if extent > maxExtent then none else m.objectExtents extent

def getObj (kind : ObjectClass Obj) (m : ObjectMgr Obj) (extent : UInt16) : Option Obj :=
  (m.getImmobileObj extent).filter fun obj => !kind.immobile obj

def isExtentAvailable (m : ObjectMgr Obj) (extent : UInt16) : Bool :=
  !(extent == 0 || extent > maxExtent || (m.objectExtents extent).isSome)

/-- `RequestExtent()`: the scan of the array from index 1 to its end. -/
def requestExtent (m : ObjectMgr Obj) : UInt16 :=
  match (List.range' 1 maxExtent.toNat).find? fun index =>
      (m.objectExtents (UInt16.ofNat index)).isNone with
  | some index => UInt16.ofNat index
  | none => invalidExtent

def addObject (kind : ObjectClass Obj) (m : ObjectMgr Obj) (obj : Obj) : ObjectMgr Obj :=
  if m.getObj kind (m.extent obj) = some obj then m
  else
    let extent :=
      if m.extent obj = 0 ∨ m.isExtentAvailable (m.extent obj) = false then m.requestExtent
      else m.extent obj
    { extent := Function.update m.extent obj extent
      objectExtents := Function.update m.objectExtents extent (some obj)
      objectTable := insert obj m.objectTable
      playerList := if kind.type obj = playerType then insert obj m.playerList else m.playerList }

def removeObject (kind : ObjectClass Obj) (m : ObjectMgr Obj) (obj : Obj) :
    ObjectMgr Obj × Bool :=
  if obj ∈ m.objectTable then
    ({ m with
        objectTable := m.objectTable.erase obj
        playerList := if kind.type obj = playerType then m.playerList.erase obj else m.playerList
        objectExtents := Function.update m.objectExtents (m.extent obj) none }, true)
  else (m, false)

def changeObjectExtent (kind : ObjectClass Obj) (m : ObjectMgr Obj) (obj : Obj)
    (newExtent : UInt16) : ObjectMgr Obj × Bool :=
  if m.isExtentAvailable newExtent then
    let removed := (m.removeObject kind obj).1
    let renumbered := { removed with extent := Function.update removed.extent obj newExtent }
    (renumbered.addObject kind obj, true)
  else (m, false)

end ObjectMgr

/-! ### Consistency -/

/-- The array, the table and the objects' own extents agree. -/
structure Consistent {Obj : Type} (m : ObjectMgr Obj) : Prop where
  registered : ∀ o ∈ m.objectTable,
    1 ≤ m.extent o ∧ m.extent o ≤ maxExtent ∧ m.objectExtents (m.extent o) = some o
  occupied : ∀ e o, m.objectExtents e = some o → o ∈ m.objectTable ∧ m.extent o = e

namespace ObjectMgr

variable {Obj : Type}

/-- An extent no object has. -/
structure Free (m : ObjectMgr Obj) (e : UInt16) : Prop where
  one_le : 1 ≤ e
  le_max : e ≤ maxExtent
  empty : m.objectExtents e = none

theorem isExtentAvailable_iff (m : ObjectMgr Obj) (e : UInt16) :
    m.isExtentAvailable e = true ↔ m.Free e := by
  have positive : e ≠ 0 ↔ 1 ≤ e := by
    rw [UInt16.le_iff_toNat_le, Ne, ← UInt16.toNat_inj]
    exact Nat.pos_iff_ne_zero.symm
  constructor
  · intro available
    simp only [isExtentAvailable, Bool.not_eq_true', Bool.or_eq_false_iff, beq_eq_false_iff_ne,
      decide_eq_false_iff_not, Option.isSome_eq_false_iff, Option.isNone_iff_eq_none] at available
    obtain ⟨⟨nonzero, small⟩, empty⟩ := available
    exact ⟨positive.mp nonzero, UInt16.not_lt.mp small, empty⟩
  · rintro ⟨one_le, le_max, empty⟩
    simp [isExtentAvailable, positive.mpr one_le, empty, le_max]

theorem slot_of_getObj {kind : ObjectClass Obj} {m : ObjectMgr Obj} {o : Obj} {e : UInt16}
    (found : m.getObj kind e = some o) : m.objectExtents e = some o := by
  have slot := (Option.filter_eq_some_iff.mp found).1
  unfold getImmobileObj at slot
  split at slot
  · cases slot
  · exact slot

/-- The number of objects a consistent array can hold bounds the free extents from below:
with fewer objects than extents, some extent is free. -/
theorem exists_free {m : ObjectMgr Obj} (consistent : Consistent m)
    (room : m.objectTable.card < maxExtent.toNat) :
    ∃ index ∈ List.range' 1 maxExtent.toNat, m.objectExtents (UInt16.ofNat index) = none := by
  classical
  by_contra none
  have full : ∀ index ∈ List.range' 1 maxExtent.toNat,
      m.objectExtents (UInt16.ofNat index) ≠ .none := fun index mem empty =>
    none ⟨index, mem, empty⟩
  have covered : Finset.Icc 1 maxExtent.toNat ⊆
      m.objectTable.image fun o => (m.extent o).toNat := by
    intro index mem
    rw [Finset.mem_Icc] at mem
    have inRange : index ∈ List.range' 1 maxExtent.toNat := by
      rw [List.mem_range'_1]
      omega
    obtain ⟨o, holds⟩ := Option.ne_none_iff_exists'.mp (full index inRange)
    obtain ⟨registered, extent⟩ := consistent.occupied _ o holds
    have bound : maxExtent.toNat < UInt16.size := by decide
    refine Finset.mem_image.mpr ⟨o, registered, ?_⟩
    rw [extent, UInt16.toNat_ofNat_of_lt' (by omega)]
  have count := Finset.card_le_card covered
  rw [Nat.card_Icc] at count
  have image := Finset.card_image_le (s := m.objectTable) (f := fun o => (m.extent o).toNat)
  omega

theorem free_of_index {m : ObjectMgr Obj} {index : Nat}
    (mem : index ∈ List.range' 1 maxExtent.toNat)
    (empty : m.objectExtents (UInt16.ofNat index) = none) : m.Free (UInt16.ofNat index) := by
  rw [List.mem_range'_1] at mem
  have bound : maxExtent.toNat < UInt16.size := by decide
  have value : (UInt16.ofNat index).toNat = index := UInt16.toNat_ofNat_of_lt' (by omega)
  refine ⟨?_, ?_, empty⟩
  · rw [UInt16.le_iff_toNat_le, value]
    exact mem.1
  · rw [UInt16.le_iff_toNat_le, value]
    omega

/-- `RequestExtent` gives a free extent, or none is free. -/
theorem requestExtent_cases (m : ObjectMgr Obj) :
    m.Free m.requestExtent ∨ (m.requestExtent = invalidExtent ∧ ∀ e, ¬m.Free e) := by
  unfold ObjectMgr.requestExtent
  cases found : (List.range' 1 maxExtent.toNat).find? fun index =>
      (m.objectExtents (UInt16.ofNat index)).isNone with
  | none =>
      refine .inr ⟨rfl, fun e free => ?_⟩
      have mem : e.toNat ∈ List.range' 1 maxExtent.toNat := by
        have one_le := UInt16.le_iff_toNat_le.mp free.one_le
        have le_max := UInt16.le_iff_toNat_le.mp free.le_max
        rw [List.mem_range'_1]
        exact ⟨one_le, by omega⟩
      have taken := List.find?_eq_none.mp found e.toNat mem
      simp [free.empty] at taken
  | some index =>
      have none := List.find?_some found
      exact .inl (free_of_index (List.mem_of_find?_eq_some found)
        (Option.isNone_iff_eq_none.mp none))

/-- `RequestExtent` gives a free extent while there is one. -/
theorem requestExtent_free {m : ObjectMgr Obj} (consistent : Consistent m)
    (room : m.objectTable.card < maxExtent.toNat) : m.Free m.requestExtent := by
  obtain ⟨index, mem, empty⟩ := exists_free consistent room
  exact m.requestExtent_cases.resolve_right fun full => full.2 _ (free_of_index mem empty)

/-! ### Operations -/

variable [DecidableEq Obj] {kind : ObjectClass Obj} {m : ObjectMgr Obj} {o : Obj}

/-- The manager with an object put at an extent. -/
def register (kind : ObjectClass Obj) (m : ObjectMgr Obj) (o : Obj) (e : UInt16) :
    ObjectMgr Obj where
  extent := Function.update m.extent o e
  objectExtents := Function.update m.objectExtents e (some o)
  objectTable := insert o m.objectTable
  playerList := if kind.type o = playerType then insert o m.playerList else m.playerList

/-- The manager with an object taken out. -/
def unregister (kind : ObjectClass Obj) (m : ObjectMgr Obj) (o : Obj) : ObjectMgr Obj where
  extent := m.extent
  objectTable := m.objectTable.erase o
  playerList := if kind.type o = playerType then m.playerList.erase o else m.playerList
  objectExtents := Function.update m.objectExtents (m.extent o) none

/-- `AddObject` puts an object that is not found at a free extent, or at the invalid one when none
is free. -/
theorem addObject_new (absent : m.getObj kind (m.extent o) ≠ some o) :
    ∃ e, (m.Free e ∨ (e = invalidExtent ∧ ∀ e', ¬m.Free e')) ∧
      m.addObject kind o = m.register kind o e := by
  refine ⟨if m.extent o = 0 ∨ m.isExtentAvailable (m.extent o) = false then
    m.requestExtent else m.extent o, ?_, if_neg absent⟩
  split
  · exact m.requestExtent_cases
  · next own =>
      have available : m.isExtentAvailable (m.extent o) = true := by
        simpa using (not_or.mp own).2
      exact .inl ((isExtentAvailable_iff m _).mp available)

/-- What `AddObject` can do: nothing for an object that is found already, or put it at a free
extent, or at the invalid one when none is free. -/
theorem addObject_cases (kind : ObjectClass Obj) (m : ObjectMgr Obj) (o : Obj) :
    (m.objectExtents (m.extent o) = some o ∧ m.addObject kind o = m) ∨
      ∃ e, (m.Free e ∨ (e = invalidExtent ∧ ∀ e', ¬m.Free e')) ∧
        m.addObject kind o = m.register kind o e := by
  by_cases here : m.getObj kind (m.extent o) = some o
  · exact .inl ⟨slot_of_getObj here, if_pos here⟩
  · exact .inr (addObject_new here)

theorem removeObject_of_mem (present : o ∈ m.objectTable) :
    m.removeObject kind o = (m.unregister kind o, true) := if_pos present

theorem removeObject_of_notMem (absent : o ∉ m.objectTable) :
    m.removeObject kind o = (m, false) := if_neg absent

/-- `AddObject` of an object that is not registered puts it at a free extent: its own, or
the first free one. -/
theorem addObject_eq (consistent : Consistent m) (new : o ∉ m.objectTable)
    (room : m.Free (m.extent o) ∨ m.objectTable.card < maxExtent.toNat) :
    ∃ e, m.Free e ∧ m.addObject kind o = m.register kind o e ∧
      (m.Free (m.extent o) → e = m.extent o) := by
  have absent : m.getObj kind (m.extent o) ≠ some o := fun found =>
    new (consistent.occupied _ o (slot_of_getObj found)).1
  by_cases own : m.Free (m.extent o)
  · have available := (isExtentAvailable_iff m _).mpr own
    have nonzero : m.extent o ≠ 0 := by
      intro zero
      have one_le := own.one_le
      rw [zero] at one_le
      exact absurd one_le (by decide)
    refine ⟨m.extent o, own, ?_, fun _ => rfl⟩
    simp [addObject, register, absent, available, nonzero]
  · have taken : m.extent o = 0 ∨ m.isExtentAvailable (m.extent o) = false := by
      refine .inr (Bool.eq_false_iff.mpr fun available => ?_)
      exact own ((isExtentAvailable_iff m _).mp available)
    refine ⟨m.requestExtent, requestExtent_free consistent (room.resolve_left own), ?_,
      fun free => absurd free own⟩
    simp only [addObject, register, if_neg absent, if_pos taken]

end ObjectMgr

namespace Consistent

variable {Obj : Type} {m : ObjectMgr Obj}

/-- An empty manager, whatever extents the objects come with. -/
theorem empty (extent : Obj → UInt16) : Consistent { extent := extent : ObjectMgr Obj } where
  registered := nofun
  occupied := nofun

/-- Registered objects with one extent are one object. -/
theorem extent_injective (consistent : Consistent m) {o o' : Obj} (mem : o ∈ m.objectTable)
    (mem' : o' ∈ m.objectTable) (same : m.extent o = m.extent o') : o = o' := by
  have slot := (consistent.registered o mem).2.2
  have slot' := (consistent.registered o' mem').2.2
  rw [same, slot'] at slot
  exact (Option.some.inj slot).symm

/-- A lookup finds exactly the registered object with the extent. -/
theorem getImmobileObj_iff (consistent : Consistent m) (e : UInt16) (o : Obj) :
    m.getImmobileObj e = some o ↔ o ∈ m.objectTable ∧ m.extent o = e := by
  constructor
  · intro found
    unfold ObjectMgr.getImmobileObj at found
    split at found
    · cases found
    · exact consistent.occupied e o found
  · rintro ⟨mem, rfl⟩
    obtain ⟨_, le_max, slot⟩ := consistent.registered o mem
    rw [ObjectMgr.getImmobileObj, if_neg (UInt16.not_lt.mpr le_max), slot]

variable [DecidableEq Obj] {kind : ObjectClass Obj} {o : Obj}

/-- The extent of an object that is not registered is nobody's business. -/
theorem renumber (consistent : Consistent m) (absent : o ∉ m.objectTable) (e : UInt16) :
    Consistent { m with extent := Function.update m.extent o e } where
  registered := by
    intro other mem
    have different : other ≠ o := fun same => absent (same ▸ mem)
    simpa [different] using consistent.registered other mem
  occupied := by
    intro slot other holds
    obtain ⟨mem, extent⟩ := consistent.occupied slot other holds
    have different : other ≠ o := fun same => absent (same ▸ mem)
    exact ⟨mem, by simpa [different] using extent⟩

/-- An object that was not registered takes a free extent, and the slots, the table and the lists
agree again. -/
theorem register (consistent : Consistent m) (absent : o ∉ m.objectTable) {e : UInt16}
    (free : m.Free e) : Consistent (m.register kind o e) where
  registered := by
    intro other mem
    by_cases same : other = o
    · subst same
      simpa [ObjectMgr.register] using ⟨free.one_le, free.le_max⟩
    · have before := Finset.mem_of_mem_insert_of_ne mem same
      obtain ⟨one_le, le_max, slot⟩ := consistent.registered other before
      have elsewhere : m.extent other ≠ e := by
        intro here
        rw [here, free.empty] at slot
        cases slot
      simpa [ObjectMgr.register, same, elsewhere] using ⟨one_le, le_max, slot⟩
  occupied := by
    intro slot other holds
    by_cases here : slot = e
    · subst here
      have same : o = other := by simpa [ObjectMgr.register] using holds
      subst same
      simp [ObjectMgr.register]
    · have before : m.objectExtents slot = some other := by
        simpa [ObjectMgr.register, here] using holds
      obtain ⟨mem, extent⟩ := consistent.occupied slot other before
      have different : other ≠ o := fun same => absent (same ▸ mem)
      simpa [ObjectMgr.register, different] using ⟨mem, extent⟩

/-- An object that was registered gives its extent up, and no other loses its own. -/
theorem unregister (consistent : Consistent m) (present : o ∈ m.objectTable) :
    Consistent (m.unregister kind o) where
  registered := by
    intro other mem
    obtain ⟨different, before⟩ := Finset.mem_erase.mp mem
    obtain ⟨one_le, le_max, slot⟩ := consistent.registered other before
    have elsewhere : m.extent other ≠ m.extent o := by
      intro same
      have mine := (consistent.registered o present).2.2
      rw [← same, slot] at mine
      exact different (Option.some.inj mine)
    simpa [ObjectMgr.unregister, elsewhere] using ⟨one_le, le_max, slot⟩
  occupied := by
    intro slot other holds
    by_cases here : slot = m.extent o
    · simp [ObjectMgr.unregister, here] at holds
    · have before : m.objectExtents slot = some other := by
        simpa [ObjectMgr.unregister, here] using holds
      obtain ⟨mem, extent⟩ := consistent.occupied slot other before
      have different : other ≠ o := by
        rintro rfl
        exact here extent.symm
      simpa [ObjectMgr.unregister, different] using ⟨mem, extent⟩

theorem addObject (consistent : Consistent m) (absent : o ∉ m.objectTable)
    (room : m.Free (m.extent o) ∨ m.objectTable.card < maxExtent.toNat) :
    Consistent (m.addObject kind o) := by
  obtain ⟨e, free, added, _⟩ := ObjectMgr.addObject_eq consistent absent room
  rw [added]
  exact consistent.register absent free

theorem removeObject (consistent : Consistent m) :
    Consistent (m.removeObject kind o).1 := by
  by_cases present : o ∈ m.objectTable
  · rw [ObjectMgr.removeObject_of_mem present]
    exact consistent.unregister present
  · rw [ObjectMgr.removeObject_of_notMem present]
    exact consistent

/-- The remove, rewrite and add of `ChangeObjectExtent`: between them the object is not
registered, and the new extent is still free when it is added back. -/
theorem changeObjectExtent (consistent : Consistent m) (present : o ∈ m.objectTable)
    (newExtent : UInt16) : Consistent (m.changeObjectExtent kind o newExtent).1 := by
  unfold ObjectMgr.changeObjectExtent
  split
  · next available =>
      have free := (ObjectMgr.isExtentAvailable_iff m newExtent).mp available
      have absent : o ∉ (m.unregister kind o).objectTable := Finset.notMem_erase o _
      have unregistered : Consistent (m.unregister kind o) := consistent.unregister present
      have renumbered := unregistered.renumber absent newExtent
      rw [ObjectMgr.removeObject_of_mem present]
      refine renumbered.addObject absent (.inl ⟨?_, ?_, ?_⟩)
      · simpa using free.one_le
      · simpa using free.le_max
      · have elsewhere : newExtent ≠ m.extent o := by
          rintro rfl
          have mine := (consistent.registered o present).2.2
          rw [free.empty] at mine
          cases mine
        simpa [ObjectMgr.unregister, elsewhere] using free.empty
  · exact consistent

end Consistent

/-! ### Runs -/

/-- A call of the manager. -/
inductive ObjectOp (Obj : Type) where
  | add (obj : Obj)
  | remove (obj : Obj)
  | changeExtent (obj : Obj) (newExtent : UInt16)

namespace ObjectOp

variable {Obj : Type} [DecidableEq Obj]

def apply (kind : ObjectClass Obj) (m : ObjectMgr Obj) : ObjectOp Obj → ObjectMgr Obj
  | add obj => m.addObject kind obj
  | remove obj => (m.removeObject kind obj).1
  | changeExtent obj newExtent => (m.changeObjectExtent kind obj newExtent).1

/-- When the call is made: objects are added once, while there is room, and extents are
changed of registered objects that can move. -/
def Made (kind : ObjectClass Obj) (m : ObjectMgr Obj) : ObjectOp Obj → Prop
  | add obj => obj ∉ m.objectTable ∧ m.objectTable.card < maxExtent.toNat
  | remove _ => True
  | changeExtent obj _ => obj ∈ m.objectTable ∧ kind.immobile obj = false

instance (kind : ObjectClass Obj) (m : ObjectMgr Obj) : DecidablePred (Made kind m)
  | add obj => inferInstanceAs (Decidable (obj ∉ m.objectTable ∧ _))
  | remove _ => inferInstanceAs (Decidable True)
  | changeExtent obj _ => inferInstanceAs (Decidable (obj ∈ m.objectTable ∧ _))

def Step (kind : ObjectClass Obj) : ObjectMgr Obj → ObjectOp Obj → ObjectMgr Obj → Prop :=
  Runs.guarded (Made kind) fun m op m' => m' = op.apply kind m

end ObjectOp

section Run

variable {Obj : Type} [DecidableEq Obj] {kind : ObjectClass Obj}

theorem Consistent.step (m : ObjectMgr Obj) (op : ObjectOp Obj) (m' : ObjectMgr Obj)
    (consistent : Consistent m) (step : ObjectOp.Step kind m op m') : Consistent m' := by
  obtain ⟨made, rfl⟩ := step
  cases op with
  | add obj => exact consistent.addObject made.1 (.inr made.2)
  | remove obj => exact consistent.removeObject
  | changeExtent obj newExtent => exact consistent.changeObjectExtent made.1 newExtent

/-- After any run from an empty manager, with objects of any extents: a registered object
has an extent in range and is found at it, a used slot holds a registered object of its
extent, extents are distinct, and a lookup finds exactly the object with the extent. -/
theorem extents_consistent (extent : Obj → UInt16) {ops : List (ObjectOp Obj)}
    {m : ObjectMgr Obj} (run : Runs.Run (ObjectOp.Step kind) { extent := extent } ops m) :
    (∀ o ∈ m.objectTable,
      1 ≤ m.extent o ∧ m.extent o ≤ maxExtent ∧ m.objectExtents (m.extent o) = some o) ∧
    (∀ e o, m.objectExtents e = some o → o ∈ m.objectTable ∧ m.extent o = e) ∧
    (∀ o ∈ m.objectTable, ∀ o' ∈ m.objectTable, m.extent o = m.extent o' → o = o') ∧
    ∀ e o, m.getImmobileObj e = some o ↔ o ∈ m.objectTable ∧ m.extent o = e := by
  have consistent : Consistent m := run.invariant Consistent.step (.empty extent)
  exact ⟨consistent.registered, consistent.occupied,
    fun o mem o' mem' same => consistent.extent_injective mem mem' same,
    consistent.getImmobileObj_iff⟩

/-- Two objects that both come with extent 5: the second is given extent 1, the first is
then moved to extent 7. -/
theorem extents_consistent_two :
    let kind : ObjectClass Bool := ⟨fun _ => 0, fun _ => false⟩
    let added := (({ extent := fun _ => 5 } : ObjectMgr Bool).addObject kind false).addObject
      kind true
    (added.changeObjectExtent kind false 7).1.getImmobileObj 7 = some false ↔
      false ∈ (added.changeObjectExtent kind false 7).1.objectTable ∧
        (added.changeObjectExtent kind false 7).1.extent false = 7 := by
  intro kind added
  have run : Runs.Run (ObjectOp.Step kind) { extent := fun _ => 5 }
      [.add false, .add true, .changeExtent false 7] (added.changeObjectExtent kind false 7).1 :=
    .cons ⟨by decide, rfl⟩ (.cons ⟨by decide, rfl⟩ (.cons ⟨by decide, rfl⟩ (.nil _)))
  exact (extents_consistent (fun _ => 5) run).2.2.2 7 false

end Run

end NoxServer.Objects
