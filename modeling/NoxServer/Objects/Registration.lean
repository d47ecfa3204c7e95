import NoxServer.Objects.ObjectMgr

/-!
What `AddObject` does when there is nothing left to do, and when there is no extent left.

An object that is registered already is told by `GetObj`, which does not find immobile ones: these
get another extent and a second slot (`addObject_again_iff`). `RequestExtent` reports with
`INVALID_EXTENT` that all extents are taken, which `AddObject` takes for an extent
(`addObject_safe_iff`).
-/

namespace NoxServer.Objects

open Runs

namespace ObjectMgr

variable {Obj : Type} [DecidableEq Obj] {kind : ObjectClass Obj} {m : ObjectMgr Obj} {o : Obj}

/-! ### Registered objects -/

/-- The calls leave no reference to the object; `playerList` is a list of players. -/
structure Unreferenced (kind : ObjectClass Obj) (m : ObjectMgr Obj) (o : Obj) : Prop where
  table : o ∉ m.objectTable
  slots : ∀ e, m.objectExtents e ≠ some o
  players : kind.type o = playerType → o ∉ m.playerList

/-- `AddObject` changes nothing, and one `RemoveObject` after it removes every reference. -/
structure AddedOnce (kind : ObjectClass Obj) (m : ObjectMgr Obj) (o : Obj) : Prop where
  slots : (m.addObject kind o).objectExtents = m.objectExtents
  table : (m.addObject kind o).objectTable = m.objectTable
  players : (m.addObject kind o).playerList = m.playerList
  extent : (m.addObject kind o).extent o = m.extent o
  removed : ((m.addObject kind o).removeObject kind o).1.Unreferenced kind o

omit [DecidableEq Obj] in
/-- An object that can move is found at its extent. -/
theorem getObj_registered (consistent : Consistent m) (present : o ∈ m.objectTable)
    (mobile : kind.immobile o = false) : m.getObj kind (m.extent o) = some o := by
  have found := (consistent.getImmobileObj_iff _ o).mpr ⟨present, rfl⟩
  rw [getObj, found, Option.filter_some, mobile]
  rfl

omit [DecidableEq Obj] in
/-- What cannot move is never found. -/
theorem getObj_ne_of_immobile (immobile : kind.immobile o = true) (e : UInt16) :
    m.getObj kind e ≠ some o := by
  intro found
  have mobile := (Option.filter_eq_some_iff.mp found).2
  rw [immobile] at mobile
  cases mobile

theorem unreferenced_of_removeObject (consistent : Consistent m) (present : o ∈ m.objectTable) :
    (m.removeObject kind o).1.Unreferenced kind o := by
  rw [removeObject_of_mem present]
  have after : Consistent (m.unregister kind o) := consistent.unregister present
  have gone : o ∉ (m.unregister kind o).objectTable := Finset.notMem_erase o _
  refine ⟨gone, fun e holds => gone (after.occupied e o holds).1, fun player => ?_⟩
  rw [unregister, if_pos player]
  exact Finset.notMem_erase o _

/-- A registered object that cannot move gets another extent. -/
theorem extent_addObject_immobile (consistent : Consistent m) (present : o ∈ m.objectTable)
    (immobile : kind.immobile o = true) :
    (m.addObject kind o).extent o ≠ m.extent o := by
  obtain ⟨one_le, _, slot⟩ := consistent.registered o present
  have taken : m.extent o = 0 ∨ m.isExtentAvailable (m.extent o) = false := by
    refine .inr (Bool.eq_false_iff.mpr fun available => ?_)
    have empty := ((isExtentAvailable_iff m _).mp available).empty
    rw [slot] at empty
    cases empty
  rw [addObject, if_neg (getObj_ne_of_immobile immobile _)]
  dsimp only
  rw [if_pos taken, Function.update_self]
  intro same
  rcases m.requestExtent_cases with free | ⟨invalid, -⟩
  · have empty := free.empty
    rw [same, slot] at empty
    cases empty
  · rw [same] at invalid
    rw [invalid] at one_le
    exact absurd one_le (by decide)

/-- Adding a registered object again changes nothing, and removing it once removes it wholly,
exactly if the object can move: the test that it is there already asks the lookup that does not see
immobile objects. -/
theorem addObject_again_iff (consistent : Consistent m) (present : o ∈ m.objectTable) :
    AddedOnce kind m o ↔ kind.immobile o = false := by
  constructor
  · intro once
    by_contra immobile
    exact extent_addObject_immobile consistent present (Bool.not_eq_false _ ▸ immobile) once.extent
  · intro mobile
    have same : m.addObject kind o = m := if_pos (getObj_registered consistent present mobile)
    refine ⟨?_, ?_, ?_, ?_, ?_⟩
    · rw [same]
    · rw [same]
    · rw [same]
    · rw [same]
    · rw [same]
      exact unreferenced_of_removeObject consistent present

/-- A manager with one object, which comes without an extent. -/
def oneObject (immobile : Bool) : ObjectMgr Nat :=
  ({ extent := fun _ => 0 } : ObjectMgr Nat).addObject ⟨fun _ => 0, fun _ => immobile⟩ 0

theorem oneObject_consistent (immobile : Bool) : Consistent (oneObject immobile) :=
  (Consistent.empty fun _ => 0).addObject (Finset.notMem_empty 0) (.inr (by decide))

theorem mem_oneObject (immobile : Bool) : 0 ∈ (oneObject immobile).objectTable := by
  cases immobile <;> decide

/-- An object that can move is added again. -/
theorem addObject_again_mobile :
    AddedOnce ⟨fun _ => 0, fun _ => false⟩ (oneObject false) 0 ↔ false = false :=
  addObject_again_iff (oneObject_consistent false) (mem_oneObject false)

/-- An object that cannot move gets the next extent, and its slot keeps it when it is removed. -/
theorem addObject_again_immobile :
    ((oneObject true).addObject ⟨fun _ => 0, fun _ => true⟩ 0).extent 0 = 2 ∧
      (((oneObject true).addObject ⟨fun _ => 0, fun _ => true⟩ 0).removeObject
        ⟨fun _ => 0, fun _ => true⟩ 0).1.objectExtents 1 = some 0 ∧
      ¬AddedOnce ⟨fun _ => 0, fun _ => true⟩ (oneObject true) 0 := by
  refine ⟨by decide, by decide, fun once => ?_⟩
  exact absurd once.extent (by decide)

/-! ### Extents that run out -/

/-- A registered object is found at its extent, which is a valid one. Slots may be stale. -/
def Registered (m : ObjectMgr Obj) : Prop :=
  ∀ o ∈ m.objectTable,
    1 ≤ m.extent o ∧ m.extent o ≤ maxExtent ∧ m.objectExtents (m.extent o) = some o

/-- `AddObject` leaves what is in slots, and after it registered objects have extents of their
own, none of which is `INVALID_EXTENT`. -/
structure AddedSafely (kind : ObjectClass Obj) (m : ObjectMgr Obj) (o : Obj) : Prop where
  distinct : ∀ a ∈ (m.addObject kind o).objectTable, ∀ b ∈ (m.addObject kind o).objectTable,
    a ≠ b → (m.addObject kind o).extent a ≠ (m.addObject kind o).extent b
  kept : ∀ e a, a ≠ o → m.objectExtents e = some a →
    (m.addObject kind o).objectExtents e = some a
  valid : ∀ a ∈ (m.addObject kind o).objectTable, (m.addObject kind o).extent a ≠ invalidExtent

omit [DecidableEq Obj] in
theorem Registered.extent_injective (registered : m.Registered) {a b : Obj}
    (here : a ∈ m.objectTable) (there : b ∈ m.objectTable) (same : m.extent a = m.extent b) :
    a = b := by
  have slot := (registered a here).2.2
  rw [same, (registered b there).2.2] at slot
  exact (Option.some.inj slot).symm

omit [DecidableEq Obj] in
theorem Registered.extent_ne_zero (registered : m.Registered) (present : o ∈ m.objectTable) :
    m.extent o ≠ invalidExtent := by
  intro zero
  have one_le := (registered o present).1
  rw [zero] at one_le
  exact absurd one_le (by decide)

theorem Registered.register (registered : m.Registered) {e : UInt16} (free : m.Free e) :
    (m.register kind o e).Registered := by
  intro a mem
  unfold ObjectMgr.register at mem ⊢
  dsimp only at mem ⊢
  by_cases here : a = o
  · subst here
    rw [Function.update_self, Function.update_self]
    exact ⟨free.one_le, free.le_max, rfl⟩
  · have before := (Finset.mem_insert.mp mem).resolve_left here
    obtain ⟨one_le, le_max, slot⟩ := registered a before
    have elsewhere : m.extent a ≠ e := by
      intro same
      rw [same, free.empty] at slot
      cases slot
    rw [Function.update_of_ne here, Function.update_of_ne elsewhere]
    exact ⟨one_le, le_max, slot⟩

theorem Registered.removeObject (registered : m.Registered) (kind : ObjectClass Obj) (o : Obj) :
    (m.removeObject kind o).1.Registered := by
  by_cases present : o ∈ m.objectTable
  · rw [removeObject_of_mem present]
    intro a mem
    obtain ⟨other, before⟩ := Finset.mem_erase.mp mem
    obtain ⟨one_le, le_max, slot⟩ := registered a before
    have elsewhere : m.extent a ≠ m.extent o := fun same =>
      other (registered.extent_injective before present same)
    exact ⟨one_le, le_max, (Function.update_of_ne elsewhere ..).trans slot⟩
  · rw [removeObject_of_notMem present]
    exact registered

theorem notMem_removeObject (m : ObjectMgr Obj) (o : Obj) :
    o ∉ (m.removeObject kind o).1.objectTable := by
  by_cases present : o ∈ m.objectTable
  · rw [removeObject_of_mem present]
    exact Finset.notMem_erase o _
  · rw [removeObject_of_notMem present]
    exact present

/-- A free extent stays free when an object is removed. -/
theorem Free.removeObject {e : UInt16} (free : m.Free e) (o : Obj) :
    (m.removeObject kind o).1.Free e := by
  by_cases present : o ∈ m.objectTable
  · rw [removeObject_of_mem present]
    refine ⟨free.one_le, free.le_max, ?_⟩
    by_cases own : e = m.extent o
    · rw [own]
      exact Function.update_self ..
    · exact (Function.update_of_ne own ..).trans free.empty
  · rw [removeObject_of_notMem present]
    exact free

/-- The extent of an object that is not registered may be changed. -/
theorem Registered.renumber (registered : m.Registered) (absent : o ∉ m.objectTable) (e : UInt16) :
    Registered { m with extent := Function.update m.extent o e } := by
  intro a mem
  have other : a ≠ o := by
    rintro rfl
    exact absent mem
  dsimp only
  rw [Function.update_of_ne other]
  exact registered a mem

/-- An object that comes with a free extent is put there or at another one. -/
theorem Registered.addObject (registered : m.Registered) (free : m.Free (m.extent o)) :
    (m.addObject kind o).Registered := by
  have absent : m.getObj kind (m.extent o) ≠ some o := by
    intro found
    cases free.empty.symm.trans (slot_of_getObj found)
  obtain ⟨e, free' | ⟨-, full⟩, added⟩ := addObject_new absent
  · rw [added]
    exact registered.register free'
  · exact absurd free (full _)

theorem Registered.changeObjectExtent (registered : m.Registered) (o : Obj) (newExtent : UInt16) :
    (m.changeObjectExtent kind o newExtent).1.Registered := by
  unfold ObjectMgr.changeObjectExtent
  split
  · next available =>
      have free : (m.removeObject kind o).1.Free newExtent :=
        ((isExtentAvailable_iff m newExtent).mp available).removeObject o
      have renumbered := (registered.removeObject kind o).renumber
        (notMem_removeObject m o) newExtent
      have own : Function.update (m.removeObject kind o).1.extent o newExtent o = newExtent :=
        Function.update_self ..
      refine renumbered.addObject ?_
      dsimp only
      rw [own]
      exact ⟨free.one_le, free.le_max, free.empty⟩
  · exact registered

/-- Without a free extent, the object gets the invalid one. -/
theorem not_addedSafely (absent : m.getObj kind (m.extent o) ≠ some o) (full : ∀ e, ¬m.Free e) :
    ¬m.AddedSafely kind o := by
  intro safe
  obtain ⟨e, free | ⟨invalid, -⟩, added⟩ := addObject_new absent
  · exact full e free
  · refine safe.valid o ?_ ?_
    · rw [added]
      exact Finset.mem_insert_self o _
    · rw [added]
      exact (Function.update_self ..).trans invalid

/-! ### New objects -/

/-- The extents up to `k` are taken, and the others are not. -/
structure Filled (m : ObjectMgr Obj) (k : Nat) : Prop where
  taken : ∀ e : UInt16, 1 ≤ e.toNat → e.toNat ≤ k → m.objectExtents e ≠ none
  empty : ∀ e : UInt16, e = 0 ∨ k < e.toNat → e ≤ maxExtent → m.objectExtents e = none

omit [DecidableEq Obj] in
theorem toNat_extent (index : Nat) (small : index ≤ maxExtent.toNat) :
    (UInt16.ofNat index).toNat = index := by
  have bound : maxExtent.toNat < UInt16.size := by decide
  exact UInt16.toNat_ofNat_of_lt' (by omega)

omit [DecidableEq Obj] in
theorem Filled.requestExtent {k : Nat} (filled : m.Filled k) (room : k < maxExtent.toNat) :
    m.requestExtent = UInt16.ofNat (k + 1) := by
  have first : ((List.range' 1 maxExtent.toNat).find? fun index =>
      (m.objectExtents (UInt16.ofNat index)).isNone) = some (k + 1) := by
    rw [List.find?_range'_eq_some]
    have value := toNat_extent (k + 1) room
    refine ⟨?_, ?_, ?_⟩
    · rw [Option.isNone_iff_eq_none]
      refine filled.empty _ (.inr ?_) ?_
      · omega
      · rw [UInt16.le_iff_toNat_le]
        omega
    · rw [List.mem_range'_1]
      omega
    · intro index one_le below
      have value' := toNat_extent index (by omega)
      have taken := filled.taken (UInt16.ofNat index) (by omega) (by omega)
      simpa using Option.isSome_iff_ne_none.mpr taken
  rw [ObjectMgr.requestExtent, first]

omit [DecidableEq Obj] in
theorem Filled.getObj_zero {k : Nat} (filled : m.Filled k) : m.getObj kind 0 = none := by
  rw [getObj, getImmobileObj, if_neg (by decide), filled.empty 0 (.inl rfl) (by decide)]
  rfl

/-- An object without an extent gets the next one. -/
theorem Filled.addObject {k : Nat} (filled : m.Filled k) (kind : ObjectClass Obj)
    (room : k < maxExtent.toNat) (without : m.extent o = 0) :
    m.addObject kind o = m.register kind o (UInt16.ofNat (k + 1)) := by
  have absent : m.getObj kind (m.extent o) ≠ some o := by
    rw [without, filled.getObj_zero]
    nofun
  rw [ObjectMgr.addObject, if_neg absent]
  dsimp only
  rw [if_pos (.inl without), filled.requestExtent room]
  rfl

/-- One more object takes the next extent, while there are some. -/
theorem Filled.register {k : Nat} (filled : m.Filled k) (room : k < maxExtent.toNat) :
    (m.register kind o (UInt16.ofNat (k + 1))).Filled (k + 1) := by
  have value := toNat_extent (k + 1) room
  refine ⟨?_, ?_⟩
  · intro e one_le le
    unfold ObjectMgr.register
    dsimp only
    by_cases here : e = UInt16.ofNat (k + 1)
    · rw [here, Function.update_self]
      nofun
    · rw [Function.update_of_ne here]
      refine filled.taken e one_le ?_
      have other : e.toNat ≠ k + 1 := fun same => here (UInt16.toNat_inj.mp (same.trans value.symm))
      omega
  · intro e outside le_max
    have other : e ≠ UInt16.ofNat (k + 1) := by
      rintro rfl
      rcases outside with zero | above
      · have same := congrArg UInt16.toNat zero
        rw [value] at same
        cases same
      · omega
    refine (Function.update_of_ne other ..).trans (filled.empty e ?_ le_max)
    exact outside.imp_right fun above => by omega

/-- Some objects are added, one after the other. -/
def addAll (kind : ObjectClass Obj) (m : ObjectMgr Obj) (objs : List Obj) : ObjectMgr Obj :=
  objs.foldl (addObject kind) m

/-- Objects without extents fill the table from where it is filled to. -/
theorem Filled.addAll {objs : List Obj} {k : Nat} (filled : m.Filled k)
    (kind : ObjectClass Obj) (room : k + objs.length ≤ maxExtent.toNat) (distinct : objs.Nodup)
    (without : ∀ o ∈ objs, m.extent o = 0) :
    (m.addAll kind objs).Filled (k + objs.length) ∧
      ∀ a, a ∉ objs → (m.addAll kind objs).extent a = m.extent a := by
  induction objs generalizing m k with
  | nil => exact ⟨filled, fun _ _ => rfl⟩
  | cons o objs ih =>
      rw [List.length_cons] at room
      obtain ⟨new, distinct⟩ := List.nodup_cons.mp distinct
      have added := filled.addObject kind (by omega) (without o List.mem_cons_self)
      have others {a : Obj} (other : a ≠ o) : (m.addObject kind o).extent a = m.extent a := by
        rw [added]
        exact Function.update_of_ne other ..
      have filled' : (m.addObject kind o).Filled (k + 1) := by
        rw [added]
        exact filled.register (by omega)
      obtain ⟨after, same⟩ := ih filled' (by omega) distinct fun a mem => by
        rw [others (ne_of_mem_of_not_mem mem new)]
        exact without a (List.mem_cons_of_mem o mem)
      refine ⟨?_, fun a absent => ?_⟩
      · rw [List.length_cons, Nat.add_comm objs.length, ← Nat.add_assoc]
        exact after
      · rw [List.mem_cons, not_or] at absent
        exact (same a absent.2).trans (others absent.1)

/-- The next of them gets the next extent. -/
theorem Filled.addAll_extent {objs : List Obj} (filled : m.Filled 0)
    (kind : ObjectClass Obj) (room : objs.length < maxExtent.toNat) (distinct : objs.Nodup)
    (new : o ∉ objs) (without : ∀ a ∈ objs, m.extent a = 0) (without' : m.extent o = 0) :
    ((m.addAll kind objs).addObject kind o).extent o = UInt16.ofNat (objs.length + 1) := by
  obtain ⟨after, same⟩ := filled.addAll kind (by omega) distinct without
  rw [Nat.zero_add] at after
  rw [after.addObject kind room ((same o new).trans without')]
  exact Function.update_self ..

end ObjectMgr

/-! ### Calls -/

namespace ObjectOp

variable {Obj : Type} [DecidableEq Obj] {kind : ObjectClass Obj} {m m' : ObjectMgr Obj}

/-- One call, whatever its arguments are. -/
def Call (kind : ObjectClass Obj) (m : ObjectMgr Obj) (op : ObjectOp Obj) (m' : ObjectMgr Obj) :
    Prop :=
  m' = op.apply kind m

/-- There is an extent for an object that is added, unless it is found. -/
def HasRoom (kind : ObjectClass Obj) (m : ObjectMgr Obj) : ObjectOp Obj → Prop
  | add obj => m.getObj kind (m.extent obj) = some obj ∨ ∃ e, m.Free e
  | remove _ | changeExtent _ _ => True

/-- With room, `AddObject` does nothing or puts the object at a free extent. -/
theorem HasRoom.addObject {o : Obj} (room : HasRoom kind m (.add o)) :
    m.addObject kind o = m ∨ ∃ e, m.Free e ∧ m.addObject kind o = m.register kind o e := by
  rcases m.addObject_cases kind o with ⟨-, same⟩ | ⟨e, free | ⟨-, full⟩, added⟩
  · exact .inl same
  · exact .inr ⟨e, free, added⟩
  · rcases room with found | ⟨e', free⟩
    · exact .inl (if_pos found)
    · exact absurd free (full e')

theorem registered_call {op : ObjectOp Obj} (registered : m.Registered)
    (call : guarded (HasRoom kind) (Call kind) m op m') : m'.Registered := by
  obtain ⟨room, rfl⟩ := call
  cases op with
  | add o =>
      rcases room.addObject with same | ⟨e, free, added⟩
      · rw [apply, same]
        exact registered
      · rw [apply, added]
        exact registered.register free
  | remove o => exact registered.removeObject kind o
  | changeExtent o newExtent => exact registered.changeObjectExtent o newExtent

/-- In every run of a new manager whose calls had room, the next `AddObject` registers its object
safely exactly if it has room too: some extent is free, or the object is found at its own. With none
free `RequestExtent` answers 0, which is not asked about. -/
theorem addObject_safe_iff (extent : Obj → UInt16) {ops : List (ObjectOp Obj)}
    (run : Run (guarded (HasRoom kind) (Call kind)) { extent := extent } ops m) (o : Obj) :
    m.AddedSafely kind o ↔ HasRoom kind m (.add o) := by
  have registered : m.Registered :=
    run.invariant (fun _ _ _ => registered_call) fun a mem => absurd mem (Finset.notMem_empty a)
  constructor
  · intro safe
    by_contra full
    exact ObjectMgr.not_addedSafely (fun found => full (.inl found))
      (fun e free => full (.inr ⟨e, free⟩)) safe
  · intro room
    have after : (m.addObject kind o).Registered := registered_call registered ⟨room, rfl⟩
    refine ⟨fun a here b there other same => ?_, ?_, fun a mem => after.extent_ne_zero mem⟩
    · exact other (after.extent_injective here there same)
    · intro e a _ holds
      rcases room.addObject with same | ⟨e', free, added⟩
      · rw [same]
        exact holds
      · have elsewhere : e ≠ e' := by
          rintro rfl
          cases free.empty.symm.trans holds
        rw [added]
        exact (Function.update_of_ne elsewhere ..).trans holds

/-- Three objects, of which one is removed and the last one comes with the extent of another. -/
theorem addObject_safe_third :
    let kind : ObjectClass Nat := ⟨fun _ => 0, fun _ => false⟩
    ∃ m, Run (guarded (HasRoom kind) (Call kind)) { extent := fun _ => 1 }
        [.add 0, .add 1, .remove 0] m ∧
      (m.AddedSafely kind 2 ↔ HasRoom kind m (.add 2)) := by
  intro kind
  have free (m : ObjectMgr Nat) (empty : m.objectExtents 5 = none) : ∃ e, m.Free e :=
    ⟨5, by decide, by decide, empty⟩
  have run : Run (guarded (HasRoom kind) (Call kind)) { extent := fun _ => 1 }
      [.add 0, .add 1, .remove 0] _ :=
    .cons ⟨.inr (free _ rfl), rfl⟩ (.cons ⟨.inr (free _ (by decide)), rfl⟩
      (.single ⟨trivial, rfl⟩))
  exact ⟨_, run, addObject_safe_iff (fun _ => 1) run 2⟩

theorem run_addAll (objs : List Obj) (m : ObjectMgr Obj) :
    Run (Call kind) m (objs.map .add) (m.addAll kind objs) := by
  induction objs generalizing m with
  | nil => exact .nil m
  | cons o objs ih => exact .cons rfl (ih _)

/-- Once as many objects as there are extents have come without one, there is none left. -/
theorem not_addedSafely_addAll {objs : List Obj} {o : Obj} (all : objs.length = maxExtent.toNat)
    (distinct : objs.Nodup) (new : o ∉ objs) :
    ¬(ObjectMgr.addAll kind { extent := fun _ => 0 } objs).AddedSafely kind o := by
  have start : ({ extent := fun _ => 0 } : ObjectMgr Obj).Filled 0 :=
    ⟨fun e one_le le_zero => by omega, fun _ _ _ => rfl⟩
  obtain ⟨filled, same⟩ := start.addAll kind (by omega) distinct fun _ _ => rfl
  rw [all, Nat.zero_add] at filled
  refine ObjectMgr.not_addedSafely ?_ fun e free => ?_
  · rw [same o new]
    dsimp only
    rw [filled.getObj_zero]
    nofun
  · exact filled.taken e (UInt16.le_iff_toNat_le.mp free.one_le)
      (UInt16.le_iff_toNat_le.mp free.le_max) free.empty

/-- The object after the one that gets the last extent gets the invalid one. -/
theorem extents_run_out :
    let kind : ObjectClass Nat := ⟨fun _ => 0, fun _ => false⟩
    ∃ m, Run (Call kind) { extent := fun _ => 0 } ((List.range maxExtent.toNat).map .add) m ∧
      ¬m.AddedSafely kind maxExtent.toNat := by
  intro kind
  exact ⟨_, run_addAll _ _, not_addedSafely_addAll List.length_range List.nodup_range
    List.not_mem_range_self⟩

end ObjectOp

end NoxServer.Objects
