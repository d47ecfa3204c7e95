import NoxServer.Library.Faults
import NoxServer.Library.Slots
import NoxServer.Awesie.Possessions

/-!
What the units of the server under `awesie_test` wear: `m_equipment` (`unit.cpp`).

What a unit wears has the unit as its parent, and the unit's inventory is what has it as its parent
(`Dressed`). Every call keeps that: what is put on is taken off before, and so is what is dropped.
The inventories of objects that are not units may disagree with the parents, but these wear nothing.
-/

namespace NoxServer

namespace Awesie

namespace Possessions

open Faults Slots Runs

/-! ### The slots by number -/

/-- What is undefined: an access to an object, or an index that `m_equipment` does not have. -/
inductive Undefined where
  | object (fault : Fault)
  | index (i : Nat)
  deriving DecidableEq

/-- An access through a pointer. -/
def access (w : World) (r : Ref) : Except Undefined Object := (read w r).mapError .object

/-- `m_equipment[i]`. -/
def Object.entry (u : Object) (i : Nat) : Except Undefined (Option Ref) :=
  if inside : i < slotSize then .ok (u.equipment ⟨i, inside⟩) else .error (.index i)

/-- `m_equipment[i] = obj`. -/
def Object.setEntry (u : Object) (i : Nat) (obj : Option Ref) : Except Undefined Object :=
  if inside : i < slotSize then
    .ok { u with equipment := Function.update u.equipment ⟨i, inside⟩ obj }
  else .error (.index i)

/-- The loop of `unit::dequip(obj)` from an index on: where the object is. -/
def Object.findEntry (u : Object) (x : Ref) (i : Nat) : Except Undefined (Option Nat) :=
  if i < slotSize then do
    let here ← u.entry i
    if here = some x then .ok (some i) else u.findEntry x (i + 1)
  else .ok none
termination_by slotSize - i

/-- `unit::dequip(obj)`, with the indices it uses. -/
def Indexed.dequip (w : World) (unit : Ref) (obj : Option Ref) :
    Except Undefined (World × Bool) :=
  match obj with
  | none => .ok (w, false)
  | some x => do
      let o ← access w x
      if o.parent = some unit then do
        let u ← access w unit
        match ← u.findEntry x 0 with
        | none => .ok (w, false)
        | some i => do
            let u ← u.setEntry i none
            .ok (write w unit u, true)
      else .ok (w, false)

/-- `slot` of `unit::equip(obj)`. -/
def slotNumber (subclass : UInt32) : UInt32 :=
  if subclass &&& subclassWeapon ≠ 0 then
    if subclass = subclassQuiver then 0xA
    else if subclass = subclassFlag then 0x9
    else 0xB
  else subclass

/-- `unit::equip(obj)`, with the indices it uses. -/
def Indexed.equip (w : World) (unit : Ref) (obj : Option Ref) :
    Except Undefined (World × Bool) :=
  match obj with
  | none => .ok (w, false)
  | some x => do
      let o ← access w x
      if o.parent = some unit then
        let slot := (slotNumber o.info.subclass).toNat
        if slotSize ≤ slot then .ok (w, false)
        else do
          let (w, _) ← Indexed.dequip w unit (some x)
          let u ← access w unit
          let here ← u.entry slot
          let (w, _) ← Indexed.dequip w unit here
          let u ← access w unit
          let u ← u.setEntry slot (some x)
          .ok (write w unit u, true)
      else .ok (w, false)

theorem entry_val (u : Object) (i : Fin slotSize) : u.entry i.val = .ok (u.equipment i) :=
  dif_pos i.isLt

theorem setEntry_val (u : Object) (i : Fin slotSize) (obj : Option Ref) :
    u.setEntry i.val obj = .ok { u with equipment := Function.update u.equipment i obj } :=
  dif_pos i.isLt

/-- The loop finds the first slot from the index on. -/
theorem findEntry_eq (u : Object) (x : Ref) (i : Nat) :
    u.findEntry x i = .ok ((((List.finRange slotSize).drop i).find?
      fun j => u.equipment j = some x).map Fin.val) := by
  have size : (List.finRange slotSize).length = slotSize := List.length_finRange
  fun_induction Object.findEntry u x i with
  | case1 i inside ih =>
      rw [List.drop_eq_getElem_cons (size.symm ▸ inside), List.getElem_finRange, List.find?_cons,
        Object.entry, dif_pos inside]
      change (if u.equipment ⟨i, inside⟩ = some x then _ else _) = _
      by_cases here : u.equipment ⟨i, inside⟩ = some x
      · simp [here]
      · simp [here, ih]
  | case2 i outside =>
      rw [List.drop_eq_nil_of_le (size.trans_le (Nat.le_of_not_lt outside))]
      rfl

/-- The first slot from index 0 on is the first slot. -/
theorem findEntry_zero (u : Object) (x : Ref) :
    u.findEntry x 0 = .ok ((u.slotOf x).map Fin.val) := by
  rw [findEntry_eq, List.drop_zero, Object.slotOf]

/-- `unit::dequip(obj)` uses no index that `m_equipment` does not have. -/
theorem indexed_dequip (w : World) (unit : Ref) (obj : Option Ref) :
    Indexed.dequip w unit obj = (dequip w unit obj).mapError .object := by
  unfold Indexed.dequip dequip
  cases obj with
  | none => rfl
  | some x =>
      dsimp only
      rw [mapError_bind, access]
      congr 1
      funext o
      split
      · rw [mapError_bind, access]
        congr 1
        funext u
        rw [findEntry_zero]
        cases u.slotOf x with
        | none => rfl
        | some i =>
            change u.setEntry i.val none >>= _ = _
            rw [setEntry_val]
            rfl
      · rfl

/-- The number is that of the slot, if there is one. -/
theorem equipSlot_cases (subclass : UInt32) :
    equipSlot subclass = none ∧ slotSize ≤ (slotNumber subclass).toNat ∨
      ∃ slot, equipSlot subclass = some slot ∧ (slotNumber subclass).toNat = slot.val := by
  unfold equipSlot slotNumber
  split
  · split
    · exact .inr ⟨slotQuiver, rfl, rfl⟩
    · split
      · exact .inr ⟨slotFlag, rfl, rfl⟩
      · exact .inr ⟨slotWepPrimary, rfl, rfl⟩
  · split
    · next inside => exact .inr ⟨⟨subclass.toNat, inside⟩, rfl, rfl⟩
    · next outside => exact .inl ⟨rfl, Nat.le_of_not_lt outside⟩

/-- `unit::equip(obj)` uses no index that `m_equipment` does not have. -/
theorem indexed_equip (w : World) (unit : Ref) (obj : Option Ref) :
    Indexed.equip w unit obj = (equip w unit obj).mapError .object := by
  unfold Indexed.equip equip
  cases obj with
  | none => rfl
  | some x =>
      dsimp only
      rw [mapError_bind, access]
      congr 1
      funext o
      split
      · obtain ⟨refused, large⟩ | ⟨slot, found, number⟩ := equipSlot_cases o.info.subclass
        · rw [refused, if_pos large]
          rfl
        · rw [found, number, if_neg (Nat.not_le.mpr slot.isLt), indexed_dequip]
          dsimp only
          rw [mapError_bind]
          congr 1
          funext first
          rw [mapError_bind, access]
          congr 1
          funext u
          rw [entry_val, mapError_bind, ← indexed_dequip]
          change Indexed.dequip first.1 unit (u.equipment slot) >>= _ = _
          congr 1
          funext second
          rw [mapError_bind, access]
          congr 1
          funext u'
          rw [setEntry_val]
          rfl
      · rfl

/-! ### What is noted where -/

/-- What is noted of an object, or the default where there is none. -/
def noteOf {β : Type} (default : β) (field : Object → β) (w : World) (r : Ref) : β :=
  (w r).elim default field

def inventoryOf : World → Ref → Finset Ref := noteOf ∅ Object.inventory

def isUnitOf : World → Ref → Bool := noteOf false Object.isUnit

def equipmentOf : World → Ref → Fin slotSize → Option Ref :=
  noteOf (fun _ => none) Object.equipment

section Notes

variable {β : Type} {default : β} {field : Object → β} {w : World} {r : Ref} {o : Object}

theorem parentOf_eq (w : World) : parentOf w = noteOf none Object.parent w := by
  funext r
  unfold parentOf noteOf
  cases w r with
  | none => rfl
  | some o => rfl

theorem noteOf_some (here : w r = some o) : noteOf default field w r = field o := by
  rw [noteOf, here, Option.elim_some]

theorem noteOf_none (free : w r = none) : noteOf default field w r = default := by
  rw [noteOf, free, Option.elim_none]

theorem noteOf_write (w : World) (r : Ref) (o : Object) :
    noteOf default field (write w r o) = Function.update (noteOf default field w) r (field o) := by
  funext r'
  unfold noteOf write
  by_cases here : r' = r
  · rw [here, Function.update_self, Function.update_self, Option.elim_some]
  · rw [Function.update_of_ne here, Function.update_of_ne here]

/-- Nothing is noted anew that was noted already. -/
theorem noteOf_write_same (same : noteOf default field w r = field o) :
    noteOf default field (write w r o) = noteOf default field w := by
  rw [noteOf_write, Function.update_eq_self_iff, same]

theorem noteOf_rewrite {o' : Object} (here : w r = some o) (same : field o' = field o) :
    noteOf default field (write w r o') = noteOf default field w :=
  noteOf_write_same (by rw [noteOf_some here, same])

theorem parentOf_some (here : w r = some o) : parentOf w r = o.parent := by
  rw [parentOf, here, Option.bind_some]

theorem parentOf_write (w : World) (r : Ref) (o : Object) :
    parentOf (write w r o) = Function.update (parentOf w) r o.parent := by
  rw [parentOf_eq, parentOf_eq, noteOf_write]

theorem parentOf_write_same (same : parentOf w r = o.parent) :
    parentOf (write w r o) = parentOf w := by
  rw [parentOf_write, Function.update_eq_self_iff, same]

theorem parentOf_rewrite {o' : Object} (here : w r = some o) (same : o'.parent = o.parent) :
    parentOf (write w r o') = parentOf w :=
  parentOf_write_same (by rw [parentOf_some here, same])

end Notes

/-- No object changes hands, and no unit comes or goes. What is in an object that is not a unit does
not matter. -/
structure SameHands (w t : World) : Prop where
  parent : parentOf t = parentOf w
  isUnit : isUnitOf t = isUnitOf w
  inventory : ∀ u, isUnitOf w u = true → inventoryOf t u = inventoryOf w u

theorem SameHands.refl (w : World) : SameHands w w := ⟨rfl, rfl, fun _ _ => rfl⟩

theorem SameHands.trans {w m t : World} (first : SameHands w m) (second : SameHands m t) :
    SameHands w t where
  parent := second.parent.trans first.parent
  isUnit := second.isUnit.trans first.isUnit
  inventory u unit := by
    rw [second.inventory u (by rw [first.isUnit, unit]), first.inventory u unit]

theorem SameHands.write {w : World} {r : Ref} {o : Object} (parent : parentOf w r = o.parent)
    (isUnit : isUnitOf w r = o.isUnit)
    (inventory : isUnitOf w r = true → inventoryOf w r = o.inventory) :
    SameHands w (write w r o) where
  parent := parentOf_write_same parent
  isUnit := noteOf_write_same isUnit
  inventory u unit := by
    rw [inventoryOf, noteOf_write]
    by_cases here : u = r
    · rw [here, Function.update_self, ← inventory (here ▸ unit), inventoryOf]
    · rw [Function.update_of_ne here]

theorem SameHands.rewrite {w : World} {r : Ref} {o o' : Object} (here : w r = some o)
    (parent : o'.parent = o.parent) (isUnit : o'.isUnit = o.isUnit)
    (inventory : o.isUnit = true → o'.inventory = o.inventory) :
    SameHands w (Possessions.write w r o') := by
  have is : isUnitOf w r = o.isUnit := noteOf_some here
  refine .write ?_ ?_ fun unit => ?_
  · rw [parentOf_some here, parent]
  · rw [is, isUnit]
  · rw [inventoryOf, noteOf_some here, inventory (is ▸ unit)]

/-! ### What units wear -/

/-- A unit wears what has it as its parent, each object in one slot; its inventory is what has it
as its parent; and only units are parents. -/
structure Dressed (w : World) : Prop where
  worn : ∀ u, Worn (equipmentOf w u) {x | parentOf w x = some u}
  noted : ∀ u, isUnitOf w u = true → ∀ x, x ∈ inventoryOf w u ↔ parentOf w x = some u
  unit : ∀ x u, parentOf w x = some u → isUnitOf w u = true

section Dressed

variable {w t : World} {unit holder x : Ref} {obj : Option Ref} {done : Bool}

theorem dressed_nothing : Dressed nothing where
  worn _ := .empty fun _ => rfl
  noted _ unit := nomatch unit
  unit _ _ held := nomatch held

theorem Dressed.same (dressed : Dressed w) (same : SameHands w t)
    (worn : ∀ u, Worn (equipmentOf t u) {x | parentOf w x = some u}) : Dressed t where
  worn u := by
    rw [same.parent]
    exact worn u
  noted u unit x := by
    rw [same.isUnit] at unit
    rw [same.inventory u unit, same.parent]
    exact dressed.noted u unit x
  unit x u held := by
    rw [same.parent] at held
    rw [same.isUnit]
    exact dressed.unit x u held

/-- One unit wears something else, that it has. -/
theorem Dressed.redress (dressed : Dressed w) {u : Object} (here : w unit = some u)
    {equipment : Fin slotSize → Option Ref}
    (worn : Worn equipment {x | parentOf w x = some unit}) :
    Dressed (write w unit { u with equipment := equipment }) ∧
      SameHands w (write w unit { u with equipment := equipment }) ∧
      equipmentOf (write w unit { u with equipment := equipment }) unit = equipment := by
  have same : SameHands w (write w unit { u with equipment := equipment }) :=
    .rewrite here rfl rfl fun _ => rfl
  have wears : equipmentOf (write w unit { u with equipment := equipment }) =
      Function.update (equipmentOf w) unit equipment := noteOf_write ..
  refine ⟨?_, same, ?_⟩
  · apply dressed.same same
    intro v
    rw [wears]
    by_cases own : v = unit
    · rw [own, Function.update_self]
      exact worn
    · rw [Function.update_of_ne own]
      exact dressed.worn v
  · rw [wears, Function.update_self]

theorem slotOf_cases (u : Object) (x : Ref) :
    u.slotOf x = none ∧ Off u.equipment x ∨ ∃ i, u.slotOf x = some i ∧ u.equipment i = some x := by
  cases found : u.slotOf x with
  | none =>
      refine .inl ⟨rfl, fun i filled => ?_⟩
      have empty := List.find?_eq_none.mp found i (List.mem_finRange i)
      exact empty (decide_eq_true filled)
  | some i =>
      unfold Object.slotOf at found
      have filled := List.find?_some found
      exact .inr ⟨i, rfl, of_decide_eq_true filled⟩

/-- What is taken off is in no slot after, and no slot is filled. -/
theorem dequip_dressed (dressed : Dressed w) (run : dequip w unit obj = .ok (t, done)) :
    Dressed t ∧ SameHands w t ∧
      (∀ x ∈ obj, parentOf w x = some unit → Off (equipmentOf t unit) x) ∧
      ∀ i y, equipmentOf t unit i = some y → equipmentOf w unit i = some y := by
  unfold dequip at run
  cases obj with
  | none =>
      cases run
      exact ⟨dressed, .refl w, by simp, fun _ _ => id⟩
  | some x =>
      obtain ⟨o, access, run⟩ := bind_eq_ok.mp run
      have there := read_eq_ok access
      split at run
      · obtain ⟨u, access', run⟩ := bind_eq_ok.mp run
        have here := read_eq_ok access'
        have wears : equipmentOf w unit = u.equipment := noteOf_some here
        obtain ⟨absent, off⟩ | ⟨i, found, filled⟩ := slotOf_cases u x
        · rw [absent] at run
          cases run
          refine ⟨dressed, .refl w, ?_, fun _ _ => id⟩
          rintro y ⟨⟩ -
          rwa [wears]
        · rw [found] at run
          cases run
          have worn := dressed.worn unit
          rw [wears] at worn
          obtain ⟨dressed', same, after⟩ := dressed.redress here (worn.clear i)
          refine ⟨dressed', same, ?_, ?_⟩
          · rintro y ⟨⟩ -
            rw [after]
            exact worn.clear_off filled
          · intro j y
            rw [after, wears]
            exact filled_of_clear
      · next other =>
          cases run
          refine ⟨dressed, .refl w, ?_, fun _ _ => id⟩
          rintro y ⟨⟩ held
          exact absurd (parentOf_some there ▸ held) other

/-- What is put on was taken off, and so was what the slot held. -/
theorem equip_dressed (dressed : Dressed w) (run : equip w unit obj = .ok (t, done)) :
    Dressed t ∧ SameHands w t := by
  unfold equip at run
  cases obj with
  | none =>
      cases run
      exact ⟨dressed, .refl w⟩
  | some x =>
      obtain ⟨o, access, run⟩ := bind_eq_ok.mp run
      have there := read_eq_ok access
      split at run
      · next held =>
          split at run
          · cases run
            exact ⟨dressed, .refl w⟩
          · next slot _ =>
              obtain ⟨⟨w₁, _⟩, first, run⟩ := bind_eq_ok.mp run
              obtain ⟨u, -, run⟩ := bind_eq_ok.mp run
              obtain ⟨⟨w₂, _⟩, second, run⟩ := bind_eq_ok.mp run
              obtain ⟨u', access', run⟩ := bind_eq_ok.mp run
              have here := read_eq_ok access'
              cases run
              obtain ⟨dressed₁, same₁, off, -⟩ := dequip_dressed dressed first
              obtain ⟨dressed₂, same₂, -, fewer⟩ := dequip_dressed dressed₁ second
              have same := same₁.trans same₂
              have mine : parentOf w x = some unit := (parentOf_some there).trans held
              have wears : equipmentOf w₂ unit = u'.equipment := noteOf_some here
              have worn := dressed₂.worn unit
              rw [wears] at worn
              have puts : Worn (Function.update u'.equipment slot (some x))
                  {x | parentOf w₂ x = some unit} := by
                apply worn.put
                · change parentOf w₂ x = some unit
                  rw [same.parent, mine]
                · intro j filled
                  rw [← wears] at filled
                  exact absurd (fewer j x filled) (off x rfl mine j)
              obtain ⟨dressed₃, same₃, -⟩ := dressed₂.redress here puts
              exact ⟨dressed₃, same.trans same₃⟩
      · cases run
        exact ⟨dressed, .refl w⟩

/-! ### Changing hands -/

/-- A unit takes up what has no parent. -/
theorem Dressed.hang (dressed : Dressed w) (free : parentOf w x = none)
    (isUnit : isUnitOf w holder = true) (sameUnits : isUnitOf t = isUnitOf w)
    (sameWorn : equipmentOf t = equipmentOf w)
    (parent : parentOf t = Function.update (parentOf w) x (some holder))
    (inventory : inventoryOf t =
      Function.update (inventoryOf w) holder (insert x (inventoryOf w holder))) :
    Dressed t := by
  have held_cases (y u : Ref) : parentOf t y = some u ↔
      y = x ∧ u = holder ∨ y ≠ x ∧ parentOf w y = some u := by
    rw [parent]
    by_cases here : y = x
    · rw [here, Function.update_self, Option.some_inj]
      simp [eq_comm]
    · rw [Function.update_of_ne here]
      simp [here]
  constructor
  · intro u
    rw [sameWorn]
    apply (dressed.worn u).mono
    intro y (held : parentOf w y = some u)
    have other : y ≠ x := by
      intro here
      rw [here, free] at held
      cases held
    exact (held_cases y u).mpr (.inr ⟨other, held⟩)
  · intro u unit y
    rw [sameUnits] at unit
    have noted := dressed.noted u unit y
    rw [held_cases, inventory]
    by_cases own : u = holder
    · subst own
      rw [Function.update_self, Finset.mem_insert, noted]
      by_cases here : y = x
      · simp [here]
      · simp [here]
    · rw [Function.update_of_ne own, noted]
      by_cases here : y = x
      · simp [here, free, own]
      · simp [here, own]
  · intro y u held
    rw [sameUnits]
    obtain ⟨-, rfl⟩ | ⟨-, before⟩ := (held_cases y u).mp held
    · exact isUnit
    · exact dressed.unit y u before

/-- A unit puts down what it does not wear. -/
theorem Dressed.take (dressed : Dressed w) (held : parentOf w x = some holder)
    (off : Off (equipmentOf w holder) x) (sameUnits : isUnitOf t = isUnitOf w)
    (sameWorn : equipmentOf t = equipmentOf w)
    (parent : parentOf t = Function.update (parentOf w) x none)
    (inventory : inventoryOf t =
      Function.update (inventoryOf w) holder ((inventoryOf w holder).erase x)) :
    Dressed t := by
  have held_iff (y u : Ref) : parentOf t y = some u ↔ y ≠ x ∧ parentOf w y = some u := by
    rw [parent]
    by_cases here : y = x
    · rw [here, Function.update_self]
      simp
    · rw [Function.update_of_ne here]
      simp [here]
  have bare (u : Ref) : Off (equipmentOf w u) x := by
    by_cases own : u = holder
    · rwa [own]
    · apply (dressed.worn u).off
      intro (his : parentOf w x = some u)
      exact own (Option.some.inj (his.symm.trans held))
  constructor
  · intro u
    rw [sameWorn]
    apply ((dressed.worn u).lose (bare u)).mono
    rintro y ⟨his, other⟩
    exact (held_iff y u).mpr ⟨other, his⟩
  · intro u unit y
    rw [sameUnits] at unit
    have noted := dressed.noted u unit y
    rw [held_iff, inventory]
    by_cases own : u = holder
    · subst own
      rw [Function.update_self, Finset.mem_erase, noted]
    · rw [Function.update_of_ne own, noted]
      constructor
      · intro his
        refine ⟨?_, his⟩
        rintro rfl
        exact own (Option.some.inj (his.symm.trans held))
      · intro his
        exact his.2
  · intro y u held'
    rw [sameUnits]
    exact dressed.unit y u ((held_iff y u).mp held').2

/-- `handle_pickup(parent)` once the object is in the inventory, before its handler is called. -/
theorem hang_dressed (dressed : Dressed w) {p o : Object} (there : w holder = some p)
    (isUnit : p.isUnit = true) (free : parentOf w x = none)
    (here : write w holder { p with inventory := insert x p.inventory } x = some o) :
    Dressed (write (write w holder { p with inventory := insert x p.inventory }) x
        { o with parent := some holder, hasBody := false }) ∧
      isUnitOf (write (write w holder { p with inventory := insert x p.inventory }) x
        { o with parent := some holder, hasBody := false }) = isUnitOf w := by
  set w₁ := write w holder { p with inventory := insert x p.inventory } with first
  have sameUnits₁ : isUnitOf w₁ = isUnitOf w := noteOf_rewrite there rfl
  have sameWorn₁ : equipmentOf w₁ = equipmentOf w := noteOf_rewrite there rfl
  have parent₁ : parentOf w₁ = parentOf w := parentOf_rewrite there rfl
  have holds : inventoryOf w holder = p.inventory := noteOf_some there
  have sameUnits : isUnitOf (write w₁ x { o with parent := some holder, hasBody := false }) =
      isUnitOf w := Eq.trans (noteOf_rewrite here rfl) sameUnits₁
  have unit : isUnitOf w holder = true := (noteOf_some there).trans isUnit
  refine ⟨dressed.hang free unit sameUnits ?_ ?_ ?_, sameUnits⟩
  · exact Eq.trans (noteOf_rewrite here rfl) sameWorn₁
  · rw [parentOf_write, parent₁]
  · have again : inventoryOf (write w₁ x { o with parent := some holder, hasBody := false }) =
        inventoryOf w₁ := noteOf_rewrite here rfl
    rw [again, holds, first, inventoryOf, noteOf_write]

/-- A pickup by a unit puts on only what it has just been given: the object has the unit as parent
and is in its inventory before its handler is asked to equip it. -/
theorem objectPickup_dressed (dressed : Dressed w) (isUnit : isUnitOf w holder = true)
    (run : objectPickup w holder x = .ok (t, done)) :
    Dressed t ∧ isUnitOf t = isUnitOf w := by
  obtain ⟨o, access, run⟩ := bind_eq_ok.mp run
  have here := read_eq_ok access
  split at run
  · next free =>
      obtain ⟨p, access', run⟩ := bind_eq_ok.mp run
      have there := read_eq_ok access'
      obtain ⟨w', handles, run⟩ := bind_eq_ok.mp run
      cases run
      rw [isUnitOf, noteOf_some there] at isUnit
      obtain ⟨o', access'', run⟩ := bind_eq_ok.mp handles
      obtain ⟨hung, sameUnits⟩ := hang_dressed dressed there isUnit
        ((parentOf_some here).trans free) (read_eq_ok access'')
      set w₂ := write (write w holder { p with inventory := insert x p.inventory }) x
        { o' with parent := some holder, hasBody := false }
      clear_value w₂
      -- the armor and weapon handlers equip at once
      have equips (run : (do
          let p ← read w₂ holder
          if p.isUnit then do
            let (w, _) ← equip w₂ holder (some x)
            .ok w
          else .ok w₂) = .ok t) : Dressed t ∧ isUnitOf t = isUnitOf w := by
        obtain ⟨q, -, run⟩ := bind_eq_ok.mp run
        split at run
        · obtain ⟨⟨w₃, _⟩, equips, run⟩ := bind_eq_ok.mp run
          cases run
          obtain ⟨worn, same⟩ := equip_dressed hung equips
          exact ⟨worn, same.isUnit.trans sameUnits⟩
        · cases run
          exact ⟨hung, sameUnits⟩
      dsimp only at run
      split at run
      · exact equips run
      · exact equips run
      · cases run
        exact ⟨hung, sameUnits⟩
      · cases run
        exact ⟨hung, sameUnits⟩
  · cases run
    exact ⟨dressed, rfl⟩

/-- A drop of what its holder wears nowhere leaves everyone dressed: the object loses its parent and
its place in the inventory together. -/
theorem objectDrop_dressed (dressed : Dressed w) (isUnit : isUnitOf w holder = true)
    (off : parentOf w x = some holder → Off (equipmentOf w holder) x)
    (run : objectDrop w holder x = .ok (t, done)) : Dressed t := by
  obtain ⟨p, access, run⟩ := bind_eq_ok.mp run
  have there := read_eq_ok access
  split at run
  · next mem =>
      obtain ⟨w₂, moves, run⟩ := bind_eq_ok.mp run
      obtain ⟨o, access', moved⟩ := bind_eq_ok.mp moves
      have here := read_eq_ok access'
      cases moved
      obtain ⟨o', access'', run⟩ := bind_eq_ok.mp run
      have here' := read_eq_ok access''
      cases run
      set w₁ := write w holder { p with inventory := p.inventory.erase x } with first
      have holds : inventoryOf w holder = p.inventory := noteOf_some there
      have held : parentOf w x = some holder :=
        (dressed.noted holder isUnit x).mp (by rwa [holds])
      have sameUnits₁ : isUnitOf w₁ = isUnitOf w := noteOf_rewrite there rfl
      have sameWorn₁ : equipmentOf w₁ = equipmentOf w := noteOf_rewrite there rfl
      have parent₁ : parentOf w₁ = parentOf w := parentOf_rewrite there rfl
      have placed : SameHands w₁ (write w₁ x { o with hasBody := true }) :=
        .rewrite here rfl rfl fun _ => rfl
      refine dressed.take held (off held) ?_ ?_ ?_ ?_
      · exact Eq.trans (noteOf_rewrite here' rfl) (placed.isUnit.trans sameUnits₁)
      · have sameWorn₂ : equipmentOf (write w₁ x { o with hasBody := true }) = equipmentOf w₁ :=
          noteOf_rewrite here rfl
        exact Eq.trans (noteOf_rewrite here' rfl) (sameWorn₂.trans sameWorn₁)
      · rw [parentOf_write, placed.parent, parent₁]
      · have holds₂ : inventoryOf (write w₁ x { o with hasBody := true }) = inventoryOf w₁ :=
          noteOf_rewrite here rfl
        have holds₃ : inventoryOf (write (write w₁ x { o with hasBody := true }) x
            { o' with parent := none }) = inventoryOf (write w₁ x { o with hasBody := true }) :=
          noteOf_rewrite here' rfl
        rw [holds₃, holds₂, holds, first, inventoryOf, noteOf_write]
  · cases run
    exact dressed

theorem pickup_dressed {near : Bool} (dressed : Dressed w) (isUnit : isUnitOf w holder = true)
    (run : pickup w holder obj near = .ok (t, done)) :
    Dressed t ∧ isUnitOf t = isUnitOf w := by
  cases obj with
  | none => cases run
  | some x =>
      obtain ⟨o, -, run⟩ := bind_eq_ok.mp run
      split at run
      · exact objectPickup_dressed dressed isUnit run
      · cases run
        exact ⟨dressed, rfl⟩

/-- A player takes off twice what it drops. -/
theorem drop_dressed (dressed : Dressed w) (isUnit : isUnitOf w holder = true)
    (run : drop w holder obj = .ok (t, done)) : Dressed t := by
  cases obj with
  | none =>
      cases run
      exact dressed
  | some x =>
      obtain ⟨p, -, run⟩ := bind_eq_ok.mp run
      split at run
      · obtain ⟨⟨w₁, _⟩, first, run⟩ := bind_eq_ok.mp run
        obtain ⟨⟨w₂, _⟩, second, run⟩ := bind_eq_ok.mp run
        obtain ⟨dressed₁, same₁, -, -⟩ := dequip_dressed dressed first
        obtain ⟨dressed₂, same₂, off, -⟩ := dequip_dressed dressed₁ second
        refine objectDrop_dressed dressed₂ ?_ (fun held => off x rfl ?_) run
        · rw [same₂.isUnit, same₁.isUnit, isUnit]
        · rw [← same₂.parent, held]
      · cases run
        exact dressed

end Dressed

/-! ### New objects -/

/-- No object changes hands, and what units wear stays. -/
structure Alike (w t : World) : Prop extends SameHands w t where
  equipment : equipmentOf t = equipmentOf w

theorem Alike.refl (w : World) : Alike w w := ⟨.refl w, rfl⟩

theorem Alike.trans {w m t : World} (first : Alike w m) (second : Alike m t) : Alike w t :=
  ⟨first.toSameHands.trans second.toSameHands, second.equipment.trans first.equipment⟩

theorem Alike.dressed {w t : World} (alike : Alike w t) (dressed : Dressed w) : Dressed t := by
  apply dressed.same alike.toSameHands
  intro u
  rw [alike.equipment]
  exact dressed.worn u

/-- A new object that is not a unit. -/
theorem alike_new {w : World} {r : Ref} (free : w r = none) (info : ObjectInfo) :
    Alike w (write w r { info := info }) where
  toSameHands := by
    refine .write ?_ (noteOf_none free) fun _ => noteOf_none free
    rw [parentOf, free, Option.bind_none]
  equipment := noteOf_write_same (noteOf_none free)

theorem setPosition_alike {w t : World} {obj : Ref} (run : setPosition w obj = .ok t) :
    Alike w t := by
  obtain ⟨o, access, run⟩ := bind_eq_ok.mp run
  have here := read_eq_ok access
  cases run
  exact ⟨.rewrite here rfl rfl fun _ => rfl, noteOf_rewrite here rfl⟩

mutual

/-- What is nested in an object of a map is in the inventory of what is not a unit. -/
theorem createObjectFromFile_alike : ∀ (file : FileObject) {w t : World},
    createObjectFromFile w file = .ok t → Alike w t
  | .mk ref info inventory, w, t, run => by
      rw [createObjectFromFile] at run
      obtain ⟨w₁, allocates, next⟩ := bind_eq_ok.mp run
      obtain ⟨w₂, moves, creates⟩ := bind_eq_ok.mp next
      obtain ⟨free, rfl⟩ := allocate_eq_ok allocates
      have first : Alike w (write w ref { info := info }) := alike_new free info
      have second := setPosition_alike moves
      refine first.trans (second.trans (createInventory_alike inventory ?_ creates))
      rw [second.isUnit, first.isUnit, isUnitOf, noteOf_none free]

theorem createInventory_alike : ∀ (inventory : List FileObject) {w t : World} {owner : Ref},
    isUnitOf w owner = false → createInventory w owner inventory = .ok t → Alike w t
  | [], w, t, owner, _, run => by
      rw [createInventory] at run
      cases run
      exact .refl w
  | child :: rest, w, t, owner, notUnit, run => by
      rw [createInventory] at run
      obtain ⟨w₁, creates, next⟩ := bind_eq_ok.mp run
      obtain ⟨o, access, others⟩ := bind_eq_ok.mp next
      have first := createObjectFromFile_alike child creates
      have here := read_eq_ok access
      rw [← first.isUnit, isUnitOf, noteOf_some here] at notUnit
      have second : Alike w₁
          (write w₁ owner { o with inventory := insert child.ref o.inventory }) := by
        refine ⟨.rewrite here rfl rfl fun unit => ?_, noteOf_rewrite here rfl⟩
        rw [notUnit] at unit
        cases unit
      refine first.trans (second.trans (createInventory_alike rest ?_ others))
      rw [second.isUnit, isUnitOf, noteOf_some here, notUnit]

end

/-- A new unit wears nothing and has nothing. -/
theorem dressed_unit {w : World} {r : Ref} (dressed : Dressed w) (free : w r = none)
    (info : ObjectInfo) : Dressed (write w r { info := info, isUnit := true }) := by
  have parent : parentOf (write w r { info := info, isUnit := true }) = parentOf w := by
    apply parentOf_write_same
    rw [parentOf, free, Option.bind_none]
  have inventory : inventoryOf (write w r { info := info, isUnit := true }) = inventoryOf w :=
    noteOf_write_same (noteOf_none free)
  have equipment : equipmentOf (write w r { info := info, isUnit := true }) = equipmentOf w :=
    noteOf_write_same (noteOf_none free)
  have isUnit : isUnitOf (write w r { info := info, isUnit := true }) =
      Function.update (isUnitOf w) r true := noteOf_write ..
  constructor
  · intro u
    rw [equipment, parent]
    exact dressed.worn u
  · intro u unit x
    rw [inventory, parent]
    by_cases new : u = r
    · -- no object can have the new unit as its parent
      rw [new, inventoryOf, noteOf_none free]
      apply iff_of_false (Finset.notMem_empty x)
      intro held
      have before := dressed.unit x r held
      rw [isUnitOf, noteOf_none free] at before
      cases before
    · rw [isUnit, Function.update_of_ne new] at unit
      exact dressed.noted u unit x
  · intro x u held
    rw [parent] at held
    rw [isUnit]
    by_cases new : u = r
    · rw [new, Function.update_self]
    · rw [Function.update_of_ne new]
      exact dressed.unit x u held

theorem giveItems_dressed {plr : Ref} {items : List (Ref × ObjectInfo)} {w t : World}
    (dressed : Dressed w) (isUnit : isUnitOf w plr = true)
    (run : giveItems w plr items = .ok t) : Dressed t := by
  induction items generalizing w with
  | nil =>
      cases run
      exact dressed
  | cons item items ih =>
      obtain ⟨w₁, allocates, next⟩ := bind_eq_ok.mp run
      obtain ⟨free, rfl⟩ := allocate_eq_ok allocates
      obtain ⟨⟨w₂, _⟩, picks, gives⟩ := bind_eq_ok.mp next
      have new : Alike w (write w item.1 { info := item.2 }) := alike_new free item.2
      obtain ⟨dressed₂, sameUnits⟩ :=
        pickup_dressed (new.dressed dressed) (by rw [new.isUnit, isUnit]) picks
      exact ih dressed₂ (by rw [sameUnits, new.isUnit, isUnit]) gives

/-! ### Runs of calls -/

/-- An event of the server, or a call on a unit that is reached only through a player's own. -/
inductive Call where
  | event (event : Event)
  | pickup (unit : Ref) (obj : Option Ref)
  | drop (unit : Ref) (obj : Option Ref)

/-- `unit::pickup(obj)`, which is that of any object. -/
def unitPickup (w : World) (unit : Ref) (obj : Option Ref) : Except Fault (World × Bool) :=
  match obj with
  | none => .error .nullPointer
  | some x => objectPickup w unit x

/-- `unit::drop(obj, x, y)`. NULL is in no inventory. -/
def unitDrop (w : World) (unit : Ref) (obj : Option Ref) : Except Fault (World × Bool) :=
  match obj with
  | none => .ok (w, false)
  | some x => do
      let (w, _) ← dequip w unit (some x)
      objectDrop w unit x

def CallStep (w : World) (call : Call) (t : World) : Prop :=
  match call with
  | .event event => Step w event t
  | .pickup unit obj => isUnitOf w unit = true ∧ ∃ done, unitPickup w unit obj = .ok (t, done)
  | .drop unit obj => isUnitOf w unit = true ∧ ∃ done, unitDrop w unit obj = .ok (t, done)

def NoneDeleted (_ : World) : Call → Prop
  | .event (.logout _) => False
  | _ => True

theorem unitDrop_dressed {w t : World} {unit : Ref} {obj : Option Ref} {done : Bool}
    (dressed : Dressed w) (isUnit : isUnitOf w unit = true)
    (run : unitDrop w unit obj = .ok (t, done)) : Dressed t := by
  cases obj with
  | none =>
      cases run
      exact dressed
  | some x =>
      obtain ⟨⟨w₁, _⟩, first, run⟩ := bind_eq_ok.mp run
      obtain ⟨dressed₁, same, off, -⟩ := dequip_dressed dressed first
      refine objectDrop_dressed dressed₁ (same.isUnit ▸ isUnit) (fun held => off x rfl ?_) run
      rw [← same.parent, held]

theorem isUnitOf_allowed {w : World} {plr : Ref} (allowed : ∃ p, w plr = some p ∧ p.isUnit = true) :
    isUnitOf w plr = true := by
  obtain ⟨p, there, unit⟩ := allowed
  exact (noteOf_some there).trans unit

/-- Every event but a deletion keeps everyone dressed in what is theirs. -/
theorem event_dressed {w t : World} {event : Event} (dressed : Dressed w)
    (kept : NoneDeleted w (.event event)) (step : Step w event t) : Dressed t := by
  obtain ⟨allowed, run⟩ := step
  cases event with
  | load file => exact (createObjectFromFile_alike file run).dressed dressed
  | login plr info =>
      obtain ⟨free, rfl⟩ := allocate_eq_ok run
      exact dressed_unit dressed free info
  | respawn plr items =>
      obtain ⟨w₁, moves, gives⟩ := bind_eq_ok.mp run
      have moved := setPosition_alike moves
      refine giveItems_dressed (moved.dressed dressed) ?_ gives
      rw [moved.isUnit, isUnitOf_allowed allowed]
  | tryGet plr obj near =>
      obtain ⟨⟨w', _⟩, picks, done⟩ := bind_eq_ok.mp run
      cases done
      exact (pickup_dressed dressed (isUnitOf_allowed allowed) picks).1
  | tryDrop plr obj =>
      obtain ⟨⟨w', _⟩, drops, done⟩ := bind_eq_ok.mp run
      cases done
      exact drop_dressed dressed (isUnitOf_allowed allowed) drops
  | tryEquip plr obj =>
      obtain ⟨⟨w', _⟩, equips, done⟩ := bind_eq_ok.mp run
      cases done
      exact (equip_dressed dressed equips).1
  | tryDequip plr obj =>
      obtain ⟨⟨w', _⟩, dequips, done⟩ := bind_eq_ok.mp run
      cases done
      exact (dequip_dressed dressed dequips).1
  | logout plr => exact kept.elim

/-- No call breaks what units wear. -/
theorem call_dressed {w t : World} {call : Call} (dressed : Dressed w)
    (kept : NoneDeleted w call) (step : CallStep w call t) : Dressed t := by
  cases call with
  | event event => exact event_dressed dressed kept step
  | pickup unit obj =>
      obtain ⟨isUnit, done, run⟩ := step
      cases obj with
      | none => cases run
      | some x => exact (objectPickup_dressed dressed isUnit run).1
  | drop unit obj =>
      obtain ⟨isUnit, done, run⟩ := step
      exact unitDrop_dressed dressed isUnit run

/-- What a unit wears has the unit as its parent and is in its inventory, and no object is in two
slots, of one unit or of two. -/
structure Equipped (w : World) : Prop where
  held : ∀ u o i x, w u = some o → o.equipment i = some x →
    x ∈ o.inventory ∧ ∃ a, w x = some a ∧ a.parent = some u
  once : ∀ u v o p i j x, w u = some o → w v = some p → o.equipment i = some x →
    p.equipment j = some x → u = v ∧ i = j

theorem Dressed.equipped {w : World} (dressed : Dressed w) : Equipped w := by
  have parent {u : Ref} {o : Object} {i : Fin slotSize} {x : Ref} (here : w u = some o)
      (filled : o.equipment i = some x) : parentOf w x = some u := by
    refine (dressed.worn u).held i x ?_
    rw [equipmentOf, noteOf_some here, filled]
  constructor
  · intro u o i x here filled
    have held := parent here filled
    have mem := (dressed.noted u (dressed.unit x u held) x).mpr held
    rw [inventoryOf, noteOf_some here] at mem
    exact ⟨mem, Option.bind_eq_some_iff.mp held⟩
  · intro u v o p i j x here there filled filled'
    have same : u = v := Option.some.inj ((parent here filled).symm.trans (parent there filled'))
    subst same
    cases here.symm.trans there
    refine ⟨rfl, (dressed.worn u).once i j x ?_ ?_⟩
    · rw [equipmentOf, noteOf_some here, filled]
    · rw [equipmentOf, noteOf_some here, filled']

/-- In every run without a deletion, of whatever is picked up, put on, taken off and dropped by any
unit, what units wear is theirs, and `equip` and `dequip` use the indices of `m_equipment` only, in
every world. -/
theorem equipment_kept {calls : List Call} {w : World}
    (run : Run (guarded NoneDeleted CallStep) nothing calls w) :
    Equipped w ∧ ∀ (v : World) (unit : Ref) (obj : Option Ref) (i : Nat),
      Indexed.equip v unit obj ≠ .error (.index i) ∧
      Indexed.dequip v unit obj ≠ .error (.index i) := by
  have dressed : Dressed w :=
    run.invariant (fun _ _ _ dressed step => call_dressed dressed step.1 step.2) dressed_nothing
  -- neither has a fault but those of objects
  have inside (m : Except Fault (World × Bool)) (i : Nat) :
      Spares (· = .index i) (m.mapError Undefined.object) :=
    spares_mapError_iff.mpr fun _ _ => by simp
  refine ⟨dressed.equipped, fun v unit obj i => ?_⟩
  rw [indexed_equip, indexed_dequip]
  exact ⟨fun outside => inside _ i _ outside rfl, fun outside => inside _ i _ outside rfl⟩

/-- Two players are where pants lie. -/
def twoPlayers : World :=
  result (result (result nothing (.load (.mk 0 streetPants []))) (.login 1 newPlayer))
    (.login 2 newPlayer)

def firstWears : World := result twoPlayers (.tryGet 1 (some 0) true)
def secondRefused : World := result firstWears (.tryGet 2 (some 0) true)
def dropped : World := result secondRefused (.tryDrop 1 (some 0))

/-- Two players want the same pants; the one that is too late has them after the other dropped
them. -/
theorem equipment_kept_pants : ∃ w, Run (guarded NoneDeleted CallStep) nothing
      [.event (.load (.mk 0 streetPants [])), .event (.login 1 newPlayer),
        .event (.login 2 newPlayer), .event (.tryGet 1 (some 0) true),
        .event (.tryGet 2 (some 0) true), .event (.tryDrop 1 (some 0)),
        .event (.tryGet 2 (some 0) true)] w ∧
    equipmentOf secondRefused 1 ⟨2, by decide⟩ = some 0 ∧
    equipmentOf w 2 ⟨2, by decide⟩ = some 0 ∧
    Equipped w ∧ ∀ (v : World) (unit : Ref) (obj : Option Ref) (i : Nat),
      Indexed.equip v unit obj ≠ .error (.index i) ∧
      Indexed.dequip v unit obj ≠ .error (.index i) := by
  have run : Run (guarded NoneDeleted CallStep) nothing
      [.event (.load (.mk 0 streetPants [])), .event (.login 1 newPlayer),
        .event (.login 2 newPlayer), .event (.tryGet 1 (some 0) true),
        .event (.tryGet 2 (some 0) true), .event (.tryDrop 1 (some 0)),
        .event (.tryGet 2 (some 0) true)] (result dropped (.tryGet 2 (some 0) true)) := by
    refine .cons ⟨trivial, step_result trivial (by decide +kernel)⟩ ?_
    refine .cons ⟨trivial, step_result trivial (by decide +kernel)⟩ ?_
    refine .cons ⟨trivial, step_result trivial (by decide +kernel)⟩ ?_
    refine .cons ⟨trivial, step_result ⟨_, rfl, rfl⟩ (by decide +kernel)⟩ ?_
    refine .cons ⟨trivial, step_result ⟨_, rfl, rfl⟩ (by decide +kernel)⟩ ?_
    refine .cons ⟨trivial, step_result ⟨_, rfl, rfl⟩ (by decide +kernel)⟩ ?_
    exact .single ⟨trivial, step_result ⟨_, rfl, rfl⟩ (by decide +kernel)⟩
  exact ⟨_, run, by decide +kernel, by decide +kernel, equipment_kept run⟩

end Possessions

end Awesie

end NoxServer
