import Mathlib.Data.List.Nodup

/-!
The names of spells and abilities (`NameTables.h`), and what is run by a name (`WorldSession.h`).

`LookupId` returns the index of the first name for which `strcmp` is not zero, and that is the first
one that differs. So it finds no name that is in a table, and takes a name that is in none for one
that is (`lookupId_inverts_iff`).
-/

namespace NoxServer.NameTables

/-- A string, without its terminator. -/
abbrev Name := { chars : List UInt8 // 0 ∉ chars }

/-- `strcmp`: how the first characters that differ compare. -/
def strcmp : List UInt8 → List UInt8 → Int
  | [], [] => 0
  | [], b :: _ => -b.toNat
  | a :: _, [] => a.toNat
  | a :: as, b :: bs => if a = b then strcmp as bs else (a.toNat : Int) - b.toNat

def invalidId : UInt8 := 0xFF

/-- The names of a table before the NULL, from one on. -/
def lookupFrom (name : Name) : List Name → UInt8 → UInt8
  | [], _ => invalidId
  | entry :: rest, i =>
      if strcmp entry.1 name.1 ≠ 0 then i else lookupFrom name rest (i + 1)

/-- A table of names, with an index for each that is not `INVALID_ID`. -/
structure NameTable where
  names : List Name
  short : names.length ≤ 254
  distinct : names.Nodup

def lookupId (name : Name) (table : NameTable) : UInt8 := lookupFrom name table.names 0

/-- What is run by its name, or not at all. -/
def executeByName {α : Type} (execute : UInt8 → α) (table : NameTable) (name : Name) : Option α :=
  let id := lookupId name table
  if id = invalidId then none else some (execute id)

def executeSpell {α : Type} (execute : UInt8 → Bool → α) (spellNames : NameTable) (name : Name)
    (dontinvert : Bool) : Option α :=
  executeByName (fun spellId => execute spellId dontinvert) spellNames name

def executeAbility {α : Type} (execute : UInt8 → α) (abilityNames : NameTable) (name : Name) :
    Option α :=
  executeByName execute abilityNames name

/-! ### What is looked up -/

/-- The index of a name in a table, if it is there. -/
def indexOf (name : Name) (table : NameTable) : Option UInt8 :=
  (table.names.idxOf? name).map UInt8.ofNat

/-- The lookup of a name gives its index, or `INVALID_ID` if there is none, and what is run by that
name is what has the index. -/
structure Inverts (name : Name) (table : NameTable) : Prop where
  index : ∀ i (inside : i < table.names.length), table.names[i] = name →
    lookupId name table = UInt8.ofNat i
  invalid : lookupId name table = invalidId ↔ name ∉ table.names
  spell : ∀ (α : Type) (execute : UInt8 → Bool → α) (dontinvert : Bool),
    executeSpell execute table name dontinvert =
      (indexOf name table).map fun spellId => execute spellId dontinvert
  ability : ∀ (α : Type) (execute : UInt8 → α),
    executeAbility execute table name = (indexOf name table).map execute

/-- `strcmp` gives 0 for the same text, and for no other, where the NULs are at the ends. -/
theorem strcmp_eq_zero_iff {a b : List UInt8} (nonzero : 0 ∉ a) (nonzero' : 0 ∉ b) :
    strcmp a b = 0 ↔ a = b := by
  induction a generalizing b with
  | nil =>
      cases b with
      | nil => exact iff_of_true rfl rfl
      | cons c b =>
          have c_ne : c.toNat ≠ 0 := fun zero =>
            nonzero' ((UInt8.toNat_inj.mp zero : c = 0) ▸ List.mem_cons_self)
          refine iff_of_false ?_ nofun
          rw [strcmp]
          omega
  | cons c a ih =>
      have c_ne : c.toNat ≠ 0 := fun zero =>
        nonzero ((UInt8.toNat_inj.mp zero : c = 0) ▸ List.mem_cons_self)
      cases b with
      | nil =>
          refine iff_of_false ?_ nofun
          rw [strcmp]
          omega
      | cons d b =>
          rw [strcmp]
          split
          · next same =>
              rw [ih (fun mem => nonzero (List.mem_cons_of_mem c mem))
                (fun mem => nonzero' (List.mem_cons_of_mem d mem)), same, List.cons_inj_right]
          · next other =>
              have other' : c.toNat ≠ d.toNat := fun same => other (UInt8.toNat_inj.mp same)
              refine iff_of_false (by omega) fun same => other (List.cons.inj same).1

theorem strcmp_name_eq_zero_iff (a b : Name) : strcmp a.1 b.1 = 0 ↔ a = b :=
  (strcmp_eq_zero_iff a.2 b.2).trans Subtype.ext_iff.symm

/-- The search stops at the first name that is another one. -/
theorem lookupFrom_cons (name entry : Name) (rest : List Name) (i : UInt8) :
    lookupFrom name (entry :: rest) i =
      if entry = name then lookupFrom name rest (i + 1) else i := by
  rw [lookupFrom]
  by_cases same : entry = name
  · rw [if_pos same, if_neg (not_not.mpr ((strcmp_name_eq_zero_iff entry name).mpr same))]
  · rw [if_neg same, if_pos fun zero => same ((strcmp_name_eq_zero_iff entry name).mp zero)]

/-- A table with a name in it is never inverted: of its first name the lookup finds another entry or
none. -/
theorem not_inverts_cons {name first : Name} {rest : List Name} {table : NameTable}
    (names : table.names = first :: rest) : ¬Inverts name table := by
  intro inverts
  have nonempty : 0 < table.names.length := by
    rw [names]
    exact Nat.succ_pos _
  have here : table.names[0] = first := by
    simp only [names, List.getElem_cons_zero]
  have lookup : lookupId name table = if first = name then lookupFrom name rest (0 + 1) else 0 := by
    rw [lookupId, names, lookupFrom_cons]
  by_cases same : first = name
  · -- the name itself is passed over, and the next one is another one
    have zero := inverts.index 0 nonempty (here.trans same)
    rw [lookup, if_pos same] at zero
    have distinct := table.distinct
    rw [names] at distinct
    cases rest with
    | nil =>
        have zero : invalidId = UInt8.ofNat 0 := zero
        exact absurd zero (by decide)
    | cons second rest =>
        have other : second ≠ name := by
          rintro rfl
          exact (List.nodup_cons.mp distinct).1 (same ▸ List.mem_cons_self)
        rw [lookupFrom_cons, if_neg other] at zero
        exact absurd zero (by decide)
  · rw [if_neg same] at lookup
    have present : name ∈ table.names := by
      by_contra absent
      have invalid := inverts.invalid.mpr absent
      rw [lookup] at invalid
      exact absurd invalid (by decide)
    obtain ⟨i, inside, found⟩ := List.getElem_of_mem present
    have index := congrArg UInt8.toNat (inverts.index i inside found)
    rw [lookup, UInt8.toNat_ofNat', Nat.mod_eq_of_lt (by have := table.short; omega)] at index
    obtain rfl : i = 0 := index.symm
    exact same (here.symm.trans found)

/-- The lookup of a name inverts a table exactly if the table is empty: `strcmp` is not negated, so
the first name that is another one is found. -/
theorem lookupId_inverts_iff (name : Name) (table : NameTable) :
    Inverts name table ↔ table.names = [] := by
  constructor
  · intro inverts
    cases names : table.names with
    | nil => rfl
    | cons first rest => exact absurd inverts (not_inverts_cons names)
  · intro empty
    have invalid : lookupId name table = invalidId := by
      rw [lookupId, empty]
      rfl
    have missing : indexOf name table = none := by
      rw [indexOf, empty]
      rfl
    refine ⟨fun i inside => ?_, ?_, fun α execute dontinvert => ?_, fun α execute => ?_⟩
    · rw [empty] at inside
      cases inside
    · rw [empty]
      exact iff_of_true invalid nofun
    · rw [executeSpell, executeByName, invalid, missing]
      rfl
    · rw [executeAbility, executeByName, invalid, missing]
      rfl

def oneName : NameTable := ⟨[⟨[0x41], by decide⟩], by decide, List.nodup_singleton _⟩

/-- The only name of a table is not found. -/
theorem oneName_not_found : ¬Inverts ⟨[0x41], by decide⟩ oneName := by
  intro inverts
  exact absurd (inverts.invalid.mp rfl) (not_not.mpr (List.mem_singleton.mpr rfl))

end NoxServer.NameTables
