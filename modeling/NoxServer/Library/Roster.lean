import Mathlib.Data.List.Nodup
import Mathlib.Logic.Function.Basic

/-!
Members that are told of each other.

A member enters and later becomes ready. When one enters, those that are ready are told of it;
when one becomes ready, it is told of those that have entered. Neither says anything about a member
that is there and not ready, so whatever the order each of two members that are ready has been told
of the other once (`Told.once`).
-/

namespace Roster

inductive Stage where
  | absent
  | entered
  | ready
  deriving DecidableEq

/-- Where each member is, and who has been told of whom. -/
structure State (ι : Type*) where
  stage : ι → Stage
  told : List (ι × ι)

variable {ι : Type*} [DecidableEq ι]

/-- Those that are ready are told of `j`; what `j` is told of itself does not matter. -/
def Announces (r : State ι) (j : ι) (told : List (ι × ι)) : Prop :=
  ∀ i k, i ≠ k → told.count (i, k) = if k = j ∧ r.stage i = .ready then 1 else 0

/-- `j` is told of those that have entered. -/
def CatchesUp (r : State ι) (j : ι) (told : List (ι × ι)) : Prop :=
  ∀ i k, i ≠ k → told.count (i, k) = if i = j ∧ r.stage k ≠ .absent then 1 else 0

/-- A member enters or becomes ready. -/
inductive Step (r : State ι) : State ι → Prop
  | enter {j : ι} {told : List (ι × ι)} (absent : r.stage j = .absent)
      (announces : Announces r j told) :
      Step r ⟨Function.update r.stage j .entered, r.told ++ told⟩
  | ready {j : ι} {told : List (ι × ι)} (entered : r.stage j = .entered)
      (catchesUp : CatchesUp r j told) :
      Step r ⟨Function.update r.stage j .ready, r.told ++ told⟩

/-- A member has been told once of each other member that has entered if it is ready, and of none
before. -/
def Told (r : State ι) : Prop :=
  ∀ i k, i ≠ k → r.told.count (i, k) = if r.stage i = .ready ∧ r.stage k ≠ .absent then 1 else 0

/-- No one has entered. -/
theorem told_start : Told (⟨fun _ => .absent, []⟩ : State ι) :=
  fun _ _ _ => (if_neg fun both => Stage.noConfusion both.1).symm

/-- A member that enters or gets ready keeps it that each of two that are ready has been told of the
other once. -/
theorem Told.step {r r' : State ι} (told : Told r) (step : Step r r') : Told r' := by
  intro i k other
  cases step with
  | @enter j new absent announces =>
      have before := told i k other
      have now := announces i k other
      by_cases here : k = j
      · subst here
        -- whoever is ready is told of it for the first time
        rw [absent, if_neg fun both => both.2 rfl] at before
        simp only [true_and] at now
        simp only [List.count_append, before, now, Nat.zero_add, Function.update_self,
          Function.update_of_ne other, ne_eq, reduceCtorEq, not_false_eq_true, and_true]
      · rw [if_neg fun both => here both.1] at now
        by_cases self : i = j
        · subst self
          rw [absent, if_neg fun both => Stage.noConfusion both.1] at before
          simp [before, now]
        · simp [before, now, Function.update_of_ne here, Function.update_of_ne self]
  | @ready j new entered catchesUp =>
      have before := told i k other
      have now := catchesUp i k other
      by_cases self : i = j
      · subst self
        rw [entered, if_neg fun both => Stage.noConfusion both.1] at before
        simp only [true_and] at now
        simp only [List.count_append, before, now, Nat.zero_add, Function.update_self,
          Function.update_of_ne other.symm, true_and]
      · rw [if_neg fun both => self both.1] at now
        by_cases here : k = j
        · subst here
          simp [before, now, entered, Function.update_of_ne self]
        · simp [before, now, Function.update_of_ne here, Function.update_of_ne self]

/-- Of two members that are ready each has been told of the other once. -/
theorem Told.once {r : State ι} (told : Told r) {i k : ι} (other : i ≠ k)
    (ready : r.stage i = .ready) (ready' : r.stage k = .ready) :
    r.told.count (i, k) = 1 ∧ r.told.count (k, i) = 1 := by
  have entered : r.stage i ≠ .absent := by simp [ready]
  have entered' : r.stage k ≠ .absent := by simp [ready']
  exact ⟨(told i k other).trans (if_pos ⟨ready, entered'⟩),
    (told k i other.symm).trans (if_pos ⟨ready', entered⟩)⟩

/-! ### Telling a list of members -/

/-- A list that holds those that are ready, each once, is told of `j`. -/
theorem announces_map {r : State ι} {j : ι} {members : List ι} (nodup : members.Nodup)
    (mem : ∀ i, i ≠ j → (i ∈ members ↔ r.stage i = .ready)) :
    Announces r j (members.map fun i => (i, j)) := by
  intro i k other
  have pairs : (members.map fun i => (i, j)).Nodup :=
    nodup.map fun _ _ same => (Prod.mk.inj same).1
  rw [pairs.count]
  refine if_congr ?_ rfl rfl
  constructor
  · intro listed
    obtain ⟨i', here, same⟩ := List.mem_map.mp listed
    obtain ⟨rfl, rfl⟩ := Prod.mk.inj same
    exact ⟨rfl, (mem i' other).mp here⟩
  · rintro ⟨rfl, ready⟩
    exact List.mem_map.mpr ⟨i, (mem i other).mpr ready, rfl⟩

/-- `j` is told of a list that holds those that have entered, each once. -/
theorem catchesUp_map {r : State ι} {j : ι} {members : List ι} (nodup : members.Nodup)
    (mem : ∀ k, k ≠ j → (k ∈ members ↔ r.stage k ≠ .absent)) :
    CatchesUp r j (members.map fun k => (j, k)) := by
  intro i k other
  have pairs : (members.map fun k => (j, k)).Nodup :=
    nodup.map fun _ _ same => (Prod.mk.inj same).2
  rw [pairs.count]
  refine if_congr ?_ rfl rfl
  constructor
  · intro listed
    obtain ⟨k', here, same⟩ := List.mem_map.mp listed
    obtain ⟨rfl, rfl⟩ := Prod.mk.inj same
    exact ⟨rfl, (mem k' other.symm).mp here⟩
  · rintro ⟨rfl, entered⟩
    exact List.mem_map.mpr ⟨k, (mem k other.symm).mpr entered, rfl⟩

end Roster
