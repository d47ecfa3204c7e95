import Mathlib.Data.Set.Insert
import Mathlib.Logic.Function.Basic

/-!
Slots that hold things at hand.

The slots are well worn when each holds a thing that is at hand and no thing is in two. To
put a thing into a slot it must be at hand and in no other slot; to take a thing out of hand
it must be in no slot.
-/

namespace Slots

variable {ι Item : Type*}

/-- Each slot that is not empty holds a thing that is at hand, and no thing is in two. -/
structure Worn (slots : ι → Option Item) (held : Set Item) : Prop where
  held : ∀ i x, slots i = some x → x ∈ held
  once : ∀ i j x, slots i = some x → slots j = some x → i = j

/-- A thing is in no slot. -/
def Off (slots : ι → Option Item) (x : Item) : Prop := ∀ i, slots i ≠ some x

variable {slots : ι → Option Item} {held held' : Set Item} {x y : Item} {i j : ι}

theorem Worn.empty (slots_empty : ∀ i, slots i = none) : Worn slots held where
  held i x filled := by simp [slots_empty i] at filled
  once i j x filled := by simp [slots_empty i] at filled

theorem Worn.mono (worn : Worn slots held) (more : held ⊆ held') : Worn slots held' where
  held i x filled := more (worn.held i x filled)
  once := worn.once

/-- What is not at hand is in no slot. -/
theorem Worn.off (worn : Worn slots held) (out : x ∉ held) : Off slots x :=
  fun i filled => out (worn.held i x filled)

/-- What is in no slot may go out of hand. -/
theorem Worn.lose (worn : Worn slots held) (off : Off slots x) : Worn slots (held \ {x}) where
  held i y filled := ⟨worn.held i y filled, fun same => off i (same ▸ filled)⟩
  once := worn.once

variable [DecidableEq ι]

/-- What is in a slot after another is emptied was there before. -/
theorem filled_of_clear (filled : Function.update slots i none j = some x) :
    slots j = some x := by
  by_cases here : j = i
  · simp [here] at filled
  · simpa [here] using filled

theorem Worn.clear (worn : Worn slots held) (i : ι) :
    Worn (Function.update slots i none) held where
  held j x filled := worn.held j x (filled_of_clear filled)
  once j k x filled filled' := worn.once j k x (filled_of_clear filled) (filled_of_clear filled')

/-- When the slot that holds a thing is emptied, the thing is in no slot. -/
theorem Worn.clear_off (worn : Worn slots held) (here : slots i = some x) :
    Off (Function.update slots i none) x := by
  intro j filled
  have same : j = i := worn.once j i x (filled_of_clear filled) here
  simp [same] at filled

theorem Off.clear (off : Off slots x) (i : ι) : Off (Function.update slots i none) x :=
  fun j filled => off j (filled_of_clear filled)

/-- A thing at hand that is in no other slot may be put into one. -/
theorem Worn.put (worn : Worn slots held) (mem : x ∈ held)
    (alone : ∀ j, slots j = some x → j = i) : Worn (Function.update slots i (some x)) held := by
  -- a slot holds what it is given, or what it held
  have filled_cases {j : ι} {y : Item} (filled : Function.update slots i (some x) j = some y) :
      (j = i ∧ y = x) ∨ (j ≠ i ∧ slots j = some y) := by
    by_cases here : j = i
    · exact .inl ⟨here, by simpa [here, eq_comm] using filled⟩
    · exact .inr ⟨here, by simpa [here] using filled⟩
  refine ⟨fun j y filled => ?_, fun j k y filled filled' => ?_⟩
  · rcases filled_cases filled with ⟨_, rfl⟩ | ⟨_, old⟩
    · exact mem
    · exact worn.held j y old
  · rcases filled_cases filled with ⟨rfl, rfl⟩ | ⟨other, old⟩
    · rcases filled_cases filled' with ⟨rfl, _⟩ | ⟨other', old'⟩
      · rfl
      · exact absurd (alone k old') other'
    · rcases filled_cases filled' with ⟨rfl, rfl⟩ | ⟨_, old'⟩
      · exact absurd (alone j old) other
      · exact worn.once j k y old old'

theorem Off.put (off : Off slots x) (other : x ≠ y) (i : ι) :
    Off (Function.update slots i (some y)) x := by
  intro j filled
  by_cases here : j = i
  · subst here
    exact other (by simpa [eq_comm] using filled)
  · exact off j (by simpa [here] using filled)

end Slots
