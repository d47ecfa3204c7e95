import Mathlib.Data.BitVec
import Mathlib.Data.Set.Insert
import Mathlib.Logic.Function.Basic

/-!
Slots whose things have marks, and what is shown of all slots.

A thing that is put into an empty slot adds its marks (`shown_put`). Where a thing is taken off,
what is wiped has its marks, and the marks that are wiped too many are those of what is left
(`shown_diff`). Masks of bits are sets of such marks (`mem_bits_foldl_or`).
-/

namespace Displays

variable {ι Item Mark : Type*}

/-- The marks of the things in the slots; the marks of a thing depend on the slot it is in. -/
def shown (marks : ι → Item → Set Mark) (slots : ι → Option Item) : Set Mark :=
  {m | ∃ i x, slots i = some x ∧ m ∈ marks i x}

section Slots

variable {marks marks' : ι → Item → Set Mark} {slots : ι → Option Item} {x : Item} {i : ι}
  {wiped : Set Mark}

theorem shown_eq_empty (nothing : ∀ i x, slots i = some x → marks i x = ∅) :
    shown marks slots = ∅ := by
  refine Set.eq_empty_of_forall_notMem fun m => ?_
  rintro ⟨i, x, here, mem⟩
  rw [nothing i x here] at mem
  exact mem

/-- Only the things in the slots matter. -/
theorem shown_congr (same : ∀ i x, slots i = some x → marks' i x = marks i x) :
    shown marks' slots = shown marks slots := by
  ext m
  constructor
  · rintro ⟨i, x, here, mem⟩
    exact ⟨i, x, here, same i x here ▸ mem⟩
  · rintro ⟨i, x, here, mem⟩
    exact ⟨i, x, here, (same i x here).symm ▸ mem⟩

variable [DecidableEq ι]

theorem shown_clear_subset (marks : ι → Item → Set Mark) (slots : ι → Option Item) (i : ι) :
    shown marks (Function.update slots i none) ⊆ shown marks slots := by
  rintro m ⟨j, x, here, mem⟩
  by_cases same : j = i
  · simp [same] at here
  · exact ⟨j, x, by simpa [same] using here, mem⟩

/-- What is put into an empty slot adds its marks. -/
theorem shown_put (empty : slots i = none) (x : Item) :
    shown marks (Function.update slots i (some x)) = shown marks slots ∪ marks i x := by
  ext m
  constructor
  · rintro ⟨j, y, here, mem⟩
    by_cases same : j = i
    · subst same
      obtain rfl : x = y := by simpa using here
      exact .inr mem
    · exact .inl ⟨j, y, by simpa [same] using here, mem⟩
  · rintro (⟨j, y, here, mem⟩ | mem)
    · have other : j ≠ i := by
        rintro rfl
        simp [empty] at here
      exact ⟨j, y, by simpa [other] using here, mem⟩
    · exact ⟨i, x, by simp, mem⟩

/-- In a slot whose things have no marks nothing matters. -/
theorem shown_update_unmarked (unmarked : ∀ x, marks i x = ∅) (slots : ι → Option Item)
    (obj : Option Item) : shown marks (Function.update slots i obj) = shown marks slots := by
  ext m
  constructor
  · rintro ⟨j, x, here, mem⟩
    have other : j ≠ i := by
      rintro rfl
      rw [unmarked x] at mem
      exact mem
    exact ⟨j, x, by simpa [other] using here, mem⟩
  · rintro ⟨j, x, here, mem⟩
    have other : j ≠ i := by
      rintro rfl
      rw [unmarked x] at mem
      exact mem
    exact ⟨j, x, by simpa [other] using here, mem⟩

/-- Without what is wiped, the slots show the same before and after a thing is taken off. -/
theorem shown_diff (here : slots i = some x) (all : marks i x ⊆ wiped) :
    shown marks slots \ wiped = shown marks (Function.update slots i none) \ wiped := by
  refine Set.Subset.antisymm ?_ (Set.sdiff_subset_sdiff_left (shown_clear_subset marks slots i))
  rintro m ⟨⟨j, y, there, mem⟩, kept⟩
  refine ⟨⟨j, y, ?_, mem⟩, kept⟩
  have other : j ≠ i := by
    rintro rfl
    obtain rfl : x = y := by simpa [here] using there
    exact kept (all mem)
  simpa [other] using there

/-- A thing is taken off, and another one is put in its place: nothing is wiped for good that the
other slots show, if what they share with what is wiped comes back. -/
theorem shown_replace {added : Set Mark} (here : slots i = some x) (all : marks i x ⊆ wiped)
    (shared : wiped ∩ shown marks (Function.update slots i none) ⊆ added) :
    shown marks slots \ wiped ∪ added = shown marks (Function.update slots i none) ∪ added := by
  rw [shown_diff here all]
  refine Set.Subset.antisymm (Set.union_subset_union_left _ Set.sdiff_subset) ?_
  rintro m (mem | mem)
  · by_cases gone : m ∈ wiped
    · exact .inr (shared ⟨gone, mem⟩)
    · exact .inl ⟨mem, gone⟩
  · exact .inr mem

end Slots

/-! ### Masks -/

variable {width : Nat}

def bits (mask : BitVec width) : Set Nat := {k | mask.getLsbD k}

theorem bits_injective {mask mask' : BitVec width} (same : bits mask = bits mask') :
    mask = mask' := by
  refine BitVec.eq_of_getLsbD_eq fun k _ => ?_
  have iff : mask.getLsbD k = true ↔ mask'.getLsbD k = true := Set.ext_iff.mp same k
  exact Bool.eq_iff_iff.mpr iff

theorem mem_bits_foldl_or (f : ι → BitVec width) (list : List ι) (mask : BitVec width) (k : Nat) :
    k ∈ bits (list.foldl (fun mask i => mask ||| f i) mask) ↔
      k ∈ bits mask ∨ ∃ i ∈ list, k ∈ bits (f i) := by
  induction list generalizing mask with
  | nil => simp
  | cons i rest ih =>
      rw [List.foldl_cons, ih]
      simp [bits, or_assoc]

end Displays
