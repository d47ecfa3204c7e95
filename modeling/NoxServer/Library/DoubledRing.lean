import Mathlib.Data.List.Basic

/-!
A queue in an array of twice its room.

The queue begins in the lower half of the array and may go on past the border between the
halves. What is past the border also stands as far from the start of the array, so that the queue
can be read in one piece (`Holds.window_eq`) and, as in any ring, in two (`Holds.windows_eq`).
Elements that come behind the queue are therefore copied twice (`store`).
-/

namespace DoubledRing

variable {α : Type*}

/-! ### Arrays -/

/-- An array after elements were copied to a place of it. -/
def overwrite (mem : List α) (pos : Nat) (src : List α) : List α :=
  mem.take pos ++ src ++ mem.drop (pos + src.length)

/-- The elements of an array from a place on. -/
def window (mem : List α) (pos count : Nat) : List α := (mem.drop pos).take count

section Arrays

variable {mem src items : List α} {pos count : Nat}

theorem length_overwrite (inside : pos + src.length ≤ mem.length) :
    (overwrite mem pos src).length = mem.length := by
  simp only [overwrite, List.length_append, List.length_take, List.length_drop]
  omega

/-- A copy changes the elements it covers and no others. -/
theorem getElem?_overwrite (inside : pos + src.length ≤ mem.length) (i : Nat) :
    (overwrite mem pos src)[i]? =
      if pos ≤ i ∧ i < pos + src.length then src[i - pos]? else mem[i]? := by
  have full : (mem.take pos).length = pos := by
    rw [List.length_take]
    omega
  simp only [overwrite, List.getElem?_append, List.length_append, full, List.getElem?_take,
    List.getElem?_drop]
  by_cases before : i < pos
  · simp [before, show i < pos + src.length by omega, show ¬pos ≤ i by omega]
  · by_cases covered : i < pos + src.length
    · simp [before, covered, show pos ≤ i by omega]
    · simp only [covered, before, if_false, and_false]
      congr 1
      omega

theorem getElem?_window (i : Nat) :
    (window mem pos count)[i]? = if i < count then mem[pos + i]? else none := by
  rw [window, List.getElem?_take, List.getElem?_drop]

/-- A window that agrees with a list in every place is that list. -/
theorem window_eq_of_getElem? (agree : ∀ i < items.length, mem[pos + i]? = items[i]?) :
    window mem pos items.length = items := by
  apply List.ext_getElem?
  intro i
  rw [getElem?_window]
  by_cases inside : i < items.length
  · rw [if_pos inside, agree i inside]
  · rw [if_neg inside, List.getElem?_eq_none (Nat.le_of_not_lt inside)]

end Arrays

/-! ### The layout -/

/-- The place some elements behind another one, in the lower half. -/
def advance (half pos count : Nat) : Nat :=
  if pos + count < half then pos + count else pos + count - half

/-- The queue begins at `bottom`, and what is past the border is at the start of the array too. -/
structure Holds (half : Nat) (mem : List α) (bottom : Nat) (queue : List α) : Prop where
  room : mem.length = half + half
  fits : queue.length ≤ half
  lower : bottom = 0 ∨ bottom < half
  ahead : ∀ i < queue.length, mem[bottom + i]? = queue[i]?
  around : ∀ i < queue.length, half ≤ bottom + i → mem[bottom + i - half]? = queue[i]?

/-- Elements are copied to `top`. Those past the border are copied to the start of the array, and
if there are none all are copied to the upper half. -/
def store (half : Nat) (mem : List α) (top : Nat) (src : List α) : List α :=
  if half < top + src.length then
    overwrite (overwrite mem top src) 0 (src.drop (half - top))
  else overwrite (overwrite mem top src) (half + top) src

section Layout

variable {half bottom count : Nat} {mem queue src : List α}

theorem advance_lower (lower : bottom = 0 ∨ bottom < half) (fits : count ≤ half) :
    advance half bottom count = 0 ∨ advance half bottom count < half := by
  unfold advance
  split <;> omega

theorem Holds.nil (room : mem.length = half + half) : Holds half mem 0 [] where
  room := room
  fits := Nat.zero_le _
  lower := .inl rfl
  ahead := by simp
  around := by simp

/-- An empty queue may begin anywhere. -/
theorem Holds.restart (holds : Holds half mem bottom []) : Holds half mem 0 ([] : List α) :=
  .nil holds.room

/-- The queue in one piece. -/
theorem Holds.window_eq (holds : Holds half mem bottom queue) (short : count ≤ queue.length) :
    window mem bottom count = queue.take count := by
  have length : (queue.take count).length = count := by
    rw [List.length_take]
    omega
  have agree : ∀ i < (queue.take count).length, mem[bottom + i]? = (queue.take count)[i]? := by
    intro i inside
    rw [length] at inside
    rw [List.getElem?_take_of_lt inside, holds.ahead i (by omega)]
  have whole := window_eq_of_getElem? agree
  rwa [length] at whole

/-- The queue in two pieces, the second one at the start of the array. -/
theorem Holds.windows_eq (holds : Holds half mem bottom queue) (short : count ≤ queue.length)
    (crosses : half < bottom + count) :
    window mem bottom (half - bottom) ++ window mem 0 (count - (half - bottom)) =
      queue.take count := by
  have lower := holds.lower
  have fits := holds.fits
  have part : half - bottom ≤ queue.length := by omega
  have first := holds.window_eq part
  have length : ((queue.take count).drop (half - bottom)).length = count - (half - bottom) := by
    rw [List.length_drop, List.length_take]
    omega
  have second : window mem 0 (count - (half - bottom)) =
      (queue.take count).drop (half - bottom) := by
    rw [← length]
    apply window_eq_of_getElem?
    intro i inside
    rw [length] at inside
    have place := holds.around (half - bottom + i) (by omega) (by omega)
    rw [List.getElem?_drop, List.getElem?_take_of_lt (by omega), ← place]
    congr 1
    omega
  rw [first, second]
  have split := List.take_append_drop (half - bottom) (queue.take count)
  rwa [List.take_take, Nat.min_eq_left (by omega)] at split

/-- The queue without its first elements begins behind them. -/
theorem Holds.drop (holds : Holds half mem bottom queue) (short : count ≤ queue.length) :
    Holds half mem (advance half bottom count) (queue.drop count) := by
  have lower := holds.lower
  have fits := holds.fits
  constructor
  · exact holds.room
  · rw [List.length_drop]
    omega
  · exact advance_lower lower (by omega)
  · intro i inside
    rw [List.length_drop] at inside
    rw [List.getElem?_drop]
    unfold advance
    split
    · rw [← holds.ahead (count + i) (by omega), Nat.add_assoc]
    · rw [← holds.around (count + i) (by omega) (by omega)]
      congr 1
      omega
  · intro i inside past
    rw [List.length_drop] at inside
    rw [List.getElem?_drop]
    unfold advance at past ⊢
    split at past
    · next inLower =>
        rw [if_pos inLower, ← holds.around (count + i) (by omega) (by omega), Nat.add_assoc]
    · omega

theorem length_store (room : mem.length = half + half) {top : Nat} (inside : top ≤ half)
    (small : src.length ≤ half) : (store half mem top src).length = mem.length := by
  unfold store
  split
  · have first : (overwrite mem top src).length = mem.length := length_overwrite (by omega)
    rw [length_overwrite, first]
    rw [first, List.length_drop]
    omega
  · have first : (overwrite mem top src).length = mem.length := length_overwrite (by omega)
    rw [length_overwrite, first]
    omega

/-- The elements of the array after a store. -/
theorem getElem?_store (room : mem.length = half + half) {top : Nat} (inside : top ≤ half)
    (small : src.length ≤ half) (i : Nat) :
    (store half mem top src)[i]? =
      if half < top + src.length then
        if i < top + src.length - half then src[half - top + i]?
        else if top ≤ i ∧ i < top + src.length then src[i - top]? else mem[i]?
      else if half + top ≤ i ∧ i < half + top + src.length then src[i - (half + top)]?
      else if top ≤ i ∧ i < top + src.length then src[i - top]? else mem[i]? := by
  have first : (overwrite mem top src).length = mem.length := length_overwrite (by omega)
  unfold store
  split
  · have covered : 0 + (src.drop (half - top)).length ≤ (overwrite mem top src).length := by
      rw [first, List.length_drop]
      omega
    rw [getElem?_overwrite covered, getElem?_overwrite (by omega), List.length_drop,
      List.getElem?_drop]
    have bound : (0 ≤ i ∧ i < 0 + (src.length - (half - top))) ↔
        i < top + src.length - half := by omega
    simp only [bound, Nat.sub_zero]
  · rw [getElem?_overwrite (by omega), getElem?_overwrite (by omega)]

/-- Elements that are stored where the queue ends stand behind it. -/
theorem Holds.append (holds : Holds half mem bottom queue)
    (enough : queue.length + src.length ≤ half) :
    Holds half (store half mem (advance half bottom queue.length) src) bottom (queue ++ src) := by
  have lower := holds.lower
  have top : advance half bottom queue.length ≤ half := by
    have := advance_lower lower holds.fits
    omega
  have small : src.length ≤ half := by omega
  have value := getElem?_store holds.room top small
  constructor
  · rw [length_store holds.room top small, holds.room]
  · rw [List.length_append]
    exact enough
  · exact lower
  · intro i inside
    rw [List.length_append] at inside
    rw [value, List.getElem?_append]
    unfold advance
    by_cases old : i < queue.length
    · rw [if_pos old, ← holds.ahead i old]
      -- The stored elements are above the queue, or below its beginning.
      grind
    · rw [if_neg old]
      grind
  · intro i inside past
    rw [List.length_append] at inside
    rw [value, List.getElem?_append]
    unfold advance
    by_cases old : i < queue.length
    · rw [if_pos old, ← holds.around i old past]
      grind
    · rw [if_neg old]
      grind

end Layout

/-! ### Bounded queues -/

/-- All of the elements are put at the end of a queue of some room, or none. -/
def enqueue (room : Nat) (queue src : List α) : Option (List α) :=
  if queue.length + src.length ≤ room then some (queue ++ src) else none

/-- The first elements of a queue, and what is left of it. -/
def dequeue (queue : List α) (count : Nat) : Option (List α × List α) :=
  if count ≤ queue.length then some (queue.take count, queue.drop count) else none

end DoubledRing
