import Mathlib.Data.Set.Insert

/-!
Things kept in containers, where a thing is in a container by the container's contents and
is said to be kept by a mark of its own.

The two agree in a `Sound` state, but for things that are `fixed` (the mark of these means
nothing), for those that are `leaving`, and for `loose` ones, which an operation that is under
way has out of their containers. An operation is a sequence of the moves below: each says
which things it makes loose or takes back.
-/

namespace Custody

variable {Item : Type*}

/-- What there is, what each thing contains, and what is marked as kept. -/
structure State (Item : Type*) where
  live : Set Item
  inside : Item → Set Item
  marked : Set Item
  fixed : Set Item
  leaving : Set Item

@[ext]
theorem State.ext {s t : State Item} (live : s.live = t.live)
    (inside : ∀ o x, x ∈ s.inside o ↔ x ∈ t.inside o) (marked : s.marked = t.marked)
    (fixed : s.fixed = t.fixed) (leaving : s.leaving = t.leaving) : s = t := by
  obtain ⟨_, _, _, _, _⟩ := s
  cases live
  cases marked
  cases fixed
  cases leaving
  congr
  exact funext fun o => Set.ext (inside o)

/-- A thing is in one container at most, and is marked exactly when it is in one. -/
structure Sound (s : State Item) (loose : Set Item) : Prop where
  live : ∀ o x, x ∈ s.inside o → o ∈ s.live ∧ x ∈ s.live
  one : ∀ o o' x, x ∉ s.fixed → x ∈ s.inside o → x ∈ s.inside o' → o = o'
  marked : ∀ o x, x ∉ s.fixed → x ∈ s.inside o → x ∈ s.marked
  kept : ∀ x ∈ s.live, x ∈ s.marked → x ∉ s.fixed → x ∉ s.leaving → x ∉ loose →
    ∃ o, x ∈ s.inside o
  loose : ∀ x ∈ loose, x ∈ s.live ∧ (x ∉ s.fixed → ∀ o, x ∉ s.inside o)

namespace State

def mark (s : State Item) (x : Item) : State Item := { s with marked := insert x s.marked }

def unmark (s : State Item) (x : Item) : State Item := { s with marked := s.marked \ {x} }

def enter (s : State Item) (owner x : Item) : State Item :=
  { s with inside := fun o => {y | y ∈ s.inside o ∨ (o = owner ∧ y = x)} }

/-- A thing is taken out of a container. -/
def leave (s : State Item) (owner x : Item) : State Item :=
  { s with inside := fun o => {y | y ∈ s.inside o ∧ ¬ (o = owner ∧ y = x)} }

/-- A thing is to leave. -/
def retire (s : State Item) (x : Item) : State Item := { s with leaving := insert x s.leaving }

def add (s : State Item) (x : Item) (isMarked isFixed : Prop) : State Item where
  live := insert x s.live
  inside := s.inside
  marked := {y | (y = x ∧ isMarked) ∨ (y ≠ x ∧ y ∈ s.marked)}
  fixed := {y | (y = x ∧ isFixed) ∨ (y ≠ x ∧ y ∈ s.fixed)}
  leaving := s.leaving

/-- A thing is gone, with what it contains no longer in it. -/
def delete (s : State Item) (x : Item) : State Item where
  live := s.live \ {x}
  inside o := {y | y ∈ s.inside o ∧ o ≠ x}
  marked := s.marked \ {x}
  fixed := s.fixed \ {x}
  leaving := s.leaving

theorem leave_mark (s : State Item) (owner x y : Item) :
    (s.mark y).leave owner x = (s.leave owner x).mark y := rfl

theorem leave_unmark (s : State Item) (owner x y : Item) :
    (s.unmark y).leave owner x = (s.leave owner x).unmark y := rfl

/-- What is marked is not marked again. -/
theorem mark_of_marked {s : State Item} {x : Item} (marked : x ∈ s.marked) : s.mark x = s := by
  simp [mark, Set.insert_eq_of_mem marked]

end State

variable {s : State Item} {loose : Set Item} {x owner : Item}

theorem Sound.mark (sound : Sound s loose) (live : x ∈ s.live)
    (out : x ∉ s.fixed → ∀ o, x ∉ s.inside o) : Sound (s.mark x) (insert x loose) where
  live := sound.live
  one := sound.one
  marked o y free mem := .inr (sound.marked o y free mem)
  kept y present marked free stays apart :=
    sound.kept y present (marked.resolve_left fun same => apart (.inl same)) free stays
      fun old => apart (.inr old)
  loose y := by
    rintro (rfl | old)
    · exact ⟨live, out⟩
    · exact sound.loose y old

theorem Sound.unmark (sound : Sound s loose) (out : x ∉ s.fixed → ∀ o, x ∉ s.inside o) :
    Sound (s.unmark x) loose where
  live := sound.live
  one := sound.one
  marked o y free mem := by
    refine ⟨sound.marked o y free mem, ?_⟩
    rintro rfl
    exact out free o mem
  kept y present marked := sound.kept y present marked.1
  loose := sound.loose

/-- What is loose and marked, or fixed, may enter the custody of an owner that is live; it is no
longer loose then. -/
theorem Sound.enter (sound : Sound s loose) (out : x ∈ loose)
    (marked : x ∉ s.fixed → x ∈ s.marked) (live : owner ∈ s.live) :
    Sound (s.enter owner x) (loose \ {x}) where
  live o y := by
    rintro (mem | ⟨rfl, rfl⟩)
    · exact sound.live o y mem
    · exact ⟨live, (sound.loose y out).1⟩
  one o o' y free := by
    rintro (mem | ⟨rfl, rfl⟩) (mem' | ⟨rfl, same⟩)
    · exact sound.one o o' y free mem mem'
    · exact absurd mem ((sound.loose x out).2 (same ▸ free) o ∘ (same ▸ ·))
    · exact absurd mem' ((sound.loose y out).2 free o')
    · rfl
  marked o y free := by
    rintro (mem | ⟨_, rfl⟩)
    · exact sound.marked o y free mem
    · exact marked free
  kept y present isMarked free stays apart := by
    by_cases same : y = x
    · exact ⟨owner, .inr ⟨rfl, same⟩⟩
    · obtain ⟨o, mem⟩ := sound.kept y present isMarked free stays fun old => apart ⟨old, same⟩
      exact ⟨o, .inl mem⟩
  loose y := by
    rintro ⟨old, other⟩
    refine ⟨(sound.loose y old).1, fun free o => ?_⟩
    rintro (mem | ⟨_, same⟩)
    · exact (sound.loose y old).2 free o mem
    · exact other same

theorem Sound.leave (sound : Sound s loose) (mem : x ∈ s.inside owner) :
    Sound (s.leave owner x) (insert x loose) where
  live o y inside := sound.live o y inside.1
  one o o' y free inside inside' := sound.one o o' y free inside.1 inside'.1
  marked o y free inside := sound.marked o y free inside.1
  kept y present marked free stays apart := by
    obtain ⟨o, inside⟩ := sound.kept y present marked free stays fun old => apart (.inr old)
    exact ⟨o, inside, fun same => apart (.inl same.2)⟩
  loose y := by
    rintro (rfl | old)
    · refine ⟨(sound.live owner y mem).2, fun free o inside => inside.2 ⟨?_, rfl⟩⟩
      exact sound.one o owner y free inside.1 mem
    · exact ⟨(sound.loose y old).1, fun free o inside => (sound.loose y old).2 free o inside.1⟩

theorem Sound.retire (sound : Sound s loose) (x : Item) : Sound (s.retire x) loose where
  live := sound.live
  one := sound.one
  marked := sound.marked
  kept y present marked free stays :=
    sound.kept y present marked free fun old => stays (.inr old)
  loose := sound.loose

/-- A loose thing that is not to be in a container is taken back. -/
theorem Sound.settle (sound : Sound s (insert x loose))
    (out : x ∉ s.marked ∨ x ∈ s.fixed ∨ x ∈ s.leaving) : Sound s loose where
  live := sound.live
  one := sound.one
  marked := sound.marked
  kept y present marked free stays apart := by
    refine sound.kept y present marked free stays ?_
    rintro (rfl | old)
    · rcases out with unmarked | fixed | leaving
      · exact unmarked marked
      · exact free fixed
      · exact stays leaving
    · exact apart old
  loose y old := sound.loose y (.inr old)

theorem Sound.settle_single (sound : Sound s {x})
    (out : x ∉ s.marked ∨ x ∈ s.fixed ∨ x ∈ s.leaving) : Sound s ∅ := by
  refine Sound.settle (x := x) ?_ out
  simpa using sound

theorem Sound.leave_single (sound : Sound s ∅) (mem : x ∈ s.inside owner) :
    Sound (s.leave owner x) {x} := by
  simpa using sound.leave mem

theorem Sound.add (sound : Sound s loose) (new : x ∉ s.live) (isMarked isFixed : Prop) :
    Sound (s.add x isMarked isFixed) (insert x loose) := by
  -- what was in a container, or loose, is not the new thing
  have old {y : Item} (present : y ∈ s.live) : y ≠ x := fun same => new (same ▸ present)
  have fixed {y : Item} (present : y ∈ s.live) (free : y ∉ (s.add x isMarked isFixed).fixed) :
      y ∉ s.fixed := fun was => free (.inr ⟨old present, was⟩)
  refine ⟨fun o y mem => (sound.live o y mem).imp .inr .inr, fun o o' y free mem mem' => ?_,
    fun o y free mem => ?_, fun y present marked free stays apart => ?_, fun y => ?_⟩
  · exact sound.one o o' y (fixed (sound.live o y mem).2 free) mem mem'
  · have present := (sound.live o y mem).2
    exact .inr ⟨old present, sound.marked o y (fixed present free) mem⟩
  · have present : y ∈ s.live := present.resolve_left fun same => apart (.inl same)
    have marked : y ∈ s.marked := (marked.resolve_left fun same => old present same.1).2
    exact sound.kept y present marked (fixed present free) stays fun was => apart (.inr was)
  · rintro (rfl | was)
    · exact ⟨.inl rfl, fun _ o mem => new (sound.live o y mem).2⟩
    · obtain ⟨present, out⟩ := sound.loose y was
      exact ⟨.inr present, fun free => out (fixed present free)⟩

theorem Sound.delete (sound : Sound s ∅) (out : ∀ o, x ∉ s.inside o)
    (empty : ∀ y ∈ s.inside x, y ∈ s.fixed ∨ y ∈ s.leaving) : Sound (s.delete x) ∅ := by
  have fixed {y : Item} (other : y ≠ x) (free : y ∉ (s.delete x).fixed) : y ∉ s.fixed :=
    fun was => free ⟨was, other⟩
  have other {o y : Item} (mem : y ∈ s.inside o) : y ≠ x := fun same => out o (same ▸ mem)
  refine ⟨fun o y mem => ?_, fun o o' y free mem mem' => ?_, fun o y free mem => ?_,
    fun y present marked free stays apart => ?_, nofun⟩
  · obtain ⟨live, present⟩ := sound.live o y mem.1
    exact ⟨⟨live, mem.2⟩, present, other mem.1⟩
  · exact sound.one o o' y (fixed (other mem.1) free) mem.1 mem'.1
  · exact ⟨sound.marked o y (fixed (other mem.1) free) mem.1, other mem.1⟩
  · have free := fixed present.2 free
    obtain ⟨o, mem⟩ := sound.kept y present.1 marked.1 free stays apart
    refine ⟨o, mem, fun gone => ?_⟩
    rcases empty y (gone ▸ mem) with was | going
    · exact free was
    · exact stays going

/-- A thing that is gone is no longer to leave. -/
theorem Sound.forget (sound : Sound s loose) {leaving : Set Item}
    (gone : ∀ y ∈ s.live, y ∈ s.leaving → y ∈ leaving) :
    Sound { s with leaving := leaving } loose where
  live := sound.live
  one := sound.one
  marked := sound.marked
  kept y present marked free stays :=
    sound.kept y present marked free fun was => stays (gone y present was)
  loose := sound.loose

end Custody
