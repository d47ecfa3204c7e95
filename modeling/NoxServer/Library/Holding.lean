import Mathlib.Data.Finset.Erase
import Mathlib.Data.Finset.Insert
import Mathlib.Logic.Function.Basic
import Mathlib.Logic.Relation

/-!
Things that hold things, where who holds what is noted twice: in the contents of the holder, and
as the holder of what is held. A thing that is held has no place of its own.

The notes are `Consistent` when they agree, name only things there are and go round in no circle.
For each way things change hands there is a theorem that says when it keeps this: a thing that is
taken up must not be above the one that takes it (`consistent_hang_iff`), one that is held must not
be placed, one that holds something must not go, and one that is new must not be noted already.
-/

namespace Holding

variable {ι : Type*}

/-! ### Who is above whom -/

/-- `a` is reached from `x` by going up once or more. -/
def Above (holder : ι → Option ι) : ι → ι → Prop :=
  Relation.TransGen fun x a => holder x = some a

def Acyclic (holder : ι → Option ι) : Prop := ∀ x, ¬ Above holder x x

theorem Above.mono {holder holder' : ι → Option ι} {x a : ι} (above : Above holder x a)
    (more : ∀ x a, holder x = some a → holder' x = some a) : Above holder' x a :=
  Relation.TransGen.mono (fun x a => more x a) x a above

/-- Fewer holders go round in no circle either. -/
theorem Acyclic.mono {holder holder' : ι → Option ι} (acyclic : Acyclic holder)
    (fewer : ∀ x a, holder' x = some a → holder x = some a) : Acyclic holder' :=
  fun x circle => acyclic x (circle.mono fewer)

/-- Whoever has someone above has a holder. -/
theorem Above.holder {holder : ι → Option ι} {x a : ι} (above : Above holder x a) :
    ∃ p, holder x = some p := by
  induction above using Relation.TransGen.head_induction_on with
  | single first => exact ⟨_, first⟩
  | head first _ _ => exact ⟨_, first⟩

/-- Whoever is above is the holder of someone. -/
theorem Above.held {holder : ι → Option ι} {x a : ι} (above : Above holder x a) :
    ∃ y, holder y = some a := by
  cases above with
  | single last => exact ⟨_, last⟩
  | tail _ last => exact ⟨_, last⟩

section Update

variable [DecidableEq ι]

/-- Going up once `x` has got the holder `p`: without `x`, or to `x` and from `p` on. -/
theorem above_update {holder : ι → Option ι} {x p y a : ι}
    (above : Above (Function.update holder x (some p)) y a) :
    Above holder y a ∨ Relation.ReflTransGen (fun x a => holder x = some a) y x ∧
      Relation.ReflTransGen (fun x a => holder x = some a) p a := by
  induction above with
  | @single b last =>
      by_cases here : y = x
      · subst here
        rw [Function.update_self] at last
        cases last
        exact .inr ⟨.refl, .refl⟩
      · rw [Function.update_of_ne here] at last
        exact .inl (.single last)
  | @tail b c _ last ih =>
      by_cases here : b = x
      · subst here
        rw [Function.update_self] at last
        cases last
        rcases ih with up | ⟨up, -⟩
        · exact .inr ⟨up.to_reflTransGen, .refl⟩
        · exact .inr ⟨up, .refl⟩
      · rw [Function.update_of_ne here] at last
        rcases ih with up | ⟨up, down⟩
        · exact .inl (up.tail last)
        · exact .inr ⟨up, down.tail last⟩

/-- One that has no holder may get one exactly if it is neither the same nor above. -/
theorem acyclic_update_iff {holder : ι → Option ι} (acyclic : Acyclic holder) {x p : ι}
    (top : holder x = none) :
    Acyclic (Function.update holder x (some p)) ↔ x ≠ p ∧ ¬ Above holder p x := by
  have own : Function.update holder x (some p) x = some p := Function.update_self ..
  have others (y a : ι) (is : holder y = some a) :
      Function.update holder x (some p) y = some a := by
    rw [Function.update_of_ne, is]
    rintro rfl
    cases top.symm.trans is
  constructor
  · intro still
    constructor
    · rintro rfl
      exact still x (.single own)
    · intro above
      exact still x (.head own (above.mono others))
  · rintro ⟨ne, apart⟩ y circle
    rcases above_update circle with old | ⟨up, down⟩
    · exact acyclic y old
    · rcases Relation.reflTransGen_iff_eq_or_transGen.mp (down.trans up) with same | above
      · exact ne same
      · exact apart above

end Update

/-! ### Things -/

/-- A thing: its holder, what it holds, and whether it has a place of its own. -/
@[ext]
structure Thing (ι : Type*) where
  holder : Option ι
  contents : Finset ι
  placed : Bool

abbrev Things (ι : Type*) := ι → Option (Thing ι)

variable {h : Things ι} {x p : ι}

/-- The holder of a thing, if there is the thing. -/
def holderOf (h : Things ι) (x : ι) : Option ι := (h x).bind Thing.holder

/-- Both notes of who holds what agree. -/
structure Consistent (h : Things ι) : Prop where
  both : ∀ x p a b, h x = some a → h p = some b → (x ∈ b.contents ↔ a.holder = some p)
  alive : ∀ x a p, h x = some a → a.holder = some p → ∃ b, h p = some b
  acyclic : Acyclic (holderOf h)
  unplaced : ∀ x a, h x = some a → a.holder ≠ none → a.placed = false

theorem holderOf_eq_some {p : ι} :
    holderOf h x = some p ↔ ∃ a, h x = some a ∧ a.holder = some p :=
  Option.bind_eq_some_iff

theorem Consistent.empty : Consistent (fun _ => none : Things ι) where
  both _ _ _ _ here := by cases here
  alive _ _ _ here := by cases here
  acyclic x circle := by
    obtain ⟨p, is⟩ := circle.holder
    cases is
  unplaced _ _ here := by cases here

/-- Whoever is above a thing is there. -/
theorem Consistent.alive_above (consistent : Consistent h) {a : ι}
    (above : Above (holderOf h) x a) :
    ∃ b, h a = some b := by
  obtain ⟨y, is⟩ := above.held
  obtain ⟨thing, here, holder⟩ := holderOf_eq_some.mp is
  exact consistent.alive y thing a here holder

/-! ### Changing hands -/

variable [DecidableEq ι]

def hang (h : Things ι) (x p : ι) : Things ι := fun r => (h r).map fun a => {
  holder := if r = x then some p else a.holder
  contents := if r = p then insert x a.contents else a.contents
  placed := if r = x then false else a.placed }

def take (h : Things ι) (x p : ι) : Things ι := fun r => (h r).map fun a => {
  holder := if r = x then none else a.holder
  contents := if r = p then a.contents.erase x else a.contents
  placed := if r = x then true else a.placed }

def place (h : Things ι) (x : ι) : Things ι := fun r => (h r).map fun a =>
  { a with placed := if r = x then true else a.placed }

/-- `x` is new, held by none. -/
def create (h : Things ι) (x : ι) (placed : Bool) : Things ι :=
  Function.update h x (some ⟨none, ∅, placed⟩)

def delete (h : Things ι) (x : ι) : Things ι := Function.update h x none

theorem hang_eq_some {r : ι} {a' : Thing ι} (here : hang h x p r = some a') :
    ∃ a, h r = some a ∧ a'.holder = (if r = x then some p else a.holder) ∧
      a'.contents = (if r = p then insert x a.contents else a.contents) ∧
      a'.placed = if r = x then false else a.placed := by
  obtain ⟨a, is, rfl⟩ := Option.map_eq_some_iff.mp here
  exact ⟨a, is, rfl, rfl, rfl⟩

theorem take_eq_some {r : ι} {a' : Thing ι} (here : take h x p r = some a') :
    ∃ a, h r = some a ∧ a'.holder = (if r = x then none else a.holder) ∧
      a'.contents = (if r = p then a.contents.erase x else a.contents) ∧
      a'.placed = if r = x then true else a.placed := by
  obtain ⟨a, is, rfl⟩ := Option.map_eq_some_iff.mp here
  exact ⟨a, is, rfl, rfl, rfl⟩

theorem place_eq_some {r : ι} {a' : Thing ι} (here : place h x r = some a') :
    ∃ a, h r = some a ∧ a'.holder = a.holder ∧ a'.contents = a.contents ∧
      a'.placed = if r = x then true else a.placed := by
  obtain ⟨a, is, rfl⟩ := Option.map_eq_some_iff.mp here
  exact ⟨a, is, rfl, rfl, rfl⟩

theorem exists_hang {r : ι} {a : Thing ι} (here : h r = some a) : ∃ a', hang h x p r = some a' := by
  unfold hang
  rw [here]
  exact ⟨_, rfl⟩

theorem exists_take {r : ι} {a : Thing ι} (here : h r = some a) : ∃ a', take h x p r = some a' := by
  unfold take
  rw [here]
  exact ⟨_, rfl⟩

theorem exists_place {r : ι} {a : Thing ι} (here : h r = some a) : ∃ a', place h x r = some a' := by
  unfold place
  rw [here]
  exact ⟨_, rfl⟩

/-- Taking up in two steps: `p` notes `x`, then `x` notes `p`. -/
theorem hang_eq_update {a b : Thing ι} (there : h p = some b)
    (here : Function.update h p (some { b with contents := insert x b.contents }) x = some a) :
    hang h x p =
      Function.update (Function.update h p (some { b with contents := insert x b.contents })) x
        (some ⟨some p, a.contents, false⟩) := by
  funext r
  unfold hang
  by_cases own : r = x
  · subst own
    rw [Function.update_self]
    by_cases self : r = p
    · subst self
      rw [Function.update_self] at here
      cases here
      simp [there]
    · rw [Function.update_of_ne self] at here
      simp [here, self]
  · rw [Function.update_of_ne own]
    by_cases taker : r = p
    · subst taker
      simp [there, own]
    · rw [Function.update_of_ne taker]
      simp [own, taker]

/-- Putting down in three steps: `p` notes `x` no more, `x` gets a place, then it notes none. -/
theorem take_eq_update {a b : Thing ι} (there : h p = some b)
    (here : place (Function.update h p (some { b with contents := b.contents.erase x })) x x =
      some a) :
    take h x p =
      Function.update
        (place (Function.update h p (some { b with contents := b.contents.erase x })) x) x
        (some { a with holder := none }) := by
  funext r
  by_cases own : r = x
  · subst own
    rw [Function.update_self]
    obtain ⟨c, is, -, contents, placed⟩ := place_eq_some here
    rw [if_pos rfl] at placed
    rw [contents, placed]
    unfold take
    by_cases self : r = p
    · subst self
      rw [Function.update_self] at is
      cases is
      simp [there]
    · rw [Function.update_of_ne self] at is
      simp [is, self]
  · rw [Function.update_of_ne own]
    unfold take place
    by_cases taker : r = p
    · subst taker
      simp [there, own]
    · rw [Function.update_of_ne taker]
      cases h r with
      | none => rfl
      | some b => simp [own, taker]

theorem holderOf_hang {a : Thing ι} (here : h x = some a) :
    holderOf (hang h x p) = Function.update (holderOf h) x (some p) := by
  funext r
  unfold holderOf hang
  by_cases own : r = x
  · subst own
    rw [here, Function.update_self]
    simp
  · rw [Function.update_of_ne own]
    cases h r with
    | none => rfl
    | some b => simp [own]

/-- What is free may be taken up exactly by what it is not above of. -/
theorem consistent_hang_iff (consistent : Consistent h) {a b : Thing ι} (here : h x = some a)
    (free : a.holder = none) (there : h p = some b) :
    Consistent (hang h x p) ↔ x ≠ p ∧ ¬ Above (holderOf h) p x := by
  have top : holderOf h x = none := by rw [holderOf, here, Option.bind_some, free]
  rw [← acyclic_update_iff consistent.acyclic top, ← holderOf_hang here]
  refine ⟨Consistent.acyclic, fun acyclic => ⟨?_, ?_, acyclic, ?_⟩⟩
  · intro y q a' b' here' there'
    obtain ⟨c, is, holder, -, -⟩ := hang_eq_some here'
    obtain ⟨d, is', -, contents, -⟩ := hang_eq_some there'
    have before := consistent.both y q c d is is'
    rw [holder, contents]
    by_cases own : y = x
    · subst own
      cases here.symm.trans is
      rw [free] at before
      rw [if_pos rfl]
      by_cases taker : q = p
      · simp [taker]
      · rw [if_neg taker]
        refine iff_of_false (fun mem => Option.some_ne_none q (before.mp mem).symm) ?_
        exact fun same => taker (Option.some.inj same).symm
    · rw [if_neg own, ← before]
      split
      · rw [Finset.mem_insert, or_iff_right own]
      · rfl
  · intro y a' q here' holder'
    obtain ⟨c, is, holder, -, -⟩ := hang_eq_some here'
    rw [holder] at holder'
    split at holder'
    · cases holder'
      exact exists_hang there
    · obtain ⟨d, is'⟩ := consistent.alive y c q is holder'
      exact exists_hang is'
  · intro y a' here' held
    obtain ⟨c, is, holder, -, placed⟩ := hang_eq_some here'
    rw [holder] at held
    rw [placed]
    split
    · rfl
    · next other =>
        rw [if_neg other] at held
        exact consistent.unplaced y c is held

/-- What a thing holds may always be put down. -/
theorem Consistent.take (consistent : Consistent h) {a b : Thing ι} (here : h x = some a)
    (there : h p = some b) (mem : x ∈ b.contents) : Consistent (take h x p) := by
  have held : a.holder = some p := (consistent.both x p a b here there).mp mem
  refine ⟨?_, ?_, consistent.acyclic.mono fun y q is => ?_, ?_⟩
  · intro y q a' b' here' there'
    obtain ⟨c, is, holder, -, -⟩ := take_eq_some here'
    obtain ⟨d, is', -, contents, -⟩ := take_eq_some there'
    have before := consistent.both y q c d is is'
    rw [holder, contents]
    by_cases own : y = x
    · subst own
      cases here.symm.trans is
      rw [held] at before
      rw [if_pos rfl]
      refine iff_of_false ?_ nofun
      by_cases taker : q = p
      · simp [taker]
      · rw [if_neg taker, before]
        exact fun same => taker (Option.some.inj same).symm
    · rw [if_neg own, ← before]
      split
      · rw [Finset.mem_erase, and_iff_right own]
      · rfl
  · intro y a' q here' holder'
    obtain ⟨c, is, holder, -, -⟩ := take_eq_some here'
    rw [holder] at holder'
    split at holder'
    · cases holder'
    · obtain ⟨d, is'⟩ := consistent.alive y c q is holder'
      exact exists_take is'
  · obtain ⟨a', here', holder'⟩ := holderOf_eq_some.mp is
    obtain ⟨c, is, holder, -, -⟩ := take_eq_some here'
    rw [holder] at holder'
    split at holder'
    · cases holder'
    · exact holderOf_eq_some.mpr ⟨c, is, holder'⟩
  · intro y a' here' free
    obtain ⟨c, is, holder, -, placed⟩ := take_eq_some here'
    rw [holder] at free
    rw [placed]
    split
    · next own => exact absurd (if_pos own) free
    · next other =>
        rw [if_neg other] at free
        exact consistent.unplaced y c is free

/-- A thing may get a place exactly if it is not held. -/
theorem consistent_place_iff (consistent : Consistent h) {a : Thing ι} (here : h x = some a) :
    Consistent (place h x) ↔ a.holder = none := by
  constructor
  · intro after
    by_contra held
    have now : place h x x = some { a with placed := true } := by
      unfold place
      rw [here, Option.map_some, if_pos rfl]
    exact Bool.noConfusion (after.unplaced x _ now held)
  · intro free
    refine ⟨?_, ?_, consistent.acyclic.mono fun y q is => ?_, ?_⟩
    · intro y q a' b' here' there'
      obtain ⟨c, is, holder, -, -⟩ := place_eq_some here'
      obtain ⟨d, is', -, contents, -⟩ := place_eq_some there'
      rw [holder, contents]
      exact consistent.both y q c d is is'
    · intro y a' q here' holder'
      obtain ⟨c, is, holder, -, -⟩ := place_eq_some here'
      obtain ⟨d, is'⟩ := consistent.alive y c q is (holder.symm.trans holder')
      exact exists_place is'
    · obtain ⟨a', here', holder'⟩ := holderOf_eq_some.mp is
      obtain ⟨c, is, holder, -, -⟩ := place_eq_some here'
      exact holderOf_eq_some.mpr ⟨c, is, holder.symm.trans holder'⟩
    · intro y a' here' held
      obtain ⟨c, is, holder, -, placed⟩ := place_eq_some here'
      rw [holder] at held
      rw [placed]
      split
      · next own =>
          rw [own, here] at is
          cases is
          exact absurd free held
      · exact consistent.unplaced y c is held

/-- A thing may go exactly if it holds nothing that stays. -/
theorem consistent_delete_iff (consistent : Consistent h) {b : Thing ι} (there : h p = some b) :
    Consistent (delete h p) ↔ ∀ x a, h x = some a → x ∉ b.contents := by
  have stays {x : ι} (other : x ≠ p) : delete h p x = h x := Function.update_of_ne other ..
  have gone : delete h p p = none := Function.update_self ..
  have old {x : ι} {a : Thing ι} (here : delete h p x = some a) : h x = some a := by
    by_cases own : x = p
    · rw [own, gone] at here
      cases here
    · rwa [stays own] at here
  constructor
  · intro after x a here mem
    have held : a.holder = some p := (consistent.both x p a b here there).mp mem
    have other : x ≠ p := by
      rintro rfl
      exact consistent.acyclic x (.single (holderOf_eq_some.mpr ⟨a, here, held⟩))
    obtain ⟨c, is⟩ := after.alive x a p ((stays other).trans here) held
    cases gone.symm.trans is
  · intro empty
    refine ⟨fun y q c d is is' => consistent.both y q c d (old is) (old is'), ?_,
      consistent.acyclic.mono fun y q is => ?_, fun y c is => consistent.unplaced y c (old is)⟩
    · intro y c q is held
      have other : q ≠ p := by
        rintro rfl
        exact empty y c (old is) ((consistent.both y q c b (old is) there).mpr held)
      obtain ⟨d, is'⟩ := consistent.alive y c q (old is) held
      exact ⟨d, (stays other).trans is'⟩
    · obtain ⟨c, is, held⟩ := holderOf_eq_some.mp is
      exact holderOf_eq_some.mpr ⟨c, old is, held⟩

/-- A place changes nothing of what is held. -/
theorem place_noted_iff {y : ι} {holds : ι → Prop} :
    (∀ q c, place h x q = some c → y ∈ c.contents → holds q) ↔
      ∀ q c, h q = some c → y ∈ c.contents → holds q := by
  constructor
  · intro noted q c here mem
    obtain ⟨c', is⟩ := exists_place here (x := x)
    obtain ⟨d, is', -, contents, -⟩ := place_eq_some is
    cases here.symm.trans is'
    exact noted q c' is (contents ▸ mem)
  · intro noted q c' is mem
    obtain ⟨c, here, -, contents, -⟩ := place_eq_some is
    exact noted q c here (contents ▸ mem)

/-! ### New things -/

theorem create_self (placed : Bool) : create h x placed x = some ⟨none, ∅, placed⟩ :=
  Function.update_self ..

theorem create_of_ne {placed : Bool} {r : ι} (other : r ≠ x) : create h x placed r = h r :=
  Function.update_of_ne other ..

theorem place_create : place (create h x false) x = create h x true := by
  funext r
  unfold place
  by_cases own : r = x
  · rw [own, create_self, create_self, Option.map_some, if_pos rfl]
  · rw [create_of_ne own, create_of_ne own]
    cases h r with
    | none => rfl
    | some a => rw [Option.map_some, if_neg own]

theorem holderOf_create (new : h x = none) (placed : Bool) :
    holderOf (create h x placed) = holderOf h := by
  funext r
  unfold holderOf
  by_cases own : r = x
  · rw [own, create_self, new]
    rfl
  · rw [create_of_ne own]

/-- Without a new thing that nothing holds and that holds nothing, the notes are as good. -/
theorem Consistent.of_create (new : h x = none) {placed : Bool}
    (after : Consistent (create h x placed)) : Consistent h := by
  have still {y : ι} {a : Thing ι} (here : h y = some a) : create h x placed y = some a := by
    rw [create_of_ne, here]
    rintro rfl
    cases new.symm.trans here
  refine ⟨fun y q a b here there => after.both y q a b (still here) (still there), ?_, ?_,
    fun y a here => after.unplaced y a (still here)⟩
  · intro y a q here held
    by_cases own : q = x
    · subst own
      have mem := (after.both y q a _ (still here) (create_self placed)).mpr held
      exact absurd mem (Finset.notMem_empty y)
    · obtain ⟨b, there⟩ := after.alive y a q (still here) held
      exact ⟨b, (create_of_ne own).symm.trans there⟩
  · rw [← holderOf_create new placed]
    exact after.acyclic

/-- A new thing may come exactly if none holds it already. -/
theorem consistent_create_iff (new : h x = none) (placed : Bool) :
    Consistent (create h x placed) ↔
      Consistent h ∧ ∀ p b, h p = some b → x ∉ b.contents := by
  constructor
  · intro after
    refine ⟨after.of_create new, fun p b there mem => ?_⟩
    have other : p ≠ x := by
      rintro rfl
      cases new.symm.trans there
    have held := (after.both x p _ b (create_self placed)
      ((create_of_ne other).trans there)).mp mem
    cases held
  · rintro ⟨consistent, free⟩
    have old {y : ι} {a : Thing ι} (other : y ≠ x) (here : create h x placed y = some a) :
        h y = some a := (create_of_ne other).symm.trans here
    refine ⟨?_, ?_, by rw [holderOf_create new]; exact consistent.acyclic, ?_⟩
    · intro y q a b here there
      by_cases own : q = x
      · rw [own, create_self] at there
        cases there
        refine iff_of_false (Finset.notMem_empty y) fun held => ?_
        by_cases self : y = x
        · rw [self, create_self] at here
          cases here
          cases held
        · obtain ⟨c, is⟩ := consistent.alive y a q (old self here) held
          rw [own, new] at is
          cases is
      · by_cases self : y = x
        · rw [self, create_self] at here
          cases here
          rw [self]
          exact iff_of_false (free q b (old own there)) nofun
        · exact consistent.both y q a b (old self here) (old own there)
    · intro y a q here held
      by_cases self : y = x
      · rw [self, create_self] at here
        cases here
        cases held
      · obtain ⟨c, is⟩ := consistent.alive y a q (old self here) held
        by_cases own : q = x
        · rw [own]
          exact ⟨_, create_self placed⟩
        · exact ⟨c, (create_of_ne own).trans is⟩
    · intro y a here held
      by_cases self : y = x
      · rw [self, create_self] at here
        cases here
        exact absurd rfl held
      · exact consistent.unplaced y a (old self here) held

/-- `x` is new, and `p` holds it at once. -/
def give (h : Things ι) (x p : ι) : Things ι := hang (create h x false) x p

theorem exists_give {b : Thing ι} (new : h x = none) (there : h p = some b) :
    ∃ b', give h x p p = some b' := by
  refine exists_hang (a := b) ?_
  rw [create_of_ne, there]
  rintro rfl
  cases new.symm.trans there

/-- What another than `p` holds stays the same when `p` is given a new thing. -/
theorem give_noted_iff {b : Thing ι} (new : h x = none) (there : h p = some b) (y : ι) :
    (∀ q c, give h x p q = some c → y ∈ c.contents → q = p) ↔
      ∀ q c, h q = some c → y ∈ c.contents → q = p := by
  have apart : p ≠ x := by
    rintro rfl
    cases new.symm.trans there
  constructor
  · intro noted q c here mem
    by_contra other
    have still : create h x false q = some c := by
      rw [create_of_ne, here]
      rintro rfl
      cases new.symm.trans here
    obtain ⟨c', is⟩ := exists_hang still (x := x) (p := p)
    obtain ⟨d, is', -, contents, -⟩ := hang_eq_some is
    cases still.symm.trans is'
    rw [if_neg other] at contents
    exact other (noted q c' is (contents ▸ mem))
  · intro noted q c' is mem
    by_contra other
    obtain ⟨c, here, -, contents, -⟩ := hang_eq_some is
    rw [contents, if_neg other] at mem
    by_cases own : q = x
    · rw [own, create_self] at here
      cases here
      exact absurd mem (Finset.notMem_empty y)
    · exact other (noted q c ((create_of_ne own).symm.trans here) mem)

theorem give_self (apart : p ≠ x) : give h x p x = some ⟨some p, ∅, false⟩ := by
  unfold give hang
  rw [create_self, Option.map_some, if_pos rfl, if_neg (Ne.symm apart), if_pos rfl]

theorem give_of_ne {r : ι} (other : r ≠ x) : give h x p r = (h r).map fun a =>
    { a with contents := if r = p then insert x a.contents else a.contents } := by
  unfold give hang
  rw [create_of_ne other]
  cases h r with
  | none => rfl
  | some a => rw [Option.map_some, Option.map_some, if_neg other, if_neg other]

/-- What there was is there, and holds the new thing if it is `p`. -/
theorem give_of_some (new : h x = none) {r : ι} {a : Thing ι} (here : h r = some a) :
    give h x p r =
      some { a with contents := if r = p then insert x a.contents else a.contents } := by
  rw [give_of_ne, here, Option.map_some]
  rintro rfl
  cases new.symm.trans here

theorem give_eq_some {r : ι} {a' : Thing ι} (other : r ≠ x) (here : give h x p r = some a') :
    ∃ a, h r = some a ∧ a'.holder = a.holder ∧
      a'.contents = (if r = p then insert x a.contents else a.contents) ∧
      a'.placed = a.placed := by
  rw [give_of_ne other] at here
  obtain ⟨a, is, rfl⟩ := Option.map_eq_some_iff.mp here
  exact ⟨a, is, rfl, rfl, rfl⟩

theorem holderOf_give (new : h x = none) :
    holderOf (give h x p) = Function.update (holderOf h) x (some p) := by
  rw [give, holderOf_hang (create_self false), holderOf_create new]

/-- Nothing but the new thing is put into the contents. -/
theorem mem_given_iff {y : ι} (other : y ≠ x) (q : ι) (c : Finset ι) :
    y ∈ (if q = p then insert x c else c) ↔ y ∈ c := by
  split
  · rw [Finset.mem_insert, or_iff_right other]
  · rfl

/-- The notes were the same before a new thing was given away: taking it out of account again
changes no other's. -/
theorem Consistent.of_give (new : h x = none) (apart : p ≠ x)
    (after : Consistent (give h x p)) : Consistent h where
  both := by
    intro y q a c here there
    have other : y ≠ x := by
      rintro rfl
      cases new.symm.trans here
    rw [← mem_given_iff other q]
    exact after.both y q _ _ (give_of_some new here) (give_of_some new there)
  alive := by
    intro y a q here held
    obtain ⟨c, is⟩ := after.alive y _ q (give_of_some new here) held
    by_cases self : q = x
    · subst self
      have mem := (after.both y q _ _ (give_of_some new here) (give_self apart)).mpr held
      exact absurd mem (Finset.notMem_empty y)
    · obtain ⟨d, is', -⟩ := give_eq_some self is
      exact ⟨d, is'⟩
  acyclic := by
    refine after.acyclic.mono fun y q is => ?_
    rw [holderOf_give new, Function.update_of_ne, is]
    rintro rfl
    rw [holderOf, new] at is
    cases is
  unplaced := by
    intro y a here held
    have placed := after.unplaced y _ (give_of_some new here) held
    exact placed

/-- After a new thing is given to `p`, no one else is noted to hold it. -/
theorem Consistent.giver_eq (new : h x = none) (apart : p ≠ x)
    (after : Consistent (give h x p)) {q : ι} {c : Thing ι} (is : h q = some c)
    (mem : x ∈ c.contents) : q = p := by
  by_contra other
  have noted := after.both x q _ _ (give_self apart) (give_of_some new is)
  have held := noted.mp (by rw [if_neg other]; exact mem)
  exact other (Option.some.inj held).symm

/-- The notes about who holds what agree once a new thing is given to `p`. -/
theorem Consistent.both_give (consistent : Consistent h) (new : h x = none) (apart : p ≠ x)
    (free : ∀ q c, h q = some c → x ∈ c.contents → q = p) {y q : ι} {a' b' : Thing ι}
    (here : give h x p y = some a') (there : give h x p q = some b') :
    y ∈ b'.contents ↔ a'.holder = some q := by
  by_cases taker : q = x
  · -- The new thing holds nothing, and nothing is held by it.
    rw [taker, give_self apart] at there
    cases there
    refine iff_of_false (Finset.notMem_empty y) fun held => ?_
    by_cases self : y = x
    · rw [self, give_self apart] at here
      cases here
      exact apart ((Option.some.inj held).trans taker)
    · obtain ⟨a, is, holder, -⟩ := give_eq_some self here
      obtain ⟨c, is'⟩ := consistent.alive y a q is (holder.symm.trans held)
      rw [taker, new] at is'
      cases is'
  · obtain ⟨c, is', -, contents, -⟩ := give_eq_some taker there
    rw [contents]
    by_cases self : y = x
    · rw [self, give_self apart] at here
      cases here
      rw [self]
      by_cases giver : q = p
      · rw [if_pos giver, giver]
        exact iff_of_true (Finset.mem_insert_self x _) rfl
      · rw [if_neg giver]
        exact iff_of_false (fun mem => giver (free q c is' mem))
          fun held => giver (Option.some.inj held).symm
    · obtain ⟨a, is, holder, -⟩ := give_eq_some self here
      rw [mem_given_iff self, holder]
      exact consistent.both y q a c is is'

/-- A new thing at a free address, given to a holder that is there, keeps the two notes of who holds
what the same. -/
theorem Consistent.give (consistent : Consistent h) {b : Thing ι} (new : h x = none)
    (there : h p = some b) (apart : p ≠ x)
    (free : ∀ q c, h q = some c → x ∈ c.contents → q = p) : Consistent (give h x p) where
  both := fun _ _ _ _ here there => consistent.both_give new apart free here there
  alive := by
    intro y a' q here held
    by_cases self : y = x
    · rw [self, give_self apart] at here
      cases here
      cases held
      exact ⟨_, give_of_some new there⟩
    · obtain ⟨a, is, holder, -⟩ := give_eq_some self here
      obtain ⟨c, is'⟩ := consistent.alive y a q is (holder.symm.trans held)
      exact ⟨_, give_of_some new is'⟩
  acyclic := by
    have top : holderOf h x = none := by
      rw [holderOf, new]
      rfl
    rw [holderOf_give new, acyclic_update_iff consistent.acyclic top]
    refine ⟨Ne.symm apart, fun above => ?_⟩
    obtain ⟨c, is⟩ := consistent.alive_above above
    cases new.symm.trans is
  unplaced := by
    intro y a' here held
    by_cases self : y = x
    · rw [self, give_self apart] at here
      cases here
      rfl
    · obtain ⟨a, is, holder, -, placed⟩ := give_eq_some self here
      rw [holder] at held
      exact placed.trans (consistent.unplaced y a is held)

/-- A new thing may be given to `p` exactly if none but `p` holds it already. -/
theorem consistent_give_iff {b : Thing ι} (new : h x = none) (there : h p = some b) :
    Consistent (give h x p) ↔
      Consistent h ∧ ∀ q c, h q = some c → x ∈ c.contents → q = p := by
  have apart : p ≠ x := by
    rintro rfl
    cases new.symm.trans there
  constructor
  · intro after
    exact ⟨after.of_give new apart, fun _ _ is mem => after.giver_eq new apart is mem⟩
  · rintro ⟨consistent, free⟩
    exact consistent.give new there apart free

end Holding
