import NoxServer.Library.Consume

/-!
What a stateful computation that may fail keeps.

A frame is an invariant of the states together with a relation between the state before and
the state after, which parts of the state do not change for example. `Keeps` says that a
computation, when it completes, has kept both, and that its value has some property. The rules
follow the way computations are put together.
-/

namespace Frames

open Consume

variable {σ ε α β : Type}

/-- What is kept: an invariant, and a relation between before and after. -/
structure Frame (σ : Type) where
  inv : σ → Prop
  rel : σ → σ → Prop
  refl : ∀ s, rel s s
  trans : ∀ s m t, rel s m → rel m t → rel s t

/-- The computation keeps the frame, and returns only values with the property. -/
def Keeps (frame : Frame σ) (m : StateT σ (Except ε) α) (returns : α → Prop) : Prop :=
  ∀ s x t, frame.inv s → m s = .ok (x, t) → frame.rel s t ∧ frame.inv t ∧ returns x

variable {frame : Frame σ}

theorem keeps_pure {returns : α → Prop} {x : α} (value : returns x) :
    Keeps frame (pure x : StateT σ (Except ε) α) returns := by
  rintro s _ _ inv ⟨⟩
  exact ⟨frame.refl s, inv, value⟩

theorem keeps_throw {returns : α → Prop} (fault : ε) :
    Keeps frame (throw fault : StateT σ (Except ε) α) returns := by
  rintro s x t - run
  cases run

/-- A computation that is seen to complete leads to some state. -/
theorem exists_of_isOk {m : StateT σ (Except ε) Unit} {s : σ} (ok : (m s).isOk = true) :
    ∃ t, m s = .ok ((), t) := by
  cases run : m s with
  | error fault =>
      rw [run] at ok
      cases ok
  | ok out => exact ⟨out.2, rfl⟩

theorem Keeps.bind {m : StateT σ (Except ε) α} {next : α → StateT σ (Except ε) β}
    {returns : α → Prop} {returns' : β → Prop} (first : Keeps frame m returns)
    (then_ : ∀ x, returns x → Keeps frame (next x) returns') :
    Keeps frame (m >>= next) returns' := by
  intro s y t inv run
  obtain ⟨x, mid, first_run, last_run⟩ := bind_run_eq_ok run
  obtain ⟨rel, inv, value⟩ := first s x mid inv first_run
  obtain ⟨rel', inv', value'⟩ := then_ x value mid y t inv last_run
  exact ⟨frame.trans s mid t rel rel', inv', value'⟩

/-- A computation whose value is not used. -/
theorem Keeps.seq {m : StateT σ (Except ε) α} {next : α → StateT σ (Except ε) β}
    {returns : α → Prop} {returns' : β → Prop} (first : Keeps frame m returns)
    (then_ : ∀ x, Keeps frame (next x) returns') : Keeps frame (m >>= next) returns' :=
  first.bind fun x _ => then_ x

theorem Keeps.mono {m : StateT σ (Except ε) α} {returns returns' : α → Prop}
    (keeps : Keeps frame m returns) (weaker : ∀ x, returns x → returns' x) :
    Keeps frame m returns' := by
  intro s x t inv run
  obtain ⟨rel, inv, value⟩ := keeps s x t inv run
  exact ⟨rel, inv, weaker x value⟩

theorem keeps_get : Keeps frame (get : StateT σ (Except ε) σ) frame.inv := by
  rintro s _ _ inv ⟨⟩
  exact ⟨frame.refl s, inv, inv⟩

theorem keeps_modify {f : σ → σ} (rel : ∀ s, frame.inv s → frame.rel s (f s))
    (inv : ∀ s, frame.inv s → frame.inv (f s)) :
    Keeps frame (modify f : StateT σ (Except ε) PUnit) fun _ => True := by
  rintro s _ _ before ⟨⟩
  exact ⟨rel s before, inv s before, trivial⟩

/-- What does not touch the state returns what it returns. -/
theorem keeps_lift (e : Except ε α) :
    Keeps frame (liftM e : StateT σ (Except ε) α) fun x => e = .ok x := by
  intro s x t inv run
  cases e with
  | error fault => cases run
  | ok y =>
      cases run
      exact ⟨frame.refl s, inv, rfl⟩

theorem keeps_ite {c : Prop} [Decidable c] {m m' : StateT σ (Except ε) α} {returns : α → Prop}
    (yes : c → Keeps frame m returns) (no : ¬ c → Keeps frame m' returns) :
    Keeps frame (if c then m else m') returns := by
  split
  · next holds => exact yes holds
  · next fails => exact no fails

end Frames
