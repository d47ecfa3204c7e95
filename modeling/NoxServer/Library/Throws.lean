import Mathlib.Data.Nat.Notation

/-!
Computations on a state that may throw, and what they leave unchanged.

What such a computation did to the state before it threw stays done, so a statement about the
state after it is about both ways it can end. `Leaves` says that what is seen of the state is
the same after it, and `Moves` that the state has gone on along a relation; the rules build these
for a computation from its parts.
-/

namespace Throws

variable {σ ε α β γ : Type}

/-- What is seen of the state is the same after the computation, also if it throws. -/
def Leaves (seen : σ → γ) (comp : ExceptT ε (StateM σ) α) : Prop :=
  ∀ s, seen (comp s).2 = seen s

variable {seen : σ → γ}

/-- A sequence whose first part completes is its second part. -/
theorem run_bind_ok {first : ExceptT ε (StateM σ) α} {next : α → ExceptT ε (StateM σ) β}
    {s t : σ} {x : α} (run : first s = (.ok x, t)) : (first >>= next) s = next x t := by
  simp only [Bind.bind, ExceptT.bind, ExceptT.mk, StateT.bind, run, ExceptT.bindCont]

/-- A sequence whose first part throws throws. -/
theorem run_bind_error {first : ExceptT ε (StateM σ) α} {next : α → ExceptT ε (StateM σ) β}
    {s t : σ} {e : ε} (run : first s = (.error e, t)) :
    (first >>= next) s = (.error e, t) := by
  simp only [Bind.bind, ExceptT.bind, ExceptT.mk, StateT.bind, run, ExceptT.bindCont]
  rfl

/-- What is caught has thrown, and goes on from where it threw. -/
theorem run_tryCatch_error {body : ExceptT ε (StateM σ) α}
    {handler : ε → ExceptT ε (StateM σ) α} {s t : σ} {e : ε} (run : body s = (.error e, t)) :
    (tryCatch body handler) s = handler e t := by
  simp only [MonadExcept.tryCatch, tryCatchThe, MonadExceptOf.tryCatch, ExceptT.tryCatch,
    ExceptT.mk, Bind.bind, StateT.bind, run]

theorem run_tryCatch_ok {body : ExceptT ε (StateM σ) α}
    {handler : ε → ExceptT ε (StateM σ) α} {s t : σ} {x : α} (run : body s = (.ok x, t)) :
    (tryCatch body handler) s = (.ok x, t) := by
  simp only [MonadExcept.tryCatch, tryCatchThe, MonadExceptOf.tryCatch, ExceptT.tryCatch,
    ExceptT.mk, Bind.bind, StateT.bind, run]
  rfl

theorem leaves_pure (x : α) : Leaves seen (pure x : ExceptT ε (StateM σ) α) :=
  fun _ => rfl

theorem leaves_get : Leaves seen (get : ExceptT ε (StateM σ) σ) :=
  fun _ => rfl

/-- After a sequence whose second part leaves it, what is seen is what is seen after the first. -/
theorem seen_bind {first : ExceptT ε (StateM σ) α} {next : α → ExceptT ε (StateM σ) β}
    (leaves : ∀ x, Leaves seen (next x)) (s : σ) :
    seen ((first >>= next) s).2 = seen (first s).2 := by
  rcases run : first s with ⟨_ | x, t⟩
  · rw [run_bind_error run]
  · rw [run_bind_ok run, leaves x t]

theorem Leaves.bind {first : ExceptT ε (StateM σ) α} {next : α → ExceptT ε (StateM σ) β}
    (leaves : Leaves seen first) (leaves' : ∀ x, Leaves seen (next x)) :
    Leaves seen (first >>= next) :=
  fun s => (seen_bind leaves' s).trans (leaves s)

/-- What is read off something that stays the same stays the same. -/
theorem Leaves.comp {δ : Type} {comp : ExceptT ε (StateM σ) α} (leaves : Leaves seen comp)
    (read : γ → δ) : Leaves (fun s => read (seen s)) comp :=
  fun s => congrArg read (leaves s)

theorem Leaves.tryCatch {body : ExceptT ε (StateM σ) α} {handler : ε → ExceptT ε (StateM σ) α}
    (leaves : Leaves seen body) (leaves' : ∀ e, Leaves seen (handler e)) :
    Leaves seen (tryCatch body handler) := by
  intro s
  rcases run : body s with ⟨e | x, t⟩
  · rw [run_tryCatch_error run, leaves' e t, ← leaves s, run]
  · rw [run_tryCatch_ok run, ← leaves s, run]

/-! ### Along a relation -/

/-- The state after the computation is related to the one before, also if it throws. -/
def Moves (rel : σ → σ → Prop) (comp : ExceptT ε (StateM σ) α) : Prop :=
  ∀ s, rel s (comp s).2

variable {rel : σ → σ → Prop}

theorem moves_pure (refl : ∀ s, rel s s) (x : α) :
    Moves rel (pure x : ExceptT ε (StateM σ) α) :=
  fun s => refl s

theorem moves_get (refl : ∀ s, rel s s) : Moves rel (get : ExceptT ε (StateM σ) σ) :=
  fun s => refl s

theorem Moves.bind (trans : ∀ s t u, rel s t → rel t u → rel s u)
    {first : ExceptT ε (StateM σ) α} {next : α → ExceptT ε (StateM σ) β}
    (moves : Moves rel first) (moves' : ∀ x, Moves rel (next x)) :
    Moves rel (first >>= next) := by
  intro s
  have here := moves s
  rcases run : first s with ⟨_ | x, t⟩
  · rw [run] at here
    rw [run_bind_error run]
    exact here
  · rw [run] at here
    rw [run_bind_ok run]
    exact trans _ _ _ here (moves' x t)

theorem Moves.tryCatch (trans : ∀ s t u, rel s t → rel t u → rel s u)
    {body : ExceptT ε (StateM σ) α} {handler : ε → ExceptT ε (StateM σ) α}
    (moves : Moves rel body) (moves' : ∀ e, Moves rel (handler e)) :
    Moves rel (tryCatch body handler) := by
  intro s
  have here := moves s
  rcases run : body s with ⟨e | x, t⟩
  · rw [run] at here
    rw [run_tryCatch_error run]
    exact trans _ _ _ here (moves' e t)
  · rw [run] at here
    rw [run_tryCatch_ok run]
    exact here

end Throws
