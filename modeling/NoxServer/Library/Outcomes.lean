import Mathlib.Data.Nat.Notation

/-!
Computations that complete.

`Completes` says that a computation that may fail does not, and what holds of its result. The rules
build this for a computation from its parts; a loop over items has an invariant that knows which
items are still to come (`Completes.foldlM`).
-/

namespace Outcomes

variable {ε σ α β ι : Type}

/-- The computation completes, with a result of which `post` holds. -/
def Completes (comp : Except ε α) (post : α → Prop) : Prop := ∃ x, comp = .ok x ∧ post x

variable {comp : Except ε α} {post : α → Prop}

theorem completes_ok {x : α} (holds : post x) : Completes (.ok x : Except ε α) post :=
  ⟨x, rfl, holds⟩

theorem Completes.bind {next : α → Except ε β} {post' : β → Prop} (first : Completes comp post)
    (second : ∀ x, post x → Completes (next x) post') : Completes (comp >>= next) post' := by
  obtain ⟨x, run, holds⟩ := first
  rw [run]
  exact second x holds

theorem Completes.mono {post' : α → Prop} (completes : Completes comp post)
    (weaker : ∀ x, post x → post' x) : Completes comp post' := by
  obtain ⟨x, run, holds⟩ := completes
  exact ⟨x, run, weaker x holds⟩

theorem Completes.ite {c : Prop} [Decidable c] {other : Except ε α}
    (yes : c → Completes comp post) (no : ¬ c → Completes other post) :
    Completes (if c then comp else other) post := by
  split
  · next holds => exact yes holds
  · next fails => exact no fails

/-- A loop over items completes when its body does from an invariant, and keeps it. -/
theorem Completes.foldlM {body : σ → ι → Except ε σ} (inv : List ι → σ → Prop) {items : List ι}
    {s : σ} (start : inv items s)
    (step : ∀ item rest s, inv (item :: rest) s → Completes (body s item) (inv rest)) :
    Completes (items.foldlM body s) (inv []) := by
  induction items generalizing s with
  | nil => exact completes_ok start
  | cons item items ih =>
      rw [List.foldlM_cons]
      exact (step item items s start).bind fun t kept => ih kept

end Outcomes
