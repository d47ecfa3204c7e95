import Mathlib.Data.List.Basic

/-!
How much of its input a reader takes.

A reader is a stateful computation that may fail, over a state in which some data is seen
from a cursor on (`View`). `Yields` describes a reader that always takes the same number
of items and whose value is a function of what lies ahead; `Takes` one whose number
depends on what lies ahead, or that takes no number at all and so never completes. A
reader that fails must have wanted more than there was. The rules build the description
of a sequence from those of its parts.
-/

namespace Consume

variable {σ ε α β ι : Type}

/-- How a state is read: the data and the place of the cursor. -/
structure View (σ ι : Type) where
  data : σ → List ι
  pos : σ → Nat

namespace View

/-- What lies ahead of the cursor. -/
def rest (view : View σ ι) (s : σ) : List ι := (view.data s).drop (view.pos s)

end View

/-- A sequence whose first part completes is its second part. -/
theorem run_bind_ok {first : StateT σ (Except ε) α} {next : α → StateT σ (Except ε) β}
    {s s' : σ} {x : α} (run : first s = .ok (x, s')) : (first >>= next) s = next x s' := by
  simp only [Bind.bind, StateT.bind, run, Except.bind]

/-- A sequence whose first part fails fails. -/
theorem run_bind_error {first : StateT σ (Except ε) α} {next : α → StateT σ (Except ε) β}
    {s : σ} {fault : ε} (run : first s = .error fault) :
    (first >>= next) s = .error fault := by
  simp only [Bind.bind, StateT.bind, run, Except.bind]

/-- A sequence that completes has completed its parts. -/
theorem bind_run_eq_ok {first : StateT σ (Except ε) α} {next : α → StateT σ (Except ε) β}
    {s t : σ} {y : β} (run : (first >>= next) s = .ok (y, t)) :
    ∃ x mid, first s = .ok (x, mid) ∧ next x mid = .ok (y, t) := by
  cases first_run : first s with
  | error fault =>
      simp only [Bind.bind, StateT.bind, first_run, Except.bind] at run
      cases run
  | ok out =>
      simp only [Bind.bind, StateT.bind, first_run, Except.bind] at run
      exact ⟨out.1, out.2, rfl, run⟩

variable {view : View σ ι}

/-- The reader takes `count` items, unless there are fewer, and gives `value` of what lay
ahead. A reader that does not check its range moves the cursor all the same. -/
def Yields (view : View σ ι) (reader : StateT σ (Except ε) α) (count : Nat)
    (value : List ι → α) : Prop :=
  ∀ s, match reader s with
    | .ok (x, s') => x = value (view.rest s) ∧ view.data s' = view.data s ∧
        view.pos s' = view.pos s + count
    | .error _ => (view.data s).length < view.pos s + count

/-- The reader takes `need` of what lies ahead, unless there are fewer items; where
`need` has no answer it fails. -/
def Takes (view : View σ ι) (reader : StateT σ (Except ε) α) (need : List ι → Option Nat) :
    Prop :=
  ∀ s, match reader s with
    | .ok (_, s') => view.data s' = view.data s ∧
        ∃ count, need (view.rest s) = some count ∧ view.pos s' = view.pos s + count
    | .error _ => ∀ count, need (view.rest s) = some count →
        (view.data s).length < view.pos s + count

theorem View.rest_of_pos {s s' : σ} {count : Nat} (data : view.data s' = view.data s)
    (pos : view.pos s' = view.pos s + count) : view.rest s' = (view.rest s).drop count := by
  rw [View.rest, View.rest, data, pos, List.drop_drop]

theorem Yields.takes {reader : StateT σ (Except ε) α} {count : Nat} {value : List ι → α}
    (yields : Yields view reader count value) : Takes view reader fun _ => some count := by
  intro s
  have here := yields s
  cases run : reader s with
  | ok out =>
      rw [run] at here
      exact ⟨here.2.1, count, rfl, here.2.2⟩
  | error fault =>
      rw [run] at here
      rintro _ ⟨⟩
      exact here

theorem yields_pure (x : α) :
    Yields view (pure x : StateT σ (Except ε) α) 0 fun _ => x :=
  fun _ => ⟨rfl, rfl, rfl⟩

theorem takes_pure (x : α) : Takes view (pure x : StateT σ (Except ε) α) fun _ => some 0 :=
  (yields_pure x).takes

/-- A sequence of two readers of fixed size. -/
theorem Yields.bind {first : StateT σ (Except ε) α} {next : α → StateT σ (Except ε) β}
    {count count' : Nat} {value : List ι → α} {value' : α → List ι → β}
    (yields : Yields view first count value)
    (yields' : ∀ x, Yields view (next x) count' (value' x)) :
    Yields view (first >>= next) (count + count') fun rest =>
      value' (value rest) (rest.drop count) := by
  intro s
  have here := yields s
  cases run : first s with
  | error fault =>
      rw [run] at here
      rw [run_bind_error run]
      exact Nat.lt_of_lt_of_le here (by omega)
  | ok out =>
      obtain ⟨x, mid⟩ := out
      rw [run] at here
      obtain ⟨got, data, pos⟩ := here
      rw [run_bind_ok run]
      have there := yields' x mid
      cases run' : next x mid with
      | error fault =>
          rw [run', data, pos, Nat.add_assoc] at there
          exact there
      | ok out =>
          rw [run', data, pos, Nat.add_assoc, View.rest_of_pos data pos, got] at there
          exact there

/-- A reader of fixed size, and then one whose size depends on the value read. -/
theorem Yields.bind_takes {first : StateT σ (Except ε) α} {next : α → StateT σ (Except ε) β}
    {count : Nat} {value : List ι → α} {need : α → List ι → Option Nat}
    (yields : Yields view first count value) (takes : ∀ x, Takes view (next x) (need x)) :
    Takes view (first >>= next) fun rest =>
      (need (value rest) (rest.drop count)).map (count + ·) := by
  intro s
  have here := yields s
  cases run : first s with
  | error fault =>
      rw [run] at here
      rw [run_bind_error run]
      intro total wanted
      obtain ⟨more, _, rfl⟩ := Option.map_eq_some_iff.mp wanted
      exact Nat.lt_of_lt_of_le here (by omega)
  | ok out =>
      obtain ⟨x, mid⟩ := out
      rw [run] at here
      obtain ⟨got, data, pos⟩ := here
      rw [run_bind_ok run]
      have there := takes x mid
      cases run' : next x mid with
      | error fault =>
          rw [run', View.rest_of_pos data pos, data, pos, got] at there
          intro total wanted
          obtain ⟨more, wantedMore, rfl⟩ := Option.map_eq_some_iff.mp wanted
          rw [← Nat.add_assoc]
          exact there more wantedMore
      | ok out =>
          rw [run', View.rest_of_pos data pos, got] at there
          obtain ⟨data', more, wanted, pos'⟩ := there
          refine ⟨data'.trans data, count + more, ?_, ?_⟩
          · exact congrArg (Option.map (count + ·)) wanted
          · rw [pos', pos, Nat.add_assoc]

theorem Takes.congr {reader : StateT σ (Except ε) α} {need need' : List ι → Option Nat}
    (takes : Takes view reader need) (same : ∀ rest, need rest = need' rest) :
    Takes view reader need' :=
  (funext same : need = need') ▸ takes

/-- Two readers that each take a number of items that does not depend on them. -/
theorem Takes.and_then {first : StateT σ (Except ε) α} {next : α → StateT σ (Except ε) β}
    {count count' : Nat} (takes : Takes view first fun _ => some count)
    (takes' : ∀ x, Takes view (next x) fun _ => some count') :
    Takes view (first >>= next) fun _ => some (count + count') := by
  intro s
  have here := takes s
  cases run : first s with
  | error fault =>
      rw [run] at here
      rw [run_bind_error run]
      rintro _ ⟨⟩
      exact Nat.lt_of_lt_of_le (here count rfl) (by omega)
  | ok out =>
      obtain ⟨x, mid⟩ := out
      rw [run] at here
      obtain ⟨data, _, ⟨⟩, pos⟩ := here
      rw [run_bind_ok run]
      have there := takes' x mid
      cases run' : next x mid with
      | error fault =>
          rw [run', data, pos] at there
          rintro _ ⟨⟩
          rw [← Nat.add_assoc]
          exact there count' rfl
      | ok out =>
          rw [run'] at there
          obtain ⟨data', _, ⟨⟩, pos'⟩ := there
          exact ⟨data'.trans data, count + count', rfl, by rw [pos', pos, Nat.add_assoc]⟩

/-- `Takes.and_then` after a reader of fixed size. -/
theorem Yields.and_then {first : StateT σ (Except ε) α} {next : α → StateT σ (Except ε) β}
    {count count' : Nat} {value : List ι → α} (yields : Yields view first count value)
    (takes : ∀ x, Takes view (next x) fun _ => some count') :
    Takes view (first >>= next) fun _ => some (count + count') :=
  yields.takes.and_then takes

/-- A value computed from what was read takes nothing more. -/
theorem Takes.then_pure {first : StateT σ (Except ε) α} {need : List ι → Option Nat}
    (takes : Takes view first need) (f : α → β) :
    Takes view (first >>= fun x => pure (f x)) need := by
  intro s
  have here := takes s
  cases run : first s with
  | error fault =>
      rw [run] at here
      rw [run_bind_error run]
      exact here
  | ok out =>
      rw [run] at here
      rw [run_bind_ok run]
      exact here

/-- Looking at the state takes nothing. -/
theorem takes_get {next : σ → StateT σ (Except ε) β} {need : List ι → Option Nat}
    (takes : ∀ x, Takes view (next x) need) : Takes view (get >>= next) need :=
  fun s => takes s s

/-- A reader that always fails takes no number of items. -/
theorem takes_none {reader : StateT σ (Except ε) α}
    (fails : ∀ s, ∃ fault, reader s = .error fault) : Takes view reader fun _ => none := by
  intro s
  obtain ⟨fault, failed⟩ := fails s
  rw [failed]
  nofun

/-- As `Takes`, of states whose cursor is not beyond the data. -/
def TakesWithin (view : View σ ι) (reader : StateT σ (Except ε) α)
    (need : List ι → Option Nat) : Prop :=
  ∀ s, view.pos s ≤ (view.data s).length → match reader s with
    | .ok (_, s') => view.data s' = view.data s ∧
        ∃ count, need (view.rest s) = some count ∧ view.pos s' = view.pos s + count
    | .error _ => ∀ count, need (view.rest s) = some count →
        (view.data s).length < view.pos s + count

theorem Takes.within {reader : StateT σ (Except ε) α} {need : List ι → Option Nat}
    (takes : Takes view reader need) : TakesWithin view reader need :=
  fun s _ => takes s

/-! ### What readers return -/

/-- Every value the reader can return has a property. -/
def Returns (reader : StateT σ (Except ε) α) (property : α → Prop) : Prop :=
  ∀ s x s', reader s = .ok (x, s') → property x

theorem returns_pure {property : α → Prop} {x : α} (holds : property x) :
    Returns (pure x : StateT σ (Except ε) α) property := by
  rintro s _ _ ⟨⟩
  exact holds

theorem Returns.bind {first : StateT σ (Except ε) α} {next : α → StateT σ (Except ε) β}
    {between : α → Prop} {property : β → Prop} (returns : Returns first between)
    (returns' : ∀ x, between x → Returns (next x) property) :
    Returns (first >>= next) property := by
  intro s y s' run
  cases runs : first s with
  | error fault =>
      rw [run_bind_error runs] at run
      cases run
  | ok out =>
      rw [run_bind_ok runs] at run
      exact returns' out.1 (returns s out.1 out.2 runs) out.2 y s' run

theorem returns_bind {first : StateT σ (Except ε) α} {next : α → StateT σ (Except ε) β}
    {property : β → Prop} (returns : ∀ x, Returns (next x) property) :
    Returns (first >>= next) property :=
  Returns.bind (fun _ _ _ _ => trivial) fun x (_ : True) => returns x

end Consume
