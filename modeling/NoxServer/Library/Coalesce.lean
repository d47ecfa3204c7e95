import Mathlib.Data.List.Forall2

/-!
Coalescing a stream of labelled items into batches.

An item that carries the header of the pending batch joins it; any other item sends
the pending batch off and starts a new one. A batch is built non-empty, so "nothing
pending" and "an empty batch pending" cannot be confused. However the items are
labelled, the batches sent off and the one still pending hold exactly the items
submitted, in order and under their own headers (`labelled_submitAll`).
-/

namespace Coalesce

variable {η ι : Type*}

/-- A non-empty run of items under one header. -/
structure Batch (η ι : Type*) where
  header : η
  first : ι
  rest : List ι

namespace Batch

def items (b : Batch η ι) : List ι := b.first :: b.rest

/-- The items, each with the header it travels under. -/
def labelled (b : Batch η ι) : List (η × ι) := b.items.map fun i => (b.header, i)

/-- A batch of one item. -/
def single (x : η × ι) : Batch η ι := ⟨x.1, x.2, []⟩

/-- The batch with one more item at its end. -/
def snoc (b : Batch η ι) (i : ι) : Batch η ι := { b with rest := b.rest ++ [i] }

@[simp] theorem labelled_single (x : η × ι) : (single x).labelled = [x] := rfl

@[simp] theorem items_single (x : η × ι) : (single x).items = [x.2] := rfl

@[simp] theorem items_snoc (b : Batch η ι) (i : ι) : (b.snoc i).items = b.items ++ [i] := rfl

theorem labelled_snoc (b : Batch η ι) (i : ι) :
    (b.snoc i).labelled = b.labelled ++ [(b.header, i)] := by
  simp [labelled, snoc, items]

end Batch

variable [DecidableEq η]

/-- What is pending after an item, and what the item sent off. -/
def submit (pending : Option (Batch η ι)) (x : η × ι) :
    Option (Batch η ι) × List (Batch η ι) :=
  match pending with
  | none => (some (.single x), [])
  | some b => if x.1 = b.header then (some (b.snoc x.2), []) else (some (.single x), [b])

/-- The items of a list, one after the other. -/
def submitAll (pending : Option (Batch η ι)) :
    List (η × ι) → Option (Batch η ι) × List (Batch η ι)
  | [] => (pending, [])
  | x :: xs =>
      let out := submit pending x
      let outs := submitAll out.1 xs
      (outs.1, out.2 ++ outs.2)

/-- The batches of a list of items, the pending one included. -/
def batches (pending : Option (Batch η ι)) (xs : List (η × ι)) : List (Batch η ι) :=
  (submitAll pending xs).2 ++ (submitAll pending xs).1.toList

/-- One item: what was pending and the item are what was sent off and is pending now. -/
theorem labelled_submit (pending : Option (Batch η ι)) (x : η × ι) :
    ((submit pending x).2 ++ (submit pending x).1.toList).flatMap Batch.labelled =
      pending.toList.flatMap Batch.labelled ++ [x] := by
  cases pending with
  | none => simp [submit]
  | some b =>
      by_cases same : x.1 = b.header
      · have joins : submit (some b) x = (some (b.snoc x.2), []) := by
          simp only [submit, if_pos same]
        have item : (b.header, x.2) = x := by rw [← same]
        rw [joins]
        simp [Batch.labelled_snoc, item]
      · have starts : submit (some b) x = (some (.single x), [b]) := by
          simp only [submit, if_neg same]
        rw [starts]
        simp

/-- The pending batch after an item is never absent. -/
theorem submit_isSome (pending : Option (Batch η ι)) (x : η × ι) :
    (submit pending x).1.isSome := by
  cases pending with
  | none => rfl
  | some b =>
      by_cases same : x.1 = b.header
      · simp [submit, same]
      · simp [submit, same]

/-- Something is pending after a list of items unless there was nothing at all. -/
theorem submitAll_isSome (pending : Option (Batch η ι)) (xs : List (η × ι))
    (something : pending ≠ none ∨ xs ≠ []) : (submitAll pending xs).1.isSome := by
  induction xs generalizing pending with
  | nil => simpa [submitAll, Option.isSome_iff_ne_none] using something
  | cons x xs ih =>
      have present := submit_isSome pending x
      exact ih _ (.inl (Option.isSome_iff_ne_none.mp present))

/-- No item is lost, duplicated, reordered or relabelled. -/
theorem labelled_submitAll (pending : Option (Batch η ι)) (xs : List (η × ι)) :
    (batches pending xs).flatMap Batch.labelled =
      pending.toList.flatMap Batch.labelled ++ xs := by
  induction xs generalizing pending with
  | nil => simp [batches, submitAll]
  | cons x xs ih =>
      have step := labelled_submit pending x
      have tail := ih (submit pending x).1
      simp only [batches, submitAll, List.append_assoc, List.flatMap_append] at tail step ⊢
      rw [tail, ← List.append_assoc, step]
      simp

end Coalesce
