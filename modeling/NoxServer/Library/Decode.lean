import NoxServer.Library.Consume

/-!
Readers that undo an encoding.

`Decodes` says it of one kind of value: wherever the encoding of a good value lies ahead
of the cursor, whatever follows it, the reader returns that value and does nothing but
move the cursor behind it. `Decodes.run_bind` runs the first reader of a sequence, and
`readLoop_run` a loop that reads a given number of items and puts them into a collection.
-/

namespace Decode

open Consume (View)

/-- A view whose cursor can be moved forward, with everything else left as it is. -/
structure Cursor (σ ι : Type) extends View σ ι where
  advance : σ → Nat → σ
  advance_zero : ∀ s, advance s 0 = s
  advance_add : ∀ s count count', advance (advance s count) count' = advance s (count + count')
  data_advance : ∀ s count, data (advance s count) = data s
  pos_advance : ∀ s count, pos (advance s count) = pos s + count

variable {σ ε α β γ ι : Type} {cursor : Cursor σ ι}

/-- Behind the items moved over lies what followed them. -/
theorem Cursor.rest_advance {s : σ} (front : List ι) {more : List ι}
    (ahead : cursor.rest s = front ++ more) :
    cursor.rest (cursor.advance s front.length) = more := by
  rw [View.rest_of_pos (cursor.data_advance s _) (cursor.pos_advance s _), ahead, List.drop_left]

/-- The reader undoes `encode` on good values. -/
def Decodes (cursor : Cursor σ ι) (reader : StateT σ (Except ε) α) (encode : α → List ι)
    (Good : α → Prop) : Prop :=
  ∀ s x more, Good x → cursor.rest s = encode x ++ more →
    reader s = .ok (x, cursor.advance s (encode x).length)

/-- The first reader of a sequence returns the value that lies ahead. -/
theorem Decodes.run_bind {reader : StateT σ (Except ε) α} {encode : α → List ι}
    {Good : α → Prop} (decodes : Decodes cursor reader encode Good) {s : σ} {x : α}
    {more : List ι} (good : Good x) (ahead : cursor.rest s = encode x ++ more)
    (next : α → StateT σ (Except ε) β) :
    (reader >>= next) s = next x (cursor.advance s (encode x).length) :=
  Consume.run_bind_ok (decodes s x more good ahead)

/-- Fewer values are good. -/
theorem Decodes.mono {reader : StateT σ (Except ε) α} {encode : α → List ι}
    {Good Good' : α → Prop} (decodes : Decodes cursor reader encode Good)
    (fewer : ∀ x, Good' x → Good x) : Decodes cursor reader encode Good' :=
  fun s x more good ahead => decodes s x more (fewer x good) ahead

/-- Two readers in a row undo two encodings in a row. -/
theorem Decodes.pair {reader : StateT σ (Except ε) α} {encode : α → List ι}
    {Good : α → Prop} {reader' : StateT σ (Except ε) β} {encode' : β → List ι}
    {Good' : β → Prop} (decodes : Decodes cursor reader encode Good)
    (decodes' : Decodes cursor reader' encode' Good') :
    Decodes cursor (do let x ← reader; let y ← reader'; return (x, y))
      (fun p => encode p.1 ++ encode' p.2) fun p => Good p.1 ∧ Good' p.2 := by
  rintro s ⟨x, y⟩ more ⟨good, good'⟩ ahead
  rw [List.append_assoc] at ahead
  have after := Cursor.rest_advance _ ahead
  rw [decodes.run_bind good ahead, decodes'.run_bind good' after, cursor.advance_add,
    List.length_append]
  rfl

/-- Wherever some items lie ahead the reader returns one value, and moves behind them. -/
def Reads (cursor : Cursor σ ι) (reader : StateT σ (Except ε) α) (items : List ι) (x : α) : Prop :=
  ∀ s more, cursor.rest s = items ++ more → reader s = .ok (x, cursor.advance s items.length)

theorem Decodes.reads {reader : StateT σ (Except ε) α} {encode : α → List ι} {Good : α → Prop}
    (decodes : Decodes cursor reader encode Good) {x : α} (good : Good x) :
    Reads cursor reader (encode x) x :=
  fun s more ahead => decodes s x more good ahead

theorem reads_pure (cursor : Cursor σ ι) (x : α) :
    Reads cursor (pure x : StateT σ (Except ε) α) [] x := by
  intro s more _
  rw [List.length_nil, cursor.advance_zero]
  rfl

/-- Items in a row are read by readers in a row. -/
theorem Reads.bind {first : StateT σ (Except ε) α} {next : α → StateT σ (Except ε) β}
    {items items' : List ι} {x : α} {y : β} (reads : Reads cursor first items x)
    (reads' : Reads cursor (next x) items' y) :
    Reads cursor (first >>= next) (items ++ items') y := by
  intro s more ahead
  rw [List.append_assoc] at ahead
  rw [Consume.run_bind_ok (reads s _ ahead), reads' _ more (Cursor.rest_advance _ ahead),
    cursor.advance_add, List.length_append]

/-- What is read may be changed. -/
theorem Reads.map {reader : StateT σ (Except ε) α} {items : List ι} {x : α}
    (reads : Reads cursor reader items x) (f : α → β) :
    Reads cursor (reader >>= fun x => pure (f x)) items (f x) := by
  intro s more ahead
  rw [Consume.run_bind_ok (reads s more ahead)]
  rfl

/-- In data that have a property, wherever some items lie ahead the reader returns one value, and
moves behind them. -/
def ReadsIn (cursor : Cursor σ ι) (within : List ι → Prop) (reader : StateT σ (Except ε) α)
    (items : List ι) (x : α) : Prop :=
  ∀ s more, within (cursor.data s) → cursor.rest s = items ++ more →
    reader s = .ok (x, cursor.advance s items.length)

theorem Reads.readsIn {reader : StateT σ (Except ε) α} {items : List ι} {x : α}
    (reads : Reads cursor reader items x) (within : List ι → Prop) :
    ReadsIn cursor within reader items x :=
  fun s more _ ahead => reads s more ahead

/-- Items in a row are read by readers in a row. -/
theorem ReadsIn.bind {within : List ι → Prop} {first : StateT σ (Except ε) α}
    {next : α → StateT σ (Except ε) β} {items items' : List ι} {x : α} {y : β}
    (reads : ReadsIn cursor within first items x)
    (reads' : ReadsIn cursor within (next x) items' y) :
    ReadsIn cursor within (first >>= next) (items ++ items') y := by
  intro s more here ahead
  rw [List.append_assoc] at ahead
  have still : within (cursor.data (cursor.advance s items.length)) := by
    rwa [cursor.data_advance]
  rw [Consume.run_bind_ok (reads s _ here ahead),
    reads' _ more still (Cursor.rest_advance _ ahead), cursor.advance_add, List.length_append]

theorem Reads.bindIn {within : List ι → Prop} {first : StateT σ (Except ε) α}
    {next : α → StateT σ (Except ε) β} {items items' : List ι} {x : α} {y : β}
    (reads : Reads cursor first items x) (reads' : ReadsIn cursor within (next x) items' y) :
    ReadsIn cursor within (first >>= next) (items ++ items') y :=
  (reads.readsIn within).bind reads'

/-- From one place on, wherever some items lie ahead, the reader returns one value, and moves behind
them. -/
def ReadsFrom (cursor : Cursor σ ι) (place : Nat) (reader : StateT σ (Except ε) α) (items : List ι)
    (x : α) : Prop :=
  ∀ s more, cursor.pos s = place → cursor.rest s = items ++ more →
    reader s = .ok (x, cursor.advance s items.length)

theorem Reads.readsFrom {reader : StateT σ (Except ε) α} {items : List ι} {x : α}
    (reads : Reads cursor reader items x) (place : Nat) : ReadsFrom cursor place reader items x :=
  fun s more _ ahead => reads s more ahead

/-- Items in a row are read by readers in a row, the second one from behind the first items on. -/
theorem ReadsFrom.bind {place : Nat} {first : StateT σ (Except ε) α}
    {next : α → StateT σ (Except ε) β} {items items' : List ι} {x : α} {y : β}
    (reads : ReadsFrom cursor place first items x)
    (reads' : ReadsFrom cursor (place + items.length) (next x) items' y) :
    ReadsFrom cursor place (first >>= next) (items ++ items') y := by
  intro s more here ahead
  rw [List.append_assoc] at ahead
  have behind : cursor.pos (cursor.advance s items.length) = place + items.length := by
    rw [cursor.pos_advance, here]
  rw [Consume.run_bind_ok (reads s _ here ahead),
    reads' _ more behind (Cursor.rest_advance _ ahead), cursor.advance_add, List.length_append]

theorem ReadsFrom.map {place : Nat} {reader : StateT σ (Except ε) α} {items : List ι} {x : α}
    (reads : ReadsFrom cursor place reader items x) (f : α → β) :
    ReadsFrom cursor place (reader >>= fun x => pure (f x)) items (f x) := by
  intro s more here ahead
  rw [Consume.run_bind_ok (reads s more here ahead)]
  rfl

/-- Reads `count` items and puts each into a collection. -/
def readLoop (reader : StateT σ (Except ε) α) (put : γ → α → γ) :
    Nat → γ → StateT σ (Except ε) γ
  | 0, collection => pure collection
  | count + 1, collection => do
      let x ← reader
      readLoop reader put count (put collection x)

/-- The loop puts the items into the collection in the order they lie ahead. -/
theorem readLoop_run {reader : StateT σ (Except ε) α} {encode : α → List ι}
    {Good : α → Prop} (decodes : Decodes cursor reader encode Good) (put : γ → α → γ)
    (xs : List α) (good : ∀ x ∈ xs, Good x) (collection : γ) {s : σ} {more : List ι}
    (ahead : cursor.rest s = xs.flatMap encode ++ more) :
    readLoop reader put xs.length collection s =
      .ok (xs.foldl put collection, cursor.advance s (xs.flatMap encode).length) := by
  induction xs generalizing collection s with
  | nil =>
      have still : cursor.advance s ([].flatMap encode).length = s := cursor.advance_zero s
      rw [still]
      rfl
  | cons x xs ih =>
      rw [List.flatMap_cons, List.append_assoc] at ahead
      have goodRest : ∀ y ∈ xs, Good y := fun y mem => good y (List.mem_cons_of_mem x mem)
      rw [List.length_cons, readLoop, decodes.run_bind (good x List.mem_cons_self) ahead,
        ih goodRest _ (Cursor.rest_advance _ ahead), cursor.advance_add, List.flatMap_cons,
        List.length_append, List.foldl_cons]

/-- Putting items at the end one by one is putting the list of them at the end. -/
theorem foldl_concat (xs : List α) (collection : List α) :
    xs.foldl (fun items x => items ++ [x]) collection = collection ++ xs := by
  induction xs generalizing collection with
  | nil => exact (List.append_nil collection).symm
  | cons x xs ih => rw [List.foldl_cons, ih, List.append_assoc, List.singleton_append]

end Decode
