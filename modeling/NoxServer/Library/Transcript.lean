import Mathlib.Data.List.Basic

/-!
Records of events, and what must have come before an event.

A record is founded when each of its events has its grounds among those before it. A
record grows at its end, and stays founded when the new events have their grounds
(`Founded.append`). `Earlier` says that some events are in a record in a given order;
a longer record keeps them.
-/

namespace Transcript

variable {ε : Type} {grounds : List ε → ε → Prop}

/-- Every event of the record has its grounds in what came before it. -/
def Founded (grounds : List ε → ε → Prop) (record : List ε) : Prop :=
  ∀ before event after, record = before ++ event :: after → grounds before event

theorem founded_nil : Founded grounds [] := by
  intro before event after split
  simp at split

/-- New events whose grounds are there, in the old record or among themselves. -/
theorem Founded.append {record new : List ε} (founded : Founded grounds record)
    (added : ∀ before event after, new = before ++ event :: after →
      grounds (record ++ before) event) : Founded grounds (record ++ new) := by
  intro before event after split
  rcases List.append_eq_append_iff.mp split with ⟨more, rfl, rest⟩ | ⟨more, old, rest⟩
  · exact added more event after rest
  · cases more with
    | nil =>
        rw [List.append_nil] at old
        subst old
        exact List.append_nil record ▸ added [] event after rest.symm
    | cons first more =>
        obtain ⟨rfl, -⟩ := List.cons.inj rest
        exact founded before event more old

/-- New events that need no grounds. -/
theorem Founded.append_free {record new : List ε} (founded : Founded grounds record)
    (free : ∀ event ∈ new, ∀ before, grounds before event) :
    Founded grounds (record ++ new) :=
  founded.append fun _ _ _ split => free _ (split ▸ List.mem_append_right _ List.mem_cons_self) _

/-- The events are in the record in this order. -/
def Earlier (events record : List ε) : Prop := events.Sublist record

theorem Earlier.grow {events record : List ε} (earlier : Earlier events record)
    (new : List ε) : Earlier events (record ++ new) :=
  earlier.trans (List.sublist_append_left record new)

/-- Events in the record and then events after it. -/
theorem Earlier.append {events events' record new : List ε} (earlier : Earlier events record)
    (later : Earlier events' new) : Earlier (events ++ events') (record ++ new) :=
  List.Sublist.append earlier later

end Transcript
