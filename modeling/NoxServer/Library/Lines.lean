import Mathlib.Data.List.Basic

/-!
Lines of a stream that comes in pieces.

An element may end a line. `cut` gives the lines that are complete in a list and what is behind the
last one, and `feed` cuts one piece after another, each behind what was left of those before it.
How the stream is cut into pieces does not matter (`feed_flatten`).
-/

namespace Lines

variable {α : Type*} (ends : α → Bool)

/-- The complete lines of a list, and what is behind them; `line` is what came before the list. -/
def cut (line : List α) : List α → List (List α) × List α
  | [] => ([], line)
  | x :: rest =>
      if ends x then
        let more := cut [] rest
        (line :: more.1, more.2)
      else cut (line ++ [x]) rest

def feed (line : List α) : List (List α) → List (List α) × List α
  | [] => ([], line)
  | piece :: pieces =>
      let first := cut ends line piece
      let more := feed first.2 pieces
      (first.1 ++ more.1, more.2)

variable {ends}

theorem cut_append (line first second : List α) :
    cut ends line (first ++ second) =
      ((cut ends line first).1 ++ (cut ends (cut ends line first).2 second).1,
        (cut ends (cut ends line first).2 second).2) := by
  induction first generalizing line with
  | nil => rfl
  | cons x rest ih =>
      rw [List.cons_append, cut, cut]
      by_cases isEnd : ends x = true
      · simp only [if_pos isEnd, ih, List.cons_append]
      · simp only [if_neg isEnd, ih]

/-- The lines of a stream do not depend on its pieces. -/
theorem feed_flatten (line : List α) (pieces : List (List α)) :
    feed ends line pieces = cut ends line pieces.flatten := by
  induction pieces generalizing line with
  | nil => rfl
  | cons piece pieces ih => rw [feed, List.flatten_cons, cut_append, ih]

end Lines
