import Mathlib.Data.List.Basic

/-!
C strings in arrays of characters.

The string of an array is what stands before the first 0. A string is written with its terminator to
the start of an array (`write`), a loop over an array moves the characters that are kept to its
start (`compact`), and `strtok` takes the tokens of a string one after another.
-/

namespace CString

/-! ### Arrays -/

/-- The characters before the terminator. -/
def text (array : List UInt8) : List UInt8 := array.takeWhile (· ≠ 0)

/-- A string and its terminator at the start of an array. -/
def write (array string : List UInt8) : List UInt8 :=
  string ++ 0 :: array.drop (string.length + 1)

/-- The characters from `src` on that are kept are copied to `dest` and behind it, and then the
terminator. -/
def compactLoop (keep : UInt8 → Bool) : Nat → Nat → Nat → List UInt8 → List UInt8
  | 0, _, dest, array => array.set dest 0
  | count + 1, src, dest, array =>
      let c := array.getD src 0
      if keep c then compactLoop keep count (src + 1) (dest + 1) (array.set dest c)
      else compactLoop keep count (src + 1) dest array

/-- The string without the characters that are not kept, in place. -/
def compact (keep : UInt8 → Bool) (array : List UInt8) : List UInt8 :=
  compactLoop keep (text array).length 0 0 array

variable {string tail array : List UInt8} {keep : UInt8 → Bool}

theorem text_append (noNul : 0 ∉ string) (tail : List UInt8) :
    text (string ++ 0 :: tail) = string := by
  rw [text, List.takeWhile_append_of_pos, List.takeWhile_cons_of_neg, List.append_nil]
  · simp
  · intro c mem
    have nonzero : c ≠ 0 := fun zero => noNul (zero ▸ mem)
    simpa using nonzero

theorem set_append_cons (front : List UInt8) (old new : UInt8) (back : List UInt8) :
    (front ++ old :: back).set front.length new = front ++ new :: back := by
  rw [List.set_append_right _ _ (Nat.le_refl _), Nat.sub_self]
  rfl

/-- When a character is copied, those between what has been copied and what is still to be looked at
are as many as before. -/
theorem copy_append (front gap : List UInt8) (c : UInt8) (back : List UInt8) :
    ∃ gap', (front ++ (gap ++ c :: back)).set front.length c = front ++ [c] ++ (gap' ++ back) ∧
      gap'.length = gap.length := by
  cases gap with
  | nil =>
      refine ⟨[], ?_, rfl⟩
      rw [List.nil_append, set_append_cons, List.append_assoc]
      rfl
  | cons old gap =>
      refine ⟨gap ++ [c], ?_, List.length_append⟩
      rw [List.cons_append, set_append_cons, List.append_assoc, List.append_assoc]
      rfl

/-- Behind the characters that have been copied are some that are not needed any more, and then
those that are still to be looked at. -/
theorem compactLoop_run (ahead front gap tail : List UInt8) :
    ∃ tail', compactLoop keep ahead.length (front.length + gap.length) front.length
      (front ++ (gap ++ (ahead ++ 0 :: tail))) = front ++ ahead.filter keep ++ 0 :: tail' := by
  induction ahead generalizing front gap with
  | nil =>
      cases gap with
      | nil => exact ⟨tail, by simp [compactLoop]⟩
      | cons old gap => exact ⟨gap ++ 0 :: tail, by simp [compactLoop]⟩
  | cons c ahead ih =>
      have here : (front ++ (gap ++ (c :: ahead ++ 0 :: tail))).getD (front.length + gap.length) 0 =
          c := by
        rw [← List.append_assoc, ← List.length_append, List.getD_eq_getElem?_getD,
          List.getElem?_append_right (Nat.le_refl _), Nat.sub_self]
        rfl
      rw [List.length_cons, compactLoop, here]
      cases kept : keep c with
      | false =>
          obtain ⟨tail', run⟩ := ih front (gap ++ [c])
          refine ⟨tail', ?_⟩
          rw [List.filter_cons_of_neg (by simp [kept]), ← run]
          simp [Nat.add_assoc]
      | true =>
          obtain ⟨gap', copied, same⟩ := copy_append front gap c (ahead ++ 0 :: tail)
          obtain ⟨tail', run⟩ := ih (front ++ [c]) gap'
          refine ⟨tail', ?_⟩
          rw [same, List.length_append, List.length_singleton] at run
          rw [List.filter_cons_of_pos kept, if_pos rfl, List.cons_append, copied,
            Nat.add_right_comm, run, List.append_assoc front]
          rfl

/-- The string that is left has the characters that are kept. -/
theorem compact_append (keep : UInt8 → Bool) (noNul : 0 ∉ string) (tail : List UInt8) :
    ∃ tail', compact keep (string ++ 0 :: tail) = string.filter keep ++ 0 :: tail' := by
  rw [compact, text_append noNul]
  exact compactLoop_run string [] [] tail

/-! ### Tokens -/

/-- `strtok`: the next token, if there is one, and what is left of the string behind it. -/
def strtok (delims string : List UInt8) : Option (List UInt8) × List UInt8 :=
  match string.dropWhile (· ∈ delims) with
  | [] => (none, [])
  | c :: rest =>
      (some ((c :: rest).takeWhile (· ∉ delims)), ((c :: rest).dropWhile (· ∉ delims)).tail)

variable {delims token : List UInt8} {c : UInt8}

theorem strtok_nil (delims : List UInt8) : strtok delims [] = (none, []) := rfl

theorem strtok_skip (delim : c ∈ delims) (string : List UInt8) :
    strtok delims (c :: string) = strtok delims string := by
  unfold strtok
  rw [List.dropWhile_cons_of_pos (by simpa using delim)]

/-- A token goes up to the next delimiter or the end. -/
theorem strtok_token (nonempty : token ≠ []) (apart : ∀ c ∈ token, c ∉ delims) (rest : List UInt8)
    (stop : ∀ c ∈ rest.head?, c ∈ delims) :
    strtok delims (token ++ rest) = (some token, rest.tail) := by
  cases token with
  | nil => exact absurd rfl nonempty
  | cons first token =>
      have starts : (first :: token ++ rest).dropWhile (· ∈ delims) = first :: token ++ rest :=
        List.dropWhile_cons_of_neg (by simpa using apart first List.mem_cons_self)
      have all : ∀ c ∈ first :: token, decide (c ∉ delims) = true := fun c mem => by
        simpa using apart c mem
      have before : rest.takeWhile (· ∉ delims) = [] ∧ rest.dropWhile (· ∉ delims) = rest := by
        cases rest with
        | nil => exact ⟨rfl, rfl⟩
        | cons delim rest =>
            have delim_mem := stop delim rfl
            exact ⟨List.takeWhile_cons_of_neg (by simpa using delim_mem),
              List.dropWhile_cons_of_neg (by simpa using delim_mem)⟩
      rw [strtok, starts]
      change (some ((first :: token ++ rest).takeWhile _),
        ((first :: token ++ rest).dropWhile _).tail) = _
      rw [List.takeWhile_append_of_pos all, List.dropWhile_append_of_pos all, before.1, before.2,
        List.append_nil]

theorem strtok_le (delims string : List UInt8) :
    (∀ token ∈ (strtok delims string).1, token.length ≤ string.length) ∧
      (strtok delims string).2.length ≤ string.length := by
  have start := (List.dropWhile_suffix (· ∈ delims) (l := string)).length_le
  unfold strtok
  split
  · exact ⟨nofun, Nat.zero_le _⟩
  · next c rest behind =>
      rw [behind] at start
      refine ⟨?_, ?_⟩
      · rintro token ⟨⟩
        exact Nat.le_trans (List.takeWhile_prefix _).length_le start
      · rw [List.length_tail]
        have shorter := (List.dropWhile_suffix (· ∉ delims) (l := c :: rest)).length_le
        omega

/-! ### The first token in place -/

/-- The delimiters before the first token. -/
def leading (delims string : List UInt8) : List UInt8 := string.takeWhile (· ∈ delims)

/-- The first token; empty where there is none. -/
def firstToken (delims string : List UInt8) : List UInt8 :=
  (string.dropWhile (· ∈ delims)).takeWhile (· ∉ delims)

/-- What follows the first token, its delimiter first. -/
def behind (delims string : List UInt8) : List UInt8 :=
  (string.dropWhile (· ∈ delims)).dropWhile (· ∉ delims)

/-- `strtok` of an array: where the token starts, and the array with a terminator behind it. -/
def strtokIn (delims array : List UInt8) : Option Nat × List UInt8 :=
  let start := (leading delims (text array)).length
  let stop := start + (firstToken delims (text array)).length
  (if start < (text array).length then some start else none,
    if stop < (text array).length then array.set stop 0 else array)

theorem leading_append (delims string : List UInt8) :
    leading delims string ++ firstToken delims string ++ behind delims string = string := by
  rw [List.append_assoc, firstToken, behind, List.takeWhile_append_dropWhile, leading,
    List.takeWhile_append_dropWhile]

theorem notMem_of_dropWhile {string rest : List UInt8}
    (from_here : string.dropWhile (· ∈ delims) = c :: rest) : c ∉ delims := by
  have head := List.head?_dropWhile_not (· ∈ delims) string
  rw [from_here] at head
  simpa using head

theorem firstToken_eq_nil {delims string : List UInt8} (none : firstToken delims string = []) :
    behind delims string = [] := by
  rw [firstToken] at none
  rw [behind]
  cases rest : string.dropWhile (· ∈ delims) with
  | nil => rfl
  | cons c rest' =>
      have outside := notMem_of_dropWhile rest
      rw [rest, List.takeWhile_cons_of_pos (by simpa using outside)] at none
      cases none

/-- The token `strtok` gives is the first one. -/
theorem strtok_fst (delims string : List UInt8) :
    (strtok delims string).1 =
      if firstToken delims string = [] then none else some (firstToken delims string) := by
  rw [strtok, firstToken]
  cases rest : string.dropWhile (· ∈ delims) with
  | nil => rfl
  | cons c rest' =>
      have outside := notMem_of_dropWhile rest
      have token : (c :: rest').takeWhile (· ∉ delims) ≠ [] := by
        rw [List.takeWhile_cons_of_pos (by simpa using outside)]
        exact List.cons_ne_nil _ _
      rw [if_neg token]

/-- The array with the first token of its string closed. -/
def closed (delims string tail : List UInt8) : List UInt8 :=
  leading delims string ++ firstToken delims string ++
    0 :: match behind delims string with
      | [] => tail
      | _ :: more => more ++ 0 :: tail

/-- `strtok` gives the first token of the text before the NUL, whatever is behind it, and writes a
NUL behind the token. -/
theorem strtokIn_append (delims : List UInt8) (noNul : 0 ∉ string) (tail : List UInt8)
    (token : firstToken delims string ≠ []) :
    strtokIn delims (string ++ 0 :: tail) =
      (some (leading delims string).length, closed delims string tail) := by
  have whole := leading_append delims string
  have length := congrArg List.length whole
  rw [List.length_append, List.length_append] at length
  have some_token := List.length_pos_iff.mpr token
  rw [strtokIn, text_append noNul, if_pos (by omega)]
  congr 1
  rw [closed]
  cases rest : behind delims string with
  | nil =>
      rw [rest, List.append_nil] at whole
      rw [rest, List.length_nil] at length
      rw [if_neg (by omega), whole]
  | cons c more =>
      rw [rest, List.length_cons] at length
      rw [if_pos (by omega), ← List.length_append]
      rw [rest] at whole
      have split : string ++ 0 :: tail =
          leading delims string ++ firstToken delims string ++ c :: (more ++ 0 :: tail) := by
        rw [← List.cons_append, ← List.append_assoc, whole]
      rw [split, set_append_cons]

theorem strtokIn_none (delims : List UInt8) (noNul : 0 ∉ string) (tail : List UInt8)
    (token : firstToken delims string = []) :
    strtokIn delims (string ++ 0 :: tail) = (none, string ++ 0 :: tail) := by
  have whole := leading_append delims string
  rw [token, firstToken_eq_nil token, List.append_nil, List.append_nil] at whole
  rw [strtokIn, text_append noNul, token, whole, if_neg (Nat.lt_irrefl _), List.length_nil,
    Nat.add_zero, if_neg (Nat.lt_irrefl _)]

end CString
