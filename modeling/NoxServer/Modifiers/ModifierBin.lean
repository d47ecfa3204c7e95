import NoxServer.Library.CString
import NoxServer.Library.Consume
import NoxServer.Shared.Errors

/-!
`ModifierBin` (`Modifierbin.cpp`, `Modifierbin.h`): the loading of modifier.bin.

The text is a list of sections, which have a title and a list of objects, which have a name and a
list of properties. Each of them is a line, and each list ends with a line END. The three loops of
`Load_Modifier` share the stream, the line buffer, and one section, one object and one property.

`Parser` says what a line means by itself: it opens the next level, or closes the innermost one.
The loops do what the lines mean one after another (`sectionLoop_run`).
-/

namespace NoxServer.ModifierBin

open CString

/-! ### Lines -/

def isChar (c : UInt8) : Bool := 0x20 ≤ c && c ≤ 0x7E

def isCharw (c : UInt8) : Bool := 0x20 < c && c ≤ 0x7E

def strcws (string : List UInt8) (removespaces : Bool := false) : List UInt8 :=
  if removespaces then compact isCharw string else compact isChar string

def strrc (string : List UInt8) (remove : UInt8) : List UInt8 := compact (· ≠ remove) string

/-- A `stringstream`, by the characters that have not been read. -/
structure StringStream where
  rest : List UInt8
  eof : Bool := false
  fail : Bool := false

/-- `getline(buff, n)`. The line is in an array of at least `n` characters afterwards. -/
def StringStream.getline (rdr : StringStream) (buff : List UInt8) (n : Nat) :
    List UInt8 × StringStream :=
  if rdr.eof || rdr.fail then (write buff [], { rdr with fail := true })
  else
    let line := rdr.rest.takeWhile (· ≠ 0x0A)
    if line.length < n then
      match rdr.rest.drop line.length with
      | [] => (write buff line, { rest := [], eof := true, fail := line.isEmpty })
      | _ :: rest => (write buff line, { rest })
    else (write buff (line.take (n - 1)), { rest := rdr.rest.drop (n - 1), fail := true })

def END : List UInt8 := [0x45, 0x4E, 0x44]

def testEnd (buff : List UInt8) : Bool := (text buff).dropWhile (!isCharw ·) ≠ END

/-! ### The list -/

/-- `ModProperty`, by the strings in its arrays. -/
structure ModProperty where
  ident : List UInt8 := []
  value : List UInt8 := []
  deriving DecidableEq

structure MOD_OBJ where
  objectName : List UInt8 := []
  properties : List ModProperty := []
  deriving DecidableEq

structure MOD_LIST where
  sectionTitle : List UInt8 := []
  elementList : List MOD_OBJ := []
  deriving DecidableEq

/-- `strcpy` into an array of `size` characters. -/
def strcpy (size : Nat) (string : List UInt8) : Except Fault (List UInt8) :=
  if string.length < size then .ok string else .error .outOfBounds

/-- What `Load` copies: a token, if there is one. -/
def copyToken (tes : Option (List UInt8)) (string : List UInt8) : Except Fault (List UInt8) :=
  match tes with
  | some tes => strcpy 0x50 tes
  | none => .ok string

def delims : List UInt8 := [0x20, 0x3D]

/-- `ModProperty::Load`. Nothing looks at the line after `strtok` has cut it. -/
def ModProperty.load (prop : ModProperty) (string : List UInt8) : Except Fault ModProperty := do
  let (tes, string) := strtok delims string
  let ident ← copyToken tes prop.ident
  let (tes, _) := strtok delims string
  let value ← copyToken tes prop.value
  return { ident, value }

/-- What has been loaded: `ModifierList`, and `list`, `obj` and `prop`. -/
structure Tree where
  modifierList : List MOD_LIST := []
  list : MOD_LIST := {}
  obj : MOD_OBJ := {}
  prop : ModProperty := {}

/-- What `Load_Modifier` works on. -/
structure Loading where
  rdr : StringStream
  buff2 : List UInt8
  tree : Tree

/-- A part of `Load_Modifier`. -/
abbrev Load := StateT Loading (Except Fault)

def getString : Load Bool := do
  let s ← get
  if s.rdr.eof then return false
  else
    let (buff, rdr) := s.rdr.getline s.buff2 255
    set { s with rdr, buff2 := strrc (strcws buff) 0x3B }
    return !rdr.fail

/-- A loop up to END, that ignores null lines. Each of its turns but the last reads something, so
that it makes no more turns than there are characters, and one. -/
def eachLine (body : Load Unit) : Nat → Load Unit
  | 0 => throw .outOfBounds
  | turns + 1 => do
      let more ← getString
      let s ← get
      if more && testEnd s.buff2 then
        if text s.buff2 = [] then eachLine body turns
        else
          body
          eachLine body turns
      else return

/-- The loop for as long as there are lines. -/
def lineLoop (body : Load Unit) : Load Unit := do
  let s ← get
  eachLine body (s.rdr.rest.length + 1)

/-- What is loaded is changed. -/
def modifyTree (change : Tree → Tree) : Load Unit :=
  modify fun s => { s with tree := change s.tree }

/-- `prop.Load(buff2)` and `obj.Properties.push_back(prop)`. -/
def loadProperty : Load Unit := do
  let s ← get
  let prop ← liftM (s.tree.prop.load (text s.buff2))
  modifyTree fun t => { t with
    prop, obj := { t.obj with properties := t.obj.properties ++ [prop] } }

/-- `list.ElementList.push_back(obj)` and `obj.Properties.clear()`. -/
def Tree.closeObject (t : Tree) : Tree := { t with
  list := { t.list with elementList := t.list.elementList ++ [t.obj] }
  obj := { t.obj with properties := [] } }

/-- `ModifierList.push_back(list)` and `list.ElementList.clear()`. -/
def Tree.closeSection (t : Tree) : Tree := { t with
  modifierList := t.modifierList ++ [t.list]
  list := { t.list with elementList := [] } }

/-- The innermost loop, with what is before and behind it. -/
def loadObject : Load Unit := do
  let s ← get
  let objectName ← liftM (strcpy 0x50 (text s.buff2))
  modifyTree fun t => { t with obj := { t.obj with objectName } }
  lineLoop loadProperty
  modifyTree Tree.closeObject

/-- The loop in the middle, with what is before and behind it. -/
def loadSection : Load Unit := do
  let s ← get
  let sectionTitle ← liftM (strcpy 0x50 (text s.buff2))
  modifyTree fun t => { t with list := { t.list with sectionTitle } }
  lineLoop loadObject
  modifyTree Tree.closeSection

/-- `Load_Modifier`, with what `buff2` has in it to begin with. -/
def loadModifier (buff2 buff : List UInt8) (modifierList : List MOD_LIST) :
    Except Fault (List MOD_LIST) := do
  let (_, s) ← (lineLoop loadSection) ⟨{ rest := text buff }, buff2, { modifierList }⟩
  return s.tree.modifierList

/-! ### What a line means -/

/-- What `buff2` has of a line. -/
def clean (line : List UInt8) : List UInt8 := (line.filter isChar).filter (· ≠ 0x3B)

/-- The property that `Load` makes of a line. -/
def ModProperty.loaded (prop : ModProperty) (string : List UInt8) : ModProperty :=
  let (first, string) := strtok delims string
  { ident := first.getD prop.ident, value := (strtok delims string).1.getD prop.value }

/-- The lists that are open: none after the last END, the one of sections, that of the objects of a
section, and that of the properties of an object. -/
inductive Level where
  | ended
  | sections
  | objects
  | properties
  deriving DecidableEq

/-- What is open and what has been loaded. -/
structure Parser where
  level : Level
  tree : Tree

namespace Parser

/-- A line with a title, a name or a property. -/
def content (p : Parser) (string : List UInt8) : Parser :=
  let t := p.tree
  match p.level with
  | .ended => p
  | .sections => ⟨.objects, { t with list := { t.list with sectionTitle := string } }⟩
  | .objects => ⟨.properties, { t with obj := { t.obj with objectName := string } }⟩
  | .properties =>
      let prop := t.prop.loaded string
      ⟨.properties, { t with
        prop, obj := { t.obj with properties := t.obj.properties ++ [prop] } }⟩

def stop (p : Parser) : Parser :=
  match p.level with
  | .ended => p
  | .sections => ⟨.ended, p.tree⟩
  | .objects => ⟨.sections, p.tree.closeSection⟩
  | .properties => ⟨.objects, p.tree.closeObject⟩

def isEnd (string : List UInt8) : Bool := string.dropWhile (!isCharw ·) = END

/-- A line, as it is in `buff2`. -/
def step (p : Parser) (string : List UInt8) : Parser :=
  if isEnd string then p.stop else if string = [] then p else p.content string

/-- What is open at the end of the text is closed. -/
def close (p : Parser) : Tree :=
  match p.level with
  | .ended | .sections => p.tree
  | .objects => p.tree.closeSection
  | .properties => p.tree.closeObject.closeSection

theorem close_stop (p : Parser) : p.stop.close = p.close := by
  obtain ⟨level, tree⟩ := p
  cases level <;> rfl

end Parser

/-- A line of the text. -/
structure Line where
  bytes : List UInt8
  short : bytes.length < 80
  inLine : ∀ c ∈ bytes, c ≠ 0 ∧ c ≠ 0x0A

/-- The lines mean something one after another. -/
def Parser.lines (p : Parser) (lines : List Line) : Parser :=
  lines.foldl (fun p line => p.step (clean line.bytes)) p

/-- What is loaded from some lines. -/
def finish (p : Parser) (lines : List Line) : Tree := (p.lines lines).close

theorem lines_ended (tree : Tree) (lines : List Line) :
    Parser.lines ⟨.ended, tree⟩ lines = ⟨.ended, tree⟩ := by
  induction lines with
  | nil => rfl
  | cons line lines ih =>
      have same : Parser.step ⟨.ended, tree⟩ (clean line.bytes) = ⟨.ended, tree⟩ := by
        unfold Parser.step
        split
        · rfl
        · split <;> rfl
      rw [Parser.lines, List.foldl_cons, same]
      exact ih

/-! ### Reading a line -/

/-- The text of some lines. -/
def unlines (lines : List Line) : List UInt8 := lines.flatMap fun line => line.bytes ++ [0x0A]

/-- The lines that the stream has still to read. -/
def Ahead (rdr : StringStream) (lines : List Line) : Prop :=
  rdr = { rest := unlines lines } ∨ lines = [] ∧ rdr.eof = true

theorem noNul_filter {string : List UInt8} (noNul : 0 ∉ string) (keep : UInt8 → Bool) :
    0 ∉ string.filter keep := fun mem => noNul (List.mem_of_mem_filter mem)

/-- `strcws` and `strrc` leave in the array what is left of the line. -/
theorem text_strrc_strcws {string : List UInt8} (noNul : 0 ∉ string) (buff : List UInt8) :
    text (strrc (strcws (write buff string)) 0x3B) = clean string := by
  obtain ⟨tail, printable⟩ := compact_append isChar noNul
    (buff.drop (string.length + 1))
  obtain ⟨tail', rest⟩ := compact_append (· ≠ 0x3B) (noNul_filter noNul isChar) tail
  have cleaned : strrc (strcws (write buff string)) 0x3B = clean string ++ 0 :: tail' := by
    rw [strrc, strcws, write]
    exact (congrArg _ printable).trans rest
  rw [cleaned]
  exact text_append (noNul_filter (noNul_filter noNul _) _) tail'

theorem getline_line (line : Line) (lines : List Line) (buff : List UInt8) :
    StringStream.getline { rest := unlines (line :: lines) } buff 255 =
      (write buff line.bytes, { rest := unlines lines }) := by
  have whole : unlines (line :: lines) = line.bytes ++ 0x0A :: unlines lines := by
    rw [unlines, List.flatMap_cons, List.append_assoc]
    rfl
  have taken : (line.bytes ++ 0x0A :: unlines lines).takeWhile (· ≠ 0x0A) = line.bytes := by
    rw [List.takeWhile_append_of_pos, List.takeWhile_cons_of_neg, List.append_nil]
    · simp
    · intro c mem
      simpa using (line.inLine c mem).2
  have fits : line.bytes.length < 255 := Nat.lt_trans line.short (by decide)
  rw [whole]
  refine (if_neg Bool.false_ne_true).trans ?_
  simp only [taken, if_pos fits, List.drop_left]

theorem getString_line {s : Loading} (line : Line) (lines : List Line)
    (ahead : s.rdr = { rest := unlines (line :: lines) }) :
    ∃ buff2, getString s = .ok (true, { s with rdr := { rest := unlines lines }, buff2 }) ∧
      text buff2 = clean line.bytes := by
  refine ⟨_, ?_, text_strrc_strcws (fun mem => (line.inLine 0 mem).1 rfl) s.buff2⟩
  obtain ⟨rdr, buff2, tree⟩ := s
  subst ahead
  rw [getString, Consume.run_bind_ok rfl, if_neg Bool.false_ne_true]
  simp only [getline_line]
  rfl

theorem getString_none {s : Loading} (ahead : Ahead s.rdr []) :
    ∃ s', getString s = .ok (false, s') ∧ Ahead s'.rdr [] ∧ s'.tree = s.tree := by
  obtain ⟨rdr, buff2, tree⟩ := s
  rcases ahead with start | ⟨-, eof⟩
  · obtain rfl : rdr = ⟨[], false, false⟩ := start
    exact ⟨_, rfl, .inr ⟨rfl, rfl⟩, rfl⟩
  · refine ⟨⟨rdr, buff2, tree⟩, ?_, .inr ⟨rfl, eof⟩, rfl⟩
    rw [getString, Consume.run_bind_ok rfl, if_pos eof]
    rfl

/-! ### The loops -/

/-- The body of a loop does what its line, and the lines that it reads, mean. -/
def Means (level : Level) (body : Load Unit) : Prop :=
  ∀ s lines, Ahead s.rdr lines → (text s.buff2).length < 80 →
    ∃ s' lines', body s = .ok ((), s') ∧ Ahead s'.rdr lines' ∧ lines'.length ≤ lines.length ∧
      finish ⟨level, s'.tree⟩ lines' = finish (Parser.content ⟨level, s.tree⟩ (text s.buff2)) lines

theorem clean_length (line : Line) : (clean line.bytes).length < 80 :=
  Nat.lt_of_le_of_lt (Nat.le_trans (List.length_filter_le _ _) (List.length_filter_le _ _))
    line.short

theorem testEnd_eq (buff : List UInt8) : testEnd buff = !Parser.isEnd (text buff) :=
  decide_not

theorem finish_cons (p : Parser) (line : Line) (lines : List Line) :
    finish p (line :: lines) = finish (p.step (clean line.bytes)) lines := rfl

/-- A loop over lines whose body means what the parser does at this level means what the parser does
with all of the lines, up to the line that ends the level. -/
theorem eachLine_run {level : Level} {body : Load Unit} (means : Means level body) {s : Loading}
    {lines : List Line} {turns : Nat} (enough : lines.length < turns)
    (ahead : Ahead s.rdr lines) :
    ∃ s' lines', eachLine body turns s = .ok ((), s') ∧ Ahead s'.rdr lines' ∧
      lines'.length ≤ lines.length ∧
      finish (Parser.stop ⟨level, s'.tree⟩) lines' = finish ⟨level, s.tree⟩ lines := by
  induction turns generalizing s lines with
  | zero => exact absurd enough (Nat.not_lt_zero _)
  | succ turns ih =>
      cases lines with
      | nil =>
          obtain ⟨s', run, ahead', same⟩ := getString_none ahead
          refine ⟨s', [], ?_, ahead', Nat.le_refl _, ?_⟩
          · rw [eachLine, Consume.run_bind_ok run]
            rfl
          · rw [same]
            exact Parser.close_stop _
      | cons line lines =>
          have start := ahead.resolve_right fun ended => nomatch ended.1
          obtain ⟨buff2, read, string⟩ := getString_line line lines start
          have later : lines.length < turns := Nat.lt_of_succ_lt_succ enough
          have more : lines.length ≤ (line :: lines).length := Nat.le_succ _
          rw [eachLine, Consume.run_bind_ok read, Consume.run_bind_ok rfl, Bool.true_and,
            testEnd_eq, string, finish_cons, Parser.step]
          cases last : Parser.isEnd (clean line.bytes) with
          | true => exact ⟨_, lines, rfl, .inl rfl, more, rfl⟩
          | false =>
              rw [Bool.not_false, if_pos rfl, if_neg Bool.false_ne_true]
              by_cases null : clean line.bytes = []
              · obtain ⟨s', lines', run, ahead', fewer, same⟩ := ih (s := { s with
                  rdr := { rest := unlines lines }, buff2 }) later (.inl rfl)
                rw [if_pos null, if_pos null]
                exact ⟨s', lines', run, ahead', Nat.le_trans fewer more, same⟩
              · obtain ⟨s₁, lines₁, run₁, ahead₁, fewer₁, same₁⟩ := means { s with
                  rdr := { rest := unlines lines }, buff2 } lines (.inl rfl)
                  (string ▸ clean_length line)
                obtain ⟨s', lines', run, ahead', fewer, same⟩ :=
                  ih (Nat.lt_of_le_of_lt fewer₁ later) ahead₁
                rw [if_neg null, if_neg null, Consume.run_bind_ok run₁]
                refine ⟨s', lines', run, ahead', Nat.le_trans fewer (Nat.le_trans fewer₁ more), ?_⟩
                rw [same, same₁, string]

theorem length_le_unlines (lines : List Line) : lines.length ≤ (unlines lines).length := by
  induction lines with
  | nil => exact Nat.le_refl _
  | cons line lines ih =>
      rw [unlines, List.flatMap_cons, List.length_append, List.length_append, List.length_cons,
        List.length_singleton]
      rw [unlines] at ih
      omega

theorem lineLoop_run {level : Level} {body : Load Unit} (means : Means level body) {s : Loading}
    {lines : List Line} (ahead : Ahead s.rdr lines) :
    ∃ s' lines', lineLoop body s = .ok ((), s') ∧ Ahead s'.rdr lines' ∧
      lines'.length ≤ lines.length ∧
      finish (Parser.stop ⟨level, s'.tree⟩) lines' = finish ⟨level, s.tree⟩ lines := by
  have enough : lines.length < s.rdr.rest.length + 1 := by
    rcases ahead with start | ⟨rfl, -⟩
    · rw [start]
      exact Nat.lt_succ_of_le (length_le_unlines lines)
    · exact Nat.succ_pos _
  obtain ⟨s', lines', run, rest⟩ := eachLine_run means enough ahead
  refine ⟨s', lines', ?_, rest⟩
  rw [lineLoop, Consume.run_bind_ok rfl]
  exact run

theorem strcpy_run {string : List UInt8} (short : string.length < 80) (s : Loading) :
    (liftM (strcpy 0x50 string) : Load _) s = .ok (string, s) := by
  rw [strcpy, if_pos short]
  rfl

theorem copyToken_run {string : List UInt8} (short : string.length < 80) (old : List UInt8) :
    copyToken (strtok delims string).1 old = .ok ((strtok delims string).1.getD old) := by
  cases token : (strtok delims string).1 with
  | none => rfl
  | some tes =>
      have shorter := (strtok_le delims string).1 tes token
      rw [copyToken, strcpy, if_pos (Nat.lt_of_le_of_lt shorter short)]
      rfl

theorem load_run (prop : ModProperty) {string : List UInt8} (short : string.length < 80) :
    prop.load string = .ok (prop.loaded string) := by
  rw [ModProperty.load]
  have first := copyToken_run short prop.ident
  have second := copyToken_run (Nat.lt_of_le_of_lt ((strtok_le delims string).2) short) prop.value
  simp only [first, second]
  rfl

theorem loadProperty_means : Means .properties loadProperty := by
  intro s lines ahead short
  have loaded : (liftM (s.tree.prop.load (text s.buff2)) : Load _) s =
      .ok (s.tree.prop.loaded (text s.buff2), s) := by
    rw [load_run _ short]
    rfl
  refine ⟨{ s with tree := (Parser.content ⟨.properties, s.tree⟩ (text s.buff2)).tree }, lines, ?_,
    ahead, Nat.le_refl _, rfl⟩
  rw [loadProperty, Consume.run_bind_ok rfl, Consume.run_bind_ok loaded]
  rfl

theorem loadObject_means : Means .objects loadObject := by
  intro s lines ahead short
  obtain ⟨s', lines', run, ahead', fewer, same⟩ := lineLoop_run loadProperty_means
    (s := { s with tree := { s.tree with obj := { s.tree.obj with objectName := text s.buff2 } } })
    ahead
  refine ⟨{ s' with tree := s'.tree.closeObject }, lines', ?_, ahead', fewer, same⟩
  rw [loadObject, Consume.run_bind_ok rfl, Consume.run_bind_ok (strcpy_run short s),
    Consume.run_bind_ok rfl, Consume.run_bind_ok run]
  rfl

theorem loadSection_means : Means .sections loadSection := by
  intro s lines ahead short
  obtain ⟨s', lines', run, ahead', fewer, same⟩ := lineLoop_run loadObject_means
    (s := { s with tree := { s.tree with
      list := { s.tree.list with sectionTitle := text s.buff2 } } }) ahead
  refine ⟨{ s' with tree := s'.tree.closeSection }, lines', ?_, ahead', fewer, same⟩
  rw [loadSection, Consume.run_bind_ok rfl, Consume.run_bind_ok (strcpy_run short s),
    Consume.run_bind_ok rfl, Consume.run_bind_ok run]
  rfl

/-- `Load_Modifier` does what the lines mean one after another. -/
theorem loadModifier_run (lines : List Line) (buff2 tail : List UInt8)
    (modifierList : List MOD_LIST) :
    loadModifier buff2 (unlines lines ++ 0 :: tail) modifierList =
      .ok (finish ⟨.sections, { modifierList }⟩ lines).modifierList := by
  have noNul : 0 ∉ unlines lines := by
    intro mem
    obtain ⟨line, -, mem⟩ := List.mem_flatMap.mp mem
    rcases List.mem_append.mp mem with inside | newline
    · exact (line.inLine 0 inside).1 rfl
    · exact absurd (List.mem_singleton.mp newline) (by decide)
  obtain ⟨s', lines', run, -, -, same⟩ := lineLoop_run loadSection_means
    (s := ⟨{ rest := unlines lines }, buff2, { modifierList }⟩) (.inl rfl)
  rw [← same, Parser.stop, finish, lines_ended, loadModifier, text_append noNul, run]
  rfl

end NoxServer.ModifierBin
