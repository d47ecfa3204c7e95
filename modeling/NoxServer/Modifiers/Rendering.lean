import Mathlib.Data.List.TakeWhile
import NoxServer.Modifiers.ModifierBin

/-!
The text of a modifier.bin.

A `ModifierText` is a tree of sections, objects and properties, with the blank lines that are
between its lines. What the loader makes of the text differs from the tree in two ways: a property
without a value gets the last value before it, and a blank line with a space in it is a title, a
name or a property (`loadModifier_iff`).
-/

namespace NoxServer.ModifierBin

open CString

/-! ### Texts -/

/-- A title, a name, an identifier or a value. -/
structure Word where
  bytes : List UInt8
  nonempty : bytes ≠ []
  plain : ∀ c ∈ bytes, isCharw c ∧ c ≠ 0x3D ∧ c ≠ 0x3B
  not_end : bytes ≠ END

/-- A line of white space. -/
structure Blank extends Line where
  white : ∀ c ∈ bytes, c = 0x20 ∨ 0x09 ≤ c ∧ c ≤ 0x0D

/-- The line with a title or a name, and the blank lines before it. -/
structure Heading where
  blanks : List Blank
  word : Word
  short : word.bytes.length < 80

/-- 'ident = value;' or 'ident;'. -/
def propertyBytes (ident : Word) (value : Option Word) : List UInt8 :=
  match value with
  | some value => ident.bytes ++ ([0x20, 0x3D, 0x20] ++ (value.bytes ++ [0x3B]))
  | none => ident.bytes ++ [0x3B]

/-- The line with a property, and the blank lines before it. -/
structure PropertyText where
  blanks : List Blank
  ident : Word
  value : Option Word
  short : (propertyBytes ident value).length < 80

/-- The lines of an object, with the blank lines before its END. -/
structure ObjectText where
  heading : Heading
  properties : List PropertyText
  closing : List Blank

/-- The lines of a section, with the blank lines before its END. -/
structure SectionText where
  heading : Heading
  objects : List ObjectText
  closing : List Blank

/-- The lines of a file, with the blank lines before the last END and behind it. -/
structure ModifierText where
  sections : List SectionText
  closing : List Blank
  after : List Blank

theorem isCharw_inLine {c : UInt8} (printable : isCharw c) : c ≠ 0 ∧ c ≠ 0x0A := by
  constructor
  · rintro rfl
    exact absurd printable (by decide)
  · rintro rfl
    exact absurd printable (by decide)

theorem Word.inLine (word : Word) : ∀ c ∈ word.bytes, c ≠ 0 ∧ c ≠ 0x0A :=
  fun c mem => isCharw_inLine (word.plain c mem).1

def Heading.line (heading : Heading) : Line :=
  ⟨heading.word.bytes, heading.short, heading.word.inLine⟩

def PropertyText.line (p : PropertyText) : Line where
  bytes := propertyBytes p.ident p.value
  short := p.short
  inLine := by
    intro c mem
    cases value : p.value with
    | none =>
        rw [value, propertyBytes, List.mem_append] at mem
        rcases mem with mem | mem
        · exact p.ident.inLine c mem
        · rw [List.mem_singleton.mp mem]
          decide
    | some word =>
        rw [value, propertyBytes, List.mem_append, List.mem_append, List.mem_append] at mem
        rcases mem with mem | mem | mem | mem
        · exact p.ident.inLine c mem
        · simp only [List.mem_cons, List.not_mem_nil, or_false] at mem
          rcases mem with rfl | rfl | rfl <;> decide
        · exact word.inLine c mem
        · rw [List.mem_singleton.mp mem]
          decide

def endLine : Line :=
  ⟨END, by decide, fun c mem =>
    isCharw_inLine (List.all_eq_true.mp (show END.all isCharw from rfl) c mem)⟩

def blankLines (blanks : List Blank) : List Line := blanks.map Blank.toLine

def Heading.lines (heading : Heading) : List Line := blankLines heading.blanks ++ [heading.line]

def PropertyText.lines (p : PropertyText) : List Line := blankLines p.blanks ++ [p.line]

def ObjectText.lines (o : ObjectText) : List Line :=
  o.heading.lines ++
    (o.properties.flatMap PropertyText.lines ++ (blankLines o.closing ++ [endLine]))

def SectionText.lines (sec : SectionText) : List Line :=
  sec.heading.lines ++
    (sec.objects.flatMap ObjectText.lines ++ (blankLines sec.closing ++ [endLine]))

/-- The lines up to the last END. -/
def ModifierText.openLines (t : ModifierText) : List Line :=
  t.sections.flatMap SectionText.lines ++ blankLines t.closing

def ModifierText.lines (t : ModifierText) : List Line :=
  t.openLines ++ endLine :: blankLines t.after

/-! ### Trees -/

def PropertyText.tree (p : PropertyText) : ModProperty :=
  ⟨p.ident.bytes, (p.value.map Word.bytes).getD []⟩

def ObjectText.tree (o : ObjectText) : MOD_OBJ :=
  ⟨o.heading.word.bytes, o.properties.map PropertyText.tree⟩

def SectionText.tree (sec : SectionText) : MOD_LIST :=
  ⟨sec.heading.word.bytes, sec.objects.map ObjectText.tree⟩

def ModifierText.tree (t : ModifierText) : List MOD_LIST := t.sections.map SectionText.tree

def SectionText.properties (sec : SectionText) : List PropertyText :=
  sec.objects.flatMap ObjectText.properties

/-- All properties, in the order of their lines. -/
def ModifierText.properties (t : ModifierText) : List PropertyText :=
  t.sections.flatMap SectionText.properties

def ObjectText.blanks (o : ObjectText) : List Blank :=
  o.heading.blanks ++ (o.properties.flatMap PropertyText.blanks ++ o.closing)

def SectionText.blanks (sec : SectionText) : List Blank :=
  sec.heading.blanks ++ (sec.objects.flatMap ObjectText.blanks ++ sec.closing)

/-- The blank lines up to the last END. -/
def ModifierText.openBlanks (t : ModifierText) : List Blank :=
  t.sections.flatMap SectionText.blanks ++ t.closing

/-! ### What the lines are -/

/-- The line is neither null nor END. -/
def isContent (line : Line) : Bool := !Parser.isEnd (clean line.bytes) && clean line.bytes ≠ []

variable {p : Parser}

theorem step_content {line : Line} (content : isContent line) :
    p.step (clean line.bytes) = p.content (clean line.bytes) := by
  obtain ⟨going, some⟩ := Bool.and_eq_true_iff.mp content
  rw [Parser.step, if_neg (by simpa using going), if_neg (by simpa using some)]

theorem mem_clean {c : UInt8} {bytes : List UInt8} (mem : c ∈ clean bytes) :
    c ∈ bytes ∧ isChar c :=
  List.mem_filter.mp (List.mem_of_mem_filter mem)

/-- A blank line has its spaces left. -/
theorem Blank.clean_spaces (blank : Blank) : ∀ c ∈ clean blank.bytes, c = 0x20 := by
  intro c mem
  obtain ⟨inside, printable⟩ := mem_clean mem
  refine (blank.white c inside).resolve_right fun low => ?_
  have high : (0x20 : UInt8) ≤ c := of_decide_eq_true (Bool.and_eq_true_iff.mp printable).1
  exact absurd (UInt8.le_trans high low.2) (by decide)

theorem Blank.not_end (blank : Blank) : Parser.isEnd (clean blank.bytes) = false := by
  have dropped : (clean blank.bytes).dropWhile (!isCharw ·) = [] := by
    refine List.dropWhile_eq_nil_iff.mpr fun c mem => ?_
    rw [blank.clean_spaces c mem]
    rfl
  rw [Parser.isEnd, dropped]
  rfl

theorem Blank.clean_eq_nil_iff (blank : Blank) : clean blank.bytes = [] ↔ 0x20 ∉ blank.bytes := by
  constructor
  · intro null mem
    have kept : 0x20 ∈ clean blank.bytes := by
      refine List.mem_filter.mpr ⟨List.mem_filter.mpr ⟨mem, by decide⟩, by decide⟩
    rw [null] at kept
    cases kept
  · intro none
    refine List.eq_nil_iff_forall_not_mem.mpr fun c mem => none ?_
    rw [← blank.clean_spaces c mem]
    exact (mem_clean mem).1

theorem isChar_of_isCharw {c : UInt8} (printable : isCharw c) : isChar c := by
  obtain ⟨low, high⟩ := Bool.and_eq_true_iff.mp printable
  refine Bool.and_eq_true_iff.mpr ⟨decide_eq_true ?_, high⟩
  exact UInt8.le_of_lt (of_decide_eq_true low)

theorem Word.clean_bytes (word : Word) : clean word.bytes = word.bytes := by
  have printable : word.bytes.filter isChar = word.bytes :=
    List.filter_eq_self.mpr fun c mem => isChar_of_isCharw (word.plain c mem).1
  rw [clean, printable]
  exact List.filter_eq_self.mpr fun c mem => decide_eq_true (word.plain c mem).2.2

/-- Nothing is dropped before a word. -/
theorem Word.dropWhile_append (word : Word) (more : List UInt8) :
    (word.bytes ++ more).dropWhile (!isCharw ·) = word.bytes ++ more := by
  have plain := word.plain
  have nonempty := word.nonempty
  cases bytes : word.bytes with
  | nil => exact absurd bytes nonempty
  | cons c rest =>
      rw [bytes] at plain
      exact List.dropWhile_cons_of_neg (by simp [(plain c List.mem_cons_self).1])

theorem Heading.isContent_line (heading : Heading) : isContent heading.line := by
  have string : clean heading.line.bytes = heading.word.bytes := heading.word.clean_bytes
  have start := heading.word.dropWhile_append []
  rw [List.append_nil] at start
  rw [isContent, string, Parser.isEnd, start]
  simp [heading.word.not_end, heading.word.nonempty]

/-- What is left of the line of a property. -/
def PropertyText.string (p : PropertyText) : List UInt8 :=
  match p.value with
  | some value => p.ident.bytes ++ ([0x20, 0x3D, 0x20] ++ value.bytes)
  | none => p.ident.bytes

theorem clean_append (front back : List UInt8) :
    clean (front ++ back) = clean front ++ clean back := by
  rw [clean, List.filter_append, List.filter_append]
  rfl

theorem PropertyText.clean_line (p : PropertyText) : clean p.line.bytes = p.string := by
  have bytes : p.line.bytes = propertyBytes p.ident p.value := rfl
  have semicolon : clean [0x3B] = [] := rfl
  rw [bytes]
  unfold propertyBytes PropertyText.string
  split
  · next value _ =>
      have equals : clean [0x20, 0x3D, 0x20] = [0x20, 0x3D, 0x20] := rfl
      rw [clean_append, clean_append, clean_append, p.ident.clean_bytes, value.clean_bytes, equals,
        semicolon, List.append_nil]
  · rw [clean_append, p.ident.clean_bytes, semicolon, List.append_nil]

theorem PropertyText.isContent_line (p : PropertyText) : isContent p.line := by
  obtain ⟨more, string, not_end⟩ : ∃ more, p.string = p.ident.bytes ++ more ∧
      p.ident.bytes ++ more ≠ END := by
    unfold PropertyText.string
    split
    · refine ⟨_, rfl, fun same => ?_⟩
      have equals : 0x3D ∈ END := same ▸ List.mem_append_right _ (.tail _ (.head _))
      exact absurd equals (by decide)
    · exact ⟨[], (List.append_nil _).symm, by rw [List.append_nil]; exact p.ident.not_end⟩
  rw [isContent, p.clean_line, Parser.isEnd, string, p.ident.dropWhile_append]
  simp [not_end, p.ident.nonempty]

/-- The property that the line of a property loads. -/
def PropertyText.loaded (prop : ModProperty) (p : PropertyText) : ModProperty :=
  ⟨p.ident.bytes, (p.value.map Word.bytes).getD prop.value⟩

theorem Word.apart (word : Word) : ∀ c ∈ word.bytes, c ∉ delims := by
  intro c mem delim
  obtain ⟨printable, equals, -⟩ := word.plain c mem
  rcases List.mem_cons.mp delim with rfl | delim
  · exact absurd printable (by decide)
  · exact equals (List.mem_singleton.mp delim)

theorem Word.strtok_bytes (word : Word) : strtok delims word.bytes = (some word.bytes, []) := by
  have token := strtok_token word.nonempty word.apart [] nofun
  rwa [List.append_nil] at token

theorem loaded_eq (prop : ModProperty) (string : List UInt8) :
    prop.loaded string = ⟨(strtok delims string).1.getD prop.ident,
      (strtok delims (strtok delims string).2).1.getD prop.value⟩ := rfl

theorem PropertyText.loaded_string (p : PropertyText) (prop : ModProperty) :
    prop.loaded p.string = p.loaded prop := by
  unfold PropertyText.string PropertyText.loaded
  split
  · next value some =>
      have first := strtok_token p.ident.nonempty p.ident.apart
        ([0x20, 0x3D, 0x20] ++ value.bytes) (by rintro c ⟨⟩; decide)
      have second : strtok delims ([0x3D, 0x20] ++ value.bytes) = (Option.some value.bytes, []) :=
        (strtok_skip (by decide) _).trans ((strtok_skip (by decide) _).trans value.strtok_bytes)
      rw [loaded_eq, first, List.cons_append, List.tail_cons, second, some]
      rfl
  · next none =>
      rw [loaded_eq, p.ident.strtok_bytes, strtok_nil, none]
      rfl

end NoxServer.ModifierBin
