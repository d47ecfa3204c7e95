import NoxServer.Modifiers.Rendering

/-!
What is loaded from the text of a modifier.bin.

Where no blank line has a space, the lines open and close the lists of the tree, and a property has
the value that the variable `prop` had before if it has none itself (`ModifierText.load`). A blank
line with a space makes one more title, name or property than the tree has, wherever it stands
(`nodes_eq`).
-/

namespace NoxServer.ModifierBin

variable {p : Parser}

/-! ### One line after another -/

theorem lines_append (p : Parser) (front back : List Line) :
    p.lines (front ++ back) = (p.lines front).lines back :=
  List.foldl_append

/-- No blank line has a space. -/
def Null (blanks : List Blank) : Prop := ∀ blank ∈ blanks, 0x20 ∉ blank.bytes

theorem null_append {blanks blanks' : List Blank} :
    Null (blanks ++ blanks') ↔ Null blanks ∧ Null blanks' :=
  List.forall_mem_append

theorem lines_blanks {blanks : List Blank} (null : Null blanks) (p : Parser) :
    p.lines (blankLines blanks) = p := by
  induction blanks with
  | nil => rfl
  | cons blank blanks ih =>
      obtain ⟨first, null⟩ := List.forall_mem_cons.mp null
      have ignored : p.step (clean blank.bytes) = p := by
        rw [Parser.step, blank.not_end, if_neg Bool.false_ne_true,
          if_pos (blank.clean_eq_nil_iff.mpr first)]
      rw [blankLines, List.map_cons, Parser.lines, List.foldl_cons, ignored]
      exact ih null

theorem lines_end (p : Parser) : p.lines [endLine] = p.stop := by
  have last : Parser.isEnd (clean endLine.bytes) := by decide
  change p.step (clean endLine.bytes) = p.stop
  rw [Parser.step, if_pos last]

theorem lines_closing {blanks : List Blank} (null : Null blanks) (p : Parser) :
    p.lines (blankLines blanks ++ [endLine]) = p.stop := by
  rw [lines_append, lines_blanks null, lines_end]

theorem Heading.lines_run (heading : Heading) (null : Null heading.blanks) (p : Parser) :
    p.lines heading.lines = p.content heading.word.bytes := by
  have content : p.lines [heading.line] = p.content (clean heading.line.bytes) :=
    step_content heading.isContent_line
  rw [Heading.lines, lines_append, lines_blanks null, content, Heading.line,
    heading.word.clean_bytes]

/-! ### What is loaded -/

/-- What is loaded of each of some parts, one after another, from what `prop` was before. -/
def accumulate {α β : Type} (load : ModProperty → α → β × ModProperty) (prop : ModProperty) :
    List α → List β × ModProperty
  | [] => ([], prop)
  | x :: xs =>
      let (y, prop) := load prop x
      let (ys, prop) := accumulate load prop xs
      (y :: ys, prop)

def PropertyText.load (prop : ModProperty) (p : PropertyText) : ModProperty × ModProperty :=
  (p.loaded prop, p.loaded prop)

def ObjectText.load (prop : ModProperty) (o : ObjectText) : MOD_OBJ × ModProperty :=
  let (properties, prop) := accumulate PropertyText.load prop o.properties
  (⟨o.heading.word.bytes, properties⟩, prop)

def SectionText.load (prop : ModProperty) (sec : SectionText) : MOD_LIST × ModProperty :=
  let (elementList, prop) := accumulate ObjectText.load prop sec.objects
  (⟨sec.heading.word.bytes, elementList⟩, prop)

def ModifierText.load (t : ModifierText) : List MOD_LIST :=
  (accumulate SectionText.load {} t.sections).1

theorem PropertyText.lines_run (p : PropertyText) (null : Null p.blanks) (t : Tree) :
    Parser.lines ⟨.properties, t⟩ p.lines = ⟨.properties, { t with
      prop := p.loaded t.prop
      obj := { t.obj with properties := t.obj.properties ++ [p.loaded t.prop] } }⟩ := by
  have content : Parser.lines ⟨.properties, t⟩ [p.line] =
      Parser.content ⟨.properties, t⟩ (clean p.line.bytes) := step_content p.isContent_line
  rw [PropertyText.lines, lines_append, lines_blanks null, content, p.clean_line, Parser.content,
    p.loaded_string]

theorem properties_run {ps : List PropertyText} (null : Null (ps.flatMap PropertyText.blanks))
    (t : Tree) :
    Parser.lines ⟨.properties, t⟩ (ps.flatMap PropertyText.lines) = ⟨.properties, { t with
      prop := (accumulate PropertyText.load t.prop ps).2
      obj := { t.obj with
        properties := t.obj.properties ++ (accumulate PropertyText.load t.prop ps).1 } }⟩ := by
  induction ps generalizing t with
  | nil => simp [accumulate, Parser.lines]
  | cons p ps ih =>
      rw [List.flatMap_cons, null_append] at null
      rw [List.flatMap_cons, lines_append, p.lines_run null.1, ih null.2]
      simp [accumulate, PropertyText.load]

theorem ObjectText.lines_run (o : ObjectText) (null : Null o.blanks) {t : Tree}
    (cleared : t.obj.properties = []) :
    Parser.lines ⟨.objects, t⟩ o.lines = ⟨.objects, { t with
      prop := (o.load t.prop).2
      obj := ⟨o.heading.word.bytes, []⟩
      list := { t.list with elementList := t.list.elementList ++ [(o.load t.prop).1] } }⟩ := by
  rw [ObjectText.blanks, null_append, null_append] at null
  rw [ObjectText.lines, lines_append, lines_append, o.heading.lines_run null.1, Parser.content,
    properties_run null.2.1, lines_closing null.2.2]
  simp [Parser.stop, Tree.closeObject, ObjectText.load, cleared]

/-- The lines of some objects make the objects, with the properties that stand in them and what is
left of earlier ones. -/
theorem objects_run {os : List ObjectText} (null : Null (os.flatMap ObjectText.blanks)) {t : Tree}
    (cleared : t.obj.properties = []) :
    ∃ objectName, Parser.lines ⟨.objects, t⟩ (os.flatMap ObjectText.lines) = ⟨.objects, { t with
      prop := (accumulate ObjectText.load t.prop os).2
      obj := ⟨objectName, []⟩
      list := { t.list with
        elementList := t.list.elementList ++ (accumulate ObjectText.load t.prop os).1 } }⟩ := by
  induction os generalizing t with
  | nil =>
      refine ⟨t.obj.objectName, ?_⟩
      rw [← cleared]
      simp [accumulate, Parser.lines]
  | cons o os ih =>
      rw [List.flatMap_cons, null_append] at null
      obtain ⟨objectName, run⟩ := ih null.2 (t := { t with
        prop := (o.load t.prop).2
        obj := ⟨o.heading.word.bytes, []⟩
        list := { t.list with elementList := t.list.elementList ++ [(o.load t.prop).1] } }) rfl
      refine ⟨objectName, ?_⟩
      rw [List.flatMap_cons, lines_append, o.lines_run null.1 cleared, run]
      simp [accumulate]

theorem SectionText.lines_run (sec : SectionText) (null : Null sec.blanks) {t : Tree}
    (cleared : t.obj.properties = []) (cleared' : t.list.elementList = []) :
    ∃ objectName, Parser.lines ⟨.sections, t⟩ sec.lines = ⟨.sections, {
      modifierList := t.modifierList ++ [(sec.load t.prop).1]
      list := ⟨sec.heading.word.bytes, []⟩
      obj := ⟨objectName, []⟩
      prop := (sec.load t.prop).2 }⟩ := by
  rw [SectionText.blanks, null_append, null_append] at null
  obtain ⟨objectName, run⟩ := objects_run null.2.1 (t := { t with
    list := { t.list with sectionTitle := sec.heading.word.bytes } }) cleared
  refine ⟨objectName, ?_⟩
  rw [SectionText.lines, lines_append, lines_append, sec.heading.lines_run null.1, Parser.content,
    run, lines_closing null.2.2]
  simp [Parser.stop, Tree.closeSection, SectionText.load, cleared']

theorem sections_run {secs : List SectionText} (null : Null (secs.flatMap SectionText.blanks))
    {t : Tree} (cleared : t.obj.properties = []) (cleared' : t.list.elementList = []) :
    ∃ t', Parser.lines ⟨.sections, t⟩ (secs.flatMap SectionText.lines) = ⟨.sections, t'⟩ ∧
      t'.modifierList = t.modifierList ++ (accumulate SectionText.load t.prop secs).1 := by
  induction secs generalizing t with
  | nil => exact ⟨t, rfl, (List.append_nil _).symm⟩
  | cons sec secs ih =>
      rw [List.flatMap_cons, null_append] at null
      obtain ⟨objectName, first⟩ := sec.lines_run null.1 cleared cleared'
      obtain ⟨t', run, modifierList⟩ := ih null.2 (t := {
        modifierList := t.modifierList ++ [(sec.load t.prop).1]
        list := ⟨sec.heading.word.bytes, []⟩
        obj := ⟨objectName, []⟩
        prop := (sec.load t.prop).2 }) rfl rfl
      refine ⟨t', ?_, ?_⟩
      · rw [List.flatMap_cons, lines_append, first, run]
      · rw [modifierList, List.append_assoc]
        rfl

/-- Where no blank line has a space, the sections are loaded. -/
theorem finish_null {t : ModifierText} (null : Null t.openBlanks) (old : List MOD_LIST) :
    (finish ⟨.sections, { modifierList := old }⟩ t.lines).modifierList = old ++ t.load := by
  rw [ModifierText.openBlanks, null_append] at null
  obtain ⟨t', run, modifierList⟩ := sections_run null.1 (t := { modifierList := old }) rfl rfl
  have ended : Parser.lines ⟨.sections, t'⟩ (endLine :: blankLines t.after) = ⟨.ended, t'⟩ :=
    lines_ended t' (blankLines t.after)
  rw [finish, ModifierText.lines, ModifierText.openLines, lines_append, lines_append, run,
    lines_blanks null.2, ended]
  exact modifierList

/-! ### Values -/

/-- The value of `prop` behind some properties. -/
def lastValue (value : List UInt8) (ps : List PropertyText) : List UInt8 :=
  ps.foldl (fun value p => (p.value.map Word.bytes).getD value) value

/-- No property without a value finds one in `prop`. -/
def Fresh (value : List UInt8) : List PropertyText → Prop
  | [] => True
  | p :: ps => (p.value = none → value = []) ∧ Fresh ((p.value.map Word.bytes).getD value) ps

theorem fresh_append {value : List UInt8} {ps ps' : List PropertyText} :
    Fresh value (ps ++ ps') ↔ Fresh value ps ∧ Fresh (lastValue value ps) ps' := by
  induction ps generalizing value with
  | nil => exact (and_iff_right trivial).symm
  | cons p ps ih => exact (and_congr_right fun _ => ih).trans and_assoc.symm

/-- A property without a value does not come behind one with a value. -/
theorem fresh_iff_pairwise {value : List UInt8} {ps : List PropertyText} :
    Fresh value ps ↔
      ps.Pairwise (fun earlier later => later.value = none → earlier.value = none) ∧
        (value = [] ∨ ∀ p ∈ ps, p.value ≠ none) := by
  induction ps generalizing value with
  | nil => simp [Fresh]
  | cons p ps ih =>
      rw [Fresh, ih, List.pairwise_cons]
      cases has : p.value with
      | none =>
          have fine : ∀ later ∈ ps, later.value = none → none = (none : Option Word) :=
            fun _ _ _ => rfl
          simp only [has, Option.map_none, Option.getD_none, forall_const, List.forall_mem_cons]
          tauto
      | some word =>
          have nonempty := word.nonempty
          simp only [has, Option.map_some, Option.getD_some, nonempty, List.forall_mem_cons,
            reduceCtorEq, false_or, imp_false, ne_eq, not_false_iff, true_and]
          tauto

/-- What is loaded is the tree if and only if no value is left over, and the last value is kept. -/
structure Carries {α β : Type} (load : ModProperty → α → β × ModProperty) (tree : α → β)
    (properties : α → List PropertyText) : Prop where
  value : ∀ prop x, (load prop x).2.value = lastValue prop.value (properties x)
  tree_iff : ∀ prop x, (load prop x).1 = tree x ↔ Fresh prop.value (properties x)

theorem Carries.list {α β : Type} {load : ModProperty → α → β × ModProperty} {tree : α → β}
    {properties : α → List PropertyText} (carries : Carries load tree properties) :
    Carries (accumulate load) (List.map tree) (List.flatMap properties) where
  value prop xs := by
    induction xs generalizing prop with
    | nil => rfl
    | cons x xs ih =>
        refine (ih (load prop x).2).trans ?_
        rw [carries.value, lastValue, lastValue, lastValue, List.flatMap_cons, List.foldl_append]
  tree_iff prop xs := by
    induction xs generalizing prop with
    | nil => exact iff_of_true rfl trivial
    | cons x xs ih =>
        rw [List.flatMap_cons, fresh_append, ← carries.value, ← carries.tree_iff, ← ih]
        exact List.cons_eq_cons

theorem property_carries :
    Carries PropertyText.load PropertyText.tree (fun p => [p]) where
  value prop p := rfl
  tree_iff prop p := by
    cases has : p.value with
    | none => simp [PropertyText.load, PropertyText.loaded, PropertyText.tree, Fresh, has]
    | some word => simp [PropertyText.load, PropertyText.loaded, PropertyText.tree, Fresh, has]

theorem object_carries : Carries ObjectText.load ObjectText.tree ObjectText.properties where
  value prop o := by
    have last := property_carries.list.value prop o.properties
    rwa [List.flatMap_singleton'] at last
  tree_iff prop o := by
    have same := property_carries.list.tree_iff prop o.properties
    rw [List.flatMap_singleton'] at same
    rw [← same]
    exact MOD_OBJ.mk.injEq _ _ _ _ ▸ and_iff_right rfl

theorem section_carries : Carries SectionText.load SectionText.tree SectionText.properties where
  value prop sec := object_carries.list.value prop sec.objects
  tree_iff prop sec := by
    rw [SectionText.properties, ← object_carries.list.tree_iff]
    exact MOD_LIST.mk.injEq _ _ _ _ ▸ and_iff_right rfl

/-- What is loaded is the tree if and only if no property without a value is behind one with a
value. -/
theorem load_eq_tree_iff (t : ModifierText) :
    t.load = t.tree ↔
      t.properties.Pairwise fun earlier later => later.value = none → earlier.value = none := by
  have same := section_carries.list.tree_iff {} t.sections
  rw [fresh_iff_pairwise] at same
  exact same.trans (and_iff_left (.inl rfl))

/-! ### Titles, names and properties -/

/-- The name and the identifiers of an object, in the order of their lines. -/
def MOD_OBJ.words (o : MOD_OBJ) : List (List UInt8) :=
  o.objectName :: o.properties.map ModProperty.ident

/-- The title of a section, and the words of its objects. -/
def MOD_LIST.words (l : MOD_LIST) : List (List UInt8) :=
  l.sectionTitle :: l.elementList.flatMap MOD_OBJ.words

/-- How many titles, names and properties there are. -/
def nodes (modifierList : List MOD_LIST) : Nat := (modifierList.flatMap MOD_LIST.words).length

theorem nodes_append (front back : List MOD_LIST) :
    nodes (front ++ back) = nodes front + nodes back := by
  rw [nodes, List.flatMap_append, List.length_append]
  rfl

/-- How many there will be when what is open is closed. -/
def Parser.nodes (p : Parser) : Nat := ModifierBin.nodes p.close.modifierList

/-- How many lists are open. -/
def Level.rank : Level → Nat
  | .ended => 0
  | .sections => 1
  | .objects => 2
  | .properties => 3

/-- What has been closed is cleared. -/
def Parser.Tidy (p : Parser) : Prop :=
  match p.level with
  | .ended | .sections => p.tree.list.elementList = [] ∧ p.tree.obj.properties = []
  | .objects => p.tree.obj.properties = []
  | .properties => True

/-- At least so many lists are open. -/
structure Parser.Open (p : Parser) (rank : Nat) : Prop where
  tidy : p.Tidy
  le_rank : rank ≤ p.level.rank

theorem Parser.Open.mono {rank rank' : Nat} (opened : p.Open rank) (le : rank' ≤ rank) :
    p.Open rank' :=
  ⟨opened.tidy, Nat.le_trans le opened.le_rank⟩

/-- A title, a name or a property adds one, and one more list is open if there can be one. -/
theorem Parser.Open.content {rank rank' : Nat} (opened : p.Open rank) (some : 0 < rank)
    (le : rank' ≤ rank + 1) (le_three : rank' ≤ 3) (string : List UInt8) :
    (p.content string).Open rank' ∧ (p.content string).nodes = p.nodes + 1 := by
  obtain ⟨tidy, le_rank⟩ := opened
  obtain ⟨level, t⟩ := p
  cases level with
  | ended => exact absurd (Nat.lt_of_lt_of_le some le_rank) (Nat.lt_irrefl 0)
  | sections =>
      have one : rank ≤ 1 := le_rank
      refine ⟨⟨tidy.2, ?_⟩, ?_⟩
      · exact Nat.le_trans le (Nat.succ_le_succ one)
      · have empty : t.list.elementList = [] := tidy.1
        simp [Parser.nodes, Parser.content, Parser.close, Tree.closeSection, nodes_append, empty]
        simp [ModifierBin.nodes, MOD_LIST.words]
  | objects =>
      have two : rank ≤ 2 := le_rank
      refine ⟨⟨trivial, le_three⟩, ?_⟩
      have empty : t.obj.properties = [] := tidy
      simp [Parser.nodes, Parser.content, Parser.close, Tree.closeSection, Tree.closeObject,
        nodes_append, empty]
      simp [ModifierBin.nodes, MOD_LIST.words, MOD_OBJ.words, Nat.add_assoc]
  | properties =>
      refine ⟨⟨trivial, le_three⟩, ?_⟩
      simp [Parser.nodes, Parser.content, Parser.close, Tree.closeSection, Tree.closeObject,
        nodes_append]
      simp [ModifierBin.nodes, MOD_LIST.words, MOD_OBJ.words, Nat.add_assoc]

/-- An END closes a list. -/
theorem Parser.Open.stop {rank : Nat} (opened : p.Open (rank + 1)) :
    p.stop.Open rank ∧ p.stop.nodes = p.nodes := by
  refine ⟨?_, congrArg (fun t : Tree => ModifierBin.nodes t.modifierList) p.close_stop⟩
  obtain ⟨tidy, le_rank⟩ := opened
  obtain ⟨level, t⟩ := p
  cases level with
  | ended => exact absurd le_rank (Nat.not_succ_le_zero rank)
  | sections => exact ⟨tidy, Nat.le_of_succ_le_succ le_rank⟩
  | objects => exact ⟨⟨rfl, tidy⟩, Nat.le_of_succ_le_succ le_rank⟩
  | properties => exact ⟨rfl, Nat.le_of_succ_le_succ le_rank⟩

/-- The lines leave `rank'` lists open if `rank` lists were, and each title, name and property of
theirs adds one. -/
def Takes (rank rank' : Nat) (lines : List Line) : Prop :=
  ∀ p : Parser, p.Open rank →
    (p.lines lines).Open rank' ∧ (p.lines lines).nodes = p.nodes + lines.countP isContent

theorem Takes.append {rank rank' rank'' : Nat} {front back : List Line}
    (first : Takes rank rank' front) (second : Takes rank' rank'' back) :
    Takes rank rank'' (front ++ back) := by
  intro p opened
  obtain ⟨middle, added⟩ := first p opened
  obtain ⟨last, added'⟩ := second _ middle
  rw [lines_append, List.countP_append]
  exact ⟨last, by rw [added', added, Nat.add_assoc]⟩

theorem takes_nil (rank : Nat) : Takes rank rank [] := fun _ opened => ⟨opened, rfl⟩

theorem takes_flatMap {α : Type} {rank : Nat} {lines : α → List Line}
    (each : ∀ x, Takes rank rank (lines x)) (xs : List α) : Takes rank rank (xs.flatMap lines) := by
  induction xs with
  | nil => exact takes_nil rank
  | cons x xs ih => exact (each x).append ih

theorem takes_content {line : Line} (content : isContent line) {rank rank' : Nat} (some : 0 < rank)
    (le : rank' ≤ rank + 1) (le_three : rank' ≤ 3) : Takes rank rank' [line] := by
  intro p opened
  have step : p.lines [line] = p.content (clean line.bytes) := step_content content
  rw [step, List.countP_singleton, if_pos content]
  exact opened.content some le le_three _

theorem takes_end (rank : Nat) : Takes (rank + 1) rank [endLine] := by
  intro p opened
  rw [lines_end]
  exact opened.stop

/-- Whether a blank line has a space. -/
def Blank.hasSpace (blank : Blank) : Bool := 0x20 ∈ blank.bytes

theorem Blank.isContent_toLine (blank : Blank) : isContent blank.toLine = blank.hasSpace := by
  rw [isContent, blank.not_end, Blank.hasSpace, Bool.not_false, Bool.true_and]
  exact decide_eq_decide.mpr (not_iff_comm.mp blank.clean_eq_nil_iff.symm)

theorem takes_blanks {rank : Nat} (some : 0 < rank) (le_three : rank ≤ 3) (blanks : List Blank) :
    Takes rank rank (blankLines blanks) := by
  induction blanks with
  | nil => exact takes_nil rank
  | cons blank blanks ih =>
      have first : Takes rank rank [blank.toLine] := by
        cases has : isContent blank.toLine with
        | true => exact takes_content has some (Nat.le_succ rank) le_three
        | false =>
            have null : Null [blank] := fun _ mem =>
              List.mem_singleton.mp mem ▸ of_decide_eq_false (blank.isContent_toLine.symm.trans has)
            intro p opened
            have same : p.lines [blank.toLine] = p := lines_blanks null p
            rw [same, List.countP_singleton, has]
            exact ⟨opened, rfl⟩
      exact first.append ih

theorem Heading.takes (heading : Heading) {rank : Nat} (some : 0 < rank) (le_two : rank ≤ 2) :
    Takes rank (rank + 1) heading.lines :=
  (takes_blanks some (Nat.le_succ_of_le le_two) _).append
    (takes_content heading.isContent_line some (Nat.le_refl _) (Nat.succ_le_succ le_two))

theorem PropertyText.takes (p : PropertyText) : Takes 3 3 p.lines :=
  (takes_blanks (by decide) (by decide) _).append
    (takes_content p.isContent_line (by decide) (by decide) (by decide))

theorem ObjectText.takes (o : ObjectText) : Takes 2 2 o.lines :=
  (o.heading.takes (by decide) (by decide)).append
    ((takes_flatMap PropertyText.takes _).append
      ((takes_blanks (by decide) (by decide) _).append (takes_end 2)))

theorem SectionText.takes (sec : SectionText) : Takes 1 1 sec.lines :=
  (sec.heading.takes (by decide) (by decide)).append
    ((takes_flatMap ObjectText.takes _).append
      ((takes_blanks (by decide) (by decide) _).append (takes_end 1)))

theorem ModifierText.takes (t : ModifierText) : Takes 1 1 t.openLines :=
  (takes_flatMap SectionText.takes _).append (takes_blanks (by decide) (by decide) _)

/-- The last END, and the blank lines behind it, take nothing away. -/
theorem nodes_le_after (opened : p.Open (0 + 1)) (after : List Blank) :
    p.nodes ≤ (p.lines (endLine :: blankLines after)).nodes := by
  obtain ⟨stopped, same⟩ := opened.stop
  have first : p.lines (endLine :: blankLines after) = p.stop.lines (blankLines after) := by
    rw [← lines_end, ← lines_append]
    rfl
  rw [first, ← same]
  cases level : p.stop.level with
  | ended =>
      have ended : p.stop.lines (blankLines after) = p.stop := by
        have whole : p.stop = ⟨.ended, p.stop.tree⟩ := by rw [← level]
        rw [whole, lines_ended]
      exact Nat.le_of_eq (congrArg Parser.nodes ended.symm)
  | sections | objects | properties =>
      have takes : Takes 1 1 (blankLines after) := takes_blanks (by decide) (by decide) after
      have still_open : p.stop.Open 1 := ⟨stopped.tidy, by rw [level]; decide⟩
      rw [(takes p.stop still_open).2]
      exact Nat.le_add_right _ _

/-! ### Blank lines with a space -/

/-- The lines are as many as some words and the blank lines with a space. -/
def Counts (lines : List Line) (words : List (List UInt8)) (blanks : List Blank) : Prop :=
  lines.countP isContent = words.length + blanks.countP Blank.hasSpace

theorem Counts.append {front back : List Line} {words words' : List (List UInt8)}
    {blanks blanks' : List Blank} (first : Counts front words blanks)
    (second : Counts back words' blanks') :
    Counts (front ++ back) (words ++ words') (blanks ++ blanks') := by
  rw [Counts, List.countP_append, List.countP_append, List.length_append, first, second]
  exact Nat.add_add_add_comm _ _ _ _

theorem counts_blanks (blanks : List Blank) : Counts (blankLines blanks) [] blanks := by
  rw [Counts, blankLines, List.countP_map, List.length_nil, Nat.zero_add]
  exact List.countP_congr fun blank _ => by
    rw [Function.comp_apply, blank.isContent_toLine]

theorem counts_line (blanks : List Blank) {line : Line} (content : isContent line)
    (word : List UInt8) : Counts (blankLines blanks ++ [line]) [word] blanks := by
  rw [Counts, List.countP_append, counts_blanks, List.countP_singleton, if_pos content,
    List.length_nil, Nat.zero_add, Nat.add_comm]
  rfl

theorem counts_closing (blanks : List Blank) :
    Counts (blankLines blanks ++ [endLine]) [] blanks := by
  have none : isContent endLine = false := by decide
  rw [Counts, List.countP_append, counts_blanks, List.countP_singleton, none]
  rfl

theorem counts_flatMap {α : Type} {lines : α → List Line} {words : α → List (List UInt8)}
    {blanks : α → List Blank} (each : ∀ x, Counts (lines x) (words x) (blanks x)) (xs : List α) :
    Counts (xs.flatMap lines) (xs.flatMap words) (xs.flatMap blanks) := by
  induction xs with
  | nil => rfl
  | cons x xs ih => exact (each x).append ih

theorem ObjectText.counts (o : ObjectText) : Counts o.lines o.tree.words o.blanks := by
  have inside := counts_flatMap (fun p : PropertyText =>
    counts_line p.blanks p.isContent_line p.tree.ident) o.properties
  have whole := (counts_line o.heading.blanks o.heading.isContent_line o.heading.word.bytes).append
    (inside.append (counts_closing o.closing))
  rw [List.append_nil, ← List.map_eq_flatMap] at whole
  rwa [ObjectText.tree, MOD_OBJ.words, List.map_map]

theorem SectionText.counts (sec : SectionText) : Counts sec.lines sec.tree.words sec.blanks := by
  have whole :=
    (counts_line sec.heading.blanks sec.heading.isContent_line sec.heading.word.bytes).append
      ((counts_flatMap ObjectText.counts sec.objects).append (counts_closing sec.closing))
  rw [List.append_nil] at whole
  rwa [SectionText.tree, MOD_LIST.words, List.flatMap_map]

theorem ModifierText.counts (t : ModifierText) :
    Counts t.openLines (t.tree.flatMap MOD_LIST.words) t.openBlanks := by
  have whole := (counts_flatMap SectionText.counts t.sections).append (counts_blanks t.closing)
  rw [List.append_nil] at whole
  rwa [ModifierText.tree, List.flatMap_map]

/-- If no title, name or property is added to those of the tree, no blank line has a space. -/
theorem null_of_nodes_le {t : ModifierText} {old : List MOD_LIST}
    (le : nodes (finish ⟨.sections, { modifierList := old }⟩ t.lines).modifierList ≤
      nodes (old ++ t.tree)) : Null t.openBlanks := by
  obtain ⟨opened, added⟩ := t.takes ⟨.sections, { modifierList := old }⟩ ⟨⟨rfl, rfl⟩, Nat.le_refl 1⟩
  have after := nodes_le_after opened t.after
  have total : nodes (finish ⟨.sections, { modifierList := old }⟩ t.lines).modifierList =
      (Parser.lines (Parser.lines ⟨.sections, { modifierList := old }⟩ t.openLines)
        (endLine :: blankLines t.after)).nodes := by
    rw [← lines_append]
    rfl
  have start : Parser.nodes ⟨.sections, { modifierList := old }⟩ = nodes old := rfl
  have counts : t.openLines.countP isContent = nodes t.tree + t.openBlanks.countP Blank.hasSpace :=
    t.counts
  rw [total, nodes_append] at le
  have no_spaces : t.openBlanks.countP Blank.hasSpace = 0 := by omega
  intro blank mem
  exact of_decide_eq_false (Bool.eq_false_iff.mpr (List.countP_eq_zero.mp no_spaces blank mem))

/-- `Load_Modifier` makes the tree of its text, behind what the list had before, if and only if no
blank line before the last END has a space, and no property without a value is behind one with a
value. -/
theorem loadModifier_iff (t : ModifierText) (buff2 tail : List UInt8) (old : List MOD_LIST) :
    loadModifier buff2 (unlines t.lines ++ 0 :: tail) old = .ok (old ++ t.tree) ↔
      (∀ blank ∈ t.openBlanks, 0x20 ∉ blank.bytes) ∧
        t.properties.Pairwise fun earlier later => later.value = none → earlier.value = none := by
  rw [loadModifier_run, ← load_eq_tree_iff]
  constructor
  · intro run
    have same := Except.ok.inj run
    have null : Null t.openBlanks := null_of_nodes_le (Nat.le_of_eq (congrArg nodes same))
    rw [finish_null null] at same
    exact ⟨null, List.append_cancel_left same⟩
  · rintro ⟨null, same⟩
    rw [finish_null null, same]

/-- A word of one letter. -/
def letter (c : UInt8) (plain : isCharw c ∧ c ≠ 0x3D ∧ c ≠ 0x3B) : Word where
  bytes := [c]
  nonempty := nofun
  plain _ mem := List.mem_singleton.mp mem ▸ plain
  not_end := fun same => nomatch same

/-- Section "T" with an object "N" that has "A = V;" and "B;". -/
def sampleText : ModifierText :=
  let properties : List PropertyText := [
    ⟨[], letter 0x41 (by decide), some (letter 0x56 (by decide)), by decide⟩,
    ⟨[], letter 0x42 (by decide), none, by decide⟩]
  let object : ObjectText := ⟨⟨[], letter 0x4E (by decide), by decide⟩, properties, []⟩
  ⟨[⟨⟨[], letter 0x54 (by decide), by decide⟩, [object], []⟩], [], []⟩

/-- "B;" gets the value of "A = V;". -/
theorem loadModifier_leftover :
    loadModifier (List.replicate 255 0) (unlines sampleText.lines ++ [0]) [] =
        .ok [⟨[0x54], [⟨[0x4E], [⟨[0x41], [0x56]⟩, ⟨[0x42], [0x56]⟩]⟩]⟩] ∧
      sampleText.tree = [⟨[0x54], [⟨[0x4E], [⟨[0x41], [0x56]⟩, ⟨[0x42], []⟩]⟩]⟩] ∧
      loadModifier (List.replicate 255 0) (unlines sampleText.lines ++ [0]) [] ≠
        .ok sampleText.tree := by
  have run : loadModifier (List.replicate 255 0) (unlines sampleText.lines ++ [0]) [] =
      .ok [⟨[0x54], [⟨[0x4E], [⟨[0x41], [0x56]⟩, ⟨[0x42], [0x56]⟩]⟩]⟩] := by
    rw [loadModifier_run]
    rfl
  refine ⟨run, rfl, fun same => ?_⟩
  have tree := Except.ok.inj (run.symm.trans same)
  exact absurd tree (by decide)

end NoxServer.ModifierBin
