import NoxServer.Map.Loading
import NoxServer.Map.MapFile

/-!
The loading of a map, turn by turn.

`openMap` goes through a file as the functions of the source call each other, with what they build.
`Loading.step` is the same loading as one machine that makes a turn at a time and keeps the calls
that are under way on a stack. Whatever `openMap` loads, the machine comes to its end over the same
bytes, with the same table of names and the entries of thing.bin as they were (`openMap_turns`).
-/

namespace NoxServer.Map

open ByteBuffer Objects Consume Progress

/-- The machine with a table of names and thing.bin, at a place. -/
abbrev loading (toc : TOC) (things : ThingList) (place : Place) : Loading := ⟨toc, things, place⟩

variable {toc : TOC} {things : ThingList} {b b' : ByteBuffer}

theorem next_of_step {w w' : Loading} {jump : Option Jump}
    (step : w.step b = .ok (some (jump, w'), b')) : Reaches next (w, b) (w', b') := by
  refine .of_next ?_
  rw [next, step]

/-! ### The table of names -/

theorem insertTOC_eq (place : Place) (id : UInt16) (name : List UInt8) :
    (loading toc things place).insertTOC id name = loading (toc.insert id name) things place := by
  unfold Loading.insertTOC TOC.insert
  split <;> rfl

theorem tocEntry_next {finish : Nat} {entries : UInt16} {jump : Option Jump} {w' : Loading}
    (turn : (loading toc things (.toc finish entries)).tocEntry finish entries b =
      .ok ((jump, w'), b')) :
    Reaches next (loading toc things (.toc finish entries), b) (w', b') := by
  apply next_of_step
  rw [Loading.step, run_bind_ok rfl]
  exact run_bind_ok turn

/-- The loop over a table of names is made by turns of the machine, up to the end of the section. -/
theorem toc_turns (things : ThingList) (entries : UInt16) {finish turns : Nat} {toc' : TOC}
    (run : TOC.loop finish turns toc b = .ok (some toc', b')) :
    Reaches next (loading toc things (.toc finish entries), b)
        (loading toc' things (.toc finish entries), b') ∧ ¬b'.rpos < finish := by
  induction turns generalizing toc b with
  | zero => cases run
  | succ turns ih =>
      obtain ⟨_, _, ⟨⟩, run⟩ := bind_run_eq_ok run
      split at run
      · next inside =>
          obtain ⟨id, b₁, first, run⟩ := bind_run_eq_ok run
          obtain ⟨name, b₂, second, run⟩ := bind_run_eq_ok run
          obtain ⟨reaches, ended⟩ := ih run
          have entry : (loading toc things (.toc finish entries)).tocEntry finish entries b =
              .ok ((none, loading (toc.insert id name) things (.toc finish entries)), b₂) := by
            rw [Loading.tocEntry, run_bind_ok rfl, if_pos inside, run_bind_ok first,
              run_bind_ok second, insertTOC_eq]
            rfl
          exact ⟨(tocEntry_next entry).trans reaches, ended⟩
      · next ended =>
          cases run
          exact ⟨.refl _, ended⟩

/-! ### Walls -/

theorem wall_next {finish : Nat} {jump : Option Jump} {w' : Loading}
    (turn : (loading toc things (.walls finish)).wall finish b = .ok ((jump, w'), b')) :
    Reaches next (loading toc things (.walls finish), b) (w', b') := by
  apply next_of_step
  rw [Loading.step, run_bind_ok rfl]
  exact run_bind_ok turn

theorem walls_turns {finish : Nat} {walls walls' : Walls}
    (run : walls.readWalls b = .ok (walls', b')) :
    Reaches next (loading toc things (.walls finish), b)
      (loading toc things .sections, { b' with rpos := finish }) := by
  fun_induction Walls.readWalls walls b with
  | case1 walls b fault turn => cases run
  | case2 walls b b₁ turn =>
      have wall : (loading toc things (.walls finish)).wall finish b =
          .ok ((none, loading toc things .sections), { b₁ with rpos := finish }) := by
        rw [wall_eq_turn _ _ walls, run_bind_ok turn]
        rfl
      cases run
      exact wall_next wall
  | case3 walls b walls₁ b₁ turn ih =>
      have wall : (loading toc things (.walls finish)).wall finish b =
          .ok ((none, loading toc things (.walls finish)), b₁) := by
        rw [wall_eq_turn _ _ walls, run_bind_ok turn]
        rfl
      exact (wall_next wall).trans (ih run)

/-! ### Objects -/

/-- A call of `CreateObjectFromFile` up to its loop. -/
theorem createObject_turn {w w' : Making} {created : Option (Nat × UInt8)} (place : Place)
    (run : w.createObject toc b = .ok ((created, w'), b')) :
    ∃ created', (loading toc w.things place).createObjectFromFile b =
        .ok ((created', loading toc w'.things place), b') ∧
      created'.map Prod.snd = created.map fun object => object.2.toNat := by
  unfold Making.createObject at run
  unfold Loading.createObjectFromFile
  obtain ⟨type, b₁, typed, run⟩ := bind_run_eq_ok run
  rw [run_bind_ok typed]
  cases known : toc.lookup type with
  | none =>
      rw [known] at run
      cases run
      exact ⟨none, rfl, rfl⟩
  | some name =>
      rw [known] at run
      obtain ⟨_, b₂, skipped, run⟩ := bind_run_eq_ok run
      dsimp only at run ⊢
      rw [run_bind_ok skipped]
      by_cases zero : (w.things.getIndex name).1 = 0
      · rw [if_pos zero] at run
        obtain ⟨_, _, ⟨⟩, _⟩ := bind_run_eq_ok run
      · rw [if_neg zero] at run ⊢
        cases entry : (w.things.getIndex name).2.getAt (w.things.getIndex name).1.toNat with
        | none =>
            rw [entry] at run
            cases run
        | some info =>
            rw [entry] at run
            obtain ⟨jump, b₃, jumped, run⟩ := bind_run_eq_ok run
            obtain ⟨xfer, b₄, read, run⟩ := bind_run_eq_ok run
            cases run
            have handled : defaultXferHandler b₃ = .ok (xfer.inventory.toNat, b₄) := by
              rw [← readXfer_inventory, ← bind_pure_comp, run_bind_ok read]
              rfl
            refine ⟨some (jump, xfer.inventory.toNat), ?_, rfl⟩
            rw [if_neg (by simp), run_bind_ok jumped, run_bind_ok handled]
            rfl

/-- Where a call of `CreateObjectFromFile` leads to: an object is put on the stack with the number
of those in it. -/
def afterCreated (stack : List Nat) (ended : Place) (created : Option (Nat × UInt8)) : Place :=
  created.elim ended fun object => .objects (object.2.toNat :: stack)

theorem object_turn {w w' : Making} {created : Option (Nat × UInt8)} (stack : List Nat)
    (ended place : Place) (run : w.createObject toc b = .ok ((created, w'), b')) :
    ∃ jump, (loading toc w.things place).object stack ended b =
      .ok ((jump, loading toc w'.things (afterCreated stack ended created)), b') := by
  obtain ⟨created', call, same⟩ := createObject_turn place run
  cases created with
  | none =>
      obtain rfl : created' = none := Option.map_eq_none_iff.mp same
      refine ⟨none, ?_⟩
      rw [Loading.object, run_bind_ok call]
      rfl
  | some object =>
      obtain ⟨⟨jump, inventory⟩, rfl, inventory_is⟩ := Option.map_eq_some_iff.mp same
      refine ⟨some jump, ?_⟩
      rw [Loading.object, run_bind_ok call]
      dsimp only at inventory_is ⊢
      rw [inventory_is]
      rfl

/-- One object of an inventory. -/
theorem inventory_next {w w' : Making} {created : Option (Nat × UInt8)} (inventory : Nat)
    (stack : List Nat) (run : w.createObject toc b = .ok ((created, w'), b')) :
    Reaches next (loading toc w.things (.objects ((inventory + 1) :: stack)), b)
      (loading toc w'.things (afterCreated (inventory :: stack) (.objects stack) created), b') := by
  obtain ⟨jump, turn⟩ := object_turn (inventory :: stack) (.objects stack)
    (.objects ((inventory + 1) :: stack)) run
  apply next_of_step
  rw [Loading.step, run_bind_ok rfl]
  exact run_bind_ok turn

/-- One object of the section. -/
theorem objects_next {w w' : Making} {created : Option (Nat × UInt8)} (inside : b.rpos < b.size)
    (run : w.createObject toc b = .ok ((created, w'), b')) :
    Reaches next (loading toc w.things (.objects []), b)
      (loading toc w'.things (afterCreated [] .sections created), b') := by
  obtain ⟨jump, turn⟩ := object_turn [] .sections (.objects []) run
  apply next_of_step
  rw [Loading.step, run_bind_ok rfl]
  dsimp only
  rw [if_pos inside]
  exact run_bind_ok turn

/-- The objects in one that is on the stack, and those in them. -/
theorem inventory_turns (depth : Nat) {obj inventory : Nat} {w w' : Making}
    (run : inventoryLoop (createObjectFromFile toc depth) obj inventory w b = .ok (some w', b'))
    (stack : List Nat) :
    Reaches next (loading toc w.things (.objects (inventory :: stack)), b)
      (loading toc w'.things (.objects stack), b') := by
  induction depth generalizing obj inventory w w' b b' stack with
  | zero =>
      cases inventory with
      | zero =>
          cases run
          exact next_of_step rfl
      | succ inventory => cases run
  | succ depth ih =>
      induction inventory generalizing w b with
      | zero =>
          cases run
          exact next_of_step rfl
      | succ inventory ihInventory =>
          obtain ⟨created, b₁, call, run⟩ := bind_run_eq_ok run
          obtain ⟨⟨object, w₁⟩, b₂, built, call⟩ := bind_run_eq_ok call
          have first := inventory_next inventory stack built
          cases object with
          | none =>
              cases call
              cases run
              exact first
          | some object =>
              obtain ⟨looped, b₃, loop, call⟩ := bind_run_eq_ok call
              cases looped with
              | none =>
                  cases call
                  cases run
              | some w₂ =>
                  cases call
                  have inner := ih loop (inventory :: stack)
                  have others := ihInventory
                    (w := (w₂.addToWorld object.1).insertInventory obj object.1) run
                  exact first.trans (inner.trans others)

/-- The loop over a section of objects is made by turns of the machine, each of which makes one
object or goes back to the object it is in. -/
theorem objects_turns {depth turns : Nat} {w w' : Making}
    (run : objectsLoop toc depth turns w b = .ok (some w', b')) :
    Reaches next (loading toc w.things (.objects []), b)
      (loading toc w'.things .sections, b') := by
  induction turns generalizing w b with
  | zero => cases run
  | succ turns ih =>
      obtain ⟨_, _, ⟨⟩, run⟩ := bind_run_eq_ok run
      split at run
      · next inside =>
          obtain ⟨created, b₁, call, run⟩ := bind_run_eq_ok run
          cases depth with
          | zero =>
              cases call
              cases run
          | succ depth =>
              obtain ⟨⟨object, w₁⟩, b₂, built, call⟩ := bind_run_eq_ok call
              have first := objects_next inside built
              cases object with
              | none =>
                  cases call
                  cases run
                  exact first
              | some object =>
                  obtain ⟨looped, b₃, loop, call⟩ := bind_run_eq_ok call
                  cases looped with
                  | none =>
                      cases call
                      cases run
                  | some w₂ =>
                      cases call
                      have inner := inventory_turns depth loop []
                      exact first.trans (inner.trans (ih (w := w₂.addToWorld object.1) run))
      · next ended =>
          cases run
          apply next_of_step
          rw [Loading.step, run_bind_ok rfl]
          dsimp only
          rw [if_neg ended]
          rfl

/-! ### Sections -/

/-- The machine with what the map has. -/
def NoxMap.loading (m : NoxMap) (place : Place) : Loading := ⟨m.objectTOC, m.objects.things, place⟩

theorem section_next {m : NoxMap} {jump : Option Jump} {w' : Loading} (inside : b.rpos < b.size)
    (turn : (m.loading .sections).section b = .ok ((jump, w'), b')) :
    Reaches next (m.loading .sections, b) (w', b') := by
  apply next_of_step
  rw [Loading.step, run_bind_ok rfl]
  dsimp only [NoxMap.loading]
  rw [if_pos inside]
  exact run_bind_ok turn

/-- The section of the names of objects. -/
theorem tocSection_turns {depth turns : Nat} {m m' : NoxMap} {buffer : List UInt8}
    {b₁ b₂ : ByteBuffer} {u : PUnit} (inside : b.rpos < b.size)
    (named : readstring 1 0xFF b = .ok (buffer, b₁)) (skipped : skipToQword b₁ = .ok (u, b₂))
    (kind : sectionOf buffer = .objectTOC)
    (run : m.readSection depth turns .objectTOC b₂ = .ok (some m', b')) :
    Reaches next (m.loading .sections, b) (m'.loading .sections, b') := by
  obtain ⟨read, b₃, call, run⟩ := bind_run_eq_ok run
  obtain ⟨jump, b₄, jumped, call⟩ := bind_run_eq_ok call
  obtain ⟨_, b₅, header, call⟩ := bind_run_eq_ok call
  obtain ⟨entries, b₆, counted, call⟩ := bind_run_eq_ok call
  obtain ⟨looped, b₇, loop, call⟩ := bind_run_eq_ok call
  have first : (m.loading .sections).section b =
      .ok ((none, m.loading (.toc jump.finish entries)), b₆) := by
    rw [Loading.section, run_bind_ok named, run_bind_ok skipped, kind]
    dsimp only
    rw [run_bind_ok jumped, run_bind_ok header, run_bind_ok counted]
    rfl
  cases looped with
  | none =>
      cases call
      cases run
  | some toc =>
      dsimp only at call
      split at call
      · next same =>
          obtain ⟨loops, ended⟩ := toc_turns m.objects.things entries loop
          have last : (loading toc m.objects.things (.toc jump.finish entries)).tocEntry
              jump.finish entries b₇ =
                .ok ((none, loading toc m.objects.things .sections), b₇) := by
            rw [Loading.tocEntry, run_bind_ok rfl, if_neg ended, if_pos same]
            rfl
          cases call
          cases run
          exact (section_next inside first).trans (loops.trans (tocEntry_next last))
      · cases call

/-- A section, with all the turns of the loop in it. -/
theorem section_turns {depth turns : Nat} {m m' : NoxMap} (inside : b.rpos < b.size)
    (run : m.section depth turns b = .ok (some m', b')) :
    Reaches next (m.loading .sections, b) (m'.loading .sections, b') := by
  obtain ⟨buffer, b₁, named, run⟩ := bind_run_eq_ok run
  obtain ⟨_, b₂, skipped, run⟩ := bind_run_eq_ok run
  cases kind : sectionOf buffer with
  | unknown =>
      rw [kind] at run
      cases run
      have turn : (m.loading .sections).section b = .ok ((none, m.loading .sections), b') := by
        rw [Loading.section, run_bind_ok named, run_bind_ok skipped, kind]
        rfl
      exact section_next inside turn
  | skipped =>
      rw [kind] at run
      obtain ⟨jump, b₃, jumped, run⟩ := bind_run_eq_ok run
      have turn : (m.loading .sections).section b =
          .ok ((some jump, m.loading .sections), { b₃ with rpos := jump.finish }) := by
        rw [Loading.section, run_bind_ok named, run_bind_ok skipped, kind]
        dsimp only
        rw [run_bind_ok jumped]
        rfl
      cases run
      exact section_next inside turn
  | wallMap =>
      rw [kind] at run
      obtain ⟨walls, b₃, read, run⟩ := bind_run_eq_ok run
      cases run
      obtain ⟨jump, b₄, jumped, read⟩ := bind_run_eq_ok read
      obtain ⟨_, b₅, header, read⟩ := bind_run_eq_ok read
      obtain ⟨walls', b₆, loop, read⟩ := bind_run_eq_ok read
      cases read
      have first : (m.loading .sections).section b =
          .ok ((some jump, m.loading (.walls jump.finish)), b₅) := by
        rw [Loading.section, run_bind_ok named, run_bind_ok skipped, kind]
        dsimp only
        rw [run_bind_ok jumped, run_bind_ok header]
        rfl
      exact (section_next inside first).trans (walls_turns loop)
  | objectTOC =>
      rw [kind] at run
      exact tocSection_turns inside named skipped kind run
  | objectData =>
      rw [kind] at run
      obtain ⟨read, b₃, call, run⟩ := bind_run_eq_ok run
      obtain ⟨jump, b₄, jumped, call⟩ := bind_run_eq_ok call
      obtain ⟨_, b₅, header, call⟩ := bind_run_eq_ok call
      have first : (m.loading .sections).section b = .ok ((none, m.loading (.objects [])), b₅) := by
        rw [Loading.section, run_bind_ok named, run_bind_ok skipped, kind]
        dsimp only
        rw [run_bind_ok jumped, run_bind_ok header]
        rfl
      cases read with
      | none => cases run
      | some objects =>
          cases run
          exact (section_next inside first).trans (objects_turns call)

/-- The loop of `open`, up to the end of the buffer. -/
theorem loop_turns {depth turns more : Nat} {m m' : NoxMap}
    (run : NoxMap.loop depth turns more m b = .ok (some m', b')) :
    Reaches next (m.loading .sections, b) (m'.loading .sections, b') ∧ ¬b'.rpos < b'.size := by
  induction more generalizing m b with
  | zero => cases run
  | succ more ih =>
      obtain ⟨_, _, ⟨⟩, run⟩ := bind_run_eq_ok run
      split at run
      · next inside =>
          obtain ⟨read, b₁, turn, run⟩ := bind_run_eq_ok run
          cases read with
          | none => cases run
          | some m₁ =>
              obtain ⟨reaches, ended⟩ := ih run
              exact ⟨(section_turns inside turn).trans reaches, ended⟩
      · next ended =>
          cases run
          exact ⟨.refl _, ended⟩

/-! ### Thing.bin -/

section

variable {w w' : Loading} {jump : Option Jump}

/-- A turn that begins a section looks nothing up in thing.bin. -/
theorem section_things (run : w.section b = .ok ((jump, w'), b')) : w'.things = w.things := by
  unfold Loading.section at run
  obtain ⟨name, _, _, run⟩ := bind_run_eq_ok run
  obtain ⟨_, _, _, run⟩ := bind_run_eq_ok run
  cases kind : sectionOf name with
  | unknown =>
      rw [kind] at run
      cases run
      rfl
  | skipped =>
      rw [kind] at run
      obtain ⟨_, _, _, run⟩ := bind_run_eq_ok run
      cases run
      rfl
  | wallMap =>
      rw [kind] at run
      obtain ⟨_, _, _, run⟩ := bind_run_eq_ok run
      obtain ⟨_, _, _, run⟩ := bind_run_eq_ok run
      cases run
      rfl
  | objectTOC =>
      rw [kind] at run
      obtain ⟨_, _, _, run⟩ := bind_run_eq_ok run
      obtain ⟨_, _, _, run⟩ := bind_run_eq_ok run
      obtain ⟨_, _, _, run⟩ := bind_run_eq_ok run
      cases run
      rfl
  | objectData =>
      rw [kind] at run
      obtain ⟨_, _, _, run⟩ := bind_run_eq_ok run
      obtain ⟨_, _, _, run⟩ := bind_run_eq_ok run
      cases run
      rfl

theorem tocEntry_things {finish : Nat} {entries : UInt16}
    (run : w.tocEntry finish entries b = .ok ((jump, w'), b')) : w'.things = w.things := by
  unfold Loading.tocEntry at run
  obtain ⟨_, _, _, run⟩ := bind_run_eq_ok run
  split at run
  · obtain ⟨id, _, _, run⟩ := bind_run_eq_ok run
    obtain ⟨name, _, _, run⟩ := bind_run_eq_ok run
    cases run
    unfold Loading.insertTOC
    split <;> rfl
  · split at run
    · cases run
      rfl
    · cases run

theorem wall_things {finish : Nat} (run : w.wall finish b = .ok ((jump, w'), b')) :
    w'.things = w.things := by
  unfold Loading.wall at run
  obtain ⟨more, _, _, run⟩ := bind_run_eq_ok run
  cases more with
  | true =>
      obtain ⟨_, _, _, run⟩ := bind_run_eq_ok run
      obtain ⟨_, _, _, run⟩ := bind_run_eq_ok run
      obtain ⟨_, _, _, run⟩ := bind_run_eq_ok run
      cases run
      rfl
  | false =>
      cases run
      rfl

/-- A lookup moves the cursor of thing.bin, and leaves its entries. -/
theorem object_entries {inventories : List Nat} {ended : Place}
    (run : w.object inventories ended b = .ok ((jump, w'), b')) :
    w'.things.entries = w.things.entries := by
  unfold Loading.object at run
  obtain ⟨⟨created, w₁⟩, _, called, run⟩ := bind_run_eq_ok run
  have kept : w₁.things.entries = w.things.entries := by
    unfold Loading.createObjectFromFile at called
    obtain ⟨type, _, _, called⟩ := bind_run_eq_ok called
    cases known : w.toc.lookup type with
    | none =>
        rw [known] at called
        cases called
        rfl
    | some name =>
        rw [known] at called
        obtain ⟨_, _, _, called⟩ := bind_run_eq_ok called
        dsimp only at called
        split at called
        · obtain ⟨_, _, ⟨⟩, _⟩ := bind_run_eq_ok called
        · split at called
          · obtain ⟨_, _, ⟨⟩, _⟩ := bind_run_eq_ok called
          · obtain ⟨_, _, _, called⟩ := bind_run_eq_ok called
            obtain ⟨_, _, _, called⟩ := bind_run_eq_ok called
            cases called
            rfl
  cases created with
  | none =>
      cases run
      exact kept
  | some object =>
      cases run
      exact kept

/-- A turn changes no entry of thing.bin, whatever it looks up. -/
theorem step_entries (run : w.step b = .ok (some (jump, w'), b')) :
    w'.things.entries = w.things.entries := by
  unfold Loading.step at run
  obtain ⟨_, _, ⟨⟩, run⟩ := bind_run_eq_ok run
  cases place : w.place with
  | sections =>
      rw [place] at run
      dsimp only at run
      split at run
      · obtain ⟨_, _, turn, ⟨⟩⟩ := bind_run_eq_ok run
        rw [section_things turn]
      · cases run
  | toc finish entries =>
      rw [place] at run
      obtain ⟨_, _, turn, ⟨⟩⟩ := bind_run_eq_ok run
      rw [tocEntry_things turn]
  | walls finish =>
      rw [place] at run
      obtain ⟨_, _, turn, ⟨⟩⟩ := bind_run_eq_ok run
      rw [wall_things turn]
  | objects inventories =>
      rcases inventories with _ | ⟨_ | inventory, inventories⟩
      · rw [place] at run
        dsimp only at run
        split at run
        · obtain ⟨_, _, turn, ⟨⟩⟩ := bind_run_eq_ok run
          exact object_entries turn
        · cases run
          rfl
      · rw [place] at run
        cases run
        rfl
      · rw [place] at run
        obtain ⟨_, _, turn, ⟨⟩⟩ := bind_run_eq_ok run
        exact object_entries turn

theorem reaches_entries {s s' : Loading × ByteBuffer} (reaches : Reaches next s s') :
    s'.1.things.entries = s.1.things.entries := by
  obtain ⟨n, reached⟩ := reaches
  induction n generalizing s with
  | zero =>
      cases reached
      rfl
  | succ n ih =>
      obtain ⟨t, turn, reached⟩ := Option.bind_eq_some_iff.mp reached
      obtain ⟨jump, run⟩ := next_step turn
      exact (ih reached).trans (step_entries run)

end

/-- What `openMap` loads, the machine loads turn by turn: it comes to the end of the same file,
where it has the same names and the same thing.bin, of which only the cursor may have moved. So the
end of the loading is proved of what `openMap` does. -/
theorem openMap_turns {mgr : ObjectMgr Nat} {depth turns : Nat} {file : List UInt8} {m : NoxMap}
    (run : openMap things mgr depth turns file = .ok (some m)) :
    ∃ b w b', openFile file = .ok b ∧ Reaches next ({ things := things }, b) (w, b') ∧
      w.step b' = .ok (none, b') ∧ w.toc = m.objectTOC ∧ w.things = m.objects.things ∧
      w.things.entries = things.entries := by
  obtain ⟨b, opened, run⟩ := bind_eq_ok.mp run
  obtain ⟨⟨read, b'⟩, loop, run⟩ := bind_eq_ok.mp run
  cases run
  obtain ⟨reaches, ended⟩ := loop_turns loop
  refine ⟨b, m.loading .sections, b', opened, reaches, ?_, rfl, rfl, reaches_entries reaches⟩
  rw [Loading.step, run_bind_ok rfl]
  dsimp only [NoxMap.loading]
  rw [if_neg ended]
  rfl

/-- A map with a bag and what is in it. -/
def looseBag : MapFile where
  header := List.replicate 20 1
  sections := [
    .objectTOC 1 3 [(1, [0x41]), (2, [0x42]), (3, [0x43])] (by decide),
    .objectData 0 1 [bagNode] 0]
  zeros := 3
  pad _ _ := 0
  header_sized := rfl

theorem openMap_turns_bag :
    ∃ m b w b', openMap ⟨[⟨[0x41], 0⟩, ⟨[0x42], 0⟩, ⟨[0x43], 0⟩], 0⟩ { extent := fun _ => 0 } 3 5
        looseBag.encode = .ok (some m) ∧
      openFile looseBag.encode = .ok b ∧
      Reaches next ({ things := ⟨[⟨[0x41], 0⟩, ⟨[0x42], 0⟩, ⟨[0x43], 0⟩], 0⟩ }, b) (w, b') ∧
      w.step b' = .ok (none, b') ∧ w.toc = m.objectTOC ∧ w.things = m.objects.things ∧
      w.things.entries = [⟨[0x41], 0⟩, ⟨[0x42], 0⟩, ⟨[0x43], 0⟩] := by
  have loads : (openMap ⟨[⟨[0x41], 0⟩, ⟨[0x42], 0⟩, ⟨[0x43], 0⟩], 0⟩ { extent := fun _ => 0 } 3 5
      looseBag.encode).toOption.join.isSome = true := by decide +kernel
  cases run : openMap ⟨[⟨[0x41], 0⟩, ⟨[0x42], 0⟩, ⟨[0x43], 0⟩], 0⟩ { extent := fun _ => 0 } 3 5
      looseBag.encode with
  | error fault =>
      rw [run] at loads
      cases loads
  | ok read =>
      rw [run] at loads
      obtain ⟨m, rfl⟩ := Option.isSome_iff_exists.mp loads
      obtain ⟨b, w, b', turns⟩ := openMap_turns run
      exact ⟨m, b, w, b', rfl, turns⟩

end NoxServer.Map
