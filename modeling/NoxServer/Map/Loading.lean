import NoxServer.Library.Progress
import NoxServer.Map.NoxMap

/-!
When the loading of a map ends.

Each turn of a loop either reads on or leaves a loop, and a jump goes back only by the length it
reads. So the loading ends when no length takes it back, and more exactly when only finitely many
do (`load_ends_iff`): a section whose length leads back to its own name is read over and over
(`load_goes_on`).
-/

namespace NoxServer.Map

open ByteBuffer Consume Progress

/-! ### Reading on -/

theorem setRpos_keeps (rpos : Nat) : Keeps view (setRpos rpos) := by
  rintro b _ _ ⟨⟩
  rfl

theorem readstring_keeps (width maxlength : Nat) : Keeps view (readstring width maxlength) := by
  refine (keeps_of_yields (read_yields width)).bind fun bytes => keeps_get.bind fun b => ?_
  refine Keeps.ite ?_ (keeps_of_yields (read_yields _))
  refine (keeps_of_yields (read_yields _)).bind fun string => keeps_get.bind fun _ => ?_
  exact (setRpos_keeps _).bind fun _ => keeps_pure string

theorem readFields_keeps (sizes : List Nat) : Keeps view (readFields sizes) :=
  keeps_of_yields (readFields_yields sizes)

theorem defaultXferHandler_keeps : Keeps view defaultXferHandler := by
  refine (readFields_keeps _).bind fun _ =>
    (keeps_of_yields readUInt16_yields).bind fun props2 => ?_
  refine (readFields_keeps _).bind fun _ => (keeps_of_yields readUInt8_yields).bind fun more => ?_
  refine Keeps.ite ?_ (keeps_pure 0)
  refine (readFields_keeps _).bind fun _ => (readstring_keeps 1 256).bind fun _ => ?_
  refine (readFields_keeps _).bind fun _ =>
    (keeps_of_yields readUInt8_yields).bind fun inventory => ?_
  refine (keeps_of_yields readUInt16_yields).bind fun count => ?_
  refine (readFields_keeps _).bind fun _ => (readFields_keeps _).bind fun _ => ?_
  have last : Keeps view (do
      readFields [8]
      return inventory.toNat : Reader Nat) :=
    (readFields_keeps _).bind fun _ => keeps_pure _
  exact Keeps.ite ((readstring_keeps 4 256).bind fun _ => last) last

theorem read_advances (len : Nat) : Advances view (read len) len :=
  advances_of_yields (read_yields len)

theorem readFields_advances (sizes : List Nat) : Advances view (readFields sizes) 0 :=
  (advances_of_yields (readFields_yields sizes)).mono (Nat.zero_le _)

theorem skipToQword_advances : Advances view skipToQword 0 :=
  advances_get.andThen fun _ => (advances_of_yields (skip_yields _)).mono (Nat.zero_le _)

theorem readJump_advances : Advances view readJump 8 :=
  (read_advances 8).andThen fun _ => advances_get.andThen fun _ => advances_pure _

/-- What it means for a buffer that a reader advances. -/
theorem advanced {α : Type} {reader : Reader α} {count : Nat}
    (advances : Advances view reader count) {b b' : ByteBuffer} {x : α}
    (run : reader b = .ok (x, b')) : b'.storage = b.storage ∧ b.rpos + count ≤ b'.rpos :=
  advances b x b' run

/-- A buffer can be so large. -/
def Holds (b : ByteBuffer) : Prop := b.size < 0x80000000

theorem Holds.of_size {b b' : ByteBuffer} (same : b'.size = b.size) (holds : Holds b) :
    Holds b' := by
  rwa [Holds, same]

/-- A read within the buffer ends within it. -/
theorem read_inside {len : Nat} {b b' : ByteBuffer} {bytes : List UInt8} (inside : b.rpos ≤ b.size)
    (run : read len b = .ok (bytes, b')) : b'.rpos ≤ b'.size := by
  rcases Nat.eq_zero_or_pos len with rfl | positive
  · cases run
    exact inside
  · have room := read_room positive run
    rw [read_eq_ok positive room] at run
    cases run
    exact room

/-- A string with a length of one byte is moved over: what has no room in the array ends too near
to the buffer for the position to wrap. -/
theorem readstring_on {maxlength : Nat} {b b' : ByteBuffer} {string : List UInt8}
    (holds : Holds b) (run : readstring 1 maxlength b = .ok (string, b')) : b.rpos < b'.rpos := by
  obtain ⟨bytes, b1, first, run⟩ := bind_run_eq_ok run
  obtain ⟨data1, pos1⟩ := advanced (read_advances 1) first
  have size1 : b1.size = b.size := congrArg List.length data1
  have inside1 := read_inside (Nat.le_of_succ_le (read_room Nat.one_pos first)) first
  have byte := fromBytes_lt bytes
  rw [length_read first] at byte
  have short : (if b1.rpos ≥ b1.size then 0 else fromBytes bytes) < 0x100 := by
    split
    · decide
    · exact byte
  obtain ⟨_, _, ⟨⟩, run⟩ := bind_run_eq_ok run
  dsimp only at run
  generalize (if b1.rpos ≥ b1.size then 0 else fromBytes bytes) = length at run short
  split at run
  · obtain ⟨string, b2, second, run⟩ := bind_run_eq_ok run
    obtain ⟨data2, pos2⟩ := advanced (read_advances _) second
    have size2 : b2.size = b1.size := congrArg List.length data2
    have inside2 := read_inside inside1 second
    obtain ⟨_, _, ⟨⟩, run⟩ := bind_run_eq_ok run
    cases run
    unfold Holds at holds
    show b.rpos < sizeT (b2.rpos + length - (maxlength - 1))
    rw [sizeT_of_lt (by omega)]
    omega
  · obtain ⟨-, pos2⟩ := advanced (read_advances _) run
    omega

/-- The position a length is added to is the one after it. -/
theorem readJump_pos {b b' : ByteBuffer} {jump : Jump} (run : readJump b = .ok (jump, b')) :
    jump.pos = b'.rpos := by
  obtain ⟨bytes, mid, _, run⟩ := bind_run_eq_ok run
  cases run
  rfl

theorem readUInt16_room {b b' : ByteBuffer} {value : UInt16}
    (run : readUInt16 b = .ok (value, b')) : b.rpos + 2 ≤ b.size := by
  obtain ⟨bytes, mid, first, _⟩ := bind_run_eq_ok run
  exact read_room Nat.two_pos first

/-! ### Turns -/

/-- The jump does not lead back. -/
def Jump.Forward (jump : Jump) : Prop := jump.pos ≤ jump.finish

instance (jump : Jump) : Decidable jump.Forward := inferInstanceAs (Decidable (_ ≤ _))

/-- The position the loading goes on from when it leaves the loop it is in. -/
def key (w : Loading) (b : ByteBuffer) : Nat :=
  match w.place with
  | .walls finish => finish
  | _ => b.rpos

/-- A section begins with its name, and leads on from there. -/
theorem section_leads {w w' : Loading} {b b' : ByteBuffer} {jump : Option Jump}
    (run : w.section b = .ok ((jump, w'), b')) (sections : w.place = .sections) :
    b'.storage = b.storage ∧
      (Holds b → (∀ j, jump = some j → j.Forward) → b.rpos < key w' b') := by
  unfold Loading.section at run
  obtain ⟨name, b1, named, run⟩ := bind_run_eq_ok run
  obtain ⟨_, b2, skipped, run⟩ := bind_run_eq_ok run
  obtain ⟨data2, pos2⟩ := advanced skipToQword_advances skipped
  have data : b2.storage = b.storage := data2.trans (readstring_keeps _ _ _ _ _ named)
  have pos1 (holds : Holds b) : b.rpos < b1.rpos := readstring_on holds named
  cases kind : sectionOf name with
  | unknown =>
      rw [kind] at run
      cases run
      rw [key, sections]
      refine ⟨data, fun holds _ => ?_⟩
      have pos1 := pos1 holds
      dsimp only
      omega
  | skipped =>
      rw [kind] at run
      obtain ⟨j, b3, jumped, run⟩ := bind_run_eq_ok run
      obtain ⟨data3, pos3⟩ := advanced readJump_advances jumped
      have start := readJump_pos jumped
      cases run
      rw [key, sections]
      refine ⟨data3.trans data, fun holds forward => ?_⟩
      have pos1 := pos1 holds
      have on : j.pos ≤ j.finish := forward j rfl
      dsimp only
      omega
  | wallMap =>
      rw [kind] at run
      obtain ⟨j, b3, jumped, run⟩ := bind_run_eq_ok run
      obtain ⟨data3, pos3⟩ := advanced readJump_advances jumped
      have start := readJump_pos jumped
      obtain ⟨_, b4, header, run⟩ := bind_run_eq_ok run
      obtain ⟨data4, -⟩ := advanced (readFields_advances _) header
      cases run
      rw [key]
      refine ⟨data4.trans (data3.trans data), fun holds forward => ?_⟩
      have pos1 := pos1 holds
      have on : j.pos ≤ j.finish := forward j rfl
      dsimp only
      omega
  | objectTOC =>
      rw [kind] at run
      obtain ⟨j, b3, jumped, run⟩ := bind_run_eq_ok run
      obtain ⟨data3, pos3⟩ := advanced readJump_advances jumped
      obtain ⟨_, b4, header, run⟩ := bind_run_eq_ok run
      obtain ⟨data4, pos4⟩ := advanced (readFields_advances _) header
      obtain ⟨entries, b5, counted, run⟩ := bind_run_eq_ok run
      obtain ⟨data5, pos5⟩ := advanced (advances_of_yields readUInt16_yields) counted
      cases run
      rw [key]
      refine ⟨data5.trans (data4.trans (data3.trans data)), fun holds _ => ?_⟩
      have pos1 := pos1 holds
      dsimp only
      omega
  | objectData =>
      rw [kind] at run
      obtain ⟨j, b3, jumped, run⟩ := bind_run_eq_ok run
      obtain ⟨data3, pos3⟩ := advanced readJump_advances jumped
      obtain ⟨_, b4, header, run⟩ := bind_run_eq_ok run
      obtain ⟨data4, pos4⟩ := advanced (readFields_advances _) header
      cases run
      rw [key]
      refine ⟨data4.trans (data3.trans data), fun holds _ => ?_⟩
      have pos1 := pos1 holds
      dsimp only
      omega

/-- A turn of the loop over the table of names reads an entry, or leaves the loop. -/
theorem tocEntry_leads {w w' : Loading} {b b' : ByteBuffer} {jump : Option Jump} {finish : Nat}
    {entries : UInt16} (run : w.tocEntry finish entries b = .ok ((jump, w'), b')) :
    b'.storage = b.storage ∧
      ((w'.place = w.place ∧ b.rpos < b.size ∧ (Holds b → b.rpos < b'.rpos)) ∨
        (w'.place = .sections ∧ b'.rpos = b.rpos)) := by
  unfold Loading.tocEntry at run
  obtain ⟨_, _, ⟨⟩, run⟩ := bind_run_eq_ok run
  split at run
  · obtain ⟨id, b1, first, run⟩ := bind_run_eq_ok run
    have room := readUInt16_room first
    obtain ⟨data1, pos1⟩ := advanced (advances_of_yields readUInt16_yields) first
    obtain ⟨name, b2, second, run⟩ := bind_run_eq_ok run
    have data2 : b2.storage = b1.storage := readstring_keeps _ _ _ _ _ second
    cases run
    have place : (w.insertTOC id name).place = w.place := by
      unfold Loading.insertTOC
      split <;> rfl
    refine ⟨data2.trans data1, .inl ⟨place, by omega, fun holds => ?_⟩⟩
    have size1 : b1.size = b.size := congrArg List.length data1
    have pos2 := readstring_on (Holds.of_size size1 holds) second
    omega
  · split at run
    · cases run
      exact ⟨rfl, .inr ⟨rfl, rfl⟩⟩
    · cases run

theorem readUInt8_moves {b b' : ByteBuffer} {value : UInt8}
    (run : readUInt8 b = .ok (value, b')) :
    b.rpos < b.size ∧ b'.storage = b.storage ∧ b'.rpos = b.rpos + 1 := by
  by_cases room : b.rpos + 1 ≤ b.size
  · rw [readUInt8_eq_ok room] at run
    cases run
    exact ⟨room, rfl, rfl⟩
  · obtain ⟨fault, fails⟩ := readUInt8_eq_error room
    rw [fails] at run
    cases run

theorem moreWalls_leads {b b' : ByteBuffer} {more : Bool}
    (run : moreWalls b = .ok (more, b')) :
    b.rpos < b.size ∧ b'.storage = b.storage ∧ (more = true → b'.rpos = b.rpos + 2) := by
  unfold moreWalls at run
  obtain ⟨first, b1, one, run⟩ := bind_run_eq_ok run
  obtain ⟨room, data1, pos1⟩ := readUInt8_moves one
  split at run
  · obtain ⟨second, b2, two, run⟩ := bind_run_eq_ok run
    obtain ⟨-, data2, pos2⟩ := readUInt8_moves two
    cases run
    exact ⟨room, data2.trans data1, fun _ => by omega⟩
  · cases run
    exact ⟨room, data1, nofun⟩

/-- A turn of the loop over the walls reads a wall, or goes to the end of the section. -/
theorem wall_leads {w w' : Loading} {b b' : ByteBuffer} {jump : Option Jump} {finish : Nat}
    (run : w.wall finish b = .ok ((jump, w'), b')) :
    b'.storage = b.storage ∧
      ((w'.place = w.place ∧ b.rpos < b.size ∧ b.rpos < b'.rpos) ∨
        (w'.place = .sections ∧ b'.rpos = finish)) := by
  unfold Loading.wall at run
  obtain ⟨more, b1, condition, run⟩ := bind_run_eq_ok run
  obtain ⟨room, data1, two⟩ := moreWalls_leads condition
  cases more with
  | true =>
      have back := two rfl
      obtain ⟨_, _, ⟨⟩, run⟩ := bind_run_eq_ok run
      obtain ⟨_, _, ⟨⟩, run⟩ := bind_run_eq_ok run
      obtain ⟨_, b2, read, run⟩ := bind_run_eq_ok run
      have here := readFields_yields [1, 1, 1, 1, 1, 1, 1] { b1 with rpos := b1.rpos - 2 }
      rw [read] at here
      obtain ⟨-, data2, pos2⟩ := here
      have moved : b2.rpos = b1.rpos - 2 + 7 := pos2
      cases run
      exact ⟨data2.trans data1, .inl ⟨rfl, room, by omega⟩⟩
  | false =>
      cases run
      exact ⟨data1, .inr ⟨rfl, rfl⟩⟩

/-- A call of `CreateObjectFromFile` reads on. -/
theorem object_leads {w w' : Loading} {b b' : ByteBuffer} {jump : Option Jump}
    {inventories : List Nat} {ended : Place}
    (run : w.object inventories ended b = .ok ((jump, w'), b')) :
    b'.storage = b.storage ∧ b.rpos < b.size ∧
      ((∀ j, jump = some j → j.Forward) → b.rpos < b'.rpos) ∧
      (w'.place = ended ∨ ∃ inventory, w'.place = .objects (inventory :: inventories)) := by
  unfold Loading.object at run
  obtain ⟨⟨created, w1⟩, b1, called, run⟩ := bind_run_eq_ok run
  unfold Loading.createObjectFromFile at called
  obtain ⟨type, b2, first, called⟩ := bind_run_eq_ok called
  have room := readUInt16_room first
  obtain ⟨data2, pos2⟩ := advanced (advances_of_yields readUInt16_yields) first
  cases known : w.toc.lookup type with
  | none =>
      rw [known] at called
      cases called
      cases run
      exact ⟨data2, by omega, fun _ => by omega, .inl rfl⟩
  | some name =>
      rw [known] at called
      obtain ⟨_, b3, skipped, called⟩ := bind_run_eq_ok called
      obtain ⟨data3, pos3⟩ := advanced skipToQword_advances skipped
      dsimp only at called
      split at called
      · obtain ⟨_, _, ⟨⟩, _⟩ := bind_run_eq_ok called
      · split at called
        · obtain ⟨_, _, ⟨⟩, _⟩ := bind_run_eq_ok called
        · obtain ⟨j, b4, jumped, called⟩ := bind_run_eq_ok called
          obtain ⟨data4, pos4⟩ := advanced readJump_advances jumped
          have start := readJump_pos jumped
          obtain ⟨inventory, b5, xfer, called⟩ := bind_run_eq_ok called
          have data5 : b5.storage = b4.storage := defaultXferHandler_keeps _ _ _ xfer
          cases called
          cases run
          refine ⟨data5.trans (data4.trans (data3.trans data2)), by omega, fun forward => ?_,
            .inr ⟨_, rfl⟩⟩
          have on : j.pos ≤ j.finish := forward j rfl
          dsimp only
          omega

/-! ### The end of the loading -/

/-- The next turn, if there is one. -/
def next (s : Loading × ByteBuffer) : Option (Loading × ByteBuffer) :=
  match s.1.step s.2 with
  | .ok (some (_, w), b) => some (w, b)
  | _ => none

/-- The jump of the next turn does not lead back. -/
def Good (s : Loading × ByteBuffer) : Prop :=
  ∀ jump w b, s.1.step s.2 = .ok (some (some jump, w), b) → jump.Forward

/-- How much is left to do in the loop the loading is in. -/
def depth (w : Loading) (b : ByteBuffer) : Nat :=
  match w.place with
  | .sections => 0
  | .toc _ _ => 1
  | .walls _ => 1 + (b.size - b.rpos)
  | .objects inventories => 1 + inventories.length

/-- How much is left to read from where the loading goes on, and in the loop it is in. -/
def rank (s : Loading × ByteBuffer) : Nat × Nat :=
  (s.2.size + 1 - key s.1 s.2, depth s.1 s.2)

/-- The order of the ranks. -/
def Lower : Nat × Nat → Nat × Nat → Prop := Prod.Lex (· < ·) (· < ·)

/-- A turn from which the loading goes on further. -/
theorem lower_of_key {w w' : Loading} {b b' : ByteBuffer} (data : b'.storage = b.storage)
    (room : key w b < b.size + 1) (on : key w b < key w' b') :
    Lower (rank (w', b')) (rank (w, b)) := by
  refine .left _ _ ?_
  have size : b'.size = b.size := congrArg List.length data
  dsimp only
  omega

/-- A turn that leaves less to do. -/
theorem lower_of_depth {w w' : Loading} {b b' : ByteBuffer} (data : b'.storage = b.storage)
    (same : key w' b' = key w b) (less : depth w' b' < depth w b) :
    Lower (rank (w', b')) (rank (w, b)) := by
  have size : b'.size = b.size := congrArg List.length data
  rw [rank, rank, Lower, same, size]
  exact .right _ less

/-- A call of `CreateObjectFromFile` lowers the rank, if its jump does not lead back. -/
theorem object_lower {w w' : Loading} {b b' : ByteBuffer} {jump : Option Jump}
    {stack inventories : List Nat} {ended : Place} (place : w.place = .objects stack)
    (turn : w.object inventories ended b = .ok ((jump, w'), b'))
    (outside : ended = .sections ∨ ∃ rest, ended = .objects rest) :
    b'.storage = b.storage ∧
      ((∀ j, jump = some j → j.Forward) → Lower (rank (w', b')) (rank (w, b))) := by
  have here : key w b = b.rpos := by rw [key, place]
  obtain ⟨data, room, on, led⟩ := object_leads turn
  refine ⟨data, fun forward => ?_⟩
  have on := on forward
  have there : key w' b' = b'.rpos := by
    rcases led with led | ⟨inventory, child⟩
    · rcases outside with is | ⟨rest, is⟩
      · rw [key, led, is]
      · rw [key, led, is]
    · rw [key, child]
  exact lower_of_key data (by omega) (by omega)

/-- A turn leaves the file as it is, and if its jump does not lead back it lowers the rank. -/
theorem step_leads {w w' : Loading} {b b' : ByteBuffer} {jump : Option Jump}
    (run : w.step b = .ok (some (jump, w'), b')) :
    b'.storage = b.storage ∧
      (Holds b → (∀ j, jump = some j → j.Forward) → Lower (rank (w', b')) (rank (w, b))) := by
  unfold Loading.step at run
  obtain ⟨_, _, ⟨⟩, run⟩ := bind_run_eq_ok run
  cases place : w.place with
  | sections =>
      rw [place] at run
      dsimp only at run
      split at run
      · next inside =>
          obtain ⟨_, _, turn, ⟨⟩⟩ := bind_run_eq_ok run
          obtain ⟨data, on⟩ := section_leads turn place
          refine ⟨data, fun holds forward => ?_⟩
          have on := on holds forward
          have here : key w b = b.rpos := by rw [key, place]
          exact lower_of_key data (by omega) (by omega)
      · cases run
  | toc finish entries =>
      rw [place] at run
      obtain ⟨_, _, turn, ⟨⟩⟩ := bind_run_eq_ok run
      have here : key w b = b.rpos := by rw [key, place]
      obtain ⟨data, ⟨still, room, on⟩ | ⟨left_, same⟩⟩ := tocEntry_leads turn
      · refine ⟨data, fun holds _ => ?_⟩
        have on := on holds
        have there : key w' b' = b'.rpos := by rw [key, still, place]
        exact lower_of_key data (by omega) (by omega)
      · have there : key w' b' = b'.rpos := by rw [key, left_]
        refine ⟨data, fun _ _ => lower_of_depth data (by omega) ?_⟩
        rw [depth, depth, left_, place]
        exact Nat.one_pos
  | walls finish =>
      rw [place] at run
      obtain ⟨_, _, turn, ⟨⟩⟩ := bind_run_eq_ok run
      have here : key w b = finish := by rw [key, place]
      obtain ⟨data, ⟨still, room, on⟩ | ⟨left_, same⟩⟩ := wall_leads turn
      · have there : key w' b' = finish := by rw [key, still, place]
        have size : b'.size = b.size := congrArg List.length data
        refine ⟨data, fun _ _ => lower_of_depth data (by omega) ?_⟩
        rw [depth, depth, still, place]
        dsimp only
        omega
      · have there : key w' b' = b'.rpos := by rw [key, left_]
        refine ⟨data, fun _ _ => lower_of_depth data (by omega) ?_⟩
        rw [depth, depth, left_, place]
        dsimp only
        omega
  | objects inventories =>
      have here : key w b = b.rpos := by rw [key, place]
      rcases inventories with _ | ⟨_ | inventory, inventories⟩
      · rw [place] at run
        dsimp only at run
        split at run
        · obtain ⟨_, _, turn, ⟨⟩⟩ := bind_run_eq_ok run
          obtain ⟨data, lower⟩ := object_lower place turn (.inl rfl)
          exact ⟨data, fun _ => lower⟩
        · cases run
          refine ⟨rfl, fun _ _ => lower_of_depth rfl (by rw [here, key]) ?_⟩
          rw [depth, depth, place]
          exact Nat.one_pos
      · rw [place] at run
        cases run
        refine ⟨rfl, fun _ _ => lower_of_depth rfl (by rw [here, key]) ?_⟩
        rw [depth, depth, place]
        dsimp only
        rw [List.length_cons]
        omega
      · rw [place] at run
        obtain ⟨_, _, turn, ⟨⟩⟩ := bind_run_eq_ok run
        obtain ⟨data, lower⟩ := object_lower place turn (.inr ⟨_, rfl⟩)
        exact ⟨data, fun _ => lower⟩

theorem lower_wellFounded : WellFounded Lower :=
  (Prod.lex ⟨_, wellFounded_lt⟩ ⟨_, wellFounded_lt⟩).wf

theorem next_step {s s' : Loading × ByteBuffer} (turn : next s = some s') :
    ∃ jump, s.1.step s.2 = .ok (some (jump, s'.1), s'.2) := by
  unfold next at turn
  split at turn
  · next jump w b run =>
      cases turn
      exact ⟨jump, run⟩
  · cases turn

theorem next_lowers {s s' : Loading × ByteBuffer} (good : Good s ∧ Holds s.2)
    (turn : next s = some s') : Lower (rank s') (rank s) := by
  obtain ⟨jump, run⟩ := next_step turn
  refine (step_leads run).2 good.2 fun j here => ?_
  subst here
  exact good.1 j s'.1 s'.2 run

/-- The turns leave the file as it is. -/
theorem after_holds {n : Nat} {s s' : Loading × ByteBuffer} (holds : Holds s.2)
    (reached : after next n s = some s') : Holds s'.2 := by
  induction n generalizing s with
  | zero =>
      cases reached
      exact holds
  | succ n ih =>
      obtain ⟨t, turn, reached⟩ := Option.bind_eq_some_iff.mp reached
      obtain ⟨jump, run⟩ := next_step turn
      exact ih (holds.of_size (congrArg List.length (step_leads run).1)) reached

/-- A turn that has no next one is the end of the file or a fault. -/
theorem next_eq_none_iff {s : Loading × ByteBuffer} :
    next s = none ↔
      (∃ b, s.1.step s.2 = .ok (none, b)) ∨ ∃ fault, s.1.step s.2 = .error fault := by
  unfold next
  rcases s.1.step s.2 with fault | ⟨_ | ⟨jump, w⟩, b⟩
  · exact ⟨fun _ => .inr ⟨fault, rfl⟩, fun _ => rfl⟩
  · exact ⟨fun _ => .inl ⟨b, rfl⟩, fun _ => rfl⟩
  · constructor
    · nofun
    · rintro (⟨_, ⟨⟩⟩ | ⟨_, ⟨⟩⟩)

/-- The header is read in the buffer that is decrypted. -/
theorem header_storage {storage : List UInt8} {b : ByteBuffer}
    (run : (do
      let (fileid, b) ← readUInt32 { storage := storage }
      let ((), b) ← readFields [20] b
      if fileid = 0xFADEFACE then return b else throw .assertion : Except Fault ByteBuffer) =
        .ok b) : b.storage = storage := by
  obtain ⟨⟨fileid, b₁⟩, first, run⟩ := bind_eq_ok.mp run
  obtain ⟨⟨_, b₂⟩, fields, run⟩ := bind_eq_ok.mp run
  have data₁ := keeps_of_yields readUInt32_yields _ _ _ first
  have data₂ := readFields_keeps _ _ _ _ fields
  dsimp only at run
  split at run
  · cases run
    exact data₂.trans data₁
  · cases run

/-- A file that is opened has a size that is a `long`. -/
theorem openFile_holds {file : List UInt8} {b : ByteBuffer} (opened : openFile file = .ok b) :
    Holds b := by
  obtain ⟨b₀, buffer, opened⟩ := bind_eq_ok.mp opened
  unfold openBuffer at buffer
  split at buffer
  · next small =>
      obtain ⟨⟨fileid, b₁⟩, -, opened⟩ := bind_eq_ok.mp opened
      dsimp only at opened
      split at opened
      · obtain ⟨storage, decrypted, header⟩ := bind_eq_ok.mp opened
        cases run : Crypt.decrypt file .map with
        | error fault =>
            rw [run] at decrypted
            cases decrypted
        | ok out =>
            rw [run] at decrypted
            cases decrypted
            rw [Holds, size, header_storage header, Crypt.decrypt_length run]
            exact small
      · rw [Holds, size, header_storage opened]
        exact small
  · cases buffer

/-! ### The end of the loading -/

/-- Where the loading of an open file begins. -/
def start (things : Objects.ThingList) (b : ByteBuffer) : Loading × ByteBuffer :=
  ({ things := things }, b)

/-- The loading of a file, once it is open, comes to the end of the buffer or to a fault after
finitely many turns; a file that does not open has ended with the fault. An access outside the
buffer is no end: what it reads, and where the loading goes on, is not known. -/
def LoadEnds (things : Objects.ThingList) (file : List UInt8) : Prop :=
  openFile file ≠ .error .outOfBounds ∧
    ∀ b, openFile file = .ok b → ∃ n s, after next n (start things b) = some s ∧
      ((∃ b', s.1.step s.2 = .ok (none, b')) ∨
        ∃ fault, s.1.step s.2 = .error fault ∧ fault ≠ .outOfBounds)

/-- Only finitely many of the jumps in the loading of a file lead back. -/
def FewLeadBack (things : Objects.ThingList) (file : List UInt8) : Prop :=
  ∀ b, openFile file = .ok b →
    ∃ N, ∀ n s, N ≤ n → after next n (start things b) = some s → Good s

/-- The loading does not leave the buffer: the blocks that are decrypted are in it, and no read
passes its check with a sum that wraps. -/
def StaysInside (things : Objects.ThingList) (file : List UInt8) : Prop :=
  openFile file ≠ .error .outOfBounds ∧
    ∀ b, openFile file = .ok b → ∀ n s, after next n (start things b) = some s →
      s.1.step s.2 ≠ .error .outOfBounds

/-- A loading comes to its last turn exactly when only finitely many of its jumps lead back. -/
theorem ends_iff_few {things : Objects.ThingList} {b : ByteBuffer} (holds : Holds b) :
    Ends next (start things b) ↔
      ∃ N, ∀ n s, N ≤ n → after next n (start things b) = some s → Good s := by
  rw [ends_iff lower_wellFounded rank (fun _ _ => next_lowers)]
  refine exists_congr fun N => forall_congr' fun n => forall_congr' fun s => ?_
  refine forall_congr' fun _ => forall_congr' fun reached => ?_
  exact and_iff_left (after_holds (s := start things b) holds reached)

/-- A last turn is an end unless it leaves the buffer. -/
theorem last_iff {s : Loading × ByteBuffer} :
    ((∃ b, s.1.step s.2 = .ok (none, b)) ∨
        ∃ fault, s.1.step s.2 = .error fault ∧ fault ≠ .outOfBounds) ↔
      next s = none ∧ s.1.step s.2 ≠ .error .outOfBounds := by
  rw [next_eq_none_iff]
  constructor
  · rintro (⟨b, last⟩ | ⟨fault, failed, inside⟩)
    · exact ⟨.inl ⟨b, last⟩, fun outside => by rw [outside] at last; cases last⟩
    · refine ⟨.inr ⟨fault, failed⟩, fun outside => inside ?_⟩
      rw [outside] at failed
      exact (Except.error.inj failed).symm
  · rintro ⟨last | ⟨fault, failed⟩, inside⟩
    · exact .inl last
    · exact .inr ⟨fault, failed, fun outside => inside (outside ▸ failed)⟩

/-- The loading of a file ends exactly when only finitely many of its jumps lead back and it does
not leave the buffer. Between two jumps that lead back each turn lowers a measure: the bytes that
are left after the position the loading goes on from, and then what is left in the loop it is in. -/
theorem load_ends_iff (things : Objects.ThingList) (file : List UInt8) :
    LoadEnds things file ↔ FewLeadBack things file ∧ StaysInside things file := by
  constructor
  · rintro ⟨opens, ends⟩
    refine ⟨fun b opened => ?_, opens, fun b opened n t reached outside => ?_⟩
    · obtain ⟨n, s, reached, last⟩ := ends b opened
      exact (ends_iff_few (openFile_holds opened)).mp ⟨n, s, reached, (last_iff.mp last).1⟩
    · obtain ⟨m, s, reached', last⟩ := ends b opened
      obtain ⟨stops, inside⟩ := last_iff.mp last
      -- There is one last turn, and that one stays inside.
      have same : t = s :=
        last_unique reached (next_eq_none_iff.mpr (.inr ⟨_, outside⟩)) reached' stops
      exact inside (same ▸ outside)
  · rintro ⟨few, opens, inside⟩
    refine ⟨opens, fun b opened => ?_⟩
    obtain ⟨n, s, reached, stops⟩ := (ends_iff_few (openFile_holds opened)).mpr (few b opened)
    exact ⟨n, s, reached, last_iff.mpr ⟨stops, inside b opened n s reached⟩⟩

/-- A file whose only section has the length that leads back to its name. -/
def backwardMap : List UInt8 :=
  [0xCE, 0xFA, 0xDE, 0xFA] ++ List.replicate 20 0 ++ [7] ++ ascii "MapInfo" ++
    [0xF0, 0xFF, 0xFF, 0xFF, 0xFF, 0xFF, 0xFF, 0xFF]

/-- The section of this file is read over and over. -/
theorem load_goes_on : ¬∀ things file, LoadEnds things file := by
  intro always
  have opened : openFile backwardMap = .ok { storage := backwardMap, rpos := 24 } := by
    decide +kernel
  obtain ⟨n, s, reached, last⟩ := (always { entries := [] } backwardMap).2 _ opened
  have again : next (start { entries := [] } { storage := backwardMap, rpos := 24 }) =
      some (start { entries := [] } { storage := backwardMap, rpos := 24 }) := by rfl
  have stays : after next n (start { entries := [] } { storage := backwardMap, rpos := 24 }) =
      some (start { entries := [] } { storage := backwardMap, rpos := 24 }) := by
    clear reached
    induction n with
    | zero => rfl
    | succ n ih => rw [after, again, Option.bind_some, ih]
  rw [stays] at reached
  cases reached
  rw [(last_iff.mp last).1] at again
  cases again

end NoxServer.Map
