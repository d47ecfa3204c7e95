import NoxServer.Map.NoxMap
import NoxServer.Shared.Streams

/-!
The strings of `NoxBuffer` (`NoxBuffer.h`).

A string is stored with its length before it. `readstring` copies what has room in the caller's
array, ends it with a zero and skips the rest. The rest is skipped by its number of characters,
which is its number of bytes only if a character has one: with `wchar_t` a string that is cut
off is not consumed (`readstring_exact_iff`).
-/

namespace NoxServer.NoxBuffer

open ByteBuffer Consume
open Decode (Cursor)

/-! ### Characters -/

/-- How the characters of a type are stored. -/
structure Encoding (α : Type) where
  sizeof : Nat
  encode : α → List UInt8
  decode : List UInt8 → List α
  length_encode : ∀ c, (encode c).length = sizeof
  decode_encode : ∀ cs : List α, decode (cs.flatMap encode) = cs

def char : Encoding UInt8 where
  sizeof := 1
  encode c := [c]
  decode bytes := bytes
  length_encode _ := rfl
  decode_encode cs := List.flatMap_singleton' cs

/-- The characters of two bytes each that some bytes are. -/
def wideCharacters : List UInt8 → List UInt16
  | low :: high :: bytes => UInt16.ofNat (fromBytes [low, high]) :: wideCharacters bytes
  | _ => []

theorem wideCharacters_toBytes (c : UInt16) (bytes : List UInt8) :
    wideCharacters (toBytes 2 c.toNat ++ bytes) = c :: wideCharacters bytes := by
  have small : c.toNat < 256 ^ 2 := c.toNat_lt
  have value : UInt16.ofNat (fromBytes (toBytes 2 c.toNat)) = c := by
    rw [fromBytes_toBytes, Nat.mod_eq_of_lt small, UInt16.ofNat_toNat]
  exact congrArg (· :: wideCharacters bytes) value

/-- `wchar_t`, of the two bytes the source counts for it. -/
def wchar : Encoding UInt16 where
  sizeof := 2
  encode c := toBytes 2 c.toNat
  decode := wideCharacters
  length_encode _ := length_toBytes 2 _
  decode_encode cs := by
    induction cs with
    | nil => rfl
    | cons c cs ih => rw [List.flatMap_cons, wideCharacters_toBytes, ih]

/-! ### Reading -/

/-- A number as a `size_t`. -/
def toSize {T : Type} [Scalar T] (v : T) : Nat := (Scalar.value v % 0x100000000).toNat

section

variable {α : Type} [OfNat α 0]

/-- `memcpy` of some elements to the start of an array. -/
def copyInto (string items : List α) : Except Fault (List α) :=
  if items.length ≤ string.length then .ok (items ++ string.drop items.length)
  else .error .outOfBounds

/-- `string[length] = 0; return length`. -/
def terminate (string : List α) (length : Nat) : Except Fault (Nat × List α) :=
  if length < string.length then .ok (length, string.set length 0) else .error .outOfBounds

/-- The string of a given length, of which there is room for `maxlength` characters: what is
returned, and the array. -/
def readCharacters (encoding : Encoding α) (string : List α) (maxlength length : Nat) :
    Reader (Nat × List α) := do
  if length > maxlength then
    let bytes ← read (maxlength * encoding.sizeof)
    let string ← copyInto string (encoding.decode bytes)
    let pos ← getRpos
    setRpos (sizeT (pos + length - maxlength))
    terminate string maxlength
  else
    let bytes ← read (length * encoding.sizeof)
    let string ← copyInto string (encoding.decode bytes)
    terminate string length

end

/-- `readstring<T>(char* string, size_t maxlength)`. At the end of the buffer the length is 0. -/
def readstring (T : Type) [Scalar T] (string : List UInt8) (maxlength : UInt32) :
    Reader (Nat × List UInt8) := do
  let count ← readValue T
  let b ← get
  let length := if b.rpos ≥ b.size then 0 else toSize count
  readCharacters char string (maxlength - 1).toNat length

/-- `readstring<T>(wchar_t* string, size_t maxlength)`. -/
def readwstring (T : Type) [Scalar T] (string : List UInt16) (maxlength : UInt32) :
    Reader (Nat × List UInt16) := do
  let count ← readValue T
  readCharacters wchar string (maxlength - 1).toNat (toSize count)

/-! ### What is read -/

theorem liftM_run {β : Type} {first : Except Fault β} {x : β} (run : first = .ok x)
    (b : ByteBuffer) : (liftM first : Reader β) b = .ok (x, b) := by
  subst run
  rfl

theorem length_flatMap_encode {α : Type} (encoding : Encoding α) (cs : List α) :
    (cs.flatMap encoding.encode).length = cs.length * encoding.sizeof := by
  induction cs with
  | nil => exact (Nat.zero_mul _).symm
  | cons c cs ih =>
      rw [List.flatMap_cons, List.length_append, encoding.length_encode, ih, List.length_cons,
        Nat.succ_mul, Nat.add_comm]

/-- As many characters as are asked for are read. -/
theorem read_characters {α : Type} (encoding : Encoding α) {b : ByteBuffer} {cs : List α}
    {more : List UInt8} (ahead : cursor.rest b = cs.flatMap encoding.encode ++ more) :
    read (cs.length * encoding.sizeof) b =
      .ok (cs.flatMap encoding.encode, cursor.advance b (cs.length * encoding.sizeof)) := by
  rw [← length_flatMap_encode]
  exact read_run ahead

section

variable {α : Type} [OfNat α 0]

/-- The array has some characters at its start, and a zero after them. -/
structure Stored (string string' items : List α) : Prop where
  text : string'.take (items.length + 1) = items ++ [0]
  length : string'.length = string.length

/-- Where there is room, some characters are copied and ended with a zero. -/
theorem exists_stored {string items : List α} (room : items.length < string.length) :
    ∃ copied string', copyInto string items = .ok copied ∧
      terminate copied items.length = .ok (items.length, string') ∧
        Stored string string' items := by
  have length : (items ++ string.drop items.length).length = string.length := by
    rw [List.length_append, List.length_drop]
    omega
  refine ⟨_, _, if_pos (Nat.le_of_lt room), if_pos (length ▸ room), ?_, ?_⟩
  · rw [List.set_append_right _ _ (Nat.le_refl _), Nat.sub_self, List.take_append,
      List.take_of_length_le (Nat.le_succ _), Nat.add_sub_cancel_left,
      List.drop_eq_getElem_cons room, List.set_cons_zero]
    rfl
  · rw [List.length_set, length]

/-- How far the position moves: for each character that is left out, by one. -/
def consumed (encoding : Encoding α) (maxlength length : Nat) : Nat :=
  min length maxlength * encoding.sizeof + (length - maxlength)

/-- As many characters as there is room for are stored, and what is moved over behind them is
counted in characters for `wchar_t`. The buffer is below the sizes that wrap. -/
theorem readCharacters_run (encoding : Encoding α) (wide : 0 < encoding.sizeof) {string : List α}
    {maxlength : Nat} (room : maxlength < string.length) {b : ByteBuffer} {cs : List α}
    {more : List UInt8} (ahead : cursor.rest b = cs.flatMap encoding.encode ++ more)
    (small : b.size < 0x100000000) :
    ∃ string', readCharacters encoding string maxlength cs.length b =
        .ok ((min cs.length maxlength, string'),
          cursor.advance b (consumed encoding maxlength cs.length)) ∧
      Stored string string' (cs.take maxlength) := by
  have taken : (cs.take maxlength).length = min cs.length maxlength :=
    List.length_take.trans (Nat.min_comm _ _)
  have split : cs.flatMap encoding.encode ++ more =
      (cs.take maxlength).flatMap encoding.encode ++
        ((cs.drop maxlength).flatMap encoding.encode ++ more) := by
    rw [← List.append_assoc, ← List.flatMap_append, List.take_append_drop]
  have bytes := read_characters encoding (ahead.trans split)
  obtain ⟨copied, string', copy, terminated, stored⟩ :=
    exists_stored (taken.symm ▸ Nat.lt_of_le_of_lt (Nat.min_le_right _ _) room :
      (cs.take maxlength).length < string.length)
  refine ⟨string', ?_, stored⟩
  rw [taken] at bytes terminated
  unfold readCharacters consumed
  by_cases long : cs.length > maxlength
  · rw [Nat.min_eq_right (Nat.le_of_lt long)] at bytes terminated ⊢
    -- No character is wider than what it is stored in, so the position stays in the buffer.
    have whole := length_rest ahead
    rw [List.length_append, length_flatMap_encode] at whole
    have wider : cs.length - maxlength ≤ (cs.length - maxlength) * encoding.sizeof :=
      Nat.le_mul_of_pos_right _ wide
    rw [Nat.sub_mul] at wider
    have shorter : maxlength * encoding.sizeof ≤ cs.length * encoding.sizeof :=
      Nat.mul_le_mul_right _ (Nat.le_of_lt long)
    have moved : sizeT (b.rpos + maxlength * encoding.sizeof + cs.length - maxlength) =
        b.rpos + (maxlength * encoding.sizeof + (cs.length - maxlength)) := by
      rw [sizeT_of_lt (by omega)]
      omega
    rw [if_pos long, run_bind_ok bytes, encoding.decode_encode, run_bind_ok (liftM_run copy _)]
    refine (run_bind_ok rfl).trans ((run_bind_ok rfl).trans ((liftM_run terminated _).trans ?_))
    exact congrArg (fun pos => Except.ok ((maxlength, string'), { b with rpos := pos })) moved
  · rw [Nat.min_eq_left (Nat.le_of_not_lt long)] at bytes terminated ⊢
    rw [if_neg long, run_bind_ok bytes, encoding.decode_encode, run_bind_ok (liftM_run copy _),
      Nat.sub_eq_zero_of_le (Nat.le_of_not_lt long), Nat.add_zero]
    exact liftM_run terminated _

end

/-! ### Strings -/

section Strings

variable {T : Type} [Scalar T] {v : T} {α : Type} [OfNat α 0]

/-- A string lies ahead: its length, and as many characters, in a buffer whose size is a
`size_t`. -/
structure Ahead (v : T) (encoding : Encoding α) (cs : List α) (b : ByteBuffer) : Prop where
  small : b.size < 0x100000000
  length : cs.length = toSize v
  ahead : ∃ more, cursor.rest b = encodeScalar v ++ (cs.flatMap encoding.encode ++ more)

/-- The string is returned as far as there is room in the array, which has it with a zero after it,
and the position is behind all its characters. -/
def Exact (v : T) (encoding : Encoding α) (string cs : List α) (maxlength : UInt32)
    (b : ByteBuffer) (result : Except Fault ((Nat × List α) × ByteBuffer)) : Prop :=
  ∃ string', Stored string string' (cs.take (maxlength - 1).toNat) ∧
    result = .ok ((min cs.length (maxlength.toNat - 1), string'),
      cursor.advance b ((encodeScalar v).length + cs.length * encoding.sizeof))

/-! ### The strings of a map -/

/-- The string in the array. -/
def text (out : (Nat × List UInt8) × ByteBuffer) : List UInt8 × ByteBuffer :=
  (out.1.2.take out.1.1, out.2)

theorem text_of_stored {string string' bytes : List UInt8} (stored : Stored string string' bytes)
    (b : ByteBuffer) : text ((bytes.length, string'), b) = (bytes, b) := by
  have front := congrArg (List.take bytes.length) stored.text
  rw [List.take_take, Nat.min_eq_left (Nat.le_succ _), List.take_left] at front
  exact congrArg (·, b) front

/-- The string is what is read, as far as there is room. -/
theorem readCharacters_text {string : List UInt8} {maxlength : Nat}
    (room : maxlength < string.length) (length : Nat) (b : ByteBuffer) :
    (readCharacters char string maxlength length b).map text =
      (do
        if length > maxlength then
          let bytes ← ByteBuffer.read maxlength
          let pos ← getRpos
          setRpos (sizeT (pos + length - maxlength))
          return bytes
        else ByteBuffer.read length : Reader (List UInt8)) b := by
  have one : char.sizeof = 1 := rfl
  unfold readCharacters
  rw [one, Nat.mul_one, Nat.mul_one]
  by_cases long : length > maxlength
  · rw [if_pos long, if_pos long]
    cases run : ByteBuffer.read maxlength b with
    | error fault =>
        rw [run_bind_error run, run_bind_error run]
        rfl
    | ok out =>
        obtain ⟨bytes, b'⟩ := out
        have size := length_read run
        obtain ⟨copied, string', copy, terminated, stored⟩ := exists_stored (size ▸ room)
        rw [size] at terminated
        rw [run_bind_ok run, run_bind_ok run]
        have copy : copyInto string (char.decode bytes) = .ok copied := copy
        rw [run_bind_ok (liftM_run copy b')]
        have pos : getRpos b' = .ok (b'.rpos, b') := rfl
        have moved : setRpos (sizeT (b'.rpos + length - maxlength)) b' =
            .ok ((), { b' with rpos := sizeT (b'.rpos + length - maxlength) }) := rfl
        rw [run_bind_ok pos, run_bind_ok pos, run_bind_ok moved, run_bind_ok moved,
          liftM_run terminated]
        have same := text_of_stored stored
          { b' with rpos := sizeT (b'.rpos + length - maxlength) }
        rw [size] at same
        exact congrArg Except.ok same
  · rw [if_neg long, if_neg long]
    cases run : ByteBuffer.read length b with
    | error fault =>
        rw [run_bind_error run]
        rfl
    | ok out =>
        obtain ⟨bytes, b'⟩ := out
        have size := length_read run
        obtain ⟨copied, string', copy, terminated, stored⟩ :=
          exists_stored (size ▸ Nat.lt_of_le_of_lt (Nat.le_of_not_lt long) room)
        rw [size] at terminated
        have copy : copyInto string (char.decode bytes) = .ok copied := copy
        rw [run_bind_ok run, run_bind_ok (liftM_run copy b'), liftM_run terminated]
        have same := text_of_stored stored b'
        rw [size] at same
        exact congrArg Except.ok same

theorem toNat_sub_one {maxlength : UInt32} (one_le : 1 ≤ maxlength) :
    (maxlength - 1).toNat = maxlength.toNat - 1 :=
  UInt32.toNat_sub_of_le _ _ one_le

variable {maxlength : UInt32} {b : ByteBuffer}

/-- What the `char` overload does. -/
theorem readstring_run (one_le : 1 ≤ maxlength) {string cs : List UInt8}
    (fits : maxlength.toNat ≤ string.length) (text : Ahead v char cs b) :
    ∃ string', Stored string string' (cs.take (maxlength - 1).toNat) ∧
      readstring T string maxlength b = .ok ((min cs.length (maxlength.toNat - 1), string'),
        cursor.advance b ((encodeScalar v).length +
          consumed char (maxlength.toNat - 1) cs.length)) := by
  obtain ⟨small, length, more, ahead⟩ := text
  have after := Cursor.rest_advance _ ahead
  have room : (maxlength - 1).toNat < string.length := by
    have pos := UInt32.le_iff_toNat_le.mp one_le
    rw [toNat_sub_one one_le]
    rw [UInt32.toNat_one] at pos
    omega
  obtain ⟨string', run, stored⟩ := readCharacters_run char Nat.one_pos room after small
  rw [toNat_sub_one one_le] at run
  refine ⟨string', stored, ?_⟩
  have count : (if (cursor.advance b (encodeScalar v).length).rpos ≥
      (cursor.advance b (encodeScalar v).length).size then 0 else toSize v) = cs.length := by
    split
    · next ended =>
        -- Behind the end nothing lies ahead, so the string is empty.
        have none : cursor.rest (cursor.advance b (encodeScalar v).length) = [] :=
          List.drop_eq_nil_of_le ended
        rw [none] at after
        have empty := congrArg List.length after
        rw [List.length_append, length_flatMap_encode] at empty
        have one : char.sizeof = 1 := rfl
        rw [one, List.length_nil] at empty
        omega
    · exact length.symm
  rw [readstring, (readValue_decodes T).run_bind trivial ahead, run_bind_ok rfl, count,
    toNat_sub_one one_le, run, cursor.advance_add]

/-- What the `wchar_t` overload does. -/
theorem readwstring_run (one_le : 1 ≤ maxlength) {string cs : List UInt16}
    (fits : maxlength.toNat ≤ string.length) (text : Ahead v wchar cs b) :
    ∃ string', Stored string string' (cs.take (maxlength - 1).toNat) ∧
      readwstring T string maxlength b = .ok ((min cs.length (maxlength.toNat - 1), string'),
        cursor.advance b ((encodeScalar v).length +
          consumed wchar (maxlength.toNat - 1) cs.length)) := by
  obtain ⟨small, length, more, ahead⟩ := text
  have after := Cursor.rest_advance _ ahead
  have room : (maxlength - 1).toNat < string.length := by
    have pos := UInt32.le_iff_toNat_le.mp one_le
    rw [toNat_sub_one one_le]
    rw [UInt32.toNat_one] at pos
    omega
  obtain ⟨string', run, stored⟩ := readCharacters_run wchar Nat.two_pos room after small
  rw [toNat_sub_one one_le] at run
  refine ⟨string', stored, ?_⟩
  rw [readwstring, (readValue_decodes T).run_bind trivial ahead, ← length, toNat_sub_one one_le,
    run, cursor.advance_add]

/-- With a prefix that is not signed, the strings of the map that is loaded are read as here. -/
theorem readstring_text (unsigned : ∀ n < 256 ^ Scalar.sizeof T, toSize (Scalar.ofBits n : T) = n)
    (one_le : 1 ≤ maxlength) {string : List UInt8} (fits : maxlength.toNat ≤ string.length) :
    (readstring T string maxlength b).map text =
      Map.readstring (Scalar.sizeof T) maxlength.toNat b := by
  have room : maxlength.toNat - 1 < string.length := by
    have pos := UInt32.le_iff_toNat_le.mp one_le
    rw [UInt32.toNat_one] at pos
    omega
  unfold readstring readValue Map.readstring
  rw [toNat_sub_one one_le]
  cases run : ByteBuffer.read (Scalar.sizeof T) b with
  | error fault =>
      rw [run_bind_error (run_bind_error run), run_bind_error run]
      rfl
  | ok out =>
      obtain ⟨bytes, b'⟩ := out
      have small := fromBytes_lt bytes
      rw [length_read run] at small
      have value : (ByteBuffer.read (Scalar.sizeof T) >>= fun bytes =>
          pure (Scalar.ofBits (fromBytes bytes)) : Reader T) b =
          .ok (Scalar.ofBits (fromBytes bytes), b') := run_bind_ok run
      have count := unsigned _ small
      rw [run_bind_ok value, run_bind_ok run]
      refine (congrArg (Except.map text) (run_bind_ok rfl)).trans ?_
      refine (readCharacters_text room _ b').trans ?_
      rw [count]
      rfl

theorem exact_iff (encoding : Encoding α) {string cs : List α}
    {result : Except Fault ((Nat × List α) × ByteBuffer)} {count : Nat}
    (run : ∃ string', Stored string string' (cs.take (maxlength - 1).toNat) ∧
      result = .ok ((min cs.length (maxlength.toNat - 1), string'),
        cursor.advance b ((encodeScalar v).length + count))) :
    Exact v encoding string cs maxlength b result ↔ count = cs.length * encoding.sizeof := by
  obtain ⟨string', stored, rfl⟩ := run
  constructor
  · rintro ⟨_, -, same⟩
    have pos := congrArg ByteBuffer.rpos (Prod.mk.inj (Except.ok.inj same)).2
    have pos : b.rpos + ((encodeScalar v).length + count) =
      b.rpos + ((encodeScalar v).length + cs.length * encoding.sizeof) := pos
    omega
  · rintro rfl
    exact ⟨string', stored, rfl⟩

/-- A string of `char` is always consumed exactly, and one of `wchar_t` exactly if it is not cut
off: over what has no room the wide one moves by the number of the characters, not of their bytes.
The prefix is of any of the types. -/
theorem readstring_exact_iff (one_le : 1 ≤ maxlength) {string cs : List UInt8}
    {wstring wcs : List UInt16} {b' : ByteBuffer} {v' : T}
    (fits : maxlength.toNat ≤ string.length) (text : Ahead v char cs b)
    (wfits : maxlength.toNat ≤ wstring.length) (wtext : Ahead v' wchar wcs b') :
    Exact v char string cs maxlength b (readstring T string maxlength b) ∧
      (Exact v' wchar wstring wcs maxlength b' (readwstring T wstring maxlength b') ↔
        wcs.length ≤ maxlength.toNat - 1) := by
  rw [exact_iff char (readstring_run one_le fits text),
    exact_iff wchar (readwstring_run one_le wfits wtext)]
  have one : char.sizeof = 1 := rfl
  have two : wchar.sizeof = 2 := rfl
  unfold consumed
  rw [one, two]
  omega

/-- Of the characters that have no room, half the bytes are still ahead. -/
theorem readwstring_short :
    readwstring UInt8 [7, 7] 2 ⟨0, 0, [2, 0x41, 0, 0x42, 0, 9]⟩ =
      .ok ((1, [0x41, 0]), ⟨4, 0, [2, 0x41, 0, 0x42, 0, 9]⟩) ∧
    ¬Exact (2 : UInt8) wchar [7, 7] [0x41, 0x42] 2 ⟨0, 0, [2, 0x41, 0, 0x42, 0, 9]⟩
      (readwstring UInt8 [7, 7] 2 ⟨0, 0, [2, 0x41, 0, 0x42, 0, 9]⟩) := by
  have run : readwstring UInt8 [7, 7] 2 ⟨0, 0, [2, 0x41, 0, 0x42, 0, 9]⟩ =
      .ok ((1, [0x41, 0]), ⟨4, 0, [2, 0x41, 0, 0x42, 0, 9]⟩) := by rfl
  refine ⟨run, ?_⟩
  rintro ⟨string', -, same⟩
  rw [run] at same
  have pos := congrArg ByteBuffer.rpos (Prod.mk.inj (Except.ok.inj same)).2
  revert pos
  decide

/-- Both overloads at strings that have room. -/
theorem readstring_exact_short :
    Exact (1 : UInt8) char [7, 7] [0x41] 2 ⟨0, 0, [1, 0x41]⟩
        (readstring UInt8 [7, 7] 2 ⟨0, 0, [1, 0x41]⟩) ∧
      (Exact (1 : UInt8) wchar [7, 7] [0x41] 2 ⟨0, 0, [1, 0x41, 0]⟩
          (readwstring UInt8 [7, 7] 2 ⟨0, 0, [1, 0x41, 0]⟩) ↔
        [(0x41 : UInt16)].length ≤ 2 - 1) :=
  readstring_exact_iff (by decide) (by decide) ⟨by decide, rfl, [], rfl⟩ (by decide)
    ⟨by decide, rfl, [], rfl⟩

end Strings

end NoxServer.NoxBuffer
