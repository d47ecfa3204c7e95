import Mathlib.Data.List.TakeWhile
import NoxServer.Things.Attributes

/-!
The loading of all objects of thing.bin.

Each record becomes one object, which is what its attributes make of an empty one
(`loadObjects_run`). It is what the record says when there is room for all arguments
(`meant_faithful_iff`). A later string that looks like a tag ends its object, and the next one is
read from the middle of the record (`loadObject_tagged`).
-/

namespace NoxServer.Things

open ByteBuffer Consume
open Decode (Cursor)

/-! ### Records -/

def Attribute.encode (a : Attribute) : List UInt8 :=
  encodeScalar (UInt8.ofNat a.text.length) ++ a.text

structure ObjectRecord where
  name : List UInt8
  strings : List Attribute
  name_short : name.length < 50

namespace ObjectRecord

def body (record : ObjectRecord) : List UInt8 :=
  encodeScalar (UInt8.ofNat record.name.length) ++
    (record.name ++ (record.strings.flatMap Attribute.encode ++ [0]))

def encode (record : ObjectRecord) : List UInt8 := gnht ++ record.body

/-- No attribute but the first one begins like a tag, with its length. -/
def Untagged (record : ObjectRecord) : Prop :=
  ∀ a ∈ record.strings.tail, ¬gnht <+: a.encode

/-- The object before its attributes are read. -/
def unread (record : ObjectRecord) : GNHT where
  nameLen := UInt8.ofNat record.name.length
  name := padded 50 record.name

/-- The object that the attributes make. -/
def meant (record : ObjectRecord) : Except Fault GNHT :=
  loadAttributes record.unread record.strings

end ObjectRecord

/-- The zeros behind the file. -/
def padding : List UInt8 := List.replicate 10 0

def encodeRecords (records : List ObjectRecord) : List UInt8 := records.flatMap ObjectRecord.encode

/-! ### One string -/

variable {δ : Type} {s : Loader δ} {more : List UInt8} {a : Attribute} {sizeofLong filelen : Nat}

theorem text_noNul (a : Attribute) : 0 ∉ a.text := by
  intro mem
  obtain key | mem := List.mem_append.mp mem
  · exact a.key_word.noNul key
  obtain equals | mem := List.mem_append.mp mem
  · exact absurd equals (by decide)
  obtain value | mem := List.mem_append.mp mem
  · exact a.value_word.noNul value
  obtain ⟨token, further, mem⟩ := List.mem_flatMap.mp mem
  obtain plus | mem := List.mem_append.mp mem
  · exact absurd plus (by decide)
  · exact (a.further_words token further).noNul mem

theorem cstring_text (a : Attribute) : CString.text a.text = a.text := by
  have nonzero : ∀ c ∈ a.text, decide (c ≠ 0) = true := fun c mem =>
    decide_eq_true fun zero => text_noNul a (zero ▸ mem)
  exact List.takeWhile_eq_self_iff.mpr nonzero

/-- There are at least a key, a space, an equals sign, a space and a value. -/
theorem text_length (a : Attribute) : 5 ≤ a.text.length := by
  have key := List.length_pos_iff.mpr a.key_word.nonempty
  have value := List.length_pos_iff.mpr a.value_word.nonempty
  have length := length_text a
  omega

theorem text_lengthByte (a : Attribute) :
    (UInt8.ofNat a.text.length).toNat = a.text.length := by
  have short : a.text.length < 255 := a.short
  exact toNat_ofNat_small (by omega)

theorem byteHere_run {c : UInt8} (ahead : reading.rest s = c :: more) :
    byteHere s = .ok (c, s) := by
  have value : UInt8.ofNat (fromBytes [c]) = c := by simp [fromBytes]
  have front : reading.rest s = [c] ++ more := ahead
  have byte : peek 1 s = .ok ([c], s) := peek_run front
  rw [byteHere, run_bind_ok byte]
  change Except.ok (UInt8.ofNat (fromBytes [c]), s) = _
  rw [value]

/-- What is read behind a string: a 0 is skipped. -/
def skipped (c : UInt8) (more : List UInt8) : List UInt8 := if c = 0 then more else c :: more

theorem stringEnd_run {α : Type} {c : UInt8} (out : α) (ahead : reading.rest s = c :: more)
    (four : 4 ≤ (skipped c more).length) :
    (do
      let byte ← byteHere
      move (if byte = 0 then 1 else 0)
      copyType
      return out : Load δ α) s =
    .ok (out, ⟨s.buff, s.count + (if c = 0 then 1 else 0), (skipped c more).take 4, s.thing⟩) := by
  have behind : reading.rest { s with count := s.count + (if c = 0 then 1 else 0) } =
      (skipped c more).take 4 ++ (skipped c more).drop 4 := by
    rw [List.take_append_drop]
    unfold skipped
    split
    · exact Cursor.rest_advance [c] ahead
    · exact ahead
  have type := copyType_run (List.length_take_of_le four) behind
  rw [run_bind_ok (byteHere_run ahead), run_bind_ok rfl, run_bind_ok type]
  rfl

/-- A string that is an attribute changes the object, and nothing else. -/
theorem loadString_run {c : UInt8} (ahead : reading.rest s = a.encode ++ c :: more)
    (four : 4 ≤ (skipped c more).length) (vars : StringVars) (object : GNHT) :
    loadString sizeofLong vars object s = (do
      let object ← loadAttribute object a.text
      .ok ((vars, object), ⟨s.buff, s.count + a.encode.length + (if c = 0 then 1 else 0),
        (skipped c more).take 4, s.thing⟩)) := by
  have long := text_length a
  have short : a.text.length < 255 := a.short
  have length := text_lengthByte a
  rw [Attribute.encode, List.append_assoc] at ahead
  have ahead₁ := Cursor.rest_advance _ ahead
  have ahead₂ := Cursor.rest_advance _ ahead₁
  have str := copy_run ahead₁
  have room : ¬(UInt8.ofNat a.text.length = 255 ∧ 0 ∉ a.text) := by
    rintro ⟨full, -⟩
    rw [full] at length
    have full : (255 : UInt8).toNat = 255 := rfl
    omega
  have aniType : parseString a.text = 0 := a.plain
  have nonzero : 0 < UInt8.ofNat a.text.length := by
    rw [UInt8.lt_iff_toNat_lt, length]
    exact Nat.lt_of_lt_of_le (by decide) long
  rw [loadString, run_bind_ok (copyValue_run _ ahead), length, run_bind_ok str, if_neg room,
    cstring_text, aniType, if_pos ⟨rfl, nonzero⟩]
  cases changed : loadAttribute object a.text with
  | error fault => rfl
  | ok object' =>
      refine (stringEnd_run (vars, object') ahead₂ four).trans ?_
      rw [Attribute.encode, List.length_append, ← Nat.add_assoc]
      rfl

/-- The end of an object without a string. -/
theorem loadString_none {c : UInt8} (ahead : reading.rest s = 0 :: c :: more)
    (four : 4 ≤ (skipped c more).length) (vars : StringVars) (object : GNHT) :
    loadString sizeofLong vars object s = .ok ((vars, object),
      ⟨s.buff, s.count + 1 + (if c = 0 then 1 else 0), (skipped c more).take 4, s.thing⟩) := by
  have byte : copyValue UInt8 s = .ok (0, reading.advance s 1) := copyValue_run (0 : UInt8) ahead
  have front : reading.rest (reading.advance s 1) = [] ++ reading.rest (reading.advance s 1) := rfl
  have str : copy 0 (reading.advance s 1) = .ok ([], reading.advance s 1) := copy_run front
  have ahead₁ : reading.rest (reading.advance s 1) = c :: more := Cursor.rest_advance [0] ahead
  rw [loadString, run_bind_ok byte]
  refine (run_bind_ok str).trans ?_
  exact stringEnd_run (vars, object) ahead₁ four

/-! ### One record -/

/-- What there is behind a record: the tag of the next one has been read, or there is none and the
end of the file has been reached. -/
def AtNext (records : List ObjectRecord) (filelen : Nat) (buff : List UInt8) (count : Nat)
    (type : List UInt8) : Prop :=
  match records with
  | [] => type ≠ gnht ∧ filelen ≤ count
  | record :: records =>
      type = gnht ∧ count + (encodeRecords (record :: records)).length = filelen ∧
        buff.drop count = encodeRecords (record :: records) ++ padding

variable {buff : List UInt8} {count : Nat} {type : List UInt8} {records : List ObjectRecord}
  {strings : List Attribute}

theorem encodeRecords_cons (record : ObjectRecord) (records : List ObjectRecord) :
    encodeRecords (record :: records) = gnht ++ (record.body ++ encodeRecords records) := by
  rw [encodeRecords, List.flatMap_cons, ObjectRecord.encode, List.append_assoc]
  rfl

/-- A 0 in front of the next record or of the end. -/
theorem atNext_of_end (ahead : buff.drop count = encodeRecords records ++ padding)
    (place : count + (encodeRecords records).length = filelen) :
    AtNext records filelen buff count ((encodeRecords records ++ padding).take 4) := by
  cases records with
  | nil => exact ⟨by decide, Nat.le_of_eq place.symm⟩
  | cons record records =>
      refine ⟨?_, place, ahead⟩
      rw [encodeRecords_cons]
      rfl

theorem loadStrings_turn (fresh : s.type ≠ gnht) (inside : s.count < filelen)
    (turns : Nat) (vars : StringVars) (object : GNHT) :
    loadStrings sizeofLong filelen (turns + 1) vars object s =
      (loadString sizeofLong vars object >>= fun out =>
        loadStrings sizeofLong filelen turns out.1 out.2) s := by
  rw [loadStrings, run_bind_ok rfl, if_pos ⟨fresh, inside⟩]

theorem loadStrings_stop (stop : ¬(s.type ≠ gnht ∧ s.count < filelen)) (turns : Nat)
    (vars : StringVars) (object : GNHT) :
    loadStrings sizeofLong filelen (turns + 1) vars object s = .ok (object, s) := by
  rw [loadStrings, run_bind_ok rfl, if_neg stop]
  rfl

theorem AtNext.stop (next : AtNext records filelen buff count type) :
    ¬(type ≠ gnht ∧ count < filelen) := by
  rintro ⟨fresh, inside⟩
  cases records with
  | nil => exact absurd next.2 (Nat.not_le.mpr inside)
  | cons record records => exact fresh next.1

theorem loadAttributes_cons (object : GNHT) (a : Attribute) (strings : List Attribute) :
    loadAttributes object (a :: strings) =
      loadAttribute object a.text >>= fun object => loadAttributes object strings :=
  List.foldlM_cons

/-- One turn of the loop over the strings of an object. -/
theorem loadStrings_string {c : UInt8} (fresh : type ≠ gnht) (inside : count < filelen)
    (ahead : buff.drop count = a.encode ++ c :: more) (four : 4 ≤ (skipped c more).length)
    (turns : Nat) (vars : StringVars) (object : GNHT) (thing : δ) :
    loadStrings sizeofLong filelen (turns + 1) vars object ⟨buff, count, type, thing⟩ = (do
      let object ← loadAttribute object a.text
      loadStrings sizeofLong filelen turns vars object
        ⟨buff, count + a.encode.length + (if c = 0 then 1 else 0), (skipped c more).take 4,
          thing⟩) := by
  have string : loadString sizeofLong vars object ⟨buff, count, type, thing⟩ = _ :=
    loadString_run (s := ⟨buff, count, type, thing⟩) ahead four vars object
  rw [loadStrings_turn (s := ⟨buff, count, type, thing⟩) fresh inside]
  cases changed : loadAttribute object a.text with
  | error fault =>
      rw [changed] at string
      exact run_bind_error string
  | ok object' =>
      rw [changed] at string
      exact run_bind_ok string

theorem encode_cons (a : Attribute) : ∃ c, a.encode = c :: a.text ∧ c ≠ 0 := by
  refine ⟨UInt8.ofNat a.text.length, ?_, fun zero => ?_⟩
  · rw [Attribute.encode, encodeScalar_byte]
    rfl
  · have long := text_length a
    have length := text_lengthByte a
    rw [zero] at length
    have none : (0 : UInt8).toNat = 0 := rfl
    omega

theorem length_encode (a : Attribute) : 6 ≤ a.encode.length := by
  obtain ⟨c, encode, -⟩ := encode_cons a
  rw [encode, List.length_cons]
  exact Nat.succ_le_succ (text_length a)

/-- The first four characters of a later string are not those of a tag. -/
theorem take_ne_gnht (untagged : ¬gnht <+: a.encode) (more : List UInt8) :
    (a.encode ++ more).take 4 ≠ gnht := by
  intro same
  have long := length_encode a
  rw [List.take_append_of_le_length (by omega)] at same
  exact untagged (same ▸ List.take_prefix 4 a.encode)

/-- The loop over the strings of an object goes on up to where it stops. -/
theorem loadStrings_upTo {a : Attribute} {strings : List Attribute} {c : UInt8} {turns : Nat}
    (untagged : ∀ b ∈ strings, ¬gnht <+: b.encode) (fresh : type ≠ gnht)
    (ahead : buff.drop count = (a :: strings).flatMap Attribute.encode ++ c :: more)
    (inside : count + ((a :: strings).flatMap Attribute.encode).length ≤ filelen)
    (four : 4 ≤ (skipped c more).length)
    (stop : ¬((skipped c more).take 4 ≠ gnht ∧
      count + ((a :: strings).flatMap Attribute.encode).length + (if c = 0 then 1 else 0) <
        filelen))
    (enough : strings.length + 1 < turns) (vars : StringVars) (object : GNHT) (thing : δ) :
    loadStrings sizeofLong filelen turns vars object ⟨buff, count, type, thing⟩ = (do
      let object ← loadAttributes object (a :: strings)
      .ok (object, ⟨buff, count + ((a :: strings).flatMap Attribute.encode).length +
        (if c = 0 then 1 else 0), (skipped c more).take 4, thing⟩)) := by
  have long := length_encode a
  induction strings generalizing a turns count type object with
  | nil =>
      obtain ⟨turns, rfl⟩ : ∃ rest, turns = rest + 1 + 1 :=
        ⟨turns - 2, by rw [List.length_nil] at enough; omega⟩
      rw [List.flatMap_singleton] at ahead inside stop ⊢
      rw [loadStrings_string fresh (by omega) ahead four, loadAttributes_cons, bind_assoc]
      refine congrArg (loadAttribute object a.text >>= ·) (funext fun object' => ?_)
      exact loadStrings_stop (s := ⟨buff, _, _, thing⟩) stop _ _ _
  | cons b strings ih =>
      obtain ⟨turns, rfl⟩ : ∃ rest, turns = rest + 1 :=
        ⟨turns - 1, by rw [List.length_cons] at enough; omega⟩
      obtain ⟨next, others⟩ := List.forall_mem_cons.mp untagged
      obtain ⟨c', encode, nonzero⟩ := encode_cons b
      have long' := length_encode b
      let tail := (b :: strings).flatMap Attribute.encode ++ c :: more
      have tail_eq : tail = b.encode ++ (strings.flatMap Attribute.encode ++ c :: more) := by
        rw [← List.append_assoc]
        rfl
      have tail_cons : tail = c' :: tail.tail := by
        rw [tail_eq, encode]
        rfl
      have kept : skipped c' tail.tail = tail := by rw [skipped, if_neg nonzero, ← tail_cons]
      have four' : 4 ≤ (skipped c' tail.tail).length := by
        rw [kept, tail_eq, List.length_append]
        omega
      rw [List.flatMap_cons, List.append_assoc] at ahead
      rw [List.flatMap_cons, List.length_append, ← Nat.add_assoc] at inside stop ⊢
      have here : buff.drop count = a.encode ++ c' :: tail.tail := by rw [ahead, ← tail_cons]
      have fresh' : tail.take 4 ≠ gnht := tail_eq ▸ take_ne_gnht next _
      have ahead' : buff.drop (count + a.encode.length) = tail := by
        rw [← List.drop_drop, ahead, List.drop_left]
      rw [loadStrings_string fresh (by omega) here four', loadAttributes_cons, bind_assoc]
      refine congrArg (loadAttribute object a.text >>= ·) (funext fun object' => ?_)
      rw [kept, if_neg nonzero]
      exact ih others fresh' ahead' inside stop (Nat.lt_of_succ_lt_succ enough) object' long'

/-- The loop over the strings of an object ends behind them. -/
theorem loadStrings_run {a : Attribute} {strings : List Attribute} {turns : Nat}
    (untagged : ∀ b ∈ strings, ¬gnht <+: b.encode) (fresh : type ≠ gnht)
    (ahead : buff.drop count =
      (a :: strings).flatMap Attribute.encode ++ 0 :: (encodeRecords records ++ padding))
    (place : count + ((a :: strings).flatMap Attribute.encode).length + 1 +
      (encodeRecords records).length = filelen)
    (enough : strings.length + 1 < turns) :
    ∃ count' type', AtNext records filelen buff count' type' ∧ ∀ vars object (thing : δ),
      loadStrings sizeofLong filelen turns vars object ⟨buff, count, type, thing⟩ = (do
        let object ← loadAttributes object (a :: strings)
        .ok (object, ⟨buff, count', type', thing⟩)) := by
  have four : 4 ≤ (skipped 0 (encodeRecords records ++ padding)).length := by
    rw [skipped, if_pos rfl, List.length_append]
    exact Nat.le_add_left_of_le (by decide)
  have next : AtNext records filelen buff
      (count + ((a :: strings).flatMap Attribute.encode).length + 1)
      ((encodeRecords records ++ padding).take 4) := by
    refine atNext_of_end ?_ place
    rw [← List.drop_drop, ← List.drop_drop, ahead, List.drop_left]
    rfl
  exact ⟨_, _, next, fun vars object thing =>
    loadStrings_upTo untagged fresh ahead (by omega) four next.stop enough vars object thing⟩

/-- A string with the length and the first characters of a tag ends its object, of which only the
strings before it are read; what is behind those characters is read as another object. -/
theorem loadStrings_tagged {a b : Attribute} {strings : List Attribute} {turns : Nat}
    (untagged : ∀ b ∈ strings, ¬gnht <+: b.encode) (tagged : gnht <+: b.encode)
    (fresh : type ≠ gnht)
    (ahead : buff.drop count = (a :: strings).flatMap Attribute.encode ++ (b.encode ++ more))
    (inside : count + ((a :: strings).flatMap Attribute.encode).length ≤ filelen)
    (enough : strings.length + 1 < turns) (vars : StringVars) (object : GNHT) (thing : δ) :
    loadStrings sizeofLong filelen turns vars object ⟨buff, count, type, thing⟩ = (do
      let object ← loadAttributes object (a :: strings)
      .ok (object, ⟨buff, count + ((a :: strings).flatMap Attribute.encode).length, gnht,
        thing⟩)) := by
  obtain ⟨c, encode, nonzero⟩ := encode_cons b
  have first : (skipped c (b.text ++ more)).take 4 = gnht := by
    obtain ⟨rest, same⟩ := tagged
    rw [skipped, if_neg nonzero, ← List.cons_append, ← encode, ← same]
    rfl
  have four : 4 ≤ (skipped c (b.text ++ more)).length := by
    have length := congrArg List.length first
    rw [List.length_take] at length
    have tag : gnht.length = 4 := rfl
    omega
  rw [encode, List.cons_append] at ahead
  rw [loadStrings_upTo untagged fresh ahead inside four (fun stop => stop.1 first) enough, first,
    if_neg nonzero]
  rfl

/-- Without a string, the 0 behind the name is read as the length of one. -/
theorem loadStrings_none {turns : Nat} (fresh : type ≠ gnht)
    (ahead : buff.drop count = 0 :: (encodeRecords records ++ padding))
    (place : count + 1 + (encodeRecords records).length = filelen) (enough : 1 < turns) :
    ∃ count' type', AtNext records filelen buff count' type' ∧ ∀ vars object (thing : δ),
      loadStrings sizeofLong filelen turns vars object ⟨buff, count, type, thing⟩ =
        .ok (object, ⟨buff, count', type', thing⟩) := by
  obtain ⟨turns, rfl⟩ : ∃ rest, turns = rest + 1 + 1 := ⟨turns - 2, by omega⟩
  have behind : buff.drop (count + 1) = encodeRecords records ++ padding := by
    rw [← List.drop_drop, ahead]
    rfl
  cases records with
  | nil =>
      have next : AtNext [] filelen buff (count + 1 + 1) (List.replicate 4 0) :=
        ⟨by decide, Nat.le_succ_of_le (Nat.le_of_eq place.symm)⟩
      refine ⟨_, _, next, fun vars object thing => ?_⟩
      have string : loadString sizeofLong vars object ⟨buff, count, type, thing⟩ = _ :=
        loadString_none (s := ⟨buff, count, type, thing⟩) ahead (by decide) vars object
      rw [loadStrings_turn (s := ⟨buff, count, type, thing⟩) fresh (by dsimp only; omega)]
      refine (run_bind_ok string).trans ?_
      exact loadStrings_stop (s := ⟨buff, _, _, thing⟩) next.stop _ _ _
  | cons record records =>
      have next : AtNext (record :: records) filelen buff (count + 1) gnht :=
        ⟨rfl, place, behind⟩
      refine ⟨_, _, next, fun vars object thing => ?_⟩
      rw [encodeRecords_cons] at ahead
      have string : loadString sizeofLong vars object ⟨buff, count, type, thing⟩ = _ :=
        loadString_none (s := ⟨buff, count, type, thing⟩) ahead (Nat.le_add_left 4 _) vars object
      rw [loadStrings_turn (s := ⟨buff, count, type, thing⟩) fresh (by dsimp only; omega)]
      refine (run_bind_ok string).trans ?_
      exact loadStrings_stop (s := ⟨buff, _, _, thing⟩) next.stop _ _ _

theorem strings_run (strings : List Attribute) {turns : Nat}
    (untagged : ∀ b ∈ strings.tail, ¬gnht <+: b.encode) (fresh : type ≠ gnht)
    (ahead : buff.drop count =
      strings.flatMap Attribute.encode ++ 0 :: (encodeRecords records ++ padding))
    (place : count + (strings.flatMap Attribute.encode).length + 1 +
      (encodeRecords records).length = filelen)
    (enough : strings.length + 1 < turns) :
    ∃ count' type', AtNext records filelen buff count' type' ∧ ∀ vars object (thing : δ),
      loadStrings sizeofLong filelen turns vars object ⟨buff, count, type, thing⟩ = (do
        let object ← loadAttributes object strings
        .ok (object, ⟨buff, count', type', thing⟩)) := by
  cases strings with
  | nil => exact loadStrings_none fresh ahead place enough
  | cons a strings => exact loadStrings_run untagged fresh ahead place (Nat.lt_of_succ_lt enough)

/-- The loop of `Load_Object` starts behind the name. -/
theorem loadObject_start (record : ObjectRecord) (turns : Nat)
    (ahead : buff.drop count =
      encodeScalar (UInt8.ofNat record.name.length) ++ (record.name ++ more)) (thing : δ) :
    loadObject sizeofLong filelen turns ⟨buff, count, type, thing⟩ = (do
      let (object, s) ← loadStrings sizeofLong filelen turns {} record.unread
        ⟨buff, count + 1 + record.name.length, List.replicate 4 0, thing⟩
      .ok (object, { s with count := s.count + 4 })) := by
  have short := record.name_short
  have length := toNat_ofNat_small (show record.name.length ≤ 254 by omega)
  have here : reading.rest ⟨buff, count, type, thing⟩ = _ := ahead
  have nameLen := copyValue_run _ here
  have name := copyText_run (show record.name.length ≤ 50 by omega) (Cursor.rest_advance _ here)
  rw [loadObject, run_bind_ok nameLen, length, run_bind_ok name, run_bind_ok rfl]
  rfl

/-- What there is behind a name. -/
theorem drop_name {record : ObjectRecord}
    (ahead : buff.drop count = record.body ++ (encodeRecords records ++ padding)) :
    buff.drop count = encodeScalar (UInt8.ofNat record.name.length) ++ (record.name ++
        (record.strings.flatMap Attribute.encode ++ 0 :: (encodeRecords records ++ padding))) ∧
      buff.drop (count + 1 + record.name.length) =
        record.strings.flatMap Attribute.encode ++ 0 :: (encodeRecords records ++ padding) := by
  have whole : buff.drop count = encodeScalar (UInt8.ofNat record.name.length) ++ (record.name ++
      (record.strings.flatMap Attribute.encode ++ 0 :: (encodeRecords records ++ padding))) := by
    rw [ahead, ObjectRecord.body, List.append_assoc, List.append_assoc, List.append_assoc]
    rfl
  refine ⟨whole, ?_⟩
  rw [← List.drop_drop, ← List.drop_drop, whole, encodeScalar_byte]
  exact List.drop_left

theorem length_body (record : ObjectRecord) :
    record.body.length =
      1 + record.name.length + (record.strings.flatMap Attribute.encode).length + 1 := by
  rw [ObjectRecord.body, encodeScalar_byte, List.length_append, List.length_append,
    List.length_append, List.length_singleton, List.length_singleton]
  omega

/-- `Load_Object` makes of a record what its attributes say, and goes behind the next tag. -/
theorem loadObject_run (record : ObjectRecord) (untagged : record.Untagged) {turns : Nat}
    (ahead : buff.drop count = record.body ++ (encodeRecords records ++ padding))
    (place : count + record.body.length + (encodeRecords records).length = filelen)
    (enough : record.strings.length + 1 < turns) :
    ∃ count' type', AtNext records filelen buff count' type' ∧ ∀ thing : δ,
      loadObject sizeofLong filelen turns ⟨buff, count, type, thing⟩ = (do
        let object ← record.meant
        .ok (object, ⟨buff, count' + 4, type', thing⟩)) := by
  obtain ⟨whole, behind⟩ := drop_name ahead
  rw [length_body] at place
  have inside : count + 1 + record.name.length +
      (record.strings.flatMap Attribute.encode).length + 1 + (encodeRecords records).length =
        filelen := by omega
  have fresh : List.replicate 4 (0 : UInt8) ≠ gnht := by decide
  obtain ⟨count', type', next, run⟩ := strings_run record.strings untagged fresh behind inside
    enough
  refine ⟨count', type', next, fun thing => ?_⟩
  rw [loadObject_start record turns whole, run, ObjectRecord.meant, bind_assoc]
  rfl

/-- The object of a record with a string like a tag ends there. -/
theorem loadObject_tagged (record : ObjectRecord) (tagged : ¬record.Untagged) {turns : Nat}
    (ahead : buff.drop count = record.body ++ (encodeRecords records ++ padding))
    (place : count + record.body.length + (encodeRecords records).length = filelen)
    (enough : record.strings.length + 1 < turns) {object : GNHT} {thing : δ} {s : Loader δ}
    (run : loadObject sizeofLong filelen turns ⟨buff, count, type, thing⟩ = .ok (object, s)) :
    s.type = gnht ∧ s.buff = buff ∧ s.count < count + record.body.length := by
  obtain ⟨whole, behind⟩ := drop_name ahead
  have length := length_body record
  unfold ObjectRecord.Untagged at tagged
  cases strings : record.strings with
  | nil =>
      rw [strings] at tagged
      exact absurd nofun tagged
  | cons a tail =>
      rw [strings] at tagged behind length enough
      obtain ⟨found, isFound⟩ : ∃ b, tail.find? (fun b => decide (gnht <+: b.encode)) = some b := by
        rw [← Option.isSome_iff_exists, List.find?_isSome]
        simpa using tagged
      obtain ⟨like, before, after, rfl, plain⟩ := List.find?_eq_some_iff_append.mp isFound
      have untagged : ∀ b ∈ before, ¬gnht <+: b.encode := fun b mem => by simpa using plain b mem
      have like : gnht <+: found.encode := of_decide_eq_true like
      have long := length_encode found
      have split : (a :: (before ++ found :: after)).flatMap Attribute.encode =
          (a :: before).flatMap Attribute.encode ++
            (found.encode ++ after.flatMap Attribute.encode) := by
        rw [← List.cons_append, List.flatMap_append, List.flatMap_cons (x := found)]
      rw [split, List.append_assoc, List.append_assoc] at behind
      rw [split, List.length_append, List.length_append] at length
      have inside : count + 1 + record.name.length +
          ((a :: before).flatMap Attribute.encode).length ≤ filelen := by omega
      have enough' : before.length + 1 < turns := by
        rw [List.length_cons, List.length_append, List.length_cons] at enough
        omega
      rw [loadObject_start record turns whole, loadStrings_tagged untagged like (by decide) behind
        inside enough'] at run
      obtain ⟨out, made, rest⟩ := bind_eq_ok.mp run
      obtain ⟨loaded, -, ended⟩ := bind_eq_ok.mp made
      cases ended
      cases rest
      refine ⟨rfl, rfl, ?_⟩
      dsimp only
      omega

/-! ### All records -/

theorem findTag_stop (stop : ¬(s.type ≠ gnht ∧ s.count < filelen)) (turns : Nat) :
    findTag gnht (· < filelen) (turns + 1) s = .ok ((), s) := by
  have stop' : ¬(s.type ≠ gnht ∧ decide (s.count < filelen) = true) := fun ⟨fresh, inside⟩ =>
    stop ⟨fresh, of_decide_eq_true inside⟩
  rw [findTag, run_bind_ok rfl, if_neg stop']
  rfl

theorem loadNext_of_load {s s' : Loader (List GNHT)} {object : GNHT} {turns : Nat}
    (load : loadObject sizeofLong filelen turns s = .ok (object, s'))
    (stop : ¬(s'.type ≠ gnht ∧ s'.count < filelen)) :
    loadNext sizeofLong filelen turns s =
      .ok ((), { s' with thing := s'.thing ++ [object] }) := by
  rw [loadNext, run_bind_ok load, run_bind_ok rfl, run_bind_ok rfl]
  exact findTag_stop (s := { s' with thing := s'.thing ++ [object] }) stop _

/-- A turn adds what the record says. -/
theorem loadNext_run (record : ObjectRecord) (untagged : record.Untagged) {turns : Nat}
    (ahead : buff.drop count = record.body ++ (encodeRecords records ++ padding))
    (place : count + record.body.length + (encodeRecords records).length = filelen)
    (enough : record.strings.length + 1 < turns) :
    ∃ count' type', AtNext records filelen buff count' type' ∧ ∀ thing,
      loadNext sizeofLong filelen turns ⟨buff, count, type, thing⟩ = (do
        let object ← record.meant
        .ok ((), ⟨buff, count' + 4, type', thing ++ [object]⟩)) := by
  obtain ⟨count', type', next, run⟩ := loadObject_run record untagged ahead place enough
  refine ⟨count', type', next, fun thing => ?_⟩
  have object := run thing
  cases made : record.meant with
  | error fault =>
      rw [made] at object
      exact run_bind_error object
  | ok loaded =>
      rw [made] at object
      have stop : ¬(type' ≠ gnht ∧ count' + 4 < filelen) := fun ⟨fresh, inside⟩ =>
        next.stop ⟨fresh, Nat.lt_of_le_of_lt (Nat.le_add_right _ _) inside⟩
      exact loadNext_of_load object stop

/-- The state in front of a record, behind its tag. -/
theorem AtNext.behind_tag {record : ObjectRecord}
    (next : AtNext (record :: records) filelen buff count type) :
    type = gnht ∧ buff.drop (count + 4) = record.body ++ (encodeRecords records ++ padding) ∧
      count + 4 + record.body.length + (encodeRecords records).length = filelen := by
  obtain ⟨tag, place, ahead⟩ := next
  rw [encodeRecords_cons, List.append_assoc, List.append_assoc] at ahead
  rw [encodeRecords_cons, List.length_append, List.length_append] at place
  have four : gnht.length = 4 := rfl
  refine ⟨tag, ?_, by omega⟩
  rw [← List.drop_drop, ahead]
  rfl

theorem objectsLoop_turn (turns objects : Nat) (thing : List GNHT) :
    objectsLoop sizeofLong filelen turns (objects + 1) ⟨buff, count, gnht, thing⟩ = (do
      let (_, s) ← loadNext sizeofLong filelen turns ⟨buff, count, gnht, thing⟩
      objectsLoop sizeofLong filelen turns objects s) := by
  rw [objectsLoop, run_bind_ok rfl, if_pos rfl]
  rfl

theorem objectsLoop_stop {s : Loader (List GNHT)} (stop : s.type ≠ gnht) {turns : Nat}
    (objects : Nat) : objectsLoop sizeofLong filelen turns (objects + 1) s = .ok ((), s) := by
  rw [objectsLoop, run_bind_ok rfl, if_neg stop]
  rfl

/-- `Load_Objects` adds what the records say, if it can be stored. -/
theorem objectsLoop_run {records : List ObjectRecord} (record : ObjectRecord) {turns objects : Nat}
    (untagged : ∀ r ∈ record :: records, r.Untagged)
    (ahead : buff.drop count = record.body ++ (encodeRecords records ++ padding))
    (place : count + record.body.length + (encodeRecords records).length = filelen)
    (enough : ∀ r ∈ record :: records, r.strings.length + 1 < turns)
    (enough' : records.length + 1 < objects) :
    ∃ count' type', ∀ thing, objectsLoop sizeofLong filelen turns objects
      ⟨buff, count, gnht, thing⟩ = (do
        let loaded ← (record :: records).mapM ObjectRecord.meant
        .ok ((), ⟨buff, count', type', thing ++ loaded⟩)) := by
  induction records generalizing record count objects with
  | nil =>
      obtain ⟨objects, rfl⟩ : ∃ rest, objects = rest + 1 + 1 :=
        ⟨objects - 2, by rw [List.length_nil] at enough'; omega⟩
      obtain ⟨count', type', next, turn⟩ := loadNext_run record
        (untagged record List.mem_cons_self) ahead place (enough record List.mem_cons_self)
      refine ⟨count' + 4, type', fun thing => ?_⟩
      rw [objectsLoop_turn, turn, List.mapM_cons, bind_assoc, bind_assoc]
      refine congrArg (record.meant >>= ·) (funext fun object => ?_)
      exact objectsLoop_stop (s := ⟨buff, count' + 4, type', thing ++ [object]⟩) next.1 objects
  | cons following records ih =>
      obtain ⟨objects, rfl⟩ : ∃ rest, objects = rest + 1 :=
        ⟨objects - 1, by rw [List.length_cons] at enough'; omega⟩
      obtain ⟨first, others⟩ := List.forall_mem_cons.mp untagged
      obtain ⟨enough₁, enoughs⟩ := List.forall_mem_cons.mp enough
      obtain ⟨count₁, type₁, next, turn⟩ := loadNext_run record first ahead place enough₁
      obtain ⟨rfl, ahead', place'⟩ := next.behind_tag
      obtain ⟨count', type', run⟩ := ih following others ahead' place' enoughs
        (Nat.lt_of_succ_lt_succ enough')
      refine ⟨count', type', fun thing => ?_⟩
      rw [objectsLoop_turn, turn, List.mapM_cons, bind_assoc, bind_assoc]
      refine congrArg (record.meant >>= ·) (funext fun object => ?_)
      refine (run (thing ++ [object])).trans ?_
      rw [bind_assoc]
      refine congrArg ((following :: records).mapM ObjectRecord.meant >>= ·)
        (funext fun loaded => ?_)
      rw [List.append_assoc]
      rfl

/-- A list of records means a list of objects if each means the one at its place. -/
theorem mapM_meant_iff {records : List ObjectRecord} {loaded : List GNHT} :
    records.mapM ObjectRecord.meant = .ok loaded ↔
      List.Forall₂ (fun record object => record.meant = .ok object) records loaded := by
  induction records generalizing loaded with
  | nil =>
      rw [List.forall₂_nil_left_iff]
      constructor
      · rintro ⟨⟩
        rfl
      · rintro rfl
        rfl
  | cons record records ih =>
      rw [List.mapM_cons, List.forall₂_cons_left_iff]
      constructor
      · intro run
        obtain ⟨object, made, run⟩ := bind_eq_ok.mp run
        obtain ⟨others, rest, run⟩ := bind_eq_ok.mp run
        cases run
        exact ⟨object, others, made, ih.mp rest, rfl⟩
      · rintro ⟨object, others, made, rest, rfl⟩
        exact bind_eq_ok.mpr ⟨object, made, bind_eq_ok.mpr ⟨others, ih.mpr rest, rfl⟩⟩

/-! ### Faithful objects -/

/-- A number is that of the first value, and each further value is a string in its own slot. Where
several attributes have a value for the same place it is the last one's. -/
structure AsGiven (table : List NoxEnumNamePair) (given : List (List (List UInt8)))
    (out : UInt32 × Arguments) : Prop where
  number : ∀ value ∈ lastValue given 0, out.1 = noxNameToEnum value table
  arguments : ∀ k, ∀ value ∈ lastValue given (k + 1),
    ∃ slot, out.2[k]? = some slot ∧ CString.text slot = value ∧ 0 ∈ slot

/-- All names of some attributes. -/
def maskGiven (table : List NoxEnumNamePair) (given : List (List (List UInt8))) : UInt32 :=
  (given.flatten.map (noxNameToEnum · table)).foldl (· ||| ·) 0

namespace ObjectRecord

def given (record : ObjectRecord) (key : String) : List (List (List UInt8)) :=
  Things.given record.strings (chars key)

/-- The object is what the record says. -/
structure Faithful (record : ObjectRecord) (object : GNHT) : Prop where
  nameLen : object.nameLen = UInt8.ofNat record.name.length
  name : object.name = padded 50 record.name
  classes : object.classes = maskGiven noxClassNames (record.given "CLASS")
  flags : object.flags = maskGiven noxFlagNames (record.given "FLAGS")
  subclass : object.subclass = maskGiven noxSubclassNames (record.given "SUBCLASS")
  collide : AsGiven noxCollideNames (record.given "COLLIDE") (object.collide, object.collideArgs)
  update : AsGiven noxUpdateNames (record.given "UPDATE") (object.update, object.updateArgs)
  use : AsGiven noxUseNames (record.given "USE") (object.use, object.useArgs)

/-- There is room for the arguments: no attribute has more than five, and what stays in a slot is
shorter than it. -/
structure ArgumentsFit (record : ObjectRecord) (key : String) : Prop where
  few : ∀ values ∈ record.given key, values.length ≤ 1 + 5
  short : ∀ k, ∀ value ∈ lastValue (record.given key) (k + 1), value.length < 30

end ObjectRecord

theorem lastValue_mem {given : List (List (List UInt8))} {k : Nat} {value : List UInt8}
    (last : value ∈ lastValue given k) : ∃ values ∈ given, value ∈ values := by
  obtain ⟨values, mem, here⟩ := List.mem_filterMap.mp (List.mem_of_getLast? last)
  exact ⟨values, mem, List.mem_of_getElem? here⟩

theorem word_of_given {key : List UInt8} {values : List (List UInt8)} {value : List UInt8}
    (mem : values ∈ given strings key) (here : value ∈ values) : Word value := by
  obtain ⟨a, -, -, rfl⟩ := mem_given.mp mem
  obtain rfl | further := List.mem_cons.mp here
  · exact a.value_word
  · exact a.further_words value further

theorem maskGiven_of_run {table : List NoxEnumNamePair} {given : List (List (List UInt8))}
    {mask : UInt32} (run : given.foldlM (maskOf table) 0 = .ok mask) :
    mask = maskGiven table given := by
  rw [foldlM_maskOf] at run
  cases run
  rw [maskGiven, List.foldl_map, takeNames]

/-- The arguments of a key are as they were given exactly if the last one for each slot is short
enough for its array. -/
theorem asGiven_iff {table : List NoxEnumNamePair} {key : List UInt8}
    {start out : UInt32 × Arguments}
    (run : (given strings key).foldlM (numberOf table) start = .ok out) :
    AsGiven table (given strings key) out ↔
      ∀ k, ∀ value ∈ lastValue (given strings key) (k + 1), value.length < 30 := by
  obtain ⟨-, number, slots⟩ := foldlM_numberOf run
  have slot : ∀ k, ∀ value ∈ lastValue (given strings key) (k + 1),
      out.2[k]? = some (strncpy 30 value) ∧ 0 ∉ value := by
    intro k value last
    obtain ⟨values, mem, here⟩ := lastValue_mem last
    refine ⟨?_, (word_of_given mem here).noNul⟩
    rw [slots, Option.mem_def.mp last]
    rfl
  constructor
  · intro asGiven k value last
    obtain ⟨stored, noNul⟩ := slot k value last
    obtain ⟨slot, here, text, terminated⟩ := asGiven.arguments k value last
    obtain rfl := Option.some.inj (here.symm.trans stored)
    exact (strncpy_terminated_iff noNul 30).mp ⟨text, terminated⟩
  · intro short
    refine ⟨fun value last => ?_, fun k value last => ?_⟩
    · rw [number, Option.mem_def.mp last]
      rfl
    · obtain ⟨stored, noNul⟩ := slot k value last
      exact ⟨_, stored, (strncpy_terminated_iff noNul 30).mpr (short k value last)⟩

variable {record : ObjectRecord} {object : GNHT}

/-- The three numbers that have arguments. -/
theorem numbers_of_meant (made : record.meant = .ok object) :
    (record.given "COLLIDE").foldlM (numberOf noxCollideNames) record.unread.collision =
        .ok object.collision ∧
      (record.given "UPDATE").foldlM (numberOf noxUpdateNames) record.unread.updating =
        .ok object.updating ∧
      (record.given "USE").foldlM (numberOf noxUseNames) record.unread.usage = .ok object.usage :=
  ⟨follows_collide.loadAttributes (fun _ _ => rfl) made,
    follows_update.loadAttributes (fun _ _ => rfl) made,
    follows_use.loadAttributes (fun _ _ => rfl) made⟩

theorem meant_ok_iff :
    (∃ object, record.meant = .ok object) ↔
      ∀ key ∈ ["COLLIDE", "UPDATE", "USE"], ∀ values ∈ record.given key, values.length ≤ 6 := by
  constructor
  · rintro ⟨object, made⟩
    obtain ⟨collide, update, use⟩ := numbers_of_meant made
    simp only [List.forall_mem_cons, List.not_mem_nil, false_imp_iff, implies_true, and_true]
    exact ⟨(foldlM_numberOf collide).1, (foldlM_numberOf update).1, (foldlM_numberOf use).1⟩
  · intro few
    refine loadAttributes_ok (fun a mem isKey => ?_) record.unread
    obtain ⟨key, listed, same⟩ := List.mem_map.mp isKey
    exact few key listed a.values (mem_given.mpr ⟨a, mem, same.symm, rfl⟩)

theorem faithful_iff (made : record.meant = .ok object) :
    record.Faithful object ↔ ∀ key ∈ ["COLLIDE", "UPDATE", "USE"],
      ∀ k, ∀ value ∈ lastValue (record.given key) (k + 1), value.length < 30 := by
  obtain ⟨collide, update, use⟩ := numbers_of_meant made
  have name := loadAttributes_name made
  have classes := maskGiven_of_run (follows_classes.loadAttributes (fun _ _ => rfl) made)
  have flags := maskGiven_of_run (follows_flags.loadAttributes (fun _ _ => rfl) made)
  have subclass := maskGiven_of_run (follows_subclass.loadAttributes (fun _ _ => rfl) made)
  simp only [List.forall_mem_cons, List.not_mem_nil, false_imp_iff, implies_true, and_true]
  constructor
  · intro faithful
    exact ⟨(asGiven_iff collide).mp faithful.collide, (asGiven_iff update).mp faithful.update,
      (asGiven_iff use).mp faithful.use⟩
  · rintro ⟨short, short', short''⟩
    exact ⟨name.1, name.2, classes, flags, subclass, (asGiven_iff collide).mpr short,
      (asGiven_iff update).mpr short', (asGiven_iff use).mpr short''⟩

/-- A record becomes an object that is what it says exactly if there is room for its arguments. -/
theorem meant_faithful_iff :
    (∃ object, record.meant = .ok object ∧ record.Faithful object) ↔
      ∀ key ∈ ["COLLIDE", "UPDATE", "USE"], record.ArgumentsFit key := by
  constructor
  · rintro ⟨object, made, faithful⟩ key listed
    exact ⟨meant_ok_iff.mp ⟨object, made⟩ key listed, (faithful_iff made).mp faithful key listed⟩
  · intro fit
    obtain ⟨object, made⟩ := meant_ok_iff.mpr fun key listed => (fit key listed).few
    exact ⟨object, made, (faithful_iff made).mpr fun key listed => (fit key listed).short⟩

/-! ### The file -/

/-- The file ends with some records, behind the tag of the first of which the loading starts. -/
structure AtRecords (records : List ObjectRecord) (filelen : Nat) (s : Loader (List GNHT)) :
    Prop where
  type : s.type = gnht
  starts : ∃ front, s.buff = front ++ (encodeRecords records ++ padding) ∧
    s.count = front.length + gnht.length ∧ filelen = front.length + (encodeRecords records).length

/-- The loop has one turn for each record, which starts behind the tag of the record. -/
inductive TurnPerRecord (sizeofLong filelen turns : Nat) :
    List ObjectRecord → Loader (List GNHT) → Prop
  | done {s : Loader (List GNHT)} (stop : s.type ≠ gnht) :
      TurnPerRecord sizeofLong filelen turns [] s
  | turn {record : ObjectRecord} {records : List ObjectRecord} {s s' : Loader (List GNHT)}
      (type : s.type = gnht)
      (ahead : reading.rest s = record.body ++ (encodeRecords records ++ padding))
      (run : loadNext sizeofLong filelen turns s = .ok ((), s'))
      (rest : TurnPerRecord sizeofLong filelen turns records s') :
      TurnPerRecord sizeofLong filelen turns (record :: records) s

/-- `Load_Objects` adds objects that are what the records say. -/
def AddsFaithful (sizeofLong filelen turns : Nat) (records : List ObjectRecord)
    (s : Loader (List GNHT)) : Prop :=
  ∃ s' loaded, loadObjects sizeofLong filelen turns s = .ok ((), s') ∧
    s'.thing = s.thing ++ loaded ∧ List.Forall₂ ObjectRecord.Faithful records loaded

/-- `Load_Objects` adds one object for each record, which is what the record says. -/
structure LoadsFaithfully (sizeofLong filelen turns : Nat) (records : List ObjectRecord)
    (s : Loader (List GNHT)) : Prop where
  adds : AddsFaithful sizeofLong filelen turns records s
  each : TurnPerRecord sizeofLong filelen turns records s

theorem strings_length_lt (record : ObjectRecord) :
    record.strings.length < record.body.length := by
  have each : record.strings.length ≤ (record.strings.flatMap Attribute.encode).length := by
    induction record.strings with
    | nil => exact Nat.le_refl _
    | cons a strings ih =>
        rw [List.flatMap_cons, List.length_append, List.length_cons, Attribute.encode,
          encodeScalar_byte, List.length_append, List.length_singleton]
        omega
  rw [ObjectRecord.body, List.length_append, List.length_append, List.length_append,
    List.length_singleton]
  omega

theorem records_length_lt (records : List ObjectRecord) :
    records.length ≤ (encodeRecords records).length ∧
      ∀ record ∈ records, record.strings.length < (encodeRecords records).length := by
  induction records with
  | nil => exact ⟨Nat.le_refl _, nofun⟩
  | cons record records ih =>
      have length : (encodeRecords (record :: records)).length =
          4 + (record.body.length + (encodeRecords records).length) := by
        rw [encodeRecords_cons, List.length_append, List.length_append]
        rfl
      have first := strings_length_lt record
      rw [length]
      refine ⟨by rw [List.length_cons]; omega, List.forall_mem_cons.mpr ⟨by omega, ?_⟩⟩
      intro other mem
      have later := ih.2 other mem
      omega

/-- There are fewer records, and strings of each, than there are bytes. -/
theorem enough_turns {record : ObjectRecord} {turns : Nat}
    (ahead : buff.drop count = record.body ++ (encodeRecords records ++ padding))
    (enough : buff.length ≤ turns) :
    (∀ other ∈ record :: records, other.strings.length + 1 < turns) ∧
      records.length + 1 < turns := by
  have lengths := congrArg List.length ahead
  rw [List.length_drop, List.length_append, List.length_append] at lengths
  have room : padding.length = 10 := rfl
  have first := strings_length_lt record
  obtain ⟨fewer, others⟩ := records_length_lt records
  refine ⟨List.forall_mem_cons.mpr ⟨by omega, fun other mem => ?_⟩, by omega⟩
  have later := others other mem
  omega

/-- Where the first record is. -/
theorem AtRecords.place {record : ObjectRecord} {s : Loader (List GNHT)}
    (file : AtRecords (record :: records) filelen s) :
    s.buff.drop s.count = record.body ++ (encodeRecords records ++ padding) ∧
      s.count + record.body.length + (encodeRecords records).length = filelen ∧
      s.buff.length = filelen + padding.length := by
  obtain ⟨-, front, buffer, count, rfl⟩ := file
  rw [count, buffer, encodeRecords_cons]
  refine ⟨?_, ?_, ?_⟩
  · rw [← List.drop_drop, List.drop_left, List.append_assoc, List.append_assoc, List.drop_left]
  · rw [List.length_append, List.length_append]
    omega
  · rw [List.length_append, List.length_append, ← Nat.add_assoc]

/-- `Load_Objects` adds what the records say, if that can be stored. -/
theorem loadObjects_run {records : List ObjectRecord} {s : Loader (List GNHT)} {turns : Nat}
    (file : AtRecords records filelen s) (some : records ≠ [])
    (untagged : ∀ record ∈ records, record.Untagged) (enough : s.buff.length ≤ turns) :
    ∃ count' type', loadObjects sizeofLong filelen turns s = (do
      let loaded ← records.mapM ObjectRecord.meant
      .ok ((), ⟨s.buff, count', type', s.thing ++ loaded⟩)) := by
  obtain ⟨buff, count, type, thing⟩ := s
  cases records with
  | nil => exact absurd rfl some
  | cons record records =>
      obtain ⟨ahead, place, -⟩ := file.place
      obtain ⟨strings, objects⟩ := enough_turns ahead enough
      obtain ⟨count', type', run⟩ := objectsLoop_run record untagged ahead place strings objects
      obtain rfl := file.type
      exact ⟨count', type', run thing⟩

/-- If there is a turn for each record, none has a string like a tag: its turn would have ended
there, so that the next one would not start behind the tag of the next record. -/
theorem untagged_of_turns {records : List ObjectRecord} {s : Loader (List GNHT)} {turns : Nat}
    (each : TurnPerRecord sizeofLong filelen turns records s)
    (size : s.buff.length = filelen + padding.length) (enough : s.buff.length ≤ turns) :
    ∀ record ∈ records, record.Untagged := by
  induction each with
  | done stop => exact nofun
  | @turn record records s s' type ahead run rest ih =>
      obtain ⟨buff, count, type, thing⟩ := s
      have ahead : buff.drop count = record.body ++ (encodeRecords records ++ padding) := ahead
      have lengths := congrArg List.length ahead
      rw [List.length_drop, List.length_append, List.length_append] at lengths
      have body := length_body record
      have size : buff.length = filelen + padding.length := size
      have place : count + record.body.length + (encodeRecords records).length = filelen := by
        omega
      obtain ⟨strings, -⟩ := enough_turns ahead enough
      by_cases untagged : record.Untagged
      · obtain ⟨count', type', -, next⟩ := loadNext_run record untagged ahead place
          (strings record List.mem_cons_self)
        obtain ⟨object, -, ended⟩ := bind_eq_ok.mp ((next thing).symm.trans run)
        cases ended
        exact List.forall_mem_cons.mpr ⟨untagged, ih size enough⟩
      · obtain ⟨object, s₁, load, -⟩ := bind_run_eq_ok run
        obtain ⟨tag, same, before⟩ := loadObject_tagged record untagged ahead place
          (strings record List.mem_cons_self) load
        have next := loadNext_of_load load fun inside => inside.1 tag
        cases next.symm.trans run
        cases rest with
        | done stop => exact absurd tag stop
        | @turn following records _ _ _ ahead' _ _ =>
            have ahead' : s₁.buff.drop s₁.count =
                following.body ++ (encodeRecords records ++ padding) := ahead'
            have lengths' := congrArg List.length ahead'
            rw [same, List.length_drop, List.length_append, List.length_append] at lengths'
            rw [encodeRecords_cons, List.length_append, List.length_append] at place
            have tag : gnht.length = 4 := rfl
            omega

theorem exists_forall₂_iff {R : ObjectRecord → GNHT → Prop} {records : List ObjectRecord} :
    (∃ loaded, List.Forall₂ R records loaded) ↔ ∀ record ∈ records, ∃ object, R record object := by
  induction records with
  | nil => exact ⟨fun _ => nofun, fun _ => ⟨[], .nil⟩⟩
  | cons record records ih =>
      rw [List.forall_mem_cons, ← ih]
      constructor
      · rintro ⟨loaded, each⟩
        obtain ⟨object, others, here, rest, -⟩ := List.forall₂_cons_left_iff.mp each
        exact ⟨⟨object, here⟩, others, rest⟩
      · rintro ⟨⟨object, here⟩, others, rest⟩
        exact ⟨object :: others, .cons here rest⟩

/-- The objects are what the records say exactly if each record becomes one that is. -/
theorem addsFaithful_iff {records : List ObjectRecord} {s : Loader (List GNHT)} {turns : Nat}
    (file : AtRecords records filelen s) (some : records ≠ [])
    (untagged : ∀ record ∈ records, record.Untagged) (enough : s.buff.length ≤ turns) :
    AddsFaithful sizeofLong filelen turns records s ↔
      ∀ record ∈ records, ∃ object, record.meant = .ok object ∧ record.Faithful object := by
  obtain ⟨count', type', run⟩ := loadObjects_run file some untagged enough
  rw [← exists_forall₂_iff]
  constructor
  · rintro ⟨s', loaded, done, added, faithful⟩
    obtain ⟨objects, made, rest⟩ := bind_eq_ok.mp (run.symm.trans done)
    cases rest
    obtain rfl := List.append_cancel_left added
    refine ⟨objects, (mapM_meant_iff.mp made).mp (fun _ _ made faithful => ?_) faithful⟩
    exact ⟨made, faithful⟩
  · rintro ⟨loaded, both⟩
    have made := mapM_meant_iff.mpr (both.imp fun _ _ both => both.1)
    have faithful := both.imp fun _ _ both => both.2
    refine ⟨⟨s.buff, count', type', s.thing ++ loaded⟩, loaded, ?_, rfl, faithful⟩
    rw [run, made]
    rfl

/-- Without strings like tags there is a turn for each record. -/
theorem turns_of_untagged {records : List ObjectRecord} (record : ObjectRecord) {turns : Nat}
    (untagged : ∀ r ∈ record :: records, r.Untagged)
    (made : ∀ r ∈ record :: records, ∃ object, r.meant = .ok object)
    (ahead : buff.drop count = record.body ++ (encodeRecords records ++ padding))
    (place : count + record.body.length + (encodeRecords records).length = filelen)
    (enough : ∀ r ∈ record :: records, r.strings.length + 1 < turns) (thing : List GNHT) :
    TurnPerRecord sizeofLong filelen turns (record :: records) ⟨buff, count, gnht, thing⟩ := by
  induction records generalizing record count thing with
  | nil =>
      obtain ⟨count', type', next, run⟩ := loadNext_run record (untagged record List.mem_cons_self)
        ahead place (enough record List.mem_cons_self)
      obtain ⟨object, here⟩ := made record List.mem_cons_self
      refine .turn rfl ahead ((run thing).trans (bind_eq_ok.mpr ⟨object, here, rfl⟩)) ?_
      exact .done next.1
  | cons following records ih =>
      obtain ⟨first, others⟩ := List.forall_mem_cons.mp untagged
      obtain ⟨⟨object, here⟩, mades⟩ := List.forall_mem_cons.mp made
      obtain ⟨enough₁, enoughs⟩ := List.forall_mem_cons.mp enough
      obtain ⟨count', type', next, run⟩ := loadNext_run record first ahead place enough₁
      obtain ⟨rfl, ahead', place'⟩ := next.behind_tag
      refine .turn rfl ahead ((run thing).trans (bind_eq_ok.mpr ⟨object, here, rfl⟩)) ?_
      exact ih following others mades ahead' place' enoughs _

/-- Objects are loaded faithfully exactly if no string but the first one of a record looks like a
tag and there is room for all arguments. -/
theorem loadObjects_faithful_iff {records : List ObjectRecord} {s : Loader (List GNHT)}
    {sizeofLong filelen turns : Nat} (file : AtRecords records filelen s) (some : records ≠ [])
    (enough : s.buff.length ≤ turns) :
    LoadsFaithfully sizeofLong filelen turns records s ↔
      ∀ record ∈ records, record.Untagged ∧
        ∀ key ∈ ["COLLIDE", "UPDATE", "USE"], record.ArgumentsFit key := by
  cases records with
  | nil => exact absurd rfl some
  | cons record records =>
      obtain ⟨ahead, place, size⟩ := file.place
      constructor
      · intro loads other mem
        have untagged := untagged_of_turns loads.each size enough
        have made := (addsFaithful_iff file some untagged enough).mp loads.adds other mem
        exact ⟨untagged other mem, meant_faithful_iff.mp made⟩
      · intro good
        have untagged := fun other mem => (good other mem).1
        have faithful := fun other mem => meant_faithful_iff.mpr (good other mem).2
        have made := fun other mem => (faithful other mem).imp fun _ both => both.1
        obtain ⟨strings, -⟩ := enough_turns ahead enough
        obtain ⟨buff, count, type, thing⟩ := s
        obtain rfl := file.type
        exact ⟨(addsFaithful_iff file some untagged enough).mpr faithful,
          turns_of_untagged record untagged made ahead place strings thing⟩

def fileOf (records : List ObjectRecord) : Loader (List GNHT) :=
  ⟨encodeRecords records ++ padding, 4, gnht, []⟩

theorem atRecords_fileOf (records : List ObjectRecord) :
    AtRecords records (encodeRecords records).length (fileOf records) :=
  ⟨rfl, [], rfl, rfl, (Nat.zero_add _).symm⟩

/-- "USE = WandUse + Fire + 5". -/
def wandUse : Attribute where
  key := chars "USE"
  value := chars "WandUse"
  further := ["Fire", "5"].map chars
  key_word := by decide
  value_word := by decide
  further_words := by decide
  short := by decide
  plain := by decide

/-- A use with more arguments than there are slots. -/
def crowdedUse : Attribute where
  key := chars "USE"
  value := chars "WandUse"
  further := ["1", "2", "3", "4", "5", "6"].map chars
  key_word := by decide
  value_word := by decide
  further_words := by decide
  short := by decide
  plain := by decide

def wand (use : Attribute) : ObjectRecord where
  name := chars "Wand"
  strings := [use]
  name_short := by decide

theorem wand_untagged (use : Attribute) : ∀ record ∈ [wand use], record.Untagged := by
  intro record mem
  obtain rfl := List.mem_singleton.mp mem
  exact nofun

theorem loadObjects_faithful_wand :
    LoadsFaithfully 4 (encodeRecords [wand wandUse]).length 100 [wand wandUse]
      (fileOf [wand wandUse]) := by
  have small : ∀ key ∈ ["COLLIDE", "UPDATE", "USE"], ∀ values ∈ (wand wandUse).given key,
      values.length ≤ 6 ∧ ∀ value ∈ values, value.length < 30 := by decide
  refine (loadObjects_faithful_iff (atRecords_fileOf _) (List.cons_ne_nil _ _) (by decide)).mpr ?_
  intro record mem
  refine ⟨wand_untagged wandUse record mem, fun key listed => ?_⟩
  obtain rfl := List.mem_singleton.mp mem
  refine ⟨fun values given => (small key listed values given).1, fun k value last => ?_⟩
  obtain ⟨values, given, here⟩ := lastValue_mem last
  exact (small key listed values given).2 value here

/-- The sixth argument has no slot. -/
theorem loadObjects_crowded_fails :
    AtRecords [wand crowdedUse] (encodeRecords [wand crowdedUse]).length
        (fileOf [wand crowdedUse]) ∧
      ¬AddsFaithful 4 (encodeRecords [wand crowdedUse]).length 100 [wand crowdedUse]
        (fileOf [wand crowdedUse]) := by
  have crowded : ¬∀ values ∈ (wand crowdedUse).given "USE", values.length ≤ 6 := by decide
  refine ⟨atRecords_fileOf _, fun adds => crowded ?_⟩
  have each := (addsFaithful_iff (atRecords_fileOf _) (List.cons_ne_nil _ _)
    (wand_untagged crowdedUse) (by decide)).mp adds
  obtain ⟨object, made, -⟩ := each _ (List.mem_singleton_self _)
  exact meant_ok_iff.mp ⟨object, made⟩ "USE" (by decide)

end NoxServer.Things
