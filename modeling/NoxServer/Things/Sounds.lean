import Mathlib.Data.List.Forall2
import NoxServer.Library.CString
import NoxServer.Things.Loader

/-!
The sounds of thing.bin (`ThingBin::Load_Sounds`, `NoxThinglib.cpp`).

All records are loaded into one `DUA`, which is added to the list by a copy of its fields: the
copies have the nodes of one list of sound names, to which every record adds its own, and that list
is cleared when the `DUA` goes out of scope. So a record with a name of a sound leaves an entry that
points to deleted nodes (`loadSounds_faithful_iff`).
-/

namespace NoxServer.Things

open LinkedList ByteBuffer Consume
open Decode (Cursor)

/-! ### Records -/

def duaTag : List UInt8 := [0x20, 0x44, 0x55, 0x41]

structure Property where
  valueLen : UInt8 := 0
  value : List UInt8 := List.replicate 255 0
  deriving DecidableEq

/-- `DUA`, without the `Unknown` that is never used. -/
structure DUA where
  nameLen : UInt8 := 0
  name : List UInt8 := List.replicate 25 0
  unknowns : List UInt8 := List.replicate 9 0
  sounds : MList := {}

/-- `Thing.Sounds.Sounds`, with the nodes of the lists of sound names. -/
structure SoundLists where
  sounds : MList
  soundNodes : Nodes DUA
  props : Nodes Property

/-- The first 25 characters of the value are cleared, and some are copied to its start. -/
def Property.overwrite (prop : Property) (valueLen : UInt8) (bytes : List UInt8) : Property where
  valueLen := valueLen
  value := bytes ++ (List.replicate 25 0 ++ prop.value.drop 25).drop bytes.length

/-- `Aud.Sounds.Add(prop)`. -/
def addSound (aud : DUA) (prop : Property) : Load SoundLists DUA := do
  let s ← get
  let (sounds, props) ← liftM (aud.sounds.add s.thing.props prop)
  set { s with thing := { s.thing with props } }
  return { aud with sounds }

/-- The loop of `Load_Aud`, and the step behind it. Each turn reads further on, so that it leaves
the buffer in as many turns as there are bytes. -/
def audSounds : Nat → Property → DUA → Load SoundLists DUA
  | 0, _, _ => throw .outOfBounds
  | turns + 1, prop, aud => do
      let byte ← peek 1
      if byte = [0] then
        move 1
        return aud
      else
        let valueLen ← copyValue UInt8
        let bytes ← copy valueLen.toNat
        let prop := prop.overwrite valueLen bytes
        let aud ← addSound aud prop
        audSounds turns prop aud

def loadAud (aud : DUA) : Load SoundLists DUA := do
  let nameLen ← copyValue UInt8
  let name ← copyText 25 nameLen.toNat
  let unknowns ← copy 9
  let s ← get
  audSounds s.buff.length {} { aud with nameLen, name, unknowns }

/-- `Thing.Sounds.Sounds.Add(Aud)`. -/
def addAud (aud : DUA) : Load SoundLists Unit := do
  let s ← get
  let (sounds, soundNodes) ← liftM (s.thing.sounds.add s.thing.soundNodes aud)
  set { s with thing := { s.thing with sounds, soundNodes } }

/-- The loop of `Load_Sounds`. -/
def audLoop : Nat → DUA → Load SoundLists DUA
  | 0, aud => return aud
  | len + 1, aud => do
      let aud ← loadAud aud
      addAud aud
      audLoop len aud

/-- The end of an `Aud`: its list is cleared. -/
def destroyAud (aud : DUA) : Load SoundLists Unit := do
  let s ← get
  let (_, props) ← liftM (aud.sounds.clear s.thing.props)
  set { s with thing := { s.thing with props } }

def loadSounds : Load SoundLists Unit := do
  copyType
  move 4
  let s ← get
  if s.type = duaTag then
    let len ← copyValue Int32
    let aud ← audLoop len.toInt.toNat {}
    destroyAud aud
  else destroyAud {}

/-! ### The encoding -/

structure SoundName where
  bytes : List UInt8
  nonempty : 0 < bytes.length
  short : bytes.length ≤ 254

def SoundName.encode (name : SoundName) : List UInt8 :=
  encodeScalar (UInt8.ofNat name.bytes.length) ++ name.bytes

structure AudRecord where
  name : List UInt8
  unknowns : List UInt8
  sounds : List SoundName
  name_short : name.length ≤ 24
  unknowns_sized : unknowns.length = 9

def encodeSounds (sounds : List SoundName) : List UInt8 := sounds.flatMap SoundName.encode ++ [0]

def AudRecord.encode (record : AudRecord) : List UInt8 :=
  encodeScalar (UInt8.ofNat record.name.length) ++
    (record.name ++ (record.unknowns ++ encodeSounds record.sounds))

/-- The section of some records. -/
def encodeAuds (records : List AudRecord) : List UInt8 :=
  duaTag ++ (toBytes 4 records.length ++ records.flatMap AudRecord.encode)

/-! ### One record -/

variable {s : Loader SoundLists} {more : List UInt8}

/-- A list that has a first node keeps it. -/
def KeepsFirst (l l' : MList) : Prop := l.first ≠ none → l'.first = l.first

theorem KeepsFirst.trans {l l' l'' : MList} (first : KeepsFirst l l') (second : KeepsFirst l' l'') :
    KeepsFirst l l'' := fun some =>
  (second fun none => some ((first some).symm.trans none)).trans (first some)

theorem add_keepsFirst {α : Type} {l l' : MList} {nodes nodes' : Nodes α} {val : α} {ID : Int}
    (run : l.add nodes val ID = .ok (l', nodes')) : KeepsFirst l l' := by
  intro some
  unfold MList.add at run
  split at run
  · next none => exact absurd none some
  · split at run
    · cases run
    · obtain ⟨_, -, run⟩ := bind_eq_ok.mp run
      cases run
      rfl

theorem encodeScalar_byte (byte : UInt8) : encodeScalar byte = [byte] :=
  congrArg (fun byte => [byte]) UInt8.ofNat_toNat

theorem toNat_ofNat_small {length : Nat} (small : length ≤ 254) :
    (UInt8.ofNat length).toNat = length := by
  rw [UInt8.toNat_ofNat', Nat.mod_eq_of_lt (by omega)]

theorem addSound_run (aud : DUA) {nodes : List (Nat × Entry Property)}
    (sound : Sound aud.sounds s.thing.props nodes) (prop : Property) :
    ∃ l' props' nodes', addSound aud prop s =
        .ok ({ aud with sounds := l' }, { s with thing := { s.thing with props := props' } }) ∧
      Sound l' props' nodes' ∧ nodes'.length = nodes.length + 1 ∧ KeepsFirst aud.sounds l' := by
  obtain ⟨l', props', run, sound', -⟩ := sound.add prop 0
  have lifted : (liftM (aud.sounds.add s.thing.props prop) : Load SoundLists _) s =
      .ok ((l', props'), s) := by
    rw [run]
    rfl
  refine ⟨l', props', _, ?_, sound', List.length_append, add_keepsFirst run⟩
  rw [addSound, run_bind_ok rfl, run_bind_ok lifted]
  rfl

/-- The names of a record are added behind those the list has. -/
theorem audSounds_run {sounds : List SoundName} {turns : Nat} (enough : sounds.length < turns)
    (prop : Property) (aud : DUA) {nodes : List (Nat × Entry Property)}
    (sound : Sound aud.sounds s.thing.props nodes)
    (ahead : reading.rest s = encodeSounds sounds ++ more) :
    ∃ l' props' nodes', audSounds turns prop aud s =
        .ok ({ aud with sounds := l' }, { s with
          count := s.count + (encodeSounds sounds).length
          thing := { s.thing with props := props' } }) ∧
      Sound l' props' nodes' ∧ nodes'.length = nodes.length + sounds.length ∧
      KeepsFirst aud.sounds l' := by
  induction sounds generalizing turns prop aud s nodes with
  | nil =>
      obtain ⟨turns, rfl⟩ : ∃ rest, turns = rest + 1 := ⟨turns - 1, by omega⟩
      have byte : peek 1 s = .ok ([0], s) := peek_run ahead
      refine ⟨aud.sounds, s.thing.props, nodes, ?_, sound, rfl, fun _ => rfl⟩
      rw [audSounds, run_bind_ok byte, if_pos rfl]
      rfl
  | cons name sounds ih =>
      obtain ⟨turns, rfl⟩ : ∃ rest, turns = rest + 1 := ⟨turns - 1, by omega⟩
      have whole : encodeSounds (name :: sounds) = encodeScalar (UInt8.ofNat name.bytes.length) ++
          (name.bytes ++ encodeSounds sounds) := by
        rw [encodeSounds, List.flatMap_cons, SoundName.encode, List.append_assoc, List.append_assoc]
        rfl
      rw [whole, List.append_assoc, List.append_assoc] at ahead
      have length := toNat_ofNat_small name.short
      have byte : peek 1 s = .ok ([UInt8.ofNat name.bytes.length], s) := by
        rw [encodeScalar_byte] at ahead
        exact peek_run ahead
      have not_end : [UInt8.ofNat name.bytes.length] ≠ [0] := by
        intro same
        have zero : name.bytes.length = 0 :=
          length.symm.trans (congrArg UInt8.toNat (List.cons.inj same).1)
        have nonempty := name.nonempty
        omega
      have ahead₁ := Cursor.rest_advance _ ahead
      have ahead₂ := Cursor.rest_advance _ ahead₁
      obtain ⟨l₁, props₁, nodes₁, add, sound₁, length₁, keeps₁⟩ := addSound_run
        (s := reading.advance (reading.advance s _) _) aud sound
        (prop.overwrite (UInt8.ofNat name.bytes.length) name.bytes)
      obtain ⟨l', props', nodes', run, sound', length', keeps'⟩ := ih
        (s := { reading.advance (reading.advance s _) _ with
          thing := { s.thing with props := props₁ } })
        (Nat.lt_of_succ_lt_succ enough)
        (prop.overwrite (UInt8.ofNat name.bytes.length) name.bytes) { aud with sounds := l₁ } sound₁
        ahead₂
      refine ⟨l', props', nodes', ?_, sound', ?_, keeps₁.trans keeps'⟩
      · rw [audSounds, run_bind_ok byte, if_neg not_end, run_bind_ok (copyValue_run _ ahead),
          length, run_bind_ok (copy_run ahead₁), run_bind_ok add]
        refine run.trans ?_
        rw [whole, List.length_append, List.length_append, ← Nat.add_assoc, ← Nat.add_assoc]
        rfl
      · rw [length', length₁, List.length_cons, Nat.add_assoc, Nat.add_comm 1]

theorem sounds_length_le (sounds : List SoundName) :
    sounds.length < (encodeSounds sounds).length := by
  rw [encodeSounds, List.length_append]
  refine Nat.lt_succ_of_le ?_
  induction sounds with
  | nil => exact Nat.le_refl _
  | cons name sounds ih =>
      rw [List.flatMap_cons, List.length_append, List.length_cons, SoundName.encode,
        encodeScalar_byte, List.length_append, List.length_singleton]
      omega

/-- What is loaded of a record besides its list of sounds. -/
structure SameHeader (record : AudRecord) (aud : DUA) : Prop where
  nameLen : aud.nameLen = UInt8.ofNat record.name.length
  name : aud.name = padded 25 record.name
  unknowns : aud.unknowns = record.unknowns

/-- One record of sounds is loaded: the header is its own, and its names are put behind those the
local list has from the records before it. -/
theorem loadAud_run (record : AudRecord) (aud : DUA) {nodes : List (Nat × Entry Property)}
    (sound : Sound aud.sounds s.thing.props nodes)
    (ahead : reading.rest s = record.encode ++ more) :
    ∃ aud' props' nodes', loadAud aud s = .ok (aud', { s with
          count := s.count + record.encode.length
          thing := { s.thing with props := props' } }) ∧
      SameHeader record aud' ∧ Sound aud'.sounds props' nodes' ∧
      nodes'.length = nodes.length + record.sounds.length ∧
      KeepsFirst aud.sounds aud'.sounds := by
  rw [AudRecord.encode, List.append_assoc, List.append_assoc, List.append_assoc] at ahead
  have ahead₁ := Cursor.rest_advance _ ahead
  have ahead₂ := Cursor.rest_advance _ ahead₁
  have ahead₃ := Cursor.rest_advance _ ahead₂
  have short := record.name_short
  have length := toNat_ofNat_small (show record.name.length ≤ 254 by omega)
  have name := copyText_run (show record.name.length ≤ 25 by omega) ahead₁
  have unknowns := copy_run ahead₂
  rw [record.unknowns_sized] at unknowns ahead₃
  have enough : record.sounds.length < s.buff.length := by
    have lengths := congrArg List.length ahead₃
    have shorter := sounds_length_le record.sounds
    rw [View.rest, List.length_drop, List.length_append] at lengths
    have within : (reading.data (reading.advance (reading.advance (reading.advance s
      (encodeScalar (UInt8.ofNat record.name.length)).length) record.name.length) 9)).length =
        s.buff.length := rfl
    omega
  obtain ⟨l', props', nodes', run, sound', length', keeps⟩ := audSounds_run
    (s := reading.advance (reading.advance (reading.advance s _) _) 9) enough {}
    { aud with
      nameLen := UInt8.ofNat record.name.length, name := padded 25 record.name
      unknowns := record.unknowns } sound ahead₃
  refine ⟨⟨_, _, _, l'⟩, props', nodes', ?_, ⟨rfl, rfl, rfl⟩, sound', length', keeps⟩
  rw [loadAud, run_bind_ok (copyValue_run _ ahead), length, run_bind_ok name,
    run_bind_ok unknowns, run_bind_ok rfl]
  refine run.trans ?_
  simp only [AudRecord.encode, List.length_append, record.unknowns_sized, ← Nat.add_assoc]
  rfl

/-! ### All records -/

/-- The entry of a record: a copy of the `DUA` as it was then, whose list is the one that the `DUA`
has afterwards, if it had a first node already. -/
structure Snapshot (sounds : MList) (record : AudRecord) (dua : DUA) : Prop
    extends SameHeader record dua where
  keeps : KeepsFirst dua.sounds sounds
  started : record.sounds ≠ [] → dua.sounds.first ≠ none
  unstarted : dua.sounds.first = none → dua.sounds.numNodes = 0

/-- Behind the entries that the list had before, it has one of each record, and the list of the
`DUA` has the names of all records. -/
structure AudsLoaded (old : List (Nat × Entry DUA)) (records : List AudRecord) (aud : DUA)
    (thing : SoundLists) : Prop where
  names : ∃ nodes, Sound aud.sounds thing.props nodes ∧
    nodes.length = (records.flatMap AudRecord.sounds).length
  entries : ∃ new, Sound thing.sounds thing.soundNodes (old ++ new) ∧
    List.Forall₂ (Snapshot aud.sounds) records (new.map fun node => node.2.msg)

theorem Sound.first_eq_none_iff {α : Type} {l : MList} {nodes : Nodes α}
    {entries : List (Nat × Entry α)} (sound : Sound l nodes entries) :
    l.first = none ↔ entries.length = 0 := by
  rw [sound.linked.start_eq, List.getElem?_eq_none_iff, List.length_map, Nat.le_zero]

variable {old : List (Nat × Entry DUA)} {seen : List AudRecord} {aud : DUA}

/-- A turn of the loop loads one record more. -/
theorem AudsLoaded.step (loaded : AudsLoaded old seen aud s.thing) (record : AudRecord)
    (ahead : reading.rest s = record.encode ++ more) (len : Nat) :
    ∃ aud' thing', AudsLoaded old (seen ++ [record]) aud' thing' ∧
      audLoop (len + 1) aud s = audLoop len aud'
        ⟨s.buff, s.count + record.encode.length, s.type, thing'⟩ := by
  obtain ⟨nodes, names, count⟩ := loaded.names
  obtain ⟨new, entries, snapshots⟩ := loaded.entries
  obtain ⟨aud', props', nodes', load, header, names', count', keeps⟩ := loadAud_run record aud
    names ahead
  obtain ⟨l', soundNodes', add, entries', -⟩ := entries.add aud' 0
  refine ⟨aud', ⟨l', soundNodes', props'⟩, ⟨⟨nodes', names', ?_⟩,
    ⟨new ++ [(s.thing.soundNodes.fresh, ⟨aud', 0⟩)], ?_, ?_⟩⟩, ?_⟩
  · rw [count', count, List.flatMap_append, List.length_append, List.flatMap_singleton]
  · rw [← List.append_assoc]
    exact entries'
  · have earlier : List.Forall₂ (Snapshot aud'.sounds) seen (new.map fun node => node.2.msg) :=
      snapshots.imp fun _ _ snapshot => { snapshot with keeps := snapshot.keeps.trans keeps }
    have last : Snapshot aud'.sounds record aud' := {
      toSameHeader := header
      keeps := fun _ => rfl
      started := fun nonempty none => by
        have empty := names'.first_eq_none_iff.mp none
        have some := List.length_pos_iff.mpr nonempty
        omega
      unstarted := fun none => by
        have empty := names'.first_eq_none_iff.mp none
        rw [names'.numNodes, empty]
        rfl }
    rw [List.map_append]
    exact List.rel_append earlier (.cons last .nil)
  · have lifted : (liftM (s.thing.sounds.add s.thing.soundNodes aud') : Load SoundLists _)
        { s with
          count := s.count + record.encode.length
          thing := { s.thing with props := props' } } = .ok ((l', soundNodes'), { s with
            count := s.count + record.encode.length
            thing := { s.thing with props := props' } }) := by
      rw [add]
      rfl
    have added : addAud aud' { s with
        count := s.count + record.encode.length
        thing := { s.thing with props := props' } } =
        .ok ((), ⟨s.buff, s.count + record.encode.length, s.type, ⟨l', soundNodes', props'⟩⟩) := by
      rw [addAud, run_bind_ok rfl]
      exact run_bind_ok lifted
    rw [audLoop, run_bind_ok load, run_bind_ok added]

theorem audLoop_run {records : List AudRecord} (loaded : AudsLoaded old seen aud s.thing)
    (ahead : reading.rest s = records.flatMap AudRecord.encode ++ more) :
    ∃ aud' thing', audLoop records.length aud s = .ok (aud',
        ⟨s.buff, s.count + (records.flatMap AudRecord.encode).length, s.type, thing'⟩) ∧
      AudsLoaded old (seen ++ records) aud' thing' := by
  induction records generalizing s seen aud with
  | nil =>
      refine ⟨aud, s.thing, rfl, ?_⟩
      rwa [List.append_nil]
  | cons record records ih =>
      rw [List.flatMap_cons, List.append_assoc] at ahead
      obtain ⟨aud₁, thing₁, loaded₁, turn⟩ := loaded.step record ahead records.length
      obtain ⟨aud', thing', run, loaded'⟩ := ih
        (s := ⟨s.buff, s.count + record.encode.length, s.type, thing₁⟩) loaded₁
        (Cursor.rest_advance _ ahead)
      rw [List.append_assoc] at loaded'
      refine ⟨aud', thing', ?_, loaded'⟩
      rw [List.length_cons, turn]
      refine run.trans ?_
      rw [List.flatMap_cons, List.length_append, Nat.add_assoc]

theorem destroyAud_run {nodes : List (Nat × Entry Property)}
    (sound : Sound aud.sounds s.thing.props nodes) :
    ∃ props', destroyAud aud s = .ok ((), { s with thing := { s.thing with props := props' } }) ∧
      ∀ a, aud.sounds.first = some a → props'.heap a = none := by
  obtain ⟨props', run, -, gone, -⟩ := clear_run sound.linked
  have lifted : (liftM (aud.sounds.clear s.thing.props) : Load SoundLists _) s =
      .ok (({ aud.sounds with first := none, last := none, numNodes := 0 }, props'), s) := by
    rw [run]
    rfl
  refine ⟨props', ?_, fun a first => gone a (sound.linked.start_mem first)⟩
  rw [destroyAud, run_bind_ok rfl, run_bind_ok lifted]
  rfl

/-! ### The section -/

/-- The number of records as it is in the section. -/
theorem encodeScalar_len {length : Nat} (encodable : length < 2 ^ 32) :
    encodeScalar (UInt32.ofNat length).toInt32 = toBytes 4 length := by
  have bits : (UInt32.ofNat length).toInt32.toUInt32.toNat = length := by
    rw [UInt32.toUInt32_toInt32, UInt32.toNat_ofNat', Nat.mod_eq_of_lt encodable]
  exact congrArg (toBytes 4) bits

/-- The loop counts with an `int`, which is negative from 2^31 records on. -/
theorem turns_of_len {length : Nat} (encodable : length < 2 ^ 32) :
    (UInt32.ofNat length).toInt32.toInt.toNat = if length < 2 ^ 31 then length else 0 := by
  have cond := BitVec.toInt_eq_toNat_cond (BitVec.ofNat 32 length)
  rw [BitVec.toNat_ofNat, Nat.mod_eq_of_lt encodable] at cond
  change (BitVec.ofNat 32 length).toInt.toNat = _
  rw [cond]
  split <;> split <;> omega

/-- The records that the loop gets to. -/
def reached (records : List AudRecord) : List AudRecord :=
  if records.length < 2 ^ 31 then records else []

theorem audLoop_reached {records : List AudRecord} (loaded : AudsLoaded old [] aud s.thing)
    (ahead : reading.rest s = records.flatMap AudRecord.encode ++ more) :
    ∃ aud' thing', audLoop (if records.length < 2 ^ 31 then records.length else 0) aud s =
        .ok (aud', ⟨s.buff, s.count + ((reached records).flatMap AudRecord.encode).length, s.type,
          thing'⟩) ∧
      AudsLoaded old (reached records) aud' thing' := by
  unfold reached
  split
  · exact audLoop_run loaded ahead
  · exact ⟨aud, s.thing, rfl, loaded⟩

/-- `Load_Sounds` adds an entry for each record that it gets to, and deletes the list of names that
all of these have. -/
theorem loadSounds_run {records : List AudRecord} (encodable : records.length < 2 ^ 32)
    (sound : Sound s.thing.sounds s.thing.soundNodes old)
    (ahead : reading.rest s = encodeAuds records ++ more) :
    ∃ aud thing' props', loadSounds s = .ok ((),
        ⟨s.buff, s.count + 8 + ((reached records).flatMap AudRecord.encode).length, duaTag,
          { thing' with props := props' }⟩) ∧
      AudsLoaded old (reached records) aud thing' ∧
      ∀ a, aud.sounds.first = some a → props'.heap a = none := by
  rw [encodeAuds, List.append_assoc, List.append_assoc, ← encodeScalar_len encodable] at ahead
  have ahead₁ := Cursor.rest_advance _ ahead
  have ahead₂ := Cursor.rest_advance _ ahead₁
  have type : copyType s = .ok ((), { s with type := duaTag }) := copyType_run rfl ahead
  have len : copyValue Int32 { s with count := s.count + 4, type := duaTag } =
      .ok ((UInt32.ofNat records.length).toInt32,
        { s with count := s.count + 4 + 4, type := duaTag }) :=
    copyValue_run _ (s := { s with count := s.count + 4, type := duaTag }) ahead₁
  have start : AudsLoaded old [] {} s.thing :=
    ⟨⟨[], sound_empty _, rfl⟩, ⟨[], by rwa [List.append_nil], .nil⟩⟩
  obtain ⟨aud, thing', loop, loaded⟩ := audLoop_reached
    (s := { s with count := s.count + 4 + 4, type := duaTag }) start ahead₂
  obtain ⟨nodes, names, -⟩ := loaded.names
  obtain ⟨props', destroy, gone⟩ := destroyAud_run
    (s := ⟨s.buff, s.count + 8 + ((reached records).flatMap AudRecord.encode).length, duaTag,
      thing'⟩)
    names
  rw [← turns_of_len encodable] at loop
  refine ⟨aud, thing', props', ?_, loaded, gone⟩
  rw [loadSounds, run_bind_ok type, run_bind_ok rfl, run_bind_ok rfl, if_pos rfl, run_bind_ok len,
    run_bind_ok loop]
  exact destroy

/-- The entry is what the record has. -/
structure Faithful (props : Nodes Property) (record : AudRecord) (dua : DUA) : Prop
    extends SameHeader record dua where
  sounds : ∃ nodes, Threaded dua.sounds props nodes ∧
    nodes.map (fun node => CString.text node.2.msg.value) =
      record.sounds.map fun name => CString.text name.bytes

/-- The section is loaded behind what the list had before, and `count` is behind it. -/
def LoadsSection (old : List (Nat × Entry DUA)) (records : List AudRecord)
    (s : Loader SoundLists) : Prop :=
  ∃ s', loadSounds s = .ok ((), s') ∧ s'.count = s.count + (encodeAuds records).length ∧
    ∃ new, Sound s'.thing.sounds s'.thing.soundNodes (old ++ new) ∧
      List.Forall₂ (Faithful s'.thing.props) records (new.map fun node => node.2.msg)

/-- When the first node of the list has been deleted, only an entry whose list has never had a node
is right. -/
theorem Snapshot.faithful_iff {sounds : MList} {record : AudRecord} {dua : DUA}
    {props : Nodes Property} (snapshot : Snapshot sounds record dua)
    (gone : ∀ a, sounds.first = some a → props.heap a = none) :
    Faithful props record dua ↔ dua.sounds.first = none := by
  constructor
  · intro faithful
    by_contra some
    obtain ⟨nodes, threaded, -⟩ := faithful.sounds
    have linked := threaded.linked
    cases nodes with
    | nil => exact some linked
    | cons node nodes =>
        have there := linked.isSome List.mem_cons_self
        rw [gone node.1 ((snapshot.keeps some).trans linked.1)] at there
        cases there
  · intro none
    have no_names : record.sounds = [] := by
      by_contra names
      exact snapshot.started names none
    exact { snapshot with sounds := ⟨[], ⟨none, snapshot.unstarted none⟩, by rw [no_names]; rfl⟩ }

theorem forall_of_forall₂ {α β : Type} {R S : α → β → Prop} {P : α → Prop} {xs : List α}
    {ys : List β} (first : List.Forall₂ R xs ys) (second : List.Forall₂ S xs ys)
    (both : ∀ x y, R x y → S x y → P x) : ∀ x ∈ xs, P x := by
  induction first with
  | nil => exact nofun
  | cons related _ ih =>
      obtain - | ⟨related', rest⟩ := second
      intro x mem
      rcases List.mem_cons.mp mem with rfl | mem
      · exact both _ _ related related'
      · exact ih rest x mem

/-- A section that is loaded as it is has no name of a sound, and the number of its records is an
`int`. -/
theorem LoadsSection.silent {records : List AudRecord} (loads : LoadsSection old records s)
    (encodable : records.length < 2 ^ 32)
    (sound : Sound s.thing.sounds s.thing.soundNodes old)
    (ahead : reading.rest s = encodeAuds records ++ more) :
    records.length < 2 ^ 31 ∧ ∀ record ∈ records, record.sounds = [] := by
  obtain ⟨aud, thing', props', run, loaded, gone⟩ := loadSounds_run encodable sound ahead
  obtain ⟨new, entries, snapshots⟩ := loaded.entries
  obtain ⟨s', run', -, new', entries', faithful⟩ := loads
  obtain rfl := (Prod.mk.inj (Except.ok.inj (run.symm.trans run'))).2
  obtain rfl : new' = new := List.append_cancel_left (entries'.linked.unique entries.linked)
  have lengths := snapshots.length_eq.trans faithful.length_eq.symm
  by_cases small : records.length < 2 ^ 31
  · rw [reached, if_pos small] at snapshots
    refine ⟨small, forall_of_forall₂ snapshots faithful fun record dua snapshot faithful => ?_⟩
    by_contra names
    exact snapshot.started names ((snapshot.faithful_iff gone).mp faithful)
  · rw [reached, if_neg small] at lengths
    have none : 0 = records.length := lengths
    omega

/-- `Load_Sounds` loads a section as it is exactly if there is no name of a sound in it, and if the
number of its records is an `int`: the entries that are added share the list of names of one local
variable, which deletes its nodes when the loader returns. -/
theorem loadSounds_faithful_iff {records : List AudRecord} (encodable : records.length < 2 ^ 32)
    (sound : Sound s.thing.sounds s.thing.soundNodes old)
    (ahead : reading.rest s = encodeAuds records ++ more) :
    LoadsSection old records s ↔
      records.length < 2 ^ 31 ∧ ∀ record ∈ records, record.sounds = [] := by
  refine ⟨fun loads => loads.silent encodable sound ahead, ?_⟩
  rintro ⟨small, silent⟩
  obtain ⟨aud, thing', props', run, loaded, gone⟩ := loadSounds_run encodable sound ahead
  rw [reached, if_pos small] at run loaded
  obtain ⟨new, entries, snapshots⟩ := loaded.entries
  refine ⟨_, run, ?_, new, entries, snapshots.imp fun record dua snapshot => ?_⟩
  · have four : duaTag.length = 4 := rfl
    simp only [encodeAuds, List.length_append, length_toBytes, four]
    omega
  · refine (snapshot.faithful_iff gone).mpr ?_
    obtain ⟨nodes, names, count⟩ := loaded.names
    have none : aud.sounds.first = none := by
      rw [names.first_eq_none_iff, count, List.flatMap_eq_nil_iff.mpr silent]
      rfl
    by_contra some
    exact some ((snapshot.keeps some).symm.trans none)

/-- Before anything is loaded. -/
def SoundLists.empty : SoundLists := ⟨{}, .empty, .empty⟩

/-- A record "A" with some sounds. -/
def sampleAud (sounds : List SoundName) : AudRecord :=
  ⟨[0x41], List.replicate 9 0, sounds, by decide, by decide⟩

/-- What the section of a record is loaded from. -/
def sampleSection (sounds : List SoundName) : Loader SoundLists :=
  ⟨encodeAuds [sampleAud sounds], 0, [], .empty⟩

/-- One record without sounds. -/
theorem loadSounds_faithful_sample : LoadsSection [] [sampleAud []] (sampleSection []) ↔
    [sampleAud []].length < 2 ^ 31 ∧ ∀ record ∈ [sampleAud []], record.sounds = [] :=
  loadSounds_faithful_iff (by decide) (sound_empty _)
    (show reading.rest (sampleSection []) = encodeAuds [sampleAud []] ++ [] from rfl)

/-- One record with the sound "B". -/
theorem loadSounds_dangling : ¬LoadsSection [] [sampleAud [⟨[0x42], by decide, by decide⟩]]
    (sampleSection [⟨[0x42], by decide, by decide⟩]) := by
  intro loads
  have ahead : reading.rest (sampleSection [⟨[0x42], by decide, by decide⟩]) =
      encodeAuds [sampleAud [⟨[0x42], by decide, by decide⟩]] ++ [] := rfl
  have silent := loads.silent (by decide) (sound_empty _) ahead
  exact nomatch silent.2 _ List.mem_cons_self

end NoxServer.Things
