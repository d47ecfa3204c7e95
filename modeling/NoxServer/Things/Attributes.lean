import NoxServer.Things.Objects

/-!
What the attributes of an object make of it.

An attribute is "KEY = A + B + ...". An object can have several with one key: all names of these go
into its mask, but a number or an argument is what the last one says that has a value for it
(`lastValue`). An attribute is loaded if its arguments have room (`loadAttributes_ok`), and an
argument has a terminator if it is shorter than its slot (`strncpy_terminated_iff`).
-/

namespace NoxServer.Things

/-! ### Attributes -/

/-- A part of an attribute that `strtok` does not cut. -/
structure Word (token : List UInt8) : Prop where
  nonempty : token ≠ []
  whole : ∀ c ∈ token, c ∉ attributeDelims
  noNul : 0 ∉ token

/-- The characters are tested one after another. -/
theorem word_iff {token : List UInt8} :
    token ≠ [] ∧ (token.all fun c => decide (c ∉ attributeDelims)) = true ∧ 0 ∉ token ↔
      Word token := by
  rw [List.all_eq_true]
  constructor
  · rintro ⟨nonempty, whole, noNul⟩
    exact ⟨nonempty, fun c mem => of_decide_eq_true (whole c mem), noNul⟩
  · intro word
    exact ⟨word.nonempty, fun c mem => decide_eq_true (word.whole c mem), word.noNul⟩

instance (token : List UInt8) : Decidable (Word token) := decidable_of_iff _ word_iff

/-- The values behind the first one. -/
def joined (further : List (List UInt8)) : List UInt8 := further.flatMap (chars " + " ++ ·)

def attributeText (key value : List UInt8) (further : List (List UInt8)) : List UInt8 :=
  key ++ (chars " = " ++ (value ++ joined further))

/-- "KEY = A + B + ...", where nothing is the name of an animation. -/
structure Attribute where
  key : List UInt8
  value : List UInt8
  further : List (List UInt8)
  key_word : Word key
  value_word : Word value
  further_words : ∀ token ∈ further, Word token
  short : (attributeText key value further).length < 255
  plain : parseString (attributeText key value further) = 0

namespace Attribute

def text (a : Attribute) : List UInt8 := attributeText a.key a.value a.further

def values (a : Attribute) : List (List UInt8) := a.value :: a.further

end Attribute

/-! ### Tokens -/

theorem tokens_nil (turns : Nat) : tokens turns [] = [] := by
  cases turns with
  | zero => rfl
  | succ turns => rfl

theorem tokens_skip {c : UInt8} (delim : c ∈ attributeDelims) (turns : Nat) (string : List UInt8) :
    tokens turns (c :: string) = tokens turns string := by
  cases turns with
  | zero => rfl
  | succ turns => rw [tokens, tokens, CString.strtok_skip delim]

theorem tokens_word {token : List UInt8} (word : Word token) (turns : Nat) (rest : List UInt8)
    (stop : ∀ c ∈ rest.head?, c ∈ attributeDelims) :
    tokens (turns + 1) (token ++ rest) = token :: tokens turns rest.tail := by
  rw [tokens, CString.strtok_token word.nonempty word.whole rest stop]

theorem joined_head (further : List (List UInt8)) :
    ∀ c ∈ (joined further).head?, c ∈ attributeDelims := by
  cases further with
  | nil => exact nofun
  | cons token further =>
      rintro c ⟨⟩
      exact List.mem_cons_self

theorem tokens_joined {further : List (List UInt8)} (words : ∀ token ∈ further, Word token)
    {turns : Nat} (enough : further.length ≤ turns) :
    tokens turns (joined further).tail = further := by
  induction further generalizing turns with
  | nil => exact tokens_nil turns
  | cons token further ih =>
      obtain ⟨turns, rfl⟩ : ∃ rest, turns = rest + 1 :=
        ⟨turns - 1, by rw [List.length_cons] at enough; omega⟩
      have tail : (joined (token :: further)).tail =
          0x2B :: 0x20 :: (token ++ joined further) := rfl
      rw [tail, tokens_skip (by decide), tokens_skip (by decide),
        tokens_word (words token List.mem_cons_self) turns _ (joined_head further),
        ih (fun token mem => words token (List.mem_cons_of_mem _ mem))
          (Nat.le_of_succ_le_succ enough)]

theorem length_joined_le (further : List (List UInt8)) :
    further.length ≤ (joined further).length := by
  induction further with
  | nil => exact Nat.le_refl _
  | cons token further ih =>
      have length : (joined (token :: further)).length =
          3 + token.length + (joined further).length := by
        rw [joined, List.flatMap_cons, List.length_append, List.length_append]
        rfl
      rw [List.length_cons, length]
      omega

theorem length_text (a : Attribute) :
    a.text.length = a.key.length + (3 + (a.value.length + (joined a.further).length)) := by
  rw [Attribute.text, attributeText, List.length_append, List.length_append, List.length_append]
  rfl

/-- The tokens are the key, the equals sign and the values. -/
theorem tokens_text (a : Attribute) :
    tokens a.text.length a.text = a.key :: chars "=" :: a.values := by
  have equals : Word (chars "=") := by decide
  have key_nonempty := List.length_pos_iff.mpr a.key_word.nonempty
  have value_nonempty := List.length_pos_iff.mpr a.value_word.nonempty
  have room := length_joined_le a.further
  have length := length_text a
  obtain ⟨turns, enough⟩ : ∃ turns, a.text.length = turns + 1 + 1 + 1 :=
    ⟨a.text.length - 3, by omega⟩
  have text : a.text = a.key ++ 0x20 :: (chars "=" ++ 0x20 :: (a.value ++ joined a.further)) := rfl
  rw [enough, text, tokens_word a.key_word _ _ (by rintro c ⟨⟩; decide), List.tail_cons,
    tokens_word equals _ _ (by rintro c ⟨⟩; decide), List.tail_cons,
    tokens_word a.value_word _ _ (joined_head a.further),
    tokens_joined a.further_words (by omega), Attribute.values]

/-- What is kept of an attribute is not looked at again. -/
theorem loadAttribute_text (object : GNHT) (a : Attribute) :
    ∃ property, loadAttribute object a.text = (do
      let object ← object.attribute a.key a.values
      return { object with properties := object.properties ++ [property] }) := by
  refine ⟨{ value := padded 255 (cutTokens (callsFor a.key a.values
    ((chars "=" :: a.values).length + 1)) a.text) }, ?_⟩
  rw [loadAttribute, tokens_text]
  rfl

/-! ### Arguments -/

theorem strncpy_terminated_iff {string : List UInt8} (noNul : 0 ∉ string) (size : Nat) :
    CString.text (strncpy size string) = string ∧ 0 ∈ strncpy size string ↔
      string.length < size := by
  constructor
  · rintro ⟨-, terminated⟩
    rcases List.mem_append.mp terminated with kept | behind
    · exact absurd (List.mem_of_mem_take kept) noNul
    · have room := (List.mem_replicate.mp behind).1
      rw [List.length_take] at room
      omega
  · intro shorter
    obtain ⟨room, size_eq⟩ : ∃ room, size - string.length = room + 1 :=
      ⟨size - string.length - 1, by omega⟩
    have copied : strncpy size string = string ++ 0 :: List.replicate room 0 := by
      rw [strncpy, List.take_of_length_le (Nat.le_of_lt shorter), padded, size_eq]
      rfl
    rw [copied]
    exact ⟨CString.text_append noNul _, List.mem_append_right _ List.mem_cons_self⟩

variable {table : List NoxEnumNamePair} {enum : UInt32} {args args' : Arguments}
  {values further : List (List UInt8)} {i : Nat}

theorem copyArgs_ok (room : i + further.length ≤ 5) (args : Arguments) :
    ∃ args', copyArgs i args further = .ok args' := by
  induction further generalizing i args with
  | nil => exact ⟨args, rfl⟩
  | cons string further ih =>
      rw [List.length_cons] at room
      rw [copyArgs, dif_pos (by omega)]
      exact ih (by omega) _

/-- The slots from `i` on have the values, as far as there are any. -/
theorem copyArgs_run (start : i ≤ 5) (run : copyArgs i args further = .ok args') :
    i + further.length ≤ 5 ∧ ∀ k, args'[k]? =
      if k < i then args[k]? else (further[k - i]?.map (strncpy 30)).or args[k]? := by
  induction further generalizing i args with
  | nil =>
      cases run
      refine ⟨start, fun k => ?_⟩
      split
      · rfl
      · rfl
  | cons string further ih =>
      rw [copyArgs] at run
      split at run
      · next inside =>
          obtain ⟨room, slots⟩ := ih (Nat.succ_le_of_lt inside) run
          refine ⟨by rw [List.length_cons]; omega, fun k => ?_⟩
          rw [slots k, Vector.getElem?_set]
          obtain before | rfl | behind := Nat.lt_trichotomy k i
          · rw [if_pos (by omega), if_pos before, if_neg (by omega)]
          · rw [if_pos (by omega), if_pos rfl, if_neg (by omega), Nat.sub_self]
            rfl
          · rw [if_neg (by omega), if_neg (by omega), if_neg (by omega),
              show k - i = k - (i + 1) + 1 by omega, List.getElem?_cons_succ]
      · cases run

theorem takeValues_run {out : UInt32 × Arguments}
    (run : takeValues table enum args values = .ok out) :
    values.length ≤ 6 ∧ out.1 = (values[0]?.map (noxNameToEnum · table)).getD enum ∧
      ∀ k, out.2[k]? = (values[k + 1]?.map (strncpy 30)).or args[k]? := by
  cases values with
  | nil =>
      cases run
      exact ⟨by decide, rfl, fun _ => rfl⟩
  | cons value further =>
      obtain ⟨args', copied, rest⟩ := bind_eq_ok.mp run
      cases rest
      obtain ⟨room, slots⟩ := copyArgs_run (Nat.zero_le 5) copied
      refine ⟨by rw [List.length_cons]; omega, rfl, fun k => ?_⟩
      rw [slots k, if_neg (Nat.not_lt_zero k), Nat.sub_zero, List.getElem?_cons_succ]

/-! ### One attribute -/

/-- What is seen of an object becomes what the attributes with a key make of it, and other
attributes leave it alone. -/
def Follows {β : Type} (key : List UInt8) (view : GNHT → β)
    (change : β → List (List UInt8) → Except Fault β) : Prop :=
  ∀ ⦃object object' key' values⦄, GNHT.attribute object key' values = .ok object' →
    if key' = key then change (view object) values = .ok (view object')
    else view object' = view object

/-- A mask takes all names. -/
def maskOf (table : List NoxEnumNamePair) (mask : UInt32) (values : List (List UInt8)) :
    Except Fault UInt32 := .ok (takeNames table mask values)

/-- A number, with its arguments. -/
def numberOf (table : List NoxEnumNamePair) (out : UInt32 × Arguments) :
    List (List UInt8) → Except Fault (UInt32 × Arguments) := takeValues table out.1 out.2

/-- The keys that are looked at below. -/
def keys : List (List UInt8) :=
  ["CLASS", "FLAGS", "SUBCLASS", "COLLIDE", "UPDATE", "USE"].map chars

variable {object object' : GNHT} {key : List UInt8}

/-- What an attribute can change. -/
theorem attribute_cases (run : object.attribute key values = .ok object') :
    key = chars "CLASS" ∧
        object' = { object with classes := takeNames noxClassNames object.classes values } ∨
      key = chars "FLAGS" ∧
        object' = { object with flags := takeNames noxFlagNames object.flags values } ∨
      key = chars "SUBCLASS" ∧
        object' = { object with subclass := takeNames noxSubclassNames object.subclass values } ∨
      key = chars "COLLIDE" ∧
        (∃ out, takeValues noxCollideNames object.collide object.collideArgs values = .ok out ∧
          object' = { object with collide := out.1, collideArgs := out.2 }) ∨
      key = chars "UPDATE" ∧
        (∃ out, takeValues noxUpdateNames object.update object.updateArgs values = .ok out ∧
          object' = { object with update := out.1, updateArgs := out.2 }) ∨
      key = chars "USE" ∧
        (∃ out, takeValues noxUseNames object.use object.useArgs values = .ok out ∧
          object' = { object with use := out.1, useArgs := out.2 }) ∨
      key ∉ keys ∧ ∃ pickup extent, object' = { object with pickup, extent } := by
  unfold GNHT.attribute at run
  split_ifs at run with isClass isFlags isSubclass isCollide isUpdate isUse isPickup isExtent
  · cases run
    exact .inl ⟨isClass, rfl⟩
  · cases run
    exact .inr (.inl ⟨isFlags, rfl⟩)
  · cases run
    exact .inr (.inr (.inl ⟨isSubclass, rfl⟩))
  · obtain ⟨out, taken, rest⟩ := bind_eq_ok.mp run
    cases rest
    exact .inr (.inr (.inr (.inl ⟨isCollide, out, taken, rfl⟩)))
  · obtain ⟨out, taken, rest⟩ := bind_eq_ok.mp run
    cases rest
    exact .inr (.inr (.inr (.inr (.inl ⟨isUpdate, out, taken, rfl⟩))))
  · obtain ⟨out, taken, rest⟩ := bind_eq_ok.mp run
    cases rest
    exact .inr (.inr (.inr (.inr (.inr (.inl ⟨isUse, out, taken, rfl⟩)))))
  all_goals
    refine .inr (.inr (.inr (.inr (.inr (.inr ⟨?_, ?_⟩)))))
    · simp [keys, isClass, isFlags, isSubclass, isCollide, isUpdate, isUse]
  · cases run
    exact ⟨_, object.extent, rfl⟩
  · cases values with
    | nil => cases run
    | cons shape sizes =>
        cases run
        exact ⟨object.pickup, _, rfl⟩
  · cases run
    exact ⟨object.pickup, object.extent, rfl⟩

/-- The numbers that have arguments. -/
def GNHT.collision (object : GNHT) : UInt32 × Arguments := (object.collide, object.collideArgs)

def GNHT.updating (object : GNHT) : UInt32 × Arguments := (object.update, object.updateArgs)

def GNHT.usage (object : GNHT) : UInt32 × Arguments := (object.use, object.useArgs)

theorem follows_classes : Follows (chars "CLASS") GNHT.classes (maskOf noxClassNames) := by
  intro object object' key values run
  obtain ⟨rfl, rfl⟩ | ⟨rfl, rfl⟩ | ⟨rfl, rfl⟩ | ⟨rfl, out, -, rfl⟩ | ⟨rfl, out, -, rfl⟩ |
    ⟨rfl, out, -, rfl⟩ | ⟨other, pickup, extent, rfl⟩ := attribute_cases run
  · exact (if_pos rfl).mpr rfl
  · exact (if_neg (by decide)).mpr rfl
  · exact (if_neg (by decide)).mpr rfl
  · exact (if_neg (by decide)).mpr rfl
  · exact (if_neg (by decide)).mpr rfl
  · exact (if_neg (by decide)).mpr rfl
  · exact (if_neg fun same => other (by rw [same]; decide)).mpr rfl

theorem follows_flags : Follows (chars "FLAGS") GNHT.flags (maskOf noxFlagNames) := by
  intro object object' key values run
  obtain ⟨rfl, rfl⟩ | ⟨rfl, rfl⟩ | ⟨rfl, rfl⟩ | ⟨rfl, out, -, rfl⟩ | ⟨rfl, out, -, rfl⟩ |
    ⟨rfl, out, -, rfl⟩ | ⟨other, pickup, extent, rfl⟩ := attribute_cases run
  · exact (if_neg (by decide)).mpr rfl
  · exact (if_pos rfl).mpr rfl
  · exact (if_neg (by decide)).mpr rfl
  · exact (if_neg (by decide)).mpr rfl
  · exact (if_neg (by decide)).mpr rfl
  · exact (if_neg (by decide)).mpr rfl
  · exact (if_neg fun same => other (by rw [same]; decide)).mpr rfl

theorem follows_subclass : Follows (chars "SUBCLASS") GNHT.subclass (maskOf noxSubclassNames) := by
  intro object object' key values run
  obtain ⟨rfl, rfl⟩ | ⟨rfl, rfl⟩ | ⟨rfl, rfl⟩ | ⟨rfl, out, -, rfl⟩ | ⟨rfl, out, -, rfl⟩ |
    ⟨rfl, out, -, rfl⟩ | ⟨other, pickup, extent, rfl⟩ := attribute_cases run
  · exact (if_neg (by decide)).mpr rfl
  · exact (if_neg (by decide)).mpr rfl
  · exact (if_pos rfl).mpr rfl
  · exact (if_neg (by decide)).mpr rfl
  · exact (if_neg (by decide)).mpr rfl
  · exact (if_neg (by decide)).mpr rfl
  · exact (if_neg fun same => other (by rw [same]; decide)).mpr rfl

theorem follows_collide : Follows (chars "COLLIDE") GNHT.collision (numberOf noxCollideNames) := by
  intro object object' key values run
  obtain ⟨rfl, rfl⟩ | ⟨rfl, rfl⟩ | ⟨rfl, rfl⟩ | ⟨rfl, out, taken, rfl⟩ | ⟨rfl, out, -, rfl⟩ |
    ⟨rfl, out, -, rfl⟩ | ⟨other, pickup, extent, rfl⟩ := attribute_cases run
  · exact (if_neg (by decide)).mpr rfl
  · exact (if_neg (by decide)).mpr rfl
  · exact (if_neg (by decide)).mpr rfl
  · exact (if_pos rfl).mpr taken
  · exact (if_neg (by decide)).mpr rfl
  · exact (if_neg (by decide)).mpr rfl
  · exact (if_neg fun same => other (by rw [same]; decide)).mpr rfl

theorem follows_update : Follows (chars "UPDATE") GNHT.updating (numberOf noxUpdateNames) := by
  intro object object' key values run
  obtain ⟨rfl, rfl⟩ | ⟨rfl, rfl⟩ | ⟨rfl, rfl⟩ | ⟨rfl, out, -, rfl⟩ | ⟨rfl, out, taken, rfl⟩ |
    ⟨rfl, out, -, rfl⟩ | ⟨other, pickup, extent, rfl⟩ := attribute_cases run
  · exact (if_neg (by decide)).mpr rfl
  · exact (if_neg (by decide)).mpr rfl
  · exact (if_neg (by decide)).mpr rfl
  · exact (if_neg (by decide)).mpr rfl
  · exact (if_pos rfl).mpr taken
  · exact (if_neg (by decide)).mpr rfl
  · exact (if_neg fun same => other (by rw [same]; decide)).mpr rfl

theorem follows_use : Follows (chars "USE") GNHT.usage (numberOf noxUseNames) := by
  intro object object' key values run
  obtain ⟨rfl, rfl⟩ | ⟨rfl, rfl⟩ | ⟨rfl, rfl⟩ | ⟨rfl, out, -, rfl⟩ | ⟨rfl, out, -, rfl⟩ |
    ⟨rfl, out, taken, rfl⟩ | ⟨other, pickup, extent, rfl⟩ := attribute_cases run
  · exact (if_neg (by decide)).mpr rfl
  · exact (if_neg (by decide)).mpr rfl
  · exact (if_neg (by decide)).mpr rfl
  · exact (if_neg (by decide)).mpr rfl
  · exact (if_neg (by decide)).mpr rfl
  · exact (if_pos rfl).mpr taken
  · exact (if_neg fun same => other (by rw [same]; decide)).mpr rfl

/-! ### The attributes of an object -/

/-- The values of the attributes with a key. -/
def given (strings : List Attribute) (key : List UInt8) : List (List (List UInt8)) :=
  (strings.filter (·.key = key)).map Attribute.values

/-- The last value that some attributes have at a place. -/
def lastValue (given : List (List (List UInt8))) (k : Nat) : Option (List UInt8) :=
  (given.filterMap (·[k]?)).getLast?

/-- The attributes of an object, one after another. -/
def loadAttributes (object : GNHT) (strings : List Attribute) : Except Fault GNHT :=
  strings.foldlM (fun object a => loadAttribute object a.text) object

variable {strings : List Attribute} {a : Attribute}

theorem loadAttribute_cases (run : loadAttribute object a.text = .ok object') :
    ∃ changed property, object.attribute a.key a.values = .ok changed ∧
      object' = { changed with properties := changed.properties ++ [property] } := by
  obtain ⟨property, same⟩ := loadAttribute_text object a
  rw [same] at run
  obtain ⟨changed, change, rest⟩ := bind_eq_ok.mp run
  cases rest
  exact ⟨changed, property, change, rfl⟩

/-- What is seen of an object does not depend on the properties that are kept. -/
def Apart {β : Type} (view : GNHT → β) : Prop :=
  ∀ (object : GNHT) properties, view { object with properties } = view object

/-- What a key does to its part of an object is done by the strings with that key alone, in their
order. -/
theorem Follows.loadAttributes {β : Type} {view : GNHT → β}
    {change : β → List (List UInt8) → Except Fault β} (follows : Follows key view change)
    (apart : Apart view) (run : loadAttributes object strings = .ok object') :
    (given strings key).foldlM change (view object) = .ok (view object') := by
  induction strings generalizing object with
  | nil =>
      cases run
      rfl
  | cons a strings ih =>
      obtain ⟨loaded, first, rest⟩ := bind_eq_ok.mp run
      obtain ⟨changed, property, here, rfl⟩ := loadAttribute_cases first
      have seen := follows here
      have later := ih rest
      rw [apart] at later
      by_cases same : a.key = key
      · rw [if_pos same] at seen
        rw [given, List.filter_cons_of_pos (by simpa using same), List.map_cons, List.foldlM_cons]
        exact bind_eq_ok.mpr ⟨_, seen, later⟩
      · rw [if_neg same] at seen
        rw [given, List.filter_cons_of_neg (by simpa using same)]
        rw [seen] at later
        exact later

theorem foldlM_maskOf (table : List NoxEnumNamePair) (given : List (List (List UInt8)))
    (mask : UInt32) :
    given.foldlM (maskOf table) mask = .ok (takeNames table mask given.flatten) := by
  induction given generalizing mask with
  | nil => rfl
  | cons values given ih =>
      rw [List.foldlM_cons, List.flatten_cons, takeNames, List.foldl_append]
      exact ih _

theorem lastValue_cons (values : List (List UInt8)) (given : List (List (List UInt8))) (k : Nat) :
    lastValue (values :: given) k = (lastValue given k).or values[k]? := by
  unfold lastValue
  cases here : values[k]? with
  | none => rw [List.filterMap_cons_none (f := (·[k]?)) here, Option.or_none]
  | some value =>
      rw [List.filterMap_cons_some (f := (·[k]?)) here, List.getLast?_cons]
      cases (given.filterMap (·[k]?)).getLast? with
      | none => rfl
      | some later => rfl

/-- Of the values at one place the last one counts. -/
theorem foldlM_numberOf {given : List (List (List UInt8))} {start out : UInt32 × Arguments}
    (run : given.foldlM (numberOf table) start = .ok out) :
    (∀ values ∈ given, values.length ≤ 6) ∧
      out.1 = ((lastValue given 0).map (noxNameToEnum · table)).getD start.1 ∧
      ∀ k, out.2[k]? = ((lastValue given (k + 1)).map (strncpy 30)).or start.2[k]? := by
  induction given generalizing start with
  | nil =>
      cases run
      exact ⟨nofun, rfl, fun _ => rfl⟩
  | cons values given ih =>
      obtain ⟨mid, first, rest⟩ := bind_eq_ok.mp run
      obtain ⟨room, number, slots⟩ := takeValues_run first
      obtain ⟨rooms, number', slots'⟩ := ih rest
      refine ⟨List.forall_mem_cons.mpr ⟨room, rooms⟩, ?_, fun k => ?_⟩
      · rw [number', number, lastValue_cons]
        cases lastValue given 0 with
        | none => rfl
        | some value => rfl
      · rw [slots', slots, lastValue_cons]
        cases lastValue given (k + 1) with
        | none => rfl
        | some value => rfl

/-! ### Success -/

/-- The keys of attributes with arguments. -/
def argumentKeys : List (List UInt8) := ["COLLIDE", "UPDATE", "USE"].map chars

theorem takeValues_ok (few : values.length ≤ 6) (enum : UInt32) (args : Arguments) :
    ∃ out, takeValues table enum args values = .ok out := by
  cases values with
  | nil => exact ⟨_, rfl⟩
  | cons value further =>
      rw [List.length_cons] at few
      have room : 0 + further.length ≤ 5 := by omega
      obtain ⟨args', copied⟩ := copyArgs_ok room args
      exact ⟨_, bind_eq_ok.mpr ⟨args', copied, rfl⟩⟩

/-- A property with few enough values is always taken. -/
theorem attribute_ok (object : GNHT) (valued : values ≠ [])
    (few : key ∈ argumentKeys → values.length ≤ 6) :
    ∃ object', object.attribute key values = .ok object' := by
  unfold GNHT.attribute
  split_ifs with isClass isFlags isSubclass isCollide isUpdate isUse isPickup isExtent
  · exact ⟨_, rfl⟩
  · exact ⟨_, rfl⟩
  · exact ⟨_, rfl⟩
  · obtain ⟨out, taken⟩ := takeValues_ok (few (by rw [isCollide]; decide)) object.collide
      object.collideArgs
    exact ⟨_, bind_eq_ok.mpr ⟨out, taken, rfl⟩⟩
  · obtain ⟨out, taken⟩ := takeValues_ok (few (by rw [isUpdate]; decide)) object.update
      object.updateArgs
    exact ⟨_, bind_eq_ok.mpr ⟨out, taken, rfl⟩⟩
  · obtain ⟨out, taken⟩ := takeValues_ok (few (by rw [isUse]; decide)) object.use object.useArgs
    exact ⟨_, bind_eq_ok.mpr ⟨out, taken, rfl⟩⟩
  · exact ⟨_, rfl⟩
  · cases values with
    | nil => exact absurd rfl valued
    | cons shape sizes => exact ⟨_, rfl⟩
  · exact ⟨_, rfl⟩

theorem loadAttributes_ok (few : ∀ a ∈ strings, a.key ∈ argumentKeys → a.values.length ≤ 6)
    (object : GNHT) : ∃ object', loadAttributes object strings = .ok object' := by
  induction strings generalizing object with
  | nil => exact ⟨object, rfl⟩
  | cons a strings ih =>
      obtain ⟨first, others⟩ := List.forall_mem_cons.mp few
      obtain ⟨changed, change⟩ := attribute_ok object (List.cons_ne_nil _ _) first
      obtain ⟨property, same⟩ := loadAttribute_text object a
      obtain ⟨object', rest⟩ := ih others
        { changed with properties := changed.properties ++ [property] }
      refine ⟨object', bind_eq_ok.mpr ⟨_, same.trans ?_, rest⟩⟩
      exact bind_eq_ok.mpr ⟨changed, change, rfl⟩

/-- The name is not changed. -/
theorem loadAttributes_name (run : loadAttributes object strings = .ok object') :
    object'.nameLen = object.nameLen ∧ object'.name = object.name := by
  induction strings generalizing object with
  | nil =>
      cases run
      exact ⟨rfl, rfl⟩
  | cons a strings ih =>
      obtain ⟨loaded, first, rest⟩ := bind_eq_ok.mp run
      obtain ⟨changed, property, here, rfl⟩ := loadAttribute_cases first
      have kept : changed.nameLen = object.nameLen ∧ changed.name = object.name := by
        obtain ⟨-, rfl⟩ | ⟨-, rfl⟩ | ⟨-, rfl⟩ | ⟨-, out, -, rfl⟩ | ⟨-, out, -, rfl⟩ |
          ⟨-, out, -, rfl⟩ | ⟨-, pickup, extent, rfl⟩ := attribute_cases here
        all_goals exact ⟨rfl, rfl⟩
      obtain ⟨nameLen, name⟩ := ih rest
      exact ⟨nameLen.trans kept.1, name.trans kept.2⟩

theorem mem_given {values : List (List UInt8)} :
    values ∈ given strings key ↔ ∃ a ∈ strings, a.key = key ∧ a.values = values := by
  simp [given, and_assoc]

end NoxServer.Things
