import NoxServer.Library.CString
import NoxServer.Things.EnumNames
import NoxServer.Things.Sounds
import NoxServer.Things.Tiles

/-!
The objects of thing.bin (`ThingBin::Load_Objects`, `NoxThinglib.cpp`).

An object is a list of strings up to the next tag. A string is an attribute, whose tokens say what
it changes, or it is the name of an animation, which has a length and codes of images behind it;
that length is a signed number, so that the next string can be anywhere. Of an animation the model
keeps what decides what is read next.

An access outside the buffer or outside an array stops the model.
-/

namespace NoxServer.Things

open ByteBuffer Consume

/-! ### Tags -/

def gnht : List UInt8 := chars "GNHT"

def tats : List UInt8 := chars "TATS"

def uqes : List UInt8 := chars "UQES"

/-- A comparison with some texts. -/
def isOneOf (texts : List String) (str : List UInt8) : Bool :=
  texts.any fun text => decide (str = chars text)

/-! ### Attributes -/

def attributeDelims : List UInt8 := [0x20, 0x2B]

/-- The tokens of a string: what `strtok` gives until it gives NULL. -/
def tokens : Nat → List UInt8 → List (List UInt8)
  | 0, _ => []
  | turns + 1, string =>
      match CString.strtok attributeDelims string with
      | (none, _) => []
      | (some token, rest) => token :: tokens turns rest

/-- The string after some calls of `strtok`: the delimiter behind each token is a 0. -/
def cutTokens : Nat → List UInt8 → List UInt8
  | 0, string => string
  | calls + 1, string =>
      match CString.strtok attributeDelims string with
      | (none, _) => string
      | (some _, rest) =>
          let token := string.take (string.length - rest.length)
          if token.getLast?.any (· ∈ attributeDelims) then
            token.dropLast ++ 0 :: cutTokens calls rest
          else token

/-- The digits at the start of a string, behind those that have been read. -/
def atoiDigits (number : Int) : List UInt8 → Int
  | [] => number
  | c :: string =>
      if 0x30 ≤ c ∧ c ≤ 0x39 then atoiDigits (10 * number + (c.toNat - 0x30)) string else number

/-- `atoi`, where the number is an `int`. -/
def atoi (string : List UInt8) : Int :=
  match string.dropWhile fun c => c = 0x20 ∨ (0x09 ≤ c ∧ c ≤ 0x0D) with
  | 0x2D :: digits => -atoiDigits 0 digits
  | 0x2B :: digits => atoiDigits 0 digits
  | digits => atoiDigits 0 digits

/-- `strncpy` into an array of `size` characters: a longer string has no terminator there. -/
def strncpy (size : Nat) (string : List UInt8) : List UInt8 := padded size (string.take size)

/-- `char args[5][30]`. -/
abbrev Arguments := Vector (List UInt8) 5

/-- Arguments that have been cleared. -/
def Arguments.cleared : Arguments := Vector.replicate 5 (padded 30 [])

/-- The loop over the values behind the first one: it goes on as long as there is one. -/
def copyArgs (i : Nat) (args : Arguments) : List (List UInt8) → Except Fault Arguments
  | [] => .ok args
  | string :: further =>
      if inside : i < 5 then copyArgs (i + 1) (args.set i (strncpy 30 string) inside) further
      else .error .outOfBounds

/-- What a number and its arguments become by the values of an attribute. -/
def takeValues (table : List NoxEnumNamePair) (enum : UInt32) (args : Arguments) :
    List (List UInt8) → Except Fault (UInt32 × Arguments)
  | [] => .ok (enum, args)
  | value :: further => do
      let args ← copyArgs 0 args further
      return (noxNameToEnum value table, args)

/-- What a mask becomes by the values of an attribute. -/
def takeNames (table : List NoxEnumNamePair) (mask : UInt32) (values : List (List UInt8)) :
    UInt32 :=
  values.foldl (fun mask name => mask ||| noxNameToEnum name table) mask

/-- `NoxExtentType`. The radius of a circle is its `x`. -/
structure NoxExtentType where
  shape : UInt8 := 0
  x : UInt8 := 0
  y : UInt8 := 0

/-- The values of an extent behind its shape. -/
def NoxExtentType.take (extent : NoxExtentType) (shape : List UInt8) (sizes : List (List UInt8)) :
    NoxExtentType :=
  let size (i : Nat) (old : UInt8) := (sizes[i]?.map fun size => UInt8.ofInt (atoi size)).getD old
  if shape = chars "BOX" then { shape := 0, x := size 0 extent.x, y := size 1 extent.y }
  else if shape = chars "CIRCLE" then { extent with shape := 1, x := size 0 extent.x }
  else extent

/-- `GNHT`, without what animations leave there. -/
structure GNHT where
  nameLen : UInt8 := 0
  name : List UInt8 := padded 50 []
  flags : UInt32 := 0
  classes : UInt32 := 0
  subclass : UInt32 := 0
  collide : UInt32 := 0
  update : UInt32 := 0
  pickup : UInt32 := 0
  use : UInt32 := 0
  useArgs : Arguments := .cleared
  updateArgs : Arguments := .cleared
  collideArgs : Arguments := .cleared
  extent : NoxExtentType := {}
  properties : List Property := []

/-- What an attribute changes. -/
def GNHT.attribute (object : GNHT) (key : List UInt8) (values : List (List UInt8)) :
    Except Fault GNHT :=
  if key = chars "CLASS" then
    .ok { object with classes := takeNames noxClassNames object.classes values }
  else if key = chars "FLAGS" then
    .ok { object with flags := takeNames noxFlagNames object.flags values }
  else if key = chars "SUBCLASS" then
    .ok { object with subclass := takeNames noxSubclassNames object.subclass values }
  else if key = chars "COLLIDE" then do
    let (collide, collideArgs) ←
      takeValues noxCollideNames object.collide object.collideArgs values
    return { object with collide, collideArgs }
  else if key = chars "UPDATE" then do
    let (update, updateArgs) ← takeValues noxUpdateNames object.update object.updateArgs values
    return { object with update, updateArgs }
  else if key = chars "USE" then do
    let (use, useArgs) ← takeValues noxUseNames object.use object.useArgs values
    return { object with use, useArgs }
  else if key = chars "PICKUP" then
    .ok { object with
      pickup := (values.head?.map (noxNameToEnum · noxPickupNames)).getD object.pickup }
  else if key = chars "EXTENT" then
    match values with
    | [] => .error .nullPointer
    | shape :: sizes => .ok { object with extent := object.extent.take shape sizes }
  else .ok object

/-- How many tokens `strtok` takes from an attribute with as many. -/
def callsFor (key : List UInt8) (values : List (List UInt8)) (tokens : Nat) : Nat :=
  if isOneOf ["CLASS", "FLAGS", "SUBCLASS", "COLLIDE", "UPDATE", "USE"] key then tokens
  else if key = chars "PICKUP" then 3
  else if key = chars "EXTENT" then
    if values.head? = some (chars "BOX") then 5
    else if values.head? = some (chars "CIRCLE") then 4
    else 3
  else 1

/-- An attribute, with the property that is kept of it. The second token is not looked at. -/
def loadAttribute (object : GNHT) (str : List UInt8) : Except Fault GNHT :=
  match tokens str.length str with
  | [] => .error .nullPointer
  | key :: behind => do
      let values := behind.tail
      let object ← object.attribute key values
      let value := cutTokens (callsFor key values (behind.length + 1)) str
      return { object with
        properties := object.properties ++ [{ value := padded 255 value }] }

/-! ### Animations -/

section

variable {δ : Type}

/-- `*(buff+count)`. -/
def byteHere : Load δ UInt8 := do
  let bytes ← peek 1
  return UInt8.ofNat (fromBytes bytes)

/-- `count+=((8 - count % 8) % 8)`. -/
def align : Load δ Unit := modify fun s => { s with count := s.count + (8 - s.count % 8) % 8 }

/-- Some codes of images. -/
def loadCodes : Nat → Load δ (List UInt32)
  | 0 => return []
  | number + 1 => do
      let code ← copyValue UInt32
      let codes ← loadCodes number
      return code :: codes

def parseString (str : List UInt8) : Nat :=
  if chars "Update" <:+: str ∨ chars "UPDATE" <:+: str then 0
  else if isOneOf ["StaticDraw", "ArmorDraw", "WeaponDraw", "SlaveDraw", "BaseDraw"] str then 1
  else if str = chars "PlayerDraw" then 10
  else if isOneOf ["AnimateDraw", "SphericalShieldDraw", "WeaponAnimateDraw", "FlagDraw",
      "SummonEffectDraw", "ReleasedSoulDraw", "GlyphDraw"] str then 2
  else if isOneOf ["AnimateStateDraw", "MonsterDraw", "MaidenDraw"] str then 3
  else if isOneOf ["BoulderDraw", "StaticRandomDraw", "DoorDraw", "ArrowDraw", "HarpoonDraw",
      "WeakArrowDraw"] str then 4
  else if str = chars "VectorAnimateDraw" then 5
  else if isOneOf ["ConditionalAnimateDraw", "MonsterGeneratorDraw"] str then 6
  else if str = chars "MENUICON" then 7
  else if str = chars "PRETTYIMAGE" then 8
  else if chars "Draw" <:+: str then 9
  else 0

/-- `Length32` and `Object.aniName`, which the strings of an object share. -/
structure StringVars where
  length32 : Int := 0
  aniName : List UInt8 := List.replicate 255 0

/-- A byte in the place of the lowest one of an `int`. -/
def setLowByte (int : Int) (byte : UInt8) : Int := int - int % 256 + byte.toNat

/-- Some bytes over the start of an array. -/
def overwrite (array bytes : List UInt8) : List UInt8 := bytes ++ array.drop bytes.length

/-- `memcpy((void*)&Object.aniName,(const void*)&str,50)`. -/
def StringVars.named (vars : StringVars) (str : List UInt8) : StringVars :=
  { vars with aniName := overwrite vars.aniName (padded 50 (str.take 50)) }

/-- `strcpy` of `aniName` into an array of 50 characters. -/
def copyAniName (aniName : List UInt8) : Except Fault Unit :=
  if (CString.text aniName).length < 50 then .ok () else .error .outOfBounds

/-- The number of some bytes, in two's complement. -/
def signed (bytes : List UInt8) : Int :=
  let number := fromBytes bytes
  if 2 * number < 256 ^ bytes.length then number else number - (256 ^ bytes.length : Nat)

/-- The length of an animation: `finishPos`. -/
def loadLength (sizeofLong : Nat) : Load δ Int := do
  align
  let bytes ← peek sizeofLong
  move 8
  let s ← get
  return s.count + signed bytes

/-- `count=finishPos`. The byte at that place is read, so that a place before the buffer stops the
model already here. -/
def jump (finishPos : Int) : Load δ Unit :=
  if finishPos < 0 then throw .outOfBounds
  else modify fun s => { s with count := finishPos.toNat }

/-- A name of an animation, in `aniName`, of which so many characters are cleared before. -/
def loadAniName (cleared : Nat) (vars : StringVars) : Load δ StringVars := do
  let length32 ← copyValue UInt8
  let bytes ← copy length32.toNat
  let aniName := overwrite (overwrite vars.aniName (List.replicate cleared 0)) bytes
  liftM (copyAniName aniName)
  return ⟨length32.toNat, aniName⟩

/-- The loop of the codes of "SlaveDraw": it counts down to 0. -/
def slaveCodes : Nat → Int → Load δ Unit
  | 0, _ => throw .outOfBounds
  | turns + 1, length32 =>
      if length32 = 0 then return
      else do
        let _ ← copyValue UInt32
        slaveCodes turns (length32 - 1)

def loadStatic (sizeofLong : Nat) (str : List UInt8) (vars : StringVars) : Load δ StringVars := do
  let finishPos ← loadLength sizeofLong
  if CString.text str = chars "SlaveDraw" then
    let byte ← copyValue UInt8
    let s ← get
    slaveCodes (s.buff.length + 1) (setLowByte vars.length32 byte)
    jump finishPos
    return { vars with length32 := -1 }.named str
  else
    let _ ← copyValue UInt32
    jump finishPos
    return vars.named str

/-- The loop of the codes up to `finishPos`. -/
def codesUpTo : Nat → Int → Load δ Unit
  | 0, _ => throw .outOfBounds
  | turns + 1, finishPos => do
      let s ← get
      if s.count < finishPos then
        if s.count + 4 > finishPos then jump finishPos
        else
          let _ ← copyValue UInt32
          codesUpTo turns finishPos
      else return

def loadAnimate (sizeofLong : Nat) (str : List UInt8) (vars : StringVars) : Load δ StringVars := do
  let finishPos ← loadLength sizeofLong
  move 2
  let byte ← copyValue UInt8
  let length32 := setLowByte vars.length32 byte
  if length32 < 0 then throw .outOfBounds
  else
    let bytes ← copy length32.toNat
    let aniName := overwrite vars.aniName bytes
    liftM (copyAniName aniName)
    let s ← get
    codesUpTo (s.buff.length + 1) finishPos
    jump finishPos
    return StringVars.named ⟨length32, aniName⟩ str

/-- The loops that look for a tag, one byte after another, while there is more. -/
def findTag (wanted : List UInt8) (more : Nat → Bool) : Nat → Load δ Unit
  | 0 => throw .outOfBounds
  | turns + 1 => do
      let s ← get
      if s.type ≠ wanted ∧ more s.count then
        copyType
        move 1
        findTag wanted more turns
      else return

/-- The loop of the codes up to one of some tags. -/
def codesUpToTag (stops : List (List UInt8)) : Nat → Load δ Unit
  | 0 => throw .outOfBounds
  | turns + 1 => do
      let s ← get
      if s.type ∈ stops then return
      else
        let _ ← copyValue UInt32
        copyType
        codesUpToTag stops turns

/-- The loop of `case 3` and `case 10` over the states of an animation. -/
def states (names : StringVars → Load δ StringVars) (stops : List (List UInt8)) :
    Nat → Int → StringVars → Load δ StringVars
  | 0, _, _ => throw .outOfBounds
  | turns + 1, finishPos, vars => do
      let s ← get
      if s.count < finishPos then
        copyType
        move 4
        let s ← get
        if s.type = dne then
          jump finishPos
          states names stops turns finishPos vars
        else
          let vars ← names vars
          copyType
          codesUpToTag stops (s.buff.length + 1)
          states names stops turns finishPos vars
      else return vars

/-- The names of a state of `case 3`. -/
def stateNames (vars : StringVars) : Load δ StringVars := do
  move 1
  let vars ← loadAniName 20 vars
  move 4
  loadAniName 20 vars

def loadState (sizeofLong : Nat) (str : List UInt8) (vars : StringVars) : Load δ StringVars := do
  let finishPos ← loadLength sizeofLong
  if !isOneOf ["MonsterDraw", "MaidenDraw", "AnimateDraw"] (CString.text str) then
    jump finishPos
    return vars
  else
    let s ← get
    let vars ← states stateNames [dne, tats] (s.buff.length + 1) finishPos vars
    copyType
    findTag dne (fun _ => true) (s.buff.length + 1)
    move 3
    jump finishPos
    return vars.named str

/-- The names of a state of `case 10`. -/
def playerNames (vars : StringVars) : Load δ StringVars := do
  let s ← get
  if s.type = uqes then loadAniName 50 vars
  else
    let vars ← loadAniName 50 vars
    move 2
    let vars ← loadAniName 50 vars
    copyType
    let s ← get
    if s.type = uqes then
      move 4
      loadAniName 50 vars
    else return vars

def loadPlayer (sizeofLong : Nat) (str : List UInt8) (vars : StringVars) : Load δ StringVars := do
  let finishPos ← loadLength sizeofLong
  let s ← get
  let vars ← states playerNames [dne, tats, uqes] (s.buff.length + 1) finishPos vars
  jump finishPos
  copyType
  findTag dne (fun _ => true) (s.buff.length + 1)
  move 3
  jump finishPos
  return vars.named str

def loadRandom (sizeofLong : Nat) (str : List UInt8) (vars : StringVars) : Load δ StringVars := do
  let finishPos ← loadLength sizeofLong
  let numFrames ← copyValue UInt8
  let _ ← loadCodes numFrames.toNat
  jump finishPos
  return vars.named str

/-- The loop of `case 6`. -/
def conditions : Nat → StringVars → Load δ StringVars
  | 0, vars => return vars
  | numStats + 1, vars => do
      let length64 ← copyValue UInt8
      move 1
      let vars ← loadAniName 70 vars
      let _ ← loadCodes length64.toNat
      conditions numStats vars

def loadConditional (sizeofLong : Nat) (str : List UInt8) (vars : StringVars) :
    Load δ StringVars := do
  let finishPos ← loadLength sizeofLong
  let numStats ← copyValue UInt8
  let vars ← conditions numStats.toNat vars
  jump finishPos
  return vars.named str

/-- The `switch`. -/
def loadAnimation (sizeofLong : Nat) (aniType : Nat) (str : List UInt8) (vars : StringVars) :
    Load δ StringVars :=
  match aniType with
  | 1 => loadStatic sizeofLong str vars
  | 2 | 5 => loadAnimate sizeofLong str vars
  | 10 => loadPlayer sizeofLong str vars
  | 3 => loadState sizeofLong str vars
  | 4 => loadRandom sizeofLong str vars
  | 6 => loadConditional sizeofLong str vars
  | 7 | 8 => do
      let _ ← copyValue UInt32
      return vars
  | 9 => do
      align
      move 8
      return vars
  | _ => return vars

/-! ### Objects -/

/-- One string of an object. There is a terminator behind it in `str` if it is shorter than that. -/
def loadString (sizeofLong : Nat) (vars : StringVars) (object : GNHT) :
    Load δ (StringVars × GNHT) := do
  let strLen ← copyValue UInt8
  let str ← copy strLen.toNat
  if strLen = 255 ∧ 0 ∉ str then throw .outOfBounds
  else
    let aniType := parseString (CString.text str)
    let object ← liftM
      (if aniType = 0 ∧ 0 < strLen then loadAttribute object (CString.text str) else .ok object)
    let vars ← loadAnimation sizeofLong aniType str vars
    let byte ← byteHere
    move (if byte = 0 then 1 else 0)
    copyType
    return (vars, object)

/-- The loop of `Load_Object`. -/
def loadStrings (sizeofLong filelen : Nat) : Nat → StringVars → GNHT → Load δ GNHT
  | 0, _, _ => throw .outOfBounds
  | turns + 1, vars, object => do
      let s ← get
      if s.type ≠ gnht ∧ s.count < filelen then
        let (vars, object) ← loadString sizeofLong vars object
        loadStrings sizeofLong filelen turns vars object
      else return object

def loadObject (sizeofLong filelen turns : Nat) : Load δ GNHT := do
  let nameLen ← copyValue UInt8
  let name ← copyText 50 nameLen.toNat
  modify fun s => { s with type := List.replicate 4 0 }
  let object ← loadStrings sizeofLong filelen turns {} { nameLen, name }
  move 4
  return object

end

/-- A turn of the loop of `Load_Objects`. -/
def loadNext (sizeofLong filelen turns : Nat) : Load (List GNHT) Unit := do
  let object ← loadObject sizeofLong filelen turns
  modify fun s => { s with thing := s.thing ++ [object] }
  let s ← get
  findTag gnht (· < filelen) (s.buff.length + 1)

/-- The loop of `Load_Objects`, in no more turns than are given. -/
def objectsLoop (sizeofLong filelen turns : Nat) : Nat → Load (List GNHT) Unit
  | 0 => throw .outOfBounds
  | objects + 1 => do
      let s ← get
      if s.type = gnht then
        loadNext sizeofLong filelen turns
        objectsLoop sizeofLong filelen turns objects
      else return

/-- `Load_Objects`, in no more turns of its loops than are given. -/
def loadObjects (sizeofLong filelen turns : Nat) : Load (List GNHT) Unit :=
  objectsLoop sizeofLong filelen turns turns

end NoxServer.Things
