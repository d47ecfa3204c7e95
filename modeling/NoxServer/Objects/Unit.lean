import NoxServer.Objects.Health

/-!
What a unit does in a frame (`Unit.cpp`): its animation, its poison and its enchantments.

`m_poisoncycle` is a `float` that only takes multiples of one half, so it is counted in halves
and rounded as a `float` is. The time is unsigned, as the numbers it is compared with are when
they are. The velocity of the body and the mana are left out; of the health the unit has what
the poison changes.
-/

namespace NoxServer.Units

open ByteBuffer Health

inductive UnitActionType where
  | idle | die | dead | jump | walk | walkAndDrag | run | runningJump | pickup | dodgeLeft
  | dodgeRight | electrocuted | fall | trip | getUp | laugh | point | sit | sleep | talk | taunt
  | castSpell | concentrate | punchLeft | punchRight | punchRightHook | maceStrike | swordStrike
  | longSwordStrike | staffStrike | staffBlock | staffSpellBlast | staffThrust | shootBow
  | shootCrossbow | axeStrike | greatSwordParry | greatSwordStrike | greatSwordIdle
  | hammerStrike | raiseShield | recoilForward | recoilBackward | recoilShield | chakramStrike
  | berserkerCharge | warcry | greatSwordBlockLeft | greatSwordBlockRight | greatSwordBlockDown
  | electricZap | dust | recoil | sneak | harpoonThrow
  deriving DecidableEq

inductive UnitEnchantType where
  | invisible | moonglow | blinded | confused | slowed | held | detecting | ethereal | run
  | hasted | villain | afraid | burning | vampirism | anchored | light | death
  | protectFromFire | protectFromPoison | protectFromMagic | protectFromElectricity
  | infravision | shock | invulnerable | telekinesis | freeze | shield | reflectiveShield
  | charming | antiMagic | crown | sneak
  deriving DecidableEq

def enchantSize : Nat := 32

/-- `(uint8)enchant`. -/
def UnitEnchantType.index (e : UnitEnchantType) : Nat := e.ctorIdx

/-- The enchantments in the order of a loop up to `ENCHANT_SIZE`. -/
def UnitEnchantType.all : List UnitEnchantType := (List.range enchantSize).map .ofNat

structure EnchantEntry where
  frames : Int16
  enchantsoundon : Int8
  enchantsoundoff : Int8

/-- `EnchantEntry(name, _frames, _enchantsoundon, _enchantsoundoff)`. -/
def EnchantEntry.make (frames enchantsoundon enchantsoundoff : Int := 0) : EnchantEntry :=
  ⟨Int16.ofInt frames, Int8.ofInt enchantsoundon, Int8.ofInt enchantsoundoff⟩

/-- `objmgr.enchantTable`, with the sounds by number. -/
def enchantTable : UnitEnchantType → Option EnchantEntry
  | .invisible => some (.make 1800 66 67)
  | .moonglow => some (.make 9000 89 90)
  -- its two sounds stand where the frames and the first sound do
  | .blinded => some (.make 5 6)
  | .confused => some (.make 90 18 19)
  | .slowed => some (.make 120 137 138)
  | .held => some (.make 60 140 141)
  | .detecting => some .make
  | .ethereal => some .make
  | .run => some (.make 90 126 127)
  | .hasted => some (.make 600 59 60)
  | .villain => some .make
  | .afraid => some .make
  | .burning => some .make
  | .vampirism => some (.make 900 161 162)
  | .anchored => some (.make 300 2 3)
  | .light => some (.make 9000 75 76)
  | .death => some .make
  | .protectFromFire => some (.make 1800 102 103)
  | .protectFromPoison => some (.make 1800 110 111)
  | .protectFromMagic => some (.make 1800 114 115)
  | .protectFromElectricity => some (.make 1800 106 107)
  | .infravision => some (.make 900)
  | .shock => some (.make 600 133 134)
  | .invulnerable => some (.make 150)
  | .telekinesis => some .make
  | .freeze => some .make
  | .shield => some (.make 0 49 130)
  | .reflectiveShield => some .make
  | .charming => some .make
  | .antiMagic => some .make
  | .crown => some .make
  | .sneak => some .make

/-- What a unit gives out. -/
inductive Output where
  /-- `EmitSound(soundevent)`. -/
  | sound (soundevent : UInt16)
  /-- `objacc.SendPacketToAll(&packet)`. -/
  | toAll (packet : WorldPacket)
  deriving DecidableEq

def maskEnchantments : UInt32 := 1

structure Unit where
  health : Player := {}
  action : UnitActionType := .idle
  actionTime : UInt32 := 0
  animFrames : Int16 := -1
  animTimer : UInt32 := 0
  poison : UInt8 := 0
  /-- `m_poisoncycle`, in halves. -/
  poisoncycle : Int := 0
  poisoner : UInt16 := 0
  speed : UInt16 := 0
  maxSpeed : UInt16 := 0
  angle : UInt8 := 0
  auras : BitVec 32 := 0
  auraTimes : UnitEnchantType → Int16 := fun _ => 0
  /-- `m_equipment[SLOT_SHIELD]`. -/
  shield : Bool := false
  updateMask : UInt32 := 0
  out : List Output := []

namespace Unit

variable (u : Unit)

def isDead : Bool := u.health.isDead

/-- `EmitSound(soundevent)`, of a number of eight bits. -/
def emitSound (soundevent : Int8) : Unit :=
  { u with out := u.out ++ [.sound (UInt16.ofNat (soundevent.toInt % 65536).toNat)] }

/-! ### Enchantments -/

def hasEnchant (enchant : UnitEnchantType) : Bool := u.auras &&& 1#32 <<< enchant.index ≠ 0

/-- The count `SetEnchant(enchant, frames)` starts with. -/
def startTime (enchant : UnitEnchantType) (frames : Int16) : Int16 :=
  if frames ≠ 0 then frames
  else match enchantTable enchant with
    | some entry => entry.frames
    | none => 300

/-- `EmitSound` of one of the sounds the table has for an enchantment. -/
def emitEnchantSound (sound : EnchantEntry → Int8) (enchant : UnitEnchantType) : Unit :=
  match enchantTable enchant with
  | some entry => u.emitSound (sound entry)
  | none => u

def setEnchant (enchant : UnitEnchantType) (frames : Int16 := 0) : Unit :=
  let u := { u with
    auras := u.auras ||| 1#32 <<< enchant.index
    auraTimes := Function.update u.auraTimes enchant (startTime enchant frames)
    updateMask := u.updateMask ||| maskEnchantments }
  u.emitEnchantSound EnchantEntry.enchantsoundon enchant

def unsetEnchant (enchant : UnitEnchantType) : Unit :=
  let u := { u with
    auras := u.auras &&& ~~~(1#32 <<< enchant.index)
    auraTimes := Function.update u.auraTimes enchant 0
    updateMask := u.updateMask ||| maskEnchantments }
  u.emitEnchantSound EnchantEntry.enchantsoundoff enchant

def resetEnchants : Unit :=
  { u with auras := 0, auraTimes := fun _ => 0, updateMask := u.updateMask ||| maskEnchantments }

/-- `Poison(poisoned, poisoner)`. -/
def poisonBy (poisoned : UInt8) (poisoner : UInt16) : Unit :=
  let u := { u with poison := poisoned }
  if u.poison ≠ 0 then { u with poisoner := poisoner } else u

/-! ### Actions -/

def resetActionAnim : Unit := { u with action := .idle, actionTime := 0, angle := u.angle &&& 0x7F }

def setActionAnim (anim : UnitActionType) (frames : UInt32) : Unit × Bool :=
  if u.actionTime ≠ 0 ∧ u.action ≠ anim ∧ u.action ≠ .walk ∧ u.action ≠ .run then (u, false)
  else
    let u := if u.action ≠ anim then u.resetActionAnim else u
    ({ u with action := anim, actionTime := frames * 33, animFrames := 0 }, true)

def initRespawn : Unit :=
  let u := { u with
    action := .idle, actionTime := 0, angle := 0, poison := 0, poisoncycle := 0, shield := false }
  { u.resetEnchants with animFrames := -1, animTimer := 0 }

/-! ### Frames -/

/-- The action is over, in a unit that is not dead. -/
def actionEnds (time : UInt32) : Bool :=
  (u.action ≠ .idle ∨ u.action ≠ .raiseShield) ∧ u.actionTime < time

/-- The first part of `Update`: the action. -/
def updateAction (time : UInt32) : Unit :=
  if u.isDead then { u with action := .dead, health := { u.health with health := 0 } }
  else if u.action ≠ .idle ∨ u.action ≠ .raiseShield then
    if u.actionTime < time then
      let u := if u.hasEnchant .sneak then u.unsetEnchant .sneak else u
      let u := if u.shield then (u.setActionAnim .raiseShield 0).1 else { u with action := .idle }
      { u with actionTime := 0 }
    else { u with actionTime := u.actionTime - time }
  else u

/-- The poison of a frame. -/
def updatePoison : Unit :=
  let u :=
    if u.poisoncycle ≠ 60 then { u with poisoncycle := toFloat (u.poisoncycle + 2) }
    else if u.poison ≠ 0 then { u with health := u.health.damage 1, poisoncycle := 0 }
    else u
  if u.hasEnchant .protectFromPoison then { u with poisoncycle := toFloat (u.poisoncycle - 1) }
  else u

/-- `ConvertToNoXSpeed(speed)`: a conversion of a half added to a number drops the half, towards
zero. -/
def convertToNoXSpeed (speed : Int) : Int :=
  (if 0 ≤ speed * 206 then speed * 206 else speed * 206 + 1) - 2

/-- The speed of a frame. -/
def updateSpeed : Unit :=
  let u :=
    if u.hasEnchant .hasted then
      { u with speed := toUInt16 (u.maxSpeed.toNat + convertToNoXSpeed 25) }
    else u
  if u.hasEnchant .slowed then
    { u with speed := toUInt16 (u.maxSpeed.toNat + convertToNoXSpeed (-30)) }
  else u

/-- The part of the loop of enchantments about one. -/
def countDown (enchant : UnitEnchantType) : Unit :=
  if 0 < u.auraTimes enchant then
    { u with auraTimes := Function.update u.auraTimes enchant (u.auraTimes enchant - 1) }
  else if u.auraTimes enchant = 0 ∧ u.hasEnchant enchant then u.unsetEnchant enchant
  else u

/-- The loop of enchantments. -/
def updateEnchants : Unit := UnitEnchantType.all.foldl countDown u

def drawFramePacket : WorldPacket :=
  u.health.buildDrawFramePacket u.animFrames.toUInt16.toUInt8 {}

/-- The frame of the animation. -/
def updateAnim (time : UInt32) : Unit :=
  if 0 ≤ u.animFrames ∧ u.animFrames < 256 then
    let u := { u with out := u.out ++ [Output.toAll u.drawFramePacket] }
    if u.animTimer < time then { u with animFrames := u.animFrames + 1, animTimer := 40 }
    else { u with animTimer := u.animTimer - time }
  else u

/-- `_BuildEnchantsPacket(packet)`: `MSG_REPORT_ENCHANTMENT`. -/
def buildEnchantsPacket : WorldPacket := u.health.buildEnchantsPacket u.auras {}

/-- The report of the enchantments, if any were changed. -/
def reportEnchants : Unit :=
  if u.updateMask &&& maskEnchantments ≠ 0 then
    { u with
      updateMask := u.updateMask &&& ~~~maskEnchantments
      out := u.out ++ [Output.toAll u.buildEnchantsPacket] }
  else u

def update (time : UInt32) : Unit :=
  ((u.updateAction time).updatePoison.updateSpeed.updateEnchants.updateAnim time).reportEnchants

/-! ### What the enchantments leave -/

/-- A sound changes nothing of the unit. -/
theorem emitEnchantSound_eq (sound : EnchantEntry → Int8) (enchant : UnitEnchantType) :
    ∃ out, u.emitEnchantSound sound enchant = { u with out := out } := by
  unfold emitEnchantSound
  split
  · exact ⟨_, rfl⟩
  · exact ⟨_, rfl⟩

theorem setEnchant_eq (enchant : UnitEnchantType) (frames : Int16) :
    ∃ out, u.setEnchant enchant frames =
      { u with
        auras := u.auras ||| 1#32 <<< enchant.index
        auraTimes := Function.update u.auraTimes enchant (startTime enchant frames)
        updateMask := u.updateMask ||| maskEnchantments
        out := out } :=
  emitEnchantSound_eq ..

theorem unsetEnchant_eq (enchant : UnitEnchantType) :
    ∃ out, u.unsetEnchant enchant =
      { u with
        auras := u.auras &&& ~~~(1#32 <<< enchant.index)
        auraTimes := Function.update u.auraTimes enchant 0
        updateMask := u.updateMask ||| maskEnchantments
        out := out } :=
  emitEnchantSound_eq ..

theorem poisonBy_eq (poisoned : UInt8) (poisoner : UInt16) :
    ∃ last, u.poisonBy poisoned poisoner = { u with poison := poisoned, poisoner := last } := by
  unfold poisonBy
  dsimp only
  split
  · exact ⟨_, rfl⟩
  · exact ⟨u.poisoner, rfl⟩

/-! ### What the parts of a frame leave -/

theorem setActionAnim_eq (anim : UnitActionType) (frames : UInt32) :
    ∃ action actionTime angle animFrames, (u.setActionAnim anim frames).1 =
      { u with
        action := action, actionTime := actionTime, angle := angle, animFrames := animFrames } := by
  unfold setActionAnim
  split
  · exact ⟨u.action, u.actionTime, u.angle, u.animFrames, rfl⟩
  · dsimp only
    split
    · exact ⟨_, _, _, _, rfl⟩
    · exact ⟨_, _, u.angle, _, rfl⟩

/-- The end of an action unsets the sneaking. -/
def unsneak : Unit := if u.hasEnchant .sneak then u.unsetEnchant .sneak else u

/-- The action of a frame of a unit that is not dead. -/
theorem updateAction_eq (alive : u.isDead = false) (time : UInt32) :
    ∃ action actionTime angle animFrames, u.updateAction time =
      { (if u.actionEnds time then u.unsneak else u) with
        action := action, actionTime := actionTime, angle := angle, animFrames := animFrames } := by
  unfold updateAction
  rw [if_neg (Bool.not_eq_true _ ▸ alive)]
  by_cases acts : u.action ≠ .idle ∨ u.action ≠ .raiseShield
  · rw [if_pos acts]
    by_cases done : u.actionTime < time
    · have ends : u.actionEnds time = true := decide_eq_true ⟨acts, done⟩
      rw [if_pos done, if_pos ends]
      show ∃ _ _ _ _, { (if u.unsneak.shield then (u.unsneak.setActionAnim .raiseShield 0).1
        else { u.unsneak with action := .idle }) with actionTime := 0 } = _
      split
      · obtain ⟨action, actionTime, angle, animFrames, same⟩ :=
          u.unsneak.setActionAnim_eq .raiseShield 0
        exact ⟨action, 0, angle, animFrames, by rw [same]⟩
      · exact ⟨_, _, u.unsneak.angle, u.unsneak.animFrames, rfl⟩
    · have goes : u.actionEnds time = false := decide_eq_false fun both => done both.2
      rw [if_neg done, goes]
      exact ⟨u.action, _, u.angle, u.animFrames, rfl⟩
  · have none : u.actionEnds time = false := decide_eq_false fun both => acts both.1
    rw [if_neg acts, none]
    exact ⟨u.action, u.actionTime, u.angle, u.animFrames, rfl⟩

theorem updateSpeed_eq : ∃ speed, u.updateSpeed = { u with speed := speed } := by
  unfold updateSpeed
  dsimp only
  split
  · split
    · exact ⟨_, rfl⟩
    · exact ⟨_, rfl⟩
  · split
    · exact ⟨_, rfl⟩
    · exact ⟨u.speed, rfl⟩

theorem updateAnim_eq (time : UInt32) :
    ∃ animFrames animTimer out, u.updateAnim time =
      { u with animFrames := animFrames, animTimer := animTimer, out := out } := by
  unfold updateAnim
  split
  · dsimp only
    split
    · exact ⟨_, _, _, rfl⟩
    · exact ⟨u.animFrames, _, _, rfl⟩
  · exact ⟨u.animFrames, u.animTimer, u.out, rfl⟩

theorem reportEnchants_eq :
    ∃ updateMask out, u.reportEnchants = { u with updateMask := updateMask, out := out } := by
  unfold reportEnchants
  split
  · exact ⟨_, _, rfl⟩
  · exact ⟨u.updateMask, u.out, rfl⟩

end Unit

/-- What happens to a unit. -/
inductive UnitAction where
  | update (time : UInt32)
  | setEnchant (enchant : UnitEnchantType) (frames : Int16)
  | unsetEnchant (enchant : UnitEnchantType)
  | resetEnchants
  | poison (poisoned : UInt8) (poisoner : UInt16)
  | setActionAnim (anim : UnitActionType) (frames : UInt32)
  | resetActionAnim
  /-- What else changes its health, its shield, its speeds and its angle. -/
  | other (health : Player) (shield : Bool) (speed maxSpeed : UInt16) (angle : UInt8)

def Unit.apply (u : Unit) : UnitAction → Unit
  | .update time => u.update time
  | .setEnchant enchant frames => u.setEnchant enchant frames
  | .unsetEnchant enchant => u.unsetEnchant enchant
  | .resetEnchants => u.resetEnchants
  | .poison poisoned poisoner => u.poisonBy poisoned poisoner
  | .setActionAnim anim frames => (u.setActionAnim anim frames).1
  | .resetActionAnim => u.resetActionAnim
  | .other health shield speed maxSpeed angle =>
      { u with
        health := health, shield := shield, speed := speed, maxSpeed := maxSpeed, angle := angle }

def Step (u : Unit) (action : UnitAction) (v : Unit) : Prop := v = u.apply action

/-- How many of the actions are updates. -/
def updates : List UnitAction → Nat
  | [] => 0
  | .update _ :: actions => updates actions + 1
  | _ :: actions => updates actions

end NoxServer.Units
