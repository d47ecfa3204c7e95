import NoxServer.Library.Cooldown
import NoxServer.Objects.Abilities
import NoxServer.Objects.Unit

/-!
How often a player uses its abilities (`Spell.cpp`, `WorldSession.cpp`, `Player.cpp`).

A request is carried out if the ability is ready, and the ability then sets its delay. Each update
of a warrior takes one from every delay, and a respawn sets them to 0, as does a charge that strikes
a player of little health for its own. So an ability is used as a countdown allows it
(`ready_iff_waited`, `uses_spaced`), and the harpoon, which has no function, at every request.

What the configuration gives is a parameter, converted as the functions it goes to take it. What a
charge does to the body and to the health is left out, and so is the marker of treading lightly,
which is about movement.
-/

namespace NoxServer

namespace Abilities

open NoxServer.Units

/-- The values of the configuration. -/
structure Config where
  berserkerChargeDuration : UInt32
  berserkerChargeDelay : UInt16
  warcryDelay : UInt16
  treadLightlyDuration : Int16
  treadLightlyDelay : UInt16
  eyeOfTheWolfDuration : Int16
  eyeOfTheWolfDelay : UInt16

/-- A player with its delays, and what its session was sent. -/
structure Hero where
  /-- `plrInfo.pclass == PLAYER_CLASS_WARRIOR`. -/
  isWarrior : Bool
  warrior : Warrior
  unit : Units.Unit := {}
  sent : List WorldPacket := []

def msgAudioPlayerEvent : UInt8 := 0xA7

def msgInform : UInt8 := 0xA9

namespace Hero

/-! ### The functions of the source -/

def emitSound (h : Hero) (soundevent : UInt16) : Hero :=
  { h with unit := { h.unit with out := h.unit.out ++ [.sound soundevent] } }

def setAbilityDelay (h : Hero) (ability : UInt8) (frames : UInt16) : Hero :=
  let set := h.warrior.setAbilityDelay ability frames
  { h with warrior := set.1, sent := h.sent ++ set.2 }

def handleBerserkerChargeAbility (c : Config) (h : Hero) : Hero :=
  let h := { h with unit := (h.unit.setActionAnim .berserkerCharge c.berserkerChargeDuration).1 }
  ((h.setAbilityDelay 1 c.berserkerChargeDelay).emitSound 170).emitSound 172

def handleWarcryAbility (c : Config) (h : Hero) : Hero :=
  let h := h.setAbilityDelay 2 c.warcryDelay
  (({ h with unit := (h.unit.setActionAnim .warcry 15).1 } : Hero).emitSound 174).emitSound 175

def handleAbilityUnknown (_ : Config) (h : Hero) : Hero := h

def handleTreadLightlyAbility (c : Config) (h : Hero) : Hero :=
  let h := { h with unit := h.unit.setEnchant .sneak c.treadLightlyDuration }
  ((h.setAbilityDelay 4 c.treadLightlyDelay).emitSound 180).emitSound 181

def handleEyeOfWolfAbility (c : Config) (h : Hero) : Hero :=
  let h := { h with unit := h.unit.setEnchant .infravision c.eyeOfTheWolfDuration }
  (h.setAbilityDelay 5 c.eyeOfTheWolfDelay).emitSound 644

/-- `abilityTable.find(abilityId)`. -/
def abilityTable : UInt8 → Option (Config → Hero → Hero)
  | 1 => some handleBerserkerChargeAbility
  | 2 => some handleWarcryAbility
  | 3 => some handleAbilityUnknown
  | 4 => some handleTreadLightlyAbility
  | 5 => some handleEyeOfWolfAbility
  | _ => none

def executeAbility (c : Config) (h : Hero) (abilityId : UInt8) : Hero × Bool :=
  match abilityTable abilityId with
  | some handler => (handler c h, true)
  | none => (h, false)

def sendAudioPlayerEvent (h : Hero) (sound : UInt16) (volume balance : UInt8) : Hero :=
  let packet := (({} : WorldPacket).initializeWith msgAudioPlayerEvent).extend [balance]
  let packet := packet.extend
    (ByteBuffer.toBytes 2 (volume.toUInt16 <<< 9 ||| sound &&& 0x3FF).toNat)
  { h with sent := h.sent ++ [packet] }

/-- `HandleTryAbilityOpcode`, with what it reads: `SOUND_PERMANENTFIZZLE` if the ability is not
ready. -/
def handleTryAbilityOpcode (c : Config) (h : Hero) (ability : UInt8) : Hero :=
  if h.warrior.isAbilityReady ability then (h.executeAbility c ability).1
  else h.sendAudioPlayerEvent 231 100 0

/-- `Player::Update(time)`: the delays, and `Unit::Update`. -/
def update (h : Hero) (time : UInt32) : Hero :=
  let h := if h.isWarrior then { h with warrior := h.warrior.update.1 } else h
  { h with unit := h.unit.update time }

/-- `Respawn()`: the delays and the enchantments. -/
def respawn (h : Hero) : Hero :=
  let h :=
    if h.isWarrior then
      { h with
        warrior := h.warrior.resetAbilityDelays.1
        sent := h.sent ++ h.warrior.resetAbilityDelays.2 }
    else h
  { h with unit := h.unit.resetEnchants.setEnchant .invulnerable }

/-- The part of `PlayerCollideCallback` about a player that is struck in a charge. -/
def strikePlayer (h : Hero) (health : Int16) : Hero :=
  if h.unit.action = .berserkerCharge then
    let h := { h with unit := h.unit.resetActionAnim }
    let h := if health ≤ 100 then h.setAbilityDelay 1 0 else h
    h.emitSound 173
  else h

/-- The part of `PlayerCollideCallback` about an obstacle that is struck in a charge: with
`SetEnchant(ENCHANT_HELD, 45)` comes MSG_INFORM. -/
def strikeObstacle (h : Hero) : Hero :=
  if h.unit.action = .berserkerCharge then
    let packet := (({} : WorldPacket).initializeWith msgInform).extend [0x0D]
    let packet := packet.extend (ByteBuffer.toBytes 4 0)
    let h := { h with
      unit := h.unit.resetActionAnim.setEnchant .held 45
      sent := h.sent ++ [packet] }
    (h.emitSound 171).emitSound 173
  else h

/-! ### Runs -/

/-- What happens to a player. -/
inductive Event where
  | tryAbility (ability : UInt8)
  | update (time : UInt32)
  | respawn
  | strikePlayer (health : Int16)
  | strikeObstacle

def apply (c : Config) (h : Hero) : Event → Hero
  | .tryAbility ability => h.handleTryAbilityOpcode c ability
  | .update time => h.update time
  | .respawn => h.respawn
  | .strikePlayer health => h.strikePlayer health
  | .strikeObstacle => h.strikeObstacle

def run (c : Config) (h : Hero) (events : List Event) : Hero := events.foldl (apply c) h

/-- An event is a request that is carried out. -/
def carriesOut (h : Hero) (ability : UInt8) : Event → Bool
  | .tryAbility asked => asked = ability && h.warrior.isAbilityReady ability
  | _ => false

/-- How often an ability is used. -/
def uses (c : Config) (ability : UInt8) (h : Hero) : List Event → Nat
  | [] => 0
  | event :: events =>
      (if h.carriesOut ability event then 1 else 0) + uses c ability (h.apply c event) events

/-! ### The delays as countdowns -/

/-- The delay an ability sets. -/
def delayOf (c : Config) : UInt8 → UInt16
  | 1 => c.berserkerChargeDelay
  | 2 => c.warcryDelay
  | 4 => c.treadLightlyDelay
  | 5 => c.eyeOfTheWolfDelay
  | _ => 0

/-- What an event is to the countdown of an ability. -/
def sees (h : Hero) (ability : UInt8) : Event → List Cooldown.Event
  | .tryAbility asked => if asked = ability then [.use] else []
  | .update _ => if h.isWarrior then [.tick] else []
  | .respawn => if h.isWarrior then [.clear] else []
  | .strikePlayer health =>
      if ability = 1 ∧ h.unit.action = .berserkerCharge ∧ health ≤ 100 then [.clear] else []
  | .strikeObstacle => []

/-- What a run is to the countdown of an ability. -/
def trace (c : Config) (ability : UInt8) (h : Hero) : List Event → List Cooldown.Event
  | [] => []
  | event :: events => h.sees ability event ++ trace c ability (h.apply c event) events

variable {c : Config} {h : Hero} {ability asked : UInt8} {i j : Fin 5}

theorem setAbilityDelay_fst {p : Warrior} {frames : UInt16} (slot : slotOf ability = some i) :
    (p.setAbilityDelay ability frames).1 = p.setDelay i frames := by
  rw [Warrior.setAbilityDelay, slot]
  dsimp only
  split
  · rfl
  · rfl

/-- An ability is ready when its countdown is over. -/
theorem ready_iff (slot : slotOf ability = some i) :
    h.warrior.isAbilityReady ability = true ↔ (h.warrior.abilityDelays i).toNat = 0 := by
  rw [isAbilityReady_of slot, decide_eq_true_iff]
  exact UInt16.toNat_inj.symm

/-- An ability that is carried out sets its delay, and leaves those of the others. -/
theorem executeAbility_delays (slot : slotOf asked = some j)
    (ready : h.warrior.isAbilityReady asked = true) :
    (h.executeAbility c asked).1.warrior.abilityDelays =
        Function.update h.warrior.abilityDelays j (delayOf c asked) ∧
      (h.executeAbility c asked).1.isWarrior = h.isWarrior := by
  have done : h.warrior.abilityDelays j = 0 := UInt16.toNat_inj.mp ((ready_iff slot).mp ready)
  have number := slotOf_eq_some.mp slot
  have named : asked = UInt8.ofNat (j + 1) := by
    rw [← number, UInt8.ofNat_toNat]
  subst named
  fin_cases j
  · exact ⟨congrArg Warrior.abilityDelays (setAbilityDelay_fst slot), rfl⟩
  · exact ⟨congrArg Warrior.abilityDelays (setAbilityDelay_fst slot), rfl⟩
  · exact ⟨(Function.update_eq_self_iff.mpr done.symm).symm, rfl⟩
  · exact ⟨congrArg Warrior.abilityDelays (setAbilityDelay_fst slot), rfl⟩
  · exact ⟨congrArg Warrior.abilityDelays (setAbilityDelay_fst slot), rfl⟩

theorem exists_slot (ready : h.warrior.isAbilityReady asked = true) :
    ∃ j, slotOf asked = some j := by
  cases found : slotOf asked with
  | none => simp [Warrior.isAbilityReady, found] at ready
  | some j => exact ⟨j, rfl⟩

/-- A request starts the countdown of the ability it is for, if that is over. -/
theorem handleTryAbilityOpcode_delay (slot : slotOf ability = some i) :
    ((h.handleTryAbilityOpcode c asked).warrior.abilityDelays i).toNat =
        Cooldown.run (delayOf c ability).toNat (h.warrior.abilityDelays i).toNat
          (h.sees ability (.tryAbility asked)) ∧
      (h.handleTryAbilityOpcode c asked).isWarrior = h.isWarrior := by
  rw [handleTryAbilityOpcode, sees]
  by_cases ready : h.warrior.isAbilityReady asked = true
  · rw [if_pos ready]
    obtain ⟨j, slot'⟩ := exists_slot ready
    obtain ⟨delays, same⟩ := executeAbility_delays (c := c) slot' ready
    refine ⟨?_, same⟩
    rw [delays]
    by_cases this : asked = ability
    · subst this
      cases slot.symm.trans slot'
      rw [if_pos rfl, Function.update_self, (ready_iff slot).mp ready]
      rfl
    · have apart : i ≠ j := fun same => this (slotOf_inj slot' (same ▸ slot))
      rw [if_neg this, Function.update_of_ne apart]
      rfl
  · rw [if_neg ready]
    refine ⟨?_, rfl⟩
    by_cases this : asked = ability
    · subst this
      rw [if_pos rfl]
      exact (if_neg fun done => ready ((ready_iff slot).mpr done)).symm
    · rw [if_neg this]
      rfl

/-- An update takes one from every countdown of a warrior. -/
theorem update_delay (time : UInt32) :
    ((h.update time).warrior.abilityDelays i).toNat =
        Cooldown.run (delayOf c ability).toNat (h.warrior.abilityDelays i).toNat
          (h.sees ability (.update time)) ∧
      (h.update time).isWarrior = h.isWarrior := by
  rw [update, sees]
  by_cases counts : h.isWarrior = true
  · rw [if_pos counts, if_pos counts]
    refine ⟨?_, rfl⟩
    dsimp only
    rw [abilityDelays_update, Cooldown.run_tick]
    split
    · next positive =>
        exact UInt16.toNat_sub_of_le _ 1 (UInt16.le_iff_toNat_le.mpr
          (UInt16.lt_iff_toNat_lt.mp positive))
    · next done =>
        have zero : (0 : UInt16).toNat = 0 := rfl
        rw [UInt16.lt_iff_toNat_lt, zero] at done
        omega
  · rw [if_neg counts, if_neg counts]
    exact ⟨rfl, rfl⟩

/-- A charge that strikes a player of little health ends the countdown of the charge. -/
theorem strikePlayer_delay (slot : slotOf ability = some i) (health : Int16) :
    ((h.strikePlayer health).warrior.abilityDelays i).toNat =
        Cooldown.run (delayOf c ability).toNat (h.warrior.abilityDelays i).toNat
          (h.sees ability (.strikePlayer health)) ∧
      (h.strikePlayer health).isWarrior = h.isWarrior := by
  rw [strikePlayer, sees]
  by_cases charges : h.unit.action = .berserkerCharge
  · rw [if_pos charges]
    dsimp only
    by_cases weak : health ≤ 100
    · rw [if_pos weak]
      refine ⟨?_, rfl⟩
      have first : slotOf 1 = some 0 := rfl
      rw [emitSound, setAbilityDelay]
      dsimp only
      rw [setAbilityDelay_fst first, abilityDelays_setDelay]
      by_cases this : ability = 1
      · subst this
        cases slot.symm.trans first
        rw [if_pos ⟨rfl, charges, weak⟩, Function.update_self]
        rfl
      · have apart : i ≠ 0 := fun same => this (slotOf_inj (same ▸ slot) first)
        rw [if_neg fun all => this all.1, Function.update_of_ne apart]
        rfl
    · rw [if_neg weak, if_neg fun all => weak all.2.2]
      exact ⟨rfl, rfl⟩
  · rw [if_neg charges, if_neg fun all => charges all.2.1]
    exact ⟨rfl, rfl⟩

/-- What an event does to the delay of an ability, the countdown does. -/
theorem apply_delay (slot : slotOf ability = some i) (event : Event) :
    ((h.apply c event).warrior.abilityDelays i).toNat =
        Cooldown.run (delayOf c ability).toNat (h.warrior.abilityDelays i).toNat
          (h.sees ability event) ∧
      (h.apply c event).isWarrior = h.isWarrior := by
  cases event with
  | tryAbility asked => exact handleTryAbilityOpcode_delay slot
  | update time => exact update_delay time
  | respawn =>
      rw [apply, respawn, sees]
      by_cases resets : h.isWarrior = true
      · rw [if_pos resets, if_pos resets]
        exact ⟨rfl, rfl⟩
      · rw [if_neg resets, if_neg resets]
        exact ⟨rfl, rfl⟩
  | strikePlayer health => exact strikePlayer_delay slot health
  | strikeObstacle =>
      rw [apply, strikeObstacle, sees]
      split
      · exact ⟨rfl, rfl⟩
      · exact ⟨rfl, rfl⟩

/-- The delay of an ability is a countdown. -/
theorem run_delay (slot : slotOf ability = some i) (events : List Event) :
    ((run c h events).warrior.abilityDelays i).toNat =
      Cooldown.run (delayOf c ability).toNat (h.warrior.abilityDelays i).toNat
        (trace c ability h events) := by
  induction events generalizing h with
  | nil => rfl
  | cons event events ih =>
      rw [trace, Cooldown.run_append, ← (apply_delay slot event).1]
      exact ih

/-- A request is carried out when the countdown is over. -/
theorem carriesOut_uses (slot : slotOf ability = some i) (event : Event) (delay : Nat) :
    (if h.carriesOut ability event then 1 else 0) =
      Cooldown.uses delay (h.warrior.abilityDelays i).toNat (h.sees ability event) := by
  have done : h.warrior.isAbilityReady ability =
      decide ((h.warrior.abilityDelays i).toNat = 0) := by
    rw [Bool.eq_iff_iff, decide_eq_true_iff]
    exact ready_iff slot
  cases event with
  | tryAbility asked =>
      rw [carriesOut, sees, done]
      by_cases this : asked = ability
      · simp [this, Cooldown.uses]
      · simp [this, Cooldown.uses]
  | update time => cases counts : h.isWarrior <;> simp [carriesOut, sees, counts, Cooldown.uses]
  | respawn => cases resets : h.isWarrior <;> simp [carriesOut, sees, resets, Cooldown.uses]
  | strikePlayer health =>
      by_cases all : ability = 1 ∧ h.unit.action = .berserkerCharge ∧ health ≤ 100
      · rw [sees, if_pos all]
        simp [carriesOut, Cooldown.uses]
      · rw [sees, if_neg all]
        simp [carriesOut, Cooldown.uses]
  | strikeObstacle => simp [carriesOut, sees, Cooldown.uses]

theorem uses_eq (slot : slotOf ability = some i) (events : List Event) :
    uses c ability h events =
      Cooldown.uses (delayOf c ability).toNat (h.warrior.abilityDelays i).toNat
        (trace c ability h events) := by
  induction events generalizing h with
  | nil => rfl
  | cons event events ih =>
      rw [uses, trace, Cooldown.uses_append, ← carriesOut_uses slot, ih,
        (apply_delay slot event).1]

/-! ### How often an ability is used -/

/-- How many updates ago an ability was used, unless its delay has been set to 0 since. -/
def since (c : Config) (ability : UInt8) (h : Hero) (events : List Event) : Option Nat :=
  (trace c ability h events).foldl (Cooldown.follow (delayOf c ability).toNat) none

/-- Whatever a warrior does after a respawn, an ability is ready just when it has not been used
since its delay was last set to 0, or when as many updates have gone by as its delay has frames. The
delay is the 16-bit number that `SetAbilityDelay` takes. -/
theorem ready_iff_waited (warrior : h.isWarrior = true) (slot : slotOf ability = some i)
    (events : List Event) :
    (run c h.respawn events).warrior.isAbilityReady ability = true ↔
      ∀ waited, since c ability h.respawn events = some waited →
        (delayOf c ability).toNat ≤ waited := by
  have start : (h.respawn.warrior.abilityDelays i).toNat =
      Cooldown.remaining (delayOf c ability).toNat none := by
    rw [respawn, if_pos warrior]
    rfl
  have left := run_delay (c := c) (h := h.respawn) slot events
  rw [start, Cooldown.run_remaining] at left
  rw [ready_iff slot, left, Cooldown.remaining_eq_zero_iff, since]
  cases (trace c ability h.respawn events).foldl
      (Cooldown.follow (delayOf c ability).toNat) none with
  | none => simp [Cooldown.ready]
  | some waited => simp [Cooldown.ready]

/-- A war cry takes two frames. -/
def quickWarcry : Config := ⟨90, 300, 2, -31073, 30, 300, 600⟩

/-- A warrior with delays. -/
def tiredWarrior : Hero := { isWarrior := true, warrior := ⟨fun _ => 7⟩ }

/-- A war cry, and one of its two frames. -/
theorem ready_iff_waited_warcry :
    (run quickWarcry tiredWarrior.respawn [.tryAbility 2, .update 33]).warrior.isAbilityReady 2 =
        true ↔
      ∀ waited, since quickWarcry 2 tiredWarrior.respawn [.tryAbility 2, .update 33] = some waited →
        2 ≤ waited :=
  ready_iff_waited rfl rfl _

/-- How many updates there are. -/
def updates (events : List Event) : Nat :=
  events.countP fun
    | .update _ => true
    | _ => false

/-- How often the delay of an ability is set to 0. -/
def clearings (ability : UInt8) (events : List Event) : Nat :=
  events.countP fun
    | .respawn => true
    | .strikePlayer health => ability = 1 && health ≤ 100
    | _ => false

theorem count_sees (event : Event) :
    (h.sees ability event).count .tick = (if h.isWarrior then updates [event] else 0) ∧
      (h.sees ability event).count .clear ≤ clearings ability [event] := by
  cases event with
  | tryAbility asked =>
      by_cases this : asked = ability <;> simp [sees, this, updates]
  | update time => cases counts : h.isWarrior <;> simp [sees, counts, updates]
  | respawn => cases resets : h.isWarrior <;> simp [sees, resets, updates, clearings]
  | strikePlayer health =>
      rw [sees]
      split
      · next all => simp [all.1, all.2.2, updates, clearings]
      · simp [updates]
  | strikeObstacle => simp [sees, updates]

/-- A run ticks as often as there are updates, and clears no oftener than there are clearings. -/
theorem count_trace (slot : slotOf ability = some i) (events : List Event) :
    (trace c ability h events).count .tick = (if h.isWarrior then updates events else 0) ∧
      (trace c ability h events).count .clear ≤ clearings ability events := by
  induction events generalizing h with
  | nil => simp [trace, updates]
  | cons event events ih =>
      obtain ⟨ticks, clears⟩ := ih (h := h.apply c event)
      obtain ⟨ticked, cleared⟩ := @count_sees h ability event
      have first : event :: events = [event] ++ events := rfl
      have more : updates (event :: events) = updates [event] + updates events := by
        rw [first]
        exact List.countP_append
      have most : clearings ability (event :: events) =
          clearings ability [event] + clearings ability events := by
        rw [first]
        exact List.countP_append
      rw [(apply_delay slot event).2] at ticks
      rw [trace, List.count_append, List.count_append, ticks, ticked, more, most]
      refine ⟨?_, Nat.add_le_add cleared clears⟩
      cases h.isWarrior <;> simp

theorem uses_of_no_slot (none : slotOf ability = none) (events : List Event) :
    uses c ability h events = 0 := by
  induction events generalizing h with
  | nil => rfl
  | cons event events ih =>
      rw [uses, ih]
      cases event <;> simp [carriesOut, Warrior.isAbilityReady, none]

/-- Whatever happens to a player, of any class and with any delays, the uses of an ability are its
delay apart: they take no more updates than there are, but for one at the beginning and one for each
time the delay is set to 0. -/
theorem uses_spaced (c : Config) (ability : UInt8) (h : Hero) (events : List Event) :
    uses c ability h events * (delayOf c ability).toNat ≤
      (if h.isWarrior then updates events else 0) +
        (clearings ability events + 1) * (delayOf c ability).toNat := by
  cases slot : slotOf ability with
  | none =>
      rw [uses_of_no_slot slot, Nat.zero_mul]
      exact Nat.zero_le _
  | some i =>
      obtain ⟨ticks, clears⟩ := count_trace (c := c) (h := h) slot events
      rw [uses_eq slot]
      refine (Cooldown.uses_le _ _).trans ?_
      rw [ticks]
      exact Nat.add_le_add_left (Nat.mul_le_mul_right _ (by omega)) _

end Hero

end Abilities

end NoxServer
