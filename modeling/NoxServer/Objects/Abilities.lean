import NoxServer.Library.Runs
import NoxServer.Shared.WorldPacket

/-!
The delays of a warrior's abilities, and what its client is told of them (`Player.cpp`).

Setting and resetting the delays tells the client. `Player::Update` counts them down and builds a
packet for each that comes to 0, but sends none, so the client knows what is ready as long as no
update finds a delay of 1 (`mirrored_iff`).
-/

namespace NoxServer

namespace Abilities

open Runs

def abilityAll : UInt8 := 6

def msgReportAbilityState : UInt8 := 0xCE

def msgResetAbilities : UInt8 := 0xEB

/-- The members of a warrior that its abilities are about. -/
structure Warrior where
  abilityDelays : Fin 5 → UInt16

/-- Where the delay of an ability is, if it has one. -/
def slotOf (ability : UInt8) : Option (Fin 5) :=
  if ability < 1 ∨ 5 < ability then none else some (Fin.ofNat 5 (ability.toNat - 1))

namespace Warrior

/-- The delay of one ability is changed. -/
def setDelay (p : Warrior) (i : Fin 5) (frames : UInt16) : Warrior :=
  { p with abilityDelays := Function.update p.abilityDelays i frames }

def isAbilityReady (p : Warrior) (ability : UInt8) : Bool :=
  match slotOf ability with
  | some i => p.abilityDelays i = 0
  | none => false

def buildResetAbilityPacket (packet : WorldPacket) (ability : UInt8) : WorldPacket :=
  (packet.initializeWith msgResetAbilities).extend [ability]

def buildAbilityStatePacket (p : Warrior) (packet : WorldPacket) (ability : UInt8) : WorldPacket :=
  (packet.initializeWith msgReportAbilityState).extend
    [ability, if p.isAbilityReady ability then 1 else 0]

/-- `ResetAbilityDelays()`, with what it sends. -/
def resetAbilityDelays (_ : Warrior) : Warrior × List WorldPacket :=
  ({ abilityDelays := fun _ => 0 }, [buildResetAbilityPacket {} abilityAll])

/-- `SetAbilityDelay(ability, frames)`, with what it sends. -/
def setAbilityDelay (p : Warrior) (ability : UInt8) (frames : UInt16) :
    Warrior × List WorldPacket :=
  match slotOf ability with
  | some i =>
      let p := p.setDelay i frames
      if frames ≠ 0 then (p, [p.buildAbilityStatePacket {} ability])
      else (p, [buildResetAbilityPacket {} ability])
  | none => (p, [])

/-- One turn of the countdown in `Player::Update`, with the packet that is built. -/
def countDown (s : Warrior × WorldPacket) (i : Fin 5) : Warrior × WorldPacket :=
  let (p, packet) := s
  if 0 < p.abilityDelays i then
    let p := p.setDelay i (p.abilityDelays i - 1)
    if p.abilityDelays i = 0 then (p, buildResetAbilityPacket packet (UInt8.ofNat (i + 1)))
    else (p, packet)
  else s

/-- `Player::Update(time)`. The packet that the countdown leaves is not sent. -/
def update (p : Warrior) : Warrior × List WorldPacket :=
  (((List.finRange 5).foldl countDown (p, {})).1, [])

def respawn (p : Warrior) : Warrior × List WorldPacket := p.resetAbilityDelays

end Warrior

/-! ### Runs -/

/-- A warrior, and what its session was sent. -/
structure Ledger where
  player : Warrior
  sent : List WorldPacket := []

/-- What happens to the delays. -/
inductive Action where
  | setAbilityDelay (ability : UInt8) (frames : UInt16)
  | resetAbilityDelays
  | update

/-- What an action does, with what it sends. -/
def Action.on (p : Warrior) : Action → Warrior × List WorldPacket
  | .setAbilityDelay ability frames => p.setAbilityDelay ability frames
  | .resetAbilityDelays => p.resetAbilityDelays
  | .update => p.update

def Ledger.apply (s : Ledger) (action : Action) : Ledger where
  player := (action.on s.player).1
  sent := s.sent ++ (action.on s.player).2

def respawned (p : Warrior) : Ledger where
  player := p.respawn.1
  sent := p.respawn.2

/-- The actions after a respawn. -/
def played (p : Warrior) (actions : List Action) : Ledger :=
  actions.foldl Ledger.apply (respawned p)

/-- Whether a packet says that the ability is ready, or not, if it says so. -/
def told (ability : UInt8) (packet : WorldPacket) : Option Bool :=
  if packet.opcode = msgReportAbilityState ∧ packet.storage = [ability, 0] then some false
  else if packet.opcode = msgResetAbilities ∧
      (packet.storage = [ability] ∨ packet.storage = [abilityAll]) then some true
  else none

/-- What the client was told last. -/
def lastTold (ability : UInt8) (sent : List WorldPacket) : Option Bool :=
  sent.foldl (fun known packet => (told ability packet).or known) none

/-- The client knows of every ability whether it is ready. -/
def Mirrored (s : Ledger) : Prop :=
  ∀ ability : UInt8, 1 ≤ ability → ability ≤ 5 →
    lastTold ability s.sent = some (s.player.isAbilityReady ability)

/-- No update is one that finds a delay of 1. -/
def NoneComesDue (s : Ledger) : Action → Prop
  | .update => ∀ i, s.player.abilityDelays i ≠ 1
  | _ => True

section Told

variable {p : Warrior} {packet : WorldPacket} {ability other : UInt8} {sent new : List WorldPacket}

theorem told_buildResetAbilityPacket :
    told ability (Warrior.buildResetAbilityPacket {} other) =
      if other = ability ∨ other = abilityAll then some true else none := by
  have opcode : ¬ msgResetAbilities = msgReportAbilityState := by decide
  simp [told, Warrior.buildResetAbilityPacket, WorldPacket.extend, WorldPacket.initializeWith,
    ByteBuffer.clear, opcode]

theorem told_buildAbilityStatePacket (waits : p.isAbilityReady other = false) :
    told ability (p.buildAbilityStatePacket {} other) =
      if other = ability then some false else none := by
  have opcode : ¬ msgReportAbilityState = msgResetAbilities := by decide
  simp [told, Warrior.buildAbilityStatePacket, WorldPacket.extend, WorldPacket.initializeWith,
    ByteBuffer.clear, waits, opcode]

theorem lastTold_concat :
    lastTold ability (sent ++ [packet]) = (told ability packet).or (lastTold ability sent) := by
  simp [lastTold]

end Told

section Delays

variable {p : Warrior} {ability other : UInt8} {i : Fin 5} {frames : UInt16}

theorem slotOf_eq_some : slotOf ability = some i ↔ ability.toNat = i + 1 := by
  have one : (1 : UInt8).toNat = 1 := rfl
  have five : (5 : UInt8).toNat = 5 := rfl
  have bound := i.isLt
  unfold slotOf
  simp only [UInt8.lt_iff_toNat_lt, one, five]
  split
  · next outside =>
      simp only [reduceCtorEq, false_iff]
      omega
  · next inside =>
      rw [Option.some.injEq, Fin.ext_iff, Fin.val_ofNat]
      omega

/-- The abilities 1 to 5 have a delay. -/
theorem slotOf_isSome (low : 1 ≤ ability) (high : ability ≤ 5) : ∃ i, slotOf ability = some i := by
  rw [UInt8.le_iff_toNat_le] at low high
  have one : (1 : UInt8).toNat = 1 := rfl
  have five : (5 : UInt8).toNat = 5 := rfl
  exact ⟨⟨ability.toNat - 1, by omega⟩, slotOf_eq_some.mpr (by dsimp only; omega)⟩

/-- A delay is one of an ability. -/
theorem exists_ability (i : Fin 5) :
    ∃ ability : UInt8, 1 ≤ ability ∧ ability ≤ 5 ∧ slotOf ability = some i := by
  refine ⟨UInt8.ofNat (i + 1), ?_⟩
  revert i
  decide

theorem slotOf_inj (here : slotOf ability = some i) (there : slotOf other = some i) :
    ability = other := by
  rw [slotOf_eq_some] at here there
  exact UInt8.toNat_inj.mp (here.trans there.symm)

theorem isAbilityReady_of (slot : slotOf ability = some i) :
    p.isAbilityReady ability = decide (p.abilityDelays i = 0) := by
  rw [Warrior.isAbilityReady, slot]

@[simp]
theorem abilityDelays_setDelay :
    (p.setDelay i frames).abilityDelays = Function.update p.abilityDelays i frames := rfl

theorem isAbilityReady_setDelay (slot : slotOf ability = some i) :
    (p.setDelay i frames).isAbilityReady other =
      if other = ability then decide (frames = 0) else p.isAbilityReady other := by
  split
  · next same => rw [same, isAbilityReady_of slot, abilityDelays_setDelay, Function.update_self]
  · next different =>
      cases found : slotOf other with
      | none => simp [Warrior.isAbilityReady, found]
      | some j =>
          have apart : j ≠ i := fun same => different (slotOf_inj (same ▸ found) slot)
          rw [isAbilityReady_of found, isAbilityReady_of found, abilityDelays_setDelay,
            Function.update_of_ne apart]

theorem countedDown_eq_zero (other : frames ≠ 1) :
    (if 0 < frames then frames - 1 else frames) = 0 ↔ frames = 0 := by
  split
  · next positive =>
      have one : (1 : UInt16).toNat = 1 := rfl
      have zero : (0 : UInt16).toNat = 0 := rfl
      rw [UInt16.lt_iff_toNat_lt, zero] at positive
      rw [Ne, ← UInt16.toNat_inj, one] at other
      have less : (frames - 1).toNat = frames.toNat - 1 :=
        UInt16.toNat_sub_of_le frames 1 (UInt16.le_iff_toNat_le.mpr (by omega))
      rw [← UInt16.toNat_inj, ← UInt16.toNat_inj, less, zero]
      omega
  · exact Iff.rfl

/-- The countdown takes one from each delay it comes by, down to 0, and leaves the others. -/
theorem foldl_countDown {order : List (Fin 5)} (once : order.Nodup) {packet : WorldPacket} :
    (i ∈ order → (order.foldl Warrior.countDown (p, packet)).1.abilityDelays i =
        if 0 < p.abilityDelays i then p.abilityDelays i - 1 else p.abilityDelays i) ∧
      (i ∉ order → (order.foldl Warrior.countDown (p, packet)).1.abilityDelays i =
        p.abilityDelays i) := by
  induction order generalizing p packet with
  | nil => exact ⟨nofun, fun _ => rfl⟩
  | cons j order ih =>
      obtain ⟨away, distinct⟩ := List.nodup_cons.mp once
      obtain ⟨packet', turn⟩ : ∃ packet', Warrior.countDown (p, packet) j =
          (if 0 < p.abilityDelays j then p.setDelay j (p.abilityDelays j - 1) else p, packet') := by
        unfold Warrior.countDown
        dsimp only
        split
        · split <;> exact ⟨_, rfl⟩
        · exact ⟨_, rfl⟩
      rw [List.foldl_cons, turn]
      constructor
      · intro listed
        by_cases here : i = j
        · subst here
          rw [(ih distinct).2 away]
          split <;> simp
        · have later := (List.mem_cons.mp listed).resolve_left here
          rw [(ih distinct).1 later]
          split <;> simp [here]
      · intro unlisted
        obtain ⟨here, later⟩ := not_or.mp (mt List.mem_cons.mpr unlisted)
        rw [(ih distinct).2 later]
        split <;> simp [here]

theorem abilityDelays_update :
    p.update.1.abilityDelays i =
      if 0 < p.abilityDelays i then p.abilityDelays i - 1 else p.abilityDelays i := by
  rw [Warrior.update, (foldl_countDown (List.nodup_finRange 5)).1 (List.mem_finRange i)]

end Delays

/-! ### Steps -/

section Steps

variable {s : Ledger}

theorem mirrored_respawned (p : Warrior) : Mirrored (respawned p) := by
  intro ability low high
  obtain ⟨i, slot⟩ := slotOf_isSome low high
  rw [isAbilityReady_of slot]
  simp [respawned, Warrior.respawn, Warrior.resetAbilityDelays, lastTold,
    told_buildResetAbilityPacket]

theorem Mirrored.resetAbilityDelays (s : Ledger) : Mirrored (s.apply .resetAbilityDelays) := by
  intro ability low high
  obtain ⟨i, slot⟩ := slotOf_isSome low high
  rw [isAbilityReady_of slot]
  simp [Ledger.apply, Action.on, Warrior.resetAbilityDelays, lastTold_concat,
    told_buildResetAbilityPacket]

/-- Setting a delay tells the client of it, so that what it knows is right again. -/
theorem Mirrored.setAbilityDelay (mirrored : Mirrored s) (ability : UInt8) (frames : UInt16) :
    Mirrored (s.apply (.setAbilityDelay ability frames)) := by
  cases slot : slotOf ability with
  | none =>
      have same : s.apply (.setAbilityDelay ability frames) = s := by
        simp [Ledger.apply, Action.on, Warrior.setAbilityDelay, slot]
      rw [same]
      exact mirrored
  | some i =>
      intro other low high
      -- the packet is about this ability only
      have notAll : ability ≠ abilityAll := by
        rintro rfl
        have none : slotOf abilityAll = none := by decide
        rw [none] at slot
        cases slot
      have known := mirrored other low high
      by_cases zero : frames = 0
      · simp only [Ledger.apply, Action.on, Warrior.setAbilityDelay, slot, zero, ne_eq,
          not_true_eq_false, if_false, lastTold_concat, told_buildResetAbilityPacket,
          isAbilityReady_setDelay slot, notAll, or_false, eq_comm, known]
        split <;> simp
      · have waits : (s.player.setDelay i frames).isAbilityReady ability = false := by
          rw [isAbilityReady_setDelay slot]
          simp [zero]
        simp only [Ledger.apply, Action.on, Warrior.setAbilityDelay, slot, zero, ne_eq,
          not_false_eq_true, if_true, lastTold_concat, told_buildAbilityStatePacket waits,
          isAbilityReady_setDelay slot, eq_comm, known]
        split <;> simp

/-- An update changes what is ready and tells nothing, so the client knows if nothing changes. -/
theorem Mirrored.update_iff (mirrored : Mirrored s) :
    Mirrored (s.apply .update) ↔ ∀ i, s.player.abilityDelays i ≠ 1 := by
  have sent : (s.apply .update).sent = s.sent := by
    simp only [Ledger.apply, Action.on, Warrior.update, List.append_nil]
  have player : (s.apply .update).player = s.player.update.1 := by
    simp only [Ledger.apply, Action.on]
  constructor
  · intro after i due
    obtain ⟨ability, low, high, slot⟩ := exists_ability i
    have known := mirrored ability low high
    have knows := after ability low high
    rw [sent, known, player, isAbilityReady_of slot, isAbilityReady_of slot,
      abilityDelays_update, due] at knows
    revert knows
    decide
  · intro none ability low high
    obtain ⟨i, slot⟩ := slotOf_isSome low high
    rw [sent, mirrored ability low high, player, isAbilityReady_of slot, isAbilityReady_of slot,
      abilityDelays_update]
    simp only [countedDown_eq_zero (none i)]

end Steps

/-- After a respawn the client always knows what is ready exactly if no update finds a delay of 1:
such an update counts it down to 0, which makes the ability ready, and the packet that is to tell
the client is made but never sent. -/
theorem mirrored_iff (p : Warrior) (actions : List Action) :
    (∀ before, before <+: actions → Mirrored (played p before)) ↔
      ∀ before, before ++ [.update] <+: actions →
        ∀ i, (played p before).player.abilityDelays i ≠ 1 := by
  have exact_step (s : Ledger) (action : Action) (mirrored : Mirrored s) :
      Mirrored (s.apply action) ↔ NoneComesDue s action := by
    cases action with
    | setAbilityDelay ability frames =>
        exact iff_of_true (mirrored.setAbilityDelay ability frames) trivial
    | resetAbilityDelays => exact iff_of_true (Mirrored.resetAbilityDelays s) trivial
    | update => exact mirrored.update_iff
  unfold played
  rw [forall_prefix_foldl_iff exact_step]
  constructor
  · rintro ⟨-, met⟩ before ahead
    exact met before .update ahead
  · intro met
    refine ⟨mirrored_respawned p, fun before action ahead => ?_⟩
    cases action with
    | setAbilityDelay _ _ => trivial
    | resetAbilityDelays => trivial
    | update => exact met before ahead

/-- A delay of one frame is over at the next update, and the client is told nothing of it. -/
theorem ready_untold :
    ¬ ∀ before, before <+: [.setAbilityDelay 1 1, .update] →
      Mirrored (played { abilityDelays := fun _ => 0 } before) := by
  intro always
  have knows := always _ (List.prefix_refl _) 1 (by decide) (by decide)
  revert knows
  decide

end Abilities

end NoxServer
