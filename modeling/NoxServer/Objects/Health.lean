import Mathlib
import NoxServer.Library.Runs
import NoxServer.Shared.WorldPacket

/-!
The health of a player and what is told of it (`Object.cpp`, `Player.cpp`).

`Damage` and `Heal` collect in `m_delta_health`, and one update adds that to the health and to
`m_combined_health`, which the next one broadcasts. The health is kept within its bounds and
the combined change is not, so what is told adds up as long as no update runs into a bound and
no change is beyond sixteen bits (`Faithful`).

The amounts are whole, so the numbers are those a `float` has for whole numbers; sums that no
`float` holds, from `2^128` on, are out of the model. A conversion to sixteen bits keeps the
lowest ones.
-/

namespace NoxServer

namespace Health

open ByteBuffer Runs

/-- A whole number in a `float`: rounded to 24 significant bits, from halfway to the even. -/
def toFloat (x : Int) : Int :=
  let unit := 1 <<< (x.natAbs.log2 - 23)
  let units := x.natAbs / unit
  let part := x.natAbs % unit
  let rounded := if 2 * part < unit ∨ (2 * part = unit ∧ units % 2 = 0) then units else units + 1
  x.sign * (rounded * unit : Nat)

/-- `(uint16)x`. -/
def toUInt16 (x : Int) : UInt16 := UInt16.ofNat (x % 65536).toNat

/-- The members of a player that its health is about. -/
structure Player where
  extent : UInt16 := 0
  maxHealth : Int := 0
  health : Int := 0
  deltaHealth : Int := 0
  combinedHealth : Int := 0
  deriving DecidableEq

namespace Player

def isDead (p : Player) : Bool := p.health ≤ 0

def damage (p : Player) (amount : Int) : Player :=
  if p.isDead then p else { p with deltaHealth := toFloat (p.deltaHealth - amount) }

def heal (p : Player) (amount : Int) : Player :=
  if p.isDead then p else { p with deltaHealth := toFloat (p.deltaHealth + amount) }

/-- `Die()`, but for what it drops. -/
def die (p : Player) : Player := { p with health := 0 }

/-- `_BuildDeltaHealthPacket(packet)`: `MSG_REPORT_HEALTH_DELTA`, or the packet as it is. -/
def buildDeltaHealthPacket (p : Player) (packet : WorldPacket) : WorldPacket :=
  if 0 < toUInt16 p.combinedHealth then
    ({ packet with opcode := 0x42 }.extend (toBytes 2 p.extent.toNat)).extend
      (toBytes 2 (toUInt16 p.combinedHealth).toNat)
  else packet

/-- `_BuildMyHealthPacket(packet)`: `MSG_REPORT_PLAYER_HEALTH`. -/
def buildMyHealthPacket (p : Player) (packet : WorldPacket) : WorldPacket :=
  (packet.initializeWith 0x43).extend (toBytes 2 (toUInt16 p.health).toNat)

/-- `_BuildManaPacket(packet)`: `MSG_REPORT_MANA`. -/
def buildManaPacket (p : Player) (mana : UInt16) (packet : WorldPacket) : WorldPacket :=
  ((packet.initializeWith 0x45).extend (toBytes 2 p.extent.toNat)).extend
    (toBytes 2 mana.toNat)

def buildDrawFramePacket (p : Player) (frame : UInt8) (packet : WorldPacket) : WorldPacket :=
  ((packet.initializeWith 0x39).extend (toBytes 2 p.extent.toNat)).extend [frame]

/-- `_BuildEnchantsPacket(packet)`: `MSG_REPORT_ENCHANTMENT`. -/
def buildEnchantsPacket (p : Player) (auras : BitVec 32) (packet : WorldPacket) : WorldPacket :=
  ((packet.initializeWith 0x5A).extend (toBytes 2 p.extent.toNat)).extend (toBytes 4 auras.toNat)

/-- The change of the health at the start of `Player::Update`, with the packet for the player
and the one for all. -/
def updateHealth (p : Player) : Player × List WorldPacket × List WorldPacket :=
  if p.deltaHealth ≠ 0 then
    let p := { p with health := toFloat (p.health + p.deltaHealth) }
    let p := if p.maxHealth < p.health then { p with health := p.maxHealth } else p
    let p := if p.health ≤ 0 then p.die else p
    let p := { p with combinedHealth := toFloat (p.combinedHealth + p.deltaHealth) }
    let p := { p with deltaHealth := 0 }
    (p, [p.buildMyHealthPacket {}], [])
  else if p.combinedHealth ≠ 0 then
    ({ p with combinedHealth := 0 }, [], [p.buildDeltaHealthPacket {}])
  else (p, [], [])

/-- What `Unit::Update` does to the health, with the poison due or not. -/
def unitUpdate (p : Player) (poison : Bool) : Player :=
  let p := if p.isDead then { p with health := 0 } else p
  if poison then p.damage 1 else p

/-- The packets `Unit::Update` gives for all: for a frame that is drawn, and for enchantments that
have changed. -/
def unitPackets (p : Player) (frame : Option UInt8) (auras : Option (BitVec 32)) :
    List WorldPacket :=
  (frame.map fun f => p.buildDrawFramePacket f {}).toList ++
    (auras.map fun a => p.buildEnchantsPacket a {}).toList

/-- `Player::Update(time)`: the packet for the player, and those for all. The mana is what
`m_mana` is converted to, or none when it is 0. What `Die` has dequipped for it is left out. -/
def update (p : Player) (mana : Option UInt16) (poison : Bool) (frame : Option UInt8)
    (auras : Option (BitVec 32)) : Player × List WorldPacket × List WorldPacket :=
  let (p, own, all) := p.updateHealth
  let all := all ++ (mana.map fun m => p.buildManaPacket m {}).toList
  (p.unitUpdate poison, own, all ++ p.unitPackets frame auras)

end Player

/-- A player, and what `SendPacketToAll` was given in its updates. -/
structure Ledger where
  player : Player
  toAll : List WorldPacket := []
  deriving DecidableEq

/-- What happens to a player's health. -/
inductive Action where
  | damage (amount : Int)
  | heal (amount : Int)
  | update (mana : Option UInt16) (poison : Bool) (frame : Option UInt8)
      (auras : Option (BitVec 32))

def Ledger.apply (s : Ledger) : Action → Ledger
  | .damage amount => { s with player := s.player.damage amount }
  | .heal amount => { s with player := s.player.heal amount }
  | .update mana poison frame auras =>
      let (player, _, all) := s.player.update mana poison frame auras
      { player := player, toAll := s.toAll ++ all }

def Step (s : Ledger) (action : Action) (t : Ledger) : Prop := t = s.apply action

/-- A player to whom nothing has happened yet. -/
def start (extent : UInt16) (maxHealth health : Int) : Ledger :=
  { player := { extent := extent, maxHealth := maxHealth, health := health } }

/-- The change of health a packet reports, of signed sixteen bits. -/
def deltaOf (packet : WorldPacket) : Int :=
  if packet.opcode = 0x42 then (Int16.ofInt (fromBytes ((packet.storage.drop 2).take 2))).toInt
  else 0

/-- The changes that were broadcast, together. -/
def Ledger.reported (s : Ledger) : Int := (s.toAll.map deltaOf).sum

/-- An update that changes the health stays within its bounds, and without rounding; one that
broadcasts the combined change has one of sixteen bits. -/
def Faithful (s : Ledger) : Action → Prop
  | .update _ _ _ _ =>
      (s.player.deltaHealth ≠ 0 →
        0 ≤ s.player.health + s.player.deltaHealth ∧
          s.player.health + s.player.deltaHealth ≤ s.player.maxHealth ∧
          toFloat (s.player.health + s.player.deltaHealth) =
            s.player.health + s.player.deltaHealth ∧
          toFloat (s.player.combinedHealth + s.player.deltaHealth) =
            s.player.combinedHealth + s.player.deltaHealth) ∧
      (s.player.deltaHealth = 0 → 0 ≤ s.player.health ∧
        -32768 ≤ s.player.combinedHealth ∧ s.player.combinedHealth ≤ 32767)
  | _ => True

instance (s : Ledger) : (action : Action) → Decidable (Faithful s action)
  | .update _ _ _ _ => inferInstanceAs (Decidable (_ ∧ _))
  | .damage _ => .isTrue trivial
  | .heal _ => .isTrue trivial

/-! ### Numbers and packets -/

/-- A `float` holds the whole numbers of up to 24 bits. -/
theorem toFloat_of_small {x : Int} (small : x.natAbs < 1 <<< 24) : toFloat x = x := by
  have exponent : x.natAbs.log2 - 23 = 0 := by
    by_cases zero : x.natAbs = 0
    · simp [zero]
    · have bound : x.natAbs.log2 < 24 := (Nat.log2_lt zero).mpr small
      omega
  have whole : toFloat x = x.sign * (x.natAbs : Int) := by
    simp [toFloat, exponent, Nat.mod_one]
  rw [whole, Int.sign_mul_natAbs]

theorem toUInt16_toNat (x : Int) : ((toUInt16 x).toNat : Int) = x % 65536 := by
  have low : 0 ≤ x % 65536 := Int.emod_nonneg x (by decide)
  have high : x % 65536 < 65536 := Int.emod_lt_of_pos x (by decide)
  have same : (toUInt16 x).toNat = (x % 65536).toNat % 65536 := rfl
  rw [same]
  omega

/-- There is a change to report exactly when one shows in sixteen bits. -/
theorem toUInt16_pos_iff (x : Int) : 0 < toUInt16 x ↔ x % 65536 ≠ 0 := by
  have is := toUInt16_toNat x
  have zero : (0 : UInt16).toNat = 0 := rfl
  rw [UInt16.lt_iff_toNat_lt, zero]
  omega

/-- The packet of a change has opcode 0 when none shows in sixteen bits, and only then. -/
theorem Player.buildDeltaHealthPacket_opcode (p : Player) :
    (p.buildDeltaHealthPacket {}).opcode = 0 ↔ p.combinedHealth % 65536 = 0 := by
  unfold Player.buildDeltaHealthPacket
  constructor
  · intro silent
    by_contra shows
    rw [if_pos ((toUInt16_pos_iff _).mpr shows)] at silent
    simp [WorldPacket.extend] at silent
  · intro none
    rw [if_neg (by simp [toUInt16_pos_iff, none])]

/-- The packet of a change of sixteen bits reports that change. -/
theorem Player.deltaOf_buildDeltaHealthPacket {p : Player} (low : -32768 ≤ p.combinedHealth)
    (high : p.combinedHealth ≤ 32767) :
    deltaOf (p.buildDeltaHealthPacket {}) = p.combinedHealth := by
  unfold Player.buildDeltaHealthPacket
  split
  · have payload : ((([] ++ toBytes 2 p.extent.toNat) ++
        toBytes 2 (toUInt16 p.combinedHealth).toNat).drop 2).take 2 =
        toBytes 2 (toUInt16 p.combinedHealth).toNat := by
      simp [toBytes]
    have number := toUInt16_toNat p.combinedHealth
    have small := (toUInt16 p.combinedHealth).toNat_lt
    have value : deltaOf (({ ({} : WorldPacket) with opcode := 0x42 }.extend
        (toBytes 2 p.extent.toNat)).extend (toBytes 2 (toUInt16 p.combinedHealth).toNat)) =
        (Int16.ofInt (toUInt16 p.combinedHealth).toNat).toInt := by
      have fits : (toUInt16 p.combinedHealth).toNat % 256 ^ 2 =
          (toUInt16 p.combinedHealth).toNat := Nat.mod_eq_of_lt small
      simp only [deltaOf, WorldPacket.extend, payload, fromBytes_toBytes, fits, if_true]
    rw [value, Int16.toInt_ofInt, number]
    have size : (65536 : Int) = Int16.size := rfl
    rw [size, Int.emod_bmod]
    exact Int.bmod_eq_of_le low (Int.lt_of_le_of_lt high (by decide))
  · next none =>
      rw [toUInt16_pos_iff, not_not] at none
      have zero : p.combinedHealth = 0 := by omega
      rw [zero]
      rfl

/-! ### Updates -/

/-- What is reported and what is still to be reported is the change of the health. -/
structure Balanced (start : Int) (s : Ledger) : Prop where
  sum : s.reported + s.player.combinedHealth = s.player.health - start
  opcode : ∀ packet ∈ s.toAll, packet.opcode ≠ 0

theorem reported_append (player player' : Player) (packets packets' : List WorldPacket) :
    Ledger.reported { player := player, toAll := packets ++ packets' } =
      Ledger.reported { player := player', toAll := packets } + (packets'.map deltaOf).sum := by
  simp [Ledger.reported]

/-- An update within the bounds changes the health by what has come together. -/
theorem Player.updateHealth_changed {p : Player} (delta : p.deltaHealth ≠ 0)
    (alive : 0 ≤ p.health + p.deltaHealth) (within : p.health + p.deltaHealth ≤ p.maxHealth)
    (health : toFloat (p.health + p.deltaHealth) = p.health + p.deltaHealth)
    (combined : toFloat (p.combinedHealth + p.deltaHealth) = p.combinedHealth + p.deltaHealth) :
    ∃ own, p.updateHealth = ({ p with
      health := p.health + p.deltaHealth
      deltaHealth := 0
      combinedHealth := p.combinedHealth + p.deltaHealth }, own, []) := by
  have notAbove : ¬ p.maxHealth < p.health + p.deltaHealth := Int.not_lt.mpr within
  unfold Player.updateHealth
  simp only [delta, ne_eq, not_false_eq_true, if_true, health, notAbove, if_false]
  by_cases dead : p.health + p.deltaHealth ≤ 0
  · -- `Die` leaves the 0 the sum is
    have zero : p.health + p.deltaHealth = 0 := Int.le_antisymm dead alive
    simp [zero, Player.die, combined]
  · simp [dead, combined]

/-- The update of the health keeps the balance, and leaves the health at 0 or above. -/
theorem updateHealth_balanced {start : Int} {s : Ledger} {mana : Option UInt16} {poison : Bool}
    {frame : Option UInt8} {auras : Option (BitVec 32)} (balanced : Balanced start s)
    (faithful : Faithful s (.update mana poison frame auras))
    {player : Player} {own all : List WorldPacket}
    (updated : s.player.updateHealth = (player, own, all)) :
    Balanced start { player := player, toAll := s.toAll ++ all } ∧ 0 ≤ player.health := by
  obtain ⟨changes, still⟩ := faithful
  have sum := balanced.sum
  by_cases delta : s.player.deltaHealth = 0
  · obtain ⟨alive, low, high⟩ := still delta
    unfold Player.updateHealth at updated
    rw [if_neg (not_not.mpr delta)] at updated
    split at updated
    · next combined =>
        cases updated
        have told := s.player.deltaOf_buildDeltaHealthPacket low high
        refine ⟨⟨?_, ?_⟩, alive⟩
        · rw [reported_append _ s.player]
          simp only [List.map_cons, List.map_nil, List.sum_cons, List.sum_nil, told]
          change s.reported + (s.player.combinedHealth + 0) + 0 = s.player.health - start
          omega
        · intro packet mem
          rcases List.mem_append.mp mem with old | new
          · exact balanced.opcode packet old
          · cases List.mem_singleton.mp new
            intro silent
            have none := s.player.buildDeltaHealthPacket_opcode.mp silent
            omega
    · cases updated
      rw [List.append_nil]
      exact ⟨balanced, alive⟩
  · obtain ⟨alive, within, health, combined⟩ := changes delta
    obtain ⟨_, is⟩ := Player.updateHealth_changed delta alive within health combined
    rw [is] at updated
    cases updated
    rw [List.append_nil]
    refine ⟨⟨?_, balanced.opcode⟩, alive⟩
    change s.reported + (s.player.combinedHealth + s.player.deltaHealth) =
      s.player.health + s.player.deltaHealth - start
    omega

/-- Damage changes neither the health nor what is to be reported. -/
theorem Balanced.of_same {start : Int} {s : Ledger} (balanced : Balanced start s)
    {player : Player} (health : player.health = s.player.health)
    (combined : player.combinedHealth = s.player.combinedHealth) :
    Balanced start { s with player := player } := by
  refine ⟨?_, balanced.opcode⟩
  rw [health, combined]
  exact balanced.sum

theorem Player.damage_same (p : Player) (amount : Int) :
    (p.damage amount).health = p.health ∧ (p.damage amount).combinedHealth = p.combinedHealth := by
  unfold Player.damage
  split <;> exact ⟨rfl, rfl⟩

theorem Player.heal_same (p : Player) (amount : Int) :
    (p.heal amount).health = p.health ∧ (p.heal amount).combinedHealth = p.combinedHealth := by
  unfold Player.heal
  split <;> exact ⟨rfl, rfl⟩

/-- `Unit::Update` changes no health that is at 0 or above. -/
theorem Player.unitUpdate_same {p : Player} (alive : 0 ≤ p.health) (poison : Bool) :
    (p.unitUpdate poison).health = p.health ∧
      (p.unitUpdate poison).combinedHealth = p.combinedHealth := by
  have same : (if p.isDead then { p with health := 0 } else p) = p := by
    unfold Player.isDead
    split
    · next dead =>
        have zero : p.health = 0 := Int.le_antisymm (of_decide_eq_true dead) alive
        rw [← zero]
    · rfl
  unfold Player.unitUpdate
  rw [same]
  split
  · exact p.damage_same 1
  · exact ⟨rfl, rfl⟩

/-- Packets that are about something else are no part of the balance. -/
theorem Balanced.tell {start : Int} {s : Ledger} (balanced : Balanced start s)
    {packets : List WorldPacket}
    (other : ∀ packet ∈ packets, packet.opcode ≠ 0 ∧ packet.opcode ≠ 0x42) :
    Balanced start { s with toAll := s.toAll ++ packets } := by
  have unreported : (packets.map deltaOf).sum = 0 := by
    refine List.sum_eq_zero fun delta mem => ?_
    obtain ⟨packet, there, rfl⟩ := List.mem_map.mp mem
    exact if_neg (other packet there).2
  refine ⟨?_, fun packet mem => ?_⟩
  · rw [reported_append _ s.player, unreported, Int.add_zero]
    exact balanced.sum
  · rcases List.mem_append.mp mem with old | new
    · exact balanced.opcode packet old
    · exact (other packet new).1

theorem opcode_of_tells {packet : WorldPacket}
    (opcode : packet.opcode = 0x45 ∨ packet.opcode = 0x39 ∨ packet.opcode = 0x5A) :
    packet.opcode ≠ 0 ∧ packet.opcode ≠ 0x42 := by
  rcases opcode with is | is | is <;> rw [is] <;> decide

/-- What an update tells of the mana, the frame and the enchantments has other opcodes. -/
theorem Player.told_opcode (p : Player) {mana : Option UInt16} {frame : Option UInt8}
    {auras : Option (BitVec 32)} {packet : WorldPacket}
    (mem : packet ∈ (mana.map fun m => p.buildManaPacket m {}).toList ++
      p.unitPackets frame auras) : packet.opcode ≠ 0 ∧ packet.opcode ≠ 0x42 := by
  apply opcode_of_tells
  simp only [unitPackets, List.mem_append, Option.mem_toList, Option.map_eq_some_iff] at mem
  rcases mem with ⟨_, _, rfl⟩ | ⟨_, _, rfl⟩ | ⟨_, _, rfl⟩
  · exact .inl rfl
  · exact .inr (.inl rfl)
  · exact .inr (.inr rfl)

/-- A step that is faithful keeps the balance. -/
theorem Balanced.step {start : Int} {s t : Ledger} {action : Action} (balanced : Balanced start s)
    (step : guarded Faithful Step s action t) : Balanced start t := by
  obtain ⟨faithful, rfl⟩ := step
  cases action with
  | damage amount =>
      obtain ⟨health, combined⟩ := s.player.damage_same amount
      exact balanced.of_same health combined
  | heal amount =>
      obtain ⟨health, combined⟩ := s.player.heal_same amount
      exact balanced.of_same health combined
  | update mana poison frame auras =>
      obtain ⟨⟨player, own, all⟩, updated⟩ : ∃ out, s.player.updateHealth = out := ⟨_, rfl⟩
      obtain ⟨after, alive⟩ := updateHealth_balanced balanced faithful updated
      obtain ⟨health, combined⟩ := Player.unitUpdate_same alive poison
      have is : s.apply (.update mana poison frame auras) = {
          player := player.unitUpdate poison
          toAll := s.toAll ++ all ++ ((mana.map fun m => player.buildManaPacket m {}).toList ++
            player.unitPackets frame auras) } := by
        simp only [Ledger.apply, Player.update, updated, List.append_assoc]
      rw [is]
      exact (after.tell fun _ mem => player.told_opcode mem).of_same health combined

theorem balanced_start (extent : UInt16) (maxHealth health : Int) :
    Balanced health (start extent maxHealth health) where
  sum := by simp [start, Ledger.reported]
  opcode := by simp [start]

/-- In a run whose updates stay within the bounds, what is reported to the others is the change of
the health whenever nothing is left to report, and no packet for all has opcode 0. Damage and
healing between the updates are any; what is reported is read back from the packets. -/
theorem reported_eq_change (extent : UInt16) (maxHealth health : Int) {actions : List Action}
    {s : Ledger} (run : Run (guarded Faithful Step) (start extent maxHealth health) actions s) :
    (s.player.deltaHealth = 0 → s.player.combinedHealth = 0 →
      s.reported = s.player.health - health) ∧
    ∀ packet ∈ s.toAll, packet.opcode ≠ 0 := by
  have kept : Balanced health s :=
    run.invariant (fun _ _ _ => Balanced.step) (balanced_start extent maxHealth health)
  have sum := kept.sum
  refine ⟨?_, kept.opcode⟩
  intro _ none
  omega

/-- A player of 100 is hit for 30 and healed by 10, and an update reports that it lost 20. -/
theorem reported_eq_change_hit : ∃ s, Run (guarded Faithful Step) (start 7 100 100)
      [.damage 30, .heal 10, .update none false none none,
        .update (some 5) false (some 3) (some 1)] s ∧
    (s.player.deltaHealth = 0 → s.player.combinedHealth = 0 →
      s.reported = s.player.health - 100) ∧
    ∀ packet ∈ s.toAll, packet.opcode ≠ 0 := by
  have run : Run (guarded Faithful Step) (start 7 100 100)
      [.damage 30, .heal 10, .update none false none none,
        .update (some 5) false (some 3) (some 1)] _ :=
    .cons ⟨trivial, rfl⟩ (.cons ⟨trivial, rfl⟩ (.cons ⟨by decide, rfl⟩
      (.single ⟨by decide, rfl⟩)))
  exact ⟨_, run, reported_eq_change 7 100 100 run⟩

/-- A player of 100 that is healed by 10 is reported to have gained 10. -/
theorem reported_ne_change : ∃ s, Run Step (start 7 100 100)
      [.heal 10, .update none false none none, .update none false none none] s ∧
    s.player.deltaHealth = 0 ∧ s.player.combinedHealth = 0 ∧
    s.reported ≠ s.player.health - 100 := by
  refine ⟨_, .cons rfl (.cons rfl (.single rfl)), ?_⟩
  decide

end Health

end NoxServer
