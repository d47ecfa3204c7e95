import Mathlib.Data.Nat.Sqrt
import Mathlib.Tactic.Linarith
import Mathlib.Tactic.Ring

/-!
The sounds of an object (`ObjectAccessor::EmitSoundEvent`).

Every player hears a sound of an object, the less the farther away. But the number whose root is
taken for the distance subtracts the squares of the coordinates and not the coordinates: it is
negative for a player to the east of the object on its line, and grows with the place on the map as
much as with the distance. Where the volume follows the distance is what remains of that
(`follows_distance_iff`), and there is no place on the map where it does for all players
(`exists_unheard`).
-/

namespace NoxServer.Accessor

/-- `GetPositionX()` and `GetPositionY()`. -/
@[ext]
structure Place where
  x : UInt16
  y : UInt16
  deriving DecidableEq

/-- The number under the root. -/
def radicand (object play : Place) : Int :=
  ((object.x.toNat : Int) ^ 2 - (play.x.toNat : Int) ^ 2) +
    ((play.y.toNat : Int) ^ 2 - (object.y.toNat : Int) ^ 2)

/-- The root as an `int`. Of a negative number it is not one, and the conversion is undefined. -/
def distance (undefined : Int) (radicand : Int) : Int :=
  if 0 ≤ radicand then Nat.sqrt radicand.toNat else undefined

/-- `100-distance*.25` as an `int`, and 0 where it is less; the argument has 8 bits. -/
def volumeAt (distance : Int) : UInt8 :=
  let distance := Int.tdiv (400 - distance) 4
  if distance < 0 then 0 else UInt8.ofInt distance

/-- A call of `_SendAudioPlayerEvent` for a player. -/
structure AudioEvent where
  play : Place
  sound : UInt16
  volume : UInt8
  balance : UInt8
  deriving DecidableEq

/-- `EmitSoundEvent`, to the players in the order of the map. -/
def emitSoundEvent (undefined : Int) (soundevent : UInt16) (object : Place)
    (players : List Place) : List AudioEvent :=
  players.map fun play =>
    { play := play, sound := soundevent,
      volume := volumeAt (distance undefined (radicand object play)), balance := 0 }

/-- `Object::EmitSound`. -/
def emitSound (undefined : Int) (soundevent : UInt16) (object : Place) (players : List Place) :
    List AudioEvent :=
  emitSoundEvent undefined soundevent object players

/-! ### The volume of a distance -/

theorem volumeAt_toNat (d : Nat) : (volumeAt d).toNat = 100 - (d + 3) / 4 := by
  rw [volumeAt]
  by_cases near : d ≤ 400
  · have quarter : Int.tdiv (400 - d) 4 = (100 - (d + 3) / 4 : Nat) := by
      rw [Int.tdiv_eq_ediv_of_nonneg (by omega)]
      omega
    rw [quarter, if_neg (by omega), UInt8.ofInt, UInt8.toNat_ofNat']
    omega
  · have quarter : Int.tdiv (400 - d) 4 = -((d - 400) / 4 : Nat) := by
      rw [show (400 - d : Int) = -((d - 400 : Nat) : Int) by omega, Int.neg_tdiv,
        Int.tdiv_eq_ediv_of_nonneg (by omega)]
      rfl
    have silent : 100 - (d + 3) / 4 = 0 := by omega
    rw [quarter, silent]
    split
    · rfl
    · next none =>
        have zero : (d - 400) / 4 = 0 := by omega
        rw [zero]
        rfl

theorem distance_of_nonneg {undefined r : Int} (nonneg : 0 ≤ r) :
    distance undefined r = (Nat.sqrt r.toNat : Int) := if_pos nonneg

/-- A volume is smaller by the steps of 4 that only the farther root reaches. -/
theorem volume_le_iff {undefined r r' : Int} (nonneg : 0 ≤ r) (nonneg' : 0 ≤ r') :
    volumeAt (distance undefined r') ≤ volumeAt (distance undefined r) ↔
      ∀ n : Nat, n < 100 → ((4 * n + 1) ^ 2 : Int) ≤ r → ((4 * n + 1) ^ 2 : Int) ≤ r' := by
  have reaches : ∀ {r : Int}, 0 ≤ r → ∀ n : Nat,
      ((4 * n + 1) ^ 2 : Int) ≤ r ↔ 4 * n + 1 ≤ Nat.sqrt r.toNat := by
    intro r nonneg n
    rw [Nat.le_sqrt', ← Int.ofNat_le, Int.toNat_of_nonneg nonneg]
    push_cast
    rfl
  rw [distance_of_nonneg nonneg, distance_of_nonneg nonneg', UInt8.le_iff_toNat_le, volumeAt_toNat,
    volumeAt_toNat]
  simp only [reaches nonneg, reaches nonneg']
  generalize Nat.sqrt r.toNat = d
  generalize Nat.sqrt r'.toNat = d'
  constructor
  · intro le n small reached
    omega
  · intro steps
    have step := steps ((d' + 3) / 4)
    omega

/-! ### The law -/

/-- The square of the distance of a player. -/
def apart (object play : Place) : Int :=
  ((play.x.toNat : Int) - object.x.toNat) ^ 2 + ((play.y.toNat : Int) - object.y.toNat) ^ 2

/-- No root of a negative number is taken, and of two players the nearer one does not hear less. -/
structure FollowsDistance (undefined : Int) (soundevent : UInt16) (object : Place)
    (players : List Place) : Prop where
  nonneg : ∀ play ∈ players, 0 ≤ radicand object play
  monotone : ∀ e ∈ emitSound undefined soundevent object players,
    ∀ e' ∈ emitSound undefined soundevent object players,
      apart object e.play ≤ apart object e'.play → e'.volume ≤ e.volume

theorem radicand_nonneg_iff {object play : Place} : 0 ≤ radicand object play ↔
    play.x.toNat ^ 2 + object.y.toNat ^ 2 ≤ object.x.toNat ^ 2 + play.y.toNat ^ 2 := by
  rw [radicand]
  zify
  constructor
  · intro nonneg
    linarith
  · intro le
    linarith

theorem step_le_radicand_iff {object play : Place} {n : Nat} :
    ((4 * n + 1) ^ 2 : Int) ≤ radicand object play ↔
      (4 * n + 1) ^ 2 + play.x.toNat ^ 2 + object.y.toNat ^ 2 ≤
        object.x.toNat ^ 2 + play.y.toNat ^ 2 := by
  rw [radicand]
  zify
  constructor
  · intro le
    linarith
  · intro le
    linarith

/-- The law in terms of what the root is taken of. -/
theorem followsDistance_iff_radicand {undefined : Int} {soundevent : UInt16} {object : Place}
    {players : List Place} : FollowsDistance undefined soundevent object players ↔
      (∀ play ∈ players, 0 ≤ radicand object play) ∧
      ∀ near ∈ players, ∀ far ∈ players, apart object near ≤ apart object far →
        ∀ n : Nat, n < 100 → ((4 * n + 1) ^ 2 : Int) ≤ radicand object near →
          ((4 * n + 1) ^ 2 : Int) ≤ radicand object far := by
  constructor
  · rintro ⟨nonneg, monotone⟩
    refine ⟨nonneg, ?_⟩
    intro near memNear far memFar nearer
    have louder := monotone _ (List.mem_map_of_mem memNear) _ (List.mem_map_of_mem memFar) nearer
    exact (volume_le_iff (nonneg near memNear) (nonneg far memFar)).mp louder
  · rintro ⟨nonneg, steps⟩
    refine ⟨nonneg, ?_⟩
    intro e mem e' mem' nearer
    obtain ⟨near, memNear, rfl⟩ := List.mem_map.mp mem
    obtain ⟨far, memFar, rfl⟩ := List.mem_map.mp mem'
    exact (volume_le_iff (nonneg near memNear) (nonneg far memFar)).mpr
      (steps near memNear far memFar nearer)

/-- **The volume follows the distance exactly where the squares allow it**: none is a player's for
whom they are negative, and none of the hundred steps of the volume divides two players the wrong
way round. -/
theorem follows_distance_iff (undefined : Int) (soundevent : UInt16) (object : Place)
    (players : List Place) : FollowsDistance undefined soundevent object players ↔
      (∀ play ∈ players, play.x.toNat ^ 2 + object.y.toNat ^ 2 ≤
        object.x.toNat ^ 2 + play.y.toNat ^ 2) ∧
      ∀ near ∈ players, ∀ far ∈ players, apart object near ≤ apart object far → ∀ n, n < 100 →
        (4 * n + 1) ^ 2 + near.x.toNat ^ 2 + object.y.toNat ^ 2 ≤
          object.x.toNat ^ 2 + near.y.toNat ^ 2 →
        (4 * n + 1) ^ 2 + far.x.toNat ^ 2 + object.y.toNat ^ 2 ≤
          object.x.toNat ^ 2 + far.y.toNat ^ 2 := by
  simp only [← radicand_nonneg_iff, ← step_le_radicand_iff]
  exact followsDistance_iff_radicand

/-- A player one step to the east of a sound is at the root of a negative number. -/
theorem east_unheard :
    radicand ⟨100, 100⟩ ⟨101, 100⟩ = -201 ∧
      ¬FollowsDistance (-2 ^ 31) 0x100 ⟨100, 100⟩ [⟨101, 100⟩] := by
  refine ⟨by decide, ?_⟩
  intro follows
  exact absurd (follows.nonneg _ List.mem_cons_self) (by decide)

/-- There is no place on the map where the volume follows the distance for all players. -/
theorem exists_unheard (undefined : Int) (soundevent : UInt16) (object : Place) :
    ∃ players, ¬FollowsDistance undefined soundevent object players := by
  have width := object.x.toNat_lt
  by_cases east : object.x.toNat + 1 < 2 ^ 16
  · refine ⟨[⟨UInt16.ofNat (object.x.toNat + 1), object.y⟩], ?_⟩
    intro follows
    have nonneg := follows.nonneg _ List.mem_cons_self
    have value : (UInt16.ofNat (object.x.toNat + 1)).toNat = object.x.toNat + 1 :=
      UInt16.toNat_ofNat_of_lt' east
    rw [radicand, value] at nonneg
    push_cast at nonneg
    linarith [(Int.natCast_nonneg object.x.toNat)]
  · by_cases north : object.y.toNat = 0
    · refine ⟨[⟨65534, 0⟩, ⟨65535, 1⟩], ?_⟩
      intro follows
      have corner : object = ⟨65535, 0⟩ := by
        have full : object.x.toNat = UInt16.toNat 65535 := by
          rw [show UInt16.toNat 65535 = 65535 from rfl]
          omega
        exact Place.ext (UInt16.toNat_inj.mp full) (UInt16.toNat_inj.mp north)
      rw [followsDistance_iff_radicand, corner] at follows
      have step := follows.2 ⟨65534, 0⟩ (by simp) ⟨65535, 1⟩ (by simp) (by decide) 1 (by decide)
        (by decide)
      exact absurd step (by decide)
    · refine ⟨[⟨object.x, UInt16.ofNat (object.y.toNat - 1)⟩], ?_⟩
      intro follows
      have nonneg := follows.nonneg _ List.mem_cons_self
      have height := object.y.toNat_lt
      obtain ⟨y, above⟩ := Nat.exists_eq_succ_of_ne_zero north
      have value : (UInt16.ofNat (object.y.toNat - 1)).toNat = y := by
        have small : object.y.toNat - 1 < UInt16.size := Nat.lt_of_le_of_lt (Nat.sub_le _ _) height
        rw [UInt16.toNat_ofNat_of_lt' small, above]
        rfl
      rw [radicand, value, above] at nonneg
      push_cast at nonneg
      linarith [Int.natCast_nonneg y]

end NoxServer.Accessor
