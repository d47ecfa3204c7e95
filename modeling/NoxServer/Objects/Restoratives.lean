import NoxServer.Objects.Inventory
import NoxServer.Objects.Unit

/-!
What food, mushrooms and potions restore (`WorldObject::Use`, `Object::Heal`, `Object::ManaDrain`).

Food and mushrooms do what they are for. The subclasses of the potions are numbers, which are tested
as if they were bits, so that each of the three potions is one of mana; and a potion of mana is
drunk by those who can have none (`restored_iff`).

The numbers are as in the model of the health. What a use does to the slots and to the position of
the object is in `Objects.use`, and the sounds are left out.
-/

namespace NoxServer

namespace Restoratives

open NoxServer.Health NoxServer.Units NoxServer.Objects

/-- What a use of an object changes of a player. -/
structure Patient where
  unit : Units.Unit := {}
  maxMana : Int := 0
  mana : Int := 0
  inventory : Finset Ref := ∅
  removeList : List Ref := []

namespace Patient

/-- `GetMaxMana()`, of sixteen bits. -/
def getMaxMana (p : Patient) : Int16 := Int16.ofInt p.maxMana

def isPoisoned (p : Patient) : Bool := p.unit.poison ≠ 0

def heal (p : Patient) (amount : Int) : Patient :=
  { p with unit := { p.unit with health := p.unit.health.heal amount } }

def manaDrain (p : Patient) (damage : Int) : Patient :=
  if p.maxMana ≤ 0 then p
  else
    let mana := toFloat (p.mana - damage)
    { p with mana := if mana < 0 then 0 else if p.maxMana < mana then p.maxMana else mana }

def poison (p : Patient) (poisoned : UInt8) (poisoner : UInt16) : Patient :=
  { p with unit := p.unit.poisonBy poisoned poisoner }

def setEnchant (p : Patient) (enchant : UnitEnchantType) (frames : Int16 := 0) : Patient :=
  { p with unit := p.unit.setEnchant enchant frames }

/-- The end of the use handlers: `RemoveFromInventory` and `AddObjectToRemoveList`. -/
def consume (p : Patient) (obj : Ref) : Patient :=
  { p with inventory := p.inventory.erase obj, removeList := p.removeList.insert obj }

/-- The subclasses of the other potions, in the order in which they are tested. -/
def enchantPotions : List (UInt32 × UnitEnchantType) :=
  [(0x57, .hasted), (0x58, .invisible), (0x59, .shield), (0x5A, .protectFromFire),
    (0x5B, .protectFromElectricity), (0x5C, .protectFromPoison), (0x5D, .invulnerable),
    (0x5E, .detecting), (0x5F, .vampirism)]

def potionUse (p : Patient) (obj : Ref) (info : ObjectInfo) : Patient :=
  let type := info.subclass
  let amt := info.amount
  if type &&& subclassManaPotion ≠ 0 then
    if p.getMaxMana = 0 then (p.manaDrain (toFloat (0 - amt))).consume obj else p
  else if type &&& subclassHealthPotion ≠ 0 then (p.heal (toFloat (0 - amt))).consume obj
  else if type &&& subclassCurePoisonPotion ≠ 0 then
    if p.isPoisoned then (p.poison 0 0).consume obj else p
  else
    match enchantPotions.find? fun potion => type &&& potion.1 ≠ 0 with
    | some potion => (p.setEnchant potion.2).consume obj
    | none => p.consume obj

def consumeUse (p : Patient) (obj : Ref) (info : ObjectInfo) : Patient :=
  (p.heal (toFloat info.amount)).consume obj

def consumeConfuseUse (p : Patient) (obj : Ref) (info : ObjectInfo) : Patient :=
  ((p.setEnchant .confused 90).heal (toFloat info.amount)).consume obj

def mushroomUse (p : Patient) (obj : Ref) : Patient :=
  ((p.poison 0 0).setEnchant .confused 90).consume obj

/-- `Use(plr)` of an object, with its entry. -/
def use (p : Patient) (obj : Ref) (info : ObjectInfo) : Patient :=
  match info.use with
  | some .potion => p.potionUse obj info
  | some .consume => p.consumeUse obj info
  | some .consumeConfuse => p.consumeConfuseUse obj info
  | some .mushroom => p.mushroomUse obj
  | none => p

/-- The health step of `Player::Update`. -/
def updateHealth (p : Patient) : Patient :=
  { p with unit := { p.unit with health := p.unit.health.updateHealth.1 } }

end Patient

/-! ### What restoratives are for -/

/-- The kinds of items that restore. -/
inductive Restorative where
  | food
  | mushroom
  | healthPotion
  | manaPotion
  | curePoisonPotion
  deriving DecidableEq

/-- An object is of a kind. -/
def IsOf (info : ObjectInfo) : Restorative → Prop
  | .food => info.use = some .consume ∨ info.use = some .consumeConfuse
  | .mushroom => info.use = some .mushroom
  | .healthPotion => info.use = some .potion ∧ info.subclass = subclassHealthPotion
  | .manaPotion => info.use = some .potion ∧ info.subclass = subclassManaPotion
  | .curePoisonPotion => info.use = some .potion ∧ info.subclass = subclassCurePoisonPotion

/-- A living player with no pending change has the object; its numbers are within their bounds, and
a `float` holds them and the sums. -/
structure Ready (p : Patient) (obj : Ref) (info : ObjectInfo) : Prop where
  living : 0 < p.unit.health.health
  settled : p.unit.health.deltaHealth = 0
  health_le : p.unit.health.health ≤ p.unit.health.maxHealth
  mana_nonneg : 0 ≤ p.mana
  mana_le : p.mana ≤ p.maxMana
  held : obj ∈ p.inventory
  amount_nonneg : 0 ≤ info.amount
  amount_whole : toFloat info.amount = info.amount
  health_whole : toFloat (p.unit.health.health + info.amount) = p.unit.health.health + info.amount
  mana_whole : toFloat (p.mana + info.amount) = p.mana + info.amount

/-- The item could have no effect. -/
def Idle (p : Patient) : Restorative → Prop
  | .manaPotion => p.maxMana = 0
  | .curePoisonPotion => p.unit.poison = 0
  | _ => False

/-- What is to come of the use of an item, for the player before and after. -/
structure Restored (p q : Patient) (obj : Ref) (info : ObjectInfo) (kind : Restorative) :
    Prop where
  health : q.unit.health.health =
    if kind = .food ∨ kind = .healthPotion then
      min p.unit.health.maxHealth (p.unit.health.health + info.amount)
    else p.unit.health.health
  mana : q.mana =
    if kind = .manaPotion ∧ 0 < p.maxMana then min p.maxMana (p.mana + info.amount) else p.mana
  poison : kind = .curePoisonPotion ∨ kind = .mushroom → q.unit.poison = 0
  health_le : p.unit.health.health ≤ q.unit.health.health
  mana_le : p.mana ≤ q.mana
  stays : obj ∈ q.inventory ↔ Idle p kind

/-- When an item does what it is for. -/
def Works (p : Patient) (info : ObjectInfo) : Restorative → Prop
  | .food | .mushroom => True
  | .healthPotion =>
      p.getMaxMana = 0 ∧
        (info.amount = 0 ∨ p.unit.health.health = p.unit.health.maxHealth) ∧
        (p.maxMana = 0 ∨ info.amount = 0 ∨ p.mana = p.maxMana)
  | .manaPotion => p.getMaxMana = 0 ∧ p.maxMana ≠ 0
  | .curePoisonPotion => p.getMaxMana ≠ 0 ∧ p.unit.poison = 0

section Numbers

theorem toFloat_neg (x : Int) : toFloat (-x) = -toFloat x := by
  unfold toFloat
  rw [Int.natAbs_neg, Int.sign_neg, Int.neg_mul]

end Numbers

section Uses

variable {p : Patient} {obj : Ref} {info : ObjectInfo}

/-- A potion that is tested for mana is one of mana. -/
theorem potionUse_of_mana (mana : info.subclass &&& subclassManaPotion ≠ 0) :
    p.potionUse obj info =
      if p.getMaxMana = 0 then (p.manaDrain (toFloat (0 - info.amount))).consume obj else p := by
  unfold Patient.potionUse
  exact if_pos mana

/-- What the wrong sign makes of the drain. -/
theorem manaDrain_neg (ready : Ready p obj info) :
    p.manaDrain (toFloat (0 - info.amount)) =
      if p.maxMana = 0 then p else { p with mana := min p.maxMana (p.mana + info.amount) } := by
  have amount := ready.amount_nonneg
  have low := ready.mana_nonneg
  have high := ready.mana_le
  have drain : toFloat (p.mana - toFloat (0 - info.amount)) = p.mana + info.amount := by
    rw [Int.zero_sub, toFloat_neg, ready.amount_whole, Int.sub_neg, ready.mana_whole]
  unfold Patient.manaDrain
  by_cases none : p.maxMana = 0
  · rw [if_pos none.le, if_pos none]
  · rw [if_neg (by omega), if_neg none]
    dsimp only
    rw [drain, if_neg (by omega)]
    congr 1
    split <;> omega

/-- Without a pending change the next update leaves the health. -/
theorem updateHealth_of_settled {q : Health.Player} (settled : q.deltaHealth = 0) :
    q.updateHealth.1.health = q.health := by
  unfold Health.Player.updateHealth
  rw [if_neg (not_not.mpr settled)]
  split <;> rfl

/-- What heals is added by the next update, up to the maximum. -/
theorem updateHealth_heal {q : Health.Player} {amount : Int} (living : 0 < q.health)
    (settled : q.deltaHealth = 0) (le : q.health ≤ q.maxHealth) (nonneg : 0 ≤ amount)
    (whole : toFloat amount = amount) (sum : toFloat (q.health + amount) = q.health + amount) :
    (q.heal (toFloat amount)).updateHealth.1.health = min q.maxHealth (q.health + amount) := by
  have alive : q.isDead = false := decide_eq_false (Int.not_le.mpr living)
  have healed : q.heal (toFloat amount) = { q with deltaHealth := amount } := by
    simp [Health.Player.heal, alive, settled, whole]
  rw [healed]
  by_cases none : amount = 0
  · rw [updateHealth_of_settled none]
    dsimp only
    omega
  · unfold Health.Player.updateHealth
    dsimp only
    rw [if_pos none, sum]
    split
    · next more =>
        have notDead : ¬ q.maxHealth ≤ 0 := by omega
        simp only [notDead, if_false]
        omega
    · next fits =>
        have notDead : ¬ q.health + amount ≤ 0 := by omega
        simp only [notDead, if_false]
        omega

/-- What is consumed is not with the player. -/
theorem not_mem_consume (q : Patient) : obj ∉ (q.consume obj).updateHealth.inventory :=
  Finset.notMem_erase obj _

end Uses

/-! ### Each kind -/

section Kinds

variable {p : Patient} {obj : Ref} {info : ObjectInfo}

/-- Food does what it is for: the health rises by its amount, up to the maximum, in the next update.
-/
theorem restored_food (ready : Ready p obj info) (is : IsOf info .food) :
    Restored p (p.use obj info).updateHealth obj info .food := by
  have healed := updateHealth_heal ready.living ready.settled ready.health_le ready.amount_nonneg
    ready.amount_whole ready.health_whole
  have more : p.unit.health.health ≤
      min p.unit.health.maxHealth (p.unit.health.health + info.amount) :=
    le_min ready.health_le (Int.le_add_of_nonneg_right ready.amount_nonneg)
  have confused : (p.unit.setEnchant .confused 90).health = p.unit.health := by
    obtain ⟨out, same⟩ := p.unit.setEnchant_eq .confused 90
    rw [same]
  rcases is with is | is
  · have used : p.use obj info = (p.heal (toFloat info.amount)).consume obj := by
      simp [Patient.use, is, Patient.consumeUse]
    rw [used]
    exact ⟨healed, rfl, nofun, healed ▸ more, le_rfl, iff_of_false (not_mem_consume _) id⟩
  · have used : p.use obj info =
        ((p.setEnchant .confused 90).heal (toFloat info.amount)).consume obj := by
      simp [Patient.use, is, Patient.consumeConfuseUse]
    have healed' : (((p.setEnchant .confused 90).heal (toFloat info.amount)).consume
        obj).updateHealth.unit.health.health =
          min p.unit.health.maxHealth (p.unit.health.health + info.amount) := by
      rw [← healed, ← confused]
      rfl
    rw [used]
    exact ⟨healed', rfl, nofun, healed' ▸ more, le_rfl, iff_of_false (not_mem_consume _) id⟩

theorem restored_mushroom (ready : Ready p obj info) (is : IsOf info .mushroom) :
    Restored p (p.use obj info).updateHealth obj info .mushroom := by
  have used : p.use obj info = ((p.poison 0 0).setEnchant .confused 90).consume obj := by
    simp [Patient.use, show info.use = some .mushroom from is, Patient.mushroomUse]
  obtain ⟨out, same⟩ := (p.unit.poisonBy 0 0).setEnchant_eq .confused 90
  have unit : ((p.poison 0 0).setEnchant .confused 90).unit =
      (p.unit.poisonBy 0 0).setEnchant .confused 90 := rfl
  have health : (((p.poison 0 0).setEnchant .confused 90).consume
      obj).updateHealth.unit.health.health = p.unit.health.health := by
    refine Eq.trans ?_ (updateHealth_of_settled ready.settled)
    show (((p.poison 0 0).setEnchant .confused 90).unit.health.updateHealth.1.health) = _
    rw [unit, same]
    rfl
  rw [used]
  refine ⟨health, rfl, fun _ => ?_, health.ge, le_rfl, iff_of_false (not_mem_consume _) id⟩
  show ((p.poison 0 0).setEnchant .confused 90).unit.poison = 0
  rw [unit, same]
  rfl

/-- What each of the three potions does. -/
theorem use_potion (ready : Ready p obj info) (potion : info.use = some .potion)
    (mana : info.subclass &&& subclassManaPotion ≠ 0) :
    let q := (p.use obj info).updateHealth
    q.unit.health.health = p.unit.health.health ∧ q.unit.poison = p.unit.poison ∧
      q.mana = (if p.getMaxMana = 0 ∧ p.maxMana ≠ 0 then min p.maxMana (p.mana + info.amount)
        else p.mana) ∧
      (obj ∈ q.inventory ↔ p.getMaxMana ≠ 0) := by
  have used : p.use obj info =
      if p.getMaxMana = 0 then (p.manaDrain (toFloat (0 - info.amount))).consume obj else p := by
    unfold Patient.use
    rw [potion]
    exact potionUse_of_mana mana
  have health := updateHealth_of_settled ready.settled
  dsimp only
  rw [used, manaDrain_neg ready]
  by_cases small : p.getMaxMana = 0
  · rw [if_pos small]
    by_cases none : p.maxMana = 0
    · rw [if_pos none]
      refine ⟨health, rfl, ?_, iff_of_false (not_mem_consume _) (not_not.mpr small)⟩
      rw [if_neg fun both => both.2 none]
      rfl
    · rw [if_neg none]
      refine ⟨health, rfl, ?_, iff_of_false (not_mem_consume _) (not_not.mpr small)⟩
      rw [if_pos ⟨small, none⟩]
      rfl
  · rw [if_neg small]
    refine ⟨health, rfl, ?_, iff_of_true ready.held small⟩
    rw [if_neg fun both => small both.1]
    rfl

theorem restored_healthPotion_iff (ready : Ready p obj info) (is : IsOf info .healthPotion) :
    Restored p (p.use obj info).updateHealth obj info .healthPotion ↔
      Works p info .healthPotion := by
  have bits : info.subclass &&& subclassManaPotion ≠ 0 := by
    rw [is.2]
    decide
  obtain ⟨health, poison, mana, held⟩ := use_potion ready is.1 bits
  obtain ⟨-, -, health_le, -, mana_le, -, amount, -, -, -⟩ := ready
  constructor
  · intro restored
    have small : p.getMaxMana = 0 := by
      by_contra large
      exact restored.stays.mp (held.mpr large)
    have healed := restored.health
    have kept := restored.mana.trans (if_neg (by simp))
    rw [health, if_pos (.inr rfl)] at healed
    rw [mana] at kept
    refine ⟨small, by omega, ?_⟩
    by_cases none : p.maxMana = 0
    · exact .inl none
    · rw [if_pos ⟨small, none⟩] at kept
      omega
  · rintro ⟨small, full, same⟩
    have kept : (p.use obj info).updateHealth.mana = p.mana := by
      rw [mana]
      split
      · omega
      · rfl
    refine ⟨?_, ?_, nofun, health.ge, kept.ge, iff_of_false ?_ id⟩
    · rw [health, if_pos (.inr rfl)]
      omega
    · rw [kept, if_neg (by simp)]
    · exact fun mem => held.mp mem small

theorem restored_manaPotion_iff (ready : Ready p obj info) (is : IsOf info .manaPotion) :
    Restored p (p.use obj info).updateHealth obj info .manaPotion ↔
      Works p info .manaPotion := by
  have bits : info.subclass &&& subclassManaPotion ≠ 0 := by
    rw [is.2]
    decide
  obtain ⟨health, poison, mana, held⟩ := use_potion ready is.1 bits
  have none_small (none : p.maxMana = 0) : p.getMaxMana = 0 := by
    rw [Patient.getMaxMana, none]
    rfl
  obtain ⟨-, -, health_le, low, mana_le, -, amount, -, -, -⟩ := ready
  constructor
  · intro restored
    have small : p.getMaxMana = 0 := by
      by_contra large
      exact large (none_small (restored.stays.mp (held.mpr large)))
    exact ⟨small, fun none => held.mp (restored.stays.mpr none) small⟩
  · rintro ⟨small, some⟩
    rw [if_pos ⟨small, some⟩] at mana
    refine ⟨?_, ?_, nofun, health.ge, by omega, iff_of_false (fun mem => held.mp mem small) some⟩
    · rw [health, if_neg (by decide)]
    · rw [mana, if_pos ⟨rfl, by omega⟩]

theorem restored_curePoisonPotion_iff (ready : Ready p obj info)
    (is : IsOf info .curePoisonPotion) :
    Restored p (p.use obj info).updateHealth obj info .curePoisonPotion ↔
      Works p info .curePoisonPotion := by
  have bits : info.subclass &&& subclassManaPotion ≠ 0 := by
    rw [is.2]
    decide
  obtain ⟨health, poison, mana, held⟩ := use_potion ready is.1 bits
  constructor
  · intro restored
    -- no poison is cured
    have well : p.unit.poison = 0 := poison ▸ restored.poison (.inl rfl)
    exact ⟨held.mp (restored.stays.mpr well), well⟩
  · rintro ⟨large, well⟩
    rw [if_neg fun both => large both.1] at mana
    refine ⟨?_, ?_, fun _ => poison.trans well, health.ge, mana.ge,
      iff_of_true (held.mpr large) well⟩
    · rw [health, if_neg (by decide)]
    · rw [mana, if_neg (by simp)]

end Kinds

/-- Food and mushrooms always do what they are for. A health potion does only for those who have no
mana and need no health, a mana potion only where the maximum has none of the lowest sixteen bits
but is not 0, and a cure only for those who have mana and no poison. -/
theorem restored_iff {p : Patient} {obj : Ref} {info : ObjectInfo} {kind : Restorative}
    (ready : Ready p obj info) (is : IsOf info kind) :
    Restored p (p.use obj info).updateHealth obj info kind ↔ Works p info kind := by
  cases kind with
  | food => exact iff_of_true (restored_food ready is) trivial
  | mushroom => exact iff_of_true (restored_mushroom ready is) trivial
  | healthPotion => exact restored_healthPotion_iff ready is
  | manaPotion => exact restored_manaPotion_iff ready is
  | curePoisonPotion => exact restored_curePoisonPotion_iff ready is

/-- A wizard that is hurt, with an item. -/
def hurtWizard : Patient where
  unit := { health := { health := 50, maxHealth := 75 } }
  maxMana := 125
  mana := 25
  inventory := {1}

/-- The item's numbers are small. -/
theorem ready_hurtWizard {info : ObjectInfo} (amount : info.amount = 20) :
    Ready hurtWizard 1 info where
  living := by decide
  settled := rfl
  health_le := by decide
  mana_nonneg := by decide
  mana_le := by decide
  held := by decide
  amount_nonneg := by simp [amount]
  amount_whole := by rw [amount]; decide
  health_whole := by rw [amount]; decide
  mana_whole := by rw [amount]; decide

def apple : ObjectInfo := { subclass := 0x50, use := some .consume, amount := 20 }

/-- The wizard eats the apple. -/
theorem restored_iff_apple :
    Restored hurtWizard (hurtWizard.use 1 apple).updateHealth 1 apple .food ↔
      Works hurtWizard apple .food :=
  restored_iff (ready_hurtWizard rfl) (.inl rfl)

/-- A warrior, with an item. -/
def warrior : Patient := { hurtWizard with maxMana := 0, mana := 0 }

def healthPotion : ObjectInfo :=
  { subclass := subclassHealthPotion, use := some .potion, amount := 20 }

def manaPotion : ObjectInfo :=
  { subclass := subclassManaPotion, use := some .potion, amount := 20 }

/-- A health potion is taken for one of mana and does nothing; a mana potion does nothing for who
has mana, and is drunk by who has none. -/
theorem potions_restore_nothing :
    ¬ Restored hurtWizard (hurtWizard.use 1 healthPotion).updateHealth 1 healthPotion
        .healthPotion ∧
      ¬ Restored hurtWizard (hurtWizard.use 1 manaPotion).updateHealth 1 manaPotion
        .manaPotion ∧
      ¬ Restored warrior (warrior.use 1 manaPotion).updateHealth 1 manaPotion .manaPotion := by
  refine ⟨fun restored => ?_, fun restored => ?_, fun restored => ?_⟩
  · exact absurd restored.health (by decide)
  · exact absurd restored.mana (by decide)
  · exact absurd (restored.stays.mpr rfl) (by decide)

end Restoratives

end NoxServer
