import NoxServer.Objects.Enchants

/-!
How often the poison takes a point of health.

`m_poisoncycle` is compared with 30 by `!=`, moves up by 1 in a frame, and by one half in a frame
with the protection from poison. So it steps over 30 from 29.5 in a frame without the protection.
In runs without such a frame it stays at 30 or below, and of 62 updates of a living unit that is
poisoned one takes a point (`poison_ticks`). The dead take no damage.
-/

namespace NoxServer.Units

open Health Runs

/-! ### The cycle -/

/-- The cycle after a frame, in halves. -/
def nextCycle (safe poisoned : Bool) (cycle : Int) : Int :=
  let cycle :=
    if cycle ≠ 60 then toFloat (cycle + 2)
    else if poisoned then 0
    else cycle
  if safe then toFloat (cycle - 1) else cycle

section Cycle

variable {safe poisoned : Bool} {cycle : Int}

theorem toFloat_of_bounds {x : Int} (lower : -100 ≤ x) (upper : x ≤ 100) : toFloat x = x :=
  toFloat_of_small (Nat.lt_of_le_of_lt (by omega : x.natAbs ≤ 100) (by decide))

theorem nextCycle_of_ne (lower : -1 ≤ cycle) (upper : cycle ≤ 60) (ne : cycle ≠ 60) :
    nextCycle safe poisoned cycle = if safe then cycle + 1 else cycle + 2 := by
  have up : toFloat (cycle + 2) = cycle + 2 := toFloat_of_bounds (by omega) (by omega)
  have down : toFloat (cycle + 2 - 1) = cycle + 1 :=
    (toFloat_of_bounds (by omega) (by omega)).trans (by omega)
  unfold nextCycle
  dsimp only
  rw [if_pos ne, up, down]

theorem nextCycle_sixty :
    nextCycle safe poisoned 60 =
      if poisoned then (if safe then -1 else 0) else if safe then 59 else 60 := by
  cases poisoned <;> cases safe <;> decide

/-- A frame keeps the cycle within its bounds exactly if it is not one without the protection
at 29.5. -/
theorem nextCycle_le_iff (lower : -1 ≤ cycle) (upper : cycle ≤ 60) :
    nextCycle safe poisoned cycle ≤ 60 ↔ cycle ≠ 59 ∨ safe = true := by
  by_cases full : cycle = 60
  · subst full
    rw [nextCycle_sixty]
    refine iff_of_true ?_ (.inl (by decide))
    cases poisoned <;> cases safe <;> decide
  · rw [nextCycle_of_ne lower upper full]
    cases safe with
    | true => simp; omega
    | false => simp; omega

theorem le_nextCycle (lower : -1 ≤ cycle) (upper : cycle ≤ 60) :
    -1 ≤ nextCycle safe poisoned cycle := by
  by_cases full : cycle = 60
  · subst full
    rw [nextCycle_sixty]
    cases poisoned <;> cases safe <;> decide
  · rw [nextCycle_of_ne lower upper full]
    split <;> omega

/-- A frame that takes no point moves the cycle on. -/
theorem lt_nextCycle (lower : -1 ≤ cycle) (upper : cycle ≤ 60) (ne : cycle ≠ 60) :
    cycle < nextCycle safe poisoned cycle := by
  rw [nextCycle_of_ne lower upper ne]
  split <;> omega

/-- Rounding does not go below a small number. -/
theorem le_toFloat {least x : Int} (one_le : 1 ≤ least) (small : least ≤ 2 ^ 23) (le : least ≤ x) :
    least ≤ toFloat x := by
  by_cases exact : x.natAbs < 1 <<< 24
  · rwa [toFloat_of_small exact]
  · have exponent : 23 ≤ x.natAbs.log2 := by
      rw [Nat.le_log2 (by omega)]
      omega
    have units : 2 ^ 23 ≤ x.natAbs / 2 ^ (x.natAbs.log2 - 23) := by
      rw [Nat.le_div_iff_mul_le (Nat.two_pow_pos _), ← Nat.pow_add,
        Nat.add_sub_cancel' exponent]
      exact Nat.log2_self_le (by omega)
    have sign : x.sign = 1 := Int.sign_eq_one_of_pos (by omega)
    refine Int.le_trans small ?_
    unfold toFloat
    rw [Nat.one_shiftLeft, sign, Int.one_mul]
    refine Int.ofNat_le.mpr (Nat.le_trans ?_ (Nat.le_mul_of_pos_right _ Nat.one_le_two_pow))
    split <;> omega

/-- A cycle that is over 30 stays over it. -/
theorem lt_nextCycle_of_lt (missed : 60 < cycle) : 60 < nextCycle safe poisoned cycle := by
  have up : 63 ≤ toFloat (cycle + 2) := le_toFloat (by decide) (by decide) (by omega)
  have down : 61 ≤ toFloat (toFloat (cycle + 2) - 1) :=
    le_toFloat (by decide) (by decide) (by omega)
  have ne : cycle ≠ 60 := by omega
  unfold nextCycle
  dsimp only
  rw [if_pos ne]
  split
  · exact down
  · omega

end Cycle

namespace Unit

variable (u : Unit)

/-! ### What a frame does to the cycle and the health -/

/-- The frame takes a point: `Damage(1, 0)`. -/
def ticks : Bool := u.poisoncycle = 60 ∧ u.poison ≠ 0

/-- What the poison is about. -/
def toxin : Int × UInt8 × Player := (u.poisoncycle, u.poison, u.health)

theorem toxin_setEnchant (e : UnitEnchantType) (frames : Int16) :
    (u.setEnchant e frames).toxin = u.toxin := by
  obtain ⟨out, same⟩ := u.setEnchant_eq e frames
  rw [same]
  rfl

theorem toxin_unsetEnchant (e : UnitEnchantType) : (u.unsetEnchant e).toxin = u.toxin := by
  obtain ⟨out, same⟩ := u.unsetEnchant_eq e
  rw [same]
  rfl

theorem toxin_setActionAnim (anim : UnitActionType) (frames : UInt32) :
    (u.setActionAnim anim frames).1.toxin = u.toxin := by
  obtain ⟨_, _, _, _, same⟩ := u.setActionAnim_eq anim frames
  rw [same]
  rfl

theorem toxin_unsneak : u.unsneak.toxin = u.toxin := by
  unfold unsneak
  split
  · exact u.toxin_unsetEnchant .sneak
  · rfl

theorem toxin_countDown (e : UnitEnchantType) : (u.countDown e).toxin = u.toxin := by
  unfold countDown
  split
  · rfl
  · split
    · exact u.toxin_unsetEnchant e
    · rfl

theorem toxin_updateEnchants : u.updateEnchants.toxin = u.toxin := by
  unfold updateEnchants
  generalize UnitEnchantType.all = enchants
  induction enchants generalizing u with
  | nil => rfl
  | cons e enchants ih => exact (ih (u.countDown e)).trans (u.toxin_countDown e)

/-- A dead unit has no health, and else the action leaves what the poison is about. -/
theorem toxin_updateAction (time : UInt32) :
    (u.updateAction time).toxin = (u.poisoncycle, u.poison, u.health.unitUpdate false) := by
  cases life : u.isDead with
  | true =>
      have dead : u.health.isDead = true := life
      unfold updateAction Player.unitUpdate
      rw [if_pos life, if_pos dead]
      rfl
  | false =>
      have alive : ¬u.health.isDead = true := Bool.not_eq_true _ ▸ life
      have healthy : u.health.unitUpdate false = u.health := by
        unfold Player.unitUpdate
        rw [if_neg alive]
        rfl
      obtain ⟨_, _, _, _, same⟩ := u.updateAction_eq life time
      rw [same, healthy]
      split
      · exact u.toxin_unsneak
      · rfl

theorem toxin_updateSpeed : u.updateSpeed.toxin = u.toxin := by
  obtain ⟨_, same⟩ := u.updateSpeed_eq
  rw [same]
  rfl

theorem toxin_updateAnim (time : UInt32) : (u.updateAnim time).toxin = u.toxin := by
  obtain ⟨_, _, _, same⟩ := u.updateAnim_eq time
  rw [same]
  rfl

theorem toxin_reportEnchants : u.reportEnchants.toxin = u.toxin := by
  obtain ⟨_, _, same⟩ := u.reportEnchants_eq
  rw [same]
  rfl

/-- The protection of a frame, after the cycle has been moved up. -/
theorem toxin_protected (v : Unit) (safe : v.hasEnchant .protectFromPoison = u.hasEnchant
      .protectFromPoison) :
    (if v.hasEnchant .protectFromPoison then
      { v with poisoncycle := toFloat (v.poisoncycle - 1) } else v).toxin =
      (if u.hasEnchant .protectFromPoison then toFloat (v.poisoncycle - 1) else v.poisoncycle,
        v.poison, v.health) := by
  rw [safe]
  split <;> rfl

theorem toxin_updatePoison :
    u.updatePoison.toxin =
      (nextCycle (u.hasEnchant .protectFromPoison) (u.poison ≠ 0) u.poisoncycle, u.poison,
        if u.ticks then u.health.damage 1 else u.health) := by
  unfold updatePoison nextCycle
  dsimp only
  by_cases full : u.poisoncycle = 60
  · rw [if_neg (not_not_intro full), if_neg (not_not_intro full)]
    by_cases poisoned : u.poison = 0
    · have none : u.ticks = false := decide_eq_false fun both => both.2 poisoned
      rw [if_neg (not_not_intro poisoned), none, decide_eq_false (not_not_intro poisoned)]
      exact u.toxin_protected u rfl
    · have due : u.ticks = true := decide_eq_true ⟨full, poisoned⟩
      rw [if_pos poisoned, due, decide_eq_true poisoned]
      exact u.toxin_protected { u with health := u.health.damage 1, poisoncycle := 0 } rfl
  · have none : u.ticks = false := decide_eq_false fun both => full both.1
    rw [if_pos full, if_pos full, none]
    exact u.toxin_protected { u with poisoncycle := toFloat (u.poisoncycle + 2) } rfl

/-- An update does to the health what the poison being due does. -/
theorem toxin_update (time : UInt32) :
    (u.update time).toxin =
      (nextCycle (u.hasEnchant .protectFromPoison) (u.poison ≠ 0) u.poisoncycle, u.poison,
        u.health.unitUpdate u.ticks) := by
  have acted := u.toxin_updateAction time
  have cycle : (u.updateAction time).poisoncycle = u.poisoncycle := congrArg Prod.fst acted
  have poison : (u.updateAction time).poison = u.poison := congrArg (fun x => x.2.1) acted
  have health : (u.updateAction time).health = u.health.unitUpdate false :=
    congrArg (fun x => x.2.2) acted
  have kept : ¬(UnitEnchantType.protectFromPoison = .sneak ∧ u.isDead = false ∧
      u.actionEnds time ∧ u.hasEnchant .sneak) := fun touches => by cases touches.1
  have safe : (u.updateAction time).hasEnchant .protectFromPoison =
      u.hasEnchant .protectFromPoison :=
    congrArg Prod.fst (u.enchantment_updateAction .protectFromPoison kept)
  have due : (u.updateAction time).ticks = u.ticks := by rw [ticks, ticks, cycle, poison]
  calc (u.update time).toxin
      = (u.updateAction time).updatePoison.updateSpeed.updateEnchants.toxin :=
        (toxin_reportEnchants ..).trans (toxin_updateAnim ..)
    _ = (u.updateAction time).updatePoison.toxin :=
        (toxin_updateEnchants ..).trans (toxin_updateSpeed ..)
    _ = _ := by
        rw [toxin_updatePoison, cycle, poison, health, safe, due]
        rfl

end Unit

/-! ### Runs -/

theorem UnitAction.update_or (action : UnitAction) :
    (∃ time, action = .update time) ∨ ∀ time, action ≠ .update time :=
  or_iff_not_imp_left.mpr fun other time same => other ⟨time, same⟩

/-- What an action that is no update leaves. -/
theorem poisoncycle_apply (u : Unit) {action : UnitAction} (other : ∀ time, action ≠ .update time) :
    (u.apply action).poisoncycle = u.poisoncycle := by
  cases action with
  | update time => exact absurd rfl (other time)
  | setEnchant enchant frames => exact congrArg Prod.fst (u.toxin_setEnchant enchant frames)
  | unsetEnchant enchant => exact congrArg Prod.fst (u.toxin_unsetEnchant enchant)
  | resetEnchants => rfl
  | poison poisoned poisoner =>
      obtain ⟨_, same⟩ := u.poisonBy_eq poisoned poisoner
      rw [Unit.apply, same]
  | setActionAnim anim frames => exact congrArg Prod.fst (u.toxin_setActionAnim anim frames)
  | resetActionAnim => rfl
  | other health shield speed maxSpeed angle => rfl

theorem poisoncycle_update (u : Unit) (time : UInt32) :
    (u.update time).poisoncycle =
      nextCycle (u.hasEnchant .protectFromPoison) (u.poison ≠ 0) u.poisoncycle :=
  congrArg Prod.fst (u.toxin_update time)

/-- An update does not step over 30: it is not one at 29.5 without the protection. -/
def Steady (u : Unit) : UnitAction → Prop
  | .update _ => u.poisoncycle ≠ 59 ∨ u.hasEnchant .protectFromPoison = true
  | _ => True

/-- The unit is alive and poisoned in its updates. -/
def Poisoned (u : Unit) : UnitAction → Prop
  | .update _ => u.poison ≠ 0 ∧ u.isDead = false
  | _ => True

/-- The cycle is at 30 or below. -/
def Bounded (u : Unit) : Prop := -1 ≤ u.poisoncycle ∧ u.poisoncycle ≤ 60

/-- An update keeps the cycle within its bounds exactly if it is steady. -/
theorem bounded_update_iff {u : Unit} (bounded : Bounded u) (time : UInt32) :
    Bounded (u.update time) ↔ Steady u (.update time) := by
  rw [Bounded, poisoncycle_update]
  constructor
  · intro both
    exact (nextCycle_le_iff bounded.1 bounded.2).mp both.2
  · intro steady
    exact ⟨le_nextCycle bounded.1 bounded.2, (nextCycle_le_iff bounded.1 bounded.2).mpr steady⟩

theorem bounded_step {u v : Unit} {action : UnitAction} (bounded : Bounded u)
    (step : guarded Steady Step u action v) : Bounded v := by
  obtain ⟨steady, rfl⟩ := step
  rcases action.update_or with ⟨time, rfl⟩ | other
  · exact (bounded_update_iff bounded time).mpr steady
  · rw [Bounded, poisoncycle_apply u other]
    exact bounded

/-- A living unit loses a point: `m_delta_health` falls by 1, as a `float` does, and the rest of the
health stays. -/
structure LosesPoint (v w : Unit) : Prop where
  alive : v.isDead = false
  health : w.health = { v.health with deltaHealth := toFloat (v.health.deltaHealth - 1) }
  byOne : v.health.deltaHealth.natAbs + 1 < 2 ^ 24 →
    w.health.deltaHealth = v.health.deltaHealth - 1

/-- Some update of the run takes a point, when the poison is due. -/
def TakesPoint (u : Unit) (actions : List UnitAction) : Prop :=
  ∃ before time after v, actions = before ++ .update time :: after ∧ Run Step u before v ∧
    v.ticks = true ∧ LosesPoint v (v.update time)

theorem TakesPoint.cons {u : Unit} {action : UnitAction} {actions : List UnitAction}
    (takes : TakesPoint (u.apply action) actions) : TakesPoint u (action :: actions) := by
  obtain ⟨before, time, after, v, rfl, run, due⟩ := takes
  exact ⟨action :: before, time, after, v, rfl, .cons rfl run, due⟩

theorem health_update (u : Unit) (time : UInt32) :
    (u.update time).health = u.health.unitUpdate u.ticks :=
  congrArg (fun x => x.2.2) (u.toxin_update time)

/-- The update of a living unit in which the poison is due. -/
theorem losesPoint_update {u : Unit} (due : u.ticks = true) (alive : u.isDead = false)
    (time : UInt32) : LosesPoint u (u.update time) := by
  have living : ¬u.health.isDead = true := Bool.not_eq_true _ ▸ alive
  have health : (u.update time).health =
      { u.health with deltaHealth := toFloat (u.health.deltaHealth - 1) } := by
    rw [health_update, due, Player.unitUpdate, if_neg living, if_pos rfl, Player.damage,
      if_neg living]
  refine ⟨alive, health, fun small => ?_⟩
  rw [health]
  exact toFloat_of_small (Nat.lt_of_le_of_lt (by omega : _ ≤ u.health.deltaHealth.natAbs + 1) small)

theorem takesPoint_of_ticks {u : Unit} (due : u.ticks = true) (alive : u.isDead = false)
    (time : UInt32) (actions : List UnitAction) : TakesPoint u (.update time :: actions) :=
  ⟨[], time, actions, u, rfl, .nil u, due, losesPoint_update due alive time⟩

/-- An update neither kills nor revives a unit. -/
theorem isDead_update (u : Unit) (time : UInt32) : (u.update time).isDead = u.isDead := by
  have same : (u.health.unitUpdate u.ticks).isDead = u.health.isDead := by
    unfold Player.unitUpdate Player.damage Player.isDead
    grind
  rw [Unit.isDead, health_update, same]
  rfl

/-- Updates of a poisoned unit take a point or move the cycle on. -/
theorem takesPoint_or_le {u v : Unit} {actions : List UnitAction} (bounded : Bounded u)
    (run : Run (guarded (fun u action => Steady u action ∧ Poisoned u action) Step) u actions v) :
    TakesPoint u actions ∨ u.poisoncycle + updates actions ≤ v.poisoncycle ∧ Bounded v := by
  induction run with
  | nil u => exact .inr ⟨by simp [updates], bounded⟩
  | @cons u mid v action actions first _ ih =>
      obtain ⟨⟨steady, poisoned⟩, rfl⟩ := first
      rcases action.update_or with ⟨time, rfl⟩ | other
      · by_cases full : u.poisoncycle = 60
        · have due : u.ticks = true := decide_eq_true ⟨full, poisoned.1⟩
          exact .inl (takesPoint_of_ticks due poisoned.2 time actions)
        · have on : u.poisoncycle < (u.update time).poisoncycle := by
            rw [poisoncycle_update]
            exact lt_nextCycle bounded.1 bounded.2 full
          rcases ih (bounded_step bounded ⟨steady, rfl⟩) with takes | ⟨moved, within⟩
          · exact .inl takes.cons
          · refine .inr ⟨?_, within⟩
            have moved : (u.update time).poisoncycle + updates actions ≤ v.poisoncycle := moved
            rw [updates]
            push_cast
            omega
      · have same := poisoncycle_apply u other
        have count : updates (action :: actions) = updates actions := by
          cases action with
          | update time => exact absurd rfl (other time)
          | _ => rfl
        rcases ih (bounded_step bounded ⟨steady, rfl⟩) with takes | moved
        · exact .inl takes.cons
        · rw [same] at moved
          exact .inr (count ▸ moved)

theorem bounded_initRespawn (u : Unit) : Bounded u.initRespawn := by
  have zero : u.initRespawn.poisoncycle = 0 := rfl
  rw [Bounded, zero]
  decide

/-- In every run of steady updates the cycle stays at 30 or below, and of any 62 updates of a unit
that stays alive and poisoned one takes a point of its health. The cycle is counted in halves here,
of which an update adds one or two; an update at 29.5 that adds two would step over 30. -/
theorem poison_ticks {u v : Unit} {earlier : List UnitAction}
    (reached : Run (guarded Steady Step) u.initRespawn earlier v) :
    v.poisoncycle ≤ 60 ∧
      ∀ later w,
        Run (guarded (fun u action => Steady u action ∧ Poisoned u action) Step) v later w →
          updates later = 62 → TakesPoint v later := by
  have bounded : Bounded v :=
    reached.invariant (fun _ _ _ => bounded_step) (bounded_initRespawn u)
  refine ⟨bounded.2, fun later w run count => ?_⟩
  rcases takesPoint_or_le bounded run with takes | ⟨moved, within⟩
  · exact takes
  · have lower := bounded.1
    have upper := within.2
    omega

def healthy : Unit := { health := { maxHealth := 10, health := 10 } }

/-- A unit that is poisoned, and then updated without the protection and with it. -/
theorem poison_ticks_first :
    ∃ v, Run (guarded Steady Step) healthy.initRespawn
        [.poison 1 0, .update 33, .setEnchant .protectFromPoison 0] v ∧
      v.poisoncycle ≤ 60 ∧
        ∀ later w,
          Run (guarded (fun u action => Steady u action ∧ Poisoned u action) Step) v later w →
            updates later = 62 → TakesPoint v later := by
  have run : Run (guarded Steady Step) healthy.initRespawn
      [.poison 1 0, .update 33, .setEnchant .protectFromPoison 0] _ :=
    .cons ⟨trivial, rfl⟩ (.cons ⟨.inl (by decide), rfl⟩ (.single ⟨trivial, rfl⟩))
  exact ⟨_, run, poison_ticks run⟩

/-! ### Cycles that step over 30 -/

/-- From a cycle that is over 30 no update takes a point. -/
theorem not_takesPoint {u : Unit} (missed : 60 < u.poisoncycle) (actions : List UnitAction) :
    ¬TakesPoint u actions := by
  rintro ⟨before, time, after, v, -, run, due, -⟩
  have preserved (s : Unit) (action : UnitAction) (t : Unit) (missed : 60 < s.poisoncycle)
      (step : Step s action t) : 60 < t.poisoncycle := by
    obtain rfl := step
    rcases action.update_or with ⟨time, rfl⟩ | other
    · exact (poisoncycle_update s time).symm ▸ lt_nextCycle_of_lt missed
    · rwa [poisoncycle_apply s other]
  have still : 60 < v.poisoncycle := run.invariant preserved missed
  have full := (of_decide_eq_true due).1
  omega

/-- Updates without the protection move the cycle up by 1. -/
theorem unprotected_run {u : Unit} (off : u.enchantment .protectFromPoison = (false, 0))
    (poisoned : u.poison ≠ 0) (alive : u.isDead = false) (lower : -1 ≤ u.poisoncycle) {count : Nat}
    (left : u.poisoncycle + 2 * count = 61) :
    ∃ v, Run (guarded Poisoned Step) u (List.replicate count (.update 0)) v ∧
      v.poisoncycle = 61 := by
  induction count generalizing u with
  | zero => exact ⟨u, .nil u, by omega⟩
  | succ count ih =>
      have none : u.hasEnchant .protectFromPoison = false := congrArg Prod.fst off
      have moved : (u.update 0).poisoncycle = u.poisoncycle + 2 := by
        rw [poisoncycle_update, none, nextCycle_of_ne lower (by omega) (by omega)]
        rfl
      have poison : (u.update 0).poison = u.poison := congrArg (fun x => x.2.1) (u.toxin_update 0)
      have kept : ¬Touches .protectFromPoison u (.update 0) := fun touches => by cases touches.1
      have still : (u.update 0).enchantment .protectFromPoison = (false, 0) :=
        (enchantment_apply kept).trans (congrArg Unit.counted off)
      obtain ⟨v, run, missed⟩ := ih still (poison ▸ poisoned) ((isDead_update u 0).trans alive)
        (by omega) (by omega)
      exact ⟨v, .cons ⟨⟨poisoned, alive⟩, rfl⟩ run, missed⟩

/-- An update with the protection moves it up by one half. -/
theorem half_run {u : Unit} (poisoned : u.poison ≠ 0) (alive : u.isDead = false)
    (zero : u.poisoncycle = 0) :
    ∃ w, Run (guarded Poisoned Step) u
        [.setEnchant .protectFromPoison 0, .update 0, .unsetEnchant .protectFromPoison] w ∧
      w.poisoncycle = 1 ∧ w.poison ≠ 0 ∧ w.isDead = false ∧
        w.enchantment .protectFromPoison = (false, 0) := by
  have set := u.toxin_setEnchant .protectFromPoison 0
  have cycle : (u.setEnchant .protectFromPoison 0).poisoncycle = 0 :=
    (congrArg Prod.fst set).trans zero
  have poison : (u.setEnchant .protectFromPoison 0).poison = u.poison :=
    congrArg (fun x => x.2.1) set
  have living : (u.setEnchant .protectFromPoison 0).isDead = false :=
    (congrArg (fun x => x.2.2.isDead) set).trans alive
  have unset := ((u.setEnchant .protectFromPoison 0).update 0).toxin_unsetEnchant .protectFromPoison
  have updated := ((u.setEnchant .protectFromPoison 0).update 0).toxin_unsetEnchant
    .protectFromPoison
  rw [Unit.toxin_update, u.hasEnchant_setEnchant_self, cycle, poison] at updated
  refine ⟨_, .cons ⟨trivial, rfl⟩ (.cons ⟨?_, rfl⟩ (.single ⟨trivial, rfl⟩)), ?_, ?_, ?_, ?_⟩
  · exact ⟨poison.trans_ne poisoned, living⟩
  · refine (congrArg Prod.fst updated).trans ?_
    rw [nextCycle_of_ne (by decide) (by decide) (by decide)]
    rfl
  · exact (congrArg (fun x => x.2.1) updated).trans_ne poisoned
  · exact (congrArg (fun x => x.2.2.isDead) unset).trans ((isDead_update ..).trans living)
  · exact Unit.enchantment_unsetEnchant_self ..

/-- A living poisoned unit that has the protection in one frame and not in the next thirty: its
cycle steps over 30, and it takes no point any more. -/
theorem poison_missed :
    ∃ actions v, Run (guarded Poisoned Step) healthy.initRespawn actions v ∧
      60 < v.poisoncycle ∧ ∀ later, ¬TakesPoint v later := by
  have first : Run (guarded Poisoned Step) healthy.initRespawn [.poison 1 0]
      (healthy.initRespawn.poisonBy 1 0) := .single ⟨trivial, rfl⟩
  obtain ⟨w, second, half, poisoned, alive, off⟩ := half_run
    (by decide : (healthy.initRespawn.poisonBy 1 0).poison ≠ 0) rfl rfl
  have left : w.poisoncycle + 2 * (30 : Nat) = 61 := by omega
  obtain ⟨v, third, missed⟩ := unprotected_run off poisoned alive (by omega) left
  have passed : 60 < v.poisoncycle := by omega
  exact ⟨_, v, (first.append second).append third, passed, not_takesPoint passed⟩

end NoxServer.Units
