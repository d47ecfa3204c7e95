import NoxServer.Objects.Enchants

/-!
How long an action of a unit runs.

While an action runs, `SetActionAnim` refuses every other one. `Update` ends it, and raises the
shield with the same `SetActionAnim`, before it clears the time. So the shield is refused as well if
the update comes after less time than is left, and the unit is left in the action that is over
(`runs_its_time_iff`).
-/

namespace NoxServer.Units

open Runs

/-- The time of the updates among actions. -/
def elapsed : List UnitAction → Nat
  | [] => 0
  | .update time :: actions => time.toNat + elapsed actions
  | _ :: actions => elapsed actions

/-- The unit is alive, and the action is neither reset nor requested again. -/
def Left (a : UnitActionType) (u : Unit) (action : UnitAction) : Prop :=
  u.isDead = false ∧
    match action with
    | .setActionAnim anim _ => anim ≠ a
    | .resetActionAnim => False
    | _ => True

/-- And no update comes after more time than is left. -/
def Unended (a : UnitActionType) (u : Unit) (action : UnitAction) : Prop :=
  Left a u action ∧
    match action with
    | .update time => time ≤ u.actionTime
    | _ => True

namespace Unit

/-- `SetActionAnim(anim, frames)` returns false. -/
def Refuses (u : Unit) (anim : UnitActionType) : Prop :=
  u.actionTime ≠ 0 ∧ u.action ≠ anim ∧ u.action ≠ .walk ∧ u.action ≠ .run

instance (u : Unit) (anim : UnitActionType) : Decidable (u.Refuses anim) :=
  inferInstanceAs (Decidable (_ ∧ _))

/-- What the unit does, for how long, and its shield. -/
def doing (u : Unit) : UnitActionType × UInt32 × Bool := (u.action, u.actionTime, u.shield)

section Doing

variable (u : Unit)

theorem setActionAnim_of_refuses {anim : UnitActionType} (refuses : u.Refuses anim)
    (frames : UInt32) : u.setActionAnim anim frames = (u, false) :=
  if_pos refuses

theorem setActionAnim_of_not_refuses {anim : UnitActionType} (takes : ¬ u.Refuses anim)
    (frames : UInt32) :
    (u.setActionAnim anim frames).2 = true ∧
      (u.setActionAnim anim frames).1.doing = (anim, frames * 33, u.shield) := by
  have free : ¬ (u.actionTime ≠ 0 ∧ u.action ≠ anim ∧ u.action ≠ .walk ∧ u.action ≠ .run) := takes
  rw [setActionAnim, if_neg free]
  dsimp only
  split
  · exact ⟨rfl, rfl⟩
  · exact ⟨rfl, rfl⟩

theorem doing_unsetEnchant (e : UnitEnchantType) : (u.unsetEnchant e).doing = u.doing := by
  obtain ⟨_, same⟩ := u.unsetEnchant_eq e
  rw [same]
  rfl

theorem doing_setEnchant (e : UnitEnchantType) (frames : Int16) :
    (u.setEnchant e frames).doing = u.doing := by
  obtain ⟨_, same⟩ := u.setEnchant_eq e frames
  rw [same]
  rfl

theorem doing_unsneak : u.unsneak.doing = u.doing := by
  unfold unsneak
  split
  · exact u.doing_unsetEnchant .sneak
  · rfl

theorem doing_updatePoison : u.updatePoison.doing = u.doing := by
  unfold updatePoison
  dsimp only
  split
  · split <;> rfl
  · split
    · split <;> rfl
    · split <;> rfl

theorem doing_updateEnchants : u.updateEnchants.doing = u.doing := by
  unfold updateEnchants
  induction UnitEnchantType.all generalizing u with
  | nil => rfl
  | cons e rest ih =>
      refine (ih (u.countDown e)).trans ?_
      unfold countDown
      split
      · rfl
      · split
        · exact u.doing_unsetEnchant e
        · rfl

/-- Of an update only its first part matters. -/
theorem doing_update (time : UInt32) : (u.update time).doing = (u.updateAction time).doing := by
  have reported (u : Unit) : u.reportEnchants.doing = u.doing := by
    obtain ⟨_, _, same⟩ := u.reportEnchants_eq
    rw [same]
    rfl
  have drawn (u : Unit) : (u.updateAnim time).doing = u.doing := by
    obtain ⟨_, _, _, same⟩ := u.updateAnim_eq time
    rw [same]
    rfl
  have sped (u : Unit) : u.updateSpeed.doing = u.doing := by
    obtain ⟨_, same⟩ := u.updateSpeed_eq
    rw [same]
    rfl
  rw [update, reported, drawn, doing_updateEnchants, sped, doing_updatePoison]

/-- Every action is one of those that end with their time. -/
theorem acts : u.action ≠ .idle ∨ u.action ≠ .raiseShield := by
  cases u.action <;> decide

variable {u} {time : UInt32}

/-- An update in time takes from what is left. -/
theorem doing_update_early (alive : u.isDead = false) (early : time ≤ u.actionTime) :
    (u.update time).doing = (u.action, u.actionTime - time, u.shield) := by
  rw [doing_update, updateAction, if_neg (Bool.not_eq_true _ ▸ alive), if_pos u.acts,
    if_neg (UInt32.not_lt.mpr early)]
  rfl

/-- An update after more time than is left ends the action, if the shield is not refused. -/
theorem doing_update_late (alive : u.isDead = false) (late : u.actionTime < time) :
    (u.update time).doing =
      (if u.shield then if u.Refuses .raiseShield then u.action else .raiseShield else .idle, 0,
        u.shield) := by
  have sneaks := u.doing_unsneak
  obtain ⟨action, rest⟩ := Prod.mk.inj sneaks
  obtain ⟨actionTime, shield⟩ := Prod.mk.inj rest
  have refuses : u.unsneak.Refuses .raiseShield ↔ u.Refuses .raiseShield := by
    rw [Refuses, Refuses, action, actionTime]
  have ended : (u.updateAction time).doing =
      ({ (if u.unsneak.shield then (u.unsneak.setActionAnim .raiseShield 0).1
        else { u.unsneak with action := .idle }) with actionTime := 0 } : Unit).doing := by
    rw [updateAction, if_neg (Bool.not_eq_true _ ▸ alive), if_pos u.acts, if_pos late]
    rfl
  rw [doing_update, ended, shield]
  by_cases shielded : u.shield
  · rw [if_pos shielded, if_pos shielded]
    by_cases refused : u.Refuses .raiseShield
    · rw [if_pos refused, setActionAnim_of_refuses _ (refuses.mpr refused)]
      rw [doing, action, shield]
    · obtain ⟨-, taken⟩ :=
        setActionAnim_of_not_refuses _ (fun still => refused (refuses.mp still)) 0
      obtain ⟨raised, rest⟩ := Prod.mk.inj taken
      obtain ⟨-, kept⟩ := Prod.mk.inj rest
      rw [if_neg refused, doing, raised, kept, shield]
  · rw [if_neg shielded, if_neg shielded, doing, shield]

end Doing

end Unit

/-! ### While it runs -/

section Running

variable {u v : Unit} {a : UnitActionType} {action : UnitAction} {actions : List UnitAction}

theorem elapsed_cons (action : UnitAction) (actions : List UnitAction) :
    elapsed (action :: actions) = elapsed [action] + elapsed actions := by
  cases action <;> simp [elapsed]

/-- As long as time is left, an action takes from it what its update took, and changes nothing
else. -/
theorem apply_running (left : Left a u action) (same : u.action = a) (notWalk : a ≠ .walk)
    (notRun : a ≠ .run) (within : elapsed [action] < u.actionTime.toNat) :
    (u.apply action).action = a ∧
      (u.apply action).actionTime.toNat + elapsed [action] = u.actionTime.toNat := by
  have kept {v : Unit} (doing : v.doing = u.doing) :
      v.action = a ∧ v.actionTime.toNat + 0 = u.actionTime.toNat := by
    obtain ⟨action, rest⟩ := Prod.mk.inj doing
    exact ⟨action.trans same, congrArg UInt32.toNat (Prod.mk.inj rest).1⟩
  obtain ⟨alive, left⟩ := left
  cases action with
  | update time =>
      have small : time.toNat ≤ u.actionTime.toNat := by
        simp only [elapsed] at within
        omega
      have early : time ≤ u.actionTime := UInt32.le_iff_toNat_le.mpr small
      obtain ⟨action, rest⟩ := Prod.mk.inj (Unit.doing_update_early alive early)
      have taken : (u.update time).actionTime = u.actionTime - time := (Prod.mk.inj rest).1
      refine ⟨action.trans same, ?_⟩
      rw [Unit.apply, taken, UInt32.toNat_sub_of_le _ _ early, elapsed, elapsed]
      omega
  | setActionAnim anim frames =>
      have busy : u.actionTime ≠ 0 := fun none => by
        rw [none] at within
        exact absurd within (Nat.not_lt_zero _)
      have refuses : u.Refuses anim :=
        ⟨busy, by rw [same]; exact Ne.symm left, by rw [same]; exact notWalk,
          by rw [same]; exact notRun⟩
      rw [Unit.apply, Unit.setActionAnim_of_refuses u refuses]
      exact kept rfl
  | resetActionAnim => exact left.elim
  | setEnchant enchant frames => exact kept (u.doing_setEnchant enchant frames)
  | unsetEnchant enchant => exact kept (u.doing_unsetEnchant enchant)
  | resetEnchants => exact kept rfl
  | poison poisoned poisoner =>
      obtain ⟨_, eq⟩ := u.poisonBy_eq poisoned poisoner
      exact kept ((congrArg Unit.doing eq).trans rfl)
  | other health shield speed maxSpeed angle => exact ⟨same, rfl⟩

theorem run_running (run : Run (guarded (Left a) Step) u actions v) (same : u.action = a)
    (notWalk : a ≠ .walk) (notRun : a ≠ .run) (within : elapsed actions < u.actionTime.toNat) :
    v.action = a ∧ v.actionTime.toNat + elapsed actions = u.actionTime.toNat := by
  induction run with
  | nil u => exact ⟨same, rfl⟩
  | cons first _ ih =>
      obtain ⟨left, rfl⟩ := first
      rw [elapsed_cons] at within ⊢
      obtain ⟨same', taken⟩ := apply_running left same notWalk notRun (by omega)
      obtain ⟨last, rest⟩ := ih same' (by omega)
      exact ⟨last, by omega⟩

end Running

/-! ### The end -/

/-- The action runs for the time it was given: `m_action_time` is what is left of that, and no other
action is taken while there is some. The first update after more time than is left leaves the unit
with its shield raised, or idle. -/
structure RunsItsTime (u : Unit) (a : UnitActionType) (f : UInt32) (actions : List UnitAction) :
    Prop where
  excludes : ∀ before v, before <+: actions →
    Run (guarded (Left a) Step) (u.setActionAnim a f).1 before v → v.isDead = false →
      elapsed before < 33 * f.toNat →
        v.action = a ∧ v.actionTime.toNat = 33 * f.toNat - elapsed before ∧
          ∀ b frames, b ≠ a → v.setActionAnim b frames = (v, false)
  ends : ∀ before time v, before ++ [.update time] <+: actions →
    Run (guarded (Unended a) Step) (u.setActionAnim a f).1 before v → v.isDead = false →
      v.actionTime < time →
        (v.update time).actionTime = 0 ∧
          (v.update time).action = if v.shield then .raiseShield else .idle

/-- The first update after more time than is left does not find a shield that is refused. -/
def ShieldTaken (u : Unit) (a : UnitActionType) (f : UInt32) (actions : List UnitAction) : Prop :=
  ∀ before time v, before ++ [.update time] <+: actions →
    Run (guarded (Unended a) Step) (u.setActionAnim a f).1 before v → v.isDead = false →
      v.actionTime < time → v.shield = true → ¬ v.Refuses .raiseShield

section Ends

variable {u : Unit} {a : UnitActionType} {f : UInt32}

theorem toNat_frames (small : f.toNat ≤ 2 ^ 26) : (f * 33).toNat = 33 * f.toNat := by
  have thirtyThree : (33 : UInt32).toNat = 33 := rfl
  rw [UInt32.toNat_mul, thirtyThree, Nat.mod_eq_of_lt (by omega), Nat.mul_comm]

/-- An action runs its time exactly if its end does not find a shield that is refused: the shield is
asked for before the time of the action is cleared, and is refused while there is some left. The
updates come at any times, with other actions asked for between them. -/
theorem runs_its_time_iff (notWalk : a ≠ .walk) (notRun : a ≠ .run) (small : f.toNat ≤ 2 ^ 26)
    (done : (u.setActionAnim a f).2 = true) (actions : List UnitAction) :
    RunsItsTime u a f actions ↔ ShieldTaken u a f actions := by
  have takes : ¬ u.Refuses a := fun refuses => by
    rw [u.setActionAnim_of_refuses refuses] at done
    cases done
  obtain ⟨same, rest⟩ := Prod.mk.inj (u.setActionAnim_of_not_refuses takes f).2
  have given : (u.setActionAnim a f).1.actionTime.toNat = 33 * f.toNat := by
    rw [(Prod.mk.inj rest).1, toNat_frames small]
  constructor
  · intro runs before time v ahead run alive late shielded refuses
    obtain ⟨-, action⟩ := runs.ends before time v ahead run alive late
    have kept := (Prod.mk.inj (Unit.doing_update_late alive late)).1
    rw [if_pos shielded, if_pos refuses] at kept
    rw [if_pos shielded] at action
    exact refuses.2.1 (kept.symm.trans action)
  · intro taken
    refine ⟨fun before v ahead run alive within => ?_,
      fun before time v ahead run alive late => ?_⟩
    · obtain ⟨last, left⟩ := run_running run same notWalk notRun (given ▸ within)
      refine ⟨last, by omega, fun b frames other =>
        v.setActionAnim_of_refuses ⟨fun none => ?_, ?_⟩ frames⟩
      · rw [none, given] at left
        have zero : (0 : UInt32).toNat = 0 := rfl
        omega
      · rw [last]
        exact ⟨Ne.symm other, notWalk, notRun⟩
    · obtain ⟨action, rest⟩ := Prod.mk.inj (Unit.doing_update_late alive late)
      refine ⟨(Prod.mk.inj rest).1, action.trans ?_⟩
      by_cases shielded : v.shield
      · rw [if_pos shielded, if_pos shielded,
          if_neg (taken before time v ahead run alive late shielded)]
      · rw [if_neg shielded, if_neg shielded]

def walker : Unit := { health := { health := 1 } }

/-- It laughs for a frame. -/
theorem runs_its_time_walker : RunsItsTime walker .laugh 1 [.update 40] := by
  refine (runs_its_time_iff (by decide) (by decide) (by decide) (by decide) _).mpr ?_
  intro before time v ahead run _ _ shielded
  have none : before = [] := by
    have short := ahead.length_le
    rw [List.length_append] at short
    exact List.eq_nil_of_length_eq_zero (Nat.le_zero.mp (Nat.le_of_add_le_add_right short))
  subst none
  cases run
  cases shielded

/-- With a shield it is left laughing. -/
theorem shield_refused :
    ¬ ∀ (u : Unit) (a : UnitActionType) (f : UInt32), a ≠ .walk → a ≠ .run → 1 ≤ f.toNat →
      f.toNat ≤ 2 ^ 26 → (u.setActionAnim a f).2 = true →
        ∀ actions, RunsItsTime u a f actions := by
  intro always
  have runs := always { walker with shield := true } .laugh 1 (by decide) (by decide) (by decide)
    (by decide) (by decide) [.update 40]
  obtain ⟨-, raised⟩ := runs.ends [] 40 _ (List.prefix_refl _) (.nil _) (by decide) (by decide)
  rw [(Prod.mk.inj (Unit.doing_update_late (by decide) (by decide))).1] at raised
  exact absurd raised (by decide)

end Ends

end NoxServer.Units
