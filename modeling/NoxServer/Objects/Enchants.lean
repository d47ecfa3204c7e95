import NoxServer.Library.Loops
import NoxServer.Objects.Unit

/-!
How long an enchantment lasts.

`SetEnchant` takes the duration as a number of sixteen bits, and the count in `Update` ends at
zero; a negative number is never counted. So an enchantment lasts as long as it was asked to
exactly if its duration is within sixteen bits (`lasts_iff`).
-/

namespace NoxServer.Units

open Loops Runs

namespace UnitEnchantType

theorem index_lt (e : UnitEnchantType) : e.index < 32 := by
  cases e <;> decide

theorem index_injective {e e' : UnitEnchantType} (same : e.index = e'.index) : e = e' := by
  rw [← UnitEnchantType.ofNat_ctorIdx e, ← UnitEnchantType.ofNat_ctorIdx e']
  exact congrArg _ same

theorem mem_all (e : UnitEnchantType) : e ∈ all :=
  List.mem_map.mpr ⟨e.index, List.mem_range.mpr e.index_lt, UnitEnchantType.ofNat_ctorIdx e⟩

theorem nodup_all : all.Nodup := by decide

end UnitEnchantType

namespace Unit

/-! ### What is seen of an enchantment -/

/-- Its flag and its count. -/
def enchantment (e : UnitEnchantType) (u : Unit) : Bool × Int16 := (u.hasEnchant e, u.auraTimes e)

theorem hasEnchant_eq (u : Unit) (e : UnitEnchantType) :
    u.hasEnchant e = u.auras.getLsbD e.index := by
  have bit : u.auras &&& 1#32 <<< e.index = u.auras &&& BitVec.twoPow 32 e.index := rfl
  rw [hasEnchant, bit, BitVec.and_twoPow]
  cases u.auras.getLsbD e.index with
  | false => rfl
  | true =>
      rw [if_pos rfl, decide_eq_true_eq]
      intro zero
      have off := congrArg (fun x => x.getLsbD e.index) zero
      simp [e.index_lt] at off

variable (u : Unit) (e : UnitEnchantType)

theorem auras_setEnchant (frames : Int16) :
    (u.setEnchant e frames).auras = u.auras ||| 1#32 <<< e.index := by
  obtain ⟨out, same⟩ := u.setEnchant_eq e frames
  rw [same]

theorem auraTimes_setEnchant (frames : Int16) :
    (u.setEnchant e frames).auraTimes = Function.update u.auraTimes e (startTime e frames) := by
  obtain ⟨out, same⟩ := u.setEnchant_eq e frames
  rw [same]

theorem auras_unsetEnchant : (u.unsetEnchant e).auras = u.auras &&& ~~~(1#32 <<< e.index) := by
  obtain ⟨out, same⟩ := u.unsetEnchant_eq e
  rw [same]

theorem auraTimes_unsetEnchant :
    (u.unsetEnchant e).auraTimes = Function.update u.auraTimes e 0 := by
  obtain ⟨out, same⟩ := u.unsetEnchant_eq e
  rw [same]

theorem getLsbD_bit (e e' : UnitEnchantType) :
    (1#32 <<< e.index).getLsbD e'.index = decide (e = e') := by
  have bit : (1#32 <<< e.index) = BitVec.twoPow 32 e.index := rfl
  rw [bit, BitVec.getLsbD_twoPow, decide_eq_true e.index_lt, Bool.true_and]
  exact decide_eq_decide.mpr ⟨UnitEnchantType.index_injective, congrArg _⟩

theorem hasEnchant_setEnchant_self (frames : Int16) :
    (u.setEnchant e frames).hasEnchant e = true := by
  rw [hasEnchant_eq, auras_setEnchant, BitVec.getLsbD_or, getLsbD_bit]
  simp

theorem enchantment_setEnchant_self (frames : Int16) :
    (u.setEnchant e frames).enchantment e = (true, startTime e frames) := by
  rw [enchantment, hasEnchant_setEnchant_self, auraTimes_setEnchant, Function.update_self]

theorem enchantment_setEnchant_of_ne {e e' : UnitEnchantType} (other : e ≠ e') (frames : Int16) :
    (u.setEnchant e frames).enchantment e' = u.enchantment e' := by
  rw [enchantment, enchantment, hasEnchant_eq, hasEnchant_eq, auras_setEnchant,
    BitVec.getLsbD_or, getLsbD_bit, decide_eq_false other, Bool.or_false, auraTimes_setEnchant,
    Function.update_of_ne (Ne.symm other)]

theorem enchantment_unsetEnchant_self : (u.unsetEnchant e).enchantment e = (false, 0) := by
  have off : (u.unsetEnchant e).hasEnchant e = false := by
    rw [hasEnchant_eq, auras_unsetEnchant, BitVec.getLsbD_and, BitVec.getLsbD_not, getLsbD_bit]
    simp
  rw [enchantment, off, auraTimes_unsetEnchant, Function.update_self]

theorem enchantment_unsetEnchant_of_ne {e e' : UnitEnchantType} (other : e ≠ e') :
    (u.unsetEnchant e).enchantment e' = u.enchantment e' := by
  rw [enchantment, enchantment, hasEnchant_eq, hasEnchant_eq, auras_unsetEnchant,
    BitVec.getLsbD_and, BitVec.getLsbD_not, getLsbD_bit, decide_eq_false other,
    decide_eq_true e'.index_lt, Bool.not_false, Bool.and_true, Bool.and_true,
    auraTimes_unsetEnchant, Function.update_of_ne (Ne.symm other)]

/-! ### What a frame does to it -/

/-- The count of a frame, of one enchantment. -/
def counted : Bool × Int16 → Bool × Int16
  | (on, time) =>
      if 0 < time then (on, time - 1)
      else if time = 0 ∧ on then (false, 0)
      else (on, time)

theorem enchantment_countDown_self : (u.countDown e).enchantment e = counted (u.enchantment e) := by
  unfold countDown counted enchantment
  dsimp only
  split
  · dsimp only
    rw [Function.update_self]
    rfl
  · split
    · exact enchantment_unsetEnchant_self u e
    · rfl

theorem enchantment_countDown_of_ne {e e' : UnitEnchantType} (other : e ≠ e') :
    (u.countDown e).enchantment e' = u.enchantment e' := by
  unfold countDown
  split
  · unfold enchantment
    dsimp only
    rw [Function.update_of_ne (Ne.symm other)]
    rfl
  · split
    · exact enchantment_unsetEnchant_of_ne u other
    · rfl

theorem enchantment_updateEnchants : u.updateEnchants.enchantment e = counted (u.enchantment e) :=
  seen_foldl_of_mem enchantment (fun u _ _ => enchantment_countDown_of_ne u) (fun _ => counted)
    enchantment_countDown_self u UnitEnchantType.nodup_all (UnitEnchantType.mem_all e)

theorem enchantment_setActionAnim (anim : UnitActionType) (frames : UInt32) :
    (u.setActionAnim anim frames).1.enchantment e = u.enchantment e := by
  obtain ⟨_, _, _, _, same⟩ := u.setActionAnim_eq anim frames
  rw [same]
  rfl

theorem enchantment_unsneak (kept : ¬(e = .sneak ∧ u.hasEnchant .sneak)) :
    u.unsneak.enchantment e = u.enchantment e := by
  unfold unsneak
  split
  · next sneaks =>
      exact enchantment_unsetEnchant_of_ne u fun same => kept ⟨same.symm, sneaks⟩
  · rfl

theorem enchantment_updateAction {time : UInt32}
    (kept : ¬(e = .sneak ∧ u.isDead = false ∧ u.actionEnds time ∧ u.hasEnchant .sneak)) :
    (u.updateAction time).enchantment e = u.enchantment e := by
  cases life : u.isDead with
  | true =>
      unfold updateAction
      rw [if_pos life]
      rfl
  | false =>
      obtain ⟨_, _, _, _, same⟩ := u.updateAction_eq life time
      rw [same]
      split
      · next ends =>
          exact enchantment_unsneak u e fun both => kept ⟨both.1, life, ends, both.2⟩
      · rfl

theorem enchantment_updatePoison : u.updatePoison.enchantment e = u.enchantment e := by
  unfold updatePoison
  dsimp only
  split
  · split <;> rfl
  · split
    · split <;> rfl
    · split <;> rfl

theorem enchantment_updateSpeed : u.updateSpeed.enchantment e = u.enchantment e := by
  obtain ⟨_, same⟩ := u.updateSpeed_eq
  rw [same]
  rfl

theorem enchantment_updateAnim (time : UInt32) :
    (u.updateAnim time).enchantment e = u.enchantment e := by
  obtain ⟨_, _, _, same⟩ := u.updateAnim_eq time
  rw [same]
  rfl

theorem enchantment_reportEnchants : u.reportEnchants.enchantment e = u.enchantment e := by
  obtain ⟨_, _, same⟩ := u.reportEnchants_eq
  rw [same]
  rfl

theorem enchantment_update (time : UInt32) :
    (u.update time).enchantment e = counted ((u.updateAction time).enchantment e) :=
  calc (u.update time).enchantment e
      = (u.updateAction time).updatePoison.updateSpeed.updateEnchants.enchantment e :=
        (enchantment_reportEnchants ..).trans (enchantment_updateAnim ..)
    _ = counted ((u.updateAction time).updatePoison.updateSpeed.enchantment e) :=
        enchantment_updateEnchants ..
    _ = counted ((u.updateAction time).enchantment e) :=
        congrArg _ ((enchantment_updateSpeed ..).trans (enchantment_updatePoison ..))

end Unit

/-! ### Runs -/

/-- The action sets or unsets the enchantment; an update does if it ends the action of a unit that
sneaks. -/
def Touches (e : UnitEnchantType) (u : Unit) : UnitAction → Prop
  | .update time => e = .sneak ∧ u.isDead = false ∧ u.actionEnds time ∧ u.hasEnchant .sneak
  | .setEnchant enchant _ => enchant = e
  | .unsetEnchant enchant => enchant = e
  | .resetEnchants => True
  | _ => False

/-- The actions that do not touch the enchantment. -/
def Undisturbed (e : UnitEnchantType) : Unit → UnitAction → Unit → Prop :=
  guarded (fun u action => ¬Touches e u action) Step

/-- What actions that do not touch an enchantment do to it. -/
theorem enchantment_apply {u : Unit} {e : UnitEnchantType} {action : UnitAction}
    (kept : ¬Touches e u action) :
    (u.apply action).enchantment e =
      Unit.counted^[updates [action]] (u.enchantment e) := by
  cases action with
  | update time =>
      rw [Unit.apply, Unit.enchantment_update, u.enchantment_updateAction e kept]
      rfl
  | setEnchant enchant frames => exact u.enchantment_setEnchant_of_ne kept frames
  | unsetEnchant enchant => exact u.enchantment_unsetEnchant_of_ne kept
  | resetEnchants => exact absurd trivial kept
  | poison poisoned poisoner =>
      obtain ⟨_, same⟩ := u.poisonBy_eq poisoned poisoner
      rw [Unit.apply, same]
      rfl
  | setActionAnim anim frames => exact u.enchantment_setActionAnim e anim frames
  | resetActionAnim => rfl
  | other health shield speed maxSpeed angle => rfl

theorem updates_cons (action : UnitAction) (actions : List UnitAction) :
    updates (action :: actions) = updates actions + updates [action] := by
  cases action <;> rfl

/-- In a run that does not touch an enchantment the updates count it down. -/
theorem enchantment_run {u v : Unit} {e : UnitEnchantType} {actions : List UnitAction}
    (run : Run (Undisturbed e) u actions v) :
    v.enchantment e = Unit.counted^[updates actions] (u.enchantment e) := by
  induction run with
  | nil u => rfl
  | cons first _ ih =>
      obtain ⟨kept, rfl⟩ := first
      rw [ih, enchantment_apply kept, ← Function.iterate_add_apply, ← updates_cons]

/-! ### How long an enchantment lasts -/

theorem pos_iff (time : Int16) : 0 < time ↔ 0 < time.toInt := Int16.lt_iff_toInt_lt

theorem counted_of_pos {time : Int16} (pos : 0 < time.toInt) :
    Unit.counted (true, time) = (true, time - 1) ∧ (time - 1).toInt = time.toInt - 1 := by
  refine ⟨if_pos ((pos_iff time).mpr pos), ?_⟩
  have below := time.toInt_lt
  have one : (1 : Int16).toInt = 1 := rfl
  rw [Int16.toInt_sub, one]
  exact Int.bmod_eq_of_le (by norm_num; omega) (by norm_num; omega)

theorem counted_of_neg {time : Int16} (neg : time.toInt < 0) :
    Unit.counted (true, time) = (true, time) := by
  have notPos : ¬0 < time := fun pos => Int.lt_asymm neg ((pos_iff time).mp pos)
  have notZero : ¬(time = 0 ∧ true = true) := fun zero => by
    rw [zero.1] at neg
    cases neg
  exact (if_neg notPos).trans (if_neg notZero)

/-- A count that is not negative ends. -/
theorem iterate_counted {time : Int16} {left : Nat} (eq : time.toInt = left) (count : Nat) :
    (Unit.counted^[count] (true, time)).1 = true ↔ count ≤ left := by
  induction count generalizing time left with
  | zero => exact iff_of_true rfl (Nat.zero_le left)
  | succ count ih =>
      rw [Function.iterate_succ_apply]
      cases left with
      | zero =>
          obtain rfl : time = 0 := Int16.toInt_inj.mp eq
          have off : Unit.counted^[count] (false, 0) = (false, 0) :=
            Function.iterate_fixed rfl count
          have first : Unit.counted (true, 0) = (false, 0) := rfl
          rw [first, off]
          exact iff_of_false Bool.false_ne_true (Nat.not_succ_le_zero count)
      | succ left =>
          have pos : 0 < time.toInt := by omega
          have less : (time - 1).toInt = left := (counted_of_pos pos).2.trans (by omega)
          rw [(counted_of_pos pos).1, ih less, Nat.add_le_add_iff_right]

/-- A negative count stays. -/
theorem iterate_counted_of_neg {time : Int16} (neg : time.toInt < 0) (count : Nat) :
    Unit.counted^[count] (true, time) = (true, time) :=
  Function.iterate_fixed (counted_of_neg neg) count

/-- The enchantment lasts for as many updates as it was set for, and no longer, if it is left
alone. -/
def Lasts (u : Unit) (e : UnitEnchantType) (duration : Int32) : Prop :=
  ∀ actions v,
    Run (Undisturbed e) (u.setEnchant e (Int16.ofInt duration.toInt)) actions v →
    (updates actions ≤ duration.toInt → v.hasEnchant e = true) ∧
      (updates actions = duration.toInt + 1 → v.hasEnchant e = false)

/-- Updates in no time end no action. -/
theorem run_updates (e : UnitEnchantType) (count : Nat) (u : Unit) :
    ∃ v, Run (Undisturbed e) u (List.replicate count (.update 0)) v := by
  induction count generalizing u with
  | zero => exact ⟨u, .nil u⟩
  | succ count ih =>
      obtain ⟨v, run⟩ := ih (u.update 0)
      refine ⟨v, .cons ⟨fun touches => ?_, rfl⟩ run⟩
      have ends := of_decide_eq_true touches.2.2.1
      exact absurd ends.2 (UInt32.not_lt_zero)

theorem updates_replicate (count : Nat) : updates (List.replicate count (.update 0)) = count := by
  induction count with
  | zero => rfl
  | succ count ih => exact congrArg (· + 1) ih

/-- After any number of such updates the count has run as long. -/
theorem exists_run (u : Unit) (e : UnitEnchantType) (frames : Int16) (count : Nat) :
    ∃ actions v, Run (Undisturbed e) (u.setEnchant e frames) actions v ∧
      updates actions = count ∧
        v.hasEnchant e = (Unit.counted^[count] (true, Unit.startTime e frames)).1 := by
  obtain ⟨v, run⟩ := run_updates e count (u.setEnchant e frames)
  have left := enchantment_run run
  rw [u.enchantment_setEnchant_self, updates_replicate] at left
  exact ⟨_, v, run, updates_replicate count, congrArg Prod.fst left⟩

section Lasting

variable {u : Unit} {e : UnitEnchantType} {duration : Int32}

/-- With a negative count the enchantment does not end. -/
theorem not_lasts_of_neg (one_le : 1 ≤ duration.toInt)
    (neg : (Unit.startTime e (Int16.ofInt duration.toInt)).toInt < 0) : ¬Lasts u e duration := by
  intro lasts
  obtain ⟨actions, v, run, count, has⟩ :=
    exists_run u e (Int16.ofInt duration.toInt) (duration.toInt.toNat + 1)
  have ended := (lasts actions v run).2 (by omega)
  rw [has, iterate_counted_of_neg neg] at ended
  cases ended

/-- With a count shorter than the duration the enchantment ends before it. -/
theorem not_lasts_of_shorter
    (nonneg : 0 ≤ (Unit.startTime e (Int16.ofInt duration.toInt)).toInt)
    (shorter : (Unit.startTime e (Int16.ofInt duration.toInt)).toInt < duration.toInt) :
    ¬Lasts u e duration := by
  intro lasts
  obtain ⟨left, eq⟩ := Int.eq_ofNat_of_zero_le nonneg
  obtain ⟨actions, v, run, count, has⟩ := exists_run u e (Int16.ofInt duration.toInt) (left + 1)
  have still := (lasts actions v run).1 (by omega)
  rw [has, iterate_counted eq] at still
  omega

/-- Within sixteen bits the count starts with the duration. -/
theorem toInt_startTime (one_le : 1 ≤ duration.toInt) (short : duration.toInt ≤ 32767) :
    (Unit.startTime e (Int16.ofInt duration.toInt)).toInt = duration.toInt := by
  have asked : (Int16.ofInt duration.toInt).toInt = duration.toInt :=
    Int16.toInt_ofInt_of_le (by omega) (by omega)
  have start : Unit.startTime e (Int16.ofInt duration.toInt) = Int16.ofInt duration.toInt := by
    refine if_pos fun zero => ?_
    have none : (0 : Int16).toInt = 0 := rfl
    rw [zero] at asked
    omega
  rw [start, asked]

theorem lasts_of_short (one_le : 1 ≤ duration.toInt) (short : duration.toInt ≤ 32767) :
    Lasts u e duration := by
  intro actions v run
  have left : v.hasEnchant e = (Unit.counted^[updates actions] _).1 :=
    congrArg Prod.fst (enchantment_run run)
  rw [u.enchantment_setEnchant_self] at left
  have eq := (toInt_startTime (e := e) one_le short).trans
    (Int.toNat_of_nonneg (by omega : 0 ≤ duration.toInt)).symm
  have ends := iterate_counted eq (updates actions)
  rw [← left] at ends
  constructor
  · intro early
    exact ends.mpr (by omega)
  · intro late
    rw [← Bool.not_eq_true, ends]
    omega

end Lasting

/-- An enchantment lasts as long as it was asked to exactly if that is within sixteen bits with
sign: it is there after each of the first `duration` updates and gone after one more, in every run
of what leaves it alone. -/
theorem lasts_iff (u : Unit) (e : UnitEnchantType) {duration : Int32} (one_le : 1 ≤ duration) :
    Lasts u e duration ↔ duration ≤ 32767 := by
  have pos : 1 ≤ duration.toInt := Int32.le_iff_toInt_le.mp one_le
  have within : duration ≤ 32767 ↔ duration.toInt ≤ 32767 := Int32.le_iff_toInt_le
  rw [within]
  constructor
  · intro lasts
    by_contra long
    have small := (Unit.startTime e (Int16.ofInt duration.toInt)).toInt_lt
    rcases Int.lt_or_le (Unit.startTime e (Int16.ofInt duration.toInt)).toInt 0 with neg | nonneg
    · exact not_lasts_of_neg pos neg lasts
    · exact not_lasts_of_shorter nonneg (by omega) lasts
  · exact lasts_of_short pos

/-- The eye of the wolf, for the frames it has without a configuration. -/
theorem lasts_eyeOfWolf : Lasts {} .infravision 300 ↔ (300 : Int32) ≤ 32767 :=
  lasts_iff {} .infravision (by decide)

/-- Treading lightly, for the frames it has without a configuration, does not end. -/
theorem not_lasts_treadLightly : ¬Lasts {} .sneak 99999 :=
  not_lasts_of_neg (by decide) (by decide)

end NoxServer.Units
