import NoxServer.Objects.Enchants

/-!
The enchantments of a unit as bits and as counts, and the packet about them.

Every write of a bit of `m_auras` comes with one of the count in `m_aura_times` and sets
`MASK_ENCHANTMENTS`. So only what is on is counted (`Coupled`), and a change is either still to be
reported or has been (`Noted`), whatever the durations are (`enchantments_coupled`).
-/

namespace NoxServer.Units

open Runs

/-- The output is a `MSG_REPORT_ENCHANTMENT`. -/
def Output.reportsEnchants : Output → Bool
  | .sound _ => false
  | .toAll packet => packet.opcode = 0x5A

namespace Unit

/-- Only enchantments that are on have a count. -/
def Coupled (u : Unit) : Prop := ∀ e, u.auraTimes e ≠ 0 → u.hasEnchant e = true

/-- The enchantments are to be reported. -/
def Pending (u : Unit) : Prop := u.updateMask &&& maskEnchantments ≠ 0

/-- The packets about enchantments so far. -/
def reports (u : Unit) : List Output := u.out.filter (·.reportsEnchants)

/-- What an operation on an enchantment leaves of the others, and an update of each one that it does
not end with the action. -/
structure Separate (u : Unit) : Prop where
  set : ∀ e e' frames, e ≠ e' → (u.setEnchant e frames).enchantment e' = u.enchantment e'
  unset : ∀ e e', e ≠ e' → (u.unsetEnchant e).enchantment e' = u.enchantment e'
  update : ∀ time e, e ≠ .sneak →
    (u.update time).enchantment e = counted (u.enchantment e)

/-- What is pending, or is changed, is in a packet at the end of an update. -/
def Reporting (u : Unit) : Prop :=
  ∀ time, u.Pending ∨ (u.update time).auras ≠ u.auras →
    (u.update time).reports = u.reports ++ [.toAll (u.update time).buildEnchantsPacket] ∧
      ¬ (u.update time).Pending

/-! ### Bits and counts -/

section Coupling

variable {u : Unit}

theorem coupled_iff : u.Coupled ↔ ∀ e, (u.enchantment e).2 ≠ 0 → (u.enchantment e).1 = true :=
  Iff.rfl

/-- A frame counts what is on, and leaves no count of what it ends. -/
theorem counted_coupled {p : Bool × Int16} (coupled : p.2 ≠ 0 → p.1 = true) :
    (counted p).2 ≠ 0 → (counted p).1 = true := by
  obtain ⟨on, time⟩ := p
  unfold counted
  dsimp only at coupled ⊢
  split
  · next pos =>
      intro _
      refine coupled fun zero => ?_
      rw [zero] at pos
      exact absurd pos (by decide)
  · split
    · exact fun still => absurd rfl still
    · exact coupled

/-- The action of a frame leaves an enchantment, or ends the sneaking. -/
theorem enchantment_updateAction_cases (u : Unit) (time : UInt32) (e : UnitEnchantType) :
    (u.updateAction time).enchantment e = u.enchantment e ∨
      (e = .sneak ∧ (u.updateAction time).enchantment e = (false, 0)) := by
  by_cases ends : e = .sneak ∧ u.isDead = false ∧ u.actionEnds time ∧ u.hasEnchant .sneak
  · obtain ⟨rfl, alive, done, sneaks⟩ := ends
    obtain ⟨_, _, _, _, same⟩ := u.updateAction_eq alive time
    refine .inr ⟨rfl, ?_⟩
    rw [same, if_pos done, unsneak, if_pos sneaks]
    exact enchantment_unsetEnchant_self u .sneak
  · exact .inl (u.enchantment_updateAction e ends)

/-- Whatever is done to a unit keeps its enchantments coupled; there is a case for each action. -/
theorem apply_coupled (coupled : u.Coupled) (action : UnitAction) : (u.apply action).Coupled := by
  rw [coupled_iff] at coupled ⊢
  intro e
  cases action with
  | update time =>
      rw [apply, enchantment_update]
      refine counted_coupled ?_
      rcases u.enchantment_updateAction_cases time e with same | ⟨-, ended⟩
      · rw [same]
        exact coupled e
      · rw [ended]
        exact fun still => absurd rfl still
  | setEnchant enchant frames =>
      rw [apply]
      by_cases here : enchant = e
      · subst here
        rw [enchantment_setEnchant_self]
        exact fun _ => rfl
      · rw [enchantment_setEnchant_of_ne u here]
        exact coupled e
  | unsetEnchant enchant =>
      rw [apply]
      by_cases here : enchant = e
      · subst here
        rw [enchantment_unsetEnchant_self]
        exact fun still => absurd rfl still
      · rw [enchantment_unsetEnchant_of_ne u here]
        exact coupled e
  | resetEnchants => exact fun still => absurd rfl still
  | poison poisoned poisoner =>
      obtain ⟨_, same⟩ := u.poisonBy_eq poisoned poisoner
      rw [apply, same]
      exact coupled e
  | setActionAnim anim frames =>
      rw [apply, enchantment_setActionAnim]
      exact coupled e
  | resetActionAnim => exact coupled e
  | other health shield speed maxSpeed angle => exact coupled e

theorem separate (u : Unit) : u.Separate where
  set _ _ frames other := enchantment_setEnchant_of_ne u other frames
  unset _ _ other := enchantment_unsetEnchant_of_ne u other
  update time e other := by
    rw [enchantment_update, u.enchantment_updateAction e fun ends => other ends.1]

end Coupling

/-! ### Changes -/

/-- What was pending still is, what was changed is pending, and nothing was reported. -/
structure Noted (u v : Unit) : Prop where
  pending : u.Pending → v.Pending
  changed : v.auras ≠ u.auras → v.Pending
  reports : v.reports = u.reports

section Notes

variable {u v w : Unit}

theorem or_mask (mask : UInt32) :
    (mask ||| maskEnchantments) &&& maskEnchantments = maskEnchantments := by
  rw [← UInt32.toBitVec_inj, UInt32.toBitVec_and, UInt32.toBitVec_or]
  ext i inside
  simp only [BitVec.getElem_and, BitVec.getElem_or]
  cases maskEnchantments.toBitVec[i] <;> simp

theorem not_mask (mask : UInt32) : (mask &&& ~~~maskEnchantments) &&& maskEnchantments = 0 := by
  rw [UInt32.and_assoc]
  simp [maskEnchantments]

theorem pending_of_or {mask : UInt32} (set : u.updateMask = mask ||| maskEnchantments) :
    u.Pending := by
  rw [Pending, set, or_mask]
  decide

theorem Noted.refl (u : Unit) : Noted u u := ⟨id, fun other => absurd rfl other, rfl⟩

theorem Noted.trans (first : Noted u v) (second : Noted v w) : Noted u w := by
  refine ⟨second.pending ∘ first.pending, fun other => ?_, second.reports.trans first.reports⟩
  by_cases same : w.auras = v.auras
  · exact second.pending (first.changed (same ▸ other))
  · exact second.changed same

/-- A unit with the same enchantments and flags, and no more packets about them. -/
theorem Noted.same (mask : v.updateMask = u.updateMask) (auras : v.auras = u.auras)
    (reports : v.reports = u.reports) : Noted u v := by
  refine ⟨fun pending => ?_, fun other => absurd auras other, reports⟩
  rw [Pending, mask]
  exact pending

theorem reports_emitEnchantSound (sound : EnchantEntry → Int8) (e : UnitEnchantType) :
    (u.emitEnchantSound sound e).reports = u.reports := by
  unfold emitEnchantSound
  split
  · rw [reports, emitSound, List.filter_append]
    exact List.append_nil _
  · rfl

theorem setEnchant_noted (u : Unit) (e : UnitEnchantType) (frames : Int16) :
    Noted u (u.setEnchant e frames) := by
  obtain ⟨_, same⟩ := u.setEnchant_eq e frames
  have pending : (u.setEnchant e frames).Pending := pending_of_or (congrArg updateMask same)
  exact ⟨fun _ => pending, fun _ => pending, reports_emitEnchantSound _ _⟩

theorem unsetEnchant_noted (u : Unit) (e : UnitEnchantType) : Noted u (u.unsetEnchant e) := by
  obtain ⟨_, same⟩ := u.unsetEnchant_eq e
  have pending : (u.unsetEnchant e).Pending := pending_of_or (congrArg updateMask same)
  exact ⟨fun _ => pending, fun _ => pending, reports_emitEnchantSound _ _⟩

theorem resetEnchants_noted (u : Unit) : Noted u u.resetEnchants :=
  have pending : u.resetEnchants.Pending := pending_of_or rfl
  ⟨fun _ => pending, fun _ => pending, rfl⟩

theorem setActionAnim_noted (u : Unit) (anim : UnitActionType) (frames : UInt32) :
    Noted u (u.setActionAnim anim frames).1 := by
  obtain ⟨_, _, _, _, same⟩ := u.setActionAnim_eq anim frames
  rw [same]
  exact .same rfl rfl rfl

theorem updateAction_noted (u : Unit) (time : UInt32) : Noted u (u.updateAction time) := by
  cases life : u.isDead with
  | true =>
      rw [updateAction, if_pos life]
      exact .same rfl rfl rfl
  | false =>
      obtain ⟨_, _, _, _, same⟩ := u.updateAction_eq life time
      have ended : Noted u (if u.actionEnds time then u.unsneak else u) := by
        split
        · unfold unsneak
          split
          · exact unsetEnchant_noted u .sneak
          · exact .refl u
        · exact .refl u
      rw [same]
      exact ended.trans (.same rfl rfl rfl)

theorem updatePoison_noted (u : Unit) : Noted u u.updatePoison := by
  unfold updatePoison
  dsimp only
  split
  · split <;> exact .same rfl rfl rfl
  · split
    · split <;> exact .same rfl rfl rfl
    · split <;> exact .same rfl rfl rfl

theorem updateSpeed_noted (u : Unit) : Noted u u.updateSpeed := by
  obtain ⟨_, same⟩ := u.updateSpeed_eq
  rw [same]
  exact .same rfl rfl rfl

theorem countDown_noted (u : Unit) (e : UnitEnchantType) : Noted u (u.countDown e) := by
  unfold countDown
  split
  · exact .same rfl rfl rfl
  · split
    · exact unsetEnchant_noted u e
    · exact .refl u

theorem updateEnchants_noted (u : Unit) : Noted u u.updateEnchants := by
  unfold updateEnchants
  induction UnitEnchantType.all generalizing u with
  | nil => exact .refl u
  | cons e rest ih => exact (countDown_noted u e).trans (ih (u.countDown e))

theorem updateAnim_noted (u : Unit) (time : UInt32) : Noted u (u.updateAnim time) := by
  have drawn : u.reports ++ [Output.toAll u.drawFramePacket].filter (·.reportsEnchants) =
      u.reports := List.append_nil _
  rw [reports, ← List.filter_append] at drawn
  unfold updateAnim
  split
  · dsimp only
    split
    · exact .same rfl rfl drawn
    · exact .same rfl rfl drawn
  · exact .refl u

/-- The report is the last thing an update does. -/
theorem update_reports (u : Unit) (time : UInt32) :
    ∃ w, Noted u w ∧ u.update time = w.reportEnchants :=
  ⟨_, (updateAction_noted u time).trans ((updatePoison_noted _).trans ((updateSpeed_noted _).trans
    ((updateEnchants_noted _).trans (updateAnim_noted _ time)))), rfl⟩

theorem reportEnchants_pending (pending : u.Pending) :
    u.reportEnchants.reports = u.reports ++ [.toAll u.reportEnchants.buildEnchantsPacket] ∧
      ¬ u.reportEnchants.Pending := by
  have flagged : u.updateMask &&& maskEnchantments ≠ 0 := pending
  rw [reportEnchants, if_pos flagged]
  refine ⟨?_, fun still => still (not_mask _)⟩
  rw [reports, List.filter_append]
  rfl

theorem reporting (u : Unit) : u.Reporting := by
  intro time due
  obtain ⟨w, noted, same⟩ := update_reports u time
  have auras : w.reportEnchants.auras = w.auras := by
    obtain ⟨_, _, same⟩ := w.reportEnchants_eq
    rw [same]
  have pending : w.Pending := by
    rcases due with pending | changed
    · exact noted.pending pending
    · exact noted.changed fun none => changed (by rw [same, auras, none])
  obtain ⟨report, done⟩ := reportEnchants_pending pending
  rw [same, ← noted.reports]
  exact ⟨report, done⟩

/-- An action reports, or notes what it changes. -/
theorem apply_noted (u : Unit) (action : UnitAction) :
    Noted u (u.apply action) ∨
      ∃ report, report.reportsEnchants = true ∧
        (u.apply action).reports = u.reports ++ [report] := by
  cases action with
  | update time =>
      obtain ⟨w, noted, same⟩ := update_reports u time
      by_cases pending : w.Pending
      · obtain ⟨report, -⟩ := reportEnchants_pending pending
        refine .inr ⟨_, ?_, by rw [apply, same, report, noted.reports]⟩
        rfl
      · have quiet : w.reportEnchants = w := if_neg pending
        refine .inl ?_
        rw [apply, same, quiet]
        exact noted
  | setEnchant enchant frames => exact .inl (setEnchant_noted u enchant frames)
  | unsetEnchant enchant => exact .inl (unsetEnchant_noted u enchant)
  | resetEnchants => exact .inl (resetEnchants_noted u)
  | poison poisoned poisoner =>
      obtain ⟨_, same⟩ := u.poisonBy_eq poisoned poisoner
      rw [apply, same]
      exact .inl (.same rfl rfl rfl)
  | setActionAnim anim frames => exact .inl (setActionAnim_noted u anim frames)
  | resetActionAnim => exact .inl (.same rfl rfl rfl)
  | other health shield speed maxSpeed angle => exact .inl (.same rfl rfl rfl)

end Notes

end Unit

/-! ### Runs -/

section Runs

variable {u v : Unit} {actions : List UnitAction}

/-- Packets are never taken back. -/
theorem reports_run (run : Run Step u actions v) : u.reports <+: v.reports := by
  induction run with
  | nil u => exact List.prefix_refl _
  | cons first _ ih =>
      obtain rfl := first
      refine List.IsPrefix.trans ?_ ih
      rcases Unit.apply_noted _ _ with noted | ⟨report, -, grown⟩
      · rw [noted.reports]
      · rw [grown]
        exact List.prefix_append _ _

/-- A run without a packet about enchantments notes what it changes. -/
theorem noted_run (run : Run Step u actions v) (silent : v.reports = u.reports) :
    Unit.Noted u v := by
  induction run with
  | nil u => exact .refl u
  | @cons s m t action _ first rest ih =>
      obtain rfl := first
      have grows := reports_run rest
      rcases s.apply_noted action with noted | ⟨report, -, grown⟩
      · exact noted.trans (ih (silent.trans noted.reports.symm))
      · rw [grown, silent] at grows
        have shorter := grows.length_le
        rw [List.length_append, List.length_singleton] at shorter
        omega

/-- From a new unit on, only what is on is counted, the enchantments do not disturb each other, and
what was changed since the last packet is pending until the next one, which is sent before the end
of an update. -/
theorem enchantments_coupled (run : Run Step u.initRespawn actions v) :
    v.Coupled ∧ v.Separate ∧ v.Reporting ∧
      ∀ m x first second, Run Step m first x → Run Step x second v → x.auras ≠ m.auras →
        v.reports = m.reports → v.Pending := by
  have coupled : v.Coupled :=
    run.invariant (fun u action v held step => step ▸ Unit.apply_coupled held action)
      fun _ counted => absurd rfl counted
  refine ⟨coupled, v.separate, v.reporting, ?_⟩
  intro m x first second before after changed silent
  -- no packet is sent in either part
  have between : x.reports = m.reports :=
    ((silent ▸ reports_run after).eq_of_length_le (reports_run before).length_le)
  exact (noted_run after (silent.trans between.symm)).pending
    ((noted_run before between).changed changed)

/-- Light is set, and counted down once. -/
theorem enchantments_coupled_light :
    ∃ v, Run Step ({} : Unit).initRespawn [.setEnchant .light 2, .update 100] v ∧
      v.Coupled ∧ v.Reporting := by
  have run : Run Step ({} : Unit).initRespawn [.setEnchant .light 2, .update 100] _ :=
    .cons rfl (.single rfl)
  obtain ⟨coupled, -, reporting, -⟩ := enchantments_coupled run
  exact ⟨_, run, coupled, reporting⟩

end Runs

end NoxServer.Units
