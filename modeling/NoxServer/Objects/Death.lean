import Mathlib.Data.Finset.Sort
import NoxServer.Objects.Equipment

/-!
What a dead player drops (`Object::Die`, `Object::DropAll`).

Each object is taken out where the player is, and out of the first slot it is in. So nothing is left
as long as the slots hold what the player has, each thing once: no object is put on that the player
does not have, and none into a second slot (`die_drops_all`).
-/

namespace NoxServer

namespace Objects

open Slots Runs

/-- `m_inventory`, in the order in which a set of pointers is iterated. -/
def inventoryList (w : Objects) (owner : Ref) : List Ref :=
  Finset.sort (((w.heap owner).map fun o => o.inventory).getD ∅) (· ≤ ·)

def dropAll (w : Objects) (owner : Ref) : Objects :=
  let pos := w.getPosition owner
  (w.inventoryList owner).foldl (fun w obj => w.removeFromInventory owner obj pos) w

def die (w : Objects) (plr : Ref) : Objects :=
  (w.dropAll plr).modifyPlayer plr fun p => { p with health := 0 }

section DropAll

variable {w : Objects} {plr x y : Ref} {pos : GridPair}

theorem mem_inventoryList : x ∈ w.inventoryList plr ↔ w.inMyInventory plr x := by
  unfold inventoryList inMyInventory
  cases w.heap plr <;> simp

/-- What is taken out lies there, and the rest of the things are where they were. -/
theorem getPosition_removeFromInventory (live : w.isLive x) (mem : w.inMyInventory plr x) :
    (w.removeFromInventory plr x pos).getPosition y = if y = x then pos else w.getPosition y := by
  have taken : (w.dequip plr x).1.getPosition = w.getPosition := by
    unfold dequip
    split
    · exact getPosition_modify fun _ => rfl
    · rfl
  have lives : (w.dequip plr x).1.isLive = w.isLive := (sameThings_dequip w plr x).isLive
  have erased (w : Objects) : (w.eraseInventory plr x).getPosition = w.getPosition :=
    getPosition_modify fun _ => rfl
  rw [removeFromInventory_of_mem mem, erased]
  split
  · rw [getPosition_setPosition (lives ▸ live), taken]
  · exact getPosition_setPosition live

theorem getPosition_of_inAnInventory (marked : w.inAnInventory x) :
    w.getPosition x = inventoryPosition := by
  unfold inAnInventory at marked
  cases found : w.heap x with
  | none => simp [found] at marked
  | some o => simpa [getPosition, found] using marked

theorem inMyInventory_removeFromInventory_iff (mem : w.inMyInventory plr x) :
    (w.removeFromInventory plr x pos).inMyInventory plr y ↔ w.inMyInventory plr y ∧ y ≠ x := by
  have same (owner : Ref) : (if w.isPlayer plr then (w.dequip plr x).1 else w).inMyInventory owner =
      w.inMyInventory owner := by
    split
    · rw [(sameThings_dequip w plr x).inMyInventory]
    · rfl
  rw [removeFromInventory_of_mem mem, inMyInventory_eraseInventory]
  simp [same]

/-- The loop takes out what it comes by and puts it where it is told; the slots stay right. -/
theorem foldl_removeFromInventory (pos : GridPair) {list : List Ref} (dressed : Dressed w)
    (player : w.isPlayer plr) (nodup : list.Nodup) (mem : ∀ x ∈ list, w.inMyInventory plr x) :
    let w' := list.foldl (fun w obj => w.removeFromInventory plr obj pos) w
    Dressed w' ∧ w'.isPlayer plr ∧
      (∀ y, w'.inMyInventory plr y ↔ w.inMyInventory plr y ∧ y ∉ list) ∧
      ∀ y, w'.getPosition y = if y ∈ list then pos else w.getPosition y := by
  induction list generalizing w with
  | nil => simp [dressed, player]
  | cons x rest ih =>
      obtain ⟨once, nodup⟩ := List.nodup_cons.mp nodup
      have here := mem x List.mem_cons_self
      have live : w.isLive x := isLive_of_inAnInventory (dressed.stowed plr x player here)
      have left {y : Ref} : (w.removeFromInventory plr x pos).inMyInventory plr y ↔
          w.inMyInventory plr y ∧ y ≠ x := inMyInventory_removeFromInventory_iff here
      obtain ⟨dressed', player', inventory, position⟩ :=
        ih (removeFromInventory_dressed dressed player x pos)
          (by rw [isPlayer_removeFromInventory]; exact player) nodup fun y later =>
            left.mpr ⟨mem y (List.mem_cons_of_mem _ later), fun same => once (same ▸ later)⟩
      refine ⟨dressed', player', fun y => ?_, fun y => ?_⟩
      · rw [List.foldl_cons, inventory, left, List.mem_cons, not_or, and_assoc]
      · rw [List.foldl_cons, position, getPosition_removeFromInventory live here]
        by_cases first : y = x
        · subst first
          simp [once]
        · simp [first]

end DropAll

/-! ### Runs -/

/-- What players do, and what comes before they do it; players who are with nobody move. -/
def Lived (w : Objects) : Op → Prop
  | .setPosition obj _ => w.isPlayer obj ∧ ∀ plr, w.isPlayer plr → ¬ w.inMyInventory plr obj
  | op => w.Played op

theorem setPosition_dressed {w : Objects} {x : Ref} {pos : GridPair} (dressed : Dressed w)
    (alone : ∀ plr, w.isPlayer plr → ¬ w.inMyInventory plr x) : Dressed (w.setPosition x pos) := by
  refine ⟨fun plr player => ?_, fun plr y player mem => ?_, fun plr plr' y player player' => ?_⟩
  · have worn := dressed.worn plr (by simpa using player)
    simpa [carried] using worn
  · have player : w.isPlayer plr := by simpa using player
    have mem : w.inMyInventory plr y := by simpa using mem
    have other : y ≠ x := fun same => alone plr player (same ▸ mem)
    simpa [inAnInventory_setPosition, other] using dressed.stowed plr y player mem
  · simpa using dressed.alone plr plr' y (by simpa using player) (by simpa using player')

theorem step_lived {w w' : Objects} {op : Op} (dressed : Dressed w)
    (step : guarded PutsOnce (guarded Lived Step) w op w') : Dressed w' := by
  obtain ⟨once, lived, step⟩ := step
  cases op with
  | setPosition obj position =>
      obtain ⟨-, done⟩ := step
      cases done
      exact setPosition_dressed dressed lived.2
  | _ => exact step_dressed_of_once dressed once ⟨lived, step⟩

/-- After a run in which things are put on once and nothing is swapped that the player does not
have, a player that dies and is not where the things in inventories are has nothing, wears nothing,
and what it had lies where it died and is in no inventory. -/
theorem die_drops_all {ops : List Op} {w : Objects} {plr : Ref}
    (run : Run (guarded PutsOnce (guarded Lived Step)) {} ops w) (player : w.isPlayer plr)
    (elsewhere : w.getPosition plr ≠ inventoryPosition) :
    (∀ x, ¬ (w.die plr).inMyInventory plr x) ∧
      (∀ x, w.inMyInventory plr x →
        (w.die plr).getPosition x = w.getPosition plr ∧ ¬ (w.die plr).inAnInventory x) ∧
      ∀ slot, (w.die plr).equipment plr slot = none := by
  have dressed : Dressed w := run.invariant (fun _ _ _ => step_lived) start_dressed
  obtain ⟨dressed', player', inventory, position⟩ :=
    foldl_removeFromInventory (w.getPosition plr) dressed player (Finset.sort_nodup _ _)
      fun x mem => mem_inventoryList.mp mem
  have nothing (x : Ref) : ¬ (w.dropAll plr).inMyInventory plr x := by
    intro left
    obtain ⟨mem, out⟩ := (inventory x).mp left
    exact out (mem_inventoryList.mpr mem)
  have dead : SameThings (w.dropAll plr) (w.die plr) := sameThings_modifyPlayer _ plr _
  have still : (w.die plr).getPosition = (w.dropAll plr).getPosition :=
    getPosition_modify fun _ => rfl
  have slots : (w.die plr).equipment = (w.dropAll plr).equipment :=
    modify_equipment fun obj _ => by cases obj.player <;> rfl
  refine ⟨fun x mem => ?_, fun x mem => ?_, fun slot => ?_⟩
  · rw [dead.inMyInventory] at mem
    exact nothing x mem
  · have lies : (w.die plr).getPosition x = w.getPosition plr := by
      rw [still]
      exact (position x).trans (if_pos (mem_inventoryList.mpr mem))
    refine ⟨lies, fun marked => elsewhere ?_⟩
    rw [← lies]
    exact getPosition_of_inAnInventory marked
  · rw [slots]
    cases filled : (w.dropAll plr).equipment plr slot with
    | none => rfl
    | some x => exact absurd ((dressed'.worn plr player').held slot x filled) (nothing x)

/-- A player gets a sword, puts it on and carries it as its second weapon, and dies. -/
theorem die_drops_all_sword : ∃ w,
    Run (guarded PutsOnce (guarded Lived Step)) {}
      [.newPlayer 1 {}, .newPickup 1 2 sword, .equipSecondary 1 (some 2)] w ∧
    (∀ x, ¬ (w.die 1).inMyInventory 1 x) ∧
      (∀ x, w.inMyInventory 1 x →
        (w.die 1).getPosition x = w.getPosition 1 ∧ ¬ (w.die 1).inAnInventory x) ∧
      ∀ slot, (w.die 1).equipment 1 slot = none := by
  obtain ⟨w, run, player, elsewhere⟩ : ∃ w,
      Run (guarded PutsOnce (guarded Lived Step)) {}
        [.newPlayer 1 {}, .newPickup 1 2 sword, .equipSecondary 1 (some 2)] w ∧
      w.isPlayer 1 ∧ w.getPosition 1 ≠ inventoryPosition := by
    refine ⟨_, .cons ⟨trivial, trivial, by rw [Enabled]; decide, rfl⟩
      (.cons ⟨trivial, trivial, ⟨by decide, by decide⟩, rfl⟩
        (.cons ⟨?_, trivial, ⟨by decide, by decide⟩, rfl⟩ (.nil _))), by decide, by decide⟩
    rintro x ⟨⟩
    decide
  exact ⟨w, run, die_drops_all run player elsewhere⟩

/-- A player who carried a sword that lay on the ground as its second weapon, or one who put the
second weapon into the slot of the first as well, dies and still wears it; one who picked itself up
dies and still counts as held. -/
theorem die_leaves :
    (∃ w, Run (guarded Lived Step) {} [.newPlayer 1 {},
      .createObjectFromFile (.mk 2 sword playerPosition []), .equipSecondary 1 (some 2)] w ∧
        (w.die 1).equipment 1 slotWepSecondary = some 2) ∧
    (∃ w, Run (guarded Lived Step) {} [.newPlayer 1 {}, .newPickup 1 2 sword,
      .equipSecondary 1 (some 2), .equip 1 (some 2)] w ∧
        (w.die 1).equipment 1 slotWepSecondary = some 2) ∧
    ∃ w, Run (guarded Lived Step) {} [.newPlayer 1 {}, .pickup 1 (some 1) 75] w ∧
      w.inMyInventory 1 1 ∧ (w.die 1).inAnInventory 1 := by
  refine ⟨⟨_, .cons ⟨trivial, by rw [Enabled]; decide, rfl⟩
      (.cons ⟨trivial, ⟨by decide, by decide⟩, rfl⟩
        (.cons ⟨trivial, ⟨by decide, by decide⟩, rfl⟩ (.nil _))), by decide +kernel⟩,
    ⟨_, .cons ⟨trivial, by rw [Enabled]; decide, rfl⟩
      (.cons ⟨trivial, ⟨by decide, by decide⟩, rfl⟩
        (.cons ⟨trivial, ⟨by decide, by decide⟩, rfl⟩
          (.cons ⟨trivial, ⟨by decide, by decide⟩, rfl⟩ (.nil _)))), by decide +kernel⟩,
    ⟨_, .cons ⟨trivial, by rw [Enabled]; decide, rfl⟩
      (.cons ⟨rfl, ⟨by decide, by decide⟩, rfl⟩ (.nil _)), by decide, by decide +kernel⟩⟩

end Objects

end NoxServer
