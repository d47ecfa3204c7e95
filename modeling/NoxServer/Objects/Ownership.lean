import NoxServer.Library.Custody
import NoxServer.Library.Runs
import NoxServer.Objects.Steps

/-!
Who has what: the sets `m_inventory` and the positions that say whether an object is in one.

The objects are things kept in containers (`custody`): a set says what is in it, the position
(5880, 5880) is the mark, and the remove list is what is leaving. Each write is a move there,
so each operation keeps the two in step when it is a sequence of moves that does
(`apply_sound`), and a run of such operations does (`inventory_ownership`).
-/

namespace NoxServer
namespace Objects

open Custody Runs

/-- The objects as things kept in containers. -/
def custody (w : Objects) : Custody.State Ref where
  live := {x | w.isLive x}
  inside o := {x | w.inMyInventory o x}
  marked := {x | w.inAnInventory x}
  fixed := {x | w.isImmobile x}
  leaving := {x | x ∈ w.removeList}

/-- The sets and the positions are in step. -/
def Kept (w : Objects) : Prop := Sound (custody w) ∅

/-! ### Writes are moves -/

section Moves

variable {w : Objects} {owner plr x : Ref} {loose : Set Ref}

theorem custody_setPosition_in (live : w.isLive x) :
    custody (w.setPosition x inventoryPosition) = (custody w).mark x := by
  refine State.ext ?_ ?_ ?_ ?_ rfl
  · simp [custody, State.mark]
  · simp [custody, State.mark]
  · ext y
    by_cases here : y = x <;> simp [custody, State.mark, inAnInventory_setPosition, here, live]
  · simp [custody, State.mark]

theorem custody_setPosition_out {p : GridPair} (out : p ≠ inventoryPosition) :
    custody (w.setPosition x p) = (custody w).unmark x := by
  refine State.ext ?_ ?_ ?_ ?_ rfl
  · simp [custody, State.unmark]
  · simp [custody, State.unmark]
  · ext y
    by_cases here : y = x <;> simp [custody, State.unmark, inAnInventory_setPosition, here, out]
  · simp [custody, State.unmark]

theorem custody_insertInventory (live : w.isLive owner) :
    custody (w.insertInventory owner x) = (custody w).enter owner x := by
  refine State.ext ?_ (fun o y => ?_) ?_ ?_ rfl
  · simp [custody, State.enter]
  · exact inMyInventory_insertInventory live
  · simp [custody, State.enter]
  · simp [custody, State.enter]

theorem custody_eraseInventory :
    custody (w.eraseInventory owner x) = (custody w).leave owner x := by
  refine State.ext ?_ (fun o y => ?_) ?_ ?_ rfl
  · simp [custody, State.leave]
  · exact inMyInventory_eraseInventory
  · simp [custody, State.leave]
  · simp [custody, State.leave]

/-- What players have besides other objects does not matter. -/
theorem custody_same {w w' : Objects} (same : SameThings w w') : custody w' = custody w := by
  simp [custody, same.isLive, same.isImmobile, same.inAnInventory, same.inMyInventory,
    same.removeList]

theorem Kept.same {w w' : Objects} (kept : Kept w) (same : SameThings w w') : Kept w' := by
  rw [Kept, custody_same same]
  exact kept

theorem custody_addObjectToRemoveList :
    custody (w.addObjectToRemoveList x) = (custody w).retire x := by
  refine State.ext rfl (fun _ _ => Iff.rfl) rfl rfl ?_
  ext y
  simp [custody, State.retire, addObjectToRemoveList]

theorem custody_new {obj : Obj} (new : ¬ w.isLive x) (empty : obj.inventory = ∅) :
    custody (w.new x obj) =
      (custody w).add x (obj.position = inventoryPosition) (obj.info.immobile = true) := by
  refine State.ext ?_ (fun o y => ?_) ?_ ?_ rfl
  · ext y
    simp [custody, State.add]
  · simp [custody, State.add, inMyInventory_new new empty]
  · ext y
    by_cases here : y = x <;> simp [custody, State.add, inAnInventory, new_any, here]
  · ext y
    by_cases here : y = x <;> simp [custody, State.add, isImmobile, new_any, here]

theorem custody_delete : custody (w.delete x) = (custody w).delete x := by
  refine State.ext ?_ (fun o y => ?_) ?_ ?_ rfl
  · ext y
    by_cases here : y = x <;> simp [custody, State.delete, isLive, delete, here]
  · by_cases here : o = x <;> simp [custody, State.delete, inMyInventory, delete_any, here]
  · ext y
    by_cases here : y = x <;> simp [custody, State.delete, inAnInventory, delete_any, here]
  · ext y
    by_cases here : y = x <;> simp [custody, State.delete, isImmobile, delete_any, here]

end Moves

/-! ### Operations keep custody -/

section Operations

variable {w : Objects} {owner plr x : Ref}

/-- Taking an object out is a move out of the inventory, and a mark for where it is put. -/
theorem custody_removeFromInventory (kept : Kept w) (mem : w.inMyInventory owner x)
    (newPos : GridPair) :
    custody (w.removeFromInventory owner x newPos) =
      if newPos = inventoryPosition then ((custody w).leave owner x).mark x
      else ((custody w).leave owner x).unmark x := by
  rw [removeFromInventory_of_mem mem]
  -- a player takes it off first
  obtain ⟨w₁, same, eq⟩ : ∃ w₁, SameThings w w₁ ∧
      (if w.isPlayer owner then (w.dequip owner x).1 else w) = w₁ := by
    refine ⟨_, ?_, rfl⟩
    split
    · exact sameThings_dequip w owner x
    · exact .refl w
  rw [eq, custody_eraseInventory]
  split
  · next inside =>
    have live : w₁.isLive x := same.isLive ▸ (kept.live owner x mem).2
    rw [inside, custody_setPosition_in live, custody_same same, State.leave_mark]
  · next outside =>
    rw [custody_setPosition_out outside, custody_same same, State.leave_unmark]

/-- An object that is taken out is a loose one. -/
theorem removeFromInventory_sound (kept : Kept w) (mem : w.inMyInventory owner x)
    (newPos : GridPair) : Sound (custody (w.removeFromInventory owner x newPos)) {x} := by
  have left : Sound ((custody w).leave owner x) {x} := kept.leave_single mem
  have out := (left.loose x rfl).2
  rw [custody_removeFromInventory kept mem]
  split
  · simpa using left.mark (kept.live owner x mem).2 out
  · exact left.unmark out

theorem removeFromInventory_kept {newPos : GridPair} (kept : Kept w)
    (mem : w.inMyInventory owner x)
    (out : w.isImmobile x ∨ x ∈ w.removeList ∨ newPos ≠ inventoryPosition) :
    Kept (w.removeFromInventory owner x newPos) := by
  refine (removeFromInventory_sound kept mem newPos).settle_single ?_
  rw [custody_removeFromInventory kept mem]
  rcases out with fixed | leaving | outside
  · exact .inr (.inl (by split <;> exact fixed))
  · exact .inr (.inr (by split <;> exact leaving))
  · rw [if_neg outside]
    exact .inl fun marked => marked.2 rfl

theorem consume_kept (kept : Kept w) (player : w.isPlayer plr) : Kept (w.consume plr x) := by
  unfold Kept consume
  rw [custody_addObjectToRemoveList]
  by_cases mem : w.inMyInventory plr x
  · have loose := (removeFromInventory_sound kept mem inventoryPosition).retire x
    exact loose.settle_single (.inr (.inr (.inl rfl)))
  · rw [removeFromInventory_of_not_mem player mem]
    exact kept.retire x

theorem use_kept (kept : Kept w) (player : w.isPlayer plr) : Kept (w.use plr x) := by
  rcases use_cases w plr x with same | ⟨w', same, _, eq⟩
  · rw [same]
    exact kept
  · rw [eq]
    exact consume_kept (kept.same same) (same.isPlayer ▸ player)

theorem handlePickup_kept {w' : Objects} {taken : Bool} (kept : Kept w)
    (player : w.isPlayer plr) (done : w.handlePickup plr x = .ok (w', taken)) : Kept w' := by
  rcases handlePickup_cases done with rfl | rfl | ⟨slot, _, rfl⟩
  · exact use_kept kept player
  · exact kept
  · exact kept.same (sameThings_setEquipment w plr slot x)

/-- What is picked up is not marked, so it is in no inventory. -/
theorem objectPickup_kept {obj : Option Ref} (kept : Kept w) (live : w.isLive owner)
    (present : ∀ x ∈ obj, w.isLive x) (maxDist : UInt32) :
    Kept (w.objectPickup owner obj maxDist).1 := by
  rcases objectPickup_cases w owner obj maxDist with refused | ⟨x, rfl, free, _, put⟩
  · rw [refused]
    exact kept
  · have here : w.isLive x := present x rfl
    have loose : Sound ((custody w).mark x) (insert x ∅) :=
      Sound.mark kept here fun movable o mem => free (kept.marked o x movable mem)
    rw [put, Kept, custody_insertInventory (by simpa using live), custody_setPosition_in here]
    have entered := loose.enter (.inl rfl) (fun _ => .inl rfl) live
    simpa using entered

theorem pickup_kept {w' : Objects} {obj : Option Ref} {maxDist : UInt32} {taken : Bool}
    (kept : Kept w) (live : w.isLive owner) (present : ∀ x ∈ obj, w.isLive x)
    (done : w.pickup owner obj maxDist = .ok (w', taken)) : Kept w' := by
  have put := objectPickup_kept kept live present maxDist
  rcases pickup_cases done with same | ⟨x, rfl, player, _, handled⟩
  · rw [← same] at put
    exact put
  · refine handlePickup_kept put ?_ handled
    rw [← isPlayer_handlePickup handled, isPlayer_pickup done]
    exact player

theorem objectDrop_kept {obj : Option Ref} {newPos : GridPair} (kept : Kept w)
    (out : ∀ x ∈ obj, w.inMyInventory owner x →
      w.isImmobile x ∨ x ∈ w.removeList ∨ newPos ≠ inventoryPosition) :
    Kept (w.objectDrop owner obj newPos).1 := by
  unfold objectDrop
  split
  · next x =>
    split
    · next mem => exact removeFromInventory_kept kept mem (out x rfl mem)
    · exact kept
  · exact kept

end Operations

/-! ### Objects that come and go -/

section Come

variable {w : Objects} {owner x : Ref} {loose : Set Ref}

/-- A new object is a loose one, and where it is not in an inventory it may stay. -/
theorem new_sound {obj : Obj} (sound : Sound (custody w) loose) (new : ¬ w.isLive x)
    (empty : obj.inventory = ∅) : Sound (custody (w.new x obj)) (insert x loose) := by
  rw [custody_new new empty]
  exact sound.add new _ _

theorem new_out_sound {obj : Obj} (sound : Sound (custody w) loose) (new : ¬ w.isLive x)
    (empty : obj.inventory = ∅) (out : obj.position ≠ inventoryPosition) :
    Sound (custody (w.new x obj)) loose := by
  refine (new_sound sound new empty).settle (.inl ?_)
  rw [custody_new new empty]
  simp [State.add, out]

/-- What is new and not taken is gone again, and was nowhere. -/
theorem newPickup_kept {w' : Objects} {info : ObjectInfo} (kept : Kept w)
    (live : w.isLive owner) (new : ¬ w.isLive x)
    (done : w.newPickup owner x info = .ok w') : Kept w' := by
  obtain ⟨obj, out, empty, eq⟩ : ∃ obj : Obj, obj.position ≠ inventoryPosition ∧
      obj.inventory = ∅ ∧ obj = { info := info, position := ⟨1, 1⟩ } :=
    ⟨_, by simp [inventoryPosition], rfl, rfl⟩
  rw [newPickup, ← eq] at done
  obtain ⟨⟨w₁, taken⟩, picked, done⟩ := bind_eq_ok.mp done
  have made : Kept (w.new x obj) := new_out_sound kept new empty out
  have kept₁ : Kept w₁ := pickup_kept made (by simp [live]) (by simp) picked
  cases taken with
  | true =>
    cases done
    exact kept₁
  | false =>
    cases done
    -- it was put into the inventory at most, and nothing else was
    have old {o y : Ref} (mem : (w₁.removeFromInventory owner x ⟨0, 0⟩).inMyInventory o y) :
        w.inMyInventory o y := by
      obtain ⟨mem, other⟩ := inMyInventory_removeFromInventory mem
      have inside := inMyInventory_pickup (by simp [live]) picked mem
      rw [inMyInventory_new new empty] at inside
      exact inside.resolve_right other
    rw [Kept, custody_delete]
    refine Sound.delete ?_ (fun o mem => new (kept.live o x (old mem)).2)
      fun y mem => absurd (kept.live x y (old mem)).1 new
    by_cases mem : w₁.inMyInventory owner x
    · exact removeFromInventory_kept kept₁ mem (.inr (.inr (by decide)))
    · have free : ¬ (w.new x obj).inAnInventory x := by simp [inAnInventory, new_any, out]
      rw [removeFromInventory_of_not_mem (isPlayer_of_pickup free picked) mem]
      exact kept₁

/-- The list of what is to be removed is removed. -/
theorem removeObjects_kept {w' : Objects} {list : List Ref} (kept : Kept w)
    (these : ∀ x ∈ w.removeList, x ∈ list)
    (out : ∀ x ∈ list, (∀ o, ¬ w.inMyInventory o x) ∧
      ∀ y, w.inMyInventory x y → w.isImmobile y)
    (done : w.removeObjects list = .ok w') : Kept w' := by
  induction list generalizing w with
  | nil =>
    cases done
    exact Sound.forget kept fun y _ leaving => absurd (these y leaving) List.not_mem_nil
  | cons obj rest ih =>
    rw [removeObjects] at done
    split at done
    · have alone := out obj List.mem_cons_self
      have gone : Kept (w.delete obj) := by
        rw [Kept, custody_delete]
        exact kept.delete alone.1 fun y mem => .inl (alone.2 y mem)
      have less : Kept { w.delete obj with removeList := rest } := by
        refine gone.forget fun y live leaving => ?_
        refine (List.mem_cons.mp (these y leaving)).resolve_left fun same => ?_
        rw [custody_delete] at live
        exact live.2 same
      refine ih less (fun x => id) (fun x later => ?_) done
      have was {o y : Ref} (mem : (w.delete obj).inMyInventory o y) : w.inMyInventory o y := by
        rw [inMyInventory, delete_any] at mem
        split at mem
        · cases mem
        · exact mem
      obtain ⟨apart, fixed⟩ := out x (List.mem_cons_of_mem _ later)
      refine ⟨fun o mem => apart o (was mem), fun y mem => ?_⟩
      have other : y ≠ obj := fun same => alone.1 x (same ▸ was mem)
      have immobile := fixed y (was mem)
      simpa [isImmobile, delete, other] using immobile
    · cases done

end Come

/-! ### Reading a map -/

/-- An object in a file that is to be in an inventory is at (5880, 5880), or is immobile. -/
def FileObject.Stowed : FileObject → Prop
  | .mk _ info position _ => info.immobile = true ∨ position = inventoryPosition

/-- An object in a file that is to be in no inventory is elsewhere, or is immobile. -/
def FileObject.Placed : FileObject → Prop
  | .mk _ info position _ => info.immobile = true ∨ position ≠ inventoryPosition

theorem inAnInventory_outline (w : Objects) (r : Ref) :
    w.inAnInventory r = (w.outline r).any fun o => o.position = inventoryPosition := by
  cases found : w.heap r <;> simp [inAnInventory, outline, found]

theorem isImmobile_outline (w : Objects) (r : Ref) :
    w.isImmobile r = (w.outline r).any (·.info.immobile) := by
  cases found : w.heap r <;> simp [isImmobile, outline, found]

theorem stowed_marked {w : Objects} (file : FileObject) (fresh : file.refs.Nodup)
    (stowed : file.Stowed) (movable : file.ref ∉ (custody (w.createObjectFromFile file)).fixed) :
    file.ref ∈ (custody (w.createObjectFromFile file)).marked := by
  obtain ⟨ref, info, position, inventory⟩ := file
  have seen := createObjectFromFile_outline w fresh
  have movable : ¬ info.immobile = true := by
    simpa [custody, isImmobile_outline, FileObject.ref, seen] using movable
  have inside := stowed.resolve_left movable
  simpa [custody, inAnInventory_outline, FileObject.ref, seen] using inside

theorem placed_settled {w : Objects} (file : FileObject) (fresh : file.refs.Nodup)
    (placed : file.Placed) : file.ref ∉ (custody (w.createObjectFromFile file)).marked ∨
      file.ref ∈ (custody (w.createObjectFromFile file)).fixed := by
  obtain ⟨ref, info, position, inventory⟩ := file
  have seen := createObjectFromFile_outline w fresh
  rcases placed with immobile | out
  · exact .inr (by simp [custody, isImmobile_outline, FileObject.ref, seen, immobile])
  · exact .inl (by simp [custody, inAnInventory_outline, FileObject.ref, seen, out])

mutual

/-- An object that is read is a loose one: it is the reader's to put somewhere. -/
theorem createObjectFromFile_sound {w : Objects} {loose : Set Ref}
    (sound : Sound (custody w) loose) :
    ∀ file : FileObject, file.refs.Nodup → (∀ r ∈ file.refs, ¬ w.isLive r) →
      (∀ c ∈ file.nested, c.Stowed) →
        Sound (custody (w.createObjectFromFile file)) (insert file.ref loose)
  | .mk ref info position inventory, fresh, new, stowed => by
      rw [refs_mk, List.nodup_cons] at fresh
      have made : Sound (custody (w.new ref { info := info, position := position }))
          (insert ref loose) :=
        new_sound sound (new ref List.mem_cons_self) rfl
      refine createInventory_sound made (by simp) inventory fresh.2 (fun r mem => ?_) stowed
      have other : r ≠ ref := fun same => fresh.1 (same ▸ mem)
      simpa [other] using new r (List.mem_cons_of_mem _ mem)

/-- The objects inside are put where they belong. -/
theorem createInventory_sound {w : Objects} {loose : Set Ref} {owner : Ref}
    (sound : Sound (custody w) loose) (live : w.isLive owner) :
    ∀ files : List FileObject, ((nestedAll files).map FileObject.ref).Nodup →
      (∀ r ∈ (nestedAll files).map FileObject.ref, ¬ w.isLive r) →
        (∀ c ∈ nestedAll files, c.Stowed) →
          Sound (custody (w.createInventory owner files)) loose
  | [], _, _, _ => sound
  | child :: rest, fresh, new, stowed => by
      rw [refs_cons, List.nodup_append] at fresh
      rw [refs_cons] at new
      have newChild (r) (mem : r ∈ child.refs) := new r (List.mem_append_left _ mem)
      have newRest (r) (mem) := new r (List.mem_append_right child.refs mem)
      have isNew : ¬ w.isLive child.ref := newChild child.ref List.mem_cons_self
      have read := createObjectFromFile_sound sound child fresh.1 newChild fun c mem =>
        stowed c (List.mem_cons_of_mem _ (List.mem_append_left _ mem))
      have ownerLive : (w.createObjectFromFile child).isLive owner := by
        have other : owner ∉ child.refs := fun mem => newChild owner mem live
        rwa [isLive, createObjectFromFile_heap w child other]
      have put : Sound (custody ((w.createObjectFromFile child).insertInventory owner child.ref))
          loose := by
        have outside : child.ref ∉ loose := fun mem => isNew (sound.loose child.ref mem).1
        rw [custody_insertInventory ownerLive, ← Set.insert_sdiff_self_of_notMem outside]
        exact read.enter (.inl rfl) (stowed_marked child fresh.1 (stowed child List.mem_cons_self))
          ownerLive
      refine createInventory_sound put (by simpa using ownerLive) rest fresh.2.1
        (fun r mem => ?_) fun c mem =>
          stowed c (List.mem_cons_of_mem _ (List.mem_append_right _ mem))
      have other : r ∉ child.refs := fun here => fresh.2.2 r here r mem rfl
      rw [insertInventory_frame.1, isLive, createObjectFromFile_heap w child other]
      exact newRest r mem

end

/-! ### Runs -/

/-- An object is in one inventory at most, and unless it is to be removed it is in one exactly
when its position says so. -/
def InventoryOwnership (w : Objects) : Prop :=
  (∀ o o' x, ¬ w.isImmobile x → w.inMyInventory o x → w.inMyInventory o' x → o = o') ∧
    ∀ x, w.isLive x → ¬ w.isImmobile x → x ∉ w.removeList →
      ((∃ o, w.inMyInventory o x) ↔ w.inAnInventory x)

/-- An operation keeps the sets and the positions in step. -/
def InStep (w : Objects) : Op → Prop
  | .createObjectFromFile file => file.Placed ∧ ∀ c ∈ file.nested, c.Stowed
  | .setPosition obj position => w.isImmobile obj ∨
      ((∃ o, w.inMyInventory o obj) ∧ position = inventoryPosition) ∨
      ((∀ o, ¬ w.inMyInventory o obj) ∧ (obj ∈ w.removeList ∨ position ≠ inventoryPosition))
  | .drop owner obj maxDist newPos offset => ∀ x ∈ obj, w.inMyInventory owner x →
      w.isImmobile x ∨ x ∈ w.removeList ∨
        (if w.isPlayer owner then w.dropPosition owner maxDist newPos offset else newPos) ≠
          inventoryPosition
  | .logoutPlayer plr => (∀ o, ¬ w.inMyInventory o plr) ∧
      ∀ x, w.inMyInventory plr x → w.isImmobile x ∨ x ∈ w.removeList
  | .removeAllObjectsInRemoveList => ∀ x ∈ w.removeList,
      (∀ o, ¬ w.inMyInventory o x) ∧ ∀ y, w.inMyInventory x y → w.isImmobile y
  | _ => True

theorem Kept.inventoryOwnership {w : Objects} (kept : Kept w) : InventoryOwnership w := by
  refine ⟨kept.one, fun x live movable stays => ⟨fun ⟨o, mem⟩ => ?_, fun marked => ?_⟩⟩
  · exact kept.marked o x movable mem
  · exact kept.kept x live marked movable stays (Set.notMem_empty x)

/-- A move keeps the sets and the positions in step where it is one that fits, and is of an object
that is there. -/
theorem setPosition_kept {w : Objects} {x : Ref} {position : GridPair} (kept : Kept w)
    (live : w.isLive x) (fits : w.InStep (.setPosition x position)) :
    Kept (w.setPosition x position) := by
  unfold Kept
  by_cases inside : position = inventoryPosition
  · rw [inside, custody_setPosition_in live]
    rcases fits with fixed | ⟨⟨o, mem⟩, _⟩ | ⟨out, leaving | away⟩
    · have loose := Sound.mark kept live fun movable => absurd fixed movable
      exact loose.settle (.inr (.inl fixed))
    · by_cases fixed : w.isImmobile x
      · have loose := Sound.mark kept live fun movable => absurd fixed movable
        exact loose.settle (.inr (.inl fixed))
      · rw [State.mark_of_marked (kept.marked o x fixed mem)]
        exact kept
    · have loose := Sound.mark kept live fun _ => out
      exact loose.settle (.inr (.inr leaving))
    · exact absurd inside away
  · rw [custody_setPosition_out inside]
    refine kept.unmark fun movable o mem => ?_
    rcases fits with fixed | ⟨_, here⟩ | ⟨out, _⟩
    · exact movable fixed
    · exact inside here
    · exact out o mem

/-- Each operation that keeps them in step does so from a state where they are. -/
theorem step_kept (w : Objects) (op : Op) (w' : Objects) (kept : Kept w)
    (step : guarded InStep Step w op w') : Kept w' := by
  obtain ⟨fits, enabled, done⟩ := step
  cases op with
  | createObjectFromFile file =>
    cases done
    have read := createObjectFromFile_sound kept file enabled.1 enabled.2 fits.2
    exact read.settle ((placed_settled file enabled.1 fits.1).imp_right .inl)
  | newPlayer plr info =>
    cases done
    exact new_out_sound kept enabled rfl (by simp [playerPosition, inventoryPosition])
  | pickup owner obj maxDist =>
    obtain ⟨⟨w₁, taken⟩, picked, done⟩ := bind_eq_ok.mp done
    cases done
    exact pickup_kept kept enabled.1 enabled.2 picked
  | newPickup owner obj info => exact newPickup_kept kept enabled.1 enabled.2 done
  | drop owner obj maxDist newPos offset =>
    cases done
    unfold drop
    split
    · next player => exact objectDrop_kept kept (by simpa [InStep, player] using fits)
    · next other => exact objectDrop_kept kept (by simpa [InStep, other] using fits)
  | use plr obj =>
    cases done
    exact use_kept kept enabled.1
  | equip plr obj =>
    cases done
    exact kept.same (sameThings_equip w plr obj)
  | dequip plr obj =>
    cases done
    exact kept.same (sameThings_dequip w plr obj)
  | equipSecondary plr obj =>
    cases done
    exact kept.same (sameThings_equipSecondary w plr obj)
  | setPosition obj position =>
    cases done
    exact setPosition_kept kept enabled fits
  | setVitals plr health maxHealth maxMana poisoned =>
    cases done
    exact kept.same (sameThings_modifyPlayer w plr _)
  | logoutPlayer plr =>
    cases done
    unfold Kept
    rw [custody_delete]
    exact Sound.delete kept fits.1 fits.2
  | removeAllObjectsInRemoveList =>
    exact removeObjects_kept kept (fun x => id) fits done

theorem start_kept : Kept {} where
  live _ _ mem := by cases mem
  one _ _ _ _ mem := by cases mem
  marked _ _ _ mem := by cases mem
  kept _ live := by cases live
  loose _ mem := by cases mem

/-- In every run from no objects through operations that keep them in step, no object that can move
is in two inventories, and unless it is to be removed it is in one exactly when its position says
so. Pickups, uses and what is put on or taken off need no condition; maps that are read, moves,
drops, logouts and removals do. -/
theorem inventory_ownership {ops : List Op} {w : Objects}
    (run : Run (guarded InStep Step) {} ops w) : InventoryOwnership w := by
  have kept : Kept w := run.invariant step_kept start_kept
  exact kept.inventoryOwnership

/-- A chest with a potion in it. -/
def chest (potion : GridPair) : FileObject := .mk 1 {} ⟨100, 100⟩ [.mk 2 {} potion []]

/-- A map, a player and what the player does with the chest. -/
theorem inventory_ownership_chest : ∃ w,
    Run (guarded InStep Step) {} [.createObjectFromFile (chest inventoryPosition),
      .newPlayer 3 {}, .pickup 3 (some 1) 0, .drop 3 (some 1) 0 ⟨2285, 2600⟩ {}] w ∧
      w.inMyInventory 1 2 ∧ InventoryOwnership w := by
  obtain ⟨w, run, mem⟩ : ∃ w,
      Run (guarded InStep Step) {} [.createObjectFromFile (chest inventoryPosition),
        .newPlayer 3 {}, .pickup 3 (some 1) 0, .drop 3 (some 1) 0 ⟨2285, 2600⟩ {}] w ∧
        w.inMyInventory 1 2 := by
    refine ⟨_, .cons ⟨⟨.inr (by decide), ?_⟩, ⟨by decide, by decide⟩, rfl⟩
      (.cons ⟨trivial, by rw [Enabled]; decide, rfl⟩ (.cons ⟨trivial, ⟨by decide, by decide⟩, rfl⟩
        (.cons ⟨?_, ⟨by decide, by decide⟩, rfl⟩ (.nil _)))), ?_⟩
    · simp [chest, FileObject.nested, nestedAll, FileObject.Stowed]
    · intro x here mem
      exact .inr (.inr (by decide))
    · decide
  exact ⟨w, run, mem, inventory_ownership run⟩

/-- An object in a chest is where the file has it, so it seems to be in no inventory. -/
theorem inventory_ownership_fails : ∃ w,
    Run Step {} [.createObjectFromFile (chest ⟨100, 100⟩)] w ∧ ¬ InventoryOwnership w := by
  refine ⟨_, .single ⟨⟨by decide, by decide⟩, rfl⟩, fun owned => ?_⟩
  have marked := (owned.2 2 (by decide) (by decide) (by decide)).mp ⟨1, by decide⟩
  exact absurd marked (by decide)

end Objects
end NoxServer
