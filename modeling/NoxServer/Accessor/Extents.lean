import NoxServer.Accessor.Dangling

/-!
The extents of players in the accessor.

`i_players` is keyed by the extents of the players, so a player that is inserted is added to those
there are, and replaces none, as long as the extents of players differ. They do, whatever happens to
other objects, if each player found a free extent when it was created: `Placed` says so and is kept
by every action that deletes no player.
-/

namespace NoxServer.Accessor

open Objects

/-! ### The manager's slots -/

section Manager

variable {kind : ObjectClass Nat} {m : ObjectMgr Nat} {o x : Nat}

/-- Registered objects are found at their extents, but for those that were given none. -/
def Slotted (m : ObjectMgr Nat) : Prop :=
  ∀ o ∈ m.objectTable, m.extent o ≠ invalidExtent → m.objectExtents (m.extent o) = some o

theorem Slotted.addObject (slotted : Slotted m) : Slotted (m.addObject kind o) := by
  rcases m.addObject_cases kind o with ⟨_, same⟩ | ⟨e, given, added⟩
  · rw [same]
    exact slotted
  · rw [added]
    intro x mem numbered
    dsimp only [ObjectMgr.register] at mem numbered ⊢
    by_cases same : x = o
    · subst same
      rw [Function.update_self, Function.update_self]
    · rw [Function.update_of_ne same] at numbered ⊢
      have found := slotted x (Finset.mem_of_mem_insert_of_ne mem same) numbered
      have elsewhere : m.extent x ≠ e := by
        rintro rfl
        rcases given with free | invalid
        · cases free.empty.symm.trans found
        · exact numbered invalid.1
      rw [Function.update_of_ne elsewhere, found]

theorem Slotted.removeObject (slotted : Slotted m) : Slotted (m.removeObject kind o).1 := by
  by_cases present : o ∈ m.objectTable
  · rw [ObjectMgr.removeObject_of_mem present]
    intro x mem numbered
    obtain ⟨other, mem⟩ := Finset.mem_erase.mp mem
    have found := slotted x mem numbered
    have elsewhere : m.extent x ≠ m.extent o := by
      intro same
      have here := slotted o present (same ▸ numbered)
      rw [← same, found] at here
      exact other (Option.some.inj here)
    exact (Function.update_of_ne elsewhere _ _).trans found
  · rw [ObjectMgr.removeObject_of_notMem present]
    exact slotted

theorem objectExtents_addObject {e : UInt16}
    (found : (m.addObject kind o).objectExtents e = some x) :
    x = o ∨ m.objectExtents e = some x := by
  rcases m.addObject_cases kind o with ⟨_, same⟩ | ⟨e', _, added⟩
  · exact .inr (same ▸ found)
  · rw [added] at found
    dsimp only [ObjectMgr.register] at found
    by_cases here : e = e'
    · rw [here, Function.update_self] at found
      exact .inl (Option.some.inj found).symm
    · rw [Function.update_of_ne here] at found
      exact .inr found

theorem objectExtents_removeObject {e : UInt16}
    (found : (m.removeObject kind o).1.objectExtents e = some x) :
    m.objectExtents e = some x := by
  by_cases present : o ∈ m.objectTable
  · rw [ObjectMgr.removeObject_of_mem present] at found
    dsimp only [ObjectMgr.unregister] at found
    by_cases here : e = m.extent o
    · rw [here, Function.update_self] at found
      cases found
    · rw [Function.update_of_ne here] at found
      exact found
  · rw [ObjectMgr.removeObject_of_notMem present] at found
    exact found

theorem mem_addObject_of_mem (mem : x ∈ m.objectTable) :
    x ∈ (m.addObject kind o).objectTable := by
  rcases m.addObject_cases kind o with ⟨_, same⟩ | ⟨e, _, added⟩
  · rw [same]
    exact mem
  · rw [added]
    exact Finset.mem_insert_of_mem mem

/-- An object that is new is given an extent if one is free. -/
theorem numbered_addObject (new : ∀ e, m.objectExtents e ≠ some o) {e : UInt16}
    (free : m.Free e) :
    o ∈ (m.addObject kind o).objectTable ∧ (m.addObject kind o).extent o ≠ invalidExtent := by
  rcases m.addObject_cases kind o with ⟨found, _⟩ | ⟨e', given, added⟩
  · exact absurd found (new _)
  · have given := given.resolve_right fun full => full.2 e free
    rw [added]
    refine ⟨Finset.mem_insert_self _ _, ?_⟩
    dsimp only [ObjectMgr.register]
    rw [Function.update_self]
    rintro rfl
    exact absurd given.one_le (by decide)

end Manager

/-! ### Players keep their extents -/

namespace ObjectAccessor

/-- Players have extents, under which those that have been inserted are kept. -/
structure Placed (isPlayer : Nat → Prop) (w : ObjectAccessor) : Prop where
  slotted : Slotted w.mgr
  slots : ∀ e o, w.mgr.objectExtents e = some o → o < w.next
  table : ∀ o ∈ w.mgr.objectTable, o < w.next
  created : ∀ o ∈ w.live, o < w.next
  removals : ∀ o ∈ w.objectsToRemove, o < w.next
  numbered : ∀ p, isPlayer p → p ∈ w.mgr.objectTable ∧ w.mgr.extent p ≠ invalidExtent
  players : ∀ entry ∈ w.players, isPlayer entry.2 ∧ w.mgr.extent entry.2 = entry.1

theorem placed_start : Placed (fun _ => False) {} where
  slotted := nofun
  slots := nofun
  table := nofun
  created := nofun
  removals := nofun
  numbered := nofun
  players := nofun

variable {isPlayer : Nat → Prop} {w : ObjectAccessor}

/-- Players of one extent are one player. -/
theorem Placed.extent_injective (placed : Placed isPlayer w) {p q : Nat} (player : isPlayer p)
    (player' : isPlayer q) (same : w.mgr.extent p = w.mgr.extent q) : p = q := by
  obtain ⟨mem, numbered⟩ := placed.numbered p player
  obtain ⟨mem', numbered'⟩ := placed.numbered q player'
  have found := placed.slotted p mem numbered
  rw [same, placed.slotted q mem' numbered'] at found
  exact (Option.some.inj found).symm

theorem Placed.lt_next (placed : Placed isPlayer w) {p : Nat} (player : isPlayer p) :
    p < w.next :=
  placed.table p (placed.numbered p player).1

theorem Placed.queues (placed : Placed isPlayer w) (updateQueue : Nat → Finset Nat)
    (position : Nat → GridPair) (updateAll : Nat → Bool) (oldPosition : Nat → GridPair) :
    Placed isPlayer { w with
      updateQueue := updateQueue, position := position, updateAll := updateAll
      oldPosition := oldPosition } :=
  { placed with }

/-- An object that is no player is deleted. -/
theorem Placed.deleteObject (placed : Placed isPlayer w) {o : Nat} (spared : ¬isPlayer o) :
    Placed isPlayer (w.deleteObject o) where
  slotted := placed.slotted.removeObject
  slots := fun e x found => placed.slots e x (objectExtents_removeObject found)
  table := fun x mem => placed.table x (mem_objectTable_removeObject.mp mem).1
  created := fun x mem => placed.created x (Finset.mem_of_mem_erase mem)
  removals := placed.removals
  numbered := by
    intro p player
    obtain ⟨mem, numbered⟩ := placed.numbered p player
    have other : p ≠ o := fun same => spared (same ▸ player)
    refine ⟨mem_objectTable_removeObject.mpr ⟨mem, other⟩, ?_⟩
    exact (congrFun extent_removeObject p).trans_ne numbered
  players := by
    intro entry mem
    obtain ⟨player, key⟩ := placed.players entry mem
    exact ⟨player, (congrFun extent_removeObject entry.2).trans key⟩

theorem Placed.deleteAll (os : List Nat) (placed : Placed isPlayer w)
    (spared : ∀ o ∈ os, ¬isPlayer o) :
    Placed isPlayer (os.foldl ObjectAccessor.deleteObject w) ∧
      (os.foldl ObjectAccessor.deleteObject w).players = w.players := by
  induction os generalizing w with
  | nil => exact ⟨placed, rfl⟩
  | cons o os ih =>
      have rest := ih (placed.deleteObject (spared o List.mem_cons_self))
      exact rest fun x mem => spared x (List.mem_cons_of_mem _ mem)

/-- The objects to remove are no players. -/
theorem Placed.update (placed : Placed isPlayer w) (spared : ∀ o ∈ w.objectsToRemove, ¬isPlayer o) :
    Placed isPlayer w._update ∧ w._update.players = w.players := by
  obtain ⟨deleted, players⟩ := placed.deleteAll w.objectsToRemove spared
  have removed : Placed isPlayer w.removeAllObjectsInRemoveList :=
    { deleted with removals := nofun }
  exact ⟨removed.queues _ _ _ _, players⟩

/-- The extent of a new object is one that is free, or none, so those of the players stay theirs. -/
theorem Placed.create (placed : Placed isPlayer w) (type extent : UInt16)
    (immobile updates : Bool) (pos : GridPair) :
    Placed isPlayer (w.create type extent immobile updates pos) := by
  have ne_next {o : Nat} (before : o < w.next) : o ≠ w.next := Nat.ne_of_lt before
  let kind : ObjectClass Nat :=
    { type := Function.update w.kind.type w.next type
      immobile := Function.update w.kind.immobile w.next immobile }
  let renumbered : ObjectMgr Nat :=
    { w.mgr with extent := Function.update w.mgr.extent w.next extent }
  have slotted : Slotted renumbered := by
    intro o mem
    have same : renumbered.extent o = w.mgr.extent o :=
      Function.update_of_ne (ne_next (placed.table o mem)) _ _
    rw [same]
    exact placed.slotted o mem
  have kept {o : Nat} (before : o < w.next) :
      (renumbered.addObject kind w.next).extent o = w.mgr.extent o :=
    (extent_addObject (ne_next before)).trans (Function.update_of_ne (ne_next before) _ _)
  exact {
    slotted := slotted.addObject
    slots := by
      intro e o found
      rcases objectExtents_addObject found with rfl | before
      · exact Nat.lt_succ_self _
      · exact Nat.lt_succ_of_lt (placed.slots e o before)
    table := by
      intro o mem
      rcases mem_objectTable_addObject mem with rfl | before
      · exact Nat.lt_succ_self _
      · exact Nat.lt_succ_of_lt (placed.table o before)
    created := by
      intro o mem
      rcases Finset.mem_insert.mp mem with rfl | before
      · exact Nat.lt_succ_self _
      · exact Nat.lt_succ_of_lt (placed.created o before)
    removals := fun o mem => Nat.lt_succ_of_lt (placed.removals o mem)
    numbered := by
      intro p player
      obtain ⟨mem, numbered⟩ := placed.numbered p player
      exact ⟨mem_addObject_of_mem mem, (kept (placed.table p mem)).trans_ne numbered⟩
    players := by
      intro entry mem
      obtain ⟨player, key⟩ := placed.players entry mem
      exact ⟨player, (kept (placed.lt_next player)).trans key⟩ }

/-- A player that is created finds a free extent. -/
theorem Placed.newPlayer (placed : Placed isPlayer w) (updates : Bool) {e : UInt16}
    (free : w.mgr.Free e) :
    Placed (fun p => isPlayer p ∨ p = w.next) (w.newPlayer updates) := by
  have created := placed.create playerType 0 false updates ⟨2285, 2600⟩
  refine { created with numbered := ?_, players := ?_ }
  · rintro p (player | rfl)
    · exact created.numbered p player
    · refine numbered_addObject (fun e' found => ?_) ⟨free.one_le, free.le_max, free.empty⟩
      exact absurd (placed.slots e' _ found) (Nat.lt_irrefl _)
  · intro entry mem
    obtain ⟨player, key⟩ := created.players entry mem
    exact ⟨.inl player, key⟩

theorem putPlayer_of_new {extent : UInt16} {p : Nat} {players : List (UInt16 × Nat)}
    (new : ∀ entry ∈ players, entry.1 ≠ extent) :
    putPlayer extent p players = players ++ [(extent, p)] := by
  induction players with
  | nil => rfl
  | cons entry players ih =>
      obtain ⟨other, new⟩ := List.forall_mem_cons.mp new
      rw [putPlayer, if_neg other, ih new, List.cons_append]

/-- A player that is inserted replaces no other. -/
theorem Placed.insertPlayer (placed : Placed isPlayer w) {p : Nat} (player : isPlayer p)
    (new : ∀ entry ∈ w.players, entry.2 ≠ p)
    (spared : ∀ o ∈ w.objectsToRemove, ¬isPlayer o) :
    Placed isPlayer (w.insertPlayer p) ∧
      (w.insertPlayer p).players = w.players ++ [(w.mgr.extent p, p)] := by
  have put : putPlayer (w.mgr.extent p) p w.players = w.players ++ [(w.mgr.extent p, p)] := by
    refine putPlayer_of_new fun entry mem same => ?_
    obtain ⟨other, key⟩ := placed.players entry mem
    exact new entry mem (placed.extent_injective other player (key.trans same))
  have inserted : Placed isPlayer
      { w with players := putPlayer (w.mgr.extent p) p w.players } := by
    refine { placed with players := fun entry mem => ?_ }
    rw [put] at mem
    rcases List.mem_append.mp mem with before | here
    · exact placed.players entry before
    · obtain rfl := List.mem_singleton.mp here
      exact ⟨player, rfl⟩
  obtain ⟨updated, players⟩ := inserted.update spared
  exact ⟨updated, players.trans put⟩

/-! ### Actions -/

/-- Sessions insert players and log them out; the other actions are those of the objects. -/
def OfObjects : Action → Prop
  | .login _ => False
  | .joinAgain _ => False
  | .logoutPlayer _ => False
  | _ => True

/-- An action deletes no player. -/
def SparesPlayers (isPlayer : Nat → Prop) (w : ObjectAccessor) : Action → Prop
  | .update => ∀ o ∈ w.objectsToRemove, ¬isPlayer o
  | .deleteObject o => ¬isPlayer o
  | _ => True

/-- What objects do leaves the players where they are. -/
theorem Placed.act (placed : Placed isPlayer w) {a : Action} (ofObjects : OfObjects a)
    (spares : SparesPlayers isPlayer w a) {w' : ObjectAccessor} (step : Step w a w') :
    Placed isPlayer w' ∧ w'.players = w.players := by
  obtain ⟨made, done⟩ := step
  cases a with
  | create type extent immobile updates pos =>
      cases done
      exact ⟨placed.create type extent immobile updates pos, rfl⟩
  | login updates => exact ofObjects.elim
  | joinAgain p => exact ofObjects.elim
  | setPosition o pos =>
      cases done
      exact ⟨placed.queues _ _ _ _, rfl⟩
  | quickStep position =>
      cases done
      exact ⟨placed.queues _ position _ _, rfl⟩
  | addObjectToRemoveList o =>
      cases done
      refine ⟨{ placed with removals := fun x mem => ?_ }, rfl⟩
      rcases List.mem_insert_iff.mp mem with rfl | before
      · exact placed.created x made
      · exact placed.removals x before
  | update =>
      cases done
      exact placed.update spares
  | updateSight p =>
      cases done
      dsimp only [ObjectAccessor.updateSight, updateView]
      split
      · exact ⟨placed.queues _ _ _ _, rfl⟩
      · split
        · exact ⟨placed.queues _ _ _ _, rfl⟩
        · exact ⟨placed.queues _ _ _ _, rfl⟩
  | sendUpdatePacket p =>
      have sent : w.sendUpdatePacket p = .ok w' := done
      unfold ObjectAccessor.sendUpdatePacket at sent
      split at sent
      · cases sent
        exact ⟨placed.queues _ _ _ _, rfl⟩
      · cases sent
  | forceUpdateAll p =>
      cases done
      exact ⟨placed.queues _ _ _ _, rfl⟩
  | deleteObject o =>
      cases done
      exact ⟨placed.deleteObject spares, rfl⟩
  | logoutPlayer p => exact ofObjects.elim

end ObjectAccessor

/-! ### When all extents are taken -/

section Full

variable {kind : ObjectClass Nat} {m : ObjectMgr Nat} {o : Nat}

/-- Adding an object empties no slot. -/
theorem isSome_addObject {e : UInt16} (taken : (m.objectExtents e).isSome) :
    ((m.addObject kind o).objectExtents e).isSome := by
  rcases m.addObject_cases kind o with ⟨_, same⟩ | ⟨e', _, added⟩
  · rw [same]
    exact taken
  · rw [added]
    dsimp only [ObjectMgr.register]
    by_cases here : e = e'
    · rw [here, Function.update_self]
      rfl
    · rw [Function.update_of_ne here]
      exact taken

/-- An extent that an object comes with is taken once the object has been added. -/
theorem isSome_addObject_self {e : UInt16} (own : m.extent o = e) (one_le : 1 ≤ e)
    (le_max : e ≤ maxExtent) : ((m.addObject kind o).objectExtents e).isSome := by
  subst own
  by_cases free : m.Free (m.extent o)
  · have added : m.addObject kind o = m.register kind o (m.extent o) := by
      have available := (m.isExtentAvailable_iff _).mpr free
      have nonzero : m.extent o ≠ 0 := by
        intro zero
        rw [zero] at one_le
        exact absurd one_le (by decide)
      have absent : m.getObj kind (m.extent o) ≠ some o := fun found =>
        nomatch free.empty.symm.trans (ObjectMgr.slot_of_getObj found)
      simp [ObjectMgr.addObject, ObjectMgr.register, absent, available, nonzero]
    rw [added]
    dsimp only [ObjectMgr.register]
    rw [Function.update_self]
    rfl
  · refine isSome_addObject (Option.isSome_iff_ne_none.mpr fun empty => ?_)
    exact free ⟨one_le, le_max, empty⟩

namespace ObjectAccessor

/-- The extents up to `n` are taken. -/
def TakenTo (n : Nat) (w : ObjectAccessor) : Prop :=
  ∀ e : UInt16, 1 ≤ e → e.toNat ≤ n → (w.mgr.objectExtents e).isSome

variable {w : ObjectAccessor} {n : Nat}

theorem TakenTo.not_free (taken : w.TakenTo maxExtent.toNat) (e : UInt16) : ¬w.mgr.Free e := by
  rintro ⟨one_le, le_max, empty⟩
  have here := taken e one_le (UInt16.le_iff_toNat_le.mp le_max)
  rw [empty] at here
  cases here

theorem TakenTo.create (taken : w.TakenTo n) (type extent : UInt16) (immobile updates : Bool)
    (pos : GridPair) : (w.create type extent immobile updates pos).TakenTo n :=
  fun e one_le le => isSome_addObject (taken e one_le le)

/-- An object is created with the next extent. -/
theorem TakenTo.create_next (taken : w.TakenTo n) (room : n < maxExtent.toNat) (type : UInt16)
    (immobile updates : Bool) (pos : GridPair) :
    (w.create type (UInt16.ofNat (n + 1)) immobile updates pos).TakenTo (n + 1) := by
  intro e one_le le
  by_cases before : e.toNat ≤ n
  · exact taken.create _ _ _ _ _ e one_le before
  · have bound : maxExtent.toNat < UInt16.size := by decide
    have value : (UInt16.ofNat (n + 1)).toNat = n + 1 := UInt16.toNat_ofNat_of_lt' (by omega)
    have here : e = UInt16.ofNat (n + 1) := UInt16.toNat_inj.mp (by omega)
    have le_max : e ≤ maxExtent := UInt16.le_iff_toNat_le.mpr (by omega)
    refine isSome_addObject_self ?_ one_le le_max
    exact (Function.update_self _ _ _).trans here.symm

/-- A player that finds no free extent has the invalid one. -/
theorem TakenTo.extent_newPlayer (taken : w.TakenTo maxExtent.toNat) (updates : Bool) :
    (w.newPlayer updates).mgr.extent w.next = invalidExtent := by
  let kind : ObjectClass Nat :=
    { type := Function.update w.kind.type w.next playerType
      immobile := Function.update w.kind.immobile w.next false }
  let m : ObjectMgr Nat := { w.mgr with extent := Function.update w.mgr.extent w.next 0 }
  show (m.addObject kind w.next).extent w.next = invalidExtent
  rcases m.addObject_cases kind w.next with ⟨_, same⟩ | ⟨e, free | invalid, added⟩
  · rw [same]
    exact Function.update_self _ _ _
  · exact absurd ⟨free.one_le, free.le_max, free.empty⟩ (taken.not_free e)
  · rw [added, invalid.1]
    exact Function.update_self _ _ _

end ObjectAccessor

end Full

end NoxServer.Accessor
