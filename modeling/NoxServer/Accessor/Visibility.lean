import NoxServer.Accessor.ObjectAccessor

/-!
The square an object can see.

The square is made by a subtraction of unsigned numbers, so within 300 of the western or the
northern edge of the map its corner wraps around and it is empty: such an object sees nothing, not
even its own place. Elsewhere it is the square of 300 to each side (`inRect_square_iff`).
-/

namespace NoxServer.Accessor

open Objects

/-! ### Squares -/

/-- At most 300 away in both coordinates. -/
def Near (a b : GridPair) : Prop :=
  ((a.x_coord.toNat : Int) - b.x_coord.toNat).natAbs ≤ 300 ∧
    ((a.y_coord.toNat : Int) - b.y_coord.toNat).natAbs ≤ 300

instance (a b : GridPair) : Decidable (Near a b) := inferInstanceAs (Decidable (_ ∧ _))

def OnMap (pos : GridPair) : Prop := pos.x_coord ≤ 5880 ∧ pos.y_coord ≤ 5880

/-- At least 300 from the western and the northern edge of the map. -/
def Inland (pos : GridPair) : Prop := 300 ≤ pos.x_coord ∧ 300 ≤ pos.y_coord

theorem near_refl (a : GridPair) : Near a a := by
  unfold Near
  omega

theorem near_symm (a b : GridPair) : Near a b ↔ Near b a := by
  unfold Near
  omega

/-- The bounds of one coordinate, of which the lower one may wrap around. -/
theorem between_iff {a q : UInt32} (low : a.toNat + 300 < 2 ^ 32) :
    (a - 300 ≤ q ∧ q ≤ a + 300) ↔ ((q.toNat : Int) - a.toNat).natAbs ≤ 300 ∧ 300 ≤ a := by
  have q_lt := q.toNat_lt
  have lit : (300 : UInt32).toNat = 300 := rfl
  have upper : (a + 300).toNat = a.toNat + 300 := by
    rw [UInt32.toNat_add, lit, Nat.mod_eq_of_lt low]
  rw [UInt32.le_iff_toNat_le, UInt32.le_iff_toNat_le, UInt32.le_iff_toNat_le, upper, lit,
    UInt32.toNat_sub, lit]
  omega

theorem inRect_iff (pos leftTop rightBottom : GridPair) :
    inRect pos leftTop rightBottom = true ↔
      (leftTop.x_coord ≤ pos.x_coord ∧ pos.x_coord ≤ rightBottom.x_coord) ∧
        leftTop.y_coord ≤ pos.y_coord ∧ pos.y_coord ≤ rightBottom.y_coord := by
  unfold inRect
  simp only [Bool.and_eq_true, decide_eq_true_eq, ge_iff_le, and_assoc]

/-- What is in the square around a place. -/
theorem inRect_square_iff {pos q : GridPair} (x : pos.x_coord.toNat + 300 < 2 ^ 32)
    (y : pos.y_coord.toNat + 300 < 2 ^ 32) :
    inRect q ⟨pos.x_coord - 300, pos.y_coord - 300⟩ ⟨pos.x_coord + 300, pos.y_coord + 300⟩ = true ↔
      Near q pos ∧ Inland pos := by
  rw [inRect_iff, between_iff x, between_iff y, Near, Inland]
  tauto

theorem OnMap.room {pos : GridPair} (onMap : OnMap pos) :
    pos.x_coord.toNat + 300 < 2 ^ 32 ∧ pos.y_coord.toNat + 300 < 2 ^ 32 := by
  have x := UInt32.le_iff_toNat_le.mp onMap.1
  have y := UInt32.le_iff_toNat_le.mp onMap.2
  have lit : (5880 : UInt32).toNat = 5880 := rfl
  omega

/-- Sixteen bits hold the places of the map. -/
theorem OnMap.short_eq {pos : GridPair} (onMap : OnMap pos) : short pos = pos := by
  have x := UInt32.le_iff_toNat_le.mp onMap.1
  have y := UInt32.le_iff_toNat_le.mp onMap.2
  have lit : (5880 : UInt32).toNat = 5880 := rfl
  have same {c : UInt32} (small : c.toNat ≤ 5880) : c.toUInt16.toUInt32 = c := by
    rw [← UInt32.toNat_inj, UInt16.toNat_toUInt32, UInt32.toNat_toUInt16]
    omega
  rw [short, same (by omega), same (by omega)]

/-! ### Seeing -/

namespace ObjectAccessor

variable {w : ObjectAccessor} {p q : Nat}

/-- What an object on the map can see. -/
theorem canSeePoint_iff (onMap : OnMap (w.position p)) {point : GridPair} (place : OnMap point) :
    w.canSeePoint p point = true ↔ Near point (w.position p) ∧ Inland (w.position p) := by
  unfold canSeePoint
  dsimp only
  rw [place.short_eq, inRect_square_iff onMap.room.1 onMap.room.2]

/-- The objects the query of `Player::Update` finds. -/
def objectsInView (w : ObjectAccessor) (p : Nat) : Finset Nat :=
  let pos := short (w.position p)
  w.getObjectsInRect ⟨pos.x_coord - 300, pos.y_coord - 300⟩ ⟨pos.x_coord + 300, pos.y_coord + 300⟩

theorem updateQueue_updateSight (all : w.updateAll p = true) :
    (w.updateSight p).updateQueue p = w.updateQueue p ∪ w.objectsInView p := by
  unfold updateSight
  rw [if_pos all]
  exact Function.update_self ..

/-- The objects that can move. -/
def mobileObjects (w : ObjectAccessor) : Finset Nat :=
  w.mgr.objectTable.filter fun o => w.kind.immobile o = false

/-- The mobile objects in the square around a place. -/
def objectsNear (w : ObjectAccessor) (pos : GridPair) : Finset Nat :=
  w.mobileObjects.filter fun o => Near (w.position o) pos

theorem mem_objectsInView_iff (onMap : OnMap (w.position p)) :
    q ∈ w.objectsInView p ↔ q ∈ w.objectsNear (w.position p) ∧ Inland (w.position p) := by
  unfold objectsInView getObjectsInRect objectsNear mobileObjects
  dsimp only
  rw [onMap.short_eq, Finset.mem_filter, Finset.mem_filter, Finset.mem_filter, Bool.and_eq_true,
    inRect_square_iff onMap.room.1 onMap.room.2, Bool.not_eq_true']
  tauto

/-- An object sees its square exactly if it is inland. -/
theorem sees_square_iff (onMap : OnMap (w.position p)) :
    (∀ point, OnMap point → (w.canSeePoint p point = true ↔ Near point (w.position p))) ↔
      Inland (w.position p) := by
  constructor
  · intro square
    have own := (square (w.position p) onMap).mpr (near_refl _)
    exact ((canSeePoint_iff onMap onMap).mp own).2
  · intro inland point place
    rw [canSeePoint_iff onMap place]
    exact and_iff_left inland

/-- Two objects agree whether they see each other exactly if, when they are near each other, both
are inland or neither is. -/
theorem sees_symm_iff (onMap : OnMap (w.position p)) (onMap' : OnMap (w.position q)) :
    (w.canSeePoint p (w.position q) = true ↔ w.canSeePoint q (w.position p) = true) ↔
      (Near (w.position p) (w.position q) → (Inland (w.position p) ↔ Inland (w.position q))) := by
  rw [canSeePoint_iff onMap onMap', canSeePoint_iff onMap' onMap,
    near_symm (w.position q) (w.position p)]
  tauto

/-- The query of an update finds what is in the square exactly if the player is inland, or if there
is nothing. -/
theorem objectsInView_eq_iff (onMap : OnMap (w.position p)) :
    w.objectsInView p = w.objectsNear (w.position p) ↔
      Inland (w.position p) ∨ w.objectsNear (w.position p) = ∅ := by
  constructor
  · intro same
    by_contra neither
    rw [not_or] at neither
    obtain ⟨o, near⟩ := Finset.nonempty_iff_ne_empty.mpr neither.2
    exact neither.1 ((mem_objectsInView_iff onMap).mp (same ▸ near)).2
  · intro either
    ext o
    rw [mem_objectsInView_iff onMap]
    rcases either with inland | empty
    · exact and_iff_left inland
    · rw [empty]
      exact iff_of_false (fun both => Finset.notMem_empty o both.1) (Finset.notMem_empty o)

/-- Visibility is the square of 300 to each side exactly where that does not reach over the western
or northern edge, where the coordinates are unsigned: so for the points that one player sees, for
two players that see each other, and for the objects in view. -/
theorem visibility_iff (w : ObjectAccessor) (p q : Nat) (onMap : OnMap (w.position p))
    (onMap' : OnMap (w.position q)) :
    ((∀ point, OnMap point → (w.canSeePoint p point = true ↔ Near point (w.position p))) ↔
      Inland (w.position p)) ∧
    ((w.canSeePoint p (w.position q) = true ↔ w.canSeePoint q (w.position p) = true) ↔
      (Near (w.position p) (w.position q) → (Inland (w.position p) ↔ Inland (w.position q)))) ∧
    (w.objectsInView p = w.objectsNear (w.position p) ↔
      Inland (w.position p) ∨ w.objectsNear (w.position p) = ∅) :=
  ⟨sees_square_iff onMap, sees_symm_iff onMap onMap', objectsInView_eq_iff onMap⟩

/-- Two players near the corner of the map, one of them inland. -/
def cornerPair : ObjectAccessor where
  position o := if o = 0 then ⟨100, 100⟩ else ⟨350, 350⟩
  mgr := { extent := fun _ => 0, objectTable := {0, 1} }

theorem cornerPair_visibility :
    ((∀ point, OnMap point →
        (cornerPair.canSeePoint 1 point = true ↔ Near point (cornerPair.position 1))) ↔
      Inland (cornerPair.position 1)) ∧
    ((cornerPair.canSeePoint 1 (cornerPair.position 0) = true ↔
        cornerPair.canSeePoint 0 (cornerPair.position 1) = true) ↔
      (Near (cornerPair.position 1) (cornerPair.position 0) →
        (Inland (cornerPair.position 1) ↔ Inland (cornerPair.position 0)))) ∧
    (cornerPair.objectsInView 1 = cornerPair.objectsNear (cornerPair.position 1) ↔
      Inland (cornerPair.position 1) ∨ cornerPair.objectsNear (cornerPair.position 1) = ∅) :=
  visibility_iff cornerPair 1 0 ⟨by decide, by decide⟩ ⟨by decide, by decide⟩

/-- The one in the corner does not see its own place, nor the other one, which sees it. -/
theorem cornerPair_unseen :
    (Near ⟨100, 100⟩ (cornerPair.position 0) ∧ cornerPair.canSeePoint 0 ⟨100, 100⟩ = false) ∧
      cornerPair.canSeePoint 0 (cornerPair.position 1) = false ∧
      cornerPair.canSeePoint 1 (cornerPair.position 0) = true ∧
      cornerPair.objectsInView 0 ≠ cornerPair.objectsNear (cornerPair.position 0) := by
  decide

end ObjectAccessor

end NoxServer.Accessor
