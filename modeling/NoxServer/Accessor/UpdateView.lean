import NoxServer.Accessor.Visibility

/-!
What a player is shown as it moves.

`UpdateView` compares the place of a player with the one it last recorded, and queues the objects of
the two strips that have come into view. It does so when the player has moved more than 10 to the
east or to the south, so a move to the west or to the north alone shows nothing; and the strips wrap
around at the western and the northern edge as the whole square does. Where neither happens nothing
is missed (`updateView_misses_nothing`).
-/

namespace NoxServer.Accessor

open Objects

/-! ### Strips -/

/-- How far a coordinate has moved, in sixteen bits. -/
def delta (a b : UInt32) : Int16 := (a - b).toUInt16.toInt16

/-- Where the strip of a coordinate begins. -/
def stripStart (a b : UInt32) : UInt32 :=
  if delta a b < 0 then a - 300 else a - (delta a b).toInt32.toUInt32 + 300

/-- Where it ends. -/
def stripEnd (a b : UInt32) : UInt32 :=
  stripStart a b +
    if delta a b < 0 then -(delta a b).toInt32.toUInt32 else (delta a b).toInt32.toUInt32

/-- The coordinate is in what the strip is for: the part of the new square that is beyond the old
one, if that does not begin before the edge. -/
def Beyond (a b q : UInt32) : Prop :=
  b < a ∧ b.toNat + 300 ≤ q.toNat ∨ a < b ∧ q.toNat + 300 ≤ b.toNat ∧ 300 ≤ a

instance (a b q : UInt32) : Decidable (Beyond a b q) := inferInstanceAs (Decidable (_ ∨ _))

section Coordinates

variable {a b q : UInt32}

/-- A distance within sixteen bits is taken as it is. -/
theorem delta_toInt (within : ((a.toNat : Int) - b.toNat).natAbs < 2 ^ 15) :
    (delta a b).toInt = (a.toNat : Int) - b.toNat := by
  have a_lt := a.toNat_lt
  have b_lt := b.toNat_lt
  have bits : (delta a b).toInt = (a - b).toUInt16.toBitVec.toInt := rfl
  have low : (a - b).toUInt16.toBitVec.toNat = (a - b).toNat % 2 ^ 16 :=
    UInt32.toNat_toUInt16 (a - b)
  rw [bits, BitVec.toInt_eq_toNat_cond, low, UInt32.toNat_sub]
  split <;> omega

theorem toNat_signed (d : Int16) :
    (d.toInt32.toUInt32.toNat : Int) = if d.toInt < 0 then d.toInt + 2 ^ 32 else d.toInt := by
  have same : d.toInt32.toUInt32.toBitVec.toInt = d.toInt := Int16.toInt_toInt32 d
  have bits : d.toInt32.toUInt32.toBitVec.toNat = d.toInt32.toUInt32.toNat := rfl
  have upper := d.toInt32.toUInt32.toNat_lt
  rw [BitVec.toInt_eq_toNat_cond, bits] at same
  split at same <;> split <;> omega

/-- What is in a strip, of the coordinates in the new square. -/
theorem strip_iff (a_lt : a.toNat < 2 ^ 15) (b_lt : b.toNat < 2 ^ 15) (moved : a ≠ b)
    (near : ((q.toNat : Int) - a.toNat).natAbs ≤ 300) :
    (stripStart a b ≤ q ∧ q ≤ stripEnd a b) ↔ Beyond a b q := by
  have is := delta_toInt (a := a) (b := b) (by omega)
  have number := toNat_signed (delta a b)
  have sign : delta a b < 0 ↔ (delta a b).toInt < 0 := Int16.lt_iff_toInt_lt
  have lit : (300 : UInt32).toNat = 300 := rfl
  have size : UInt32.size = 2 ^ 32 := rfl
  have q_lt := q.toNat_lt
  have apart : a.toNat ≠ b.toNat := fun same => moved (UInt32.toNat_inj.mp same)
  unfold Beyond stripEnd stripStart
  rw [@UInt32.lt_iff_toNat_lt a, @UInt32.lt_iff_toNat_lt b]
  by_cases back : delta a b < 0
  · have negative := sign.mp back
    rw [if_pos negative] at number
    rw [if_pos back, if_pos back]
    simp only [UInt32.le_iff_toNat_le, UInt32.toNat_add, UInt32.toNat_neg, UInt32.toNat_sub, lit,
      size]
    omega
  · have positive := mt sign.mpr back
    rw [if_neg positive] at number
    rw [if_neg back, if_neg back]
    simp only [UInt32.le_iff_toNat_le, UInt32.toNat_add, UInt32.toNat_sub, lit]
    omega

theorem Beyond.ne (beyond : Beyond a b q) : a ≠ b := by
  rintro rfl
  rcases beyond with ⟨lt, -⟩ | ⟨lt, -⟩
  · exact absurd lt (UInt32.lt_irrefl a)
  · exact absurd lt (UInt32.lt_irrefl a)

end Coordinates

/-! ### Moves -/

/-- More than 10 apart in some direction. -/
def Moved (a b : GridPair) : Prop :=
  10 < ((a.x_coord.toNat : Int) - b.x_coord.toNat).natAbs ∨
    10 < ((a.y_coord.toNat : Int) - b.y_coord.toNat).natAbs

instance (a b : GridPair) : Decidable (Moved a b) := inferInstanceAs (Decidable (_ ∨ _))

/-- A place that has been recorded; one with a zero has not. -/
def Recorded (a : GridPair) : Prop := a.x_coord ≠ 0 ∧ a.y_coord ≠ 0

instance (a : GridPair) : Decidable (Recorded a) := inferInstanceAs (Decidable (_ ∧ _))

/-- Coordinates of fifteen bits. -/
def Fits (a : GridPair) : Prop := a.x_coord.toNat < 2 ^ 15 ∧ a.y_coord.toNat < 2 ^ 15

instance (a : GridPair) : Decidable (Fits a) := inferInstanceAs (Decidable (_ ∧ _))

/-- What `UpdateView` shows of the square around `a` to a player last recorded at `b`, if it has
moved more than 10 to the east or to the south: what has come into view over an edge of the old
square, unless the strip there reaches over the edge of the map. -/
def Shown (a b q : GridPair) : Prop :=
  (b.x_coord.toNat + 10 < a.x_coord.toNat ∨ b.y_coord.toNat + 10 < a.y_coord.toNat) ∧
    (Beyond a.x_coord b.x_coord q.x_coord ∧ 300 ≤ a.y_coord ∨
      Beyond a.y_coord b.y_coord q.y_coord ∧ 300 ≤ a.x_coord)

instance (a b q : GridPair) : Decidable (Shown a b q) := inferInstanceAs (Decidable (_ ∧ _))

namespace ObjectAccessor

variable (c : ObjectAccessor) (p : Nat)

/-- The mobile objects that have come into view since the last record. -/
def exposed : Finset Nat :=
  (c.objectsNear (c.position p)).filter fun q => ¬Near (c.position q) (c.oldPosition p)

/-- The objects a call of `UpdateView` inserts. -/
def inserted : Finset Nat := if Recorded (c.oldPosition p) then c.newInView p else ∅

/-- The call replaces the recorded place. -/
def Records : Prop :=
  ¬Recorded (c.oldPosition p) ∨
    delta (c.position p).x_coord (c.oldPosition p).x_coord > 10 ∨
    delta (c.position p).y_coord (c.oldPosition p).y_coord > 10

theorem updateView_of_recorded (recorded : Recorded (c.oldPosition p)) :
    c.updateView p =
      { c with
        updateQueue := Function.update c.updateQueue p (c.updateQueue p ∪ c.newInView p)
        oldPosition :=
          if delta (c.position p).x_coord (c.oldPosition p).x_coord > 10 ∨
              delta (c.position p).y_coord (c.oldPosition p).y_coord > 10 then
            Function.update c.oldPosition p (c.position p)
          else c.oldPosition } :=
  if_pos recorded

theorem updateView_of_not_recorded (new : ¬Recorded (c.oldPosition p)) :
    c.updateView p =
      { c with oldPosition := Function.update c.oldPosition p (c.position p) } :=
  if_neg new

theorem updateQueue_updateView :
    (c.updateView p).updateQueue p = c.updateQueue p ∪ c.inserted p := by
  unfold inserted
  by_cases recorded : Recorded (c.oldPosition p)
  · rw [updateView_of_recorded c p recorded, if_pos recorded]
    exact Function.update_self ..
  · rw [updateView_of_not_recorded c p recorded, if_neg recorded, Finset.union_empty]

theorem oldPosition_updateView_of_records (records : c.Records p) :
    (c.updateView p).oldPosition p = c.position p := by
  by_cases recorded : Recorded (c.oldPosition p)
  · rw [updateView_of_recorded c p recorded]
    dsimp only
    rw [if_pos (records.resolve_left (not_not_intro recorded))]
    exact Function.update_self ..
  · rw [updateView_of_not_recorded c p recorded]
    exact Function.update_self ..

theorem oldPosition_updateView_of_not_records (keeps : ¬c.Records p) :
    (c.updateView p).oldPosition p = c.oldPosition p := by
  unfold Records at keeps
  rw [not_or, not_not] at keeps
  rw [updateView_of_recorded c p keeps.1]
  dsimp only
  rw [if_neg keeps.2]

theorem newInView_eq :
    c.newInView p =
      let pos := c.position p
      let old := c.oldPosition p
      if delta pos.x_coord old.x_coord > 10 ∨ delta pos.y_coord old.y_coord > 10 then
        (if delta pos.x_coord old.x_coord ≠ 0 then
          c.getObjectsInRect ⟨stripStart pos.x_coord old.x_coord, pos.y_coord - 300⟩
            ⟨stripEnd pos.x_coord old.x_coord, pos.y_coord + 300⟩
        else ∅) ∪
        if delta pos.y_coord old.y_coord ≠ 0 then
          c.getObjectsInRect ⟨pos.x_coord - 300, stripStart pos.y_coord old.y_coord⟩
            ⟨pos.x_coord + 300, stripEnd pos.y_coord old.y_coord⟩
        else ∅
      else ∅ := rfl

variable {c p}

theorem mem_getObjectsInRect {q : Nat} {leftTop rightBottom : GridPair} :
    q ∈ c.getObjectsInRect leftTop rightBottom ↔
      q ∈ c.mobileObjects ∧ inRect (c.position q) leftTop rightBottom = true := by
  unfold getObjectsInRect mobileObjects
  rw [Finset.mem_filter, Finset.mem_filter, Bool.and_eq_true, Bool.not_eq_true', and_assoc]

theorem delta_pos_iff {a b : UInt32} (a_lt : a.toNat < 2 ^ 15) (b_lt : b.toNat < 2 ^ 15) :
    delta a b > 10 ↔ b.toNat + 10 < a.toNat := by
  have is := delta_toInt (a := a) (b := b) (by omega)
  have lit : (10 : Int16).toInt = 10 := rfl
  rw [gt_iff_lt, Int16.lt_iff_toInt_lt, is, lit]
  omega

theorem delta_ne_zero_iff {a b : UInt32} (a_lt : a.toNat < 2 ^ 15) (b_lt : b.toNat < 2 ^ 15) :
    delta a b ≠ 0 ↔ a ≠ b := by
  have is := delta_toInt (a := a) (b := b) (by omega)
  have lit : (0 : Int16).toInt = 0 := rfl
  rw [Ne, ← Int16.toInt_inj, is, lit, Ne, ← UInt32.toNat_inj]
  omega

/-- What a strip along `y` finds of the objects in view. -/
theorem mem_stripX_iff {q : Nat} {pos : GridPair} {old : UInt32} (fits : Fits pos)
    (old_lt : old.toNat < 2 ^ 15) (near : q ∈ c.objectsNear pos) :
    (q ∈ if delta pos.x_coord old ≠ 0 then
        c.getObjectsInRect ⟨stripStart pos.x_coord old, pos.y_coord - 300⟩
          ⟨stripEnd pos.x_coord old, pos.y_coord + 300⟩
      else ∅) ↔
      Beyond pos.x_coord old (c.position q).x_coord ∧ 300 ≤ pos.y_coord := by
  obtain ⟨mobile, close⟩ := Finset.mem_filter.mp near
  have room : pos.y_coord.toNat + 300 < 2 ^ 32 := by
    have := fits.2
    omega
  by_cases moved : pos.x_coord = old
  · rw [if_neg (not_not_intro moved ∘ (delta_ne_zero_iff fits.1 old_lt).mp)]
    exact iff_of_false (Finset.notMem_empty q) fun both => both.1.ne moved
  · rw [if_pos ((delta_ne_zero_iff fits.1 old_lt).mpr moved), mem_getObjectsInRect, inRect_iff,
      strip_iff fits.1 old_lt moved close.1, between_iff room, and_iff_right mobile,
      and_iff_right close.2]

/-- What a strip along `x` finds of the objects in view. -/
theorem mem_stripY_iff {q : Nat} {pos : GridPair} {old : UInt32} (fits : Fits pos)
    (old_lt : old.toNat < 2 ^ 15) (near : q ∈ c.objectsNear pos) :
    (q ∈ if delta pos.y_coord old ≠ 0 then
        c.getObjectsInRect ⟨pos.x_coord - 300, stripStart pos.y_coord old⟩
          ⟨pos.x_coord + 300, stripEnd pos.y_coord old⟩
      else ∅) ↔
      Beyond pos.y_coord old (c.position q).y_coord ∧ 300 ≤ pos.x_coord := by
  obtain ⟨mobile, close⟩ := Finset.mem_filter.mp near
  have room : pos.x_coord.toNat + 300 < 2 ^ 32 := by
    have := fits.1
    omega
  by_cases moved : pos.y_coord = old
  · rw [if_neg (not_not_intro moved ∘ (delta_ne_zero_iff fits.2 old_lt).mp)]
    exact iff_of_false (Finset.notMem_empty q) fun both => both.1.ne moved
  · rw [if_pos ((delta_ne_zero_iff fits.2 old_lt).mpr moved), mem_getObjectsInRect, inRect_iff,
      strip_iff fits.2 old_lt moved close.2, between_iff room, and_iff_right mobile,
      and_iff_right close.1, and_comm]

/-- What a call inserts of the objects in view. -/
theorem mem_newInView_iff {q : Nat} (fits : Fits (c.position p)) (fits' : Fits (c.oldPosition p))
    (near : q ∈ c.objectsNear (c.position p)) :
    q ∈ c.newInView p ↔ Shown (c.position p) (c.oldPosition p) (c.position q) := by
  have far := or_congr (delta_pos_iff fits.1 fits'.1) (delta_pos_iff fits.2 fits'.2)
  rw [newInView_eq, Shown, ← far]
  dsimp only
  split
  · next moved =>
      rw [Finset.mem_union, mem_stripX_iff fits fits'.1 near, mem_stripY_iff fits fits'.2 near]
      exact (and_iff_right moved).symm
  · next still => exact iff_of_false (Finset.notMem_empty q) fun both => still both.1

/-! ### Calls -/

variable (c p)

/-- The player has moved more than 10 since the last record, or there is none. -/
def Due : Prop := ¬Recorded (c.oldPosition p) ∨ Moved (c.position p) (c.oldPosition p)

/-- A call misses nothing: when the player has moved more than 10, or nothing is recorded yet, what
has come into view is inserted. -/
def Complete : Prop := c.Due p → c.exposed p ⊆ c.inserted p

/-- A place is recorded when something has come into view by then, and all that has is shown. -/
def Covered : Prop :=
  c.Due p → ∀ q ∈ c.exposed p,
    (Recorded (c.oldPosition p) ∧ Fits (c.position p) ∧ Fits (c.oldPosition p)) ∧
      Shown (c.position p) (c.oldPosition p) (c.position q)

variable {c p}

theorem mem_inserted_iff {q : Nat} (fits : Fits (c.position p)) (fits' : Fits (c.oldPosition p))
    (near : q ∈ c.objectsNear (c.position p)) :
    q ∈ c.inserted p ↔
      Recorded (c.oldPosition p) ∧ Shown (c.position p) (c.oldPosition p) (c.position q) := by
  unfold inserted
  split
  · next recorded =>
      rw [mem_newInView_iff fits fits' near]
      exact (and_iff_right recorded).symm
  · next new => exact iff_of_false (Finset.notMem_empty q) fun both => new both.1

theorem Covered.complete (covered : c.Covered p) : c.Complete p := by
  intro due q mem
  obtain ⟨⟨recorded, fits, fits'⟩, shown⟩ := covered due q mem
  exact (mem_inserted_iff fits fits' (Finset.mem_filter.mp mem).1).mpr ⟨recorded, shown⟩

/-- Of places of fifteen bits a call misses nothing exactly if it is covered. -/
theorem complete_iff_covered (fits : Fits (c.position p)) (fits' : Fits (c.oldPosition p)) :
    c.Complete p ↔ c.Covered p := by
  refine ⟨fun complete due q mem => ?_, Covered.complete⟩
  obtain ⟨recorded, shown⟩ :=
    (mem_inserted_iff fits fits' (Finset.mem_filter.mp mem).1).mp (complete due mem)
  exact ⟨⟨recorded, fits, fits'⟩, shown⟩

theorem moved_of_delta {a b : GridPair}
    (far : delta a.x_coord b.x_coord > 10 ∨ delta a.y_coord b.y_coord > 10) : Moved a b := by
  have lit : (10 : Int16).toInt = 10 := rfl
  by_contra close
  unfold Moved at close
  rw [not_or, not_lt, not_lt] at close
  rcases far with far | far
  · have is := delta_toInt (a := a.x_coord) (b := b.x_coord) (by omega)
    have more := Int16.lt_iff_toInt_lt.mp far
    omega
  · have is := delta_toInt (a := a.y_coord) (b := b.y_coord) (by omega)
    have more := Int16.lt_iff_toInt_lt.mp far
    omega

theorem Records.due (records : c.Records p) : c.Due p :=
  records.imp_right moved_of_delta

theorem position_updateView (c : ObjectAccessor) (p : Nat) :
    (c.updateView p).position = c.position ∧
      (c.updateView p).mobileObjects = c.mobileObjects := by
  by_cases recorded : Recorded (c.oldPosition p)
  · rw [updateView_of_recorded c p recorded]
    exact ⟨rfl, rfl⟩
  · rw [updateView_of_not_recorded c p recorded]
    exact ⟨rfl, rfl⟩

theorem mem_exposed {q : Nat} (mobile : q ∈ c.mobileObjects)
    (near : Near (c.position q) (c.position p)) (before : ¬Near (c.position q) (c.oldPosition p)) :
    q ∈ c.exposed p :=
  Finset.mem_filter.mpr ⟨Finset.mem_filter.mpr ⟨mobile, near⟩, before⟩

/-- What is near the recorded place after a call was near the one before, or has been inserted. -/
theorem Covered.near_recorded {q : Nat} (covered : c.Covered p) (mobile : q ∈ c.mobileObjects)
    (near : Near (c.position q) ((c.updateView p).oldPosition p)) :
    Near (c.position q) (c.oldPosition p) ∨ q ∈ c.inserted p := by
  by_cases records : c.Records p
  · rw [oldPosition_updateView_of_records c p records] at near
    by_cases before : Near (c.position q) (c.oldPosition p)
    · exact .inl before
    · exact .inr (covered.complete records.due (mem_exposed mobile near before))
  · rw [oldPosition_updateView_of_not_records c p records] at near
    exact .inl near

/-- What is in view after a call is near the recorded place, or has been inserted, or waits for the
player to move more than 10. -/
theorem Covered.inView {q : Nat} (covered : c.Covered p)
    (mobile : q ∈ c.mobileObjects) (near : Near (c.position q) (c.position p)) :
    Near (c.position q) ((c.updateView p).oldPosition p) ∨ q ∈ c.inserted p ∨
      ¬Moved (c.position p) ((c.updateView p).oldPosition p) := by
  by_cases records : c.Records p
  · rw [oldPosition_updateView_of_records c p records]
    exact .inl near
  · rw [oldPosition_updateView_of_not_records c p records]
    by_cases before : Near (c.position q) (c.oldPosition p)
    · exact .inl before
    · by_cases moved : Moved (c.position p) (c.oldPosition p)
      · exact .inr (.inl (covered.complete (.inr moved) (mem_exposed mobile near before)))
      · exact .inr (.inr moved)

/-! ### Sequences of moves -/

def moveTo (w : ObjectAccessor) (p : Nat) (pos : GridPair) : ObjectAccessor :=
  { w with position := Function.update w.position p pos }

/-- The player moves to one place after the other, with a call of `UpdateView` at each. -/
def walk (p : Nat) (w : ObjectAccessor) (moves : List GridPair) : ObjectAccessor :=
  moves.foldl (fun w pos => (w.moveTo p pos).updateView p) w

/-- The states at the calls. -/
def calls (p : Nat) : ObjectAccessor → List GridPair → List ObjectAccessor
  | _, [] => []
  | w, pos :: moves => w.moveTo p pos :: calls p ((w.moveTo p pos).updateView p) moves

variable {w : ObjectAccessor} {moves : List GridPair} {q : Nat}

theorem position_call (other : q ≠ p) (pos : GridPair) :
    (w.moveTo p pos).position q = w.position q ∧
      ((w.moveTo p pos).updateView p).position q = w.position q ∧
      ((w.moveTo p pos).updateView p).mobileObjects = w.mobileObjects := by
  have moved : (w.moveTo p pos).position q = w.position q := Function.update_of_ne other ..
  have same := position_updateView (w.moveTo p pos) p
  exact ⟨moved, (congrFun same.1 q).trans moved, same.2⟩

/-- After the moves what is in view was near the place recorded before them, or has been inserted,
or waits for the player to move more than 10 from the recorded place. -/
theorem inView_walk (covered : ∀ c ∈ calls p w moves, c.Covered p) (some : moves ≠ [])
    (other : q ≠ p) (mobile : q ∈ w.mobileObjects)
    (near : Near (w.position q) ((walk p w moves).position p)) :
    (Near (w.position q) (w.oldPosition p) ∨ ∃ c ∈ calls p w moves, q ∈ c.inserted p) ∨
      ¬Near (w.position q) ((walk p w moves).oldPosition p) ∧
        ¬Moved ((walk p w moves).position p) ((walk p w moves).oldPosition p) := by
  induction moves generalizing w with
  | nil => exact absurd rfl some
  | cons pos moves ih =>
      obtain ⟨before, after, same⟩ := position_call (w := w) other pos
      have here : (w.moveTo p pos).Covered p := covered _ List.mem_cons_self
      have first (recorded : Near (w.position q)
          (((w.moveTo p pos).updateView p).oldPosition p)) :
          Near (w.position q) (w.oldPosition p) ∨
            ∃ c ∈ calls p w (pos :: moves), q ∈ c.inserted p := by
        rw [← before] at recorded
        refine (here.near_recorded mobile recorded).imp (fun near => before ▸ near) fun mem => ?_
        exact ⟨_, List.mem_cons_self, mem⟩
      cases moves with
      | nil =>
          have place := congrFun (position_updateView (w.moveTo p pos) p).1 p
          have near : Near (w.position q) (((w.moveTo p pos).updateView p).position p) := near
          rw [place] at near
          rcases here.inView mobile (before ▸ near) with recorded | mem | still
          · exact .inl (first (before ▸ recorded))
          · exact .inl (.inr ⟨_, List.mem_cons_self, mem⟩)
          · by_cases recorded : Near (w.position q)
              (((w.moveTo p pos).updateView p).oldPosition p)
            · exact .inl (first recorded)
            · exact .inr ⟨recorded, fun moved => still (place ▸ moved)⟩
      | cons pos' moves =>
          have rest := ih (w := (w.moveTo p pos).updateView p)
            (fun c mem => covered c (List.mem_cons_of_mem _ mem)) (List.cons_ne_nil _ _)
            (same ▸ mobile) (after ▸ near)
          rw [after] at rest
          rcases rest with (recorded | ⟨c, mem, inserted⟩) | waits
          · exact .inl (first recorded)
          · exact .inl (.inr ⟨c, List.mem_cons_of_mem _ mem, inserted⟩)
          · exact .inr waits

/-- If all calls of a walk are covered, each call that is due puts what has come into view into the
player's queue, and in the end nothing in view is missed: it was near the place recorded before, or
some call has inserted it, or the player has not moved far enough for a call to be due.
`complete_iff_covered` shows that a call is complete just when it is covered. -/
theorem updateView_misses_nothing (covered : ∀ c ∈ calls p w moves, c.Covered p) :
    (∀ c ∈ calls p w moves, c.Due p →
      c.exposed p ⊆ (c.updateView p).updateQueue p ∩ c.inserted p) ∧
    (moves ≠ [] → ∀ q ∈ w.mobileObjects, q ≠ p →
      Near (w.position q) ((walk p w moves).position p) →
        (Near (w.position q) (w.oldPosition p) ∨ ∃ c ∈ calls p w moves, q ∈ c.inserted p) ∨
          ¬Near (w.position q) ((walk p w moves).oldPosition p) ∧
            ¬Moved ((walk p w moves).position p) ((walk p w moves).oldPosition p)) := by
  refine ⟨fun c mem due q exposed => ?_, fun some q mobile other near =>
    inView_walk covered some other mobile near⟩
  have inserted := (covered c mem).complete due exposed
  rw [updateQueue_updateView]
  exact Finset.mem_inter.mpr ⟨Finset.mem_union_right _ inserted, inserted⟩

/-- A player at (1000, 1000), where it was recorded, and an object 320 to the east and one 320 to
the west. -/
def betweenTwo : ObjectAccessor where
  position o := if o = 0 then ⟨1000, 1000⟩ else if o = 1 then ⟨1320, 1000⟩ else ⟨680, 1000⟩
  oldPosition _ := ⟨1000, 1000⟩
  mgr := { extent := fun _ => 0, objectTable := {0, 1, 2} }

/-- To the east and then to the south. -/
def eastAndSouth : List GridPair := [⟨1030, 1000⟩, ⟨1030, 1025⟩]

theorem betweenTwo_east :
    (∀ c ∈ calls 0 betweenTwo eastAndSouth, c.Due 0 →
      c.exposed 0 ⊆ (c.updateView 0).updateQueue 0 ∩ c.inserted 0) ∧
    (eastAndSouth ≠ [] → ∀ q ∈ betweenTwo.mobileObjects, q ≠ 0 →
      Near (betweenTwo.position q) ((walk 0 betweenTwo eastAndSouth).position 0) →
        (Near (betweenTwo.position q) (betweenTwo.oldPosition 0) ∨
          ∃ c ∈ calls 0 betweenTwo eastAndSouth, q ∈ c.inserted 0) ∨
          ¬Near (betweenTwo.position q) ((walk 0 betweenTwo eastAndSouth).oldPosition 0) ∧
            ¬Moved ((walk 0 betweenTwo eastAndSouth).position 0)
              ((walk 0 betweenTwo eastAndSouth).oldPosition 0)) := by
  refine updateView_misses_nothing fun c mem => ?_
  rcases List.mem_cons.mp mem with rfl | mem
  · intro _
    decide
  · rw [List.mem_singleton.mp mem]
    intro _
    decide

/-- It walks to the west: the object there comes into view and is not shown. -/
theorem betweenTwo_west :
    Moved ((betweenTwo.moveTo 0 ⟨970, 1000⟩).position 0) (betweenTwo.oldPosition 0) ∧
      2 ∈ (betweenTwo.moveTo 0 ⟨970, 1000⟩).exposed 0 ∧
      2 ∉ ((betweenTwo.moveTo 0 ⟨970, 1000⟩).updateView 0).updateQueue 0 := by
  decide

end ObjectAccessor

end NoxServer.Accessor
