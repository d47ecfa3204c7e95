import Mathlib.Data.List.Nodup
import NoxServer.Library.OrderedMap

/-!
What a player sees, of the server under `awesie_test` (`player::update_view`).

The physics engine answers with the shapes around the player, and says of each whether it is
hit by the segment from the player to an object; nothing is assumed about either answer. An
object of the view is taken out of it when the scan comes to its shape, and put into the new
view when no wall is before it; what the scan has left is reported out of sight. So an object
that goes behind a wall within the rectangle is in neither and is not reported
(`view_booked_iff`).
-/

namespace NoxServer

namespace Awesie

open OrderedMap

/-- `m_current_view`: the objects by their extents. -/
abbrev ObjectMap (Obj : Type) := List (UInt16 × Obj)

/-- `std::less` of the extents. -/
def extentLess (a b : UInt16) : Bool := a < b

/-- The objects of the game. -/
structure Objects (Obj : Type) where
  extent : Obj → UInt16
  distinct : ∀ {a b}, extent a = extent b → a = b
  /-- `is_static()`. -/
  isStatic : Obj → Bool
  /-- `get_object_info()->classes & CLASS_OBSTACLE`. -/
  obstacle : Obj → Bool

/-- What a call of `update_view` finds: the user data of the shapes in the rectangle, NULL for
a wall, whether the shape at a place is hit by the segment to an object, which objects are
dirty, and whether the player is loading. -/
structure Scene (Obj : Type) where
  shapes : List (Option Obj)
  testSegment : Nat → Obj → Bool
  isDirty : Obj → Bool
  playerLoading : Bool

/-- `m_current_view` and `m_update_queue`. -/
structure Sight (Obj : Type) where
  currentView : ObjectMap Obj := []
  updateQueue : List Obj := []

/-- The scan of the shapes. -/
structure Scan (Obj : Type) extends Sight Obj where
  newView : ObjectMap Obj := []

variable {Obj : Type} (objects : Objects Obj)

/-- The ray cast: a wall or an obstacle is hit by the segment to the object. -/
def behindWall (scene : Scene Obj) (o : Obj) : Bool :=
  scene.shapes.zipIdx.any fun (shape, j) =>
    (match shape with
      | none => true
      | some obstacle => objects.obstacle obstacle) && scene.testSegment j o

section Calls

variable [DecidableEq Obj]

def scanShape (scene : Scene Obj) (scan : Scan Obj) : Option Obj → Scan Obj
  | none => scan
  | some o =>
      if objects.isStatic o then scan
      else
        let newObject :=
          match find extentLess (objects.extent o) scan.currentView with
          | none => true
          | some _ => scene.isDirty o
        let scan := { scan with
          currentView := erase extentLess (objects.extent o) scan.currentView }
        if behindWall objects scene o then scan
        else
          { scan with
            newView := put extentLess (objects.extent o) o scan.newView
            updateQueue := if newObject then scan.updateQueue.insert o else scan.updateQueue }

def scanShapes (scene : Scene Obj) (sight : Sight Obj) : Scan Obj :=
  scene.shapes.foldl (scanShape objects scene) { sight with }

/-- `update_view(aabb)`: the sight, and the extent of each MSG_OBJECT_OUT_OF_SIGHT that
`send_packet` is called with. -/
def updateView (scene : Scene Obj) (sight : Sight Obj) : Sight Obj × List UInt16 :=
  let scan := scanShapes objects scene sight
  ({ currentView := scan.newView, updateQueue := scan.updateQueue },
    scan.currentView.map Prod.fst)

/-- `SendUpdatePacket()`: the objects of the stream in their order. -/
def sendUpdatePacket (self : Obj) (sight : Sight Obj) : Sight Obj × List Obj :=
  ({ sight with updateQueue := [] }, self :: sight.updateQueue.erase self)

end Calls

/-- The messages `send_packet` lets pass: none while the player is loading. -/
def passed (scene : Scene Obj) (messages : List UInt16) : List UInt16 :=
  if scene.playerLoading then [] else messages

/-! ### Maps by extent -/

theorem extentLess_weak : StrictWeak extentLess where
  irrefl a := by simp [extentLess]
  trans a b c := by
    simp only [extentLess, decide_eq_true_eq]
    exact UInt16.lt_trans
  between a b c := by
    simp only [extentLess, decide_eq_true_eq, UInt16.lt_iff_toNat_lt]
    omega

theorem extent_eq_of_same {a b : UInt16} (same : Same extentLess a b) : a = b := by
  obtain ⟨not_lt, not_gt⟩ := same
  simp only [extentLess, decide_eq_false_iff_not, UInt16.lt_iff_toNat_lt] at not_lt not_gt
  exact UInt16.toNat_inj.mp (by omega)

theorem same_iff_eq {a b : UInt16} : Same extentLess a b ↔ a = b := by
  constructor
  · exact extent_eq_of_same
  · rintro rfl
    exact extentLess_weak.same_refl a

/-- What is found once an object is put under an extent. -/
theorem find_put_extent (key key' : UInt16) (o : Obj) (view : ObjectMap Obj) :
    find extentLess key' (put extentLess key o view) =
      if key = key' then some o else find extentLess key' view := by
  rw [find_put extentLess_weak]
  simp only [same_iff_eq]

/-- What is found once an extent is taken out. -/
theorem find_erase_extent (key key' : UInt16) {view : ObjectMap Obj}
    (sorted : Sorted extentLess view) :
    find extentLess key' (erase extentLess key view) =
      if key = key' then none else find extentLess key' view := by
  rw [find_erase extentLess_weak key key' sorted]
  simp only [same_iff_eq]

/-! ### The scan -/

/-- The object is in the view. -/
def Sees (view : ObjectMap Obj) (o : Obj) : Prop :=
  find extentLess (objects.extent o) view = some o

/-- Objects are under their own extents, in order. -/
structure Keyed (view : ObjectMap Obj) : Prop where
  sorted : Sorted extentLess view
  extent : ∀ e o, find extentLess e view = some o → objects.extent o = e

/-- One of the shapes is the object's, and it is not static. -/
def Queried (shapes : List (Option Obj)) (o : Obj) : Prop :=
  some o ∈ shapes ∧ objects.isStatic o = false

/-- What the scan has done to a sight when it comes to the end of the shapes. -/
structure Scanned (scene : Scene Obj) (sight : Sight Obj) (shapes : List (Option Obj))
    (scan : Scan Obj) : Prop where
  left : Keyed objects scan.currentView
  seen : Keyed objects scan.newView
  erased : ∀ o, Sees objects scan.currentView o ↔
    Sees objects sight.currentView o ∧ ¬ Queried objects shapes o
  visible : ∀ o, Sees objects scan.newView o ↔
    Queried objects shapes o ∧ behindWall objects scene o = false
  queued : ∀ o, Sees objects scan.newView o → ¬ Sees objects sight.currentView o →
    o ∈ scan.updateQueue

variable {objects}

theorem Keyed.nil : Keyed objects ([] : ObjectMap Obj) := ⟨.nil, nofun⟩

theorem Keyed.sees_of_find {view : ObjectMap Obj} (keyed : Keyed objects view) {e : UInt16}
    {o : Obj} (found : find extentLess e view = some o) : Sees objects view o := by
  rw [Sees, keyed.extent e o found]
  exact found

theorem Keyed.put_extent {view : ObjectMap Obj} (keyed : Keyed objects view) (o : Obj) :
    Keyed objects (put extentLess (objects.extent o) o view) := by
  refine ⟨keyed.sorted.put extentLess_weak _ _, fun e p found => ?_⟩
  rw [find_put_extent] at found
  split at found
  · next same =>
      cases found
      exact same
  · exact keyed.extent e p found

theorem Keyed.erase_extent {view : ObjectMap Obj} (keyed : Keyed objects view) (key : UInt16) :
    Keyed objects (erase extentLess key view) := by
  refine ⟨keyed.sorted.erase key, fun e p found => ?_⟩
  rw [find_erase_extent key e keyed.sorted] at found
  split at found
  · cases found
  · exact keyed.extent e p found

theorem sees_put {view : ObjectMap Obj} {o p : Obj} :
    Sees objects (put extentLess (objects.extent o) o view) p ↔
      p = o ∨ Sees objects view p := by
  rw [Sees, find_put_extent]
  split
  · next same =>
      cases objects.distinct same
      exact ⟨fun _ => .inl rfl, fun _ => rfl⟩
  · next other =>
      refine ⟨.inr, fun has => has.resolve_left ?_⟩
      rintro rfl
      exact other rfl

theorem Keyed.sees_erase {view : ObjectMap Obj} (keyed : Keyed objects view) {o p : Obj} :
    Sees objects (erase extentLess (objects.extent o) view) p ↔
      Sees objects view p ∧ p ≠ o := by
  rw [Sees, find_erase_extent _ _ keyed.sorted]
  split
  · next same =>
      cases objects.distinct same
      exact ⟨nofun, fun has => absurd rfl has.2⟩
  · next other =>
      refine ⟨fun has => ⟨has, ?_⟩, And.left⟩
      rintro rfl
      exact other rfl

theorem queried_concat {shapes : List (Option Obj)} {shape : Option Obj} {p : Obj} :
    Queried objects (shapes ++ [shape]) p ↔
      Queried objects shapes p ∨ (shape = some p ∧ objects.isStatic p = false) := by
  unfold Queried
  rw [List.mem_append, List.mem_singleton]
  constructor
  · rintro ⟨before | last, moves⟩
    · exact .inl ⟨before, moves⟩
    · exact .inr ⟨last.symm, moves⟩
  · rintro (⟨before, moves⟩ | ⟨last, moves⟩)
    · exact ⟨.inl before, moves⟩
    · exact ⟨.inr last.symm, moves⟩

/-- A shape that is not scanned for an object. -/
theorem Scanned.skip {scene : Scene Obj} {sight : Sight Obj} {shapes : List (Option Obj)}
    {scan : Scan Obj} (scanned : Scanned objects scene sight shapes scan) {shape : Option Obj}
    (skipped : ∀ p, shape = some p → objects.isStatic p = true) :
    Scanned objects scene sight (shapes ++ [shape]) scan := by
  have same (p : Obj) : Queried objects (shapes ++ [shape]) p ↔ Queried objects shapes p := by
    rw [queried_concat]
    refine ⟨fun queried => queried.resolve_right ?_, .inl⟩
    rintro ⟨last, moves⟩
    rw [skipped p last] at moves
    cases moves
  refine ⟨scanned.left, scanned.seen, fun p => ?_, fun p => ?_, scanned.queued⟩
  · rw [same]
    exact scanned.erased p
  · rw [same]
    exact scanned.visible p

/-- An object that was not in the view is new to the scan. -/
theorem Scanned.find_eq_none {scene : Scene Obj} {sight : Sight Obj}
    {shapes : List (Option Obj)} {scan : Scan Obj}
    (scanned : Scanned objects scene sight shapes scan) {o : Obj}
    (new : ¬ Sees objects sight.currentView o) :
    find extentLess (objects.extent o) scan.currentView = none := by
  cases found : find extentLess (objects.extent o) scan.currentView with
  | none => rfl
  | some p =>
      cases objects.distinct (scanned.left.extent _ p found)
      exact absurd ((scanned.erased o).mp found).1 new

theorem start_scanned (scene : Scene Obj) {sight : Sight Obj}
    (keyed : Keyed objects sight.currentView) :
    Scanned objects scene sight [] { sight with } :=
  ⟨keyed, .nil, fun _ => ⟨fun sees => ⟨sees, nofun⟩, And.left⟩, fun _ => ⟨nofun, nofun⟩, nofun⟩

/-- An object is new to the scan, or in the view and dirty. -/
theorem newObject_iff {scene : Scene Obj} {scan : Scan Obj}
    (keyed : Keyed objects scan.currentView) (o : Obj) :
    (match find extentLess (objects.extent o) scan.currentView with
      | none => true
      | some _ => scene.isDirty o) = true ↔
      ¬ Sees objects scan.currentView o ∨ scene.isDirty o = true := by
  cases found : find extentLess (objects.extent o) scan.currentView with
  | none =>
      refine ⟨fun _ => .inl fun sees => ?_, fun _ => rfl⟩
      cases found.symm.trans sees
  | some p =>
      cases objects.distinct (keyed.extent _ p found)
      exact ⟨.inr, fun either => either.resolve_left fun new => new found⟩

/-- What the scan has queued, when it has come to no object twice. -/
def Queues (objects : Objects Obj) (scene : Scene Obj) (sight : Sight Obj)
    (shapes : List (Option Obj)) (scan : Scan Obj) : Prop :=
  ∀ o, o ∈ scan.updateQueue ↔ o ∈ sight.updateQueue ∨
    (Queried objects shapes o ∧ behindWall objects scene o = false ∧
      (¬ Sees objects sight.currentView o ∨ scene.isDirty o = true))

theorem Queues.skip {scene : Scene Obj} {sight : Sight Obj} {shapes : List (Option Obj)}
    {scan : Scan Obj} (queues : Queues objects scene sight shapes scan) {shape : Option Obj}
    (skipped : ∀ p, shape = some p → objects.isStatic p = false →
      behindWall objects scene p = true) :
    Queues objects scene sight (shapes ++ [shape]) scan := by
  intro p
  rw [queues p, queried_concat]
  refine or_congr_right ⟨fun seen => ⟨.inl seen.1, seen.2⟩, fun seen => ⟨?_, seen.2⟩⟩
  refine seen.1.resolve_right ?_
  rintro ⟨last, moves⟩
  have shown := seen.2.1
  rw [skipped p last moves] at shown
  cases shown

variable [DecidableEq Obj]

/-- A member of a queue into which something may have been put. -/
theorem mem_insert_if {new : Bool} {P : Prop} (fresh : new = true ↔ P) {queue : List Obj}
    {o p : Obj} : (p ∈ if new then queue.insert o else queue) ↔ p ∈ queue ∨ (p = o ∧ P) := by
  split
  · next isNew => rw [List.mem_insert_iff, or_comm, and_iff_left (fresh.mp isNew)]
  · next known => rw [or_iff_left fun own => known (fresh.mpr own.2)]

/-- What one shape adds. -/
theorem Scanned.shape {scene : Scene Obj} {sight : Sight Obj} {shapes : List (Option Obj)}
    {scan : Scan Obj} (scanned : Scanned objects scene sight shapes scan)
    (shape : Option Obj) :
    Scanned objects scene sight (shapes ++ [shape]) (scanShape objects scene scan shape) := by
  cases shape with
  | none => exact scanned.skip nofun
  | some o =>
      rw [scanShape]
      split
      · next static =>
          refine scanned.skip ?_
          rintro p ⟨⟩
          exact static
      · next moving =>
          have moves : objects.isStatic o = false := Bool.eq_false_iff.mpr moving
          have queried (p : Obj) : Queried objects (shapes ++ [some o]) p ↔
              Queried objects shapes p ∨ p = o := by
            rw [queried_concat]
            refine or_congr_right ⟨fun last => (Option.some.inj last.1).symm, ?_⟩
            rintro rfl
            exact ⟨rfl, moves⟩
          have left := scanned.left.erase_extent (objects.extent o)
          have erased (p : Obj) :
              Sees objects (erase extentLess (objects.extent o) scan.currentView) p ↔
                Sees objects sight.currentView p ∧ ¬ Queried objects (shapes ++ [some o]) p := by
            rw [scanned.left.sees_erase, scanned.erased, queried, and_assoc, not_or]
          dsimp only
          split
          · next hidden =>
              refine ⟨left, scanned.seen, erased, fun p => ?_, scanned.queued⟩
              rw [scanned.visible, queried]
              refine ⟨fun seen => ⟨.inl seen.1, seen.2⟩,
                fun seen => ⟨seen.1.resolve_right ?_, seen.2⟩⟩
              rintro rfl
              rw [seen.2] at hidden
              cases hidden
          · next shown =>
              have shown : behindWall objects scene o = false := Bool.eq_false_iff.mpr shown
              refine ⟨left, scanned.seen.put_extent o, erased, fun p => ?_, fun p seen new => ?_⟩
              · rw [sees_put, scanned.visible, queried]
                constructor
                · rintro (rfl | seen)
                  · exact ⟨.inr rfl, shown⟩
                  · exact ⟨.inl seen.1, seen.2⟩
                · rintro ⟨before | rfl, seen⟩
                  · exact .inr ⟨before, seen⟩
                  · exact .inl rfl
              · rcases sees_put.mp seen with rfl | before
                · rw [scanned.find_eq_none new]
                  exact List.mem_insert_self
                · have kept := scanned.queued p before new
                  have either (c : Bool) :
                      p ∈ if c then scan.updateQueue.insert o else scan.updateQueue := by
                    split
                    · exact List.mem_insert_of_mem kept
                    · exact kept
                  exact either _

theorem scanShapes_scanned (scene : Scene Obj) {sight : Sight Obj}
    (keyed : Keyed objects sight.currentView) :
    Scanned objects scene sight scene.shapes (scanShapes objects scene sight) := by
  have all (done shapes : List (Option Obj)) (scan : Scan Obj)
      (scanned : Scanned objects scene sight done scan) :
      Scanned objects scene sight (done ++ shapes)
        (shapes.foldl (scanShape objects scene) scan) := by
    induction shapes generalizing done scan with
    | nil =>
        rw [List.append_nil]
        exact scanned
    | cons shape shapes ih =>
        rw [List.append_cons]
        exact ih (done ++ [shape]) _ (scanned.shape shape)
  exact all [] scene.shapes _ (start_scanned scene keyed)

/-- One more shape is looked at: its object is put into the queue if it is seen and has moved or is
new, and the ones looked at before stay as they are. -/
theorem Queues.shape {scene : Scene Obj} {sight : Sight Obj} {shapes : List (Option Obj)}
    {scan : Scan Obj} (queues : Queues objects scene sight shapes scan)
    (scanned : Scanned objects scene sight shapes scan) {shape : Option Obj}
    (once : ∀ o, shape = some o → some o ∉ shapes) :
    Queues objects scene sight (shapes ++ [shape]) (scanShape objects scene scan shape) := by
  cases shape with
  | none => exact queues.skip nofun
  | some o =>
      rw [scanShape]
      split
      · next static =>
          refine queues.skip ?_
          rintro p ⟨⟩ moves
          rw [moves] at static
          cases static
      · next moving =>
          have moves : objects.isStatic o = false := Bool.eq_false_iff.mpr moving
          dsimp only
          split
          · next hidden =>
              refine queues.skip ?_
              rintro p ⟨⟩ _
              exact hidden
          · next shown =>
              have shown : behindWall objects scene o = false := Bool.eq_false_iff.mpr shown
              have new : Sees objects scan.currentView o ↔ Sees objects sight.currentView o := by
                rw [scanned.erased]
                exact ⟨And.left, fun sees => ⟨sees, fun queried => once o rfl queried.1⟩⟩
              have fresh : (match find extentLess (objects.extent o) scan.currentView with
                  | none => true
                  | some _ => scene.isDirty o) = true ↔
                  ¬ Sees objects scan.currentView o ∨ scene.isDirty o = true :=
                newObject_iff scanned.left o
              rw [new] at fresh
              intro p
              refine (mem_insert_if fresh).trans ?_
              rw [queues p, queried_concat, or_assoc]
              refine or_congr_right ?_
              constructor
              · rintro (seen | ⟨rfl, seen⟩)
                · exact ⟨.inl seen.1, seen.2⟩
                · exact ⟨.inr ⟨rfl, moves⟩, shown, seen⟩
              · rintro ⟨before | ⟨last, _⟩, seen⟩
                · exact .inl ⟨before, seen⟩
                · cases last
                  exact .inr ⟨rfl, seen.2⟩

/-- What a call queues, when the engine's answer has no object twice: what is new to the view
and what is dirty. -/
theorem mem_updateQueue {scene : Scene Obj} {sight : Sight Obj}
    (keyed : Keyed objects sight.currentView) (once : (scene.shapes.filterMap id).Nodup) (o : Obj) :
    o ∈ (updateView objects scene sight).1.updateQueue ↔ o ∈ sight.updateQueue ∨
      (Queried objects scene.shapes o ∧ behindWall objects scene o = false ∧
        (¬ Sees objects sight.currentView o ∨ scene.isDirty o = true)) := by
  have all (done shapes : List (Option Obj)) (scan : Scan Obj)
      (distinct : ((done ++ shapes).filterMap id).Nodup)
      (scanned : Scanned objects scene sight done scan)
      (queues : Queues objects scene sight done scan) :
      Queues objects scene sight (done ++ shapes)
        (shapes.foldl (scanShape objects scene) scan) := by
    induction shapes generalizing done scan with
    | nil =>
        rw [List.append_nil]
        exact queues
    | cons shape shapes ih =>
        rw [List.append_cons] at distinct ⊢
        refine ih (done ++ [shape]) _ distinct (scanned.shape shape) (queues.shape scanned ?_)
        rintro p rfl mem
        rw [List.filterMap_append, List.filterMap_append] at distinct
        have apart := (List.nodup_append.mp (List.nodup_append.mp distinct).1).2.2
        exact apart p (List.mem_filterMap.mpr ⟨_, mem, rfl⟩) p (List.mem_singleton_self p) rfl
  refine all [] scene.shapes _ once (start_scanned scene keyed) ?_ o
  exact fun p => ⟨.inl, fun queued => queued.resolve_right fun seen => by cases seen.1.1⟩

/-! ### What is reported -/

variable (objects)

/-- The view and the messages of a call are right: it holds what is queried and not behind a
wall, what has left it is reported once and nothing else is, and what is new is queued. -/
structure Booked (scene : Scene Obj) (before after : Sight Obj) (messages : List UInt16) :
    Prop where
  view : ∀ e o, find extentLess e after.currentView = some o ↔
    Queried objects scene.shapes o ∧ behindWall objects scene o = false ∧ objects.extent o = e
  gone : ∀ o, Sees objects before.currentView o → ¬ Sees objects after.currentView o →
    messages.count (objects.extent o) = 1
  others : ∀ e ∈ messages, ∃ o, objects.extent o = e ∧ Sees objects before.currentView o ∧
    ¬ Sees objects after.currentView o
  queued : ∀ o, Sees objects after.currentView o → ¬ Sees objects before.currentView o →
    o ∈ after.updateQueue

/-- What happens to a player's sight between calls of `update_view` on a rectangle, and such
calls. -/
inductive SightAction (Obj : Type) where
  | call (scene : Scene Obj)
  /-- There is no body to look from. -/
  | noBody
  | stream (self : Obj)

/-- The sight after an action. -/
def SightAction.run (sight : Sight Obj) : SightAction Obj → Sight Obj
  | .call scene => (updateView objects scene sight).1
  | .noBody => sight
  | .stream self => (sendUpdatePacket self sight).1

/-- The sight of a new player after some actions. -/
def sightAfter (actions : List (SightAction Obj)) : Sight Obj :=
  actions.foldl (SightAction.run objects) {}

variable {objects}

theorem updateView_keyed (scene : Scene Obj) {sight : Sight Obj}
    (keyed : Keyed objects sight.currentView) :
    Keyed objects (updateView objects scene sight).1.currentView :=
  (scanShapes_scanned scene keyed).seen

theorem sightAfter_keyed (actions : List (SightAction Obj)) :
    Keyed objects (sightAfter objects actions).currentView := by
  have all (sight : Sight Obj) (keyed : Keyed objects sight.currentView) :
      Keyed objects (actions.foldl (SightAction.run objects) sight).currentView := by
    induction actions generalizing sight with
    | nil => exact keyed
    | cons action actions ih =>
        refine ih _ ?_
        cases action with
        | call scene => exact updateView_keyed scene keyed
        | noBody => exact keyed
        | stream _ => exact keyed
  exact all {} .nil

/-- What is left by the scan is what has gone from the rectangle. -/
theorem mem_messages (scene : Scene Obj) {sight : Sight Obj}
    (keyed : Keyed objects sight.currentView) {e : UInt16} :
    e ∈ (updateView objects scene sight).2 ↔
      ∃ o, objects.extent o = e ∧ Sees objects sight.currentView o ∧
        ¬ Queried objects scene.shapes o := by
  have scanned := scanShapes_scanned scene keyed
  constructor
  · intro mem
    obtain ⟨⟨own, o⟩, entry, rfl⟩ := List.mem_map.mp mem
    have found := (mem_iff_find extentLess_weak extent_eq_of_same scanned.left.sorted).mp entry
    exact ⟨o, scanned.left.extent own o found,
      (scanned.erased o).mp (scanned.left.sees_of_find found)⟩
  · rintro ⟨o, rfl, left⟩
    have found : Sees objects (scanShapes objects scene sight).currentView o :=
      (scanned.erased o).mpr left
    exact List.mem_map.mpr ⟨_, (mem_iff_find extentLess_weak extent_eq_of_same
      scanned.left.sorted).mpr found, rfl⟩

theorem messages_nodup (scene : Scene Obj) {sight : Sight Obj}
    (keyed : Keyed objects sight.currentView) :
    (updateView objects scene sight).2.Nodup :=
  (scanShapes_scanned scene keyed).left.sorted.nodup_keys extentLess_weak

/-- An object of the view is in the rectangle, behind a wall. -/
def Hides (objects : Objects Obj) (scene : Scene Obj) (sight : Sight Obj) : Prop :=
  ∃ o, Sees objects sight.currentView o ∧ Queried objects scene.shapes o ∧
    behindWall objects scene o = true

/-- An object of the view is not seen by the call. -/
def Leaves (objects : Objects Obj) (scene : Scene Obj) (sight : Sight Obj) : Prop :=
  ∃ o, Sees objects sight.currentView o ∧
    ¬ Sees objects (updateView objects scene sight).1.currentView o

theorem booked_of_messages (scene : Scene Obj) {sight : Sight Obj} {messages : List UInt16}
    (keyed : Keyed objects sight.currentView)
    (gone : ∀ o, Sees objects sight.currentView o →
      ¬ Sees objects (updateView objects scene sight).1.currentView o →
      messages.count (objects.extent o) = 1)
    (others : ∀ e ∈ messages, e ∈ (updateView objects scene sight).2) :
    Booked objects scene sight (updateView objects scene sight).1 messages := by
  have scanned := scanShapes_scanned scene keyed
  refine ⟨fun e o => ?_, gone, fun e mem => ?_, scanned.queued⟩
  · constructor
    · intro found
      have same := scanned.seen.extent e o found
      obtain ⟨queried, shown⟩ := (scanned.visible o).mp (scanned.seen.sees_of_find found)
      exact ⟨queried, shown, same⟩
    · rintro ⟨queried, shown, rfl⟩
      exact (scanned.visible o).mpr ⟨queried, shown⟩
  · obtain ⟨o, same, sees, out⟩ := (mem_messages scene keyed).mp (others e mem)
    exact ⟨o, same, sees, fun still => out ((scanned.visible o).mp still).1⟩

/-- The calls of `send_packet` are right exactly when no object of the view has gone behind a
wall within the rectangle. -/
theorem booked_iff (scene : Scene Obj) {sight : Sight Obj}
    (keyed : Keyed objects sight.currentView) :
    Booked objects scene sight (updateView objects scene sight).1
      (updateView objects scene sight).2 ↔ ¬ Hides objects scene sight := by
  have scanned := scanShapes_scanned scene keyed
  constructor
  · rintro booked ⟨o, sees, queried, hidden⟩
    have out : ¬ Sees objects (updateView objects scene sight).1.currentView o := by
      intro still
      rw [((scanned.visible o).mp still).2] at hidden
      cases hidden
    have once := booked.gone o sees out
    have mem : objects.extent o ∈ (updateView objects scene sight).2 :=
      List.count_pos_iff.mp (by omega)
    obtain ⟨p, same, _, left⟩ := (mem_messages scene keyed).mp mem
    cases objects.distinct same
    exact left queried
  · intro shown
    refine booked_of_messages scene keyed (fun o sees out => ?_) fun _ mem => mem
    refine List.count_eq_one_of_mem (messages_nodup scene keyed) ?_
    refine (mem_messages scene keyed).mpr ⟨o, rfl, sees, fun queried => ?_⟩
    by_cases wall : behindWall objects scene o = true
    · exact shown ⟨o, sees, queried, wall⟩
    · exact out ((scanned.visible o).mpr ⟨queried, Bool.eq_false_iff.mpr wall⟩)

/-- While the player is loading nothing passes, so nothing may leave the view. -/
theorem booked_passed_iff (scene : Scene Obj) {sight : Sight Obj}
    (keyed : Keyed objects sight.currentView) :
    Booked objects scene sight (updateView objects scene sight).1
        (passed scene (updateView objects scene sight).2) ↔
      ¬ Hides objects scene sight ∧
        (scene.playerLoading = true → ¬ Leaves objects scene sight) := by
  have scanned := scanShapes_scanned scene keyed
  unfold passed
  split
  · next loading =>
      constructor
      · intro booked
        have stays : ¬ Leaves objects scene sight := by
          rintro ⟨o, sees, out⟩
          have once := booked.gone o sees out
          cases once
        refine ⟨?_, fun _ => stays⟩
        rintro ⟨o, sees, _, hidden⟩
        refine stays ⟨o, sees, fun still => ?_⟩
        rw [((scanned.visible o).mp still).2] at hidden
        cases hidden
      · rintro ⟨_, stays⟩
        refine booked_of_messages scene keyed (fun o sees out => ?_) nofun
        exact absurd ⟨o, sees, out⟩ (stays loading)
  · next ready =>
      rw [booked_iff scene keyed]
      exact ⟨fun shown => ⟨shown, fun loading => absurd loading ready⟩, And.left⟩

/-- In every run, a call of `update_view` does right exactly when no object of the view has gone
behind a wall within the rectangle, and what passes to the client is right exactly when also
nothing leaves the view while the player is loading. -/
theorem view_booked_iff (objects : Objects Obj) (actions : List (SightAction Obj))
    (scene : Scene Obj) :
    let before := sightAfter objects actions
    let call := updateView objects scene before
    (Booked objects scene before call.1 call.2 ↔ ¬ Hides objects scene before) ∧
      (Booked objects scene before call.1 (passed scene call.2) ↔
        ¬ Hides objects scene before ∧
          (scene.playerLoading = true → ¬ Leaves objects scene before)) :=
  ⟨booked_iff scene (sightAfter_keyed actions), booked_passed_iff scene (sightAfter_keyed actions)⟩

/-! ### An object behind a wall -/

def oneObject : Objects Unit where
  extent _ := 5
  distinct _ := rfl
  isStatic _ := false
  obstacle _ := false

/-- The object in the rectangle, with a wall that may be before it. -/
def wallScene (before : Bool) : Scene Unit where
  shapes := [some (), none]
  testSegment _ _ := before
  isDirty _ := false
  playerLoading := false

/-- The object is seen, then it is behind the wall: it leaves the view without a message. -/
theorem view_not_booked : ¬ ∀ (actions : List (SightAction Unit)) (scene : Scene Unit),
    Booked oneObject scene (sightAfter oneObject actions)
      (updateView oneObject scene (sightAfter oneObject actions)).1
      (updateView oneObject scene (sightAfter oneObject actions)).2 := by
  intro all
  have booked := all [.call (wallScene false)] (wallScene true)
  have once := booked.gone () (by unfold Sees; decide) (by unfold Sees; decide)
  have none : (updateView oneObject (wallScene true)
      (sightAfter oneObject [.call (wallScene false)])).2 = [] := by decide
  rw [none] at once
  cases once

end Awesie

end NoxServer
