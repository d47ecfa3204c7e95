import NoxServer.Library.LinkedList
import NoxServer.Library.Runs
import NoxServer.Shared.Errors

/-!
`MLIST`, the list of thing.bin (`NoxThingClassDefs.h`).

The list keeps its first and its last node, the node of its cursor and the number of its nodes.
`Refines` says that these are right for a sequence of elements. Two operations leave one of them as
it is that has to change: `Remove` does not change `last`, and `Clear` does not change `cur`. A run
in which that does no harm keeps all four right, and there is no other way they become wrong
(`run_refines`).
-/

namespace NoxServer.Things

open LinkedList

/-! ### The list -/

/-- What a `NODE` has besides `next`; its `prev` is always NULL. -/
structure Entry (α : Type) where
  msg : α
  ID : Int
  deriving DecidableEq, Repr

/-- The nodes of lists of one type. -/
abbrev Nodes (α : Type) := Store (Entry α)

/-- `MLIST<var>`, with its nodes by their addresses. -/
structure MList where
  first : Option Nat := none
  last : Option Nat := none
  cur : Option Nat := none
  numNodes : Int := 0
  deriving DecidableEq, Repr

/-- An access through a pointer to nodes. -/
def deref {β : Type} : Option β → Except Fault β
  | some x => .ok x
  | none => .error .danglingPointer

section Operations

variable {α : Type}

/-- `Remove(number)`. For a negative number the loop makes no turn, and `i` is 0. -/
def MList.remove (l : MList) (s : Nodes α) (number : Int) : Except Fault (MList × Nodes α) := do
  if number < 0 then return (l, s)
  let (temback, tem) ← deref (walk s.heap number.toNat none l.first)
  match tem with
  | none => return (l, s)
  | some tem =>
      let node ← deref (s.heap tem)
      let s := match temback with
        | some temback => s.setNext temback node.next
        | none => s
      let first := if l.first = some tem then node.next else l.first
      let cur := if l.cur = some tem then first else l.cur
      return ({ l with first, cur, numNodes := l.numNodes - 1 }, s.free tem)

def MList.add (l : MList) (s : Nodes α) (val : α) (ID : Int := 0) :
    Except Fault (MList × Nodes α) :=
  let node := some s.fresh
  match l.first with
  | none =>
      .ok ({ first := node, last := node, cur := node, numNodes := l.numNodes + 1 },
        s.alloc ⟨val, ID⟩)
  | some _ =>
      match l.last with
      | none => .error .nullPointer
      | some last => do
          let _ ← deref (s.heap last)
          return ({ l with last := node, numNodes := l.numNodes + 1 },
            (s.alloc ⟨val, ID⟩).setNext last node)

/-- `Get(number)`: the node whose `msg` is pointed to. The `msg` is what a node begins with, so
that of NULL is NULL. -/
def MList.get (l : MList) (s : Nodes α) (number : Int := -1) : Except Fault (Option Nat × MList) :=
  if number = -1 then
    match l.cur with
    | none => .ok (none, { l with cur := l.first })
    | some cur => do
        let node ← deref (s.heap cur)
        return (some cur, { l with cur := node.next })
  else do
    let (_, tem) ← deref (walk s.heap number.toNat none l.first)
    return (tem, l)

def MList.clearGet (l : MList) : MList := { l with cur := l.first }

/-- `Clear()`. There are no more nodes than addresses. -/
def MList.clear (l : MList) (s : Nodes α) : Except Fault (MList × Nodes α) := do
  let s ← deref (s.freeAll s.fresh l.first)
  return ({ l with first := none, last := none, numNodes := 0 }, s)

def MList.find (l : MList) (s : Nodes α) (ID : Int) : Except Fault (Option Nat) :=
  deref (search s.heap (fun entry => ID = entry.ID) s.fresh l.first)

/-! ### What the operations do -/

/-- The nodes of the list. -/
structure Threaded (l : MList) (s : Nodes α) (nodes : List (Nat × Entry α)) : Prop where
  linked : Linked s.heap l.first nodes none
  numNodes : l.numNodes = nodes.length

/-- A pointer to the last of some nodes. -/
def lastOf (nodes : List (Nat × Entry α)) : Option Nat := (addresses nodes).getLast?

/-- The list, with the pointers to its last node and to the one of its cursor right. -/
structure Sound (l : MList) (s : Nodes α) (nodes : List (Nat × Entry α)) : Prop
    extends Threaded l s nodes where
  last : l.last = lastOf nodes
  cur : ∀ a, l.cur = some a → a ∈ addresses nodes

variable {l : MList} {s : Nodes α} {nodes : List (Nat × Entry α)}

theorem lastOf_concat (nodes : List (Nat × Entry α)) (node : Nat × Entry α) :
    lastOf (nodes ++ [node]) = some node.1 := by
  rw [lastOf, addresses, List.map_append]
  exact List.getLast?_concat

/-- The first node goes where there are none. -/
theorem add_first (threaded : Threaded l s []) (val : α) (ID : Int) :
    ∃ l', l.add s val ID = .ok (l', s.alloc ⟨val, ID⟩) ∧
      Sound l' (s.alloc ⟨val, ID⟩) [(s.fresh, ⟨val, ID⟩)] ∧ l'.cur = l'.first := by
  have none : l.first = Option.none := threaded.linked
  have zero : l.numNodes = 0 := threaded.numNodes
  refine ⟨_, by rw [MList.add, none], ⟨⟨⟨rfl, Option.none, s.alloc_self _, rfl⟩, ?_⟩, rfl, ?_⟩, rfl⟩
  · rw [zero]
    rfl
  · rintro a ⟨⟩
    exact List.mem_cons_self

/-- The store with a node behind another one. -/
def addBehind (s : Nodes α) (last : Nat) (entry : Entry α) : Nodes α :=
  (s.alloc entry).setNext last (some s.fresh)

/-- A node goes behind the last one. -/
theorem add_behind {node : Nat × Entry α} (threaded : Threaded l s (nodes ++ [node]))
    (last : l.last = some node.1) (val : α) (ID : Int) :
    l.add s val ID =
      .ok ({ l with last := some s.fresh, numNodes := l.numNodes + 1 },
        addBehind s node.1 ⟨val, ID⟩) ∧
    Threaded { l with last := some s.fresh, numNodes := l.numNodes + 1 }
      (addBehind s node.1 ⟨val, ID⟩) (nodes ++ [node] ++ [(s.fresh, ⟨val, ID⟩)]) := by
  have linked := threaded.linked
  obtain ⟨middle, before, rfl, next, there, rfl⟩ := linked_append.mp linked
  have apart : s.fresh ∉ addresses (nodes ++ [node]) := fun mem =>
    Nat.lt_irrefl _ (Store.lt_fresh linked mem)
  have ne : node.1 ≠ s.fresh := by
    rintro same
    refine apart (same ▸ ?_)
    rw [addresses, List.map_append]
    exact List.mem_append_right _ List.mem_cons_self
  refine ⟨?_, ?_, ?_⟩
  · cases start : l.first with
    | none =>
        rw [start] at linked
        cases nodes with
        | nil => exact absurd rfl (linked_cons_none linked)
        | cons first nodes => exact absurd rfl (linked_cons_none linked)
    | some first => simp only [MList.add, start, last, there]; rfl
  · refine linked.concat (a := node.1) (x := node.2) ?_ ?_ (fun c ne_last ne_new => ?_) apart
    · exact Store.setNext_self ((Store.alloc_of_ne _ ne).trans there) _
    · rw [addBehind, Store.setNext_of_ne (Ne.symm ne), Store.alloc_self]
    · rw [addBehind, Store.setNext_of_ne ne_last, Store.alloc_of_ne _ ne_new]
  · have count := threaded.numNodes
    simp only [List.length_append, List.length_cons, List.length_nil] at count ⊢
    omega

theorem addresses_append (nodes nodes' : List (Nat × Entry α)) :
    addresses (nodes ++ nodes') = addresses nodes ++ addresses nodes' :=
  List.map_append

/-- A node is left out and deleted. -/
theorem remove_at {node : Nat × Entry α} {before behind : List (Nat × Entry α)}
    (threaded : Threaded l s (before ++ node :: behind)) :
    ∃ first s', l.remove s before.length = .ok ({ l with
        first, cur := if l.cur = some node.1 then first else l.cur,
        numNodes := l.numNodes - 1 }, s') ∧
      Linked s'.heap first (before ++ behind) none ∧ s'.fresh = s.fresh ∧
      s'.heap node.1 = none ∧
      ∀ a, a ∉ addresses (before ++ node :: behind) → s'.heap a = s.heap a := by
  have linked := threaded.linked
  have walked := walk_append none linked
  obtain ⟨middle, -, rfl, next, there, -⟩ := linked_append.mp linked
  have positive : ¬(before.length : Int) < 0 := by omega
  rcases List.eq_nil_or_concat before with rfl | ⟨before, back, rfl⟩
  · have start : l.first = some node.1 := linked.1
    refine ⟨next, s.free node.1, ?_, ?_, rfl, s.free_self _, fun a not_mem => ?_⟩
    · simp [MList.remove, start, walk, deref, there]
    · exact linked.behead there fun c ne => Store.free_of_ne ne
    · exact Store.free_of_ne fun same => not_mem (same ▸ List.mem_cons_self)
  · rw [List.concat_eq_append] at walked positive linked ⊢
    simp only [List.append_assoc, List.singleton_append] at linked ⊢
    have nodup := linked.nodup
    rw [addresses_append, List.nodup_append] at nodup
    obtain ⟨-, apart, separate⟩ := nodup
    have ne : back.1 ≠ node.1 := fun same =>
      (List.nodup_cons.mp apart).1 (same ▸ List.mem_cons_self)
    obtain ⟨_, -, -, next', there', -⟩ := linked_append.mp linked
    have start : l.first ≠ some node.1 := by
      intro start
      cases before with
      | nil => exact ne (Option.some.inj (linked.1.symm.trans start))
      | cons first before =>
          exact separate first.1 List.mem_cons_self node.1
            (List.mem_cons_of_mem _ List.mem_cons_self)
            (Option.some.inj (linked.1.symm.trans start))
    have unlinked : ((s.setNext back.1 next).free node.1).heap back.1 = some ⟨back.2, next⟩ :=
      (Store.free_of_ne ne).trans (Store.setNext_self there' next)
    refine ⟨l.first, (s.setNext back.1 next).free node.1, ?_, ?_, rfl, Store.free_self _ _, ?_⟩
    · have before_last : (addresses (before ++ [back])).getLast? = some back.1 :=
        lastOf_concat before back
      rw [MList.remove, if_neg positive, Int.toNat_natCast, walked, before_last]
      simp [deref, there, start]
    · exact linked.bypass there unlinked fun c ne_back ne_node =>
        (Store.free_of_ne ne_node).trans (Store.setNext_of_ne ne_back next)
    · intro a not_mem
      rw [addresses_append] at not_mem
      have ne_node : a ≠ node.1 := by
        rintro rfl
        exact not_mem (List.mem_append_right _ (List.mem_cons_of_mem _ List.mem_cons_self))
      have ne_back : a ≠ back.1 := by
        rintro rfl
        exact not_mem (List.mem_append_right _ List.mem_cons_self)
      exact (Store.free_of_ne ne_node).trans (Store.setNext_of_ne ne_back next)

/-- A node past the end, or before the start, is not removed. -/
theorem remove_outside (linked : Linked s.heap l.first nodes none) {number : Int}
    (outside : number < 0 ∨ nodes.length ≤ number) : l.remove s number = .ok (l, s) := by
  by_cases negative : number < 0
  · rw [MList.remove, if_pos negative]
    rfl
  · obtain ⟨before, run⟩ := walk_linked linked number.toNat none
    have past : (addresses nodes)[number.toNat]? = none :=
      List.getElem?_eq_none (by rw [List.length_map]; omega)
    rw [MList.remove, if_neg negative, run, past]
    rfl

/-- `Get(number)` gives the node at a place, and leaves the list as it is. -/
theorem get_at (linked : Linked s.heap l.first nodes none) {number : Int}
    (not_cursor : number ≠ -1) :
    l.get s number = .ok ((addresses nodes)[number.toNat]?, l) := by
  obtain ⟨before, run⟩ := walk_linked linked number.toNat none
  rw [MList.get, if_neg not_cursor, run]
  rfl

/-- `Get()` gives the node of the cursor and moves it on; after the end it goes to the start. -/
theorem get_cursor (before after : List (Nat × Entry α))
    (linked : Linked s.heap l.first (before ++ after) none)
    (cur : l.cur = (addresses after).head?) :
    l.get s = .ok (l.cur, { l with
      cur := if after = [] then l.first else (addresses after)[1]? }) := by
  cases after with
  | nil =>
      have cur : l.cur = none := cur
      simp [MList.get, cur]
  | cons node after =>
      obtain ⟨_, -, -, next, there, rest⟩ := linked_append.mp linked
      have cur : l.cur = some node.1 := cur
      have next_head : next = (addresses after)[0]? := by
        cases after with
        | nil => exact rest
        | cons node' after => exact rest.1
      simp only [MList.get, if_pos, cur, deref, there]
      rw [next_head]
      simp

/-- `Find` gives the first node with an ID. -/
theorem find_run (linked : Linked s.heap l.first nodes none) (ID : Int) :
    l.find s ID = .ok ((nodes.find? fun node => ID = node.2.ID).map Prod.fst) := by
  rw [MList.find, search_linked _ linked (Store.length_le_fresh linked)]
  rfl

/-- `Clear` deletes the nodes. -/
theorem clear_run (linked : Linked s.heap l.first nodes none) :
    ∃ s', l.clear s = .ok ({ l with first := none, last := none, numNodes := 0 }, s') ∧
      s'.fresh = s.fresh ∧ (∀ a ∈ addresses nodes, s'.heap a = none) ∧
        ∀ a, a ∉ addresses nodes → s'.heap a = s.heap a := by
  obtain ⟨s', run, rest⟩ := Store.freeAll_linked linked (Store.length_le_fresh linked)
  refine ⟨s', ?_, rest⟩
  rw [MList.clear, run]
  rfl

/-! ### The pointers after an operation -/

/-- A list is not concerned by what is done to other nodes. -/
theorem Sound.grows {s' : Nodes α} (sound : Sound l s nodes) (grows : s.Grows s') :
    Sound l s' nodes :=
  ⟨⟨grows.linked sound.linked, sound.numNodes⟩, sound.last, sound.cur⟩

theorem sound_empty (s : Nodes α) : Sound {} s [] := ⟨⟨rfl, rfl⟩, rfl, nofun⟩

/-- `Add` puts a new node behind the others, and changes no other one than the last. -/
theorem Sound.add (sound : Sound l s nodes) (val : α) (ID : Int) :
    ∃ l' s', l.add s val ID = .ok (l', s') ∧ Sound l' s' (nodes ++ [(s.fresh, ⟨val, ID⟩)]) ∧
      (l.cur = l.first → l'.cur = l'.first) ∧ s'.fresh = s.fresh + 1 ∧
      ∀ a, a ∉ addresses nodes → a ≠ s.fresh → s'.heap a = s.heap a := by
  rcases List.eq_nil_or_concat nodes with rfl | ⟨nodes, node, rfl⟩
  · obtain ⟨l', run, sound', cur⟩ := add_first sound.toThreaded val ID
    exact ⟨l', _, run, sound', fun _ => cur, rfl, fun a _ ne => Store.alloc_of_ne _ ne⟩
  · rw [List.concat_eq_append] at sound ⊢
    obtain ⟨run, threaded⟩ :=
      add_behind sound.toThreaded (sound.last.trans (lastOf_concat _ _)) val ID
    refine ⟨_, _, run, ⟨threaded, (lastOf_concat (nodes ++ [node]) (s.fresh, ⟨val, ID⟩)).symm,
      fun a cur => ?_⟩, fun start => start, rfl, fun a not_mem ne => ?_⟩
    · rw [addresses_append]
      exact List.mem_append_left _ (sound.cur a cur)
    · have other : a ≠ node.1 := by
        rintro rfl
        rw [addresses_append] at not_mem
        exact not_mem (List.mem_append_right _ List.mem_cons_self)
      exact (Store.setNext_of_ne other _).trans (Store.alloc_of_ne _ ne)

/-- What was in the store before the nodes of a list is as it was. -/
structure Above (floor s : Nodes α) (nodes : List (Nat × Entry α)) : Prop where
  grows : floor.Grows s
  above : ∀ a ∈ addresses nodes, floor.fresh ≤ a

theorem Sound.add_above {floor : Nodes α} (sound : Sound l s nodes) (above : Above floor s nodes)
    (val : α) (ID : Int) :
    ∃ l' s', l.add s val ID = .ok (l', s') ∧ Sound l' s' (nodes ++ [(s.fresh, ⟨val, ID⟩)]) ∧
      Above floor s' (nodes ++ [(s.fresh, ⟨val, ID⟩)]) := by
  obtain ⟨l', s', run, sound', -, fresh, kept⟩ := sound.add val ID
  have floor_le := above.grows.fresh
  refine ⟨l', s', run, sound', ⟨by omega, fun a old => ?_⟩, fun a mem => ?_⟩
  · have other : a ∉ addresses nodes := fun mem => Nat.not_le.mpr old (above.above a mem)
    rw [kept a other (by omega)]
    exact above.grows.kept a old
  · rw [addresses_append] at mem
    rcases List.mem_append.mp mem with earlier | new
    · exact above.above a earlier
    · rw [List.mem_singleton.mp new]
      exact floor_le

theorem lastOf_of_mem {node : Nat × Entry α} {before behind : List (Nat × Entry α)}
    (nonempty : behind ≠ []) : lastOf (before ++ node :: behind) = lastOf (before ++ behind) := by
  obtain ⟨behind, last, rfl⟩ := List.eq_nil_or_concat behind |>.resolve_left nonempty
  rw [List.concat_eq_append, ← List.cons_append, ← List.append_assoc, ← List.append_assoc,
    lastOf_concat, lastOf_concat]

/-- `last` is right after a removal exactly if another node is the last. -/
theorem Sound.remove_iff {node : Nat × Entry α} {before behind : List (Nat × Entry α)}
    (sound : Sound l s (before ++ node :: behind)) :
    ∃ l' s', l.remove s before.length = .ok (l', s') ∧ Threaded l' s' (before ++ behind) ∧
      (Sound l' s' (before ++ behind) ↔ behind ≠ []) := by
  obtain ⟨first, s', run, linked, -, gone, -⟩ := remove_at sound.toThreaded
  have threaded : Threaded { l with
      first, cur := if l.cur = some node.1 then first else l.cur,
      numNodes := l.numNodes - 1 } s' (before ++ behind) := by
    refine ⟨linked, ?_⟩
    have count := sound.numNodes
    simp only [List.length_append, List.length_cons] at count ⊢
    omega
  refine ⟨_, s', run, threaded, fun sound' empty => ?_, fun nonempty => ⟨threaded, ?_, ?_⟩⟩
  · -- `last` still points to the node, which is not there any more.
    subst empty
    have last : some node.1 = lastOf (before ++ []) :=
      (lastOf_concat before node).symm.trans (sound.last.symm.trans sound'.last)
    have there := linked.isSome (List.mem_of_getLast? last.symm)
    rw [gone] at there
    cases there
  · exact sound.last.trans (lastOf_of_mem nonempty)
  · intro a cur
    split at cur
    · exact linked.start_mem cur
    · next other =>
        have mem := sound.cur a cur
        rw [addresses_append] at mem ⊢
        rcases List.mem_append.mp mem with early | late
        · exact List.mem_append_left _ early
        · rcases List.mem_cons.mp late with rfl | late
          · exact absurd cur other
          · exact List.mem_append_right _ late

/-- `cur` is right after a `Clear` exactly if it was NULL. -/
theorem Sound.clear_iff (sound : Sound l s nodes) :
    ∃ l' s', l.clear s = .ok (l', s') ∧ (Sound l' s' [] ↔ l.cur = none) := by
  obtain ⟨s', run, -⟩ := clear_run sound.linked
  refine ⟨_, s', run, fun sound' => ?_, fun none => ⟨⟨rfl, rfl⟩, rfl, fun a cur => ?_⟩⟩
  · exact Option.eq_none_iff_forall_ne_some.mpr fun a cur => nomatch sound'.cur a cur
  · exact nomatch none.symm.trans cur

/-- `Get` finds something or nothing, moves the cursor only, and leaves the list sound. -/
theorem Sound.get (sound : Sound l s nodes) (number : Int) :
    ∃ found l', l.get s number = .ok (found, l') ∧ Sound l' s nodes := by
  by_cases cursor : number = -1
  · subst cursor
    have moved : ∀ before after, nodes = before ++ after → l.cur = (addresses after).head? →
        ∃ found l', l.get s = .ok (found, l') ∧ Sound l' s nodes := by
      rintro before after rfl cur
      refine ⟨_, _, get_cursor before after sound.linked cur,
        ⟨sound.linked, sound.numNodes⟩, sound.last, ?_⟩
      intro a next
      split at next
      · exact sound.linked.start_mem next
      · rw [addresses_append]
        exact List.mem_append_right _ (List.mem_of_getElem? next)
    cases cur : l.cur with
    | none => exact moved nodes [] (List.append_nil nodes).symm cur
    | some a =>
        obtain ⟨node, mem, rfl⟩ := List.mem_map.mp (sound.cur a cur)
        obtain ⟨before, after, rfl⟩ := List.append_of_mem mem
        exact moved before (node :: after) rfl cur
  · exact ⟨_, l, get_at sound.linked cursor, sound⟩

theorem Sound.clearGet (sound : Sound l s nodes) : Sound l.clearGet s nodes :=
  ⟨⟨sound.linked, sound.numNodes⟩, sound.last, fun _ first => sound.linked.start_mem first⟩

/-! ### Runs -/

/-- The operations. -/
inductive Op (α : Type) where
  | add (val : α) (ID : Int)
  | remove (number : Int)
  | clear
  | get (number : Int)
  | find (ID : Int)
  | clearGet

/-- What an operation does to the list and its nodes. -/
def Op.step (state : MList × Nodes α) (op : Op α) (state' : MList × Nodes α) : Prop :=
  match op with
  | .add val ID => state.1.add state.2 val ID = .ok state'
  | .remove number => state.1.remove state.2 number = .ok state'
  | .clear => state.1.clear state.2 = .ok state'
  | .get number => ∃ found l, state.1.get state.2 number = .ok (found, l) ∧ state' = (l, state.2)
  | .find ID => ∃ found, state.1.find state.2 ID = .ok found ∧ state' = state
  | .clearGet => state' = (state.1.clearGet, state.2)

/-- What an operation does to a sequence. -/
def Op.onSequence (entries : List (Entry α)) : Op α → List (Entry α)
  | .add val ID => entries ++ [⟨val, ID⟩]
  | .remove number => if number < 0 then entries else entries.eraseIdx number.toNat
  | .clear => []
  | .get _ | .find _ | .clearGet => entries

/-- The list has the elements of a sequence, and its fields are right. -/
def Refines (entries : List (Entry α)) (state : MList × Nodes α) : Prop :=
  ∃ nodes, Sound state.1 state.2 nodes ∧ nodes.map Prod.snd = entries

/-- The operation does not remove the last element, and it does not clear the list while the cursor
is at an element. -/
def Harmless (state : MList × Nodes α) : Op α → Prop
  | .remove number => number < 0 ∨ number + 1 ≠ state.1.numNodes
  | .clear => state.1.cur = none
  | _ => True

variable {state : MList × Nodes α} {entries : List (Entry α)}

theorem refines_empty (s : Nodes α) : Refines [] (({} : MList), s) :=
  ⟨[], sound_empty s, rfl⟩

/-- Whether an operation keeps the list right. -/
def Keeps (entries : List (Entry α)) (state : MList × Nodes α) (op : Op α) : Prop :=
  ∃ state', op.step state state' ∧ Refines (op.onSequence entries) state'

/-- The nodes that an outcome has are those it is right for. -/
theorem refines_iff_sound {nodes : List (Nat × Entry α)}
    (linked : Linked state.2.heap state.1.first nodes none) :
    Refines (nodes.map Prod.snd) state ↔ Sound state.1 state.2 nodes := by
  constructor
  · rintro ⟨nodes', sound, -⟩
    obtain rfl := sound.linked.unique linked
    exact sound
  · intro sound
    exact ⟨nodes, sound, rfl⟩

/-- A removal keeps the list in step with the sequence just when it is not of the last element,
after which `last` would point to a node that is gone. -/
theorem remove_keeps_iff (refines : Refines entries state) (number : Int) :
    Keeps entries state (.remove number) ↔ Harmless state (.remove number) := by
  obtain ⟨nodes, sound, rfl⟩ := refines
  have count := sound.numNodes
  by_cases outside : number < 0 ∨ (nodes.length : Int) ≤ number
  · have unchanged : (Op.remove number).onSequence (nodes.map Prod.snd) = nodes.map Prod.snd := by
      simp only [Op.onSequence]
      split
      · rfl
      · exact List.eraseIdx_of_length_le (by rw [List.length_map]; omega)
    refine ⟨fun _ => ?_, fun _ => ⟨state, remove_outside sound.linked outside, ?_⟩⟩
    · simp only [Harmless]
      omega
    · rw [unchanged]
      exact ⟨nodes, sound, rfl⟩
  · obtain ⟨n, rfl⟩ : ∃ n : Nat, number = n := ⟨number.toNat, by omega⟩
    have inside : n < nodes.length := by omega
    obtain ⟨before, node, behind, rfl, rfl⟩ :
        ∃ before node behind, nodes = before ++ node :: behind ∧ before.length = n :=
      ⟨nodes.take n, nodes[n], nodes.drop (n + 1), by
        rw [List.getElem_cons_drop, List.take_append_drop], by
        rw [List.length_take]; omega⟩
    obtain ⟨l', s', run, threaded, sound_iff⟩ := sound.remove_iff
    have sequence : (Op.remove (before.length : Int)).onSequence
        ((before ++ node :: behind).map Prod.snd) = (before ++ behind).map Prod.snd := by
      have nonneg : ¬(before.length : Int) < 0 := by omega
      simp only [Op.onSequence, if_neg nonneg, Int.toNat_natCast]
      rw [List.eraseIdx_map, List.eraseIdx_append_of_length_le (Nat.le_refl _), Nat.sub_self]
      rfl
    have keeps : Keeps ((before ++ node :: behind).map Prod.snd) state (.remove before.length) ↔
        Refines ((before ++ behind).map Prod.snd) (l', s') := by
      unfold Keeps
      rw [sequence]
      constructor
      · rintro ⟨state', step, refines⟩
        obtain rfl := Except.ok.inj (run.symm.trans step)
        exact refines
      · intro refines
        exact ⟨_, run, refines⟩
    have last : behind ≠ [] ↔ Harmless state (.remove before.length) := by
      rw [← List.length_pos_iff]
      simp only [Harmless, count, List.length_append, List.length_cons]
      omega
    rw [keeps, refines_iff_sound threaded.linked, sound_iff, last]

theorem clear_keeps_iff (refines : Refines entries state) :
    Keeps entries state .clear ↔ Harmless state .clear := by
  obtain ⟨nodes, sound, rfl⟩ := refines
  obtain ⟨l', s', run, sound_iff⟩ := sound.clear_iff
  rw [Harmless, ← sound_iff]
  constructor
  · rintro ⟨state', step, nodes', sound', empty⟩
    obtain rfl := Except.ok.inj (run.symm.trans step)
    obtain rfl := List.map_eq_nil_iff.mp empty
    exact sound'
  · intro sound'
    exact ⟨_, run, [], sound', rfl⟩

/-- An operation keeps the list right exactly if it is harmless. -/
theorem keeps_iff (refines : Refines entries state) (op : Op α) :
    Keeps entries state op ↔ Harmless state op := by
  cases op with
  | remove number => exact remove_keeps_iff refines number
  | clear => exact clear_keeps_iff refines
  | add val ID =>
      obtain ⟨nodes, sound, rfl⟩ := refines
      obtain ⟨l', s', run, sound', -⟩ := sound.add val ID
      exact iff_of_true ⟨_, run, _, sound', by simp [Op.onSequence]⟩ trivial
  | get number =>
      obtain ⟨nodes, sound, rfl⟩ := refines
      obtain ⟨found, l', run, sound'⟩ := sound.get number
      exact iff_of_true ⟨_, ⟨found, l', run, rfl⟩, nodes, sound', rfl⟩ trivial
  | find ID =>
      obtain ⟨nodes, sound, rfl⟩ := refines
      exact iff_of_true ⟨_, ⟨_, find_run sound.linked ID, rfl⟩, nodes, sound, rfl⟩ trivial
  | clearGet =>
      obtain ⟨nodes, sound, rfl⟩ := refines
      exact iff_of_true ⟨_, rfl, nodes, sound.clearGet, rfl⟩ trivial

theorem step_unique {op : Op α} {state' state'' : MList × Nodes α} (step : op.step state state')
    (step' : op.step state state'') : state' = state'' := by
  cases op with
  | add val ID => exact Except.ok.inj (step.symm.trans step')
  | remove number => exact Except.ok.inj (step.symm.trans step')
  | clear => exact Except.ok.inj (step.symm.trans step')
  | get number =>
      obtain ⟨found, l, run, rfl⟩ := step
      obtain ⟨found', l', run', rfl⟩ := step'
      obtain ⟨-, rfl⟩ := Prod.mk.inj (Except.ok.inj (run.symm.trans run'))
      rfl
  | find ID => exact step.choose_spec.2.trans step'.choose_spec.2.symm
  | clearGet => exact step.trans step'.symm

theorem run_keeps {ops : List (Op α)} {state' : MList × Nodes α}
    (run : Runs.Run (Runs.guarded Harmless fun state op => op.step state) state ops state')
    (refines : Refines entries state) : Refines (ops.foldl Op.onSequence entries) state' := by
  induction run generalizing entries with
  | nil state => exact refines
  | cons first _ ih =>
      obtain ⟨harmless, step⟩ := first
      obtain ⟨next, step', refines'⟩ := (keeps_iff refines _).mpr harmless
      rw [step_unique step step'] at ih
      exact ih refines'

/-- In each state that harmless operations lead to, the list has the elements of the sequence and
its fields are right; the next operation keeps it so exactly if it is harmless, which all are but
the removal of the last element and a `Clear` in the middle of an iteration. -/
theorem run_refines (s : Nodes α) {ops : List (Op α)} {state' : MList × Nodes α}
    (run : Runs.Run (Runs.guarded Harmless fun state op => op.step state) ({}, s) ops state') :
    Refines (ops.foldl Op.onSequence []) state' ∧
      ∀ op, Keeps (ops.foldl Op.onSequence []) state' op ↔ Harmless state' op :=
  ⟨run_keeps run (refines_empty s), keeps_iff (run_keeps run (refines_empty s))⟩

end Operations

/-- The first of two elements is removed. -/
theorem run_refines_two : ∃ state' : MList × Nodes Nat,
    Refines ([.add 7 0, .add 8 0, .remove 0].foldl Op.onSequence []) state' ∧
      ∀ op, Keeps ([.add 7 0, .add 8 0, .remove 0].foldl Op.onSequence []) state' op ↔
        Harmless state' op :=
  ⟨_, run_refines Store.empty (.cons ⟨trivial, rfl⟩ (.cons ⟨trivial, rfl⟩
    (.cons ⟨.inr (by decide), rfl⟩ (.nil _))))⟩

/-- After the only element is removed, `last` still points to it. -/
theorem remove_only : ∃ state' : MList × Nodes Nat,
    Runs.Run (fun state op => Op.step state op) ({}, Store.empty) [.add 7 0, .remove 0] state' ∧
      state'.1.first = none ∧ state'.1.last = some 0 ∧ state'.2.heap 0 = none ∧
      ¬Refines ([.add 7 0, .remove 0].foldl Op.onSequence []) state' := by
  refine ⟨_, .cons rfl (.cons rfl (.nil _)), rfl, rfl, rfl, ?_⟩
  rintro ⟨nodes, sound, empty⟩
  obtain rfl := List.map_eq_nil_iff.mp empty
  exact nomatch sound.last

end NoxServer.Things
