import NoxServer.Things.MList

/-!
`FASTLIST`, an `MLIST` with a second list of every thousandth node (`NoxThingClassDefs.h`).

`Get(number)` is meant to give what the list without the second one gives. Below 1000 it does not
look at the number and gives the node of the cursor. From there on it is right as long as the second
list is, which `Remove` does not keep in step: a run in which nothing is removed before an entry of
the second list keeps it right (`run_agrees_iff`).
-/

namespace NoxServer.Things

open LinkedList

variable {α : Type}

structure FastList (α : Type) where
  base : MList := {}
  nodes : Nodes α
  speedList : MList := {}
  speedNodes : Nodes Nat

def FastList.remove (f : FastList α) (number : Int) : Except Fault (FastList α) := do
  let (base, nodes) ← f.base.remove f.nodes number
  let f := { f with base, nodes }
  if f.base.numNodes.tdiv 1000 < f.speedList.numNodes then
    let (speedList, speedNodes) ← f.speedList.remove f.speedNodes f.speedList.numNodes
    return { f with speedList, speedNodes }
  else return f

def FastList.add (f : FastList α) (val : α) (ID : Int := 0) : Except Fault (FastList α) := do
  let (base, nodes) ← f.base.add f.nodes val ID
  let f := { f with base, nodes }
  if f.base.numNodes.tmod 1000 - 1 = 0 then
    match f.base.last with
    | none => throw .nullPointer
    | some last =>
        let (speedList, speedNodes) ← f.speedList.add f.speedNodes last
        return { f with speedList, speedNodes }
  else return f

/-- Where the walk of `Get(number)` starts, and how far it goes. -/
def FastList.walkStart (f : FastList α) (number : Int) : Except Fault (Option Nat × Int) :=
  if number > 1000 then do
    let (place, _) ← f.speedList.get f.speedNodes (number.tdiv 1000)
    match place with
    | none => throw .nullPointer
    | some place =>
        let entry ← deref (f.speedNodes.heap place)
        return (some entry.value.msg, number.tmod 1000)
  else .ok (f.base.first, number)

/-- `Get(number)`: the node whose `msg` is pointed to. -/
def FastList.get (f : FastList α) (number : Int := -1) :
    Except Fault (Option Nat × FastList α) :=
  if number = -1 ∨ number < 1000 then do
    let (found, base) ← f.base.get f.nodes
    return (found, { f with base })
  else do
    let (start, leftCount) ← f.walkStart number
    let (_, tem) ← deref (walk f.nodes.heap leftCount.toNat none start)
    return (tem, f)

/-! ### The second list -/

/-- How many entries the second list has for a number of nodes. -/
def speedCount (count : Nat) : Nat := (count + 999) / 1000

/-- The list has some nodes, with its cursor at the first one; `last` may point to a node that has
been deleted. Behind its first entry, the second list has every thousandth node. -/
structure InStep (f : FastList α) (nodes : List (Nat × Entry α)) (speeds : List (Nat × Entry Nat)) :
    Prop where
  threaded : Threaded f.base f.nodes nodes
  cur : f.base.cur = f.base.first
  last : f.base.last = lastOf nodes ∨
    ∃ a, f.base.last = some a ∧ a < f.nodes.fresh ∧ f.nodes.heap a = none
  second : Sound f.speedList f.speedNodes speeds
  count : speeds.length = speedCount nodes.length
  places : ∀ k, 0 < k → k < speeds.length →
    (speeds[k]?).map (fun speed => speed.2.msg) = (addresses nodes)[1000 * k]?

theorem inStep_empty (s : Nodes α) (t : Nodes Nat) :
    InStep { nodes := s, speedNodes := t } [] [] where
  threaded := ⟨rfl, rfl⟩
  cur := rfl
  last := .inl rfl
  second := ⟨⟨rfl, rfl⟩, rfl, nofun⟩
  count := by
    change 0 = speedCount 0
    decide
  places := nofun

variable {f : FastList α} {nodes : List (Nat × Entry α)} {speeds : List (Nat × Entry Nat)}

/-- The list without the second one gives the node at a place. -/
theorem InStep.base_get (inStep : InStep f nodes speeds) (i : Nat) :
    f.base.get f.nodes i = .ok ((addresses nodes)[i]?, f.base) :=
  get_at inStep.threaded.linked (by omega)

/-- Below 1000, the node of the cursor is given. -/
theorem InStep.get_low (inStep : InStep f nodes speeds) {i : Nat} (low : i < 1000) :
    ∃ f', f.get i = .ok ((addresses nodes)[0]?, f') := by
  have first : f.base.cur = (addresses nodes)[0]? :=
    inStep.cur.trans inStep.threaded.linked.start_eq
  have cursor := get_cursor [] nodes inStep.threaded.linked
    (first.trans (List.head?_eq_getElem? ..).symm)
  have below : (i : Int) = -1 ∨ (i : Int) < 1000 := by omega
  refine ⟨{ f with base := { f.base with
    cur := if nodes = [] then f.base.first else (addresses nodes)[1]? } }, ?_⟩
  rw [FastList.get, if_pos below, cursor, first]
  rfl

/-- From 1000 on, the walk goes from a node that is not behind the place. -/
theorem InStep.walkStart_run (inStep : InStep f nodes speeds) {i : Nat}
    (inside : i < nodes.length) : ∃ place left : Nat, place + left = i ∧
      f.walkStart i = .ok ((addresses nodes)[place]?, left) := by
  by_cases above : (i : Int) > 1000
  · have quotient : (i : Int).tdiv 1000 = (i / 1000 : Nat) := rfl
    have remainder : (i : Int).tmod 1000 = (i % 1000 : Nat) := rfl
    have entry : i / 1000 < speeds.length := by
      rw [inStep.count, speedCount]
      omega
    obtain ⟨next, there⟩ := inStep.second.linked.exists_next (List.getElem_mem entry)
    have skip : f.speedList.get f.speedNodes (i / 1000 : Nat) =
        .ok (some speeds[i / 1000].1, f.speedList) := by
      rw [get_at inStep.second.linked (by omega), Int.toNat_natCast, List.getElem?_map,
        List.getElem?_eq_getElem entry]
      rfl
    have place := inStep.places (i / 1000) (by omega) entry
    rw [List.getElem?_eq_getElem entry, Option.map_some] at place
    refine ⟨1000 * (i / 1000), i % 1000, Nat.div_add_mod i 1000, ?_⟩
    rw [FastList.walkStart, if_pos above, quotient, remainder, skip, ← place]
    simp only [ok_bind, there, deref]
    rfl
  · refine ⟨0, i, Nat.zero_add i, ?_⟩
    rw [FastList.walkStart, if_neg above, inStep.threaded.linked.start_eq]

theorem addresses_drop (nodes : List (Nat × Entry α)) (place : Nat) :
    addresses (nodes.drop place) = (addresses nodes).drop place :=
  List.map_drop

/-- From 1000 on, the node at the place is given. -/
theorem InStep.get_high (inStep : InStep f nodes speeds) {i : Nat} (inside : i < nodes.length)
    (high : 1000 ≤ i) : f.get i = .ok ((addresses nodes)[i]?, f) := by
  have not_low : ¬((i : Int) = -1 ∨ (i : Int) < 1000) := by omega
  obtain ⟨place, left, rfl, start⟩ := inStep.walkStart_run inside
  obtain ⟨before, walked⟩ := walk_linked (inStep.threaded.linked.drop place) left none
  rw [addresses_drop, List.getElem?_drop] at walked
  rw [FastList.get, if_neg not_low, start, ok_bind]
  change (do let (_, tem) ← deref (walk f.nodes.heap left none (addresses nodes)[place]?)
             return (tem, f)) = _
  rw [walked]
  rfl

/-- `Get(i)` gives what the list without the second one gives. -/
def AgreesAt (f : FastList α) (i : Int) : Prop :=
  ∃ found f' base', f.get i = .ok (found, f') ∧ f.base.get f.nodes i = .ok (found, base')

/-- While the second list is in step, `Get` is right for the first node and from 1000 on. -/
theorem InStep.agreesAt_iff (inStep : InStep f nodes speeds) {i : Nat}
    (inside : i < nodes.length) : AgreesAt f i ↔ i = 0 ∨ 1000 ≤ i := by
  have base := inStep.base_get i
  by_cases low : i < 1000
  · obtain ⟨f', run⟩ := inStep.get_low low
    constructor
    · rintro ⟨found, f'', base', run', base_run⟩
      have same := (Prod.mk.inj (Except.ok.inj (run.symm.trans run'))).1.trans
        (Prod.mk.inj (Except.ok.inj (base.symm.trans base_run))).1.symm
      have nodup := inStep.threaded.linked.nodup
      have first : 0 < (addresses nodes).length := by
        rw [List.length_map]
        omega
      exact .inl ((List.getElem?_inj first nodup).mp same).symm
    · intro which
      obtain rfl : i = 0 := by omega
      exact ⟨_, f', _, run, base⟩
  · exact iff_of_true ⟨_, f, _, inStep.get_high inside (Nat.le_of_not_lt low), base⟩
      (.inr (Nat.le_of_not_lt low))

/-! ### Changes -/

/-- The entries of the second list for the nodes before a place are those of the nodes that keep
their place. -/
theorem places_congr {nodes' : List (Nat × Entry α)} (count : Nat) (inStep : InStep f nodes speeds)
    (same : ∀ k, 0 < k → k < count → (addresses nodes')[1000 * k]? = (addresses nodes)[1000 * k]?)
    (within : speeds.length ≤ count) (k : Nat) (positive : 0 < k) (inside : k < speeds.length) :
    (speeds[k]?).map (fun speed => speed.2.msg) = (addresses nodes')[1000 * k]? :=
  (inStep.places k positive inside).trans
    (same k positive (Nat.lt_of_lt_of_le inside within)).symm

/-- The last node has not been deleted, or the list is empty. -/
def LastLive (f : FastList α) : Prop :=
  f.base.first = none ∨ ∃ a, f.base.last = some a ∧ (f.nodes.heap a).isSome

/-- What `MLIST::Add` does. -/
theorem InStep.base_add (inStep : InStep f nodes speeds) (live : LastLive f) (val : α) (ID : Int) :
    ∃ base' nodes', f.base.add f.nodes val ID = .ok (base', nodes') ∧
      Threaded base' nodes' (nodes ++ [(f.nodes.fresh, ⟨val, ID⟩)]) ∧
      base'.cur = base'.first ∧ base'.last = some f.nodes.fresh := by
  rcases List.eq_nil_or_concat nodes with rfl | ⟨nodes, node, rfl⟩
  · obtain ⟨base', run, sound, cur⟩ := add_first inStep.threaded val ID
    exact ⟨base', _, run, sound.toThreaded, cur, sound.last⟩
  · rw [List.concat_eq_append] at inStep ⊢
    have last : f.base.last = some node.1 := by
      rcases inStep.last with right | ⟨a, stale, -, gone⟩
      · exact right.trans (lastOf_concat _ _)
      · rcases live with empty | ⟨a', here, live⟩
        · have start := inStep.threaded.linked.start_eq
          rw [empty, addresses_append] at start
          have none := List.getElem?_eq_none_iff.mp start.symm
          simp at none
        · obtain rfl := Option.some.inj (stale.symm.trans here)
          rw [gone] at live
          cases live
    obtain ⟨run, threaded⟩ := add_behind inStep.threaded last val ID
    exact ⟨_, _, run, threaded, inStep.cur, rfl⟩

/-- `Add` keeps the second list in step. -/
theorem InStep.add (inStep : InStep f nodes speeds) (live : LastLive f) (val : α) (ID : Int) :
    ∃ f' speeds', f.add val ID = .ok f' ∧
      InStep f' (nodes ++ [(f.nodes.fresh, ⟨val, ID⟩)]) speeds' := by
  obtain ⟨base', nodes', run, threaded, cur, last⟩ := inStep.base_add live val ID
  have count := inStep.count
  have last_right : base'.last = lastOf (nodes ++ [(f.nodes.fresh, ⟨val, ID⟩)]) :=
    last.trans (lastOf_concat nodes (f.nodes.fresh, ⟨val, ID⟩)).symm
  have numNodes : base'.numNodes = (nodes.length + 1 : Nat) := by
    rw [threaded.numNodes, List.length_append]
    rfl
  have remainder : base'.numNodes.tmod 1000 = ((nodes.length + 1) % 1000 : Nat) := by
    rw [numNodes]
    rfl
  have kept : ∀ k, 0 < k → k < speedCount nodes.length →
      (addresses (nodes ++ [(f.nodes.fresh, ⟨val, ID⟩)]))[1000 * k]? =
        (addresses nodes)[1000 * k]? := by
    intro k _ inside
    rw [speedCount] at inside
    rw [addresses_append, List.getElem?_append_left (by rw [List.length_map]; omega)]
  rw [FastList.add, run, ok_bind]
  by_cases entry : base'.numNodes.tmod 1000 - 1 = 0
  · obtain ⟨speedList', speedNodes', speed_run, second, -⟩ := inStep.second.add f.nodes.fresh 0
    refine ⟨⟨base', nodes', speedList', speedNodes'⟩,
      speeds ++ [(f.speedNodes.fresh, ⟨f.nodes.fresh, 0⟩)], ?_, threaded, cur, .inl last_right,
      second, ?_, ?_⟩
    · simp only [entry, last, speed_run, if_true]
      rfl
    · simp only [List.length_append, List.length_cons, List.length_nil, speedCount] at count ⊢
      omega
    · intro k positive inside
      simp only [speedCount] at count
      rw [List.length_append, List.length_singleton] at inside
      by_cases old : k < speeds.length
      · rw [List.getElem?_append_left old]
        exact places_congr _ inStep kept (Nat.le_of_eq inStep.count) k positive old
      · -- The new entry is for the new node.
        obtain rfl : k = speeds.length := by omega
        have place : 1000 * speeds.length = (addresses nodes).length := by
          rw [List.length_map]
          omega
        rw [place, addresses_append]
        simp
  · refine ⟨{ f with base := base', nodes := nodes' }, speeds, ?_, threaded, cur,
      .inl last_right, inStep.second, ?_, ?_⟩
    · simp only [if_neg entry]
      rfl
    · simp only [List.length_append, List.length_cons, List.length_nil, speedCount] at count ⊢
      omega
    · exact places_congr _ inStep kept (Nat.le_of_eq inStep.count)

/-- `Add` to lists that are both right, in a store with other nodes. -/
theorem FastList.add_above {floor : Nodes α} (sound : Sound f.base f.nodes nodes)
    (above : Above floor f.nodes nodes) (second : Sound f.speedList f.speedNodes speeds) (val : α)
    (ID : Int) :
    ∃ f' speeds', f.add val ID = .ok f' ∧
      Sound f'.base f'.nodes (nodes ++ [(f.nodes.fresh, ⟨val, ID⟩)]) ∧
      Above floor f'.nodes (nodes ++ [(f.nodes.fresh, ⟨val, ID⟩)]) ∧
      Sound f'.speedList f'.speedNodes speeds' := by
  obtain ⟨base', nodes', run, sound', above'⟩ := sound.add_above above val ID
  have last : base'.last = some f.nodes.fresh :=
    sound'.last.trans (lastOf_concat nodes (f.nodes.fresh, ⟨val, ID⟩))
  rw [FastList.add, run, ok_bind]
  by_cases entry : base'.numNodes.tmod 1000 - 1 = 0
  · obtain ⟨speedList', speedNodes', speed_run, second', -⟩ := second.add f.nodes.fresh 0
    refine ⟨⟨base', nodes', speedList', speedNodes'⟩, _, ?_, sound', above', second'⟩
    simp only [entry, last, speed_run, if_true]
    rfl
  · refine ⟨{ f with base := base', nodes := nodes' }, speeds, ?_, sound', above', second⟩
    simp only [if_neg entry]
    rfl

/-- Removing an entry of the second list behind its end does nothing. -/
theorem InStep.remove_eq (inStep : InStep f nodes speeds) {number : Int} {base' : MList}
    {nodes' : Nodes α} (run : f.base.remove f.nodes number = .ok (base', nodes')) :
    f.remove number = .ok { f with base := base', nodes := nodes' } := by
  have nothing : f.speedList.remove f.speedNodes f.speedList.numNodes = _ :=
    remove_outside inStep.second.linked (.inr (Int.le_of_eq inStep.second.numNodes.symm))
  rw [FastList.remove, run, ok_bind]
  by_cases fewer : base'.numNodes.tdiv 1000 < f.speedList.numNodes
  · simp only [fewer, if_true, nothing]
    rfl
  · simp only [fewer, if_false]
    rfl

/-- What `MLIST::Remove` does to a list whose cursor is at its first node. -/
theorem InStep.base_remove {node : Nat × Entry α} {before behind : List (Nat × Entry α)}
    (inStep : InStep f (before ++ node :: behind) speeds) :
    ∃ base' nodes', f.base.remove f.nodes before.length = .ok (base', nodes') ∧
      Threaded base' nodes' (before ++ behind) ∧ base'.cur = base'.first ∧
      (base'.last = lastOf (before ++ behind) ∨
        ∃ a, base'.last = some a ∧ a < nodes'.fresh ∧ nodes'.heap a = none) := by
  have linked := inStep.threaded.linked
  obtain ⟨first, nodes', run, rest, fresh, gone, kept⟩ := remove_at inStep.threaded
  have mem : node.1 ∈ addresses (before ++ node :: behind) := by
    rw [addresses_append]
    exact List.mem_append_right _ List.mem_cons_self
  refine ⟨_, nodes', run, ⟨rest, ?_⟩, ?_, ?_⟩
  · have count := inStep.threaded.numNodes
    simp only [List.length_append, List.length_cons] at count ⊢
    omega
  · -- The cursor goes on with the first node, or stays at it.
    change (if f.base.cur = some node.1 then first else f.base.cur) = first
    split
    · rfl
    · next other =>
        rw [inStep.cur] at other ⊢
        cases before with
        | nil => exact absurd linked.1 other
        | cons head before => exact linked.1.trans rest.1.symm
  · change f.base.last = lastOf (before ++ behind) ∨
      ∃ a, f.base.last = some a ∧ a < nodes'.fresh ∧ nodes'.heap a = none
    rw [fresh]
    rcases inStep.last with right | ⟨a, stale, used, dead⟩
    · by_cases empty : behind = []
      · subst empty
        exact .inr ⟨node.1, right.trans (lastOf_concat before node),
          Store.lt_fresh linked mem, gone⟩
      · exact .inl (right.trans (lastOf_of_mem empty))
    · refine .inr ⟨a, stale, used, ?_⟩
      rw [kept a fun there => ?_, dead]
      have live := linked.isSome there
      rw [dead] at live
      cases live

/-- No entry of the second list that `Get` looks at is for the node that is removed, or for one
behind it, and a node is left. -/
def Spares (count number : Int) : Prop :=
  number < 0 ∨ count ≤ number ∨ (2 ≤ count ∧ count ≤ 1000) ∨ 1000 * ((count - 1) / 1000) < number

/-- Such a removal keeps the second list in step. -/
theorem InStep.remove (inStep : InStep f nodes speeds) {number : Int}
    (spares : Spares nodes.length number) :
    ∃ f' nodes', f.remove number = .ok f' ∧ InStep f' nodes' speeds := by
  by_cases outside : number < 0 ∨ (nodes.length : Int) ≤ number
  · have run := inStep.remove_eq (remove_outside inStep.threaded.linked outside)
    exact ⟨f, nodes, run, inStep⟩
  · obtain ⟨n, rfl⟩ : ∃ n : Nat, number = n := ⟨number.toNat, by omega⟩
    have inside : n < nodes.length := by omega
    obtain ⟨before, node, behind, rfl, rfl⟩ :
        ∃ before node behind, nodes = before ++ node :: behind ∧ before.length = n :=
      ⟨nodes.take n, nodes[n], nodes.drop (n + 1), by
        rw [List.getElem_cons_drop, List.take_append_drop], by
        rw [List.length_take]; omega⟩
    obtain ⟨base', nodes', run, threaded, cur, last⟩ := inStep.base_remove
    have count := inStep.count
    simp only [Spares, speedCount, List.length_append, List.length_cons] at spares outside count
    refine ⟨_, before ++ behind, inStep.remove_eq run, threaded, cur, last, inStep.second, ?_, ?_⟩
    · rw [speedCount, List.length_append]
      omega
    · refine places_congr speeds.length inStep (fun k positive inside => ?_) (Nat.le_refl _)
      have early : 1000 * k < (addresses before).length := by
        rw [List.length_map]
        omega
      rw [addresses_append, addresses_append, List.getElem?_append_left early,
        List.getElem?_append_left early]

/-! ### Runs -/

/-- The calls. -/
inductive FastOp (α : Type) where
  | add (val : α) (ID : Int)
  | remove (number : Int)

def FastOp.step (f : FastList α) (op : FastOp α) (f' : FastList α) : Prop :=
  match op with
  | .add val ID => f.add val ID = .ok f'
  | .remove number => f.remove number = .ok f'

/-- A call that keeps the second list in step. -/
def Careful (f : FastList α) : FastOp α → Prop
  | .add _ _ => LastLive f
  | .remove number => Spares f.base.numNodes number

/-- The second list is in step with the nodes there are. -/
def Stepping (f : FastList α) : Prop := ∃ nodes speeds, InStep f nodes speeds

theorem Stepping.step {op : FastOp α} {f' : FastList α} (stepping : Stepping f)
    (careful : Careful f op) (step : op.step f f') : Stepping f' := by
  obtain ⟨nodes, speeds, inStep⟩ := stepping
  cases op with
  | add val ID =>
      obtain ⟨next, speeds', run, inStep'⟩ := inStep.add careful val ID
      obtain rfl := Except.ok.inj (run.symm.trans step)
      exact ⟨_, speeds', inStep'⟩
  | remove number =>
      have spares : Spares nodes.length number := inStep.threaded.numNodes ▸ careful
      obtain ⟨next, nodes', run, inStep'⟩ := inStep.remove spares
      obtain rfl := Except.ok.inj (run.symm.trans step)
      exact ⟨nodes', speeds, inStep'⟩

/-- After calls that keep the second list in step, `Get(i)` is what the list without it gives
exactly for the first node and from 1000 on: below 1000 the number is not handed on, so every one of
them gives the node of the cursor. -/
theorem run_agrees_iff (s : Nodes α) (t : Nodes Nat) {ops : List (FastOp α)} {f : FastList α}
    (run : Runs.Run (Runs.guarded Careful fun f op => op.step f)
      { nodes := s, speedNodes := t } ops f) (i : Nat) (inside : i < f.base.numNodes) :
    AgreesAt f i ↔ i = 0 ∨ 1000 ≤ i := by
  have start : Stepping { nodes := s, speedNodes := t } := ⟨[], [], inStep_empty s t⟩
  have stepping : Stepping f :=
    run.invariant (fun _ _ _ stepping guarded => stepping.step guarded.1 guarded.2) start
  obtain ⟨nodes, speeds, inStep⟩ := stepping
  have count := inStep.threaded.numNodes
  exact inStep.agreesAt_iff (by omega)

/-- The calls that add two elements. -/
theorem run_agrees_two : ∃ f : FastList Nat, f.base.numNodes = 2 ∧
    (AgreesAt f (1 : Nat) ↔ (1 : Nat) = 0 ∨ 1000 ≤ (1 : Nat)) := by
  have run : Runs.Run (Runs.guarded Careful fun f op => FastOp.step f op)
      (⟨{}, Store.empty, {}, Store.empty⟩ : FastList Nat) [.add 7 0, .add 8 0] _ :=
    .cons ⟨Or.inl rfl, rfl⟩ (.cons ⟨Or.inr ⟨0, rfl, rfl⟩, rfl⟩ (.nil _))
  exact ⟨_, rfl, run_agrees_iff Store.empty Store.empty run 1 (by decide)⟩

/-- Of two elements, the second is not given. -/
theorem get_second : ∃ f : FastList Nat,
    Runs.Run (fun f op => FastOp.step f op) ⟨{}, Store.empty, {}, Store.empty⟩
      [.add 7 0, .add 8 0] f ∧ f.base.numNodes = 2 ∧ ¬AgreesAt f 1 := by
  refine ⟨_, .cons rfl (.cons rfl (.nil _)), rfl, ?_⟩
  rintro ⟨found, f', base', fast, base⟩
  have first := (Prod.mk.inj (Except.ok.inj fast)).1
  have second := (Prod.mk.inj (Except.ok.inj base)).1
  exact absurd (Option.some.inj (first.trans second.symm)) (by decide)

end NoxServer.Things
