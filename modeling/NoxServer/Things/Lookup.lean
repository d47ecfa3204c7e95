import NoxServer.Objects.ThingBin
import NoxServer.Things.MList

/-!
The objects of thing.bin by their names (`GNHTSTRUCT`, `NoxThinglib.h`).

`GetIndex` counts the nodes that the cursor passes in an `unsigned short`, and
`Objects.Get(number)` counts them from the first. The two agree on the first object with a name, as
far as the count does not wrap (`getIndex_agrees`).
-/

namespace NoxServer.Things

open LinkedList Objects

/-! ### Lookups -/

/-- The loops of `GetIndex` and `GetObject(name)`: the node of the first object with a name from the
cursor on, and the count. A turn moves the cursor on, so there are no more turns than nodes, and
one. -/
def findName (s : Nodes GNHT) (name : List UInt8) (maxlen : Nat) :
    Nat → MList → UInt16 → Except Fault (Option (Nat × UInt16) × MList)
  | 0, l, _ => .ok (none, l)
  | turns + 1, l, id => do
      match ← l.get s with
      | (none, l) => return (none, l.clearGet)
      | (some obj, l) =>
          let node ← deref (s.heap obj)
          let id := id + 1
          if ThingList.sameName node.value.msg.name name maxlen then
            return (some (obj, id), l.clearGet)
          else findName s name maxlen turns l id

/-- `50 > max ? 50 : max`. -/
def maxLength (max : Int) : Nat := (if 50 > max then 50 else max).toNat

def getIndex (l : MList) (s : Nodes GNHT) (name : List UInt8) (max : Int := 0x50) :
    Except Fault (UInt16 × MList) := do
  let (found, l) ← findName s name (maxLength max) (s.fresh + 1) l 0
  match found with
  | some (_, id) => return (id, l)
  | none => return (0, l)

def getObject (l : MList) (s : Nodes GNHT) (name : List UInt8) (max : Int := 50) :
    Except Fault (Option Nat × MList) := do
  let (found, l) ← findName s name (maxLength max) (s.fresh + 1) l 0
  return (found.map Prod.fst, l)

/-- `GetObject(i)`. -/
def getObjectAt (l : MList) (s : Nodes GNHT) (i : UInt16) : Except Fault (Option Nat × MList) :=
  l.get s i.toNat

/-- `Object::GetObjectInfo()` of an object of a type. -/
def getObjectInfo (l : MList) (s : Nodes GNHT) (type : UInt16) :
    Except Fault (Option Nat × MList) :=
  l.get s ((type.toNat : Int) - 1)

/-! ### The first object with a name -/

/-- The place of the first object with a name. -/
def placeOf (name : List UInt8) (objects : List GNHT) : Option Nat :=
  objects.findIdx? fun info => info.name = name.takeWhile fun c => c ≠ 0

theorem placeOf_cons (name : List UInt8) (info : GNHT) (objects : List GNHT) :
    placeOf name (info :: objects) =
      if info.name = name.takeWhile fun c => c ≠ 0 then some 0
      else (placeOf name objects).map fun place => place + 1 := by
  rw [placeOf, List.findIdx?_cons]
  simp only [decide_eq_true_eq]
  rfl

theorem maxLength_ge (max : Int) : 50 ≤ maxLength max := by
  unfold maxLength
  split <;> omega

/-- A name that is shorter than what is compared is the same only if all of it is. -/
theorem sameName_iff {a : List UInt8} {maxlen : Nat} (short : a.length < maxlen)
    (name : List UInt8) :
    ThingList.sameName a name maxlen = decide (a = name.takeWhile fun c => c ≠ 0) := by
  rw [ThingList.sameName, List.take_of_length_le (Nat.le_of_lt short), Bool.beq_eq_decide_eq]
  refine decide_eq_decide.mpr ⟨fun same => ?_, fun same => ?_⟩
  · have lengths := congrArg List.length same
    rw [List.length_take] at lengths
    rw [same, List.take_of_length_le (by omega)]
  · rw [← same, List.take_of_length_le (Nat.le_of_lt short)]

theorem count_succ (id : UInt16) (place : Nat) :
    id + 1 + UInt16.ofNat (place + 1) = id + UInt16.ofNat (place + 1 + 1) := by
  rw [UInt16.ofNat_add (place + 1) 1, UInt16.add_assoc, UInt16.add_comm (UInt16.ofNat (place + 1))]
  rfl

variable {l : MList} {s : Nodes GNHT} {nodes : List (Nat × Entry GNHT)}

/-- The objects of nodes. -/
abbrev infos (nodes : List (Nat × Entry GNHT)) : List GNHT := nodes.map fun node => node.2.msg

/-- The loop finds the first object with the name behind the cursor, and goes to the start. -/
theorem findName_run (name : List UInt8) {maxlen : Nat} {before after : List (Nat × Entry GNHT)}
    (linked : Linked s.heap l.first (before ++ after) none) (cur : l.cur = (addresses after)[0]?)
    (short : ∀ info ∈ infos after, info.name.length < maxlen) {turns : Nat}
    (enough : after.length < turns) (id : UInt16) :
    findName s name maxlen turns l id = .ok
      ((placeOf name (infos after)).bind fun place =>
        (addresses after)[place]?.map fun obj => (obj, id + UInt16.ofNat (place + 1)),
      l.clearGet) := by
  induction after generalizing before l turns id with
  | nil =>
      obtain ⟨turns, rfl⟩ : ∃ rest, turns = rest + 1 := ⟨turns - 1, by omega⟩
      have got := get_cursor before [] linked cur
      have none : l.cur = none := cur
      rw [findName, got, none]
      rfl
  | cons node after ih =>
      obtain ⟨turns, rfl⟩ : ∃ rest, turns = rest + 1 := ⟨turns - 1, by omega⟩
      have got := get_cursor before (node :: after) linked
        (cur.trans (List.head?_eq_getElem? ..).symm)
      obtain ⟨next, there⟩ := linked.exists_next (List.mem_append_right before List.mem_cons_self)
      have cur : l.cur = some node.1 := cur
      rw [if_neg (List.cons_ne_nil _ _), cur] at got
      have first := sameName_iff (short _ List.mem_cons_self) name
      simp only [findName, got, ok_bind, there, deref, first, decide_eq_true_eq]
      have infos_cons : infos (node :: after) = node.2.msg :: infos after := rfl
      rw [infos_cons, placeOf_cons]
      by_cases found : node.2.msg.name = name.takeWhile fun c => c ≠ 0
      · rw [if_pos found, if_pos found]
        rfl
      · rw [if_neg found, if_neg found]
        have rest : Linked s.heap l.first ((before ++ [node]) ++ after) none := by
          rw [List.append_assoc]
          exact linked
        have next_cur : (addresses (node :: after))[1]? = (addresses after)[0]? := rfl
        have run := ih (l := { l with cur := (addresses after)[0]? }) rest rfl
          (fun info mem => short info (List.mem_cons_of_mem _ mem))
          (Nat.lt_of_succ_lt_succ enough) (id + 1)
        rw [next_cur, run]
        cases placeOf name (infos after) with
        | none => rfl
        | some place =>
            simp only [Option.bind_some, Option.map_some, count_succ]
            rfl

/-! ### Calls -/

/-- The objects are added one after the other. -/
def load (objects : List GNHT) (state : MList × Nodes GNHT) : Except Fault (MList × Nodes GNHT) :=
  objects.foldlM (fun state info => state.1.add state.2 info) state

/-- The list has some objects, and its cursor is at the first one. -/
structure Loaded (objects : List GNHT) (l : MList) (s : Nodes GNHT) : Prop where
  nodes : ∃ nodes, Sound l s nodes ∧ infos nodes = objects
  cur : l.cur = l.first

theorem load_run {objects : List GNHT} (loaded : Loaded objects l s) (more : List GNHT) :
    ∃ l' s', load more (l, s) = .ok (l', s') ∧ Loaded (objects ++ more) l' s' := by
  induction more generalizing objects l s with
  | nil => exact ⟨l, s, rfl, by rwa [List.append_nil]⟩
  | cons info more ih =>
      obtain ⟨⟨nodes, sound, rfl⟩, cur⟩ := loaded
      obtain ⟨l', s', run, sound', cur', -⟩ := sound.add info 0
      have loaded' : Loaded (infos nodes ++ [info]) l' s' :=
        ⟨⟨_, sound', by rw [infos, List.map_append]; rfl⟩, cur' cur⟩
      obtain ⟨l'', s'', rest, loaded''⟩ := ih loaded'
      rw [List.append_assoc] at loaded''
      refine ⟨l'', s'', ?_, loaded''⟩
      rw [load, List.foldlM_cons, run]
      exact rest

theorem loaded_empty (s : Nodes GNHT) : Loaded [] ({} : MList) s :=
  ⟨⟨[], ⟨⟨rfl, rfl⟩, rfl, nofun⟩, rfl⟩, rfl⟩

variable {objects : List GNHT}

/-- The search from the first node. -/
theorem Loaded.find (loaded : Loaded objects l s)
    (short : ∀ info ∈ objects, info.name.length < 50) (name : List UInt8) (max : Int) :
    ∃ nodes, Sound l s nodes ∧ infos nodes = objects ∧
      findName s name (maxLength max) (s.fresh + 1) l 0 = .ok
        ((placeOf name objects).bind fun place =>
          (addresses nodes)[place]?.map fun obj => (obj, UInt16.ofNat (place + 1)), l) := by
  obtain ⟨⟨nodes, sound, rfl⟩, cur⟩ := loaded
  refine ⟨nodes, sound, rfl, ?_⟩
  have linked : Linked s.heap l.first ([] ++ nodes) none := sound.linked
  have run := findName_run name linked (cur.trans sound.linked.start_eq)
    (fun info mem => Nat.lt_of_lt_of_le (short info mem) (maxLength_ge max))
    (Nat.lt_succ_of_le (Store.length_le_fresh sound.linked)) 0
  have at_start : l.clearGet = l := by
    cases l
    exact congrArg (fun cur => MList.mk _ _ cur _) cur.symm
  rw [at_start] at run
  simpa using run

/-- The index of the first object with a name: its place from one on, as 16 bits. -/
def indexOf (name : List UInt8) (objects : List GNHT) : UInt16 :=
  (placeOf name objects).elim 0 fun place => UInt16.ofNat (place + 1)

theorem placeOf_some {name : List UInt8} {place : Nat} (found : placeOf name objects = some place) :
    place < objects.length :=
  (List.findIdx?_eq_some_iff_findIdx_eq.mp found).1

theorem place_lt {name : List UInt8} {place : Nat} (same : infos nodes = objects)
    (found : placeOf name objects = some place) : place < nodes.length := by
  have length : (infos nodes).length = nodes.length := List.length_map _
  rw [← length, same]
  exact placeOf_some found

theorem Loaded.getIndex_run (loaded : Loaded objects l s)
    (short : ∀ info ∈ objects, info.name.length < 50) (name : List UInt8) (max : Int) :
    getIndex l s name max = .ok (indexOf name objects, l) := by
  obtain ⟨nodes, sound, same, run⟩ := loaded.find short name max
  rw [getIndex, run, indexOf]
  cases found : placeOf name objects with
  | none => rfl
  | some place =>
      have inside : place < (addresses nodes).length := by
        rw [List.length_map]
        exact place_lt same found
      rw [Option.bind_some, List.getElem?_eq_getElem inside]
      rfl

theorem Loaded.getObject_run (loaded : Loaded objects l s)
    (short : ∀ info ∈ objects, info.name.length < 50) (name : List UInt8) (max : Int) :
    ∃ nodes, Sound l s nodes ∧ infos nodes = objects ∧
      getObject l s name max =
        .ok ((placeOf name objects).bind fun place => (addresses nodes)[place]?, l) := by
  obtain ⟨nodes, sound, same, run⟩ := loaded.find short name max
  refine ⟨nodes, sound, same, ?_⟩
  rw [getObject, run]
  refine congrArg (fun found => Except.ok (found, l)) ?_
  cases placeOf name objects with
  | none => rfl
  | some place =>
      rw [Option.bind_some, Option.bind_some, Option.map_map]
      exact Option.map_id'

theorem findIndex_eq (name : List UInt8) {maxlen : Nat}
    (short : ∀ info ∈ objects, info.name.length < maxlen) (id : UInt16) :
    ThingList.findIndex name maxlen id objects =
      (placeOf name objects).elim 0 fun place => id + UInt16.ofNat (place + 1) := by
  induction objects generalizing id with
  | nil => rfl
  | cons info objects ih =>
      have rest := ih (fun info mem => short info (List.mem_cons_of_mem _ mem)) (id + 1)
      rw [ThingList.findIndex, sameName_iff (short info List.mem_cons_self), placeOf_cons, rest]
      by_cases found : info.name = name.takeWhile fun c => c ≠ 0
      · rw [if_pos (decide_eq_true found), if_pos found]
        rfl
      · rw [if_neg (by simpa using found), if_neg found]
        cases placeOf name objects with
        | none => rfl
        | some place => exact count_succ id place

/-- The loading of a map looks its objects up as here. -/
theorem Loaded.getIndex_thingList (loaded : Loaded objects l s)
    (short : ∀ info ∈ objects, info.name.length < 50) (name : List UInt8) :
    getIndex l s name name.length = .ok ((ThingList.getIndex ⟨objects, 0⟩ name).1, l) := by
  have longer : ∀ info ∈ objects, info.name.length < Nat.max 50 name.length :=
    fun info mem => Nat.lt_of_lt_of_le (short info mem) (Nat.le_max_left _ _)
  have start : objects.drop 0 = objects := rfl
  rw [loaded.getIndex_run short, ThingList.getIndex, start, findIndex_eq name longer, indexOf]
  cases placeOf name objects with
  | none => rfl
  | some place => rw [Option.elim_some, Option.elim_some, UInt16.zero_add]

/-- The lookups. -/
inductive Call where
  | getIndex (name : List UInt8) (max : Int)
  | getObject (name : List UInt8) (max : Int)
  | getObjectAt (i : UInt16)

/-- What a lookup does to the list. -/
def Call.step (s : Nodes GNHT) (l : MList) (call : Call) (l' : MList) : Prop :=
  match call with
  | .getIndex name max => ∃ id, Things.getIndex l s name max = .ok (id, l')
  | .getObject name max => ∃ found, Things.getObject l s name max = .ok (found, l')
  | .getObjectAt i => ∃ found, Things.getObjectAt l s i = .ok (found, l')

/-- A lookup leaves the list as it was. -/
theorem Loaded.step (loaded : Loaded objects l s)
    (short : ∀ info ∈ objects, info.name.length < 50) {call : Call} {l' : MList}
    (step : call.step s l l') : Loaded objects l' s := by
  have unchanged : l' = l := by
    cases call with
    | getIndex name max =>
        obtain ⟨id, run⟩ := step
        rw [loaded.getIndex_run short] at run
        exact (Prod.mk.inj (Except.ok.inj run)).2.symm
    | getObject name max =>
        obtain ⟨found, run⟩ := step
        obtain ⟨nodes, -, -, run'⟩ := loaded.getObject_run short name max
        rw [run'] at run
        exact (Prod.mk.inj (Except.ok.inj run)).2.symm
    | getObjectAt i =>
        obtain ⟨found, run⟩ := step
        obtain ⟨nodes, sound, -⟩ := loaded.nodes
        rw [getObjectAt, get_at sound.linked (by omega)] at run
        exact (Prod.mk.inj (Except.ok.inj run)).2.symm
  rw [unchanged]
  exact loaded

/-- After any lookups, `GetIndex` gives the place of the first object with the name, as 16 bits, and
leaves the cursor at the first object. Up to 65535 objects, the object that the index leads to is
the one that is found by its name. -/
theorem getIndex_agrees {start : Nodes GNHT} {l₀ : MList}
    (short : ∀ info ∈ objects, info.name.length < 50)
    (loading : load objects ({}, start) = .ok (l₀, s)) {calls : List Call}
    (run : Runs.Run (fun l call => Call.step s l call) l₀ calls l) (name : List UInt8) (max : Int) :
    ∃ l', getIndex l s name max = .ok (indexOf name objects, l') ∧ l'.cur = l'.first ∧
      ∀ place, placeOf name objects = some place → place + 1 < 0x10000 →
        ∃ obj node, getObject l s name max = .ok (some obj, l') ∧
          getObjectInfo l' s (indexOf name objects) = .ok (some obj, l') ∧
          s.heap obj = some node ∧ objects[place]? = some node.value.msg := by
  obtain ⟨l₁, s₁, loading', first⟩ := load_run (loaded_empty start) objects
  obtain ⟨rfl, rfl⟩ := Prod.mk.inj (Except.ok.inj (loading'.symm.trans loading))
  have steps : ∀ l call l', Loaded objects l s₁ → Call.step s₁ l call l' → Loaded objects l' s₁ :=
    fun _ _ _ loaded step => loaded.step short step
  have loaded : Loaded objects l s₁ := run.invariant steps first
  refine ⟨l, loaded.getIndex_run short name max, loaded.cur, fun place found small => ?_⟩
  obtain ⟨nodes, sound, same, object⟩ := loaded.getObject_run short name max
  have inside := place_lt same found
  have here : (addresses nodes)[place]? = some nodes[place].1 := by
    rw [List.getElem?_map, List.getElem?_eq_getElem inside]
    rfl
  obtain ⟨next, there⟩ := sound.linked.exists_next (List.getElem_mem inside)
  refine ⟨nodes[place].1, ⟨nodes[place].2, next⟩, ?_, ?_, there, ?_⟩
  · rw [object, found, Option.bind_some, here]
  · have number : ((indexOf name objects).toNat : Int) - 1 = (place : Nat) := by
      rw [indexOf, found, Option.elim_some, UInt16.toNat_ofNat', Nat.mod_eq_of_lt small]
      omega
    rw [getObjectInfo, number, get_at sound.linked (by omega), Int.toNat_natCast, here]
  · rw [← same, List.getElem?_map, List.getElem?_eq_getElem inside]
    rfl

/-- The second of two objects, after a lookup. -/
theorem getIndex_agrees_two : ∃ (s : Nodes GNHT) (l l' : MList),
    getIndex l s [0x42] = .ok (indexOf [0x42] [⟨[0x41], 0⟩, ⟨[0x42], 0⟩], l') ∧
      l'.cur = l'.first ∧
      ∀ place, placeOf [0x42] [⟨[0x41], 0⟩, ⟨[0x42], 0⟩] = some place → place + 1 < 0x10000 →
        ∃ obj node, getObject l s [0x42] 0x50 = .ok (some obj, l') ∧
          getObjectInfo l' s (indexOf [0x42] [⟨[0x41], 0⟩, ⟨[0x42], 0⟩]) = .ok (some obj, l') ∧
          s.heap obj = some node ∧
            [(⟨[0x41], 0⟩ : GNHT), ⟨[0x42], 0⟩][place]? = some node.value.msg := by
  have short : ∀ info ∈ [(⟨[0x41], 0⟩ : GNHT), ⟨[0x42], 0⟩], info.name.length < 50 := by decide
  obtain ⟨l, s, loading, loaded⟩ :=
    load_run (loaded_empty Store.empty) [⟨[0x41], 0⟩, ⟨[0x42], 0⟩]
  have lookup : Call.step s l (.getIndex [0x43] 0x50) l := ⟨_, loaded.getIndex_run short _ _⟩
  obtain ⟨l', agrees⟩ := getIndex_agrees short loading (.single lookup) [0x42] 0x50
  exact ⟨s, l, l', agrees⟩

theorem placeOf_replicate (count : Nat) :
    placeOf [0x41] (List.replicate count ⟨[], 0⟩ ++ [⟨[0x41], 0⟩]) = some count := by
  induction count with
  | zero => decide
  | succ count ih =>
      rw [List.replicate_succ, List.cons_append, placeOf_cons, if_neg (by decide), ih]
      rfl

/-- As many objects as the count has values. -/
def manyObjects : List GNHT := List.replicate 0xFFFF ⟨[], 0⟩ ++ [⟨[0x41], 0⟩]

/-- The index of the object at place 65536 is that of none. -/
theorem getIndex_wraps : ∃ l, ∃ s : Nodes GNHT, load manyObjects ({}, Store.empty) = .ok (l, s) ∧
    (∀ info ∈ manyObjects, info.name.length < 50) ∧ placeOf [0x41] manyObjects = some 0xFFFF ∧
      getIndex l s [0x41] = .ok (0, l) := by
  have short : ∀ info ∈ manyObjects, info.name.length < 50 := by
    intro info mem
    rcases List.mem_append.mp mem with many | one
    · rw [List.eq_of_mem_replicate many]
      decide
    · rw [List.mem_singleton.mp one]
      decide
  have place : placeOf [0x41] manyObjects = some 0xFFFF := placeOf_replicate 0xFFFF
  obtain ⟨l, s, loading, loaded⟩ := load_run (loaded_empty Store.empty) manyObjects
  refine ⟨l, s, loading, short, place, ?_⟩
  rw [loaded.getIndex_run short, List.nil_append, indexOf, place]
  rfl

end NoxServer.Things
