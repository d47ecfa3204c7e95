import Mathlib.Data.List.Nodup
import Mathlib.Data.List.Perm.Subperm
import Mathlib.Logic.Function.Basic

/-!
Lists of linked cells.

A cell holds a value and the address of the cell after it. `Linked` says which cells are met from
an address on, up to another; the cells up to an end are determined by where they start
(`Linked.unique`), so that none is met twice (`Linked.nodup`). A cell can be linked in behind the
last one and a cell can be left out, and what other cells there are makes no difference
(`Linked.congr`).
-/

namespace LinkedList

/-- What a cell holds, and where the next cell is. -/
structure Cell (ν α : Type*) where
  value : α
  next : Option ν

abbrev Heap (ν α : Type*) := ν → Option (Cell ν α)

variable {ν α : Type*}

/-- The cells from `start` on, with their addresses, up to `stop`. -/
def Linked (heap : Heap ν α) : Option ν → List (ν × α) → Option ν → Prop
  | start, [], stop => start = stop
  | start, cell :: cells, stop =>
      start = some cell.1 ∧ ∃ next, heap cell.1 = some ⟨cell.2, next⟩ ∧ Linked heap next cells stop

abbrev addresses (cells : List (ν × α)) : List ν := cells.map Prod.fst

variable {heap heap' : Heap ν α} {start stop : Option ν} {cells cells' : List (ν × α)}

theorem linked_append :
    Linked heap start (cells ++ cells') stop ↔
      ∃ middle, Linked heap start cells middle ∧ Linked heap middle cells' stop := by
  induction cells generalizing start with
  | nil =>
      constructor
      · intro linked
        exact ⟨start, rfl, linked⟩
      · rintro ⟨_, rfl, linked⟩
        exact linked
  | cons cell cells ih =>
      constructor
      · rintro ⟨here, next, there, linked⟩
        obtain ⟨middle, first, second⟩ := ih.mp linked
        exact ⟨middle, ⟨here, next, there, first⟩, second⟩
      · rintro ⟨middle, ⟨here, next, there, first⟩, second⟩
        exact ⟨here, next, there, ih.mpr ⟨middle, first, second⟩⟩

/-- Cells that are not met make no difference. -/
theorem Linked.congr (linked : Linked heap start cells stop)
    (same : ∀ a ∈ addresses cells, heap' a = heap a) : Linked heap' start cells stop := by
  induction cells generalizing start with
  | nil => exact linked
  | cons cell cells ih =>
      obtain ⟨here, next, there, linked⟩ := linked
      refine ⟨here, next, (same _ List.mem_cons_self).trans there, ih linked fun a mem => ?_⟩
      exact same a (List.mem_cons_of_mem _ mem)

/-- A cell that is met is there. -/
theorem Linked.exists_next (linked : Linked heap start cells stop) {cell : ν × α}
    (mem : cell ∈ cells) : ∃ next, heap cell.1 = some ⟨cell.2, next⟩ := by
  induction cells generalizing start with
  | nil => cases mem
  | cons first cells ih =>
      obtain ⟨-, next, there, linked⟩ := linked
      rcases List.mem_cons.mp mem with rfl | mem
      · exact ⟨next, there⟩
      · exact ih linked mem

theorem Linked.isSome (linked : Linked heap start cells stop) {a : ν}
    (mem : a ∈ addresses cells) : (heap a).isSome := by
  obtain ⟨cell, met, rfl⟩ := List.mem_map.mp mem
  obtain ⟨next, there⟩ := linked.exists_next met
  exact Option.isSome_of_eq_some there

theorem linked_cons_none {cell : ν × α} (linked : Linked heap start (cell :: cells) stop) :
    start ≠ none := by
  rw [linked.1]
  exact Option.some_ne_none _

theorem Linked.start_eq (linked : Linked heap start cells none) :
    start = (addresses cells)[0]? := by
  cases cells with
  | nil => exact linked
  | cons cell cells => exact linked.1

/-- If the end is not where the list starts, a cell is. -/
theorem Linked.start_mem {a : ν} (linked : Linked heap start cells none) (here : start = some a) :
    a ∈ addresses cells :=
  List.mem_of_getElem? (linked.start_eq.symm.trans here)

/-- What follows is linked from where it is. -/
theorem Linked.drop (linked : Linked heap start cells none) (place : Nat) :
    Linked heap (addresses cells)[place]? (cells.drop place) none := by
  induction place generalizing start cells with
  | zero =>
      rw [← linked.start_eq]
      exact linked
  | succ place ih =>
      cases cells with
      | nil => rfl
      | cons cell cells =>
          obtain ⟨-, next, -, linked⟩ := linked
          exact ih linked

/-- The cells up to the end are those from the start. -/
theorem Linked.unique (linked : Linked heap start cells none)
    (linked' : Linked heap start cells' none) : cells = cells' := by
  induction cells generalizing start cells' with
  | nil =>
      cases cells' with
      | nil => rfl
      | cons cell' cells' => exact absurd linked (linked_cons_none linked')
  | cons cell cells ih =>
      cases cells' with
      | nil => exact absurd linked' (linked_cons_none linked)
      | cons cell' cells' =>
          obtain ⟨here, next, there, linked⟩ := linked
          obtain ⟨here', next', there', linked'⟩ := linked'
          have address : cell.1 = cell'.1 := Option.some.inj (here.symm.trans here')
          rw [← address, there] at there'
          obtain ⟨value, rfl⟩ := Cell.mk.inj (Option.some.inj there')
          rw [Prod.ext address value, ih linked linked']

/-- What follows the cell at an address is determined by the address. -/
theorem Linked.suffix_unique {cell : ν × α} {before after before' after' : List (ν × α)}
    {cell' : ν × α} (linked : Linked heap start (before ++ cell :: after) none)
    (linked' : Linked heap start (before' ++ cell' :: after') none) (same : cell.1 = cell'.1) :
    after = after' := by
  obtain ⟨middle, -, rest⟩ := linked_append.mp linked
  obtain ⟨middle', -, rest'⟩ := linked_append.mp linked'
  obtain rfl : middle = middle' := by rw [rest.1, rest'.1, same]
  exact (List.cons.inj (rest.unique rest')).2

/-- No cell is met twice. -/
theorem Linked.nodup (linked : Linked heap start cells none) : (addresses cells).Nodup := by
  induction cells generalizing start with
  | nil => exact List.nodup_nil
  | cons cell cells ih =>
      have whole := linked
      obtain ⟨here, next, there, linked⟩ := linked
      refine List.nodup_cons.mpr ⟨fun mem => ?_, ih linked⟩
      obtain ⟨cell', mem, same⟩ := List.mem_map.mp mem
      obtain ⟨before, after, rfl⟩ := List.append_of_mem mem
      -- If it were met again, what follows would be longer than itself.
      have first : Linked heap start ([] ++ cell :: (before ++ cell' :: after)) none := whole
      have again : Linked heap start ((cell :: before) ++ cell' :: after) none := whole
      have lengths := congrArg List.length (first.suffix_unique again same.symm)
      rw [List.length_append, List.length_cons] at lengths
      omega

/-! ### Changes -/

/-- A cell is linked in behind the last one. -/
theorem Linked.concat {a b : ν} {x y : α} (linked : Linked heap start (cells ++ [(a, x)]) none)
    (last : heap' a = some ⟨x, some b⟩) (new : heap' b = some ⟨y, none⟩)
    (same : ∀ c, c ≠ a → c ≠ b → heap' c = heap c)
    (apart : b ∉ addresses (cells ++ [(a, x)])) :
    Linked heap' start (cells ++ [(a, x)] ++ [(b, y)]) none := by
  have nodup := linked.nodup
  rw [addresses, List.map_append, List.nodup_append] at nodup
  obtain ⟨middle, first, here, -⟩ := linked_append.mp linked
  have kept : Linked heap' start cells middle := first.congr fun c mem => by
    refine same c (nodup.2.2 c mem a List.mem_cons_self) ?_
    rintro rfl
    rw [addresses, List.map_append] at apart
    exact apart (List.mem_append_left _ mem)
  refine linked_append.mpr ⟨some b, linked_append.mpr ⟨middle, kept, here, some b, last, rfl⟩, ?_⟩
  exact ⟨rfl, none, new, rfl⟩

/-- The cell behind another one is left out. -/
theorem Linked.bypass {a b : ν} {x y : α} {back : List (ν × α)} {next : Option ν}
    (linked : Linked heap start (cells ++ (a, x) :: (b, y) :: back) none)
    (out : heap b = some ⟨y, next⟩) (last : heap' a = some ⟨x, next⟩)
    (same : ∀ c, c ≠ a → c ≠ b → heap' c = heap c) :
    Linked heap' start (cells ++ (a, x) :: back) none := by
  have nodup := linked.nodup
  rw [addresses, List.map_append, List.nodup_append] at nodup
  obtain ⟨-, behind, apart⟩ := nodup
  obtain ⟨not_a, behind⟩ := List.nodup_cons.mp behind
  obtain ⟨not_b, -⟩ := List.nodup_cons.mp behind
  obtain ⟨middle, first, here, _, -, -, next', there, rest⟩ := linked_append.mp linked
  obtain ⟨-, rfl⟩ := Cell.mk.inj (Option.some.inj (out.symm.trans there))
  refine linked_append.mpr ⟨middle, first.congr fun c mem => ?_, here, next, last, ?_⟩
  · exact same c (apart c mem a List.mem_cons_self)
      (apart c mem b (List.mem_cons_of_mem _ List.mem_cons_self))
  · refine rest.congr fun c mem => same c ?_ ?_
    · rintro rfl
      exact not_a (List.mem_cons_of_mem _ mem)
    · rintro rfl
      exact not_b mem

/-- The first cell is left out. -/
theorem Linked.behead {b : ν} {y : α} {next : Option ν}
    (linked : Linked heap start ((b, y) :: cells) none) (out : heap b = some ⟨y, next⟩)
    (same : ∀ c, c ≠ b → heap' c = heap c) : Linked heap' next cells none := by
  obtain ⟨not_b, -⟩ := List.nodup_cons.mp linked.nodup
  obtain ⟨-, next', there, rest⟩ := linked
  obtain ⟨-, rfl⟩ := Cell.mk.inj (Option.some.inj (out.symm.trans there))
  refine rest.congr fun c mem => same c ?_
  rintro rfl
  exact not_b mem

/-! ### Walks -/

/-- `count` cells on, unless the end comes before: the address there, and the one before it. There
is no answer where a cell is not there. -/
def walk (heap : Heap ν α) : Nat → Option ν → Option ν → Option (Option ν × Option ν)
  | 0, before, here => some (before, here)
  | _ + 1, before, none => some (before, none)
  | count + 1, _, some a => (heap a).bind fun cell => walk heap count (some a) cell.next

theorem walk_append (before : Option ν) (linked : Linked heap start (cells ++ cells') none) :
    walk heap cells.length before start =
      some ((addresses cells).getLast?.or before, (addresses cells').head?) := by
  induction cells generalizing start before with
  | nil =>
      cases cells' with
      | nil => exact congrArg (fun here => some (before, here)) linked
      | cons cell' cells' => exact congrArg (fun here => some (before, here)) linked.1
  | cons cell cells ih =>
      obtain ⟨rfl, next, there, linked⟩ := linked
      rw [List.length_cons, walk, there, Option.bind_some, ih _ linked]
      cases cells with
      | nil => rfl
      | cons cell' cells => rfl

/-- The cell at a place of the list, or the end. -/
theorem walk_linked (linked : Linked heap start cells none) (count : Nat) (before : Option ν) :
    ∃ before', walk heap count before start = some (before', (addresses cells)[count]?) := by
  induction count generalizing start cells before with
  | zero =>
      cases cells with
      | nil => exact ⟨before, congrArg (fun here => some (before, here)) linked⟩
      | cons cell cells => exact ⟨before, congrArg (fun here => some (before, here)) linked.1⟩
  | succ count ih =>
      cases cells with
      | nil =>
          obtain rfl : start = none := linked
          exact ⟨before, rfl⟩
      | cons cell cells =>
          obtain ⟨rfl, next, there, linked⟩ := linked
          obtain ⟨before', run⟩ := ih linked (some cell.1)
          refine ⟨before', ?_⟩
          rw [walk, there]
          exact run

/-- The first cell whose value has a property, among as many cells at most as there is fuel for. -/
def search (heap : Heap ν α) (p : α → Bool) : Nat → Option ν → Option (Option ν)
  | _, none => some none
  | 0, some _ => none
  | fuel + 1, some a =>
      (heap a).bind fun cell => if p cell.value then some (some a) else search heap p fuel cell.next

theorem search_linked (p : α → Bool) {fuel : Nat} (linked : Linked heap start cells none)
    (enough : cells.length ≤ fuel) :
    search heap p fuel start = some ((cells.find? fun cell => p cell.2).map Prod.fst) := by
  induction cells generalizing start fuel with
  | nil =>
      obtain rfl : start = none := linked
      cases fuel <;> rfl
  | cons cell cells ih =>
      obtain ⟨rfl, next, there, linked⟩ := linked
      obtain ⟨fuel, rfl⟩ : ∃ rest, fuel = rest + 1 := ⟨fuel - 1, by
        rw [List.length_cons] at enough
        omega⟩
      rw [search, there, Option.bind_some, List.find?_cons]
      cases found : p cell.2 with
      | true => rfl
      | false => exact ih linked (Nat.le_of_succ_le_succ enough)

/-! ### Stores -/

/-- A heap of which the addresses from `fresh` on are unused. -/
structure Store (α : Type*) where
  heap : Heap Nat α
  fresh : Nat
  unused : ∀ a, fresh ≤ a → heap a = none

namespace Store

def empty : Store α := ⟨fun _ => none, 0, fun _ _ => rfl⟩

/-- A new cell, which is the last. -/
def alloc (s : Store α) (value : α) : Store α where
  heap := Function.update s.heap s.fresh (some ⟨value, none⟩)
  fresh := s.fresh + 1
  unused a le := by
    have other : a ≠ s.fresh := by omega
    rw [Function.update_of_ne other]
    exact s.unused a (by omega)

/-- The cell after one, if there is that one. -/
def setNext (s : Store α) (a : Nat) (next : Option Nat) : Store α where
  heap := Function.update s.heap a ((s.heap a).map fun cell => { cell with next := next })
  fresh := s.fresh
  unused b le := by
    by_cases same : b = a
    · rw [same, Function.update_self, s.unused a (same ▸ le)]
      rfl
    · rw [Function.update_of_ne same]
      exact s.unused b le

/-- A cell is deleted. -/
def free (s : Store α) (a : Nat) : Store α where
  heap := Function.update s.heap a none
  fresh := s.fresh
  unused b le := by
    by_cases same : b = a
    · rw [same, Function.update_self]
    · rw [Function.update_of_ne same]
      exact s.unused b le

/-- The cells from one on are deleted, as many at most as there is fuel for. -/
def freeAll (s : Store α) : Nat → Option Nat → Option (Store α)
  | _, none => some s
  | 0, some _ => none
  | fuel + 1, some a => (s.heap a).bind fun cell => (s.free a).freeAll fuel cell.next

variable {s : Store α} {start : Option Nat} {cells : List (Nat × α)} {a b : Nat}

@[simp] theorem alloc_fresh (s : Store α) (value : α) : (s.alloc value).fresh = s.fresh + 1 := rfl

@[simp] theorem setNext_fresh (s : Store α) (a : Nat) (next : Option Nat) :
    (s.setNext a next).fresh = s.fresh := rfl

@[simp] theorem free_fresh (s : Store α) (a : Nat) : (s.free a).fresh = s.fresh := rfl

@[simp] theorem alloc_self (s : Store α) (value : α) :
    (s.alloc value).heap s.fresh = some ⟨value, none⟩ :=
  Function.update_self _ _ _

theorem alloc_of_ne (value : α) (ne : a ≠ s.fresh) : (s.alloc value).heap a = s.heap a :=
  Function.update_of_ne ne _ _

theorem setNext_self {cell : Cell Nat α} (there : s.heap a = some cell) (next : Option Nat) :
    (s.setNext a next).heap a = some { cell with next := next } := by
  refine (Function.update_self _ _ _).trans ?_
  rw [there]
  rfl

theorem setNext_of_ne (ne : b ≠ a) (next : Option Nat) :
    (s.setNext a next).heap b = s.heap b :=
  Function.update_of_ne ne _ _

@[simp] theorem free_self (s : Store α) (a : Nat) : (s.free a).heap a = none :=
  Function.update_self _ _ _

theorem free_of_ne (ne : b ≠ a) : (s.free a).heap b = s.heap b := Function.update_of_ne ne _ _

theorem lt_fresh (linked : Linked s.heap start cells none)
    (mem : a ∈ addresses cells) : a < s.fresh := by
  by_contra unused
  have there := linked.isSome mem
  rw [s.unused a (Nat.le_of_not_lt unused)] at there
  cases there

/-- There are no more cells than addresses that have been used. -/
theorem length_le_fresh (linked : Linked s.heap start cells none) : cells.length ≤ s.fresh := by
  have within : addresses cells ⊆ List.range s.fresh := fun a mem =>
    List.mem_range.mpr (lt_fresh linked mem)
  have shorter := (linked.nodup.subperm within).length_le
  rwa [List.length_map, List.length_range] at shorter

/-- All cells of a list are deleted, and no others. -/
theorem freeAll_linked {fuel : Nat} (linked : Linked s.heap start cells none)
    (enough : cells.length ≤ fuel) :
    ∃ s', s.freeAll fuel start = some s' ∧ s'.fresh = s.fresh ∧
      (∀ a ∈ addresses cells, s'.heap a = none) ∧
        ∀ a, a ∉ addresses cells → s'.heap a = s.heap a := by
  induction cells generalizing s start fuel with
  | nil =>
      obtain rfl : start = none := linked
      exact ⟨s, by cases fuel <;> rfl, rfl, nofun, fun _ _ => rfl⟩
  | cons cell cells ih =>
      obtain ⟨fuel, rfl⟩ : ∃ rest, fuel = rest + 1 := ⟨fuel - 1, by
        rw [List.length_cons] at enough
        omega⟩
      have whole := linked
      obtain ⟨rfl, next, there, -⟩ := linked
      have other : ∀ c, c ≠ cell.1 → (s.free cell.1).heap c = s.heap c :=
        fun c ne => free_of_ne ne
      have rest : Linked (s.free cell.1).heap next cells none := whole.behead there other
      obtain ⟨s', run, fresh, gone, kept⟩ := ih rest (Nat.le_of_succ_le_succ enough)
      obtain ⟨not_first, -⟩ := List.nodup_cons.mp whole.nodup
      refine ⟨s', ?_, fresh, fun a mem => ?_, fun a not_mem => ?_⟩
      · rw [freeAll, there]
        exact run
      · rcases List.mem_cons.mp mem with rfl | mem
        · rw [kept _ not_first]
          exact Function.update_self _ _ _
        · exact gone a mem
      · have ne : a ≠ cell.1 := fun same => not_mem (List.mem_cons.mpr (.inl same))
        have not_mem : a ∉ addresses cells := fun mem => not_mem (List.mem_cons_of_mem _ mem)
        rw [kept a not_mem, other a ne]

/-! Cells that are there before something is done to the store. -/

/-- Nothing has been done to the cells of the one store in the other. -/
structure Grows (s s' : Store α) : Prop where
  fresh : s.fresh ≤ s'.fresh
  kept : ∀ a, a < s.fresh → s'.heap a = s.heap a

theorem Grows.refl (s : Store α) : Grows s s := ⟨Nat.le_refl _, fun _ _ => rfl⟩

theorem Grows.trans {s s' s'' : Store α} (first : Grows s s') (second : Grows s' s'') :
    Grows s s'' :=
  ⟨Nat.le_trans first.fresh second.fresh, fun a old =>
    (second.kept a (Nat.lt_of_lt_of_le old first.fresh)).trans (first.kept a old)⟩

theorem Grows.linked {s s' : Store α} (grows : Grows s s')
    (linked : Linked s.heap start cells none) :
    Linked s'.heap start cells none :=
  linked.congr fun a mem => grows.kept a (lt_fresh linked mem)

end Store

end LinkedList
