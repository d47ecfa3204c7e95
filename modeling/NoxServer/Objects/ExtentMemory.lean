import NoxServer.Objects.Registration
import NoxServer.Shared.ByteBuffer

/-!
The memory `objectExtents` is built on.

The manager is created with `new`, so its array has what was there before. The constructor clears
`MAX_EXTENT` bytes, where the array has one pointer more than that: a pointer after the cleared
bytes is whatever four of the old bytes spell (`fresh_iff`).
-/

namespace NoxServer.Objects

open ObjectMgr

/-- What is at the address of `objectExtents` and after it. -/
abbrev Memory := Nat → UInt8

namespace Memory

def memset (memory : Memory) (byte : UInt8) (count : Nat) : Memory :=
  fun i => if i < count then byte else memory i

/-- A pointer has four bytes. -/
def pointerSize : Nat := 4

/-- `((uint32*)objectExtents)[index]`, which is the pointer of that index. -/
def word (memory : Memory) (index : Nat) : UInt32 :=
  UInt32.ofNat (ByteBuffer.fromBytes
    ((List.range pointerSize).map fun i => memory (pointerSize * index + i)))

/-- `objectExtents[extent]`, of the extents the array has. -/
def objectExtents (memory : Memory) (extent : UInt16) : Option UInt32 :=
  if extent > maxExtent then none
  else if memory.word extent.toNat = 0 then none
  else some (memory.word extent.toNat)

end Memory

def ObjectMgr.construct (memory : Memory) (extent : UInt32 → UInt16) : ObjectMgr UInt32 where
  extent := extent
  objectExtents := (memory.memset 0 maxExtent.toNat).objectExtents

/-- All extents are available, and objects that can move and come without one get them in order. -/
structure ObjectMgr.Fresh (kind : ObjectClass UInt32) (m : ObjectMgr UInt32) : Prop where
  available : ∀ e, 1 ≤ e → e ≤ maxExtent → m.isExtentAvailable e = true
  inOrder : ∀ objs : List UInt32, objs.Nodup →
    (∀ o ∈ objs, kind.immobile o = false ∧ m.extent o = 0) → objs.length ≤ maxExtent.toNat →
    ∀ (k : Nat) (inside : k < objs.length),
      ((m.addAll kind (objs.take k)).addObject kind objs[k]).extent objs[k] = UInt16.ofNat (k + 1)

theorem fromBytes_eq_zero {bytes : List UInt8} :
    ByteBuffer.fromBytes bytes = 0 ↔ ∀ byte ∈ bytes, byte = 0 := by
  induction bytes with
  | nil => exact iff_of_true rfl nofun
  | cons byte bytes ih =>
      rw [ByteBuffer.fromBytes, List.forall_mem_cons, ← ih, ← UInt8.toNat_inj]
      simp

theorem Memory.word_eq_zero {memory : Memory} {index : Nat} :
    memory.word index = 0 ↔ ∀ i < pointerSize, memory (pointerSize * index + i) = 0 := by
  have small := ByteBuffer.fromBytes_lt
    ((List.range pointerSize).map fun i => memory (pointerSize * index + i))
  rw [List.length_map, List.length_range] at small
  have zero : memory.word index = 0 ↔ ByteBuffer.fromBytes
      ((List.range pointerSize).map fun i => memory (pointerSize * index + i)) = 0 := by
    rw [word, ← UInt32.toNat_inj, UInt32.toNat_ofNat_of_lt' small]
    rfl
  rw [zero, fromBytes_eq_zero]
  simp

/-- A slot is empty if its bytes are cleared, or were zero before. -/
theorem construct_empty_iff {memory : Memory} {extent : UInt32 → UInt16} {e : UInt16}
    (small : e ≤ maxExtent) :
    (construct memory extent).objectExtents e = none ↔
      ∀ i < Memory.pointerSize, maxExtent.toNat ≤ Memory.pointerSize * e.toNat + i →
        memory (Memory.pointerSize * e.toNat + i) = 0 := by
  have slot : (construct memory extent).objectExtents e = none ↔
      (memory.memset 0 maxExtent.toNat).word e.toNat = 0 := by
    change (memory.memset 0 maxExtent.toNat).objectExtents e = none ↔ _
    unfold Memory.objectExtents
    rw [if_neg (UInt16.not_lt.mpr small)]
    split
    · next zero => exact iff_of_true rfl zero
    · next taken => exact iff_of_false nofun taken
  rw [slot, Memory.word_eq_zero]
  refine forall₂_congr fun i _ => ?_
  unfold Memory.memset
  split
  · next cleared => exact iff_of_true rfl fun beyond => absurd cleared (Nat.not_lt.mpr beyond)
  · next kept => exact ⟨fun zero _ => zero, fun zero => zero (Nat.not_lt.mp kept)⟩

/-- A manager with all slots empty is fresh. -/
theorem ObjectMgr.Filled.fresh {m : ObjectMgr UInt32} (filled : m.Filled 0)
    (kind : ObjectClass UInt32) : m.Fresh kind := by
  refine ⟨fun e one_le small => ?_, fun objs distinct without room k inside => ?_⟩
  · have empty : m.objectExtents e = none :=
      filled.empty e (.inr (UInt16.le_iff_toNat_le.mp one_le)) small
    exact (isExtentAvailable_iff _ e).mpr ⟨one_le, small, empty⟩
  · have split : objs.take k ++ objs[k] :: objs.drop (k + 1) = objs := by
      rw [List.getElem_cons_drop, List.take_append_drop]
    have apart := split ▸ distinct
    obtain ⟨before, -, disjoint⟩ := List.nodup_append.mp apart
    have count : (objs.take k).length = k := List.length_take_of_le (Nat.le_of_lt inside)
    have new : objs[k] ∉ objs.take k := fun mem =>
      disjoint _ mem _ List.mem_cons_self rfl
    have extent_eq := filled.addAll_extent kind (o := objs[k]) (by omega) before new
      (fun a mem => (without a (List.mem_of_mem_take mem)).2)
      (without _ (List.getElem_mem inside)).2
    rwa [count] at extent_eq

/-- The bytes of the pointers of a fresh manager that are not cleared were zero before. -/
theorem ObjectMgr.Fresh.zero {memory : Memory} {kind : ObjectClass UInt32}
    {extent : UInt32 → UInt16} (fresh : (construct memory extent).Fresh kind) {i : Nat}
    (beyond : maxExtent.toNat ≤ i) (inside : i < Memory.pointerSize * (maxExtent.toNat + 1)) :
    memory i = 0 := by
  unfold Memory.pointerSize at inside
  have last : maxExtent.toNat = 0x7FFF := by decide
  have index : (UInt16.ofNat (i / 4)).toNat = i / 4 := toNat_extent _ (by omega)
  have one_le : 1 ≤ UInt16.ofNat (i / 4) := by
    rw [UInt16.le_iff_toNat_le, index, UInt16.toNat_one]
    omega
  have small : UInt16.ofNat (i / 4) ≤ maxExtent := by
    rw [UInt16.le_iff_toNat_le, index]
    omega
  have free := (isExtentAvailable_iff _ _).mp (fresh.available _ one_le small)
  have zero := (construct_empty_iff small).mp free.empty (i % 4) (Nat.mod_lt i (by decide))
  rw [index, Memory.pointerSize, Nat.div_add_mod] at zero
  exact zero beyond

/-- A new manager is empty exactly if the bytes that are not cleared were zero before: `memset` is
given a number of pointers where it takes one of bytes, so the slots from the first quarter on are
what the memory had. -/
theorem fresh_iff (memory : Memory) (kind : ObjectClass UInt32) (extent : UInt32 → UInt16) :
    (construct memory extent).Fresh kind ↔
      ∀ i, maxExtent.toNat ≤ i → i < Memory.pointerSize * (maxExtent.toNat + 1) →
        memory i = 0 := by
  constructor
  · intro fresh i beyond inside
    exact fresh.zero beyond inside
  · intro zero
    have empty (e : UInt16) (small : e ≤ maxExtent) :
        (construct memory extent).objectExtents e = none := by
      rw [construct_empty_iff small]
      intro i below beyond
      refine zero _ beyond ?_
      have last := UInt16.le_iff_toNat_le.mp small
      unfold Memory.pointerSize at below ⊢
      omega
    have filled : (construct memory extent).Filled 0 :=
      ⟨fun e one_le le_zero => by omega, fun e _ small => empty e small⟩
    exact filled.fresh kind

/-- A byte of the pointer that no extent but 10000 has. -/
def oldByte : Memory := fun i => if i = 40000 then 1 else 0

/-- That extent is not available in a new manager. -/
theorem oldByte_not_fresh :
    (construct oldByte fun _ => 0).isExtentAvailable 10000 = false ∧
      ¬(construct oldByte fun _ => 0).Fresh ⟨fun _ => 0, fun _ => false⟩ := by
  have taken : (construct oldByte fun _ => 0).isExtentAvailable 10000 = false := by
    decide
  refine ⟨taken, fun fresh => ?_⟩
  rw [fresh.available 10000 (by decide) (by decide)] at taken
  cases taken

end NoxServer.Objects
