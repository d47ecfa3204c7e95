import NoxServer.Library.Faults
import NoxServer.Awesie.Possessions
import NoxServer.Awesie.WorldSession

/-!
The extents of the server under `awesie_test` (`object_mgr.h`, `object_mgr.cpp`) and the handlers
that clients name objects with (`world_session.cpp`).

An extent is 16 bits wherever it comes from, and `m_extents` has the lower half of them. What looks
for a free extent stays inside; `get_object` takes its argument for a signed number and does not
look at it. What the handlers get from it may be NULL, which all but `pickup` expect. `ASSERT` is
empty here, so a packet that is too short is read beyond its end: what the memory holds there is a
parameter.
-/

namespace NoxServer

namespace Awesie

namespace Extents

open Faults Possessions

def maxExtent : Nat := 0x7FFF

def invalidExtent : UInt16 := 0

/-- What is undefined: an index that `m_extents` does not have, or an access to an object. -/
inductive Misuse where
  | index (i : Int)
  | object (fault : Possessions.Fault)
  deriving DecidableEq

structure ObjectMgr where
  extents : Fin (maxExtent + 1) → Option Ref
  objects : Finset Ref

namespace ObjectMgr

/-- `m_extents[i]`. -/
def entry (mgr : ObjectMgr) (i : Int) : Except Misuse (Option Ref) :=
  if inside : 0 ≤ i ∧ i.toNat < maxExtent + 1 then .ok (mgr.extents ⟨i.toNat, inside.2⟩)
  else .error (.index i)

/-- `m_extents[i] = obj`. -/
def setEntry (mgr : ObjectMgr) (i : Int) (obj : Option Ref) : Except Misuse ObjectMgr :=
  if inside : 0 ≤ i ∧ i.toNat < maxExtent + 1 then
    .ok { mgr with extents := Function.update mgr.extents ⟨i.toNat, inside.2⟩ obj }
  else .error (.index i)

def getObject (mgr : ObjectMgr) (extent : Int16) : Except Misuse (Option Ref) :=
  mgr.entry extent.toInt

/-- The loop of `request_extent()`, from an index on. -/
def requestFrom (mgr : ObjectMgr) (i : Nat) : Except Misuse UInt16 :=
  if i < maxExtent + 1 then do
    let here ← mgr.entry i
    if here = none then .ok (UInt16.ofNat i) else mgr.requestFrom (i + 1)
  else .ok invalidExtent
termination_by maxExtent + 1 - i

def requestExtent (mgr : ObjectMgr) : Except Misuse UInt16 := mgr.requestFrom 1

def isExtentAvailable (mgr : ObjectMgr) (extent : UInt16) : Except Misuse Bool :=
  if extent.toNat ≤ maxExtent ∧ extent ≠ invalidExtent then do
    let here ← mgr.entry extent.toNat
    .ok (here = none)
  else .ok false

/-- `add_object(obj)`, of an object whose extent is given; the extent after it. -/
def addObject (mgr : ObjectMgr) (obj : Ref) (extent : UInt16) :
    Except Misuse (ObjectMgr × UInt16) := do
  let here ← mgr.getObject extent.toInt16
  if here = some obj then .ok (mgr, extent)
  else do
    let available ← mgr.isExtentAvailable extent
    let extent ← if available then .ok extent else mgr.requestExtent
    let mgr ← mgr.setEntry extent.toNat (some obj)
    .ok ({ mgr with objects := insert obj mgr.objects }, extent)

def removeObject (mgr : ObjectMgr) (obj : Ref) (extent : UInt16) : Except Misuse ObjectMgr :=
  if obj ∈ mgr.objects then
    { mgr with objects := mgr.objects.erase obj }.setEntry extent.toNat none
  else .ok mgr

/-- The objects of a map file are added, each with the extent that the file has for it. -/
def addFromFile (mgr : ObjectMgr) : List (Ref × UInt32) → Except Misuse ObjectMgr
  | [] => .ok mgr
  | entry :: entries => do
      let (mgr, _) ← mgr.addObject entry.1 entry.2.toUInt16
      mgr.addFromFile entries

end ObjectMgr

/-! ### Handlers -/

/-- A byte of a packet, or what the memory holds behind it. -/
def byteAt (behind : Nat → UInt8) (buffer : ByteBuffer) (i : Nat) : UInt8 :=
  buffer.storage[i]?.getD (behind i)

def readUInt16 (behind : Nat → UInt8) (buffer : ByteBuffer) : UInt16 × ByteBuffer :=
  (UInt16.ofNat (ByteBuffer.fromBytes
      [byteAt behind buffer buffer.rpos, byteAt behind buffer (buffer.rpos + 1)]),
    { buffer with rpos := buffer.rpos + 2 })

/-- The object that the extent at the front of a packet is of. -/
def readObject (behind : Nat → UInt8) (mgr : ObjectMgr) (packet : WorldPacket) :
    Except Misuse (Option Ref × ByteBuffer) := do
  let (extent, buffer) := readUInt16 behind packet.buffer
  let obj ← mgr.getObject extent.toInt16
  .ok (obj, buffer)

def perform (m : Except Possessions.Fault (World × Bool)) : Except Misuse World :=
  (m.mapError .object).map Prod.fst

section Handlers

variable (behind : Nat → UInt8) (mgr : ObjectMgr) (w : World) (plr : Ref) (packet : WorldPacket)

/-- `HandleTryDropOpcode`; where an object is dropped is left out. -/
def handleTryDrop : Except Misuse World := do
  let (obj, _) ← readObject behind mgr packet
  perform (drop w plr obj)

/-- `HandleTryGetOpcode`: `near` has what is not too far away. -/
def handleTryGet (near : Ref → Bool) : Except Misuse World := do
  let (obj, _) ← readObject behind mgr packet
  perform (pickup w plr obj (obj.any near))

/-- `HandleTryUseOpcode`: `object::use` does nothing. -/
def handleTryUse : Except Misuse World := do
  let _ ← readObject behind mgr packet
  .ok w

def handleTryEquip : Except Misuse World := do
  let (obj, _) ← readObject behind mgr packet
  perform (equip w plr obj)

def handleTryDequip : Except Misuse World := do
  let (obj, _) ← readObject behind mgr packet
  perform (dequip w plr obj)

/-- `HandleReportSecondaryWeaponOpcode`: `equip_secondary` does nothing. -/
def handleReportSecondaryWeapon : Except Misuse World := do
  let _ ← readObject behind mgr packet
  .ok w

end Handlers

/-- The handlers that take an extent from a client. -/
inductive Handler where
  | tryDrop
  | tryGet
  | tryUse
  | tryEquip
  | tryDequip
  | reportSecondaryWeapon
  deriving DecidableEq

def handle (behind : Nat → UInt8) (mgr : ObjectMgr) (w : World) (plr : Ref) (near : Ref → Bool)
    (packet : WorldPacket) : Handler → Except Misuse World
  | .tryDrop => handleTryDrop behind mgr w plr packet
  | .tryGet => handleTryGet behind mgr w plr packet near
  | .tryUse => handleTryUse behind mgr w packet
  | .tryEquip => handleTryEquip behind mgr w plr packet
  | .tryDequip => handleTryDequip behind mgr w plr packet
  | .reportSecondaryWeapon => handleReportSecondaryWeapon behind mgr w packet

/-! ### Valid uses -/

/-- An index that `m_extents` does not have, or NULL used as an object. -/
def Invalid (misuse : Misuse) : Prop :=
  (∃ i, misuse = .index i) ∨ misuse = .object .nullPointer

/-- All indices of `m_extents` are inside, and NULL is not used as an object. -/
abbrev Valid {α : Type} (m : Except Misuse α) : Prop := Spares Invalid m

/-- The extent that is read is one that `m_extents` has; to be picked up, there is an object that
has it. -/
def Proper (behind : Nat → UInt8) (mgr : ObjectMgr) (packet : WorldPacket) (handler : Handler) :
    Prop :=
  ∃ inside : (readUInt16 behind packet.buffer).1.toNat < maxExtent + 1,
    handler = .tryGet → mgr.extents ⟨_, inside⟩ ≠ none

theorem valid_index_iff {α : Type} {i : Int} :
    Valid (.error (.index i) : Except Misuse α) ↔ False :=
  spares_error_iff.trans (iff_false_intro fun good => good (.inl ⟨i, rfl⟩))

section Extents

variable {mgr : ObjectMgr}

/-- As a signed number an extent of the upper half is negative. -/
theorem toInt_toInt16 (extent : UInt16) : extent.toInt16.toInt =
    if extent.toNat < maxExtent + 1 then (extent.toNat : Int) else extent.toNat - 0x10000 := by
  rw [Int16.toInt, UInt16.toBitVec_toInt16, BitVec.toInt_eq_toNat_cond, UInt16.toNat_toBitVec]
  refine if_congr ?_ rfl rfl
  unfold maxExtent
  omega

theorem entry_of_lt {i : Nat} (inside : i < maxExtent + 1) :
    mgr.entry i = .ok (mgr.extents ⟨i, inside⟩) :=
  dif_pos ⟨Int.natCast_nonneg i, inside⟩

theorem setEntry_of_lt {i : Nat} (inside : i < maxExtent + 1) (obj : Option Ref) :
    mgr.setEntry i obj =
      .ok { mgr with extents := Function.update mgr.extents ⟨i, inside⟩ obj } :=
  dif_pos ⟨Int.natCast_nonneg i, inside⟩

theorem getObject_of_lt {extent : UInt16} (inside : extent.toNat < maxExtent + 1) :
    mgr.getObject extent.toInt16 = .ok (mgr.extents ⟨extent.toNat, inside⟩) := by
  rw [ObjectMgr.getObject, toInt_toInt16, if_pos inside, entry_of_lt inside]

theorem getObject_of_not_lt (mgr : ObjectMgr) {extent : UInt16}
    (outside : ¬ extent.toNat < maxExtent + 1) :
    ∃ i, mgr.getObject extent.toInt16 = .error (.index i) := by
  have small := extent.toNat_lt
  refine ⟨(extent.toNat : Int) - 0x10000, ?_⟩
  rw [ObjectMgr.getObject, toInt_toInt16, if_neg outside, ObjectMgr.entry, dif_neg]
  omega

theorem valid_getObject_iff {extent : UInt16} :
    Valid (mgr.getObject extent.toInt16) ↔ extent.toNat < maxExtent + 1 := by
  by_cases inside : extent.toNat < maxExtent + 1
  · rw [getObject_of_lt inside]
    exact iff_of_true (spares_ok _) inside
  · obtain ⟨i, outside⟩ := getObject_of_not_lt mgr inside
    rw [outside, valid_index_iff]
    exact (iff_false_intro inside).symm

/-- A free extent is looked for inside. -/
theorem requestFrom_ok (mgr : ObjectMgr) (i : Nat) :
    ∃ extent, mgr.requestFrom i = .ok extent ∧ extent.toNat < maxExtent + 1 := by
  fun_induction ObjectMgr.requestFrom mgr i with
  | case1 i inside ih =>
      rw [entry_of_lt inside]
      change ∃ extent, (if mgr.extents ⟨i, inside⟩ = none then _ else _) = _ ∧ _
      split
      · refine ⟨UInt16.ofNat i, rfl, ?_⟩
        rw [UInt16.toNat_ofNat_of_lt']
        · exact inside
        · exact inside.trans (by decide)
      · exact ih
  | case2 i outside => exact ⟨invalidExtent, rfl, by decide⟩

theorem isExtentAvailable_ok (mgr : ObjectMgr) (extent : UInt16) : ∃ available,
    mgr.isExtentAvailable extent = .ok available ∧
      (available = true → extent.toNat < maxExtent + 1) := by
  unfold ObjectMgr.isExtentAvailable
  split
  · next proper =>
      have inside : extent.toNat < maxExtent + 1 := Nat.lt_succ_of_le proper.1
      rw [entry_of_lt inside]
      exact ⟨_, rfl, fun _ => inside⟩
  · exact ⟨false, rfl, fun available => nomatch available⟩

/-- An object gets an extent that `m_extents` has, if its own was one. -/
theorem addObject_ok (mgr : ObjectMgr) {extent : UInt16} (obj : Ref)
    (inside : extent.toNat < maxExtent + 1) :
    ∃ after, mgr.addObject obj extent = .ok after ∧ after.2.toNat < maxExtent + 1 := by
  unfold ObjectMgr.addObject
  rw [getObject_of_lt inside]
  change ∃ after, (if mgr.extents ⟨extent.toNat, inside⟩ = some obj then _ else _) = _ ∧ _
  split
  · exact ⟨_, rfl, inside⟩
  · obtain ⟨available, asks, proper⟩ := isExtentAvailable_ok mgr extent
    rw [asks]
    cases available with
    | true =>
        change ∃ after, (mgr.setEntry extent.toNat (some obj) >>= _) = _ ∧ _
        rw [setEntry_of_lt inside]
        exact ⟨_, rfl, inside⟩
    | false =>
        obtain ⟨free, requests, inside'⟩ := requestFrom_ok mgr 1
        change ∃ after, (mgr.requestFrom 1 >>= _) = _ ∧ _
        rw [requests]
        change ∃ after, (mgr.setEntry free.toNat (some obj) >>= _) = _ ∧ _
        rw [setEntry_of_lt inside']
        exact ⟨_, rfl, inside'⟩

theorem valid_addObject_iff {obj : Ref} {extent : UInt16} :
    Valid (mgr.addObject obj extent) ↔ extent.toNat < maxExtent + 1 := by
  constructor
  · intro valid
    exact valid_getObject_iff.mp (spares_bind_iff.mp valid).1
  · intro inside
    obtain ⟨after, adds, -⟩ := addObject_ok mgr obj inside
    rw [adds]
    exact spares_ok after

/-- Objects of a map are added without a misuse exactly if no extent is in the upper half. -/
theorem valid_addFromFile_iff {entries : List (Ref × UInt32)} : Valid (mgr.addFromFile entries) ↔
    ∀ entry ∈ entries, entry.2.toUInt16.toNat < maxExtent + 1 := by
  induction entries generalizing mgr with
  | nil => exact iff_of_true (spares_ok mgr) fun _ mem => absurd mem List.not_mem_nil
  | cons entry entries ih =>
      have first : Valid (mgr.addObject entry.1 entry.2.toUInt16) ↔
          entry.2.toUInt16.toNat < maxExtent + 1 := valid_addObject_iff
      rw [ObjectMgr.addFromFile, List.forall_mem_cons, ← first]
      refine spares_bind_iff.trans (and_congr_right fun valid => ?_)
      have inside := first.mp valid
      obtain ⟨after, adds, -⟩ := addObject_ok mgr entry.1 inside
      constructor
      · intro valid'
        exact ih.mp (valid' after adds)
      · intro rest after' adds'
        exact ih.mpr rest

/-- What was added is removed inside. -/
theorem valid_removeObject {obj : Ref} {extent : UInt16} (inside : extent.toNat < maxExtent + 1) :
    Valid (mgr.removeObject obj extent) := by
  unfold ObjectMgr.removeObject
  split
  · rw [setEntry_of_lt inside]
    exact spares_ok _
  · exact spares_ok mgr

end Extents

/-! ### What the objects' functions do with NULL -/

section Objects

variable {w : World} {plr x : Ref} {obj : Option Ref}

/-- NULL is not used as an object. -/
abbrev NeverNull {α : Type} (m : Except Possessions.Fault α) : Prop :=
  Spares (· = .nullPointer) m

theorem read_neverNull (w : World) (r : Ref) : NeverNull (Possessions.read w r) := by
  unfold Possessions.read
  cases w r with
  | none => exact spares_error_iff.mpr (by simp)
  | some o => exact spares_ok o

theorem dequip_neverNull (w : World) (plr : Ref) (obj : Option Ref) :
    NeverNull (dequip w plr obj) := by
  cases obj with
  | none => exact spares_ok _
  | some x =>
      apply Spares.bind (read_neverNull w x)
      intro o
      split
      · apply Spares.bind (read_neverNull w plr)
        intro u
        split
        · exact spares_ok _
        · exact spares_ok _
      · exact spares_ok _

theorem equip_neverNull (w : World) (plr : Ref) (obj : Option Ref) :
    NeverNull (equip w plr obj) := by
  cases obj with
  | none => exact spares_ok _
  | some x =>
      apply Spares.bind (read_neverNull w x)
      intro o
      split
      · split
        · exact spares_ok _
        · apply Spares.bind (dequip_neverNull w plr (some x))
          intro first
          apply Spares.bind (read_neverNull first.1 plr)
          intro u
          apply Spares.bind (dequip_neverNull first.1 plr _)
          intro second
          exact (read_neverNull second.1 plr).bind fun u' => spares_ok _
      · exact spares_ok _

theorem handlePickup_neverNull (w : World) (obj parent : Ref) :
    NeverNull (handlePickup w obj parent) := by
  apply Spares.bind (read_neverNull w obj)
  intro o
  have equips (w : World) : NeverNull (Possessions.read w parent >>= fun p =>
      if p.isUnit then equip w parent (some obj) >>= fun done => .ok done.1 else .ok w) := by
    apply Spares.bind (read_neverNull w parent)
    intro p
    split
    · exact (equip_neverNull w parent (some obj)).bind fun done => spares_ok _
    · exact spares_ok _
  dsimp only
  split
  · exact equips _
  · exact equips _
  · exact spares_ok _
  · exact spares_ok _

theorem objectPickup_neverNull (w : World) (holder x : Ref) :
    NeverNull (objectPickup w holder x) := by
  apply Spares.bind (read_neverNull w x)
  intro o
  split
  · apply Spares.bind (read_neverNull w holder)
    intro p
    exact (handlePickup_neverNull _ x holder).bind fun w' => spares_ok _
  · exact spares_ok _

/-- What is picked up must not be NULL. -/
theorem neverNull_pickup_iff {near : Bool} :
    NeverNull (pickup w plr obj near) ↔ obj ≠ none := by
  cases obj with
  | none => exact iff_of_false (fun never => never _ rfl rfl) fun there => there rfl
  | some x =>
      refine iff_of_true ?_ (Option.some_ne_none x)
      apply Spares.bind (read_neverNull w x)
      intro o
      split
      · exact objectPickup_neverNull w plr x
      · exact spares_ok _

theorem objectDrop_neverNull (w : World) (holder x : Ref) :
    NeverNull (objectDrop w holder x) := by
  apply Spares.bind (read_neverNull w holder)
  intro p
  split
  · refine Spares.bind ?_ fun w' => ?_
    · exact (read_neverNull _ x).bind fun o => spares_ok _
    · exact (read_neverNull w' x).bind fun o => spares_ok _
  · exact spares_ok _

theorem drop_neverNull (w : World) (plr : Ref) (obj : Option Ref) :
    NeverNull (drop w plr obj) := by
  cases obj with
  | none => exact spares_ok _
  | some x =>
      apply Spares.bind (read_neverNull w plr)
      intro p
      split
      · apply Spares.bind (dequip_neverNull w plr (some x))
        intro first
        apply Spares.bind (dequip_neverNull first.1 plr (some x))
        intro second
        exact objectDrop_neverNull second.1 plr x
      · exact spares_ok _

/-- What is done to the objects is valid if NULL is not used. -/
theorem valid_perform_iff {m : Except Possessions.Fault (World × Bool)} :
    Valid (perform m) ↔ NeverNull m := by
  cases m with
  | error fault =>
      have invalid : Invalid (.object fault) ↔ fault = .nullPointer := by
        simp [Invalid]
      have never : NeverNull (.error fault : Except Possessions.Fault (World × Bool)) ↔
          ¬ fault = .nullPointer := spares_error_iff
      exact spares_error_iff.trans ((not_congr invalid).trans never.symm)
  | ok done => exact iff_of_true (spares_ok _) (spares_ok _)

end Objects

/-! ### What the handlers do -/

section Handlers

variable {behind : Nat → UInt8} {mgr : ObjectMgr} {packet : WorldPacket}

/-- Of a packet that is long enough, what is behind it is not read. -/
theorem readUInt16_of_fits (behind : Nat → UInt8) {buffer : ByteBuffer}
    (fits : buffer.rpos + 2 ≤ buffer.size) :
    ByteBuffer.readUInt16 buffer = .ok (readUInt16 behind buffer) := by
  have first : buffer.rpos < buffer.storage.length := by
    unfold ByteBuffer.size at fits
    omega
  have second : buffer.rpos + 1 < buffer.storage.length := by
    unfold ByteBuffer.size at fits
    omega
  rw [ByteBuffer.readUInt16, Consume.run_bind_ok (ByteBuffer.read_eq_ok (by decide) fits),
    readUInt16, byteAt, byteAt, List.getElem?_eq_getElem first, List.getElem?_eq_getElem second,
    List.drop_eq_getElem_cons first, List.drop_eq_getElem_cons second]
  rfl

/-- After the object is looked up, a handler is valid if it is where the packet is proper. -/
theorem valid_readObject_iff (handler : Handler) {α : Type}
    {next : Option Ref × ByteBuffer → Except Misuse α}
    (valid_iff : ∀ found, Valid (next found) ↔ (handler = .tryGet → found.1 ≠ none)) :
    Valid (readObject behind mgr packet >>= next) ↔ Proper behind mgr packet handler := by
  unfold readObject Proper
  generalize readUInt16 behind packet.buffer = read
  obtain ⟨extent, buffer⟩ := read
  change Valid (mgr.getObject extent.toInt16 >>= (fun obj => .ok (obj, buffer)) >>= next) ↔
    ∃ inside : extent.toNat < maxExtent + 1, _
  by_cases inside : extent.toNat < maxExtent + 1
  · rw [getObject_of_lt inside]
    refine (valid_iff (mgr.extents ⟨extent.toNat, inside⟩, buffer)).trans ?_
    exact ⟨fun there => ⟨inside, there⟩, fun ⟨_, there⟩ => there⟩
  · obtain ⟨i, outside⟩ := getObject_of_not_lt mgr inside
    rw [outside]
    exact valid_index_iff.trans (iff_of_false id fun proper => inside proper.1)

/-- A handler uses extents and objects validly exactly if the packet is proper for it. -/
theorem valid_handle_iff (behind : Nat → UInt8) (mgr : ObjectMgr) (w : World) (plr : Ref)
    (near : Ref → Bool) (packet : WorldPacket) (handler : Handler) :
    Valid (handle behind mgr w plr near packet handler) ↔ Proper behind mgr packet handler := by
  cases handler with
  | tryDrop =>
      refine valid_readObject_iff .tryDrop fun found => iff_of_true ?_ (by simp)
      exact valid_perform_iff.mpr (drop_neverNull w plr found.1)
  | tryGet =>
      refine valid_readObject_iff .tryGet fun found => ?_
      exact valid_perform_iff.trans (neverNull_pickup_iff.trans (by simp))
  | tryUse =>
      exact valid_readObject_iff .tryUse fun found => iff_of_true (spares_ok w) (by simp)
  | tryEquip =>
      refine valid_readObject_iff .tryEquip fun found => iff_of_true ?_ (by simp)
      exact valid_perform_iff.mpr (equip_neverNull w plr found.1)
  | tryDequip =>
      refine valid_readObject_iff .tryDequip fun found => iff_of_true ?_ (by simp)
      exact valid_perform_iff.mpr (dequip_neverNull w plr found.1)
  | reportSecondaryWeapon =>
      exact valid_readObject_iff .reportSecondaryWeapon fun found =>
        iff_of_true (spares_ok w) (by simp)

end Handlers

/-- An object is added and removed, whatever comes between, without a misuse exactly if its extent
is not in the upper half. -/
theorem valid_add_remove_iff (mgr mgr' : ObjectMgr) (obj : Ref) (extent : UInt16) :
    Valid (mgr.addObject obj extent >>= fun after => mgr'.removeObject obj after.2) ↔
      extent.toNat < maxExtent + 1 := by
  constructor
  · intro valid
    exact valid_addObject_iff.mp (spares_bind_iff.mp valid).1
  · intro inside
    obtain ⟨after, adds, inside'⟩ := addObject_ok mgr obj inside
    rw [adds]
    exact valid_removeObject inside'

/-- **Extents and objects are used validly exactly if the extents that clients and map files give
are ones that `m_extents` has, and there is an object for those that are to be picked up.** The
extent of a client is the one the handler reads, which for a packet that is too short is what the
memory behind it holds; of a map file, the lower 16 bits of its field. -/
theorem extents_valid_iff (behind : Nat → UInt8) (mgr mgr' : ObjectMgr) :
    (∀ (w : World) (plr : Ref) (near : Ref → Bool) (packet : WorldPacket) (handler : Handler),
      Valid (handle behind mgr w plr near packet handler) ↔ Proper behind mgr packet handler) ∧
    (∀ entries : List (Ref × UInt32), Valid (mgr.addFromFile entries) ↔
      ∀ entry ∈ entries, entry.2.toUInt16.toNat < maxExtent + 1) ∧
    ∀ (obj : Ref) (extent : UInt16),
      Valid (mgr.addObject obj extent >>= fun after => mgr'.removeObject obj after.2) ↔
        extent.toNat < maxExtent + 1 :=
  ⟨valid_handle_iff behind mgr, fun _ => valid_addFromFile_iff, valid_add_remove_iff mgr mgr'⟩

def naming (extent : UInt16) : WorldPacket where
  endpoint := ⟨0, 0⟩
  buffer := { storage := ByteBuffer.toBytes 2 extent.toNat }

def noObjects : ObjectMgr := ⟨fun _ => none, ∅⟩

def zeros : Nat → UInt8 := fun _ => 0

def onePlayer : World := write nothing 1 { info := newPlayer, isUnit := true }

/-- A client names an extent of the upper half, or one to pick up that no object has; and a map has
an object with an extent of the upper half. -/
theorem extents_misused :
    ¬ Valid (handle zeros noObjects onePlayer 1 (fun _ => true) (naming 0x8000) .tryUse) ∧
    ¬ Valid (handle zeros noObjects onePlayer 1 (fun _ => true) (naming 5) .tryGet) ∧
    ¬ Valid (noObjects.addFromFile [(2, 0x8000)]) := by
  refine ⟨?_, ?_, ?_⟩
  · rw [valid_handle_iff]
    rintro ⟨inside, -⟩
    exact absurd inside (by decide)
  · rw [valid_handle_iff]
    rintro ⟨inside, there⟩
    exact there rfl rfl
  · rw [valid_addFromFile_iff]
    intro proper
    exact absurd (proper _ List.mem_cons_self) (by decide)

end Extents

end Awesie

end NoxServer
