import Mathlib.Data.Nat.Notation

/-!
The objects of thing.bin (`GNHTSTRUCT`, `MLIST<GNHT>`).

The list is a linked one with a cursor, which `Get()` moves on and `GetIndex` takes back to the
first entry. What a lookup gives is a pointer that is NULL past the end.
-/

namespace NoxServer.Objects

/-- `GNHT`: an entry, of which there is the name up to its NUL. -/
structure GNHT where
  name : List UInt8
  classes : UInt32 := 0
  deriving DecidableEq

def classImmobile : UInt32 := 0x00200000

/-- The entry has `CLASS_IMMOBILE`. -/
def GNHT.immobile (info : GNHT) : Bool := info.classes &&& classImmobile ≠ 0

/-- `MLIST<GNHT>`: the entries, and the place `cur` points to (NULL is the end). -/
structure ThingList where
  entries : List GNHT
  cur : Nat := 0

namespace ThingList

/-- `Get()`: the entry `cur` points to, and `cur` goes on; after the end comes the first. -/
def get (things : ThingList) : Option GNHT × ThingList :=
  match things.entries[things.cur]? with
  | some info => (some info, { things with cur := things.cur + 1 })
  | none => (none, { things with cur := 0 })

/-- `Get(number)`; a number past the end gives NULL. -/
def getAt (things : ThingList) (number : Nat) : Option GNHT := things.entries[number]?

@[simp] theorem get_entries (things : ThingList) : things.get.2.entries = things.entries := by
  unfold get
  split <;> rfl

/-- `strncmp(a, b, max) == 0`, of an `a` without its NUL. -/
def sameName (a b : List UInt8) (max : Nat) : Bool :=
  a.take max == (b.takeWhile fun c => c ≠ 0).take max

/-- The loop of `GetIndex`, with the number of entries it has passed. -/
def findIndex (name : List UInt8) (max : Nat) (id : UInt16) : List GNHT → UInt16
  | [] => 0
  | info :: entries =>
      if sameName info.name name max then id + 1 else findIndex name max (id + 1) entries

/-- `GetIndex(name, max)`: the loop starts where `cur` points to. -/
def getIndex (things : ThingList) (name : List UInt8) : UInt16 × ThingList :=
  (findIndex name (Nat.max 50 name.length) 0 (things.entries.drop things.cur),
    { things with cur := 0 })

/-- `GetObjectInfo()` of an object of the type: type 0 is `Get(-1)`, which is `Get()`. -/
def getObjectInfo (things : ThingList) (type : UInt16) : Option GNHT :=
  if type = 0 then things.get.1 else things.getAt (type.toNat - 1)

end ThingList

end NoxServer.Objects
