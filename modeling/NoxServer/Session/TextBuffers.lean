import Mathlib.Data.List.TakeWhile
import NoxServer.Library.Throws
import NoxServer.Session.Handlers

/-!
The buffers that texts are copied into.

`HandleTextMessageOpcode` and `HandleServerCmdOpcode` allocate an array of as many elements as the
packet says, copy as many from the packet and then write a zero to the last one, which an empty
array does not have. Every access is recorded with the array it is an access of. It is inside
exactly if the length in the packet is not zero (`accesses_inside_iff`).
-/

namespace NoxServer.Session

open ByteBuffer Consume

/-- An access of some bytes, from the first one on, of an array of `size` bytes. -/
structure Access where
  first : Int
  count : Nat
  size : Nat
  deriving DecidableEq

/-- The bytes are in the array. -/
def Access.Inside (a : Access) : Prop := a.count ≠ 0 → 0 ≤ a.first ∧ a.first + a.count ≤ a.size

/-- The packet that is read, and the accesses so far. -/
structure Copied where
  packet : ByteBuffer
  accesses : List Access := []

/-- A handler that copies from the packet. -/
abbrev Copying := ExceptT Fault (StateM Copied)

namespace Copying

/-- A read of numbers from the packet. -/
def reading {α : Type} (reader : Reader α) : Copying α := fun s =>
  match reader s.packet with
  | .ok (x, b) => (.ok x, { s with packet := b })
  | .error fault => (.error fault, s)

def access (a : Access) : Copying Unit := modify fun s => { s with accesses := s.accesses ++ [a] }

/-- `recvPacket.read((uint8*)buffer, length*element)`, into an array of as many elements. -/
def readInto (element length : Nat) : Copying (List UInt8) := do
  let bytes ← reading (read (length * element))
  access ⟨0, length * element, length * element⟩
  return bytes

/-- `buffer[length-1] = 0x0`. -/
def terminate (element length : Nat) : Copying Unit :=
  access ⟨((length : Int) - 1) * element, element, length * element⟩

/-- The bytes of a `%s`: those up to the first zero. -/
def stringRead (text : List UInt8) : Access :=
  ⟨0, (text.takeWhile fun c => c ≠ 0).length + 1, text.length⟩

/-- A `%s` of the buffer. -/
def printString (text : List UInt8) : Copying Unit := access (stringRead text)

end Copying

open Copying

def charSize : Nat := 1

/-- `sizeof(wchar_t)`, where this server is built. -/
def wcharSize : Nat := 2

/-- What `HandleTextMessageOpcode` reads before it allocates the buffer: the length. -/
def textHeader : Reader UInt16 := do
  readFields [2, 1, 2, 2]
  let length ← readUInt16
  readFields [1]
  return length

/-- `HandleTextMessageOpcode`. -/
def copyTextMessage (s : WorldSession) : Copying (WorldSession × List Output) := do
  let message ← reading get
  let length ← reading textHeader
  let text ← readInto charSize length.toNat
  terminate charSize length.toNat
  printString (text.set (length.toNat - 1) 0)
  let pend ← reading getRpos
  let bytes := (message.storage.drop message.rpos).take (pend - message.rpos)
  return (s, [.request (.sendPacketToAll (.ofPayload msgTextMessage 0 0 bytes))])

/-- What a server command reads before it allocates the buffer, if it is a text. -/
def cmdHeader : Reader UInt8 := do
  readFields [2]
  readUInt8

/-- The part of `HandleServerCmdOpcode` that depends on the first byte. -/
def copyServerCmdBody (kind : UInt8) : Copying Unit :=
  if kind = 2 then do
    let length ← reading cmdHeader
    let _ ← readInto wcharSize length.toNat
    terminate wcharSize length.toNat
    reading (readFields [1, 1])
  else reading (WorldSession.serverCmdBody kind)

/-- `HandleServerCmdOpcode`. -/
def copyServerCmd (s : WorldSession) : Copying (WorldSession × List Output) := do
  let kind ← reading readUInt8
  copyServerCmdBody kind
  return (s, [])

/-! ### The lengths in the packets -/

/-- What a read gives, if it fits. -/
def readValue {α : Type} (reader : Reader α) (b : ByteBuffer) : Option α :=
  match reader b with
  | .ok (x, _) => some x
  | .error _ => none

/-- The length a text message has for its text. -/
def textLength (b : ByteBuffer) : Option Nat := (readValue textHeader b).map UInt16.toNat

/-- The length a server command has for its text, if it has one. -/
def cmdLength (b : ByteBuffer) : Option Nat :=
  match readUInt8 b with
  | .ok (kind, b) => if kind = 2 then (readValue cmdHeader b).map UInt8.toNat else none
  | .error _ => none

/-! ### Accesses -/

section Copying

variable {α β : Type}

theorem reading_bind_ok {reader : Reader α} {next : α → Copying β} {s : Copied} {x : α}
    {b : ByteBuffer} (run : reader s.packet = .ok (x, b)) :
    (reading reader >>= next) s = next x { s with packet := b } := by
  refine Throws.run_bind_ok ?_
  rw [reading, run]

theorem reading_bind_error {reader : Reader α} {next : α → Copying β} {s : Copied} {fault : Fault}
    (run : reader s.packet = .error fault) : (reading reader >>= next) s = (.error fault, s) := by
  refine Throws.run_bind_error ?_
  rw [reading, run]

/-- Reads access no buffer. -/
theorem leaves_reading (reader : Reader α) : Throws.Leaves Copied.accesses (reading reader) := by
  intro s
  unfold reading
  split
  · rfl
  · rfl

/-- A copy that does not fit the packet is not made; an empty one always fits. -/
theorem readInto_cases (element length : Nat) (s : Copied) :
    (∃ fault, readInto element length s = (.error fault, s) ∧ length ≠ 0) ∨
      ∃ bytes b, bytes.length = length * element ∧
        readInto element length s =
          (.ok bytes, ⟨b, s.accesses ++ [⟨0, length * element, length * element⟩]⟩) := by
  have yields := read_yields (length * element) s.packet
  cases run : read (length * element) s.packet with
  | error fault =>
      refine .inl ⟨fault, reading_bind_error run, ?_⟩
      rintro rfl
      rw [Nat.zero_mul] at run
      cases run
  | ok out =>
      obtain ⟨bytes, b⟩ := out
      refine .inr ⟨bytes, b, ?_, reading_bind_ok run⟩
      rw [run] at yields
      exact length_read run

theorem inside_copy (size : Nat) : Access.Inside ⟨0, size, size⟩ :=
  fun _ => ⟨Int.le_refl 0, by simp⟩

/-- The last element is there exactly if there is one. -/
theorem inside_terminate_iff {element : Nat} (wide : 0 < element) (length : Nat) :
    Access.Inside ⟨((length : Int) - 1) * element, element, length * element⟩ ↔ length ≠ 0 := by
  unfold Access.Inside
  dsimp only
  cases length with
  | zero =>
      refine iff_of_false (fun inside => ?_) (not_not_intro rfl)
      have first := (inside (Nat.pos_iff_ne_zero.mp wide)).1
      push_cast at first
      omega
  | succ last =>
      refine iff_of_true (fun _ => ?_) (Nat.succ_ne_zero last)
      have before : ((last + 1 : Nat) : Int) - 1 = last := by omega
      rw [before]
      refine ⟨Int.mul_nonneg (by omega) (by omega), Int.le_of_eq ?_⟩
      rw [Nat.succ_mul, Int.natCast_add, Int.natCast_mul]

/-- A text with a zero in it is read up to there at most. -/
theorem inside_stringRead {text : List UInt8} (ended : 0 ∈ text) :
    (stringRead text).Inside := by
  intro _
  unfold stringRead
  have shorter : (text.takeWhile fun c => c ≠ 0).length < text.length := by
    have before : (text.takeWhile fun c => c ≠ 0) <+: text := List.takeWhile_prefix _
    refine Nat.lt_of_le_of_ne before.length_le fun same => ?_
    have none := List.takeWhile_eq_self_iff.mp (before.eq_of_length same) 0 ended
    simp at none
  refine ⟨Int.le_refl 0, ?_⟩
  dsimp only
  omega

theorem mem_set_last {text : List UInt8} (some : text.length ≠ 0) :
    0 ∈ text.set (text.length - 1) 0 :=
  List.mem_set (by omega) 0

theorem access_bind {a : Access} {next : Unit → Copying β} (s : Copied) :
    (access a >>= next) s = next () { s with accesses := s.accesses ++ [a] } :=
  Throws.run_bind_ok rfl

end Copying

/-- Whatever is left in the packet, the accesses of a text of this length are inside exactly if
it is not empty. -/
theorem inside_readInto_iff {α : Type} {element length : Nat} (wide : 0 < element)
    {next : List UInt8 → Copying α} (more : List UInt8 → List Access)
    (adds : ∀ bytes s, (next bytes s).2.accesses = s.accesses ++
      ⟨((length : Int) - 1) * element, element, length * element⟩ :: more bytes)
    (inside : ∀ bytes, bytes.length = length * element → length ≠ 0 →
      ∀ a ∈ more bytes, a.Inside)
    {s : Copied} (none : s.accesses = []) :
    (∀ a ∈ ((readInto element length >>= next) s).2.accesses, a.Inside) ↔ length ≠ 0 := by
  rcases readInto_cases element length s with ⟨fault, run, some⟩ | ⟨bytes, b, size, run⟩
  · rw [Throws.run_bind_error run, none]
    exact iff_of_true (fun a mem => absurd mem List.not_mem_nil) some
  · rw [Throws.run_bind_ok run, adds, none]
    constructor
    · intro all
      refine (inside_terminate_iff wide length).mp (all _ ?_)
      exact List.mem_append_right _ List.mem_cons_self
    · intro some a mem
      rw [List.nil_append, List.singleton_append, List.mem_cons, List.mem_cons] at mem
      rcases mem with rfl | rfl | mem
      · exact inside_copy _
      · exact (inside_terminate_iff wide length).mpr some
      · exact inside bytes size some a mem

/-- The accesses `HandleTextMessageOpcode` makes to its buffer are inside exactly if the text is
not empty. -/
theorem copyTextMessage_inside_iff (s : WorldSession) (b : ByteBuffer) :
    (∀ a ∈ (copyTextMessage s { packet := b }).2.accesses, a.Inside) ↔
      textLength b ≠ some 0 := by
  have before : copyTextMessage s { packet := b } = _ := reading_bind_ok (b := b) (x := b) rfl
  rw [before, textLength, readValue]
  cases run : textHeader b with
  | error fault =>
      rw [reading_bind_error run]
      exact iff_of_true (fun a mem => absurd mem List.not_mem_nil) nofun
  | ok out =>
      obtain ⟨length, rest⟩ := out
      rw [reading_bind_ok run, Option.map_some, Ne, Option.some_inj]
      refine inside_readInto_iff Nat.one_pos
        (fun text => [stringRead (text.set (length.toNat - 1) 0)]) ?_ ?_ rfl
      · intro text t
        rw [terminate, access_bind, printString, access_bind]
        exact List.append_assoc _ [_] [_]
      · intro text size some a mem
        rw [List.mem_singleton.mp mem]
        have same : text.length = length.toNat := size.trans (Nat.mul_one _)
        exact inside_stringRead (same ▸ mem_set_last (same ▸ some))

/-- The accesses `HandleServerCmdOpcode` makes to its buffer are inside exactly if the text is
not empty. -/
theorem copyServerCmd_inside_iff (s : WorldSession) (b : ByteBuffer) :
    (∀ a ∈ (copyServerCmd s { packet := b }).2.accesses, a.Inside) ↔ cmdLength b ≠ some 0 := by
  unfold copyServerCmd cmdLength
  cases first : readUInt8 b with
  | error fault =>
      rw [reading_bind_error first]
      exact iff_of_true (fun a mem => absurd mem List.not_mem_nil) nofun
  | ok out =>
      obtain ⟨kind, rest⟩ := out
      rw [reading_bind_ok first,
        Throws.seen_bind fun _ => (Throws.leaves_pure _ : Throws.Leaves Copied.accesses _)]
      dsimp only
      unfold copyServerCmdBody
      split
      · next text =>
          rw [readValue]
          cases run : cmdHeader rest with
          | error fault =>
              rw [reading_bind_error run]
              exact iff_of_true (fun a mem => absurd mem List.not_mem_nil) nofun
          | ok out =>
              obtain ⟨length, rest⟩ := out
              rw [reading_bind_ok run, Option.map_some, Ne, Option.some_inj]
              refine inside_readInto_iff Nat.two_pos (fun _ => []) (fun text t => ?_)
                (fun _ _ _ a mem => absurd mem List.not_mem_nil) rfl
              rw [terminate, access_bind]
              exact leaves_reading _ _
      · rw [leaves_reading]
        exact iff_of_true (fun a mem => absurd mem List.not_mem_nil) nofun

/-- No handler of texts accesses its buffer outside exactly if its text is not empty: the end of the
text is written to its last place, which for a buffer of none is in front of it. A packet that ends
before the buffer is made declares no length. -/
theorem accesses_inside_iff (s : WorldSession) (b : ByteBuffer) :
    ((∀ a ∈ (copyTextMessage s { packet := b }).2.accesses, a.Inside) ↔
      textLength b ≠ some 0) ∧
    ((∀ a ∈ (copyServerCmd s { packet := b }).2.accesses, a.Inside) ↔ cmdLength b ≠ some 0) :=
  ⟨copyTextMessage_inside_iff s b, copyServerCmd_inside_iff s b⟩

/-- A text message whose text is empty. -/
def emptyText : ByteBuffer where
  storage := [3, 0, 0, 100, 0, 100, 0, 0, 0, 0]
  rpos := 0
  wpos := 10

/-- The zero is written before the first byte of an empty buffer. -/
theorem emptyText_outside :
    ¬ ∀ a ∈ (copyTextMessage (.create 0) { packet := emptyText }).2.accesses, a.Inside := by
  intro inside
  exact (copyTextMessage_inside_iff (.create 0) emptyText).mp inside rfl

/-! ### The handlers without their buffers -/

/-- Where the reader gives a value, the copying handler gives it and reads as far; where it
stops, so does the handler. -/
def Follows {α : Type} (copying : Copying α) (reader : Reader α) : Prop :=
  ∀ s, match reader s.packet with
    | .ok (x, b) => ∃ accesses, copying s = (.ok x, ⟨b, accesses⟩)
    | .error fault => ∃ t, copying s = (.error fault, t)

namespace Follows

variable {α β : Type}

theorem reading (reader : Reader α) : Follows (reading reader) reader := by
  intro s
  unfold Copying.reading
  split
  · exact ⟨s.accesses, rfl⟩
  · exact ⟨s, rfl⟩

theorem pure (x : α) : Follows (pure x) (pure x) :=
  fun s => ⟨s.accesses, rfl⟩

theorem bind {copying : Copying α} {reader : Reader α} {next : α → Copying β}
    {next' : α → Reader β} (follows : Follows copying reader)
    (follows' : ∀ x, Follows (next x) (next' x)) :
    Follows (copying >>= next) (reader >>= next') := by
  intro s
  have here := follows s
  cases run : reader s.packet with
  | error fault =>
      rw [run] at here
      obtain ⟨t, stops⟩ := here
      rw [run_bind_error run]
      exact ⟨t, Throws.run_bind_error stops⟩
  | ok out =>
      rw [run] at here
      obtain ⟨accesses, goes⟩ := here
      rw [run_bind_ok run, Throws.run_bind_ok goes]
      exact follows' out.1 ⟨out.2, accesses⟩

theorem access {copying : Copying α} {reader : Reader α} (a : Access)
    (follows : Follows copying reader) :
    Follows (Copying.access a >>= fun _ => copying) reader := by
  intro s
  rw [access_bind]
  exact follows { s with accesses := s.accesses ++ [a] }

theorem readInto {element length size : Nat} (sized : size = length * element)
    {next : List UInt8 → Copying α} {next' : Reader α}
    (follows : ∀ bytes, Follows (next bytes) next') :
    Follows (readInto element length >>= next) (readFields [size] >>= fun _ => next') := by
  subst sized
  have read : Follows (Copying.readInto element length >>= next)
      (read (length * element) >>= fun _ => next') := by
    unfold Copying.readInto
    simp only [bind_assoc, pure_bind]
    exact (reading _).bind fun bytes => (follows bytes).access _
  simpa only [readFields, bind_assoc, pure_bind] using read

end Follows

/-- Without its buffer the handler of texts is the one of the session. -/
theorem copyTextMessage_follows (s : WorldSession) :
    Follows (copyTextMessage s) s.handleTextMessageOpcode := by
  unfold copyTextMessage WorldSession.handleTextMessageOpcode
  refine (Follows.reading get).bind fun message => ?_
  have same (next : UInt16 → Handling) : (textHeader >>= next) =
      (readFields [2, 1, 2, 2] >>= fun _ => readUInt16 >>= fun length =>
        readFields [1] >>= fun _ => next length) := by
    simp only [textHeader, bind_assoc, pure_bind]
  rw [← same]
  refine (Follows.reading textHeader).bind fun length => ?_
  refine Follows.readInto (Nat.mul_one _).symm fun text => ?_
  refine Follows.access _ (Follows.access _ ?_)
  exact (Follows.reading getRpos).bind fun pend => Follows.pure _

/-- Without its buffer the handler of server commands is the one of the session. -/
theorem copyServerCmd_follows (s : WorldSession) :
    Follows (copyServerCmd s) s.handleServerCmdOpcode := by
  refine (Follows.reading readUInt8).bind fun kind => Follows.bind ?_ fun _ => Follows.pure _
  unfold copyServerCmdBody
  split
  · next text =>
      subst text
      have same : WorldSession.serverCmdBody 2 = (cmdHeader >>= fun length =>
          readFields [length.toNat * 2] >>= fun _ => readFields [1, 1]) := by
        simp only [WorldSession.serverCmdBody, cmdHeader, bind_assoc]
      rw [same]
      refine (Follows.reading cmdHeader).bind fun length => ?_
      exact Follows.readInto rfl fun _ => Follows.access _ (Follows.reading _)
  · exact Follows.reading _

end NoxServer.Session
