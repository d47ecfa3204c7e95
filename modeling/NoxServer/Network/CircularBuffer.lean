import NoxServer.Library.CString
import NoxServer.Library.DoubledRing
import NoxServer.Shared.Errors

/-!
`CircularBuffer` (`shared/Network/CircularBuffer.cpp`): the input and the output buffer of a
`TcpSocket`.

The array has twice the size of the buffer, so that what is in the buffer can be sent from
`GetStart()` in one piece. Whatever is written, read and removed in whatever order, the buffer
answers as a queue of bytes would that has room for `m_max` of them, and no copy leaves the array
(`run_answers_as_queue`).
-/

namespace NoxServer.Network

open DoubledRing

/-- `m_count` is an `unsigned long`, of 32 bits here. `m_owner` is left out, as it is only told of
errors. -/
structure CircularBuffer where
  buf : List UInt8
  max : Nat
  q : Nat := 0
  b : Nat := 0
  t : Nat := 0
  count : UInt32 := 0

namespace CircularBuffer

/-! ### The functions of the source -/

/-- `CircularBuffer(owner, size)`, with what `new char[2 * size]` happens to hold. -/
def new {size : Nat} (memory : Vector UInt8 (2 * size)) : CircularBuffer where
  buf := memory.toList
  max := size

/-- `memcpy` to a place in `buf`. -/
def copyIn (c : CircularBuffer) (pos : Nat) (s : List UInt8) : Except Fault CircularBuffer :=
  if pos + s.length ≤ c.buf.length then .ok { c with buf := overwrite c.buf pos s }
  else .error .outOfBounds

/-- `memcpy` from a place in `buf`. -/
def copyOut (c : CircularBuffer) (pos l : Nat) : Except Fault (List UInt8) :=
  if pos + l ≤ c.buf.length then .ok (window c.buf pos l) else .error .outOfBounds

def write (c : CircularBuffer) (s : List UInt8) : Except Fault (Bool × CircularBuffer) :=
  if c.max < c.q + s.length then .ok (false, c)
  else
    let counted := { c with count := c.count + UInt32.ofNat s.length }
    if c.max < c.t + s.length then
      -- The block crosses the border.
      let l1 := c.max - c.t
      counted.copyIn c.t s >>= fun c1 => c1.copyIn 0 (s.drop l1) >>= fun c2 =>
        .ok (true, { c2 with t := s.length - l1, q := c.q + s.length })
    else
      counted.copyIn c.t s >>= fun c1 => c1.copyIn (c.max + c.t) s >>= fun c2 =>
        let t := c.t + s.length
        .ok (true, { c2 with t := if c.max ≤ t then t - c.max else t, q := c.q + s.length })

/-- What `Read` and `SoftRead` copy to `s`. -/
def copied (c : CircularBuffer) (l : Nat) : Except Fault (List UInt8) :=
  if c.max < c.b + l then
    let l1 := c.max - c.b
    c.copyOut c.b l1 >>= fun first => c.copyOut 0 (l - l1) >>= fun second => .ok (first ++ second)
  else c.copyOut c.b l

/-- What `Read` does to the buffer. -/
def taken (c : CircularBuffer) (l : Nat) : CircularBuffer :=
  let c :=
    if c.max < c.b + l then { c with b := l - (c.max - c.b), q := c.q - l }
    else
      let b := c.b + l
      { c with b := if c.max ≤ b then b - c.max else b, q := c.q - l }
  if c.q = 0 then { c with b := 0, t := 0 } else c

/-- `Read(s, l)`; none when it fails. -/
def read (c : CircularBuffer) (l : Nat) : Except Fault (Option (List UInt8) × CircularBuffer) :=
  if c.q < l then .ok (none, c)
  else c.copied l >>= fun bytes => .ok (some bytes, c.taken l)

/-- `SoftRead(s, l)`; none when it fails. -/
def softRead (c : CircularBuffer) (l : Nat) : Except Fault (Option (List UInt8)) :=
  if c.q < l then .ok none else some <$> c.copied l

/-- `Remove(l)`, which is `Read(NULL, l)`. -/
def remove (c : CircularBuffer) (l : Nat) : Bool × CircularBuffer :=
  if c.q < l then (false, c) else (true, c.taken l)

def getLength (c : CircularBuffer) : Nat := c.q

/-- `GetStart()`, as a place in `buf`. -/
def getStart (c : CircularBuffer) : Nat := c.b

def getL (c : CircularBuffer) : Nat := if c.max < c.b + c.q then c.max - c.b else c.q

def space (c : CircularBuffer) : Nat := c.max - c.q

def byteCounter (c : CircularBuffer) (clear : Bool) : UInt32 × CircularBuffer :=
  (c.count, if clear then { c with count := 0 } else c)

def readString (c : CircularBuffer) (l : Nat) : Except Fault (List UInt8 × CircularBuffer) :=
  c.read l >>= fun read => .ok ((read.1.map CString.text).getD [], read.2)

/-! ### One call -/

/-- What a buffer is for: a queue, and a count of the bytes that were put into it. -/
structure Queue where
  bytes : List UInt8 := []
  count : UInt32 := 0

/-- The buffer holds a queue. -/
structure Stores (c : CircularBuffer) (queue : Queue) : Prop where
  holds : Holds c.max c.buf c.b queue.bytes
  length : c.q = queue.bytes.length
  top : c.t = advance c.max c.b queue.bytes.length
  count : c.count = queue.count

section Calls

variable {c : CircularBuffer} {queue : Queue}

theorem new_stores {size : Nat} (memory : Vector UInt8 (2 * size)) : (new memory).Stores {} where
  holds := Holds.nil (by simp [new, Nat.two_mul])
  length := rfl
  top := by
    unfold advance
    split <;> simp [new]
  count := rfl

theorem Stores.top_le (stores : c.Stores queue) : c.t ≤ c.max := by
  have lower := advance_lower stores.holds.lower stores.holds.fits
  rw [← stores.top] at lower
  omega

theorem Stores.bottom_le (stores : c.Stores queue) : c.b ≤ c.max := by
  have lower := stores.holds.lower
  omega

/-- The two copies of `Write`. -/
theorem write_eq (room : c.buf.length = c.max + c.max) (top : c.t ≤ c.max) (s : List UInt8)
    (enough : c.q + s.length ≤ c.max) :
    c.write s = .ok (true, { c with
      buf := store c.max c.buf c.t s
      t := advance c.max c.t s.length
      q := c.q + s.length
      count := c.count + UInt32.ofNat s.length }) := by
  have first : c.t + s.length ≤ c.buf.length := by omega
  have kept := length_overwrite first
  rw [write, if_neg (Nat.not_lt.mpr enough)]
  by_cases crosses : c.max < c.t + s.length
  · have second : 0 + (s.drop (c.max - c.t)).length ≤ (overwrite c.buf c.t s).length := by
      rw [kept, List.length_drop]
      omega
    have above : ¬c.t + s.length < c.max := by omega
    have next : s.length - (c.max - c.t) = c.t + s.length - c.max := by omega
    simp only [if_pos crosses, copyIn, if_pos first, if_pos second, ok_bind, store, advance,
      if_neg above, next]
  · have second : c.max + c.t + s.length ≤ (overwrite c.buf c.t s).length := by omega
    simp only [if_neg crosses, copyIn, if_pos first, if_pos second, ok_bind, store, advance]
    by_cases reaches : c.max ≤ c.t + s.length
    · rw [if_pos reaches, if_neg (Nat.not_lt.mpr reaches)]
    · rw [if_neg reaches, if_pos (Nat.lt_of_not_le reaches)]

theorem advance_advance {half pos count more : Nat} (lower : pos = 0 ∨ pos < half)
    (fits : count + more ≤ half) :
    advance half (advance half pos count) more = advance half pos (count + more) := by
  unfold advance
  grind

/-- `Write` puts all of a block at the end of the queue, or nothing. -/
theorem Stores.write (stores : c.Stores queue) (s : List UInt8) :
    ∃ c', c.write s = .ok ((enqueue c.max queue.bytes s).isSome, c') ∧ c'.max = c.max ∧
      c'.Stores (match enqueue c.max queue.bytes s with
        | none => queue
        | some bytes => ⟨bytes, queue.count + UInt32.ofNat s.length⟩) := by
  have length := stores.length
  unfold enqueue
  by_cases enough : queue.bytes.length + s.length ≤ c.max
  · have written := write_eq stores.holds.room stores.top_le s (by omega)
    rw [if_pos enough]
    refine ⟨_, written, rfl, ?_, ?_, ?_, ?_⟩
    · simpa only [stores.top] using stores.holds.append enough
    · rw [List.length_append, length]
    · rw [List.length_append, stores.top, advance_advance stores.holds.lower enough]
    · rw [stores.count]
  · rw [if_neg enough]
    refine ⟨c, ?_, rfl, stores⟩
    rw [CircularBuffer.write, if_pos (by omega)]
    rfl

/-- What `Read` copies are the first bytes of the queue. -/
theorem Stores.copied (stores : c.Stores queue) {l : Nat} (short : l ≤ queue.bytes.length) :
    c.copied l = .ok (queue.bytes.take l) := by
  have room := stores.holds.room
  have fits := stores.holds.fits
  have bottom := stores.bottom_le
  unfold CircularBuffer.copied copyOut
  by_cases crosses : c.max < c.b + l
  · simp only [if_pos crosses, if_pos (show c.b + (c.max - c.b) ≤ c.buf.length by omega),
      if_pos (show 0 + (l - (c.max - c.b)) ≤ c.buf.length by omega), ok_bind]
    rw [stores.holds.windows_eq short crosses]
  · rw [if_neg crosses, if_pos (by omega), stores.holds.window_eq short]

/-- `Read` takes the first bytes from the queue. -/
theorem Stores.taken (stores : c.Stores queue) {l : Nat} (short : l ≤ queue.bytes.length) :
    (c.taken l).max = c.max ∧ (c.taken l).Stores { queue with bytes := queue.bytes.drop l } := by
  have length := stores.length
  have fits := stores.holds.fits
  have bottom : (if c.max < c.b + l then l - (c.max - c.b)
      else if c.max ≤ c.b + l then c.b + l - c.max else c.b + l) = advance c.max c.b l := by
    have lower := stores.bottom_le
    unfold advance
    grind
  have shape : c.taken l =
      if c.q - l = 0 then { c with b := 0, t := 0, q := c.q - l }
      else { c with b := advance c.max c.b l, q := c.q - l } := by
    rw [← bottom]
    unfold CircularBuffer.taken
    by_cases crosses : c.max < c.b + l <;> by_cases empty : c.q - l = 0 <;>
      simp [crosses, empty]
  have dropped := stores.holds.drop short
  rw [shape]
  by_cases empty : c.q - l = 0
  · rw [if_pos empty]
    have gone : queue.bytes.drop l = [] := List.drop_eq_nil_of_le (by omega)
    rw [gone] at dropped ⊢
    refine ⟨rfl, dropped.restart, empty, ?_, stores.count⟩
    simp [advance]
  · rw [if_neg empty]
    refine ⟨rfl, dropped, ?_, ?_, stores.count⟩
    · rw [List.length_drop, length]
    · rw [List.length_drop, advance_advance stores.holds.lower (by omega), stores.top]
      congr 1
      omega

theorem Stores.read (stores : c.Stores queue) (l : Nat) :
    ∃ c', c.read l = .ok ((dequeue queue.bytes l).map Prod.fst, c') ∧ c'.max = c.max ∧
      c'.Stores
        { queue with bytes := ((dequeue queue.bytes l).map Prod.snd).getD queue.bytes } := by
  have length := stores.length
  unfold CircularBuffer.read dequeue
  by_cases short : l ≤ queue.bytes.length
  · have after := stores.taken short
    rw [if_neg (by omega), if_pos short, stores.copied short]
    exact ⟨_, rfl, after.1, after.2⟩
  · rw [if_pos (by omega), if_neg short]
    exact ⟨c, rfl, rfl, stores⟩

theorem Stores.softRead (stores : c.Stores queue) (l : Nat) :
    c.softRead l = .ok ((dequeue queue.bytes l).map Prod.fst) := by
  have length := stores.length
  unfold CircularBuffer.softRead dequeue
  by_cases short : l ≤ queue.bytes.length
  · rw [if_neg (by omega), if_pos short, stores.copied short]
    rfl
  · rw [if_pos (by omega), if_neg short]
    rfl

theorem Stores.remove (stores : c.Stores queue) (l : Nat) :
    (c.remove l).1 = (dequeue queue.bytes l).isSome ∧ (c.remove l).2.max = c.max ∧
      (c.remove l).2.Stores
        { queue with bytes := ((dequeue queue.bytes l).map Prod.snd).getD queue.bytes } := by
  have length := stores.length
  unfold CircularBuffer.remove dequeue
  by_cases short : l ≤ queue.bytes.length
  · have after := stores.taken short
    rw [if_neg (by omega), if_pos short]
    exact ⟨rfl, after.1, after.2⟩
  · rw [if_pos (by omega), if_neg short]
    exact ⟨rfl, rfl, stores⟩

/-- What is in the buffer can be copied from `GetStart()` in one piece. -/
theorem Stores.start (stores : c.Stores queue) {l : Nat} (short : l ≤ c.getLength) :
    c.copyOut c.getStart l = .ok (queue.bytes.take l) := by
  have room := stores.holds.room
  have fits := stores.holds.fits
  have bottom := stores.bottom_le
  rw [getLength, stores.length] at short
  rw [copyOut, getStart, if_pos (by omega), stores.holds.window_eq short]

end Calls

/-! ### Runs -/

/-- A call of a function of the buffer. -/
inductive Call where
  | write (s : List UInt8)
  | read (l : Nat)
  | softRead (l : Nat)
  | remove (l : Nat)
  | readString (l : Nat)
  | byteCounter (clear : Bool)

/-- What a call answers. -/
inductive Answer where
  | ok (ok : Bool)
  | bytes (bytes : Option (List UInt8))
  | text (text : List UInt8)
  | count (count : UInt32)
  deriving DecidableEq

/-- A call of the buffer. -/
def Call.on (c : CircularBuffer) : Call → Except Fault (Answer × CircularBuffer)
  | .write s => c.write s >>= fun result => .ok (.ok result.1, result.2)
  | .read l => c.read l >>= fun result => .ok (.bytes result.1, result.2)
  | .softRead l => c.softRead l >>= fun result => .ok (.bytes result, c)
  | .remove l => .ok (.ok (c.remove l).1, (c.remove l).2)
  | .readString l => c.readString l >>= fun result => .ok (.text result.1, result.2)
  | .byteCounter clear => .ok (.count (c.byteCounter clear).1, (c.byteCounter clear).2)

/-- The same call of a queue with room for some bytes. -/
def Call.onQueue (room : Nat) (queue : Queue) : Call → Answer × Queue
  | .write s =>
      match enqueue room queue.bytes s with
      | none => (.ok false, queue)
      | some bytes => (.ok true, ⟨bytes, queue.count + UInt32.ofNat s.length⟩)
  | .read l =>
      match dequeue queue.bytes l with
      | none => (.bytes none, queue)
      | some (first, rest) => (.bytes (some first), { queue with bytes := rest })
  | .softRead l => (.bytes ((dequeue queue.bytes l).map Prod.fst), queue)
  | .remove l =>
      match dequeue queue.bytes l with
      | none => (.ok false, queue)
      | some (_, rest) => (.ok true, { queue with bytes := rest })
  | .readString l =>
      match dequeue queue.bytes l with
      | none => (.text [], queue)
      | some (first, rest) => (.text (CString.text first), { queue with bytes := rest })
  | .byteCounter clear => (.count queue.count, if clear then { queue with count := 0 } else queue)

/-- Some calls, with what each of them answers. -/
def run (c : CircularBuffer) : List Call → Except Fault (List Answer × CircularBuffer)
  | [] => .ok ([], c)
  | call :: calls =>
      call.on c >>= fun result => run result.2 calls >>= fun rest =>
        .ok (result.1 :: rest.1, rest.2)

/-- The same calls of a queue. -/
def runQueue (room : Nat) (queue : Queue) : List Call → List Answer × Queue
  | [] => ([], queue)
  | call :: calls =>
      let result := call.onQueue room queue
      let rest := runQueue room result.2 calls
      (result.1 :: rest.1, rest.2)

/-- Every call answers as that of the queue does. -/
theorem Stores.call {c : CircularBuffer} {queue : Queue} (stores : c.Stores queue) (call : Call) :
    ∃ c', call.on c = .ok ((call.onQueue c.max queue).1, c') ∧ c'.max = c.max ∧
      c'.Stores (call.onQueue c.max queue).2 := by
  cases call with
  | write s =>
      obtain ⟨c', written, max, after⟩ := stores.write s
      refine ⟨c', ?_, max, ?_⟩
      · simp only [Call.on, written, ok_bind, Call.onQueue]
        cases enqueue c.max queue.bytes s <;> rfl
      · simp only [Call.onQueue]
        cases kept : enqueue c.max queue.bytes s <;> simpa only [kept] using after
  | read l =>
      obtain ⟨c', read, max, after⟩ := stores.read l
      refine ⟨c', ?_, max, ?_⟩
      · simp only [Call.on, read, ok_bind, Call.onQueue]
        cases dequeue queue.bytes l <;> rfl
      · simp only [Call.onQueue]
        cases first : dequeue queue.bytes l <;> simpa [first] using after
  | softRead l =>
      refine ⟨c, ?_, rfl, stores⟩
      simp only [Call.on, stores.softRead l, ok_bind, Call.onQueue]
  | remove l =>
      obtain ⟨removed, max, after⟩ := stores.remove l
      refine ⟨_, ?_, max, ?_⟩
      · simp only [Call.on, removed, Call.onQueue]
        cases dequeue queue.bytes l <;> rfl
      · simp only [Call.onQueue]
        cases first : dequeue queue.bytes l <;> simpa [first] using after
  | readString l =>
      obtain ⟨c', read, max, after⟩ := stores.read l
      refine ⟨c', ?_, max, ?_⟩
      · simp only [Call.on, readString, read, ok_bind, Call.onQueue]
        cases dequeue queue.bytes l <;> rfl
      · simp only [Call.onQueue]
        cases first : dequeue queue.bytes l <;> simpa [first] using after
  | byteCounter clear =>
      refine ⟨(c.byteCounter clear).2, ?_, ?_, ?_⟩
      · simp only [Call.on, byteCounter, stores.count, Call.onQueue]
      · cases clear <;> rfl
      · cases clear with
        | false => exact stores
        | true => exact ⟨stores.holds, stores.length, stores.top, rfl⟩

theorem Stores.run {c : CircularBuffer} {queue : Queue} (stores : c.Stores queue)
    (calls : List Call) :
    ∃ c', c.run calls = .ok ((runQueue c.max queue calls).1, c') ∧ c'.max = c.max ∧
      c'.Stores (runQueue c.max queue calls).2 := by
  induction calls generalizing c queue with
  | nil => exact ⟨c, rfl, rfl, stores⟩
  | cons call calls ih =>
      obtain ⟨next, called, max, between⟩ := stores.call call
      obtain ⟨c', ran, max', after⟩ := ih between
      rw [max] at ran after max'
      refine ⟨c', ?_, max', after⟩
      simp only [CircularBuffer.run, called, ok_bind, ran, runQueue]

/-- Every run of a new buffer completes, and each call answers what it would answer of a queue with
as much room: the queue refuses what does not fit and what is not there. In the end both have as
many bytes and as much room. -/
theorem run_answers_as_queue {size : Nat} (memory : Vector UInt8 (2 * size)) (calls : List Call) :
    ∃ c, (new memory).run calls = .ok ((runQueue size {} calls).1, c) ∧
      c.getLength = (runQueue size {} calls).2.bytes.length ∧
      c.space = size - (runQueue size {} calls).2.bytes.length := by
  obtain ⟨c, ran, max, stores⟩ := (new_stores memory).run calls
  refine ⟨c, ran, stores.length, ?_⟩
  rw [space, max, stores.length]
  rfl

/-- After every run, what is in the buffer stands at `GetStart()` in one piece, also where the ring
wraps, and its first `GetL()` bytes are before the border: all of it, or as many as there are up to
the border. -/
theorem run_start {size : Nat} (memory : Vector UInt8 (2 * size)) (calls : List Call) :
    ∃ answers c, (new memory).run calls = .ok (answers, c) ∧
      c.copyOut c.getStart c.getLength = .ok (runQueue size {} calls).2.bytes ∧
      c.getStart + c.getL ≤ size ∧
      (c.getL < c.getLength → c.getStart + c.getL = size) := by
  obtain ⟨c, ran, max, stores⟩ := (new_stores memory).run calls
  have size_eq : c.max = size := max
  have bottom := stores.bottom_le
  refine ⟨_, c, ran, ?_, ?_, ?_⟩
  · rw [stores.start (Nat.le_refl _), getLength, stores.length, List.take_length]
    rfl
  · rw [getStart, getL, ← size_eq]
    split <;> omega
  · rw [getStart, getL, getLength, ← size_eq]
    split <;> omega

end CircularBuffer

end NoxServer.Network
