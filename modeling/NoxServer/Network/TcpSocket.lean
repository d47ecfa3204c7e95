import NoxServer.Network.CircularBuffer

/-!
How a `TcpSocket` sends (`shared/Network/TcpSocket.cpp`, `SocketHandler::Select`).

What `SendBuf` has no room for in the output buffer waits in a list of blocks, and `OnWrite` moves
it on. Whatever `send` takes and whenever the handler asks, the bytes that are sent and those that
wait are the bytes that were accepted, in order (`sent_in_order`). The output buffer is empty
exactly when nothing waits, which is what the handler looks at before it shuts a socket down
(`shut_down_after_sending`), and the handler watches for the socket to become writable as long as
something waits (`watched_while_waiting`).

The macros for SSL and SOCKS4 are off in `sockets-config.h`. No socket of the server is pooled or
reconnects or retries to connect.
-/

namespace NoxServer.Network

open CircularBuffer

/-! ### The functions of the source -/

/-- A block of the dynamic output buffer; what is before `ptr` was moved on. -/
structure MES where
  buf : List UInt8
  ptr : Nat := 0
  inside : ptr ≤ buf.length

namespace MES

def left (p : MES) : Nat := p.buf.length - p.ptr

/-- The bytes from `curbuf()` on. -/
def curbuf (p : MES) : List UInt8 := p.buf.drop p.ptr

/-- `p->ptr += sz`. -/
def advance (p : MES) (sz : Nat) (enough : sz ≤ p.left) : MES where
  buf := p.buf
  ptr := p.ptr + sz
  inside := by
    have inside := p.inside
    unfold left at enough
    omega

end MES

/-- The fields of a `TcpSocket` that sending reads, and whether the handler watches for it to become
writable. -/
structure TcpSocket where
  valid : Bool := true
  connecting : Bool := false
  connected : Bool := false
  callOnConnect : Bool := false
  closeAndDelete : Bool := false
  flushBeforeClose : Bool := true
  shutdownWr : Bool := false
  w : Bool := false
  obuf : CircularBuffer
  mes : List MES := []
  bytesSent : UInt64 := 0

/-- What `send` does: it takes some bytes, at most those there are, or fails. -/
inductive Sent where
  | upTo (n : Nat)
  | wouldBlock
  | failed

def maxBlocksize : Nat := 1024000

/-- The blocks of what is left to buffer, for some turns of the loop. -/
def blocksLoop : Nat → List UInt8 → List MES
  | 0, _ => []
  | _ + 1, [] => []
  | turns + 1, buf =>
      ⟨buf.take maxBlocksize, 0, Nat.zero_le _⟩ :: blocksLoop turns (buf.drop maxBlocksize)

/-- The blocks of what is left to buffer. -/
def blocks (buf : List UInt8) : List MES := blocksLoop buf.length buf

/-- Data is moved from `m_mes` to the output buffer, for some turns of the loop. -/
def moveMes : Nat → CircularBuffer → List MES → Except Fault (CircularBuffer × List MES)
  | 0, obuf, mes => .ok (obuf, mes)
  | _ + 1, obuf, [] => .ok (obuf, [])
  | turns + 1, obuf, p :: rest =>
      if obuf.space = 0 then .ok (obuf, p :: rest)
      else if small : p.left < obuf.space then
        obuf.write p.curbuf >>= fun written => moveMes turns written.2 rest
      else
        obuf.write (p.curbuf.take obuf.space) >>= fun written =>
          moveMes turns written.2 (p.advance obuf.space (Nat.not_lt.mp small) :: rest)

namespace TcpSocket

def ready (s : TcpSocket) : Bool := s.valid && !s.connecting && !s.closeAndDelete

def getOutputLength (s : TcpSocket) : Nat := s.obuf.getLength

/-- The write flag is set if data is still left to write. -/
def setWriteFlag (s : TcpSocket) : TcpSocket :=
  { s with w := s.obuf.getLength ≠ 0 ∨ ¬s.mes.isEmpty }

/-- `OnWrite()` of a socket that is not connecting, and what is sent. -/
def transmit (s : TcpSocket) : Sent → Except Fault (TcpSocket × List UInt8)
  | .wouldBlock => .ok (s.setWriteFlag, [])
  | .failed =>
      .ok ({ s with closeAndDelete := true, flushBeforeClose := false }.setWriteFlag, [])
  | .upTo limit =>
      let n := min limit s.obuf.getLength
      if n = 0 then .ok (s.setWriteFlag, [])
      else
        s.obuf.copyOut s.obuf.getStart n >>= fun bytes =>
          moveMes (s.mes.length + 1) (s.obuf.remove n).2 s.mes >>= fun moved =>
            .ok ({ s with
              bytesSent := s.bytesSent + UInt64.ofNat n
              obuf := moved.1
              mes := moved.2 }.setWriteFlag, bytes)

/-- `OnWrite()` of a socket that is connecting; whether it is connected now is what `getsockopt`
says. -/
def checkConnect (s : TcpSocket) (ok : Bool) : TcpSocket :=
  if ok then { s with w := false, connecting := false, callOnConnect := true }
  else { s with w := false, connecting := false, closeAndDelete := true }

def onWrite (s : TcpSocket) (ok : Bool) (sent : Sent) : Except Fault (TcpSocket × List UInt8) :=
  if s.connecting then .ok (s.checkConnect ok, []) else s.transmit sent

/-- As much of the data as fits goes to the output buffer if none waits before it; the number of
these bytes. -/
def fill (s : TcpSocket) (buf : List UInt8) : Except Fault (CircularBuffer × Nat) :=
  if s.mes.isEmpty ∧ s.obuf.space ≠ 0 then
    let ptr := if buf.length ≤ s.obuf.space then buf.length else s.obuf.space
    s.obuf.write (buf.take ptr) >>= fun written => .ok (written.2, ptr)
  else .ok (s.obuf, 0)

/-- `SendBuf(buf, len)`, and what is sent at once. -/
def sendBuf (s : TcpSocket) (buf : List UInt8) (sent : Sent) :
    Except Fault (TcpSocket × List UInt8) :=
  let n := s.obuf.getLength
  if !s.ready && !s.connecting then .ok (s, [])
  else
    s.fill buf >>= fun filled =>
      let s := { s with obuf := filled.1, mes := s.mes ++ blocks (buf.drop filled.2) }
      if n = 0 ∧ s.connected then s.onWrite true sent else .ok (s, [])

/-- `Select`, when it takes the socket from `m_add`. -/
def added (s : TcpSocket) : TcpSocket :=
  if s.closeAndDelete then s
  else if s.connecting then { s with w := true }
  else { s with w := s.getOutputLength ≠ 0 }

/-- `Select`, for a socket in `m_fds_callonconnect`. -/
def connect (s : TcpSocket) (sent : Sent) : Except Fault (TcpSocket × List UInt8) :=
  if s.callOnConnect && s.ready then
    let s := { s with connected := true }
    (if s.getOutputLength ≠ 0 then s.onWrite true sent else .ok (s, [])) >>= fun written =>
      .ok ({ written.1 with callOnConnect := false }, written.2)
  else .ok (s, [])

/-- `Select`, for a socket in `m_fds_connecting` whose time to connect is over. -/
def connectTimeout (s : TcpSocket) : TcpSocket :=
  if s.connecting then { s with connecting := false, closeAndDelete := true } else s

/-- `OnRead()`, when `recv` returns 0. -/
def peerClosed (s : TcpSocket) : TcpSocket :=
  { s with closeAndDelete := true, flushBeforeClose := false, shutdownWr := true }

/-- `OnRead()`, when `recv` fails. -/
def readFailed (s : TcpSocket) : TcpSocket :=
  { s with closeAndDelete := true, flushBeforeClose := false }

/-- A socket to be closed that `Select` still waits for. -/
def flushes (s : TcpSocket) (late : Bool) : Bool :=
  s.closeAndDelete && s.connected && s.flushBeforeClose && !late

/-- `Select`, for a socket in `m_fds_close`; `late` says that five seconds have passed. -/
def checkClose (s : TcpSocket) (late : Bool) : TcpSocket :=
  if s.flushes late then
    if s.getOutputLength ≠ 0 then s else { s with shutdownWr := true }
  else if s.closeAndDelete then { s with w := false, valid := false }
  else s

end TcpSocket

/-! ### Connections -/

/-- A socket, the bytes it has accepted and the bytes it has sent, and whether `Select` has shut it
down for writing to close it in good order. -/
structure Connection where
  socket : TcpSocket
  accepted : List UInt8 := []
  sent : List UInt8 := []
  shut : Bool := false

/-- What happens to a socket. -/
inductive Event where
  | added
  | sendBuf (buf : List UInt8) (sent : Sent)
  /-- `select` finds it writable; `ok` is for a socket that is connecting. -/
  | writable (ok : Bool) (sent : Sent)
  | connect (sent : Sent)
  | connectTimeout
  | peerClosed
  | readFailed
  | setCloseAndDelete
  | checkClose (late : Bool)

namespace Connection

/-- The socket after a function that has sent something. -/
def after (l : Connection) (written : TcpSocket × List UInt8) : Connection :=
  { l with socket := written.1, sent := l.sent ++ written.2 }

def apply (l : Connection) : Event → Except Fault Connection
  | .added => .ok { l with socket := l.socket.added }
  | .sendBuf buf sent =>
      l.socket.sendBuf buf sent >>= fun written =>
        let takes := l.socket.ready || l.socket.connecting
        .ok { l.after written with accepted := if takes then l.accepted ++ buf else l.accepted }
  | .writable ok sent =>
      if l.socket.w then l.socket.onWrite ok sent >>= fun written => .ok (l.after written)
      else .ok l
  | .connect sent => l.socket.connect sent >>= fun written => .ok (l.after written)
  | .connectTimeout => .ok { l with socket := l.socket.connectTimeout }
  | .peerClosed => .ok { l with socket := l.socket.peerClosed }
  | .readFailed => .ok { l with socket := l.socket.readFailed }
  | .setCloseAndDelete => .ok { l with socket := { l.socket with closeAndDelete := true } }
  | .checkClose late =>
      .ok { l with
        socket := l.socket.checkClose late
        shut := l.shut || (l.socket.flushes late && l.socket.getOutputLength = 0) }

/-- How a socket comes to the handler: from `accept`, or from an `Open` that is connected at once
or is not yet. -/
inductive Origin where
  | accepted
  | opened
  | opening

def start {size : Nat} (memory : Vector UInt8 (2 * size)) (origin : Origin) : Connection where
  socket :=
    match origin with
    | .accepted => { obuf := new memory, connected := true }
    | .opened => { obuf := new memory, callOnConnect := true }
    | .opening => { obuf := new memory, connecting := true }

def run (l : Connection) (events : List Event) : Except Fault Connection :=
  events.foldlM apply l

end Connection

/-! ### What waits -/

/-- The bytes in the list of blocks. -/
def overflow (mes : List MES) : List UInt8 := mes.flatMap MES.curbuf

/-- The output buffer holds `bytes`, and all there is room for if blocks wait behind it. -/
structure Buffered (obuf : CircularBuffer) (mes : List MES) (bytes : List UInt8) : Prop where
  stores : ∃ count, obuf.Stores ⟨bytes, count⟩
  room : 0 < obuf.max
  full : mes ≠ [] → bytes.length = obuf.max

section Waiting

variable {obuf : CircularBuffer} {mes : List MES} {bytes : List UInt8}

@[simp] theorem overflow_nil : overflow [] = [] := rfl

@[simp] theorem overflow_cons (p : MES) (rest : List MES) :
    overflow (p :: rest) = p.curbuf ++ overflow rest := rfl

theorem overflow_append (first second : List MES) :
    overflow (first ++ second) = overflow first ++ overflow second := List.flatMap_append

theorem MES.length_curbuf (p : MES) : p.curbuf.length = p.left := List.length_drop

theorem MES.advance_curbuf (p : MES) {sz : Nat} (enough : sz ≤ p.left) :
    (p.advance sz enough).curbuf = p.curbuf.drop sz := by
  rw [MES.curbuf, MES.curbuf, List.drop_drop]
  rfl

theorem overflow_blocksLoop {turns : Nat} {buf : List UInt8} (enough : buf.length ≤ turns) :
    overflow (blocksLoop turns buf) = buf := by
  induction turns generalizing buf with
  | zero => rw [List.length_eq_zero_iff.mp (Nat.le_zero.mp enough)]; rfl
  | succ turns ih =>
      cases buf with
      | nil => rfl
      | cons byte rest =>
          have fewer : ((byte :: rest).drop maxBlocksize).length ≤ turns := by
            rw [List.length_drop]
            have : 0 < maxBlocksize := by decide
            simp only [List.length_cons] at enough ⊢
            omega
          rw [blocksLoop, overflow_cons, ih fewer]
          · exact List.take_append_drop maxBlocksize (byte :: rest)
          · simp

@[simp] theorem overflow_blocks (buf : List UInt8) : overflow (blocks buf) = buf :=
  overflow_blocksLoop (Nat.le_refl _)

theorem blocks_eq_nil {buf : List UInt8} (none : buf = []) : blocks buf = [] := by
  rw [none]
  rfl

/-- A buffer with blocks behind it is not empty. -/
theorem Buffered.ne_nil_iff (buffered : Buffered obuf mes bytes) :
    bytes ≠ [] ↔ bytes ++ overflow mes ≠ [] := by
  constructor
  · intro some
    simp [some]
  · rintro waits rfl
    cases mes with
    | nil => exact waits rfl
    | cons p rest =>
        have full := buffered.full (List.cons_ne_nil p rest)
        have room := buffered.room
        rw [List.length_nil] at full
        omega

theorem Buffered.length (buffered : Buffered obuf mes bytes) : obuf.getLength = bytes.length := by
  obtain ⟨count, stores⟩ := buffered.stores
  exact stores.length

theorem Buffered.length_eq_zero_iff (buffered : Buffered obuf mes bytes) :
    obuf.getLength = 0 ↔ bytes = [] := by
  rw [buffered.length, List.length_eq_zero_iff]

/-- A write that fits goes behind what is in the buffer. -/
theorem write_fits {count : UInt32} (stores : obuf.Stores ⟨bytes, count⟩) {s : List UInt8}
    (fits : s.length ≤ obuf.space) :
    ∃ obuf' count', obuf.write s = .ok (true, obuf') ∧ obuf'.max = obuf.max ∧
      obuf'.Stores ⟨bytes ++ s, count'⟩ := by
  obtain ⟨obuf', written, max, after⟩ := stores.write s
  have length := stores.length
  have small := stores.holds.fits
  have enough : bytes.length + s.length ≤ obuf.max := by
    unfold space at fits
    simp only at length small
    omega
  simp only [DoubledRing.enqueue, if_pos enough, Option.isSome_some] at written after
  exact ⟨obuf', _, written, max, after⟩

theorem space_eq {count : UInt32} (stores : obuf.Stores ⟨bytes, count⟩) :
    obuf.space = obuf.max - bytes.length := by
  rw [space, stores.length]

/-- The loop of `OnWrite` moves blocks on in their order until the buffer is full or none is
left. -/
theorem moveMes_run {count : UInt32} (stores : obuf.Stores ⟨bytes, count⟩) (room : 0 < obuf.max)
    {turns : Nat} (enough : mes.length < turns) :
    ∃ obuf' mes' bytes', moveMes turns obuf mes = .ok (obuf', mes') ∧ obuf'.max = obuf.max ∧
      Buffered obuf' mes' bytes' ∧ bytes' ++ overflow mes' = bytes ++ overflow mes := by
  induction mes generalizing obuf bytes count turns with
  | nil =>
      obtain ⟨turns, rfl⟩ : ∃ more, turns = more + 1 := ⟨turns - 1, by omega⟩
      exact ⟨obuf, [], bytes, rfl, rfl, ⟨⟨count, stores⟩, room, by simp⟩, rfl⟩
  | cons p rest ih =>
      obtain ⟨turns, rfl⟩ : ∃ more, turns = more + 1 := ⟨turns - 1, by omega⟩
      rw [List.length_cons] at enough
      have fits := stores.holds.fits
      have free := space_eq stores
      simp only at fits
      by_cases noSpace : obuf.space = 0
      · refine ⟨obuf, p :: rest, bytes, ?_, rfl, ⟨⟨count, stores⟩, room, ?_⟩, rfl⟩
        · rw [moveMes, if_pos noSpace]
        · intro _
          omega
      · by_cases small : p.left < obuf.space
        · -- The whole block fits, and the loop goes on with the next one.
          have short : p.curbuf.length ≤ obuf.space := by
            rw [p.length_curbuf]
            omega
          obtain ⟨next, count', written, max, stores'⟩ := write_fits stores short
          obtain ⟨obuf', mes', bytes', moved, max', buffered, same⟩ :=
            ih stores' (max ▸ room) (Nat.succ_lt_succ_iff.mp enough)
          refine ⟨obuf', mes', bytes', ?_, max'.trans max, buffered, ?_⟩
          · rw [moveMes, if_neg noSpace, dif_pos small, written, ok_bind, moved]
          · rw [same, overflow_cons, List.append_assoc]
        · -- A part of the block fills the buffer, and the next turn ends the loop.
          have enough' := Nat.not_lt.mp small
          have length : (p.curbuf.take obuf.space).length = obuf.space := by
            rw [List.length_take, p.length_curbuf]
            omega
          obtain ⟨next, count', written, max, stores'⟩ :=
            write_fits stores (Nat.le_of_eq length)
          have full : (bytes ++ p.curbuf.take obuf.space).length = next.max := by
            rw [List.length_append, length, max]
            omega
          have noSpace' : next.space = 0 := by
            rw [space_eq stores', full, Nat.sub_self]
          refine ⟨next, p.advance obuf.space enough' :: rest, _, ?_, max,
            ⟨⟨count', stores'⟩, max ▸ room, fun _ => full⟩, ?_⟩
          · rw [moveMes, if_neg noSpace, dif_neg small, written, ok_bind]
            cases turns with
            | zero => rfl
            | succ turns => rw [moveMes, if_pos noSpace']
          · rw [overflow_cons, overflow_cons, p.advance_curbuf, List.append_assoc,
              ← List.append_assoc (p.curbuf.take _), List.take_append_drop]

end Waiting

/-! ### One event -/

/-- The write flag says whether something waits. -/
def Flagged (s : TcpSocket) (bytes : List UInt8) : Prop := s.w = true ↔ bytes ≠ []

section Sending

variable {s : TcpSocket} {bytes : List UInt8}

theorem setWriteFlag_flagged (buffered : Buffered s.obuf s.mes bytes) :
    Flagged s.setWriteFlag bytes := by
  have length := buffered.length_eq_zero_iff
  simp only [Flagged, TcpSocket.setWriteFlag, decide_eq_true_eq]
  constructor
  · rintro (waits | waits) rfl
    · exact waits (length.mpr rfl)
    · cases kept : s.mes with
      | nil => simp [kept] at waits
      | cons p rest =>
          have full := buffered.full (by simp [kept])
          have room := buffered.room
          rw [List.length_nil] at full
          omega
  · intro waits
    exact .inl fun none => waits (length.mp none)

/-- What a function leaves of a socket: its connection is as it was, and what it sends was waiting
first. -/
structure Transmitted (s : TcpSocket) (bytes : List UInt8) (s' : TcpSocket) (sent : List UInt8)
    (bytes' : List UInt8) : Prop where
  buffered : Buffered s'.obuf s'.mes bytes'
  moved : bytes ++ overflow s.mes = sent ++ (bytes' ++ overflow s'.mes)
  flagged : Flagged s' bytes'
  valid : s'.valid = s.valid
  connected : s'.connected = s.connected
  connecting : s'.connecting = s.connecting
  closes : s.closeAndDelete = true → s'.closeAndDelete = true

/-- `OnWrite` sends what waits first, and as much as `send` takes of what is in the buffer. -/
theorem transmit_run (buffered : Buffered s.obuf s.mes bytes) (sent : Sent) :
    ∃ s' out bytes', s.transmit sent = .ok (s', out) ∧ Transmitted s bytes s' out bytes' ∧
      ∀ limit, sent = .upTo limit → out.length = min limit bytes.length := by
  cases sent with
  | wouldBlock =>
      exact ⟨_, [], bytes, rfl,
        ⟨buffered, rfl, setWriteFlag_flagged buffered, rfl, rfl, rfl, id⟩, nofun⟩
  | failed =>
      refine ⟨_, [], bytes, rfl, ⟨buffered, rfl, ?_, rfl, rfl, rfl, fun _ => rfl⟩, nofun⟩
      exact setWriteFlag_flagged (s := { s with closeAndDelete := true, flushBeforeClose := false })
        buffered
  | upTo limit =>
      have length := buffered.length
      by_cases none : min limit s.obuf.getLength = 0
      · refine ⟨s.setWriteFlag, [], bytes, ?_,
          ⟨buffered, rfl, setWriteFlag_flagged buffered, rfl, rfl, rfl, id⟩, ?_⟩
        · simp only [TcpSocket.transmit, if_pos none]
        · rintro _ ⟨⟩
          rw [← length, none]
          rfl
      · obtain ⟨count, stores⟩ := buffered.stores
        have short : min limit s.obuf.getLength ≤ s.obuf.getLength := Nat.min_le_right _ _
        have copied := stores.start short
        obtain ⟨_, max, removed⟩ := stores.remove (min limit s.obuf.getLength)
        have inside : min limit s.obuf.getLength ≤ bytes.length := by omega
        simp only [DoubledRing.dequeue, if_pos inside, Option.map_some, Option.getD_some] at removed
        obtain ⟨obuf', mes', bytes', moved, max', buffered', same⟩ :=
          moveMes_run removed (max ▸ buffered.room) (Nat.lt_succ_self s.mes.length)
        let s' : TcpSocket := { s with
          bytesSent := s.bytesSent + UInt64.ofNat (min limit s.obuf.getLength)
          obuf := obuf'
          mes := mes' }
        refine ⟨s'.setWriteFlag, bytes.take (min limit s.obuf.getLength), bytes', ?_,
          ⟨buffered', ?_, setWriteFlag_flagged (s := s') buffered', rfl, rfl, rfl, id⟩, ?_⟩
        · simp only [TcpSocket.transmit, if_neg none, copied, ok_bind, moved]
          rfl
        · have kept : overflow s'.setWriteFlag.mes = overflow mes' := rfl
          rw [kept, same, ← List.append_assoc, List.take_append_drop]
        · rintro _ ⟨⟩
          rw [List.length_take, ← length]
          omega

/-- `SendBuf` puts the data behind what waits. -/
theorem fill_run (buffered : Buffered s.obuf s.mes bytes) (buf : List UInt8) :
    ∃ obuf ptr bytes', s.fill buf = .ok (obuf, ptr) ∧
      Buffered obuf (s.mes ++ blocks (buf.drop ptr)) bytes' ∧
      bytes' ++ overflow (s.mes ++ blocks (buf.drop ptr)) = bytes ++ overflow s.mes ++ buf ∧
      (bytes ≠ [] → bytes' ≠ []) := by
  obtain ⟨count, stores⟩ := buffered.stores
  have free := space_eq stores
  have fits := stores.holds.fits
  simp only at fits
  unfold TcpSocket.fill
  by_cases goes : s.mes.isEmpty ∧ s.obuf.space ≠ 0
  · have noBlocks : s.mes = [] := List.isEmpty_iff.mp goes.1
    set ptr := if buf.length ≤ s.obuf.space then buf.length else s.obuf.space with chosen
    have length : (buf.take ptr).length = ptr := by
      rw [List.length_take, chosen]
      split <;> omega
    obtain ⟨obuf, count', written, max, stores'⟩ := write_fits (s := buf.take ptr) stores (by
      rw [length, chosen]
      split <;> omega)
    refine ⟨obuf, ptr, bytes ++ buf.take ptr, ?_,
      ⟨⟨count', stores'⟩, max ▸ buffered.room, ?_⟩, ?_, ?_⟩
    · simp only [if_pos goes, written, ok_bind]
    · intro blocked
      rw [noBlocks, List.nil_append] at blocked
      have left : buf.drop ptr ≠ [] := fun none => blocked (blocks_eq_nil none)
      have more : ¬buf.length ≤ s.obuf.space := by
        intro all
        rw [chosen, if_pos all, List.drop_length] at left
        exact left rfl
      rw [List.length_append, length, max, chosen, if_neg more]
      omega
    · rw [noBlocks, List.nil_append, overflow_blocks, overflow_nil, List.append_nil,
        List.append_assoc, List.take_append_drop]
    · intro some
      simp [some]
  · rw [if_neg goes]
    refine ⟨s.obuf, 0, bytes, rfl, ⟨⟨count, stores⟩, buffered.room, ?_⟩, ?_, id⟩
    · intro _
      by_cases noBlocks : s.mes = []
      · have noSpace : s.obuf.space = 0 := by
          by_contra space
          exact goes ⟨by simp [noBlocks], space⟩
        omega
      · exact buffered.full noBlocks
    · rw [overflow_append, List.drop_zero, overflow_blocks, List.append_assoc]

end Sending

/-- The bytes that were accepted and not sent. -/
def TcpSocket.waiting (s : TcpSocket) : List UInt8 :=
  DoubledRing.window s.obuf.buf s.obuf.getStart s.obuf.getLength ++ overflow s.mes

theorem Buffered.waiting {s : TcpSocket} {bytes : List UInt8}
    (buffered : Buffered s.obuf s.mes bytes) : s.waiting = bytes ++ overflow s.mes := by
  obtain ⟨count, stores⟩ := buffered.stores
  have length := stores.length
  rw [TcpSocket.waiting, getStart, getLength, stores.holds.window_eq (Nat.le_of_eq length), length,
    List.take_length]

/-! ### Invariants -/

/-- What holds of a connection whose output buffer holds `bytes`. -/
structure Connection.Kept (l : Connection) (bytes : List UInt8) : Prop where
  buffered : Buffered l.socket.obuf l.socket.mes bytes
  ordered : l.accepted = l.sent ++ (bytes ++ overflow l.socket.mes)
  -- A connection that has timed out may leave the flag that waited for it.
  idle : l.socket.connected = true ∨ l.socket.ready = true → l.socket.w = true → bytes ≠ []
  watched : l.socket.valid = true → l.socket.connected = true → bytes ≠ [] → l.socket.w = true
  apart : l.socket.connecting = true → l.socket.connected = false
  done : l.shut = true → l.socket.connected = true ∧ l.socket.closeAndDelete = true ∧ bytes = []

namespace Connection

variable {l : Connection} {bytes : List UInt8}

theorem start_kept {size : Nat} (room : 0 < size) (memory : Vector UInt8 (2 * size))
    (origin : Origin) : (start memory origin).Kept [] := by
  have buffered : Buffered (new memory) [] [] :=
    ⟨⟨0, new_stores memory⟩, room, fun blocked => absurd rfl blocked⟩
  cases origin <;>
    exact ⟨buffered, rfl, nofun, fun _ _ some => absurd rfl some, by simp [start], nofun⟩

/-- A socket that is shut down has nothing to send and takes nothing. -/
theorem Kept.quiet (kept : l.Kept bytes) (shut : l.shut = true) :
    l.socket.w = false ∧ l.socket.ready = false ∧ l.socket.connecting = false := by
  obtain ⟨connected, closes, none⟩ := kept.done shut
  have settled : l.socket.connecting = false := by
    by_contra connecting
    have apart := kept.apart (by simpa using connecting)
    rw [apart] at connected
    cases connected
  refine ⟨?_, ?_, settled⟩
  · by_contra w
    exact kept.idle (.inl connected) (by simpa using w) none
  · simp [TcpSocket.ready, closes]

/-- A socket that accepts or sends is not shut down. -/
theorem Kept.open_of_busy (kept : l.Kept bytes)
    (busy : l.socket.w = true ∨ l.socket.ready = true ∨ l.socket.connecting = true) :
    l.shut = false := by
  by_contra shut
  obtain ⟨w, ready, connecting⟩ := kept.quiet (by simpa using shut)
  simp [w, ready, connecting] at busy

/-- A connection stays in order when what waited and what is accepted now are what is sent and what
waits then, in this order. -/
theorem Kept.sends (kept : l.Kept bytes) (open_ : l.shut = false) {t : TcpSocket}
    {more out bytet : List UInt8} (buffered : Buffered t.obuf t.mes bytet)
    (moved : bytes ++ overflow l.socket.mes ++ more = out ++ (bytet ++ overflow t.mes))
    (flagged : Flagged t bytet) (settled : t.connecting = false) :
    Kept ⟨t, l.accepted ++ more, l.sent ++ out, l.shut⟩ bytet where
  buffered := buffered
  ordered := by rw [kept.ordered, List.append_assoc, moved, List.append_assoc]
  idle _ := flagged.mp
  watched _ _ := flagged.mpr
  apart connecting := by
    rw [settled] at connecting
    cases connecting
  done shut := by
    rw [open_] at shut
    cases shut

theorem onWrite_settled {s : TcpSocket} (settled : s.connecting = false) (ok : Bool) (sent : Sent) :
    s.onWrite ok sent = s.transmit sent := by
  rw [TcpSocket.onWrite, settled]
  rfl

/-- `select` finds the socket writable. -/
theorem Kept.writable (kept : l.Kept bytes) (ok : Bool) (sent : Sent) :
    ∃ l' bytes', l.apply (.writable ok sent) = .ok l' ∧ l'.Kept bytes' := by
  simp only [apply, TcpSocket.onWrite]
  by_cases w : l.socket.w = true
  · have open_ := kept.open_of_busy (.inl w)
    rw [if_pos w]
    cases connecting : l.socket.connecting with
    | true =>
        have apart := kept.apart connecting
        refine ⟨l.after (l.socket.checkConnect ok, []), bytes, rfl, ?_⟩
        unfold TcpSocket.checkConnect Connection.after
        rw [List.append_nil]
        cases ok <;>
          exact ⟨kept.buffered, kept.ordered, nofun, fun _ on => by simp [apart] at on, nofun,
            fun shut => by simp [open_] at shut⟩
    | false =>
        obtain ⟨s', out, bytes', ran, transmitted, _⟩ := transmit_run kept.buffered sent
        refine ⟨l.after (s', out), bytes', ?_, ?_⟩
        · rw [if_neg nofun, ran, ok_bind]
        · have moved := transmitted.moved
          rw [← List.append_nil (bytes ++ _)] at moved
          have next := kept.sends open_ transmitted.buffered moved transmitted.flagged
            (transmitted.connecting.trans connecting)
          rwa [List.append_nil] at next
  · rw [if_neg w]
    exact ⟨l, bytes, rfl, kept⟩

/-- A socket that is neither ready nor connecting drops the data. -/
theorem sendBuf_drops {s : TcpSocket} (drops : (s.ready || s.connecting) = false)
    (buf : List UInt8) (sent : Sent) : s.sendBuf buf sent = .ok (s, []) := by
  rw [TcpSocket.sendBuf, if_pos]
  rw [← Bool.not_or, drops]
  rfl

/-- Otherwise it keeps the data, and sends it at once if there was nothing before it. -/
theorem sendBuf_takes {s : TcpSocket} (takes : (s.ready || s.connecting) = true)
    {buf : List UInt8} {obuf : CircularBuffer} {ptr : Nat} (filled : s.fill buf = .ok (obuf, ptr))
    (sent : Sent) :
    s.sendBuf buf sent =
      let s' : TcpSocket := { s with obuf := obuf, mes := s.mes ++ blocks (buf.drop ptr) }
      if s.obuf.getLength = 0 ∧ s.connected then s'.onWrite true sent else .ok (s', []) := by
  rw [TcpSocket.sendBuf, if_neg, filled]
  · rfl
  · rw [← Bool.not_or, takes]
    nofun

/-- `SendBuf` accepts the data or drops it. -/
theorem Kept.sendBuf (kept : l.Kept bytes) (buf : List UInt8) (sent : Sent) :
    ∃ l' bytes', l.apply (.sendBuf buf sent) = .ok l' ∧ l'.Kept bytes' := by
  simp only [apply]
  cases takes : l.socket.ready || l.socket.connecting with
  | false =>
      refine ⟨l, bytes, ?_, kept⟩
      rw [sendBuf_drops takes, ok_bind, Connection.after, List.append_nil]
      rfl
  | true =>
      have open_ := kept.open_of_busy (.inr (Bool.or_eq_true_iff.mp takes))
      obtain ⟨obuf, ptr, bytes', filled, buffered, order, some⟩ := fill_run kept.buffered buf
      have length := kept.buffered.length_eq_zero_iff
      rw [sendBuf_takes takes filled]
      by_cases kicks : l.socket.obuf.getLength = 0 ∧ l.socket.connected = true
      · -- The buffer was empty, and what is in it now is sent at once.
        have settled : l.socket.connecting = false := by
          by_contra connecting
          simp [kept.apart (by simpa using connecting)] at kicks
        let filled : TcpSocket :=
          { l.socket with obuf := obuf, mes := l.socket.mes ++ blocks (buf.drop ptr) }
        obtain ⟨s', out, bytes'', ran, transmitted, _⟩ :=
          transmit_run (s := filled) buffered sent
        have written := (onWrite_settled (s := filled) settled true sent).trans ran
        refine ⟨⟨s', l.accepted ++ buf, l.sent ++ out, l.shut⟩, bytes'', ?_, ?_⟩
        · rw [if_pos kicks, written]
          rfl
        · exact kept.sends open_ transmitted.buffered (order.symm.trans transmitted.moved)
            transmitted.flagged (transmitted.connecting.trans settled)
      · refine ⟨⟨{ l.socket with obuf := obuf, mes := l.socket.mes ++ blocks (buf.drop ptr) },
          l.accepted ++ buf, l.sent, l.shut⟩, bytes', ?_, ?_⟩
        · simp only [if_neg kicks, ok_bind, Connection.after, List.append_nil]
          rfl
        · constructor
          · exact buffered
          · rw [kept.ordered, List.append_assoc, ← order]
          · intro usable w
            exact some (kept.idle usable w)
          · intro valid connected _
            apply kept.watched valid connected
            intro none
            exact kicks ⟨length.mpr none, connected⟩
          · exact kept.apart
          · intro shut
            simp [open_] at shut

/-- `Select` tells a socket that it is connected. -/
theorem Kept.connect (kept : l.Kept bytes) (sent : Sent) :
    ∃ l' bytes', l.apply (.connect sent) = .ok l' ∧ l'.Kept bytes' := by
  simp only [apply, TcpSocket.connect]
  by_cases called : (l.socket.callOnConnect && l.socket.ready) = true
  · have ready : l.socket.ready = true := (Bool.and_eq_true_iff.mp called).2
    have settled : l.socket.connecting = false := by
      by_contra connecting
      simp [TcpSocket.ready, connecting] at ready
    have open_ := kept.open_of_busy (.inr (.inl ready))
    rw [if_pos called]
    by_cases waits : l.socket.getOutputLength = 0
    · have none := kept.buffered.length_eq_zero_iff.mp waits
      refine ⟨⟨{ l.socket with connected := true, callOnConnect := false }, l.accepted, l.sent,
        l.shut⟩, bytes, ?_, ?_⟩
      · rw [if_neg (fun some => some waits), ok_bind, ok_bind, Connection.after, List.append_nil]
      · exact ⟨kept.buffered, kept.ordered, fun _ => kept.idle (.inr ready),
          fun _ _ some => absurd none some,
          fun connecting => by simp [settled] at connecting, fun shut => by simp [open_] at shut⟩
    · let connected : TcpSocket := { l.socket with connected := true }
      obtain ⟨s', out, bytes', ran, transmitted, _⟩ :=
        transmit_run (s := connected) kept.buffered sent
      have written := (onWrite_settled (s := connected) settled true sent).trans ran
      refine ⟨⟨{ s' with callOnConnect := false }, l.accepted, l.sent ++ out, l.shut⟩, bytes', ?_,
        ?_⟩
      · have sends : connected.getOutputLength ≠ 0 := waits
        rw [if_pos sends, written, ok_bind, ok_bind, Connection.after]
      · have moved := transmitted.moved
        rw [← List.append_nil (bytes ++ _)] at moved
        have next := kept.sends (t := { s' with callOnConnect := false }) open_
          transmitted.buffered moved transmitted.flagged (transmitted.connecting.trans settled)
        rwa [List.append_nil] at next
  · refine ⟨l, bytes, ?_, kept⟩
    rw [if_neg called, ok_bind, Connection.after, List.append_nil]

/-- `Select` takes the socket from `m_add`. -/
theorem Kept.added (kept : l.Kept bytes) :
    ({ l with socket := l.socket.added } : Connection).Kept bytes := by
  have length := kept.buffered.length_eq_zero_iff
  unfold TcpSocket.added
  cases closes : l.socket.closeAndDelete with
  | true => exact kept
  | false =>
      have open_ : ¬l.shut = true := by
        intro shut
        have done := (kept.done shut).2.1
        rw [closes] at done
        cases done
      cases connecting : l.socket.connecting with
      | true =>
          have apart := kept.apart connecting
          refine ⟨kept.buffered, kept.ordered, ?_, fun _ on => by simp [apart] at on, ?_,
            fun shut => absurd shut open_⟩
          · rintro (on | ready)
            · exact absurd on (by simp [apart])
            · cases (Bool.and_eq_true_iff.mp (Bool.and_eq_true_iff.mp ready).1).2
          · intro _
            simpa using apart
      | false =>
          refine ⟨kept.buffered, kept.ordered, ?_, ?_, ?_, fun shut => absurd shut open_⟩
          · intro _ w
            simpa [TcpSocket.getOutputLength, length] using w
          · intro _ _ some
            simpa [TcpSocket.getOutputLength, length] using some
          · intro on
            simp at on

/-- A socket that is to be closed is not ready. -/
theorem Kept.closing (kept : l.Kept bytes) (flushBeforeClose shutdownWr : Bool) :
    ({ l with socket := { l.socket with
        closeAndDelete := true
        flushBeforeClose := flushBeforeClose
        shutdownWr := shutdownWr } } : Connection).Kept bytes := by
  refine ⟨kept.buffered, kept.ordered, ?_, kept.watched, kept.apart, ?_⟩
  · rintro (connected | ready)
    · exact kept.idle (.inl connected)
    · simp [TcpSocket.ready] at ready
  · intro shut
    exact ⟨(kept.done shut).1, rfl, (kept.done shut).2.2⟩

/-- A socket whose time to connect is over was not connected and is not ready. -/
theorem Kept.connectTimeout (kept : l.Kept bytes) :
    ({ l with socket := l.socket.connectTimeout } : Connection).Kept bytes := by
  unfold TcpSocket.connectTimeout
  cases connecting : l.socket.connecting with
  | false => exact kept
  | true =>
      have apart := kept.apart connecting
      have open_ := kept.open_of_busy (.inr (.inr connecting))
      refine ⟨kept.buffered, kept.ordered, ?_, fun _ on => by simp [apart] at on, nofun,
        fun shut => by simp [open_] at shut⟩
      rintro (on | ready)
      · simp [apart] at on
      · simp [TcpSocket.ready] at ready

/-- `Select` looks at a socket that is to be closed. -/
theorem Kept.checkClose (kept : l.Kept bytes) (late : Bool) :
    ∃ l', l.apply (.checkClose late) = .ok l' ∧ l'.Kept bytes := by
  have length := kept.buffered.length_eq_zero_iff
  refine ⟨_, rfl, ?_⟩
  cases flushes : l.socket.flushes late with
  | true =>
      have both : l.socket.closeAndDelete = true ∧ l.socket.connected = true := by
        simp only [TcpSocket.flushes, Bool.and_eq_true] at flushes
        exact flushes.1.1
      rw [TcpSocket.checkClose, flushes, if_pos rfl, Bool.true_and]
      by_cases waits : l.socket.getOutputLength = 0
      · have none := length.mp waits
        rw [if_neg (fun some => some waits), decide_eq_true waits]
        exact ⟨kept.buffered, kept.ordered, kept.idle, kept.watched, kept.apart,
          fun _ => ⟨both.2, both.1, none⟩⟩
      · rw [if_pos waits, decide_eq_false waits, Bool.or_false]
        exact kept
  | false =>
      rw [TcpSocket.checkClose, flushes, if_neg nofun, Bool.false_and, Bool.or_false]
      cases closes : l.socket.closeAndDelete with
      | true =>
          rw [if_pos rfl]
          refine ⟨kept.buffered, kept.ordered, fun _ => nofun, nofun, kept.apart, ?_⟩
          intro shut
          exact ⟨(kept.done shut).1, rfl, (kept.done shut).2.2⟩
      | false =>
          rw [if_neg nofun]
          exact kept

/-- Every event completes and keeps a connection in order. -/
theorem Kept.apply (kept : l.Kept bytes) (event : Event) :
    ∃ l' bytes', l.apply event = .ok l' ∧ l'.Kept bytes' := by
  cases event with
  | added => exact ⟨_, bytes, rfl, kept.added⟩
  | sendBuf buf sent => exact kept.sendBuf buf sent
  | writable ok sent => exact kept.writable ok sent
  | connect sent => exact kept.connect sent
  | connectTimeout => exact ⟨_, bytes, rfl, kept.connectTimeout⟩
  | peerClosed => exact ⟨_, bytes, rfl, kept.closing _ _⟩
  | readFailed => exact ⟨_, bytes, rfl, kept.closing _ _⟩
  | setCloseAndDelete => exact ⟨_, bytes, rfl, kept.closing _ _⟩
  | checkClose late =>
      obtain ⟨l', ran, kept'⟩ := kept.checkClose late
      exact ⟨l', bytes, ran, kept'⟩

theorem Kept.run (kept : l.Kept bytes) (events : List Event) :
    ∃ l' bytes', l.run events = .ok l' ∧ l'.Kept bytes' := by
  induction events generalizing l bytes with
  | nil => exact ⟨l, bytes, rfl, kept⟩
  | cons event events ih =>
      obtain ⟨next, between, applied, kept'⟩ := kept.apply event
      obtain ⟨l', bytes', ran, kept''⟩ := ih kept'
      refine ⟨l', bytes', ?_, kept''⟩
      rw [Connection.run, List.foldlM_cons, applied, ok_bind]
      exact ran

/-- A socket that is connected sends at least one of the bytes that wait, if `send` takes any. -/
theorem Kept.progress (kept : l.Kept bytes) (valid : l.socket.valid = true)
    (connected : l.socket.connected = true) {n : Nat} (takes : 0 < n) :
    ∃ l' bytes', l.apply (.writable true (.upTo n)) = .ok l' ∧ l'.Kept bytes' ∧
      l'.socket.valid = true ∧ l'.socket.connected = true ∧ l'.accepted = l.accepted ∧
      l'.socket.waiting.length ≤ l.socket.waiting.length - 1 := by
  obtain ⟨l', bytes', applied, kept'⟩ := kept.writable true (.upTo n)
  refine ⟨l', bytes', applied, kept', ?_⟩
  have waiting := kept.buffered.waiting
  have waiting' := kept'.buffered.waiting
  have settled : l.socket.connecting = false := by
    by_contra connecting
    simp [kept.apart (by simpa using connecting)] at connected
  simp only [Connection.apply] at applied
  by_cases w : l.socket.w = true
  · obtain ⟨s', out, _, ran, transmitted, taken⟩ := transmit_run kept.buffered (.upTo n)
    rw [if_pos w, onWrite_settled settled, ran, ok_bind] at applied
    cases applied
    have some := List.length_pos_iff.mpr (kept.idle (.inl connected) w)
    have same := congrArg List.length (kept'.ordered.symm.trans kept.ordered)
    have count := taken n rfl
    refine ⟨transmitted.valid.trans valid, transmitted.connected.trans connected, rfl, ?_⟩
    rw [waiting, waiting']
    simp only [Connection.after, List.length_append] at same ⊢
    omega
  · rw [if_neg w] at applied
    cases applied
    have none : bytes = [] := by
      by_contra some
      exact w (kept.watched valid connected some)
    refine ⟨valid, connected, rfl, ?_⟩
    rw [waiting, not_not.mp (kept.buffered.ne_nil_iff.not.mp (not_not.mpr none))]
    exact Nat.le_refl _

/-- Enough calls of `OnWrite` send all that waits, each of them at least a byte. -/
theorem Kept.drain (kept : l.Kept bytes) (valid : l.socket.valid = true)
    (connected : l.socket.connected = true) {limits : List Nat} (takes : ∀ n ∈ limits, 0 < n)
    (enough : l.socket.waiting.length ≤ limits.length) :
    ∃ l', l.run (limits.map fun n => .writable true (.upTo n)) = .ok l' ∧
      l'.sent = l.accepted ∧ l'.socket.w = false := by
  induction limits generalizing l bytes with
  | nil =>
      have none : l.socket.waiting = [] := List.length_eq_zero_iff.mp (Nat.le_zero.mp enough)
      rw [kept.buffered.waiting] at none
      refine ⟨l, rfl, ?_, ?_⟩
      · rw [kept.ordered, none, List.append_nil]
      · by_contra w
        have some := kept.idle (.inl connected) (by simpa using w)
        exact kept.buffered.ne_nil_iff.mp some none
  | cons n limits ih =>
      obtain ⟨next, between, applied, kept', valid', connected', same, fewer⟩ :=
        kept.progress valid connected (takes n List.mem_cons_self)
      rw [List.length_cons] at enough
      obtain ⟨l', ran, sent, w⟩ := ih kept' valid' connected'
        (fun m mem => takes m (List.mem_cons_of_mem n mem)) (by omega)
      refine ⟨l', ?_, sent.trans same, w⟩
      rw [List.map_cons, Connection.run, List.foldlM_cons, applied, ok_bind]
      exact ran

/-! ### Whole runs -/

/-- In every run no event faults, and the bytes that are sent and those that wait, first in the
output buffer and then in the blocks behind it, are those that were accepted, in order. -/
theorem sent_in_order {size : Nat} (room : 0 < size) (memory : Vector UInt8 (2 * size))
    (origin : Origin) (events : List Event) :
    ∃ l, (start memory origin).run events = .ok l ∧ l.accepted = l.sent ++ l.socket.waiting := by
  obtain ⟨l, bytes, ran, kept⟩ := (start_kept room memory origin).run events
  refine ⟨l, ran, ?_⟩
  rw [kept.buffered.waiting]
  exact kept.ordered

def oneByte : Vector UInt8 (2 * 1) := Vector.replicate 2 0

theorem sent_in_order_two : ∃ l, (start oneByte .accepted).run [.sendBuf [7, 8] (.upTo 1)] = .ok l ∧
    l.accepted = l.sent ++ l.socket.waiting :=
  sent_in_order Nat.one_pos oneByte .accepted [.sendBuf [7, 8] (.upTo 1)]

/-- In every run the output buffer is empty exactly when nothing waits, so the blocks never wait
behind an empty one, and until then the handler watches for a connected socket to become writable.
-/
theorem watched_while_waiting {size : Nat} (room : 0 < size) (memory : Vector UInt8 (2 * size))
    (origin : Origin) (events : List Event) :
    ∃ l, (start memory origin).run events = .ok l ∧
      (l.socket.getOutputLength = 0 ↔ l.socket.waiting = []) ∧
      (l.socket.valid = true → l.socket.connected = true →
        (l.socket.w = true ↔ l.socket.waiting ≠ [])) := by
  obtain ⟨l, bytes, ran, kept⟩ := (start_kept room memory origin).run events
  have some := kept.buffered.ne_nil_iff
  refine ⟨l, ran, ?_, ?_⟩
  · rw [kept.buffered.waiting, TcpSocket.getOutputLength, kept.buffered.length_eq_zero_iff]
    exact not_iff_not.mp some
  · intro valid connected
    rw [kept.buffered.waiting, ← some]
    exact ⟨kept.idle (.inl connected), kept.watched valid connected⟩

theorem watched_while_waiting_two :
    ∃ l, (start oneByte .opening).run [.sendBuf [7, 8] .wouldBlock] = .ok l ∧
      (l.socket.getOutputLength = 0 ↔ l.socket.waiting = []) ∧
      (l.socket.valid = true → l.socket.connected = true →
        (l.socket.w = true ↔ l.socket.waiting ≠ [])) :=
  watched_while_waiting Nat.one_pos oneByte .opening [.sendBuf [7, 8] .wouldBlock]

/-- In every run `Select` shuts a socket down in good order only once all it has accepted is sent,
and it accepts nothing from then on, whatever else happens to the socket. -/
theorem shut_down_after_sending {size : Nat} (room : 0 < size) (memory : Vector UInt8 (2 * size))
    (origin : Origin) (events : List Event) :
    ∃ l, (start memory origin).run events = .ok l ∧
      (l.shut = true → l.sent = l.accepted ∧ l.socket.ready = false) := by
  obtain ⟨l, bytes, ran, kept⟩ := (start_kept room memory origin).run events
  refine ⟨l, ran, ?_⟩
  intro shut
  have none := kept.buffered.ne_nil_iff.not.mp (not_not.mpr (kept.done shut).2.2)
  refine ⟨?_, (kept.quiet shut).2.1⟩
  rw [kept.ordered, not_not.mp none, List.append_nil]

theorem shut_down_after_sending_one :
    ∃ l, (start oneByte .accepted).run
        [.sendBuf [7] (.upTo 1), .setCloseAndDelete, .checkClose false] = .ok l ∧
      (l.shut = true → l.sent = l.accepted ∧ l.socket.ready = false) :=
  shut_down_after_sending Nat.one_pos oneByte .accepted
    [.sendBuf [7] (.upTo 1), .setCloseAndDelete, .checkClose false]

/-- A socket that is connected after some events sends all it has accepted when `OnWrite` is called
as often as bytes wait and `send` takes a byte or more each time, and is then not watched for
writing. -/
theorem sends_all {size : Nat} (room : 0 < size) (memory : Vector UInt8 (2 * size))
    (origin : Origin) {events : List Event} {l : Connection}
    (ran : (start memory origin).run events = .ok l) (valid : l.socket.valid = true)
    (connected : l.socket.connected = true) {limits : List Nat} (takes : ∀ n ∈ limits, 0 < n)
    (enough : l.socket.waiting.length ≤ limits.length) :
    ∃ l', l.run (limits.map fun n => .writable true (.upTo n)) = .ok l' ∧
      l'.sent = l.accepted ∧ l'.socket.w = false := by
  obtain ⟨l₁, bytes, ran₁, kept⟩ := (start_kept room memory origin).run events
  have same : l₁ = l := Except.ok.inj (ran₁.symm.trans ran)
  subst same
  exact kept.drain valid connected takes enough

theorem sends_all_two : ∃ l l',
    (start oneByte .accepted).run [.sendBuf [7, 8] .wouldBlock] = .ok l ∧
      l.run ([1, 1].map fun n => .writable true (.upTo n)) = .ok l' ∧
      l'.sent = l.accepted ∧ l'.socket.w = false := by
  have ran : (start oneByte .accepted).run [.sendBuf [7, 8] .wouldBlock] = .ok _ := rfl
  have takes : ∀ n ∈ [1, 1], 0 < n := by simp
  obtain ⟨l', ran', sent, w⟩ :=
    sends_all Nat.one_pos oneByte .accepted ran rfl rfl takes (by decide)
  exact ⟨_, l', ran, ran', sent, w⟩

end Connection

end NoxServer.Network
