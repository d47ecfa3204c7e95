import Mathlib.Data.List.Infix
import NoxServer.Network.LineProtocol
import NoxServer.Network.TcpSocket

/-!
The pings of the WOL server (`WolSocket::OnLine`).

A line with a `PING` in it is answered by a `PONG`. The lines come from the line protocol, which may
leave a line feed at the start of a line, and the answers go to the output buffer. Neither how the
stream of the WOL server is cut by `recv` nor what `send` takes has a part in what is answered: one
`PONG` for each line with a `PING`, in order (`pongs_accepted`).

What `OnLine` writes to the debug log is left out.
-/

namespace NoxServer.Wol

open Network

def ping : List UInt8 := [0x50, 0x49, 0x4E, 0x47]

/-- `"PONG :ircdev.westwood.com\n"`. -/
def pong : List UInt8 := "PONG :ircdev.westwood.com\n".toUTF8.toList

/-- `line.find("PING") != std::string::npos`. -/
def findPing (line : List UInt8) : Bool := line.tails.any ping.isPrefixOf

/-- A `WolSocket`: how it reads and how it sends. -/
structure WolSocket where
  reader : LineReader
  connection : Connection

def onLine (l : Connection) (line : List UInt8) (sent : Sent) : Except Fault Connection :=
  if findPing line then l.apply (.sendBuf pong sent) else .ok l

/-- `OnLine` for the lines that `OnRead` has read; the number of a line says what `send` does. -/
def onLines (sends : Nat → Sent) (l : Connection) : Nat → List (List UInt8) →
    Except Fault Connection
  | _, [] => .ok l
  | k, line :: lines => onLine l line (sends k) >>= fun l => onLines sends l (k + 1) lines

/-- `OnRead()`, when `recv` returns `chunk`. -/
def WolSocket.onRead (w : WolSocket) (sends : Nat → Sent) (chunk : List UInt8) :
    Except Fault WolSocket :=
  let read := w.reader.onRead chunk
  onLines sends w.connection 0 read.2 >>= fun l => .ok ⟨read.1, l⟩

/-- What `recv` returns one after another, and what `send` does meanwhile. -/
def WolSocket.onReads (w : WolSocket) : List (List UInt8 × (Nat → Sent)) → Except Fault WolSocket
  | [] => .ok w
  | (chunk, sends) :: chunks => w.onRead sends chunk >>= fun w => w.onReads chunks

/-! ### One line -/

/-- The answers to some lines. -/
def pongs (lines : List (List UInt8)) : List UInt8 := (lines.filter findPing).flatMap fun _ => pong

/-- A socket that is ready, and whose connection is in order. -/
structure Alive (l : Connection) : Prop where
  kept : ∃ bytes, l.Kept bytes
  ready : l.socket.ready = true

theorem transmit_ready {s s' : TcpSocket} {sent : Sent} {out : List UInt8} (works : sent ≠ .failed)
    (ran : s.transmit sent = .ok (s', out)) : s'.ready = s.ready := by
  cases sent with
  | failed => exact absurd rfl works
  | wouldBlock =>
      cases ran
      rfl
  | upTo limit =>
      simp only [TcpSocket.transmit] at ran
      split at ran
      · cases ran
        rfl
      · obtain ⟨bytes, _, ran⟩ := bind_eq_ok.mp ran
        obtain ⟨moved, _, ran⟩ := bind_eq_ok.mp ran
        cases ran
        rfl

/-- A socket that is ready accepts what it is given, and stays ready unless `send` fails. -/
theorem Alive.sendBuf {l : Connection} (alive : Alive l) (buf : List UInt8) {sent : Sent}
    (works : sent ≠ .failed) :
    ∃ l', l.apply (.sendBuf buf sent) = .ok l' ∧ Alive l' ∧ l'.accepted = l.accepted ++ buf := by
  obtain ⟨bytes, kept⟩ := alive.kept
  obtain ⟨l', bytes', applied, kept'⟩ := kept.sendBuf buf sent
  have ready := alive.ready
  have takes : (l.socket.ready || l.socket.connecting) = true := by rw [ready, Bool.true_or]
  refine ⟨l', applied, ⟨⟨bytes', kept'⟩, ?_⟩, ?_⟩
  · obtain ⟨obuf, ptr, _, filled, _⟩ := fill_run kept.buffered buf
    simp only [Connection.apply, Connection.sendBuf_takes takes filled] at applied
    obtain ⟨⟨s', out⟩, ran, applied⟩ := bind_eq_ok.mp applied
    cases applied
    change s'.ready = true
    split at ran
    · have settled : l.socket.connecting = false := by
        simp only [TcpSocket.ready, Bool.and_eq_true, Bool.not_eq_true'] at ready
        exact ready.1.2
      let buffered : TcpSocket :=
        { l.socket with obuf := obuf, mes := l.socket.mes ++ blocks (buf.drop ptr) }
      have transmitted :=
        (Connection.onWrite_settled (s := buffered) settled true sent).symm.trans ran
      exact (transmit_ready works transmitted).trans ready
    · cases ran
      exact ready
  · simp only [Connection.apply] at applied
    obtain ⟨written, _, applied⟩ := bind_eq_ok.mp applied
    cases applied
    rw [if_pos takes]

/-- While no `send` fails, the lines that have come are answered one after the other, and what is
accepted is one `PONG` for each `PING`. -/
theorem Alive.onLines {l : Connection} (alive : Alive l) {sends : Nat → Sent}
    (works : ∀ k, sends k ≠ .failed) (k : Nat) (lines : List (List UInt8)) :
    ∃ l', onLines sends l k lines = .ok l' ∧ Alive l' ∧
      l'.accepted = l.accepted ++ pongs lines := by
  induction lines generalizing l k with
  | nil => exact ⟨l, rfl, alive, (List.append_nil _).symm⟩
  | cons line lines ih =>
      rw [Wol.onLines, onLine]
      cases found : findPing line with
      | true =>
          obtain ⟨next, applied, alive', accepted⟩ := alive.sendBuf pong (works k)
          obtain ⟨l', ran, alive'', accepted'⟩ := ih alive' (k + 1)
          refine ⟨l', ?_, alive'', ?_⟩
          · rw [if_pos rfl, applied, ok_bind, ran]
          · rw [accepted', accepted, List.append_assoc, pongs, pongs, List.filter_cons, found,
              if_pos rfl, List.flatMap_cons]
      | false =>
          obtain ⟨l', ran, alive', accepted⟩ := ih alive (k + 1)
          refine ⟨l', ?_, alive', ?_⟩
          · rw [if_neg nofun, ok_bind, ran]
          · rw [accepted, pongs, pongs, List.filter_cons, found, if_neg nofun]

/-! ### Whole runs -/

theorem Alive.onReads {w : WolSocket} (alive : Alive w.connection)
    {input : List (List UInt8 × (Nat → Sent))} (works : ∀ read ∈ input, ∀ k, read.2 k ≠ .failed) :
    ∃ w', w.onReads input = .ok w' ∧ Alive w'.connection ∧
      w'.connection.accepted =
        w.connection.accepted ++ pongs (w.reader.onReads (input.map Prod.fst)).2 := by
  induction input generalizing w with
  | nil => exact ⟨w, rfl, alive, (List.append_nil _).symm⟩
  | cons read input ih =>
      obtain ⟨chunk, sends⟩ := read
      obtain ⟨next, lines, alive', accepted⟩ :=
        alive.onLines (works (chunk, sends) List.mem_cons_self) 0 (w.reader.onRead chunk).2
      obtain ⟨w', ran, alive'', accepted'⟩ :=
        ih (w := ⟨(w.reader.onRead chunk).1, next⟩) alive'
          fun read mem => works read (List.mem_cons_of_mem _ mem)
      refine ⟨w', ?_, alive'', ?_⟩
      · rw [WolSocket.onReads, WolSocket.onRead, lines, ok_bind, ok_bind, ran]
      · rw [accepted', accepted, List.append_assoc, List.map_cons, LineReader.onReads]
        simp only [pongs, List.filter_append, List.flatMap_append]

end NoxServer.Wol
