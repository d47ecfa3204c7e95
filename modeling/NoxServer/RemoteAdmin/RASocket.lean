import NoxServer.Library.Transcript
import NoxServer.Shared.Errors

/-!
`RASocket` (`noxserverd/RASocket.cpp`): remote administration over a TCP connection.

A connection goes through three stages. It names a user with a line `USER`, gives that
user's password with a line `PASS`, and from then on its lines are commands. `iUsers`
counts the connections in the last stage. Lines come in fragments: what a fragment holds
behind a line end is dropped, and before the user is named so is a longer fragment that
does not begin with `USER`.

The transcript records for each connection what it received and what came of it. What is
written to the log file is left out.
-/

namespace NoxServer

namespace RemoteAdmin

def raBuffSize : Nat := 1024

/-- `TCP_BUFSIZE_READ`: the most `recv` is asked for, and the size of `ibuf`. -/
def tcpBufsizeRead : Nat := 16400

/-- The characters up to the terminator, which are what the string functions see. -/
def cString (bytes : List UInt8) : List UInt8 := bytes.takeWhile (· ≠ 0)

def userCommand : List UInt8 := [85, 83, 69, 82, 32]

def passCommand : List UInt8 := [80, 65, 83, 83, 32]

/-- `buff`, as it was allocated. -/
structure Buff where
  bytes : List UInt8
  full : bytes.length = raBuffSize

/-- A copy into `buff`. -/
def Buff.write (buff : Buff) (pos : Nat) (src : List UInt8) : Except Fault Buff :=
  if inside : pos + src.length ≤ raBuffSize then
    .ok {
      bytes := buff.bytes.take pos ++ src ++ buff.bytes.drop (pos + src.length)
      full := by
        have full := buff.full
        simp only [List.length_append, List.length_take, List.length_drop]
        omega }
  else .error .outOfBounds

inductive Stage where
  /-- Initial value. -/
  | none
  /-- Only the login was entered. -/
  | lg
  /-- Login and password were given. -/
  | ok
  deriving DecidableEq, Repr

/-- A row of `SELECT password, gmlevel FROM account`; a field may be NULL. -/
structure Row where
  password : Option { text : List UInt8 // 0 ∉ text }
  gmlevel : UInt32
  deriving DecidableEq

/-- What a connection does. -/
inductive Event where
  /-- The constructor, which reads `RA.MinLevel`. -/
  | accepted (iMinLevel : UInt8)
  | received (chunk : List UInt8)
  | sendf (text : String)
  /-- A line is complete in `buff`. -/
  | line (text : List UInt8)
  | queried (login : List UInt8) (answer : Option Row)
  | parseCommand (command : List UInt8)
  deriving DecidableEq

structure RASocket where
  buff : Buff
  szLogin : List UInt8 := []
  szPass : List UInt8 := []
  iInputLength : Nat := 0
  bSecure : Bool
  iMinLevel : UInt8
  stage : Stage := .none
  /-- `TcpSocket`'s input buffer. -/
  ibuf : List UInt8 := []
  closeAndDelete : Bool := false

namespace RASocket

def setCloseAndDelete (s : RASocket) : RASocket := { s with closeAndDelete := true }

/-- `if(bSecure) SetCloseAndDelete()`. -/
def kick (s : RASocket) : RASocket := if s.bSecure then s.setCloseAndDelete else s

/-- What `dropclient` sends. -/
def busy : Event := .sendf "I'm busy right now, come back later."

def onAccept (motd : String) (iUsers : UInt32) (s : RASocket) : RASocket × List Event :=
  if iUsers ≠ 0 then (s.setCloseAndDelete, [busy])
  else (s, [.sendf (motd ++ "\r\n")])

/-- `TcpSocket::OnRead()`: `chunk` is what `recv` returns, nothing when the peer closed or
the read failed. Bytes for which `ibuf` has no room are lost. -/
def tcpOnRead (chunk : List UInt8) (s : RASocket) : RASocket :=
  if chunk = [] then s.setCloseAndDelete
  else if chunk.length ≤ tcpBufsizeRead ∧ s.ibuf.length + chunk.length ≤ tcpBufsizeRead then
    { s with ibuf := s.ibuf ++ chunk }
  else s

def lineEnd (c : UInt8) : Bool := c = 13 ∨ c = 10

/-- `case NONE` of `OnRead`. `database` is what the query answers for a user name. -/
def handleUser (database : List UInt8 → Option Row) (s : RASocket) :
    Except Fault (RASocket × List Event) :=
  if s.buff.bytes.take 5 = userCommand then
    let login := cString (s.buff.bytes.drop 5)
    let s := { s with szLogin := login }
    match database login with
    | none => .ok (s.kick, [.queried login none, .sendf "-No such user.\r\n"])
    | some row =>
        match row.password with
        -- A `std::string` made of a NULL pointer.
        | none => .error .nullPointer
        | some password =>
            let s := { s with szPass := password.1 }
            if row.gmlevel < s.iMinLevel.toUInt32 then
              .ok (s.kick, [.queried login (some row), .sendf "-Not enough privileges.\r\n"])
            else .ok ({ s with stage := .lg }, [.queried login (some row)])
  else .ok (s, [])

/-- `case LG` of `OnRead`. -/
def handlePass (s : RASocket) (iUsers : UInt32) : RASocket × UInt32 × List Event :=
  if s.buff.bytes.take 5 = passCommand then
    if cString (s.buff.bytes.drop 5) = cString s.szPass then
      ({ s with stage := .ok }, iUsers + 1, [.sendf "+Logged in.\r\n"])
    else (s.kick, iUsers, [.sendf "-Wrong pass.\r\n"])
  else (s, iUsers, [])

/-- `case OK` of `OnRead`. -/
def handleCommand (s : RASocket) : List Event :=
  if cString s.buff.bytes ≠ [] then [.parseCommand (cString s.buff.bytes)] else []

/-- `switch(stage)`, when a line is complete. -/
def handleLine (database : List UInt8 → Option Row) (s : RASocket) (iUsers : UInt32) :
    Except Fault (RASocket × UInt32 × List Event) :=
  let line := Event.line (cString s.buff.bytes)
  match s.stage with
  | .none => do
      let (s, events) ← s.handleUser database
      return (s, iUsers, line :: events)
  | .lg =>
      let (s, iUsers, events) := s.handlePass iUsers
      .ok (s, iUsers, line :: events)
  | .ok => .ok (s, iUsers, line :: s.handleCommand)

/-- Puts what was read behind what `buff` holds, up to a line end. -/
def takeInput (database : List UInt8 → Option Row) (inp : List UInt8) (s : RASocket)
    (iUsers : UInt32) : Except Fault (RASocket × UInt32 × List Event) := do
  let kept := inp.takeWhile fun c => ¬ lineEnd c
  let buff ← s.buff.write s.iInputLength kept
  let length := s.iInputLength + kept.length
  if kept.length < inp.length then
    let buff ← buff.write length [0]
    handleLine database { s with buff := buff, iInputLength := 0 } iUsers
  else .ok ({ s with buff := buff, iInputLength := length }, iUsers, [])

def onRead (database : List UInt8 → Option Row) (chunk : List UInt8) (s : RASocket)
    (iUsers : UInt32) : Except Fault (RASocket × UInt32 × List Event) :=
  let s := s.tcpOnRead chunk
  let sz := s.ibuf.length
  -- The sum is one of 32-bit numbers.
  if (s.iInputLength + sz) % 0x100000000 ≥ raBuffSize then .ok (s.setCloseAndDelete, iUsers, [])
  else if s.stage ≠ .ok ∧ iUsers ≠ 0 then .ok (s.setCloseAndDelete, iUsers, [busy])
  else
    let inp := s.ibuf
    let s := { s with ibuf := [] }
    if s.stage = .none ∧ sz > 4 ∧ inp.take 5 ≠ userCommand then .ok (s, iUsers, [])
    else takeInput database inp s iUsers

end RASocket

/-! ### All connections -/

/-- The connections by the order in which they came, `none` when one is gone, the number
of active administrators, and what has happened. -/
structure Admins where
  sockets : List (Option RASocket) := []
  iUsers : UInt32 := 0
  transcript : List (Nat × Event) := []

/-- What the socket handler does with connections. -/
inductive Action where
  /-- A connection is accepted. `buff` is allocated as it is, not cleared. -/
  | accept (bSecure : Bool) (iMinLevel : UInt8) (buff : Buff) (motd : String)
  | read (id : Nat) (chunk : List UInt8) (database : List UInt8 → Option Row)
  /-- The socket is deleted. -/
  | delete (id : Nat)

namespace Admins

def socket? (s : Admins) (id : Nat) : Option RASocket := s.sockets[id]?.join

/-- Adds to the transcript what a connection did. -/
def note (s : Admins) (id : Nat) (events : List Event) : Admins :=
  { s with transcript := s.transcript ++ events.map fun e => (id, e) }

/-- `RASocket::RASocket` and `OnAccept`. -/
def accept (bSecure : Bool) (iMinLevel : UInt8) (buff : Buff) (motd : String) (s : Admins) :
    Admins :=
  let (socket, events) :=
    RASocket.onAccept motd s.iUsers { buff := buff, bSecure := bSecure, iMinLevel := iMinLevel }
  { s with sockets := s.sockets ++ [some socket] }.note s.sockets.length
    (.accepted iMinLevel :: events)

/-- `OnRead` of a connection. -/
def read (id : Nat) (chunk : List UInt8) (database : List UInt8 → Option Row) (s : Admins) :
    Except Fault Admins :=
  match s.socket? id with
  | none => .ok s
  | some socket => do
      let (socket, iUsers, events) ← socket.onRead database chunk s.iUsers
      return { s with sockets := s.sockets.set id (some socket), iUsers := iUsers }.note id
        (.received chunk :: events)

/-- `RASocket::~RASocket`. -/
def delete (id : Nat) (s : Admins) : Admins :=
  match s.socket? id with
  | none => s
  | some socket =>
      { s with
        sockets := s.sockets.set id none
        iUsers := if socket.stage = .ok then s.iUsers - 1 else s.iUsers }

def apply (s : Admins) : Action → Except Fault Admins
  | .accept bSecure iMinLevel buff motd => .ok (s.accept bSecure iMinLevel buff motd)
  | .read id chunk database => s.read id chunk database
  | .delete id => .ok (s.delete id)

/-- One action that does not stop the server. -/
def Step (s : Admins) (action : Action) (t : Admins) : Prop := s.apply action = .ok t

end Admins

end RemoteAdmin

end NoxServer
