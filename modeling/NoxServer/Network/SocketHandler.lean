import Mathlib
import NoxServer.Library.OrderedMap
import NoxServer.Shared.Errors

/-!
The life of the sockets in a `SocketHandler` (`shared/Network/SocketHandler.cpp`, `Socket.cpp`,
`ListenSocket.h`).

A socket is put into `m_add`, goes on to `m_sockets` in the next `Select`, and is closed, told so
by `OnDelete` and deleted once it has been set to close; one that cannot be added goes to
`m_delete`. What the functions do that a class of sockets has overridden (`OnRead`, `OnDelete` and
so on) is not known to the handler: it is a script here, call by call, of any `Action`s. They call
the functions of `Setter` of any socket there is, add new sockets and accept some, but close and
delete none.

The sockets that are closed are those whose `Close` is that of `Socket`, as the one of `TcpSocket`
is without SSL. A `ListenSocket` has another one, which closes the descriptor and leaves `m_socket`
and the lists as they are: it can be among the sockets, but not be one that the handler closes. The
server sets none to close and destroys each before the handler, and a destructor calls the `Close`
of `Socket`.

No socket of the server is detached, pooled or resolved by name, and none reconnects or retries to
connect, so that the lists for these are always empty and are left out. What is written to the log
is left out too.
-/

namespace NoxServer.Network

open OrderedMap

/-! ### The functions of the source -/

/-- The fields of a `Socket` that its handler reads. `m_socket` is `none` where it is
`INVALID_SOCKET`. -/
structure Socket where
  socket : Option Nat := none
  tcp : Bool
  deleteByHandler : Bool
  closeAndDelete : Bool := false
  connecting : Bool := false
  callOnConnect : Bool := false
  connected : Bool := false
  flushBeforeClose : Bool := true
  disableRead : Bool := false
  shutdownWr : Bool := false
  erasedByHandler : Bool := false
  outputLength : Nat := 0

/-- The lists of descriptors that `AddList` changes. -/
inductive ListT where
  | callOnConnect
  | connecting
  | close
  deriving DecidableEq

namespace Socket

def ready (s : Socket) : Bool := s.socket.isSome && !s.connecting && !s.closeAndDelete

/-- The flag that goes with a list. -/
def flag (s : Socket) : ListT → Bool
  | .callOnConnect => s.callOnConnect
  | .connecting => s.connecting
  | .close => s.closeAndDelete

end Socket

/-- The functions of a socket that others call. -/
inductive Setter where
  | setCloseAndDelete
  | setConnecting (x : Bool)
  | setCallOnConnect (x : Bool)
  | setConnected (x : Bool)
  | setFlushBeforeClose (x : Bool)
  | disableRead (x : Bool)
  | setShutdown
  | set (r w e : Bool)
  /-- The output buffer has been filled or emptied. -/
  | output (length : Nat)

/-- A new socket: what `Attach` gives it, and what is done with it before it is added. -/
structure Made where
  socket : Option Nat
  tcp : Bool
  deleteByHandler : Bool
  setters : List Setter

/-- What the code around the handler does. -/
inductive Action where
  | call (p : Nat) (setter : Setter)
  | add (made : Made)
  /-- `ListenSocket::OnRead`, with the descriptor that `accept` gives. -/
  | accept (socket : Nat)

/-- What has become of sockets. -/
inductive Entry where
  /-- `OnDelete` was called. -/
  | told (p : Nat)
  /-- `Select` has deleted the socket. -/
  | deleted (p : Nat)
  /-- `Select` has closed the socket while it was in `m_add`. -/
  | closedInAdd (p : Nat)
  deriving DecidableEq

/-- The sockets there are, by address, a `SocketHandler`, and what the overridden functions are
still to do. -/
structure SocketHandler where
  heap : Nat → Option Socket := fun _ => none
  next : Nat := 0
  sockets : List (Nat × Nat) := []
  add : List (Nat × Nat) := []
  delete : List Nat := []
  fds : List Nat := []
  fdsErase : List Nat := []
  lists : ListT → List Nat := fun _ => []
  rfds : Nat → Bool := fun _ => false
  wfds : Nat → Bool := fun _ => false
  efds : Nat → Bool := fun _ => false
  maxsock : Nat := 0
  script : List (List Action) := []
  log : List Entry := []

/-- What `select` answers, and what the clock says of a socket, during a `Select`. -/
structure Turn where
  n : Int
  readable : Nat → Bool
  writable : Nat → Bool
  exceptional : Nat → Bool
  timedOut : Nat → Bool
  late : Nat → Bool

/-- The order of descriptors. -/
def fdLess (a b : Nat) : Bool := a < b

def fdSetsize : Nat := 1024

namespace SocketHandler

/-- What a pointer points to. -/
def deref (w : SocketHandler) (p : Nat) : Except Fault Socket :=
  match w.heap p with
  | some sock => .ok sock
  | none => .error .danglingPointer

/-- The fields of a socket are written. -/
def write (w : SocketHandler) (p : Nat) (sock : Socket) : SocketHandler :=
  { w with heap := Function.update w.heap p (some sock) }

/-- Something has become of a socket. -/
def record (w : SocketHandler) (entry : Entry) : SocketHandler := { w with log := w.log ++ [entry] }

def addList (w : SocketHandler) (s : Option Nat) (which : ListT) (add : Bool) : SocketHandler :=
  match s with
  | none => w
  | some s =>
      let rest := (w.lists which).erase s
      { w with lists := Function.update w.lists which (if add then rest ++ [s] else rest) }

/-- `Set(s, bRead, bWrite, bException)`; `bException` is true where a call does not say. -/
def set (w : SocketHandler) (s : Option Nat) (bRead bWrite bException : Bool) : SocketHandler :=
  match s with
  | none => w
  | some s =>
      { w with
        rfds := Function.update w.rfds s bRead
        wfds := Function.update w.wfds s bWrite
        efds := Function.update w.efds s bException }

def getCount (w : SocketHandler) : Nat := w.sockets.length + w.add.length + w.delete.length

/-! #### Of a socket -/

def setCloseAndDelete (w : SocketHandler) (p : Nat) (sock : Socket) : SocketHandler :=
  if sock.closeAndDelete then w
  else (w.addList sock.socket .close true).write p { sock with closeAndDelete := true }

def setConnecting (w : SocketHandler) (p : Nat) (sock : Socket) (x : Bool) : SocketHandler :=
  if x = sock.connecting then w
  else (w.addList sock.socket .connecting x).write p { sock with connecting := x }

def setCallOnConnect (w : SocketHandler) (p : Nat) (sock : Socket) (x : Bool) : SocketHandler :=
  (w.addList sock.socket .callOnConnect x).write p { sock with callOnConnect := x }

/-- A function of a socket is called. -/
def call (w : SocketHandler) (p : Nat) (sock : Socket) : Setter → SocketHandler
  | .setCloseAndDelete => w.setCloseAndDelete p sock
  | .setConnecting x => w.setConnecting p sock x
  | .setCallOnConnect x => w.setCallOnConnect p sock x
  | .setConnected x => w.write p { sock with connected := x }
  | .setFlushBeforeClose x => w.write p { sock with flushBeforeClose := x }
  | .disableRead x => w.write p { sock with disableRead := x }
  | .setShutdown => w.write p { sock with shutdownWr := true }
  | .set r wr e => w.set sock.socket r wr e
  | .output length => w.write p { sock with outputLength := length }

/-- A function of a socket is called if there is the socket. -/
def callOn (w : SocketHandler) (p : Nat) (setter : Setter) : SocketHandler :=
  match w.heap p with
  | some sock => w.call p sock setter
  | none => w

def close (w : SocketHandler) (p : Nat) (sock : Socket) : SocketHandler :=
  match sock.socket with
  | none => w
  | some s =>
      let w := w.set s false false false
      let w := w.addList s .callOnConnect false
      let w := w.addList s .connecting false
      let w := w.addList s .close false
      w.write p { sock with socket := none }

def remove (w : SocketHandler) (p : Nat) (sock : Socket) : SocketHandler :=
  if sock.erasedByHandler then w
  else if w.sockets.any (·.2 = p) then { w with sockets := w.sockets.eraseP (·.2 = p) }
  else if w.add.any (·.2 = p) then { w with add := w.add.eraseP (·.2 = p) }
  else { w with delete := w.delete.erase p }

/-- `delete p`, which calls `~Socket()`. -/
def destroy (w : SocketHandler) (p : Nat) : Except Fault SocketHandler := do
  let sock ← w.deref p
  let w := (w.remove p sock).close p sock
  .ok { w with heap := Function.update w.heap p none }

def addSocket (w : SocketHandler) (p : Nat) (sock : Socket) : SocketHandler :=
  match sock.socket with
  | none => if sock.closeAndDelete then { w with delete := w.delete ++ [p] } else w
  | some s =>
      if (find fdLess s w.add).isSome then { w with delete := w.delete ++ [p] }
      else { w with add := put fdLess s p w.add }

/-! #### The code around the handler -/

/-- A descriptor is in use. -/
def isOpen (w : SocketHandler) (s : Nat) : Bool :=
  (List.range w.next).any fun p => (w.heap p).any fun sock => sock.socket = some s

/-- `new`, and `Attach`. -/
def newSocket (w : SocketHandler) (made : Made) : SocketHandler :=
  { w.write w.next
      { socket := made.socket, tcp := made.tcp, deleteByHandler := made.deleteByHandler } with
    next := w.next + 1 }

/-- A new socket is added. The system gives no descriptor that is in use. -/
def addMade (w : SocketHandler) (made : Made) : SocketHandler :=
  if made.socket.any w.isOpen then w
  else
    let p := w.next
    let w := made.setters.foldl (fun w setter => w.callOn p setter) (w.newSocket made)
    match w.heap p with
    | some sock => w.addSocket p sock
    | none => w

def act (w : SocketHandler) : Action → SocketHandler
  | .call p setter => w.callOn p setter
  | .add made => w.addMade made
  | .accept s =>
      if fdSetsize ≤ w.getCount then w
      else w.addMade ⟨some s, true, true, [.setConnected true]⟩

/-- A function of a socket that may be overridden is called. -/
def callback (w : SocketHandler) (p : Nat) : Except Fault SocketHandler := do
  let _ ← w.deref p
  match w.script with
  | [] => .ok w
  | actions :: script => .ok (actions.foldl act { w with script })

/-! #### Select -/

/-- The first entry of `m_add` goes to `m_sockets`. -/
def activate (w : SocketHandler) (s p : Nat) (sock : Socket) : SocketHandler :=
  let w :=
    if sock.closeAndDelete then w
    else
      let bWrite := sock.tcp && sock.outputLength != 0
      let w :=
        if sock.connecting then w.set s false true true
        else w.set s (!sock.disableRead) bWrite true
      { w with maxsock := max s w.maxsock }
  { w with
    fds := w.fds ++ [s]
    sockets := put fdLess s p w.sockets
    add := w.add.tail }

/-- The loop over `m_add`, for `m_add.size() - ignore` turns. -/
def addLoop : Nat → SocketHandler → Except Fault SocketHandler
  | 0, w => .ok w
  | turns + 1, w =>
      if fdSetsize ≤ w.sockets.length then .ok w
      else
        match w.add with
        | [] => .ok w
        | (s, p) :: _ => do
            let sock ← w.deref p
            if (sock.socket.bind (find fdLess · w.sockets)).isSome then addLoop turns w
            else addLoop turns (w.activate s p sock)

/-- One of the three checks of a descriptor, and what is left of `n`. -/
def checkReady (isSet : Bool) (i : Nat) (w : SocketHandler) (n : Int) :
    Except Fault (SocketHandler × Int) :=
  if isSet then
    match find fdLess i w.sockets with
    | some p => do
        let w ← w.callback p
        .ok (w, n - 1)
    | none => .ok (w, n - 1)
  else .ok (w, n)

/-- The loop over `m_fds`. -/
def eventLoop (rfds wfds efds : Nat → Bool) :
    List Nat → SocketHandler → Int → Except Fault SocketHandler
  | [], w, _ => .ok w
  | i :: fds, w, n =>
      if n = 0 then .ok w
      else
        checkReady (rfds i) i w n >>= fun read =>
          checkReady (wfds i) i read.1 read.2 >>= fun written =>
            checkReady (efds i) i written.1 written.2 >>= fun checked =>
              eventLoop rfds wfds efds fds checked.1 checked.2

/-- `select`, and the functions of the sockets that are ready. -/
def events (w : SocketHandler) (turn : Turn) : Except Fault SocketHandler :=
  if 0 < turn.n then
    eventLoop (fun i => w.rfds i && i ≤ w.maxsock && turn.readable i)
      (fun i => w.wfds i && i ≤ w.maxsock && turn.writable i)
      (fun i => w.efds i && i ≤ w.maxsock && turn.exceptional i) w.fds w turn.n
  else .ok w

/-- The socket of a descriptor, in `m_sockets` or else in `m_add`. -/
def found (w : SocketHandler) (s : Nat) : Option Nat :=
  (find fdLess s w.sockets).or (find fdLess s w.add)

/-- `OnWrite`, if a socket that has been connected has something to write. -/
def writeOut (w : SocketHandler) (p : Nat) (sock : Socket) : Except Fault SocketHandler :=
  if sock.tcp && sock.outputLength != 0 then w.callback p else .ok w

/-- A descriptor in `m_fds_callonconnect`. -/
def checkCallOnConnect (w : SocketHandler) (s : Nat) : Except Fault SocketHandler :=
  match find fdLess s w.sockets with
  | none => .ok w
  | some p => do
      let sock ← w.deref p
      if sock.callOnConnect && sock.ready then do
        let w ← (w.write p { sock with connected := true }).writeOut p sock
        -- `OnConnect`
        let w ← w.callback p
        let sock ← w.deref p
        .ok (w.setCallOnConnect p sock false)
      else .ok w

/-- A descriptor in `m_fds_connecting`. -/
def checkConnecting (turn : Turn) (w : SocketHandler) (s : Nat) : Except Fault SocketHandler :=
  match w.found s with
  | none => .ok w
  | some p => do
      let sock ← w.deref p
      if sock.connecting && turn.timedOut p then do
        -- `OnConnectFailed`
        let w ← (w.setCloseAndDelete p sock).callback p
        let sock ← w.deref p
        .ok (w.setConnecting p sock false)
      else .ok w

/-- What is on record of a socket that is closed: whether it is still in `m_add`. -/
def recordClose (w : SocketHandler) (nn p : Nat) : SocketHandler :=
  if (find fdLess nn w.sockets).isSome then w else w.record (.closedInAdd p)

/-- A socket that the handler is to delete is marked. -/
def markErased (w : SocketHandler) (p : Nat) (sock : Socket) : SocketHandler :=
  if sock.deleteByHandler then w.write p { sock with erasedByHandler := true } else w

/-- A descriptor in `m_fds_close`. -/
def checkClose (turn : Turn) (w : SocketHandler) (nn : Nat) : Except Fault SocketHandler :=
  match w.found nn with
  | none => .ok w
  | some p => do
      let sock ← w.deref p
      if !sock.closeAndDelete then .ok w
      else if sock.tcp && sock.connected && sock.flushBeforeClose && !turn.late p then
        if sock.outputLength = 0 then .ok (w.write p { sock with shutdownWr := true }) else .ok w
      else do
        let w := ((w.recordClose nn p).set sock.socket false false false).close p sock
        -- `OnDelete`
        let w ← (w.record (.told p)).callback p
        let sock ← w.deref p
        let w := w.markErased p sock
        .ok { w with fdsErase := w.fdsErase ++ [nn] }

/-- A socket that the handler has marked is deleted. -/
def deleteErased (w : SocketHandler) (p : Nat) (sock : Socket) : Except Fault SocketHandler :=
  if sock.erasedByHandler then (w.record (.deleted p)).destroy p else .ok w

/-- A descriptor in `m_fds_erase`. -/
def eraseFd (w : SocketHandler) (nn : Nat) : Except Fault SocketHandler :=
  let w := { w with fds := w.fds.erase nn }
  match find fdLess nn w.sockets with
  | none => .ok w
  | some p => do
      let sock ← w.deref p
      let w ← w.deleteErased p sock
      .ok { w with sockets := erase fdLess nn w.sockets }

/-- The loop over `m_fds_erase`. -/
def eraseLoop : List Nat → SocketHandler → Except Fault SocketHandler
  | [], w => .ok w
  | nn :: rest, w => do
      let w ← w.eraseFd nn
      eraseLoop rest { w with fdsErase := rest }

/-- The sockets in `m_fds_erase` are erased, and the highest descriptor is found again. -/
def eraseFds (w : SocketHandler) : Except Fault SocketHandler :=
  if w.fdsErase.isEmpty then .ok w
  else do
    let w ← eraseLoop w.fdsErase w
    .ok { w with maxsock := w.fds.foldl max 0 }

/-- The loop over `m_delete`, for some turns. -/
def deleteLoop : Nat → SocketHandler → Except Fault SocketHandler
  | 0, w => .ok w
  | turns + 1, w =>
      match w.delete with
      | [] => .ok w
      | p :: _ => do
          -- `OnDelete`
          let w ← (w.record (.told p)).callback p
          let w := { w with delete := w.delete.tail }
          let sock ← w.deref p
          if sock.deleteByHandler then do
            let w := w.write p { sock with erasedByHandler := true }
            let w ← (w.record (.deleted p)).destroy p
            deleteLoop turns w
          else deleteLoop turns w

/-- How much the overridden functions are still to do. -/
def pending (w : SocketHandler) : Nat := (w.script.map List.length).sum

/-- `Select`, from the call of `select` on. -/
def serve (turn : Turn) (w : SocketHandler) : Except Fault SocketHandler := do
  let w ← w.events turn
  let w ← (w.lists .callOnConnect).foldlM checkCallOnConnect w
  let w ← (w.lists .connecting).foldlM (checkConnecting turn) w
  let w ← (w.lists .close).foldlM (checkClose turn) w
  let w ← w.eraseFds
  deleteLoop (w.delete.length + w.pending) w

def select (turn : Turn) (w : SocketHandler) : Except Fault SocketHandler := do
  let w ← addLoop w.add.length w
  w.serve turn

/-- A socket that the handler is to delete is deleted with it. -/
def deleteOwn (w : SocketHandler) (p : Nat) (sock : Socket) : Except Fault SocketHandler :=
  if sock.deleteByHandler then (w.write p { sock with erasedByHandler := true }).destroy p
  else .ok w

/-- An entry of `m_sockets` when the handler is destroyed. -/
def abandon (w : SocketHandler) (s p : Nat) : Except Fault SocketHandler := do
  let sock ← w.deref p
  let w := w.close p sock
  let sock ← w.deref p
  let w ← w.deleteOwn p sock
  .ok { w with sockets := erase fdLess s w.sockets }

def destructor (w : SocketHandler) : Except Fault SocketHandler :=
  w.sockets.foldlM (fun w entry => w.abandon entry.1 entry.2) w

/-! ### Runs -/

/-- What the server does with a handler. A socket that the handler is not to delete may be deleted
by the code around it, between one `Select` and the next. -/
inductive Step where
  | act (action : Action)
  | delete (p : Nat)
  | select (turn : Turn)

def step (w : SocketHandler) : Step → Except Fault SocketHandler
  | .act action => .ok (w.act action)
  | .delete p =>
      if (w.heap p).any fun sock => !sock.deleteByHandler then w.destroy p else .ok w
  | .select turn => w.select turn

/-- One step after another, with a new handler. -/
def run (script : List (List Action)) (steps : List Step) : Except Fault SocketHandler :=
  steps.foldlM step { script }

end SocketHandler

end NoxServer.Network
