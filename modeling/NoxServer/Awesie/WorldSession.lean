import NoxServer.Shared.Streams

/-!
The sessions of the server under `awesie_test` (`world_session.cpp`), with what they reach of
`world` and `world_socket`.

Sessions are allocated one after the other, and a session's number is its pointer; a session
stays there when the table of the socket no longer has it, until it is deleted. `Rest` stands
for what the handlers do besides: read the packet, change `Own`, send, and work on the rest of
the world. Nothing is assumed about it. No handler touches a session's endpoint, id, key or
receive queue, and a player comes and goes with the three handlers that are given here.

`ASSERT` is empty in this server, so a read beyond a packet is undefined.
-/

namespace NoxServer

namespace Awesie

/-- Why an update is not carried out: an access C++ leaves undefined, or a loop that has not
ended within the given number of rounds. -/
inductive Stop where
  | outOfBounds
  | danglingPointer
  | stillRunning
  deriving DecidableEq

/-- `udp::endpoint`, with an IPv4 address. -/
structure Endpoint where
  address : UInt32
  port : UInt16
  deriving DecidableEq

inductive SessionStatus where
  | authed
  | confirmed
  | loggedIn
  deriving DecidableEq

structure WorldPacket where
  opcode : UInt8 := 0
  accountId : UInt8 := 0
  xor : UInt8 := 0
  unk : UInt8 := 0
  endpoint : Endpoint
  buffer : ByteBuffer := {}
  deriving DecidableEq

/-- `initialize(opcode, id, endpoint)`: the other two fields stay. -/
def WorldPacket.initializeWith (packet : WorldPacket) (opcode accountId : UInt8)
    (endpoint : Endpoint) : WorldPacket :=
  { packet with opcode := opcode, accountId := accountId, endpoint := endpoint, buffer := {} }

/-- What any handler may change of a session. -/
structure Own where
  playerLoading : Bool := false
  timestamp : UInt32 := 1000
  unk : UInt8 := 0
  deriving DecidableEq

structure WorldSession where
  endpoint : Endpoint
  receiveQueue : List WorldPacket := []
  sendPacket : WorldPacket
  status : SessionStatus := .authed
  playerId : UInt8
  xor : UInt8 := 0
  /-- `m_player` is not NULL. -/
  player : Bool := false
  playerLoggingOut : Bool := false
  own : Own := {}
  deriving DecidableEq

def WorldSession.new (id : UInt8) (endpoint : Endpoint) : WorldSession where
  endpoint := endpoint
  sendPacket := { accountId := id, endpoint := endpoint }
  playerId := id

/-- `world`, `world_socket` and the sessions. `players` is `m_players`, with a player given by
its session; `sendQueue` and `sent` have the session each packet is from, or none when the
socket answers itself; `joins` has for each session the endpoint its join came from. -/
structure Server (η : Type) where
  freeIds : List UInt8
  players : List (UInt8 × Nat) := []
  heap : List (Option WorldSession) := []
  sessions : List (Endpoint × Nat) := []
  sendQueue : List (Option Nat × WorldPacket) := []
  sent : List (Option Nat × Endpoint × List UInt8) := []
  joins : List Endpoint := []
  world : η

/-- What a handler may send: to its own client, to all, or the combined packet at once. -/
inductive Send where
  | own (packet : WorldPacket) (ifReady changeUnk : Bool)
  | all (packet : WorldPacket)
  | flush

/-- What the handlers do besides. -/
structure Rest (η : Type) where
  /-- The handlers that are not among `OpcodeHandler`'s own three. -/
  handlers : UInt8 → Option (SessionStatus ×
    (WorldPacket → WorldSession → η → Except Stop (ByteBuffer × Own × η × List Send)))
  /-- `HandlePlayerJoinOpcode` once the player is added. -/
  join : WorldSession → η → Except Stop (Own × η × List Send)
  /-- The player is taken out of the object manager and the physics. -/
  leave : WorldSession → η → η

variable {η : Type}

/-- A computation on the server. -/
abbrev Handling (η : Type) := StateT (Server η) (Except Stop)

/-- The session behind a pointer. -/
def Server.session? (s : Server η) (ptr : Nat) : Option WorldSession := s.heap[ptr]?.join

/-- An access through a session pointer. -/
def session (ptr : Nat) : Handling η WorldSession := fun s =>
  match s.session? ptr with
  | some here => .ok (here, s)
  | none => .error .danglingPointer

/-- A change through a session pointer. -/
def modifySession (ptr : Nat) (f : WorldSession → WorldSession) : Handling η Unit := do
  let here ← session ptr
  modify fun s => { s with heap := s.heap.set ptr (some (f here)) }

/-! ### Sending -/

/-- `world_socket::queue_packet`. -/
def queuePacket (sender : Option Nat) (packet : WorldPacket) : Handling η Unit :=
  modify fun s => { s with sendQueue := s.sendQueue ++ [(sender, packet)] }

/-- `_send_packet(packet)`, up to the packet being cleared. -/
def sendNow (ptr : Nat) (packet : WorldPacket) : Handling η Unit := do
  let here ← session ptr
  queuePacket (some ptr) { packet with endpoint := here.endpoint, xor := here.xor }

/-- `_send_packet(m_send_packet)`. -/
def flush (ptr : Nat) : Handling η Unit := do
  let here ← session ptr
  sendNow ptr here.sendPacket
  modifySession ptr fun s =>
    { s with sendPacket := { s.sendPacket with xor := s.xor }.initializeWith 0 0 s.endpoint }

/-- The combined packet with a packet added. -/
def combine (combined packet : WorldPacket) : WorldPacket :=
  let combined :=
    if combined.opcode = 0 then
      { combined with opcode := packet.opcode, accountId := packet.accountId, unk := packet.unk }
    else { combined with buffer := combined.buffer.extend [packet.opcode] }
  { combined with buffer := combined.buffer.extend packet.buffer.storage }

def sendPacket (ptr : Nat) (packet : WorldPacket) (ifReady changeUnk : Bool) :
    Handling η Unit := do
  let here ← session ptr
  if ifReady ∧ here.own.playerLoading then pure ()
  else
    let packet := if changeUnk then { packet with unk := here.own.unk } else packet
    if here.sendPacket.opcode ≠ 0 ∧ (packet.unk ≠ here.sendPacket.unk ∨
        packet.accountId ≠ here.sendPacket.accountId) then flush ptr
    modifySession ptr fun s => { s with sendPacket := combine s.sendPacket packet }

/-- The loop of `world_socket::send_to_all`. -/
def sendToEach (packet : WorldPacket) : List (Endpoint × Nat) → Handling η Unit
  | [] => pure ()
  | entry :: entries => do
      sendPacket entry.2 packet true true
      sendToEach packet entries

/-- `world_socket::send_to_all`. -/
def sendToAll (packet : WorldPacket) : Handling η Unit := do
  let s ← get
  sendToEach packet s.sessions

/-- What a handler sends, in order. -/
def performSends (ptr : Nat) : List Send → Handling η Unit
  | [] => pure ()
  | .own packet ifReady changeUnk :: sends => do
      sendPacket ptr packet ifReady changeUnk
      performSends ptr sends
  | .all packet :: sends => do
      sendToAll packet
      performSends ptr sends
  | .flush :: sends => do
      flush ptr
      performSends ptr sends

/-! ### Handlers -/

def logout (rest : Rest η) (ptr : Nat) : Handling η Unit := do
  let here ← session ptr
  if here.player then
    modify fun s => { s with
      world := rest.leave here s.world
      players := s.players.filter fun entry => entry.1 ≠ here.playerId }
  modifySession ptr fun s => { s with player := false, playerLoggingOut := true }

def handleJoinConfirmation (ptr : Nat) : Handling η Unit := do
  let here ← session ptr
  queuePacket (some ptr) {
    opcode := 0x1F
    accountId := 0x80
    endpoint := here.endpoint
    buffer := ByteBuffer.extend {} [0, 1, here.playerId, 0, 0, 0, here.xor] }
  modifySession ptr fun s => { s with status := .confirmed }

/-- The bytes `HandlePlayerJoinOpcode` reads. -/
def playerJoinSize : Nat := 1 + 1 + 0x61 + 0x1F + 9 + 0x0C + 0x03

/-- Reads of `count` bytes that are not used. -/
def skipRead (packet : WorldPacket) (count : Nat) : Except Stop WorldPacket :=
  if packet.buffer.rpos + count ≤ packet.buffer.size then
    .ok { packet with buffer := { packet.buffer with rpos := packet.buffer.rpos + count } }
  else .error .outOfBounds

def handlePlayerJoin (rest : Rest η) (ptr : Nat) (packet : WorldPacket) :
    Handling η WorldPacket := do
  modifySession ptr fun s => { s with player := true }
  let packet ← skipRead packet playerJoinSize
  modifySession ptr fun s => { s with status := .loggedIn }
  let here ← session ptr
  modify fun s => { s with
    players := (here.playerId, ptr) :: s.players.filter fun entry => entry.1 ≠ here.playerId }
  let s ← get
  let (own, world, sends) ← rest.join here s.world
  modify fun s => { s with world := world }
  modifySession ptr fun s => { s with own := own }
  performSends ptr sends
  return packet

/-- The entries of the opcode table. -/
inductive OpcodeHandler (η : Type) where
  | exiting
  | outgoingClient
  | playerJoin
  | other (run : WorldPacket → WorldSession → η → Except Stop (ByteBuffer × Own × η × List Send))

/-- `fill_opcode_handler_table`: 0xAE is `MSG_OUTGOING_CLIENT`. -/
def opcodeTable (rest : Rest η) (opcode : UInt8) : Option (SessionStatus × OpcodeHandler η) :=
  if opcode = 0x0A then some (.authed, .exiting)
  else if opcode = 0x1F then some (.authed, .playerJoin)
  else if opcode = 0xAE then some (.loggedIn, .outgoingClient)
  else (rest.handlers opcode).map fun entry => (entry.1, .other entry.2)

def OpcodeHandler.call (rest : Rest η) (ptr : Nat) (packet : WorldPacket) :
    OpcodeHandler η → Handling η WorldPacket
  | .exiting => do
      logout rest ptr
      return packet
  | .outgoingClient => do
      logout rest ptr
      return packet
  | .playerJoin => handlePlayerJoin rest ptr packet
  | .other run => do
      let here ← session ptr
      let s ← get
      let (buffer, own, world, sends) ← run packet here s.world
      modify fun s => { s with world := world }
      modifySession ptr fun s => { s with own := own }
      performSends ptr sends
      return { packet with buffer := buffer }

/-- What `update()` does with a packet: the confirmation of the join, or a handler of the
table. -/
def dispatch (rest : Rest η) (ptr : Nat) (packet : WorldPacket) : Handling η WorldPacket := do
  let here ← session ptr
  if packet.opcode = 0 ∧ packet.accountId = 0xFF then
    if here.status = .authed then
      -- The client's port is not known before this packet.
      modifySession ptr fun s => { s with endpoint := packet.endpoint }
      handleJoinConfirmation ptr
      return packet
    else return packet
  else
    match opcodeTable rest packet.opcode with
    | none => return packet
    | some (status, handler) =>
        if (status = .loggedIn ∧ here.player) ∨ status = .authed then
          handler.call rest ptr packet
        else return packet

/-- The packet goes on with its next opcode, unless it has been read to its end. -/
def nextOpcode (packet : WorldPacket) : Except Stop (Option WorldPacket) :=
  if packet.buffer.rpos = packet.buffer.size then .ok none
  else
    match packet.buffer.storage[packet.buffer.rpos]? with
    | some opcode => .ok (some { packet with
        opcode := opcode
        buffer := { packet.buffer with rpos := packet.buffer.rpos + 1 } })
    | none => .error .outOfBounds

/-- The packet at hand, or the next one of the queue. -/
def nextPacket (ptr : Nat) : Option WorldPacket → Handling η (Option WorldPacket)
  | some packet => pure (some packet)
  | none => do
      let here ← session ptr
      match here.receiveQueue with
      | [] => pure none
      | packet :: packets => do
          modifySession ptr fun s => { s with receiveQueue := packets }
          return some packet

/-- The loop of `update()`, of at most the given number of rounds. -/
def processQueue (rest : Rest η) (ptr : Nat) : Nat → Option WorldPacket → Handling η Unit
  | rounds, packet => do
      match ← nextPacket ptr packet with
      | none => pure ()
      | some packet =>
          match rounds with
          | 0 => throw .stillRunning
          | rounds + 1 => do
              let packet ← dispatch rest ptr packet
              let packet ← nextOpcode packet
              processQueue rest ptr rounds packet

/-- `update()`: false when the session has ended. -/
def updateSession (rest : Rest η) (rounds ptr : Nat) : Handling η Bool := do
  let here ← session ptr
  if here.status = .loggedIn then
    modifySession ptr fun s => { s with own := { s.own with timestamp := s.own.timestamp + 1 } }
    let here ← session ptr
    -- `MSG_PARTIAL_TIMESTAMP`
    sendPacket ptr {
      opcode := 0x27
      endpoint := here.endpoint
      buffer := ByteBuffer.extend {} (ByteBuffer.toBytes 2 here.own.timestamp.toNat) } false true
  if here.receiveQueue = [] ∧ here.status = .authed then
    sendNow ptr { opcode := 0x14, endpoint := here.endpoint }
  processQueue rest ptr rounds none
  let here ← session ptr
  if 0 < here.sendPacket.buffer.size then flush ptr
  let here ← session ptr
  return !here.playerLoggingOut

end Awesie

end NoxServer
