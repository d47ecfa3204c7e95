import NoxServer.Library.OrderedMap
import NoxServer.Awesie.WorldSession

/-!
The socket of the server under `awesie_test` (`world_socket.cpp`) and the player ids
(`world.cpp`).

`world_socket::update` receives what there is, updates the sessions, deletes those that have
ended and sends what is queued. Here a datagram that is received is one action (`receive`) and
the rest of the update another (`tick`), so that an update is some datagrams and a tick.
-/

namespace NoxServer

namespace Awesie

variable {η : Type}

/-! ### Player ids -/

/-- The ids the constructor of `world` makes free. -/
def allIds : List UInt8 := (List.range' 1 31).map UInt8.ofNat

def getFreeId : Handling η UInt8 := fun s =>
  match s.freeIds with
  | [] => .ok (0xFF, s)
  | id :: ids => .ok (id, { s with freeIds := ids })

def returnFreeId (id : UInt8) : Handling η Unit := fun s =>
  if id > 32 then .ok ((), s) else .ok ((), { s with freeIds := s.freeIds ++ [id] })

/-! ### The table of sessions -/

/-- `udp_endpoint_less`: only the addresses are compared. -/
def udpEndpointLess (a b : Endpoint) : Bool := a.address < b.address

/-- `m_sessions.find(endpoint)`. -/
abbrev findEntry (endpoint : Endpoint) (entries : List (Endpoint × Nat)) : Option Nat :=
  OrderedMap.find udpEndpointLess endpoint entries

/-- `m_sessions[endpoint] = ptr`. -/
abbrev putEntry (endpoint : Endpoint) (ptr : Nat) (entries : List (Endpoint × Nat)) :
    List (Endpoint × Nat) :=
  OrderedMap.put udpEndpointLess endpoint ptr entries

/-- `m_sessions.erase(endpoint)`. -/
abbrev eraseEntry (endpoint : Endpoint) (entries : List (Endpoint × Nat)) :
    List (Endpoint × Nat) :=
  OrderedMap.erase udpEndpointLess endpoint entries

theorem udpEndpointLess_weak : OrderedMap.StrictWeak udpEndpointLess where
  irrefl a := by simp [udpEndpointLess]
  trans a b c := by
    simp only [udpEndpointLess, decide_eq_true_eq]
    exact UInt32.lt_trans
  between a b c := by
    simp only [udpEndpointLess, decide_eq_true_eq, UInt32.lt_iff_toNat_lt]
    omega

/-- Endpoints are the same key when they have the same address. -/
theorem same_iff {a b : Endpoint} :
    OrderedMap.Same udpEndpointLess a b ↔ a.address = b.address := by
  simp only [OrderedMap.Same, udpEndpointLess, decide_eq_false_iff_not, UInt32.lt_iff_toNat_lt,
    ← UInt32.toNat_inj]
  omega

/-! ### Receiving -/

def maxLen : Nat := 1024

def cryptData (xor : UInt8) (data : List UInt8) : List UInt8 :=
  if xor = 0 then data else data.map fun byte => byte ^^^ xor

/-- The bytes of a datagram as they are handled: with the key of the session that is found. -/
def Server.decipher (s : Server η) (sender : Endpoint) (bytes : List UInt8) : List UInt8 :=
  match (findEntry sender s.sessions).bind s.session? with
  | some here => cryptData here.xor (bytes.take maxLen)
  | none => bytes.take maxLen

/-- The bytes `handle_join` reads. -/
def joinSize : Nat := 1 + 24 + 28 + 22 + 2 + 4 + 4 + 8 + 4

def handleJoin (packet : WorldPacket) : Handling η Unit := do
  let _ ← skipRead packet joinSize
  let id ← getFreeId
  modify fun s => { s with
    heap := s.heap ++ [some (.new id packet.endpoint)]
    sessions := putEntry packet.endpoint s.heap.length s.sessions
    joins := s.joins ++ [packet.endpoint] }
  queuePacket none { opcode := 0x14, endpoint := packet.endpoint }

/-- The answer to a ping, but for the stamp. -/
def pong : List UInt8 × List UInt8 :=
  ([0, 1, 0xF, 0xF, 0xFF, 0xFF, 0xFF, 0x45, 0x73, 0x74, 0x61, 0x74, 0x65, 0, 0, 0, 1, 0, 0, 0x55,
    0, 0x9A, 3, 1, 0, 7, 0x21, 3, 0x10, 0xFF, 0xFF, 0xFF, 0xFF, 0xFF, 0xFF, 0xFF, 0xFF, 0xC0, 0,
    0xD4, 0],
   [0xFF, 0xFF, 0xFF, 0xFF, 0xFF, 0xEF, 0xFF, 0xFF, 0xFF, 0xFF, 0xFF, 0xFF, 0xFF, 0xFF, 0xFF, 0xFF,
    0xFF, 0xFF, 0xFF, 0xFF, 0x84, 0x82, 0xD3, 1, 0x54, 0x65, 0x73, 0x74, 0])

def handleLanPing (packet : WorldPacket) : Handling η Unit := do
  let _ ← skipRead packet 9
  let stamp := (packet.buffer.storage.drop 5).take 4
  queuePacket none {
    opcode := 0x0D
    endpoint := packet.endpoint
    buffer := ByteBuffer.extend {} (pong.1 ++ stamp ++ pong.2) }

/-- `world_session::queue_packet`, of the session found for the sender. -/
def queueReceived (found : Option Nat) (packet : WorldPacket) : Handling η Unit :=
  match found with
  | some ptr => modifySession ptr fun s => { s with receiveQueue := s.receiveQueue ++ [packet] }
  | none => pure ()

/-- The packet a datagram is made into. -/
def packetFrom (sender : Endpoint) (plr unk cmd : UInt8) (data : List UInt8) : WorldPacket where
  opcode := cmd
  accountId := plr
  unk := unk
  endpoint := sender
  buffer := ByteBuffer.extend {} data

/-- `handle_receive_from(err, bytes_recvd)`, of a datagram from `sender`. -/
def receive (sender : Endpoint) (err : Bool) (bytes : List UInt8) : Handling η Unit := do
  if err then pure ()
  else
    let s ← get
    let found := findEntry sender s.sessions
    match s.decipher sender bytes with
    | plr :: unk :: cmd :: data =>
        let packet := packetFrom sender plr unk cmd data
        if cmd = 0x0C then handleLanPing packet
        else if cmd = 0x0E then handleJoin packet
        else queueReceived found packet
    | _ => pure ()

/-! ### The rest of an update -/

/-- The loop that updates the sessions; the keys of those that have ended. -/
def updateAll (rest : Rest η) (rounds : Nat) :
    List (Endpoint × Nat) → Handling η (List Endpoint)
  | [] => pure []
  | entry :: entries => do
      let stays ← updateSession rest rounds entry.2
      let ended ← updateAll rest rounds entries
      return if stays then ended else entry.1 :: ended

/-- `delete m_sessions[p]; m_sessions.erase(p)`, with `~world_session`. -/
def destroy (rest : Rest η) (key : Endpoint) : Handling η Unit := do
  let s ← get
  match findEntry key s.sessions with
  | none => pure ()
  | some ptr =>
      let here ← session ptr
      if here.player then logout rest ptr
      returnFreeId here.playerId
      modify fun s => { s with
        heap := s.heap.set ptr none
        sessions := eraseEntry key s.sessions }

/-- The loop over `to_destroy`. -/
def destroyAll (rest : Rest η) : List Endpoint → Handling η Unit
  | [] => pure ()
  | key :: keys => do
      destroy rest key
      destroyAll rest keys

/-- `send_next_packet()`: a header and the contents, encrypted. -/
def datagram (packet : WorldPacket) : List UInt8 :=
  cryptData packet.xor
    (packet.accountId :: packet.unk :: packet.opcode :: packet.buffer.storage)

/-- The loop that clears the send queue. -/
def sendQueued : Handling η Unit :=
  modify fun s => { s with
    sendQueue := []
    sent := s.sent ++ s.sendQueue.map fun entry =>
      (entry.1, entry.2.endpoint, datagram entry.2) }

/-- `update()` after the datagrams. -/
def tick (rest : Rest η) (rounds : Nat) : Handling η Unit := do
  let s ← get
  let ended ← updateAll rest rounds s.sessions
  destroyAll rest ended
  sendQueued

/-- The actions an update is made of. -/
inductive Action where
  | receive (sender : Endpoint) (err : Bool) (bytes : List UInt8)
  | tick (rounds : Nat)

def apply (rest : Rest η) : Action → Handling η Unit
  | .receive sender err bytes => receive sender err bytes
  | .tick rounds => tick rest rounds

def Step (rest : Rest η) (s : Server η) (action : Action) (t : Server η) : Prop :=
  apply rest action s = .ok ((), t)

/-- The server before its first update. -/
def start (world : η) : Server η := { freeIds := allIds, world := world }

end Awesie

end NoxServer
