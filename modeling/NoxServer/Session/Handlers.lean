import NoxServer.Session.MapDownload

/-!
The opcode handlers of `WorldSession`.

A handler reads its message from the packet, changes the session's own fields and asks
the rest of the server for something. The first is a `Reader`, so that a read past the
end of the packet stops the server as the failed assertion does; the last two are what it
returns. Sends are returned as the calls of `SendPacket` they are, with the values
`m_unk` and `m_playerLoading` have at the call.

Handlers that read some numbers and use none of them are `readFields` with the sizes;
handlers that read an extent and hand the object to one method are `withExtent`. The
terminators the handlers of texts write into their own copies are not part of the packet
and not modelled.
-/

namespace NoxServer.Session

open ByteBuffer

/-- What the session reads of the world around it: the map and its checksum, and the
extent of the session's player. -/
structure Game where
  map : NoxMap
  checksum : UInt32
  playerExtent : UInt16

/-- What a handler asks of the player, the objects and the other sessions. -/
inductive Request where
  | insertPlayer (info username unk1 : List UInt8)
  | broadcastNewPlayer
  | attack
  | jump
  | laugh
  | point
  | taunt
  | moveTowards (place : GridPair)
  | runningJump
  | setAngle (angle : UInt8)
  | sendUpdatePacket
  | respawn
  | sendPlayerInfo
  | sendPacketToAll (packet : WorldPacket)
  | useAbility (ability : UInt8)
  | executeSpell (spell : UInt8) (dontinvert : Bool)
  | drop (extent : UInt16) (place : GridPair)
  | pickup (extent : UInt16)
  | use (extent : UInt16)
  | equip (extent : UInt16)
  | dequip (extent : UInt16)
  | equipSecondary (extent : UInt16)
  deriving DecidableEq

/-- What a step of a session puts out, in order. -/
inductive Output where
  /-- `SendPacket(&packet, …)`. -/
  | send (call : SendCall)
  /-- `_SendPacket(&sendPacket)`. -/
  | flush
  /-- `_SendPacket(&sendPacket)` if there is a pending packet. -/
  | flushPending
  /-- `_socket->SendPacket(&packet)`. -/
  | direct (packet : WorldPacket)
  | request (request : Request)

/-- A handler: what it reads, and with what session and outputs it returns. -/
abbrev Handling := Reader (WorldSession × List Output)

namespace WorldSession

/-! ### Packets the handlers send -/

/-- A packet built for this client and given to `SendPacket(&packet, false)`. -/
def sendNow (s : WorldSession) (opcode id : UInt8) (payload : List UInt8) : Output :=
  .send { packet := .ofPayload opcode id s.client payload
          ifReady := false, unk := s.unk, loading := s.playerLoading }

def _sendFullTimestampOpcode (s : WorldSession) : Output :=
  s.sendNow msgFullTimestamp 0x80 (toBytes 4 s.timestamp.toNat)

def _sendPartialTimestampOpcode (s : WorldSession) : Output :=
  s.sendNow msgPartialTimestamp 0x0 (toBytes 2 s.timestamp.toNat)

def _sendImportantAckOpcode (s : WorldSession) (timestamp : UInt32) : Output :=
  s.sendNow msgImportantAck 0x0 (toBytes 4 timestamp.toNat)

def _sendFadeBeginOpcode (s : WorldSession) : Output := s.sendNow msgFadeBegin 0x0 [1, 1]

def _sendJoinDataOpcode (s : WorldSession) (game : Game) : Output :=
  s.sendNow msgJoinData 0x80 (toBytes 2 game.playerExtent.toNat ++ toBytes 4 0)

def _sendGameSettingsOpcode (s : WorldSession) : Output :=
  s.sendNow msgGameSettings 0x80 (toBytes 4 s.timestamp.toNat ++ toBytes 4 0x0001039A ++
    toBytes 4 0x00032080 ++ toBytes 4 0x00002002 ++ [0x20, 0x0F, 0x00])

/-- The bytes of a text, with zeros up to a length. -/
def textBytes (text : String) (length : Nat) : List UInt8 :=
  (text.toList.map fun c => UInt8.ofNat c.toNat).take length ++
    List.replicate (length - text.length) 0

def _sendGameSettings2Opcode (s : WorldSession) : Output :=
  s.sendNow msgGameSettings2 0x80 (textBytes "ZoaEDK's Game" 0x10 ++
    List.replicate 28 0xFF ++ toBytes 4 0)

/-- The packet of `_SendUseMapOpcode()`, which also sets `m_playerLoading`. -/
def _sendUseMapOpcode (s : WorldSession) (game : Game) : Output :=
  s.sendNow msgUseMap 0x80 (textBytes "manamine.map" 0xD ++ toBytes 2 0 ++ toBytes 4 0 ++
    toBytes 4 0 ++ toBytes 4 0 ++ toBytes 2 0 ++ toBytes 2 0 ++ [0] ++
    toBytes 4 game.checksum.toNat ++ toBytes 4 s.timestamp.toNat)

/-! ### Handlers -/

def handleJoinConfirmation (s : WorldSession) : WorldSession × List Output :=
  ({ s with status := .confirmed },
    [.direct (.ofPayload 0x1F 0x80 s.client
      [0, 1, UInt8.ofNat s.accountId.toNat, 0, 0, 0, s.xorKey])])

/-- The fields and packets of `HandlePlayerJoinOpcode` once the message is read. -/
def joinPlayer (game : Game) (s : WorldSession) (info username unk1 : List UInt8) :
    WorldSession × List Output :=
  let s := { s with status := .loggedIn, unk := s.unk + 1 }
  let greeting := [.request (.insertPlayer info username unk1), s.sendNow 0xA9 0x80
      (0x0C :: toBytes 4 1), s._sendFullTimestampOpcode, s._sendJoinDataOpcode game,
    s._sendGameSettingsOpcode, s._sendGameSettings2Opcode, .request .broadcastNewPlayer]
  let s := { s with unk := s.unk + 1, playerLoading := true }
  let useMap := s._sendUseMapOpcode game
  let last := Output.send
    { packet := .ofPayload 0x04 0x00 s.client [], ifReady := false, changeUnk := false
      unk := s.unk, loading := s.playerLoading }
  let s := { s with timestamp := s.timestamp + 1 }
  (s, greeting ++ [useMap, last, .flush, s._sendPartialTimestampOpcode])

def handlePlayerJoinOpcode (game : Game) (s : WorldSession) : Handling := do
  let s := { s with player := true }
  readFields [1, 1]
  let info ← read 0x61
  readFields [0x1F]
  let username ← read 9
  let unk1 ← read 0x0C
  readFields [0x03]
  return s.joinPlayer game info username unk1

/-- The unread byte is read again for the log. -/
def rereadByte : Reader Unit := do
  let rpos ← getRpos
  setRpos (rpos - 1)
  readFields [1]

/-- The second byte of an 0x0E input. -/
def attackInput : Reader (List Request) := do
  match ← readUInt8 with
  | 0x06 => return [.attack]
  | 0x07 => return [.jump]
  | 0x30 => return [.laugh]
  | 0x31 => return [.point]
  | 0x2F => return [.taunt]
  | _ => do
      rereadByte
      return []

/-- The part of an input that depends on its first byte. -/
def inputAction (s : WorldSession) (kind : UInt8) : Reader (List Request) :=
  match kind with
  | 0x0A => return []
  | 0x0E => do
      let requests ← attackInput
      readFields [1, 1, 1]
      return requests
  | 0x0F => do
      readFields [4, 1]
      return [.moveTowards s.mouse]
  | 0x13 => do
      let action ← readUInt32
      readFields [1, 1, 2, 1]
      return if action = 0x07 then [.runningJump] else []
  | _ => do
      rereadByte
      return []

/-- The part of an input that all inputs have. -/
def inputAngle (s : WorldSession) (requests : List Request) : Handling := do
  readFields [1, 1, 1, 1]
  let angle ← readUInt8
  readFields [1, 1, 1, 1, 1]
  return (s, requests.map .request ++ [.request (.setAngle angle)])

def handlePlayerInputOpcode (s : WorldSession) : Handling := do
  let kind ← readUInt8
  let requests ← inputAction s kind
  s.inputAngle requests

def handleMouseOpcode (s : WorldSession) : Handling := do
  let x ← readUInt16
  let y ← readUInt16
  return ({ s with mouse := ⟨x.toUInt32, y.toUInt32⟩ }, [])

def handleImportantOpcode (s : WorldSession) : Handling := do
  let timestamp ← readUInt32
  return (s, [s._sendImportantAckOpcode timestamp])

def handleNeedTimestampOpcode (s : WorldSession) : Handling :=
  return (s, [s._sendFullTimestampOpcode])

/-- The part of a server command that depends on its first byte. -/
def serverCmdBody : UInt8 → Reader Unit
  | 0 => do
      readFields [2]
      let count ← readUInt8
      readFields (List.replicate count.toNat 2)
      readFields [1, 1]
  | 2 => do
      readFields [2]
      let length ← readUInt8
      -- `sizeof(wchar_t)` is 2 where this server is built
      readFields [length.toNat * 2]
      readFields [1, 1]
  | _ => pure ()

def handleServerCmdOpcode (s : WorldSession) : Handling := do
  let kind ← readUInt8
  serverCmdBody kind
  return (s, [])

def handleClientReadyOpcode (s : WorldSession) (packetUnk : UInt8) : Handling :=
  let s := { s with unk := packetUnk + 1 }
  if s.playerLoading then
    let s := { s with playerLoading := false, timestamp := s.timestamp + 1 }
    return (s, [s._sendPartialTimestampOpcode, .request .sendUpdatePacket,
      s._sendFadeBeginOpcode, .request .respawn, .request .sendPlayerInfo])
  else return (s, [])

/-- The text is sent on to all players as the bytes of the message. -/
def handleTextMessageOpcode (s : WorldSession) : Handling := do
  let message ← get
  readFields [2, 1, 2, 2]
  let length ← readUInt16
  readFields [1]
  readFields [length.toNat]
  let pend ← getRpos
  let bytes := (message.storage.drop message.rpos).take (pend - message.rpos)
  return (s, [.request (.sendPacketToAll (.ofPayload msgTextMessage 0 0 bytes))])

def handleOutgoingClientOpcode (s : WorldSession) (now : Int) : Handling :=
  return (s.logoutRequest now, [])

def handleTryAbilityOpcode (s : WorldSession) : Handling := do
  let ability ← readUInt8
  return (s, [.request (.useAbility ability)])

def handleTryDropOpcode (s : WorldSession) : Handling := do
  let extent ← readUInt16
  let x ← readUInt16
  let y ← readUInt16
  return (s, [.request (.drop extent ⟨x.toUInt32, y.toUInt32⟩)])

/-- A handler that reads an extent and passes the object on. -/
def withExtent (s : WorldSession) (request : UInt16 → Request) : Handling := do
  let extent ← readUInt16
  return (s, [.request (request extent)])

def handleTryGetOpcode (s : WorldSession) : Handling := s.withExtent .pickup

def handleTryUseOpcode (s : WorldSession) : Handling := s.withExtent .use

def handleTryEquipOpcode (s : WorldSession) : Handling := s.withExtent .equip

def handleTryDequipOpcode (s : WorldSession) : Handling := s.withExtent .dequip

def handleReportSecondaryWeaponOpcode (s : WorldSession) : Handling :=
  s.withExtent .equipSecondary

def handleTrySpellOpcode (s : WorldSession) : Handling := do
  let spellId ← readUInt8
  skip 19
  let dontinvert ← readUInt8
  return (s, [.request (.executeSpell spellId (dontinvert ≠ 0))])

def handleRequestMapOpcode (game : Game) (s : WorldSession) (packetUnk : UInt8) : Handling :=
  let out := WorldSession._sendMapSendStart { s with unk := packetUnk } game.map
  return (out.1, out.2.map .send)

def handleReceivedMapOpcode (s : WorldSession) : Handling :=
  return ({ s with playerDownloading := 0 }, [])

/-- A handler that reads numbers of the given sizes and uses none of them. -/
def ignoreFields (s : WorldSession) (sizes : List Nat) : Handling := do
  readFields sizes
  return (s, [])

def handleUnknown06Opcode (s : WorldSession) : Handling := s.ignoreFields [4]

/-- `SetAlias`, to which the fields are passed, keeps nothing. -/
def handleNewAliasOpcode (s : WorldSession) : Handling := s.ignoreFields [1, 2, 2, 4]

def handlePlayerSetWaypointOpcode (s : WorldSession) : Handling := s.ignoreFields [2, 2, 2]

def handleTryCreatureCommandOpcode (s : WorldSession) : Handling := s.ignoreFields [2, 1]

def handleTryCollideOpcode (s : WorldSession) : Handling := s.ignoreFields [2]

def handleImportantAckOpcode (s : WorldSession) : Handling := s.ignoreFields [4]

def handleIncomingClientOpcode (s : WorldSession) : Handling := s.ignoreFields []

def handleCancelMapOpcode (s : WorldSession) : Handling := s.ignoreFields []

def handleKeepAliveOpcode (s : WorldSession) : Handling := s.ignoreFields []

def handleServerQuitAckOpcode (s : WorldSession) : Handling := s.ignoreFields []

def handleRequestTimerStatusOpcode (s : WorldSession) : Handling := s.ignoreFields []

def handleRequestSavePlayerOpcode (s : WorldSession) : Handling := s.ignoreFields [2]

def handleTradeOpcode (s : WorldSession) : Handling := s.ignoreFields [1, 2]

def handleDialogOpcode (s : WorldSession) : Handling := s.ignoreFields [1, 1]

def handleInfoBookDataOpcode (s : WorldSession) : Handling := s.ignoreFields [2, 1]

def handleSocialOpcode (s : WorldSession) : Handling := s.ignoreFields [1]

def handleGauntletOpcode (s : WorldSession) : Handling := s.ignoreFields [1]

def handleInventoryFailOpcode (s : WorldSession) : Handling := s.ignoreFields [2]

def handleSysopPwOpcode (s : WorldSession) : Handling := do
  skip 20
  return (s, [])

def handleXferMsgOpcode (s : WorldSession) : Handling := do
  readFields [1, 1, 1, 4]
  skip 0x84
  return (s, [])

def handleVoteOpcode (s : WorldSession) : Handling := do
  readFields [1]
  skip 0x32
  return (s, [])

/-- `rpos(size())`. -/
def toEnd : Reader Unit := do
  let b ← get
  setRpos b.size

/-- The reads come after the position has been moved to the end. -/
def handleTeamMsgOpcode (s : WorldSession) : Handling := do
  toEnd
  readFields [1, 4, 2, 2]
  return (s, [])

def handleNewUnknownOpcode (s : WorldSession) : Handling := do
  toEnd
  return (s, [])

/-- The handler a row of the table names. -/
def handle (game : Game) (now : Int) (s : WorldSession) (packetUnk : UInt8) : Handler → Handling
  | .unknown06 => s.handleUnknown06Opcode
  | .playerJoin => handlePlayerJoinOpcode game s
  | .needTimestamp => s.handleNeedTimestampOpcode
  | .playerInput => s.handlePlayerInputOpcode
  | .playerSetWaypoint => s.handlePlayerSetWaypointOpcode
  | .tryDrop => s.handleTryDropOpcode
  | .tryGet => s.handleTryGetOpcode
  | .tryUse => s.handleTryUseOpcode
  | .tryEquip => s.handleTryEquipOpcode
  | .tryDequip => s.handleTryDequipOpcode
  | .tryCreatureCommand => s.handleTryCreatureCommandOpcode
  | .trySpell => s.handleTrySpellOpcode
  | .tryAbility => s.handleTryAbilityOpcode
  | .tryCollide => s.handleTryCollideOpcode
  | .newAlias => s.handleNewAliasOpcode
  | .textMessage => s.handleTextMessageOpcode
  | .important => s.handleImportantOpcode
  | .importantAck => s.handleImportantAckOpcode
  | .mouse => s.handleMouseOpcode
  | .incomingClient => s.handleIncomingClientOpcode
  | .outgoingClient => s.handleOutgoingClientOpcode now
  | .requestMap => handleRequestMapOpcode game s packetUnk
  | .cancelMap => s.handleCancelMapOpcode
  | .serverCmd => s.handleServerCmdOpcode
  | .sysopPw => s.handleSysopPwOpcode
  | .keepAlive => s.handleKeepAliveOpcode
  | .receivedMap => s.handleReceivedMapOpcode
  | .clientReady => s.handleClientReadyOpcode packetUnk
  | .requestSavePlayer => s.handleRequestSavePlayerOpcode
  | .xferMsg => s.handleXferMsgOpcode
  | .teamMsg => s.handleTeamMsgOpcode
  | .serverQuitAck => s.handleServerQuitAckOpcode
  | .trade => s.handleTradeOpcode
  | .dialog => s.handleDialogOpcode
  | .requestTimerStatus => s.handleRequestTimerStatusOpcode
  | .reportSecondaryWeapon => s.handleReportSecondaryWeaponOpcode
  | .infoBookData => s.handleInfoBookDataOpcode
  | .social => s.handleSocialOpcode
  | .vote => s.handleVoteOpcode
  | .gauntlet => s.handleGauntletOpcode
  | .inventoryFail => s.handleInventoryFailOpcode
  | .newUnknown => s.handleNewUnknownOpcode

end WorldSession

/-! ### How long messages are -/

/-- The byte at a place, 0 past the end. -/
def byteAt (rest : List UInt8) (place : Nat) : UInt8 := rest.getD place 0

/-- The length of an input, by its first byte. -/
def inputLength (kind : UInt8) : Nat :=
  match kind with
  | 0x0E => 15
  | 0x0F => 16
  | 0x13 => 20
  | _ => 11

/-- The length of a server command, by its first byte and the count after its extent. -/
def serverCmdLength (kind count : UInt8) : Nat :=
  match kind with
  | 0 => 6 + 2 * count.toNat
  | 2 => 6 + 2 * count.toNat
  | _ => 1

/-- The number of bytes a handler takes of what follows the opcode. A team message has no
length: its handler moves to the end of the packet and then reads. -/
def bodyLength : Handler → List UInt8 → Option Nat
  | .unknown06, _ => some 4
  | .playerJoin, _ => some 154
  | .needTimestamp, _ => some 0
  | .playerInput, rest => some (inputLength (byteAt rest 0))
  | .playerSetWaypoint, _ => some 6
  | .tryDrop, _ => some 6
  | .tryGet, _ => some 2
  | .tryUse, _ => some 2
  | .tryEquip, _ => some 2
  | .tryDequip, _ => some 2
  | .tryCreatureCommand, _ => some 3
  | .trySpell, _ => some 21
  | .tryAbility, _ => some 1
  | .tryCollide, _ => some 2
  | .newAlias, _ => some 9
  | .textMessage, rest => some (10 + (byteAt rest 7).toNat + 256 * (byteAt rest 8).toNat)
  | .important, _ => some 4
  | .importantAck, _ => some 4
  | .mouse, _ => some 4
  | .incomingClient, _ => some 0
  | .outgoingClient, _ => some 0
  | .requestMap, _ => some 0
  | .cancelMap, _ => some 0
  | .serverCmd, rest => some (serverCmdLength (byteAt rest 0) (byteAt rest 3))
  | .sysopPw, _ => some 20
  | .keepAlive, _ => some 0
  | .receivedMap, _ => some 0
  | .clientReady, _ => some 0
  | .requestSavePlayer, _ => some 2
  | .xferMsg, _ => some 139
  | .teamMsg, _ => none
  | .serverQuitAck, _ => some 0
  | .trade, _ => some 3
  | .dialog, _ => some 2
  | .requestTimerStatus, _ => some 0
  | .reportSecondaryWeapon, _ => some 2
  | .infoBookData, _ => some 3
  | .social, _ => some 1
  | .vote, _ => some 51
  | .gauntlet, _ => some 1
  | .inventoryFail, _ => some 2
  | .newUnknown, rest => some rest.length

open Consume WorldSession

theorem ignoreFields_takes (s : WorldSession) (sizes : List Nat) :
    Takes view (s.ignoreFields sizes) fun _ => some sizes.sum :=
  (readFields_yields sizes).and_then fun _ => takes_pure _

theorem withExtent_takes (s : WorldSession) (request : UInt16 → Request) :
    Takes view (s.withExtent request) fun _ => some 2 :=
  readUInt16_yields.and_then fun _ => takes_pure _

theorem handlePlayerJoinOpcode_takes (game : Game) (s : WorldSession) :
    Takes view (handlePlayerJoinOpcode game s) fun _ => some 154 :=
  (readFields_yields [1, 1]).and_then fun _ =>
    (read_yields 0x61).and_then fun _ =>
      (readFields_yields [0x1F]).and_then fun _ =>
        (read_yields 9).and_then fun _ =>
          (read_yields 0x0C).and_then fun _ =>
            (readFields_yields [0x03]).and_then fun _ => takes_pure _

/-- After a byte has been read, stepping back and reading it again changes nothing. -/
theorem rereadByte_eq_ok {b : ByteBuffer} (room : b.rpos + 1 ≤ b.size) :
    rereadByte { b with rpos := b.rpos + 1 } = .ok ((), { b with rpos := b.rpos + 1 }) := by
  have unread : rereadByte { b with rpos := b.rpos + 1 } = readFields [1] b := rfl
  rw [unread]
  exact run_bind_ok (read_eq_ok Nat.one_pos room)

theorem readUInt8_reread {α : Type} {next next' : UInt8 → Reader α}
    (same : ∀ byte, next' byte = next byte ∨ next' byte = (rereadByte >>= fun _ => next byte)) :
    (readUInt8 >>= next') = (readUInt8 >>= next) := by
  funext b
  by_cases room : b.rpos + 1 ≤ b.size
  · have first := readUInt8_eq_ok room
    rw [run_bind_ok first, run_bind_ok first]
    rcases same (UInt8.ofNat (fromBytes ((b.storage.drop b.rpos).take 1))) with plain | again
    · rw [plain]
    · rw [again, run_bind_ok (rereadByte_eq_ok room)]
  · obtain ⟨fault, first⟩ := readUInt8_eq_error room
    rw [run_bind_error first, run_bind_error first]

theorem attackInput_takes : Takes view attackInput fun _ => some 1 := by
  have plain : attackInput = (readUInt8 >>= fun byte => pure (match byte with
      | 0x06 => [.attack]
      | 0x07 => [.jump]
      | 0x30 => [.laugh]
      | 0x31 => [.point]
      | 0x2F => [.taunt]
      | _ => [])) := by
    refine readUInt8_reread fun byte => ?_
    split <;> first | exact .inl rfl | exact .inr rfl
  rw [plain]
  exact readUInt8_yields.and_then fun _ => takes_pure _

theorem byteAt_eq (rest : List UInt8) :
    UInt8.ofNat (fromBytes (rest.take 1)) = byteAt rest 0 := by
  cases rest with
  | nil => rfl
  | cons byte rest => simp [fromBytes, byteAt]

theorem byteAt_drop (rest : List UInt8) (count place : Nat) :
    byteAt (rest.drop count) place = byteAt rest (count + place) := by
  simp [byteAt, List.getD_eq_getElem?_getD]

theorem eleven_le_inputLength (kind : UInt8) : 11 ≤ inputLength kind := by
  unfold inputLength
  split <;> decide

/-- The part of an input that depends on its first byte, without the byte read twice. -/
def plainAction (s : WorldSession) (kind : UInt8) : Reader (List Request) :=
  match kind with
  | 0x0E => inputAction s 0x0E
  | 0x0F => inputAction s 0x0F
  | 0x13 => inputAction s 0x13
  | _ => pure []

/-- An input after its first byte, without the byte read twice. -/
theorem plainAction_takes (s : WorldSession) (kind : UInt8) :
    Takes view (plainAction s kind) fun _ => some (inputLength kind - 11) := by
  unfold plainAction inputLength
  split
  · exact attackInput_takes.and_then fun _ =>
      (readFields_yields [1, 1, 1]).and_then fun _ => takes_pure _
  · exact (readFields_yields [4, 1]).and_then fun _ => takes_pure _
  · exact readUInt32_yields.and_then fun _ =>
      (readFields_yields [1, 1, 2, 1]).and_then fun _ => takes_pure _
  · exact takes_pure _

theorem inputAction_eq (s : WorldSession) (kind : UInt8) :
    inputAction s kind = plainAction s kind ∨
      inputAction s kind = (rereadByte >>= fun _ => plainAction s kind) := by
  unfold plainAction
  split
  · exact .inl rfl
  · exact .inl rfl
  · exact .inl rfl
  · unfold inputAction
    split
    · exact .inl rfl
    · contradiction
    · contradiction
    · contradiction
    · exact .inr rfl

theorem handlePlayerInputOpcode_takes (s : WorldSession) :
    Takes view s.handlePlayerInputOpcode fun rest => some (inputLength (byteAt rest 0)) := by
  have angle (requests : List Request) : Takes view (s.inputAngle requests) fun _ => some 10 :=
    (readFields_yields [1, 1, 1, 1]).and_then fun _ =>
      readUInt8_yields.and_then fun _ =>
        (readFields_yields [1, 1, 1, 1, 1]).and_then fun _ => takes_pure _
  have plain : s.handlePlayerInputOpcode =
      (readUInt8 >>= fun kind => plainAction s kind >>= s.inputAngle) := by
    refine readUInt8_reread fun kind => ?_
    rcases inputAction_eq s kind with same | again
    · exact .inl (by rw [same])
    · exact .inr (by rw [again, bind_assoc])
  have taken := readUInt8_yields.bind_takes fun kind =>
    (plainAction_takes s kind).and_then angle
  rw [plain]
  refine taken.congr fun rest => ?_
  have least := eleven_le_inputLength (byteAt rest 0)
  simp only [byteAt_eq, Option.map_some, Option.some_inj]
  omega

/-- A server command takes as many bytes as its kind and the length in it say, or fails if there are
fewer. -/
theorem serverCmdBody_takes (kind : UInt8) :
    Takes view (serverCmdBody kind)
      fun rest => some (serverCmdLength kind (byteAt rest 2) - 1) := by
  have counted (fields : UInt8 → Reader Unit)
      (size : ∀ count, Yields view (fields count) (2 * count.toNat) fun _ => ()) :
      Takes view (do readFields [2]; let count ← readUInt8; fields count; readFields [1, 1])
        fun rest => some (5 + 2 * (byteAt rest 2).toNat) := by
    have taken := (readFields_yields [2]).bind_takes fun _ =>
      readUInt8_yields.bind_takes fun count =>
        (size count).and_then fun _ => (readFields_yields [1, 1]).takes
    refine taken.congr fun rest => ?_
    simp only [byteAt_eq, byteAt_drop, Option.map_some, Option.some_inj, List.sum_cons,
      List.sum_nil, Nat.add_zero]
    omega
  unfold serverCmdBody serverCmdLength
  split
  · refine (counted _ fun count => ?_).congr fun rest => congrArg some (by omega)
    have size : (List.replicate count.toNat 2).sum = 2 * count.toNat := by
      simp [Nat.mul_comm]
    exact size ▸ readFields_yields _
  · refine (counted _ fun length => ?_).congr fun rest => congrArg some (by omega)
    have size : [length.toNat * 2].sum = 2 * length.toNat := by
      simp [Nat.mul_comm]
    exact size ▸ readFields_yields _
  · exact takes_pure _

theorem one_le_serverCmdLength (kind count : UInt8) : 1 ≤ serverCmdLength kind count := by
  unfold serverCmdLength
  split <;> omega

theorem handleServerCmdOpcode_takes (s : WorldSession) :
    Takes view s.handleServerCmdOpcode
      fun rest => some (serverCmdLength (byteAt rest 0) (byteAt rest 3)) := by
  have taken : Takes view s.handleServerCmdOpcode _ :=
    readUInt8_yields.bind_takes fun kind =>
      (serverCmdBody_takes kind).then_pure fun _ => (s, [])
  refine taken.congr fun rest => ?_
  have least := one_le_serverCmdLength (byteAt rest 0) (byteAt rest 3)
  simp only [byteAt_eq, byteAt_drop, Nat.reduceAdd, Option.map_some, Option.some_inj]
  omega

/-- The length field of a text message. -/
theorem fromBytes_take_two (rest : List UInt8) :
    fromBytes (rest.take 2) = (byteAt rest 0).toNat + 256 * (byteAt rest 1).toNat := by
  match rest with
  | [] => rfl
  | [low] => simp [fromBytes, byteAt]
  | low :: high :: _ => simp [fromBytes, byteAt]

theorem handleTextMessageOpcode_takes (s : WorldSession) :
    Takes view s.handleTextMessageOpcode
      fun rest => some (10 + (byteAt rest 7).toNat + 256 * (byteAt rest 8).toNat) := by
  have taken : Takes view s.handleTextMessageOpcode _ :=
    takes_get fun message => (readFields_yields [2, 1, 2, 2]).bind_takes fun _ =>
      readUInt16_yields.bind_takes fun length =>
        (readFields_yields [1]).and_then fun _ =>
          (readFields_yields [length.toNat]).and_then fun _ =>
            getRpos_takes.and_then fun _ => takes_pure _
  refine taken.congr fun rest => ?_
  have word : (UInt16.ofNat (fromBytes ((rest.drop 7).take 2))).toNat =
      (byteAt rest 7).toNat + 256 * (byteAt rest 8).toNat := by
    have low := (byteAt rest 7).toNat_lt
    have high := (byteAt rest 8).toNat_lt
    have bound : 2 ^ 16 = UInt16.size := by decide
    simp only [fromBytes_take_two, byteAt_drop, Nat.reduceAdd]
    exact UInt16.toNat_ofNat_of_lt' (by omega)
  simp only [List.sum_cons, List.sum_nil, Nat.reduceAdd, word, Option.map_some, Option.some_inj]
  omega

theorem handleClientReadyOpcode_takes (s : WorldSession) (packetUnk : UInt8) :
    Takes view (s.handleClientReadyOpcode packetUnk) fun _ => some 0 := by
  unfold handleClientReadyOpcode
  dsimp only
  split
  · exact takes_pure _
  · exact takes_pure _

theorem handleTrySpellOpcode_takes (s : WorldSession) :
    Takes view s.handleTrySpellOpcode fun _ => some 21 :=
  readUInt8_yields.and_then fun _ =>
    (skip_yields 19).and_then fun _ => readUInt8_yields.and_then fun _ => takes_pure _

theorem handleTryDropOpcode_takes (s : WorldSession) :
    Takes view s.handleTryDropOpcode fun _ => some 6 :=
  readUInt16_yields.and_then fun _ =>
    readUInt16_yields.and_then fun _ => readUInt16_yields.and_then fun _ => takes_pure _

/-- Past the end there is nothing to read. -/
theorem handleTeamMsgOpcode_takes (s : WorldSession) :
    Takes view s.handleTeamMsgOpcode fun _ => none := by
  refine takes_none fun b => ?_
  have moved : toEnd b = .ok ((), { b with rpos := b.size }) := rfl
  have short : ¬ b.size + 1 ≤ b.size := by omega
  obtain ⟨fault, fails, -⟩ := read_eq_error (b := { b with rpos := b.size }) Nat.one_pos short
  refine ⟨fault, ?_⟩
  rw [handleTeamMsgOpcode, run_bind_ok moved]
  exact run_bind_error (run_bind_error fails)

theorem handleNewUnknownOpcode_takes (s : WorldSession) :
    TakesWithin view s.handleNewUnknownOpcode fun rest => some rest.length := by
  intro b within
  have moved : s.handleNewUnknownOpcode b = .ok ((s, []), { b with rpos := b.size }) := rfl
  rw [moved]
  refine ⟨rfl, _, rfl, ?_⟩
  have length : (view.rest b).length = b.size - b.rpos := List.length_drop
  have within : b.rpos ≤ b.size := within
  rw [length]
  show b.size = b.rpos + (b.size - b.rpos)
  omega

/-- Every handler but the one that skips the packet takes what `bodyLength` says, wherever
the position is. -/
theorem handle_takes_of_ne (game : Game) (now : Int) (s : WorldSession) (packetUnk : UInt8)
    {h : Handler} (notSkipped : h ≠ .newUnknown) :
    Takes view (handle game now s packetUnk h) (bodyLength h) := by
  cases h with
  | unknown06 => exact ignoreFields_takes s [4]
  | playerJoin => exact handlePlayerJoinOpcode_takes game s
  | needTimestamp => exact takes_pure _
  | playerInput => exact handlePlayerInputOpcode_takes s
  | playerSetWaypoint => exact ignoreFields_takes s [2, 2, 2]
  | tryDrop => exact handleTryDropOpcode_takes s
  | tryGet => exact withExtent_takes s .pickup
  | tryUse => exact withExtent_takes s .use
  | tryEquip => exact withExtent_takes s .equip
  | tryDequip => exact withExtent_takes s .dequip
  | tryCreatureCommand => exact ignoreFields_takes s [2, 1]
  | trySpell => exact handleTrySpellOpcode_takes s
  | tryAbility => exact readUInt8_yields.and_then fun _ => takes_pure _
  | tryCollide => exact ignoreFields_takes s [2]
  | newAlias => exact ignoreFields_takes s [1, 2, 2, 4]
  | textMessage => exact handleTextMessageOpcode_takes s
  | important => exact readUInt32_yields.and_then fun _ => takes_pure _
  | importantAck => exact ignoreFields_takes s [4]
  | mouse =>
      exact readUInt16_yields.and_then fun _ =>
        readUInt16_yields.and_then fun _ => takes_pure _
  | incomingClient => exact ignoreFields_takes s []
  | outgoingClient => exact takes_pure _
  | requestMap => exact takes_pure _
  | cancelMap => exact ignoreFields_takes s []
  | serverCmd => exact handleServerCmdOpcode_takes s
  | sysopPw => exact (skip_yields 20).and_then fun _ => takes_pure _
  | keepAlive => exact ignoreFields_takes s []
  | receivedMap => exact takes_pure _
  | clientReady => exact handleClientReadyOpcode_takes s packetUnk
  | requestSavePlayer => exact ignoreFields_takes s [2]
  | xferMsg =>
      exact (readFields_yields [1, 1, 1, 4]).and_then fun _ =>
        (skip_yields 0x84).and_then fun _ => takes_pure _
  | teamMsg => exact handleTeamMsgOpcode_takes s
  | serverQuitAck => exact ignoreFields_takes s []
  | trade => exact ignoreFields_takes s [1, 2]
  | dialog => exact ignoreFields_takes s [1, 1]
  | requestTimerStatus => exact ignoreFields_takes s []
  | reportSecondaryWeapon => exact withExtent_takes s .equipSecondary
  | infoBookData => exact ignoreFields_takes s [2, 1]
  | social => exact ignoreFields_takes s [1]
  | vote =>
      exact (readFields_yields [1]).and_then fun _ =>
        (skip_yields 0x32).and_then fun _ => takes_pure _
  | gauntlet => exact ignoreFields_takes s [1]
  | inventoryFail => exact ignoreFields_takes s [2]
  | newUnknown => exact absurd rfl notSkipped

/-- Every handler takes what `bodyLength` says. -/
theorem handle_takes (game : Game) (now : Int) (s : WorldSession) (packetUnk : UInt8)
    (h : Handler) : TakesWithin view (handle game now s packetUnk h) (bodyLength h) := by
  by_cases skipped : h = .newUnknown
  · rw [skipped]
    exact handleNewUnknownOpcode_takes s
  · exact (handle_takes_of_ne game now s packetUnk skipped).within

end NoxServer.Session
