import NoxServer.Session.WorldSession

/-!
The opcodes (`Opcodes.h`) and the table of their handlers
(`WorldSession::FillOpcodeHandlerHashTable`).

The table has a row for 0x06, for 0x1F and for every opcode from
`MSG_PARTIAL_TIMESTAMP` to `MSG_INVENTORY_FAIL`. All rows of that range that name no
handler of their own name `HandleNewUnknownOpcode`, with status `STATUS_LOGGEDIN`, so
only the others are written out.
-/

namespace NoxServer.Session

def msgPartialTimestamp : UInt8 := 0x27
def msgFullTimestamp : UInt8 := 0x28
def msgNeedTimestamp : UInt8 := 0x29
def msgUseMap : UInt8 := 0x2B
def msgJoinData : UInt8 := 0x2C
def msgPlayerInput : UInt8 := 0x3F
def msgPlayerSetWaypoint : UInt8 := 0x40
def msgTryDrop : UInt8 := 0x72
def msgTryGet : UInt8 := 0x73
def msgTryUse : UInt8 := 0x74
def msgTryEquip : UInt8 := 0x75
def msgTryDequip : UInt8 := 0x76
def msgTryCreatureCommand : UInt8 := 0x78
def msgTrySpell : UInt8 := 0x79
def msgTryAbility : UInt8 := 0x7A
def msgTryCollide : UInt8 := 0x7B
def msgNewAlias : UInt8 := 0xA5
def msgTextMessage : UInt8 := 0xA8
def msgImportant : UInt8 := 0xAA
def msgImportantAck : UInt8 := 0xAB
def msgMouse : UInt8 := 0xAC
def msgIncomingClient : UInt8 := 0xAD
def msgOutgoingClient : UInt8 := 0xAE
def msgGameSettings : UInt8 := 0xAF
def msgGameSettings2 : UInt8 := 0xB0
def msgRequestMap : UInt8 := 0xB6
def msgCancelMap : UInt8 := 0xB7
def msgMapSendStart : UInt8 := 0xB8
def msgMapSendPacket : UInt8 := 0xB9
def msgServerCmd : UInt8 := 0xBB
def msgSysopPw : UInt8 := 0xBC
def msgKeepAlive : UInt8 := 0xBE
def msgReceivedMap : UInt8 := 0xBF
def msgClientReady : UInt8 := 0xC0
def msgRequestSavePlayer : UInt8 := 0xC1
def msgXferMsg : UInt8 := 0xC2
def msgTeamMsg : UInt8 := 0xC4
def msgServerQuitAck : UInt8 := 0xC8
def msgTrade : UInt8 := 0xC9
def msgDialog : UInt8 := 0xD0
def msgRequestTimerStatus : UInt8 := 0xD4
def msgReportSecondaryWeapon : UInt8 := 0xE0
def msgInfoBookData : UInt8 := 0xE2
def msgSocial : UInt8 := 0xE3
def msgFadeBegin : UInt8 := 0xE4
def msgVote : UInt8 := 0xEE
def msgGauntlet : UInt8 := 0xF0
def msgInventoryFail : UInt8 := 0xF1

/-- The handlers the table names. -/
inductive Handler where
  | unknown06
  | playerJoin
  | needTimestamp
  | playerInput
  | playerSetWaypoint
  | tryDrop
  | tryGet
  | tryUse
  | tryEquip
  | tryDequip
  | tryCreatureCommand
  | trySpell
  | tryAbility
  | tryCollide
  | newAlias
  | textMessage
  | important
  | importantAck
  | mouse
  | incomingClient
  | outgoingClient
  | requestMap
  | cancelMap
  | serverCmd
  | sysopPw
  | keepAlive
  | receivedMap
  | clientReady
  | requestSavePlayer
  | xferMsg
  | teamMsg
  | serverQuitAck
  | trade
  | dialog
  | requestTimerStatus
  | reportSecondaryWeapon
  | infoBookData
  | social
  | vote
  | gauntlet
  | inventoryFail
  | newUnknown
  deriving DecidableEq, Repr

/-- The rows of the table with a handler of their own. -/
def ownHandlers : List (UInt8 × SessionStatus × Handler) :=
  [ (0x06, .authed, .unknown06),
    (0x1F, .authed, .playerJoin),
    (msgNeedTimestamp, .loggedIn, .needTimestamp),
    (msgPlayerInput, .loggedIn, .playerInput),
    (msgPlayerSetWaypoint, .loggedIn, .playerSetWaypoint),
    (msgTryDrop, .loggedIn, .tryDrop),
    (msgTryGet, .loggedIn, .tryGet),
    (msgTryUse, .loggedIn, .tryUse),
    (msgTryEquip, .loggedIn, .tryEquip),
    (msgTryDequip, .loggedIn, .tryDequip),
    (msgTryCreatureCommand, .loggedIn, .tryCreatureCommand),
    (msgTrySpell, .loggedIn, .trySpell),
    (msgTryAbility, .loggedIn, .tryAbility),
    (msgTryCollide, .loggedIn, .tryCollide),
    (msgNewAlias, .loggedIn, .newAlias),
    (msgTextMessage, .loggedIn, .textMessage),
    (msgImportant, .loggedIn, .important),
    (msgImportantAck, .loggedIn, .importantAck),
    (msgMouse, .loggedIn, .mouse),
    (msgIncomingClient, .loggedIn, .incomingClient),
    (msgOutgoingClient, .loggedIn, .outgoingClient),
    (msgRequestMap, .loggedIn, .requestMap),
    (msgCancelMap, .loggedIn, .cancelMap),
    (msgServerCmd, .loggedIn, .serverCmd),
    (msgSysopPw, .loggedIn, .sysopPw),
    (msgKeepAlive, .loggedIn, .keepAlive),
    (msgReceivedMap, .loggedIn, .receivedMap),
    (msgClientReady, .loggedIn, .clientReady),
    (msgRequestSavePlayer, .loggedIn, .requestSavePlayer),
    (msgXferMsg, .loggedIn, .xferMsg),
    (msgTeamMsg, .loggedIn, .teamMsg),
    (msgServerQuitAck, .loggedIn, .serverQuitAck),
    (msgTrade, .loggedIn, .trade),
    (msgDialog, .loggedIn, .dialog),
    (msgRequestTimerStatus, .loggedIn, .requestTimerStatus),
    (msgReportSecondaryWeapon, .loggedIn, .reportSecondaryWeapon),
    (msgInfoBookData, .loggedIn, .infoBookData),
    (msgSocial, .loggedIn, .social),
    (msgVote, .loggedIn, .vote),
    (msgGauntlet, .loggedIn, .gauntlet),
    (msgInventoryFail, .loggedIn, .inventoryFail) ]

/-- `opcodeTable.find(opcode)`. -/
def opcodeTable (opcode : UInt8) : Option (SessionStatus × Handler) :=
  match ownHandlers.lookup opcode with
  | some row => some row
  | none =>
      if msgPartialTimestamp ≤ opcode ∧ opcode ≤ msgInventoryFail then
        some (.loggedIn, .newUnknown)
      else none

/-- A row is one of those with a handler of their own, or has the handler that skips the packet. -/
theorem opcodeTable_cases {opcode : UInt8} {status : SessionStatus} {h : Handler}
    (row : opcodeTable opcode = some (status, h)) :
    (opcode, status, h) ∈ ownHandlers ∨ (status = .loggedIn ∧ h = .newUnknown) := by
  unfold opcodeTable at row
  split at row
  · next found =>
      cases row
      obtain ⟨before, after, split, _⟩ := List.lookup_eq_some_iff.mp found
      rw [split]
      exact .inl (List.mem_append_right _ List.mem_cons_self)
  · split at row
    · cases row
      exact .inr ⟨rfl, rfl⟩
    · cases row

end NoxServer.Session
