import Mathlib.Data.List.Sort
import NoxServer.Awesie.SendBuffer

/-!
Who the broadcasts of the server under `awesie_test` reach.

`send_to_all` hands a packet to every session of the table, and `send_packet` drops it only while
the session's player is loading. That flag is set by the login, so a session without a player is
handed what is broadcast (`lobby_told`). As long as nothing is broadcast while there is such a
session, every broadcast goes to a player, and of two players that are ready each has been told of
the other once (`told_once`): at the other's login if it was ready then, and otherwise by
`send_player_info`.

What the sessions are handed is noted in place of the rest of the world.
-/

namespace NoxServer

namespace Awesie

namespace Lobby

open Consume Frames Runs

/-- What a packet tells, as far as it is followed here: `MSG_NEW_PLAYER` for the player of a
session, or something else. -/
inductive Message where
  | newPlayer (ptr : Nat)
  | other
  deriving DecidableEq

/-- A message added to the combined packet of a session, by `send_to_all` or not, and whether the
session had a player then. -/
structure Handed where
  recipient : Nat
  message : Message
  broadcast : Bool
  player : Bool
  deriving DecidableEq

abbrev Log := List Handed

/-- What a packet with an opcode contains when it is about the player of a session. -/
abbrev Contents := Server Log → Nat → UInt8 → List UInt8

/-! ### Sending -/

/-- The note of a message, unless `send_packet` drops it. -/
def noted (here : WorldSession) (ptr : Nat) (message : Message) (broadcast ifReady : Bool) : Log :=
  if ifReady ∧ here.own.playerLoading then [] else [⟨ptr, message, broadcast, here.player⟩]

/-- `send_packet(packet, ifReady, changeUnk)`, with a note of it. -/
def hand (ptr : Nat) (message : Message) (broadcast : Bool) (packet : WorldPacket)
    (ifReady changeUnk : Bool) : Handling Log Unit := do
  let here ← session ptr
  modify fun s => { s with world := s.world ++ noted here ptr message broadcast ifReady }
  sendPacket ptr packet ifReady changeUnk

/-- The loop of `send_to_all`. -/
def handEach (message : Message) (packet : WorldPacket) :
    List (Endpoint × Nat) → Handling Log Unit
  | [] => pure ()
  | entry :: entries => do
      hand entry.2 message true packet true true
      handEach message packet entries

/-- `send_to_all(packet)`. -/
def handAll (message : Message) (packet : WorldPacket) : Handling Log Unit := do
  let s ← get
  handEach message packet s.sessions

/-- What a handler sends, in order. -/
def handSends (ptr : Nat) : List Send → Handling Log Unit
  | [] => pure ()
  | .own packet ifReady changeUnk :: sends => do
      hand ptr .other false packet ifReady changeUnk
      handSends ptr sends
  | .all packet :: sends => do
      handAll .other packet
      handSends ptr sends
  | .flush :: sends => do
      flush ptr
      handSends ptr sends

variable (contents : Contents)

/-- The packet a session builds about the player of another one. -/
def packetAbout (s : Server Log) (here : WorldSession) (subject : Nat)
    (opcode accountId : UInt8) : WorldPacket where
  opcode := opcode
  accountId := accountId
  endpoint := here.endpoint
  buffer := ByteBuffer.extend {} (contents s subject opcode)

/-- A packet to the own client. -/
def sendAbout (ptr subject : Nat) (opcode accountId : UInt8) (ifReady : Bool) :
    Handling Log Unit := do
  let s ← get
  let here ← session ptr
  hand ptr .other false (packetAbout contents s here subject opcode accountId) ifReady true

/-- A packet about the own player to all. -/
def sendAll (ptr : Nat) (opcode : UInt8) : Handling Log Unit := do
  let s ← get
  let here ← session ptr
  handAll .other (packetAbout contents s here ptr opcode 0)

/-- `m_timestamp++` and `_SendPartialTimestampOpcode()`. -/
def nextTimestamp (ptr : Nat) : Handling Log Unit := do
  modifySession ptr fun s => { s with own := { s.own with timestamp := s.own.timestamp + 1 } }
  sendAbout contents ptr ptr 0x27 0 false

/-! ### The login -/

/-- `HandlePlayerJoinOpcode` up to `add_player`. -/
def addPlayer (ptr : Nat) (packet : WorldPacket) : Handling Log WorldPacket := do
  modifySession ptr fun s => { s with player := true }
  let packet ← skipRead packet playerJoinSize
  modifySession ptr fun s => { s with status := .loggedIn }
  let here ← session ptr
  modify fun s => { s with
    players := (here.playerId, ptr) :: s.players.filter fun entry => entry.1 ≠ here.playerId }
  return packet

/-- What the session sends to its own client before it announces the player. -/
def greet (ptr : Nat) : Handling Log Unit := do
  modifySession ptr fun s => { s with own := { s.own with unk := s.own.unk + 1 } }
  sendAbout contents ptr ptr 0xA9 0x80 false
  -- full timestamp, join data and the two packets of game settings
  sendAbout contents ptr ptr 0x28 0x80 false
  sendAbout contents ptr ptr 0x2C 0x80 false
  sendAbout contents ptr ptr 0xAF 0x80 false
  sendAbout contents ptr ptr 0xB0 0x80 false

def sendNewPlayer (ptr : Nat) : Handling Log Unit := do
  let s ← get
  let here ← session ptr
  handAll (.newPlayer ptr) (packetAbout contents s here ptr 0x2D 0x80)

/-- `_SendUseMapOpcode()` and what follows it. -/
def sendUseMap (ptr : Nat) : Handling Log Unit := do
  modifySession ptr fun s => { s with own := { s.own with unk := s.own.unk + 1 } }
  modifySession ptr fun s => { s with own := { s.own with playerLoading := true } }
  sendAbout contents ptr ptr 0x2B 0x80 false
  let here ← session ptr
  hand ptr .other false { opcode := 0x04, endpoint := here.endpoint } false false
  flush ptr
  nextTimestamp contents ptr

def handlePlayerJoinOpcode (ptr : Nat) (packet : WorldPacket) : Handling Log WorldPacket := do
  let packet ← addPlayer ptr packet
  greet contents ptr
  sendNewPlayer contents ptr
  sendUseMap contents ptr
  return packet

/-! ### The client is ready -/

/-- What `send_player_info` tells of one player: who it is, and its status, health and stats. -/
def introduce (ptr subject : Nat) : Handling Log Unit := do
  let s ← get
  let here ← session ptr
  hand ptr (.newPlayer subject) false (packetAbout contents s here subject 0x2D 0x80) true true
  sendAbout contents ptr subject 0x6A 0 true
  sendAbout contents ptr subject 0xDD 0 true
  sendAbout contents ptr subject 0x48 0 true

/-- The loop of `send_player_info`. -/
def introduceEach (ptr : Nat) : List (UInt8 × Nat) → Handling Log Unit
  | [] => pure ()
  | entry :: entries => do
      (if entry.2 ≠ ptr then introduce contents ptr entry.2 else pure ())
      introduceEach ptr entries

/-- `send_player_info(session, packet)`: `m_players` is ordered by the ids. -/
def sendPlayerInfo (ptr : Nat) : Handling Log Unit := do
  let s ← get
  introduceEach contents ptr (s.players.insertionSort fun a b => a.1 ≤ b.1)

/-- `player::respawn()`: `moved` is what the new view sends, and `gear` what the pickups send. -/
def respawn (ptr : Nat) (moved gear : List Send) : Handling Log Unit := do
  handSends ptr moved
  sendAll contents ptr 0xE9
  sendAll contents ptr 0x2F
  -- total health, total mana, stats
  sendAll contents ptr 0xDD
  sendAll contents ptr 0xDE
  sendAll contents ptr 0x48
  sendAbout contents ptr ptr 0x53 0 true
  sendAbout contents ptr ptr 0x54 0 true
  handSends ptr gear

/-- `HandleClientReadyOpcode` once the player is not loading any more. -/
def enterGame (ptr : Nat) (moved gear : List Send) : Handling Log Unit := do
  nextTimestamp contents ptr
  -- the update stream
  sendAbout contents ptr ptr 0xA4 0 true
  sendAbout contents ptr ptr 0xE4 0 false
  respawn contents ptr moved gear

def handleClientReadyOpcode (ptr : Nat) (packet : WorldPacket) (moved gear : List Send) :
    Handling Log Unit := do
  modifySession ptr fun s => { s with own := { s.own with unk := packet.unk + 1 } }
  let here ← session ptr
  if here.own.playerLoading then do
    modifySession ptr fun s => { s with own := { s.own with playerLoading := false } }
    enterGame contents ptr moved gear
    sendPlayerInfo contents ptr
  else pure ()

/-! ### Runs -/

/-- Handlers that leave the notes alone. -/
def silent : Rest Log where
  handlers _ := none
  join here world := .ok (here.own, world, [])
  leave _ world := world

/-- What the server does. The update of a session is a timestamp, what is done with each of its
packets, and the sending of the combined packet; `handler` is any other handler, or the update
of the player by the world. -/
inductive Event where
  | join (packet : WorldPacket)
  | receive (ptr : Nat) (packet : WorldPacket)
  | timestamp (ptr : Nat)
  | resend (ptr : Nat)
  | confirm (ptr : Nat) (packet : WorldPacket)
  | login (ptr : Nat) (packet : WorldPacket)
  | clientReady (ptr : Nat) (packet : WorldPacket) (moved gear : List Send)
  | handler (ptr : Nat) (timestamp : UInt32) (unk : UInt8) (sends : List Send)
  | logout (ptr : Nat)
  | finish (ptr : Nat)
  | destroy (key : Endpoint)
  | sendQueued

def perform : Event → Handling Log Unit
  | .join packet => handleJoin packet
  | .receive ptr packet => queueReceived (some ptr) packet
  | .timestamp ptr => nextTimestamp contents ptr
  | .resend ptr => do
      let here ← session ptr
      sendNow ptr { opcode := 0x14, endpoint := here.endpoint }
  | .confirm ptr packet => do
      let here ← session ptr
      if here.status = .authed then do
        modifySession ptr fun s => { s with endpoint := packet.endpoint }
        handleJoinConfirmation ptr
      else pure ()
  | .login ptr packet => do
      let _ ← handlePlayerJoinOpcode contents ptr packet
      pure ()
  | .clientReady ptr packet moved gear => handleClientReadyOpcode contents ptr packet moved gear
  | .handler ptr timestamp unk sends => do
      modifySession ptr fun s => { s with own := { s.own with timestamp := timestamp, unk := unk } }
      handSends ptr sends
  | .logout ptr => logout silent ptr
  | .finish ptr => do
      let here ← session ptr
      if 0 < here.sendPacket.buffer.size then flush ptr else pure ()
  | .destroy key => destroy silent key
  | .sendQueued => Awesie.sendQueued

/-- What matters here of a session. -/
structure Face where
  player : Bool
  playerLoading : Bool
  status : SessionStatus
  playerId : UInt8
  deriving DecidableEq

def face (here : WorldSession) : Face :=
  ⟨here.player, here.own.playerLoading, here.status, here.playerId⟩

def face? (s : Server Log) (ptr : Nat) : Option Face := (s.session? ptr).map face

/-- The sessions of the table. -/
def members (s : Server Log) : List Nat := s.sessions.map Prod.snd

/-- The session has a player. -/
def Present (s : Server Log) (ptr : Nat) : Prop := ∃ f, face? s ptr = some f ∧ f.player = true

/-- The session has a player, and it is not loading. -/
def Ready (s : Server Log) (ptr : Nat) : Prop :=
  ∃ f, face? s ptr = some f ∧ f.player = true ∧ f.playerLoading = false

instance (s : Server Log) (ptr : Nat) : Decidable (Present s ptr) :=
  inferInstanceAs (Decidable (∃ f ∈ face? s ptr, f.player = true))

instance (s : Server Log) (ptr : Nat) : Decidable (Ready s ptr) :=
  inferInstanceAs (Decidable (∃ f ∈ face? s ptr, f.player = true ∧ f.playerLoading = false))

/-- Packets are handled of the sessions in the table, `MSG_CLIENT_READY` only with a player; and
each session logs in at most once. -/
def Allowed (s : Server Log) : Event → Prop
  | .login ptr _ => ptr ∈ members s ∧ ∀ f, face? s ptr = some f → f.status ≠ .loggedIn
  | .clientReady ptr _ _ _ => ptr ∈ members s ∧ Present s ptr
  | .handler ptr _ _ _ => Present s ptr
  | _ => True

def Step (s : Server Log) (event : Event) (t : Server Log) : Prop :=
  Allowed s event ∧ perform contents event s = .ok ((), t)

/-- Every session of the table that is not loading has a player, but for the given one. -/
def Calm (s : Server Log) (except : Option Nat) : Prop :=
  ∀ ptr ∈ members s, some ptr ≠ except → ∀ f, face? s ptr = some f →
    f.playerLoading = true ∨ f.player = true

instance (s : Server Log) (except : Option Nat) : Decidable (Calm s except) :=
  inferInstanceAs (Decidable (∀ ptr ∈ members s, some ptr ≠ except → ∀ f ∈ face? s ptr,
    f.playerLoading = true ∨ f.player = true))

/-- Nothing is broadcast while the table has a session without a player. At a login the table has
the sessions of all players that are ready, and a player that becomes ready finds all others in
`m_players`. -/
def Orderly (s : Server Log) : Event → Prop
  | .login ptr _ => Calm s (some ptr) ∧ ∀ r, Ready s r → r ∈ members s
  | .clientReady ptr _ _ _ => ∀ f, face? s ptr = some f → f.playerLoading = true →
      Calm s none ∧ ∀ p, Present s p → p ≠ ptr → p ∈ s.players.map Prod.snd
  | .handler _ _ _ sends => (∃ packet, Send.all packet ∈ sends) → Calm s none
  | _ => True

/-- The message tells `r` of the player of `p`. -/
def Handed.tells (r p : Nat) (handed : Handed) : Bool :=
  handed.recipient = r ∧ handed.message = .newPlayer p

/-- How often `r` has been told of the player of `p`. -/
def told (s : Server Log) (r p : Nat) : Nat := s.world.countP (Handed.tells r p)

/-- The session is yet to come or has not logged in. -/
def Fresh (s : Server Log) (ptr : Nat) : Prop :=
  s.heap.length ≤ ptr ∨ ∃ f, face? s ptr = some f ∧ f.status ≠ .loggedIn

/-- Each player that is ready has been told of each other one once, and none before. -/
structure Informed (s : Server Log) : Prop where
  distinct : (members s).Nodup
  inside : ∀ ptr ∈ members s, ptr < s.heap.length
  keys : (s.players.map Prod.fst).Nodup
  players : ∀ entry ∈ s.players, ∃ f, face? s entry.2 = some f ∧ f.player = true ∧
    f.playerId = entry.1
  loggedIn : ∀ ptr f, face? s ptr = some f → f.player = true ∨ f.playerLoading = true →
    f.status = .loggedIn
  broadcast : ∀ handed ∈ s.world, handed.broadcast = true → handed.player = true
  fresh : ∀ r p, r ≠ p → Fresh s r ∨ Fresh s p → told s r p = 0
  ready : ∀ r p, r ≠ p → Ready s r → Present s p → told s r p = 1
  loading : ∀ r p, r ≠ p → Present s r → ¬ Ready s r → told s r p = 0

/-! ### What sending changes -/

/-- The sessions are as they were, but for what is not followed here. -/
structure Alike (s t : Server Log) : Prop where
  sessions : t.sessions = s.sessions
  players : t.players = s.players
  size : t.heap.length = s.heap.length
  face : ∀ ptr, face? t ptr = face? s ptr

theorem Alike.refl (s : Server Log) : Alike s s := ⟨rfl, rfl, rfl, fun _ => rfl⟩

theorem Alike.trans {s m t : Server Log} (first : Alike s m) (second : Alike m t) : Alike s t :=
  ⟨second.sessions.trans first.sessions, second.players.trans first.players,
    second.size.trans first.size, fun ptr => (second.face ptr).trans (first.face ptr)⟩

theorem Alike.members {s t : Server Log} (alike : Alike s t) : members t = members s := by
  rw [Lobby.members, Lobby.members, alike.sessions]

theorem Alike.calm {s t : Server Log} (alike : Alike s t) {except : Option Nat}
    (calm : Calm s except) : Calm t except := by
  intro ptr mem other f is
  rw [alike.members] at mem
  rw [alike.face] at is
  exact calm ptr mem other f is

/-- Messages that tell of no player, and are broadcast to players only. -/
def Quietly (new : Log) : Prop :=
  ∀ handed ∈ new, handed.message = .other ∧ (handed.broadcast = true → handed.player = true)

theorem Quietly.append {new more : Log} (first : Quietly new) (second : Quietly more) :
    Quietly (new ++ more) := by
  intro handed mem
  rcases List.mem_append.mp mem with old | new
  · exact first handed old
  · exact second handed new

theorem Quietly.tells {new : Log} (quietly : Quietly new) (r p : Nat) :
    new.countP (Handed.tells r p) = 0 := by
  refine List.countP_eq_zero.mpr fun handed mem tells => ?_
  have other := (quietly handed mem).1
  simp [Handed.tells, other] at tells

/-- Nothing happens but that such messages are handed to sessions. -/
structure Quiet (s t : Server Log) : Prop where
  alike : Alike s t
  log : ∃ new, t.world = s.world ++ new ∧ Quietly new

/-- What an event keeps that sends to its own client only. -/
def ownFrame : Frame (Server Log) where
  inv _ := True
  rel := Quiet
  refl s := ⟨.refl s, [], (List.append_nil _).symm, nofun⟩
  trans _ _ _ := fun ⟨alike, new, log, quietly⟩ ⟨alike', new', log', quietly'⟩ =>
    ⟨alike.trans alike', new ++ new', by rw [log', log, List.append_assoc],
      quietly.append quietly'⟩

/-- What an event keeps that broadcasts to players only. -/
def calmFrame : Frame (Server Log) where
  inv s := Calm s none
  rel := Quiet
  refl := ownFrame.refl
  trans := ownFrame.trans

/-- What keeps the first frame keeps the second. -/
theorem keeps_calm {α : Type} {m : Handling Log α} {returns : α → Prop}
    (keeps : Keeps ownFrame m returns) : Keeps calmFrame m returns := by
  intro s x t calm run
  obtain ⟨quiet, -, value⟩ := keeps s x t trivial run
  exact ⟨quiet, quiet.alike.calm calm, value⟩

theorem face?_inside {s : Server Log} {ptr : Nat} {f : Face} (is : face? s ptr = some f) :
    ptr < s.heap.length := by
  by_contra outside
  rw [face?, Server.session?, List.getElem?_eq_none (Nat.le_of_not_lt outside)] at is
  cases is

theorem face?_set {s : Server Log} {ptr : Nat} {here : WorldSession}
    (live : s.session? ptr = some here) (there : WorldSession) (ptr' : Nat) :
    face? (s.withSession ptr there) ptr' =
      if ptr' = ptr then some (face there) else face? s ptr' := by
  have each : (s.withSession ptr there).session? ptr' =
      if ptr' = ptr then some there else s.session? ptr' := session?_set live _ ptr'
  unfold face?
  rw [each]
  split
  · rfl
  · rfl

theorem alike_withSession {s : Server Log} {ptr : Nat} {here there : WorldSession}
    (live : s.session? ptr = some here) (same : face there = face here) :
    Alike s (s.withSession ptr there) := by
  refine ⟨rfl, rfl, List.length_set, fun ptr' => ?_⟩
  rw [face?_set live]
  split
  · next own => rw [own, same, face?, live, Option.map_some]
  · rfl

theorem sendPacket_alike {ptr : Nat} {packet : WorldPacket} {ifReady changeUnk : Bool}
    {s t : Server Log} {here : WorldSession} (live : s.session? ptr = some here)
    (run : sendPacket ptr packet ifReady changeUnk s = .ok ((), t)) :
    Alike s t ∧ t.world = s.world := by
  by_cases loading : ifReady = true ∧ here.own.playerLoading = true
  · rw [sendPacket_drops live packet loading] at run
    cases run
    exact ⟨.refl s, rfl⟩
  · rw [sendPacket_run live packet loading] at run
    cases run
    split
    · have queued : Alike s (s.combinedQueued ptr here) := ⟨rfl, rfl, rfl, fun _ => rfl⟩
      have still : (s.combinedQueued ptr here).session? ptr = some here := live
      exact ⟨queued.trans (alike_withSession still rfl), rfl⟩
    · exact ⟨alike_withSession live rfl, rfl⟩

/-- What `send_packet` does, and what is noted of it. -/
theorem hand_eq_ok {ptr : Nat} {message : Message} {broadcast : Bool} {packet : WorldPacket}
    {ifReady changeUnk : Bool} {s t : Server Log}
    (run : hand ptr message broadcast packet ifReady changeUnk s = .ok ((), t)) :
    ∃ here, s.session? ptr = some here ∧ Alike s t ∧
      t.world = s.world ++ noted here ptr message broadcast ifReady := by
  unfold hand at run
  obtain ⟨here, mid, access, next⟩ := bind_run_eq_ok run
  obtain ⟨live, rfl⟩ := session_eq_ok access
  obtain ⟨_, _, ⟨⟩, sends⟩ := bind_run_eq_ok next
  have still (log : Log) : ({ mid with world := log } : Server Log).session? ptr = some here :=
    live
  obtain ⟨alike, world⟩ := sendPacket_alike (still _) sends
  exact ⟨here, live, ⟨alike.sessions, alike.players, alike.size, alike.face⟩, world⟩

theorem noted_quietly (here : WorldSession) (ptr : Nat) (broadcast ifReady : Bool)
    (calm : broadcast = true → ifReady = true ∧
      (here.own.playerLoading = true ∨ here.player = true)) :
    Quietly (noted here ptr .other broadcast ifReady) := by
  unfold noted
  split
  · nofun
  · next handed =>
      intro entry mem
      cases List.mem_singleton.mp mem
      refine ⟨rfl, fun all => ?_⟩
      obtain ⟨ready, known⟩ := calm all
      exact known.resolve_left fun loading => handed ⟨ready, loading⟩

theorem hand_own (ptr : Nat) (packet : WorldPacket) (ifReady changeUnk : Bool) :
    Keeps ownFrame (hand ptr .other false packet ifReady changeUnk) fun _ => True := by
  intro s _ t _ run
  obtain ⟨here, -, alike, log⟩ := hand_eq_ok run
  exact ⟨⟨alike, _, log, noted_quietly here ptr false ifReady nofun⟩, trivial, trivial⟩

theorem session_own (ptr : Nat) : Keeps ownFrame (session ptr) fun _ => True := by
  intro s here t _ run
  obtain ⟨_, rfl⟩ := session_eq_ok run
  exact ⟨ownFrame.refl _, trivial, trivial⟩

theorem modifySession_own (ptr : Nat) {f : WorldSession → WorldSession}
    (same : ∀ here, face (f here) = face here) :
    Keeps ownFrame (modifySession ptr f) fun _ => True := by
  intro s _ t _ run
  obtain ⟨here, live, rfl⟩ := modifySession_eq_ok run
  exact ⟨⟨alike_withSession live (same here), [], (List.append_nil _).symm, nofun⟩, trivial,
    trivial⟩

/-- A change of the queues. -/
theorem modify_own {f : Server Log → Server Log}
    (only : ∀ s, f s = { s with sendQueue := (f s).sendQueue, sent := (f s).sent }) :
    Keeps ownFrame (modify f : Handling Log PUnit) fun _ => True := by
  refine keeps_modify (fun s _ => ?_) fun _ _ => trivial
  rw [only s]
  exact ⟨⟨rfl, rfl, rfl, fun _ => rfl⟩, [], (List.append_nil _).symm, nofun⟩

theorem sendNow_own (ptr : Nat) (packet : WorldPacket) :
    Keeps ownFrame (sendNow ptr packet) fun _ => True :=
  (session_own ptr).seq fun _ => modify_own fun _ => rfl

theorem flush_own (ptr : Nat) : Keeps ownFrame (flush ptr) fun _ => True := by
  refine (session_own ptr).seq fun here => (sendNow_own ptr _).seq fun _ => ?_
  exact modifySession_own ptr fun _ => rfl

theorem sendAbout_own (ptr subject : Nat) (opcode accountId : UInt8) (ifReady : Bool) :
    Keeps ownFrame (sendAbout contents ptr subject opcode accountId ifReady) fun _ => True :=
  keeps_get.seq fun _ => (session_own ptr).seq fun _ => hand_own ptr _ ifReady true

theorem nextTimestamp_own (ptr : Nat) :
    Keeps ownFrame (nextTimestamp contents ptr) fun _ => True := by
  refine Keeps.seq (modifySession_own ptr ?_) fun _ => sendAbout_own contents ptr ptr 0x27 0 false
  exact fun _ => rfl

/-! ### Broadcasts -/

/-- The note of a broadcast message that reaches a session. -/
def reached (s : Server Log) (message : Message) (ptr : Nat) : Option Handed :=
  match face? s ptr with
  | some f => if f.playerLoading then none else some ⟨ptr, message, true, f.player⟩
  | none => none

theorem Alike.reached {s t : Server Log} (alike : Alike s t) (message : Message) (ptr : Nat) :
    reached t message ptr = reached s message ptr := by
  rw [Lobby.reached, Lobby.reached, alike.face]

theorem noted_eq_reached {s : Server Log} {ptr : Nat} {here : WorldSession}
    (live : s.session? ptr = some here) (message : Message) :
    noted here ptr message true true = (reached s message ptr).toList := by
  unfold noted reached face?
  rw [live, Option.map_some]
  dsimp only [face]
  cases here.own.playerLoading with
  | true => rfl
  | false => rfl

theorem handEach_eq_ok {message : Message} {packet : WorldPacket}
    {entries : List (Endpoint × Nat)} {s t : Server Log}
    (run : handEach message packet entries s = .ok ((), t)) :
    Alike s t ∧ t.world = s.world ++ (entries.map Prod.snd).filterMap (reached s message) := by
  induction entries generalizing s with
  | nil =>
      cases run
      exact ⟨.refl _, (List.append_nil _).symm⟩
  | cons entry entries ih =>
      obtain ⟨_, mid, first, others⟩ := bind_run_eq_ok run
      obtain ⟨here, live, alike, log⟩ := hand_eq_ok first
      obtain ⟨alike', log'⟩ := ih others
      refine ⟨alike.trans alike', ?_⟩
      have same : reached mid message = reached s message :=
        funext fun ptr => alike.reached message ptr
      rw [log', log, same, noted_eq_reached live, List.append_assoc, List.map_cons,
        List.filterMap_cons]
      cases reached s message entry.2 with
      | none => rfl
      | some handed => rfl

/-- A broadcast reaches the sessions of the table that are not loading. -/
theorem handAll_eq_ok {message : Message} {packet : WorldPacket} {s t : Server Log}
    (run : handAll message packet s = .ok ((), t)) :
    Alike s t ∧ t.world = s.world ++ (members s).filterMap (reached s message) := by
  unfold handAll at run
  obtain ⟨_, _, ⟨⟩, each⟩ := bind_run_eq_ok run
  exact handEach_eq_ok each

/-- While all others have a player, a broadcast reaches players only. -/
theorem reached_player {s : Server Log} (calm : Calm s none) {message : Message}
    {handed : Handed} (mem : handed ∈ (members s).filterMap (reached s message)) :
    handed.message = message ∧ handed.player = true := by
  obtain ⟨ptr, member, is⟩ := List.mem_filterMap.mp mem
  unfold reached at is
  split at is
  · next f here =>
      split at is
      · cases is
      · next handed =>
          cases is
          exact ⟨rfl, (calm ptr member nofun f here).resolve_left handed⟩
  · cases is

theorem handAll_calm (packet : WorldPacket) :
    Keeps calmFrame (handAll .other packet) fun _ => True := by
  intro s _ t calm run
  obtain ⟨alike, log⟩ := handAll_eq_ok run
  refine ⟨⟨alike, _, log, fun handed mem => ?_⟩, alike.calm calm, trivial⟩
  obtain ⟨message, player⟩ := reached_player calm mem
  exact ⟨message, fun _ => player⟩

theorem sendAll_calm (ptr : Nat) (opcode : UInt8) :
    Keeps calmFrame (sendAll contents ptr opcode) fun _ => True :=
  keeps_get.seq fun _ => (keeps_calm (session_own ptr)).seq fun _ => handAll_calm _

theorem handSends_calm (ptr : Nat) (sends : List Send) :
    Keeps calmFrame (handSends ptr sends) fun _ => True := by
  induction sends with
  | nil => exact keeps_pure trivial
  | cons send sends ih =>
      cases send with
      | own packet ifReady changeUnk =>
          exact (keeps_calm (hand_own ptr packet ifReady changeUnk)).seq fun _ => ih
      | all packet => exact (handAll_calm packet).seq fun _ => ih
      | flush => exact (keeps_calm (flush_own ptr)).seq fun _ => ih

/-- Without a broadcast it does not matter who has a player. -/
theorem handSends_own (ptr : Nat) {sends : List Send}
    (none : ¬ ∃ packet, Send.all packet ∈ sends) :
    Keeps ownFrame (handSends ptr sends) fun _ => True := by
  induction sends with
  | nil => exact keeps_pure trivial
  | cons send sends ih =>
      have others := ih fun ⟨packet, mem⟩ => none ⟨packet, List.mem_cons_of_mem _ mem⟩
      cases send with
      | own packet ifReady changeUnk =>
          exact (hand_own ptr packet ifReady changeUnk).seq fun _ => others
      | all packet => exact absurd ⟨packet, List.mem_cons_self⟩ none
      | flush => exact (flush_own ptr).seq fun _ => others

/-- The session is not loading. -/
def Hears (s : Server Log) (ptr : Nat) : Prop :=
  ∃ f, face? s ptr = some f ∧ f.playerLoading = false

/-- The announcement of a player reaches a session of the table that is not loading. -/
theorem reached_tells_iff (s : Server Log) (subject r p ptr : Nat) :
    ((reached s (.newPlayer subject) ptr).map (Handed.tells r p)).getD false = true ↔
      ptr = r ∧ p = subject ∧ Hears s r := by
  unfold reached Hears
  cases is : face? s ptr with
  | none =>
      refine iff_of_false Bool.false_ne_true ?_
      rintro ⟨rfl, -, f, here, -⟩
      cases is.symm.trans here
  | some f =>
      dsimp only
      cases loading : f.playerLoading with
      | true =>
          refine iff_of_false Bool.false_ne_true ?_
          rintro ⟨rfl, -, f', here, hears⟩
          cases is.symm.trans here
          cases loading.symm.trans hears
      | false =>
          simp only [Handed.tells, Bool.false_eq_true, if_false, Option.map_some,
            Option.getD_some, decide_eq_true_eq, Message.newPlayer.injEq]
          constructor
          · rintro ⟨rfl, rfl⟩
            exact ⟨rfl, rfl, f, is, loading⟩
          · rintro ⟨rfl, rfl, -⟩
            exact ⟨rfl, rfl⟩

open Classical in
theorem reached_tells {s : Server Log} {ptrs : List Nat} (distinct : ptrs.Nodup)
    (subject r p : Nat) :
    (ptrs.filterMap (reached s (.newPlayer subject))).countP (Handed.tells r p) =
      if p = subject ∧ r ∈ ptrs ∧ Hears s r then 1 else 0 := by
  rw [List.countP_filterMap]
  by_cases told : p = subject ∧ Hears s r
  · have own : ptrs.countP (fun ptr => ((reached s (.newPlayer subject) ptr).map
        (Handed.tells r p)).getD false) = ptrs.count r := by
      rw [List.count_eq_countP]
      refine List.countP_congr fun ptr _ => ?_
      rw [reached_tells_iff, beq_iff_eq]
      exact and_iff_left told
    rw [own, distinct.count]
    exact if_congr ⟨fun mem => ⟨told.1, mem, told.2⟩, fun all => all.2.1⟩ rfl rfl
  · rw [if_neg fun all => told ⟨all.1, all.2.2⟩]
    refine List.countP_eq_zero.mpr fun ptr _ tells => ?_
    exact told ((reached_tells_iff s subject r p ptr).mp tells).2

/-! ### Introductions -/

theorem introduce_eq_ok {ptr subject : Nat} {s t : Server Log}
    (run : introduce contents ptr subject s = .ok ((), t)) :
    ∃ here, s.session? ptr = some here ∧ Alike s t ∧ ∃ new, Quietly new ∧
      t.world = s.world ++ (noted here ptr (.newPlayer subject) false true ++ new) := by
  unfold introduce at run
  obtain ⟨_, _, ⟨⟩, run⟩ := bind_run_eq_ok run
  obtain ⟨_, mid, access, run'⟩ := bind_run_eq_ok run
  obtain ⟨live, rfl⟩ := session_eq_ok access
  obtain ⟨_, next, told, others⟩ := bind_run_eq_ok run'
  obtain ⟨here, live', alike, log⟩ := hand_eq_ok told
  have rest : Keeps ownFrame (do
      sendAbout contents ptr subject 0x6A 0 true
      sendAbout contents ptr subject 0xDD 0 true
      sendAbout contents ptr subject 0x48 0 true) fun _ => True :=
    (sendAbout_own contents ptr subject 0x6A 0 true).seq fun _ =>
      (sendAbout_own contents ptr subject 0xDD 0 true).seq fun _ =>
        sendAbout_own contents ptr subject 0x48 0 true
  obtain ⟨⟨alike', new, log', quietly⟩, -, -⟩ := rest next () t trivial others
  exact ⟨here, live', alike.trans alike', new, quietly, by rw [log', log, List.append_assoc]⟩

theorem Alike.hears {s t : Server Log} (alike : Alike s t) {ptr : Nat} (hears : Hears s ptr) :
    Hears t ptr := by
  obtain ⟨f, is, loading⟩ := hears
  exact ⟨f, (alike.face ptr).trans is, loading⟩

/-- What is noted of an introduction. -/
theorem noted_tells {s : Server Log} {ptr : Nat} {here : WorldSession}
    (live : s.session? ptr = some here) (hears : Hears s ptr) (subject r p : Nat) :
    (noted here ptr (.newPlayer subject) false true).countP (Handed.tells r p) =
      if r = ptr ∧ p = subject then 1 else 0 := by
  obtain ⟨f, is, loading⟩ := hears
  rw [face?, live, Option.map_some] at is
  cases is
  have ready : here.own.playerLoading = false := loading
  unfold noted
  rw [ready, if_neg fun both => Bool.false_ne_true both.2, List.countP_singleton]
  refine if_congr ?_ rfl rfl
  simp only [Handed.tells, decide_eq_true_eq, Message.newPlayer.injEq]
  exact and_congr eq_comm eq_comm

/-- A session that is not loading is told of each of the other players. -/
theorem introduceEach_eq_ok {ptr : Nat} {entries : List (UInt8 × Nat)} {s t : Server Log}
    (hears : Hears s ptr) (run : introduceEach contents ptr entries s = .ok ((), t)) :
    Alike s t ∧ ∃ new, t.world = s.world ++ new ∧
      (∀ handed ∈ new, handed.broadcast = true → handed.player = true) ∧
      ∀ r p, new.countP (Handed.tells r p) =
        if r = ptr ∧ p ≠ ptr then (entries.map Prod.snd).count p else 0 := by
  induction entries generalizing s with
  | nil =>
      cases run
      exact ⟨.refl _, [], (List.append_nil _).symm, nofun, fun r p => (ite_self 0).symm⟩
  | cons entry entries ih =>
      obtain ⟨_, mid, first, others⟩ := bind_run_eq_ok run
      by_cases own : entry.2 = ptr
      · rw [if_neg (not_not_intro own)] at first
        cases first
        obtain ⟨alike, new, log, players, tells⟩ := ih hears others
        refine ⟨alike, new, log, players, fun r p => ?_⟩
        rw [tells]
        split
        · next both =>
            have ne : entry.2 ≠ p := fun same => both.2 (same.symm.trans own)
            rw [List.map_cons, List.count_cons_of_ne ne]
        · rfl
      · rw [if_pos own] at first
        obtain ⟨here, live, alike, said, quietly, log⟩ := introduce_eq_ok contents first
        obtain ⟨alike', new, log', players, tells⟩ := ih (alike.hears hears) others
        refine ⟨alike.trans alike', _, by rw [log', log, List.append_assoc], ?_, fun r p => ?_⟩
        · intro handed mem all
          rcases List.mem_append.mp mem with now | later
          · rcases List.mem_append.mp now with introduced | also
            · unfold noted at introduced
              split at introduced
              · cases introduced
              · cases List.mem_singleton.mp introduced
                cases all
            · exact (quietly handed also).2 all
          · exact players handed later all
        · rw [List.countP_append, List.countP_append, noted_tells live hears, quietly.tells,
            tells, List.map_cons, List.count_cons]
          have this_one : (if r = ptr ∧ p = entry.2 then 1 else 0) =
              if r = ptr ∧ p ≠ ptr then if (entry.2 == p) = true then 1 else 0 else 0 := by
            by_cases is : p = entry.2
            · subst is
              simp [own]
            · simp [is, Ne.symm is]
          rw [this_one]
          split
          · rw [Nat.add_zero, Nat.add_comm]
          · rfl

/-! ### A session changes -/

/-- One session's face has become the given one. -/
structure Changes (s t : Server Log) (ptr : Nat) (f : Face) : Prop where
  sessions : t.sessions = s.sessions
  size : t.heap.length = s.heap.length
  face : ∀ ptr', face? t ptr' = if ptr' = ptr then some f else face? s ptr'

theorem Changes.members {s t : Server Log} {ptr : Nat} {f : Face} (changes : Changes s t ptr f) :
    members t = members s := by
  rw [Lobby.members, Lobby.members, changes.sessions]

theorem Changes.again {s m t : Server Log} {ptr : Nat} {f g : Face} (first : Changes s m ptr f)
    (second : Changes m t ptr g) : Changes s t ptr g := by
  refine ⟨second.sessions.trans first.sessions, second.size.trans first.size, fun ptr' => ?_⟩
  rw [second.face, first.face]
  split
  · rfl
  · rfl

theorem Changes.alike {s m t : Server Log} {ptr : Nat} {f : Face} (first : Changes s m ptr f)
    (alike : Alike m t) : Changes s t ptr f :=
  ⟨alike.sessions.trans first.sessions, alike.size.trans first.size,
    fun ptr' => (alike.face ptr').trans (first.face ptr')⟩

/-- Once the one session that was excepted has a player, there is no exception. -/
theorem Changes.calm {s t : Server Log} {ptr : Nat} {f : Face} (changes : Changes s t ptr f)
    (player : f.player = true) (calm : Calm s (some ptr)) : Calm t none := by
  intro ptr' mem _ g is
  rw [changes.members] at mem
  rw [changes.face] at is
  split at is
  · cases is
    exact .inr player
  · next other => exact calm ptr' mem (fun same => other (Option.some.inj same)) g is

section Changes

variable {s t : Server Log} {ptr : Nat} {f : Face}

theorem Changes.face_self (changes : Changes s t ptr f) : face? t ptr = some f :=
  (changes.face ptr).trans (if_pos rfl)

theorem Changes.face_of_ne (changes : Changes s t ptr f) {ptr' : Nat} (ne : ptr' ≠ ptr) :
    face? t ptr' = face? s ptr' :=
  (changes.face ptr').trans (if_neg ne)

theorem Changes.present_iff_of_ne (changes : Changes s t ptr f) {ptr' : Nat} (ne : ptr' ≠ ptr) :
    Present t ptr' ↔ Present s ptr' := by
  unfold Present
  rw [changes.face_of_ne ne]

theorem Changes.ready_iff_of_ne (changes : Changes s t ptr f) {ptr' : Nat} (ne : ptr' ≠ ptr) :
    Ready t ptr' ↔ Ready s ptr' := by
  unfold Ready
  rw [changes.face_of_ne ne]

/-- A session that is logged in is not fresh, and others are as they were. -/
theorem Changes.fresh_again_iff (changes : Changes s t ptr f) (loggedIn : f.status = .loggedIn)
    (inside : ptr < s.heap.length) (p : Nat) : Fresh t p ↔ p ≠ ptr ∧ Fresh s p := by
  unfold Fresh
  rw [changes.size]
  by_cases same : p = ptr
  · subst same
    refine iff_of_false ?_ fun both => both.1 rfl
    rintro (outside | ⟨g, there, status⟩)
    · exact absurd inside (Nat.not_lt.mpr outside)
    · rw [changes.face_self] at there
      cases there
      exact status loggedIn
  · rw [changes.face_of_ne same]
    exact (and_iff_right same).symm

/-- The players of a table have their sessions still, if the one that is changed has its own. -/
theorem Changes.players (changes : Changes s t ptr f) {entry : UInt8 × Nat}
    (keeps : ∀ g, face? s ptr = some g → g.player = true →
      f.player = true ∧ f.playerId = g.playerId)
    (before : ∃ g, face? s entry.2 = some g ∧ g.player = true ∧ g.playerId = entry.1) :
    ∃ g, face? t entry.2 = some g ∧ g.player = true ∧ g.playerId = entry.1 := by
  obtain ⟨g, there, player, id⟩ := before
  by_cases same : entry.2 = ptr
  · rw [same] at there ⊢
    obtain ⟨player', id'⟩ := keeps g there player
    exact ⟨f, changes.face_self, player', id'.trans id⟩
  · exact ⟨g, (changes.face_of_ne same).trans there, player, id⟩

/-- Sessions with a player, or that load, are logged in still. -/
theorem Changes.loggedIn (changes : Changes s t ptr f) (own : f.status = .loggedIn)
    (before : ∀ ptr' g, face? s ptr' = some g → g.player = true ∨ g.playerLoading = true →
      g.status = .loggedIn) {ptr' : Nat} {g : Face} (there : face? t ptr' = some g)
    (some : g.player = true ∨ g.playerLoading = true) : g.status = .loggedIn := by
  by_cases same : ptr' = ptr
  · rw [same, changes.face_self] at there
    cases there
    exact own
  · rw [changes.face_of_ne same] at there
    exact before ptr' g there some

/-- What is told is what was told and what is new. -/
theorem told_append {new : Log} (log : t.world = s.world ++ new) (r p : Nat) :
    told t r p = told s r p + new.countP (Handed.tells r p) := by
  rw [told, told, log, List.countP_append]

end Changes

theorem modifySession_changes {ptr : Nat} {f : WorldSession → WorldSession} {s t : Server Log}
    (run : modifySession ptr f s = .ok ((), t)) :
    ∃ here, s.session? ptr = some here ∧ t.session? ptr = some (f here) ∧
      Changes s t ptr (face (f here)) ∧ t.players = s.players ∧ t.world = s.world := by
  obtain ⟨here, live, rfl⟩ := modifySession_eq_ok run
  have written : (s.withSession ptr (f here)).session? ptr = some (f here) :=
    (session?_set live _ ptr).trans (if_pos rfl)
  exact ⟨here, live, written, ⟨rfl, List.length_set, face?_set live (f here)⟩, rfl, rfl⟩

/-- `addPlayer` makes the session one with a player, logged in, and enters it under its id in the
place of any that had it. -/
theorem addPlayer_eq_ok {ptr : Nat} {packet packet' : WorldPacket} {s t : Server Log}
    (run : addPlayer ptr packet s = .ok (packet', t)) :
    ∃ f, face? s ptr = some f ∧
      Changes s t ptr ⟨true, f.playerLoading, .loggedIn, f.playerId⟩ ∧
      t.players = (f.playerId, ptr) :: s.players.filter (fun entry => entry.1 ≠ f.playerId) ∧
      t.world = s.world := by
  unfold addPlayer at run
  obtain ⟨_, mid, creates, reads⟩ := bind_run_eq_ok run
  obtain ⟨here, live, created, changes, players, world⟩ := modifySession_changes creates
  obtain ⟨_, still, read, logs⟩ := bind_run_eq_ok reads
  have same : still = mid := by
    cases got : skipRead packet playerJoinSize with
    | error fault =>
        rw [got] at read
        cases read
    | ok rest =>
        rw [got] at read
        cases read
        rfl
  rw [same] at logs
  obtain ⟨_, mid', status, adds⟩ := bind_run_eq_ok logs
  obtain ⟨here', live', logged, changes', players', world'⟩ := modifySession_changes status
  cases created.symm.trans live'
  obtain ⟨_, last, access, writes⟩ := bind_run_eq_ok adds
  obtain ⟨live'', rfl⟩ := session_eq_ok access
  cases logged.symm.trans live''
  cases writes
  have both := changes.again changes'
  refine ⟨face here, by rw [face?, live, Option.map_some],
    ⟨both.sessions, both.size, both.face⟩, ?_, ?_⟩
  · dsimp only
    rw [players', players]
    rfl
  · exact world'.trans world

theorem greet_own (ptr : Nat) : Keeps ownFrame (greet contents ptr) fun _ => True := by
  refine Keeps.seq (modifySession_own ptr ?_) fun _ => ?_
  · exact fun _ => rfl
  refine (sendAbout_own contents ptr ptr 0xA9 0x80 false).seq fun _ => ?_
  refine (sendAbout_own contents ptr ptr 0x28 0x80 false).seq fun _ => ?_
  refine (sendAbout_own contents ptr ptr 0x2C 0x80 false).seq fun _ => ?_
  refine (sendAbout_own contents ptr ptr 0xAF 0x80 false).seq fun _ => ?_
  exact sendAbout_own contents ptr ptr 0xB0 0x80 false

theorem sendNewPlayer_eq_ok {ptr : Nat} {s t : Server Log}
    (run : sendNewPlayer contents ptr s = .ok ((), t)) :
    Alike s t ∧ t.world = s.world ++ (members s).filterMap (reached s (.newPlayer ptr)) := by
  unfold sendNewPlayer at run
  obtain ⟨_, _, ⟨⟩, run⟩ := bind_run_eq_ok run
  obtain ⟨here, mid, access, run'⟩ := bind_run_eq_ok run
  obtain ⟨live, rfl⟩ := session_eq_ok access
  exact handAll_eq_ok run'

/-- After its announcement the player is loading. -/
theorem sendUseMap_eq_ok {ptr : Nat} {s t : Server Log}
    (run : sendUseMap contents ptr s = .ok ((), t)) :
    ∃ f, face? s ptr = some f ∧ Changes s t ptr { f with playerLoading := true } ∧
      t.players = s.players ∧ ∃ new, t.world = s.world ++ new ∧ Quietly new := by
  unfold sendUseMap at run
  obtain ⟨_, mid, counts, run⟩ := bind_run_eq_ok run
  obtain ⟨here, live, counted, changes, players, world⟩ := modifySession_changes counts
  obtain ⟨_, mid', loads, run⟩ := bind_run_eq_ok run
  obtain ⟨here', live', -, changes', players', world'⟩ := modifySession_changes loads
  cases counted.symm.trans live'
  have rest : Keeps ownFrame (do
      sendAbout contents ptr ptr 0x2B 0x80 false
      let here ← session ptr
      hand ptr .other false { opcode := 0x04, endpoint := here.endpoint } false false
      flush ptr
      nextTimestamp contents ptr) fun _ => True := by
    refine (sendAbout_own contents ptr ptr 0x2B 0x80 false).seq fun _ => ?_
    refine (session_own ptr).seq fun here => (hand_own ptr _ false false).seq fun _ => ?_
    exact (flush_own ptr).seq fun _ => nextTimestamp_own contents ptr
  obtain ⟨⟨alike, new, log, quietly⟩, -, -⟩ := rest mid' () t trivial run
  refine ⟨face here, by rw [face?, live, Option.map_some], (changes.again changes').alike alike,
    ?_, new, ?_, quietly⟩
  · rw [alike.players, players', players]
  · rw [log, world', world]

/-- A login: the player is added, those of the table that hear are told of it, and it is
loading. -/
theorem login_eq_ok {ptr : Nat} {packet packet' : WorldPacket} {s t : Server Log}
    (distinct : (members s).Nodup) (calm : Calm s (some ptr))
    (run : handlePlayerJoinOpcode contents ptr packet s = .ok (packet', t)) :
    ∃ f, face? s ptr = some f ∧ Changes s t ptr ⟨true, true, .loggedIn, f.playerId⟩ ∧
      t.players = (f.playerId, ptr) :: s.players.filter (fun entry => entry.1 ≠ f.playerId) ∧
      ∃ new, t.world = s.world ++ new ∧
        (∀ handed ∈ new, handed.broadcast = true → handed.player = true) ∧
        ∀ r p, r ≠ p → (new.countP (Handed.tells r p) = 1 ∧ p = ptr ∧ r ∈ members s ∧ Hears s r ∨
          new.countP (Handed.tells r p) = 0 ∧ ¬ (p = ptr ∧ r ∈ members s ∧ Hears s r)) := by
  unfold handlePlayerJoinOpcode at run
  obtain ⟨_, added, adds, run⟩ := bind_run_eq_ok run
  obtain ⟨f, is, changes, players, world⟩ := addPlayer_eq_ok adds
  obtain ⟨_, greeted, greets, run⟩ := bind_run_eq_ok run
  obtain ⟨⟨alike, said, log, quietly⟩, -, -⟩ :=
    greet_own contents ptr added () greeted trivial greets
  obtain ⟨_, announced, announces, run⟩ := bind_run_eq_ok run
  obtain ⟨alike', log'⟩ := sendNewPlayer_eq_ok contents announces
  obtain ⟨_, last, loads, run⟩ := bind_run_eq_ok run
  obtain ⟨g, is', changes', players', more, log'', quietly'⟩ := sendUseMap_eq_ok contents loads
  cases run
  have before : Changes s announced ptr ⟨true, f.playerLoading, .loggedIn, f.playerId⟩ :=
    (changes.alike alike).alike alike'
  have own := before.face ptr
  rw [if_pos rfl] at own
  cases own.symm.trans is'
  have calm' : Calm greeted none := alike.calm (changes.calm rfl calm)
  have table : members greeted = members s := alike.members.trans changes.members
  refine ⟨f, is, before.again changes', ?_, said ++ (members greeted).filterMap
    (reached greeted (.newPlayer ptr)) ++ more, ?_, ?_, ?_⟩
  · rw [players', alike'.players, alike.players, players]
  · rw [log'', log', log, world, List.append_assoc, List.append_assoc, List.append_assoc]
  · intro handed mem all
    rcases List.mem_append.mp mem with earlier | later
    · rcases List.mem_append.mp earlier with greeting | announcement
      · exact (quietly handed greeting).2 all
      · exact (reached_player calm' announcement).2
    · exact (quietly' handed later).2 all
  · intro r p other
    have hears : p = ptr → (Hears greeted r ↔ Hears s r) := by
      rintro rfl
      unfold Hears
      rw [alike.face, changes.face, if_neg other]
    rw [List.countP_append, List.countP_append, quietly.tells, quietly'.tells,
      reached_tells (table ▸ distinct), table, Nat.zero_add, Nat.add_zero]
    split
    · next told => exact .inl ⟨rfl, told.1, told.2.1, (hears told.1).mp told.2.2⟩
    · next untold =>
        exact .inr ⟨rfl, fun all => untold ⟨all.1, all.2.1, (hears all.1).mpr all.2.2⟩⟩

/-! ### A player becomes ready -/

theorem respawn_calm (ptr : Nat) (moved gear : List Send) :
    Keeps calmFrame (respawn contents ptr moved gear) fun _ => True := by
  refine (handSends_calm ptr moved).seq fun _ => (sendAll_calm contents ptr 0xE9).seq fun _ => ?_
  refine (sendAll_calm contents ptr 0x2F).seq fun _ => (sendAll_calm contents ptr 0xDD).seq
    fun _ => ?_
  refine (sendAll_calm contents ptr 0xDE).seq fun _ => (sendAll_calm contents ptr 0x48).seq
    fun _ => ?_
  refine (keeps_calm (sendAbout_own contents ptr ptr 0x53 0 true)).seq fun _ => ?_
  refine (keeps_calm (sendAbout_own contents ptr ptr 0x54 0 true)).seq fun _ => ?_
  exact handSends_calm ptr gear

theorem enterGame_calm (ptr : Nat) (moved gear : List Send) :
    Keeps calmFrame (enterGame contents ptr moved gear) fun _ => True := by
  refine (keeps_calm (nextTimestamp_own contents ptr)).seq fun _ => ?_
  refine (keeps_calm (sendAbout_own contents ptr ptr 0xA4 0 true)).seq fun _ => ?_
  refine (keeps_calm (sendAbout_own contents ptr ptr 0xE4 0 false)).seq fun _ => ?_
  exact respawn_calm contents ptr moved gear

theorem sendPlayerInfo_eq_ok {ptr : Nat} {s t : Server Log} (hears : Hears s ptr)
    (run : sendPlayerInfo contents ptr s = .ok ((), t)) :
    Alike s t ∧ ∃ new, t.world = s.world ++ new ∧
      (∀ handed ∈ new, handed.broadcast = true → handed.player = true) ∧
      ∀ r p, new.countP (Handed.tells r p) =
        if r = ptr ∧ p ≠ ptr then (s.players.map Prod.snd).count p else 0 := by
  unfold sendPlayerInfo at run
  obtain ⟨_, _, ⟨⟩, run⟩ := bind_run_eq_ok run
  obtain ⟨alike, new, log, players, tells⟩ := introduceEach_eq_ok contents hears run
  refine ⟨alike, new, log, players, fun r p => ?_⟩
  rw [tells, ((List.perm_insertionSort _ s.players).map Prod.snd).count_eq]

/-- A player that is loading becomes ready and is told of all others in `m_players`. Otherwise the
packet does nothing. -/
theorem clientReady_eq_ok {ptr : Nat} {packet : WorldPacket} {moved gear : List Send}
    {s t : Server Log} (present : Present s ptr)
    (calm : ∀ f, face? s ptr = some f → f.playerLoading = true → Calm s none)
    (run : handleClientReadyOpcode contents ptr packet moved gear s = .ok ((), t)) :
    Quiet s t ∨ ∃ f, face? s ptr = some f ∧ f.playerLoading = true ∧
      Changes s t ptr { f with playerLoading := false } ∧ t.players = s.players ∧
      ∃ new, t.world = s.world ++ new ∧
        (∀ handed ∈ new, handed.broadcast = true → handed.player = true) ∧
        ∀ r p, new.countP (Handed.tells r p) =
          if r = ptr ∧ p ≠ ptr then (s.players.map Prod.snd).count p else 0 := by
  unfold handleClientReadyOpcode at run
  obtain ⟨_, mid, counts, run⟩ := bind_run_eq_ok run
  obtain ⟨here, live, counted, changes, players, world⟩ := modifySession_changes counts
  obtain ⟨_, _, access, run'⟩ := bind_run_eq_ok run
  obtain ⟨live', rfl⟩ := session_eq_ok access
  cases counted.symm.trans live'
  have is : face? s ptr = some (face here) := by rw [face?, live, Option.map_some]
  split at run'
  · next loading =>
      obtain ⟨_, ready, readies, run⟩ := bind_run_eq_ok run'
      obtain ⟨here', live'', -, changes', players', world'⟩ := modifySession_changes readies
      cases counted.symm.trans live''
      obtain ⟨_, entered, enters, informs⟩ := bind_run_eq_ok run
      have now : Changes s ready ptr { face here with playerLoading := false } :=
        changes.again changes'
      have player : (face here).player = true := by
        obtain ⟨f, is', player⟩ := present
        cases is.symm.trans is'
        exact player
      have quiet : Calm ready none := by
        refine now.calm player fun ptr' mem _ => ?_
        exact calm (face here) is loading ptr' mem nofun
      obtain ⟨⟨alike, said, log, quietly⟩, -, -⟩ :=
        enterGame_calm contents ptr moved gear ready () entered quiet enters
      have hears : Hears entered ptr := by
        refine alike.hears ⟨_, (now.face ptr).trans (if_pos rfl), rfl⟩
      obtain ⟨alike', new, log', others, tells⟩ := sendPlayerInfo_eq_ok contents hears informs
      refine .inr ⟨face here, is, loading, (now.alike alike).alike alike', ?_, said ++ new, ?_, ?_,
        ?_⟩
      · rw [alike'.players, alike.players, players', players]
      · rw [log', log, world', world, List.append_assoc]
      · intro handed mem all
        rcases List.mem_append.mp mem with earlier | later
        · exact (quietly handed earlier).2 all
        · exact others handed later all
      · intro r p
        rw [List.countP_append, quietly.tells, tells, Nat.zero_add, alike.players, players',
          players]
  · cases run'
    refine .inl ⟨⟨changes.sessions, players, changes.size, fun ptr' => ?_⟩, [], ?_, nofun⟩
    · rw [changes.face]
      split
      · next own =>
          rw [own, is]
          rfl
      · rfl
    · rw [world, List.append_nil]

/-! ### What the events keep -/

/-- Where no one new is present, or becomes ready, and no one is told anything, everyone is as
informed as before. -/
theorem Informed.of_told {s t : Server Log} (informed : Informed s)
    (tables : (members t).Nodup ∧ ∀ ptr ∈ members t, ptr < t.heap.length)
    (keys : (t.players.map Prod.fst).Nodup)
    (players : ∀ entry ∈ t.players, ∃ f, face? t entry.2 = some f ∧ f.player = true ∧
      f.playerId = entry.1)
    (loggedIn : ∀ ptr f, face? t ptr = some f → f.player = true ∨ f.playerLoading = true →
      f.status = .loggedIn)
    (broadcast : ∀ handed ∈ t.world, handed.broadcast = true → handed.player = true)
    (told_ : ∀ r p, told t r p = told s r p) (fresh : ∀ p, Fresh t p → Fresh s p)
    (present : ∀ p, Present t p → Present s p)
    (ready : ∀ r, Present t r → (Ready t r ↔ Ready s r)) : Informed t where
  distinct := tables.1
  inside := tables.2
  keys := keys
  players := players
  loggedIn := loggedIn
  broadcast := broadcast
  fresh r p other new := by
    rw [told_]
    exact informed.fresh r p other (new.imp (fresh r) (fresh p))
  ready r p other here there := by
    have present_r : Present t r := here.imp fun _ is => ⟨is.1, is.2.1⟩
    rw [told_]
    exact informed.ready r p other ((ready r present_r).mp here) (present p there)
  loading r p other here notReady := by
    rw [told_]
    exact informed.loading r p other (present r here) fun is => notReady ((ready r here).mpr is)

/-- What hands over only messages that tell of no player leaves everyone as informed as before. -/
theorem Informed.quiet {s t : Server Log} (informed : Informed s) (quiet : Quiet s t) :
    Informed t := by
  obtain ⟨alike, new, log, quietly⟩ := quiet
  have fresh (p : Nat) : Fresh t p ↔ Fresh s p := by
    unfold Fresh
    rw [alike.size, alike.face]
  have present (p : Nat) : Present t p ↔ Present s p := by
    unfold Present
    rw [alike.face]
  have ready (p : Nat) : Ready t p ↔ Ready s p := by
    unfold Ready
    rw [alike.face]
  refine informed.of_told ⟨?_, ?_⟩ ?_ ?_ ?_ ?_ (fun r p => ?_) (fun p => (fresh p).mp)
    (fun p => (present p).mp) fun r _ => ready r
  · rw [alike.members]
    exact informed.distinct
  · rw [alike.members, alike.size]
    exact informed.inside
  · rw [alike.players]
    exact informed.keys
  · intro entry mem
    rw [alike.players] at mem
    rw [alike.face]
    exact informed.players entry mem
  · intro ptr f is
    rw [alike.face] at is
    exact informed.loggedIn ptr f is
  · intro handed mem
    rw [log] at mem
    rcases List.mem_append.mp mem with old | later
    · exact informed.broadcast handed old
    · exact (quietly handed later).2
  · rw [told, told, log, List.countP_append, quietly.tells, Nat.add_zero]

/-- A client has joined. -/
theorem Informed.joined {s : Server Log} (informed : Informed s) (sender : Endpoint) :
    Informed (s.joined sender) := by
  have size : (s.joined sender).heap.length = s.heap.length + 1 := List.length_append
  have each (ptr : Nat) : face? (s.joined sender) ptr =
      if ptr = s.heap.length then some ⟨false, false, .authed, s.freeIds.headD 0xFF⟩
      else face? s ptr := by
    unfold face?
    rw [session?_joined]
    split
    · rfl
    · rfl
  have inside (ptr : Nat) (mem : ptr ∈ members (s.joined sender)) :
      ptr < (s.joined sender).heap.length := by
    obtain ⟨entry, listed, rfl⟩ := List.mem_map.mp mem
    rcases OrderedMap.mem_put listed with old | ⟨new, -⟩
    · have below := informed.inside entry.2 (List.mem_map.mpr ⟨entry, old, rfl⟩)
      omega
    · omega
  have distinct : (members (s.joined sender)).Nodup :=
    OrderedMap.nodup_values_put informed.distinct fun mem =>
      absurd (informed.inside _ mem) (Nat.lt_irrefl _)
  refine informed.of_told ⟨distinct, inside⟩ informed.keys (fun entry mem => ?_) ?_
    informed.broadcast (fun _ _ => rfl) ?_ ?_ ?_
  · obtain ⟨f, is, player⟩ := informed.players entry mem
    refine ⟨f, ?_, player⟩
    rw [each, if_neg (Nat.ne_of_lt (face?_inside is)), is]
  · intro ptr f is some
    rw [each] at is
    split at is
    · cases is
      rcases some with player | loading
      · cases player
      · cases loading
    · exact informed.loggedIn ptr f is some
  · rintro p (outside | ⟨f, is, status⟩)
    · exact .inl (by omega)
    · rw [each] at is
      split at is
      · next new => exact .inl (Nat.le_of_eq new.symm)
      · exact .inr ⟨f, is, status⟩
  · rintro p ⟨f, is, player⟩
    rw [each] at is
    split at is
    · cases is
      cases player
    · exact ⟨f, is, player⟩
  · rintro r ⟨f, is, player⟩
    have old : face? (s.joined sender) r = face? s r := by
      rw [each] at is ⊢
      split at is
      · cases is
        cases player
      · next other => exact if_neg other
    unfold Ready
    rw [old]

/-- A session has confirmed its join. -/
theorem Informed.confirmed {s t : Server Log} (informed : Informed s) {ptr : Nat} {f : Face}
    (is : face? s ptr = some f) (authed : f.status = .authed)
    (changes : Changes s t ptr { f with status := .confirmed }) (players : t.players = s.players)
    (log : t.world = s.world) : Informed t := by
  have none (some : f.player = true ∨ f.playerLoading = true) : False := by
    have status := informed.loggedIn ptr f is some
    rw [authed] at status
    cases status
  have other {ptr' : Nat} (present : Present t ptr') : face? t ptr' = face? s ptr' := by
    obtain ⟨g, there, player⟩ := present
    rw [changes.face] at there ⊢
    split at there
    · cases there
      exact absurd (.inl player) none
    · next other => exact if_neg other
  refine informed.of_told ⟨?_, ?_⟩ ?_ (fun entry mem => ?_) ?_ ?_ (fun r p => ?_) ?_ ?_ ?_
  · rw [changes.members]
    exact informed.distinct
  · rw [changes.members, changes.size]
    exact informed.inside
  · rw [players]
    exact informed.keys
  · rw [players] at mem
    obtain ⟨g, there, player⟩ := informed.players entry mem
    refine ⟨g, ?_, player⟩
    rw [changes.face, if_neg, there]
    intro own
    rw [own, is] at there
    cases there
    exact none (.inl player.1)
  · intro ptr' g there some
    rw [changes.face] at there
    split at there
    · cases there
      exact absurd some none
    · exact informed.loggedIn ptr' g there some
  · rw [log]
    exact informed.broadcast
  · rw [told, told, log]
  · rintro p (outside | ⟨g, there, status⟩)
    · exact .inl (changes.size ▸ outside)
    · rw [changes.face] at there
      split at there
      · next own =>
          rw [own]
          exact .inr ⟨f, is, by rw [authed]; decide⟩
      · exact .inr ⟨g, there, status⟩
  · intro p present
    unfold Present
    rw [← other present]
    exact present
  · intro r present
    unfold Ready
    rw [other present]

/-- `logout` takes the player from its session and out of the table, and hands over nothing. -/
theorem logout_eq_ok {ptr : Nat} {s t : Server Log} (run : logout silent ptr s = .ok ((), t)) :
    ∃ f, face? s ptr = some f ∧ Changes s t ptr { f with player := false } ∧
      t.players = (if f.player then s.players.filter fun entry => entry.1 ≠ f.playerId
        else s.players) ∧ t.world = s.world := by
  unfold logout at run
  obtain ⟨here, mid, access, ends⟩ := bind_run_eq_ok run
  obtain ⟨live, rfl⟩ := session_eq_ok access
  have is : face? mid ptr = some (face here) := by rw [face?, live, Option.map_some]
  split at ends
  · next player =>
      obtain ⟨_, left, ⟨⟩, writes⟩ := bind_run_eq_ok ends
      obtain ⟨there, still, -, changes, players, world⟩ := modifySession_changes writes
      cases live.symm.trans still
      refine ⟨face here, is, ⟨changes.sessions, changes.size, changes.face⟩, ?_, world⟩
      rw [players]
      exact (if_pos player).symm
  · next noPlayer =>
      obtain ⟨there, still, -, changes, players, world⟩ := modifySession_changes ends
      cases live.symm.trans still
      refine ⟨face here, is, changes, ?_, world⟩
      rw [players]
      exact (if_neg noPlayer).symm

/-- A player has left. -/
theorem Informed.loggedOut {s t : Server Log} (informed : Informed s) {ptr : Nat}
    (run : logout silent ptr s = .ok ((), t)) : Informed t := by
  obtain ⟨f, is, changes, players, log⟩ := logout_eq_ok run
  have other {ptr' : Nat} (present : Present t ptr') : face? t ptr' = face? s ptr' := by
    obtain ⟨g, there, player⟩ := present
    rw [changes.face] at there ⊢
    split at there
    · cases there
      cases player
    · next other => exact if_neg other
  have fewer : t.players.Sublist s.players := by
    rw [players]
    split
    · exact List.filter_sublist
    · exact .refl _
  refine informed.of_told ⟨?_, ?_⟩ ?_ (fun entry mem => ?_) ?_ ?_ (fun r p => ?_) ?_ ?_ ?_
  · rw [changes.members]
    exact informed.distinct
  · rw [changes.members, changes.size]
    exact informed.inside
  · exact (fewer.map Prod.fst).nodup informed.keys
  · obtain ⟨g, there, player, id⟩ := informed.players entry (fewer.mem mem)
    refine ⟨g, ?_, player, id⟩
    rw [changes.face, if_neg, there]
    intro own
    -- the entry of the player itself is gone
    rw [own, is] at there
    cases there
    rw [players, if_pos player] at mem
    exact of_decide_eq_true (List.mem_filter.mp mem).2 id.symm
  · intro ptr' g there some
    rw [changes.face] at there
    split at there
    · cases there
      exact informed.loggedIn ptr f is (.inr (some.resolve_left Bool.false_ne_true))
    · exact informed.loggedIn ptr' g there some
  · rw [log]
    exact informed.broadcast
  · rw [told, told, log]
  · rintro p (outside | ⟨g, there, status⟩)
    · exact .inl (changes.size ▸ outside)
    · rw [changes.face] at there
      split at there
      · next own =>
          cases there
          rw [own]
          exact .inr ⟨f, is, status⟩
      · exact .inr ⟨g, there, status⟩
  · intro p present
    unfold Present
    rw [← other present]
    exact present
  · intro r present
    unfold Ready
    rw [other present]

/-- A session without a player is deleted. -/
theorem Informed.deleted {s : Server Log} (informed : Informed s) {key : Endpoint} {ptr : Nat}
    {here : WorldSession} (live : s.session? ptr = some here) (gone : ¬ Present s ptr) :
    Informed (s.deleted key ptr here.playerId) := by
  have each (ptr' : Nat) : face? (s.deleted key ptr here.playerId) ptr' =
      if ptr' = ptr then none else face? s ptr' := by
    unfold face?
    rw [session?_deleted live]
    split
    · rfl
    · rfl
  have old {ptr' : Nat} {f : Face} (is : face? (s.deleted key ptr here.playerId) ptr' = some f) :
      face? s ptr' = some f := by
    rw [each] at is
    split at is
    · cases is
    · exact is
  have size : (s.deleted key ptr here.playerId).heap.length = s.heap.length := List.length_set
  have fewer : (members (s.deleted key ptr here.playerId)).Sublist (members s) :=
    List.filter_sublist.map Prod.snd
  refine informed.of_told ⟨fewer.nodup informed.distinct, fun ptr' mem => ?_⟩ informed.keys
    (fun entry mem => ?_) (fun ptr' f is => informed.loggedIn ptr' f (old is)) informed.broadcast
    (fun _ _ => rfl) ?_ ?_ ?_
  · rw [size]
    exact informed.inside ptr' (fewer.mem mem)
  · obtain ⟨f, is, player, id⟩ := informed.players entry mem
    refine ⟨f, ?_, player, id⟩
    rw [each, if_neg, is]
    intro own
    rw [own] at is
    exact gone ⟨f, is, player⟩
  · rintro p (outside | ⟨f, is, status⟩)
    · exact .inl (size ▸ outside)
    · exact .inr ⟨f, old is, status⟩
  · rintro p ⟨f, is, player⟩
    exact ⟨f, old is, player⟩
  · rintro r ⟨f, is, player⟩
    unfold Ready
    rw [is, old is]

theorem Informed.destroyed {s t : Server Log} (informed : Informed s) {key : Endpoint}
    (run : destroy silent key s = .ok ((), t)) : Informed t := by
  rcases destroy_eq_ok run with rfl | ⟨ptr, here, mid, -, live, ⟨player, out⟩ | ⟨none, rfl⟩, rfl⟩
  · exact informed
  · obtain ⟨f, is, changes, -, -⟩ := logout_eq_ok out
    rw [face?, live, Option.map_some] at is
    cases is
    have own := changes.face_self
    obtain ⟨there, live', same⟩ := Option.map_eq_some_iff.mp own
    have id : there.playerId = here.playerId := congrArg Face.playerId same
    rw [← id]
    refine (informed.loggedOut out).deleted live' ?_
    rintro ⟨g, is, player⟩
    cases own.symm.trans is
    cases player
  · refine informed.deleted live ?_
    rintro ⟨f, is, player⟩
    rw [face?, live, Option.map_some] at is
    cases is
    exact Bool.false_ne_true (none.symm.trans player)

theorem Informed.not_fresh {s : Server Log} (informed : Informed s) {ptr : Nat}
    (present : Present s ptr) : ¬ Fresh s ptr := by
  obtain ⟨f, is, player⟩ := present
  rintro (outside | ⟨g, is', status⟩)
  · exact absurd (face?_inside is) (Nat.not_lt.mpr outside)
  · cases is.symm.trans is'
    exact status (informed.loggedIn ptr f is (.inl player))

/-- Those of the table that hear a broadcast are the players that are ready, and these are all in
the table. -/
theorem hears_iff_ready {s : Server Log} {ptr r : Nat} (calm : Calm s (some ptr))
    (table : ∀ r, Ready s r → r ∈ members s) (ne : r ≠ ptr) :
    r ∈ members s ∧ Hears s r ↔ Ready s r := by
  constructor
  · rintro ⟨mem, g, there, loading⟩
    have known := calm r mem (fun same => ne (Option.some.inj same)) g there
    exact ⟨g, there, known.resolve_left (by rw [loading]; decide), loading⟩
  · rintro ⟨g, there, player, loading⟩
    exact ⟨table r ⟨g, there, player, loading⟩, g, there, loading⟩

/-- A login tells the players that are ready of the new one, and nobody of another. -/
theorem told_login {s t : Server Log} {ptr : Nat} (calm : Calm s (some ptr))
    (table : ∀ r, Ready s r → r ∈ members s) {new : Log} (log : t.world = s.world ++ new)
    (tells : ∀ r p, r ≠ p →
      (new.countP (Handed.tells r p) = 1 ∧ p = ptr ∧ r ∈ members s ∧ Hears s r ∨
        new.countP (Handed.tells r p) = 0 ∧ ¬ (p = ptr ∧ r ∈ members s ∧ Hears s r)))
    {r p : Nat} (ne : r ≠ p) :
    (p = ptr → Ready s r → told t r p = told s r p + 1) ∧
      (¬ (p = ptr ∧ Ready s r) → told t r p = told s r p) := by
  have count := told_append log r p
  rcases tells r p ne with ⟨one, subject, hear⟩ | ⟨none, deaf⟩
  · have ready := (hears_iff_ready calm table fun same => ne (same.trans subject.symm)).mp hear
    refine ⟨fun _ _ => ?_, fun unheard => absurd ⟨subject, ready⟩ unheard⟩
    rw [count, one]
  · refine ⟨fun subject ready => ?_, fun _ => ?_⟩
    · have other : r ≠ ptr := fun same => ne (same.trans subject.symm)
      exact absurd ⟨subject, (hears_iff_ready calm table other).mpr ready⟩ deaf
    · rw [count, none, Nat.add_zero]

/-- A player logs in. -/
theorem Informed.login {s t : Server Log} (informed : Informed s) {ptr : Nat}
    {packet packet' : WorldPacket} (allowed : Allowed s (.login ptr packet))
    (orderly : Orderly s (.login ptr packet))
    (run : handlePlayerJoinOpcode contents ptr packet s = .ok (packet', t)) : Informed t := by
  obtain ⟨f, is, changes, players, new, log, broadcast, tells⟩ :=
    login_eq_ok contents informed.distinct orderly.1 run
  have fresh : Fresh s ptr := .inr ⟨f, is, allowed.2 f is⟩
  have absent : ¬ Present s ptr := fun present => informed.not_fresh present fresh
  have fresh_again_iff := changes.fresh_again_iff rfl (face?_inside is)
  have notReady : ¬ Ready t ptr := by
    rintro ⟨g, there, -, loading⟩
    rw [changes.face_self] at there
    cases there
    cases loading
  have told_login {r p : Nat} (ne : r ≠ p) := told_login orderly.1 orderly.2 log tells ne
  constructor
  · rw [changes.members]
    exact informed.distinct
  · rw [changes.members, changes.size]
    exact informed.inside
  · rw [players, List.map_cons]
    refine List.nodup_cons.mpr ⟨fun mem => ?_, (List.filter_sublist.map _).nodup informed.keys⟩
    obtain ⟨entry, mem, id⟩ := List.mem_map.mp mem
    exact of_decide_eq_true (List.mem_filter.mp mem).2 id
  · intro entry mem
    rw [players] at mem
    rcases List.mem_cons.mp mem with rfl | mem
    · exact ⟨_, changes.face_self, rfl, rfl⟩
    · refine changes.players (fun g there player => ?_)
        (informed.players entry (List.mem_of_mem_filter mem))
      exact absurd ⟨g, there, player⟩ absent
  · exact fun ptr' g there some => changes.loggedIn rfl informed.loggedIn there some
  · rw [log]
    exact List.forall_mem_append.mpr ⟨informed.broadcast, broadcast⟩
  · intro r p ne new
    rw [fresh_again_iff, fresh_again_iff] at new
    have before : told s r p = 0 := informed.fresh r p ne (new.imp And.right And.right)
    refine ((told_login ne).2 ?_).trans before
    rintro ⟨subject, ready⟩
    rcases new with ⟨-, fresh_r⟩ | ⟨other_p, -⟩
    · exact informed.not_fresh (ready.imp fun _ is => ⟨is.1, is.2.1⟩) fresh_r
    · exact other_p subject
  · intro r p ne ready present
    have other_r : r ≠ ptr := fun same => notReady (same ▸ ready)
    have was := (changes.ready_iff_of_ne other_r).mp ready
    by_cases subject : p = ptr
    · have before : told s r p = 0 := informed.fresh r p ne (.inr (subject ▸ fresh))
      rw [(told_login ne).1 subject was, before]
    · rw [(told_login ne).2 fun both => subject both.1]
      exact informed.ready r p ne was ((changes.present_iff_of_ne subject).mp present)
  · intro r p ne present loading
    have before : told s r p = 0 := by
      by_cases same : r = ptr
      · exact informed.fresh r p ne (.inl (same ▸ fresh))
      · exact informed.loading r p ne ((changes.present_iff_of_ne same).mp present)
          fun ready => loading ((changes.ready_iff_of_ne same).mpr ready)
    refine ((told_login ne).2 ?_).trans before
    rintro ⟨subject, ready⟩
    have other_r : r ≠ ptr := fun same => ne (same.trans subject.symm)
    exact loading ((changes.ready_iff_of_ne other_r).mpr ready)

/-- Each player is in `m_players` once, for its id is its session's. -/
theorem Informed.nodup_players {s : Server Log} (informed : Informed s) :
    (s.players.map Prod.snd).Nodup := by
  refine List.Nodup.map_on (fun entry mem entry' mem' same => ?_)
    (List.Nodup.of_map _ informed.keys)
  obtain ⟨g, there, -, id⟩ := informed.players entry mem
  obtain ⟨g', there', -, id'⟩ := informed.players entry' mem'
  rw [same] at there
  cases there.symm.trans there'
  exact Prod.ext (id.symm.trans id') same

/-- A player becomes ready. -/
theorem Informed.clientReady {s t : Server Log} (informed : Informed s) {ptr : Nat}
    {packet : WorldPacket} {moved gear : List Send}
    (allowed : Allowed s (.clientReady ptr packet moved gear))
    (orderly : Orderly s (.clientReady ptr packet moved gear))
    (run : handleClientReadyOpcode contents ptr packet moved gear s = .ok ((), t)) :
    Informed t := by
  have calm (f : Face) (is : face? s ptr = some f) (loading : f.playerLoading = true) :
      Calm s none := (orderly f is loading).1
  rcases clientReady_eq_ok contents allowed.2 calm run with quiet |
    ⟨f, is, loading, changes, players, new, log, broadcast, tells⟩
  · exact informed.quiet quiet
  have present : Present s ptr := allowed.2
  have listed : ∀ p, Present s p → p ≠ ptr → p ∈ s.players.map Prod.snd :=
    (orderly f is loading).2
  have player : f.player = true := by
    obtain ⟨g, there, player⟩ := present
    cases is.symm.trans there
    exact player
  have status : f.status = .loggedIn := informed.loggedIn ptr f is (.inl player)
  have notReady : ¬ Ready s ptr := by
    rintro ⟨g, there, -, ready⟩
    cases is.symm.trans there
    cases loading.symm.trans ready
  have present_iff (p : Nat) : Present t p ↔ Present s p := by
    by_cases same : p = ptr
    · rw [same]
      exact ⟨fun _ => present, fun _ => ⟨_, changes.face_self, player⟩⟩
    · exact changes.present_iff_of_ne same
  have fresh (p : Nat) (new : Fresh t p) : Fresh s p :=
    ((changes.fresh_again_iff status (face?_inside is) p).mp new).2
  have count (r p : Nat) : told t r p = told s r p +
      if r = ptr ∧ p ≠ ptr then (s.players.map Prod.snd).count p else 0 := by
    rw [told_append log, tells]
  constructor
  · rw [changes.members]
    exact informed.distinct
  · rw [changes.members, changes.size]
    exact informed.inside
  · rw [players]
    exact informed.keys
  · intro entry mem
    rw [players] at mem
    refine changes.players (fun g there _ => ?_) (informed.players entry mem)
    cases is.symm.trans there
    exact ⟨player, rfl⟩
  · exact fun ptr' g there some => changes.loggedIn status informed.loggedIn there some
  · rw [log]
    exact List.forall_mem_append.mpr ⟨informed.broadcast, broadcast⟩
  · intro r p ne new
    rw [count, informed.fresh r p ne (new.imp (fresh r) (fresh p)), Nat.zero_add]
    split
    · next both =>
        refine List.count_eq_zero.mpr fun mem => ?_
        obtain ⟨entry, listed, rfl⟩ := List.mem_map.mp mem
        obtain ⟨g, there, known, -⟩ := informed.players entry listed
        rcases new with new_r | new_p
        · exact informed.not_fresh present (both.1 ▸ fresh r new_r)
        · exact informed.not_fresh ⟨g, there, known⟩ (fresh _ new_p)
    · rfl
  · intro r p ne ready there
    rw [count]
    by_cases self : r = ptr
    · have before : told s r p = 0 :=
        informed.loading r p ne (self ▸ present) (self ▸ notReady)
      have other_p : p ≠ ptr := fun same => ne (self.trans same.symm)
      have mem := listed p ((present_iff p).mp there) other_p
      rw [before, if_pos ⟨self, other_p⟩, informed.nodup_players.count, if_pos mem]
    · rw [if_neg fun both => self both.1, informed.ready r p ne
        ((changes.ready_iff_of_ne self).mp ready) ((present_iff p).mp there)]
  · intro r p ne here loading
    have self : r ≠ ptr := by
      rintro rfl
      exact loading ⟨_, changes.face_self, player, rfl⟩
    rw [count, if_neg fun both => self both.1, informed.loading r p ne ((present_iff r).mp here)
      fun ready => loading ((changes.ready_iff_of_ne self).mpr ready)]

/-- An event keeps what the players have been told. -/
theorem Informed.step {s t : Server Log} {event : Event} (informed : Informed s)
    (step : guarded Orderly (Step contents) s event t) : Informed t := by
  obtain ⟨orderly, allowed, run⟩ := step
  have own {m : Handling Log Unit} (keeps : Keeps ownFrame m fun _ => True)
      (run : m s = .ok ((), t)) : Informed t := informed.quiet (keeps s () t trivial run).1
  cases event with
  | join packet =>
      rw [handleJoin_eq_ok run]
      exact informed.joined packet.endpoint
  | receive ptr packet =>
      have keeps : Keeps ownFrame (queueReceived (some ptr) packet) fun _ => True := by
        refine modifySession_own ptr ?_
        exact fun _ => rfl
      exact own keeps run
  | timestamp ptr => exact own (nextTimestamp_own contents ptr) run
  | resend ptr => exact own ((session_own ptr).seq fun here => sendNow_own ptr _) run
  | confirm ptr packet =>
      obtain ⟨here, mid, access, confirms⟩ := bind_run_eq_ok run
      obtain ⟨live, rfl⟩ := session_eq_ok access
      split at confirms
      · next authed =>
          obtain ⟨_, moved, moves, answers⟩ := bind_run_eq_ok confirms
          obtain ⟨there, still, live', changes, players, world⟩ := modifySession_changes moves
          cases live.symm.trans still
          obtain ⟨_, _, access', queues⟩ := bind_run_eq_ok answers
          obtain ⟨-, rfl⟩ := session_eq_ok access'
          obtain ⟨_, _, ⟨⟩, writes⟩ := bind_run_eq_ok queues
          obtain ⟨here', still', -, changes', players', world'⟩ := modifySession_changes writes
          cases live'.symm.trans still'
          have is : face? mid ptr = some (face here) := by rw [face?, live, Option.map_some]
          have both : Changes mid t ptr { face here with status := .confirmed } :=
            changes.again ⟨changes'.sessions, changes'.size, changes'.face⟩
          exact informed.confirmed is authed both (players'.trans players) (world'.trans world)
      · cases confirms
        exact informed
  | login ptr packet =>
      obtain ⟨packet', mid, logs, ends⟩ := bind_run_eq_ok run
      cases ends
      exact informed.login contents allowed orderly logs
  | clientReady ptr packet moved gear => exact informed.clientReady contents allowed orderly run
  | handler ptr timestamp unk sends =>
      by_cases all : ∃ packet, Send.all packet ∈ sends
      · have keeps : Keeps calmFrame (perform contents (.handler ptr timestamp unk sends))
            fun _ => True := by
          refine Keeps.seq (keeps_calm (modifySession_own ptr ?_)) fun _ => handSends_calm ptr sends
          exact fun _ => rfl
        exact informed.quiet (keeps s () t (orderly all) run).1
      · have keeps : Keeps ownFrame (perform contents (.handler ptr timestamp unk sends))
            fun _ => True := by
          refine Keeps.seq (modifySession_own ptr ?_) fun _ => handSends_own ptr all
          exact fun _ => rfl
        exact own keeps run
  | logout ptr => exact informed.loggedOut run
  | finish ptr =>
      refine own ((session_own ptr).seq fun here => keeps_ite (fun _ => flush_own ptr) fun _ => ?_)
        run
      exact keeps_pure trivial
  | destroy key => exact informed.destroyed run
  | sendQueued => exact own (modify_own fun _ => rfl) run

theorem informed_start : Informed (start ([] : Log)) where
  distinct := .nil
  inside := nofun
  keys := .nil
  players := nofun
  loggedIn ptr f is := by
    have none : face? (start ([] : Log)) ptr = none := by simp [face?, start, Server.session?]
    rw [none] at is
    cases is
  broadcast := nofun
  fresh _ _ _ _ := rfl
  ready r _ _ := by
    rintro ⟨f, is, -⟩
    have none : face? (start ([] : Log)) r = none := by simp [face?, start, Server.session?]
    rw [none] at is
    cases is
  loading _ _ _ _ _ := rfl

/-! ### Two clients -/

def firstClient : Endpoint := ⟨0x0A000001, 1000⟩

def secondClient : Endpoint := ⟨0x0A000002, 1000⟩

def joins (client : Endpoint) : Event :=
  .join {
    opcode := 0x0E
    endpoint := client
    buffer := ByteBuffer.extend {} (List.replicate joinSize 0) }

def logsIn (ptr : Nat) (client : Endpoint) : Event :=
  .login ptr {
    opcode := 0x1F
    endpoint := client
    buffer := ByteBuffer.extend {} (List.replicate playerJoinSize 0) }

def getsReady (ptr : Nat) (client : Endpoint) : Event :=
  .clientReady ptr { opcode := 0xC0, endpoint := client } [] []

def noContents : Contents := fun _ _ _ => []

/-- The server once an event is carried out. -/
def after (s : Server Log) (event : Event) : Server Log :=
  match perform noContents event s with
  | .ok (_, t) => t
  | .error _ => s

theorem step_after {s : Server Log} {event : Event} (allowed : Allowed s event)
    (ok : (perform noContents event s).isOk = true) :
    Step noContents s event (after s event) := by
  refine ⟨allowed, ?_⟩
  obtain ⟨t, run⟩ := exists_of_isOk ok
  unfold after
  rw [run]

/-- The server once a client has logged in and is ready. -/
def entered (s : Server Log) (ptr : Nat) (client : Endpoint) : Server Log :=
  after (after s (logsIn ptr client)) (getsReady ptr client)

/-- A session of the table that has not logged in does so and gets ready. -/
theorem enters {s : Server Log} {ptr : Nat} {client : Endpoint}
    {condition : Server Log → Event → Prop} (member : ptr ∈ members s)
    (out : ∃ f ∈ face? s ptr, f.status = .authed)
    (first : condition s (logsIn ptr client))
    (second : condition (after s (logsIn ptr client)) (getsReady ptr client))
    (ok : (perform noContents (logsIn ptr client) s).isOk = true)
    (loading : ptr ∈ members (after s (logsIn ptr client)) ∧
      Present (after s (logsIn ptr client)) ptr)
    (ok' : (perform noContents (getsReady ptr client) (after s (logsIn ptr client))).isOk = true) :
    Run (guarded condition (Step noContents)) s [logsIn ptr client, getsReady ptr client]
      (entered s ptr client) := by
  refine .cons ⟨first, step_after ⟨member, fun g there => ?_⟩ ok⟩
    (.single ⟨second, step_after loading ok'⟩)
  obtain ⟨f, is, authed⟩ := out
  cases (Option.mem_def.mp is).symm.trans there
  rw [authed]
  decide

theorem orderly_login {s : Server Log} {ptr : Nat} {client : Endpoint} (calm : Calm s (some ptr))
    (table : ∀ r < s.heap.length, Ready s r → r ∈ members s) : Orderly s (logsIn ptr client) := by
  refine ⟨calm, fun r ready => ?_⟩
  obtain ⟨f, is, known⟩ := ready
  exact table r (face?_inside is) ⟨f, is, known⟩

theorem orderly_ready {s : Server Log} {ptr : Nat} {client : Endpoint} (calm : Calm s none)
    (listed : ∀ p < s.heap.length, Present s p → p ≠ ptr → p ∈ s.players.map Prod.snd) :
    Orderly s (getsReady ptr client) := by
  refine fun _ _ _ => ⟨calm, fun p present => ?_⟩
  obtain ⟨f, is, known⟩ := present
  exact listed p (face?_inside is) ⟨f, is, known⟩

def alone : Server Log := after (start []) (joins firstClient)

/-! ### Who is told -/

/-- In every run whose events are orderly, whatever is broadcast is handed to players only, and a
player that is ready has been told of each other player that is ready once, whichever of the two was
there first. What was handed over is kept in the log beside the sessions. -/
theorem told_once {events : List Event} {s : Server Log}
    (run : Run (guarded Orderly (Step contents)) (start []) events s) :
    (∀ handed ∈ s.world, handed.broadcast = true → handed.player = true) ∧
      ∀ r p, r ≠ p → Ready s r → Ready s p → told s r p = 1 := by
  have kept : Informed s := run.invariant (fun _ _ _ => Informed.step contents) informed_start
  refine ⟨kept.broadcast, fun r p other ready there => ?_⟩
  exact kept.ready r p other ready (there.imp fun _ is => ⟨is.1, is.2.1⟩)

/-- The second client joins once the first one plays. -/
theorem told_once_each : ∃ s,
    Run (guarded Orderly (Step noContents)) (start [])
      [joins firstClient, logsIn 0 firstClient, getsReady 0 firstClient, joins secondClient,
        logsIn 1 secondClient, getsReady 1 secondClient] s ∧
    Ready s 0 ∧ Ready s 1 ∧ (∀ handed ∈ s.world, handed.broadcast = true → handed.player = true) ∧
      ∀ r p, r ≠ p → Ready s r → Ready s p → told s r p = 1 := by
  have joined : Run (guarded Orderly (Step noContents)) (start []) [joins firstClient] alone :=
    .single ⟨trivial, step_after trivial (by decide +kernel)⟩
  have first : Run (guarded Orderly (Step noContents)) alone
      [logsIn 0 firstClient, getsReady 0 firstClient] (entered alone 0 firstClient) := by
    refine enters ?_ ?_ (orderly_login ?_ ?_) (orderly_ready ?_ ?_) ?_ ?_ ?_
    all_goals decide +kernel
  have joined' : Run (guarded Orderly (Step noContents)) (entered alone 0 firstClient)
      [joins secondClient] (after (entered alone 0 firstClient) (joins secondClient)) :=
    .single ⟨trivial, step_after trivial (by decide +kernel)⟩
  have second : Run (guarded Orderly (Step noContents))
      (after (entered alone 0 firstClient) (joins secondClient))
      [logsIn 1 secondClient, getsReady 1 secondClient]
      (entered (after (entered alone 0 firstClient) (joins secondClient)) 1 secondClient) := by
    refine enters ?_ ?_ (orderly_login ?_ ?_) (orderly_ready ?_ ?_) ?_ ?_ ?_
    all_goals decide +kernel
  have run := joined.append (first.append (joined'.append second))
  exact ⟨_, run, by decide +kernel, by decide +kernel, told_once noContents run⟩

def inLobby : Server Log := after (after (start []) (joins firstClient)) (joins secondClient)

/-- The second client has joined when the first one logs in: it is told of the first player in the
lobby, and once more when it is ready itself. -/
theorem lobby_told : ∃ s, Run (Step noContents) (start [])
      [joins firstClient, joins secondClient, logsIn 0 firstClient, getsReady 0 firstClient,
        logsIn 1 secondClient, getsReady 1 secondClient] s ∧
    (∃ handed ∈ s.world, handed.broadcast = true ∧ handed.player = false) ∧
      Ready s 0 ∧ Ready s 1 ∧ told s 1 0 = 2 := by
  have joined : Run (Step noContents) (start []) [joins firstClient, joins secondClient] inLobby :=
    .cons (step_after trivial (by decide +kernel))
      (.single (step_after trivial (by decide +kernel)))
  have first : Run (guarded (fun _ _ => True) (Step noContents)) inLobby
      [logsIn 0 firstClient, getsReady 0 firstClient] (entered inLobby 0 firstClient) := by
    refine enters ?_ ?_ trivial trivial ?_ ?_ ?_
    all_goals decide +kernel
  have second : Run (guarded (fun _ _ => True) (Step noContents)) (entered inLobby 0 firstClient)
      [logsIn 1 secondClient, getsReady 1 secondClient]
      (entered (entered inLobby 0 firstClient) 1 secondClient) := by
    refine enters ?_ ?_ trivial trivial ?_ ?_ ?_
    all_goals decide +kernel
  refine ⟨_, joined.append (first.unguarded.append second.unguarded), ?_, ?_, ?_, ?_⟩
  all_goals decide +kernel

end Lobby

end Awesie

end NoxServer
