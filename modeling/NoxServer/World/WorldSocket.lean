import NoxServer.Library.Runs
import NoxServer.World.World

/-!
`WorldSocket` (`WorldSocket.h`, `WorldSocket.cpp`): the one socket all clients send their
datagrams to, and the table that says whose session a datagram is for.

The table is keyed by client addresses. A join is entered under the address with port 0,
the bare IP, and is moved to the full address of the next sender from that IP that has no
entry yet. `_cmd` and `_remaining` are set and used within one call and are local here.
The log of packets is not modelled. A `Server` is the world with its socket, and a step of
it is a datagram, a tick of the world, or a removal of sessions.
-/

namespace NoxServer

open Session ByteBuffer

def iPtoClientAddr (x : UInt32) (y : UInt16) : ClientAddr := y.toUInt64 <<< 32 ||| x.toUInt64

/-- The key of the joins from a client's IP. -/
def bareIP (client : ClientAddr) : ClientAddr := client &&& 0xFFFFFFFF

/-- `WorldSession::CryptData(data, datalen)`. -/
def Session.WorldSession.cryptData (s : WorldSession) (data : List UInt8) : List UInt8 :=
  if s.xorKey = 0 then data else data.map (· ^^^ s.xorKey)

/-- `WorldSession::SetSocket(0)`. -/
def Session.WorldSession.clearSocket (s : WorldSession) : WorldSession :=
  { s with socket := false }

structure WorldSocket where
  sessions : AList fun _ : ClientAddr => UInt32
  sendQueue : List WorldPacket

/-- The world and the socket of its clients. -/
structure Server where
  world : World
  socket : WorldSocket

namespace Server

/-- The server before its first datagram. -/
def start : Server where
  world := .init
  socket := { sessions := ∅, sendQueue := [] }

/-- `SendPacket(packet)` of the socket. -/
def sendPacket (srv : Server) (packet : WorldPacket) : Server :=
  { srv with socket.sendQueue := srv.socket.sendQueue ++ [packet] }

/-- The payload of the answer to a ping. -/
def pong (stamp : UInt32) : List UInt8 :=
  [0, 1, 0xF, 0xF, 0xFF, 0xFF, 0xFF] ++ WorldSession.textBytes "Estate" 9 ++
    [0x1, 0x0, 0x0, 0x55, 0x0, 0x9A, 0x3, 0x1, 0x0, 0x7, 0x21, 0x3, 0x10, 0xFF, 0xFF, 0xFF, 0xFF,
      0xFF, 0xFF, 0xFF, 0xFF, 0xC0, 0x0, 0xD4, 0x0] ++
    toBytes 4 stamp.toNat ++
    [0xFF, 0xFF, 0xFF, 0xFF, 0xFF, 0xEF, 0xFF, 0xFF, 0xFF, 0xFF, 0xFF, 0xFF, 0xFF, 0xFF, 0xFF,
      0xFF, 0xFF, 0xFF, 0xFF, 0xFF, 0x84, 0x82, 0xD3, 0x01] ++
    WorldSession.textBytes "Test" 4 ++ [0x0]

def _handleLANPing (srv : Server) (recvPacket : WorldPacket) : Except Fault Server := do
  let (_, b) ← readFields [1, 1, 1, 1, 1] recvPacket.toByteBuffer
  let (stamp, _) ← readUInt32 b
  return srv.sendPacket (.ofPayload 0x0D 0 recvPacket.client (pong stamp))

/-- The part of `_HandleJoin` after its reads: a new session, entered under the bare IP. -/
def enter (srv : Server) (client : ClientAddr) : Server :=
  let (id, world) := srv.world.requestFreeId
  let session := (WorldSession.create id.toUInt32).setClient client
  { world := world.addSession session
    socket := { srv.socket with
      sessions := srv.socket.sessions.insert (bareIP client) session.accountId } }

/-- `_HandleJoin(recvPacket)`. Nothing of the message is kept. -/
def _handleJoin (srv : Server) (recvPacket : WorldPacket) : Except Fault Server := do
  let _ ← readFields [1, 24, 28, 22, 2, 4, 4, 8, 4] recvPacket.toByteBuffer
  return (srv.enter recvPacket.client).sendPacket (.ofPayload 0x14 0 recvPacket.client [])

/-- What a sender that is found under its bare IP is given: the entry moves to the full
address, and the session takes that address. -/
def bindClient (srv : Server) (client : ClientAddr) (id : UInt32) (session : WorldSession) :
    Server where
  world := srv.world.setSession id (some (session.setClient client))
  socket := { srv.socket with
    sessions := (srv.socket.sessions.insert client id).erase (bareIP client) }

/-- The lookups at the start of `OnRawData`. The session found is given by its id. -/
def senderSession (srv : Server) (client : ClientAddr) :
    Except Fault (Server × Option UInt32) :=
  match srv.socket.sessions.lookup client with
  | some id => .ok (srv, if (srv.world.findSession id).isSome then some id else none)
  | none =>
      match srv.socket.sessions.lookup (bareIP client) with
      | some id =>
          match srv.world.findSession id with
          | some session => .ok (srv.bindClient client id session, some id)
          | none => .error .nullPointer
      | none => .ok (srv, none)

/-- The end of `OnRawData`: a packet for a session, if there is one. -/
def queuePacket (srv : Server) (id : Option UInt32) (packet : WorldPacket) : Server :=
  match id with
  | some id =>
      match srv.world.findSession id with
      | some session => { srv with world := srv.world.setSession id (session.queuePacket packet) }
      | none => srv
  | none => srv

/-- `OnRawData(data, datalen, sa, salen)`, from an IP and a port. -/
def onRawData (srv : Server) (data : List UInt8) (ip : UInt32) (port : UInt16) :
    Except Fault Server := do
  let client := iPtoClientAddr ip port
  let (srv, id) ← srv.senderSession client
  let szBuffer :=
    match id.bind srv.world.findSession with
    | some session => session.cryptData data
    | none => data
  match szBuffer with
  | plr :: unk :: cmd :: rest =>
      let remaining := (data.length - 3) % 2 ^ 16
      let packet := { WorldPacket.ofPayload cmd plr client (rest.take remaining) with unk := unk }
      if cmd = 0x0C then srv._handleLANPing packet
      else if cmd = 0x0E then srv._handleJoin packet
      else return srv.queuePacket id packet
  | _ => return srv

/-- One entry's part of `OnDelete()`. -/
def removeClient (w : World) (id : UInt32) : World :=
  match w.findSession id with
  | some session => ((w.setSession id session.clearSocket).removeSession id).1
  | none => w

/-- `OnDelete()`, as far as the sessions are concerned. -/
def onDelete (srv : Server) : Server :=
  { srv with world := (srv.socket.sessions.entries.map (·.2)).foldl removeClient srv.world }

/-- What happens to a server. -/
inductive Event where
  /-- A datagram is received. -/
  | datagram (data : List UInt8) (ip : UInt32) (port : UInt16)
  /-- `World::Update(diff)`, with what each session reads of the world around it. -/
  | worldUpdate (game : UInt32 → Game) (diff : UInt32) (now : Int)
  /-- `World::RemoveSession(id)`. -/
  | removeSession (id : UInt32)
  /-- The socket is closed. -/
  | onDelete

def step (srv : Server) : Event → Except Fault Server
  | .datagram data ip port => srv.onRawData data ip port
  | .worldUpdate game diff now => do
      let (world, _) ← srv.world.update game diff now
      return { srv with world := world }
  | .removeSession id => .ok { srv with world := (srv.world.removeSession id).1 }
  | .onDelete => .ok srv.onDelete

/-- The transition relation of the server. -/
def Step (srv : Server) (event : Event) (srv' : Server) : Prop := srv.step event = .ok srv'

/-! ### Addresses -/

theorem bareIP_bareIP (client : ClientAddr) : bareIP (bareIP client) = bareIP client := by
  unfold bareIP
  rw [UInt64.and_assoc, UInt64.and_self]

theorem toNat_iPtoClientAddr (ip : UInt32) (port : UInt16) :
    (iPtoClientAddr ip port).toNat = port.toNat * 2 ^ 32 + ip.toNat := by
  have high : port.toNat * 2 ^ 32 < 2 ^ 64 := by
    have := port.toNat_lt
    omega
  have shifted : (port.toUInt64 <<< 32).toNat = port.toNat * 2 ^ 32 := by
    rw [UInt64.toNat_shiftLeft, UInt16.toNat_toUInt64, Nat.shiftLeft_eq]
    exact Nat.mod_eq_of_lt high
  rw [iPtoClientAddr, UInt64.toNat_or, shifted, UInt32.toNat_toUInt64, Nat.mul_comm,
    Nat.two_pow_add_eq_or_of_lt ip.toNat_lt]

theorem toNat_bareIP (client : ClientAddr) : (bareIP client).toNat = client.toNat % 2 ^ 32 := by
  rw [bareIP, UInt64.toNat_and]
  exact Nat.and_two_pow_sub_one_eq_mod _ 32

/-! ### What a step does -/

/-- The same sessions: none begins, none ends, and each stays its client's. -/
structure SameSessions (w w' : World) : Prop where
  freeids : w'.freeids = w.freeids
  sessions : ∀ id, Option.Rel WorldSession.SameClient (w.findSession id) (w'.findSession id)

/-- No session has a key to encrypt with. -/
def Plain (w : World) : Prop := ∀ id s, w.findSession id = some s → s.xorKey = 0

/-- The datagram is a join. -/
def IsJoin (data : List UInt8) : Prop := data[2]? = some 0x0E

instance (data : List UInt8) : Decidable (IsJoin data) := inferInstanceAs (Decidable (_ = _))

/-- The id the next join is given. -/
def nextId (w : World) : UInt32 := w.requestFreeId.1.toUInt32

theorem world_enter (srv : Server) (client : ClientAddr) :
    (srv.enter client).world = srv.world.requestFreeId.2.addSession
      ((WorldSession.create (nextId srv.world)).setClient client) := rfl

theorem findSession_enter (srv : Server) (client : ClientAddr) (id : UInt32) :
    (srv.enter client).world.findSession id =
      if id = nextId srv.world then some ((WorldSession.create (nextId srv.world)).setClient client)
      else srv.world.findSession id := by
  rw [world_enter, World.findSession_addSession, World.findSession_requestFreeId]
  rfl

theorem freeids_enter (srv : Server) (client : ClientAddr) :
    (srv.enter client).world.freeids = srv.world.freeids.tail := by
  rw [world_enter]
  show srv.world.requestFreeId.2.freeids = _
  unfold World.requestFreeId
  split
  · next empty => rw [empty]; rfl
  · next ids => rw [ids]; rfl

theorem lookup_enter (srv : Server) (client key : ClientAddr) :
    (srv.enter client).socket.sessions.lookup key =
      if key = bareIP client then some (nextId srv.world)
      else srv.socket.sessions.lookup key := by
  have table : (srv.enter client).socket.sessions =
      srv.socket.sessions.insert (bareIP client) (nextId srv.world) := rfl
  rw [table]
  split
  · next here => rw [here, AList.lookup_insert]
  · next other => rw [AList.lookup_insert_ne other]

theorem findSession_bindClient (srv : Server) (client : ClientAddr) (id : UInt32)
    (session : WorldSession) (other : UInt32) :
    (srv.bindClient client id session).world.findSession other =
      if other = id then some (session.setClient client) else srv.world.findSession other :=
  World.findSession_setSession srv.world id other (some (session.setClient client))

theorem lookup_bindClient (srv : Server) (client : ClientAddr) (id : UInt32)
    (session : WorldSession) (key : ClientAddr) :
    (srv.bindClient client id session).socket.sessions.lookup key =
      if key = bareIP client then none
      else if key = client then some id else srv.socket.sessions.lookup key := by
  show ((srv.socket.sessions.insert client id).erase (bareIP client)).lookup key = _
  split
  · next here => rw [here, AList.lookup_erase]
  · next elsewhere =>
      rw [AList.lookup_erase_ne elsewhere]
      split
      · next here => rw [here, AList.lookup_insert]
      · next other => rw [AList.lookup_insert_ne other]

/-- The lookups find the sender's session, or there is none, or they move an entry. -/
theorem senderSession_cases {srv : Server} {client : ClientAddr} {out : Server × Option UInt32}
    (run : srv.senderSession client = .ok out) :
    (out.1 = srv ∧ (srv.socket.sessions.lookup client ≠ none ∨
        srv.socket.sessions.lookup (bareIP client) = none)) ∨
      ∃ id session, srv.socket.sessions.lookup client = none ∧
        srv.socket.sessions.lookup (bareIP client) = some id ∧
        srv.world.findSession id = some session ∧ out.1 = srv.bindClient client id session := by
  unfold senderSession at run
  split at run
  · next id known =>
      cases run
      exact .inl ⟨rfl, .inl (by rw [known]; nofun)⟩
  · next unknown =>
      split at run
      · next id waiting =>
          split at run
          · next session found =>
              cases run
              exact .inr ⟨id, session, unknown, waiting, found, rfl⟩
          · cases run
      · next none =>
          cases run
          exact .inl ⟨rfl, .inr none⟩

theorem sameSessions_of_eq {w w' : World} (free : w'.freeids = w.freeids)
    (same : ∀ id, w'.findSession id = w.findSession id) : SameSessions w w' where
  freeids := free
  sessions id := by
    rw [same]
    cases w.findSession id with
    | none => exact .none
    | some session => exact .some ⟨rfl, rfl, rfl⟩

/-- A write that keeps a session its client's keeps all sessions. -/
theorem sameSessions_setSession {w : World} {id : UInt32} {session session' : WorldSession}
    (found : w.findSession id = some session) (same : session.SameClient session') :
    SameSessions w (w.setSession id (some session')) where
  freeids := rfl
  sessions other := by
    rw [World.findSession_setSession]
    split
    · next here =>
        rw [here, found]
        exact .some same
    · exact (sameSessions_of_eq rfl fun _ => rfl : SameSessions w w).sessions other

theorem freeids_senderSession {srv : Server} {client : ClientAddr}
    {out : Server × Option UInt32} (run : srv.senderSession client = .ok out) :
    out.1.world.freeids = srv.world.freeids := by
  rcases senderSession_cases run with ⟨same, _⟩ | ⟨id, session, _, _, _, same⟩
  · rw [same]
  · rw [same]
    rfl

theorem queuePacket_same (srv : Server) (id : Option UInt32) (packet : WorldPacket) :
    SameSessions srv.world (srv.queuePacket id packet).world ∧
      (srv.queuePacket id packet).socket = srv.socket := by
  have unchanged : SameSessions srv.world srv.world := sameSessions_of_eq rfl fun _ => rfl
  unfold queuePacket
  split
  · split
    · next session found => exact ⟨sameSessions_setSession found ⟨rfl, rfl, rfl⟩, rfl⟩
    · exact ⟨unchanged, rfl⟩
  · exact ⟨unchanged, rfl⟩

theorem plain_bindClient {srv : Server} {client : ClientAddr} {id : UInt32}
    {session : WorldSession} (found : srv.world.findSession id = some session)
    (plain : Plain srv.world) : Plain (srv.bindClient client id session).world := by
  intro other s bound
  rw [findSession_bindClient] at bound
  split at bound
  · cases bound
    exact plain id session found
  · exact plain other s bound

theorem plain_senderSession {srv : Server} {client : ClientAddr} {out : Server × Option UInt32}
    (run : srv.senderSession client = .ok out) (plain : Plain srv.world) :
    Plain out.1.world := by
  rcases senderSession_cases run with ⟨same, _⟩ | ⟨id, session, _, _, found, same⟩
  · rw [same]
    exact plain
  · rw [same]
    exact plain_bindClient found plain

/-- A join enters a new session, and no other datagram changes who the sessions are for. -/
inductive Handled (srv : Server) (client : ClientAddr) (data : List UInt8) (srv' : Server) : Prop
  | join : IsJoin data → srv'.world = (srv.enter client).world →
      srv'.socket.sessions = (srv.enter client).socket.sessions → Handled srv client data srv'
  | other : ¬ IsJoin data → SameSessions srv.world srv'.world →
      srv'.socket.sessions = srv.socket.sessions → Handled srv client data srv'

/-- A datagram goes through the lookups and is handled. -/
theorem onRawData_spec {srv srv' : Server} {data : List UInt8} {ip : UInt32} {port : UInt16}
    (plain : Plain srv.world) (run : srv.onRawData data ip port = .ok srv') :
    ∃ found, srv.senderSession (iPtoClientAddr ip port) = .ok found ∧
      Handled found.1 (iPtoClientAddr ip port) data srv' := by
  obtain ⟨found, lookups, handled⟩ := bind_eq_ok.mp run
  clear run
  refine ⟨found, lookups, ?_⟩
  have plain : Plain found.1.world := plain_senderSession lookups plain
  have unchanged : SameSessions found.1.world found.1.world := sameSessions_of_eq rfl fun _ => rfl
  have clear : (match found.2.bind found.1.world.findSession with
      | some session => session.cryptData data
      | none => data) = data := by
    cases sender : found.2.bind found.1.world.findSession with
    | none => rfl
    | some session =>
        obtain ⟨id, _, mine⟩ := Option.bind_eq_some_iff.mp sender
        exact if_pos (plain id session mine)
  obtain ⟨srv₁, id⟩ := found
  dsimp only at handled clear
  rw [clear] at handled
  split at handled
  · next plr unk cmd rest =>
      have command : IsJoin (plr :: unk :: cmd :: rest) ↔ cmd = 0x0E := by simp [IsJoin]
      split at handled
      · next ping =>
          obtain ⟨_, _, handled⟩ := bind_eq_ok.mp handled
          obtain ⟨_, _, handled⟩ := bind_eq_ok.mp handled
          cases handled
          refine .other (fun join => ?_) unchanged rfl
          exact absurd (ping.symm.trans (command.mp join)) (by decide)
      · split at handled
        · next join =>
            obtain ⟨_, _, handled⟩ := bind_eq_ok.mp handled
            cases handled
            exact .join (command.mpr join) rfl rfl
        · next other =>
            cases handled
            obtain ⟨same, socket⟩ := queuePacket_same srv₁ id
              { WorldPacket.ofPayload cmd plr (iPtoClientAddr ip port)
                  (rest.take (((plr :: unk :: cmd :: rest).length - 3) % 2 ^ 16)) with unk := unk }
            exact .other (fun join => other (command.mp join)) same (by rw [socket])
  · next short =>
      cases handled
      refine .other (fun join => ?_) unchanged rfl
      match data, join with
      | plr :: unk :: cmd :: rest, _ => exact short plr unk cmd rest rfl

/-! ### Steps that are not datagrams -/

/-- What a closed socket leaves of an entry: a session that is loading, without its socket. -/
def leftover (entry : Option WorldSession) : Option WorldSession :=
  (entry.map (·.clearSocket)).filter (·.playerLoading)

theorem leftover_idle {s : WorldSession} (idle : s.playerLoading = false) :
    leftover (some s) = none := by
  rw [leftover, Option.map_some]
  exact Option.filter_some_neg idle

theorem leftover_loading {s : WorldSession} (loading : s.playerLoading = true) :
    leftover (some s) = some s.clearSocket := by
  rw [leftover, Option.map_some]
  exact Option.filter_some_pos loading

theorem leftover_leftover (entry : Option WorldSession) :
    leftover (leftover entry) = leftover entry := by
  cases entry with
  | none => rfl
  | some s =>
      cases load : s.playerLoading with
      | false => rw [leftover_idle load]; rfl
      | true => rw [leftover_loading load]; exact leftover_loading load

theorem findSession_removeClient (w : World) (id id' : UInt32) :
    (removeClient w id).findSession id' =
      if id' = id then leftover (w.findSession id) else w.findSession id' := by
  unfold removeClient
  cases found : w.findSession id with
  | none =>
      dsimp only
      split
      · next same => rw [same, found]; rfl
      · rfl
  | some session =>
      dsimp only
      rw [World.findSession_removeSession, World.findSession_setSession,
        World.findSession_setSession, if_pos rfl]
      split
      · rfl
      · rfl

theorem freeids_removeClient (w : World) (id : UInt32) :
    (removeClient w id).freeids = w.freeids := by
  unfold removeClient
  split
  · exact World.freeids_removeSession _ id
  · rfl

theorem findSession_removeClients (ids : List UInt32) (w : World) (id : UInt32) :
    (ids.foldl removeClient w).findSession id =
      if id ∈ ids then leftover (w.findSession id) else w.findSession id := by
  induction ids generalizing w with
  | nil => rfl
  | cons first ids ih =>
      rw [List.foldl_cons, ih, findSession_removeClient]
      by_cases here : id = first
      · subst here
        rw [if_pos rfl, if_pos List.mem_cons_self, leftover_leftover]
        exact ite_self _
      · rw [if_neg here]
        simp only [List.mem_cons, here, false_or]

theorem freeids_removeClients (ids : List UInt32) (w : World) :
    (ids.foldl removeClient w).freeids = w.freeids := by
  induction ids generalizing w with
  | nil => rfl
  | cons first ids ih => rw [List.foldl_cons, ih, freeids_removeClient]

/-- A session that a removal of its entry takes out. -/
def Idle (entry : Option WorldSession) : Prop := ∃ s, entry = some s ∧ s.playerLoading = false

/-- The event ends the session that has this id: the tick's update of it returns false, or it
is removed and is not loading. -/
def Ends (srv : Server) (id : UInt32) : Event → Prop
  | .datagram .. => False
  | .worldUpdate game diff now => srv.world.Passes diff ∧ ∃ s s' outs,
      srv.world.findSession id = some s ∧ s.update (game id) diff now = .ok (s', outs, false)
  | .removeSession removed => id = removed ∧ Idle (srv.world.findSession id)
  | .onDelete => id ∈ srv.socket.sessions.entries.map (·.2) ∧ Idle (srv.world.findSession id)

/-- What a step other than a datagram does: it ends some sessions, and leaves the others, the
table and the free ids. -/
structure Quiet (srv : Server) (event : Event) (srv' : Server) : Prop where
  freeids : srv'.world.freeids = srv.world.freeids
  table : srv'.socket.sessions = srv.socket.sessions
  ended : ∀ id, srv.Ends id event → srv'.world.findSession id = none
  stays : ∀ id, ¬ srv.Ends id event →
    Option.Rel WorldSession.SameClient (srv.world.findSession id) (srv'.world.findSession id)

/-- A tick of the world ends some sessions, and leaves the others, the table of the socket and the
free ids. -/
theorem worldUpdate_quiet {srv srv' : Server} {game : UInt32 → Game} {diff : UInt32} {now : Int}
    (run : Step srv (.worldUpdate game diff now) srv') :
    Quiet srv (.worldUpdate game diff now) srv' := by
  obtain ⟨⟨world, outs⟩, updated, ends⟩ := bind_eq_ok.mp run
  cases ends
  obtain ⟨free, ⟨passes, each⟩ | ⟨early, same⟩⟩ := World.update_spec updated
  · refine ⟨free, rfl, ?_, fun id lasts => ?_⟩
    · rintro id ⟨_, s, s', outs, found, last⟩
      have ticked := each id
      rw [found] at ticked
      show world.findSession id = none
      generalize world.findSession id = after at ticked
      cases ticked with
      | ended _ => rfl
      | kept stays =>
          rw [last] at stays
          cases stays
    · have ticked := each id
      show Option.Rel _ _ (world.findSession id)
      generalize found : srv.world.findSession id = before at ticked
      generalize world.findSession id = after at ticked
      cases ticked with
      | absent => exact .none
      | kept updated => exact .some (WorldSession.update_same updated)
      | ended last => exact absurd ⟨passes, _, _, _, found, last⟩ lasts
  · refine ⟨free, rfl, fun id ended => absurd ended.1 early, fun id _ => ?_⟩
    exact (sameSessions_of_eq free same).sessions id

theorem removeSession_quiet (srv : Server) (removed : UInt32) :
    Quiet srv (.removeSession removed)
      { srv with world := (srv.world.removeSession removed).1 } := by
  refine ⟨World.freeids_removeSession _ _, rfl, ?_, fun id lasts => ?_⟩
  · rintro id ⟨rfl, s, found, idle⟩
    rw [World.findSession_removeSession, if_pos rfl, found]
    exact Option.filter_some_neg idle
  · rw [World.findSession_removeSession]
    split
    · next here =>
        subst here
        cases found : srv.world.findSession id with
        | none => exact .none
        | some s =>
            have loading : s.playerLoading = true :=
              Bool.of_not_eq_false fun idle => lasts ⟨rfl, s, found, idle⟩
            rw [Option.filter_some_pos loading]
            exact .some ⟨rfl, rfl, rfl⟩
    · exact (sameSessions_of_eq rfl fun _ => rfl : SameSessions srv.world srv.world).sessions id

theorem onDelete_quiet (srv : Server) : Quiet srv .onDelete srv.onDelete := by
  refine ⟨freeids_removeClients _ _, rfl, ?_, fun id lasts => ?_⟩
  · rintro id ⟨entered, s, found, idle⟩
    show World.findSession (List.foldl _ _ _) id = none
    rw [findSession_removeClients, if_pos entered, found, leftover_idle idle]
  · show Option.Rel _ _ (World.findSession (List.foldl _ _ _) id)
    rw [findSession_removeClients]
    split
    · next entered =>
        cases found : srv.world.findSession id with
        | none => exact .none
        | some s =>
            have loading : s.playerLoading = true :=
              Bool.of_not_eq_false fun idle => lasts ⟨entered, s, found, idle⟩
            rw [leftover_loading loading]
            exact .some ⟨rfl, rfl, rfl⟩
    · exact (sameSessions_of_eq rfl fun _ => rfl : SameSessions srv.world srv.world).sessions id

/-- A step is a datagram's or is quiet. -/
theorem step_cases {srv srv' : Server} {event : Event} (run : Step srv event srv') :
    (∃ data ip port, event = .datagram data ip port ∧ srv.onRawData data ip port = .ok srv') ∨
      Quiet srv event srv' := by
  cases event with
  | datagram data ip port => exact .inl ⟨data, ip, port, rfl, run⟩
  | worldUpdate game diff now => exact .inr (worldUpdate_quiet run)
  | removeSession id =>
      cases run
      exact .inr (removeSession_quiet srv id)
  | onDelete =>
      cases run
      exact .inr (onDelete_quiet srv)

/-- A step leaves sessions without keys. -/
theorem step_plain {srv srv' : Server} {event : Event} (plain : Plain srv.world)
    (run : Step srv event srv') : Plain srv'.world := by
  have same {w w' : World} (plain : Plain w) (rel : ∀ id,
      w'.findSession id = none ∨ Option.Rel WorldSession.SameClient (w.findSession id)
        (w'.findSession id)) : Plain w' := by
    intro id s found
    rcases rel id with gone | kept
    · rw [gone] at found
      cases found
    · rw [found] at kept
      generalize before : w.findSession id = entry at kept
      cases kept with
      | some same => exact same.xorKey.trans (plain id _ before)
  rcases step_cases run with ⟨data, ip, port, _, run⟩ | quiet
  · obtain ⟨found, lookups, handled⟩ := onRawData_spec plain run
    have plain := plain_senderSession lookups plain
    cases handled with
    | join _ world _ =>
        intro id s here
        rw [world, findSession_enter] at here
        split at here
        · cases here
          rfl
        · exact plain id s here
    | other _ kept _ => exact same plain fun id => .inr (kept.sessions id)
  · refine same plain fun id => ?_
    by_cases ends : srv.Ends id event
    · exact .inl (quiet.ended id ends)
    · exact .inr (quiet.stays id ends)

theorem plain_start : Plain start.world := by
  rintro id s found
  cases found

/-! ### Free ids -/

/-- The free ids are in the order of a set, and no session has one. -/
structure FreeIds (w : World) : Prop where
  nodup : w.freeids.Nodup
  unused : ∀ id ∈ w.freeids, w.findSession id.toUInt32 = none

theorem freeIds_start : FreeIds start.world := ⟨by decide, fun _ _ => rfl⟩

theorem nextId_cons {w : World} {id : UInt8} {ids : List UInt8} (free : w.freeids = id :: ids) :
    nextId w = id.toUInt32 := by
  unfold nextId World.requestFreeId
  rw [free]

theorem nextId_nil {w : World} (free : w.freeids = []) : nextId w = 0xFF := by
  unfold nextId World.requestFreeId
  rw [free]
  rfl

/-- As long as there is a free id, a join is given one that no session has. -/
theorem FreeIds.next {w : World} (free : FreeIds w) (left : w.freeids ≠ []) :
    w.findSession (nextId w) = none := by
  obtain ⟨id, ids, split⟩ := List.exists_cons_of_ne_nil left
  rw [nextId_cons split]
  exact free.unused id (split ▸ List.mem_cons_self)

theorem rel_eq_none {entry entry' : Option WorldSession}
    (rel : Option.Rel WorldSession.SameClient entry entry') : entry = none ↔ entry' = none := by
  cases rel with
  | none => exact Iff.rfl
  | some _ => exact ⟨nofun, nofun⟩

theorem FreeIds.of_same {w w' : World} (free : FreeIds w) (freeids : w'.freeids = w.freeids)
    (gone : ∀ id, w.findSession id = none → w'.findSession id = none) : FreeIds w' where
  nodup := freeids ▸ free.nodup
  unused id member := gone _ (free.unused id (freeids ▸ member))

theorem FreeIds.bindClient {srv : Server} (free : FreeIds srv.world) {client : ClientAddr}
    {id : UInt32} {session : WorldSession} (found : srv.world.findSession id = some session) :
    FreeIds (srv.bindClient client id session).world := by
  refine free.of_same rfl fun other missing => ?_
  rw [findSession_bindClient]
  split
  · next same =>
      rw [same, found] at missing
      cases missing
  · exact missing

theorem FreeIds.enter {srv : Server} (free : FreeIds srv.world) (client : ClientAddr) :
    FreeIds (srv.enter client).world := by
  refine ⟨freeids_enter srv client ▸ free.nodup.tail, fun id member => ?_⟩
  rw [freeids_enter] at member
  rw [findSession_enter]
  split
  · next taken =>
      obtain ⟨first, ids, split⟩ := List.exists_cons_of_ne_nil (List.ne_nil_of_mem
        (List.mem_of_mem_tail member))
      have nodup := free.nodup
      rw [nextId_cons split] at taken
      rw [split] at nodup member
      rw [UInt8.toUInt32_inj.mp taken] at member
      exact absurd member (List.nodup_cons.mp nodup).1
  · exact free.unused id (List.mem_of_mem_tail member)

theorem FreeIds.senderSession {srv : Server} (free : FreeIds srv.world) {client : ClientAddr}
    {out : Server × Option UInt32} (run : srv.senderSession client = .ok out) :
    FreeIds out.1.world := by
  rcases senderSession_cases run with ⟨same, _⟩ | ⟨id, session, _, _, found, same⟩
  · rwa [same]
  · rw [same]
    exact free.bindClient found

theorem freeIds_step {srv srv' : Server} {event : Event} (plain : Plain srv.world)
    (free : FreeIds srv.world) (run : Step srv event srv') : FreeIds srv'.world := by
  rcases step_cases run with ⟨data, ip, port, _, run⟩ | quiet
  · obtain ⟨sender, lookups, handled⟩ := onRawData_spec plain run
    have free := free.senderSession lookups
    cases handled with
    | join _ world _ =>
        rw [world]
        exact free.enter _
    | other _ kept _ =>
        exact free.of_same kept.freeids fun id => (rel_eq_none (kept.sessions id)).mp
  · refine free.of_same quiet.freeids fun id missing => ?_
    by_cases ends : srv.Ends id event
    · exact quiet.ended id ends
    · exact (rel_eq_none (quiet.stays id ends)).mp missing

/-! ### Small inputs -/

/-- A complete join with nothing in it. -/
def emptyJoin : List UInt8 := [0, 0, 0x0E] ++ List.replicate 97 0

def emptyGame : UInt32 → Game := fun _ =>
  { map := { nxzFile := none }, checksum := 0, playerExtent := 1 }

end Server

end NoxServer
