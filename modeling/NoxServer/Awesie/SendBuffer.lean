import NoxServer.Awesie.Steps

/-!
The send buffer of the server under `awesie_test` (`world_socket::send_next_packet`).

A packet is copied behind a header of three bytes into `m_send_data`, which has `MAX_LEN` bytes,
and nothing looks at its size. The packets the socket answers by itself fit. What a session
sends is what all calls of `send_packet` have appended since its combined packet was last
queued, so it fits as long as each call finds the room it needs (`packets_fit`), and an update
stream alone does not when there is much to see (`updatePacket_fits_iff`).
-/

namespace NoxServer

namespace Awesie

open Consume Frames Runs

/-! ### Update streams -/

/-- What an object tells of itself in an update stream. -/
structure Appearance where
  extent : UInt16
  type : UInt16
  x : UInt16
  y : UInt16

/-- An object that moves: a player, with its angle and action, or another one. -/
inductive Visible where
  | worldObject (appearance : Appearance)
  | player (appearance : Appearance) (angle action : UInt8)

/-- The extent, the type and the place. -/
def Appearance.bytes (a : Appearance) : List UInt8 :=
  ByteBuffer.toBytes 2 a.extent.toNat ++ ByteBuffer.toBytes 2 a.type.toNat ++
    ByteBuffer.toBytes 2 a.x.toNat ++ ByteBuffer.toBytes 2 a.y.toNat

/-- `_BuildUpdatePacket(packet)`: MSG_UPDATE_STREAM is 0xA4. -/
def Visible.buildUpdatePacket (packet : WorldPacket) : Visible → WorldPacket
  | .worldObject a => { packet with
      opcode := 0xA4
      buffer := packet.buffer.extend ([0x00, 0xFF] ++ a.bytes) }
  | .player a angle action => { packet with
      opcode := 0xA4
      buffer := packet.buffer.extend
        ((if packet.buffer.size ≠ 0 then [0x00, 0xFF] else [0xFF]) ++ a.bytes ++ [angle, action]) }

/-- The packet of `SendUpdatePacket()`: the player itself is the first. -/
def updatePacket (endpoint : Endpoint) (self : Visible) (updateQueue : List Visible) :
    WorldPacket :=
  let packet := self.buildUpdatePacket { opcode := 0xA4, endpoint := endpoint }
  let packet := updateQueue.foldl Visible.buildUpdatePacket packet
  { packet with buffer := packet.buffer.extend [0, 0, 0] }

/-- The bytes an object takes after another one. -/
def Visible.size : Visible → Nat
  | .worldObject _ => 10
  | .player _ _ _ => 12

theorem Appearance.length_bytes (a : Appearance) : a.bytes.length = 8 := by
  simp [Appearance.bytes]

theorem buildUpdatePacket_size (packet : WorldPacket) (started : packet.buffer.size ≠ 0)
    (v : Visible) :
    (v.buildUpdatePacket packet).buffer.size = packet.buffer.size + v.size := by
  cases v with
  | worldObject a =>
      unfold Visible.buildUpdatePacket
      rw [ByteBuffer.size_extend, List.length_append, a.length_bytes]
      rfl
  | player a angle action =>
      unfold Visible.buildUpdatePacket
      rw [ByteBuffer.size_extend, if_pos started, List.length_append, List.length_append,
        a.length_bytes]
      rfl

theorem foldl_buildUpdatePacket_size (queue : List Visible) (packet : WorldPacket)
    (started : packet.buffer.size ≠ 0) :
    (queue.foldl Visible.buildUpdatePacket packet).buffer.size =
      packet.buffer.size + (queue.map Visible.size).sum := by
  induction queue generalizing packet with
  | nil => rfl
  | cons v queue ih =>
      have size := buildUpdatePacket_size packet started v
      rw [List.foldl_cons, ih _ (by omega), size, List.map_cons, List.sum_cons, Nat.add_assoc]

/-- The size of a player's update stream. -/
theorem updatePacket_size (endpoint : Endpoint) (a : Appearance) (angle action : UInt8)
    (queue : List Visible) :
    (updatePacket endpoint (.player a angle action) queue).buffer.size =
      14 + (queue.map Visible.size).sum := by
  have first : ((Visible.player a angle action).buildUpdatePacket
      { opcode := 0xA4, endpoint := endpoint }).buffer.size = 11 := by
    unfold Visible.buildUpdatePacket
    rw [ByteBuffer.size_extend, List.length_append, List.length_append, a.length_bytes]
    rfl
  unfold updatePacket
  rw [ByteBuffer.size_extend, foldl_buildUpdatePacket_size queue _ (by omega), first]
  simp only [List.length_cons, List.length_nil]
  omega

/-- A stream of its own fits into the buffer exactly when the objects to see take no more than
1007 bytes. -/
theorem updatePacket_fits_iff (endpoint : Endpoint) (a : Appearance) (angle action : UInt8)
    (queue : List Visible) :
    (updatePacket endpoint (.player a angle action) queue).buffer.size + 3 ≤ maxLen ↔
      (queue.map Visible.size).sum ≤ 1007 := by
  rw [updatePacket_size, maxLen]
  omega

/-! ### Calls -/

/-- A packet the socket or a session queues by itself. -/
inductive SocketAnswer : WorldPacket → Prop
  /-- The answer to a join, and what a session repeats until the join is confirmed. -/
  | accept (endpoint : Endpoint) (xor : UInt8) :
      SocketAnswer { opcode := 0x14, endpoint := endpoint, xor := xor }
  | confirm (endpoint : Endpoint) (id xor : UInt8) :
      SocketAnswer {
        opcode := 0x1F
        accountId := 0x80
        endpoint := endpoint
        buffer := ByteBuffer.extend {} [0, 1, id, 0, 0, 0, xor] }
  | pong (endpoint : Endpoint) {stamp : List UInt8} : stamp.length ≤ 4 →
      SocketAnswer {
        opcode := 0x0D
        endpoint := endpoint
        buffer := ByteBuffer.extend {} (pong.1 ++ stamp ++ pong.2) }

theorem SocketAnswer.fits {packet : WorldPacket} (answer : SocketAnswer packet) :
    packet.buffer.size + 3 ≤ maxLen := by
  cases answer with
  | accept endpoint xor => exact (by decide : 0 + 3 ≤ 1024)
  | confirm endpoint id xor =>
      rw [ByteBuffer.size_extend]
      exact (by decide : 0 + 7 + 3 ≤ 1024)
  | pong endpoint short =>
      have before : Awesie.pong.1.length = 41 := rfl
      have after : Awesie.pong.2.length = 29 := rfl
      have none : ByteBuffer.size {} = 0 := rfl
      rw [ByteBuffer.size_extend, List.length_append, List.length_append, before, after, none,
        maxLen]
      omega

/-- What happens to packets: a call of `send_packet`, a call of `_send_packet(m_send_packet)`, a
packet the server queues by itself, and the loop of `send_next_packet`. Everything else is
`other`. -/
inductive Call where
  | send (ptr : Nat) (packet : WorldPacket) (ifReady changeUnk : Bool)
  | flush (ptr : Nat)
  | answer (sender : Option Nat) (packet : WorldPacket)
  | sendQueued
  | other

variable {η : Type}

/-- The packets are as they were, but for those of new sessions, which are empty. -/
structure SamePackets (s t : Server η) : Prop where
  sendQueue : t.sendQueue = s.sendQueue
  sent : t.sent = s.sent
  combined : ∀ ptr here, t.session? ptr = some here →
    (∃ before, s.session? ptr = some before ∧ here.sendPacket = before.sendPacket) ∨
      here.sendPacket.buffer.size = 0

inductive Calls (s : Server η) : Call → Server η → Prop
  | send {ptr : Nat} {packet : WorldPacket} {ifReady changeUnk : Bool} {t : Server η} :
      sendPacket ptr packet ifReady changeUnk s = .ok ((), t) →
      Calls s (.send ptr packet ifReady changeUnk) t
  | flush {ptr : Nat} {t : Server η} : Awesie.flush ptr s = .ok ((), t) → Calls s (.flush ptr) t
  | answer {sender : Option Nat} {packet : WorldPacket} : SocketAnswer packet →
      Calls s (.answer sender packet) { s with sendQueue := s.sendQueue ++ [(sender, packet)] }
  | sendQueued : Calls s .sendQueued s.flushed
  | other {t : Server η} : SamePackets s t → Calls s .other t

/-- The packet as it is sent, with the session's own number if it is to have it. -/
def WorldSession.numbered (here : WorldSession) (packet : WorldPacket) (changeUnk : Bool) :
    WorldPacket :=
  if changeUnk then { packet with unk := here.own.unk } else packet

/-- The packet has another header than the combined one. -/
def WorldSession.Flushes (here : WorldSession) (packet : WorldPacket) : Prop :=
  here.sendPacket.opcode ≠ 0 ∧ (packet.unk ≠ here.sendPacket.unk ∨
    packet.accountId ≠ here.sendPacket.accountId)

instance (here : WorldSession) (packet : WorldPacket) : Decidable (here.Flushes packet) :=
  inferInstanceAs (Decidable (_ ∧ _))

/-- The session's combined packet has room for another one. One with another header is the first
of a new combined packet; otherwise its opcode comes first, unless there is no packet yet. -/
def WorldSession.HasRoom (here : WorldSession) (packet : WorldPacket) : Prop :=
  if here.Flushes packet then packet.buffer.size + 3 ≤ maxLen
  else if here.sendPacket.opcode = 0 then
    here.sendPacket.buffer.size + packet.buffer.size + 3 ≤ maxLen
  else here.sendPacket.buffer.size + (1 + packet.buffer.size) + 3 ≤ maxLen

/-- A call of `send_packet` finds room, or drops the packet because the player is loading. -/
def FindsRoom (s : Server η) : Call → Prop
  | .send ptr packet ifReady changeUnk => ∀ here, s.session? ptr = some here →
      (ifReady = true ∧ here.own.playerLoading = true) ∨
        here.HasRoom (here.numbered packet changeUnk)
  | _ => True

/-- All packets fit into the buffer: the combined ones, those queued and those sent. -/
structure Fits (s : Server η) : Prop where
  combined : ∀ ptr here, s.session? ptr = some here →
    here.sendPacket.buffer.size + 3 ≤ maxLen
  queued : ∀ entry ∈ s.sendQueue, entry.2.buffer.size + 3 ≤ maxLen
  sent : ∀ entry ∈ s.sent, entry.2.2.length ≤ maxLen

/-! ### What a call does -/

/-- The server with a session written. -/
def Server.withSession (s : Server η) (ptr : Nat) (here : WorldSession) : Server η :=
  { s with heap := s.heap.set ptr (some here) }

/-- The combined packet as it is queued. -/
def WorldSession.outgoing (here : WorldSession) : WorldPacket :=
  { here.sendPacket with endpoint := here.endpoint, xor := here.xor }

/-- The session once its combined packet is queued. -/
def WorldSession.cleared (here : WorldSession) : WorldSession :=
  { here with
    sendPacket := { here.sendPacket with xor := here.xor }.initializeWith 0 0 here.endpoint }

/-- The server once a session's combined packet is queued. -/
def Server.combinedQueued (s : Server η) (ptr : Nat) (here : WorldSession) : Server η :=
  { s with sendQueue := s.sendQueue ++ [(some ptr, here.outgoing)] }

theorem flush_run {ptr : Nat} {s : Server η} {here : WorldSession}
    (live : s.session? ptr = some here) :
    flush ptr s = .ok ((), (s.combinedQueued ptr here).withSession ptr here.cleared) := by
  have queued : sendNow ptr here.sendPacket s = .ok ((), s.combinedQueued ptr here) :=
    (run_bind_ok (session_run live)).trans rfl
  have still : (s.combinedQueued ptr here).session? ptr = some here := live
  unfold flush
  rw [run_bind_ok (session_run live), run_bind_ok queued]
  exact modifySession_run still _

/-- The session with a packet added to its combined one. -/
def WorldSession.added (here : WorldSession) (packet : WorldPacket) : WorldSession :=
  { here with sendPacket := combine here.sendPacket packet }

/-- What a call of `send_packet` does that does not drop the packet. -/
theorem sendPacket_run {ptr : Nat} {s : Server η} {here : WorldSession}
    (live : s.session? ptr = some here) (packet : WorldPacket) {ifReady changeUnk : Bool}
    (ready : ¬ (ifReady = true ∧ here.own.playerLoading = true)) :
    sendPacket ptr packet ifReady changeUnk s =
      .ok ((), if here.Flushes (here.numbered packet changeUnk) then
          (s.combinedQueued ptr here).withSession ptr
            (here.cleared.added (here.numbered packet changeUnk))
        else s.withSession ptr (here.added (here.numbered packet changeUnk))) := by
  unfold sendPacket
  rw [run_bind_ok (session_run live), if_neg ready]
  dsimp only
  change (if here.Flushes (here.numbered packet changeUnk) then _ else _ : Handling η Unit) s = _
  split
  · have still : ((s.combinedQueued ptr here).withSession ptr here.cleared).session? ptr =
        some here.cleared := by
      exact (session?_set (s := s.combinedQueued ptr here) live _ ptr).trans (if_pos rfl)
    have added := modifySession_run still fun s =>
      { s with sendPacket := combine s.sendPacket (here.numbered packet changeUnk) }
    refine (run_bind_ok (flush_run live)).trans (added.trans ?_)
    unfold Server.withSession
    dsimp only
    rw [List.set_set]
    rfl
  · exact modifySession_run live _

theorem sendPacket_drops {ptr : Nat} {s : Server η} {here : WorldSession}
    (live : s.session? ptr = some here) (packet : WorldPacket) {ifReady changeUnk : Bool}
    (loading : ifReady = true ∧ here.own.playerLoading = true) :
    sendPacket ptr packet ifReady changeUnk s = .ok ((), s) := by
  unfold sendPacket
  rw [run_bind_ok (session_run live), if_pos loading]
  rfl

/-! ### What fits -/

theorem combine_size (combined packet : WorldPacket) :
    (combine combined packet).buffer.size =
      combined.buffer.size + (if combined.opcode = 0 then 0 else 1) + packet.buffer.size := by
  unfold combine
  dsimp only
  rw [ByteBuffer.size_extend]
  split
  · rfl
  · rw [ByteBuffer.size_extend]
    rfl

/-- The combined packet with the new one fits exactly if there was room. -/
theorem added_fits_iff {here : WorldSession} {packet : WorldPacket}
    (same : ¬ here.Flushes packet) :
    (here.added packet).sendPacket.buffer.size + 3 ≤ maxLen ↔ here.HasRoom packet := by
  unfold WorldSession.HasRoom WorldSession.added
  dsimp only
  rw [combine_size, if_neg same]
  split
  · exact Iff.rfl
  · rw [Nat.add_assoc here.sendPacket.buffer.size]

/-- So does the first of a new combined packet. -/
theorem cleared_added_fits_iff {here : WorldSession} {packet : WorldPacket}
    (flushes : here.Flushes packet) :
    (here.cleared.added packet).sendPacket.buffer.size + 3 ≤ maxLen ↔ here.HasRoom packet := by
  have empty : here.cleared.sendPacket.buffer.size = 0 := rfl
  have fresh : here.cleared.sendPacket.opcode = 0 := rfl
  unfold WorldSession.HasRoom WorldSession.added
  dsimp only
  rw [combine_size, if_pos flushes, empty, if_pos fresh, Nat.add_zero, Nat.zero_add]

theorem Fits.withSession {s : Server η} (fits : Fits s) {ptr : Nat} {here there : WorldSession}
    (live : s.session? ptr = some here) (room : there.sendPacket.buffer.size + 3 ≤ maxLen) :
    Fits (s.withSession ptr there) := by
  refine ⟨fun ptr' other found => ?_, fits.queued, fits.sent⟩
  have each : (s.withSession ptr there).session? ptr' =
      if ptr' = ptr then some there else s.session? ptr' := session?_set live _ ptr'
  rw [each] at found
  split at found
  · cases found
    exact room
  · exact fits.combined ptr' other found

theorem Fits.combinedQueued {s : Server η} (fits : Fits s) {ptr : Nat} {here : WorldSession}
    (live : s.session? ptr = some here) : Fits (s.combinedQueued ptr here) := by
  refine ⟨fits.combined, fun entry mem => ?_, fits.sent⟩
  rcases List.mem_append.mp mem with old | new
  · exact fits.queued entry old
  · cases List.mem_singleton.mp new
    exact fits.combined ptr here live

theorem datagram_length (packet : WorldPacket) :
    (datagram packet).length = packet.buffer.size + 3 := by
  unfold datagram cryptData
  split
  · rfl
  · rw [List.length_map]
    rfl

theorem Fits.flushed {s : Server η} (fits : Fits s) : Fits s.flushed := by
  refine ⟨fits.combined, nofun, fun entry mem => ?_⟩
  rcases List.mem_append.mp mem with old | new
  · exact fits.sent entry old
  · obtain ⟨queued, was, rfl⟩ := List.mem_map.mp new
    rw [datagram_length]
    exact fits.queued queued was

/-- A call that finds room leaves all packets such that they fit. -/
theorem Fits.call {s t : Server η} {call : Call} (fits : Fits s) (room : FindsRoom s call)
    (step : Calls s call t) : Fits t := by
  cases step with
  | @send ptr packet ifReady changeUnk _ run =>
      cases live : s.session? ptr with
      | none =>
          unfold sendPacket session at run
          simp only [Bind.bind, StateT.bind, live] at run
          cases run
      | some here =>
          by_cases loading : ifReady = true ∧ here.own.playerLoading = true
          · rw [sendPacket_drops live packet loading] at run
            cases run
            exact fits
          · have room := (room here live).resolve_left loading
            rw [sendPacket_run live packet loading] at run
            cases run
            split
            · next flushes =>
                exact (fits.combinedQueued live).withSession live
                  ((cleared_added_fits_iff flushes).mpr room)
            · next same => exact fits.withSession live ((added_fits_iff same).mpr room)
  | @flush ptr _ run =>
      cases live : s.session? ptr with
      | none =>
          unfold Awesie.flush session at run
          simp only [Bind.bind, StateT.bind, live] at run
          cases run
      | some here =>
          rw [flush_run live] at run
          cases run
          exact (fits.combinedQueued live).withSession live (by decide : 0 + 3 ≤ 1024)
  | @answer sender packet answer =>
      refine ⟨fits.combined, fun entry mem => ?_, fits.sent⟩
      rcases List.mem_append.mp mem with old | new
      · exact fits.queued entry old
      · cases List.mem_singleton.mp new
        exact answer.fits
  | sendQueued => exact fits.flushed
  | other same =>
      refine ⟨fun ptr here live => ?_, ?_, ?_⟩
      · rcases same.combined ptr here live with ⟨before, was, packet⟩ | empty
        · rw [packet]
          exact fits.combined ptr before was
        · rw [empty]
          decide
      · rw [same.sendQueue]
        exact fits.queued
      · rw [same.sent]
        exact fits.sent

theorem fits_start (world : η) : Fits (start world) := by
  refine ⟨fun ptr here live => ?_, nofun, nofun⟩
  have none : (start world).session? ptr = none := by simp [start, Server.session?]
  rw [none] at live
  cases live

/-- A new session has nothing to send. -/
theorem samePackets_of_new (s : Server η) (freeIds : List UInt8) (id : UInt8)
    (endpoint : Endpoint) (sessions : List (Endpoint × Nat)) (joins : List Endpoint) :
    SamePackets s { s with
      freeIds := freeIds
      heap := s.heap ++ [some (.new id endpoint)]
      sessions := sessions
      joins := joins } := by
  refine ⟨rfl, rfl, fun ptr here live => ?_⟩
  unfold Server.session? at live
  dsimp only at live
  rcases Nat.lt_trichotomy ptr s.heap.length with below | new | above
  · rw [List.getElem?_append_left below] at live
    exact .inl ⟨here, live, rfl⟩
  · rw [new, List.getElem?_concat_length] at live
    cases live
    exact .inr rfl
  · rw [List.getElem?_eq_none (by rw [List.length_append]; exact above)] at live
    cases live

/-! ### A stream that a session is handed -/

def viewer : Endpoint := ⟨0x0A000001, 1000⟩

def joinedSession : WorldSession := .new 1 viewer

/-- The server then, with the session at 0. -/
def joinedServer : Server Unit := (start ()).joined viewer

theorem joinedServer_live : joinedServer.session? 0 = some joinedSession := rfl

theorem joinedServer_calls :
    Run (guarded FindsRoom Calls) (start ())
      [.other, .answer none { opcode := 0x14, endpoint := viewer }] joinedServer := by
  refine .cons ⟨trivial, .other (samePackets_of_new (start ()) allIds.tail 1 viewer
    [(viewer, 0)] [viewer])⟩ ?_
  exact .single ⟨trivial, .answer (.accept viewer 0)⟩

def someAppearance : Appearance := ⟨1, 1, 0, 0⟩

/-- The stream of a player that sees so many objects. -/
def crowdedStream (objects : Nat) : WorldPacket :=
  updatePacket viewer (.player someAppearance 0 0)
    (List.replicate objects (.worldObject someAppearance))

theorem crowdedStream_size (objects : Nat) :
    (crowdedStream objects).buffer.size = 14 + 10 * objects := by
  unfold crowdedStream
  rw [updatePacket_size, List.map_replicate, List.sum_replicate_nat, Nat.mul_comm]
  rfl

theorem joinedSession_same (packet : WorldPacket) : ¬ joinedSession.Flushes packet := by
  intro flushes
  exact flushes.1 rfl

/-- The session has nothing to send, so it has room for the stream of 100 objects. -/
theorem crowdedStream_hasRoom_iff (objects : Nat) :
    joinedSession.HasRoom (joinedSession.numbered (crowdedStream objects) true) ↔
      objects ≤ 100 := by
  have fresh : joinedSession.sendPacket.opcode = 0 := rfl
  have empty : joinedSession.sendPacket.buffer.size = 0 := rfl
  have size : (joinedSession.numbered (crowdedStream objects) true).buffer.size =
      14 + 10 * objects := crowdedStream_size objects
  unfold WorldSession.HasRoom
  rw [if_neg (joinedSession_same _), if_pos fresh, empty, size, maxLen]
  omega

/-- The server with the stream in the session's combined packet. -/
def handedServer (objects : Nat) : Server Unit :=
  joinedServer.withSession 0
    (joinedSession.added (joinedSession.numbered (crowdedStream objects) true))

theorem handedServer_calls (objects : Nat) :
    Calls joinedServer (.send 0 (crowdedStream objects) true true) (handedServer objects) := by
  have ready : ¬ (true = true ∧ joinedSession.own.playerLoading = true) := by decide
  have run := @sendPacket_run Unit 0 joinedServer joinedSession joinedServer_live
    (crowdedStream objects) true true ready
  rw [if_neg (joinedSession_same _)] at run
  exact .send run

def streamedServer (objects : Nat) : Server Unit :=
  let handed := joinedSession.added (joinedSession.numbered (crowdedStream objects) true)
  ((handedServer objects).combinedQueued 0 handed).withSession 0 handed.cleared

theorem streamedServer_calls (objects : Nat) :
    Calls (handedServer objects) (.flush 0) (streamedServer objects) :=
  .flush (flush_run rfl)

/-- In every run whose calls of `send_packet` all find room in the packet that is pending, every
packet that is copied into the buffer fits with its header, and no datagram is longer than the
buffer. The calls are what receiving and ticks do (`step_calls`), and `queued_fits_iff` shows that
one without room overflows the buffer. -/
theorem packets_fit {world : η} {calls : List Call} {s : Server η}
    (run : Run (guarded FindsRoom Calls) (start world) calls s) :
    (∀ entry ∈ s.sendQueue, entry.2.buffer.size + 3 ≤ maxLen) ∧
      ∀ entry ∈ s.sent, entry.2.2.length ≤ maxLen := by
  have kept : Fits s := run.invariant (fun _ _ _ fits step => fits.call step.1 step.2)
    (fits_start world)
  exact ⟨kept.queued, kept.sent⟩

/-- The stream of 100 objects is queued and fits. -/
theorem streamedServer_fits :
    (∀ entry ∈ (streamedServer 100).sendQueue, entry.2.buffer.size + 3 ≤ maxLen) ∧
      ∀ entry ∈ (streamedServer 100).sent, entry.2.2.length ≤ maxLen := by
  have room : FindsRoom joinedServer (.send 0 (crowdedStream 100) true true) := by
    intro here live
    cases joinedServer_live.symm.trans live
    exact .inr ((crowdedStream_hasRoom_iff 100).mpr (by decide))
  have flushed : guarded FindsRoom Calls (handedServer 100) (.flush 0) (streamedServer 100) :=
    ⟨trivial, streamedServer_calls 100⟩
  exact packets_fit (joinedServer_calls.append
    (.cons ⟨room, handedServer_calls 100⟩ (.single flushed)))

/-- The condition is exact: where all packets fit, what the session queues next after a call that
does not drop its packet fits if and only if the call has found room. -/
theorem queued_fits_iff {s t u : Server η} {ptr : Nat} {here : WorldSession}
    (live : s.session? ptr = some here) {packet : WorldPacket} {ifReady changeUnk : Bool}
    (ready : ¬ (ifReady = true ∧ here.own.playerLoading = true)) (fits : Fits s)
    (step : Calls s (.send ptr packet ifReady changeUnk) t) (queues : Calls t (.flush ptr) u) :
    (∀ entry ∈ u.sendQueue, entry.2.buffer.size + 3 ≤ maxLen) ↔
      here.HasRoom (here.numbered packet changeUnk) := by
  have queued {s : Server η} {there : WorldSession} (fits : Fits s)
      (live : (s.withSession ptr there).session? ptr = some there)
      (run : flush ptr (s.withSession ptr there) = .ok ((), u)) :
      (∀ entry ∈ u.sendQueue, entry.2.buffer.size + 3 ≤ maxLen) ↔
        there.sendPacket.buffer.size + 3 ≤ maxLen := by
    rw [flush_run live] at run
    cases run
    constructor
    · intro all
      exact all (some ptr, there.outgoing) (List.mem_append.mpr (.inr List.mem_cons_self))
    · intro room entry mem
      rcases List.mem_append.mp mem with old | new
      · exact fits.queued entry old
      · cases List.mem_singleton.mp new
        exact room
  have written {s : Server η} (live : s.session? ptr = some here) (there : WorldSession) :
      (s.withSession ptr there).session? ptr = some there :=
    (session?_set live _ ptr).trans (if_pos rfl)
  cases step with
  | send run =>
      cases queues with
      | flush next =>
          rw [sendPacket_run live packet ready] at run
          cases run
          split at next
          · next flushes =>
              rw [← cleared_added_fits_iff flushes]
              exact queued (fits.combinedQueued live) (written live _) next
          · next same =>
              rw [← added_fits_iff same]
              exact queued fits (written live _) next

/-- A client joins, and its session is handed the stream of 101 objects: 1024 bytes and the header
are to be copied into a buffer of 1024. -/
theorem packet_overflows : ¬ ∀ (calls : List Call) (s : Server Unit),
    Run Calls (start ()) calls s → ∀ entry ∈ s.sendQueue, entry.2.buffer.size + 3 ≤ maxLen := by
  intro all
  have ready : ¬ (true = true ∧ joinedSession.own.playerLoading = true) := by decide
  have fits : Fits joinedServer := joinedServer_calls.invariant
    (fun _ _ _ fits step => fits.call step.1 step.2) (fits_start ())
  have queued := all _ _ (joinedServer_calls.unguarded.append
    (.cons (handedServer_calls 101) (.single (streamedServer_calls 101))))
  have room := (queued_fits_iff joinedServer_live ready fits (handedServer_calls 101)
    (streamedServer_calls 101)).mp queued
  exact absurd ((crowdedStream_hasRoom_iff 101).mp room) (by decide)

/-! ### Updates are calls -/

/-- What the calls of some run make of the server. -/
def callFrame (η : Type) : Frame (Server η) where
  inv _ := True
  rel s t := ∃ calls, Run Calls s calls t
  refl s := ⟨[], .nil s⟩
  trans _ _ _ := fun ⟨_, first⟩ ⟨_, second⟩ => ⟨_, first.append second⟩

theorem calls_one {s t : Server η} {call : Call} (step : Calls s call t) :
    ∃ calls, Run Calls s calls t := ⟨[call], .single step⟩

theorem samePackets_of_heap {s : Server η} {ptr : Nat} {here there : WorldSession}
    (live : s.session? ptr = some here) (same : there.sendPacket = here.sendPacket) :
    SamePackets s (s.withSession ptr there) := by
  refine ⟨rfl, rfl, fun ptr' other found => .inl ?_⟩
  have each : (s.withSession ptr there).session? ptr' =
      if ptr' = ptr then some there else s.session? ptr' := session?_set live _ ptr'
  rw [each] at found
  split at found
  · next own =>
      cases found
      exact ⟨here, own ▸ live, same⟩
  · exact ⟨other, found, rfl⟩

theorem session_calls (ptr : Nat) :
    Keeps (callFrame η) (session ptr) fun _ => True := by
  intro s here t _ run
  obtain ⟨_, rfl⟩ := session_eq_ok run
  exact ⟨⟨[], .nil _⟩, trivial, trivial⟩

theorem modifySession_calls (ptr : Nat) {f : WorldSession → WorldSession}
    (same : ∀ here, (f here).sendPacket = here.sendPacket) :
    Keeps (callFrame η) (modifySession ptr f) fun _ => True := by
  intro s _ t _ run
  obtain ⟨here, live, rfl⟩ := modifySession_eq_ok run
  exact ⟨calls_one (.other (samePackets_of_heap live (same here))), trivial, trivial⟩

/-- A change that leaves the packets and the sessions alone. -/
theorem modify_calls {f : Server η → Server η}
    (only : ∀ s, (f s).sendQueue = s.sendQueue ∧ (f s).sent = s.sent ∧ (f s).heap = s.heap) :
    Keeps (callFrame η) (modify f : Handling η PUnit) fun _ => True := by
  rintro s _ _ _ ⟨⟩
  obtain ⟨queue, sent, heap⟩ := only s
  refine ⟨calls_one (.other ⟨queue, sent, fun ptr here live => .inl ⟨here, ?_, rfl⟩⟩), trivial,
    trivial⟩
  unfold Server.session? at live ⊢
  rwa [heap] at live

theorem queuePacket_calls (sender : Option Nat) {packet : WorldPacket}
    (answer : SocketAnswer packet) :
    Keeps (callFrame η) (queuePacket sender packet) fun _ => True := by
  rintro s _ _ _ ⟨⟩
  exact ⟨calls_one (.answer answer), trivial, trivial⟩

theorem sendPacket_calls (ptr : Nat) (packet : WorldPacket) (ifReady changeUnk : Bool) :
    Keeps (callFrame η) (sendPacket ptr packet ifReady changeUnk) fun _ => True :=
  fun _ _ _ _ run => ⟨calls_one (.send run), trivial, trivial⟩

theorem flush_calls (ptr : Nat) : Keeps (callFrame η) (flush ptr) fun _ => True :=
  fun _ _ _ _ run => ⟨calls_one (.flush run), trivial, trivial⟩

theorem sendToEach_calls (packet : WorldPacket) (entries : List (Endpoint × Nat)) :
    Keeps (callFrame η) (sendToEach packet entries) fun _ => True := by
  induction entries with
  | nil => exact keeps_pure trivial
  | cons entry entries ih => exact (sendPacket_calls entry.2 packet true true).seq fun _ => ih

theorem performSends_calls (ptr : Nat) (sends : List Send) :
    Keeps (callFrame η) (performSends ptr sends) fun _ => True := by
  induction sends with
  | nil => exact keeps_pure trivial
  | cons send sends ih =>
      cases send with
      | own packet ifReady changeUnk =>
          exact (sendPacket_calls ptr packet ifReady changeUnk).seq fun _ => ih
      | all packet =>
          have toAll : Keeps (callFrame η) (sendToAll packet) fun _ => True :=
            keeps_get.seq fun s => sendToEach_calls packet s.sessions
          exact toAll.seq fun _ => ih
      | flush => exact (flush_calls ptr).seq fun _ => ih

variable (rest : Rest η)

theorem logout_calls (ptr : Nat) : Keeps (callFrame η) (logout rest ptr) fun _ => True := by
  have last : Keeps (callFrame η) (modifySession ptr fun s =>
      { s with player := false, playerLoggingOut := true }) fun _ => True :=
    modifySession_calls ptr fun _ => rfl
  refine (session_calls ptr).seq fun here => keeps_ite (fun _ => ?_) fun _ => last
  exact Keeps.seq (modify_calls fun _ => ⟨rfl, rfl, rfl⟩) fun _ => last

theorem handlePlayerJoin_calls (ptr : Nat) (packet : WorldPacket) :
    Keeps (callFrame η) (handlePlayerJoin rest ptr packet) fun _ => True := by
  refine Keeps.seq (modifySession_calls ptr ?_) fun _ => (keeps_lift _).seq fun packet' => ?_
  · exact fun _ => rfl
  refine Keeps.seq (modifySession_calls ptr ?_) fun _ => (session_calls ptr).seq fun here => ?_
  · exact fun _ => rfl
  refine Keeps.seq (modify_calls fun _ => ⟨rfl, rfl, rfl⟩) fun _ => keeps_get.seq fun s => ?_
  refine (keeps_lift _).seq fun replies => ?_
  refine Keeps.seq (modify_calls fun _ => ⟨rfl, rfl, rfl⟩) fun _ => ?_
  refine Keeps.seq (modifySession_calls ptr ?_) fun _ => ?_
  · exact fun _ => rfl
  exact (performSends_calls ptr _).seq fun _ => keeps_pure trivial

theorem call_calls (ptr : Nat) (packet : WorldPacket) (handler : OpcodeHandler η) :
    Keeps (callFrame η) (handler.call rest ptr packet) fun _ => True := by
  cases handler with
  | exiting => exact (logout_calls rest ptr).seq fun _ => keeps_pure trivial
  | outgoingClient => exact (logout_calls rest ptr).seq fun _ => keeps_pure trivial
  | playerJoin => exact handlePlayerJoin_calls rest ptr packet
  | other run =>
      refine (session_calls ptr).seq fun here => keeps_get.seq fun s => ?_
      refine (keeps_lift _).seq fun replies => ?_
      refine Keeps.seq (modify_calls fun _ => ⟨rfl, rfl, rfl⟩) fun _ => ?_
      refine Keeps.seq (modifySession_calls ptr ?_) fun _ => ?_
      · exact fun _ => rfl
      exact (performSends_calls ptr _).seq fun _ => keeps_pure trivial

theorem dispatch_calls (ptr : Nat) (packet : WorldPacket) :
    Keeps (callFrame η) (dispatch rest ptr packet) fun _ => True := by
  refine (session_calls ptr).seq fun here => keeps_ite (fun _ => ?_) fun _ => ?_
  · refine keeps_ite (fun _ => ?_) fun _ => keeps_pure trivial
    refine Keeps.seq (modifySession_calls ptr ?_) fun _ => ?_
    · exact fun _ => rfl
    have confirms : Keeps (callFrame η) (handleJoinConfirmation ptr) fun _ => True := by
      refine (session_calls ptr).seq fun there => ?_
      exact (queuePacket_calls _ (.confirm _ _ _)).seq fun _ => modifySession_calls ptr fun _ => rfl
    exact confirms.seq fun _ => keeps_pure trivial
  · split
    · exact keeps_pure trivial
    · next status handler _ =>
        exact keeps_ite (fun _ => call_calls rest ptr packet handler) fun _ => keeps_pure trivial

theorem nextPacket_calls (ptr : Nat) (packet : Option WorldPacket) :
    Keeps (callFrame η) (nextPacket ptr packet) fun _ => True := by
  cases packet with
  | some p => exact keeps_pure trivial
  | none =>
      refine (session_calls ptr).seq fun here => ?_
      cases here.receiveQueue with
      | nil => exact keeps_pure trivial
      | cons p packets =>
          refine Keeps.seq (modifySession_calls ptr ?_) fun _ => keeps_pure trivial
          exact fun _ => rfl

theorem processQueue_calls (ptr rounds : Nat) (packet : Option WorldPacket) :
    Keeps (callFrame η) (processQueue rest ptr rounds packet) fun _ => True := by
  induction rounds generalizing packet with
  | zero =>
      rw [processQueue]
      refine (nextPacket_calls ptr packet).seq fun next => ?_
      cases next with
      | none => exact keeps_pure trivial
      | some p => exact keeps_throw _
  | succ rounds ih =>
      rw [processQueue]
      refine (nextPacket_calls ptr packet).seq fun next => ?_
      cases next with
      | none => exact keeps_pure trivial
      | some p =>
          exact (dispatch_calls rest ptr p).seq fun p' => (keeps_lift _).seq fun next => ih next

/-- The update of a session is a run of calls, with whatever its handlers send. -/
theorem updateSession_calls (rounds ptr : Nat) :
    Keeps (callFrame η) (updateSession rest rounds ptr) fun _ => True := by
  have last : Keeps (callFrame η) (do
      let here ← session ptr
      return !here.playerLoggingOut : Handling η Bool) fun _ => True :=
    (session_calls ptr).seq fun _ => keeps_pure trivial
  have ends : Keeps (callFrame η) (do
      processQueue rest ptr rounds none
      let here ← session ptr
      if 0 < here.sendPacket.buffer.size then flush ptr
      let here ← session ptr
      return !here.playerLoggingOut) fun _ => True :=
    (processQueue_calls rest ptr rounds none).seq fun _ => (session_calls ptr).seq fun here =>
      keeps_ite (fun _ => (flush_calls ptr).seq fun _ => last) fun _ => last
  have resends (here : WorldSession) : Keeps (callFrame η)
      (sendNow ptr { opcode := 0x14, endpoint := here.endpoint }) fun _ => True :=
    (session_calls ptr).seq fun there => queuePacket_calls _ (.accept _ _)
  have processes (here : WorldSession) : Keeps (callFrame η) (do
      if here.receiveQueue = [] ∧ here.status = .authed then
        sendNow ptr { opcode := 0x14, endpoint := here.endpoint }
      processQueue rest ptr rounds none
      let here ← session ptr
      if 0 < here.sendPacket.buffer.size then flush ptr
      let here ← session ptr
      return !here.playerLoggingOut) fun _ => True :=
    keeps_ite (fun _ => (resends here).seq fun _ => ends) fun _ => ends
  refine (session_calls ptr).seq fun here => keeps_ite (fun _ => ?_) fun _ => processes here
  refine Keeps.seq (modifySession_calls ptr ?_) fun _ => (session_calls ptr).seq fun there => ?_
  · exact fun _ => rfl
  exact (sendPacket_calls ptr _ _ _).seq fun _ => processes here

theorem updateAll_calls (rounds : Nat) (entries : List (Endpoint × Nat)) :
    Keeps (callFrame η) (updateAll rest rounds entries) fun _ => True := by
  induction entries with
  | nil => exact keeps_pure trivial
  | cons entry entries ih =>
      exact (updateSession_calls rest rounds entry.2).seq fun _ =>
        ih.seq fun _ => keeps_pure trivial

/-- What only changes other things of the server. -/
theorem other_calls {m : Handling η Unit}
    (same : ∀ s t, m s = .ok ((), t) → SamePackets s t) : Keeps (callFrame η) m fun _ => True :=
  fun s _ t _ run => ⟨calls_one (.other (same s t run)), trivial, trivial⟩

theorem returnFreeId_calls (id : UInt8) :
    Keeps (callFrame η) (returnFreeId id) fun _ => True := by
  refine other_calls fun s t run => ?_
  unfold returnFreeId at run
  split at run
  · cases run
    exact ⟨rfl, rfl, fun _ here live => .inl ⟨here, live, rfl⟩⟩
  · cases run
    exact ⟨rfl, rfl, fun _ here live => .inl ⟨here, live, rfl⟩⟩

theorem getFreeId_calls : Keeps (callFrame η) getFreeId fun _ => True := by
  intro s id t _ run
  unfold getFreeId at run
  split at run
  · cases run
    exact ⟨⟨[], .nil _⟩, trivial, trivial⟩
  · cases run
    exact ⟨calls_one (.other ⟨rfl, rfl, fun _ here live => .inl ⟨here, live, rfl⟩⟩), trivial,
      trivial⟩

theorem handleJoin_calls (packet : WorldPacket) :
    Keeps (callFrame η) (handleJoin packet) fun _ => True := by
  refine (keeps_lift _).seq fun _ => getFreeId_calls.seq fun id => ?_
  refine Keeps.seq (other_calls fun s t run => ?_) fun _ => queuePacket_calls none (.accept _ _)
  cases run
  exact samePackets_of_new s s.freeIds id packet.endpoint _ _

theorem handleLanPing_calls (packet : WorldPacket) :
    Keeps (callFrame η) (handleLanPing packet) fun _ => True := by
  refine (keeps_lift _).seq fun _ => queuePacket_calls none (.pong _ ?_)
  rw [List.length_take]
  exact Nat.min_le_left 4 _

theorem receive_calls (sender : Endpoint) (err : Bool) (bytes : List UInt8) :
    Keeps (callFrame η) (receive sender err bytes) fun _ => True := by
  refine keeps_ite (fun _ => keeps_pure trivial) fun _ => keeps_get.seq fun s => ?_
  dsimp only
  split
  · refine keeps_ite (fun _ => handleLanPing_calls _) fun _ => ?_
    refine keeps_ite (fun _ => handleJoin_calls _) fun _ => ?_
    cases findEntry sender s.sessions with
    | none => exact keeps_pure trivial
    | some ptr => exact modifySession_calls ptr fun _ => rfl
  · exact keeps_pure trivial

/-- The end of a session is a run of calls. -/
theorem destroy_calls (key : Endpoint) :
    Keeps (callFrame η) (destroy rest key) fun _ => True := by
  refine keeps_get.seq fun s => ?_
  cases findEntry key s.sessions with
  | none => exact keeps_pure trivial
  | some ptr =>
      refine (session_calls ptr).seq fun here => ?_
      have last : Keeps (callFrame η) (do
          returnFreeId here.playerId
          modify fun s => { s with
            heap := s.heap.set ptr none
            sessions := eraseEntry key s.sessions } : Handling η Unit) fun _ => True := by
        refine (returnFreeId_calls here.playerId).seq fun _ => other_calls fun s t run => ?_
        cases run
        refine ⟨rfl, rfl, fun ptr' there live => .inl ⟨there, ?_, rfl⟩⟩
        unfold Server.session? at live ⊢
        dsimp only at live
        by_cases own : ptr' = ptr
        · subst own
          rw [List.getElem?_set_self'] at live
          cases slot : s.heap[ptr']? with
          | none =>
              rw [slot] at live
              cases live
          | some _ =>
              rw [slot] at live
              cases live
        · rwa [List.getElem?_set_ne (Ne.symm own)] at live
      exact keeps_ite (fun _ => (logout_calls rest ptr).seq fun _ => last) fun _ => last

theorem destroyAll_calls (keys : List Endpoint) :
    Keeps (callFrame η) (destroyAll rest keys) fun _ => True := by
  induction keys with
  | nil => exact keeps_pure trivial
  | cons key keys ih => exact (destroy_calls rest key).seq fun _ => ih

theorem sendQueued_calls : Keeps (callFrame η) sendQueued fun _ => True := by
  rintro s _ _ _ ⟨⟩
  exact ⟨calls_one .sendQueued, trivial, trivial⟩

/-- What an action of the socket does, some calls do. -/
theorem step_calls {s t : Server η} {action : Action} (step : Step rest s action t) :
    ∃ calls, Run Calls s calls t := by
  have keeps : Keeps (callFrame η) (apply rest action) fun _ => True := by
    cases action with
    | receive sender err bytes => exact receive_calls sender err bytes
    | tick rounds =>
        exact keeps_get.seq fun s => (updateAll_calls rest rounds s.sessions).seq fun ended =>
          (destroyAll_calls rest ended).seq fun _ => sendQueued_calls
  exact (keeps s () t trivial step).1

end Awesie

end NoxServer
