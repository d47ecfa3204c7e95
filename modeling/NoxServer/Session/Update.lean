import NoxServer.Session.Handlers

/-!
`WorldSession::Update`: the timestamp, the connection timer, the loop that dispatches the
queued packets, the download and the logout.

A packet is a chain of messages: an opcode, what its handler reads, the next opcode and so
on to the end of the packet. The loop sets up a handler for `ByteBuffer::error`, but a
short read is a failed assertion and not that error, so a packet that is not a chain of
complete messages stops the server. `Complete` says which packets are such chains, by the
lengths of the messages alone, and `update_completes_iff` that the loop gets through
exactly these.
-/

namespace NoxServer.Session

open ByteBuffer Consume

namespace WorldSession

/-- One message: the body of the dispatch loop up to the test for the end of the packet. -/
def handleMessage (game : Game) (now : Int) (s : WorldSession) (accountid packetUnk : UInt8)
    (opcode : UInt8) : Handling :=
  if opcode = 0 ∧ accountid = 0xFF then
    match s.status with
    | .authed => return s.handleJoinConfirmation
    | _ => return (s, [])
  else
    match opcodeTable opcode with
    | none => return (s, [])
    | some (status, h) =>
        if status = .loggedIn ∧ s.player = true then handle game now s packetUnk h
        else if status = .authed then
          handle game now { s with playerRecentlyLogout := false } packetUnk h
        else return (s, [])

/-! ### What handlers leave alone -/

/-- The fields no handler changes; a player, once there, stays. -/
structure Kept (s s' : WorldSession) : Prop where
  socket : s'.socket = s.socket
  client : s'.client = s.client
  accountId : s'.accountId = s.accountId
  xorKey : s'.xorKey = s.xorKey
  connTimer : s'.connTimer = s.connTimer
  recvQueue : s'.recvQueue = s.recvQueue
  player : s.player = true → s'.player = true

namespace Kept

theorem refl (s : WorldSession) : Kept s s := ⟨rfl, rfl, rfl, rfl, rfl, rfl, id⟩

theorem trans {s s' s'' : WorldSession} (first : Kept s s') (second : Kept s' s'') :
    Kept s s'' where
  socket := second.socket.trans first.socket
  client := second.client.trans first.client
  accountId := second.accountId.trans first.accountId
  xorKey := second.xorKey.trans first.xorKey
  connTimer := second.connTimer.trans first.connTimer
  recvQueue := second.recvQueue.trans first.recvQueue
  player := second.player ∘ first.player

end Kept

/-- Every session a handler returns with is kept from the one it was given. -/
def Keeps (s : WorldSession) (handling : Handling) : Prop :=
  Returns handling fun out => Kept s out.1

theorem keeps_pure {s s' : WorldSession} (outs : List Output) (kept : Kept s s') :
    Keeps s (pure (s', outs) : Handling) :=
  returns_pure kept

/-- An output that inserts no player and tells no one of players; calls of `SendPacket` are made
with the flag as it is. -/
def PlainOutput (loading : Bool) : Output → Prop
  | .send call => call.loading = loading
  | .request (.insertPlayer _ _ _) => False
  | .request .broadcastNewPlayer => False
  | .request .sendPlayerInfo => False
  | _ => True

/-- What a handler does that neither logs the player in nor makes it ready. -/
structure Plain (s : WorldSession) (out : WorldSession × List Output) : Prop where
  session : ∃ mouse logoutTime playerDownloading unk unk2, out.1 =
    { s with
      mouse := mouse, logoutTime := logoutTime, playerDownloading := playerDownloading
      unk := unk, unk2 := unk2 }
  outs : ∀ o ∈ out.2, PlainOutput s.playerLoading o

theorem attackInput_plain (loading : Bool) : Returns attackInput
    fun requests => ∀ r ∈ requests, PlainOutput loading (.request r) := by
  refine returns_bind fun kind => ?_
  split
  · exact returns_pure (List.forall_mem_singleton.mpr trivial)
  · exact returns_pure (List.forall_mem_singleton.mpr trivial)
  · exact returns_pure (List.forall_mem_singleton.mpr trivial)
  · exact returns_pure (List.forall_mem_singleton.mpr trivial)
  · exact returns_pure (List.forall_mem_singleton.mpr trivial)
  · exact returns_bind fun _ => returns_pure nofun

theorem inputAction_plain (s : WorldSession) (kind : UInt8) (loading : Bool) :
    Returns (inputAction s kind)
      fun requests => ∀ r ∈ requests, PlainOutput loading (.request r) := by
  unfold inputAction
  split
  · exact returns_pure nofun
  · refine (attackInput_plain loading).bind fun requests plain => ?_
    exact returns_bind fun _ => returns_pure plain
  · exact returns_bind fun _ => returns_pure (List.forall_mem_singleton.mpr trivial)
  · refine returns_bind fun action => returns_bind fun _ => returns_pure ?_
    split
    · exact List.forall_mem_singleton.mpr trivial
    · nofun
  · exact returns_bind fun _ => returns_pure nofun

/-- Handlers are plain but the join's and, while the player is loading, that of its readiness. -/
theorem handle_plain (game : Game) (now : Int) (s : WorldSession) (packetUnk : UInt8)
    {h : Handler} (notJoin : h ≠ .playerJoin)
    (notReady : h = .clientReady → s.playerLoading = false) :
    Returns (handle game now s packetUnk h) (Plain s) := by
  have same {outs : List Output} (plain : ∀ o ∈ outs, PlainOutput s.playerLoading o) :
      Returns (pure (s, outs) : Handling) (Plain s) :=
    returns_pure ⟨⟨_, _, _, _, _, rfl⟩, plain⟩
  have one {out : Output} (plain : PlainOutput s.playerLoading out) :
      Returns (pure (s, [out]) : Handling) (Plain s) :=
    same (List.forall_mem_singleton.mpr plain)
  have ignored (sizes : List Nat) : Returns (s.ignoreFields sizes) (Plain s) :=
    returns_bind fun _ => same nofun
  cases h with
  | playerJoin => exact absurd rfl notJoin
  | needTimestamp => exact one rfl
  | playerInput =>
      refine returns_bind fun kind => ?_
      refine (inputAction_plain s kind s.playerLoading).bind fun _ plain => ?_
      refine returns_bind fun _ => returns_bind fun angle => returns_bind fun _ => same ?_
      refine List.forall_mem_append.mpr ⟨?_, List.forall_mem_singleton.mpr trivial⟩
      exact List.forall_mem_map.mpr plain
  | tryDrop =>
      exact returns_bind fun _ => returns_bind fun _ => returns_bind fun _ => one trivial
  | tryGet => exact returns_bind fun _ => one trivial
  | tryUse => exact returns_bind fun _ => one trivial
  | tryEquip => exact returns_bind fun _ => one trivial
  | tryDequip => exact returns_bind fun _ => one trivial
  | reportSecondaryWeapon => exact returns_bind fun _ => one trivial
  | trySpell =>
      exact returns_bind fun _ => returns_bind fun _ => returns_bind fun _ => one trivial
  | tryAbility => exact returns_bind fun _ => one trivial
  | textMessage =>
      exact returns_bind fun _ => returns_bind fun _ => returns_bind fun _ =>
        returns_bind fun _ => returns_bind fun _ => returns_bind fun _ => one trivial
  | important => exact returns_bind fun _ => one rfl
  | mouse =>
      exact returns_bind fun _ => returns_bind fun _ =>
        returns_pure ⟨⟨_, _, _, _, _, rfl⟩, nofun⟩
  | outgoingClient => exact returns_pure ⟨⟨_, _, _, _, _, rfl⟩, nofun⟩
  | requestMap =>
      refine returns_pure ?_
      unfold _sendMapSendStart
      split
      · exact ⟨⟨_, _, _, _, _, rfl⟩, List.forall_mem_singleton.mpr rfl⟩
      · exact ⟨⟨_, _, _, _, _, rfl⟩, nofun⟩
  | serverCmd => exact returns_bind fun _ => returns_bind fun _ => same nofun
  | sysopPw => exact returns_bind fun _ => same nofun
  | receivedMap => exact returns_pure ⟨⟨_, _, _, _, _, rfl⟩, nofun⟩
  | clientReady =>
      unfold handle handleClientReadyOpcode
      dsimp only
      rw [if_neg (Bool.eq_false_iff.mp (notReady rfl))]
      exact returns_pure ⟨⟨_, _, _, _, _, rfl⟩, nofun⟩
  | xferMsg => exact returns_bind fun _ => returns_bind fun _ => same nofun
  | vote => exact returns_bind fun _ => returns_bind fun _ => same nofun
  | teamMsg => exact returns_bind fun _ => returns_bind fun _ => same nofun
  | newUnknown => exact returns_bind fun _ => same nofun
  | _ => exact ignored _

theorem Kept.of_plain {s : WorldSession} {out : WorldSession × List Output} (plain : Plain s out) :
    Kept s out.1 := by
  obtain ⟨_, _, _, _, _, session⟩ := plain.session
  rw [session]
  exact ⟨rfl, rfl, rfl, rfl, rfl, rfl, id⟩

theorem handle_keeps (game : Game) (now : Int) (s : WorldSession) (packetUnk : UInt8)
    (h : Handler) : Keeps s (handle game now s packetUnk h) := by
  by_cases join : h = .playerJoin
  · subst join
    exact returns_bind fun _ => returns_bind fun _ => returns_bind fun _ =>
      returns_bind fun _ => returns_bind fun _ => returns_bind fun _ =>
        keeps_pure _ ⟨rfl, rfl, rfl, rfl, rfl, rfl, fun _ => rfl⟩
  · by_cases ready : h = .clientReady → s.playerLoading = false
    · intro b out b' run
      exact .of_plain (handle_plain game now s packetUnk join ready b out b' run)
    · obtain ⟨rfl, loading⟩ := Classical.not_imp.mp ready
      have loading : s.playerLoading = true := by simpa using loading
      unfold handle handleClientReadyOpcode
      dsimp only
      rw [if_pos loading]
      exact keeps_pure _ ⟨rfl, rfl, rfl, rfl, rfl, rfl, id⟩

/-- A message is a handler's, of a session with at most a mark changed, or reads nothing. -/
theorem handleMessage_cases (game : Game) (now : Int) (s : WorldSession)
    (accountid packetUnk opcode : UInt8) :
    (∃ value, Kept s value.1 ∧
      handleMessage game now s accountid packetUnk opcode = pure value) ∨
    ∃ s' h, Kept s s' ∧
      handleMessage game now s accountid packetUnk opcode = handle game now s' packetUnk h := by
  unfold handleMessage
  split
  · split
    · exact .inl ⟨_, ⟨rfl, rfl, rfl, rfl, rfl, rfl, id⟩, rfl⟩
    · exact .inl ⟨_, .refl s, rfl⟩
  · split
    · exact .inl ⟨_, .refl s, rfl⟩
    · split
      · exact .inr ⟨s, _, .refl s, rfl⟩
      · split
        · exact .inr ⟨{ s with playerRecentlyLogout := false }, _,
            ⟨rfl, rfl, rfl, rfl, rfl, rfl, id⟩, rfl⟩
        · exact .inl ⟨_, .refl s, rfl⟩

theorem handleMessage_keeps (game : Game) (now : Int) (s : WorldSession)
    (accountid packetUnk opcode : UInt8) :
    Keeps s (handleMessage game now s accountid packetUnk opcode) := by
  rcases handleMessage_cases game now s accountid packetUnk opcode with
    ⟨value, kept, same⟩ | ⟨s', h, kept, same⟩
  · rw [same]
    exact keeps_pure _ kept
  · rw [same]
    exact fun b out b' run => kept.trans (handle_keeps game now s' packetUnk h b out b' run)

/-! ### The dispatch loop -/

/-- A message does not move the position back, unless it is to the end of the packet. -/
theorem handleMessage_forward {game : Game} {now : Int} {s : WorldSession}
    {accountid packetUnk opcode : UInt8} {b b' : ByteBuffer} {out : WorldSession × List Output}
    (run : handleMessage game now s accountid packetUnk opcode b = .ok (out, b')) :
    b'.storage = b.storage ∧ (b.rpos ≤ b'.rpos ∨ b'.rpos = b'.size) := by
  rcases handleMessage_cases game now s accountid packetUnk opcode with
    ⟨value, _, same⟩ | ⟨s', h, _, same⟩
  · rw [same] at run
    cases run
    exact ⟨rfl, .inl (Nat.le_refl _)⟩
  · rw [same] at run
    by_cases skipped : h = .newUnknown
    · subst skipped
      cases run
      exact ⟨rfl, .inr rfl⟩
    · have taken := handle_takes_of_ne game now s' packetUnk skipped b
      rw [run] at taken
      obtain ⟨data, count, _, pos⟩ := taken
      have pos : b'.rpos = b.rpos + count := pos
      exact ⟨data, .inl (by omega)⟩

/-- A packet in the dispatch loop, from its current opcode on. -/
def dispatchPacket (game : Game) (now : Int) (s : WorldSession) (p : WorldPacket) :
    Except Fault (WorldSession × List Output) :=
  match _run : handleMessage game now s p.accountid p.unk p.opcode p.toByteBuffer with
  | .error fault => .error fault
  | .ok ((s, outs), b) =>
      if _atEnd : b.rpos = b.size then .ok (s, outs)
      else
        match _next : readUInt8 b with
        | .error fault => .error fault
        | .ok (opcode, b') =>
            if s.socket then do
              let (s, later) ← dispatchPacket game now s
                { p with toByteBuffer := b', opcode := opcode }
              return (s, outs ++ later)
            else .ok (s, outs)
termination_by p.size - p.rpos
decreasing_by
  obtain ⟨same, forward⟩ := handleMessage_forward _run
  by_cases room : b.rpos + 1 ≤ b.size
  · rw [readUInt8_eq_ok room] at _next
    cases _next
    have size : b.size = p.size := congrArg List.length same
    have kept : ByteBuffer.size { b with rpos := b.rpos + 1 } = b.size := rfl
    show ByteBuffer.size { b with rpos := b.rpos + 1 } - (b.rpos + 1) < p.size - p.rpos
    rcases forward with onward | ended
    · omega
    · exact absurd ended _atEnd
  · obtain ⟨fault, fails⟩ := readUInt8_eq_error room
    rw [fails] at _next
    cases _next

/-- The loop's equation, without the notes its termination needs. -/
theorem dispatchPacket_eq (game : Game) (now : Int) (s : WorldSession) (p : WorldPacket) :
    dispatchPacket game now s p =
      match handleMessage game now s p.accountid p.unk p.opcode p.toByteBuffer with
      | .error fault => .error fault
      | .ok ((s, outs), b) =>
          if b.rpos = b.size then .ok (s, outs)
          else
            match readUInt8 b with
            | .error fault => .error fault
            | .ok (opcode, b') =>
                if s.socket then do
                  let (s, later) ← dispatchPacket game now s
                    { p with toByteBuffer := b', opcode := opcode }
                  return (s, outs ++ later)
                else .ok (s, outs) := by
  rw [dispatchPacket]
  split
  · next fault run => rw [run]
  · next s' outs b run =>
      rw [run]
      dsimp only
      split
      · rfl
      · split
        · next fault next => rw [next]
        · next opcode b' next => rw [next]

/-- The packets in the queue. Those left when there is no socket stay queued. -/
def dispatchQueue (game : Game) (now : Int) (s : WorldSession) :
    List WorldPacket → Except Fault (WorldSession × List Output)
  | [] => .ok ({ s with recvQueue := [] }, [])
  | p :: queue =>
      if s.socket then do
        let (s, outs) ← dispatchPacket game now s p
        let (s, later) ← dispatchQueue game now s queue
        return (s, outs ++ later)
      else .ok ({ s with recvQueue := p :: queue }, [])

/-! ### Update -/

/-- The timestamp sent at the start of an update. -/
def updateTimestamp (s : WorldSession) : WorldSession × List Output :=
  if s.status = .loggedIn then
    let s := { s with timestamp := s.timestamp + 1 }
    (s, [s._sendPartialTimestampOpcode])
  else (s, [])

/-- The connection timer: packets set it back, and when it runs out the session is to log
out. -/
def updateTimer (s : WorldSession) (diff : UInt32) : WorldSession :=
  if s.recvQueue ≠ [] ∧ s.connTimer < timeoutMs then { s with connTimer := timeoutMs }
  else if s.connTimer < diff then s.logoutRequest 1
  else { s with connTimer := s.connTimer - diff }

/-- The logout at the end of an update. -/
def updateLogout (s : WorldSession) (now : Int) : WorldSession :=
  if !s.socket || (s.shouldLogOut now && !s.playerLoading) then s.logoutPlayer else s

/-- `Update(diff)` at time `now`: the session, its outputs, and whether it is to be kept. -/
def update (game : Game) (s : WorldSession) (diff : UInt32) (now : Int) :
    Except Fault (WorldSession × List Output × Bool) := do
  let (s, tick) := s.updateTimestamp
  let s := s.updateTimer diff
  let (s, handled) ← dispatchQueue game now s s.recvQueue
  let (s, download) := s.mapUpdate game.map
  let s := s.updateLogout now
  return (s, tick ++ handled ++ .flushPending :: download.map .send, s.socket)

/-! ### What an update leaves alone -/

/-- The same client's session: the fields an update leaves alone. -/
structure SameClient (s s' : WorldSession) : Prop where
  client : s'.client = s.client
  accountId : s'.accountId = s.accountId
  xorKey : s'.xorKey = s.xorKey

theorem SameClient.trans {s s' s'' : WorldSession} (first : SameClient s s')
    (second : SameClient s' s'') : SameClient s s'' :=
  ⟨second.client.trans first.client, second.accountId.trans first.accountId,
    second.xorKey.trans first.xorKey⟩

theorem SameClient.of_kept {s s' : WorldSession} (kept : Kept s s') : SameClient s s' :=
  ⟨kept.client, kept.accountId, kept.xorKey⟩

/-- The dispatch of a packet changes none of the fields that no handler changes, and a player stays.
-/
theorem dispatchPacket_keeps (game : Game) (now : Int) (s : WorldSession) (p : WorldPacket) :
    ∀ out, dispatchPacket game now s p = .ok out → Kept s out.1 := by
  fun_induction dispatchPacket game now s p with
  | case1 =>
      intro out run
      cases run
  | case2 s p s' outs b message =>
      rintro _ ⟨⟩
      exact handleMessage_keeps game now s p.accountid p.unk p.opcode p.toByteBuffer _ b message
  | case3 =>
      intro out run
      cases run
  | case4 s p s' outs b message _ opcode b' _ _ ih =>
      intro out run
      obtain ⟨later, rest, ends⟩ := bind_eq_ok.mp run
      cases ends
      have kept := handleMessage_keeps game now s p.accountid p.unk p.opcode p.toByteBuffer _ b
        message
      exact kept.trans (ih later rest)
  | case5 s p s' outs b message =>
      rintro _ ⟨⟩
      exact handleMessage_keeps game now s p.accountid p.unk p.opcode p.toByteBuffer _ b message

theorem dispatchQueue_same {game : Game} {now : Int} {queue : List WorldPacket}
    {s : WorldSession} {out : WorldSession × List Output}
    (run : dispatchQueue game now s queue = .ok out) : SameClient s out.1 := by
  induction queue generalizing s out with
  | nil =>
      cases run
      exact ⟨rfl, rfl, rfl⟩
  | cons p queue ih =>
      rw [dispatchQueue] at run
      split at run
      · obtain ⟨first, packet, run⟩ := bind_eq_ok.mp run
        obtain ⟨rest, later, ends⟩ := bind_eq_ok.mp run
        cases ends
        have kept := dispatchPacket_keeps game now s p first packet
        have same := ih later
        exact (SameClient.of_kept kept).trans same
      · cases run
        exact ⟨rfl, rfl, rfl⟩

/-- An update leaves a session its client's. -/
theorem update_same {game : Game} {s : WorldSession} {diff : UInt32} {now : Int}
    {out : WorldSession × List Output × Bool} (run : update game s diff now = .ok out) :
    SameClient s out.1 := by
  obtain ⟨dispatched, queue, ends⟩ := bind_eq_ok.mp run
  cases ends
  have stamped : SameClient s s.updateTimestamp.1 := by
    unfold updateTimestamp
    split
    · exact ⟨rfl, rfl, rfl⟩
    · exact ⟨rfl, rfl, rfl⟩
  have timed : SameClient s.updateTimestamp.1 (s.updateTimestamp.1.updateTimer diff) := by
    unfold updateTimer
    split
    · exact ⟨rfl, rfl, rfl⟩
    · split
      · exact ⟨rfl, rfl, rfl⟩
      · exact ⟨rfl, rfl, rfl⟩
  have sent : SameClient dispatched.1 (dispatched.1.mapUpdate game.map).1 := by
    unfold mapUpdate
    split
    · exact ⟨rfl, rfl, rfl⟩
    · exact ⟨rfl, rfl, rfl⟩
  have closed (s : WorldSession) : SameClient s (s.updateLogout now) := by
    unfold updateLogout
    split
    · exact ⟨rfl, rfl, rfl⟩
    · exact ⟨rfl, rfl, rfl⟩
  exact stamped.trans (timed.trans ((dispatchQueue_same queue).trans (sent.trans (closed _))))

end WorldSession

/-! ### Complete packets -/

/-- The number of bytes a message takes after its opcode, in a session with a player. -/
def messageLength (accountid opcode : UInt8) (rest : List UInt8) : Option Nat :=
  if opcode = 0 ∧ accountid = 0xFF then some 0
  else
    match opcodeTable opcode with
    | none => some 0
    | some (_, h) => bodyLength h rest

/-- What follows an opcode is the rest of its message, and then nothing or another opcode
and what may follow it. -/
inductive Complete (accountid : UInt8) : UInt8 → List UInt8 → Prop
  | last {opcode : UInt8} {body : List UInt8} :
      messageLength accountid opcode body = some body.length → Complete accountid opcode body
  | more {opcode next : UInt8} {body rest : List UInt8} :
      messageLength accountid opcode (body ++ next :: rest) = some body.length →
      Complete accountid next rest → Complete accountid opcode (body ++ next :: rest)

theorem not_complete_of_none {accountid opcode : UInt8} {rest : List UInt8}
    (none : messageLength accountid opcode rest = none) : ¬ Complete accountid opcode rest := by
  intro complete
  cases complete with
  | last length => rw [none] at length; cases length
  | more length _ => rw [none] at length; cases length

/-- A message longer than what there is is not complete. -/
theorem not_complete_of_short {accountid opcode : UInt8} {rest : List UInt8} {count : Nat}
    (length : messageLength accountid opcode rest = some count) (short : rest.length < count) :
    ¬ Complete accountid opcode rest := by
  intro complete
  cases complete with
  | last same =>
      rw [length] at same
      cases same
      exact Nat.lt_irrefl _ short
  | more same _ =>
      rw [length] at same
      cases same
      rw [List.length_append] at short
      omega

/-- After a message that leaves something, completeness is that of what is left. -/
theorem complete_iff_of_more {accountid opcode next : UInt8} {body rest : List UInt8}
    (length : messageLength accountid opcode (body ++ next :: rest) = some body.length) :
    Complete accountid opcode (body ++ next :: rest) ↔ Complete accountid next rest := by
  constructor
  · generalize whole : body ++ next :: rest = all at length
    intro complete
    cases complete with
    | last same =>
        rw [length, Option.some_inj] at same
        rw [← whole, List.length_append, List.length_cons] at same
        omega
    | @more _ next' body' rest' same complete =>
        rw [length, Option.some_inj] at same
        obtain ⟨_, tail⟩ := List.append_inj whole same
        cases tail
        exact complete
  · exact .more length

theorem opcodeTable_status {opcode : UInt8} {status : SessionStatus} {h : Handler}
    (row : opcodeTable opcode = some (status, h)) : status = .loggedIn ∨ status = .authed := by
  have rows : ∀ row ∈ ownHandlers, row.2.1 = .loggedIn ∨ row.2.1 = .authed := by decide
  rcases opcodeTable_cases row with own | skipped
  · exact rows _ own
  · exact .inl skipped.1

/-- The handler of an opcode takes as many bytes as `messageLength` says, or fails if there are
fewer; there is one lemma for each kind of handler. -/
theorem handleMessage_takes (game : Game) (now : Int) {s : WorldSession}
    (player : s.player = true) (accountid packetUnk opcode : UInt8) :
    TakesWithin view (WorldSession.handleMessage game now s accountid packetUnk opcode)
      (messageLength accountid opcode) := by
  by_cases confirmation : opcode = 0 ∧ accountid = 0xFF
  · have length : messageLength accountid opcode = fun _ => some 0 := by
      funext rest
      rw [messageLength, if_pos confirmation]
    rw [length, WorldSession.handleMessage, if_pos confirmation]
    split
    · exact (takes_pure _).within
    · exact (takes_pure _).within
  · have length : messageLength accountid opcode = fun rest =>
        match opcodeTable opcode with
        | none => some 0
        | some (_, h) => bodyLength h rest := by
      funext rest
      rw [messageLength, if_neg confirmation]
    rw [length, WorldSession.handleMessage, if_neg confirmation]
    cases row : opcodeTable opcode with
    | none => exact (takes_pure _).within
    | some found =>
        obtain ⟨status, h⟩ := found
        dsimp only
        rcases opcodeTable_status row with loggedIn | authed
        · rw [if_pos ⟨loggedIn, player⟩]
          exact handle_takes game now s packetUnk h
        · rw [if_neg (by simp [authed]), if_pos authed]
          exact handle_takes game now _ packetUnk h

/-! ### The loop gets through exactly the complete packets -/

theorem rest_eq_cons {b : ByteBuffer} (room : b.rpos + 1 ≤ b.size) :
    view.rest b = UInt8.ofNat (fromBytes ((b.storage.drop b.rpos).take 1)) ::
      view.rest { b with rpos := b.rpos + 1 } := by
  have inside : b.rpos < b.storage.length := room
  have split : view.rest b = b.storage[b.rpos] :: b.storage.drop (b.rpos + 1) :=
    List.drop_eq_getElem_cons inside
  have first : (b.storage.drop b.rpos).take 1 = [b.storage[b.rpos]] := by
    rw [List.drop_eq_getElem_cons inside]
    rfl
  have byte : UInt8.ofNat (fromBytes [b.storage[b.rpos]]) = b.storage[b.rpos] := by
    simp [fromBytes]
  rw [split, first, byte]
  rfl

theorem length_rest (b : ByteBuffer) : (view.rest b).length = b.size - b.rpos := List.length_drop

/-- What dispatching a packet comes to, in a session with a player and a socket. -/
theorem dispatchPacket_spec (game : Game) (now : Int) (p : WorldPacket) {s : WorldSession}
    (player : s.player = true) (socket : s.socket = true) (inside : p.rpos ≤ p.size) :
    match WorldSession.dispatchPacket game now s p with
    | .ok out => Complete p.accountid p.opcode (view.rest p.toByteBuffer) ∧
        WorldSession.Kept s out.1
    | .error _ => ¬ Complete p.accountid p.opcode (view.rest p.toByteBuffer) := by
  induction left : p.size - p.rpos using Nat.strongRecOn generalizing p s with
  | ind left ih =>
    have takes := handleMessage_takes game now player p.accountid p.unk p.opcode
      p.toByteBuffer inside
    have keeps := WorldSession.handleMessage_keeps game now s p.accountid p.unk p.opcode
      p.toByteBuffer
    rw [WorldSession.dispatchPacket_eq]
    have ahead := length_rest p.toByteBuffer
    cases run : WorldSession.handleMessage game now s p.accountid p.unk p.opcode
        p.toByteBuffer with
    | error fault =>
        rw [run] at takes
        cases length : messageLength p.accountid p.opcode (view.rest p.toByteBuffer) with
        | none => exact not_complete_of_none length
        | some count =>
            have short : p.size < p.rpos + count := takes count length
            exact not_complete_of_short length (by omega)
    | ok out =>
        obtain ⟨⟨s', outs⟩, b⟩ := out
        rw [run] at takes
        have kept : WorldSession.Kept s s' := keeps _ _ run
        obtain ⟨data, count, length, pos⟩ := takes
        have size : b.size = p.size := congrArg List.length data
        have rest := View.rest_of_pos data pos
        have pos : b.rpos = p.rpos + count := pos
        dsimp only
        by_cases atEnd : b.rpos = b.size
        · rw [if_pos atEnd]
          refine ⟨.last ?_, kept⟩
          rw [length, ahead]
          exact congrArg some (by omega)
        · rw [if_neg atEnd]
          by_cases room : b.rpos + 1 ≤ b.size
          · have socket' : s'.socket = true := kept.socket.trans socket
            rw [readUInt8_eq_ok room]
            dsimp only
            rw [if_pos socket']
            -- the packet from here on: the message, the next opcode, what follows it
            have whole : view.rest p.toByteBuffer = (view.rest p.toByteBuffer).take count ++
                view.rest b := by rw [rest, List.take_append_drop]
            have body : ((view.rest p.toByteBuffer).take count).length = count := by
              rw [List.length_take]
              omega
            rw [rest_eq_cons room] at whole
            rw [whole] at length
            have onward := complete_iff_of_more (length.trans (congrArg some body.symm))
            rw [← whole] at onward
            have there := ih _ (by
                rw [← left]
                show b.size - (b.rpos + 1) < p.size - p.rpos
                omega)
              { p with
                toByteBuffer := { b with rpos := b.rpos + 1 }
                opcode := UInt8.ofNat (fromBytes ((b.storage.drop b.rpos).take 1)) }
              (kept.player player) socket' room rfl
            revert there
            cases WorldSession.dispatchPacket game now s' { p with
                toByteBuffer := { b with rpos := b.rpos + 1 }
                opcode := UInt8.ofNat (fromBytes ((b.storage.drop b.rpos).take 1)) } with
            | error fault => exact fun incomplete complete => incomplete (onward.mp complete)
            | ok out =>
                rintro ⟨complete, keptOn⟩
                exact ⟨onward.mpr complete, kept.trans keptOn⟩
          · obtain ⟨fault, fails⟩ := readUInt8_eq_error room
            rw [fails]
            exact not_complete_of_short length (by omega)

/-- A packet as it is queued: read from its start. -/
def Fresh (p : WorldPacket) : Prop := p.rpos = 0

instance : DecidablePred Fresh := fun p => inferInstanceAs (Decidable (p.rpos = 0))

/-- The packet is a chain of complete messages. -/
def CompletePacket (p : WorldPacket) : Prop := Complete p.accountid p.opcode p.storage

/-- A queue is dispatched without a failed assertion exactly if each of its packets is complete; the
induction is on the queue, and a packet that has been dispatched leaves the session logged in. -/
theorem dispatchQueue_iff (game : Game) (now : Int) (queue : List WorldPacket)
    {s : WorldSession} (player : s.player = true) (socket : s.socket = true)
    (fresh : ∀ p ∈ queue, Fresh p) :
    (∃ out, WorldSession.dispatchQueue game now s queue = .ok out) ↔
      ∀ p ∈ queue, CompletePacket p := by
  induction queue generalizing s with
  | nil => exact ⟨fun _ => nofun, fun _ => ⟨_, rfl⟩⟩
  | cons p queue ih =>
      have first := fresh p List.mem_cons_self
      have packet := dispatchPacket_spec game now p player socket (by
        rw [first]
        exact Nat.zero_le _)
      have whole : view.rest p.toByteBuffer = p.storage := by
        show p.storage.drop p.rpos = p.storage
        rw [first, List.drop_zero]
      rw [whole] at packet
      rw [WorldSession.dispatchQueue, if_pos socket, List.forall_mem_cons]
      cases run : WorldSession.dispatchPacket game now s p with
      | error fault =>
          rw [run] at packet
          constructor
          · rintro ⟨_, completes⟩
            cases completes
          · exact fun complete => absurd complete.1 packet
      | ok out =>
          obtain ⟨s', outs⟩ := out
          rw [run] at packet
          obtain ⟨complete, kept⟩ := packet
          have rest := ih (kept.player player) (kept.socket.trans socket)
            fun p mem => fresh p (List.mem_cons_of_mem _ mem)
          rw [ok_bind]
          constructor
          · rintro ⟨_, completes⟩
            obtain ⟨out, later, _⟩ := bind_eq_ok.mp completes
            exact ⟨complete, rest.mp ⟨out, later⟩⟩
          · rintro ⟨_, others⟩
            obtain ⟨out, later⟩ := rest.mpr others
            exact ⟨_, bind_eq_ok.mpr ⟨out, later, rfl⟩⟩

theorem dispatchQueue_no_socket (game : Game) (now : Int) (queue : List WorldPacket)
    {s : WorldSession} (noSocket : s.socket = false) :
    ∃ out, WorldSession.dispatchQueue game now s queue = .ok out := by
  cases queue with
  | nil => exact ⟨_, rfl⟩
  | cons p queue =>
      refine ⟨({ s with recvQueue := p :: queue }, []), ?_⟩
      rw [WorldSession.dispatchQueue, if_neg (by simp [noSocket])]

/-- The start of an update keeps the session's connection and its queue. -/
theorem updateTimer_updateTimestamp (s : WorldSession) (diff : UInt32) :
    let started := s.updateTimestamp.1.updateTimer diff
    started.player = s.player ∧ started.socket = s.socket ∧ started.recvQueue = s.recvQueue := by
  have stamped : s.updateTimestamp.1.player = s.player ∧ s.updateTimestamp.1.socket = s.socket ∧
      s.updateTimestamp.1.recvQueue = s.recvQueue := by
    unfold WorldSession.updateTimestamp
    split
    · exact ⟨rfl, rfl, rfl⟩
    · exact ⟨rfl, rfl, rfl⟩
  dsimp only
  unfold WorldSession.updateTimer
  split
  · exact stamped
  · split
    · exact stamped
    · exact stamped

/-- An update completes if and only if the dispatch of its queue does. -/
theorem update_ok_iff (game : Game) (s : WorldSession) (diff : UInt32) (now : Int) :
    (∃ out, WorldSession.update game s diff now = .ok out) ↔
      ∃ out, WorldSession.dispatchQueue game now (s.updateTimestamp.1.updateTimer diff)
        (s.updateTimestamp.1.updateTimer diff).recvQueue = .ok out := by
  constructor
  · rintro ⟨_, run⟩
    obtain ⟨out, dispatched, _⟩ := bind_eq_ok.mp run
    exact ⟨out, dispatched⟩
  · rintro ⟨out, dispatched⟩
    exact ⟨_, bind_eq_ok.mpr ⟨out, dispatched, rfl⟩⟩

/-- An update of a logged-in session gets through its queue without a failed assertion if and only
if it has no socket or every queued packet is a chain of complete messages: each opcode is followed
by what its handler takes, and what remains is empty or starts the next message. The queue and its
packets are any, read from their start. -/
theorem update_completes_iff (game : Game) (s : WorldSession) (diff : UInt32) (now : Int)
    (player : s.player = true) (fresh : ∀ p ∈ s.recvQueue, Fresh p) :
    (∃ out, WorldSession.update game s diff now = .ok out) ↔
      (s.socket = true → ∀ p ∈ s.recvQueue, CompletePacket p) := by
  obtain ⟨samePlayer, sameSocket, sameQueue⟩ := updateTimer_updateTimestamp s diff
  rw [update_ok_iff, sameQueue]
  cases socket : s.socket with
  | false =>
      have dispatched := dispatchQueue_no_socket game now s.recvQueue (sameSocket.trans socket)
      exact ⟨fun _ => nofun, fun _ => dispatched⟩
  | true =>
      rw [dispatchQueue_iff game now s.recvQueue (samePlayer.trans player)
        (sameSocket.trans socket) fresh]
      exact ⟨fun complete _ => complete, fun complete => complete rfl⟩

/-- A use of the object 5 and a keep-alive in one packet. -/
theorem update_completes_use :
    ∃ out, WorldSession.update { map := { nxzFile := none }, checksum := 0, playerExtent := 1 }
      { WorldSession.create 1 with
        player := true, status := .loggedIn
        recvQueue := [.ofPayload msgTryUse 1 0 [0x05, 0x00, msgKeepAlive]] } 1 0 = .ok out := by
  refine (update_completes_iff _ _ 1 0 rfl (by decide)).mpr fun _ => ?_
  have last : Complete 1 msgKeepAlive [] := .last rfl
  have whole : Complete 1 msgTryUse ([0x05, 0x00] ++ msgKeepAlive :: []) := .more rfl last
  simpa [CompletePacket, WorldPacket.ofPayload] using whole

/-- A use that names no object stops the server. -/
theorem update_stops_at_short_use :
    ¬ ∃ out, WorldSession.update { map := { nxzFile := none }, checksum := 0, playerExtent := 1 }
      { WorldSession.create 1 with
        player := true, status := .loggedIn
        recvQueue := [.ofPayload msgTryUse 1 0 []] } 1 0 = .ok out := by
  intro completes
  have dispatched := (update_ok_iff _ _ 1 0).mp completes
  have complete := (dispatchQueue_iff _ 0 _ rfl rfl (by decide)).mp dispatched _
    List.mem_cons_self
  have length : messageLength 1 msgTryUse [] = some 2 := rfl
  exact not_complete_of_short length (by decide) complete

end NoxServer.Session
