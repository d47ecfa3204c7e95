import NoxServer.Session.Thrown

/-!
What a turn of the dispatch loop does to a session, as far as its login goes.

Two messages are about the login: the join, which may be too short, and CLIENT_READY while the
player is loading. Every other message leaves the player, the socket and the loading flag alone,
confirms the session at most, and puts out nothing that tells players of each other. `Turned`
lists these outcomes, and `turned` says that there are no others.
-/

namespace NoxServer.Session

open ByteBuffer Consume Throws WorldSession

/-- The login of a session: its player and status, the socket and the loading flag. -/
def WorldSession.login (s : WorldSession) : Bool × SessionStatus × Bool × Bool :=
  (s.player, s.status, s.socket, s.playerLoading)

namespace Throwing

/-- The session, and what it has put out. -/
def parts (h : Handled) : WorldSession × List Output := (h.session, h.outs)

/-- The login of a session, and that its outputs are plain. -/
def surface (part : WorldSession × List Output) : (Bool × SessionStatus × Bool × Bool) × Prop :=
  (part.1.login, ∀ o ∈ part.2, PlainOutput part.1.playerLoading o)

/-! ### Reads -/

theorem leaves_reading {α : Type} (reader : Reader α) : Leaves parts (reading reader) := by
  intro h
  unfold reading
  split
  · rfl
  · rfl

theorem leaves_readEach (sizes : List Nat) : Leaves parts (readEach sizes) := by
  induction sizes with
  | nil => exact leaves_pure ()
  | cons size sizes ih => exact (leaves_reading _).bind fun _ => ih

theorem leaves_serverCmdBody (kind : UInt8) : Leaves parts (serverCmdBody kind) := by
  unfold serverCmdBody
  split
  · exact (leaves_readEach _).bind fun _ => (leaves_reading _).bind fun _ =>
      (leaves_readEach _).bind fun _ => leaves_readEach _
  · exact (leaves_readEach _).bind fun _ => (leaves_reading _).bind fun _ =>
      (leaves_readEach _).bind fun _ => leaves_readEach _
  · exact leaves_pure ()

theorem leaves_joinFields : Leaves parts joinFields :=
  (leaves_readEach _).bind fun _ => (leaves_reading _).bind fun _ =>
    (leaves_readEach _).bind fun _ => (leaves_reading _).bind fun _ =>
      (leaves_reading _).bind fun _ => (leaves_readEach _).bind fun _ => leaves_pure _

theorem leaves_nextMessage : Leaves parts nextMessage := by
  refine leaves_get.bind fun h => ?_
  dsimp only
  split
  · exact leaves_pure _
  · exact (leaves_reading _).bind fun _ => leaves_get.bind fun _ => leaves_pure _

/-! ### Plain handlers -/

/-- What is seen of the login. -/
def seen (h : Handled) : (Bool × SessionStatus × Bool × Bool) × Prop := surface (parts h)

theorem seen_reading {α : Type} (reader : Reader α) : Leaves seen (reading reader) :=
  (leaves_reading reader).comp surface

theorem seen_readEach (sizes : List Nat) : Leaves seen (readEach sizes) :=
  (leaves_readEach sizes).comp surface

/-- More plain outputs, of a session whose login is the same. -/
theorem surface_of_plain {s : WorldSession} {out : WorldSession × List Output}
    (plain : Plain s out) (outs : List Output) :
    surface (out.1, outs ++ out.2) = surface (s, outs) := by
  obtain ⟨_, _, _, _, _, session⟩ := plain.session
  have same : (∀ o ∈ outs ++ out.2, PlainOutput s.playerLoading o) =
      ∀ o ∈ outs, PlainOutput s.playerLoading o := by
    rw [List.forall_mem_append]
    exact propext ⟨And.left, fun before => ⟨before, plain.outs⟩⟩
  rw [session]
  exact congrArg (Prod.mk s.login) same

theorem seen_act {f : WorldSession → WorldSession × List Output}
    (plain : ∀ s, Plain s (f s)) : Leaves seen (act f) :=
  fun h => surface_of_plain (plain h.session) h.outs

theorem seen_change {f : WorldSession → WorldSession} (plain : ∀ s, Plain s (f s, [])) :
    Leaves seen (change f) := by
  intro h
  have same := surface_of_plain (plain h.session) h.outs
  rw [List.append_nil] at same
  exact same

theorem seen_request (r : Request) (plain : ∀ loading, PlainOutput loading (.request r)) :
    Leaves seen (request r) :=
  seen_act fun _ => ⟨⟨_, _, _, _, _, rfl⟩, List.forall_mem_singleton.mpr (plain _)⟩

theorem seen_caught {body : Throwing Unit} (leaves : Leaves seen body) :
    Leaves seen (caught body) :=
  leaves.tryCatch fun _ => leaves_pure ()

theorem seen_atOnce {handling : WorldSession → Handling} {h : Handled}
    (plain : Returns (handling h.session) (Plain h.session)) :
    seen (atOnce handling h).2 = seen h := by
  cases run : handling h.session h.packet.toByteBuffer with
  | error fault =>
      have throws : reading (handling h.session) h = (.error (), h) := by
        simp only [reading, run]
      have done : atOnce handling h = (.error (), h) :=
        (Throws.run_bind_ok rfl).trans (Throws.run_bind_error throws)
      rw [done]
  | ok out =>
      obtain ⟨out, b⟩ := out
      have read : reading (handling h.session) h = (.ok out, h.readTo b) := by
        simp only [reading, run]
      have done : atOnce handling h = act (fun _ => out) (h.readTo b) :=
        (Throws.run_bind_ok rfl).trans (Throws.run_bind_ok read)
      rw [done]
      exact surface_of_plain (plain _ out b run) h.outs

theorem seen_attackInput : Leaves seen attackInput := by
  intro h
  cases run : WorldSession.attackInput h.packet.toByteBuffer with
  | error fault =>
      have throws : reading WorldSession.attackInput h = (.error (), h) := by
        simp only [reading, run]
      rw [show attackInput h = (.error (), h) from Throws.run_bind_error throws]
  | ok out =>
      obtain ⟨requests, b⟩ := out
      have plain := attackInput_plain h.session.playerLoading _ requests b run
      have read : reading WorldSession.attackInput h = (.ok requests, h.readTo b) := by
        simp only [reading, run]
      have acted : Plain h.session (h.session, requests.map .request) :=
        ⟨⟨_, _, _, _, _, rfl⟩, List.forall_mem_map.mpr plain⟩
      rw [show attackInput h = _ from Throws.run_bind_ok read]
      exact surface_of_plain acted h.outs

theorem seen_inputAction (kind : UInt8) : Leaves seen (inputAction kind) := by
  unfold inputAction
  split
  · exact leaves_pure ()
  · exact seen_attackInput.bind fun _ => seen_readEach _
  · refine Leaves.bind ?_ fun _ => seen_readEach _
    exact seen_act fun _ => ⟨⟨_, _, _, _, _, rfl⟩, List.forall_mem_singleton.mpr trivial⟩
  · refine (seen_reading _).bind fun action => ?_
    dsimp only
    split
    · exact (seen_request .runningJump fun _ => trivial).bind fun _ => seen_readEach _
    · exact seen_readEach _
  · exact seen_reading _

/-- Only the join's handler and, while the player is loading, that of its readiness change what is
seen of the login. -/
theorem seen_handle (game : Game) (now : Int) (packetUnk : UInt8) {handler : Handler}
    (notJoin : handler ≠ .playerJoin) (h : Handled)
    (notReady : handler = .clientReady → h.session.playerLoading = false) :
    seen (handle game now packetUnk handler h).2 = seen h := by
  cases handler with
  | playerJoin => exact absurd rfl notJoin
  | playerInput =>
      refine seen_caught ((seen_reading _).bind fun kind => ?_) h
      refine (seen_inputAction kind).bind fun _ => (seen_readEach _).bind fun _ => ?_
      refine (seen_reading _).bind fun _ => Leaves.bind ?_ fun _ => seen_readEach _
      exact seen_request _ fun _ => trivial
  | mouse =>
      refine seen_caught ((seen_reading _).bind fun x => Leaves.bind ?_ fun _ => ?_) h
      · exact seen_change fun _ => ⟨⟨_, _, _, _, _, rfl⟩, nofun⟩
      · refine (seen_reading _).bind fun y => ?_
        exact seen_change fun _ => ⟨⟨_, _, _, _, _, rfl⟩, nofun⟩
  | unknown06 => exact seen_caught (seen_readEach _) h
  | important =>
      refine seen_caught ((seen_reading _).bind fun _ => ?_) h
      exact seen_act fun _ => ⟨⟨_, _, _, _, _, rfl⟩, List.forall_mem_singleton.mpr rfl⟩
  | serverCmd =>
      refine seen_caught ((seen_reading _).bind fun kind => ?_) h
      exact (leaves_serverCmdBody kind).comp surface
  | newAlias => exact seen_caught (seen_readEach _) h
  | textMessage =>
      refine seen_caught (leaves_get.bind fun _ => (seen_readEach _).bind fun _ => ?_) h
      refine (seen_reading _).bind fun _ => (seen_readEach _).bind fun _ => ?_
      refine (seen_readEach _).bind fun _ => leaves_get.bind fun _ => ?_
      exact seen_request _ fun _ => trivial
  | tryAbility =>
      refine seen_caught ((seen_reading _).bind fun _ => ?_) h
      exact seen_request _ fun _ => trivial
  | _ =>
      exact @seen_atOnce (fun s => WorldSession.handle game now s packetUnk _) h
        (handle_plain game now h.session packetUnk notJoin notReady)

/-! ### Rows -/

theorem opcodeTable_of_called {s : WorldSession} {accountid opcode : UInt8}
    {row : SessionStatus × Handler} (run : called s accountid opcode = some row) :
    opcodeTable opcode = some row := by
  unfold called at run
  split at run
  · cases run
  · split at run
    · cases run
    · next found =>
        split at run
        · cases run
          exact found
        · split at run
          · cases run
            exact found
          · cases run

/-- A handler that asks for a session that is logged in is called only with a player. -/
theorem player_of_called {s : WorldSession} {accountid opcode : UInt8}
    {row : SessionStatus × Handler} (run : called s accountid opcode = some row)
    (asked : row.1 = .loggedIn) : s.player = true := by
  unfold called at run
  split at run
  · cases run
  · split at run
    · cases run
    · split at run
      · next playing => exact playing.2
      · split at run
        · next authed =>
            cases run
            cases authed.symm.trans asked
        · cases run

/-- The row with the join's handler is the one for 0x1F. -/
theorem opcodeTable_playerJoin {opcode : UInt8} {status : SessionStatus}
    (row : opcodeTable opcode = some (status, .playerJoin)) : opcode = 0x1F := by
  have rows : ∀ row ∈ ownHandlers, row.2.2 = .playerJoin → row.1 = 0x1F := by decide
  rcases opcodeTable_cases row with own | ⟨_, skipped⟩
  · exact rows _ own rfl
  · cases skipped

/-- The handler of a player's readiness asks for a session that is logged in. -/
theorem opcodeTable_clientReady {opcode : UInt8} {status : SessionStatus}
    (row : opcodeTable opcode = some (status, .clientReady)) :
    opcode = msgClientReady ∧ status = .loggedIn := by
  have rows : ∀ row ∈ ownHandlers, row.2.2 = .clientReady →
      row.1 = msgClientReady ∧ row.2.1 = .loggedIn := by decide
  rcases opcodeTable_cases row with own | ⟨_, skipped⟩
  · exact rows _ own rfl
  · cases skipped

/-! ### Messages -/

/-- A join message runs the join's handler. -/
theorem message_join (game : Game) (now : Int) {p : WorldPacket} (join : p.opcode = 0x1F)
    (h : Handled) :
    message game now p h = handlePlayerJoinOpcode game
      { h with session := { h.session with playerRecentlyLogout := false } } := by
  have row : called h.session p.accountid p.opcode = some (.authed, .playerJoin) := by
    rw [join]
    rfl
  rw [show message game now p h = _ from Throws.run_bind_ok rfl]
  dsimp only
  rw [row, if_neg fun confirmation => absurd (join.symm.trans confirmation.1) (by decide)]
  dsimp only
  rw [if_pos rfl]
  rfl

/-- CLIENT_READY of a loading player makes it ready. -/
theorem message_ready (game : Game) (now : Int) {p : WorldPacket} {h : Handled}
    (opcode : p.opcode = msgClientReady) (player : h.session.player = true)
    (loading : h.session.playerLoading = true) :
    message game now p h =
      let s := { h.session with
        unk := p.unk + 1, playerLoading := false, timestamp := h.session.timestamp + 1 }
      (.ok (), ⟨s, h.outs ++ [s._sendPartialTimestampOpcode, .request .sendUpdatePacket,
        s._sendFadeBeginOpcode, .request .respawn, .request .sendPlayerInfo], h.packet⟩) := by
  refine message_of_complete game now p h _ _ h.packet.toByteBuffer ?_
  have row : opcodeTable msgClientReady = some (.loggedIn, .clientReady) := rfl
  have handled : h.session.handleMessage game now p.accountid p.unk p.opcode =
      h.session.handleClientReadyOpcode p.unk := by
    unfold WorldSession.handleMessage
    rw [opcode, if_neg fun confirmation => absurd confirmation.1 (by decide), row]
    exact if_pos ⟨rfl, player⟩
  dsimp only
  rw [handled]
  unfold handleClientReadyOpcode
  dsimp only
  rw [if_pos loading]
  rfl

/-- Any other message leaves what is seen of the login, and at most confirms the session. -/
theorem seen_message (game : Game) (now : Int) {p : WorldPacket} (notJoin : p.opcode ≠ 0x1F)
    {h : Handled} (notReady : p.opcode = msgClientReady → h.session.player = true →
      h.session.playerLoading = false) :
    seen (message game now p h).2 = seen h ∨
      (h.session.status = .authed ∧ seen (message game now p h).2 =
        surface ({ h.session with status := .confirmed }, h.outs)) := by
  rw [show message game now p h = _ from Throws.run_bind_ok rfl]
  dsimp only
  split
  · cases status : h.session.status with
    | authed =>
        refine .inr ⟨rfl, ?_⟩
        have plain : Plain { h.session with status := .confirmed }
            h.session.handleJoinConfirmation :=
          ⟨⟨_, _, _, _, _, rfl⟩, List.forall_mem_singleton.mpr trivial⟩
        exact surface_of_plain plain h.outs
    | confirmed => exact .inl rfl
    | loggedIn => exact .inl rfl
  · refine .inl ?_
    cases row : called h.session p.accountid p.opcode with
    | none => rfl
    | some row' =>
        obtain ⟨status, handler⟩ := row'
        have notJoin : handler ≠ .playerJoin := by
          rintro rfl
          exact notJoin (opcodeTable_playerJoin (opcodeTable_of_called row))
        have notReady : handler = .clientReady → h.session.playerLoading = false := by
          rintro rfl
          obtain ⟨opcode, rfl⟩ := opcodeTable_clientReady (opcodeTable_of_called row)
          exact notReady opcode (player_of_called row rfl)
        dsimp only
        split
        · exact seen_handle game now p.unk notJoin
            { h with session := { h.session with playerRecentlyLogout := false } } notReady
        · exact seen_handle game now p.unk notJoin h notReady

end Throwing

/-! ### Turns -/

/-- What a turn with a message comes to: the session, and what it has put out. -/
inductive Turned (game : Game) (s : WorldSession) (p : WorldPacket) :
    WorldSession → List Output → Prop
  | plain {s' : WorldSession} {outs : List Output} (notJoin : p.opcode ≠ 0x1F)
      (player : s'.player = s.player)
      (status : s'.status = s.status ∨ s.status = .authed ∧ s'.status = .confirmed)
      (socket : s'.socket = s.socket) (loading : s'.playerLoading = s.playerLoading)
      (outputs : ∀ o ∈ outs, PlainOutput s.playerLoading o) : Turned game s p s' outs
  | join {s' : WorldSession} {outs : List Output} (info username unk1 : List UInt8)
      (join : p.opcode = 0x1F) (complete : p.rpos + 154 ≤ p.size)
      (joined : (s', outs) = joinPlayer game
        { s with player := true, playerRecentlyLogout := false } info username unk1) :
      Turned game s p s' outs
  /-- The player is there, and nothing else has been done. -/
  | shortJoin (join : p.opcode = 0x1F) (short : ¬p.rpos + 154 ≤ p.size) :
      Turned game s p { s with player := true, playerRecentlyLogout := false } []
  | ready {s' : WorldSession} {outs : List Output} (opcode : p.opcode = msgClientReady)
      (player : s.player = true) (loading : s.playerLoading = true)
      (session : s' = { s with
        unk := p.unk + 1, playerLoading := false, timestamp := s.timestamp + 1 })
      (outputs : outs = [s'._sendPartialTimestampOpcode, .request .sendUpdatePacket,
        s'._sendFadeBeginOpcode, .request .respawn, .request .sendPlayerInfo]) :
      Turned game s p s' outs

/-- After a turn the session and its outputs are those after its message. -/
theorem turn_parts (game : Game) (now : Int) (s : WorldSession) (p : WorldPacket) :
    ((s.turn game now p).1, (s.turn game now p).2.1) =
      Throwing.parts (Throwing.message game now p ⟨s, [], p⟩).2 := by
  rw [← Throws.seen_bind fun _ => Throwing.leaves_nextMessage]
  unfold WorldSession.turn
  split
  · next run => rw [run]; rfl
  · next run => rw [run]; rfl

open Throwing in
theorem turned_plain {game : Game} {s s' : WorldSession} {outs : List Output} {p : WorldPacket}
    (notJoin : p.opcode ≠ 0x1F)
    (seen : surface (s', outs) = surface (s, []) ∨
      (s.status = .authed ∧ surface (s', outs) = surface ({ s with status := .confirmed }, []))) :
    Turned game s p s' outs := by
  have outputs {loading : Bool} (same : (∀ o ∈ outs, PlainOutput loading o) =
      ∀ o ∈ ([] : List Output), PlainOutput s.playerLoading o) :
      ∀ o ∈ outs, PlainOutput loading o := same.mpr nofun
  rcases seen with same | ⟨authed, same⟩
  · obtain ⟨player, status, socket, loading, plain⟩ := by
      simpa only [surface, WorldSession.login, Prod.mk.injEq, and_assoc] using same
    exact .plain notJoin player (.inl status) socket loading (loading ▸ outputs plain)
  · obtain ⟨player, status, socket, loading, plain⟩ := by
      simpa only [surface, WorldSession.login, Prod.mk.injEq, and_assoc] using same
    exact .plain notJoin player (.inr ⟨authed, status⟩) socket loading (loading ▸ outputs plain)

open Throwing in
/-- The join's handler reads a complete message or stops with the player. -/
theorem turned_join (game : Game) {s : WorldSession} {p : WorldPacket} (join : p.opcode = 0x1F)
    {last : Handled} (run : last = (handlePlayerJoinOpcode game
      ⟨{ s with playerRecentlyLogout := false }, [], p⟩).2) :
    Turned game s p last.session last.outs := by
  let start : Handled := ⟨{ s with playerRecentlyLogout := false }, [], p⟩
  by_cases complete : p.rpos + 154 ≤ p.size
  · obtain ⟨⟨⟨info, username, unk1⟩, b⟩, read⟩ :=
      (joinReads_isOk_iff p.toByteBuffer).mpr complete
    have fields : joinFields (joining start) =
        (.ok (info, username, unk1), (joining start).readTo b) := joinFields_follows.of_ok read
    rw [run, handlePlayerJoinOpcode_of_fields game fields]
    exact .join info username unk1 join complete rfl
  · have follows := joinFields_follows (joining start)
    cases read : joinReads p.toByteBuffer with
    | ok out => exact absurd ((joinReads_isOk_iff _).mp ⟨out, read⟩) complete
    | error fault =>
        rw [show joinReads (joining start).packet.toByteBuffer = _ from read] at follows
        obtain ⟨h', short⟩ := follows
        have untouched := leaves_joinFields (joining start)
        rw [short] at untouched
        obtain ⟨session, outs⟩ := Prod.mk.inj untouched
        rw [run, handlePlayerJoinOpcode_of_short game short, session, outs]
        exact .shortJoin join complete

/-- A turn comes to one of these. -/
theorem turned (game : Game) (now : Int) (s : WorldSession) (p : WorldPacket) :
    Turned game s p (s.turn game now p).1 (s.turn game now p).2.1 := by
  obtain ⟨session, outs⟩ := Prod.mk.inj (turn_parts game now s p)
  rw [session, outs]
  by_cases join : p.opcode = 0x1F
  · exact turned_join game join (congrArg Prod.snd (Throwing.message_join game now join ⟨s, [], p⟩))
  · by_cases ready : p.opcode = msgClientReady → s.player = true → s.playerLoading = false
    · exact turned_plain join (Throwing.seen_message game now join ready)
    · obtain ⟨opcode, player, loading⟩ : p.opcode = msgClientReady ∧ s.player = true ∧
          s.playerLoading = true := by simpa using ready
      rw [Throwing.message_ready game now opcode player loading]
      exact .ready opcode player loading rfl rfl

end NoxServer.Session
