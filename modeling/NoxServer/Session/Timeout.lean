import NoxServer.Library.Runs
import NoxServer.Session.Login

/-!
The timeout of a session (`WorldSession::Update`).

The connection timer is set back by packets, and when it runs out a logout is requested, which waits
while the player is loading. Packets do not take the request back: a client that is silent for too
long while it loads is logged out when it says that it is ready. Otherwise a session is timed out
after it has been silent (`timed_out_by_silence`).
-/

namespace NoxServer.Session

open ByteBuffer Consume Runs

namespace WorldSession

def isLoggingOut (s : WorldSession) : Bool := s.logoutTime ≠ 0

/-- The dispatch of a packet comes to a message with the opcode. -/
inductive ComesTo (game : Game) (now : Int) (message : UInt8) : WorldSession → WorldPacket → Prop
  | here {s : WorldSession} {p : WorldPacket} : p.opcode = message → ComesTo game now message s p
  | later {s s' : WorldSession} {p : WorldPacket} {outs : List Output} {b b' : ByteBuffer}
      {opcode : UInt8} :
      handleMessage game now s p.accountid p.unk p.opcode p.toByteBuffer = .ok ((s', outs), b) →
      b.rpos ≠ b.size → readUInt8 b = .ok (opcode, b') →
      ComesTo game now message s' { p with toByteBuffer := b', opcode := opcode } →
      ComesTo game now message s p

/-- The dispatch of the queue comes to a message with the opcode. -/
def QueueComesTo (game : Game) (now : Int) (message : UInt8) :
    WorldSession → List WorldPacket → Prop
  | _, [] => False
  | s, p :: queue =>
      ComesTo game now message s p ∨
        ∃ out, dispatchPacket game now s p = .ok out ∧ QueueComesTo game now message out.1 queue

/-- An update dispatches a message with the opcode. -/
def Dispatches (game : Game) (s : WorldSession) (diff : UInt32) (now : Int) (message : UInt8) :
    Prop :=
  QueueComesTo game now message (s.updateTimestamp.1.updateTimer diff) s.recvQueue

end WorldSession

/-! ### Runs -/

/-- The milliseconds that updates were given, in all of those since and including the last one that
found a packet, and in those after it. -/
structure Silence where
  sincePacket : Nat := 0
  withoutPacket : Nat := 0
  deriving DecidableEq

def Silence.after (silence : Silence) (found : Bool) (diff : UInt32) : Silence :=
  if found then ⟨diff.toNat, 0⟩
  else ⟨silence.sincePacket + diff.toNat, silence.withoutPacket + diff.toNat⟩

/-- A session, and how long it has been silent. -/
structure Watched where
  session : WorldSession
  silence : Silence := {}

namespace Watched

/-- What happens to a session: a packet is queued, or it is updated. -/
inductive Event where
  | queuePacket (packet : WorldPacket)
  | update (game : Game) (diff : UInt32) (now : Int)

/-- An update is made of a session with a socket, at a time after that from which it is counted, and
finds no packet with which the client quits. -/
def Step (x : Watched) (e : Event) (y : Watched) : Prop :=
  match e with
  | .queuePacket packet => y = { x with session := x.session.queuePacket packet }
  | .update game diff now =>
      x.session.socket = true ∧ 0 < now ∧
        ¬ x.session.Dispatches game diff now msgOutgoingClient ∧
        y.silence = x.silence.after (x.session.recvQueue ≠ []) diff ∧
        ∃ outs kept, WorldSession.update game x.session diff now = .ok (y.session, outs, kept)

/-- A session that has been created. -/
def create (id : UInt32) : Watched := { session := WorldSession.create id }

/-- The client does not say that it is ready to a session whose logout is requested, unless the
update is itself too late. -/
def Punctual (x : Watched) : Event → Prop
  | .update game diff now =>
      x.session.isLoggingOut = true → diff ≤ timeoutMs →
        ¬ x.session.Dispatches game diff now msgClientReady
  | _ => True

end Watched

namespace WorldSession

/-! ### What the messages do to the request and to the loading -/

/-- The request stays unless the client quits, and the loading goes on unless it is ready. -/
structure Holds (quit ready : Prop) (s s' : WorldSession) : Prop where
  logoutTime : ¬ quit → s'.logoutTime = s.logoutTime
  loading : ¬ ready → s.playerLoading = true → s'.playerLoading = true

namespace Holds

variable {quit quit' ready ready' : Prop} {s s' s'' : WorldSession}

theorem refl (s : WorldSession) : Holds quit ready s s := ⟨fun _ => rfl, fun _ => id⟩

theorem mono (holds : Holds quit ready s s') (quits : quit → quit') (readies : ready → ready') :
    Holds quit' ready' s s' where
  logoutTime none := holds.logoutTime (mt quits none)
  loading none := holds.loading (mt readies none)

theorem trans (first : Holds quit ready s s') (second : Holds quit ready s' s'') :
    Holds quit ready s s'' where
  logoutTime none := (second.logoutTime none).trans (first.logoutTime none)
  loading none := second.loading none ∘ first.loading none

end Holds

/-- Only the client's quit is a request to log out. -/
theorem handle_logoutTime (game : Game) (now : Int) (s : WorldSession) (packetUnk : UInt8)
    {h : Handler} (notQuit : h ≠ .outgoingClient) :
    Returns (handle game now s packetUnk h) fun out => out.1.logoutTime = s.logoutTime := by
  have same (outs : List Output) : Returns (pure (s, outs) : Handling)
      fun out => out.1.logoutTime = s.logoutTime := returns_pure rfl
  have ignored (sizes : List Nat) : Returns (s.ignoreFields sizes)
      fun out => out.1.logoutTime = s.logoutTime := returns_bind fun _ => same _
  have extent (request : UInt16 → Request) : Returns (s.withExtent request)
      fun out => out.1.logoutTime = s.logoutTime := returns_bind fun _ => same _
  cases h with
  | outgoingClient => exact absurd rfl notQuit
  | playerJoin =>
      exact returns_bind fun _ => returns_bind fun _ => returns_bind fun _ =>
        returns_bind fun _ => returns_bind fun _ => returns_bind fun _ => returns_pure rfl
  | needTimestamp => exact same _
  | playerInput =>
      refine returns_bind fun kind => returns_bind fun _ => ?_
      exact returns_bind fun _ => returns_bind fun _ => returns_bind fun _ => same _
  | tryDrop => exact returns_bind fun _ => returns_bind fun _ => returns_bind fun _ => same _
  | tryGet => exact extent _
  | tryUse => exact extent _
  | tryEquip => exact extent _
  | tryDequip => exact extent _
  | reportSecondaryWeapon => exact extent _
  | trySpell => exact returns_bind fun _ => returns_bind fun _ => returns_bind fun _ => same _
  | tryAbility => exact returns_bind fun _ => same _
  | textMessage =>
      exact returns_bind fun _ => returns_bind fun _ => returns_bind fun _ =>
        returns_bind fun _ => returns_bind fun _ => returns_bind fun _ => same _
  | important => exact returns_bind fun _ => same _
  | mouse => exact returns_bind fun _ => returns_bind fun _ => returns_pure rfl
  | requestMap =>
      refine returns_pure ?_
      unfold _sendMapSendStart
      split
      · rfl
      · rfl
  | serverCmd => exact returns_bind fun _ => returns_bind fun _ => same _
  | sysopPw => exact returns_bind fun _ => same _
  | receivedMap => exact returns_pure rfl
  | clientReady =>
      unfold handle handleClientReadyOpcode
      dsimp only
      split
      · exact returns_pure rfl
      · exact returns_pure rfl
  | xferMsg => exact returns_bind fun _ => returns_bind fun _ => same _
  | vote => exact returns_bind fun _ => returns_bind fun _ => same _
  | teamMsg => exact returns_bind fun _ => returns_bind fun _ => same _
  | newUnknown => exact returns_bind fun _ => same _
  | _ => exact ignored _

/-- A player that is loading is so until the client says that it is ready. -/
theorem handle_loading (game : Game) (now : Int) {s : WorldSession} (packetUnk : UInt8)
    {h : Handler} (notReady : h ≠ .clientReady) (loading : s.playerLoading = true) :
    Returns (handle game now s packetUnk h) fun out => out.1.playerLoading = true := by
  by_cases join : h = .playerJoin
  · subst join
    exact returns_bind fun _ => returns_bind fun _ => returns_bind fun _ =>
      returns_bind fun _ => returns_bind fun _ => returns_bind fun _ => returns_pure rfl
  · intro b out b' run
    have plain := handle_plain game now s packetUnk join (fun is => absurd is notReady) b out b' run
    obtain ⟨_, _, _, _, _, session⟩ := plain.session
    rw [session]
    exact loading

/-- The rows of the table with these two handlers. -/
theorem opcodeTable_handlers {opcode : UInt8} {status : SessionStatus} {h : Handler}
    (row : opcodeTable opcode = some (status, h)) :
    (h = .outgoingClient → opcode = msgOutgoingClient) ∧
      (h = .clientReady → opcode = msgClientReady) := by
  have rows : ∀ row ∈ ownHandlers, (row.2.2 = .outgoingClient → row.1 = msgOutgoingClient) ∧
      (row.2.2 = .clientReady → row.1 = msgClientReady) := by decide
  rcases opcodeTable_cases row with own | ⟨-, rfl⟩
  · exact rows _ own
  · exact ⟨nofun, nofun⟩

/-- A message asks for the logout only if it is that of a client that quits, and takes the player
out of loading only if it is that of a client that is ready. -/
theorem handleMessage_holds (game : Game) (now : Int) (s : WorldSession)
    (accountid packetUnk message : UInt8) :
    Returns (handleMessage game now s accountid packetUnk message)
      fun out => Holds (message = msgOutgoingClient) (message = msgClientReady) s out.1 := by
  have handled (s : WorldSession) {status : SessionStatus} {h : Handler}
      (row : opcodeTable message = some (status, h)) :
      Returns (handle game now s packetUnk h)
        fun out => Holds (message = msgOutgoingClient) (message = msgClientReady) s out.1 := by
    obtain ⟨quit, ready⟩ := opcodeTable_handlers row
    intro b out b' run
    refine ⟨fun other => ?_, fun other loading => ?_⟩
    · exact handle_logoutTime game now s packetUnk (fun is => other (quit is)) b out b' run
    · exact handle_loading game now packetUnk (fun is => other (ready is)) loading b out b' run
  unfold handleMessage
  split
  · split
    · exact returns_pure ⟨fun _ => rfl, fun _ => id⟩
    · exact returns_pure (.refl s)
  · split
    · exact returns_pure (.refl s)
    · next status h row =>
        split
        · exact handled s row
        · split
          · intro b out b' run
            obtain ⟨logoutTime, loading⟩ := handled _ row b out b' run
            exact ⟨logoutTime, loading⟩
          · exact returns_pure (.refl s)

/-- A packet asks for the logout only if a message in it does, and likewise for the end of the
loading. -/
theorem dispatchPacket_holds (game : Game) (now : Int) (s : WorldSession) (p : WorldPacket) :
    ∀ out, dispatchPacket game now s p = .ok out →
      Holds (ComesTo game now msgOutgoingClient s p) (ComesTo game now msgClientReady s p) s
        out.1 := by
  fun_induction dispatchPacket game now s p with
  | case1 =>
      intro out run
      cases run
  | case2 s p s' outs b message =>
      rintro _ ⟨⟩
      have first := handleMessage_holds game now s p.accountid p.unk p.opcode _ _ b message
      exact first.mono .here .here
  | case3 =>
      intro out run
      cases run
  | case4 s p s' outs b message notEnd opcode b' next _ ih =>
      intro out run
      obtain ⟨later, rest, ends⟩ := bind_eq_ok.mp run
      cases ends
      have first := handleMessage_holds game now s p.accountid p.unk p.opcode _ _ b message
      have second := ih later rest
      exact (first.mono .here .here).trans
        (second.mono (.later message notEnd next) (.later message notEnd next))
  | case5 s p s' outs b message =>
      rintro _ ⟨⟩
      have first := handleMessage_holds game now s p.accountid p.unk p.opcode _ _ b message
      exact first.mono .here .here

/-- The packets of an update ask for the logout only if one of them does, and likewise for the end
of the loading; they leave the timer as it is. -/
theorem dispatchQueue_holds {game : Game} {now : Int} {queue : List WorldPacket}
    {s : WorldSession} {out : WorldSession × List Output} (socket : s.socket = true)
    (run : dispatchQueue game now s queue = .ok out) :
    Holds (QueueComesTo game now msgOutgoingClient s queue)
      (QueueComesTo game now msgClientReady s queue) s out.1 ∧
    out.1.socket = true ∧ out.1.connTimer = s.connTimer ∧ out.1.recvQueue = [] := by
  induction queue generalizing s out with
  | nil =>
      cases run
      exact ⟨⟨fun _ => rfl, fun _ => id⟩, socket, rfl, rfl⟩
  | cons p queue ih =>
      rw [dispatchQueue, if_pos socket] at run
      obtain ⟨first, packet, run⟩ := bind_eq_ok.mp run
      obtain ⟨rest, later, ends⟩ := bind_eq_ok.mp run
      cases ends
      have kept := dispatchPacket_keeps game now s p first packet
      have holds := dispatchPacket_holds game now s p first packet
      obtain ⟨holds', socket', connTimer, recvQueue⟩ := ih (kept.socket.trans socket) later
      refine ⟨?_, socket', connTimer.trans kept.connTimer, recvQueue⟩
      exact (holds.mono .inl .inl).trans
        (holds'.mono (fun comes => .inr ⟨_, packet, comes⟩) fun comes => .inr ⟨_, packet, comes⟩)

/-- Without packets nothing is dispatched. -/
theorem dispatchQueue_nil_loading {game : Game} {now : Int} {s : WorldSession}
    {out : WorldSession × List Output} (run : dispatchQueue game now s [] = .ok out) :
    out.1.playerLoading = s.playerLoading := by
  cases run
  rfl

/-! ### What an update does to the timer, the request and the loading -/

theorem updateTimestamp_same (s : WorldSession) :
    ∃ timestamp, s.updateTimestamp.1 = { s with timestamp := timestamp } := by
  unfold updateTimestamp
  split
  · exact ⟨_, rfl⟩
  · exact ⟨_, rfl⟩

theorem mapUpdate_same (s : WorldSession) (m : NoxMap) :
    (s.mapUpdate m).1.socket = s.socket ∧ (s.mapUpdate m).1.connTimer = s.connTimer ∧
      (s.mapUpdate m).1.logoutTime = s.logoutTime ∧
      (s.mapUpdate m).1.playerLoading = s.playerLoading ∧
      (s.mapUpdate m).1.recvQueue = s.recvQueue := by
  unfold mapUpdate
  split
  · exact ⟨rfl, rfl, rfl, rfl, rfl⟩
  · exact ⟨rfl, rfl, rfl, rfl, rfl⟩

/-- An update of a session with a socket: the session is logged out if a request is due and it is
not loading, after the packets. -/
theorem update_spec {game : Game} {s s' : WorldSession} {diff : UInt32} {now : Int}
    {outs : List Output} {kept : Bool} (socket : s.socket = true)
    (noQuit : ¬ s.Dispatches game diff now msgOutgoingClient)
    (updated : update game s diff now = .ok (s', outs, kept)) :
    s'.socket = kept ∧ s'.connTimer = (s.updateTimer diff).connTimer ∧
      s'.logoutTime = (s.updateTimer diff).logoutTime ∧
      kept = !((s.updateTimer diff).shouldLogOut now && !s'.playerLoading) ∧
      (s.recvQueue = [] → s'.playerLoading = s.playerLoading) ∧
      (¬ s.Dispatches game diff now msgClientReady → s.playerLoading = true →
        s'.playerLoading = true) := by
  obtain ⟨dispatched, run, ends⟩ := bind_eq_ok.mp updated
  obtain ⟨timestamp, stamped⟩ := s.updateTimestamp_same
  have timer : s.updateTimestamp.1.updateTimer diff =
      { s.updateTimer diff with timestamp := timestamp } := by
    rw [stamped]
    unfold updateTimer
    dsimp only
    split
    · rfl
    · split
      · rfl
      · rfl
  have queue : (s.updateTimer diff).recvQueue = s.recvQueue ∧
      (s.updateTimer diff).socket = s.socket ∧
      (s.updateTimer diff).playerLoading = s.playerLoading := by
    unfold updateTimer
    split
    · exact ⟨rfl, rfl, rfl⟩
    · split
      · exact ⟨rfl, rfl, rfl⟩
      · exact ⟨rfl, rfl, rfl⟩
  obtain ⟨queue, sameSocket, sameLoading⟩ := queue
  have run : dispatchQueue game now { s.updateTimer diff with timestamp := timestamp } s.recvQueue =
      .ok dispatched := by
    rw [← timer, ← queue, show (s.updateTimer diff).recvQueue =
      (s.updateTimestamp.1.updateTimer diff).recvQueue by rw [timer]]
    exact run
  unfold Dispatches at noQuit ⊢
  rw [timer] at noQuit ⊢
  have started : { s.updateTimer diff with timestamp := timestamp }.socket = true :=
    sameSocket.trans socket
  obtain ⟨holds, socket', connTimer, -⟩ := dispatchQueue_holds started run
  obtain ⟨mapSocket, mapTimer, mapLogout, mapLoading, -⟩ := dispatched.1.mapUpdate_same game.map
  let t := (dispatched.1.mapUpdate game.map).1
  have logoutTime : t.logoutTime = (s.updateTimer diff).logoutTime :=
    mapLogout.trans (holds.logoutTime noQuit)
  have due : t.shouldLogOut now = (s.updateTimer diff).shouldLogOut now := by
    rw [shouldLogOut, shouldLogOut, logoutTime]
  have loading : (t.updateLogout now).playerLoading = t.playerLoading ∧
      (t.updateLogout now).connTimer = t.connTimer ∧
      (t.updateLogout now).logoutTime = t.logoutTime := by
    unfold updateLogout
    split
    · exact ⟨rfl, rfl, rfl⟩
    · exact ⟨rfl, rfl, rfl⟩
  obtain ⟨loading, sameTimer, sameLogout⟩ := loading
  have ends : s' = t.updateLogout now ∧ kept = (t.updateLogout now).socket := by
    cases ends
    exact ⟨rfl, rfl⟩
  obtain ⟨rfl, rfl⟩ := ends
  refine ⟨rfl, ?_, ?_, ?_, ?_, ?_⟩
  · exact sameTimer.trans (mapTimer.trans connTimer)
  · exact sameLogout.trans logoutTime
  · rw [loading, ← due]
    unfold updateLogout
    rw [show t.socket = true from mapSocket.trans socket', Bool.not_true, Bool.false_or]
    split
    · next out => rw [out]; rfl
    · next stays =>
        rw [Bool.not_eq_true] at stays
        rw [stays]
        exact mapSocket.trans socket'
  · intro empty
    rw [empty] at run
    rw [loading]
    exact mapLoading.trans ((dispatchQueue_nil_loading run).trans sameLoading)
  · intro notReady wasLoading
    rw [loading]
    exact mapLoading.trans (holds.loading notReady (sameLoading.trans wasLoading))

/-- The timer: set back, run out, or gone on. -/
theorem updateTimer_cases (s : WorldSession) (diff : UInt32) :
    let t := s.updateTimer diff
    (s.recvQueue ≠ [] ∧ t.connTimer = timeoutMs ∧ t.logoutTime = s.logoutTime) ∨
    ((s.recvQueue ≠ [] → timeoutMs ≤ s.connTimer) ∧ s.connTimer.toNat < diff.toNat ∧
      t.connTimer = s.connTimer ∧ t.logoutTime = 1) ∨
    ((s.recvQueue ≠ [] → timeoutMs ≤ s.connTimer) ∧
      t.connTimer.toNat + diff.toNat = s.connTimer.toNat ∧ t.logoutTime = s.logoutTime) := by
  have full (kept : ¬ (s.recvQueue ≠ [] ∧ s.connTimer < timeoutMs)) (found : s.recvQueue ≠ []) :
      timeoutMs ≤ s.connTimer := UInt32.not_lt.mp fun less => kept ⟨found, less⟩
  dsimp only
  unfold updateTimer
  split
  · next packets => exact .inl ⟨packets.1, rfl, rfl⟩
  · next kept =>
      split
      · next out => exact .inr (.inl ⟨full kept, UInt32.lt_iff_toNat_lt.mp out, rfl, rfl⟩)
      · next room =>
          have enough : diff ≤ s.connTimer := UInt32.not_lt.mp room
          have less : (s.connTimer - diff).toNat = s.connTimer.toNat - diff.toNat :=
            UInt32.toNat_sub_of_le _ _ enough
          have enough := UInt32.le_iff_toNat_le.mp enough
          refine .inr (.inr ⟨full kept, ?_, rfl⟩)
          dsimp only
          omega

end WorldSession

namespace Watched

/-! ### Steps -/

/-- A live session that is not to log out has used up of its time what passed since the last packet
was found, or less, and at least what passed without one; a session that is to log out is
loading. -/
def Timed (x : Watched) : Prop :=
  x.session.socket = true → x.session.connTimer.toNat ≤ timeoutMs.toNat ∧
    ((x.session.logoutTime = 0 ∧
        timeoutMs.toNat ≤ x.session.connTimer.toNat + x.silence.sincePacket ∧
        x.session.connTimer.toNat + x.silence.withoutPacket ≤ timeoutMs.toNat) ∨
      (x.session.logoutTime = 1 ∧ x.session.playerLoading = true))

theorem timed_create (id : UInt32) : Timed (create id) :=
  fun _ => ⟨Nat.le_refl _, .inl ⟨rfl, Nat.le_refl _, Nat.le_refl _⟩⟩

/-- What is claimed of an update that ends with a session, which it keeps or not. -/
structure Just (silence : Silence) (loading kept : Bool) : Prop where
  spared : silence.sincePacket ≤ timeoutMs.toNat → kept = true
  ended : loading = false → timeoutMs.toNat < silence.withoutPacket → kept = false

/-- A session that is to log out is kept while it is loading, which is just if it loads after a
short silence and not after a long one. -/
theorem Timed.requested {y : Watched} {loading : Bool}
    (full : y.session.connTimer.toNat ≤ timeoutMs.toNat) (requested : y.session.logoutTime = 1)
    (waits : y.session.socket = y.session.playerLoading)
    (short : y.silence.sincePacket ≤ timeoutMs.toNat → y.session.playerLoading = true)
    (long : loading = false → timeoutMs.toNat < y.silence.withoutPacket →
      y.session.playerLoading = false) :
    Timed y ∧ Just y.silence loading y.session.socket :=
  ⟨fun live => ⟨full, .inr ⟨requested, waits.symm.trans live⟩⟩,
    fun few => waits.trans (short few), fun off many => waits.trans (long off many)⟩

/-- A session that is not to log out is kept, which is just while the timer has not run out. -/
theorem Timed.unrequested {y : Watched} {loading : Bool}
    (full : y.session.connTimer.toNat ≤ timeoutMs.toNat) (none : y.session.logoutTime = 0)
    (stays : y.session.socket = true)
    (enough : timeoutMs.toNat ≤ y.session.connTimer.toNat + y.silence.sincePacket)
    (within : y.session.connTimer.toNat + y.silence.withoutPacket ≤ timeoutMs.toNat) :
    Timed y ∧ Just y.silence loading y.session.socket := by
  refine ⟨fun _ => ⟨full, .inl ⟨none, enough, within⟩⟩, fun _ => stays, fun _ long => ?_⟩
  omega

/-- An update of a session that is timed is just, and leaves it timed. -/
theorem Timed.update {x y : Watched} (timed : Timed x) {game : Game} {diff : UInt32} {now : Int}
    (punctual : Punctual x (.update game diff now)) (step : Step x (.update game diff now) y) :
    Timed y ∧ Just y.silence x.session.playerLoading y.session.socket := by
  obtain ⟨socket, clock, noQuit, silence, outs, kept, updated⟩ := step
  obtain ⟨full, state⟩ := timed socket
  obtain ⟨keeps, connTimer, logoutTime, isKept, quiet, notReady⟩ :=
    WorldSession.update_spec socket noQuit updated
  -- a session that is to log out stays if it is loading after the packets, any other stays
  have waits (requested : y.session.logoutTime = 1) :
      y.session.socket = y.session.playerLoading := by
    rw [logoutTime] at requested
    have due : (x.session.updateTimer diff).shouldLogOut now = true := by
      simp only [WorldSession.shouldLogOut, requested, Bool.and_eq_true, decide_eq_true_eq]
      omega
    rw [keeps, isKept, due]
    simp
  have stays (none : y.session.logoutTime = 0) : y.session.socket = true := by
    rw [logoutTime] at none
    have due : (x.session.updateTimer diff).shouldLogOut now = false := by
      simp [WorldSession.shouldLogOut, none]
    rw [keeps, isKept, due]
    rfl
  have timer := x.session.updateTimer_cases diff
  dsimp only at timer
  rw [← connTimer, ← logoutTime] at timer
  by_cases empty : x.session.recvQueue = []
  · have loading := quiet empty
    have sincePacket : y.silence.sincePacket = x.silence.sincePacket + diff.toNat := by
      simp [silence, empty, Silence.after]
    have withoutPacket : y.silence.withoutPacket = x.silence.withoutPacket + diff.toNat := by
      simp [silence, empty, Silence.after]
    rcases timer with ⟨found, -⟩ | ⟨-, out, conn, requested⟩ | ⟨-, left, same⟩
    · exact absurd empty found
    · refine Timed.requested (conn ▸ full) requested (waits requested) (fun short => ?_)
        fun off _ => loading.trans off
      rcases state with ⟨-, enough, -⟩ | ⟨-, wasLoading⟩
      · omega
      · exact loading.trans wasLoading
    · rcases state with ⟨none, enough, within⟩ | ⟨requested, wasLoading⟩
      · have none := same.trans none
        exact Timed.unrequested (by omega) none (stays none) (by omega) (by omega)
      · have requested := same.trans requested
        exact Timed.requested (by omega) requested (waits requested)
          (fun _ => loading.trans wasLoading) fun off _ => loading.trans off
  · have sincePacket : y.silence.sincePacket = diff.toNat := by
      simp [silence, empty, Silence.after]
    have withoutPacket : y.silence.withoutPacket = 0 := by
      simp [silence, empty, Silence.after]
    -- the packets of a session that is to log out do not make it ready
    have goesOn (requested : x.session.logoutTime = 1) (wasLoading : x.session.playerLoading = true)
        (short : y.silence.sincePacket ≤ timeoutMs.toNat) : y.session.playerLoading = true := by
      have short := sincePacket ▸ short
      refine notReady (punctual ?_ (UInt32.le_iff_toNat_le.mpr short)) wasLoading
      simp [WorldSession.isLoggingOut, requested]
    rcases timer with ⟨-, set, same⟩ | ⟨early, out, conn, requested⟩ | ⟨early, left, same⟩
    · have conn : y.session.connTimer.toNat = timeoutMs.toNat := congrArg UInt32.toNat set
      rcases state with ⟨none, -, -⟩ | ⟨requested, wasLoading⟩
      · have none := same.trans none
        exact Timed.unrequested conn.le none (stays none) (by omega) (by omega)
      · have asked := same.trans requested
        exact Timed.requested conn.le asked (waits asked) (goesOn requested wasLoading)
          fun _ long => by omega
    · have late := UInt32.le_iff_toNat_le.mp (early empty)
      exact Timed.requested (conn ▸ full) requested (waits requested) (fun short => by omega)
        fun _ long => by omega
    · have late := UInt32.le_iff_toNat_le.mp (early empty)
      rcases state with ⟨none, -, -⟩ | ⟨requested, wasLoading⟩
      · have none := same.trans none
        exact Timed.unrequested (by omega) none (stays none) (by omega) (by omega)
      · have asked := same.trans requested
        exact Timed.requested (by omega) asked (waits asked) (goesOn requested wasLoading)
          fun _ long => by omega

/-- In a run whose clients are punctual, an update keeps a session if no more than the limit has
passed since the last packet was found, and gives one that is not loading up if more has passed
without a packet. -/
theorem timed_out_by_silence {id : UInt32} {events : List Event} {x : Watched}
    (run : Run (guarded Punctual Step) (create id) events x) (socket : x.session.socket = true)
    {game : Game} {diff : UInt32} {now : Int} (clock : 0 < now)
    (noQuit : ¬ x.session.Dispatches game diff now msgOutgoingClient)
    (punctual : Punctual x (.update game diff now)) {s : WorldSession} {outs : List Output}
    {kept : Bool} (updated : WorldSession.update game x.session diff now = .ok (s, outs, kept)) :
    let silence := x.silence.after (x.session.recvQueue ≠ []) diff
    (silence.sincePacket ≤ timeoutMs.toNat → kept = true) ∧
      (x.session.playerLoading = false → timeoutMs.toNat < silence.withoutPacket →
        kept = false) := by
  intro silence
  have timed : Timed x := by
    refine run.invariant (fun x e y timed step => ?_) (timed_create id)
    obtain ⟨punctual, step⟩ := step
    cases e with
    | queuePacket packet =>
        cases step
        exact timed
    | update game diff now => exact (timed.update punctual step).1
  have step : Step x (.update game diff now) ⟨s, silence⟩ :=
    ⟨socket, clock, noQuit, rfl, outs, kept, updated⟩
  obtain ⟨-, spared, ended⟩ := timed.update punctual step
  obtain ⟨keeps, -⟩ := WorldSession.update_spec socket noQuit updated
  rw [show (Watched.mk s silence).session.socket = kept from keeps] at spared ended
  exact ⟨spared, ended⟩

/-- A session that has been silent for 20 seconds is timed out when that is 40. -/
theorem timed_out_by_silence_forty : ∃ x s outs kept,
    Run (guarded Punctual Step) (create 7) [.update noMap 20000 1] x ∧
    WorldSession.update noMap x.session 20000 1 = .ok (s, outs, kept) ∧
    let silence := x.silence.after (x.session.recvQueue ≠ []) 20000
    (silence.sincePacket ≤ timeoutMs.toNat → kept = true) ∧
      (x.session.playerLoading = false → timeoutMs.toNat < silence.withoutPacket →
        kept = false) := by
  let x : Watched :=
    { session := { WorldSession.create 7 with connTimer := 10000 }
      silence := { sincePacket := 20000, withoutPacket := 20000 } }
  have first : guarded Punctual Step (create 7) (.update noMap 20000 1) x :=
    ⟨fun _ _ => id, rfl, by decide, id, rfl, _, _, rfl⟩
  have run := Run.single first
  obtain ⟨s, outs, kept, updated⟩ : ∃ s outs kept,
      WorldSession.update noMap x.session 20000 1 = .ok (s, outs, kept) := ⟨_, _, _, rfl⟩
  exact ⟨x, s, outs, kept, run, updated,
    timed_out_by_silence run rfl (by decide) id (fun _ _ => id) updated⟩

/-! ### A client that loads for too long -/

/-- A packet of one message, which the handler reads to its end. -/
theorem comesTo_iff_of_atEnd {game : Game} {now : Int} {s s' : WorldSession} {p : WorldPacket}
    {outs : List Output} {b : ByteBuffer} {message : UInt8}
    (handled : WorldSession.handleMessage game now s p.accountid p.unk p.opcode p.toByteBuffer =
      .ok ((s', outs), b)) (atEnd : b.rpos = b.size) :
    WorldSession.ComesTo game now message s p ↔ p.opcode = message := by
  constructor
  · intro comes
    cases comes with
    | here opcode => exact opcode
    | later again notEnd _ _ =>
        rw [handled] at again
        cases again
        exact absurd atEnd notEnd
  · exact .here

/-- An update that finds one packet of one message. -/
theorem update_single {game : Game} {now : Int} {s s' t : WorldSession} {p : WorldPacket}
    {diff : UInt32} {outs : List Output} {b : ByteBuffer} (socket : s.socket = true)
    (single : s.recvQueue = [p])
    (handled : WorldSession.handleMessage game now (s.updateTimestamp.1.updateTimer diff)
      p.accountid p.unk p.opcode p.toByteBuffer = .ok ((s', outs), b)) (atEnd : b.rpos = b.size)
    (ends : (({ s' with recvQueue := [] } : WorldSession).mapUpdate game.map).1.updateLogout now =
      t) :
    (∃ outs, WorldSession.update game s diff now = .ok (t, outs, t.socket)) ∧
    ∀ message, s.Dispatches game diff now message → p.opcode = message := by
  obtain ⟨-, sameSocket, sameQueue⟩ := updateTimer_updateTimestamp s diff
  have packet : WorldSession.dispatchPacket game now (s.updateTimestamp.1.updateTimer diff) p =
      .ok (s', outs) := by
    rw [WorldSession.dispatchPacket_eq, handled]
    exact if_pos atEnd
  constructor
  · have queue : WorldSession.dispatchQueue game now (s.updateTimestamp.1.updateTimer diff)
        (s.updateTimestamp.1.updateTimer diff).recvQueue =
        .ok ({ s' with recvQueue := [] }, outs ++ []) := by
      rw [sameQueue, single, WorldSession.dispatchQueue, if_pos (sameSocket.trans socket), packet]
      rfl
    subst ends
    exact ⟨_, bind_eq_ok.mpr ⟨_, queue, rfl⟩⟩
  · intro message dispatches
    unfold WorldSession.Dispatches at dispatches
    rw [single] at dispatches
    rcases dispatches with comes | ⟨_, -, none⟩
    · exact (comesTo_iff_of_atEnd handled atEnd).mp comes
    · cases none

/-- A message of a client that says that it is ready. -/
def clientReadyPacket : WorldPacket := .ofPayload msgClientReady 0x01 0 []

/-- A session that has been created and is about to join. -/
def joiningSession : WorldSession := (WorldSession.create 7).queuePacket joinPacket

/-- The session when it has joined, and is loading. -/
def loadingSession : WorldSession :=
  { WorldSession.create 7 with
    player := true, unk := 2, status := .loggedIn, playerLoading := true, timestamp := 1001
    connTimer := 29990 }

set_option maxRecDepth 8000 in
/-- A client joins, is silent for half a minute while it loads, and is logged out by the packet with
which it says that it is ready. -/
theorem ready_too_late : ∃ x s outs,
    Run Step (create 7) [.queuePacket joinPacket, .update noMap 10 1, .update noMap 30000 1,
      .queuePacket clientReadyPacket] x ∧
    x.session.socket = true ∧ ¬ x.session.Dispatches noMap 10 1 msgOutgoingClient ∧
    WorldSession.update noMap x.session 10 1 = .ok (s, outs, false) ∧
    (x.silence.after (x.session.recvQueue ≠ []) 10).sincePacket ≤ timeoutMs.toNat := by
  let late : WorldSession := { loadingSession with logoutTime := 1, timestamp := 1002 }
  let back : WorldSession := late.queuePacket clientReadyPacket
  have join : WorldSession.handleMessage noMap 1 (joiningSession.updateTimestamp.1.updateTimer 10)
      joinPacket.accountid joinPacket.unk joinPacket.opcode joinPacket.toByteBuffer =
      .ok (_, _) := rfl
  obtain ⟨⟨_, joined⟩, onlyJoin⟩ := update_single (p := joinPacket) (t := loadingSession) rfl rfl
    join rfl rfl
  have ready : WorldSession.handleMessage noMap 1 (back.updateTimestamp.1.updateTimer 10)
      clientReadyPacket.accountid clientReadyPacket.unk clientReadyPacket.opcode
      clientReadyPacket.toByteBuffer = .ok (_, _) := rfl
  obtain ⟨⟨_, out⟩, onlyReady⟩ := update_single (p := clientReadyPacket) rfl rfl ready rfl rfl
  have first : Step ⟨joiningSession, {}⟩ (.update noMap 10 1) ⟨loadingSession, ⟨10, 0⟩⟩ :=
    ⟨rfl, by decide, fun quits => absurd (onlyJoin _ quits) (by decide), rfl, _, _, joined⟩
  have second : Step ⟨loadingSession, ⟨10, 0⟩⟩ (.update noMap 30000 1) ⟨late, ⟨30010, 30000⟩⟩ :=
    ⟨rfl, by decide, id, rfl, _, _, rfl⟩
  exact ⟨⟨back, ⟨30010, 30000⟩⟩, _, _, .cons rfl (.cons first (.cons second (.single rfl))), rfl,
    fun quits => absurd (onlyReady _ quits) (by decide), out, by decide⟩

end Watched

end NoxServer.Session
