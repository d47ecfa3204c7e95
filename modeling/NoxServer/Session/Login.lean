import NoxServer.Library.Runs
import NoxServer.Session.Turns

/-!
The login state of a session and its player.

A session keeps the state of its login three times: in `m_status`, in whether there is a player,
and in the status that rows of the opcode table ask for. They agree as long as each join message
comes when the session is confirmed and is complete (`login_agrees`). The loop does not see to
that: a join runs in every state (`login_disagrees`), and one that is too short leaves the player
behind.
-/

namespace NoxServer.Session

open ByteBuffer Consume Runs Throws

/-! ### The life of a session -/

/-- Where the update of a session is: between updates, in the dispatch loop, or over. -/
inductive Phase where
  | idle
  | looping (packet : Option WorldPacket)
  | ended
  deriving DecidableEq

/-- A session, and where its update is. -/
structure Life where
  session : WorldSession
  phase : Phase := .idle
  deriving DecidableEq

/-- A session as it is created. -/
def Life.start (id : UInt32) : Life := { session := .create id }

/-- What can happen to a session. -/
inductive Event where
  | queuePacket (packet : WorldPacket)
  | kickPlayer
  /-- `Update(diff)` up to its loop. -/
  | update (diff : UInt32)
  /-- A turn of the loop. -/
  | turn (game : Game) (now : Int)
  /-- `Update` from its loop on. -/
  | finish (game : Game) (now : Int)

/-- The condition of the loop. -/
def Life.more (l : Life) (packet : Option WorldPacket) : Bool :=
  (packet.isSome || !l.session.recvQueue.isEmpty) && l.session.socket

/-- A session once it is over has no steps. -/
def Life.step (l : Life) : Event → Option Life
  | .queuePacket packet =>
      if l.phase = .ended then none
      else some { l with session := l.session.queuePacket packet }
  | .kickPlayer =>
      if l.phase = .idle then some { l with session := l.session.kickPlayer } else none
  | .update diff =>
      if l.phase = .idle then
        some ⟨l.session.updateTimestamp.1.updateTimer diff, .looping none⟩
      else none
  | .turn game now =>
      match l.phase, l.session.recvQueue with
      | .looping (some packet), _ =>
          if l.more (some packet) then
            let out := l.session.turn game now packet
            some ⟨out.1, .looping out.2.2⟩
          else none
      | .looping none, packet :: queue =>
          if l.more none then
            let out := WorldSession.turn game now { l.session with recvQueue := queue } packet
            some ⟨out.1, .looping out.2.2⟩
          else none
      | _, _ => none
  | .finish game now =>
      match l.phase with
      | .looping packet =>
          if l.more packet then none
          else
            let s := (l.session.mapUpdate game.map).1.updateLogout now
            some ⟨s, if s.socket then .idle else .ended⟩
      | _ => none

def Step (l : Life) (e : Event) (l' : Life) : Prop := l.step e = some l'

/-- The session and the packet a turn of the loop is about. -/
def Life.dispatched (l : Life) : Option (WorldSession × WorldPacket) :=
  match l.phase, l.session.recvQueue with
  | .looping (some packet), _ => some (l.session, packet)
  | .looping none, packet :: queue => some ({ l.session with recvQueue := queue }, packet)
  | _, _ => none

/-- The message a turn of the loop is about. -/
def Life.message (l : Life) : Event → Option WorldPacket
  | .turn _ _ =>
      match l.phase with
      | .looping (some packet) => some packet
      | .looping none => l.session.recvQueue.head?
      | _ => none
  | _ => none

/-! ### Agreement -/

/-- There is a player exactly when the session is logged in. -/
def Agrees (s : WorldSession) : Prop := s.player = true ↔ s.status = .loggedIn

instance (s : WorldSession) : Decidable (Agrees s) := inferInstanceAs (Decidable (_ ↔ _))

/-- A step keeps to the login state: player and status agree after it unless the session is over,
a session is logged in only after it was confirmed, and a handler that asks for a session that is
logged in runs only in one. -/
structure Sound (l : Life) (e : Event) (l' : Life) : Prop where
  agrees : l'.phase ≠ .ended → Agrees l'.session
  entered : l'.session.status = .loggedIn → l.session.status ≠ .loggedIn →
    l.session.status = .confirmed
  required : ∀ p row, l.message e = some p → called l.session p.accountid p.opcode = some row →
    row.1 = .loggedIn → l.session.status = .loggedIn

/-- A join message comes when the session is confirmed and is complete, or when the session is
logged in already. -/
def InOrder (l : Life) (e : Event) : Prop :=
  ∀ p, l.message e = some p → p.opcode = 0x1F →
    l.session.status = .loggedIn ∨ (l.session.status = .confirmed ∧ p.rpos + 154 ≤ p.size)

/-! ### What a turn does to the login -/

/-- Unless it is a join a message leaves the player, and at most confirms the session. -/
theorem Turned.login {game : Game} {s s' : WorldSession} {p : WorldPacket} {outs : List Output}
    (turned : Turned game s p s' outs) (notJoin : p.opcode ≠ 0x1F) :
    s'.player = s.player ∧
      (s'.status = s.status ∨ s.status = .authed ∧ s'.status = .confirmed) := by
  cases turned with
  | plain _ player status => exact ⟨player, status⟩
  | join _ _ _ join => exact absurd join notJoin
  | shortJoin join => exact absurd join notJoin
  | ready _ _ _ session =>
      rw [session]
      exact ⟨rfl, .inl rfl⟩

/-- After a join the player is there in any case, the status only if the message is complete. -/
theorem Turned.login_join {game : Game} {s s' : WorldSession} {p : WorldPacket}
    {outs : List Output} (turned : Turned game s p s' outs) (join : p.opcode = 0x1F) :
    s'.player = true ∧ s'.status = if p.rpos + 154 ≤ p.size then .loggedIn else s.status := by
  cases turned with
  | plain notJoin => exact absurd join notJoin
  | join _ _ _ _ complete joined =>
      obtain ⟨rfl, _⟩ := Prod.mk.inj joined
      exact ⟨rfl, (if_pos complete).symm⟩
  | shortJoin _ short => exact ⟨rfl, (if_neg short).symm⟩
  | ready opcode => exact absurd (join.symm.trans opcode) (by decide)

/-! ### Steps -/

/-- A turn of the loop dispatches the message at hand, and the loop goes on. -/
theorem turn_eq_some {l l' : Life} {game : Game} {now : Int} (step : Step l (.turn game now) l') :
    ∃ (s : WorldSession) (p : WorldPacket), l.dispatched = some (s, p) ∧
      l.message (.turn game now) = some p ∧ s.login = l.session.login ∧
      l'.session = (s.turn game now p).1 ∧ l'.phase ≠ .ended := by
  unfold Step Life.step at step
  dsimp only at step
  split at step
  · next packet phase =>
      split at step
      · cases step
        exact ⟨l.session, packet, by rw [Life.dispatched, phase], by rw [Life.message, phase], rfl,
          rfl, nofun⟩
      · cases step
  · next packet queue phase waiting =>
      split at step
      · cases step
        refine ⟨{ l.session with recvQueue := queue }, packet, ?_, ?_, rfl, rfl, nofun⟩
        · rw [Life.dispatched, phase, waiting]
        · rw [Life.message, phase, waiting]
          rfl
      · cases step
  · cases step

theorem updateTimestamp_login (s : WorldSession) : s.updateTimestamp.1.login = s.login := by
  unfold WorldSession.updateTimestamp
  split
  · rfl
  · rfl

theorem updateTimer_login (s : WorldSession) (diff : UInt32) :
    (s.updateTimer diff).login = s.login := by
  unfold WorldSession.updateTimer
  split
  · rfl
  · split
    · rfl
    · rfl

theorem mapUpdate_login (s : WorldSession) (m : NoxMap) : (s.mapUpdate m).1.login = s.login := by
  unfold WorldSession.mapUpdate
  split
  · rfl
  · rfl

/-- A logout ends the session, and nothing else changes the login. -/
theorem updateLogout_login (s : WorldSession) (now : Int) :
    (s.updateLogout now).status = s.status ∧
      ((s.updateLogout now).socket = true → (s.updateLogout now).login = s.login) := by
  unfold WorldSession.updateLogout
  split
  · exact ⟨rfl, nofun⟩
  · exact ⟨rfl, fun _ => rfl⟩

/-- Steps that are no turns and no kicks leave the login as it is, unless they end the session. -/
theorem other_login {l l' : Life} {e : Event} (step : Step l e l')
    (noTurn : ∀ game now, e ≠ .turn game now) (noKick : e ≠ .kickPlayer) :
    l'.session.status = l.session.status ∧
      (l'.phase ≠ .ended → l'.session.login = l.session.login) := by
  unfold Step Life.step at step
  cases e with
  | queuePacket packet =>
      dsimp only at step
      split at step
      · cases step
      · cases step
        exact ⟨rfl, fun _ => rfl⟩
  | kickPlayer => exact absurd rfl noKick
  | update diff =>
      dsimp only at step
      split at step
      · cases step
        have same := (updateTimer_login _ diff).trans (updateTimestamp_login l.session)
        exact ⟨congrArg (fun login => login.2.1) same, fun _ => same⟩
      · cases step
  | turn game now => exact absurd rfl (noTurn game now)
  | finish game now =>
      dsimp only at step
      split at step
      · next packet phase =>
          split at step
          · cases step
          · cases step
            have updated := mapUpdate_login l.session game.map
            obtain ⟨status, same⟩ := updateLogout_login (l.session.mapUpdate game.map).1 now
            refine ⟨status.trans (congrArg (fun login => login.2.1) updated), fun goesOn => ?_⟩
            refine (same ?_).trans updated
            by_contra ended
            exact goesOn (if_neg ended)
      · cases step

/-- The start of a session has no player and is not logged in. -/
theorem agrees_start (id : UInt32) : Agrees (Life.start id).session := by
  unfold Agrees
  constructor
  · nofun
  · nofun

/-- What is true of a session until it is over. -/
def Going (l : Life) : Prop := l.phase ≠ .ended → Agrees l.session

theorem phase_of_step {l l' : Life} {e : Event} (step : Step l e l') : l.phase ≠ .ended := by
  intro ended
  unfold Step Life.step at step
  cases e with
  | queuePacket packet =>
      rw [ended] at step
      cases step
  | kickPlayer =>
      rw [ended] at step
      cases step
  | update diff =>
      rw [ended] at step
      cases step
  | turn game now =>
      rw [ended] at step
      cases step
  | finish game now =>
      rw [ended] at step
      cases step

/-- A handler that asks for a session that is logged in runs only with a player. -/
theorem loggedIn_of_called {s : WorldSession} (agrees : Agrees s) {accountid opcode : UInt8}
    {row : SessionStatus × Handler} (run : called s accountid opcode = some row)
    (asked : row.1 = .loggedIn) : s.status = .loggedIn :=
  agrees.mp (Throwing.player_of_called run asked)

/-- A step that is no turn keeps to the login state. -/
theorem sound_of_other {l l' : Life} {e : Event} (going : Going l) (step : Step l e l')
    (other : ∀ game now, e ≠ .turn game now) (noMessage : l.message e = none) :
    Sound l e l' := by
  have kept : l'.session.status = l.session.status ∧
      (l'.phase ≠ .ended → l'.session.player = l.session.player) := by
    by_cases kick : e = .kickPlayer
    · subst kick
      unfold Step Life.step at step
      dsimp only at step
      split at step
      · cases step
        exact ⟨rfl, fun _ => rfl⟩
      · cases step
    · obtain ⟨status, login⟩ := other_login step other kick
      exact ⟨status, fun goesOn => congrArg Prod.fst (login goesOn)⟩
  obtain ⟨status, player⟩ := kept
  refine ⟨fun goesOn => ?_, fun now before => ?_, fun p row here => ?_⟩
  · rw [Agrees, player goesOn, status]
    exact going (phase_of_step step)
  · exact absurd (status ▸ now) before
  · rw [noMessage] at here
    cases here

/-- A turn with a message that is no join keeps to the login state. -/
theorem sound_of_turn {l l' : Life} {game : Game} {now : Int} (agrees : Agrees l.session)
    {s : WorldSession} {p : WorldPacket} (player : s.player = l.session.player)
    (status : s.status = l.session.status)
    (session : l'.session = (s.turn game now p).1) (notJoin : p.opcode ≠ 0x1F) :
    Sound l (.turn game now) l' := by
  have turned := turned game now s p
  rw [← session] at turned
  have required : ∀ p' row, l.message (.turn game now) = some p' →
      called l.session p'.accountid p'.opcode = some row → row.1 = .loggedIn →
        l.session.status = .loggedIn := fun p' row _ run => loggedIn_of_called agrees run
  obtain ⟨player', status' | ⟨authed, status'⟩⟩ := turned.login notJoin
  · refine ⟨fun _ => ?_, fun after before => ?_, required⟩
    · rw [Agrees, player', status', player, status]
      exact agrees
    · exact absurd ((status'.trans status).symm.trans after) before
  · refine ⟨fun _ => ?_, fun after _ => ?_, required⟩
    · have notIn : l.session.status ≠ .loggedIn := by
        rw [← status, authed]
        nofun
      have alone : ¬l.session.player = true := fun there => notIn (agrees.mp there)
      rw [Agrees, player', status', player]
      exact ⟨fun there => absurd there alone, nofun⟩
    · rw [status'] at after
      cases after

/-- A turn with a join message keeps to the login state exactly when the message is in order. -/
theorem sound_join_iff {l l' : Life} {game : Game} {now : Int} (agrees : Agrees l.session)
    (goesOn : l'.phase ≠ .ended) {s : WorldSession} {p : WorldPacket}
    (status : s.status = l.session.status) (session : l'.session = (s.turn game now p).1)
    (join : p.opcode = 0x1F) :
    Sound l (.turn game now) l' ↔ l.session.status = .loggedIn ∨
      (l.session.status = .confirmed ∧ p.rpos + 154 ≤ p.size) := by
  have turned := turned game now s p
  rw [← session] at turned
  obtain ⟨player', status'⟩ := turned.login_join join
  have status' : l'.session.status =
      if p.rpos + 154 ≤ p.size then .loggedIn else l.session.status := status ▸ status'
  have required : ∀ p' row, l.message (.turn game now) = some p' →
      called l.session p'.accountid p'.opcode = some row → row.1 = .loggedIn →
        l.session.status = .loggedIn := fun p' row _ run => loggedIn_of_called agrees run
  by_cases room : p.rpos + 154 ≤ p.size
  · rw [if_pos room] at status'
    constructor
    · intro sound
      by_cases before : l.session.status = .loggedIn
      · exact .inl before
      · exact .inr ⟨sound.entered status' before, room⟩
    · intro order
      refine ⟨fun _ => ?_, fun _ before => ?_, required⟩
      · rw [Agrees, player', status']
        exact ⟨fun _ => rfl, fun _ => rfl⟩
      · exact (order.resolve_left before).1
  · rw [if_neg room] at status'
    constructor
    · intro sound
      exact .inl (status' ▸ (sound.agrees goesOn).mp player')
    · intro order
      have already : l.session.status = .loggedIn :=
        order.resolve_right fun confirmed => room confirmed.2
      refine ⟨fun _ => ?_, fun _ before => absurd already before, required⟩
      rw [Agrees, player', status', already]
      exact ⟨fun _ => rfl, fun _ => rfl⟩

/-- A step keeps to the login state exactly when a join it dispatches is in order. -/
theorem sound_iff {l l' : Life} {e : Event} (going : Going l) (step : Step l e l') :
    Sound l e l' ↔ InOrder l e := by
  have other (noTurn : ∀ game now, e ≠ .turn game now) (noMessage : l.message e = none) :
      Sound l e l' ↔ InOrder l e := by
    refine ⟨fun _ p here => ?_, fun _ => sound_of_other going step noTurn noMessage⟩
    rw [noMessage] at here
    cases here
  cases e with
  | queuePacket packet => exact other nofun rfl
  | kickPlayer => exact other nofun rfl
  | update diff => exact other nofun rfl
  | finish game now => exact other nofun rfl
  | turn game now =>
      have agrees : Agrees l.session := going (phase_of_step step)
      obtain ⟨s, p, _, here, login, session, goesOn⟩ := turn_eq_some step
      have player : s.player = l.session.player := congrArg Prod.fst login
      have status : s.status = l.session.status := congrArg (fun login => login.2.1) login
      by_cases join : p.opcode = 0x1F
      · refine (sound_join_iff agrees goesOn status session join).trans ?_
        refine ⟨fun order p' here' _ => ?_, fun order => order p here join⟩
        rw [here] at here'
        cases here'
        exact order
      · refine ⟨fun _ p' here' join' => ?_,
          fun _ => sound_of_turn agrees player status session join⟩
        rw [here] at here'
        cases here'
        exact absurd join' join

/-- In a run whose joins come in order (after the confirmation, and complete, unless the session is
logged in already) the next step keeps the player, the status and the handlers that run in agreement
exactly when it does too. Short reads throw with what was done before them kept. -/
theorem login_agrees (id : UInt32) {events : List Event} {l l' : Life} {e : Event}
    (run : Run (guarded InOrder Step) (.start id) events l) (step : Step l e l') :
    Sound l e l' ↔ InOrder l e := by
  have going : Going l := run.invariant
    (fun _ _ _ going guarded => ((sound_iff going guarded.2).mpr guarded.1).agrees)
    fun _ => agrees_start id
  exact sound_iff going step

def noMap : Game := { map := { nxzFile := none }, checksum := 0, playerExtent := 7 }

/-- A join message of the right length. -/
def joinPacket : WorldPacket := .ofPayload 0x1F 0x01 0 (List.replicate 154 7)

/-- A session is confirmed and then joins. -/
theorem login_agrees_joined : ∃ l l', Run (guarded InOrder Step) (.start 1)
    [.queuePacket { opcode := 0, accountid := 0xFF }, .queuePacket joinPacket, .update 0,
      .turn noMap 0] l ∧ Step l (.turn noMap 0) l' ∧ Sound l (.turn noMap 0) l' := by
  have run : ∃ l, Run (guarded InOrder Step) (.start 1)
      [.queuePacket { opcode := 0, accountid := 0xFF }, .queuePacket joinPacket, .update 0,
        .turn noMap 0] l ∧ (l.step (.turn noMap 0)).isSome ∧
      l.message (.turn noMap 0) = some joinPacket ∧ l.session.status = .confirmed := by
    refine ⟨_, .cons ⟨nofun, rfl⟩ (.cons ⟨nofun, rfl⟩ (.cons ⟨nofun, rfl⟩
      (.cons ⟨?_, rfl⟩ (.nil _)))), rfl, rfl, rfl⟩
    rintro p ⟨⟩ join
    cases join
  obtain ⟨l, run, goesOn, here, confirmed⟩ := run
  obtain ⟨l', step⟩ := Option.isSome_iff_exists.mp goesOn
  refine ⟨l, l', run, step, (login_agrees 1 run step).mpr fun p here' _ => .inr ⟨confirmed, ?_⟩⟩
  obtain rfl : joinPacket = p := Option.some.inj (here.symm.trans here')
  exact Nat.le_of_eq List.length_replicate.symm

/-- A join message that comes before the session is confirmed is run: the session is logged in
without having been confirmed. -/
theorem login_disagrees : ¬ ∀ (id : UInt32) (events : List Event) (l l' : Life) (e : Event),
    Run Step (.start id) events l → Step l e l' → Sound l e l' := by
  intro always
  have run : ∃ l, Run Step (.start 1) [.queuePacket joinPacket, .update 0] l ∧
      l.session.status = .authed ∧
        (l.step (.turn noMap 0)).map (·.session.status) = some .loggedIn :=
    ⟨_, .cons rfl (.cons rfl (.nil _)), rfl, by decide +kernel⟩
  obtain ⟨l, run, authed, joins⟩ := run
  obtain ⟨l', step, loggedIn⟩ := Option.map_eq_some_iff.mp joins
  have entered := (always 1 _ l l' _ run step).entered loggedIn
  rw [authed] at entered
  cases entered nofun

end NoxServer.Session
