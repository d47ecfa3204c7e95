import NoxServer.World.WorldSocket

/-!
The lookups of `OnRawData`, in any run of the server.

A sender known by its full address may have no session any more, and the source tests for
that. A sender known only by its IP is given the session of the join that waits there, and
that session is used without a test. It is there as long as no step ends a session that
waits (`onRawData_finds_session`): nothing takes the entry away with the session, so one
tick that runs out the connection timer of a session that waits is enough for the next
datagram to stop the server (`onRawData_misses_session`).
-/

namespace NoxServer.Server

open Session ByteBuffer Runs

/-- The table sends the client to a session that does not exist. -/
def MissesSession (srv : Server) (client : ClientAddr) : Prop :=
  ∃ id, srv.socket.sessions.lookup client = none ∧
    srv.socket.sessions.lookup (bareIP client) = some id ∧ srv.world.findSession id = none

/-- The only fault of the lookup is a session that is missing, and it is one exactly where the
tables say so. -/
theorem senderSession_eq_error {srv : Server} {client : ClientAddr} {fault : Fault} :
    srv.senderSession client = .error fault ↔
      fault = .nullPointer ∧ srv.MissesSession client := by
  unfold senderSession MissesSession
  constructor
  · intro run
    split at run
    · cases run
    · next unknown =>
        split at run
        · next id waiting =>
            split at run
            · cases run
            · next missing =>
                cases run
                exact ⟨rfl, id, unknown, waiting, missing⟩
        · cases run
  · rintro ⟨rfl, id, unknown, waiting, missing⟩
    rw [unknown]
    dsimp only
    rw [waiting]
    dsimp only
    rw [missing]

theorem _handleLANPing_fault {srv : Server} {packet : WorldPacket} {fault : Fault}
    (run : srv._handleLANPing packet = .error fault) :
    fault = .assertion ∨ fault = .outOfBounds := by
  rcases bind_eq_error.mp run with fields | ⟨_, _, rest⟩
  · exact readFields_fault fields
  · rcases bind_eq_error.mp rest with stamp | ⟨_, _, rest⟩
    · exact readUInt32_fault stamp
    · cases rest

theorem _handleJoin_fault {srv : Server} {packet : WorldPacket} {fault : Fault}
    (run : srv._handleJoin packet = .error fault) :
    fault = .assertion ∨ fault = .outOfBounds := by
  rcases bind_eq_error.mp run with fields | ⟨_, _, rest⟩
  · exact readFields_fault fields
  · cases rest

/-- A datagram stops the server at a missing session if and only if the table sends its
sender to one. -/
theorem onRawData_nullPointer_iff (srv : Server) (data : List UInt8) (ip : UInt32)
    (port : UInt16) :
    srv.onRawData data ip port = .error .nullPointer ↔
      srv.MissesSession (iPtoClientAddr ip port) := by
  constructor
  · intro run
    rcases bind_eq_error.mp run with lookups | ⟨⟨srv₁, id⟩, _, handled⟩
    · exact (senderSession_eq_error.mp lookups).2
    · dsimp only at handled
      split at handled
      · split at handled
        · rcases _handleLANPing_fault handled with ⟨⟨⟩⟩ | ⟨⟨⟩⟩
        · split at handled
          · rcases _handleJoin_fault handled with ⟨⟨⟩⟩ | ⟨⟨⟩⟩
          · cases handled
      · cases handled
  · intro missing
    exact bind_eq_error.mpr (.inl (senderSession_eq_error.mpr ⟨rfl, missing⟩))

/-! ### Sessions that wait -/

/-- Every entry under a bare IP is for a session that exists. -/
def WaitingFound (srv : Server) : Prop :=
  ∀ key id, bareIP key = key → srv.socket.sessions.lookup key = some id →
    srv.world.findSession id ≠ none

/-- The event ends no session that waits under a bare IP. -/
def WaitingStays (srv : Server) (event : Event) : Prop :=
  ∀ key id, bareIP key = key → srv.socket.sessions.lookup key = some id → ¬ srv.Ends id event

theorem not_missesSession {srv : Server} (found : WaitingFound srv) (client : ClientAddr) :
    ¬ srv.MissesSession client := by
  rintro ⟨id, _, waiting, missing⟩
  exact found (bareIP client) id (bareIP_bareIP client) waiting missing

/-- Moving an entry to its full address leaves the other entries under bare IPs. -/
theorem waitingFound_bindClient {srv : Server} {client : ClientAddr} {id : UInt32}
    {session : WorldSession} (found : WaitingFound srv)
    (unknown : srv.socket.sessions.lookup client = none)
    (waiting : srv.socket.sessions.lookup (bareIP client) = some id) :
    WaitingFound (srv.bindClient client id session) := by
  intro key other bare entered
  rw [lookup_bindClient] at entered
  rw [findSession_bindClient]
  split at entered
  · cases entered
  · split at entered
    · next full =>
        -- the address itself is not bare, or it would have been found
        rw [full] at bare
        rw [bare, unknown] at waiting
        cases waiting
    · split
      · nofun
      · exact found key other bare entered

theorem waitingFound_enter {srv : Server} (client : ClientAddr) (found : WaitingFound srv) :
    WaitingFound (srv.enter client) := by
  intro key id bare entered
  rw [findSession_enter]
  split
  · nofun
  · next other =>
      rw [lookup_enter] at entered
      split at entered
      · exact absurd (Option.some.inj entered).symm other
      · exact found key id bare entered

theorem waitingFound_of_same {srv srv' : Server} (found : WaitingFound srv)
    (table : srv'.socket.sessions = srv.socket.sessions)
    (stays : ∀ key id, bareIP key = key → srv.socket.sessions.lookup key = some id →
      Option.Rel WorldSession.SameClient (srv.world.findSession id)
        (srv'.world.findSession id)) : WaitingFound srv' := by
  intro key id bare entered gone
  rw [table] at entered
  have kept := stays key id bare entered
  rw [gone] at kept
  have before : srv.world.findSession id = none := by
    generalize srv.world.findSession id = entry at kept
    cases kept with
    | none => rfl
  exact found key id bare entered before

/-- A step that ends no session that waits leaves every entry under a bare IP a session. -/
theorem waitingFound_step {srv srv' : Server} {event : Event} (plain : Plain srv.world)
    (found : WaitingFound srv) (stays : WaitingStays srv event) (run : Step srv event srv') :
    WaitingFound srv' := by
  rcases step_cases run with ⟨data, ip, port, _, run⟩ | quiet
  · obtain ⟨sender, lookups, handled⟩ := onRawData_spec plain run
    have found₁ : WaitingFound sender.1 := by
      rcases senderSession_cases lookups with ⟨same, _⟩ | ⟨id, session, unknown, waiting, _, same⟩
      · rwa [same]
      · rw [same]
        exact waitingFound_bindClient found unknown waiting
    cases handled with
    | join _ world table =>
        intro key id bare entered
        rw [table] at entered
        rw [world]
        exact waitingFound_enter _ found₁ key id bare entered
    | other _ kept table =>
        exact waitingFound_of_same found₁ table fun _ id _ _ => kept.sessions id
  · exact waitingFound_of_same found quiet.table fun key id bare entered =>
      quiet.stays id (stays key id bare entered)

/-- What such steps keep. -/
structure LookupsSafe (srv : Server) : Prop where
  plain : Plain srv.world
  found : WaitingFound srv

theorem lookupsSafe_start : LookupsSafe start := ⟨plain_start, nofun⟩

theorem lookupsSafe_step (srv : Server) (event : Event) (srv' : Server) (safe : LookupsSafe srv)
    (step : guarded WaitingStays Step srv event srv') : LookupsSafe srv' where
  plain := step_plain safe.plain step.2
  found := waitingFound_step safe.plain safe.found step.1 step.2

/-- In every run whose steps end no session that waits under a bare IP for its client's next
datagram, no datagram meets a missing session, from whatever address it comes.
`onRawData_nullPointer_iff` says for one state exactly when a datagram does. -/
theorem onRawData_finds_session {events : List Event} {srv : Server}
    (run : Run (guarded WaitingStays Step) start events srv) (data : List UInt8) (ip : UInt32)
    (port : UInt16) :
    ¬ srv.MissesSession (iPtoClientAddr ip port) ∧
      srv.onRawData data ip port ≠ .error .nullPointer := by
  have safe : LookupsSafe srv := run.invariant lookupsSafe_step lookupsSafe_start
  have present := not_missesSession safe.found (iPtoClientAddr ip port)
  exact ⟨present, fun stopped => present ((onRawData_nullPointer_iff srv data ip port).mp stopped)⟩

/-- A join that waits through a tick of 30 seconds, and the next datagram of its client. -/
theorem onRawData_finds_session_of_join :
    ∃ srv, Run Step start [.datagram emptyJoin 1 2, .worldUpdate emptyGame 30000 1] srv ∧
      srv.onRawData [0, 0, 0] 1 2 ≠ .error .nullPointer := by
  obtain ⟨joined, join, entries, found, ticked, tick⟩ : ∃ joined,
      Step start (.datagram emptyJoin 1 2) joined ∧
      joined.socket.sessions.entries = [⟨1, 1⟩] ∧
      joined.world.findSession 1 = some ((WorldSession.create 1).setClient 0x200000001) ∧
      ∃ ticked, Step joined (.worldUpdate emptyGame 30000 1) ticked :=
    ⟨_, rfl, rfl, rfl, _, rfl⟩
  have stays : WaitingStays joined (.worldUpdate emptyGame 30000 1) := by
    rintro key id _ entered ⟨_, s, s', outs, mine, last⟩
    have entry := AList.mem_lookup_iff.mp entered
    rw [entries, List.mem_singleton] at entry
    cases entry
    rw [found] at mine
    cases mine
    cases last
  have run : Run (guarded WaitingStays Step) start
      [.datagram emptyJoin 1 2, .worldUpdate emptyGame 30000 1] ticked :=
    .cons ⟨fun _ _ _ _ => id, join⟩ (.cons ⟨stays, tick⟩ (.nil ticked))
  exact ⟨ticked, run.unguarded, (onRawData_finds_session run [0, 0, 0] 1 2).2⟩

/-- A join whose session runs out of time at a tick, and the next datagram of its client. -/
theorem onRawData_misses_session :
    ¬ ∀ events srv, Run Step start events srv → ∀ data ip port,
      srv.onRawData data ip port ≠ .error .nullPointer := by
  intro safe
  refine safe [.datagram emptyJoin 1 2, .worldUpdate emptyGame 30001 1] _
    (.cons rfl (.cons rfl (.nil _))) [0, 0, 0] 1 2 ?_
  rfl

end NoxServer.Server
