import NoxServer.Library.HostBinding
import NoxServer.World.WorldSocket

/-!
Which session a client's datagrams go to.

The table of the socket is a table of clients and hosts (`HostBinding`), the host of a
client being its IP: the entries under bare IPs are the ids that wait and the others are
those that are bound. The lookups of `OnRawData` are a message of it
(`clients_senderSession`) and `_HandleJoin` enters an id (`clients_enter`). So clients that
join before they send anything else, and then send something, have sessions of their own
(`client_bound`), for every order of the datagrams of all clients, as long as no session
ends and no client sends from port 0, where its full address is the key of the joins of its
IP (`port_zero_loses_session`).
-/

namespace NoxServer.Server

open Session HostBinding Runs

/-- The socket's table as a table of clients and their hosts. -/
def clients (srv : Server) : Table ClientAddr ClientAddr UInt32 where
  waiting key := if bareIP key = key then srv.socket.sessions.lookup key else none
  bound key := if bareIP key = key then none else srv.socket.sessions.lookup key
  owner id := (srv.world.findSession id).map (·.client)

/-- A full address is not a key of joins. -/
theorem ne_bareIP {key : ClientAddr} (full : bareIP key ≠ key) (client : ClientAddr) :
    key ≠ bareIP client := by
  rintro rfl
  exact full (bareIP_bareIP client)

/-! ### The steps of the table -/

/-- A client that speaks for the first time takes the session that waits under its bare IP; in the
abstract table it takes the id. -/
theorem clients_bindClient {srv : Server} {client : ClientAddr} (full : bareIP client ≠ client)
    (id : UInt32) (session : WorldSession) :
    (srv.bindClient client id session).clients = srv.clients.take bareIP client id := by
  ext1
  · funext key
    show (if bareIP key = key then _ else none) = if key = bareIP client then none else
      if bareIP key = key then srv.socket.sessions.lookup key else none
    rw [lookup_bindClient]
    by_cases here : key = bareIP client
    · rw [if_pos here, if_pos here, ite_self]
    · rw [if_neg here, if_neg here]
      by_cases mine : key = client
      · rw [mine, if_neg full, if_neg full]
      · rw [if_neg mine]
  · funext key
    show (if bareIP key = key then none else _) = if key = client then some id else
      if bareIP key = key then none else srv.socket.sessions.lookup key
    rw [lookup_bindClient]
    by_cases mine : key = client
    · rw [mine, if_neg full, if_neg full.symm, if_pos rfl, if_pos rfl]
    · rw [if_neg mine, if_neg mine]
      split
      · rfl
      · next far => rw [if_neg (ne_bareIP far client)]
  · funext other
    show ((srv.bindClient client id session).world.findSession other).map _ =
      if other = id then some client else _
    rw [findSession_bindClient]
    split
    · rfl
    · rfl

/-- The lookups for a sender are a message of its client. -/
theorem clients_senderSession {srv : Server} {client : ClientAddr}
    (full : bareIP client ≠ client) {out : Server × Option UInt32}
    (run : srv.senderSession client = .ok out) :
    out.1.clients = srv.clients.touch bareIP client := by
  have bound : srv.clients.bound client = srv.socket.sessions.lookup client := if_neg full
  have waiting : srv.clients.waiting (bareIP client) =
      srv.socket.sessions.lookup (bareIP client) := if_pos (bareIP_bareIP client)
  rcases senderSession_cases run with ⟨same, known | none⟩ | ⟨id, session, unknown, waits, _, same⟩
  · rw [same, Table.touch_of_bound (by rwa [bound])]
  · rw [same, Table.touch_of_empty (by rwa [waiting])]
  · rw [same, Table.touch_taken (bound.trans unknown) (waiting.trans waits)]
    exact clients_bindClient full id session

/-- A join enters the id it is given. -/
theorem clients_enter (srv : Server) (client : ClientAddr) :
    (srv.enter client).clients = srv.clients.enter bareIP client (nextId srv.world) := by
  ext1
  · funext key
    show (if bareIP key = key then _ else none) = if key = bareIP client then
      some (nextId srv.world) else if bareIP key = key then srv.socket.sessions.lookup key else none
    rw [lookup_enter]
    by_cases here : key = bareIP client
    · rw [here, if_pos (bareIP_bareIP client), if_pos rfl, if_pos rfl]
    · rw [if_neg here, if_neg here]
  · funext key
    show (if bareIP key = key then none else _) =
      if bareIP key = key then none else srv.socket.sessions.lookup key
    rw [lookup_enter]
    split
    · rfl
    · next far => rw [if_neg (ne_bareIP far client)]
  · funext id
    show ((srv.enter client).world.findSession id).map _ =
      if id = nextId srv.world then some client else _
    rw [findSession_enter]
    split
    · rfl
    · rfl

theorem clients_of_same {srv srv' : Server}
    (table : srv'.socket.sessions = srv.socket.sessions)
    (sessions : ∀ id, Option.Rel WorldSession.SameClient (srv.world.findSession id)
      (srv'.world.findSession id)) : srv'.clients = srv.clients := by
  have owner (id : UInt32) : (srv'.world.findSession id).map (·.client) =
      (srv.world.findSession id).map (·.client) := by
    have kept := sessions id
    generalize srv.world.findSession id = before at kept
    generalize srv'.world.findSession id = after at kept
    cases kept with
    | none => rfl
    | some same => exact congrArg some same.client
  unfold clients
  rw [table]
  simp only [owner]

/-! ### What has been received -/

/-- The clients that have sent a join, and those that have sent something after it. -/
structure History where
  joined : Set ClientAddr
  spoken : Set ClientAddr

/-- The history before the first datagram. -/
def History.empty : History := ⟨∅, ∅⟩

/-- What an event adds to the history. -/
def History.record (h : History) : Event → History
  | .datagram data ip port =>
      { joined := {c | (c = iPtoClientAddr ip port ∧ IsJoin data) ∨ c ∈ h.joined}
        spoken := {c | (c = iPtoClientAddr ip port ∧ c ∈ h.joined) ∨ c ∈ h.spoken} }
  | _ => h

/-- Clients join while there is a free id, and send nothing else before; no session ends. -/
def Orderly (s : History × Server) : Event → Prop
  | .datagram data ip port =>
      if IsJoin data then s.2.world.freeids ≠ [] else iPtoClientAddr ip port ∈ s.1.joined
  | event => ∀ id, ¬ s.2.Ends id event

/-- A datagram does not come from port 0. -/
def FromPort : Event → Prop
  | .datagram _ _ port => port ≠ 0
  | _ => True

/-- The client is bound to a session that has its address and that nobody else is sent to. -/
def BoundAlone (srv : Server) (ip : UInt32) (port : UInt16) : Prop :=
  ∃ id session, srv.socket.sessions.lookup (iPtoClientAddr ip port) = some id ∧
    srv.world.findSession id = some session ∧ session.client = iPtoClientAddr ip port ∧
    ∀ ip' port', (ip', port') ≠ (ip, port) →
      srv.socket.sessions.lookup (iPtoClientAddr ip' port') ≠ some id

/-- The client has a session, bound to it or waiting under its IP. -/
def HasSession (srv : Server) (client : ClientAddr) : Prop :=
  ∃ id session, (srv.socket.sessions.lookup client = some id ∨
      srv.socket.sessions.lookup client = none ∧
        srv.socket.sessions.lookup (bareIP client) = some id) ∧
    srv.world.findSession id = some session

theorem iPtoClientAddr_injective {ip ip' : UInt32} {port port' : UInt16}
    (same : iPtoClientAddr ip port = iPtoClientAddr ip' port') : (ip, port) = (ip', port') := by
  have value := congrArg UInt64.toNat same
  rw [toNat_iPtoClientAddr, toNat_iPtoClientAddr] at value
  have low := ip.toNat_lt
  have low' := ip'.toNat_lt
  have ips : ip.toNat = ip'.toNat := by omega
  have ports : port.toNat = port'.toNat := by omega
  rw [UInt32.toNat_inj.mp ips, UInt16.toNat_inj.mp ports]

/-- An address with a port is not the key of the joins of its IP. -/
theorem bareIP_ne {ip : UInt32} {port : UInt16} (nonzero : port ≠ 0) :
    bareIP (iPtoClientAddr ip port) ≠ iPtoClientAddr ip port := by
  intro same
  have value := congrArg UInt64.toNat same
  rw [toNat_bareIP, toNat_iPtoClientAddr] at value
  have low := ip.toNat_lt
  have zero : port.toNat = 0 := by omega
  exact nonzero (UInt16.toNat_inj.mp zero)

/-! ### Every client that has joined is served -/

/-- What orderly steps keep. -/
structure ClientsServed (s : History × Server) : Prop where
  plain : Plain s.2.world
  free : FreeIds s.2.world
  full : ∀ c ∈ s.1.joined, bareIP c ≠ c
  known : ∀ c ∈ s.1.spoken, c ∈ s.1.joined
  served : Served bareIP s.2.clients s.1.joined s.1.spoken

theorem clientsServed_start : ClientsServed (History.empty, start) where
  plain := plain_start
  free := freeIds_start
  full := nofun
  known := nofun
  served := by
    have empty : start.clients = Table.empty := by
      ext1
      · exact funext fun key => ite_self none
      · exact funext fun key => ite_self none
      · rfl
    show Served bareIP start.clients ∅ ∅
    rw [empty]
    exact .empty

theorem record_join (h : History) {data : List UInt8} {ip : UInt32} {port : UInt16}
    (join : IsJoin data) : (h.record (.datagram data ip port)).joined =
      insert (iPtoClientAddr ip port) h.joined := by
  ext c
  show (c = iPtoClientAddr ip port ∧ IsJoin data) ∨ c ∈ h.joined ↔ _
  rw [and_iff_left join]
  exact Iff.rfl

theorem record_other (h : History) {data : List UInt8} {ip : UInt32} {port : UInt16}
    (other : ¬ IsJoin data) : (h.record (.datagram data ip port)).joined = h.joined := by
  ext c
  show (c = iPtoClientAddr ip port ∧ IsJoin data) ∨ c ∈ h.joined ↔ _
  exact or_iff_right fun join => other join.2

theorem record_again (h : History) (data : List UInt8) {ip : UInt32} {port : UInt16}
    (joined : iPtoClientAddr ip port ∈ h.joined) :
    (h.record (.datagram data ip port)).spoken = insert (iPtoClientAddr ip port) h.spoken := by
  ext c
  show (c = iPtoClientAddr ip port ∧ c ∈ h.joined) ∨ c ∈ h.spoken ↔ _
  constructor
  · exact fun said => said.imp_left And.left
  · exact fun said => said.imp_left fun same => ⟨same, same ▸ joined⟩

theorem record_first (h : History) (data : List UInt8) {ip : UInt32} {port : UInt16}
    (new : iPtoClientAddr ip port ∉ h.joined) :
    (h.record (.datagram data ip port)).spoken = h.spoken := by
  ext c
  show (c = iPtoClientAddr ip port ∧ c ∈ h.joined) ∨ c ∈ h.spoken ↔ _
  exact or_iff_right fun said => new (said.1 ▸ said.2)

/-- The condition of the runs: orderly, from ports. -/
def OrderlyFromPorts (s : History × Server) (event : Event) : Prop :=
  Orderly s event ∧ FromPort event

/-- A datagram is a message of its client, and a join enters an id besides. -/
theorem served_datagram {h : History} {srv srv' : Server} {data : List UInt8} {ip : UInt32}
    {port : UInt16} (served : ClientsServed (h, srv)) (nonzero : port ≠ 0)
    (orderly : if IsJoin data then srv.world.freeids ≠ [] else iPtoClientAddr ip port ∈ h.joined)
    (run : srv.onRawData data ip port = .ok srv') :
    Served bareIP srv'.clients (h.record (.datagram data ip port)).joined
      (h.record (.datagram data ip port)).spoken := by
  obtain ⟨sender, lookups, handled⟩ := onRawData_spec served.plain run
  have touched := clients_senderSession (bareIP_ne nonzero) lookups
  cases handled with
  | other other kept table =>
      rw [if_neg other] at orderly
      rw [record_other h other, record_again h data orderly, clients_of_same table kept.sessions,
        touched]
      exact served.served.touch orderly
  | join join world table =>
      rw [if_pos join] at orderly
      have entered : srv'.clients = (sender.1.clients).enter bareIP (iPtoClientAddr ip port)
          (nextId sender.1.world) := by
        rw [← clients_enter]
        unfold clients
        rw [world, table]
      have unused : sender.1.world.findSession (nextId sender.1.world) = none :=
        (served.free.senderSession lookups).next ((freeids_senderSession lookups).symm ▸ orderly)
      have fresh : (srv.clients.touch bareIP (iPtoClientAddr ip port)).owner
          (nextId sender.1.world) = none := by
        rw [← touched]
        exact Option.map_eq_none_iff.mpr unused
      rw [entered, touched, record_join h join]
      by_cases known : iPtoClientAddr ip port ∈ h.joined
      · rw [record_again h data known]
        exact served.served.rejoin known fresh
      · rw [record_first h data known]
        exact served.served.join _ fresh

/-- Every orderly step leaves the clients that have joined and spoken served. -/
theorem clientsServed_step (s : History × Server) (event : Event) (s' : History × Server)
    (served : ClientsServed s)
    (step : guarded OrderlyFromPorts (recording History.record Step) s event s') :
    ClientsServed s' := by
  obtain ⟨⟨orderly, nonzero⟩, recorded, run⟩ := step
  obtain ⟨h, srv⟩ := s
  obtain ⟨h', srv'⟩ := s'
  cases recorded
  have plain : Plain srv'.world := step_plain served.plain run
  have free : FreeIds srv'.world := freeIds_step served.plain served.free run
  cases event with
  | datagram data ip port =>
      refine ⟨plain, free, fun c joined => ?_, fun c spoken => ?_,
        served_datagram served nonzero orderly run⟩
      · rcases joined with ⟨rfl, _⟩ | old
        · exact bareIP_ne nonzero
        · exact served.full c old
      · rcases spoken with ⟨_, joined⟩ | old
        · exact .inr joined
        · exact .inr (served.known c old)
  | _ =>
      refine ⟨plain, free, served.full, served.known, ?_⟩
      show Served bareIP srv'.clients h.joined h.spoken
      rcases step_cases run with ⟨_, _, _, none, _⟩ | quiet
      · cases none
      · rw [clients_of_same quiet.table fun id => quiet.stays id (orderly id)]
        exact served.served

/-- What the table of clients says of the server. -/
theorem ClientsServed.boundAlone {h : History} {srv : Server} (served : ClientsServed (h, srv))
    {ip : UInt32} {port : UInt16} (spoken : iPtoClientAddr ip port ∈ h.spoken) :
    BoundAlone srv ip port := by
  have full := served.full _ (served.known _ spoken)
  obtain ⟨id, bound, owned, idle, others⟩ := served.served.bound_alone spoken
  have mine : srv.socket.sessions.lookup (iPtoClientAddr ip port) = some id :=
    (if_neg full).symm.trans bound
  obtain ⟨session, found, client⟩ := Option.map_eq_some_iff.mp owned
  refine ⟨id, session, mine, found, client, fun ip' port' other theirs => ?_⟩
  have apart : iPtoClientAddr ip' port' ≠ iPtoClientAddr ip port := fun same =>
    other (iPtoClientAddr_injective same)
  by_cases bare : bareIP (iPtoClientAddr ip' port') = iPtoClientAddr ip' port'
  · exact idle _ ((if_pos bare).trans theirs)
  · exact others _ apart ((if_neg bare).trans theirs)

theorem ClientsServed.hasSession {h : History} {srv : Server} (served : ClientsServed (h, srv))
    {client : ClientAddr} (joined : client ∈ h.joined) : HasSession srv client := by
  have full := served.full client joined
  have lookup : srv.clients.bound client = srv.socket.sessions.lookup client := if_neg full
  have waiting : srv.clients.waiting (bareIP client) =
      srv.socket.sessions.lookup (bareIP client) := if_pos (bareIP_bareIP client)
  cases bound : srv.clients.bound client with
  | some id =>
      have owned := served.served.sound.owned client id bound
      obtain ⟨session, found, _⟩ := Option.map_eq_some_iff.mp owned
      exact ⟨id, session, .inl (lookup.symm.trans bound), found⟩
  | none =>
      have waits := served.served.waiting client joined bound
      obtain ⟨id, waits⟩ := Option.ne_none_iff_exists'.mp waits
      obtain ⟨⟨holder, owned, _⟩, _⟩ := served.served.sound.waits _ id waits
      obtain ⟨session, found, _⟩ := Option.map_eq_some_iff.mp owned
      exact ⟨id, session, .inr ⟨lookup.symm.trans bound, waiting.symm.trans waits⟩, found⟩

/-- In every orderly run of clients with ports, a client that has joined and then sent something is
bound to a session of its own, with its address, and every client that has joined has one. Clients
may share an IP; port 0 is left out, since its address is the bare IP under which joins wait. -/
theorem client_bound {events : List Event} {h : History} {srv : Server}
    (run : Run (guarded OrderlyFromPorts (recording History.record Step))
      (History.empty, start) events (h, srv)) :
    (∀ ip port, iPtoClientAddr ip port ∈ h.spoken → BoundAlone srv ip port) ∧
      ∀ client ∈ h.joined, HasSession srv client := by
  have served : ClientsServed (h, srv) := run.invariant clientsServed_step clientsServed_start
  exact ⟨fun _ _ spoken => served.boundAlone spoken, fun _ joined => served.hasSession joined⟩

theorem orderly_join {h : History} {srv : Server} {data : List UInt8} (ip : UInt32)
    (port : UInt16) (join : IsJoin data) (left : srv.world.freeids ≠ []) :
    Orderly (h, srv) (.datagram data ip port) := by
  show if IsJoin data then srv.world.freeids ≠ [] else iPtoClientAddr ip port ∈ h.joined
  rwa [if_pos join]

theorem orderly_later {h : History} {data : List UInt8} {ip : UInt32} {port : UInt16}
    (srv : Server) (later : ¬ IsJoin data) (joined : iPtoClientAddr ip port ∈ h.joined) :
    Orderly (h, srv) (.datagram data ip port) := by
  show if IsJoin data then srv.world.freeids ≠ [] else iPtoClientAddr ip port ∈ h.joined
  rwa [if_neg later]

/-- Two clients of one IP join, and each of them sends something. -/
theorem client_bound_of_two :
    ∃ srv, Run Step start [.datagram emptyJoin 1 2, .datagram emptyJoin 1 3,
      .datagram [0, 0, 0] 1 2, .datagram [0, 0, 0] 1 3] srv ∧
      BoundAlone srv 1 2 ∧ BoundAlone srv 1 3 := by
  obtain ⟨s₁, s₂, s₃, s₄, first, second, third, fourth, left⟩ : ∃ s₁ s₂ s₃ s₄,
      Step start (.datagram emptyJoin 1 2) s₁ ∧ Step s₁ (.datagram emptyJoin 1 3) s₂ ∧
      Step s₂ (.datagram [0, 0, 0] 1 2) s₃ ∧ Step s₃ (.datagram [0, 0, 0] 1 3) s₄ ∧
      s₁.world.freeids ≠ [] :=
    ⟨_, _, _, _, rfl, rfl, rfl, rfl, List.cons_ne_nil _ _⟩
  have join : IsJoin emptyJoin := by decide
  have later : ¬ IsJoin [0, 0, 0] := by decide
  have two : (2 : UInt16) ≠ 0 := by decide
  have three : (3 : UInt16) ≠ 0 := by decide
  let h₂ := (History.empty.record (.datagram emptyJoin 1 2)).record (.datagram emptyJoin 1 3)
  let h₃ := h₂.record (.datagram [0, 0, 0] 1 2)
  have joined₂ : iPtoClientAddr 1 2 ∈ h₂.joined := .inr (.inl ⟨rfl, join⟩)
  have joined₃ : iPtoClientAddr 1 3 ∈ h₃.joined := .inr (.inl ⟨rfl, join⟩)
  have rest : Run (guarded OrderlyFromPorts (recording History.record Step)) (h₂, s₂)
      [.datagram [0, 0, 0] 1 2, .datagram [0, 0, 0] 1 3]
      (h₃.record (.datagram [0, 0, 0] 1 3), s₄) :=
    .cons ⟨⟨orderly_later s₂ later joined₂, two⟩, rfl, third⟩
      (.cons ⟨⟨orderly_later s₃ later joined₃, three⟩, rfl, fourth⟩ (.nil _))
  have bound := (client_bound
    (.cons ⟨⟨orderly_join 1 2 join (List.cons_ne_nil _ _), two⟩, rfl, first⟩
      (.cons ⟨⟨orderly_join 1 3 join left, three⟩, rfl, second⟩ rest))).1
  exact ⟨s₄, .cons first (.cons second (.cons third (.cons fourth (.nil s₄)))),
    bound 1 2 (.inr (.inl ⟨rfl, joined₂⟩)), bound 1 3 (.inl ⟨rfl, joined₃⟩)⟩

/-- A client on port 0 joins and sends something, then a client of its IP joins: the entry of
the first is the key of the joins, and the session goes to the second. -/
theorem port_zero_loses_session :
    ¬ ∀ events h srv, Run (guarded Orderly (recording History.record Step))
      (History.empty, start) events (h, srv) →
      ∀ ip port, iPtoClientAddr ip port ∈ h.spoken → BoundAlone srv ip port := by
  intro bound
  obtain ⟨s₁, s₂, s₃, first, second, third, left, entry, session, found, client⟩ : ∃ s₁ s₂ s₃,
      Step start (.datagram emptyJoin 1 0) s₁ ∧ Step s₁ (.datagram [0, 0, 0] 1 0) s₂ ∧
      Step s₂ (.datagram emptyJoin 1 2) s₃ ∧ s₂.world.freeids ≠ [] ∧
      s₃.socket.sessions.lookup (iPtoClientAddr 1 0) = some 2 ∧
      ∃ session, s₃.world.findSession 2 = some session ∧ session.client ≠ iPtoClientAddr 1 0 :=
    ⟨_, _, _, rfl, rfl, rfl, List.cons_ne_nil _ _, rfl, _, rfl, by decide⟩
  have join : IsJoin emptyJoin := by decide
  have later : ¬ IsJoin [0, 0, 0] := by decide
  let h₁ := History.empty.record (.datagram emptyJoin 1 0)
  let h₂ := h₁.record (.datagram [0, 0, 0] 1 0)
  let h₃ := h₂.record (.datagram emptyJoin 1 2)
  have joined : iPtoClientAddr 1 0 ∈ h₁.joined := .inl ⟨rfl, join⟩
  have spoken : iPtoClientAddr 1 0 ∈ h₃.spoken := .inr (.inl ⟨rfl, joined⟩)
  have run : Run (guarded Orderly (recording History.record Step)) (History.empty, start)
      [.datagram emptyJoin 1 0, .datagram [0, 0, 0] 1 0, .datagram emptyJoin 1 2] (h₃, s₃) :=
    .cons ⟨orderly_join 1 0 join (List.cons_ne_nil _ _), rfl, first⟩
      (.cons ⟨orderly_later s₁ later joined, rfl, second⟩
        (.cons ⟨orderly_join 1 2 join left, rfl, third⟩ (.nil (h₃, s₃))))
  obtain ⟨id, session', entry', found', client', _⟩ := bound _ _ _ run 1 0 spoken
  rw [entry] at entry'
  cases entry'
  rw [found] at found'
  cases found'
  exact client client'

end NoxServer.Server
