import NoxServer.Awesie.Steps

/-!
The datagrams of the clients of the server under `awesie_test`.

The table tells clients apart by their addresses only, for a client's port is not known before
it confirms its join. So the session under an address is the one the latest join from there made
(`Placed`), and a datagram is queued to the session of its sender's latest join as long as no other
client has joined from that address since (`Displaced`). While only such datagrams arrive, a session
sends to the client that made it (`datagrams_routed`).
-/

namespace NoxServer

namespace Awesie

open Consume Frames Runs

variable {η : Type} {rest : Rest η}

/-! ### Joins -/

/-- The session is the one the latest join of the client made. -/
def Server.LatestJoin (s : Server η) (sender : Endpoint) (ptr : Nat) : Prop :=
  s.joins[ptr]? = some sender ∧ ∀ later, ptr < later → s.joins[later]? ≠ some sender

/-- The client joined with the session. -/
def Server.JoinedFrom (s : Server η) (ptr : Nat) (endpoint : Endpoint) : Prop :=
  s.joins[ptr]? = some endpoint

/-- Another client has joined from the client's address, and the client has not joined since. -/
def Server.Displaced (s : Server η) (sender : Endpoint) : Prop :=
  ∃ (ptr : Nat) (other : Endpoint), s.joins[ptr]? = some other ∧
    other.address = sender.address ∧ other ≠ sender ∧
    ∀ later, ptr < later → s.joins[later]? ≠ some sender

/-- The session is the one the latest join from the address made. -/
structure Server.LatestAt (s : Server η) (address : UInt32) (ptr : Nat) : Prop where
  joined : ∃ owner, s.joins[ptr]? = some owner ∧ owner.address = address
  newest : ∀ later : Nat, ptr < later → ∀ other, s.joins[later]? = some other →
    other.address ≠ address

/-- The latest join from an address is the client's, if it is not displaced. -/
theorem Server.LatestAt.joinedFrom {s : Server η} {sender : Endpoint} {ptr : Nat}
    (latest : s.LatestAt sender.address ptr) (apart : ¬s.Displaced sender) :
    s.JoinedFrom ptr sender := by
  obtain ⟨owner, joined, same⟩ := latest.joined
  by_cases own : owner = sender
  · exact own ▸ joined
  · refine absurd ⟨ptr, owner, joined, same, own, fun later above is => ?_⟩ apart
    exact latest.newest later above sender is rfl

/-- The latest join of a client is the latest one from its address exactly if the client is not
displaced. -/
theorem Server.LatestJoin.latestAt_iff {s : Server η} {sender : Endpoint} {ptr : Nat}
    (latest : s.LatestJoin sender ptr) : s.LatestAt sender.address ptr ↔ ¬s.Displaced sender := by
  constructor
  · rintro newest ⟨place, other, joined, same, ne, none⟩
    rcases Nat.lt_trichotomy ptr place with after | here | before
    · exact newest.newest place after other joined same
    · subst here
      exact ne (Option.some.inj (joined.symm.trans latest.1))
    · exact none ptr before latest.1
  · intro apart
    refine ⟨⟨sender, latest.1, rfl⟩, fun later above other joined same => apart ?_⟩
    refine ⟨later, other, joined, same, fun own => latest.2 later above (own ▸ joined), ?_⟩
    exact fun more beyond => latest.2 more (Nat.lt_trans above beyond)

/-! ### The table -/

/-- The table has the session of the latest join from each address, as long as it lives. -/
structure Placed (s : Server η) : Prop where
  sorted : OrderedMap.Sorted udpEndpointLess s.sessions
  aligned : s.joins.length = s.heap.length
  entry : ∀ sender ptr, findEntry sender s.sessions = some ptr → s.LatestAt sender.address ptr
  found : ∀ sender ptr here, s.LatestAt sender.address ptr → s.session? ptr = some here →
    findEntry sender s.sessions = some ptr

/-- The table, and where the sessions send to. -/
structure Routed (s : Server η) : Prop extends Placed s where
  bound : Bound s.JoinedFrom s

theorem SameIds.live {s t : Server η} (same : SameIds s t) {ptr : Nat} {there : WorldSession}
    (live : t.session? ptr = some there) : ∃ here, s.session? ptr = some here := by
  have is := same.playerId ptr
  rw [live, Option.map_some] at is
  obtain ⟨here, live', -⟩ := Option.map_eq_some_iff.mp is.symm
  exact ⟨here, live'⟩

theorem SameIds.latestAt {s t : Server η} (same : SameIds s t) {address : UInt32} {ptr : Nat} :
    t.LatestAt address ptr ↔ s.LatestAt address ptr := by
  constructor
  · rintro ⟨joined, newest⟩
    rw [same.joins] at joined newest
    exact ⟨joined, newest⟩
  · rintro ⟨joined, newest⟩
    rw [← same.joins] at joined newest
    exact ⟨joined, newest⟩

/-- What moves no session keeps the table. -/
theorem SameIds.placed {s t : Server η} (same : SameIds s t) (placed : Placed s) : Placed t := by
  refine ⟨?_, ?_, fun sender ptr found => ?_, fun sender ptr there latest live => ?_⟩
  · rw [same.sessions]
    exact placed.sorted
  · rw [same.joins, same.size]
    exact placed.aligned
  · rw [same.sessions] at found
    exact same.latestAt.mpr (placed.entry sender ptr found)
  · obtain ⟨here, live'⟩ := same.live live
    rw [same.sessions]
    exact placed.found sender ptr here (same.latestAt.mp latest) live'

/-- What moves no session and sends where it may keeps the routes. -/
theorem SameIds.routed {s t : Server η} (same : SameIds s t) (routed : Routed s)
    (bound : Bound s.JoinedFrom t) : Routed t := by
  refine ⟨same.placed routed.toPlaced, bound.mono fun ptr endpoint joined => ?_⟩
  rw [Server.JoinedFrom, same.joins]
  exact joined

/-- A join is the last of the joins, and the others are as they were. -/
theorem joins_joined {s : Server η} (aligned : s.joins.length = s.heap.length) (sender : Endpoint)
    (ptr : Nat) (endpoint : Endpoint) :
    (s.joined sender).joins[ptr]? = some endpoint ↔
      (ptr = s.heap.length ∧ endpoint = sender) ∨
        (ptr < s.heap.length ∧ s.joins[ptr]? = some endpoint) := by
  have joins : (s.joined sender).joins = s.joins ++ [sender] := rfl
  rw [joins, ← aligned]
  rcases Nat.lt_trichotomy ptr s.joins.length with inside | here | outside
  · rw [List.getElem?_append_left inside]
    simp [inside, Nat.ne_of_lt inside]
  · subst here
    rw [List.getElem?_concat_length]
    simp [eq_comm]
  · have beyond : (s.joins ++ [sender]).length ≤ ptr := by
      rw [List.length_append, List.length_singleton]
      exact outside
    rw [List.getElem?_eq_none beyond]
    simp [Nat.not_lt_of_gt outside, Nat.ne_of_gt outside]

/-- After a join the latest at its address is the session it has just made, and at other addresses
it is the one it was. -/
theorem latestAt_joined {s : Server η} (aligned : s.joins.length = s.heap.length)
    (sender : Endpoint) (address : UInt32) (ptr : Nat) :
    (s.joined sender).LatestAt address ptr ↔
      if sender.address = address then ptr = s.heap.length else s.LatestAt address ptr := by
  have each := joins_joined aligned sender
  have inside {place : Nat} {endpoint : Endpoint} (is : s.joins[place]? = some endpoint) :
      place < s.heap.length := aligned ▸ (List.getElem?_eq_some_iff.mp is).1
  by_cases here : sender.address = address
  · rw [if_pos here]
    constructor
    · rintro ⟨⟨owner, joined, -⟩, newest⟩
      rcases (each ptr owner).mp joined with ⟨last, -⟩ | ⟨before, -⟩
      · exact last
      · exact absurd here (newest _ before sender ((each _ sender).mpr (.inl ⟨rfl, rfl⟩)))
    · rintro rfl
      refine ⟨⟨sender, (each _ sender).mpr (.inl ⟨rfl, rfl⟩), here⟩, fun later above other is => ?_⟩
      rcases (each later other).mp is with ⟨last, -⟩ | ⟨before, -⟩ <;> omega
  · rw [if_neg here]
    constructor
    · rintro ⟨⟨owner, joined, same⟩, newest⟩
      rcases (each ptr owner).mp joined with ⟨-, rfl⟩ | ⟨-, joined⟩
      · exact absurd same here
      · refine ⟨⟨owner, joined, same⟩, fun later above other is => ?_⟩
        exact newest later above other ((each later other).mpr (.inr ⟨inside is, is⟩))
    · rintro ⟨⟨owner, joined, same⟩, newest⟩
      refine ⟨⟨owner, (each ptr owner).mpr (.inr ⟨inside joined, joined⟩), same⟩, ?_⟩
      intro later above other is
      rcases (each later other).mp is with ⟨-, rfl⟩ | ⟨-, is⟩
      · exact here
      · exact newest later above other is

theorem findEntry_joined (s : Server η) (sender client : Endpoint) :
    findEntry client (s.joined sender).sessions =
      if sender.address = client.address then some s.heap.length
      else findEntry client s.sessions := by
  have found : findEntry client (s.joined sender).sessions =
      if OrderedMap.Same udpEndpointLess sender client then some s.heap.length
      else findEntry client s.sessions := OrderedMap.find_put udpEndpointLess_weak ..
  rw [found]
  exact if_congr same_iff rfl rfl

/-- A join takes the place of what its address had. -/
theorem Placed.joined {s : Server η} (placed : Placed s) (sender : Endpoint) :
    Placed (s.joined sender) := by
  refine ⟨placed.sorted.put udpEndpointLess_weak sender s.heap.length, ?_, ?_, ?_⟩
  · have joins : (s.joined sender).joins = s.joins ++ [sender] := rfl
    have heap : (s.joined sender).heap.length = s.heap.length + 1 := List.length_append
    rw [joins, List.length_append, placed.aligned, heap, List.length_singleton]
  · intro client ptr found
    rw [findEntry_joined] at found
    rw [latestAt_joined placed.aligned]
    split at found
    · next same =>
        rw [if_pos same]
        exact (Option.some.inj found).symm
    · next other =>
        rw [if_neg other]
        exact placed.entry client ptr found
  · intro client ptr here latest live
    rw [latestAt_joined placed.aligned] at latest
    rw [findEntry_joined]
    split at latest
    · next same => rw [if_pos same, latest]
    · next other =>
        rw [if_neg other]
        have before : ptr ≠ s.heap.length := by
          obtain ⟨owner, joined, -⟩ := latest.joined
          have inside := (List.getElem?_eq_some_iff.mp joined).1
          have aligned := placed.aligned
          omega
        rw [session?_joined, if_neg before] at live
        exact placed.found client ptr here latest live

/-- A deletion takes away the entry of what it deletes. -/
theorem Placed.deleted {s : Server η} (placed : Placed s) {key : Endpoint} {ptr : Nat}
    {here : WorldSession} (found : findEntry key s.sessions = some ptr)
    (live : s.session? ptr = some here) (id : UInt8) : Placed (s.deleted key ptr id) := by
  have left (sender : Endpoint) : findEntry sender (s.deleted key ptr id).sessions =
      if OrderedMap.Same udpEndpointLess key sender then none
      else findEntry sender s.sessions :=
    OrderedMap.find_erase udpEndpointLess_weak key sender placed.sorted
  refine ⟨placed.sorted.erase key, ?_, fun sender ptr' there => ?_, ?_⟩
  · rw [Server.deleted, List.length_set]
    exact placed.aligned
  · rw [left] at there
    split at there
    · cases there
    · obtain ⟨joined, newest⟩ := placed.entry sender ptr' there
      exact ⟨joined, newest⟩
  · rintro sender ptr' there ⟨joined, newest⟩ live'
    rw [session?_deleted live] at live'
    split at live'
    · cases live'
    · next other =>
        have was := placed.found sender ptr' there ⟨joined, newest⟩ live'
        rw [left, was]
        split
        · next same =>
            exfalso
            rw [findEntry, OrderedMap.find_same udpEndpointLess_weak same] at found
            exact other (Option.some.inj (was.symm.trans found))
        · rfl

theorem Placed.of_deleted {s t : Server η} {key : Endpoint} (placed : Placed s)
    (deletion : Deleted s key t) : Placed t := by
  cases deletion with
  | absent => exact placed
  | @deleted ptr here mid found live keeps =>
      obtain ⟨same, -⟩ := keeps _ (bound_true s)
      have is := same.playerId ptr
      rw [live, Option.map_some] at is
      obtain ⟨there, live', -⟩ := Option.map_eq_some_iff.mp is
      exact (same.placed placed).deleted (by rw [same.sessions]; exact found) live' _

theorem sameIds_queued {s : Server η} {ptr : Nat} {here : WorldSession}
    (live : s.session? ptr = some here) (packet : WorldPacket) :
    SameIds s (s.queued ptr here packet) := by
  refine ⟨rfl, rfl, rfl, List.length_set, fun ptr' => ?_⟩
  rw [session?_queued live]
  split
  · next is =>
      rw [is, live]
      rfl
  · rfl

/-- Every step keeps the table. -/
theorem Placed.step {s t : Server η} {action : Action} (placed : Placed s)
    (step : Step rest s action t) : Placed t := by
  cases action with
  | receive sender err bytes =>
      cases receive_cases step with
      | dropped => exact placed
      | answered packet =>
          have same : SameIds s { s with sendQueue := s.sendQueue ++ [(none, packet)] } :=
            ⟨rfl, rfl, rfl, rfl, fun _ => rfl⟩
          exact same.placed placed
      | joined join => exact placed.joined sender
      | queued _ _ _ _ live _ => exact (sameIds_queued live _).placed placed
  | tick rounds =>
      refine tick_invariant (fun mid keeps => ?_) (fun _ _ _ => Placed.of_deleted)
        (fun s placed => ?_) step
      · exact (keeps _ (bound_true s)).1.placed placed
      · have same : SameIds s s.flushed := ⟨rfl, rfl, rfl, rfl, fun _ => rfl⟩
        exact same.placed placed

/-! ### Where sessions send to -/

/-- Every datagram that is for a session comes from a client that is not displaced. -/
def Apart (s : Server η) : Action → Prop
  | .receive sender err bytes => ∀ cmd, s.command sender err bytes = some cmd →
      cmd ≠ 0x0C → cmd ≠ 0x0E → ¬s.Displaced sender
  | .tick _ => True

/-- A join makes a session that sends to its client. -/
theorem Routed.joined {s : Server η} (routed : Routed s) (sender : Endpoint) :
    Routed (s.joined sender) := by
  have each := joins_joined routed.aligned sender
  have kept : Bound (s.joined sender).JoinedFrom s := routed.bound.mono fun ptr endpoint is =>
    (each ptr endpoint).mpr
      (.inr ⟨routed.aligned ▸ (List.getElem?_eq_some_iff.mp is).1, is⟩)
  refine ⟨routed.toPlaced.joined sender, fun ptr here live => ?_, fun ptr packet mem => ?_,
    kept.sent⟩
  · rw [session?_joined] at live
    split at live
    · next new =>
        cases live
        exact ⟨(each ptr sender).mpr (.inl ⟨new, rfl⟩), nofun⟩
    · exact kept.session ptr here live
  · rcases List.mem_append.mp mem with old | own
    · exact kept.queued ptr packet old
    · cases List.mem_singleton.mp own

theorem Routed.of_deleted {s t : Server η} {key : Endpoint} (routed : Routed s)
    (deletion : Deleted s key t) : Routed t := by
  refine ⟨routed.toPlaced.of_deleted deletion, ?_⟩
  cases deletion with
  | absent => exact routed.bound
  | @deleted ptr here mid found live keeps =>
      obtain ⟨same, bound⟩ := keeps s.JoinedFrom routed.bound
      have is := same.playerId ptr
      rw [live, Option.map_some] at is
      obtain ⟨there, live', -⟩ := Option.map_eq_some_iff.mp is
      have bound : Bound mid.JoinedFrom mid := (same.routed routed bound).bound
      refine ⟨fun ptr' there' left => ?_, bound.queued, bound.sent⟩
      rw [session?_deleted live'] at left
      split at left
      · cases left
      · exact bound.session ptr' there' left

/-- A step whose sender is not displaced keeps the routes. -/
theorem Routed.step {s t : Server η} {action : Action} (routed : Routed s)
    (step : guarded Apart (Step rest) s action t) : Routed t := by
  obtain ⟨apart, step⟩ := step
  cases action with
  | receive sender err bytes =>
      cases receive_cases step with
      | dropped => exact routed
      | answered packet =>
          have same : SameIds s { s with sendQueue := s.sendQueue ++ [(none, packet)] } :=
            ⟨rfl, rfl, rfl, rfl, fun _ => rfl⟩
          refine same.routed routed ⟨routed.bound.session, fun ptr there mem => ?_,
            routed.bound.sent⟩
          rcases List.mem_append.mp mem with old | own
          · exact routed.bound.queued ptr there old
          · cases List.mem_singleton.mp own
      | joined join => exact routed.joined sender
      | @queued ptr here packet cmd is noPing noJoin found live from_ =>
          refine (sameIds_queued live packet).routed routed ⟨fun ptr' there live' => ?_,
            routed.bound.queued, routed.bound.sent⟩
          rw [session?_queued live] at live'
          split at live'
          · next is' =>
              cases live'
              rw [is']
              have own := routed.bound.session ptr here live
              refine ⟨own.endpoint, fun there mem => ?_⟩
              rcases List.mem_append.mp mem with old | new
              · exact own.received there old
              · cases List.mem_singleton.mp new
                rw [from_]
                exact (routed.entry sender ptr found).joinedFrom (apart cmd is noPing noJoin)
          · exact routed.bound.session ptr' there live'
  | tick rounds =>
      refine tick_invariant (fun mid keeps => ?_) (fun _ _ _ => Routed.of_deleted)
        (fun s routed => ?_) step
      · obtain ⟨same, bound⟩ := keeps s.JoinedFrom routed.bound
        exact same.routed routed bound
      · have same : SameIds s s.flushed := ⟨rfl, rfl, rfl, rfl, fun _ => rfl⟩
        refine same.routed routed ⟨routed.bound.session, nofun, fun ptr endpoint bytes mem => ?_⟩
        rcases List.mem_append.mp mem with old | new
        · exact routed.bound.sent ptr endpoint bytes old
        · obtain ⟨⟨sender, packet⟩, queued, is⟩ := List.mem_map.mp new
          cases is
          exact routed.bound.queued ptr packet queued

theorem placed_start (world : η) : Placed (start world) := ⟨.nil, rfl, nofun, nofun⟩

theorem routed_start (world : η) : Routed (start world) :=
  ⟨placed_start world, nofun, nofun, nofun⟩

/-! ### Datagrams -/

/-- A datagram for a session is queued to it. -/
theorem receive_queued {s : Server η} {sender : Endpoint} {bytes data : List UInt8}
    {plr unk cmd : UInt8} {ptr : Nat} {here : WorldSession}
    (content : s.decipher sender bytes = plr :: unk :: cmd :: data) (noPing : cmd ≠ 0x0C)
    (noJoin : cmd ≠ 0x0E) (found : findEntry sender s.sessions = some ptr)
    (live : s.session? ptr = some here) :
    receive sender false bytes s =
      .ok ((), s.queued ptr here (packetFrom sender plr unk cmd data)) := by
  have got : (get : Handling η (Server η)) s = .ok (s, s) := rfl
  have access : session ptr s = .ok (here, s) := by
    rw [session, live]
  rw [receive, if_neg Bool.false_ne_true, run_bind_ok got, content]
  dsimp only
  rw [if_neg noPing, if_neg noJoin, found, queueReceived, modifySession, run_bind_ok access]
  rfl

/-- In every run, the session of a client's latest join is found for it exactly if no other client
has joined from its address since. -/
theorem findEntry_iff {world : η} {actions : List Action} {s : Server η}
    (run : Run (Step rest) (start world) actions s) {sender : Endpoint} {ptr : Nat}
    {here : WorldSession} (latest : s.LatestJoin sender ptr) (live : s.session? ptr = some here) :
    findEntry sender s.sessions = some ptr ↔ ¬s.Displaced sender := by
  have placed : Placed s := run.invariant (fun _ _ _ => Placed.step) (placed_start world)
  rw [← latest.latestAt_iff]
  exact ⟨placed.entry sender ptr, fun newest => placed.found sender ptr here newest live⟩

/-- In every run, a datagram of a client reaches the session its latest join made, as long as no
other client has joined from its address since; and where all datagrams that were for sessions came
from such clients, all that a session has sent went to the client that made it. -/
theorem datagrams_routed (rest : Rest η) (world : η) {actions : List Action} {s : Server η}
    (run : Run (Step rest) (start world) actions s) :
    (∀ sender ptr here bytes plr unk cmd data, s.LatestJoin sender ptr →
      s.session? ptr = some here → ¬s.Displaced sender →
      s.decipher sender bytes = plr :: unk :: cmd :: data → cmd ≠ 0x0C → cmd ≠ 0x0E →
      findEntry sender s.sessions = some ptr ∧
        apply rest (.receive sender false bytes) s =
          .ok ((), s.queued ptr here (packetFrom sender plr unk cmd data))) ∧
    (Run (guarded Apart (Step rest)) (start world) actions s →
      ∀ ptr endpoint bytes, (some ptr, endpoint, bytes) ∈ s.sent →
        s.joins[ptr]? = some endpoint) := by
  refine ⟨fun sender ptr here bytes plr unk cmd data latest live apart content noPing noJoin => ?_,
    fun guardedRun => ?_⟩
  · have found := (findEntry_iff run latest live).mpr apart
    exact ⟨found, receive_queued content noPing noJoin found live⟩
  · have kept : Routed s :=
      guardedRun.invariant (fun _ _ _ => Routed.step) (routed_start world)
    exact kept.bound.sent

/-! ### Clients at one address -/

def firstClient : Endpoint := ⟨0x0A000001, 1000⟩

def secondClient : Endpoint := ⟨0x0A000001, 2000⟩

/-- The confirmation of a join. -/
def confirmBytes : List UInt8 := [0xFF, 0, 0]

/-- A client that has joined last is not displaced. -/
theorem not_displaced_of_last {s : Server η} {sender : Endpoint} (before : List Endpoint)
    (joins : s.joins = before ++ [sender]) : ¬s.Displaced sender := by
  rintro ⟨ptr, other, joined, -, ne, none⟩
  rw [joins] at joined none
  have inside := (List.getElem?_eq_some_iff.mp joined).1
  rw [List.length_append, List.length_singleton] at inside
  rcases Nat.lt_succ_iff_lt_or_eq.mp inside with earlier | last
  · exact none before.length earlier List.getElem?_concat_length
  · subst last
    rw [List.getElem?_concat_length] at joined
    exact ne (Option.some.inj joined).symm

/-- The first client joins and confirms, then the second one does, from the same address; then the
sessions are updated. -/
theorem datagrams_routed_confirm : ∃ s, Run (guarded Apart (Step Rest.nothing)) (start ())
      [.receive firstClient false joinBytes, .receive firstClient false confirmBytes,
        .receive secondClient false joinBytes, .receive secondClient false confirmBytes,
        .tick 1] s ∧
    (∀ sender ptr here bytes plr unk cmd data, s.LatestJoin sender ptr →
      s.session? ptr = some here → ¬s.Displaced sender →
      s.decipher sender bytes = plr :: unk :: cmd :: data → cmd ≠ 0x0C → cmd ≠ 0x0E →
      findEntry sender s.sessions = some ptr ∧
        apply Rest.nothing (.receive sender false bytes) s =
          .ok ((), s.queued ptr here (packetFrom sender plr unk cmd data))) ∧
    ∀ ptr endpoint bytes, (some ptr, endpoint, bytes) ∈ s.sent → s.joins[ptr]? = some endpoint := by
  have first : Step Rest.nothing (start ()) (.receive firstClient false joinBytes)
      ((start ()).joined firstClient) := receive_join rfl (by decide)
  have second : Step Rest.nothing ((start ()).joined firstClient)
      (.receive firstClient false confirmBytes) (((start ()).joined firstClient).queued 0
        (.new 1 firstClient) (packetFrom firstClient 0xFF 0 0 [])) :=
    receive_queued rfl (by decide) (by decide) rfl rfl
  let confirmed := ((start ()).joined firstClient).queued 0 (.new 1 firstClient)
    (packetFrom firstClient 0xFF 0 0 [])
  have third : Step Rest.nothing confirmed (.receive secondClient false joinBytes)
      (confirmed.joined secondClient) := receive_join rfl (by decide)
  have fourth : Step Rest.nothing (confirmed.joined secondClient)
      (.receive secondClient false confirmBytes) ((confirmed.joined secondClient).queued 1
        (.new 2 secondClient) (packetFrom secondClient 0xFF 0 0 [])) :=
    receive_queued rfl (by decide) (by decide) rfl rfl
  obtain ⟨s, fifth⟩ : ∃ s, Step Rest.nothing ((confirmed.joined secondClient).queued 1
      (.new 2 secondClient) (packetFrom secondClient 0xFF 0 0 [])) (.tick 1) s :=
    exists_of_isOk (by decide +kernel)
  have join {s : Server Unit} {sender : Endpoint}
      (command : s.command sender false joinBytes = some 0x0E) :
      Apart s (.receive sender false joinBytes) := by
    intro cmd is _ noJoin
    rw [command] at is
    exact absurd (Option.some.inj is).symm noJoin
  have run : Run (guarded Apart (Step Rest.nothing)) (start ())
      [.receive firstClient false joinBytes, .receive firstClient false confirmBytes,
        .receive secondClient false joinBytes, .receive secondClient false confirmBytes,
        .tick 1] s :=
    .cons ⟨join rfl, first⟩
      (.cons ⟨fun _ _ _ _ => not_displaced_of_last [] rfl, second⟩
        (.cons ⟨join rfl, third⟩
          (.cons ⟨fun _ _ _ _ => not_displaced_of_last [firstClient] rfl, fourth⟩
            (.single ⟨trivial, fifth⟩))))
  obtain ⟨reached, sent⟩ := datagrams_routed Rest.nothing () run.unguarded
  exact ⟨s, run, reached, sent run⟩

/-- Two clients at one address: a datagram of the first one goes to the session of the second,
though its own session has not ended. -/
theorem datagram_misrouted : ∃ s, Run (Step Rest.nothing) (start ())
      [.receive firstClient false joinBytes, .receive secondClient false joinBytes] s ∧
    s.LatestJoin firstClient 0 ∧ s.session? 0 = some (.new 1 firstClient) ∧
    apply Rest.nothing (.receive firstClient false confirmBytes) s =
      .ok ((), s.queued 1 (.new 2 secondClient) (packetFrom firstClient 0xFF 0 0 [])) := by
  have first : Step Rest.nothing (start ()) (.receive firstClient false joinBytes)
      ((start ()).joined firstClient) := receive_join rfl (by decide)
  have second : Step Rest.nothing ((start ()).joined firstClient)
      (.receive secondClient false joinBytes)
      (((start ()).joined firstClient).joined secondClient) := receive_join rfl (by decide)
  refine ⟨_, .cons first (.single second), ⟨rfl, fun later above => ?_⟩, rfl, ?_⟩
  · rcases later with _ | _ | later
    · cases above
    · decide
    · exact nofun
  · exact receive_queued rfl (by decide) (by decide) rfl rfl

end Awesie

end NoxServer
