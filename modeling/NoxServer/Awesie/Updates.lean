import NoxServer.Library.Frames
import NoxServer.Awesie.WorldSocket

/-!
What the update of a session keeps.

An update leaves the free ids, the table of the socket and every session's id as they are
(`SameIds`). Where a session sends comes from where its packets came from, so what holds of
the endpoints of the packets it received holds of those it sends to (`Bound`).
-/

namespace NoxServer

namespace Awesie

open Frames

variable {η : Type} {P : Nat → Endpoint → Prop}

/-- What holds of the endpoints a session may come to send to. -/
structure SessionBound (P : Nat → Endpoint → Prop) (ptr : Nat) (here : WorldSession) : Prop where
  endpoint : P ptr here.endpoint
  received : ∀ packet ∈ here.receiveQueue, P ptr packet.endpoint

/-- The property holds of all endpoints of the sessions and of all they have sent. -/
structure Bound (P : Nat → Endpoint → Prop) (s : Server η) : Prop where
  session : ∀ ptr here, s.session? ptr = some here → SessionBound P ptr here
  queued : ∀ ptr packet, (some ptr, packet) ∈ s.sendQueue → P ptr packet.endpoint
  sent : ∀ ptr endpoint bytes, (some ptr, endpoint, bytes) ∈ s.sent → P ptr endpoint

theorem bound_true (s : Server η) : Bound (fun _ _ => True) s where
  session _ _ _ := ⟨trivial, fun _ _ => trivial⟩
  queued _ _ _ := trivial
  sent _ _ _ _ := trivial

theorem Bound.mono {Q : Nat → Endpoint → Prop} {s : Server η} (bound : Bound P s)
    (weaker : ∀ ptr endpoint, P ptr endpoint → Q ptr endpoint) : Bound Q s where
  session ptr here live :=
    have own := bound.session ptr here live
    ⟨weaker ptr _ own.endpoint, fun packet mem => weaker ptr _ (own.received packet mem)⟩
  queued ptr packet mem := weaker ptr _ (bound.queued ptr packet mem)
  sent ptr endpoint bytes mem := weaker ptr _ (bound.sent ptr endpoint bytes mem)

/-- The ids are with the same sessions, in the same table. -/
structure SameIds (s t : Server η) : Prop where
  freeIds : t.freeIds = s.freeIds
  sessions : t.sessions = s.sessions
  joins : t.joins = s.joins
  size : t.heap.length = s.heap.length
  playerId : ∀ ptr, (t.session? ptr).map (·.playerId) = (s.session? ptr).map (·.playerId)

/-- What an update of a session keeps. -/
def updateFrame (P : Nat → Endpoint → Prop) : Frame (Server η) where
  inv := Bound P
  rel := SameIds
  refl _ := ⟨rfl, rfl, rfl, rfl, fun _ => rfl⟩
  trans _ _ _ first second :=
    ⟨second.freeIds.trans first.freeIds, second.sessions.trans first.sessions,
      second.joins.trans first.joins, second.size.trans first.size,
      fun ptr => (second.playerId ptr).trans (first.playerId ptr)⟩

/-- The sessions once one of them is written. -/
theorem session?_set {s : Server η} {ptr : Nat} {here : WorldSession}
    (live : s.session? ptr = some here) (there : Option WorldSession) (ptr' : Nat) :
    (s.heap.set ptr there)[ptr']?.join = if ptr' = ptr then there else s.session? ptr' := by
  have inside : ptr < s.heap.length := by
    by_contra outside
    rw [Server.session?, List.getElem?_eq_none (Nat.le_of_not_lt outside)] at live
    cases live
  by_cases same : ptr' = ptr
  · subst same
    rw [if_pos rfl, List.getElem?_set_self inside, Option.join_some]
  · rw [if_neg same, List.getElem?_set_ne (Ne.symm same), Server.session?]

/-- A change of the players and of the rest of the world. -/
theorem keeps_modify_world {f : Server η → Server η}
    (only : ∀ s, f s = { s with world := (f s).world, players := (f s).players }) :
    Keeps (updateFrame P) (modify f : Handling η PUnit) fun _ => True := by
  refine keeps_modify (fun s _ => ?_) fun s bound => ?_
  · rw [only s]
    exact ⟨rfl, rfl, rfl, rfl, fun _ => rfl⟩
  · rw [only s]
    exact ⟨bound.session, bound.queued, bound.sent⟩

theorem session_keeps (ptr : Nat) :
    Keeps (updateFrame P) (session ptr : Handling η WorldSession) (SessionBound P ptr) := by
  intro s here t bound run
  unfold session at run
  split at run
  · next live =>
      cases run
      exact ⟨(updateFrame P).refl _, bound, bound.session ptr here live⟩
  · cases run

/-- An access to a live session. -/
theorem session_run {ptr : Nat} {s : Server η} {here : WorldSession}
    (live : s.session? ptr = some here) : session ptr s = .ok (here, s) := by
  unfold session
  rw [live]

theorem session_eq_ok {ptr : Nat} {s t : Server η} {here : WorldSession}
    (run : session ptr s = .ok (here, t)) : s.session? ptr = some here ∧ t = s := by
  unfold session at run
  split at run
  · next live =>
      cases run
      exact ⟨live, rfl⟩
  · cases run

theorem modifySession_run {ptr : Nat} {s : Server η} {here : WorldSession}
    (live : s.session? ptr = some here) (f : WorldSession → WorldSession) :
    modifySession ptr f s = .ok ((), { s with heap := s.heap.set ptr (some (f here)) }) := by
  unfold modifySession
  rw [Consume.run_bind_ok (session_run live)]
  rfl

theorem modifySession_eq_ok {ptr : Nat} {f : WorldSession → WorldSession} {s t : Server η}
    {x : Unit} (run : modifySession ptr f s = .ok (x, t)) :
    ∃ here, s.session? ptr = some here ∧ t = { s with heap := s.heap.set ptr (some (f here)) } := by
  unfold modifySession session at run
  simp only [Bind.bind, StateT.bind] at run
  cases live : s.session? ptr with
  | none =>
      rw [live] at run
      cases run
  | some here =>
      rw [live] at run
      cases run
      exact ⟨here, rfl, rfl⟩

/-- A change of one session that keeps its id, and what is asked of what it sends, keeps that of the
server. -/
theorem modifySession_keeps (ptr : Nat) {f : WorldSession → WorldSession}
    (playerId : ∀ here, (f here).playerId = here.playerId)
    (keeps : ∀ here, SessionBound P ptr here → SessionBound P ptr (f here)) :
    Keeps (updateFrame P) (modifySession ptr f : Handling η Unit) fun _ => True := by
  intro s _ t bound run
  obtain ⟨here, live, rfl⟩ := modifySession_eq_ok run
  have each (ptr' : Nat) : (s.heap.set ptr (some (f here)))[ptr']?.join =
      if ptr' = ptr then some (f here) else s.session? ptr' := session?_set live _ ptr'
  refine ⟨⟨rfl, rfl, rfl, List.length_set, fun ptr' => ?_⟩,
    ⟨fun ptr' there found => ?_, bound.queued, bound.sent⟩,
    trivial⟩
  · rw [Server.session?, each]
    split
    · next same => rw [same, live, Option.map_some, Option.map_some, playerId]
    · rfl
  · rw [Server.session?, each] at found
    split at found
    · next same =>
        cases found
        exact same ▸ keeps here (bound.session ptr here live)
    · exact bound.session ptr' there found

/-- A change of fields that do not matter here. -/
theorem modifySession_keeps_frame (ptr : Nat) {f : WorldSession → WorldSession}
    (playerId : ∀ here, (f here).playerId = here.playerId)
    (endpoint : ∀ here, (f here).endpoint = here.endpoint)
    (receiveQueue : ∀ here, (f here).receiveQueue = here.receiveQueue) :
    Keeps (updateFrame P) (modifySession ptr f : Handling η Unit) fun _ => True :=
  modifySession_keeps ptr playerId fun here bound =>
    ⟨endpoint here ▸ bound.endpoint, receiveQueue here ▸ bound.received⟩

theorem queuePacket_keeps {ptr : Nat} {packet : WorldPacket} (allowed : P ptr packet.endpoint) :
    Keeps (updateFrame P) (queuePacket (some ptr) packet : Handling η Unit) fun _ => True := by
  refine keeps_modify (fun s _ => ⟨rfl, rfl, rfl, rfl, fun _ => rfl⟩)
    fun s bound => ⟨bound.session, fun ptr' packet' mem => ?_, bound.sent⟩
  rcases List.mem_append.mp mem with old | new
  · exact bound.queued ptr' packet' old
  · cases List.mem_singleton.mp new
    exact allowed

/-! ### Sending -/

theorem sendNow_keeps (ptr : Nat) (packet : WorldPacket) :
    Keeps (updateFrame P) (sendNow ptr packet : Handling η Unit) fun _ => True :=
  (session_keeps ptr).bind fun _ here => queuePacket_keeps here.endpoint

theorem flush_keeps (ptr : Nat) :
    Keeps (updateFrame P) (flush ptr : Handling η Unit) fun _ => True := by
  refine (session_keeps ptr).seq fun _ => (sendNow_keeps ptr _).seq fun _ => ?_
  exact modifySession_keeps_frame ptr (fun _ => rfl) (fun _ => rfl) fun _ => rfl

theorem sendPacket_keeps (ptr : Nat) (packet : WorldPacket) (ifReady changeUnk : Bool) :
    Keeps (updateFrame P) (sendPacket ptr packet ifReady changeUnk : Handling η Unit)
      fun _ => True := by
  refine (session_keeps ptr).seq fun here => keeps_ite (fun _ => keeps_pure trivial) fun _ => ?_
  have last (packet : WorldPacket) : Keeps (updateFrame P) (modifySession ptr fun s =>
      { s with sendPacket := combine s.sendPacket packet } : Handling η Unit) fun _ => True :=
    modifySession_keeps_frame ptr (fun _ => rfl) (fun _ => rfl) fun _ => rfl
  exact keeps_ite (fun _ => (flush_keeps ptr).seq fun _ => last _) fun _ => last _

theorem sendToEach_keeps (packet : WorldPacket) (entries : List (Endpoint × Nat)) :
    Keeps (updateFrame P) (sendToEach packet entries : Handling η Unit) fun _ => True := by
  induction entries with
  | nil => exact keeps_pure trivial
  | cons entry entries ih => exact (sendPacket_keeps entry.2 packet true true).seq fun _ => ih

theorem performSends_keeps (ptr : Nat) (sends : List Send) :
    Keeps (updateFrame P) (performSends ptr sends : Handling η Unit) fun _ => True := by
  induction sends with
  | nil => exact keeps_pure trivial
  | cons send sends ih =>
      cases send with
      | own packet ifReady changeUnk =>
          exact (sendPacket_keeps ptr packet ifReady changeUnk).seq fun _ => ih
      | all packet =>
          have toAll : Keeps (updateFrame P) (sendToAll packet : Handling η Unit) fun _ => True :=
            keeps_get.seq fun s => sendToEach_keeps packet s.sessions
          exact toAll.seq fun _ => ih
      | flush => exact (flush_keeps ptr).seq fun _ => ih

/-! ### Handlers -/

variable (rest : Rest η)

theorem logout_keeps (ptr : Nat) :
    Keeps (updateFrame P) (logout rest ptr) fun _ => True := by
  have last : Keeps (updateFrame P) (modifySession ptr fun s =>
      { s with player := false, playerLoggingOut := true } : Handling η Unit) fun _ => True :=
    modifySession_keeps_frame ptr (fun _ => rfl) (fun _ => rfl) fun _ => rfl
  refine (session_keeps ptr).seq fun here => keeps_ite (fun _ => ?_) fun _ => last
  exact Keeps.seq (keeps_modify_world fun _ => rfl) fun _ => last

theorem handleJoinConfirmation_keeps (ptr : Nat) :
    Keeps (updateFrame P) (handleJoinConfirmation ptr : Handling η Unit) fun _ => True := by
  refine (session_keeps ptr).bind fun _ here => (queuePacket_keeps here.endpoint).seq fun _ => ?_
  exact modifySession_keeps_frame ptr (fun _ => rfl) (fun _ => rfl) fun _ => rfl

theorem skipRead_endpoint {packet packet' : WorldPacket} {count : Nat}
    (run : skipRead packet count = .ok packet') : packet'.endpoint = packet.endpoint := by
  unfold skipRead at run
  split at run
  · cases run
    rfl
  · cases run

theorem handlePlayerJoin_keeps {ptr : Nat} {packet : WorldPacket}
    (allowed : P ptr packet.endpoint) :
    Keeps (updateFrame P) (handlePlayerJoin rest ptr packet) fun p => P ptr p.endpoint := by
  refine Keeps.seq (modifySession_keeps_frame ptr ?_ ?_ ?_) fun _ => ?_
  iterate 3 exact fun _ => rfl
  refine (keeps_lift _).bind fun packet' read => ?_
  refine Keeps.seq (modifySession_keeps_frame ptr ?_ ?_ ?_) fun _ => ?_
  iterate 3 exact fun _ => rfl
  refine (session_keeps ptr).seq fun here => ?_
  refine Keeps.seq (keeps_modify_world fun _ => rfl) fun _ => ?_
  refine keeps_get.seq fun s => (keeps_lift _).seq fun replies => ?_
  refine Keeps.seq (keeps_modify_world fun _ => rfl) fun _ => ?_
  refine Keeps.seq (modifySession_keeps_frame ptr ?_ ?_ ?_) fun _ => ?_
  iterate 3 exact fun _ => rfl
  refine (performSends_keeps ptr _).seq fun _ => keeps_pure ?_
  rwa [skipRead_endpoint read]

theorem call_keeps {ptr : Nat} {packet : WorldPacket} (allowed : P ptr packet.endpoint)
    (handler : OpcodeHandler η) :
    Keeps (updateFrame P) (handler.call rest ptr packet) fun p => P ptr p.endpoint := by
  cases handler with
  | exiting => exact (logout_keeps rest ptr).seq fun _ => keeps_pure allowed
  | outgoingClient => exact (logout_keeps rest ptr).seq fun _ => keeps_pure allowed
  | playerJoin => exact handlePlayerJoin_keeps rest allowed
  | other run =>
      refine (session_keeps ptr).seq fun here => keeps_get.seq fun s => ?_
      refine (keeps_lift _).seq fun replies => ?_
      refine Keeps.seq (keeps_modify_world fun _ => rfl) fun _ => ?_
      refine Keeps.seq (modifySession_keeps_frame ptr ?_ ?_ ?_) fun _ => ?_
      iterate 3 exact fun _ => rfl
      exact (performSends_keeps ptr _).seq fun _ => keeps_pure allowed

theorem dispatch_keeps {ptr : Nat} {packet : WorldPacket} (allowed : P ptr packet.endpoint) :
    Keeps (updateFrame P) (dispatch rest ptr packet) fun p => P ptr p.endpoint := by
  refine (session_keeps ptr).seq fun here => keeps_ite (fun _ => ?_) fun _ => ?_
  · refine keeps_ite (fun _ => ?_) fun _ => keeps_pure allowed
    -- the one place where an endpoint is set: to that of the packet
    refine Keeps.seq (modifySession_keeps ptr ?_ ?_) fun _ => ?_
    · exact fun _ => rfl
    · exact fun _ bound => ⟨allowed, bound.received⟩
    · exact (handleJoinConfirmation_keeps ptr).seq fun _ => keeps_pure allowed
  · split
    · exact keeps_pure allowed
    · next status handler _ =>
        exact keeps_ite (fun _ => call_keeps rest allowed handler) fun _ => keeps_pure allowed

theorem nextOpcode_endpoint {packet packet' : WorldPacket}
    (run : nextOpcode packet = .ok (some packet')) : packet'.endpoint = packet.endpoint := by
  unfold nextOpcode at run
  split at run
  · cases run
  · split at run
    · cases run
      rfl
    · cases run

theorem nextPacket_keeps {ptr : Nat} {packet : Option WorldPacket}
    (allowed : ∀ p, packet = some p → P ptr p.endpoint) :
    Keeps (updateFrame P) (nextPacket ptr packet : Handling η (Option WorldPacket))
      fun next => ∀ p, next = some p → P ptr p.endpoint := by
  cases packet with
  | some p => exact keeps_pure allowed
  | none =>
      refine (session_keeps ptr).bind fun here bound => ?_
      cases queue : here.receiveQueue with
      | nil => exact keeps_pure nofun
      | cons p packets =>
          have received := bound.received
          rw [queue] at received
          refine Keeps.seq (modifySession_keeps ptr ?_ ?_) fun _ => keeps_pure ?_
          · exact fun _ => rfl
          · exact fun _ there => ⟨there.endpoint, fun q mem =>
              received q (List.mem_cons_of_mem p mem)⟩
          · rintro _ ⟨⟩
            exact received p List.mem_cons_self

theorem processQueue_keeps (ptr rounds : Nat) {packet : Option WorldPacket}
    (allowed : ∀ p, packet = some p → P ptr p.endpoint) :
    Keeps (updateFrame P) (processQueue rest ptr rounds packet) fun _ => True := by
  induction rounds generalizing packet with
  | zero =>
      rw [processQueue]
      refine (nextPacket_keeps allowed).seq fun next => ?_
      cases next with
      | none => exact keeps_pure trivial
      | some p => exact keeps_throw _
  | succ rounds ih =>
      rw [processQueue]
      refine (nextPacket_keeps allowed).bind fun next allowed => ?_
      cases next with
      | none => exact keeps_pure trivial
      | some p =>
          refine (dispatch_keeps rest (allowed p rfl)).bind fun p' allowed => ?_
          refine (keeps_lift _).bind fun next read => ih fun q again => ?_
          subst again
          rwa [nextOpcode_endpoint read]

/-- The update of a session. -/
theorem updateSession_keeps (rounds ptr : Nat) :
    Keeps (updateFrame P) (updateSession rest rounds ptr) fun _ => True := by
  have ends : Keeps (updateFrame P) (do
      processQueue rest ptr rounds none
      let here ← session ptr
      if 0 < here.sendPacket.buffer.size then flush ptr
      let here ← session ptr
      return !here.playerLoggingOut) fun _ => True := by
    refine (processQueue_keeps rest ptr rounds nofun).seq fun _ => (session_keeps ptr).seq
      fun here => ?_
    have last : Keeps (updateFrame P) (do
        let here ← session ptr
        return !here.playerLoggingOut : Handling η Bool) fun _ => True :=
      (session_keeps ptr).seq fun _ => keeps_pure trivial
    exact keeps_ite (fun _ => (flush_keeps ptr).seq fun _ => last) fun _ => last
  refine (session_keeps ptr).seq fun here => ?_
  have processes : Keeps (updateFrame P) (do
      if here.receiveQueue = [] ∧ here.status = .authed then
        sendNow ptr { opcode := 0x14, endpoint := here.endpoint }
      processQueue rest ptr rounds none
      let here ← session ptr
      if 0 < here.sendPacket.buffer.size then flush ptr
      let here ← session ptr
      return !here.playerLoggingOut) fun _ => True :=
    keeps_ite (fun _ => (sendNow_keeps ptr _).seq fun _ => ends) fun _ => ends
  refine keeps_ite (fun _ => ?_) fun _ => processes
  refine Keeps.seq (modifySession_keeps_frame ptr ?_ ?_ ?_) fun _ => ?_
  iterate 3 exact fun _ => rfl
  refine (session_keeps ptr).seq fun there => ?_
  exact (sendPacket_keeps ptr _ _ _).seq fun _ => processes

/-- The updates of all sessions. -/
theorem updateAll_keeps (rounds : Nat) (entries : List (Endpoint × Nat)) :
    Keeps (updateFrame P) (updateAll rest rounds entries) fun _ => True := by
  induction entries with
  | nil => exact keeps_pure trivial
  | cons entry entries ih =>
      exact (updateSession_keeps rest rounds entry.2).seq fun _ => ih.seq fun _ =>
        keeps_pure trivial

end Awesie

end NoxServer
