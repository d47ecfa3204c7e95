import NoxServer.Library.Consume
import NoxServer.Library.Runs
import NoxServer.Awesie.Updates

/-!
What one action of the socket can do.

A datagram is dropped, answered, queued to the session that is found for its sender, or makes a
session (`Received`). A tick updates the sessions, which moves no ids, and deletes some of them
one by one (`Deleted`).
-/

namespace NoxServer

namespace Awesie

open Consume Frames

variable {η : Type}

/-- The command of a datagram, if it has one. -/
def Server.command (s : Server η) (sender : Endpoint) (err : Bool) (bytes : List UInt8) :
    Option UInt8 :=
  if err then none else (s.decipher sender bytes)[2]?

/-- The server once a client has joined. -/
def Server.joined (s : Server η) (sender : Endpoint) : Server η :=
  { s with
    freeIds := s.freeIds.tail
    heap := s.heap ++ [some (.new (s.freeIds.headD 0xFF) sender)]
    sessions := putEntry sender s.heap.length s.sessions
    joins := s.joins ++ [sender]
    sendQueue := s.sendQueue ++ [(none, { opcode := 0x14, endpoint := sender })] }

/-- The server once a packet is queued to a session. -/
def Server.queued (s : Server η) (ptr : Nat) (here : WorldSession) (packet : WorldPacket) :
    Server η :=
  { s with heap :=
      s.heap.set ptr (some { here with receiveQueue := here.receiveQueue ++ [packet] }) }

/-- The sessions once a packet is queued. -/
theorem session?_queued {s : Server η} {ptr : Nat} {here : WorldSession}
    (live : s.session? ptr = some here) (packet : WorldPacket) (ptr' : Nat) :
    (s.queued ptr here packet).session? ptr' =
      if ptr' = ptr then some { here with receiveQueue := here.receiveQueue ++ [packet] }
      else s.session? ptr' :=
  session?_set live _ ptr'

/-- A live session is in the heap. -/
theorem lt_of_live {s : Server η} {ptr : Nat} {here : WorldSession}
    (live : s.session? ptr = some here) : ptr < s.heap.length := by
  by_contra outside
  rw [Server.session?, List.getElem?_eq_none (Nat.le_of_not_lt outside)] at live
  cases live

/-- The sessions once a client has joined. -/
theorem session?_joined (s : Server η) (sender : Endpoint) (ptr : Nat) :
    (s.joined sender).session? ptr =
      if ptr = s.heap.length then some (.new (s.freeIds.headD 0xFF) sender)
      else s.session? ptr := by
  unfold Server.session? Server.joined
  split
  · next new => rw [new, List.getElem?_concat_length, Option.join_some]
  · next other =>
      rcases Nat.lt_or_gt_of_ne other with below | above
      · rw [List.getElem?_append_left below]
      · rw [List.getElem?_eq_none (by rw [List.length_append]; exact above),
          List.getElem?_eq_none (Nat.le_of_lt above)]

/-- What a datagram with the command can make of the server. -/
inductive Received (s : Server η) (sender : Endpoint) (command : Option UInt8) :
    Server η → Prop
  | dropped : Received s sender command s
  | answered (packet : WorldPacket) :
      Received s sender command { s with sendQueue := s.sendQueue ++ [(none, packet)] }
  | joined : command = some 0x0E → Received s sender command (s.joined sender)
  | queued {ptr : Nat} {here : WorldSession} {packet : WorldPacket} {cmd : UInt8} :
      command = some cmd → cmd ≠ 0x0C → cmd ≠ 0x0E →
      findEntry sender s.sessions = some ptr → s.session? ptr = some here →
      packet.endpoint = sender → Received s sender command (s.queued ptr here packet)

/-- A join that completes makes a session, puts it under the address, and does nothing else. -/
theorem handleJoin_eq_ok {packet : WorldPacket} {s t : Server η}
    (run : handleJoin packet s = .ok ((), t)) : t = s.joined packet.endpoint := by
  unfold handleJoin at run
  obtain ⟨_, mid, read, run⟩ := bind_run_eq_ok run
  have same : mid = s := by
    cases reads : skipRead packet joinSize with
    | error fault =>
        rw [reads] at read
        cases read
    | ok rest =>
        rw [reads] at read
        cases read
        rfl
  rw [same] at run
  cases ids : s.freeIds with
  | nil =>
      simp only [Bind.bind, StateT.bind, getFreeId, ids, Except.bind] at run
      cases run
      simp [Server.joined, ids]
  | cons id others =>
      simp only [Bind.bind, StateT.bind, getFreeId, ids, Except.bind] at run
      cases run
      rw [Server.joined, ids]
      rfl

theorem handleJoin_run {packet : WorldPacket} {s : Server η}
    (long : packet.buffer.rpos + joinSize ≤ packet.buffer.size) :
    handleJoin packet s = .ok ((), s.joined packet.endpoint) := by
  have read : ∃ rest, (liftM (skipRead packet joinSize) : Handling η WorldPacket) s =
      .ok (rest, s) := by
    rw [skipRead, if_pos long]
    exact ⟨_, rfl⟩
  obtain ⟨rest, read⟩ := read
  have taken : getFreeId s = .ok (s.freeIds.headD 0xFF, { s with freeIds := s.freeIds.tail }) := by
    rcases s with ⟨_ | ⟨id, others⟩⟩ <;> rfl
  rw [handleJoin, run_bind_ok read, run_bind_ok taken]
  rfl

/-- A datagram that is long enough for a join makes a session. -/
theorem receive_join {sender : Endpoint} {bytes data : List UInt8} {plr unk : UInt8}
    {s : Server η} (content : s.decipher sender bytes = plr :: unk :: 0x0E :: data)
    (long : joinSize ≤ data.length) :
    receive sender false bytes s = .ok ((), s.joined sender) := by
  have reads : (packetFrom sender plr unk 0x0E data).buffer.rpos + joinSize ≤
      (packetFrom sender plr unk 0x0E data).buffer.size := by
    rw [packetFrom, ByteBuffer.size_extend]
    exact Nat.add_le_add_left long 0
  have got : (get : Handling η (Server η)) s = .ok (s, s) := rfl
  rw [receive, if_neg Bool.false_ne_true, run_bind_ok got, content]
  exact handleJoin_run reads

theorem handleLanPing_eq_ok {packet : WorldPacket} {s t : Server η}
    (run : handleLanPing packet s = .ok ((), t)) :
    ∃ answer, t = { s with sendQueue := s.sendQueue ++ [(none, answer)] } := by
  unfold handleLanPing at run
  obtain ⟨_, mid, read, run⟩ := bind_run_eq_ok run
  cases reads : skipRead packet 9 with
  | error fault =>
      rw [reads] at read
      cases read
  | ok rest =>
      rw [reads] at read
      cases read
      cases run
      exact ⟨_, rfl⟩

/-- What receiving a datagram can do. -/
theorem receive_cases {sender : Endpoint} {err : Bool} {bytes : List UInt8} {s t : Server η}
    (run : receive sender err bytes s = .ok ((), t)) :
    Received s sender (s.command sender err bytes) t := by
  unfold receive at run
  rw [Server.command]
  cases err with
  | true =>
      cases run
      exact .dropped
  | false =>
      obtain ⟨_, _, ⟨⟩, run⟩ := bind_run_eq_ok run
      rw [if_neg Bool.false_ne_true]
      cases content : s.decipher sender bytes with
      | nil =>
          rw [content] at run
          cases run
          exact .dropped
      | cons plr more =>
          rw [content] at run
          rcases more with _ | ⟨unk, _ | ⟨cmd, data⟩⟩
          · cases run
            exact .dropped
          · cases run
            exact .dropped
          · dsimp only at run
            split at run
            · obtain ⟨answer, rfl⟩ := handleLanPing_eq_ok run
              exact .answered answer
            · next noPing =>
                split at run
                · next join =>
                    rw [handleJoin_eq_ok run, join]
                    exact .joined rfl
                · next noJoin =>
                  cases found : findEntry sender s.sessions with
                  | none =>
                      rw [found] at run
                      cases run
                      exact .dropped
                  | some ptr =>
                      rw [found] at run
                      obtain ⟨here, live, rfl⟩ := modifySession_eq_ok run
                      exact .queued rfl noPing noJoin found live rfl

/-! ### Deletions -/

/-- The server once a session is deleted. -/
def Server.deleted (s : Server η) (key : Endpoint) (ptr : Nat) (id : UInt8) : Server η :=
  { s with
    freeIds := if id > 32 then s.freeIds else s.freeIds ++ [id]
    heap := s.heap.set ptr none
    sessions := eraseEntry key s.sessions }

/-- The sessions once one is deleted. -/
theorem session?_deleted {s : Server η} {ptr : Nat} {here : WorldSession}
    (live : s.session? ptr = some here) (key : Endpoint) (id : UInt8) (ptr' : Nat) :
    (s.deleted key ptr id).session? ptr' = if ptr' = ptr then none else s.session? ptr' :=
  session?_set live none ptr'

/-- What the deletion of the session under a key can make of the server. -/
inductive Deleted (s : Server η) (key : Endpoint) : Server η → Prop
  | absent : Deleted s key s
  | deleted {ptr : Nat} {here : WorldSession} {mid : Server η} :
      findEntry key s.sessions = some ptr → s.session? ptr = some here →
      (∀ P, Bound P s → SameIds s mid ∧ Bound P mid) →
      Deleted s key (mid.deleted key ptr here.playerId)

variable {rest : Rest η}

/-- The deletion of the session under a key: a player that is still there is logged out first. -/
theorem destroy_eq_ok {key : Endpoint} {s t : Server η}
    (run : destroy rest key s = .ok ((), t)) :
    t = s ∨ ∃ ptr here mid, findEntry key s.sessions = some ptr ∧ s.session? ptr = some here ∧
      (here.player = true ∧ logout rest ptr s = .ok ((), mid) ∨ here.player = false ∧ mid = s) ∧
      t = mid.deleted key ptr here.playerId := by
  unfold destroy at run
  obtain ⟨_, _, ⟨⟩, run⟩ := bind_run_eq_ok run
  cases found : findEntry key s.sessions with
  | none =>
      rw [found] at run
      cases run
      exact .inl rfl
  | some ptr =>
      rw [found] at run
      obtain ⟨here, mid, access, ending⟩ := bind_run_eq_ok run
      obtain ⟨live, rfl⟩ := session_eq_ok access
      have last {mid' : Server η} (run : (do
          returnFreeId here.playerId
          modify fun s => { s with
            heap := s.heap.set ptr none
            sessions := eraseEntry key s.sessions } : Handling η Unit) mid' = .ok ((), t)) :
          t = mid'.deleted key ptr here.playerId := by
        obtain ⟨_, next, returned, run⟩ := bind_run_eq_ok run
        unfold returnFreeId at returned
        rw [Server.deleted]
        split at returned
        · next big =>
            cases returned
            cases run
            rw [if_pos big]
        · next small =>
            cases returned
            cases run
            rw [if_neg small]
      dsimp only at ending
      split at ending
      · next player =>
          obtain ⟨_, mid', out, ending⟩ := bind_run_eq_ok ending
          exact .inr ⟨ptr, here, mid', rfl, live, .inl ⟨player, out⟩, last ending⟩
      · next noPlayer =>
          exact .inr ⟨ptr, here, mid, rfl, live, .inr ⟨Bool.eq_false_iff.mpr noPlayer, rfl⟩,
            last ending⟩

theorem destroy_cases {key : Endpoint} {s t : Server η}
    (run : destroy rest key s = .ok ((), t)) : Deleted s key t := by
  rcases destroy_eq_ok run with rfl | ⟨ptr, here, mid, found, live, ends, rfl⟩
  · exact .absent
  · refine .deleted found live fun P bound => ?_
    rcases ends with ⟨-, out⟩ | ⟨-, rfl⟩
    · obtain ⟨same, bound', -⟩ := logout_keeps rest ptr s () mid bound out
      exact ⟨same, bound'⟩
    · exact ⟨(updateFrame P).refl mid, bound⟩

/-- What every deletion preserves, all of them preserve. -/
theorem destroyAll_invariant {holds : Server η → Prop}
    (preserved : ∀ s key t, holds s → Deleted s key t → holds t) (keys : List Endpoint)
    {s t : Server η} (start : holds s) (run : destroyAll rest keys s = .ok ((), t)) :
    holds t := by
  induction keys generalizing s with
  | nil =>
      cases run
      exact start
  | cons key keys ih =>
      unfold destroyAll at run
      obtain ⟨_, mid, first, run⟩ := bind_run_eq_ok run
      exact ih (preserved s key mid start (destroy_cases first)) run

/-- The server once its packets are sent. -/
def Server.flushed (s : Server η) : Server η :=
  { s with
    sendQueue := []
    sent := s.sent ++ s.sendQueue.map fun entry =>
      (entry.1, entry.2.endpoint, datagram entry.2) }

/-- A tick preserves what its updates, its deletions and its sending preserve. -/
theorem tick_invariant {holds : Server η → Prop} {rounds : Nat} {s t : Server η}
    (updated : ∀ mid, (∀ P, Bound P s → SameIds s mid ∧ Bound P mid) → holds mid)
    (deleted : ∀ s key t, holds s → Deleted s key t → holds t)
    (flushed : ∀ s, holds s → holds s.flushed)
    (run : tick rest rounds s = .ok ((), t)) : holds t := by
  unfold tick at run
  obtain ⟨_, _, ⟨⟩, run⟩ := bind_run_eq_ok run
  obtain ⟨ended, mid, updates, run⟩ := bind_run_eq_ok run
  obtain ⟨_, last, deletions, run⟩ := bind_run_eq_ok run
  have begins : holds mid := updated mid fun P bound => by
    obtain ⟨same, bound', -⟩ := updateAll_keeps rest rounds s.sessions s ended mid bound updates
    exact ⟨same, bound'⟩
  have ends : holds last := destroyAll_invariant deleted ended begins deletions
  cases run
  exact flushed last ends

/-! ### A server to run -/

def Rest.nothing : Rest Unit where
  handlers _ := none
  join here world := .ok (here.own, world, [])
  leave _ world := world

/-- The datagram of a join. -/
def joinBytes : List UInt8 := [0xFF, 0, 0x0E] ++ List.replicate 97 0

end Awesie

end NoxServer
