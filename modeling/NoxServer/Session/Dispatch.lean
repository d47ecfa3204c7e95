import NoxServer.Library.Progress
import NoxServer.Session.Thrown

/-!
The dispatch loop of `WorldSession::Update`, an iteration at a time, and why it ends.

The loop holds the packet it is at and the queue. An iteration handles one message; then the
packet is at its end and deleted, or the opcode after the message is read from it. So what is
still to be read of the packets held gets less with every iteration, whatever the handlers do
with the position. This is so both where a short read is a failed assertion, and the loop ends
with the server, and where it is the error that the handlers and the loop catch.
-/

namespace NoxServer.Session

open ByteBuffer Consume Progress

/-- What a read past the end of a packet is. -/
inductive ShortRead where
  | failedAssertion
  | error

/-- The end of an iteration: the packet with its next opcode, unless it is at its end. -/
def nextMessage (p : WorldPacket) (b : ByteBuffer) : Except Fault (Option WorldPacket) :=
  if b.rpos = b.size then .ok none
  else
    match readUInt8 b with
    | .error fault => .error fault
    | .ok (opcode, b') => .ok (some { p with toByteBuffer := b', opcode := opcode })

/-- One iteration on a packet: the session, its outputs and the packet, if it is kept. -/
def WorldSession.iteration (game : Game) (now : Int) (s : WorldSession) (p : WorldPacket) :
    ShortRead → Except Fault (WorldSession × List Output × Option WorldPacket)
  | .failedAssertion =>
      match handleMessage game now s p.accountid p.unk p.opcode p.toByteBuffer with
      | .error fault => .error fault
      | .ok ((s, outs), b) =>
          match nextMessage p b with
          | .error fault => .error fault
          | .ok packet => .ok (s, outs, packet)
  | .error => .ok (s.turn game now p)

/-- The loop's state. -/
structure Dispatch where
  session : WorldSession
  outs : List Output := []
  packet : Option WorldPacket := none
  queue : List WorldPacket

namespace Dispatch

/-- The packet of the next iteration, and the queue without it. -/
def take (d : Dispatch) : Option (WorldPacket × List WorldPacket) :=
  match d.packet, d.queue with
  | some p, queue => some (p, queue)
  | none, p :: queue => some (p, queue)
  | none, [] => none

/-- One iteration. There is none when no packet is left, when the socket is gone, or when an
assertion fails. -/
def next (game : Game) (now : Int) (short : ShortRead) (d : Dispatch) : Option Dispatch :=
  if d.session.socket then
    match d.take with
    | none => none
    | some (p, queue) =>
        match d.session.iteration game now p short with
        | .error _ => none
        | .ok (s, outs, packet) => some ⟨s, d.outs ++ outs, packet, queue⟩
  else none

/-- The packets the loop holds, the one it is at first. -/
def held (d : Dispatch) : List WorldPacket := d.packet.toList ++ d.queue

theorem take_eq_some {d : Dispatch} {p : WorldPacket} {queue : List WorldPacket}
    (taken : d.take = some (p, queue)) : d.held = p :: queue := by
  obtain ⟨s, outs, packet, left⟩ := d
  cases packet with
  | some _ =>
      cases taken
      rfl
  | none =>
      cases left with
      | nil => cases taken
      | cons _ _ =>
          cases taken
          rfl

end Dispatch

/-! ### A message and the next opcode -/

/-- The position has not gone back, unless it is at the end of the packet or past it. -/
def Onward (b b' : ByteBuffer) : Prop :=
  b'.storage = b.storage ∧ (b.rpos ≤ b'.rpos ∨ b'.size ≤ b'.rpos)

namespace Onward

theorem refl (b : ByteBuffer) : Onward b b := ⟨rfl, .inl (Nat.le_refl _)⟩

theorem trans {b b' b'' : ByteBuffer} (first : Onward b b') (second : Onward b' b'') :
    Onward b b'' := by
  obtain ⟨data, pos⟩ := first
  obtain ⟨data', pos'⟩ := second
  have size : b''.size = b'.size := congrArg List.length data'
  refine ⟨data'.trans data, ?_⟩
  rcases pos with onward | ended
  · rcases pos' with onward' | ended'
    · exact .inl (Nat.le_trans onward onward')
    · exact .inr ended'
  · rcases pos' with onward' | ended'
    · exact .inr (by omega)
    · exact .inr ended'

theorem of_takes {α : Type} {reader : Reader α} {need : List UInt8 → Option Nat}
    (takes : Takes view reader need) {b b' : ByteBuffer} {x : α}
    (run : reader b = .ok (x, b')) : Onward b b' := by
  have taken := takes b
  rw [run] at taken
  obtain ⟨data, count, _, pos⟩ := taken
  have pos : b'.rpos = b.rpos + count := pos
  exact ⟨data, .inl (by omega)⟩

end Onward

/-- The same packet, later: the position is further on and still in it. -/
structure Later (b b' : ByteBuffer) : Prop where
  storage : b'.storage = b.storage
  advanced : b.rpos < b'.rpos
  inside : b'.rpos ≤ b'.size

/-- A packet that is kept after a message is later. -/
theorem nextMessage_later {p p' : WorldPacket} {b b' : ByteBuffer} (onward : Onward b b')
    (run : nextMessage p b' = .ok (some p')) : Later b p'.toByteBuffer := by
  obtain ⟨data, pos⟩ := onward
  unfold nextMessage at run
  split at run
  · cases run
  · split at run
    · cases run
    · next opcode last read =>
        cases run
        by_cases room : b'.rpos + 1 ≤ b'.size
        · rw [readUInt8_eq_ok room] at read
          cases read
          refine ⟨data, ?_, room⟩
          show b.rpos < b'.rpos + 1
          omega
        · obtain ⟨fault, fails⟩ := readUInt8_eq_error room
          rw [fails] at read
          cases read

theorem handle_onward (game : Game) (now : Int) (s : WorldSession) (packetUnk : UInt8)
    (h : Handler) {b b' : ByteBuffer} {out : WorldSession × List Output}
    (run : s.handle game now packetUnk h b = .ok (out, b')) : Onward b b' := by
  by_cases skipped : h = .newUnknown
  · subst skipped
    cases run
    exact ⟨rfl, .inr (Nat.le_refl _)⟩
  · exact .of_takes (handle_takes_of_ne game now s packetUnk skipped) run

/-! ### Where a short read is the error -/

namespace Throwing

def Further (h h' : Handled) : Prop := Onward h.packet.toByteBuffer h'.packet.toByteBuffer

theorem Further.refl (h : Handled) : Further h h := Onward.refl _

theorem Further.trans (h h' h'' : Handled) (first : Further h h') (second : Further h' h'') :
    Further h h'' :=
  Onward.trans first second

/-- The position goes on in what is done, also if it throws. -/
abbrev Goes {α : Type} (comp : Throwing α) : Prop :=
  Throws.Moves Further comp

theorem goes_pure {α : Type} (x : α) : Goes (pure x) :=
  Throws.moves_pure Further.refl x

theorem goes_get : Goes get := Throws.moves_get Further.refl

theorem Goes.bind {α β : Type} {first : Throwing α} {next : α → Throwing β}
    (goes : Goes first) (goes' : ∀ x, Goes (next x)) : Goes (first >>= next) :=
  Throws.Moves.bind Further.trans goes goes'

theorem Goes.tryCatch {α : Type} {body : Throwing α} {handler : Unit → Throwing α}
    (goes : Goes body) (goes' : ∀ e, Goes (handler e)) : Goes (tryCatch body handler) :=
  Throws.Moves.tryCatch Further.trans goes goes'

theorem goes_act (f : WorldSession → WorldSession × List Output) : Goes (act f) :=
  fun _ => Further.refl _

theorem goes_change (f : WorldSession → WorldSession) : Goes (change f) :=
  fun _ => Further.refl _

theorem goes_reading {α : Type} {reader : Reader α}
    (onward : ∀ {b x b'}, reader b = .ok (x, b') → Onward b b') : Goes (reading reader) := by
  intro h
  unfold reading
  split
  · next run => exact onward run
  · exact .refl _

theorem goes_read {α : Type} {reader : Reader α} {need : List UInt8 → Option Nat}
    (takes : Takes view reader need) : Goes (reading reader) :=
  goes_reading fun run => .of_takes takes run

theorem goes_readUInt8 : Goes (reading readUInt8) := goes_read readUInt8_yields.takes

theorem goes_readEach (sizes : List Nat) : Goes (readEach sizes) := by
  induction sizes with
  | nil => exact goes_pure ()
  | cons size sizes ih => exact (goes_read (read_yields size).takes).bind fun _ => ih

theorem goes_caught {body : Throwing Unit} (goes : Goes body) : Goes (caught body) :=
  goes.tryCatch fun _ => goes_pure ()

theorem goes_atOnce {handling : WorldSession → Handling}
    (onward : ∀ {s b out b'}, handling s b = .ok (out, b') → Onward b b') :
    Goes (atOnce handling) :=
  goes_get.bind fun _ => (goes_reading onward).bind fun _ => goes_act _

theorem goes_joinFields : Goes joinFields :=
  (goes_readEach _).bind fun _ => (goes_read (read_yields 0x61).takes).bind fun _ =>
    (goes_readEach _).bind fun _ => (goes_read (read_yields 9).takes).bind fun _ =>
      (goes_read (read_yields 0x0C).takes).bind fun _ => (goes_readEach _).bind fun _ =>
        goes_pure _

theorem goes_handlePlayerJoinOpcode (game : Game) : Goes (handlePlayerJoinOpcode game) := by
  refine (goes_change _).bind fun _ => Goes.bind ?_ fun fields => ?_
  · refine Goes.tryCatch ?_ fun _ => goes_pure none
    rw [map_eq_pure_bind]
    exact goes_joinFields.bind fun _ => goes_pure _
  · cases fields with
    | none => exact goes_pure ()
    | some _ => exact goes_act _

/-- The byte before the position is read again. -/
theorem goes_rereadByte : Goes (reading WorldSession.rereadByte) := by
  refine goes_reading fun {b _ b'} run => ?_
  obtain ⟨data, pos⟩ := advances_of_yields (readFields_yields [1]) { b with rpos := b.rpos - 1 }
    _ b' run
  have pos : b.rpos - 1 + 1 ≤ b'.rpos := pos
  exact ⟨data, .inl (by omega)⟩

theorem goes_inputAction (kind : UInt8) : Goes (inputAction kind) := by
  unfold inputAction
  split
  · exact goes_pure ()
  · refine Goes.bind ?_ fun _ => goes_readEach _
    exact (goes_read attackInput_takes).bind fun _ => goes_act _
  · exact (goes_act _).bind fun _ => goes_readEach _
  · refine (goes_read readUInt32_yields.takes).bind fun action => ?_
    dsimp only
    split
    · exact (goes_act _).bind fun _ => goes_readEach _
    · exact goes_readEach _
  · exact goes_rereadByte

theorem goes_serverCmdBody (kind : UInt8) : Goes (serverCmdBody kind) := by
  unfold serverCmdBody
  split
  · exact (goes_readEach _).bind fun _ => goes_readUInt8.bind fun _ =>
      (goes_readEach _).bind fun _ => goes_readEach _
  · exact (goes_readEach _).bind fun _ => goes_readUInt8.bind fun _ =>
      (goes_readEach _).bind fun _ => goes_readEach _
  · exact goes_pure ()

theorem goes_handleTextMessageOpcode : Goes handleTextMessageOpcode :=
  goes_get.bind fun _ => (goes_readEach _).bind fun _ =>
    (goes_read readUInt16_yields.takes).bind fun _ => (goes_readEach _).bind fun _ =>
      (goes_readEach _).bind fun _ => goes_get.bind fun _ => goes_act _

/-- Whatever a handler does, it moves on in its packet or stays where it is, and never behind it. -/
theorem goes_handle (game : Game) (now : Int) (packetUnk : UInt8) (handler : Handler) :
    Goes (handle game now packetUnk handler) := by
  cases handler with
  | playerJoin => exact goes_handlePlayerJoinOpcode game
  | playerInput =>
      refine goes_caught (goes_readUInt8.bind fun kind => (goes_inputAction kind).bind fun _ => ?_)
      exact (goes_readEach _).bind fun _ => goes_readUInt8.bind fun _ =>
        (goes_act _).bind fun _ => goes_readEach _
  | mouse =>
      refine goes_caught ((goes_read readUInt16_yields.takes).bind fun _ => ?_)
      exact (goes_change _).bind fun _ => (goes_read readUInt16_yields.takes).bind fun _ =>
        goes_change _
  | unknown06 => exact goes_caught (goes_readEach _)
  | important =>
      exact goes_caught ((goes_read readUInt32_yields.takes).bind fun _ => goes_act _)
  | serverCmd => exact goes_caught (goes_readUInt8.bind fun kind => goes_serverCmdBody kind)
  | newAlias => exact goes_caught (goes_readEach _)
  | textMessage => exact goes_caught goes_handleTextMessageOpcode
  | tryAbility => exact goes_caught (goes_readUInt8.bind fun _ => goes_act _)
  | _ =>
      exact @goes_atOnce (fun s => WorldSession.handle game now s packetUnk _)
        fun run => handle_onward game now _ packetUnk _ run

theorem goes_message (game : Game) (now : Int) (p : WorldPacket) : Goes (message game now p) := by
  refine goes_get.bind fun h => ?_
  dsimp only
  split
  · split
    · exact goes_act _
    · exact goes_pure ()
  · split
    · exact goes_pure ()
    · split
      · exact (goes_change _).bind fun _ => goes_handle game now p.unk _
      · exact goes_handle game now p.unk _

/-- The end of the `try` block is the end of an iteration. -/
theorem nextMessage_eq {h h' : Handled} {packet : Option WorldPacket}
    (run : nextMessage h = (.ok packet, h')) :
    Session.nextMessage h.packet h.packet.toByteBuffer = .ok packet := by
  have packet : (get : Throwing Handled) h = (.ok h, h) := rfl
  have run := (Throws.run_bind_ok packet).symm.trans run
  dsimp only at run
  unfold Session.nextMessage
  split at run
  · next ended =>
      cases run
      exact if_pos ended
  · next unread =>
      rw [if_neg unread]
      cases read : readUInt8 h.packet.toByteBuffer with
      | error fault =>
          have throws : reading readUInt8 h = (.error (), h) := by simp only [reading, read]
          rw [Throws.run_bind_error throws] at run
          cases run
      | ok out =>
          obtain ⟨opcode, b⟩ := out
          have reads : reading readUInt8 h = (.ok opcode, h.readTo b) := by
            simp only [reading, read]
          rw [Throws.run_bind_ok reads] at run
          cases run
          rfl

end Throwing

/-! ### Iterations -/

/-- The packet an iteration keeps is the one it was given, later. -/
theorem iteration_later {game : Game} {now : Int} {s s' : WorldSession} {p p' : WorldPacket}
    {short : ShortRead} {outs : List Output}
    (run : s.iteration game now p short = .ok (s', outs, some p')) :
    Later p.toByteBuffer p'.toByteBuffer := by
  cases short with
  | failedAssertion =>
      unfold WorldSession.iteration at run
      dsimp only at run
      cases message : s.handleMessage game now p.accountid p.unk p.opcode p.toByteBuffer with
      | error fault =>
          rw [message] at run
          cases run
      | ok out =>
          obtain ⟨⟨_, _⟩, b⟩ := out
          rw [message] at run
          dsimp only at run
          cases ending : nextMessage p b with
          | error fault =>
              rw [ending] at run
              cases run
          | ok packet =>
              rw [ending] at run
              cases run
              obtain ⟨data, pos⟩ := WorldSession.handleMessage_forward message
              exact nextMessage_later ⟨data, pos.imp_right fun ended => by omega⟩ ending
  | error =>
      have run : s.turn game now p = (s', outs, some p') := Except.ok.inj run
      unfold WorldSession.turn at run
      have gone := Throwing.goes_message game now p ⟨s, [], p⟩
      rcases message : Throwing.message game now p ⟨s, [], p⟩ with ⟨_ | _, h⟩
      · rw [Throws.run_bind_error message] at run
        cases run
      · rw [message] at gone
        rw [Throws.run_bind_ok message] at run
        rcases ending : Throwing.nextMessage h with ⟨_ | packet, h'⟩
        · rw [ending] at run
          cases run
        · rw [ending] at run
          cases run
          exact nextMessage_later gone (Throwing.nextMessage_eq ending)

namespace Dispatch

/-- An iteration removes a packet, or gets on in it. -/
inductive Gets (d d' : Dispatch) : Prop
  | removed {p : WorldPacket} (held : d.held = p :: d'.held)
  | advanced {p p' : WorldPacket} {queue : List WorldPacket} (held : d.held = p :: queue)
      (kept : d'.held = p' :: queue) (later : Later p.toByteBuffer p'.toByteBuffer)

/-- An iteration, taken apart. -/
theorem next_eq_some {game : Game} {now : Int} {short : ShortRead} {d d' : Dispatch}
    (step : d.next game now short = some d') :
    d.session.socket = true ∧ ∃ p queue s outs packet, d.take = some (p, queue) ∧
      d.session.iteration game now p short = .ok (s, outs, packet) ∧
      d' = ⟨s, d.outs ++ outs, packet, queue⟩ := by
  unfold next at step
  split at step
  · next socket =>
      split at step
      · cases step
      · next p queue taken =>
          split at step
          · cases step
          · next s outs packet run =>
              cases step
              exact ⟨socket, p, queue, s, outs, packet, taken, run, rfl⟩
  · cases step

theorem next_gets {game : Game} {now : Int} {short : ShortRead} {d d' : Dispatch}
    (step : d.next game now short = some d') : Gets d d' := by
  obtain ⟨_, p, queue, s, outs, packet, taken, run, rfl⟩ := next_eq_some step
  have held := take_eq_some taken
  cases packet with
  | none => exact .removed held
  | some p' => exact .advanced held rfl (iteration_later run)

/-- Bytes still to be read of the packets, and one for each packet. -/
def left (packets : List WorldPacket) : Nat := (packets.map fun p => p.size - p.rpos + 1).sum

theorem Gets.left_lt {d d' : Dispatch} (gets : Gets d d') : left d'.held < left d.held := by
  cases gets with
  | removed held =>
      rw [held, left, left, List.map_cons, List.sum_cons]
      omega
  | @advanced p p' queue held kept later =>
      have size : p'.size = p.size := congrArg List.length later.storage
      have advanced := later.advanced
      have inside : p'.rpos ≤ p'.size := later.inside
      rw [held, kept, left, left, List.map_cons, List.sum_cons, List.map_cons, List.sum_cons]
      omega

end Dispatch

/-- Whatever a session has received, with a socket or without, and whether a short read stops the
server or is caught: each iteration of the dispatch loop removes a packet or gets on in it, and the
loop ends. -/
theorem dispatch_ends (game : Game) (now : Int) (short : ShortRead) :
    (∀ d d' : Dispatch, d.next game now short = some d' → d.Gets d') ∧
      ∀ d : Dispatch, Ends (Dispatch.next game now short) d := by
  refine ⟨fun d d' step => Dispatch.next_gets step, fun d => ?_⟩
  refine ends_of_rank Nat.lt_wfRel.wf (fun d => Dispatch.left d.held) ?_
  intro n d d' _ step
  exact (Dispatch.next_gets step).left_lt

/-! ### The loop as a whole -/

namespace Dispatch

theorem next_of_take {game : Game} {now : Int} {short : ShortRead} {d : Dispatch}
    {p : WorldPacket} {queue : List WorldPacket} {s : WorldSession} {outs : List Output}
    {packet : Option WorldPacket} (socket : d.session.socket = true)
    (taken : d.take = some (p, queue))
    (run : d.session.iteration game now p short = .ok (s, outs, packet)) :
    d.next game now short = some ⟨s, d.outs ++ outs, packet, queue⟩ := by
  rw [next, if_pos socket, taken]
  dsimp only
  rw [run]

/-- The loop gets from one state to the other. -/
def Reaches (game : Game) (now : Int) (d d' : Dispatch) : Prop :=
  ∃ n, after (next game now .failedAssertion) n d = some d'

theorem Reaches.step {game : Game} {now : Int} {d d' d'' : Dispatch}
    (step : d.next game now .failedAssertion = some d') (rest : Reaches game now d' d'') :
    Reaches game now d d'' := by
  obtain ⟨n, reached⟩ := rest
  refine ⟨n + 1, ?_⟩
  rw [after, step]
  exact reached

theorem Reaches.trans {game : Game} {now : Int} {d d' d'' : Dispatch}
    (first : Reaches game now d d') (second : Reaches game now d' d'') :
    Reaches game now d d'' := by
  obtain ⟨m, reached⟩ := first
  obtain ⟨n, reached'⟩ := second
  refine ⟨m + n, ?_⟩
  rw [after_add, reached]
  exact reached'

/-- The iterations on one packet do what `dispatchPacket` says. -/
theorem reaches_of_dispatchPacket (game : Game) (now : Int) (s : WorldSession) (p : WorldPacket)
    {last : WorldSession} {total : List Output}
    (run : s.dispatchPacket game now p = .ok (last, total)) (socket : s.socket = true)
    {d : Dispatch} {queue : List WorldPacket} (session : d.session = s)
    (taken : d.take = some (p, queue)) :
    Reaches game now d ⟨last, d.outs ++ total, none, queue⟩ := by
  fun_induction WorldSession.dispatchPacket game now s p generalizing last total d with
  | case1 => cases run
  | case2 s p s' outs b message ended =>
      cases run
      refine ⟨1, ?_⟩
      have iteration : d.session.iteration game now p .failedAssertion = .ok (s', outs, none) := by
        rw [session, WorldSession.iteration, message]
        dsimp only
        rw [nextMessage, if_pos ended]
      rw [after, next_of_take (session ▸ socket) taken iteration]
      rfl
  | case3 => cases run
  | case4 s p s' outs b message unread opcode b' read socket' ih =>
      obtain ⟨⟨_, later⟩, rest, ends⟩ := bind_eq_ok.mp run
      cases ends
      have iteration : d.session.iteration game now p .failedAssertion =
          .ok (s', outs, some { p with toByteBuffer := b', opcode := opcode }) := by
        rw [session, WorldSession.iteration, message]
        dsimp only
        rw [nextMessage, if_neg unread, read]
      refine .step (next_of_take (session ▸ socket) taken iteration) ?_
      rw [← List.append_assoc]
      exact ih rest socket' rfl rfl
  | case5 s p s' outs b message unread opcode b' read gone =>
      have kept := WorldSession.handleMessage_keeps game now s p.accountid p.unk p.opcode
        p.toByteBuffer _ b message
      exact absurd (kept.socket.trans socket) gone

/-- The loop does what `dispatchQueue` says, and stops there. -/
theorem reaches_of_dispatchQueue (game : Game) (now : Int) {queue : List WorldPacket}
    {s s' : WorldSession} {outs : List Output}
    (run : s.dispatchQueue game now queue = .ok (s', outs)) (before : List Output) :
    ∃ d : Dispatch, Reaches game now ⟨s, before, none, queue⟩ d ∧
      d.next game now .failedAssertion = none ∧ d.outs = before ++ outs ∧
      s' = { d.session with recvQueue := d.queue } := by
  induction queue generalizing s before outs with
  | nil =>
      cases run
      refine ⟨⟨s, before, none, []⟩, ⟨0, rfl⟩, ?_, (List.append_nil _).symm, rfl⟩
      unfold next
      split
      · rfl
      · rfl
  | cons p queue ih =>
      rw [WorldSession.dispatchQueue] at run
      split at run
      · next socket =>
          obtain ⟨⟨mid, first⟩, packet, run⟩ := bind_eq_ok.mp run
          obtain ⟨⟨_, later⟩, rest, ends⟩ := bind_eq_ok.mp run
          cases ends
          obtain ⟨d, reached, stops, outs, session⟩ := ih rest (before ++ first)
          have start := reaches_of_dispatchPacket game now s p packet socket
            (d := ⟨s, before, none, p :: queue⟩) rfl rfl
          exact ⟨d, start.trans reached, stops, outs.trans (List.append_assoc _ _ _), session⟩
      · next gone =>
          cases run
          refine ⟨⟨s, before, none, p :: queue⟩, ⟨0, rfl⟩, ?_, (List.append_nil _).symm, rfl⟩
          rw [next, if_neg gone]

end Dispatch

end NoxServer.Session
