import NoxServer.Library.Throws
import NoxServer.Session.Update

/-!
The handlers of `WorldSession` and its dispatch loop where a short read is `ByteBuffer::error`.

The handlers and the loop set up `catch` blocks for that error. A handler that throws has changed
the session up to the read that does not fit. If it catches the error itself, the loop goes on
with what the packet still holds after the reads that did fit, otherwise the loop deletes the
packet. On a message that is complete a handler does what it does where short reads are failed
assertions (`handle_of_complete`).
-/

namespace NoxServer.Session

open ByteBuffer Consume

/-- What a handler works on: the session, what it has put out, and the packet. -/
structure Handled where
  session : WorldSession
  outs : List Output := []
  packet : WorldPacket

/-- The same with the packet's buffer after a read. -/
def Handled.readTo (h : Handled) (b : ByteBuffer) : Handled :=
  { h with packet := { h.packet with toByteBuffer := b } }

/-- A computation that may throw `ByteBuffer::error`. -/
abbrev Throwing := ExceptT Unit (StateM Handled)

namespace Throwing

/-- A read from the packet. One that does not fit throws, and the position stays. -/
def reading {α : Type} (reader : Reader α) : Throwing α := fun h =>
  match reader h.packet.toByteBuffer with
  | .ok (x, b) => (.ok x, h.readTo b)
  | .error _ => (.error (), h)

/-- Reads of numbers of the given sizes, none of them used. -/
def readEach : List Nat → Throwing Unit
  | [] => pure ()
  | size :: sizes => do
      let _ ← reading (ByteBuffer.read size)
      readEach sizes

/-- What is done to the session. -/
def change (f : WorldSession → WorldSession) : Throwing Unit :=
  modify fun h => { h with session := f h.session }

/-- What is done to the session, and what is put out. -/
def act (f : WorldSession → WorldSession × List Output) : Throwing Unit :=
  modify fun h => { h with session := (f h.session).1, outs := h.outs ++ (f h.session).2 }

def request (r : Request) : Throwing Unit := act fun s => (s, [.request r])

/-- The `catch` block of a handler, which logs and returns. -/
def caught (body : Throwing Unit) : Throwing Unit := tryCatch body fun _ => pure ()

/-- A handler that changes nothing before its last read: all of it or nothing is done. -/
def atOnce (handling : WorldSession → Handling) : Throwing Unit := do
  let h ← get
  let out ← reading (handling h.session)
  act fun _ => out

/-! ### Handlers -/

/-- The reads of `HandlePlayerJoinOpcode`. -/
def joinFields : Throwing (List UInt8 × List UInt8 × List UInt8) := do
  readEach [1, 1]
  let info ← reading (ByteBuffer.read 0x61)
  readEach [0x1F]
  let username ← reading (ByteBuffer.read 9)
  let unk1 ← reading (ByteBuffer.read 0x0C)
  readEach [0x03]
  return (info, username, unk1)

/-- The player is there before the message is read. -/
def handlePlayerJoinOpcode (game : Game) : Throwing Unit := do
  change fun s => { s with player := true }
  let fields ← tryCatch (some <$> joinFields) fun _ => pure none
  match fields with
  | none => pure ()
  | some (info, username, unk1) => act fun s => s.joinPlayer game info username unk1

/-- The second byte of an 0x0E input. Only its first read can throw. -/
def attackInput : Throwing Unit := do
  let requests ← reading WorldSession.attackInput
  act fun s => (s, requests.map .request)

/-- The part of an input that depends on its first byte. -/
def inputAction : UInt8 → Throwing Unit
  | 0x0A => pure ()
  | 0x0E => do
      attackInput
      readEach [1, 1, 1]
  | 0x0F => do
      act fun s => (s, [.request (.moveTowards s.mouse)])
      readEach [4, 1]
  | 0x13 => do
      let action ← reading readUInt32
      if action = 0x07 then request .runningJump
      readEach [1, 1, 2, 1]
  | _ => reading WorldSession.rereadByte

def handlePlayerInputOpcode : Throwing Unit := do
  inputAction (← reading readUInt8)
  readEach [1, 1, 1, 1]
  let angle ← reading readUInt8
  request (.setAngle angle)
  readEach [1, 1, 1, 1, 1]

def handleMouseOpcode : Throwing Unit := do
  let x ← reading readUInt16
  change fun s => { s with mouse := { s.mouse with x_coord := x.toUInt32 } }
  let y ← reading readUInt16
  change fun s => { s with mouse := { s.mouse with y_coord := y.toUInt32 } }

def handleImportantOpcode : Throwing Unit := do
  let timestamp ← reading readUInt32
  act fun s => (s, [s._sendImportantAckOpcode timestamp])

/-- The part of a server command that depends on its first byte. -/
def serverCmdBody : UInt8 → Throwing Unit
  | 0 => do
      readEach [2]
      let count ← reading readUInt8
      readEach (List.replicate count.toNat 2)
      readEach [1, 1]
  | 2 => do
      readEach [2]
      let length ← reading readUInt8
      readEach [length.toNat * 2]
      readEach [1, 1]
  | _ => pure ()

def handleServerCmdOpcode : Throwing Unit := do
  serverCmdBody (← reading readUInt8)

def handleTextMessageOpcode : Throwing Unit := do
  let message := (← get).packet
  readEach [2, 1, 2, 2]
  let length ← reading readUInt16
  readEach [1]
  readEach [length.toNat]
  let pend := (← get).packet.rpos
  let bytes := (message.storage.drop message.rpos).take (pend - message.rpos)
  request (.sendPacketToAll (.ofPayload msgTextMessage 0 0 bytes))

def handleTryAbilityOpcode : Throwing Unit := do
  let ability ← reading readUInt8
  request (.useAbility ability)

/-- The handler a row of the table names. The handlers at the end catch nothing, or have nothing
to catch. -/
def handle (game : Game) (now : Int) (packetUnk : UInt8) : Handler → Throwing Unit
  | .playerJoin => handlePlayerJoinOpcode game
  | .playerInput => caught handlePlayerInputOpcode
  | .mouse => caught handleMouseOpcode
  | .unknown06 => caught (readEach [4])
  | .important => caught handleImportantOpcode
  | .serverCmd => caught handleServerCmdOpcode
  -- the arguments of `SetAlias`, in the order they are written
  | .newAlias => caught (readEach [1, 2, 2, 4])
  | .textMessage => caught handleTextMessageOpcode
  | .tryAbility => caught handleTryAbilityOpcode
  | h => atOnce fun s => WorldSession.handle game now s packetUnk h

/-! ### Complete messages -/

/-- What reads from the packet, and nothing else, as the reader does. -/
def Follows {α : Type} (comp : Throwing α) (reader : Reader α) : Prop :=
  ∀ h, match reader h.packet.toByteBuffer with
    | .ok (x, b) => comp h = (.ok x, h.readTo b)
    | .error _ => ∃ h', comp h = (.error (), h')

theorem follows_reading {α : Type} (reader : Reader α) : Follows (reading reader) reader := by
  intro h
  cases run : reader h.packet.toByteBuffer with
  | error fault => exact ⟨h, by simp only [reading, run]⟩
  | ok out => simp only [reading, run]

theorem follows_pure {α : Type} (x : α) : Follows (pure x) (pure x) := fun _ => rfl

theorem Follows.bind {α β : Type} {comp : Throwing α} {reader : Reader α}
    {next : α → Throwing β} {reader' : α → Reader β} (follows : Follows comp reader)
    (follows' : ∀ x, Follows (next x) (reader' x)) :
    Follows (comp >>= next) (reader >>= reader') := by
  intro h
  have here := follows h
  cases run : reader h.packet.toByteBuffer with
  | error fault =>
      rw [run] at here
      obtain ⟨h', throws⟩ := here
      rw [run_bind_error run]
      exact ⟨h', Throws.run_bind_error throws⟩
  | ok out =>
      obtain ⟨x, b⟩ := out
      rw [run] at here
      rw [run_bind_ok run, Throws.run_bind_ok here]
      exact follows' x (h.readTo b)

theorem readEach_follows (sizes : List Nat) : Follows (readEach sizes) (readFields sizes) := by
  induction sizes with
  | nil => exact follows_pure ()
  | cons size sizes ih => exact (follows_reading _).bind fun _ => ih

theorem Follows.of_ok {α : Type} {comp : Throwing α} {reader : Reader α}
    (follows : Follows comp reader) {h : Handled} {x : α} {b : ByteBuffer}
    (read : reader h.packet.toByteBuffer = .ok (x, b)) : comp h = (.ok x, h.readTo b) := by
  have here := follows h
  rw [read] at here
  exact here

theorem Follows.run_bind {α β : Type} {comp : Throwing α} {reader : Reader α}
    {next : α → Throwing β} (follows : Follows comp reader) {h : Handled} {x : α} {b : ByteBuffer}
    (read : reader h.packet.toByteBuffer = .ok (x, b)) :
    (comp >>= next) h = next x (h.readTo b) :=
  Throws.run_bind_ok (follows.of_ok read)

/-- On a message that is complete for the handling, what is done and put out is the same. -/
def Does (comp : Throwing Unit) (handling : WorldSession → Handling) : Prop :=
  ∀ h s outs b, handling h.session h.packet.toByteBuffer = .ok ((s, outs), b) →
    comp h = (.ok (), ⟨s, h.outs ++ outs, (h.readTo b).packet⟩)

theorem does_act (f : WorldSession → WorldSession × List Output) :
    Does (act f) fun s => pure (f s) := by
  intro h s outs b run
  obtain ⟨done, rfl⟩ := Prod.mk.inj (Except.ok.inj run)
  show ((.ok (), ⟨(f h.session).1, h.outs ++ (f h.session).2, h.packet⟩) :
    Except Unit Unit × Handled) = _
  rw [done]
  rfl

theorem does_atOnce (handling : WorldSession → Handling) : Does (atOnce handling) handling := by
  intro h s outs b run
  have read : reading (handling h.session) h = (.ok (s, outs), h.readTo b) :=
    (follows_reading (handling h.session)).of_ok run
  exact Throws.run_bind_ok read

theorem Does.caught {comp : Throwing Unit} {handling : WorldSession → Handling}
    (does : Does comp handling) : Does (caught comp) handling := by
  intro h s outs b run
  exact Throws.run_tryCatch_ok (does h s outs b run)

/-- Reads, and then what is done with the value. -/
theorem Follows.does {α : Type} {comp : Throwing α} {reader : Reader α} {next : α → Throwing Unit}
    {handling : WorldSession → α → Handling} (follows : Follows comp reader)
    (does : ∀ x, Does (next x) fun s => handling s x) :
    Does (comp >>= next) fun s => reader >>= handling s := by
  intro h s outs b run
  obtain ⟨x, mid, read, run⟩ := bind_run_eq_ok run
  rw [follows.run_bind read]
  exact does x (h.readTo mid) s outs b run

theorem readEach_does (sizes : List Nat) :
    Does (readEach sizes) fun s => s.ignoreFields sizes := by
  intro h s outs b run
  obtain ⟨_, mid, read, ⟨⟩⟩ := bind_run_eq_ok run
  rw [(readEach_follows sizes).of_ok read, List.append_nil]
  rfl

/-- The reads of a join where a short read stops the server. -/
def joinReads : Reader (List UInt8 × List UInt8 × List UInt8) := do
  readFields [1, 1]
  let info ← ByteBuffer.read 0x61
  readFields [0x1F]
  let username ← ByteBuffer.read 9
  let unk1 ← ByteBuffer.read 0x0C
  readFields [0x03]
  return (info, username, unk1)

theorem joinFields_follows : Follows joinFields joinReads :=
  (readEach_follows _).bind fun _ => (follows_reading _).bind fun _ =>
    (readEach_follows _).bind fun _ => (follows_reading _).bind fun _ =>
      (follows_reading _).bind fun _ => (readEach_follows _).bind fun _ => follows_pure _

theorem joinReads_takes : Takes view joinReads fun _ => some 154 :=
  (readFields_yields [1, 1]).and_then fun _ => (read_yields 0x61).and_then fun _ =>
    (readFields_yields [0x1F]).and_then fun _ => (read_yields 9).and_then fun _ =>
      (read_yields 0x0C).and_then fun _ => (readFields_yields [0x03]).and_then fun _ =>
        takes_pure _

/-- The reads of a join complete exactly when there are 154 bytes. -/
theorem joinReads_isOk_iff (b : ByteBuffer) :
    (∃ out, joinReads b = .ok out) ↔ b.rpos + 154 ≤ b.size := by
  have taken := joinReads_takes b
  constructor
  · rintro ⟨⟨fields, last⟩, run⟩
    rw [run] at taken
    obtain ⟨data, _, ⟨⟩, pos⟩ := taken
    obtain ⟨_, _, _, run⟩ := bind_run_eq_ok run
    obtain ⟨_, _, _, run⟩ := bind_run_eq_ok run
    obtain ⟨_, _, _, run⟩ := bind_run_eq_ok run
    obtain ⟨_, _, _, run⟩ := bind_run_eq_ok run
    obtain ⟨_, before, _, run⟩ := bind_run_eq_ok run
    obtain ⟨_, _, final, ⟨⟩⟩ := bind_run_eq_ok run
    have here := readFields_yields [0x03] before
    rw [final] at here
    obtain ⟨-, data', pos'⟩ := here
    obtain ⟨_, _, read, _⟩ := bind_run_eq_ok final
    have room : before.rpos + 3 ≤ before.size := read_room (by decide) read
    have size : before.size = b.size := congrArg List.length (data'.symm.trans data)
    have pos : last.rpos = b.rpos + 154 := pos
    have pos' : last.rpos = before.rpos + 3 := pos'
    omega
  · intro room
    cases run : joinReads b with
    | ok out => exact ⟨out, rfl⟩
    | error fault =>
        rw [run] at taken
        exact absurd room (Nat.not_le.mpr (taken 154 rfl))

/-- What the reads of a join work on: the player is there already. -/
def joining (h : Handled) : Handled := { h with session := { h.session with player := true } }

theorem handlePlayerJoinOpcode_of_fields (game : Game) {h h' : Handled}
    {info username unk1 : List UInt8}
    (read : joinFields (joining h) = (.ok (info, username, unk1), h')) :
    handlePlayerJoinOpcode game h = act (fun s => s.joinPlayer game info username unk1) h' := by
  have got : (tryCatch (some <$> joinFields) fun _ => pure none : Throwing _) (joining h) =
      (.ok (some (info, username, unk1)), h') := by
    refine Throws.run_tryCatch_ok ?_
    rw [map_eq_pure_bind, Throws.run_bind_ok read]
    rfl
  exact (Throws.run_bind_ok rfl).trans (Throws.run_bind_ok got)

/-- A join that is too short leaves the session with the player. -/
theorem handlePlayerJoinOpcode_of_short (game : Game) {h h' : Handled}
    (short : joinFields (joining h) = (.error (), h')) :
    handlePlayerJoinOpcode game h = (.ok (), h') := by
  have got : (tryCatch (some <$> joinFields) fun _ => pure none : Throwing _) (joining h) =
      (.ok none, h') := by
    refine (Throws.run_tryCatch_error (e := ()) (t := h') ?_).trans rfl
    rw [map_eq_pure_bind, Throws.run_bind_error short]
  exact (Throws.run_bind_ok rfl).trans (Throws.run_bind_ok got)

theorem handlePlayerJoinOpcode_does (game : Game) :
    Does (handlePlayerJoinOpcode game) (WorldSession.handlePlayerJoinOpcode game) := by
  intro h s outs b run
  obtain ⟨_, b1, read1, run⟩ := bind_run_eq_ok run
  obtain ⟨info, b2, read2, run⟩ := bind_run_eq_ok run
  obtain ⟨_, b3, read3, run⟩ := bind_run_eq_ok run
  obtain ⟨username, b4, read4, run⟩ := bind_run_eq_ok run
  obtain ⟨unk1, b5, read5, run⟩ := bind_run_eq_ok run
  obtain ⟨_, b6, read6, run⟩ := bind_run_eq_ok run
  have fields : joinFields (joining h) =
      (.ok (info, username, unk1), (joining h).readTo b6) := by
    refine joinFields_follows.of_ok ?_
    refine (run_bind_ok read1).trans ((run_bind_ok read2).trans ((run_bind_ok read3).trans ?_))
    exact (run_bind_ok read4).trans ((run_bind_ok read5).trans ((run_bind_ok read6).trans rfl))
  rw [handlePlayerJoinOpcode_of_fields game fields]
  exact does_act (fun s => s.joinPlayer game info username unk1) _ s outs b run

theorem attackInput_does : Does attackInput fun s => do
    let requests ← WorldSession.attackInput
    return (s, requests.map .request) :=
  (follows_reading _).does fun _ => does_act _

/-- On an input that is complete, what is done and put out where reads throw is what is where they
assert; there is a case for each kind of input. -/
theorem inputAction_does (kind : UInt8) : Does (inputAction kind) fun s => do
    let requests ← s.inputAction kind
    return (s, requests.map .request) := by
  intro h s outs b run
  obtain ⟨requests, mid, action, ⟨⟩⟩ := bind_run_eq_ok run
  unfold WorldSession.inputAction at action
  split at action
  · cases action
    rw [List.map_nil, List.append_nil]
    rfl
  · obtain ⟨requests, attacked, first, rest⟩ := bind_run_eq_ok action
    obtain ⟨_, last, read, ⟨⟩⟩ := bind_run_eq_ok rest
    have attack := attackInput_does h h.session (requests.map .request) attacked
      (run_bind_ok first)
    exact (Throws.run_bind_ok attack).trans ((readEach_follows _).of_ok read)
  · obtain ⟨_, last, read, ⟨⟩⟩ := bind_run_eq_ok action
    exact (Throws.run_bind_ok rfl).trans ((readEach_follows _).of_ok read)
  · obtain ⟨jump, read1, first, rest⟩ := bind_run_eq_ok action
    obtain ⟨_, last, read, ⟨⟩⟩ := bind_run_eq_ok rest
    have start : inputAction 0x13 h = _ :=
      (follows_reading readUInt32).run_bind first
    rw [start]
    split
    · exact (Throws.run_bind_ok rfl).trans ((readEach_follows _).of_ok read)
    · rw [List.map_nil, List.append_nil]
      exact (readEach_follows _).of_ok read
  · obtain ⟨_, b, again, ⟨⟩⟩ := bind_run_eq_ok action
    have reread : inputAction kind = reading WorldSession.rereadByte := by
      unfold inputAction
      split
      · contradiction
      · contradiction
      · contradiction
      · contradiction
      · rfl
    rw [reread, (follows_reading _).of_ok again, List.map_nil, List.append_nil]
    rfl

theorem handlePlayerInputOpcode_does :
    Does handlePlayerInputOpcode WorldSession.handlePlayerInputOpcode := by
  intro h s outs b run
  obtain ⟨kind, b1, read1, run⟩ := bind_run_eq_ok run
  obtain ⟨requests, b2, action, run⟩ := bind_run_eq_ok run
  obtain ⟨_, b3, read3, run⟩ := bind_run_eq_ok run
  obtain ⟨angle, b4, read4, run⟩ := bind_run_eq_ok run
  obtain ⟨_, b5, read5, ⟨⟩⟩ := bind_run_eq_ok run
  have acted := inputAction_does kind (h.readTo b1) h.session _ b2 (run_bind_ok action)
  refine ((follows_reading _).run_bind read1).trans ?_
  refine (Throws.run_bind_ok acted).trans ?_
  refine ((readEach_follows _).run_bind read3).trans ?_
  refine ((follows_reading _).run_bind read4).trans ?_
  refine (Throws.run_bind_ok rfl).trans ?_
  rw [← List.append_assoc]
  exact (readEach_follows _).of_ok read5

theorem handleMouseOpcode_does : Does handleMouseOpcode WorldSession.handleMouseOpcode := by
  intro h s outs b run
  obtain ⟨x, b1, read1, run⟩ := bind_run_eq_ok run
  obtain ⟨y, b2, read2, ⟨⟩⟩ := bind_run_eq_ok run
  refine ((follows_reading _).run_bind read1).trans ?_
  refine (Throws.run_bind_ok rfl).trans ?_
  refine ((follows_reading _).run_bind read2).trans ?_
  rw [List.append_nil]
  rfl

/-- A server command that is complete is read where reads throw as it is where they assert. -/
theorem serverCmdBody_follows (kind : UInt8) :
    Follows (serverCmdBody kind) (WorldSession.serverCmdBody kind) := by
  by_cases zero : kind = 0
  · subst zero
    exact (readEach_follows _).bind fun _ => (follows_reading _).bind fun _ =>
      (readEach_follows _).bind fun _ => readEach_follows _
  by_cases two : kind = 2
  · subst two
    exact (readEach_follows _).bind fun _ => (follows_reading _).bind fun _ =>
      (readEach_follows _).bind fun _ => readEach_follows _
  -- Any other kind has no body.
  have none : serverCmdBody kind = pure () := by
    unfold serverCmdBody
    split
    · exact absurd rfl zero
    · exact absurd rfl two
    · rfl
  have none' : WorldSession.serverCmdBody kind = pure () := by
    unfold WorldSession.serverCmdBody
    split
    · exact absurd rfl zero
    · exact absurd rfl two
    · rfl
  rw [none, none']
  exact follows_pure ()

theorem handleServerCmdOpcode_does :
    Does handleServerCmdOpcode WorldSession.handleServerCmdOpcode := by
  intro h s outs b run
  obtain ⟨kind, b1, read1, run⟩ := bind_run_eq_ok run
  obtain ⟨_, b2, read2, ⟨⟩⟩ := bind_run_eq_ok run
  refine ((follows_reading _).run_bind read1).trans ?_
  rw [List.append_nil]
  exact (serverCmdBody_follows kind).of_ok read2

theorem handleTextMessageOpcode_does :
    Does handleTextMessageOpcode WorldSession.handleTextMessageOpcode := by
  intro h s outs b run
  obtain ⟨_, _, ⟨⟩, run⟩ := bind_run_eq_ok run
  obtain ⟨_, b1, read1, run⟩ := bind_run_eq_ok run
  obtain ⟨length, b2, read2, run⟩ := bind_run_eq_ok run
  obtain ⟨_, b3, read3, run⟩ := bind_run_eq_ok run
  obtain ⟨_, b4, read4, run⟩ := bind_run_eq_ok run
  obtain ⟨_, _, ⟨⟩, ⟨⟩⟩ := bind_run_eq_ok run
  have got : (get : Throwing Handled) h = (.ok h, h) := rfl
  refine (Throws.run_bind_ok got).trans ?_
  refine ((readEach_follows _).run_bind read1).trans ?_
  refine ((follows_reading _).run_bind read2).trans ?_
  refine ((readEach_follows _).run_bind read3).trans ?_
  refine ((readEach_follows _).run_bind read4).trans ?_
  exact Throws.run_bind_ok rfl

/-- A handler of a complete message does what it does where a short read stops the server. -/
theorem handle_of_complete (game : Game) (now : Int) (packetUnk : UInt8) (handler : Handler) :
    Does (handle game now packetUnk handler)
      fun s => WorldSession.handle game now s packetUnk handler := by
  cases handler with
  | playerJoin => exact handlePlayerJoinOpcode_does game
  | playerInput => exact handlePlayerInputOpcode_does.caught
  | mouse => exact handleMouseOpcode_does.caught
  | unknown06 => exact (readEach_does [4]).caught
  | important => exact Does.caught ((follows_reading readUInt32).does fun _ => does_act _)
  | serverCmd => exact handleServerCmdOpcode_does.caught
  | newAlias => exact (readEach_does [1, 2, 2, 4]).caught
  | textMessage => exact handleTextMessageOpcode_does.caught
  | tryAbility => exact Does.caught ((follows_reading readUInt8).does fun _ => does_act _)
  | _ => exact does_atOnce fun s => WorldSession.handle game now s packetUnk _

end Throwing

/-! ### The dispatch loop -/

/-- The row of the table whose handler the loop runs for a message. -/
def called (s : WorldSession) (accountid opcode : UInt8) : Option (SessionStatus × Handler) :=
  if opcode = 0 ∧ accountid = 0xFF then none
  else
    match opcodeTable opcode with
    | none => none
    | some (status, h) =>
        if status = .loggedIn ∧ s.player = true then some (status, h)
        else if status = .authed then some (status, h)
        else none

/-- One message: the body of the `try` block up to the test for the end of the packet. -/
def Throwing.message (game : Game) (now : Int) (p : WorldPacket) : Throwing Unit := do
  let s := (← get).session
  if p.opcode = 0 ∧ p.accountid = 0xFF then
    match s.status with
    | .authed => act WorldSession.handleJoinConfirmation
    | _ => pure ()
  else
    match called s p.accountid p.opcode with
    | none => pure ()
    | some (status, h) => do
        if status = .authed then change fun s => { s with playerRecentlyLogout := false }
        handle game now p.unk h

/-- A complete message does what it does where a short read stops the server. -/
theorem Throwing.message_of_complete (game : Game) (now : Int) (p : WorldPacket) :
    Does (message game now p)
      fun s => s.handleMessage game now p.accountid p.unk p.opcode := by
  intro h s outs b run
  unfold WorldSession.handleMessage at run
  dsimp only at run
  refine (Throws.run_bind_ok rfl).trans ?_
  dsimp only
  split at run
  · next confirmation =>
      rw [if_pos confirmation]
      cases status : h.session.status with
      | authed =>
          rw [status] at run
          exact does_act WorldSession.handleJoinConfirmation h s outs b run
      | confirmed =>
          rw [status] at run
          cases run
          rw [List.append_nil]
          rfl
      | loggedIn =>
          rw [status] at run
          cases run
          rw [List.append_nil]
          rfl
  · next other =>
      rw [if_neg other, called, if_neg other]
      cases row : opcodeTable p.opcode with
      | none =>
          rw [row] at run
          cases run
          rw [List.append_nil]
          rfl
      | some row' =>
          obtain ⟨status, handler⟩ := row'
          rw [row] at run
          dsimp only at run ⊢
          split at run
          · next playing =>
              rw [if_pos playing]
              dsimp only
              rw [playing.1]
              exact (Throws.run_bind_ok rfl).trans
                (handle_of_complete game now p.unk handler h s outs b run)
          · next notPlaying =>
              rw [if_neg notPlaying]
              split at run
              · next authed =>
                  rw [if_pos authed]
                  dsimp only
                  rw [if_pos authed]
                  exact (Throws.run_bind_ok rfl).trans
                    (handle_of_complete game now p.unk handler _ s outs b run)
              · next neither =>
                  rw [if_neg neither]
                  cases run
                  rw [List.append_nil]
                  rfl

/-- The end of the `try` block: the packet with its next opcode, unless it is at its end. -/
def Throwing.nextMessage : Throwing (Option WorldPacket) := do
  let p := (← get).packet
  if p.rpos = p.size then return none
  else
    let opcode ← reading readUInt8
    return some { (← get).packet with opcode := opcode }

/-- One turn of the loop, with the packet it goes on with; an error deletes the packet. -/
def WorldSession.turn (game : Game) (now : Int) (s : WorldSession) (p : WorldPacket) :
    WorldSession × List Output × Option WorldPacket :=
  match (Throwing.message game now p >>= fun _ => Throwing.nextMessage) ⟨s, [], p⟩ with
  | (.ok next, h) => (h.session, h.outs, next)
  | (.error _, h) => (h.session, h.outs, none)

end NoxServer.Session
