import Mathlib.Data.List.TakeWhile
import NoxServer.Library.Runs
import NoxServer.RemoteAdmin.RASocket

/-!
Remote administration is authenticated and exclusive.

`onRead_outcome` says what one `OnRead` can do to the login of a connection: nothing, name
a user, enter the last stage, or run a command. From it follows what every run keeps
(`Inv`): a command has its grounds in the transcript, `iUsers` counts the connections in
the last stage, of which there is one at most, and `buff` has room for what is read.

A line is what the code puts together from the fragments it keeps. That need not be a line
of what the connection sent (`line_not_sent`).
-/

namespace NoxServer

namespace RemoteAdmin

open Runs (Run)
open Transcript (Earlier Founded)

/-! ### Strings -/

theorem cString_of_noNul {bytes : List UInt8} (noNul : 0 ∉ bytes) : cString bytes = bytes := by
  refine List.takeWhile_eq_self_iff.mpr fun c mem => ?_
  have : c ≠ 0 := fun zero => noNul (zero ▸ mem)
  exact decide_eq_true this

/-- What begins with a word is the word and the string behind it. -/
theorem cString_of_take {bytes word : List UInt8} (begins : bytes.take 5 = word)
    (noNul : 0 ∉ word) : cString bytes = word ++ cString (bytes.drop 5) := by
  conv_lhs => rw [← List.take_append_drop 5 bytes, begins]
  refine List.takeWhile_append_of_pos fun c mem => ?_
  have : c ≠ 0 := fun zero => noNul (zero ▸ mem)
  exact decide_eq_true this

/-! ### One read -/

theorem Buff.write_eq_ok (buff : Buff) (pos : Nat) (src : List UInt8)
    (inside : pos + src.length ≤ raBuffSize) : ∃ buff', buff.write pos src = .ok buff' :=
  ⟨_, dif_pos inside⟩

namespace RASocket

/-- Nothing of the login has changed. -/
structure SameLogin (s s' : RASocket) : Prop where
  stage : s'.stage = s.stage
  szPass : s'.szPass = s.szPass
  iMinLevel : s'.iMinLevel = s.iMinLevel

theorem kick_sameLogin (s : RASocket) : SameLogin s s.kick := by
  unfold kick
  split
  · exact ⟨rfl, rfl, rfl⟩
  · exact ⟨rfl, rfl, rfl⟩

theorem tcpOnRead_sameLogin (chunk : List UInt8) (s : RASocket) :
    SameLogin s (s.tcpOnRead chunk) := by
  unfold tcpOnRead
  split
  · exact ⟨rfl, rfl, rfl⟩
  · split
    · exact ⟨rfl, rfl, rfl⟩
    · exact ⟨rfl, rfl, rfl⟩

/-- There is room in `buff` for another character, and `ibuf` is no longer than it can be. -/
structure Fits (s : RASocket) : Prop where
  buff : s.iInputLength < raBuffSize
  ibuf : s.ibuf.length ≤ tcpBufsizeRead

theorem kick_fits {s : RASocket} (fits : s.Fits) : s.kick.Fits := by
  unfold kick
  split
  · exact ⟨fits.buff, fits.ibuf⟩
  · exact fits

theorem tcpOnRead_fits {s : RASocket} (fits : s.Fits) (chunk : List UInt8) :
    (s.tcpOnRead chunk).Fits := by
  unfold tcpOnRead
  split
  · exact ⟨fits.buff, fits.ibuf⟩
  · split
    · next room =>
        refine ⟨fits.buff, ?_⟩
        rw [List.length_append]
        exact room.2
    · exact fits

theorem onAccept_sameLogin (motd : String) (iUsers : UInt32) (s : RASocket) :
    SameLogin s (s.onAccept motd iUsers).1 := by
  unfold onAccept
  split
  · exact ⟨rfl, rfl, rfl⟩
  · exact ⟨rfl, rfl, rfl⟩

theorem onAccept_fits (motd : String) (iUsers : UInt32) {s : RASocket} (fits : s.Fits) :
    (s.onAccept motd iUsers).1.Fits := by
  unfold onAccept
  split
  · exact ⟨fits.buff, fits.ibuf⟩
  · exact fits

theorem onAccept_noCommand (motd : String) (iUsers : UInt32) (s : RASocket) (text : List UInt8) :
    .parseCommand text ∉ (s.onAccept motd iUsers).2 := by
  unfold onAccept
  split
  · simp [busy]
  · simp

/-- What a read can do to a connection, to the number of administrators, and what happens
then. -/
inductive Outcome (s : RASocket) (iUsers : UInt32) : RASocket → UInt32 → List Event → Prop
  /-- The stage is the same, and no command is run. -/
  | idle {s' : RASocket} {events : List Event} (stage : s'.stage = s.stage)
      (szPass : s.stage = .lg → s'.szPass = s.szPass) (iMinLevel : s'.iMinLevel = s.iMinLevel)
      (noCommand : ∀ command, .parseCommand command ∉ events) :
      Outcome s iUsers s' iUsers events
  /-- A line names a user, whose row has the level. -/
  | named {s' : RASocket} {u : List UInt8} {row : Row} {p : { text : List UInt8 // 0 ∉ text }}
      (before : s.stage = .none) (after : s'.stage = .lg) (iMinLevel : s'.iMinLevel = s.iMinLevel)
      (level : s.iMinLevel.toUInt32 ≤ row.gmlevel) (password : row.password = some p)
      (szPass : s'.szPass = p.1) :
      Outcome s iUsers s' iUsers [.line (userCommand ++ u), .queried u (some row)]
  /-- A line gives the password. -/
  | entered {s' : RASocket} (before : s.stage = .lg) (after : s'.stage = .ok)
      (iMinLevel : s'.iMinLevel = s.iMinLevel) (alone : iUsers = 0) :
      Outcome s iUsers s' (iUsers + 1)
        [.line (passCommand ++ cString s.szPass), .sendf "+Logged in.\r\n"]
  /-- A line is a command. -/
  | command {s' : RASocket} {text : List UInt8} (before : s.stage = .ok) (after : s'.stage = .ok)
      (iMinLevel : s'.iMinLevel = s.iMinLevel) :
      Outcome s iUsers s' iUsers [.line text, .parseCommand text]

theorem Outcome.of_sameLogin {s₀ s s' : RASocket} {iUsers iUsers' : UInt32}
    {events : List Event} (same : SameLogin s₀ s) (outcome : Outcome s iUsers s' iUsers' events) :
    Outcome s₀ iUsers s' iUsers' events := by
  obtain ⟨stage, szPass, iMinLevel⟩ := same
  cases outcome with
  | idle stage' szPass' iMinLevel' noCommand =>
      exact .idle (stage'.trans stage) (fun lg => (szPass' (stage.trans lg)).trans szPass)
        (iMinLevel'.trans iMinLevel) noCommand
  | named before after iMinLevel' level password szPass' =>
      exact .named (stage.symm.trans before) after (iMinLevel'.trans iMinLevel)
        (iMinLevel ▸ level) password szPass'
  | entered before after iMinLevel' alone =>
      rw [szPass]
      exact .entered (stage.symm.trans before) after (iMinLevel'.trans iMinLevel) alone
  | command before after iMinLevel' =>
      exact .command (stage.symm.trans before) after (iMinLevel'.trans iMinLevel)

/-- The line `USER`, in the first stage. -/
theorem handleUser_outcome {database : List UInt8 → Option Row} {s s' : RASocket}
    {events : List Event} (iUsers : UInt32) (first : s.stage = .none) (fits : s.Fits)
    (run : s.handleUser database = .ok (s', events)) :
    Outcome s iUsers s' iUsers (.line (cString s.buff.bytes) :: events) ∧ s'.Fits := by
  unfold handleUser at run
  split at run
  · next begins =>
      have line := cString_of_take begins (by decide)
      dsimp only at run
      split at run
      · cases run
        have same := kick_sameLogin { s with szLogin := cString (s.buff.bytes.drop 5) }
        refine ⟨.idle same.stage (fun _ => same.szPass) same.iMinLevel (by simp), ?_⟩
        exact kick_fits ⟨fits.buff, fits.ibuf⟩
      · next row answer =>
          split at run
          · cases run
          · next password pass =>
              split at run
              · cases run
                have same := kick_sameLogin
                  { s with szLogin := cString (s.buff.bytes.drop 5), szPass := password.1 }
                refine ⟨.idle same.stage (fun lg => ?_) same.iMinLevel (by simp), ?_⟩
                · rw [first] at lg
                  cases lg
                · exact kick_fits ⟨fits.buff, fits.ibuf⟩
              · next level =>
                  cases run
                  rw [line]
                  exact ⟨.named first rfl rfl (UInt32.not_lt.mp level) pass rfl,
                    fits.buff, fits.ibuf⟩
  · cases run
    exact ⟨.idle rfl (fun _ => rfl) rfl (by simp), fits⟩

/-- The line `PASS`, in the second stage. -/
theorem handlePass_outcome {s : RASocket} {iUsers : UInt32} (second : s.stage = .lg)
    (alone : iUsers = 0) (fits : s.Fits) :
    Outcome s iUsers (s.handlePass iUsers).1 (s.handlePass iUsers).2.1
      (.line (cString s.buff.bytes) :: (s.handlePass iUsers).2.2) ∧
    (s.handlePass iUsers).1.Fits := by
  unfold handlePass
  split
  · next begins =>
      have line := cString_of_take begins (by decide)
      split
      · next same =>
          rw [line, same]
          exact ⟨.entered second rfl rfl alone, fits.buff, fits.ibuf⟩
      · have same := kick_sameLogin s
        exact ⟨.idle same.stage (fun _ => same.szPass) same.iMinLevel (by simp), kick_fits fits⟩
  · exact ⟨.idle rfl (fun _ => rfl) rfl (by simp), fits⟩

/-- A complete line. -/
theorem handleLine_outcome {database : List UInt8 → Option Row} {s s' : RASocket}
    {iUsers iUsers' : UInt32} {events : List Event} (alone : s.stage ≠ .ok → iUsers = 0)
    (fits : s.Fits) (run : s.handleLine database iUsers = .ok (s', iUsers', events)) :
    Outcome s iUsers s' iUsers' events ∧ s'.Fits := by
  unfold handleLine at run
  dsimp only at run
  split at run
  · next first =>
      obtain ⟨⟨s₁, events₁⟩, user, done⟩ := bind_eq_ok.mp run
      cases done
      exact handleUser_outcome iUsers first fits user
  · next second =>
      cases run
      exact handlePass_outcome second (alone (by rw [second]; decide)) fits
  · next third =>
      cases run
      refine ⟨?_, fits⟩
      unfold handleCommand
      split
      · exact .command third third rfl
      · exact .idle rfl (fun _ => rfl) rfl (by simp)

/-- The only fault of a line is the NULL that a row may have for its password. -/
theorem handleLine_fault {database : List UInt8 → Option Row} {s : RASocket} {iUsers : UInt32}
    {fault : Fault} (run : s.handleLine database iUsers = .error fault) :
    fault = .nullPointer := by
  unfold handleLine at run
  dsimp only at run
  split at run
  · rcases bind_eq_error.mp run with user | ⟨_, _, done⟩
    · unfold handleUser at user
      split at user
      · dsimp only at user
        split at user
        · cases user
        · split at user
          · cases user
            rfl
          · split at user
            · cases user
            · cases user
      · cases user
    · cases done
  · cases run
  · cases run

/-- Input that fits is copied into `buff`, and either completes a line or does not. -/
theorem takeInput_cases (database : List UInt8 → Option Row) {inp : List UInt8} {s : RASocket}
    (iUsers : UInt32) (room : s.iInputLength + inp.length < raBuffSize) :
    ∃ buff length, length < raBuffSize ∧
      (takeInput database inp s iUsers =
          .ok ({ s with buff := buff, iInputLength := length }, iUsers, []) ∨
        takeInput database inp s iUsers =
          handleLine database { s with buff := buff, iInputLength := length } iUsers) := by
  have fewer : (inp.takeWhile fun c => ¬ lineEnd c).length ≤ inp.length :=
    (List.takeWhile_prefix _).length_le
  obtain ⟨buff, write⟩ := s.buff.write_eq_ok s.iInputLength
    (inp.takeWhile fun c => ¬ lineEnd c) (by omega)
  simp only [takeInput, write, ok_bind]
  split
  · obtain ⟨ended, close⟩ := buff.write_eq_ok
      (s.iInputLength + (inp.takeWhile fun c => ¬ lineEnd c).length) [0]
      (by simp only [List.length_singleton]; omega)
    rw [close, ok_bind]
    exact ⟨ended, 0, by decide, .inr rfl⟩
  · exact ⟨buff, _, by omega, .inl rfl⟩

/-- What `OnRead` goes on with, when it does not drop what it read. -/
theorem onRead_cases (database : List UInt8 → Option Row) (chunk : List UInt8) {s : RASocket}
    (iUsers : UInt32) (fits : s.Fits) :
    (∃ s' events, onRead database chunk s iUsers = .ok (s', iUsers, events) ∧
      SameLogin s s' ∧ s'.Fits ∧ ∀ command, .parseCommand command ∉ events) ∨
    ∃ s', onRead database chunk s iUsers = s'.handleLine database iUsers ∧
      SameLogin s s' ∧ s'.Fits ∧ (s'.stage ≠ .ok → iUsers = 0) := by
  have same := tcpOnRead_sameLogin chunk s
  have fits' := tcpOnRead_fits fits chunk
  unfold onRead
  dsimp only
  generalize s.tcpOnRead chunk = r at same fits' ⊢
  have noWrap : (r.iInputLength + r.ibuf.length) % 0x100000000 =
      r.iInputLength + r.ibuf.length := by
    have := fits'.buff
    have := fits'.ibuf
    unfold raBuffSize tcpBufsizeRead at *
    omega
  rw [noWrap]
  split
  · exact .inl ⟨_, _, rfl, ⟨same.stage, same.szPass, same.iMinLevel⟩,
      ⟨fits'.buff, fits'.ibuf⟩, by simp⟩
  · next room =>
      split
      · exact .inl ⟨_, _, rfl, ⟨same.stage, same.szPass, same.iMinLevel⟩,
          ⟨fits'.buff, fits'.ibuf⟩, by simp [busy]⟩
      · next free =>
          split
          · exact .inl ⟨_, _, rfl, ⟨same.stage, same.szPass, same.iMinLevel⟩,
              ⟨fits'.buff, Nat.zero_le _⟩, by simp⟩
          · obtain ⟨buff, length, inside, kept | line⟩ :=
              takeInput_cases database (s := { r with ibuf := [] }) iUsers (Nat.lt_of_not_le room)
            · exact .inl ⟨_, _, kept, ⟨same.stage, same.szPass, same.iMinLevel⟩,
                ⟨inside, Nat.zero_le _⟩, by simp⟩
            · refine .inr ⟨_, line, ⟨same.stage, same.szPass, same.iMinLevel⟩,
                ⟨inside, Nat.zero_le _⟩, fun other => ?_⟩
              by_contra busy
              exact free ⟨other, busy⟩

/-- What one `OnRead` does. -/
theorem onRead_outcome {database : List UInt8 → Option Row} {chunk : List UInt8}
    {s s' : RASocket} {iUsers iUsers' : UInt32} {events : List Event} (fits : s.Fits)
    (run : onRead database chunk s iUsers = .ok (s', iUsers', events)) :
    Outcome s iUsers s' iUsers' events ∧ s'.Fits := by
  rcases onRead_cases database chunk iUsers fits with
    ⟨t, happened, dropped, same, fits', noCommand⟩ | ⟨t, line, same, fits', alone⟩
  · rw [run] at dropped
    cases dropped
    exact ⟨.idle same.stage (fun _ => same.szPass) same.iMinLevel noCommand, fits'⟩
  · rw [run] at line
    obtain ⟨outcome, fits''⟩ := handleLine_outcome alone fits' line.symm
    exact ⟨outcome.of_sameLogin same, fits''⟩

/-- `OnRead` writes within `buff`. -/
theorem onRead_inBounds {database : List UInt8 → Option Row} {chunk : List UInt8}
    {s : RASocket} {iUsers : UInt32} (fits : s.Fits) :
    onRead database chunk s iUsers ≠ .error .outOfBounds := by
  intro run
  rcases onRead_cases database chunk iUsers fits with
    ⟨_, _, dropped, _⟩ | ⟨_, line, _⟩
  · rw [run] at dropped
    cases dropped
  · rw [run] at line
    cases handleLine_fault line.symm

end RASocket

/-! ### What the transcript shows -/

/-- The connection has sent the line `USER u` and the query for `u` answered a row of at
least the connection's level, with the password `p`. -/
def Named (record : List (Nat × Event)) (id : Nat) (iMinLevel : UInt8)
    (p : { text : List UInt8 // 0 ∉ text }) : Prop :=
  ∃ u row,
    Earlier [(id, .accepted iMinLevel), (id, .line (userCommand ++ u)),
      (id, .queried u (some row))] record ∧
    iMinLevel.toUInt32 ≤ row.gmlevel ∧ row.password = some p

/-- After that it has sent the line `PASS p`. -/
def Authenticated (record : List (Nat × Event)) (id : Nat) : Prop :=
  ∃ iMinLevel u row, ∃ p : { text : List UInt8 // 0 ∉ text },
    Earlier [(id, .accepted iMinLevel), (id, .line (userCommand ++ u)),
      (id, .queried u (some row)), (id, .line (passCommand ++ p.1))] record ∧
    iMinLevel.toUInt32 ≤ row.gmlevel ∧ row.password = some p

/-- Commands need a connection that is authenticated. -/
def Grounds (before : List (Nat × Event)) (event : Nat × Event) : Prop :=
  ∀ text, event.2 = .parseCommand text → Authenticated before event.1

theorem Authenticated.grow {record : List (Nat × Event)} {id : Nat}
    (authenticated : Authenticated record id) (new : List (Nat × Event)) :
    Authenticated (record ++ new) id := by
  obtain ⟨iMinLevel, u, row, p, earlier, rest⟩ := authenticated
  exact ⟨iMinLevel, u, row, p, earlier.grow new, rest⟩

/-- The transcript bears out the stage a connection is in. -/
structure Known (record : List (Nat × Event)) (id : Nat) (socket : RASocket) : Prop where
  accepted : Earlier [(id, .accepted socket.iMinLevel)] record
  named : socket.stage = .lg → ∃ p, socket.szPass = p.1 ∧ Named record id socket.iMinLevel p
  entered : socket.stage = .ok → Authenticated record id

theorem Known.grow {record : List (Nat × Event)} {id : Nat} {socket : RASocket}
    (known : Known record id socket) (new : List (Nat × Event)) :
    Known (record ++ new) id socket where
  accepted := known.accepted.grow new
  named second := by
    obtain ⟨p, szPass, u, row, earlier, rest⟩ := known.named second
    exact ⟨p, szPass, u, row, earlier.grow new, rest⟩
  entered third := (known.entered third).grow new

/-- Events of one connection, after the chunk that brought them. -/
theorem earlier_received (id : Nat) (chunk : List UInt8) (events : List Event) :
    Earlier (events.map fun e => (id, e))
      ((Event.received chunk :: events).map fun e => (id, e)) :=
  List.sublist_cons_self _ _

/-- A read keeps what is known of the connection. -/
theorem Known.read {record : List (Nat × Event)} {id : Nat} {s s' : RASocket}
    {iUsers iUsers' : UInt32} {events : List Event} (known : Known record id s)
    (outcome : s.Outcome iUsers s' iUsers' events) (chunk : List UInt8) :
    Known (record ++ (Event.received chunk :: events).map fun e => (id, e)) id s' := by
  have old := known.grow ((Event.received chunk :: events).map fun e => (id, e))
  have new := earlier_received id chunk events
  cases outcome with
  | idle stage szPass iMinLevel noCommand =>
      refine ⟨iMinLevel ▸ old.accepted, fun second => ?_, fun third => ?_⟩
      · have before := stage.symm.trans second
        obtain ⟨p, pass, rest⟩ := old.named before
        exact ⟨p, (szPass before).trans pass, iMinLevel ▸ rest⟩
      · exact old.entered (stage.symm.trans third)
  | @named u row p before after iMinLevel level password szPass =>
      refine ⟨iMinLevel ▸ old.accepted, fun _ => ⟨p, szPass, u, row, ?_, ?_, password⟩, ?_⟩
      · rw [iMinLevel]
        exact known.accepted.append new
      · rwa [iMinLevel]
      · intro third
        rw [after] at third
        cases third
  | entered before after iMinLevel alone =>
      obtain ⟨p, szPass, u, row, earlier, level, password⟩ := known.named before
      refine ⟨iMinLevel ▸ old.accepted, ?_, fun _ => ⟨s.iMinLevel, u, row, p, ?_, level, password⟩⟩
      · intro second
        rw [after] at second
        cases second
      · have line : passCommand ++ cString s.szPass = passCommand ++ p.1 := by
          rw [szPass, cString_of_noNul p.2]
        rw [← line]
        exact earlier.append ((List.sublist_append_left [_] [_]).trans new)
  | command before after iMinLevel =>
      refine ⟨iMinLevel ▸ old.accepted, ?_, fun _ => old.entered before⟩
      intro second
      rw [after] at second
      cases second

/-- Only a connection in the last stage runs commands. -/
theorem RASocket.Outcome.stage_of_command {s s' : RASocket} {iUsers iUsers' : UInt32}
    {events : List Event} (outcome : s.Outcome iUsers s' iUsers' events) {text : List UInt8}
    (mem : .parseCommand text ∈ events) : s.stage = .ok := by
  cases outcome with
  | idle stage szPass iMinLevel noCommand => exact absurd mem (noCommand text)
  | named => simp at mem
  | entered => simp at mem
  | command before => exact before

/-! ### Every run -/

namespace Admins

/-- Whether a connection is live and in the last stage. -/
def isAdmin (connection : Option RASocket) : Bool := connection.any fun s => s.stage = .ok

/-- The number of live connections in stage OK. -/
def admins (s : Admins) : Nat := s.sockets.countP isAdmin

structure Inv (s : Admins) : Prop where
  known : ∀ id socket, s.socket? id = some socket → Known s.transcript id socket ∧ socket.Fits
  counted : s.iUsers.toNat = s.admins
  alone : s.admins ≤ 1
  founded : Founded Grounds s.transcript

theorem inv_start : Inv {} where
  known := nofun
  counted := rfl
  alone := Nat.zero_le 1
  founded := Transcript.founded_nil

theorem socket?_eq_some {s : Admins} {id : Nat} {socket : RASocket} :
    s.socket? id = some socket ↔ s.sockets[id]? = some (some socket) :=
  Option.join_eq_some_iff

theorem isAdmin_some {socket : RASocket} : isAdmin (some socket) = true ↔ socket.stage = .ok := by
  simp [isAdmin]

/-- The number of administrators when one connection's place is taken. -/
theorem countP_set {sockets : List (Option RASocket)} {id : Nat} {socket : RASocket}
    (live : sockets[id]? = some (some socket)) (connection : Option RASocket) :
    (sockets.set id connection).countP isAdmin + (if socket.stage = .ok then 1 else 0) =
      sockets.countP isAdmin + if isAdmin connection then 1 else 0 := by
  obtain ⟨inside, here⟩ := List.getElem?_eq_some_iff.mp live
  have counted : socket.stage = .ok → 0 < sockets.countP isAdmin := fun third =>
    List.countP_pos_iff.mpr ⟨some socket, here ▸ List.getElem_mem inside, isAdmin_some.mpr third⟩
  rw [List.countP_set inside, here]
  by_cases third : socket.stage = .ok
  · have := counted third
    rw [if_pos third, if_pos (isAdmin_some.mpr third)]
    omega
  · rw [if_neg third, if_neg (fun admin => third (isAdmin_some.mp admin))]
    omega

/-- What is in a list with one item replaced. -/
theorem getElem?_set_some {α : Type} {items : List α} {i j : Nat} {item found : α}
    (there : (items.set i item)[j]? = some found) :
    (j = i ∧ item = found) ∨ items[j]? = some found := by
  rw [List.getElem?_set] at there
  split at there
  · next same =>
      split at there
      · exact .inl ⟨same.symm, Option.some.inj there⟩
      · cases there
  · exact .inr there

/-- What is in a list with one item more. -/
theorem getElem?_append_some {α : Type} {items : List α} {j : Nat} {item found : α}
    (there : (items ++ [item])[j]? = some found) :
    items[j]? = some found ∨ (j = items.length ∧ item = found) := by
  rw [List.getElem?_append] at there
  split at there
  · exact .inl there
  · next outside =>
      obtain ⟨inside, here⟩ := List.getElem?_eq_some_iff.mp there
      have last : j = items.length := by
        rw [List.length_singleton] at inside
        omega
      subst last
      exact .inr ⟨rfl, by simpa using here⟩

/-- The counter follows the connection that was read from. -/
theorem counted_read {socket socket' : RASocket} {iUsers iUsers' : UInt32} {events : List Event}
    (outcome : socket.Outcome iUsers socket' iUsers' events) {before after : Nat}
    (count : after + (if socket.stage = .ok then 1 else 0) =
      before + if isAdmin (some socket') then 1 else 0)
    (counted : iUsers.toNat = before) (alone : before ≤ 1) :
    iUsers'.toNat = after ∧ after ≤ 1 := by
  simp only [isAdmin_some] at count
  cases outcome with
  | idle stage =>
      rw [stage] at count
      omega
  | named before after =>
      rw [before, after] at count
      simp only [reduceCtorEq, if_false] at count
      omega
  | entered before after iMinLevel none =>
      rw [before, after] at count
      simp only [reduceCtorEq, if_false, if_true] at count
      subst none
      have zero : (0 : UInt32).toNat = 0 := rfl
      have one : (0 + 1 : UInt32).toNat = 1 := rfl
      omega
  | command before after =>
      rw [before, after] at count
      omega

/-- The counter follows the connection that is gone. -/
theorem counted_delete {socket : RASocket} {iUsers : UInt32} {before after : Nat}
    (count : after + (if socket.stage = .ok then 1 else 0) =
      before + if isAdmin none then 1 else 0)
    (counted : iUsers.toNat = before) (alone : before ≤ 1) :
    (if socket.stage = .ok then iUsers - 1 else iUsers).toNat = after ∧ after ≤ 1 := by
  have noAdmin : isAdmin none = false := rfl
  rw [noAdmin] at count
  split
  · next third =>
      rw [if_pos third] at count
      have one : (1 : UInt32).toNat = 1 := rfl
      have some : 1 ≤ iUsers := UInt32.le_iff_toNat_le.mpr (by simp at count; omega)
      rw [UInt32.toNat_sub_of_le _ _ some]
      simp at count
      omega
  · next other =>
      rw [if_neg other] at count
      simp at count
      omega

/-- Accepting a connection. -/
theorem inv_accept {s : Admins} (inv : Inv s) (bSecure : Bool) (iMinLevel : UInt8) (buff : Buff)
    (motd : String) : Inv (s.accept bSecure iMinLevel buff motd) := by
  unfold accept
  have same := RASocket.onAccept_sameLogin motd s.iUsers
    { buff := buff, bSecure := bSecure, iMinLevel := iMinLevel }
  have fits := RASocket.onAccept_fits motd s.iUsers
    (s := { buff := buff, bSecure := bSecure, iMinLevel := iMinLevel })
    ⟨(by decide : 0 < raBuffSize), (by decide : 0 ≤ tcpBufsizeRead)⟩
  have noCommand := RASocket.onAccept_noCommand motd s.iUsers
    { buff := buff, bSecure := bSecure, iMinLevel := iMinLevel }
  generalize RASocket.onAccept motd s.iUsers
    { buff := buff, bSecure := bSecure, iMinLevel := iMinLevel } = result at same fits noCommand ⊢
  obtain ⟨socket, events⟩ := result
  have first : socket.stage = .none := same.stage
  have count : (s.sockets ++ [some socket]).countP isAdmin = s.sockets.countP isAdmin := by
    simp [List.countP_append, isAdmin, first]
  refine ⟨fun id socket' live => ?_, inv.counted.trans count.symm, ?_, ?_⟩
  · rw [socket?_eq_some] at live
    rcases getElem?_append_some live with old | ⟨rfl, new⟩
    · obtain ⟨known, fits⟩ := inv.known id socket' (socket?_eq_some.mpr old)
      exact ⟨known.grow _, fits⟩
    · obtain rfl := Option.some.inj new
      refine ⟨⟨?_, ?_, ?_⟩, fits⟩
      · rw [same.iMinLevel]
        exact ((List.sublist_append_left [_] _).trans (List.sublist_append_right s.transcript _))
      · intro second
        rw [first] at second
        cases second
      · intro third
        rw [first] at third
        cases third
  · exact count.trans_le inv.alone
  · refine inv.founded.append_free fun event mem before text command => ?_
    obtain ⟨e, inside, rfl⟩ := List.mem_map.mp mem
    rcases List.mem_cons.mp inside with rfl | later
    · cases command
    · obtain rfl : e = .parseCommand text := command
      exact absurd later (noCommand text)

/-- A read. -/
theorem inv_read {s t : Admins} (inv : Inv s) {id : Nat} {chunk : List UInt8}
    {database : List UInt8 → Option Row} (run : s.read id chunk database = .ok t) : Inv t := by
  unfold read at run
  split at run
  · cases run
    exact inv
  · next socket live =>
      obtain ⟨⟨socket', iUsers', events⟩, onRead, done⟩ := bind_eq_ok.mp run
      cases done
      obtain ⟨known, fits⟩ := inv.known id socket live
      obtain ⟨outcome, fits'⟩ := RASocket.onRead_outcome fits onRead
      have count := countP_set (socket?_eq_some.mp live) (some socket')
      obtain ⟨counted, alone⟩ := counted_read outcome count inv.counted inv.alone
      refine ⟨fun id' other there => ?_, counted, alone, ?_⟩
      · rw [socket?_eq_some] at there
        rcases getElem?_set_some there with ⟨rfl, same⟩ | old
        · cases same
          exact ⟨known.read outcome chunk, fits'⟩
        · obtain ⟨known, fits⟩ := inv.known id' other (socket?_eq_some.mpr old)
          exact ⟨known.grow _, fits⟩
      · refine inv.founded.append fun before event after split text command => ?_
        obtain ⟨e, inside, rfl⟩ := List.mem_map.mp
          (split ▸ List.mem_append_right before List.mem_cons_self)
        rcases List.mem_cons.mp inside with rfl | later
        · cases command
        · obtain rfl : e = .parseCommand text := command
          exact (known.entered (outcome.stage_of_command later)).grow before

/-- The end of a connection. -/
theorem inv_delete {s : Admins} (inv : Inv s) (id : Nat) : Inv (s.delete id) := by
  unfold delete
  split
  · exact inv
  · next socket live =>
      have count := countP_set (socket?_eq_some.mp live) none
      obtain ⟨counted, alone⟩ := counted_delete count inv.counted inv.alone
      refine ⟨fun id' other there => ?_, counted, alone, inv.founded⟩
      rw [socket?_eq_some] at there
      rcases getElem?_set_some there with ⟨rfl, same⟩ | old
      · cases same
      · exact inv.known id' other (socket?_eq_some.mpr old)

theorem inv_step (s : Admins) (action : Action) (t : Admins) (inv : Inv s)
    (step : s.Step action t) : Inv t := by
  cases action with
  | accept bSecure iMinLevel buff motd =>
      cases step
      exact inv_accept inv bSecure iMinLevel buff motd
  | read id chunk database => exact inv_read inv step
  | delete id =>
      cases step
      exact inv_delete inv id

/-- No action writes outside `buff`. -/
theorem apply_inBounds {s : Admins} (inv : Inv s) (action : Action) :
    s.apply action ≠ .error .outOfBounds := by
  intro run
  cases action with
  | accept => cases run
  | delete => cases run
  | read id chunk database =>
      change s.read id chunk database = .error .outOfBounds at run
      unfold read at run
      split at run
      · cases run
      · next socket live =>
          rcases bind_eq_error.mp run with onRead | ⟨_, _, done⟩
          · exact RASocket.onRead_inBounds (inv.known id socket live).2 onRead
          · cases done

/-- In every run, a command is run for a connection whose lines have named a user of
sufficient level and then given that user's password, there is at most one connection in
the last stage and `iUsers` counts it, and `buff` is written only where it has room. -/
theorem authenticated_and_exclusive {actions : List Action} {s : Admins}
    (run : Run Step {} actions s) :
    (∀ before id text after, s.transcript = before ++ (id, .parseCommand text) :: after →
      Authenticated before id) ∧
    s.iUsers.toNat = s.admins ∧ s.admins ≤ 1 ∧
    ∀ action, s.apply action ≠ .error .outOfBounds := by
  have inv : Inv s := run.invariant inv_step inv_start
  refine ⟨fun before id text after split => ?_, inv.counted, inv.alone, apply_inBounds inv⟩
  exact inv.founded before (id, .parseCommand text) after split text rfl

/-! ### What was sent -/

def execute : List Action → Admins → Except Fault Admins
  | [], s => .ok s
  | action :: actions, s => do
      let s ← s.apply action
      execute actions s

theorem run_of_execute {actions : List Action} {s t : Admins}
    (done : execute actions s = .ok t) : Run Step s actions t := by
  induction actions generalizing s with
  | nil =>
      cases done
      exact .nil _
  | cons action actions ih =>
      obtain ⟨m, first, rest⟩ := bind_eq_ok.mp done
      exact .cons first (ih rest)

/-- The bytes a connection has sent. -/
def receivedBytes (record : List (Nat × Event)) (id : Nat) : List UInt8 :=
  record.flatMap fun
    | (id', .received chunk) => if id' = id then chunk else []
    | _ => []

/-- The lines of what a connection has sent. -/
def sentLines (record : List (Nat × Event)) (id : Nat) : List (List UInt8) :=
  (receivedBytes record id).splitOnP RASocket.lineEnd

/-- A database in which the user `bob` has the password `pw` and level 3. -/
def bobOnly (login : List UInt8) : Option Row :=
  if login = [98, 111, 98] then some ⟨some ⟨[112, 119], by decide⟩, 3⟩ else none

/-- A connection that sends `USERxxxxx`, ` bob`, `PASS pw` and `quit`, in fragments. -/
def strayRun : List Action :=
  [.accept true 3 ⟨List.replicate raBuffSize 0, List.length_replicate⟩ "",
    .read 0 [85, 83, 69, 82] bobOnly,
    .read 0 [120, 120, 120, 120, 120, 10] bobOnly,
    .read 0 [32, 98, 111] bobOnly,
    .read 0 [98, 10] bobOnly,
    .read 0 [80, 65, 83, 83, 32, 112, 119, 10] bobOnly,
    .read 0 [113, 117, 105, 116, 10] bobOnly]

theorem strayRun_ends : ∃ t, Run Step {} strayRun t ∧
    t.transcript.getLast? = some (0, .parseCommand [113, 117, 105, 116]) ∧
    ∀ line ∈ sentLines t.transcript.dropLast 0, line.take 5 ≠ userCommand := by
  have ends : (execute strayRun {}).toOption.any (fun t =>
      t.transcript.getLast? = some (0, .parseCommand [113, 117, 105, 116]) ∧
        ∀ line ∈ sentLines t.transcript.dropLast 0, line.take 5 ≠ userCommand) = true := by
    decide +kernel
  cases done : execute strayRun {} with
  | error fault =>
      rw [done] at ends
      cases ends
  | ok t =>
      rw [done] at ends
      exact ⟨t, run_of_execute done, of_decide_eq_true ends⟩

/-- The lines are not those of what was sent: the second fragment is dropped, and `USER`
and ` bob`, which were two lines, make one. -/
theorem line_not_sent : ¬ ∀ (actions : List Action) (s : Admins), Run Step {} actions s →
    ∀ before id text after, s.transcript = before ++ (id, .parseCommand text) :: after →
      ∃ u, userCommand ++ u ∈ sentLines before id := by
  intro sent
  obtain ⟨t, run, last, other⟩ := strayRun_ends
  have split := List.dropLast_append_getLast? _ last
  obtain ⟨u, mem⟩ := sent strayRun t run t.transcript.dropLast 0 _ [] split.symm
  exact other _ mem rfl

theorem authenticated_and_exclusive_stray : ∃ s, Run Step {} strayRun s ∧
    (∀ before id text after, s.transcript = before ++ (id, .parseCommand text) :: after →
      Authenticated before id) ∧
    s.iUsers.toNat = s.admins ∧ s.admins ≤ 1 ∧
    ∀ action, s.apply action ≠ .error .outOfBounds := by
  obtain ⟨t, run, -⟩ := strayRun_ends
  exact ⟨t, run, authenticated_and_exclusive run⟩

end Admins

end RemoteAdmin

end NoxServer
