import NoxServer.Awesie.SendBuffer
import NoxServer.Awesie.WorldLoop

/-!
What the loop over the players hands to the sessions, of the server under `awesie_test`
(`world::run`).

A player's update calls `send_packet` for every object that is out of sight, if its view is
refreshed, and for the update stream. So whatever the players see and whatever comes in between,
all packets of the loop go through the calls that the send buffer is judged by (`turns_calls`), and
the streams have the objects that the world's own events tell of (`stream_mem_iff`). A stream finds
room by what there is to see (`stream_findsRoom_iff`).
-/

namespace NoxServer

namespace Awesie

open Frames Runs

variable {Obj Pos η : Type} [DecidableEq Obj] (objects : Objects Obj)

namespace GameWorld

/-- What `update_player()` sends: the extents that are out of sight, and the objects that come
behind the player in the stream. -/
def outgoing (answer : Answer Obj) (p : Obj) (w : GameWorld Obj Pos) : List UInt16 × List Obj :=
  if w.flip.refresh then
    (if w.body p then (updateView objects (w.scene p answer) (w.sight p)).2 else [],
      ((w.flip.look objects answer p).sight p).updateQueue.erase p)
  else ([], (w.sight p).updateQueue.erase p)

/-- The stream that an update tells of has the player and these objects, unless the player is
loading. -/
theorem stream_mem_iff (answer : Answer Obj) (p : Obj) (w : GameWorld Obj Pos)
    (content : List Obj) :
    .stream p content ∈ (w.updatePlayer objects answer p).2 ↔
      w.playerLoading p = false ∧ content = p :: (w.outgoing objects answer p).2 := by
  have loading : (w.flip.look objects answer p).playerLoading = w.playerLoading := by
    unfold look
    split <;> rfl
  unfold updatePlayer outgoing
  split
  · cases flag : w.playerLoading p <;> simp [sendUpdate, sendUpdatePacket, loading, flag]
  · cases flag : w.playerLoading p <;> simp [sendUpdate, sendUpdatePacket, flag, flip]

end GameWorld

/-- The packet of an object that is out of sight: MSG_OBJECT_OUT_OF_SIGHT is 0x32. -/
def outOfSightPacket (extent : UInt16) : WorldPacket where
  opcode := 0x32
  endpoint := ⟨0, 0⟩
  buffer := ByteBuffer.extend {} (ByteBuffer.toBytes 2 extent.toNat)

/-- How the objects appear in the streams, and the session of each player. -/
structure Faces (Obj : Type) where
  visible : Obj → Visible
  session : Obj → Nat

/-- `update_player()`, as the player's session sees it. -/
def updatePlayer (faces : Faces Obj) (answer : Answer Obj) (p : Obj) (w : GameWorld Obj Pos) :
    Handling η Unit := do
  let (lost, others) := w.outgoing objects answer p
  performSends (faces.session p) (lost.map fun extent => .own (outOfSightPacket extent) true true)
  let here ← session (faces.session p)
  let packet := updatePacket here.endpoint (faces.visible p) (others.map faces.visible)
  sendPacket (faces.session p) packet true true

/-- The loop over the players. -/
def updatePlayers (faces : Faces Obj) (answer : Obj → Answer Obj) :
    List Obj → GameWorld Obj Pos → Handling η Unit
  | [], _ => pure ()
  | p :: players, w => do
      updatePlayer objects faces (answer p) p w
      updatePlayers faces answer players (w.updatePlayer objects (answer p) p).1

/-- What the loop does to the packets: it updates the players, or the socket. -/
inductive Turn (Obj Pos : Type) where
  | players (faces : Faces Obj) (answer : Obj → Answer Obj) (w : GameWorld Obj Pos)
  | socket (action : Action)

def Turn.Taken (rest : Rest η) (s : Server η) (turn : Turn Obj Pos) (t : Server η) : Prop :=
  match turn with
  | .players faces answer w => updatePlayers objects faces answer w.players w s = .ok ((), t)
  | .socket action => Step rest s action t

theorem updatePlayer_calls (faces : Faces Obj) (answer : Answer Obj) (p : Obj)
    (w : GameWorld Obj Pos) :
    Keeps (callFrame η) (updatePlayer objects faces answer p w) fun _ => True := by
  unfold updatePlayer
  refine (performSends_calls _ _).seq fun _ => (session_calls _).seq fun here => ?_
  exact sendPacket_calls _ _ true true

theorem updatePlayers_calls (faces : Faces Obj) (answer : Obj → Answer Obj) (players : List Obj)
    (w : GameWorld Obj Pos) :
    Keeps (callFrame η) (updatePlayers objects faces answer players w) fun _ => True := by
  induction players generalizing w with
  | nil => exact keeps_pure trivial
  | cons p players ih => exact (updatePlayer_calls objects faces (answer p) p w).seq fun _ => ih _

/-- What the turns of the loop do to the packets, some calls do. -/
theorem turns_calls {rest : Rest η} {s t : Server η} {turns : List (Turn Obj Pos)}
    (run : Run (Turn.Taken objects rest) s turns t) : ∃ calls, Run Calls s calls t := by
  induction run with
  | nil s => exact ⟨[], .nil s⟩
  | @cons s mid t turn turns step _ ih =>
      obtain ⟨later, rest_calls⟩ := ih
      have now : ∃ calls, Run Calls s calls mid := by
        cases turn with
        | players faces answer w =>
            exact (updatePlayers_calls objects faces answer w.players w s () mid trivial step).1
        | socket action => exact step_calls rest step
      obtain ⟨calls, here⟩ := now
      exact ⟨calls ++ later, here.append rest_calls⟩

/-- A ready session that has nothing to send has room for a stream exactly when the objects to see
take no more than 1007 bytes. -/
theorem stream_findsRoom_iff {s : Server η} {ptr : Nat} {here : WorldSession}
    (live : s.session? ptr = some here) (ready : here.own.playerLoading = false)
    (fresh : here.sendPacket.opcode = 0) (empty : here.sendPacket.buffer.size = 0)
    (a : Appearance) (angle action : UInt8) (queue : List Visible) :
    FindsRoom s (.send ptr (updatePacket here.endpoint (.player a angle action) queue) true true) ↔
      (queue.map Visible.size).sum ≤ 1007 := by
  have same (packet : WorldPacket) : ¬ here.Flushes packet := fun flushes => flushes.1 fresh
  rw [← updatePacket_fits_iff here.endpoint a angle action queue]
  constructor
  · intro room
    have found := (room here live).resolve_left fun loading => by simp [ready] at loading
    unfold WorldSession.HasRoom at found
    rw [if_neg (same _), if_pos fresh, empty, Nat.zero_add] at found
    exact found
  · intro fits other live'
    cases live.symm.trans live'
    right
    unfold WorldSession.HasRoom
    rw [if_neg (same _), if_pos fresh, empty, Nat.zero_add]
    exact fits

end Awesie

end NoxServer
