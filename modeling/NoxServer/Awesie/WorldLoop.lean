import Mathlib.Logic.Function.Basic
import NoxServer.Awesie.View

/-!
The loop of the server under `awesie_test` (`world::run`), as far as the update streams go.

An iteration steps the physics, updates every player, updates the objects and then the socket.
A player's update refreshes its view when a flag is set that every update of any player flips.
An object that has moved is dirty from the update of the objects in this iteration to the one
in the next, so a viewer learns of a movement only if its refresh falls into the iteration
after it (`movement_seen_iff`). Positions are exact here, so that a body is where it has been
put.
-/

namespace NoxServer

namespace Awesie

/-- The physics engine's answer to a player: the shapes it finds, each object's once, and
whether one is hit by a segment. -/
structure Answer (Obj : Type) where
  shapes : List (Option Obj)
  once : (shapes.filterMap id).Nodup
  testSegment : Nat → Obj → Bool

/-- The world between two steps of an iteration. `refresh` is the static variable of
`player::update_player`, `calls` how often that has been called, and `players` is `m_players` in
the order of the ids. -/
structure GameWorld (Obj Pos : Type) where
  calls : Nat := 0
  refresh : Bool := false
  players : List Obj := []
  /-- `m_body` is not NULL. -/
  body : Obj → Bool
  position : Obj → Pos
  positionOld : Obj → Pos
  updated : Obj → Bool := fun _ => true
  playerLoading : Obj → Bool := fun _ => false
  sight : Obj → Sight Obj := fun _ => {}

/-- What is seen of an iteration from outside: calls of `update_view`, and update streams that
are sent. -/
inductive Event (Obj : Type) where
  | viewUpdated (player : Obj)
  | stream (player : Obj) (content : List Obj)
  deriving DecidableEq

/-- Whose event it is. -/
def Event.player {Obj : Type} : Event Obj → Obj
  | .viewUpdated p => p
  | .stream p _ => p

/-- What the update of the socket may do here. -/
inductive SocketAction (Obj Pos : Type) where
  /-- A new object. -/
  | create (o : Obj)
  /-- `set_position` of an object that is not a player. -/
  | setPosition (o : Obj) (pos : Pos)
  /-- `player::set_position`. -/
  | setPlayerPosition (p : Obj) (pos : Pos) (answer : Answer Obj)
  | destroyBody (o : Obj)
  /-- `add_player`, with an id that puts the player at a place. -/
  | addPlayer (p : Obj) (place : Nat)
  | removePlayer (p : Obj)
  /-- `_SendUseMapOpcode`: the player loads the map. -/
  | useMap (p : Obj)
  /-- `HandleClientReadyOpcode`. -/
  | clientReady (p : Obj) (pos : Pos) (answer : Answer Obj)

/-- One iteration: where the physics puts the bodies, its answers to the players, and what
comes in. -/
structure Iteration (Obj Pos : Type) where
  physics : Obj → Pos
  answer : Obj → Answer Obj
  socket : List (SocketAction Obj Pos) := []

variable {Obj Pos : Type} [DecidableEq Obj] (objects : Objects Obj)

namespace GameWorld

/-- The world once a map is loaded: no players, and objects with bodies where they are. -/
def start (body : Obj → Bool) (position : Obj → Pos) : GameWorld Obj Pos where
  body := body
  position := position
  positionOld := position

/-- What a player's call of `update_view` finds. -/
def scene (w : GameWorld Obj Pos) (p : Obj) (answer : Answer Obj) : Scene Obj where
  shapes := answer.shapes
  testSegment := answer.testSegment
  isDirty := w.updated
  playerLoading := w.playerLoading p

/-- The world with a player's sight written. -/
def see (p : Obj) (sight : Sight Obj) (w : GameWorld Obj Pos) : GameWorld Obj Pos :=
  { w with sight := Function.update w.sight p sight }

/-- `update_view()`. -/
def look (answer : Answer Obj) (p : Obj) (w : GameWorld Obj Pos) : GameWorld Obj Pos :=
  if w.body p then w.see p (updateView objects (w.scene p answer) (w.sight p)).1 else w

/-- `SendUpdatePacket()`: `send_packet` drops the stream while the player is loading. -/
def sendUpdate (p : Obj) (w : GameWorld Obj Pos) : GameWorld Obj Pos × List (Event Obj) :=
  (w.see p (sendUpdatePacket p (w.sight p)).1,
    if w.playerLoading p then [] else [.stream p (sendUpdatePacket p (w.sight p)).2])

/-- The start of `update_player()`. -/
def flip (w : GameWorld Obj Pos) : GameWorld Obj Pos :=
  { w with calls := w.calls + 1, refresh := !w.refresh }

def updatePlayer (answer : Answer Obj) (p : Obj) (w : GameWorld Obj Pos) :
    GameWorld Obj Pos × List (Event Obj) :=
  if w.flip.refresh then
    let sent := (w.flip.look objects answer p).sendUpdate p
    (sent.1, .viewUpdated p :: sent.2)
  else w.flip.sendUpdate p

/-- The loop over the players. -/
def updatePlayers (answer : Obj → Answer Obj) :
    List Obj → GameWorld Obj Pos → GameWorld Obj Pos × List (Event Obj)
  | [], w => (w, [])
  | p :: players, w =>
      let first := w.updatePlayer objects (answer p) p
      let rest := updatePlayers answer players first.1
      (rest.1, first.2 ++ rest.2)

/-- `Step`: bodies move. -/
def stepPhysics (physics : Obj → Pos) (w : GameWorld Obj Pos) : GameWorld Obj Pos :=
  { w with position := fun o => if w.body o then physics o else w.position o }

/-- `object_mgr::update`: an object is dirty if it is not where it was at the last update. -/
def updateObjects [DecidableEq Pos] (w : GameWorld Obj Pos) : GameWorld Obj Pos :=
  { w with
    updated := fun o => w.body o && !objects.isStatic o && w.position o != w.positionOld o
    positionOld := fun o =>
      if w.body o && !objects.isStatic o then w.position o else w.positionOld o }

/-- `set_position`. -/
def place (o : Obj) (pos : Pos) (w : GameWorld Obj Pos) : GameWorld Obj Pos :=
  { w with
    body := Function.update w.body o true
    position := Function.update w.position o pos
    positionOld := Function.update w.positionOld o pos }

/-- One action of the socket. -/
def act (w : GameWorld Obj Pos) : SocketAction Obj Pos → GameWorld Obj Pos × List (Event Obj)
  | .create o =>
      ({ w with
        body := Function.update w.body o false
        updated := Function.update w.updated o true
        playerLoading := Function.update w.playerLoading o false
        sight := Function.update w.sight o {} }, [])
  | .setPosition o pos => (w.place o pos, [])
  | .setPlayerPosition p pos answer => ((w.place p pos).look objects answer p, [.viewUpdated p])
  | .destroyBody o => ({ w with body := Function.update w.body o false }, [])
  | .addPlayer p place =>
      (if p ∈ w.players then w
      else { w with players := w.players.insertIdx (min place w.players.length) p }, [])
  | .removePlayer p => ({ w with players := w.players.erase p }, [])
  | .useMap p => ({ w with playerLoading := Function.update w.playerLoading p true }, [])
  | .clientReady p pos answer =>
      if w.playerLoading p then
        let ready := { w with playerLoading := Function.update w.playerLoading p false }
        let sent := ready.sendUpdate p
        ((sent.1.place p pos).look objects answer p, sent.2 ++ [.viewUpdated p])
      else (w, [])

def updateSocket : List (SocketAction Obj Pos) → GameWorld Obj Pos →
    GameWorld Obj Pos × List (Event Obj)
  | [], w => (w, [])
  | action :: actions, w =>
      let first := w.act objects action
      let rest := updateSocket actions first.1
      (rest.1, first.2 ++ rest.2)

/-- One iteration of the loop, and its events. -/
def iterate [DecidableEq Pos] (w : GameWorld Obj Pos) (i : Iteration Obj Pos) :
    GameWorld Obj Pos × List (Event Obj) :=
  let players := (w.stepPhysics i.physics).updatePlayers objects i.answer w.players
  let socket := (players.1.updateObjects objects).updateSocket objects i.socket
  (socket.1, players.2 ++ socket.2)

/-- The world after some iterations. -/
def after [DecidableEq Pos] (w : GameWorld Obj Pos) (iterations : List (Iteration Obj Pos)) :
    GameWorld Obj Pos :=
  iterations.foldl (fun w i => (w.iterate objects i).1) w

/-- How many calls of `update_player` come before the player's in the next iteration. -/
def callsBefore (w : GameWorld Obj Pos) (p : Obj) : Nat := w.calls + w.players.idxOf p

/-! ### The update of the players -/

/-- The static variable is set by every other call. -/
def Aligned (w : GameWorld Obj Pos) : Prop := w.refresh = decide (w.calls % 2 = 1)

/-- The sight a player sends from: refreshed, if an even number of calls came before. -/
def seen (answer : Answer Obj) (before : Nat) (p : Obj) (w : GameWorld Obj Pos) : Sight Obj :=
  if before % 2 = 0 ∧ w.body p = true then
    (updateView objects (w.scene p answer) (w.sight p)).1
  else w.sight p

variable {objects}

omit [DecidableEq Obj] in
theorem Aligned.flip {w : GameWorld Obj Pos} (aligned : Aligned w) : Aligned w.flip := by
  unfold Aligned GameWorld.flip
  dsimp only
  rw [aligned, ← decide_not, decide_eq_decide]
  omega

omit [DecidableEq Obj] in
theorem Aligned.flip_refresh {w : GameWorld Obj Pos} (aligned : Aligned w) :
    w.flip.refresh = decide (w.calls % 2 = 0) := by
  rw [aligned.flip, decide_eq_decide, GameWorld.flip]
  dsimp only
  omega

@[simp] theorem see_sight (p : Obj) (sight : Sight Obj) (w : GameWorld Obj Pos) :
    (w.see p sight).sight p = sight := by
  unfold see
  exact Function.update_self p sight w.sight

@[simp] theorem see_see (p : Obj) (sight sight' : Sight Obj) (w : GameWorld Obj Pos) :
    (w.see p sight).see p sight' = w.see p sight' := by
  unfold see
  rw [Function.update_idem]

theorem see_sight_of_ne {p q : Obj} (other : q ≠ p) (sight : Sight Obj) (w : GameWorld Obj Pos) :
    (w.see p sight).sight q = w.sight q := by
  unfold see
  exact Function.update_of_ne other sight w.sight

/-- What a player's update changes and what it tells. -/
theorem updatePlayer_eq {w : GameWorld Obj Pos} (aligned : Aligned w) (answer : Answer Obj)
    (p : Obj) :
    w.updatePlayer objects answer p =
      (w.flip.see p (sendUpdatePacket p (w.seen objects answer w.calls p)).1,
        (if w.calls % 2 = 0 then [.viewUpdated p] else []) ++
          if w.playerLoading p then []
          else [.stream p (sendUpdatePacket p (w.seen objects answer w.calls p)).2]) := by
  unfold updatePlayer seen
  rw [aligned.flip_refresh]
  by_cases even : w.calls % 2 = 0
  · rw [if_pos (decide_eq_true even), if_pos even]
    by_cases body : w.body p = true
    · have looks : w.flip.look objects answer p =
          w.flip.see p (updateView objects (w.scene p answer) (w.sight p)).1 := if_pos body
      rw [looks, if_pos ⟨even, body⟩]
      dsimp only
      rw [sendUpdate, see_sight, see_see]
      rfl
    · have looks : w.flip.look objects answer p = w.flip := if_neg body
      rw [looks, if_neg fun both => body both.2]
      rfl
  · rw [if_neg (by simpa using even), if_neg even, if_neg fun both => even both.1]
    rfl

variable (objects)

/-- What the loop over some players leaves as it is. -/
structure Keeps (w w' : GameWorld Obj Pos) (players : List Obj) : Prop where
  same : ∃ calls refresh sight,
    w' = { w with calls := calls, refresh := refresh, sight := sight }
  calls : w'.calls = w.calls + players.length
  aligned : Aligned w'
  others : ∀ q, q ∉ players → w'.sight q = w.sight q

theorem updatePlayer_keeps {w : GameWorld Obj Pos} (aligned : Aligned w) (answer : Answer Obj)
    (p : Obj) : Keeps w (w.updatePlayer objects answer p).1 [p] := by
  rw [updatePlayer_eq aligned]
  refine ⟨⟨_, _, _, rfl⟩, rfl, aligned.flip, fun q other => ?_⟩
  exact Function.update_of_ne (fun own => other (List.mem_singleton.mpr own)) _ _

/-- The turns over the players leave the physics and the objects as they are, and change the views
and queues of those players only. -/
theorem updatePlayers_keeps (answer : Obj → Answer Obj) (players : List Obj)
    {w : GameWorld Obj Pos} (aligned : Aligned w) :
    Keeps w (w.updatePlayers objects answer players).1 players := by
  induction players generalizing w with
  | nil => exact ⟨⟨_, _, _, rfl⟩, rfl, aligned, fun _ _ => rfl⟩
  | cons p players ih =>
      have first := updatePlayer_keeps objects aligned (answer p) p
      have rest := ih first.aligned
      refine ⟨?_, ?_, rest.aligned, fun q other => ?_⟩
      · obtain ⟨_, _, _, first⟩ := first.same
        obtain ⟨_, _, _, rest⟩ := rest.same
        rw [updatePlayers]
        dsimp only
        rw [rest, first]
        exact ⟨_, _, _, rfl⟩
      · have calls := first.calls
        have calls' := rest.calls
        rw [updatePlayers, List.length_cons]
        dsimp only
        rw [calls', calls, List.length_singleton]
        omega
      · obtain ⟨notFirst, notLater⟩ := not_or.mp (mt List.mem_cons.mpr other)
        exact (rest.others q notLater).trans
          (first.others q (fun mem => notFirst (List.mem_singleton.mp mem)))

theorem updatePlayer_events {w : GameWorld Obj Pos} (aligned : Aligned w) (answer : Answer Obj)
    (p : Obj) : ∀ e ∈ (w.updatePlayer objects answer p).2, e.player = p := by
  rw [updatePlayer_eq aligned]
  dsimp only
  intro e mem
  rcases List.mem_append.mp mem with mem | mem
  · split at mem
    · cases List.mem_singleton.mp mem
      rfl
    · cases mem
  · split at mem
    · cases mem
    · cases List.mem_singleton.mp mem
      rfl

theorem updatePlayers_events (answer : Obj → Answer Obj) (players : List Obj)
    {w : GameWorld Obj Pos} (aligned : Aligned w) :
    ∀ e ∈ (w.updatePlayers objects answer players).2, e.player ∈ players := by
  induction players generalizing w with
  | nil => nofun
  | cons p players ih =>
      have first := updatePlayer_keeps objects aligned (answer p) p
      intro e mem
      rcases List.mem_append.mp mem with mem | mem
      · rw [updatePlayer_events objects aligned (answer p) p e mem]
        exact List.mem_cons_self
      · exact List.mem_cons_of_mem p (ih first.aligned e mem)

/-- What a player's own update does in the loop over all. -/
structure Served (w : GameWorld Obj Pos) (answer : Answer Obj) (before : Nat) (p : Obj)
    (out : GameWorld Obj Pos × List (Event Obj)) : Prop where
  sight : out.1.sight p = (sendUpdatePacket p (w.seen objects answer before p)).1
  viewUpdated : .viewUpdated p ∈ out.2 ↔ before % 2 = 0
  stream : ∀ content, .stream p content ∈ out.2 ↔ w.playerLoading p = false ∧
    content = (sendUpdatePacket p (w.seen objects answer before p)).2

theorem updatePlayer_served {w : GameWorld Obj Pos} (aligned : Aligned w) (answer : Answer Obj)
    (p : Obj) :
    w.Served objects answer w.calls p (w.updatePlayer objects answer p) := by
  rw [updatePlayer_eq aligned]
  refine ⟨see_sight _ _ _, ?_, fun content => ?_⟩
  · by_cases even : w.calls % 2 = 0 <;> cases loading : w.playerLoading p <;> simp [even]
  · by_cases even : w.calls % 2 = 0 <;> cases loading : w.playerLoading p <;> simp [even]

/-- A player that is in the list once is served once, after those before it. -/
theorem updatePlayers_served (answer : Obj → Answer Obj) {players : List Obj}
    {w : GameWorld Obj Pos} (aligned : Aligned w) (nodup : players.Nodup) {p : Obj}
    (mem : p ∈ players) :
    w.Served objects (answer p) (w.calls + players.idxOf p) p
      (w.updatePlayers objects answer players) := by
  induction players generalizing w with
  | nil => cases mem
  | cons q players ih =>
      obtain ⟨notLater, nodup⟩ := List.nodup_cons.mp nodup
      have first := updatePlayer_keeps objects aligned (answer q) q
      have later := updatePlayers_keeps objects answer players first.aligned
      have events := updatePlayers_events objects answer players first.aligned
      rw [updatePlayers]
      by_cases own : p = q
      · subst own
        have served := updatePlayer_served objects aligned (answer p) p
        have apart {e : Event Obj} (of : e.player = p) :
            e ∉ (updatePlayers objects answer players (w.updatePlayer objects (answer p) p).1).2 :=
          fun mem => notLater (of ▸ events e mem)
        rw [List.idxOf_cons_self, Nat.add_zero]
        refine ⟨?_, ?_, fun content => ?_⟩
        · exact (later.others p notLater).trans served.sight
        · rw [List.mem_append, or_iff_left (apart rfl)]
          exact served.viewUpdated
        · rw [List.mem_append, or_iff_left (apart rfl)]
          exact served.stream content
      · have mem := (List.mem_cons.mp mem).resolve_left own
        have served := ih first.aligned nodup mem
        have apart {e : Event Obj} (of : e.player = p) :
            e ∉ (w.updatePlayer objects (answer q) q).2 :=
          fun mem => own (of.symm.trans (updatePlayer_events objects aligned (answer q) q e mem))
        have place : (w.updatePlayer objects (answer q) q).1.calls + players.idxOf p =
            w.calls + (q :: players).idxOf p := by
          rw [List.idxOf_cons_ne _ (Ne.symm own), first.calls, List.length_singleton]
          omega
        have sight := first.others p (fun mem => own (List.mem_singleton.mp mem))
        obtain ⟨_, _, _, same⟩ := first.same
        have seen : (w.updatePlayer objects (answer q) q).1.seen objects (answer p)
            (w.calls + (q :: players).idxOf p) p =
              w.seen objects (answer p) (w.calls + (q :: players).idxOf p) p := by
          unfold GameWorld.seen
          rw [sight, same]
          rfl
        rw [place] at served
        refine ⟨?_, ?_, fun content => ?_⟩
        · exact served.sight.trans (by rw [seen])
        · rw [List.mem_append, or_iff_right (apart rfl)]
          exact served.viewUpdated
        · rw [List.mem_append, or_iff_right (apart rfl), served.stream, seen, same]

/-! ### Between iterations -/

/-- What holds between two iterations. -/
structure Sound (w : GameWorld Obj Pos) : Prop where
  aligned : Aligned w
  nodup : w.players.Nodup
  keyed : ∀ p, Keyed objects (w.sight p).currentView
  settled : ∀ o, w.body o = true → objects.isStatic o = false → w.positionOld o = w.position o

variable {objects}

theorem keyed_see {w : GameWorld Obj Pos}
    (keyed : ∀ q, Keyed objects (w.sight q).currentView) {p : Obj} {sight : Sight Obj}
    (own : Keyed objects sight.currentView) (q : Obj) :
    Keyed objects ((w.see p sight).sight q).currentView := by
  by_cases same : q = p
  · subst same
    rw [see_sight]
    exact own
  · rw [see_sight_of_ne same]
    exact keyed q

theorem keyed_seen {w : GameWorld Obj Pos}
    (keyed : ∀ q, Keyed objects (w.sight q).currentView) (answer : Answer Obj) (before : Nat)
    (p : Obj) : Keyed objects (w.seen objects answer before p).currentView := by
  unfold seen
  split
  · exact updateView_keyed _ (keyed p)
  · exact keyed p

theorem updatePlayers_keyed (answer : Obj → Answer Obj) (players : List Obj)
    {w : GameWorld Obj Pos} (aligned : Aligned w)
    (keyed : ∀ q, Keyed objects (w.sight q).currentView) (q : Obj) :
    Keyed objects ((w.updatePlayers objects answer players).1.sight q).currentView := by
  induction players generalizing w with
  | nil => exact keyed q
  | cons p players ih =>
      refine ih (updatePlayer_keeps objects aligned (answer p) p).aligned fun r => ?_
      rw [updatePlayer_eq aligned]
      have own : Keyed objects
          (sendUpdatePacket p (w.seen objects (answer p) w.calls p)).1.currentView :=
        keyed_seen keyed (answer p) w.calls p
      exact keyed_see (w := w.flip) keyed own r

theorem Sound.see {w : GameWorld Obj Pos} (sound : Sound objects w) {p : Obj}
    {sight : Sight Obj} (own : Keyed objects sight.currentView) :
    Sound objects (w.see p sight) :=
  ⟨sound.aligned, sound.nodup, keyed_see sound.keyed own, sound.settled⟩

theorem Sound.look {w : GameWorld Obj Pos} (sound : Sound objects w) (answer : Answer Obj)
    (p : Obj) : Sound objects (w.look objects answer p) := by
  unfold GameWorld.look
  split
  · exact sound.see (updateView_keyed _ (sound.keyed p))
  · exact sound

theorem Sound.place {w : GameWorld Obj Pos} (sound : Sound objects w) (o : Obj) (pos : Pos) :
    Sound objects (w.place o pos) := by
  refine ⟨sound.aligned, sound.nodup, sound.keyed, fun q body moves => ?_⟩
  unfold GameWorld.place at body ⊢
  by_cases own : q = o
  · subst own
    dsimp only
    rw [Function.update_self, Function.update_self]
  · dsimp only at body ⊢
    rw [Function.update_of_ne own] at body ⊢
    rw [Function.update_of_ne own]
    exact sound.settled q body moves

/-- A body fewer. -/
theorem Sound.without {w : GameWorld Obj Pos} (sound : Sound objects w) (o : Obj) :
    Sound objects { w with body := Function.update w.body o false } := by
  refine ⟨sound.aligned, sound.nodup, sound.keyed, fun q body moves => ?_⟩
  by_cases own : q = o
  · subst own
    dsimp only at body
    rw [Function.update_self] at body
    cases body
  · dsimp only at body
    rw [Function.update_of_ne own] at body
    exact sound.settled q body moves

/-- Whatever the socket phase does, the views and queues of the players stay sound. -/
theorem Sound.act {w : GameWorld Obj Pos} (sound : Sound objects w)
    (action : SocketAction Obj Pos) : Sound objects (w.act objects action).1 := by
  cases action with
  | create o =>
      have bare : Sound objects
          (({ w with body := Function.update w.body o false } : GameWorld Obj Pos).see o {}) :=
        (sound.without o).see .nil
      exact ⟨bare.aligned, bare.nodup, bare.keyed, bare.settled⟩
  | setPosition o pos => exact sound.place o pos
  | setPlayerPosition p pos answer => exact (sound.place p pos).look answer p
  | destroyBody o => exact sound.without o
  | addPlayer p place =>
      unfold GameWorld.act
      dsimp only
      split
      · exact sound
      · next new =>
          refine ⟨sound.aligned, ?_, sound.keyed, sound.settled⟩
          have perm := List.perm_insertIdx p w.players (Nat.min_le_right place w.players.length)
          exact perm.nodup_iff.mpr (List.nodup_cons.mpr ⟨new, sound.nodup⟩)
  | removePlayer p => exact ⟨sound.aligned, sound.nodup.erase p, sound.keyed, sound.settled⟩
  | useMap p => exact ⟨sound.aligned, sound.nodup, sound.keyed, sound.settled⟩
  | clientReady p pos answer =>
      unfold GameWorld.act
      dsimp only
      split
      · refine ((Sound.see
          (w := { w with playerLoading := Function.update w.playerLoading p false })
          ⟨sound.aligned, sound.nodup, sound.keyed, sound.settled⟩ ?_).place p pos).look answer p
        exact sound.keyed p
      · exact sound

theorem Sound.updateSocket {w : GameWorld Obj Pos} (sound : Sound objects w)
    (actions : List (SocketAction Obj Pos)) :
    Sound objects (w.updateSocket objects actions).1 := by
  induction actions generalizing w with
  | nil => exact sound
  | cons action actions ih => exact ih (sound.act action)

theorem Sound.iterate [DecidableEq Pos] {w : GameWorld Obj Pos} (sound : Sound objects w)
    (i : Iteration Obj Pos) : Sound objects (w.iterate objects i).1 := by
  refine Sound.updateSocket ?_ i.socket
  have aligned : Aligned (w.stepPhysics i.physics) := sound.aligned
  have served := updatePlayers_keeps objects i.answer w.players aligned
  refine ⟨served.aligned, ?_, updatePlayers_keyed i.answer w.players aligned sound.keyed, ?_⟩
  · obtain ⟨_, _, _, same⟩ := served.same
    have players : (updatePlayers objects i.answer w.players (w.stepPhysics i.physics)).1.players =
        w.players := by
      rw [same]
      rfl
    exact (congrArg List.Nodup players).mpr sound.nodup
  · intro o body moves
    unfold updateObjects at body ⊢
    dsimp only at body ⊢
    rw [if_pos (by rw [body, moves]; rfl)]

omit [DecidableEq Obj] in
theorem Sound.start (body : Obj → Bool) (position : Obj → Pos) :
    Sound objects (GameWorld.start body position) :=
  ⟨rfl, .nil, fun _ => .nil, fun _ _ _ => rfl⟩

theorem Sound.after [DecidableEq Pos] {w : GameWorld Obj Pos} (sound : Sound objects w)
    (iterations : List (Iteration Obj Pos)) : Sound objects (w.after objects iterations) := by
  induction iterations generalizing w with
  | nil => exact sound
  | cons i iterations ih => exact ih (sound.iterate i)

/-! ### A viewer -/

/-- The action gives the player a new view. -/
def Renews (p : Obj) : SocketAction Obj Pos → Prop
  | .create q => q = p
  | .setPlayerPosition q _ _ => q = p
  | .clientReady q _ _ => q = p
  | _ => False

theorem look_sight_of_ne {p q : Obj} (other : q ≠ p) (answer : Answer Obj)
    (w : GameWorld Obj Pos) : (w.look objects answer p).sight q = w.sight q := by
  unfold look
  split
  · exact see_sight_of_ne other _ w
  · rfl

theorem look_updated (answer : Answer Obj) (p : Obj) (w : GameWorld Obj Pos) :
    (w.look objects answer p).updated = w.updated := by
  unfold look
  split
  · rfl
  · rfl

/-- What an action leaves of a player's sight that it does not renew. -/
theorem act_calm {w : GameWorld Obj Pos} {action : SocketAction Obj Pos} {p : Obj}
    (calm : ¬ Renews p action) :
    (w.act objects action).1.sight p = w.sight p ∧
      ∀ e ∈ (w.act objects action).2, e.player ≠ p := by
  cases action with
  | create q => exact ⟨see_sight_of_ne (Ne.symm calm) _ w, nofun⟩
  | setPosition o pos => exact ⟨rfl, nofun⟩
  | setPlayerPosition q pos answer =>
      refine ⟨look_sight_of_ne (Ne.symm calm) answer (w.place q pos), fun e mem => ?_⟩
      cases List.mem_singleton.mp mem
      exact calm
  | destroyBody o => exact ⟨rfl, nofun⟩
  | addPlayer q place =>
      refine ⟨?_, nofun⟩
      unfold act
      dsimp only
      split
      · rfl
      · rfl
  | removePlayer q => exact ⟨rfl, nofun⟩
  | useMap q => exact ⟨rfl, nofun⟩
  | clientReady q pos answer =>
      have other : p ≠ q := Ne.symm calm
      unfold act
      dsimp only
      split
      · refine ⟨(look_sight_of_ne other answer _).trans (see_sight_of_ne other _ _), ?_⟩
        intro e mem
        rcases List.mem_append.mp mem with mem | mem
        · unfold sendUpdate at mem
          dsimp only at mem
          split at mem
          · cases mem
          · cases List.mem_singleton.mp mem
            exact calm
        · cases List.mem_singleton.mp mem
          exact calm
      · exact ⟨rfl, nofun⟩

theorem updateSocket_calm {w : GameWorld Obj Pos} {actions : List (SocketAction Obj Pos)}
    {p : Obj} (calm : ∀ action ∈ actions, ¬ Renews p action) :
    (w.updateSocket objects actions).1.sight p = w.sight p ∧
      ∀ e ∈ (w.updateSocket objects actions).2, e.player ≠ p := by
  induction actions generalizing w with
  | nil => exact ⟨rfl, nofun⟩
  | cons action actions ih =>
      obtain ⟨first, events⟩ := @act_calm Obj Pos _ objects w action p
        (calm action List.mem_cons_self)
      obtain ⟨rest, events'⟩ := ih (w := (w.act objects action).1)
        fun a mem => calm a (List.mem_cons_of_mem action mem)
      refine ⟨rest.trans first, fun e mem => ?_⟩
      rcases List.mem_append.mp mem with mem | mem
      · exact events e mem
      · exact events' e mem

/-- An object that is there stays as dirty as it is. -/
theorem act_updated (w : GameWorld Obj Pos) {action : SocketAction Obj Pos} {o : Obj}
    (there : action ≠ .create o) : (w.act objects action).1.updated o = w.updated o := by
  cases action with
  | create q =>
      have other : o ≠ q := by
        rintro rfl
        exact there rfl
      exact Function.update_of_ne other true w.updated
  | setPosition q pos => rfl
  | setPlayerPosition q pos answer => exact congrFun (look_updated answer q (w.place q pos)) o
  | destroyBody q => rfl
  | addPlayer q place =>
      unfold act
      dsimp only
      split
      · rfl
      · rfl
  | removePlayer q => rfl
  | useMap q => rfl
  | clientReady q pos answer =>
      unfold act
      dsimp only
      split
      · exact congrFun (look_updated answer q _) o
      · rfl

theorem updateSocket_updated (w : GameWorld Obj Pos) {actions : List (SocketAction Obj Pos)}
    {o : Obj} (there : ∀ action ∈ actions, action ≠ .create o) :
    (w.updateSocket objects actions).1.updated o = w.updated o := by
  induction actions generalizing w with
  | nil => rfl
  | cons action actions ih =>
      refine (ih (w.act objects action).1 fun a mem =>
        there a (List.mem_cons_of_mem action mem)).trans ?_
      exact act_updated w (there action List.mem_cons_self)

theorem look_calls (answer : Answer Obj) (p : Obj) (w : GameWorld Obj Pos) :
    (w.look objects answer p).calls = w.calls := by
  unfold look
  split
  · rfl
  · rfl

/-- The socket phase makes no call of `update_player`. -/
theorem act_calls (w : GameWorld Obj Pos) (action : SocketAction Obj Pos) :
    (w.act objects action).1.calls = w.calls := by
  cases action with
  | create o => rfl
  | setPosition o pos => rfl
  | setPlayerPosition p pos answer => exact look_calls answer p (w.place p pos)
  | destroyBody o => rfl
  | addPlayer p place =>
      unfold act
      dsimp only
      split
      · rfl
      · rfl
  | removePlayer p => rfl
  | useMap p => rfl
  | clientReady p pos answer =>
      unfold act
      dsimp only
      split
      · exact look_calls answer p _
      · rfl

theorem updateSocket_calls (w : GameWorld Obj Pos) (actions : List (SocketAction Obj Pos)) :
    (w.updateSocket objects actions).1.calls = w.calls := by
  induction actions generalizing w with
  | nil => rfl
  | cons action actions ih => exact (ih (w.act objects action).1).trans (act_calls w action)

section Windows

variable [DecidableEq Pos]

/-- The player is in the game and plays through the iteration: it does not load, nor is it put
somewhere by the socket. -/
structure Plays (w : GameWorld Obj Pos) (i : Iteration Obj Pos) (p : Obj) : Prop where
  player : p ∈ w.players
  ready : w.playerLoading p = false
  stays : ∀ action ∈ i.socket, ¬ Renews p action

/-- The physics moves the object in the iteration. -/
def Moves (w : GameWorld Obj Pos) (i : Iteration Obj Pos) (o : Obj) : Prop :=
  w.body o = true ∧ i.physics o ≠ w.position o

/-- An update stream with the object has been sent to the player. -/
def Streamed (p o : Obj) (events : List (Event Obj)) : Prop :=
  ∃ content, .stream p content ∈ events ∧ o ∈ content

/-- What the iteration does for a player that plays through it. -/
theorem iterate_served {w : GameWorld Obj Pos} {i : Iteration Obj Pos} {p : Obj}
    (sound : Sound objects w) (plays : Plays w i p) :
    w.Served objects (i.answer p) (w.callsBefore p) p (w.iterate objects i) := by
  have aligned : Aligned (w.stepPhysics i.physics) := sound.aligned
  have served := updatePlayers_served objects i.answer aligned sound.nodup plays.player
  have calm := @updateSocket_calm Obj Pos _ objects
    (((w.stepPhysics i.physics).updatePlayers objects i.answer w.players).1.updateObjects objects)
    i.socket p plays.stays
  have apart {e : Event Obj} (own : e.player = p) :
      e ∉ ((((w.stepPhysics i.physics).updatePlayers objects i.answer
        w.players).1.updateObjects objects).updateSocket objects i.socket).2 :=
    fun mem => calm.2 e mem own
  refine ⟨calm.1.trans served.sight, ?_, fun content => ?_⟩
  · unfold iterate
    rw [List.mem_append, or_iff_left (apart rfl)]
    exact served.viewUpdated
  · unfold iterate
    rw [List.mem_append, or_iff_left (apart rfl)]
    exact served.stream content

/-- Objects are dirty after an iteration if the physics has moved them. -/
theorem iterate_updated {w : GameWorld Obj Pos} {i : Iteration Obj Pos} {o : Obj}
    (sound : Sound objects w) (moving : objects.isStatic o = false)
    (there : ∀ action ∈ i.socket, action ≠ .create o) :
    (w.iterate objects i).1.updated o = true ↔ Moves w i o := by
  have aligned : Aligned (w.stepPhysics i.physics) := sound.aligned
  obtain ⟨_, _, _, same⟩ := (updatePlayers_keeps objects i.answer w.players aligned).same
  have after : (w.iterate objects i).1.updated o = ((w.body o && !objects.isStatic o) &&
      (if w.body o then i.physics o else w.position o) != w.positionOld o) := by
    refine (updateSocket_updated _ there).trans ?_
    unfold updateObjects
    dsimp only
    rw [same]
    rfl
  rw [after, moving]
  unfold Moves
  cases body : w.body o with
  | false => simp
  | true =>
      rw [if_pos rfl, sound.settled o body moving]
      simp

theorem queue_empty {w : GameWorld Obj Pos} {i : Iteration Obj Pos} {p : Obj}
    (sound : Sound objects w) (plays : Plays w i p) :
    ((w.iterate objects i).1.sight p).updateQueue = [] := by
  rw [(iterate_served sound plays).sight]
  rfl

/-- An object that stays in the view is sent in an iteration if the view is refreshed while the
object is dirty, or if it is the player. -/
theorem streamed_iff {w : GameWorld Obj Pos} {i : Iteration Obj Pos} {p o : Obj}
    (sound : Sound objects w) (plays : Plays w i p) (body : w.body p = true)
    (empty : (w.sight p).updateQueue = [])
    (before : Sees objects (w.sight p).currentView o)
    (after : Sees objects ((w.iterate objects i).1.sight p).currentView o) :
    Streamed p o (w.iterate objects i).2 ↔
      o = p ∨ (w.callsBefore p % 2 = 0 ∧ w.updated o = true) := by
  have served := iterate_served sound plays
  have sent : Streamed p o (w.iterate objects i).2 ↔
      o = p ∨ o ∈ (w.seen objects (i.answer p) (w.callsBefore p) p).updateQueue := by
    constructor
    · rintro ⟨content, mem, inside⟩
      obtain ⟨_, rfl⟩ := (served.stream content).mp mem
      exact (List.mem_cons.mp inside).imp_right List.mem_of_mem_erase
    · intro queued
      refine ⟨_, (served.stream _).mpr ⟨plays.ready, rfl⟩, List.mem_cons.mpr ?_⟩
      by_cases own : o = p
      · exact .inl own
      · exact .inr ((List.mem_erase_of_ne own).mpr (queued.resolve_left own))
  rw [sent]
  refine or_congr_right ?_
  rw [served.sight] at after
  unfold seen at after ⊢
  by_cases even : w.callsBefore p % 2 = 0
  · rw [if_pos ⟨even, body⟩] at after
    rw [if_pos ⟨even, body⟩, mem_updateQueue (sound.keyed p) (i.answer p).once, empty,
      or_iff_right List.not_mem_nil, and_iff_right even]
    have scanned := scanShapes_scanned (w.scene p (i.answer p)) (sound.keyed p)
    obtain ⟨queried, shown⟩ := (scanned.visible o).mp after
    rw [and_iff_right queried, and_iff_right shown, or_iff_right (not_not_intro before)]
    rfl
  · rw [if_neg fun both => even both.1, empty]
    exact ⟨fun mem => absurd mem List.not_mem_nil, fun both => absurd both.1 even⟩

/-- Three iterations through which a player plays, with a body, and from the end of the first on
has the object in its view. -/
structure Watches (objects : Objects Obj) (w : GameWorld Obj Pos)
    (first second third : Iteration Obj Pos) (p o : Obj) : Prop where
  plays : Plays w first p
  plays' : Plays (w.after objects [first]) second p
  plays'' : Plays (w.after objects [first, second]) third p
  body : (w.after objects [first]).body p = true
  body' : (w.after objects [first, second]).body p = true
  moving : objects.isStatic o = false
  there : ∀ action ∈ first.socket, action ≠ .create o
  there' : ∀ action ∈ second.socket, action ≠ .create o
  seen : Sees objects ((w.after objects [first]).sight p).currentView o
  seen' : Sees objects ((w.after objects [first, second]).sight p).currentView o
  seen'' : Sees objects ((w.after objects [first, second, third]).sight p).currentView o

/-- In every run: of two iterations a player's view is updated in one exactly when one of its
two calls comes after an even number of calls; and an object that stays in its view is in the
stream of one of two iterations exactly when a call of them comes after an even number of calls
and the physics moved the object in the iteration before. -/
theorem movement_seen_iff (objects : Objects Obj) (body : Obj → Bool) (position : Obj → Pos)
    (past : List (Iteration Obj Pos)) (first second third : Iteration Obj Pos) (p o : Obj) :
    let w := (start body position).after objects past
    let w' := w.after objects [first]
    let w'' := w.after objects [first, second]
    (Plays w first p → Plays w' second p →
      (.viewUpdated p ∈ (w.iterate objects first).2 ∨
          .viewUpdated p ∈ (w'.iterate objects second).2 ↔
        w.callsBefore p % 2 = 0 ∨ w'.callsBefore p % 2 = 0)) ∧
    (Watches objects w first second third p o →
      (Streamed p o (w'.iterate objects second).2 ∨ Streamed p o (w''.iterate objects third).2 ↔
        o = p ∨ (w'.callsBefore p % 2 = 0 ∧ Moves w first o) ∨
          (w''.callsBefore p % 2 = 0 ∧ Moves w' second o))) := by
  intro w w' w''
  have sound : Sound objects w := (Sound.start body position).after past
  have sound' : Sound objects w' := sound.after [first]
  have sound'' : Sound objects w'' := sound.after [first, second]
  constructor
  · intro plays plays'
    rw [(iterate_served sound plays).viewUpdated, (iterate_served sound' plays').viewUpdated]
  · intro watches
    have dirty : w'.updated o = true ↔ Moves w first o :=
      iterate_updated sound watches.moving watches.there
    have dirty' : w''.updated o = true ↔ Moves w' second o :=
      iterate_updated sound' watches.moving watches.there'
    have sent := streamed_iff sound' watches.plays' watches.body
      (queue_empty sound watches.plays) watches.seen watches.seen'
    have sent' := streamed_iff sound'' watches.plays'' watches.body'
      (queue_empty sound' watches.plays') watches.seen' watches.seen''
    rw [sent, sent', dirty, dirty', or_or_or_comm, or_self]

/-! ### The same players -/

/-- While no player comes or goes, a player's next call comes as many calls later as there are
players. -/
theorem callsBefore_next {w : GameWorld Obj Pos} {i : Iteration Obj Pos}
    (sound : Sound objects w) (same : (w.iterate objects i).1.players = w.players) (p : Obj) :
    (w.iterate objects i).1.callsBefore p = w.callsBefore p + w.players.length := by
  have aligned : Aligned (w.stepPhysics i.physics) := sound.aligned
  have calls : (w.iterate objects i).1.calls = w.calls + w.players.length :=
    (updateSocket_calls _ i.socket).trans
      (updatePlayers_keeps objects i.answer w.players aligned).calls
  unfold callsBefore
  rw [same, calls]
  omega

/-- Two iterations with the same players update every player's view exactly when the number of
players is odd, or there is none. -/
theorem all_viewUpdated_iff {w : GameWorld Obj Pos} {first second : Iteration Obj Pos}
    (sound : Sound objects w) (same : (w.iterate objects first).1.players = w.players)
    (plays : ∀ p ∈ w.players, Plays w first p)
    (plays' : ∀ p ∈ w.players, Plays (w.iterate objects first).1 second p) :
    (∀ p ∈ w.players, .viewUpdated p ∈ (w.iterate objects first).2 ∨
        .viewUpdated p ∈ ((w.iterate objects first).1.iterate objects second).2) ↔
      w.players.length % 2 = 1 ∨ w.players = [] := by
  have each (p : Obj) (mem : p ∈ w.players) :
      (.viewUpdated p ∈ (w.iterate objects first).2 ∨
        .viewUpdated p ∈ ((w.iterate objects first).1.iterate objects second).2) ↔
      w.callsBefore p % 2 = 0 ∨ (w.callsBefore p + w.players.length) % 2 = 0 := by
    rw [(iterate_served sound (plays p mem)).viewUpdated,
      (iterate_served (sound.iterate first) (plays' p mem)).viewUpdated,
      callsBefore_next sound same p]
  constructor
  · intro all
    cases players : w.players with
    | nil => exact .inr rfl
    | cons p others =>
        left
        cases others with
        | nil => rfl
        | cons q others =>
            have memp : p ∈ w.players := by simp [players]
            have memq : q ∈ w.players := by simp [players]
            have atp := (each p memp).mp (all p memp)
            have atq := (each q memq).mp (all q memq)
            have nodup := sound.nodup
            rw [players] at nodup
            have apart : p ≠ q := by
              rintro rfl
              exact (List.nodup_cons.mp nodup).1 List.mem_cons_self
            have placep : w.players.idxOf p = 0 := by rw [players, List.idxOf_cons_self]
            have placeq : w.players.idxOf q = 1 := by
              rw [players, List.idxOf_cons_ne _ apart, List.idxOf_cons_self]
            have size : w.players.length = others.length + 1 + 1 := by
              rw [players, List.length_cons, List.length_cons]
            rw [List.length_cons, List.length_cons, ← size]
            unfold callsBefore at atp atq
            rw [placep] at atp
            rw [placeq] at atq
            omega
  · rintro (odd | none) p mem
    · rw [each p mem]
      omega
    · rw [none] at mem
      cases mem

end Windows

/-! ### Two players and an object -/

/-- The objects 0, 1 and 2, all of which move. -/
def threeObjects : Objects (Fin 3) where
  extent o := UInt16.ofNat (o.val + 1)
  distinct := by decide
  isStatic _ := false
  obstacle _ := false

def seeTwo : Answer (Fin 3) where
  shapes := [some 2]
  once := by decide
  testSegment _ _ := false

/-- An iteration that has the object 2 at a place. -/
def atPlace (pos : Nat) (socket : List (SocketAction (Fin 3) Nat)) : Iteration (Fin 3) Nat where
  physics o := if o = 2 then pos else 0
  answer _ := seeTwo
  socket := socket

/-- A player joins and is ready. -/
def enter (p : Fin 3) : List (SocketAction (Fin 3) Nat) :=
  [.addPlayer p p.val, .useMap p, .clientReady p 0 seeTwo]

def worldOfTwo : GameWorld (Fin 3) Nat := start (fun o => o = 2) fun _ => 0

/-- A lone player sees the object that moves in both iterations. -/
theorem movement_seen_twice :
    Streamed 0 2 ((worldOfTwo.after threeObjects [atPlace 0 (enter 0), atPlace 1 []]).iterate
        threeObjects (atPlace 2 [])).2 ∨
      Streamed 0 2 ((worldOfTwo.after threeObjects
        [atPlace 0 (enter 0), atPlace 1 [], atPlace 2 []]).iterate threeObjects
          (atPlace 2 [])).2 := by
  have watches : Watches threeObjects (worldOfTwo.after threeObjects [atPlace 0 (enter 0)])
      (atPlace 1 []) (atPlace 2 []) (atPlace 2 []) 0 2 :=
    { plays := ⟨by decide, by decide, nofun⟩
      plays' := ⟨by decide, by decide, nofun⟩
      plays'' := ⟨by decide, by decide, nofun⟩
      body := by decide
      body' := by decide
      moving := by decide
      there := nofun
      there' := nofun
      seen := by unfold Sees; decide
      seen' := by unfold Sees; decide
      seen'' := by unfold Sees; decide }
  exact ((movement_seen_iff threeObjects (fun o => o = 2) (fun _ => 0) [atPlace 0 (enter 0)]
    (atPlace 1 []) (atPlace 2 []) (atPlace 2 []) 0 2).2 watches).mpr
      (.inr (.inr ⟨by decide, by decide, by decide⟩))

/-- Of two players the second one's view is never updated; and a lone player does not hear of an
object that the physics moves once, in an iteration in which its view is updated. -/
theorem movement_not_seen :
    (¬ ∀ (past : List (Iteration (Fin 3) Nat)) (first second : Iteration (Fin 3) Nat) (p : Fin 3),
      Plays (worldOfTwo.after threeObjects past) first p →
      Plays (worldOfTwo.after threeObjects (past ++ [first])) second p →
      .viewUpdated p ∈ ((worldOfTwo.after threeObjects past).iterate threeObjects first).2 ∨
        .viewUpdated p ∈
          ((worldOfTwo.after threeObjects (past ++ [first])).iterate threeObjects second).2) ∧
    ¬ ∀ (past : List (Iteration (Fin 3) Nat)) (first second third : Iteration (Fin 3) Nat)
        (p o : Fin 3),
      Watches threeObjects (worldOfTwo.after threeObjects past) first second third p o →
      Moves (worldOfTwo.after threeObjects past) first o →
      Streamed p o
          ((worldOfTwo.after threeObjects (past ++ [first])).iterate threeObjects second).2 ∨
        Streamed p o ((worldOfTwo.after threeObjects (past ++ [first, second])).iterate
          threeObjects third).2 := by
  constructor
  · intro all
    have updated := all [atPlace 0 (enter 0 ++ enter 1)] (atPlace 0 []) (atPlace 0 []) 1
      ⟨by decide, by decide, nofun⟩ ⟨by decide, by decide, nofun⟩
    exact absurd updated (by decide)
  · intro all
    have watches : Watches threeObjects (worldOfTwo.after threeObjects [atPlace 0 (enter 0)])
        (atPlace 1 []) (atPlace 1 []) (atPlace 1 []) 0 2 :=
      { plays := ⟨by decide, by decide, nofun⟩
        plays' := ⟨by decide, by decide, nofun⟩
        plays'' := ⟨by decide, by decide, nofun⟩
        body := by decide
        body' := by decide
        moving := by decide
        there := nofun
        there' := nofun
        seen := by unfold Sees; decide
        seen' := by unfold Sees; decide
        seen'' := by unfold Sees; decide }
    have sent := all [atPlace 0 (enter 0)] (atPlace 1 []) (atPlace 1 []) (atPlace 1 []) 0 2 watches
      ⟨by decide, by decide⟩
    have second : ((worldOfTwo.after threeObjects [atPlace 0 (enter 0), atPlace 1 []]).iterate
        threeObjects (atPlace 1 [])).2 = [.stream 0 [0]] := by decide
    have third : ((worldOfTwo.after threeObjects
        [atPlace 0 (enter 0), atPlace 1 [], atPlace 1 []]).iterate
        threeObjects (atPlace 1 [])).2 = [.viewUpdated 0, .stream 0 [0]] := by decide
    rcases sent with ⟨content, mem, inside⟩ | ⟨content, mem, inside⟩
    · rw [List.cons_append, List.nil_append, second] at mem
      cases List.mem_singleton.mp mem
      exact absurd inside (by decide)
    · rw [List.cons_append, List.nil_append, third] at mem
      cases (List.mem_cons.mp mem).resolve_left nofun with
      | head => exact absurd inside (by decide)
      | tail _ mem => cases mem

end GameWorld

end Awesie

end NoxServer
