import NoxServer.Accessor.Extents
import NoxServer.Library.Roster
import NoxServer.Session.Login

/-!
How players are introduced to each other.

When a player logs in, `_SendNewPlayerOpcode` sends a MSG_NEW_PLAYER for it to all players there
are, and `SendPacket` drops the message for those that are loading. A player that stops loading is
sent one for each player there is (`SendPlayerInfo`). This is a `Roster` of the sessions, so of two
players that are ready each is told of the other once (`introduced_once`), provided that each finds
a free extent: the players are kept by extent, `RequestExtent` gives the invalid extent when none
is free, and a player that has it replaces another that has it too (`introduced_not`).
-/

namespace NoxServer.Accessor

open Objects Runs Session

/-- `SendPacket(packet, ifReady)` does not drop the packet. -/
def takes (s : WorldSession) (ifReady : Bool) : Bool := s.socket && (!ifReady || !s.playerLoading)

/-- It is the test of `SendPacket`. -/
theorem sendPacket_eq (s : WorldSession) (packet : WorldPacket) (ifReady changeUnk : Bool) :
    s.sendPacket packet ifReady changeUnk =
      if takes s ifReady then s.combine (if changeUnk then { packet with unk := s.unk } else packet)
      else .ok (s, []) := rfl

/-! ### Sessions and their players -/

/-- The sessions and the accessor their players are in. -/
structure Sessions where
  accessor : ObjectAccessor := {}
  life : Nat → Life
  /-- `_player` of a session that has one. -/
  player : Nat → Nat := fun _ => 0
  /-- `GetSession()` of a player. -/
  getSession : Nat → Nat := fun _ => 0
  /-- The MSG_NEW_PLAYER messages that were not dropped: the session each was handed to, and the
  session of the player it is for. -/
  handed : List (Nat × Nat) := []

namespace Sessions

/-- Sessions as they are created, for any accounts. -/
def start (accountId : Nat → UInt32) : Sessions := { life := fun i => .start (accountId i) }

variable (updates : Bool) (w : Sessions) (i : Nat)

def session : WorldSession := (w.life i).session

/-- The sessions of the players that have been inserted. -/
def members : List Nat := w.accessor.players.map fun entry => w.getSession entry.2

/-- `_SendNewPlayerOpcode()`: `SendPacketToAll` of a MSG_NEW_PLAYER for the session's player. -/
def _sendNewPlayerOpcode : Sessions :=
  let receivers := w.members.filter fun k => takes (w.session k) true
  { w with handed := w.handed ++ receivers.map fun k => (k, i) }

/-- The MSG_NEW_PLAYER messages of `SendPlayerInfo(session)`. -/
def sendPlayerInfo : Sessions :=
  let others := w.accessor.players.filter fun entry => entry.2 ≠ w.player i
  { w with
    handed := w.handed ++
      if takes (w.session i) true then others.map fun entry => (i, w.getSession entry.2) else [] }

/-- `_player = new Player(this)`. -/
def newPlayer : Sessions :=
  { w with
    accessor := w.accessor.newPlayer updates
    player := Function.update w.player i w.accessor.next
    getSession := Function.update w.getSession w.accessor.next i }

def insertPlayer : Sessions := { w with accessor := w.accessor.insertPlayer (w.player i) }

/-- The session with its loading flag as it is at a call of `SendPacket`. -/
def setLoading (loading : Bool) : Sessions :=
  { w with
    life := Function.update w.life i
      { w.life i with session := { w.session i with playerLoading := loading } } }

/-- What an output of a session does to players and to other sessions. What it does to objects is
an action of theirs. -/
def perform (w : Sessions) : Output → Sessions
  | .send call => w.setLoading i call.loading
  | .request (.insertPlayer _ _ _) => w.insertPlayer i
  | .request .broadcastNewPlayer => w._sendNewPlayerOpcode i
  | .request .sendPlayerInfo => w.sendPlayerInfo i
  | _ => w

/-- What a turn of a session's loop puts out; the other packets of an update go to its own
client. -/
def outputs (l : Life) : Event → List Output
  | .turn game now =>
      match l.dispatched with
      | some (s, packet) => (s.turn game now packet).2.1
      | none => []
  | _ => []

/-- The player is created when the session first has one, and deleted with the session. -/
def changePlayer (l' : Life) : Sessions :=
  if (w.session i).player = false ∧ l'.session.player = true then w.newPlayer updates i
  else if (w.session i).player = true ∧ l'.phase = .ended then
    { w with accessor := w.accessor.logoutPlayer (w.player i) }
  else w

/-- A session goes on to another state. -/
def goOn (l' : Life) : Sessions := { w with life := Function.update w.life i l' }

/-- A session goes on to `l'` with an event. -/
def advance (e : Event) (l' : Life) : Sessions :=
  ((outputs (w.life i) e).foldl (perform i) (w.changePlayer updates i l')).goOn i l'

/-- A step of a session, or an action of the objects. -/
inductive Occurrence where
  | session (i : Nat) (e : Event)
  | objects (a : Action)

def Step : Occurrence → Sessions → Prop
  | .session i e, w' => ∃ l', Session.Step (w.life i) e l' ∧ w' = w.advance updates i e l'
  | .objects a, w' => ObjectAccessor.OfObjects a ∧
      ∃ accessor, ObjectAccessor.Step w.accessor a accessor ∧ w' = { w with accessor := accessor }

/-- Each session logs in once, keeps its socket and does not end. -/
def Stays : Occurrence → Prop
  | .session i e => e ≠ .kickPlayer ∧ (∀ l' ∈ (w.life i).step e, l'.phase ≠ .ended) ∧
      ∀ p, (w.life i).message e = some p → p.opcode = 0x1F → (w.session i).status ≠ .loggedIn
  | .objects _ => True

def IsPlayer (o : Nat) : Prop := ∃ i, (w.session i).player = true ∧ w.player i = o

/-- A player that is created finds a free extent, and objects that are deleted are no players. -/
def FindsExtent : Occurrence → Prop
  | .session i e => ∀ p, (w.life i).message e = some p → p.opcode = 0x1F →
      ((w.session i).player = false → ∃ extent, w.accessor.mgr.Free extent) ∧
        ∀ o ∈ w.accessor.objectsToRemove, ¬w.IsPlayer o
  | .objects a => ObjectAccessor.SparesPlayers w.IsPlayer w.accessor a

/-- The player has logged in and is not loading. -/
def Ready : Prop := (w.session i).status = .loggedIn ∧ (w.session i).playerLoading = false

/-! ### The roster -/

/-- Where a session is on its way to being ready. -/
def stage (s : WorldSession) : Roster.Stage :=
  if s.status = .loggedIn then if s.playerLoading then .entered else .ready else .absent

def roster : Roster.State Nat := ⟨fun i => stage (w.session i), w.handed⟩

theorem stage_eq_ready {s : WorldSession} :
    stage s = .ready ↔ s.status = .loggedIn ∧ s.playerLoading = false := by
  unfold stage
  split
  · next loggedIn => cases loading : s.playerLoading <;> simp [loggedIn]
  · next out => simp [out]

theorem stage_ne_absent {s : WorldSession} : stage s ≠ .absent ↔ s.status = .loggedIn := by
  unfold stage
  split
  · next loggedIn => cases loading : s.playerLoading <;> simp [loggedIn]
  · next out => simp [out]

/-- What is true of the sessions as long as none ends and each player has found an extent. -/
structure Joined (w : Sessions) : Prop where
  placed : ObjectAccessor.Placed w.IsPlayer w.accessor
  socket : ∀ i, (w.session i).socket = true
  loading : ∀ i, (w.session i).playerLoading = true → (w.session i).status = .loggedIn
  inserted : ∀ i, (w.session i).status = .loggedIn → (w.session i).player = true
  owner : ∀ i, (w.session i).player = true → w.getSession (w.player i) = i
  nodup : w.members.Nodup
  members : ∀ i, i ∈ w.members ↔ (w.session i).status = .loggedIn

/-! ### Outputs -/

variable {w : Sessions} {i : Nat}

@[simp]
theorem setLoading_setLoading (w : Sessions) (i : Nat) (loading loading' : Bool) :
    (w.setLoading i loading).setLoading i loading' = w.setLoading i loading' := by
  simp [setLoading, session]

theorem setLoading_self {loading : Bool} (same : loading = (w.session i).playerLoading) :
    w.setLoading i loading = w := by
  subst same
  exact congrArg (fun life => { w with life := life }) (Function.update_eq_self i w.life)

/-- Plain outputs do nothing to other sessions. -/
theorem foldl_perform_plain {outs : List Output}
    (plain : ∀ o ∈ outs, WorldSession.PlainOutput (w.session i).playerLoading o) :
    outs.foldl (perform i) w = w := by
  induction outs with
  | nil => rfl
  | cons o outs ih =>
      obtain ⟨first, plain⟩ := List.forall_mem_cons.mp plain
      have nothing : perform i w o = w := by
        unfold perform
        split
        · exact setLoading_self first
        · exact first.elim
        · exact first.elim
        · exact first.elim
        · rfl
      rw [List.foldl_cons, nothing, ih plain]

/-- A login inserts the player and announces it, and the session is loading from then on. -/
theorem foldl_perform_join (w : Sessions) (i : Nat) (game : Game) (s : WorldSession)
    (info username unk1 : List UInt8) :
    (s.joinPlayer game info username unk1).2.foldl (perform i) w =
      (((w.insertPlayer i).setLoading i s.playerLoading)._sendNewPlayerOpcode i).setLoading i
        true := by
  have unfolded : (s.joinPlayer game info username unk1).2.foldl (perform i) w =
      ((((((((((w.insertPlayer i).setLoading i s.playerLoading).setLoading i
        s.playerLoading).setLoading i s.playerLoading).setLoading i s.playerLoading).setLoading i
        s.playerLoading)._sendNewPlayerOpcode i).setLoading i true).setLoading i true).setLoading i
        true) := rfl
  simp only [unfolded, setLoading_setLoading]

/-! ### Sessions whose login is the same -/

theorem session_goOn_self (w : Sessions) (i : Nat) (l' : Life) :
    (w.goOn i l').session i = l'.session := by
  simp only [session, goOn, Function.update_self]

theorem session_goOn_of_ne (w : Sessions) {i k : Nat} (l' : Life) (other : k ≠ i) :
    (w.goOn i l').session k = w.session k := by
  simp only [session, goOn, Function.update_of_ne other]

/-- What is true of the session that goes on and of the others. -/
theorem forall_goOn {l' : Life} (P : Nat → WorldSession → Prop) (self : P i l'.session)
    (others : ∀ k, k ≠ i → P k (w.session k)) (k : Nat) : P k ((w.goOn i l').session k) := by
  by_cases here : k = i
  · rw [here, session_goOn_self]
    exact self
  · rw [session_goOn_of_ne w l' here]
    exact others k here

/-- A step that leaves the player and whether it has logged in alone. -/
theorem Joined.goOn (joined : w.Joined) {l' : Life}
    (player : l'.session.player = (w.session i).player)
    (loggedIn : l'.session.status = .loggedIn ↔ (w.session i).status = .loggedIn)
    (socket : l'.session.socket = true)
    (loading : l'.session.playerLoading = true → l'.session.status = .loggedIn) :
    (w.goOn i l').Joined := by
  have players : (w.goOn i l').IsPlayer = w.IsPlayer := by
    funext o
    refine propext (exists_congr fun k => ?_)
    rw [forall_goOn (fun k s => s.player = (w.session k).player) player (fun _ _ => rfl) k]
    exact Iff.rfl
  exact {
    placed := players ▸ joined.placed
    socket := forall_goOn (fun _ s => s.socket = true) socket fun k _ => joined.socket k
    loading := forall_goOn (fun _ s => s.playerLoading = true → s.status = .loggedIn) loading
      fun k _ => joined.loading k
    inserted := forall_goOn (fun _ s => s.status = .loggedIn → s.player = true)
      (fun after => player.trans (joined.inserted i (loggedIn.mp after)))
      fun k _ => joined.inserted k
    owner := forall_goOn (fun k s => s.player = true → w.getSession (w.player k) = k)
      (fun has => joined.owner i (player.symm.trans has)) fun k _ => joined.owner k
    nodup := joined.nodup
    members := forall_goOn (fun k s => k ∈ w.members ↔ s.status = .loggedIn)
      ((joined.members i).trans loggedIn.symm) fun k _ => joined.members k }

/-- The stages after a session has gone on to another one. -/
theorem stages_goOn (w : Sessions) {l' : Life} {reached : Roster.Stage}
    (stage_eq : stage l'.session = reached) :
    (fun k => stage ((w.goOn i l').session k)) =
      Function.update w.roster.stage i reached := by
  refine funext (forall_goOn
    (fun k s => stage s = Function.update w.roster.stage i reached k) ?_ fun k other => ?_)
  · rw [Function.update_self]
    exact stage_eq
  · rw [Function.update_of_ne other]
    rfl

/-- A session that stays at its stage leaves the roster. -/
theorem roster_goOn {l' : Life} (same : stage l'.session = stage (w.session i)) :
    (w.goOn i l').roster = w.roster := by
  refine congrArg (Roster.State.mk · w.handed) ((stages_goOn w same).trans ?_)
  exact Function.update_eq_self i w.roster.stage

/-! ### Players come to be -/

theorem Joined.lt_next (joined : w.Joined) (player : (w.session i).player = true) :
    w.player i < w.accessor.next :=
  joined.placed.lt_next ⟨i, player, rfl⟩

/-- The session gets a player. -/
theorem Joined.newPlayer (joined : w.Joined) (updates : Bool)
    (none : (w.session i).player = false) {extent : UInt16} (free : w.accessor.mgr.Free extent)
    (l' : Life) (player : l'.session.player = true)
    (out : l'.session.status ≠ .loggedIn) (socket : l'.session.socket = true)
    (notLoading : l'.session.playerLoading = false) :
    ((w.newPlayer updates i).goOn i l').Joined ∧
      ((w.newPlayer updates i).goOn i l').roster = w.roster ∧
      ((w.newPlayer updates i).goOn i l').IsPlayer =
        fun o => w.IsPlayer o ∨ o = w.accessor.next := by
  have wasOut : (w.session i).status ≠ .loggedIn := by
    intro loggedIn
    cases none.symm.trans (joined.inserted i loggedIn)
  let w' := (w.newPlayer updates i).goOn i l'
  have self : w'.session i = l'.session := session_goOn_self _ i l'
  have others {k : Nat} (other : k ≠ i) : w'.session k = w.session k :=
    session_goOn_of_ne _ l' other
  have status : ∀ k, (w'.session k).status = .loggedIn ↔ (w.session k).status = .loggedIn :=
    forall_goOn (fun k s => s.status = .loggedIn ↔ (w.session k).status = .loggedIn)
      ⟨fun loggedIn => absurd loggedIn out, fun loggedIn => absurd loggedIn wasOut⟩
      fun _ _ => Iff.rfl
  have old {p : Nat} (player : w.IsPlayer p) : w'.getSession p = w.getSession p :=
    Function.update_of_ne (Nat.ne_of_lt (joined.placed.lt_next player)) _ _
  have newest : w'.player i = w.accessor.next := Function.update_self _ _ _
  have before {k : Nat} (other : k ≠ i) : w'.player k = w.player k :=
    Function.update_of_ne other _ _
  have players : w'.IsPlayer = fun o => w.IsPlayer o ∨ o = w.accessor.next := by
    funext o
    refine propext ⟨?_, ?_⟩
    · rintro ⟨k, has, rfl⟩
      by_cases here : k = i
      · rw [here]
        exact .inr newest
      · rw [others here] at has
        exact .inl ⟨k, has, (before here).symm⟩
    · rintro (⟨k, has, rfl⟩ | rfl)
      · have here : k ≠ i := by
          rintro rfl
          cases none.symm.trans has
        exact ⟨k, (congrArg WorldSession.player (others here)).trans has, before here⟩
      · exact ⟨i, (congrArg WorldSession.player self).trans player, newest⟩
  have members : w'.members = w.members :=
    List.map_congr_left fun entry mem => old (joined.placed.players entry mem).1
  refine ⟨?_, ?_, players⟩
  · exact {
      placed := players ▸ joined.placed.newPlayer updates free
      socket := forall_goOn (fun _ s => s.socket = true) socket fun k _ => joined.socket k
      loading := forall_goOn (fun _ s => s.playerLoading = true → s.status = .loggedIn)
        (fun loading => nomatch notLoading.symm.trans loading) fun k _ => joined.loading k
      inserted := forall_goOn (fun _ s => s.status = .loggedIn → s.player = true)
        (fun _ => player) fun k _ => joined.inserted k
      owner := by
        refine forall_goOn (fun k s => s.player = true → w'.getSession (w'.player k) = k) ?_ ?_
        · intro _
          rw [newest]
          exact Function.update_self _ _ _
        · intro k other has
          rw [before other, old ⟨k, has, rfl⟩]
          exact joined.owner k has
      nodup := members ▸ joined.nodup
      members := by
        intro k
        rw [members, status k]
        exact joined.members k }
  · refine congrArg (Roster.State.mk · w.handed) (funext ?_)
    refine forall_goOn (fun k s => stage s = stage (w.session k)) ?_ fun _ _ => rfl
    rw [stage, if_neg out, stage, if_neg wasOut]

/-! ### Players are told of each other -/

/-- The session's player is inserted, and those that receive the message are told of it. -/
def announce (w : Sessions) (i : Nat) (receives : Nat → Bool) : Sessions :=
  { w.insertPlayer i with
    handed := w.handed ++ ((w.insertPlayer i).members.filter receives).map fun k => (k, i) }

/-- The session's player is inserted, and those that are not loading are told of it. -/
theorem Joined.join (joined : w.Joined) (player : (w.session i).player = true)
    (out : (w.session i).status ≠ .loggedIn)
    (spared : ∀ o ∈ w.accessor.objectsToRemove, ¬w.IsPlayer o) (receives : Nat → Bool)
    (agree : ∀ k, k ≠ i → receives k = takes (w.session k) true) {l' : Life}
    (player' : l'.session.player = true) (loggedIn : l'.session.status = .loggedIn)
    (socket : l'.session.socket = true) (loading : l'.session.playerLoading = true) :
    ((w.announce i receives).goOn i l').Joined ∧
      Roster.Step w.roster ((w.announce i receives).goOn i l').roster := by
  have isNew : ∀ entry ∈ w.accessor.players, entry.2 ≠ w.player i := by
    intro entry mem same
    refine out ((joined.members i).mp (List.mem_map.mpr ⟨entry, mem, ?_⟩))
    rw [same, joined.owner i player]
  obtain ⟨placed, inserted⟩ := joined.placed.insertPlayer ⟨i, player, rfl⟩ isNew spared
  have players : ((w.announce i receives).goOn i l').IsPlayer = w.IsPlayer := by
    funext o
    refine propext (exists_congr fun k => ?_)
    have same := forall_goOn (w := w.announce i receives)
      (fun k s => s.player = (w.session k).player) (player'.trans player.symm) (fun _ _ => rfl) k
    rw [same]
    exact Iff.rfl
  have members : (w.insertPlayer i).members = w.members ++ [i] := by
    show (w.accessor.insertPlayer (w.player i)).players.map (fun entry => w.getSession entry.2) = _
    rw [inserted, List.map_append, List.map_singleton, joined.owner i player]
    rfl
  have new : i ∉ w.members := fun mem => out ((joined.members i).mp mem)
  have nodup : (w.insertPlayer i).members.Nodup := by
    rw [members]
    refine List.nodup_append.mpr ⟨joined.nodup, List.nodup_singleton i, ?_⟩
    rintro k mem _ here rfl
    exact new (List.mem_singleton.mp here ▸ mem)
  have stays {k : Nat} (other : k ≠ i) :
      k ∈ (w.insertPlayer i).members ↔ (w.session k).status = .loggedIn := by
    rw [members, List.mem_append, List.mem_singleton, or_iff_left other, joined.members k]
  constructor
  · exact {
      placed := players ▸ placed
      socket := forall_goOn (fun _ s => s.socket = true) socket fun k _ => joined.socket k
      loading := forall_goOn (fun _ s => s.playerLoading = true → s.status = .loggedIn)
        (fun _ => loggedIn) fun k _ => joined.loading k
      inserted := forall_goOn (fun _ s => s.status = .loggedIn → s.player = true)
        (fun _ => player') fun k _ => joined.inserted k
      owner := forall_goOn (fun k s => s.player = true → w.getSession (w.player k) = k)
        (fun _ => joined.owner i player) fun k _ => joined.owner k
      nodup := nodup
      members := by
        refine forall_goOn
          (fun k s => k ∈ (w.insertPlayer i).members ↔ s.status = .loggedIn) ?_ fun k => stays
        rw [members]
        exact ⟨fun _ => loggedIn, fun _ => List.mem_append_right _ (List.mem_singleton_self i)⟩ }
  · have absent : w.roster.stage i = .absent := if_neg out
    have told : Roster.Announces w.roster i
        (((w.insertPlayer i).members.filter receives).map fun k => (k, i)) := by
      refine Roster.announces_map (nodup.filter _) fun k other => ?_
      show _ ↔ stage (w.session k) = .ready
      rw [List.mem_filter, stays other, stage_eq_ready, agree k other]
      simp [takes, joined.socket k]
    have entered := Roster.Step.enter absent told
    rw [← stages_goOn w (show stage l'.session = .entered from ?_)] at entered
    · exact entered
    · rw [stage, if_pos loggedIn, if_pos loading]

/-- A session is told of the other players that have been inserted. -/
theorem map_others (joined : w.Joined) (player : (w.session i).player = true) :
    (w.accessor.players.filter fun entry => entry.2 ≠ w.player i).map
        (fun entry => (i, w.getSession entry.2)) =
      (w.members.filter fun k => k ≠ i).map fun k => (i, k) := by
  rw [members, List.filter_map, List.map_map]
  refine congrArg _ (List.filter_congr fun entry mem => ?_)
  obtain ⟨⟨k, has, same⟩, _⟩ := joined.placed.players entry mem
  have iff : entry.2 ≠ w.player i ↔ w.getSession entry.2 ≠ i := by
    rw [← same, joined.owner k has]
    refine not_congr ⟨fun here => ?_, fun here => here ▸ rfl⟩
    rw [← joined.owner k has, here, joined.owner i player]
  exact decide_eq_decide.mpr iff

/-- The session's player stops loading, and the session is told of the others. -/
theorem Joined.becomeReady (joined : w.Joined) (player : (w.session i).player = true)
    (wasLoading : (w.session i).playerLoading = true) {l' : Life}
    (player' : l'.session.player = true) (loggedIn : l'.session.status = .loggedIn)
    (socket : l'.session.socket = true) (loading : l'.session.playerLoading = false) :
    let w' := ((w.setLoading i false).sendPlayerInfo i).goOn i l'
    w'.Joined ∧ Roster.Step w.roster w'.roster := by
  intro w'
  have before := joined.loading i wasLoading
  have lives : w'.life = (w.goOn i l').life := Function.update_idem _ _ _
  have same : w' = { w.goOn i l' with handed := w'.handed } :=
    congrArg (fun life => ({ w with life := life, handed := w'.handed } : Sessions)) lives
  have went : (w.goOn i l').Joined :=
    joined.goOn (player'.trans player.symm) ⟨fun _ => before, fun _ => loggedIn⟩ socket
      fun still => nomatch loading.symm.trans still
  constructor
  · rw [same]
    exact { went with }
  · have entered : w.roster.stage i = .entered := by
      show stage (w.session i) = _
      rw [stage, if_pos before, if_pos wasLoading]
    have told : Roster.CatchesUp w.roster i
        ((w.members.filter fun k => k ≠ i).map fun k => (i, k)) := by
      refine Roster.catchesUp_map (joined.nodup.filter _) fun k other => ?_
      show _ ↔ stage (w.session k) ≠ .absent
      rw [List.mem_filter, joined.members k, stage_ne_absent]
      exact and_iff_left (decide_eq_true other)
    have receives : takes ((w.setLoading i false).session i) true = true := by
      have here : (w.setLoading i false).session i =
          { w.session i with playerLoading := false } := session_goOn_self w i _
      rw [here]
      simp [takes, joined.socket i]
    have handed : w'.handed =
        w.roster.told ++ (w.members.filter fun k => k ≠ i).map fun k => (i, k) := by
      rw [← map_others joined player]
      exact congrArg (w.handed ++ ·) (if_pos receives)
    have ready := Roster.Step.ready entered told
    rw [← stages_goOn w (stage_eq_ready.mpr ⟨loggedIn, loading⟩), ← handed] at ready
    rw [same]
    exact ready

/-! ### Steps -/

theorem changePlayer_of_same (updates : Bool) {l' : Life}
    (same : l'.session.player = (w.session i).player) (goesOn : l'.phase ≠ .ended) :
    w.changePlayer updates i l' = w := by
  unfold changePlayer
  rw [if_neg, if_neg]
  · exact fun ends => goesOn ends.2
  · rintro ⟨none, player⟩
    cases none.symm.trans (same.symm.trans player)

theorem life_changePlayer (updates : Bool) (l' : Life) :
    (w.changePlayer updates i l').life = w.life := by
  unfold changePlayer
  split
  · rfl
  · split
    · rfl
    · rfl

theorem changePlayer_of_new (updates : Bool) {l' : Life} (none : (w.session i).player = false)
    (player : l'.session.player = true) :
    w.changePlayer updates i l' = w.newPlayer updates i :=
  if_pos ⟨none, player⟩

/-- A login that goes on to the state its turn reaches. -/
theorem goOn_announced (w : Sessions) (i : Nat) (flag : Bool) (l' : Life) :
    ((((w.insertPlayer i).setLoading i flag)._sendNewPlayerOpcode i).setLoading i true).goOn i l' =
      (w.announce i fun k => takes (((w.insertPlayer i).setLoading i flag).session k) true).goOn i
        l' := by
  have lives : Function.update (Function.update (Function.update w.life i
      { w.life i with session := { w.session i with playerLoading := flag } }) i
      { ((w.insertPlayer i).setLoading i flag).life i with
        session := { ((w.insertPlayer i).setLoading i flag).session i with
          playerLoading := true } })
      i l' = Function.update w.life i l' := by
    rw [Function.update_idem, Function.update_idem]
  exact congrArg (fun life => { w.announce i fun k =>
    takes (((w.insertPlayer i).setLoading i flag).session k) true with life := life }) lives

/-- A login, of a session that has its player already or gets it. -/
theorem Joined.login (joined : w.Joined) (updates : Bool)
    (out : (w.session i).status ≠ .loggedIn)
    (finds : (w.session i).player = false → ∃ extent, w.accessor.mgr.Free extent)
    (spared : ∀ o ∈ w.accessor.objectsToRemove, ¬w.IsPlayer o) (receives : Nat → Bool)
    (agree : ∀ k, k ≠ i → receives k = takes (w.session k) true) {l' : Life}
    (player' : l'.session.player = true) (loggedIn : l'.session.status = .loggedIn)
    (socket : l'.session.socket = true) (loading : l'.session.playerLoading = true)
    (goesOn : l'.phase ≠ .ended) :
    let w' := ((w.changePlayer updates i l').announce i receives).goOn i l'
    w'.Joined ∧ Roster.Step w.roster w'.roster := by
  intro w'
  cases has : (w.session i).player with
  | true =>
      have same : w' = (w.announce i receives).goOn i l' := by
        show ((w.changePlayer updates i l').announce i receives).goOn i l' = _
        rw [changePlayer_of_same updates (player'.trans has.symm) goesOn]
      rw [same]
      exact joined.join has out spared receives agree player' loggedIn socket loading
  | false =>
      obtain ⟨extent, free⟩ := finds has
      -- the session with its player, before the player is inserted
      let l₁ : Life := { w.life i with session := { w.session i with player := true } }
      let w₁ := (w.newPlayer updates i).goOn i l₁
      have notLoading : (w.session i).playerLoading = false :=
        Bool.eq_false_iff.mpr fun still => out (joined.loading i still)
      obtain ⟨created, roster, players⟩ := joined.newPlayer updates has free l₁ rfl out
        (joined.socket i) notLoading
      have same : w' = (w₁.announce i receives).goOn i l' := by
        have lives : Function.update (Function.update w.life i l₁) i l' =
            Function.update w.life i l' := Function.update_idem _ _ _
        show ((w.changePlayer updates i l').announce i receives).goOn i l' = _
        rw [changePlayer_of_new updates has player']
        exact congrArg
          (fun life => { (w.newPlayer updates i).announce i receives with life := life })
          lives.symm
      have here : w₁.session i = l₁.session := session_goOn_self _ i l₁
      have others : ∀ k, k ≠ i → receives k = takes (w₁.session k) true := by
        intro k other
        rw [agree k other, show w₁.session k = w.session k from session_goOn_of_ne _ l₁ other]
      have spared : ∀ o ∈ w₁.accessor.objectsToRemove, ¬w₁.IsPlayer o := by
        intro o mem player
        rw [players] at player
        rcases player with before | rfl
        · exact spared o mem before
        · exact Nat.lt_irrefl _ (joined.placed.removals _ mem)
      have entered := created.join (here ▸ rfl) (here ▸ out) spared receives others player' loggedIn
        socket
        loading
      rw [same, ← roster]
      exact entered

/-- A message that only its own session notices. -/
theorem Joined.turn_plain (joined : w.Joined) (updates : Bool) {outs : List Output} {l' : Life}
    (player : l'.session.player = (w.session i).player)
    (status : l'.session.status = (w.session i).status ∨
      (w.session i).status = .authed ∧ l'.session.status = .confirmed)
    (socket : l'.session.socket = (w.session i).socket)
    (loading : l'.session.playerLoading = (w.session i).playerLoading)
    (goesOn : l'.phase ≠ .ended)
    (outputs : ∀ o ∈ outs, WorldSession.PlainOutput (w.session i).playerLoading o) :
    let w' := (outs.foldl (perform i) (w.changePlayer updates i l')).goOn i l'
    w'.Joined ∧ w'.roster = w.roster := by
  intro w'
  have same : w' = w.goOn i l' := by
    show (outs.foldl (perform i) (w.changePlayer updates i l')).goOn i l' = w.goOn i l'
    rw [changePlayer_of_same updates player goesOn, foldl_perform_plain outputs]
  have loggedIn : l'.session.status = .loggedIn ↔ (w.session i).status = .loggedIn := by
    rcases status with same | ⟨authed, confirmed⟩
    · rw [same]
    · rw [authed, confirmed]
      constructor
      · intro confirmed
        cases confirmed
      · intro authed
        cases authed
  rw [same]
  refine ⟨joined.goOn player loggedIn (socket.trans (joined.socket i)) ?_, roster_goOn ?_⟩
  · exact fun still => loggedIn.mpr (joined.loading i (loading.symm.trans still))
  · simp only [stage, loggedIn, loading]

/-- A complete join packet. -/
theorem Joined.turn_join (joined : w.Joined) (updates flag : Bool) {l' : Life}
    (out : (w.session i).status ≠ .loggedIn)
    (finds : (w.session i).player = false → ∃ extent, w.accessor.mgr.Free extent)
    (spared : ∀ o ∈ w.accessor.objectsToRemove, ¬w.IsPlayer o)
    (player' : l'.session.player = true) (loggedIn : l'.session.status = .loggedIn)
    (socket : l'.session.socket = true) (loading : l'.session.playerLoading = true)
    (goesOn : l'.phase ≠ .ended) :
    let w' := (((((w.changePlayer updates i l').insertPlayer i).setLoading i
      flag)._sendNewPlayerOpcode i).setLoading i true).goOn i l'
    w'.Joined ∧ Roster.Step w.roster w'.roster := by
  intro w'
  let changed := w.changePlayer updates i l'
  have same : w' = (changed.announce i fun k =>
      takes (((changed.insertPlayer i).setLoading i flag).session k) true).goOn i l' :=
    goOn_announced changed i flag l'
  rw [same]
  refine joined.login updates out finds spared _ (fun k other => ?_) player' loggedIn socket loading
    goesOn
  refine congrArg (takes · true) ((session_goOn_of_ne _ _ other).trans ?_)
  exact congrArg (fun life : Nat → Life => (life k).session) (life_changePlayer _ _)

/-- A join packet that is too short: the session has its player, and nothing else is done. -/
theorem Joined.turn_shortJoin (joined : w.Joined) (updates : Bool) {l' : Life}
    (out : (w.session i).status ≠ .loggedIn)
    (finds : (w.session i).player = false → ∃ extent, w.accessor.mgr.Free extent)
    (player' : l'.session.player = true)
    (status : l'.session.status = .loggedIn ↔ (w.session i).status = .loggedIn)
    (socket : l'.session.socket = true)
    (loading : l'.session.playerLoading = (w.session i).playerLoading)
    (goesOn : l'.phase ≠ .ended) :
    let w' := (w.changePlayer updates i l').goOn i l'
    w'.Joined ∧ w'.roster = w.roster := by
  intro w'
  cases has : (w.session i).player with
  | true =>
      have same : w' = w.goOn i l' := by
        show (w.changePlayer updates i l').goOn i l' = _
        rw [changePlayer_of_same updates (player'.trans has.symm) goesOn]
      rw [same]
      refine ⟨joined.goOn (player'.trans has.symm) status socket fun still => ?_, roster_goOn ?_⟩
      · exact status.mpr (joined.loading i (loading.symm.trans still))
      · simp only [stage, status, loading]
  | false =>
      have notLoading : (w.session i).playerLoading = false :=
        Bool.eq_false_iff.mpr fun still => out (joined.loading i still)
      obtain ⟨extent, free⟩ := finds has
      have same : w' = (w.newPlayer updates i).goOn i l' := by
        show (w.changePlayer updates i l').goOn i l' = _
        rw [changePlayer_of_new updates has player']
      rw [same]
      have created := joined.newPlayer updates has free l' player'
        (fun loggedIn => out (status.mp loggedIn)) socket (loading.trans notLoading)
      exact ⟨created.1, created.2.1⟩

/-- The packets and requests of a session that is ready, one of which is for the others. -/
theorem foldl_perform_ready (w : Sessions) (i : Nat) (s : WorldSession)
    (loading : s.playerLoading = false) :
    ([s._sendPartialTimestampOpcode, .request .sendUpdatePacket, s._sendFadeBeginOpcode,
      .request .respawn, .request .sendPlayerInfo] : List Output).foldl (perform i) w =
      (w.setLoading i false).sendPlayerInfo i := by
  have unfolded : ([s._sendPartialTimestampOpcode, .request .sendUpdatePacket,
      s._sendFadeBeginOpcode, .request .respawn, .request .sendPlayerInfo] :
      List Output).foldl (perform i) w =
      ((w.setLoading i s.playerLoading).setLoading i s.playerLoading).sendPlayerInfo i := rfl
  rw [unfolded, setLoading_setLoading, loading]

/-- A turn leads from sessions that are joined to sessions that are, and makes at most one step of
the roster. -/
theorem Joined.turn (joined : w.Joined) (updates : Bool) {game : Game} {s : WorldSession}
    {p : WorldPacket} {outs : List Output} {l' : Life} (login : s.login = (w.session i).login)
    (turned : Turned game s p l'.session outs) (goesOn : l'.phase ≠ .ended)
    (once : p.opcode = 0x1F → (w.session i).status ≠ .loggedIn)
    (finds : p.opcode = 0x1F →
      ((w.session i).player = false → ∃ extent, w.accessor.mgr.Free extent) ∧
        ∀ o ∈ w.accessor.objectsToRemove, ¬w.IsPlayer o) :
    let w' := (outs.foldl (perform i) (w.changePlayer updates i l')).goOn i l'
    w'.Joined ∧ (w'.roster = w.roster ∨ Roster.Step w.roster w'.roster) := by
  intro w'
  obtain ⟨player, status, socket, loading⟩ : s.player = (w.session i).player ∧
      s.status = (w.session i).status ∧ s.socket = (w.session i).socket ∧
      s.playerLoading = (w.session i).playerLoading := by
    simpa only [WorldSession.login, Prod.mk.injEq] using login
  have connected : s.socket = true := socket.trans (joined.socket i)
  generalize after : l'.session = s' at turned
  cases turned with
  | plain _ player' status' socket' loading' outputs =>
      subst after
      rw [status] at status'
      have went := joined.turn_plain updates (player'.trans player) status' (socket'.trans socket)
        (loading'.trans loading) goesOn (loading ▸ outputs)
      exact ⟨went.1, .inl went.2⟩
  | join info username unk1 join complete joinedTo =>
      have session := after.trans (congrArg Prod.fst joinedTo)
      have outputs : outs = _ := congrArg Prod.snd joinedTo
      obtain ⟨free, spared⟩ := finds join
      have entered := joined.turn_join updates s.playerLoading (once join) free spared
        (congrArg WorldSession.player session) (congrArg WorldSession.status session)
        ((congrArg WorldSession.socket session).trans connected)
        (congrArg WorldSession.playerLoading session) goesOn
      have same : w' = (((((w.changePlayer updates i l').insertPlayer i).setLoading i
          s.playerLoading)._sendNewPlayerOpcode i).setLoading i true).goOn i l' := by
        show (outs.foldl (perform i) (w.changePlayer updates i l')).goOn i l' = _
        rw [outputs, foldl_perform_join]
      rw [same]
      exact ⟨entered.1, .inr entered.2⟩
  | shortJoin join short =>
      have went := joined.turn_shortJoin updates (once join) (finds join).1
        (congrArg WorldSession.player after) (by rw [after, ← status])
        ((congrArg WorldSession.socket after).trans connected)
        ((congrArg WorldSession.playerLoading after).trans loading) goesOn
      exact ⟨went.1, .inl went.2⟩
  | ready opcode player' loading' session outputs =>
      subst session outputs
      have has : (w.session i).player = true := player ▸ player'
      have still : l'.session.player = (w.session i).player :=
        (congrArg WorldSession.player after).trans player
      have became := joined.becomeReady has (loading ▸ loading') (still.trans has)
        ((congrArg WorldSession.status after).trans
          (status.trans (joined.loading i (loading ▸ loading'))))
        ((congrArg WorldSession.socket after).trans connected)
        (congrArg WorldSession.playerLoading after)
      have same : w' = ((w.setLoading i false).sendPlayerInfo i).goOn i l' := by
        show (List.foldl (perform i) (w.changePlayer updates i l') _).goOn i l' = _
        rw [changePlayer_of_same updates still goesOn, foldl_perform_ready]
        rfl
      rw [same]
      exact ⟨became.1, .inr became.2⟩

/-- Events that are no turns put out nothing for others. -/
theorem advance_of_other (updates : Bool) {e : Event} {l' : Life}
    (noTurn : ∀ game now, e ≠ .turn game now) (same : l'.session.player = (w.session i).player)
    (goesOn : l'.phase ≠ .ended) : w.advance updates i e l' = w.goOn i l' := by
  have quiet : outputs (w.life i) e = [] := by
    unfold outputs
    split
    · exact absurd rfl (noTurn _ _)
    · rfl
  unfold advance
  rw [quiet, changePlayer_of_same updates same goesOn]
  rfl

/-- A step leads from sessions that are joined to sessions that are, and makes at most one step of
the roster. -/
theorem Joined.step (joined : w.Joined) (updates : Bool) {a : Occurrence} {w' : Sessions}
    (stays : w.Stays a) (finds : w.FindsExtent a) (step : w.Step updates a w') :
    w'.Joined ∧ (w'.roster = w.roster ∨ Roster.Step w.roster w'.roster) := by
  cases a with
  | objects a =>
      obtain ⟨ofObjects, accessor, acted, rfl⟩ := step
      obtain ⟨placed, players⟩ := joined.placed.act ofObjects finds acted
      refine ⟨{ joined with placed := placed, nodup := ?_, members := ?_ }, .inl rfl⟩
      · show (accessor.players.map fun entry => w.getSession entry.2).Nodup
        rw [players]
        exact joined.nodup
      · intro i
        show i ∈ (accessor.players.map fun entry => w.getSession entry.2) ↔ _
        rw [players]
        exact joined.members i
  | session i e =>
      obtain ⟨l', lifeStep, rfl⟩ := step
      obtain ⟨noKick, goOn, once⟩ := stays
      have goesOn : l'.phase ≠ .ended := goOn l' lifeStep
      by_cases turn : ∃ game now, e = .turn game now
      · obtain ⟨game, now, rfl⟩ := turn
        obtain ⟨s, p, dispatched, here, login, session, _⟩ := turn_eq_some lifeStep
        have turned := turned game now s p
        rw [← session] at turned
        have outs : outputs (w.life i) (.turn game now) = (s.turn game now p).2.1 := by
          rw [outputs, dispatched]
        have turned := joined.turn updates login turned goesOn (once p here) (finds p here)
        rw [← outs] at turned
        exact turned
      · have noTurn : ∀ game now, e ≠ .turn game now := fun game now same => turn ⟨game, now, same⟩
        have login : l'.session.login = (w.session i).login :=
          (other_login lifeStep noTurn noKick).2 goesOn
        obtain ⟨player, status, socket, loading⟩ : l'.session.player = (w.session i).player ∧
            l'.session.status = (w.session i).status ∧ l'.session.socket = (w.session i).socket ∧
            l'.session.playerLoading = (w.session i).playerLoading := by
          simpa only [WorldSession.login, Prod.mk.injEq] using login
        rw [advance_of_other updates noTurn player goesOn]
        refine ⟨joined.goOn player (status ▸ Iff.rfl) (socket.trans (joined.socket i)) ?_,
          .inl (roster_goOn ?_)⟩
        · exact fun still => status.trans (joined.loading i (loading.symm.trans still))
        · simp only [stage, status, loading]

theorem joined_start (accountId : Nat → UInt32) : (start accountId).Joined where
  placed := by
    have players : (start accountId).IsPlayer = fun _ => False :=
      funext fun _ => propext (Iff.intro (fun ⟨_, player, _⟩ => nomatch player) False.elim)
    exact players ▸ ObjectAccessor.placed_start
  socket := fun _ => rfl
  loading := nofun
  inserted := nofun
  owner := nofun
  nodup := List.nodup_nil
  members := fun _ => ⟨nofun, nofun⟩

/-- The sessions are joined, and have been told of each other. -/
def Introduced (w : Sessions) : Prop := w.Joined ∧ Roster.Told w.roster

theorem introduced_start (accountId : Nat → UInt32) : (start accountId).Introduced :=
  ⟨joined_start accountId, Roster.told_start⟩

theorem Introduced.step (introduced : w.Introduced) (updates : Bool) {a : Occurrence}
    {w' : Sessions} (stays : w.Stays a) (finds : w.FindsExtent a) (step : w.Step updates a w') :
    w'.Introduced := by
  obtain ⟨joined, same | told⟩ := introduced.1.step updates stays finds step
  · exact ⟨joined, same ▸ introduced.2⟩
  · exact ⟨joined, introduced.2.step told⟩

end Sessions

open Sessions

/-! ### Logins -/

/-- A turn that takes the next packet of the queue. -/
theorem step_turn (l : Life) (packet : WorldPacket) (queue : List WorldPacket)
    (phase : l.phase = .looping none) (waiting : l.session.recvQueue = packet :: queue)
    (socket : l.session.socket = true) (game : Game) (now : Int) :
    let s := { l.session with recvQueue := queue }
    l.step (.turn game now) =
        some ⟨(s.turn game now packet).1, .looping (s.turn game now packet).2.2⟩ ∧
      outputs l (.turn game now) = (s.turn game now packet).2.1 ∧
      l.message (.turn game now) = some packet := by
  intro s
  have more : l.more none = true := by simp [Life.more, waiting, socket]
  refine ⟨?_, ?_, ?_⟩
  · unfold Life.step
    dsimp only
    rw [phase, waiting]
    exact if_pos more
  · rw [outputs, Life.dispatched, phase, waiting]
  · rw [Life.message, phase, waiting]
    rfl

/-- The join message's login, in the turn that dispatches it. -/
def joinedFrom (s : WorldSession) : WorldSession × List Output :=
  WorldSession.joinPlayer noMap { s with player := true, playerRecentlyLogout := false }
    (List.replicate 0x61 7) (List.replicate 9 7) (List.replicate 0x0C 7)

set_option maxRecDepth 8000 in
theorem turn_joinPacket (s : WorldSession) :
    s.turn noMap 0 joinPacket = ((joinedFrom s).1, (joinedFrom s).2, none) := rfl

def readyPacket : WorldPacket := .ofPayload msgClientReady 0x01 0 []

theorem turn_readyPacket {s : WorldSession} (player : s.player = true)
    (loading : s.playerLoading = true) :
    let s' := { s with
      unk := readyPacket.unk + 1, playerLoading := false, timestamp := s.timestamp + 1 }
    s.turn noMap 0 readyPacket = (s', [s'._sendPartialTimestampOpcode, .request .sendUpdatePacket,
      s'._sendFadeBeginOpcode, .request .respawn, .request .sendPlayerInfo], none) := by
  cases s
  cases player
  cases loading
  rfl

/-- A session that has logged in, between two packets. -/
structure LoggedIn (l : Life) (loading : Bool) : Prop where
  phase : l.phase = .looping none
  recvQueue : l.session.recvQueue = []
  player : l.session.player = true
  status : l.session.status = .loggedIn
  socket : l.session.socket = true
  playerLoading : l.session.playerLoading = loading

section Logins

variable (updates : Bool) {condition : Sessions → Occurrence → Prop} {w : Sessions} {i : Nat}

/-- An event that is no turn and leaves the player. -/
theorem step_of_other {e : Event} {l' : Life} (lifeStep : (w.life i).step e = some l')
    (noTurn : ∀ game now, e ≠ .turn game now) (noKick : e ≠ .kickPlayer)
    (noMessage : (w.life i).message e = none) (same : l'.session.player = (w.session i).player)
    (goesOn : l'.phase ≠ .ended) (meets : condition w (.session i e)) :
    guarded condition (guarded Stays fun w => w.Step updates) w (.session i e) (w.goOn i l') := by
  refine ⟨meets, ⟨noKick, fun l mem => ?_, fun p here => ?_⟩, l', lifeStep, ?_⟩
  · rw [lifeStep] at mem
    cases mem
    exact goesOn
  · rw [noMessage] at here
    cases here
  · exact (advance_of_other updates noTurn same goesOn).symm

theorem goOn_goOn (w : Sessions) (i : Nat) (l l' : Life) :
    (w.goOn i l).goOn i l' = w.goOn i l' :=
  congrArg (fun life => { w with life := life }) (Function.update_idem _ _ _)

theorem life_goOn_self (w : Sessions) (i : Nat) (l' : Life) : (w.goOn i l').life i = l' :=
  Function.update_self _ _ _

theorem life_goOn_of_ne (w : Sessions) {i k : Nat} (l' : Life) (other : k ≠ i) :
    (w.goOn i l').life k = w.life k :=
  Function.update_of_ne other _ _

def loginEvents : List Event := [.queuePacket joinPacket, .update 0, .turn noMap 0]

/-- A session that has just been created logs in. -/
theorem run_login {id : UInt32} (fresh : w.life i = .start id)
    (meets : ∀ l e, condition (w.goOn i l) (.session i e)) :
    ∃ l' told, LoggedIn l' true ∧
      (∀ x ∈ told, x.2 = i ∧ x.1 ∈ ((w.newPlayer updates i).insertPlayer i).members) ∧
      Run (guarded condition (guarded Stays fun w => w.Step updates)) w
        (loginEvents.map (.session i))
        (goOn { (w.newPlayer updates i).insertPlayer i with handed := w.handed ++ told } i l') := by
  let waiting : WorldSession := { WorldSession.create id with recvQueue := [joinPacket] }
  let s : WorldSession := { waiting.updateTimestamp.1.updateTimer 0 with recvQueue := [] }
  let l₁ : Life := ⟨waiting, .idle⟩
  let l₂ : Life := ⟨waiting.updateTimestamp.1.updateTimer 0, .looping none⟩
  let l₃ : Life := ⟨(joinedFrom s).1, .looping none⟩
  have step₁ : (w.life i).step (.queuePacket joinPacket) = some l₁ := by
    rw [fresh]
    rfl
  have meets₀ : condition w (.session i (.queuePacket joinPacket)) := by
    have here := meets (w.life i) (.queuePacket joinPacket)
    rwa [goOn, Function.update_eq_self] at here
  have first := step_of_other updates step₁ nofun nofun rfl
    (by rw [session, fresh]; rfl) nofun meets₀
  have at₁ := life_goOn_self w i l₁
  have step₂ : ((w.goOn i l₁).life i).step (.update 0) = some l₂ := by
    rw [at₁]
    rfl
  have second := step_of_other updates step₂ nofun nofun rfl
    (by rw [session, at₁]; rfl) nofun (meets l₁ _)
  rw [goOn_goOn] at second
  obtain ⟨turned, outs, here⟩ := step_turn l₂ joinPacket [] rfl rfl rfl noMap 0
  rw [turn_joinPacket] at turned outs
  have at₂ := life_goOn_self w i l₂
  let receives (k : Nat) : Bool := takes (((((w.newPlayer updates i).goOn i l₂).insertPlayer
    i).setLoading i s.playerLoading).session k) true
  have final : (w.goOn i l₂).advance updates i (.turn noMap 0) l₃ =
      ((w.newPlayer updates i).announce i receives).goOn i l₃ := by
    have player : ((w.goOn i l₂).session i).player = false := by
      rw [session_goOn_self]
      rfl
    unfold advance
    rw [at₂, outs, changePlayer_of_new updates player rfl]
    rw [show (joinedFrom s).2.foldl _ _ = _ from foldl_perform_join _ i noMap _ _ _ _]
    refine (goOn_announced _ i s.playerLoading l₃).trans ?_
    exact goOn_goOn ((w.newPlayer updates i).announce i receives) i l₂ l₃
  have third : guarded condition (guarded Stays fun w => w.Step updates) (w.goOn i l₂)
      (.session i (.turn noMap 0)) (((w.newPlayer updates i).announce i receives).goOn i l₃) := by
    refine ⟨meets l₂ _, ⟨nofun, fun l mem => ?_, fun p dispatched _ => ?_⟩, l₃, ?_, final.symm⟩
    · rw [at₂, turned] at mem
      cases mem
      exact nofun
    · rw [session_goOn_self]
      exact nofun
    · rw [at₂]
      exact turned
  refine ⟨l₃, _, ⟨rfl, rfl, rfl, rfl, rfl, rfl⟩, ?_,
    .cons first (.cons second (.cons third (.nil _)))⟩
  intro x mem
  obtain ⟨k, receiver, rfl⟩ := List.mem_map.mp mem
  exact ⟨rfl, List.mem_of_mem_filter receiver⟩

def readyEvents : List Event := [.queuePacket readyPacket, .turn noMap 0]

/-- A session that has logged in becomes ready. -/
theorem run_ready (loggedIn : LoggedIn (w.life i) true)
    (meets : ∀ l e, condition (w.goOn i l) (.session i e)) :
    ∃ l', LoggedIn l' false ∧
      Run (guarded condition (guarded Stays fun w => w.Step updates)) w
        (readyEvents.map (.session i))
        (goOn { w with
          handed := w.handed ++ (w.accessor.players.filter fun entry => entry.2 ≠ w.player i).map
            fun entry => (i, w.getSession entry.2) } i l') := by
  let s := w.session i
  let l₁ : Life := { w.life i with session := { s with recvQueue := [readyPacket] } }
  let s₁ : WorldSession := { s with recvQueue := [] }
  let s₂ : WorldSession := { s₁ with
    unk := readyPacket.unk + 1, playerLoading := false, timestamp := s.timestamp + 1 }
  let l₂ : Life := ⟨s₂, .looping none⟩
  have step₁ : (w.life i).step (.queuePacket readyPacket) = some l₁ := by
    have goesOn : (w.life i).phase ≠ .ended := by
      rw [loggedIn.phase]
      nofun
    have queued : s.queuePacket readyPacket = { s with recvQueue := [readyPacket] } :=
      congrArg (fun queue => { s with recvQueue := queue ++ [readyPacket] }) loggedIn.recvQueue
    refine (if_neg goesOn).trans ?_
    exact congrArg (fun s => some { w.life i with session := s }) queued
  have meets₀ : condition w (.session i (.queuePacket readyPacket)) := by
    have here := meets (w.life i) (.queuePacket readyPacket)
    rwa [goOn, Function.update_eq_self] at here
  have goesOn : l₁.phase ≠ .ended := by
    rw [show l₁.phase = .looping none from loggedIn.phase]
    nofun
  have first := step_of_other updates step₁ nofun nofun rfl rfl goesOn meets₀
  obtain ⟨turned, outs, here⟩ :=
    step_turn l₁ readyPacket [] loggedIn.phase rfl loggedIn.socket noMap 0
  rw [@turn_readyPacket s₁ loggedIn.player loggedIn.playerLoading] at turned outs
  have at₁ := life_goOn_self w i l₁
  let told := (w.accessor.players.filter fun entry => entry.2 ≠ w.player i).map
    fun entry => (i, w.getSession entry.2)
  have final : (w.goOn i l₁).advance updates i (.turn noMap 0) l₂ =
      goOn { w with handed := w.handed ++ told } i l₂ := by
    have same : l₂.session.player = ((w.goOn i l₁).session i).player := by
      rw [session_goOn_self]
    have receives : takes (((w.goOn i l₁).setLoading i false).session i) true = true := by
      rw [show ((w.goOn i l₁).setLoading i false).session i =
        { (w.goOn i l₁).session i with playerLoading := false } from session_goOn_self _ i _,
        session_goOn_self]
      exact congrArg (· && true) loggedIn.socket
    have unfolded : ([s₂._sendPartialTimestampOpcode, .request .sendUpdatePacket,
        s₂._sendFadeBeginOpcode, .request .respawn, .request .sendPlayerInfo] : List Output).foldl
          (perform i) (w.goOn i l₁) =
        (((w.goOn i l₁).setLoading i false).setLoading i false).sendPlayerInfo i := rfl
    unfold advance
    rw [at₁, outs, changePlayer_of_same updates same nofun]
    refine (congrArg (·.goOn i l₂) unfolded).trans ?_
    rw [setLoading_setLoading, sendPlayerInfo, if_pos receives]
    refine (goOn_goOn { w.goOn i l₁ with handed := w.handed ++ told } i _ l₂).trans ?_
    exact goOn_goOn { w with handed := w.handed ++ told } i l₁ l₂
  have second : guarded condition (guarded Stays fun w => w.Step updates) (w.goOn i l₁)
      (.session i (.turn noMap 0)) (goOn { w with handed := w.handed ++ told } i l₂) := by
    refine ⟨meets l₁ _, ⟨nofun, fun l mem => ?_, fun p dispatched join => ?_⟩, l₂, ?_, final.symm⟩
    · rw [at₁, turned] at mem
      cases mem
      exact nofun
    · rw [at₁, here] at dispatched
      cases dispatched
      cases join
    · rw [at₁]
      exact turned
  exact ⟨l₂, ⟨rfl, rfl, loggedIn.player, loggedIn.status, loggedIn.socket, rfl⟩,
    .cons first (.cons second (.nil _))⟩

/-- Of two sessions that log in and become ready, the second is not told of the first if its player
takes the place of the first one's. -/
theorem run_two {id : Nat → UInt32} (fresh : w.life = fun i => .start (id i))
    (none : w.handed = [])
    (meets : ∀ w' : Sessions, w'.accessor = w.accessor ∨
      w'.accessor = w.accessor.login updates ∨
      w'.accessor = (w.accessor.login updates).login updates →
      ∀ i e, condition w' (.session i e)) :
    ∃ occurrences w',
      Run (guarded condition (guarded Stays fun w => w.Step updates)) w occurrences w' ∧
        w'.Ready 0 ∧ w'.Ready 1 ∧
        ((∀ entry ∈ (w.accessor.login updates).players, entry.2 = w.accessor.next) →
          (∀ entry ∈ ((w.accessor.login updates).login updates).players,
            entry.2 = (w.accessor.login updates).next) → (1, 0) ∉ w'.handed) := by
  have accessor (w : Sessions) (i : Nat) :
      ((w.newPlayer updates i).insertPlayer i).accessor = w.accessor.login updates :=
    congrArg (w.accessor.newPlayer updates).insertPlayer (Function.update_self _ _ _)
  obtain ⟨l₀, told₀, loggedIn₀, toldOf₀, login₀⟩ := @run_login updates condition w 0 (id 0)
    (congrFun fresh 0) fun l e => meets (w.goOn 0 l) (.inl rfl) 0 e
  let w₁ : Sessions := goOn { (w.newPlayer updates 0).insertPlayer 0 with
    handed := w.handed ++ told₀ } 0 l₀
  have accessor₁ : w₁.accessor = w.accessor.login updates := accessor w 0
  have fresh₁ : w₁.life 1 = .start (id 1) :=
    (life_goOn_of_ne _ l₀ Nat.one_ne_zero).trans (congrFun fresh 1)
  obtain ⟨l₁, told₁, loggedIn₁, toldOf₁, login₁⟩ := @run_login updates condition w₁ 1 _
    fresh₁ fun l e => meets (w₁.goOn 1 l) (.inr (.inl accessor₁)) 1 e
  let w₂ : Sessions := goOn { (w₁.newPlayer updates 1).insertPlayer 1 with
    handed := w₁.handed ++ told₁ } 1 l₁
  have accessor₂ : w₂.accessor = (w.accessor.login updates).login updates :=
    (accessor w₁ 1).trans (congrArg (·.login updates) accessor₁)
  have life₁ : w₁.life 0 = l₀ := life_goOn_self _ 0 l₀
  have life₂ : w₂.life 0 = l₀ := (life_goOn_of_ne _ l₁ Nat.zero_ne_one).trans life₁
  have life₂' : w₂.life 1 = l₁ := life_goOn_self _ 1 l₁
  obtain ⟨l₂, loggedIn₂, ready₀⟩ := @run_ready updates condition w₂ 0
    (life₂ ▸ loggedIn₀) fun l e => meets (w₂.goOn 0 l) (.inr (.inr accessor₂)) 0 e
  let told (w : Sessions) (i : Nat) : List (Nat × Nat) :=
    (w.accessor.players.filter fun entry => entry.2 ≠ w.player i).map
      fun entry => (i, w.getSession entry.2)
  let w₃ : Sessions := goOn { w₂ with handed := w₂.handed ++ told w₂ 0 } 0 l₂
  have life₃ : w₃.life 0 = l₂ := life_goOn_self _ 0 l₂
  have life₃' : w₃.life 1 = l₁ := (life_goOn_of_ne _ l₂ Nat.one_ne_zero).trans life₂'
  obtain ⟨l₃, loggedIn₃, ready₁⟩ := @run_ready updates condition w₃ 1
    (life₃' ▸ loggedIn₁) fun l e => meets (w₃.goOn 1 l) (.inr (.inr accessor₂)) 1 e
  let w₄ : Sessions := goOn { w₃ with handed := w₃.handed ++ told w₃ 1 } 1 l₃
  have life₄ : w₄.life 0 = l₂ := (life_goOn_of_ne _ l₃ Nat.zero_ne_one).trans life₃
  have life₄' : w₄.life 1 = l₃ := life_goOn_self _ 1 l₃
  refine ⟨_, w₄, login₀.append (login₁.append (ready₀.append ready₁)), ?_, ?_, ?_⟩
  · exact ⟨(congrArg (·.session.status) life₄).trans loggedIn₂.status,
      (congrArg (·.session.playerLoading) life₄).trans loggedIn₂.playerLoading⟩
  · exact ⟨(congrArg (·.session.status) life₄').trans loggedIn₃.status,
      (congrArg (·.session.playerLoading) life₄').trans loggedIn₃.playerLoading⟩
  · intro alone₁ alone₂ mem
    have split : (1, 0) ∈ ((told₀ ++ told₁) ++ told w₂ 0) ++ told w₃ 1 := by
      have handed : w₄.handed = (((w.handed ++ told₀) ++ told₁) ++ told w₂ 0) ++ told w₃ 1 := rfl
      rw [handed, none] at mem
      exact mem
    rcases List.mem_append.mp split with before | last
    · rcases List.mem_append.mp before with before | third
      · rcases List.mem_append.mp before with first | second
        · obtain ⟨entry, mem, here⟩ := List.mem_map.mp (toldOf₀ _ first).2
          rw [accessor w 0] at mem
          have own : ((w.newPlayer updates 0).insertPlayer 0).getSession w.accessor.next = 0 :=
            Function.update_self _ _ _
          rw [alone₁ entry mem, own] at here
          cases here
        · cases (toldOf₁ _ second).1
      · obtain ⟨_, _, here⟩ := List.mem_map.mp third
        cases congrArg Prod.fst here
    · obtain ⟨entry, mem, _⟩ := List.mem_map.mp last
      obtain ⟨mem, other⟩ := List.mem_filter.mp mem
      have newest : w₃.player 1 = w₁.accessor.next := Function.update_self 1 _ w₁.player
      have own : w₃.player 1 = (w.accessor.login updates).next := by
        rw [newest, accessor₁]
      rw [show w₃.accessor = _ from accessor₂] at mem
      exact of_decide_eq_true other ((alone₂ entry mem).trans own.symm)

end Logins

/-! ### Introductions -/

/-- In a run in which each session logs in once, none ends, and each player finds an extent, of two
players that are ready each one's session has been handed one MSG_NEW_PLAYER for the other. The run
refines a roster, where whoever enters is announced to those that are ready, and whoever gets ready
catches up on all that have entered. -/
theorem introduced_once (updates : Bool) (accountId : Nat → UInt32)
    {occurrences : List Occurrence} {w : Sessions}
    (run : Run (guarded FindsExtent (guarded Stays fun w => w.Step updates)) (start accountId)
      occurrences w)
    {a b : Nat} (other : a ≠ b) (readyA : w.Ready a) (readyB : w.Ready b) :
    w.handed.count (a, b) = 1 ∧ w.handed.count (b, a) = 1 := by
  have introduced : w.Introduced := run.invariant
    (fun _ _ _ introduced guarded => introduced.step updates guarded.2.1 guarded.1 guarded.2.2)
    (introduced_start accountId)
  exact introduced.2.once other (stage_eq_ready.mpr readyA) (stage_eq_ready.mpr readyB)

theorem introduced_once_two :
    ∃ w : Sessions, w.Ready 0 ∧ w.Ready 1 ∧ w.handed.count (0, 1) = 1 ∧
      w.handed.count (1, 0) = 1 := by
  have free₀ : ({} : ObjectAccessor).mgr.Free 1 := ⟨by decide, by decide, rfl⟩
  have free₁ : (({} : ObjectAccessor).login true).mgr.Free 2 :=
    ⟨by decide, by decide, by decide +kernel⟩
  have free₂ : ((({} : ObjectAccessor).login true).login true).mgr.Free 3 :=
    ⟨by decide, by decide, by decide +kernel⟩
  have finds {w : Sessions} {accessor : ObjectAccessor} {e : UInt16} (free : accessor.mgr.Free e)
      (nothing : accessor.objectsToRemove = []) (here : w.accessor = accessor) (i : Nat)
      (event : Event) : FindsExtent w (.session i event) := by
    subst here
    refine fun _ _ _ => ⟨fun _ => ⟨e, free⟩, fun o mem => ?_⟩
    rw [nothing] at mem
    cases mem
  obtain ⟨_, w, run, ready₀, ready₁, _⟩ :=
    @run_two true FindsExtent (start fun _ => 0) (fun _ => 0) rfl rfl (by
      rintro w (here | here | here)
      · exact finds free₀ rfl here
      · exact finds free₁ rfl here
      · exact finds free₂ rfl here)
  exact ⟨w, ready₀, ready₁, introduced_once true _ run Nat.zero_ne_one ready₀ ready₁⟩

/-! ### Players without extents -/

/-- Sessions that have just been created, when objects have taken the extents up to `n`. -/
structure Filled (accountId : Nat → UInt32) (n : Nat) (w : Sessions) : Prop where
  taken : w.accessor.TakenTo n
  objectsToRemove : w.accessor.objectsToRemove = []
  players : w.accessor.players = []
  life : w.life = fun i => .start (accountId i)
  handed : w.handed = []

/-- There is a run that fills any number of the extents with players. -/
theorem run_fill (updates : Bool) (accountId : Nat → UInt32) {n : Nat} (le : n ≤ maxExtent.toNat) :
    ∃ occurrences w, Run (guarded Stays fun w => w.Step updates) (start accountId) occurrences w ∧
      Filled accountId n w := by
  induction n with
  | zero =>
      refine ⟨[], _, .nil _, fun e one_le none => ?_, rfl, rfl, rfl, rfl⟩
      have one_le := UInt16.le_iff_toNat_le.mp one_le
      exact absurd (one_le.trans none) (by decide)
  | succ n ih =>
      obtain ⟨occurrences, w, run, filled⟩ := ih (Nat.le_of_succ_le le)
      let accessor := w.accessor.create 0 (UInt16.ofNat (n + 1)) true false {}
      let creation : Occurrence := .objects (.create 0 (UInt16.ofNat (n + 1)) true false {})
      have made : w.Step updates creation { w with accessor := accessor } :=
        ⟨trivial, accessor, ⟨trivial, rfl⟩, rfl⟩
      refine ⟨_, _, run.append (.single (a := creation) ⟨trivial, made⟩), ?_⟩
      exact {
        taken := filled.taken.create_next le _ _ _ _
        objectsToRemove := filled.objectsToRemove
        players := filled.players
        life := filled.life
        handed := filled.handed }

/-- A player that finds no extent takes the place of the one that has none either. -/
theorem login_full {accessor : ObjectAccessor} (updates : Bool)
    (taken : accessor.TakenTo maxExtent.toNat) (nothing : accessor.objectsToRemove = [])
    (alone : accessor.players = [] ∨ ∃ p, accessor.players = [(invalidExtent, p)]) :
    (accessor.login updates).TakenTo maxExtent.toNat ∧
      (accessor.login updates).objectsToRemove = [] ∧
      (accessor.login updates).players = [(invalidExtent, accessor.next)] := by
  let created := accessor.newPlayer updates
  have put : ObjectAccessor.putPlayer (created.mgr.extent accessor.next) accessor.next
      accessor.players = [(invalidExtent, accessor.next)] := by
    rw [taken.extent_newPlayer updates]
    rcases alone with none | ⟨p, one⟩
    · rw [none]
      rfl
    · rw [one]
      exact if_pos rfl
  let inserted : ObjectAccessor := { created with
    players := ObjectAccessor.putPlayer (created.mgr.extent accessor.next) accessor.next
      accessor.players }
  have none : inserted.objectsToRemove.foldl ObjectAccessor.deleteObject inserted = inserted := by
    rw [show inserted.objectsToRemove = [] from nothing]
    rfl
  let updated := inserted.objectsToRemove.foldl ObjectAccessor.deleteObject inserted
  have mgr : updated.mgr = inserted.mgr := congrArg ObjectAccessor.mgr none
  have players : updated.players = inserted.players := congrArg ObjectAccessor.players none
  refine ⟨fun e one_le le => ?_, rfl, players.trans put⟩
  show (updated.mgr.objectExtents e).isSome
  rw [mgr]
  exact taken.create playerType 0 false updates ⟨2285, 2600⟩ e one_le le

/-- Where players find no extent they are not introduced: a run fills all the extents there are, and
of two players that log in then both have the extent 0, so the table has the second one alone. -/
theorem introduced_not :
    ¬∀ (updates : Bool) (accountId : Nat → UInt32) (occurrences : List Occurrence) (w : Sessions),
      Run (guarded Stays fun w => w.Step updates) (start accountId) occurrences w →
      ∀ a b, a ≠ b → w.Ready a → w.Ready b →
        w.handed.count (a, b) = 1 ∧ w.handed.count (b, a) = 1 := by
  intro claim
  obtain ⟨filling, w, filled, full⟩ := run_fill true (fun _ => 0) (le_refl maxExtent.toNat)
  obtain ⟨taken₁, nothing₁, players₁⟩ := login_full true full.taken full.objectsToRemove
    (.inl full.players)
  obtain ⟨_, _, players₂⟩ := login_full true taken₁ nothing₁ (.inr ⟨_, players₁⟩)
  obtain ⟨logins, w', run, ready₀, ready₁, untold⟩ :=
    @run_two true (fun _ _ => True) w _ full.life full.handed fun _ _ _ _ => trivial
  have missed : (1, 0) ∉ w'.handed := by
    refine untold (fun entry mem => ?_) fun entry mem => ?_
    · rw [players₁, List.mem_singleton] at mem
      rw [mem]
    · rw [players₂, List.mem_singleton] at mem
      rw [mem]
  have told := (claim true _ _ w' (filled.append run.unguarded) 1 0 Nat.one_ne_zero ready₁
    ready₀).1
  rw [List.count_eq_zero_of_not_mem missed] at told
  cases told

end NoxServer.Accessor
