import NoxServer.Library.Runs
import NoxServer.World.World

/-!
The count of the sessions and the shutdown of the server (`World.h`, `World.cpp`).

The count is the size of `m_sessions`, where a session that was kicked leaves its entry and one that
is added takes the place of another with its id. So it is the number of the live sessions as long
as none is kicked and none is replaced. If the clock does not go back meanwhile, the server then
stops when it should (`sessions_counted`). The times are whole seconds, as the source counts them.
-/

namespace NoxServer

open Session Runs

/-- `World`, with what the shutdown is about. -/
structure ShutdownWorld extends World where
  maxSessionsCount : UInt32 := 0
  gameTime : Int
  shutdownIdleMode : Bool := false
  shutdownTimer : UInt32 := 0
  stopEvent : Bool := false

namespace ShutdownWorld

/-- `World()` at a time. -/
def init (gameTime : Int) : ShutdownWorld := { World.init with gameTime }

def getSessionCount (w : ShutdownWorld) : UInt32 := UInt32.ofNat w.sessions.keys.length

def addSession (w : ShutdownWorld) (s : WorldSession) : ShutdownWorld :=
  let w := { w with toWorld := w.toWorld.addSession s }
  { w with maxSessionsCount := max w.maxSessionsCount w.getSessionCount }

def removeSession (w : ShutdownWorld) (id : UInt32) : ShutdownWorld :=
  { w with toWorld := (w.toWorld.removeSession id).1 }

def shutdownServ (w : ShutdownWorld) (time : UInt32) (idle : Bool) : ShutdownWorld :=
  let w := { w with shutdownIdleMode := idle }
  if time = 0 then
    if !idle || w.getSessionCount = 0 then { w with stopEvent := true }
    else { w with shutdownTimer := 1 }
  else { w with shutdownTimer := time }

def shutdownCancel (w : ShutdownWorld) : ShutdownWorld :=
  if w.shutdownTimer = 0 then w else { w with shutdownIdleMode := false, shutdownTimer := 0 }

/-- The seconds since the last tick. -/
def elapsed (w : ShutdownWorld) (thisTime : Int) : UInt32 := UInt32.ofInt (thisTime - w.gameTime)

/-- `_UpdateGameTime()`, at a time. -/
def updateGameTime (w : ShutdownWorld) (thisTime : Int) : ShutdownWorld :=
  let elapsed := w.elapsed thisTime
  let w := { w with gameTime := thisTime }
  if 0 < w.shutdownTimer ∧ 0 < elapsed then
    if w.shutdownTimer ≤ elapsed then
      if !w.shutdownIdleMode || w.getSessionCount = 0 then { w with stopEvent := true }
      else { w with shutdownTimer := 1 }
    else { w with shutdownTimer := w.shutdownTimer - elapsed }
  else w

/-- `Update(diff)` at a time. -/
def update (w : ShutdownWorld) (game : UInt32 → Game) (diff : UInt32) (now : Int) :
    Except Fault (ShutdownWorld × List Output) := do
  let w := w.updateGameTime now
  let (world, outs) ← w.toWorld.update game diff now
  return ({ w with toWorld := world }, outs)

/-! ### Steps -/

/-- What happens to the server. -/
inductive Event where
  | addSession (s : WorldSession)
  | removeSession (id : UInt32)
  | update (game : UInt32 → Game) (diff : UInt32) (now : Int)
  | shutdownServ (time : UInt32) (idle : Bool)
  | shutdownCancel

def Step (w : ShutdownWorld) (event : Event) (w' : ShutdownWorld) : Prop :=
  match event with
  | .addSession s => w' = w.addSession s
  | .removeSession id => w' = w.removeSession id
  | .update game diff now => ∃ outs, w.update game diff now = .ok (w', outs)
  | .shutdownServ time idle => w' = w.shutdownServ time idle
  | .shutdownCancel => w' = w.shutdownCancel

end ShutdownWorld

/-! ### What the shutdown is for -/

/-- A shutdown that was ordered, and the seconds since then. -/
structure Countdown where
  time : Nat
  idle : Bool
  elapsed : Nat := 0

/-- The live sessions, what the clock said last, the shutdown that was ordered, and whether the
server is to stop. -/
structure Plan where
  live : Nat := 0
  clock : Int
  countdown : Option Countdown := none
  stopped : Bool := false

namespace Plan

/-- A shutdown is ordered: at once, if it is for now and waits for no session. -/
def order (p : Plan) (time : Nat) (idle : Bool) : Plan where
  live := p.live
  clock := p.clock
  countdown := some { time, idle }
  stopped := p.stopped || (time = 0 && (!idle || p.live = 0))

/-- The clock goes on: the server stops if the time is up, and an idle shutdown has no session to
wait for. -/
def pass (p : Plan) (now : Int) : Plan :=
  let seconds := (now - p.clock).toNat
  match p.countdown with
  | none => { p with clock := now }
  | some c =>
      let c := { c with elapsed := c.elapsed + seconds }
      { p with
        clock := now
        countdown := some c
        stopped := p.stopped ||
          (0 < seconds && c.time ≤ c.elapsed && (!c.idle || p.live = 0)) }

/-- How many sessions are gone. -/
def gone (w w' : World) : Nat :=
  (w.sessions.keys.filter fun id => (w.findSession id).isSome && (w'.findSession id).isNone).length

/-- What a step means: a session is added, is kicked or ends, and time passes. -/
def after (p : Plan) (w : ShutdownWorld) (event : ShutdownWorld.Event) (w' : ShutdownWorld) :
    Plan :=
  match event with
  | .addSession _ => { p with live := p.live + 1 }
  | .removeSession _ => { p with live := p.live - gone w.toWorld w'.toWorld }
  | .update _ _ now =>
      let p := p.pass now
      { p with live := p.live - gone w.toWorld w'.toWorld }
  | .shutdownServ time idle => p.order time.toNat idle
  | .shutdownCancel => { p with countdown := none }

end Plan

namespace ShutdownWorld

/-- The server counts the live sessions, and stops when it should. -/
structure Counts (p : Plan) (w : ShutdownWorld) : Prop where
  count : w.getSessionCount.toNat = p.live
  stop : w.stopEvent = p.stopped

/-- A step of the server, beside what it means. -/
def Watched (s : Plan × ShutdownWorld) (event : Event) (s' : Plan × ShutdownWorld) : Prop :=
  Step s.2 event s'.2 ∧ s'.1 = s.1.after s.2 event s'.2

theorem Step.watched {p : Plan} {w w' : ShutdownWorld} {event : Event} (step : Step w event w') :
    Watched (p, w) event (p.after w event w', w') :=
  ⟨step, rfl⟩

/-- No session is kicked, and none is added under an id that has an entry, or as the last of all
ids. The clock does not go back, nor on by 2^32 seconds at once. -/
def Steady (s : Plan × ShutdownWorld) : Event → Prop
  | .addSession session =>
      session.accountId ∉ s.2.sessions.keys ∧ s.2.sessions.keys.length + 1 < 2 ^ 32
  | .removeSession id => ∀ session, s.2.findSession id = some session → session.playerLoading = true
  | .update _ _ now => s.1.clock ≤ now ∧ now < s.1.clock + 0x100000000
  | _ => True

/-! ### The entries -/

/-- Every entry holds a session. -/
def Full (w : World) : Prop := ∀ id ∈ w.sessions.keys, w.findSession id ≠ none

section Entries

variable {w w' : World}

theorem mem_keys_of_findSession {id : UInt32} (found : w.findSession id ≠ none) :
    id ∈ w.sessions.keys :=
  Classical.not_not.mp fun absent => found (World.findSession_eq_none absent)

theorem Full.setSession (full : Full w) (id : UInt32) (session : WorldSession) :
    Full (w.setSession id (some session)) := by
  intro other mem
  have mem : other = id ∨ other ∈ w.sessions := (AList.mem_insert _).mp mem
  rw [World.findSession_setSession]
  split
  · exact Option.some_ne_none session
  · next ne => exact full other (AList.mem_keys.mp (mem.resolve_left ne))

theorem Full.eraseSession (full : Full w) (id : UInt32) : Full (w.eraseSession id) := by
  intro other mem
  obtain ⟨ne, mem⟩ := AList.mem_erase.mp (AList.mem_keys.mpr mem)
  rw [World.findSession_eraseSession, if_neg ne]
  exact full other (AList.mem_keys.mp mem)

/-- An update of the sessions leaves no entry without a session: those that end are erased. -/
theorem Full.updateSessions {game : UInt32 → Game} {diff : UInt32} {now : Int} {ids : List UInt32}
    {out : World × List Output} (full : Full w)
    (run : w.updateSessions game diff now ids = .ok out) : Full out.1 := by
  induction ids generalizing w out with
  | nil =>
      cases run
      exact full
  | cons id ids ih =>
      rw [World.updateSessions] at run
      split at run
      · exact ih full run
      · obtain ⟨⟨session, outs, keep⟩, -, run⟩ := bind_eq_ok.mp run
        obtain ⟨⟨rest, later⟩, others, ends⟩ := bind_eq_ok.mp run
        cases ends
        have written :
            Full (if keep then w.setSession id (some session) else w.eraseSession id) := by
          cases keep with
          | true => exact full.setSession id session
          | false => exact full.eraseSession id
        have rest_full : Full rest := ih written others
        exact rest_full

theorem Full.update {game : UInt32 → Game} {diff : UInt32} {now : Int} {out : World × List Output}
    (full : Full w) (run : w.update game diff now = .ok out) : Full out.1 := by
  unfold World.update at run
  dsimp only at run
  split at run
  · have cleared : Full { w with
        timer := (w.timer.tick diff.toNat).reset, kickedSessions := [] } := full
    exact cleared.updateSessions run
  · cases run
    exact full

/-- Where no entry is empty, the entries that are lost are the sessions that are gone. -/
theorem length_keys_add_gone (full : Full w) (full' : Full w')
    (old : ∀ id, w.findSession id = none → w'.findSession id = none) :
    w'.sessions.keys.length + Plan.gone w w' = w.sessions.keys.length := by
  have kept : w'.sessions.keys.Perm
      (w.sessions.keys.filter fun id => (w'.findSession id).isSome) := by
    refine (List.perm_ext_iff_of_nodup (AList.keys_nodup _)
      ((AList.keys_nodup _).filter _)).mpr fun id => ?_
    rw [List.mem_filter, Option.isSome_iff_ne_none]
    constructor
    · intro mem
      have there := full' id mem
      exact ⟨mem_keys_of_findSession fun none => there (old id none), there⟩
    · rintro ⟨-, there⟩
      exact mem_keys_of_findSession there
  have gone : Plan.gone w w' =
      (w.sessions.keys.filter fun id => !(w'.findSession id).isSome).length := by
    refine congrArg List.length (List.filter_congr fun id mem => ?_)
    rw [Option.isSome_iff_ne_none.mpr (full id mem), Bool.true_and, Option.not_isSome]
  rw [kept.length_eq, gone]
  exact (List.length_eq_length_filter_add _).symm

theorem gone_self (w : World) : Plan.gone w w = 0 := by
  rw [Plan.gone, List.length_eq_zero_iff, List.filter_eq_nil_iff]
  intro id _
  cases w.findSession id with
  | none => exact Bool.false_ne_true
  | some session => exact Bool.false_ne_true

theorem findSession_update {game : UInt32 → Game} {diff : UInt32} {now : Int}
    {out : World × List Output} (run : w.update game diff now = .ok out) (id : UInt32)
    (none : w.findSession id = none) : out.1.findSession id = Option.none := by
  rcases (World.update_spec run).2 with ⟨-, ticked⟩ | ⟨-, same⟩
  · have ticked := ticked id
    rw [none] at ticked
    cases h : out.1.findSession id with
    | none => rfl
    | some session =>
        rw [h] at ticked
        cases ticked
  · rw [same, none]

end Entries

/-! ### The timer -/

/-- The timer has what is left of the time, or one second in which an idle shutdown waits. -/
def Timed (countdown : Option Countdown) (w : ShutdownWorld) : Prop :=
  match countdown with
  | none => w.shutdownTimer = 0
  | some c => w.shutdownIdleMode = c.idle ∧
      if c.elapsed < c.time then c.elapsed + w.shutdownTimer.toNat = c.time
      else w.shutdownTimer = 1 ∧ c.idle = true

/-- The server and its plan agree: every entry of `m_sessions` is a live session. -/
structure Agrees (p : Plan) (w : ShutdownWorld) : Prop where
  full : Full w.toWorld
  few : w.sessions.keys.length < 2 ^ 32
  count : w.sessions.keys.length = p.live
  stop : w.stopEvent = p.stopped
  clock : w.gameTime = p.clock
  timed : p.stopped = false → Timed p.countdown w

variable {p : Plan} {w : ShutdownWorld}

theorem Agrees.getSessionCount (agrees : Agrees p w) : w.getSessionCount.toNat = p.live := by
  rw [ShutdownWorld.getSessionCount, UInt32.toNat_ofNat', Nat.mod_eq_of_lt agrees.few, agrees.count]

theorem Agrees.counts (agrees : Agrees p w) : Counts p w :=
  ⟨agrees.getSessionCount, agrees.stop⟩

/-- No session is counted exactly if none is live. -/
theorem Agrees.getSessionCount_eq_zero (agrees : Agrees p w) :
    w.getSessionCount = 0 ↔ p.live = 0 := by
  rw [← UInt32.toNat_inj, agrees.getSessionCount]
  rfl

/-- What the server and its plan test before they stop. -/
theorem Agrees.free (agrees : Agrees p w) (idle : Bool) :
    (!idle || decide (w.getSessionCount = 0)) = (!idle || decide (p.live = 0)) := by
  simp only [agrees.getSessionCount_eq_zero]

/-- An order to shut down is planned as it is given: at once for no time, unless it is to wait for
the sessions, and else from now on. -/
theorem Agrees.shutdownServ (agrees : Agrees p w) (time : UInt32) (idle : Bool) :
    Agrees (p.order time.toNat idle) (w.shutdownServ time idle) := by
  have free : (!idle || decide ({ w with shutdownIdleMode := idle }.getSessionCount = 0)) =
      (!idle || decide (p.live = 0)) := agrees.free idle
  unfold ShutdownWorld.shutdownServ Plan.order
  dsimp only
  rw [free]
  by_cases at_once : time = 0
  · have zero : time.toNat = 0 := congrArg UInt32.toNat at_once
    rw [if_pos at_once, decide_eq_true zero, Bool.true_and, zero]
    cases is_free : (!idle || decide (p.live = 0)) with
    | true =>
        rw [if_pos rfl, Bool.or_true]
        exact ⟨agrees.full, agrees.few, agrees.count, rfl, agrees.clock, nofun⟩
    | false =>
        obtain ⟨is_idle, -⟩ := Bool.or_eq_false_iff.mp is_free
        rw [if_neg Bool.false_ne_true, Bool.or_false]
        refine ⟨agrees.full, agrees.few, agrees.count, agrees.stop, agrees.clock,
          fun _ => ⟨rfl, ?_⟩⟩
        exact ⟨rfl, by simpa using is_idle⟩
  · have pos : time.toNat ≠ 0 := fun zero => at_once (UInt32.toNat_inj.mp zero)
    rw [if_neg at_once, decide_eq_false pos, Bool.false_and, Bool.or_false]
    refine ⟨agrees.full, agrees.few, agrees.count, agrees.stop, agrees.clock, fun _ => ⟨rfl, ?_⟩⟩
    have before : (0 : Nat) < time.toNat := Nat.pos_of_ne_zero pos
    simp only [before, if_true, Nat.zero_add]

theorem Agrees.shutdownCancel (agrees : Agrees p w) :
    Agrees { p with countdown := none } w.shutdownCancel := by
  unfold ShutdownWorld.shutdownCancel
  split
  · next unset =>
      exact ⟨agrees.full, agrees.few, agrees.count, agrees.stop, agrees.clock, fun _ => unset⟩
  · exact ⟨agrees.full, agrees.few, agrees.count, agrees.stop, agrees.clock, fun _ => rfl⟩

/-- The timer runs out in a tick exactly if the time is up. -/
theorem Timed.le_iff {c : Countdown} (timed : Timed (some c) w) {seconds : Nat}
    (pos : 0 < seconds) : w.shutdownTimer.toNat ≤ seconds ↔ c.time ≤ c.elapsed + seconds := by
  obtain ⟨-, left⟩ := timed
  split at left
  · omega
  · next up =>
      have one : w.shutdownTimer.toNat = 1 := congrArg UInt32.toNat left.1
      omega

theorem Timed.pos {c : Countdown} (timed : Timed (some c) w) : 0 < w.shutdownTimer := by
  obtain ⟨-, left⟩ := timed
  rw [UInt32.lt_iff_toNat_lt]
  change 0 < w.shutdownTimer.toNat
  split at left
  · omega
  · have one : w.shutdownTimer.toNat = 1 := congrArg UInt32.toNat left.1
    omega

/-- A server that is to stop stays so, the time is kept, and it changes no session. -/
theorem toWorld_updateGameTime (w : ShutdownWorld) (now : Int) :
    (w.updateGameTime now).toWorld = w.toWorld ∧ (w.updateGameTime now).gameTime = now ∧
      (w.stopEvent = true → (w.updateGameTime now).stopEvent = true) := by
  unfold ShutdownWorld.updateGameTime
  dsimp only
  split_ifs
  · exact ⟨rfl, rfl, fun _ => rfl⟩
  · exact ⟨rfl, rfl, id⟩
  · exact ⟨rfl, rfl, id⟩
  · exact ⟨rfl, rfl, id⟩

/-- While the clock does not go back, the server counts the seconds that have passed. -/
theorem Agrees.elapsed (agrees : Agrees p w) {now : Int} (onward : p.clock ≤ now)
    (soon : now < p.clock + 0x100000000) : (w.elapsed now).toNat = (now - p.clock).toNat := by
  have within : (now - p.clock) % 0x100000000 = now - p.clock :=
    Int.emod_eq_of_lt (by omega) (by omega)
  have small : (now - p.clock).toNat < 2 ^ 32 := by omega
  rw [ShutdownWorld.elapsed, agrees.clock]
  change (UInt32.ofNat ((now - p.clock) % 0x100000000).toNat).toNat = _
  rw [within]
  exact Nat.mod_eq_of_lt small

/-- In a tick in which the time is not up, the timer counts down. -/
theorem Agrees.updateGameTime_counting {c : Countdown} (agrees : Agrees p w) (now : Int)
    (timed : Timed (some c) w)
    (early : ¬w.shutdownTimer ≤ w.elapsed now) (pos : 0 < w.elapsed now) :
    Agrees { p with
        clock := now
        countdown := some { c with elapsed := c.elapsed + (w.elapsed now).toNat } }
      (w.updateGameTime now) := by
  have before : (w.elapsed now).toNat < w.shutdownTimer.toNat :=
    Nat.lt_of_not_le fun le => early (UInt32.le_iff_toNat_le.mpr le)
  have counted : (w.shutdownTimer - w.elapsed now).toNat =
      w.shutdownTimer.toNat - (w.elapsed now).toNat :=
    UInt32.toNat_sub_of_le _ _ (UInt32.le_iff_toNat_le.mpr (Nat.le_of_lt before))
  rw [ShutdownWorld.updateGameTime, if_pos ⟨timed.pos, pos⟩, if_neg early]
  refine ⟨agrees.full, agrees.few, agrees.count, agrees.stop, rfl, fun _ => ⟨timed.1, ?_⟩⟩
  have some_time : 0 < (w.elapsed now).toNat := UInt32.lt_iff_toNat_lt.mp pos
  obtain ⟨-, left⟩ := timed
  dsimp only
  split at left
  · rw [if_pos (by omega), counted]
    omega
  · have one : w.shutdownTimer.toNat = 1 := congrArg UInt32.toNat left.1
    omega

/-- In a tick in which the time is up, the server stops, or an idle shutdown waits. -/
theorem Agrees.updateGameTime_up {c : Countdown} (agrees : Agrees p w) (now : Int)
    (timed : Timed (some c) w) (going : p.stopped = false)
    (late : w.shutdownTimer ≤ w.elapsed now) (pos : 0 < w.elapsed now)
    (reached : c.time ≤ c.elapsed + (w.elapsed now).toNat) :
    Agrees { p with
        clock := now
        countdown := some { c with elapsed := c.elapsed + (w.elapsed now).toNat }
        stopped := !c.idle || p.live = 0 } (w.updateGameTime now) := by
  have free :
      (!w.shutdownIdleMode || decide ({ w with gameTime := now }.getSessionCount = 0)) =
        (!c.idle || decide (p.live = 0)) := by
    rw [timed.1]
    exact agrees.free c.idle
  rw [ShutdownWorld.updateGameTime, if_pos ⟨timed.pos, pos⟩, if_pos late]
  dsimp only
  rw [free]
  cases is_free : (!c.idle || decide (p.live = 0)) with
  | true =>
      rw [if_pos rfl]
      exact ⟨agrees.full, agrees.few, agrees.count, rfl, rfl, nofun⟩
  | false =>
      obtain ⟨is_idle, -⟩ := Bool.or_eq_false_iff.mp is_free
      rw [if_neg Bool.false_ne_true]
      refine ⟨agrees.full, agrees.few, agrees.count, agrees.stop.trans going, rfl,
        fun _ => ⟨timed.1, ?_⟩⟩
      rw [if_neg (Nat.not_lt.mpr reached)]
      exact ⟨rfl, by simpa using is_idle⟩

/-- A reading of the clock that has not gone back, nor on by too much, takes the timer of the
shutdown where the plan has it: the seconds that pass are the true ones, since the wrapped
difference is the difference. -/
theorem Agrees.updateGameTime (agrees : Agrees p w) {now : Int} (onward : p.clock ≤ now)
    (soon : now < p.clock + 0x100000000) : Agrees (p.pass now) (w.updateGameTime now) := by
  obtain ⟨same, read, stays⟩ := toWorld_updateGameTime w now
  unfold Plan.pass
  rw [← agrees.elapsed onward soon]
  dsimp only
  cases stopped : p.stopped with
  | true =>
      have stop := stays (agrees.stop.trans stopped)
      split
      · exact ⟨same ▸ agrees.full, same ▸ agrees.few, same ▸ agrees.count, stop, read, nofun⟩
      · exact ⟨same ▸ agrees.full, same ▸ agrees.few, same ▸ agrees.count, stop, read, nofun⟩
  | false =>
      have timed := agrees.timed stopped
      have stop := agrees.stop.trans stopped
      split
      · next none =>
          rw [none] at timed
          have unset : ¬0 < w.shutdownTimer := by
            rw [show w.shutdownTimer = 0 from timed]
            exact UInt32.lt_irrefl 0
          rw [ShutdownWorld.updateGameTime, if_neg fun both => unset both.1]
          exact ⟨agrees.full, agrees.few, agrees.count, stop, rfl, fun _ => none ▸ timed⟩
      · next c some =>
          rw [some] at timed
          by_cases pos : 0 < w.elapsed now
          · have pos' : 0 < (w.elapsed now).toNat := UInt32.lt_iff_toNat_lt.mp pos
            have up : w.shutdownTimer ≤ w.elapsed now ↔
                c.time ≤ c.elapsed + (w.elapsed now).toNat :=
              UInt32.le_iff_toNat_le.trans (timed.le_iff pos')
            by_cases late : w.shutdownTimer ≤ w.elapsed now
            · rw [decide_eq_true pos', decide_eq_true (up.mp late), Bool.true_and, Bool.true_and,
                Bool.false_or]
              exact agrees.updateGameTime_up now timed stopped late pos (up.mp late)
            · rw [decide_eq_false fun reached => late (up.mpr reached), Bool.and_false,
                Bool.false_and, Bool.or_false, ← stopped]
              exact agrees.updateGameTime_counting now timed late pos
          · have zero : (w.elapsed now).toNat = 0 :=
              Nat.eq_zero_of_not_pos fun some_time => pos (UInt32.lt_iff_toNat_lt.mpr some_time)
            rw [ShutdownWorld.updateGameTime, if_neg fun both => pos both.2, zero]
            exact ⟨agrees.full, agrees.few, agrees.count, stop, rfl, fun _ => timed⟩

/-! ### Runs -/

theorem Agrees.addSession (agrees : Agrees p w) {s : WorldSession}
    (new : s.accountId ∉ w.sessions.keys) (few : w.sessions.keys.length + 1 < 2 ^ 32) :
    Agrees { p with live := p.live + 1 } (w.addSession s) := by
  have keys : (w.addSession s).sessions.keys.length = w.sessions.keys.length + 1 := by
    change (w.sessions.insert s.accountId (some s)).keys.length = _
    rw [AList.keys_insert, List.length_cons, List.erase_of_not_mem new]
  refine ⟨agrees.full.setSession s.accountId s, ?_, ?_, agrees.stop, agrees.clock, agrees.timed⟩
  · rw [keys]
    exact few
  · rw [keys, agrees.count]

theorem removeSession_eq {id : UInt32}
    (loading : ∀ session, w.findSession id = some session → session.playerLoading = true) :
    w.removeSession id = w := by
  have same : (w.toWorld.removeSession id).1 = w.toWorld := by
    unfold World.removeSession
    split
    · next session found => rw [if_pos (loading session found)]
    · rfl
  rw [ShutdownWorld.removeSession, same]

/-- A tick takes the seconds that have passed since the one before off the plan and off the timer,
and both stop in the same tick. -/
theorem Agrees.update {w' : ShutdownWorld} {game : UInt32 → Game} {diff : UInt32} {now : Int}
    {outs : List Output} (agrees : Agrees p w) (onward : p.clock ≤ now)
    (soon : now < p.clock + 0x100000000) (run : w.update game diff now = .ok (w', outs)) :
    Agrees (p.after w (.update game diff now) w') w' := by
  obtain ⟨⟨world, outs'⟩, ticked, ends⟩ := bind_eq_ok.mp run
  cases ends
  have timed := agrees.updateGameTime onward soon
  obtain ⟨same, -⟩ := toWorld_updateGameTime w now
  rw [same] at ticked
  have full : Full world := agrees.full.update ticked
  have lost := length_keys_add_gone agrees.full full (findSession_update ticked)
  have count : w.sessions.keys.length = (p.pass now).live := by
    have := timed.count
    rwa [same] at this
  refine ⟨full, ?_, ?_, timed.stop, timed.clock, timed.timed⟩
  · have := agrees.few
    change world.sessions.keys.length < 2 ^ 32
    omega
  · change world.sessions.keys.length =
      (p.pass now).live - Plan.gone w.toWorld world
    omega

/-- The server agrees with the plan beside it. -/
def AgreesWith (s : Plan × ShutdownWorld) : Prop := Agrees s.1 s.2

/-- Every steady step leaves the plan and the server in agreement. -/
theorem agreesWith_step (s : Plan × ShutdownWorld) (event : Event) (s' : Plan × ShutdownWorld)
    (agrees : AgreesWith s) (step : guarded Steady Watched s event s') : AgreesWith s' := by
  obtain ⟨p, w⟩ := s
  obtain ⟨p', w'⟩ := s'
  obtain ⟨steady, run, after⟩ := step
  obtain rfl : p' = p.after w event w' := after
  change Agrees p w at agrees
  change Agrees (p.after w event w') w'
  cases event with
  | addSession session =>
      obtain rfl : w' = w.addSession session := run
      exact agrees.addSession steady.1 steady.2
  | removeSession id =>
      obtain rfl : w' = w := run.trans (removeSession_eq steady)
      rw [Plan.after, gone_self]
      exact agrees
  | update game diff now =>
      obtain ⟨outs, run⟩ := run
      exact agrees.update steady.1 steady.2 run
  | shutdownServ time idle =>
      obtain rfl : w' = w.shutdownServ time idle := run
      exact agrees.shutdownServ time idle
  | shutdownCancel =>
      obtain rfl : w' = w.shutdownCancel := run
      exact agrees.shutdownCancel

theorem agrees_init (gameTime : Int) : Agrees { clock := gameTime } (init gameTime) where
  full := nofun
  few := Nat.two_pow_pos 32
  count := rfl
  stop := rfl
  clock := rfl
  timed _ := rfl

/-- In every run in which no session is kicked, none takes the entry of another and the clock does
not go back, the session count is the number of the live sessions, and the server stops in the tick
in which the time of a shutdown is up by that clock, an idle one when no session lives. -/
theorem sessions_counted {events : List Event} {p : Plan} {w : ShutdownWorld} {gameTime : Int}
    (run : Run (guarded Steady Watched) ({ clock := gameTime }, init gameTime) events (p, w)) :
    Counts p w := by
  have agrees : AgreesWith (p, w) := run.invariant agreesWith_step (agrees_init gameTime)
  exact agrees.counts

def noGame : UInt32 → Game := fun _ =>
  { map := { nxzFile := none }, checksum := 0, playerExtent := 1 }

/-- A session joins, an idle shutdown waits for it, it is silent for too long, and the next second
the server stops. -/
theorem sessions_counted_idle : ∃ p w,
    Run (guarded Steady Watched) ({ clock := 0 }, init 0) [.addSession (.create 1),
      .shutdownServ 1 true, .update noGame 30001 1, .update noGame 30001 2] (p, w) ∧
      w.stopEvent = true ∧ Counts p w := by
  obtain ⟨w₁, w₂, w₃, w₄, add, order, first, second, stop⟩ : ∃ w₁ w₂ w₃ w₄,
      Step (init 0) (.addSession (.create 1)) w₁ ∧ Step w₁ (.shutdownServ 1 true) w₂ ∧
        Step w₂ (.update noGame 30001 1) w₃ ∧ Step w₃ (.update noGame 30001 2) w₄ ∧
        w₄.stopEvent = true :=
    ⟨_, _, _, _, rfl, rfl, ⟨_, rfl⟩, ⟨_, rfl⟩, rfl⟩
  have run : Run (guarded Steady Watched) ({ clock := 0 }, init 0) [.addSession (.create 1),
      .shutdownServ 1 true, .update noGame 30001 1, .update noGame 30001 2] (_, w₄) :=
    .cons ⟨⟨nofun, by decide⟩, add.watched⟩ (.cons ⟨trivial, order.watched⟩
      (.cons ⟨(by decide : (0 : Int) ≤ 1 ∧ 1 < (0 : Int) + 0x100000000), first.watched⟩
        (.cons ⟨(by decide : (1 : Int) ≤ 2 ∧ 2 < (1 : Int) + 0x100000000), second.watched⟩
          (.nil _))))
  exact ⟨_, _, run, stop, sessions_counted run⟩

/-- A session joins and is kicked, and an idle shutdown waits for it for ever. -/
theorem session_miscounted :
    ¬∀ events p w, Run Watched ({ clock := 0 }, init 0) events (p, w) → Counts p w := by
  intro counts
  obtain ⟨w₁, w₂, w₃, add, kick, order, gone, count⟩ : ∃ w₁ w₂ w₃,
      Step (init 0) (.addSession (.create 1)) w₁ ∧ Step w₁ (.removeSession 1) w₂ ∧
        Step w₂ (.shutdownServ 0 true) w₃ ∧ Plan.gone w₁.toWorld w₂.toWorld = 1 ∧
        w₃.getSessionCount = 1 :=
    ⟨_, _, _, rfl, rfl, rfl, rfl, rfl⟩
  have run : Run Watched ({ clock := 0 }, init 0) [.addSession (.create 1), .removeSession 1,
      .shutdownServ 0 true] (_, w₃) :=
    .cons add.watched (.cons kick.watched (.cons order.watched (.nil _)))
  have same := (counts _ _ _ run).count
  have live : (((({ clock := 0 } : Plan).after (init 0) (.addSession (.create 1)) w₁).after w₁
      (.removeSession 1) w₂).after w₂ (.shutdownServ 0 true) w₃).live = 1 - 1 :=
    congrArg (1 - ·) gone
  rw [live, count] at same
  exact absurd same (by decide)

end ShutdownWorld

end NoxServer
