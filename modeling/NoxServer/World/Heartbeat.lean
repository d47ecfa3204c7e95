import NoxServer.Library.Backlog
import NoxServer.World.World

/-!
The time the world is handed (`WorldRunnable::run`, `World::Update`).

An iteration reads the clock of 32 bits, and `World::Update` hands the difference to the last
reading on to the objects and the sessions when their timers of 30 ms have passed. An iteration that
does not pass them hands nothing on, and the next one that does hands on only its own difference;
and the difference over a wrap of the clock is one millisecond short. So what is handed on and the
true time differ by exactly these times (`keeps_time_iff`).

`ObjectAccessor::Update` is handed what `objmgr.Update` is. The timers of the weathers and the
auctions are never asked.
-/

namespace NoxServer

open Session

/-- The heartbeat: `realPrevTime`, `m_timers[WUPDATE_OBJECTS]`, the world with its sessions, and
what the diffs handed on so far to `objmgr.Update` and to the session of each id add up to. -/
structure Heartbeat where
  realPrevTime : UInt32
  objects : IntervalTimer
  world : World
  objmgrTime : Nat := 0
  sessionTime : UInt32 → Nat := fun _ => 0

/-- What an iteration reads: `getMSTime()`, `time(NULL)`, and the game by session. -/
structure Moment where
  realCurrTime : UInt32
  now : Int
  game : UInt32 → Game

namespace Heartbeat

def diffOf (realPrevTime realCurrTime : UInt32) : UInt32 :=
  if realPrevTime > realCurrTime then 0xFFFFFFFF - (realPrevTime - realCurrTime)
  else realCurrTime - realPrevTime

def update (h : Heartbeat) (m : Moment) (diff : UInt32) : Except Fault Heartbeat := do
  let objects := h.objects.tick diff.toNat
  let (world, _) ← h.world.update m.game diff m.now
  let sessionTime := fun id =>
    if h.world.Passes diff ∧ (h.world.findSession id).isSome then h.sessionTime id + diff.toNat
    else h.sessionTime id
  if objects.passed then
    return { h with
      objects := objects.reset, world, sessionTime, objmgrTime := h.objmgrTime + diff.toNat }
  else return { h with objects, world, sessionTime }

/-- One iteration of `WorldRunnable::run`. -/
def iterate (h : Heartbeat) (m : Moment) : Except Fault Heartbeat := do
  let h' ← h.update m (diffOf h.realPrevTime m.realCurrTime)
  return { h' with realPrevTime := m.realCurrTime }

/-- The heartbeat before the first iteration. -/
def start (realPrevTime : UInt32) (world : World) : Heartbeat :=
  { realPrevTime, objects := { interval := 30 }, world }

/-- The runs of `n` iterations by the true time of each clock reading, in milliseconds. Between two
iterations anything happens to the world but to its timers; the sessions of `ids` are there in each
iteration. -/
inductive Beats (time : Nat → Nat) (ids : Set UInt32) : Nat → Heartbeat → Prop
  | start (world : World) (fresh : world.timer = { interval := 30 }) :
      Beats time ids 0 (start (UInt32.ofNat (time 0)) world)
  | beat {n : Nat} {h h' : Heartbeat} (world : World) (m : Moment) (before : Beats time ids n h)
      (timer : world.timer = h.world.timer)
      (present : ∀ id ∈ ids, (world.findSession id).isSome = true)
      (reading : m.realCurrTime = UInt32.ofNat (time (n + 1)))
      (run : { h with world }.iterate m = .ok h') : Beats time ids (n + 1) h'

/-! ### The difference of two readings -/

/-- The wraps of the clock from reading `n` to the next. -/
def wraps (time : Nat → Nat) (n : Nat) : Nat := time (n + 1) / 2 ^ 32 - time n / 2 ^ 32

/-- What iteration `n` makes of its gap. -/
def clocked (time : Nat → Nat) (n : Nat) : Nat := time (n + 1) - time n - wraps time n

variable {time : Nat → Nat} {n : Nat}

/-- The difference of two readings is the time between them, less a millisecond if the clock has
wrapped. -/
theorem diffOf_toNat (forward : time n ≤ time (n + 1)) (gap : time (n + 1) - time n < 2 ^ 31) :
    (diffOf (UInt32.ofNat (time n)) (UInt32.ofNat (time (n + 1)))).toNat = clocked time n := by
  have prev : (UInt32.ofNat (time n)).toNat = time n % 2 ^ 32 := UInt32.toNat_ofNat'
  have curr : (UInt32.ofNat (time (n + 1))).toNat = time (n + 1) % 2 ^ 32 := UInt32.toNat_ofNat'
  rw [diffOf, clocked, wraps]
  split
  · next wrapped =>
      rw [gt_iff_lt, UInt32.lt_iff_toNat_lt, prev, curr] at wrapped
      have back : UInt32.ofNat (time (n + 1)) ≤ UInt32.ofNat (time n) := by
        rw [UInt32.le_iff_toNat_le, prev, curr]
        omega
      have inside : UInt32.ofNat (time n) - UInt32.ofNat (time (n + 1)) ≤ 0xFFFFFFFF := by
        rw [UInt32.le_iff_toNat_le]
        exact Nat.le_of_lt_succ (UInt32.toNat_lt _)
      have full : UInt32.toNat 0xFFFFFFFF = 0xFFFFFFFF := rfl
      rw [UInt32.toNat_sub_of_le _ _ inside, UInt32.toNat_sub_of_le _ _ back, prev, curr, full]
      omega
  · next straight =>
      rw [gt_iff_lt, UInt32.lt_iff_toNat_lt, prev, curr] at straight
      have ahead : UInt32.ofNat (time n) ≤ UInt32.ofNat (time (n + 1)) := by
        rw [UInt32.le_iff_toNat_le, prev, curr]
        omega
      rw [UInt32.toNat_sub_of_le _ _ ahead, prev, curr]
      omega

/-! ### The timers -/

/-- A timer of 30 ms that holds the backlog of the iterations. -/
def timerAt (time : Nat → Nat) (n : Nat) : IntervalTimer :=
  { interval := 30, current := Backlog.backlog 30 (clocked time) n }

/-- Since each iteration before `n`, fewer multiples of 30 ms are passed than iterations. -/
def Idle (time : Nat → Nat) (n : Nat) : Prop := Backlog.Idle 30 (clocked time) n

instance (time : Nat → Nat) (n : Nat) : Decidable (Idle time n) :=
  inferInstanceAs (Decidable (Backlog.Idle 30 (clocked time) n))

theorem tick_timerAt (diff : Nat) :
    (timerAt time n).tick diff =
      { interval := 30, current := (Backlog.backlog 30 (clocked time) n + diff : Nat) } := by
  have kept : ¬(Backlog.backlog 30 (clocked time) n : Int) + diff < 0 := by omega
  rw [timerAt, IntervalTimer.tick, if_pos (Int.natCast_nonneg _), IntervalTimer.update, if_neg kept]
  rfl

theorem passed_iff :
    ((timerAt time n).tick (clocked time n)).passed = true ↔ ¬Idle time n := by
  rw [tick_timerAt, IntervalTimer.passed, decide_eq_true_iff, Idle,
    Backlog.idle_iff (by decide), not_not]
  exact Int.ofNat_le

theorem tick_of_idle (idle : Idle time n) :
    (timerAt time n).tick (clocked time n) = timerAt time (n + 1) := by
  rw [tick_timerAt, timerAt, Backlog.backlog_of_idle (by decide) idle]

theorem reset_of_served (served : ¬Idle time n) :
    ((timerAt time n).tick (clocked time n)).reset = timerAt time (n + 1) := by
  obtain ⟨full, left⟩ := Backlog.backlog_of_served (by decide) served
  have due : ((Backlog.backlog 30 (clocked time) n + clocked time n : Nat) : Int) ≥ 30 :=
    Int.ofNat_le.mpr full
  rw [tick_timerAt, IntervalTimer.reset]
  dsimp only
  rw [if_pos due, timerAt, left]
  congr
  omega

/-! ### One iteration -/

theorem timer_updateSessions {w : World} {game : UInt32 → Game} {diff : UInt32} {now : Int}
    {ids : List UInt32} {out : World × List Output}
    (run : w.updateSessions game diff now ids = .ok out) : out.1.timer = w.timer := by
  induction ids generalizing w out with
  | nil =>
      cases run
      rfl
  | cons id ids ih =>
      rw [World.updateSessions] at run
      split at run
      · exact ih run
      · obtain ⟨⟨session, outs, keep⟩, _, run⟩ := bind_eq_ok.mp run
        obtain ⟨rest, later, ends⟩ := bind_eq_ok.mp run
        cases ends
        refine (ih later).trans ?_
        cases keep with
        | true => rfl
        | false => rfl

theorem timer_update {w : World} {game : UInt32 → Game} {diff : UInt32} {now : Int}
    {out : World × List Output} (run : w.update game diff now = .ok out) :
    out.1.timer = if w.Passes diff then (w.timer.tick diff.toNat).reset
      else w.timer.tick diff.toNat := by
  unfold World.update at run
  dsimp only at run
  split at run
  · next passed => exact (timer_updateSessions run).trans (if_pos passed).symm
  · next early =>
      cases run
      exact (if_neg early).symm

/-- What an iteration leaves, by whether the timers of the objects and the sessions pass. -/
structure Iterated (h : Heartbeat) (m : Moment) (diff : Nat) (first second : Bool)
    (h' : Heartbeat) : Prop where
  prev : h'.realPrevTime = m.realCurrTime
  objects : h'.objects = if first then (h.objects.tick diff).reset else h.objects.tick diff
  sessions : h'.world.timer =
    if second then (h.world.timer.tick diff).reset else h.world.timer.tick diff
  objmgr : h'.objmgrTime = h.objmgrTime + if first then diff else 0
  session : ∀ id, (h.world.findSession id).isSome = true →
    h'.sessionTime id = h.sessionTime id + if second then diff else 0

/-- What an iteration does, with the difference of the readings as a number: the timers tick, and
what is handed on is what they have passed. -/
theorem iterated {h h' : Heartbeat} {m : Moment} {diff : UInt32}
    (same : diffOf h.realPrevTime m.realCurrTime = diff) (run : h.iterate m = .ok h') :
    Iterated h m diff.toNat (h.objects.tick diff.toNat).passed
      (h.world.timer.tick diff.toNat).passed h' := by
  rw [iterate, same] at run
  obtain ⟨h'', updated, ends⟩ := bind_eq_ok.mp run
  cases ends
  obtain ⟨⟨world, outs⟩, worldRun, rest⟩ := bind_eq_ok.mp updated
  dsimp only at rest
  have timer := timer_update worldRun
  have session : ∀ id, (h.world.findSession id).isSome = true →
      (if h.world.Passes diff ∧ (h.world.findSession id).isSome then h.sessionTime id + diff.toNat
        else h.sessionTime id) =
      h.sessionTime id + if (h.world.timer.tick diff.toNat).passed then diff.toNat else 0 := by
    intro id present
    by_cases passes : (h.world.timer.tick diff.toNat).passed = true
    · rw [if_pos ⟨passes, present⟩, if_pos passes]
    · rw [if_neg fun both => passes both.1, if_neg passes, Nat.add_zero]
  by_cases passed : (h.objects.tick diff.toNat).passed = true
  · rw [if_pos passed] at rest
    cases rest
    rw [passed]
    exact ⟨rfl, rfl, timer, rfl, session⟩
  · rw [if_neg passed] at rest
    cases rest
    rw [Bool.eq_false_iff.mpr passed]
    exact ⟨rfl, rfl, timer, rfl, session⟩

/-! ### The time that is lost -/

/-- What iteration `n` loses: its gap where the timers do not pass, and else what the clock misses
of it over a wrap. -/
def lostAt (time : Nat → Nat) (n : Nat) : Nat :=
  if Idle time n then time (n + 1) - time n else wraps time n

/-- What the first `n` iterations lose. -/
def lost (time : Nat → Nat) (n : Nat) : Nat := ∑ i ∈ Finset.range n, lostAt time i

/-- Where a run stands after `n` iterations. -/
structure At (time : Nat → Nat) (ids : Set UInt32) (n : Nat) (h : Heartbeat) : Prop where
  prev : h.realPrevTime = UInt32.ofNat (time n)
  objects : h.objects = timerAt time n
  sessions : h.world.timer = timerAt time n
  objmgr : h.objmgrTime + lost time n = time n - time 0
  session : ∀ id ∈ ids, h.sessionTime id + lost time n = time n - time 0

variable {ids : Set UInt32} {h h' : Heartbeat}

/-- What an iteration hands on and what it loses are its gap. -/
theorem handed_add_lost {handed : Nat} (start : time 0 ≤ time n) (forward : time n ≤ time (n + 1))
    (sum : handed + lost time n = time n - time 0) :
    handed + (if ¬Idle time n then clocked time n else 0) + lost time (n + 1) =
      time (n + 1) - time 0 := by
  have more : lost time (n + 1) = lost time n + lostAt time n := Finset.sum_range_succ _ n
  have few : wraps time n ≤ time (n + 1) - time n := by
    rw [wraps]
    omega
  rw [more, lostAt]
  by_cases idle : Idle time n
  · rw [if_pos idle, if_neg (not_not_intro idle)]
    omega
  · rw [if_neg idle, if_pos idle, clocked]
    omega

/-- An iteration of the loop takes the timers from what the readings say after `n` of them to what
they say after one more; anything may have been done to the world before it but to its timers. -/
theorem At.next {world : World} {m : Moment} (so : At time ids n h) (start : time 0 ≤ time n)
    (forward : time n ≤ time (n + 1)) (gap : time (n + 1) - time n < 2 ^ 31)
    (timer : world.timer = h.world.timer)
    (present : ∀ id ∈ ids, (world.findSession id).isSome = true)
    (reading : m.realCurrTime = UInt32.ofNat (time (n + 1)))
    (run : { h with world }.iterate m = .ok h') : At time ids (n + 1) h' := by
  have diff : diffOf h.realPrevTime m.realCurrTime =
      diffOf (UInt32.ofNat (time n)) (UInt32.ofNat (time (n + 1))) := by rw [so.prev, reading]
  have step := iterated (h := { h with world }) diff run
  rw [diffOf_toNat forward gap] at step
  dsimp only at step
  rw [so.objects, timer, so.sessions] at step
  have objects := step.objects
  have sessions := step.sessions
  dsimp only at sessions
  rw [timer, so.sessions] at sessions
  constructor
  · exact step.prev.trans reading
  · rw [objects]
    by_cases idle : Idle time n
    · rw [if_neg fun passed => passed_iff.mp passed idle, tick_of_idle idle]
    · rw [if_pos (passed_iff.mpr idle), reset_of_served idle]
  · rw [sessions]
    by_cases idle : Idle time n
    · rw [if_neg fun passed => passed_iff.mp passed idle, tick_of_idle idle]
    · rw [if_pos (passed_iff.mpr idle), reset_of_served idle]
  · rw [step.objmgr]
    simp only [passed_iff]
    exact handed_add_lost start forward so.objmgr
  · intro id mem
    rw [step.session id (present id mem)]
    simp only [passed_iff]
    exact handed_add_lost start forward (so.session id mem)

theorem Beats.at (forward : ∀ n, time n ≤ time (n + 1))
    (gap : ∀ n, time (n + 1) - time n < 2 ^ 31) (run : Beats time ids n h) : At time ids n h := by
  induction run with
  | start world fresh =>
      constructor
      · rfl
      · rfl
      · exact fresh
      · rw [Nat.sub_self]
        rfl
      · intro id _
        rw [Nat.sub_self]
        rfl
  | @beat n _ _ world m before timer present reading run ih =>
      have start : time 0 ≤ time n := monotone_nat_of_le_succ forward (Nat.zero_le n)
      exact ih.next start (forward n) (gap n) timer present reading run

/-- Two times differ by less than an interval. -/
def Close (a b : Nat) : Prop := a < b + 30 ∧ b < a + 30

/-- What is handed on in all is close to the true time. -/
structure Keeps (time : Nat → Nat) (ids : Set UInt32) (n : Nat) (h : Heartbeat) : Prop where
  objmgr : Close h.objmgrTime (time n - time 0)
  session : ∀ id ∈ ids, Close (h.sessionTime id) (time n - time 0)

theorem close_iff {handed away total : Nat} (sum : handed + away = total) :
    Close handed total ↔ away < 30 := by
  rw [Close]
  omega

/-- **The time handed on is the true one exactly up to what is lost**: the gaps of the iterations in
which the 30 ms are not reached, and a millisecond for each wrap of the clock in the others. What is
lost is said of the readings of the clock alone, and anything may be done to the world between the
iterations but to its timers. -/
theorem keeps_time_iff (time : Nat → Nat) (forward : ∀ n, time n ≤ time (n + 1))
    (gap : ∀ n, time (n + 1) - time n < 2 ^ 31) (ids : Set UInt32) (n : Nat) (h : Heartbeat)
    (run : Beats time ids n h) : Keeps time ids n h ↔ lost time n < 30 := by
  have so := run.at forward gap
  constructor
  · intro keeps
    exact (close_iff so.objmgr).mp keeps.objmgr
  · intro few
    constructor
    · exact (close_iff so.objmgr).mpr few
    · intro id mem
      exact (close_iff (so.session id mem)).mpr few

/-- A world with one session before iteration `n`, and a reading of the clock. -/
def oneSession (time : Nat → Nat) (n : Nat) : World :=
  { World.init.addSession (WorldSession.create 1) with timer := timerAt time n }

def readAt (realCurrTime : UInt32) : Moment where
  realCurrTime := realCurrTime
  now := 0
  game _ := { map := { nxzFile := none }, checksum := 0, playerExtent := 1 }

theorem present_oneSession (time : Nat → Nat) (n : Nat) : ∀ id ∈ ({1} : Set UInt32),
    ((oneSession time n).findSession id).isSome = true := by
  intro id one
  cases one
  rfl

/-- An iteration of 40 ms. -/
theorem keeps_time_iff_forty :
    ∃ h, Beats (40 * ·) {1} 1 h ∧ Keeps (40 * ·) {1} 1 h := by
  obtain ⟨h, run⟩ : ∃ h, Beats (40 * ·) {1} 1 h :=
    ⟨_, .beat (oneSession (40 * ·) 0) (readAt 40) (.start (oneSession (40 * ·) 0) rfl)
      rfl (present_oneSession _ 0) rfl rfl⟩
  have forward : ∀ n : Nat, 40 * n ≤ 40 * (n + 1) := by
    intro n
    omega
  have gap : ∀ n : Nat, 40 * (n + 1) - 40 * n < 2 ^ 31 := by
    intro n
    omega
  exact ⟨h, run, (keeps_time_iff (40 * ·) forward gap {1} 1 h run).mpr (by decide)⟩

/-- The readings 0, 29, 58 and then 59. -/
def readings (n : Nat) : Nat := min (29 * n) 59

theorem readings_forward (n : Nat) : readings n ≤ readings (n + 1) := by
  unfold readings
  omega

theorem readings_gap (n : Nat) : readings (n + 1) - readings n < 2 ^ 31 := by
  unfold readings
  omega

/-- Of these readings only the second gap is handed on. -/
theorem gaps_lost :
    ∃ h, Beats readings {1} 3 h ∧ h.objmgrTime = 29 ∧ h.sessionTime 1 = 29 ∧
      ¬Keeps readings {1} 3 h := by
  obtain ⟨h, run⟩ : ∃ h, Beats readings {1} 3 h :=
    have first : Beats readings {1} 1 _ :=
      .beat (oneSession readings 0) (readAt 29)
        (.start (oneSession readings 0) rfl) rfl (present_oneSession _ 0) rfl rfl
    have second : Beats readings {1} 2 _ :=
      .beat (oneSession readings 1) (readAt 58) first
        (first.at readings_forward readings_gap).sessions.symm (present_oneSession _ 1) rfl rfl
    ⟨_, .beat (oneSession readings 2) (readAt 59) second
      (second.at readings_forward readings_gap).sessions.symm (present_oneSession _ 2) rfl rfl⟩
  have so := run.at readings_forward readings_gap
  have away : lost readings 3 = 30 := by decide
  have total : readings 3 - readings 0 = 59 := rfl
  have objmgr := so.objmgr
  have session := so.session 1 rfl
  rw [away, total] at objmgr session
  refine ⟨h, run, by omega, by omega, ?_⟩
  intro keeps
  have close := (close_iff so.objmgr).mp keeps.objmgr
  rw [away] at close
  exact Nat.lt_irrefl 30 close

end Heartbeat

end NoxServer
