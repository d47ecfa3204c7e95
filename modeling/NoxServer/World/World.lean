import Mathlib.Data.List.AList
import Mathlib.Data.List.Sort
import NoxServer.Session.Update

/-!
`World` (`World.h`, `World.cpp`): the sessions by account id, the sessions that were
kicked, the ids that can be given out, and the tick that updates the sessions.

A session belongs to one entry of `m_sessions` from `AddSession` on, so an entry holds the
session and not a pointer to it; the entry of a kicked session stays, and holds `none`. The
map is unordered in the source; here a tick goes through the entries in the order of the
list.
-/

namespace NoxServer

open Session

structure IntervalTimer where
  interval : Int := 0
  current : Int := 0
  deriving DecidableEq

namespace IntervalTimer

def update (t : IntervalTimer) (diff : Int) : IntervalTimer :=
  { t with current := if t.current + diff < 0 then 0 else t.current + diff }

def passed (t : IntervalTimer) : Bool := t.current ≥ t.interval

def reset (t : IntervalTimer) : IntervalTimer :=
  if t.current ≥ t.interval then { t with current := t.current - t.interval } else t

/-- What `World::Update` does with each of its timers. -/
def tick (t : IntervalTimer) (diff : Int) : IntervalTimer :=
  if t.current ≥ 0 then t.update diff else { t with current := 0 }

end IntervalTimer

/-- `World`, as far as sessions are concerned: `timer` is `m_timers[WUPDATE_SESSIONS]`, and
`freeids` are in the order of the set. -/
structure World where
  timer : IntervalTimer
  sessions : AList fun _ : UInt32 => Option WorldSession
  kickedSessions : List WorldSession
  freeids : List UInt8

namespace World

/-- `World()`, with the interval `SetInitialWorldSettings()` sets. -/
def init : World where
  timer := { interval := 30 }
  sessions := ∅
  kickedSessions := []
  freeids := (List.range' 1 31).map UInt8.ofNat

def findSession (w : World) (id : UInt32) : Option WorldSession :=
  match w.sessions.lookup id with
  | some session => session
  | none => none

/-- `m_sessions[id] = session`, and what is written through the pointer in the entry. -/
def setSession (w : World) (id : UInt32) (session : Option WorldSession) : World :=
  { w with sessions := w.sessions.insert id session }

/-- `m_sessions.erase(id)`. -/
def eraseSession (w : World) (id : UInt32) : World :=
  { w with sessions := w.sessions.erase id }

def removeSession (w : World) (id : UInt32) : World × Bool :=
  match w.findSession id with
  | some session =>
      if session.playerLoading then (w, false)
      else
        ({ w.setSession id none with
            kickedSessions := session.kickPlayer :: w.kickedSessions }, true)
  | none => (w, true)

def addSession (w : World) (s : WorldSession) : World := w.setSession s.accountId (some s)

def requestFreeId (w : World) : UInt8 × World :=
  match w.freeids with
  | [] => (0xFF, w)
  | id :: ids => (id, { w with freeids := ids })

/-- `ReturnFreeId(id)`. Nothing calls it. -/
def returnFreeId (w : World) (id : UInt8) : World :=
  if id ∈ w.freeids then w
  else { w with freeids := w.freeids.orderedInsert (· ≤ ·) id }

/-- The loop of `Update(diff)` over the sessions. -/
def updateSessions (w : World) (game : UInt32 → Game) (diff : UInt32) (now : Int) :
    List UInt32 → Except Fault (World × List Output)
  | [] => .ok (w, [])
  | id :: ids =>
      match w.findSession id with
      | none => updateSessions w game diff now ids
      | some session => do
          let (session, outs, keep) ← session.update (game id) diff now
          let w := if keep then w.setSession id (some session) else w.eraseSession id
          let (w, later) ← updateSessions w game diff now ids
          return (w, outs ++ later)

/-- `Update(diff)` at time `now`. -/
def update (w : World) (game : UInt32 → Game) (diff : UInt32) (now : Int) :
    Except Fault (World × List Output) :=
  let w := { w with timer := w.timer.tick diff.toNat }
  if w.timer.passed then
    let w := { w with timer := w.timer.reset, kickedSessions := [] }
    w.updateSessions game diff now w.sessions.keys
  else .ok (w, [])

/-! ### Sessions after a step -/

@[simp] theorem findSession_setSession (w : World) (id id' : UInt32)
    (session : Option WorldSession) :
    (w.setSession id session).findSession id' =
      if id' = id then session else w.findSession id' := by
  unfold findSession setSession
  by_cases same : id' = id
  · subst same
    rw [AList.lookup_insert, if_pos rfl]
  · rw [AList.lookup_insert_ne same, if_neg same]

@[simp] theorem findSession_eraseSession (w : World) (id id' : UInt32) :
    (w.eraseSession id).findSession id' = if id' = id then none else w.findSession id' := by
  unfold findSession eraseSession
  by_cases same : id' = id
  · subst same
    rw [AList.lookup_erase, if_pos rfl]
  · rw [AList.lookup_erase_ne same, if_neg same]

theorem findSession_eq_none {w : World} {id : UInt32} (absent : id ∉ w.sessions.keys) :
    w.findSession id = none := by
  unfold findSession
  rw [AList.lookup_eq_none.mpr absent]

theorem findSession_addSession (w : World) (s : WorldSession) (id : UInt32) :
    (w.addSession s).findSession id = if id = s.accountId then some s else w.findSession id :=
  findSession_setSession w s.accountId id (some s)

/-- A removal takes a session that is not loading out of its entry. -/
theorem findSession_removeSession (w : World) (id id' : UInt32) :
    (w.removeSession id).1.findSession id' =
      if id' = id then (w.findSession id).filter (·.playerLoading) else w.findSession id' := by
  unfold removeSession
  cases found : w.findSession id with
  | none =>
      dsimp only
      split
      · next same => rw [same, found, Option.filter_none]
      · rfl
  | some session =>
      dsimp only
      split
      · next loading =>
          split
          · next same => rw [same, found, Option.filter_some, if_pos loading]
          · rfl
      · next loading =>
          rw [Option.filter_some, if_neg loading]
          exact findSession_setSession w id id' none

theorem freeids_removeSession (w : World) (id : UInt32) :
    (w.removeSession id).1.freeids = w.freeids := by
  unfold removeSession
  split
  · split
    · rfl
    · rfl
  · rfl

theorem findSession_requestFreeId (w : World) (id : UInt32) :
    w.requestFreeId.2.findSession id = w.findSession id := by
  unfold requestFreeId
  split
  · rfl
  · rfl

/-- What a tick makes of an entry: the session updated, or none where it has ended. -/
inductive Ticked (game : Game) (diff : UInt32) (now : Int) :
    Option WorldSession → Option WorldSession → Prop
  | absent : Ticked game diff now none none
  | kept {s s' : WorldSession} {outs : List Output} :
      s.update game diff now = .ok (s', outs, true) → Ticked game diff now (some s) (some s')
  | ended {s s' : WorldSession} {outs : List Output} :
      s.update game diff now = .ok (s', outs, false) → Ticked game diff now (some s) none

/-- The loop updates each session of its list once. -/
theorem updateSessions_spec {w : World} {game : UInt32 → Game} {diff : UInt32} {now : Int}
    {ids : List UInt32} {out : World × List Output} (nodup : ids.Nodup)
    (run : w.updateSessions game diff now ids = .ok out) :
    out.1.freeids = w.freeids ∧
      ∀ id, (id ∈ ids → Ticked (game id) diff now (w.findSession id) (out.1.findSession id)) ∧
        (id ∉ ids → out.1.findSession id = w.findSession id) := by
  induction ids generalizing w out with
  | nil =>
      cases run
      exact ⟨rfl, fun id => ⟨nofun, fun _ => rfl⟩⟩
  | cons first ids ih =>
      obtain ⟨fresh, nodup⟩ := List.nodup_cons.mp nodup
      rw [updateSessions] at run
      cases found : w.findSession first with
      | none =>
          rw [found] at run
          obtain ⟨free, each⟩ := ih nodup run
          refine ⟨free, fun id => ⟨fun mem => ?_, fun absent => ?_⟩⟩
          · rcases List.mem_cons.mp mem with rfl | mem
            · rw [(each id).2 fresh, found]
              exact .absent
            · exact (each id).1 mem
          · exact (each id).2 fun mem => absent (List.mem_cons_of_mem _ mem)
      | some session =>
          rw [found] at run
          obtain ⟨⟨session', outs, keep⟩, updated, run⟩ := bind_eq_ok.mp run
          obtain ⟨rest, later, ends⟩ := bind_eq_ok.mp run
          cases ends
          obtain ⟨free, each⟩ := ih nodup later
          -- the entry the first update writes, and the others
          have here : ∀ id, (if keep then w.setSession first (some session')
              else w.eraseSession first).findSession id =
              if id = first then if keep then some session' else none
              else w.findSession id := by
            intro id
            cases keep with
            | true => exact findSession_setSession w first id (some session')
            | false => exact findSession_eraseSession w first id
          have sameFree : (if keep then w.setSession first (some session')
              else w.eraseSession first).freeids = w.freeids := by
            cases keep with
            | true => rfl
            | false => rfl
          refine ⟨free.trans sameFree, fun id => ⟨fun mem => ?_, fun absent => ?_⟩⟩
          · rcases List.mem_cons.mp mem with rfl | mem
            · show Ticked _ _ _ _ (rest.1.findSession id)
              rw [(each id).2 fresh, here, if_pos rfl, found]
              cases keep with
              | true => exact .kept updated
              | false => exact .ended updated
            · have other : id ≠ first := fun same => fresh (same ▸ mem)
              have ticked := (each id).1 mem
              rwa [here, if_neg other] at ticked
          · have other : id ≠ first := fun same => absent (same ▸ List.mem_cons_self)
            have same := (each id).2 fun mem => absent (List.mem_cons_of_mem _ mem)
            rwa [here, if_neg other] at same

/-- The tick of this length updates the sessions. -/
def Passes (w : World) (diff : UInt32) : Prop := (w.timer.tick diff.toNat).passed = true

instance (w : World) (diff : UInt32) : Decidable (w.Passes diff) :=
  inferInstanceAs (Decidable (_ = true))

/-- A tick gives out no ids, and either updates every session or leaves them all. -/
theorem update_spec {w : World} {game : UInt32 → Game} {diff : UInt32} {now : Int}
    {out : World × List Output} (run : w.update game diff now = .ok out) :
    out.1.freeids = w.freeids ∧
      ((w.Passes diff ∧
          ∀ id, Ticked (game id) diff now (w.findSession id) (out.1.findSession id)) ∨
        (¬ w.Passes diff ∧ ∀ id, out.1.findSession id = w.findSession id)) := by
  unfold update at run
  dsimp only at run
  split at run
  · next passed =>
      obtain ⟨free, each⟩ := updateSessions_spec (AList.keys_nodup _) run
      refine ⟨free, .inl ⟨passed, fun id => ?_⟩⟩
      by_cases mem : id ∈ w.sessions.keys
      · exact (each id).1 mem
      · have before : w.findSession id = none := findSession_eq_none mem
        have after : out.1.findSession id = none := ((each id).2 mem).trans before
        rw [before, after]
        exact .absent
  · next early =>
      cases run
      exact ⟨rfl, .inr ⟨early, fun _ => rfl⟩⟩

end World

end NoxServer
