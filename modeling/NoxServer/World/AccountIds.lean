import Mathlib.Data.List.Perm.Subperm
import NoxServer.World.WorldSocket

/-!
The ids sessions are given.

`RequestFreeId` takes ids out of a set of 31, and the function that puts one back is called
nowhere. So the ids are accounted for, each of them free or the id of a session, only until
the first session that has one of them ends (`ids_kept`, `ended_id_lost`). When
the set is empty a join is given 0xFF, without a test, and two sessions that live at the same
time may be given it.
-/

namespace NoxServer.Server

open Session Runs

/-- The ids of `World()`. -/
def allIds : List UInt8 := (List.range' 1 31).map UInt8.ofNat

/-- The ids that have a session. -/
def liveIds (w : World) : List UInt32 :=
  w.sessions.keys.filter fun id => (w.findSession id).isSome

/-- What the ids are for: sessions are told apart by them, an id without a session can be
given out, and a join is served as long as fewer than 31 sessions are there. -/
structure IdsKept (w : World) : Prop where
  unique : ∀ id id' s s', w.findSession id = some s → w.findSession id' = some s' →
    s.accountId = s'.accountId → id = id'
  returned : ∀ id ∈ allIds, w.findSession id.toUInt32 = none → id ∈ w.freeids
  served : (liveIds w).length < 31 → w.freeids ≠ [] ∧ w.findSession (nextId w) = none

/-- The event is a join whose session is added over one that is there. -/
def Overwrites (srv : Server) : Event → Prop
  | .datagram data _ _ => IsJoin data ∧ srv.world.findSession (nextId srv.world) ≠ none
  | _ => False

/-- A join is received while there is a free id, or no session has the id 0xFF; no session
ends but one with that id. -/
def IdsStay (srv : Server) : Event → Prop
  | .datagram data _ _ =>
      IsJoin data → srv.world.freeids ≠ [] ∨ srv.world.findSession 0xFF = none
  | event => ∀ id, srv.Ends id event → id = 0xFF

/-- The ids are accounted for: each is free, or is that of the session entered under it. -/
structure IdsAccounted (w : World) : Prop where
  free : FreeIds w
  known : ∀ id ∈ w.freeids, id ∈ allIds
  registered : ∀ id s, w.findSession id = some s → s.accountId = id
  given : ∀ id s, w.findSession id = some s → (∃ n ∈ allIds, n.toUInt32 = id) ∨ id = 0xFF
  returned : ∀ id ∈ allIds, w.findSession id.toUInt32 = none → id ∈ w.freeids

theorem idsAccounted_start : IdsAccounted start.world where
  free := freeIds_start
  known _ member := member
  registered _ _ found := by cases found
  given _ _ found := by cases found
  returned _ member _ := member

theorem length_allIds : (allIds.map UInt8.toUInt32).length = 31 := rfl

theorem nodup_allIds : (allIds.map UInt8.toUInt32).Nodup := by decide

/-- 0xFF is not an id of `World()`. -/
theorem toUInt32_ne_top {id : UInt8} (member : id ∈ allIds) : id.toUInt32 ≠ 0xFF := by
  intro top
  obtain ⟨n, inside, rfl⟩ := List.mem_map.mp member
  have range := List.mem_range'_1.mp inside
  have same : (UInt8.ofNat n).toNat = 0xFF := by simpa using congrArg UInt32.toNat top
  have small : n < UInt8.size := Nat.lt_of_lt_of_le range.2 (by decide)
  rw [UInt8.toNat_ofNat_of_lt' small] at same
  omega

/-- With no free id left, all 31 ids have sessions. -/
theorem IdsAccounted.live {w : World} (accounted : IdsAccounted w) (none : w.freeids = []) :
    31 ≤ (liveIds w).length := by
  rw [← length_allIds]
  refine (List.subperm_of_subset nodup_allIds fun id member => ?_).length_le
  obtain ⟨n, inside, rfl⟩ := List.mem_map.mp member
  have live : w.findSession n.toUInt32 ≠ Option.none := fun missing => by
    have left := accounted.returned n inside missing
    rw [none] at left
    cases left
  refine List.mem_filter.mpr ⟨?_, Option.isSome_iff_ne_none.mpr live⟩
  exact Classical.not_not.mp fun absent => live (World.findSession_eq_none absent)

theorem IdsAccounted.kept {w : World} (accounted : IdsAccounted w) : IdsKept w where
  unique id id' s s' found found' same := by
    rw [← accounted.registered id s found, ← accounted.registered id' s' found', same]
  returned := accounted.returned
  served few := by
    have left : w.freeids ≠ [] := fun none => Nat.not_lt.mpr (accounted.live none) few
    exact ⟨left, accounted.free.next left⟩

/-- A join that finds a free id, or 0xFF unused, overwrites nothing. -/
theorem IdsAccounted.not_overwrites {srv : Server} (accounted : IdsAccounted srv.world)
    {event : Event} (stays : IdsStay srv event) : ¬ Overwrites srv event := by
  cases event with
  | datagram data ip port =>
      rintro ⟨join, taken⟩
      rcases stays join with left | unused
      · exact taken (accounted.free.next left)
      · by_cases left : srv.world.freeids = []
        · rw [nextId_nil left] at taken
          exact taken unused
        · exact taken (accounted.free.next left)
  | _ => exact id

/-! ### Steps -/

/-- The same session as far as its id goes. -/
def SameAccount (s s' : WorldSession) : Prop := s'.accountId = s.accountId

theorem sameAccount_of_sameClient {entry entry' : Option WorldSession}
    (rel : Option.Rel WorldSession.SameClient entry entry') :
    Option.Rel SameAccount entry entry' := by
  cases rel with
  | none => exact .none
  | some same => exact .some same.accountId

/-- Sessions that stay, with the free ids, keep the ids accounted for. An entry with an id
that is none of the 31 may end. -/
theorem IdsAccounted.of_same {w w' : World} (accounted : IdsAccounted w) (free : FreeIds w')
    (freeids : w'.freeids = w.freeids)
    (sessions : ∀ id, (id = 0xFF ∧ w'.findSession id = none) ∨
      Option.Rel SameAccount (w.findSession id) (w'.findSession id)) : IdsAccounted w' := by
  have before {id : UInt32} {s' : WorldSession} (found : w'.findSession id = some s') :
      ∃ s, w.findSession id = some s ∧ s'.accountId = s.accountId := by
    rcases sessions id with ⟨_, gone⟩ | kept
    · rw [gone] at found
      cases found
    · rw [found] at kept
      generalize w.findSession id = entry at kept
      cases kept with
      | some same => exact ⟨_, rfl, same⟩
  refine ⟨free, fun id member => accounted.known id (freeids ▸ member), fun id s found => ?_,
    fun id s found => ?_, fun id member missing => ?_⟩
  · obtain ⟨s', found', same⟩ := before found
    exact same.trans (accounted.registered id s' found')
  · obtain ⟨s', found', _⟩ := before found
    exact accounted.given id s' found'
  · rw [freeids]
    refine accounted.returned id member ?_
    rcases sessions id.toUInt32 with ⟨top, _⟩ | kept
    · exact absurd top (toUInt32_ne_top member)
    · rw [missing] at kept
      generalize w.findSession id.toUInt32 = entry at kept
      cases kept with
      | none => rfl

theorem IdsAccounted.bindClient {srv : Server} (accounted : IdsAccounted srv.world)
    {client : ClientAddr} {id : UInt32} {session : WorldSession}
    (found : srv.world.findSession id = some session) :
    IdsAccounted (srv.bindClient client id session).world := by
  refine accounted.of_same (accounted.free.bindClient found) rfl fun other => .inr ?_
  rw [findSession_bindClient]
  split
  · next same =>
      rw [same, found]
      exact .some rfl
  · exact sameAccount_of_sameClient
      ((sameSessions_of_eq rfl fun _ => rfl : SameSessions srv.world srv.world).sessions other)

/-- A join leaves the ids accounted for: the one it takes is no longer free and is that of its
session, unless they are used up and it takes 0xFF. -/
theorem IdsAccounted.enter {srv : Server} (accounted : IdsAccounted srv.world)
    (client : ClientAddr) : IdsAccounted (srv.enter client).world where
  free := accounted.free.enter client
  known id member := by
    rw [freeids_enter] at member
    exact accounted.known id (List.mem_of_mem_tail member)
  registered id s found := by
    rw [findSession_enter] at found
    split at found
    · next new =>
        cases found
        exact new.symm
    · exact accounted.registered id s found
  given id s found := by
    rw [findSession_enter] at found
    split at found
    · next new =>
        cases left : srv.world.freeids with
        | nil => exact .inr (new.trans (nextId_nil left))
        | cons n ids =>
            refine .inl ⟨n, accounted.known n (left ▸ List.mem_cons_self), ?_⟩
            exact (new.trans (nextId_cons left)).symm
    · exact accounted.given id s found
  returned id member missing := by
    rw [findSession_enter] at missing
    split at missing
    · cases missing
    · next other =>
        have was := accounted.returned id member missing
        obtain ⟨n, ids, left⟩ := List.exists_cons_of_ne_nil (List.ne_nil_of_mem was)
        rw [nextId_cons left] at other
        rw [freeids_enter]
        rw [left] at was ⊢
        exact (List.mem_cons.mp was).resolve_left fun same => other (congrArg _ same)

/-- What the steps of these runs keep. -/
structure Accounted (srv : Server) : Prop where
  plain : Plain srv.world
  ids : IdsAccounted srv.world

/-- Every step that ends no session, and finds an id for each join, leaves the ids accounted for. -/
theorem accounted_step (srv : Server) (event : Event) (srv' : Server) (before : Accounted srv)
    (step : guarded IdsStay Step srv event srv') : Accounted srv' := by
  obtain ⟨plain, accounted⟩ := before
  obtain ⟨stays, run⟩ := step
  refine ⟨step_plain plain run, ?_⟩
  have free := freeIds_step plain accounted.free run
  rcases step_cases run with ⟨data, ip, port, rfl, received⟩ | quiet
  · obtain ⟨sender, lookups, handled⟩ := onRawData_spec plain received
    have accounted : IdsAccounted sender.1.world := by
      rcases senderSession_cases lookups with ⟨same, _⟩ | ⟨id, session, _, _, found, same⟩
      · rwa [same]
      · rw [same]
        exact accounted.bindClient found
    cases handled with
    | join _ world _ =>
        rw [world]
        exact accounted.enter _
    | other _ kept _ =>
        exact accounted.of_same free kept.freeids fun id =>
          .inr (sameAccount_of_sameClient (kept.sessions id))
  · refine accounted.of_same free quiet.freeids fun id => ?_
    by_cases ends : srv.Ends id event
    · cases event with
      | datagram => exact ends.elim
      | _ => exact .inl ⟨stays id ends, quiet.ended id ends⟩
    · exact .inr (sameAccount_of_sameClient (quiet.stays id ends))

/-- In every run in which no session ends and no join is received when the ids are used up, but for
the id 0xFF, the ids do what they are for: they are unique, an id without a session is free, and a
step of this kind overwrites no session. That an ended session's id is lost is `ended_id_lost`. -/
theorem ids_kept {events : List Event} {srv : Server}
    (run : Run (guarded IdsStay Step) start events srv) :
    IdsKept srv.world ∧ ∀ event, IdsStay srv event → ¬ Overwrites srv event := by
  have kept : Accounted srv := run.invariant accounted_step ⟨plain_start, idsAccounted_start⟩
  exact ⟨kept.ids.kept, fun _ => kept.ids.not_overwrites⟩

/-- A session that ends takes its id with it. -/
theorem ended_id_lost {srv srv' : Server} {event : Event} {id : UInt32}
    (accounted : IdsAccounted srv.world) (quiet : Quiet srv event srv')
    (ends : srv.Ends id event) (live : srv.world.findSession id ≠ none) (given : id ≠ 0xFF) :
    ¬ IdsKept srv'.world := by
  intro kept
  obtain ⟨s, found⟩ := Option.ne_none_iff_exists'.mp live
  obtain ⟨n, member, rfl⟩ := (accounted.given id s found).resolve_right given
  have free := kept.returned n member (quiet.ended _ ends)
  rw [quiet.freeids] at free
  exact live (accounted.free.unused n free)

/-- Two joins from one IP. -/
theorem ids_kept_of_joins :
    ∃ srv, Run Step start [.datagram emptyJoin 1 2, .datagram emptyJoin 1 3] srv ∧
      IdsKept srv.world := by
  obtain ⟨s₁, s₂, first, second, left⟩ : ∃ s₁ s₂, Step start (.datagram emptyJoin 1 2) s₁ ∧
      Step s₁ (.datagram emptyJoin 1 3) s₂ ∧ s₁.world.freeids ≠ [] :=
    ⟨_, _, rfl, rfl, List.cons_ne_nil _ _⟩
  have run : Run (guarded IdsStay Step) start
      [.datagram emptyJoin 1 2, .datagram emptyJoin 1 3] s₂ :=
    .cons ⟨fun _ => .inl (List.cons_ne_nil _ _), first⟩
      (.cons ⟨fun _ => .inl left, second⟩ (.nil s₂))
  exact ⟨s₂, run.unguarded, (ids_kept run).1⟩

/-- A join, and a tick that runs out its session: its id is not free again. -/
theorem ids_lost :
    ¬ ∀ events srv, Run Step start events srv → IdsKept srv.world := by
  intro kept
  obtain ⟨srv, run, gone, lost⟩ : ∃ srv, Run Step start
      [.datagram emptyJoin 1 2, .worldUpdate emptyGame 30001 1] srv ∧
      srv.world.findSession 1 = none ∧ (1 : UInt8) ∉ srv.world.freeids :=
    ⟨_, .cons rfl (.cons rfl (.nil _)), rfl, by decide⟩
  exact lost ((kept _ _ run).returned 1 (by decide) gone)

end NoxServer.Server
