import NoxServer.Awesie.Steps
import Mathlib.Data.List.Pairwise

/-!
The player ids of the server under `awesie_test`.

An id is either free or held by a session of the table, as long as no join writes over a
session or comes when no id is free (`Fresh`). `get_free_id` has no id left to give then and
answers 0xFF, which `handle_join` does not look at; and a session that is written over is not
deleted, so its id never returns.
-/

namespace NoxServer

namespace Awesie

open Frames Runs

variable {η : Type} {rest : Rest η}

/-- The id of the session of an entry. -/
def Server.idOf (s : Server η) (entry : Endpoint × Nat) : Option UInt8 :=
  (s.session? entry.2).map (·.playerId)

/-- The ids of the sessions in the table. -/
def Server.idsHeld (s : Server η) : List UInt8 := s.sessions.filterMap s.idOf

/-- No id is lost, and none is held twice. -/
structure Conserved (s : Server η) : Prop where
  sorted : OrderedMap.Sorted udpEndpointLess s.sessions
  distinct : (s.sessions.map Prod.snd).Nodup
  live : ∀ entry ∈ s.sessions, ∃ here, s.session? entry.2 = some here
  ids : (s.freeIds ++ s.idsHeld).Perm allIds

/-- A join comes from an address without a session, and there is an id for it. -/
def Fresh (s : Server η) : Action → Prop
  | .receive sender err bytes => s.command sender err bytes = some 0x0E →
      s.freeIds ≠ [] ∧ findEntry sender s.sessions = none
  | .tick _ => True

theorem mem_allIds {id : UInt8} : id ∈ allIds ↔ 1 ≤ id ∧ id ≤ 31 := by
  rw [allIds, List.mem_map, UInt8.le_iff_toNat_le, UInt8.le_iff_toNat_le]
  constructor
  · rintro ⟨n, mem, rfl⟩
    have bounds := List.mem_range'_1.mp mem
    have small : (UInt8.ofNat n).toNat = n := Nat.mod_eq_of_lt (by omega)
    rw [small]
    exact ⟨bounds.1, Nat.lt_succ_iff.mp bounds.2⟩
  · rintro ⟨low, high⟩
    exact ⟨id.toNat, List.mem_range'_1.mpr ⟨low, Nat.lt_succ_of_le high⟩, UInt8.ofNat_toNat⟩

theorem SameIds.idsHeld {s t : Server η} (same : SameIds s t) : t.idsHeld = s.idsHeld := by
  have each : t.idOf = s.idOf := funext fun entry => same.playerId entry.2
  rw [Server.idsHeld, Server.idsHeld, each, same.sessions]

theorem SameIds.conserved {s t : Server η} (same : SameIds s t) (conserved : Conserved s) :
    Conserved t := by
  refine ⟨?_, ?_, fun entry mem => ?_, ?_⟩
  · rw [same.sessions]
    exact conserved.sorted
  · rw [same.sessions]
    exact conserved.distinct
  · rw [same.sessions] at mem
    obtain ⟨here, live⟩ := conserved.live entry mem
    have is := same.playerId entry.2
    rw [live, Option.map_some] at is
    obtain ⟨there, live', -⟩ := Option.map_eq_some_iff.mp is
    exact ⟨there, live'⟩
  · rw [same.freeIds, same.idsHeld]
    exact conserved.ids

/-! ### Joins -/

/-- The ids held once a client has joined from a new address. -/
theorem idsHeld_joined {s : Server η} (conserved : Conserved s) {sender : Endpoint}
    (new : findEntry sender s.sessions = none) :
    (s.joined sender).idsHeld.Perm (s.freeIds.headD 0xFF :: s.idsHeld) := by
  have perm := OrderedMap.put_perm new s.heap.length
  have held : (s.joined sender).idsHeld.Perm
      (((sender, s.heap.length) :: s.sessions).filterMap (s.joined sender).idOf) :=
    perm.filterMap _
  have own : (s.joined sender).idOf (sender, s.heap.length) = some (s.freeIds.headD 0xFF) := by
    rw [Server.idOf, session?_joined, if_pos rfl]
    rfl
  have others : s.sessions.filterMap (s.joined sender).idOf = s.idsHeld := by
    refine List.filterMap_congr fun entry mem => ?_
    obtain ⟨here, live⟩ := conserved.live entry mem
    rw [Server.idOf, session?_joined, if_neg (Nat.ne_of_lt (lt_of_live live)), Server.idOf]
  rwa [List.filterMap_cons_some own, others] at held

/-- A fresh join takes an id from those that are free. -/
theorem Conserved.joined {s : Server η} (conserved : Conserved s) {sender : Endpoint}
    (free : s.freeIds ≠ []) (new : findEntry sender s.sessions = none) :
    Conserved (s.joined sender) := by
  have perm := OrderedMap.put_perm new s.heap.length
  have fresh : ∀ entry ∈ s.sessions, entry.2 ≠ s.heap.length := by
    intro entry mem
    obtain ⟨here, live⟩ := conserved.live entry mem
    exact Nat.ne_of_lt (lt_of_live live)
  refine ⟨conserved.sorted.put udpEndpointLess_weak sender s.heap.length, ?_, ?_, ?_⟩
  · refine (perm.map Prod.snd).nodup_iff.mpr (List.nodup_cons.mpr ⟨?_, conserved.distinct⟩)
    intro mem
    obtain ⟨entry, mem, is⟩ := List.mem_map.mp mem
    exact fresh entry mem is
  · intro entry mem
    rcases List.mem_cons.mp (perm.mem_iff.mp mem) with rfl | mem
    · exact ⟨_, by rw [session?_joined, if_pos rfl]⟩
    · rw [session?_joined, if_neg (fresh entry mem)]
      exact conserved.live entry mem
  · have held := idsHeld_joined conserved new
    obtain ⟨id, ids, is⟩ := List.exists_cons_of_ne_nil free
    have before := conserved.ids
    rw [is] at held before
    have after : (ids ++ (s.joined sender).idsHeld).Perm (id :: (ids ++ s.idsHeld)) :=
      (held.append_left ids).trans List.perm_middle
    have tail : (s.joined sender).freeIds = ids := by
      rw [Server.joined, is]
      rfl
    rw [tail]
    exact after.trans before

/-- The id a join takes is held afterwards. -/
theorem mem_idsHeld_joined (s : Server η) (sender : Endpoint) :
    s.freeIds.headD 0xFF ∈ (s.joined sender).idsHeld := by
  have found : findEntry sender (s.joined sender).sessions = some s.heap.length := by
    rw [Server.joined, findEntry, putEntry, OrderedMap.find_put udpEndpointLess_weak,
      if_pos (udpEndpointLess_weak.same_refl sender)]
  obtain ⟨own, mem, -⟩ := OrderedMap.mem_of_find found
  refine List.mem_filterMap.mpr ⟨(own, s.heap.length), mem, ?_⟩
  rw [Server.idOf, session?_joined, if_pos rfl]
  rfl

/-- A join that is not fresh breaks the conservation at once. -/
theorem Conserved.fresh_of_joined {s : Server η} (conserved : Conserved s) {sender : Endpoint}
    (after : Conserved (s.joined sender)) :
    s.freeIds ≠ [] ∧ findEntry sender s.sessions = none := by
  have free : s.freeIds ≠ [] := by
    intro exhausted
    have held := mem_idsHeld_joined s sender
    rw [exhausted] at held
    have known := after.ids.mem_iff.mp (List.mem_append_right _ held)
    exact absurd known (by decide)
  refine ⟨free, ?_⟩
  cases found : findEntry sender s.sessions with
  | none => rfl
  | some old =>
      exfalso
      have held (t : Server η) (c : Conserved t) : t.idsHeld.length = t.sessions.length := by
        refine List.filterMap_length_eq_length.mpr fun entry mem => ?_
        obtain ⟨here, live⟩ := c.live entry mem
        rw [Server.idOf, live]
        rfl
      have size (t : Server η) (c : Conserved t) : t.freeIds.length + t.sessions.length = 31 := by
        rw [← held t c, ← List.length_append, c.ids.length_eq]
        rfl
      have same : (s.joined sender).sessions.length = s.sessions.length :=
        OrderedMap.length_put found s.heap.length
      have tail : (s.joined sender).freeIds.length = s.freeIds.length - 1 := List.length_tail
      have positive := List.length_pos_of_ne_nil free
      have before := size s conserved
      have later := size (s.joined sender) after
      omega

/-! ### Deletions -/

theorem idsHeld_of_mem {s : Server η} {entry : Endpoint × Nat} {here : WorldSession}
    (mem : entry ∈ s.sessions) (live : s.session? entry.2 = some here) :
    here.playerId ∈ s.idsHeld :=
  List.mem_filterMap.mpr ⟨entry, mem, by rw [Server.idOf, live]; rfl⟩

/-- An id that is held is among the 31. -/
theorem Conserved.playerId_mem {s : Server η} (conserved : Conserved s)
    {entry : Endpoint × Nat} {here : WorldSession} (mem : entry ∈ s.sessions)
    (live : s.session? entry.2 = some here) : here.playerId ∈ allIds :=
  conserved.ids.mem_iff.mp (List.mem_append_right _ (idsHeld_of_mem mem live))

/-- A deletion returns the id of the session. -/
theorem Conserved.deleted {s : Server η} (conserved : Conserved s) {key : Endpoint} {ptr : Nat}
    {here : WorldSession} (found : findEntry key s.sessions = some ptr)
    (live : s.session? ptr = some here) : Conserved (s.deleted key ptr here.playerId) := by
  obtain ⟨own, perm⟩ := OrderedMap.erase_perm udpEndpointLess_weak conserved.sorted found
  have each := session?_deleted live key here.playerId
  have distinct : (ptr :: (eraseEntry key s.sessions).map Prod.snd).Nodup :=
    (perm.map Prod.snd).nodup_iff.mp conserved.distinct
  obtain ⟨out, distinct⟩ := List.nodup_cons.mp distinct
  have others : ∀ entry ∈ eraseEntry key s.sessions, entry.2 ≠ ptr := by
    intro entry mem is
    exact out (List.mem_map.mpr ⟨entry, mem, is⟩)
  have within : (own, ptr) ∈ s.sessions := perm.mem_iff.mpr List.mem_cons_self
  refine ⟨conserved.sorted.erase key, distinct, fun entry mem => ?_, ?_⟩
  · rw [each, if_neg (others entry mem)]
    exact conserved.live entry (perm.mem_iff.mpr (List.mem_cons_of_mem _ mem))
  · have bounds := mem_allIds.mp (conserved.playerId_mem within live)
    have small : ¬ here.playerId > 32 := UInt8.not_lt.mpr (UInt8.le_trans bounds.2 (by decide))
    have returned : (s.deleted key ptr here.playerId).freeIds = s.freeIds ++ [here.playerId] :=
      if_neg small
    have left : (s.deleted key ptr here.playerId).idsHeld =
        (eraseEntry key s.sessions).filterMap s.idOf := by
      refine List.filterMap_congr fun entry mem => ?_
      rw [Server.idOf, each, if_neg (others entry mem), Server.idOf]
    have held : s.idsHeld.Perm (here.playerId :: (s.deleted key ptr here.playerId).idsHeld) := by
      have own_id : s.idOf (own, ptr) = some here.playerId := by
        rw [Server.idOf, live]
        rfl
      rw [left, ← List.filterMap_cons_some own_id]
      exact perm.filterMap _
    rw [returned, List.append_assoc]
    exact (held.symm.append_left s.freeIds).trans conserved.ids

theorem Conserved.of_deleted {s t : Server η} {key : Endpoint} (conserved : Conserved s)
    (deletion : Deleted s key t) : Conserved t := by
  cases deletion with
  | absent => exact conserved
  | @deleted ptr here mid found live keeps =>
      obtain ⟨same, -⟩ := keeps (fun _ _ => True) (bound_true s)
      have is := same.playerId ptr
      rw [live, Option.map_some] at is
      obtain ⟨there, live', id⟩ := Option.map_eq_some_iff.mp is
      rw [← id]
      exact (same.conserved conserved).deleted (by rw [same.sessions]; exact found) live'

/-! ### Runs -/

/-- A step whose join is fresh keeps the ids. -/
theorem Conserved.step {s t : Server η} {action : Action} (conserved : Conserved s)
    (step : guarded Fresh (Step rest) s action t) : Conserved t := by
  obtain ⟨fresh, step⟩ := step
  cases action with
  | receive sender err bytes =>
      cases receive_cases step with
      | dropped => exact conserved
      | answered packet =>
          have same : SameIds s { s with sendQueue := s.sendQueue ++ [(none, packet)] } :=
            ⟨rfl, rfl, rfl, rfl, fun _ => rfl⟩
          exact same.conserved conserved
      | joined join =>
          obtain ⟨free, new⟩ := fresh join
          exact conserved.joined free new
      | @queued ptr here packet cmd _ _ _ found live from_ =>
          have same : SameIds s (s.queued ptr here packet) := by
            refine ⟨rfl, rfl, rfl, List.length_set, fun ptr' => ?_⟩
            rw [session?_queued live]
            split
            · next is =>
                rw [is, live]
                rfl
            · rfl
          exact same.conserved conserved
  | tick rounds =>
      refine tick_invariant (fun mid keeps => ?_) (fun _ _ _ => Conserved.of_deleted)
        (fun s conserved => ?_) step
      · obtain ⟨same, -⟩ := keeps (fun _ _ => True) (bound_true s)
        exact same.conserved conserved
      · have same : SameIds s s.flushed := ⟨rfl, rfl, rfl, rfl, fun _ => rfl⟩
        exact same.conserved conserved

theorem conserved_start (world : η) : Conserved (start world) :=
  ⟨.nil, .nil, nofun, .refl _⟩

/-- While every join comes from an address without a session and finds an id, the free ids and those
of the sessions are 1 to 31, each once, and two entries with one id are the same.
`Conserved.fresh_of_joined` shows that a join of another kind loses or doubles an id at once. -/
theorem ids_conserved (rest : Rest η) (world : η) {actions : List Action} {s : Server η}
    (run : Run (guarded Fresh (Step rest)) (start world) actions s) :
    (s.freeIds ++ s.idsHeld).Nodup ∧
      (∀ id, id ∈ s.freeIds ++ s.idsHeld ↔ 1 ≤ id ∧ id ≤ 31) ∧
      (∀ entry ∈ s.sessions, ∃ here, s.session? entry.2 = some here) ∧
      ∀ entry ∈ s.sessions, ∀ entry' ∈ s.sessions, s.idOf entry = s.idOf entry' →
        entry = entry' := by
  have kept : Conserved s :=
    run.invariant (fun _ _ _ => Conserved.step) (conserved_start world)
  have nodup : (s.freeIds ++ s.idsHeld).Nodup := kept.ids.nodup_iff.mpr (by decide)
  refine ⟨nodup, fun id => ?_, kept.live, fun entry mem entry' mem' same => ?_⟩
  · rw [kept.ids.mem_iff, mem_allIds]
  · have held : s.idsHeld.Nodup := (List.nodup_append.mp nodup).2.1
    obtain ⟨here, live⟩ := kept.live entry mem
    have is : s.idOf entry = some here.playerId := by
      rw [Server.idOf, live]
      rfl
    by_contra other
    have symm : Std.Symm fun a b => ∀ id, s.idOf a = some id → ∀ id', s.idOf b = some id' →
        id ≠ id' := ⟨fun _ _ apart id is id' is' => (apart id' is' id is).symm⟩
    have apart := (List.pairwise_filterMap.mp held).forall mem mem' other
    exact apart here.playerId is here.playerId (same ▸ is) rfl

/-! ### Two clients, and a client that joins twice -/

def clientA : Endpoint := ⟨0x0A000001, 1000⟩

def clientB : Endpoint := ⟨0x0A000002, 1000⟩

/-- Two clients join, and the first one leaves: `MSG_EXITING` is 0x0A. -/
theorem ids_conserved_leave : ∃ s, Run (guarded Fresh (Step Rest.nothing)) (start ())
      [.receive clientA false joinBytes, .receive clientB false joinBytes,
        .receive clientA false [0, 0, 0x0A], .tick 2] s ∧
    (s.freeIds ++ s.idsHeld).Nodup ∧
      (∀ id, id ∈ s.freeIds ++ s.idsHeld ↔ 1 ≤ id ∧ id ≤ 31) ∧
      (∀ entry ∈ s.sessions, ∃ here, s.session? entry.2 = some here) ∧
      ∀ entry ∈ s.sessions, ∀ entry' ∈ s.sessions, s.idOf entry = s.idOf entry' →
        entry = entry' := by
  have first : Step Rest.nothing (start ()) (.receive clientA false joinBytes)
      ((start ()).joined clientA) := receive_join rfl (by decide)
  have second : Step Rest.nothing ((start ()).joined clientA) (.receive clientB false joinBytes)
      (((start ()).joined clientA).joined clientB) := receive_join rfl (by decide)
  have third : Step Rest.nothing (((start ()).joined clientA).joined clientB)
      (.receive clientA false [0, 0, 0x0A]) ((((start ()).joined clientA).joined clientB).queued 0
        (.new 1 clientA) (packetFrom clientA 0 0 0x0A [])) := rfl
  obtain ⟨s, fourth⟩ : ∃ s, Step Rest.nothing ((((start ()).joined clientA).joined clientB).queued
      0 (.new 1 clientA) (packetFrom clientA 0 0 0x0A [])) (.tick 2) s :=
    exists_of_isOk (by decide +kernel)
  have run : Run (guarded Fresh (Step Rest.nothing)) (start ())
      [.receive clientA false joinBytes, .receive clientB false joinBytes,
        .receive clientA false [0, 0, 0x0A], .tick 2] s := by
    refine .cons ⟨fun _ => ⟨nofun, rfl⟩, first⟩ (.cons ⟨fun _ => ⟨nofun, rfl⟩, second⟩ ?_)
    exact .cons ⟨fun join => absurd join (by decide), third⟩ (.single ⟨trivial, fourth⟩)
  exact ⟨s, run, ids_conserved Rest.nothing () run⟩

/-- A client that joins twice: its first id is neither free nor held. -/
theorem id_lost : ∃ s, Run (Step Rest.nothing) (start ())
    [.receive clientA false joinBytes, .receive clientA false joinBytes] s ∧
      1 ∉ s.freeIds ++ s.idsHeld := by
  refine ⟨((start ()).joined clientA).joined clientA, ?_, by decide⟩
  have first : Step Rest.nothing (start ()) (.receive clientA false joinBytes)
      ((start ()).joined clientA) := receive_join rfl (by decide)
  have second : Step Rest.nothing ((start ()).joined clientA) (.receive clientA false joinBytes)
      (((start ()).joined clientA).joined clientA) := receive_join rfl (by decide)
  exact .cons first (.single second)

end Awesie

end NoxServer
