import Mathlib.Data.Set.Insert

/-!
Clients told apart by a message later than their join.

A table serves clients that share hosts. A client that joins gets an id of its own, but the
id waits under the client's host only, and the next message from a client of that host that
is not bound yet, a join included, binds the id to that client. So an id may go to another
client than the one that joined for it. Still, every client that has joined and then sent a
message is bound to an id of its own (`Served.bound_alone`): a join that comes while another
waits takes the id that waits before it leaves its own.
-/

namespace HostBinding

/-- The ids that wait under hosts, the ids clients are bound to, and whose each id is. -/
@[ext]
structure Table (Client Host Id : Type*) where
  waiting : Host → Option Id
  bound : Client → Option Id
  owner : Id → Option Client

variable {Client Host Id : Type*}

/-- An id that is bound is its client's, and one that waits is bound to nobody. -/
structure Sound (host : Client → Host) (t : Table Client Host Id) : Prop where
  owned : ∀ c id, t.bound c = some id → t.owner id = some c
  waits : ∀ h id, t.waiting h = some id →
    (∃ c, t.owner id = some c ∧ host c = h) ∧ ∀ c, t.bound c ≠ some id

/-- Of the clients that have joined, those that are not bound have an id waiting under their
host, and there is one of them at most under a host. Those that have sent a message since
are bound. -/
structure Served (host : Client → Host) (t : Table Client Host Id) (joined spoken : Set Client) :
    Prop where
  sound : Sound host t
  waiting : ∀ c ∈ joined, t.bound c = none → t.waiting (host c) ≠ none
  alone : ∀ c ∈ joined, ∀ c' ∈ joined, host c' = host c → t.bound c = none → t.bound c' = none →
    c' = c
  bound : ∀ c ∈ spoken, t.bound c ≠ none

/-- The table before the first join. -/
def Table.empty : Table Client Host Id where
  waiting _ := none
  bound _ := none
  owner _ := none

theorem Served.empty {host : Client → Host} :
    Served host (Table.empty : Table Client Host Id) ∅ ∅ :=
  ⟨⟨nofun, nofun⟩, nofun, nofun, nofun⟩

/-- A client that has spoken is bound, to an id that is its own and nobody else's. -/
theorem Served.bound_alone {host : Client → Host} {t : Table Client Host Id}
    {joined spoken : Set Client} (served : Served host t joined spoken) {c : Client}
    (said : c ∈ spoken) :
    ∃ id, t.bound c = some id ∧ t.owner id = some c ∧ (∀ h, t.waiting h ≠ some id) ∧
      ∀ c', c' ≠ c → t.bound c' ≠ some id := by
  obtain ⟨id, mine⟩ := Option.ne_none_iff_exists'.mp (served.bound c said)
  have owned := served.sound.owned c id mine
  refine ⟨id, mine, owned, fun h waits => (served.sound.waits h id waits).2 c mine, ?_⟩
  intro c' other theirs
  have owned' := served.sound.owned c' id theirs
  rw [owned] at owned'
  exact other (Option.some.inj owned').symm

variable [DecidableEq Client] [DecidableEq Host] [DecidableEq Id]

namespace Table

/-- A client takes an id that waits under its host. -/
def take (host : Client → Host) (t : Table Client Host Id) (c : Client) (id : Id) :
    Table Client Host Id where
  waiting h := if h = host c then none else t.waiting h
  bound c' := if c' = c then some id else t.bound c'
  owner id' := if id' = id then some c else t.owner id'

/-- A message: a client that is not bound takes the id that waits under its host. -/
def touch (host : Client → Host) (t : Table Client Host Id) (c : Client) :
    Table Client Host Id :=
  match t.bound c, t.waiting (host c) with
  | none, some id => t.take host c id
  | _, _ => t

/-- What a join adds after its message is received: a new id that waits. -/
def enter (host : Client → Host) (t : Table Client Host Id) (c : Client) (id : Id) :
    Table Client Host Id where
  waiting h := if h = host c then some id else t.waiting h
  bound := t.bound
  owner id' := if id' = id then some c else t.owner id'

variable {host : Client → Host} {t : Table Client Host Id} {c : Client}

theorem touch_taken {id : Id} (unbound : t.bound c = none)
    (waits : t.waiting (host c) = some id) : t.touch host c = t.take host c id := by
  unfold touch
  rw [unbound, waits]

theorem touch_of_bound (bound : t.bound c ≠ none) : t.touch host c = t := by
  unfold touch
  split
  · next unbound _ => exact absurd unbound bound
  · rfl

theorem touch_of_empty (empty : t.waiting (host c) = none) : t.touch host c = t := by
  unfold touch
  split
  · next waits =>
      rw [empty] at waits
      cases waits
  · rfl

/-- A message does nothing, or its client takes the id that waits. -/
theorem touch_cases (host : Client → Host) (t : Table Client Host Id) (c : Client) :
    (t.touch host c = t ∧ (t.bound c ≠ none ∨ t.waiting (host c) = none)) ∨
      ∃ id, t.bound c = none ∧ t.waiting (host c) = some id ∧
        t.touch host c = t.take host c id := by
  by_cases unbound : t.bound c = none
  · cases waits : t.waiting (host c) with
    | none => exact .inl ⟨touch_of_empty waits, .inr rfl⟩
    | some id => exact .inr ⟨id, unbound, rfl, touch_taken unbound waits⟩
  · exact .inl ⟨touch_of_bound unbound, .inl unbound⟩

/-- A client not bound after a client took an id was not bound before, and is another one. -/
theorem bound_take_eq_none {id : Id} {c' : Client} :
    (t.take host c id).bound c' = none ↔ c' ≠ c ∧ t.bound c' = none := by
  show (if c' = c then some id else t.bound c') = none ↔ _
  split
  · next same => exact ⟨nofun, fun other => absurd same other.1⟩
  · next other => exact ⟨fun free => ⟨other, free⟩, And.right⟩

/-- A message binds no client but its own, and that one if an id waits. -/
theorem bound_of_bound_touch {c' : Client} (free : (t.touch host c).bound c' = none) :
    t.bound c' = none ∧ (c' = c → t.waiting (host c) = none) := by
  rcases touch_cases host t c with ⟨same, idle⟩ | ⟨id, _, _, taken⟩
  · rw [same] at free
    refine ⟨free, fun mine => idle.resolve_left fun bound => ?_⟩
    rw [mine] at free
    exact bound free
  · rw [taken] at free
    obtain ⟨other, free⟩ := bound_take_eq_none.mp free
    exact ⟨free, fun mine => absurd mine other⟩

theorem waiting_touch_of_ne {h : Host} (other : h ≠ host c) :
    (t.touch host c).waiting h = t.waiting h := by
  rcases touch_cases host t c with ⟨same, _⟩ | ⟨id, _, _, taken⟩
  · rw [same]
  · rw [taken]
    exact if_neg other

end Table

variable {host : Client → Host} {t : Table Client Host Id} {c : Client}

/-! ### Ids have one owner -/

/-- A client that takes what waits for its host leaves the table sound: the identity is bound to it
alone, and nothing waits for the host any more. -/
theorem Sound.take (sound : Sound host t) {id : Id} (waits : t.waiting (host c) = some id) :
    Sound host (t.take host c id) := by
  obtain ⟨⟨holder, owned, at_⟩, free⟩ := sound.waits _ _ waits
  refine ⟨fun c' id' bound => ?_, fun h id' waits' => ?_⟩
  · show (if id' = id then some c else t.owner id') = some c'
    have bound : (if c' = c then some id else t.bound c') = some id' := bound
    split at bound
    · next mine =>
        rw [if_pos (Option.some.inj bound).symm, mine]
    · have other : id' ≠ id := fun same => free c' (same ▸ bound)
      rw [if_neg other]
      exact sound.owned c' id' bound
  · have waits' : (if h = host c then none else t.waiting h) = some id' := waits'
    split at waits'
    · cases waits'
    · next elsewhere =>
        obtain ⟨⟨holder', owned', at'⟩, free'⟩ := sound.waits h id' waits'
        -- an id waits under one host, its owner's
        have other : id' ≠ id := by
          rintro rfl
          rw [owned] at owned'
          cases owned'
          exact elsewhere (at'.symm.trans at_)
        refine ⟨⟨holder', (if_neg other).trans owned', at'⟩, fun c' => ?_⟩
        show (if c' = c then some id else t.bound c') ≠ some id'
        split
        · exact fun same => other (Option.some.inj same).symm
        · exact free' c'

theorem Sound.touch (sound : Sound host t) (c : Client) : Sound host (t.touch host c) := by
  rcases Table.touch_cases host t c with ⟨same, _⟩ | ⟨id, _, waits, taken⟩
  · rwa [same]
  · rw [taken]
    exact sound.take waits

omit [DecidableEq Client] in
theorem Sound.enter (sound : Sound host t) {id : Id} (fresh : t.owner id = none) (c : Client) :
    Sound host (t.enter host c id) := by
  have other {id' : Id} {c' : Client} (owned : t.owner id' = some c') : id' ≠ id := by
    rintro rfl
    rw [fresh] at owned
    cases owned
  refine ⟨fun c' id' bound => ?_, fun h id' waits => ?_⟩
  · have owned := sound.owned c' id' bound
    exact (if_neg (other owned)).trans owned
  · have waits : (if h = host c then some id else t.waiting h) = some id' := waits
    split at waits
    · next here =>
        cases waits
        exact ⟨⟨c, if_pos rfl, here.symm⟩, fun c' bound => other (sound.owned c' _ bound) rfl⟩
    · obtain ⟨⟨c', owned, at_⟩, free⟩ := sound.waits h id' waits
      exact ⟨⟨c', (if_neg (other owned)).trans owned, at_⟩, free⟩

/-! ### Clients that have joined -/

variable {joined spoken : Set Client}

/-- A message of a client that has joined: the client is bound after it. -/
theorem Served.touch (served : Served host t joined spoken) (member : c ∈ joined) :
    Served host (t.touch host c) joined (insert c spoken) := by
  rcases Table.touch_cases host t c with ⟨same, idle⟩ | ⟨id, unbound, waits, taken⟩
  · have mine : t.bound c ≠ none := idle.elim id fun empty unbound =>
      served.waiting c member unbound empty
    rw [same]
    refine ⟨served.sound, served.waiting, served.alone, ?_⟩
    rintro c' (rfl | old)
    · exact mine
    · exact served.bound c' old
  · rw [taken]
    refine ⟨served.sound.take waits, fun c' member' free => ?_,
      fun c' member' c'' member'' hosts free free' => ?_, fun c' said free => ?_⟩
    · obtain ⟨other, free⟩ := Table.bound_take_eq_none.mp free
      -- the client that took the id was the one that waited under its host
      have apart : host c' ≠ host c := fun hosts =>
        other (served.alone c member c' member' hosts unbound free)
      exact fun gone => served.waiting c' member' free ((if_neg apart).symm.trans gone)
    · exact served.alone c' member' c'' member'' hosts (Table.bound_take_eq_none.mp free).2
        (Table.bound_take_eq_none.mp free').2
    · obtain ⟨other, free⟩ := Table.bound_take_eq_none.mp free
      exact served.bound c' (said.resolve_left other) free

/-- A join: its client waits after it, and what waited before is bound. -/
theorem Served.join (served : Served host t joined spoken) (c : Client) {id : Id}
    (fresh : (t.touch host c).owner id = none) :
    Served host ((t.touch host c).enter host c id) (insert c joined) spoken := by
  refine ⟨(served.sound.touch c).enter fresh c, fun c' member free => ?_,
    fun c' member c'' member' hosts free free' => ?_, fun c' said free => ?_⟩
  · have free := (Table.bound_of_bound_touch free).1
    show (if host c' = host c then some id else (t.touch host c).waiting (host c')) ≠ none
    split
    · nofun
    · next apart =>
        rw [Table.waiting_touch_of_ne apart]
        have old : c' ∈ joined := member.resolve_left fun same => apart (congrArg host same)
        exact served.waiting c' old free
  · obtain ⟨free, mine⟩ := Table.bound_of_bound_touch free
    obtain ⟨free', mine'⟩ := Table.bound_of_bound_touch free'
    -- where the joining client is one of the two, nothing waited under its host before
    rcases member with same | old
    · rcases member' with same' | old'
      · rw [same, same']
      · rw [same] at hosts
        exact absurd (hosts ▸ mine same) (served.waiting c'' old' free')
    · rcases member' with same' | old'
      · rw [same'] at hosts
        exact absurd (hosts ▸ mine' same') (served.waiting c' old free)
      · exact served.alone c' old c'' old' hosts free free'
  · exact served.bound c' said (Table.bound_of_bound_touch free).1

/-- A join of a client that has joined before is a message of it as well. -/
theorem Served.rejoin (served : Served host t joined spoken) (member : c ∈ joined) {id : Id}
    (fresh : (t.touch host c).owner id = none) :
    Served host ((t.touch host c).enter host c id) (insert c joined) (insert c spoken) := by
  have touched := served.touch member
  have twice : (t.touch host c).touch host c = t.touch host c :=
    Table.touch_of_bound (touched.bound c (Set.mem_insert c spoken))
  have joins : ((t.touch host c).touch host c).owner id = none →
      Served host (((t.touch host c).touch host c).enter host c id) (insert c joined)
        (insert c spoken) := touched.join c
  rw [twice] at joins
  exact joins fresh

end HostBinding
