import NoxServer.Library.Outcomes
import NoxServer.Network.HandlerStates

/-!
Runs of a `SocketHandler`.

Whatever the overridden functions do, and whatever `select` and the clock say, the handler never
uses a socket that has been deleted (`run_completes`), calls `OnDelete` of a socket before it
deletes it and once only unless it was closed in `m_add` (`told_before_deleted`), never asks
`select` about a descriptor that has been closed (`watches_open`), and is done in a `Select` with
what there is to do (`select_progress`).
-/

namespace NoxServer.Network

open OrderedMap Outcomes

namespace SocketHandler

variable {w w' w'' : SocketHandler} {p : Nat} {a b : Socket}

/-! ### What overridden functions may change -/

/-- What the code around the handler leaves as it is. -/
structure Later (w w' : SocketHandler) : Prop where
  sockets : w'.sockets = w.sockets
  fdsErase : w'.fdsErase = w.fdsErase
  log : w'.log = w.log
  delete : ∃ new, w'.delete = w.delete ++ new
  kept : ∀ {p a}, w.heap p = some a → ∃ b, w'.heap p = some b ∧ a.Kept b
  new : ∀ {p b}, w'.heap p = some b → w.heap p = none → w.next ≤ p ∧ b.erasedByHandler = false
  next : w.next ≤ w'.next
  owned : ∀ p ∈ w'.owned, p ∈ w.owned ∨ w.next ≤ p

theorem Later.refl (w : SocketHandler) : Later w w where
  sockets := rfl
  fdsErase := rfl
  log := rfl
  delete := ⟨[], (List.append_nil _).symm⟩
  kept live := ⟨_, live, .refl _⟩
  new live none := by cases none.symm.trans live
  next := Nat.le_refl _
  owned p mem := .inl mem

/-- Two calls one after the other leave as it is what each of them leaves. -/
theorem Later.trans (first : Later w w') (second : Later w' w'') : Later w w'' where
  sockets := second.sockets.trans first.sockets
  fdsErase := second.fdsErase.trans first.fdsErase
  log := second.log.trans first.log
  delete := by
    obtain ⟨new, is⟩ := first.delete
    obtain ⟨new', is'⟩ := second.delete
    exact ⟨new ++ new', by rw [is', is, List.append_assoc]⟩
  kept live := by
    obtain ⟨b, live', kept⟩ := first.kept live
    obtain ⟨c, live'', kept'⟩ := second.kept live'
    exact ⟨c, live'', kept.trans kept'⟩
  new {p c} live none := by
    cases between : w'.heap p with
    | none =>
        obtain ⟨above, unmarked⟩ := second.new live between
        exact ⟨Nat.le_trans first.next above, unmarked⟩
    | some b =>
        obtain ⟨above, unmarked⟩ := first.new between none
        obtain ⟨c', live', kept⟩ := second.kept between
        cases live.symm.trans live'
        exact ⟨above, kept.erasedByHandler.trans unmarked⟩
  next := Nat.le_trans first.next second.next
  owned p mem := by
    rcases second.owned p mem with mem | above
    · exact first.owned p mem
    · exact .inr (Nat.le_trans first.next above)

theorem Later.touched (touched : Touched w p b w') (here : w.heap p = some a) (kept : a.Kept b) :
    Later w w' := by
  have heap := touched
  obtain ⟨_, _, _, _, rfl⟩ := touched
  refine ⟨rfl, rfl, rfl, ⟨[], (List.append_nil _).symm⟩, fun {q c} live => ?_,
    fun {q c} live none => ?_, Nat.le_refl _, fun q mem => .inl mem⟩
  · by_cases same : q = p
    · subst same
      cases here.symm.trans live
      exact ⟨b, heap.self, kept⟩
    · exact ⟨c, (heap.other same).trans live, .refl c⟩
  · rcases heap.cases live with ⟨rfl, -⟩ | ⟨-, live⟩
    · cases none.symm.trans here
    · cases none.symm.trans live

/-! ### What holds of the log -/

/-- `OnDelete` is called before a socket is deleted, and once only if the socket is not closed in
`m_add`; nothing is deleted twice. -/
structure Logged (w : SocketHandler) : Prop where
  known : ∀ p, Entry.told p ∈ w.log ∨ Entry.deleted p ∈ w.log → p < w.next
  once : ∀ p, Entry.closedInAdd p ∉ w.log → w.log.count (Entry.told p) ≤ 1
  marked : ∀ {p a}, w.heap p = some a → a.erasedByHandler = true →
    Entry.told p ∈ w.log ∧ a.deleteByHandler = true
  dead : ∀ p, Entry.deleted p ∈ w.log → w.heap p = none
  deletedOnce : ∀ p, w.log.count (Entry.deleted p) ≤ 1
  order : ∀ (i p : Nat), w.log[i]? = some (Entry.deleted p) →
    ∃ j < i, w.log[j]? = some (Entry.told p)

/-- A socket that has been told is on its way out of the handler, and is marked if the handler is to
delete it, unless it was closed in `m_add` or is the one the handler is busy with. -/
structure Leaving (busy : Option Nat) (w : SocketHandler) : Prop where
  out : ∀ {p}, Entry.told p ∈ w.log → Entry.closedInAdd p ∉ w.log → busy ≠ some p →
    (p ∈ w.owned ∨ ∃ a, w.heap p = some a ∧ a.deleteByHandler = true) →
    ∃ s ∈ w.fdsErase, (s, p) ∈ w.sockets ∧
      ∀ a, w.heap p = some a → a.deleteByHandler = true → a.erasedByHandler = true
  pending : ∀ {s p}, s ∈ w.fdsErase → (s, p) ∈ w.sockets → Entry.told p ∈ w.log

/-- The log agrees with the sockets after whatever the overridden functions do. -/
theorem Logged.later (logged : Logged w) (later : Later w w') : Logged w' := by
  have log := later.log
  refine ⟨?_, ?_, ?_, ?_, ?_, ?_⟩
  · intro p mem
    rw [log] at mem
    exact Nat.lt_of_lt_of_le (logged.known p mem) later.next
  · rw [log]
    exact logged.once
  · intro p b live marked
    rw [log]
    cases before : w.heap p with
    | none => cases marked.symm.trans (later.new live before).2
    | some a =>
        obtain ⟨b', live', kept⟩ := later.kept before
        cases live.symm.trans live'
        rw [kept.erasedByHandler] at marked
        rw [kept.deleteByHandler]
        exact logged.marked before marked
  · intro p was
    rw [log] at was
    cases live : w'.heap p with
    | none => rfl
    | some b =>
        have above := (later.new live (logged.dead p was)).1
        exact absurd (logged.known p (.inr was)) (Nat.not_lt.mpr above)
  · rw [log]
    exact logged.deletedOnce
  · rw [log]
    exact logged.order

/-- Who is leaving is still leaving after whatever the overridden functions do. -/
theorem Leaving.later {busy : Option Nat} (leaving : Leaving busy w) (logged : Logged w)
    (later : Later w w') : Leaving busy w' := by
  constructor
  · intro p was calm other there
    rw [later.log] at was calm
    have below : ¬ w.next ≤ p := Nat.not_le.mpr (logged.known p (.inl was))
    have before {b : Socket} (live : w'.heap p = some b) :
        ∃ a, w.heap p = some a ∧ a.Kept b := by
      cases old : w.heap p with
      | none => exact absurd (later.new live old).1 below
      | some a =>
          obtain ⟨b', live', kept⟩ := later.kept old
          cases live.symm.trans live'
          exact ⟨a, rfl, kept⟩
    have there : p ∈ w.owned ∨ ∃ a, w.heap p = some a ∧ a.deleteByHandler = true := by
      rcases there with mem | ⟨b, live, own⟩
      · exact .inl ((later.owned p mem).resolve_right below)
      · obtain ⟨a, old, kept⟩ := before live
        exact .inr ⟨a, old, kept.deleteByHandler ▸ own⟩
    obtain ⟨s, pending, mem, marked⟩ := leaving.out was calm other there
    rw [later.fdsErase, later.sockets]
    refine ⟨s, pending, mem, fun b live own => ?_⟩
    obtain ⟨a, old, kept⟩ := before live
    rw [kept.erasedByHandler]
    exact marked a old (kept.deleteByHandler ▸ own)
  · intro s p pending mem
    rw [later.fdsErase] at pending
    rw [later.sockets] at mem
    rw [later.log]
    exact leaving.pending pending mem

theorem Leaving.touched {busy : Option Nat} (leaving : Leaving busy w)
    (touched : Touched w p b w') (here : w.heap p = some a)
    (own : b.deleteByHandler = a.deleteByHandler)
    (marked : a.erasedByHandler = true → b.erasedByHandler = true) : Leaving busy w' := by
  have heap := touched
  obtain ⟨_, _, _, _, rfl⟩ := touched
  refine ⟨fun {q} was calm other there => ?_, leaving.pending⟩
  have there : q ∈ w.owned ∨ ∃ a, w.heap q = some a ∧ a.deleteByHandler = true := by
    rcases there with mem | ⟨c, live, isOwn⟩
    · exact .inl mem
    · rcases heap.cases live with ⟨rfl, rfl⟩ | ⟨-, live⟩
      · exact .inr ⟨a, here, own ▸ isOwn⟩
      · exact .inr ⟨c, live, isOwn⟩
  obtain ⟨s, pending, mem, all⟩ := leaving.out was calm other there
  refine ⟨s, pending, mem, fun c live isOwn => ?_⟩
  rcases heap.cases live with ⟨rfl, rfl⟩ | ⟨-, live⟩
  · exact marked (all a here (own ▸ isOwn))
  · exact all c live isOwn

/-- The handler is busy with a socket it tells. -/
theorem Leaving.record {busy : Option Nat} (leaving : Leaving busy w) (busy' : Option Nat)
    (entry : Entry) (told : ∀ p, entry = .told p → busy' = some p)
    (still : ∀ p, busy = some p → busy' = some p) :
    Leaving busy' (w.record entry) where
  out {p} was calm other there := by
    refine leaving.out ?_ (fun mem => calm (List.mem_append_left _ mem))
      (fun is => other (still p is)) there
    refine (List.mem_append.mp was).resolve_right fun is => other (told p ?_)
    exact (List.mem_singleton.mp is).symm
  pending pending mem := List.mem_append_left _ (leaving.pending pending mem)

theorem Logged.touched (logged : Logged w) (touched : Touched w p b w')
    (here : w.heap p = some a) (same : b.erasedByHandler = true →
      Entry.told p ∈ w.log ∧ b.deleteByHandler = true) : Logged w' := by
  have heap := touched
  obtain ⟨_, _, _, _, rfl⟩ := touched
  refine ⟨logged.known, logged.once, fun live marked => ?_, fun q was => ?_, logged.deletedOnce,
    logged.order⟩
  · rcases heap.cases live with ⟨rfl, rfl⟩ | ⟨-, live⟩
    · exact same marked
    · exact logged.marked live marked
  · by_cases own : q = p
    · subst own
      cases (logged.dead q was).symm.trans here
    · exact (heap.other own).trans (logged.dead q was)

/-- An entry that is not a deletion. -/
theorem Logged.record (logged : Logged w) {entry : Entry}
    (apart : ∀ p, entry ≠ Entry.deleted p)
    (told : ∀ p, entry = Entry.told p →
      p < w.next ∧ (Entry.told p ∉ w.log ∨ Entry.closedInAdd p ∈ w.log)) :
    Logged (w.record entry) := by
  have old {e : Entry} (mem : e ∈ w.log) : e ∈ (w.record entry).log := List.mem_append_left _ mem
  have cases {e : Entry} (mem : e ∈ (w.record entry).log) : e ∈ w.log ∨ e = entry :=
    (List.mem_append.mp mem).imp id List.mem_singleton.mp
  refine ⟨?_, ?_, ?_, ?_, ?_, ?_⟩
  · rintro p (mem | mem)
    · rcases cases mem with mem | is
      · exact logged.known p (.inl mem)
      · exact (told p is.symm).1
    · rcases cases mem with mem | is
      · exact logged.known p (.inr mem)
      · exact absurd is.symm (apart p)
  · intro p calm
    have before := logged.once p fun mem => calm (old mem)
    change (w.log ++ [entry]).count _ ≤ 1
    rw [List.count_append]
    by_cases is : entry = Entry.told p
    · rcases (told p is).2 with new | closed
      · rw [List.count_eq_zero_of_not_mem new, is]
        exact Nat.le_of_eq (by rw [List.count_singleton_self])
      · exact absurd (old closed) calm
    · rw [List.count_eq_zero_of_not_mem fun mem => is (List.mem_singleton.mp mem).symm]
      exact before
  · intro p a live marked
    exact (logged.marked live marked).imp old id
  · intro p mem
    rcases cases mem with mem | is
    · exact logged.dead p mem
    · exact absurd is.symm (apart p)
  · intro p
    change (w.log ++ [entry]).count _ ≤ 1
    rw [List.count_append, List.count_eq_zero_of_not_mem fun mem =>
      apart p (List.mem_singleton.mp mem).symm]
    exact logged.deletedOnce p
  · intro i p at_i
    change (w.log ++ [entry])[i]? = _ at at_i
    by_cases inside : i < w.log.length
    · rw [List.getElem?_append_left inside] at at_i
      obtain ⟨j, below, at_j⟩ := logged.order i p at_i
      exact ⟨j, below, (List.getElem?_append_left (Nat.lt_trans below inside)).trans at_j⟩
    · rw [List.getElem?_append_right (Nat.not_lt.mp inside)] at at_i
      exact absurd (List.mem_singleton.mp (List.mem_of_getElem? at_i)).symm (apart p)

/-- A socket that has been told is deleted. -/
theorem Logged.delete (logged : Logged w) (here : w.heap p = some a) (told : Entry.told p ∈ w.log)
    (log : w'.log = w.log ++ [Entry.deleted p]) (heap : w'.heap = Function.update w.heap p none)
    (next : w'.next = w.next) : Logged w' := by
  have new : Entry.deleted p ∉ w.log := by
    intro mem
    cases (logged.dead p mem).symm.trans here
  refine ⟨?_, ?_, ?_, ?_, ?_, ?_⟩
  · intro q mem
    rw [next]
    simp only [log, List.mem_append, List.mem_singleton, reduceCtorEq, or_false,
      Entry.deleted.injEq] at mem
    rcases mem with mem | mem | rfl
    · exact logged.known q (.inl mem)
    · exact logged.known q (.inr mem)
    · exact logged.known q (.inl told)
  · intro q calm
    rw [log, List.count_append, List.count_eq_zero_of_not_mem (l := [_]) (by simp)]
    exact logged.once q fun mem => calm (log ▸ List.mem_append_left _ mem)
  · intro q c live marked
    have other : q ≠ p := by
      rintro rfl
      rw [heap, Function.update_self] at live
      cases live
    rw [heap, Function.update_of_ne other] at live
    exact (logged.marked live marked).imp (fun mem => log ▸ List.mem_append_left _ mem) id
  · intro q mem
    by_cases same : q = p
    · rw [heap, same, Function.update_self]
    · rw [heap, Function.update_of_ne same]
      rw [log] at mem
      refine logged.dead q ((List.mem_append.mp mem).resolve_right fun is => ?_)
      exact same (Entry.deleted.inj (List.mem_singleton.mp is))
  · intro q
    rw [log, List.count_append]
    by_cases same : q = p
    · refine Nat.le_of_eq ?_
      rw [same, List.count_eq_zero_of_not_mem new, List.count_singleton_self]
    · rw [List.count_eq_zero_of_not_mem (l := [_]) (by simpa using same)]
      exact logged.deletedOnce q
  · intro i q at_i
    rw [log] at at_i ⊢
    by_cases inside : i < w.log.length
    · rw [List.getElem?_append_left inside] at at_i
      obtain ⟨j, below, at_j⟩ := logged.order i q at_i
      exact ⟨j, below, (List.getElem?_append_left (Nat.lt_trans below inside)).trans at_j⟩
    · rw [List.getElem?_append_right (Nat.not_lt.mp inside)] at at_i
      cases List.mem_singleton.mp (List.mem_of_getElem? at_i)
      obtain ⟨j, below, at_j⟩ := List.mem_iff_getElem.mp told
      refine ⟨j, Nat.lt_of_lt_of_le below (Nat.not_lt.mp inside), ?_⟩
      rw [List.getElem?_append_left below, List.getElem?_eq_getElem below, at_j]

/-- What holds of every state. -/
structure Sound (busy : Option Nat) (w : SocketHandler) : Prop where
  owned : Owned w
  listed : Listed w
  keyed : Keyed w
  logged : Logged w
  leaving : Leaving busy w

variable {busy : Option Nat}

theorem Sound.call (sound : Sound busy w) (here : w.heap p = some a) (setter : Setter) :
    Sound busy (w.call p a setter) ∧ Later w (w.call p a setter) := by
  obtain ⟨b, kept, touched⟩ := touched_call here setter
  have later := Later.touched touched here kept
  exact ⟨⟨sound.owned.touched touched here, sound.listed.call here setter,
    sound.keyed.touched touched here kept.socket kept.closing, sound.logged.later later,
    sound.leaving.later sound.logged later⟩, later⟩

theorem Sound.callOn (sound : Sound busy w) (p : Nat) (setter : Setter) :
    Sound busy (w.callOn p setter) ∧ Later w (w.callOn p setter) := by
  rw [SocketHandler.callOn]
  split
  · next a here => exact sound.call here setter
  · exact ⟨sound, .refl w⟩

/-- The functions that are called leave a new socket out of the handler. -/
theorem Sound.callsOn (sound : Sound busy w) (p : Nat) (setters : List Setter) :
    let w' := setters.foldl (fun w setter => w.callOn p setter) w
    Sound busy w' ∧ Later w w' ∧ w'.owned = w.owned ∧ w'.next = w.next := by
  induction setters generalizing w with
  | nil => exact ⟨sound, .refl w, rfl, rfl⟩
  | cons setter setters ih =>
      obtain ⟨sound', later⟩ := sound.callOn p setter
      obtain ⟨sound'', later', owned, next⟩ := ih sound'
      have same : (w.callOn p setter).owned = w.owned ∧ (w.callOn p setter).next = w.next := by
        rw [SocketHandler.callOn]
        split
        · next a here =>
            obtain ⟨b, -, _, _, _, _, eq⟩ := touched_call here setter
            rw [eq]
            exact ⟨rfl, rfl⟩
        · exact ⟨rfl, rfl⟩
      exact ⟨sound'', later.trans later', owned.trans same.1, next.trans same.2⟩

theorem Sound.newSocket (sound : Sound busy w) {made : Made}
    (new : made.socket.any w.isOpen = false) :
    Sound busy (w.newSocket made) ∧ Later w (w.newSocket made) := by
  obtain ⟨owned, out⟩ := sound.owned.newSocket made
  have later : Later w (w.newSocket made) := by
    refine ⟨rfl, rfl, rfl, ⟨[], (List.append_nil _).symm⟩, fun {q a} live => ?_,
      fun {q b} live none => ?_, Nat.le_succ _, fun q mem => .inl mem⟩
    · have other : q ≠ w.next := Nat.ne_of_lt (sound.owned.fresh q a live)
      exact ⟨a, (Function.update_of_ne other ..).trans live, .refl a⟩
    · by_cases same : q = w.next
      · subst same
        cases (Function.update_self ..).symm.trans live
        exact ⟨Nat.le_refl _, rfl⟩
      · cases none.symm.trans ((Function.update_of_ne same ..).symm.trans live)
  have keyed : Keyed (w.newSocket made) := by
    have kept := sound.keyed.outside out (w.newSocket made).heap
      fun q other => Function.update_of_ne other ..
    exact ⟨kept.key, kept.fds, kept.range⟩
  exact ⟨⟨owned, sound.listed.newSocket sound.owned new, keyed, sound.logged.later later,
    sound.leaving.later sound.logged later⟩, later⟩

theorem mem_owned_addSocket {q : Nat} (mem : q ∈ (w.addSocket p a).owned) :
    q ∈ w.owned ∨ q = p := by
  rcases addSocket_cases w p a with same | added | ⟨s, -, new, added⟩
  · exact .inl (same ▸ mem)
  · rw [added] at mem
    rcases mem_owned.mp mem with active | waiting | mem
    · exact .inl (mem_owned.mpr (.inl active))
    · exact .inl (mem_owned.mpr (.inr (.inl waiting)))
    · rcases List.mem_append.mp mem with mem | mem
      · exact .inl (mem_owned.mpr (.inr (.inr mem)))
      · exact .inr (List.mem_singleton.mp mem)
  · rw [added] at mem
    rcases mem_owned.mp mem with active | ⟨t, mem⟩ | mem
    · exact .inl (mem_owned.mpr (.inl active))
    · rcases List.mem_cons.mp ((put_perm new p).subset mem) with first | mem
      · cases first
        exact .inr rfl
      · exact .inl (mem_owned.mpr (.inr (.inl ⟨t, mem⟩)))
    · exact .inl (mem_owned.mpr (.inr (.inr mem)))

theorem Later.addSocket (later : Later w w') (above : w.next ≤ p) (a : Socket) :
    Later w (w'.addSocket p a) := by
  have owned (q : Nat) (mem : q ∈ (w'.addSocket p a).owned) : q ∈ w.owned ∨ w.next ≤ q := by
    rcases mem_owned_addSocket mem with mem | rfl
    · exact later.owned q mem
    · exact .inr above
  rcases addSocket_cases w' p a with same | added | ⟨s, -, -, added⟩
  · rwa [same]
  · rw [added] at owned ⊢
    obtain ⟨new, is⟩ := later.delete
    exact ⟨later.sockets, later.fdsErase, later.log, ⟨new ++ [p], by rw [is, List.append_assoc]⟩,
      later.kept, later.new, later.next, owned⟩
  · rw [added] at owned ⊢
    exact ⟨later.sockets, later.fdsErase, later.log, later.delete, later.kept, later.new,
      later.next, owned⟩

theorem Sound.addMade (sound : Sound busy w) (made : Made) :
    Sound busy (w.addMade made) ∧ Later w (w.addMade made) := by
  rw [SocketHandler.addMade]
  split
  · exact ⟨sound, .refl w⟩
  · next new =>
      obtain ⟨sound', later⟩ := sound.newSocket (Bool.eq_false_iff.mpr new)
      obtain ⟨sound'', later', owned, -⟩ := sound'.callsOn w.next made.setters
      obtain ⟨a, live, -⟩ := later'.kept (p := w.next) (Function.update_self ..)
      have out : w.next ∉ (w.newSocket made).owned := (sound.owned.newSocket made).2
      have above := (later.trans later').addSocket (Nat.le_refl w.next) a
      dsimp only
      rw [live]
      exact ⟨⟨sound''.owned.addSocket live (owned ▸ out), sound''.listed.addSocket w.next a,
        sound''.keyed.addSocket live, sound.logged.later above,
        sound.leaving.later sound.logged above⟩, above⟩

theorem Sound.act (sound : Sound busy w) (action : Action) :
    Sound busy (w.act action) ∧ Later w (w.act action) := by
  cases action with
  | call p setter => exact sound.callOn p setter
  | add made => exact sound.addMade made
  | accept s =>
      rw [SocketHandler.act]
      split
      · exact ⟨sound, .refl w⟩
      · exact sound.addMade _

theorem Sound.acts (sound : Sound busy w) (actions : List Action) :
    Sound busy (actions.foldl SocketHandler.act w) ∧
      Later w (actions.foldl SocketHandler.act w) := by
  induction actions generalizing w with
  | nil => exact ⟨sound, .refl w⟩
  | cons action actions ih =>
      obtain ⟨sound', later⟩ := sound.act action
      obtain ⟨sound'', later'⟩ := ih sound'
      exact ⟨sound'', later.trans later'⟩

/-- The script is not looked at. -/
theorem Sound.rescript (sound : Sound busy w) (script : List (List Action)) :
    Sound busy { w with script } where
  owned := { sound.owned with }
  listed := { sound.listed with }
  keyed := { sound.keyed with }
  logged := { sound.logged with }
  leaving := { sound.leaving with }

theorem Later.rescript (later : Later w w') (script : List (List Action)) :
    Later { w with script } w' := { later with }

theorem callOn_rest (w : SocketHandler) (p : Nat) (setter : Setter) :
    (w.callOn p setter).delete = w.delete ∧ (w.callOn p setter).script = w.script := by
  rw [SocketHandler.callOn]
  split
  · next a here =>
      obtain ⟨b, -, _, _, _, _, eq⟩ := touched_call here setter
      rw [eq]
      exact ⟨rfl, rfl⟩
  · exact ⟨rfl, rfl⟩

/-- A new socket is one more in `m_delete` at most. -/
theorem addMade_rest (w : SocketHandler) (made : Made) :
    (w.addMade made).delete.length ≤ w.delete.length + 1 ∧
      (w.addMade made).script = w.script := by
  rw [SocketHandler.addMade]
  split
  · exact ⟨Nat.le_succ _, rfl⟩
  · have calls (w : SocketHandler) (p : Nat) (setters : List Setter) :
        (setters.foldl (fun w setter => w.callOn p setter) w).delete = w.delete ∧
          (setters.foldl (fun w setter => w.callOn p setter) w).script = w.script := by
      induction setters generalizing w with
      | nil => exact ⟨rfl, rfl⟩
      | cons setter setters ih =>
          obtain ⟨delete, script⟩ := callOn_rest w p setter
          exact (ih (w.callOn p setter)).imp (·.trans delete) (·.trans script)
    obtain ⟨delete, script⟩ := calls (w.newSocket made) w.next made.setters
    have start : (w.newSocket made).delete = w.delete ∧ (w.newSocket made).script = w.script :=
      ⟨rfl, rfl⟩
    rw [start.1] at delete
    rw [start.2] at script
    dsimp only
    generalize made.setters.foldl (fun w' setter => w'.callOn w.next setter) (w.newSocket made) =
      w' at *
    split
    · next a _ =>
        rcases addSocket_cases w' w.next a with same | added | ⟨s, -, -, added⟩
        · rw [same, delete]
          exact ⟨Nat.le_succ _, script⟩
        · rw [added]
          refine ⟨Nat.le_of_eq ?_, script⟩
          rw [List.length_append, List.length_singleton, delete]
        · rw [added]
          exact ⟨delete ▸ Nat.le_succ _, script⟩
    · rw [delete]
      exact ⟨Nat.le_succ _, script⟩

theorem act_rest (w : SocketHandler) (action : Action) :
    (w.act action).delete.length ≤ w.delete.length + 1 ∧ (w.act action).script = w.script := by
  cases action with
  | call p setter =>
      obtain ⟨delete, script⟩ := callOn_rest w p setter
      rw [SocketHandler.act, delete]
      exact ⟨Nat.le_succ _, script⟩
  | add made => exact addMade_rest w made
  | accept s =>
      rw [SocketHandler.act]
      split
      · exact ⟨Nat.le_succ _, rfl⟩
      · exact addMade_rest w _

theorem acts_rest (w : SocketHandler) (actions : List Action) :
    (actions.foldl SocketHandler.act w).delete.length ≤ w.delete.length + actions.length ∧
      (actions.foldl SocketHandler.act w).script = w.script := by
  induction actions generalizing w with
  | nil => exact ⟨Nat.le_refl _, rfl⟩
  | cons action actions ih =>
      obtain ⟨delete, script⟩ := act_rest w action
      obtain ⟨delete', script'⟩ := ih (w.act action)
      rw [List.foldl_cons, List.length_cons]
      exact ⟨by omega, script'.trans script⟩

/-- What an overridden function may do. It has done one thing at least for each new pointer in
`m_delete`. -/
theorem callback_completes (sound : Sound busy w) (here : w.heap p = some a) :
    Completes (w.callback p) fun w' => Sound busy w' ∧ Later w w' ∧
      w'.delete.length + w'.pending ≤ w.delete.length + w.pending := by
  rw [callback, deref_of_live here, ok_bind]
  split
  · exact completes_ok ⟨sound, .refl w, Nat.le_refl _⟩
  · next actions script rest =>
      obtain ⟨sound', later⟩ := (sound.rescript script).acts actions
      refine completes_ok ⟨sound', later.rescript w.script, ?_⟩
      obtain ⟨delete, same⟩ := acts_rest { w with script } actions
      rw [pending, pending, same, rest, List.map_cons, List.sum_cons]
      dsimp only at delete ⊢
      omega

/-! ### The parts of Select -/

/-- Before the sockets that are to be closed are looked at, none is on its way out. -/
structure Steady (w : SocketHandler) : Prop where
  sound : Sound none w
  calm : w.fdsErase = []

/-- A socket that has been told is gone when none is on its way out. -/
theorem Sound.gone (sound : Sound busy w) (empty : w.fdsErase = []) (was : Entry.told p ∈ w.log)
    (calm : Entry.closedInAdd p ∉ w.log) (other : busy ≠ some p) :
    p ∉ w.owned ∧ ¬ ∃ a, w.heap p = some a ∧ a.deleteByHandler = true := by
  refine not_or.mp fun there => ?_
  obtain ⟨s, pending, -⟩ := sound.leaving.out was calm other there
  rw [empty] at pending
  cases pending

theorem Steady.gone (steady : Steady w) (was : Entry.told p ∈ w.log)
    (calm : Entry.closedInAdd p ∉ w.log) :
    p ∉ w.owned ∧ ¬ ∃ a, w.heap p = some a ∧ a.deleteByHandler = true :=
  steady.sound.gone steady.calm was calm nofun

theorem leaving_of_gone {busy : Option Nat} (calm : w.fdsErase = [])
    (gone : ∀ p, Entry.told p ∈ w.log → Entry.closedInAdd p ∉ w.log → busy ≠ some p →
      p ∉ w.owned ∧ ¬ ∃ a, w.heap p = some a ∧ a.deleteByHandler = true) : Leaving busy w where
  out {p} was calm other there := by
    obtain ⟨out, free⟩ := gone p was calm other
    exact (there.elim out free).elim
  pending pending _ := by
    rw [calm] at pending
    cases pending

theorem Steady.callback (steady : Steady w) (here : w.heap p = some a) :
    Completes (w.callback p) fun w' => Steady w' ∧ Later w w' :=
  (callback_completes steady.sound here).mono fun _ after =>
    ⟨⟨after.1, after.2.1.fdsErase.trans steady.calm⟩, after.2.1⟩

theorem Steady.call (steady : Steady w) (here : w.heap p = some a) (setter : Setter) :
    Steady (w.call p a setter) ∧ Later w (w.call p a setter) := by
  obtain ⟨sound, later⟩ := steady.sound.call here setter
  exact ⟨⟨sound, later.fdsErase.trans steady.calm⟩, later⟩

/-- What a map has is a socket. -/
theorem Owned.find_live (owned : Owned w) {s : Nat} (found : find fdLess s w.sockets = some p) :
    (s, p) ∈ w.sockets ∧ ∃ a, w.heap p = some a := by
  have mem := (mem_iff_find_fd owned.sockets).mpr found
  exact ⟨mem, owned.live p (mem_owned.mpr (.inl ⟨s, mem⟩))⟩

/-- A socket that goes from `m_add` to `m_sockets` leaves the handler steady: it is owned once, and
watched for exceptions at least. -/
theorem Steady.activate (steady : Steady w) {s : Nat} {rest : List (Nat × Nat)}
    (first : w.add = (s, p) :: rest) (here : w.heap p = some a) :
    Steady (w.activate s p a) := by
  have owned := steady.sound.owned.activate first a
  have listed := steady.sound.listed.activate steady.sound.keyed first here
  have keyed := steady.sound.keyed.activate first here
  have fewer {q : Nat} (mem : q ∈ (w.activate s p a).owned) : q ∈ w.owned := by
    obtain ⟨_, _, _, _, eq, -⟩ := activate_eq w s p a
    rw [eq, first] at mem
    rcases mem_owned.mp mem with ⟨t, mem⟩ | ⟨t, mem⟩ | mem
    · rcases mem_put mem with old | ⟨is, -⟩
      · exact mem_owned.mpr (.inl ⟨t, old⟩)
      · cases is
        exact mem_owned.mpr (.inr (.inl ⟨s, first ▸ List.mem_cons_self⟩))
    · exact mem_owned.mpr (.inr (.inl ⟨t, first ▸ List.mem_cons_of_mem _ mem⟩))
    · exact mem_owned.mpr (.inr (.inr mem))
  have out (q : Nat) (was : Entry.told q ∈ w.log) (calm : Entry.closedInAdd q ∉ w.log) :
      q ∉ (w.activate s p a).owned := fun mem => (steady.gone was calm).1 (fewer mem)
  obtain ⟨_, _, _, _, eq, -⟩ := activate_eq w s p a
  rw [eq] at owned listed keyed out ⊢
  exact ⟨⟨owned, listed, keyed, { steady.sound.logged with },
    leaving_of_gone steady.calm fun q was calm _ => ⟨out q was calm, (steady.gone was calm).2⟩⟩,
    steady.calm⟩

theorem addLoop_completes (turns : Nat) (steady : Steady w) :
    Completes (addLoop turns w) Steady := by
  induction turns generalizing w with
  | zero => exact completes_ok steady
  | succ turns ih =>
      rw [addLoop]
      refine .ite (fun _ => completes_ok steady) fun _ => ?_
      split
      · exact completes_ok steady
      · next s p rest first =>
          have mem : p ∈ w.owned := mem_owned.mpr (.inr (.inl ⟨s, first ▸ List.mem_cons_self⟩))
          obtain ⟨a, here⟩ := steady.sound.owned.live p mem
          rw [deref_of_live here, ok_bind]
          exact .ite (fun _ => ih steady) fun _ => ih (steady.activate first here)

/-- Nothing but code around the handler has changed the state. -/
def Follows (w w' : SocketHandler) : Prop := Steady w' ∧ Later w w'

theorem Steady.follows (steady : Steady w) : Follows w w := ⟨steady, .refl w⟩

theorem Follows.trans (first : Follows w w') (second : Follows w' w'') : Follows w w'' :=
  ⟨second.1, first.2.trans second.2⟩

theorem checkReady_completes (isSet : Bool) (i : Nat) (steady : Steady w) (n : Int) :
    Completes (checkReady isSet i w n) fun checked => Follows w checked.1 := by
  rw [checkReady]
  refine .ite (fun _ => ?_) fun _ => completes_ok steady.follows
  split
  · next p found =>
      obtain ⟨-, a, here⟩ := steady.sound.owned.find_live found
      exact (steady.callback here).bind fun w' after => completes_ok after
  · exact completes_ok steady.follows

theorem eventLoop_completes (rfds wfds efds : Nat → Bool) (fds : List Nat) (steady : Steady w)
    (n : Int) : Completes (eventLoop rfds wfds efds fds w n) (Follows w) := by
  induction fds generalizing w n with
  | nil => exact completes_ok steady.follows
  | cons i fds ih =>
      rw [eventLoop]
      refine .ite (fun _ => completes_ok steady.follows) fun _ => ?_
      refine (checkReady_completes (rfds i) i steady n).bind fun read first => ?_
      refine (checkReady_completes (wfds i) i first.1 read.2).bind fun written second => ?_
      refine (checkReady_completes (efds i) i second.1 written.2).bind fun checked third => ?_
      exact (ih third.1 checked.2).mono fun _ last =>
        ((first.trans second).trans third).trans last

theorem events_completes (steady : Steady w) (turn : Turn) :
    Completes (w.events turn) (Follows w) := by
  rw [events]
  exact .ite (fun _ => eventLoop_completes _ _ _ w.fds steady turn.n)
    fun _ => completes_ok steady.follows

/-- A turn of the loop over `m_fds_callonconnect` completes and leaves the handler steady, whatever
`OnConnect` does. -/
theorem checkCallOnConnect_completes (steady : Steady w) (s : Nat) :
    Completes (checkCallOnConnect w s) (Follows w) := by
  rw [checkCallOnConnect]
  split
  · exact completes_ok steady.follows
  · next p found =>
      obtain ⟨-, a, here⟩ := steady.sound.owned.find_live found
      rw [deref_of_live here, ok_bind]
      refine .ite (fun _ => ?_) fun _ => completes_ok steady.follows
      have connected := steady.call here (.setConnected true)
      obtain ⟨b, here, -⟩ := connected.2.kept here
      have written : Completes ((w.write p { a with connected := true }).writeOut p a)
          fun w' => Follows w w' ∧ ∃ b, w'.heap p = some b := by
        rw [writeOut]
        refine .ite (fun _ => ?_) fun _ => completes_ok ⟨connected, b, here⟩
        refine (connected.1.callback here).mono fun w' after => ?_
        obtain ⟨c, live, -⟩ := after.2.kept here
        exact ⟨Follows.trans connected after, c, live⟩
      refine written.bind fun w' ⟨follows, c, here⟩ => ?_
      refine (follows.1.callback here).bind fun w'' after => ?_
      obtain ⟨d, here, -⟩ := after.2.kept here
      rw [deref_of_live here, ok_bind]
      exact completes_ok
        ((follows.trans after).trans (after.1.call here (.setCallOnConnect false)))

theorem Owned.found_of_mem (owned : Owned w) {nn : Nat} (mem : (nn, p) ∈ w.sockets) :
    w.found nn = some p := by
  rw [SocketHandler.found, (mem_iff_find_fd owned.sockets).mp mem]
  rfl

/-- What is found for a descriptor is a socket, and where it is. -/
theorem Owned.found_live (owned : Owned w) {s : Nat} (found : w.found s = some p) :
    ((s, p) ∈ w.sockets ∨ (find fdLess s w.sockets = none ∧ (s, p) ∈ w.add)) ∧
      ∃ a, w.heap p = some a := by
  rcases Option.or_eq_some_iff.mp found with active | ⟨inactive, waiting⟩
  · obtain ⟨mem, live⟩ := owned.find_live active
    exact ⟨.inl mem, live⟩
  · have mem := (mem_iff_find_fd owned.add).mpr waiting
    exact ⟨.inr ⟨inactive, mem⟩, owned.live p (mem_owned.mpr (.inr (.inl ⟨s, mem⟩)))⟩

theorem checkConnecting_completes (turn : Turn) (steady : Steady w) (s : Nat) :
    Completes (checkConnecting turn w s) (Follows w) := by
  rw [checkConnecting]
  split
  · exact completes_ok steady.follows
  · next p found =>
      obtain ⟨-, a, here⟩ := steady.sound.owned.found_live found
      rw [deref_of_live here, ok_bind]
      refine .ite (fun _ => ?_) fun _ => completes_ok steady.follows
      have closing := steady.call here .setCloseAndDelete
      obtain ⟨b, here, -⟩ := closing.2.kept here
      refine (closing.1.callback here).bind fun w' after => ?_
      obtain ⟨c, here, -⟩ := after.2.kept here
      rw [deref_of_live here, ok_bind]
      exact completes_ok
        ((Follows.trans closing after).trans (after.1.call here (.setConnecting false)))

/-! #### Closing -/

/-- What is on record stays there, and no socket is on record as closed in `m_add` that was not
before. -/
structure Recorded (w w' : SocketHandler) : Prop where
  old : ∀ e ∈ w.log, e ∈ w'.log
  calm : ∀ p, Entry.closedInAdd p ∈ w'.log → Entry.closedInAdd p ∈ w.log

theorem Recorded.trans (first : Recorded w w') (second : Recorded w' w'') : Recorded w w'' :=
  ⟨fun e mem => second.old e (first.old e mem), fun p mem => first.calm p (second.calm p mem)⟩

theorem Recorded.of_same (same : w'.log = w.log) : Recorded w w' :=
  ⟨fun _ mem => same ▸ mem, fun _ mem => same ▸ mem⟩

theorem Recorded.of_append {entry : Entry} (log : w'.log = w.log ++ [entry])
    (other : ∀ p, entry ≠ .closedInAdd p) : Recorded w w' where
  old e mem := log ▸ List.mem_append_left _ mem
  calm p mem := by
    rw [log] at mem
    exact (List.mem_append.mp mem).resolve_right fun is =>
      other p (List.mem_singleton.mp is).symm

theorem Sound.closedInAdd (sound : Sound busy w) (p : Nat) :
    Sound busy (w.record (.closedInAdd p)) where
  owned := { sound.owned with }
  listed := { sound.listed with }
  keyed := sound.keyed.record _
  logged := sound.logged.record (fun _ => nofun) fun _ => nofun
  leaving := sound.leaving.record busy _ (fun _ => nofun) fun _ => id

/-- A socket that is to be closed is closed, and told so. -/
theorem Sound.close (sound : Sound none w) (here : w.heap p = some a)
    (closing : a.closeAndDelete = true)
    (new : Entry.told p ∉ w.log ∨ Entry.closedInAdd p ∈ w.log) :
    let w' := ((w.set a.socket false false false).close p a).record (.told p)
    Sound (some p) w' ∧ Touched w p { a with socket := none }
        ((w.set a.socket false false false).close p a) ∧
      w'.log = w.log ++ [.told p] := by
  have set := touched_set here a.socket false false false
  obtain ⟨unset, -⟩ := sound.call here (.set false false false)
  change Sound none (w.set a.socket false false false) at unset
  have here' : (w.set a.socket false false false).heap p = some a := set.self
  have touched : Touched w p { a with socket := none }
      ((w.set a.socket false false false).close p a) := set.trans (touched_close here')
  have below : p < w.next := sound.owned.fresh p a here
  have owned := unset.owned.touched (touched_close here') here'
  have listed := unset.listed.close here'
  have keyed := unset.keyed.close here' closing
  have marked := unset.logged.marked here'
  have logged := unset.logged.touched (touched_close here') here' marked
  have leaving := unset.leaving.touched (touched_close here') here' rfl id
  refine ⟨⟨{ owned with }, { listed with }, keyed, logged.record (fun _ => nofun) ?_,
    leaving.record _ _ ?_ nofun⟩, touched, congrArg (· ++ [_]) touched.log⟩
  · intro q is
    cases is
    rw [touched.log, touched.next]
    exact ⟨below, new⟩
  · intro q is
    cases is
    rfl

/-- A socket that has been told is marked. -/
theorem Sound.mark (sound : Sound busy w) (here : w.heap p = some a)
    (told : Entry.told p ∈ w.log) (own : a.deleteByHandler = true) :
    Sound busy (w.write p { a with erasedByHandler := true }) where
  owned := sound.owned.touched (touched_write ..) here
  listed := sound.listed.write here rfl fun which => by cases which <;> rfl
  keyed := sound.keyed.touched (touched_write ..) here rfl id
  logged := sound.logged.touched (touched_write ..) here fun _ => ⟨told, own⟩
  leaving := sound.leaving.touched (touched_write ..) here rfl fun _ => rfl

/-- A socket is on record as closed in `m_add` if it is there. One that has been told before is on
record so, or would be in `m_fds_erase` already. -/
theorem Sound.recordClose (sound : Sound none w) {nn : Nat} (found : w.found nn = some p)
    (ahead : nn ∉ w.fdsErase) :
    let w' := w.recordClose nn p
    Sound none w' ∧ ∃ log, w' = { w with log } ∧ (∀ e ∈ w.log, e ∈ log) ∧
      (Entry.closedInAdd p ∈ log ∨ (Entry.told p ∉ log ∧ (nn, p) ∈ w.sockets)) ∧
      ∀ q, Entry.closedInAdd q ∈ log → Entry.closedInAdd q ∈ w.log ∨ ∀ s, (s, q) ∉ w.sockets := by
  dsimp only
  rw [SocketHandler.recordClose]
  rcases (sound.owned.found_live found).1 with mem | ⟨none, waiting⟩
  · rw [if_pos (by rw [(mem_iff_find_fd sound.owned.sockets).mp mem]; rfl)]
    refine ⟨sound, w.log, rfl, fun _ => id, ?_, fun _ => .inl⟩
    by_cases calm : Entry.closedInAdd p ∈ w.log
    · exact .inl calm
    · refine .inr ⟨fun was => ?_, mem⟩
      obtain ⟨s, pending, mem', -⟩ :=
        sound.leaving.out was calm nofun (.inl (mem_owned.mpr (.inl ⟨nn, mem⟩)))
      cases sound.owned.key_unique mem mem'
      exact ahead pending
  · rw [if_neg (by rw [none]; exact Bool.false_ne_true)]
    refine ⟨sound.closedInAdd p, _, rfl, fun _ => List.mem_append_left _,
      .inl (List.mem_append_right _ List.mem_cons_self), fun q mem => ?_⟩
    rcases List.mem_append.mp mem with mem | is
    · exact .inl mem
    · cases List.mem_singleton.mp is
      exact .inr (sound.owned.apart_add waiting).1

/-- A socket that has been told is marked, if the handler is to delete it. -/
theorem Sound.markErased (sound : Sound busy w) (here : w.heap p = some a)
    (told : Entry.told p ∈ w.log) :
    Sound busy (w.markErased p a) ∧ ∃ b, Touched w p b (w.markErased p a) ∧
      (b.deleteByHandler = true → b.erasedByHandler = true) := by
  rw [SocketHandler.markErased]
  split
  · next own => exact ⟨sound.mark here told own, _, touched_write .., fun _ => rfl⟩
  · next other => exact ⟨sound, a, touched_self here, fun own => absurd own other⟩

/-- The descriptor of a socket that has been told goes to `m_fds_erase`. -/
theorem Sound.pend (sound : Sound (some p) w) {nn : Nat} (told : Entry.told p ∈ w.log)
    (place : Entry.closedInAdd p ∈ w.log ∨ (nn, p) ∈ w.sockets)
    (only : ∀ {q}, (nn, q) ∈ w.sockets → q = p)
    (marked : ∀ b, w.heap p = some b → b.deleteByHandler = true → b.erasedByHandler = true) :
    Sound none { w with fdsErase := w.fdsErase ++ [nn] } where
  owned := { sound.owned with }
  listed := { sound.listed with }
  keyed := { sound.keyed with }
  logged := { sound.logged with }
  leaving.out {q} was calm other there := by
    by_cases same : q = p
    · subst same
      exact ⟨nn, List.mem_append_right _ List.mem_cons_self, place.resolve_left calm, marked⟩
    · obtain ⟨s, pending, mem, all⟩ := sound.leaving.out was calm
        (fun busy => same (Option.some.inj busy).symm) there
      exact ⟨s, List.mem_append_left _ pending, mem, all⟩
  leaving.pending pending mem := by
    rcases List.mem_append.mp pending with pending | is
    · exact sound.leaving.pending pending mem
    · cases List.mem_singleton.mp is
      cases only mem
      exact told

/-- In the loop over the sockets that are to be closed: the descriptors that are still to come are
not in `m_fds_erase`. -/
structure Closing (rest : List Nat) (w : SocketHandler) : Prop where
  sound : Sound none w
  distinct : rest.Nodup
  ahead : ∀ s ∈ rest, s ∉ w.fdsErase

theorem Closing.tail {nn : Nat} {rest : List Nat} (closing : Closing (nn :: rest) w) :
    Closing rest w :=
  ⟨closing.sound, (List.nodup_cons.mp closing.distinct).2,
    fun s mem => closing.ahead s (List.mem_cons_of_mem nn mem)⟩

/-- What a turn of that loop does to the sockets in `m_sockets`. -/
structure Closed (turn : Turn) (nn : Nat) (w w' : SocketHandler) : Prop where
  sockets : w'.sockets = w.sockets
  old : ∀ e ∈ w.log, e ∈ w'.log
  calm : ∀ p, Entry.closedInAdd p ∈ w'.log →
    Entry.closedInAdd p ∈ w.log ∨ ∀ s, (s, p) ∉ w.sockets
  told : ∀ {p a}, (nn, p) ∈ w.sockets → w.heap p = some a → a.closeAndDelete = true →
    turn.late p = true → Entry.told p ∈ w'.log
  kept : ∀ {s p a}, (s, p) ∈ w.sockets → s ≠ nn → w.heap p = some a →
    ∃ b, w'.heap p = some b ∧ a.Kept b

/-- A turn in which nothing is closed. -/
theorem Closed.of_later {turn : Turn} {nn : Nat} (later : Later w w')
    (none : ∀ {p a}, (nn, p) ∈ w.sockets → w.heap p = some a → a.closeAndDelete = true →
      turn.late p = false) : Closed turn nn w w' where
  sockets := later.sockets
  old e mem := later.log ▸ mem
  calm p mem := .inl (later.log ▸ mem)
  told mem here closing late := by cases (none mem here closing).symm.trans late
  kept _ _ here := later.kept here

/-- A turn of the loop over `m_fds_close` completes and leaves the handler sound, whatever
`OnDelete` does: a socket that is to be closed, and need not wait for its output, is told and its
descriptor is to be erased; any other stays. -/
theorem checkClose_completes (turn : Turn) {nn : Nat} {rest : List Nat}
    (closing : Closing (nn :: rest) w) :
    Completes (checkClose turn w nn) fun w' => Closing rest w' ∧ Closed turn nn w w' := by
  rw [checkClose]
  split
  · next none =>
      refine completes_ok ⟨closing.tail, .of_later (.refl w) fun mem => ?_⟩
      cases none.symm.trans (closing.sound.owned.found_of_mem mem)
  · next p found =>
      obtain ⟨place, a, here⟩ := closing.sound.owned.found_live found
      -- the socket in `m_sockets` is the one that was found
      have same {q : Nat} (mem : (nn, q) ∈ w.sockets) : q = p :=
        Option.some.inj ((closing.sound.owned.found_of_mem mem).symm.trans found)
      rw [deref_of_live here, ok_bind]
      refine .ite (fun calm => completes_ok ⟨closing.tail, .of_later (.refl w) ?_⟩)
        fun isClosing => ?_
      · intro q c mem live isClosing
        cases same mem
        cases here.symm.trans live
        rw [isClosing] at calm
        cases calm
      have isClosing : a.closeAndDelete = true := by simpa using isClosing
      refine .ite (fun flushes => ?_) fun _ => ?_
      · have early {q : Nat} {c : Socket} (mem : (nn, q) ∈ w.sockets) (_ : w.heap q = some c)
            (_ : c.closeAndDelete = true) : turn.late q = false := by
          cases same mem
          simpa using (Bool.and_eq_true_iff.mp flushes).2
        refine .ite (fun _ => ?_) fun _ => completes_ok ⟨closing.tail, .of_later (.refl w) early⟩
        obtain ⟨sound, later⟩ := closing.sound.call here .setShutdown
        exact completes_ok ⟨⟨sound, closing.tail.distinct,
          later.fdsErase ▸ closing.tail.ahead⟩, .of_later later early⟩
      · obtain ⟨sound, log, eq, old, new, calm⟩ :=
          closing.sound.recordClose found (closing.ahead nn List.mem_cons_self)
        rw [eq] at sound ⊢
        obtain ⟨sound, touched, toldLog⟩ := sound.close here isClosing (new.symm.imp And.left id)
        refine (callback_completes sound touched.self).bind fun w' ⟨kept, later, _⟩ => ?_
        obtain ⟨b, here, -⟩ := later.kept touched.self
        have log' : w'.log = log ++ [.told p] := later.log.trans toldLog
        have told : Entry.told p ∈ w'.log := log' ▸ List.mem_append_right _ List.mem_cons_self
        obtain ⟨marked, c, mark, own⟩ := kept.markErased here told
        rw [deref_of_live here, ok_bind]
        have erase : (w'.markErased p b).fdsErase = w.fdsErase :=
          mark.fdsErase.trans (later.fdsErase.trans touched.fdsErase)
        have sockets : (w'.markErased p b).sockets = w.sockets :=
          mark.sockets.trans (later.sockets.trans touched.sockets)
        have logs : (w'.markErased p b).log = log ++ [.told p] := mark.log.trans log'
        have pending : Sound none { w'.markErased p b with
            fdsErase := (w'.markErased p b).fdsErase ++ [nn] } := by
          refine marked.pend (mark.log ▸ told) ?_ (fun mem => same (sockets ▸ mem)) ?_
          · rw [logs, sockets]
            exact new.imp (List.mem_append_left _) And.right
          · intro d live
            cases mark.self.symm.trans live
            exact own
        refine completes_ok ⟨⟨pending, closing.tail.distinct, ?_⟩, ?_⟩
        · intro s mem pending
          rcases List.mem_append.mp pending with pending | is
          · exact closing.tail.ahead s mem (erase ▸ pending)
          · cases List.mem_singleton.mp is
            exact (List.nodup_cons.mp closing.distinct).1 mem
        · refine ⟨sockets, fun e mem => ?_, fun q mem => ?_, fun mem _ _ _ => ?_,
            fun {s q d} mem other live => ?_⟩
          · exact logs ▸ List.mem_append_left _ (old e mem)
          · refine calm q ?_
            change Entry.closedInAdd q ∈ (w'.markErased p b).log at mem
            rw [logs] at mem
            exact (List.mem_append.mp mem).resolve_right fun is =>
              nomatch List.mem_singleton.mp is
          · cases same mem
            exact mark.log ▸ told
          · have apart : q ≠ p := by
              rintro rfl
              rcases place with mem' | ⟨-, waiting⟩
              · exact other (closing.sound.owned.key_unique mem mem')
              · exact (closing.sound.owned.apart mem).1 nn waiting
            obtain ⟨d', live', kept'⟩ := later.kept ((touched.other apart).trans live)
            exact ⟨d', (mark.other apart).trans live', kept'⟩

/-! #### Deleting -/

/-- What `delete` leaves: no socket, and none of its descriptors in a list or a set. -/
theorem destroy_run (listed : Listed w) (here : w.heap p = some a) :
    ∃ lists rfds wfds efds,
      w.destroy p = .ok { w.remove p a with
        heap := Function.update w.heap p none, lists, rfds, wfds, efds } ∧
      Listed { w with heap := Function.update w.heap p none, lists, rfds, wfds, efds } := by
  have same : (w.remove p a).heap = w.heap ∧ (w.remove p a).lists = w.lists ∧
      (w.remove p a).rfds = w.rfds ∧ (w.remove p a).wfds = w.wfds ∧
      (w.remove p a).efds = w.efds := by
    rw [SocketHandler.remove]
    split
    · exact ⟨rfl, rfl, rfl, rfl, rfl⟩
    · split
      · exact ⟨rfl, rfl, rfl, rfl, rfl⟩
      · split <;> exact ⟨rfl, rfl, rfl, rfl, rfl⟩
  have here' : (w.remove p a).heap p = some a := same.1 ▸ here
  have removed : Listed (w.remove p a) := by
    obtain ⟨heap, lists, rfds, wfds, efds⟩ := same
    refine ⟨?_, ?_, ?_, ?_, ?_⟩
    · rw [heap]
      exact listed.one
    · rw [heap, lists]
      exact listed.flag
    · rw [lists]
      intro which s mem
      rw [Opens, heap]
      exact listed.opens which s mem
    · rw [lists]
      exact listed.distinct
    · rw [rfds, wfds, efds]
      intro s set
      rw [Opens, heap]
      exact listed.watched s set
  have closed := removed.close here'
  obtain ⟨lists, rfds, wfds, efds, eq⟩ := touched_close here'
  have free := closed.free (p := p) fun c live => by
    rw [eq] at live
    cases (Function.update_self ..).symm.trans live
    rfl
  rw [eq] at free
  have heap : Function.update (Function.update (w.remove p a).heap p
      (some { a with socket := none })) p none = Function.update w.heap p none := by
    rw [Function.update_idem, same.1]
  rw [heap] at free
  refine ⟨lists, rfds, wfds, efds, ?_, { free with }⟩
  rw [destroy, deref_of_live here, ok_bind]
  dsimp only
  rw [eq, heap]

/-- A socket leaves `m_sockets`. It is deleted if it is marked, and not the handler's to delete
otherwise. -/
theorem Leaving.erase (sound : Sound none w) {nn : Nat} {rest : List Nat}
    (first : w.fdsErase = nn :: rest) (place : (nn, p) ∈ w.sockets) (heap : Nat → Option Socket)
    (fewer : ∀ {q b}, heap q = some b → w.heap q = some b)
    (unmarked : ∀ b, heap p = some b → b.erasedByHandler = false) :
    Leaving none
      { w with heap, sockets := OrderedMap.erase fdLess nn w.sockets, fdsErase := rest } where
  out {q} was calm other there := by
    have away := (sound.owned.erase nn).2 q
    have before : q ∈ w.owned ∨ ∃ a, w.heap q = some a ∧ a.deleteByHandler = true := by
      rcases there with mem | ⟨b, live, own⟩
      · rcases mem_owned.mp mem with ⟨s, mem⟩ | waiting | mem
        · exact .inl (mem_owned.mpr (.inl ⟨s, (mem_erase_fd.mp mem).1⟩))
        · exact .inl (mem_owned.mpr (.inr (.inl waiting)))
        · exact .inl (mem_owned.mpr (.inr (.inr mem)))
      · exact .inr ⟨b, fewer live, own⟩
    obtain ⟨s, pending, mem, all⟩ := sound.leaving.out was calm other before
    by_cases same : s = nn
    · subst same
      rcases there with still | ⟨b, live, own⟩
      · exact absurd still (away mem)
      · have found {q : Nat} (mem : (s, q) ∈ w.sockets) :=
          (mem_iff_find_fd sound.owned.sockets).mp mem
        cases (found place).symm.trans (found mem)
        cases (unmarked b live).symm.trans (all b (fewer live) own)
    · rw [first] at pending
      exact ⟨s, (List.mem_cons.mp pending).resolve_left same, mem_erase_fd.mpr ⟨mem, same⟩,
        fun b live own => all b (fewer live) own⟩
  pending pending mem :=
    sound.leaving.pending (first ▸ List.mem_cons_of_mem nn pending) (mem_erase_fd.mp mem).1

/-- A descriptor is erased. -/
theorem eraseFd_completes {nn : Nat} {rest : List Nat} (sound : Sound none w)
    (first : w.fdsErase = nn :: rest) :
    Completes (w.eraseFd nn) fun w' => Sound none { w' with fdsErase := rest } ∧
      Recorded w w' ∧ ∀ s p, (s, p) ∈ w.sockets → s ≠ nn → (s, p) ∈ w'.sockets := by
  rw [eraseFd]
  dsimp only
  split
  · next none =>
      have away (q : Nat) : (nn, q) ∉ w.sockets := by
        intro mem
        cases none.symm.trans ((mem_iff_find_fd sound.owned.sockets).mp mem)
      refine completes_ok ⟨⟨{ sound.owned with }, { sound.listed with },
        ⟨sound.keyed.key, fun mem => ?_, sound.keyed.range⟩, { sound.logged with }, ?_, ?_⟩,
        .of_same rfl, fun s p mem _ => mem⟩
      · refine (List.mem_erase_of_ne ?_).mpr (sound.keyed.fds mem)
        rintro rfl
        exact away _ mem
      · intro q was calm other there
        obtain ⟨s, pending, mem, all⟩ := sound.leaving.out was calm other there
        rw [first] at pending
        rcases List.mem_cons.mp pending with rfl | pending
        · exact absurd mem (away q)
        · exact ⟨s, pending, mem, all⟩
      · intro s q pending mem
        exact sound.leaving.pending (first ▸ List.mem_cons_of_mem nn pending) mem
  · next p found =>
      obtain ⟨place, a, here⟩ := sound.owned.find_live found
      obtain ⟨owned, out⟩ := sound.owned.erase nn
      have keyed := sound.keyed.erase nn
      have stays (s q : Nat) (mem : (s, q) ∈ w.sockets) (other : s ≠ nn) :
          (s, q) ∈ OrderedMap.erase fdLess nn w.sockets := mem_erase_fd.mpr ⟨mem, other⟩
      rw [deref_of_live
        (show ({ w with fds := w.fds.erase nn } : SocketHandler).heap p = _ from here),
        ok_bind, deleteErased]
      cases marked : a.erasedByHandler with
      | false =>
          have leaving := Leaving.erase sound first place w.heap id fun b live => by
            cases here.symm.trans live
            exact marked
          rw [if_neg Bool.false_ne_true, ok_bind]
          exact completes_ok ⟨⟨{ owned with }, { sound.listed with }, { keyed with },
            { sound.logged with }, { leaving with }⟩, .of_same rfl, stays⟩
      | true =>
          obtain ⟨told, -⟩ := sound.logged.marked here marked
          have leaving := Leaving.erase sound first place (Function.update w.heap p none)
            (fun live => (live_of_freed live).2) fun b live => absurd rfl (live_of_freed live).1
          have listed : Listed
              (({ w with fds := w.fds.erase nn } : SocketHandler).record (.deleted p)) :=
            { sound.listed with }
          obtain ⟨lists, rfds, wfds, efds, run, listed⟩ := destroy_run listed here
          rw [if_pos rfl, run, ok_bind, remove_of_marked marked]
          have left := leaving.record none (.deleted p) (fun _ => nofun) fun _ => id
          refine completes_ok ⟨⟨{ owned.free (out p place) with }, { listed with }, ?_,
            sound.logged.delete here told rfl rfl rfl, { left with }⟩, ?_, stays⟩
          · exact { (keyed.record (.deleted p)).outside (out p place)
              (Function.update w.heap p none) (fun q other => Function.update_of_ne other ..) with }
          · exact .of_append rfl fun _ => nofun

theorem eraseLoop_completes {rest : List Nat} (sound : Sound none w)
    (pending : w.fdsErase = rest) :
    Completes (eraseLoop rest w) fun w' => Steady w' ∧ Recorded w w' ∧
      ∀ s p, (s, p) ∈ w.sockets → s ∉ rest → (s, p) ∈ w'.sockets := by
  induction rest generalizing w with
  | nil => exact completes_ok ⟨⟨sound, pending⟩, .of_same rfl, fun _ _ mem _ => mem⟩
  | cons nn rest ih =>
      rw [eraseLoop]
      refine (eraseFd_completes sound pending).bind fun w' ⟨sound', recorded, stays⟩ => ?_
      refine (ih sound' rfl).mono fun w'' ⟨steady, recorded', stays'⟩ => ?_
      refine ⟨steady, recorded.trans ⟨recorded'.old, recorded'.calm⟩, fun s p mem away => ?_⟩
      rw [List.mem_cons, not_or] at away
      exact stays' s p (stays s p mem away.1) away.2

theorem eraseFds_completes (sound : Sound none w) :
    Completes w.eraseFds fun w' => Steady w' ∧ Recorded w w' ∧
      ∀ s p, (s, p) ∈ w.sockets → s ∉ w.fdsErase → (s, p) ∈ w'.sockets := by
  rw [eraseFds]
  refine .ite (fun none => completes_ok ⟨⟨sound, List.isEmpty_iff.mp none⟩, .of_same rfl,
    fun _ _ mem _ => mem⟩) fun _ => ?_
  refine (eraseLoop_completes sound rfl).bind fun w' ⟨steady, recorded, stays⟩ =>
    completes_ok ⟨⟨?_, steady.calm⟩, ⟨recorded.old, recorded.calm⟩, stays⟩
  exact ⟨{ steady.sound.owned with }, { steady.sound.listed with }, steady.sound.keyed.rescale,
    { steady.sound.logged with }, { steady.sound.leaving with }⟩

/-- A socket that has been told and that the handler no longer has is deleted. -/
theorem Sound.delete (sound : Sound (some p) w) (empty : w.fdsErase = [])
    (here : w.heap p = some a) (told : Entry.told p ∈ w.log) (out : p ∉ w.owned)
    (own : a.deleteByHandler = true) :
    Completes (((w.write p { a with erasedByHandler := true }).record (.deleted p)).destroy p)
      fun w' => Steady w' ∧ w'.delete = w.delete ∧ w'.pending = w.pending ∧
        w'.sockets = w.sockets ∧ Recorded w w' := by
  have marked := sound.mark here told own
  have here' : (w.write p { a with erasedByHandler := true }).heap p =
      some { a with erasedByHandler := true } := Function.update_self ..
  have listed : Listed
      ((w.write p { a with erasedByHandler := true }).record (.deleted p)) :=
    { marked.listed with }
  obtain ⟨lists, rfds, wfds, efds, run, listed⟩ := destroy_run listed here'
  rw [run, remove_of_marked rfl]
  refine completes_ok ⟨⟨⟨{ marked.owned.free out with }, { listed with }, ?_,
    marked.logged.delete here' told rfl rfl rfl, leaving_of_gone empty ?_⟩, empty⟩, rfl, rfl, rfl,
    .of_append rfl fun _ => nofun⟩
  · exact { (marked.keyed.record (.deleted p)).outside out
      (Function.update (w.write p _).heap p none)
      (fun q other => Function.update_of_ne other ..) with }
  · intro q was calm _
    have was : Entry.told q ∈ w.log :=
      (List.mem_append.mp was).resolve_right fun is => nomatch List.mem_singleton.mp is
    have calm : Entry.closedInAdd q ∉ w.log := fun mem => calm (List.mem_append_left _ mem)
    by_cases this : q = p
    · subst this
      refine ⟨out, ?_⟩
      rintro ⟨b, live, -⟩
      exact absurd rfl (live_of_freed live).1
    · obtain ⟨gone, free⟩ := sound.gone empty was calm fun same =>
        this (Option.some.inj same).symm
      refine ⟨gone, ?_⟩
      rintro ⟨b, live, isOwn⟩
      have live := (Function.update_of_ne this ..).symm.trans live
      exact free ⟨b, (Function.update_of_ne this ..).symm.trans live, isOwn⟩

/-- A pointer in `m_delete` is taken out once its socket has been told. -/
theorem Sound.behead (sound : Sound (some p) w) (empty : w.fdsErase = []) {rest : List Nat}
    (first : w.delete = p :: rest) :
    Sound (some p) { w with delete := w.delete.tail } ∧
      p ∉ SocketHandler.owned { w with delete := w.delete.tail } := by
  obtain ⟨owned, out⟩ := sound.owned.behead first
  refine ⟨⟨owned, { sound.listed with }, { sound.keyed with }, { sound.logged with },
    leaving_of_gone empty fun q was calm other => ?_⟩, out⟩
  obtain ⟨gone, free⟩ := sound.gone empty was calm other
  refine ⟨fun mem => gone ?_, free⟩
  rcases mem_owned.mp mem with active | waiting | mem
  · exact mem_owned.mpr (.inl active)
  · exact mem_owned.mpr (.inr (.inl waiting))
  · exact mem_owned.mpr (.inr (.inr (List.mem_of_mem_tail mem)))

/-- A socket that the handler no longer has, and is not to delete, is left alone. -/
theorem Sound.release (sound : Sound (some p) w) (empty : w.fdsErase = [])
    (here : w.heap p = some a) (out : p ∉ w.owned) (other : ¬ a.deleteByHandler = true) :
    Steady w := by
  refine ⟨⟨sound.owned, sound.listed, sound.keyed, sound.logged,
    leaving_of_gone empty fun q was calm _ => ?_⟩, empty⟩
  by_cases this : q = p
  · subst this
    refine ⟨out, ?_⟩
    rintro ⟨b, live, own⟩
    cases here.symm.trans live
    exact other own
  · exact sound.gone empty was calm fun same => this (Option.some.inj same).symm

/-- A socket in `m_delete` is told. -/
theorem Steady.tell (steady : Steady w) (mem : p ∈ w.owned) :
    Sound (some p) (w.record (.told p)) := by
  obtain ⟨a, here⟩ := steady.sound.owned.live p mem
  refine ⟨{ steady.sound.owned with }, { steady.sound.listed with },
    steady.sound.keyed.record _, steady.sound.logged.record (fun _ => nofun) ?_,
    steady.sound.leaving.record _ _ ?_ nofun⟩
  · intro q is
    cases is
    refine ⟨steady.sound.owned.fresh p a here, ?_⟩
    by_cases calm : Entry.closedInAdd p ∈ w.log
    · exact .inr calm
    · exact .inl fun was => (steady.gone was calm).1 mem
  · intro q is
    cases is
    rfl

/-- The sockets in `m_delete` are told and deleted, and the loop comes to an end. -/
theorem deleteLoop_completes (turns : Nat) (steady : Steady w)
    (enough : w.delete.length + w.pending ≤ turns) :
    Completes (deleteLoop turns w) fun w' => Steady w' ∧ w'.delete = [] ∧
      w'.sockets = w.sockets ∧ Recorded w w' := by
  induction turns generalizing w with
  | zero =>
      exact completes_ok ⟨steady, List.length_eq_zero_iff.mp (by omega), rfl, .of_same rfl⟩
  | succ turns ih =>
      rw [deleteLoop]
      split
      · next none => exact completes_ok ⟨steady, none, rfl, .of_same rfl⟩
      · next p rest first =>
          have mem : p ∈ w.owned := mem_owned.mpr (.inr (.inr (first ▸ List.mem_cons_self)))
          obtain ⟨a, here⟩ := steady.sound.owned.live p mem
          refine (callback_completes (steady.tell mem) here).bind
            fun w' ⟨sound, later, fewer⟩ => ?_
          obtain ⟨b, here, -⟩ := later.kept here
          obtain ⟨more, is⟩ := later.delete
          have first' : w'.delete = p :: (rest ++ more) := by
            rw [is, show (w.record (.told p)).delete = p :: rest from first, List.cons_append]
          have log : w'.log = w.log ++ [.told p] := later.log
          have told : Entry.told p ∈ w'.log := log ▸ List.mem_append_right _ List.mem_cons_self
          have recorded : Recorded w w' := .of_append log fun _ => nofun
          have empty : w'.fdsErase = [] := later.fdsErase.trans steady.calm
          obtain ⟨sound', out⟩ := sound.behead empty first'
          have left : w'.delete.tail.length + w'.pending ≤ turns := by
            change w'.delete.length + w'.pending ≤ w.delete.length + w.pending at fewer
            rw [first', List.length_cons] at fewer
            rw [first', List.tail_cons]
            omega
          dsimp only
          rw [deref_of_live (show
            ({ w' with delete := w'.delete.tail } : SocketHandler).heap p = some b from here),
            ok_bind]
          refine .ite (fun own => ?_) fun other => ?_
          · refine (sound'.delete empty here told out own).bind
              fun w'' ⟨steady, delete, rest, sockets, recorded'⟩ => ?_
            refine (ih steady (by rw [delete, rest]; exact left)).mono
              fun last ⟨steady, gone, same, recorded''⟩ => ⟨steady, gone,
                same.trans (sockets.trans later.sockets), ?_⟩
            exact (recorded.trans ⟨recorded'.old, recorded'.calm⟩).trans recorded''
          · refine (ih (sound'.release empty here out other) left).mono
              fun last ⟨steady, gone, same, recorded'⟩ => ⟨steady, gone,
                same.trans later.sockets, recorded.trans ⟨recorded'.old, recorded'.calm⟩⟩

/-! #### The whole of Select -/

/-- In the loop over the sockets that are to be closed, since its beginning: one that is to be
closed and whose time is up has been told, or its descriptor is still to come. -/
structure Passing (turn : Turn) (start : SocketHandler) (rest : List Nat) (w : SocketHandler) :
    Prop where
  closing : Closing rest w
  sockets : w.sockets = start.sockets
  old : ∀ e ∈ start.log, e ∈ w.log
  calm : ∀ {s p}, (s, p) ∈ start.sockets → Entry.closedInAdd p ∈ w.log →
    Entry.closedInAdd p ∈ start.log
  told : ∀ {s p a}, (s, p) ∈ start.sockets → start.heap p = some a → a.socket = some s →
    a.closeAndDelete = true → turn.late p = true →
    Entry.told p ∈ w.log ∨ (s ∈ rest ∧ ∃ b, w.heap p = some b ∧ a.Kept b)

theorem Steady.passing (steady : Steady w) (turn : Turn) :
    Passing turn w (w.lists .close) w where
  closing := ⟨steady.sound, steady.sound.listed.distinct .close, fun s _ => by
    rw [steady.calm]
    exact List.not_mem_nil⟩
  sockets := rfl
  old _ mem := mem
  calm _ mem := mem
  told _ here has closing _ :=
    .inr ⟨(steady.sound.listed.flag .close here has).mpr closing, _, here, .refl _⟩

theorem Passing.turn {turn : Turn} {start : SocketHandler} {nn : Nat} {rest : List Nat}
    (passing : Passing turn start (nn :: rest) w) (closing : Closing rest w')
    (closed : Closed turn nn w w') : Passing turn start rest w' where
  closing := closing
  sockets := closed.sockets.trans passing.sockets
  old e mem := closed.old e (passing.old e mem)
  calm {s p} mem was := by
    rcases closed.calm p was with was | away
    · exact passing.calm mem was
    · exact absurd (passing.sockets ▸ mem) (away s)
  told {s p a} mem here has isClosing late := by
    rcases passing.told mem here has isClosing late with was | ⟨ahead, b, live, kept⟩
    · exact .inl (closed.old _ was)
    · have mem : (s, p) ∈ w.sockets := passing.sockets ▸ mem
      by_cases same : s = nn
      · subst same
        exact .inl (closed.told mem live (kept.closing isClosing) late)
      · obtain ⟨c, live', kept'⟩ := closed.kept mem same live
        exact .inr ⟨(List.mem_cons.mp ahead).resolve_left same, c, live', kept.trans kept'⟩

/-- What `Select` has done to the sockets in `m_sockets`. -/
structure Served (turn : Turn) (w w' : SocketHandler) : Prop where
  steady : Steady w'
  stays : ∀ {s p}, (s, p) ∈ w.sockets → (s, p) ∈ w'.sockets ∨ Entry.told p ∈ w'.log
  calm : ∀ {s p}, (s, p) ∈ w.sockets → Entry.closedInAdd p ∈ w'.log →
    Entry.closedInAdd p ∈ w.log
  told : ∀ {s p a}, (s, p) ∈ w.sockets → w.heap p = some a → a.socket = some s →
    a.closeAndDelete = true → turn.late p = true → Entry.told p ∈ w'.log

/-- `Select`, from the call of `select` on, completes and leaves the handler steady, whatever the
overridden functions do: the sockets it had are there still or have been told, and told are those
that are to close and late. -/
theorem serve_completes (turn : Turn) (steady : Steady w) :
    Completes (w.serve turn) (Served turn w) := by
  rw [serve]
  refine (events_completes steady turn).bind fun w₁ first => ?_
  refine (Completes.foldlM (fun _ => Follows w₁) first.1.follows fun s _ w' follows =>
    (checkCallOnConnect_completes follows.1 s).mono fun _ => follows.trans).bind fun w₂ second => ?_
  refine (Completes.foldlM (fun _ => Follows w₂) second.1.follows fun s _ w' follows =>
    (checkConnecting_completes turn follows.1 s).mono fun _ => follows.trans).bind
      fun w₃ third => ?_
  refine (Completes.foldlM (Passing turn w₃) (third.1.passing turn) fun nn rest w' passing =>
    (checkClose_completes turn passing.closing).mono fun _ after =>
      passing.turn after.1 after.2).bind fun w₄ passing => ?_
  refine (eraseFds_completes passing.closing.sound).bind fun w₅ ⟨steady', recorded, stays⟩ => ?_
  refine (deleteLoop_completes _ steady' (Nat.le_refl _)).mono
    fun last ⟨steady'', _, same, recorded'⟩ => ?_
  have later := (first.2.trans second.2).trans third.2
  have recorded := recorded.trans recorded'
  refine ⟨steady'', fun {s p} mem => ?_, fun {s p} mem was => ?_,
    fun {s p a} mem here has closing late => ?_⟩
  · have mem : (s, p) ∈ w₄.sockets := by
      rw [passing.sockets, later.sockets]
      exact mem
    by_cases pending : s ∈ w₄.fdsErase
    · exact .inr (recorded.old _ (passing.closing.sound.leaving.pending pending mem))
    · exact .inl (same ▸ stays s p mem pending)
  · have was := passing.calm (later.sockets ▸ mem) (recorded.calm p was)
    exact later.log ▸ was
  · obtain ⟨b, live, kept⟩ := later.kept here
    rcases passing.told (later.sockets ▸ mem) live (kept.socket.trans has) (kept.closing closing)
      late with told | ⟨ahead, -⟩
    · exact recorded.old _ told
    · cases ahead

theorem select_completes (turn : Turn) (steady : Steady w) :
    Completes (w.select turn) Steady := by
  rw [select]
  refine (addLoop_completes _ steady).bind fun w' steady' => ?_
  exact (serve_completes turn steady').mono fun _ served => served.steady

/-! ### Runs -/

/-- The server deletes a socket of its own. -/
theorem Steady.destroy (steady : Steady w) (here : w.heap p = some a)
    (own : a.deleteByHandler = false) : Completes (w.destroy p) Steady := by
  have unmarked : a.erasedByHandler = false := by
    refine Bool.eq_false_iff.mpr fun marked => ?_
    cases own.symm.trans (steady.sound.logged.marked here marked).2
  obtain ⟨owned, out, sockets, add, delete, eq, fewer, fewer', fewer''⟩ :=
    steady.sound.owned.remove p unmarked
  obtain ⟨lists, rfds, wfds, efds, run, listed⟩ := destroy_run steady.sound.listed here
  rw [eq] at owned out run
  rw [run]
  have keyed := (steady.sound.keyed.shrink delete fewer fewer').outside out
    (Function.update w.heap p none) fun q other => Function.update_of_ne other ..
  have logged := steady.sound.logged
  refine completes_ok ⟨⟨{ owned.free out with }, { listed with }, { keyed with },
    ⟨logged.known, logged.once, fun live => logged.marked (live_of_freed live).2, fun q was => ?_,
      logged.deletedOnce, logged.order⟩,
    leaving_of_gone steady.calm fun q was calm _ => ?_⟩, steady.calm⟩
  · by_cases same : q = p
    · rw [same]
      exact Function.update_self ..
    · exact (Function.update_of_ne same ..).trans (logged.dead q was)
  · obtain ⟨gone, free⟩ := steady.gone was calm
    refine ⟨fun mem => gone ?_, fun ⟨b, live, isOwn⟩ =>
      free ⟨b, (live_of_freed live).2, isOwn⟩⟩
    rcases mem_owned.mp mem with ⟨s, mem⟩ | ⟨s, mem⟩ | mem
    · exact mem_owned.mpr (.inl ⟨s, fewer.subset mem⟩)
    · exact mem_owned.mpr (.inr (.inl ⟨s, fewer'.subset mem⟩))
    · exact mem_owned.mpr (.inr (.inr (fewer''.subset mem)))

theorem step_completes (steady : Steady w) (step : Step) : Completes (w.step step) Steady := by
  cases step with
  | act action =>
      obtain ⟨sound, later⟩ := steady.sound.act action
      exact completes_ok ⟨sound, later.fdsErase.trans steady.calm⟩
  | delete p =>
      refine .ite (fun own => ?_) fun _ => completes_ok steady
      cases here : w.heap p with
      | none =>
          rw [here] at own
          cases own
      | some a =>
          rw [here] at own
          exact steady.destroy here (by simpa using own)
  | select turn => exact select_completes turn steady

theorem steady_start (script : List (List Action)) : Steady { script } := by
  have owned : Owned { script } := ⟨.nil, .nil, .nil, fun _ => nofun, fun _ _ => nofun⟩
  have listed : Listed { script } :=
    ⟨nofun, fun _ => nofun, fun _ _ => nofun, fun _ => .nil, fun _ => nofun⟩
  have keyed : Keyed { script } := by
    refine ⟨?_, nofun, nofun⟩
    rintro s p a (mem | mem)
    · cases mem
    · cases mem
  have logged : Logged { script } := by
    refine ⟨?_, fun _ _ => Nat.zero_le 1, nofun, fun _ => nofun, fun _ => Nat.zero_le 1,
      fun _ _ => nofun⟩
    rintro p (mem | mem)
    · cases mem
    · cases mem
  exact ⟨⟨owned, listed, keyed, logged, leaving_of_gone rfl fun _ => nofun⟩, rfl⟩

theorem run_steady (script : List (List Action)) (steps : List Step) :
    Completes (run script steps) Steady :=
  Completes.foldlM (fun _ => Steady) (steady_start script) fun step _ _ steady =>
    step_completes steady step

/-! #### The end of the handler -/

/-- In `~SocketHandler()`, with the entries that are still to come. -/
structure Ending (rest : List (Nat × Nat)) (w : SocketHandler) : Prop where
  owned : Owned w
  listed : Listed w
  sockets : w.sockets = rest

/-- The destructor of the handler closes a socket, deletes it if it is to, and takes it out of the
map it is in, so that the rest can go on. -/
theorem abandon_completes {s : Nat} {rest : List (Nat × Nat)}
    (ending : Ending ((s, p) :: rest) w) : Completes (w.abandon s p) (Ending rest) := by
  have mem : (s, p) ∈ w.sockets := ending.sockets ▸ List.mem_cons_self
  obtain ⟨a, here⟩ := ending.owned.live p (mem_owned.mpr (.inl ⟨s, mem⟩))
  have touched := touched_close here
  have owned := ending.owned.touched touched here
  have listed := ending.listed.close here
  have live := touched.self
  have same : (w.close p a).sockets = w.sockets := touched.sockets
  rw [abandon, deref_of_live here, ok_bind]
  dsimp only
  rw [deref_of_live live, ok_bind]
  generalize w.close p a = w' at *
  obtain ⟨erased, out⟩ := owned.erase s
  have left : erase fdLess s w'.sockets = rest := by
    have sorted := ending.owned.sockets
    rw [ending.sockets] at sorted
    rw [same, ending.sockets]
    exact erase_cons_self fdLess_weak sorted
  have deleted : Completes (w'.deleteOwn p { a with socket := none }) fun w'' =>
      Owned { w'' with sockets := erase fdLess s w''.sockets } ∧ Listed w'' ∧
        w''.sockets = w'.sockets := by
    refine .ite (fun _ => ?_) fun _ => completes_ok ⟨erased, listed, rfl⟩
    have marked : Listed (w'.write p { a with socket := none, erasedByHandler := true }) :=
      listed.write live rfl fun which => by cases which <;> rfl
    obtain ⟨lists, rfds, wfds, efds, run, listed⟩ := destroy_run marked (Function.update_self ..)
    have freed := (erased.touched (touched_write _ p
      { a with socket := none, erasedByHandler := true }) live).free (out p (same ▸ mem))
    rw [run, remove_of_marked rfl]
    exact completes_ok ⟨{ freed with }, { listed with }, rfl⟩
  refine deleted.bind fun w'' ⟨owned, listed, sockets⟩ => completes_ok ⟨owned, { listed with }, ?_⟩
  dsimp only
  rw [sockets, left]

theorem destructor_completes (steady : Steady w) :
    Completes w.destructor fun w' => w'.sockets = [] :=
  (Completes.foldlM Ending ⟨steady.sound.owned, steady.sound.listed, rfl⟩
    fun _ _ _ ending => abandon_completes ending).mono fun _ ending => ending.sockets

/-! ### What holds of every run -/

/-- No use of a socket that has been deleted: whatever the overridden functions do and whatever
`select` answers, every step completes, what the handler has are distinct sockets that there are,
and the handler can be destroyed at any time. -/
theorem run_completes (script : List (List Action)) (steps : List Step) :
    ∃ w, run script steps = .ok w ∧ w.owned.Nodup ∧
      (∀ p ∈ w.owned, ∃ a, w.heap p = some a) ∧
      ∃ w', w.destructor = .ok w' ∧ w'.sockets = [] := by
  obtain ⟨w, ran, steady⟩ := run_steady script steps
  exact ⟨w, ran, steady.sound.owned.distinct, steady.sound.owned.live,
    destructor_completes steady⟩

/-- `OnDelete` comes before a socket is deleted, and no socket is deleted twice. One that has not
been closed in `m_add` is told once at most, and when it has been told it is gone: the handler has
it no longer, and it is deleted if the handler is to do that. -/
theorem told_before_deleted (script : List (List Action)) (steps : List Step) :
    ∃ w, run script steps = .ok w ∧
      (∀ (i p : Nat), w.log[i]? = some (.deleted p) → ∃ j < i, w.log[j]? = some (.told p)) ∧
      ∀ p, w.log.count (.deleted p) ≤ 1 ∧
        (Entry.closedInAdd p ∉ w.log → w.log.count (.told p) ≤ 1 ∧
          (Entry.told p ∈ w.log → p ∉ w.owned ∧
            ∀ a, w.heap p = some a → a.deleteByHandler = false)) := by
  obtain ⟨w, ran, steady⟩ := run_steady script steps
  have logged := steady.sound.logged
  refine ⟨w, ran, logged.order, fun p => ⟨logged.deletedOnce p, fun calm =>
    ⟨logged.once p calm, fun was => ?_⟩⟩⟩
  obtain ⟨out, free⟩ := steady.gone was calm
  exact ⟨out, fun a live => Bool.eq_false_iff.mpr fun own => free ⟨a, live, own⟩⟩

/-- `select` is asked about open descriptors only, the lists are of the open sockets with the flag
that goes with the list, and a socket in `m_sockets` that is not to be closed is under its own
descriptor, where `select` looks. -/
theorem watches_open (script : List (List Action)) (steps : List Step) :
    ∃ w, run script steps = .ok w ∧
      (∀ s, (w.rfds s || w.wfds s || w.efds s) = true → w.Opens s) ∧
      (∀ which s, s ∈ w.lists which ↔
        ∃ p a, w.heap p = some a ∧ a.socket = some s ∧ a.flag which = true) ∧
      ∀ s p a, (s, p) ∈ w.sockets → w.heap p = some a → a.closeAndDelete = false →
        a.socket = some s ∧ s ∈ w.fds ∧ s ≤ w.maxsock := by
  obtain ⟨w, ran, steady⟩ := run_steady script steps
  have listed := steady.sound.listed
  have keyed := steady.sound.keyed
  refine ⟨w, ran, listed.watched, fun which s => ?_, fun s p a mem here calm => ?_⟩
  · constructor
    · intro mem
      obtain ⟨p, a, here, has⟩ := listed.opens which s mem
      exact ⟨p, a, here, has, (listed.flag which here has).mp mem⟩
    · rintro ⟨p, a, here, has, set⟩
      exact (listed.flag which here has).mpr set
  · refine ⟨(keyed.key (.inl mem) here).resolve_right fun shut => ?_, keyed.fds mem,
      keyed.range mem here calm⟩
    cases calm.symm.trans shut.2.1

/-! ### What every Select gets done -/

/-- A socket in the maps has not been told, so that it is open. -/
theorem Steady.opened (steady : Steady w) (calm : Entry.closedInAdd p ∉ w.log) {s : Nat}
    (there : (s, p) ∈ w.sockets ∨ (s, p) ∈ w.add) (here : w.heap p = some a) :
    a.socket = some s := by
  refine (steady.sound.keyed.key there here).resolve_right fun shut => ?_
  refine (steady.gone shut.2.2 calm).1 (mem_owned.mpr ?_)
  exact there.imp (fun mem => ⟨s, mem⟩) fun mem => .inl ⟨s, mem⟩

/-- Where no socket has been closed in `m_add` and there is room, all sockets in `m_add` go to
`m_sockets`. -/
theorem addLoop_moves (steady : Steady w) (calm : ∀ p, Entry.closedInAdd p ∉ w.log)
    (room : w.sockets.length + w.add.length ≤ fdSetsize) :
    Completes (addLoop w.add.length w) fun w' => Steady w' ∧
      (∀ e, e ∈ w.sockets ∨ e ∈ w.add → e ∈ w'.sockets) ∧ w'.heap = w.heap ∧ w'.log = w.log := by
  generalize waiting : w.add = entries at room
  induction entries generalizing w with
  | nil => exact completes_ok ⟨steady, fun e mem => mem.resolve_right nofun, rfl, rfl⟩
  | cons entry entries ih =>
      obtain ⟨s, p⟩ := entry
      have mem : (s, p) ∈ w.add := waiting ▸ List.mem_cons_self
      have owned : p ∈ w.owned := mem_owned.mpr (.inr (.inl ⟨s, mem⟩))
      obtain ⟨a, here⟩ := steady.sound.owned.live p owned
      have has := steady.opened (calm p) (.inr mem) here
      have new : find fdLess s w.sockets = none := by
        cases found : find fdLess s w.sockets with
        | none => rfl
        | some q =>
            obtain ⟨there, c, live⟩ := steady.sound.owned.find_live found
            have same := steady.sound.listed.one live here
              (steady.opened (calm q) (.inl there) live) has
            exact absurd (same ▸ there) ((steady.sound.owned.apart_add mem).1 s)
      have perm := put_perm new p
      have small : ¬ fdSetsize ≤ w.sockets.length := by
        rw [List.length_cons] at room
        omega
      have turn : addLoop ((s, p) :: entries).length w =
          addLoop entries.length (w.activate s p a) := by
        rw [List.length_cons, addLoop, if_neg small, waiting]
        dsimp only
        rw [deref_of_live here, ok_bind, has, Option.bind_some, new,
          Option.isSome_none, if_neg Bool.false_ne_true]
      rw [turn]
      have active := steady.activate waiting here
      obtain ⟨_, _, _, _, eq, -⟩ := activate_eq w s p a
      rw [eq, waiting] at active ⊢
      refine (ih active calm rfl ?_).mono fun w' ⟨steady', moved, heap, log⟩ =>
        ⟨steady', fun e there => moved e ?_, heap, log⟩
      · dsimp only
        rw [perm.length_eq, List.length_cons]
        rw [List.length_cons] at room
        omega
      · rcases there with there | there
        · exact .inl (perm.symm.subset (List.mem_cons_of_mem _ there))
        · rcases List.mem_cons.mp there with rfl | there
          · exact .inl (perm.symm.subset List.mem_cons_self)
          · exact .inr there

/-- After any run in which no socket was closed in `m_add`, and if there is room in `m_sockets`, a
`Select` takes every socket from `m_add`, and every socket that has been set to close and whose
time is up has been told and is gone. This is so whatever the overridden functions do in this
`Select`. -/
theorem select_progress {script : List (List Action)} {steps : List Step} (turn : Turn)
    (ran : run script steps = .ok w) (calm : ∀ p, Entry.closedInAdd p ∉ w.log)
    (room : w.sockets.length + w.add.length ≤ fdSetsize) :
    ∃ w', w.select turn = .ok w' ∧
      (∀ s p, (s, p) ∈ w.add → (s, p) ∈ w'.sockets ∨ Entry.told p ∈ w'.log) ∧
      ∀ s p a, (s, p) ∈ w.sockets ∨ (s, p) ∈ w.add → w.heap p = some a →
        a.closeAndDelete = true → turn.late p = true →
        Entry.told p ∈ w'.log ∧ p ∉ w'.owned ∧
          ∀ b, w'.heap p = some b → b.deleteByHandler = false := by
  obtain ⟨_, ran', steady⟩ := run_steady script steps
  cases ran'.symm.trans ran
  obtain ⟨w₁, added, steady₁, moved, heap, log⟩ := addLoop_moves steady calm room
  obtain ⟨w', run, served⟩ := serve_completes turn steady₁
  refine ⟨w', ?_, fun s p mem => served.stays (moved _ (.inr mem)), ?_⟩
  · rw [select, added, ok_bind, run]
  · intro s p a there here closing late
    have mem := moved _ there
    have told := served.told mem (heap ▸ here) (steady.opened (calm p) there here) closing late
    have still : Entry.closedInAdd p ∉ w'.log := fun was => calm p (log ▸ served.calm mem was)
    obtain ⟨out, free⟩ := served.steady.gone told still
    exact ⟨told, out, fun b live => Bool.eq_false_iff.mpr fun own => free ⟨b, live, own⟩⟩

/-- Nothing is ready, and every time is up. -/
def lateTurn : Turn :=
  ⟨0, fun _ => false, fun _ => false, fun _ => false, fun _ => false, fun _ => true⟩

theorem select_progress_two :
    ∃ w w', run [] [.act (.accept 5), .select lateTurn, .act (.accept 6),
        .act (.call 0 .setCloseAndDelete)] = .ok w ∧
      w.select lateTurn = .ok w' ∧ ((6, 1) ∈ w'.sockets ∨ Entry.told 1 ∈ w'.log) ∧
      Entry.told 0 ∈ w'.log ∧ 0 ∉ w'.owned := by
  obtain ⟨w, ran, -⟩ := run_steady [] [.act (.accept 5), .select lateTurn, .act (.accept 6),
    .act (.call 0 .setCloseAndDelete)]
  have state : (run [] [.act (.accept 5), .select lateTurn, .act (.accept 6),
      .act (.call 0 .setCloseAndDelete)]).map (fun w =>
        (w.sockets, w.add, w.log, (w.heap 0).map Socket.closeAndDelete)) =
      .ok ([(5, 0)], [(6, 1)], [], some true) := rfl
  rw [ran] at state
  simp only [Except.map, Except.ok.injEq, Prod.mk.injEq] at state
  obtain ⟨sockets, add, log, closing⟩ := state
  obtain ⟨a, here, closing⟩ := Option.map_eq_some_iff.mp closing
  obtain ⟨w', selected, moved, gone⟩ := select_progress lateTurn ran
    (fun p => by simp [log]) (by simp [sockets, add, fdSetsize])
  obtain ⟨told, out, -⟩ := gone 5 0 a (.inl (by simp [sockets])) here closing rfl
  exact ⟨w, w', ran, selected, moved 6 1 (by simp [add]), told, out⟩

end SocketHandler

end NoxServer.Network
