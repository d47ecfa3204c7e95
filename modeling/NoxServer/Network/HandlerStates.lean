import NoxServer.Network.SocketHandler

/-!
What holds of a `SocketHandler` in every state.

`Owned` says that the pointers in the maps and in `m_delete` are of sockets there are, all
distinct. `Listed` says that the lists of descriptors and the sets for `select` name descriptors
that are open, and a list those of the sockets whose flag is set. `Keyed` says that a socket is
under its own descriptor, which `select` looks at. There is a lemma for each way the functions of
the source write the state.
-/

namespace NoxServer.Network

open OrderedMap

theorem fdLess_weak : StrictWeak fdLess where
  irrefl a := by simp [fdLess]
  trans a b c := by
    simp only [fdLess, decide_eq_true_eq]
    exact Nat.lt_trans
  between a b c := by
    simp only [fdLess, decide_eq_true_eq]
    omega

theorem fd_eq_of_same {a b : Nat} (same : Same fdLess a b) : a = b := by
  simp only [Same, fdLess, decide_eq_false_iff_not] at same
  omega

/-- What is in a map is what is found in it. -/
theorem mem_iff_find_fd {entries : List (Nat × Nat)} (sorted : Sorted fdLess entries)
    {s p : Nat} : (s, p) ∈ entries ↔ find fdLess s entries = some p :=
  mem_iff_find fdLess_weak fd_eq_of_same sorted

theorem mem_erase_fd {entries : List (Nat × Nat)} {entry : Nat × Nat} {s : Nat} :
    entry ∈ erase fdLess s entries ↔ entry ∈ entries ∧ entry.1 ≠ s := by
  rw [erase, List.mem_filter]
  simp only [fdLess, Bool.or_eq_true, decide_eq_true_eq, ne_eq, and_congr_right_iff]
  omega

/-- What stays of a socket while its functions are called. -/
structure Socket.Kept (a b : Socket) : Prop where
  socket : b.socket = a.socket
  deleteByHandler : b.deleteByHandler = a.deleteByHandler
  erasedByHandler : b.erasedByHandler = a.erasedByHandler
  closing : a.closeAndDelete = true → b.closeAndDelete = true

theorem Socket.Kept.refl (a : Socket) : a.Kept a := ⟨rfl, rfl, rfl, id⟩

theorem Socket.Kept.trans {a b c : Socket} (first : a.Kept b) (second : b.Kept c) : a.Kept c :=
  ⟨second.socket.trans first.socket, second.deleteByHandler.trans first.deleteByHandler,
    second.erasedByHandler.trans first.erasedByHandler,
    fun closing => second.closing (first.closing closing)⟩

theorem nodup_of_subperm {l l' : List Nat} (fewer : l.Subperm l') (distinct : l'.Nodup) :
    l.Nodup := by
  obtain ⟨l'', perm, sublist⟩ := fewer
  exact perm.nodup_iff.mp (distinct.sublist sublist)

/-- The first entry with a value is taken out. -/
theorem perm_eraseP_value {entries : List (Nat × Nat)} {p : Nat}
    (any : entries.any (·.2 = p) = true) :
    (entries.map Prod.snd).Perm (p :: (entries.eraseP (·.2 = p)).map Prod.snd) := by
  induction entries with
  | nil => cases any
  | cons entry entries ih =>
      by_cases here : entry.2 = p
      · rw [List.eraseP_cons_of_pos (by simpa using here), List.map_cons, here]
      · rw [List.eraseP_cons_of_neg (by simpa using here), List.map_cons, List.map_cons]
        refine ((ih ?_).cons entry.2).trans (List.Perm.swap ..)
        simpa [here] using any

namespace SocketHandler

variable {w w' : SocketHandler} {p : Nat} {a b : Socket}

theorem deref_of_live (here : w.heap p = some a) : w.deref p = .ok a := by
  rw [deref, here]

/-! ### What is written -/

/-- The fields of a socket, the lists and the sets are written, and nothing else. -/
def Touched (w : SocketHandler) (p : Nat) (b : Socket) (w' : SocketHandler) : Prop :=
  ∃ lists rfds wfds efds,
    w' = { w with heap := Function.update w.heap p (some b), lists, rfds, wfds, efds }

theorem Touched.trans {c : Socket} {w'' : SocketHandler} (first : Touched w p b w')
    (second : Touched w' p c w'') : Touched w p c w'' := by
  obtain ⟨_, _, _, _, rfl⟩ := first
  obtain ⟨lists, rfds, wfds, efds, rfl⟩ := second
  refine ⟨lists, rfds, wfds, efds, ?_⟩
  dsimp only
  rw [Function.update_idem]

theorem Touched.sockets (touched : Touched w p b w') : w'.sockets = w.sockets := by
  obtain ⟨_, _, _, _, rfl⟩ := touched
  rfl

theorem Touched.fdsErase (touched : Touched w p b w') : w'.fdsErase = w.fdsErase := by
  obtain ⟨_, _, _, _, rfl⟩ := touched
  rfl

theorem Touched.log (touched : Touched w p b w') : w'.log = w.log := by
  obtain ⟨_, _, _, _, rfl⟩ := touched
  rfl

theorem Touched.next (touched : Touched w p b w') : w'.next = w.next := by
  obtain ⟨_, _, _, _, rfl⟩ := touched
  rfl

theorem touched_write (w : SocketHandler) (p : Nat) (b : Socket) : Touched w p b (w.write p b) :=
  ⟨_, _, _, _, rfl⟩

theorem touched_self (here : w.heap p = some a) : Touched w p a w := by
  refine ⟨w.lists, w.rfds, w.wfds, w.efds, ?_⟩
  rw [Function.update_eq_self_iff.mpr here.symm]

theorem touched_set (here : w.heap p = some a) (s : Option Nat) (r wr e : Bool) :
    Touched w p a (w.set s r wr e) := by
  cases s with
  | none => exact touched_self here
  | some s =>
      refine ⟨w.lists, Function.update w.rfds s r, Function.update w.wfds s wr,
        Function.update w.efds s e, ?_⟩
      rw [Function.update_eq_self_iff.mpr here.symm]
      rfl

theorem touched_addList (w : SocketHandler) (p : Nat) (b : Socket) (s : Option Nat)
    (which : ListT) (add : Bool) : Touched w p b ((w.addList s which add).write p b) := by
  cases s with
  | none => exact touched_write w p b
  | some s => exact ⟨_, _, _, _, rfl⟩

theorem touched_setCloseAndDelete (here : w.heap p = some a) :
    ∃ b, a.Kept b ∧ b.closeAndDelete = true ∧
      Touched w p b (w.setCloseAndDelete p a) := by
  rw [setCloseAndDelete]
  split
  · next closing => exact ⟨a, .refl a, closing, touched_self here⟩
  · exact ⟨{ a with closeAndDelete := true }, ⟨rfl, rfl, rfl, fun _ => rfl⟩, rfl,
      touched_addList ..⟩

/-- A setter changes its own socket, and of the handler only the lists and the sets for `select`. -/
theorem touched_call (here : w.heap p = some a) (setter : Setter) :
    ∃ b, a.Kept b ∧ Touched w p b (w.call p a setter) := by
  cases setter with
  | setCloseAndDelete =>
      obtain ⟨b, kept, -, touched⟩ := touched_setCloseAndDelete here
      exact ⟨b, kept, touched⟩
  | setConnecting x =>
      rw [call, setConnecting]
      split
      · exact ⟨a, .refl a, touched_self here⟩
      · exact ⟨{ a with connecting := x }, ⟨rfl, rfl, rfl, id⟩, touched_addList ..⟩
  | setCallOnConnect x =>
      exact ⟨{ a with callOnConnect := x }, ⟨rfl, rfl, rfl, id⟩, touched_addList ..⟩
  | set r wr e => exact ⟨a, .refl a, touched_set here a.socket r wr e⟩
  | setConnected x =>
      exact ⟨{ a with connected := x }, ⟨rfl, rfl, rfl, id⟩, touched_write ..⟩
  | setFlushBeforeClose x =>
      exact ⟨{ a with flushBeforeClose := x }, ⟨rfl, rfl, rfl, id⟩, touched_write ..⟩
  | disableRead x =>
      exact ⟨{ a with disableRead := x }, ⟨rfl, rfl, rfl, id⟩, touched_write ..⟩
  | setShutdown =>
      exact ⟨{ a with shutdownWr := true }, ⟨rfl, rfl, rfl, id⟩, touched_write ..⟩
  | output length =>
      exact ⟨{ a with outputLength := length }, ⟨rfl, rfl, rfl, id⟩, touched_write ..⟩

theorem touched_close (here : w.heap p = some a) :
    Touched w p { a with socket := none } (w.close p a) := by
  obtain ⟨socket, _⟩ := a
  cases socket with
  | none => exact touched_self here
  | some s => exact ⟨_, _, _, _, rfl⟩

theorem Touched.heap (touched : Touched w p b w') :
    w'.heap = Function.update w.heap p (some b) := by
  obtain ⟨_, _, _, _, rfl⟩ := touched
  rfl

theorem Touched.self (touched : Touched w p b w') : w'.heap p = some b := by
  rw [touched.heap, Function.update_self]

theorem Touched.other (touched : Touched w p b w') {q : Nat} (other : q ≠ p) :
    w'.heap q = w.heap q := by
  rw [touched.heap, Function.update_of_ne other]

/-- A socket after something is written to one: it is this one, or as it was. -/
theorem Touched.cases (touched : Touched w p b w') {q : Nat} {c : Socket}
    (here : w'.heap q = some c) : (q = p ∧ c = b) ∨ (q ≠ p ∧ w.heap q = some c) := by
  by_cases same : q = p
  · subst same
    exact .inl ⟨rfl, Option.some.inj (here.symm.trans touched.self)⟩
  · exact .inr ⟨same, touched.other same ▸ here⟩

/-! ### Who is owned -/

/-- The pointers that the handler has. -/
def owned (w : SocketHandler) : List Nat :=
  w.sockets.map Prod.snd ++ (w.add.map Prod.snd ++ w.delete)

theorem mem_owned : p ∈ w.owned ↔
    (∃ s, (s, p) ∈ w.sockets) ∨ (∃ s, (s, p) ∈ w.add) ∨ p ∈ w.delete := by
  simp [owned]

/-- Every pointer that the handler has is one to a socket, and it has none twice. -/
structure Owned (w : SocketHandler) : Prop where
  sockets : Sorted fdLess w.sockets
  add : Sorted fdLess w.add
  distinct : w.owned.Nodup
  live : ∀ p ∈ w.owned, ∃ a, w.heap p = some a
  fresh : ∀ p a, w.heap p = some a → p < w.next

theorem Owned.touched (owned : Owned w) (touched : Touched w p b w') (here : w.heap p = some a) :
    Owned w' := by
  have heap := touched
  obtain ⟨_, _, _, _, rfl⟩ := touched
  refine ⟨owned.sockets, owned.add, owned.distinct, fun q mem => ?_, fun q c live => ?_⟩
  · by_cases same : q = p
    · exact ⟨b, same ▸ heap.self⟩
    · obtain ⟨c, live⟩ := owned.live q mem
      exact ⟨c, (heap.other same).trans live⟩
  · rcases heap.cases live with ⟨rfl, -⟩ | ⟨-, live⟩
    · exact owned.fresh q a here
    · exact owned.fresh q c live

theorem owned_eq (w : SocketHandler) :
    w.owned = w.sockets.map Prod.snd ++ (w.add.map Prod.snd ++ w.delete) := rfl

/-- A socket is in no two places. -/
theorem Owned.apart (owned : Owned w) {s : Nat} (mem : (s, p) ∈ w.sockets) :
    (∀ t, (t, p) ∉ w.add) ∧ p ∉ w.delete := by
  have distinct := owned.distinct
  rw [owned_eq, List.nodup_append] at distinct
  have apart := distinct.2.2 p (List.mem_map_of_mem mem)
  refine ⟨fun t mem' => ?_, fun mem' => ?_⟩
  · exact apart p (List.mem_append_left _ (List.mem_map_of_mem mem')) rfl
  · exact apart p (List.mem_append_right _ mem') rfl

theorem Owned.apart_add (owned : Owned w) {s : Nat} (mem : (s, p) ∈ w.add) :
    (∀ t, (t, p) ∉ w.sockets) ∧ p ∉ w.delete := by
  refine ⟨fun t mem' => (owned.apart mem').1 s mem, fun mem' => ?_⟩
  have distinct := owned.distinct
  rw [owned_eq, List.nodup_append, List.nodup_append] at distinct
  exact distinct.2.1.2.2 p (List.mem_map_of_mem mem) p mem' rfl

/-- A socket is under one descriptor. -/
theorem Owned.key_unique (owned : Owned w) {s t : Nat} (mem : (s, p) ∈ w.sockets)
    (mem' : (t, p) ∈ w.sockets) : s = t := by
  have distinct := owned.distinct
  rw [owned_eq, List.nodup_append] at distinct
  have same := List.inj_on_of_nodup_map distinct.1 mem mem' rfl
  exact congrArg Prod.fst same

/-- Fewer pointers are as good. -/
theorem Owned.shrink (owned : Owned w) (sockets : Sorted fdLess w'.sockets)
    (add : Sorted fdLess w'.add) (heap : w'.heap = w.heap) (next : w'.next = w.next)
    (fewer : w'.owned.Subperm w.owned) : Owned w' where
  sockets := sockets
  add := add
  distinct := nodup_of_subperm fewer owned.distinct
  live q mem := by
    obtain ⟨a, live⟩ := owned.live q (fewer.subset mem)
    exact ⟨a, heap ▸ live⟩
  fresh q a live := next ▸ owned.fresh q a (heap ▸ live)

/-- One more pointer, to a socket that the handler does not have yet. -/
theorem Owned.grow (owned : Owned w) (sockets : Sorted fdLess w'.sockets)
    (add : Sorted fdLess w'.add) (heap : w'.heap = w.heap) (next : w'.next = w.next)
    (here : w.heap p = some a) (out : p ∉ w.owned)
    (more : w'.owned.Subperm (p :: w.owned)) : Owned w' where
  sockets := sockets
  add := add
  distinct := nodup_of_subperm more (List.nodup_cons.mpr ⟨out, owned.distinct⟩)
  live q mem := by
    rw [heap]
    rcases List.mem_cons.mp (more.subset mem) with rfl | mem
    · exact ⟨a, here⟩
    · exact owned.live q mem
  fresh q a live := next ▸ owned.fresh q a (heap ▸ live)

/-- What is there when a socket has been freed. -/
theorem live_of_freed {heap : Nat → Option Socket} {q : Nat} {b : Socket}
    (live : Function.update heap p none q = some b) : q ≠ p ∧ heap q = some b := by
  by_cases same : q = p
  · subst same
    cases (Function.update_self ..).symm.trans live
  · exact ⟨same, (Function.update_of_ne same ..).symm.trans live⟩

/-- A socket that the handler does not have is deleted. -/
theorem Owned.free (owned : Owned w) (out : p ∉ w.owned) :
    Owned { w with heap := Function.update w.heap p none } where
  sockets := owned.sockets
  add := owned.add
  distinct := owned.distinct
  live q mem := by
    have other : q ≠ p := fun same => out (same ▸ mem)
    obtain ⟨a, live⟩ := owned.live q mem
    exact ⟨a, (Function.update_of_ne other ..).trans live⟩
  fresh q a live := owned.fresh q a (live_of_freed live).2

theorem Owned.newSocket (owned : Owned w) (made : Made) :
    Owned (w.newSocket made) ∧ w.next ∉ (w.newSocket made).owned := by
  have out : w.next ∉ w.owned := by
    intro mem
    obtain ⟨a, live⟩ := owned.live w.next mem
    exact Nat.lt_irrefl _ (owned.fresh w.next a live)
  refine ⟨⟨owned.sockets, owned.add, owned.distinct, fun q mem => ?_, fun q a live => ?_⟩, out⟩
  · have other : q ≠ w.next := fun same => out (same ▸ mem)
    obtain ⟨a, live⟩ := owned.live q mem
    exact ⟨a, (Function.update_of_ne other ..).trans live⟩
  · by_cases same : q = w.next
    · exact same ▸ Nat.lt_succ_self w.next
    · exact Nat.lt_succ_of_lt (owned.fresh q a ((Function.update_of_ne same ..).symm.trans live))

/-- What `Add` does: the socket goes to `m_add` or to `m_delete`, or nowhere. -/
theorem addSocket_cases (w : SocketHandler) (p : Nat) (a : Socket) :
    w.addSocket p a = w ∨ w.addSocket p a = { w with delete := w.delete ++ [p] } ∨
      ∃ s, a.socket = some s ∧ find fdLess s w.add = none ∧
        w.addSocket p a = { w with add := put fdLess s p w.add } := by
  rw [addSocket]
  split
  · split
    · exact .inr (.inl rfl)
    · exact .inl rfl
  · next s is =>
      split
      · exact .inr (.inl rfl)
      · next new => exact .inr (.inr ⟨s, is, by simpa using new, rfl⟩)

theorem Owned.addSocket (owned : Owned w) (here : w.heap p = some a) (out : p ∉ w.owned) :
    Owned (w.addSocket p a) := by
  rcases addSocket_cases w p a with same | added | ⟨s, -, -, added⟩
  · rwa [same]
  · rw [added]
    refine owned.grow owned.sockets owned.add rfl rfl here out (List.Perm.subperm ?_)
    have last (l l' : List Nat) :
        l ++ (l' ++ (w.delete ++ [p])) = l ++ (l' ++ w.delete) ++ [p] := by
      simp only [List.append_assoc]
    rw [owned_eq, last]
    exact List.perm_append_singleton p _
  · rw [added]
    refine owned.grow owned.sockets (owned.add.put fdLess_weak s p) rfl rfl here out ?_
    rw [owned_eq, owned_eq]
    refine List.Subperm.trans ?_ List.perm_middle.subperm
    exact (List.subperm_append_left _).mpr
      ((List.subperm_append_right _).mpr (values_put_subperm s p w.add))

/-- What the loop over `m_add` does to an entry. -/
theorem activate_eq (w : SocketHandler) (s p : Nat) (a : Socket) :
    ∃ rfds wfds efds maxsock, w.activate s p a =
        { w with
          rfds, wfds, efds, maxsock
          fds := w.fds ++ [s]
          sockets := put fdLess s p w.sockets
          add := w.add.tail } ∧
      w.maxsock ≤ maxsock ∧ (a.closeAndDelete = false → s ≤ maxsock) ∧
      ∀ t, (rfds t || wfds t || efds t) = true →
        (w.rfds t || w.wfds t || w.efds t) = true ∨ (t = s ∧ a.closeAndDelete = false) := by
  have watched (r wr e : Bool) (t : Nat)
      (set : (Function.update w.rfds s r t || Function.update w.wfds s wr t ||
        Function.update w.efds s e t) = true) :
      (w.rfds t || w.wfds t || w.efds t) = true ∨ t = s := by
    by_cases same : t = s
    · exact .inr same
    · rw [Function.update_of_ne same, Function.update_of_ne same,
        Function.update_of_ne same] at set
      exact .inl set
  cases closing : a.closeAndDelete with
  | true =>
      refine ⟨w.rfds, w.wfds, w.efds, w.maxsock, ?_, Nat.le_refl _, nofun, fun t set => .inl set⟩
      rw [activate, closing]
      rfl
  | false =>
      have mark {set : Prop} {t : Nat} (known : set ∨ t = s) : set ∨ (t = s ∧ false = false) :=
        known.imp id fun same => ⟨same, rfl⟩
      cases connecting : a.connecting with
      | true =>
          refine ⟨_, _, _, max s w.maxsock, ?_, Nat.le_max_right .., fun _ => Nat.le_max_left ..,
            fun t set => mark (watched false true true t set)⟩
          rw [activate, closing, connecting]
          rfl
      | false =>
          refine ⟨_, _, _, max s w.maxsock, ?_, Nat.le_max_right .., fun _ => Nat.le_max_left ..,
            fun t set =>
              mark (watched (!a.disableRead) (a.tcp && a.outputLength != 0) true t set)⟩
          rw [activate, closing, connecting]
          rfl

theorem Owned.activate (owned : Owned w) {s : Nat} {rest : List (Nat × Nat)}
    (first : w.add = (s, p) :: rest) (a : Socket) : Owned (w.activate s p a) := by
  have sorted := owned.add
  rw [first] at sorted
  obtain ⟨_, _, _, _, eq, -⟩ := activate_eq w s p a
  rw [eq, first]
  refine owned.shrink (owned.sockets.put fdLess_weak s p) (List.pairwise_cons.mp sorted).2 rfl
    rfl ?_
  rw [owned_eq, owned_eq, first]
  refine List.Subperm.trans ?_ List.perm_middle.symm.subperm
  exact (List.subperm_append_right _).mpr (values_put_subperm s p w.sockets)

/-- The entry of a descriptor is erased; what it pointed to is no longer owned. -/
theorem Owned.erase (owned : Owned w) (nn : Nat) :
    Owned { w with sockets := erase fdLess nn w.sockets } ∧
      ∀ p, (nn, p) ∈ w.sockets →
        p ∉ SocketHandler.owned { w with sockets := erase fdLess nn w.sockets } := by
  constructor
  · refine owned.shrink (owned.sockets.erase nn) owned.add rfl rfl (List.Sublist.subperm ?_)
    exact ((List.filter_sublist (l := w.sockets)).map Prod.snd).append_right _
  · intro p mem still
    rcases mem_owned.mp still with ⟨s, mem'⟩ | ⟨s, mem'⟩ | mem'
    · obtain ⟨mem', other⟩ := mem_erase_fd.mp mem'
      exact other (owned.key_unique mem' mem)
    · exact (owned.apart mem).1 s mem'
    · exact (owned.apart mem).2 mem'

/-- The first pointer in `m_delete` is taken out. -/
theorem Owned.behead (owned : Owned w) {rest : List Nat} (first : w.delete = p :: rest) :
    Owned { w with delete := w.delete.tail } ∧
      p ∉ SocketHandler.owned { w with delete := w.delete.tail } := by
  have perm : (p :: SocketHandler.owned { w with delete := w.delete.tail }).Perm w.owned := by
    rw [owned_eq, owned_eq, first, ← List.append_assoc, ← List.append_assoc]
    exact List.perm_middle.symm
  have distinct := perm.nodup_iff.mpr owned.distinct
  refine ⟨owned.shrink owned.sockets owned.add rfl rfl ?_, (List.nodup_cons.mp distinct).1⟩
  exact (List.sublist_cons_self p _).subperm.trans perm.subperm

/-- `Remove` leaves a socket to the handler that has marked it. -/
theorem remove_of_marked (marked : a.erasedByHandler = true) : w.remove p a = w := if_pos marked

/-- What `Remove` does for a socket that the handler has not marked. -/
theorem Owned.remove (owned : Owned w) (p : Nat) (unmarked : a.erasedByHandler = false) :
    Owned (w.remove p a) ∧ p ∉ (w.remove p a).owned ∧
      ∃ sockets add delete, w.remove p a = { w with sockets, add, delete } ∧
        sockets.Sublist w.sockets ∧ add.Sublist w.add ∧ delete.Sublist w.delete := by
  have found {removed : SocketHandler} (perm : w.owned.Perm (p :: removed.owned))
      (sockets : removed.sockets.Sublist w.sockets) (add : removed.add.Sublist w.add)
      (heap : removed.heap = w.heap) (next : removed.next = w.next) :
      Owned removed ∧ p ∉ removed.owned := by
    have distinct := perm.nodup_iff.mp owned.distinct
    refine ⟨owned.shrink (owned.sockets.sublist sockets) (owned.add.sublist add) heap next ?_,
      (List.nodup_cons.mp distinct).1⟩
    exact (List.sublist_cons_self p _).subperm.trans perm.symm.subperm
  have sub (entries : List (Nat × Nat)) :
      (entries.eraseP (·.2 = p)).Sublist entries := List.eraseP_sublist
  rw [SocketHandler.remove, unmarked, if_neg Bool.false_ne_true]
  split
  · next any =>
      have perm : w.owned.Perm
          (p :: SocketHandler.owned { w with sockets := w.sockets.eraseP (·.2 = p) }) :=
        (perm_eraseP_value any).append_right _
      obtain ⟨kept, out⟩ := found perm (sub _) (.refl _) rfl rfl
      exact ⟨kept, out, _, _, _, rfl, sub _, .refl _, .refl _⟩
  · next none =>
      split
      · next any =>
          have perm : w.owned.Perm
              (p :: SocketHandler.owned { w with add := w.add.eraseP (·.2 = p) }) :=
            (((perm_eraseP_value any).append_right _).append_left _).trans List.perm_middle
          obtain ⟨kept, out⟩ := found perm (.refl _) (sub _) rfl rfl
          exact ⟨kept, out, _, _, _, rfl, .refl _, sub _, .refl _⟩
      · next none' =>
          have sublist : (w.delete.erase p).Sublist w.delete := List.erase_sublist
          have fewer :
              (SocketHandler.owned { w with delete := w.delete.erase p }).Sublist w.owned :=
            (sublist.append_left _).append_left _
          refine ⟨owned.shrink owned.sockets owned.add rfl rfl fewer.subperm, fun mem => ?_,
            _, _, _, rfl, .refl _, .refl _, sublist⟩
          rcases mem_owned.mp mem with ⟨s, mem'⟩ | ⟨s, mem'⟩ | mem'
          · exact none (List.any_eq_true.mpr ⟨_, mem', decide_eq_true rfl⟩)
          · exact none' (List.any_eq_true.mpr ⟨_, mem', decide_eq_true rfl⟩)
          · have distinct := owned.distinct
            rw [owned_eq, List.nodup_append, List.nodup_append] at distinct
            exact distinct.2.1.2.1.not_mem_erase mem'

/-! ### What is in the lists and the sets -/

/-- A socket has the descriptor. -/
def Opens (w : SocketHandler) (s : Nat) : Prop := ∃ p a, w.heap p = some a ∧ a.socket = some s

/-- The lists are of the sockets whose flags are set, and there is no descriptor in a list or a set
for `select` that has been closed. -/
structure Listed (w : SocketHandler) : Prop where
  one : ∀ {p q a b s}, w.heap p = some a → w.heap q = some b → a.socket = some s →
    b.socket = some s → p = q
  flag : ∀ which {p a s}, w.heap p = some a → a.socket = some s →
    (s ∈ w.lists which ↔ a.flag which = true)
  opens : ∀ which, ∀ s ∈ w.lists which, w.Opens s
  distinct : ∀ which, (w.lists which).Nodup
  watched : ∀ s, (w.rfds s || w.wfds s || w.efds s) = true → w.Opens s

theorem Touched.opens_iff (touched : Touched w p b w') (here : w.heap p = some a)
    (same : b.socket = a.socket) (s : Nat) : w'.Opens s ↔ w.Opens s := by
  constructor
  · rintro ⟨q, c, live, is⟩
    rcases touched.cases live with ⟨rfl, rfl⟩ | ⟨-, live⟩
    · exact ⟨q, a, here, same ▸ is⟩
    · exact ⟨q, c, live, is⟩
  · rintro ⟨q, c, live, is⟩
    by_cases own : q = p
    · subst own
      cases here.symm.trans live
      exact ⟨q, b, touched.self, same.trans is⟩
    · exact ⟨q, c, (touched.other own).trans live, is⟩

/-- Something is written to a socket that keeps its descriptor. It is enough that its own flags
agree with the lists, and that the lists and the sets are as before for other descriptors. -/
theorem Listed.touched (listed : Listed w) (touched : Touched w p b w')
    (here : w.heap p = some a) (same : b.socket = a.socket)
    (own : ∀ which s, a.socket = some s → (s ∈ w'.lists which ↔ b.flag which = true))
    (others : ∀ which s, a.socket ≠ some s → (s ∈ w'.lists which ↔ s ∈ w.lists which))
    (distinct : ∀ which, (w'.lists which).Nodup)
    (watched : ∀ s, (w'.rfds s || w'.wfds s || w'.efds s) = true →
      (w.rfds s || w.wfds s || w.efds s) = true ∨ a.socket = some s) : Listed w' := by
  have opens := touched.opens_iff here same
  refine ⟨?_, ?_, ?_, distinct, ?_⟩
  · -- every socket has the descriptor it had before
    have before {q : Nat} {c : Socket} {s : Nat} (live : w'.heap q = some c)
        (is : c.socket = some s) : ∃ d, w.heap q = some d ∧ d.socket = some s := by
      rcases touched.cases live with ⟨rfl, rfl⟩ | ⟨-, live⟩
      · exact ⟨a, here, same ▸ is⟩
      · exact ⟨c, live, is⟩
    intro q r c d s live live' is is'
    obtain ⟨c', old, was⟩ := before live is
    obtain ⟨d', old', was'⟩ := before live' is'
    exact listed.one old old' was was'
  · intro which q c s live is
    rcases touched.cases live with ⟨rfl, rfl⟩ | ⟨other, live⟩
    · exact own which s (same ▸ is)
    · have apart : a.socket ≠ some s := fun was => other (listed.one live here is was)
      exact (others which s apart).trans (listed.flag which live is)
  · intro which s mem
    by_cases is : a.socket = some s
    · exact (opens s).mpr ⟨p, a, here, is⟩
    · exact (opens s).mpr (listed.opens which s ((others which s is).mp mem))
  · intro s set
    rcases watched s set with old | is
    · exact (opens s).mpr (listed.watched s old)
    · exact (opens s).mpr ⟨p, a, here, is⟩

theorem Listed.write (listed : Listed w) (here : w.heap p = some a) (same : b.socket = a.socket)
    (flags : ∀ which, b.flag which = a.flag which) : Listed (w.write p b) := by
  refine listed.touched (touched_write w p b) here same ?_ (fun _ _ _ => .rfl) listed.distinct
    fun _ set => .inl set
  intro which s is
  rw [flags which]
  exact listed.flag which here is

theorem Listed.set (listed : Listed w) (here : w.heap p = some a) (r wr e : Bool) :
    Listed (w.set a.socket r wr e) := by
  cases is : a.socket with
  | none => exact listed
  | some s =>
      refine listed.touched (touched_set here (some s) r wr e) here rfl
        (fun which t is => listed.flag which here is) (fun _ _ _ => .rfl) listed.distinct ?_
      intro t set
      by_cases same : t = s
      · exact .inr (same ▸ is)
      · refine .inl ?_
        simpa [SocketHandler.set, Function.update_of_ne same] using set

/-- `AddList`, with the flag that goes with it. -/
theorem Listed.addList (listed : Listed w) (here : w.heap p = some a)
    (same : b.socket = a.socket) (which : ListT) (x : Bool) (own : b.flag which = x)
    (flags : ∀ which', which' ≠ which → b.flag which' = a.flag which') :
    Listed ((w.addList a.socket which x).write p b) := by
  cases is : a.socket with
  | none =>
      rw [is] at same
      refine listed.touched (touched_write w p b) here (same.trans is.symm) ?_ (fun _ _ _ => .rfl)
        listed.distinct fun _ set => .inl set
      intro which s was
      cases is.symm.trans was
  | some s =>
      rw [is] at same
      have lists : ((w.addList (some s) which x).write p b).lists = Function.update w.lists which
          (if x then (w.lists which).erase s ++ [s] else (w.lists which).erase s) := rfl
      have old := listed.distinct which
      refine listed.touched (touched_addList w p b (some s) which x) here (same.trans is.symm)
        ?_ ?_ ?_ fun _ set => .inl set
      · intro which' t was
        cases is.symm.trans was
        by_cases this : which' = which
        · subst this
          rw [lists, Function.update_self, own]
          cases x with
          | true => simp
          | false => simp [old.not_mem_erase]
        · rw [lists, Function.update_of_ne this, flags which' this]
          exact listed.flag which' here is
      · intro which' t apart
        have other : t ≠ s := fun same => apart (same ▸ is)
        by_cases this : which' = which
        · subst this
          rw [lists, Function.update_self]
          cases x with
          | true => simp [other, List.mem_erase_of_ne other]
          | false => simp [List.mem_erase_of_ne other]
        · rw [lists, Function.update_of_ne this]
      · intro which'
        by_cases this : which' = which
        · subst this
          rw [lists, Function.update_self]
          cases x with
          | true =>
              refine List.nodup_append.mpr ⟨old.erase s, List.nodup_singleton s, ?_⟩
              intro t mem u only same
              rw [List.mem_singleton.mp only] at same
              exact old.not_mem_erase (same ▸ mem)
          | false => exact old.erase s
        · rw [lists, Function.update_of_ne this]
          exact listed.distinct which'

/-- Each setter puts the descriptor into the lists or takes it out as it sets the flags. -/
theorem Listed.call (listed : Listed w) (here : w.heap p = some a) (setter : Setter) :
    Listed (w.call p a setter) := by
  cases setter with
  | setCloseAndDelete =>
      rw [SocketHandler.call, SocketHandler.setCloseAndDelete]
      split
      · exact listed
      · refine listed.addList (b := { a with closeAndDelete := true }) here rfl .close true rfl
          fun which other => ?_
        cases which <;> first | rfl | exact absurd rfl other
  | setConnecting x =>
      rw [SocketHandler.call, SocketHandler.setConnecting]
      split
      · exact listed
      · refine listed.addList (b := { a with connecting := x }) here rfl .connecting x rfl
          fun which other => ?_
        cases which <;> first | rfl | exact absurd rfl other
  | setCallOnConnect x =>
      refine listed.addList (b := { a with callOnConnect := x }) here rfl .callOnConnect x rfl
        fun which other => ?_
      cases which <;> first | rfl | exact absurd rfl other
  | set r wr e => exact listed.set here r wr e
  | setConnected x => exact listed.write here rfl fun which => by cases which <;> rfl
  | setFlushBeforeClose x => exact listed.write here rfl fun which => by cases which <;> rfl
  | disableRead x => exact listed.write here rfl fun which => by cases which <;> rfl
  | setShutdown => exact listed.write here rfl fun which => by cases which <;> rfl
  | output length => exact listed.write here rfl fun which => by cases which <;> rfl

/-- A socket that is closed is taken out of the lists and the sets for `select` with its descriptor,
and the others stay in theirs. -/
theorem Listed.close (listed : Listed w) (here : w.heap p = some a) :
    Listed (w.close p a) := by
  cases is : a.socket with
  | none =>
      rw [SocketHandler.close, is]
      exact listed
  | some s =>
      have closed : Touched w p { a with socket := none } (w.close p a) := touched_close here
      have lists (which : ListT) : (w.close p a).lists which = (w.lists which).erase s := by
        rw [SocketHandler.close, is]
        cases which <;> rfl
      have sets (t : Nat) (other : t ≠ s) : (w.close p a).rfds t = w.rfds t ∧
          (w.close p a).wfds t = w.wfds t ∧ (w.close p a).efds t = w.efds t := by
        rw [SocketHandler.close, is]
        exact ⟨Function.update_of_ne other .., Function.update_of_ne other ..,
          Function.update_of_ne other ..⟩
      have off : ((w.close p a).rfds s || (w.close p a).wfds s || (w.close p a).efds s) =
          false := by
        rw [SocketHandler.close, is]
        simp [SocketHandler.write, SocketHandler.addList, SocketHandler.set]
      -- whoever has a descriptor now had it before, and it is another one
      have before {q : Nat} {c : Socket} {t : Nat} (live : (w.close p a).heap q = some c)
          (has : c.socket = some t) : w.heap q = some c ∧ t ≠ s := by
        rcases closed.cases live with ⟨rfl, rfl⟩ | ⟨other, live⟩
        · cases has
        · refine ⟨live, ?_⟩
          rintro rfl
          exact other (listed.one live here has is)
      have opens {t : Nat} (open' : w.Opens t) (other : t ≠ s) : (w.close p a).Opens t := by
        obtain ⟨q, c, live, has⟩ := open'
        refine ⟨q, c, (closed.other ?_).trans live, has⟩
        rintro rfl
        cases here.symm.trans live
        exact other (Option.some.inj (has.symm.trans is))
      refine ⟨?_, ?_, ?_, ?_, ?_⟩
      · intro q r c d t live live' has has'
        exact listed.one (before live has).1 (before live' has').1 has has'
      · intro which q c t live has
        obtain ⟨live, other⟩ := before live has
        rw [lists, List.mem_erase_of_ne other]
        exact listed.flag which live has
      · intro which t mem
        rw [lists] at mem
        have other : t ≠ s := fun same => (listed.distinct which).not_mem_erase (same ▸ mem)
        exact opens (listed.opens which t (List.mem_of_mem_erase mem)) other
      · intro which
        rw [lists]
        exact (listed.distinct which).erase s
      · intro t set
        have other : t ≠ s := by
          rintro rfl
          cases off.symm.trans set
        obtain ⟨r, wr, e⟩ := sets t other
        rw [r, wr, e] at set
        exact opens (listed.watched t set) other

/-- A socket without a descriptor is deleted. -/
theorem Listed.free (listed : Listed w) (shut : ∀ a, w.heap p = some a → a.socket = none) :
    Listed { w with heap := Function.update w.heap p none } := by
  have opens {s : Nat} (open' : w.Opens s) :
      Opens { w with heap := Function.update w.heap p none } s := by
    obtain ⟨q, c, live, has⟩ := open'
    refine ⟨q, c, (Function.update_of_ne ?_ ..).trans live, has⟩
    rintro rfl
    cases (shut c live).symm.trans has
  exact ⟨fun live live' => listed.one (live_of_freed live).2 (live_of_freed live').2,
    fun which _ _ _ live => listed.flag which (live_of_freed live).2,
    fun which s mem => opens (listed.opens which s mem), listed.distinct,
    fun s set => opens (listed.watched s set)⟩

theorem isOpen_of_opens (owned : Owned w) {s : Nat} (open' : w.Opens s) : w.isOpen s = true := by
  obtain ⟨p, a, live, has⟩ := open'
  refine List.any_eq_true.mpr ⟨p, List.mem_range.mpr (owned.fresh p a live), ?_⟩
  rw [live]
  exact decide_eq_true has

/-- A socket that has just been made is in no list, and its descriptor is one that nobody has open.
-/
theorem Listed.newSocket (listed : Listed w) (owned : Owned w) {made : Made}
    (new : made.socket.any w.isOpen = false) : Listed (w.newSocket made) := by
  have apart {s : Nat} (open' : w.Opens s) : made.socket ≠ some s := by
    intro is
    rw [is, Option.any_some, isOpen_of_opens owned open'] at new
    cases new
  have cases {q : Nat} {c : Socket} (live : (w.newSocket made).heap q = some c) :
      (q = w.next ∧ c.socket = made.socket ∧ ∀ which, c.flag which = false) ∨
        w.heap q = some c := by
    by_cases same : q = w.next
    · subst same
      cases (Function.update_self ..).symm.trans live
      exact .inl ⟨rfl, rfl, fun which => by cases which <;> rfl⟩
    · exact .inr ((Function.update_of_ne same ..).symm.trans live)
  have opens {s : Nat} (open' : w.Opens s) : (w.newSocket made).Opens s := by
    obtain ⟨q, c, live, has⟩ := open'
    exact ⟨q, c, (Function.update_of_ne (Nat.ne_of_lt (owned.fresh q c live)) ..).trans live, has⟩
  refine ⟨?_, ?_, fun which s mem => opens (listed.opens which s mem), listed.distinct,
    fun s set => opens (listed.watched s set)⟩
  · intro q r c d s live live' has has'
    rcases cases live with ⟨rfl, is, -⟩ | old <;> rcases cases live' with ⟨rfl, is', -⟩ | old'
    · rfl
    · exact absurd (is.symm.trans has) (apart ⟨r, d, old', has'⟩)
    · exact absurd (is'.symm.trans has') (apart ⟨q, c, old, has⟩)
    · exact listed.one old old' has has'
  · intro which q c s live has
    rcases cases live with ⟨rfl, is, flags⟩ | old
    · rw [flags which]
      refine iff_of_false (fun mem => ?_) Bool.false_ne_true
      exact apart (listed.opens which s mem) (is.symm.trans has)
    · exact listed.flag which old has

/-! ### Where a socket is -/

/-- A socket is under its own descriptor, if it has not been closed and told so. Those in
`m_sockets` are in `m_fds`, and `select` looks at them unless they are to be closed. -/
structure Keyed (w : SocketHandler) : Prop where
  key : ∀ {s p a}, (s, p) ∈ w.sockets ∨ (s, p) ∈ w.add → w.heap p = some a →
    a.socket = some s ∨
      (a.socket = none ∧ a.closeAndDelete = true ∧ Entry.told p ∈ w.log)
  fds : ∀ {s p}, (s, p) ∈ w.sockets → s ∈ w.fds
  range : ∀ {s p a}, (s, p) ∈ w.sockets → w.heap p = some a → a.closeAndDelete = false →
    s ≤ w.maxsock

theorem Keyed.touched (keyed : Keyed w) (touched : Touched w p b w') (here : w.heap p = some a)
    (same : b.socket = a.socket)
    (closing : a.closeAndDelete = true → b.closeAndDelete = true) : Keyed w' := by
  have heap := touched
  obtain ⟨_, _, _, _, rfl⟩ := touched
  refine ⟨?_, keyed.fds, ?_⟩
  · intro s q c mem live
    rcases heap.cases live with ⟨rfl, rfl⟩ | ⟨-, live⟩
    · rw [same]
      exact (keyed.key mem here).imp id fun shut => ⟨shut.1, closing shut.2.1, shut.2.2⟩
    · exact keyed.key mem live
  · intro s q c mem live calm
    rcases heap.cases live with ⟨rfl, rfl⟩ | ⟨-, live⟩
    · refine keyed.range mem here (Bool.eq_false_iff.mpr fun was => ?_)
      cases calm.symm.trans (closing was)
    · exact keyed.range mem live calm

theorem Keyed.record (keyed : Keyed w) (entry : Entry) : Keyed (w.record entry) where
  key mem live := (keyed.key mem live).imp id fun shut =>
    ⟨shut.1, shut.2.1, List.mem_append_left _ shut.2.2⟩
  fds := keyed.fds
  range := keyed.range

/-- A socket that is to be closed is closed, and told so. -/
theorem Keyed.close (keyed : Keyed w) (here : w.heap p = some a)
    (closing : a.closeAndDelete = true) : Keyed ((w.close p a).record (.told p)) := by
  have touched : Touched w p { a with socket := none } (w.close p a) := touched_close here
  have heap := touched
  obtain ⟨_, _, _, _, eq⟩ := touched
  rw [eq] at heap ⊢
  refine ⟨?_, keyed.fds, ?_⟩
  · intro s q c mem live
    rcases heap.cases live with ⟨rfl, rfl⟩ | ⟨-, live⟩
    · exact .inr ⟨rfl, closing, List.mem_append_right _ List.mem_cons_self⟩
    · exact (keyed.record (.told p)).key mem live
  · intro s q c mem live calm
    rcases heap.cases live with ⟨rfl, rfl⟩ | ⟨-, live⟩
    · cases calm.symm.trans closing
    · exact keyed.range mem live calm

/-- What the handler does not have does not matter. -/
theorem Keyed.outside (keyed : Keyed w) (out : p ∉ w.owned) (heap : Nat → Option Socket)
    (same : ∀ q, q ≠ p → heap q = w.heap q) : Keyed { w with heap := heap } := by
  have other {s q : Nat} (mem : (s, q) ∈ w.sockets ∨ (s, q) ∈ w.add) : q ≠ p := by
    rintro rfl
    exact out (mem_owned.mpr (mem.imp (fun mem => ⟨s, mem⟩) fun mem => .inl ⟨s, mem⟩))
  refine ⟨fun mem live => ?_, keyed.fds, fun mem live => ?_⟩
  · exact keyed.key mem ((same _ (other mem)).symm.trans live)
  · exact keyed.range mem ((same _ (other (.inl mem))).symm.trans live)

theorem Keyed.addSocket (keyed : Keyed w) (here : w.heap p = some a) :
    Keyed (w.addSocket p a) := by
  rcases addSocket_cases w p a with same | added | ⟨s, is, new, added⟩
  · rwa [same]
  · rw [added]
    exact ⟨keyed.key, keyed.fds, keyed.range⟩
  · rw [added]
    refine ⟨?_, keyed.fds, keyed.range⟩
    rintro t q c (mem | mem) live
    · exact keyed.key (.inl mem) live
    · rcases List.mem_cons.mp ((put_perm new p).subset mem) with first | mem
      · cases first
        cases here.symm.trans live
        exact .inl is
      · exact keyed.key (.inr mem) live

/-- A socket that goes from `m_add` to `m_sockets` is under its own descriptor, which is in `m_fds`
then. -/
theorem Keyed.activate (keyed : Keyed w) {s : Nat} {rest : List (Nat × Nat)}
    (first : w.add = (s, p) :: rest) (here : w.heap p = some a) :
    Keyed (w.activate s p a) := by
  obtain ⟨_, _, _, maxsock, eq, more, reaches, -⟩ := activate_eq w s p a
  have new {t q : Nat} (mem : (t, q) ∈ put fdLess s p w.sockets) :
      (t, q) ∈ w.sockets ∨ (t = s ∧ q = p) := by
    rcases mem_put mem with old | ⟨is, key | ⟨key, -⟩⟩
    · exact .inl old
    · exact .inr ⟨key, is⟩
    · exact .inr ⟨fd_eq_of_same key, is⟩
  have old {t q : Nat} (mem : (t, q) ∈ w.add.tail) : (t, q) ∈ w.add := List.mem_of_mem_tail mem
  rw [eq]
  refine ⟨?_, fun mem => ?_, fun mem live calm => ?_⟩
  · rintro t q c (mem | mem) live
    · rcases new mem with mem | ⟨rfl, rfl⟩
      · exact keyed.key (.inl mem) live
      · exact keyed.key (.inr (first ▸ List.mem_cons_self)) live
    · exact keyed.key (.inr (old mem)) live
  · rcases new mem with mem | ⟨rfl, rfl⟩
    · exact List.mem_append_left _ (keyed.fds mem)
    · exact List.mem_append_right _ List.mem_cons_self
  · rcases new mem with mem | ⟨rfl, rfl⟩
    · exact Nat.le_trans (keyed.range mem live calm) more
    · cases here.symm.trans live
      exact reaches calm

/-- The entry of a descriptor and the descriptor are erased. -/
theorem Keyed.erase (keyed : Keyed w) (nn : Nat) :
    Keyed { w with
      fds := w.fds.erase nn
      sockets := OrderedMap.erase fdLess nn w.sockets } where
  key := by
    rintro s q c (mem | mem) live
    · exact keyed.key (.inl (mem_erase_fd.mp mem).1) live
    · exact keyed.key (.inr mem) live
  fds mem := by
    obtain ⟨mem, other⟩ := mem_erase_fd.mp mem
    exact (List.mem_erase_of_ne other).mpr (keyed.fds mem)
  range mem live calm := keyed.range (mem_erase_fd.mp mem).1 live calm

theorem Keyed.shrink (keyed : Keyed w) {sockets add : List (Nat × Nat)} (delete : List Nat)
    (fewer : sockets.Sublist w.sockets) (fewer' : add.Sublist w.add) :
    Keyed { w with sockets, add, delete } where
  key mem live :=
    keyed.key (mem.imp (fun mem => fewer.subset mem) fun mem => fewer'.subset mem) live
  fds mem := keyed.fds (fewer.subset mem)
  range mem live calm := keyed.range (fewer.subset mem) live calm

theorem le_foldl_max {l : List Nat} {s m : Nat} (mem : s ∈ l ∨ s ≤ m) : s ≤ l.foldl max m := by
  induction l generalizing m with
  | nil => exact mem.resolve_left (List.not_mem_nil)
  | cons x l ih =>
      refine ih ?_
      rcases mem with mem | small
      · rcases List.mem_cons.mp mem with rfl | mem
        · exact .inr (Nat.le_max_right ..)
        · exact .inl mem
      · exact .inr (Nat.le_trans small (Nat.le_max_left ..))

theorem Keyed.rescale (keyed : Keyed w) : Keyed { w with maxsock := w.fds.foldl max 0 } :=
  ⟨keyed.key, keyed.fds, fun mem _ _ => le_foldl_max (.inl (keyed.fds mem))⟩

theorem Listed.activate (listed : Listed w) (keyed : Keyed w) {s : Nat}
    {rest : List (Nat × Nat)} (first : w.add = (s, p) :: rest) (here : w.heap p = some a) :
    Listed (w.activate s p a) := by
  obtain ⟨rfds, wfds, efds, maxsock, eq, -, -, watched⟩ := activate_eq w s p a
  rw [eq]
  refine ⟨listed.one, listed.flag, listed.opens, listed.distinct, fun t set => ?_⟩
  rcases watched t set with old | ⟨rfl, calm⟩
  · exact listed.watched t old
  · rcases keyed.key (.inr (first ▸ List.mem_cons_self)) here with has | ⟨-, closing, -⟩
    · exact ⟨p, a, here, has⟩
    · cases calm.symm.trans closing

theorem Listed.addSocket (listed : Listed w) (p : Nat) (a : Socket) :
    Listed (w.addSocket p a) := by
  rcases addSocket_cases w p a with same | added | ⟨s, -, -, added⟩
  · rwa [same]
  · rw [added]
    exact ⟨listed.one, listed.flag, listed.opens, listed.distinct, listed.watched⟩
  · rw [added]
    exact ⟨listed.one, listed.flag, listed.opens, listed.distinct, listed.watched⟩

end SocketHandler

end NoxServer.Network
