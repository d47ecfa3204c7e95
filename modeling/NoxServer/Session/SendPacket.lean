import NoxServer.Library.Coalesce
import NoxServer.Session.WorldSession

/-!
`WorldSession::SendPacket` and `_SendPacket`: packets for one client are combined, and
the combined packet goes to the socket when a packet with another header comes or when
it is flushed.

The combined packet says "nothing yet" by opcode 0. `Represents` reads a combined packet
as the pending batch of `Coalesce`; each call keeps that reading and hands the socket
exactly the batches `Coalesce.submit` sends off, so the stream law of `Coalesce` is the
stream law of the session. A packet that fills the buffer to its limit fails an
assertion; `Fits` says when that does not happen, and it says so exactly.
-/

namespace NoxServer.Session

open Coalesce

namespace WorldSession

/-- `_SendPacket(&sendPacket)`: what the socket is given, and the combined packet anew. -/
def _sendPacket (s : WorldSession) : WorldSession × List WorldPacket :=
  if s.socket then
    let packet := { s.combined with client := s.client, xor := s.xorKey }
    ({ s with combined := packet.initializeWith 0 }, [packet])
  else ({ s with combined := s.combined.initializeWith 0 }, [])

/-- The part of `SendPacket` that writes: an empty combined packet takes the packet's
header, another one its opcode as a byte, and then either takes its payload. -/
def appendPacket (combined packet : WorldPacket) : Except Fault WorldPacket := do
  let opened ←
    (if combined.opcode = 0 then
      .ok { combined with
        opcode := packet.opcode, accountid := packet.accountid, unk := packet.unk }
    else combined.append [packet.opcode])
  (if packet.size > 0 then opened.append packet.storage else .ok opened)

/-- `SendPacket` from where the packet has its `unk`: the combined packet is sent off
if its header is another one, and the packet is written to what is then there. -/
def combine (s : WorldSession) (packet : WorldPacket) :
    Except Fault (WorldSession × List WorldPacket) := do
  let (s, sent) :=
    if s.combined.opcode ≠ 0 ∧
        (packet.unk ≠ s.combined.unk ∨ packet.accountid ≠ s.combined.accountid) then
      s._sendPacket
    else (s, [])
  let combined ← appendPacket s.combined packet
  return ({ s with combined := combined }, sent)

/-- `SendPacket(packet, ifReady, changeUnk)`, with the datagrams the socket is given. -/
def sendPacket (s : WorldSession) (packet : WorldPacket) (ifReady : Bool := true)
    (changeUnk : Bool := true) : Except Fault (WorldSession × List WorldPacket) :=
  if s.socket && (!ifReady || !s.playerLoading) then
    s.combine (if changeUnk then { packet with unk := s.unk } else packet)
  else .ok (s, [])

end WorldSession

/-! ### Sequences of calls -/

/-- The header of a datagram: `unk` and the account id. -/
abbrev Header := UInt8 × UInt8

/-- A packet to combine: its opcode and its payload. -/
abbrev Item := UInt8 × List UInt8

/-- A call of `SendPacket`, with the values `m_unk` and `m_playerLoading` have at the
call: other code changes both between two calls. -/
structure SendCall where
  packet : WorldPacket
  ifReady : Bool := true
  changeUnk : Bool := true
  unk : UInt8
  loading : Bool

namespace SendCall

/-- The condition under which the call is not dropped, the socket apart. -/
def Ready (c : SendCall) : Prop := c.ifReady = false ∨ c.loading = false

/-- The header the packet is to travel under: `unk` and the account id. -/
def header (c : SendCall) : Header :=
  (if c.changeUnk then c.unk else c.packet.unk, c.packet.accountid)

/-- The packet as an item to combine: its header, its opcode and its payload. -/
def labelled (c : SendCall) : Header × Item :=
  (c.header, (c.packet.opcode, c.packet.storage))

end SendCall

namespace WorldSession

/-- Calls of `SendPacket`, one after the other. -/
def sendAll (s : WorldSession) : List SendCall → Except Fault (WorldSession × List WorldPacket)
  | [] => .ok (s, [])
  | c :: cs => do
      let (s, sent) ← { s with unk := c.unk, playerLoading := c.loading }.sendPacket
        c.packet c.ifReady c.changeUnk
      let (s, later) ← s.sendAll cs
      return (s, sent ++ later)

/-- Calls of `SendPacket`, then a flush. -/
def sendAllAndFlush (s : WorldSession) (calls : List SendCall) :
    Except Fault (WorldSession × List WorldPacket) := do
  let (s, sent) ← s.sendAll calls
  let (s, last) := s._sendPacket
  return (s, sent ++ last)

end WorldSession

/-! ### The combined packet as a pending batch -/

/-- What a combined packet holds. -/
abbrev Pending := Option (Batch Header Item)

/-- An item on the wire. -/
def itemBytes (item : Item) : List UInt8 := item.1 :: item.2

/-- A packet that holds a batch. -/
structure Carries (p : WorldPacket) (b : Batch Header Item) : Prop where
  opcode : p.opcode ≠ 0
  header : (p.unk, p.accountid) = b.header
  bytes : p.bytes = b.items.flatMap itemBytes

/-- What a combined packet says is pending. Opcode 0 says nothing is. -/
structure Represents (p : WorldPacket) (pending : Pending) : Prop where
  atEnd : p.AtEnd
  idle : pending = none → p.opcode = 0 ∧ p.storage = []
  carries : ∀ b ∈ pending, Carries p b

/-- The number of payload bytes the combined packet holds. -/
def pendingSize : Pending → Nat
  | none => 0
  | some b => (b.items.flatMap itemBytes).length - 1

/-- A packet fits: neither its opcode byte, when it joins the pending batch, nor its
payload is appended to a buffer at its limit. -/
def FitsOne (pending : Pending) (x : Header × Item) : Prop :=
  ∀ b ∈ pending, x.1 = b.header →
    pendingSize pending < ByteBuffer.appendLimit ∧
      (x.2.2 ≠ [] → pendingSize pending + 1 < ByteBuffer.appendLimit)

/-- Every packet of a sequence fits. -/
def Fits (pending : Pending) : List (Header × Item) → Prop
  | [] => True
  | x :: xs => FitsOne pending x ∧ Fits (submit pending x).1 xs

/-- A sequence that in all takes no more bytes than the limit fits. -/
theorem fits_of_total (xs : List (Header × Item)) {pending : Pending}
    (total : pendingSize pending + (xs.map fun x => x.2.2.length + 1).sum ≤
      ByteBuffer.appendLimit) : Fits pending xs := by
  induction xs generalizing pending with
  | nil => trivial
  | cons x xs ih =>
      simp only [List.map_cons, List.sum_cons] at total
      constructor
      · intro b _ _
        refine ⟨by omega, fun nonempty => ?_⟩
        have positive := List.length_pos_iff.mpr nonempty
        omega
      · have grows : pendingSize (submit pending x).1 ≤ pendingSize pending + x.2.2.length + 1 := by
          cases pending with
          | none => simp [submit, pendingSize, itemBytes]
          | some b =>
              by_cases same : x.1 = b.header
              · simp only [submit, if_pos same, pendingSize, Batch.items_snoc,
                  List.flatMap_append, List.length_append, List.flatMap_singleton, itemBytes,
                  List.length_cons]
                omega
              · simp [submit, same, pendingSize, itemBytes]
                omega
        exact ih (by omega)

/-- A new or flushed combined packet holds nothing. -/
theorem represents_initializeWith (p : WorldPacket) : Represents (p.initializeWith 0) none where
  atEnd := rfl
  idle := fun _ => ⟨rfl, rfl⟩
  carries _ none := by cases none

theorem represents_create (id : UInt32) : Represents (WorldSession.create id).combined none where
  atEnd := rfl
  idle := fun _ => ⟨rfl, rfl⟩
  carries _ none := by cases none

theorem Represents.size_eq {p : WorldPacket} {pending : Pending}
    (represents : Represents p pending) : p.size = pendingSize pending := by
  cases pending with
  | none => simp [ByteBuffer.size, pendingSize, (represents.idle rfl).2]
  | some b =>
      have bytes := (represents.carries b rfl).bytes
      simp [pendingSize, ← bytes, WorldPacket.bytes, ByteBuffer.size]

/-- The code tests that there is a payload before it appends it; `append` would do
nothing with an empty one. -/
theorem append_of_size (q packet : WorldPacket) :
    (if packet.size > 0 then q.append packet.storage else .ok q) = q.append packet.storage := by
  by_cases empty : packet.storage = []
  · simp only [ByteBuffer.size, empty, WorldPacket.append, ByteBuffer.append]
    rfl
  · have positive : packet.size > 0 := List.length_pos_iff.mpr empty
    rw [if_pos positive]

/-- A combined packet with nothing in it takes a packet's header, opcode and payload. -/
theorem appendPacket_start {p : WorldPacket} (idle : Represents p none) {packet : WorldPacket}
    (nonzero : packet.opcode ≠ 0) :
    ∃ combined, WorldSession.appendPacket p packet = .ok combined ∧
      Represents combined
        (some (.single ((packet.unk, packet.accountid), (packet.opcode, packet.storage)))) := by
  obtain ⟨zero, empty⟩ := idle.idle rfl
  let started : WorldPacket := { p with
    opcode := packet.opcode, accountid := packet.accountid, unk := packet.unk }
  have atEnd : started.AtEnd := idle.atEnd
  have room : packet.storage ≠ [] → started.size < ByteBuffer.appendLimit := by
    intro _
    simp [started, ByteBuffer.size, empty, ByteBuffer.appendLimit]
  refine ⟨started.extend packet.storage, ?_, ?_⟩
  · rw [WorldSession.appendPacket, if_pos zero]
    exact (append_of_size started packet).trans (WorldPacket.append_eq_ok atEnd room)
  · refine ⟨WorldPacket.atEnd_extend atEnd _, fun none => (by cases none), ?_⟩
    rintro b ⟨⟩
    refine ⟨nonzero, rfl, ?_⟩
    rw [WorldPacket.bytes_extend]
    simp [started, WorldPacket.bytes, itemBytes, empty]

/-- A packet of the pending header joins the pending batch. -/
theorem appendPacket_join {p : WorldPacket} {b : Batch Header Item}
    (represents : Represents p (some b)) {packet : WorldPacket}
    (same : (packet.unk, packet.accountid) = b.header)
    (fits : FitsOne (some b) ((packet.unk, packet.accountid), (packet.opcode, packet.storage))) :
    ∃ combined, WorldSession.appendPacket p packet = .ok combined ∧
      Represents combined (some (b.snoc (packet.opcode, packet.storage))) := by
  obtain ⟨opcodeFits, payloadFits⟩ := fits b rfl same
  have carries := represents.carries b rfl
  rw [← represents.size_eq] at opcodeFits payloadFits
  let joined := p.extend [packet.opcode]
  have atEnd : joined.AtEnd := WorldPacket.atEnd_extend represents.atEnd _
  have room : packet.storage ≠ [] → joined.size < ByteBuffer.appendLimit := by
    intro nonempty
    rw [WorldPacket.size_extend]
    exact payloadFits nonempty
  refine ⟨joined.extend packet.storage, ?_, ?_⟩
  · rw [WorldSession.appendPacket, if_neg carries.opcode,
      WorldPacket.append_eq_ok represents.atEnd fun _ => opcodeFits]
    exact (append_of_size joined packet).trans (WorldPacket.append_eq_ok atEnd room)
  · refine ⟨WorldPacket.atEnd_extend atEnd _, fun none => (by cases none), ?_⟩
    rintro grown ⟨⟩
    refine ⟨carries.opcode, carries.header, ?_⟩
    rw [Batch.items_snoc, List.flatMap_append, ← carries.bytes]
    simp [joined, WorldPacket.bytes_extend, itemBytes]

/-- The combined packet as it is handed to the socket. -/
theorem Carries.addressed {p : WorldPacket} {b : Batch Header Item} (carries : Carries p b)
    (client : ClientAddr) (xor : UInt8) : Carries { p with client := client, xor := xor } b :=
  ⟨carries.opcode, carries.header, carries.bytes⟩

/-- The test on the header, on a combined packet that holds a batch. -/
theorem Carries.other_header_iff {p : WorldPacket} {b : Batch Header Item}
    (carries : Carries p b) (q : WorldPacket) :
    p.opcode ≠ 0 ∧ (q.unk ≠ p.unk ∨ q.accountid ≠ p.accountid) ↔
      (q.unk, q.accountid) ≠ b.header := by
  rw [← carries.header]
  constructor
  · rintro ⟨_, other⟩ same
    rw [Prod.mk.injEq] at same
    exact other.elim (fun unk => unk same.1) (fun accountid => accountid same.2)
  · intro different
    refine ⟨carries.opcode, not_and_or.mp ?_⟩
    rintro ⟨unk, accountid⟩
    exact different (by rw [unk, accountid])

/-- A flush hands the socket the pending batch and leaves nothing pending. -/
theorem _sendPacket_spec {s : WorldSession} {b : Batch Header Item}
    (socket : s.socket = true) (represents : Represents s.combined (some b)) :
    ∃ combined last, s._sendPacket = ({ s with combined := combined }, [last]) ∧
      Represents combined none ∧ Carries last b := by
  let last : WorldPacket := { s.combined with client := s.client, xor := s.xorKey }
  refine ⟨last.initializeWith 0, last, ?_, represents_initializeWith last, ?_⟩
  · rw [WorldSession._sendPacket, if_pos socket]
  · exact (represents.carries b rfl).addressed s.client s.xorKey

/-- A packet with its `unk`, combined: `submit` says what is pending and what is sent. -/
theorem combine_spec {s : WorldSession} {pending : Pending} (socket : s.socket = true)
    (represents : Represents s.combined pending) {packet : WorldPacket}
    (nonzero : packet.opcode ≠ 0)
    (fits : FitsOne pending ((packet.unk, packet.accountid), (packet.opcode, packet.storage))) :
    ∃ combined sent,
      s.combine packet = .ok ({ s with combined := combined }, sent) ∧
      Represents combined
        (submit pending ((packet.unk, packet.accountid), (packet.opcode, packet.storage))).1 ∧
      List.Forall₂ Carries sent
        (submit pending ((packet.unk, packet.accountid), (packet.opcode, packet.storage))).2 := by
  cases pending with
  | none =>
      obtain ⟨combined, appended, holds⟩ := appendPacket_start represents nonzero
      have zero := (represents.idle rfl).1
      refine ⟨combined, [], ?_, holds, .nil⟩
      rw [WorldSession.combine, if_neg fun other => other.1 zero]
      simp only [appended]
      rfl
  | some b =>
      have other := (represents.carries b rfl).other_header_iff packet
      by_cases same : (packet.unk, packet.accountid) = b.header
      · obtain ⟨combined, appended, holds⟩ := appendPacket_join represents same fits
        refine ⟨combined, [], ?_, ?_, ?_⟩
        · rw [WorldSession.combine, if_neg fun leaves => other.mp leaves same]
          simp only [appended]
          rfl
        · simpa only [submit, if_pos same] using holds
        · simp only [submit, if_pos same, List.forall₂_nil_left_iff]
      · obtain ⟨emptied, last, flushed, idle, sent⟩ := _sendPacket_spec socket represents
        obtain ⟨combined, appended, holds⟩ := appendPacket_start idle nonzero
        refine ⟨combined, [last], ?_, ?_, ?_⟩
        · rw [WorldSession.combine, if_pos (other.mpr same), flushed]
          simp only [appended]
          rfl
        · simpa only [submit, if_neg same] using holds
        · simp only [submit, if_neg same]
          exact .cons sent .nil

/-- A packet that does not fit fails the assertion of `append`. -/
theorem combine_error {s : WorldSession} {pending : Pending}
    (represents : Represents s.combined pending) {packet : WorldPacket}
    (full : ¬ FitsOne pending
      ((packet.unk, packet.accountid), (packet.opcode, packet.storage))) :
    s.combine packet = .error .assertion := by
  simp only [FitsOne, not_forall] at full
  obtain ⟨b, rfl, same, tooLong⟩ := full
  have carries := represents.carries b rfl
  have other := carries.other_header_iff packet
  rw [← represents.size_eq] at tooLong
  suffices fails : WorldSession.appendPacket s.combined packet = .error .assertion by
    rw [WorldSession.combine, if_neg fun leaves => other.mp leaves same]
    simp only [fails]
    rfl
  rw [WorldSession.appendPacket, if_neg carries.opcode]
  by_cases opcodeFits : s.combined.size < ByteBuffer.appendLimit
  · obtain ⟨nonempty, payloadFull⟩ : packet.storage ≠ [] ∧
        ¬ s.combined.size + 1 < ByteBuffer.appendLimit := by
      simpa [opcodeFits] using tooLong
    rw [WorldPacket.append_eq_ok represents.atEnd fun _ => opcodeFits, ok_bind, append_of_size]
    refine WorldPacket.append_eq_error nonempty ?_
    rw [WorldPacket.size_extend]
    exact Nat.le_of_not_lt payloadFull
  · rw [WorldPacket.append_eq_error (List.cons_ne_nil _ _) (Nat.le_of_not_lt opcodeFits)]
    rfl

/-- The packet of a call with the `unk` it is sent with. -/
def SendCall.stamped (c : SendCall) : WorldPacket :=
  if c.changeUnk then { c.packet with unk := c.unk } else c.packet

theorem SendCall.labelled_eq (c : SendCall) :
    c.labelled =
      ((c.stamped.unk, c.stamped.accountid), (c.stamped.opcode, c.stamped.storage)) := by
  cases changed : c.changeUnk with
  | true => simp [stamped, changed, labelled, header]
  | false => simp [stamped, changed, labelled, header]

/-- A call that is not dropped combines its packet. -/
theorem sendPacket_eq_combine {s : WorldSession} (socket : s.socket = true) {c : SendCall}
    (ready : c.Ready) :
    WorldSession.sendPacket { s with unk := c.unk, playerLoading := c.loading }
        c.packet c.ifReady c.changeUnk =
      WorldSession.combine { s with unk := c.unk, playerLoading := c.loading } c.stamped := by
  have taken : (s.socket && (!c.ifReady || !c.loading)) = true := by
    rcases ready with notAsked | loaded
    · simp [socket, notAsked]
    · simp [socket, loaded]
  rw [WorldSession.sendPacket, if_pos taken]
  rfl

/-- One call of `SendPacket`. -/
theorem sendPacket_spec {s : WorldSession} {pending : Pending} (socket : s.socket = true)
    (represents : Represents s.combined pending) {c : SendCall} (ready : c.Ready)
    (nonzero : c.packet.opcode ≠ 0) (fits : FitsOne pending c.labelled) :
    ∃ combined sent,
      WorldSession.sendPacket { s with unk := c.unk, playerLoading := c.loading }
        c.packet c.ifReady c.changeUnk =
          .ok ({ s with unk := c.unk, playerLoading := c.loading, combined := combined }, sent) ∧
      Represents combined (submit pending c.labelled).1 ∧
      List.Forall₂ Carries sent (submit pending c.labelled).2 := by
  have opcode : c.stamped.opcode ≠ 0 := by
    have same : c.packet.opcode = c.stamped.opcode := congrArg (fun x => x.2.1) c.labelled_eq
    rwa [← same]
  rw [sendPacket_eq_combine socket ready]
  rw [c.labelled_eq] at fits ⊢
  exact combine_spec (s := { s with unk := c.unk, playerLoading := c.loading })
    socket represents opcode fits

/-- A sequence of calls: the batches of `Coalesce.submitAll`, sent and pending. -/
theorem sendAll_spec (calls : List SendCall) {s : WorldSession} {pending : Pending}
    (socket : s.socket = true) (represents : Represents s.combined pending)
    (ready : ∀ c ∈ calls, c.Ready) (nonzero : ∀ c ∈ calls, c.packet.opcode ≠ 0)
    (fits : Fits pending (calls.map SendCall.labelled)) :
    ∃ s' sent, s.sendAll calls = .ok (s', sent) ∧ s'.socket = true ∧
      Represents s'.combined (submitAll pending (calls.map SendCall.labelled)).1 ∧
      List.Forall₂ Carries sent (submitAll pending (calls.map SendCall.labelled)).2 := by
  induction calls generalizing s pending with
  | nil => exact ⟨s, [], rfl, socket, represents, .nil⟩
  | cons c cs ih =>
      obtain ⟨fitsFirst, fitsRest⟩ := fits
      obtain ⟨combined, first, call, holds, firstSent⟩ := sendPacket_spec socket represents
        (ready c List.mem_cons_self) (nonzero c List.mem_cons_self) fitsFirst
      obtain ⟨s', later, calls, socket', holds', laterSent⟩ :=
        ih (s := { s with unk := c.unk, playerLoading := c.loading, combined := combined })
          socket holds (fun d mem => ready d (List.mem_cons_of_mem _ mem))
          (fun d mem => nonzero d (List.mem_cons_of_mem _ mem)) fitsRest
      refine ⟨s', first ++ later, ?_, socket', holds', List.rel_append firstSent laterSent⟩
      rw [WorldSession.sendAll, call, ok_bind]
      simp only [calls, ok_bind]
      rfl

/-- A sequence that does not fit ends at a failed assertion. -/
theorem sendAll_error (calls : List SendCall) {s : WorldSession} {pending : Pending}
    (socket : s.socket = true) (represents : Represents s.combined pending)
    (ready : ∀ c ∈ calls, c.Ready) (nonzero : ∀ c ∈ calls, c.packet.opcode ≠ 0)
    (full : ¬ Fits pending (calls.map SendCall.labelled)) :
    s.sendAll calls = .error .assertion := by
  induction calls generalizing s pending with
  | nil => exact absurd trivial full
  | cons c cs ih =>
      rw [WorldSession.sendAll]
      by_cases fits : FitsOne pending c.labelled
      · obtain ⟨combined, first, call, holds, _⟩ := sendPacket_spec socket represents
          (ready c List.mem_cons_self) (nonzero c List.mem_cons_self) fits
        have rest :=
          ih (s := { s with unk := c.unk, playerLoading := c.loading, combined := combined })
            socket holds (fun d mem => ready d (List.mem_cons_of_mem _ mem))
            (fun d mem => nonzero d (List.mem_cons_of_mem _ mem)) fun later => full ⟨fits, later⟩
        simp only [call, ok_bind, rest, error_bind]
      · have fails := combine_error (s := { s with unk := c.unk, playerLoading := c.loading })
          represents (c.labelled_eq ▸ fits)
        rw [sendPacket_eq_combine socket (ready c List.mem_cons_self), fails, error_bind]

/-- What the datagrams carry: the items submitted, and each under its own header. -/
theorem stream_of_carries {sent : List WorldPacket} {batches : List (Batch Header Item)}
    (carries : List.Forall₂ Carries sent batches) :
    sent.flatMap WorldPacket.bytes =
      (batches.flatMap Batch.labelled).flatMap fun x => itemBytes x.2 := by
  induction carries with
  | nil => rfl
  | cons first _ ih =>
      rw [List.flatMap_cons, ih, first.bytes, List.flatMap_cons, List.flatMap_append]
      simp [Batch.labelled, List.flatMap_map]

/-- The datagrams hold exactly `items`: their bytes are the items' bytes in order, and
they are the items cut into batches, each batch under its header. -/
structure Delivers (sent : List WorldPacket) (items : List (Header × Item)) : Prop where
  stream : sent.flatMap WorldPacket.bytes = items.flatMap fun x => itemBytes x.2
  headers : ∃ batches, List.Forall₂ Carries sent batches ∧
    batches.flatMap Batch.labelled = items

/-- The combined packet, the calls and a flush: every packet is delivered once, in order
and under its own header. Something must be pending at the flush, which sends the
combined packet even when there is nothing in it. -/
theorem sendAllAndFlush_delivers (s : WorldSession) (calls : List SendCall) {pending : Pending}
    (socket : s.socket = true) (represents : Represents s.combined pending)
    (something : pending ≠ none ∨ calls ≠ [])
    (ready : ∀ c ∈ calls, c.Ready) (nonzero : ∀ c ∈ calls, c.packet.opcode ≠ 0)
    (fits : Fits pending (calls.map SendCall.labelled)) :
    ∃ s' sent, s.sendAllAndFlush calls = .ok (s', sent) ∧
      Represents s'.combined none ∧
      Delivers sent (pending.toList.flatMap Batch.labelled ++ calls.map SendCall.labelled) := by
  obtain ⟨mid, sent, called, midSocket, holds, carried⟩ :=
    sendAll_spec calls socket represents ready nonzero fits
  let items := calls.map SendCall.labelled
  have present : (submitAll pending items).1.isSome := by
    refine submitAll_isSome pending items (something.imp_right fun nonempty => ?_)
    simpa [items] using nonempty
  obtain ⟨b, isPending⟩ := Option.isSome_iff_exists.mp present
  rw [isPending] at holds
  obtain ⟨combined, last, flushed, idle, lastCarries⟩ := _sendPacket_spec midSocket holds
  have carries : List.Forall₂ Carries (sent ++ [last]) (batches pending items) := by
    rw [batches, isPending]
    exact List.rel_append carried (.cons lastCarries .nil)
  have labels := labelled_submitAll pending items
  refine ⟨{ mid with combined := combined }, sent ++ [last], ?_, idle, ?_⟩
  · rw [WorldSession.sendAllAndFlush, called, ok_bind]
    simp only [flushed]
    rfl
  · exact ⟨labels ▸ stream_of_carries carries, batches pending items, carries, labels⟩

/-- Three packets, the last under another `unk`: two datagrams. -/
theorem sendAllAndFlush_delivers_three :
    ∃ s' sent, (WorldSession.create 1).sendAllAndFlush
        [⟨.ofPayload 0x28 0x80 0 [1, 2, 3, 4], false, true, 7, true⟩,
          ⟨.ofPayload 0x2C 0x80 0 [9], false, true, 7, true⟩,
          ⟨.ofPayload 0x27 0x80 0 [5, 6], true, true, 8, false⟩] = .ok (s', sent) ∧
      Represents s'.combined none ∧
      Delivers sent [((7, 0x80), (0x28, [1, 2, 3, 4])), ((7, 0x80), (0x2C, [9])),
        ((8, 0x80), (0x27, [5, 6]))] :=
  sendAllAndFlush_delivers (WorldSession.create 1) _ rfl (represents_create 1)
    (.inr (List.cons_ne_nil _ _)) (by simp [SendCall.Ready])
    (by simp [WorldPacket.ofPayload]) (fits_of_total _ (by decide))

/-- A second packet after a payload as long as the limit stops the server. -/
theorem sendAllAndFlush_full (payload : List UInt8)
    (full : ByteBuffer.appendLimit ≤ payload.length) :
    (WorldSession.create 1).sendAllAndFlush
      [⟨.ofPayload 0xA8 0 0 payload, false, true, 0, false⟩,
        ⟨.ofPayload 0x27 0 0 [0], false, true, 0, false⟩] = .error .assertion := by
  let big : SendCall := ⟨.ofPayload 0xA8 0 0 payload, false, true, 0, false⟩
  let small : SendCall := ⟨.ofPayload 0x27 0 0 [0], false, true, 0, false⟩
  have tooLong : ¬ Fits none ([big, small].map SendCall.labelled) := by
    rintro ⟨_, second, _⟩
    have fits := (second _ rfl rfl).1
    have size : pendingSize (submit none big.labelled).1 = payload.length := by
      simp [submit, pendingSize, itemBytes, SendCall.labelled, big, WorldPacket.ofPayload]
    omega
  have stops := sendAll_error [big, small] (s := WorldSession.create 1) rfl
    (represents_create 1) (by simp [big, small, SendCall.Ready])
    (by simp [big, small, WorldPacket.ofPayload]) tooLong
  rw [WorldSession.sendAllAndFlush, stops, error_bind]

/-- What is left out is left out for a reason: with nothing submitted the flush sends a
datagram of its own, and a packet after ten million pending bytes stops the server. -/
theorem sendAllAndFlush_not_delivers :
    (¬ ∃ s' sent, (WorldSession.create 1).sendAllAndFlush [] = .ok (s', sent) ∧
      Delivers sent []) ∧
    ¬ ∃ s' sent, (WorldSession.create 1).sendAllAndFlush
        [⟨.ofPayload 0xA8 0 0 (List.replicate 10000000 0), false, true, 0, false⟩,
          ⟨.ofPayload 0x27 0 0 [0], false, true, 0, false⟩] = .ok (s', sent) ∧
      Delivers sent [((0, 0), (0xA8, List.replicate 10000000 0)), ((0, 0), (0x27, [0]))] := by
  constructor
  · rintro ⟨s', sent, run, delivers⟩
    have flushed : (WorldSession.create 1).sendAllAndFlush [] =
        .ok (WorldSession.create 1, [(WorldSession.create 1).combined]) := rfl
    rw [flushed] at run
    cases run
    have stream := delivers.stream
    simp [WorldPacket.bytes] at stream
  · rintro ⟨s', sent, run, _⟩
    have full : ByteBuffer.appendLimit ≤ (List.replicate 10000000 (0 : UInt8)).length :=
      Nat.le_of_eq List.length_replicate.symm
    rw [sendAllAndFlush_full _ full] at run
    nomatch run

end NoxServer.Session
