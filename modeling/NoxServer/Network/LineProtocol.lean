import NoxServer.Library.CString
import NoxServer.Library.Lines

/-!
The line protocol of a `TcpSocket` (`TcpSocket::OnRead`).

What `recv` returns is cut into lines in place: a line feed or a carriage return becomes the
terminator of a C string, and one of the other kind right behind it is skipped. When a pair is cut
by the end of what `recv` returned, the second one is skipped too, but it stays at the start of the
next line. So the lines of a stream with line feeds alone do not depend on how it comes
(`onReads_lineFeeds`), and in a stream with pairs a line has a line feed before it exactly if `recv`
returned that first (`onReads_pairs`). The bytes of a line are not 0 here.

The handler of the lines does not turn the line protocol off.
-/

namespace NoxServer.Network

open CString

/-! ### The function of the source -/

/-- `m_skip_c`, `m_c` and `m_line`. -/
structure LineReader where
  skipC : Bool := false
  c : UInt8
  line : List UInt8 := []
  deriving DecidableEq

/-- The variables of the loops, and the lines `OnLine` was called with. -/
structure Scan where
  buf : List UInt8
  i : Nat
  x : Nat
  reader : LineReader
  lines : List (List UInt8) := []

/-- `13` or `10`. -/
def isEol (b : UInt8) : Bool := b = 13 ∨ b = 10

namespace Scan

/-- `if (buf[x]) m_line += (buf + x)`. -/
def pending (t : Scan) : List UInt8 :=
  if t.buf.getD t.x 0 ≠ 0 then t.reader.line ++ text (t.buf.drop t.x) else t.reader.line

/-- The body of the inner loop. -/
def endLine (n : Nat) (t : Scan) : Scan :=
  let c := t.buf.getD t.i 0
  let t := { t with buf := t.buf.set t.i 0 }
  let next := t.buf.getD (t.i + 1) 0
  let pair : Bool := t.i + 1 < n ∧ isEol next ∧ next ≠ c
  let i := if pair then t.i + 2 else t.i + 1
  { buf := t.buf, i := i, x := i, reader := ⟨!pair, c, []⟩, lines := t.lines ++ [t.pending] }

/-- The inner loop, for some turns. -/
def endLines (n : Nat) : Nat → Scan → Scan
  | 0, t => t
  | turns + 1, t => if isEol (t.buf.getD t.i 0) then endLines n turns (t.endLine n) else t

/-- The outer loop, for some turns. -/
def scanLoop (n : Nat) : Nat → Scan → Scan
  | 0, t => t
  | turns + 1, t =>
      if t.i < n then
        let t := endLines n (n + 1) t
        scanLoop n turns { t with i := t.i + 1 }
      else t

end Scan

/-- The part of `OnRead()` behind `recv`, which has returned `chunk`, and the lines it calls
`OnLine` with. -/
def LineReader.onRead (r : LineReader) (chunk : List UInt8) : LineReader × List (List UInt8) :=
  let n := chunk.length
  let buf := chunk ++ [0]
  let skips := r.skipC ∧ isEol (buf.getD 0 0) ∧ buf.getD 0 0 ≠ r.c
  let t : Scan :=
    if skips then { buf := buf, i := 1, x := 0, reader := { r with skipC := false } }
    else { buf := buf, i := 0, x := 0, reader := r }
  let t := t.scanLoop n (n + 1)
  ({ t.reader with line := t.pending }, t.lines)

/-- What `recv` returns, one after another. -/
def LineReader.onReads (r : LineReader) :
    List (List UInt8) → LineReader × List (List UInt8)
  | [] => (r, [])
  | chunk :: chunks =>
      let first := r.onRead chunk
      let more := first.1.onReads chunks
      (more.1, first.2 ++ more.2)

/-! ### Without places -/

/-- Whether a line end is the second one of a pair. -/
def joins (last : Option UInt8) (b : UInt8) : Bool :=
  match last with
  | none => false
  | some c => isEol b && b ≠ c

/-- The lines of bytes that come behind `line`, and what is left; `skip` is a line end that is still
to be joined. -/
def readLines (skip : Option UInt8) (line : List UInt8) :
    List UInt8 → (Option UInt8 × List UInt8) × List (List UInt8)
  | [] => ((skip, line), [])
  | b :: rest =>
      if isEol b then
        match rest with
        | [] => ((some b, []), [line])
        | next :: more =>
            if joins (some b) next then
              let result := readLines none [] more
              (result.1, line :: result.2)
            else
              let result := readLines (some b) [] (next :: more)
              (result.1, line :: result.2)
      else readLines skip (line ++ [b]) rest

/-- The line end that is to be joined. -/
def LineReader.skip (r : LineReader) : Option UInt8 := if r.skipC then some r.c else none

/-- Some bytes are read and the rest of the buffer is as `recv` returned it; `piece` is read of the
line so far. -/
structure Scan.Reads (chunk : List UInt8) (t : Scan) (piece : List UInt8) : Prop where
  before : t.i ≤ chunk.length
  ahead : t.buf.drop t.i = chunk.drop t.i ++ [0]
  start : t.x ≤ t.i
  read : (t.buf.drop t.x).take (t.i - t.x) = piece
  noNul : 0 ∉ piece

section Scanning

open Scan

variable {chunk piece : List UInt8} {t : Scan}

/-- The line so far is what was pending, and the piece of it that stands before a terminator. -/
theorem pending_eq {tail : List UInt8} (start : t.x ≤ t.i)
    (read : (t.buf.drop t.x).take (t.i - t.x) = piece) (noNul : 0 ∉ piece)
    (ended : t.buf.drop t.i = 0 :: tail) : t.pending = t.reader.line ++ piece := by
  have split := List.take_append_drop (t.i - t.x) (t.buf.drop t.x)
  rw [read, List.drop_drop, show t.x + (t.i - t.x) = t.i by omega, ended] at split
  have first : t.buf.getD t.x 0 = (piece ++ 0 :: tail).getD 0 0 := by
    rw [split, List.getD_eq_getElem?_getD, List.getD_eq_getElem?_getD, List.getElem?_drop,
      Nat.add_zero]
  rw [Scan.pending, ← split, text_append noNul, first]
  cases piece with
  | nil => simp
  | cons b rest =>
      have nonzero : b ≠ 0 := fun zero => noNul (zero ▸ List.mem_cons_self)
      rw [List.cons_append, List.getD_cons_zero, if_pos nonzero]

theorem isEol_zero : isEol 0 = false := rfl

/-- The next byte that is read. -/
theorem Scan.Reads.getD (reads : t.Reads chunk piece) :
    t.buf.getD t.i 0 = (chunk.drop t.i).headD 0 := by
  have ahead := congrArg (·.getD 0 0) reads.ahead
  simp only [List.getD_eq_getElem?_getD, List.getElem?_drop, Nat.add_zero] at ahead
  rw [List.getD_eq_getElem?_getD, ahead]
  cases chunk.drop t.i <;> rfl

theorem Scan.Reads.inside (reads : t.Reads chunk piece) {b : UInt8} {rest : List UInt8}
    (here : chunk.drop t.i = b :: rest) :
    t.i < chunk.length ∧ t.buf.length = chunk.length + 1 ∧ chunk.drop (t.i + 1) = rest ∧
      t.buf.drop (t.i + 1) = rest ++ [0] := by
  have before := reads.before
  have length := congrArg List.length reads.ahead
  have short := congrArg List.length here
  simp only [List.length_drop, List.length_append, List.length_cons, List.length_nil]
    at length short
  refine ⟨by omega, by omega, ?_, ?_⟩
  · rw [← List.drop_drop, here]
    rfl
  · rw [← List.drop_drop, reads.ahead, here]
    rfl

/-- A byte that does not end a line is read. -/
theorem Scan.Reads.next (reads : t.Reads chunk piece) {b : UInt8} {rest : List UInt8}
    (here : chunk.drop t.i = b :: rest) (noNul : b ≠ 0) :
    ({ t with i := t.i + 1 } : Scan).Reads chunk (piece ++ [b]) := by
  obtain ⟨inside, _, after, after'⟩ := reads.inside here
  have start := reads.start
  constructor
  · exact inside
  · exact after'.trans (by rw [after])
  · exact Nat.le_succ_of_le start
  · have one : (t.buf.drop t.x).drop (t.i - t.x) = b :: (rest ++ [0]) := by
      rw [List.drop_drop, show t.x + (t.i - t.x) = t.i by omega, reads.ahead, here]
      rfl
    have more : t.i + 1 - t.x = (t.i - t.x) + 1 := by omega
    simp only
    rw [more, List.take_add, reads.read, one]
    rfl
  · intro zero
    rcases List.mem_append.mp zero with old | new
    · exact reads.noNul old
    · exact noNul (List.mem_singleton.mp new).symm

/-- What the body of the inner loop makes of the variables. -/
theorem Scan.Reads.endLine_eq (reads : t.Reads chunk piece) {b : UInt8} {rest : List UInt8}
    (here : chunk.drop t.i = b :: rest) :
    t.endLine chunk.length =
      ⟨t.buf.set t.i 0, if joins (some b) (rest.headD 0) then t.i + 2 else t.i + 1,
        if joins (some b) (rest.headD 0) then t.i + 2 else t.i + 1,
        ⟨!joins (some b) (rest.headD 0), b, []⟩, t.lines ++ [t.reader.line ++ piece]⟩ := by
  obtain ⟨inside, length, after, after'⟩ := reads.inside here
  have start := reads.start
  have c : t.buf.getD t.i 0 = b := by
    rw [reads.getD, here]
    rfl
  have next : (t.buf.set t.i 0).getD (t.i + 1) 0 = rest.headD 0 := by
    have ahead := congrArg (·.getD 0 0) after'
    simp only [List.getD_eq_getElem?_getD, List.getElem?_drop, Nat.add_zero] at ahead
    rw [List.getD_eq_getElem?_getD, List.getElem?_set_ne (by omega), ahead]
    cases rest <;> rfl
  have ended : (t.buf.set t.i 0).drop t.i = 0 :: t.buf.drop (t.i + 1) := by
    rw [List.drop_set, if_neg (Nat.lt_irrefl t.i), Nat.sub_self,
      List.drop_eq_getElem_cons (by omega), List.set_cons_zero]
  have read : ((t.buf.set t.i 0).drop t.x).take (t.i - t.x) = piece := by
    rw [List.drop_set, if_neg (by omega), List.take_set_of_le (Nat.le_refl _)]
    exact reads.read
  have pending : Scan.pending { t with buf := t.buf.set t.i 0 } = t.reader.line ++ piece :=
    pending_eq (t := { t with buf := t.buf.set t.i 0 }) start read reads.noNul ended
  have pair : (decide (t.i + 1 < chunk.length ∧ isEol (rest.headD 0) = true ∧
      rest.headD 0 ≠ b)) = joins (some b) (rest.headD 0) := by
    have short := congrArg List.length after
    rw [List.length_drop] at short
    cases rest with
    | nil => simp [joins, isEol_zero]
    | cons next more =>
        rw [List.length_cons] at short
        have inside' : t.i + 1 < chunk.length := by omega
        simp [joins, inside']
  simp only [endLine, c, next, pending, pair]

/-- Behind a line end nothing is read of the next line. -/
theorem Scan.Reads.endLine (reads : t.Reads chunk piece) {b : UInt8} {rest : List UInt8}
    (here : chunk.drop t.i = b :: rest) : (t.endLine chunk.length).Reads chunk [] := by
  obtain ⟨inside, length, after, after'⟩ := reads.inside here
  have short := congrArg List.length after
  rw [List.length_drop] at short
  rw [reads.endLine_eq here]
  cases joined : joins (some b) (rest.headD 0) with
  | false =>
      refine ⟨inside, ?_, Nat.le_refl _, by simp, by simp⟩
      rw [if_neg nofun, List.drop_set_of_lt (Nat.lt_succ_self t.i), after', after]
  | true =>
      cases rest with
      | nil => simp [joins, isEol_zero] at joined
      | cons next more =>
          rw [List.length_cons] at short
          have two : t.i + 2 ≤ chunk.length := by omega
          refine ⟨by simpa using two, ?_, Nat.le_refl _, by simp, by simp⟩
          have ahead := congrArg (List.drop 1) after'
          have ahead' := congrArg (List.drop 1) after
          rw [List.drop_drop] at ahead ahead'
          rw [if_pos rfl, List.drop_set_of_lt (Nat.lt_add_of_pos_right Nat.two_pos), ahead, ahead']
          rfl

theorem skip_endLine (reads : t.Reads chunk piece) {b : UInt8} {rest : List UInt8}
    (here : chunk.drop t.i = b :: rest) :
    (t.endLine chunk.length).reader.skip =
      if joins (some b) (rest.headD 0) then none else some b := by
  rw [reads.endLine_eq here]
  cases joins (some b) (rest.headD 0) <;> rfl

/-- A line end ends the line, and takes the other one of a pair with it. -/
theorem readLines_eol {b : UInt8} (eol : isEol b = true) (skip : Option UInt8)
    (line rest : List UInt8) :
    readLines skip line (b :: rest) =
      let pair := joins (some b) (rest.headD 0)
      let result := readLines (if pair then none else some b) [] (if pair then rest.tail else rest)
      (result.1, line :: result.2) := by
  cases rest with
  | nil =>
      have none : joins (some b) 0 = false := by simp [joins, isEol_zero]
      simp [readLines, eol, none]
  | cons next more =>
      rw [readLines, if_pos eol]
      by_cases pair : joins (some b) next = true <;> simp [pair]

theorem readLines_inside {b : UInt8} (inside : isEol b = false) (skip : Option UInt8)
    (line rest : List UInt8) :
    readLines skip line (b :: rest) = readLines skip (line ++ [b]) rest := by
  rw [readLines.eq_def]
  simp only [inside, Bool.false_eq_true, if_false]

theorem scanLoop_done {n : Nat} (done : ¬t.i < n) (turns : Nat) : scanLoop n turns t = t := by
  cases turns with
  | zero => rfl
  | succ turns => rw [scanLoop, if_neg done]

/-- The terminator ends both loops: what is behind the last line is what is pending. -/
theorem scan_end (reads : t.Reads chunk piece) (here : chunk.drop t.i = []) (inner outer : Nat) :
    let stop := endLines chunk.length (inner + 1) t
    let u := scanLoop chunk.length outer { stop with i := stop.i + 1 }
    u = { t with i := t.i + 1 } ∧ t.pending = t.reader.line ++ piece := by
  have before := reads.before
  have zero : t.buf.getD t.i 0 = 0 := by
    rw [reads.getD, here]
    rfl
  have done : ¬t.i + 1 < chunk.length := by
    have length := congrArg List.length here
    rw [List.length_drop, List.length_nil] at length
    omega
  have ended : t.buf.drop t.i = 0 :: [] := by
    rw [reads.ahead, here]
    rfl
  have stop : endLines chunk.length (inner + 1) t = t := by
    rw [endLines, zero, isEol_zero, if_neg nofun]
  dsimp only
  rw [stop]
  exact ⟨scanLoop_done (t := { t with i := t.i + 1 }) done outer,
    pending_eq reads.start reads.read reads.noNul ended⟩

/-- The loops read the lines of what is ahead. -/
theorem scan_run (noNul : 0 ∉ chunk) {m : Nat} (inner outer : Nat) (reads : t.Reads chunk piece)
    (left : chunk.length - t.i = m) (enough : m < inner) (enough' : m ≤ outer) :
    let u := scanLoop chunk.length outer
      { endLines chunk.length inner t with i := (endLines chunk.length inner t).i + 1 }
    let result := readLines t.reader.skip (t.reader.line ++ piece) (chunk.drop t.i)
    u.reader.skip = result.1.1 ∧ u.pending = result.1.2 ∧ u.lines = t.lines ++ result.2 := by
  induction m using Nat.strongRecOn generalizing t piece inner outer with
  | ind m ih =>
      obtain ⟨inner, rfl⟩ : ∃ more, inner = more + 1 := ⟨inner - 1, by omega⟩
      have before := reads.before
      cases here : chunk.drop t.i with
      | nil =>
          obtain ⟨stops, pending⟩ := scan_end reads here inner outer
          dsimp only at stops ⊢
          rw [stops]
          exact ⟨rfl, pending, (List.append_nil _).symm⟩
      | cons b rest =>
          obtain ⟨inside, _, after, _⟩ := reads.inside here
          have c : t.buf.getD t.i 0 = b := by
            rw [reads.getD, here]
            rfl
          cases eol : isEol b with
          | true =>
              have next := reads.endLine here
              have skip := skip_endLine reads here
              have eq := reads.endLine_eq here
              have place : (t.endLine chunk.length).i =
                  if joins (some b) (rest.headD 0) then t.i + 2 else t.i + 1 := by rw [eq]
              have lines : (t.endLine chunk.length).lines =
                  t.lines ++ [t.reader.line ++ piece] := by rw [eq]
              have line : (t.endLine chunk.length).reader.line = [] := by rw [eq]
              have ahead : chunk.drop (t.endLine chunk.length).i =
                  if joins (some b) (rest.headD 0) then rest.tail else rest := by
                rw [place]
                split
                · rw [← after, List.tail_drop]
                · exact after
              have fewer : chunk.length - (t.endLine chunk.length).i < m := by
                rw [place]
                split <;> omega
              have turn : endLines chunk.length (inner + 1) t =
                  endLines chunk.length inner (t.endLine chunk.length) := by
                rw [endLines, c, eol, if_pos rfl]
              have more := ih _ fewer inner outer next rfl (by omega) (by omega)
              rw [skip, line, lines, ahead, List.append_nil] at more
              rw [turn, readLines_eol eol]
              exact ⟨more.1, more.2.1, by rw [more.2.2, List.append_assoc]; rfl⟩
          | false =>
              have nonzero : b ≠ 0 := by
                rintro rfl
                exact noNul (List.mem_of_mem_drop (here ▸ List.mem_cons_self))
              have stop : endLines chunk.length (inner + 1) t = t := by
                rw [endLines, c, eol, if_neg nofun]
              have next := reads.next here nonzero
              rw [stop, readLines_inside eol]
              by_cases last : t.i + 1 < chunk.length
              · obtain ⟨outer, rfl⟩ : ∃ more, outer = more + 1 := ⟨outer - 1, by omega⟩
                have more := ih (chunk.length - (t.i + 1)) (by omega) (chunk.length + 1) outer next
                  rfl (by omega) (by omega)
                rw [after, ← List.append_assoc] at more
                simp only [scanLoop, if_pos last]
                exact more
              · have none : rest = [] := by
                  rw [← after]
                  exact List.drop_eq_nil_of_le (Nat.le_of_not_lt last)
                have ended : ({ t with i := t.i + 1 } : Scan).buf.drop (t.i + 1) = 0 :: [] := by
                  rw [next.ahead, after, none]
                  rfl
                have pending := pending_eq next.start next.read next.noNul ended
                rw [scanLoop_done (t := { t with i := t.i + 1 }) last, none]
                exact ⟨rfl, by rw [pending, ← List.append_assoc]; rfl, (List.append_nil _).symm⟩

theorem scan_all (noNul : 0 ∉ chunk) (reads : t.Reads chunk piece) :
    let u := scanLoop chunk.length (chunk.length + 1) t
    let result := readLines t.reader.skip (t.reader.line ++ piece) (chunk.drop t.i)
    u.reader.skip = result.1.1 ∧ u.pending = result.1.2 ∧ u.lines = t.lines ++ result.2 := by
  by_cases more : t.i < chunk.length
  · have run := scan_run noNul (chunk.length + 1) chunk.length reads rfl (by omega) (by omega)
    simp only [scanLoop, if_pos more]
    exact run
  · have none : chunk.drop t.i = [] := List.drop_eq_nil_of_le (Nat.le_of_not_lt more)
    have ended : t.buf.drop t.i = 0 :: [] := by
      rw [reads.ahead, none]
      rfl
    rw [scanLoop_done more, none]
    exact ⟨rfl, pending_eq reads.start reads.read reads.noNul ended, (List.append_nil _).symm⟩

/-- `OnRead` keeps a line end that is skipped at its start, and reads the lines of the rest. -/
theorem onRead_eq (r : LineReader) (noNul : 0 ∉ chunk) :
    let result :=
      if joins r.skip (chunk.headD 0) then readLines none (r.line ++ chunk.take 1) chunk.tail
      else readLines r.skip r.line chunk
    (r.onRead chunk).1.skip = result.1.1 ∧ (r.onRead chunk).1.line = result.1.2 ∧
      (r.onRead chunk).2 = result.2 := by
  have head : (chunk ++ [0]).getD 0 0 = chunk.headD 0 := by cases chunk <;> rfl
  have skips : (r.skipC = true ∧ isEol (chunk.headD 0) = true ∧ chunk.headD 0 ≠ r.c) ↔
      joins r.skip (chunk.headD 0) = true := by
    unfold LineReader.skip
    cases r.skipC <;> simp [joins]
  simp only [LineReader.onRead, head, skips]
  by_cases joined : joins r.skip (chunk.headD 0) = true
  · rw [if_pos joined, if_pos joined]
    cases chunk with
    | nil =>
        rw [List.headD_nil] at joined
        unfold joins at joined
        split at joined <;> simp [isEol_zero] at joined
    | cons b rest =>
        have nonzero : 0 ≠ b := fun zero => noNul (zero ▸ List.mem_cons_self)
        have reads : Scan.Reads (b :: rest)
            ⟨(b :: rest) ++ [0], 1, 0, { r with skipC := false }, []⟩ [b] :=
          ⟨by simp, rfl, Nat.zero_le _, rfl, by simpa using nonzero⟩
        have all := scan_all noNul reads
        exact ⟨all.1, all.2.1, all.2.2⟩
  · rw [if_neg joined, if_neg joined]
    have reads : Scan.Reads chunk ⟨chunk ++ [0], 0, 0, r, []⟩ [] :=
      ⟨Nat.zero_le _, rfl, Nat.le_refl _, rfl, by simp⟩
    have all := scan_all noNul reads
    rw [List.append_nil] at all
    exact ⟨all.1, all.2.1, all.2.2⟩

end Scanning

/-! ### Line feeds alone -/

/-- Where there is no carriage return, the reader cuts at the line feeds: a line feed that it is
still to skip comes only after a carriage return. -/
theorem readLines_lineFeeds {bytes : List UInt8} (noCr : 13 ∉ bytes) (line : List UInt8)
    {skip : Option UInt8} (settled : skip = none ∨ skip = some 10) :
    let result := readLines skip line bytes
    let lines := Lines.cut (· = 10) line bytes
    result.2 = lines.1 ∧ result.1.2 = lines.2 ∧ (result.1.1 = none ∨ result.1.1 = some 10) := by
  induction bytes generalizing line skip with
  | nil => exact ⟨rfl, rfl, settled⟩
  | cons b rest ih =>
      have noCr' : 13 ∉ rest := fun mem => noCr (List.mem_cons_of_mem b mem)
      have other : b ≠ 13 := fun same => noCr (same ▸ List.mem_cons_self)
      by_cases feed : b = 10
      · have eol : isEol b = true := by simp [isEol, feed]
        have single : joins (some b) (rest.headD 0) = false := by
          cases rest with
          | nil => simp [joins, isEol_zero]
          | cons next more =>
              have next_ne : next ≠ 13 := fun same => noCr' (same ▸ List.mem_cons_self)
              simp [joins, isEol, feed, next_ne]
        have settled' : some b = none ∨ some b = some 10 := .inr (congrArg some feed)
        obtain ⟨lines, pending, skip'⟩ := ih noCr' [] settled'
        rw [readLines_eol eol, single, Lines.cut]
        simp only [feed, decide_true, if_true, Bool.false_eq_true, if_false]
          at lines pending skip' ⊢
        exact ⟨by rw [lines], pending, skip'⟩
      · have inside : isEol b = false := by simp [isEol, feed, other]
        rw [readLines_inside inside, Lines.cut, decide_eq_false feed, if_neg Bool.false_ne_true]
        exact ih noCr' (line ++ [b]) settled

/-- The skip flag of a reader that has seen no carriage return. -/
def LineReader.Settled (r : LineReader) : Prop := r.skip = none ∨ r.skip = some 10

theorem onRead_lineFeeds {r : LineReader} {chunk : List UInt8} (settled : r.Settled)
    (noNul : 0 ∉ chunk) (noCr : 13 ∉ chunk) :
    (r.onRead chunk).1.Settled ∧
      ((r.onRead chunk).2, (r.onRead chunk).1.line) = Lines.cut (· = 10) r.line chunk := by
  have single : joins r.skip (chunk.headD 0) = false := by
    cases chunk with
    | nil => rcases settled with none | feed <;> simp [joins, isEol_zero, *]
    | cons b rest =>
        have other : b ≠ 13 := fun same => noCr (same ▸ List.mem_cons_self)
        rcases settled with none | feed
        · rw [none]
          rfl
        · rw [feed]
          by_cases same : b = 10 <;> simp [joins, isEol, same, other]
  obtain ⟨skip, line, lines⟩ := onRead_eq r noNul
  obtain ⟨lines', line', skip'⟩ := readLines_lineFeeds noCr r.line settled
  rw [single, if_neg nofun] at skip line lines
  exact ⟨by rwa [LineReader.Settled, skip], Prod.ext (lines.trans lines') (line.trans line')⟩

/-- In a stream with line feeds alone, and no NUL, `OnLine` is called with its lines and what is
behind the last one stays pending, however the stream is cut into pieces. -/
theorem onReads_lineFeeds (c : UInt8) (chunks : List (List UInt8))
    (noNul : ∀ chunk ∈ chunks, 0 ∉ chunk) (noCr : ∀ chunk ∈ chunks, 13 ∉ chunk) :
    let read := (LineReader.mk false c []).onReads chunks
    (read.2, read.1.line) = Lines.cut (· = 10) [] chunks.flatten := by
  rw [← Lines.feed_flatten]
  have all : ∀ r : LineReader, r.Settled →
      ((r.onReads chunks).2, (r.onReads chunks).1.line) = Lines.feed (· = 10) r.line chunks := by
    induction chunks with
    | nil => exact fun r _ => rfl
    | cons chunk chunks ih =>
        intro r settled
        obtain ⟨settled', first⟩ := onRead_lineFeeds settled (noNul chunk List.mem_cons_self)
          (noCr chunk List.mem_cons_self)
        have more := ih (fun _ mem => noNul _ (List.mem_cons_of_mem chunk mem))
          (fun _ mem => noCr _ (List.mem_cons_of_mem chunk mem)) _ settled'
        rw [LineReader.onReads, Lines.feed, ← first, ← more]
  exact all ⟨false, c, []⟩ (.inl rfl)

theorem onReads_lineFeeds_two :
    ((LineReader.mk false 0 []).onReads [[65], [10, 66]]).2 = [[65]] := by
  have read := onReads_lineFeeds 0 [[65], [10, 66]] (by simp) (by simp)
  exact congrArg Prod.fst read

/-! ### Pairs -/

/-- The bytes that `recv` returns at once, and whether each was the first of them. -/
def marked : List UInt8 → List (UInt8 × Bool)
  | [] => []
  | b :: rest => (b, true) :: rest.map (·, false)

/-- The line so far, a line end that is skipped at the start of what `recv` returns, and one that is
skipped behind the last byte. -/
structure Reading where
  line : List UInt8
  skip : Option UInt8
  fresh : Option UInt8 := none

namespace Reading

/-- A byte that is not skipped. -/
def plain (r : Reading) (b : UInt8) : Reading × List (List UInt8) :=
  if isEol b then (⟨[], some b, some b⟩, [r.line]) else (⟨r.line ++ [b], r.skip, none⟩, [])

def step (r : Reading) (byte : UInt8 × Bool) : Reading × List (List UInt8) :=
  if byte.2 then
    if joins r.skip byte.1 then (⟨r.line ++ [byte.1], none, none⟩, []) else r.plain byte.1
  else if joins r.fresh byte.1 then (⟨r.line, none, none⟩, [])
  else r.plain byte.1

def run (r : Reading) : List (UInt8 × Bool) → Reading × List (List UInt8)
  | [] => (r, [])
  | byte :: bytes =>
      let first := r.step byte
      let more := first.1.run bytes
      (more.1, first.2 ++ more.2)

/-- The reading and the lines of a run, without what is skipped behind the last byte. -/
def seen (result : Reading × List (List UInt8)) : (Option UInt8 × List UInt8) × List (List UInt8) :=
  ((result.1.skip, result.1.line), result.2)

theorem run_append (r : Reading) (first second : List (UInt8 × Bool)) :
    r.run (first ++ second) =
      (((r.run first).1.run second).1, (r.run first).2 ++ ((r.run first).1.run second).2) := by
  induction first generalizing r with
  | nil => rfl
  | cons byte bytes ih => simp only [List.cons_append, run, ih, List.append_assoc]

/-- A line end that is not followed by the other one is forgotten. -/
theorem run_stale (line : List UInt8) (skip fresh : Option UInt8) {bytes : List UInt8}
    (single : joins fresh (bytes.headD 0) = false) :
    seen (run ⟨line, skip, fresh⟩ (bytes.map (·, false))) =
      seen (run ⟨line, skip, none⟩ (bytes.map (·, false))) := by
  cases bytes with
  | nil => rfl
  | cons b rest =>
      rw [List.headD_cons] at single
      simp only [List.map_cons, run, step, Bool.false_eq_true, if_false, single]
      rfl

/-- What `recv` returns at once is read byte by byte. -/
theorem run_readLines (line : List UInt8) (skip : Option UInt8) (bytes : List UInt8) :
    seen (run ⟨line, skip, none⟩ (bytes.map (·, false))) = readLines skip line bytes := by
  induction known : bytes.length using Nat.strongRecOn generalizing line skip bytes with
  | ind length ih =>
      cases bytes with
      | nil => rfl
      | cons b rest =>
          rw [List.length_cons] at known
          cases eol : isEol b with
          | false =>
              have more := ih rest.length (by omega) (line ++ [b]) skip rest rfl
              rw [readLines_inside eol, ← more]
              simp only [List.map_cons, run, step, joins, plain, eol, Bool.false_eq_true, if_false]
              rfl
          | true =>
              have first : step ⟨line, skip, none⟩ (b, false) = (⟨[], some b, some b⟩, [line]) := by
                simp only [step, joins, plain, eol, Bool.false_eq_true, if_false, if_true]
              rw [readLines_eol eol, List.map_cons, run, first]
              cases pair : joins (some b) (rest.headD 0) with
              | false =>
                  have more := ih rest.length (by omega) [] (some b) rest rfl
                  have stale := run_stale [] (some b) (some b) pair
                  simp only [Bool.false_eq_true, if_false]
                  rw [← more, ← stale]
                  rfl
              | true =>
                  cases rest with
                  | nil => simp [joins, isEol_zero] at pair
                  | cons next others =>
                      rw [List.length_cons] at known
                      rw [List.headD_cons] at pair
                      have more := ih others.length (by omega) [] none others rfl
                      simp only [if_true, List.tail_cons, List.map_cons, run, step, pair,
                        Bool.false_eq_true, if_false]
                      rw [← more]
                      rfl

/-- `OnRead` reads byte by byte. -/
theorem run_onRead (r : LineReader) (fresh : Option UInt8) {chunk : List UInt8}
    (noNul : 0 ∉ chunk) :
    seen (run ⟨r.line, r.skip, fresh⟩ (marked chunk)) =
      (((r.onRead chunk).1.skip, (r.onRead chunk).1.line), (r.onRead chunk).2) := by
  obtain ⟨skip, line, lines⟩ := onRead_eq r noNul
  rw [skip, line, lines]
  cases chunk with
  | nil =>
      have none : joins r.skip 0 = false := by
        unfold joins
        split <;> simp [isEol_zero]
      rw [List.headD_nil, none]
      rfl
  | cons b rest =>
      rw [List.headD_cons, marked, run, step]
      cases joined : joins r.skip b with
      | true =>
          simp only [if_true, List.take_succ_cons, List.take_zero, List.tail_cons]
          rw [← run_readLines]
          rfl
      | false =>
          simp only [if_true, Bool.false_eq_true, if_false]
          have same := run_readLines r.line r.skip (b :: rest)
          rw [List.map_cons, run, step] at same
          simp only [Bool.false_eq_true, if_false, joins] at same
          rw [← same]
          rfl

/-- What `recv` returns one after another is read byte by byte. -/
theorem run_onReads (r : LineReader) (fresh : Option UInt8) {chunks : List (List UInt8)}
    (noNul : ∀ chunk ∈ chunks, 0 ∉ chunk) :
    seen (run ⟨r.line, r.skip, fresh⟩ (chunks.flatMap marked)) =
      (((r.onReads chunks).1.skip, (r.onReads chunks).1.line), (r.onReads chunks).2) := by
  induction chunks generalizing r fresh with
  | nil => rfl
  | cons chunk chunks ih =>
      have first := run_onRead r fresh (noNul chunk List.mem_cons_self)
      set middle := run ⟨r.line, r.skip, fresh⟩ (marked chunk) with read
      have more := ih (r.onRead chunk).1 middle.1.fresh
        (fun _ mem => noNul _ (List.mem_cons_of_mem chunk mem))
      have skip : middle.1.skip = (r.onRead chunk).1.skip := congrArg (·.1.1) first
      have line : middle.1.line = (r.onRead chunk).1.line := congrArg (·.1.2) first
      have lines : middle.2 = (r.onRead chunk).2 := congrArg (·.2) first
      rw [← skip, ← line] at more
      rw [List.flatMap_cons, run_append, ← read, LineReader.onReads, ← lines]
      have skip' := congrArg (·.1.1) more
      have line' := congrArg (·.1.2) more
      have lines' := congrArg (·.2) more
      simp only [seen] at skip' line' lines' ⊢
      rw [← lines', ← skip', ← line']

end Reading

/-- The lines of a stream with pairs, when it is known which of its bytes `recv` returned first: a
line has a line feed before it if that was one of them. -/
def withFeeds (stray : Bool) (starts : List Bool) : List (List UInt8) → List (List UInt8)
  | [] => []
  | text :: texts =>
      (if stray then 10 :: text else text) ::
        withFeeds (starts.getD (text.length + 1) false) (starts.drop (text.length + 2)) texts

/-- A text without a line end and without the terminator. -/
structure Plain (text : List UInt8) : Prop where
  noNul : 0 ∉ text
  noCr : 13 ∉ text
  noLf : 10 ∉ text

namespace Reading

/-- What is before a text. -/
def before (stray : Bool) : List UInt8 := if stray then [10] else []

/-- Bytes that are no line ends are added to the line, however they are cut. -/
theorem run_text {text : List UInt8} (plain : Plain text) {bytes : List (UInt8 × Bool)}
    (same : bytes.map Prod.fst = text) (line : List UInt8) :
    run ⟨line, none, none⟩ bytes = (⟨line ++ text, none, none⟩, []) := by
  induction bytes generalizing text line with
  | nil =>
      subst same
      rw [List.map_nil, List.append_nil]
      rfl
  | cons byte bytes ih =>
      subst same
      obtain ⟨b, first⟩ := byte
      have cr : b ≠ 13 := fun same => plain.noCr (same ▸ List.mem_cons_self)
      have lf : b ≠ 10 := fun same => plain.noLf (same ▸ List.mem_cons_self)
      have inside : isEol b = false := by simp [isEol, cr, lf]
      have plain' : Plain (bytes.map Prod.fst) :=
        ⟨fun mem => plain.noNul (List.mem_cons_of_mem _ mem),
          fun mem => plain.noCr (List.mem_cons_of_mem _ mem),
          fun mem => plain.noLf (List.mem_cons_of_mem _ mem)⟩
      have one : step ⟨line, none, none⟩ (b, first) = (⟨line ++ [b], none, none⟩, []) := by
        cases first <;> simp [step, joins, Reading.plain, inside]
      rw [run, one, ih plain' rfl, List.map_cons, List.append_assoc]
      rfl

/-- A pair ends the line; its line feed goes to the next one if `recv` returned it first. -/
theorem run_pair (line : List UInt8) (first second : Bool) :
    run ⟨line, none, none⟩ [(13, first), (10, second)] =
      (⟨before second, none, none⟩, [line]) := by
  cases first <;> cases second <;> rfl

/-- The bytes of a stream with pairs make its lines, each with a line feed in front of it if the
pair before was cut; the induction is on the lines, with what a cut has left as the state. -/
theorem run_pairs {texts : List (List UInt8)} {rest : List UInt8}
    (plain : ∀ text ∈ texts, Plain text) (plain' : Plain rest) {bytes : List (UInt8 × Bool)}
    (same : bytes.map Prod.fst = texts.flatMap (· ++ [13, 10]) ++ rest) (stray : Bool) :
    let result := run ⟨before stray, none, none⟩ bytes
    result.2 ++ [result.1.line] = withFeeds stray (bytes.map Prod.snd) (texts ++ [rest]) := by
  induction texts generalizing bytes stray with
  | nil =>
      have all := run_text plain' same (before stray)
      rw [all]
      cases stray <;> rfl
  | cons text texts ih =>
      rw [List.flatMap_cons, List.append_assoc, List.append_assoc] at same
      obtain ⟨inside, more, rfl, read, same⟩ := List.map_eq_append_iff.mp same
      obtain ⟨pair, after, rfl, ends, behind⟩ := List.map_eq_append_iff.mp same
      obtain ⟨⟨cr, first⟩, tail, rfl, rfl, ends'⟩ := List.map_eq_cons_iff.mp ends
      obtain ⟨⟨lf, second⟩, none, rfl, rfl, ends''⟩ := List.map_eq_cons_iff.mp ends'
      obtain rfl := List.map_eq_nil_iff.mp ends''
      have length : inside.length = text.length := by rw [← read, List.length_map]
      have here := plain text List.mem_cons_self
      have more := ih (fun _ mem => plain _ (List.mem_cons_of_mem text mem)) behind second
      have starts : ((inside ++ ([(13, first), (10, second)] ++ after)).map Prod.snd).drop
          (text.length + 2) = after.map Prod.snd := by
        rw [List.map_append, List.drop_append, List.length_map, length,
          List.drop_eq_nil_of_le (by simp [length])]
        simp
      have start : ((inside ++ ([(13, first), (10, second)] ++ after)).map Prod.snd).getD
          (text.length + 1) false = second := by
        rw [List.map_append, List.getD_eq_getElem?_getD,
          List.getElem?_append_right (by simp [length]), List.length_map, length]
        simp
      rw [run_append, run_text here read, run_append, run_pair]
      change _ = (if stray then 10 :: text else text) ::
        withFeeds (List.getD _ (text.length + 1) false) (List.drop (text.length + 2) _)
          (texts ++ [rest])
      rw [start, starts, ← more]
      cases stray <;> rfl

end Reading

/-- However `recv` cuts a stream with pairs, the lines are those of the stream, and which of them
have a line feed in front is said by the cuts alone. -/
theorem reads_pairs (c : UInt8) {chunks texts : List (List UInt8)} {rest : List UInt8}
    (plain : ∀ text ∈ texts, Plain text) (plain' : Plain rest)
    (stream : chunks.flatten = texts.flatMap (· ++ [13, 10]) ++ rest) :
    let read := (LineReader.mk false c []).onReads chunks
    read.2 ++ [read.1.line] =
      withFeeds false ((chunks.flatMap marked).map Prod.snd) (texts ++ [rest]) := by
  have noNul : ∀ chunk ∈ chunks, 0 ∉ chunk := by
    intro chunk mem zero
    have inStream := List.mem_flatten.mpr ⟨chunk, mem, zero⟩
    rw [stream, List.mem_append, List.mem_flatMap] at inStream
    rcases inStream with ⟨text, mem', zero'⟩ | zero'
    · have noNul := (plain text mem').noNul
      simp [noNul] at zero'
    · exact plain'.noNul zero'
  have bytes : (chunks.flatMap marked).map Prod.fst = chunks.flatten := by
    have one : ∀ chunk : List UInt8, (marked chunk).map Prod.fst = chunk := by
      intro chunk
      cases chunk with
      | nil => rfl
      | cons b rest => simp [marked, Function.comp_def]
    rw [List.map_flatMap]
    simp only [one]
    exact List.flatMap_id
  have run := Reading.run_onReads (LineReader.mk false c []) none noNul
  have lines := congrArg Prod.snd run
  have line := congrArg (·.1.2) run
  have all := Reading.run_pairs plain plain' (bytes.trans stream) false
  simp only [Reading.seen] at lines line
  intro read
  rw [show read = _ from rfl, ← lines, ← line]
  exact all

/-- In a stream whose lines end with carriage return and line feed, `OnLine` is called with its
lines, and a line has a line feed before it exactly if `recv` returned that first: the pair was cut
in two. -/
theorem onReads_pairs (c : UInt8) {chunks texts : List (List UInt8)} {rest : List UInt8}
    (plain : ∀ text ∈ texts, Plain text) (plain' : Plain rest)
    (stream : chunks.flatten = texts.flatMap (· ++ [13, 10]) ++ rest) :
    let read := (LineReader.mk false c []).onReads chunks
    read.2 ++ [read.1.line] =
      withFeeds false ((chunks.flatMap marked).map Prod.snd) (texts ++ [rest]) :=
  reads_pairs c plain plain' stream

theorem onReads_pairs_two :
    ((LineReader.mk false 0 []).onReads [[65, 13], [10, 66]]).2 ++
      [((LineReader.mk false 0 []).onReads [[65, 13], [10, 66]]).1.line] = [[65], [10, 66]] := by
  have plain : ∀ text ∈ [[65]], Plain text := by
    intro text mem
    rw [List.mem_singleton.mp mem]
    exact ⟨by simp, by simp, by simp⟩
  exact onReads_pairs 0 plain ⟨by simp, by simp, by simp⟩ rfl

end NoxServer.Network
