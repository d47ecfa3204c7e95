import NoxServer.Things.Objects
import NoxServer.World.Shutdown

/-!
The console of the server (`CliRunnable.cpp`).

`ParseCommand` finds the command of a line with `strtok`, which skips blanks, and its arguments by
the length of the command from the start of the line. So the arguments are those of the line where
no blank is before the command, and else whatever stands at that distance
(`asTyped_iff`). The two shutdown handlers read their number with `atoi`, which takes what stands at
the start of a word for the number, and only one of them looks at its sign.
-/

namespace NoxServer.RemoteAdmin

open Things (chars atoi)

/-! ### Shutdown -/

/-- What a shutdown handler does with its arguments: it prints its usage, it calls
`ShutdownCancel`, or it calls `ShutdownServ`. -/
inductive Order where
  | usage
  | cancel
  | serve (time : UInt32) (idle : Bool)
  deriving DecidableEq

/-- `atoi` as an `int`; for a number that is not one it is undefined. -/
def number (undefined : Int → Int32) (args : List UInt8) : Int32 :=
  if -2 ^ 31 ≤ atoi args ∧ atoi args < 2 ^ 31 then Int32.ofInt (atoi args)
  else undefined (atoi args)

/-- The common body of the shutdown handlers, where `belowZero` is `time < 0` in the type of
`time`. -/
def order (undefined : Int → Int32) (belowZero : Int32 → Bool) (idle : Bool)
    (command : List UInt8) : Order :=
  match (CString.strtok [0x20] command).1 with
  | none => .usage
  | some args =>
      if args = chars "cancel" then .cancel
      else
        let time := number undefined args
        if time = 0 ∧ (args.getD 0 0 ≠ 0x30 ∨ args.getD 1 0 ≠ 0) ∨ belowZero time = true then .usage
        else .serve time.toUInt32 idle

/-- `CliIdleShutdown`: `time` is a `uint32`. -/
def cliIdleShutdown (undefined : Int → Int32) (command : List UInt8) : Order :=
  order undefined (fun _ => false) true command

/-- `CliShutdown`: `time` is an `int32`. -/
def cliShutdown (undefined : Int → Int32) (command : List UInt8) : Order :=
  order undefined (fun time => decide (time < 0)) false command

/-- What the order does to the world. -/
def Order.run (w : ShutdownWorld) : Order → ShutdownWorld
  | .usage => w
  | .cancel => w.shutdownCancel
  | .serve time idle => w.shutdownServ time idle

/-! ### Commands -/

/-- `Commands`. -/
inductive Command where
  | help
  | version
  | idleshutdown
  | shutdown
  | exit
  deriving DecidableEq

def Command.cmd : Command → List UInt8
  | .help => chars "help"
  | .version => chars "version"
  | .idleshutdown => chars "idleshutdown"
  | .shutdown => chars "shutdown"
  | .exit => chars "exit"

def commands : List Command := [.help, .version, .idleshutdown, .shutdown, .exit]

/-- The loop over the table. -/
def lookup (word : List UInt8) : Option Command :=
  commands.find? fun c => decide (c.cmd = word)

/-- What the handler of a command does to the world. -/
def Command.run (undefined : Int → Int32) (w : ShutdownWorld) (arguments : List UInt8) :
    Command → ShutdownWorld
  | .help => w
  | .version => w
  | .idleshutdown => (cliIdleShutdown undefined arguments).run w
  | .shutdown => (cliShutdown undefined arguments).run w
  | .exit => { w with stopEvent := true }

/-- What becomes of a line: nothing, a handler runs, or the error message has the line. -/
inductive Outcome where
  | nothing
  | ran (command : Command) (arguments : List UInt8)
  | unknown (input : List UInt8)
  deriving DecidableEq

/-- The string at an index of an array. -/
def stringAt (array : List UInt8) (i : Nat) : Except Fault (List UInt8) :=
  if 0 ∈ array.drop i then .ok (CString.text (array.drop i)) else .error .outOfBounds

def parseCommand (input : List UInt8) : Except Fault Outcome := do
  let l := UInt32.ofNat (CString.text input).length
  if l = 0 then return .nothing
  match CString.strtokIn [0x20] input with
  | (none, _) => return .nothing
  | (some start, input) =>
      let supposedCommand := CString.text (input.drop start)
      match lookup supposedCommand with
      | some command =>
          if supposedCommand.length < l.toNat then
            let arguments ← stringAt input (supposedCommand.length + 1)
            return .ran command arguments
          else return .ran command []
      | none => return .unknown (CString.text input)

/-- What `ParseCommand` does to the world. -/
def Outcome.run (undefined : Int → Int32) (w : ShutdownWorld) : Outcome → ShutdownWorld
  | .ran command arguments => command.run undefined w arguments
  | _ => w

/-! ### The arguments of a line -/

/-- The first word of a line, the blanks before it, and the text after it and one blank. -/
def word (line : List UInt8) : List UInt8 := CString.firstToken [0x20] line

def blanks (line : List UInt8) : List UInt8 := CString.leading [0x20] line

def textAfter (line : List UInt8) : List UInt8 := (CString.behind [0x20] line).tail

/-- `l`, of 32 bits. -/
def strlen (line : List UInt8) : Nat := line.length % 2 ^ 32

/-- The arguments `ParseCommand` finds: as many characters from the start of the line as the command
has, and one more, up to the end of the command. -/
def found (line : List UInt8) : List UInt8 :=
  if strlen line ≤ (word line).length then []
  else if blanks line = [] then textAfter line
  else (blanks line ++ word line).drop ((word line).length + 1)

/-- The handler that has run, with its arguments. -/
def Outcome.handled : Outcome → Option (Command × List UInt8)
  | .ran command arguments => some (command, arguments)
  | _ => none

theorem stringAt_append {front string tail : List UInt8} {i : Nat} (start : front.length = i)
    (noNul : 0 ∉ string) : stringAt (front ++ (string ++ 0 :: tail)) i = .ok string := by
  rw [stringAt, ← start, List.drop_left, if_pos (List.mem_append_right _ List.mem_cons_self),
    CString.text_append noNul]

theorem lookup_nil : lookup [] = none := by decide

/-- A line is its blanks, its first word and what is behind. -/
theorem blanks_append (line : List UInt8) :
    blanks line ++ word line ++ CString.behind [0x20] line = line :=
  CString.leading_append [0x20] line

theorem noNul_parts {line : List UInt8} (noNul : 0 ∉ line) :
    0 ∉ blanks line ++ word line ∧ 0 ∉ CString.behind [0x20] line := by
  rw [← not_or, ← List.mem_append, blanks_append]
  exact noNul

/-- The arguments are a string of the line. -/
theorem stringAt_closed {line : List UInt8} (noNul : 0 ∉ line)
    (more : (word line).length < strlen line) :
    stringAt (CString.closed [0x20] line []) ((word line).length + 1) = .ok (found line) := by
  obtain ⟨noNul_start, noNul_behind⟩ := noNul_parts noNul
  have length := congrArg List.length (blanks_append line)
  rw [List.length_append, List.length_append] at length
  have upper : strlen line ≤ line.length := Nat.mod_le _ _
  rw [found, if_neg (Nat.not_le_of_lt more)]
  change stringAt (blanks line ++ word line ++ 0 :: _) _ = _
  by_cases first : blanks line = []
  · rw [if_pos first, first, List.nil_append, textAfter]
    rw [first, List.length_nil] at length
    cases rest : CString.behind [0x20] line with
    | nil =>
        rw [rest, List.length_nil] at length
        omega
    | cons c after =>
        rw [rest, List.mem_cons, not_or] at noNul_behind
        dsimp only
        rw [List.append_cons, List.tail_cons]
        exact stringAt_append (by rw [List.length_append, List.length_singleton]) noNul_behind.2
  · rw [if_neg first]
    have some_blank := List.length_pos_iff.mpr first
    have cut : ((blanks line ++ word line).take ((word line).length + 1)).length =
        (word line).length + 1 := by
      rw [List.length_take, List.length_append]
      omega
    have apart : 0 ∉ (blanks line ++ word line).drop ((word line).length + 1) :=
      fun mem => noNul_start (List.mem_of_mem_drop mem)
    conv_lhs => rw [← List.take_append_drop ((word line).length + 1) (blanks line ++ word line)]
    rw [List.append_assoc]
    exact stringAt_append cut apart

/-- A line gets through, and the handler of its first word has what is found as its arguments. -/
theorem parseCommand_spec {line : List UInt8} (noNul : 0 ∉ line) :
    ∃ outcome, parseCommand (line ++ [0]) = .ok outcome ∧
      outcome.handled =
        if strlen line = 0 then none else (lookup (word line)).map (·, found line) := by
  have length : (UInt32.ofNat line.length).toNat = strlen line := UInt32.toNat_ofNat'
  have zero : UInt32.ofNat line.length = 0 ↔ strlen line = 0 := by
    rw [← length]
    exact UInt32.toNat_inj.symm
  rw [parseCommand, CString.text_append noNul]
  by_cases empty : strlen line = 0
  · rw [if_pos (zero.mpr empty), if_pos empty]
    exact ⟨_, rfl, rfl⟩
  rw [if_neg fun none => empty (zero.mp none), if_neg empty]
  by_cases token : word line = []
  · rw [CString.strtokIn_none _ noNul _ token, token, lookup_nil]
    exact ⟨_, rfl, rfl⟩
  have supposed : CString.text ((CString.closed [0x20] line []).drop (blanks line).length) =
      word line := by
    have noNul_word : 0 ∉ word line :=
      fun mem => (noNul_parts noNul).1 (List.mem_append_right _ mem)
    change CString.text ((blanks line ++ word line ++ 0 :: _).drop _) = _
    rw [List.append_assoc, List.drop_left, CString.text_append noNul_word]
  rw [CString.strtokIn_append _ noNul _ token]
  dsimp only
  rw [show CString.leading [0x20] line = blanks line from rfl, supposed, length]
  cases name : lookup (word line) with
  | none => exact ⟨_, rfl, rfl⟩
  | some command =>
      dsimp only
      by_cases more : (word line).length < strlen line
      · rw [if_pos more, stringAt_closed noNul more]
        exact ⟨_, rfl, rfl⟩
      · rw [if_neg more, found, if_pos (Nat.le_of_not_lt more)]
        exact ⟨_, rfl, rfl⟩

/-- A line is dispatched as typed: inside its buffer, to the handler its first word names and to no
other, with the text after that word and one blank. -/
def AsTyped (line : List UInt8) : Prop :=
  ∃ outcome, parseCommand (line ++ [0]) = .ok outcome ∧
    outcome.handled = (lookup (word line)).map (·, textAfter line)

/-- What is found for a line is the text after its first word where the line starts with it, and
else where that text is what stands at the distance of the word. -/
def Found (line : List UInt8) : Prop :=
  if strlen line ≤ (word line).length then textAfter line = []
  else blanks line = [] ∨ textAfter line = (blanks line ++ word line).drop ((word line).length + 1)

theorem found_eq_iff {line : List UInt8} : found line = textAfter line ↔ Found line := by
  rw [found, Found]
  split
  · exact eq_comm
  · split
    · next first => exact iff_of_true rfl (.inl first)
    · next first => exact eq_comm.trans (or_iff_right first).symm

theorem asTyped_iff {line : List UInt8} (noNul : 0 ∉ line) :
    AsTyped line ↔ lookup (word line) = none ∨ strlen line ≠ 0 ∧ Found line := by
  obtain ⟨outcome, run, handled⟩ := parseCommand_spec noNul
  have only : AsTyped line ↔
      (if strlen line = 0 then none else (lookup (word line)).map (·, found line)) =
        (lookup (word line)).map (·, textAfter line) := by
    rw [← handled]
    constructor
    · rintro ⟨outcome', run', typed⟩
      cases run.symm.trans run'
      exact typed
    · intro typed
      exact ⟨outcome, run, typed⟩
  rw [only, ← found_eq_iff]
  cases lookup (word line) with
  | none => simp
  | some command =>
      by_cases empty : strlen line = 0
      · simp [empty]
      · simp [empty]

/-- A line `l` can count has more characters than its first word, or is that word. -/
theorem asTyped_iff_of_short {line : List UInt8} (noNul : 0 ∉ line)
    (short : line.length < 2 ^ 32) :
    AsTyped line ↔ lookup (word line) = none ∨ blanks line = [] ∨
      textAfter line = (blanks line ++ word line).drop ((word line).length + 1) := by
  have length := congrArg List.length (blanks_append line)
  rw [List.length_append, List.length_append] at length
  have all : strlen line = line.length := Nat.mod_eq_of_lt short
  rw [asTyped_iff noNul, Found, all]
  by_cases unknown : lookup (word line) = none
  · exact iff_of_true (.inl unknown) (.inl unknown)
  rw [or_iff_right unknown, or_iff_right unknown]
  have some_word : word line ≠ [] := fun none => unknown (none ▸ lookup_nil)
  have word_pos := List.length_pos_iff.mpr some_word
  have nonempty : line.length ≠ 0 := by omega
  rw [and_iff_right nonempty]
  split
  · next only =>
      have first : blanks line = [] := List.length_eq_zero_iff.mp (by omega)
      have nothing : (CString.behind [0x20] line).length = 0 := by omega
      refine iff_of_true ?_ (.inl first)
      rw [textAfter, List.length_eq_zero_iff.mp nothing]
      rfl
  · rfl

/-! ### The number of an argument -/

def isDigit (c : UInt8) : Bool := decide (0x30 ≤ c ∧ c ≤ 0x39)

/-- The number a word of digits is. -/
def decimal (args : List UInt8) : Option Nat :=
  if args ≠ [] ∧ args.all isDigit = true then
    some (args.foldl (fun number c => 10 * number + (c.toNat - 0x30)) 0)
  else none

theorem atoiDigits_of_digits {args : List UInt8} (digits : args.all isDigit = true) (n : Nat) :
    Things.atoiDigits n args =
      (args.foldl (fun number c => 10 * number + (c.toNat - 0x30)) n : Nat) := by
  induction args generalizing n with
  | nil => rfl
  | cons c args ih =>
      rw [List.all_cons, Bool.and_eq_true] at digits
      have digit : 0x30 ≤ c ∧ c ≤ 0x39 := of_decide_eq_true digits.1
      have low : 0x30 ≤ c.toNat := UInt8.le_iff_toNat_le.mp digit.1
      rw [Things.atoiDigits, if_pos digit, List.foldl_cons, ← ih digits.2]
      congr 1
      push_cast [low]
      rfl

/-- `atoi` reads a decimal number as it is. -/
theorem atoi_of_decimal {args : List UInt8} {n : Nat} (value : decimal args = some n) :
    atoi args = n := by
  rw [decimal] at value
  split at value
  · next digits =>
      cases value
      rw [← atoiDigits_of_digits digits.2 0]
      cases args with
      | nil => exact absurd rfl digits.1
      | cons c args =>
          have first := digits.2
          rw [List.all_cons, Bool.and_eq_true] at first
          have digit : 0x30 ≤ c ∧ c ≤ 0x39 := of_decide_eq_true first.1
          have low : 0x30 ≤ c.toNat := UInt8.le_iff_toNat_le.mp digit.1
          have blank : ¬(c = 0x20 ∨ 0x09 ≤ c ∧ c ≤ 0x0D) := by
            rintro (rfl | ⟨_, high⟩)
            · exact absurd low (by decide)
            · have high : c.toNat ≤ 0x0D := UInt8.le_iff_toNat_le.mp high
              omega
          rw [atoi, List.dropWhile_cons_of_neg (by simpa using blank)]
          split
          · next minus =>
              cases minus
              exact absurd low (by decide)
          · next plus =>
              cases plus
              exact absurd low (by decide)
          · rfl
  · cases value

theorem number_of_decimal {undefined : Int → Int32} {args : List UInt8} {n : Nat}
    (value : decimal args = some n) (small : n < 2 ^ 31) :
    number undefined args = Int32.ofNat n := by
  rw [number, atoi_of_decimal value, if_pos (by omega)]
  rfl

/-- An argument a handler gets right: `cancel`, a number of the range it takes for that number, and
what is neither, with nothing in front that is taken for a number. -/
def Understood (undefined : Int → Int32) (refused : Int32 → Prop) (args : List UInt8) : Prop :=
  args = chars "cancel" ∨
    (∃ n, decimal args = some n ∧ n < 2 ^ 31 ∧ (0 < n ∨ args = [0x30])) ∨
    (∀ n, decimal args = some n → 2 ^ 31 ≤ n) ∧ refused (number undefined args)

/-- A shutdown handler does as its argument says, the first word of its text: a number in the range
of an `int` is passed to `ShutdownServ`, and with what is neither such a number nor `cancel` none is
scheduled. -/
structure Obeys (handler : List UInt8 → Order) (idle : Bool) (command : List UInt8) : Prop where
  number : ∀ n, decimal (word command) = some n → n < 2 ^ 31 →
    handler command = .serve (UInt32.ofNat n) idle
  other : word command ≠ chars "cancel" → (∀ n, decimal (word command) = some n → 2 ^ 31 ≤ n) →
    ∀ time idle', handler command ≠ .serve time idle'

section Handlers

variable {undefined : Int → Int32} {belowZero : Int32 → Bool} {idle : Bool} {command : List UInt8}

theorem strtok_word (command : List UInt8) : (CString.strtok [0x20] command).1 =
    if word command = [] then none else some (word command) := CString.strtok_fst _ _

theorem order_of_nil (nothing : word command = []) :
    order undefined belowZero idle command = .usage := by
  rw [order, strtok_word, if_pos nothing]

/-- The test for a zero finds the word "0" alone. -/
theorem unlike_zero_iff {args : List UInt8} (noNul : 0 ∉ args) :
    (args.getD 0 0 ≠ 0x30 ∨ args.getD 1 0 ≠ 0) ↔ args ≠ [0x30] := by
  cases args with
  | nil => simp
  | cons c args =>
      cases args with
      | nil => simp
      | cons c' args =>
          rw [List.mem_cons, List.mem_cons, not_or, not_or] at noNul
          have nonzero : c' ≠ 0 := Ne.symm noNul.2.1
          simp [nonzero]

theorem noNul_word (noNul : 0 ∉ command) : 0 ∉ word command :=
  fun mem => (noNul_parts noNul).1 (List.mem_append_right _ mem)

theorem order_of_word (noNul : 0 ∉ command) (some_word : word command ≠ [])
    (other : word command ≠ chars "cancel") :
    order undefined belowZero idle command =
      if number undefined (word command) = 0 ∧ word command ≠ [0x30] ∨
          belowZero (number undefined (word command)) = true then .usage
      else .serve (number undefined (word command)).toUInt32 idle := by
  rw [order, strtok_word, if_neg some_word]
  refine (if_neg other).trans (if_congr ?_ rfl rfl)
  rw [unlike_zero_iff (noNul_word noNul)]

theorem decimal_cancel : decimal (chars "cancel") = none := by decide

theorem ofNat_eq_zero_iff {n : Nat} (small : n < 2 ^ 31) : Int32.ofNat n = 0 ↔ n = 0 := by
  constructor
  · intro zero
    have value := congrArg Int32.toInt zero
    rw [Int32.toInt_ofNat_of_lt small] at value
    exact Int.ofNat_eq_zero.mp value
  · rintro rfl
    rfl

/-- A number in the range is passed on, unless it is another zero than "0". -/
theorem order_of_decimal (noNul : 0 ∉ command) {n : Nat} (value : decimal (word command) = some n)
    (small : n < 2 ^ 31) (positive : belowZero (Int32.ofNat n) = false) :
    order undefined belowZero idle command = .serve (UInt32.ofNat n) idle ↔
      0 < n ∨ word command = [0x30] := by
  have some_word : word command ≠ [] := by
    intro nothing
    rw [nothing] at value
    cases value
  have other : word command ≠ chars "cancel" := by
    intro cancel
    rw [cancel, decimal_cancel] at value
    cases value
  rw [order_of_word noNul some_word other, number_of_decimal value small, positive,
    Int32.toUInt32_ofNat']
  simp only [ofNat_eq_zero_iff small]
  by_cases refused : n = 0 ∧ word command ≠ [0x30]
  · rw [if_pos (.inl refused)]
    refine iff_of_false (fun same => by cases same) ?_
    rintro (pos | zero)
    · exact absurd refused.1 (Nat.pos_iff_ne_zero.mp pos)
    · exact refused.2 zero
  · rw [if_neg (by simpa using refused)]
    refine iff_of_true rfl ?_
    by_contra neither
    rw [not_or] at neither
    exact refused ⟨by omega, neither.2⟩

/-- What is no number in the range is refused by its start alone. -/
theorem order_of_other (noNul : 0 ∉ command) (other : word command ≠ chars "cancel")
    (outside : ∀ n, decimal (word command) = some n → 2 ^ 31 ≤ n) :
    (∀ time idle', order undefined belowZero idle command ≠ .serve time idle') ↔
      number undefined (word command) = 0 ∨ belowZero (number undefined (word command)) = true := by
  by_cases nothing : word command = []
  · rw [order_of_nil nothing, nothing]
    exact iff_of_true (fun _ _ same => by cases same) (.inl rfl)
  · have unlike : word command ≠ [0x30] := by
      intro zero
      have small := outside 0 (by rw [zero]; rfl)
      exact absurd small (by decide)
    rw [order_of_word noNul nothing other]
    simp only [and_iff_left unlike]
    split
    · next refused => exact iff_of_true (fun _ _ same => by cases same) refused
    · next taken =>
        refine iff_of_false ?_ taken
        intro refused
        exact refused _ _ rfl

/-- A handler obeys exactly what it understands, if it refuses 0 and what is below. -/
theorem obeys_iff (noNul : 0 ∉ command) {refused : Int32 → Prop}
    (refuses : ∀ time, refused time ↔ time = 0 ∨ belowZero time = true)
    (positive : ∀ n : Nat, n < 2 ^ 31 → belowZero (Int32.ofNat n) = false) :
    Obeys (order undefined belowZero idle) idle command ↔
      Understood undefined refused (word command) := by
  by_cases cancel : word command = chars "cancel"
  · refine iff_of_true ?_ (.inl cancel)
    constructor
    · intro n value
      rw [cancel, decimal_cancel] at value
      cases value
    · intro other
      exact absurd cancel other
  by_cases inside : ∃ n, decimal (word command) = some n ∧ n < 2 ^ 31
  · obtain ⟨n, value, small⟩ := inside
    have passed : order undefined belowZero idle command = .serve (UInt32.ofNat n) idle ↔
        0 < n ∨ word command = [0x30] := order_of_decimal noNul value small (positive n small)
    constructor
    · intro obeys
      exact .inr (.inl ⟨n, value, small, passed.mp (obeys.number n value small)⟩)
    · rintro (is_cancel | ⟨m, same, _, right⟩ | ⟨outside, _⟩)
      · exact absurd is_cancel cancel
      · cases value.symm.trans same
        constructor
        · intro m same _
          cases value.symm.trans same
          exact passed.mpr right
        · intro _ outside
          exact absurd (outside n value) (Nat.not_le_of_lt small)
      · exact absurd (outside n value) (Nat.not_le_of_lt small)
  · have outside : ∀ n, decimal (word command) = some n → 2 ^ 31 ≤ n := by
      intro n value
      by_contra small
      exact inside ⟨n, value, Nat.lt_of_not_le small⟩
    have scheduled :
        (∀ time idle', order undefined belowZero idle command ≠ .serve time idle') ↔
          refused (number undefined (word command)) :=
      (order_of_other noNul cancel outside).trans (refuses _).symm
    constructor
    · intro obeys
      exact .inr (.inr ⟨outside, scheduled.mp (obeys.other cancel outside)⟩)
    · rintro (is_cancel | ⟨n, value, small, _⟩ | ⟨_, refused⟩)
      · exact absurd is_cancel cancel
      · exact absurd (outside n value) (Nat.not_le_of_lt small)
      · constructor
        · intro n value small
          exact absurd (outside n value) (Nat.not_le_of_lt small)
        · intro _ _
          exact scheduled.mpr refused

end Handlers

theorem cliShutdown_obeys_iff (undefined : Int → Int32) {command : List UInt8}
    (noNul : 0 ∉ command) : Obeys (cliShutdown undefined) false command ↔
      Understood undefined (· ≤ 0) (word command) := by
  change Obeys (order undefined (fun time => decide (time < 0)) false) false command ↔ _
  apply obeys_iff noNul
  · intro time
    rw [decide_eq_true_iff, Int32.le_iff_lt_or_eq, or_comm]
  · intro n small
    rw [decide_eq_false_iff_not, Int32.lt_iff_toInt_lt, Int32.toInt_ofNat_of_lt small]
    exact Int.not_lt.mpr (Int.natCast_nonneg n)

theorem cliIdleShutdown_obeys_iff (undefined : Int → Int32) {command : List UInt8}
    (noNul : 0 ∉ command) : Obeys (cliIdleShutdown undefined) true command ↔
      Understood undefined (· = 0) (word command) := by
  change Obeys (order undefined (fun _ => false) true) true command ↔ _
  apply obeys_iff noNul
  · intro time
    simp
  · intro n _
    rfl

theorem handled_eq_some {outcome : Outcome} {command : Command} {arguments : List UInt8}
    (handled : outcome.handled = some (command, arguments)) : outcome = .ran command arguments := by
  cases outcome with
  | nothing => cases handled
  | ran c args =>
      cases handled
      rfl
  | unknown input => cases handled

/-- A line that starts with `shutdown` and a number orders the world to shut down after so many
seconds. -/
theorem shutdown_ordered {line : List UInt8} {n : Nat} (undefined : Int → Int32)
    (w : ShutdownWorld) (noNul : 0 ∉ line) (short : line.length < 2 ^ 32)
    (name : word line = chars "shutdown") (start : blanks line = [])
    (value : decimal (word (textAfter line)) = some n) (pos : 0 < n) (small : n < 2 ^ 31) :
    ∃ outcome, parseCommand (line ++ [0]) = .ok outcome ∧
      outcome.run undefined w = w.shutdownServ (UInt32.ofNat n) false := by
  have known : lookup (word line) = some .shutdown := by
    rw [name]
    decide
  obtain ⟨outcome, run, handled⟩ := (asTyped_iff_of_short noNul short).mpr (.inr (.inl start))
  rw [known, Option.map_some] at handled
  have noNul_after : 0 ∉ textAfter line :=
    fun mem => (noNul_parts noNul).2 (List.mem_of_mem_tail mem)
  have obeys : Obeys (cliShutdown undefined) false (textAfter line) :=
    (cliShutdown_obeys_iff undefined noNul_after).mpr (.inr (.inl ⟨n, value, small, .inl pos⟩))
  refine ⟨outcome, run, ?_⟩
  rw [handled_eq_some handled]
  change (cliShutdown undefined (textAfter line)).run w = _
  rw [obeys.number n value small]
  rfl

/-- **A line is dispatched as typed exactly where its arguments stand where they are looked for**,
and a shutdown handler does as its argument says exactly where nothing that `atoi` takes for a
number is in front of one that is none. -/
theorem dispatched_as_typed_iff {line command : List UInt8} (undefined : Int → Int32)
    (lineNoNul : 0 ∉ line) (commandNoNul : 0 ∉ command) :
    ((AsTyped line ↔ lookup (word line) = none ∨ strlen line ≠ 0 ∧ Found line) ∧
      (line.length < 2 ^ 32 → (AsTyped line ↔ lookup (word line) = none ∨ blanks line = [] ∨
        textAfter line = (blanks line ++ word line).drop ((word line).length + 1)))) ∧
    (Obeys (cliShutdown undefined) false command ↔
      Understood undefined (· ≤ 0) (word command)) ∧
    (Obeys (cliIdleShutdown undefined) true command ↔
      Understood undefined (· = 0) (word command)) :=
  ⟨⟨asTyped_iff lineNoNul, asTyped_iff_of_short lineNoNul⟩,
    cliShutdown_obeys_iff undefined commandNoNul, cliIdleShutdown_obeys_iff undefined commandNoNul⟩

/-- A line with an argument, and the argument. -/
theorem dispatched_as_typed_shutdown :
    AsTyped (chars "shutdown 10") ∧ Obeys (cliShutdown fun _ => 0) false (chars "10") := by
  obtain ⟨⟨_, typed⟩, obeys, _⟩ := dispatched_as_typed_iff (fun _ => 0)
    (by decide : 0 ∉ chars "shutdown 10") (by decide : 0 ∉ chars "10")
  refine ⟨(typed (by decide)).mpr (.inr (.inl rfl)), obeys.mpr (.inr (.inl ⟨10, ?_, ?_, ?_⟩))⟩
  · decide
  · decide
  · exact .inl (by decide)

/-- A blank before the command loses its argument, and letters behind digits, a second zero and a
sign are not seen. -/
theorem console_misread :
    parseCommand (chars " shutdown 10" ++ [0]) = .ok (.ran .shutdown []) ∧
      ¬AsTyped (chars " shutdown 10") ∧
      cliShutdown (fun _ => 0) (chars "12abc") = .serve 12 false ∧
      ¬Obeys (cliShutdown fun _ => 0) false (chars "12abc") ∧
      ¬Obeys (cliShutdown fun _ => 0) false (chars "00") ∧
      cliIdleShutdown (fun _ => 0) (chars "-5") = .serve 4294967291 true ∧
      ¬Obeys (cliIdleShutdown fun _ => 0) true (chars "-5") := by
  have lost : parseCommand (chars " shutdown 10" ++ [0]) = .ok (.ran .shutdown []) := by decide
  have letters : cliShutdown (fun _ => 0) (chars "12abc") = .serve 12 false := by decide
  have zeros : cliShutdown (fun _ => 0) (chars "00") = .usage := by decide
  have sign : cliIdleShutdown (fun _ => 0) (chars "-5") = .serve 4294967291 true := by decide
  refine ⟨lost, ?_, letters, ?_, ?_, sign, ?_⟩
  · rintro ⟨outcome, run, typed⟩
    rw [lost] at run
    cases run
    exact absurd typed (by decide)
  · intro obeys
    exact obeys.other (by decide) (fun n value => by cases value) 12 false letters
  · intro obeys
    have passed := obeys.number 0 (by decide) (by decide)
    rw [zeros] at passed
    cases passed
  · intro obeys
    exact obeys.other (by decide) (fun n value => by cases value) 4294967291 true sign

end NoxServer.RemoteAdmin
