import Mathlib.Algebra.Ring.Int.Defs
import Mathlib.Algebra.Ring.Nat
import Mathlib.Data.List.Basic
import NoxServer.Library.CString
import NoxServer.Library.Loops
import NoxServer.Shared.Memory

/-!
The password of a WOL login, scrambled in place (`wol_socket::hash_password` and
`WolSocket::encode`, the same code twice).

The password is copied to an array of 9 bytes and mixed there by two cursors that run towards each
other, the second one starting at the terminator; then 8 letters are drawn and as many as the
password is long are copied back. That stays inside the arrays for lengths up to 8
(`scramble_isOk_iff`). `handle_connect` allocates no byte for the terminator its `strcpy` writes, so
it leaves its buffer for every password (`handleConnect_fails`).
-/

namespace NoxServer.Wol

/-! ### Arrays -/

def memcpy (dst src : List UInt8) (count : Nat) : Except Fault (List UInt8) :=
  if count ≤ src.length ∧ count ≤ dst.length then .ok (src.take count ++ dst.drop count)
  else .error .outOfBounds

def strcpy (dst src : List UInt8) : Except Fault (List UInt8) :=
  if (CString.text src).length < dst.length then .ok (CString.write dst (CString.text src))
  else .error .outOfBounds

/-- An `int` as a `size_t`, of 32 bits. -/
def size (len : Int32) : Nat := (len.toInt % 2 ^ 32).toNat

/-! ### The scrambling -/

/-- `HASH`: the small letters, the capital ones, the digits, `./` and the terminator. -/
def HASH : List UInt8 :=
  (List.range' 97 26 ++ List.range' 65 26 ++ List.range' 48 10 ++ [46, 47, 0]).map UInt8.ofNat

/-- The variables of the first loop. -/
structure Mixing where
  pwd2 : List UInt8 := List.replicate 9 0
  p1 : Nat := 0
  p2 : Nat := 0
  i : UInt8 := 0
  esi : UInt8

/-- The body of the first loop. -/
def mix (pwd1 : List UInt8) (s : Mixing) : Except Fault Mixing := do
  let c ← byteAt pwd1 s.p1
  let other ← byteAt pwd1 s.esi.toNat
  let edx := if c &&& 1 ≠ 0 then (c <<< 1) &&& other else c ^^^ other
  let pwd2 ← setByte s.pwd2 s.p2 edx
  .ok { pwd2 := pwd2, p1 := s.p1 + 1, p2 := s.p2 + 1, i := s.i + 1, esi := s.esi - 1 }

/-- The first loop. Its counter has 8 bits; each turn moves `p1` on, so the tenth leaves `pwd1`. -/
def mixing (pwd1 : List UInt8) (len : Int) : Nat → Mixing → Except Fault Mixing
  | 0, s => .ok s
  | turns + 1, s =>
      if (s.i.toNat : Int) < len then mix pwd1 s >>= mixing pwd1 len turns else .ok s

/-- The body of the second loop. -/
def draw (pwd2 : List UInt8) (i : Nat) (pwd1 : List UInt8) : Except Fault (List UInt8) := do
  let c ← byteAt pwd2 i
  let letter ← byteAt HASH (c &&& 0x3f).toNat
  setByte pwd1 i letter

/-- The common body of `hash_password` and `encode`. -/
def scramble (password : List UInt8) (len : Int32) : Except Fault (List UInt8) := do
  let pwd1 ← memcpy (List.replicate 9 0) password (size len)
  let s ← mixing pwd1 len.toInt 10 { esi := len.toUInt32.toUInt8 }
  let pwd1 ← Loops.loop (draw s.pwd2) 8 0 pwd1
  memcpy password pwd1 (size len)

/-- `wol_socket::hash_password`. -/
def hashPassword (password : List UInt8) (len : Int32) : Except Fault (List UInt8) :=
  scramble password len

/-- `WolSocket::encode`. -/
def encode (password : List UInt8) (len : Int32) : Except Fault (List UInt8) :=
  scramble password len

/-- `hash` of `wol_socket::handle_connect`, allocated where the memory holds what it holds. -/
def handleConnect (memory : Nat → UInt8) (password : List UInt8) : Except Fault (List UInt8) := do
  let hash := (List.range password.length).map memory
  let hash ← strcpy hash (password ++ [0])
  hashPassword hash (Int32.ofNat password.length)

/-! ### The first loop -/

theorem mix_ok {pwd1 : List UInt8} {s : Mixing} (first : s.p1 < pwd1.length)
    (second : s.esi.toNat < pwd1.length) (target : s.p2 < s.pwd2.length) :
    ∃ pwd2 : List UInt8, pwd2.length = s.pwd2.length ∧ mix pwd1 s =
      .ok { pwd2 := pwd2, p1 := s.p1 + 1, p2 := s.p2 + 1, i := s.i + 1, esi := s.esi - 1 } := by
  simp only [mix, byteAt_of_lt first, byteAt_of_lt second, setByte_of_lt target, ok_bind]
  exact ⟨_, List.length_set, rfl⟩

/-- Where the loop stands before turn `k`. -/
structure MixingAt (len k : Nat) (s : Mixing) : Prop where
  pwd2 : s.pwd2.length = 9
  p1 : s.p1 = k
  p2 : s.p2 = k
  i : s.i.toNat = k
  esi : s.esi.toNat = len - k

theorem MixingAt.next {pwd1 : List UInt8} {len k : Nat} {s : Mixing} (so : MixingAt len k s)
    (size : pwd1.length = 9) (small : len ≤ 8) (more : k < len) :
    ∃ t, mix pwd1 s = .ok t ∧ MixingAt len (k + 1) t := by
  have first : s.p1 < pwd1.length := by rw [so.p1]; omega
  have second : s.esi.toNat < pwd1.length := by rw [so.esi]; omega
  have target : s.p2 < s.pwd2.length := by rw [so.p2, so.pwd2]; omega
  obtain ⟨pwd2, length, run⟩ := mix_ok first second target
  refine ⟨_, run, ?_⟩
  constructor
  · exact length.trans so.pwd2
  · exact congrArg (· + 1) so.p1
  · exact congrArg (· + 1) so.p2
  · rw [UInt8.toNat_add, so.i]
    exact Nat.mod_eq_of_lt (by rw [UInt8.toNat_one]; omega)
  · have above : (1 : UInt8) ≤ s.esi := by
      rw [UInt8.le_iff_toNat_le, so.esi, UInt8.toNat_one]
      omega
    rw [UInt8.toNat_sub_of_le _ _ above, so.esi, UInt8.toNat_one]
    omega

/-- A password of at most 8 characters is mixed inside the arrays. -/
theorem mixing_ok {pwd1 : List UInt8} {len : Nat} (size : pwd1.length = 9) (small : len ≤ 8)
    {turns k : Nat} {s : Mixing} (so : MixingAt len k s) (enough : len ≤ k + turns) :
    ∃ t, mixing pwd1 len turns s = .ok t ∧ t.pwd2.length = 9 := by
  induction turns generalizing k s with
  | zero => exact ⟨s, rfl, so.pwd2⟩
  | succ turns ih =>
      rw [mixing]
      by_cases more : k < len
      · obtain ⟨t, run, next⟩ := so.next size small more
        have test : (s.i.toNat : Int) < len := by rw [so.i]; omega
        rw [if_pos test, run, ok_bind]
        exact ih next (by omega)
      · have test : ¬(s.i.toNat : Int) < len := by rw [so.i]; omega
        rw [if_neg test]
        exact ⟨s, rfl, so.pwd2⟩

/-! ### The second loop -/

/-- The 64 characters of `HASH`. -/
def alphabet : List UInt8 := HASH.take 64

theorem letter_mem (c : UInt8) : HASH.getD (c &&& 0x3f).toNat 0 ∈ alphabet := by
  have small : (c &&& 0x3f).toNat < 64 := by
    rw [UInt8.toNat_and]
    exact Nat.and_lt_two_pow c.toNat (n := 6) (by decide)
  have inside : (c &&& 0x3f).toNat < HASH.length := Nat.lt_trans small (by decide)
  rw [List.getD_eq_getElem?_getD, List.getElem?_eq_getElem inside, Option.getD_some]
  exact List.mem_take_iff_getElem.mpr ⟨_, Nat.lt_min.mpr ⟨small, inside⟩, rfl⟩

/-- The first `k` bytes are drawn. -/
structure Drawn (k : Nat) (pwd1 : List UInt8) : Prop where
  length : pwd1.length = 9
  letters : ∀ j, j < k → pwd1.getD j 0 ∈ alphabet

theorem Drawn.next {pwd1 pwd2 : List UInt8} {k : Nat} (so : Drawn k pwd1)
    (size : pwd2.length = 9) (inside : k < 9) :
    ∃ pwd1', draw pwd2 k pwd1 = .ok pwd1' ∧ Drawn (k + 1) pwd1' := by
  have target : k < pwd1.length := so.length ▸ inside
  have inHash : (pwd2.getD k 0 &&& 0x3f).toNat < HASH.length := by
    rw [UInt8.toNat_and]
    exact Nat.lt_of_le_of_lt Nat.and_le_right (by decide)
  rw [draw, byteAt_of_lt (size ▸ inside), ok_bind, byteAt_of_lt inHash, ok_bind,
    setByte_of_lt target]
  refine ⟨_, rfl, ?_⟩
  constructor
  · exact List.length_set.trans so.length
  · intro j below
    by_cases here : j = k
    · rw [here, getD_set_self target]
      exact letter_mem _
    · rw [getD_set_of_ne (Ne.symm here)]
      exact so.letters j (by omega)

theorem drawing_ok {pwd1 pwd2 : List UInt8} (size : pwd1.length = 9) (size' : pwd2.length = 9) :
    ∃ pwd1', Loops.loop (draw pwd2) 8 0 pwd1 = .ok pwd1' ∧ Drawn 8 pwd1' :=
  Loops.loop_total (P := Drawn) ⟨size, fun j below => absurd below (Nat.not_lt_zero j)⟩
    fun _ _ _ upper so => so.next size' (by omega)

/-! ### The length as an `int` -/

theorem size_of_nonneg {len : Int32} (nonneg : 0 ≤ len.toInt) : size len = len.toInt.toNat := by
  have upper := len.toInt_lt
  rw [size, Int.emod_eq_of_lt nonneg (by omega)]

theorem size_of_neg {len : Int32} (neg : ¬0 ≤ len.toInt) : 9 < size len := by
  have lower := len.le_toInt
  rw [size]
  omega

theorem esi_of_le {len : Int32} (nonneg : 0 ≤ len.toInt) (small : len.toInt < 256) :
    len.toUInt32.toUInt8.toNat = len.toInt.toNat := by
  have value : len.toUInt32.toNat = len.toInt.toNat :=
    Int32.toNat_toUInt32_of_le (Int32.le_iff_toInt_le.mpr nonneg)
  rw [UInt32.toNat_toUInt8, value]
  omega

/-- A length as an `int` is negative or at most the length. -/
theorem toInt_ofNat_le (n : Nat) : (Int32.ofNat n).toInt.toNat ≤ n := by
  rw [Int32.toInt_ofNat', Int.bmod_def]
  simp only [Int32.size]
  omega

theorem toInt_ofNat_of_lt {n : Nat} (small : n < 2 ^ 31) : (Int32.ofNat n).toInt = n := by
  rw [Int32.toInt_ofNat', Int.bmod_def]
  simp only [Int32.size]
  omega

/-! ### What is left in the buffer -/

theorem memcpy_eq_ok {dst src out : List UInt8} {count : Nat} :
    memcpy dst src count = .ok out ↔ (count ≤ src.length ∧ count ≤ dst.length) ∧
      src.take count ++ dst.drop count = out := by
  rw [memcpy]
  split
  · next inside => simp [inside]
  · next outside => simp [outside]

/-- Up to 8 characters are replaced by letters. -/
theorem scramble_ok {password : List UInt8} {len : Int32} (nonneg : 0 ≤ len.toInt)
    (small : len.toInt ≤ 8) (inside : len.toInt.toNat ≤ password.length) :
    ∃ letters, letters.length = len.toInt.toNat ∧ (∀ c ∈ letters, c ∈ alphabet) ∧
      scramble password len = .ok (letters ++ password.drop len.toInt.toNat) := by
  obtain ⟨n, length⟩ := Int.eq_ofNat_of_zero_le nonneg
  have bound : n ≤ 8 := by omega
  have esi := esi_of_le nonneg (by omega)
  have sized := size_of_nonneg nonneg
  rw [length, Int.toNat_natCast] at inside esi sized ⊢
  have copied := memcpy_eq_ok.mpr ⟨⟨inside, show n ≤ (List.replicate 9 (0 : UInt8)).length by
    rw [List.length_replicate]; omega⟩, rfl⟩
  have size9 : (password.take n ++ (List.replicate 9 (0 : UInt8)).drop n).length = 9 := by
    rw [List.length_append, List.length_take, List.length_drop, List.length_replicate]
    omega
  have start : MixingAt n 0 { esi := len.toUInt32.toUInt8 } := by
    constructor <;> first | rfl | exact esi
  have mixes : ∃ s, mixing (password.take n ++ (List.replicate 9 (0 : UInt8)).drop n) n 10
      { esi := len.toUInt32.toUInt8 } = .ok s ∧ s.pwd2.length = 9 :=
    mixing_ok size9 bound start (by omega)
  obtain ⟨s, mixed, size9'⟩ := mixes
  obtain ⟨pwd1, drawn, so⟩ := drawing_ok size9 size9'
  have back : n ≤ pwd1.length := by rw [so.length]; omega
  refine ⟨pwd1.take n, ?_, ?_, ?_⟩
  · rw [List.length_take, Nat.min_eq_left back]
  · intro c mem
    obtain ⟨j, below, rfl⟩ := List.mem_take_iff_getElem.mp mem
    have below : j < n ∧ j < pwd1.length := Nat.lt_min.mp below
    have letter := so.letters j (by omega)
    rwa [List.getD_eq_getElem?_getD, List.getElem?_eq_getElem below.2, Option.getD_some] at letter
  · rw [scramble, sized, copied, ok_bind, length, mixed, ok_bind, drawn, ok_bind]
    exact memcpy_eq_ok.mpr ⟨⟨back, inside⟩, rfl⟩

/-- With 9 characters the second cursor starts behind the array. -/
theorem mixing_nine {pwd1 : List UInt8} (size : pwd1.length = 9) (turns : Nat) {s : Mixing}
    (i : s.i = 0) (esi : s.esi.toNat = 9) (r : Mixing) : mixing pwd1 9 (turns + 1) s ≠ .ok r := by
  rw [mixing, i, if_pos (by decide), mix]
  intro run
  obtain ⟨_, mixed, _⟩ := bind_eq_ok.mp run
  obtain ⟨_, _, rest⟩ := bind_eq_ok.mp mixed
  obtain ⟨_, read, _⟩ := bind_eq_ok.mp rest
  have inside := byteAt_eq_ok read
  rw [esi, size] at inside
  exact Nat.lt_irrefl 9 inside

theorem le_of_scramble {password out : List UInt8} {len : Int32}
    (run : scramble password len = .ok out) :
    0 ≤ len.toInt ∧ len.toInt ≤ 8 ∧ len.toInt.toNat ≤ password.length := by
  obtain ⟨pwd1, copied, rest⟩ := bind_eq_ok.mp run
  obtain ⟨⟨inside, fits⟩, value⟩ := memcpy_eq_ok.mp copied
  rw [List.length_replicate] at fits
  have nonneg : 0 ≤ len.toInt := by
    by_contra neg
    exact absurd fits (Nat.not_le_of_lt (size_of_neg neg))
  rw [size_of_nonneg nonneg] at inside fits value
  refine ⟨nonneg, ?_, inside⟩
  by_contra large
  have nine : len.toInt = 9 := by omega
  have size9 : pwd1.length = 9 := by
    rw [← value, List.length_append, List.length_take, List.length_drop, List.length_replicate]
    omega
  obtain ⟨s, mixed, _⟩ := bind_eq_ok.mp rest
  rw [nine] at mixed
  refine mixing_nine size9 9 rfl ?_ s mixed
  exact (esi_of_le nonneg (by omega)).trans (by rw [nine]; rfl)

/-- The scrambling stays in its arrays for up to 8 characters of the buffer. -/
theorem scramble_isOk_iff (password : List UInt8) (len : Int32) :
    (∃ out, scramble password len = .ok out) ↔
      0 ≤ len.toInt ∧ len.toInt ≤ 8 ∧ len.toInt.toNat ≤ password.length := by
  constructor
  · rintro ⟨out, run⟩
    exact le_of_scramble run
  · rintro ⟨nonneg, small, inside⟩
    obtain ⟨letters, _, _, run⟩ := scramble_ok nonneg small inside
    exact ⟨_, run⟩

/-! ### Logging in -/

/-- A run leaves `n` letters and a terminator. -/
def Scrambles (n : Nat) (run : Except Fault (List UInt8)) : Prop :=
  ∃ letters, run = .ok (letters ++ [0]) ∧ letters.length = n ∧ ∀ c ∈ letters, c ∈ alphabet

/-- The copy of a password needs one byte more than its length. -/
theorem handleConnect_fails {password : List UInt8} (noNul : 0 ∉ password)
    (memory : Nat → UInt8) : handleConnect memory password = .error .outOfBounds := by
  have outside : ¬password.length < ((List.range password.length).map memory).length := by
    rw [List.length_map, List.length_range]
    exact Nat.lt_irrefl _
  rw [handleConnect, strcpy, CString.text_append noNul, if_neg outside, error_bind]

/-- `encode` of a password and its terminator, by the length the `int` gives it. -/
theorem encode_scrambles_iff (password : List UInt8) :
    Scrambles password.length (encode (password ++ [0]) (Int32.ofNat password.length)) ↔
      0 ≤ (Int32.ofNat password.length).toInt ∧ (Int32.ofNat password.length).toInt ≤ 8 ∧
        ∀ c ∈ password.drop (Int32.ofNat password.length).toInt.toNat, c ∈ alphabet := by
  generalize len : Int32.ofNat password.length = l
  constructor
  · rintro ⟨letters, run, length, all⟩
    obtain ⟨nonneg, small, inside⟩ := le_of_scramble run
    refine ⟨nonneg, small, ?_⟩
    obtain ⟨front, count, _, run'⟩ := scramble_ok nonneg small inside
    have within : l.toInt.toNat ≤ password.length := len ▸ toInt_ofNat_le password.length
    rw [List.drop_append_of_le_length within, ← List.append_assoc] at run'
    have same := Except.ok.inj (run.symm.trans run')
    have parts : letters = front ++ password.drop l.toInt.toNat :=
      (List.append_inj_left' same rfl)
    intro c mem
    exact all c (parts ▸ List.mem_append_right _ mem)
  · rintro ⟨nonneg, small, rest⟩
    have within : l.toInt.toNat ≤ password.length := len ▸ toInt_ofNat_le password.length
    have inside : l.toInt.toNat ≤ (password ++ [0]).length := by
      rw [List.length_append]
      exact Nat.le_add_right_of_le within
    obtain ⟨front, count, letters, run⟩ := scramble_ok nonneg small inside
    rw [List.drop_append_of_le_length within, ← List.append_assoc] at run
    refine ⟨_, run, ?_, ?_⟩
    · rw [List.length_append, count, List.length_drop]
      omega
    · intro c mem
      rcases List.mem_append.mp mem with mem | mem
      · exact letters c mem
      · exact rest c mem

/-- What a login asks of a password: `handle_connect` and `encode` stay inside their arrays and
leave as many letters as it has, and a terminator. -/
def InBounds (memory : Nat → UInt8) (password : List UInt8) : Prop :=
  Scrambles password.length (handleConnect memory password) ∧
    Scrambles password.length (encode (password ++ [0]) (Int32.ofNat password.length))

/-- **No password is scrambled in bounds**: `handle_connect` leaves its buffer for every one.
`encode` stays inside and leaves the letters exactly for at most 8 characters (from `2 ^ 31` on, for
as many as the `int` says, with letters after these). -/
theorem never_in_bounds (memory : Nat → UInt8) (password : List UInt8) (noNul : 0 ∉ password) :
    ¬InBounds memory password ∧ handleConnect memory password = .error .outOfBounds ∧
      (Scrambles password.length (encode (password ++ [0]) (Int32.ofNat password.length)) ↔
        0 ≤ (Int32.ofNat password.length).toInt ∧ (Int32.ofNat password.length).toInt ≤ 8 ∧
          ∀ c ∈ password.drop (Int32.ofNat password.length).toInt.toNat, c ∈ alphabet) ∧
      (password.length < 2 ^ 31 →
        (Scrambles password.length (encode (password ++ [0]) (Int32.ofNat password.length)) ↔
          password.length ≤ 8)) := by
  have connect := handleConnect_fails noNul memory
  refine ⟨?_, connect, encode_scrambles_iff password, ?_⟩
  · rintro ⟨⟨letters, run, _⟩, _⟩
    rw [connect] at run
    cases run
  · intro short
    rw [encode_scrambles_iff, toInt_ofNat_of_lt short]
    constructor
    · rintro ⟨_, small, _⟩
      omega
    · intro small
      refine ⟨by omega, by omega, ?_⟩
      rw [Int.toNat_natCast, List.drop_length]
      intro c mem
      cases mem

/-- A password of eight letters is refused room by the one and scrambled by the other. -/
theorem never_in_bounds_eight :
    (0 : UInt8) ∉ List.replicate 8 (0x61 : UInt8) ∧
      Scrambles 8 (encode (List.replicate 8 0x61 ++ [0]) (Int32.ofNat 8)) :=
  have noNul : (0 : UInt8) ∉ List.replicate 8 (0x61 : UInt8) := by simp
  ⟨noNul, ((never_in_bounds (fun _ => 0) (List.replicate 8 0x61) noNul).2.2.2 (by decide)).mpr
    (Nat.le_refl 8)⟩

/-- One letter does not fit into one byte, and nine start the second cursor behind the array. -/
theorem password_overrun :
    (0 : UInt8) ∉ [(0x61 : UInt8)] ∧ ¬InBounds (fun _ => 0) [0x61] ∧
      handleConnect (fun _ => 0) [0x61] = .error .outOfBounds ∧
      encode (List.replicate 9 0x61 ++ [0]) (Int32.ofNat 9) = .error .outOfBounds := by
  have connect : handleConnect (fun _ => 0) [0x61] = .error .outOfBounds := by rfl
  refine ⟨by simp, ?_, connect, by rfl⟩
  rintro ⟨⟨letters, run, _⟩, _⟩
  rw [connect] at run
  cases run

end NoxServer.Wol
