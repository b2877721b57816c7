import Lcm.Delimited
import Lcm.Hex
import Lcm.Numerals
import Mathlib.Tactic.Ring

/-!
# MAC addresses

An LCM is identified by its MAC address, which the server reads from a text: up to six parts
between colons, each of them a number in hexadecimal.  The function accepts any text.  A part that
is no number is read as zero; for one that is empty, the variable is not set at all.

## Main definitions

* `extract` : a number is read from a stream.
* `macAddressFromString` : the function of the source.
* `denotes` : the address that a text of six parts stands for.

## Main results

* `macAddressFromString_of_denotes` : a text that stands for an address is read as this address.
-/

namespace Lcm

namespace Server

namespace MacAddress

open Delimited Numerals

variable {text part : List Byte} {parts : List (List Byte)} {address : ℕ}

/-- The number that hexadecimal digits stand for. -/
def hexValue (digits : List Byte) : ℕ :=
  digits.foldl (fun n x => 16 * n + ((Hex.digit x).getD 0).toNat) 0

/-- What is behind `0x`. -/
def behindPrefix : List Byte → List Byte
  | x :: y :: text => if x = 0x30 ∧ (y = 0x78 ∨ y = 0x58) then text else x :: y :: text
  | text => text

/-- `ss >> value`, after `std::hex`, of a `uint64_t`.  If there is nothing but spaces in the stream,
the variable keeps its value. -/
def extract (value : BitVec 64) (text : List Byte) : BitVec 64 :=
  let text := text.dropWhile (IsSpace ·)
  if text = [] then value
  else
    -- what does not fit is replaced by the largest number, and a negative one comes round
    let (negative, text) := sign text
    let n := hexValue ((behindPrefix text).takeWhile fun x => (Hex.digit x).isSome)
    if 2 ^ 64 ≤ n then BitVec.allOnes 64
    else if negative then -BitVec.ofNat 64 n
    else BitVec.ofNat 64 n

/-- `MACAddressFromString`, with what `macByte` holds before it is read. -/
def macAddressFromString (uninitialized : ℕ → BitVec 64) (text : List Byte) : BitVec 64 :=
  ((pieces 0x3A text).take 6).zipIdx.foldl (fun address token =>
    let macByte := extract (uninitialized token.2) token.1
    address ||| (macByte &&& 0xFF) <<< ((5 - token.2) * 8)) 0

/-! ### What a text stands for -/

/-- A part has one or two digits. -/
def IsPart (part : List Byte) : Prop :=
  (part.length = 1 ∨ part.length = 2) ∧ Hex.Digits part

instance (part : List Byte) : Decidable (IsPart part) := inferInstanceAs (Decidable (_ ∧ _))

/-- **The address that a text stands for**: it has six parts, the highest first. -/
def denotes (text : List Byte) : Option ℕ :=
  let parts := text.splitOn 0x3A
  if parts.length = 6 ∧ ∀ part ∈ parts, IsPart part then
    some (parts.foldl (fun address part => 256 * address + hexValue part) 0)
  else none

theorem denotes_eq_some_iff : denotes text = some address ↔
    ((text.splitOn 0x3A).length = 6 ∧ ∀ part ∈ text.splitOn 0x3A, IsPart part) ∧
      (text.splitOn 0x3A).foldl (fun address part => 256 * address + hexValue part) 0 =
        address := by
  rw [denotes, Option.ite_none_right_eq_some, Option.some.injEq]

/-! ### Reading a part -/

theorem digit_lt {x : Byte} (h : (Hex.digit x).isSome) : ((Hex.digit x).getD 0).toNat < 16 := by
  revert x
  decide +kernel

theorem not_isSpace_of_digit {x : Byte} (h : (Hex.digit x).isSome) : ¬ IsSpace x := by
  revert x
  decide +kernel

theorem not_sign_of_digit {x : Byte} (h : (Hex.digit x).isSome) :
    x ≠ 0x2D ∧ x ≠ 0x2B ∧ x ≠ 0x78 ∧ x ≠ 0x58 := by
  revert x
  decide +kernel

theorem hexValue_lt (h : IsPart part) : hexValue part < 256 := by
  obtain ⟨hlength, hdigits⟩ := h
  match part, hlength with
  | [x], _ =>
    have hx := digit_lt (hdigits x List.mem_cons_self)
    simp only [hexValue, List.foldl_cons, List.foldl_nil]
    omega
  | [x, y], _ =>
    have hx := digit_lt (hdigits x List.mem_cons_self)
    have hy := digit_lt (hdigits y (List.mem_cons_of_mem _ List.mem_cons_self))
    simp only [hexValue, List.foldl_cons, List.foldl_nil]
    omega

/-- The digits of a part are read. -/
theorem extract_of_isPart (h : IsPart part) (value : BitVec 64) :
    extract value part = BitVec.ofNat 64 (hexValue part) := by
  have hlt := hexValue_lt h
  obtain ⟨hlength, hdigits⟩ := h
  obtain ⟨x, rest, rfl⟩ : ∃ x rest, part = x :: rest := by
    cases part with
    | nil => simp at hlength
    | cons x rest => exact ⟨x, rest, rfl⟩
  have hx := hdigits x List.mem_cons_self
  obtain ⟨hminus, hplus, -, -⟩ := not_sign_of_digit hx
  have hspace : (x :: rest).dropWhile (IsSpace ·) = x :: rest :=
    List.dropWhile_cons_of_neg (mt of_decide_eq_true (not_isSpace_of_digit hx))
  have hsign : sign (x :: rest) = (false, x :: rest) := by
    rw [sign, if_neg hminus, if_neg hplus]
  have hbehind : behindPrefix (x :: rest) = x :: rest := by
    cases rest with
    | nil => rfl
    | cons y rest =>
      obtain ⟨-, -, hlower, hupper⟩ :=
        not_sign_of_digit (hdigits y (List.mem_cons_of_mem _ List.mem_cons_self))
      exact if_neg fun hzero => hzero.2.elim hlower hupper
  have htake : (x :: rest).takeWhile (fun x => (Hex.digit x).isSome) = x :: rest :=
    List.takeWhile_eq_self_iff.2 hdigits
  rw [extract, hspace, if_neg (List.cons_ne_nil x rest), hsign]
  dsimp only
  rw [hbehind, htake, if_neg (by omega), if_neg (by decide)]

/-! ### Putting the parts together -/

/-- The next part comes behind those before it. -/
theorem or_shiftLeft_part {n : ℕ} (hn : n < 256) (j a : ℕ) :
    BitVec.ofNat 64 (256 ^ (j + 1) * a) ||| (BitVec.ofNat 64 n &&& 0xFF) <<< (j * 8) =
      BitVec.ofNat 64 (256 ^ j * (256 * a + n)) := by
  have hbyte : BitVec.ofNat 64 n &&& 0xFF = BitVec.ofNat 64 n := by
    apply BitVec.eq_of_toNat_eq
    rw [BitVec.toNat_and, BitVec.toNat_ofNat, Nat.mod_eq_of_lt (by omega)]
    exact Nat.and_two_pow_sub_one_of_lt_two_pow (n := 8) hn
  have hpow : 256 ^ (j + 1) = 2 ^ (j * 8 + 8) := by
    rw [show 256 = 2 ^ 8 from rfl, ← Nat.pow_mul]
    congr 1
    ring
  have hshift : n <<< (j * 8) < 2 ^ (j * 8 + 8) := by
    rw [Nat.shiftLeft_eq, Nat.pow_add, Nat.mul_comm]
    exact Nat.mul_lt_mul_of_pos_left hn (Nat.two_pow_pos _)
  have hshiftLeft : BitVec.ofNat 64 n <<< (j * 8) = BitVec.ofNat 64 (n <<< (j * 8)) := by
    apply BitVec.eq_of_toNat_eq
    rw [BitVec.toNat_shiftLeft, BitVec.toNat_ofNat, BitVec.toNat_ofNat,
      Nat.mod_eq_of_lt (by omega : n < 2 ^ 64)]
  rw [hbyte, hshiftLeft, ← BitVec.ofNat_or, hpow, ← Nat.two_pow_add_eq_or_of_lt hshift,
    Nat.shiftLeft_eq]
  congr 1
  rw [show 256 = 2 ^ 8 from rfl, ← Nat.pow_mul]
  ring

/-- The parts, from one of them on. -/
theorem foldl_zipIdx (uninitialized : ℕ → BitVec 64) (hparts : ∀ part ∈ parts, IsPart part) {k : ℕ}
    (hk : k + parts.length = 6) (a : ℕ) :
    (parts.zipIdx k).foldl (fun address token =>
      address ||| (extract (uninitialized token.2) token.1 &&& 0xFF) <<< ((5 - token.2) * 8))
        (BitVec.ofNat 64 (256 ^ (6 - k) * a)) =
      BitVec.ofNat 64 (parts.foldl (fun address part => 256 * address + hexValue part) a) := by
  -- the parts so far are in the high bytes, and the rest is zero
  induction parts generalizing k a with
  | nil =>
    obtain rfl : k = 6 := hk
    rw [List.zipIdx_nil, List.foldl_nil, List.foldl_nil, Nat.sub_self, Nat.pow_zero, Nat.one_mul]
  | cons part parts ih =>
    rw [List.length_cons] at hk
    have hpart := hparts part List.mem_cons_self
    have hpower : 6 - k = 5 - k + 1 := by omega
    have hnext : 5 - k = 6 - (k + 1) := by omega
    rw [List.zipIdx_cons, List.foldl_cons, List.foldl_cons, extract_of_isPart hpart, hpower,
      or_shiftLeft_part (hexValue_lt hpart), hnext]
    exact ih (fun part hp => hparts part (List.mem_cons_of_mem _ hp)) (by omega) _

/-- **A text that stands for an address is read as this address.** -/
theorem macAddressFromString_of_denotes (uninitialized : ℕ → BitVec 64)
    (h : denotes text = some address) :
    macAddressFromString uninitialized text = BitVec.ofNat 64 address := by
  obtain ⟨⟨hlength, hparts⟩, rfl⟩ := denotes_eq_some_iff.1 h
  have hne : [] ∉ text.splitOn 0x3A := fun hempty => by
    obtain ⟨hempty, -⟩ := hparts [] hempty
    simp at hempty
  rw [macAddressFromString, pieces_eq_splitOn hne, List.take_of_length_le (Nat.le_of_eq hlength)]
  exact foldl_zipIdx uninitialized hparts (by rw [hlength]) 0

theorem foldl_lt (hparts : ∀ part ∈ parts, IsPart part) (a : ℕ) :
    parts.foldl (fun address part => 256 * address + hexValue part) a <
      256 ^ parts.length * (a + 1) := by
  induction parts generalizing a with
  | nil => exact Nat.lt_of_lt_of_eq (Nat.lt_succ_self a) (Nat.one_mul _).symm
  | cons part parts ih =>
    have hlt := hexValue_lt (hparts part List.mem_cons_self)
    rw [List.foldl_cons, List.length_cons]
    calc parts.foldl (fun address part => 256 * address + hexValue part) (256 * a + hexValue part)
        < 256 ^ parts.length * (256 * a + hexValue part + 1) :=
          ih (fun part hp => hparts part (List.mem_cons_of_mem _ hp)) _
      _ ≤ 256 ^ parts.length * (256 * (a + 1)) := Nat.mul_le_mul_left _ (by omega)
      _ = 256 ^ (parts.length + 1) * (a + 1) := by ring

/-- An address has six bytes. -/
theorem lt_of_denotes (h : denotes text = some address) : address < 256 ^ 6 := by
  obtain ⟨⟨hlength, hparts⟩, rfl⟩ := denotes_eq_some_iff.1 h
  have hlt := foldl_lt hparts 0
  rwa [hlength, Nat.zero_add, Nat.mul_one] at hlt

end MacAddress

end Server

end Lcm
