import Mathlib.Algebra.CharP.Algebra
import Mathlib.Algebra.CharP.Two
import Mathlib.Algebra.Field.ZMod
import Mathlib.Algebra.Polynomial.Div
import Mathlib.Data.ZMod.Basic
import Mathlib.RingTheory.AdjoinRoot

/-!
# Cyclic redundancy checks by shift and xor

A register of `w` bits is shifted to the right once for each bit of the message, low bit of a
byte first, and a fixed pattern `poly` is xored in whenever a one is shifted out.  The width and
the pattern are parameters.

A bit vector is read as a polynomial with its high bit as the constant coefficient, so that a
shift to the right is a multiplication by `X`, and the register is the remainder of the message
modulo `X ^ w + poly`.

## Main definitions

* `shiftXor` : one step of the register.
* `update` : the register after the first bytes of a buffer.
* `value` : the polynomial of a bit vector, at a point of any ring.

## Main results

* `addByte_eq_table` : a byte is worth one lookup in the table of the registers of a single byte.
* `update_add` : a buffer may be processed in two parts.
* `update_ne_update` : two buffers that differ in one byte only have different registers.
* `update_eq_modByMonic` : the register is the remainder of the message.
-/

namespace Lcm

namespace BitwiseCrc

section Register

variable {w : ℕ}

/-- Shift the low bit out, and xor the pattern in if the bit was set. -/
def shiftXor (poly crc : BitVec w) : BitVec w :=
  if crc.getLsbD 0 then (crc >>> 1) ^^^ poly else crc >>> 1

/-- The register after the eight bits of a byte. -/
def addByte (poly crc : BitVec w) (b : BitVec 8) : BitVec w :=
  (shiftXor poly)^[8] (crc ^^^ b.setWidth w)

/-- The register after the first `n` bytes of a buffer. -/
def update (poly crc : BitVec w) (buffer : ℕ → BitVec 8) : ℕ → BitVec w
  | 0 => crc
  | n + 1 => addByte poly (update poly crc buffer n) (buffer n)

/-! ### Linearity and the table -/

/-- A step distributes over xor: the pattern comes in once, twice or not at all. -/
theorem shiftXor_xor (poly a b : BitVec w) :
    shiftXor poly (a ^^^ b) = shiftXor poly a ^^^ shiftXor poly b := by
  have hshift : (a ^^^ b) >>> 1 = (a >>> 1) ^^^ (b >>> 1) := BitVec.ushiftRight_xor_distrib ..
  unfold shiftXor
  rw [BitVec.getLsbD_xor, hshift]
  cases a.getLsbD 0 <;> cases b.getLsbD 0
  · simp
  · simp [BitVec.xor_assoc]
  · simp [BitVec.xor_assoc, BitVec.xor_comm poly]
  · -- both patterns cancel
    simp only [Bool.bne_true, Bool.not_true, Bool.false_eq_true, if_false, if_true]
    rw [BitVec.xor_comm (b >>> 1) poly, BitVec.xor_assoc, ← BitVec.xor_assoc poly,
      BitVec.xor_self, BitVec.zero_xor]

theorem iterate_shiftXor_xor (poly a b : BitVec w) (n : ℕ) :
    (shiftXor poly)^[n] (a ^^^ b) = (shiftXor poly)^[n] a ^^^ (shiftXor poly)^[n] b := by
  induction n generalizing a b with
  | zero => rfl
  | succ n ih => simp only [Function.iterate_succ_apply, shiftXor_xor, ih]

/-- A register whose low bits are clear is only shifted. -/
theorem iterate_shiftXor_of_low_clear (poly : BitVec w) {crc : BitVec w} {n : ℕ}
    (h : ∀ i < n, crc.getLsbD i = false) : (shiftXor poly)^[n] crc = crc >>> n := by
  induction n with
  | zero => simp
  | succ n ih =>
    have hbit : (crc >>> n).getLsbD 0 = false := by
      simpa using h n (Nat.lt_succ_self n)
    rw [Function.iterate_succ_apply', ih fun i hi => h i (by omega), shiftXor, hbit]
    simp [BitVec.shiftRight_add]

/-- The mask of the low byte. -/
theorem getLsbD_lowByte (i : ℕ) :
    (BitVec.ofNat w 0xff).getLsbD i = (decide (i < w) && decide (i < 8)) := by
  rw [BitVec.getLsbD_ofNat, show (0xff : ℕ) = 2 ^ 8 - 1 from rfl, Nat.testBit_two_pow_sub_one]

/-- A byte is worth a shift by eight and one lookup, in the table of what becomes of a register
that holds a single byte. -/
theorem addByte_eq_table (poly crc : BitVec w) (b : BitVec 8) :
    addByte poly crc b =
      (crc >>> 8) ^^^ (shiftXor poly)^[8] ((crc ^^^ b.setWidth w) &&& BitVec.ofNat w 0xff) := by
  have hsplit : crc ^^^ b.setWidth w =
      ((crc ^^^ b.setWidth w) &&& ~~~BitVec.ofNat w 0xff) ^^^
        ((crc ^^^ b.setWidth w) &&& BitVec.ofNat w 0xff) := by
    refine BitVec.eq_of_getLsbD_eq fun i hi => ?_
    simp only [BitVec.getLsbD_xor, BitVec.getLsbD_and, BitVec.getLsbD_not, getLsbD_lowByte, hi]
    by_cases h8 : i < 8 <;> simp [h8]
  have hclear : ∀ i < 8,
      ((crc ^^^ b.setWidth w) &&& ~~~BitVec.ofNat w 0xff).getLsbD i = false := by
    intro i hi
    rw [BitVec.getLsbD_and, BitVec.getLsbD_not, getLsbD_lowByte]
    by_cases hw : i < w <;> simp [hw, hi]
  have hhigh : ((crc ^^^ b.setWidth w) &&& ~~~BitVec.ofNat w 0xff) >>> 8 = crc >>> 8 := by
    refine BitVec.eq_of_getLsbD_eq fun i hi => ?_
    simp only [BitVec.getLsbD_ushiftRight, BitVec.getLsbD_and, BitVec.getLsbD_xor,
      BitVec.getLsbD_not, getLsbD_lowByte, BitVec.getLsbD_setWidth,
      BitVec.getLsbD_of_ge b (8 + i) (by omega)]
    by_cases hw : 8 + i < w
    · simp [hw]
    · simp [hw, BitVec.getLsbD_of_ge crc (8 + i) (by omega)]
  unfold addByte
  conv_lhs => rw [hsplit]
  rw [iterate_shiftXor_xor, iterate_shiftXor_of_low_clear poly hclear, hhigh]

/-! ### Parts -/

theorem update_add (poly crc : BitVec w) (buffer : ℕ → BitVec 8) (m n : ℕ) :
    update poly crc buffer (m + n) =
      update poly (update poly crc buffer m) (fun i => buffer (m + i)) n := by
  induction n with
  | zero => rfl
  | succ n ih => rw [← Nat.add_assoc, update, update, ih]

/-! ### Changes of one byte -/

/-- If the pattern has its high bit, then a step loses nothing. -/
theorem shiftXor_injective {poly : BitVec w} (h : poly.getLsbD (w - 1) = true) :
    Function.Injective (shiftXor poly) := by
  have hw : w - 1 < w := BitVec.lt_of_getLsbD h
  -- the high bit of the result tells which bit was shifted out
  have hout (c : BitVec w) : (shiftXor poly c).getLsbD (w - 1) = c.getLsbD 0 := by
    have hshift : (c >>> 1).getLsbD (w - 1) = false := by
      rw [BitVec.getLsbD_ushiftRight]
      exact BitVec.getLsbD_of_ge c _ (by omega)
    unfold shiftXor
    cases hc : c.getLsbD 0
    · simpa using hshift
    · simp [hshift, h]
  intro a b hab
  have hlow : a.getLsbD 0 = b.getLsbD 0 := by rw [← hout, ← hout, hab]
  have hrest : a >>> 1 = b >>> 1 := by
    unfold shiftXor at hab
    rw [hlow] at hab
    cases hb : b.getLsbD 0
    · simpa [hb] using hab
    · simpa [hb] using hab
  refine BitVec.eq_of_getLsbD_eq fun i _ => ?_
  cases i with
  | zero => exact hlow
  | succ i =>
    have hi := congrArg (·.getLsbD i) hrest
    simpa [Nat.add_comm 1 i] using hi

/-- A register of at least a byte tells two bytes apart. -/
theorem addByte_ne {poly : BitVec w} (h : poly.getLsbD (w - 1) = true) (hw : 8 ≤ w)
    (crc : BitVec w) {b b' : BitVec 8} (hb : b ≠ b') : addByte poly crc b ≠ addByte poly crc b' := by
  intro heq
  have hreg := (shiftXor_injective h).iterate 8 heq
  have hset : b.setWidth w = b'.setWidth w := BitVec.xor_right_inj _ |>.1 hreg
  refine hb (BitVec.eq_of_getLsbD_eq fun i hi => ?_)
  have hbit := congrArg (·.getLsbD i) hset
  simpa [BitVec.getLsbD_setWidth, show i < w by omega] using hbit

/-- The bytes that follow keep two registers apart. -/
theorem update_injective {poly : BitVec w} (h : poly.getLsbD (w - 1) = true)
    (buffer : ℕ → BitVec 8) (n : ℕ) : Function.Injective fun crc => update poly crc buffer n := by
  induction n with
  | zero => exact fun _ _ hab => hab
  | succ n ih =>
    intro a b hab
    have hreg := (shiftXor_injective h).iterate 8 hab
    exact ih (BitVec.xor_left_inj _ |>.1 hreg)

/-- The register depends only on the bytes it runs over. -/
theorem update_congr {poly crc : BitVec w} {b b' : ℕ → BitVec 8} {n : ℕ}
    (h : ∀ i < n, b i = b' i) : update poly crc b n = update poly crc b' n := by
  induction n with
  | zero => rfl
  | succ n ih => rw [update, update, ih fun i hi => h i (by omega), h n (by omega)]

/-- A change of one byte of the message, whichever of its bits it changes, changes the
register. -/
theorem update_ne_update {poly : BitVec w} (h : poly.getLsbD (w - 1) = true) (hw : 8 ≤ w)
    (crc : BitVec w) {b b' : ℕ → BitVec 8} {n k : ℕ} (hk : k < n) (hne : b k ≠ b' k)
    (hsame : ∀ i < n, i ≠ k → b i = b' i) : update poly crc b n ≠ update poly crc b' n := by
  obtain ⟨m, rfl⟩ : ∃ m, n = k + 1 + m := ⟨n - (k + 1), by omega⟩
  have hbefore : update poly crc b k = update poly crc b' k :=
    update_congr fun i hi => hsame i (by omega) (by omega)
  have hafter (c : BitVec w) : update poly c (fun i => b (k + 1 + i)) m =
      update poly c (fun i => b' (k + 1 + i)) m :=
    update_congr fun i hi => hsame (k + 1 + i) (by omega) (by omega)
  rw [update_add poly crc b (k + 1) m, update_add poly crc b' (k + 1) m, hafter]
  refine (update_injective h _ m).ne ?_
  rw [update, update, hbefore]
  exact addByte_ne h hw _ hne

end Register

/-! ### Polynomials -/

section Polynomials

open Finset

variable {R : Type*} [CommRing R] {w : ℕ}

/-- The value at `x` of a bit vector read as a polynomial, the high bit being the constant
coefficient. -/
def value (x : R) (c : BitVec w) : R :=
  ∑ i ∈ range w, if c.getLsbD i then x ^ (w - 1 - i) else 0

/-- The value at `x` of the first `n` bytes of a buffer, read as one polynomial. -/
def message (x : R) (buffer : ℕ → BitVec 8) (n : ℕ) : R :=
  ∑ i ∈ range n, x ^ (8 * (n - 1 - i)) * value x (buffer i)

section Map

variable {S : Type*} [CommRing S] (φ : R →+* S) (x : R)

@[simp] theorem map_value (c : BitVec w) : φ (value x c) = value (φ x) c := by
  simp only [value, map_sum, apply_ite φ, map_pow, map_zero]

@[simp] theorem map_message (buffer : ℕ → BitVec 8) (n : ℕ) :
    φ (message x buffer n) = message (φ x) buffer n := by
  simp only [message, map_sum, map_mul, map_pow, map_value]

end Map

/-- A shift to the right is a multiplication by `x`, apart from the bit that is shifted out. -/
theorem mul_value (x : R) (c : BitVec w) :
    x * value x c = value x (c >>> 1) + if c.getLsbD 0 then x ^ w else 0 := by
  cases w with
  | zero => simp [value, BitVec.getLsbD_of_ge]
  | succ w =>
    have hlast : c.getLsbD (1 + w) = false := BitVec.getLsbD_of_ge c _ (by omega)
    unfold value
    rw [sum_range_succ', sum_range_succ _ w, mul_add, mul_sum]
    simp only [BitVec.getLsbD_ushiftRight, hlast, Bool.false_eq_true, if_false, add_zero,
      Nat.add_sub_cancel, Nat.sub_zero, mul_ite, mul_zero, ← pow_succ']
    congr 1
    refine sum_congr rfl fun i hi => ?_
    have hlt := mem_range.1 hi
    rw [Nat.add_comm i 1, show w - (1 + i) + 1 = w - i by omega]

/-- A byte in a register stands at its high powers. -/
theorem value_setWidth (x : R) (hw : 8 ≤ w) (b : BitVec 8) :
    value x (b.setWidth w) = x ^ (w - 8) * value x b := by
  obtain ⟨k, rfl⟩ : ∃ k, w = 8 + k := ⟨w - 8, by omega⟩
  unfold value
  rw [sum_range_add, mul_sum]
  have hhigh : ∀ i ∈ range k, (if (b.setWidth (8 + k)).getLsbD (8 + i) then
      x ^ (8 + k - 1 - (8 + i)) else 0) = 0 := by
    intro i _
    rw [BitVec.getLsbD_setWidth, BitVec.getLsbD_of_ge b _ (by omega)]
    simp
  rw [sum_eq_zero hhigh, add_zero]
  refine sum_congr rfl fun i hi => ?_
  have hlt := mem_range.1 hi
  rw [BitVec.getLsbD_setWidth, decide_eq_true (show i < 8 + k by omega), Bool.true_and, mul_ite,
    mul_zero, ← pow_add, show 8 + k - 8 + (8 - 1 - i) = 8 + k - 1 - i by omega]

theorem message_succ (x : R) (buffer : ℕ → BitVec 8) (n : ℕ) :
    message x buffer (n + 1) = x ^ 8 * message x buffer n + value x (buffer n) := by
  unfold message
  rw [sum_range_succ, mul_sum]
  congr 1
  · refine sum_congr rfl fun i hi => ?_
    have hlt := mem_range.1 hi
    rw [← mul_assoc, ← pow_add, show 8 * (n + 1 - 1 - i) = 8 + 8 * (n - 1 - i) by omega]
  · simp

variable [CharP R 2]

theorem value_xor (x : R) (a b : BitVec w) :
    value x (a ^^^ b) = value x a + value x b := by
  unfold value
  rw [← sum_add_distrib]
  refine sum_congr rfl fun i _ => ?_
  rw [BitVec.getLsbD_xor]
  cases a.getLsbD i <;> cases b.getLsbD i
  · simp
  · simp
  · simp
  · simp [CharTwo.add_self_eq_zero]

variable {x : R} {poly : BitVec w}

/-- Where `x ^ w` is the pattern, a step multiplies the register by `x`. -/
theorem value_shiftXor (hx : x ^ w = value x poly) (c : BitVec w) :
    value x (shiftXor poly c) = x * value x c := by
  rw [mul_value, hx]
  unfold shiftXor
  cases c.getLsbD 0
  · simp
  · simp [value_xor]

theorem value_iterate_shiftXor (hx : x ^ w = value x poly) (c : BitVec w) (n : ℕ) :
    value x ((shiftXor poly)^[n] c) = x ^ n * value x c := by
  induction n with
  | zero => simp
  | succ n ih =>
    rw [Function.iterate_succ_apply', value_shiftXor hx, ih, pow_succ']
    ring

/-- A byte shifts the register and is added above it. -/
theorem value_addByte (hx : x ^ w = value x poly) (hw : 8 ≤ w) (c : BitVec w) (b : BitVec 8) :
    value x (addByte poly c b) = x ^ 8 * value x c + x ^ w * value x b := by
  unfold addByte
  rw [value_iterate_shiftXor hx, value_xor, value_setWidth x hw, mul_add, ← mul_assoc, ← pow_add,
    show 8 + (w - 8) = w by omega]

/-- The register holds the initial one, shifted by the message, plus the message shifted by the
register. -/
theorem value_update (hx : x ^ w = value x poly) (hw : 8 ≤ w) (c : BitVec w)
    (buffer : ℕ → BitVec 8) (n : ℕ) :
    value x (update poly c buffer n) = x ^ (8 * n) * value x c + x ^ w * message x buffer n := by
  induction n with
  | zero => simp [update, message]
  | succ n ih =>
    rw [update, value_addByte hx hw, ih, message_succ]
    ring

end Polynomials

section Remainder

open Polynomial

variable {w : ℕ}

/-- The polynomial of a pattern. -/
noncomputable def generator (poly : BitVec w) : (ZMod 2)[X] := X ^ w + value X poly

theorem degree_value_lt (c : BitVec w) : (value X c : (ZMod 2)[X]).degree < w := by
  refine (degree_sum_le _ _).trans_lt ((Finset.sup_lt_iff (WithBot.bot_lt_coe w)).2 fun i hi => ?_)
  have hlt := Finset.mem_range.1 hi
  split_ifs
  · rw [degree_X_pow]
    exact WithBot.coe_lt_coe.2 (by omega : w - 1 - i < w)
  · simp

theorem monic_generator (poly : BitVec w) : (generator poly).Monic :=
  monic_X_pow_add (degree_value_lt poly)

theorem degree_generator (poly : BitVec w) : (generator poly).degree = w := by
  have hlt : (value X poly : (ZMod 2)[X]).degree < (X ^ w : (ZMod 2)[X]).degree := by
    rw [degree_X_pow]
    exact degree_value_lt poly
  rw [generator, degree_add_eq_left_of_degree_lt hlt, degree_X_pow]

/-- **The register is the remainder** of the initial register and the message, both shifted,
modulo the polynomial of the pattern. -/
theorem update_eq_modByMonic (poly c : BitVec w) (hw : 8 ≤ w) (buffer : ℕ → BitVec 8) (n : ℕ) :
    value X (update poly c buffer n) =
      (X ^ (8 * n) * value X c + X ^ w * message X buffer n) %ₘ generator poly := by
  have hdegree : (generator poly).degree ≠ 0 := by
    rw [degree_generator, Nat.cast_ne_zero]
    omega
  have : Nontrivial (AdjoinRoot (generator poly)) := AdjoinRoot.nontrivial _ hdegree
  have : CharP (AdjoinRoot (generator poly)) 2 :=
    charP_of_injective_algebraMap (algebraMap (ZMod 2) _).injective 2
  -- modulo the polynomial the shifted one is the pattern
  have hroot : AdjoinRoot.mk (generator poly) X ^ w =
      value (AdjoinRoot.mk (generator poly) X) poly := by
    have hzero : AdjoinRoot.mk (generator poly) (X ^ w + value X poly) = 0 := AdjoinRoot.mk_self
    rw [map_add, map_pow, map_value] at hzero
    exact CharTwo.add_eq_zero.1 hzero
  have hdvd : generator poly ∣ value X (update poly c buffer n) -
      (X ^ (8 * n) * value X c + X ^ w * message X buffer n) := by
    rw [← AdjoinRoot.mk_eq_mk, map_value, value_update hroot hw]
    simp only [map_add, map_mul, map_pow, map_value, map_message]
  have hself : value X (update poly c buffer n) %ₘ generator poly =
      value X (update poly c buffer n) := by
    rw [modByMonic_eq_self_iff (monic_generator poly), degree_generator]
    exact degree_value_lt _
  rw [← hself]
  exact modByMonic_eq_of_dvd_sub (monic_generator poly) hdvd

end Remainder

end BitwiseCrc

end Lcm
