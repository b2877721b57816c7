import Mathlib.Data.Rat.Floor
import Mathlib.Tactic.Linarith

/-!
# Conversions to integers

A number is converted to an `int` by leaving out its fraction, if there is an `int` that is left; an
`int` that is kept in fewer bits wraps.

## Main definitions

* `trunc`, `toInt` : a conversion that leaves out the fraction.
* `int16` : what a 16-bit variable keeps of an integer.

## Main results

* `isInt_trunc_iff` : where the conversion is defined.
* `trunc_div_natCast_of_nonneg`, `trunc_sub_intCast` : what is left of a quotient and of a
  difference.
* `exists_eq_int16_add`, `int16_eq` : an integer is what is kept of it, up to a multiple of 65536.
-/

namespace Lcm

namespace Conversions

variable {x : ℚ} {n r : ℤ}

/-- The number without its fraction. -/
def trunc (x : ℚ) : ℤ := if 0 ≤ x then ⌊x⌋ else ⌈x⌉

/-- The integer is an `int`. -/
def IsInt (n : ℤ) : Prop := -2 ^ 31 ≤ n ∧ n < 2 ^ 31

instance (n : ℤ) : Decidable (IsInt n) := inferInstanceAs (Decidable (_ ∧ _))

/-- The conversion to `int`, where it is defined. -/
def toInt (x : ℚ) : Option ℤ := if IsInt (trunc x) then some (trunc x) else none

/-- The conversion to a 16-bit integer. -/
def int16 (n : ℤ) : ℤ := n.bmod (2 ^ 16)

/-! ### Leaving out the fraction -/

theorem trunc_of_nonneg (h : 0 ≤ x) : trunc x = ⌊x⌋ := if_pos h

theorem trunc_of_neg (h : x < 0) : trunc x = ⌈x⌉ := if_neg (not_le.2 h)

@[simp] theorem trunc_intCast (n : ℤ) : trunc n = n := by
  rw [trunc]
  split
  · exact Int.floor_intCast n
  · exact Int.ceil_intCast n

/-- **Where the conversion to `int` is defined.** -/
theorem isInt_trunc_iff : IsInt (trunc x) ↔ -2147483649 < x ∧ x < 2147483648 := by
  rw [IsInt]
  rcases lt_or_ge x 0 with hx | hx
  · have hceil : ⌈x⌉ ≤ 0 := Int.ceil_le.2 (by exact_mod_cast hx.le)
    have hlow : -2 ^ 31 ≤ ⌈x⌉ ↔ -2147483649 < x := by
      rw [Int.le_ceil_iff]
      norm_num
    rw [trunc_of_neg hx, hlow]
    exact and_congr_right fun _ => iff_of_true (by omega) (by linarith)
  · have hfloor : 0 ≤ ⌊x⌋ := Int.floor_nonneg.2 hx
    have hhigh : ⌊x⌋ < 2 ^ 31 ↔ x < 2147483648 := by
      rw [Int.floor_lt]
      norm_num
    rw [trunc_of_nonneg hx, hhigh]
    exact and_congr_left fun _ => iff_of_true (by omega) (by linarith)

/-- What is left of a difference with an integer. -/
theorem trunc_sub_intCast (x : ℚ) (n : ℤ) :
    trunc (x - n) = if n ≤ ⌊x⌋ then ⌊x⌋ - n else ⌈x⌉ - n := by
  rw [trunc, Int.floor_sub_intCast, Int.ceil_sub_intCast]
  exact if_congr (sub_nonneg.trans Int.le_floor.symm) rfl rfl

theorem trunc_div_natCast_of_nonneg (h : 0 ≤ x) (d : ℕ) : trunc (x / d) = ⌊x⌋ / d := by
  rw [trunc_of_nonneg (div_nonneg h (Nat.cast_nonneg d)), Int.floor_div_natCast]

theorem trunc_div_natCast_of_neg (h : x < 0) {d : ℕ} (hd : 0 < d) :
    trunc (x / d) = -(-⌈x⌉ / d) := by
  rw [trunc_of_neg (div_neg_of_neg_of_pos h (Nat.cast_pos.2 hd)), ← Int.floor_neg,
    ← Int.floor_div_natCast, neg_div, Int.floor_neg, neg_neg]

theorem toInt_eq_some_iff : toInt x = some n ↔ trunc x = n ∧ IsInt n := by
  rw [toInt]
  constructor
  · intro h
    split at h
    · rename_i hint
      obtain rfl := Option.some.inj h
      exact ⟨rfl, hint⟩
    · cases h
  · rintro ⟨rfl, hint⟩
    exact if_pos hint

theorem isInt_of_toInt (h : toInt x = some n) : IsInt (trunc x) := by
  obtain ⟨rfl, hint⟩ := toInt_eq_some_iff.1 h
  exact hint

/-! ### Sixteen bits -/

theorem exists_eq_int16_add (n : ℤ) : ∃ a, n = int16 n + 65536 * a :=
  ⟨n.bdiv (2 ^ 16), (Int.bmod_add_bdiv n (2 ^ 16)).symm⟩

theorem int16_eq (a : ℤ) (hlow : -32768 ≤ r) (hhigh : r < 32768) (h : n = r + 65536 * a) :
    int16 n = r := by
  obtain ⟨b, hb⟩ := exists_eq_int16_add n
  have hle : -32768 ≤ int16 n := Int.le_bmod (by decide)
  have hlt : int16 n < 32768 := Int.bmod_lt (by decide)
  omega

theorem int16_le (h : 0 ≤ n) : int16 n ≤ n := by
  obtain ⟨a, ha⟩ := exists_eq_int16_add n
  have hlt : int16 n < 32768 := Int.bmod_lt (by decide)
  omega

end Conversions

end Lcm
