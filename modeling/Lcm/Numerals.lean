import Mathlib.Data.List.TakeWhile
import Lcm.Formatted
import Mathlib.Algebra.Group.Nat.Defs

/-!
# Reading decimal numbers

The functions of the C library that read a number skip spaces, take a sign, if there is one, and
then digits, up to the first character that is none.  They differ in what they do when there are no
digits and when the number is too large for its type, so `scan` leaves both to the caller.

## Main definitions

* `scan` : the number at the front of a text, and what is behind it.

## Main results

* `scan_append`, `scan_append_digits` : what may follow a text without being read.
* `scan_decimal` : a number that has been printed is read again.
-/

namespace Lcm

namespace Numerals

variable {x : Byte} {text other : List Byte} {n k : ℕ}

/-- `isspace` -/
def IsSpace (x : Byte) : Prop := x = 0x20 ∨ 0x09 ≤ x ∧ x ≤ 0x0D

instance (x : Byte) : Decidable (IsSpace x) := inferInstanceAs (Decidable (_ ∨ _))

/-- `isdigit` -/
def IsDigit (x : Byte) : Prop := 0x30 ≤ x ∧ x ≤ 0x39

instance (x : Byte) : Decidable (IsDigit x) := inferInstanceAs (Decidable (_ ∧ _))

/-- The number that digits stand for. -/
def value (digits : List Byte) : ℕ := digits.foldl (fun n x => 10 * n + (x.toNat - 0x30)) 0

/-- Whether there is a minus at the front, and what is behind the sign. -/
def sign : List Byte → Bool × List Byte
  | [] => (false, [])
  | x :: text =>
    if x = 0x2D then (true, text) else if x = 0x2B then (false, text) else (false, x :: text)

/-- What has been read. -/
structure Scan where
  /-- There is a minus. -/
  negative : Bool
  /-- The digits. -/
  digits : List Byte
  /-- What is behind them. -/
  rest : List Byte

/-- The number. -/
def Scan.number (s : Scan) : ℤ := if s.negative then -(value s.digits : ℤ) else value s.digits

/-- **The number at the front of a text.** -/
def scan (text : List Byte) : Scan :=
  let (negative, text) := sign (text.dropWhile (IsSpace ·))
  ⟨negative, text.takeWhile (IsDigit ·), text.dropWhile (IsDigit ·)⟩

/-! ### What follows a text -/

theorem scan_of_dropWhile_eq_nil (h : text.dropWhile (IsSpace ·) = []) :
    scan text = ⟨false, [], []⟩ := by
  rw [scan, h]
  rfl

theorem sign_append (h : text ≠ []) :
    sign (text ++ other) = ((sign text).1, (sign text).2 ++ other) := by
  obtain ⟨x, text, rfl⟩ := List.exists_cons_of_ne_nil h
  rw [List.cons_append, sign, sign]
  split
  · rfl
  · split <;> rfl

theorem dropWhile_append_of_ne_nil {p : Byte → Bool} (h : text.dropWhile p ≠ []) :
    (text ++ other).dropWhile p = text.dropWhile p ++ other := by
  rw [List.dropWhile_append, if_neg (by rwa [List.isEmpty_iff])]

/-- What follows the spaces at the front. -/
theorem scan_append_eq (h : text.dropWhile (IsSpace ·) ≠ []) :
    scan (text ++ other) =
      let (negative, text) := sign (text.dropWhile (IsSpace ·))
      ⟨negative, (text ++ other).takeWhile (IsDigit ·), (text ++ other).dropWhile (IsDigit ·)⟩ := by
  rw [scan, dropWhile_append_of_ne_nil h, sign_append h]

/-- **A number that is ended** is not read further. -/
theorem scan_append (h : (scan text).rest ≠ []) (other : List Byte) :
    scan (text ++ other) = { scan text with rest := (scan text).rest ++ other } := by
  have hne : text.dropWhile (IsSpace ·) ≠ [] := by
    intro hnil
    rw [scan_of_dropWhile_eq_nil hnil] at h
    exact h rfl
  rw [scan_append_eq hne, scan]
  rw [scan] at h
  generalize sign (text.dropWhile (IsSpace ·)) = signed at h
  obtain ⟨negative, text⟩ := signed
  have hrest : text.dropWhile (IsDigit ·) ≠ [] := h
  have hlength : (text.takeWhile (IsDigit ·)).length ≠ text.length := by
    intro hall
    have htake := List.takeWhile_append_dropWhile (p := (IsDigit ·)) (l := text)
    have hsum := congrArg List.length htake
    rw [List.length_append, hall, Nat.add_eq_left, List.length_eq_zero_iff] at hsum
    exact hrest hsum
  dsimp only
  rw [dropWhile_append_of_ne_nil hrest, List.takeWhile_append, if_neg hlength]

theorem IsDigit.not_space (h : IsDigit x) : ¬ IsSpace x := by
  rintro (rfl | ⟨-, h'⟩)
  · exact absurd h (by decide)
  · exact absurd (BitVec.le_trans h.1 h') (by decide)

/-- A text that begins with a digit is read from there. -/
theorem scan_cons_of_isDigit (h : IsDigit x) (text : List Byte) :
    scan (x :: text) =
      ⟨false, (x :: text).takeWhile (IsDigit ·), (x :: text).dropWhile (IsDigit ·)⟩ := by
  have hspace : ¬ decide (IsSpace x) = true := mt of_decide_eq_true h.not_space
  have hminus : x ≠ 0x2D := fun heq => absurd (heq ▸ h) (by decide)
  have hplus : x ≠ 0x2B := fun heq => absurd (heq ▸ h) (by decide)
  rw [scan, List.dropWhile_cons_of_neg (p := (IsSpace ·)) hspace, sign, if_neg hminus, if_neg hplus]

/-- **A number that is not ended** goes on in the digits that follow. -/
theorem scan_append_digits (h : (scan text).rest = []) (hdigits : ∀ x ∈ other, IsDigit x) :
    (scan (text ++ other)).rest = [] := by
  have hother : other.dropWhile (IsDigit ·) = [] :=
    List.dropWhile_eq_nil_iff.2 fun x hx => decide_eq_true (hdigits x hx)
  by_cases hnil : text.dropWhile (IsSpace ·) = []
  · have hscan : scan (text ++ other) = scan other := by
      rw [scan, scan, List.dropWhile_append, hnil]
      rfl
    rw [hscan]
    cases other with
    | nil => rfl
    | cons x other =>
      rw [scan_cons_of_isDigit (hdigits x List.mem_cons_self)]
      exact hother
  · rw [scan_append_eq hnil]
    rw [scan] at h
    generalize sign (text.dropWhile (IsSpace ·)) = signed at h
    obtain ⟨negative, text⟩ := signed
    have hrest : text.dropWhile (IsDigit ·) = [] := h
    dsimp only
    rw [List.dropWhile_append, hrest, hother]
    rfl

/-! ### Numbers that have been printed -/

theorem toNat_digit (n : ℕ) : (BitVec.ofNat 8 (48 + n % 10)).toNat = 48 + n % 10 := by
  rw [BitVec.toNat_ofNat]
  omega

theorem isDigit_digit (n : ℕ) : IsDigit (BitVec.ofNat 8 (48 + n % 10)) := by
  have hn := toNat_digit n
  refine ⟨BitVec.le_def.2 ?_, BitVec.le_def.2 ?_⟩
  · rw [hn]
    exact Nat.le_add_right _ _
  · rw [hn]
    show _ ≤ 57
    omega

theorem isDigit_of_mem_digits (hx : x ∈ digits k n) : IsDigit x := by
  induction k generalizing n with
  | zero => exact absurd hx List.not_mem_nil
  | succ k ih =>
    rw [digits, List.mem_append, List.mem_singleton] at hx
    obtain hx | rfl := hx
    · split at hx
      · exact absurd hx List.not_mem_nil
      · exact ih hx
    · exact isDigit_digit n

theorem isDigit_of_mem_decimal {m : ℤ} (hx : x ∈ decimal m) : x = 0x2D ∨ IsDigit x := by
  rw [decimal, List.mem_append] at hx
  obtain hx | hx := hx
  · split at hx
    · exact .inl (List.mem_singleton.1 hx)
    · exact absurd hx List.not_mem_nil
  · exact .inr (isDigit_of_mem_digits hx)

theorem value_append_singleton (text : List Byte) (x : Byte) :
    value (text ++ [x]) = 10 * value text + (x.toNat - 0x30) := by
  rw [value, List.foldl_append]
  rfl

theorem value_digits (h : n < 10 ^ k) : value (digits k n) = n := by
  induction k generalizing n with
  | zero =>
    have hzero : n = 0 := Nat.lt_one_iff.1 h
    rw [hzero]
    rfl
  | succ k ih =>
    have hlast : (BitVec.ofNat 8 (48 + n % 10)).toNat - 0x30 = n % 10 := by
      rw [toNat_digit]
      omega
    rw [digits, value_append_singleton, hlast]
    split
    · show 10 * 0 + _ = _
      omega
    · rw [ih (by rw [Nat.pow_succ] at h; omega)]
      omega

theorem digits_ne_nil (n k : ℕ) : digits (k + 1) n ≠ [] := by
  rw [digits]
  exact List.append_ne_nil_of_right_ne_nil _ (List.cons_ne_nil _ _)

theorem takeWhile_digits_append (hother : ∀ x ∈ other.head?, ¬ IsDigit x) :
    (digits k n ++ other).takeWhile (IsDigit ·) = digits k n ∧
      (digits k n ++ other).dropWhile (IsDigit ·) = other := by
  have hall : ∀ x ∈ digits k n, decide (IsDigit x) = true := fun x hx =>
    decide_eq_true (isDigit_of_mem_digits hx)
  rw [List.takeWhile_append_of_pos hall, List.dropWhile_append_of_pos hall]
  cases other with
  | nil => exact ⟨List.append_nil _, rfl⟩
  | cons x other =>
    have hx : ¬ IsDigit x := hother x rfl
    have hneg : ¬ decide (IsDigit x) = true := mt of_decide_eq_true hx
    rw [List.takeWhile_cons_of_neg (p := (IsDigit ·)) hneg,
      List.dropWhile_cons_of_neg (p := (IsDigit ·)) hneg]
    exact ⟨List.append_nil _, rfl⟩

/-- **A number with its sign** is read again, if what follows it does not begin with a digit. -/
theorem scan_signed {m : ℤ} (hm : m.natAbs < 10 ^ (k + 1))
    (hother : ∀ x ∈ other.head?, ¬ IsDigit x) :
    let text := (if m < 0 then [45] else []) ++ digits (k + 1) m.natAbs
    (scan (text ++ other)).number = m ∧ (scan (text ++ other)).rest = other ∧
      (scan (text ++ other)).digits ≠ [] := by
  obtain ⟨htake, hdrop⟩ := takeWhile_digits_append (k := k + 1) (n := m.natAbs) hother
  have hvalue := value_digits hm
  dsimp only
  split
  · rename_i hneg
    have hscan : scan ([45] ++ digits (k + 1) m.natAbs ++ other) =
        ⟨true, (digits (k + 1) m.natAbs ++ other).takeWhile (IsDigit ·),
          (digits (k + 1) m.natAbs ++ other).dropWhile (IsDigit ·)⟩ := rfl
    rw [hscan, htake, hdrop]
    refine ⟨?_, rfl, digits_ne_nil m.natAbs k⟩
    rw [Scan.number, if_pos rfl, hvalue]
    omega
  · rename_i hpos
    obtain ⟨x, rest, hcons⟩ := List.exists_cons_of_ne_nil (digits_ne_nil m.natAbs k)
    have hx : IsDigit x := isDigit_of_mem_digits (hcons ▸ List.mem_cons_self)
    have hscan : scan (digits (k + 1) m.natAbs ++ other) =
        ⟨false, (digits (k + 1) m.natAbs ++ other).takeWhile (IsDigit ·),
          (digits (k + 1) m.natAbs ++ other).dropWhile (IsDigit ·)⟩ := by
      rw [hcons, List.cons_append]
      exact scan_cons_of_isDigit hx _
    rw [List.nil_append, hscan, htake, hdrop]
    refine ⟨?_, rfl, digits_ne_nil m.natAbs k⟩
    show (value _ : ℤ) = m
    rw [hvalue]
    omega

/-- **A printed number** is read again, if what follows it does not begin with a digit. -/
theorem scan_decimal {m : ℤ} (hm : m.natAbs < 10 ^ 10) (hother : ∀ x ∈ other.head?, ¬ IsDigit x) :
    (scan (decimal m ++ other)).number = m ∧ (scan (decimal m ++ other)).rest = other ∧
      (scan (decimal m ++ other)).digits ≠ [] :=
  scan_signed hm hother

end Numerals

end Lcm
