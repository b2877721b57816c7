import Lcm.Zones.Properties

/-!
# Sanitized names

Names that come from outside are sanitized: what is not a letter, a digit or one of five other
characters becomes an underscore, and so does every character of more than one byte.

## Main definitions

* `sanitizeString` : the characters of the function of the source.
* `sanitizedName` : a sanitized name.

## Main results

* `sanitizeString_eq_self` : what has only legal characters stays as it is.
-/

namespace Lcm

/-- `_` -/
def underscore : Byte := 0x5F

/-- The legal characters of `SanitizeString`. -/
def isLegal (c : Byte) : Bool :=
  (0x61 ≤ c && c ≤ 0x7A) || (0x41 ≤ c && c ≤ 0x5A) || (0x30 ≤ c && c ≤ 0x39) ||
    c = 0x2E || c = 0x2D || c = underscore || c = 0x3A || c = 0x20

/-- `SanitizeString`, when `outStringByteLength` bytes are counted. -/
def sanitizeString (sizeofOutString outStringByteLength : ℕ) : List Byte → List Byte
  | [] => []
  | c :: rest =>
    if outStringByteLength + 1 < sizeofOutString then
      if c &&& 0xE0 = 0xC0 then
        match rest with
        | [] => [underscore]
        | _ :: rest => underscore :: sanitizeString sizeofOutString (outStringByteLength + 1) rest
      else if c &&& 0xF0 = 0xE0 then
        match rest with
        | [] | [_] => [underscore]
        | _ :: _ :: rest =>
          underscore :: sanitizeString sizeofOutString (outStringByteLength + 1) rest
      else if c &&& 0xF8 = 0xF0 then
        match rest with
        | [] | [_] | [_, _] => [underscore]
        | _ :: _ :: _ :: rest =>
          underscore :: sanitizeString sizeofOutString (outStringByteLength + 1) rest
      else
        (if isLegal c then c else underscore) ::
          sanitizeString sizeofOutString (outStringByteLength + 1) rest
    else []

theorem sanitizeString_spec (size out : ℕ) (s : List Byte) :
    (sanitizeString size out s).length ≤ size - 1 - out ∧
      ∀ c ∈ sanitizeString size out s, isLegal c = true := by
  have hunderscore : isLegal underscore = true := by decide
  fun_induction sanitizeString size out s <;> grind

/-- What is not empty does not become empty, if there is room for a character. -/
theorem sanitizeString_cons_ne_nil {size out : ℕ} (hroom : out + 1 < size) (c : Byte)
    (rest : List Byte) : sanitizeString size out (c :: rest) ≠ [] := by
  rw [sanitizeString.eq_def]
  dsimp only
  rw [if_pos hroom]
  split_ifs
  · split <;> exact List.cons_ne_nil _ _
  · split <;> exact List.cons_ne_nil _ _
  · split <;> exact List.cons_ne_nil _ _
  · exact List.cons_ne_nil _ _
  · exact List.cons_ne_nil _ _

theorem isLegal_ne_zero {c : Byte} (h : isLegal c = true) : c ≠ 0 := by
  rintro rfl
  exact absurd h (by decide)

/-- A name, sanitized: what `SanitizeJsonStringObject` and `TaskSanitizeString` make of it. -/
def sanitizedName (s : List Byte) : CString maxSizeNameString where
  chars := sanitizeString maxSizeNameString 0 s
  noNul h := isLegal_ne_zero ((sanitizeString_spec maxSizeNameString 0 s).2 0 h) rfl
  fits := Nat.lt_of_le_of_lt (sanitizeString_spec maxSizeNameString 0 s).1 (by decide)

/-- A name is empty if what it is made of is. -/
theorem sanitizedName_chars_eq_nil {s : List Byte} : (sanitizedName s).chars = [] ↔ s = [] := by
  cases s with
  | nil => exact iff_of_true (sanitizeString.eq_def ..) rfl
  | cons c rest =>
    exact iff_of_false (sanitizeString_cons_ne_nil (by decide) c rest) (List.cons_ne_nil _ _)

theorem not_multibyte {c : Byte} (h : isLegal c = true) :
    c &&& 0xE0 ≠ 0xC0 ∧ c &&& 0xF0 ≠ 0xE0 ∧ c &&& 0xF8 ≠ 0xF0 := by
  revert c
  decide +kernel

/-- **What has only legal characters stays as it is**, as far as there is room. -/
theorem sanitizeString_eq_self {size out : ℕ} {s : List Byte} (h : ∀ c ∈ s, isLegal c = true) :
    sanitizeString size out s = s.take (size - 1 - out) := by
  induction s generalizing out with
  | nil => rw [sanitizeString, List.take_nil]
  | cons c s ih =>
    have hc : isLegal c = true := h c List.mem_cons_self
    -- the bytes of longer characters are not legal
    have hascii := not_multibyte hc
    rw [sanitizeString.eq_def]
    dsimp only
    split
    · rename_i hroom
      obtain ⟨k, hk⟩ : ∃ k, size - 1 - out = k + 1 := ⟨size - 1 - out - 1, by omega⟩
      rw [if_neg hascii.1, if_neg hascii.2.1, if_neg hascii.2.2,
        ih fun c hmem => h c (List.mem_cons_of_mem _ hmem), hk, List.take_succ_cons,
        show size - 1 - (out + 1) = k by omega]
    · rename_i hroom
      rw [show size - 1 - out = 0 by omega, List.take_zero]

end Lcm
