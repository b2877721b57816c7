import Lcm.Crc
import Mathlib.Data.List.Basic

/-!
# C strings in fixed-size arrays

A `CString size` is what a `char [size]` array holds when it is a well-formed C string: at most
`size - 1` characters before the terminator, none of them NUL.  Two such strings are equal
exactly when `strcmp` says so, which is how the source compares them.

## Main definitions

* `CString.bytes`, `CString.ofBytes` : the array of a string, and the string in an array.
* `snprintf`, `strncmpEq` : the functions of the C library that the source calls.

## Main results

* `CString.ofBytes_of_bytes` : a string is read from an array that begins with its bytes.
* `CString.eq_bytes_of_strncmpEq` : what compares equal to a string begins with its bytes.
-/

namespace Lcm

/-- A C string that fits a `char [size]` array with its terminator. -/
@[ext] structure CString (size : ℕ) where
  /-- The characters before the terminator. -/
  chars : List Byte
  /-- No character is the terminator. -/
  noNul : 0 ∉ chars
  /-- The terminator fits. -/
  fits : chars.length < size
  deriving DecidableEq

/-- `strncmp(s, t, n) == 0` -/
def strncmpEq : ℕ → (ℕ → Byte) → (ℕ → Byte) → Bool
  | 0, _, _ => true
  | n + 1, s, t => s 0 = t 0 && (s 0 = 0 || strncmpEq n (fun i => s (i + 1)) fun i => t (i + 1))

theorem strncmpEq_iff {n : ℕ} {s t : ℕ → Byte} :
    strncmpEq n s t = true ↔ ∀ i < n, (∀ j < i, s j ≠ 0) → s i = t i := by
  induction n generalizing s t with
  | zero => exact iff_of_true rfl fun i hi => absurd hi (Nat.not_lt_zero i)
  | succ n ih =>
    simp only [strncmpEq, Bool.and_eq_true, Bool.or_eq_true, decide_eq_true_eq, ih]
    constructor
    · rintro ⟨hfirst, hrest⟩ i hi hbefore
      cases i with
      | zero => exact hfirst
      | succ i =>
        refine hrest.resolve_left (hbefore 0 (Nat.succ_pos i)) i (by omega) fun j hj => ?_
        exact hbefore (j + 1) (by omega)
    · intro h
      refine ⟨h 0 (Nat.succ_pos n) fun j hj => absurd hj (Nat.not_lt_zero j), ?_⟩
      refine (Classical.em (s 0 = 0)).imp_right fun hfirst i hi hbefore => ?_
      refine h (i + 1) (by omega) fun j hj => ?_
      cases j with
      | zero => exact hfirst
      | succ j => exact hbefore j (by omega)

/-- The characters of an array before the first NUL, `n` at most. -/
def takeChars : ℕ → (ℕ → Byte) → List Byte
  | 0, _ => []
  | n + 1, b => if b 0 = 0 then [] else b 0 :: takeChars n fun i => b (i + 1)

theorem zero_notMem_takeChars {n : ℕ} {b : ℕ → Byte} : 0 ∉ takeChars n b := by
  induction n generalizing b with
  | zero => exact List.not_mem_nil
  | succ n ih =>
    rw [takeChars]
    split
    · exact List.not_mem_nil
    · rename_i hfirst
      exact fun hmem => (List.mem_cons.1 hmem).elim (fun h => hfirst h.symm) ih

theorem length_takeChars_le {n : ℕ} {b : ℕ → Byte} : (takeChars n b).length ≤ n := by
  induction n generalizing b with
  | zero => exact Nat.le_refl 0
  | succ n ih =>
    rw [takeChars]
    split
    · exact Nat.zero_le _
    · exact Nat.succ_le_succ ih

theorem takeChars_congr {n : ℕ} {b b' : ℕ → Byte} (h : ∀ i < n, b i = b' i) :
    takeChars n b = takeChars n b' := by
  induction n generalizing b b' with
  | zero => rfl
  | succ n ih =>
    rw [takeChars, takeChars, h 0 (Nat.succ_pos n),
      ih (b := fun i => b (i + 1)) fun i hi => h (i + 1) (by omega)]

theorem takeChars_eq {n : ℕ} {b : ℕ → Byte} {l : List Byte} (hlength : l.length ≤ n)
    (hnul : 0 ∉ l) (h : ∀ i ≤ l.length, b i = l.getD i 0) : takeChars n b = l := by
  induction l generalizing n b with
  | nil =>
    cases n with
    | zero => rfl
    | succ n => exact if_pos (h 0 (Nat.le_refl 0))
  | cons c l ih =>
    obtain ⟨n, rfl⟩ : ∃ k, n = k + 1 := ⟨n - 1, by rw [List.length_cons] at hlength; omega⟩
    have hfirst : b 0 = c := h 0 (Nat.zero_le _)
    have hne : c ≠ 0 := fun hc => hnul (hc ▸ List.mem_cons_self)
    rw [takeChars, hfirst, if_neg hne, ih (Nat.le_of_succ_le_succ hlength)
      (fun hmem => hnul (List.mem_cons_of_mem c hmem)) fun i hi => h (i + 1) (Nat.succ_le_succ hi)]

namespace CString

variable {size : ℕ}

/-- The empty string. -/
def empty {size : ℕ} (h : 0 < size) : CString size := ⟨[], by simp, h⟩

/-- A string in an array; what lies behind the terminator is not looked at. -/
def bytes (s : CString size) (i : ℕ) : Byte := s.chars.getD i 0

/-- `snprintf(array, size, "%s", bytes)` for a fresh array -/
def ofBytes (h : 0 < size) (bytes : ℕ → Byte) : CString size where
  chars := takeChars (size - 1) bytes
  noNul := zero_notMem_takeChars
  fits := Nat.lt_of_le_of_lt length_takeChars_le (Nat.sub_lt h Nat.one_pos)

/-- `snprintf(array, size, "%s", s)` -/
def snprintf (array : ℕ → Byte) (s : CString size) : ℕ → Byte := fun i =>
  if i ≤ s.chars.length then s.bytes i else array i

@[simp] theorem bytes_length (s : CString size) : s.bytes s.chars.length = 0 := by simp [bytes]

theorem bytes_ne_zero (s : CString size) {i : ℕ} (hi : i < s.chars.length) : s.bytes i ≠ 0 := by
  have hget : s.bytes i = s.chars[i] := by simp [bytes, hi]
  rw [hget]
  exact fun h => s.noNul (h ▸ List.getElem_mem hi)

theorem snprintf_bytes (array : ℕ → Byte) (s : CString size) {i : ℕ} (hi : i ≤ s.chars.length) :
    snprintf array s i = s.bytes i := if_pos hi

theorem ofBytes_congr (h : 0 < size) {b b' : ℕ → Byte} (hb : ∀ i < size, b i = b' i) :
    ofBytes h b = ofBytes h b' :=
  CString.ext (takeChars_congr fun i hi => hb i (by omega))

/-- **A string is read** from an array that begins with its bytes. -/
theorem ofBytes_of_bytes (h : 0 < size) {b : ℕ → Byte} {s : CString size}
    (hb : ∀ i ≤ s.chars.length, b i = s.bytes i) : ofBytes h b = s :=
  CString.ext (takeChars_eq (by have := s.fits; omega) s.noNul hb)

/-- **What compares equal to a string** begins with its bytes. -/
theorem eq_bytes_of_strncmpEq {b : ℕ → Byte} {s : CString size}
    (h : strncmpEq size s.bytes b = true) : ∀ i ≤ s.chars.length, b i = s.bytes i := by
  intro i hi
  have hfits := s.fits
  refine (strncmpEq_iff.1 h i (by omega) fun j hj => ?_).symm
  exact s.bytes_ne_zero (by omega)

theorem exists_zero_of_strncmpEq {b : ℕ → Byte} {s : CString size}
    (h : strncmpEq size s.bytes b = true) : ∃ i < size, b i = 0 :=
  ⟨s.chars.length, s.fits, (eq_bytes_of_strncmpEq h _ (Nat.le_refl _)).trans s.bytes_length⟩

end CString

end Lcm
