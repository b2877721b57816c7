import Lcm.SanitizerLoop
import Lcm.Memory
import Mathlib.Data.Int.Notation

/-!
# Formatted writing

`snprintf` is given an array, its size, and a text; it writes as much of the text as there is room
for, and a terminator, and returns how long the whole text is.

## Main definitions

* `printed` : what `snprintf` writes.
* `decimal` : what `%d` stands for.

## Main results

* `holdsString_print` : what an array holds when a text is printed behind another.
* `takeChars_of_holdsString` : a string is read from an array that holds it.
-/

namespace Lcm

open SanitizerLoop

variable {m : ℕ → Byte} {s text : List Byte} {size n : ℕ}

/-! ### Numbers -/

/-- The digits of a number, up to as many as given. -/
def digits : ℕ → ℕ → List Byte
  | 0, _ => []
  | k + 1, n => (if n < 10 then [] else digits k (n / 10)) ++ [BitVec.ofNat 8 (48 + n % 10)]

/-- `%d`, of a 32-bit number. -/
def decimal (n : ℤ) : List Byte := (if n < 0 then [45] else []) ++ digits 10 n.natAbs

theorem zero_notMem_digits (k n : ℕ) : 0 ∉ digits k n := by
  induction k generalizing n with
  | zero => exact List.not_mem_nil
  | succ k ih =>
    have hdigit : (0 : Byte) ≠ BitVec.ofNat 8 (48 + n % 10) := by
      intro h
      have h : 0 = (48 + n % 10) % 2 ^ 8 := congrArg BitVec.toNat h
      omega
    rw [digits, List.mem_append, List.mem_singleton, not_or]
    refine ⟨?_, hdigit⟩
    split
    · exact List.not_mem_nil
    · exact ih _

theorem zero_notMem_decimal (n : ℤ) : 0 ∉ decimal n := by
  rw [decimal, List.mem_append, not_or]
  refine ⟨?_, zero_notMem_digits _ _⟩
  split <;> decide

theorem length_digits_le (k n : ℕ) : (digits k n).length ≤ k := by
  induction k generalizing n with
  | zero => exact Nat.le_refl 0
  | succ k ih =>
    rw [digits, List.length_append, List.length_singleton]
    split
    · exact Nat.succ_le_succ (Nat.zero_le k)
    · exact Nat.succ_le_succ (ih _)

theorem length_decimal_le (n : ℤ) : (decimal n).length ≤ 11 := by
  have hdigits := length_digits_le 10 n.natAbs
  have hsign : (if n < 0 then [(45 : Byte)] else []).length ≤ 1 := by split <;> decide
  rw [decimal, List.length_append]
  omega

/-! ### Printing -/

/-- What `snprintf` writes where there is room for so many bytes. -/
def printed (size : ℕ) (text : List Byte) : List Byte :=
  if size = 0 then [] else text.take (size - 1) ++ [0]

theorem length_printed_le (size : ℕ) (text : List Byte) : (printed size text).length ≤ size := by
  unfold printed
  split
  · exact Nat.zero_le _
  · rw [List.length_append, List.length_take, List.length_singleton]
    omega

theorem printed_of_length_lt (h : text.length < size) : printed size text = text ++ [0] := by
  rw [printed, if_neg (by omega), List.take_of_length_le (by omega)]

/-- **A text is printed behind another**, as far as there is room for it. -/
theorem holdsString_print (hnul : 0 ∉ s) (hchars : ∀ i, (h : i < s.length) → m i = s[i])
    (htext : 0 ∉ text) (hsize : 0 < size) :
    HoldsString (writeList m s.length (printed size text)) (s ++ text.take (size - 1)) := by
  have hprinted : printed size text = text.take (size - 1) ++ [0] := if_neg (by omega)
  rw [hprinted]
  have hwritten (i : ℕ) (hi : i < (text.take (size - 1) ++ [0]).length) :=
    writeList_inside m s.length hi
  constructor
  · rw [List.mem_append, not_or]
    exact ⟨hnul, fun h => htext (List.mem_of_mem_take h)⟩
  · intro i hi
    by_cases hold : i < s.length
    · rw [writeList, if_neg (by omega), hchars i hold, List.getElem_append_left hold]
    · rw [List.length_append] at hi
      obtain ⟨k, rfl⟩ : ∃ k, i = s.length + k := ⟨i - s.length, by omega⟩
      rw [hwritten k (by rw [List.length_append]; omega), List.getElem_append_left (by omega),
        List.getElem_append_right (by omega)]
      congr 1
      omega
  · rw [List.length_append, hwritten _ (by rw [List.length_append, List.length_singleton]; omega),
      List.getElem_append_right (Nat.le_refl _)]
    exact List.getElem_singleton ..

/-- A text is stored behind another, with a terminator. -/
theorem holdsString_store (hs : HoldsString m s) (htext : 0 ∉ text) :
    HoldsString (writeList m s.length (text ++ [0])) (s ++ text) := by
  have h := holdsString_print hs.noNul hs.chars htext (Nat.succ_pos text.length)
  rwa [printed_of_length_lt (Nat.lt_succ_self _), Nat.succ_sub_one, List.take_length] at h

/-- What is read of an array is in it, if there is a terminator. -/
theorem holdsString_takeChars (h : (takeChars n m).length < n) :
    HoldsString m (takeChars n m) := by
  induction n generalizing m with
  | zero => exact absurd h (Nat.not_lt_zero _)
  | succ n ih =>
    rw [takeChars] at h ⊢
    split
    · rename_i hfirst
      exact ⟨List.not_mem_nil, fun _ hi => (by cases hi), hfirst⟩
    · rename_i hfirst
      rw [if_neg hfirst, List.length_cons] at h
      have hrest := ih (m := fun i => m (i + 1)) (Nat.lt_of_succ_lt_succ h)
      refine ⟨?_, fun i hi => ?_, hrest.nul⟩
      · rw [List.mem_cons, not_or]
        exact ⟨Ne.symm hfirst, hrest.noNul⟩
      · cases i with
        | zero => rfl
        | succ i => exact hrest.chars i (Nat.lt_of_succ_lt_succ hi)

theorem takeChars_of_holdsString (hs : HoldsString m s) (h : s.length ≤ n) :
    takeChars n m = s := by
  refine takeChars_eq h hs.noNul fun i hi => ?_
  obtain hlt | rfl := Nat.lt_or_eq_of_le hi
  · rw [hs.chars i hlt, List.getD_eq_getElem?_getD, List.getElem?_eq_getElem hlt]
    rfl
  · rw [hs.nul, List.getD_eq_getElem?_getD, List.getElem?_eq_none (Nat.le_refl _)]
    rfl

end Lcm
