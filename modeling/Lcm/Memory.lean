import Mathlib.Data.Nat.Notation
import Mathlib.Logic.Function.Basic

/-!
# Memory

A memory is a function from indices to bytes; one byte is written with `Function.update` and a
list of bytes, one after the other, with `writeList`.

## Main results

* `writeList_cons` : a list is written byte by byte.
* `writeList_inside` : what the memory holds afterwards.
-/

namespace Lcm

variable {α : Type*}

/-- The memory after the bytes of a list are written from index `a` on. -/
def writeList (m : ℕ → α) (a : ℕ) (bs : List α) : ℕ → α := fun i =>
  if a ≤ i then bs[i - a]?.getD (m i) else m i

@[simp] theorem writeList_nil (m : ℕ → α) (a : ℕ) : writeList m a [] = m := by
  funext i; simp [writeList]

/-- Writing a list is writing its head and then its tail. -/
theorem writeList_cons (m : ℕ → α) (a : ℕ) (b : α) (bs : List α) :
    writeList m a (b :: bs) = writeList (Function.update m a b) (a + 1) bs := by
  funext i
  unfold writeList
  rcases Nat.lt_trichotomy i a with hi | hi | hi
  · rw [if_neg (by omega), if_neg (by omega), Function.update_of_ne (by omega)]
  · subst hi
    rw [if_pos (Nat.le_refl i), if_neg (by omega), Nat.sub_self, Function.update_self]
    rfl
  · have hpos : i - a = i - (a + 1) + 1 := by omega
    rw [if_pos (by omega), if_pos (by omega), hpos, List.getElem?_cons_succ,
      Function.update_of_ne (by omega)]

theorem writeList_inside (m : ℕ → α) (a : ℕ) {bs : List α} {i : ℕ} (hi : i < bs.length) :
    writeList m a bs (a + i) = bs[i] := by
  simp [writeList, hi]

/-- Two lists, one behind the other. -/
theorem writeList_append (m : ℕ → α) (a : ℕ) (bs bs' : List α) :
    writeList (writeList m a bs) (a + bs.length) bs' = writeList m a (bs ++ bs') := by
  induction bs generalizing m a with
  | nil => rw [writeList_nil, List.length_nil, Nat.add_zero, List.nil_append]
  | cons b bs ih =>
    have hlength : a + (b :: bs).length = a + 1 + bs.length := by
      rw [List.length_cons]
      omega
    rw [hlength, List.cons_append, writeList_cons, writeList_cons, ih]

end Lcm
