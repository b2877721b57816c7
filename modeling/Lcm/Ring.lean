import Mathlib.Data.List.Basic
import Mathlib.Data.List.Range
import Mathlib.Data.Nat.ModEq
import Mathlib.Data.Nat.Notation
import Mathlib.Logic.Function.Basic

/-!
# Rings

A ring is an array of `n` entries that is walked over with the indices modulo `n`.  Its items are
`k` entries from a read index on.

## Main definitions

* `Ring.items` : the items.
* `Ring.used` : how many there are between a read and a write index, less than `n` as they tell a
  full ring from an empty one.

## Main results

* `Ring.items_succ` : the first item is at the read index, the others are behind it.
* `Ring.items_push` : an entry at the write index is the last item, as long as there are less than
  `n`.
* `Ring.used_full` : the `n`-th item makes the ring empty.
-/

namespace Lcm

namespace Ring

variable {α : Type*} {n r w k : ℕ}

/-- The `k` items from index `r` on. -/
def items (n : ℕ) (a : ℕ → α) (r k : ℕ) : List α := (List.range k).map fun i => a ((r + i) % n)

/-- The number of items between a read and a write index. -/
def used (n r w : ℕ) : ℕ := (w + n - r) % n

@[simp] theorem items_zero (n : ℕ) (a : ℕ → α) (r : ℕ) : items n a r 0 = [] := rfl

@[simp] theorem length_items (n : ℕ) (a : ℕ → α) (r k : ℕ) : (items n a r k).length = k := by
  simp [items]

/-- **The first item is at the read index**, the others are behind it. -/
theorem items_succ (a : ℕ → α) (hr : r < n) :
    items n a r (k + 1) = a r :: items n a ((r + 1) % n) k := by
  rw [items, items, List.range_succ_eq_map, List.map_cons, List.map_map, Nat.add_zero,
    Nat.mod_eq_of_lt hr]
  congr 1
  refine List.map_congr_left fun i _ => ?_
  rw [Function.comp_apply, Nat.mod_add_mod, Nat.add_right_comm, Nat.add_assoc]

/-- The entry behind the items is none of them, as long as there are less than `n`. -/
theorem add_mod_ne {i : ℕ} (hi : i < k) (hk : k < n) : (r + i) % n ≠ (r + k) % n := by
  intro h
  have hmod : i % n = k % n := Nat.ModEq.add_left_cancel' r h
  rw [Nat.mod_eq_of_lt (Nat.lt_trans hi hk), Nat.mod_eq_of_lt hk] at hmod
  exact Nat.ne_of_lt hi hmod

/-- **An entry behind the items becomes the last of them.** -/
theorem items_push (a : ℕ → α) (x : α) (hk : k < n) :
    items n (Function.update a ((r + k) % n) x) r (k + 1) = items n a r k ++ [x] := by
  rw [items, items, List.range_succ, List.map_append, List.map_singleton, Function.update_self]
  congr 1
  refine List.map_congr_left fun i hi => Function.update_of_ne ?_ _ _
  exact add_mod_ne (List.mem_range.1 hi) hk

theorem used_lt (hn : 0 < n) : used n r w < n := Nat.mod_lt _ hn

/-- The write index is behind the items. -/
theorem add_used (hr : r < n) (hw : w < n) : (r + used n r w) % n = w := by
  rw [used, Nat.add_mod_mod, show r + (w + n - r) = w + n by omega, Nat.add_mod_right,
    Nat.mod_eq_of_lt hw]

/-- What has as many items between the indices has them behind the read index. -/
theorem used_add_mod (hr : r < n) (hk : k < n) : used n r ((r + k) % n) = k := by
  unfold used
  by_cases h : r + k < n
  · rw [Nat.mod_eq_of_lt h, show r + k + n - r = k + n by omega, Nat.add_mod_right,
      Nat.mod_eq_of_lt hk]
  · have hwrap : (r + k) % n = r + k - n := by
      rw [Nat.mod_eq_sub_mod (by omega), Nat.mod_eq_of_lt (by omega)]
    rw [hwrap, show r + k - n + n - r = k by omega, Nat.mod_eq_of_lt hk]

/-- Each item that is left behind is one less. -/
theorem used_advance {j : ℕ} (hr : r < n) (hw : w < n) (hj : j ≤ used n r w) :
    used n ((r + j) % n) w = used n r w - j := by
  have hn : 0 < n := Nat.lt_of_le_of_lt (Nat.zero_le r) hr
  have hlt : used n r w - j < n := Nat.lt_of_le_of_lt (Nat.sub_le _ _) (used_lt hn)
  have hback : ((r + j) % n + (used n r w - j)) % n = w := by
    rw [Nat.mod_add_mod, show r + j + (used n r w - j) = r + used n r w by omega, add_used hr hw]
  rw [← used_add_mod (Nat.mod_lt (r + j) hn) hlt, hback]

/-- One more, as long as the ring does not become full. -/
theorem used_succ (hr : r < n) (hw : w < n) (hroom : used n r w + 1 < n) :
    used n r ((w + 1) % n) = used n r w + 1 := by
  have hback : (r + (used n r w + 1)) % n = (w + 1) % n := by
    rw [← Nat.add_assoc, Nat.add_mod, add_used hr hw, ← Nat.add_mod_mod]
    simp
  rw [← hback, used_add_mod hr hroom]

/-- **A ring that becomes full is empty**: its indices are equal. -/
theorem used_full (hr : r < n) (hw : w < n) (hfull : used n r w + 1 = n) :
    used n r ((w + 1) % n) = 0 := by
  have hback : (w + 1) % n = r := by
    rw [← add_used hr hw, Nat.mod_add_mod, Nat.add_assoc, hfull, Nat.add_mod_right,
      Nat.mod_eq_of_lt hr]
  rw [hback, used, Nat.add_sub_cancel_left, Nat.mod_self]

end Ring

end Lcm
