import Lcm.Crc
import Mathlib.Logic.Function.Basic
import Mathlib.Tactic.SplitIfs

/-!
# Flash memory

Erasing a range of flash sets all its bits; programming it can only clear bits.  Bytes that are
programmed are given by a function from offsets to bytes, so that a range is programmed at once
with the bytes of a structure in RAM, of another range of flash, or of a list.

## Main results

* `program_program` : programming two ranges that touch is programming one.
* `program_erase` : what is programmed into an erased range is what was given.
-/

namespace Lcm

namespace Flash

/-- The contents of a flash, or of any other memory, by address. -/
abbrev Memory := ℕ → Byte

/-- The bytes from an address on. -/
def bytesAt (m : Memory) (a : ℕ) : ℕ → Byte := fun i => m (a + i)

/-- An erased byte. -/
def erased : Byte := 0xFF

/-- The memory after `n` bytes from `a` on are erased. -/
def erase (m : Memory) (a n : ℕ) : Memory := fun i => if a ≤ i ∧ i < a + n then erased else m i

/-- The memory after `n` bytes from `a` on are programmed. -/
def program (m : Memory) (a n : ℕ) (bytes : ℕ → Byte) : Memory := fun i =>
  if a ≤ i ∧ i < a + n then m i &&& bytes (i - a) else m i

/-- The memory with `n` bytes from `a` on taken from another one. -/
def overwrite (m : Memory) (a n : ℕ) (m' : Memory) : Memory := fun i =>
  if a ≤ i ∧ i < a + n then m' i else m i

/-- Two memories agree outside of `n` bytes from `a` on. -/
def AgreeOutside (a n : ℕ) (m m' : Memory) : Prop := ∀ i, ¬ (a ≤ i ∧ i < a + n) → m' i = m i

variable {m m' m'' : Memory} {a b n k : ℕ} {bytes bytes' : ℕ → Byte}

@[simp] theorem erased_and (b : Byte) : erased &&& b = b := BitVec.allOnes_and (w := 8)

theorem erase_inside {i : ℕ} (h : a ≤ i ∧ i < a + n) : erase m a n i = erased := if_pos h

theorem erase_outside {i : ℕ} (h : ¬ (a ≤ i ∧ i < a + n)) : erase m a n i = m i := if_neg h

theorem program_inside {i : ℕ} (h : a ≤ i ∧ i < a + n) :
    program m a n bytes i = m i &&& bytes (i - a) := if_pos h

theorem program_outside {i : ℕ} (h : ¬ (a ≤ i ∧ i < a + n)) : program m a n bytes i = m i :=
  if_neg h

theorem overwrite_inside {i : ℕ} (h : a ≤ i ∧ i < a + n) : overwrite m a n m' i = m' i := if_pos h

theorem overwrite_outside {i : ℕ} (h : ¬ (a ≤ i ∧ i < a + n)) : overwrite m a n m' i = m i :=
  if_neg h

@[simp] theorem erase_zero : erase m a 0 = m := funext fun _ => if_neg (by omega)

@[simp] theorem program_zero : program m a 0 bytes = m := funext fun _ => if_neg (by omega)

/-- Erasing two ranges that touch is erasing one. -/
theorem erase_erase : erase (erase m a n) (a + n) k = erase m a (n + k) := by
  funext i
  unfold erase
  split_ifs <;> first | rfl | omega

/-- **Programming two ranges that touch is programming one.** -/
theorem program_program :
    program (program m a n bytes) (a + n) k (fun i => bytes (n + i)) =
      program m a (n + k) bytes := by
  funext i
  by_cases hfirst : a ≤ i ∧ i < a + n
  · rw [program_outside (by omega), program_inside hfirst, program_inside (by omega)]
  · by_cases hsecond : a + n ≤ i ∧ i < a + n + k
    · rw [program_inside hsecond, program_outside hfirst, program_inside (by omega),
        show n + (i - (a + n)) = i - a by omega]
    · rw [program_outside hsecond, program_outside hfirst, program_outside (by omega)]

theorem program_congr (h : ∀ i < n, bytes i = bytes' i) :
    program m a n bytes = program m a n bytes' := by
  funext i
  by_cases hi : a ≤ i ∧ i < a + n
  · rw [program_inside hi, program_inside hi, h _ (by omega)]
  · rw [program_outside hi, program_outside hi]

/-- **What is programmed into an erased range is what was given.** -/
theorem program_erase {i : ℕ} (h : a ≤ i ∧ i < a + n) (herased : m i = erased) :
    program m a n bytes i = bytes (i - a) := by
  rw [program_inside h, herased, erased_and]

namespace AgreeOutside

theorem refl (m : Memory) : AgreeOutside a n m m := fun _ _ => rfl

theorem trans (h : AgreeOutside a n m m') (h' : AgreeOutside a n m' m'') :
    AgreeOutside a n m m'' := fun i hi => (h' i hi).trans (h i hi)

theorem mono (h : AgreeOutside a n m m') (hrange : b ≤ a ∧ a + n ≤ b + k) :
    AgreeOutside b k m m' := fun i hi => h i (by omega)

theorem erase (m : Memory) : AgreeOutside a n m (erase m a n) := fun _ hi => erase_outside hi

theorem program (m : Memory) : AgreeOutside a n m (program m a n bytes) :=
  fun _ hi => program_outside hi

theorem overwrite (m m' : Memory) : AgreeOutside a n m (overwrite m a n m') :=
  fun _ hi => overwrite_outside hi

end AgreeOutside

end Flash

end Lcm
