import Mathlib.Order.Basic

/-!
# Computations that record what they read

A `Reading` is a value together with the spans of indices read to compute it.  Programs that
index a buffer are written in this monad, so that "reads only inside the buffer" is a statement
about the same definition that computes the result.

## Main definitions

* `Span.Within n` : the span lies below `n`.
* `Reading.Within n` : every span read lies below `n`.
* `readAt p i` : read one entry of a buffer.
* `readSpan start len v` : a value computed from a whole span.
-/

namespace Lcm

/-- `len` consecutive indices from `start` on. -/
structure Span where
  /-- The first index. -/
  start : ℕ
  /-- The number of indices. -/
  len : ℕ
  deriving DecidableEq, Repr

/-- The span lies below `n`. -/
def Span.Within (n : ℕ) (s : Span) : Prop := s.len = 0 ∨ s.start + s.len ≤ n

instance (n : ℕ) : DecidablePred (Span.Within n) := fun _ =>
  inferInstanceAs (Decidable (_ ∨ _))

/-- A value and the spans read to compute it. -/
structure Reading (α : Type) where
  /-- The value computed. -/
  value : α
  /-- The spans read, in order. -/
  spans : List Span

namespace Reading

variable {α β : Type} {n : ℕ}

instance : Monad Reading where
  pure a := ⟨a, []⟩
  bind x f := ⟨(f x.value).value, x.spans ++ (f x.value).spans⟩

/-- Every span read lies below `n`. -/
def Within (n : ℕ) (r : Reading α) : Prop := ∀ s ∈ r.spans, s.Within n

instance (n : ℕ) (r : Reading α) : Decidable (r.Within n) :=
  inferInstanceAs (Decidable (∀ s ∈ r.spans, s.Within n))

@[simp] theorem value_pure (a : α) : (pure a : Reading α).value = a := rfl

@[simp] theorem value_bind (x : Reading α) (f : α → Reading β) :
    (x >>= f).value = (f x.value).value := rfl

@[simp] theorem within_pure (a : α) : (pure a : Reading α).Within n := by
  simp [Within, pure]

@[simp] theorem within_bind (x : Reading α) (f : α → Reading β) :
    (x >>= f).Within n ↔ x.Within n ∧ (f x.value).Within n := by
  simp [Within, bind, or_imp, forall_and]

theorem value_ite (c : Prop) [Decidable c] (x y : Reading α) :
    (if c then x else y).value = if c then x.value else y.value := apply_ite ..

theorem within_ite (c : Prop) [Decidable c] (x y : Reading α) :
    (if c then x else y).Within n ↔ if c then x.Within n else y.Within n := by
  split <;> rfl

end Reading

variable {α β : Type} {n : ℕ}

/-- Read entry `i` of a buffer. -/
@[reducible] def readAt (p : ℕ → α) (i : ℕ) : Reading α := ⟨p i, [⟨i, 1⟩]⟩

/-- A value computed from `len` entries from `start` on. -/
@[reducible] def readSpan (start len : ℕ) (v : β) : Reading β := ⟨v, [⟨start, len⟩]⟩

@[simp] theorem value_readAt (p : ℕ → α) (i : ℕ) : (readAt p i).value = p i := rfl

@[simp] theorem value_readSpan (start len : ℕ) (v : β) : (readSpan start len v).value = v := rfl

@[simp] theorem within_readAt (p : ℕ → α) (i : ℕ) : (readAt p i).Within n ↔ i < n := by
  simp only [Reading.Within, Span.Within, List.forall_mem_singleton, Nat.one_ne_zero, false_or,
    Nat.succ_le_iff]

@[simp] theorem within_readSpan (start len : ℕ) (v : β) :
    (readSpan start len v).Within n ↔ len = 0 ∨ start + len ≤ n := by
  simp [Reading.Within, Span.Within]

end Lcm
