import Mathlib.Data.List.Basic

/-!
# Items that go through stages

A log records what is done to items, one after the other.  Each item starts in the same stage, and
what is done to it moves it to another one, where that is allowed.

## Main definitions

* `stage` : the stage of an item after a log, if all was allowed that was done to it.

## Main results

* `stage_concat_self` : what is done to an item moves it on.
* `stage_concat_of_ne` : and leaves the others where they are.
-/

namespace Lcm

variable {ι α φ : Type*} [DecidableEq ι]

/-- The stage of the item `i` after a log, or `none` if something was not allowed. -/
def stage (next : φ → α → Option φ) (start : φ) (i : ι) (log : List (ι × α)) : Option φ :=
  log.foldlM (fun s op => if op.1 = i then next s op.2 else some s) start

variable {next : φ → α → Option φ} {start : φ} {i : ι} {log : List (ι × α)}

@[simp] theorem stage_nil : stage next start i [] = some start := rfl

theorem stage_concat_self {s : φ} (h : stage next start i log = some s) (a : α) :
    stage next start i (log ++ [(i, a)]) = next s a := by
  unfold stage at h ⊢
  rw [List.foldlM_append, h]
  simp

theorem stage_concat_of_ne {j : ι} (h : i ≠ j) (a : α) :
    stage next start j (log ++ [(i, a)]) = stage next start j log := by
  unfold stage
  rw [List.foldlM_append]
  simp [h]

end Lcm
