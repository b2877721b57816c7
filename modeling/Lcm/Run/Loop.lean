import Mathlib.Data.Nat.Find
import Mathlib.Data.Nat.Notation
import Mathlib.Logic.Function.Iterate

/-!
# Loops with the test at the end

`doWhile body cond fuel s` runs `body` on `s` until `cond` fails, and gives up after `fuel` rounds.
What it computes does not depend on the fuel once that suffices: the first iterate of `body`, of one
round or more, that fails the test.

## Main results

* `doWhile_eq` : the loop ends with the first iterate that fails the test.
* `exists_doWhile` : there is one as soon as some iterate fails it.
-/

namespace Lcm

variable {σ : Type*}

/-- `do body while (cond)` -/
def doWhile (body : σ → σ) (cond : σ → Bool) : ℕ → σ → Option σ
  | 0, _ => none
  | fuel + 1, s => if cond (body s) then doWhile body cond fuel (body s) else some (body s)

variable {body : σ → σ} {cond : σ → Bool} {s : σ} {k fuel : ℕ}

/-- **The loop ends with the first iterate that fails the test.** -/
theorem doWhile_eq (hstay : ∀ i < k, cond (body^[i + 1] s) = true)
    (hexit : cond (body^[k + 1] s) = false) (hfuel : k < fuel) :
    doWhile body cond fuel s = some (body^[k + 1] s) := by
  induction k generalizing s fuel with
  | zero =>
    cases fuel with
    | zero => exact absurd hfuel (Nat.lt_irrefl 0)
    | succ fuel => exact if_neg (Bool.eq_false_iff.1 hexit)
  | succ k ih =>
    cases fuel with
    | zero => exact absurd hfuel (Nat.not_lt_zero _)
    | succ fuel =>
      have hfirst : cond (body s) = true := hstay 0 (Nat.succ_pos k)
      rw [doWhile, if_pos hfirst]
      exact ih (fun i hi => hstay (i + 1) (Nat.succ_lt_succ hi)) hexit
        (Nat.lt_of_succ_lt_succ hfuel)

/-- If some iterate fails the test, so does a first one, and with more fuel than that the loop ends
with it. -/
theorem exists_doWhile (h : cond (body^[k + 1] s) = false) :
    ∃ n ≤ k, cond (body^[n + 1] s) = false ∧ (∀ i < n, cond (body^[i + 1] s) = true) ∧
      ∀ fuel, k < fuel → doWhile body cond fuel s = some (body^[n + 1] s) := by
  have hex : ∃ n, cond (body^[n + 1] s) = false := ⟨k, h⟩
  have hstay : ∀ i < Nat.find hex, cond (body^[i + 1] s) = true := fun i hi =>
    Bool.not_eq_false _ ▸ Nat.find_min hex hi
  have hle : Nat.find hex ≤ k := Nat.find_min' hex h
  refine ⟨Nat.find hex, hle, Nat.find_spec hex, hstay, fun fuel hfuel => ?_⟩
  exact doWhile_eq hstay (Nat.find_spec hex) (Nat.lt_of_le_of_lt hle hfuel)

end Lcm
