import Lcm.Run.Logged
import Mathlib.Data.Nat.Notation

/-!
# Loops with the test at the beginning

`whileDo cond body fuel s` tests `cond`, runs `body` and starts again, and gives up after `fuel`
rounds.  Test and body keep a log.

## Main definitions

* `whileDo` : the loop.
* `Ends` : the loop ends with a result and a log, with all fuel from some amount on.

## Main results

* `whileDo_ends` : a loop with an invariant and a variant ends, with the invariant and without the
  test, and its log has only entries that the test and the body have.
-/

namespace Lcm

namespace Logged

variable {ι σ : Type}

/-- `while (cond) body` -/
def whileDo (cond : σ → Logged ι Bool) (body : σ → Logged ι σ) : ℕ → σ → Logged ι (Option σ)
  | 0, _ => pure none
  | fuel + 1, s => do
    if ← cond s then
      let s' ← body s
      whileDo cond body fuel s'
    else
      pure (some s)

/-- A computation that needs fuel ends: more than `rounds` of it give the result and the log. -/
def Ends (x : ℕ → Logged ι (Option σ)) (rounds : ℕ) (s : σ) (log : List ι) : Prop :=
  ∀ fuel, rounds < fuel → x fuel = ⟨some s, log⟩

variable {cond : σ → Logged ι Bool} {body : σ → Logged ι σ} {I : σ → Prop} {P : ι → Prop}

theorem whileDo_exit {s : σ} (h : (cond s).value = false) (fuel : ℕ) :
    whileDo cond body (fuel + 1) s = ⟨some s, (cond s).log⟩ := by
  refine Logged.ext ?_ ?_
  · simp [whileDo, h]
  · simp [whileDo, h]

theorem whileDo_round {s : σ} (h : (cond s).value = true) (fuel : ℕ) :
    whileDo cond body (fuel + 1) s =
      ⟨(whileDo cond body fuel (body s).value).value,
        (cond s).log ++ ((body s).log ++ (whileDo cond body fuel (body s).value).log)⟩ := by
  refine Logged.ext ?_ ?_
  · simp [whileDo, h]
  · simp [whileDo, h]

/-- **The rule for loops**: with an invariant that a round keeps and a variant that it decreases,
the loop ends when the test fails, and all it does is what the test and the body may do. -/
theorem whileDo_ends (variant : σ → ℕ) (hcond : ∀ s, I s → (cond s).All P)
    (hbody : ∀ s, I s → (cond s).value = true →
      (body s).All P ∧ I (body s).value ∧ variant (body s).value < variant s)
    {s : σ} (hs : I s) :
    ∃ s' log, Ends (fun fuel => whileDo cond body fuel s) (variant s) s' log ∧
      I s' ∧ (cond s').value = false ∧ ∀ i ∈ log, P i := by
  -- by induction on the variant, as the rounds are not bounded by anything else
  generalize hv : variant s = v
  induction v using Nat.strongRecOn generalizing s with
  | ind v ih =>
    subst hv
    cases htest : (cond s).value with
    | false =>
      refine ⟨s, (cond s).log, fun fuel hfuel => ?_, hs, htest, hcond s hs⟩
      obtain ⟨rounds, rfl⟩ : ∃ rounds, fuel = rounds + 1 := ⟨fuel - 1, by omega⟩
      exact whileDo_exit htest rounds
    | true =>
      obtain ⟨hall, hI, hless⟩ := hbody s hs htest
      obtain ⟨s', log, hends, hI', hdone, hlog⟩ := ih _ hless hI rfl
      refine ⟨s', (cond s).log ++ ((body s).log ++ log), fun fuel hfuel => ?_, hI', hdone, ?_⟩
      · obtain ⟨rounds, rfl⟩ : ∃ rounds, fuel = rounds + 1 := ⟨fuel - 1, by omega⟩
        have hrest := hends rounds (by omega)
        dsimp only at hrest ⊢
        rw [whileDo_round htest, hrest]
      · intro i hi
        rcases List.mem_append.1 hi with hi | hi
        · exact hcond s hs i hi
        · exact (List.mem_append.1 hi).elim (hall i) (hlog i)

end Logged

end Lcm
