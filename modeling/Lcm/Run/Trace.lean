import Lcm.Run.Basic
import Mathlib.Data.List.Pairwise

/-!
# What the steps of a run do, one after the other

Each step of a machine does some things, in order; the trace of a run is the list of all of them.

## Main definitions

* `Machine.trace` : the trace.

## Main results

* `Machine.pairwise_trace` : the rule for a relation between what is done earlier and what is done
  later.
-/

namespace Lcm

namespace Machine

variable {S E α : Type*} {M : Machine S E}

/-- What is done in a run, if `f` is what the steps do. -/
def trace (M : Machine S E) (f : S → E → List α) : S → List E → List α
  | _, [] => []
  | s, e :: es => (M.step s e).elim [] fun s' => f s e ++ trace M f s' es

variable {f : S → E → List α} {K : S → E → Prop} {R : α → α → Prop}

/-- What was done once has left its mark: it stays, and decides about all that is done later. -/
theorem all_trace {I : S → Prop} {P : α → Prop}
    (hstay : ∀ s e s', I s → K s e → M.step s e = some s' → I s')
    (hlater : ∀ s e, I s → K s e → ∀ b ∈ f s e, P b) {s : S} {es : List E} (hs : I s)
    (h : M.AllSteps K s es) : ∀ b ∈ M.trace f s es, P b := by
  induction es generalizing s with
  | nil => exact fun b hb => absurd hb List.not_mem_nil
  | cons e es ih =>
    intro b hb
    rw [trace] at hb
    cases hstep : M.step s e with
    | none =>
      rw [hstep] at hb
      exact absurd hb List.not_mem_nil
    | some s' =>
      obtain ⟨hK, hrest⟩ := h s' hstep
      rw [hstep] at hb
      obtain hb | hb := List.mem_append.1 hb
      · exact hlater s e hs hK b hb
      · exact ih (hstay s e s' hs hK hstep) hrest b hb

/-- **The rule for what is done in a run**: a relation holds between what is done earlier and what
is done later if it holds within each step, and if each thing that is done leaves a mark `I` that
stays and that makes it hold of the later ones. -/
theorem pairwise_trace {I : α → S → Prop} (hwithin : ∀ s e, K s e → (f s e).Pairwise R)
    (hmark : ∀ s e s' a, K s e → M.step s e = some s' → a ∈ f s e → I a s')
    (hstay : ∀ a s e s', I a s → K s e → M.step s e = some s' → I a s')
    (hlater : ∀ a s e, I a s → K s e → ∀ b ∈ f s e, R a b) {s : S} {es : List E}
    (h : M.AllSteps K s es) : (M.trace f s es).Pairwise R := by
  induction es generalizing s with
  | nil => exact List.Pairwise.nil
  | cons e es ih =>
    rw [trace]
    cases hstep : M.step s e with
    | none => exact List.Pairwise.nil
    | some s' =>
      obtain ⟨hK, hrest⟩ := h s' hstep
      refine List.pairwise_append.2 ⟨hwithin s e hK, ih hrest, fun a ha => ?_⟩
      exact all_trace (hstay a) (hlater a) (hmark s e s' a hK hstep ha) hrest

end Machine

end Lcm
