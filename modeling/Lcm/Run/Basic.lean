import Mathlib.Logic.Relation

/-!
# Machines driven by events

A `Machine` is a set of initial states and a partial step function: `step s e` is the state
after event `e`, or `none` when `e` cannot happen in `s`.  Everything the environment decides
(the byte that arrives, whether an allocation succeeds, which task runs next) is part of the
event, so that a run is a list of events and "for every interleaving" is "for every list".

## Main definitions

* `Machine.run s es` : the state after the events `es`.
* `Machine.AllStates P s es` : `P` holds in every state the run visits, the first included.
* `Machine.AllSteps K s es` : `K` holds of every state and event the run takes a step from.
* `Machine.Reachable s` : some run from an initial state ends in `s`.

## Main results

* `Machine.allStates_of_allSteps` : an invariant preserved by the steps that meet `K` holds
  throughout every run whose steps all meet `K`.
* `Machine.allSteps_of_allSteps` : and what the invariant says of such steps holds of all of them.
* `Machine.allStates_iff_allSteps` : if, in addition, no other step leads to a good state, then a
  run stays good exactly when all its steps meet `K`.
* `Machine.allSteps_congr`, `Machine.allSteps_congr_of_allSteps` : two step conditions that agree on
  the invariant agree on runs.
* `Machine.Reachable.invariant` : the induction over reachable states.
-/

namespace Lcm

/-- A deterministic machine driven by events. -/
structure Machine (S E : Type*) where
  /-- The states a run may start from. -/
  init : S → Prop
  /-- The state after an event, or `none` when the event cannot happen. -/
  step : S → E → Option S

namespace Machine

variable {S E : Type*} (M : Machine S E)

/-- The state after a list of events, if all of them can happen. -/
def run : S → List E → Option S
  | s, [] => some s
  | s, e :: es => (M.step s e).bind fun s' => run s' es

/-- `P` holds in every state of the run, from the first state on. -/
def AllStates (P : S → Prop) : S → List E → Prop
  | s, [] => P s
  | s, e :: es => P s ∧ ∀ s', M.step s e = some s' → AllStates P s' es

/-- `K` holds of every state and event that the run takes a step from. -/
def AllSteps (K : S → E → Prop) : S → List E → Prop
  | _, [] => True
  | s, e :: es => ∀ s', M.step s e = some s' → K s e ∧ AllSteps K s' es

/-- Some run from an initial state ends in `s`. -/
def Reachable (s : S) : Prop := ∃ s₀ es, M.init s₀ ∧ M.run s₀ es = some s

variable {M}

theorem run_append {s : S} {es es' : List E} :
    M.run s (es ++ es') = (M.run s es).bind fun s' => M.run s' es' := by
  induction es generalizing s with
  | nil => rfl
  | cons e es ih =>
    simp only [List.cons_append, run, Option.bind_assoc]
    congr 1
    funext s'
    exact ih

theorem AllSteps.cons {K : S → E → Prop} {s t : S} {e : E} {es : List E}
    (hs : M.step s e = some t) (hK : K s e) (h : M.AllSteps K t es) : M.AllSteps K s (e :: es) := by
  intro s' hs'
  obtain rfl : t = s' := Option.some.inj (hs.symm.trans hs')
  exact ⟨hK, h⟩

theorem AllStates.head {P : S → Prop} {s : S} {es : List E} (h : M.AllStates P s es) : P s := by
  cases es with
  | nil => exact h
  | cons e es => exact h.1

theorem AllStates.imp {P Q : S → Prop} (hPQ : ∀ s, P s → Q s) {s : S} {es : List E}
    (h : M.AllStates P s es) : M.AllStates Q s es := by
  induction es generalizing s with
  | nil => exact hPQ s h
  | cons e es ih => exact ⟨hPQ s h.1, fun s' hs' => ih (h.2 s' hs')⟩

/-- The last state of a run is one of its states. -/
theorem AllStates.of_run {P : S → Prop} {s s' : S} {es : List E} (h : M.AllStates P s es)
    (hr : M.run s es = some s') : P s' := by
  induction es generalizing s with
  | nil => cases hr; exact h
  | cons e es ih =>
    obtain ⟨t, ht, hr⟩ := Option.bind_eq_some_iff.1 hr
    exact ih (h.2 t ht) hr

/-- The condition on the steps of a run holds of its last step. -/
theorem AllSteps.last {K : S → E → Prop} {s t t' : S} {es : List E} {e : E}
    (h : M.AllSteps K s (es ++ [e])) (hr : M.run s es = some t) (ht : M.step t e = some t') :
    K t e := by
  induction es generalizing s with
  | nil => cases hr; exact (h t' ht).1
  | cons e' es ih =>
    obtain ⟨u, hu, hr⟩ := Option.bind_eq_some_iff.1 hr
    exact ih (h u hu).2 hr

/-- The condition on the steps of a given run can be checked by running it. -/
instance {K : S → E → Prop} [∀ s e, Decidable (K s e)] :
    (s : S) → (es : List E) → Decidable (M.AllSteps K s es)
  | _, [] => .isTrue trivial
  | s, e :: es =>
    match h : M.step s e with
    | none => .isTrue fun s' hs' => by rw [h] at hs'; cases hs'
    | some t =>
      have : Decidable (M.AllSteps K t es) := instDecidableAllSteps t es
      decidable_of_iff (K s e ∧ M.AllSteps K t es)
        ⟨fun hK s' hs' => by rw [h] at hs'; cases hs'; exact hK, fun hK => hK t h⟩

/-- **The run rule**: an invariant that every step meeting `K` preserves holds throughout every
run whose steps all meet `K`. -/
theorem allStates_of_allSteps {I : S → Prop} {K : S → E → Prop}
    (hstep : ∀ s e s', I s → K s e → M.step s e = some s' → I s') {s : S} {es : List E}
    (hs : I s) (h : M.AllSteps K s es) : M.AllStates I s es := by
  induction es generalizing s with
  | nil => exact hs
  | cons e es ih =>
    refine ⟨hs, fun s' hs' => ?_⟩
    obtain ⟨hK, hrest⟩ := h s' hs'
    exact ih (hstep s e s' hs hK hs') hrest

/-- An invariant that every step preserves holds throughout every run. -/
theorem allStates_of_step {I : S → Prop} (hstep : ∀ s e s', I s → M.step s e = some s' → I s')
    {s : S} (hs : I s) (es : List E) : M.AllStates I s es := by
  induction es generalizing s with
  | nil => exact hs
  | cons e es ih => exact ⟨hs, fun s' hs' => ih (hstep s e s' hs hs')⟩

/-- What an invariant says of the steps that meet `K` holds of all steps of a run that does. -/
theorem allSteps_of_allSteps {I : S → Prop} {K L : S → E → Prop}
    (hstep : ∀ s e s', I s → K s e → M.step s e = some s' → I s')
    (hL : ∀ s e s', I s → K s e → M.step s e = some s' → L s e) {s : S} {es : List E}
    (hs : I s) (h : M.AllSteps K s es) : M.AllSteps L s es := by
  induction es generalizing s with
  | nil => trivial
  | cons e es ih =>
    intro s' hs'
    obtain ⟨hK, hrest⟩ := h s' hs'
    exact ⟨hL s e s' hs hK hs', ih (hstep s e s' hs hK hs') hrest⟩

/-- What an invariant that every step preserves says of the steps holds of all of them. -/
theorem allSteps_of_step {I : S → Prop} {L : S → E → Prop}
    (hstep : ∀ s e s', I s → M.step s e = some s' → I s')
    (hL : ∀ s e s', I s → M.step s e = some s' → L s e) {s : S} (hs : I s) (es : List E) :
    M.AllSteps L s es := by
  induction es generalizing s with
  | nil => trivial
  | cons e es ih => exact fun s' hs' => ⟨hL s e s' hs hs', ih (hstep s e s' hs hs')⟩

/-- **The exact run rule**: let `I` be an invariant that implies `P` and that every step meeting
`K` preserves.  When no other step leads from the invariant to a state with `P`, a run has `P`
throughout exactly if all its steps meet `K`. -/
theorem allStates_iff_allSteps {I P : S → Prop} {K : S → E → Prop} (hP : ∀ s, I s → P s)
    (hgood : ∀ s e s', I s → K s e → M.step s e = some s' → I s')
    (hbad : ∀ s e s', I s → M.step s e = some s' → P s' → K s e) {s : S} {es : List E}
    (hs : I s) : M.AllStates P s es ↔ M.AllSteps K s es := by
  refine ⟨fun h => ?_, fun h => (allStates_of_allSteps hgood hs h).imp hP⟩
  induction es generalizing s with
  | nil => trivial
  | cons e es ih =>
    intro s' hs'
    have hrest : M.AllStates P s' es := h.2 s' hs'
    have hK : K s e := hbad s e s' hs hs' hrest.head
    exact ⟨hK, ih (hgood s e s' hs hK hs') hrest⟩

/-- Two step conditions agree on whole runs if they agree wherever the invariant holds, and if the
steps that meet them preserve it. -/
theorem allSteps_congr {I : S → Prop} {K L : S → E → Prop}
    (hstep : ∀ s e s', I s → L s e → M.step s e = some s' → I s')
    (hKL : ∀ s e, I s → (K s e ↔ L s e)) {s : S} {es : List E} (hs : I s) :
    M.AllSteps K s es ↔ M.AllSteps L s es := by
  induction es generalizing s with
  | nil => exact Iff.rfl
  | cons e es ih =>
    refine forall₂_congr fun s' hs' => ?_
    rw [hKL s e hs]
    exact and_congr_right fun hL => ih (hstep s e s' hs hL hs')

/-- Two step conditions agree on the runs whose steps meet a third one, if they agree wherever the
invariant holds, and if the third one preserves it. -/
theorem allSteps_congr_of_allSteps {I : S → Prop} {J K L : S → E → Prop}
    (hstep : ∀ s e s', I s → J s e → M.step s e = some s' → I s')
    (hKL : ∀ s e, I s → (K s e ↔ L s e)) {s : S} {es : List E} (hs : I s)
    (hJ : M.AllSteps J s es) : M.AllSteps K s es ↔ M.AllSteps L s es := by
  induction es generalizing s with
  | nil => exact Iff.rfl
  | cons e es ih =>
    refine forall₂_congr fun s' hs' => ?_
    obtain ⟨hJe, hrest⟩ := hJ s' hs'
    rw [hKL s e hs]
    exact and_congr_right fun _ => ih (hstep s e s' hs hJe hs') hrest

namespace Reachable

theorem step {s s' : S} {e : E} (h : M.Reachable s) (hs : M.step s e = some s') :
    M.Reachable s' := by
  obtain ⟨s₀, es, h₀, hr⟩ := h
  refine ⟨s₀, es ++ [e], h₀, ?_⟩
  simp [run_append, hr, run, hs]

/-- Every reachable state satisfies a predicate that holds initially and that every step
preserves. -/
theorem invariant {I : S → Prop} {s : S} (h : M.Reachable s) (h₀ : ∀ s, M.init s → I s)
    (hstep : ∀ s e s', I s → M.step s e = some s' → I s') : I s := by
  obtain ⟨s₀, es, hi, hr⟩ := h
  have hs₀ := h₀ s₀ hi
  clear hi
  induction es generalizing s₀ with
  | nil => cases hr; exact hs₀
  | cons e es ih =>
    obtain ⟨t, ht, hr⟩ := Option.bind_eq_some_iff.1 hr
    exact ih t hr (hstep _ _ _ hs₀ ht)

end Reachable

end Machine

end Lcm
