import Mathlib.Data.List.Basic

/-!
# Loops that can fail

A loop in `Except` that passes over a list ends with an error or with a last state.  What its
rounds preserve, the loop preserves; and a part of the state that each round computes from that
part alone is computed by the same loop without errors.  Two runs whose rounds have the same outcome
have the same outcome.

## Main definitions

* `SameOutcome` : the same error, or states that are related.

## Main results

* `bind_eq_ok` : a sequence succeeds if both its parts do.
* `foldlM_invariant` : the invariant rule.
* `foldlM_ok_iff` : the rule for rounds that check and then compute.
* `mapM_ok_iff` : a map succeeds if it does for each element.
* `foldlM_key` : the part of the state that does without the rest.
* `foldlM_error` : a round that has to fail makes the loop fail.
* `foldlM_sameOutcome` : the rule for two runs.
-/

namespace Lcm

universe u

variable {ε α κ : Type*} {β γ : Type u}

/-- **A sequence succeeds** if both its parts do. -/
theorem bind_eq_ok {x : Except ε β} {f : β → Except ε γ} {c : γ} :
    x >>= f = .ok c ↔ ∃ b, x = .ok b ∧ f b = .ok c := by
  cases x with
  | error e =>
    constructor
    · intro h
      cases h
    · rintro ⟨b, h, -⟩
      cases h
  | ok b =>
    constructor
    · intro h
      exact ⟨b, rfl, h⟩
    · rintro ⟨b', h, hf⟩
      cases h
      exact hf

/-- **The invariant rule**: what every round preserves, the loop preserves. -/
theorem foldlM_invariant {f : β → α → Except ε β} {I : β → Prop} {l : List α} {b b' : β}
    (hround : ∀ b a b', a ∈ l → I b → f b a = .ok b' → I b') (hb : I b)
    (h : l.foldlM f b = .ok b') : I b' := by
  induction l generalizing b with
  | nil =>
    cases h
    exact hb
  | cons a l ih =>
    rw [List.foldlM_cons] at h
    obtain ⟨c, hc, h⟩ := bind_eq_ok.1 h
    have hIc : I c := hround b a c List.mem_cons_self hb hc
    exact ih (fun b a b' ha => hround b a b' (List.mem_cons_of_mem _ ha)) hIc h

/-- **The rule for checked rounds**: a loop whose rounds check their elements and then compute
succeeds exactly if all checks do, and computes what the loop without checks does. -/
theorem foldlM_ok_iff {f : β → α → Except ε β} {P : α → Prop} {g : β → α → β}
    (hround : ∀ b a b', f b a = .ok b' ↔ P a ∧ b' = g b a) {l : List α} {b b' : β} :
    l.foldlM f b = .ok b' ↔ (∀ a ∈ l, P a) ∧ b' = l.foldl g b := by
  induction l generalizing b with
  | nil =>
    constructor
    · intro h
      cases h
      exact ⟨fun a ha => absurd ha List.not_mem_nil, rfl⟩
    · rintro ⟨-, rfl⟩
      rfl
  | cons a l ih =>
    rw [List.foldlM_cons, bind_eq_ok, List.forall_mem_cons, List.foldl_cons]
    constructor
    · rintro ⟨c, hc, h⟩
      obtain ⟨ha, rfl⟩ := (hround b a c).1 hc
      obtain ⟨hl, hb'⟩ := ih.1 h
      exact ⟨⟨ha, hl⟩, hb'⟩
    · rintro ⟨⟨ha, hl⟩, hb'⟩
      exact ⟨g b a, (hround b a _).2 ⟨ha, rfl⟩, ih.2 ⟨hl, hb'⟩⟩

/-- **A map that can fail** succeeds exactly if it does for each element. -/
theorem mapM_ok_iff {f : α → Except ε β} {l : List α} :
    (∃ bs, l.mapM f = .ok bs) ↔ ∀ a ∈ l, ∃ b, f a = .ok b := by
  induction l with
  | nil => exact ⟨fun _ a ha => absurd ha List.not_mem_nil, fun _ => ⟨[], rfl⟩⟩
  | cons a l ih =>
    rw [List.forall_mem_cons, ← ih, List.mapM_cons]
    constructor
    · rintro ⟨bs, h⟩
      obtain ⟨b, hb, h⟩ := bind_eq_ok.1 h
      obtain ⟨bs, hbs, -⟩ := bind_eq_ok.1 h
      exact ⟨⟨b, hb⟩, bs, hbs⟩
    · rintro ⟨⟨b, hb⟩, bs, hbs⟩
      exact ⟨b :: bs, bind_eq_ok.2 ⟨b, hb, bind_eq_ok.2 ⟨bs, hbs, rfl⟩⟩⟩

/-- **A part of the state that does without the rest** is computed by a loop without errors. -/
theorem foldlM_key {f : β → α → Except ε β} (key : β → κ) {g : κ → α → κ}
    (hround : ∀ b a b', f b a = .ok b' → key b' = g (key b) a) {l : List α} {b b' : β}
    (h : l.foldlM f b = .ok b') : key b' = l.foldl g (key b) := by
  induction l generalizing b with
  | nil =>
    cases h
    rfl
  | cons a l ih =>
    rw [List.foldlM_cons] at h
    obtain ⟨c, hc, h⟩ := bind_eq_ok.1 h
    rw [ih h, hround b a c hc, List.foldl_cons]

/-- **A round that has to fail** makes the loop fail. -/
theorem foldlM_error {f : β → α → Except ε β} {accepts : α → Bool}
    (hround : ∀ b a, accepts a = false → ∃ e, f b a = .error e) {l : List α}
    (hl : l.all accepts = false) (b : β) : ∃ e, l.foldlM f b = .error e := by
  induction l generalizing b with
  | nil => cases hl
  | cons a l ih =>
    rw [List.foldlM_cons]
    cases hb : f b a with
    | error e => exact ⟨e, rfl⟩
    | ok b' =>
      -- this round has not failed, so it did not have to
      have ha : accepts a = true := by
        by_contra hnot
        obtain ⟨e, he⟩ := hround b a (Bool.not_eq_true _ ▸ hnot)
        cases he.symm.trans hb
      rw [List.all_cons, ha, Bool.true_and] at hl
      exact ih hl b'

/-! ### Two runs -/

section SameOutcome

variable {δ η : Type u} {R : β → δ → Prop} {x : Except ε β} {y : Except ε δ}

/-- Two runs end with the same error, or in states that are related. -/
inductive SameOutcome (R : β → δ → Prop) : Except ε β → Except ε δ → Prop
  | error (e : ε) : SameOutcome R (.error e) (.error e)
  | ok {b : β} {c : δ} (h : R b c) : SameOutcome R (.ok b) (.ok c)

theorem SameOutcome.imp {S : β → δ → Prop} (h : SameOutcome R x y) (hRS : ∀ b c, R b c → S b c) :
    SameOutcome S x y := by
  cases h with
  | error e => exact .error e
  | ok h => exact .ok (hRS _ _ h)

theorem SameOutcome.bind {S : γ → η → Prop} {f : β → Except ε γ} {g : δ → Except ε η}
    (h : SameOutcome R x y) (hfg : ∀ b c, R b c → SameOutcome S (f b) (g c)) :
    SameOutcome S (x >>= f) (y >>= g) := by
  cases h with
  | error e => exact .error e
  | ok h => exact hfg _ _ h

theorem SameOutcome.ite {p : Prop} [Decidable p] {x' : Except ε β} {y' : Except ε δ}
    (h : p → SameOutcome R x y) (h' : ¬ p → SameOutcome R x' y') :
    SameOutcome R (if p then x else x') (if p then y else y') := by
  split
  · exact h ‹_›
  · exact h' ‹_›

/-- **The rule for two runs**: rounds with the same outcome make loops with the same outcome.  The
relation may depend on what the loops have passed over. -/
theorem foldlM_sameOutcome {f : β → α → Except ε β} {g : δ → α → Except ε δ}
    {R : List α → β → δ → Prop}
    (hround : ∀ passed b c a, R passed b c → SameOutcome (R (passed ++ [a])) (f b a) (g c a))
    (l passed : List α) {b : β} {c : δ} (h : R passed b c) :
    SameOutcome (R (passed ++ l)) (l.foldlM f b) (l.foldlM g c) := by
  induction l generalizing passed b c with
  | nil =>
    rw [List.append_nil]
    exact .ok h
  | cons a l ih =>
    rw [List.foldlM_cons, List.foldlM_cons, List.append_cons]
    exact (hround passed b c a h).bind fun b c hbc => ih _ hbc

end SameOutcome

end Lcm
