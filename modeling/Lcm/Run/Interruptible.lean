import Mathlib.Data.Nat.Notation
import Mathlib.Logic.Basic

/-!
# Programs that may be interrupted

A `Program` computes a value and a new state, and lists the states it visits on the way: one for
each step that is atomic.  What an interruption leaves behind is the first state or one that was
visited, so that a `Triple` has, besides its precondition and its postcondition, a condition on
every visited state.

## Main definitions

* `Program σ α` : programs over the states `σ`, as a monad.
* `Program.step` : one atomic step.
* `Program.untilError` : the same program on one argument after another, until one of them fails.
* `Program.Triple` : the specification of a program.
* `Program.Keeps` : a program keeps a condition on the state.

## Main results

* `Triple.pure`, `Triple.step`, `Triple.bind`, `Triple.bind_ok`, `Triple.bind_error`,
  `Triple.conseq` : the rules.
* `Triple.iterate` : the rule for a loop that carries a value.
* `Triple.untilError`, `Triple.untilError_invariant` : the rules for a loop that stops on an error.
-/

namespace Lcm

/-- What a program returns, the state it ends in, and the states after each of its steps. -/
structure Outcome (σ α : Type*) where
  /-- The value. -/
  value : α
  /-- The last state. -/
  state : σ
  /-- The states visited, in order. -/
  visited : List σ

/-- A program over the states `σ`. -/
def Program (σ α : Type*) := σ → Outcome σ α

namespace Program

universe u v

variable {σ : Type u} {α β : Type v}

instance : Monad (Program σ) where
  pure a s := ⟨a, s, []⟩
  bind p f s :=
    let o := p s
    let o' := f o.value o.state
    ⟨o'.value, o'.state, o.visited ++ o'.visited⟩

/-- The current state. -/
def get : Program σ σ := fun s => ⟨s, s, []⟩

/-- One atomic step. -/
def step (f : σ → α × σ) : Program σ α := fun s => ⟨(f s).1, (f s).2, [(f s).2]⟩

/-- Repeat a program that hands on a value. -/
def iterate (body : α → Program σ α) : ℕ → α → Program σ α
  | 0, a => pure a
  | n + 1, a => body a >>= iterate body n

/-- Run a program that returns an error code at `count` addresses, `stride` apart, until one of
them returns something else than `ok`. -/
def untilError [DecidableEq α] (ok : α) (body : ℕ → Program σ α) (stride : ℕ) :
    (count address : ℕ) → Program σ α
  | 0, _ => pure ok
  | count + 1, address => do
    let returnCode ← body address
    if returnCode ≠ ok then pure returnCode
    else untilError ok body stride count (address + stride)

/-- From every state with `P`, the program ends with `Q` and visits only states with `C`. -/
def Triple (P : σ → Prop) (p : Program σ α) (Q : α → σ → Prop) (C : σ → Prop) : Prop :=
  ∀ s, P s → Q (p s).value (p s).state ∧ ∀ t ∈ (p s).visited, C t

namespace Triple

variable {P P' : σ → Prop} {Q Q' : α → σ → Prop} {R : β → σ → Prop} {C C' : σ → Prop}
  {p : Program σ α}

theorem pure (a : α) (h : ∀ s, P s → Q a s) : Triple P (pure a : Program σ α) Q C :=
  fun s hs => ⟨h s hs, fun _ ht => nomatch ht⟩

theorem get {σ : Type u} {P C : σ → Prop} {Q : σ → σ → Prop} (h : ∀ s, P s → Q s s) :
    Triple P Program.get Q C :=
  fun s hs => ⟨h s hs, fun _ ht => nomatch ht⟩

theorem step {f : σ → α × σ} (h : ∀ s, P s → Q (f s).1 (f s).2 ∧ C (f s).2) :
    Triple P (Program.step f) Q C := by
  intro s hs
  refine ⟨(h s hs).1, fun t ht => ?_⟩
  rw [List.mem_singleton.1 ht]
  exact (h s hs).2

/-- Two programs, one after the other. -/
theorem bind {f : α → Program σ β} (hp : Triple P p Q C) (hf : ∀ a, Triple (Q a) (f a) R C) :
    Triple P (p >>= f) R C := by
  intro s hs
  obtain ⟨hq, hc⟩ := hp s hs
  obtain ⟨hr, hc'⟩ := hf _ _ hq
  refine ⟨hr, fun t ht => ?_⟩
  rcases List.mem_append.1 ht with ht | ht
  · exact hc t ht
  · exact hc' t ht

theorem conseq (h : Triple P p Q C) (hP : ∀ s, P' s → P s) (hQ : ∀ a s, Q a s → Q' a s)
    (hC : ∀ s, C s → C' s) : Triple P' p Q' C' := by
  intro s hs
  obtain ⟨hq, hc⟩ := h s (hP s hs)
  exact ⟨hQ _ _ hq, fun t ht => hC t (hc t ht)⟩

/-- What a precondition says without the state. -/
theorem of_pure {a : Prop} (h : a → Triple P p Q C) : Triple (fun s => a ∧ P s) p Q C :=
  fun s hs => h hs.1 s hs.2

/-- A program that goes on only if its first part succeeds, when it does. -/
theorem bind_ok [DecidableEq α] {ok : α} {error next : α → Program σ β} {P' : σ → Prop}
    (hp : Triple P p (fun a s => a = ok ∧ P' s) C) (hnext : Triple P' (next ok) R C) :
    Triple P (p >>= fun a => if a ≠ ok then error a else next a) R C := by
  refine hp.bind fun a => ?_
  rintro s ⟨rfl, hs⟩
  rw [if_neg (not_not.2 rfl)]
  exact hnext s hs

/-- A program that goes on only if its first part succeeds, when it does not. -/
theorem bind_error [DecidableEq α] {ok : α} {error next : α → Program σ β} {P' : σ → Prop}
    (hp : Triple P p (fun a s => a ≠ ok ∧ P' s) C) (herror : ∀ a, Triple P' (error a) R C) :
    Triple P (p >>= fun a => if a ≠ ok then error a else next a) R C := by
  refine hp.bind fun a => ?_
  rintro s ⟨ha, hs⟩
  rw [if_pos ha]
  exact herror a s hs

/-- A loop that carries a value: what holds of the value and the state after `k` rounds. -/
theorem iterate {body : α → Program σ α} {I : ℕ → α → σ → Prop} {n : ℕ}
    (hbody : ∀ k < n, ∀ a, Triple (I k a) (body a) (I (k + 1)) C) (a : α) :
    Triple (I 0 a) (Program.iterate body n a) (I n) C := by
  have hloop : ∀ m k, k + m = n → ∀ a, Triple (I k a) (Program.iterate body m a) (I n) C := by
    intro m
    induction m with
    | zero =>
      intro k hk a
      obtain rfl : k = n := hk
      exact pure a fun _ hs => hs
    | succ m ih =>
      intro k hk a
      exact (hbody k (by omega) a).bind fun a' => ih (k + 1) (by omega) a'
  exact hloop n 0 (Nat.zero_add n) a

/-- A loop that stops on an error: `I` counts the rounds without one, and a round that fails
leaves `E`. -/
theorem untilError [DecidableEq α] {ok : α} {body : ℕ → Program σ α} {I : ℕ → σ → Prop}
    {E : σ → Prop} {stride first n : ℕ}
    (hbody : ∀ k < n, Triple (I k) (body (first + stride * k))
      (fun a s => a = ok ∧ I (k + 1) s ∨ a ≠ ok ∧ E s) C) :
    Triple (I 0) (Program.untilError ok body stride n first)
      (fun a s => a = ok ∧ I n s ∨ a ≠ ok ∧ E s) C := by
  have hloop : ∀ m k, k + m = n → Triple (I k)
      (Program.untilError ok body stride m (first + stride * k))
      (fun a s => a = ok ∧ I n s ∨ a ≠ ok ∧ E s) C := by
    intro m
    induction m with
    | zero =>
      intro k hk
      obtain rfl : k = n := hk
      exact pure ok fun s hs => .inl ⟨rfl, hs⟩
    | succ m ih =>
      intro k hk
      refine (hbody k (by omega)).bind fun a => ?_
      split
      · rename_i ha
        exact pure a fun s hs => .inr (hs.resolve_left fun hok => ha hok.1)
      · rename_i ha
        rw [Nat.add_assoc, ← Nat.mul_succ]
        refine (ih (k + 1) (by omega)).conseq (fun s hs => ?_) (fun _ _ h => h) fun _ h => h
        exact (hs.resolve_right fun herror => ha herror.1).2
  simpa using hloop n 0 (Nat.zero_add n)

/-- A loop that stops on an error keeps what each round keeps. -/
theorem untilError_invariant [DecidableEq α] {ok : α} {body : ℕ → Program σ α} {I : σ → Prop}
    {stride first : ℕ} {n : ℕ}
    (hbody : ∀ k < n, Triple I (body (first + stride * k)) (fun _ => I) I) :
    Triple I (Program.untilError ok body stride n first) (fun _ => I) I := by
  have hloop : ∀ m k, k + m = n → Triple I
      (Program.untilError ok body stride m (first + stride * k)) (fun _ => I) I := by
    intro m
    induction m with
    | zero => exact fun k _ => pure ok fun s hs => hs
    | succ m ih =>
      intro k hk
      refine (hbody k (by omega)).bind fun a => ?_
      split
      · exact pure a fun s hs => hs
      · rw [Nat.add_assoc, ← Nat.mul_succ]
        exact ih (k + 1) (by omega)
  simpa using hloop n 0 (Nat.zero_add n)

end Triple

/-- The program keeps `I`, at every step and in any case. -/
abbrev Keeps (I : σ → Prop) (p : Program σ α) : Prop := Triple I p (fun _ => I) I

namespace Keeps

variable {I : σ → Prop} {p : Program σ α}

theorem pure (a : α) : Keeps I (pure a : Program σ α) := Triple.pure a fun _ h => h

theorem get {σ : Type u} {I : σ → Prop} : Keeps I (Program.get : Program σ σ) :=
  Triple.get fun _ h => h

theorem bind {f : α → Program σ β} (hp : Keeps I p) (hf : ∀ a, Keeps I (f a)) :
    Keeps I (p >>= f) := Triple.bind hp hf

/-- A program that goes on only if its first part succeeds, whether or not it does. -/
theorem test [DecidableEq α] {ok : α} {error : α → β} {next : α → Program σ β} (hp : Keeps I p)
    (hnext : ∀ a, Keeps I (next a)) :
    Keeps I (p >>= fun a => if a ≠ ok then Pure.pure (error a) else next a) := by
  refine hp.bind fun a => ?_
  split
  · exact pure _
  · exact hnext a

end Keeps

end Program

end Lcm
