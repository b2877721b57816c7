import Lcm.Run.Basic
import Mathlib.Data.List.Induction

/-!
# Challenge and response

A verifier sends a challenge, collects the symbols of the response, and accepts the connection if
they stand for the answer that a key gives to the challenge.  Only then it passes on what it
receives.  A connection may also be exempt, and then it is never challenged.

The protocol is a machine whose events are what can be observed of the verifier on one connection;
an observation that does not follow the protocol is an event that cannot happen.

## Main definitions

* `Scheme` : how a challenge is answered, and how a response is read.
* `Observation`, `Session` : what the verifier does, and what the connection has come to.
* `protocol` : the protocol as a machine.
* `Verified` : a trace in which the right response to the challenge was accepted.

## Main results

* `described_of_run` : what a session says of the observations that have led to it.
* `verified_of_input` : nothing is passed on before a response is verified.
* `wrong_of_refuse` : only a wrong response is refused.
* `answered_of_mem` : a response that is complete waits for its verdict.
-/

namespace Lcm

namespace ChallengeResponse

variable {κ χ ρ σ τ : Type*}

/-- How a challenge is answered with a key, and what the symbols of a response stand for. -/
structure Scheme (κ χ ρ σ : Type*) where
  /-- The right answer to a challenge. -/
  answer : κ → χ → ρ
  /-- The answer that a response stands for. -/
  decode : List σ → Option ρ

/-- The response is the right one. -/
def Scheme.Correct (S : Scheme κ χ ρ σ) (k : κ) (c : χ) (response : List σ) : Prop :=
  S.decode response = some (S.answer k c)

instance [DecidableEq ρ] (S : Scheme κ χ ρ σ) (k : κ) (c : χ) (response : List σ) :
    Decidable (S.Correct k c response) := inferInstanceAs (Decidable (_ = _))

/-- What the verifier does on a connection. -/
inductive Observation (κ χ σ τ : Type*)
  /-- It lets the connection pass without a challenge. -/
  | exempt
  /-- It sends a challenge. -/
  | challenge (c : χ)
  /-- It receives symbols as a response. -/
  | response (xs : List σ)
  /-- It finds the connection closed. -/
  | failed
  /-- It takes the response for complete, at a time. -/
  | answered (t : τ)
  /-- It accepts the response under a key. -/
  | accept (k : κ)
  /-- It refuses the response under a key. -/
  | refuse (k : κ)
  /-- It passes on what it receives. -/
  | input (xs : List σ)
  deriving DecidableEq

/-- What a connection has come to. -/
inductive Session (κ χ σ τ : Type*)
  /-- Nothing has happened. -/
  | fresh
  /-- The connection is exempt. -/
  | exempt
  /-- A challenge has been sent and a part of the response received. -/
  | challenged (c : χ) (response : List σ)
  /-- The connection was found closed. -/
  | failed
  /-- The response was complete at time `t`. -/
  | answered (c : χ) (response : List σ) (t : τ)
  /-- The response has been accepted under a key. -/
  | accepted (c : χ) (response : List σ) (k : κ)
  /-- The response has been refused under a key. -/
  | refused (c : χ) (response : List σ) (k : κ)

namespace Session

/-- The session after an observation, if it follows the protocol. -/
def next [DecidableEq ρ] (S : Scheme κ χ ρ σ) :
    Session κ χ σ τ → Observation κ χ σ τ → Option (Session κ χ σ τ)
  | .fresh, .exempt => some .exempt
  | .fresh, .challenge c => some (.challenged c [])
  | .challenged c r, .response xs => some (.challenged c (r ++ xs))
  | .challenged _ _, .failed => some .failed
  | .challenged c r, .answered t => some (.answered c r t)
  | .answered c r _, .accept k => if S.Correct k c r then some (.accepted c r k) else none
  | .answered c r _, .refuse k => if S.Correct k c r then none else some (.refused c r k)
  | .exempt, .input _ => some .exempt
  | .accepted c r k, .input _ => some (.accepted c r k)
  | _, _ => none

end Session

/-- **The protocol** of a connection. -/
def protocol (S : Scheme κ χ ρ σ) (τ : Type*) [DecidableEq ρ] :
    Machine (Session κ χ σ τ) (Observation κ χ σ τ) where
  init s := s = .fresh
  step := Session.next S

/-! ### Traces -/

/-- The symbols received as a response. -/
def responses : List (Observation κ χ σ τ) → List σ :=
  List.flatMap fun | .response xs => xs | _ => []

@[simp] theorem responses_nil : responses ([] : List (Observation κ χ σ τ)) = [] := rfl

theorem responses_append (trace trace' : List (Observation κ χ σ τ)) :
    responses (trace ++ trace') = responses trace ++ responses trace' := List.flatMap_append

/-- The only challenge that was sent. -/
def Challenged (trace : List (Observation κ χ σ τ)) (c : χ) : Prop :=
  ∀ c', .challenge c' ∈ trace ↔ c' = c

/-- A response to the only challenge has been accepted, and all that was received as a response is
the right one under the key. -/
def Verified (S : Scheme κ χ ρ σ) (trace : List (Observation κ χ σ τ)) : Prop :=
  ∃ c k, Challenged trace c ∧ .accept k ∈ trace ∧ S.Correct k c (responses trace)

/-- What a session says of the observations so far. -/
def Described (S : Scheme κ χ ρ σ) (trace : List (Observation κ χ σ τ)) :
    Session κ χ σ τ → Prop
  | .fresh => trace = []
  | .exempt => .exempt ∈ trace ∧ ∀ c, .challenge c ∉ trace
  | .challenged c r => Challenged trace c ∧ responses trace = r
  | .failed => .failed ∈ trace
  | .answered c r t => Challenged trace c ∧ responses trace = r ∧ .answered t ∈ trace
  | .accepted c r k => Challenged trace c ∧ responses trace = r ∧ (∃ t, .answered t ∈ trace) ∧
    .accept k ∈ trace ∧ S.Correct k c r
  | .refused c r k => Challenged trace c ∧ responses trace = r ∧ (∃ t, .answered t ∈ trace) ∧
    .refuse k ∈ trace ∧ ¬ S.Correct k c r

theorem responses_append_of_ne (trace : List (Observation κ χ σ τ)) {o : Observation κ χ σ τ}
    (ho : ∀ xs, o ≠ .response xs) : responses (trace ++ [o]) = responses trace := by
  rw [responses_append]
  cases o with
  | response xs => exact absurd rfl (ho xs)
  | _ => exact List.append_nil _

theorem Challenged.append {trace : List (Observation κ χ σ τ)} {c : χ} (h : Challenged trace c)
    {o : Observation κ χ σ τ} (ho : ∀ c', o ≠ .challenge c') : Challenged (trace ++ [o]) c := by
  intro c'
  rw [← h c', List.mem_append, List.mem_singleton]
  exact or_iff_left fun heq => ho c' heq.symm

theorem Described.verified {S : Scheme κ χ ρ σ} {trace : List (Observation κ χ σ τ)} {c : χ}
    {r : List σ} {k : κ} (h : Described S trace (.accepted c r k)) : Verified S trace := by
  obtain ⟨hc, hr, -, hk, hcorrect⟩ := h
  exact ⟨c, k, hc, hk, hr ▸ hcorrect⟩

section Protocol

variable [DecidableEq ρ] {S : Scheme κ χ ρ σ}

/-- What one observation adds. -/
theorem Described.next {trace : List (Observation κ χ σ τ)} {s s' : Session κ χ σ τ}
    {o : Observation κ χ σ τ} (h : Described S trace s) (hs : s.next S o = some s') :
    Described S (trace ++ [o]) s' := by
  cases s <;> cases o <;> simp only [Session.next, Option.ite_none_right_eq_some,
    Option.ite_none_left_eq_some, Option.some.injEq, reduceCtorEq] at hs
  case fresh.exempt =>
    subst hs
    obtain rfl : trace = [] := h
    exact ⟨by simp, by simp⟩
  case fresh.challenge c =>
    subst hs
    obtain rfl : trace = [] := h
    exact ⟨fun c' => by simp, rfl⟩
  case exempt.input xs =>
    subst hs
    exact ⟨List.mem_append_left _ h.1, fun c => by simpa using h.2 c⟩
  case challenged.response c r xs =>
    subst hs
    exact ⟨h.1.append nofun, by rw [responses_append, h.2]; simp [responses]⟩
  case challenged.failed c r =>
    subst hs
    exact List.mem_append_right _ (List.mem_singleton_self _)
  case challenged.answered c r t =>
    subst hs
    exact ⟨h.1.append nofun, (responses_append_of_ne trace (by nofun)).trans h.2, by simp⟩
  case answered.accept c r t k =>
    obtain ⟨hcorrect, rfl⟩ := hs
    obtain ⟨hc, hr, ht⟩ := h
    exact ⟨hc.append nofun, (responses_append_of_ne trace (by nofun)).trans hr,
      ⟨t, List.mem_append_left _ ht⟩, by simp, hcorrect⟩
  case answered.refuse c r t k =>
    obtain ⟨hwrong, rfl⟩ := hs
    obtain ⟨hc, hr, ht⟩ := h
    exact ⟨hc.append nofun, (responses_append_of_ne trace (by nofun)).trans hr,
      ⟨t, List.mem_append_left _ ht⟩, by simp, hwrong⟩
  case accepted.input c r k xs =>
    subst hs
    obtain ⟨hc, hr, ⟨t, ht⟩, hk, hcorrect⟩ := h
    exact ⟨hc.append nofun, (responses_append_of_ne trace (by nofun)).trans hr,
      ⟨t, List.mem_append_left _ ht⟩, List.mem_append_left _ hk, hcorrect⟩

/-- **What a session says** of the observations that have led to it. -/
theorem described_of_run {trace : List (Observation κ χ σ τ)} {s : Session κ χ σ τ}
    (h : (protocol S τ).run .fresh trace = some s) : Described S trace s := by
  induction trace using List.reverseRecOn generalizing s with
  | nil =>
    obtain rfl := Option.some.inj h
    rfl
  | append_singleton trace o ih =>
    rw [Machine.run_append] at h
    obtain ⟨t, ht, hs⟩ := Option.bind_eq_some_iff.1 h
    obtain ⟨s', hs', hlast⟩ := Option.bind_eq_some_iff.1 hs
    obtain rfl := Option.some.inj hlast
    exact (ih ht).next hs'

/-- A trace with an observation: the session before it, and what comes after. -/
theorem run_append_cons {trace trace' : List (Observation κ χ σ τ)} {o : Observation κ χ σ τ}
    {s : Session κ χ σ τ}
    (h : (protocol S τ).run .fresh (trace ++ o :: trace') = some s) :
    ∃ t t', Described S trace t ∧ t.next S o = some t' ∧
      (protocol S τ).run t' trace' = some s := by
  rw [Machine.run_append] at h
  obtain ⟨t, ht, hs⟩ := Option.bind_eq_some_iff.1 h
  obtain ⟨t', ht', hrest⟩ := Option.bind_eq_some_iff.1 hs
  exact ⟨t, t', described_of_run ht, ht', hrest⟩

/-- **Nothing is passed on before a response is verified**, unless the connection is exempt. -/
theorem verified_of_input {trace trace' : List (Observation κ χ σ τ)} {xs : List σ}
    {s : Session κ χ σ τ}
    (h : (protocol S τ).run .fresh (trace ++ .input xs :: trace') = some s) :
    .exempt ∈ trace ∨ Verified S trace := by
  obtain ⟨t, t', hdescribed, hnext, -⟩ := run_append_cons h
  cases t with
  | exempt => exact .inl hdescribed.1
  | accepted c r k => exact .inr hdescribed.verified
  | fresh => cases hnext
  | challenged c r => cases hnext
  | failed => cases hnext
  | answered c r t => cases hnext
  | refused c r k => cases hnext

/-- A connection is refused only after a wrong response. -/
theorem wrong_of_refuse {trace : List (Observation κ χ σ τ)} {k : κ} {s : Session κ χ σ τ}
    (h : (protocol S τ).run .fresh trace = some s) (hk : .refuse k ∈ trace) :
    ∃ c, Challenged trace c ∧ ¬ S.Correct k c (responses trace) := by
  have hdescribed := described_of_run h
  obtain ⟨before, after, rfl⟩ := List.append_of_mem hk
  obtain ⟨t, t', -, hnext, hrest⟩ := run_append_cons h
  cases t <;> simp only [Session.next, Option.ite_none_left_eq_some, Option.some.injEq,
    reduceCtorEq] at hnext
  case answered c r t =>
    obtain ⟨hwrong, rfl⟩ := hnext
    -- nothing follows a refusal
    cases after with
    | nil =>
      obtain rfl := Option.some.inj hrest
      obtain ⟨hc, hr, -⟩ := hdescribed
      exact ⟨c, hc, hr.symm ▸ hwrong⟩
    | cons o rest => cases hrest

/-- A response that is complete waits until it is accepted or refused. -/
theorem answered_of_mem {trace : List (Observation κ χ σ τ)} {t : τ} {s : Session κ χ σ τ}
    (h : (protocol S τ).run .fresh trace = some s) (ht : .answered t ∈ trace)
    (hopen : ∀ k, .accept k ∉ trace ∧ .refuse k ∉ trace) : ∃ c r, s = .answered c r t := by
  obtain ⟨before, after, rfl⟩ := List.append_of_mem ht
  obtain ⟨u, u', -, hnext, hrest⟩ := run_append_cons h
  cases u <;> simp only [Session.next, Option.some.injEq, reduceCtorEq] at hnext
  case challenged c r =>
    subst hnext
    cases after with
    | nil => exact ⟨c, r, (Option.some.inj hrest).symm⟩
    | cons o rest =>
      -- only a verdict can follow
      obtain ⟨u, hu, -⟩ := Option.bind_eq_some_iff.1 hrest
      cases o with
      | accept k => exact absurd (by simp) (hopen k).1
      | refuse k => exact absurd (by simp) (hopen k).2
      | _ => cases hu

end Protocol

end ChallengeResponse

end Lcm
