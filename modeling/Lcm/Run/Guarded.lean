import Lcm.Run.Routine

/-!
# When routines end, and what they keep

Two ways to say something about all runs of a routine that is put together from parts.  A relation
between the states before and after and the trace is kept by the whole if it is kept by the parts.
And a routine is guarded if what it does tells whether it ends: it does exactly if all it does is
good and some things are done only finitely often.

## Main definitions

* `Composes`, `Routine.Keeps` : relations that can be put together, and what keeps them.
* `Routine.GuardedAt` : what a routine does tells whether it ends.

## Main results

* `Routine.keeps_bind`, `Routine.keeps_iter` : sequences and loops.
* `Routine.GuardedAt.bind` : a sequence.
* `Routine.guardedAt_iter` : a loop.
-/

namespace Lcm

variable {σ μ α β γ : Type}

/-! ### What is kept -/

/-- A relation between two states and what is done between them can be put together. -/
structure Composes (R : σ → List μ → σ → Prop) : Prop where
  nil : ∀ s, R s [] s
  append : ∀ {s t s₁ t₁ s'}, R s t s₁ → R s₁ t₁ s' → R s (t ++ t₁) s'

namespace Routine

variable {p : Routine σ μ α} {f : α → Routine σ μ β} {body : β → Routine σ μ (β ⊕ γ)}
  {s s' s₁ : σ} {a : α} {b : β} {t : List μ} {m : μ} {k : ℕ}

/-- The states before and after the routine are related, with what it has done. -/
def Keeps (R : σ → List μ → σ → Prop) (p : Routine σ μ α) : Prop :=
  ∀ ⦃s t a s'⦄, p.Ends s t a s' → R s t s'

section Keeps

variable {R : σ → List μ → σ → Prop} (hR : Composes R)
include hR

theorem keeps_pure (a : α) : (pure a : Routine σ μ α).Keeps R := by
  intro s t a' s' h
  obtain ⟨rfl, -, rfl⟩ := ends_pure.1 h
  exact hR.nil _

theorem keeps_get : (get : Routine σ μ σ).Keeps R := by
  intro s t a s' h
  obtain ⟨rfl, -, rfl⟩ := ends_get.1 h
  exact hR.nil _

theorem keeps_bind (hp : p.Keeps R) (hf : ∀ a, (f a).Keeps R) : (p >>= f).Keeps R := by
  intro s t b s' h
  obtain ⟨t₁, a, s₁, t₂, hfirst, hsecond, rfl⟩ := ends_bind.1 h
  exact hR.append (hp hfirst) (hf a hsecond)

theorem keeps_iter (hbody : ∀ b, (body b).Keeps R) (b : β) : (iter body b).Keeps R := by
  intro s t c s' h
  refine Ends.iterInduction (P := fun _ s t _ s' => R s t s') ?_ ?_ h
  · intro b s t c s' hlast
    exact hbody b hlast
  · intro b s t₁ b' s₁ t₂ c s' hround ih
    exact hR.append (hbody b hround) ih

end Keeps

/-! ### When routines end -/

/-- What the routine does tells whether it ends: it does if all of it is good, and only finitely
often what is counted. -/
def GuardedAt (G : μ → Prop) (D : μ → Bool) (p : Routine σ μ α) (s : σ) : Prop :=
  p.Returns s ↔ (∀ m, p.Reaches s m → G m) ∧ ∃ k, p.DoesAtMost s D k

variable {G : μ → Prop} {D : μ → Bool}

/-- A routine that ends is guarded if what it does is good. -/
theorem Ends.guardedAt (h : p.Ends s t a s') (ht : ∀ m ∈ t, G m) : p.GuardedAt G D s :=
  iff_of_true h.returns
    ⟨fun m hm => ht m (h.reaches.1 hm), t.countP D, h.doesAtMost.2 (Nat.le_refl _)⟩

theorem guardedAt_pure (a : α) : (pure a : Routine σ μ α).GuardedAt G D s :=
  (ends_pure.2 ⟨rfl, rfl, rfl⟩ : (pure a : Routine σ μ α).Ends s [] a s).guardedAt
    (List.forall_mem_nil _)

theorem guardedAt_get : (get : Routine σ μ σ).GuardedAt G D s :=
  (ends_get.2 ⟨rfl, rfl, rfl⟩ : (get : Routine σ μ σ).Ends s [] s s).guardedAt
    (List.forall_mem_nil _)

theorem guardedAt_modify (f : σ → σ) : (modify f : Routine σ μ Unit).GuardedAt G D s :=
  (ends_modify.2 ⟨rfl, rfl⟩ : (modify f : Routine σ μ Unit).Ends s [] () (f s)).guardedAt
    (List.forall_mem_nil _)

/-- **A sequence.** -/
theorem GuardedAt.bind (hp : p.GuardedAt G D s)
    (hf : ∀ t a s', p.Ends s t a s' → (f a).GuardedAt G D s') : (p >>= f).GuardedAt G D s := by
  constructor
  · intro h
    obtain ⟨t, a, s', hfirst, hsecond⟩ := returns_bind.1 h
    obtain ⟨hgood, -⟩ := hp.1 hfirst.returns
    obtain ⟨hgood', -⟩ := (hf t a s' hfirst).1 hsecond
    refine ⟨fun m hm => ?_, ?_⟩
    · rcases reaches_bind.1 hm with hm | ⟨t₁, a₁, s₁, hends, hm⟩
      · exact hgood m hm
      · obtain ⟨-, rfl, rfl⟩ := hfirst.unique hends
        exact hgood' m hm
    · obtain ⟨t, b, s', hends⟩ := h
      exact ⟨_, hends.doesAtMost.2 (Nat.le_refl _)⟩
  · rintro ⟨hgood, k, hk⟩
    obtain ⟨t, a, s', hfirst⟩ :=
      hp.2 ⟨fun m hm => hgood m (reaches_bind.2 (.inl hm)), k, hk.of_bind⟩
    refine returns_bind.2 ⟨t, a, s', hfirst, (hf t a s' hfirst).2 ⟨fun m hm => ?_, ?_⟩⟩
    · exact hgood m (reaches_bind.2 (.inr ⟨t, a, s', hfirst, hm⟩))
    · exact ⟨_, (hk.second hfirst).2⟩

/-- Something that decides whether a routine ends is put before it. -/
theorem guardedAt_mark_bind (hgood : G m → p.GuardedAt G D s) (hbad : ¬ G m → ¬ p.Returns s) :
    (mark m >>= fun _ => p).GuardedAt G D s := by
  have hmark : (mark m : Routine σ μ Unit).Ends s [m] () s := ends_mark.2 ⟨rfl, rfl⟩
  by_cases hm : G m
  · refine GuardedAt.bind (hmark.guardedAt (by simpa using hm)) fun t a s' h => ?_
    obtain ⟨-, rfl⟩ := ends_mark.1 h
    exact hgood hm
  · refine iff_of_false ?_ ?_
    · rintro ⟨t, a, s', h⟩
      obtain ⟨t₁, u, s₁, t₂, hfirst, hsecond, -⟩ := ends_bind.1 h
      obtain ⟨-, rfl⟩ := ends_mark.1 hfirst
      exact hbad hm hsecond.returns
    · rintro ⟨hall, -⟩
      refine hm (hall m (reaches_bind.2 (.inl ?_)))
      exact hmark.reaches.2 List.mem_cons_self

/-- **A loop.**  In each of its rounds something gets smaller, or there is something that is
counted. -/
theorem guardedAt_iter {I : β → σ → Prop} (size : β → σ → ℕ)
    (hbody : ∀ b s, I b s → (body b).GuardedAt G D s)
    (hround : ∀ b s t b' s', I b s → (body b).Ends s t (.inl b') s' →
      I b' s' ∧ (0 < t.countP D ∨ size b' s' < size b s)) (hI : I b s) :
    (iter body b).GuardedAt G D s := by
  constructor
  · rintro ⟨t, c, s', h⟩
    have hgood : I b s → ∀ m ∈ t, G m := by
      refine Ends.iterInduction (P := fun b s t _ _ => I b s → ∀ m ∈ t, G m) ?_ ?_ h
      · intro b s t c s' hlast hI m hm
        exact ((hbody b s hI).1 hlast.returns).1 m (hlast.reaches.2 hm)
      · intro b s t₁ b' s₁ t₂ c s' hr ih hI m hm
        rcases List.mem_append.1 hm with hm | hm
        · exact ((hbody b s hI).1 hr.returns).1 m (hr.reaches.2 hm)
        · exact ih (hround b s t₁ b' s₁ hI hr).1 m hm
    exact ⟨fun m hm => hgood hI m (h.reaches.1 hm), _, h.doesAtMost.2 (Nat.le_refl _)⟩
  · rintro ⟨hgood, k, hk⟩
    -- a round uses up one of the `k` times, or else it makes something smaller
    induction k using Nat.strongRecOn generalizing b s with
    | _ k ihCount =>
      induction hsize : size b s using Nat.strongRecOn generalizing b s with
      | _ n ihSize =>
        have hk' := doesAtMost_iter.1 hk
        have hfirst : (body b).Returns s := (hbody b s hI).2
          ⟨fun m hm => hgood m (reaches_iter.2 (.inl hm)), k, hk'.of_bind⟩
        obtain ⟨t, r, s', hr⟩ := hfirst
        cases r with
        | inr c => exact ⟨t, c, s', ends_iter.2 (.inl hr)⟩
        | inl b' =>
          obtain ⟨hI', hprogress⟩ := hround b s t b' s' hI hr
          obtain ⟨hle, hrest⟩ := hk'.second hr
          have hgood' : ∀ m, (iter body b').Reaches s' m → G m := fun m hm =>
            hgood m (reaches_iter.2 (.inr ⟨t, b', s', hr, hm⟩))
          have hends : (iter body b').Returns s' := by
            by_cases hcount : 0 < t.countP D
            · exact ihCount (k - t.countP D) (by omega) hI' hgood' hrest
            · have hzero : t.countP D = 0 := Nat.eq_zero_of_not_pos hcount
              have hsmaller := hprogress.resolve_left hcount
              rw [hzero, Nat.sub_zero] at hrest
              exact ihSize (size b' s') (by omega) hI' hgood' hrest rfl
          obtain ⟨t', c, s'', hends⟩ := hends
          exact ⟨t ++ t', c, s'', ends_iter.2 (.inr ⟨t, b', s', t', hr, hends, rfl⟩)⟩

end Routine

end Lcm
