import Mathlib.Data.List.Basic

/-!
# Routines that may not end

A `Routine σ μ α` computes a value of type `α` on a state of type `σ`, and leaves a trace of what it
does on the way.  It is run with some fuel, which is only there to cut off the loops that do not
end: a run with more fuel does the same and more.  So there is one trace, finite or not, and the
routine ends if some amount of fuel suffices.

## Main definitions

* `Routine`, `Routine.act`, `Routine.iter` : routines, what they are made of, and their loops.
* `Routine.Ends`, `Routine.Returns` : a run to the end, with its trace; there is one.
* `Routine.Reaches`, `Routine.DoesAtMost` : what is in the trace of a routine that may not end.

## Main results

* `Routine.ends_bind`, `Routine.ends_iter` : the runs of a sequence and of a loop.
* `Routine.Ends.iterInduction` : the induction over the rounds of a loop that ends.
-/

namespace Lcm

/-! ### Progress -/

/-- How far a run has come: what it has done, and its result if it has ended. -/
structure Progress (μ τ : Type) where
  /-- What it has done, in order. -/
  trace : List μ
  /-- The result, if it has ended. -/
  result : Option τ

namespace Progress

variable {μ τ α σ : Type} {x y z : Progress μ τ}

/-- `y` is how far the run of `x` comes with more fuel. -/
def Continues (x y : Progress μ τ) : Prop := x.result = none ∧ x.trace <+: y.trace ∨ x = y

theorem Continues.refl (x : Progress μ τ) : x.Continues x := .inr rfl

theorem Continues.trace (h : x.Continues y) : x.trace <+: y.trace := by
  rcases h with ⟨-, hle⟩ | rfl
  · exact hle
  · exact List.prefix_rfl

theorem Continues.trans (h : x.Continues y) (h' : y.Continues z) : x.Continues z := by
  rcases h with ⟨hnone, hle⟩ | rfl
  · exact .inl ⟨hnone, hle.trans h'.trace⟩
  · exact h'

theorem Continues.eq_of_result {r : τ} (h : x.Continues y) (hr : x.result = some r) : x = y := by
  rcases h with ⟨hnone, -⟩ | rfl
  · cases hnone.symm.trans hr
  · rfl

/-- One run after the other. -/
def andThen (x : Progress μ (α × σ)) (f : α → σ → Progress μ τ) : Progress μ τ :=
  match x.result with
  | none => ⟨x.trace, none⟩
  | some (a, s) => ⟨x.trace ++ (f a s).trace, (f a s).result⟩

theorem andThen_continues {x y : Progress μ (α × σ)} {f g : α → σ → Progress μ τ}
    (h : x.Continues y) (hfg : ∀ a s, (f a s).Continues (g a s)) :
    (x.andThen f).Continues (y.andThen g) := by
  rcases h with ⟨hnone, hle⟩ | rfl
  · refine .inl ⟨by rw [andThen, hnone], ?_⟩
    rw [andThen, hnone, andThen]
    cases y.result with
    | none => exact hle
    | some r => exact hle.trans (List.prefix_append _ _)
  · rw [andThen, andThen]
    cases x.result with
    | none => exact .refl _
    | some r =>
      rcases hfg r.1 r.2 with ⟨hnone, hle⟩ | heq
      · exact .inl ⟨hnone, (List.prefix_append_right_inj _).2 hle⟩
      · exact .inr (by simp only [heq])

theorem andThen_result {x : Progress μ (α × σ)} {f : α → σ → Progress μ τ} {r : τ} :
    (x.andThen f).result = some r ↔
      ∃ a s, x.result = some (a, s) ∧ (f a s).result = some r := by
  rw [andThen]
  cases x.result with
  | none => simp
  | some as => simp [Prod.ext_iff, and_assoc]

theorem andThen_of_result {x : Progress μ (α × σ)} {f : α → σ → Progress μ τ} {a : α} {s : σ}
    (h : x.result = some (a, s)) :
    x.andThen f = ⟨x.trace ++ (f a s).trace, (f a s).result⟩ := by
  rw [andThen, h]

end Progress

/-! ### Routines -/

/-- A computation on a state that leaves a trace and may not end. -/
@[ext] structure Routine (σ μ α : Type) where
  /-- How far it comes with some fuel. -/
  run : ℕ → σ → Progress μ (α × σ)
  /-- With more fuel it does the same and more. -/
  continues : ∀ n s, (run n s).Continues (run (n + 1) s)

namespace Routine

variable {σ μ α β γ : Type}

/-- Something is done, with a value, and added to the trace. -/
def act (f : σ → List μ × α × σ) : Routine σ μ α where
  run _ s := ⟨(f s).1, some (f s).2⟩
  continues _ _ := .refl _

instance : Monad (Routine σ μ) where
  pure a := act fun s => ([], a, s)
  bind p f :=
    { run := fun n s => (p.run n s).andThen fun a s => (f a).run n s
      continues := fun n s =>
        Progress.andThen_continues (p.continues n s) fun a s => (f a).continues n s }

/-- The state. -/
def get : Routine σ μ σ := act fun s => ([], s, s)

/-- A change of the state. -/
def modify (f : σ → σ) : Routine σ μ Unit := act fun s => ([], (), f s)

/-- An entry of the trace. -/
def mark (m : μ) : Routine σ μ Unit := act fun s => ([m], (), s)

/-- A loop, with a number of rounds left. -/
def iterRun (body : β → Routine σ μ (β ⊕ γ)) : ℕ → ℕ → β → σ → Progress μ (γ × σ)
  | 0, _, _, _ => ⟨[], none⟩
  | rounds + 1, n, b, s => ((body b).run n s).andThen fun
      | .inl b, s => iterRun body rounds n b s
      | .inr c, s => ⟨[], some (c, s)⟩

variable {p : Routine σ μ α} {f : α → Routine σ μ β} {body : β → Routine σ μ (β ⊕ γ)}
  {s s' s₁ s₂ : σ} {a a₁ a₂ : α} {b : β} {c : γ} {t t₁ t₂ : List μ} {m : μ} {n k : ℕ}

theorem iterRun_mono {rounds rounds' n n' : ℕ} (hrounds : rounds ≤ rounds')
    (hn : ∀ b s, ((body b).run n s).Continues ((body b).run n' s)) (b : β) (s : σ) :
    (iterRun body rounds n b s).Continues (iterRun body rounds' n' b s) := by
  induction rounds generalizing rounds' b s with
  | zero => exact .inl ⟨rfl, List.nil_prefix⟩
  | succ rounds ih =>
    obtain ⟨rounds', rfl⟩ : ∃ r, rounds' = r + 1 := ⟨rounds' - 1, by omega⟩
    refine Progress.andThen_continues (hn b s) fun r s => ?_
    cases r with
    | inl b => exact ih (Nat.le_of_succ_le_succ hrounds) b s
    | inr c => exact .refl _

/-- `do … while`: rounds until one has a result. -/
def iter (body : β → Routine σ μ (β ⊕ γ)) (b : β) : Routine σ μ γ where
  run n s := iterRun body n n b s
  continues n s := iterRun_mono (Nat.le_succ n) (fun b s => (body b).continues n s) b s

/-! ### Runs -/

/-- **The routine ends**: its trace, its value and the last state. -/
def Ends (p : Routine σ μ α) (s : σ) (t : List μ) (a : α) (s' : σ) : Prop :=
  ∃ n, p.run n s = ⟨t, some (a, s')⟩

/-- The routine ends. -/
def Returns (p : Routine σ μ α) (s : σ) : Prop := ∃ t a s', p.Ends s t a s'

/-- The routine does `m`, whether or not it ends. -/
def Reaches (p : Routine σ μ α) (s : σ) (m : μ) : Prop := ∃ n, m ∈ (p.run n s).trace

/-- What the routine does has a property at most `k` times, whether or not it ends. -/
def DoesAtMost (p : Routine σ μ α) (s : σ) (D : μ → Bool) (k : ℕ) : Prop :=
  ∀ n, (p.run n s).trace.countP D ≤ k

theorem run_continues (p : Routine σ μ α) (h : n ≤ k) (s : σ) :
    (p.run n s).Continues (p.run k s) := by
  induction h with
  | refl => exact .refl _
  | step _ ih => exact ih.trans (p.continues _ s)

theorem run_of_le (h : p.run n s = ⟨t, some (a, s')⟩) (hle : n ≤ k) :
    p.run k s = ⟨t, some (a, s')⟩ :=
  ((run_continues p hle s).eq_of_result (congrArg Progress.result h)).symm.trans h

/-- **There is one run to the end.** -/
theorem Ends.unique (h : p.Ends s t₁ a₁ s₁) (h' : p.Ends s t₂ a₂ s₂) :
    t₁ = t₂ ∧ a₁ = a₂ ∧ s₁ = s₂ := by
  obtain ⟨n, hn⟩ := h
  obtain ⟨k, hk⟩ := h'
  have heq := (run_of_le hn (Nat.le_max_left n k)).symm.trans (run_of_le hk (Nat.le_max_right n k))
  simpa using heq

theorem Ends.returns (h : p.Ends s t a s') : p.Returns s := ⟨t, a, s', h⟩

/-- All of a trace is in the trace of a run to the end. -/
theorem Ends.trace_isPrefix (h : p.Ends s t a s') (n : ℕ) : (p.run n s).trace <+: t := by
  obtain ⟨k, hk⟩ := h
  have hle := (run_continues p (Nat.le_max_left n k) s).trace
  rwa [run_of_le hk (Nat.le_max_right n k)] at hle

theorem Ends.reaches (h : p.Ends s t a s') : p.Reaches s m ↔ m ∈ t := by
  constructor
  · rintro ⟨n, hn⟩
    exact (h.trace_isPrefix n).subset hn
  · intro hm
    obtain ⟨n, hn⟩ := h
    exact ⟨n, by rwa [hn]⟩

theorem Ends.doesAtMost {D : μ → Bool} (h : p.Ends s t a s') :
    p.DoesAtMost s D k ↔ t.countP D ≤ k := by
  constructor
  · intro hk
    obtain ⟨n, hn⟩ := h
    have hle := hk n
    rwa [hn] at hle
  · intro hk n
    exact Nat.le_trans ((h.trace_isPrefix n).sublist.countP_le) hk

/-! ### The runs of the parts -/

@[simp] theorem ends_act {f : σ → List μ × α × σ} :
    (act f).Ends s t a s' ↔ f s = (t, a, s') := by
  constructor
  · rintro ⟨n, hn⟩
    have heq : ((f s).1, (f s).2) = (t, a, s') := by
      simpa [act, Prod.ext_iff] using hn
    exact heq
  · intro h
    exact ⟨0, by simp [act, h]⟩

@[simp] theorem ends_pure :
    (pure a : Routine σ μ α).Ends s t a₁ s' ↔ t = [] ∧ a₁ = a ∧ s' = s := by
  refine ends_act.trans ?_
  simp [eq_comm]

@[simp] theorem ends_get : (get : Routine σ μ σ).Ends s t s₁ s' ↔ t = [] ∧ s₁ = s ∧ s' = s := by
  refine ends_act.trans ?_
  simp [eq_comm]

@[simp] theorem ends_modify {f : σ → σ} {u : Unit} :
    (modify f : Routine σ μ Unit).Ends s t u s' ↔ t = [] ∧ s' = f s := by
  refine ends_act.trans ?_
  simp [eq_comm]

@[simp] theorem ends_mark {u : Unit} : (mark m : Routine σ μ Unit).Ends s t u s' ↔
    t = [m] ∧ s' = s := by
  refine ends_act.trans ?_
  simp [eq_comm]

/-- **A sequence ends** if both its parts do. -/
theorem ends_bind : (p >>= f).Ends s t b s' ↔
    ∃ t₁ a s₁ t₂, p.Ends s t₁ a s₁ ∧ (f a).Ends s₁ t₂ b s' ∧ t = t₁ ++ t₂ := by
  constructor
  · rintro ⟨n, hn⟩
    have hresult : ((p.run n s).andThen fun a s => (f a).run n s).result = some (b, s') :=
      congrArg Progress.result hn
    obtain ⟨a, s₁, hp, hf⟩ := Progress.andThen_result.1 hresult
    have hrun := (Progress.andThen_of_result hp).symm.trans hn
    refine ⟨(p.run n s).trace, a, s₁, ((f a).run n s₁).trace, ⟨n, by rw [← hp]⟩,
      ⟨n, by rw [← hf]⟩, ?_⟩
    exact (congrArg Progress.trace hrun).symm
  · rintro ⟨t₁, a, s₁, t₂, ⟨n, hn⟩, ⟨k, hk⟩, rfl⟩
    refine ⟨max n k, ?_⟩
    have hp := run_of_le hn (Nat.le_max_left n k)
    have hf := run_of_le hk (Nat.le_max_right n k)
    change (p.run _ s).andThen (fun a s => (f a).run _ s) = _
    rw [Progress.andThen_of_result (congrArg Progress.result hp), hp, hf]

theorem returns_bind : (p >>= f).Returns s ↔
    ∃ t a s', p.Ends s t a s' ∧ (f a).Returns s' := by
  constructor
  · rintro ⟨t, b, s', h⟩
    obtain ⟨t₁, a, s₁, t₂, hp, hf, -⟩ := ends_bind.1 h
    exact ⟨t₁, a, s₁, hp, hf.returns⟩
  · rintro ⟨t₁, a, s₁, hp, t₂, b, s', hf⟩
    exact ⟨_, b, s', ends_bind.2 ⟨t₁, a, s₁, t₂, hp, hf, rfl⟩⟩

/-- The trace of a sequence whose first part ends. -/
theorem trace_bind (hp : p.Ends s t a s') : ∃ k, ∀ n, k ≤ n →
    ((p >>= f).run n s).trace = t ++ ((f a).run n s').trace := by
  obtain ⟨k, hk⟩ := hp
  refine ⟨k, fun n hn => ?_⟩
  have hrun := run_of_le hk hn
  have hbind : (p >>= f).run n s = (p.run n s).andThen fun a s => (f a).run n s := rfl
  rw [hbind, Progress.andThen_of_result (congrArg Progress.result hrun), hrun]

/-- A sequence begins with what its first part does. -/
theorem trace_bind_isPrefix (n : ℕ) : (p.run n s).trace <+: ((p >>= f).run n s).trace := by
  change _ <+: ((p.run n s).andThen fun a s => (f a).run n s).trace
  rw [Progress.andThen]
  split
  · exact List.prefix_rfl
  · exact List.prefix_append _ _

/-- **What a sequence does**, the first part or, when that has ended, the second. -/
theorem reaches_bind : (p >>= f).Reaches s m ↔
    p.Reaches s m ∨ ∃ t a s', p.Ends s t a s' ∧ (f a).Reaches s' m := by
  constructor
  · rintro ⟨n, hn⟩
    have hbind : (p >>= f).run n s = (p.run n s).andThen fun a s => (f a).run n s := rfl
    rw [hbind] at hn
    cases hresult : (p.run n s).result with
    | none =>
      rw [Progress.andThen, hresult] at hn
      exact .inl ⟨n, hn⟩
    | some as =>
      obtain ⟨a, s'⟩ := as
      rw [Progress.andThen_of_result hresult] at hn
      rcases List.mem_append.1 hn with hfirst | hsecond
      · exact .inl ⟨n, hfirst⟩
      · exact .inr ⟨(p.run n s).trace, a, s', ⟨n, by rw [← hresult]⟩, n, hsecond⟩
  · rintro (⟨n, hn⟩ | ⟨t, a, s', hp, n, hn⟩)
    · exact ⟨n, (trace_bind_isPrefix n).subset hn⟩
    · obtain ⟨k, hk⟩ := trace_bind (f := f) hp
      refine ⟨max k n, ?_⟩
      rw [hk _ (Nat.le_max_left k n)]
      exact List.mem_append_right _
        ((run_continues (f a) (Nat.le_max_right k n) s').trace.subset hn)

theorem DoesAtMost.of_bind {D : μ → Bool} (h : (p >>= f).DoesAtMost s D k) :
    p.DoesAtMost s D k := fun n =>
  Nat.le_trans (trace_bind_isPrefix n).sublist.countP_le (h n)

theorem DoesAtMost.second {D : μ → Bool} (h : (p >>= f).DoesAtMost s D k)
    (hp : p.Ends s t a s') : t.countP D ≤ k ∧ (f a).DoesAtMost s' D (k - t.countP D) := by
  obtain ⟨j, hj⟩ := trace_bind (f := f) hp
  have hsum : ∀ n, t.countP D + ((f a).run n s').trace.countP D ≤ k := by
    intro n
    have hle := h (max j n)
    rw [hj _ (Nat.le_max_left j n), List.countP_append] at hle
    have hmono :=
      (run_continues (f a) (Nat.le_max_right j n) s').trace.sublist.countP_le (p := D)
    omega
  refine ⟨Nat.le_trans (Nat.le_add_right _ _) (hsum 0), fun n => ?_⟩
  have := hsum n
  omega

/-! ### Loops -/

/-- A run of `p` with any fuel is a part of a run of `q`. -/
def Within (p q : Routine σ μ α) : Prop :=
  ∀ n s, ∃ k, (p.run n s).Continues (q.run k s)

theorem Within.ends {q : Routine σ μ α} (h : p.Within q) (hp : p.Ends s t a s') :
    q.Ends s t a s' := by
  obtain ⟨n, hn⟩ := hp
  obtain ⟨k, hk⟩ := h n s
  exact ⟨k, (hk.eq_of_result (congrArg Progress.result hn)).symm.trans hn⟩

theorem Within.reaches {q : Routine σ μ α} (h : p.Within q) (hp : p.Reaches s m) :
    q.Reaches s m := by
  obtain ⟨n, hn⟩ := hp
  obtain ⟨k, hk⟩ := h n s
  exact ⟨k, hk.trace.subset hn⟩

theorem Within.doesAtMost {q : Routine σ μ α} {D : μ → Bool} (h : p.Within q)
    (hq : q.DoesAtMost s D k) : p.DoesAtMost s D k := by
  intro n
  obtain ⟨j, hj⟩ := h n s
  exact Nat.le_trans hj.trace.sublist.countP_le (hq j)

/-- A loop after one round. -/
def unrolled (body : β → Routine σ μ (β ⊕ γ)) (b : β) : Routine σ μ γ :=
  body b >>= fun r => match r with
    | .inl b => iter body b
    | .inr c => pure c

theorem unrolled_run (body : β → Routine σ μ (β ⊕ γ)) (b : β) (n : ℕ) (s : σ) :
    (unrolled body b).run n s = ((body b).run n s).andThen fun
      | .inl b, s => iterRun body n n b s
      | .inr c, s => ⟨[], some (c, s)⟩ := by
  rw [unrolled]
  change ((body b).run n s).andThen _ = ((body b).run n s).andThen _
  congr 1
  funext r s
  cases r with
  | inl b => rfl
  | inr c => rfl

theorem iter_within (body : β → Routine σ μ (β ⊕ γ)) (b : β) :
    (iter body b).Within (unrolled body b) := by
  intro n s
  refine ⟨n, ?_⟩
  rw [unrolled_run]
  cases n with
  | zero => exact .inl ⟨rfl, List.nil_prefix⟩
  | succ n =>
    refine Progress.andThen_continues (.refl _) fun r s => ?_
    cases r with
    | inl b => exact iterRun_mono (Nat.le_succ n) (fun b s => .refl _) b s
    | inr c => exact .refl _

theorem within_iter (body : β → Routine σ μ (β ⊕ γ)) (b : β) :
    (unrolled body b).Within (iter body b) := by
  intro n s
  refine ⟨n + 1, ?_⟩
  rw [unrolled_run]
  refine Progress.andThen_continues ((body b).continues n s) fun r s => ?_
  cases r with
  | inl b => exact iterRun_mono (Nat.le_refl n) (fun b s => (body b).continues n s) b s
  | inr c => exact .refl _

/-- **A loop ends** with the round that has a result, or in the rounds after the first one. -/
theorem ends_iter : (iter body b).Ends s t c s' ↔ (body b).Ends s t (.inr c) s' ∨
    ∃ t₁ b' s₁ t₂, (body b).Ends s t₁ (.inl b') s₁ ∧ (iter body b').Ends s₁ t₂ c s' ∧
      t = t₁ ++ t₂ := by
  have hunroll : (iter body b).Ends s t c s' ↔ (unrolled body b).Ends s t c s' :=
    ⟨(iter_within body b).ends, (within_iter body b).ends⟩
  rw [hunroll, unrolled, ends_bind]
  constructor
  · rintro ⟨t₁, r, s₁, t₂, hbody, hrest, rfl⟩
    cases r with
    | inl b' => exact .inr ⟨t₁, b', s₁, t₂, hbody, hrest, rfl⟩
    | inr c' =>
      obtain ⟨rfl, rfl, rfl⟩ := ends_pure.1 hrest
      exact .inl (by rwa [List.append_nil])
  · rintro (hbody | ⟨t₁, b', s₁, t₂, hbody, hrest, rfl⟩)
    · exact ⟨t, .inr c, s', [], hbody, ends_pure.2 ⟨rfl, rfl, rfl⟩, (List.append_nil t).symm⟩
    · exact ⟨t₁, .inl b', s₁, t₂, hbody, hrest, rfl⟩

/-- What a loop does. -/
theorem reaches_iter : (iter body b).Reaches s m ↔ (body b).Reaches s m ∨
    ∃ t b' s', (body b).Ends s t (.inl b') s' ∧ (iter body b').Reaches s' m := by
  have hunroll : (iter body b).Reaches s m ↔ (unrolled body b).Reaches s m :=
    ⟨(iter_within body b).reaches, (within_iter body b).reaches⟩
  rw [hunroll, unrolled, reaches_bind]
  refine or_congr_right ⟨?_, ?_⟩
  · rintro ⟨t, r, s', hbody, hrest⟩
    cases r with
    | inl b' => exact ⟨t, b', s', hbody, hrest⟩
    | inr c' =>
      obtain ⟨n, hn⟩ := hrest
      cases hn
  · rintro ⟨t, b', s', hbody, hrest⟩
    exact ⟨t, .inl b', s', hbody, hrest⟩

theorem doesAtMost_iter {D : μ → Bool} :
    (iter body b).DoesAtMost s D k ↔ (unrolled body b).DoesAtMost s D k :=
  ⟨(within_iter body b).doesAtMost, (iter_within body b).doesAtMost⟩

/-- **The induction over the rounds** of a loop that ends. -/
theorem Ends.iterInduction {P : β → σ → List μ → γ → σ → Prop}
    (last : ∀ {b s t c s'}, (body b).Ends s t (.inr c) s' → P b s t c s')
    (round : ∀ {b s t₁ b' s₁ t₂ c s'}, (body b).Ends s t₁ (.inl b') s₁ → P b' s₁ t₂ c s' →
      P b s (t₁ ++ t₂) c s')
    (h : (iter body b).Ends s t c s') : P b s t c s' := by
  obtain ⟨n, hn⟩ := h
  have hrounds : ∀ rounds b s t, iterRun body rounds n b s = ⟨t, some (c, s')⟩ → P b s t c s' := by
    intro rounds
    induction rounds with
    | zero =>
      intro b s t hrun
      cases hrun
    | succ rounds ih =>
      intro b s t hrun
      have hresult := congrArg Progress.result hrun
      obtain ⟨r, s₁, hbody, hrest⟩ := Progress.andThen_result.1 hresult
      have heq := (Progress.andThen_of_result hbody).symm.trans hrun
      have htrace := congrArg Progress.trace heq
      have hround : (body b).Ends s ((body b).run n s).trace r s₁ := ⟨n, by rw [← hbody]⟩
      cases r with
      | inl b' =>
        obtain rfl : _ ++ (iterRun body rounds n b' s₁).trace = t := htrace
        exact round hround (ih b' s₁ _ (by rw [← hrest]))
      | inr c' =>
        obtain ⟨rfl, rfl⟩ : c' = c ∧ s₁ = s' := by simpa using hrest
        obtain rfl : _ ++ [] = t := htrace
        rw [List.append_nil]
        exact last hround
  exact hrounds n b s t hn

end Routine

end Lcm
