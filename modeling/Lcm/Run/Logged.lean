/-!
# Computations that keep a log

A `Logged ι α` is a value together with the list of what was done to compute it: the accesses to
an array, for instance, so that a property of them all can be stated.

## Main definitions

* `Logged ι α` : a value and a log, as a monad.
* `Logged.touch` : one entry of the log.
* `Logged.All` : a property of all entries.

## Main results

* `Logged.log_bind` : the log of two computations is one log after the other.
* `Logged.all_bind` : what holds of all entries of both.
* `Logged.all_foldlM` : what holds of all entries of a loop.
-/

namespace Lcm

/-- A value and a log. -/
@[ext] structure Logged (ι α : Type) where
  /-- The value computed. -/
  value : α
  /-- The log, in order. -/
  log : List ι

namespace Logged

variable {ι α β : Type} {P : ι → Prop}

instance : Monad (Logged ι) where
  pure a := ⟨a, []⟩
  bind x f := ⟨(f x.value).value, x.log ++ (f x.value).log⟩

/-- Add one entry to the log. -/
def touch (i : ι) : Logged ι Unit := ⟨(), [i]⟩

@[simp] theorem value_pure (a : α) : (pure a : Logged ι α).value = a := rfl

@[simp] theorem log_pure (a : α) : (pure a : Logged ι α).log = [] := rfl

@[simp] theorem value_bind (x : Logged ι α) (f : α → Logged ι β) :
    (x >>= f).value = (f x.value).value := rfl

@[simp] theorem log_bind (x : Logged ι α) (f : α → Logged ι β) :
    (x >>= f).log = x.log ++ (f x.value).log := rfl

@[simp] theorem value_map (f : α → β) (x : Logged ι α) : (f <$> x).value = f x.value := rfl

@[simp] theorem log_map (f : α → β) (x : Logged ι α) : (f <$> x).log = x.log := List.append_nil _

@[simp] theorem value_touch (i : ι) : (touch i).value = () := rfl

@[simp] theorem log_touch (i : ι) : (touch i).log = [i] := rfl

instance : LawfulMonad (Logged ι) :=
  .mk' _ (fun x => Logged.ext rfl (List.append_nil x.log)) (fun _ _ => rfl)
    fun _ _ _ => Logged.ext rfl (List.append_assoc ..)

/-- What holds of all entries of the log. -/
def All (P : ι → Prop) (x : Logged ι α) : Prop := ∀ i ∈ x.log, P i

instance [DecidablePred P] (x : Logged ι α) : Decidable (x.All P) :=
  inferInstanceAs (Decidable (∀ i ∈ x.log, P i))

@[simp] theorem all_pure (a : α) : (pure a : Logged ι α).All P := fun _ h => nomatch h

@[simp] theorem all_touch (i : ι) : (touch i).All P ↔ P i := by simp [All]

@[simp] theorem all_bind (x : Logged ι α) (f : α → Logged ι β) :
    (x >>= f).All P ↔ x.All P ∧ (f x.value).All P := by
  simp [All, or_imp, forall_and]

@[simp] theorem all_map (f : α → β) (x : Logged ι α) : (f <$> x).All P ↔ x.All P := by
  simp [All]

/-! ### Loops over a list -/

variable {f : β → α → Logged ι β}

theorem value_foldlM (l : List α) (b : β) :
    (l.foldlM f b).value = l.foldl (fun b a => (f b a).value) b := by
  induction l generalizing b with
  | nil => rfl
  | cons a l ih =>
    rw [List.foldlM_cons, value_bind, ih]
    rfl

/-- What is done in each round is done in the loop, if the rounds do not depend on what is
accumulated. -/
theorem all_foldlM {Q : α → Prop} (h : ∀ b a, (f b a).All P ↔ Q a) (l : List α) (b : β) :
    (l.foldlM f b).All P ↔ ∀ a ∈ l, Q a := by
  induction l generalizing b with
  | nil => simp
  | cons a l ih => rw [List.foldlM_cons, all_bind, h, ih, List.forall_mem_cons]

/-- A round that always does something else is enough for the loop not to do the same. -/
theorem not_all_foldlM {l : List α} {a : α} (ha : a ∈ l) (h : ∀ b, ¬ (f b a).All P) (b : β) :
    ¬ (l.foldlM f b).All P := by
  induction l generalizing b with
  | nil => cases ha
  | cons c l ih =>
    rw [List.foldlM_cons, all_bind]
    rcases List.mem_cons.1 ha with rfl | ha
    · exact fun hall => h b hall.1
    · exact fun hall => ih ha _ hall.2

end Logged

end Lcm
