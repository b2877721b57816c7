import Mathlib.Data.List.Induction
import Mathlib.Data.List.Perm.Basic

/-!
# Updates in any order

A list of updates is applied to a state from left to right.  When any two of them commute, their
order does not matter; when each is idempotent besides, an update that is in the list may be applied
once more, and the list changes nothing only if none of its updates does.

## Main definitions

* `Commuting`, `Idempotent` : the two properties, of the updates in a list.

## Main results

* `Commuting.foldl_perm` : the order does not matter.
* `foldl_absorb` : an update that is in the list may be applied before.
* `foldl_eq_self_iff` : the list changes nothing exactly if no update does.
-/

namespace Lcm

variable {σ α : Type*} {f : σ → α → σ} {l l' : List α} {s : σ} {a : α}

/-- Any two updates in a list commute. -/
def Commuting (f : σ → α → σ) (l : List α) : Prop :=
  ∀ a ∈ l, ∀ b ∈ l, ∀ s, f (f s a) b = f (f s b) a

/-- No update in a list does more the second time. -/
def Idempotent (f : σ → α → σ) (l : List α) : Prop := ∀ a ∈ l, ∀ s, f (f s a) a = f s a

theorem Commuting.of_perm (h : Commuting f l) (hl : l.Perm l') : Commuting f l' :=
  fun a ha b hb => h a (hl.mem_iff.2 ha) b (hl.mem_iff.2 hb)

theorem Idempotent.of_perm (h : Idempotent f l) (hl : l.Perm l') : Idempotent f l' :=
  fun a ha => h a (hl.mem_iff.2 ha)

/-- **The order of the updates does not matter** if any two of them commute. -/
theorem Commuting.foldl_perm (h : Commuting f l) (hl : l.Perm l') (s : σ) :
    l.foldl f s = l'.foldl f s :=
  hl.foldl_eq' h s

/-- An update in a list comes first in another order. -/
theorem exists_perm_cons (ha : a ∈ l) : ∃ rest, l.Perm (a :: rest) := by
  obtain ⟨before, rest, rfl⟩ := List.append_of_mem ha
  exact ⟨before ++ rest, List.perm_middle⟩

/-- **An update that is in the list may be applied before.** -/
theorem foldl_absorb (hcomm : Commuting f l) (hidem : Idempotent f l) (ha : a ∈ l) (s : σ) :
    l.foldl f (f s a) = l.foldl f s := by
  obtain ⟨rest, hl⟩ := exists_perm_cons ha
  rw [hcomm.foldl_perm hl, hcomm.foldl_perm hl, List.foldl_cons, List.foldl_cons, hidem a ha]

/-- Updates that are all in the list may be applied before. -/
theorem foldl_absorb_all (hcomm : Commuting f l) (hidem : Idempotent f l) (hl : ∀ a ∈ l', a ∈ l)
    (s : σ) : l.foldl f (l'.foldl f s) = l.foldl f s := by
  induction l' using List.reverseRecOn with
  | nil => rfl
  | append_singleton l' a ih =>
    rw [List.foldl_append, List.foldl_cons, List.foldl_nil,
      foldl_absorb hcomm hidem (hl a (List.mem_append_right _ List.mem_cons_self))]
    exact ih fun b hb => hl b (List.mem_append_left _ hb)

/-- The last update may be any of them. -/
theorem foldl_last (hcomm : Commuting f l) (ha : a ∈ l) : ∃ t, l.foldl f s = f t a := by
  obtain ⟨rest, hl⟩ := exists_perm_cons ha
  refine ⟨rest.foldl f s, ?_⟩
  rw [hcomm.foldl_perm (hl.trans (List.perm_append_singleton a rest).symm), List.foldl_append]
  rfl

/-- **A list of updates changes nothing** exactly if none of them does. -/
theorem foldl_eq_self_iff (hcomm : Commuting f l) (hidem : Idempotent f l) :
    l.foldl f s = s ↔ ∀ a ∈ l, f s a = s := by
  constructor
  · intro h a ha
    obtain ⟨t, ht⟩ := foldl_last (s := s) hcomm ha
    rw [← h, ht, hidem a ha]
  · intro h
    clear hcomm hidem
    induction l with
    | nil => rfl
    | cons a l ih =>
      rw [List.foldl_cons, h a List.mem_cons_self]
      exact ih fun b hb => h b (List.mem_cons_of_mem a hb)

end Lcm
