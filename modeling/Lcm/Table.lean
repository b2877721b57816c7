import Mathlib.Data.List.Basic
import Mathlib.Logic.Function.Basic

/-!
# Tables with free slots

A `Table P named n` is an array of `n` slots, each of which is free or holds a value that is
`named`: to store a value without a name is to free its slot.

## Main definitions

* `Table.set`, `Table.available`, `Table.find` : storing, the first free slot, the first slot
  with a given value.
* `Table.All` : a property of all values in the table.
* `Table.map` : all values are changed, none of them in its name.
* `Table.keys` : what is in the slots, as far as a key tells it.

## Main results

* `Table.set_cases` : what is in the table after a value is stored.
* `Table.All.set` : the rule for properties of all values.
* `Table.keys_set`, `Table.All.of_keys` : storing a value with the same key changes no property
  that depends on the key.
-/

namespace Lcm

/-- `n` slots for values that are `named`. -/
structure Table (P : Type*) (named : P → Bool) (n : ℕ) where
  /-- What is in a slot. -/
  get : ℕ → Option P
  /-- There are no other slots. -/
  get_of_le : ∀ i, n ≤ i → get i = none
  /-- A slot holds what is named. -/
  named_of_get : ∀ i p, get i = some p → named p = true

namespace Table

variable {P : Type*} {named : P → Bool} {n : ℕ}

/-- All slots are free. -/
def empty : Table P named n := ⟨fun _ => none, fun _ _ => rfl, fun _ _ h => nomatch h⟩

/-- A value is stored; without a name, its slot is free. -/
def set (t : Table P named n) (i : ℕ) (p : P) : Table P named n where
  get := if i < n then Function.update t.get i (if named p then some p else none) else t.get
  get_of_le j hj := by
    split
    · rw [Function.update_of_ne (by omega), t.get_of_le j hj]
    · exact t.get_of_le j hj
  named_of_get j q hq := by
    by_cases hi : i < n
    · rw [if_pos hi] at hq
      by_cases hji : j = i
      · subst hji
        rw [Function.update_self, Option.ite_none_right_eq_some] at hq
        exact Option.some.inj hq.2 ▸ hq.1
      · rw [Function.update_of_ne hji] at hq
        exact t.named_of_get j q hq
    · rw [if_neg hi] at hq
      exact t.named_of_get j q hq

/-- The first free slot, or the number of slots. -/
def available (t : Table P named n) : ℕ := (List.range n).findIdx fun i => (t.get i).isNone

/-- The first slot with a value of a kind, or the number of slots. -/
def find (t : Table P named n) (kind : P → Bool) : ℕ :=
  (List.range n).findIdx fun i => (t.get i).any kind

/-- Some slot has a value of a kind. -/
def any (t : Table P named n) (kind : P → Bool) : Bool :=
  (List.range n).any fun i => (t.get i).any kind

/-- All values are changed, none of them in its name. -/
def map (t : Table P named n) (f : P → P) (hf : ∀ p, named (f p) = named p) :
    Table P named n where
  get i := (t.get i).map f
  get_of_le i hi := by rw [t.get_of_le i hi, Option.map_none]
  named_of_get i p hp := by
    obtain ⟨q, hq, rfl⟩ := Option.map_eq_some_iff.1 hp
    rw [hf, t.named_of_get i q hq]

/-- What is in the slots, as far as a key tells it. -/
def keys {K : Type*} (key : P → K) (t : Table P named n) (i : ℕ) : Option K := (t.get i).map key

/-- All values in the table have a property. -/
def All (Q : ℕ → P → Prop) (t : Table P named n) : Prop := ∀ i p, t.get i = some p → Q i p

variable {t : Table P named n} {i j : ℕ} {p q : P} {Q R : ℕ → P → Prop}

theorem lt_of_get (h : t.get i = some p) : i < n := by
  by_contra hi
  rw [t.get_of_le i (Nat.le_of_not_lt hi)] at h
  cases h

theorem get_set :
    (t.set i p).get =
      if i < n then Function.update t.get i (if named p then some p else none) else t.get := rfl

theorem get_set_ne (h : j ≠ i) : (t.set i p).get j = t.get j := by
  simp only [set]
  split
  · exact Function.update_of_ne h _ _
  · rfl

theorem get_set_self (hi : i < n) : (t.set i p).get i = if named p then some p else none := by
  simp only [set, if_pos hi, Function.update_self]

theorem get_set_named (hi : i < n) (hp : named p = true) : (t.set i p).get i = some p := by
  rw [get_set_self hi, if_pos hp]

/-- A value without a name leaves a free slot free. -/
theorem set_unnamed (h : t.get i = none) (hp : named p = false) : t.set i p = t := by
  obtain ⟨get, get_of_le, named_of_get⟩ := t
  simp only [set, hp, mk.injEq, Bool.false_eq_true, if_false]
  split
  · exact Function.update_eq_self_iff.2 h.symm
  · rfl

/-- **Storing a value changes nothing** exactly if it is already there. -/
theorem set_eq_self_iff (h : t.get i = some p) : t.set i q = t ↔ q = p := by
  have hi := lt_of_get h
  constructor
  · intro hset
    have hself := get_set_self (t := t) (p := q) hi
    rw [hset, h] at hself
    split at hself
    · exact (Option.some.inj hself).symm
    · cases hself
  · rintro rfl
    have hget : (t.set i q).get = t.get := by
      rw [get_set, if_pos hi, if_pos (t.named_of_get i q h), ← h, Function.update_eq_self]
    obtain ⟨get, get_of_le, named_of_get⟩ := t
    simp only [set, mk.injEq] at hget ⊢
    exact hget

/-- **What is in the table after a value is stored**: the value, or what was there before. -/
theorem set_cases (h : (t.set i p).get j = some q) :
    j = i ∧ q = p ∧ i < n ∨ j ≠ i ∧ t.get j = some q ∨ ¬ i < n ∧ t.get j = some q := by
  by_cases hi : i < n
  · by_cases hji : j = i
    · subst hji
      rw [get_set_self hi, Option.ite_none_right_eq_some] at h
      exact .inl ⟨rfl, (Option.some.inj h.2).symm, hi⟩
    · exact .inr (.inl ⟨hji, by rwa [get_set_ne hji] at h⟩)
  · simp only [set, if_neg hi] at h
    exact .inr (.inr ⟨hi, h⟩)

theorem findIdx_range (kind : ℕ → Bool) (h : (List.range n).findIdx kind < n) :
    kind ((List.range n).findIdx kind) = true := by
  have hlength : (List.range n).findIdx kind < (List.range n).length := by rwa [List.length_range]
  have hfound := List.findIdx_getElem (w := hlength)
  rwa [List.getElem_range] at hfound

theorem available_le : t.available ≤ n := by
  have h : t.available ≤ (List.range n).length := List.findIdx_le_length
  rwa [List.length_range] at h

theorem get_available (h : t.available < n) : t.get t.available = none :=
  Option.isNone_iff_eq_none.1 (findIdx_range (fun i => (t.get i).isNone) h)

/-- The slots before the first free one are used. -/
theorem isSome_get (h : i < t.available) : (t.get i).isSome = true := by
  have hfirst := List.not_of_lt_findIdx h
  rw [List.getElem_range] at hfirst
  exact Option.isNone_eq_false_iff.1 hfirst

theorem available_lt (hi : i < n) (h : t.get i = none) : t.available < n := by
  have hlength : t.available < (List.range n).length :=
    List.findIdx_lt_length_of_exists ⟨i, List.mem_range.2 hi, Option.isNone_iff_eq_none.2 h⟩
  rwa [List.length_range] at hlength

theorem find_eq (kind : P → Bool) (h : t.All fun _ p => kind p = false) : t.find kind = n := by
  have hlength : t.find kind = (List.range n).length := by
    refine List.findIdx_eq_length_of_false fun i _ => ?_
    rw [Option.any_eq_false]
    intro p hp
    exact h i p hp
  rwa [List.length_range] at hlength

theorem exists_get_find {kind : P → Bool} (h : t.find kind < n) :
    ∃ p, t.get (t.find kind) = some p ∧ kind p = true := by
  have hfound := findIdx_range (fun i => (t.get i).any kind) h
  exact (Option.any_eq_true ..).1 hfound

/-- **The first slot with a value of a kind.** -/
theorem find_eq_iff {kind : P → Bool} (hi : i < n) : t.find kind = i ↔
    (∃ p, t.get i = some p ∧ kind p = true) ∧ ∀ j < i, ∀ q, t.get j = some q → kind q = false := by
  have hlength : i < (List.range n).length := by rwa [List.length_range]
  rw [find, List.findIdx_eq hlength]
  simp only [List.getElem_range, Option.any_eq_true, Option.any_eq_false]

theorem any_eq_true {kind : P → Bool} :
    t.any kind = true ↔ ∃ i p, t.get i = some p ∧ kind p = true := by
  simp only [any, List.any_eq_true, List.mem_range, Option.any_eq_true]
  constructor
  · rintro ⟨i, -, p, hp, hkind⟩
    exact ⟨i, p, hp, hkind⟩
  · rintro ⟨i, p, hp, hkind⟩
    exact ⟨i, lt_of_get hp, p, hp, hkind⟩

theorem any_eq_false {kind : P → Bool} :
    t.any kind = false ↔ t.All fun _ p => kind p = false := by
  rw [← Bool.not_eq_true, any_eq_true]
  constructor
  · intro h i p hp
    exact Bool.eq_false_iff.2 fun hkind => h ⟨i, p, hp, hkind⟩
  · rintro h ⟨i, p, hp, hkind⟩
    exact Bool.false_ne_true ((h i p hp).symm.trans hkind)

theorem all_empty : (empty : Table P named n).All Q := fun _ _ h => nomatch h

theorem All.imp (h : t.All Q) (hQ : ∀ i p, Q i p → R i p) : t.All R :=
  fun i p hp => hQ i p (h i p hp)

/-- **The rule for properties of all values**: what is stored has to have it, if it is named. -/
theorem All.set (h : t.All Q) (hp : named p = true → Q i p) : (t.set i p).All Q := by
  intro j q hq
  have hname := (t.set i p).named_of_get j q hq
  obtain ⟨rfl, rfl, -⟩ | ⟨-, hq⟩ | ⟨-, hq⟩ := set_cases hq
  · exact hp hname
  · exact h j q hq
  · exact h j q hq

theorem All.map {f : P → P} (hf : ∀ p, named (f p) = named p) (h : t.All Q)
    (hQ : ∀ i p, Q i p → R i (f p)) : (t.map f hf).All R := by
  intro i p hp
  obtain ⟨q, hq, rfl⟩ := Option.map_eq_some_iff.1 hp
  exact hQ i q (h i q hq)

/-! ### Keys -/

section Keys

variable {K : Type*} {key : P → K} {t' : Table P named n}

/-- **Storing a value with the key of the one that was there** changes no key. -/
theorem keys_set (h : t.get i = some p) (hkey : key q = key p) (hname : named q = named p) :
    (t.set i q).keys key = t.keys key := by
  funext j
  by_cases hj : j = i
  · subst hj
    have hq : named q = true := by rw [hname, t.named_of_get j p h]
    rw [keys, keys, get_set_named (lt_of_get h) hq, h, Option.map_some, Option.map_some, hkey]
  · rw [keys, keys, get_set_ne hj]

theorem keys_map {f : P → P} (hf : ∀ p, named (f p) = named p) (h : ∀ p, key (f p) = key p) :
    (t.map f hf).keys key = t.keys key := by
  funext i
  rw [keys, keys, map, Option.map_map]
  exact Option.map_congr fun p _ => h p

/-- What the key determines stays with it. -/
theorem keys_comp {L : Type*} (f : K → L) (h : t'.keys key = t.keys key) :
    t'.keys (fun p => f (key p)) = t.keys fun p => f (key p) := by
  funext i
  have hi := congrArg (Option.map f) (congrFun h i)
  rwa [keys, keys, Option.map_map, Option.map_map] at hi

theorem exists_of_keys (h : t'.keys key = t.keys key) (hp : t'.get i = some p) :
    ∃ q, t.get i = some q ∧ key q = key p := by
  have hi := congrFun h i
  rw [keys, keys, hp, Option.map_some] at hi
  exact Option.map_eq_some_iff.1 hi.symm

/-- **A property that depends on the key** stays true while the keys do. -/
theorem All.of_keys (h : t'.keys key = t.keys key) (hall : t.All Q)
    (hQ : ∀ i p q, key q = key p → Q i q → R i p) : t'.All R := by
  intro i p hp
  obtain ⟨q, hq, hkey⟩ := exists_of_keys h hp
  exact hQ i p q hkey (hall i q hq)

end Keys

end Table

end Lcm
