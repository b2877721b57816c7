import Mathlib.Data.List.TakeWhile
import Mathlib.Data.List.Basic
import Mathlib.Data.Nat.Notation

/-!
# Strings in memory

What a pointer points to is the list of what is in memory from there on, up to its end: whoever
looks for a terminator that is not there runs off it.

## Main definitions

* `strlen`, `strstr`, `strncpy` : the functions of the C library.
* `scanned` : how much of its source `strncpy` reads.

## Main results

* `strlen_append`, `strstr_append` : what is found in the first part of a memory.
* `strstr_eq_found_iff` : what `strstr` finds.
* `strncpy_eq_take_iff` : when `strncpy` copies what is there.
-/

namespace Lcm

namespace Strings

variable {α : Type*} [DecidableEq α] [Zero α]

/-- `strlen` -/
def strlen : List α → Option ℕ
  | [] => none
  | c :: s => if c = 0 then some 0 else (strlen s).map (· + 1)

/-- What a search ends with. -/
inductive Search
  /-- What was looked for is here. -/
  | found (i : ℕ)
  /-- It is not in front of the terminator, which is here. -/
  | absent (i : ℕ)
  /-- There is no terminator. -/
  | overrun
  deriving DecidableEq

/-- A search that began one further. -/
def Search.succ : Search → Search
  | .found i => .found (i + 1)
  | .absent i => .absent (i + 1)
  | .overrun => .overrun

/-- `strstr` -/
def strstr (pat : List α) : List α → Search
  | [] => .overrun
  | c :: s =>
    if pat <+: c :: s then .found 0 else if c = 0 then .absent 0 else (strstr pat s).succ

/-- `strncpy`: what is written. -/
def strncpy : ℕ → List α → Option (List α)
  | 0, _ => some []
  | _ + 1, [] => none
  | n + 1, c :: s =>
    if c = 0 then some (List.replicate (n + 1) 0) else (strncpy n s).map (c :: ·)

/-- How much `strncpy` reads. -/
def scanned (n : ℕ) (s : List α) : ℕ := min n ((s.takeWhile (· ≠ 0)).length + 1)

variable {s t pat : List α} {n i : ℕ}

/-! ### The length -/

/-- **A terminator in the first part** of a memory is the first one of all of it. -/
theorem strlen_append : strlen (s ++ t) = some n ∧ n < s.length ↔ strlen s = some n := by
  induction s generalizing n with
  | nil => simp [strlen]
  | cons c s ih =>
    by_cases hc : c = 0
    · simp only [List.cons_append, strlen, if_pos hc, Option.some.injEq, List.length_cons]
      omega
    · simp only [List.cons_append, strlen, if_neg hc, Option.map_eq_some_iff, ← ih,
        List.length_cons]
      constructor
      · rintro ⟨⟨m, hm, rfl⟩, hlt⟩
        exact ⟨m, ⟨hm, by omega⟩, rfl⟩
      · rintro ⟨m, ⟨hm, hlt⟩, rfl⟩
        exact ⟨⟨m, hm, rfl⟩, by omega⟩

theorem strlen_append_of_notMem (h : 0 ∉ s) :
    strlen (s ++ t) = (strlen t).map (· + s.length) := by
  induction s with
  | nil => simp
  | cons c s ih =>
    have hc : c ≠ 0 := fun hc => h (hc ▸ List.mem_cons_self)
    rw [List.cons_append, strlen, if_neg hc, ih fun hs => h (List.mem_cons_of_mem _ hs),
      Option.map_map]
    rfl

/-! ### The search -/

theorem Search.succ_eq_found_iff {r : Search} :
    r.succ = .found i ↔ ∃ j, r = .found j ∧ i = j + 1 := by
  cases r with
  | found j => simp [succ, eq_comm]
  | absent j => simp [succ]
  | overrun => simp [succ]

/-- **A match in the first part** of a memory is the first one of all of it. -/
theorem strstr_append (hpat : pat ≠ []) :
    strstr pat (s ++ t) = .found i ∧ i + pat.length ≤ s.length ↔ strstr pat s = .found i := by
  have hlength := List.length_pos_of_ne_nil hpat
  induction s generalizing i with
  | nil =>
    refine iff_of_false ?_ (by simp [strstr])
    rintro ⟨-, hle⟩
    exact absurd (Nat.le_of_add_left_le hle) (Nat.not_le.2 hlength)
  | cons c s ih =>
    rw [List.cons_append, strstr, strstr]
    by_cases hshort : pat <+: c :: s
    · have hwhole : pat <+: c :: (s ++ t) := hshort.trans (List.prefix_append (c :: s) t)
      rw [if_pos hshort, if_pos hwhole, and_iff_left_iff_imp]
      intro h
      cases h
      rw [Nat.zero_add]
      exact hshort.length_le
    rw [if_neg hshort]
    by_cases hwhole : pat <+: c :: (s ++ t)
    · -- The match goes beyond the first part, which is then shorter than what is looked for.
      have hlong : (c :: s).length < pat.length := by
        by_contra hle
        exact hshort (List.prefix_of_prefix_length_le hwhole (List.prefix_append (c :: s) t)
          (not_lt.1 hle))
      rw [List.length_cons] at hlong
      rw [if_pos hwhole]
      refine iff_of_false (fun h => ?_) ?_
      · have hle := h.2
        rw [List.length_cons] at hle
        omega
      · split
        · exact Search.noConfusion
        · rw [Search.succ_eq_found_iff]
          rintro ⟨j, hj, -⟩
          have hle := (ih.2 hj).2
          omega
    rw [if_neg hwhole]
    split
    · exact iff_of_false (fun h => Search.noConfusion h.1) Search.noConfusion
    · rw [Search.succ_eq_found_iff, Search.succ_eq_found_iff, List.length_cons]
      constructor
      · rintro ⟨⟨j, hj, rfl⟩, hle⟩
        exact ⟨j, ih.1 ⟨hj, by omega⟩, rfl⟩
      · rintro ⟨j, hj, rfl⟩
        obtain ⟨hj, hle⟩ := ih.2 hj
        exact ⟨⟨j, hj, rfl⟩, by omega⟩

/-- **What is found** is the first match, and no terminator is in front of it. -/
theorem strstr_eq_found_iff (hpat : pat ≠ []) : strstr pat s = .found i ↔
    pat <+: s.drop i ∧ 0 ∉ s.take i ∧ ∀ j < i, ¬pat <+: s.drop j := by
  induction s generalizing i with
  | nil => simp [strstr, hpat]
  | cons c s ih =>
    rw [strstr]
    by_cases hbegins : pat <+: c :: s
    · rw [if_pos hbegins, Search.found.injEq]
      constructor
      · rintro rfl
        exact ⟨hbegins, List.not_mem_nil, fun j hj => absurd hj (Nat.not_lt_zero j)⟩
      · rintro ⟨-, -, hfirst⟩
        by_contra hi
        exact hfirst 0 (Nat.pos_of_ne_zero (Ne.symm hi)) hbegins
    rw [if_neg hbegins]
    cases i with
    | zero =>
      refine iff_of_false (fun h => ?_) fun h => hbegins h.1
      split at h
      · cases h
      · obtain ⟨j, -, hj⟩ := Search.succ_eq_found_iff.1 h
        exact absurd hj.symm (Nat.succ_ne_zero j)
    | succ i =>
      by_cases hc : c = 0
      · rw [if_pos hc]
        refine iff_of_false Search.noConfusion fun h => h.2.1 ?_
        rw [hc, List.take_succ_cons]
        exact List.mem_cons_self
      · rw [if_neg hc, Search.succ_eq_found_iff]
        simp only [Nat.add_right_cancel_iff, exists_eq_right', ih, List.drop_succ_cons,
          List.take_succ_cons, List.mem_cons, Ne.symm hc, false_or, Nat.forall_lt_succ_left,
          List.drop_zero, hbegins, not_false_eq_true, true_and]

/-! ### Copying -/

theorem scanned_le (n : ℕ) (s : List α) : scanned n s ≤ n := min_le_left _ _

theorem length_of_strncpy (h : strncpy n s = some t) : t.length = n := by
  induction n generalizing s t with
  | zero =>
    cases h
    rfl
  | succ n ih =>
    cases s with
    | nil => cases h
    | cons c s =>
      rw [strncpy] at h
      split at h
      · cases h
        exact List.length_replicate
      · obtain ⟨t, ht, rfl⟩ := Option.map_eq_some_iff.1 h
        rw [List.length_cons, ih ht]

/-- **What is there is copied**, up to a length, exactly if nothing is behind a terminator. -/
theorem strncpy_eq_take_iff (h : n ≤ s.length) :
    strncpy n s = some (s.take n) ↔ ∀ c ∈ (s.take n).dropWhile (· ≠ 0), c = 0 := by
  induction s generalizing n with
  | nil =>
    obtain rfl := Nat.le_zero.1 h
    simp [strncpy]
  | cons c s ih =>
    cases n with
    | zero => simp [strncpy]
    | succ n =>
      have h : n ≤ s.length := Nat.le_of_succ_le_succ h
      by_cases hc : c = 0
      · rw [strncpy, if_pos hc, Option.some.injEq, List.take_succ_cons,
          List.dropWhile_cons_of_neg (by simp [hc]), List.replicate_succ, hc, List.cons_inj_right]
        constructor
        · intro heq b hb
          obtain rfl | hb := List.mem_cons.1 hb
          · rfl
          · exact List.eq_of_mem_replicate (heq ▸ hb)
        · intro hzero
          refine (List.eq_replicate_iff.2 ⟨List.length_take_of_le h, fun b hb => ?_⟩).symm
          exact hzero b (List.mem_cons_of_mem _ hb)
      · simp [strncpy, hc, ih h]

theorem strncpy_append_of_notMem (h : 0 ∉ s) : strncpy s.length (s ++ t) = some s := by
  have hle : s.length ≤ (s ++ t).length := by
    rw [List.length_append]
    exact Nat.le_add_right _ _
  have hcopied := (strncpy_eq_take_iff hle).2
  rw [List.take_left' rfl, List.dropWhile_eq_nil_iff.2] at hcopied
  · exact hcopied fun c hc => nomatch hc
  · intro c hc
    exact decide_eq_true fun hzero => h (hzero ▸ hc)

end Strings

end Lcm
