import Mathlib.Data.Finset.Card
import Mathlib.Data.Finset.Range
import Mathlib.Data.Fintype.Card
import Mathlib.Logic.Function.Basic

/-!
# A heap that counts frees, and tables that own its blocks

Blocks are numbered in the order in which they are allocated and are never reused, so that a
block that is freed twice, or used after it was freed, can be told from a new one.

## Main definitions

* `Heap.Live` : the block is allocated and not yet freed.
* `Heap.Owned h holds` : no block was freed twice, and the table `holds` holds every live block
  exactly once and no other block.

## Main results

* `Owned.put`, `Owned.release`, `Owned.alloc_free` : the operations that keep ownership.
* `Owned.liveCount_le` : a table of `n` entries owns at most `n` live blocks.
-/

namespace Lcm

/-- A heap: how many blocks were allocated, and how often each of them was freed. -/
structure Heap where
  /-- The number of blocks allocated so far, which is the next block. -/
  next : ℕ
  /-- How often a block was freed. -/
  freeCount : ℕ → ℕ

namespace Heap

/-- The heap after the block `h.next` is allocated. -/
def alloc (h : Heap) : Heap := { h with next := h.next + 1 }

/-- The heap after a block is freed. -/
def free (h : Heap) (x : ℕ) : Heap :=
  { h with freeCount := Function.update h.freeCount x (h.freeCount x + 1) }

/-- The block is allocated and not yet freed. -/
def Live (h : Heap) (x : ℕ) : Prop := x < h.next ∧ h.freeCount x = 0

instance (h : Heap) : DecidablePred h.Live := fun _ => inferInstanceAs (Decidable (_ ∧ _))

/-- The live blocks. -/
def liveBlocks (h : Heap) : Finset ℕ := (Finset.range h.next).filter fun x => h.freeCount x = 0

/-- The number of live blocks. -/
def liveCount (h : Heap) : ℕ := h.liveBlocks.card

@[simp] theorem mem_liveBlocks {h : Heap} {x : ℕ} : x ∈ h.liveBlocks ↔ h.Live x := by
  simp [liveBlocks, Live]

@[simp] theorem next_free (h : Heap) (x : ℕ) : (h.free x).next = h.next := rfl

@[simp] theorem freeCount_alloc (h : Heap) : h.alloc.freeCount = h.freeCount := rfl

theorem live_free {h : Heap} {x y : ℕ} : (h.free x).Live y ↔ h.Live y ∧ y ≠ x := by
  by_cases hy : y = x
  · subst hy; simp [Live, free]
  · simp [Live, free, hy]

theorem live_alloc {h : Heap} (hnew : h.freeCount h.next = 0) {y : ℕ} :
    h.alloc.Live y ↔ h.Live y ∨ y = h.next := by
  constructor
  · rintro ⟨hlt, hy⟩
    rcases Nat.lt_succ_iff_lt_or_eq.1 hlt with hlt | rfl
    · exact .inl ⟨hlt, hy⟩
    · exact .inr rfl
  · rintro (⟨hlt, hy⟩ | rfl)
    · exact ⟨Nat.lt_succ_of_lt hlt, hy⟩
    · exact ⟨Nat.lt_succ_self _, hnew⟩

theorem liveCount_free {h : Heap} {x : ℕ} (hx : h.Live x) :
    (h.free x).liveCount + 1 = h.liveCount := by
  have herase : (h.free x).liveBlocks = h.liveBlocks.erase x := by
    ext y
    simp only [mem_liveBlocks, live_free, Finset.mem_erase, and_comm]
  rw [liveCount, herase, Finset.card_erase_add_one (mem_liveBlocks.2 hx), liveCount]

theorem liveCount_alloc {h : Heap} (hnew : h.freeCount h.next = 0) :
    h.alloc.liveCount = h.liveCount + 1 := by
  have hinsert : h.alloc.liveBlocks = insert h.next h.liveBlocks := by
    ext y
    simp only [mem_liveBlocks, live_alloc hnew, Finset.mem_insert, or_comm]
  have hnot : h.next ∉ h.liveBlocks := fun hmem => Nat.lt_irrefl _ (mem_liveBlocks.1 hmem).1
  rw [liveCount, hinsert, Finset.card_insert_of_notMem hnot, liveCount]

/-! ### Ownership -/

variable {ι : Type*}

/-- The table holds every live block exactly once, and no block was freed twice. -/
structure Owned (h : Heap) (holds : ι → Option ℕ) : Prop where
  /-- A block that is not allocated was never freed. -/
  fresh : ∀ x, h.next ≤ x → h.freeCount x = 0
  /-- No block was freed twice. -/
  once : ∀ x, h.freeCount x ≤ 1
  /-- What the table holds is live. -/
  held : ∀ i x, holds i = some x → h.Live x
  /-- No block is held twice. -/
  inj : ∀ i j x, holds i = some x → holds j = some x → i = j
  /-- Every live block is held. -/
  owner : ∀ x, h.Live x → ∃ i, holds i = some x

namespace Owned

variable {h : Heap} {holds : ι → Option ℕ}

/-- A block put into an empty entry as soon as it is allocated is owned. -/
theorem put [DecidableEq ι] (ho : h.Owned holds) {i : ι} (hi : holds i = none) :
    h.alloc.Owned (Function.update holds i (some h.next)) where
  fresh x hx := ho.fresh x (Nat.le_of_succ_le hx)
  once := ho.once
  held j x hj := by
    rw [live_alloc (ho.fresh _ (Nat.le_refl _))]
    by_cases hji : j = i
    · subst hji
      rw [Function.update_self] at hj
      exact .inr (Option.some.inj hj).symm
    · rw [Function.update_of_ne hji] at hj
      exact .inl (ho.held j x hj)
  inj j k x hj hk := by
    have hold : ∀ l, holds l = some x → x ≠ h.next :=
      fun l hl => Nat.ne_of_lt (ho.held l x hl).1
    by_cases hji : j = i <;> by_cases hki : k = i
    · rw [hji, hki]
    · subst hji
      rw [Function.update_self] at hj
      rw [Function.update_of_ne hki] at hk
      exact absurd (Option.some.inj hj).symm (hold k hk)
    · subst hki
      rw [Function.update_self] at hk
      rw [Function.update_of_ne hji] at hj
      exact absurd (Option.some.inj hk).symm (hold j hj)
    · rw [Function.update_of_ne hji] at hj
      rw [Function.update_of_ne hki] at hk
      exact ho.inj j k x hj hk
  owner x hx := by
    rcases (live_alloc (ho.fresh _ (Nat.le_refl _))).1 hx with hx | rfl
    · obtain ⟨j, hj⟩ := ho.owner x hx
      have hji : j ≠ i := by rintro rfl; rw [hi] at hj; cases hj
      exact ⟨j, by rw [Function.update_of_ne hji, hj]⟩
    · exact ⟨i, Function.update_self ..⟩

/-- An entry whose block is freed as it is emptied leaves the rest owned. -/
theorem release [DecidableEq ι] (ho : h.Owned holds) {i : ι} {x : ℕ} (hi : holds i = some x) :
    (h.free x).Owned (Function.update holds i none) where
  fresh y hy := by
    have hne : y ≠ x := by
      rintro rfl
      exact Nat.lt_irrefl _ (Nat.lt_of_lt_of_le (ho.held i y hi).1 hy)
    simp only [free, Function.update_of_ne hne]
    exact ho.fresh y hy
  once y := by
    by_cases hy : y = x
    · subst hy
      simp only [free, Function.update_self, (ho.held i y hi).2, Nat.zero_add, Nat.le_refl]
    · simp only [free, Function.update_of_ne hy]
      exact ho.once y
  held j y hj := by
    have hji : j ≠ i := by rintro rfl; rw [Function.update_self] at hj; cases hj
    rw [Function.update_of_ne hji] at hj
    refine live_free.2 ⟨ho.held j y hj, ?_⟩
    rintro rfl
    exact hji (ho.inj j i y hj hi)
  inj j k y hj hk := by
    have hji : j ≠ i := by rintro rfl; rw [Function.update_self] at hj; cases hj
    have hki : k ≠ i := by rintro rfl; rw [Function.update_self] at hk; cases hk
    rw [Function.update_of_ne hji] at hj
    rw [Function.update_of_ne hki] at hk
    exact ho.inj j k y hj hk
  owner y hy := by
    obtain ⟨hy, hne⟩ := live_free.1 hy
    obtain ⟨j, hj⟩ := ho.owner y hy
    have hji : j ≠ i := by
      rintro rfl
      rw [hi] at hj
      exact hne (Option.some.inj hj).symm
    exact ⟨j, by rw [Function.update_of_ne hji, hj]⟩

/-- A block that is freed without ever being held. -/
theorem alloc_free (ho : h.Owned holds) : (h.alloc.free h.next).Owned holds where
  fresh y hy := by
    have hne : y ≠ h.next := Nat.ne_of_gt hy
    simp only [free, freeCount_alloc, Function.update_of_ne hne]
    exact ho.fresh y (Nat.le_of_succ_le hy)
  once y := by
    by_cases hy : y = h.next
    · subst hy
      simp only [free, freeCount_alloc, Function.update_self, ho.fresh _ (Nat.le_refl _),
        Nat.zero_add, Nat.le_refl]
    · simp only [free, freeCount_alloc, Function.update_of_ne hy]
      exact ho.once y
  held j y hj := by
    have hy := ho.held j y hj
    refine live_free.2 ⟨(live_alloc (ho.fresh _ (Nat.le_refl _))).2 (.inl hy), ?_⟩
    exact Nat.ne_of_lt hy.1
  inj := ho.inj
  owner y hy := by
    obtain ⟨hy, hne⟩ := live_free.1 hy
    rcases (live_alloc (ho.fresh _ (Nat.le_refl _))).1 hy with hy | rfl
    · exact ho.owner y hy
    · exact absurd rfl hne

/-- A table owns at most as many blocks as it has entries. -/
theorem liveCount_le [Fintype ι] (ho : h.Owned holds) : h.liveCount ≤ Fintype.card ι := by
  have hsub : h.liveBlocks.image some ⊆ Finset.univ.image holds := by
    intro o ho'
    obtain ⟨x, hx, rfl⟩ := Finset.mem_image.1 ho'
    obtain ⟨i, hi⟩ := ho.owner x (mem_liveBlocks.1 hx)
    exact Finset.mem_image.2 ⟨i, Finset.mem_univ i, hi⟩
  calc h.liveCount = (h.liveBlocks.image some).card :=
        (Finset.card_image_of_injective _ (Option.some_injective ℕ)).symm
    _ ≤ (Finset.univ.image holds).card := Finset.card_le_card hsub
    _ ≤ Fintype.card ι := Finset.card_image_le.trans_eq Finset.card_univ

end Owned

end Heap

end Lcm
