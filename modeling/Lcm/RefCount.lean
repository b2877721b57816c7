import Lcm.Heap
import Mathlib.Algebra.BigOperators.Group.Finset.Basic
import Mathlib.Algebra.Order.BigOperators.Group.Finset
import Mathlib.Algebra.Order.Group.Multiset
import Mathlib.Data.Finset.Max
import Mathlib.Data.Multiset.Count

/-!
# Values with reference counts

A value has members, which are values that are kept under keys.  It counts the references to it; the
one who gives up the last reference frees it, and gives up the references to its members.  Some
values are there for ever and are not counted.

The blocks of the heap are never reused, so that a value that is used after it was freed can be told
from a new one.

## Main definitions

* `Ref`, `Cell`, `Store` : a reference, a value, and the heap with all values.
* `Store.new`, `Store.setMembers`, `Store.incref`, `Store.release`, `Store.delete` : the operations;
  `delete` frees a value whatever its count is.
* `Counted s closing outside` : the counts are right, if the blocks in `outside` are referred to
  from outside of the heap, and those in `closing` are being freed.
* `Store.Top` : no value refers to this one.
* `Held s loose held` : the variables in `held` hold values that nothing else refers to.
* `Frees`, `Writes`, `Grows`, `Onward` : what the operations keep.
* `Store.Clean` : every new value has been freed exactly once, and was not used later.

## Main results

* `Counted.new`, `Counted.setMembers`, `Counted.incref`, `Counted.release`, `Counted.delete` : the
  operations keep the counts.
* `Counted.clean` : a value that nothing older refers to has been freed.
* `Held.new`, `Held.delete`, `Held.setMembers`, `Held.clean` : the same for variables.
* `fault_delete_of_member` : a value that refers to a freed one cannot be freed any more.
-/

namespace Lcm

/-- A reference to a value: one that is there for ever, or one that has been allocated. -/
inductive Ref
  | static
  | block (x : ℕ)
  deriving DecidableEq

/-- The blocks that a reference refers to. -/
def Ref.owned : Ref → Multiset ℕ
  | static => 0
  | block x => {x}

@[simp] theorem Ref.owned_static : static.owned = 0 := rfl

@[simp] theorem Ref.owned_block (x : ℕ) : (block x).owned = {x} := rfl

/-- The blocks that some members refer to. -/
def blocksOf {K : Type*} (members : List (K × Ref)) : Multiset ℕ :=
  (members.map fun m => m.2.owned).sum

/-- A value. -/
structure Cell (K T : Type*) where
  /-- The number of references to it. -/
  refs : ℕ
  /-- What kind of value it is. -/
  tag : T
  members : List (K × Ref)

/-- The heap with its values. -/
structure Store (K T : Type*) extends Heap where
  cell : ℕ → Cell K T
  /-- A value was used after it was freed. -/
  fault : Bool

section Members

variable {K : Type*}

@[simp] theorem blocksOf_nil : blocksOf ([] : List (K × Ref)) = 0 := rfl

@[simp] theorem blocksOf_cons (m : K × Ref) (members : List (K × Ref)) :
    blocksOf (m :: members) = m.2.owned + blocksOf members := by
  simp [blocksOf]

@[simp] theorem blocksOf_append (members members' : List (K × Ref)) :
    blocksOf (members ++ members') = blocksOf members + blocksOf members' := by
  simp [blocksOf]

theorem mem_blocksOf {members : List (K × Ref)} {y : ℕ} :
    y ∈ blocksOf members ↔ ∃ m ∈ members, m.2 = .block y := by
  induction members with
  | nil => simp
  | cons m members ih =>
    have hm : y ∈ m.2.owned ↔ m.2 = .block y := by
      cases m.2 with
      | static => simp
      | block x => simp [eq_comm]
    simp [ih, hm]

end Members

namespace Store

variable {K T : Type*} (s : Store K T)

/-- The blocks that a value refers to. -/
def blocks (x : ℕ) : Multiset ℕ := blocksOf (s.cell x).members

/-- A value is used. -/
def touch (x : ℕ) : Store K T := { s with fault := s.fault || s.freeCount x ≠ 0 }

/-- A count changes. -/
def setRefs (x n : ℕ) : Store K T :=
  { s with cell := Function.update s.cell x { s.cell x with refs := n } }

/-- The members of a value change, together with their references. -/
def setMembers (x : ℕ) (members : List (K × Ref)) : Store K T :=
  { s with cell := Function.update s.cell x { s.cell x with members := members } }

/-- The block of a value is freed. -/
def freeBlock (x : ℕ) : Store K T := { s with toHeap := s.toHeap.free x }

/-- A value is allocated, and takes over the references to its members. -/
def new (tag : T) (members : List (K × Ref)) : Store K T :=
  { s with
    toHeap := s.toHeap.alloc
    cell := Function.update s.cell s.next ⟨1, tag, members⟩ }

/-- Another reference to a value is taken. -/
def incref : Ref → Store K T
  | .static => s
  | .block x => (s.touch x).setRefs x ((s.cell x).refs + 1)

/-- A reference is given up, and the value freed if it was the last one.  The references to the
members are given up first; there is enough fuel if it is the number of values. -/
def decref : ℕ → Ref → Store K T → Store K T
  | 0, _, s => s
  | _ + 1, .static, s => s
  | fuel + 1, .block x, s =>
    if (s.cell x).refs = 1 then
      ((s.cell x).members.foldl (fun s m => decref fuel m.2 s)
        ((s.touch x).setRefs x 0)).freeBlock x
    else (s.touch x).setRefs x ((s.cell x).refs - 1)

/-- The references to some members are given up. -/
def decrefMembers (fuel : ℕ) (members : List (K × Ref)) : Store K T :=
  members.foldl (fun s m => decref fuel m.2 s) s

/-- A reference is given up. -/
def release (r : Ref) : Store K T := decref s.next r s

/-- A value is freed. -/
def delete : Ref → Store K T
  | .static => s
  | .block x => ((s.touch x).decrefMembers s.next (s.cell x).members).freeBlock x

/-- **Every value from the `n`-th on has been freed exactly once**, and none was used after it was
freed. -/
def Clean (n : ℕ) : Prop := s.fault = false ∧ ∀ x, n ≤ x → x < s.next → s.freeCount x = 1

/-- No value. -/
def empty [Inhabited T] : Store K T where
  next := 0
  freeCount _ := 0
  cell _ := ⟨0, default, []⟩
  fault := false

/-- No value refers to this one. -/
def Top (x : ℕ) : Prop := ∀ z, x ∉ s.blocks z

/-- The blocks that are allocated and are not being freed. -/
def inUse (closing : Finset ℕ) : Finset ℕ := s.liveBlocks \ closing

end Store

variable {K T : Type*} {s s' : Store K T} {closing : Finset ℕ} {outside outside' : Multiset ℕ}
  {x y n fuel : ℕ} {members : List (K × Ref)}

namespace Store

theorem decref_succ_block (fuel x : ℕ) (s : Store K T) :
    decref (fuel + 1) (.block x) s =
      if (s.cell x).refs = 1 then
        (((s.touch x).setRefs x 0).decrefMembers fuel (s.cell x).members).freeBlock x
      else (s.touch x).setRefs x ((s.cell x).refs - 1) := rfl

@[simp] theorem decref_static (fuel : ℕ) (s : Store K T) : decref fuel .static s = s := by
  cases fuel <;> rfl

@[simp] theorem decrefMembers_cons (fuel : ℕ) (m : K × Ref) (members : List (K × Ref)) :
    s.decrefMembers fuel (m :: members) = (decref fuel m.2 s).decrefMembers fuel members := rfl

theorem touch_eq_self (h : s.freeCount x = 0) : s.touch x = s := by simp [touch, h]

theorem fault_touch (h : s.freeCount x ≠ 0) : (s.touch x).fault = true := by simp [touch, h]

theorem refs_setRefs_self (s : Store K T) (x n : ℕ) : ((s.setRefs x n).cell x).refs = n := by
  simp [setRefs]

theorem refs_setRefs_ne (s : Store K T) {x y : ℕ} (n : ℕ) (hne : y ≠ x) :
    ((s.setRefs x n).cell y).refs = (s.cell y).refs := by
  simp [setRefs, hne]

@[simp] theorem members_setRefs (s : Store K T) (x n y : ℕ) :
    ((s.setRefs x n).cell y).members = (s.cell y).members := by
  by_cases hy : y = x
  · subst hy
    simp [setRefs]
  · simp [setRefs, hy]

@[simp] theorem blocks_setRefs (s : Store K T) (x n y : ℕ) :
    (s.setRefs x n).blocks y = s.blocks y := by
  rw [blocks, members_setRefs, blocks]

theorem blocks_setMembers_self (s : Store K T) (x : ℕ) (members : List (K × Ref)) :
    (s.setMembers x members).blocks x = blocksOf members := by
  simp [blocks, setMembers]

theorem blocks_setMembers_ne (s : Store K T) (members : List (K × Ref)) (hne : y ≠ x) :
    (s.setMembers x members).blocks y = s.blocks y := by
  simp [blocks, setMembers, hne]

@[simp] theorem refs_setMembers (s : Store K T) (x : ℕ) (members : List (K × Ref)) (y : ℕ) :
    ((s.setMembers x members).cell y).refs = (s.cell y).refs := by
  by_cases hy : y = x
  · subst hy
    simp [setMembers]
  · simp [setMembers, hy]

theorem cell_new_self (s : Store K T) (tag : T) (members : List (K × Ref)) :
    (s.new tag members).cell s.next = ⟨1, tag, members⟩ := by
  simp [new]

theorem cell_new_ne (s : Store K T) (tag : T) (members : List (K × Ref)) (hne : x ≠ s.next) :
    (s.new tag members).cell x = s.cell x := by
  simp [new, hne]

@[simp] theorem next_new (s : Store K T) (tag : T) (members : List (K × Ref)) :
    (s.new tag members).next = s.next + 1 := rfl

@[simp] theorem mem_inUse : x ∈ s.inUse closing ↔ s.Live x ∧ x ∉ closing := by
  simp [inUse]

theorem inUse_insert (s : Store K T) (closing : Finset ℕ) (x : ℕ) :
    s.inUse (insert x closing) = (s.inUse closing).erase x := by
  ext y
  simp only [mem_inUse, Finset.mem_insert, Finset.mem_erase]
  tauto

theorem inUse_freeBlock (s : Store K T) (closing : Finset ℕ) (x : ℕ) :
    (s.freeBlock x).inUse closing = s.inUse (insert x closing) := by
  ext y
  have hlive : (s.freeBlock x).Live y ↔ s.Live y ∧ y ≠ x := Heap.live_free
  simp only [mem_inUse, hlive, Finset.mem_insert]
  tauto

end Store

/-! ### What the operations keep -/

/-- Values are only freed: the members stay, values stay freed, and a fault is not forgotten. -/
structure Frees (s s' : Store K T) : Prop where
  next : s'.next = s.next
  freeCount : ∀ x, s.freeCount x ≤ s'.freeCount x
  fault : s.fault = true → s'.fault = true
  members : ∀ x, (s'.cell x).members = (s.cell x).members

namespace Frees

theorem refl (s : Store K T) : Frees s s := ⟨rfl, fun _ => Nat.le_refl _, id, fun _ => rfl⟩

theorem trans {s'' : Store K T} (h : Frees s s') (h' : Frees s' s'') : Frees s s'' where
  next := h'.next.trans h.next
  freeCount x := Nat.le_trans (h.freeCount x) (h'.freeCount x)
  fault hf := h'.fault (h.fault hf)
  members x := (h'.members x).trans (h.members x)

theorem touch (s : Store K T) (x : ℕ) : Frees s (s.touch x) :=
  ⟨rfl, fun _ => Nat.le_refl _, fun h => by simp [Store.touch, h], fun _ => rfl⟩

theorem setRefs (s : Store K T) (x n : ℕ) : Frees s (s.setRefs x n) :=
  ⟨rfl, fun _ => Nat.le_refl _, id, Store.members_setRefs s x n⟩

theorem freeBlock (s : Store K T) (x : ℕ) : Frees s (s.freeBlock x) := by
  refine ⟨rfl, fun y => ?_, id, fun _ => rfl⟩
  by_cases hy : y = x
  · subst hy
    simp [Store.freeBlock, Heap.free]
  · simp [Store.freeBlock, Heap.free, hy]

theorem incref (s : Store K T) (r : Ref) : Frees s (s.incref r) := by
  cases r with
  | static => exact .refl s
  | block x => exact (touch s x).trans (setRefs ..)

theorem foldl {β : Type*} {f : Store K T → β → Store K T} (hf : ∀ s b, Frees s (f s b))
    (bs : List β) (s : Store K T) : Frees s (bs.foldl f s) := by
  induction bs generalizing s with
  | nil => exact .refl s
  | cons b bs ih => exact (hf s b).trans (ih _)

theorem decref (fuel : ℕ) (r : Ref) (s : Store K T) : Frees s (Store.decref fuel r s) := by
  induction fuel generalizing r s with
  | zero => exact .refl s
  | succ fuel ih =>
    cases r with
    | static => exact .refl s
    | block x =>
      rw [Store.decref_succ_block]
      split
      · exact ((touch s x).trans (setRefs ..)).trans
          ((foldl (fun s (m : K × Ref) => ih m.2 s) _ _).trans (freeBlock ..))
      · exact (touch s x).trans (setRefs ..)

theorem decrefMembers (fuel : ℕ) (members : List (K × Ref)) (s : Store K T) :
    Frees s (s.decrefMembers fuel members) :=
  foldl (fun s (m : K × Ref) => decref fuel m.2 s) members s

theorem release (s : Store K T) (r : Ref) : Frees s (s.release r) := decref s.next r s

theorem delete (s : Store K T) (r : Ref) : Frees s (s.delete r) := by
  cases r with
  | static => exact .refl s
  | block x => exact (touch s x).trans ((decrefMembers ..).trans (freeBlock ..))

theorem blocks (h : Frees s s') (x : ℕ) : s'.blocks x = s.blocks x := by
  rw [Store.blocks, h.members, Store.blocks]

theorem live (h : Frees s s') (hx : s'.Live x) : s.Live x :=
  ⟨h.next ▸ hx.1, Nat.le_zero.1 (Nat.le_trans (h.freeCount x) (Nat.le_of_eq hx.2))⟩

theorem inUse_subset (h : Frees s s') (closing : Finset ℕ) :
    s'.inUse closing ⊆ s.inUse closing := by
  intro x hx
  rw [Store.mem_inUse] at hx ⊢
  exact ⟨h.live hx.1, hx.2⟩

theorem top (h : Frees s s') (htop : s.Top x) : s'.Top x := fun z => (h.blocks z).symm ▸ htop z

end Frees

/-- Nothing is allocated, and the members of at most one value change. -/
structure Writes (x : ℕ) (s s' : Store K T) : Prop where
  next : s'.next = s.next
  freeCount : ∀ y, s.freeCount y ≤ s'.freeCount y
  fault : s.fault = true → s'.fault = true
  members : ∀ y, y ≠ x → (s'.cell y).members = (s.cell y).members

theorem Frees.writes (h : Frees s s') (x : ℕ) : Writes x s s' :=
  ⟨h.next, h.freeCount, h.fault, fun y _ => h.members y⟩

namespace Writes

theorem trans {s'' : Store K T} (h : Writes x s s') (h' : Writes x s' s'') : Writes x s s'' where
  next := h'.next.trans h.next
  freeCount y := Nat.le_trans (h.freeCount y) (h'.freeCount y)
  fault hf := h'.fault (h.fault hf)
  members y hy := (h'.members y hy).trans (h.members y hy)

theorem setMembers (s : Store K T) (x : ℕ) (members : List (K × Ref)) :
    Writes x s (s.setMembers x members) :=
  ⟨rfl, fun _ => Nat.le_refl _, id, fun y hy => by simp [Store.setMembers, hy]⟩

end Writes

/-! ### The counts -/

/-- **The counts are right**, if the blocks in `outside` are referred to from outside of the heap,
and those in `closing` are being freed: nothing refers to these any more, nor do they refer to
anything. -/
structure Counted (s : Store K T) (closing : Finset ℕ) (outside : Multiset ℕ) : Prop where
  fault : s.fault = false
  fresh : ∀ x, s.next ≤ x → s.freeCount x = 0
  once : ∀ x, s.freeCount x ≤ 1
  closing_live : ∀ x ∈ closing, s.Live x
  bounded : ∀ x, ∀ y ∈ s.blocks x, y < s.next
  members : ∀ x ∈ s.inUse closing, ∀ y ∈ s.blocks x, y ∈ s.inUse closing
  owned : ∀ y ∈ outside, y ∈ s.inUse closing
  refs : ∀ y ∈ s.inUse closing,
    (s.cell y).refs = outside.count y + ∑ x ∈ s.inUse closing, (s.blocks x).count y
  refs_pos : ∀ y ∈ s.inUse closing, 0 < (s.cell y).refs
  /-- No value is a member of itself, or of a member of itself. -/
  rank : ∃ rank : ℕ → ℕ, ∀ x ∈ s.inUse closing, ∀ y ∈ s.blocks x, rank y < rank x

namespace Counted

theorem empty [Inhabited T] : Counted (.empty : Store K T) ∅ 0 where
  fault := rfl
  fresh _ _ := rfl
  once _ := Nat.zero_le _
  closing_live := by simp
  bounded x y hy := by simp [Store.blocks, Store.empty] at hy
  members x hx := by simp [Heap.Live, Store.empty] at hx
  owned := by simp
  refs y hy := by simp [Heap.Live, Store.empty] at hy
  refs_pos y hy := by simp [Heap.Live, Store.empty] at hy
  rank := ⟨id, fun x hx => by simp [Heap.Live, Store.empty] at hx⟩

theorem live (h : Counted s closing outside) (hx : x ∈ outside) : s.Live x :=
  (Store.mem_inUse.1 (h.owned x hx)).1

theorem touch_eq_self (h : Counted s closing outside) (hx : x ∈ outside) : s.touch x = s :=
  Store.touch_eq_self (h.live hx).2

/-- The count changes together with the references from outside. -/
theorem setRefs (h : Counted s closing outside) (hx : x ∈ s.inUse closing) (hn : 0 < n)
    (hcount : n + outside.count x = (s.cell x).refs + outside'.count x)
    (hne : ∀ y, y ≠ x → outside'.count y = outside.count y) :
    Counted (s.setRefs x n) closing outside' where
  fault := h.fault
  fresh := h.fresh
  once := h.once
  closing_live := h.closing_live
  bounded y z hz := h.bounded y z (by rwa [Store.blocks_setRefs] at hz)
  members y hy z hz := h.members y hy z (by rwa [Store.blocks_setRefs] at hz)
  owned y hy := by
    by_cases hyx : y = x
    · exact hyx ▸ hx
    · rw [← Multiset.count_pos, hne y hyx, Multiset.count_pos] at hy
      exact h.owned y hy
  refs y hy := by
    have hrefs := h.refs y hy
    simp only [Store.blocks_setRefs]
    change _ = _ + ∑ z ∈ s.inUse closing, _
    by_cases hyx : y = x
    · subst hyx
      rw [Store.refs_setRefs_self]
      omega
    · rw [Store.refs_setRefs_ne _ _ hyx, hne y hyx]
      exact hrefs
  refs_pos y hy := by
    by_cases hyx : y = x
    · subst hyx
      rwa [Store.refs_setRefs_self]
    · rw [Store.refs_setRefs_ne _ _ hyx]
      exact h.refs_pos y hy
  rank := by
    obtain ⟨rank, hrank⟩ := h.rank
    exact ⟨rank, fun y hy z hz => hrank y hy z (by rwa [Store.blocks_setRefs] at hz)⟩

/-- The count of a value that is being freed does not matter. -/
theorem setRefs_closing (h : Counted s closing outside) (hx : x ∈ closing) (n : ℕ) :
    Counted (s.setRefs x n) closing outside where
  fault := h.fault
  fresh := h.fresh
  once := h.once
  closing_live := h.closing_live
  bounded y z hz := h.bounded y z (by rwa [Store.blocks_setRefs] at hz)
  members y hy z hz := h.members y hy z (by rwa [Store.blocks_setRefs] at hz)
  owned := h.owned
  refs y hy := by
    have hyx : y ≠ x := fun heq => (Store.mem_inUse.1 hy).2 (heq ▸ hx)
    simp only [Store.blocks_setRefs, Store.refs_setRefs_ne _ _ hyx]
    exact h.refs y hy
  refs_pos y hy := by
    have hyx : y ≠ x := fun heq => (Store.mem_inUse.1 hy).2 (heq ▸ hx)
    rw [Store.refs_setRefs_ne _ _ hyx]
    exact h.refs_pos y hy
  rank := by
    obtain ⟨rank, hrank⟩ := h.rank
    exact ⟨rank, fun y hy z hz => hrank y hy z (by rwa [Store.blocks_setRefs] at hz)⟩

/-- The last reference is given up: from now on the members are referred to from outside. -/
theorem close (h : Counted s closing (x ::ₘ outside)) (hrefs : (s.cell x).refs = 1) :
    Counted s (insert x closing) (s.blocks x + outside) := by
  have hx : x ∈ s.inUse closing := h.owned x (Multiset.mem_cons_self x _)
  have hsum := h.refs x hx
  rw [hrefs, Multiset.count_cons_self] at hsum
  have hcount : outside.count x = 0 := by omega
  have hzero : ∑ z ∈ s.inUse closing, (s.blocks z).count x = 0 := by omega
  have hnone (z : ℕ) (hz : z ∈ s.inUse closing) : x ∉ s.blocks z :=
    Multiset.count_eq_zero.1 (Finset.sum_eq_zero_iff.1 hzero z hz)
  have hsub {y : ℕ} (hy : y ∈ s.inUse (insert x closing)) : y ≠ x ∧ y ∈ s.inUse closing := by
    rwa [Store.inUse_insert, Finset.mem_erase] at hy
  have hmem {y : ℕ} (hne : y ≠ x) (hy : y ∈ s.inUse closing) : y ∈ s.inUse (insert x closing) := by
    rw [Store.inUse_insert]
    exact Finset.mem_erase.2 ⟨hne, hy⟩
  exact
    { fault := h.fault
      fresh := h.fresh
      once := h.once
      closing_live y hy := by
        rcases Finset.mem_insert.1 hy with rfl | hy
        · exact (Store.mem_inUse.1 hx).1
        · exact h.closing_live y hy
      bounded := h.bounded
      members z hz y hy :=
        hmem (fun heq => hnone z (hsub hz).2 (heq ▸ hy)) (h.members z (hsub hz).2 y hy)
      owned y hy := by
        rcases Multiset.mem_add.1 hy with hy | hy
        · exact hmem (fun heq => hnone x hx (heq ▸ hy)) (h.members x hx y hy)
        · exact hmem (fun heq => Multiset.count_eq_zero.1 hcount (heq ▸ hy))
            (h.owned y (Multiset.mem_cons_of_mem hy))
      refs y hy := by
        obtain ⟨hne, hy⟩ := hsub hy
        have hyrefs := h.refs y hy
        rw [Multiset.count_cons_of_ne hne, ← Finset.add_sum_erase _ _ hx] at hyrefs
        rw [Store.inUse_insert, Multiset.count_add]
        omega
      refs_pos y hy := h.refs_pos y (hsub hy).2
      rank := by
        obtain ⟨rank, hrank⟩ := h.rank
        exact ⟨rank, fun z hz => hrank z (hsub hz).2⟩ }

/-- The block of a value that is being freed is freed. -/
theorem freeBlock (h : Counted s (insert x closing) outside) (hx : x ∉ closing) :
    Counted (s.freeBlock x) closing outside := by
  have hlive : s.Live x := h.closing_live x (Finset.mem_insert_self x _)
  have hcount {y : ℕ} (hne : y ≠ x) : (s.freeBlock x).freeCount y = s.freeCount y := by
    simp [Store.freeBlock, Heap.free, hne]
  exact
    { fault := h.fault
      fresh y hy := by
        have hne : y ≠ x := fun heq => absurd hlive.1 (Nat.not_lt.2 (heq ▸ hy))
        rw [hcount hne]
        exact h.fresh y hy
      once y := by
        by_cases hyx : y = x
        · subst hyx
          simp [Store.freeBlock, Heap.free, hlive.2]
        · rw [hcount hyx]
          exact h.once y
      closing_live y hy := Heap.live_free.2
        ⟨h.closing_live y (Finset.mem_insert_of_mem hy), fun heq => hx (heq ▸ hy)⟩
      bounded := h.bounded
      members := by rw [Store.inUse_freeBlock]; exact h.members
      owned := by rw [Store.inUse_freeBlock]; exact h.owned
      refs := by rw [Store.inUse_freeBlock]; exact h.refs
      refs_pos := by rw [Store.inUse_freeBlock]; exact h.refs_pos
      rank := by rw [Store.inUse_freeBlock]; exact h.rank }

/-- The references to some members are given up, if each of them can be. -/
theorem decrefMembers_of
    (hdecref : ∀ {s : Store K T} {closing : Finset ℕ} {outside : Multiset ℕ} {x : ℕ},
      Counted s closing (x ::ₘ outside) → (s.inUse closing).card ≤ fuel →
        Counted (Store.decref fuel (.block x) s) closing outside)
    (h : Counted s closing (blocksOf members + outside)) (hfuel : (s.inUse closing).card ≤ fuel) :
    Counted (s.decrefMembers fuel members) closing outside := by
  induction members generalizing s with
  | nil => simpa [Store.decrefMembers] using h
  | cons m members ih =>
    rw [Store.decrefMembers_cons]
    refine ih ?_ (Nat.le_trans (Finset.card_le_card ((Frees.decref fuel m.2 s).inUse_subset _))
      hfuel)
    rw [blocksOf_cons, Multiset.add_assoc] at h
    cases hm : m.2 with
    | static => simpa [hm] using h
    | block x =>
      rw [hm, Ref.owned_block, Multiset.singleton_add] at h
      exact hdecref h hfuel

/-- **A reference is given up.**  By induction on the fuel: the value that is freed is not in use
any more when the references to its members are given up. -/
theorem decref_block (h : Counted s closing (x ::ₘ outside))
    (hfuel : (s.inUse closing).card ≤ fuel) :
    Counted (Store.decref fuel (.block x) s) closing outside := by
  induction fuel generalizing s closing outside x with
  | zero =>
    have hx := h.owned x (Multiset.mem_cons_self x _)
    exact absurd (Finset.card_pos.2 ⟨x, hx⟩) (Nat.not_lt.2 hfuel)
  | succ fuel ih =>
    have hx := h.owned x (Multiset.mem_cons_self x _)
    rw [Store.decref_succ_block, h.touch_eq_self (Multiset.mem_cons_self x _)]
    split_ifs with hrefs
    · have hclose := (h.close hrefs).setRefs_closing (Finset.mem_insert_self x _) 0
      refine (decrefMembers_of ih hclose ?_).freeBlock (Store.mem_inUse.1 hx).2
      change (s.inUse (insert x closing)).card ≤ fuel
      rw [Store.inUse_insert, Finset.card_erase_of_mem hx]
      exact Nat.sub_le_of_le_add hfuel
    · have hpos := h.refs_pos x hx
      refine h.setRefs hx (by omega) ?_ fun y hy => ?_
      · rw [Multiset.count_cons_self]
        omega
      · rw [Multiset.count_cons_of_ne hy]

theorem card_inUse_le (s : Store K T) (closing : Finset ℕ) : (s.inUse closing).card ≤ s.next := by
  have hsub : s.inUse closing ⊆ Finset.range s.next := fun x hx =>
    Finset.mem_range.2 (Store.mem_inUse.1 hx).1.1
  simpa using Finset.card_le_card hsub

theorem release {r : Ref} (h : Counted s closing (r.owned + outside)) :
    Counted (s.release r) closing outside := by
  cases r with
  | static => simpa [Store.release] using h
  | block x => exact decref_block h (card_inUse_le s closing)

/-- The last reference to a value that nothing refers to. -/
theorem refs_eq_one (h : Counted s closing (x ::ₘ outside)) (htop : s.Top x) (hx : x ∉ outside) :
    (s.cell x).refs = 1 := by
  rw [h.refs x (h.owned x (Multiset.mem_cons_self x _)), Multiset.count_cons_self,
    Multiset.count_eq_zero.2 hx, Finset.sum_eq_zero fun z _ => Multiset.count_eq_zero.2 (htop z),
    Nat.zero_add, Nat.add_zero]

/-- **A value is freed**, to which there is only one reference. -/
theorem delete (h : Counted s closing (x ::ₘ outside)) (htop : s.Top x) (hx : x ∉ outside) :
    Counted (s.delete (.block x)) closing outside := by
  have hmem := Multiset.mem_cons_self x outside
  have hclose := h.close (h.refs_eq_one htop hx)
  change Counted (((s.touch x).decrefMembers s.next (s.cell x).members).freeBlock x) _ _
  rw [h.touch_eq_self hmem]
  exact (decrefMembers_of decref_block hclose (card_inUse_le s _)).freeBlock
    (Store.mem_inUse.1 (h.owned x hmem)).2

/-- Another reference to a value is taken. -/
theorem incref {r : Ref} (h : Counted s closing outside)
    (hr : ∀ x, r = .block x → x ∈ s.inUse closing) :
    Counted (s.incref r) closing (r.owned + outside) := by
  cases r with
  | static => simpa [Store.incref] using h
  | block x =>
    have hx := hr x rfl
    change Counted ((s.touch x).setRefs x _) _ _
    rw [Store.touch_eq_self (Store.mem_inUse.1 hx).1.2]
    refine h.setRefs hx (Nat.succ_pos _) ?_ fun y hy => ?_
    · simp
      omega
    · simp [hy]

/-- **A value is allocated**, and refers to its members from now on. -/
theorem new (h : Counted s ∅ (blocksOf members + outside)) (tag : T) :
    Counted (s.new tag members) ∅ (s.next ::ₘ outside) := by
  have hfresh := h.fresh s.next (Nat.le_refl _)
  have hlt {y : ℕ} (hy : y ∈ s.inUse ∅) : y < s.next := (Store.mem_inUse.1 hy).1.1
  have hne {y : ℕ} (hy : y ∈ s.inUse ∅) : y ≠ s.next := Nat.ne_of_lt (hlt hy)
  have hinUse (y : ℕ) : y ∈ (s.new tag members).inUse ∅ ↔ y = s.next ∨ y ∈ s.inUse ∅ := by
    have hlive : (s.new tag members).Live y ↔ s.Live y ∨ y = s.next := Heap.live_alloc hfresh
    simp only [Store.mem_inUse, hlive]
    tauto
  have hinsert : (s.new tag members).inUse ∅ = insert s.next (s.inUse ∅) := by
    ext y
    rw [hinUse, Finset.mem_insert]
  have hself : (s.new tag members).blocks s.next = blocksOf members := by
    rw [Store.blocks, Store.cell_new_self]
  have hother {z : ℕ} (hz : z ≠ s.next) : (s.new tag members).blocks z = s.blocks z := by
    rw [Store.blocks, Store.cell_new_ne _ _ _ hz, Store.blocks]
  have hmembers {y : ℕ} (hy : y ∈ blocksOf members) : y ∈ s.inUse ∅ :=
    h.owned y (Multiset.mem_add.2 (.inl hy))
  have hnotin : s.next ∉ s.inUse ∅ := fun hmem => absurd rfl (hne hmem)
  have hsum (y : ℕ) : ∑ z ∈ (s.new tag members).inUse ∅, ((s.new tag members).blocks z).count y =
      (blocksOf members).count y + ∑ z ∈ s.inUse ∅, (s.blocks z).count y := by
    rw [hinsert, Finset.sum_insert hnotin, hself]
    exact congrArg _ (Finset.sum_congr rfl fun z hz => by rw [hother (hne hz)])
  exact
    { fault := h.fault
      fresh y hy := h.fresh y (Nat.le_of_succ_le hy)
      once := h.once
      closing_live := by simp
      bounded x y hy := by
        rw [Store.next_new]
        by_cases hx : x = s.next
        · subst hx
          rw [hself] at hy
          exact Nat.lt_succ_of_lt (hlt (hmembers hy))
        · rw [hother hx] at hy
          exact Nat.lt_succ_of_lt (h.bounded x y hy)
      members x hx y hy := by
        rw [hinUse]
        rcases (hinUse x).1 hx with rfl | hx
        · rw [hself] at hy
          exact .inr (hmembers hy)
        · rw [hother (hne hx)] at hy
          exact .inr (h.members x hx y hy)
      owned y hy := by
        rw [hinUse]
        rcases Multiset.mem_cons.1 hy with rfl | hy
        · exact .inl rfl
        · exact .inr (h.owned y (Multiset.mem_add.2 (.inr hy)))
      refs y hy := by
        rw [hsum]
        rcases (hinUse y).1 hy with rfl | hy
        · have houtside : s.next ∉ blocksOf members + outside := fun hmem =>
            hnotin (h.owned _ hmem)
          rw [Multiset.mem_add, not_or] at houtside
          have hzero : ∑ z ∈ s.inUse ∅, (s.blocks z).count s.next = 0 :=
            Finset.sum_eq_zero fun z hz => Multiset.count_eq_zero.2 fun hmem =>
              absurd (h.bounded z _ hmem) (Nat.lt_irrefl _)
          rw [Store.cell_new_self, Multiset.count_cons_self, hzero,
            Multiset.count_eq_zero.2 houtside.1, Multiset.count_eq_zero.2 houtside.2]
        · have hrefs := h.refs y hy
          rw [Multiset.count_add] at hrefs
          rw [Store.cell_new_ne _ _ _ (hne hy), Multiset.count_cons_of_ne (hne hy)]
          omega
      refs_pos y hy := by
        rcases (hinUse y).1 hy with rfl | hy
        · rw [Store.cell_new_self]
          exact Nat.one_pos
        · rw [Store.cell_new_ne _ _ _ (hne hy)]
          exact h.refs_pos y hy
      rank := by
        obtain ⟨rank, hrank⟩ := h.rank
        refine ⟨Function.update rank s.next ((s.inUse ∅).sup rank + 1), fun x hx y hy => ?_⟩
        rcases (hinUse x).1 hx with rfl | hx
        · rw [hself] at hy
          rw [Function.update_self, Function.update_of_ne (hne (hmembers hy))]
          exact Nat.lt_succ_of_le (Finset.le_sup (f := rank) (hmembers hy))
        · rw [hother (hne hx)] at hy
          rw [Function.update_of_ne (hne hx), Function.update_of_ne (hne (h.members x hx y hy))]
          exact hrank x hx y hy }

/-- **The members of a value change**: it takes over the references in `taken`, and gives back those
in `given`. -/
theorem setMembers {taken given : Multiset ℕ} (h : Counted s closing (taken + outside))
    (hx : x ∈ s.inUse closing) (htop : s.Top x) (htaken : x ∉ taken)
    (hswap : blocksOf members + given = s.blocks x + taken) :
    Counted (s.setMembers x members) closing (given + outside) := by
  have hmem {y : ℕ} (hy : y ∈ blocksOf members + given) : y ∈ s.inUse closing ∧ y ≠ x := by
    rw [hswap, Multiset.mem_add] at hy
    rcases hy with hy | hy
    · exact ⟨h.members x hx y hy, fun heq => htop x (heq ▸ hy)⟩
    · exact ⟨h.owned y (Multiset.mem_add.2 (.inl hy)), fun heq => htaken (heq ▸ hy)⟩
  have hmembers {y : ℕ} (hy : y ∈ blocksOf members) : y ∈ s.inUse closing ∧ y ≠ x :=
    hmem (Multiset.mem_add.2 (.inl hy))
  have hblocks {z y : ℕ} (hz : z ∈ s.inUse closing) (hy : y ∈ (s.setMembers x members).blocks z) :
      y ∈ s.inUse closing ∧ y ≠ x := by
    by_cases hzx : z = x
    · subst hzx
      rw [Store.blocks_setMembers_self] at hy
      exact hmembers hy
    · rw [Store.blocks_setMembers_ne _ _ hzx] at hy
      exact ⟨h.members z hz y hy, fun heq => htop z (heq ▸ hy)⟩
  exact
    { fault := h.fault
      fresh := h.fresh
      once := h.once
      closing_live := h.closing_live
      bounded z y hy := by
        by_cases hzx : z = x
        · subst hzx
          rw [Store.blocks_setMembers_self] at hy
          exact (Store.mem_inUse.1 (hmembers hy).1).1.1
        · rw [Store.blocks_setMembers_ne _ _ hzx] at hy
          exact h.bounded z y hy
      members z hz y hy := (hblocks hz hy).1
      owned y hy := by
        rcases Multiset.mem_add.1 hy with hy | hy
        · exact (hmem (Multiset.mem_add.2 (.inr hy))).1
        · exact h.owned y (Multiset.mem_add.2 (.inr hy))
      refs y hy := by
        have hrefs := h.refs y hy
        have hcount := congrArg (Multiset.count y) hswap
        rw [← Finset.add_sum_erase _ _ hx] at hrefs
        change _ = _ + ∑ z ∈ s.inUse closing, _
        rw [← Finset.add_sum_erase _ _ hx, Store.blocks_setMembers_self,
          Finset.sum_congr rfl fun z hz => by
            rw [Store.blocks_setMembers_ne _ _ (Finset.mem_erase.1 hz).1]]
        simp only [Multiset.count_add, Store.refs_setMembers] at hrefs hcount ⊢
        omega
      refs_pos y hy := by
        rw [Store.refs_setMembers]
        exact h.refs_pos y hy
      rank := by
        obtain ⟨rank, hrank⟩ := h.rank
        refine ⟨Function.update rank x ((s.inUse closing).sup rank + 1), fun z hz y hy => ?_⟩
        obtain ⟨hy', hyx⟩ := hblocks hz hy
        rw [Function.update_of_ne hyx]
        by_cases hzx : z = x
        · subst hzx
          rw [Function.update_self]
          exact Nat.lt_succ_of_le (Finset.le_sup (f := rank) hy')
        · rw [Store.blocks_setMembers_ne _ _ hzx] at hy
          rw [Function.update_of_ne hzx]
          exact hrank z hz y hy }

/-- **Nothing is left** from the `n`-th value on, if neither the older values nor anything outside
refers to it: a value with the highest rank would have to be referred to. -/
theorem clean (h : Counted s ∅ outside) (houtside : ∀ x ∈ outside, x < n)
    (hold : ∀ z < n, ∀ y ∈ s.blocks z, y < n) : s.Clean n := by
  refine ⟨h.fault, fun x hn hx => ?_⟩
  by_contra hne
  have hlive : x ∈ (s.inUse ∅).filter (n ≤ ·) := by
    have honce := h.once x
    exact Finset.mem_filter.2
      ⟨Store.mem_inUse.2 ⟨⟨hx, by omega⟩, Finset.notMem_empty x⟩, hn⟩
  obtain ⟨rank, hrank⟩ := h.rank
  obtain ⟨y, hy, hmax⟩ := Finset.exists_max_image _ rank ⟨x, hlive⟩
  obtain ⟨hy, hny⟩ := Finset.mem_filter.1 hy
  have hnone : y ∉ outside := fun hmem => Nat.not_lt.2 hny (houtside y hmem)
  have hpos := h.refs_pos y hy
  rw [h.refs y hy, Multiset.count_eq_zero.2 hnone, Nat.zero_add] at hpos
  obtain ⟨z, hz, hcount⟩ := Finset.sum_pos_iff.1 hpos
  have hmem := Multiset.count_pos.1 hcount
  have hnz : n ≤ z := Nat.not_lt.1 fun hlt => Nat.not_lt.2 hny (hold z hlt y hmem)
  exact absurd (hmax z (Finset.mem_filter.2 ⟨hz, hnz⟩)) (Nat.not_le.2 (hrank z hz y hmem))

end Counted

/-! ### The values that others refer to -/

namespace Store

theorem Top.new (htop : s.Top x) (tag : T) (hx : x ∉ blocksOf members) :
    (s.new tag members).Top x := by
  intro z
  by_cases hz : z = s.next
  · subst hz
    rwa [blocks, cell_new_self]
  · rw [blocks, cell_new_ne _ _ _ hz]
    exact htop z

theorem Top.setMembers (htop : s.Top y) (x : ℕ) (hy : y ∉ blocksOf members) :
    (s.setMembers x members).Top y := by
  intro z
  by_cases hz : z = x
  · subst hz
    rwa [blocks_setMembers_self]
  · rw [blocks_setMembers_ne _ _ hz]
    exact htop z

/-- Nothing refers to a value that has not been allocated yet. -/
theorem top_next (h : Counted s closing outside) : s.Top s.next := fun z hz =>
  absurd (h.bounded z _ hz) (Nat.lt_irrefl _)

end Store

/-! ### New values -/

/-- Values are only allocated. -/
structure Grows (s s' : Store K T) : Prop where
  next : s.next ≤ s'.next
  freeCount : s'.freeCount = s.freeCount
  fault : s'.fault = s.fault
  cell : ∀ x < s.next, s'.cell x = s.cell x

namespace Grows

theorem refl (s : Store K T) : Grows s s := ⟨Nat.le_refl _, rfl, rfl, fun _ _ => rfl⟩

theorem trans {s'' : Store K T} (h : Grows s s') (h' : Grows s' s'') : Grows s s'' where
  next := Nat.le_trans h.next h'.next
  freeCount := h'.freeCount.trans h.freeCount
  fault := h'.fault.trans h.fault
  cell x hx := (h'.cell x (Nat.lt_of_lt_of_le hx h.next)).trans (h.cell x hx)

theorem new (s : Store K T) (tag : T) (members : List (K × Ref)) :
    Grows s (s.new tag members) :=
  ⟨Nat.le_succ _, rfl, rfl, fun _ hx => Store.cell_new_ne s tag members (Nat.ne_of_lt hx)⟩

end Grows

/-- What every operation keeps, as far as it concerns the first `n` values: their members stay,
values stay freed, and a fault is not forgotten. -/
structure Onward (n : ℕ) (s s' : Store K T) : Prop where
  next : s.next ≤ s'.next
  freeCount : ∀ x, s.freeCount x ≤ s'.freeCount x
  fault : s.fault = true → s'.fault = true
  members : ∀ x < n, (s'.cell x).members = (s.cell x).members

theorem Frees.onward (h : Frees s s') (n : ℕ) : Onward n s s' :=
  ⟨Nat.le_of_eq h.next.symm, h.freeCount, h.fault, fun x _ => h.members x⟩

namespace Onward

theorem refl (n : ℕ) (s : Store K T) : Onward n s s := (Frees.refl s).onward n

theorem trans {s'' : Store K T} (h : Onward n s s') (h' : Onward n s' s'') : Onward n s s'' where
  next := Nat.le_trans h.next h'.next
  freeCount x := Nat.le_trans (h.freeCount x) (h'.freeCount x)
  fault hf := h'.fault (h.fault hf)
  members x hx := (h'.members x hx).trans (h.members x hx)

theorem of_grows (h : Grows s s') (hn : n ≤ s.next) : Onward n s s' where
  next := h.next
  freeCount x := Nat.le_of_eq (congrFun h.freeCount x).symm
  fault hf := h.fault.trans hf
  members x hx := congrArg Cell.members (h.cell x (Nat.lt_of_lt_of_le hx hn))

theorem of_writes (h : Writes x s s') (hx : n ≤ x) : Onward n s s' where
  next := Nat.le_of_eq h.next.symm
  freeCount := h.freeCount
  fault := h.fault
  members y hy := h.members y (Nat.ne_of_lt (Nat.lt_of_lt_of_le hy hx))

end Onward

/-! ### Variables that hold values -/

/-- The references in `held` are held by variables, and nothing else refers to these values; those
in `loose` are about to be handed over. -/
structure Held (s : Store K T) (loose held : Multiset ℕ) : Prop where
  counted : Counted s ∅ (loose + held)
  nodup : held.Nodup
  top : ∀ x ∈ held, s.Top x
  disjoint : ∀ x ∈ held, x ∉ loose

namespace Held

variable {loose held : Multiset ℕ}

theorem empty [Inhabited T] : Held (.empty : Store K T) 0 0 :=
  ⟨.empty, Multiset.nodup_zero, by simp, by simp⟩

/-- **Everything new has been freed** if the variables hold what they held before. -/
theorem clean (h : Held s 0 held) (h' : Held s' 0 held) (honward : Onward s.next s s') :
    s'.Clean s.next := by
  refine h'.counted.clean (fun x hx => ?_) fun z hz y hy => ?_
  · rw [Multiset.zero_add] at hx
    exact (h.counted.live (Multiset.mem_add.2 (.inr hx))).1
  · rw [Store.blocks, honward.members z hz] at hy
    exact h.counted.bounded z y hy

theorem live (h : Held s loose held) (hx : x ∈ held) : s.Live x :=
  h.counted.live (Multiset.mem_add.2 (.inr hx))

theorem touch_eq_self (h : Held s loose held) (hx : x ∈ held) : s.touch x = s :=
  Store.touch_eq_self (h.live hx).2

/-- What a variable holds is handed over. -/
theorem handOver (h : Held s loose (x ::ₘ held)) : Held s (x ::ₘ loose) held where
  counted := by
    have hcounted := h.counted
    rwa [Multiset.add_cons, ← Multiset.cons_add] at hcounted
  nodup := (Multiset.nodup_cons.1 h.nodup).2
  top y hy := h.top y (Multiset.mem_cons_of_mem hy)
  disjoint y hy hmem := by
    rcases Multiset.mem_cons.1 hmem with rfl | hmem
    · exact (Multiset.nodup_cons.1 h.nodup).1 hy
    · exact h.disjoint y (Multiset.mem_cons_of_mem hy) hmem

theorem new (h : Held s (blocksOf members + loose) held) (tag : T) :
    Held (s.new tag members) loose (s.next ::ₘ held) where
  counted := by
    have hcounted := h.counted
    rw [Multiset.add_assoc] at hcounted
    rw [Multiset.add_cons]
    exact hcounted.new tag
  nodup := Multiset.nodup_cons.2 ⟨fun hmem => Nat.lt_irrefl _ (h.live hmem).1, h.nodup⟩
  top y hy := by
    have hmembers : y ∉ blocksOf members := fun hmem => by
      rcases Multiset.mem_cons.1 hy with rfl | hy
      · have hlive := h.counted.live (Multiset.mem_add.2 (.inl (Multiset.mem_add.2 (.inl hmem))))
        exact Nat.lt_irrefl _ hlive.1
      · exact h.disjoint y hy (Multiset.mem_add.2 (.inl hmem))
    rcases Multiset.mem_cons.1 hy with rfl | hy
    · exact (Store.top_next h.counted).new tag hmembers
    · exact (h.top y hy).new tag hmembers
  disjoint y hy hmem := by
    rcases Multiset.mem_cons.1 hy with rfl | hy
    · have hlive := h.counted.live (Multiset.mem_add.2 (.inl (Multiset.mem_add.2 (.inr hmem))))
      exact Nat.lt_irrefl _ hlive.1
    · exact h.disjoint y hy (Multiset.mem_add.2 (.inr hmem))

/-- A value without members is allocated. -/
theorem newLeaf (h : Held s loose held) (tag : T) :
    Held (s.new tag []) loose (s.next ::ₘ held) :=
  new (by rwa [blocksOf_nil, Multiset.zero_add]) tag

theorem release {r : Ref} (h : Held s (r.owned + loose) held) : Held (s.release r) loose held where
  counted := by
    have hcounted := h.counted
    rw [Multiset.add_assoc] at hcounted
    exact hcounted.release
  nodup := h.nodup
  top y hy := (Frees.release s r).top (h.top y hy)
  disjoint y hy hmem := h.disjoint y hy (Multiset.mem_add.2 (.inr hmem))

/-- **What a variable holds is freed**. -/
theorem delete (h : Held s loose (x ::ₘ held)) : Held (s.delete (.block x)) loose held where
  counted := by
    have hcounted := h.counted
    rw [Multiset.add_cons] at hcounted
    refine hcounted.delete (h.top x (Multiset.mem_cons_self x _)) fun hmem => ?_
    rcases Multiset.mem_add.1 hmem with hmem | hmem
    · exact h.disjoint x (Multiset.mem_cons_self x _) hmem
    · exact (Multiset.nodup_cons.1 h.nodup).1 hmem
  nodup := (Multiset.nodup_cons.1 h.nodup).2
  top y hy := (Frees.delete ..).top (h.top y (Multiset.mem_cons_of_mem hy))
  disjoint y hy := h.disjoint y (Multiset.mem_cons_of_mem hy)

theorem setMembers {taken given : Multiset ℕ} (h : Held s (taken + loose) (x ::ₘ held))
    (hswap : blocksOf members + given = s.blocks x + taken) :
    Held (s.setMembers x members) (given + loose) (x ::ₘ held) := by
  have hx := Multiset.mem_cons_self x held
  have hmem {y : ℕ} (hy : y ∈ x ::ₘ held) : y ∉ blocksOf members + given := fun hmem => by
    rw [hswap, Multiset.mem_add] at hmem
    rcases hmem with hmem | hmem
    · exact h.top y hy x hmem
    · exact h.disjoint y hy (Multiset.mem_add.2 (.inl hmem))
  have hcounted := h.counted
  rw [Multiset.add_assoc] at hcounted
  exact
    { counted := by
        rw [Multiset.add_assoc]
        exact hcounted.setMembers (Store.mem_inUse.2 ⟨h.live hx, Finset.notMem_empty x⟩)
          (h.top x hx) (fun hmem => h.disjoint x hx (Multiset.mem_add.2 (.inl hmem))) hswap
      nodup := h.nodup
      top y hy := (h.top y hy).setMembers x fun hblocks =>
        hmem hy (Multiset.mem_add.2 (.inl hblocks))
      disjoint y hy hgiven := by
        rcases Multiset.mem_add.1 hgiven with hgiven | hloose
        · exact hmem hy (Multiset.mem_add.2 (.inr hgiven))
        · exact h.disjoint y hy (Multiset.mem_add.2 (.inr hloose)) }

/-- Another reference to a member of a value is taken. -/
theorem incref {r : Ref} (h : Held s loose held) (hx : x ∈ held)
    (hr : ∀ y, r = .block y → y ∈ s.blocks x) : Held (s.incref r) (r.owned + loose) held where
  counted := by
    rw [Multiset.add_assoc]
    exact h.counted.incref fun y hy => h.counted.members x
      (Store.mem_inUse.2 ⟨h.live hx, Finset.notMem_empty x⟩) y (hr y hy)
  nodup := h.nodup
  top y hy := (Frees.incref s r).top (h.top y hy)
  disjoint y hy hmem := by
    rcases Multiset.mem_add.1 hmem with hmem | hmem
    · cases r with
      | static => simp at hmem
      | block z =>
        rw [Ref.owned_block, Multiset.mem_singleton] at hmem
        subst hmem
        exact h.top y hy x (hr y rfl)
    · exact h.disjoint y hy hmem

end Held

/-! ### Values that have been freed -/

theorem freeCount_delete_self (s : Store K T) (x : ℕ) : (s.delete (.block x)).freeCount x ≠ 0 := by
  simp [Store.delete, Store.freeBlock, Heap.free]

/-- A value that has been freed cannot be freed again. -/
theorem fault_delete_self (h : s.freeCount x ≠ 0) : (s.delete (.block x)).fault = true :=
  ((Frees.decrefMembers ..).trans (Frees.freeBlock ..)).fault (Store.fault_touch h)

theorem fault_decref_self (h : s.freeCount x ≠ 0) (hfuel : 0 < fuel) :
    (Store.decref fuel (.block x) s).fault = true := by
  obtain ⟨fuel, rfl⟩ := Nat.exists_eq_succ_of_ne_zero (Nat.ne_of_gt hfuel)
  rw [Store.decref_succ_block]
  split
  · exact ((Frees.setRefs ..).trans ((Frees.decrefMembers ..).trans (Frees.freeBlock ..))).fault
      (Store.fault_touch h)
  · exact (Frees.setRefs ..).fault (Store.fault_touch h)

theorem fault_decrefMembers (hmem : y ∈ blocksOf members) (h : s.freeCount y ≠ 0)
    (hfuel : 0 < fuel) : (s.decrefMembers fuel members).fault = true := by
  induction members generalizing s with
  | nil => simp at hmem
  | cons m members ih =>
    rw [Store.decrefMembers_cons]
    have hfrees := Frees.decref fuel m.2 s
    rw [blocksOf_cons, Multiset.mem_add] at hmem
    rcases hmem with hmem | hmem
    · cases hm : m.2 with
      | static => simp [hm] at hmem
      | block x =>
        rw [hm, Ref.owned_block, Multiset.mem_singleton] at hmem
        subst hmem
        exact (Frees.decrefMembers ..).fault (fault_decref_self h hfuel)
    · exact ih hmem (Nat.ne_of_gt (Nat.lt_of_lt_of_le (Nat.pos_of_ne_zero h) (hfrees.freeCount y)))

/-- **A value that refers to a freed one** cannot be freed any more. -/
theorem fault_delete_of_member (hmem : y ∈ s.blocks x) (h : s.freeCount y ≠ 0)
    (hnext : 0 < s.next) : (s.delete (.block x)).fault = true :=
  (Frees.freeBlock ..).fault (fault_decrefMembers hmem h hnext)

end Lcm
