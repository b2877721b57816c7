import Lcm.Eliot.Listening
import Mathlib.Data.BitVec
import Mathlib.Tactic.LinearCombination

/-!
# What is opened and released

The books of a part of the REST task: what it has opened and has not released, apart from what it
gives up, and what it adds to the count of open sockets.  They add up, so that a function that
cleans up what it has opened is balanced.  Two functions give up a connection: `Eliot_UpdateTokens`
when the response times out, and `Eliot_AddDevice` for a remote device.  And the retry loops clean
up after an attempt to connect that has cleaned up after itself.

## Main definitions

* `GivesUp` : a connection is given up.
* `Books` : the books.

## Main results

* `books_connectWithRetry`, `books_cleanupSockets` : the books of connecting and of cleaning up.
-/

namespace Lcm

namespace Eliot

namespace Rest

open House Jsr Routine

/-! ### What is counted -/

/-- Something is opened. -/
def Step.opens (r : Resource) : Step → Bool
  | .opened r' => r' = r
  | _ => false

/-- Something is released. -/
def Step.releases (r : Resource) : Step → Bool
  | .released r' => r' = r
  | _ => false

/-- No connection is found. -/
def Step.isUnconnected : Step → Bool
  | .unconnected => true
  | _ => false

/-- **A connection is given up**: the response to `Eliot_UpdateTokens` times out, or
`Eliot_AddDevice` has a connection for a remote device. -/
def GivesUp (cloud : Cloud) : Step → ℕ → Prop
  | .awaits .token k l, k' => k = k' ∧ TimesOut .token (cloud k).reads l
  | .adds k deviceType, k' => k = k' ∧ (cloud k).allocated = true ∧ deviceType = noType
  | _, _ => False

open Classical in
/-- How often a connection is given up in a trace. -/
noncomputable def givenUp (cloud : Cloud) (t : List Step) (k : ℕ) : ℕ :=
  t.countP fun m => decide (GivesUp cloud m k)

open Classical in
/-- How often connections are given up in a trace. -/
noncomputable def allGivenUp (cloud : Cloud) (t : List Step) : ℕ :=
  t.countP fun m => decide (∃ k, GivesUp cloud m k)

/-- What the handles stand for. -/
def Handles.resources (h : Handles) : List Resource :=
  h.ssl.toList.map (⟨.ssl, ·⟩) ++ h.context.toList.map (⟨.context, ·⟩) ++
    h.socket.toList.map (⟨.socket, ·⟩)

/-! ### The books -/

variable {cloud : Cloud} {s s' s₁ : State} {t t₁ : List Step} {held held' : Resource → ℤ}
  {net net' : ℤ}
  {failures failures' : ℕ}

/-- **The books**: what is open at the end and has not been open at the beginning, apart from what
is given up, and what is added to the count of open sockets, apart from `failures` rounds without a
connection at most. -/
structure Books (cloud : Cloud) (held : Resource → ℤ) (net : ℤ) (failures : ℕ) (s : State)
    (t : List Step) (s' : State) : Prop where
  tried : s.tried ≤ s'.tried
  fresh : ∀ r, t.countP (Step.opens r) ≠ 0 →
    t.countP (Step.opens r) = 1 ∧ s.tried ≤ r.attempt ∧ r.attempt < s'.tried
  resources : ∀ r, (t.countP (Step.opens r) : ℤ) =
    t.countP (Step.releases r) + givenUp cloud t r.attempt + held r
  openSockets : s'.openSockets + BitVec.ofNat 32 (t.countP Step.isUnconnected) =
    s.openSockets + BitVec.ofNat 32 (allGivenUp cloud t) + BitVec.ofInt 32 net
  unconnected : t.countP Step.isUnconnected ≤ failures

/-- **The books add up.** -/
theorem Books.append (h : Books cloud held net failures s t s₁)
    (h' : Books cloud held' net' failures' s₁ t₁ s') :
    Books cloud (held + held') (net + net') (failures + failures') s (t ++ t₁) s' where
  tried := Nat.le_trans h.tried h'.tried
  fresh r hr := by
    rw [List.countP_append] at hr ⊢
    have htried := h.tried
    have htried' := h'.tried
    by_cases hfirst : t.countP (Step.opens r) = 0
    · obtain ⟨hone, hle, hlt⟩ := h'.fresh r (by omega)
      omega
    · obtain ⟨hone, hle, hlt⟩ := h.fresh r hfirst
      by_cases hsecond : t₁.countP (Step.opens r) = 0
      · omega
      · obtain ⟨-, hle', -⟩ := h'.fresh r hsecond
        omega
  resources r := by
    have hsum := h.resources r
    have hsum' := h'.resources r
    rw [givenUp] at hsum hsum' ⊢
    simp only [List.countP_append, Nat.cast_add, Pi.add_apply]
    omega
  openSockets := by
    have hsum := h.openSockets
    have hsum' := h'.openSockets
    rw [allGivenUp] at hsum hsum' ⊢
    simp only [List.countP_append, BitVec.ofNat_add, BitVec.ofInt_add]
    linear_combination hsum + hsum'
  unconnected := by
    rw [List.countP_append]
    exact Nat.add_le_add h.unconnected h'.unconnected

theorem Books.mono (h : Books cloud held net failures s t s') (hle : failures ≤ failures') :
    Books cloud held net failures' s t s' :=
  { h with unconnected := Nat.le_trans h.unconnected hle }

theorem Books.nil : Books cloud 0 0 0 s [] s where
  tried := Nat.le_refl _
  fresh r hr := absurd rfl hr
  resources r := rfl
  openSockets := by simp [allGivenUp]
  unconnected := Nat.le_refl 0

/-- The relation that the balanced parts keep. -/
theorem composes_books (cloud : Cloud) : Composes (Books cloud 0 0 0) where
  nil _ := .nil
  append h h' := by
    have hsum := h.append h'
    rwa [add_zero, add_zero] at hsum

/-! ### Connecting and cleaning up -/

theorem ends_release {kind : Kind} {o : Option ℕ} {u : Unit} :
    (release kind o).Ends s t u s' ↔ t = (o.toList.map (⟨kind, ·⟩)).map Step.released ∧ s' = s := by
  cases o with
  | none => simp [release]
  | some k => simp [release]

/-- **Cleaning up** releases what the handles stand for, in any case from the count. -/
theorem ends_cleanupSockets {h h' : Handles} : (cleanupSockets h).Ends s t h' s' ↔
    t = h.resources.map .released ∧ h' = .cleared ∧
      s' = { s with openSockets := s.openSockets - 1 } := by
  simp only [cleanupSockets, ends_bind, ends_modify, ends_release, ends_pure, Handles.resources,
    List.map_append]
  constructor
  · rintro ⟨t₁, u, s₁, t₂, ⟨rfl, rfl⟩, ⟨t₃, u₃, s₃, t₄, ⟨rfl, rfl⟩, ⟨t₅, u₅, s₅, t₆, ⟨rfl, rfl⟩,
      ⟨t₇, u₇, s₇, t₈, ⟨rfl, rfl⟩, ⟨rfl, rfl, rfl⟩, rfl⟩, rfl⟩, rfl⟩, rfl⟩
    refine ⟨?_, rfl, rfl⟩
    simp
  · rintro ⟨rfl, rfl, rfl⟩
    refine ⟨[], (), _, _, ⟨rfl, rfl⟩, ⟨_, (), _, _, ⟨rfl, rfl⟩, ⟨_, (), _, _, ⟨rfl, rfl⟩,
      ⟨_, (), _, [], ⟨rfl, rfl⟩, ⟨rfl, rfl, rfl⟩, rfl⟩, rfl⟩, rfl⟩, ?_⟩
    simp

/-- The opening of a connection. -/
theorem ends_establish {k : ℕ} {a : Attempt} {r : Handles × Bool}
    (h : (establish k a).Ends s t r s') :
    t = r.1.resources.reverse.map .opened ∧ s' = s ∧
      (r.2 = true → r.1 = .of k) ∧ ∀ q ∈ r.1.resources, q.attempt = k := by
  rw [establish] at h
  split_ifs at h
  all_goals
    simp only [ends_bind, ends_mark, ends_pure] at h
  · obtain ⟨t₁, u, s₁, t₂, ⟨rfl, rfl⟩, ⟨t₃, u₃, s₃, t₄, ⟨rfl, rfl⟩, ⟨t₅, u₅, s₅, t₆, ⟨rfl, rfl⟩,
      ⟨rfl, rfl, rfl⟩, rfl⟩, rfl⟩, rfl⟩ := h
    simp [Handles.resources, Handles.of]
  · obtain ⟨t₁, u, s₁, t₂, ⟨rfl, rfl⟩, ⟨t₃, u₃, s₃, t₄, ⟨rfl, rfl⟩, ⟨rfl, rfl, rfl⟩, rfl⟩,
      rfl⟩ := h
    simp [Handles.resources]
  · obtain ⟨t₁, u, s₁, t₂, ⟨rfl, rfl⟩, ⟨rfl, rfl, rfl⟩, rfl⟩ := h
    simp [Handles.resources]
  · obtain ⟨t₁, u, s₁, t₂, ⟨rfl, rfl⟩, ⟨rfl, rfl, rfl⟩, rfl⟩ := h
    simp [Handles.resources]
  · obtain ⟨rfl, rfl, rfl⟩ := h
    simp [Handles.resources, Handles.cleared]
  · obtain ⟨rfl, rfl, rfl⟩ := h
    simp [Handles.resources, Handles.cleared]

/-- How often something stands among what the handles stand for. -/
def Handles.holds (h : Handles) (r : Resource) : ℤ := h.resources.count r

theorem Handles.nodup_resources (h : Handles) : h.resources.Nodup := by
  obtain ⟨ssl, context, socket⟩ := h
  cases ssl <;> cases context <;> cases socket <;> simp [Handles.resources]

theorem givenUp_eq_zero (h : ∀ m ∈ t, ∀ k, ¬ GivesUp cloud m k) (k : ℕ) :
    givenUp cloud t k = 0 := by
  rw [givenUp, List.countP_eq_zero]
  intro m hm htrue
  exact h m hm k (by simpa using htrue)

theorem allGivenUp_eq_zero (h : ∀ m ∈ t, ∀ k, ¬ GivesUp cloud m k) : allGivenUp cloud t = 0 := by
  rw [allGivenUp, List.countP_eq_zero]
  intro m hm htrue
  obtain ⟨k, hk⟩ : ∃ k, GivesUp cloud m k := by simpa using htrue
  exact h m hm k hk

/-- Opening and releasing is not giving up. -/
theorem not_givesUp_map (cloud : Cloud) (f : Resource → Step) (hf : ∀ r k, ¬ GivesUp cloud (f r) k)
    (rs : List Resource) : ∀ m ∈ rs.map f, ∀ k, ¬ GivesUp cloud m k := by
  intro m hm k
  obtain ⟨r, -, rfl⟩ := List.mem_map.1 hm
  exact hf r k

/-- What is only opened, in the books. -/
theorem books_opened {rs : List Resource} (hrs : rs.Nodup) (htried : s.tried ≤ s'.tried)
    (hattempt : ∀ r ∈ rs, s.tried ≤ r.attempt ∧ r.attempt < s'.tried)
    (hopen : s'.openSockets = s.openSockets + BitVec.ofInt 32 net) :
    Books cloud (fun r => rs.count r) net 0 s (rs.map .opened) s' where
  tried := htried
  fresh r hr := by
    have hcount : (rs.map Step.opened).countP (Step.opens r) = rs.count r := List.countP_map
    rw [hcount] at hr ⊢
    have hmem : r ∈ rs := List.count_pos_iff.1 (Nat.pos_of_ne_zero hr)
    exact ⟨List.count_eq_one_of_mem hrs hmem, hattempt r hmem⟩
  resources r := by
    have hcount : (rs.map Step.opened).countP (Step.opens r) = rs.count r := List.countP_map
    have hnot := not_givesUp_map cloud .opened (fun _ _ => id) rs
    rw [hcount, givenUp_eq_zero hnot]
    simp [List.countP_map, Function.comp_def, Step.releases]
  openSockets := by
    have hnot := not_givesUp_map cloud .opened (fun _ _ => id) rs
    rw [hopen, allGivenUp_eq_zero hnot]
    simp [List.countP_map, Function.comp_def, Step.isUnconnected]
  unconnected := by simp [List.countP_map, Function.comp_def, Step.isUnconnected]

/-- What is only released, in the books. -/
theorem books_released {rs : List Resource} (htried : s.tried ≤ s'.tried)
    (hopen : s'.openSockets = s.openSockets + BitVec.ofInt 32 net) :
    Books cloud (fun r => -rs.count r) net 0 s (rs.map .released) s' where
  tried := htried
  fresh r hr := by
    refine absurd ?_ hr
    simp [List.countP_map, Function.comp_def, Step.opens]
  resources r := by
    have hcount : (rs.map Step.released).countP (Step.releases r) = rs.count r := List.countP_map
    have hnot := not_givesUp_map cloud .released (fun _ _ => id) rs
    rw [hcount, givenUp_eq_zero hnot]
    simp [List.countP_map, Function.comp_def, Step.opens]
  openSockets := by
    have hnot := not_givesUp_map cloud .released (fun _ _ => id) rs
    rw [hopen, allGivenUp_eq_zero hnot]
    simp [List.countP_map, Function.comp_def, Step.isUnconnected]
  unconnected := by simp [List.countP_map, Function.comp_def, Step.isUnconnected]

/-- **The books of cleaning up.** -/
theorem books_cleanupSockets {h h' : Handles} (hends : (cleanupSockets h).Ends s t h' s') :
    Books cloud (-h.holds) (-1) 0 s t s' := by
  obtain ⟨rfl, rfl, rfl⟩ := ends_cleanupSockets.1 hends
  exact books_released (Nat.le_refl _) (BitVec.sub_eq_add_neg ..)

/-- How many sockets a connection counts for. -/
def socketsOf (connection : Option ℕ) : ℤ := connection.elim 0 fun _ => 1

theorem holds_cleared : Handles.cleared.holds = 0 := rfl

theorem holds_of {k : ℕ} {r : Resource} :
    (Handles.of k).holds r = if r.attempt = k then 1 else 0 := by
  obtain ⟨kind, attempt⟩ := r
  by_cases hk : attempt = k
  · subst hk
    cases kind <;> simp [Handles.holds, Handles.resources, Handles.of]
  · have hne : ∀ kind', (⟨kind', k⟩ : Resource) ≠ ⟨kind, attempt⟩ := fun kind' heq =>
      hk (congrArg Resource.attempt heq).symm
    simp [Handles.holds, Handles.resources, Handles.of, hne, hk]

/-- **The books of an attempt to connect.** -/
theorem books_connect {connection : Option ℕ} (h : (connect cloud).Ends s t connection s') :
    Books cloud (handlesOf connection).holds (socketsOf connection) 0 s t s' := by
  simp only [connect, ends_bind, ends_get, ends_modify] at h
  obtain ⟨_, _, s, _, ⟨rfl, rfl, rfl⟩, ⟨_, u, _, _, ⟨rfl, rfl⟩, ⟨t₃, r, s₁, t₄, hopen, hrest,
    rfl⟩, rfl⟩, rfl⟩ := h
  obtain ⟨rfl, rfl, hok, hattempt⟩ := ends_establish hopen
  have hbooks : Books cloud r.1.holds 1 0 s (r.1.resources.reverse.map .opened)
      { s with tried := s.tried + 1, openSockets := s.openSockets + 1 } := by
    have hcount : r.1.holds = fun q => (r.1.resources.reverse.count q : ℤ) := by
      funext q
      rw [List.count_reverse]
      rfl
    rw [hcount]
    refine books_opened (List.nodup_reverse.2 r.1.nodup_resources) (Nat.le_succ _) ?_ rfl
    intro q hq
    have hk := hattempt q (List.mem_reverse.1 hq)
    exact ⟨Nat.le_of_eq hk.symm, by rw [hk]; exact Nat.lt_succ_self _⟩
  simp only [List.nil_append]
  split at hrest
  · rename_i hconnected
    obtain ⟨rfl, rfl, rfl⟩ := ends_pure.1 hrest
    rw [hok hconnected] at hbooks ⊢
    rwa [List.append_nil]
  · obtain ⟨t₅, h', s₂, t₆, hclean, hnone, rfl⟩ := ends_bind.1 hrest
    obtain ⟨rfl, rfl, rfl⟩ := ends_pure.1 hnone
    have hsum := hbooks.append (books_cleanupSockets hclean)
    rwa [add_neg_cancel, add_neg_cancel, ← List.append_nil t₅] at hsum

/-- The books of some attempts to connect. -/
theorem books_connectAttempts {attempts : ℕ} {connection : Option ℕ}
    (h : (connectAttempts cloud attempts).Ends s t connection s') :
    Books cloud (handlesOf connection).holds (socketsOf connection) 0 s t s' := by
  induction attempts generalizing s t with
  | zero =>
    obtain ⟨rfl, rfl, rfl⟩ := ends_pure.1 h
    exact .nil
  | succ attempts ih =>
    obtain ⟨t₁, first, s₁, t₂, hfirst, hrest, rfl⟩ := ends_bind.1 h
    have hbooks := books_connect hfirst
    cases first with
    | some k =>
      obtain ⟨rfl, rfl, rfl⟩ := ends_pure.1 hrest
      rwa [List.append_nil]
    | none =>
      have hsum := hbooks.append (ih hrest)
      have hholds : (handlesOf none).holds = 0 := holds_cleared
      have hsockets : socketsOf none = 0 := rfl
      rwa [hholds, hsockets, zero_add, zero_add] at hsum

/-- **The books of connecting**: what has been opened, if there is a connection. -/
theorem books_connectWithRetry {connection : Option ℕ}
    (h : (connectWithRetry cloud).Ends s t connection s') :
    Books cloud (handlesOf connection).holds (socketsOf connection) 0 s t s' :=
  books_connectAttempts h

/-! ### The functions -/

/-- What neither opens nor releases anything, in the books. -/
theorem books_mark {m : Step} (hopens : ∀ r, m.opens r = false)
    (hreleases : ∀ r, m.releases r = false)
    (hunconnected : m.isUnconnected = false) (hgives : ∀ k, ¬ GivesUp cloud m k) :
    Books cloud 0 0 0 s [m] s := by
  have hnot : ∀ m' ∈ [m], ∀ k, ¬ GivesUp cloud m' k := by simpa using hgives
  refine ⟨Nat.le_refl _, fun r hr => ?_, fun r => ?_, ?_, ?_⟩
  · simp [hopens] at hr
  · simp [hopens, hreleases, givenUp_eq_zero hnot]
  · simp [hunconnected, allGivenUp_eq_zero hnot]
  · simp [hunconnected]

/-- A connection that is given up, in the books. -/
theorem books_mark_givesUp {m : Step} {k : ℕ} (hopens : ∀ r, m.opens r = false)
    (hreleases : ∀ r, m.releases r = false) (hunconnected : m.isUnconnected = false)
    (hgives : ∀ k', GivesUp cloud m k' ↔ k' = k) :
    Books cloud (-(Handles.of k).holds) (-1) 0 s [m] s := by
  have hcount : ∀ k', givenUp cloud [m] k' = if k' = k then 1 else 0 := by
    intro k'
    simp [givenUp, List.countP_cons, hgives]
  have hall : allGivenUp cloud [m] = 1 := by simp [allGivenUp, hgives]
  refine ⟨Nat.le_refl _, fun r hr => ?_, fun r => ?_, ?_, ?_⟩
  · simp [hopens] at hr
  · simp [hopens, hreleases, hcount, holds_of]
  · rw [hall]
    simp only [hunconnected, List.countP_cons, List.countP_nil]
    simp [BitVec.add_assoc]
  · simp [hunconnected]

/-- A round without a connection, in the books. -/
theorem books_unconnected : Books cloud 0 1 1 s [.unconnected] s := by
  have hnot : ∀ m ∈ [Step.unconnected], ∀ k, ¬ GivesUp cloud m k := by simp [GivesUp]
  refine ⟨Nat.le_refl _, fun r hr => absurd rfl hr, fun r => ?_, ?_, Nat.le_refl 1⟩
  · rw [givenUp_eq_zero hnot]
    rfl
  · rw [allGivenUp_eq_zero hnot]
    simp [Step.isUnconnected]

section Keeps

variable {α β : Type} {a : α} {p : Rest α} {f : α → Rest β} {k : ℕ}

/-- A part that is balanced. -/
abbrev Balances (cloud : Cloud) (p : Rest α) : Prop := p.Keeps (Books cloud 0 0 0)

theorem balances_pure (a : α) : Balances cloud (pure a : Rest α) :=
  keeps_pure (composes_books cloud) a

theorem balances_get : Balances cloud (get : Rest State) := keeps_get (composes_books cloud)

theorem Balances.bind (hp : Balances cloud p) (hf : ∀ a, Balances cloud (f a)) :
    Balances cloud (p >>= f) := keeps_bind (composes_books cloud) hp hf

/-- Other variables may change. -/
theorem balances_modify {f : State → State} (htried : ∀ s, (f s).tried = s.tried)
    (hopen : ∀ s, (f s).openSockets = s.openSockets) : Balances cloud (modify f) := by
  intro s t u s' h
  obtain ⟨rfl, rfl⟩ := ends_modify.1 h
  refine ⟨Nat.le_of_eq (htried s).symm, fun r hr => absurd rfl hr, fun r => rfl, ?_,
    Nat.le_refl 0⟩
  rw [hopen]
  simp [allGivenUp]

theorem balances_mark {m : Step} (hopens : ∀ r, m.opens r = false)
    (hreleases : ∀ r, m.releases r = false) (hunconnected : m.isUnconnected = false)
    (hgives : ∀ k, ¬ GivesUp cloud m k) : Balances cloud (mark m) := by
  intro s t u s' h
  obtain ⟨rfl, rfl⟩ := ends_mark.1 h
  exact books_mark hopens hreleases hunconnected hgives

/-- **A part that closes a connection**, or gives it up. -/
def Closes (cloud : Cloud) (k : ℕ) (p : Rest α) : Prop :=
  p.Keeps (Books cloud (-(Handles.of k).holds) (-1) 0)

theorem Balances.bind_closes (hp : Balances cloud p) (hf : ∀ a, Closes cloud k (f a)) :
    Closes cloud k (p >>= f) := by
  intro s t b s' h
  obtain ⟨t₁, a, s₁, t₂, hfirst, hsecond, rfl⟩ := ends_bind.1 h
  have hsum := (hp hfirst).append (hf a hsecond)
  rwa [zero_add, zero_add] at hsum

theorem Closes.bind (hp : Closes cloud k p) (hf : ∀ a, Balances cloud (f a)) :
    Closes cloud k (p >>= f) := by
  intro s t b s' h
  obtain ⟨t₁, a, s₁, t₂, hfirst, hsecond, rfl⟩ := ends_bind.1 h
  have hsum := (hp hfirst).append (hf a hsecond)
  rwa [add_zero, add_zero] at hsum

theorem closes_cleanupSockets : Closes cloud k (cleanupSockets (.of k)) :=
  fun _ _ _ _ => books_cleanupSockets

/-- **A function that closes the connection it gets** is balanced. -/
theorem balances_connection {connecting : Rest (Option ℕ)} {f : Option ℕ → Rest α}
    (hconnecting : ∀ ⦃s t connection s'⦄, connecting.Ends s t connection s' →
      Books cloud (handlesOf connection).holds (socketsOf connection) 0 s t s')
    (hnone : Balances cloud (f none)) (hsome : ∀ k, Closes cloud k (f (some k))) :
    Balances cloud (connecting >>= f) := by
  intro s t b s' h
  obtain ⟨t₁, connection, s₁, t₂, hfirst, hsecond, rfl⟩ := ends_bind.1 h
  have hbooks := hconnecting hfirst
  cases connection with
  | none =>
    have hsum := hbooks.append (hnone hsecond)
    have hholds : (handlesOf none).holds = 0 := holds_cleared
    have hsockets : socketsOf none = 0 := rfl
    rwa [hholds, hsockets, add_zero, add_zero] at hsum
  | some k =>
    have hsum := hbooks.append (hsome k hsecond)
    have hholds : (handlesOf (some k)).holds = (Handles.of k).holds := rfl
    have hsockets : socketsOf (some k) = 1 := rfl
    rwa [hholds, hsockets, add_neg_cancel, add_neg_cancel] at hsum

/-- A receive loop, except the one of `Eliot_UpdateTokens`. -/
theorem balances_receive {w : Wait} (hw : w ≠ .token) {γ : Type}
    {handle : γ → Read → List JsrState → Rest (γ × Bool)}
    (hhandle : ∀ b read events, Balances cloud (handle b read events)) (l : Listener) (b : γ) :
    Balances cloud (receive cloud w k handle l b) := by
  refine Balances.bind (balances_mark (fun _ => rfl) (fun _ => rfl) rfl ?_) fun _ => ?_
  · intro k'
    cases w with
    | token => exact absurd rfl hw
    | search => exact id
    | device => exact id
    | list => exact id
  · refine keeps_iter (composes_books cloud) (fun x => ?_) _
    exact Balances.bind (hhandle ..) fun _ => balances_pure _

theorem balances_receiveBytes (k bufferSize : ℕ) :
    Balances cloud (receiveBytes cloud k bufferSize) := by
  refine Balances.bind (balances_mark (fun _ => rfl) (fun _ => rfl) rfl fun _ => id) fun _ => ?_
  refine keeps_iter (composes_books cloud) (fun i => ?_) _
  rw [receiveBytesRound]
  split
  · exact balances_pure _
  · exact balances_pure _
  · exact balances_pure _
  · exact balances_pure _

theorem balances_addLcmPlant (createdId : List Byte → Option (List Byte)) :
    Balances cloud (addLcmPlant cloud createdId) := by
  refine balances_connection (fun _ _ _ _ => books_connectWithRetry) (balances_pure _) fun k => ?_
  refine (balances_receiveBytes k requestSize).bind_closes fun r => ?_
  refine Balances.bind_closes ?_ fun _ => closes_cleanupSockets.bind fun _ => balances_pure _
  have hsame : ∀ st, (storeCreatedId createdId r st).tried = st.tried ∧
      (storeCreatedId createdId r st).openSockets = st.openSockets := by
    intro st
    rw [storeCreatedId]
    split
    · cases createdId r.2 with
      | none => exact ⟨rfl, rfl⟩
      | some id => exact ⟨rfl, rfl⟩
    · exact ⟨rfl, rfl⟩
  exact balances_modify (fun st => (hsame st).1) fun st => (hsame st).2

theorem balances_deleteDevice : Balances cloud (deleteDevice cloud) := by
  refine balances_connection (fun _ _ _ _ => books_connectWithRetry) (balances_pure _) fun k => ?_
  refine (balances_receiveBytes k 16).bind_closes fun _ => ?_
  exact closes_cleanupSockets.bind fun _ => balances_pure _

theorem balances_renameAttempts (attempts : ℕ) (httpStatus : ℤ) :
    Balances cloud (renameAttempts cloud attempts httpStatus) := by
  induction attempts generalizing httpStatus with
  | zero => exact balances_pure _
  | succ attempts ih =>
    refine balances_connection (fun _ _ _ _ => books_connectWithRetry) (balances_pure _) fun k => ?_
    refine closes_cleanupSockets.bind fun _ => ?_
    by_cases hstatus : renameStatus (cloud k) httpStatus = eliotHttpOk
    · rw [if_pos hstatus]
      exact balances_pure _
    · rw [if_neg hstatus]
      exact ih _

theorem balances_renameDevice (deviceId : List Byte) :
    Balances cloud (renameDevice cloud deviceId) := by
  rw [renameDevice]
  split
  · exact balances_pure _
  · exact balances_renameAttempts _ _

theorem balances_addDevice (stack : ℕ → Stack) (deviceType : Byte)
    (deviceId : CString eliotDeviceIdSize) :
    Balances cloud (addDevice cloud stack deviceType deviceId) := by
  refine balances_get.bind fun st => ?_
  refine balances_connection (fun _ _ _ _ => books_connectWithRetry) (balances_pure _) fun k => ?_
  by_cases hremote : (cloud k).allocated = true ∧ deviceType = noType
  · -- the connection is given up
    refine Closes.bind ?_ fun _ => ?_
    · intro s t u s' h
      obtain ⟨rfl, rfl⟩ := ends_mark.1 h
      refine books_mark_givesUp (fun _ => rfl) (fun _ => rfl) rfl fun k' => ?_
      exact ⟨fun hgives => hgives.1.symm, fun heq => ⟨heq.symm, hremote⟩⟩
    · rw [if_pos hremote]
      exact balances_pure _
  · refine Balances.bind_closes ?_ fun _ => ?_
    · exact balances_mark (fun _ => rfl) (fun _ => rfl) rfl fun k' hgives => hremote hgives.2
    · rw [if_neg hremote]
      refine Balances.bind_closes ?_ fun _ => closes_cleanupSockets.bind fun _ => balances_pure _
      rw [requestDevice]
      split
      · refine Balances.bind ?_ fun _ => balances_pure _
        exact balances_receive (by decide) (fun _ _ _ => balances_pure _) _ _
      · exact balances_pure _

theorem balances_compareModule (found : Found) (r : Report) :
    Balances cloud (compareModule cloud found r) := by
  refine balances_get.bind fun st => ?_
  have hdelete : Balances cloud (do
      deleteDevice cloud
      pure found) := balances_deleteDevice.bind fun _ => balances_pure _
  have hrename : ∀ (same : Prop) [Decidable same] (d : Device), Balances cloud (do
      renameUnless cloud same r.id
      pure (Function.update found d true)) := by
    intro same _ d
    refine Balances.bind ?_ fun _ => balances_pure _
    rw [renameUnless]
    split
    · exact balances_pure _
    · exact balances_renameDevice _
  split
  · split
    · split
      · exact balances_pure _
      · exact hdelete
    · split
      · split
        · exact hrename _ _
        · exact hdelete
      · split
        · exact hrename _ _
        · exact hdelete
  · exact balances_pure _

theorem balances_compareModules (found : Found) (rs : List Report) :
    Balances cloud (compareModules cloud found rs) := by
  induction rs generalizing found with
  | nil => exact balances_pure _
  | cons r rs ih => exact (balances_compareModule found r).bind fun found => ih found

theorem balances_addZones (stack : ℕ → Stack) (found : Found) (indices : List ℕ) :
    Balances cloud (addZones cloud stack found indices) := by
  induction indices with
  | nil => exact balances_pure _
  | cons index indices ih =>
    refine Balances.bind ?_ fun _ => ih
    refine balances_get.bind fun st => ?_
    split
    · split
      · exact balances_pure _
      · refine (balances_addDevice ..).bind fun id => ?_
        exact balances_modify (fun _ => rfl) fun _ => rfl
    · exact balances_pure _

theorem balances_addScenes (stack : ℕ → Stack) (garbage : Scenes.SceneProperties) (found : Found)
    (left : ℕ) : Balances cloud (addScenes cloud stack garbage found left) := by
  induction left with
  | zero => exact balances_pure _
  | succ left ih =>
    refine balances_get.bind fun st => ?_
    split
    · refine Balances.bind ?_ fun _ => ih
      refine balances_get.bind fun st => ?_
      split
      · exact balances_pure _
      · refine (balances_addDevice ..).bind fun id => ?_
        exact balances_modify (fun _ => rfl) fun _ => rfl
    · exact balances_pure _

theorem closes_readList (stack : Stack) (k : ℕ) : Closes cloud k (readList cloud stack k) := by
  rw [readList]
  split
  · refine Balances.bind_closes ?_ fun _ => closes_cleanupSockets.bind fun _ => balances_pure _
    refine balances_receive (by decide) (fun found _ events => ?_) _ _
    exact (balances_compareModules _ _).bind fun _ => balances_pure _
  · exact closes_cleanupSockets.bind fun _ => balances_pure _

theorem balances_syncDevices (stack : ℕ → Stack) : Balances cloud (syncDevices cloud stack) := by
  refine balances_get.bind fun st => ?_
  split
  · exact balances_pure _
  · refine balances_connection (fun _ _ _ _ => books_connectWithRetry) (balances_pure _) fun k => ?_
    refine (closes_readList _ k).bind fun found => ?_
    split
    · exact balances_pure _
    · exact (balances_addZones ..).bind fun _ => balances_addScenes ..

end Keeps

end Rest

end Eliot

end Lcm
