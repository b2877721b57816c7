import Lcm.Eliot.Rest
import Lcm.Run.Guarded

/-!
# The receive loops

A receive loop depends on the cloud and on its own state alone: whatever its caller does about the
objects, the reader goes through the same states.  So what a cloud does to a loop can be said
without the loop: whether it stops it, and whether it lets it run into its limit.

## Main definitions

* `heard` : the reader after some calls of `wolfSSL_read`.
* `Stops`, `TimesOut` : what the cloud does to a loop.
* `FallsSilent` : the cloud sends finitely many bytes.

## Main results

* `ends_rounds` : a loop ends with the first state that does not go on, unless it is left.
* `stops_of_limited` : a loop with a limit is stopped by a cloud that falls silent.
* `guardedAt_receive`, `guardedAt_receive_of_stops` : when a loop ends.
* `ends_retryRound` : the parts of a round of a retry loop.
-/

namespace Lcm

namespace Eliot

namespace Rest

open Jsr Routine

variable {w : Wait} {reads : ℕ → Read} {l : Listener} {n : ℕ}

/-- The reader after some calls of `wolfSSL_read`, if it goes on that long. -/
def heard (reads : ℕ → Read) (l : Listener) : ℕ → Listener
  | 0 => l
  | n + 1 => (hear (heard reads l n) (reads (heard reads l n).position)).1

/-- **The cloud stops a receive loop** sooner or later. -/
def Stops (w : Wait) (reads : ℕ → Read) (l : Listener) : Prop :=
  ∃ n, w.goesOn (heard reads l (n + 1)) = false

/-- **The cloud lets a receive loop run into its limit.** -/
def TimesOut (w : Wait) (reads : ℕ → Read) (l : Listener) : Prop :=
  ∃ n, eliotReceiveMaxRetries ≤ (heard reads l (n + 1)).timeoutCounter ∧
    ∀ i < n, w.goesOn (heard reads l (i + 1)) = true

/-- **The cloud sends finitely many bytes**, and then nothing more. -/
def FallsSilent (reads : ℕ → Read) : Prop :=
  ∃ n, ∀ i, n ≤ i → ∀ first rest, reads i ≠ .bytes first rest

@[simp] theorem position_hear (l : Listener) (read : Read) :
    (hear l read).1.position = l.position + 1 := by
  cases read <;> rfl

theorem position_heard (reads : ℕ → Read) (l : Listener) (n : ℕ) :
    (heard reads l n).position = l.position + n := by
  induction n with
  | zero => rfl
  | succ n ih => rw [heard, position_hear, ih, Nat.add_assoc]

/-- The first call of `wolfSSL_read` and the others. -/
theorem heard_succ (reads : ℕ → Read) (l : Listener) (n : ℕ) :
    heard reads (hear l (reads l.position)).1 n = heard reads l (n + 1) := by
  induction n with
  | zero => rfl
  | succ n ih => rw [heard, ih]; rfl

/-! ### The limit -/

theorem timeoutCounter_hear {read : Read} (h : ∀ first rest, read ≠ .bytes first rest) :
    (hear l read).1.timeoutCounter = l.timeoutCounter + 1 := by
  cases read with
  | bytes first rest => exact absurd rfl (h first rest)
  | zero => rfl
  | error wantRead => rfl

/-- A loop whose counter has reached the limit does not go on. -/
theorem goesOn_of_le (hw : w.limited = true) (h : eliotReceiveMaxRetries ≤ l.timeoutCounter) :
    w.goesOn l = false := by
  simp [Wait.goesOn, hw, h]

/-- **A loop with a limit is stopped** by a cloud that falls silent. -/
theorem stops_of_limited (hw : w.limited = true) (h : FallsSilent reads) (l : Listener) :
    Stops w reads l := by
  obtain ⟨n, hn⟩ := h
  have hcounter : ∀ i, i ≤ (heard reads l (n + i)).timeoutCounter := by
    intro i
    induction i with
    | zero => exact Nat.zero_le _
    | succ i ih =>
      rw [← Nat.add_assoc, heard, timeoutCounter_hear]
      · exact Nat.succ_le_succ ih
      · intro first rest
        refine hn _ ?_ first rest
        rw [position_heard]
        omega
  have hlimit : eliotReceiveMaxRetries ≤
      (heard reads l (n + 199 + 1)).timeoutCounter := hcounter 200
  exact ⟨n + 199, goesOn_of_le hw hlimit⟩

/-- A loop that has ended with its counter at the limit has run into it. -/
theorem timesOut_iff (hw : w.limited = true) (hend : w.goesOn (heard reads l (n + 1)) = false)
    (hbefore : ∀ i < n, w.goesOn (heard reads l (i + 1)) = true) :
    TimesOut w reads l ↔ eliotReceiveMaxRetries ≤ (heard reads l (n + 1)).timeoutCounter := by
  constructor
  · rintro ⟨k, hk, hgoes⟩
    -- the loop ends where the counter reaches the limit, and only there
    have hle : n ≤ k := by
      by_contra hlt
      have htrue := hbefore k (Nat.lt_of_not_le hlt)
      rw [goesOn_of_le hw hk] at htrue
      cases htrue
    have hge : k ≤ n := by
      by_contra hlt
      have htrue := hgoes n (Nat.lt_of_not_le hlt)
      rw [hend] at htrue
      cases htrue
    obtain rfl := Nat.le_antisymm hle hge
    exact hk
  · intro h
    exact ⟨n, h, hbefore⟩

/-! ### The loops -/

section Receive

variable {cloud : Cloud} {β : Type} {k : ℕ} {handle : β → Read → List JsrState → Rest (β × Bool)}
  {s s' : State} {t : List Step} {x y : Listener × β} {b : β} {G : Step → Prop} {D : Step → Bool}

/-- The objects are handled, and the loop goes on or ends with the next state of the reader. -/
theorem ends_receiveRound {r : (Listener × β) ⊕ (Listener × β)} :
    (receiveRound cloud w k handle x).Ends s t r s' ↔ ∃ b found,
      (handle x.2 ((cloud k).reads x.1.position)
        (hear x.1 ((cloud k).reads x.1.position)).2).Ends s t (b, found) s' ∧
      r = if found || !w.goesOn (hear x.1 ((cloud k).reads x.1.position)).1
        then .inr ((hear x.1 ((cloud k).reads x.1.position)).1, b)
        else .inl ((hear x.1 ((cloud k).reads x.1.position)).1, b) := by
  rw [receiveRound]
  dsimp only
  rw [ends_bind]
  constructor
  · rintro ⟨t₁, ⟨b, found⟩, s₁, t₂, hhandle, hpure, rfl⟩
    obtain ⟨rfl, rfl, rfl⟩ := ends_pure.1 hpure
    exact ⟨b, found, by rwa [List.append_nil], rfl⟩
  · rintro ⟨b, found, hhandle, rfl⟩
    exact ⟨t, (b, found), s', [], hhandle, ends_pure.2 ⟨rfl, rfl, rfl⟩, (List.append_nil t).symm⟩

/-- The loop goes on. -/
theorem ends_receiveRound_inl (h : (receiveRound cloud w k handle x).Ends s t (.inl y) s') :
    y.1 = (hear x.1 ((cloud k).reads x.1.position)).1 ∧ w.goesOn y.1 = true := by
  obtain ⟨b, found, -, hr⟩ := ends_receiveRound.1 h
  split at hr
  · cases hr
  · rename_i hgoes
    obtain rfl := Sum.inl.inj hr
    refine ⟨rfl, ?_⟩
    cases hgoesOn : w.goesOn (hear x.1 ((cloud k).reads x.1.position)).1 with
    | true => rfl
    | false => simp [hgoesOn] at hgoes

/-- The caller never leaves the loop. -/
def NeverFinds (handle : β → Read → List JsrState → Rest (β × Bool)) : Prop :=
  ∀ ⦃b read events s t r s'⦄, (handle b read events).Ends s t r s' → r.2 = false

theorem neverFinds_pure {f : β → Read → List JsrState → β} :
    NeverFinds fun b read events => (pure (f b read events, false) : Rest (β × Bool)) := by
  intro b read events s t r s' h
  obtain ⟨-, rfl, -⟩ := ends_pure.1 h
  rfl

/-- **A loop ends** with one of the states of the reader; if it is not left, with the first one that
does not go on. -/
theorem ends_rounds (h : (iter (receiveRound cloud w k handle) x).Ends s t y s') :
    ∃ n, y.1 = heard (cloud k).reads x.1 (n + 1) ∧
      (∀ i < n, w.goesOn (heard (cloud k).reads x.1 (i + 1)) = true) ∧
      (NeverFinds handle → w.goesOn y.1 = false) := by
  refine Ends.iterInduction (P := fun x _ _ y _ => ∃ n, y.1 = heard (cloud k).reads x.1 (n + 1) ∧
    (∀ i < n, w.goesOn (heard (cloud k).reads x.1 (i + 1)) = true) ∧
    (NeverFinds handle → w.goesOn y.1 = false)) ?_ ?_ h
  · intro x s t y s' hlast
    obtain ⟨b, found, hhandle, hr⟩ := ends_receiveRound.1 hlast
    split at hr
    · rename_i hstop
      obtain rfl := Sum.inr.inj hr
      refine ⟨0, rfl, fun i hi => absurd hi (Nat.not_lt_zero i), fun hfinds => ?_⟩
      obtain rfl : found = false := hfinds hhandle
      simpa using hstop
    · cases hr
  · rintro x s t₁ x' s₁ t₂ y s' hround ⟨n, hy, hbefore, hend⟩
    obtain ⟨hx', hgoes⟩ := ends_receiveRound_inl hround
    rw [hx'] at hy hbefore
    rw [heard_succ] at hy
    refine ⟨n + 1, hy, fun i hi => ?_, hend⟩
    cases i with
    | zero => rwa [hx'] at hgoes
    | succ i =>
      rw [← heard_succ]
      exact hbefore i (Nat.lt_of_succ_lt_succ hi)

/-- A loop that the cloud stops ends if what its caller does ends. -/
theorem guardedAt_rounds (hhandle : ∀ b read events s, (handle b read events).GuardedAt G D s)
    (hstops : Stops w (cloud k).reads l) :
    (iter (receiveRound cloud w k handle) (l, b)).GuardedAt G D s := by
  obtain ⟨n, hn⟩ := hstops
  refine guardedAt_iter
    (I := fun x _ => ∃ i ≤ n, x.1 = heard (cloud k).reads l i)
    (fun x _ => l.position + n - x.1.position) ?_ ?_ ⟨0, Nat.zero_le n, rfl⟩
  · rintro x s -
    rw [receiveRound]
    refine (hhandle ..).bind fun t r s' _ => ?_
    exact guardedAt_pure _
  · rintro x s t y s' ⟨i, hi, hx⟩ hround
    obtain ⟨hy, hgoes⟩ := ends_receiveRound_inl hround
    have hnext : y.1 = heard (cloud k).reads l (i + 1) := by rw [hy, hx]; rfl
    have hlt : i < n := by
      refine Nat.lt_of_le_of_ne hi fun heq => ?_
      rw [hnext, heq, hn] at hgoes
      cases hgoes
    refine ⟨⟨i + 1, hlt, hnext⟩, .inr ?_⟩
    rw [hnext, hx, position_heard, position_heard]
    omega

/-- **When a loop ends** that its caller does not leave: if the cloud stops it. -/
theorem guardedAt_receive (hfinds : NeverFinds handle)
    (hhandle : ∀ b read events s, (handle b read events).GuardedAt G D s)
    (hG : G (.awaits w k l) ↔ Stops w (cloud k).reads l) :
    (receive cloud w k handle l b).GuardedAt G D s := by
  refine guardedAt_mark_bind (fun hgood => guardedAt_rounds hhandle (hG.1 hgood)) ?_
  rintro hbad ⟨t, y, s', h⟩
  obtain ⟨n, hy, -, hend⟩ := ends_rounds h
  exact hbad (hG.2 ⟨n, hy ▸ hend hfinds⟩)

/-- A loop ends that the cloud stops. -/
theorem guardedAt_receive_of_stops
    (hhandle : ∀ b read events s, (handle b read events).GuardedAt G D s)
    (hG : G (.awaits w k l)) (hstops : Stops w (cloud k).reads l) :
    (receive cloud w k handle l b).GuardedAt G D s :=
  guardedAt_mark_bind (fun _ => guardedAt_rounds hhandle hstops) fun hbad => absurd hG hbad

end Receive

/-! ### The retry loops -/

section Retry

variable {cloud : Cloud} {handle : Reply → Read → List JsrState → Rest (Reply × Bool)}
  {s s' : State} {t : List Step} {x : ℕ × Listener × Reply}

/-- The handles of a connection, if there is one. -/
def handlesOf (connection : Option ℕ) : Handles := connection.elim .cleared .of

/-- The parts of a round of a retry loop. -/
theorem ends_retryRound {r : (ℕ × Listener × Reply) ⊕ (Listener × Reply)}
    (h : (retryRound cloud handle x).Ends s t r s') : ∃ t₁ connection s₁ t₂ z s₂ t₃ c,
      (connectWithRetry cloud).Ends s t₁ connection s₁ ∧
      (retryBranch cloud handle x connection).Ends s₁ t₂ z s₂ ∧
      (cleanupSockets (handlesOf connection)).Ends s₂ t₃ c s' ∧
      t = t₁ ++ (t₂ ++ t₃) ∧ ∀ x', r = .inl x' → x' = z ∧ 0 < z.1 := by
  obtain ⟨t₁, connection, s₁, t₂, hconnect, hrest, rfl⟩ := ends_bind.1 h
  obtain ⟨t₃, z, s₂, t₄, hbranch, hclosing, rfl⟩ := ends_bind.1 hrest
  obtain ⟨t₅, c, s₃, t₆, hclean, hpure, rfl⟩ := ends_bind.1 hclosing
  obtain ⟨rfl, rfl, rfl⟩ := ends_pure.1 hpure
  refine ⟨t₁, connection, s₁, t₃, z, s₂, t₅, c, hconnect, hbranch, hclean, ?_, fun x' hx' => ?_⟩
  · rw [List.append_nil]
  · split at hx'
    · rename_i hpos
      exact ⟨(Sum.inl.inj hx').symm, hpos⟩
    · cases hx'

/-- With a connection, `connect_retry` stays as it is if the response times out. -/
theorem ends_retryBranch_some {k : ℕ} {z : ℕ × Listener × Reply}
    (h : (retryBranch cloud handle x (some k)).Ends s t z s') :
    (receive cloud .search k handle { x.2.1 with timeoutCounter := 0, position := 0 } x.2.2).Ends
      s t z.2 s' ∧ z.1 = if eliotReceiveMaxRetries ≤ z.2.1.timeoutCounter then x.1 else 0 := by
  obtain ⟨t₁, y, s₁, t₂, hreceive, hpure, rfl⟩ := ends_bind.1 h
  obtain ⟨rfl, rfl, rfl⟩ := ends_pure.1 hpure
  rw [List.append_nil]
  exact ⟨hreceive, rfl⟩

/-- Without a connection, `connect_retry` is decremented. -/
theorem ends_retryBranch_none {z : ℕ × Listener × Reply}
    (h : (retryBranch cloud handle x none).Ends s t z s') :
    t = [.unconnected] ∧ s' = s ∧ z.1 = x.1 - 1 := by
  obtain ⟨t₁, u, s₁, t₂, hmark, hpure, rfl⟩ := ends_bind.1 h
  obtain ⟨rfl, rfl⟩ := ends_mark.1 hmark
  obtain ⟨rfl, rfl, rfl⟩ := ends_pure.1 hpure
  exact ⟨rfl, rfl, rfl⟩

end Retry

end Rest

end Eliot

end Lcm
