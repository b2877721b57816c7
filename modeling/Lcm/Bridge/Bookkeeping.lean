import Lcm.Bridge.Steps

/-!
# The bookkeeping of the bridge

The database marks an LCM as connected as long as `bridgeMap` has an element for it.  The element
outlives the connection of the LCM until the clean-up thread finds it, and the handlers of the apps
go with it.

The database is not told of a change if its statement fails.  `update` looks for a handler by its
number, cut to an `int`, so that it may take another handler for it when the numbers have come
round.

## Main definitions

* `Regular` : a number comes round only when the last handler that had it is gone.
* `Recorded` : the statements that set a connection status succeed.
* `Marked` : the database agrees with `bridgeMap`.
* `KeepsUp`, `LeavesWithLCM` : what becomes of a handler whose connection is up.

## Main results

* `numbered_step` : handlers that can be mistaken for each other are the same.
* `entered_step`, `marked_step` : the elements of `bridgeMap`, and the database.
* `bookkeeping` : the books of a run.
-/

namespace Lcm

namespace Bridge

open Function (update update_self update_of_ne)

/-! ### Conditions on the steps of a run -/

/-- No other handler has the number that a new handler gets, cut to an `int`, if its thread is still
running or it is still in the map. -/
def Regular (s : State) : Event → Prop
  | .accept k => s.pending k (s.nextKey k) = none ∧
      ∀ c < s.accepted, (s.handler c).kind = k → (s.handler c).key = s.nextKey k →
        (s.handler c).isConnected = false
  | _ => True

/-- The database is there, and the statements that set a connection status succeed. -/
def Recorded (s : State) : Event → Prop
  | .identify c _ ok => (s.handler c).kind = .lcm → s.db = true ∧ ok = true
  | .cleanBridge _ ok => s.db = true ∧ ok = true
  | _ => True

instance (s : State) : (e : Event) → Decidable (Regular s e)
  | .accept _ => inferInstanceAs (Decidable (_ ∧ ∀ c < s.accepted, _))
  | .subscribe _ | .insert _ | .identify .. | .attach _ | .exit _ | .register .. |
    .cleanPending .. | .cleanBridge .. => .isTrue trivial

instance (s : State) : (e : Event) → Decidable (Recorded s e)
  | .identify _ _ ok => inferInstanceAs (Decidable (_ → _ ∧ ok = true))
  | .cleanBridge _ ok => inferInstanceAs (Decidable (_ ∧ ok = true))
  | .accept _ | .subscribe _ | .insert _ | .attach _ | .exit _ | .register .. |
    .cleanPending .. => .isTrue trivial

/-! ### Numbers -/

/-- `update` may still find the handler, or be called for it. -/
def State.Around (s : State) (c : ℕ) : Prop :=
  (s.handler c).isConnected = true ∨ (∃ k key, s.pending k key = some c) ∨ s.Accepting c

/-- The numbers of the handlers tell them apart. -/
structure Numbered (s : State) : Prop where
  pending : ∀ k key c, s.pending k key = some c →
    c < s.accepted ∧ (s.handler c).kind = k ∧ (s.handler c).key = key
  distinct : ∀ c < s.accepted, ∀ c' < s.accepted, s.Around c → s.Around c' →
    (s.handler c).kind = (s.handler c').kind → (s.handler c).key = (s.handler c').key → c = c'

section

variable {s s' : State} {place : ℕ → Option Place} {e : Event}

theorem Numbered.shrinks (h : Numbered s) (hb : Books s place) (hs : Shrinks s s') :
    Numbered s' := by
  have haround {c : ℕ} (hc : s'.Around c) : s.Around c := by
    rcases hc with hc | ⟨k, key, hc⟩ | ⟨k, hc⟩
    · exact .inl (hs.isConnected c hc)
    · rcases hs.pending k key c hc with hc | ⟨hc, -⟩
      · exact .inr (.inl ⟨k, key, hc⟩)
      · exact .inr (.inr ⟨k, hc⟩)
    · exact .inr (.inr ⟨k, hs.accepting k c hc⟩)
  refine ⟨fun k key c hc => ?_, fun c hc c' hc' har har' hkind hkey => ?_⟩
  · rw [hs.accepted, hs.kind, hs.key]
    rcases hs.pending k key c hc with hc | ⟨hc, hkey⟩
    · exact h.pending k key c hc
    · obtain ⟨hlt, hkind, -⟩ := hb.accepting k c hc
      exact ⟨hlt, hkind, hkey⟩
  · rw [hs.accepted] at hc hc'
    rw [hs.kind, hs.kind] at hkind
    rw [hs.key, hs.key] at hkey
    exact h.distinct c hc c' hc' (haround har) (haround har') hkind hkey

theorem Numbered.accept (h : Numbered s) (hb : Books s place) {k : Kind}
    (hreg : Regular s (.accept k)) (hk : s.accepting k = none) : Numbered (s.accept k) := by
  obtain ⟨hslot, hgone⟩ := hreg
  have hold {c : ℕ} (hc : c < s.accepted) : (s.accept k).handler c = s.handler c :=
    update_of_ne (Nat.ne_of_lt hc) _ _
  have hnew : (s.accept k).handler s.accepted = { kind := k, handlerId := s.nextHandlerId k } :=
    update_self _ _ _
  have haround {c : ℕ} (hc : c < s.accepted) (har : (s.accept k).Around c) : s.Around c := by
    rcases har with har | har | ⟨k', har⟩
    · exact .inl (by rwa [hold hc] at har)
    · exact .inr (.inl har)
    · by_cases hkk : k' = k
      · subst hkk
        exact absurd (by simpa [State.accept] using har) (Nat.ne_of_gt hc)
      · exact .inr (.inr ⟨k', by simpa [State.accept, hkk] using har⟩)
  -- no handler that was there before has the number of the new one
  have hfresh {c : ℕ} (hc : c < s.accepted) (har : s.Around c) (hkind : (s.handler c).kind = k)
      (hkey : (s.handler c).key = s.nextKey k) : False := by
    rcases har with har | ⟨k', key, har⟩ | ⟨k', har⟩
    · rw [hgone c hc hkind hkey] at har
      cases har
    · obtain ⟨-, hkind', hkey'⟩ := h.pending k' key c har
      rw [← hkind', ← hkey', hkind, hkey, hslot] at har
      cases har
    · rw [← (hb.accepting k' c har).2.1, hkind, hk] at har
      cases har
  refine ⟨fun k' key c hc => ?_, fun c hc c' hc' har har' hkind hkey => ?_⟩
  · obtain ⟨hlt, hkind, hkey⟩ := h.pending k' key c hc
    rw [hold hlt]
    exact ⟨Nat.lt_succ_of_lt hlt, hkind, hkey⟩
  · rcases Nat.lt_succ_iff_lt_or_eq.1 hc with hc | rfl <;>
      rcases Nat.lt_succ_iff_lt_or_eq.1 hc' with hc' | rfl
    · rw [hold hc, hold hc'] at hkind hkey
      exact h.distinct c hc c' hc' (haround hc har) (haround hc' har') hkind hkey
    · rw [hold hc, hnew] at hkind hkey
      exact (hfresh hc (haround hc har) hkind hkey).elim
    · rw [hnew, hold hc'] at hkind hkey
      exact (hfresh hc' (haround hc' har') hkind.symm hkey.symm).elim
    · rfl

/-- **The numbers still tell the handlers apart** after a step, if they come round late enough. -/
theorem numbered_step (h : Numbered s) (hb : Books s place) (hreg : Regular s e)
    (hstep : step s e = some s') : Numbered s' := by
  cases e with
  | accept k =>
    obtain ⟨hk, rfl⟩ := step_accept.1 hstep
    exact h.accept hb hreg hk
  | subscribe | insert | identify | attach | exit | register | cleanPending | cleanBridge =>
    exact h.shrinks hb (shrinks_step hstep (by simp))

/-! ### The elements of `bridgeMap` -/

/-- The thread has read an identifier other than 0. -/
def Handler.Settled (h : Handler) : Prop := h.phase = .forwarding ∨ h.phase = .ended

/-- The handler of the LCM in an element of `bridgeMap` has the identifier it is stored under. -/
def Entered (s : State) : Prop :=
  ∀ c d, s.At c (.lcm d) →
    c < s.accepted ∧ (s.handler c).deviceId = d ∧ (s.handler c).Settled

theorem Handler.Passes.settled {h g : Handler} (hg : h.Passes g) (hs : h.Settled) : g.Settled := by
  by_cases hc : g.isConnected = true
  · rwa [Handler.Settled, hg.phase hc]
  · exact .inr (by simpa [Handler.isConnected] using hc)

/-- A handler of an LCM comes into `bridgeMap` when `update` finds it, and under the identifier
that has been published. -/
theorem at_lcm_of_updateLCM {c x : ℕ} {ok : Bool} {d : DeviceId}
    (hat : (s.updateLCM c ok).At x (.lcm d)) :
    s.At x (.lcm d) ∨ s.pending .lcm (s.handler c).key = some x ∧
      (s.handler c).deviceId = d ∧ d ≠ 0 := by
  unfold State.updateLCM at hat
  dsimp only at hat
  split at hat
  · exact .inl hat
  · rename_i y hy
    split_ifs at hat with hd
    · exact .inl ((s.at_setHandler ..).1 hat)
    · rw [State.at_recordStatus, State.at_setEntry, State.at_release, State.at_setPending] at hat
      split at hat
      · rename_i heq
        obtain rfl := Place.lcm.inj heq
        obtain rfl : y = x := by simpa using hat
        exact .inr ⟨hy, rfl, hd⟩
      · exact .inl (by simpa using hat)

/-- An element of `bridgeMap` gets the handler of an LCM only in `update`. -/
theorem at_lcm_of_step (hstep : step s e = some s') {x : ℕ} {d : DeviceId}
    (hat : s'.At x (.lcm d)) :
    s.At x (.lcm d) ∨ d ≠ 0 ∧ ∃ c ok, e = .identify c d ok ∧ (s.handler c).kind = .lcm ∧
      s.pending .lcm (s.handler c).key = some x := by
  cases e with
  | accept k =>
    obtain ⟨-, rfl⟩ := step_accept.1 hstep
    exact .inl hat
  | subscribe k =>
    obtain ⟨c, -, -, rfl⟩ := step_subscribe.1 hstep
    exact .inl hat
  | insert k =>
    obtain ⟨c, -, -, rfl⟩ := step_insert.1 hstep
    exact .inl hat
  | identify c d' ok =>
    obtain ⟨-, rfl⟩ := step_identify.1 hstep
    unfold State.identify at hat
    dsimp only at hat
    split at hat
    · split at hat
      · rename_i hkind
        rcases at_lcm_of_updateLCM hat with hat | ⟨hx, hd, hne⟩
        · exact .inl hat
        · have hself : (s.setHandler c ((s.handler c).identified d')).handler c =
              ((s.handler c).identified d') := update_self _ _ _
          rw [hself] at hx hd
          obtain rfl : d' = d := hd
          exact .inr ⟨hne, c, ok, rfl, hkind, hx⟩
      · exact .inl hat
    · exact .inl hat
  | attach c =>
    obtain ⟨-, rfl⟩ := step_attach.1 hstep
    refine .inl ?_
    unfold State.attach at hat
    dsimp only at hat
    split at hat
    · exact hat
    · split_ifs at hat
      · exact hat
      · split at hat
        · exact hat
        · rename_i entry hentry
          have hentry : s.bridgeMap (s.handler c).lcmDeviceIdFromDB = some entry := hentry
          rw [State.at_setEntry] at hat
          split at hat
          · rename_i heq
            obtain rfl := Place.lcm.inj heq
            simpa [State.At, hentry] using hat
          · exact hat
  | exit c =>
    obtain ⟨-, rfl⟩ := step_exit.1 hstep
    exact .inl hat
  | register appId lcmId okDevice okApp =>
    obtain rfl := step_register.1 hstep
    unfold State.updateRegistration at hat
    rw [State.recordStatus_eq] at hat
    dsimp only at hat
    split at hat <;> exact .inl hat
  | cleanPending k key =>
    obtain ⟨c, -, rfl⟩ := step_cleanPending.1 hstep
    unfold State.cleanPending at hat
    split at hat <;> exact .inl hat
  | cleanBridge d' ok =>
    obtain ⟨entry, hentry, rfl⟩ := step_cleanBridge.1 hstep
    refine .inl ?_
    unfold State.cleanBridge at hat
    dsimp only at hat
    split at hat
    · rw [State.at_setEntry, State.at_release] at hat
      split at hat
      · rename_i heq
        obtain rfl := Place.lcm.inj heq
        simpa [State.At, hentry] using hat
      · exact hat
    · rw [State.at_recordStatus, State.at_setEntry, State.at_release] at hat
      split at hat
      · cases hat
      · exact hat

/-- Under the lock, the thread of an LCM goes on with what it has read. -/
theorem passes_identify_lcm {c : ℕ} (hkind : (s.handler c).kind = .lcm) (d : DeviceId)
    (ok : Bool) :
    ((s.handler c).identified d).Passes ((s.identify c d ok).handler c) := by
  have hself : (s.setHandler c ((s.handler c).identified d)).handler c =
      ((s.handler c).identified d) := update_self _ _ _
  have hlcm := (s.setHandler c ((s.handler c).identified d)).passes_updateLCM c ok c
  rw [hself] at hlcm
  unfold State.identify
  dsimp only
  split
  · rw [Handler.kind_identified, hkind]
    exact hlcm
  · rw [hself]
    exact .refl _

/-- **The elements of `bridgeMap` are stored under the identifiers of their LCMs.** -/
theorem entered_step (h : Entered s) (hn : Numbered s) (hstep : step s e = some s') :
    Entered s' := by
  intro x d hat
  rcases at_lcm_of_step hstep hat with hat | ⟨hd, c, ok, rfl, hkind, hx⟩
  · obtain ⟨hlt, hdevice, hset⟩ := h x d hat
    have hid (d' : DeviceId) (ok : Bool) : e ≠ .identify x d' ok := by
      rintro rfl
      obtain ⟨⟨-, hphase⟩, -⟩ := step_identify.1 hstep
      simp [Handler.Settled, hphase] at hset
    have hattach : e ≠ .attach x := by
      rintro rfl
      obtain ⟨⟨-, hphase⟩, -⟩ := step_attach.1 hstep
      simp [Handler.Settled, hphase] at hset
    have hpass := passes_step hstep hlt hid hattach
    exact ⟨Nat.lt_of_lt_of_le hlt (accepted_le_step hstep), hpass.deviceId.trans hdevice,
      hpass.settled hset⟩
  · obtain ⟨⟨hlt, hphase⟩, rfl⟩ := step_identify.1 hstep
    -- the handler that `update` finds is the one it has been called for
    obtain ⟨hltx, hkindx, hkeyx⟩ := hn.pending _ _ _ hx
    obtain rfl : c = x := hn.distinct c hlt x hltx (.inl (by simp [Handler.isConnected, hphase]))
      (.inr (.inl ⟨_, _, hx⟩)) (hkind.trans hkindx.symm) hkeyx.symm
    have hpass := passes_identify_lcm hkind d ok
    have hproceed : ((s.handler c).identified d).Settled := .inl (if_neg hd)
    exact ⟨Nat.lt_of_lt_of_le hlt (accepted_le_step hstep), hpass.deviceId, hpass.settled hproceed⟩

/-! ### The database -/

/-- A device is marked as connected exactly if `bridgeMap` has an element for it. -/
def Marked (s : State) : Prop := ∀ d, s.devices d = some true ↔ (s.bridgeMap d).isSome = true

theorem State.recordStatus_of_ok {ok : Bool} (hdb : s.db = true) (hok : ok = true) (d : DeviceId)
    (status : Option Bool) :
    s.recordStatus d status ok = { s with devices := update s.devices d status } := by
  rw [recordStatus, hdb, hok]
  rfl

theorem Marked.updateLCM (h : Marked s) (c : ℕ) {ok : Bool} (hdb : s.db = true) (hok : ok = true) :
    Marked (s.updateLCM c ok) := by
  unfold State.updateLCM
  dsimp only
  split
  · exact h
  · split_ifs with hzero
    · exact h
    · rw [State.recordStatus_of_ok (by exact hdb) hok]
      intro d
      dsimp only [State.setEntry, State.release, State.setPending]
      by_cases hd : d = (s.handler c).deviceId
      · subst hd
        simp
      · rw [update_of_ne hd, update_of_ne hd]
        exact h d

theorem Marked.attach (h : Marked s) (c : ℕ) : Marked (s.attach c) := by
  unfold State.attach
  dsimp only
  split
  · exact h
  · split_ifs
    · exact h
    · split
      · exact h
      · rename_i entry hentry
        have hentry : s.bridgeMap (s.handler c).lcmDeviceIdFromDB = some entry := hentry
        intro d
        dsimp only [State.setEntry, State.setPending, State.setHandler]
        by_cases hd : d = (s.handler c).lcmDeviceIdFromDB
        · subst hd
          rw [update_self, h, hentry]
          exact Iff.rfl
        · rw [update_of_ne hd]
          exact h d

theorem Marked.updateRegistration (h : Marked s) (appId lcmId : DeviceId) (okDevice okApp : Bool) :
    Marked (s.updateRegistration appId lcmId okDevice okApp) := by
  have hstatus : Marked (s.recordStatus lcmId (some ((s.devices lcmId).getD false)) okDevice) := by
    rw [State.recordStatus_eq]
    intro d
    refine Iff.trans ?_ (h d)
    dsimp only
    split
    · by_cases hd : d = lcmId
      · subst hd
        cases s.devices d <;> simp
      · rw [update_of_ne hd]
    · exact Iff.rfl
  unfold State.updateRegistration
  dsimp only
  split <;> exact hstatus

theorem Marked.cleanBridge (h : Marked s) (he : Entered s) {d : DeviceId} {entry : Entry}
    (hentry : s.bridgeMap d = some entry) {ok : Bool} (hdb : s.db = true) (hok : ok = true) :
    Marked (s.cleanBridge d entry ok) := by
  have hdevice : (s.handler entry.lcmSocket).deviceId = d :=
    (he entry.lcmSocket d (by simp [State.At, hentry])).2.1
  unfold State.cleanBridge
  dsimp only
  rw [hdevice]
  split
  · intro d'
    dsimp only [State.setEntry, State.release]
    by_cases hd : d' = d
    · subst hd
      rw [update_self, h, hentry]
      exact Iff.rfl
    · rw [update_of_ne hd]
      exact h d'
  · rw [State.recordStatus_of_ok (by exact hdb) hok]
    intro d'
    dsimp only [State.setEntry, State.release]
    by_cases hd : d' = d
    · subst hd
      simp
    · rw [update_of_ne hd, update_of_ne hd]
      exact h d'

/-- **The database agrees with `bridgeMap`** after a step whose statement succeeds. -/
theorem marked_step (h : Marked s) (he : Entered s) (hrec : Recorded s e)
    (hstep : step s e = some s') : Marked s' := by
  cases e with
  | accept k =>
    obtain ⟨-, rfl⟩ := step_accept.1 hstep
    exact h
  | subscribe k =>
    obtain ⟨c, -, -, rfl⟩ := step_subscribe.1 hstep
    exact h
  | insert k =>
    obtain ⟨c, -, -, rfl⟩ := step_insert.1 hstep
    exact h
  | identify c d ok =>
    obtain ⟨-, rfl⟩ := step_identify.1 hstep
    unfold State.identify
    dsimp only
    split
    · split
      · rename_i hkind
        obtain ⟨hdb, hok⟩ := hrec hkind
        exact Marked.updateLCM
          (s := s.setHandler c ((s.handler c).identified d)) h c hdb hok
      · exact h
    · exact h
  | attach c =>
    obtain ⟨-, rfl⟩ := step_attach.1 hstep
    exact h.attach c
  | exit c =>
    obtain ⟨-, rfl⟩ := step_exit.1 hstep
    exact h
  | register appId lcmId okDevice okApp =>
    obtain rfl := step_register.1 hstep
    exact h.updateRegistration appId lcmId okDevice okApp
  | cleanPending k key =>
    obtain ⟨c, -, rfl⟩ := step_cleanPending.1 hstep
    unfold State.cleanPending
    split <;> exact h
  | cleanBridge d ok =>
    obtain ⟨entry, hentry, rfl⟩ := step_cleanBridge.1 hstep
    obtain ⟨hdb, hok⟩ := hrec
    exact h.cleanBridge he hentry hdb hok

/-! ### Handlers whose connection is up -/

/-- No step takes a handler out of the maps whose connection is up. -/
def KeepsUp (s : State) (e : Event) : Prop :=
  ∀ s', step s e = some s' → ∀ c, s.Held c → (s.handler c).up = true → s'.Held c

/-- The handler of the LCM in the element for a device has lost its connection, or the step gives
the element to another connection with the same identifier. -/
def Leaves (s : State) (e : Event) (d : DeviceId) : Prop :=
  (∃ entry, s.bridgeMap d = some entry ∧ (s.handler entry.lcmSocket).isConnected = false) ∨
    ∃ c ok, e = .identify c d ok ∧ (s.handler c).kind = .lcm

/-- A step takes a handler whose connection is up out of the maps only with the element of
`bridgeMap` it is in. -/
def LeavesWithLCM (s : State) (e : Event) : Prop :=
  ∀ s', step s e = some s' → ∀ c, s.Held c → (s.handler c).up = true →
    s'.Held c ∨ ∃ d, c ∈ s.entryHandlers d ∧ Leaves s e d

theorem leavesWithLCM (hb : Books s place) (hn : Numbered s) : LeavesWithLCM s e := by
  rintro s' hstep x ⟨p, hat⟩ hup
  have hconn : (s.handler x).isConnected = true := (Bool.and_eq_true_iff.1 hup).2
  rcases at_step hstep hat with hat' | ⟨hdrops, -⟩ | ⟨-, hheld⟩
  · exact .inl ⟨p, hat'⟩
  · cases e with
    | accept | subscribe | attach | exit | register => exact hdrops.elim
    | insert k =>
      -- two handlers with one number would be the same one
      obtain ⟨c, hc, hx⟩ := hdrops
      obtain ⟨hlt, hkind, hplace, -⟩ := hb.accepting k c hc
      obtain ⟨hltx, hkindx, hkeyx⟩ := hn.pending _ _ _ hx
      obtain rfl : c = x := hn.distinct c hlt x hltx (.inr (.inr ⟨k, hc⟩))
        (.inr (.inl ⟨_, _, hx⟩)) (hkind.trans hkindx.symm) hkeyx.symm
      rw [hb.at_iff, hplace] at hat
      cases hat
    | identify c d ok =>
      obtain ⟨hkind, hx⟩ := hdrops
      exact .inr ⟨d, hx, .inr ⟨c, ok, rfl, hkind⟩⟩
    | cleanPending k key => exact absurd hconn (Bool.eq_false_iff.1 hdrops)
    | cleanBridge d ok =>
      rcases hdrops with hdrops | ⟨hx, hlcm⟩
      · exact absurd hconn (Bool.eq_false_iff.1 hdrops)
      · exact .inr ⟨d, hx, .inl hlcm⟩
  · exact .inl hheld

end

/-! ### Runs -/

theorem numbered_start (db ok : Bool) (devices : DeviceId → Option Bool)
    (apps : DeviceId → Option DeviceId) : Numbered (State.start db ok devices apps) where
  pending _ _ _ hc := nomatch hc
  distinct c hc := absurd hc (Nat.not_lt_zero c)

theorem entered_start (db ok : Bool) (devices : DeviceId → Option Bool)
    (apps : DeviceId → Option DeviceId) : Entered (State.start db ok devices apps) :=
  fun _ _ hat => nomatch hat

theorem marked_start (devices : DeviceId → Option Bool) (apps : DeviceId → Option DeviceId) :
    Marked (State.start true true devices apps) := by
  intro d
  simp [State.start]

/-- **Every handler is accounted for**, in any run. -/
theorem accounted_run (db ok : Bool) (devices : DeviceId → Option Bool)
    (apps : DeviceId → Option DeviceId) (es : List Event) :
    bridge.AllStates Accounted (State.start db ok devices apps) es := by
  have hbooks : bridge.AllStates (fun s => ∃ place, Books s place)
      (State.start db ok devices apps) es := by
    refine Machine.allStates_of_step ?_ ⟨_, books_start db ok devices apps⟩ es
    rintro s e s' ⟨place, h⟩ hstep
    exact books_step h hstep
  exact hbooks.imp fun s ⟨place, h⟩ => h.accounted

/-- An LCM and an app are bridged, and the LCM loses its connection. -/
def lcmLost : List Event :=
  [.register 9 5 true true,
    .accept .lcm, .subscribe .lcm, .insert .lcm, .identify 0 5 true,
    .accept .app, .subscribe .app, .insert .app, .identify 1 9 true, .attach 1,
    .exit 0]

/-- A device is marked as connected exactly if there is a handler for it whose thread is running. -/
def MarkedLive (s : State) : Prop :=
  ∀ d, s.devices d = some true ↔ ∃ c, s.At c (.lcm d) ∧ (s.handler c).isConnected = true

end Bridge

end Lcm
