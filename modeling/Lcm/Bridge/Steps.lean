import Lcm.Bridge.Books

/-!
# What a step does to a handler

A step of the bridge is about one handler, whose thread it is or whose connection is accepted.  Any
other handler keeps its data, though its connection may be closed and its thread may end.  A handler
stays where it is in the maps, unless it is dropped, or moved from `lcmHandlers` or `appHandlers` to
`bridgeMap`.

## Main definitions

* `Handler.Passes` : how a handler changes that a step is not about.
* `Drops`, `Moves` : a handler leaves its place.
* `Shrinks` : the numbers stay the same, and no handler comes to the maps but from an accept loop.

## Main results

* `passes_step` : a handler changes by its own thread only.
* `at_step` : it stays where it is, or is dropped, or is moved.
* `shrinks_step` : only an accept loop adds a handler.
-/

namespace Lcm

namespace Bridge

open Function (update update_self update_of_ne)

/-! ### The data of a handler -/

/-- The handler keeps its data.  It may lose its connection, and its thread may end. -/
structure Handler.Passes (h g : Handler) : Prop where
  kind : g.kind = h.kind
  handlerId : g.handlerId = h.handlerId
  deviceId : g.deviceId = h.deviceId
  lcmDeviceIdFromDB : g.lcmDeviceIdFromDB = h.lcmDeviceIdFromDB
  phase : g.isConnected = true → g.phase = h.phase
  socketOpen : g.socketOpen = true → h.socketOpen = true

namespace Handler

theorem isConnected_iff (h : Handler) : h.isConnected = true ↔ h.phase ≠ .ended := by
  simp [isConnected]

theorem up_iff (h : Handler) : h.up = true ↔ h.socketOpen = true ∧ h.phase ≠ .ended := by
  simp [up, isConnected]

namespace Passes

variable {h g k : Handler}

theorem refl (h : Handler) : h.Passes h := ⟨rfl, rfl, rfl, rfl, fun _ => rfl, id⟩

theorem isConnected (hg : h.Passes g) (hc : g.isConnected = true) : h.isConnected = true := by
  rw [isConnected_iff] at hc ⊢
  rwa [← hg.phase ((isConnected_iff g).2 hc)]

theorem up (hg : h.Passes g) (hup : g.up = true) : h.up = true := by
  rw [Handler.up, Bool.and_eq_true] at hup ⊢
  exact ⟨hg.socketOpen hup.1, hg.isConnected hup.2⟩

theorem key (hg : h.Passes g) : g.key = h.key := by
  rw [Handler.key, hg.handlerId]
  rfl

theorem trans (hg : h.Passes g) (hk : g.Passes k) : h.Passes k where
  kind := hk.kind.trans hg.kind
  handlerId := hk.handlerId.trans hg.handlerId
  deviceId := hk.deviceId.trans hg.deviceId
  lcmDeviceIdFromDB := hk.lcmDeviceIdFromDB.trans hg.lcmDeviceIdFromDB
  phase hc := (hk.phase hc).trans (hg.phase (hk.isConnected hc))
  socketOpen ho := hg.socketOpen (hk.socketOpen ho)

theorem stopReceiving (h : Handler) : h.Passes h.stopReceiving :=
  ⟨rfl, rfl, rfl, rfl, fun _ => rfl, nofun⟩

theorem free (h : Handler) : h.Passes h.free := ⟨rfl, rfl, rfl, rfl, nofun, nofun⟩

theorem exit (h : Handler) : h.Passes { h with phase := .ended } :=
  ⟨rfl, rfl, rfl, rfl, nofun, id⟩

end Passes

end Handler

section

variable {s s' : State}

/-- All handlers keep their data. -/
def State.Passes (s s' : State) : Prop := ∀ c, (s.handler c).Passes (s'.handler c)

theorem State.Passes.trans {s'' : State} (h : s.Passes s') (h' : s'.Passes s'') : s.Passes s'' :=
  fun c => (h c).trans (h' c)

theorem State.passes_of_handler_eq (h : s'.handler = s.handler) : s.Passes s' := fun c => by
  rw [h]
  exact .refl _

theorem State.passes_setHandler {c : ℕ} {g : Handler} (hg : (s.handler c).Passes g) :
    s.Passes (s.setHandler c g) := by
  intro x
  by_cases hx : x = c
  · subst hx
    simpa [setHandler] using hg
  · simpa [setHandler, hx] using .refl _

theorem State.passes_release (s : State) (cs : List ℕ) : s.Passes (s.release cs) := by
  intro x
  rw [handler_release]
  split
  · exact .free _
  · exact .refl _

@[simp] theorem State.handler_recordStatus (d : DeviceId) (status : Option Bool) (ok : Bool) :
    (s.recordStatus d status ok).handler = s.handler := by rw [recordStatus_eq]

@[simp] theorem State.handler_setEntry (d : DeviceId) (v : Option Entry) :
    (s.setEntry d v).handler = s.handler := rfl

@[simp] theorem State.handler_setPending (k : Kind) (key : Key) (v : Option ℕ) :
    (s.setPending k key v).handler = s.handler := rfl

theorem State.passes_insert (s : State) (k : Kind) (c : ℕ) : s.Passes (s.insert k c) :=
  s.passes_release _

theorem State.passes_updateLCM (s : State) (c : ℕ) (ok : Bool) : s.Passes (s.updateLCM c ok) := by
  unfold updateLCM
  dsimp only
  split
  · exact passes_of_handler_eq rfl
  · split_ifs
    · exact passes_setHandler (.stopReceiving _)
    · refine Passes.trans (s.passes_release (s.entryHandlers (s.handler c).deviceId))
        (passes_of_handler_eq ?_)
      rw [handler_recordStatus]
      rfl

theorem State.passes_attach (s : State) (c : ℕ) :
    (s.setHandler c (s.handler c).proceed).Passes (s.attach c) := by
  unfold attach
  dsimp only
  split
  · exact passes_of_handler_eq rfl
  · split_ifs
    · exact passes_setHandler (.stopReceiving _)
    · split
      · exact passes_setHandler (.stopReceiving _)
      · exact passes_of_handler_eq rfl

theorem State.passes_cleanPending (s : State) (k : Kind) (key : Key) (c : ℕ) :
    s.Passes (s.cleanPending k key c) := by
  unfold cleanPending
  split
  · exact passes_of_handler_eq rfl
  · exact s.passes_release [c]

theorem State.passes_cleanBridge (s : State) (d : DeviceId) (entry : Entry) (ok : Bool) :
    s.Passes (s.cleanBridge d entry ok) := by
  unfold cleanBridge
  dsimp only
  split
  · exact s.passes_release _
  · refine (s.passes_release entry.handlers).trans (passes_of_handler_eq ?_)
    rw [handler_recordStatus]
    rfl

theorem State.handler_updateRegistration (s : State) (appId lcmId : DeviceId)
    (okDevice okApp : Bool) :
    (s.updateRegistration appId lcmId okDevice okApp).handler = s.handler := by
  unfold updateRegistration
  dsimp only
  split <;> simp

/-- What a thread does before `update` is called for it. -/
theorem State.passes_identify (s : State) (c : ℕ) (d : DeviceId) (ok : Bool) {x : ℕ}
    (hx : x ≠ c) : (s.handler x).Passes ((s.identify c d ok).handler x) := by
  have hset : (s.setHandler c ((s.handler c).identified d)).handler x =
      s.handler x := by simp [setHandler, hx]
  unfold identify
  dsimp only
  split
  · split
    · exact hset ▸ passes_updateLCM _ c ok x
    · simpa [lookUp, setHandler, hx] using .refl _
  · rw [hset]
    exact .refl _

/-- **A handler changes by its own thread only**; to others it can lose its connection. -/
theorem passes_step {e : Event} (hstep : step s e = some s') {x : ℕ} (hx : x < s.accepted)
    (hid : ∀ d ok, e ≠ .identify x d ok) (hattach : e ≠ .attach x) :
    (s.handler x).Passes (s'.handler x) := by
  cases e with
  | accept k =>
    obtain ⟨-, rfl⟩ := step_accept.1 hstep
    simpa [State.accept, Nat.ne_of_lt hx] using .refl _
  | subscribe k =>
    obtain ⟨c, -, -, rfl⟩ := step_subscribe.1 hstep
    have hg : (s.handler c).Passes { s.handler c with subscribed := true } :=
      ⟨rfl, rfl, rfl, rfl, fun _ => rfl, id⟩
    exact State.passes_setHandler hg x
  | insert k =>
    obtain ⟨c, -, -, rfl⟩ := step_insert.1 hstep
    exact s.passes_insert k c x
  | identify c d ok =>
    obtain ⟨-, rfl⟩ := step_identify.1 hstep
    exact s.passes_identify c d ok fun heq => hid d ok (heq ▸ rfl)
  | attach c =>
    obtain ⟨-, rfl⟩ := step_attach.1 hstep
    have hne : x ≠ c := fun heq => hattach (heq ▸ rfl)
    simpa [State.setHandler, hne] using s.passes_attach c x
  | exit c =>
    obtain ⟨-, rfl⟩ := step_exit.1 hstep
    exact State.passes_setHandler (.exit _) x
  | register appId lcmId okDevice okApp =>
    obtain rfl := step_register.1 hstep
    exact State.passes_of_handler_eq (s.handler_updateRegistration _ _ _ _) x
  | cleanPending k key =>
    obtain ⟨c, -, rfl⟩ := step_cleanPending.1 hstep
    exact s.passes_cleanPending k key c x
  | cleanBridge d ok =>
    obtain ⟨entry, -, rfl⟩ := step_cleanBridge.1 hstep
    exact s.passes_cleanBridge d entry ok x

/-! ### The places of a handler -/

/-- The handler is dropped by the step, if it is in a place. -/
def Drops (s : State) (x : ℕ) : Event → Prop
  | .insert k => ∃ c, s.accepting k = some c ∧ s.pending k (s.handler c).key = some x
  | .identify c d _ => (s.handler c).kind = .lcm ∧ x ∈ s.entryHandlers d
  | .cleanPending _ _ => (s.handler x).isConnected = false
  | .cleanBridge d _ => (s.handler x).isConnected = false ∨
      x ∈ s.entryHandlers d ∧
        ∃ entry, s.bridgeMap d = some entry ∧ (s.handler entry.lcmSocket).isConnected = false
  | _ => False

/-- The step moves the handler in the place. -/
def Moves (s : State) (p : Place) : Event → Prop
  | .identify c _ _ => (s.handler c).kind = .lcm ∧ p = .pending .lcm (s.handler c).key
  | .attach c => p = .pending .app (s.handler c).key
  | _ => False

theorem State.at_setHandler (s : State) (c : ℕ) (g : Handler) (x : ℕ) (p : Place) :
    (s.setHandler c g).At x p ↔ s.At x p := by
  cases p <;> rfl

theorem State.at_recordStatus (s : State) (d : DeviceId) (status : Option Bool) (ok : Bool) (x : ℕ)
    (p : Place) : (s.recordStatus d status ok).At x p ↔ s.At x p := by
  rw [recordStatus_eq]
  cases p <;> rfl

theorem State.phase_release {cs : List ℕ} {x : ℕ} (hx : x ∈ cs) :
    ((s.release cs).handler x).phase = .ended := by
  rw [handler_release, if_pos hx]
  rfl

theorem State.at_insert (k : Kind) (c : ℕ) {x : ℕ} {p : Place} (hat : s.At x p) :
    (s.insert k c).At x p ∨
      s.pending k (s.handler c).key = some x ∧ ((s.insert k c).handler x).phase = .ended := by
  by_cases hp : p = .pending k (s.handler c).key
  · subst hp
    have hx : s.pending k (s.handler c).key = some x := hat
    refine .inr ⟨hx, phase_release ?_⟩
    simp [hx]
  · have hset : (s.setPending k (s.handler c).key (some c)).At x p := by
      rwa [at_setPending, if_neg hp]
    refine .inl ?_
    cases p <;> exact hset

theorem State.at_updateLCM (c : ℕ) (ok : Bool) {x : ℕ} {p : Place} (hat : s.At x p) :
    (s.updateLCM c ok).At x p ∨
      x ∈ s.entryHandlers (s.handler c).deviceId ∧
        ((s.updateLCM c ok).handler x).phase = .ended ∨
      p = .pending .lcm (s.handler c).key ∧ (s.updateLCM c ok).Held x := by
  unfold updateLCM
  dsimp only
  split
  · exact .inl hat
  · rename_i y hy
    split_ifs with hd
    · exact .inl ((at_setHandler ..).2 hat)
    · by_cases hmem : x ∈ s.entryHandlers (s.handler c).deviceId
      · refine .inr (.inl ⟨hmem, ?_⟩)
        rw [handler_recordStatus]
        exact phase_release (s := s.setPending .lcm (s.handler c).key none) hmem
      rw [mem_entryHandlers, not_or] at hmem
      simp only [Held, at_recordStatus, at_setEntry, at_release, at_setPending]
      by_cases hp : p = .pending .lcm (s.handler c).key
      · subst hp
        obtain rfl : y = x := Option.some.inj (hy.symm.trans hat)
        exact .inr (.inr ⟨rfl, .lcm (s.handler c).deviceId, by simp⟩)
      · refine .inl ?_
        have hlcm : p ≠ .lcm (s.handler c).deviceId := fun heq => hmem.1 (heq ▸ hat)
        have happ : p ≠ .app (s.handler c).deviceId := fun heq => hmem.2 (heq ▸ hat)
        rwa [if_neg hlcm, if_neg happ, if_neg hp]

theorem State.at_attach (c : ℕ) {x : ℕ} {p : Place} (hat : s.At x p) :
    (s.attach c).At x p ∨ p = .pending .app (s.handler c).key ∧ (s.attach c).Held x := by
  unfold attach
  dsimp only
  have hat' : (s.setHandler c (s.handler c).proceed).At x p := (at_setHandler ..).2 hat
  split
  · exact .inl hat'
  · rename_i y hy
    have hy : s.pending .app (s.handler c).key = some y := hy
    split_ifs with hd
    · exact .inl ((at_setHandler ..).2 hat')
    · split
      · exact .inl ((at_setHandler ..).2 hat')
      · rename_i entry hentry
        have hentry : s.bridgeMap (s.handler c).lcmDeviceIdFromDB = some entry := hentry
        simp only [Held, at_setEntry, at_setPending, at_setHandler]
        by_cases hp : p = .pending .app (s.handler c).key
        · subst hp
          obtain rfl : y = x := Option.some.inj (hy.symm.trans hat)
          exact .inr ⟨rfl, .app (s.handler c).lcmDeviceIdFromDB, by simp⟩
        · refine .inl ?_
          split_ifs with hlcm happ
          · subst hlcm
            simpa [At, hentry] using hat
          · subst happ
            obtain ⟨entry', hentry', hmem⟩ := hat
            obtain rfl : entry = entry' := Option.some.inj (hentry.symm.trans hentry')
            exact ⟨_, rfl, List.mem_append_left _ hmem⟩
          · exact hat

theorem State.at_identify (c : ℕ) (d : DeviceId) (ok : Bool) {x : ℕ} {p : Place}
    (hat : s.At x p) :
    (s.identify c d ok).At x p ∨
      (s.handler c).kind = .lcm ∧ x ∈ s.entryHandlers d ∧
        ((s.identify c d ok).handler x).phase = .ended ∨
      (s.handler c).kind = .lcm ∧ p = .pending .lcm (s.handler c).key ∧
        (s.identify c d ok).Held x := by
  have hat' : (s.setHandler c ((s.handler c).identified d)).At x p :=
    (at_setHandler ..).2 hat
  unfold identify
  dsimp only
  split
  · split
    · rename_i hkind
      have hself : (s.setHandler c ((s.handler c).identified d)).handler c =
          ((s.handler c).identified d) := update_self _ _ _
      have h := at_updateLCM c ok hat'
      rw [hself] at h
      exact h.imp_right (Or.imp (And.intro hkind) (And.intro hkind))
    · exact .inl ((at_setHandler ..).2 hat')
  · exact .inl hat'

theorem State.at_cleanPending {k : Kind} {key : Key} {c x : ℕ} {p : Place} (hat : s.At x p)
    (hc : s.pending k key = some c) :
    (s.cleanPending k key c).At x p ∨
      (s.handler x).isConnected = false ∧ ((s.cleanPending k key c).handler x).phase = .ended := by
  unfold cleanPending
  split
  · exact .inl hat
  · rename_i hconn
    rw [at_setPending, at_release]
    by_cases hp : p = .pending k key
    · subst hp
      obtain rfl : c = x := Option.some.inj (hc.symm.trans hat)
      exact .inr ⟨Bool.eq_false_iff.2 hconn, phase_release (List.mem_singleton_self c)⟩
    · exact .inl (by rwa [if_neg hp])

theorem State.at_cleanBridge {d : DeviceId} {entry : Entry} (ok : Bool) {x : ℕ} {p : Place}
    (hat : s.At x p) (hentry : s.bridgeMap d = some entry) :
    (s.cleanBridge d entry ok).At x p ∨
      ((s.handler x).isConnected = false ∨
        x ∈ s.entryHandlers d ∧ (s.handler entry.lcmSocket).isConnected = false) ∧
        ((s.cleanBridge d entry ok).handler x).phase = .ended := by
  unfold cleanBridge
  dsimp only
  split
  · rw [at_setEntry, at_release]
    by_cases happ : p = .app d
    · subst happ
      obtain ⟨entry', hentry', hmem⟩ := hat
      obtain rfl : entry = entry' := Option.some.inj (hentry.symm.trans hentry')
      cases hconn : (s.handler x).isConnected with
      | true => exact .inl (by simp [hmem, hconn])
      | false => exact .inr ⟨.inl rfl, phase_release (by simp [hmem, hconn])⟩
    · refine .inl ?_
      split_ifs with hlcm
      · subst hlcm
        simpa [At, hentry] using hat
      · exact hat
  · rename_i hconn
    have hhandlers : s.entryHandlers d = entry.handlers := by simp [entryHandlers, hentry]
    rw [at_recordStatus, at_setEntry, at_release]
    by_cases hmem : x ∈ s.entryHandlers d
    · refine .inr ⟨.inr ⟨hmem, Bool.eq_false_iff.2 hconn⟩, ?_⟩
      rw [handler_recordStatus]
      exact phase_release (hhandlers ▸ hmem)
    · rw [mem_entryHandlers, not_or] at hmem
      refine .inl ?_
      have hlcm : p ≠ .lcm d := fun heq => hmem.1 (heq ▸ hat)
      have happ : p ≠ .app d := fun heq => hmem.2 (heq ▸ hat)
      rwa [if_neg hlcm, if_neg happ]

/-- **A handler stays where it is**, or it is dropped and its thread has ended, or it is moved. -/
theorem at_step {e : Event} (hstep : step s e = some s') {x : ℕ} {p : Place} (hat : s.At x p) :
    s'.At x p ∨ Drops s x e ∧ (s'.handler x).phase = .ended ∨ Moves s p e ∧ s'.Held x := by
  cases e with
  | accept k =>
    obtain ⟨-, rfl⟩ := step_accept.1 hstep
    refine .inl ?_
    cases p <;> exact hat
  | subscribe k =>
    obtain ⟨c, -, -, rfl⟩ := step_subscribe.1 hstep
    exact .inl ((s.at_setHandler ..).2 hat)
  | insert k =>
    obtain ⟨c, hc, -, rfl⟩ := step_insert.1 hstep
    rcases State.at_insert k c hat with h | ⟨hx, hended⟩
    · exact .inl h
    · exact .inr (.inl ⟨⟨c, hc, hx⟩, hended⟩)
  | identify c d ok =>
    obtain ⟨-, rfl⟩ := step_identify.1 hstep
    rcases State.at_identify c d ok hat with
      h | ⟨hkind, hx, hended⟩ | ⟨hkind, hp, hheld⟩
    · exact .inl h
    · exact .inr (.inl ⟨⟨hkind, hx⟩, hended⟩)
    · exact .inr (.inr ⟨⟨hkind, hp⟩, hheld⟩)
  | attach c =>
    obtain ⟨-, rfl⟩ := step_attach.1 hstep
    exact (State.at_attach c hat).imp_right .inr
  | exit c =>
    obtain ⟨-, rfl⟩ := step_exit.1 hstep
    exact .inl ((s.at_setHandler ..).2 hat)
  | register appId lcmId okDevice okApp =>
    obtain rfl := step_register.1 hstep
    refine .inl ?_
    have hat' := (s.at_recordStatus lcmId (some ((s.devices lcmId).getD false)) okDevice x p).2 hat
    unfold State.updateRegistration
    dsimp only
    split
    · cases p <;> exact hat'
    · exact hat'
  | cleanPending k key =>
    obtain ⟨c, hc, rfl⟩ := step_cleanPending.1 hstep
    exact (State.at_cleanPending hat hc).imp_right .inl
  | cleanBridge d ok =>
    obtain ⟨entry, hentry, rfl⟩ := step_cleanBridge.1 hstep
    rcases State.at_cleanBridge ok hat hentry with h | ⟨hconn | ⟨hx, hlcm⟩, hended⟩
    · exact .inl h
    · exact .inr (.inl ⟨.inl hconn, hended⟩)
    · exact .inr (.inl ⟨.inr ⟨hx, entry, hentry, hlcm⟩, hended⟩)

/-! ### What is left of the maps -/

/-- What a step leaves as it is in any handler, and what it takes of the maps. -/
structure Shrinks (s s' : State) : Prop where
  accepted : s'.accepted = s.accepted
  kind : ∀ c, (s'.handler c).kind = (s.handler c).kind
  key : ∀ c, (s'.handler c).key = (s.handler c).key
  isConnected : ∀ c, (s'.handler c).isConnected = true → (s.handler c).isConnected = true
  pending : ∀ k key c, s'.pending k key = some c → s.pending k key = some c ∨
    s.accepting k = some c ∧ (s.handler c).key = key
  accepting : ∀ k c, s'.accepting k = some c → s.accepting k = some c

theorem Shrinks.of_passes (h : s.Passes s') (haccepted : s'.accepted = s.accepted)
    (hpending : ∀ k key c, s'.pending k key = some c → s.pending k key = some c)
    (haccepting : s'.accepting = s.accepting) : Shrinks s s' where
  accepted := haccepted
  kind c := (h c).kind
  key c := (h c).key
  isConnected c := (h c).isConnected
  pending k key c hc := .inl (hpending k key c hc)
  accepting _ _ hc := haccepting ▸ hc

theorem Shrinks.refl (s : State) : Shrinks s s :=
  ⟨rfl, fun _ => rfl, fun _ => rfl, fun _ => id, fun _ _ _ => .inl, fun _ _ => id⟩

theorem Shrinks.trans {s'' : State} (h : Shrinks s s') (h' : Shrinks s' s'') : Shrinks s s'' where
  accepted := h'.accepted.trans h.accepted
  kind c := (h'.kind c).trans (h.kind c)
  key c := (h'.key c).trans (h.key c)
  isConnected c hc := h.isConnected c (h'.isConnected c hc)
  pending k key c hc := by
    rcases h'.pending k key c hc with hc | ⟨hc, hkey⟩
    · exact h.pending k key c hc
    · exact .inr ⟨h.accepting k c hc, (h.key c).symm.trans hkey⟩
  accepting k c hc := h.accepting k c (h'.accepting k c hc)

/-- A thread that is running changes its handler. -/
theorem shrinks_setHandler {c : ℕ} {g : Handler} (hkind : g.kind = (s.handler c).kind)
    (hid : g.handlerId = (s.handler c).handlerId) (hc : (s.handler c).isConnected = true) :
    Shrinks s (s.setHandler c g) := by
  have hother {x : ℕ} (hx : x ≠ c) : (s.setHandler c g).handler x = s.handler x := by
    simp [State.setHandler, hx]
  have hself : (s.setHandler c g).handler c = g := update_self _ _ _
  refine ⟨rfl, fun x => ?_, fun x => ?_, fun x hx => ?_, fun _ _ _ => .inl, fun _ _ => id⟩
  · by_cases hx : x = c
    · rw [hx, hself, hkind]
    · rw [hother hx]
  · by_cases hx : x = c
    · rw [hx, hself, Handler.key, hid]
      rfl
    · rw [hother hx]
  · by_cases hxc : x = c
    · rw [hxc, hc]
    · rwa [hother hxc] at hx

theorem pending_of_setPending_none {k k' : Kind} {key key' : Key} {c : ℕ}
    (h : (s.setPending k key none).pending k' key' = some c) : s.pending k' key' = some c := by
  have hat := (s.at_setPending k key none c (.pending k' key')).1 h
  split at hat
  · cases hat
  · exact hat

theorem shrinks_updateLCM (s : State) (c : ℕ) (ok : Bool) : Shrinks s (s.updateLCM c ok) := by
  refine .of_passes (s.passes_updateLCM c ok) ?_ (fun k key x hx => ?_) ?_
  all_goals unfold State.updateLCM at *; dsimp only at *
  · split
    · rfl
    · split_ifs
      · rfl
      · rw [State.recordStatus_eq]
        rfl
  · split at hx
    · exact hx
    · split_ifs at hx
      · exact hx
      · rw [State.recordStatus_eq] at hx
        exact pending_of_setPending_none hx
  · split
    · rfl
    · split_ifs
      · rfl
      · rw [State.recordStatus_eq]
        rfl

theorem shrinks_attach {c : ℕ} (hc : (s.handler c).isConnected = true) :
    Shrinks s (s.attach c) := by
  refine (shrinks_setHandler (g := (s.handler c).proceed) rfl rfl hc).trans
    (.of_passes (s.passes_attach c) ?_ (fun k key x hx => ?_) ?_)
  all_goals unfold State.attach at *; dsimp only at *
  · split
    · rfl
    · split_ifs
      · rfl
      · split <;> rfl
  · split at hx
    · exact hx
    · split_ifs at hx
      · exact hx
      · split at hx
        · exact hx
        · exact pending_of_setPending_none hx
  · split
    · rfl
    · split_ifs
      · rfl
      · split <;> rfl

theorem shrinks_insert {k : Kind} {c : ℕ} (hc : s.accepting k = some c) :
    Shrinks s (s.insert k c) := by
  refine ⟨rfl, fun x => (s.passes_insert k c x).kind, fun x => (s.passes_insert k c x).key,
    fun x => (s.passes_insert k c x).isConnected, fun k' key x hx => ?_, fun k' x hx => ?_⟩
  · have hat : (s.setPending k (s.handler c).key (some c)).At x (.pending k' key) := hx
    rw [State.at_setPending] at hat
    split at hat
    · rename_i heq
      cases heq
      cases hat
      exact .inr ⟨hc, rfl⟩
    · exact .inl hat
  · by_cases hk : k' = k
    · subst hk
      simp [State.insert] at hx
    · simpa [State.insert, hk] using hx

theorem shrinks_identify {c : ℕ} (hc : (s.handler c).isConnected = true) (d : DeviceId)
    (ok : Bool) : Shrinks s (s.identify c d ok) := by
  have hset := shrinks_setHandler (g := ((s.handler c).identified d)) rfl rfl hc
  unfold State.identify
  dsimp only
  split
  · split
    · exact hset.trans (shrinks_updateLCM _ c ok)
    · have hlook := shrinks_setHandler (g := { ((s.handler c).identified d) with
        lcmDeviceIdFromDB := if s.db && ok then (s.apps d).getD 0 else 0, phase := .lookedUp })
        rfl rfl hc
      have heq : (s.setHandler c ((s.handler c).identified d)).lookUp c ok =
          s.setHandler c { ((s.handler c).identified d) with
            lcmDeviceIdFromDB := if s.db && ok then (s.apps d).getD 0 else 0
            phase := .lookedUp } := by
        simp [State.lookUp, State.setHandler]
      exact heq ▸ hlook
  · exact hset

theorem shrinks_updateRegistration (s : State) (appId lcmId : DeviceId) (okDevice okApp : Bool) :
    Shrinks s (s.updateRegistration appId lcmId okDevice okApp) := by
  refine .of_passes
    (State.passes_of_handler_eq (s.handler_updateRegistration appId lcmId okDevice okApp)) ?_
    (fun k key x hx => ?_) ?_
  all_goals unfold State.updateRegistration at *; rw [State.recordStatus_eq] at *; dsimp only at *
  · split <;> rfl
  · split at hx <;> exact hx
  · split <;> rfl

theorem shrinks_cleanPending (s : State) (k : Kind) (key : Key) (c : ℕ) :
    Shrinks s (s.cleanPending k key c) := by
  refine .of_passes (s.passes_cleanPending k key c) ?_ (fun k' key' x hx => ?_) ?_
  all_goals unfold State.cleanPending at *
  · split <;> rfl
  · split at hx
    · exact hx
    · exact pending_of_setPending_none hx
  · split <;> rfl

theorem shrinks_cleanBridge (s : State) (d : DeviceId) (entry : Entry) (ok : Bool) :
    Shrinks s (s.cleanBridge d entry ok) := by
  refine .of_passes (s.passes_cleanBridge d entry ok) ?_ (fun k key x hx => ?_) ?_
  all_goals unfold State.cleanBridge at *; dsimp only at *; rw [State.recordStatus_eq] at *
  · split <;> rfl
  · split at hx <;> exact hx
  · split <;> rfl

/-- Only an accept loop adds to the handlers that are around. -/
theorem shrinks_step (hstep : step s e = some s') (he : ∀ k, e ≠ .accept k) : Shrinks s s' := by
  cases e with
  | accept k => exact absurd rfl (he k)
  | subscribe k =>
    obtain ⟨c, -, -, rfl⟩ := step_subscribe.1 hstep
    have hg : (s.handler c).Passes { s.handler c with subscribed := true } :=
      ⟨rfl, rfl, rfl, rfl, fun _ => rfl, id⟩
    exact .of_passes (State.passes_setHandler hg) rfl (fun _ _ _ => id) rfl
  | insert k =>
    obtain ⟨c, hc, -, rfl⟩ := step_insert.1 hstep
    exact shrinks_insert hc
  | identify c d ok =>
    obtain ⟨⟨-, hphase⟩, rfl⟩ := step_identify.1 hstep
    exact shrinks_identify (by simp [Handler.isConnected, hphase]) d ok
  | attach c =>
    obtain ⟨⟨-, hphase⟩, rfl⟩ := step_attach.1 hstep
    exact shrinks_attach (by simp [Handler.isConnected, hphase])
  | exit c =>
    obtain ⟨-, rfl⟩ := step_exit.1 hstep
    exact .of_passes (State.passes_setHandler (.exit _)) rfl (fun _ _ _ => id) rfl
  | register appId lcmId okDevice okApp =>
    obtain rfl := step_register.1 hstep
    exact shrinks_updateRegistration s appId lcmId okDevice okApp
  | cleanPending k key =>
    obtain ⟨c, -, rfl⟩ := step_cleanPending.1 hstep
    exact shrinks_cleanPending s k key c
  | cleanBridge d ok =>
    obtain ⟨entry, -, rfl⟩ := step_cleanBridge.1 hstep
    exact shrinks_cleanBridge s d entry ok

theorem accepted_le_step (hstep : step s e = some s') : s.accepted ≤ s'.accepted := by
  cases e with
  | accept k =>
    obtain ⟨-, rfl⟩ := step_accept.1 hstep
    exact Nat.le_succ _
  | subscribe | insert | identify | attach | exit | register | cleanPending | cleanBridge =>
    exact Nat.le_of_eq (shrinks_step hstep (by simp)).accepted.symm

end

end Bridge

end Lcm
