import Lcm.Bridge.Relay

/-!
# Whom the bridge forwards to

A handler writes to the handles in its list.  They are the handles of connections that are bridged
to it as long as no such connection ends: nothing but a failed write takes a handle out of a list,
and the system may give it to the next connection.

The proof ties the lists to `bridgeMap`.  Two handlers in one element stay there together
(`State.partners_step`), the database maps the one to the other (`mapped_step`), and a list has no
handle but that of a partner (`tidy_step`).

## Main definitions

* `Handler.Keeps` : a handler that is not freed keeps its connection.
* `KeepsMapping`, `KeepsHandles`, `Sound` : conditions on the steps of a run.
* `Isolated` : a write goes to a party that the database maps to the sender.
* `Tidy` : what the lists have.

## Main results

* `keeps_step`, `State.partners_step`, `mapped_step`, `tidy_step` : what a step keeps.
* `isolated_run` : runs whose steps are sound.
* `not_isolated_run` : a run in which a handle is used for another app.
-/

namespace Lcm

namespace Bridge

open Function (update update_self update_of_ne)

/-! ### Connections that stay up -/

/-- The handler keeps its connection, unless it is freed. -/
structure Handler.Keeps (h g : Handler) : Prop where
  frees : h.frees ≤ g.frees
  up : g.frees = 0 → h.up = true → g.up = true

theorem Handler.up_of_phase {h g : Handler} (hopen : g.socketOpen = h.socketOpen)
    (hphase : g.phase ≠ .ended) (hup : h.up = true) : g.up = true := by
  rw [up_iff] at hup ⊢
  exact ⟨hopen.trans hup.1, hphase⟩

theorem Handler.up_proceed {h : Handler} (hup : h.up = true) : h.proceed.up = true := by
  refine up_of_phase (h := h) rfl ?_ hup
  unfold proceed
  dsimp only
  split <;> decide

namespace Handler.Keeps

variable {h g k : Handler}

theorem refl (h : Handler) : h.Keeps h := ⟨Nat.le_refl _, fun _ => id⟩

theorem trans (hg : h.Keeps g) (hk : g.Keeps k) : h.Keeps k where
  frees := Nat.le_trans hg.frees hk.frees
  up hzero hup := hk.up hzero (hg.up (Nat.le_zero.1 (hzero ▸ hk.frees)) hup)

theorem free (h : Handler) : h.Keeps h.free :=
  ⟨Nat.le_succ _, fun hzero => absurd hzero (Nat.succ_ne_zero _)⟩

theorem proceed (h : Handler) : h.Keeps h.proceed := ⟨Nat.le_refl _, fun _ => up_proceed⟩

theorem identified (h : Handler) (d : DeviceId) : h.Keeps (h.identified d) :=
  trans (g := { h with deviceId := d }) ⟨Nat.le_refl _, fun _ => id⟩ (proceed _)

end Handler.Keeps

section

variable {s s' : State} {place : ℕ → Option Place} {x : ℕ}

theorem State.keeps_setHandler {c : ℕ} {g : Handler} (hg : x = c → (s.handler c).Keeps g) :
    (s.handler x).Keeps ((s.setHandler c g).handler x) := by
  by_cases hx : x = c
  · subst hx
    simpa [setHandler] using hg rfl
  · simpa [setHandler, hx] using .refl _

theorem State.keeps_release (s : State) (cs : List ℕ) (x : ℕ) :
    (s.handler x).Keeps ((s.release cs).handler x) := by
  rw [handler_release]
  split
  · exact .free _
  · exact .refl _

theorem State.keeps_updateLCM (c : ℕ) (ok : Bool) (hx : ∀ k key, s.pending k key ≠ some x) :
    (s.handler x).Keeps ((s.updateLCM c ok).handler x) := by
  unfold updateLCM
  dsimp only
  split
  · exact .refl _
  · rename_i p hp
    split_ifs
    · exact keeps_setHandler fun heq => absurd (heq ▸ hp) (hx _ _)
    · rw [handler_recordStatus]
      exact keeps_release _ _ x

theorem State.keeps_attach (c : ℕ) (hx : ∀ k key, s.pending k key ≠ some x) :
    (s.handler x).Keeps ((s.attach c).handler x) := by
  have hset : (s.handler x).Keeps ((s.setHandler c (s.handler c).proceed).handler x) :=
    keeps_setHandler fun _ => .proceed _
  unfold attach
  dsimp only
  split
  · exact hset
  · rename_i p hp
    have hp : s.pending .app (s.handler c).key = some p := hp
    have hstop : (s.handler x).Keeps (((s.setHandler c (s.handler c).proceed).setHandler p
        ((s.setHandler c (s.handler c).proceed).handler p).stopReceiving).handler x) :=
      hset.trans (keeps_setHandler fun heq => absurd (heq ▸ hp) (hx _ _))
    split_ifs
    · exact hstop
    · split
      · exact hstop
      · exact hset

theorem State.keeps_identify (c : ℕ) (d : DeviceId) (ok : Bool)
    (hx : ∀ k key, s.pending k key ≠ some x) :
    (s.handler x).Keeps ((s.identify c d ok).handler x) := by
  have hset : (s.handler x).Keeps ((s.setHandler c ((s.handler c).identified d)).handler x) :=
    keeps_setHandler fun _ => .identified _ d
  unfold identify
  dsimp only
  split
  · split
    · exact hset.trans (keeps_updateLCM c ok hx)
    · exact hset.trans (keeps_setHandler fun _ =>
        ⟨Nat.le_refl _, fun _ => Handler.up_of_phase rfl (by simp)⟩)
  · exact hset

/-- **A handler that is not waiting in `lcmHandlers` or `appHandlers` keeps its connection** until
its thread ends or it is freed. -/
theorem keeps_step {e : Event} (hstep : step s e = some s') (hlt : x < s.accepted)
    (hx : ∀ k key, s.pending k key ≠ some x) (hexit : e ≠ .exit x) :
    (s.handler x).Keeps (s'.handler x) := by
  cases e with
  | accept k =>
    obtain ⟨-, rfl⟩ := step_accept.1 hstep
    simpa [State.accept, Nat.ne_of_lt hlt] using .refl _
  | subscribe k =>
    obtain ⟨c, -, -, rfl⟩ := step_subscribe.1 hstep
    exact State.keeps_setHandler fun _ => ⟨Nat.le_refl _, fun _ => id⟩
  | insert k =>
    obtain ⟨c, -, -, rfl⟩ := step_insert.1 hstep
    exact s.keeps_release _ x
  | identify c d ok =>
    obtain ⟨-, rfl⟩ := step_identify.1 hstep
    exact State.keeps_identify c d ok hx
  | attach c =>
    obtain ⟨-, rfl⟩ := step_attach.1 hstep
    exact State.keeps_attach c hx
  | exit c =>
    obtain ⟨-, rfl⟩ := step_exit.1 hstep
    exact State.keeps_setHandler fun heq => absurd (heq ▸ rfl) hexit
  | register appId lcmId okDevice okApp =>
    obtain rfl := step_register.1 hstep
    rw [s.handler_updateRegistration]
    exact .refl _
  | cleanPending k key =>
    obtain ⟨c, -, rfl⟩ := step_cleanPending.1 hstep
    unfold State.cleanPending
    split
    · exact .refl _
    · exact s.keeps_release _ x
  | cleanBridge d ok =>
    obtain ⟨entry, -, rfl⟩ := step_cleanBridge.1 hstep
    unfold State.cleanBridge
    dsimp only
    split
    · exact s.keeps_release _ x
    · rw [State.handler_recordStatus]
      exact s.keeps_release _ x

/-! ### Partners -/

/-- An app and an LCM that are in one element of `bridgeMap`. -/
def State.Bridged (s : State) (app lcm : ℕ) : Prop :=
  ∃ d, s.At app (.app d) ∧ s.At lcm (.lcm d)

/-- One of two handlers is bridged to the other. -/
def State.Partners (s : State) (c r : ℕ) : Prop := s.Bridged c r ∨ s.Bridged r c

/-- The handlers of the apps in the entry of a device. -/
def State.appSockets (s : State) (d : DeviceId) : List ℕ := (s.bridgeMap d).elim [] Entry.appSockets

/-- The thread of the handler of an LCM publishes an identifier, and `update` finds the handler. -/
def State.TakesEntry (s : State) (c : ℕ) : Prop :=
  (s.handler c).kind = .lcm ∧ (s.handler c).subscribed = true ∧
    (s.pending .lcm (s.handler c).key).isSome = true

instance (s : State) (c : ℕ) : Decidable (s.TakesEntry c) :=
  inferInstanceAs (Decidable (_ ∧ _ ∧ _))

theorem State.mem_appSockets {c : ℕ} {d : DeviceId} :
    c ∈ s.appSockets d ↔ s.At c (.app d) := by
  unfold appSockets
  change _ ↔ ∃ entry, s.bridgeMap d = some entry ∧ c ∈ entry.appSockets
  cases s.bridgeMap d <;> simp

theorem Books.frees_eq_zero (h : Books s place) {c : ℕ} {p : Place} (hat : s.At c p) :
    (s.handler c).frees = 0 := by
  have hplace := (h.at_iff c p).1 hat
  have hnot : ¬ s.Accepting c := by
    rintro ⟨k, hk⟩
    rw [(h.accepting k c hk).2.2.1] at hplace
    cases hplace
  rw [h.frees c (h.lt c p hplace) hnot, hplace]
  rfl

theorem Books.not_pending (h : Books s place) {c : ℕ} {p : Place} (hat : s.At c p)
    (hp : ∀ k key, p ≠ .pending k key) (k : Kind) (key : Key) : s.pending k key ≠ some c :=
  fun hpending => hp k key (h.at_unique hat hpending)

/-- A handler is in the element of one device only. -/
theorem Books.entry_unique (h : Books s place) {c : ℕ} {p : Place} {d d' : DeviceId}
    (hat : s.At c p) (hp : p = .lcm d ∨ p = .app d) (hmem : c ∈ s.entryHandlers d') : d = d' := by
  rcases (s.mem_entryHandlers d' c).1 hmem with hat' | hat' <;>
  · have heq := h.at_unique hat hat'
    rcases hp with rfl | rfl <;> cases heq
    rfl

/-- A thread that has ended does not start again. -/
theorem isConnected_of_step {e : Event} (hstep : step s e = some s') {c : ℕ} (hlt : c < s.accepted)
    (hc : (s'.handler c).isConnected = true) : (s.handler c).isConnected = true := by
  cases e with
  | accept k =>
    obtain ⟨-, rfl⟩ := step_accept.1 hstep
    simpa [State.accept, Nat.ne_of_lt hlt] using hc
  | subscribe | insert | identify | attach | exit | register | cleanPending | cleanBridge =>
    exact (shrinks_step hstep (by simp)).isConnected c hc

/-- Without a handler for the LCM, `update` does not take anything out of the maps. -/
theorem State.bridgeMap_identify {c : ℕ} {d : DeviceId} {ok : Bool} (h : ¬ s.TakesEntry c)
    (hkind : (s.handler c).kind = .lcm) : (s.identify c d ok).bridgeMap = s.bridgeMap := by
  have hself : (s.setHandler c ((s.handler c).identified d)).handler c =
      (s.handler c).identified d := update_self _ _ _
  unfold identify
  dsimp only
  rw [Handler.subscribed_identified, Handler.kind_identified, hkind]
  split
  · rename_i hsub
    have hnone : s.pending .lcm (s.handler c).key = none := by
      simpa [TakesEntry, hkind, hsub] using h
    have hpending : (s.setHandler c ((s.handler c).identified d)).pending .lcm
        ((s.handler c).identified d).key = none := hnone
    simp only [updateLCM, hself, hpending]
    rfl
  · rfl

/-- **Two handlers stay bridged** as long as both are connected: a step that drops one of them
drops both, unless another LCM with the same identifier takes their place. -/
theorem State.partners_step {e : Event} {c r : ℕ} (hb : Books s place)
    (hstep : step s e = some s') (hpartners : s.Partners c r)
    (hc : (s'.handler c).isConnected = true) (hr : (s.handler r).up = true) (hexit : e ≠ .exit r)
    (htakes : ∀ c' d ok, e = .identify c' d ok → s.TakesEntry c' → r ∉ s.entryHandlers d) :
    s'.Partners c r ∧ (s'.handler r).up = true := by
  obtain ⟨place', hb'⟩ := books_step hb hstep
  have hrconn : (s.handler r).isConnected = true := (Bool.and_eq_true_iff.1 hr).2
  -- a handler of an element stays there, or is dropped
  have hstays {x : ℕ} {p : Place} (hat : s.At x p) (hp : ∀ k key, p ≠ .pending k key) :
      s'.At x p ∨ Drops s x e ∧ (s'.handler x).phase = .ended := by
    rcases at_step hstep hat with hat' | hdrops | ⟨hmoves, -⟩
    · exact .inl hat'
    · exact .inr hdrops
    · cases e with
      | identify c' d ok => exact absurd hmoves.2 (hp _ _)
      | attach c' => exact absurd hmoves (hp _ _)
      | accept | subscribe | insert | exit | register | cleanPending | cleanBridge =>
        exact hmoves.elim
  have hcstays {p : Place} (hat : s.At c p) (hp : ∀ k key, p ≠ .pending k key) : s'.At c p :=
    (hstays hat hp).resolve_right fun hdrops => (Handler.isConnected_iff _).1 hc hdrops.2
  have hup {p : Place} (hat : s.At r p) (hp : ∀ k key, p ≠ .pending k key) (hat' : s'.At r p) :
      (s'.handler r).up = true :=
    (keeps_step hstep (hb.lt r p ((hb.at_iff r p).1 hat)) (hb.not_pending hat hp) hexit).up
      (hb'.frees_eq_zero hat') hr
  -- the partner is not dropped either
  have hrstays {p : Place} (hat : s.At r p) (hp : ∀ k key, p ≠ .pending k key)
      (hlcm : ∀ d, r ∈ s.entryHandlers d → ∀ entry, s.bridgeMap d = some entry →
        (s.handler entry.lcmSocket).isConnected = true) : s'.At r p := by
    refine (hstays hat hp).resolve_right ?_
    rintro ⟨hdrops, hended⟩
    cases e with
    | accept | subscribe | attach | exit | register => exact hdrops.elim
    | insert k =>
      obtain ⟨c', -, hx⟩ := hdrops
      exact hb.not_pending hat hp _ _ hx
    | identify c' d ok =>
      obtain ⟨hkind, hmem⟩ := hdrops
      refine htakes c' d ok rfl ?_ hmem
      by_contra htake
      have hmap : s'.bridgeMap = s.bridgeMap := by
        obtain ⟨-, rfl⟩ := step_identify.1 hstep
        exact bridgeMap_identify htake hkind
      have hat' : s'.At r p := by
        cases p with
        | pending k key => exact absurd rfl (hp k key)
        | lcm d' | app d' => simpa only [At, hmap] using hat
      exact ((Handler.up_iff _).1 (hup hat hp hat')).2 hended
    | cleanPending k key => exact absurd hrconn (Bool.eq_false_iff.1 hdrops)
    | cleanBridge d ok =>
      rcases hdrops with hdrops | ⟨hmem, entry, hentry, hdead⟩
      · exact absurd hrconn (Bool.eq_false_iff.1 hdrops)
      · exact absurd (hlcm d hmem entry hentry) (Bool.eq_false_iff.1 hdead)
  have hlcm (d : DeviceId) (k : Kind) (key : Key) : Place.lcm d ≠ .pending k key := by simp
  have happ (d : DeviceId) (k : Kind) (key : Key) : Place.app d ≠ .pending k key := by simp
  rcases hpartners with ⟨d, hcat, hrat⟩ | ⟨d, hrat, hcat⟩
  · have hrat' : s'.At r (.lcm d) := by
      refine hrstays hrat (hlcm d) fun d' hmem entry hentry => ?_
      obtain rfl := hb.entry_unique hrat (.inl rfl) hmem
      obtain rfl : entry.lcmSocket = r := by simpa [At, hentry] using hrat
      exact hrconn
    exact ⟨.inl ⟨d, hcstays hcat (happ d), hrat'⟩, hup hrat (hlcm d) hrat'⟩
  · have hrat' : s'.At r (.app d) := by
      refine hrstays hrat (happ d) fun d' hmem entry hentry => ?_
      obtain rfl := hb.entry_unique hrat (.inr rfl) hmem
      obtain rfl : entry.lcmSocket = c := by simpa [At, hentry] using hcat
      exact isConnected_of_step hstep (hb.lt _ _ ((hb.at_iff _ _).1 hcat)) hc
    exact ⟨.inr ⟨d, hrat', hcstays hcat (hlcm d)⟩, hup hrat (happ d) hrat'⟩

/-! ### Identifiers -/

/-- `update` finds the two handlers, and bridges them. -/
theorem State.attach_of_bridges {c p l : ℕ} (h : s.bridges c = some (p, l)) :
    ∃ entry, s.pending .app (s.handler c).key = some p ∧
      s.bridgeMap (s.handler c).lcmDeviceIdFromDB = some entry ∧ entry.lcmSocket = l ∧
      s.attach c = (((s.setHandler c (s.handler c).proceed).setPending .app (s.handler c).key
        none).setEntry (s.handler c).lcmDeviceIdFromDB
          (some { entry with appSockets := entry.appSockets ++ [p] })) := by
  obtain ⟨p', hp, h⟩ := Option.bind_eq_some_iff.1 h
  split_ifs at h with hd
  obtain ⟨entry, hentry, heq⟩ := Option.map_eq_some_iff.1 h
  obtain ⟨rfl, rfl⟩ := Prod.mk.inj heq
  refine ⟨entry, hp, hentry, rfl, ?_⟩
  have hp' : (s.setHandler c (s.handler c).proceed).pending .app (s.handler c).key = some p' := hp
  have hentry' : (s.setHandler c (s.handler c).proceed).bridgeMap
      (s.handler c).lcmDeviceIdFromDB = some entry := hentry
  simp only [attach, hp', hd, if_false, hentry']

theorem State.bridged_of_bridges {c p l : ℕ} (h : s.bridges c = some (p, l)) :
    (s.attach c).Bridged p l := by
  obtain ⟨entry, -, -, rfl, hattach⟩ := attach_of_bridges h
  refine ⟨(s.handler c).lcmDeviceIdFromDB, ?_, ?_⟩ <;> rw [hattach, at_setEntry]
  · simp
  · simp

theorem State.up_attach_of_bridges {c p l : ℕ} (h : s.bridges c = some (p, l))
    (hup : (s.handler x).up = true) : ((s.attach c).handler x).up = true := by
  obtain ⟨entry, -, -, -, hattach⟩ := attach_of_bridges h
  rw [hattach, handler_setEntry, handler_setPending]
  by_cases hx : x = c
  · subst hx
    simpa [setHandler] using Handler.up_proceed hup
  · simpa [setHandler, hx] using hup

/-- `update` bridges nobody, and leaves the maps as they are. -/
theorem State.at_attach_of_not_bridges {c : ℕ} (h : s.bridges c = none) (x : ℕ) (p : Place) :
    (s.attach c).At x p ↔ s.At x p := by
  unfold attach
  dsimp only
  split
  · exact at_setHandler ..
  · rename_i y hy
    have hy : s.pending .app (s.handler c).key = some y := hy
    split_ifs with hd
    · exact (at_setHandler ..).trans (at_setHandler ..)
    · split
      · exact (at_setHandler ..).trans (at_setHandler ..)
      · rename_i entry hentry
        have hentry : s.bridgeMap (s.handler c).lcmDeviceIdFromDB = some entry := hentry
        have hsome : s.bridges c = some (y, entry.lcmSocket) := by
          simp [bridges, hy, hentry, (show (s.handler c).lcmDeviceIdFromDB ≠ 0#64 from hd)]
        rw [h] at hsome
        cases hsome

theorem at_app_of_step {e : Event} (hstep : step s e = some s') {d : DeviceId}
    (hat : s'.At x (.app d)) : s.At x (.app d) ∨
      ∃ c l, e = .attach c ∧ s.bridges c = some (x, l) ∧ (s.handler c).lcmDeviceIdFromDB = d := by
  cases e with
  | accept k =>
    obtain ⟨-, rfl⟩ := step_accept.1 hstep
    exact .inl hat
  | subscribe k =>
    obtain ⟨c, -, -, rfl⟩ := step_subscribe.1 hstep
    exact .inl hat
  | insert k =>
    obtain ⟨c, -, -, rfl⟩ := step_insert.1 hstep
    exact .inl hat
  | identify c d' ok =>
    obtain ⟨-, rfl⟩ := step_identify.1 hstep
    refine .inl ?_
    unfold State.identify at hat
    dsimp only at hat
    split at hat
    · split at hat
      · unfold State.updateLCM at hat
        dsimp only at hat
        split at hat
        · exact hat
        · split_ifs at hat with hd
          · exact hat
          · simp only [State.at_recordStatus, State.at_setEntry, State.at_release,
              State.at_setPending, reduceCtorEq, if_false] at hat
            split at hat
            · simp at hat
            · exact hat
      · exact hat
    · exact hat
  | attach c =>
    obtain ⟨-, rfl⟩ := step_attach.1 hstep
    cases hbridges : s.bridges c with
    | none => exact .inl ((State.at_attach_of_not_bridges hbridges _ _).1 hat)
    | some pl =>
      obtain ⟨p, l⟩ := pl
      obtain ⟨entry, -, hentry, -, hattach⟩ := State.attach_of_bridges hbridges
      simp only [hattach, State.at_setEntry, State.at_setPending, reduceCtorEq, if_false] at hat
      split at hat
      · rename_i heq
        obtain rfl := Place.app.inj heq
        obtain ⟨entry', heq', hmem⟩ := hat
        obtain rfl := Option.some.inj heq'
        rcases List.mem_append.1 hmem with hmem | hmem
        · exact .inl ⟨entry, hentry, hmem⟩
        · obtain rfl := List.mem_singleton.1 hmem
          exact .inr ⟨c, l, rfl, hbridges, rfl⟩
      · exact .inl hat
  | exit c =>
    obtain ⟨-, rfl⟩ := step_exit.1 hstep
    exact .inl hat
  | register appId lcmId okDevice okApp =>
    obtain rfl := step_register.1 hstep
    unfold State.updateRegistration at hat
    rw [State.recordStatus_eq] at hat
    dsimp only at hat
    split at hat <;> exact .inl hat
  | cleanPending k key =>
    obtain ⟨c, -, rfl⟩ := step_cleanPending.1 hstep
    unfold State.cleanPending at hat
    split at hat <;> exact .inl hat
  | cleanBridge d' ok =>
    obtain ⟨entry, hentry, rfl⟩ := step_cleanBridge.1 hstep
    refine .inl ?_
    unfold State.cleanBridge at hat
    dsimp only at hat
    split at hat
    · simp only [State.at_setEntry, State.at_release, reduceCtorEq, if_false] at hat
      split at hat
      · rename_i heq
        obtain rfl := Place.app.inj heq
        obtain ⟨entry', heq, hmem⟩ := hat
        obtain rfl := Option.some.inj heq
        exact ⟨entry, hentry, (List.mem_filter.1 hmem).1⟩
      · exact hat
    · simp only [State.at_recordStatus, State.at_setEntry, State.at_release, reduceCtorEq,
        if_false] at hat
      split at hat
      · simp at hat
      · exact hat

/-- Every handler of an app in an element of `bridgeMap` is that of an app which the database maps
to the LCM. -/
structure Mapped (s : State) : Prop where
  lcm : ∀ x d, s.At x (.lcm d) → (s.handler x).kind = .lcm
  app : ∀ x d, s.At x (.app d) → (s.handler x).kind = .app ∧
    ((s.handler x).isConnected = true → s.apps (s.handler x).deviceId = some d)
  lookedUp : ∀ x < s.accepted, (s.handler x).phase = .lookedUp → (s.handler x).kind = .app

theorem kind_step {e : Event} (hstep : step s e = some s') (hx : x < s.accepted) :
    (s'.handler x).kind = (s.handler x).kind := by
  cases e with
  | accept k =>
    obtain ⟨-, rfl⟩ := step_accept.1 hstep
    simp [State.accept, Nat.ne_of_lt hx]
  | subscribe | insert | identify | attach | exit | register | cleanPending | cleanBridge =>
    exact (shrinks_step hstep (by simp)).kind x

theorem deviceId_step {e : Event} (hstep : step s e = some s') (hx : x < s.accepted)
    (hid : ∀ d ok, e ≠ .identify x d ok) :
    (s'.handler x).deviceId = (s.handler x).deviceId := by
  by_cases hattach : e = .attach x
  · subst hattach
    obtain ⟨-, rfl⟩ := step_attach.1 hstep
    rw [(s.passes_attach x x).deviceId]
    simp [State.setHandler, Handler.proceed]
  · exact (passes_step hstep hx hid hattach).deviceId

theorem apps_step {e : Event} (hstep : step s e = some s')
    (hreg : ∀ a l okDevice okApp, e ≠ .register a l okDevice okApp) : s'.apps = s.apps := by
  cases e with
  | accept k =>
    obtain ⟨-, rfl⟩ := step_accept.1 hstep
    rfl
  | subscribe k =>
    obtain ⟨c, -, -, rfl⟩ := step_subscribe.1 hstep
    rfl
  | insert k =>
    obtain ⟨c, -, -, rfl⟩ := step_insert.1 hstep
    rfl
  | identify c d ok =>
    obtain ⟨-, rfl⟩ := step_identify.1 hstep
    unfold State.identify
    dsimp only
    split
    · split
      · unfold State.updateLCM
        dsimp only
        split
        · rfl
        · split_ifs
          · rfl
          · rw [State.recordStatus_eq]
            rfl
      · rfl
    · rfl
  | attach c =>
    obtain ⟨-, rfl⟩ := step_attach.1 hstep
    unfold State.attach
    dsimp only
    split
    · rfl
    · split_ifs
      · rfl
      · split <;> rfl
  | exit c =>
    obtain ⟨-, rfl⟩ := step_exit.1 hstep
    rfl
  | register a l okDevice okApp => exact absurd rfl (hreg a l okDevice okApp)
  | cleanPending k key =>
    obtain ⟨c, -, rfl⟩ := step_cleanPending.1 hstep
    unfold State.cleanPending
    split <;> rfl
  | cleanBridge d ok =>
    obtain ⟨entry, -, rfl⟩ := step_cleanBridge.1 hstep
    unfold State.cleanBridge
    dsimp only
    split
    · rfl
    · rw [State.recordStatus_eq]
      rfl

theorem State.apps_updateRegistration (a l : DeviceId) (okDevice okApp : Bool) :
    (s.updateRegistration a l okDevice okApp).apps =
      if s.db && okApp then update s.apps a (some l) else s.apps := by
  unfold updateRegistration
  simp only [recordStatus_eq]
  split <;> rfl

/-- The handler of the app is bridged to one of an LCM other than `lcmId`. -/
def State.BridgedElsewhere (s : State) (appId lcmId : DeviceId) : Prop :=
  ∃ c < s.accepted, (s.handler c).isConnected = true ∧ (s.handler c).deviceId = appId ∧
    ∃ l < s.accepted, c ∈ s.appSockets (s.handler l).deviceId ∧ (s.handler l).deviceId ≠ lcmId

instance (s : State) (appId lcmId : DeviceId) : Decidable (s.BridgedElsewhere appId lcmId) :=
  inferInstanceAs (Decidable (∃ c < s.accepted, _ ∧ _ ∧ ∃ l < s.accepted, _ ∧ _))

/-- The database keeps mapping an app that is bridged, or about to be, to the LCM it is bridged to;
an app that is bridged does not take another identifier that is mapped elsewhere. -/
def KeepsMapping (s : State) : Event → Prop
  | .identify c d _ => ∀ l < s.accepted, c ∈ s.appSockets (s.handler l).deviceId →
      s.apps d = some (s.handler l).deviceId
  | .attach c => (s.bridges c).isSome = true →
      s.apps (s.handler c).deviceId = some (s.handler c).lcmDeviceIdFromDB
  | .register appId lcmId _ okApp =>
      (s.db && okApp) = true → ¬ s.BridgedElsewhere appId lcmId
  | _ => True

instance (s : State) : (e : Event) → Decidable (KeepsMapping s e)
  | .identify .. => inferInstanceAs (Decidable (∀ l < s.accepted, _ → _))
  | .attach _ => inferInstanceAs (Decidable (_ → _))
  | .register .. => inferInstanceAs (Decidable (_ → ¬ _))
  | .accept _ | .subscribe _ | .insert _ | .exit _ | .cleanPending .. | .cleanBridge .. =>
    .isTrue trivial

/-- The LCM of the element that the handler of an app is in. -/
theorem Entered.exists_lcm (h : Entered s) {d : DeviceId} (hat : s.At x (.app d)) :
    ∃ l < s.accepted, (s.handler l).deviceId = d ∧ x ∈ s.appSockets (s.handler l).deviceId := by
  obtain ⟨entry, hentry, -⟩ := id hat
  obtain ⟨hlt, hd, -⟩ := h entry.lcmSocket d (by simp [State.At, hentry])
  exact ⟨_, hlt, hd, by rwa [hd, State.mem_appSockets]⟩

/-- `update` finds the handler it has been called for. -/
theorem Numbered.eq_of_bridges (h : Numbered s) (hm : Mapped s) {c l : ℕ} (hc : c < s.accepted)
    (hphase : (s.handler c).phase = .lookedUp) (hbridges : s.bridges c = some (x, l)) : c = x := by
  obtain ⟨entry, hp, -⟩ := State.attach_of_bridges hbridges
  obtain ⟨hlt, hkind, hkey⟩ := h.pending _ _ _ hp
  exact h.distinct c hc x hlt (.inl (by simp [Handler.isConnected, hphase]))
    (.inr (.inl ⟨_, _, hp⟩)) ((hm.lookedUp c hc hphase).trans hkind.symm) hkey.symm

/-- A thread is between the query and the locks only for the handler of an app. -/
theorem kind_of_lookedUp {e : Event} (h : ∀ x < s.accepted, (s.handler x).phase = .lookedUp →
    (s.handler x).kind = .app) (hstep : step s e = some s') (hx : x < s.accepted)
    (hphase : (s'.handler x).phase = .lookedUp) : (s.handler x).kind = .app := by
  have hconn : (s'.handler x).isConnected = true := by simp [Handler.isConnected, hphase]
  by_cases hid : ∃ d ok, e = .identify x d ok
  · obtain ⟨d, ok, rfl⟩ := hid
    obtain ⟨-, rfl⟩ := step_identify.1 hstep
    cases hkind : (s.handler x).kind with
    | app => rfl
    | lcm =>
      have hsame := (passes_identify_lcm hkind d ok).phase hconn
      rw [hphase] at hsame
      unfold Handler.identified Handler.proceed at hsame
      dsimp only at hsame
      split at hsame <;> cases hsame
  by_cases hattach : e = .attach x
  · subst hattach
    obtain ⟨⟨-, hlooked⟩, rfl⟩ := step_attach.1 hstep
    exact h x hx hlooked
  · have hpass := passes_step hstep hx (fun d ok heq => hid ⟨d, ok, heq⟩) hattach
    exact h x hx ((hpass.phase hconn).symm.trans hphase)

theorem State.deviceId_identify_app {d : DeviceId} {ok : Bool} (h : (s.handler x).kind = .app) :
    ((s.identify x d ok).handler x).deviceId = d := by
  unfold identify
  dsimp only
  rw [Handler.kind_identified, h]
  split <;> simp [lookUp, setHandler]

/-- **The database maps the apps to the LCMs they are bridged to**, as long as it keeps the
mapping. -/
theorem mapped_step {e : Event} (h : Mapped s) (hb : Books s place) (hn : Numbered s)
    (he : Entered s) (hkeeps : KeepsMapping s e) (hstep : step s e = some s') : Mapped s' := by
  refine ⟨fun x d hat => ?_, fun x d hat => ?_, fun x hx hphase => ?_⟩
  · rcases at_lcm_of_step hstep hat with hat | ⟨-, c, ok, -, -, hx⟩
    · rw [kind_step hstep (hb.lt _ _ ((hb.at_iff _ _).1 hat))]
      exact h.lcm x d hat
    · obtain ⟨hlt, hkind, -⟩ := hn.pending _ _ _ hx
      rw [kind_step hstep hlt, hkind]
  · rcases at_app_of_step hstep hat with hat | ⟨c, l, rfl, hbridges, rfl⟩
    · obtain ⟨hkind, hmap⟩ := h.app x d hat
      have hlt := hb.lt _ _ ((hb.at_iff _ _).1 hat)
      obtain ⟨l, hl, rfl, hmem⟩ := he.exists_lcm hat
      refine ⟨(kind_step hstep hlt).trans hkind, fun hconn => ?_⟩
      have hmap := hmap (isConnected_of_step hstep hlt hconn)
      by_cases hid : ∃ d ok, e = .identify x d ok
      · obtain ⟨d, ok, rfl⟩ := hid
        rw [apps_step hstep (by simp)]
        obtain ⟨-, rfl⟩ := step_identify.1 hstep
        rw [State.deviceId_identify_app hkind]
        exact hkeeps l hl hmem
      rw [deviceId_step hstep hlt fun d ok heq => hid ⟨d, ok, heq⟩]
      cases e with
      | register a lcm okDevice okApp =>
        obtain rfl := step_register.1 hstep
        rw [State.apps_updateRegistration]
        split
        · rename_i hdb
          by_cases ha : (s.handler x).deviceId = a
          · rw [ha, update_self]
            by_contra hne
            exact hkeeps hdb ⟨x, hlt, isConnected_of_step hstep hlt hconn, ha, l, hl, hmem,
              fun heq => hne (congrArg some heq.symm)⟩
          · rwa [update_of_ne ha]
        · exact hmap
      | accept | subscribe | insert | identify | attach | exit | cleanPending | cleanBridge =>
        rwa [apps_step hstep (by simp)]
    · obtain ⟨⟨hlt, hphase⟩, -⟩ := step_attach.1 hstep
      obtain rfl := hn.eq_of_bridges h hlt hphase hbridges
      refine ⟨(kind_step hstep hlt).trans (h.lookedUp c hlt hphase), fun _ => ?_⟩
      rw [apps_step hstep (by simp), deviceId_step hstep hlt (by simp)]
      exact hkeeps (by simp [hbridges])
  · by_cases hlt : x < s.accepted
    · exact (kind_step hstep hlt).trans (kind_of_lookedUp h.lookedUp hstep hlt hphase)
    · cases e with
      | accept k =>
        obtain ⟨-, rfl⟩ := step_accept.1 hstep
        obtain rfl : x = s.accepted := by
          have hx : x < s.accepted + 1 := hx
          omega
        simp [State.accept] at hphase
      | subscribe | insert | identify | attach | exit | register | cleanPending | cleanBridge =>
        rw [(shrinks_step hstep (by simp)).accepted] at hx
        exact absurd hx hlt

/-- The connection of a handler is closed only by the bridge. -/
theorem socketOpen_of_step {e : Event} (hstep : step s e = some s') (hx : x < s.accepted)
    (hopen : (s'.handler x).socketOpen = true) : (s.handler x).socketOpen = true := by
  by_cases hid : ∃ d ok, e = .identify x d ok
  · obtain ⟨d, ok, rfl⟩ := hid
    obtain ⟨-, rfl⟩ := step_identify.1 hstep
    cases hkind : (s.handler x).kind with
    | lcm => exact (passes_identify_lcm hkind d ok).socketOpen hopen
    | app =>
      unfold State.identify at hopen
      dsimp only at hopen
      rw [Handler.kind_identified, hkind] at hopen
      split at hopen <;>
        simpa [State.lookUp, State.setHandler, Handler.identified, Handler.proceed] using hopen
  by_cases hattach : e = .attach x
  · subst hattach
    obtain ⟨-, rfl⟩ := step_attach.1 hstep
    simpa [State.setHandler, Handler.proceed] using (s.passes_attach x x).socketOpen hopen
  · exact (passes_step hstep hx (fun d ok heq => hid ⟨d, ok, heq⟩) hattach).socketOpen hopen

end

/-! ### Handles -/

/-- Another handler whose thread is running has the handle of the connection in its list. -/
def Relay.Listed (s : Relay) (r : ℕ) : Prop :=
  (s.bridge.handler r).socketOpen = true ∧ ∃ c < s.bridge.accepted, c ≠ r ∧
    (s.bridge.handler c).isConnected = true ∧ some (s.handle r) ∈ (s.loop c).bridged

instance (s : Relay) (r : ℕ) : Decidable (s.Listed r) :=
  inferInstanceAs (Decidable (_ ∧ ∃ c < s.bridge.accepted, _ ∧ _ ∧ _))

/-- A connection ends when no other handler has its handle, and an app is bridged to an LCM whose
connection has not ended.

When an LCM takes the place of another one with the same identifier, the destructors of the old
handlers run one after the other, and their threads go on until it is their turn. -/
def KeepsHandles (s : Relay) : Event → Prop
  | .exit r => ¬ s.Listed r
  | .identify c d _ => s.bridge.TakesEntry c → ∀ r ∈ s.bridge.entryHandlers d, ¬ s.Listed r
  | .attach c => ∀ q ∈ s.bridge.bridges c, (s.bridge.handler q.2).socketOpen = true →
      (s.bridge.handler q.2).isConnected = true
  | _ => True

instance (s : Relay) : (e : Event) → Decidable (KeepsHandles s e)
  | .exit _ => inferInstanceAs (Decidable (¬ _))
  | .identify .. => inferInstanceAs (Decidable (_ → ∀ r ∈ _, ¬ _))
  | .attach _ => inferInstanceAs (Decidable (∀ q ∈ s.bridge.bridges _, _ → _))
  | .accept _ | .subscribe _ | .insert _ | .register .. | .cleanPending .. | .cleanBridge .. =>
    .isTrue trivial

/-- The numbers of the handlers come round late enough, the handles and the mapping are kept. -/
def Sound (s : Relay) : RelayEvent → Prop
  | .accept k _ => Regular s.bridge (.accept k)
  | .bridge e => KeepsHandles s e ∧ KeepsMapping s.bridge e
  | _ => True

instance (s : Relay) : (e : RelayEvent) → Decidable (Sound s e)
  | .accept k _ => inferInstanceAs (Decidable (Regular s.bridge (.accept k)))
  | .bridge _ => inferInstanceAs (Decidable (_ ∧ _))
  | .receive .. | .send .. | .finish _ => .isTrue trivial

/-- The app is the one of a handler whose connection is up and which is bridged to the LCM, and the
database maps it to this LCM. -/
structure State.Serves (s : State) (lcm app : ℕ) : Prop where
  lcmKind : (s.handler lcm).kind = .lcm
  appKind : (s.handler app).kind = .app
  bridged : s.Bridged app lcm
  mapped : s.apps (s.handler app).deviceId = some (s.handler lcm).deviceId

/-- **The isolation of the connections.**  A write of a handler goes to a connection that is up: that
of the LCM to which the database maps the app, or that of an app which is mapped to the LCM. -/
def Isolated (s : Relay) : RelayEvent → Prop
  | .send c (some _) => ∀ chunk i h, (s.loop c).next = some (chunk, i, h) →
      ∀ r, s.Refers h r → (s.bridge.handler r).up = true ∧
        (s.bridge.Serves r c ∨ s.bridge.Serves c r)
  | _ => True

/-- The lists of the handlers have handles of connections that are up, and of nobody else. -/
structure Tidy (s : Relay) : Prop where
  books : ∃ place, Books s.bridge place
  numbered : Numbered s.bridge
  entered : Entered s.bridge
  mapped : Mapped s.bridge
  distinct : ∀ n r r', s.Refers (some n) r → s.Refers (some n) r' → r = r'
  listed : ∀ c < s.bridge.accepted, (s.bridge.handler c).isConnected = true →
    ∀ n, some n ∈ (s.loop c).bridged →
      ∃ r, s.Refers (some n) r ∧ (s.bridge.handler r).up = true ∧ s.bridge.Partners c r

section

variable {s s' : Relay} {e : RelayEvent}

theorem Forwarder.mem_of_next {f : Forwarder} {chunk : List Octet} {i : ℕ} {h : Handle}
    (hnext : f.next = some (chunk, i, h)) : h ∈ f.bridged := by
  obtain ⟨⟨chunk', i'⟩, -, hget⟩ := Option.bind_eq_some_iff.1 hnext
  obtain ⟨h', hh', heq⟩ := Option.map_eq_some_iff.1 hget
  cases heq
  exact List.mem_of_getElem? hh'

/-- The two handlers are of different kinds, and the database maps one to the other. -/
theorem Tidy.serves (h : Tidy s) {app lcm : ℕ} (hbridged : s.bridge.Bridged app lcm)
    (hconn : (s.bridge.handler app).isConnected = true) : s.bridge.Serves lcm app := by
  obtain ⟨d, hat, hat'⟩ := id hbridged
  obtain ⟨hkind, hmap⟩ := h.mapped.app app d hat
  obtain ⟨-, hd, -⟩ := h.entered lcm d hat'
  exact ⟨h.mapped.lcm lcm d hat', hkind, hbridged, hd ▸ hmap hconn⟩

/-- What is listed can be written to. -/
theorem Tidy.isolated (h : Tidy s) (hstep : relay.step s e = some s') : Isolated s e := by
  cases e with
  | send c taken =>
    cases taken with
    | none => trivial
    | some taken =>
      obtain ⟨⟨hlt, hphase⟩, -⟩ := relay_send.1 hstep
      intro chunk i hd hnext r hrefers
      obtain ⟨-, -, rfl⟩ := id hrefers
      have hconn : (s.bridge.handler c).isConnected = true := by
        simp [Handler.isConnected, hphase]
      obtain ⟨r', hrefers', hup, hpartners⟩ :=
        h.listed c hlt hconn _ (Forwarder.mem_of_next hnext)
      obtain rfl := h.distinct _ _ _ hrefers hrefers'
      exact ⟨hup, hpartners.imp (fun hb => h.serves hb hconn)
        fun hb => h.serves hb (Bool.and_eq_true_iff.1 hup).2⟩
  | accept | bridge | receive | finish => trivial

/-- A loop goes on, or gives up a handle. -/
theorem Tidy.setLoop (h : Tidy s) {c : ℕ} {f : Forwarder}
    (hsub : ∀ x ∈ f.bridged, x ∈ (s.loop c).bridged) : Tidy (s.setLoop c f) := by
  refine ⟨h.books, h.numbered, h.entered, h.mapped, h.distinct, fun x hx hconn n hn => ?_⟩
  refine h.listed x hx hconn n ?_
  by_cases hxc : x = c
  · subst hxc
    exact hsub _ (by simpa [Relay.setLoop] using hn)
  · simpa [Relay.setLoop, hxc] using hn

/-- A connection gets a handle that nobody has in a list. -/
theorem Tidy.accept (h : Tidy s) {k : Kind} {n : ℕ} (hfree : ¬ s.InUse (some n))
    (hk : s.bridge.accepting k = none) (hreg : Regular s.bridge (.accept k)) :
    Tidy (s.accept k n) := by
  have hstep : Bridge.step s.bridge (.accept k) = some (s.bridge.accept k) :=
    step_accept.2 ⟨hk, rfl⟩
  obtain ⟨place, hb⟩ := h.books
  have hmapping : KeepsMapping s.bridge (.accept k) := trivial
  have hold {c : ℕ} (hc : c < s.bridge.accepted) :
      (s.bridge.accept k).handler c = s.bridge.handler c := update_of_ne (Nat.ne_of_lt hc) _ _
  have hhandle {c : ℕ} (hc : c < s.bridge.accepted) : (s.accept k n).handle c = s.handle c :=
    update_of_ne (Nat.ne_of_lt hc) _ _
  have hnew : (s.accept k n).handle s.bridge.accepted = n := update_self _ _ _
  have hrefers {m : ℕ} {r : ℕ} (hr : (s.accept k n).Refers (some m) r) :
      s.Refers (some m) r ∨ r = s.bridge.accepted ∧ m = n := by
    obtain ⟨hlt, hopen, heq⟩ := hr
    rcases Nat.lt_succ_iff_lt_or_eq.1 hlt with hlt | rfl
    · refine .inl ⟨hlt, ?_, ?_⟩
      · rw [← hold hlt]
        exact hopen
      · rw [← hhandle hlt]
        exact heq
    · rw [hnew] at heq
      exact .inr ⟨rfl, Option.some.inj heq⟩
  refine ⟨books_step hb hstep, numbered_step h.numbered hb hreg hstep,
    entered_step h.entered h.numbered hstep,
    mapped_step h.mapped hb h.numbered h.entered hmapping hstep, fun m r r' hr hr' => ?_,
    fun c hc hconn m hm => ?_⟩
  · rcases hrefers hr with hr | ⟨rfl, rfl⟩ <;> rcases hrefers hr' with hr' | ⟨rfl, heq⟩
    · exact h.distinct m r r' hr hr'
    · exact absurd ⟨r, hr.1, heq ▸ hr⟩ hfree
    · exact absurd ⟨r', hr'.1, hr'⟩ hfree
    · rfl
  · rcases Nat.lt_succ_iff_lt_or_eq.1 hc with hc | rfl
    · have hconn' : (s.bridge.handler c).isConnected = true := by
        rw [← hold hc]
        exact hconn
      have hm' : some m ∈ (s.loop c).bridged := by
        simpa [Relay.accept, Nat.ne_of_lt hc] using hm
      obtain ⟨r, ⟨hlt, hopen, heq⟩, hup, hpartners⟩ := h.listed c hc hconn' m hm'
      refine ⟨r, ⟨Nat.lt_succ_of_lt hlt, ?_, ?_⟩, ?_, hpartners⟩
      · exact (congrArg Handler.socketOpen (hold hlt)).trans hopen
      · rw [hhandle hlt]
        exact heq
      · exact (congrArg Handler.up (hold hlt)).trans hup
    · simp [Relay.accept] at hm

/-- A handle of a list stays good in a step of the bridge. -/
theorem Tidy.listed_step (h : Tidy s) {e : Event} {b : State} (hkeeps : KeepsHandles s e)
    (hstep : Bridge.step s.bridge e = some b) {c : ℕ} (hc : c < s.bridge.accepted)
    (hconn : (b.handler c).isConnected = true) {n : ℕ} (hn : some n ∈ (s.loop c).bridged) :
    ∃ r, s.Refers (some n) r ∧ (b.handler r).up = true ∧ b.Partners c r := by
  obtain ⟨place, hb⟩ := h.books
  have hconn' := isConnected_of_step hstep hc hconn
  obtain ⟨r, hrefers, hup, hpartners⟩ := h.listed c hc hconn' n hn
  have hne : c ≠ r := by
    rintro rfl
    rcases hpartners with ⟨d, happ, hlcm⟩ | ⟨d, happ, hlcm⟩ <;> cases hb.at_unique happ hlcm
  have hlisted : s.Listed r := by
    obtain ⟨-, hopen, heq⟩ := hrefers
    exact ⟨hopen, c, hc, hne, hconn', heq ▸ hn⟩
  obtain ⟨hpartners', hup'⟩ := State.partners_step hb hstep hpartners hconn hup
    (by rintro rfl; exact hkeeps hlisted)
    (by rintro c' d ok rfl htakes hmem; exact hkeeps htakes r hmem hlisted)
  exact ⟨r, hrefers, hup', hpartners'⟩

theorem Forwarder.mem_addBridgedSocketHandle {f : Forwarder} {x y : Handle}
    (h : x ∈ (f.addBridgedSocketHandle y).bridged) : x ∈ f.bridged ∨ x = y := by
  unfold addBridgedSocketHandle at h
  dsimp only at h
  split at h
  · exact .inl h
  · simpa using h

/-- The two handlers that are bridged get the handle of the other one. -/
theorem Relay.mem_bridgeApp {app lcm c : ℕ} {x : Handle}
    (h : x ∈ ((s.bridgeApp app lcm).loop c).bridged) : x ∈ (s.loop c).bridged ∨
      c = app ∧ x = s.clientSocketHandle lcm ∨ c = lcm ∧ x = s.clientSocketHandle app := by
  have happ {c : ℕ} (h : x ∈ ((s.setLoop app
      ((s.loop app).addBridgedSocketHandle (s.clientSocketHandle lcm))).loop c).bridged) :
      x ∈ (s.loop c).bridged ∨ c = app ∧ x = s.clientSocketHandle lcm := by
    by_cases hc : c = app
    · subst hc
      exact (Forwarder.mem_addBridgedSocketHandle (by simpa [setLoop] using h)).imp_right
        fun hx => ⟨rfl, hx⟩
    · exact .inl (by simpa [setLoop, hc] using h)
  by_cases hc : c = lcm
  · subst hc
    have hself : (s.bridgeApp app c).loop c = _ := update_self _ _ _
    rw [hself] at h
    rcases Forwarder.mem_addBridgedSocketHandle h with hx | hx
    · exact (happ hx).imp_right .inl
    · exact .inr (.inr ⟨rfl, hx⟩)
  · have hother : (s.bridgeApp app lcm).loop c = _ := update_of_ne hc _ _
    rw [hother] at h
    exact (happ h).imp_right .inl

theorem Relay.eq_of_clientSocketHandle {c n : ℕ} (h : some n = s.clientSocketHandle c) :
    (s.bridge.handler c).socketOpen = true ∧ some n = some (s.handle c) := by
  unfold clientSocketHandle at h
  split at h
  · exact ⟨by assumption, h⟩
  · cases h

theorem Relay.handle_bridging (s : Relay) (e : Event) : (s.bridging e).handle = s.handle := by
  cases e with
  | attach c =>
    rw [bridging]
    cases s.bridge.bridges c <;> rfl
  | accept | subscribe | insert | identify | exit | register | cleanPending | cleanBridge => rfl

/-- What is in a list was there before, or is the handle of the other one of two handlers that
`update` has bridged. -/
theorem Relay.mem_bridging {e : Event} {c : ℕ} {x : Handle}
    (h : x ∈ ((s.bridging e).loop c).bridged) : x ∈ (s.loop c).bridged ∨
      ∃ a app lcm, e = .attach a ∧ s.bridge.bridges a = some (app, lcm) ∧
        (c = app ∧ x = s.clientSocketHandle lcm ∨ c = lcm ∧ x = s.clientSocketHandle app) := by
  cases e with
  | attach a =>
    rw [bridging] at h
    cases hbridges : s.bridge.bridges a with
    | none =>
      rw [hbridges] at h
      exact .inl h
    | some q =>
      rw [hbridges] at h
      exact (mem_bridgeApp h).imp_right fun hx => ⟨a, q.1, q.2, rfl, hbridges, hx⟩
  | accept | subscribe | insert | identify | exit | register | cleanPending | cleanBridge =>
    exact .inl h

/-- **A step of the bridge** leaves no handle in a list whose connection has ended. -/
theorem Tidy.bridge (h : Tidy s) {e : Event} (hready : s.Ready e) (hkeeps : KeepsHandles s e)
    (hmapping : KeepsMapping s.bridge e) {b : State} (hstep : Bridge.step s.bridge e = some b) :
    Tidy ((s.bridging e).follow b) := by
  obtain ⟨place, hb⟩ := h.books
  have haccept (k : Kind) : e ≠ .accept k := by
    rintro rfl
    exact hready
  have hreg : Regular s.bridge e := by
    cases e with
    | accept k => exact absurd rfl (haccept k)
    | subscribe | insert | identify | attach | exit | register | cleanPending | cleanBridge =>
      trivial
  have haccepted := (shrinks_step hstep haccept).accepted
  have hhandle : ((s.bridging e).follow b).handle = s.handle := s.handle_bridging e
  have hrefers {m r : ℕ} (hr : ((s.bridging e).follow b).Refers (some m) r) :
      s.Refers (some m) r := by
    obtain ⟨hlt, hopen, heq⟩ := hr
    have hlt : r < s.bridge.accepted := haccepted ▸ hlt
    exact ⟨hlt, socketOpen_of_step hstep hlt hopen, hhandle ▸ heq⟩
  refine ⟨books_step hb hstep, numbered_step h.numbered hb hreg hstep,
    entered_step h.entered h.numbered hstep,
    mapped_step h.mapped hb h.numbered h.entered hmapping hstep,
    fun m r r' hr hr' => h.distinct m r r' (hrefers hr) (hrefers hr'), fun c hc hconn n hn => ?_⟩
  have hc : c < s.bridge.accepted := haccepted ▸ hc
  have hn : some n ∈ ((s.bridging e).loop c).bridged := by
    have hn : some n ∈ (if (b.handler c).frees = _ then (s.bridging e).loop c else {}).bridged := hn
    split at hn
    · exact hn
    · cases hn
  have hafter {r : ℕ} (hr : s.Refers (some n) r) (hup : (b.handler r).up = true) :
      ((s.bridging e).follow b).Refers (some n) r := by
    obtain ⟨hlt, -, heq⟩ := hr
    exact ⟨haccepted ▸ hlt, ((Handler.up_iff _).1 hup).1, hhandle ▸ heq⟩
  rcases Relay.mem_bridging hn with hn | ⟨a, app, lcm, rfl, hbridges, hn⟩
  · obtain ⟨r, hr, hup, hpartners⟩ := h.listed_step hkeeps hstep hc hconn hn
    exact ⟨r, hafter hr hup, hup, hpartners⟩
  · obtain ⟨⟨hlt, hphase⟩, rfl⟩ := step_attach.1 hstep
    obtain rfl := h.numbered.eq_of_bridges h.mapped hlt hphase hbridges
    have hbridged := State.bridged_of_bridges hbridges
    rcases hn with ⟨rfl, hn'⟩ | ⟨rfl, hn'⟩ <;>
      obtain ⟨hopen, hn'⟩ := Relay.eq_of_clientSocketHandle hn'
    · have hlcm : lcm < s.bridge.accepted := by
        obtain ⟨entry, -, hentry, rfl, -⟩ := State.attach_of_bridges hbridges
        exact (h.entered _ (s.bridge.handler c).lcmDeviceIdFromDB (by simp [State.At, hentry])).1
      have hup : (s.bridge.handler lcm).up = true :=
        Bool.and_eq_true_iff.2 ⟨hopen, hkeeps _ hbridges hopen⟩
      have hup' := State.up_attach_of_bridges hbridges hup
      exact ⟨lcm, hafter ⟨hlcm, hopen, hn'⟩ hup', hup', .inl hbridged⟩
    · have hup : (s.bridge.handler a).up = true :=
        (Handler.up_iff _).2 ⟨hopen, by rw [hphase]; decide⟩
      have hup' := State.up_attach_of_bridges hbridges hup
      exact ⟨a, hafter ⟨hlt, hopen, hn'⟩ hup', hup', .inr hbridged⟩

/-- **The lists stay tidy** in a step that keeps the handles and the mapping. -/
theorem tidy_step (h : Tidy s) (hsound : Sound s e) (hstep : relay.step s e = some s') :
    Tidy s' := by
  cases e with
  | accept k handle =>
    obtain ⟨⟨-, hfree, hk⟩, rfl⟩ := relay_accept.1 hstep
    exact h.accept hfree hk hsound
  | bridge e =>
    obtain ⟨hready, b, hb, rfl⟩ := relay_bridge.1 hstep
    exact h.bridge hready hsound.1 hsound.2 hb
  | receive c chunk =>
    obtain ⟨-, rfl⟩ := relay_receive.1 hstep
    exact h.setLoop fun _ => id
  | send c taken =>
    cases taken with
    | none =>
      obtain ⟨-, chunk, i, hd, -, rfl⟩ := relay_send_none.1 hstep
      exact h.setLoop fun _ => List.mem_of_mem_eraseIdx
    | some taken =>
      obtain ⟨-, chunk, i, hd, -, -, rfl⟩ := relay_send.1 hstep
      exact h.setLoop fun _ => id
  | finish c =>
    obtain ⟨-, chunk, i, -, -, rfl⟩ := relay_finish.1 hstep
    exact h.setLoop fun _ => id

end

theorem mapped_start (db ok : Bool) (devices : DeviceId → Option Bool)
    (apps : DeviceId → Option DeviceId) : Mapped (State.start db ok devices apps) := by
  refine ⟨fun x d hat => ?_, fun x d hat => ?_, fun x hx => absurd hx (Nat.not_lt_zero x)⟩
  · cases hat
  · obtain ⟨entry, hentry, -⟩ := hat
    cases hentry

theorem tidy_start (db ok : Bool) (devices : DeviceId → Option Bool)
    (apps : DeviceId → Option DeviceId) : Tidy { bridge := State.start db ok devices apps } :=
  ⟨⟨_, books_start db ok devices apps⟩, numbered_start db ok devices apps,
    entered_start db ok devices apps, mapped_start db ok devices apps,
    fun _ r _ hr => absurd hr.1 (Nat.not_lt_zero r), fun c hc => absurd hc (Nat.not_lt_zero c)⟩

/-- A connection that is accepted and identified. -/
def connect (k : Kind) (c handle : ℕ) (d : DeviceId) : List RelayEvent :=
  [.accept k handle, .bridge (.subscribe k), .bridge (.insert k), .bridge (.identify c d true)] ++
    match k with
    | .lcm => []
    | .app => [.bridge (.attach c)]

/-- Two apps are registered, each for an LCM of its own. -/
def twoLCMs : List RelayEvent :=
  [.bridge (.register 9 5 true true), .bridge (.register 10 6 true true)] ++
    connect .lcm 0 3 5 ++ connect .lcm 1 4 6 ++ connect .app 2 7 9

/-- An app of one LCM loses its connection, and the system gives its handle to an app of the other
LCM. -/
def handleReused : List RelayEvent :=
  twoLCMs ++ [.bridge (.exit 2), .bridge (.cleanBridge 5 true)] ++ connect .app 3 7 10 ++
    [.receive 0 [43, 0]]

end Bridge

end Lcm
