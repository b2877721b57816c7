import Lcm.Bridge.Steps

/-!
# The admission of connections to the bridge

The thread of a handler is started before the bridge subscribes to it and before the handler is in
its map.  It publishes its identification once.  If this comes too early, nobody is told, or the
handler is not found, and the connection stays where it is: it is not bridged, and not closed.

## Main definitions

* `Prompt` : identifications are published when the accept loop is done.
* `Handler.home` : the place for an identified handler.
* `Admitted` : every identified handler whose connection is up is there.

## Main results

* `admitting_step` : what an identification brings about.
* `admission` : runs in which all identifications come late enough.
* `not_admitted` : a run in which one comes too early.
-/

namespace Lcm

namespace Bridge

open Function (update update_self update_of_ne)

/-- An identifier is published by a handler that is in its map, and has the bridge as a subscriber.
What `update` finds under the number of an app is the handler of that app. -/
def Prompt (s : State) : Event → Prop
  | .identify c d _ => d ≠ 0 →
      (s.handler c).subscribed = true ∧ s.pending (s.handler c).kind (s.handler c).key = some c
  | .attach c => ∀ p, s.pending .app (s.handler c).key = some p → p = c
  | _ => True

instance (s : State) : (e : Event) → Decidable (Prompt s e)
  | .identify .. => inferInstanceAs (Decidable (_ ≠ _ → _ = true ∧ _))
  | .attach c =>
    match h : s.pending .app (s.handler c).key with
    | none => .isTrue fun p hp => by rw [h] at hp; cases hp
    | some p => decidable_of_iff (p = c) ⟨fun hpc q hq => by
        rw [h] at hq; exact (Option.some.inj hq).symm.trans hpc, fun hall => hall p h⟩
  | .accept _ | .subscribe _ | .insert _ | .exit _ | .register .. | .cleanPending .. |
    .cleanBridge .. => .isTrue trivial

/-- The place in `bridgeMap` for a handler with an identifier. -/
def Handler.home (h : Handler) : Place :=
  match h.kind with
  | .lcm => .lcm h.deviceId
  | .app => .app h.lcmDeviceIdFromDB

/-- Every handler whose connection is up, whose accept loop is done, and whose thread has published
an identifier, is in its place in `bridgeMap`, and in no other. -/
def Admitted (s : State) : Prop :=
  ∀ c < s.accepted, ¬ s.Accepting c → (s.handler c).deviceId ≠ 0 →
    (s.handler c).phase ≠ .lookedUp → (s.handler c).up = true →
      s.At c (s.handler c).home ∧ ∀ k key, s.pending k key ≠ some c

/-- What holds of a handler in each phase of its thread, if it is in the places `At`. -/
structure Handler.Admitting (h : Handler) (At : Place → Prop) : Prop where
  identifying : h.phase = .identifying → h.deviceId = 0
  lookedUp : h.phase = .lookedUp → h.kind = .app ∧
    (h.deviceId ≠ 0 → h.up = true → At (.pending .app h.key))
  forwarding : h.phase = .forwarding → h.up = true → At h.home

/-- It holds of all handlers. -/
structure Admitting (s : State) : Prop where
  books : ∃ place, Books s place
  handler : ∀ c < s.accepted, (s.handler c).Admitting (s.At c)

theorem Handler.home_ne_pending (h : Handler) (k : Kind) (key : Key) :
    h.home ≠ .pending k key := by
  unfold home
  split <;> exact nofun

section

variable {s s' : State} {e : Event}

theorem Admitting.admitted (h : Admitting s) : Admitted s := by
  rintro c hc - hdevice hphase hup
  obtain ⟨place, hb⟩ := h.books
  have hc := h.handler c hc
  have hforwarding : (s.handler c).phase = .forwarding := by
    have hended := ((Handler.up_iff _).1 hup).2
    cases hp : (s.handler c).phase with
    | identifying => exact absurd (hc.identifying hp) hdevice
    | lookedUp => exact absurd hp hphase
    | forwarding => rfl
    | ended => exact absurd hp hended
  have hat := hc.forwarding hforwarding hup
  exact ⟨hat, fun k key hpending =>
    (s.handler c).home_ne_pending k key (hb.at_unique hat hpending)⟩

/-- A thread that has ended knows nothing. -/
theorem Handler.Admitting.of_ended {h : Handler} {At : Place → Prop} (hended : h.phase = .ended) :
    h.Admitting At := by
  constructor <;> intro hphase <;> rw [hended] at hphase <;> cases hphase

/-- A handler that only loses its connection stays admitted, as long as it stays in its place. -/
theorem Handler.Admitting.passes {h g : Handler} {At At' : Place → Prop} (ha : h.Admitting At)
    (hg : h.Passes g)
    (hlooked : g.phase = .lookedUp → At (.pending .app h.key) → At' (.pending .app h.key))
    (hhome : g.phase = .forwarding → g.up = true → At h.home → At' h.home) : g.Admitting At' := by
  by_cases hconn : g.isConnected = true
  · have hphase := hg.phase hconn
    refine ⟨fun hp => ?_, fun hp => ⟨?_, fun hd hup => ?_⟩, fun hp hup => ?_⟩
    · rw [hg.deviceId]
      exact ha.identifying (hphase.symm.trans hp)
    · rw [hg.kind]
      exact (ha.lookedUp (hphase.symm.trans hp)).1
    · rw [hg.deviceId] at hd
      rw [hg.key]
      exact hlooked hp ((ha.lookedUp (hphase.symm.trans hp)).2 hd (hg.up hup))
    · have heq : g.home = h.home := by
        rw [home, hg.kind, hg.deviceId, hg.lcmDeviceIdFromDB]
        rfl
      rw [heq]
      exact hhome hp hup (ha.forwarding (hphase.symm.trans hp) (hg.up hup))
  · exact .of_ended (by simpa [Handler.isConnected] using hconn)

/-- A thread that goes on to forward has its handler in its place. -/
theorem Handler.admitting_proceed (h : Handler) {At : Place → Prop}
    (hhome : h.deviceId ≠ 0 → At h.home) : h.proceed.Admitting At := by
  by_cases hd : h.deviceId = 0
  · have hphase : h.proceed.phase = .identifying := if_pos hd
    refine ⟨fun _ => hd, fun hp => ?_, fun hp => ?_⟩ <;>
    · rw [hphase] at hp
      cases hp
  · have hphase : h.proceed.phase = .forwarding := if_neg hd
    refine ⟨fun hp => ?_, fun hp => ?_, fun _ _ => hhome hd⟩ <;>
    · rw [hphase] at hp
      cases hp

/-! ### Publications -/

/-- `update` finds the handler of an LCM, and gives it an element of `bridgeMap`. -/
theorem at_updateLCM_self {c p : ℕ} (ok : Bool) (hp : s.pending .lcm (s.handler c).key = some p)
    (hd : (s.handler c).deviceId ≠ 0) :
    (s.updateLCM c ok).At p (.lcm (s.handler c).deviceId) := by
  unfold State.updateLCM
  simp only [hp, hd, if_false]
  rw [State.at_recordStatus, State.at_setEntry, if_pos rfl]
  rfl

/-- `update` finds the handler of an app: it comes to the element of its LCM, or loses its
connection. -/
theorem at_attach_self {c : ℕ} (hc : s.pending .app (s.handler c).key = some c)
    (hup : ((s.attach c).handler c).up = true) :
    (s.attach c).At c (.app (s.handler c).lcmDeviceIdFromDB) := by
  have hstop {t : State} {g : Handler}
      (h : ((t.setHandler c g.stopReceiving).handler c).up = true) :
      False := by
    simp [State.setHandler, Handler.up, Handler.stopReceiving] at h
  have hpending : (s.setHandler c (s.handler c).proceed).pending .app (s.handler c).key = some c :=
    hc
  unfold State.attach at hup ⊢
  simp only [hpending] at hup ⊢
  split_ifs at hup ⊢ with hd
  · exact (hstop hup).elim
  · split at hup
    · exact (hstop hup).elim
    · rename_i entry hentry
      rw [State.at_setEntry, if_neg (by simp), if_pos rfl]
      exact ⟨_, rfl, List.mem_append_right _ (List.mem_singleton_self c)⟩

theorem handler_setHandler_self (s : State) (c : ℕ) (g : Handler) :
    (s.setHandler c g).handler c = g := update_self _ _ _

/-- The thread of a handler publishes an identification. -/
theorem admitting_identify {c : ℕ} {d : DeviceId} {ok : Bool}
    (hprompt : Prompt s (.identify c d ok)) :
    ((s.identify c d ok).handler c).Admitting ((s.identify c d ok).At c) := by
  have hid {At : Place → Prop} (hhome : d ≠ 0 → At ((s.handler c).identified d).home) :
      ((s.handler c).identified d).Admitting At := Handler.admitting_proceed _ hhome
  unfold State.identify
  dsimp only
  split
  · split
    · rename_i hkind
      have hkind : (s.handler c).kind = .lcm := hkind
      have hhome : ((s.handler c).identified d).home = .lcm d := by
        simp [Handler.home, hkind]
      have hpass := (s.setHandler c ((s.handler c).identified d)).passes_updateLCM c ok c
      have hself := at_updateLCM_self (s := s.setHandler c ((s.handler c).identified d)) (c := c)
        (p := c) ok
      rw [handler_setHandler_self] at hpass hself
      have hset : ((s.handler c).identified d).Admitting fun p => d ≠ 0 ∧ p = .lcm d :=
        hid fun hd => ⟨hd, hhome⟩
      refine hset.passes hpass (fun _ h => (by cases h.2)) fun _ _ h => ?_
      rw [hhome]
      exact hself (hkind ▸ (hprompt h.1).2) h.1
    · rename_i hkind
      have hkind : (s.handler c).kind = .app := hkind
      simp only [State.lookUp, handler_setHandler_self]
      exact ⟨(by intros; contradiction), fun _ => ⟨hkind, fun hd _ => hkind ▸ (hprompt hd).2⟩, (by intros; contradiction)⟩
  · rename_i hsub
    rw [handler_setHandler_self]
    exact hid fun hd => absurd (hprompt hd).1 hsub

/-- The thread of the handler of an app takes the locks. -/
theorem admitting_attach {c : ℕ} (ha : (s.handler c).Admitting (s.At c))
    (hphase : (s.handler c).phase = .lookedUp) :
    ((s.attach c).handler c).Admitting ((s.attach c).At c) := by
  obtain ⟨hkind, hwaiting⟩ := ha.lookedUp hphase
  have hhome : (s.handler c).home = .app (s.handler c).lcmDeviceIdFromDB := by
    simp [Handler.home, hkind]
  have hpass := s.passes_attach c c
  rw [handler_setHandler_self] at hpass
  have hset : (s.handler c).proceed.Admitting
      fun p => (s.handler c).deviceId ≠ 0 ∧ p = (s.handler c).home :=
    Handler.admitting_proceed _ fun hd => ⟨hd, rfl⟩
  refine hset.passes hpass (fun _ h => absurd h.2.symm (Handler.home_ne_pending _ _ _))
    fun _ hup h => ?_
  -- it was up before, and so it was waiting in its map
  have hopen : (s.handler c).up = true := by
    rw [Handler.up_iff]
    exact ⟨((Handler.up_iff _).1 (hpass.up hup)).1, by rw [hphase]; exact nofun⟩
  rw [h.2, hhome]
  exact at_attach_self (hwaiting h.1 hopen) hup

/-- **Every step keeps the identified handlers in their places**, if the identifications come late
enough. -/
theorem admitting_step (h : Admitting s) (hprompt : Prompt s e) (hstep : step s e = some s') :
    Admitting s' := by
  obtain ⟨place, hb⟩ := h.books
  refine ⟨books_step hb hstep, fun x hx => ?_⟩
  by_cases hid : ∃ d ok, e = .identify x d ok
  · obtain ⟨d, ok, rfl⟩ := hid
    obtain ⟨-, rfl⟩ := step_identify.1 hstep
    exact admitting_identify hprompt
  by_cases hattach : e = .attach x
  · subst hattach
    obtain ⟨⟨hlt, hphase⟩, rfl⟩ := step_attach.1 hstep
    exact admitting_attach (h.handler x hlt) hphase
  by_cases hlt : x < s.accepted
  · -- another thread's step: the handler stays where it is, or its thread has ended
    have hpass := passes_step hstep hlt (fun d ok heq => hid ⟨d, ok, heq⟩) hattach
    refine (h.handler x hlt).passes hpass (fun hp hat => ?_) fun hp _ hat => ?_
    · rcases at_step hstep hat with hat | ⟨-, hended⟩ | ⟨hmoves, -⟩
      · exact hat
      · rw [hp] at hended
        cases hended
      · cases e with
        | identify c d ok =>
          obtain ⟨-, heq⟩ := hmoves
          cases heq
        | attach c =>
          have hkey : (s.handler x).key = (s.handler c).key := by
            simpa [Moves] using hmoves
          have hpending : s.pending .app (s.handler c).key = some x := hkey ▸ hat
          exact absurd (congrArg Event.attach (hprompt x hpending).symm) hattach
        | accept | subscribe | insert | exit | register | cleanPending | cleanBridge =>
          exact hmoves.elim
    · rcases at_step hstep hat with hat | ⟨-, hended⟩ | ⟨hmoves, -⟩
      · exact hat
      · rw [hp] at hended
        cases hended
      · cases e with
        | identify c d ok => exact absurd hmoves.2 (Handler.home_ne_pending _ _ _)
        | attach c => exact absurd hmoves (Handler.home_ne_pending _ _ _)
        | accept | subscribe | insert | exit | register | cleanPending | cleanBridge =>
          exact hmoves.elim
  · -- a new handler has not been identified
    cases e with
    | accept k =>
      obtain ⟨-, rfl⟩ := step_accept.1 hstep
      obtain rfl : x = s.accepted := by
        have hx : x < s.accepted + 1 := hx
        omega
      have hnew : (s.accept k).handler s.accepted =
          { kind := k, handlerId := s.nextHandlerId k } := update_self _ _ _
      rw [hnew]
      exact ⟨fun _ => rfl, nofun, nofun⟩
    | subscribe | insert | identify | attach | exit | register | cleanPending | cleanBridge =>
      rw [(shrinks_step hstep (by simp)).accepted] at hx
      exact absurd hx hlt

theorem admitting_start (db ok : Bool) (devices : DeviceId → Option Bool)
    (apps : DeviceId → Option DeviceId) : Admitting (State.start db ok devices apps) :=
  ⟨⟨_, books_start db ok devices apps⟩, fun c hc => absurd hc (Nat.not_lt_zero c)⟩

end

/-- **The admission of connections.**  In a run in which every identification is published when the
accept loop is done, the handlers that are identified are in their places, or have lost their
connection. -/
theorem admission {db ok : Bool} {devices : DeviceId → Option Bool}
    {apps : DeviceId → Option DeviceId} {es : List Event}
    (h : bridge.AllSteps Prompt (State.start db ok devices apps) es) :
    bridge.AllStates Admitted (State.start db ok devices apps) es :=
  (Machine.allStates_of_allSteps (fun _ _ _ => admitting_step)
    (admitting_start db ok devices apps) h).imp fun _ => Admitting.admitted

/-- An LCM and an app that wait until their accept loops are done. -/
theorem admission_example : bridge.AllStates Admitted
    (State.start true true (fun _ => none) fun _ => none)
    [.register 9 5 true true,
      .accept .lcm, .subscribe .lcm, .insert .lcm, .identify 0 5 true,
      .accept .app, .subscribe .app, .insert .app, .identify 1 9 true, .attach 1] :=
  admission (by decide)

/-- An LCM whose identification comes before the bridge subscribes is not admitted, and keeps its
connection. -/
theorem not_admitted : ¬ ∀ es, bridge.AllStates Admitted
    (State.start true true (fun _ => none) fun _ => none) es := by
  intro h
  have hadmitted := (h [.accept .lcm, .identify 0 5 true, .subscribe .lcm, .insert .lcm]).of_run rfl
  obtain ⟨hat, -⟩ := hadmitted 0 (by decide) (by rintro ⟨k, hk⟩; cases k <;> cases hk) (by decide)
    (by decide) (by decide)
  cases hat

end Bridge

end Lcm
