import Lcm.Bridge.Handlers

/-!
# Where the handlers are

Every handler that the accept loops have finished with is in exactly one place of the three maps,
until it is taken out and freed, which happens once.  This holds in every reachable state, whatever
the order of steps.

The proof keeps a book of where each handler is.  All that the steps do to the maps is to take
handlers out and free them (`Books.evict`), or to move one handler (`Books.move`).

## Main definitions

* `Place`, `State.At` : a place in the maps, and a handler being there.
* `Books` : the maps agree with a book.
* `Accounted` : each handler is in one place, or has been freed.

## Main results

* `books_step` : every step keeps the books.
* `Books.accounted` : what they say of the handlers.
-/

namespace Lcm

namespace Bridge

open Function (update update_self update_of_ne)

/-! ### Frames -/

namespace Handler

variable (h : Handler)

@[simp] theorem kind_stopReceiving : h.stopReceiving.kind = h.kind := rfl
@[simp] theorem frees_stopReceiving : h.stopReceiving.frees = h.frees := rfl
@[simp] theorem kind_free : h.free.kind = h.kind := rfl
@[simp] theorem frees_free : h.free.frees = h.frees + 1 := rfl
@[simp] theorem kind_proceed : h.proceed.kind = h.kind := rfl
@[simp] theorem frees_proceed : h.proceed.frees = h.frees := rfl
@[simp] theorem kind_identified (d : DeviceId) : (h.identified d).kind = h.kind := rfl
@[simp] theorem key_identified (d : DeviceId) : (h.identified d).key = h.key := rfl
@[simp] theorem deviceId_identified (d : DeviceId) : (h.identified d).deviceId = d := rfl
@[simp] theorem subscribed_identified (d : DeviceId) :
    (h.identified d).subscribed = h.subscribed := rfl

end Handler

namespace State

variable (s : State)

theorem handler_release (cs : List ℕ) (c : ℕ) :
    (s.release cs).handler c = if c ∈ cs then (s.handler c).free else s.handler c := rfl

@[simp] theorem kind_release (cs : List ℕ) (c : ℕ) :
    ((s.release cs).handler c).kind = (s.handler c).kind := by
  rw [handler_release]
  split <;> rfl

theorem recordStatus_eq (d : DeviceId) (status : Option Bool) (ok : Bool) :
    s.recordStatus d status ok =
      { s with devices := if s.db && ok then update s.devices d status else s.devices } := by
  unfold recordStatus
  split <;> rfl

end State

/-! ### Places -/

/-- A place in the maps of the bridge. -/
inductive Place
  | pending (k : Kind) (key : Key)
  | lcm (d : DeviceId)
  | app (d : DeviceId)
  deriving DecidableEq

/-- The handler is in the place. -/
def State.At (s : State) (c : ℕ) : Place → Prop
  | .pending k key => s.pending k key = some c
  | .lcm d => (s.bridgeMap d).map Entry.lcmSocket = some c
  | .app d => ∃ entry, s.bridgeMap d = some entry ∧ c ∈ entry.appSockets

/-- The handler is in one of the maps. -/
def State.Held (s : State) (c : ℕ) : Prop := ∃ p, s.At c p

/-- The handler is held by an accept loop. -/
def State.Accepting (s : State) (c : ℕ) : Prop := ∃ k, s.accepting k = some c

/-- The maps agree with the book `place`, and a handler has been freed if it is nowhere. -/
structure Books (s : State) (place : ℕ → Option Place) : Prop where
  at_iff : ∀ c p, s.At c p ↔ place c = some p
  nodup : ∀ d entry, s.bridgeMap d = some entry → entry.appSockets.Nodup
  lt : ∀ c p, place c = some p → c < s.accepted
  accepting : ∀ k c, s.accepting k = some c →
    c < s.accepted ∧ (s.handler c).kind = k ∧ place c = none ∧ (s.handler c).frees = 0
  frees : ∀ c, c < s.accepted → ¬ s.Accepting c →
    (s.handler c).frees = if (place c).isSome then 0 else 1

/-- Every handler the accept loops have finished with is in exactly one place and has not been
freed, or in none and has been freed once. -/
def Accounted (s : State) : Prop :=
  ∀ c, c < s.accepted → ¬ s.Accepting c →
    (∃! p, s.At c p) ∧ (s.handler c).frees = 0 ∨ ¬ s.Held c ∧ (s.handler c).frees = 1

section

variable {s : State} {place : ℕ → Option Place}

theorem Books.accounted (h : Books s place) : Accounted s := by
  intro c hc hacc
  have hfrees := h.frees c hc hacc
  cases hp : place c with
  | none =>
    refine .inr ⟨?_, by simpa [hp] using hfrees⟩
    rintro ⟨p, hat⟩
    rw [h.at_iff, hp] at hat
    cases hat
  | some p =>
    refine .inl ⟨⟨p, (h.at_iff c p).2 hp, fun q (hq : s.At c q) => ?_⟩, by simpa [hp] using hfrees⟩
    rw [h.at_iff, hp] at hq
    exact (Option.some.inj hq).symm

/-- The books do not depend on the database, nor on what else changes in a handler. -/
theorem Books.congr (h : Books s place) {s' : State} (hacc : s'.accepted = s.accepted)
    (haccepting : s'.accepting = s.accepting) (hpending : s'.pending = s.pending)
    (hbridge : s'.bridgeMap = s.bridgeMap)
    (hkind : ∀ c, (s'.handler c).kind = (s.handler c).kind)
    (hfrees : ∀ c, (s'.handler c).frees = (s.handler c).frees) : Books s' place where
  at_iff c p := by
    rw [← h.at_iff]
    cases p <;> simp only [State.At, hpending, hbridge]
  nodup d entry he := h.nodup d entry (hbridge ▸ he)
  lt c p hp := hacc ▸ h.lt c p hp
  accepting k c hc := by
    rw [hacc, hkind, hfrees]
    exact h.accepting k c (haccepting ▸ hc)
  frees c hc hn := by
    rw [hfrees]
    refine h.frees c (hacc ▸ hc) ?_
    rintro ⟨k, hk⟩
    exact hn ⟨k, haccepting ▸ hk⟩

/-- A handler changes, but not its kind. -/
theorem Books.setHandler (h : Books s place) (c : ℕ) {g : Handler}
    (hkind : g.kind = (s.handler c).kind) (hfrees : g.frees = (s.handler c).frees) :
    Books (s.setHandler c g) place := by
  refine h.congr rfl rfl rfl rfl (fun x => ?_) (fun x => ?_) <;>
  · by_cases hx : x = c
    · subst hx
      simpa [State.setHandler]
    · simp [State.setHandler, update_of_ne hx]

/-- **Some handlers are taken out of the maps and freed.** -/
theorem Books.evict (h : Books s place) {cs : List ℕ} (hcs : ∀ c ∈ cs, (place c).isSome)
    {s' : State} (hhandler : s'.handler = (s.release cs).handler)
    (hacc : s'.accepted = s.accepted) (haccepting : s'.accepting = s.accepting)
    (hat : ∀ c p, s'.At c p ↔ c ∉ cs ∧ s.At c p)
    (hnodup : ∀ d entry, s'.bridgeMap d = some entry → entry.appSockets.Nodup) :
    Books s' fun c => if c ∈ cs then none else place c where
  at_iff c p := by
    rw [hat, h.at_iff]
    split <;> simp_all
  nodup := hnodup
  lt c p hp := by
    split at hp
    · cases hp
    · exact hacc ▸ h.lt c p hp
  accepting k c hc := by
    obtain ⟨hlt, hkind, hplace, hfrees⟩ := h.accepting k c (haccepting ▸ hc)
    have hmem : c ∉ cs := fun hmem => by simpa [hplace] using hcs c hmem
    rw [hacc, hhandler, State.handler_release, if_neg hmem, if_neg hmem]
    exact ⟨hlt, hkind, hplace, hfrees⟩
  frees c hc hn := by
    have hn : ¬ s.Accepting c := by rwa [State.Accepting, haccepting] at hn
    have hfrees := h.frees c (hacc ▸ hc) hn
    rw [hhandler, State.handler_release]
    by_cases hmem : c ∈ cs
    · rw [if_pos hmem, if_pos hmem, Handler.frees_free, hfrees, if_pos (hcs c hmem)]
      rfl
    · rw [if_neg hmem, if_neg hmem, hfrees]

/-- **A handler is moved** from one place of the maps to another. -/
theorem Books.move (h : Books s place) {c : ℕ} (hc : (place c).isSome) (q : Place) {s' : State}
    (hhandler : s'.handler = s.handler) (hacc : s'.accepted = s.accepted)
    (haccepting : s'.accepting = s.accepting)
    (hat : ∀ x p, s'.At x p ↔ if x = c then q = p else s.At x p)
    (hnodup : ∀ d entry, s'.bridgeMap d = some entry → entry.appSockets.Nodup) :
    Books s' (update place c (some q)) where
  at_iff x p := by
    rw [hat]
    by_cases hx : x = c
    · subst hx
      simp
    · rw [if_neg hx, update_of_ne hx, h.at_iff]
  nodup := hnodup
  lt x p hp := by
    rw [hacc]
    by_cases hx : x = c
    · subst hx
      obtain ⟨p', hp'⟩ := Option.isSome_iff_exists.1 hc
      exact h.lt x p' hp'
    · rw [update_of_ne hx] at hp
      exact h.lt x p hp
  accepting k x hx := by
    obtain ⟨hlt, hkind, hplace, hfrees⟩ := h.accepting k x (haccepting ▸ hx)
    have hne : x ≠ c := by
      rintro rfl
      simp [hplace] at hc
    rw [hacc, hhandler, update_of_ne hne]
    exact ⟨hlt, hkind, hplace, hfrees⟩
  frees x hx hn := by
    have hn : ¬ s.Accepting x := by rwa [State.Accepting, haccepting] at hn
    rw [hhandler, h.frees x (hacc ▸ hx) hn]
    by_cases hxc : x = c
    · subst hxc
      simp [hc]
    · rw [update_of_ne hxc]

/-! ### What the steps do to the maps -/

theorem State.at_release (s : State) (cs : List ℕ) (c : ℕ) (p : Place) :
    (s.release cs).At c p ↔ s.At c p := by
  cases p <;> rfl

theorem State.at_setPending (s : State) (k : Kind) (key : Key) (v : Option ℕ) (c : ℕ) (p : Place) :
    (s.setPending k key v).At c p ↔
      if p = .pending k key then v = some c else s.At c p := by
  cases p with
  | pending k' key' =>
    by_cases hk : k' = k
    · subst hk
      by_cases hkey : key' = key
      · subst hkey
        simp [State.At, State.setPending]
      · simp [State.At, State.setPending, hkey]
    · simp [State.At, State.setPending, hk]
  | lcm d => simp [State.At, State.setPending]
  | app d => simp [State.At, State.setPending]

theorem State.at_setEntry (s : State) (d : DeviceId) (v : Option Entry) (c : ℕ) (p : Place) :
    (s.setEntry d v).At c p ↔
      if p = .lcm d then v.map Entry.lcmSocket = some c
      else if p = .app d then ∃ entry, v = some entry ∧ c ∈ entry.appSockets
      else s.At c p := by
  cases p with
  | pending k key => simp [State.At, State.setEntry]
  | lcm d' =>
    by_cases hd : d' = d
    · subst hd
      simp [State.At, State.setEntry]
    · simp [State.At, State.setEntry, hd]
  | app d' =>
    by_cases hd : d' = d
    · subst hd
      simp [State.At, State.setEntry]
    · simp [State.At, State.setEntry, hd]

theorem State.mem_entryHandlers (s : State) (d : DeviceId) (c : ℕ) :
    c ∈ s.entryHandlers d ↔ s.At c (.lcm d) ∨ s.At c (.app d) := by
  cases hd : s.bridgeMap d with
  | none => simp [State.entryHandlers, State.At, hd]
  | some entry => simp [State.entryHandlers, State.At, hd, Entry.handlers, eq_comm]

theorem Books.at_unique (h : Books s place) {c : ℕ} {p q : Place} (hp : s.At c p)
    (hq : s.At c q) : p = q := by
  rw [h.at_iff] at hp hq
  exact Option.some.inj (hp.symm.trans hq)

/-- An element of `lcmHandlers` or `appHandlers` is erased, and its handler freed. -/
theorem Books.evictPending (h : Books s place) {k : Kind} {key : Key} {c : ℕ}
    (hc : s.pending k key = some c) :
    Books ((s.release [c]).setPending k key none) fun x => if x ∈ [c] then none else place x := by
  have hat : s.At c (.pending k key) := hc
  refine h.evict ?_ rfl rfl rfl (fun x p => ?_) h.nodup
  · intro x hx
    rw [List.mem_singleton.1 hx, (h.at_iff c _).1 hat]
    rfl
  · rw [State.at_setPending, State.at_release, List.mem_singleton]
    split
    · subst p
      have hx : s.At x (.pending k key) ↔ x = c := by simp [State.At, hc, eq_comm]
      simp [hx]
    · rename_i hp
      refine ⟨fun hx => ⟨?_, hx⟩, And.right⟩
      rintro rfl
      exact hp (h.at_unique hx hat)

/-- An element of `bridgeMap` is erased, and its handlers freed. -/
theorem Books.evictEntry (h : Books s place) (d : DeviceId) :
    Books ((s.release (s.entryHandlers d)).setEntry d none)
      fun x => if x ∈ s.entryHandlers d then none else place x := by
  refine h.evict ?_ rfl rfl rfl (fun x p => ?_) (fun d' entry hentry => ?_)
  · intro x hx
    rcases (s.mem_entryHandlers d x).1 hx with hx | hx <;>
    · rw [h.at_iff] at hx
      simp [hx]
  · rw [State.at_setEntry, State.at_release, State.mem_entryHandlers]
    by_cases hlcm : p = .lcm d
    · subst hlcm
      rw [if_pos rfl]
      exact ⟨nofun, fun hx => absurd (.inl hx.2) hx.1⟩
    by_cases happ : p = .app d
    · subst happ
      simp
    rw [if_neg hlcm, if_neg happ]
    refine ⟨fun hx => ⟨?_, hx⟩, And.right⟩
    rintro (hx' | hx')
    · exact hlcm (h.at_unique hx hx')
    · exact happ (h.at_unique hx hx')
  · by_cases hd : d' = d
    · subst hd
      simp [State.setEntry] at hentry
    · exact h.nodup d' entry (by simpa [State.setEntry, State.release, hd] using hentry)

/-- Some apps of an element of `bridgeMap` are erased, and freed. -/
theorem Books.evictApps (h : Books s place) {d : DeviceId} {entry : Entry}
    (hentry : s.bridgeMap d = some entry) (gone : ℕ → Bool) :
    Books ((s.release (entry.appSockets.filter gone)).setEntry d
        (some { entry with appSockets := entry.appSockets.filter fun c => !gone c }))
      fun x => if x ∈ entry.appSockets.filter gone then none else place x := by
  have happ (x : ℕ) : s.At x (.app d) ↔ x ∈ entry.appSockets := by simp [State.At, hentry]
  refine h.evict ?_ rfl rfl rfl (fun x p => ?_) (fun d' entry' hentry' => ?_)
  · intro x hx
    have hx := (happ x).2 (List.mem_of_mem_filter hx)
    rw [h.at_iff] at hx
    simp [hx]
  · rw [State.at_setEntry, State.at_release]
    by_cases hpapp : p = .app d
    · subst hpapp
      simp only [reduceCtorEq, if_false, if_true, happ, List.mem_filter, Option.some.injEq,
        exists_eq_left', Bool.not_eq_true']
      cases gone x <;> simp
    have hleft : s.At x p → x ∉ entry.appSockets.filter gone := fun hx hmem =>
      hpapp (h.at_unique hx ((happ x).2 (List.mem_of_mem_filter hmem)))
    by_cases hlcm : p = .lcm d
    · subst hlcm
      have hx : s.At x (.lcm d) ↔ some entry.lcmSocket = some x := by simp [State.At, hentry]
      rw [if_pos rfl, hx]
      exact ⟨fun heq => ⟨hleft (hx.2 heq), heq⟩, And.right⟩
    · rw [if_neg hlcm, if_neg hpapp]
      exact ⟨fun hx => ⟨hleft hx, hx⟩, And.right⟩
  · by_cases hd : d' = d
    · subst hd
      obtain rfl : _ = entry' := by simpa [State.setEntry] using hentry'
      exact (h.nodup d' entry hentry).filter _
    · exact h.nodup d' entry' (by simpa [State.setEntry, State.release, hd] using hentry')

/-- The handler of an LCM moves from `lcmHandlers` to a new element of `bridgeMap`. -/
theorem Books.moveLCM (h : Books s place) {key : Key} {p : ℕ} {d : DeviceId}
    (hp : s.pending .lcm key = some p) (hd : s.bridgeMap d = none) :
    Books ((s.setPending .lcm key none).setEntry d (some ⟨p, []⟩))
      (update place p (some (.lcm d))) := by
  have hat : s.At p (.pending .lcm key) := hp
  refine h.move ?_ _ rfl rfl rfl (fun x q => ?_) (fun d' entry hentry => ?_)
  · rw [(h.at_iff p _).1 hat]
    rfl
  · rw [State.at_setEntry, State.at_setPending]
    by_cases hlcm : q = .lcm d
    · subst hlcm
      by_cases hx : x = p
      · simp [hx]
      · simp [hx, State.At, hd, Ne.symm hx]
    by_cases happ : q = .app d
    · subst happ
      by_cases hx : x = p
      · simp [hx]
      · simp [hx, State.At, hd]
    by_cases hx : x = p
    · subst hx
      have hne : s.At x q ↔ q = .pending .lcm key :=
        ⟨fun hq => h.at_unique hq hat, fun hq => hq ▸ hat⟩
      by_cases hq : q = .pending .lcm key
      · simp [hq]
      · simp [hlcm, happ, hq, hne, Ne.symm hlcm]
    · by_cases hq : q = .pending .lcm key
      · subst hq
        simp [hx, State.At, hp, Ne.symm hx]
      · simp [hlcm, happ, hq, hx]
  · by_cases hd' : d' = d
    · subst hd'
      obtain rfl : _ = entry := by simpa [State.setEntry] using hentry
      exact List.nodup_nil
    · exact h.nodup d' entry (by simpa [State.setEntry, State.setPending, hd'] using hentry)

/-- The handler of an app moves from `appHandlers` to an element of `bridgeMap`. -/
theorem Books.moveApp (h : Books s place) {key : Key} {p : ℕ} {d : DeviceId} {entry : Entry}
    (hp : s.pending .app key = some p) (hd : s.bridgeMap d = some entry) :
    Books ((s.setPending .app key none).setEntry d
        (some { entry with appSockets := entry.appSockets ++ [p] }))
      (update place p (some (.app d))) := by
  have hat : s.At p (.pending .app key) := hp
  have happ (x : ℕ) : s.At x (.app d) ↔ x ∈ entry.appSockets := by simp [State.At, hd]
  have hlcm (x : ℕ) : s.At x (.lcm d) ↔ entry.lcmSocket = x := by simp [State.At, hd]
  have hunique {q : Place} (hq : s.At p q) : q = .pending .app key := h.at_unique hq hat
  have hfresh : p ∉ entry.appSockets := fun hmem => nomatch hunique ((happ p).2 hmem)
  refine h.move ?_ _ rfl rfl rfl (fun x q => ?_) (fun d' entry' hentry => ?_)
  · rw [(h.at_iff p _).1 hat]
    rfl
  · rw [State.at_setEntry, State.at_setPending]
    by_cases hqapp : q = .app d
    · subst hqapp
      by_cases hx : x = p
      · simp [hx]
      · simp [hx, happ]
    by_cases hqlcm : q = .lcm d
    · subst hqlcm
      by_cases hx : x = p
      · subst hx
        have hne : entry.lcmSocket ≠ x := fun heq => nomatch hunique ((hlcm x).2 heq)
        simp [hne]
      · simp [hx, hlcm]
    by_cases hx : x = p
    · subst hx
      by_cases hq : q = .pending .app key
      · simp [hq]
      · have hne : ¬ s.At x q := fun hat' => hq (hunique hat')
        simp [hqlcm, hqapp, hq, hne, Ne.symm hqapp]
    · by_cases hq : q = .pending .app key
      · subst hq
        simp [hx, State.At, hp, Ne.symm hx]
      · simp [hqlcm, hqapp, hq, hx]
  · by_cases hd' : d' = d
    · subst hd'
      obtain rfl : _ = entry' := by simpa [State.setEntry] using hentry
      exact List.nodup_append.2 ⟨h.nodup d' entry hd, List.nodup_singleton p, by
        rintro x hx y hy rfl
        exact hfresh (List.mem_singleton.1 hy ▸ hx)⟩
    · exact h.nodup d' entry' (by simpa [State.setEntry, State.setPending, hd'] using hentry)

/-- A handler moves from an accept loop to a place in `lcmHandlers` or `appHandlers` that is
free. -/
theorem Books.moveAccepted (h : Books s place) {k : Kind} {key : Key} {c : ℕ}
    (hc : s.accepting k = some c) (hkey : s.pending k key = none) :
    Books { s.setPending k key (some c) with accepting := update s.accepting k none }
      (update place c (some (.pending k key))) := by
  obtain ⟨hlt, hkind, hplace, hfrees⟩ := h.accepting k c hc
  have hother {k' : Kind} {x : ℕ} (hx : update s.accepting k none k' = some x) :
      k' ≠ k ∧ s.accepting k' = some x := by
    by_cases hk : k' = k
    · subst hk
      simp at hx
    · exact ⟨hk, by simpa [hk] using hx⟩
  have hne {k' : Kind} {x : ℕ} (hk : k' ≠ k) (hx : s.accepting k' = some x) : x ≠ c := by
    rintro rfl
    exact hk ((h.accepting k' x hx).2.1.symm.trans hkind)
  refine ⟨fun x q => ?_, h.nodup, fun x q hq => ?_, fun k' x hx => ?_, fun x hx hn => ?_⟩
  · change (s.setPending k key (some c)).At x q ↔ _
    rw [State.at_setPending]
    by_cases hxc : x = c
    · subst hxc
      have hnot : ¬ s.At x q := by simp [h.at_iff, hplace]
      by_cases hq : q = .pending k key
      · simp [hq]
      · simp [hq, hnot, Ne.symm hq]
    · rw [update_of_ne hxc, ← h.at_iff]
      by_cases hq : q = .pending k key
      · subst hq
        simp [State.At, hkey, Ne.symm hxc]
      · rw [if_neg hq]
  · by_cases hxc : x = c
    · subst hxc
      exact hlt
    · exact h.lt x q (by simpa [hxc] using hq)
  · obtain ⟨hk, hx⟩ := hother hx
    rw [update_of_ne (hne hk hx)]
    exact h.accepting k' x hx
  · by_cases hxc : x = c
    · subst hxc
      rw [update_self]
      exact hfrees
    · rw [update_of_ne hxc]
      refine h.frees x hx ?_
      rintro ⟨k', hx'⟩
      have hk : k' ≠ k := by
        rintro rfl
        exact hxc (Option.some.inj (hx'.symm.trans hc))
      exact hn ⟨k', by simpa [hk] using hx'⟩

/-! ### Every step keeps the books -/

theorem Books.recordStatus (h : Books s place) (d : DeviceId) (status : Option Bool) (ok : Bool) :
    Books (s.recordStatus d status ok) place := by
  rw [State.recordStatus_eq]
  exact h.congr rfl rfl rfl rfl (fun _ => rfl) (fun _ => rfl)

theorem Books.accept (h : Books s place) {k : Kind} (hk : s.accepting k = none) :
    Books (s.accept k) place := by
  have hnew : place s.accepted = none := by
    cases hp : place s.accepted with
    | none => rfl
    | some p => exact absurd (h.lt _ p hp) (Nat.lt_irrefl _)
  have hold {c : ℕ} (hc : c ≠ s.accepted) : (s.accept k).handler c = s.handler c :=
    update_of_ne hc _ _
  refine ⟨fun c p => ?_, h.nodup, fun c p hp => Nat.lt_succ_of_lt (h.lt c p hp),
    fun k' c hc => ?_, fun c hc hn => ?_⟩
  · rw [← h.at_iff]
    cases p <;> rfl
  · by_cases hk' : k' = k
    · subst hk'
      obtain rfl : s.accepted = c := by simpa [State.accept] using hc
      have hhandler : (s.accept k').handler s.accepted =
          { kind := k', handlerId := s.nextHandlerId k' } := update_self _ _ _
      rw [hhandler]
      exact ⟨Nat.lt_succ_self _, rfl, hnew, rfl⟩
    · have hc : s.accepting k' = some c := by simpa [State.accept, hk'] using hc
      have hlt := (h.accepting k' c hc).1
      rw [hold (Nat.ne_of_lt hlt)]
      exact ⟨Nat.lt_succ_of_lt hlt, (h.accepting k' c hc).2⟩
  · have hne : c ≠ s.accepted := by
      rintro rfl
      exact hn ⟨k, update_self _ _ _⟩
    rw [hold hne]
    refine h.frees c (Nat.lt_of_le_of_ne (Nat.lt_succ_iff.1 hc) hne) ?_
    rintro ⟨k', hk'⟩
    have hkk : k' ≠ k := by
      rintro rfl
      rw [hk] at hk'
      cases hk'
    exact hn ⟨k', by simpa [State.accept, hkk] using hk'⟩

theorem Books.insert (h : Books s place) {k : Kind} {c : ℕ} (hc : s.accepting k = some c) :
    ∃ place', Books (s.insert k c) place' := by
  unfold State.insert
  dsimp only
  generalize (s.handler c).key = key
  cases hold : s.pending k key with
  | none => exact ⟨_, h.moveAccepted hc hold⟩
  | some old =>
    have heq : { (s.release [old]).setPending k key (some c) with
          accepting := update s.accepting k none } =
        { ((s.release [old]).setPending k key none).setPending k key (some c) with
          accepting := update s.accepting k none } := by
      simp [State.setPending]
    change ∃ place', Books { (s.release [old]).setPending k key (some c) with
          accepting := update s.accepting k none } place'
    rw [heq]
    exact ⟨_, (h.evictPending hold).moveAccepted hc (by simp [State.setPending])⟩

theorem Books.updateLCM (h : Books s place) (c : ℕ) (ok : Bool) :
    ∃ place', Books (s.updateLCM c ok) place' := by
  unfold State.updateLCM
  dsimp only
  generalize (s.handler c).deviceId = d
  cases hp : s.pending .lcm (s.handler c).key with
  | none => exact ⟨place, h⟩
  | some p =>
    dsimp only
    split_ifs with hd
    · exact ⟨place, h.setHandler p rfl rfl⟩
    · -- the old element of the map goes first, and then the handler takes its place
      have hmove := (h.evictEntry d).moveLCM (d := d) hp (update_self _ _ _)
      refine ⟨_, Books.recordStatus (s := ((s.setPending .lcm _ none).release _).setEntry d _)
        (hmove.congr rfl rfl rfl ?_ (fun _ => rfl) fun _ => rfl) d (some true) ok⟩
      simp [State.setEntry, State.setPending, State.release]

theorem Books.attach (h : Books s place) (c : ℕ) : ∃ place', Books (s.attach c) place' := by
  have h' := h.setHandler c (Handler.kind_proceed (s.handler c)) (Handler.frees_proceed _)
  unfold State.attach
  dsimp only
  split
  · exact ⟨place, h'⟩
  · rename_i p hp
    split_ifs with hd
    · exact ⟨place, h'.setHandler p rfl rfl⟩
    · split
      · exact ⟨place, h'.setHandler p rfl rfl⟩
      · rename_i entry hentry
        exact ⟨_, h'.moveApp hp hentry⟩

theorem Books.identify (h : Books s place) (c : ℕ) (d : DeviceId) (ok : Bool) :
    ∃ place', Books (s.identify c d ok) place' := by
  have h' : Books (s.setHandler c ((s.handler c).identified d)) place :=
    h.setHandler c rfl rfl
  unfold State.identify
  dsimp only
  split
  · split
    · exact h'.updateLCM c ok
    · exact ⟨place, h'.setHandler c rfl rfl⟩
  · exact ⟨place, h'⟩

theorem Books.cleanBridge (h : Books s place) {d : DeviceId} {entry : Entry}
    (hentry : s.bridgeMap d = some entry) (ok : Bool) :
    ∃ place', Books (s.cleanBridge d entry ok) place' := by
  unfold State.cleanBridge
  dsimp only
  split
  · have hgone := h.evictApps hentry fun c => !(s.handler c).isConnected
    simp only [Bool.not_not] at hgone
    exact ⟨_, hgone⟩
  · have hhandlers : entry.handlers = s.entryHandlers d := by simp [State.entryHandlers, hentry]
    rw [hhandlers]
    exact ⟨_, (h.evictEntry d).recordStatus _ _ _⟩

/-- **Every step keeps the books**, whatever it does. -/
theorem books_step {e : Event} {s' : State} (h : Books s place) (hstep : step s e = some s') :
    ∃ place', Books s' place' := by
  cases e with
  | accept k =>
    obtain ⟨hk, rfl⟩ := step_accept.1 hstep
    exact ⟨place, h.accept hk⟩
  | subscribe k =>
    obtain ⟨c, -, -, rfl⟩ := step_subscribe.1 hstep
    exact ⟨place, h.setHandler c rfl rfl⟩
  | insert k =>
    obtain ⟨c, hc, -, rfl⟩ := step_insert.1 hstep
    exact h.insert hc
  | identify c d ok =>
    obtain ⟨-, rfl⟩ := step_identify.1 hstep
    exact h.identify c d ok
  | attach c =>
    obtain ⟨-, rfl⟩ := step_attach.1 hstep
    exact h.attach c
  | exit c =>
    obtain ⟨-, rfl⟩ := step_exit.1 hstep
    exact ⟨place, h.setHandler c rfl rfl⟩
  | register appId lcmId okDevice okApp =>
    obtain rfl := step_register.1 hstep
    refine ⟨place, ?_⟩
    unfold State.updateRegistration
    dsimp only
    have h' := h.recordStatus lcmId (some ((s.devices lcmId).getD false)) okDevice
    split
    · exact h'.congr rfl rfl rfl rfl (fun _ => rfl) (fun _ => rfl)
    · exact h'
  | cleanPending k key =>
    obtain ⟨c, hc, rfl⟩ := step_cleanPending.1 hstep
    unfold State.cleanPending
    split
    · exact ⟨place, h⟩
    · exact ⟨_, h.evictPending hc⟩
  | cleanBridge d ok =>
    obtain ⟨entry, hentry, rfl⟩ := step_cleanBridge.1 hstep
    exact h.cleanBridge hentry ok

end

theorem books_start (db ok : Bool) (devices : DeviceId → Option Bool)
    (apps : DeviceId → Option DeviceId) : Books (State.start db ok devices apps) fun _ => none where
  at_iff c p := by cases p <;> simp [State.At, State.start]
  nodup d entry hentry := by simp [State.start] at hentry
  lt c p hp := nomatch hp
  accepting k c hc := nomatch hc
  frees c hc := absurd hc (Nat.not_lt_zero c)

end Bridge

end Lcm
