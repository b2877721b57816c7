import Lcm.Messages
import Lcm.Run.Basic
import Mathlib.Data.List.Nodup
import Mathlib.Logic.Function.Basic

/-!
# What the bridge forwards

The thread of a handler reads what there is, up to 1024 bytes, and sends it to one handle after the
other.  A handle that cannot be written to is taken out of the list; how much of the bytes a write
has taken is not looked at.  The handlers of several apps send to the handle of one LCM, each from
a thread of its own.

An event is a call of `recv` or `send` (`SSL_read` or `SSL_write`), or that an app is bridged.  How
many bytes are read and taken is part of the event.  All connections of a bridge are of one kind,
so that one of the two lists of handles is empty; the other one is `bridged`.

Beside the state of the threads there is a record of what was read from each party, and of what was
delivered to each party and by whom.

## Main definitions

* `Party`, `Thread`, `Traffic` : the connections, the forwarding loops, and the record.
* `forward` : the machine.
* `Intact` : what is delivered is cut into messages as they were sent.
* `Whole` : a write takes all bytes, and does not come inside a message of another party.

## Main results

* `forwarding_step` : what the threads have sent and still have in hand.
* `intact_run` : runs in which all writes are whole.
* `not_intact_run` : a run in which one app sends inside the message of another.
-/

namespace Lcm

namespace Bridge

open Function (update update_self update_of_ne)

/-- A connection: that of an LCM, or of one of the apps. -/
inductive Party
  | lcm
  | app (n : ℕ)
  deriving DecidableEq

/-- A byte of a stream. -/
abbrev Octet := BitVec 8

/-- The end of a message. -/
def nul : Octet := 0

/-- `MAX_MESSAGE_SIZE` -/
def maxMessageSize : ℕ := 1024

/-- The forwarding loop of a handler. -/
structure Thread where
  /-- `bridgedSocketHandles` or `bridgedSSLHandles` -/
  bridged : List Party := []
  /-- The bytes that were read and the position in the list, while they are being sent. -/
  inHand : Option (List Octet × ℕ) := none

/-- `addBridgedSocketHandle` -/
def Thread.addBridgedSocketHandle (t : Thread) (q : Party) : Thread :=
  { t with bridged := if q ∈ t.bridged then t.bridged else t.bridged ++ [q] }

/-- The bytes in hand. -/
def Thread.chunk (t : Thread) : List Octet := t.inHand.elim [] Prod.fst

/-- The bytes the loop is about to send, with the position in the list, and the handle there. -/
def Thread.next (t : Thread) : Option (List Octet × ℕ × Party) :=
  t.inHand.bind fun (chunk, i) => (t.bridged[i]?).map fun q => (chunk, i, q)

/-- What the loop has in hand and has not sent to the party yet. -/
def Thread.unsent (t : Thread) (q : Party) : List Octet :=
  match t.inHand with
  | none => []
  | some (chunk, i) => if q ∈ t.bridged.drop i then chunk else []

/-- An LCM and the apps that have been identified for it, with what has been read and delivered. -/
structure Traffic where
  thread : Party → Thread := fun _ => {}
  /-- The apps that are bridged. -/
  bridgedApps : ℕ → Bool := fun _ => false
  /-- What was read from each party. -/
  read : Party → List Octet := fun _ => []
  /-- How much of it had been read and sent when the second party was bridged to the first. -/
  since : Party → Party → ℕ := fun _ _ => 0
  /-- What was delivered to each party, and from whom it is. -/
  delivered : Party → List (Party × Octet) := fun _ => []

namespace Traffic

variable (s : Traffic)

/-- The thread of a party changes. -/
def setThread (p : Party) (t : Thread) : Traffic := { s with thread := update s.thread p t }

/-- `q` is bridged to `p`: from now on, `p` sends to it what it reads and what it has in hand. -/
def bridgeTo (p q : Party) : Traffic :=
  { s.setThread p ((s.thread p).addBridgedSocketHandle q) with
    since := update s.since p
      (update (s.since p) q ((s.read p).length - (s.thread p).chunk.length)) }

/-- The part of `update` that bridges an app. -/
def bridgeApp (n : ℕ) : Traffic :=
  { (s.bridgeTo (.app n) .lcm).bridgeTo .lcm (.app n) with
    bridgedApps := update s.bridgedApps n true }

/-- `recv` returns some bytes. -/
def receive (p : Party) (chunk : List Octet) : Traffic :=
  { s.setThread p { s.thread p with inHand := some (chunk, 0) } with
    read := update s.read p (s.read p ++ chunk) }

/-- `send` takes some of the bytes. -/
def deliver (p q : Party) (chunk : List Octet) (i taken : ℕ) : Traffic :=
  { s.setThread p { s.thread p with inHand := some (chunk, i + 1) } with
    delivered := update s.delivered q
      (s.delivered q ++ (chunk.take taken).map fun b => (p, b)) }

/-- `send` returns -1. -/
def drop (p : Party) (i : ℕ) : Traffic :=
  s.setThread p { s.thread p with bridged := (s.thread p).bridged.eraseIdx i }

end Traffic

/-- The party is the LCM, or an app that is bridged. -/
def Traffic.joined (s : Traffic) : Party → Bool
  | .lcm => true
  | .app n => s.bridgedApps n

/-- What a thread does, with what the system answers. -/
inductive Call
  | bridgeApp (n : ℕ)
  | receive (p : Party) (chunk : List Octet)
  /-- The number of bytes taken, or none if the call fails. -/
  | send (p : Party) (taken : Option ℕ)
  /-- The loop over the handles ends. -/
  | finish (p : Party)

/-- The forwarding loops of an LCM and its apps. -/
def forward : Machine Traffic Call where
  init s := s = {}
  step s
    | .bridgeApp n => if s.bridgedApps n then none else some (s.bridgeApp n)
    | .receive p chunk =>
      if s.joined p ∧ (s.thread p).inHand = none ∧ chunk ≠ [] ∧ chunk.length ≤ maxMessageSize then
        some (s.receive p chunk)
      else none
    | .send p none => (s.thread p).next.map fun (_, i, _) => s.drop p i
    | .send p (some taken) =>
      (s.thread p).next.bind fun (chunk, i, q) =>
        if taken ≤ chunk.length then some (s.deliver p q chunk i taken) else none
    | .finish p =>
      (s.thread p).inHand.bind fun (_, i) =>
        if (s.thread p).bridged.length ≤ i then
          some (s.setThread p { s.thread p with inHand := none })
        else none

/-! ### Whole messages -/

/-- **The integrity of the messages.**  What is delivered to a party, cut at the terminators,
consists of messages that were sent by one party each; those of one sender are in its order, and
none is missing that it has sent since the bridging, unless a write has failed or the sender is
still at it. -/
def Intact (s : Traffic) : Prop :=
  ∀ q, ∃ log : List (Party × List Octet),
    log.map Prod.snd = messages nul ((s.delivered q).map Prod.snd) ∧
      ∀ p, messagesBy p log <+: messagesAfter nul (s.since p q) (s.read p) ∧
        (q ∈ (s.thread p).bridged → (s.thread p).inHand = none →
          messagesBy p log = messagesAfter nul (s.since p q) (s.read p))

/-- A write takes all bytes, and does not come inside a message of another party; an app is bridged
when the LCM is not inside a message. -/
def Whole (s : Traffic) : Call → Prop
  | .bridgeApp _ => AtBoundary nul
      ((s.read .lcm).take ((s.read .lcm).length - (s.thread .lcm).chunk.length))
  | .send p (some taken) => ∀ c ∈ (s.thread p).next,
      taken = c.1.length ∧ ∀ x ∈ (s.delivered c.2.2).getLast?, x.2 = nul ∨ x.1 = p
  | _ => True

instance (s : Traffic) : (e : Call) → Decidable (Whole s e)
  | .bridgeApp _ => inferInstanceAs (Decidable (AtBoundary nul _))
  | .send p (some _) => inferInstanceAs (Decidable (∀ c ∈ (s.thread p).next, _ ∧ _))
  | .send _ none | .receive .. | .finish _ => .isTrue trivial

/-- What one party has sent to another. -/
structure Sent (s : Traffic) (p q : Party) : Prop where
  since_le : s.since p q ≤ (s.read p).length
  boundary : AtBoundary nul ((s.read p).take (s.since p q))
  isPrefix : sentBy p (s.delivered q) <+: (s.read p).drop (s.since p q)
  all : q ∈ (s.thread p).bridged →
    (s.read p).drop (s.since p q) = sentBy p (s.delivered q) ++ (s.thread p).unsent q

/-- The position of a loop, and what it has in hand. -/
structure Thread.Orderly (t : Thread) (read : List Octet) : Prop where
  nodup : t.bridged.Nodup
  inHand : ∀ chunk i, t.inHand = some (chunk, i) → i ≤ t.bridged.length ∧ chunk <:+ read

/-- The threads, and what they have sent. -/
structure Orderly (s : Traffic) : Prop where
  takesOver : ∀ q, (s.delivered q).IsChain (TakesOver nul)
  sent : ∀ p q, Sent s p q
  thread : ∀ p, (s.thread p).Orderly (s.read p)

section

variable {s s' : Traffic} {e : Call} {p q : Party}

theorem Orderly.intact (h : Orderly s) : Intact s := by
  intro q
  obtain ⟨log, hlog, hby⟩ := exists_log_of_takesOver (h.takesOver q)
  refine ⟨log, hlog, fun p => ?_⟩
  have hsent := h.sent p q
  rw [hby, messagesAfter_of_atBoundary hsent.boundary]
  refine ⟨messages_isPrefix hsent.isPrefix, fun hq hidle => ?_⟩
  rw [hsent.all hq, Thread.unsent, hidle, List.append_nil]

/-- What other parties have sent does not change. -/
theorem Sent.congr (h : Sent s p q) (hread : s'.read p = s.read p)
    (hsince : s'.since p q = s.since p q)
    (hsent : sentBy p (s'.delivered q) = sentBy p (s.delivered q))
    (hthread : s'.thread p = s.thread p) : Sent s' p q := by
  obtain ⟨hle, hboundary, hprefix, hall⟩ := h
  refine ⟨?_, ?_, ?_, ?_⟩ <;> rw [hread, hsince]
  · exact hle
  · exact hboundary
  · rwa [hsent]
  · rwa [hsent, hthread]

theorem Thread.next_eq_some {t : Thread} {chunk : List Octet} {i : ℕ} :
    t.next = some (chunk, i, q) ↔ t.inHand = some (chunk, i) ∧ t.bridged[i]? = some q := by
  unfold next
  cases t.inHand with
  | none => simp
  | some c =>
    obtain ⟨chunk', i'⟩ := c
    simp only [Option.bind_some, Option.map_eq_some_iff, Option.some.injEq, Prod.mk.injEq]
    constructor
    · rintro ⟨q', hq', rfl, rfl, rfl⟩
      exact ⟨⟨rfl, rfl⟩, hq'⟩
    · rintro ⟨⟨rfl, rfl⟩, hq⟩
      exact ⟨q, hq, rfl, rfl, rfl⟩

theorem drop_of_getElem? {l : List Party} {i : ℕ} (h : l[i]? = some q) :
    l.drop i = q :: l.drop (i + 1) := by
  obtain ⟨hi, rfl⟩ := List.getElem?_eq_some_iff.1 h
  exact List.drop_eq_getElem_cons hi

theorem takesOver_chunk (p : Party) (chunk : List Octet) :
    (chunk.map fun b => (p, b)).IsChain (TakesOver nul) := by
  induction chunk with
  | nil => exact .nil
  | cons b chunk ih =>
    cases chunk with
    | nil => exact .singleton _
    | cons b' chunk => exact .cons_cons (.inr rfl) ih

/-! ### The calls -/

theorem Orderly.receive (h : Orderly s) {chunk : List Octet}
    (hidle : (s.thread p).inHand = none) : Orderly (s.receive p chunk) := by
  refine ⟨h.takesOver, fun x q => ?_, fun x => ?_⟩
  · by_cases hx : x = p
    · subst hx
      obtain ⟨hle, hboundary, hprefix, hall⟩ := h.sent x q
      have htake : (s.read x ++ chunk).take (s.since x q) = (s.read x).take (s.since x q) :=
        List.take_append_of_le_length hle
      have hdrop : (s.read x ++ chunk).drop (s.since x q) =
          (s.read x).drop (s.since x q) ++ chunk := List.drop_append_of_le_length hle
      refine ⟨?_, ?_, ?_, fun hq => ?_⟩ <;>
        simp only [Traffic.receive, Traffic.setThread, update_self] at *
      · rw [List.length_append]
        omega
      · rwa [htake]
      · rw [hdrop]
        exact hprefix.trans (List.prefix_append _ _)
      · rw [hdrop, hall hq]
        simp [Thread.unsent, hidle, hq]
    · exact (h.sent x q).congr (update_of_ne hx _ _) rfl rfl (update_of_ne hx _ _)
  · by_cases hx : x = p
    · subst hx
      refine ⟨?_, fun c i hc => ?_⟩ <;>
        simp only [Traffic.receive, Traffic.setThread, update_self] at *
      · exact (h.thread x).nodup
      · cases hc
        exact ⟨Nat.zero_le _, List.suffix_append _ _⟩
    · simpa only [Traffic.receive, Traffic.setThread, update_of_ne hx] using h.thread x

/-- A write takes all bytes. -/
theorem Orderly.deliver (h : Orderly s) {chunk : List Octet} {i : ℕ}
    (hinHand : (s.thread p).inHand = some (chunk, i)) (hget : (s.thread p).bridged[i]? = some q)
    (hlast : ∀ x ∈ (s.delivered q).getLast?, x.2 = nul ∨ x.1 = p) :
    Orderly (s.deliver p q chunk i chunk.length) := by
  have hdrop := drop_of_getElem? hget
  have hlt : i < (s.thread p).bridged.length := (List.getElem?_eq_some_iff.1 hget).1
  have hmem : q ∈ (s.thread p).bridged := List.mem_of_getElem? hget
  have hnot : q ∉ (s.thread p).bridged.drop (i + 1) := by
    have hnodup := (h.thread p).nodup.sublist (List.drop_sublist i _)
    rw [hdrop] at hnodup
    exact (List.nodup_cons.1 hnodup).1
  have hself : (s.deliver p q chunk i chunk.length).delivered q =
      s.delivered q ++ chunk.map fun b => (p, b) := by simp [Traffic.deliver]
  have hother {r : Party} (hr : r ≠ q) :
      (s.deliver p q chunk i chunk.length).delivered r = s.delivered r := update_of_ne hr _ _
  have hthread : (s.deliver p q chunk i chunk.length).thread p =
      { s.thread p with inHand := some (chunk, i + 1) } := update_self _ _ _
  refine ⟨fun r => ?_, fun x r => ?_, fun x => ?_⟩
  · by_cases hr : r = q
    · subst hr
      rw [hself]
      refine (h.takesOver r).append (takesOver_chunk p chunk) fun x hx y hy => ?_
      have hy : y.1 = p := by
        obtain ⟨b, -, rfl⟩ := List.mem_map.1 (List.mem_of_mem_head? hy)
        rfl
      exact (hlast x hx).imp_right fun hxp => hxp.trans hy.symm
    · rw [hother hr]
      exact h.takesOver r
  · by_cases hx : x = p
    · subst hx
      obtain ⟨hle, hboundary, hprefix, hall⟩ := h.sent x r
      by_cases hr : r = q
      · subst hr
        have hunsent : (s.thread x).unsent r = chunk := by simp [Thread.unsent, hinHand, hdrop]
        have hrest : ((s.deliver x r chunk i chunk.length).thread x).unsent r = [] := by
          rw [hthread]
          simp [Thread.unsent, hnot]
        have hnow := hall hmem
        rw [hunsent] at hnow
        refine ⟨hle, hboundary, ?_, fun _ => ?_⟩
        · rw [hself, sentBy_append, sentBy_map_self]
          exact hnow ▸ List.prefix_refl _
        · rw [hself, sentBy_append, sentBy_map_self, hrest, List.append_nil]
          exact hnow
      · refine ⟨hle, hboundary, by rwa [hother hr], fun hbr => ?_⟩
        rw [hthread] at hbr ⊢
        rw [hother hr]
        refine (hall hbr).trans (congrArg _ ?_)
        simp [Thread.unsent, hinHand, hdrop, hr]
    · refine (h.sent x r).congr rfl rfl ?_ (update_of_ne hx _ _)
      by_cases hr : r = q
      · subst hr
        rw [hself, sentBy_append, sentBy_map_of_ne (Ne.symm hx), List.append_nil]
      · rw [hother hr]
  · by_cases hx : x = p
    · subst hx
      rw [hthread]
      refine ⟨(h.thread x).nodup, fun c j hc => ?_⟩
      cases hc
      exact ⟨hlt, ((h.thread x).inHand _ _ hinHand).2⟩
    · have hsame : (s.deliver p q chunk i chunk.length).thread x = s.thread x :=
        update_of_ne hx _ _
      rw [hsame]
      exact h.thread x

/-- A thread changes its list or its position, but not what it still has to send. -/
theorem Orderly.setThread (h : Orderly s) {t : Thread} (ht : t.Orderly (s.read p))
    (hbridged : ∀ q ∈ t.bridged, q ∈ (s.thread p).bridged ∧ t.unsent q = (s.thread p).unsent q) :
    Orderly (s.setThread p t) := by
  refine ⟨h.takesOver, fun x r => ?_, fun x => ?_⟩
  · by_cases hx : x = p
    · subst hx
      obtain ⟨hle, hboundary, hprefix, hall⟩ := h.sent x r
      have hthread : (s.setThread x t).thread x = t := update_self _ _ _
      refine ⟨hle, hboundary, hprefix, fun hr => ?_⟩
      rw [hthread] at hr ⊢
      obtain ⟨hmem, hunsent⟩ := hbridged r hr
      rw [hunsent]
      exact hall hmem
    · exact (h.sent x r).congr rfl rfl rfl (update_of_ne hx _ _)
  · by_cases hx : x = p
    · subst hx
      have hthread : (s.setThread x t).thread x = t := update_self _ _ _
      rw [hthread]
      exact ht
    · have hthread : (s.setThread p t).thread x = s.thread x := update_of_ne hx _ _
      rw [hthread]
      exact h.thread x

/-- A write fails. -/
theorem Orderly.drop (h : Orderly s) {chunk : List Octet} {i : ℕ}
    (hinHand : (s.thread p).inHand = some (chunk, i)) (hget : (s.thread p).bridged[i]? = some q) :
    Orderly (s.drop p i) := by
  have hlt : i < (s.thread p).bridged.length := (List.getElem?_eq_some_iff.1 hget).1
  have hdrop := drop_of_getElem? hget
  have hnodup := (h.thread p).nodup
  have herase : (s.thread p).bridged.eraseIdx i =
      (s.thread p).bridged.take i ++ (s.thread p).bridged.drop (i + 1) :=
    List.eraseIdx_eq_take_drop_succ _ _
  have hrest : ((s.thread p).bridged.eraseIdx i).drop i = (s.thread p).bridged.drop (i + 1) := by
    rw [herase]
    exact List.drop_left' (by simp; omega)
  refine h.setThread ⟨hnodup.eraseIdx i, fun c j hc => ?_⟩ fun r hr => ?_
  · obtain ⟨-, hsuffix⟩ := (h.thread p).inHand _ _ hinHand
    obtain ⟨rfl, rfl⟩ : chunk = c ∧ i = j := by simpa [hinHand] using hc
    refine ⟨?_, hsuffix⟩
    rw [List.length_eraseIdx_of_lt hlt]
    omega
  · have hne : r ≠ q := by
      rintro rfl
      have hsplit := (s.thread p).bridged.take_append_drop i
      rw [hdrop] at hsplit
      rw [← hsplit] at hnodup
      rw [herase] at hr
      have hcons := List.nodup_middle.1 hnodup
      exact (List.nodup_cons.1 hcons).1 hr
    refine ⟨List.mem_of_mem_eraseIdx hr, ?_⟩
    simp [Thread.unsent, hinHand, hrest, hdrop, hne]

/-- The loop over the handles ends. -/
theorem Orderly.finish (h : Orderly s) {chunk : List Octet} {i : ℕ}
    (hinHand : (s.thread p).inHand = some (chunk, i)) (hi : (s.thread p).bridged.length ≤ i) :
    Orderly (s.setThread p { s.thread p with inHand := none }) := by
  refine h.setThread ⟨(h.thread p).nodup, nofun⟩ fun r hr => ⟨hr, ?_⟩
  simp [Thread.unsent, hinHand, List.drop_eq_nil_of_le hi]

/-- A party is bridged to another that is not inside a message. -/
theorem Orderly.bridgeTo (h : Orderly s) (hnot : q ∉ (s.thread p).bridged)
    (hnone : sentBy p (s.delivered q) = [])
    (hboundary : AtBoundary nul
      ((s.read p).take ((s.read p).length - (s.thread p).chunk.length))) :
    Orderly (s.bridgeTo p q) := by
  have hadd : (s.thread p).addBridgedSocketHandle q =
      { s.thread p with bridged := (s.thread p).bridged ++ [q] } := by
    simp [Thread.addBridgedSocketHandle, hnot]
  have hthread : (s.bridgeTo p q).thread p =
      { s.thread p with bridged := (s.thread p).bridged ++ [q] } := by
    rw [← hadd]
    exact update_self _ _ _
  have hnodup : ((s.thread p).bridged ++ [q]).Nodup := by
    refine List.nodup_append.2 ⟨(h.thread p).nodup, List.nodup_singleton q, ?_⟩
    rintro x hx y hy rfl
    exact hnot (List.mem_singleton.1 hy ▸ hx)
  refine ⟨h.takesOver, fun x r => ?_, fun x => ?_⟩
  · by_cases hx : x = p
    · subst hx
      by_cases hr : r = q
      · subst hr
        have hsince : (s.bridgeTo x r).since x r =
            (s.read x).length - (s.thread x).chunk.length := by simp [Traffic.bridgeTo]
        -- what the new party gets of the bytes in hand is all of them
        have hunsent : ((s.bridgeTo x r).thread x).unsent r = (s.thread x).chunk := by
          rw [hthread]
          unfold Thread.unsent Thread.chunk
          cases hc : (s.thread x).inHand with
          | none => rfl
          | some c =>
            obtain ⟨chunk, i⟩ := c
            have hi := ((h.thread x).inHand _ _ hc).1
            simp [List.drop_append_of_le_length hi]
        have hsuffix : (s.read x).drop ((s.read x).length - (s.thread x).chunk.length) =
            (s.thread x).chunk := by
          unfold Thread.chunk
          cases hc : (s.thread x).inHand with
          | none => simp
          | some c =>
            obtain ⟨chunk, i⟩ := c
            exact (List.suffix_iff_eq_drop.1 ((h.thread x).inHand _ _ hc).2).symm
        refine ⟨?_, ?_, ?_, fun _ => ?_⟩
        · rw [hsince]
          exact Nat.sub_le _ _
        · rw [hsince]
          exact hboundary
        · have hsent : sentBy x ((s.bridgeTo x r).delivered r) = [] := hnone
          rw [hsent]
          exact List.nil_prefix
        · have hsent : sentBy x ((s.bridgeTo x r).delivered r) = [] := hnone
          rw [hsent, hunsent, hsince]
          exact hsuffix
      · obtain ⟨hle, hb, hprefix, hall⟩ := h.sent x r
        have hsince : (s.bridgeTo x q).since x r = s.since x r := by
          simp [Traffic.bridgeTo, hr]
        refine ⟨?_, ?_, ?_, fun hmem => ?_⟩
        · rwa [hsince]
        · rwa [hsince]
        · rwa [hsince]
        · rw [hthread] at hmem ⊢
          have hmem : r ∈ (s.thread x).bridged := by simpa [hr] using hmem
          rw [hsince]
          refine (hall hmem).trans (congrArg _ ?_)
          unfold Thread.unsent
          cases hc : (s.thread x).inHand with
          | none => rfl
          | some c =>
            obtain ⟨chunk, i⟩ := c
            have hi := ((h.thread x).inHand _ _ hc).1
            simp [List.drop_append_of_le_length hi, hr]
    · refine (h.sent x r).congr rfl ?_ rfl (update_of_ne hx _ _)
      have hsince : (s.bridgeTo p q).since x = s.since x := update_of_ne hx _ _
      rw [hsince]
  · by_cases hx : x = p
    · subst hx
      rw [hthread]
      refine ⟨hnodup, fun c i hc => ?_⟩
      obtain ⟨hi, hsuffix⟩ := (h.thread x).inHand c i hc
      exact ⟨by simp; omega, hsuffix⟩
    · have hsame : (s.bridgeTo p q).thread x = s.thread x := update_of_ne hx _ _
      rw [hsame]
      exact h.thread x

/-! ### Apps that are not bridged -/

/-- An app that is not bridged has sent nothing, and nothing has been sent to it. -/
structure Untouched (s : Traffic) (n : ℕ) : Prop where
  thread : s.thread (.app n) = {}
  read : s.read (.app n) = []
  bridged : .app n ∉ (s.thread .lcm).bridged
  toLCM : sentBy (.app n) (s.delivered .lcm) = []
  ofLCM : sentBy .lcm (s.delivered (.app n)) = []

variable {n : ℕ}

theorem Untouched.ne_of_inHand (h : Untouched s n) {c : List Octet × ℕ}
    (hc : (s.thread p).inHand = some c) : p ≠ .app n := by
  rintro rfl
  rw [h.thread] at hc
  cases hc

/-- The thread of another party changes. -/
theorem Untouched.setThread (h : Untouched s n) (hp : p ≠ .app n) {t : Thread}
    (hbridged : ∀ q ∈ t.bridged, q ∈ (s.thread p).bridged) : Untouched (s.setThread p t) n := by
  refine ⟨?_, h.read, ?_, h.toLCM, h.ofLCM⟩
  · exact (update_of_ne (Ne.symm hp) _ _).trans h.thread
  · by_cases hlcm : Party.lcm = p
    · subst hlcm
      intro hmem
      have hthread : (s.setThread .lcm t).thread .lcm = t := by simp [Traffic.setThread]
      rw [hthread] at hmem
      exact h.bridged (hbridged _ hmem)
    · have hthread : (s.setThread p t).thread .lcm = s.thread .lcm := update_of_ne hlcm _ _
      rw [hthread]
      exact h.bridged

theorem Untouched.receive (h : Untouched s n) (hp : p ≠ .app n) {chunk : List Octet} :
    Untouched (s.receive p chunk) n := by
  obtain ⟨hthread, -, hbridged, hto, hof⟩ :=
    h.setThread (t := { s.thread p with inHand := some (chunk, 0) }) hp fun _ => id
  exact ⟨hthread, (update_of_ne (Ne.symm hp) _ _).trans h.read, hbridged, hto, hof⟩

theorem Untouched.deliver (h : Untouched s n) (hp : p ≠ .app n) (hq : q ∈ (s.thread p).bridged)
    {chunk : List Octet} {i taken : ℕ} : Untouched (s.deliver p q chunk i taken) n := by
  obtain ⟨hthread, hread, hbridged, -, -⟩ :=
    h.setThread (t := { s.thread p with inHand := some (chunk, i + 1) }) hp fun _ => id
  have hself : (s.deliver p q chunk i taken).delivered q =
      s.delivered q ++ (chunk.take taken).map fun b => (p, b) := update_self _ _ _
  refine ⟨hthread, hread, hbridged, ?_, ?_⟩
  · by_cases hlcm : Party.lcm = q
    · subst hlcm
      rw [hself, sentBy_append, h.toLCM, sentBy_map_of_ne hp]
      rfl
    · simpa [Traffic.deliver, hlcm] using h.toLCM
  · by_cases happ : Party.app n = q
    · subst happ
      have hlcm : p ≠ .lcm := by
        rintro rfl
        exact h.bridged hq
      rw [hself, sentBy_append, h.ofLCM, sentBy_map_of_ne hlcm]
      rfl
    · simpa [Traffic.deliver, happ] using h.ofLCM

theorem Untouched.bridgeApp (h : Untouched s n) {m : ℕ} (hm : m ≠ n) :
    Untouched (s.bridgeApp m) n := by
  have hne : Party.app n ≠ .app m := fun heq => hm (Party.app.inj heq).symm
  refine ⟨?_, h.read, ?_, h.toLCM, h.ofLCM⟩
  · simpa [Traffic.bridgeApp, Traffic.bridgeTo, Traffic.setThread, hne] using h.thread
  · have hthread : (s.bridgeApp m).thread .lcm =
        (s.thread .lcm).addBridgedSocketHandle (.app m) := by
      simp [Traffic.bridgeApp, Traffic.bridgeTo, Traffic.setThread]
    rw [hthread, Thread.addBridgedSocketHandle]
    dsimp only
    split
    · exact h.bridged
    · simp [h.bridged, hne]

/-! ### Runs -/

/-- The threads are orderly, and the other apps untouched. -/
structure Forwarding (s : Traffic) : Prop where
  orderly : Orderly s
  untouched : ∀ n, s.bridgedApps n = false → Untouched s n

theorem Forwarding.bridgeApp (h : Forwarding s) (hn : s.bridgedApps n = false)
    (hwhole : Whole s (.bridgeApp n)) : Forwarding (s.bridgeApp n) := by
  have hu := h.untouched n hn
  have happ : Orderly (s.bridgeTo (.app n) .lcm) := by
    refine h.orderly.bridgeTo ?_ hu.toLCM ?_
    · rw [hu.thread]
      exact List.not_mem_nil
    · rw [hu.read, List.take_nil]
      exact atBoundary_nil
  have hthread : (s.bridgeTo (.app n) .lcm).thread .lcm = s.thread .lcm := by
    simp [Traffic.bridgeTo, Traffic.setThread]
  have hlcm : Orderly ((s.bridgeTo (.app n) .lcm).bridgeTo .lcm (.app n)) := by
    refine happ.bridgeTo ?_ hu.ofLCM ?_
    · rw [hthread]
      exact hu.bridged
    · rw [hthread]
      exact hwhole
  refine ⟨⟨hlcm.takesOver, fun p q => ?_, hlcm.thread⟩, fun m hm => ?_⟩
  · exact (hlcm.sent p q).congr rfl rfl rfl rfl
  · by_cases hmn : m = n
    · subst hmn
      simp [Traffic.bridgeApp] at hm
    · exact (h.untouched m (by simpa [Traffic.bridgeApp, hmn] using hm)).bridgeApp (Ne.symm hmn)

/-- **What the threads have sent and still have in hand** is what they have read, as long as all
writes are whole. -/
theorem forwarding_step (h : Forwarding s) (hwhole : Whole s e)
    (hstep : forward.step s e = some s') : Forwarding s' := by
  cases e with
  | bridgeApp n =>
    obtain ⟨hn, rfl⟩ : s.bridgedApps n = false ∧ s.bridgeApp n = s' := by
      simpa [forward] using hstep
    exact h.bridgeApp hn hwhole
  | receive p chunk =>
    obtain ⟨⟨hjoined, hidle, -⟩, rfl⟩ : (s.joined p = true ∧ (s.thread p).inHand = none ∧ _) ∧
        s.receive p chunk = s' := by simpa [forward] using hstep
    refine ⟨h.orderly.receive hidle, fun n hn => (h.untouched n hn).receive ?_⟩
    rintro rfl
    have hn : s.bridgedApps n = false := hn
    rw [Traffic.joined, hn] at hjoined
    cases hjoined
  | send p taken =>
    cases taken with
    | none =>
      obtain ⟨chunk, i, q, hnext, rfl⟩ :
          ∃ chunk i q, (s.thread p).next = some (chunk, i, q) ∧ s.drop p i = s' := by
        simpa [forward] using hstep
      obtain ⟨hinHand, hget⟩ := Thread.next_eq_some.1 hnext
      refine ⟨h.orderly.drop hinHand hget, fun n hn => (h.untouched n hn).setThread
        ((h.untouched n hn).ne_of_inHand hinHand) fun q hq => List.mem_of_mem_eraseIdx hq⟩
    | some taken =>
      obtain ⟨chunk, i, q, hnext, -, rfl⟩ : ∃ chunk i q, (s.thread p).next = some (chunk, i, q) ∧
          taken ≤ chunk.length ∧ s.deliver p q chunk i taken = s' := by
        simpa [forward, Option.bind_eq_some_iff] using hstep
      obtain ⟨hinHand, hget⟩ := Thread.next_eq_some.1 hnext
      obtain ⟨rfl, hlast⟩ := hwhole _ hnext
      exact ⟨h.orderly.deliver hinHand hget hlast, fun n hn => (h.untouched n hn).deliver
        ((h.untouched n hn).ne_of_inHand hinHand) (List.mem_of_getElem? hget)⟩
  | finish p =>
    obtain ⟨chunk, i, hinHand, hi, rfl⟩ : ∃ chunk i, (s.thread p).inHand = some (chunk, i) ∧
        (s.thread p).bridged.length ≤ i ∧
          s.setThread p { s.thread p with inHand := none } = s' := by
      simpa [forward, Option.bind_eq_some_iff] using hstep
    exact ⟨h.orderly.finish hinHand hi, fun n hn => (h.untouched n hn).setThread
      ((h.untouched n hn).ne_of_inHand hinHand) fun _ => id⟩

end

theorem forwarding_start : Forwarding {} := by
  refine ⟨⟨fun q => .nil, fun p q => ⟨Nat.le_refl _, nofun, List.nil_prefix, nofun⟩,
    fun p => ⟨List.nodup_nil, nofun⟩⟩, fun n _ => ⟨rfl, rfl, List.not_mem_nil, rfl, rfl⟩⟩

end Bridge

end Lcm
