import Lcm.Bridge.Bookkeeping
import Lcm.Bridge.Forwarding

/-!
# The handles of the bridge

A handler forwards to handles, not to handlers: `update` puts the handle of the LCM into the list of
an app, and the handle of the app into the list of its LCM.  A handle is the number the system has
given to a connection, and becomes free again when the connection is closed.  Nothing takes it out
of the lists then, apart from a write that fails.

The events are those of the bridge, with the handle a new connection gets, and the calls of the
forwarding loops.  The handles are those of sockets; the lists of `SSL` objects are used in the same
way.

## Main definitions

* `Handle`, `Forwarder`, `Relay` : the handles, the forwarding loops, and the bridge with them.
* `State.bridges` : the two handlers that `update` bridges.
* `relay` : the machine.
-/

namespace Lcm

namespace Bridge

open Function (update update_self update_of_ne)

/-- The handle of a socket; `none` is `-1`. -/
abbrev Handle := Option ℕ

/-- The forwarding loop of a handler. -/
structure Forwarder where
  /-- `bridgedSocketHandles` -/
  bridged : List Handle := []
  /-- The bytes that were read and the position in the list, while they are being sent. -/
  inHand : Option (List Octet × ℕ) := none

/-- `addBridgedSocketHandle` -/
def Forwarder.addBridgedSocketHandle (f : Forwarder) (h : Handle) : Forwarder :=
  { f with bridged := if h ∈ f.bridged then f.bridged else f.bridged ++ [h] }

/-- The bytes the loop is about to send, with the position in the list, and the handle there. -/
def Forwarder.next (f : Forwarder) : Option (List Octet × ℕ × Handle) :=
  f.inHand.bind fun (chunk, i) => (f.bridged[i]?).map fun h => (chunk, i, h)

/-- The handlers of the app and of the LCM that `update` bridges, with the data of the handler of
an app. -/
def State.bridges (s : State) (c : ℕ) : Option (ℕ × ℕ) :=
  let h := s.handler c
  (s.pending .app h.key).bind fun p =>
    if h.lcmDeviceIdFromDB = 0 then none
    else (s.bridgeMap h.lcmDeviceIdFromDB).map fun entry => (p, entry.lcmSocket)

/-- The bridge with the handles of its connections. -/
structure Relay where
  bridge : State
  /-- The handle the system has given to a connection. -/
  handle : ℕ → ℕ := fun _ => 0
  loop : ℕ → Forwarder := fun _ => {}

namespace Relay

variable (s : Relay)

/-- `clientSocketHandle` -/
def clientSocketHandle (c : ℕ) : Handle :=
  if (s.bridge.handler c).socketOpen then some (s.handle c) else none

/-- The handle is that of the connection. -/
def Refers (h : Handle) (c : ℕ) : Prop :=
  c < s.bridge.accepted ∧ (s.bridge.handler c).socketOpen = true ∧ h = some (s.handle c)

instance (h : Handle) (c : ℕ) : Decidable (s.Refers h c) := inferInstanceAs (Decidable (_ ∧ _ ∧ _))

/-- The system knows the handle. -/
def InUse (h : Handle) : Prop := ∃ c < s.bridge.accepted, s.Refers h c

instance (h : Handle) : Decidable (s.InUse h) :=
  inferInstanceAs (Decidable (∃ c < s.bridge.accepted, s.Refers h c))

/-- The forwarding loop of a handler changes. -/
def setLoop (c : ℕ) (f : Forwarder) : Relay := { s with loop := update s.loop c f }

/-- The part of `update` that bridges an app: each handler gets the handle of the other. -/
def bridgeApp (app lcm : ℕ) : Relay :=
  let s' := s.setLoop app
    ((s.loop app).addBridgedSocketHandle (s.clientSocketHandle lcm))
  s'.setLoop lcm ((s'.loop lcm).addBridgedSocketHandle (s.clientSocketHandle app))

/-- The bridge changes; the destructor of a handler clears its list. -/
def follow (b : State) : Relay :=
  { s with
    bridge := b
    loop := fun c => if (b.handler c).frees = (s.bridge.handler c).frees then s.loop c else {} }

/-- A connection is accepted, with the handle the system gives to it. -/
def accept (k : Kind) (handle : ℕ) : Relay where
  bridge := s.bridge.accept k
  handle := update s.handle s.bridge.accepted handle
  loop := update s.loop s.bridge.accepted {}

/-- What a thread needs of its handle and its loop for an event of the bridge: it reads from an open
socket, and it does not end while it is sending. -/
def Ready : Event → Prop
  | .accept _ => False
  | .identify c _ _ => (s.bridge.handler c).socketOpen = true
  | .exit c => (s.loop c).inHand = none
  | _ => True

instance : (e : Event) → Decidable (s.Ready e)
  | .accept _ => .isFalse id
  | .identify .. => inferInstanceAs (Decidable (_ = _))
  | .exit c => decidable_of_iff ((s.loop c).inHand.isNone = true) Option.isNone_iff_eq_none
  | .subscribe _ | .insert _ | .attach _ | .register .. | .cleanPending .. | .cleanBridge .. =>
    .isTrue trivial

/-- An event of the bridge, before the lists of freed handlers are cleared. -/
def bridging : Event → Relay
  | .attach c => (s.bridge.bridges c).elim s fun (app, lcm) => s.bridgeApp app lcm
  | _ => s

end Relay

/-- What one of the threads does, with what the system answers. -/
inductive RelayEvent
  | accept (k : Kind) (handle : ℕ)
  /-- Any other event of the bridge. -/
  | bridge (e : Event)
  | receive (c : ℕ) (chunk : List Octet)
  /-- The number of bytes taken, or none if the call fails. -/
  | send (c : ℕ) (taken : Option ℕ)
  /-- The loop over the handles ends. -/
  | finish (c : ℕ)

namespace Relay

variable (s : Relay)

/-- The thread of the handler forwards what it receives. -/
def Forwards (c : ℕ) : Prop :=
  c < s.bridge.accepted ∧ (s.bridge.handler c).phase = .forwarding

instance (c : ℕ) : Decidable (s.Forwards c) := inferInstanceAs (Decidable (_ ∧ _))

/-- The state after an event.  A new connection gets a handle that is free, and not that of the
standard input; a write to a handle that the system does not know fails. -/
def step : RelayEvent → Option Relay
  | .accept k handle =>
    if handle = 0 ∨ s.InUse (some handle) ∨ (s.bridge.accepting k).isSome then none
    else some (s.accept k handle)
  | .bridge e =>
    if s.Ready e then (Bridge.step s.bridge e).map (s.bridging e).follow else none
  | .receive c chunk =>
    if s.Forwards c ∧ (s.bridge.handler c).socketOpen = true ∧ (s.loop c).inHand.isNone ∧
        chunk ≠ [] ∧ chunk.length ≤ maxMessageSize then
      some (s.setLoop c { s.loop c with inHand := some (chunk, 0) })
    else none
  | .send c none =>
    if s.Forwards c then
      (s.loop c).next.map fun (_, i, _) =>
        s.setLoop c { s.loop c with bridged := (s.loop c).bridged.eraseIdx i }
    else none
  | .send c (some taken) =>
    if s.Forwards c then
      (s.loop c).next.bind fun (chunk, i, h) =>
        if s.InUse h ∧ taken ≤ chunk.length then
          some (s.setLoop c { s.loop c with inHand := some (chunk, i + 1) })
        else none
    else none
  | .finish c =>
    if s.Forwards c then
      (s.loop c).inHand.bind fun (_, i) =>
        if (s.loop c).bridged.length ≤ i then
          some (s.setLoop c { s.loop c with inHand := none })
        else none
    else none

end Relay

/-- The bridge with its handles, from its construction on. -/
def relay : Machine Relay RelayEvent where
  init s := ∃ db ok devices apps, s = { bridge := State.start db ok devices apps }
  step := Relay.step

section

variable {s s' : Relay}

theorem relay_accept {k : Kind} {handle : ℕ} : relay.step s (.accept k handle) = some s' ↔
    (handle ≠ 0 ∧ ¬ s.InUse (some handle) ∧ s.bridge.accepting k = none) ∧
      s.accept k handle = s' := by
  simp [relay, Relay.step]

theorem relay_bridge {e : Event} : relay.step s (.bridge e) = some s' ↔
    s.Ready e ∧ ∃ b, Bridge.step s.bridge e = some b ∧ (s.bridging e).follow b = s' := by
  simp [relay, Relay.step]

theorem relay_receive {c : ℕ} {chunk : List Octet} :
    relay.step s (.receive c chunk) = some s' ↔
      (s.Forwards c ∧ (s.bridge.handler c).socketOpen = true ∧ (s.loop c).inHand = none ∧
        chunk ≠ [] ∧ chunk.length ≤ maxMessageSize) ∧
      s.setLoop c { s.loop c with inHand := some (chunk, 0) } = s' := by
  simp [relay, Relay.step]

theorem relay_send {c taken : ℕ} : relay.step s (.send c (some taken)) = some s' ↔
    s.Forwards c ∧ ∃ chunk i h, (s.loop c).next = some (chunk, i, h) ∧
      (s.InUse h ∧ taken ≤ chunk.length) ∧
      s.setLoop c { s.loop c with inHand := some (chunk, i + 1) } = s' := by
  simp [relay, Relay.step, Option.bind_eq_some_iff]

theorem relay_send_none {c : ℕ} : relay.step s (.send c none) = some s' ↔
    s.Forwards c ∧ ∃ chunk i h, (s.loop c).next = some (chunk, i, h) ∧
      s.setLoop c { s.loop c with bridged := (s.loop c).bridged.eraseIdx i } = s' := by
  simp [relay, Relay.step]

theorem relay_finish {c : ℕ} : relay.step s (.finish c) = some s' ↔
    s.Forwards c ∧ ∃ chunk i, (s.loop c).inHand = some (chunk, i) ∧
      (s.loop c).bridged.length ≤ i ∧ s.setLoop c { s.loop c with inHand := none } = s' := by
  simp [relay, Relay.step, Option.bind_eq_some_iff]

end

end Bridge

end Lcm
