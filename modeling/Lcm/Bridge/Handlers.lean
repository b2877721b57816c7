import Lcm.Run.Basic
import Mathlib.Data.List.Nodup
import Mathlib.Logic.Function.Basic

/-!
# The handlers of the external network bridge

The bridge accepts connections of LCMs and of apps.  A connection gets a handler with a thread of
its own, which asks for an identification, publishes it to the bridge, and then forwards what it
receives.  The bridge keeps a handler in `lcmHandlers` or `appHandlers` until it is identified, and
in `bridgeMap` from then on; a clean-up thread looks through the three maps for handlers whose
thread has ended.

An event is what one of the threads does between two points at which another can get in its way: an
accept loop takes a connection and starts its thread, subscribes, or inserts the handler; a thread
publishes what it has read, or ends; the clean-up thread looks at one element of a map.  A map holds
`shared_ptr`s, so that a handler that is taken out of it is freed; its destructor closes the
connection and waits for the thread.

`update` holds `lcmHandlerMutex` throughout for the handler of an LCM, whose own thread it runs in,
and so is one step.  For the handler of an app it asks the database first, and takes the two locks
then: these are two steps.

## Main definitions

* `Handler`, `Entry`, `State` : a handler, an element of `bridgeMap`, and the bridge.
* `Event`, `step` : what the threads do.
* `bridge` : the machine, which starts with the constructor.
-/

namespace Lcm

namespace Bridge

/-! ### Handlers -/

/-- `LCMSocketHandler` or `AppSocketHandler` -/
inductive Kind
  | lcm
  | app
  deriving DecidableEq

/-- The identifier of an LCM or of an app, a `uint64_t`. -/
abbrev DeviceId := BitVec 64

/-- The keys of `lcmHandlers` and `appHandlers`, which are of type `int`. -/
abbrev Key := BitVec 32

/-- Where the thread of a handler is. -/
inductive Phase
  /-- In the loop that waits for the identification. -/
  | identifying
  /-- In `update`, between the query and the locks. -/
  | lookedUp
  /-- In the loop that forwards. -/
  | forwarding
  /-- `connected` is false. -/
  | ended
  deriving DecidableEq

/-- `ClientHandler` -/
structure Handler where
  kind : Kind
  handlerId : BitVec 64
  deviceId : DeviceId := 0
  /-- `lcmDeviceIdFromDB`, of the call of `update` for this handler. -/
  lcmDeviceIdFromDB : DeviceId := 0
  /-- The bridge is one of the `subscribers`. -/
  subscribed : Bool := false
  phase : Phase := .identifying
  /-- `clientSocketHandle` is not `-1`. -/
  socketOpen : Bool := true
  /-- How often the destructor has run. -/
  frees : ℕ := 0

namespace Handler

/-- The key of the handler in its map. -/
def key (h : Handler) : Key := h.handlerId.setWidth 32

/-- `isConnected` -/
def isConnected (h : Handler) : Bool := h.phase ≠ .ended

/-- The connection is up: neither side has closed it. -/
def up (h : Handler) : Bool := h.socketOpen && h.isConnected

/-- `stopReceiving` -/
def stopReceiving (h : Handler) : Handler := { h with socketOpen := false }

/-- The destructor, which runs when the last map lets go of the handler. -/
def free (h : Handler) : Handler :=
  { h.stopReceiving with phase := .ended, frees := h.frees + 1 }

/-- The thread goes on to the loop its identifier leads it to. -/
def proceed (h : Handler) : Handler :=
  { h with phase := if h.deviceId = 0 then .identifying else .forwarding }

/-- `handleSystemInfo` or `handleReportAppID` sets the identifier. -/
def identified (h : Handler) (deviceId : DeviceId) : Handler := { h with deviceId }.proceed

end Handler

/-! ### The bridge -/

/-- `socketHandlerStruct` -/
structure Entry where
  lcmSocket : ℕ
  appSockets : List ℕ

/-- All handlers of an entry. -/
def Entry.handlers (entry : Entry) : List ℕ := entry.lcmSocket :: entry.appSockets

/-- The bridge, with the handlers in the order in which their connections were accepted. -/
structure State where
  handler : ℕ → Handler
  /-- The number of connections accepted so far. -/
  accepted : ℕ
  /-- `handlerId` of the accept loops -/
  handlerId : Kind → BitVec 64
  /-- The handler an accept loop has made and not yet inserted. -/
  accepting : Kind → Option ℕ
  /-- `lcmHandlers` and `appHandlers` -/
  pending : Kind → Key → Option ℕ
  bridgeMap : DeviceId → Option Entry
  /-- `db` is not `NULL`. -/
  db : Bool
  /-- The column `connected` of the table `devices`. -/
  devices : DeviceId → Option Bool
  /-- The column `deviceId` of the table `apps`. -/
  apps : DeviceId → Option DeviceId

namespace State

variable (s : State)

/-- A handler changes. -/
def setHandler (c : ℕ) (h : Handler) : State :=
  { s with handler := Function.update s.handler c h }

/-- The maps let go of some handlers. -/
def release (cs : List ℕ) : State :=
  { s with handler := fun c => if c ∈ cs then (s.handler c).free else s.handler c }

/-- The handlers of the entry of a device. -/
def entryHandlers (d : DeviceId) : List ℕ := (s.bridgeMap d).elim [] Entry.handlers

/-- An element of `lcmHandlers` or `appHandlers` is set or erased. -/
def setPending (k : Kind) (key : Key) (c : Option ℕ) : State :=
  { s with pending := Function.update s.pending k (Function.update (s.pending k) key c) }

/-- An element of `bridgeMap` is set or erased. -/
def setEntry (d : DeviceId) (entry : Option Entry) : State :=
  { s with bridgeMap := Function.update s.bridgeMap d entry }

/-- A statement that sets the connection status of a device; `ok` tells whether it succeeds. -/
def recordStatus (d : DeviceId) (status : Option Bool) (ok : Bool) : State :=
  if s.db && ok then { s with devices := Function.update s.devices d status } else s

/-! ### Accept loops -/

/-- `handlerId++` -/
def nextHandlerId (k : Kind) : BitVec 64 := s.handlerId k + 1

/-- The key that the next connection of an accept loop gets. -/
def nextKey (k : Kind) : Key := (s.nextHandlerId k).setWidth 32

/-- A connection is accepted: its handler is made, and `startReceiving` starts the thread. -/
def accept (k : Kind) : State :=
  { s with
    handler := Function.update s.handler s.accepted
      { kind := k, handlerId := s.nextHandlerId k }
    accepted := s.accepted + 1
    handlerId := Function.update s.handlerId k (s.nextHandlerId k)
    accepting := Function.update s.accepting k (some s.accepted) }

/-- `subscribe(this)` -/
def subscribe (c : ℕ) : State := s.setHandler c { s.handler c with subscribed := true }

/-- `lcmHandlers[handlerId] = lcmSocketHandler`, or the same of an app. -/
def insert (k : Kind) (c : ℕ) : State :=
  let key := (s.handler c).key
  let old := (s.pending k key).toList
  { (s.release old).setPending k key (some c) with
    accepting := Function.update s.accepting k none }

/-! ### `update` -/

/-- `update`, with the data of a handler of an LCM. -/
def updateLCM (c : ℕ) (ok : Bool) : State :=
  let h := s.handler c
  match s.pending .lcm h.key with
  | none => s
  | some p =>
    if h.deviceId = 0 then s.setHandler p (s.handler p).stopReceiving
    else
      -- the assignment to the element of the map lets go of the handlers it held
      let s := (s.setPending .lcm h.key none).release (s.entryHandlers h.deviceId)
      (s.setEntry h.deviceId (some ⟨p, []⟩)).recordStatus h.deviceId (some true) ok

/-- `update`, with the data of a handler of an app, up to the locks: the query. -/
def lookUp (c : ℕ) (ok : Bool) : State :=
  let h := s.handler c
  let lcmDeviceIdFromDB := if s.db && ok then (s.apps h.deviceId).getD 0 else 0
  s.setHandler c { h with lcmDeviceIdFromDB, phase := .lookedUp }

/-- The rest of `update`.  An empty map has no element for the device either, and is dealt with in
the same way. -/
def attach (c : ℕ) : State :=
  let h := s.handler c
  let s := s.setHandler c h.proceed
  match s.pending .app h.key with
  | none => s
  | some p =>
    if h.lcmDeviceIdFromDB = 0 then s.setHandler p (s.handler p).stopReceiving
    else
      match s.bridgeMap h.lcmDeviceIdFromDB with
      | none => s.setHandler p (s.handler p).stopReceiving
      | some entry =>
        (s.setPending .app h.key none).setEntry h.lcmDeviceIdFromDB
          (some { entry with appSockets := entry.appSockets ++ [p] })

/-- `update`, with the data of a registration. -/
def updateRegistration (appId lcmId : DeviceId) (okDevice okApp : Bool) : State :=
  let s := s.recordStatus lcmId (some ((s.devices lcmId).getD false)) okDevice
  if s.db && okApp then { s with apps := Function.update s.apps appId (some lcmId) } else s

/-- The thread of a handler reads its identification and publishes it. -/
def identify (c : ℕ) (deviceId : DeviceId) (ok : Bool) : State :=
  let h := (s.handler c).identified deviceId
  let s := s.setHandler c h
  if h.subscribed then
    match h.kind with
    | .lcm => s.updateLCM c ok
    | .app => s.lookUp c ok
  else s

/-! ### The clean-up thread -/

/-- One turn of the loop over `lcmHandlers` or `appHandlers`. -/
def cleanPending (k : Kind) (key : Key) (c : ℕ) : State :=
  if (s.handler c).isConnected then s else (s.release [c]).setPending k key none

/-- One turn of the loop over `bridgeMap`. -/
def cleanBridge (d : DeviceId) (entry : Entry) (ok : Bool) : State :=
  let lcm := s.handler entry.lcmSocket
  if lcm.isConnected then
    let gone := entry.appSockets.filter fun c => !(s.handler c).isConnected
    let left := entry.appSockets.filter fun c => (s.handler c).isConnected
    (s.release gone).setEntry d (some { entry with appSockets := left })
  else
    let s := (s.release entry.handlers).setEntry d none
    s.recordStatus lcm.deviceId ((s.devices lcm.deviceId).map fun _ => false) ok

/-- The constructor, with the contents of the database; `ok` tells whether its statement
succeeds. -/
def start (db ok : Bool) (devices : DeviceId → Option Bool) (apps : DeviceId → Option DeviceId) :
    State where
  handler _ := { kind := .lcm, handlerId := 0 }
  accepted := 0
  handlerId _ := 0
  accepting _ := none
  pending _ _ := none
  bridgeMap _ := none
  db := db
  devices d := if db && ok then (devices d).map fun _ => false else devices d
  apps := apps

end State

/-! ### The machine -/

/-- What one of the threads does. -/
inductive Event
  | accept (k : Kind)
  | subscribe (k : Kind)
  | insert (k : Kind)
  | identify (c : ℕ) (deviceId : DeviceId) (ok : Bool)
  | attach (c : ℕ)
  /-- The thread of a handler ends: the connection is closed, or `acceptSocket` fails. -/
  | exit (c : ℕ)
  | register (appId lcmId : DeviceId) (okDevice okApp : Bool)
  | cleanPending (k : Kind) (key : Key)
  | cleanBridge (d : DeviceId) (ok : Bool)

/-- The state after an event. -/
def step (s : State) : Event → Option State
  | .accept k => if (s.accepting k).isSome then none else some (s.accept k)
  | .subscribe k =>
    (s.accepting k).bind fun c =>
      if (s.handler c).subscribed then none else some (s.subscribe c)
  | .insert k =>
    (s.accepting k).bind fun c =>
      if (s.handler c).subscribed then some (s.insert k c) else none
  | .identify c deviceId ok =>
    if c < s.accepted ∧ (s.handler c).phase = .identifying then some (s.identify c deviceId ok)
    else none
  | .attach c =>
    if c < s.accepted ∧ (s.handler c).phase = .lookedUp then some (s.attach c) else none
  | .exit c =>
    if c < s.accepted ∧ ((s.handler c).phase = .identifying ∨ (s.handler c).phase = .forwarding)
    then some (s.setHandler c { s.handler c with phase := .ended }) else none
  | .register appId lcmId okDevice okApp =>
    some (s.updateRegistration appId lcmId okDevice okApp)
  | .cleanPending k key => (s.pending k key).map (s.cleanPending k key)
  | .cleanBridge d ok => (s.bridgeMap d).map fun entry => s.cleanBridge d entry ok

section

variable {s s' : State}

theorem step_accept {k : Kind} :
    step s (.accept k) = some s' ↔ s.accepting k = none ∧ s.accept k = s' := by
  simp [step]

theorem step_subscribe {k : Kind} : step s (.subscribe k) = some s' ↔
    ∃ c, s.accepting k = some c ∧ (s.handler c).subscribed = false ∧ s.subscribe c = s' := by
  simp [step, Option.bind_eq_some_iff]

theorem step_insert {k : Kind} : step s (.insert k) = some s' ↔
    ∃ c, s.accepting k = some c ∧ (s.handler c).subscribed = true ∧ s.insert k c = s' := by
  simp [step, Option.bind_eq_some_iff]

theorem step_identify {c : ℕ} {d : DeviceId} {ok : Bool} : step s (.identify c d ok) = some s' ↔
    (c < s.accepted ∧ (s.handler c).phase = .identifying) ∧ s.identify c d ok = s' := by
  simp [step]

theorem step_attach {c : ℕ} : step s (.attach c) = some s' ↔
    (c < s.accepted ∧ (s.handler c).phase = .lookedUp) ∧ s.attach c = s' := by
  simp [step]

theorem step_exit {c : ℕ} : step s (.exit c) = some s' ↔
    (c < s.accepted ∧ ((s.handler c).phase = .identifying ∨ (s.handler c).phase = .forwarding)) ∧
      s.setHandler c { s.handler c with phase := .ended } = s' := by
  simp [step]

theorem step_register {appId lcmId : DeviceId} {okDevice okApp : Bool} :
    step s (.register appId lcmId okDevice okApp) = some s' ↔
      s.updateRegistration appId lcmId okDevice okApp = s' := by
  simp [step]

theorem step_cleanPending {k : Kind} {key : Key} : step s (.cleanPending k key) = some s' ↔
    ∃ c, s.pending k key = some c ∧ s.cleanPending k key c = s' := by
  simp [step]

theorem step_cleanBridge {d : DeviceId} {ok : Bool} : step s (.cleanBridge d ok) = some s' ↔
    ∃ entry, s.bridgeMap d = some entry ∧ s.cleanBridge d entry ok = s' := by
  simp [step]

end

/-- The bridge, from its construction on. -/
def bridge : Machine State Event where
  init s := ∃ db ok devices apps, s = State.start db ok devices apps
  step := step

end Bridge

end Lcm
