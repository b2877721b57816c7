import Lcm.Eliot.Devices
import Lcm.House.Zones
import Lcm.Run.Routine

/-!
# Connections to the cloud

The functions of the REST task open a connection with a socket, a context and an SSL session, read a
response with one of a few loops, and release what they have opened.  How each attempt to connect
turns out, and what the calls of `wolfSSL_read` return while the connection lasts, is given: that is
the cloud.  The loops that wait for a real time to pass are left out, and so is what is sent.

The trace of a function is what it opens and releases, and where it begins to wait for a response.

## Main definitions

* `Attempt`, `Cloud` : what happens in an attempt to connect.
* `State`, `Step` : the state of the task, and the trace.
* `cleanupSockets`, `connect`, `connectWithRetry` : the functions of the source.
* `hear`, `receive` : a call of `wolfSSL_read` and what is done about it, and the receive loops.
* `receiveStatus`, `receiveBytes` : the other functions that read.
-/

namespace Lcm

namespace Eliot

namespace Rest

open House Jsr Routine

/-! ### The cloud -/

/-- What `wolfSSL_connect` and `wolfSSL_get_error` return. -/
inductive Handshake
  /-- `SSL_SUCCESS` -/
  | success
  /-- `SSL_ERROR_WANT_READ` or `SSL_ERROR_WANT_WRITE` -/
  | recoverable
  /-- An unrecoverable error. -/
  | failed
  deriving DecidableEq

/-- What `wolfSSL_read` returns. -/
inductive Read
  /-- Some bytes; as many of them as are asked for are read. -/
  | bytes (first : Byte) (rest : List Byte)
  /-- 0 -/
  | zero
  /-- -1; `wolfSSL_want_read` tells whether to try again. -/
  | error (wantRead : Bool)
  deriving DecidableEq

/-- An attempt to connect, and what happens while the connection lasts. -/
structure Attempt where
  /-- Whether the calls of `RTCS_resolve_ip_address` find the address. -/
  resolved : ℕ → Bool
  /-- `socket` returns a handle. -/
  socket : Bool
  /-- `connect` returns `RTCS_OK`. -/
  connected : Bool
  /-- `wolfSSL_CTX_new` returns a context. -/
  context : Bool
  /-- `wolfSSL_new` returns a session. -/
  session : Bool
  /-- `wolfSSL_set_fd` succeeds. -/
  fd : Bool
  /-- What the calls of `wolfSSL_connect` return. -/
  handshake : ℕ → Handshake
  /-- `json_object` or `malloc` returns memory. -/
  allocated : Bool
  /-- `json_dumps` returns a text. -/
  dumped : Bool
  /-- The last part of the request that is checked has been sent. -/
  sent : Bool
  /-- What the calls of `wolfSSL_read` return. -/
  reads : ℕ → Read

/-- What happens in the attempts to connect, one after the other. -/
abbrev Cloud := ℕ → Attempt

/-- `MAX_NUMBER_OF_IP_ADDRESS_RESOLUTION_ATTEMPTS` -/
abbrev maxNumberOfIpAddressResolutionAttempts : ℕ := 3

/-- `ELIOT_SSL_CONNECT_RETRIES` -/
abbrev eliotSslConnectRetries : ℕ := 500

/-- `ELIOT_CONNECT_WITH_RETRY_ATTEMPTS` -/
abbrev eliotConnectWithRetryAttempts : ℕ := 5

/-- `ELIOT_RECEIVE_MAX_RETRIES` -/
abbrev eliotReceiveMaxRetries : ℕ := 200

/-- `ELIOT_JSR_BLOCK_SIZE` -/
abbrev eliotJsrBlockSize : ℕ := 32

/-! ### The state and the trace -/

/-- What a connection consists of. -/
inductive Kind
  /-- `WOLFSSL` -/
  | ssl
  /-- `WOLFSSL_CTX` -/
  | context
  /-- A socket. -/
  | socket
  deriving DecidableEq

/-- A part of a connection, with the number of the attempt that has opened it. -/
structure Resource where
  /-- What it is. -/
  kind : Kind
  /-- Which attempt has opened it. -/
  attempt : ℕ
  deriving DecidableEq

/-- `ssl`, `ctx` and `socket` of a function, if they are not null or `RTCS_SOCKET_ERROR`; they are
given by the attempt that has opened them. -/
structure Handles where
  /-- `ssl` -/
  ssl : Option ℕ
  /-- `ctx` -/
  context : Option ℕ
  /-- `socket` -/
  socket : Option ℕ

/-- The handles of a connection. -/
def Handles.of (k : ℕ) : Handles := ⟨some k, some k, some k⟩

/-- All handles are cleared. -/
def Handles.cleared : Handles := ⟨none, none, none⟩

/-- The variables of the task. -/
structure State where
  /-- How many attempts to connect there have been. -/
  tried : ℕ
  /-- `eliot_error_count.open_sockets` -/
  openSockets : Dword
  /-- The zones and the scenes. -/
  house : House.State
  /-- `eliot_user_token` -/
  userToken : List Byte
  /-- `eliot_refresh_token` -/
  refreshToken : List Byte
  /-- `eliot_lcm_plant_id` -/
  plantId : List Byte
  /-- `eliot_lcm_module_id` -/
  moduleId : List Byte
  /-- `eliot_primary_key` -/
  primaryKey : List Byte
  /-- `extendedSystemProperties.signedFWMetricsInstantiatedToEliot` is set. -/
  metricsInstantiated : Bool
  /-- What the flash has at `LCM_DATA_PLANT_ID_OFFSET`. -/
  flashPlantId : List Byte

/-- The loops that receive a response with the streaming reader. -/
inductive Wait
  /-- In `Eliot_UpdateTokens`. -/
  | token
  /-- In `Eliot_GetLcmPlantId`, `Eliot_SearchForModuleId` and `Eliot_AddLcmModule`. -/
  | search
  /-- In `Eliot_AddDevice`. -/
  | device
  /-- In `Eliot_SyncDevices`. -/
  | list
  deriving DecidableEq

/-- What a receive loop keeps between its rounds. -/
structure Listener where
  /-- `jsr` -/
  jsr : JsrEnv
  /-- `total_read` -/
  totalRead : Dword
  /-- `timeout_counter` -/
  timeoutCounter : ℕ
  /-- `rx_count > 0` -/
  received : Bool
  /-- How many calls of `wolfSSL_read` there have been on the connection. -/
  position : ℕ

/-- What a function does. -/
inductive Step
  /-- Something is opened. -/
  | opened (r : Resource)
  /-- Something is released. -/
  | released (r : Resource)
  /-- A round of a retry loop finds no connection. -/
  | unconnected
  /-- A receive loop begins. -/
  | awaits (w : Wait) (k : ℕ) (l : Listener)
  /-- The loop of `Eliot_ReceiveBytes` begins. -/
  | receives (k : ℕ)
  /-- `Eliot_AddDevice` has a connection. -/
  | adds (k : ℕ) (deviceType : Byte)
  /-- `Eliot_LcmPlantAndModuleInit` has found a module to delete. -/
  | deletes (id : List Byte)

/-- A function of the task, or a part of it. -/
abbrev Rest (α : Type) := Routine State Step α

/-! ### Connecting -/

/-- The address is found by one of the calls of `RTCS_resolve_ip_address`. -/
def Attempt.resolves (a : Attempt) : Bool :=
  (List.range maxNumberOfIpAddressResolutionAttempts).any a.resolved

/-- The loop around `wolfSSL_connect`, with a number of calls left. -/
def handshakes (handshake : ℕ → Handshake) : ℕ → ℕ → Bool
  | 0, _ => false
  | left + 1, i =>
    match handshake i with
    | .success => true
    | .recoverable => handshakes handshake left (i + 1)
    | .failed => false

/-- Something is released, unless its handle is null. -/
def release (kind : Kind) : Option ℕ → Rest Unit
  | none => pure ()
  | some k => mark (.released ⟨kind, k⟩)

/-- `cleanupSockets`; `wolfSSL_CTX_free` does nothing about a null pointer. -/
def cleanupSockets (h : Handles) : Rest Handles := do
  modify fun st => { st with openSockets := st.openSockets - 1 }
  release .ssl h.ssl
  release .context h.context
  release .socket h.socket
  pure .cleared

/-- The part of `Eliot_Connect` that opens a connection: the handles, and whether all went well. -/
def establish (k : ℕ) (a : Attempt) : Rest (Handles × Bool) :=
  if a.resolves then
    if a.socket then do
      mark (.opened ⟨.socket, k⟩)
      if a.connected then
        if a.context then do
          mark (.opened ⟨.context, k⟩)
          if a.session then do
            mark (.opened ⟨.ssl, k⟩)
            pure (.of k, a.fd && handshakes a.handshake eliotSslConnectRetries 0)
          else pure (⟨none, some k, some k⟩, false)
        else pure (⟨none, none, some k⟩, false)
      else pure (⟨none, none, some k⟩, false)
    else pure (.cleared, false)
  else pure (.cleared, false)

variable (cloud : Cloud)

/-- `Eliot_Connect`: the connection, or none; then all handles are cleared. -/
def connect : Rest (Option ℕ) := do
  let st ← get
  let k := st.tried
  modify fun st => { st with tried := k + 1, openSockets := st.openSockets + 1 }
  let (h, connected) ← establish k (cloud k)
  if connected then pure (some k)
  else do
    let _ ← cleanupSockets h
    pure none

/-- The loop of `Eliot_ConnectWithRetry`, with a number of attempts left. -/
def connectAttempts : ℕ → Rest (Option ℕ)
  | 0 => pure none
  | attempts + 1 => do
    let connection ← connect cloud
    match connection with
    | some k => pure (some k)
    | none => connectAttempts attempts

/-- `Eliot_ConnectWithRetry` -/
def connectWithRetry : Rest (Option ℕ) := connectAttempts cloud eliotConnectWithRetryAttempts

/-! ### Receiving -/

/-- A call of `wolfSSL_read`, and what the reader makes of it: the states in which an object has
ended. -/
def hear (l : Listener) : Read → Listener × List JsrState
  | .bytes first rest =>
    let buffer := (first :: rest).take eliotJsrBlockSize
    let (jsr, events) := (readBuffer l.jsr buffer).value
    ({ l with
        jsr := jsr
        totalRead := l.totalRead + BitVec.ofNat 32 buffer.length
        timeoutCounter := 0
        received := true
        position := l.position + 1 }, events)
  | _ =>
    ({ l with
        timeoutCounter := l.timeoutCounter + 1
        received := false
        position := l.position + 1 }, [])

/-- What keeps a receive loop going although nothing is received. -/
def Wait.depth (w : Wait) (jsr : JsrEnv) : Dword :=
  match w with
  | .token => jsr.depth
  | .search => jsr.arrayDepth
  | .device => 0
  | .list => jsr.arrayDepth

/-- The loop gives up at `timeout_limit`. -/
def Wait.limited : Wait → Bool
  | .token => true
  | .search => true
  | .device => false
  | .list => false

/-- The test of a receive loop. -/
def Wait.goesOn (w : Wait) (l : Listener) : Bool :=
  (l.received || l.totalRead = 0 || w.depth l.jsr ≠ 0) &&
    (!w.limited || l.timeoutCounter < eliotReceiveMaxRetries)

section Receive

variable {β : Type} (w : Wait) (k : ℕ)
  (handle : β → Read → List JsrState → Rest (β × Bool))

/-- A round of a receive loop; the caller handles the objects, and may leave the loop. -/
def receiveRound (x : Listener × β) : Rest ((Listener × β) ⊕ (Listener × β)) := do
  let read := (cloud k).reads x.1.position
  let (l, events) := hear x.1 read
  let (b, found) ← handle x.2 read events
  pure (if found || !w.goesOn l then .inr (l, b) else .inl (l, b))

/-- A receive loop. -/
def receive (l : Listener) (b : β) : Rest (Listener × β) := do
  mark (.awaits w k l)
  iter (receiveRound cloud w k handle) (l, b)

end Receive

/-- The loop of `Eliot_ReceiveStatus`, with `retries` left: how many are left then, the number of
calls of `wolfSSL_read`, and the buffer. -/
def receiveStatusLoop (reads : ℕ → Read) : ℕ → ℕ → List Byte → ℕ × ℕ × List Byte
  | 0, i, buffer => (0, i, buffer)
  | retries + 1, i, buffer =>
    match reads i with
    | .bytes first rest =>
      let buffer := buffer ++ (first :: rest).take (16 - buffer.length)
      if buffer.length < 16 then receiveStatusLoop reads retries (i + 1) buffer
      else (retries, i + 1, buffer)
    | .zero => (retries, i + 1, buffer)
    | .error _ => receiveStatusLoop reads retries (i + 1) buffer

/-- `Eliot_ReceiveStatus`: the status, and the number of calls of `wolfSSL_read`. -/
def receiveStatus (reads : ℕ → Read) : ℤ × ℕ :=
  let (retries, position, buffer) := receiveStatusLoop reads eliotReceiveMaxRetries 0 []
  if retries = 0 then (-1, position)
  else if buffer.length < 16 then (-2, position)
  else (atoi ((buffer.drop 9).take 3), position)

/-- A round of the loop of `Eliot_ReceiveBytes`. -/
def receiveBytesRound (k bufferSize i : ℕ) : Rest (ℕ ⊕ (ℤ × List Byte)) :=
  match (cloud k).reads i with
  | .bytes first rest =>
    let response := (first :: rest).take bufferSize
    pure (.inr (response.length, response))
  | .zero => pure (.inr (0, []))
  | .error true => pure (.inl (i + 1))
  | .error false => pure (.inr (-1, []))

/-- `Eliot_ReceiveBytes`: what it returns, and the response from which it fills the buffer. -/
def receiveBytes (k bufferSize : ℕ) : Rest (ℤ × List Byte) := do
  mark (.receives k)
  iter (receiveBytesRound cloud k bufferSize) 0

end Rest

end Eliot

end Lcm
