import Lcm.ChallengeResponse
import Lcm.Hex
import Lcm.Json.Transmit
import Lcm.Run.Logged

/-!
# The authentication of the JSON sockets

A connection to the JSON port is sent a random challenge, and answers with its encryption under
the stored key, as 32 hexadecimal characters.  The task looks at one socket after the other, again
and again.  On each pass it does for a socket what its `jsa_state` asks for, and the JSON code runs
only once the state has the bit `JSA_MASK_JSON_ENABLED`.

A pass over a socket is one step; the tasks that accept and close connections run between passes.

The challenge and the response are kept in the socket's receive buffer, a `json_socket_auth` on the
heap.  What is in a buffer that `malloc` returns is not known: it is part of the input of a pass,
like the characters, the random numbers and the clock.  The cipher is a parameter.

## Main definitions

* `JsonSocket`, `JsonSocketAuth` : an entry of `jsonSockets`, and its buffer.
* `allocate`, `startAuth`, `receiveResponse`, `evaluateResponse`, `closeDenied` : the parts of the
  authentication, in the order in which a pass goes through them.
* `socketPass` : one pass over one socket.
* `jsonSocketTask` : all sockets as a machine, with a trace of what each connection has seen.
-/

namespace Lcm

namespace Jsa

open ChallengeResponse (Observation)
open Json (SocketIndex)

/-! ### Keys -/

/-- Sixteen bytes: a key, a challenge, or a response. -/
abbrev Block := Fin 16 → Byte

/-- `json_socket_key` -/
structure JsonSocketKey where
  /-- `content.b` -/
  content : Block
  /-- `checksum` -/
  checksum : Word

/-- `content.w[idx]`, of a little-endian machine. -/
def JsonSocketKey.word (key : JsonSocketKey) (idx : Fin 8) : Word :=
  wordOfBytes (key.content ⟨2 * idx + 1, by omega⟩) (key.content ⟨2 * idx, by omega⟩)

/-- `FLASH_CHECKSUM_INIT` -/
def flashChecksumInit : Word := 0x7777

/-- The checksum of a key. -/
def JsonSocketKey.sum (key : JsonSocketKey) : Word :=
  (List.finRange 8).foldl (fun acc idx => acc + key.word idx) flashChecksumInit

/-- What the authentication depends on: the keys, and the settings in
`extendedSystemProperties`. -/
structure Settings where
  /-- The user key in flash. -/
  userKey : JsonSocketKey
  /-- `json_socket_factory_key` -/
  factoryKey : Block
  /-- `factory_auth_init` -/
  factoryAuthInit : Word
  /-- `auth_exempt` -/
  authExempt : Word

/-- `FACTORY_AUTH_INIT_ENABLED` -/
def factoryAuthInitEnabled : Word := 0xA574

/-- `AUTH_NOT_EXEMPT` -/
def authNotExempt : Word := 0xE72C

/-- `JSA_UserKeyIsSet` -/
def Settings.userKeyIsSet (settings : Settings) : Bool :=
  settings.userKey.checksum = settings.userKey.sum

/-- The stored key: the user key if it is set, and the factory key otherwise. -/
def Settings.storedKey (settings : Settings) : Block :=
  if settings.userKeyIsSet then settings.userKey.content else settings.factoryKey

/-- A connection is challenged when one of the two keys is enabled. -/
def Settings.authEnabled (settings : Settings) : Bool :=
  settings.factoryAuthInit = factoryAuthInitEnabled || settings.userKeyIsSet

/-- `JSA_WriteUserKeyToFlash` -/
def Settings.writeUserKeyToFlash (settings : Settings) (new : Block) : Settings :=
  { settings with userKey := ⟨new, JsonSocketKey.sum ⟨new, 0⟩⟩ }

@[simp] theorem Settings.storedKey_writeUserKeyToFlash (settings : Settings) (new : Block) :
    (settings.writeUserKeyToFlash new).storedKey = new := by
  have hset : (settings.writeUserKeyToFlash new).userKeyIsSet = true := decide_eq_true rfl
  rw [storedKey, if_pos hset]
  rfl

/-! ### Sockets -/

/-- The values of `jsa_state`. -/
inductive JsaState
  | idle
  | start
  | challengeSent
  | authReceived
  | authDenied
  | lowMem
  | authDefeated
  | authValid
  | requireSetKey
  deriving DecidableEq

/-- The byte that stands for a state. -/
def JsaState.toByte : JsaState → Byte
  | .idle => 0x00
  | .start => Json.jsaStateStart
  | .challengeSent => 0x02
  | .authReceived => 0x03
  | .authDenied => 0x04
  | .lowMem => 0x05
  | .authDefeated => Json.jsaStateAuthDefeated
  | .authValid => Json.jsaStateAuthValid
  | .requireSetKey => 0x08 ||| Json.jsaMaskJsonEnabled ||| Json.jsaMaskJsonLimited

/-- The bit `JSA_MASK_JSON_ENABLED` of the state. -/
def JsaState.jsonEnabled (state : JsaState) : Bool := state.toByte &&& Json.jsaMaskJsonEnabled ≠ 0

/-- The bit `JSA_MASK_JSON_LIMITED` of the state. -/
def JsaState.jsonLimited (state : JsaState) : Bool := state.toByte &&& Json.jsaMaskJsonLimited ≠ 0

/-- `json_socket_auth` -/
structure JsonSocketAuth where
  /-- `challenge_phrase` -/
  challengePhrase : Block
  /-- `challenge_response` -/
  challengeResponse : Block
  /-- `rx_count` -/
  rxCount : Byte
  /-- `event_timer` -/
  eventTimer : Dword
  deriving DecidableEq

/-- `sizeof(json_socket_auth)` -/
def sizeofJsonSocketAuth : ℕ := 40

/-- An entry of `jsonSockets`, as far as the authentication goes. -/
structure JsonSocket where
  /-- `jsonReceiveMessage`, read as a `json_socket_auth`. -/
  jsonReceiveMessage : Option JsonSocketAuth
  /-- `jsonReceiveMessageAllocSize` -/
  jsonReceiveMessageAllocSize : Word
  /-- `JSONSocketConnection` -/
  JSONSocketConnection : Dword
  /-- `needsAttachSock` -/
  needsAttachSock : Bool
  /-- `WatchSocket` -/
  WatchSocket : Bool
  /-- `jsa_state` -/
  jsaState : JsaState

/-- What a pass over a socket gets from its environment. -/
structure PassInput where
  /-- What `RTCS_attachsock` returns. -/
  attached : Dword
  /-- The system is about to restart. -/
  restarting : Bool
  /-- What `malloc` returns: a buffer with whatever is in it, or nothing. -/
  malloc : Option JsonSocketAuth
  /-- The random bytes of a challenge. -/
  challenge : Block
  /-- The bytes that `Socket_recv` returns. -/
  received : List Byte
  /-- After them, `Socket_recv` returns an error. -/
  recvFailed : Bool
  /-- `Eliot_TimeNow` when the response is complete. -/
  answered : Dword
  /-- `Eliot_TimeNow` when the response is to be evaluated. -/
  evaluated : Dword
  /-- `Eliot_TimeNow` when the response is denied. -/
  denied : Dword
  /-- `Eliot_TimeNow` when the connection is to be closed. -/
  checked : Dword
  /-- `JSONtransmitQueueIsEmpty` -/
  transmitQueueIsEmpty : Bool
  /-- The buffer that the JSON code leaves behind, and its size. -/
  jsonBuffer : Option JsonSocketAuth × Word

/-- What is observed of the authentication of a connection. -/
abbrev Seen := Observation Block Block Byte Dword

/-! ### A pass over a socket -/

/-- The beginning of the authentication: the buffer. -/
def allocate (input : PassInput) (s : JsonSocket) : JsonSocket :=
  -- `!` binds more tightly than `<`, so that what is compared with the size is 0 or 1
  if (if s.jsonReceiveMessageAllocSize = 0 then 1 else 0) < sizeofJsonSocketAuth then
    match input.malloc with
    | some jsa =>
      { s with
        jsonReceiveMessage := some jsa
        jsonReceiveMessageAllocSize := BitVec.ofNat 16 sizeofJsonSocketAuth }
    | none => { s with jsonReceiveMessage := none, jsaState := .lowMem }
  else s

/-- The state `JSA_STATE_START`: whether the connection is challenged.  Where the source goes on
with the next socket, it leaves a state that the later parts do not act on. -/
def startAuth (settings : Settings) (input : PassInput) (s : JsonSocket) :
    Logged Seen JsonSocket :=
  match s.jsaState, s.jsonReceiveMessage with
  | .start, some jsa =>
    if s.WatchSocket then do
      .touch .exempt
      pure { s with jsaState := .authDefeated }
    else if settings.factoryAuthInit ≠ factoryAuthInitEnabled ∧ !settings.userKeyIsSet then do
      .touch .exempt
      if settings.authExempt = authNotExempt then pure { s with jsaState := .requireSetKey }
      else pure { s with jsaState := .authDefeated }
    else do
      .touch (.challenge input.challenge)
      pure { s with
        jsonReceiveMessage := some { jsa with
          challengePhrase := input.challenge
          challengeResponse := fun _ => 0
          rxCount := 0 }
        jsaState := .challengeSent }
  | _, _ => pure s

/-- The value of a character, as the source computes it. -/
def nibble (x : Byte) : Byte := if x < 0x41 then x - 0x30 else (0x20 ||| x) - 87

/-- One character of the response. -/
def receiveCharacter (jsa : JsonSocketAuth) (x : Byte) : JsonSocketAuth :=
  let idx : Fin 16 := ⟨((jsa.rxCount >>> 1) &&& 15).toNat, by
    have : ((jsa.rxCount >>> 1) &&& 15).toNat ≤ 15 := by
      rw [BitVec.toNat_and]
      exact Nat.and_le_right
    omega⟩
  { jsa with
    challengeResponse := Function.update jsa.challengeResponse idx
      (jsa.challengeResponse idx ||| nibble x <<< (if jsa.rxCount &&& 1 ≠ 0 then 0 else 4))
    rxCount := jsa.rxCount + 1 }

/-- `JSA_EVAL_WAIT_SEC` -/
def jsaEvalWaitSec : Dword := 2

/-- The state `JSA_STATE_CHALLENGE_SENT`: all characters that are there are received. -/
def receiveResponse (input : PassInput) (s : JsonSocket) : Logged Seen JsonSocket :=
  match s.jsaState, s.jsonReceiveMessage with
  | .challengeSent, some jsa => do
    .touch (.response input.received)
    let jsa := input.received.foldl receiveCharacter jsa
    if input.recvFailed then
      .touch .failed
      pure { s with jsonReceiveMessage := some jsa, jsaState := .idle }
    else if jsa.rxCount ≥ 32 then
      .touch (.answered input.answered)
      pure { s with
        jsonReceiveMessage := some { jsa with eventTimer := input.answered + jsaEvalWaitSec }
        jsaState := .authReceived }
    else pure { s with jsonReceiveMessage := some jsa }
  | _, _ => pure s

/-- The state `JSA_STATE_AUTH_RECEIVED`: the response is compared with the encryption of the
challenge. -/
def evaluateResponse (encrypt : Block → Block → Block) (settings : Settings) (input : PassInput)
    (s : JsonSocket) : Logged Seen JsonSocket :=
  match s.jsaState, s.jsonReceiveMessage with
  | .authReceived, some jsa =>
    if input.evaluated > jsa.eventTimer then
      if encrypt settings.storedKey jsa.challengePhrase ≠ jsa.challengeResponse then do
        .touch (.refuse settings.storedKey)
        pure { s with
          jsonReceiveMessage := some { jsa with eventTimer := input.denied + jsaEvalWaitSec }
          jsaState := .authDenied }
      else do
        .touch (.accept settings.storedKey)
        pure { s with jsaState := .authValid }
    else pure s
  | _, _ => pure s

/-- `ShutdownSocket` -/
def shutdownSocket (s : JsonSocket) : JsonSocket :=
  match s.jsonReceiveMessage with
  | some _ =>
    { s with
      jsonReceiveMessage := none
      jsonReceiveMessageAllocSize := 0
      WatchSocket := false
      JSONSocketConnection := 0 }
  | none => { s with JSONSocketConnection := 0 }

/-- The state `JSA_STATE_AUTH_DENIED`: the connection is closed after a while. -/
def closeDenied (input : PassInput) (s : JsonSocket) : JsonSocket :=
  match s.jsaState, s.jsonReceiveMessage with
  | .authDenied, some jsa => if input.checked > jsa.eventTimer then shutdownSocket s else s
  | _, _ => s

/-- The authentication of a socket, on one pass. -/
def authenticate (encrypt : Block → Block → Block) (settings : Settings) (input : PassInput)
    (s : JsonSocket) : Logged Seen JsonSocket := do
  let s ← startAuth settings input (allocate input s)
  let s ← receiveResponse input s
  let s ← evaluateResponse encrypt settings input s
  pure (closeDenied input s)

/-- `RTCS_SOCKET_ERROR` -/
def rtcsSocketError : Dword := -1

/-- A new connection is taken over by the task. -/
def attach (input : PassInput) (s : JsonSocket) : JsonSocket :=
  if s.needsAttachSock then
    { s with
      needsAttachSock := false
      JSONSocketConnection := input.attached
      jsonReceiveMessageAllocSize :=
        if input.attached = rtcsSocketError then s.jsonReceiveMessageAllocSize else 0 }
  else s

/-- The pass goes as far as the authentication, or the JSON code, of the socket. -/
def Serves (input : PassInput) (s : JsonSocket) : Prop :=
  s.JSONSocketConnection ≠ 0 ∧ ¬ (s.needsAttachSock = true ∧ input.attached = rtcsSocketError) ∧
    input.restarting = false

instance (input : PassInput) (s : JsonSocket) : Decidable (Serves input s) :=
  inferInstanceAs (Decidable (_ ∧ _))

/-- The JSON code: everything received is taken as JSON. -/
def receiveJson (input : PassInput) (s : JsonSocket) : Logged Seen JsonSocket := do
  .touch (.input input.received)
  pure { s with
    jsonReceiveMessage := input.jsonBuffer.1
    jsonReceiveMessageAllocSize := input.jsonBuffer.2 }

/-- One pass of the task over a socket. -/
def socketPass (encrypt : Block → Block → Block) (settings : Settings) (input : PassInput)
    (s : JsonSocket) : Logged Seen JsonSocket :=
  if Serves input s then
    let s := attach input s
    if !s.jsaState.jsonEnabled then authenticate encrypt settings input s
    else if input.transmitQueueIsEmpty then receiveJson input s
    else pure s
  else if s.JSONSocketConnection ≠ 0 then pure (attach input s)
  else pure s

/-! ### The task -/

/-- The sockets, the settings, and a trace of what has been seen on each connection. -/
structure State where
  /-- `jsonSockets` -/
  jsonSockets : SocketIndex → JsonSocket
  /-- The keys and settings. -/
  settings : Settings
  /-- What has been seen on the connection of each socket since it was accepted. -/
  trace : SocketIndex → List Seen

/-- The entry of a socket without a connection, when the system starts. -/
def JsonSocket.closed : JsonSocket where
  jsonReceiveMessage := none
  jsonReceiveMessageAllocSize := 0
  JSONSocketConnection := 0
  needsAttachSock := false
  WatchSocket := false
  jsaState := .idle

/-- The state when the system starts. -/
def State.start (settings : Settings) : State where
  jsonSockets := fun _ => .closed
  settings := settings
  trace := fun _ => []

/-- What can happen. -/
inductive Event
  /-- `JSONAccept_Task` accepts a connection, of the Apple Watch port or of the JSON port. -/
  | accept (socketRequest : Dword) (watch : Bool)
  /-- `Socket_Task` passes over a socket. -/
  | pass (socketIndex : SocketIndex) (input : PassInput)
  /-- Some task closes a connection. -/
  | shutdown (socketIndex : SocketIndex)
  /-- `JSA_HandleKeysProperty` adopts a new key, for a command of a socket. -/
  | handleKeysProperty (socketIndexGlobalRx : SocketIndex) (new : Block)
  /-- Some other code changes the keys or settings. -/
  | configure (settings : Settings)

/-- One entry of `jsonSockets` is changed. -/
def State.setSocket (st : State) (i : SocketIndex) (s : JsonSocket) : State :=
  { st with jsonSockets := Function.update st.jsonSockets i s }

/-- The first socket without a connection. -/
def State.freeSocket (st : State) : Option SocketIndex :=
  (List.finRange _).find? fun i => (st.jsonSockets i).JSONSocketConnection = 0

/-- The socket of a connection that has just been accepted. -/
def JsonSocket.accepted (s : JsonSocket) (socketRequest : Dword) (watch : Bool) : JsonSocket :=
  { s with
    jsaState := .start
    JSONSocketConnection := socketRequest
    WatchSocket := watch
    needsAttachSock := true }

/-- What `JSA_HandleKeysProperty` does when the old key has been found right. -/
def State.adoptKey (st : State) (socketIndexGlobalRx : SocketIndex) (new : Block) : State :=
  { st with
    settings := st.settings.writeUserKeyToFlash new
    jsonSockets := fun x =>
      if x ≠ socketIndexGlobalRx then shutdownSocket (st.jsonSockets x)
      else if (st.jsonSockets x).jsaState.jsonLimited then
        { st.jsonSockets x with jsaState := .authDefeated }
      else st.jsonSockets x }

/-- One step. -/
def State.next (encrypt : Block → Block → Block) (st : State) : Event → State
  | .accept socketRequest watch =>
    match st.freeSocket with
    | some i =>
      { st.setSocket i ((st.jsonSockets i).accepted socketRequest watch) with
        trace := Function.update st.trace i [] }
    | none => st
  | .pass i input =>
    let after := socketPass encrypt st.settings input (st.jsonSockets i)
    { st.setSocket i after.value with
      trace := Function.update st.trace i (st.trace i ++ after.log) }
  | .shutdown i => st.setSocket i (shutdownSocket (st.jsonSockets i))
  | .handleKeysProperty i new => st.adoptKey i new
  | .configure settings => { st with settings := settings }

/-- **The JSON socket task**, with the tasks that change the sockets between its passes. -/
def jsonSocketTask (encrypt : Block → Block → Block) : Machine State Event where
  init st := ∃ settings, st = .start settings
  step st e := some (st.next encrypt e)

end Jsa

end Lcm
