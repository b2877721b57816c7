import Lcm.Jsa.Sockets
import Lcm.Services.TestMode

/-!
# The services of the JSON sockets

A request names a service.  Which services a socket may use depends on the test mode, on whether it
is a watch socket, and on whether it is limited to setting the user key; `processJsonService` asks
these questions in the order of the source.

What the services do that need no more than an unrestricted or an authenticated socket is a
parameter, `Handlers`; it may change everything but the sockets.  The services of the test mode,
the authentication of a watch, and the properties a limited socket may set are modelled.

## Main definitions

* `State`, `Effect`, `Outcome` : what a request finds, causes and leaves behind.
* `testWatchAuth` : the authentication of a request from a watch.
* `handleSetSystemProperties` : the two passes over the properties.
* `processJsonService`, `processJsonPacket` : the services.
* `jsonServices` : the requests of all sockets as a machine.
-/

namespace Lcm

namespace Services

open Jsa (Block Settings)
open Json (SocketIndex)

variable {D : Type*}

/-! ### State -/

/-- What the tasks share, apart from the sockets. -/
structure Shared (D : Type*) where
  /-- `systemProperties.effectiveGmtOffsetSeconds` -/
  effectiveGmtOffsetSeconds : Dword
  /-- `myMACAddress` -/
  myMACAddress : List Byte
  /-- Everything else. -/
  device : D

/-- The state of the services. -/
structure State (D : Type*) where
  /-- The sockets, the keys and the settings. -/
  jsa : Jsa.State
  /-- `manufacturingTestModeFlag` -/
  manufacturingTestModeFlag : Bool
  /-- Everything else. -/
  shared : Shared D

/-- What a request causes outside the memory of the tasks. -/
inductive Effect
  /-- `SendJSONPacket`, to one socket -/
  | sendJSONPacket (socketIndex : SocketIndex) (packet : JsonT)
  /-- `SendJSONPacket`, to all sockets -/
  | broadcast (packet : JsonT)
  /-- `JSA_WriteUserKeyToFlash` -/
  | writeUserKeyToFlash (new : Block)
  /-- `RFM100_Send` -/
  | rfm100Send (xmitBuffer : List Byte)
  /-- `lwgpio_set_value`, of one of `MTMOutputs` -/
  | setOutput (outputIndex : ℕ) (low : Bool)
  /-- `SaveSystemPropertiesToFlash` -/
  | saveSystemProperties
  /-- Any other command that a service gives: to the RF task, to the cloud, for an update. -/
  | command (code : ℕ)

/-- What becomes of a request. -/
structure Outcome (D : Type*) where
  /-- The state afterwards. -/
  state : State D
  /-- What has been caused. -/
  effects : List Effect := []
  /-- The error in the response, if there is one. -/
  reply : Option Error := none
  /-- `*jsonBroadcastObjectPtr` -/
  broadcast : Option JsonT := none

/-- What a handler makes of the state. -/
structure Change (D : Type*) where
  /-- The keys and settings. -/
  settings : Settings
  /-- What the tasks share. -/
  shared : Shared D
  /-- What has been caused. -/
  effects : List Effect
  /-- The error in the response, if there is one. -/
  reply : Option Error
  /-- `*jsonBroadcastObjectPtr` -/
  broadcast : Option JsonT

/-- The services of a socket that is not limited. -/
structure Handlers (D : Type*) where
  /-- The handler of a service. -/
  service : String → JsonT → SocketIndex → State D → Change D
  /-- `HandleIndividualSystemProperty`, for a property other than the keys: with `setFlag`, what
  becomes of the state; whether to stop is the second part. -/
  systemProperty : String → JsonT → Bool → SocketIndex → State D → Change D × Bool

/-- What a request gets from its environment. -/
structure Input where
  /-- The seconds of `_time_get`. -/
  time : Dword
  /-- What is on the stack behind the decrypted challenge. -/
  stack : List Byte
  /-- What `SaveSystemPropertiesToFlash` returns. -/
  saved : ℕ

/-- The state after a change. -/
def State.apply (st : State D) (change : Change D) : State D :=
  { st with jsa := { st.jsa with settings := change.settings }, shared := change.shared }

/-- What becomes of a request that a handler answers. -/
def Outcome.ofChange (st : State D) (change : Change D) : Outcome D where
  state := st.apply change
  effects := change.effects
  reply := change.reply
  broadcast := change.broadcast

/-- `BuildErrorResponse` -/
def Outcome.error (st : State D) (e : Error) : Outcome D := { state := st, reply := some e }

/-- The packet that tells all sockets of a request. -/
def announce (root : JsonT) : JsonT := (root.set "ID" (.integer 0)).set "Status" (.string "Success")

/-! ### The manufacturing test mode -/

/-- `HandleManufacturingTestMode` -/
def handleManufacturingTestMode (root : JsonT) (st : State D) : Outcome D :=
  if !((root.get "State").any JsonT.isBoolean) then
    .error st ⟨"'State' field not a boolean.", 3000⟩
  else
    let on := (root.get "State").any JsonT.isTrue
    { state := { st with manufacturingTestModeFlag := on }
      -- the four outputs of the LEDs
      effects := if on then (List.range 4).map (Effect.setOutput · false) else []
      broadcast := some (announce root) }

/-- A request that is checked first, and then carried out. -/
def Outcome.ofChecked {α : Type*} (st : State D) (checked : Except Error α)
    (carryOut : α → Outcome D) : Outcome D :=
  match checked with
  | .error e => .error st e
  | .ok a => carryOut a

/-- `HandleMTMSendRFPacket` -/
def handleMTMSendRFPacket (root : JsonT) (st : State D) : Outcome D :=
  .ofChecked st (mtmSendRFPacket root) fun xmitBuffer =>
    { state := st, effects := [.rfm100Send xmitBuffer] }

/-- `HandleMTMSetOutput` -/
def handleMTMSetOutput (root : JsonT) (st : State D) : Outcome D :=
  .ofChecked st (mtmSetOutput root) fun (outputIndex, low) =>
    { state := st, effects := [.setOutput outputIndex low] }

/-- `HandleMTMSetMACAddress` -/
def handleMTMSetMACAddress (input : Input) (root : JsonT) (st : State D) : Outcome D :=
  .ofChecked st (mtmSetMACAddress root) fun bytes =>
    { state :=
        { st with shared := { st.shared with
            myMACAddress := st.shared.myMACAddress.take 3 ++ bytes } }
      effects := [.saveSystemProperties]
      reply :=
        if input.saved ≠ 0 then
          some ⟨s!"Failure erasing/saving FLASH.  Code={input.saved}", 3018⟩
        else none }

/-- The services of the test mode; `SendRS485String` does nothing. -/
def testModeService (input : Input) (serviceText : String) (root : JsonT) (st : State D) :
    Outcome D :=
  if serviceText = "MTMSendRFPacket" then handleMTMSendRFPacket root st
  else if serviceText = "SetOutput" then handleMTMSetOutput root st
  else if serviceText = "SendRS485String" then { state := st }
  else if serviceText = "SetMACAddress" then handleMTMSetMACAddress input root st
  else .error st ⟨"Unknown 'Service'.", 3019⟩

/-! ### The keys -/

/-- The bytes of 32 hexadecimal characters, as the source computes them. -/
def parseHex (text : List Byte) : Block := fun j =>
  Jsa.nibble (text.getD (2 * j) 0) <<< 4 ||| Jsa.nibble (text.getD (2 * j + 1) 0)

/-- The MD5 sum of an empty string. -/
def emptyKey : Block := fun i =>
  [0xD4, 0x1D, 0x8C, 0xD9, 0x8F, 0x00, 0xB2, 0x04, 0xE9, 0x80, 0x09, 0x98, 0xEC, 0xF8, 0x42,
    0x7E].getD i 0

/-- The key that a new key is encrypted under. -/
def localKey (settings : Settings) : Block :=
  if settings.userKeyIsSet then settings.userKey.content
  else if settings.factoryAuthInit = Jsa.factoryAuthInitEnabled then settings.factoryKey
  else emptyKey

/-- `JSA_HandleKeysProperty`: the old key and the new one, 32 characters each. -/
def handleKeysProperty (decrypt : Block → Block → Block) (keySetString : List Byte)
    (i : SocketIndex) (st : State D) : Outcome D :=
  if keySetString.length ≠ 64 then .error st ⟨"Bad length", -2⟩
  else
    let key := localKey st.jsa.settings
    if decrypt key (parseHex (keySetString.take 32)) ≠ key then
      .error st ⟨"Old key mismatch", -1⟩
    else
      let new := decrypt key (parseHex (keySetString.drop 32))
      { state := { st with jsa := st.jsa.adoptKey i new }, effects := [.writeUserKeyToFlash new] }

/-! ### Watches -/

/-- `MAX_WATCH_TIME_DIFF` -/
def maxWatchTimeDiff : ℤ := 5

/-- The digits at the beginning of a text, as a number. -/
def digitsValue : ℤ → List Byte → ℤ
  | n, [] => n
  | n, x :: text =>
    if 0x30 ≤ x ∧ x ≤ 0x39 then digitsValue (10 * n + (x.toNat - 0x30)) text else n

/-- `atoi` -/
def atoi (text : List Byte) : Dword :=
  match text.dropWhile fun x => x = 0x20 ∨ (0x09 ≤ x ∧ x ≤ 0x0D) with
  | 0x2D :: text => BitVec.ofInt 32 (-digitsValue 0 text)
  | 0x2B :: text => BitVec.ofInt 32 (digitsValue 0 text)
  | text => BitVec.ofInt 32 (digitsValue 0 text)

/-- The time in a request is near enough to the clock. -/
def watchTime (input : Input) (st : State D) (root : JsonT) : Option Dword :=
  match root.get "currTime" with
  | some (.integer value) =>
    let messageTime : Dword := value.setWidth 32
    let delta := (input.time - st.shared.effectiveGmtOffsetSeconds - messageTime).toInt
    if delta < -maxWatchTimeDiff ∨ delta > maxWatchTimeDiff then none else some messageTime
  | _ => none

/-- `TestWatchAuth`: whether the request is from a watch that knows the key. -/
def testWatchAuth (decrypt : Block → Block → Block) (input : Input) (st : State D)
    (root : JsonT) : Bool :=
  if !st.jsa.settings.authEnabled then true
  else
    match watchTime input st root, root.get "auth" with
    | some messageTime, some (.string challengeStr) =>
      let text := JsonT.bytesOfString challengeStr
      if text.length ≠ 32 then false
      else
        let decrypted := decrypt st.jsa.settings.storedKey (parseHex text)
        messageTime = atoi (List.ofFn decrypted ++ input.stack)
    | _, _ => false

/-- The services of a watch. -/
def watchServices : List String :=
  ["SetZoneProperties", "SetSceneProperties", "RunScene", "TriggerRampAllCommand",
    "ListScenesExpanded", "ListZonesExpanded"]

/-- A request of a watch socket. -/
def watchService (decrypt : Block → Block → Block) (handlers : Handlers D) (input : Input)
    (serviceText : String) (root : JsonT) (i : SocketIndex) (st : State D) : Outcome D :=
  if testWatchAuth decrypt input st root then
    if serviceText ∈ watchServices then .ofChange st (handlers.service serviceText root i st)
    else { state := st }
  else
    { state := st
      effects := [.sendJSONPacket i (.object [("AuthFailure", .string "True")])] }

/-! ### The system properties -/

/-- The socket is limited to setting the user key. -/
def Limited (st : State D) (i : SocketIndex) : Prop :=
  (st.jsa.jsonSockets i).jsaState.jsonLimited = true

instance (st : State D) (i : SocketIndex) : Decidable (Limited st i) :=
  inferInstanceAs (Decidable (_ = true))

/-- The property `Keys`. -/
def keysProperty (decrypt : Block → Block → Block) (valueObject : JsonT) (i : SocketIndex)
    (st : State D) : Outcome D :=
  match valueObject with
  | .string keys => handleKeysProperty decrypt (JsonT.bytesOfString keys) i st
  | _ => { state := st }

/-- `HandleIndividualSystemProperty`, and whether to stop. -/
def handleIndividualSystemProperty (decrypt : Block → Block → Block) (handlers : Handlers D)
    (keyPtr : String) (valueObject : JsonT) (i : SocketIndex) (setFlag : Bool) (st : State D) :
    Outcome D × Bool :=
  if keyPtr = "Keys" then (keysProperty decrypt valueObject i st, true)
  else if Limited st i then ({ state := st }, false)
  else
    let (change, stop) := handlers.systemProperty keyPtr valueObject setFlag i st
    ({ Outcome.ofChange st change with broadcast := none }, stop)

/-- One pass over the properties, and whether it stopped before the end. -/
def systemPropertiesPass (decrypt : Block → Block → Block) (handlers : Handlers D)
    (i : SocketIndex) (setFlag : Bool) : List (String × JsonT) → State D → Outcome D × Bool
  | [], st => ({ state := st }, false)
  | (keyPtr, valueObject) :: rest, st =>
    let (first, stop) :=
      handleIndividualSystemProperty decrypt handlers keyPtr valueObject i setFlag st
    if stop then (first, true)
    else
      let (last, stop) := systemPropertiesPass decrypt handlers i setFlag rest first.state
      ({ last with
          effects := first.effects ++ last.effects
          reply := last.reply.or first.reply }, stop)

/-- `HandleSetSystemProperties` -/
def handleSetSystemProperties (decrypt : Block → Block → Block) (handlers : Handlers D)
    (root : JsonT) (i : SocketIndex) (st : State D) : Outcome D :=
  match root.get "PropertyList" with
  | some (.object members) =>
    let (first, stop) := systemPropertiesPass decrypt handlers i false members st
    if stop then first
    else
      let (last, stop) := systemPropertiesPass decrypt handlers i true members first.state
      { last with
        effects := first.effects ++ last.effects
        reply := last.reply.or first.reply
        broadcast :=
          if stop then none
          else some ((announce root).set "Service" (.string "SystemPropertiesChanged")) }
  | _ => .error st ⟨"Invalid 'PropertyList'.", 2029⟩

/-! ### The services -/

/-- The services of a socket that is not limited, but for `SetSystemProperties`. -/
def services : List String :=
  ["SetZoneProperties", "GetFactoryPassword", "ClearFactoryAuthInit", "ListZones",
    "ReportZoneProperties", "DeleteZone", "SystemInfo", "CheckForUpdate", "InstallUpdate",
    "DiscardUpdate", "ClearFlash", "CloudDisconnect", "FirmwareUpdate", "SystemRestart", "ping",
    "ListScenes", "ReportSceneProperties", "SetSceneProperties", "CreateScene", "DeleteScene",
    "RunScene", "ReportSystemProperties", "ListSceneControllers",
    "ReportSceneControllerProperties", "SetSceneControllerProperties", "DeleteSceneController",
    "TriggerRampCommand", "TriggerRampAllCommand", "TriggerSceneControllerCommand",
    "ListScenesExpanded", "ListZonesExpanded"]

/-- `ProcessJsonService` -/
def processJsonService (decrypt : Block → Block → Block) (handlers : Handlers D) (input : Input)
    (serviceText : String) (root : JsonT) (i : SocketIndex) (st : State D) : Outcome D :=
  if serviceText = "ManufacturingTestMode" ∧ !(st.jsa.jsonSockets i).WatchSocket then
    handleManufacturingTestMode root st
  else if st.manufacturingTestModeFlag then testModeService input serviceText root st
  else if (st.jsa.jsonSockets i).WatchSocket then
    watchService decrypt handlers input serviceText root i st
  else if serviceText = "SetSystemProperties" then
    handleSetSystemProperties decrypt handlers root i st
  else if Limited st i then .error st ⟨"Unknown 'Service'.", 2089⟩
  else if serviceText ∈ services then .ofChange st (handlers.service serviceText root i st)
  else .error st ⟨"Unknown 'Service'.", 2089⟩

/-- The service that a request names. -/
def requestedService (root : JsonT) : Except Error String :=
  match root.get "ID" with
  | none => .error ⟨"No 'ID' field.", 2037⟩
  | some idJsonObject =>
    if !idJsonObject.isInteger then .error ⟨"'ID' field not an integer.", 2027⟩
    else
      match root.get "Service" with
      | none => .error ⟨"No 'Service' field.", 2041⟩
      | some (.string serviceText) => .ok serviceText
      | some _ => .error ⟨"'Service' field not a string.", 2080⟩

/-- `ProcessJsonPacket`; there is no `root` when the text of the request is no JSON. -/
def processJsonPacket (decrypt : Block → Block → Block) (handlers : Handlers D) (input : Input)
    (root : Option JsonT) (i : SocketIndex) (st : State D) : Outcome D :=
  match root with
  | none => { state := st }
  | some root =>
    match requestedService root with
    | .error e => .error st e
    | .ok serviceText => processJsonService decrypt handlers input serviceText root i st

/-! ### The machine -/

/-- What can happen. -/
inductive Event (D : Type*)
  /-- A request has been received on a socket. -/
  | request (root : Option JsonT) (socketIndex : SocketIndex) (input : Input)
  /-- Anything that happens to the sockets and settings, without a request. -/
  | socket (e : Jsa.Event)
  /-- Some task changes what the tasks share. -/
  | other (shared : Shared D)

/-- The requests of a socket are processed. -/
def Serving (st : State D) (i : SocketIndex) : Prop :=
  (st.jsa.jsonSockets i).JSONSocketConnection ≠ 0 ∧
    (st.jsa.jsonSockets i).jsaState.jsonEnabled = true

instance (st : State D) (i : SocketIndex) : Decidable (Serving st i) :=
  inferInstanceAs (Decidable (_ ∧ _))

/-- A key is adopted for a request only. -/
def nextSocket (encrypt : Block → Block → Block) (st : State D) : Jsa.Event → Option (State D)
  | .handleKeysProperty _ _ => none
  | e => some { st with jsa := st.jsa.next encrypt e }

/-- One step. -/
def next (encrypt decrypt : Block → Block → Block) (handlers : Handlers D) (st : State D) :
    Event D → Option (State D)
  | .request root i input =>
    if Serving st i then some (processJsonPacket decrypt handlers input root i st).state
    else none
  | .socket e => nextSocket encrypt st e
  | .other shared => some { st with shared := shared }

/-- **The JSON services**: the requests of all sockets, in any order. -/
def jsonServices (encrypt decrypt : Block → Block → Block) (handlers : Handlers D) :
    Machine (State D) (Event D) where
  init st := st.manufacturingTestModeFlag = false ∧ ∃ settings, st.jsa = .start settings
  step := next encrypt decrypt handlers

end Services

end Lcm
