import Lcm.Eliot.Connections

/-!
# The REST functions

`Eliot_REST_Task.c` has a function for each thing that is asked of the cloud.  They are modelled
with all that decides which connections they make and how they go on after a response; the text of
the requests and the error counters are left out.

The stack is given for each number of attempts to connect, so that each call has its own.  What
`json_loads` finds in a response is a parameter.

## Main definitions

* `updateTokens`, `getLcmPlantId`, `searchForModuleId`, `addLcmPlant`, `addLcmModule`, `addDevice`,
  `renameDevice`, `deleteDevice`, `syncDevices`, `lcmPlantAndModuleInit` : the functions of the
  source.
-/

namespace Lcm

namespace Eliot

namespace Rest

open House Scenes Jsr Routine

/-- `ELIOT_RET_…` -/
inductive Ret
  /-- `ELIOT_RET_UNDEFINED` -/
  | undefined
  /-- `ELIOT_RET_OK` -/
  | ok
  /-- `ELIOT_RET_RESOURCE_NOT_FOUND` -/
  | resourceNotFound
  /-- `ELIOT_RET_CONNECT_FAILURE` -/
  | connectFailure
  /-- `ELIOT_RET_RESPONSE_TIMEOUT` -/
  | responseTimeout
  /-- `ELIOT_RET_CLOUD_ERROR` -/
  | cloudError
  /-- `ELIOT_RET_INPUT_ERROR` -/
  | inputError
  /-- `ELIOT_RET_QUOTA_EXCEEDED` -/
  | quotaExceeded
  /-- `ELIOT_RET_CONFLICT` -/
  | conflict
  deriving DecidableEq

/-- `ELIOT_PRIMARY_KEY_SIZE` -/
abbrev eliotPrimaryKeySize : ℕ := 48

/-- `ELIOT_TOKEN_SIZE` -/
abbrev eliotTokenSize : ℕ := 1536

/-- `ELIOT_LAST_SEEN_SIZE` -/
abbrev eliotLastSeenSize : ℕ := 20

/-- `DEBUG_ELIOT_HTTP_ERR_LEN` -/
abbrev debugEliotHttpErrLen : ℕ := 64

/-- `REQUEST_SIZE` -/
abbrev requestSize : ℕ := 1750

/-- `ELIOT_RENAME_ATTEMPTS` -/
abbrev eliotRenameAttempts : ℕ := 5

/-- `ELIOT_CONNECT_ATTEMPTS` -/
abbrev eliotConnectAttempts : ℕ := 10

/-- `ELIOT_LCM_PLANT_NAME` -/
def eliotLcmPlantName : List Byte := JsonT.bytesOfString "LC7001"

/-! ### The reader -/

/-- What is on the stack: the arrays, and uninitialized members. -/
structure Stack extends Eliot.Stack where
  /-- `pairs[].value_max_length` -/
  valueMaxLength : ℕ → Dword
  /-- `rx_buf` -/
  rxBuf : List Byte

/-- A pair with `JSR_PAIR_KEY`, at an index of the array. -/
def keyPair (stack : Stack) (i : ℕ) (key : String) (value : ℕ → Byte) (valueMaxLength : ℕ) :
    JsrPair :=
  ⟨chars (JsonT.bytesOfString key), value, stack.keyMaxLength i, BitVec.ofNat 32 valueMaxLength,
    JSR_PAIR_KEY, stack.depth i⟩

/-- A pair with `JSR_PAIR_BOTH`, at an index of the array. -/
def bothPair (stack : Stack) (i : ℕ) (key : String) (value : List Byte) : JsrPair :=
  ⟨chars (JsonT.bytesOfString key), chars value, stack.keyMaxLength i, stack.valueMaxLength i,
    JSR_PAIR_BOTH, stack.depth i⟩

/-- An array whose first character is cleared. -/
def emptied (b : ℕ → Byte) : ℕ → Byte := Function.update b 0 0

/-- `jsr` -/
def reader (stack : Stack) (valueMaxLength : Dword) (pairs : List JsrPair)
    (pairCount matchThreshold : Byte) : JsrEnv :=
  { jsrEnvInit with
    keyStr := stack.tempKey
    keyMaxLength := 16
    valueStr := stack.tempValue
    valueMaxLength := valueMaxLength
    pairs := some pairs
    matchCount := Function.update (fun _ => 0) JSR_MAX_DEPTH pairCount
    option := JSR_OPTION_SKIP_HTTP_HEADER
    matchThreshold := matchThreshold }

/-- `pairs[i].value_str` -/
def captured (s : JsrState) (i : ℕ) : ℕ → Byte :=
  ((s.pairs.getD [])[i]?).elim (fun _ => 0) (·.valueStr)

/-- Nothing has been received. -/
def Listener.start (jsr : JsrEnv) (position : ℕ) : Listener := ⟨jsr, 0, 0, false, position⟩

variable (cloud : Cloud) (stack : ℕ → Stack) (createdId : List Byte → Option (List Byte))

/-! ### The tokens -/

/-- `jsr` in `Eliot_UpdateTokens`; there is a buffer for a new refresh token, or none. -/
def tokenReader (stack : Stack) (userToken : List Byte) (newRefreshToken : Bool) : JsrEnv :=
  reader stack (BitVec.ofNat 32 eliotTokenSize)
    [keyPair stack 0 "access_token" (chars userToken) eliotTokenSize,
      keyPair stack 1 "error" (emptied (stack.strings 1)) debugEliotHttpErrLen,
      keyPair stack 2 "refresh_token" (emptied (stack.strings 2)) eliotTokenSize]
    (if newRefreshToken then 3 else 2) 1

/-- A refresh token has an acceptable length. -/
def refreshTokenOk (token : List Byte) : Bool :=
  eliotTokenSize / 4 < token.length && token.length < eliotTokenSize - 2

/-- The tokens that have been received. -/
def storeTokens (newRefreshToken : Bool) (s : JsrState) (st : State) : State :=
  let token := takeChars eliotTokenSize (captured s 2)
  { st with
    userToken := takeChars eliotTokenSize (captured s 0)
    refreshToken := if newRefreshToken && refreshTokenOk token then token else st.refreshToken }

/-- `Eliot_UpdateTokens`; whether the refresh token is due for an update is up to the clock. -/
def updateTokens (updateRefreshToken : Bool) : Rest Ret := do
  let st ← get
  let stack := stack st.tried
  if st.refreshToken = [] then pure .inputError
  else do
    let connection ← connect cloud
    match connection with
    | none => pure .connectFailure
    | some k => do
      let newRefreshToken := updateRefreshToken && (cloud k).allocated
      let y ← receive cloud .token k (fun _ _ _ => pure ((), false))
        (.start (tokenReader stack st.userToken newRefreshToken) 0) ()
      modify (storeTokens newRefreshToken y.1.jsr.toJsrState)
      -- a return without `cleanupSockets`
      if eliotReceiveMaxRetries ≤ y.1.timeoutCounter then pure .responseTimeout
      else do
        let _ ← cleanupSockets (.of k)
        pure (if captured y.1.jsr.toJsrState 1 0 ≠ 0 then .cloudError else .ok)

/-! ### Looking for something -/

/-- What the objects in a response have been good for. -/
structure Reply where
  /-- `ret` -/
  ret : Ret
  /-- The id. -/
  id : List Byte
  /-- `newest_last_seen` -/
  newestLastSeen : List Byte

/-- The branches of a retry loop: `connect_retry`, the reader and the reply afterwards. -/
def retryBranch (handle : Reply → Read → List JsrState → Rest (Reply × Bool))
    (x : ℕ × Listener × Reply) : Option ℕ → Rest (ℕ × Listener × Reply)
  | some k => do
    let y ← receive cloud .search k handle { x.2.1 with timeoutCounter := 0, position := 0 } x.2.2
    -- a response that times out does not count
    pure (if eliotReceiveMaxRetries ≤ y.1.timeoutCounter then x.1 else 0, y)
  | none => do
    mark .unconnected
    pure (x.1 - 1, x.2.1, if x.1 - 1 = 0 then x.2.2 else { x.2.2 with ret := .connectFailure })

/-- A round of the loop that connects until a response is received. -/
def retryRound (handle : Reply → Read → List JsrState → Rest (Reply × Bool))
    (x : ℕ × Listener × Reply) : Rest ((ℕ × Listener × Reply) ⊕ (Listener × Reply)) := do
  let connection ← connectWithRetry cloud
  let y ← retryBranch cloud handle x connection
  -- without a connection, the handles have been cleared before
  let _ ← cleanupSockets (connection.elim .cleared .of)
  pure (if 0 < y.1 then .inl y else .inr y.2)

/-- `jsr` in `Eliot_GetLcmPlantId` -/
def plantReader (stack : Stack) : JsrEnv :=
  reader stack 64
    [bothPair stack 0 "name" eliotLcmPlantName,
      keyPair stack 1 "id" (emptied (stack.strings 1)) (eliotDeviceIdSize + 2),
      keyPair stack 2 "message" (emptied (stack.strings 2)) debugEliotHttpErrLen]
    3 2

/-- What `Eliot_GetLcmPlantId` does about an object. -/
def notePlant (reply : Reply) (s : JsrState) : Reply :=
  { reply with ret := .ok, id := takeChars eliotDeviceIdSize (captured s 1) }

/-- `Eliot_GetLcmPlantId` -/
def getLcmPlantId : Rest Ret := do
  let st ← get
  let y ← iter (retryRound cloud fun reply _ events => pure (events.foldl notePlant reply, false))
    (eliotConnectAttempts, .start (plantReader (stack st.tried)) 0,
      ⟨.resourceNotFound, st.plantId, []⟩)
  modify fun st => { st with plantId := y.2.id }
  pure (if captured y.1.jsr.toJsrState 2 0 ≠ 0 then .cloudError else y.2.ret)

/-- `jsr` in `Eliot_SearchForModuleId`; what is looked for is a type or a serial number. -/
def moduleReader (stack : Stack) (plantId : List Byte) (deviceType : Option (List Byte))
    (moduleSerial : List Byte) : JsrEnv :=
  let lastSeen := keyPair stack 4 "lastSeen" (emptied (stack.strings 4)) eliotLastSeenSize
  reader stack 64
    [deviceType.elim (bothPair stack 0 "serialNumber" moduleSerial)
        (bothPair stack 0 "deviceType"),
      keyPair stack 1 "id" (emptied (stack.strings 1)) eliotDeviceIdSize,
      bothPair stack 2 "plantId" plantId,
      keyPair stack 3 "message" (emptied (stack.strings 3)) debugEliotHttpErrLen,
      { lastSeen with option := JSR_PAIR_KEY ||| JSR_PAIR_TRANSIENT }]
    5 4

/-- What `Eliot_SearchForModuleId` does about an object. -/
def noteModule (idLen : ℕ) (reply : Reply) (s : JsrState) : Reply :=
  let id := takeChars idLen (captured s 1)
  let lastSeen := takeChars eliotLastSeenSize (captured s 4)
  let reply :=
    if captured s 1 0 ≠ 0 ∧ idLen ≠ 0 then
      if lastSeen ≠ [] then
        -- `strncmp` compares the times, which are as long as they can be
        if reply.newestLastSeen = [] ∨ reply.newestLastSeen < lastSeen then
          { reply with id := id, newestLastSeen := lastSeen }
        else reply
      else { reply with id := id }
    else reply
  { reply with ret := .ok }

/-- `Eliot_SearchForModuleId`: the value returned, and `module_id`. -/
def searchForModuleId (deviceType moduleSerial : Option (List Byte)) (idLen : ℕ) :
    Rest (Ret × List Byte) := do
  let st ← get
  if deviceType = none ∧ moduleSerial = none then pure (.inputError, [])
  else if st.plantId = [] then pure (.inputError, [])
  else do
    let y ← iter
      (retryRound cloud fun reply _ events =>
        let reply := events.foldl (noteModule idLen) reply
        -- if the device has been found, nothing more is read
        pure (reply, reply.ret = .ok))
      (eliotConnectAttempts,
        .start (moduleReader (stack st.tried) st.plantId deviceType (moduleSerial.getD [])) 0,
        ⟨.resourceNotFound, [], []⟩)
    pure (if captured y.1.jsr.toJsrState 3 0 ≠ 0 then .cloudError else y.2.ret, y.2.id)

/-! ### The plant and the module of the controller -/

/-- The id in a response is stored in flash. -/
def storeCreatedId (response : ℤ × List Byte) (st : State) : State :=
  if 0 < response.1 then
    (createdId response.2).elim st fun id => { st with flashPlantId := id.take eliotDeviceIdSize }
  else st

/-- `Eliot_AddLcmPlant` -/
def addLcmPlant : Rest Ret := do
  let connection ← connectWithRetry cloud
  match connection with
  | none => pure .connectFailure
  | some k => do
    let response ← receiveBytes cloud k requestSize
    modify (storeCreatedId createdId response)
    let _ ← cleanupSockets (.of k)
    pure .ok

/-- `isspace` -/
def isSpace (c : Byte) : Bool := c = 0x20 || (0x09 ≤ c && c ≤ 0x0D)

/-- `isdigit` -/
def isDigit (c : Byte) : Bool := 0x30 ≤ c && c ≤ 0x39

/-- `%d` of `sscanf`: a number, and what follows it. -/
def scanInt (text : List Byte) : Option (ℤ × List Byte) :=
  let text := text.dropWhile isSpace
  let unsigned := match text with
    | 0x2D :: text => text
    | 0x2B :: text => text
    | text => text
  if unsigned.takeWhile isDigit = [] then none
  else some (atoi text, unsigned.dropWhile isDigit)

/-- `sscanf(rx_buf, "HTTP/%d.%d %d", …)`: the third number, if there are three. -/
def scanStatus (text : List Byte) : Option ℤ := do
  let version ← if JsonT.bytesOfString "HTTP/" <+: text then some (text.drop 5) else none
  let (_, text) ← scanInt version
  let minor ← if text.head? = some 0x2E then some (text.drop 1) else none
  let (_, text) ← scanInt minor
  let (status, _) ← scanInt text
  pure status

/-- `jsr` in `Eliot_AddLcmModule` -/
def primaryKeyReader (stack : Stack) : JsrEnv :=
  reader stack 64
    [keyPair stack 0 "primaryKey" (emptied (stack.strings 0)) eliotPrimaryKeySize,
      keyPair stack 1 "message" (emptied (stack.strings 1)) debugEliotHttpErrLen]
    2 1

/-- What `Eliot_AddLcmModule` does about a buffer: `ret` and `rx_buf`, which is not terminated, so
that what is left of the buffers before is behind the bytes; what is behind the array is left
out. -/
def noteStatus (x : Ret × List Byte) : Read → Ret × List Byte
  | .bytes first rest =>
    let buffer := (first :: rest).take eliotJsrBlockSize
    let rxBuf := buffer ++ x.2.drop buffer.length
    (match scanStatus (rxBuf.takeWhile (· ≠ 0)) with
      | some status =>
        if status = 403 ∨ status = 429 then .quotaExceeded
        else if status = 409 then .conflict
        else x.1
      | none => x.1, rxBuf)
  | _ => x

/-- What `Eliot_AddLcmModule` returns when a response has been received. -/
def addLcmModuleRet (ret : Ret) (primaryKey : List Byte) (message : Bool) : Ret :=
  if primaryKey ≠ [] then .ok
  else if ret = .undefined then if message then .cloudError else .resourceNotFound
  else ret

/-- The primary key of a module that has been created. -/
def storePrimaryKey (ret : Ret) (primaryKey : List Byte) (st : State) : State :=
  if ret = .ok then { st with primaryKey := primaryKey, metricsInstantiated := true } else st

/-- `Eliot_AddLcmModule` -/
def addLcmModule : Rest Ret := do
  let st ← get
  let stack := stack st.tried
  if st.plantId = [] then pure .inputError
  else do
    let connection ← connectWithRetry cloud
    match connection with
    | none => pure .connectFailure
    | some k => do
      let y ← receive cloud .search k (fun x read _ => pure (noteStatus x read, false))
        (.start (primaryKeyReader stack) 0) (.undefined, stack.rxBuf)
      let primaryKey := takeChars eliotPrimaryKeySize (captured y.1.jsr.toJsrState 0)
      let ret :=
        if eliotReceiveMaxRetries ≤ y.1.timeoutCounter then .responseTimeout
        else addLcmModuleRet y.2.1 primaryKey (captured y.1.jsr.toJsrState 1 0 ≠ 0)
      let _ ← cleanupSockets (.of k)
      modify (storePrimaryKey ret primaryKey)
      pure ret

/-! ### The devices -/

/-- `jsr` in `Eliot_AddDevice` -/
def deviceReader (stack : Stack) : JsrEnv :=
  reader stack 64 [keyPair stack 0 "id" (stack.strings 0) eliotDeviceIdSize] 1 1

/-- What `Eliot_AddDevice` does about an object. -/
def noteDevice (deviceId : CString eliotDeviceIdSize) (s : JsrState) :
    CString eliotDeviceIdSize :=
  if captured s 0 0 ≠ 0 then .ofBytes (Nat.succ_pos _) (captured s 0) else deviceId

/-- The request of `Eliot_AddDevice`, and its response. -/
def requestDevice (stack : Stack) (k : ℕ) (deviceId : CString eliotDeviceIdSize) :
    Rest (CString eliotDeviceIdSize) :=
  if (cloud k).allocated ∧ (cloud k).dumped ∧ (cloud k).sent then do
    let y ← receive cloud .device k
      (fun deviceId _ events => pure (events.foldl noteDevice deviceId, false))
      (.start (deviceReader stack) 0) deviceId
    pure y.2
  else pure deviceId

/-- `Eliot_AddDevice`: the id of the device afterwards. -/
def addDevice (deviceType : Byte) (deviceId : CString eliotDeviceIdSize) :
    Rest (CString eliotDeviceIdSize) := do
  let st ← get
  let connection ← connectWithRetry cloud
  match connection with
  | none => pure deviceId
  | some k => do
    mark (.adds k deviceType)
    -- remote devices do not need to be in the cloud: a return without `cleanupSockets`
    if (cloud k).allocated ∧ deviceType = noType then pure deviceId
    else do
      let deviceId ← requestDevice cloud (stack st.tried) k deviceId
      let _ ← cleanupSockets (.of k)
      pure deviceId

/-- `http_status` in `Eliot_RenameDevice` after an attempt. -/
def renameStatus (a : Attempt) (httpStatus : ℤ) : ℤ :=
  if a.dumped ∧ a.sent then (receiveStatus a.reads).1 else httpStatus

/-- The loop of `Eliot_RenameDevice`, with `attempts` left. -/
def renameAttempts : ℕ → ℤ → Rest Unit
  | 0, _ => pure ()
  | attempts + 1, httpStatus => do
    let connection ← connectWithRetry cloud
    match connection with
    | none => pure ()
    | some k => do
      let status := renameStatus (cloud k) httpStatus
      let _ ← cleanupSockets (.of k)
      if status = eliotHttpOk then pure () else renameAttempts attempts status

/-- `Eliot_RenameDevice` -/
def renameDevice (deviceId : List Byte) : Rest Unit :=
  if deviceId.length ≠ eliotDeviceIdSize - 1 then pure ()
  else renameAttempts cloud eliotRenameAttempts 0

/-- `Eliot_DeleteDevice` -/
def deleteDevice : Rest Unit := do
  let connection ← connectWithRetry cloud
  match connection with
  | none => pure ()
  | some k => do
    let _ ← receiveBytes cloud k 16
    let _ ← cleanupSockets (.of k)
    pure ()

/-! ### Synchronizing -/

/-- A device whose name is another one in the list is renamed. -/
def renameUnless (same : Prop) [Decidable same] (deviceId : List Byte) : Rest Unit :=
  if same then pure () else renameDevice cloud deviceId

/-- What is done about a module in the list. -/
def compareModule (found : Found) (r : Report) : Rest Found := do
  let st ← get
  if r.id ≠ [] ∧ r.deviceType ≠ [] ∧ r.name ≠ [] then
    if r.deviceType = lc7001Hub then
      if r.id = st.moduleId then pure found
      else do
        deleteDevice cloud
        pure found
    else if r.deviceType = lc7001Scene then
      match findSceneIndexById st.house r.id with
      | some index => do
        let name := (st.house.scenes.get index).elim [] (·.SceneNameString.chars)
        renameUnless cloud ((sanitizedName name).chars = r.name) r.id
        pure (Function.update found (.scene index) true)
      | none => do
        deleteDevice cloud
        pure found
    else
      match findZoneIndexById st.house r.id with
      | some index => do
        let name := (st.house.zones.get index).elim [] (·.ZoneNameString.chars)
        -- here the name is compared as it is
        renameUnless cloud (name = r.name) r.id
        pure (Function.update found (.zone index) true)
      | none => do
        deleteDevice cloud
        pure found
  else pure found

/-- What is done about the modules that a buffer has ended. -/
def compareModules (found : Found) : List Report → Rest Found
  | [] => pure found
  | r :: rs => do
    let found ← compareModule cloud found r
    compareModules found rs

/-- The body of the loop over the zones. -/
def addZone (found : Found) (index : ℕ) : Rest Unit := do
  let st ← get
  match st.house.zones.get index with
  | some properties =>
    if found (.zone index) then pure ()
    else do
      let id ← addDevice cloud stack properties.deviceType properties.EliotDeviceId
      modify fun st => { st with house := { st.house with
        zones := st.house.zones.set index { properties with EliotDeviceId := id } } }
  | none => pure ()

/-- The loop over the zones. -/
def addZones (found : Found) : List ℕ → Rest Unit
  | [] => pure ()
  | index :: indices => do
    addZone cloud stack found index
    addZones found indices

/-- The body of the loop over the scenes. -/
def addScene (garbage : SceneProperties) (found : Found) (index : ℕ) : Rest Unit := do
  let st ← get
  if found (.scene index) then pure ()
  else do
    let properties := (st.house.scenes.get index).getD garbage
    let id ← addDevice cloud stack sceneType properties.EliotDeviceId
    modify fun st => { st with house := { st.house with
      scenes := st.house.scenes.set index { properties with EliotDeviceId := id } } }

/-- The loop over the scenes, with a number of indices left. -/
def addScenes (garbage : SceneProperties) (found : Found) : ℕ → Rest Unit
  | 0 => pure ()
  | left + 1 => do
    let st ← get
    if maxNumberOfScenes - (left + 1) < st.house.scenes.available then do
      addScene cloud stack garbage found (maxNumberOfScenes - (left + 1))
      addScenes garbage found left
    else pure ()

/-- The part of `Eliot_SyncDevices` with a connection to the list: what has been found, unless the
rest is left out. -/
def readList (stack : Stack) (k : ℕ) : Rest (Option Found) := do
  let status := receiveStatus (cloud k).reads
  if status.1 = eliotHttpOk ∨ status.1 = eliotHttpNoContent then do
    let y ← receive cloud .list k
      (fun found _ events => do
        let found ← compareModules cloud found (events.map reportOf)
        pure (found, false))
      (.start (syncEnv stack.toStack) status.2) noneFound
    let _ ← cleanupSockets (.of k)
    pure (if y.1.totalRead = 0 then none else some y.2)
  else do
    let _ ← cleanupSockets (.of k)
    pure none

/-- `Eliot_SyncDevices` -/
def syncDevices : Rest Unit := do
  let st ← get
  if st.plantId = [] ∨ st.userToken = [] then pure ()
  else do
    let connection ← connectWithRetry cloud
    match connection with
    | none => pure ()
    | some k => do
      let found ← readList cloud (stack st.tried) k
      match found with
      | none => pure ()
      | some found => do
        addZones cloud stack found (List.range maxNumberOfZones)
        addScenes cloud stack (stack st.tried).properties found maxNumberOfScenes

/-! ### The initialization -/

/-- The plant is created, if the list does not have it. -/
def createPlant (ret : Ret) : Rest Unit :=
  if ret = .resourceNotFound then do
    let _ ← addLcmPlant cloud createdId
    pure ()
  else pure ()

/-- The loop that looks for the plant, with `attempts` left. -/
def plantAttempts : ℕ → Rest Unit
  | 0 => pure ()
  | attempts + 1 => do
    let st ← get
    if st.plantId = [] then do
      let ret ← getLcmPlantId cloud stack
      createPlant cloud createdId ret
      plantAttempts attempts
    else pure ()

/-- A new plant is stored in flash, and if there was another, the primary key is forgotten. -/
def storePlantId (st : State) : State :=
  if st.plantId = st.flashPlantId then st
  else
    { st with
      primaryKey := if st.flashPlantId.length = st.plantId.length then [] else st.primaryKey
      flashPlantId := st.plantId }

/-- A round of the loop that deletes the modules of the controller. -/
def deleteModulesRound (_ : Unit) : Rest (Unit ⊕ Unit) := do
  let found ← searchForModuleId cloud stack (some lc7001Hub) none eliotDeviceIdSize
  if found.2 = [] then pure (.inr ())
  else do
    mark (.deletes found.2)
    deleteDevice cloud
    pure (.inl ())

/-- The loop that creates the module, with `attempts` left. -/
def moduleAttempts : ℕ → Ret → Rest Ret
  | 0, ret => pure ret
  | attempts + 1, ret => do
    let st ← get
    if (st.primaryKey = [] ∨ st.metricsInstantiated = false) ∧ ret ≠ .quotaExceeded then do
      iter (deleteModulesRound cloud stack) ()
      let ret ← addLcmModule cloud stack
      moduleAttempts attempts ret
    else pure ret

/-- The id of the module is looked for, unless it is known. -/
def findModuleId : Rest Unit := do
  let st ← get
  if st.moduleId = [] then do
    let found ← searchForModuleId cloud stack (some lc7001Hub) none eliotDeviceIdSize
    modify fun st => { st with moduleId := found.2 }
  else pure ()

/-- The end of `Eliot_LcmPlantAndModuleInit`, when the loops have ended with `ret`. -/
def finishInit (ret : Ret) : Rest Ret := do
  let st ← get
  if st.primaryKey = [] then pure ret
  else if st.moduleId = [] then do
    -- the next call will create a module
    modify fun st => { st with primaryKey := [] }
    pure ret
  else pure .ok

/-- `Eliot_LcmPlantAndModuleInit` -/
def lcmPlantAndModuleInit : Rest Ret := do
  let st ← get
  if st.userToken = [] then pure .inputError
  else do
    plantAttempts cloud stack createdId 3
    let st ← get
    if st.plantId = [] then pure .undefined
    else do
      modify storePlantId
      let ret ← moduleAttempts cloud stack 3 .undefined
      findModuleId cloud stack
      finishInit ret

end Rest

end Eliot

end Lcm
