import Lcm.Eliot.Devices
import Lcm.Jansson.Values

/-!
# Who owns the JSON values of the cloud

The functions that talk to the cloud free the values they have made with `json_delete`, which does
not look at the count of references.  A value that a function has put into another one, or got out
of it, belongs to this other value, and is freed together with it.

What a function does to the zones and the scenes is left out; what it asks other functions for is a
parameter, and so is whether there is enough memory.

## Main definitions

* `eventCB`, `writeMetrics`, `addDevice`, `addLcmPlant` : the functions of the source.
* `Call`, `Call.Owns` : a call of one of them, and the condition on what it gets.

## Main results

* `held_writeMetrics`, `fault_writeMetrics` : the two ends of the metrics writer.
* `clean_addDevice`, `not_clean_addDevice`, `clean_addLcmPlant_iff`, `clean_eventCB_iff` : the other
  functions.
* `clean_iff` : the calls after which every value has been freed exactly once.
* `not_clean_levelPayload` : an event with a level.
-/

namespace Lcm

namespace Eliot

namespace Ownership

open House Jansson
open JsonT (bytesOfString)

/-- A string. -/
def text (s : String) : Format := .value (.string (bytesOfString s))

/-! ### The metrics -/

/-- What the metrics writer gets. -/
structure MetricsEnv where
  /-- `json_object` has enough memory. -/
  objectMade : Bool
  /-- The properties of the zone. -/
  zone : ZoneProperties
  /-- `EliotDeviceId` of the scene -/
  sceneDeviceId : CString eliotDeviceIdSize
  /-- The integer under a key can be made. -/
  valueMade : String → Bool
  /-- It can be stored. -/
  stored : String → Bool
  /-- `json_pack` can make the modules. -/
  modulesMade : Bool
  /-- The value under a key can be stored among the modules. -/
  updated : String → Bool
  /-- How `json_pack` ends for the telemetry. -/
  telemetry : PackResult

/-- An integer is put among the metrics. -/
def setInteger (env : MetricsEnv) (device_metrics : Option Ref) (key : String) (v : BitVec 64)
    (s : Values) : Values :=
  let (value, s) := jsonNew (env.valueMade key) (.integer v) s
  jsonObjectSetNew (env.stored key) device_metrics key value s

/-- The zones that have a power state. -/
def hasPowerState (deviceType : Byte) : Bool :=
  deviceType = switchType || deviceType = dimmerType || deviceType = fanControllerType ||
    deviceType = Rf.shadeType || deviceType = Rf.shadeGroupType

/-- The zones that have a level. -/
def hasLevel (deviceType : Byte) : Bool :=
  deviceType = dimmerType || deviceType = fanControllerType || deviceType = Rf.shadeType ||
    deviceType = Rf.shadeGroupType

/-- `device_metrics` -/
def deviceMetrics (env : MetricsEnv) (scene sceneFinished : Bool) (s : Values) :
    Option Ref × Values :=
  let (device_metrics, s) := jsonNew env.objectMade .object s
  if scene then
    (device_metrics, setInteger env device_metrics "running" (if sceneFinished then 0 else 1) s)
  else
    let p := env.zone
    let powerState := if isShade p then 1 else if p.targetState then 1 else 0
    let s := if hasPowerState p.deviceType then
        setInteger env device_metrics "powerState" powerState s
      else s
    let s := if hasLevel p.deviceType then
        setInteger env device_metrics "level" (p.targetPowerLevel.setWidth 64) s
      else s
    (device_metrics, s)

/-- `modules`, before the metrics are added -/
def modulesFormat (deviceId : List Byte) : Format :=
  .object [("status", text "on"),
    ("sender", .object [("plant", .object [("coal", .object
      [("id", .value (.string deviceId))])])])]

/-- `telemetry` -/
def telemetryFormat (modules : Ref) : Format :=
  .object [("message", .object
    [("systemProperties", .object
      [("contentType", text "application/json"), ("contentEncoding", text "utf-8")]),
    ("appProperties", .object [("eliot-route", text "telemetry")]),
    ("body", .object
      [("jsonrpc", text "2.0"),
      ("params", .array [.object [("modules", .array [.taken modules])]])])])]

/-- `modules` -/
def metricsModules (env : MetricsEnv) (scene : Bool) (device_metrics : Option Ref) (s : Values) :
    Option Ref × Values :=
  let deviceId := if scene then env.sceneDeviceId else env.zone.EliotDeviceId
  let (modules, s) := jsonPack env.modulesMade (modulesFormat deviceId.chars) s
  (modules, jsonObjectUpdateMissing env.updated modules device_metrics s)

/-- The telemetry is sent, and the three values are freed; but `telemetry` has the modules. -/
def sendMetrics (env : MetricsEnv) (device_metrics modules : Option Ref) (s : Values) : Values :=
  let (telemetry, s) := jsonPackTaking env.telemetry telemetryFormat modules s
  let s := useValue telemetry s
  let s := jsonDelete telemetry s
  let s := jsonDelete device_metrics s
  jsonDelete modules s

/-- `Eliot_WriteMetrics` -/
def writeMetrics (env : MetricsEnv) (scene sceneFinished : Bool) (s : Values) : Values :=
  let (device_metrics, s) := deviceMetrics env scene sceneFinished s
  let (modules, s) := metricsModules env scene device_metrics s
  sendMetrics env device_metrics modules s

/-- **The metrics writer owns the modules** if there are none, or the telemetry has not taken them
over. -/
def MetricsEnv.Owns (env : MetricsEnv) : Prop :=
  env.modulesMade = true → env.telemetry = .failed

/-! ### Events -/

/-- What the callback for an event gets. -/
structure EventEnv where
  /-- `Eliot_EventIsDuplicate` -/
  duplicate : Bool
  /-- What `json_loads` finds in the message. -/
  payload : Option JsonT
  /-- What `strcmp` finds where there is no string. -/
  nullEqual : String → Bool
  /-- `FindZoneIndexById` finds a zone. -/
  found : Bool
  /-- `VerifyZoneChanged`; `VerifySceneChanged` is always true. -/
  changed : Bool
  /-- What the metrics writer gets. -/
  metrics : MetricsEnv

/-- What an event is for. -/
inductive Action
  | on
  | off
  | setLevel
  | adjustLevel
  | execute
  | other
  deriving DecidableEq

/-- `strcmp(text, event) == 0` -/
def EventEnv.equal (env : EventEnv) (event : Option (List Byte)) (text : String) : Bool :=
  match event with
  | some event => event = bytesOfString text
  | none => env.nullEqual text

/-- What the callback compares the event with, one after the other. -/
def EventEnv.action (env : EventEnv) (event : Option (List Byte)) : Action :=
  if env.equal event "on" then .on
  else if env.equal event "off" then .off
  else if env.equal event "setLevel" then .setLevel
  else if env.equal event "adjustLevel" then .adjustLevel
  else if env.equal event "execute" then .execute
  else .other

/-- A string that has been got from a value is read. -/
def useString (json : Option Ref) (string : Option (List Byte)) (s : Values) : Values :=
  if string.isSome then useValue json s else s

/-- The level of an event, or the change of a level, which is freed together with the payload, too.
-/
def eventMember (payload json_device_id : Option Ref) (deviceId : Option (List Byte))
    (key : String) (s : Values) : Values :=
  let (json_level, s) := jsonObjectGet payload key s
  match json_level with
  | none => s
  | some _ =>
    let s := useValue json_level s
    let s := useString json_device_id deviceId s
    jsonDelete json_level s

/-- What an event is for is done. -/
def performAction (payload json_device_id : Option Ref) (deviceId : Option (List Byte)) :
    Action → Values → Values
  | .on, s => useString json_device_id deviceId s
  | .off, s => useString json_device_id deviceId s
  | .setLevel, s => eventMember payload json_device_id deviceId "level" s
  | .adjustLevel, s => eventMember payload json_device_id deviceId "delta" s
  | .execute, s => useString json_device_id deviceId s
  | .other, s => s

/-- An event for a zone or a scene. -/
def eventForDevice (env : EventEnv) (payload json_event json_device_id : Option Ref)
    (s : Values) : Values :=
  let (deviceId, s) := jsonStringValue json_device_id s
  let (event, s) := jsonStringValue json_event s
  let s := performAction payload json_device_id deviceId (env.action event) s
  let scene : Bool := env.action event = .execute
  let s := useString json_device_id deviceId s
  if env.found && (scene || env.changed) then writeMetrics env.metrics scene false s else s

/-- `Eliot_Event_CB` -/
def eventCB (env : EventEnv) (s : Values) : Values :=
  if env.duplicate then s
  else
    let (payload, s) := jsonLoads env.payload s
    let (json_event, s) := jsonObjectGet payload "event" s
    let (json_device_id, s) := jsonObjectGet payload "id" s
    let s :=
      if json_event.isSome && json_device_id.isSome then
        eventForDevice env payload json_event json_device_id s
      else if json_event.isSome then (jsonStringValue json_event s).2
      else s
    jsonDelete payload s

/-- The member of a payload that is freed. -/
def EventEnv.freed (env : EventEnv) (payload event : JsonT) : Option JsonT :=
  match env.action (textOf event) with
  | .setLevel => payload.get "level"
  | .adjustLevel => payload.get "delta"
  | _ => none

/-- The metrics are published. -/
def EventEnv.publishes (env : EventEnv) (event : JsonT) : Bool :=
  env.found && (env.action (textOf event) = .execute || env.changed)

/-- **The callback owns what it frees** unless it frees a member of the payload, other than `true`,
`false` and `null`, or the metrics writer does not own what it frees. -/
def EventEnv.Owns (env : EventEnv) : Prop :=
  ∀ payload event, env.duplicate = false → env.payload = some payload →
    payload.get "event" = some event → (payload.get "id").isSome = true →
      (∀ value, env.freed payload event = some value → kindOf value = none) ∧
        (env.publishes event = true → env.metrics.Owns)

/-! ### New devices -/

/-- What `Eliot_AddDevice` gets. -/
structure DeviceEnv where
  /-- `Eliot_ConnectWithRetry` -/
  connected : Bool
  /-- `json_object` has enough memory. -/
  objectMade : Bool
  /-- `eliot_lcm_plant_id` -/
  plantId : List Byte
  /-- The serial number. -/
  serial : List Byte
  /-- The name, sanitized. -/
  name : List Byte
  /-- The string under a key can be made. -/
  valueMade : String → Bool
  /-- The value under a key can be stored. -/
  stored : String → Bool
  /-- `json_pack` can make the definition of the metrics. -/
  metricsMade : Bool

/-- Strings are put into the object. -/
def setStrings (env : DeviceEnv) (deviceObject : Option Ref) :
    List (String × List Byte) → Values → Values
  | [], s => s
  | (key, v) :: fields, s =>
    let (value, s) := jsonNew (env.valueMade key) (.string v) s
    setStrings env deviceObject fields
      (jsonObjectSetNew (env.stored key) deviceObject key value s)

/-- `device` -/
def deviceKind (deviceType : Byte) : List Byte :=
  if deviceType = switchType ∨ deviceType = dimmerType then bytesOfString "light"
  else if deviceType = fanControllerType then bytesOfString "Automation"
  else if deviceType = sceneType then bytesOfString "scene"
  else bytesOfString "shutter"

/-- The fields that are the same for all devices of a type. -/
def typeFields (deviceType : Byte) : List (String × List Byte) :=
  if hasPowerState deviceType || deviceType = sceneType then
    ("deviceType", cloudType deviceType) ::
      ((if deviceType = fanControllerType then [("deviceModel", bytesOfString "avd-rflc-fan")]
        else []) ++ [("device", deviceKind deviceType)])
  else []

/-- A metric. -/
def metric (label : String) : Format :=
  .object [("label", text label), ("metricType", text "number")]

/-- `metrics_definition`; an unknown type has none. -/
def metricsFormat (deviceType : Byte) : Option Format :=
  if deviceType = switchType then some (.array [metric "powerState"])
  else if hasLevel deviceType then some (.array [metric "powerState", metric "level"])
  else if deviceType = sceneType then some (.array [metric "running"])
  else none

/-- `metrics_definition` -/
def metricsDefinition (env : DeviceEnv) (deviceType : Byte) (s : Values) : Option Ref × Values :=
  match metricsFormat deviceType with
  | none => (none, s)
  | some f => jsonPack env.metricsMade f s

/-- The object for a device of some type, without what all devices have; and the definition of the
metrics. -/
def describeDevice (env : DeviceEnv) (deviceType : Byte) (deviceObject : Option Ref)
    (s : Values) : Option Ref × Values :=
  let s := setStrings env deviceObject [("plantId", env.plantId),
    ("serialNumber", env.serial), ("hardwareId", env.serial)] s
  let s := setStrings env deviceObject (typeFields deviceType) s
  metricsDefinition env deviceType s

/-- The rest of the object. -/
def completeDevice (env : DeviceEnv) (deviceObject metrics_definition : Option Ref)
    (s : Values) : Values :=
  let s := setStrings env deviceObject [("firmwareVersion", bytesOfString "4.0"),
    ("hardwareVersion", bytesOfString "1.0")] s
  let s := jsonObjectSetNew (env.stored "gatewayInstallation") deviceObject
    "gatewayInstallation" (some .static) s
  let s := setStrings env deviceObject [("name", env.name)] s
  jsonObjectSetNew (env.stored "metrics") deviceObject "metrics" metrics_definition s

/-- The object is sent, and freed. -/
def sendDevice (env : DeviceEnv) (deviceObject metrics_definition : Option Ref) (s : Values) :
    Values :=
  let s := completeDevice env deviceObject metrics_definition s
  let s := useValue deviceObject s
  jsonDelete deviceObject s

/-- `Eliot_AddDevice`; the device has the definition of the metrics, but both are freed, and for a
remote device nothing is freed. -/
def addDevice (env : DeviceEnv) (deviceType : Byte) (s : Values) : Values :=
  if env.connected then
    let (deviceObject, s) := jsonNew env.objectMade .object s
    match deviceObject with
    | none => s
    | some _ =>
      let (metrics_definition, s) := describeDevice env deviceType deviceObject s
      -- a return
      if deviceType = noType then s
      else
        let s := sendDevice env deviceObject metrics_definition s
        jsonDelete metrics_definition s
  else s

/-- **`Eliot_AddDevice` owns what it frees** if there is no definition of the metrics, and frees
what it owns unless the device is a remote one. -/
def DeviceEnv.Owns (env : DeviceEnv) (deviceType : Byte) : Prop :=
  env.connected = true → env.objectMade = true →
    deviceType ≠ noType ∧ ((metricsFormat deviceType).isSome = true → env.metricsMade = false)

/-! ### The plant -/

/-- What `Eliot_AddLcmPlant` gets. -/
structure PlantEnv where
  /-- `Eliot_ConnectWithRetry` -/
  connected : Bool
  /-- `Eliot_ReceiveBytes` returns more than 0. -/
  received : Bool
  /-- What `json_loads` finds in the response. -/
  response : Option JsonT

/-- `Eliot_AddLcmPlant` -/
def addLcmPlant (env : PlantEnv) (s : Values) : Values :=
  if env.connected && env.received then
    let (root, s) := jsonLoads env.response s
    let (idObject, s) := jsonObjectGet root "id" s
    let (deviceId, s) := jsonStringValue idObject s
    let s := if deviceId.isSome then jsonDelete idObject s else s
    jsonDelete root s
  else s

/-- **`Eliot_AddLcmPlant` owns what it frees** if the response has no id that is a string. -/
def PlantEnv.Owns (env : PlantEnv) : Prop :=
  env.connected = true → env.received = true → ∀ response id, env.response = some response →
    response.get "id" = some id → textOf id = none

/-! ### Calls -/

/-- A call, with what the function gets. -/
inductive Call
  | eventCB (env : EventEnv)
  | writeMetrics (env : MetricsEnv) (scene sceneFinished : Bool)
  | addDevice (env : DeviceEnv) (deviceType : Byte)
  | addLcmPlant (env : PlantEnv)

/-- The values after a call. -/
def Call.run : Call → Values → Values
  | .eventCB env, s => Ownership.eventCB env s
  | .writeMetrics env scene sceneFinished, s => Ownership.writeMetrics env scene sceneFinished s
  | .addDevice env deviceType, s => Ownership.addDevice env deviceType s
  | .addLcmPlant env, s => Ownership.addLcmPlant env s

/-- **The function owns what it frees**, and frees what it owns. -/
def Call.Owns : Call → Prop
  | .eventCB env => env.Owns
  | .writeMetrics env _ _ => env.Owns
  | .addDevice env deviceType => env.Owns deviceType
  | .addLcmPlant env => env.Owns

variable {s : Values} {held : Multiset ℕ} {n : ℕ}

/-! ### The metrics writer -/

section Metrics

variable (env : MetricsEnv) (scene sceneFinished : Bool) {device_metrics : Option Ref}

theorem held_setInteger (key : String) (v : BitVec 64)
    (hheld : ∀ x, device_metrics = some (.block x) → x ∈ held) (h : Held s 0 held) :
    Held (setInteger env device_metrics key v s) 0 held :=
  held_setNew _ _ _ key hheld h

theorem held_setInteger_ite (c : Bool) (key : String) (v : BitVec 64)
    (hheld : ∀ x, device_metrics = some (.block x) → x ∈ held) (h : Held s 0 held) :
    Held (if c then setInteger env device_metrics key v s else s) 0 held := by
  split
  · exact held_setInteger env key v hheld h
  · exact h

theorem onward_setInteger (key : String) (v : BitVec 64) (hfresh : Fresh n device_metrics)
    (hn : n ≤ s.next) : Onward n s (setInteger env device_metrics key v s) :=
  onward_setNew _ _ _ key hfresh hn

theorem onward_setInteger_ite (c : Bool) (key : String) (v : BitVec 64)
    (hfresh : Fresh n device_metrics) (hn : n ≤ s.next) :
    Onward n s (if c then setInteger env device_metrics key v s else s) := by
  split
  · exact onward_setInteger env key v hfresh hn
  · exact .refl n s

theorem mem_owned_add {json : Option Ref} (held : Multiset ℕ) (x : ℕ)
    (h : json = some (.block x)) : x ∈ owned json + held := by
  subst h
  exact Multiset.mem_add.2 (.inl (Multiset.mem_singleton_self x))

theorem held_deviceMetrics (h : Held s 0 held) :
    Held (deviceMetrics env scene sceneFinished s).2 0
      (owned (deviceMetrics env scene sceneFinished s).1 + held) := by
  have hnew := held_jsonNew env.objectMade .object h
  cases scene with
  | true => exact held_setInteger env _ _ (mem_owned_add held) hnew
  | false =>
    exact held_setInteger_ite env _ _ _ (mem_owned_add held)
      (held_setInteger_ite env _ _ _ (mem_owned_add held) hnew)

theorem onward_deviceMetrics (hn : n ≤ s.next) :
    Onward n s (deviceMetrics env scene sceneFinished s).2 := by
  have hfresh := fresh_jsonNew env.objectMade .object hn
  have hnew := Onward.of_grows (grows_jsonNew env.objectMade .object s) hn
  have hnext := Nat.le_trans hn hnew.next
  cases scene with
  | true => exact hnew.trans (onward_setInteger env _ _ hfresh hnext)
  | false =>
    have hpower := onward_setInteger_ite env (hasPowerState env.zone.deviceType) "powerState"
      (if isShade env.zone then 1 else if env.zone.targetState then 1 else 0) hfresh hnext
    exact hnew.trans (hpower.trans
      (onward_setInteger_ite env _ _ _ hfresh (Nat.le_trans hnext hpower.next)))

theorem modulesFormat_ne_taken (deviceId : List Byte) (r : Ref) :
    modulesFormat deviceId ≠ .taken r := by
  simp [modulesFormat]

theorem takes_modulesFormat (deviceId : List Byte) : (modulesFormat deviceId).takes = 0 := by
  simp [modulesFormat, text, Format.takes, membersTake]

theorem telemetryFormat_ne_taken (modules r : Ref) : telemetryFormat modules ≠ .taken r := by
  simp [telemetryFormat]

theorem takes_telemetryFormat (modules : Ref) :
    (telemetryFormat modules).takes = modules.owned := by
  simp [telemetryFormat, text, Format.takes, membersTake, elementsTake]

theorem held_metricsModules (h : Held s 0 (owned device_metrics + held)) :
    Held (metricsModules env scene device_metrics s).2 0
      (owned (metricsModules env scene device_metrics s).1 + (owned device_metrics + held)) := by
  have hpack := held_jsonPack env.modulesMade
    (modulesFormat_ne_taken (if scene then env.sceneDeviceId else env.zone.EliotDeviceId).chars)
    (takes_modulesFormat _) h
  unfold metricsModules
  dsimp only
  generalize jsonPack env.modulesMade (modulesFormat (if scene then env.sceneDeviceId else
    env.zone.EliotDeviceId).chars) s = p at hpack ⊢
  refine held_jsonObjectUpdateMissing env.updated (mem_owned_add _) (fun y hy => ?_)
    (fun x hx heq => ?_) hpack
  · exact Multiset.mem_add.2 (.inr (mem_owned_add held y hy))
  · -- nothing is held twice
    have hnodup := hpack.nodup
    rw [hx, heq] at hnodup
    exact (Multiset.nodup_cons.1 hnodup).1 (mem_owned_add held x rfl)

theorem onward_metricsModules (device_metrics : Option Ref) (hn : n ≤ s.next) :
    Onward n s (metricsModules env scene device_metrics s).2 := by
  have hpack := Onward.of_grows (grows_jsonPack env.modulesMade (modulesFormat
    (if scene then env.sceneDeviceId else env.zone.EliotDeviceId).chars) s) hn
  have hfresh := fresh_jsonPack env.modulesMade (modulesFormat_ne_taken
    (if scene then env.sceneDeviceId else env.zone.EliotDeviceId).chars) hn
  unfold metricsModules
  dsimp only
  generalize jsonPack env.modulesMade (modulesFormat (if scene then env.sceneDeviceId else
    env.zone.EliotDeviceId).chars) s = p at hpack hfresh ⊢
  exact hpack.trans (onward_jsonObjectUpdateMissing _ hfresh ..)

/-- The modules can only be made by `json_pack`, and are an object then. -/
theorem metricsModules_fst (hmade : env.modulesMade = true) :
    ∃ x, (metricsModules env scene device_metrics s).1 = some (.block x) := by
  unfold metricsModules jsonPack
  rw [hmade]
  exact ⟨_, rfl⟩

theorem metricsModules_fst_none (hmade : env.modulesMade ≠ true) :
    (metricsModules env scene device_metrics s).1 = none := by
  unfold metricsModules jsonPack
  rw [Bool.eq_false_iff.2 hmade]
  rfl

theorem fresh_metricsModules (hn : n ≤ s.next) :
    Fresh n (metricsModules env scene device_metrics s).1 :=
  fresh_jsonPack env.modulesMade (modulesFormat_ne_taken _) hn

theorem onward_sendMetrics (device_metrics modules : Option Ref) (hn : n ≤ s.next) :
    Onward n s (sendMetrics env device_metrics modules s) := by
  have htelemetry := onward_jsonPackTaking env.telemetry telemetryFormat modules hn
  unfold sendMetrics
  generalize jsonPackTaking env.telemetry telemetryFormat modules s = p at htelemetry ⊢
  exact htelemetry.trans (((((frees_useValue p.1 p.2).trans (frees_jsonDelete ..)).trans
    (frees_jsonDelete ..)).trans (frees_jsonDelete ..)).onward n)

/-- What has been built when the telemetry is sent. -/
structure Built (device_metrics modules : Option Ref) (held : Multiset ℕ) (s s' : Values) :
    Prop where
  held : Held s' 0 (owned modules + (owned device_metrics + held))
  onward : Onward s.next s s'
  fresh : Fresh s.next modules
  made : env.modulesMade = true → ∃ x, modules = some (.block x)
  notMade : env.modulesMade ≠ true → modules = none

theorem exists_built (h : Held s 0 held) : ∃ device_metrics modules s',
    writeMetrics env scene sceneFinished s = sendMetrics env device_metrics modules s' ∧
      Built env device_metrics modules held s s' := by
  have hmetrics := onward_deviceMetrics env scene sceneFinished (Nat.le_refl s.next)
  have hheld := held_deviceMetrics env scene sceneFinished h
  have heq : writeMetrics env scene sceneFinished s = sendMetrics env
      (deviceMetrics env scene sceneFinished s).1
      (metricsModules env scene (deviceMetrics env scene sceneFinished s).1
        (deviceMetrics env scene sceneFinished s).2).1
      (metricsModules env scene (deviceMetrics env scene sceneFinished s).1
        (deviceMetrics env scene sceneFinished s).2).2 := rfl
  generalize deviceMetrics env scene sceneFinished s = p at hmetrics hheld heq
  exact ⟨p.1, _, _, heq, held_metricsModules env scene hheld,
    hmetrics.trans (onward_metricsModules env scene p.1 hmetrics.next),
    fresh_metricsModules env scene hmetrics.next, metricsModules_fst env scene,
    metricsModules_fst_none env scene⟩

/-- **The metrics writer frees what it has made** if it owns the modules. -/
theorem held_writeMetrics (howns : env.Owns) (h : Held s 0 held) :
    Held (writeMetrics env scene sceneFinished s) 0 held := by
  obtain ⟨device_metrics, modules, s', heq, hbuilt⟩ := exists_built env scene sceneFinished h
  have hfailed : jsonPackTaking env.telemetry telemetryFormat modules s' = (none, s') := by
    refine jsonPackTaking_failed (fun hsome => ?_) telemetryFormat s'
    by_cases hmade : env.modulesMade = true
    · exact howns hmade
    · simp [hbuilt.notMade hmade] at hsome
  have hheld := hbuilt.held
  rw [add_left_comm] at hheld
  rw [heq, sendMetrics, hfailed]
  exact held_jsonDelete (held_jsonDelete hheld)

/-- **The metrics writer frees the modules twice** if the telemetry has taken them over. -/
theorem fault_writeMetrics (howns : ¬env.Owns) (h : Held s 0 held) :
    (writeMetrics env scene sceneFinished s).fault = true := by
  obtain ⟨hmade, htaken⟩ := Classical.not_imp.1 howns
  obtain ⟨device_metrics, modules, s', heq, hbuilt⟩ := exists_built env scene sceneFinished h
  obtain ⟨x, rfl⟩ := hbuilt.made hmade
  have hx : s.next ≤ x := hbuilt.fresh x rfl
  have hlive := hbuilt.held.live (mem_owned_add _ x rfl)
  have htelemetry := held_jsonPackTaking htaken (f := telemetryFormat) (r := .block x)
    (telemetryFormat_ne_taken _) (takes_telemetryFormat _) hbuilt.held
  have hpack := onward_jsonPackTaking env.telemetry telemetryFormat (some (.block x))
    hbuilt.onward.next
  have hnext := hpack.next
  have honward := hbuilt.onward.trans hpack
  rw [heq, sendMetrics]
  generalize jsonPackTaking env.telemetry telemetryFormat (some (.block x)) s' = p
    at htelemetry honward hnext ⊢
  have huse : useValue p.1 p.2 = p.2 := useValue_eq_self htelemetry
  have hrest := held_jsonDelete (held_jsonDelete htelemetry)
  have hfrees := (frees_jsonDelete p.1 p.2).trans
    (frees_jsonDelete device_metrics (jsonDelete p.1 p.2))
  -- the modules are among the values that have been freed by now
  have hclean := h.clean hrest (honward.trans (hfrees.onward _))
  have hnext : x < (jsonDelete device_metrics (jsonDelete p.1 p.2)).next := by
    rw [hfrees.next]
    exact Nat.lt_of_lt_of_le hlive.1 hnext
  dsimp only
  rw [huse]
  exact fault_delete_self (by rw [hclean.2 x hx hnext]; exact Nat.one_ne_zero)

theorem onward_writeMetrics (hn : n ≤ s.next) :
    Onward n s (writeMetrics env scene sceneFinished s) := by
  have hmetrics := onward_deviceMetrics env scene sceneFinished hn
  unfold writeMetrics
  generalize deviceMetrics env scene sceneFinished s = p at hmetrics ⊢
  have hmodules := hmetrics.trans (onward_metricsModules env scene p.1
    (Nat.le_trans hn hmetrics.next))
  exact hmodules.trans (onward_sendMetrics env _ _ (Nat.le_trans hn hmodules.next))

end Metrics

/-! ### New devices -/

section Devices

variable (env : DeviceEnv) {deviceObject : Option Ref}

theorem held_setStrings (fields : List (String × List Byte))
    (hheld : ∀ x, deviceObject = some (.block x) → x ∈ held) (h : Held s 0 held) :
    Held (setStrings env deviceObject fields s) 0 held := by
  induction fields generalizing s with
  | nil => exact h
  | cons field fields ih => exact ih (held_setNew _ _ _ field.1 hheld h)

theorem onward_setStrings (fields : List (String × List Byte)) (hfresh : Fresh n deviceObject)
    (hn : n ≤ s.next) : Onward n s (setStrings env deviceObject fields s) := by
  induction fields generalizing s with
  | nil => exact .refl n s
  | cons field fields ih =>
    have hset := onward_setNew (env.valueMade field.1) (env.stored field.1) (.string field.2)
      field.1 hfresh hn
    exact hset.trans (ih (Nat.le_trans hn hset.next))

theorem metricsFormat_ne_taken {deviceType : Byte} {f : Format}
    (h : metricsFormat deviceType = some f) (r : Ref) : f ≠ .taken r := by
  unfold metricsFormat at h
  split_ifs at h <;> obtain rfl := Option.some.inj h <;> simp

theorem takes_metricsFormat {deviceType : Byte} {f : Format}
    (h : metricsFormat deviceType = some f) : f.takes = 0 := by
  unfold metricsFormat at h
  split_ifs at h <;> obtain rfl := Option.some.inj h <;>
    simp [metric, text, Format.takes, elementsTake, membersTake]

theorem held_metricsDefinition (deviceType : Byte) (h : Held s 0 held) :
    Held (metricsDefinition env deviceType s).2 0
      (owned (metricsDefinition env deviceType s).1 + held) := by
  unfold metricsDefinition
  cases hf : metricsFormat deviceType with
  | none => simpa [owned] using h
  | some f =>
    exact held_jsonPack env.metricsMade (metricsFormat_ne_taken hf) (takes_metricsFormat hf) h

theorem onward_metricsDefinition (deviceType : Byte) (hn : n ≤ s.next) :
    Onward n s (metricsDefinition env deviceType s).2 := by
  unfold metricsDefinition
  cases metricsFormat deviceType with
  | none => exact .refl n s
  | some f => exact .of_grows (grows_jsonPack ..) hn

/-- There is no definition of the metrics. -/
theorem metricsDefinition_none {deviceType : Byte}
    (h : (metricsFormat deviceType).isSome = true → env.metricsMade = false) (s : Values) :
    (metricsDefinition env deviceType s).1 = none := by
  unfold metricsDefinition
  cases hf : metricsFormat deviceType with
  | none => rfl
  | some f => simp [jsonPack, h (by rw [hf]; rfl)]

/-- There is a definition of the metrics, which is a new array. -/
theorem metricsDefinition_some {deviceType : Byte}
    (h : ¬((metricsFormat deviceType).isSome = true → env.metricsMade = false)) (s : Values) :
    ∃ x, s.next ≤ x ∧ (metricsDefinition env deviceType s).1 = some (.block x) := by
  obtain ⟨hsome, hmade⟩ := Classical.not_imp.1 h
  obtain ⟨f, hf⟩ := Option.isSome_iff_exists.1 hsome
  have hmade : env.metricsMade = true := by simpa using hmade
  have hfresh := fresh_pack (metricsFormat_ne_taken hf) (Nat.le_refl s.next)
  have harray : ∃ elements, f = .array elements := by
    unfold metricsFormat at hf
    split_ifs at hf <;> exact ⟨_, (Option.some.inj hf).symm⟩
  obtain ⟨elements, rfl⟩ := harray
  refine ⟨_, hfresh _ rfl, ?_⟩
  simp [metricsDefinition, hf, jsonPack, hmade, pack]

variable {deviceType : Byte}

theorem held_describeDevice (deviceType : Byte)
    (hheld : ∀ x, deviceObject = some (.block x) → x ∈ held) (h : Held s 0 held) :
    Held (describeDevice env deviceType deviceObject s).2 0
      (owned (describeDevice env deviceType deviceObject s).1 + held) :=
  held_metricsDefinition env deviceType
    (held_setStrings env _ hheld (held_setStrings env _ hheld h))

theorem onward_describeDevice (hfresh : Fresh n deviceObject) (hn : n ≤ s.next) :
    Onward n s (describeDevice env deviceType deviceObject s).2 := by
  have hsame := onward_setStrings env [("plantId", env.plantId), ("serialNumber", env.serial),
    ("hardwareId", env.serial)] hfresh hn
  have hfields := hsame.trans
    (onward_setStrings env (typeFields deviceType) hfresh (Nat.le_trans hn hsame.next))
  exact hfields.trans (onward_metricsDefinition env deviceType (Nat.le_trans hn hfields.next))

/-- The device takes over the definition of the metrics. -/
theorem held_completeDevice {metrics_definition : Option Ref}
    (hheld : ∀ x, deviceObject = some (.block x) → x ∈ held)
    (h : Held s 0 (owned metrics_definition + held)) :
    Held (completeDevice env deviceObject metrics_definition s) 0 held := by
  have hheld' (x : ℕ) (hx : deviceObject = some (.block x)) :
      x ∈ owned metrics_definition + held := Multiset.mem_add.2 (.inr (hheld x hx))
  have hversions := held_setStrings env [("firmwareVersion", bytesOfString "4.0"),
    ("hardwareVersion", bytesOfString "1.0")] hheld' h
  rw [← zero_add (0 : Multiset ℕ)] at hversions
  change Held _ (owned (some .static) + 0) _ at hversions
  have hgateway := held_jsonObjectSetNew (env.stored "gatewayInstallation") "gatewayInstallation"
    hheld' hversions
  exact held_jsonObjectSetNew _ "metrics" hheld
    (held_handOver (held_setStrings env [("name", env.name)] hheld' hgateway))

theorem onward_completeDevice {metrics_definition : Option Ref} (hfresh : Fresh n deviceObject)
    (hn : n ≤ s.next) :
    Onward n s (completeDevice env deviceObject metrics_definition s) := by
  have hversions := onward_setStrings env [("firmwareVersion", bytesOfString "4.0"),
    ("hardwareVersion", bytesOfString "1.0")] hfresh hn
  have hgateway := hversions.trans (onward_jsonObjectSetNew (env.stored "gatewayInstallation")
    hfresh "gatewayInstallation" (some .static) _)
  have hname := hgateway.trans (onward_setStrings env [("name", env.name)] hfresh
    (Nat.le_trans hn hgateway.next))
  exact hname.trans (onward_jsonObjectSetNew _ hfresh ..)

theorem onward_sendDevice (metrics_definition : Option Ref) (hfresh : Fresh n deviceObject)
    (hn : n ≤ s.next) : Onward n s (sendDevice env deviceObject metrics_definition s) :=
  (onward_completeDevice env hfresh hn).trans
    (((frees_useValue ..).trans (frees_jsonDelete ..)).onward n)

/-- `Eliot_AddDevice` does nothing. -/
theorem addDevice_of_not_made (h : ¬(env.connected = true ∧ env.objectMade = true)) :
    addDevice env deviceType s = s := by
  unfold addDevice jsonNew
  by_cases hconnected : env.connected = true
  · rw [if_pos hconnected, if_neg fun hmade => h ⟨hconnected, hmade⟩]
  · rw [if_neg hconnected]

/-- What has been built when the types of devices part. -/
structure Described (deviceType : Byte) (x : ℕ) (metrics_definition : Option Ref)
    (held : Multiset ℕ) (s s' : Values) : Prop where
  held : Held s' 0 (owned metrics_definition + (x ::ₘ held))
  onward : Onward s.next s s'
  fresh : s.next ≤ x
  notMade : ((metricsFormat deviceType).isSome = true → env.metricsMade = false) →
    metrics_definition = none
  made : ¬((metricsFormat deviceType).isSome = true → env.metricsMade = false) →
    ∃ y, s.next ≤ y ∧ metrics_definition = some (.block y)

theorem fresh_block {x : ℕ} (h : n ≤ x) : Fresh n (some (.block x)) := fun y hy => by
  obtain rfl : x = y := by simpa using hy
  exact h

theorem mem_cons_of_block {x : ℕ} (held : Multiset ℕ) (y : ℕ)
    (hy : some (Ref.block x) = some (.block y)) : y ∈ x ::ₘ held := by
  obtain rfl : x = y := by simpa using hy
  exact Multiset.mem_cons_self x held

theorem exists_described (deviceType : Byte) (hconnected : env.connected = true)
    (hmade : env.objectMade = true) (h : Held s 0 held) : ∃ x metrics_definition s',
      Described env deviceType x metrics_definition held s s' ∧
        addDevice env deviceType s = if deviceType = noType then s' else
          jsonDelete metrics_definition
            (sendDevice env (some (.block x)) metrics_definition s') := by
  have hnew : Held (s.new Kind.object []) 0 (s.next ::ₘ held) := h.newLeaf Kind.object
  have hgrows := Onward.of_grows (.new s Kind.object []) (Nat.le_refl s.next)
  have hfresh := fresh_block (Nat.le_refl s.next)
  have hsame := hgrows.trans (onward_setStrings env [("plantId", env.plantId),
    ("serialNumber", env.serial), ("hardwareId", env.serial)] hfresh hgrows.next)
  have hfields := hsame.trans (onward_setStrings env (typeFields deviceType) hfresh hsame.next)
  refine ⟨s.next, _, _,
    ⟨held_describeDevice env deviceType (mem_cons_of_block held) hnew,
      hgrows.trans (onward_describeDevice env hfresh hgrows.next), Nat.le_refl _,
      fun hnone => metricsDefinition_none env hnone _, fun hsome => ?_⟩, ?_⟩
  · obtain ⟨y, hy, heq⟩ := metricsDefinition_some env hsome _
    exact ⟨y, Nat.le_trans hfields.next hy, heq⟩
  · unfold addDevice jsonNew
    rw [if_pos hconnected, if_pos hmade]

/-- When the object is freed, the definition of the metrics is freed, too. -/
theorem Described.send {x : ℕ} {metrics_definition : Option Ref} {s' : Values}
    (hdescribed : Described env deviceType x metrics_definition held s s') :
    Held (sendDevice env (some (.block x)) metrics_definition s') 0 held ∧
      Onward s.next s (sendDevice env (some (.block x)) metrics_definition s') := by
  have hcomplete := held_completeDevice env (mem_cons_of_block held) hdescribed.held
  have honward := hdescribed.onward.trans (onward_sendDevice env metrics_definition
    (fresh_block hdescribed.fresh) hdescribed.onward.next)
  refine ⟨?_, honward⟩
  unfold sendDevice
  dsimp only
  rw [useValue_eq_self hcomplete]
  exact held_jsonDelete hcomplete

/-- **`Eliot_AddDevice` frees what it has made** if it owns it. -/
theorem clean_addDevice (howns : env.Owns deviceType) (h : Held s 0 held) :
    (addDevice env deviceType s).Clean s.next := by
  by_cases hmade : env.connected = true ∧ env.objectMade = true
  · obtain ⟨htype, hmetrics⟩ := howns hmade.1 hmade.2
    obtain ⟨x, metrics_definition, s', hdescribed, heq⟩ :=
      exists_described env deviceType hmade.1 hmade.2 h
    obtain ⟨hheld, honward⟩ := hdescribed.send env
    obtain rfl := hdescribed.notMade hmetrics
    rw [heq, if_neg htype]
    exact h.clean hheld honward
  · rw [addDevice_of_not_made env hmade]
    exact h.clean h (.refl ..)

/-- **`Eliot_AddDevice` frees the definition of the metrics twice**, or the object not at all. -/
theorem not_clean_addDevice (howns : ¬env.Owns deviceType) (h : Held s 0 held) :
    ¬(addDevice env deviceType s).Clean s.next := by
  obtain ⟨hconnected, howns⟩ := Classical.not_imp.1 howns
  obtain ⟨hmade, howns⟩ := Classical.not_imp.1 howns
  obtain ⟨x, metrics_definition, s', hdescribed, heq⟩ :=
    exists_described env deviceType hconnected hmade h
  intro hclean
  by_cases htype : deviceType = noType
  · -- the object is still there
    rw [heq, if_pos htype] at hclean
    have hlive := hdescribed.held.live
      (Multiset.mem_add.2 (.inr (Multiset.mem_cons_self x held)))
    have hone := hclean.2 x hdescribed.fresh hlive.1
    rw [hlive.2] at hone
    exact absurd hone Nat.zero_ne_one
  · obtain ⟨y, hy, rfl⟩ := hdescribed.made fun hmetrics => howns ⟨htype, hmetrics⟩
    obtain ⟨hheld, honward⟩ := hdescribed.send env
    have hlive := hdescribed.held.live (mem_owned_add _ y rfl)
    have hsent := onward_sendDevice env (some (.block y)) (fresh_block hdescribed.fresh)
      hdescribed.onward.next
    have hone := (h.clean hheld honward).2 y hy (Nat.lt_of_lt_of_le hlive.1 hsent.next)
    rw [heq, if_neg htype] at hclean
    have hfault := fault_delete_self (x := y) (by rw [hone]; exact Nat.one_ne_zero)
    exact Bool.false_ne_true (hclean.1.symm.trans hfault)

end Devices

/-! ### The plant -/

/-- What a response or a payload has taken up is given up. -/
theorem held_pack_delete (json : JsonT) (h : Held s 0 held) :
    Held (jsonDelete (some (pack (formatOf json) s).1) (pack (formatOf json) s).2) 0 held ∧
      Onward s.next s (jsonDelete (some (pack (formatOf json) s).1) (pack (formatOf json) s).2) :=
  ⟨held_jsonDelete (held_jsonLoads (some json) h),
    (Onward.of_grows (grows_pack ..) (Nat.le_refl _)).trans ((frees_jsonDelete ..).onward _)⟩

theorem kindOf_of_textOf {json : JsonT} {v : List Byte} (h : textOf json = some v) :
    kindOf json ≠ none := by
  cases json <;> simp [textOf, kindOf] at h ⊢

/-- **`Eliot_AddLcmPlant` frees the response once** exactly if it has no id. -/
theorem clean_addLcmPlant_iff (env : PlantEnv) (h : Held s 0 held) :
    (addLcmPlant env s).Clean s.next ↔ env.Owns := by
  have hsame : s.Clean s.next := h.clean h (.refl ..)
  unfold addLcmPlant PlantEnv.Owns
  by_cases hreceived : (env.connected && env.received) = true
  · obtain ⟨hconnected, hreceived'⟩ := Bool.and_eq_true_iff.1 hreceived
    rw [if_pos hreceived]
    cases hresponse : env.response with
    | none => exact ⟨fun _ _ _ response id heq => by simp at heq, fun _ => hsame⟩
    | some json =>
      have hloaded := loaded json h
      obtain ⟨hheld, honward⟩ := held_pack_delete json h
      cases hid : json.get "id" with
      | none =>
        refine ⟨fun _ _ _ response id heq hget => ?_, fun _ => ?_⟩
        · obtain rfl := Option.some.inj heq
          simp [hid] at hget
        · simp only [jsonLoads, hloaded.get_none "id" hid]
          exact h.clean hheld honward
      | some id =>
        obtain ⟨q, hq, hborrowed⟩ := hloaded.get_some "id" id hid
        simp only [jsonLoads, hq, hborrowed.jsonStringValue]
        cases htext : textOf id with
        | none =>
          refine ⟨fun _ _ _ response id' heq hget => ?_, fun _ => h.clean hheld honward⟩
          obtain rfl := Option.some.inj heq
          obtain rfl := Option.some.inj (hid.symm.trans hget)
          exact htext
        | some v =>
          refine ⟨fun hclean => ?_, fun howns => ?_⟩
          · have hfault := hborrowed.fault (kindOf_of_textOf htext) (.refl ..)
            exact absurd (hclean.1.symm.trans hfault) Bool.false_ne_true
          · simp [howns hconnected hreceived' json id rfl hid] at htext
  · rw [if_neg hreceived]
    refine ⟨fun _ hconnected hreceived' => ?_, fun _ => hsame⟩
    exact absurd (Bool.and_eq_true_iff.2 ⟨hconnected, hreceived'⟩) hreceived

/-! ### Events -/

section Events

variable {env : EventEnv} {r qe qi : Ref} {payload event id : JsonT}

theorem useString_eq_self (hid : Borrowed s r id qi) (string : Option (List Byte)) :
    useString (some qi) string s = s := by
  unfold useString
  split
  · exact hid.useValue_eq_self
  · rfl

theorem frees_useString (json : Option Ref) (string : Option (List Byte)) (s : Values) :
    Frees s (useString json string s) := by
  unfold useString
  split
  · exact frees_useValue json s
  · exact .refl s

theorem eventMember_none (hloaded : Loaded payload r s) {key : String}
    (hget : payload.get key = none) (deviceId : Option (List Byte)) :
    eventMember (some r) (some qi) deviceId key s = s := by
  simp only [eventMember, hloaded.get_none key hget]

theorem eventMember_some (hloaded : Loaded payload r s) (hid : Borrowed s r id qi) {key : String}
    {value : JsonT} (hget : payload.get key = some value) (deviceId : Option (List Byte)) :
    ∃ q, Borrowed s r value q ∧
      eventMember (some r) (some qi) deviceId key s = jsonDelete (some q) s := by
  obtain ⟨q, hq, hborrowed⟩ := hloaded.get_some key value hget
  refine ⟨q, hborrowed, ?_⟩
  simp only [eventMember, hq, hborrowed.useValue_eq_self, useString_eq_self hid]

/-- Nothing is freed. -/
theorem performAction_eq_self (hloaded : Loaded payload r s) (hid : Borrowed s r id qi)
    (hfreed : ∀ value, env.freed payload event = some value → kindOf value = none)
    (deviceId : Option (List Byte)) :
    performAction (some r) (some qi) deviceId (env.action (textOf event)) s = s := by
  have hmember {key : String} (hkey : env.freed payload event = payload.get key) :
      eventMember (some r) (some qi) deviceId key s = s := by
    cases hget : payload.get key with
    | none => exact eventMember_none hloaded hget deviceId
    | some value =>
      obtain ⟨q, hborrowed, heq⟩ := eventMember_some hloaded hid hget deviceId
      rw [heq]
      exact hborrowed.jsonDelete_eq_self (hfreed value (hkey.trans hget))
  cases haction : env.action (textOf event) with
  | on | off | execute => exact useString_eq_self hid deviceId
  | setLevel => exact hmember (by rw [EventEnv.freed, haction])
  | adjustLevel => exact hmember (by rw [EventEnv.freed, haction])
  | other => rfl

/-- A member of the payload is freed. -/
theorem performAction_freed (hloaded : Loaded payload r s) (hid : Borrowed s r id qi)
    {value : JsonT} (hfreed : env.freed payload event = some value)
    (deviceId : Option (List Byte)) : ∃ q, Borrowed s r value q ∧
      performAction (some r) (some qi) deviceId (env.action (textOf event)) s =
        jsonDelete (some q) s := by
  unfold EventEnv.freed at hfreed
  cases haction : env.action (textOf event) with
  | on | off | execute | other => simp [haction] at hfreed
  | setLevel =>
    rw [haction] at hfreed
    exact eventMember_some hloaded hid hfreed deviceId
  | adjustLevel =>
    rw [haction] at hfreed
    exact eventMember_some hloaded hid hfreed deviceId

/-- The end of `eventForDevice`: the zone is looked for, and its metrics are published. -/
def publish (env : EventEnv) (event : JsonT) (json_device_id : Option Ref)
    (deviceId : Option (List Byte)) (s : Values) : Values :=
  let s := useString json_device_id deviceId s
  if env.publishes event then
    writeMetrics env.metrics (env.action (textOf event) = .execute) false s
  else s

theorem eventForDevice_eq (hevent : Borrowed s r event qe) (hid : Borrowed s r id qi) :
    eventForDevice env (some r) (some qe) (some qi) s = publish env event (some qi) (textOf id)
      (performAction (some r) (some qi) (textOf id) (env.action (textOf event)) s) := by
  simp only [eventForDevice, hevent.jsonStringValue, hid.jsonStringValue, publish,
    EventEnv.publishes]
  rfl

theorem onward_publish (env : EventEnv) (event : JsonT) (json_device_id : Option Ref)
    (deviceId : Option (List Byte)) (hn : n ≤ s.next) :
    Onward n s (publish env event json_device_id deviceId s) := by
  have huse := (frees_useString json_device_id deviceId s).onward n
  unfold publish
  dsimp only
  split
  · exact huse.trans (onward_writeMetrics _ _ _ (Nat.le_trans hn huse.next))
  · exact huse

/-- The metrics are published while the payload is still there. -/
theorem held_publish (hid : Borrowed s r id qi)
    (howns : env.publishes event = true → env.metrics.Owns) (h : Held s 0 held)
    (deviceId : Option (List Byte)) : Held (publish env event (some qi) deviceId s) 0 held := by
  unfold publish
  dsimp only
  rw [useString_eq_self hid]
  split
  next hpublishes => exact held_writeMetrics _ _ _ (howns hpublishes) h
  next => exact h

theorem fault_publish (hid : Borrowed s r id qi)
    (howns : ¬(env.publishes event = true → env.metrics.Owns)) (h : Held s 0 held)
    (deviceId : Option (List Byte)) :
    (publish env event (some qi) deviceId s).fault = true := by
  obtain ⟨hpublishes, howns⟩ := Classical.not_imp.1 howns
  unfold publish
  dsimp only
  rw [useString_eq_self hid, if_pos hpublishes]
  exact fault_writeMetrics _ _ _ howns h

/-- An event for a zone or a scene, whose payload is given up after it has been handled. -/
theorem clean_eventForDevice_iff {s' : Values} (h : Held s 0 held)
    (h' : Held s' 0 (r.owned + held)) (honward : Onward s.next s s')
    (hloaded : Loaded payload r s') (hevent : Borrowed s' r event qe)
    (hid : Borrowed s' r id qi) :
    (jsonDelete (some r) (eventForDevice env (some r) (some qe) (some qi) s')).Clean s.next ↔
      (∀ value, env.freed payload event = some value → kindOf value = none) ∧
        (env.publishes event = true → env.metrics.Owns) := by
  rw [eventForDevice_eq hevent hid]
  have hfault {s : Values} {n : ℕ} (hfault : (jsonDelete (some r) s).fault = true) :
      ¬(jsonDelete (some r) s).Clean n := fun hclean =>
    absurd (hclean.1.symm.trans hfault) Bool.false_ne_true
  by_cases hfreed : ∀ value, env.freed payload event = some value → kindOf value = none
  · rw [performAction_eq_self hloaded hid hfreed]
    by_cases howns : env.publishes event = true → env.metrics.Owns
    · have hpublish := onward_publish env event (some qi) (textOf id) honward.next
      exact iff_of_true (h.clean (held_jsonDelete (held_publish hid howns h' _))
        (honward.trans (hpublish.trans ((frees_jsonDelete ..).onward _)))) ⟨hfreed, howns⟩
    · exact iff_of_false (hfault ((frees_jsonDelete ..).fault (fault_publish hid howns h' _)))
        fun hboth => howns hboth.2
  · refine iff_of_false (hfault ?_) fun hboth => hfreed hboth.1
    obtain ⟨value, hvalue⟩ := not_forall.1 hfreed
    obtain ⟨hvalue, hkind⟩ := Classical.not_imp.1 hvalue
    obtain ⟨q, hborrowed, heq⟩ := performAction_freed hloaded hid hvalue (textOf id)
    rw [heq]
    have hnext := Nat.le_of_eq (frees_jsonDelete (some q) s').next.symm
    exact hborrowed.fault hkind (onward_publish _ _ _ _ hnext)

/-- **The callback frees the payload once** exactly if it owns what it frees. -/
theorem clean_eventCB_iff (env : EventEnv) (h : Held s 0 held) :
    (eventCB env s).Clean s.next ↔ env.Owns := by
  have hsame : s.Clean s.next := h.clean h (.refl ..)
  unfold eventCB EventEnv.Owns
  cases hduplicate : env.duplicate with
  | true => exact iff_of_true hsame fun _ _ heq => by simp at heq
  | false =>
    cases hpayload : env.payload with
    | none => exact iff_of_true hsame fun _ _ _ heq => by simp at heq
    | some json =>
      have hloaded := loaded json h
      obtain ⟨hheld, honward⟩ := held_pack_delete json h
      have hclean := h.clean hheld honward
      have hload : Held (pack (formatOf json) s).2 0 ((pack (formatOf json) s).1.owned + held) :=
        held_jsonLoads (some json) h
      have hgrows := Onward.of_grows (grows_pack (formatOf json) s) (Nat.le_refl s.next)
      simp only [jsonLoads, Bool.false_eq_true, if_false]
      cases hevent : json.get "event" with
      | none =>
        refine iff_of_true ?_ fun payload event _ heq hget => ?_
        · simp only [hloaded.get_none "event" hevent, Option.isSome_none, Bool.false_and,
            Bool.false_eq_true, if_false]
          rw [jsonObjectGet_snd hload]
          exact hclean
        · obtain rfl := Option.some.inj heq
          simp [hevent] at hget
      | some event =>
        obtain ⟨qe, hqe, hevent'⟩ := hloaded.get_some "event" event hevent
        simp only [hqe]
        cases hid : json.get "id" with
        | none =>
          refine iff_of_true ?_ fun payload event _ heq _ hsome => ?_
          · simp only [hloaded.get_none "id" hid, hevent'.jsonStringValue]
            exact hclean
          · obtain rfl := Option.some.inj heq
            simp [hid] at hsome
        | some id =>
          obtain ⟨qi, hqi, hid'⟩ := hloaded.get_some "id" id hid
          simp only [hqi]
          refine (clean_eventForDevice_iff h hload hgrows hloaded hevent' hid').trans
            ⟨fun hboth payload event' _ heq hget _ => ?_, fun howns => ?_⟩
          · obtain rfl := Option.some.inj heq
            obtain rfl := Option.some.inj (hevent.symm.trans hget)
            exact hboth
          · exact howns json event trivial rfl hevent (by simp [hid])

end Events

/-! ### The calls -/

/-- **Every value is freed exactly once, and none is used after that**, in the calls in which the
function owns what it frees, and in no other ones. -/
theorem clean_iff (call : Call) (h : Held s 0 held) :
    (call.run s).Clean s.next ↔ call.Owns := by
  cases call with
  | eventCB env => exact clean_eventCB_iff env h
  | writeMetrics env scene sceneFinished =>
    by_cases howns : env.Owns
    · exact iff_of_true (h.clean (held_writeMetrics env scene sceneFinished howns h)
        (onward_writeMetrics env scene sceneFinished (Nat.le_refl _))) howns
    · refine iff_of_false (fun hclean => ?_) howns
      have hfault := fault_writeMetrics env scene sceneFinished howns h
      exact absurd (hclean.1.symm.trans hfault) Bool.false_ne_true
  | addDevice env deviceType =>
    by_cases howns : env.Owns deviceType
    · exact iff_of_true (clean_addDevice env howns h) howns
    · exact iff_of_false (not_clean_addDevice env howns h) howns
  | addLcmPlant env => exact clean_addLcmPlant_iff env h

/-! ### An event -/

/-- There is enough memory for the metrics. -/
def metricsEnv : MetricsEnv where
  objectMade := true
  zone := Zones.exampleZone
  sceneDeviceId := CString.empty eliotDeviceIdSize_pos
  valueMade _ := true
  stored _ := true
  modulesMade := true
  updated _ := true
  telemetry := .packed

/-- An event for a zone that is not there. -/
def eventEnv (payload : JsonT) : EventEnv where
  duplicate := false
  payload := some payload
  nullEqual _ := false
  found := false
  changed := false
  metrics := metricsEnv

/-- An event that turns a zone on. -/
def onPayload : JsonT := .object [("event", .string "on"), ("id", .string "1")]

/-- An event that sets the level of a zone. -/
def levelPayload : JsonT :=
  .object [("event", .string "setLevel"), ("id", .string "1"), ("level", .integer 50)]

theorem owns_onPayload : (eventEnv onPayload).Owns := by
  intro payload event _ hpayload hevent _
  obtain rfl : onPayload = payload := Option.some.inj hpayload
  obtain rfl : JsonT.string "on" = event := Option.some.inj hevent
  refine ⟨fun value hvalue => ?_, fun hpublishes => absurd hpublishes (by decide +kernel)⟩
  have haction : (eventEnv onPayload).action (textOf (.string "on")) = .on := by decide +kernel
  simp [EventEnv.freed, haction] at hvalue

/-- The payload is freed once. -/
theorem clean_iff_onPayload : ((Call.eventCB (eventEnv onPayload)).run .empty).Clean 0 :=
  (clean_iff (.eventCB (eventEnv onPayload)) Held.empty).2 owns_onPayload

/-- The level is freed together with the payload, too. -/
theorem not_clean_levelPayload :
    ¬((Call.eventCB (eventEnv levelPayload)).run .empty).Clean 0 := by
  intro h
  exact absurd h.1 (by decide +kernel)

end Ownership

end Eliot

end Lcm
