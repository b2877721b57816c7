import Lcm.House.State
import Lcm.Jsr.Objects

/-!
# The devices in the cloud

The cloud has a list of modules for the plant of the controller: one for the controller itself, and
one for each zone and each scene.  `Eliot_SyncDevices` asks for the list, reads it with the
streaming reader, renames or deletes the modules as it goes along, and adds what it has not found.

The cloud applies each request when it is made.  Setting properties is setting them in the tables
of the house; where the list is cut into buffers is left open.

## Main definitions

* `Module`, `Request`, `applyRequest` : the modules of the plant, and what requests do to them.
* `findZoneIndexById`, `findSceneIndexById` : the lookups.
* `addDevice`, `renameDevice`, `deleteDevice`, `syncDevices` : the functions of the source.
-/

namespace Lcm

namespace Eliot

open House Scenes Jsr

/-- `SCENE_TYPE` -/
abbrev sceneType : Byte := 0x7F

/-- `LC7001_HUB` -/
def lc7001Hub : List Byte := JsonT.bytesOfString "RFLC-LCM"

/-- `LC7001_SCENE` -/
def lc7001Scene : List Byte := JsonT.bytesOfString "RFLC-scene"

/-- `ELIOT_CLOUD_SWITCH` -/
def eliotCloudSwitch : List Byte := JsonT.bytesOfString "RFLC-switch"

/-- `ELIOT_CLOUD_DIMMER` -/
def eliotCloudDimmer : List Byte := JsonT.bytesOfString "RFLC-dimmer"

/-- `ELIOT_CLOUD_FAN` -/
def eliotCloudFan : List Byte := JsonT.bytesOfString "RFLC-fan"

/-- `ELIOT_CLOUD_SHADE` -/
def eliotCloudShade : List Byte := JsonT.bytesOfString "RFLC-shade"

/-- `ELIOT_CLOUD_SHADE_GROUP` -/
def eliotCloudShadeGroup : List Byte := JsonT.bytesOfString "RFLC-shade-group"

/-! ### The cloud -/

/-- A module of the plant; the type and the name as they stand between the quotes of the list. -/
structure Module where
  /-- `id` -/
  id : CString eliotDeviceIdSize
  /-- `deviceType`, empty if it has none -/
  deviceType : List Byte
  /-- `name` -/
  name : List Byte
  deriving DecidableEq

/-- A zone or a scene. -/
inductive Device
  /-- The zone with the given index. -/
  | zone (index : ℕ)
  /-- The scene with the given index. -/
  | scene (index : ℕ)
  deriving DecidableEq

/-- A request that changes the list. -/
inductive Request
  /-- `PATCH`, with the name. -/
  | rename (id : List Byte) (name : CString maxSizeNameString)
  /-- `DELETE` -/
  | delete (id : List Byte)
  /-- `POST` for a device, with its type and its name. -/
  | add (device : Device) (deviceType : List Byte) (name : CString maxSizeNameString)
  deriving DecidableEq

/-- What a request does to the list; a new module gets the given id. -/
def applyRequest (id : CString eliotDeviceIdSize) : Request → List Module → List Module
  | .rename deviceId name, modules =>
    modules.map fun m => if m.id.chars = deviceId then { m with name := name.chars } else m
  | .delete deviceId, modules => modules.filter fun m => m.id.chars ≠ deviceId
  | .add _ deviceType name, modules => modules ++ [⟨id, deviceType, name.chars⟩]

/-- The controller and the cloud. -/
structure Plant where
  /-- The zones and the scenes. -/
  house : House.State
  /-- The list. -/
  modules : List Module
  /-- The requests so far. -/
  requests : List Request
  /-- How many modules have been added by them. -/
  added : ℕ

/-- The ids with which the cloud answers when modules are added. -/
abbrev Answers := ℕ → CString eliotDeviceIdSize

/-- A request is made, and applied. -/
def Plant.request (answers : Answers) (p : Plant) (r : Request) : Plant :=
  { p with
    modules := applyRequest (answers p.added) r p.modules
    requests := p.requests ++ [r]
    added := match r with
      | .add .. => p.added + 1
      | _ => p.added }

/-! ### Lookups -/

section Lookup

variable {P : Type*} {named : P → Bool} {n : ℕ}

/-- The first index whose properties have a name and the given device id. -/
def findIndexById (t : Table P named n) (eliotDeviceId : P → CString eliotDeviceIdSize)
    (deviceId : List Byte) : Option ℕ :=
  let index := t.find fun p =>
    named p && (eliotDeviceId p).chars ≠ [] && (eliotDeviceId p).chars = deviceId
  if index < n then some index else none

end Lookup

/-- `FindZoneIndexById` -/
def findZoneIndexById (st : House.State) (deviceId : List Byte) : Option ℕ :=
  findIndexById st.zones (·.EliotDeviceId) deviceId

/-- `FindSceneIndexById` -/
def findSceneIndexById (st : House.State) (deviceId : List Byte) : Option ℕ :=
  findIndexById st.scenes (·.EliotDeviceId) deviceId

/-! ### Requests -/

/-- `deviceType` of the object that `Eliot_AddDevice` sends; an unknown type has none. -/
def cloudType (deviceType : Byte) : List Byte :=
  if deviceType = switchType then eliotCloudSwitch
  else if deviceType = dimmerType then eliotCloudDimmer
  else if deviceType = fanControllerType then eliotCloudFan
  else if deviceType = Rf.shadeType then eliotCloudShade
  else if deviceType = Rf.shadeGroupType then eliotCloudShadeGroup
  else if deviceType = sceneType then lc7001Scene
  else []

/-- `Eliot_AddDevice`: the id of the device afterwards. -/
def addDevice (answers : Answers) (p : Plant) (device : Device) (deviceType : Byte)
    (deviceId : CString eliotDeviceIdSize) (name : List Byte) :
    Plant × CString eliotDeviceIdSize :=
  -- remote devices do not need to be in the cloud
  if deviceType = noType then (p, deviceId)
  else
    (p.request answers (.add device (cloudType deviceType) (sanitizedName name)), answers p.added)

/-- `Eliot_RenameDevice` -/
def renameDevice (answers : Answers) (p : Plant) (deviceId name : List Byte) : Plant :=
  if deviceId.length ≠ eliotDeviceIdSize - 1 then p
  else p.request answers (.rename deviceId (sanitizedName name))

/-- `Eliot_DeleteDevice` -/
def deleteDevice (answers : Answers) (p : Plant) (deviceId : List Byte) : Plant :=
  p.request answers (.delete deviceId)

/-! ### The list -/

/-- `id_string`, `type_string` and `name_string`, as far as they are compared. -/
structure Report where
  /-- `id_string` -/
  id : List Byte
  /-- `type_string` -/
  deviceType : List Byte
  /-- `name_string` -/
  name : List Byte

/-- `ZoneNamesFound` and `SceneNamesFound` -/
abbrev Found := Device → Bool

/-- What is done about a module in the list. -/
def compareModule (answers : Answers) (moduleId : CString eliotDeviceIdSize) (s : Plant × Found)
    (r : Report) : Plant × Found :=
  let (p, found) := s
  if r.id ≠ [] ∧ r.deviceType ≠ [] ∧ r.name ≠ [] then
    if r.deviceType = lc7001Hub then
      if r.id = moduleId.chars then (p, found) else (deleteDevice answers p r.id, found)
    else if r.deviceType = lc7001Scene then
      match findSceneIndexById p.house r.id with
      | some index =>
        let name := (p.house.scenes.get index).elim [] (·.SceneNameString.chars)
        (if (sanitizedName name).chars ≠ r.name then renameDevice answers p r.id name else p,
          Function.update found (.scene index) true)
      | none => (deleteDevice answers p r.id, found)
    else
      match findZoneIndexById p.house r.id with
      | some index =>
        let name := (p.house.zones.get index).elim [] (·.ZoneNameString.chars)
        -- here the name is compared as it is
        (if name ≠ r.name then renameDevice answers p r.id name else p,
          Function.update found (.zone index) true)
      | none => (deleteDevice answers p r.id, found)
  else (p, found)

/-! ### What is not in the list -/

/-- The body of the loop over the zones. -/
def addZone (answers : Answers) (found : Found) (p : Plant) (index : ℕ) : Plant :=
  match p.house.zones.get index with
  | some properties =>
    if found (.zone index) then p
    else
      let (p, id) := addDevice answers p (.zone index) properties.deviceType
        properties.EliotDeviceId properties.ZoneNameString.chars
      { p with house := { p.house with
        zones := p.house.zones.set index { properties with EliotDeviceId := id } } }
  | none => p

/-- The body of the loop over the scenes, which does not care whether there is one. -/
def addScene (answers : Answers) (garbage : SceneProperties) (found : Found) (p : Plant)
    (index : ℕ) : Plant :=
  if found (.scene index) then p
  else
    let properties := (p.house.scenes.get index).getD garbage
    let (p, id) := addDevice answers p (.scene index) sceneType properties.EliotDeviceId
      properties.SceneNameString.chars
    { p with house := { p.house with
      scenes := p.house.scenes.set index { properties with EliotDeviceId := id } } }

/-- The loop over the scenes, with a number of indices left. -/
def addScenes (answers : Answers) (garbage : SceneProperties) (found : Found) : ℕ → Plant → Plant
  | 0, p => p
  | left + 1, p =>
    let index := maxNumberOfScenes - (left + 1)
    if index < p.house.scenes.available then
      addScenes answers garbage found left (addScene answers garbage found p index)
    else p

/-! ### Synchronizing -/

/-- What is on the stack: the arrays, and uninitialized members. -/
structure Stack where
  /-- `temp_key` -/
  tempKey : ℕ → Byte
  /-- `temp_value` -/
  tempValue : ℕ → Byte
  /-- `id_string`, `type_string` and `name_string` -/
  strings : ℕ → ℕ → Byte
  /-- `pairs[].key_max_length` -/
  keyMaxLength : ℕ → Dword
  /-- `pairs[].depth` -/
  depth : ℕ → Byte
  /-- `properties` -/
  properties : SceneProperties

/-- `pairs` -/
def syncPairs (stack : Stack) : List JsrPair :=
  [⟨chars (JsonT.bytesOfString "id"), stack.strings 0, stack.keyMaxLength 0,
      BitVec.ofNat 32 eliotDeviceIdSize, JSR_PAIR_KEY, stack.depth 0⟩,
    ⟨chars (JsonT.bytesOfString "deviceType"), stack.strings 1, stack.keyMaxLength 1, 16,
      JSR_PAIR_KEY, stack.depth 1⟩,
    ⟨chars (JsonT.bytesOfString "name"), stack.strings 2, stack.keyMaxLength 2, 32,
      JSR_PAIR_KEY, stack.depth 2⟩]

/-- `jsr` -/
def syncEnv (stack : Stack) : JsrEnv :=
  { jsrEnvInit with
    keyStr := stack.tempKey
    keyMaxLength := 16
    valueStr := stack.tempValue
    valueMaxLength := 64
    pairs := some (syncPairs stack)
    matchCount := Function.update (fun _ => 0) JSR_MAX_DEPTH 3
    option := JSR_OPTION_SKIP_HTTP_HEADER
    matchThreshold := 3 }

/-- What the pairs have captured. -/
def reportOfPairs (pairs : List JsrPair) : Report :=
  match pairs with
  | [id, deviceType, name] =>
    ⟨takeChars id.valueMaxLength.toNat id.valueStr,
      takeChars deviceType.valueMaxLength.toNat deviceType.valueStr,
      takeChars name.valueMaxLength.toNat name.valueStr⟩
  | _ => ⟨[], [], []⟩

/-- What has been captured when `jsr_read` returns. -/
def reportOf (s : JsrState) : Report := (s.pairs.map reportOfPairs).getD ⟨[], [], []⟩

/-- The response to the request for the list. -/
structure Response where
  /-- The HTTP status. -/
  status : ℕ
  /-- What `wolfSSL_read` returns after the status, buffer by buffer. -/
  buffers : List (List Byte)

/-- `ELIOT_HTTP_OK` -/
abbrev eliotHttpOk : ℕ := 200

/-- `ELIOT_HTTP_NO_CONTENT` -/
abbrev eliotHttpNoContent : ℕ := 204

/-- What the controller knows of its plant. -/
structure Account where
  /-- `eliot_lcm_plant_id` -/
  plantId : List Byte
  /-- `eliot_user_token` -/
  userToken : List Byte
  /-- `eliot_lcm_module_id` -/
  moduleId : CString eliotDeviceIdSize

/-- What is read of the list. -/
def reports (stack : Stack) (response : Response) : List Report :=
  (readAll (syncEnv stack) response.buffers).value.2.map reportOf

/-- Nothing has been found. -/
def noneFound : Found := fun _ => false

/-- `Eliot_SyncDevices`, with the response if a connection can be made. -/
def syncDevices (account : Account) (answers : Answers) (stack : Stack)
    (response : Option Response) (p : Plant) : Plant :=
  if account.plantId = [] ∨ account.userToken = [] then p
  else
    match response with
    | none => p
    | some response =>
      if response.status = eliotHttpOk ∨ response.status = eliotHttpNoContent then
        if response.buffers.flatten = [] then p
        else
          let (p, found) :=
            (reports stack response).foldl (compareModule answers account.moduleId) (p, noneFound)
          let p := (List.range maxNumberOfZones).foldl (addZone answers found) p
          addScenes answers stack.properties found maxNumberOfScenes p
      else p

end Eliot

end Lcm
