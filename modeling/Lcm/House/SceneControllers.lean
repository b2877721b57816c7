import Lcm.House.Scenes

/-!
# The scene controllers of the house

The requests that change and delete scene controllers, and the commands that add them.  What is
queued for the scene controllers themselves is left out, but not whether it can be queued.

## Main definitions

* `handleSetSceneControllerProperties`, `handleDeleteSceneController` : the requests.
* `handleSceneControllerCommandReceived` : a scene controller is added.
-/

namespace Lcm

namespace House

open SceneControllers
open Services (Error)

/-- `MASTER_OFF_FOR_SCENE_CONTROLLER` -/
abbrev masterOff : Byte := 100

/-- The scene id of a button without a scene, `-1`. -/
abbrev noScene : Byte := 0xff

/-- The error if a command cannot be queued. -/
def transmitError : Error := ⟨"Could not transmit on queue.", 2016⟩

/-! ### Requests -/

/-- One button is changed. -/
def setBank (p : SceneControllerProperties) (bankArrayIndex : Fin maxScenesInSceneController)
    (bank : SceneControllerBank) : SceneControllerProperties :=
  { p with bank := Function.update p.bank bankArrayIndex bank }

@[simp]
theorem bank_setBank (p : SceneControllerProperties)
    (bankArrayIndex : Fin maxScenesInSceneController) (bank : SceneControllerBank) :
    (setBank p bankArrayIndex bank).bank = Function.update p.bank bankArrayIndex bank := rfl

/-- The scene of a button, a `signed char`; no scene and the master off are set at once, even if
the properties are only checked. -/
def bankSceneProperty (get : Byte → Option Scenes.SceneProperties) (setFlag : Bool)
    (bankArrayIndex : Fin maxScenesInSceneController) (valueObject : JsonT)
    (p : SceneControllerProperties) : Except Error SceneControllerProperties :=
  let sceneId : Byte := valueObject.integerValue.setWidth 8
  if !valueObject.isInteger then .error ⟨"Bank, SID must be an integer.", 2003⟩
  else if sceneId ≠ noScene ∧ sceneId ≠ masterOff then
    match get sceneId with
    | none => .error ⟨s!"Bank, Could not get properties for scene {sceneId.toInt}", 2001⟩
    | some scene =>
      if !sceneNamed scene then .error ⟨s!"Bank, SID {sceneId.toInt} does not exist.", 2002⟩
      else if setFlag then
        .ok (setBank p bankArrayIndex { p.bank bankArrayIndex with sceneId := sceneId })
      else .ok p
  else if sceneId = noScene then
    .ok (setBank p bankArrayIndex { p.bank bankArrayIndex with sceneId := sceneId })
  else
    .ok (setBank p bankArrayIndex
      { p.bank bankArrayIndex with sceneId := sceneId, toggleable := 0 })

/-- Whether a button switches its scene off again; the master off does not. -/
def toggleableProperty (setFlag : Bool) (bankArrayIndex : Fin maxScenesInSceneController)
    (valueObject : JsonT) (p : SceneControllerProperties) :
    Except Error SceneControllerProperties :=
  let bank := p.bank bankArrayIndex
  if !valueObject.isBoolean then .error ⟨"Bank, Toggleable must be a boolean.", 2004⟩
  else if setFlag then
    if valueObject.isTrue then
      if bank.sceneId ≠ masterOff then
        .ok (setBank p bankArrayIndex { bank with toggleable := 1 })
      else .error ⟨"Bank, Toggleable must be a False for Master Off.", 2109⟩
    else .ok (setBank p bankArrayIndex { bank with toggleable := 0 })
  else .ok p

/-- Whether a button has switched its scene on. -/
def toggledProperty (setFlag : Bool) (bankArrayIndex : Fin maxScenesInSceneController)
    (valueObject : JsonT) (p : SceneControllerProperties) :
    Except Error SceneControllerProperties :=
  if !valueObject.isBoolean then .error ⟨"Bank, Toggled must be an boolean.", 2005⟩
  else if setFlag then
    .ok (setBank p bankArrayIndex
      { p.bank bankArrayIndex with toggled := if valueObject.isTrue then 1 else 0 })
  else .ok p

/-- `HandleIndividualBankListProperty` -/
def handleIndividualBankListProperty (get : Byte → Option Scenes.SceneProperties) (setFlag : Bool)
    (bankArrayIndex : Fin maxScenesInSceneController) (p : SceneControllerProperties)
    (property : String × JsonT) : Except Error SceneControllerProperties :=
  if property.1 = "SID" then bankSceneProperty get setFlag bankArrayIndex property.2 p
  else if property.1 = "Toggleable" then toggleableProperty setFlag bankArrayIndex property.2 p
  else if property.1 = "Toggled" then toggledProperty setFlag bankArrayIndex property.2 p
  else .error ⟨"Invalid Property in List.", 2028⟩

/-- What a pass over the properties of a scene controller works on. -/
structure SceneControllerEdit where
  /-- `sceneControllerProperties` -/
  properties : SceneControllerProperties
  /-- An error response that does not end the pass. -/
  response : Option Error

/-- `Name` -/
def sceneControllerNameProperty (setFlag : Bool) (valueObject : JsonT)
    (edit : SceneControllerEdit) : Except Error SceneControllerEdit :=
  if !valueObject.isString then .error ⟨"PropertyList, Name must be string.", 2060⟩
  else .ok
    (if setFlag then
      { edit with
        properties :=
          { edit.properties with SceneControllerNameString := sanitizedName valueObject.chars } }
    else edit)

/-- `NightMode`; a change is sent to the scene controller. -/
def nightModeProperty (setFlag settingsSent : Bool) (valueObject : JsonT)
    (edit : SceneControllerEdit) : Except Error SceneControllerEdit :=
  let nightMode : Byte := if valueObject.isTrue then 1 else 0
  if !valueObject.isBoolean then .error ⟨"PropertyList, NightMode must be boolean.", 2061⟩
  else if setFlag then
    .ok
      { properties := { edit.properties with nightMode := nightMode }
        response :=
          if nightMode ≠ edit.properties.nightMode ∧ !settingsSent then some transmitError
          else edit.response }
  else .ok edit

/-- `Banks` -/
def banksProperty (get : Byte → Option Scenes.SceneProperties) (setFlag : Bool)
    (valueObject : JsonT) (edit : SceneControllerEdit) : Except Error SceneControllerEdit :=
  let elements := valueObject.elements
  if !valueObject.isArray then .error ⟨"Banks has to be an array.", 2009⟩
  else if maxScenesInSceneController < elements.length then
    .error ⟨s!"Banks has an invalid array size:{elements.length}", 2008⟩
  else do
    let p ← (List.finRange maxScenesInSceneController).foldlM
      (fun p bankArrayIndex =>
        ((elements[bankArrayIndex.val]?).elim [] JsonT.members).foldlM
          (handleIndividualBankListProperty get setFlag bankArrayIndex) p)
      edit.properties
    pure { edit with properties := p }

/-- `HandleIndividualSceneControllerProperty` -/
def handleIndividualSceneControllerProperty (get : Byte → Option Scenes.SceneProperties)
    (setFlag settingsSent : Bool) (edit : SceneControllerEdit) (property : String × JsonT) :
    Except Error SceneControllerEdit :=
  if property.1 = "Name" then sceneControllerNameProperty setFlag property.2 edit
  else if property.1 = "NightMode" then nightModeProperty setFlag settingsSent property.2 edit
  else if property.1 = "Banks" then banksProperty get setFlag property.2 edit
  else .error ⟨"Invalid Property in List.", 2028⟩

/-- The scene controller in a request; nothing is said if its properties cannot be got. -/
def sceneControllerOfRequest (st : State) (root : JsonT) :
    Except (Option Error) (Byte × SceneControllerProperties) :=
  match root.get "SCID" with
  | none => .error (some ⟨"No SCID field.", 2040⟩)
  | some (.integer value) =>
    let sceneControllerIndex : Byte := value.setWidth 8
    if maxNumberOfSceneControllers ≤ sceneControllerIndex.toNat then
      .error (some ⟨s!"SCID {sceneControllerIndex.toNat} must be less then 40.", 2077⟩)
    else
      match st.getSceneControllerProperties sceneControllerIndex with
      | none => .error none
      | some p =>
        if !sceneControllerNamed p then
          .error (some ⟨s!"SCID {sceneControllerIndex.toNat} does not exist.", 2076⟩)
        else .ok (sceneControllerIndex, p)
  | some _ => .error (some ⟨"SCID must be an integer", 2089⟩)

/-- Both passes over the properties in a request. -/
def editSceneController (get : Byte → Option Scenes.SceneProperties) (root : JsonT)
    (settingsSent : Bool) (p : SceneControllerProperties) : Except Error SceneControllerEdit :=
  match root.get "PropertyList" with
  | some (.object members) => do
    let edit ← members.foldlM (handleIndividualSceneControllerProperty get false settingsSent)
      ⟨p, none⟩
    members.foldlM (handleIndividualSceneControllerProperty get true settingsSent) edit
  | _ => .error ⟨"Invalid 'PropertyList'.", 2029⟩

/-- Which of the commands for a scene controller can be queued. -/
structure Commands where
  /-- The command with the settings. -/
  settings : Bool
  /-- The command that assigns a scene to a button. -/
  assign : Fin maxScenesInSceneController → Bool

/-- All buttons are assigned their scenes. -/
def Commands.assignAll (commands : Commands) : Bool :=
  (List.finRange maxScenesInSceneController).all commands.assign

/-- `HandleSetSceneControllerProperties`: the state and the error response. -/
def handleSetSceneControllerProperties (st : State) (root : JsonT) (commands : Commands) :
    State × Option Error :=
  match sceneControllerOfRequest st root with
  | .error response => (st, response)
  | .ok (sceneControllerIndex, p) =>
    match editSceneController st.getSceneProperties root commands.settings p with
    | .error error => (st, some error)
    | .ok edit =>
      (st.setSceneControllerProperties sceneControllerIndex edit.properties,
        if commands.assignAll then edit.response else some transmitError)

/-- The scenes of a scene controller that is reset. -/
def resetScene (bankArrayIndex : Fin maxScenesInSceneController) : Byte :=
  if bankArrayIndex = 3 then masterOff else noScene

/-- A scene controller is deleted by clearing its name; its buttons lose their scenes. -/
def clearSceneController (p : SceneControllerProperties) : SceneControllerProperties :=
  { p with
    SceneControllerNameString := CString.empty maxSizeNameString_pos
    bank := fun bankArrayIndex =>
      { p.bank bankArrayIndex with sceneId := resetScene bankArrayIndex } }

/-- `HandleDeleteSceneController`: the state and the error response.  Nothing is done if a button
cannot be assigned its scene. -/
def handleDeleteSceneController (st : State) (root : JsonT) (commands : Commands) :
    State × Option Error :=
  match sceneControllerOfRequest st root with
  | .error response => (st.clearHouseID, response)
  | .ok (sceneControllerIndex, p) =>
    if commands.assignAll then
      ((st.setSceneControllerProperties sceneControllerIndex (clearSceneController p)).clearHouseID,
        none)
    else (st, some transmitError)

/-! ### Commands -/

/-- What is not assigned for a new scene controller. -/
structure SceneControllerGarbage where
  /-- `roomId` -/
  roomId : Byte
  /-- `deviceType` -/
  deviceType : Byte

/-- The scene controller that is added. -/
def newSceneController (sceneControllerIndex buildingId houseId : Byte) (groupId : Word)
    (garbage : SceneControllerGarbage) : SceneControllerProperties where
  SceneControllerNameString := nameOf (JsonT.bytesOfString s!"SC {sceneControllerIndex.toNat}")
  bank bankArrayIndex := ⟨resetScene bankArrayIndex, 0, 0⟩
  groupId := groupId
  buildingId := buildingId
  houseId := houseId
  roomId := garbage.roomId
  nightMode := 0
  deviceType := garbage.deviceType

/-- `HandleSceneControllerCommandReceived` -/
def handleSceneControllerCommandReceived (st : State)
    (sceneControllerIndex buildingId houseId : Byte) (groupId : Word)
    (garbage : SceneControllerGarbage) : State :=
  let st := st.adoptHouseID houseId
  if st.global_houseID = houseId then
    if maxNumberOfSceneControllers ≤ sceneControllerIndex.toNat then
      let sceneControllerIndex := st.getAvailableSceneControllerIndex
      if sceneControllerIndex.toNat < maxNumberOfSceneControllers then
        { st.setSceneControllerProperties sceneControllerIndex
            (newSceneController sceneControllerIndex buildingId houseId groupId garbage) with
          addASceneController := false }
      else st
    else st
  else st

end House

end Lcm
