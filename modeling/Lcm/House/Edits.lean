import Lcm.House.Frames
import Lcm.Run.Fallible

/-!
# What the requests can change

A request with a list of properties passes over it twice, once to check and once to set.  What the
second pass leaves depends on what was there before and on the values in the list: a name is the
last one in the list, and most fields are not touched at all.

## Main definitions

* `propertyList`, `lastOf` : the properties in a request, and the last value with a key.
* `lastName`, `lastDeviceType` : the last name, the last device type.

## Main results

* `editZone_cases`, `editScene_cases`, `editSceneController_cases` : what an accepted request
  leaves.
-/

namespace Lcm

namespace House

open Scenes SceneControllers
open Services (Error)

/-- The properties in a request. -/
def propertyList (root : JsonT) : List (String × JsonT) :=
  (root.get "PropertyList").elim [] JsonT.members

/-- The last value with a key. -/
def lastOf (key : String) (members : List (String × JsonT)) : Option JsonT :=
  (members.filter (·.1 = key)).getLast?.map Prod.snd

/-- The last name in a request. -/
def lastName (root : JsonT) : Option (List Byte) :=
  (lastOf "Name" (propertyList root)).map JsonT.chars

/-- The last device type in a request. -/
def lastDeviceType (root : JsonT) : Option Byte :=
  (lastOf "DeviceType" (propertyList root)).map fun valueObject => deviceTypeOf valueObject.chars

/-- What a property makes of a field with its own key. -/
def fieldAfter {α : Type*} (key : String) (read : JsonT → α) (field : α)
    (property : String × JsonT) : α :=
  if property.1 = key then read property.2 else field

theorem foldl_fieldAfter {α : Type*} (key : String) (read : JsonT → α) (field : α)
    (members : List (String × JsonT)) :
    members.foldl (fieldAfter key read) field = (lastOf key members).elim field read := by
  induction members using List.reverseRecOn with
  | nil => rfl
  | append_singleton members property ih =>
    rw [List.foldl_append, List.foldl_cons, List.foldl_nil, ih, lastOf, lastOf, fieldAfter,
      List.filter_append]
    by_cases hkey : property.1 = key
    · simp [hkey]
    · simp [hkey]

/-- What a property makes of a name. -/
def nameAfter : CString maxSizeNameString → String × JsonT → CString maxSizeNameString :=
  fieldAfter "Name" fun valueObject => sanitizedName valueObject.chars

theorem foldl_nameAfter (name : CString maxSizeNameString) (root : JsonT) :
    (propertyList root).foldl nameAfter name = (lastName root).elim name sanitizedName := by
  rw [lastName, Option.elim_map]
  exact foldl_fieldAfter "Name" (fun valueObject => sanitizedName valueObject.chars) name _

/-- A name that becomes empty has been set to the empty string. -/
theorem lastName_of_empty {root : JsonT} {name name' : CString maxSizeNameString}
    (h : name' = (lastName root).elim name sanitizedName) (hold : name.chars ≠ [])
    (hnew : name'.chars = []) : lastName root = some [] := by
  cases hlast : lastName root with
  | none =>
    rw [hlast] at h
    rw [show name' = name from h] at hnew
    exact absurd hnew hold
  | some chars =>
    rw [hlast] at h
    rw [show name' = sanitizedName chars from h, sanitizedName_chars_eq_nil] at hnew
    rw [hnew]

/-! ### Zones -/

/-- What a property of a zone makes of what identifies it. -/
def deviceAfter (d : Device) (property : String × JsonT) : Device :=
  { d with
    ZoneNameString := nameAfter d.ZoneNameString property
    deviceType :=
      fieldAfter "DeviceType" (fun valueObject => deviceTypeOf valueObject.chars) d.deviceType
        property }

/-- A shade that is changed stays one. -/
theorem handleIndividualProperty_isShade {edit edit' : ZoneEdit} {property : String × JsonT}
    (hshade : isShade edit.zoneProperties = true)
    (h : handleIndividualProperty true edit property = .ok edit') :
    isShade edit'.zoneProperties = true := by
  unfold handleIndividualProperty at h
  split_ifs at h
  · simp only [powerLevelProperty] at h
    split_ifs at h <;> cases h <;> exact hshade
  · simp only [rampRateProperty] at h
    split_ifs at h
    cases h
    exact hshade
  · simp only [zoneNameProperty] at h
    split_ifs at h
    cases h
    exact hshade
  · simp only [powerProperty] at h
    split_ifs at h
    cases h
    exact hshade
  · simp only [deviceTypeProperty] at h
    split_ifs at h with _ _ htype
    cases h
    -- only what has no type yet gets one
    have hshade : edit.zoneProperties.deviceType = Rf.shadeType ∨
        edit.zoneProperties.deviceType = Rf.shadeGroupType := of_decide_eq_true hshade
    refine absurd ?_ htype
    obtain h | h := hshade <;> rw [h] <;> decide

/-- **What the second pass makes of what identifies a zone.** -/
theorem handleIndividualProperty_device {edit edit' : ZoneEdit} {property : String × JsonT}
    (h : handleIndividualProperty true edit property = .ok edit') :
    deviceOf edit'.zoneProperties = deviceAfter (deviceOf edit.zoneProperties) property := by
  have hne {a b : String} (hab : property.1 = a) (hb : a ≠ b) : property.1 ≠ b := hab ▸ hb
  unfold handleIndividualProperty at h
  split_ifs at h with hlevel hrate hname hpower htype
  · simp only [powerLevelProperty] at h
    rw [deviceAfter, nameAfter, fieldAfter, fieldAfter,
      if_neg (hne hlevel (by decide)), if_neg (hne hlevel (by decide))]
    split_ifs at h <;> cases h <;> rfl
  · simp only [rampRateProperty] at h
    rw [deviceAfter, nameAfter, fieldAfter, fieldAfter,
      if_neg (hne hrate (by decide)), if_neg (hne hrate (by decide))]
    split_ifs at h
    cases h
    rfl
  · simp only [zoneNameProperty] at h
    rw [deviceAfter, nameAfter, fieldAfter, fieldAfter,
      if_pos hname, if_neg (hne hname (by decide))]
    split_ifs at h
    cases h
    rfl
  · simp only [powerProperty] at h
    rw [deviceAfter, nameAfter, fieldAfter, fieldAfter,
      if_neg (hne hpower (by decide)), if_neg (hne hpower (by decide))]
    split_ifs at h
    cases h
    rfl
  · simp only [deviceTypeProperty] at h
    rw [deviceAfter, nameAfter, fieldAfter, fieldAfter,
      if_pos htype, if_neg (hne htype (by decide))]
    split_ifs at h
    cases h
    rfl

theorem foldl_deviceAfter (d : Device) (root : JsonT) :
    (propertyList root).foldl deviceAfter d =
      { d with
        ZoneNameString := (lastName root).elim d.ZoneNameString sanitizedName
        deviceType := (lastDeviceType root).getD d.deviceType } := by
  have hfold (members : List (String × JsonT)) (d : Device) : members.foldl deviceAfter d =
      { d with
        ZoneNameString := members.foldl nameAfter d.ZoneNameString
        deviceType :=
          members.foldl
            (fieldAfter "DeviceType" fun valueObject => deviceTypeOf valueObject.chars)
            d.deviceType } := by
    induction members generalizing d with
    | nil => rfl
    | cons property members ih => exact ih _
  rw [hfold, foldl_nameAfter, foldl_fieldAfter, lastDeviceType]
  cases lastOf "DeviceType" (propertyList root) <;> rfl

/-- The second pass over the properties of an accepted request. -/
theorem editZone_passes {root : JsonT} {errorFlag : Bool} {p : ZoneProperties} {edit : ZoneEdit}
    (h : editZone root errorFlag p = .ok (some edit)) :
    (propertyList root).foldlM (handleIndividualProperty true) (startEdit root p) = .ok edit := by
  unfold editZone at h
  split at h
  · rename_i members hlist
    rw [propertyList, hlist]
    obtain ⟨-, -, h⟩ := bind_eq_ok.1 h
    split_ifs at h
    · cases h
    · split at h
      · cases h
      · obtain ⟨edit', hpass, h⟩ := bind_eq_ok.1 h
        cases h
        exact hpass
  · cases h

/-- **What an accepted request leaves of a zone**: its address, and a name; a shade stays one. -/
theorem editZone_cases {root : JsonT} {errorFlag : Bool} {p : ZoneProperties} {edit : ZoneEdit}
    (h : editZone root errorFlag p = .ok (some edit)) :
    deviceOf edit.zoneProperties =
        { deviceOf p with
          ZoneNameString := (lastName root).elim p.ZoneNameString sanitizedName
          deviceType := (lastDeviceType root).getD p.deviceType } ∧
      (isShade p = true → isShade edit.zoneProperties = true) := by
  have hpass := editZone_passes h
  constructor
  · have hkey := foldlM_key (fun edit => deviceOf edit.zoneProperties)
      (fun _ _ _ => handleIndividualProperty_device) hpass
    exact hkey.trans (foldl_deviceAfter (deviceOf p) root)
  · intro hshade
    exact foldlM_invariant (I := fun edit => isShade edit.zoneProperties = true)
      (fun _ _ _ _ => handleIndividualProperty_isShade) hshade hpass

/-! ### Scenes -/

theorem integerProperty_ok {valueObject : JsonT} {notAnInteger : Error}
    {check : BitVec 64 → Option Error} {set : BitVec 64 → SceneProperties → SceneProperties}
    {p p' : SceneProperties}
    (h : integerProperty true valueObject notAnInteger check set p = .ok p') :
    p' = set valueObject.integerValue p := by
  unfold integerProperty at h
  obtain ⟨-, h⟩ | ⟨-, h⟩ := ite_eq_iff.1 h
  · cases h
  · split at h
    · cases h
    · cases h
      rfl

/-- The zones of a scene are those in the list. -/
theorem verifySceneZoneList_ok {get : Byte → Option ZoneProperties} {valueObject : JsonT}
    {p p' : SceneProperties} (h : verifySceneZoneList get true valueObject p = .ok p') :
    ∃ zoneData fits, (zoneDataOf valueObject.elements).map Subtype.val = .ok zoneData ∧
      p' = { p with zoneData := zoneData, fits := fits } := by
  unfold verifySceneZoneList at h
  dsimp only at h
  split at h
  · cases h
  · split at h
    · cases h
    · obtain ⟨-, -, h⟩ := bind_eq_ok.1 h
      obtain ⟨⟨zoneData, hlength⟩, hzones, h⟩ := bind_eq_ok.1 h
      cases h
      exact ⟨zoneData, _, by rw [hzones]; rfl, rfl⟩

/-- **What the second pass makes of a scene.** -/
theorem handleIndividualSceneProperty_cases {get : Byte → Option ZoneProperties}
    {p p' : SceneProperties} {property : String × JsonT}
    (h : handleIndividualSceneProperty get true p property = .ok p') :
    (p'.SceneNameString, p'.running) = (nameAfter p.SceneNameString property, p.running) ∧
      (property.1 ≠ "ZoneList" ∧ p'.zoneData = p.zoneData ∨
        property.1 = "ZoneList" ∧
          (zoneDataOf property.2.elements).map Subtype.val = .ok p'.zoneData) := by
  have hne {a b : String} (hab : property.1 = a) (hb : a ≠ b) : property.1 ≠ b := hab ▸ hb
  unfold handleIndividualSceneProperty at h
  dsimp only at h
  rw [nameAfter, fieldAfter]
  obtain ⟨hname, h⟩ | ⟨hname, h⟩ := ite_eq_iff.1 h
  · unfold sceneNameProperty at h
    obtain ⟨-, h⟩ | ⟨-, h⟩ := ite_eq_iff.1 h
    · cases h
    · cases h
      exact ⟨by rw [if_pos hname]; rfl, .inl ⟨hne hname (by decide), rfl⟩⟩
  rw [if_neg hname]
  obtain ⟨hlist, h⟩ | ⟨hlist, h⟩ := ite_eq_iff.1 h
  · obtain ⟨-, h⟩ | ⟨-, h⟩ := ite_eq_iff.1 h
    · cases h
    · obtain ⟨zoneData, fits, hzones, rfl⟩ := verifySceneZoneList_ok h
      exact ⟨rfl, .inr ⟨hlist, hzones⟩⟩
  obtain ⟨-, h⟩ | ⟨-, h⟩ := ite_eq_iff.1 h
  · obtain rfl := integerProperty_ok h
    exact ⟨rfl, .inl ⟨hlist, rfl⟩⟩
  obtain ⟨-, h⟩ | ⟨-, h⟩ := ite_eq_iff.1 h
  · obtain rfl := integerProperty_ok h
    exact ⟨rfl, .inl ⟨hlist, rfl⟩⟩
  obtain ⟨-, h⟩ | ⟨-, h⟩ := ite_eq_iff.1 h
  · obtain rfl := integerProperty_ok h
    exact ⟨rfl, .inl ⟨hlist, rfl⟩⟩
  obtain ⟨-, h⟩ | ⟨-, h⟩ := ite_eq_iff.1 h
  · obtain rfl := integerProperty_ok h
    exact ⟨rfl, .inl ⟨hlist, rfl⟩⟩
  obtain ⟨-, h⟩ | ⟨-, h⟩ := ite_eq_iff.1 h
  · obtain rfl := integerProperty_ok h
    exact ⟨rfl, .inl ⟨hlist, rfl⟩⟩
  obtain ⟨-, h⟩ | ⟨-, h⟩ := ite_eq_iff.1 h
  · obtain ⟨-, h⟩ | ⟨-, h⟩ := ite_eq_iff.1 h
    · cases h
    · cases h
      exact ⟨rfl, .inl ⟨hlist, rfl⟩⟩
  · cases h

/-- The second pass over the properties of an accepted request. -/
theorem editScene_passes {get : Byte → Option ZoneProperties} {root : JsonT}
    {p p' : SceneProperties} (h : editScene get root p = .ok p') :
    (propertyList root).foldlM (handleIndividualSceneProperty get true) p = .ok p' := by
  unfold editScene at h
  split at h
  · rename_i members hlist
    rw [propertyList, hlist]
    obtain ⟨-, -, h⟩ := bind_eq_ok.1 h
    obtain ⟨-, -, h⟩ := bind_eq_ok.1 h
    exact h
  · cases h

/-- **What an accepted request leaves of a scene**: a name, and whether it runs. -/
theorem editScene_cases {get : Byte → Option ZoneProperties} {root : JsonT}
    {p p' : SceneProperties} (h : editScene get root p = .ok p') :
    p'.SceneNameString = (lastName root).elim p.SceneNameString sanitizedName ∧
      p'.running = p.running := by
  have hkey := foldlM_key (fun p : SceneProperties => (p.SceneNameString, p.running))
    (g := fun k property => (nameAfter k.1 property, k.2))
    (fun _ _ _ h => (handleIndividualSceneProperty_cases h).1) (editScene_passes h)
  have hfold (k : CString maxSizeNameString × Byte) (members : List (String × JsonT)) :
      members.foldl (fun k property => (nameAfter k.1 property, k.2)) k =
        (members.foldl nameAfter k.1, k.2) := by
    induction members generalizing k with
    | nil => rfl
    | cons property members ih => exact ih _
  rw [hfold, foldl_nameAfter] at hkey
  exact Prod.mk.inj hkey

/-! ### Scene controllers -/

/-- A property of a button changes nothing but buttons. -/
theorem handleIndividualBankListProperty_eq {get : Byte → Option SceneProperties} {setFlag : Bool}
    {bankArrayIndex : Fin maxScenesInSceneController} {p p' : SceneControllerProperties}
    {property : String × JsonT}
    (h : handleIndividualBankListProperty get setFlag bankArrayIndex p property = .ok p') :
    p' = { p with bank := p'.bank } := by
  unfold handleIndividualBankListProperty at h
  obtain ⟨-, h⟩ | ⟨-, h⟩ := ite_eq_iff.1 h
  · unfold bankSceneProperty at h
    dsimp only at h
    obtain ⟨-, h⟩ | ⟨-, h⟩ := ite_eq_iff.1 h
    · cases h
    obtain ⟨-, h⟩ | ⟨-, h⟩ := ite_eq_iff.1 h
    · split at h
      · cases h
      · split_ifs at h <;> cases h <;> rfl
    · split_ifs at h <;> cases h <;> rfl
  obtain ⟨-, h⟩ | ⟨-, h⟩ := ite_eq_iff.1 h
  · unfold toggleableProperty at h
    dsimp only at h
    split_ifs at h <;> cases h <;> rfl
  obtain ⟨-, h⟩ | ⟨-, h⟩ := ite_eq_iff.1 h
  · unfold toggledProperty at h
    dsimp only at h
    split_ifs at h <;> cases h <;> rfl
  · cases h

/-- What the properties of the buttons preserve, the list of buttons does. -/
theorem banksProperty_invariant {get : Byte → Option SceneProperties} {setFlag : Bool}
    {valueObject : JsonT} {edit edit' : SceneControllerEdit} {I : SceneControllerProperties → Prop}
    (hI : ∀ bankArrayIndex p property p', I p →
      handleIndividualBankListProperty get setFlag bankArrayIndex p property = .ok p' → I p')
    (hp : I edit.properties) (h : banksProperty get setFlag valueObject edit = .ok edit') :
    I edit'.properties := by
  unfold banksProperty at h
  dsimp only at h
  obtain ⟨-, h⟩ | ⟨-, h⟩ := ite_eq_iff.1 h
  · cases h
  obtain ⟨-, h⟩ | ⟨-, h⟩ := ite_eq_iff.1 h
  · cases h
  · obtain ⟨p, hbanks, h⟩ := bind_eq_ok.1 h
    cases h
    refine foldlM_invariant (fun p bankArrayIndex p' _ hp hbank => ?_) hp hbanks
    exact foldlM_invariant (fun p property p' _ => hI bankArrayIndex p property p') hp hbank

/-- **What a pass makes of a scene controller**: a name, and the buttons. -/
theorem handleIndividualSceneControllerProperty_cases {get : Byte → Option SceneProperties}
    {setFlag settingsSent : Bool} {edit edit' : SceneControllerEdit} {property : String × JsonT}
    (h : handleIndividualSceneControllerProperty get setFlag settingsSent edit property =
      .ok edit') :
    (edit'.properties.SceneControllerNameString, edit'.properties.houseId) =
      (if setFlag then nameAfter edit.properties.SceneControllerNameString property
        else edit.properties.SceneControllerNameString, edit.properties.houseId) := by
  unfold handleIndividualSceneControllerProperty at h
  rw [nameAfter, fieldAfter]
  obtain ⟨hname, h⟩ | ⟨hname, h⟩ := ite_eq_iff.1 h
  · unfold sceneControllerNameProperty at h
    obtain ⟨-, h⟩ | ⟨-, h⟩ := ite_eq_iff.1 h
    · cases h
    · cases h
      rw [if_pos hname]
      cases setFlag <;> rfl
  rw [if_neg hname, ite_self]
  obtain ⟨-, h⟩ | ⟨-, h⟩ := ite_eq_iff.1 h
  · unfold nightModeProperty at h
    dsimp only at h
    split_ifs at h <;> cases h <;> rfl
  obtain ⟨-, h⟩ | ⟨-, h⟩ := ite_eq_iff.1 h
  · refine banksProperty_invariant (I := fun p => (p.SceneControllerNameString, p.houseId) =
      (edit.properties.SceneControllerNameString, edit.properties.houseId)) ?_ rfl h
    intro bankArrayIndex p property p' hp hbank
    rw [handleIndividualBankListProperty_eq hbank]
    exact hp
  · cases h

/-- **What an accepted request leaves of a scene controller**: a name, and its house. -/
theorem editSceneController_cases {get : Byte → Option SceneProperties} {root : JsonT}
    {settingsSent : Bool} {p : SceneControllerProperties} {edit : SceneControllerEdit}
    (h : editSceneController get root settingsSent p = .ok edit) :
    edit.properties.SceneControllerNameString =
        (lastName root).elim p.SceneControllerNameString sanitizedName ∧
      edit.properties.houseId = p.houseId := by
  unfold editSceneController at h
  split at h
  · rename_i members hlist
    obtain ⟨checked, hcheck, h⟩ := bind_eq_ok.1 h
    -- the first pass leaves both, the second one sets the name
    have hchecked := foldlM_invariant
      (I := fun edit : SceneControllerEdit =>
        edit.properties.SceneControllerNameString = p.SceneControllerNameString ∧
          edit.properties.houseId = p.houseId)
      (fun edit property edit' _ hedit hround => by
        have hcases := Prod.mk.inj (handleIndividualSceneControllerProperty_cases hround)
        exact ⟨hcases.1.trans hedit.1, hcases.2.trans hedit.2⟩)
      ⟨rfl, rfl⟩ hcheck
    have hset := foldlM_key
      (fun edit : SceneControllerEdit => edit.properties.SceneControllerNameString)
      (g := nameAfter)
      (fun edit property edit' hround => by
        have hcases := Prod.mk.inj (handleIndividualSceneControllerProperty_cases hround)
        rw [hcases.1, if_pos rfl]) h
    have hhouse := foldlM_invariant
      (I := fun edit : SceneControllerEdit => edit.properties.houseId = p.houseId)
      (fun edit property edit' _ hedit hround =>
        (Prod.mk.inj (handleIndividualSceneControllerProperty_cases hround)).2.trans hedit)
      hchecked.2 h
    refine ⟨?_, hhouse⟩
    have hname := foldl_nameAfter p.SceneControllerNameString root
    rw [propertyList, hlist] at hname
    rw [hset, hchecked.1]
    exact hname
  · cases h

/-- What the properties of the buttons preserve, an accepted request does. -/
theorem editSceneController_banks {get : Byte → Option SceneProperties} {root : JsonT}
    {settingsSent : Bool} {p : SceneControllerProperties} {edit : SceneControllerEdit}
    {I : (Fin maxScenesInSceneController → SceneControllerBank) → Prop}
    (hI : ∀ setFlag bankArrayIndex p property p', I p.bank →
      handleIndividualBankListProperty get setFlag bankArrayIndex p property = .ok p' → I p'.bank)
    (hp : I p.bank) (h : editSceneController get root settingsSent p = .ok edit) :
    I edit.properties.bank := by
  have hround (setFlag : Bool) (edit edit' : SceneControllerEdit) (property : String × JsonT)
      (hedit : I edit.properties.bank)
      (h : handleIndividualSceneControllerProperty get setFlag settingsSent edit property =
        .ok edit') : I edit'.properties.bank := by
    unfold handleIndividualSceneControllerProperty at h
    obtain ⟨-, h⟩ | ⟨-, h⟩ := ite_eq_iff.1 h
    · unfold sceneControllerNameProperty at h
      obtain ⟨-, h⟩ | ⟨-, h⟩ := ite_eq_iff.1 h
      · cases h
      · cases h
        cases setFlag <;> exact hedit
    obtain ⟨-, h⟩ | ⟨-, h⟩ := ite_eq_iff.1 h
    · unfold nightModeProperty at h
      dsimp only at h
      split_ifs at h <;> cases h <;> exact hedit
    obtain ⟨-, h⟩ | ⟨-, h⟩ := ite_eq_iff.1 h
    · exact banksProperty_invariant (hI setFlag) hedit h
    · cases h
  unfold editSceneController at h
  split at h
  · let J (edit : SceneControllerEdit) : Prop := I edit.properties.bank
    obtain ⟨checked, hcheck, h⟩ := bind_eq_ok.1 h
    have hchecked : J checked := foldlM_invariant
      (fun edit property edit' _ => hround false edit edit' property) hp hcheck
    have hset : J edit := foldlM_invariant
      (fun edit property edit' _ => hround true edit edit' property) hchecked h
    exact hset
  · cases h

/-! ### Requests -/

section Requests

variable (st : State) (root : JsonT)

theorem lookup_ok {P : Type*} {get : Byte → Option P} {named : P → Bool} {size : ℕ}
    {errors : LookupErrors} {field : Option JsonT} {index : Byte} {p : P}
    (h : lookup get named size errors field = .ok (index, p)) :
    index.toNat < size ∧ get index = some p := by
  unfold lookup at h
  split at h
  · cases h
  · obtain ⟨-, h⟩ | ⟨-, h⟩ := ite_eq_iff.1 h
    · cases h
    dsimp only at h
    obtain ⟨-, h⟩ | ⟨hsize, h⟩ := ite_eq_iff.1 h
    · cases h
    split at h
    · cases h
    · obtain ⟨-, h⟩ | ⟨-, h⟩ := ite_eq_iff.1 h
      · cases h
        exact ⟨Nat.lt_of_not_le hsize, ‹_›⟩
      · cases h

/-- **Setting the properties of a zone**: nothing changes, or what an accepted request leaves is
stored. -/
theorem handleSetZoneProperties_cases (errorFlag : Bool) (sending : State.Sending) :
    (handleSetZoneProperties st root errorFlag sending).1 = st ∨
      ∃ zoneIndex p edit st',
        lookup st.getZoneProperties zoneNamed maxNumberOfZones setZoneErrors (root.get "ZID") =
            .ok (zoneIndex, p) ∧
          editZone root errorFlag p = .ok (some edit) ∧
          (st' = st ∨ st' =
            st.sendRampCommandToTransmitTask zoneIndex 101 0 highPriority 0 sending) ∧
          (handleSetZoneProperties st root errorFlag sending).1 =
            st'.setZoneProperties zoneIndex edit.zoneProperties := by
  unfold handleSetZoneProperties
  dsimp only
  split
  · exact .inl rfl
  · exact .inl rfl
  · rename_i zoneIndex edit h
    obtain ⟨⟨index, p⟩, hlookup, h⟩ := bind_eq_ok.1 h
    obtain ⟨edit', hedit, h⟩ := bind_eq_ok.1 h
    cases h
    refine .inr ⟨index, p, edit, _, hlookup, hedit, ?_, rfl⟩
    split
    · exact .inr rfl
    · exact .inl rfl

/-- **Deleting a zone**: it loses its name, and the house id is cleared with the last device. -/
theorem handleDeleteZone_cases :
    (handleDeleteZone st root).1 = st.clearHouseID ∨
      ∃ zoneIndex p st', st.getZoneProperties zoneIndex = some p ∧
        (st' = st.setZoneProperties zoneIndex (clearZone p) ∨
          st' = { st.setZoneProperties zoneIndex (clearZone p) with
            idString := Function.update st.idString zoneIndex.toNat [] }) ∧
        (handleDeleteZone st root).1 = st'.clearHouseID := by
  unfold handleDeleteZone
  split
  · exact .inl rfl
  · rename_i zoneIndex p h
    refine .inr ⟨zoneIndex, p, _, (lookup_ok h).2, ?_, rfl⟩
    split
    · exact .inr rfl
    · exact .inl rfl

/-- **Creating a scene**: nothing changes, or the scene is stored in the first free slot. -/
theorem handleCreateScene_cases (garbage : SceneProperties) (nextTriggerTime : Dword) :
    (handleCreateScene st root garbage nextTriggerTime).1 = st ∨
      ∃ p, st.scenes.available < maxNumberOfScenes ∧
        editScene st.getZoneProperties root (newScene garbage) = .ok p ∧
        (handleCreateScene st root garbage nextTriggerTime).1 =
          st.setSceneProperties st.getAvailableSceneIndex
            { p with nextTriggerTime := nextTriggerTime } := by
  unfold handleCreateScene
  dsimp only
  split
  · rename_i hfree
    split
    · exact .inl rfl
    · exact .inr ⟨_, toNat_getAvailableSceneIndex st ▸ hfree, ‹_›, rfl⟩
  · exact .inl rfl

theorem sceneOfRequest_ok {st : State} {root : JsonT} {sceneIndex : Byte} {p : SceneProperties}
    (h : sceneOfRequest st root = .ok (sceneIndex, p)) :
    st.getSceneProperties sceneIndex = some p := by
  unfold sceneOfRequest at h
  split at h
  · cases h
  · obtain ⟨-, h⟩ | ⟨-, h⟩ := ite_eq_iff.1 h
    · cases h
    · dsimp only at h
      split at h
      · cases h
      · cases h
        assumption
  · cases h

/-- **Setting the properties of a scene**: nothing changes, or what an accepted request leaves is
stored. -/
theorem handleSetSceneProperties_cases (nextTriggerTime : Dword) :
    (handleSetSceneProperties st root nextTriggerTime).1 = st ∨
      ∃ sceneIndex p p', sceneOfRequest st root = .ok (sceneIndex, p) ∧
        editScene st.getZoneProperties root p = .ok p' ∧
        (handleSetSceneProperties st root nextTriggerTime).1 =
          st.setSceneProperties sceneIndex { p' with nextTriggerTime := nextTriggerTime } := by
  unfold handleSetSceneProperties
  dsimp only
  split
  · exact .inl rfl
  · rename_i sceneIndex p' h
    obtain ⟨⟨index, p⟩, hscene, h⟩ := bind_eq_ok.1 h
    obtain ⟨q, hedit, h⟩ := bind_eq_ok.1 h
    cases h
    exact .inr ⟨index, p, p', hscene, hedit, rfl⟩

/-- **Deleting a scene**: it loses its name, and the buttons lose the scene. -/
theorem handleDeleteScene_cases :
    (handleDeleteScene st root).1 = st ∨
      ∃ sceneIndex p, st.getSceneProperties sceneIndex = some p ∧
        (handleDeleteScene st root).1 =
          deleteSceneFromSceneController
            (st.setSceneProperties sceneIndex
              { p with SceneNameString := CString.empty (by decide) }) sceneIndex := by
  unfold handleDeleteScene
  split
  · exact .inl rfl
  · exact .inr ⟨_, _, (lookup_ok ‹_›).2, rfl⟩

theorem sceneControllerOfRequest_ok {st : State} {root : JsonT} {sceneControllerIndex : Byte}
    {p : SceneControllerProperties}
    (h : sceneControllerOfRequest st root = .ok (sceneControllerIndex, p)) :
    st.getSceneControllerProperties sceneControllerIndex = some p := by
  unfold sceneControllerOfRequest at h
  split at h
  · cases h
  · dsimp only at h
    obtain ⟨-, h⟩ | ⟨-, h⟩ := ite_eq_iff.1 h
    · cases h
    split at h
    · cases h
    · obtain ⟨-, h⟩ | ⟨-, h⟩ := ite_eq_iff.1 h
      · cases h
      · cases h
        assumption
  · cases h

/-- **Setting the properties of a scene controller**: nothing changes, or what an accepted request
leaves is stored. -/
theorem handleSetSceneControllerProperties_cases (commands : Commands) :
    (handleSetSceneControllerProperties st root commands).1 = st ∨
      ∃ sceneControllerIndex p edit,
        sceneControllerOfRequest st root = .ok (sceneControllerIndex, p) ∧
        editSceneController st.getSceneProperties root commands.settings p = .ok edit ∧
        (handleSetSceneControllerProperties st root commands).1 =
          st.setSceneControllerProperties sceneControllerIndex edit.properties := by
  unfold handleSetSceneControllerProperties
  split
  · exact .inl rfl
  · rename_i hcontroller
    split
    · exact .inl rfl
    · exact .inr ⟨_, _, _, hcontroller, ‹_›, rfl⟩

/-- **Deleting a scene controller**: it loses its name, and the house id is cleared with the last
device. -/
theorem handleDeleteSceneController_cases (commands : Commands) :
    (handleDeleteSceneController st root commands).1 = st ∨
      (handleDeleteSceneController st root commands).1 = st.clearHouseID ∨
      ∃ sceneControllerIndex p,
        st.getSceneControllerProperties sceneControllerIndex = some p ∧
        (handleDeleteSceneController st root commands).1 =
          (st.setSceneControllerProperties sceneControllerIndex
            (clearSceneController p)).clearHouseID := by
  unfold handleDeleteSceneController
  split
  · exact .inr (.inl rfl)
  · rename_i hcontroller
    split
    · exact .inr (.inr ⟨_, _, sceneControllerOfRequest_ok hcontroller, rfl⟩)
    · exact .inl rfl

end Requests

end House

end Lcm
