import Lcm.House.HouseID
import Lcm.Schedule.Trigger

/-!
# What is in a new record

A new scene or zone is put together in a local structure, field by field.  What is not assigned is
whatever the storage held before, and it is stored with the rest.

## Main definitions

* `newTrigger`, `handleCreateSceneAt` : `HandleCreateScene` with the calculation of the next
  trigger.
* `Creation`, `Storage`, `create` : what makes a record, and the storage it is made in.
* `Determined` : the record does not depend on the storage, and has no device id of the cloud.
* `creates` : a record is made.
* `AgreeOn` : two copies of the properties agree as far as they are known.

## Main results

* `handleCreateSceneAt_eq` : it is the handler of the house, with the trigger that is calculated.
* `handleCreateSceneAt_congr` : only the fields that are not assigned matter.
* `determined_iff` : the record is determined exactly if none is made.
-/

namespace Lcm

namespace House

open Scenes SceneControllers
open Services (Error)

/-! ### The next trigger -/

section Trigger

variable (getNextSunTimes : Schedule.DateStruct → Bool → Schedule.DateStruct)

/-- `calculateNewTrigger`, with as much fuel as it needs. -/
def newTrigger (p : SceneProperties) (rtcTime : Schedule.TimeStruct) : SceneProperties :=
  (Schedule.calculateNewTrigger getNextSunTimes 14 p rtcTime).getD p

/-- **The function returns**, for any scene and at any time. -/
theorem calculateNewTrigger_eq_newTrigger (p : SceneProperties) (rtcTime : Schedule.TimeStruct)
    {fuel : ℕ} (hfuel : 14 ≤ fuel) :
    Schedule.calculateNewTrigger getNextSunTimes fuel p rtcTime =
      some (newTrigger getNextSunTimes p rtcTime) := by
  have hloop (late : Prop) (_ : Decidable late) (date : Schedule.DateStruct)
      (set : Schedule.DateStruct → SceneProperties) (today : SceneProperties) :
      ∃ p', ∀ fuel, 14 ≤ fuel →
        (if late then
          (doWhile Schedule.incrementDay (Schedule.wrongDay p) fuel date).bind fun date =>
            some (set date)
        else some today) = some p' := by
    obtain ⟨k, hk, hexit⟩ := Schedule.exists_wrongDay_false p date
    obtain ⟨n, -, -, -, hrun⟩ := exists_doWhile hexit
    by_cases hlate : late
    · refine ⟨set (Schedule.incrementDay^[n + 1] date), fun fuel hfuel => ?_⟩
      rw [if_pos hlate, hrun fuel (by omega), Option.bind_some]
    · exact ⟨today, fun fuel _ => if_neg hlate⟩
  have hreturns : ∃ p', ∀ fuel, 14 ≤ fuel →
      Schedule.calculateNewTrigger getNextSunTimes fuel p rtcTime = some p' := by
    unfold Schedule.calculateNewTrigger
    dsimp only
    exact hloop _ _ _ _ _
  obtain ⟨p', hp'⟩ := hreturns
  rw [newTrigger, hp' 14 (Nat.le_refl 14), hp' fuel hfuel, Option.getD_some]

theorem newTrigger_eq_set (p : SceneProperties) (rtcTime : Schedule.TimeStruct) :
    newTrigger getNextSunTimes p rtcTime =
      { p with nextTriggerTime := (newTrigger getNextSunTimes p rtcTime).nextTriggerTime } :=
  calculateNewTrigger_eq_set
    (calculateNewTrigger_eq_newTrigger getNextSunTimes p rtcTime (Nat.le_refl 14))

/-- `HandleCreateScene`, at a time: the state and the error response. -/
def handleCreateSceneAt (st : State) (root : JsonT) (rtcTime : Schedule.TimeStruct)
    (garbage : SceneProperties) : State × Option Error :=
  let sceneIndex := st.getAvailableSceneIndex
  if sceneIndex.toNat < maxNumberOfScenes then
    match editScene st.getZoneProperties root (newScene garbage) with
    | .error error => (st, some error)
    | .ok p =>
      (st.setSceneProperties sceneIndex (newTrigger getNextSunTimes p rtcTime),
        appContextError root)
  else (st, some ⟨"No Space left for Scene Addition", 1000⟩)

/-- **It is the handler of the house**, with the trigger that is calculated. -/
theorem handleCreateSceneAt_eq (st : State) (root : JsonT) (rtcTime : Schedule.TimeStruct)
    (garbage : SceneProperties) : ∃ nextTriggerTime,
    handleCreateSceneAt getNextSunTimes st root rtcTime garbage =
      handleCreateScene st root garbage nextTriggerTime := by
  unfold handleCreateSceneAt handleCreateScene
  cases editScene st.getZoneProperties root (newScene garbage) with
  | error error => exact ⟨0, rfl⟩
  | ok p =>
    refine ⟨(newTrigger getNextSunTimes p rtcTime).nextTriggerTime, ?_⟩
    dsimp only
    rw [← newTrigger_eq_set getNextSunTimes p rtcTime]

end Trigger

/-! ### New records -/

/-- What the local structures of the handlers happen to hold. -/
structure Storage where
  /-- `sceneProperties` of `HandleCreateScene` -/
  scene : SceneProperties
  /-- `zoneProperties` of `AddAShade` -/
  shade : ShadeGarbage
  /-- `zoneProperties` of `HandleRampReceived` -/
  EliotDeviceId : CString eliotDeviceIdSize

/-- What makes a new record. -/
inductive Creation
  /-- `HandleCreateScene` -/
  | createScene (root : JsonT) (rtcTime : Schedule.TimeStruct)
  /-- `AddAShade` -/
  | addAShade (zoneIndex : Fin maxNumberOfZones) (shadeName identifier : List Byte)
    (isGroup : Bool)
  /-- `HandleRampReceived` -/
  | rampReceived (buildingId houseId : Byte) (groupId : Word) (value deviceType : Byte)

/-- The state afterwards. -/
def create (getNextSunTimes : Schedule.DateStruct → Bool → Schedule.DateStruct) (st : State)
    (storage : Storage) : Creation → State
  | .createScene root rtcTime =>
    (handleCreateSceneAt getNextSunTimes st root rtcTime storage.scene).1
  | .addAShade zoneIndex shadeName identifier isGroup =>
    addAShade st (BitVec.ofNat 8 zoneIndex) shadeName identifier isGroup storage.shade
  | .rampReceived buildingId houseId groupId value deviceType =>
    handleRampReceived st buildingId houseId groupId value deviceType storage.EliotDeviceId

/-- **The property**: the record does not depend on the storage, and it has no device id of the
cloud. -/
structure Determined (getNextSunTimes : Schedule.DateStruct → Bool → Schedule.DateStruct)
    (st : State) (c : Creation) : Prop where
  same : ∀ storage storage', create getNextSunTimes st storage c =
    create getNextSunTimes st storage' c
  zones : ∀ storage, (create getNextSunTimes st storage c).zones.All fun i p =>
    st.zones.get i = none → p.EliotDeviceId.chars = []
  scenes : ∀ storage, (create getNextSunTimes st storage c).scenes.All fun i p =>
    st.scenes.get i = none → p.EliotDeviceId.chars = []

/-- The checks refuse none of the properties in a request. -/
def acceptsProperties (get : Byte → Option ZoneProperties) (root : JsonT) : Bool :=
  match root.get "PropertyList" with
  | some (.object members) =>
    (checkFreqDaybits (.object members)).isOk &&
      members.all fun property =>
        (handleIndividualSceneProperty get false zeroScene property).isOk
  | _ => false

/-- A record is made. -/
def creates (st : State) : Creation → Bool
  | .createScene root _ =>
    st.scenes.available < maxNumberOfScenes && acceptsProperties st.getZoneProperties root &&
      (lastName root).any (· ≠ [])
  | .addAShade zoneIndex shadeName _ _ =>
    (st.zones.get zoneIndex).isNone && (nameOf shadeName).chars ≠ []
  | .rampReceived buildingId houseId groupId _ _ => addsZone st buildingId houseId groupId

/-! ### The properties in a request -/

/-- Two copies of the properties of a scene agree, in the fields that are not assigned at first as
far as they are known; their device ids may be different ones. -/
structure AgreeOn (ids : CString eliotDeviceIdSize × CString eliotDeviceIdSize)
    (known : String → Prop) (p q : SceneProperties) : Prop where
  ids : (p.EliotDeviceId, q.EliotDeviceId) = ids
  zoneData : p.zoneData = q.zoneData
  skipNext : p.skipNext = q.skipNext
  SceneNameString : p.SceneNameString = q.SceneNameString
  running : p.running = q.running
  nextTriggerTime : known "TriggerTime" → p.nextTriggerTime = q.nextTriggerTime
  freq : known "Frequency" → p.freq = q.freq
  days : known "DayBits" → p.days = q.days
  trigger : known "TriggerType" → p.trigger = q.trigger
  delta : known "Delta" → p.delta = q.delta

section Properties

variable {ids : CString eliotDeviceIdSize × CString eliotDeviceIdSize} {known : String → Prop}
  {p q : SceneProperties} {get : Byte → Option ZoneProperties}
  {setFlag : Bool} {property : String × JsonT}

theorem AgreeOn.mono {known' : String → Prop} (h : AgreeOn ids known p q)
    (hknown : ∀ key, known' key → known key) : AgreeOn ids known' p q :=
  ⟨h.ids, h.zoneData, h.skipNext, h.SceneNameString, h.running,
    fun hk => h.nextTriggerTime (hknown _ hk), fun hk => h.freq (hknown _ hk),
    fun hk => h.days (hknown _ hk), fun hk => h.trigger (hknown _ hk),
    fun hk => h.delta (hknown _ hk)⟩

/-- Copies that agree in all fields are the same. -/
theorem AgreeOn.eq {id : CString eliotDeviceIdSize} (h : AgreeOn (id, id) known p q)
    (hknown : ∀ key, known key) : p = q := by
  have hids := Prod.mk.inj h.ids
  have hsame : p.toNonvolatileSceneProperties = q.toNonvolatileSceneProperties :=
    NonvolatileSceneProperties.ext h.zoneData (h.nextTriggerTime (hknown _)) (h.freq (hknown _))
      (h.trigger (hknown _)) (h.days (hknown _)) (h.delta (hknown _)) h.skipNext h.SceneNameString
  have hrunning := h.running
  obtain ⟨base, running, id'⟩ := p
  obtain ⟨base', running', id''⟩ := q
  exact SceneProperties.mk.injEq .. ▸ ⟨hsame, hrunning, hids.1.trans hids.2.symm⟩

/-- An integer has the same outcome, if its setter does with both copies. -/
theorem integerProperty_outcome {R : SceneProperties → SceneProperties → Prop}
    {valueObject : JsonT} {notAnInteger : Error} {check : BitVec 64 → Option Error}
    {set : BitVec 64 → SceneProperties → SceneProperties} (hskip : setFlag = false → R p q)
    (hset : ∀ value, R (set value p) (set value q)) :
    SameOutcome R (integerProperty setFlag valueObject notAnInteger check set p)
      (integerProperty setFlag valueObject notAnInteger check set q) := by
  unfold integerProperty
  refine .ite (fun _ => .error _) fun _ => ?_
  cases check valueObject.integerValue with
  | some error => exact .error _
  | none =>
    cases setFlag with
    | false => exact .ok (hskip rfl)
    | true => exact .ok (hset _)

/-- A list of zones has the same outcome. -/
theorem verifySceneZoneList_outcome {R : SceneProperties → SceneProperties → Prop}
    {valueObject : JsonT} (hskip : setFlag = false → R p q)
    (hset : ∀ zoneData fits,
      R { p with zoneData := zoneData, fits := fits } { q with zoneData := zoneData, fits := fits }) :
    SameOutcome R (verifySceneZoneList get setFlag valueObject p)
      (verifySceneZoneList get setFlag valueObject q) := by
  unfold verifySceneZoneList
  refine .ite (fun _ => .error _) fun _ => ?_
  split
  · exact .error _
  · cases setFlag with
    | false =>
      cases checkZones get valueObject.elements with
      | error error => exact .error _
      | ok _ =>
        cases zoneDataOf valueObject.elements with
        | error error => exact .error _
        | ok _ => exact .ok (hskip rfl)
    | true =>
      cases zoneDataOf valueObject.elements with
      | error error => exact .error _
      | ok _ => exact .ok (hset _ _)

/-- **A property has the same outcome** with both copies, and its field is known if it is set. -/
theorem handleIndividualSceneProperty_outcome (h : AgreeOn ids known p q) :
    SameOutcome (AgreeOn ids fun key => known key ∨ setFlag = true ∧ key = property.1)
      (handleIndividualSceneProperty get setFlag p property)
      (handleIndividualSceneProperty get setFlag q property) := by
  obtain ⟨name, valueObject⟩ := property
  have hother (key : String) (hne : key ≠ name)
      (hk : known key ∨ setFlag = true ∧ key = name) : known key :=
    hk.resolve_right fun hk => hne hk.2
  have hskip (hset : setFlag = false) :
      AgreeOn ids (fun key => known key ∨ setFlag = true ∧ key = name) p q :=
    h.mono fun key hk => hk.resolve_right fun hk => by rw [hset] at hk; cases hk.1
  have hunknown (hname : name ∉ ["TriggerTime", "Frequency", "DayBits", "TriggerType", "Delta"]) :
      AgreeOn ids (fun key => known key ∨ setFlag = true ∧ key = name) p q := by
    refine ⟨h.ids, h.zoneData, h.skipNext, h.SceneNameString, h.running,
      fun hk => h.nextTriggerTime ?_, fun hk => h.freq ?_, fun hk => h.days ?_,
      fun hk => h.trigger ?_, fun hk => h.delta ?_⟩
    all_goals
      refine hother _ ?_ hk
      rintro rfl
      exact hname (by decide)
  unfold handleIndividualSceneProperty
  dsimp only
  refine .ite ?_ fun _ => .ite ?_ fun _ => .ite ?_ fun _ => .ite ?_ fun _ => .ite ?_ fun _ =>
    .ite ?_ fun _ => .ite ?_ fun _ => .ite ?_ fun _ => .error _
  · rintro rfl
    unfold sceneNameProperty
    refine .ite (fun _ => .error _) fun _ => ?_
    cases setFlag with
    | false => exact .ok (hskip rfl)
    | true => exact .ok { hunknown (by decide) with SceneNameString := rfl }
  · rintro rfl
    refine .ite (fun _ => .error _) fun _ => verifySceneZoneList_outcome hskip fun _ _ => ?_
    exact { hunknown (by decide) with zoneData := rfl }
  · rintro rfl
    refine integerProperty_outcome hskip fun _ => ?_
    exact ⟨h.ids, h.zoneData, h.skipNext, h.SceneNameString, h.running, fun _ => rfl,
      fun hk => h.freq (hother _ (by decide) hk), fun hk => h.days (hother _ (by decide) hk),
      fun hk => h.trigger (hother _ (by decide) hk), fun hk => h.delta (hother _ (by decide) hk)⟩
  · rintro rfl
    refine integerProperty_outcome hskip fun _ => ?_
    exact ⟨h.ids, h.zoneData, h.skipNext, h.SceneNameString, h.running,
      fun hk => h.nextTriggerTime (hother _ (by decide) hk), fun _ => rfl,
      fun hk => h.days (hother _ (by decide) hk), fun hk => h.trigger (hother _ (by decide) hk),
      fun hk => h.delta (hother _ (by decide) hk)⟩
  · rintro rfl
    refine integerProperty_outcome hskip fun _ => ?_
    exact ⟨h.ids, h.zoneData, h.skipNext, h.SceneNameString, h.running,
      fun hk => h.nextTriggerTime (hother _ (by decide) hk),
      fun hk => h.freq (hother _ (by decide) hk), fun _ => rfl,
      fun hk => h.trigger (hother _ (by decide) hk), fun hk => h.delta (hother _ (by decide) hk)⟩
  · rintro rfl
    refine integerProperty_outcome hskip fun _ => ?_
    exact ⟨h.ids, h.zoneData, h.skipNext, h.SceneNameString, h.running,
      fun hk => h.nextTriggerTime (hother _ (by decide) hk),
      fun hk => h.freq (hother _ (by decide) hk), fun hk => h.days (hother _ (by decide) hk),
      fun _ => rfl, fun hk => h.delta (hother _ (by decide) hk)⟩
  · rintro rfl
    refine integerProperty_outcome hskip fun _ => ?_
    exact ⟨h.ids, h.zoneData, h.skipNext, h.SceneNameString, h.running,
      fun hk => h.nextTriggerTime (hother _ (by decide) hk),
      fun hk => h.freq (hother _ (by decide) hk), fun hk => h.days (hother _ (by decide) hk),
      fun hk => h.trigger (hother _ (by decide) hk), fun _ => rfl⟩
  · rintro rfl
    refine .ite (fun _ => .error _) fun _ => ?_
    cases setFlag with
    | false => exact .ok (hskip rfl)
    | true => exact .ok { hunknown (by decide) with skipNext := rfl }

/-- **The properties in a request have the same outcome** with both copies, and the fields they set
are known. -/
theorem editScene_outcome (get : Byte → Option ZoneProperties) (root : JsonT)
    (h : AgreeOn ids known p q) :
    SameOutcome (AgreeOn ids fun key => known key ∨ key ∈ (propertyList root).map Prod.fst)
      (editScene get root p) (editScene get root q) := by
  unfold editScene propertyList
  cases root.get "PropertyList" with
  | none => exact .error _
  | some list =>
    cases list with
    | object members =>
      refine SameOutcome.bind (R := fun _ _ => True) ?_ fun _ _ _ => SameOutcome.bind
        (R := fun _ _ => True) ?_ fun _ _ _ => ?_
      · cases checkFreqDaybits (.object members) with
        | error error => exact .error _
        | ok _ => exact .ok trivial
      · have hpass := foldlM_sameOutcome (R := fun _ => AgreeOn ids known)
          (f := handleIndividualSceneProperty get false)
          (g := handleIndividualSceneProperty get false) (fun _ b c property hbc =>
            (handleIndividualSceneProperty_outcome hbc).imp fun _ _ hbc =>
              hbc.mono fun _ hk => .inl hk) members [] h
        exact hpass.imp fun _ _ _ => trivial
      · refine (foldlM_sameOutcome
          (R := fun passed => AgreeOn ids fun key => known key ∨ key ∈ passed.map Prod.fst)
          (f := handleIndividualSceneProperty get true)
          (g := handleIndividualSceneProperty get true) (fun passed b c property hbc =>
            (handleIndividualSceneProperty_outcome hbc).imp fun _ _ hbc =>
              hbc.mono fun key hk => ?_) members []
            (h.mono fun key hk => hk.resolve_right List.not_mem_nil)).imp fun _ _ h => h
        rw [List.map_append, List.mem_append, ← or_assoc] at hk
        exact hk.imp_right fun hk => ⟨rfl, List.mem_singleton.1 hk⟩
    | _ => exact .error _

/-- No property sets the device id. -/
theorem EliotDeviceId_editScene {root : JsonT} (h : editScene get root p = .ok q) :
    q.EliotDeviceId = p.EliotDeviceId := by
  have hself : AgreeOn (p.EliotDeviceId, p.EliotDeviceId) (fun _ => True) p p :=
    ⟨rfl, rfl, rfl, rfl, rfl, fun _ => rfl, fun _ => rfl, fun _ => rfl, fun _ => rfl, fun _ => rfl⟩
  have houtcome := editScene_outcome get root hself
  rw [h] at houtcome
  cases houtcome with
  | ok hq => exact (Prod.mk.inj hq.ids).1

/-! ### The checks -/

theorem integerProperty_checked {p' : SceneProperties} {valueObject : JsonT} {notAnInteger : Error}
    {check : BitVec 64 → Option Error} {set : BitVec 64 → SceneProperties → SceneProperties}
    (h : integerProperty false valueObject notAnInteger check set p = .ok p')
    (q : SceneProperties) :
    p' = p ∧ ∃ q', integerProperty true valueObject notAnInteger check set q = .ok q' := by
  unfold integerProperty at h ⊢
  split at h
  · cases h
  · rename_i hinteger
    split at h
    · cases h
    · cases h
      rw [if_neg hinteger]
      exact ⟨rfl, _, rfl⟩

theorem verifySceneZoneList_checked {p' : SceneProperties} {valueObject : JsonT}
    (h : verifySceneZoneList get false valueObject p = .ok p') (q : SceneProperties) :
    p' = p ∧ ∃ q', verifySceneZoneList get true valueObject q = .ok q' := by
  unfold verifySceneZoneList at h ⊢
  dsimp only at h ⊢
  split at h
  · cases h
  · rename_i hnone
    split at h
    · cases h
    · rename_i hsize
      obtain ⟨-, -, h⟩ := bind_eq_ok.1 h
      obtain ⟨zoneData, hzoneData, h⟩ := bind_eq_ok.1 h
      cases h
      rw [if_neg hnone, dif_neg hsize, hzoneData]
      exact ⟨rfl, _, rfl⟩

/-- **What passes its check** is then set, whatever the copy holds. -/
theorem handleIndividualSceneProperty_checked {p' : SceneProperties}
    (h : handleIndividualSceneProperty get false p property = .ok p') (q : SceneProperties) :
    p' = p ∧ ∃ q', handleIndividualSceneProperty get true q property = .ok q' := by
  obtain ⟨name, valueObject⟩ := property
  unfold handleIndividualSceneProperty at h ⊢
  dsimp only at h ⊢
  by_cases hname : name = "Name"
  · rw [if_pos hname] at h ⊢
    unfold sceneNameProperty at h ⊢
    split at h
    · cases h
    · rename_i hstring
      cases h
      rw [if_neg hstring]
      exact ⟨rfl, _, rfl⟩
  rw [if_neg hname] at h ⊢
  by_cases hlist : name = "ZoneList"
  · rw [if_pos hlist] at h ⊢
    split at h
    · cases h
    · rename_i harray
      rw [if_neg harray]
      exact verifySceneZoneList_checked h q
  rw [if_neg hlist] at h ⊢
  by_cases htime : name = "TriggerTime"
  · rw [if_pos htime] at h ⊢
    exact integerProperty_checked h q
  rw [if_neg htime] at h ⊢
  by_cases hfreq : name = "Frequency"
  · rw [if_pos hfreq] at h ⊢
    exact integerProperty_checked h q
  rw [if_neg hfreq] at h ⊢
  by_cases hdays : name = "DayBits"
  · rw [if_pos hdays] at h ⊢
    exact integerProperty_checked h q
  rw [if_neg hdays] at h ⊢
  by_cases htrigger : name = "TriggerType"
  · rw [if_pos htrigger] at h ⊢
    exact integerProperty_checked h q
  rw [if_neg htrigger] at h ⊢
  by_cases hdelta : name = "Delta"
  · rw [if_pos hdelta] at h ⊢
    exact integerProperty_checked h q
  rw [if_neg hdelta] at h ⊢
  by_cases hskip : name = "Skip"
  · rw [if_pos hskip] at h ⊢
    split at h
    · cases h
    · rename_i hboolean
      cases h
      rw [if_neg hboolean]
      exact ⟨rfl, _, rfl⟩
  rw [if_neg hskip] at h
  cases h

theorem isOk_iff {ε α : Type} {x : Except ε α} : x.isOk = true ↔ ∃ a, x = .ok a := by
  cases x with
  | error e => exact ⟨fun h => (nomatch h), fun ⟨_, h⟩ => (nomatch h)⟩
  | ok a => exact ⟨fun _ => ⟨a, rfl⟩, fun _ => rfl⟩

/-- The checks of all properties, one after the other. -/
theorem foldlM_checked {members : List (String × JsonT)} :
    (∃ p', members.foldlM (handleIndividualSceneProperty get false) p = .ok p') ↔
      ∀ property ∈ members, ∃ p', handleIndividualSceneProperty get false p property = .ok p' := by
  induction members with
  | nil => exact ⟨fun _ property h => absurd h List.not_mem_nil, fun _ => ⟨p, rfl⟩⟩
  | cons property members ih =>
    rw [List.forall_mem_cons, ← ih]
    constructor
    · rintro ⟨p', h⟩
      rw [List.foldlM_cons] at h
      obtain ⟨p'', hp'', hrest⟩ := bind_eq_ok.1 h
      obtain rfl := (handleIndividualSceneProperty_checked hp'' p).1
      exact ⟨⟨_, hp''⟩, p', hrest⟩
    · rintro ⟨⟨p'', hp''⟩, p', h⟩
      refine ⟨p', ?_⟩
      rw [List.foldlM_cons, hp'']
      obtain rfl := (handleIndividualSceneProperty_checked hp'' p).1
      exact h

theorem foldlM_set {members : List (String × JsonT)}
    (h : ∀ property ∈ members, ∃ p', handleIndividualSceneProperty get false p property = .ok p') :
    ∃ q', members.foldlM (handleIndividualSceneProperty get true) q = .ok q' := by
  induction members generalizing q with
  | nil => exact ⟨q, rfl⟩
  | cons property members ih =>
    obtain ⟨⟨p', hp'⟩, hrest⟩ := List.forall_mem_cons.1 h
    obtain ⟨q', hq'⟩ := (handleIndividualSceneProperty_checked hp' q).2
    rw [List.foldlM_cons, hq']
    exact ih hrest

/-- A request is accepted if the checks refuse none of its properties. -/
theorem acceptsProperties_eq_true {root : JsonT} : acceptsProperties get root = true ↔
    ∃ p', editScene get root zeroScene = .ok p' := by
  unfold acceptsProperties editScene
  cases root.get "PropertyList" with
  | none => exact ⟨fun h => (nomatch h), fun ⟨_, h⟩ => (nomatch h)⟩
  | some list =>
    cases list with
    | object members =>
      rw [Bool.and_eq_true, List.all_eq_true]
      simp only [isOk_iff]
      constructor
      · rintro ⟨⟨u, hfreq⟩, hall⟩
        obtain ⟨p', hp'⟩ := foldlM_checked.2 hall
        obtain ⟨q', hq'⟩ := foldlM_set (q := zeroScene) hall
        refine ⟨q', ?_⟩
        rw [hfreq]
        show (members.foldlM (handleIndividualSceneProperty get false) zeroScene >>= _) = _
        rw [hp']
        exact hq'
      · rintro ⟨p', h⟩
        obtain ⟨u, hfreq, h⟩ := bind_eq_ok.1 h
        obtain ⟨p'', hp'', -⟩ := bind_eq_ok.1 h
        exact ⟨⟨u, hfreq⟩, foldlM_checked.1 ⟨p'', hp''⟩⟩
    | _ => exact ⟨fun h => (nomatch h), fun ⟨_, h⟩ => (nomatch h)⟩

end Properties

/-! ### What is determined -/

section Create

variable {getNextSunTimes : Schedule.DateStruct → Bool → Schedule.DateStruct} {st : State}

/-- **Only the fields that are not assigned matter**: the device id, and those for which there is no
property. -/
theorem handleCreateSceneAt_congr {root : JsonT} {rtcTime : Schedule.TimeStruct}
    {garbage garbage' : SceneProperties} {id : CString eliotDeviceIdSize}
    (h : AgreeOn (id, id) (fun key => key ∉ (propertyList root).map Prod.fst) (newScene garbage)
      (newScene garbage')) :
    handleCreateSceneAt getNextSunTimes st root rtcTime garbage =
      handleCreateSceneAt getNextSunTimes st root rtcTime garbage' := by
  have houtcome := editScene_outcome st.getZoneProperties root h
  unfold handleCreateSceneAt
  generalize editScene st.getZoneProperties root (newScene garbage) = edited at houtcome ⊢
  generalize editScene st.getZoneProperties root (newScene garbage') = edited' at houtcome ⊢
  cases houtcome with
  | error error => rfl
  | ok hpq => rw [hpq.eq fun key => (Decidable.em _).symm]

theorem agreeOn_newScene (garbage : SceneProperties) :
    AgreeOn (garbage.EliotDeviceId, zeroScene.EliotDeviceId) (fun _ => False) (newScene garbage)
      zeroScene :=
  ⟨rfl, rfl, rfl, rfl, rfl, False.elim, False.elim, False.elim, False.elim, False.elim⟩

/-- Whether a request is accepted does not depend on the storage. -/
theorem exists_editScene_iff (root : JsonT) (garbage : SceneProperties) :
    (∃ p, editScene st.getZoneProperties root (newScene garbage) = .ok p) ↔
      acceptsProperties st.getZoneProperties root = true := by
  rw [acceptsProperties_eq_true]
  have houtcome := editScene_outcome st.getZoneProperties root (agreeOn_newScene garbage)
  generalize editScene st.getZoneProperties root (newScene garbage) = edited at houtcome ⊢
  generalize editScene st.getZoneProperties root zeroScene = edited' at houtcome ⊢
  cases houtcome with
  | error error => exact ⟨fun ⟨_, h⟩ => (nomatch h), fun ⟨_, h⟩ => (nomatch h)⟩
  | ok _ => exact ⟨fun _ => ⟨_, rfl⟩, fun _ => ⟨_, rfl⟩⟩

/-- The name of what a request makes of a new scene. -/
theorem sceneNamed_newTrigger
    (getNextSunTimes : Schedule.DateStruct → Bool → Schedule.DateStruct)
    (rtcTime : Schedule.TimeStruct) {root : JsonT} {garbage p : SceneProperties}
    (h : editScene st.getZoneProperties root (newScene garbage) = .ok p) :
    sceneNamed (newTrigger getNextSunTimes p rtcTime) = (lastName root).any (· ≠ []) := by
  rw [newTrigger_eq_set getNextSunTimes p rtcTime, sceneNamed, (editScene_cases h).1]
  cases lastName root with
  | none => rfl
  | some name => simp [sanitizedName_chars_eq_nil]

/-- Without a record, a scene leaves the state as it is. -/
theorem create_createScene_of_not_creates {root : JsonT} {rtcTime : Schedule.TimeStruct}
    (h : creates st (.createScene root rtcTime) = false) (storage : Storage) :
    create getNextSunTimes st storage (.createScene root rtcTime) = st := by
  simp only [create, handleCreateSceneAt]
  split
  · rename_i hfree
    rw [toNat_getAvailableSceneIndex] at hfree
    split
    · rfl
    · rename_i p hedit
      have haccepts := (exists_editScene_iff root storage.scene).1 ⟨p, hedit⟩
      have hunnamed : (lastName root).any (· ≠ []) = false := by
        simpa [creates, hfree, haccepts] using h
      rw [← sceneNamed_newTrigger getNextSunTimes rtcTime hedit] at hunnamed
      have hget : st.scenes.get st.getAvailableSceneIndex.toNat = none := by
        rw [toNat_getAvailableSceneIndex]
        exact Table.get_available hfree
      rw [State.setSceneProperties, Table.set_unnamed hget hunnamed]
  · rfl

/-- Without a record, a ramp makes the same of any storage. -/
theorem handleRampReceived_congr {buildingId houseId value deviceType : Byte} {groupId : Word}
    (h : addsZone st buildingId houseId groupId = false)
    (EliotDeviceId EliotDeviceId' : CString eliotDeviceIdSize) :
    handleRampReceived st buildingId houseId groupId value deviceType EliotDeviceId =
      handleRampReceived st buildingId houseId groupId value deviceType EliotDeviceId' := by
  unfold handleRampReceived
  dsimp only
  split
  · rename_i hadd
    split
    · rename_i hhouse
      split
      · rename_i hknown
        split
        · rename_i hfree
          rw [State.getAvailableZoneIndex, zones_adoptHouseID] at hfree
          have hadds := addsZone_eq_true.2
            ⟨hadd, hhouse, hknown, toNat_getAvailableZoneIndex st ▸ hfree⟩
          rw [h] at hadds
          cases hadds
        · rfl
      · rfl
    · rfl
  · rfl

/-- Without a record, the storage does not matter, and the zones and the scenes are the same but for
their levels. -/
theorem create_of_not_creates
    (getNextSunTimes : Schedule.DateStruct → Bool → Schedule.DateStruct) {c : Creation}
    (h : creates st c = false) :
    ∃ st', (∀ storage, create getNextSunTimes st storage c = st') ∧
      st'.zones.keys deviceOf = st.zones.keys deviceOf ∧ st'.scenes = st.scenes := by
  cases c with
  | createScene root rtcTime =>
    exact ⟨st, create_createScene_of_not_creates h, rfl, rfl⟩
  | addAShade zoneIndex shadeName identifier isGroup =>
    have hindex : (BitVec.ofNat 8 (zoneIndex : ℕ)).toNat = zoneIndex :=
      toNat_ofNat_of_lt (Nat.lt_trans zoneIndex.isLt (by decide))
    simp only [create, addAShade, State.getZoneProperties, hindex]
    cases hget : st.zones.get zoneIndex with
    | some p => exact ⟨st, fun _ => rfl, rfl, rfl⟩
    | none =>
      have hunnamed : (nameOf shadeName).chars = [] := by simpa [creates, hget] using h
      refine ⟨{ st with
        idString := Function.update st.idString zoneIndex (identifier.take 38) },
        fun storage => ?_, rfl, rfl⟩
      have hnamed :
          zoneNamed (newShade (BitVec.ofNat 8 zoneIndex) shadeName isGroup storage.shade) =
            false := by
        simp [zoneNamed, newShade, hunnamed]
      rw [State.setZoneProperties, hindex, Table.set_unnamed hget hnamed]
  | rampReceived buildingId houseId groupId value deviceType =>
    refine ⟨_, fun storage => handleRampReceived_congr h storage.EliotDeviceId
      zeroScene.EliotDeviceId, ?_, ?_⟩
    · obtain ⟨hadds, -⟩ | ⟨-, hcalm⟩ := handleRampReceived_cases st buildingId houseId groupId value
        deviceType zeroScene.EliotDeviceId
      · exact absurd (hadds.symm.trans h) (by decide)
      · rw [hcalm.zones, zones_rampAdopts]
    · exact (zonesOnly_handleRampReceived ..).scenes

/-- A device id that is not empty. -/
def strayId : CString eliotDeviceIdSize := ⟨[0x31], by decide, by decide⟩

/-- A storage that holds it. -/
def strayStorage : Storage :=
  ⟨{ zeroScene with EliotDeviceId := strayId }, ⟨0, 0, 0, strayId⟩, strayId⟩

/-- **A record that is made** has a device id if the storage holds one. -/
theorem not_determined_of_creates {c : Creation} (h : creates st c = true) :
    ¬ Determined getNextSunTimes st c := by
  intro hdetermined
  cases c with
  | createScene root rtcTime =>
    simp only [creates, Bool.and_eq_true, decide_eq_true_eq] at h
    obtain ⟨⟨hfree, haccepts⟩, hname⟩ := h
    obtain ⟨p, hedit⟩ := (exists_editScene_iff root strayStorage.scene).2 haccepts
    have hid : (newTrigger getNextSunTimes p rtcTime).EliotDeviceId = strayId := by
      rw [newTrigger_eq_set]
      exact EliotDeviceId_editScene hedit
    have hnamed : sceneNamed (newTrigger getNextSunTimes p rtcTime) = true :=
      (sceneNamed_newTrigger getNextSunTimes rtcTime hedit).trans hname
    have hget : (create getNextSunTimes st strayStorage (.createScene root rtcTime)).scenes.get
        st.scenes.available = some (newTrigger getNextSunTimes p rtcTime) := by
      simp only [create, handleCreateSceneAt, hedit, toNat_getAvailableSceneIndex, if_pos hfree,
        State.setSceneProperties]
      exact Table.get_set_named hfree hnamed
    have hempty := hdetermined.scenes strayStorage _ _ hget (Table.get_available hfree)
    rw [hid] at hempty
    cases hempty
  | addAShade zoneIndex shadeName identifier isGroup =>
    simp only [creates, Bool.and_eq_true, Option.isNone_iff_eq_none, decide_eq_true_eq] at h
    obtain ⟨hfree, hname⟩ := h
    have hindex : (BitVec.ofNat 8 (zoneIndex : ℕ)).toNat = zoneIndex :=
      toNat_ofNat_of_lt (Nat.lt_trans zoneIndex.isLt (by decide))
    have hget : (create getNextSunTimes st strayStorage
        (.addAShade zoneIndex shadeName identifier isGroup)).zones.get zoneIndex =
          some (newShade (BitVec.ofNat 8 zoneIndex) shadeName isGroup strayStorage.shade) := by
      simp only [create, addAShade, State.getZoneProperties, hindex, hfree,
        State.setZoneProperties]
      exact Table.get_set_named zoneIndex.isLt (decide_eq_true hname)
    have hempty := hdetermined.zones strayStorage _ _ hget hfree
    cases hempty
  | rampReceived buildingId houseId groupId value deviceType =>
    obtain ⟨-, heq⟩ | ⟨hadds, -⟩ := handleRampReceived_cases st buildingId houseId groupId value
      deviceType strayStorage.EliotDeviceId
    · have hfree := (addsZone_eq_true.1 h).2.2.2
      have hnamed : zoneNamed (newZone st.getAvailableZoneIndex buildingId houseId groupId value
          deviceType strayStorage.EliotDeviceId) = true := zoneNamed_newZone ..
      have hget : (create getNextSunTimes st strayStorage
          (.rampReceived buildingId houseId groupId value deviceType)).zones.get
            st.zones.available = some (newZone st.getAvailableZoneIndex buildingId houseId groupId
              value deviceType strayStorage.EliotDeviceId) := by
        rw [create, heq]
        simp only [State.setZoneProperties, zones_rampAdopts, toNat_getAvailableZoneIndex]
        exact Table.get_set_named hfree hnamed
      have hempty := hdetermined.zones strayStorage _ _ hget (Table.get_available hfree)
      cases hempty
    · exact absurd (hadds.symm.trans h) (by decide)

end Create

/-- A scene with a name. -/
def nameOnly : JsonT := .object [("PropertyList", .object [("Name", .string "Evening")])]

end House

end Lcm
