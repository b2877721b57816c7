import Lcm.House.Machine
import Lcm.Run.Fallible

/-!
# The list of zones in a request

A request that sets a scene passes twice over its list of zones: the first pass checks the list, the
second one assigns the zones of the scene.  The indices and levels in the list are integers of 64
bits, and are kept in 8; two indices are compared before the second of them is cut down to that.

## Main definitions

* `zoneListPass` : `VerifySceneZoneList`, with its assignments one after the other.
* `ZoneListAccepted` : what the first pass accepts.
* `SetsListed` : the scene has the listed zones, and these exist and are distinct.
* `ChecksThenSets` : the purpose of the two passes.
* `NoNegative` : the condition on the lists.

## Main results

* `verifySceneZoneList_eq` : the pass has the outcome of the function in one step.
* `zoneListPass_accepts_iff` : the lists that the first pass accepts.
* `checksThenSets_iff` : the lists for which the passes do what they are for.
-/

namespace Lcm

namespace House

open Scenes SceneControllers
open Services (Error)

/-! ### The function, with its assignments -/

/-- A zone of a scene that has been cleared. -/
def clearedZone : ZoneInScene := ⟨0xff, 0, 50, 0⟩

/-- The assignments for an element of a list, to a zone that has been cleared, and the error. -/
def assignZone (element : JsonT) : ZoneInScene × Option Error :=
  match zoneIdOf element with
  | .error error => (clearedZone, some error)
  | .ok zoneId =>
    let zone := { clearedZone with zoneId := zoneId }
    match levelOf element with
    | .error error => (zone, some error)
    | .ok powerLevel =>
      let zone := { zone with powerLevel := powerLevel }
      match rampRateOf element with
      | .error error => (zone, some error)
      | .ok rampRate =>
        let zone := { zone with rampRate := rampRate }
        match stateOf element with
        | .error error => (zone, some error)
        | .ok state => ({ zone with state := state }, none)

/-- One element of `zoneData` is assigned. -/
def setZone (zoneArrayIndex : ℕ) (zone : ZoneInScene) (p : SceneProperties) : SceneProperties :=
  { p with
    zoneData := p.zoneData.set zoneArrayIndex zone
    fits := by
      rw [List.length_set]
      exact p.fits }

/-- The array is cleared, and `numZonesInScene` is set. -/
def clearZones (zoneArraySize : ℕ) (hsize : zoneArraySize ≤ maxZonesInScene)
    (p : SceneProperties) : SceneProperties :=
  { p with
    zoneData := List.replicate zoneArraySize clearedZone
    fits := by
      rw [List.length_replicate]
      exact hsize }

/-- The last loop: what it leaves of the scene, and the error. -/
def zoneLoop (setFlag : Bool) :
    ℕ → List JsonT → SceneProperties → SceneProperties × Option Error
  | _, [], p => (p, none)
  | zoneArrayIndex, element :: elements, p =>
    let zone := assignZone element
    let p := if setFlag then setZone zoneArrayIndex zone.1 p else p
    match zone.2 with
    | some error => (p, some error)
    | none => zoneLoop setFlag (zoneArrayIndex + 1) elements p

/-- `VerifySceneZoneList`: what it leaves of the scene, and the error response. -/
def zoneListPass (get : Byte → Option ZoneProperties) (setFlag : Bool) (valueObject : JsonT)
    (p : SceneProperties) : SceneProperties × Option Error :=
  let elements := valueObject.elements
  if elements = [] then (p, some ⟨"No elements in 'ZoneList' array.", 1005⟩)
  else if hsize : maxZonesInScene < elements.length then
    (p, some ⟨"Too many zones in the scene.", 1006⟩)
  else if setFlag then
    zoneLoop true 0 elements (clearZones elements.length (Nat.le_of_not_lt hsize) p)
  else
    match checkZones get elements with
    | .error error => (p, some error)
    | .ok () => zoneLoop false 0 elements p

/-! ### The purpose of the passes -/

/-- A zone of the scene is as listed; a level that is not given is 0, a ramp rate 50, and a zone
without a state is off. -/
structure Listed (element : JsonT) (zone : ZoneInScene) : Prop where
  zoneId : ∃ value, element.get "ZID" = some (.integer value) ∧ value.toInt = zone.zoneId.toNat
  powerLevel : element.get "Lvl" = none ∧ zone.powerLevel = 0 ∨
    ∃ value, element.get "Lvl" = some (.integer value) ∧ value.toInt = zone.powerLevel.toNat
  rampRate : element.get "RR" = none ∧ zone.rampRate = 50 ∨
    ∃ value, element.get "RR" = some (.integer value) ∧ value.toInt = zone.rampRate.toNat
  state : element.get "St" = none ∧ zone.state = 0 ∨
    ∃ value, element.get "St" = some value ∧ value.isBoolean = true ∧
      zone.state = if value.isTrue then 1 else 0

/-- **The scene has the listed zones**, in order; they exist, are distinct, and have levels. -/
structure SetsListed (get : Byte → Option ZoneProperties) (elements : List JsonT)
    (p p' : SceneProperties) : Prop where
  listed : List.Forall₂ Listed elements p'.zoneData
  exist : ∀ zone ∈ p'.zoneData, ∃ q, get zone.zoneId = some q ∧ zoneNamed q = true
  distinct : (p'.zoneData.map ZoneInScene.zoneId).Nodup
  zoneId_lt : ∀ zone ∈ p'.zoneData, zone.zoneId.toNat < maxNumberOfZones
  powerLevel_le : ∀ zone ∈ p'.zoneData, zone.powerLevel ≤ maxPowerLevel
  /-- Nothing else of the scene changes. -/
  rest : ∃ zoneData fits, p' = { p with zoneData := zoneData, fits := fits }

/-- **First check, then set**: a check leaves the scene unchanged, and if it reports no error for a
list, setting the same list reports none either and sets what is listed. -/
def ChecksThenSets (get : Byte → Option ZoneProperties) (valueObject : JsonT)
    (p q : SceneProperties) : Prop :=
  (zoneListPass get false valueObject p).1 = p ∧
    ((zoneListPass get false valueObject p).2 = none →
      (zoneListPass get true valueObject q).2 = none ∧
        SetsListed get valueObject.elements q (zoneListPass get true valueObject q).1)

/-! ### The condition -/

/-- The fields of an element have the types and bounds that the last loop checks; the bounds of an
index and of a level are upper bounds only. -/
structure FieldsAccepted (element : JsonT) : Prop where
  zoneId : ∃ value, element.get "ZID" = some (.integer value) ∧ value.toInt < 100
  powerLevel : ∀ field, element.get "Lvl" = some field →
    ∃ value, field = .integer value ∧ value.toInt ≤ 100 ∧ value ≠ 0
  rampRate : ∀ field, element.get "RR" = some field →
    ∃ value, field = .integer value ∧ 0 ≤ value.toInt ∧ value.toInt ≤ 255
  state : ∀ field, element.get "St" = some field → field.isBoolean = true

/-- The low byte of the index is that of a zone that exists. -/
def ZoneExists (get : Byte → Option ZoneProperties) (element : JsonT) : Prop :=
  ∃ value, element.get "ZID" = some (.integer value) ∧
    ∃ q, get (value.setWidth 8) = some q ∧ zoneNamed q = true

/-- A later index is not the low byte of an earlier one. -/
def NotRepeated (element later : JsonT) : Prop :=
  ∀ value value', element.get "ZID" = some (.integer value) →
    later.get "ZID" = some (.integer value') →
      ((value.setWidth 8 : Byte).setWidth 64 : BitVec 64) ≠ value'

/-- **What the first pass accepts.** -/
structure ZoneListAccepted (get : Byte → Option ZoneProperties) (elements : List JsonT) :
    Prop where
  ne_nil : elements ≠ []
  length_le : elements.length ≤ maxZonesInScene
  fields : ∀ element ∈ elements, FieldsAccepted element
  exist : ∀ element ∈ elements, ZoneExists get element
  notRepeated : elements.Pairwise NotRepeated

/-- An element has no negative index and no negative level. -/
def NonNegative (element : JsonT) : Prop :=
  ∀ value, element.get "ZID" = some (.integer value) ∨ element.get "Lvl" = some (.integer value) →
    0 ≤ value.toInt

/-- **No index and no level is negative.** -/
def NoNegative (elements : List JsonT) : Prop := ∀ element ∈ elements, NonNegative element

/-! ### The pass in one step -/

variable {get : Byte → Option ZoneProperties} {element : JsonT} {elements : List JsonT}
  {zone : ZoneInScene} {p q : SceneProperties} {setFlag : Bool} {valueObject : JsonT}

/-- The outcome of a pass: the scene that it leaves, unless there is an error. -/
def outcomeOf {α : Type*} (result : α × Option Error) : Except Error α :=
  match result.2 with
  | some error => .error error
  | none => .ok result.1

theorem outcomeOf_error {α : Type*} {result : α × Option Error} {error : Error}
    (h : result.2 = some error) : outcomeOf result = .error error := by
  rw [outcomeOf, h]

/-- There is no error exactly if there is an outcome. -/
theorem outcomeOf_ok_iff {α : Type*} {result : α × Option Error} :
    (∃ a, outcomeOf result = .ok a) ↔ result.2 = none := by
  unfold outcomeOf
  cases result.2 with
  | some error => simp
  | none => simp

theorem outcomeOf_assignZone (element : JsonT) :
    outcomeOf (assignZone element) = zoneInScene element := by
  unfold assignZone zoneInScene
  cases zoneIdOf element with
  | error error => rfl
  | ok zoneId =>
    cases levelOf element with
    | error error => rfl
    | ok powerLevel =>
      cases rampRateOf element with
      | error error => rfl
      | ok rampRate => cases stateOf element <;> rfl

/-- The loop of the first pass. -/
theorem zoneLoop_check (zoneArrayIndex : ℕ) (p : SceneProperties) :
    (zoneLoop false zoneArrayIndex elements p).1 = p ∧
      outcomeOf (zoneLoop false zoneArrayIndex elements p) =
        (zoneDataOf elements).map fun _ => p := by
  induction elements generalizing zoneArrayIndex with
  | nil => exact ⟨rfl, rfl⟩
  | cons element elements ih =>
    obtain ⟨hscene, houtcome⟩ := ih (zoneArrayIndex + 1)
    rw [zoneLoop, zoneDataOf, ← outcomeOf_assignZone]
    cases herror : (assignZone element).2 with
    | some error =>
      simp only [outcomeOf, herror]
      exact ⟨rfl, rfl⟩
    | none =>
      simp only [outcomeOf, herror] at houtcome ⊢
      refine ⟨hscene, houtcome.trans ?_⟩
      cases zoneDataOf elements <;> rfl

/-- The zones of a scene that are known. -/
theorem exists_eq_of_zoneData {zoneData : List ZoneInScene} (h : p.zoneData = zoneData) :
    ∃ fits, p = { p with zoneData := zoneData, fits := fits } := by
  subst h
  exact ⟨p.fits, rfl⟩

/-- The loop of the second pass, over the part of the array that has not been assigned yet. -/
theorem zoneLoop_set {before after : List ZoneInScene} (hp : p.zoneData = before ++ after)
    (hlength : after.length = elements.length) :
    match zoneDataOf elements with
    | .error error => (zoneLoop true before.length elements p).2 = some error
    | .ok zoneData => ∃ fits, zoneLoop true before.length elements p =
        ({ p with zoneData := before ++ zoneData.1, fits := fits }, none) := by
  induction elements generalizing before after p with
  | nil =>
    obtain rfl : after = [] := List.eq_nil_of_length_eq_zero hlength
    obtain ⟨fits, hscene⟩ := exists_eq_of_zoneData hp
    exact ⟨fits, congrArg (·, none) hscene⟩
  | cons element elements ih =>
    obtain ⟨zone, after, rfl⟩ : ∃ zone rest, after = zone :: rest :=
      List.exists_cons_of_length_eq_add_one hlength
    have hset : (setZone before.length (assignZone element).1 p).zoneData =
        (before ++ [(assignZone element).1]) ++ after := by
      change p.zoneData.set before.length _ = _
      rw [hp, List.set_append_right _ _ le_rfl, Nat.sub_self, List.set_cons_zero,
        List.append_assoc]
      rfl
    have hrest := ih hset (Nat.succ.inj hlength)
    rw [List.length_append, List.length_singleton] at hrest
    rw [zoneLoop, zoneDataOf, ← outcomeOf_assignZone, if_pos rfl]
    cases herror : (assignZone element).2 with
    | some error =>
      simp only [outcomeOf, herror]
      rfl
    | none =>
      simp only [outcomeOf, herror]
      cases hdata : zoneDataOf elements with
      | error error =>
        rw [hdata] at hrest
        exact hrest
      | ok zoneData =>
        rw [hdata] at hrest
        obtain ⟨fits, hrest⟩ := hrest
        rw [List.append_assoc] at fits
        refine ⟨fits, hrest.trans ?_⟩
        simp only [List.append_assoc]
        rfl

/-- The loop of the second pass, over an array that has been cleared. -/
theorem zoneLoop_clearZones (elements : List JsonT) (hsize : elements.length ≤ maxZonesInScene)
    (p : SceneProperties) :
    match zoneDataOf elements with
    | .error error =>
      (zoneLoop true 0 elements (clearZones elements.length hsize p)).2 = some error
    | .ok zoneData => ∃ fits, zoneLoop true 0 elements (clearZones elements.length hsize p) =
        ({ p with zoneData := zoneData.1, fits := fits }, none) := by
  have hp : (clearZones elements.length hsize p).zoneData =
      [] ++ List.replicate elements.length clearedZone := rfl
  exact zoneLoop_set hp List.length_replicate

/-- **The pass has the outcome** of the function in one step. -/
theorem verifySceneZoneList_eq (get : Byte → Option ZoneProperties) (setFlag : Bool)
    (valueObject : JsonT) (p : SceneProperties) :
    verifySceneZoneList get setFlag valueObject p =
      outcomeOf (zoneListPass get setFlag valueObject p) := by
  unfold verifySceneZoneList zoneListPass
  dsimp only
  split
  · rfl
  · split
    · rfl
    · rename_i hsize
      cases setFlag with
      | false =>
        cases checkZones get valueObject.elements with
        | error error => rfl
        | ok _ =>
          refine Eq.trans ?_ (zoneLoop_check 0 p).2.symm
          cases zoneDataOf valueObject.elements <;> rfl
      | true =>
        have hpass := zoneLoop_clearZones valueObject.elements (Nat.le_of_not_lt hsize) p
        cases hdata : zoneDataOf valueObject.elements with
        | error error =>
          rw [hdata] at hpass
          exact (outcomeOf_error hpass).symm
        | ok zoneData =>
          rw [hdata] at hpass
          obtain ⟨fits, hpass⟩ := hpass
          exact (congrArg outcomeOf hpass).symm

/-- **A check leaves the scene unchanged.** -/
theorem zoneListPass_check (get : Byte → Option ZoneProperties) (valueObject : JsonT)
    (p : SceneProperties) : (zoneListPass get false valueObject p).1 = p := by
  unfold zoneListPass
  dsimp only
  split
  · rfl
  · split
    · rfl
    · rw [if_neg Bool.false_ne_true]
      split
      · rfl
      · exact (zoneLoop_check 0 p).1

/-! ### What the first pass accepts -/

theorem zoneIdOf_ok_iff {zoneId : Byte} : zoneIdOf element = .ok zoneId ↔
    ∃ value, element.get "ZID" = some (.integer value) ∧ value.toInt < 100 ∧
      zoneId = value.setWidth 8 := by
  unfold zoneIdOf
  split
  · rename_i value hget
    rw [hget]
    by_cases hlarge : 100 ≤ value.toInt
    · simp [hlarge, not_lt.2 hlarge]
    · simp [hlarge, not_le.1 hlarge, eq_comm]
  · rename_i hother
    simp only [reduceCtorEq, false_iff]
    rintro ⟨value, hget, -⟩
    exact hother value hget

/-- A field that may be missing, and is refused if it is not an integer in its range. -/
theorem integerField_ok_iff {field : Option JsonT} {missing result : Byte}
    {refused : BitVec 64 → Prop} [DecidablePred refused] {range type : Error} :
    (match field with
      | none => .ok missing
      | some (.integer value) =>
        if refused value then .error range else .ok (value.setWidth 8)
      | some _ => .error type : Except Error Byte) = .ok result ↔
      field = none ∧ result = missing ∨
        ∃ value, field = some (.integer value) ∧ ¬ refused value ∧ result = value.setWidth 8 := by
  constructor
  · intro h
    split at h
    · cases h
      exact .inl ⟨rfl, rfl⟩
    · rename_i value
      split at h
      · cases h
      · rename_i haccepted
        cases h
        exact .inr ⟨value, rfl, haccepted, rfl⟩
    · cases h
  · rintro (⟨rfl, rfl⟩ | ⟨value, rfl, haccepted, rfl⟩)
    · rfl
    · exact if_neg haccepted

theorem levelOf_ok_iff {powerLevel : Byte} : levelOf element = .ok powerLevel ↔
    element.get "Lvl" = none ∧ powerLevel = 0 ∨
      ∃ value, element.get "Lvl" = some (.integer value) ∧ ¬(100 < value.toInt ∨ value = 0) ∧
        powerLevel = value.setWidth 8 :=
  integerField_ok_iff

theorem rampRateOf_ok_iff {rampRate : Byte} : rampRateOf element = .ok rampRate ↔
    element.get "RR" = none ∧ rampRate = 50 ∨
      ∃ value, element.get "RR" = some (.integer value) ∧
        ¬(255 < value.toInt ∨ value.toInt < 0) ∧ rampRate = value.setWidth 8 :=
  integerField_ok_iff

theorem stateOf_ok_iff {state : Byte} : stateOf element = .ok state ↔
    element.get "St" = none ∧ state = 0 ∨
      ∃ value, element.get "St" = some value ∧ value.isBoolean = true ∧
        state = if value.isTrue then 1 else 0 := by
  unfold stateOf
  cases element.get "St" with
  | none =>
    constructor
    · intro h
      cases h
      exact .inl ⟨rfl, rfl⟩
    · rintro (⟨-, rfl⟩ | ⟨value, hget, -⟩)
      · rfl
      · cases hget
  | some value =>
    constructor
    · intro h
      obtain ⟨hboolean, h⟩ | ⟨-, h⟩ := ite_eq_iff.1 h
      · cases h
        exact .inr ⟨value, rfl, hboolean, rfl⟩
      · cases h
    · rintro (⟨hget, -⟩ | ⟨value, hget, hboolean, rfl⟩)
      · cases hget
      · cases hget
        exact if_pos hboolean

theorem zoneInScene_ok_iff : zoneInScene element = .ok zone ↔
    zoneIdOf element = .ok zone.zoneId ∧ levelOf element = .ok zone.powerLevel ∧
      rampRateOf element = .ok zone.rampRate ∧ stateOf element = .ok zone.state := by
  constructor
  · intro h
    obtain ⟨zoneId, hzoneId, h⟩ := bind_eq_ok.1 h
    obtain ⟨powerLevel, hlevel, h⟩ := bind_eq_ok.1 h
    obtain ⟨rampRate, hrampRate, h⟩ := bind_eq_ok.1 h
    obtain ⟨state, hstate, h⟩ := bind_eq_ok.1 h
    cases h
    exact ⟨hzoneId, hlevel, hrampRate, hstate⟩
  · rintro ⟨hzoneId, hlevel, hrampRate, hstate⟩
    exact bind_eq_ok.2 ⟨_, hzoneId, bind_eq_ok.2 ⟨_, hlevel, bind_eq_ok.2 ⟨_, hrampRate,
      bind_eq_ok.2 ⟨_, hstate, rfl⟩⟩⟩⟩

/-- **The fields of an element are accepted** exactly if it has an outcome. -/
theorem fieldsAccepted_iff : (∃ zone, zoneInScene element = .ok zone) ↔ FieldsAccepted element := by
  constructor
  · rintro ⟨zone, h⟩
    obtain ⟨hzoneId, hlevel, hrampRate, hstate⟩ := zoneInScene_ok_iff.1 h
    obtain ⟨value, hget, hlt, -⟩ := zoneIdOf_ok_iff.1 hzoneId
    refine ⟨⟨value, hget, hlt⟩, fun field hfield => ?_, fun field hfield => ?_,
      fun field hfield => ?_⟩
    · obtain ⟨hnone, -⟩ | ⟨level, hsome, haccepted, -⟩ := levelOf_ok_iff.1 hlevel
      · rw [hfield] at hnone
        cases hnone
      · rw [hfield] at hsome
        rw [not_or, not_lt] at haccepted
        exact ⟨level, Option.some.inj hsome, haccepted.1, haccepted.2⟩
    · obtain ⟨hnone, -⟩ | ⟨rate, hsome, haccepted, -⟩ := rampRateOf_ok_iff.1 hrampRate
      · rw [hfield] at hnone
        cases hnone
      · rw [hfield] at hsome
        rw [not_or, not_lt, not_lt] at haccepted
        exact ⟨rate, Option.some.inj hsome, haccepted.2, haccepted.1⟩
    · obtain ⟨hnone, -⟩ | ⟨state, hsome, hboolean, -⟩ := stateOf_ok_iff.1 hstate
      · rw [hfield] at hnone
        cases hnone
      · rw [hfield] at hsome
        exact Option.some.inj hsome ▸ hboolean
  · rintro ⟨⟨value, hget, hlt⟩, hlevel, hrampRate, hstate⟩
    obtain ⟨powerLevel, hpowerLevel⟩ : ∃ powerLevel, levelOf element = .ok powerLevel := by
      cases hfield : element.get "Lvl" with
      | none => exact ⟨0, levelOf_ok_iff.2 (.inl ⟨hfield, rfl⟩)⟩
      | some field =>
        obtain ⟨level, rfl, hle, hne⟩ := hlevel field hfield
        refine ⟨_, levelOf_ok_iff.2 (.inr ⟨level, hfield, ?_, rfl⟩)⟩
        rw [not_or, not_lt]
        exact ⟨hle, hne⟩
    obtain ⟨rampRate, hrampRate⟩ : ∃ rampRate, rampRateOf element = .ok rampRate := by
      cases hfield : element.get "RR" with
      | none => exact ⟨50, rampRateOf_ok_iff.2 (.inl ⟨hfield, rfl⟩)⟩
      | some field =>
        obtain ⟨rate, rfl, hnonneg, hle⟩ := hrampRate field hfield
        refine ⟨_, rampRateOf_ok_iff.2 (.inr ⟨rate, hfield, ?_, rfl⟩)⟩
        rw [not_or, not_lt, not_lt]
        exact ⟨hle, hnonneg⟩
    obtain ⟨state, hstate⟩ : ∃ state, stateOf element = .ok state := by
      cases hfield : element.get "St" with
      | none => exact ⟨0, stateOf_ok_iff.2 (.inl ⟨hfield, rfl⟩)⟩
      | some field => exact ⟨_, stateOf_ok_iff.2 (.inr ⟨field, hfield, hstate field hfield, rfl⟩)⟩
    exact ⟨⟨value.setWidth 8, powerLevel, rampRate, state⟩, zoneInScene_ok_iff.2
      ⟨zoneIdOf_ok_iff.2 ⟨value, hget, hlt, rfl⟩, hpowerLevel, hrampRate, hstate⟩⟩

theorem zoneDataOf_ok_iff :
    (∃ zoneData, zoneDataOf elements = .ok zoneData) ↔
      ∀ element ∈ elements, FieldsAccepted element := by
  induction elements with
  | nil => exact ⟨fun _ _ h => absurd h List.not_mem_nil, fun _ => ⟨⟨[], rfl⟩, rfl⟩⟩
  | cons element elements ih =>
    rw [List.forall_mem_cons, ← ih, ← fieldsAccepted_iff]
    constructor
    · rintro ⟨zoneData, h⟩
      obtain ⟨zone, hzone, h⟩ := bind_eq_ok.1 h
      obtain ⟨rest, hrest, -⟩ := bind_eq_ok.1 h
      exact ⟨⟨zone, hzone⟩, rest, hrest⟩
    · rintro ⟨⟨zone, hzone⟩, rest, hrest⟩
      exact ⟨_, bind_eq_ok.2 ⟨zone, hzone, bind_eq_ok.2 ⟨rest, hrest, rfl⟩⟩⟩

theorem checkDuplicate_ok_iff {zoneId : Byte} {later : JsonT} :
    (∃ u, checkDuplicate zoneId later = .ok u) ↔
      ∃ value, later.get "ZID" = some (.integer value) ∧
        (zoneId.setWidth 64 : BitVec 64) ≠ value := by
  unfold checkDuplicate
  constructor
  · rintro ⟨_, h⟩
    split at h
    · rename_i value hget
      obtain ⟨-, h⟩ | ⟨hne, -⟩ := ite_eq_iff.1 h
      · cases h
      · exact ⟨value, hget, hne⟩
    · cases h
  · rintro ⟨value, hget, hne⟩
    rw [hget]
    exact ⟨(), if_neg hne⟩

/-- **The first loop** accepts zones that exist and are not repeated. -/
theorem checkZones_ok_iff :
    checkZones get elements = .ok () ↔
      (∀ element ∈ elements, ZoneExists get element) ∧ elements.Pairwise NotRepeated := by
  induction elements with
  | nil => exact ⟨fun _ => ⟨fun _ h => absurd h List.not_mem_nil, .nil⟩, fun _ => rfl⟩
  | cons element elements ih =>
    rw [List.forall_mem_cons, List.pairwise_cons]
    constructor
    · intro h
      unfold checkZones at h
      split at h
      · rename_i value hvalue
        dsimp only at h
        split at h
        · cases h
        · rename_i q hq
          obtain ⟨-, h⟩ | ⟨hnamed, h⟩ := ite_eq_iff.1 h
          · cases h
          · obtain ⟨us, hus, h⟩ := bind_eq_ok.1 h
            obtain ⟨hexist, hpairwise⟩ := ih.1 h
            rw [Bool.not_eq_true, Bool.not_eq_false'] at hnamed
            refine ⟨⟨⟨value, hvalue, q, hq, hnamed⟩, hexist⟩, fun later hlater => ?_, hpairwise⟩
            obtain ⟨value', hvalue', hne⟩ :=
              checkDuplicate_ok_iff.1 (mapM_ok_iff.1 ⟨us, hus⟩ later hlater)
            intro first second hfirst hsecond
            rw [hvalue] at hfirst
            rw [hvalue'] at hsecond
            cases hfirst
            cases hsecond
            exact hne
      · cases h
    · rintro ⟨⟨⟨value, hvalue, q, hq, hnamed⟩, hexist⟩, hnot, hpairwise⟩
      obtain ⟨us, hus⟩ := (mapM_ok_iff (f := checkDuplicate (value.setWidth 8)) (l := elements)).2
        fun later hlater => by
          obtain ⟨value', hvalue', -⟩ := hexist later hlater
          exact checkDuplicate_ok_iff.2
            ⟨value', hvalue', hnot later hlater value value' hvalue hvalue'⟩
      rw [checkZones, hvalue]
      dsimp only
      rw [hq]
      dsimp only
      rw [hnamed, if_neg (by decide)]
      exact bind_eq_ok.2 ⟨us, hus, ih.2 ⟨hexist, hpairwise⟩⟩

/-- **What the first pass accepts.** -/
theorem zoneListPass_accepts_iff (p : SceneProperties) :
    (zoneListPass get false valueObject p).2 = none ↔
      ZoneListAccepted get valueObject.elements := by
  have hpass : (zoneListPass get false valueObject p).2 = none ↔
      valueObject.elements ≠ [] ∧ valueObject.elements.length ≤ maxZonesInScene ∧
        checkZones get valueObject.elements = .ok () ∧
          ∃ zoneData, zoneDataOf valueObject.elements = .ok zoneData := by
    unfold zoneListPass
    dsimp only
    split
    · rename_i hnil
      simp [hnil]
    · rename_i hnil
      split
      · rename_i hsize
        simp [hnil, not_le.2 hsize]
      · rename_i hsize
        rw [if_neg Bool.false_ne_true, and_iff_right hnil, and_iff_right (not_lt.1 hsize)]
        cases checkZones get valueObject.elements with
        | error error => simp
        | ok _ =>
          rw [and_iff_right rfl, ← outcomeOf_ok_iff, (zoneLoop_check 0 p).2]
          cases zoneDataOf valueObject.elements with
          | error error => simp [Except.map]
          | ok zoneData => simp [Except.map]
  rw [hpass, checkZones_ok_iff, zoneDataOf_ok_iff]
  constructor
  · rintro ⟨hnil, hlength, ⟨hexist, hpairwise⟩, hfields⟩
    exact ⟨hnil, hlength, hfields, hexist, hpairwise⟩
  · rintro ⟨hnil, hlength, hfields, hexist, hpairwise⟩
    exact ⟨hnil, hlength, ⟨hexist, hpairwise⟩, hfields⟩

/-! ### What the second pass sets -/

/-- The low byte of an integer up to 255 is the integer, unless it is negative. -/
theorem toInt_eq_low_iff {value : BitVec 64} (h : value.toInt ≤ 255) :
    value.toInt = (value.setWidth 8 : Byte).toNat ↔ 0 ≤ value.toInt := by
  have hsize := value.isLt
  rw [BitVec.toNat_setWidth]
  constructor
  · intro heq
    rw [heq]
    exact Int.natCast_nonneg _
  · intro hnonneg
    rw [BitVec.toInt_eq_toNat_cond] at h hnonneg ⊢
    split at hnonneg <;> omega

/-- **A zone is as listed** exactly if its index and its level are not negative. -/
theorem listed_iff (h : zoneInScene element = .ok zone) :
    Listed element zone ↔ NonNegative element := by
  obtain ⟨hzoneId, hlevel, hrampRate, hstate⟩ := zoneInScene_ok_iff.1 h
  obtain ⟨value, hvalue, hlt, hid⟩ := zoneIdOf_ok_iff.1 hzoneId
  rw [levelOf_ok_iff] at hlevel
  constructor
  · rintro ⟨⟨listedId, hlistedId, hsame⟩, hlistedLevel, -, -⟩ other (hother | hother)
    · rw [hlistedId] at hother
      cases hother
      omega
    · obtain ⟨hnone, -⟩ | ⟨level, hsome, hsame⟩ := hlistedLevel
      · rw [hnone] at hother
        cases hother
      · rw [hsome] at hother
        cases hother
        omega
  · intro hnonneg
    refine ⟨⟨value, hvalue, ?_⟩, ?_, ?_, stateOf_ok_iff.1 hstate⟩
    · rw [hid]
      exact (toInt_eq_low_iff (by omega)).2 (hnonneg value (.inl hvalue))
    · refine hlevel.imp_right ?_
      rintro ⟨level, hsome, haccepted, heq⟩
      refine ⟨level, hsome, ?_⟩
      rw [heq]
      exact (toInt_eq_low_iff (by omega)).2 (hnonneg level (.inr hsome))
    · refine (rampRateOf_ok_iff.1 hrampRate).imp_right ?_
      rintro ⟨rate, hsome, haccepted, heq⟩
      refine ⟨rate, hsome, ?_⟩
      rw [heq]
      exact (toInt_eq_low_iff (by omega)).2 (by omega)

/-- Each element gives one zone. -/
theorem forall₂_of_zoneDataOf
    {zoneData : { zoneData : List ZoneInScene // zoneData.length = elements.length }}
    (h : zoneDataOf elements = .ok zoneData) :
    List.Forall₂ (fun element zone => zoneInScene element = .ok zone) elements zoneData.1 := by
  induction elements with
  | nil =>
    cases h
    exact .nil
  | cons element elements ih =>
    obtain ⟨zone, hzone, h⟩ := bind_eq_ok.1 h
    obtain ⟨rest, hrest, h⟩ := bind_eq_ok.1 h
    cases h
    exact .cons hzone (ih hrest)

section Zones

variable {zoneData : List ZoneInScene}

theorem forall₂_listed_iff
    (h : List.Forall₂ (fun element zone => zoneInScene element = .ok zone) elements zoneData) :
    List.Forall₂ Listed elements zoneData ↔ NoNegative elements := by
  induction h with
  | nil => exact iff_of_true .nil fun _ h => absurd h List.not_mem_nil
  | cons hzone _ ih =>
    rw [List.forall₂_cons, listed_iff hzone, ih]
    exact List.forall_mem_cons.symm

theorem exists_element_of_mem
    (h : List.Forall₂ (fun element zone => zoneInScene element = .ok zone) elements zoneData)
    (hzone : zone ∈ zoneData) : ∃ element ∈ elements, zoneInScene element = .ok zone := by
  induction h with
  | nil => exact absurd hzone List.not_mem_nil
  | cons hfirst _ ih =>
    obtain rfl | hzone := List.mem_cons.1 hzone
    · exact ⟨_, List.mem_cons_self, hfirst⟩
    · obtain ⟨element, hmem, h⟩ := ih hzone
      exact ⟨element, List.mem_cons_of_mem _ hmem, h⟩

/-- **Zones whose indices are not repeated are distinct**, if no index is negative. -/
theorem nodup_of_notRepeated
    (h : List.Forall₂ (fun element zone => zoneInScene element = .ok zone) elements zoneData)
    (hpairwise : elements.Pairwise NotRepeated) (hnonneg : NoNegative elements) :
    (zoneData.map ZoneInScene.zoneId).Nodup := by
  induction h with
  | nil => exact .nil
  | cons hfirst hrest ih =>
    rw [List.pairwise_cons] at hpairwise
    obtain ⟨hnot, hpairwise⟩ := hpairwise
    obtain ⟨-, hnonneg⟩ := List.forall_mem_cons.1 hnonneg
    rw [List.map_cons, List.nodup_cons]
    refine ⟨fun hmem => ?_, ih hpairwise hnonneg⟩
    -- a later zone with this index would be listed with the low byte of the first one
    obtain ⟨later, hlater, hsame⟩ := List.mem_map.1 hmem
    obtain ⟨element, hmem, hzone⟩ := exists_element_of_mem hrest hlater
    obtain ⟨value, hvalue, -, hid⟩ := zoneIdOf_ok_iff.1 (zoneInScene_ok_iff.1 hfirst).1
    obtain ⟨⟨value', hvalue', hlow⟩, -, -, -⟩ := (listed_iff hzone).2 (hnonneg element hmem)
    refine hnot element hmem value value' hvalue hvalue' ?_
    rw [← hid, ← hsame]
    refine BitVec.eq_of_toInt_eq ?_
    rw [hlow, BitVec.toInt_eq_toNat_cond, BitVec.toNat_setWidth]
    have hbyte := later.zoneId.isLt
    split <;> omega

/-- **The zones that are set** are as listed exactly if nothing is negative, and then they exist and
are distinct. -/
theorem setsListed_iff (haccepted : ZoneListAccepted get elements)
    (h : List.Forall₂ (fun element zone => zoneInScene element = .ok zone) elements zoneData)
    (fits : zoneData.length ≤ maxZonesInScene) :
    SetsListed get elements q { q with zoneData := zoneData, fits := fits } ↔
      NoNegative elements := by
  constructor
  · intro hlisted
    exact (forall₂_listed_iff h).1 hlisted.listed
  · intro hnonneg
    refine ⟨(forall₂_listed_iff h).2 hnonneg, fun zone hzone => ?_,
      nodup_of_notRepeated h haccepted.notRepeated hnonneg, fun zone hzone => ?_,
      fun zone hzone => ?_, zoneData, fits, rfl⟩
    all_goals
      obtain ⟨element, hmem, hzone⟩ := exists_element_of_mem h hzone
      obtain ⟨hzoneId, hlevel, -, -⟩ := zoneInScene_ok_iff.1 hzone
      obtain ⟨value, hvalue, hlt, hid⟩ := zoneIdOf_ok_iff.1 hzoneId
    · obtain ⟨value', hvalue', hexists⟩ := haccepted.exist element hmem
      rw [hvalue] at hvalue'
      cases hvalue'
      rw [hid]
      exact hexists
    · have hlow := (toInt_eq_low_iff (by omega)).2 (hnonneg element hmem value (.inl hvalue))
      rw [← hid] at hlow
      show _ < 100
      omega
    · obtain ⟨-, hzero⟩ | ⟨level, hsome, haccepted, heq⟩ := levelOf_ok_iff.1 hlevel
      · rw [hzero]
        decide
      · have hlow := (toInt_eq_low_iff (by omega)).2 (hnonneg element hmem level (.inr hsome))
        rw [← heq] at hlow
        rw [BitVec.le_def]
        show _ ≤ 100
        omega

end Zones

/-- The second pass, for a list whose fields are accepted. -/
theorem zoneListPass_set (haccepted : ZoneListAccepted get valueObject.elements)
    (q : SceneProperties) : ∃ zoneData fits,
      zoneListPass get true valueObject q =
        ({ q with zoneData := zoneData, fits := fits }, none) ∧
      List.Forall₂ (fun element zone => zoneInScene element = .ok zone) valueObject.elements
        zoneData := by
  obtain ⟨zoneData, hdata⟩ := zoneDataOf_ok_iff.2 haccepted.fields
  have hloop := zoneLoop_clearZones valueObject.elements haccepted.length_le q
  rw [hdata] at hloop
  obtain ⟨fits, hloop⟩ := hloop
  refine ⟨zoneData.1, fits, ?_, forall₂_of_zoneDataOf hdata⟩
  unfold zoneListPass
  dsimp only
  rw [if_neg haccepted.ne_nil, dif_neg (Nat.not_lt.2 haccepted.length_le), if_pos rfl]
  exact hloop

/-- **The lists for which the passes do what they are for** are those that are refused, and those
without a negative index or level. -/
theorem checksThenSets_iff (get : Byte → Option ZoneProperties) (valueObject : JsonT)
    (p q : SceneProperties) : ChecksThenSets get valueObject p q ↔
      (ZoneListAccepted get valueObject.elements → NoNegative valueObject.elements) := by
  unfold ChecksThenSets
  rw [zoneListPass_check, and_iff_right rfl, zoneListPass_accepts_iff]
  refine imp_congr_right fun haccepted => ?_
  obtain ⟨zoneData, fits, hset, hzones⟩ := zoneListPass_set haccepted q
  rw [hset, and_iff_right rfl]
  exact setsListed_iff haccepted hzones fits

/-- A house with the zone 0. -/
def oneZone : State :=
  State.initial.setZoneProperties 0 (newZone 0 1 5 1 100 dimmerType (CString.empty eliotDeviceIdSize_pos))

/-- The zones 0 and -256. -/
def twiceListed : JsonT :=
  .array [.object [("ZID", .integer 0)], .object [("ZID", .integer (-256))]]

/-- **The zones 0 and -256** pass the check, and the scene then has the zone 0 twice. -/
theorem not_checksThenSets : ¬ ∀ get valueObject p q, ChecksThenSets get valueObject p q := by
  intro h
  obtain ⟨-, hset⟩ := h oneZone.getZoneProperties twiceListed zeroScene zeroScene
  have hcheck : (zoneListPass oneZone.getZoneProperties false twiceListed zeroScene).2 = none := by
    decide +kernel
  have hzones :
      (zoneListPass oneZone.getZoneProperties true twiceListed zeroScene).1.zoneData.map
        ZoneInScene.zoneId = [0, 0] := by
    decide +kernel
  have hdistinct := (hset hcheck).2.distinct
  rw [hzones] at hdistinct
  exact absurd hdistinct (by decide)

end House

end Lcm
