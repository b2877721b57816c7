import Lcm.House.ButtonOrder
import Mathlib.Data.BitVec
import Mathlib.Order.Fin.Basic

/-!
# Setting a scene controller

`HandleSetSceneControllerProperties` with the commands that it queues for the scene controller, and
what its two passes make of the properties in a request.

## Main definitions

* `setSceneControllerOutcome` : the state, the error response and the commands.
* `propertyAccepts`, `edited` : what the first pass accepts, and what the second one makes of it.
* `clashing` : a button is refused in the second pass.

## Main results

* `setSceneControllerOutcome_eq` : the state and the response are those of the request without
  commands.
* `checkPass`, `settingPass_eq` : the two passes.
-/

namespace Lcm

namespace House

open Scenes SceneControllers
open Services (Error)

/-! ### The request, with its commands -/

/-- `RFM100_TRANSMIT_TASK_MESSAGE`, with a command for a scene controller. -/
inductive SceneControllerCommand
  /-- `SCENE_CTL_SETTING` -/
  | settings (groupId : Word) (buildingId houseId value : Byte)
  /-- `ASSIGN_SCENE` -/
  | assignScene (groupId : Word) (buildingId houseId sceneId : Byte)
      (buttonIndex : Fin maxScenesInSceneController) (toggled toggleable avgLevel : Byte)
  deriving DecidableEq

/-- `CalculateAvgPowerLevelOfScene`, of the levels in the scene. -/
def calculateAvgPowerLevelOfScene (get : Byte → Option SceneProperties) (sceneId : Byte) : Byte :=
  match get sceneId with
  | none => 0
  | some sceneProperties =>
    let on := sceneProperties.zoneData.filter (·.state ≠ 0)
    let avgPowerSum : Word := (on.map fun zone => zone.powerLevel.setWidth 16).sum
    let avgPowerCtr : Byte := BitVec.ofNat 8 on.length
    if 0 < avgPowerCtr then (avgPowerSum / avgPowerCtr.setWidth 16).setWidth 8 else 0

/-- A property changes the night mode. -/
def nightModeChanges (p : SceneControllerProperties) (property : String × JsonT) : Bool :=
  property.1 = "NightMode" && flagOf property.2 ≠ p.nightMode

/-- `SendSceneSettingsCommandToTransmitTask` -/
def settingsCommand (p : SceneControllerProperties) (property : String × JsonT) :
    SceneControllerCommand :=
  .settings p.groupId p.buildingId p.houseId (flagOf property.2)

/-- The second pass: its outcome, and the commands that are queued until it ends. -/
def settingPass (get : Byte → Option SceneProperties) (settingsSent : Bool)
    (edit : SceneControllerEdit) :
    List (String × JsonT) → Except Error SceneControllerEdit × List SceneControllerCommand
  | [] => (.ok edit, [])
  | property :: members =>
    match handleIndividualSceneControllerProperty get true settingsSent edit property with
    | .error error => (.error error, [])
    | .ok edit' =>
      let pass := settingPass get settingsSent edit' members
      if nightModeChanges edit.properties property && settingsSent then
        (pass.1, settingsCommand edit.properties property :: pass.2)
      else pass

/-- `SendAssignSceneCommandToTransmitTask` -/
def assignCommand (get : Byte → Option SceneProperties) (p : SceneControllerProperties)
    (bankArrayIndex : Fin maxScenesInSceneController) : SceneControllerCommand :=
  let bank := p.bank bankArrayIndex
  .assignScene p.groupId p.buildingId p.houseId bank.sceneId bankArrayIndex bank.toggled
    bank.toggleable (calculateAvgPowerLevelOfScene get bank.sceneId)

/-- The scenes are assigned until one of the commands cannot be queued. -/
def assignCommands (get : Byte → Option SceneProperties) (p : SceneControllerProperties)
    (commands : Commands) : List SceneControllerCommand :=
  ((List.finRange maxScenesInSceneController).takeWhile commands.assign).map (assignCommand get p)

/-- What a request leaves. -/
structure SceneControllerOutcome where
  /-- The state. -/
  st : State
  /-- The error response. -/
  response : Option Error
  /-- The commands that are queued. -/
  queued : List SceneControllerCommand

/-- `HandleSetSceneControllerProperties` -/
def setSceneControllerOutcome (st : State) (root : JsonT) (commands : Commands) :
    SceneControllerOutcome :=
  match sceneControllerOfRequest st root with
  | .error response => ⟨st, response, []⟩
  | .ok (sceneControllerIndex, p) =>
    match root.get "PropertyList" with
    | some (.object members) =>
      match members.foldlM
          (handleIndividualSceneControllerProperty st.getSceneProperties false commands.settings)
          ⟨p, none⟩ with
      | .error error => ⟨st, some error, []⟩
      | .ok edit =>
        match settingPass st.getSceneProperties commands.settings edit members with
        | (.error error, queued) => ⟨st, some error, queued⟩
        | (.ok edit, queued) =>
          { st := st.setSceneControllerProperties sceneControllerIndex edit.properties
            response := if commands.assignAll then edit.response else some transmitError
            queued := queued ++ assignCommands st.getSceneProperties edit.properties commands }
    | _ => ⟨st, some ⟨"Invalid 'PropertyList'.", 2029⟩, []⟩

section Request

variable {get : Byte → Option SceneProperties} {settingsSent : Bool} {edit : SceneControllerEdit}
  {members : List (String × JsonT)} {a : String × JsonT}

theorem settingPass_fst (get : Byte → Option SceneProperties) (settingsSent : Bool)
    (edit : SceneControllerEdit) (members : List (String × JsonT)) :
    (settingPass get settingsSent edit members).1 =
      members.foldlM (handleIndividualSceneControllerProperty get true settingsSent) edit := by
  induction members generalizing edit with
  | nil => rfl
  | cons property members ih =>
    rw [settingPass, List.foldlM_cons]
    cases handleIndividualSceneControllerProperty get true settingsSent edit property with
    | error error => rfl
    | ok edit' =>
      refine Eq.trans ?_ (ih edit')
      dsimp only
      split <;> rfl

/-- **The outcome of a request** is that of the request without its commands. -/
theorem setSceneControllerOutcome_eq (st : State) (root : JsonT) (commands : Commands) :
    ((setSceneControllerOutcome st root commands).st,
      (setSceneControllerOutcome st root commands).response) =
      handleSetSceneControllerProperties st root commands := by
  unfold setSceneControllerOutcome handleSetSceneControllerProperties editSceneController
  cases sceneControllerOfRequest st root with
  | error response => rfl
  | ok request =>
    dsimp only
    cases root.get "PropertyList" with
    | none => rfl
    | some list =>
      cases list with
      | object members =>
        dsimp only
        cases members.foldlM (handleIndividualSceneControllerProperty st.getSceneProperties false
            commands.settings) ⟨request.2, none⟩ with
        | error error => rfl
        | ok edit =>
          have hpass := settingPass_fst st.getSceneProperties commands.settings edit members
          cases hsecond : settingPass st.getSceneProperties commands.settings edit members with
          | mk outcome queued =>
            rw [hsecond] at hpass
            simp only [hsecond, bind, Except.bind]
            rw [← hpass]
            cases outcome <;> rfl
      | _ => rfl

/-! ### The passes -/

/-- The properties of a button, in a value of `Banks`. -/
def buttonProperties (valueObject : JsonT) (bankArrayIndex : Fin maxScenesInSceneController) :
    List (String × JsonT) :=
  (valueObject.elements[bankArrayIndex.val]?).elim [] JsonT.members

/-- The properties of a button, in a request. -/
def buttonsIn (members : List (String × JsonT)) (bankArrayIndex : Fin maxScenesInSceneController) :
    List (String × JsonT) :=
  (members.lookup "Banks").elim [] fun valueObject => buttonProperties valueObject bankArrayIndex

/-- The first pass accepts a property. -/
def propertyAccepts (get : Byte → Option SceneProperties) (property : String × JsonT) : Bool :=
  if property.1 = "Name" then property.2.isString
  else if property.1 = "NightMode" then property.2.isBoolean
  else if property.1 = "Banks" then
    property.2.isArray && decide (property.2.elements.length ≤ maxScenesInSceneController) &&
      (List.finRange maxScenesInSceneController).all fun bankArrayIndex =>
        (buttonProperties property.2 bankArrayIndex).all (bankAccepts get)
  else false

/-- What the properties make of a scene controller. -/
def edited (p : SceneControllerProperties) (members : List (String × JsonT)) :
    SceneControllerProperties :=
  { p with
    SceneControllerNameString :=
      (members.lookup "Name").elim p.SceneControllerNameString fun valueObject =>
        sanitizedName valueObject.chars
    nightMode := (members.lookup "NightMode").elim p.nightMode flagOf
    bank := fun bankArrayIndex =>
      (buttonsIn members bankArrayIndex).foldl bankAfter (p.bank bankArrayIndex) }

/-- What the first pass makes of a scene controller. -/
def checkedProperties (p : SceneControllerProperties) (members : List (String × JsonT)) :
    SceneControllerProperties :=
  { p with
    bank := fun bankArrayIndex =>
      (buttonsIn members bankArrayIndex).foldl bankChecked (p.bank bankArrayIndex) }

/-- One pass over the buttons. -/
theorem foldlM_buttons {step : SceneControllerProperties → Fin maxScenesInSceneController →
      Except Error SceneControllerProperties}
    {refuses : Fin maxScenesInSceneController → SceneControllerBank → Bool}
    {after : Fin maxScenesInSceneController → SceneControllerBank → SceneControllerBank}
    {error : Error}
    (hstep : ∀ p i, step p i =
      if refuses i (p.bank i) then .error error else .ok (setBank p i (after i (p.bank i))))
    {l : List (Fin maxScenesInSceneController)} (hl : l.Nodup) (p : SceneControllerProperties) :
    l.foldlM step p = if l.any fun i => refuses i (p.bank i) then .error error
      else .ok { p with bank := fun i => if i ∈ l then after i (p.bank i) else p.bank i } := by
  induction l generalizing p with
  | nil => simp [pure, Except.pure]
  | cons i l ih =>
    obtain ⟨hi, hl⟩ := List.nodup_cons.1 hl
    rw [List.foldlM_cons, hstep, List.any_cons]
    cases refuses i (p.bank i) with
    | true => rfl
    | false =>
      -- the other buttons are as they were
      have hother (j) (hj : j ∈ l) :
          (setBank p i (after i (p.bank i))).bank j = p.bank j := by
        rw [bank_setBank, Function.update_of_ne fun hji : j = i => hi (hji ▸ hj)]
      have hany : (l.any fun j => refuses j ((setBank p i (after i (p.bank i))).bank j)) =
          l.any fun j => refuses j (p.bank j) := by
        rw [Bool.eq_iff_iff, List.any_eq_true, List.any_eq_true]
        exact exists_congr fun j => and_congr_right fun hj => by rw [hother j hj]
      refine (ih hl _).trans ?_
      rw [hany, Bool.false_or]
      congr 2
      rw [setBank, SceneControllerProperties.mk.injEq]
      refine ⟨rfl, funext fun j => ?_, rfl, rfl, rfl, rfl, rfl, rfl⟩
      by_cases hj : j ∈ l
      · rw [if_pos hj, if_pos (List.mem_cons_of_mem i hj)]
        exact congrArg (after j) (hother j hj)
      · by_cases hji : j = i
        · subst hji
          rw [if_neg hj, if_pos List.mem_cons_self]
          exact Function.update_self ..
        · rw [if_neg hj, if_neg fun h => (List.mem_cons.1 h).elim hji hj]
          exact Function.update_of_ne hji ..

/-- The pass over all buttons. -/
theorem foldlM_finRange {step : SceneControllerProperties → Fin maxScenesInSceneController →
      Except Error SceneControllerProperties}
    (refuses : Fin maxScenesInSceneController → SceneControllerBank → Bool)
    (after : Fin maxScenesInSceneController → SceneControllerBank → SceneControllerBank)
    (error : Error)
    (hstep : ∀ p i, step p i =
      if refuses i (p.bank i) then .error error else .ok (setBank p i (after i (p.bank i))))
    (p : SceneControllerProperties) :
    (List.finRange maxScenesInSceneController).foldlM step p =
      if (List.finRange maxScenesInSceneController).any fun i => refuses i (p.bank i) then
        .error error
      else .ok { p with bank := fun i => after i (p.bank i) } := by
  rw [foldlM_buttons hstep (List.nodup_finRange _)]
  simp only [List.mem_finRange, if_true]

theorem propertyAccepts_banks {valueObject : JsonT} :
    propertyAccepts get ("Banks", valueObject) = true ↔ valueObject.isArray = true ∧
      valueObject.elements.length ≤ maxScenesInSceneController ∧
      ∀ i, (buttonProperties valueObject i).all (bankAccepts get) = true := by
  simp only [propertyAccepts, if_neg (show ¬ "Banks" = "Name" by decide), if_true,
    if_neg (show ¬ "Banks" = "NightMode" by decide), Bool.and_eq_true, decide_eq_true_eq,
    List.all_eq_true, List.mem_finRange, true_implies, and_assoc]

theorem banksProperty_eq {setFlag : Bool} {valueObject : JsonT}
    (harray : valueObject.isArray = true)
    (hsize : valueObject.elements.length ≤ maxScenesInSceneController)
    (edit : SceneControllerEdit) :
    banksProperty get setFlag valueObject edit =
      ((List.finRange maxScenesInSceneController).foldlM (fun p i =>
        (buttonProperties valueObject i).foldlM (handleIndividualBankListProperty get setFlag i) p)
        edit.properties).map fun p => { edit with properties := p } := by
  simp only [banksProperty, buttonProperties, harray, Bool.not_true, Bool.false_eq_true, if_false,
    if_neg (Nat.not_lt.2 hsize)]
  generalize List.foldlM (m := Except Error) _ edit.properties
    (List.finRange maxScenesInSceneController) = outcome
  cases outcome <;> rfl

/-- The check of the buttons. -/
theorem banksProperty_false {valueObject : JsonT}
    (h : propertyAccepts get ("Banks", valueObject) = true) (edit : SceneControllerEdit) :
    banksProperty get false valueObject edit =
      .ok { edit with properties := { edit.properties with
        bank := fun i =>
          (buttonProperties valueObject i).foldl bankChecked (edit.properties.bank i) } } := by
  obtain ⟨harray, hsize, hbuttons⟩ := propertyAccepts_banks.1 h
  rw [banksProperty_eq harray hsize, foldlM_finRange (fun _ _ => false)
    (fun i bank => (buttonProperties valueObject i).foldl bankChecked bank) toggleableError
    fun p i => checkButton (hbuttons i) p]
  simp [Except.map]

/-- The buttons are set. -/
theorem banksProperty_true {valueObject : JsonT}
    (h : propertyAccepts get ("Banks", valueObject) = true) (edit : SceneControllerEdit) :
    banksProperty get true valueObject edit =
      if (List.finRange maxScenesInSceneController).any fun i =>
        clashesIn (edit.properties.bank i) (buttonProperties valueObject i) then
        .error toggleableError
      else .ok { edit with properties := { edit.properties with
        bank := fun i =>
          (buttonProperties valueObject i).foldl bankAfter (edit.properties.bank i) } } := by
  obtain ⟨harray, hsize, hbuttons⟩ := propertyAccepts_banks.1 h
  rw [banksProperty_eq harray hsize,
    foldlM_finRange (fun i bank => clashesIn bank (buttonProperties valueObject i))
    (fun i bank => (buttonProperties valueObject i).foldl bankAfter bank) toggleableError
    fun p i => setButton (hbuttons i) p]
  split <;> rfl

/-! ### Values in a list of properties -/

theorem lookup_cons_ne {key : String} (h : a.1 ≠ key) :
    (a :: members).lookup key = members.lookup key := by
  rw [List.lookup_cons, beq_eq_false_iff_ne.2 h.symm]

theorem lookup_cons_eq {key : String} (h : a.1 = key) :
    (a :: members).lookup key = some a.2 := by
  rw [List.lookup_cons, beq_iff_eq.2 h.symm]

theorem lookup_eq_none {key : String} (h : ∀ a ∈ members, a.1 ≠ key) :
    members.lookup key = none := by
  induction members with
  | nil => rfl
  | cons a members ih =>
    rw [lookup_cons_ne (h a List.mem_cons_self)]
    exact ih fun b hb => h b (List.mem_cons_of_mem a hb)

/-- In an object, a key has one value. -/
theorem lookup_eq_some_iff {key : String} {valueObject : JsonT} (hdistinct : DistinctKeys members) :
    members.lookup key = some valueObject ↔ (key, valueObject) ∈ members := by
  induction members with
  | nil => simp
  | cons a members ih =>
    by_cases ha : a.1 = key
    · rw [lookup_cons_eq ha, Option.some.injEq, List.mem_cons]
      constructor
      · rintro rfl
        exact .inl (ha ▸ rfl)
      · rintro (rfl | hmem)
        · rfl
        · exact absurd ha.symm (hdistinct.head_ne hmem)
    · rw [lookup_cons_ne ha, ih hdistinct.tail, List.mem_cons]
      refine ⟨.inr, fun h => h.resolve_left ?_⟩
      rintro rfl
      exact ha rfl

/-- The values of a list, head and tail. -/
theorem elim_lookup_cons {α : Type*} (hdistinct : DistinctKeys (a :: members)) (key : String)
    (x : α) (f : JsonT → α) : ((a :: members).lookup key).elim x f =
      (members.lookup key).elim (([a].lookup key).elim x f) f := by
  by_cases ha : a.1 = key
  · rw [lookup_cons_eq ha, lookup_cons_eq ha, lookup_eq_none fun b hb => ha ▸ hdistinct.head_ne hb]
    rfl
  · rw [lookup_cons_ne ha, lookup_cons_ne ha]
    rfl

theorem buttonsIn_eq_nil (h : ∀ a ∈ members, a.1 ≠ "Banks") (i : Fin maxScenesInSceneController) :
    buttonsIn members i = [] := by
  rw [buttonsIn, lookup_eq_none h]
  rfl

theorem buttonsIn_cons (hdistinct : DistinctKeys (a :: members))
    (i : Fin maxScenesInSceneController) :
    buttonsIn (a :: members) i = buttonsIn [a] i ++ buttonsIn members i := by
  unfold buttonsIn
  by_cases ha : a.1 = "Banks"
  · rw [lookup_cons_eq ha, lookup_cons_eq ha, lookup_eq_none fun b hb => ha ▸ hdistinct.head_ne hb]
    exact (List.append_nil _).symm
  · rw [lookup_cons_ne ha, lookup_cons_ne ha]
    rfl

/-! ### The passes -/

/-- A button clashes when it is set. -/
def clashing (p : SceneControllerProperties) (members : List (String × JsonT)) : Bool :=
  (List.finRange maxScenesInSceneController).any fun i =>
    clashesIn (p.bank i) (buttonsIn members i)

theorem clashesIn_append (bank : SceneControllerBank) (l l' : List (String × JsonT)) :
    clashesIn bank (l ++ l') = (clashesIn bank l || clashesIn (l.foldl bankAfter bank) l') := by
  induction l generalizing bank with
  | nil => rfl
  | cons a l ih =>
    rw [List.cons_append, clashesIn, clashesIn, ih, Bool.or_assoc, List.foldl_cons]

theorem clashing_cons (hdistinct : DistinctKeys (a :: members)) (p : SceneControllerProperties) :
    clashing p (a :: members) = (clashing p [a] || clashing (edited p [a]) members) := by
  simp only [clashing, buttonsIn_cons hdistinct, clashesIn_append, edited]
  rw [Bool.eq_iff_iff]
  simp only [Bool.or_eq_true, List.any_eq_true, List.mem_finRange, true_and]
  exact exists_or

theorem checkedProperties_cons (hdistinct : DistinctKeys (a :: members))
    (p : SceneControllerProperties) :
    checkedProperties p (a :: members) = checkedProperties (checkedProperties p [a]) members := by
  simp only [checkedProperties, buttonsIn_cons hdistinct, List.foldl_append]

theorem edited_cons (hdistinct : DistinctKeys (a :: members)) (p : SceneControllerProperties) :
    edited p (a :: members) = edited (edited p [a]) members := by
  simp only [edited, buttonsIn_cons hdistinct, elim_lookup_cons hdistinct, List.foldl_append]

/-- A property that is accepted passes the check. -/
theorem handleProperty_false (h : propertyAccepts get a = true) (edit : SceneControllerEdit) :
    handleIndividualSceneControllerProperty get false settingsSent edit a =
      .ok { edit with properties := checkedProperties edit.properties [a] } := by
  obtain ⟨key, valueObject⟩ := a
  rw [handleIndividualSceneControllerProperty]
  dsimp only
  by_cases hname : key = "Name"
  · subst hname
    rw [propertyAccepts, if_pos rfl] at h
    have hbuttons (i) : buttonsIn [("Name", valueObject)] i = [] := rfl
    simp [sceneControllerNameProperty, h, checkedProperties, hbuttons]
  · rw [if_neg hname]
    by_cases hnight : key = "NightMode"
    · subst hnight
      rw [propertyAccepts, if_neg hname, if_pos rfl] at h
      have hbuttons (i) : buttonsIn [("NightMode", valueObject)] i = [] := rfl
      simp [nightModeProperty, h, checkedProperties, hbuttons]
    · rw [if_neg hnight]
      by_cases hbanks : key = "Banks"
      · subst hbanks
        rw [if_pos rfl, banksProperty_false h]
        rfl
      · simp [propertyAccepts, hname, hnight, hbanks] at h

/-- A property that is accepted is set, if it does not clash. -/
theorem handleProperty_true (h : propertyAccepts get a = true) (edit : SceneControllerEdit) :
    handleIndividualSceneControllerProperty get true settingsSent edit a =
      if clashing edit.properties [a] then .error toggleableError
      else .ok
        { properties := edited edit.properties [a]
          response := if nightModeChanges edit.properties a && !settingsSent then some transmitError
            else edit.response } := by
  obtain ⟨key, valueObject⟩ := a
  rw [handleIndividualSceneControllerProperty]
  dsimp only
  by_cases hname : key = "Name"
  · subst hname
    rw [propertyAccepts, if_pos rfl] at h
    have hbuttons (i) : buttonsIn [("Name", valueObject)] i = [] := rfl
    simp [sceneControllerNameProperty, h, edited, hbuttons, clashing, clashesIn, nightModeChanges,
      List.lookup_cons, List.lookup_nil]
  · rw [if_neg hname]
    by_cases hnight : key = "NightMode"
    · subst hnight
      rw [propertyAccepts, if_neg hname, if_pos rfl] at h
      have hbuttons (i) : buttonsIn [("NightMode", valueObject)] i = [] := rfl
      simp [nightModeProperty, h, edited, hbuttons, clashing, clashesIn, nightModeChanges, flagOf,
        List.lookup_cons, List.lookup_nil]
    · rw [if_neg hnight]
      by_cases hbanks : key = "Banks"
      · subst hbanks
        rw [if_pos rfl, banksProperty_true h]
        rfl
      · simp [propertyAccepts, hname, hnight, hbanks] at h

/-- **The first pass over properties that are accepted.** -/
theorem checkPass (h : members.all (propertyAccepts get) = true) (hdistinct : DistinctKeys members)
    (edit : SceneControllerEdit) :
    members.foldlM (handleIndividualSceneControllerProperty get false settingsSent) edit =
      .ok { edit with properties := checkedProperties edit.properties members } := by
  induction members generalizing edit with
  | nil => rfl
  | cons a members ih =>
    rw [List.all_cons, Bool.and_eq_true] at h
    rw [List.foldlM_cons, handleProperty_false h.1, checkedProperties_cons hdistinct]
    exact ih h.2 hdistinct.tail _

/-- A property that is not accepted is an error. -/
theorem handleProperty_error (h : propertyAccepts get a = false) (edit : SceneControllerEdit) :
    ∃ error, handleIndividualSceneControllerProperty get false settingsSent edit a =
      .error error := by
  obtain ⟨key, valueObject⟩ := a
  rw [handleIndividualSceneControllerProperty]
  dsimp only
  by_cases hname : key = "Name"
  · subst hname
    rw [propertyAccepts, if_pos rfl] at h
    simp [sceneControllerNameProperty, h]
  · rw [if_neg hname]
    by_cases hnight : key = "NightMode"
    · subst hnight
      rw [propertyAccepts, if_neg hname, if_pos rfl] at h
      simp [nightModeProperty, h]
    · rw [if_neg hnight]
      by_cases hbanks : key = "Banks"
      · subst hbanks
        rw [if_pos rfl]
        cases harray : valueObject.isArray with
        | false => simp [banksProperty, harray]
        | true =>
          by_cases hsize : valueObject.elements.length ≤ maxScenesInSceneController
          · rw [banksProperty_eq harray hsize]
            rw [propertyAccepts, if_neg hname, if_neg hnight, if_pos rfl, harray,
              decide_eq_true hsize, Bool.true_and, Bool.true_and] at h
            obtain ⟨error, herror⟩ := foldlM_error
              (fun p i hi => checkButton_error (i := i) hi p) h edit.properties
            exact ⟨error, by rw [herror]; rfl⟩
          · simp [banksProperty, harray, Nat.lt_of_not_le hsize]
      · simp [hbanks]

theorem checkPass_error (settingsSent : Bool) (h : members.all (propertyAccepts get) = false)
    (edit : SceneControllerEdit) :
    ∃ error, members.foldlM (handleIndividualSceneControllerProperty get false settingsSent) edit =
      .error error :=
  foldlM_error (fun edit _ ha => handleProperty_error ha edit) h edit

/-- The settings that are sent, if they can be queued. -/
def nightModeCommands (settingsSent : Bool) (p : SceneControllerProperties)
    (members : List (String × JsonT)) : List SceneControllerCommand :=
  if settingsSent then (members.filter (nightModeChanges p)).map (settingsCommand p) else []

theorem mem_nightModeCommands {p : SceneControllerProperties} {command : SceneControllerCommand} :
    command ∈ nightModeCommands settingsSent p members ↔ settingsSent = true ∧
      ∃ a ∈ members, nightModeChanges p a = true ∧ settingsCommand p a = command := by
  unfold nightModeCommands
  cases settingsSent with
  | false => simp
  | true => simp [and_assoc]

theorem nightModeCommands_cons (settingsSent : Bool) (p : SceneControllerProperties)
    (a : String × JsonT) (members : List (String × JsonT)) :
    nightModeCommands settingsSent p (a :: members) =
      if nightModeChanges p a && settingsSent then
        settingsCommand p a :: nightModeCommands settingsSent p members
      else nightModeCommands settingsSent p members := by
  unfold nightModeCommands
  cases settingsSent <;> cases hchanges : nightModeChanges p a <;> simp [hchanges]

/-- The properties that follow change the night mode from what it was. -/
theorem nightModeChanges_edited (hdistinct : DistinctKeys (a :: members))
    (p : SceneControllerProperties) {b : String × JsonT} (hb : b ∈ members) :
    nightModeChanges (edited p [a]) b = nightModeChanges p b := by
  unfold nightModeChanges
  by_cases hnight : b.1 = "NightMode"
  · have ha : a.1 ≠ "NightMode" := fun ha => hdistinct.head_ne hb (hnight.trans ha.symm)
    have hsame : (edited p [a]).nightMode = p.nightMode := by
      rw [edited, lookup_cons_ne ha]
      rfl
    rw [hsame]
  · rw [decide_eq_false hnight]
    rfl

theorem nightModeCommands_edited (hdistinct : DistinctKeys (a :: members))
    (p : SceneControllerProperties) {l : List (String × JsonT)} (hl : ∀ b ∈ l, b ∈ members) :
    nightModeCommands settingsSent (edited p [a]) l = nightModeCommands settingsSent p l := by
  unfold nightModeCommands
  rw [List.filter_congr fun b hb => nightModeChanges_edited hdistinct p (hl b hb)]
  rfl

/-- Only the buttons clash. -/
theorem exists_banks_of_clashing {p : SceneControllerProperties} (h : clashing p members = true) :
    ∃ a ∈ members, a.1 = "Banks" := by
  by_contra hnone
  push Not at hnone
  obtain ⟨i, -, hi⟩ := List.any_eq_true.1 h
  rw [buttonsIn_eq_nil hnone] at hi
  cases hi

/-- **The second pass over properties that are accepted.**  If a button clashes, the settings have
been sent only if they come first. -/
theorem settingPass_eq (h : members.all (propertyAccepts get) = true)
    (hdistinct : DistinctKeys members) (edit : SceneControllerEdit) :
    settingPass get settingsSent edit members =
      if clashing edit.properties members then
        (.error toggleableError, nightModeCommands settingsSent edit.properties
          (members.takeWhile fun a => a.1 ≠ "Banks"))
      else
        (.ok
          { properties := edited edit.properties members
            response :=
              if members.any (nightModeChanges edit.properties) && !settingsSent then
                some transmitError
              else edit.response },
          nightModeCommands settingsSent edit.properties members) := by
  induction members generalizing edit with
  | nil =>
    have hclash : clashing edit.properties [] = false :=
      List.any_eq_false.2 fun _ _ h => Bool.false_ne_true h
    rw [hclash]
    cases settingsSent <;> rfl
  | cons a members ih =>
    rw [List.all_cons, Bool.and_eq_true] at h
    rw [settingPass, handleProperty_true h.1, clashing_cons hdistinct]
    cases hclash : clashing edit.properties [a] with
    | true =>
      obtain ⟨b, hb, hbanks⟩ := exists_banks_of_clashing hclash
      obtain rfl := List.mem_singleton.1 hb
      have hfirst : (b :: members).takeWhile (fun a => a.1 ≠ "Banks") = [] := by simp [hbanks]
      rw [if_pos rfl, Bool.true_or, if_pos rfl, hfirst]
      cases settingsSent <;> rfl
    | false =>
      rw [if_neg Bool.false_ne_true, Bool.false_or]
      dsimp only
      rw [ih h.2 hdistinct.tail]
      dsimp only
      cases hrest : clashing (edited edit.properties [a]) members with
      | true =>
        -- the buttons come later, so this property is before them
        obtain ⟨b, hb, hbanks⟩ := exists_banks_of_clashing hrest
        have ha : a.1 ≠ "Banks" := fun ha => hdistinct.head_ne hb (hbanks.trans ha.symm)
        have hfirst : (a :: members).takeWhile (fun a => a.1 ≠ "Banks") =
            a :: members.takeWhile fun a => a.1 ≠ "Banks" := by simp [ha]
        rw [hfirst, nightModeCommands_cons, nightModeCommands_edited hdistinct _
          fun b hb => (List.takeWhile_sublist _).subset hb]
        cases nightModeChanges edit.properties a <;> cases settingsSent <;> rfl
      | false =>
        have hany : members.any (nightModeChanges (edited edit.properties [a])) =
            members.any (nightModeChanges edit.properties) := by
          rw [Bool.eq_iff_iff, List.any_eq_true, List.any_eq_true]
          exact exists_congr fun b => and_congr_right fun hb => by
            rw [nightModeChanges_edited hdistinct _ hb]
        rw [hany, edited_cons hdistinct, nightModeCommands_cons,
          nightModeCommands_edited hdistinct _ fun b hb => hb, List.any_cons]
        cases nightModeChanges edit.properties a <;> cases settingsSent <;>
          cases members.any (nightModeChanges edit.properties) <;> rfl

end Request

end House

end Lcm
