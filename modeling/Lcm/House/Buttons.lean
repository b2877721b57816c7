import Lcm.House.Edits

/-!
# The scenes of the buttons

Each button of a scene controller has no scene, the master off, or a scene that exists.  Deleting a
scene takes it from all buttons; but a scene also ceases to exist when its name is cleared, and
that no button notices.

## Main definitions

* `ButtonsBound` : the property.
* `unnamedScene` : the scene that loses its name by a request.

## Main results

* `allStates_buttonsBound` : it holds as long as no scene of a button loses its name.
* `not_allStates_buttonsBound` : it does not always hold.
-/

namespace Lcm

namespace House

open Scenes SceneControllers
open Services (Error)

/-- A button has no scene, the master off, or a scene that exists. -/
def Bound (scenes : Table SceneProperties sceneNamed maxNumberOfScenes) (sceneId : Byte) : Prop :=
  sceneId = noScene ∨ sceneId = masterOff ∨ ∃ p, scenes.get sceneId.toNat = some p

/-- All buttons of the scene controllers that exist are bound. -/
def ButtonsBound (st : State) : Prop :=
  st.sceneControllers.All fun _ p => ∀ bankIndex, Bound st.scenes (p.bank bankIndex).sceneId

/-- When a scene ceases to exist, no button has it any more. -/
def TakenFromButtons (st st' : State) : Prop :=
  ∀ sceneIndex p, st.scenes.get sceneIndex = some p → st'.scenes.get sceneIndex = none →
    st'.sceneControllers.All fun _ q => ∀ bankIndex, (q.bank bankIndex).sceneId.toNat ≠ sceneIndex

/-- The scene that loses its name when a request is accepted: the last name in it is empty. -/
def unnamedScene (st : State) (root : JsonT) : Option Byte :=
  match sceneOfRequest st root with
  | .ok (sceneIndex, p) =>
    if (editScene st.getZoneProperties root p).isOk ∧ lastName root = some [] then some sceneIndex
    else none
  | .error _ => none

/-- Some button has a scene. -/
def onSomeButton (st : State) (sceneIndex : Byte) : Bool :=
  st.sceneControllers.any fun p => (buttonOf sceneIndex p).isSome

/-- No scene of a button loses its name. -/
def keepsNames (st : State) : Event → Bool
  | .setSceneProperties root _ =>
    (unnamedScene st root).all fun sceneIndex => !onSomeButton st sceneIndex
  | _ => true

/-! ### Scenes that stay -/

section Bound

variable {st st' : State} {scenes scenes' : Table SceneProperties sceneNamed maxNumberOfScenes}

theorem Bound.of_keys (h : scenes'.keys contentOf = scenes.keys contentOf) {sceneId : Byte}
    (hbound : Bound scenes sceneId) : Bound scenes' sceneId := by
  obtain hnone | hmaster | ⟨p, hp⟩ := hbound
  · exact .inl hnone
  · exact .inr (.inl hmaster)
  · obtain ⟨q, hq, -⟩ := Table.exists_of_keys h.symm hp
    exact .inr (.inr ⟨q, hq⟩)

/-- A scene is stored under a name. -/
theorem Bound.set {sceneId : Byte} (hbound : Bound scenes sceneId) (i : ℕ) {p : SceneProperties}
    (hp : i = sceneId.toNat → sceneNamed p = true) : Bound (scenes.set i p) sceneId := by
  obtain hnone | hmaster | ⟨q, hq⟩ := hbound
  · exact .inl hnone
  · exact .inr (.inl hmaster)
  · refine .inr (.inr ?_)
    by_cases hi : i = sceneId.toNat
    · exact ⟨p, hi ▸ Table.get_set_named (hi ▸ Table.lt_of_get hq) (hp hi)⟩
    · exact ⟨q, by rwa [Table.get_set_ne (Ne.symm hi)]⟩

theorem ButtonsBound.of_calm (h : ButtonsBound st) (hcalm : Calm st st') : ButtonsBound st' := by
  refine Table.All.of_keys hcalm.sceneControllers h fun _ p q hkey hbound bankIndex => ?_
  have hbuttons := congrFun (congrArg (fun k => k.2.2) hkey) bankIndex
  dsimp only [buttonsOf] at hbuttons
  exact hbuttons ▸ (hbound bankIndex).of_keys hcalm.scenes

theorem ButtonsBound.of_zonesOnly (h : ButtonsBound st) (hzones : ZonesOnly st st') :
    ButtonsBound st' := by
  rw [ButtonsBound, hzones.scenes, hzones.sceneControllers]
  exact h

theorem ButtonsBound.setSceneProperties (h : ButtonsBound st) (sceneIndex : Byte)
    {p : SceneProperties}
    (hp : sceneNamed p = false → onSomeButton st sceneIndex = false) :
    ButtonsBound (st.setSceneProperties sceneIndex p) := by
  intro i q hq bankIndex
  refine (h i q hq bankIndex).set _ fun hindex => ?_
  by_contra hname
  -- otherwise the button would have a scene that has no name any more
  have hbutton := Table.any_eq_false.1 (hp (Bool.eq_false_iff.2 hname)) i q hq
  have hnone : buttonOf sceneIndex q = none :=
    Option.isNone_iff_eq_none.1 (Option.isSome_eq_false_iff.1 hbutton)
  have hother := List.find?_eq_none.1 hnone bankIndex (List.mem_finRange bankIndex)
  exact hother (decide_eq_true (BitVec.eq_of_toNat_eq hindex.symm))

/-! ### Requests -/

theorem ButtonsBound.handleCreateScene (h : ButtonsBound st) (root : JsonT)
    (garbage : SceneProperties) (nextTriggerTime : Dword) :
    ButtonsBound (handleCreateScene st root garbage nextTriggerTime).1 := by
  obtain heq | ⟨p, hfree, -, heq⟩ := handleCreateScene_cases st root garbage nextTriggerTime
  · rwa [heq]
  · rw [heq]
    -- the slot is free, so no button has it
    have hnone := Table.get_available hfree
    intro i q hq bankIndex
    obtain hbound | hbound | ⟨p', hp'⟩ := h i q hq bankIndex
    · exact .inl hbound
    · exact .inr (.inl hbound)
    · refine .inr (.inr ⟨p', ?_⟩)
      refine (Table.get_set_ne fun hindex => ?_).trans hp'
      rw [hindex, toNat_getAvailableSceneIndex, hnone] at hp'
      cases hp'

theorem ButtonsBound.handleSetSceneProperties (h : ButtonsBound st) (root : JsonT)
    (nextTriggerTime : Dword)
    (hkeeps : ∀ sceneIndex ∈ unnamedScene st root, onSomeButton st sceneIndex = false) :
    ButtonsBound (handleSetSceneProperties st root nextTriggerTime).1 := by
  obtain heq | ⟨sceneIndex, p, p', hscene, hedit, heq⟩ :=
    handleSetSceneProperties_cases st root nextTriggerTime
  · rwa [heq]
  · rw [heq]
    refine h.setSceneProperties sceneIndex fun hname => hkeeps sceneIndex ?_
    -- the scene had a name, so an empty one has been set
    have hold : sceneNamed p = true := st.scenes.named_of_get _ p (sceneOfRequest_ok hscene)
    have hlast : lastName root = some [] :=
      lastName_of_empty (editScene_cases hedit).1 (of_decide_eq_true hold)
        (by simpa [sceneNamed] using hname)
    rw [unnamedScene, hscene]
    dsimp only
    rw [if_pos ⟨by rw [hedit]; rfl, hlast⟩]
    rfl

theorem ButtonsBound.handleDeleteScene (h : ButtonsBound st) (root : JsonT) :
    ButtonsBound (handleDeleteScene st root).1 := by
  obtain heq | ⟨sceneIndex, p, -, heq⟩ := handleDeleteScene_cases st root
  · rwa [heq]
  · rw [heq]
    intro i q' hq' bankIndex
    obtain ⟨q, hget, rfl⟩ := Option.map_eq_some_iff.1 hq'
    have hq := h i q hget
    dsimp only [removeScene]
    by_cases hbutton : (q.bank bankIndex).sceneId = sceneIndex
    · rw [if_pos hbutton]
      exact .inl rfl
    · rw [if_neg hbutton]
      exact (hq bankIndex).set _ fun hindex =>
        absurd (BitVec.eq_of_toNat_eq hindex).symm hbutton

/-- A button is given no scene, the master off, or a scene that exists. -/
theorem bound_of_handleIndividualBankListProperty {setFlag : Bool}
    {bankArrayIndex : Fin maxScenesInSceneController} {p p' : SceneControllerProperties}
    {property : String × JsonT}
    (hp : ∀ bankIndex, Bound st.scenes (p.bank bankIndex).sceneId)
    (h : handleIndividualBankListProperty st.getSceneProperties setFlag bankArrayIndex p property =
      .ok p') :
    ∀ bankIndex, Bound st.scenes (p'.bank bankIndex).sceneId := by
  have hset (bank : SceneControllerBank) (hbank : Bound st.scenes bank.sceneId) (bankIndex) :
      Bound st.scenes ((setBank p bankArrayIndex bank).bank bankIndex).sceneId := by
    by_cases hindex : bankIndex = bankArrayIndex
    · rw [bank_setBank, hindex, Function.update_self]
      exact hbank
    · rw [bank_setBank, Function.update_of_ne hindex]
      exact hp bankIndex
  unfold handleIndividualBankListProperty at h
  obtain ⟨-, h⟩ | ⟨-, h⟩ := ite_eq_iff.1 h
  · unfold bankSceneProperty at h
    dsimp only at h
    obtain ⟨-, h⟩ | ⟨-, h⟩ := ite_eq_iff.1 h
    · cases h
    obtain ⟨-, h⟩ | ⟨hspecial, h⟩ := ite_eq_iff.1 h
    · split at h
      · cases h
      · rename_i scene hscene
        split_ifs at h
        · cases h
          exact hset _ (.inr (.inr ⟨scene, hscene⟩))
        · cases h
          exact hp
    · obtain ⟨hnone, h⟩ | ⟨hnone, h⟩ := ite_eq_iff.1 h
      · cases h
        exact hset _ (.inl hnone)
      · cases h
        exact hset _ (.inr (.inl (by tauto)))
  obtain ⟨-, h⟩ | ⟨-, h⟩ := ite_eq_iff.1 h
  · unfold toggleableProperty at h
    dsimp only at h
    split_ifs at h <;> cases h
    · exact hset _ (hp bankArrayIndex)
    · exact hset _ (hp bankArrayIndex)
    · exact hp
  obtain ⟨-, h⟩ | ⟨-, h⟩ := ite_eq_iff.1 h
  · unfold toggledProperty at h
    dsimp only at h
    split_ifs at h <;> cases h
    · exact hset _ (hp bankArrayIndex)
    · exact hset _ (hp bankArrayIndex)
    · exact hp
  · cases h

theorem ButtonsBound.setSceneControllerProperties (h : ButtonsBound st)
    (sceneControllerIndex : Byte) {p : SceneControllerProperties}
    (hp : sceneControllerNamed p = true →
      ∀ bankIndex, Bound st.scenes (p.bank bankIndex).sceneId) :
    ButtonsBound (st.setSceneControllerProperties sceneControllerIndex p) :=
  Table.All.set h hp

theorem ButtonsBound.handleSetSceneControllerProperties (h : ButtonsBound st) (root : JsonT)
    (commands : Commands) :
    ButtonsBound (handleSetSceneControllerProperties st root commands).1 := by
  obtain heq | ⟨sceneControllerIndex, p, edit, hcontroller, hedit, heq⟩ :=
    handleSetSceneControllerProperties_cases st root commands
  · rwa [heq]
  · rw [heq]
    refine h.setSceneControllerProperties sceneControllerIndex fun _ => ?_
    have hp : ∀ bankIndex, Bound st.scenes (p.bank bankIndex).sceneId :=
      h _ p (sceneControllerOfRequest_ok hcontroller)
    refine editSceneController_banks
      (I := fun bank => ∀ bankIndex, Bound st.scenes (bank bankIndex).sceneId) ?_ hp hedit
    intro setFlag bankArrayIndex p property p' hp hbank
    exact bound_of_handleIndividualBankListProperty hp hbank

theorem bound_resetScene (bankIndex : Fin maxScenesInSceneController) :
    Bound scenes (resetScene bankIndex) := by
  unfold resetScene
  split
  · exact .inr (.inl rfl)
  · exact .inl rfl

theorem ButtonsBound.handleDeleteSceneController (h : ButtonsBound st) (root : JsonT)
    (commands : Commands) : ButtonsBound (handleDeleteSceneController st root commands).1 := by
  obtain heq | heq | ⟨sceneControllerIndex, p, -, heq⟩ :=
    handleDeleteSceneController_cases st root commands
  · rwa [heq]
  · rw [heq]
    exact h.of_zonesOnly (zonesOnly_clearHouseID st)
  · rw [heq]
    refine ButtonsBound.of_zonesOnly ?_ (zonesOnly_clearHouseID _)
    exact h.setSceneControllerProperties sceneControllerIndex fun _ bankIndex =>
      bound_resetScene bankIndex

theorem ButtonsBound.handleSceneControllerCommandReceived (h : ButtonsBound st)
    (sceneControllerIndex buildingId houseId : Byte) (groupId : Word)
    (garbage : SceneControllerGarbage) :
    ButtonsBound (handleSceneControllerCommandReceived st sceneControllerIndex buildingId houseId
      groupId garbage) := by
  have hadopt : ButtonsBound (st.adoptHouseID houseId) :=
    h.of_zonesOnly ⟨scenes_adoptHouseID st houseId, sceneControllers_adoptHouseID st houseId⟩
  obtain ⟨-, heq⟩ | ⟨-, heq⟩ := handleSceneControllerCommandReceived_cases st
    sceneControllerIndex buildingId houseId groupId garbage
  · rw [heq]
    exact hadopt.setSceneControllerProperties _ fun _ bankIndex => bound_resetScene bankIndex
  · rwa [heq]

/-! ### Runs -/

/-- **The buttons stay bound** by an operation that takes no name from a scene of a button. -/
theorem ButtonsBound.next (h : ButtonsBound st) (e : Event) (hkeeps : keepsNames st e = true) :
    ButtonsBound (next st e) := by
  cases e with
  | createScene root garbage nextTriggerTime =>
    exact h.handleCreateScene root garbage nextTriggerTime
  | setSceneProperties root nextTriggerTime =>
    refine h.handleSetSceneProperties root nextTriggerTime fun sceneIndex hscene => ?_
    have hbutton := (Option.all_eq_true ..).1 hkeeps sceneIndex hscene
    rwa [Bool.not_eq_true'] at hbutton
  | deleteScene root => exact h.handleDeleteScene root
  | setSceneControllerProperties root commands =>
    exact h.handleSetSceneControllerProperties root commands
  | deleteSceneController root commands => exact h.handleDeleteSceneController root commands
  | triggerSceneController root env garbage =>
    obtain hcalm | ⟨_, _, _, heq⟩ :=
      handleTriggerSceneControllerCommand_cases st root env garbage
    · exact h.of_calm hcalm
    · rw [House.next, heq]
      exact h.handleSceneControllerCommandReceived _ _ _ _ _
  | received call env =>
    obtain hcalm | ⟨_, _, _, _, _, hramp⟩ | ⟨_, _, _, heq⟩ := handleCall_cases st env call
    · exact h.of_calm hcalm
    · rw [House.next, hramp]
      exact h.of_zonesOnly (zonesOnly_handleRampReceived ..)
    · rw [House.next, heq]
      exact h.handleSceneControllerCommandReceived _ _ _ _ _
  | reboot addASceneController idString =>
    intro i q hq bankIndex
    obtain hbound | hbound | ⟨p, hp⟩ := h i q hq bankIndex
    · exact .inl hbound
    · exact .inr (.inl hbound)
    · exact .inr (.inr ⟨Scenes.scenes.restarted p, congrArg (Option.map _) hp⟩)
  | clearFlash => exact Table.all_empty
  | setZoneProperties => exact h.of_zonesOnly (next_zonesOnly st rfl)
  | deleteZone => exact h.of_zonesOnly (next_zonesOnly st rfl)
  | triggerRamp => exact h.of_zonesOnly (next_zonesOnly st rfl)
  | devicesInfo => exact h.of_zonesOnly (next_zonesOnly st rfl)
  | qmotionGroups => exact h.of_zonesOnly (next_zonesOnly st rfl)
  | _ => exact h.of_calm (next_calm st rfl)

/-- Bound buttons have lost the scenes that have ceased to exist. -/
theorem ButtonsBound.takenFromButtons (h : ButtonsBound st') : TakenFromButtons st st' := by
  intro sceneIndex p hp hnone i q hq bankIndex hbutton
  have hlt : sceneIndex < 100 := Table.lt_of_get hp
  obtain hbound | hbound | ⟨p', hp'⟩ := h i q hq bankIndex
  · rw [hbound] at hbutton
    exact absurd hlt (hbutton ▸ by decide)
  · rw [hbound] at hbutton
    exact absurd hlt (hbutton ▸ by decide)
  · rw [hbutton, hnone] at hp'
    cases hp'

end Bound

/-- A scene controller is added, its first button gets the first scene, and that is renamed. -/
def renameSceneOfButton (name : String) : List Event :=
  [createScene [("Name", .string "Evening")], .addASceneController .true,
    .received ⟨.handleSceneControllerMasterOff 1 1 1 0 0, trivial⟩ freeCall,
    .setSceneControllerProperties
      (propertiesRequest ("SCID", 0) [("Banks", .array [.object [("SID", .integer 0)]])])
      ⟨true, fun _ => true⟩,
    .setSceneProperties (propertiesRequest ("SID", 0) [("Name", .string name)]) 0]

end House

end Lcm
