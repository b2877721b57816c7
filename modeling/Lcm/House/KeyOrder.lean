import Lcm.House.SettingPass

/-!
# The order of the properties of a scene controller

When an error leaves the scene controllers and the queue alone, and when the order of the properties
does not matter otherwise.

## Main definitions

* `Reordered` : the same request, in another order.
* `AtomicOrOrderFree` : what is claimed of a request.
* `Harmless` : what its properties have to be like.

## Main results

* `atomicOrOrderFree_iff` : a request is harmless exactly if the claim is true of it.
* `not_atomicOrOrderFree_settingsSent` : one that is not.
-/

namespace Lcm

namespace House

open Scenes SceneControllers
open Services (Error)

/-! ### Reordered requests -/

/-- A request; the keys in an object are different ones. -/
structure SceneControllerRequest where
  /-- The request. -/
  root : JsonT
  /-- `PropertyList` is an object. -/
  distinct : DistinctKeys (propertyList root)
  /-- So are the elements of `Banks`. -/
  distinct_banks : ∀ property ∈ propertyList root, ∀ element ∈ property.2.elements,
    DistinctKeys element.members

/-- Two objects with the same properties. -/
inductive SameObject : JsonT → JsonT → Prop
  | refl (element : JsonT) : SameObject element element
  | perm {members members' : List (String × JsonT)} (h : members.Perm members') :
    SameObject (.object members) (.object members')

/-- Two properties with the same value, up to the order of the properties of the buttons. -/
inductive SameProperty : String × JsonT → String × JsonT → Prop
  | refl (a : String × JsonT) : SameProperty a a
  | banks {elements elements' : List JsonT} (h : List.Forall₂ SameObject elements elements') :
    SameProperty ("Banks", .array elements) ("Banks", .array elements')

/-- The same properties in another order. -/
def SameMembers (members members' : List (String × JsonT)) : Prop :=
  ∃ between, members.Perm between ∧ List.Forall₂ SameProperty between members'

/-- The same request, with its properties and those of the buttons in another order. -/
structure Reordered (root root' : JsonT) : Prop where
  /-- The scene controller is the same. -/
  id : root'.get "SCID" = root.get "SCID"
  /-- So are the properties. -/
  list : ∃ members members', root.get "PropertyList" = some (.object members) ∧
    root'.get "PropertyList" = some (.object members') ∧ SameMembers members members'

section Reordered

variable {get : Byte → Option SceneProperties} {members members' : List (String × JsonT)}
  {a a' : String × JsonT}

theorem SameProperty.fst_eq (h : SameProperty a a') : a.1 = a'.1 := by
  cases h <;> rfl

theorem SameProperty.eq_of_ne (h : SameProperty a a') (ha : a.1 ≠ "Banks") : a' = a := by
  cases h with
  | refl => rfl
  | banks h => exact absurd rfl ha

/-- The buttons have the same properties. -/
theorem SameProperty.perm (h : SameProperty a a') (i : Fin maxScenesInSceneController) :
    (buttonProperties a.2 i).Perm (buttonProperties a'.2 i) := by
  cases h with
  | refl => exact List.Perm.refl _
  | @banks elements elements' h =>
    show ((elements[i.val]?).elim [] JsonT.members).Perm ((elements'[i.val]?).elim [] JsonT.members)
    generalize i.val = n
    induction h generalizing n with
    | nil => exact List.Perm.refl _
    | cons hhead _ ih =>
      cases n with
      | zero =>
        cases hhead with
        | refl => exact List.Perm.refl _
        | perm h => exact h
      | succ n => exact ih n

theorem SameProperty.accepts (h : SameProperty a a') :
    propertyAccepts get a' = propertyAccepts get a := by
  cases h with
  | refl => rfl
  | @banks elements elements' h =>
    rw [Bool.eq_iff_iff, propertyAccepts_banks, propertyAccepts_banks]
    refine and_congr Iff.rfl (and_congr ?_ (forall_congr' fun i => ?_))
    · rw [show (JsonT.array elements').elements = elements' from rfl, ← h.length_eq]
      rfl
    · rw [((SameProperty.banks h).perm i).all_eq]

/-- A value is the same in any order. -/
theorem lookup_perm (hdistinct : DistinctKeys members) (h : members.Perm members') (key : String) :
    members'.lookup key = members.lookup key := by
  ext valueObject
  rw [lookup_eq_some_iff hdistinct, lookup_eq_some_iff (hdistinct.of_perm h), h.mem_iff]

theorem lookup_forall₂ (h : List.Forall₂ SameProperty members members') {key : String}
    (hkey : key ≠ "Banks") : members'.lookup key = members.lookup key := by
  induction h with
  | nil => rfl
  | @cons a a' _ _ ha _ ih =>
    by_cases hfst : a.1 = key
    · rw [ha.eq_of_ne (hfst ▸ hkey), lookup_cons_eq hfst, lookup_cons_eq hfst]
    · rw [lookup_cons_ne hfst, lookup_cons_ne (ha.fst_eq ▸ hfst), ih]

theorem buttonsIn_forall₂ (h : List.Forall₂ SameProperty members members')
    (i : Fin maxScenesInSceneController) : (buttonsIn members i).Perm (buttonsIn members' i) := by
  induction h with
  | nil => exact List.Perm.refl _
  | @cons a a' _ _ ha _ ih =>
    unfold buttonsIn at ih ⊢
    by_cases hfst : a.1 = "Banks"
    · rw [lookup_cons_eq hfst, lookup_cons_eq (ha.fst_eq ▸ hfst)]
      exact ha.perm i
    · rw [lookup_cons_ne hfst, lookup_cons_ne (ha.fst_eq ▸ hfst)]
      exact ih

theorem map_fst_forall₂ (h : List.Forall₂ SameProperty members members') :
    members'.map Prod.fst = members.map Prod.fst := by
  induction h with
  | nil => rfl
  | cons ha _ ih => rw [List.map_cons, List.map_cons, ih, ha.fst_eq]

theorem all_accepts_forall₂ (h : List.Forall₂ SameProperty members members') :
    members'.all (propertyAccepts get) = members.all (propertyAccepts get) := by
  induction h with
  | nil => rfl
  | cons ha _ ih => rw [List.all_cons, List.all_cons, ih, ha.accepts]

namespace SameMembers

variable (hdistinct : DistinctKeys members) (h : SameMembers members members')

include hdistinct h

theorem distinct : DistinctKeys members' := by
  obtain ⟨between, hperm, hsame⟩ := h
  rw [DistinctKeys, map_fst_forall₂ hsame]
  exact hdistinct.of_perm hperm

/-- **The values are the same**, but for the buttons. -/
theorem lookup_eq {key : String} (hkey : key ≠ "Banks") :
    members'.lookup key = members.lookup key := by
  obtain ⟨between, hperm, hsame⟩ := h
  rw [lookup_forall₂ hsame hkey, lookup_perm hdistinct hperm]

/-- **The buttons have the same properties.** -/
theorem buttonsIn_perm (i : Fin maxScenesInSceneController) :
    (buttonsIn members i).Perm (buttonsIn members' i) := by
  obtain ⟨between, hperm, hsame⟩ := h
  refine List.Perm.trans ?_ (buttonsIn_forall₂ hsame i)
  rw [buttonsIn, buttonsIn, lookup_perm hdistinct hperm]

omit hdistinct in
/-- **The same properties are accepted.** -/
theorem all_accepts : members'.all (propertyAccepts get) = members.all (propertyAccepts get) := by
  obtain ⟨between, hperm, hsame⟩ := h
  rw [all_accepts_forall₂ hsame, hperm.all_eq]

theorem mem_iff (ha : a.1 ≠ "Banks") : a ∈ members' ↔ a ∈ members := by
  rw [← lookup_eq_some_iff hdistinct, ← lookup_eq_some_iff (h.distinct hdistinct),
    h.lookup_eq hdistinct ha]

/-- Properties that commute have the same result. -/
theorem edited_eq (hbuttons : ∀ i, DistinctKeys (buttonsIn members i))
    (hcompatible : ∀ i, Compatible (buttonsIn members i)) (p : SceneControllerProperties) :
    edited p members' = edited p members := by
  unfold edited
  rw [h.lookup_eq hdistinct (by decide), h.lookup_eq hdistinct (by decide)]
  congr 1
  funext i
  exact ((commuting_bankAfter (hbuttons i) (hcompatible i)).foldl_perm
    (h.buttonsIn_perm hdistinct i) (p.bank i)).symm

/-- The same settings are sent. -/
theorem mem_nightModeCommands_iff (p : SceneControllerProperties) (settingsSent : Bool)
    (command : SceneControllerCommand) :
    command ∈ nightModeCommands settingsSent p members' ↔
      command ∈ nightModeCommands settingsSent p members := by
  rw [mem_nightModeCommands, mem_nightModeCommands]
  refine and_congr_right fun _ => exists_congr fun b => and_congr_left fun hb => ?_
  refine h.mem_iff hdistinct fun hbanks => ?_
  have hnight := hb.1
  rw [nightModeChanges, hbanks] at hnight
  simp at hnight

end SameMembers

/-- One button's properties are put into another order. -/
theorem sameObject_set {elements : List JsonT} {n : ℕ}
    {properties properties' : List (String × JsonT)}
    (hget : elements[n]? = some (.object properties)) (hperm : properties.Perm properties') :
    List.Forall₂ SameObject elements (elements.set n (.object properties')) := by
  induction elements generalizing n with
  | nil => exact .nil
  | cons element elements ih =>
    cases n with
    | zero =>
      obtain rfl : element = .object properties := Option.some.inj hget
      exact .cons (.perm hperm) (List.forall₂_same.2 fun _ _ => .refl _)
    | succ n => exact .cons (.refl _) (ih hget)

theorem sameProperty_setMember {elements elements' : List JsonT}
    (hlookup : members.lookup "Banks" = some (.array elements))
    (hsame : List.Forall₂ SameObject elements elements') :
    List.Forall₂ SameProperty members (JsonT.setMember "Banks" (.array elements') members) := by
  induction members with
  | nil => cases hlookup
  | cons a members ih =>
    obtain ⟨key, valueObject⟩ := a
    rw [JsonT.setMember]
    split
    · rename_i hkey
      subst hkey
      rw [List.lookup_cons_self] at hlookup
      obtain rfl : valueObject = .array elements := Option.some.inj hlookup
      exact .cons (.banks hsame) (List.forall₂_same.2 fun _ _ => .refl _)
    · rename_i hkey
      exact .cons (.refl _) (ih ((lookup_cons_ne hkey).symm.trans hlookup))

/-- **The properties of a button may come in any order.** -/
theorem exists_reordered {root : JsonT} (hlist : root.get "PropertyList" = some (.object members))
    {i : Fin maxScenesInSceneController} {properties' : List (String × JsonT)}
    (hne : buttonsIn members i ≠ []) (hperm : (buttonsIn members i).Perm properties') :
    ∃ (root' : JsonT) (members' : List (String × JsonT)), root'.get "SCID" = root.get "SCID" ∧
      root'.get "PropertyList" = some (.object members') ∧ SameMembers members members' ∧
      buttonsIn members' i = properties' := by
  unfold buttonsIn at hne hperm
  cases hlookup : members.lookup "Banks" with
  | none =>
    rw [hlookup] at hne
    exact absurd rfl hne
  | some valueObject =>
    rw [hlookup] at hne hperm
    simp only [Option.elim_some, buttonProperties] at hne hperm
    cases hget : valueObject.elements[i.val]? with
    | none =>
      rw [hget] at hne
      exact absurd rfl hne
    | some element =>
      rw [hget] at hne hperm
      simp only [Option.elim_some] at hne hperm
      cases element with
      | object properties =>
        cases valueObject with
        | array elements =>
          have hsame := sameObject_set hget hperm
          refine ⟨root.set "PropertyList" (.object _), _, JsonT.get_set_ne root (by decide) _,
            JsonT.get_set_self (JsonT.isObject_of_get hlist) _ _,
            ⟨members, List.Perm.refl _, sameProperty_setMember hlookup hsame⟩, ?_⟩
          have hlt : i.val < elements.length := (List.getElem?_eq_some_iff.1 hget).1
          rw [buttonsIn, JsonT.lookup_setMember_self]
          simp only [Option.elim_some, buttonProperties, JsonT.elements,
            List.getElem?_set_self hlt]
          rfl
        | _ => cases hget
      | _ => exact absurd rfl hne

theorem sceneControllerOfRequest_congr {root root' : JsonT}
    (h : root'.get "SCID" = root.get "SCID") (st : State) :
    sceneControllerOfRequest st root' = sceneControllerOfRequest st root := by
  unfold sceneControllerOfRequest
  rw [h]

end Reordered

/-! ### What the claim needs -/

/-- An error leaves the scene controllers and the queue alone. -/
def Atomic (st : State) (outcome : SceneControllerOutcome) : Prop :=
  outcome.st.sceneControllers = st.sceneControllers ∧ outcome.queued = []

/-- The scene controllers and the commands in the queue are the same. -/
def SameEffect (outcome outcome' : SceneControllerOutcome) : Prop :=
  outcome'.st.sceneControllers = outcome.st.sceneControllers ∧
    ∀ command, command ∈ outcome'.queued ↔ command ∈ outcome.queued

/-- A request is atomic on error, and otherwise its order does not matter. -/
def AtomicOrOrderFree (st : State) (root : JsonT) (commands : Commands) : Prop :=
  if (setSceneControllerOutcome st root commands).response.isSome then
    Atomic st (setSceneControllerOutcome st root commands)
  else ∀ root', Reordered root root' →
    SameEffect (setSceneControllerOutcome st root commands)
      (setSceneControllerOutcome st root' commands)

/-- A button has what a property sets. -/
structure BankHas (bank : SceneControllerBank) (a : String × JsonT) : Prop where
  /-- `SID` -/
  sceneId : a.1 = "SID" → sceneIdOf a.2 = bank.sceneId
  /-- The master off is not toggleable. -/
  masterOff : a.1 = "SID" → sceneIdOf a.2 = masterOff → bank.toggleable = 0
  /-- `Toggleable` -/
  toggleable : a.1 = "Toggleable" → flagOf a.2 = bank.toggleable
  /-- `Toggled` -/
  toggled : a.1 = "Toggled" → flagOf a.2 = bank.toggled

/-- A scene controller has what the properties set. -/
structure Has (p : SceneControllerProperties) (members : List (String × JsonT)) : Prop where
  /-- `Name` -/
  name : ∀ valueObject, members.lookup "Name" = some valueObject →
    sanitizedName valueObject.chars = p.SceneControllerNameString
  /-- `NightMode` -/
  nightMode : ∀ valueObject, members.lookup "NightMode" = some valueObject →
    flagOf valueObject = p.nightMode
  /-- `Banks` -/
  banks : ∀ i, ∀ a ∈ buttonsIn members i, BankHas (p.bank i) a

/-- The properties change the night mode. -/
def ChangesNightMode (p : SceneControllerProperties) (members : List (String × JsonT)) : Prop :=
  ∃ valueObject, members.lookup "NightMode" = some valueObject ∧ flagOf valueObject ≠ p.nightMode

/-- A button is made toggleable while it has the master off. -/
def RefusesButton (p : SceneControllerProperties) (members : List (String × JsonT)) : Prop :=
  ∃ i, Refuses (p.bank i) (buttonsIn members i)

/-- A command cannot be queued. -/
def CannotTransmit (p : SceneControllerProperties) (members : List (String × JsonT))
    (commands : Commands) : Prop :=
  commands.assignAll = false ∨ commands.settings = false ∧ ChangesNightMode p members

/-- What the properties of a request have to be like, if they pass the check. -/
structure Harmless (p : SceneControllerProperties) (members : List (String × JsonT))
    (commands : Commands) : Prop where
  /-- If a button is refused, no settings have been sent before. -/
  refused : RefusesButton p members → commands.settings = true →
    ¬ ChangesNightMode p (members.takeWhile fun a => a.1 ≠ "Banks")
  /-- If a command cannot be queued, none can be, and nothing is to be changed. -/
  untransmitted : ¬ RefusesButton p members → CannotTransmit p members commands →
    commands.assign 0 = false ∧ Has p members
  /-- Otherwise no button with the master off is made toggleable and given a scene. -/
  accepted : ¬ RefusesButton p members → ¬ CannotTransmit p members commands →
    ∀ i, ¬ OrderMatters (p.bank i) (buttonsIn members i)

section Request

variable {p : SceneControllerProperties} {members : List (String × JsonT)} {a : String × JsonT}
  {bank : SceneControllerBank}

theorem bankHas_iff : BankHas bank a ↔ bankAfter bank a = bank := by
  rw [SceneControllerBank.ext_iff]
  unfold bankAfter fieldAfter
  constructor
  · intro h
    refine ⟨?_, ?_, ?_⟩
    · dsimp only
      split
      · exact h.sceneId ‹_›
      · rfl
    · dsimp only
      split
      · rename_i hoff
        exact (h.masterOff hoff.1 hoff.2).symm
      · split
        · exact h.toggleable ‹_›
        · rfl
    · dsimp only
      split
      · exact h.toggled ‹_›
      · rfl
  · rintro ⟨hid, htoggleable, htoggled⟩
    dsimp only at hid htoggleable htoggled
    refine ⟨fun h => ?_, fun h hoff => ?_, fun h => ?_, fun h => ?_⟩
    · rwa [if_pos h] at hid
    · rw [if_pos ⟨h, hoff⟩] at htoggleable
      exact htoggleable.symm
    · rwa [if_neg fun hid => absurd (h.symm.trans hid.1) (by decide), if_pos h] at htoggleable
    · rwa [if_pos h] at htoggled

/-- **The properties change nothing** exactly if the scene controller has what they set. -/
theorem edited_eq_self_iff (hdistinct : ∀ i, DistinctKeys (buttonsIn members i))
    (hcompatible : ∀ i, Compatible (buttonsIn members i)) :
    edited p members = p ↔ Has p members := by
  have hbanks (i) : (buttonsIn members i).foldl bankAfter (p.bank i) = p.bank i ↔
      ∀ a ∈ buttonsIn members i, BankHas (p.bank i) a := by
    rw [foldl_eq_self_iff (commuting_bankAfter (hdistinct i) (hcompatible i))
      fun a _ bank => bankAfter_idem bank a]
    exact forall₂_congr fun a _ => bankHas_iff.symm
  rw [SceneControllerProperties.ext_iff]
  constructor
  · rintro ⟨hname, hbank, -, -, -, -, hnight, -⟩
    refine ⟨fun valueObject h => ?_, fun valueObject h => ?_,
      fun i => (hbanks i).1 (congrFun hbank i)⟩
    · simpa [edited, h] using hname
    · simpa [edited, h] using hnight
  · intro h
    refine ⟨?_, funext fun i => (hbanks i).2 (h.banks i), rfl, rfl, rfl, rfl, ?_, rfl⟩
    · cases hlookup : members.lookup "Name" with
      | none => simp [edited, hlookup]
      | some valueObject => simpa [edited, hlookup] using h.name valueObject hlookup
    · cases hlookup : members.lookup "NightMode" with
      | none => simp [edited, hlookup]
      | some valueObject => simpa [edited, hlookup] using h.nightMode valueObject hlookup

/-! ### Requests that pass the check -/

/-- A request that passes the check. -/
structure Checked (st : State) (root : JsonT) (sceneControllerIndex : Byte)
    (p : SceneControllerProperties) (members : List (String × JsonT)) : Prop where
  /-- The scene controller. -/
  sceneController : sceneControllerOfRequest st root = .ok (sceneControllerIndex, p)
  /-- The properties. -/
  list : root.get "PropertyList" = some (.object members)
  /-- They are accepted. -/
  accepts : members.all (propertyAccepts st.getSceneProperties) = true
  /-- Their keys are different ones. -/
  distinct : DistinctKeys members
  /-- So are those of the buttons. -/
  distinct_buttons : ∀ i, DistinctKeys (buttonsIn members i)

theorem clashing_iff (hdistinct : ∀ i, DistinctKeys (buttonsIn members i)) :
    clashing (checkedProperties p members) members = true ↔ RefusesButton p members := by
  simp only [clashing, List.any_eq_true, List.mem_finRange, true_and]
  exact exists_congr fun i => clashesIn_checked_iff (hdistinct i)

theorem compatible_of_not_refusesButton (hdistinct : ∀ i, DistinctKeys (buttonsIn members i))
    (h : ¬ RefusesButton p members) (i : Fin maxScenesInSceneController) :
    Compatible (buttonsIn members i) :=
  compatible_of_not_refuses (hdistinct i) fun hi => h ⟨i, hi⟩

theorem edited_checkedProperties (hdistinct : ∀ i, DistinctKeys (buttonsIn members i))
    (h : ¬ RefusesButton p members) :
    edited (checkedProperties p members) members = edited p members := by
  unfold edited checkedProperties
  congr 1
  funext i
  exact foldl_bankAfter_checked (hdistinct i) (compatible_of_not_refusesButton hdistinct h i) _

theorem any_nightModeChanges (hdistinct : DistinctKeys members) :
    members.any (nightModeChanges p) = true ↔ ChangesNightMode p members := by
  rw [List.any_eq_true]
  constructor
  · rintro ⟨⟨key, valueObject⟩, hmem, hchanges⟩
    rw [nightModeChanges, Bool.and_eq_true, decide_eq_true_eq, decide_eq_true_eq] at hchanges
    obtain ⟨rfl, hflag⟩ := hchanges
    exact ⟨valueObject, (lookup_eq_some_iff hdistinct).2 hmem, hflag⟩
  · rintro ⟨valueObject, hlookup, hflag⟩
    exact ⟨_, (lookup_eq_some_iff hdistinct).1 hlookup, by simp [nightModeChanges, hflag]⟩

theorem nightModeCommands_eq_nil (hdistinct : DistinctKeys members) {settingsSent : Bool} :
    nightModeCommands settingsSent p members = [] ↔
      (settingsSent = true → ¬ ChangesNightMode p members) := by
  rw [← any_nightModeChanges hdistinct, nightModeCommands]
  cases settingsSent with
  | false => simp
  | true => simp [List.filter_eq_nil_iff]

theorem assignCommands_eq_nil {get : Byte → Option SceneProperties} {commands : Commands} :
    assignCommands get p commands = [] ↔ commands.assign 0 = false := by
  rw [assignCommands, List.map_eq_nil_iff, List.finRange_succ, List.takeWhile_cons]
  cases commands.assign 0 <;> simp

namespace Checked

variable {st : State} {root : JsonT} {sceneControllerIndex : Byte} {commands : Commands}
  (h : Checked st root sceneControllerIndex p members)

include h

/-- **A request with a button that is refused.** -/
theorem outcome_refused (hrefused : RefusesButton p members) :
    setSceneControllerOutcome st root commands = ⟨st, some toggleableError,
      nightModeCommands commands.settings p (members.takeWhile fun a => a.1 ≠ "Banks")⟩ := by
  unfold setSceneControllerOutcome
  rw [h.sceneController]
  dsimp only
  rw [h.list]
  dsimp only
  rw [checkPass h.accepts h.distinct]
  dsimp only
  rw [settingPass_eq h.accepts h.distinct, if_pos ((clashing_iff h.distinct_buttons).2 hrefused)]
  rfl

/-- **A request without one.** -/
theorem outcome_accepted (haccepted : ¬ RefusesButton p members) :
    setSceneControllerOutcome st root commands =
      { st := st.setSceneControllerProperties sceneControllerIndex (edited p members)
        response :=
          if commands.assignAll then
            if members.any (nightModeChanges p) && !commands.settings then some transmitError
            else none
          else some transmitError
        queued := nightModeCommands commands.settings p members ++
          assignCommands st.getSceneProperties (edited p members) commands } := by
  unfold setSceneControllerOutcome
  rw [h.sceneController]
  dsimp only
  rw [h.list]
  dsimp only
  rw [checkPass h.accepts h.distinct]
  dsimp only
  rw [settingPass_eq h.accepts h.distinct,
    if_neg fun hclash => haccepted ((clashing_iff h.distinct_buttons).1 hclash)]
  dsimp only
  rw [edited_checkedProperties h.distinct_buttons haccepted]
  rfl

theorem getSceneControllerProperties :
    st.getSceneControllerProperties sceneControllerIndex = some p :=
  sceneControllerOfRequest_ok h.sceneController

/-- A request with a button that is refused. -/
theorem atomicOrOrderFree_refused (hrefused : RefusesButton p members) :
    AtomicOrOrderFree st root commands ↔ (commands.settings = true →
      ¬ ChangesNightMode p (members.takeWhile fun a => a.1 ≠ "Banks")) := by
  have hdistinct : DistinctKeys (members.takeWhile fun a => a.1 ≠ "Banks") :=
    ((List.takeWhile_sublist _).map Prod.fst).nodup h.distinct
  rw [AtomicOrOrderFree, h.outcome_refused hrefused, if_pos (by rfl), Atomic,
    ← nightModeCommands_eq_nil hdistinct]
  exact and_iff_right rfl

theorem response_isSome (haccepted : ¬ RefusesButton p members) :
    (setSceneControllerOutcome st root commands).response.isSome = true ↔
      CannotTransmit p members commands := by
  rw [h.outcome_accepted haccepted, CannotTransmit, ← any_nightModeChanges h.distinct]
  cases commands.assignAll <;> cases commands.settings <;>
    cases members.any (nightModeChanges p) <;> simp

/-- A request whose commands cannot all be queued. -/
theorem atomicOrOrderFree_untransmitted (haccepted : ¬ RefusesButton p members)
    (hcannot : CannotTransmit p members commands) :
    AtomicOrOrderFree st root commands ↔ commands.assign 0 = false ∧ Has p members := by
  have hedited := edited_eq_self_iff (p := p) h.distinct_buttons
    (compatible_of_not_refusesButton h.distinct_buttons haccepted)
  have hset : (st.setSceneControllerProperties sceneControllerIndex
      (edited p members)).sceneControllers = st.sceneControllers ↔ Has p members :=
    (Table.set_eq_self_iff h.getSceneControllerProperties).trans hedited
  rw [AtomicOrOrderFree, if_pos ((h.response_isSome haccepted).2 hcannot),
    h.outcome_accepted haccepted, Atomic, hset, List.append_eq_nil_iff,
    nightModeCommands_eq_nil h.distinct, assignCommands_eq_nil]
  constructor
  · rintro ⟨hhas, -, hassign⟩
    exact ⟨hassign, hhas⟩
  · rintro ⟨hassign, hhas⟩
    refine ⟨hhas, fun _ => ?_, hassign⟩
    rintro ⟨valueObject, hlookup, hchanges⟩
    exact hchanges (hhas.nightMode valueObject hlookup)

/-- A request in another order passes the check, too. -/
theorem reordered {root' : JsonT} {members' : List (String × JsonT)}
    (hid : root'.get "SCID" = root.get "SCID")
    (hlist : root'.get "PropertyList" = some (.object members'))
    (hsame : SameMembers members members') : Checked st root' sceneControllerIndex p members' where
  sceneController := (sceneControllerOfRequest_congr hid st).trans h.sceneController
  list := hlist
  accepts := hsame.all_accepts.trans h.accepts
  distinct := hsame.distinct h.distinct
  distinct_buttons i := (h.distinct_buttons i).of_perm (hsame.buttonsIn_perm h.distinct i)

/-- A request that is accepted. -/
theorem atomicOrOrderFree_accepted (haccepted : ¬ RefusesButton p members)
    (hcan : ¬ CannotTransmit p members commands) :
    AtomicOrOrderFree st root commands ↔
      ∀ i, ¬ OrderMatters (p.bank i) (buttonsIn members i) := by
  have hcompatible := compatible_of_not_refusesButton h.distinct_buttons haccepted
  rw [AtomicOrOrderFree, if_neg fun hresponse => hcan ((h.response_isSome haccepted).1 hresponse)]
  constructor
  · intro horder i hmatters
    obtain ⟨properties', hperm, hrefuses⟩ := hmatters.exists_refuses (h.distinct_buttons i)
    have hne : buttonsIn members i ≠ [] := by
      obtain ⟨⟨a, ha, -⟩, -⟩ := hmatters
      exact List.ne_nil_of_mem ha
    obtain ⟨root', members', hid, hlist, hsame, hbuttons⟩ := exists_reordered h.list hne hperm
    have heffect := (horder root' ⟨hid, members, members', h.list, hlist, hsame⟩).2
    rw [h.outcome_accepted haccepted,
      (h.reordered hid hlist hsame).outcome_refused ⟨i, by rwa [hbuttons]⟩] at heffect
    -- the other order assigns no scenes
    have hassign : commands.assign 0 = true := by
      rw [← Bool.not_eq_false]
      intro hfalse
      refine hcan (.inl (List.all_eq_false.2 ⟨0, List.mem_finRange 0, ?_⟩))
      rw [hfalse]
      exact Bool.false_ne_true
    have hmem : assignCommand st.getSceneProperties (edited p members) 0 ∈
        assignCommands st.getSceneProperties (edited p members) commands := by
      rw [assignCommands, List.finRange_succ, List.takeWhile_cons, if_pos hassign, List.map_cons]
      exact List.mem_cons_self
    obtain ⟨-, b, -, -, hcommand⟩ :=
      mem_nightModeCommands.1 ((heffect _).2 (List.mem_append_right _ hmem))
    cases hcommand
  · rintro hmatters root' ⟨hid, list, members', hlist, hlist', hsame⟩
    obtain rfl : members = list := by
      have heq := h.list.symm.trans hlist
      cases heq
      rfl
    have h' := h.reordered hid hlist' hsame
    have haccepted' : ¬ RefusesButton p members' := by
      rintro ⟨i, hrefuses⟩
      exact hmatters i (orderMatters_of_refuses (h.distinct_buttons i)
        (hsame.buttonsIn_perm h.distinct i) (fun hi => haccepted ⟨i, hi⟩) hrefuses)
    rw [h.outcome_accepted haccepted, h'.outcome_accepted haccepted', SameEffect]
    dsimp only
    rw [hsame.edited_eq h.distinct h.distinct_buttons hcompatible]
    refine ⟨rfl, fun command => ?_⟩
    rw [List.mem_append, List.mem_append, hsame.mem_nightModeCommands_iff h.distinct]

end Checked

/-- **What a request has to be like**: if it passes the check, its properties are harmless. -/
def HarmlessRequest (st : State) (root : JsonT) (commands : Commands) : Prop :=
  ∀ sceneControllerIndex p members,
    sceneControllerOfRequest st root = .ok (sceneControllerIndex, p) →
      root.get "PropertyList" = some (.object members) →
      members.all (propertyAccepts st.getSceneProperties) = true → Harmless p members commands

theorem Checked.harmless_iff {st : State} {root : JsonT} {sceneControllerIndex : Byte}
    {commands : Commands} (h : Checked st root sceneControllerIndex p members) :
    AtomicOrOrderFree st root commands ↔ Harmless p members commands := by
  by_cases hrefused : RefusesButton p members
  · rw [h.atomicOrOrderFree_refused hrefused]
    exact ⟨fun hsettings => ⟨fun _ => hsettings, fun hnot => absurd hrefused hnot,
      fun hnot => absurd hrefused hnot⟩, fun hharmless => hharmless.refused hrefused⟩
  · by_cases hcannot : CannotTransmit p members commands
    · rw [h.atomicOrOrderFree_untransmitted hrefused hcannot]
      exact ⟨fun hhas => ⟨fun hyes => absurd hyes hrefused, fun _ _ => hhas,
        fun _ hnot => absurd hcannot hnot⟩,
        fun hharmless => hharmless.untransmitted hrefused hcannot⟩
    · rw [h.atomicOrOrderFree_accepted hrefused hcannot]
      exact ⟨fun hmatters => ⟨fun hyes => absurd hyes hrefused, fun _ hyes => absurd hyes hcannot,
        fun _ _ => hmatters⟩, fun hharmless => hharmless.accepted hrefused hcannot⟩

/-- The buttons of a request are objects. -/
theorem SceneControllerRequest.distinct_buttons (request : SceneControllerRequest)
    (hlist : request.root.get "PropertyList" = some (.object members))
    (i : Fin maxScenesInSceneController) : DistinctKeys (buttonsIn members i) := by
  have hmembers : propertyList request.root = members := by
    rw [propertyList, hlist]
    rfl
  have hdistinct := request.distinct
  have hbanks := request.distinct_banks
  rw [hmembers] at hdistinct hbanks
  unfold buttonsIn buttonProperties
  cases hlookup : members.lookup "Banks" with
  | none => exact List.nodup_nil
  | some valueObject =>
    have hmem := (lookup_eq_some_iff hdistinct).1 hlookup
    rw [Option.elim_some]
    cases hget : valueObject.elements[i.val]? with
    | none => exact List.nodup_nil
    | some element => exact hbanks _ hmem element (List.mem_of_getElem? hget)

/-- A request that does not pass the check leaves everything alone. -/
theorem atomicOrOrderFree_of_error {st : State} {root : JsonT} {commands : Commands}
    {error : Error} (h : setSceneControllerOutcome st root commands = ⟨st, some error, []⟩) :
    AtomicOrOrderFree st root commands := by
  rw [AtomicOrOrderFree, h, if_pos (by rfl)]
  exact ⟨rfl, rfl⟩

/-! ### Requests that do not reach the setting pass -/

section Outcome

variable {st : State} {root : JsonT} {commands : Commands} {found : Byte × SceneControllerProperties}

theorem outcome_of_error {response : Option Error}
    (hrequest : sceneControllerOfRequest st root = .error response) :
    setSceneControllerOutcome st root commands = ⟨st, response, []⟩ := by
  rw [setSceneControllerOutcome, hrequest]

theorem outcome_of_noList (hrequest : sceneControllerOfRequest st root = .ok found)
    (hlist : ∀ members, root.get "PropertyList" ≠ some (.object members)) :
    setSceneControllerOutcome st root commands =
      ⟨st, some ⟨"Invalid 'PropertyList'.", 2029⟩, []⟩ := by
  rw [setSceneControllerOutcome, hrequest]
  dsimp only
  split
  · exact absurd ‹_› (hlist _)
  · rfl

theorem outcome_of_not_accepts (hrequest : sceneControllerOfRequest st root = .ok found)
    (hlist : root.get "PropertyList" = some (.object members))
    (haccepts : members.all (propertyAccepts st.getSceneProperties) = false) :
    ∃ error, setSceneControllerOutcome st root commands = ⟨st, some error, []⟩ := by
  obtain ⟨error, herror⟩ := checkPass_error commands.settings haccepts ⟨found.2, none⟩
  refine ⟨error, ?_⟩
  rw [setSceneControllerOutcome, hrequest]
  dsimp only
  rw [hlist]
  dsimp only
  rw [herror]

end Outcome

/-- **A request is atomic on error and otherwise does not depend on the order of its properties**
exactly if it is harmless. -/
theorem atomicOrOrderFree_iff (st : State) (request : SceneControllerRequest)
    (commands : Commands) :
    AtomicOrOrderFree st request.root commands ↔ HarmlessRequest st request.root commands := by
  cases hrequest : sceneControllerOfRequest st request.root with
  | error response =>
    refine iff_of_true ?_ fun _ _ _ h => (nomatch hrequest.symm.trans h)
    cases response with
    | some error => exact atomicOrOrderFree_of_error (outcome_of_error hrequest)
    | none =>
      -- nothing is said, and nothing done, in any order
      rw [AtomicOrOrderFree, outcome_of_error hrequest, if_neg (by simp)]
      intro root' hreordered
      rw [outcome_of_error ((sceneControllerOfRequest_congr hreordered.id st).trans hrequest)]
      exact ⟨rfl, fun _ => Iff.rfl⟩
  | ok found =>
    by_cases hlist : ∃ members, request.root.get "PropertyList" = some (.object members)
    · obtain ⟨members, hlist⟩ := hlist
      cases haccepts : members.all (propertyAccepts st.getSceneProperties) with
      | false =>
        refine iff_of_true ?_ fun _ _ members' _ hlist' haccepts' => ?_
        · obtain ⟨error, houtcome⟩ := outcome_of_not_accepts hrequest hlist haccepts
          exact atomicOrOrderFree_of_error houtcome
        · cases hlist.symm.trans hlist'
          cases haccepts.symm.trans haccepts'
      | true =>
        obtain ⟨sceneControllerIndex, p⟩ := found
        have hdistinct : DistinctKeys members := by
          have hdistinct := request.distinct
          rwa [propertyList, hlist] at hdistinct
        have hchecked : Checked st request.root sceneControllerIndex p members :=
          ⟨hrequest, hlist, haccepts, hdistinct, request.distinct_buttons hlist⟩
        rw [hchecked.harmless_iff]
        constructor
        · intro hharmless index' p' members' hrequest' hlist' _
          cases hrequest.symm.trans hrequest'
          cases hlist.symm.trans hlist'
          exact hharmless
        · intro hharmless
          exact hharmless sceneControllerIndex p members hrequest hlist haccepts
    · push Not at hlist
      exact iff_of_true (atomicOrOrderFree_of_error (outcome_of_noList hrequest hlist))
        fun _ _ _ _ h => absurd h (hlist _)

end Request

/-- Night mode, and a button that gets the master off and is made toggleable. -/
def nightModeFirst : SceneControllerRequest where
  root := propertiesRequest ("SCID", 0)
    [("NightMode", .true),
      ("Banks", .array [.object [("SID", .integer 100), ("Toggleable", .true)]])]
  distinct := by decide
  distinct_banks := by decide

/-- A scene controller is added. -/
def sceneControllerAdded : List Event :=
  [.addASceneController .true,
    .received ⟨.handleSceneControllerMasterOff 0 1 2 3 0, trivial⟩ freeCall]

/-- **The request with `NightMode` first** is refused when the settings have been sent. -/
theorem not_atomicOrOrderFree_settingsSent :
    ¬ ∀ st, machine.Reachable st → ∀ (request : SceneControllerRequest) (commands : Commands),
      AtomicOrOrderFree st request.root commands := by
  intro h
  have hrun : (machine.run State.initial sceneControllerAdded).any (fun st =>
      (setSceneControllerOutcome st nightModeFirst.root ⟨true, fun _ => true⟩).response.isSome &&
        !(setSceneControllerOutcome st nightModeFirst.root ⟨true, fun _ => true⟩).queued.isEmpty) =
      true := by
    decide +kernel
  obtain ⟨st, hrun, hst⟩ := (Option.any_eq_true ..).1 hrun
  rw [Bool.and_eq_true] at hst
  obtain ⟨hresponse, hqueued⟩ := hst
  have hatomic := h st ⟨State.initial, sceneControllerAdded, rfl, hrun⟩ nightModeFirst
    ⟨true, fun _ => true⟩
  rw [AtomicOrOrderFree, if_pos hresponse] at hatomic
  rw [hatomic.2] at hqueued
  cases hqueued

end House

end Lcm
