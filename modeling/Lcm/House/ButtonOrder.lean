import Lcm.House.Edits
import Lcm.Run.Updates
import Mathlib.Data.List.Nodup

/-!
# The order of the properties of a button

The properties of a button are checked in one pass and set in another.  What the second pass makes
of them is a list of updates that commute, but for one check: a button that has the master off when
`Toggleable` is set is refused, and whether it has depends on what came before.

## Main definitions

* `bankAfter`, `bankAccepts` : what a property makes of a button, and whether it passes the check.
* `Refuses` : a button is made toggleable while it has the master off.
* `OrderMatters` : a button with the master off is made toggleable and given a scene.

## Main results

* `checkButton`, `setButton` : the two passes.
* `commuting_bankAfter` : the properties of a button commute.
* `orderMatters_of_refuses`, `OrderMatters.exists_refuses` : when a button is refused in one order
  and not in another.
-/

namespace Lcm

namespace House

open SceneControllers
open Services (Error)

/-! ### A property of a button -/

/-- The scene in an `SID`, a `signed char`. -/
def sceneIdOf (valueObject : JsonT) : Byte := valueObject.integerValue.setWidth 8

/-- No scene, or the master off; these are set in the first pass. -/
def isSpecial (sceneId : Byte) : Bool := sceneId = noScene || sceneId = masterOff

/-- A truth value as it is stored. -/
def flagOf (valueObject : JsonT) : Byte := if valueObject.isTrue then 1 else 0

/-- What a property makes of a button. -/
def bankAfter (bank : SceneControllerBank) (property : String × JsonT) : SceneControllerBank where
  sceneId := fieldAfter "SID" sceneIdOf bank.sceneId property
  toggleable :=
    if property.1 = "SID" ∧ sceneIdOf property.2 = masterOff then 0
    else fieldAfter "Toggleable" flagOf bank.toggleable property
  toggled := fieldAfter "Toggled" flagOf bank.toggled property

/-- What the first pass makes of a button. -/
def bankChecked (bank : SceneControllerBank) (property : String × JsonT) : SceneControllerBank :=
  if property.1 = "SID" ∧ isSpecial (sceneIdOf property.2) = true then bankAfter bank property
  else bank

/-- The first pass accepts a property of a button. -/
def bankAccepts (get : Byte → Option Scenes.SceneProperties) (property : String × JsonT) : Bool :=
  if property.1 = "SID" then
    property.2.isInteger &&
      (isSpecial (sceneIdOf property.2) || (get (sceneIdOf property.2)).any sceneNamed)
  else if property.1 = "Toggleable" then property.2.isBoolean
  else if property.1 = "Toggled" then property.2.isBoolean
  else false

/-- The second pass refuses a property of a button. -/
def clashes (bank : SceneControllerBank) (property : String × JsonT) : Bool :=
  property.1 = "Toggleable" && property.2.isTrue && bank.sceneId = masterOff

/-- The error for that. -/
def toggleableError : Error := ⟨"Bank, Toggleable must be a False for Master Off.", 2109⟩

section Bank

variable {get : Byte → Option Scenes.SceneProperties} {i : Fin maxScenesInSceneController}
  {p : SceneControllerProperties} {property : String × JsonT}

@[simp]
theorem setBank_self (p : SceneControllerProperties) (i : Fin maxScenesInSceneController) :
    setBank p i (p.bank i) = p := by
  rw [setBank, Function.update_eq_self]

@[simp]
theorem setBank_setBank (p : SceneControllerProperties) (i : Fin maxScenesInSceneController)
    (bank bank' : SceneControllerBank) :
    setBank (setBank p i bank) i bank' = setBank p i bank' := by
  simp [setBank]

theorem bankAfter_scene (bank : SceneControllerBank) (valueObject : JsonT) :
    bankAfter bank ("SID", valueObject) =
      if sceneIdOf valueObject = masterOff then { bank with sceneId := masterOff, toggleable := 0 }
      else { bank with sceneId := sceneIdOf valueObject } := by
  by_cases hoff : sceneIdOf valueObject = masterOff
  · simp [bankAfter, fieldAfter, hoff]
  · rw [if_neg hoff]
    simp only [bankAfter, hoff, and_false, if_false]
    simp [fieldAfter]

theorem bankAfter_toggleable (bank : SceneControllerBank) (valueObject : JsonT) :
    bankAfter bank ("Toggleable", valueObject) =
      { bank with toggleable := flagOf valueObject } := by
  simp [bankAfter, fieldAfter]

theorem bankAfter_toggled (bank : SceneControllerBank) (valueObject : JsonT) :
    bankAfter bank ("Toggled", valueObject) = { bank with toggled := flagOf valueObject } := by
  simp [bankAfter, fieldAfter]

/-- The scene of a button that is accepted. -/
theorem bankSceneProperty_eq {setFlag : Bool} {valueObject : JsonT}
    (hinteger : valueObject.isInteger = true)
    (hscene : isSpecial (sceneIdOf valueObject) = true ∨
      (get (sceneIdOf valueObject)).any sceneNamed = true) :
    bankSceneProperty get setFlag i valueObject p =
      .ok (if setFlag || isSpecial (sceneIdOf valueObject) then
        setBank p i (bankAfter (p.bank i) ("SID", valueObject)) else p) := by
  obtain ⟨sceneId, hid⟩ : ∃ sceneId : Byte, valueObject.integerValue.setWidth 8 = sceneId :=
    ⟨_, rfl⟩
  simp only [bankSceneProperty, bankAfter_scene, sceneIdOf, hinteger, hid] at hscene ⊢
  by_cases hnone : sceneId = noScene
  · subst hnone
    simp [isSpecial]
  · by_cases hoff : sceneId = masterOff
    · subst hoff
      simp [isSpecial]
    · have hspecial : isSpecial sceneId = false := by
        rw [isSpecial, decide_eq_false hnone, decide_eq_false hoff, Bool.or_false]
      rw [hspecial] at hscene ⊢
      rcases (Option.any_eq_true ..).1 (hscene.resolve_left Bool.false_ne_true) with
        ⟨scene, hget, hnamed⟩
      rw [if_neg (by decide), if_pos ⟨hnone, hoff⟩, if_neg hoff, hget]
      cases setFlag <;> simp [hnamed]

/-- A scene that is not accepted is an error. -/
theorem bankSceneProperty_error {setFlag : Bool} {valueObject : JsonT}
    (h : (valueObject.isInteger && (isSpecial (sceneIdOf valueObject) ||
      (get (sceneIdOf valueObject)).any sceneNamed)) = false) :
    ∃ error, bankSceneProperty get setFlag i valueObject p = .error error := by
  cases hinteger : valueObject.isInteger with
  | false => simp [bankSceneProperty, hinteger]
  | true =>
    rw [hinteger, Bool.true_and, Bool.or_eq_false_iff] at h
    rcases h with ⟨hspecial, hscene⟩
    obtain ⟨sceneId, hid⟩ : ∃ sceneId : Byte, valueObject.integerValue.setWidth 8 = sceneId :=
      ⟨_, rfl⟩
    simp only [bankSceneProperty, sceneIdOf, hinteger, hid] at hspecial hscene ⊢
    simp only [isSpecial, Bool.or_eq_false_iff, decide_eq_false_iff_not] at hspecial
    cases hget : get sceneId with
    | none => exact ⟨_, by rw [if_neg (by decide), if_pos hspecial]⟩
    | some scene =>
      rw [hget, Option.any_some] at hscene
      rw [if_neg (by decide), if_pos hspecial]
      dsimp only
      rw [hscene]
      exact ⟨_, rfl⟩

/-- A property that is accepted is set, if it does not clash. -/
theorem handleIndividualBankListProperty_true (h : bankAccepts get property = true) :
    handleIndividualBankListProperty get true i p property =
      if clashes (p.bank i) property then .error toggleableError
      else .ok (setBank p i (bankAfter (p.bank i) property)) := by
  rcases property with ⟨key, valueObject⟩
  simp only [bankAccepts] at h
  simp only [handleIndividualBankListProperty]
  by_cases hid : key = "SID"
  · subst hid
    rw [if_pos rfl, Bool.and_eq_true, Bool.or_eq_true] at h
    rw [if_pos rfl, bankSceneProperty_eq h.1 h.2]
    simp [clashes]
  · rw [if_neg hid] at h ⊢
    by_cases htoggleable : key = "Toggleable"
    · subst htoggleable
      rw [if_pos rfl] at h
      cases htrue : valueObject.isTrue <;> by_cases hoff : (p.bank i).sceneId = masterOff <;>
        simp [toggleableProperty, bankAfter_toggleable, clashes, h, htrue, hoff, flagOf,
          toggleableError]
    · rw [if_neg htoggleable] at h
      by_cases htoggled : key = "Toggled"
      · subst htoggled
        rw [if_pos rfl] at h
        simp [toggledProperty, bankAfter_toggled, clashes, h, flagOf]
      · rw [if_neg htoggled] at h
        cases h

/-- A property that is accepted passes the check. -/
theorem handleIndividualBankListProperty_false (h : bankAccepts get property = true) :
    handleIndividualBankListProperty get false i p property =
      .ok (setBank p i (bankChecked (p.bank i) property)) := by
  rcases property with ⟨key, valueObject⟩
  simp only [bankAccepts] at h
  simp only [handleIndividualBankListProperty, bankChecked]
  by_cases hid : key = "SID"
  · subst hid
    rw [if_pos rfl, Bool.and_eq_true, Bool.or_eq_true] at h
    rw [if_pos rfl, bankSceneProperty_eq h.1 h.2]
    cases isSpecial (sceneIdOf valueObject) <;> simp
  · rw [if_neg hid] at h ⊢
    by_cases htoggleable : key = "Toggleable"
    · subst htoggleable
      rw [if_pos rfl] at h
      simp [toggleableProperty, h]
    · rw [if_neg htoggleable] at h
      by_cases htoggled : key = "Toggled"
      · subst htoggled
        rw [if_pos rfl] at h
        simp [toggledProperty, h]
      · rw [if_neg htoggled] at h
        cases h

/-- A property that is not accepted is an error. -/
theorem handleIndividualBankListProperty_error (h : bankAccepts get property = false) :
    ∃ error, handleIndividualBankListProperty get false i p property = .error error := by
  rcases property with ⟨key, valueObject⟩
  simp only [bankAccepts] at h
  simp only [handleIndividualBankListProperty]
  by_cases hid : key = "SID"
  · subst hid
    rw [if_pos rfl] at h ⊢
    exact bankSceneProperty_error h
  · rw [if_neg hid] at h ⊢
    by_cases htoggleable : key = "Toggleable"
    · subst htoggleable
      rw [if_pos rfl] at h
      simp [toggleableProperty, h]
    · rw [if_neg htoggleable] at h
      by_cases htoggled : key = "Toggled"
      · subst htoggled
        rw [if_pos rfl] at h
        simp [toggledProperty, h]
      · simp [htoggleable, htoggled]

/-! ### The updates of a button -/

/-- The keys in a list of properties are different ones, as in an object. -/
def DistinctKeys (members : List (String × JsonT)) : Prop := (members.map Prod.fst).Nodup

instance (members : List (String × JsonT)) : Decidable (DistinctKeys members) :=
  inferInstanceAs (Decidable (List.Nodup _))

/-- In an object, a key has one value. -/
theorem DistinctKeys.eq_of_fst {members : List (String × JsonT)} (h : DistinctKeys members)
    {a b : String × JsonT} (ha : a ∈ members) (hb : b ∈ members) (hkey : a.1 = b.1) : a = b :=
  List.inj_on_of_nodup_map h ha hb hkey

theorem DistinctKeys.of_perm {members members' : List (String × JsonT)} (h : DistinctKeys members)
    (hperm : members.Perm members') : DistinctKeys members' :=
  (hperm.map Prod.fst).nodup_iff.1 h

/-- A field with a key of its own is set in any order. -/
theorem fieldAfter_comm {α : Type*} (key : String) (read : JsonT → α) (field : α)
    {a b : String × JsonT} (hkey : a.1 ≠ b.1) :
    fieldAfter key read (fieldAfter key read field a) b =
      fieldAfter key read (fieldAfter key read field b) a := by
  unfold fieldAfter
  by_cases ha : a.1 = key
  · rw [if_pos ha, if_pos ha, if_neg fun hb => hkey (ha.trans hb.symm)]
  · rw [if_neg ha, if_neg ha]

/-- An object does not both make a button toggleable and give it the master off. -/
def Compatible (members : List (String × JsonT)) : Prop :=
  ∀ a ∈ members, ∀ b ∈ members, a.1 = "Toggleable" → a.2.isTrue = true → b.1 = "SID" →
    sceneIdOf b.2 ≠ masterOff

/-- **The properties of a button commute.** -/
theorem commuting_bankAfter {members : List (String × JsonT)} (hdistinct : DistinctKeys members)
    (hcompatible : Compatible members) : Commuting bankAfter members := by
  intro a ha b hb bank
  by_cases hkey : a.1 = b.1
  · rw [hdistinct.eq_of_fst ha hb hkey]
  -- the master off clears the flag, so that the other one must not set it
  have hflag (c d : String × JsonT) (hc : c ∈ members) (hd : d ∈ members)
      (hid : c.1 = "SID" ∧ sceneIdOf c.2 = masterOff) :
      fieldAfter "Toggleable" flagOf 0 d = 0 := by
    unfold fieldAfter flagOf
    split
    · rename_i htoggleable
      rw [if_neg fun htrue => hcompatible d hd c hc htoggleable htrue hid.1 hid.2]
    · rfl
  ext1
  · exact fieldAfter_comm "SID" sceneIdOf bank.sceneId hkey
  · dsimp only [bankAfter]
    by_cases hida : a.1 = "SID" ∧ sceneIdOf a.2 = masterOff
    · have hidb : ¬ (b.1 = "SID" ∧ sceneIdOf b.2 = masterOff) := fun hidb =>
        hkey (hida.1.trans hidb.1.symm)
      rw [if_pos hida, if_pos hida, if_neg hidb]
      exact hflag a b ha hb hida
    · rw [if_neg hida, if_neg hida]
      by_cases hidb : b.1 = "SID" ∧ sceneIdOf b.2 = masterOff
      · rw [if_pos hidb, if_pos hidb]
        exact (hflag b a hb ha hidb).symm
      · rw [if_neg hidb, if_neg hidb]
        exact fieldAfter_comm "Toggleable" flagOf bank.toggleable hkey
  · exact fieldAfter_comm "Toggled" flagOf bank.toggled hkey

theorem fieldAfter_idem {α : Type*} (key : String) (read : JsonT → α) (field : α)
    (a : String × JsonT) :
    fieldAfter key read (fieldAfter key read field a) a = fieldAfter key read field a := by
  unfold fieldAfter
  split <;> rfl

theorem bankAfter_idem (bank : SceneControllerBank) (a : String × JsonT) :
    bankAfter (bankAfter bank a) a = bankAfter bank a := by
  ext1
  · exact fieldAfter_idem "SID" sceneIdOf bank.sceneId a
  · dsimp only [bankAfter]
    split
    · rfl
    · exact fieldAfter_idem "Toggleable" flagOf bank.toggleable a
  · exact fieldAfter_idem "Toggled" flagOf bank.toggled a

/-! ### All properties of a button -/

/-- A property in a list clashes when it is its turn. -/
def clashesIn : SceneControllerBank → List (String × JsonT) → Bool
  | _, [] => false
  | bank, property :: members =>
    clashes bank property || clashesIn (bankAfter bank property) members

variable {bank : SceneControllerBank} {members : List (String × JsonT)}

/-- The check of a button. -/
theorem checkButton (h : members.all (bankAccepts get) = true) (p : SceneControllerProperties) :
    members.foldlM (handleIndividualBankListProperty get false i) p =
      .ok (setBank p i (members.foldl bankChecked (p.bank i))) := by
  induction members generalizing p with
  | nil => exact congrArg Except.ok (setBank_self p i).symm
  | cons property members ih =>
    rw [List.all_cons, Bool.and_eq_true] at h
    rw [List.foldlM_cons, handleIndividualBankListProperty_false h.1]
    refine (ih h.2 _).trans ?_
    rw [setBank_setBank, bank_setBank, Function.update_self, List.foldl_cons]

/-- The check of a button that is not accepted. -/
theorem checkButton_error (h : members.all (bankAccepts get) = false)
    (p : SceneControllerProperties) :
    ∃ error, members.foldlM (handleIndividualBankListProperty get false i) p = .error error :=
  foldlM_error (fun _ _ => handleIndividualBankListProperty_error) h p

/-- A button is set. -/
theorem setButton (h : members.all (bankAccepts get) = true) (p : SceneControllerProperties) :
    members.foldlM (handleIndividualBankListProperty get true i) p =
      if clashesIn (p.bank i) members then .error toggleableError
      else .ok (setBank p i (members.foldl bankAfter (p.bank i))) := by
  induction members generalizing p with
  | nil => exact congrArg Except.ok (setBank_self p i).symm
  | cons property members ih =>
    rw [List.all_cons, Bool.and_eq_true] at h
    rw [List.foldlM_cons, handleIndividualBankListProperty_true h.1, clashesIn]
    cases clashes (p.bank i) property with
    | true => rfl
    | false =>
      refine (ih h.2 _).trans ?_
      rw [setBank_setBank, bank_setBank, Function.update_self, List.foldl_cons, Bool.false_or]

/-! ### When a button is refused -/

/-- A button is made toggleable. -/
def SetsToggleable (members : List (String × JsonT)) : Prop :=
  ∃ a ∈ members, a.1 = "Toggleable" ∧ a.2.isTrue = true

instance : Decidable (SetsToggleable members) := inferInstanceAs (Decidable (∃ a ∈ _, _))

/-- The scenes that are set before `Toggleable`: those that the first pass sets, and those that come
before in the list. -/
def beforeToggleable (members : List (String × JsonT)) : List (String × JsonT) :=
  members.filter (fun a => a.1 = "SID" && isSpecial (sceneIdOf a.2)) ++
    members.takeWhile fun a => a.1 ≠ "Toggleable"

/-- The scene of a button when `Toggleable` is set. -/
def sceneAtToggleable (bank : SceneControllerBank) (members : List (String × JsonT)) : Byte :=
  (lastOf "SID" (beforeToggleable members)).elim bank.sceneId sceneIdOf

/-- A button is made toggleable while it has the master off. -/
def Refuses (bank : SceneControllerBank) (members : List (String × JsonT)) : Prop :=
  SetsToggleable members ∧ sceneAtToggleable bank members = masterOff

instance : Decidable (Refuses bank members) := inferInstanceAs (Decidable (_ ∧ _))

theorem foldl_sceneId (bank : SceneControllerBank) (members : List (String × JsonT)) :
    (members.foldl bankAfter bank).sceneId =
      members.foldl (fieldAfter "SID" sceneIdOf) bank.sceneId := by
  induction members generalizing bank with
  | nil => rfl
  | cons a members ih => exact ih _

theorem foldl_bankChecked (bank : SceneControllerBank) (members : List (String × JsonT)) :
    members.foldl bankChecked bank =
      (members.filter fun a => a.1 = "SID" && isSpecial (sceneIdOf a.2)).foldl bankAfter bank := by
  induction members generalizing bank with
  | nil => rfl
  | cons a members ih =>
    rw [List.foldl_cons, ih, List.filter_cons, bankChecked]
    by_cases h : a.1 = "SID" ∧ isSpecial (sceneIdOf a.2) = true
    · rw [if_pos h, if_pos (by simpa using h), List.foldl_cons]
    · rw [if_neg h, if_neg (by simpa using h)]

theorem not_clashesIn (h : ∀ a ∈ members, a.1 ≠ "Toggleable") :
    clashesIn bank members = false := by
  induction members generalizing bank with
  | nil => rfl
  | cons a members ih =>
    rw [clashesIn, ih fun b hb => h b (List.mem_cons_of_mem a hb), clashes,
      decide_eq_false (h a List.mem_cons_self)]
    rfl

theorem DistinctKeys.tail {a : String × JsonT} (h : DistinctKeys (a :: members)) :
    DistinctKeys members :=
  (List.nodup_cons.1 h).2

theorem DistinctKeys.head_ne {a b : String × JsonT} (h : DistinctKeys (a :: members))
    (hb : b ∈ members) : b.1 ≠ a.1 := by
  intro heq
  exact (List.nodup_cons.1 h).1 (List.mem_map.2 ⟨b, hb, heq⟩)

/-- When `Toggleable` clashes. -/
theorem clashesIn_iff (hdistinct : DistinctKeys members) :
    clashesIn bank members = true ↔ SetsToggleable members ∧
      ((members.takeWhile fun a => a.1 ≠ "Toggleable").foldl bankAfter bank).sceneId =
        masterOff := by
  induction members generalizing bank with
  | nil => simp [clashesIn, SetsToggleable]
  | cons a members ih =>
    rw [clashesIn, Bool.or_eq_true, clashes]
    by_cases ha : a.1 = "Toggleable"
    · have hrest (b) (hb : b ∈ members) : b.1 ≠ "Toggleable" := ha ▸ hdistinct.head_ne hb
      have hsets : SetsToggleable (a :: members) ↔ a.2.isTrue = true := by
        refine (List.exists_mem_cons_iff ..).trans ⟨fun h => ?_, fun h => .inl ⟨ha, h⟩⟩
        rcases h with h | ⟨b, hb, hkey, -⟩
        · exact h.2
        · exact absurd hkey (hrest b hb)
      rw [not_clashesIn hrest, hsets, List.takeWhile_cons]
      simp [ha]
    · have hsets : SetsToggleable (a :: members) ↔ SetsToggleable members := by
        exact (List.exists_mem_cons_iff ..).trans (or_iff_right fun h => ha h.1)
      rw [ih hdistinct.tail, hsets, List.takeWhile_cons]
      simp [ha]

/-- **When a button is refused**, which the check does not tell. -/
theorem clashesIn_checked_iff (hdistinct : DistinctKeys members) :
    clashesIn (members.foldl bankChecked bank) members = true ↔ Refuses bank members := by
  rw [clashesIn_iff hdistinct, foldl_bankChecked, ← List.foldl_append, foldl_sceneId,
    foldl_fieldAfter]
  rfl

/-- A value that is the only one with its key is the last one. -/
theorem lastOf_eq {key : String} {a : String × JsonT} (ha : a ∈ members) (hkey : a.1 = key)
    (honly : ∀ b ∈ members, b.1 = key → b = a) : lastOf key members = some a.2 := by
  have hne : members.filter (·.1 = key) ≠ [] :=
    List.ne_nil_of_mem (List.mem_filter.2 ⟨ha, decide_eq_true hkey⟩)
  have hlast := List.mem_filter.1 (List.getLast_mem hne)
  rw [lastOf, List.getLast?_eq_some_getLast hne, Option.map_some,
    honly _ hlast.1 (of_decide_eq_true hlast.2)]

theorem lastOf_eq_none {key : String} (h : ∀ a ∈ members, a.1 ≠ key) :
    lastOf key members = none := by
  rw [lastOf, List.filter_eq_nil_iff.2 fun a ha => by simpa using h a ha]
  rfl

theorem mem_of_beforeToggleable {a : String × JsonT} (ha : a ∈ beforeToggleable members) :
    a ∈ members := by
  rcases List.mem_append.1 ha with ha | ha
  · exact List.mem_of_mem_filter ha
  · exact (List.takeWhile_sublist _).subset ha

/-- The scene that is set before `Toggleable` is the one in the object. -/
theorem sceneAtToggleable_of_mem (hdistinct : DistinctKeys members) {a : String × JsonT}
    (ha : a ∈ beforeToggleable members) (hkey : a.1 = "SID") :
    sceneAtToggleable bank members = sceneIdOf a.2 := by
  rw [sceneAtToggleable, lastOf_eq ha hkey fun b hb hb' =>
    hdistinct.eq_of_fst (mem_of_beforeToggleable hb) (mem_of_beforeToggleable ha)
      (hb'.trans hkey.symm)]
  rfl

/-- If none is, it is the one that was there. -/
theorem sceneAtToggleable_of_not_mem (h : ∀ a ∈ beforeToggleable members, a.1 ≠ "SID") :
    sceneAtToggleable bank members = bank.sceneId := by
  rw [sceneAtToggleable, lastOf_eq_none h]
  rfl

/-- A button that is not refused has only what commutes. -/
theorem compatible_of_not_refuses (hdistinct : DistinctKeys members) (h : ¬ Refuses bank members) :
    Compatible members := by
  intro a ha b hb htoggleable htrue hid hoff
  refine h ⟨⟨a, ha, htoggleable, htrue⟩, ?_⟩
  have hspecial : isSpecial (sceneIdOf b.2) = true := by
    rw [hoff]
    decide
  have hfilter : b ∈ members.filter fun a => a.1 = "SID" && isSpecial (sceneIdOf a.2) :=
    List.mem_filter.2 ⟨hb, by simp [hid, hspecial]⟩
  rw [sceneAtToggleable_of_mem hdistinct (List.mem_append_left _ hfilter) hid, hoff]

/-- A button with the master off is made toggleable and given a scene. -/
def OrderMatters (bank : SceneControllerBank) (members : List (String × JsonT)) : Prop :=
  SetsToggleable members ∧
    (∃ a ∈ members, a.1 = "SID" ∧ isSpecial (sceneIdOf a.2) = false) ∧ bank.sceneId = masterOff

/-- Only then are there orders in which it is refused and orders in which it is not. -/
theorem orderMatters_of_refuses {members' : List (String × JsonT)}
    (hdistinct : DistinctKeys members) (hperm : members.Perm members')
    (hnot : ¬ Refuses bank members) (h : Refuses bank members') : OrderMatters bank members := by
  obtain ⟨⟨a, ha, htoggleable⟩, hscene⟩ := h
  have hsets : SetsToggleable members := ⟨a, hperm.mem_iff.2 ha, htoggleable⟩
  by_cases hnone : ∀ a ∈ members, a.1 ≠ "SID"
  · have hnone' (a) (ha : a ∈ beforeToggleable members') : a.1 ≠ "SID" :=
      hnone a (hperm.mem_iff.2 (mem_of_beforeToggleable ha))
    rw [sceneAtToggleable_of_not_mem hnone'] at hscene
    refine absurd ⟨hsets, ?_⟩ hnot
    rw [sceneAtToggleable_of_not_mem fun a ha => hnone a (mem_of_beforeToggleable ha), hscene]
  · push Not at hnone
    obtain ⟨b, hb, hid⟩ := hnone
    have hb' : b ∈ members' := hperm.mem_iff.1 hb
    have honly (c) (hc : c ∈ members') (hkey : c.1 = "SID") : c = b :=
      (hdistinct.of_perm hperm).eq_of_fst hc hb' (hkey.trans hid.symm)
    -- the scene of the object is not the master off, or the button is refused in any order
    have hoff : sceneIdOf b.2 ≠ masterOff := by
      obtain ⟨c, hc, hkey, htrue⟩ := hsets
      exact compatible_of_not_refuses hdistinct hnot c hc b hb hkey htrue hid
    have hbefore : ∀ c ∈ beforeToggleable members', c.1 ≠ "SID" := by
      intro c hc hkey
      rw [sceneAtToggleable_of_mem (hdistinct.of_perm hperm) hc hkey,
        honly c (mem_of_beforeToggleable hc) hkey] at hscene
      exact hoff hscene
    refine ⟨hsets, ⟨b, hb, hid, ?_⟩, ?_⟩
    · rw [← Bool.not_eq_true]
      intro hspecial
      refine hbefore b (List.mem_append_left _ (List.mem_filter.2 ⟨hb', ?_⟩)) hid
      simp [hid, hspecial]
    · rwa [sceneAtToggleable_of_not_mem hbefore] at hscene

/-- **If the order matters, it is refused in some order.** -/
theorem OrderMatters.exists_refuses (hdistinct : DistinctKeys members)
    (h : OrderMatters bank members) :
    ∃ members', members.Perm members' ∧ Refuses bank members' := by
  obtain ⟨⟨a, ha, hkey, htrue⟩, ⟨b, hb, hid, hspecial⟩, hoff⟩ := h
  obtain ⟨rest, hperm⟩ := exists_perm_cons ha
  refine ⟨a :: rest, hperm, ⟨a, List.mem_cons_self, hkey, htrue⟩, ?_⟩
  rw [sceneAtToggleable_of_not_mem, hoff]
  intro c hc hc'
  -- the only scene in the object is not set by the first pass, and `Toggleable` comes first
  have hcb : c = b := hdistinct.eq_of_fst (hperm.mem_iff.2 (mem_of_beforeToggleable hc)) hb
    (hc'.trans hid.symm)
  rcases List.mem_append.1 hc with hc | hc
  · rw [hcb] at hc
    simp [hspecial] at hc
  · rw [List.takeWhile_cons, if_neg (by simp [hkey])] at hc
    exact absurd hc List.not_mem_nil

/-- What the check has set is set again. -/
theorem foldl_bankAfter_checked (hdistinct : DistinctKeys members)
    (hcompatible : Compatible members) (bank : SceneControllerBank) :
    members.foldl bankAfter (members.foldl bankChecked bank) = members.foldl bankAfter bank := by
  rw [foldl_bankChecked]
  exact foldl_absorb_all (commuting_bankAfter hdistinct hcompatible)
    (fun a _ bank => bankAfter_idem bank a) (fun a => List.mem_of_mem_filter) bank

end Bank

end House

end Lcm
