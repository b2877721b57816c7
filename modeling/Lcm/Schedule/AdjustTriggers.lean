import Lcm.Schedule.Trigger

/-!
# Adjusting the triggers

When the local time changes, so do the times of sunrise and sunset, and `adjustTriggers` changes the
next trigger of each scene that depends on them.  It does so with `SetSceneProperties`, which can
only set a scene whose id for the cloud has a slot and is stored there.

## Main definitions

* `SunBased` : the scenes whose triggers are adjusted.
* `adjustTriggers` : the function of the source.
* `Adjustable` : all these scenes can be set.

## Main results

* `adjustTriggers_spec` : then all their triggers are adjusted, and nothing else.
-/

namespace Lcm

namespace Schedule

open Flash Scenes Store

/-- The scene has a name, and its trigger is not a regular time. -/
def SunBased (p : SceneProperties) : Prop :=
  p.SceneNameString.chars ≠ [] ∧ p.trigger ≠ REGULAR_TIME

instance : DecidablePred SunBased := fun _ => inferInstanceAs (Decidable (_ ∧ _))

/-- The loop of `adjustTriggers`, for one scene. -/
def adjustTrigger (adjustment : Dword) (garbage : Garbage) (st : Store.State Byte)
    (sceneIdx : ℕ) : Option (Store.State Byte) :=
  match scenes.getProperties st sceneIdx with
  | some p =>
    if SunBased p then
      (scenes.setProperties st sceneIdx
        { p with nextTriggerTime := p.nextTriggerTime + adjustment, fits := p.zones_fit }
        garbage).map Prod.snd
    else some st
  | none => some st

/-- `adjustTriggers`, without the broadcasts; nothing if it writes behind an array -/
def adjustTriggers (adjustment : Dword) (garbage : ℕ → Garbage) (st : Store.State Byte) :
    Option (Store.State Byte) :=
  (List.range scenes.maxNumber).foldlM
    (fun st sceneIdx => adjustTrigger adjustment (garbage sceneIdx) st sceneIdx) st

/-- A scene with its trigger adjusted. -/
def adjusted (adjustment : Dword) (p : SceneProperties) : SceneProperties :=
  if SunBased p then
    { p with nextTriggerTime := p.nextTriggerTime + adjustment, fits := p.zones_fit }
  else p

/-- The id of a scene has a slot, and is stored there. -/
def IdStored (st : Store.State Byte) (sceneIdx : ℕ) (p : SceneProperties) : Prop :=
  sceneIdx < 50 ∧ strncmpEq eliotDeviceIdSize p.EliotDeviceId.bytes
    (bytesAt st.memory (eliotSceneRegion.address sceneIdx + 8)) = true

/-- All scenes whose triggers are adjusted can be set. -/
def Adjustable (st : Store.State Byte) : Prop :=
  ∀ sceneIdx p, scenes.getProperties st sceneIdx = some p → SunBased p → IdStored st sceneIdx p

variable {st st' : Store.State Byte} {sceneIdx : ℕ} {p : SceneProperties}

/-- What is got for a scene belongs to a record. -/
theorem value_of_getProperties {values : ℕ → Option NonvolatileSceneProperties}
    {ids : ℕ → Option (CString eliotDeviceIdSize)} (h : scenes.Holds st values ids)
    (hp : scenes.getProperties st sceneIdx = some p) :
    sceneIdx < 100 ∧ values sceneIdx ≠ none := by
  have hi : sceneIdx < 100 := by
    by_contra hi
    rw [Kind.getProperties_of_le hi] at hp
    cases hp
  refine ⟨hi, fun hnone => ?_⟩
  rw [h.getProperties scenes_fits hi, hnone] at hp
  cases hp

/-- **One scene is adjusted.** -/
theorem adjustTrigger_spec (h : scenes.Inv st) (adjustment : Dword) (garbage : Garbage)
    (hstored : ∀ p, scenes.getProperties st sceneIdx = some p → SunBased p →
      IdStored st sceneIdx p) :
    ∃ st', adjustTrigger adjustment garbage st sceneIdx = some st' ∧ scenes.Inv st' ∧
      scenes.getProperties st' = Function.update (scenes.getProperties st) sceneIdx
        ((scenes.getProperties st sceneIdx).map (adjusted adjustment)) ∧
      ∀ j, bytesAt st'.memory (eliotSceneRegion.address j + 8) =
        bytesAt st.memory (eliotSceneRegion.address j + 8) := by
  unfold adjustTrigger
  cases hp : scenes.getProperties st sceneIdx with
  | none =>
    refine ⟨st, rfl, h, ?_, fun _ => rfl⟩
    rw [Option.map_none, ← hp, Function.update_eq_self]
  | some p =>
    dsimp only
    by_cases hsun : SunBased p
    · obtain ⟨hslot, hsame⟩ := hstored p hp hsun
      obtain ⟨values, ids, hholds⟩ := id h
      obtain ⟨hi, hv⟩ := value_of_getProperties hholds hp
      have hrange : scenes.eliotRegion.InRange sceneIdx := eliotSceneRegion_inRange_iff.2 hslot
      have hsame : eliotCodec.same
          (scenes.EliotDeviceId { p with nextTriggerTime := p.nextTriggerTime + adjustment })
          (bytesAt st.memory (scenes.eliotRegion.address sceneIdx + 8)) = true := hsame
      have husable : scenes.Usable st sceneIdx
          { p with nextTriggerTime := p.nextTriggerTime + adjustment } :=
        (hholds.usable_iff_of_ne_none scenes_fits hi hrange hv).2 (.inl hsame)
      obtain ⟨st', hset, hget, -⟩ := hholds.roundTrip scenes_fits hi husable garbage
      have hinv := h.next scenes_fits (.set sceneIdx _ garbage) fun _ => husable
      simp only [Kind.next, hset, Option.map_some, Option.getD_some] at hinv
      rw [if_pos hsun, hset]
      refine ⟨st', rfl, hinv, ?_, hholds.set_eliot_bytes scenes_fits hi hrange hv hsame hset⟩
      rw [hget, Option.map_some, adjusted, if_pos hsun, Kind.stored, if_pos]
      exact decide_eq_true hsun.1
    · rw [if_neg hsun]
      refine ⟨st, rfl, h, ?_, fun _ => rfl⟩
      rw [Option.map_some, adjusted, if_neg hsun, ← hp, Function.update_eq_self]

/-- Scenes of a list, each of them once, are adjusted. -/
theorem adjustTriggers_list (h : scenes.Inv st) (adjustment : Dword) (garbage : ℕ → Garbage)
    {l : List ℕ} (hl : l.Nodup)
    (hstored : ∀ i ∈ l, ∀ p, scenes.getProperties st i = some p → SunBased p → IdStored st i p) :
    ∃ st', l.foldlM (fun st i => adjustTrigger adjustment (garbage i) st i) st = some st' ∧
      scenes.Inv st' ∧ (∀ i ∈ l, scenes.getProperties st' i =
        (scenes.getProperties st i).map (adjusted adjustment)) ∧
      ∀ i ∉ l, scenes.getProperties st' i = scenes.getProperties st i := by
  induction l generalizing st with
  | nil => exact ⟨st, rfl, h, nofun, fun _ _ => rfl⟩
  | cons i l ih =>
    obtain ⟨hi, hl⟩ := List.nodup_cons.1 hl
    obtain ⟨st₁, hstep, hinv, hget, hbytes⟩ :=
      adjustTrigger_spec h adjustment (garbage i) (hstored i (List.mem_cons_self ..))
    have hother : ∀ j ∈ l, scenes.getProperties st₁ j = scenes.getProperties st j := by
      intro j hj
      have hne : j ≠ i := fun hji => hi (hji ▸ hj)
      rw [hget, Function.update_of_ne hne]
    obtain ⟨st', hrun, hinv', hmem, hnot⟩ := ih hinv hl fun j hj p hp hsun => by
      rw [hother j hj] at hp
      have hstored := hstored j (List.mem_cons_of_mem _ hj) p hp hsun
      rwa [IdStored, hbytes j]
    refine ⟨st', ?_, hinv', ?_, ?_⟩
    · rw [List.foldlM_cons, hstep]
      exact hrun
    · intro j hj
      rcases List.mem_cons.1 hj with rfl | hj
      · rw [hnot j hi, hget, Function.update_self]
      · rw [hmem j hj, hother j hj]
    · intro j hj
      have hne : j ≠ i := fun hji => hj (hji ▸ List.mem_cons_self ..)
      rw [hnot j fun hmem => hj (List.mem_cons_of_mem _ hmem), hget, Function.update_of_ne hne]

/-- **All triggers are adjusted**, and nothing else is changed. -/
theorem adjustTriggers_spec (h : scenes.Inv st) (hstored : Adjustable st) (adjustment : Dword)
    (garbage : ℕ → Garbage) :
    ∃ st', adjustTriggers adjustment garbage st = some st' ∧ scenes.Inv st' ∧
      ∀ i, scenes.getProperties st' i = (scenes.getProperties st i).map (adjusted adjustment) := by
  obtain ⟨st', hrun, hinv, hmem, hnot⟩ := adjustTriggers_list h adjustment garbage
    (List.nodup_range (n := scenes.maxNumber)) fun i _ => hstored i
  refine ⟨st', hrun, hinv, fun i => ?_⟩
  by_cases hi : i < scenes.maxNumber
  · exact hmem i (List.mem_range.2 hi)
  · rw [Kind.getProperties_of_le hi, Kind.getProperties_of_le hi]
    rfl

/-- Nothing is stored in a slot without an id. -/
theorem not_idStored {values : ℕ → Option NonvolatileSceneProperties}
    {ids : ℕ → Option (CString eliotDeviceIdSize)} (h : scenes.Holds st values ids)
    (hid : ids sceneIdx = none) : ¬ IdStored st sceneIdx p := by
  rintro ⟨hslot, hsame⟩
  have huninit := h.eliotUninitialized_iff scenes_fits (eliotSceneRegion_inRange_iff.2 hslot)
  have hinit : ¬ Uninitialized eliotDeviceIdSize
      (bytesAt st.memory (eliotSceneRegion.address sceneIdx + 8)) :=
    eliotCodec.initialized_of_same (v := p.EliotDeviceId) hsame
  exact hinit (huninit.2 hid)

/-- **A scene whose id is not stored** makes the loop write behind an array. -/
theorem adjustTrigger_eq_none {values : ℕ → Option NonvolatileSceneProperties}
    {ids : ℕ → Option (CString eliotDeviceIdSize)} (h : scenes.Holds st values ids)
    (hp : scenes.getProperties st sceneIdx = some p) (hsun : SunBased p) (hslot : sceneIdx < 50)
    (hnot : ¬ IdStored st sceneIdx p) (adjustment : Dword) (garbage : Garbage) :
    adjustTrigger adjustment garbage st sceneIdx = none := by
  obtain ⟨hi, hv⟩ := value_of_getProperties h hp
  have hrange : scenes.eliotRegion.InRange sceneIdx := eliotSceneRegion_inRange_iff.2 hslot
  have hroom : ¬ scenes.eliotRegion.perSector ≤ scenes.eliotArraySize := by decide
  unfold adjustTrigger
  rw [hp]
  dsimp only
  rw [if_pos hsun, h.setProperties_eq scenes_fits hi hrange hv]
  obtain ⟨hsame, -⟩ | ⟨-, hset⟩ := Kind.setOld_spec scenes_fits hi hrange h.models h.eliotModels
    { p with nextTriggerTime := p.nextTriggerTime + adjustment } garbage
  · exact absurd ⟨hslot, hsame.resolve_right hroom⟩ hnot
  · rw [hset]
    rfl

end Schedule

end Lcm
