import Lcm.House.Frames
import Lcm.Rf.Ramp

/-!
# A ramp for all zones

`HandleTriggerRampAllCommand` sends one frame for all lights and then changes the zones itself, with
another function than the one for a ramp that is received for a zone.

## Main definitions

* `buildRampAll` : the frame.
* `RampAllAgrees` : the zones become what a ramp to the level makes of them, and the frame has it.
* `LevelKnown` : the condition on a dimmer.

## Main results

* `agrees_iff` : the dimmers that become the same in both ways.
* `rampAllAgrees_iff` : the commands that agree.
-/

namespace Lcm

namespace House

open Rf (PayloadBuffer rampHeader addressByte0 rampFunctionByte powerOfPercent percentOfPower)

/-! ### The frame -/

/-- `BuildRampAll`: the bytes that it sends, and how many there are. -/
def buildRampAll (payload : ℕ → Byte) (buildingId roomId houseId powerLevel : Byte) :
    (ℕ → Byte) × Byte :=
  let p : PayloadBuffer := ⟨payload, 0⟩
  let p := (((p.push 0x86).push 0xB4).push 0x00).push rampHeader
  let p := p.push (addressByte0 buildingId houseId)
  let p := p.push (((houseId <<< 5) &&& 0xE0) ||| 0x10 ||| ((roomId >>> 3) &&& 0x07))
  let p := p.push ((roomId <<< 5) &&& 0xE0)
  let p := p.push rampFunctionByte
  let p := p.push (powerOfPercent powerLevel)
  let p := (p.push 50).push dimmerType
  let crcValue := updateCRC8 0 (fun i => p.payload (3 + i)) (p.payldCt - 3).toNat
  let p := (p.push crcValue).push (~~~crcValue)
  (Function.update p.payload 2 (p.payldCt - 3), p.payldCt)

/-- What `HandleTriggerRampAllCommand` sends, if the level is accepted. -/
def rampAllFrame (st : State) (root : JsonT) (payload : ℕ → Byte) : Option ((ℕ → Byte) × Byte) :=
  match powerLevelField root with
  | .error _ => none
  | .ok value =>
    if value.toInt < 0 ∨ 100 < value.toInt then none
    else some (buildRampAll payload 0 0 st.global_houseID (value.setWidth 8))

/-! ### The purpose of the command -/

/-- Two zones have the same state, target state, level and target level. -/
structure SameOutput (p q : ZoneProperties) : Prop where
  state : p.state = q.state
  targetState : p.targetState = q.targetState
  powerLevel : p.powerLevel = q.powerLevel
  targetPowerLevel : p.targetPowerLevel = q.targetPowerLevel

/-- A switch is on, at 100, or off. -/
def OnOrOff (p : ZoneProperties) : Prop :=
  p.state = true ∧ p.targetState = true ∧ p.powerLevel = 100 ∧ p.targetPowerLevel = 100 ∨
    p.state = false ∧ p.targetState = false

/-- **The zones agree** after a ramp of all of them to a level: a dimmer is as after a ramp that is
received for it, a switch is on or off, and what is neither is as before. -/
def ZonesAgree (value : Byte) (st st' : State) : Prop :=
  ∀ i : Byte, match st.zones.get i.toNat with
    | none => st'.zones.get i.toNat = none
    | some p => ∃ q, st'.zones.get i.toNat = some q ∧
      if p.deviceType = dimmerType then
        ∃ r, (handleTargetValue st value i).zones.get i.toNat = some r ∧ SameOutput q r
      else if p.deviceType = switchType then OnOrOff q
      else q = p

/-- **The frame has the level**, scaled; whoever decodes it gets the level. -/
def FrameAgrees (value : Byte) (frame : (ℕ → Byte) × Byte) : Prop :=
  frame.1 8 = powerOfPercent value ∧ percentOfPower (frame.1 8) = value

/-- **The command agrees** with the ramps that it stands for, if its level is from 0 to 100. -/
def RampAllAgrees (st : State) (root : JsonT) (payload : ℕ → Byte) : Prop :=
  ∀ value, root.get "PowerLevel" = some (.integer value) → 0 ≤ value.toInt → value.toInt ≤ 100 →
    ZonesAgree (value.setWidth 8) st (handleTriggerRampAllCommand st root).1 ∧
      ∃ frame, rampAllFrame st root payload = some frame ∧ FrameAgrees (value.setWidth 8) frame

/-- **A dimmer has the level already**, unless it is 0 or 100, and there is no change under way that
a ramp would not end: its target state is its state where the ramp keeps the state, and its target
level is 100 where it is at 100. -/
def LevelKnown (value : Byte) (p : ZoneProperties) : Prop :=
  if value = 0 then p.state = false → p.targetState = false
  else (p.state = true → p.targetState = true) ∧
    if value = 100 then p.powerLevel = 100 → p.targetPowerLevel = 100 else p.powerLevel = value

/-- The level of a command is known to all dimmers. -/
def LevelsKnown (st : State) (root : JsonT) : Prop :=
  ∀ value, root.get "PowerLevel" = some (.integer value) → 0 ≤ value.toInt → value.toInt ≤ 100 →
    ∀ i p, st.zones.get i = some p → p.deviceType = dimmerType → LevelKnown (value.setWidth 8) p

variable {st : State} {root : JsonT} {payload : ℕ → Byte} {p : ZoneProperties} {value : Byte}

/-! ### One zone -/

theorem sameOutput_iff {p q : ZoneProperties} : SameOutput p q ↔
    p.state = q.state ∧ p.targetState = q.targetState ∧ p.powerLevel = q.powerLevel ∧
      p.targetPowerLevel = q.targetPowerLevel :=
  ⟨fun h => ⟨h.state, h.targetState, h.powerLevel, h.targetPowerLevel⟩,
    fun ⟨hs, ht, hp, hl⟩ => ⟨hs, ht, hp, hl⟩⟩

/-- What a ramp to 0 makes of a zone. -/
theorem targetValue_zero (p : ZoneProperties) :
    (targetValue 0 p).state = false ∧ (targetValue 0 p).targetState = (!p.state && p.targetState) ∧
      (targetValue 0 p).powerLevel = p.powerLevel ∧
      (targetValue 0 p).targetPowerLevel = p.targetPowerLevel := by
  unfold targetValue
  cases hstate : p.state <;> simp [hstate]

/-- What a ramp to another level makes of it. -/
theorem targetValue_of_ne (h : value ≠ 0) (p : ZoneProperties) :
    (targetValue value p).state = true ∧
      (targetValue value p).targetState = (!p.state || p.targetState) ∧
      (targetValue value p).powerLevel = value ∧
      (targetValue value p).targetPowerLevel =
        if p.powerLevel = value then p.targetPowerLevel else value := by
  unfold targetValue
  rw [if_pos h]
  cases hstate : p.state <;> by_cases hlevel : p.powerLevel = value <;> simp [hstate, hlevel]

/-- **A dimmer becomes the same** in both ways exactly if the level is known to it. -/
theorem agrees_iff (hdimmer : p.deviceType = dimmerType) :
    SameOutput (targetValueAll value p) (targetValue value p) ↔ LevelKnown value p := by
  have hswitch : p.deviceType ≠ switchType := by
    rw [hdimmer]
    decide
  rw [sameOutput_iff, LevelKnown, targetValueAll, if_neg hswitch, if_pos hdimmer]
  by_cases hzero : value = 0
  · obtain ⟨hstate, htarget, hlevel, htargetLevel⟩ := targetValue_zero p
    rw [hzero, hstate, htarget, hlevel, htargetLevel]
    cases p.state <;> simp
  have hpos : 0 < value := by bv_omega
  obtain ⟨hstate, htarget, hlevel, htargetLevel⟩ := targetValue_of_ne hzero p
  rw [hstate, htarget, hlevel, htargetLevel, if_neg hzero]
  simp only [decide_eq_true hpos]
  by_cases hfull : value = 100
  · have hlevels : value = p.targetPowerLevel ↔ p.targetPowerLevel = value := eq_comm
    rw [if_pos hfull, if_pos hfull, ← hfull]
    by_cases hknown : p.powerLevel = value
    · cases p.state <;> simp [hknown, hlevels]
    · cases p.state <;> simp [hknown]
  · rw [if_neg hfull, if_neg hfull]
    by_cases hknown : p.powerLevel = value
    · rw [if_pos hknown]
      cases p.state <;> simp [hknown]
    · cases p.state <;> simp [hknown]

theorem onOrOff_targetValueAll (hswitch : p.deviceType = switchType) (value : Byte) :
    OnOrOff (targetValueAll value p) := by
  unfold targetValueAll
  rw [if_pos hswitch]
  split
  · exact .inl ⟨rfl, rfl, rfl, rfl⟩
  · exact .inr ⟨rfl, rfl⟩

/-! ### The frame -/

theorem frameAgrees_buildRampAll (payload : ℕ → Byte) (buildingId roomId houseId : Byte)
    (h : value ≤ 100) :
    FrameAgrees value (buildRampAll payload buildingId roomId houseId value) := by
  have hlevel : (buildRampAll payload buildingId roomId houseId value).1 8 =
      powerOfPercent value := by
    rfl
  exact ⟨hlevel, by rw [hlevel, Rf.percentOfPower_powerOfPercent h]⟩

/-! ### The command -/

theorem handleTriggerRampAllCommand_eq (st : State) (payload : ℕ → Byte) {value : BitVec 64}
    (hlevel : root.get "PowerLevel" = some (.integer value)) (hlow : 0 ≤ value.toInt)
    (hhigh : value.toInt ≤ 100) :
    (handleTriggerRampAllCommand st root).1 = { st with
      zones := st.zones.map (targetValueAll (value.setWidth 8)) (zoneNamed_targetValueAll _) } ∧
    rampAllFrame st root payload =
      some (buildRampAll payload 0 0 st.global_houseID (value.setWidth 8)) := by
  have hfield : powerLevelField root = .ok value := by
    rw [powerLevelField, integerField, hlevel]
    rfl
  have hrange : ¬(value.toInt < 0 ∨ 100 < value.toInt) := by omega
  rw [handleTriggerRampAllCommand, rampAllFrame, hfield]
  exact ⟨congrArg Prod.fst (if_neg hrange), if_neg hrange⟩

/-- The level of an accepted command is its low byte. -/
theorem setWidth_le {value : BitVec 64} (hlow : 0 ≤ value.toInt) (hhigh : value.toInt ≤ 100) :
    (value.setWidth 8 : Byte) ≤ 100 := by
  have hsize := value.isLt
  rw [BitVec.toInt_eq_toNat_cond] at hlow hhigh
  rw [BitVec.le_def, BitVec.toNat_setWidth]
  change _ ≤ 100
  split at hlow <;> omega

theorem zonesAgree_iff :
    ZonesAgree value st { st with
      zones := st.zones.map (targetValueAll value) (zoneNamed_targetValueAll _) } ↔
      ∀ i p, st.zones.get i = some p → p.deviceType = dimmerType → LevelKnown value p := by
  have hafter (i : ℕ) (p : ZoneProperties) (hp : st.zones.get i = some p) :
      (st.zones.map (targetValueAll value) (zoneNamed_targetValueAll _)).get i =
        some (targetValueAll value p) := by
    exact congrArg (Option.map _) hp
  have hramp (i : Byte) (p : ZoneProperties) (hp : st.zones.get i.toNat = some p) :
      (handleTargetValue st value i).zones.get i.toNat = some (targetValue value p) := by
    rw [handleTargetValue, State.getZoneProperties, hp]
    exact Table.get_set_named (Table.lt_of_get hp)
      ((zoneNamed_congr (deviceOf_targetValue value p)).trans (st.zones.named_of_get _ _ hp))
  constructor
  · intro h i p hp hdimmer
    have hi : i < maxNumberOfZones := Table.lt_of_get hp
    obtain ⟨i, rfl⟩ : ∃ j : Byte, i = j.toNat :=
      ⟨BitVec.ofNat 8 i, (toNat_ofNat_of_lt (Nat.lt_trans hi (by decide))).symm⟩
    have hagree := h i
    rw [hp] at hagree
    obtain ⟨q, hq, hagree⟩ := hagree
    obtain ⟨r, hr, hsame⟩ := (if_pos hdimmer).mp hagree
    rw [← agrees_iff hdimmer, Option.some.inj ((hafter _ p hp).symm.trans hq),
      Option.some.inj ((hramp i p hp).symm.trans hr)]
    exact hsame
  · intro h i
    cases hp : st.zones.get i.toNat with
    | none => exact (congrArg (Option.map _) hp).trans rfl
    | some p =>
      refine ⟨targetValueAll value p, hafter _ p hp, ?_⟩
      by_cases hdimmer : p.deviceType = dimmerType
      · rw [if_pos hdimmer]
        exact ⟨targetValue value p, hramp i p hp, (agrees_iff hdimmer).2 (h _ p hp hdimmer)⟩
      rw [if_neg hdimmer]
      by_cases hswitch : p.deviceType = switchType
      · rw [if_pos hswitch]
        exact onOrOff_targetValueAll hswitch value
      · rw [if_neg hswitch, targetValueAll, if_neg hswitch, if_neg hdimmer]

/-- **The commands that agree** with the ramps they stand for are those whose level is known to all
dimmers. -/
theorem rampAllAgrees_iff (st : State) (root : JsonT) (payload : ℕ → Byte) :
    RampAllAgrees st root payload ↔ LevelsKnown st root := by
  refine forall₄_congr fun value hlevel hlow hhigh => ?_
  obtain ⟨hstate, hframe⟩ := handleTriggerRampAllCommand_eq st payload hlevel hlow hhigh
  rw [hstate, zonesAgree_iff, and_iff_left_iff_imp]
  exact fun _ => ⟨_, hframe, frameAgrees_buildRampAll _ _ _ _ (setWidth_le hlow hhigh)⟩

/-- A dimmer, on at 100. -/
def dimmer : ZoneProperties := newZone 0 1 5 1 100 dimmerType (CString.empty eliotDeviceIdSize_pos)

/-- **A ramp of all to 50** leaves the dimmer at 100, where the ramp of its zone sets it to 50. -/
theorem not_rampAllAgrees : ¬ ∀ st root payload, RampAllAgrees st root payload := by
  intro h
  have hlevel : (JsonT.object [("PowerLevel", .integer 50)]).get "PowerLevel" =
      some (.integer 50) := rfl
  have hagree := (h (State.initial.setZoneProperties 0 dimmer) _ (fun _ => 0) 50 hlevel (by decide)
    (by decide)).1
  obtain ⟨hstate, -⟩ := handleTriggerRampAllCommand_eq
    (State.initial.setZoneProperties 0 dimmer) (fun _ => 0) hlevel (by decide) (by decide)
  rw [hstate, zonesAgree_iff] at hagree
  have hknown := hagree 0 dimmer
    (Table.get_set_named (by decide) (by decide +kernel)) (by decide +kernel)
  rw [LevelKnown, if_neg (by decide), if_neg (by decide)] at hknown
  exact absurd hknown.2 (by decide +kernel)

end House

end Lcm
