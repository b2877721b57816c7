import Lcm.House.Addresses
import Mathlib.Data.List.TakeWhile

/-!
# What an execution is asked for

`ExecuteScene` is called to activate a scene, to adjust the levels of its zones, or to deactivate
it.  The ramp rate that it is called with is meant for the last, where a variable of the function
hides it; the levels are adjusted in 8 bits.

## Main definitions

* `Requested` : what a call asks for, for a zone of the scene.
* `stateAfter` : the state after some rounds of the loop over the zones.
* `SetsRequested` : the zones get what is asked for, one message each, and no other zone changes.
* `EntryFits`, `Fits` : the condition on the calls and the zones.

## Main results

* `requested_iff` : the zones that get what is asked for in their round.
* `get_stateAfter_succ` : what a round leaves of the zones.
* `messages_iff` : the zones get their messages exactly if all of these can be sent.
* `setsRequested_iff` : the executions that do what is asked for.
-/

namespace Lcm

namespace House

open Scenes SceneControllers
open Rf (slowDeactivationRampValue)

/-! ### The purpose of an execution -/

/-- **What a call asks for**: how a zone of the scene is before and after its round.  The sum and
the difference of the levels are of natural numbers. -/
def Requested (x : Execution) (zone : ZoneInScene) (q q' : ZoneProperties) : Prop :=
  if x.activate then
    if x.value = 0 then
      q'.targetPowerLevel = zone.powerLevel ∧ q'.targetState = decide (zone.state ≠ 0) ∧
        q'.rampRate = zone.rampRate
    else if q.state then
      q'.targetPowerLevel.toNat =
        if x.change = 1 then min 100 (q.powerLevel.toNat + x.value.toNat)
        else min 100 (q.powerLevel.toNat - x.value.toNat)
    else q'.targetPowerLevel = q.targetPowerLevel ∧ q'.targetState = q.targetState
  else
    q'.targetState = false ∧
      q'.rampRate =
        if x.rampRate = slowDeactivationRampValue then slowDeactivationRampValue else q.rampRate

/-- The state after the first rounds of the loop over the zones. -/
def stateAfter (x : Execution) (env : ExecutionEnv) (st : State) (p : SceneProperties)
    (zoneIndex : ℕ) : State :=
  if starts env.objects p then
    (executeZones x (sceneRampRate p.zoneData) (st.runs + 1) p.zoneData.length env.rounds 0
      (p.zoneData.take zoneIndex) { st with runs := st.runs + 1 } 1).1
  else st

/-- The entries of a scene whose zones exist, with their positions in the scene. -/
def existing (st : State) (zoneData : List ZoneInScene) : List (ZoneInScene × ℕ) :=
  zoneData.zipIdx.filter fun entry => (st.getZoneProperties entry.1.zoneId).isSome

/-- The message for an entry of a scene: it is addressed to its zone, and carries 100 percent
exactly if the entry is the last one. -/
structure MessageFor (x : Execution) (st : State) (numZonesInScene : ℕ)
    (entry : ZoneInScene × ℕ) (m : RampMessage) : Prop where
  address : HasAddress st entry.1.zoneId.toNat m.address
  sceneId : m.sceneId = x.sceneIndex
  scenePercent : m.scenePercent = 100 ↔ entry.2 + 1 = numZonesInScene

/-- **The zones get what a call asks for.** -/
structure SetsRequested (x : Execution) (env : ExecutionEnv) (st : State) (p : SceneProperties) :
    Prop where
  /-- Each existing zone, in its round. -/
  targets : ∀ (zoneIndex : ℕ) (zone : ZoneInScene) (q : ZoneProperties),
    p.zoneData[zoneIndex]? = some zone →
      (stateAfter x env st p zoneIndex).getZoneProperties zone.zoneId = some q →
      ∃ q', (stateAfter x env st p (zoneIndex + 1)).getZoneProperties zone.zoneId = some q' ∧
        Requested x zone q q'
  /-- A round changes no other zone. -/
  round : ∀ (zoneIndex : ℕ) (zone : ZoneInScene) (i : ℕ),
    p.zoneData[zoneIndex]? = some zone → i ≠ zone.zoneId.toNat →
      (stateAfter x env st p (zoneIndex + 1)).zones.get i =
        (stateAfter x env st p zoneIndex).zones.get i
  /-- The last round leaves the zones as they are in the end. -/
  final : (executeScene x env st p).1.zones = (stateAfter x env st p p.zoneData.length).zones
  /-- One message is queued for each existing zone, in order. -/
  messages : ∃ ms, (executeScene x env st p).1.transmitQueue = st.transmitQueue ++ ms ∧
    List.Forall₂ (MessageFor x st p.zoneData.length) (existing st p.zoneData) ms
  /-- A zone that is not listed does not change. -/
  others : ∀ i, (∀ zone ∈ p.zoneData, zone.zoneId.toNat ≠ i) →
    (executeScene x env st p).1.zones.get i = st.zones.get i

/-- **A call does what it asks for**, if the scene is not running. -/
def ExecutesRequested (x : Execution) (env : ExecutionEnv) (st : State) (p : SceneProperties) :
    Prop :=
  p.running ≠ 1 → SetsRequested x env st p

/-! ### The condition -/

/-- **A call fits an entry of the scene and its zone**: a level of the scene that is cut off at 100
is at most 100, the sum and the difference of an adjustment do not wrap, and the ramp rate that a
scene is deactivated with is the slow one exactly if the one of the scene is, unless the zone has
the slow one already. -/
def EntryFits (x : Execution) (rampRate : Byte) (zone : ZoneInScene) (q : ZoneProperties) : Prop :=
  if x.activate then
    if x.value = 0 then x.change = 1 → zone.powerLevel ≤ maxPowerLevel
    else if q.state then
      if x.change = 1 then
        q.powerLevel.toNat + x.value.toNat < 256 ∨ 356 ≤ q.powerLevel.toNat + x.value.toNat
      else
        x.value.toNat ≤ q.powerLevel.toNat + 128 ∧ q.powerLevel.toNat ≤ x.value.toNat + 100
    else x.change = 1 → q.targetPowerLevel ≤ maxPowerLevel
  else
    (x.rampRate = slowDeactivationRampValue ↔ rampRate = slowDeactivationRampValue) ∨
      q.rampRate = slowDeactivationRampValue

/-- The message of a round can be sent. -/
def Round.sends (round : Round) : Bool := round.sending.allocated && round.sending.sent

/-- **A call fits**: what it needs is allocated, for each existing zone, and it fits all of them. -/
def Fits (x : Execution) (env : ExecutionEnv) (st : State) (p : SceneProperties) : Prop :=
  p.running ≠ 1 → ∀ (zoneIndex : ℕ) (zone : ZoneInScene) (q : ZoneProperties),
    p.zoneData[zoneIndex]? = some zone → st.getZoneProperties zone.zoneId = some q →
      env.objects.both = true ∧ (env.rounds zoneIndex).sends = true ∧
        EntryFits x (sceneRampRate p.zoneData) zone q

/-! ### One zone -/

section Zone

variable {x : Execution} {rampRate : Byte} {zone : ZoneInScene} {p q q' : ZoneProperties}

/-- A sum in 8 bits, cut off at 100. -/
theorem adjustUp_iff (level value : Byte) :
    (if maxPowerLevel < level + value then maxPowerLevel else level + value).toNat =
        min 100 (level.toNat + value.toNat) ↔
      level.toNat + value.toNat < 256 ∨ 356 ≤ level.toNat + value.toNat := by
  have hsum : (level + value).toNat = (level.toNat + value.toNat) % 256 := BitVec.toNat_add ..
  have hlevel := level.isLt
  have hvalue := value.isLt
  have hmax : maxPowerLevel.toNat = 100 := rfl
  by_cases hhigh : maxPowerLevel < level + value
  · rw [if_pos hhigh]
    rw [BitVec.lt_def] at hhigh
    omega
  · rw [if_neg hhigh]
    rw [BitVec.lt_def] at hhigh
    omega

/-- A difference in 8 bits, read as a signed number and cut off at 0. -/
theorem adjustDown_iff (level value : Byte) :
    (if 0 < (level - value).toInt then level - value else 0).toNat =
        min 100 (level.toNat - value.toNat) ↔
      value.toNat ≤ level.toNat + 128 ∧ level.toNat ≤ value.toNat + 100 := by
  have hdiff : (level - value).toNat = (256 - value.toNat + level.toNat) % 256 :=
    BitVec.toNat_sub ..
  have hlevel := level.isLt
  have hvalue := value.isLt
  have hsign : 0 < (level - value).toInt ↔
      0 < (level - value).toNat ∧ (level - value).toNat < 128 := by
    rw [BitVec.toInt_eq_toNat_cond]
    omega
  have hzero : (0 : Byte).toNat = 0 := rfl
  by_cases hpos : 0 < (level - value).toInt
  · rw [if_pos hpos]
    rw [hsign] at hpos
    omega
  · rw [if_neg hpos, hzero]
    rw [hsign] at hpos
    omega

/-- A scene is activated. -/
theorem requested_entry_iff (hvalue : x.value = 0) :
    (activateZone x zone q).targetPowerLevel = zone.powerLevel ∧
        (activateZone x zone q).targetState = decide (zone.state ≠ 0) ∧
        (activateZone x zone q).rampRate = zone.rampRate ↔
      (x.change = 1 → zone.powerLevel ≤ maxPowerLevel) := by
  have hne : ¬ x.value ≠ 0 := not_not.2 hvalue
  unfold activateZone
  by_cases hchange : x.change = 1
  · simp only [if_pos hchange, if_neg hne, takeTargets]
    by_cases hhigh : maxPowerLevel < zone.powerLevel
    · simp only [if_pos hhigh, hchange, true_imp_iff]
      exact iff_of_false (fun h => BitVec.ne_of_lt hhigh h.1) (BitVec.not_le.2 hhigh)
    · simp only [if_neg hhigh, hchange, true_imp_iff]
      exact iff_of_true ⟨trivial, trivial, trivial⟩ (BitVec.not_lt.1 hhigh)
  · simp only [if_neg hchange, if_neg hne, takeTargets]
    exact iff_of_true ⟨trivial, trivial, trivial⟩ fun h => absurd h hchange

/-- The level of a zone that is on is adjusted. -/
theorem requested_adjust_iff (hvalue : x.value ≠ 0) (hstate : q.state = true) :
    (activateZone x zone q).targetPowerLevel.toNat =
        (if x.change = 1 then min 100 (q.powerLevel.toNat + x.value.toNat)
          else min 100 (q.powerLevel.toNat - x.value.toNat)) ↔
      if x.change = 1 then
        q.powerLevel.toNat + x.value.toNat < 256 ∨ 356 ≤ q.powerLevel.toNat + x.value.toNat
      else
        x.value.toNat ≤ q.powerLevel.toNat + 128 ∧ q.powerLevel.toNat ≤ x.value.toNat + 100 := by
  unfold activateZone
  by_cases hchange : x.change = 1
  · simp only [if_pos hchange, if_pos hvalue, if_pos hstate]
    rw [← adjustUp_iff, apply_ite ZoneProperties.targetPowerLevel]
  · simp only [if_neg hchange, if_pos hvalue, if_pos hstate]
    exact adjustDown_iff ..

/-- A zone that is off is not adjusted. -/
theorem requested_off_iff (hvalue : x.value ≠ 0) (hstate : ¬ q.state = true) :
    (activateZone x zone q).targetPowerLevel = q.targetPowerLevel ∧
        (activateZone x zone q).targetState = q.targetState ↔
      (x.change = 1 → q.targetPowerLevel ≤ maxPowerLevel) := by
  unfold activateZone
  by_cases hchange : x.change = 1
  · simp only [if_pos hchange, if_pos hvalue, if_neg hstate]
    by_cases hhigh : maxPowerLevel < q.targetPowerLevel
    · simp only [if_pos hhigh, hchange, true_imp_iff]
      exact iff_of_false (fun h => BitVec.ne_of_lt hhigh h.1) (BitVec.not_le.2 hhigh)
    · simp only [if_neg hhigh, hchange, true_imp_iff]
      exact iff_of_true ⟨trivial, trivial⟩ (BitVec.not_lt.1 hhigh)
  · simp only [if_neg hchange, if_pos hvalue, if_neg hstate]
    exact iff_of_true ⟨trivial, trivial⟩ fun h => absurd h hchange

/-- A scene is deactivated. -/
theorem requested_deactivate_iff :
    (deactivateZone rampRate zone q).targetState = false ∧
        (deactivateZone rampRate zone q).rampRate =
          (if x.rampRate = slowDeactivationRampValue then slowDeactivationRampValue
            else q.rampRate) ↔
      (x.rampRate = slowDeactivationRampValue ↔ rampRate = slowDeactivationRampValue) ∨
        q.rampRate = slowDeactivationRampValue := by
  have hoff : (deactivateZone rampRate zone q).targetState = false := by
    unfold deactivateZone
    by_cases hstate : zone.state = 0 <;> split_ifs <;> simp [hstate]
  have hrampRate : (deactivateZone rampRate zone q).rampRate =
      if rampRate = slowDeactivationRampValue then slowDeactivationRampValue else q.rampRate := by
    unfold deactivateZone
    split_ifs <;> rfl
  rw [hoff, hrampRate, and_iff_right rfl]
  by_cases hasked : x.rampRate = slowDeactivationRampValue <;>
    by_cases hscene : rampRate = slowDeactivationRampValue <;>
    simp [hasked, hscene, eq_comm]

/-- **A zone gets what is asked for in its round** exactly if the call fits it. -/
theorem requested_iff :
    Requested x zone q (executeZone x rampRate zone q) ↔ EntryFits x rampRate zone q := by
  unfold Requested EntryFits executeZone
  by_cases hactivate : x.activate = true
  · simp only [if_pos hactivate]
    by_cases hvalue : x.value = 0
    · simp only [if_pos hvalue]
      exact requested_entry_iff hvalue
    · simp only [if_neg hvalue]
      by_cases hstate : q.state = true
      · simp only [if_pos hstate]
        exact requested_adjust_iff hvalue hstate
      · simp only [if_neg hstate]
        exact requested_off_iff hvalue hstate
  · simp only [if_neg hactivate]
    exact requested_deactivate_iff

/-- What the condition depends on stays, of a zone that a call fits. -/
structure Kept (x : Execution) (rampRate : Byte) (q q' : ZoneProperties) : Prop where
  state : q'.state = q.state
  powerLevel : q'.powerLevel = q.powerLevel
  /-- Of a zone that is not adjusted. -/
  targetPowerLevel : x.activate = true → x.value ≠ 0 → q.state = false →
    q'.targetPowerLevel = q.targetPowerLevel
  /-- Of a zone that has the slow ramp rate already. -/
  rampRate : x.activate = false →
    ¬(x.rampRate = slowDeactivationRampValue ↔ rampRate = slowDeactivationRampValue) →
      q'.rampRate = q.rampRate

theorem Kept.refl (q : ZoneProperties) : Kept x rampRate q q :=
  ⟨rfl, rfl, fun _ _ _ => rfl, fun _ _ => rfl⟩

theorem Kept.trans {q'' : ZoneProperties} (h : Kept x rampRate q q')
    (h' : Kept x rampRate q' q'') : Kept x rampRate q q'' where
  state := h'.state.trans h.state
  powerLevel := h'.powerLevel.trans h.powerLevel
  targetPowerLevel hactivate hvalue hstate :=
    (h'.targetPowerLevel hactivate hvalue (h.state.trans hstate)).trans
      (h.targetPowerLevel hactivate hvalue hstate)
  rampRate hactivate hmismatch :=
    (h'.rampRate hactivate hmismatch).trans (h.rampRate hactivate hmismatch)

/-- The condition does not depend on more. -/
theorem Kept.entryFits_iff (h : Kept x rampRate q q') :
    EntryFits x rampRate zone q' ↔ EntryFits x rampRate zone q := by
  unfold EntryFits
  rw [h.state, h.powerLevel]
  by_cases hactivate : x.activate = true
  · rw [if_pos hactivate, if_pos hactivate]
    by_cases hvalue : x.value = 0
    · rw [if_pos hvalue, if_pos hvalue]
    · rw [if_neg hvalue, if_neg hvalue]
      cases hstate : q.state with
      | true => rfl
      | false => rw [h.targetPowerLevel hactivate hvalue hstate]
  · rw [if_neg hactivate, if_neg hactivate]
    by_cases hsame : x.rampRate = slowDeactivationRampValue ↔ rampRate = slowDeactivationRampValue
    · exact iff_of_true (.inl hsame) (.inl hsame)
    · rw [h.rampRate (Bool.eq_false_iff.2 hactivate) hsame]

/-- A round changes neither the state nor the level. -/
theorem state_executeZone (q : ZoneProperties) :
    (executeZone x rampRate zone q).state = q.state ∧
      (executeZone x rampRate zone q).powerLevel = q.powerLevel := by
  unfold executeZone activateZone deactivateZone takeTargets
  constructor
  · dsimp only
    split_ifs <;> rfl
  · dsimp only
    split_ifs <;> rfl

/-- **A round keeps what the condition depends on**, where the condition holds. -/
theorem EntryFits.kept (h : EntryFits x rampRate zone q) :
    Kept x rampRate q (executeZone x rampRate zone q) := by
  have hrequested := requested_iff.2 h
  refine ⟨(state_executeZone q).1, (state_executeZone q).2, ?_, ?_⟩
  · intro hactivate hvalue hstate
    rw [Requested, if_pos hactivate, if_neg hvalue, hstate] at hrequested
    exact hrequested.1
  · intro hactivate hmismatch
    have hslow : q.rampRate = slowDeactivationRampValue := by
      rw [EntryFits, hactivate] at h
      exact h.resolve_left hmismatch
    rw [Requested, hactivate] at hrequested
    have hrampRate := hrequested.2
    rw [hslow, ite_self] at hrampRate
    exact hrampRate.trans hslow.symm

end Zone

/-! ### The loop -/

section Loop

variable {x : Execution} {rampRate : Byte} {number n : ℕ} {rounds : ℕ → Round} {zone : ZoneInScene}
variable {zoneData : List ZoneInScene} {st : State} {i zoneIndex : ℕ}

/-- The state after a round. -/
def afterRound (x : Execution) (rampRate : Byte) (number numZonesInScene : ℕ) (rounds : ℕ → Round)
    (zoneIndex : ℕ) (zone : ZoneInScene) (st : State) : State :=
  match visitZone x rampRate zone st with
  | some st =>
    st.sendRampCommandToTransmitTask zone.zoneId x.sceneIndex
      (scenePercent zoneIndex numZonesInScene) lowPriority number (rounds zoneIndex).sending
  | none => st

/-- The loop over one more zone. -/
theorem executeZones_take_succ (h : zoneData[zoneIndex]? = some zone) (start : ℕ) (st : State)
    (running : Byte) :
    (executeZones x rampRate number n rounds start (zoneData.take (zoneIndex + 1)) st running).1 =
      afterRound x rampRate number n rounds (start + zoneIndex) zone
        (executeZones x rampRate number n rounds start (zoneData.take zoneIndex) st
          running).1 := by
  induction zoneIndex generalizing zoneData start st running with
  | zero =>
    obtain ⟨zoneData, rfl⟩ : ∃ rest, zoneData = zone :: rest := by
      cases zoneData with
      | nil => cases h
      | cons first rest => exact ⟨rest, by rw [Option.some.inj h]⟩
    simp only [List.take_succ_cons, List.take_zero, executeZones, afterRound, Nat.add_zero]
    cases visitZone x rampRate zone st <;> rfl
  | succ zoneIndex ih =>
    cases zoneData with
    | nil => cases h
    | cons first zoneData =>
      rw [List.getElem?_cons_succ] at h
      have hindex : start + (zoneIndex + 1) = start + 1 + zoneIndex := by omega
      rw [List.take_succ_cons, List.take_succ_cons, hindex]
      simp only [executeZones]
      cases visitZone x rampRate first st with
      | none => exact ih h ..
      | some st' => exact ih h ..

/-- **The zones after a round**: only the one of the entry changes. -/
theorem get_afterRound (i : ℕ) :
    (afterRound x rampRate number n rounds zoneIndex zone st).zones.get i =
      if i = zone.zoneId.toNat then (st.zones.get i).map (executeZone x rampRate zone)
      else st.zones.get i := by
  unfold afterRound visitZone State.getZoneProperties
  cases hq : st.zones.get zone.zoneId.toNat with
  | none =>
    by_cases hi : i = zone.zoneId.toNat
    · rw [if_pos hi, hi, hq]
      exact hq
    · rw [if_neg hi]
      rfl
  | some q =>
    have hnamed : zoneNamed (executeZone x rampRate zone q) = true :=
      (zoneNamed_congr (deviceOf_executeZone ..)).trans (st.zones.named_of_get _ _ hq)
    rw [Option.map_some]
    dsimp only
    rw [zones_sendRampCommandToTransmitTask]
    by_cases hi : i = zone.zoneId.toNat
    · rw [if_pos hi, hi, hq]
      exact Table.get_set_named (Table.lt_of_get hq) hnamed
    · rw [if_neg hi]
      exact Table.get_set_ne hi

/-- The message of a round, for the zones that there are at the beginning. -/
def roundMessage (x : Execution) (number numZonesInScene : ℕ) (rounds : ℕ → Round) (st : State)
    (entry : ZoneInScene × ℕ) : Option RampMessage :=
  st.rampMessage entry.1.zoneId x.sceneIndex (scenePercent entry.2 numZonesInScene) lowPriority
    number (rounds entry.2).sending

theorem roundMessage_congr {st' : State} (hcalm : Calm st st') :
    roundMessage x number n rounds st' = roundMessage x number n rounds st := by
  funext entry
  unfold roundMessage
  cases hq : st.getZoneProperties entry.1.zoneId with
  | none =>
    have hq' : st'.getZoneProperties entry.1.zoneId = none :=
      Option.map_eq_none_iff.1 ((congrFun hcalm.zones _).trans (Option.map_eq_none_iff.2 hq))
    unfold State.rampMessage
    rw [hq, hq']
  | some q =>
    obtain ⟨q', hq', hdevice⟩ := Table.exists_of_keys hcalm.zones.symm hq
    exact rampMessage_congr hq hq' (addressOf_congr hdevice) ..

/-- A message of the lowest priority is queued at the end. -/
theorem inserted_low (transmitQueue : List RampMessage) {m : Option RampMessage}
    (h : ∀ m' ∈ m, m'.priority = lowPriority) :
    inserted transmitQueue m = transmitQueue ++ m.toList := by
  cases m with
  | none => exact (List.append_nil _).symm
  | some m =>
    have hall : ∀ other ∈ transmitQueue, decide (m.priority ≤ other.priority) = true := by
      intro other _
      rw [h m rfl]
      exact decide_eq_true (Nat.zero_le _)
    rw [inserted, List.takeWhile_eq_self_iff.2 hall, List.dropWhile_eq_nil_iff.2 hall]
    rfl

/-- What a message carries beside the address. -/
theorem eq_of_roundMessage {entry : ZoneInScene × ℕ} {m : RampMessage}
    (h : roundMessage x number n rounds st entry = some m) :
    m.priority = lowPriority ∧ m.sceneId = x.sceneIndex ∧
      m.scenePercent = scenePercent entry.2 n := by
  unfold roundMessage State.rampMessage at h
  split at h
  · obtain ⟨q, -, rfl⟩ := Option.map_eq_some_iff.1 h
    exact ⟨rfl, rfl, rfl⟩
  · cases h

/-- **The queue after the loop**: the messages of the rounds are queued in order. -/
theorem transmitQueue_executeZones (start : ℕ) (running : Byte) :
    (executeZones x rampRate number n rounds start zoneData st running).1.transmitQueue =
      st.transmitQueue ++
        (zoneData.zipIdx start).filterMap (roundMessage x number n rounds st) := by
  induction zoneData generalizing start st running with
  | nil => exact (List.append_nil _).symm
  | cons zone zoneData ih =>
    simp only [executeZones, List.zipIdx_cons, List.filterMap_cons]
    cases hvisit : visitZone x rampRate zone st with
    | none =>
      have hnone : roundMessage x number n rounds st (zone, start) = none := by
        unfold roundMessage State.rampMessage
        rw [Option.map_eq_none_iff.1 hvisit]
        exact ite_self none
      rw [hnone]
      exact ih ..
    | some st' =>
      have hcalm := calm_visitZone hvisit
      have hmessage : st'.rampMessage zone.zoneId x.sceneIndex (scenePercent start n) lowPriority
          number (rounds start).sending = roundMessage x number n rounds st (zone, start) :=
        congrFun (roundMessage_congr hcalm) (zone, start)
      have hqueue : st'.transmitQueue = st.transmitQueue := by
        obtain ⟨q, -, rfl⟩ := Option.map_eq_some_iff.1 hvisit
        rfl
      rw [ih, transmitQueue_sendRampCommandToTransmitTask, hmessage, hqueue,
        inserted_low _ fun m hm => (eq_of_roundMessage hm).1, List.append_assoc,
        roundMessage_congr (hcalm.trans (calm_sendRampCommandToTransmitTask ..))]
      cases roundMessage x number n rounds st (zone, start) <;> rfl

end Loop

/-! ### The messages -/

/-- A filter and a partial map go together if the map is defined on all that the filter keeps. -/
theorem forall₂_filter_filterMap {α β : Type*} {R : α → β → Prop} {keep : α → Bool}
    {f : α → Option β} {l : List α} (hkeep : ∀ a, (f a).isSome = true → keep a = true)
    (hR : ∀ a ∈ l, ∀ b, f a = some b → R a b) :
    List.Forall₂ R (l.filter keep) (l.filterMap f) ↔
      ∀ a ∈ l, keep a = true → (f a).isSome = true := by
  constructor
  · intro h a ha hkept
    -- as many elements are kept as are mapped, and what is mapped is kept
    have hlength : (l.filter fun a => (f a).isSome).length = (l.filter keep).length := by
      rw [h.length_eq, List.length_filterMap_eq_countP, List.countP_eq_length_filter]
    have heq := (List.monotone_filter_right l hkeep).eq_of_length hlength
    have hmem : a ∈ l.filter keep := List.mem_filter.2 ⟨ha, hkept⟩
    rw [← heq] at hmem
    exact (List.mem_filter.1 hmem).2
  · intro h
    induction l with
    | nil => exact .nil
    | cons a l ih =>
      have hrest := ih (fun a ha => hR a (List.mem_cons_of_mem _ ha))
        fun a ha => h a (List.mem_cons_of_mem _ ha)
      cases hf : f a with
      | none =>
        have hdropped : ¬ keep a = true := by
          intro hkept
          have hsome := h a List.mem_cons_self hkept
          rw [hf] at hsome
          cases hsome
        rw [List.filter_cons_of_neg hdropped, List.filterMap_cons_none hf]
        exact hrest
      | some b =>
        have hkept : keep a = true := hkeep a (by rw [hf]; rfl)
        rw [List.filter_cons_of_pos hkept, List.filterMap_cons_some hf]
        exact .cons (hR a List.mem_cons_self b hf) hrest

/-- Only the last entry carries 100 percent. -/
theorem scenePercent_eq_iff {zoneIndex n : ℕ} (h : zoneIndex < n) :
    scenePercent zoneIndex n = 100 ↔ zoneIndex + 1 = n := by
  have hle : (zoneIndex + 1) * 100 / n ≤ 100 := by
    refine Nat.div_le_of_le_mul ?_
    exact Nat.mul_le_mul_right 100 h
  have hpercent : scenePercent zoneIndex n = 100 ↔ (zoneIndex + 1) * 100 / n = 100 := by
    rw [← BitVec.toNat_inj, scenePercent, toNat_ofNat_of_lt (by omega)]
    rfl
  rw [hpercent]
  constructor
  · intro hfull
    by_contra hne
    have hlt : (zoneIndex + 1) * 100 / n < 100 := by
      refine Nat.div_lt_of_lt_mul ?_
      omega
    omega
  · rintro rfl
    exact Nat.mul_div_cancel_left 100 (Nat.succ_pos _)

section Messages

variable {x : Execution} {number : ℕ} {rounds : ℕ → Round} {st : State}
variable {zoneData : List ZoneInScene}

theorem isSome_roundMessage {n : ℕ} (entry : ZoneInScene × ℕ) :
    (roundMessage x number n rounds st entry).isSome =
      ((rounds entry.2).sends && (st.getZoneProperties entry.1.zoneId).isSome) := by
  unfold roundMessage State.rampMessage Round.sends
  split
  · rename_i hsends
    rw [Option.isSome_map, hsends, Bool.true_and]
  · rename_i hsends
    rw [Bool.eq_false_iff.2 hsends, Bool.false_and]
    rfl

/-- **The zones get their messages** exactly if all of these can be sent. -/
theorem messages_iff :
    List.Forall₂ (MessageFor x st zoneData.length) (existing st zoneData)
        (zoneData.zipIdx.filterMap (roundMessage x number zoneData.length rounds st)) ↔
      ∀ (zoneIndex : ℕ) (zone : ZoneInScene) (q : ZoneProperties),
        zoneData[zoneIndex]? = some zone → st.getZoneProperties zone.zoneId = some q →
          (rounds zoneIndex).sends = true := by
  unfold existing
  rw [forall₂_filter_filterMap]
  · constructor
    · intro h zoneIndex zone q hzone hq
      have hsome := h (zone, zoneIndex) (List.mk_mem_zipIdx_iff_getElem?.2 hzone)
        (by rw [hq]; rfl)
      rw [isSome_roundMessage, Bool.and_eq_true] at hsome
      exact hsome.1
    · rintro h ⟨zone, zoneIndex⟩ hentry hexists
      obtain ⟨q, hq⟩ := Option.isSome_iff_exists.1 hexists
      rw [isSome_roundMessage, hexists, Bool.and_true]
      exact h zoneIndex zone q (List.mk_mem_zipIdx_iff_getElem?.1 hentry) hq
  · intro entry hsome
    rw [isSome_roundMessage, Bool.and_eq_true] at hsome
    exact hsome.2
  · rintro ⟨zone, zoneIndex⟩ hentry m hm
    have hindex : zoneIndex < zoneData.length :=
      (List.getElem?_eq_some_iff.1 (List.mk_mem_zipIdx_iff_getElem?.1 hentry)).1
    obtain ⟨-, hscene, hpercent⟩ := eq_of_roundMessage hm
    refine ⟨address_rampMessage hm, hscene, ?_⟩
    rw [hpercent]
    exact scenePercent_eq_iff hindex

end Messages

/-! ### The executions -/

section Executions

variable {x : Execution} {env : ExecutionEnv} {st : State} {p : SceneProperties}
variable {zone : ZoneInScene} {zoneIndex i : ℕ}

theorem zones_markToggled (x : Execution) (st : State) : (markToggled x st).zones = st.zones := by
  simp only [markToggled]
  split
  · rfl
  · split <;> rfl

theorem transmitQueue_markToggled (x : Execution) (st : State) :
    (markToggled x st).transmitQueue = st.transmitQueue := by
  simp only [markToggled]
  split
  · rfl
  · split <;> rfl

theorem zones_stateAfter_zero : (stateAfter x env st p 0).zones = st.zones := by
  unfold stateAfter
  split <;> rfl

/-- **What a round leaves of the zones.** -/
theorem get_stateAfter_succ (hstarts : starts env.objects p = true)
    (hzone : p.zoneData[zoneIndex]? = some zone) (i : ℕ) :
    (stateAfter x env st p (zoneIndex + 1)).zones.get i =
      if i = zone.zoneId.toNat then
        ((stateAfter x env st p zoneIndex).zones.get i).map
          (executeZone x (sceneRampRate p.zoneData) zone)
      else (stateAfter x env st p zoneIndex).zones.get i := by
  unfold stateAfter
  rw [if_pos hstarts, if_pos hstarts, executeZones_take_succ hzone, get_afterRound]

/-- The state in the end is the one after the last round, with a button switched. -/
theorem zones_executeScene :
    (executeScene x env st p).1.zones = (stateAfter x env st p p.zoneData.length).zones := by
  unfold executeScene stateAfter
  rw [List.take_length]
  split
  · exact zones_markToggled ..
  · rfl

theorem transmitQueue_executeScene (x : Execution) (env : ExecutionEnv) (st : State)
    (p : SceneProperties) :
    (executeScene x env st p).1.transmitQueue = st.transmitQueue ++
      if starts env.objects p then
        p.zoneData.zipIdx.filterMap
          (roundMessage x (st.runs + 1) p.zoneData.length env.rounds st)
      else [] := by
  unfold executeScene
  split
  · refine (transmitQueue_markToggled ..).trans ((transmitQueue_executeZones ..).trans ?_)
    rfl
  · exact (List.append_nil _).symm

/-- A round changes no other zone, whether or not the scene is executed. -/
theorem get_stateAfter_of_ne (hzone : p.zoneData[zoneIndex]? = some zone)
    (hi : i ≠ zone.zoneId.toNat) :
    (stateAfter x env st p (zoneIndex + 1)).zones.get i =
      (stateAfter x env st p zoneIndex).zones.get i := by
  by_cases hstarts : starts env.objects p = true
  · rw [get_stateAfter_succ hstarts hzone, if_neg hi]
  · unfold stateAfter
    rw [if_neg hstarts, if_neg hstarts]

/-- **A zone that is not listed does not change.** -/
theorem get_stateAfter_of_not_listed (hi : ∀ zone ∈ p.zoneData, zone.zoneId.toNat ≠ i)
    (hle : zoneIndex ≤ p.zoneData.length) :
    (stateAfter x env st p zoneIndex).zones.get i = st.zones.get i := by
  induction zoneIndex with
  | zero => rw [zones_stateAfter_zero]
  | succ zoneIndex ih =>
    have hzone : p.zoneData[zoneIndex]? = some p.zoneData[zoneIndex] :=
      List.getElem?_eq_getElem hle
    rw [get_stateAfter_of_ne hzone (hi _ (List.getElem_mem hle)).symm]
    exact ih (Nat.le_of_lt hle)

/-- **After some rounds that fit**, what the condition depends on is as at the beginning. -/
theorem kept_stateAfter (hstarts : starts env.objects p = true)
    (hle : zoneIndex ≤ p.zoneData.length)
    (hfits : ∀ k < zoneIndex, ∀ zone q, p.zoneData[k]? = some zone →
      (stateAfter x env st p k).getZoneProperties zone.zoneId = some q →
        EntryFits x (sceneRampRate p.zoneData) zone q) (i : ℕ) :
    Option.Rel (Kept x (sceneRampRate p.zoneData)) (st.zones.get i)
      ((stateAfter x env st p zoneIndex).zones.get i) := by
  induction zoneIndex with
  | zero =>
    rw [zones_stateAfter_zero]
    cases st.zones.get i with
    | none => exact .none
    | some q => exact .some (.refl q)
  | succ zoneIndex ih =>
    have hzone : p.zoneData[zoneIndex]? = some p.zoneData[zoneIndex] :=
      List.getElem?_eq_getElem hle
    have hbefore := ih (Nat.le_of_lt hle) fun k hk => hfits k (Nat.lt_succ_of_lt hk)
    rw [get_stateAfter_succ hstarts hzone]
    by_cases hi : i = (p.zoneData[zoneIndex]).zoneId.toNat
    · rw [if_pos hi]
      cases hq : (stateAfter x env st p zoneIndex).zones.get i with
      | none =>
        rw [hq] at hbefore
        exact hbefore
      | some q =>
        rw [hq] at hbefore
        have hentry := hfits zoneIndex (Nat.lt_succ_self _) _ q hzone (by rw [← hq, hi]; rfl)
        generalize st.zones.get i = first at hbefore
        cases hbefore with
        | some hkept => exact .some (hkept.trans hentry.kept)
    · rw [if_neg hi]
      exact hbefore

/-! ### What the executions do -/

/-- The zones get their targets exactly if the call fits them as they are at the beginning. -/
theorem targets_iff (hstarts : starts env.objects p = true) :
    (∀ (zoneIndex : ℕ) (zone : ZoneInScene) (q : ZoneProperties),
      p.zoneData[zoneIndex]? = some zone →
        (stateAfter x env st p zoneIndex).getZoneProperties zone.zoneId = some q →
        ∃ q', (stateAfter x env st p (zoneIndex + 1)).getZoneProperties zone.zoneId = some q' ∧
          Requested x zone q q') ↔
      ∀ (zoneIndex : ℕ) (zone : ZoneInScene) (q : ZoneProperties),
        p.zoneData[zoneIndex]? = some zone → st.getZoneProperties zone.zoneId = some q →
          EntryFits x (sceneRampRate p.zoneData) zone q := by
  have hround (zoneIndex : ℕ) (zone : ZoneInScene) (q : ZoneProperties)
      (hzone : p.zoneData[zoneIndex]? = some zone)
      (hq : (stateAfter x env st p zoneIndex).getZoneProperties zone.zoneId = some q) :
      (∃ q', (stateAfter x env st p (zoneIndex + 1)).getZoneProperties zone.zoneId = some q' ∧
          Requested x zone q q') ↔ EntryFits x (sceneRampRate p.zoneData) zone q := by
    have hafter : (stateAfter x env st p (zoneIndex + 1)).getZoneProperties zone.zoneId =
        some (executeZone x (sceneRampRate p.zoneData) zone q) := by
      rw [State.getZoneProperties, get_stateAfter_succ hstarts hzone, if_pos rfl]
      exact congrArg (Option.map _) hq
    rw [hafter]
    simp only [Option.some.injEq, exists_eq_left', requested_iff]
  have hlt {zoneIndex : ℕ} {zone : ZoneInScene} (hzone : p.zoneData[zoneIndex]? = some zone) :
      zoneIndex ≤ p.zoneData.length := (List.getElem?_eq_some_iff.1 hzone).1.le
  constructor
  · intro h zoneIndex zone q hzone hq
    have hkept := kept_stateAfter hstarts (hlt hzone)
      (fun k _ zone q hzone hq => (hround k zone q hzone hq).1 (h k zone q hzone hq))
      zone.zoneId.toNat
    rw [State.getZoneProperties] at hq
    rw [hq] at hkept
    generalize hq' : (stateAfter x env st p zoneIndex).zones.get zone.zoneId.toNat = after at hkept
    cases hkept with
    | some hkept =>
      exact hkept.entryFits_iff.1 ((hround _ _ _ hzone hq').1 (h _ _ _ hzone hq'))
  · intro h zoneIndex
    induction zoneIndex using Nat.strong_induction_on with
    | _ zoneIndex ih =>
      intro zone q' hzone hq'
      have hkept := kept_stateAfter hstarts (hlt hzone)
        (fun k hk zone q hzone hq => (hround k zone q hzone hq).1 (ih k hk zone q hzone hq))
        zone.zoneId.toNat
      refine (hround _ _ _ hzone hq').2 ?_
      rw [State.getZoneProperties] at hq'
      rw [hq'] at hkept
      generalize hq : st.zones.get zone.zoneId.toNat = before at hkept
      cases hkept with
      | some hkept => exact hkept.entryFits_iff.2 (h _ _ _ hzone hq)

/-- A scene that is executed. -/
theorem setsRequested_iff_of_starts (hstarts : starts env.objects p = true) :
    SetsRequested x env st p ↔ ∀ (zoneIndex : ℕ) (zone : ZoneInScene) (q : ZoneProperties),
      p.zoneData[zoneIndex]? = some zone → st.getZoneProperties zone.zoneId = some q →
        (env.rounds zoneIndex).sends = true ∧ EntryFits x (sceneRampRate p.zoneData) zone q := by
  have hqueue := transmitQueue_executeScene x env st p
  rw [if_pos hstarts] at hqueue
  constructor
  · intro h zoneIndex zone q hzone hq
    obtain ⟨ms, hms, hforall⟩ := h.messages
    rw [hqueue, List.append_cancel_left_eq] at hms
    rw [← hms] at hforall
    exact ⟨messages_iff.1 hforall zoneIndex zone q hzone hq,
      (targets_iff hstarts).1 h.targets zoneIndex zone q hzone hq⟩
  · intro h
    refine ⟨?_, fun _ _ _ hzone hi => get_stateAfter_of_ne hzone hi, zones_executeScene,
      ⟨_, hqueue, ?_⟩, ?_⟩
    · exact (targets_iff hstarts).2 fun zoneIndex zone q hzone hq => (h _ _ _ hzone hq).2
    · exact messages_iff.2 fun zoneIndex zone q hzone hq => (h _ _ _ hzone hq).1
    · intro i hi
      rw [zones_executeScene, get_stateAfter_of_not_listed hi le_rfl]

/-- A scene that is not executed: no message is queued. -/
theorem setsRequested_iff_of_not_starts (hstarts : ¬ starts env.objects p = true) :
    SetsRequested x env st p ↔ ∀ (zoneIndex : ℕ) (zone : ZoneInScene),
      p.zoneData[zoneIndex]? = some zone → st.getZoneProperties zone.zoneId = none := by
  have hafter (zoneIndex : ℕ) : stateAfter x env st p zoneIndex = st := if_neg hstarts
  have hscene : (executeScene x env st p).1 = st := congrArg Prod.fst (if_neg hstarts)
  have hexisting : existing st p.zoneData = [] ↔ ∀ (zoneIndex : ℕ) (zone : ZoneInScene),
      p.zoneData[zoneIndex]? = some zone → st.getZoneProperties zone.zoneId = none := by
    rw [existing, List.filter_eq_nil_iff]
    constructor
    · intro h zoneIndex zone hzone
      exact Option.not_isSome_iff_eq_none.1 (h _ (List.mk_mem_zipIdx_iff_getElem?.2 hzone))
    · rintro h ⟨zone, zoneIndex⟩ hentry
      rw [h _ _ (List.mk_mem_zipIdx_iff_getElem?.1 hentry)]
      exact Bool.false_ne_true
  rw [← hexisting]
  constructor
  · intro h
    obtain ⟨ms, hms, hforall⟩ := h.messages
    rw [hscene, List.self_eq_append_right] at hms
    rwa [hms, List.forall₂_nil_right_iff] at hforall
  · intro h
    refine ⟨?_, fun _ _ _ hzone hi => get_stateAfter_of_ne hzone hi, zones_executeScene, ?_, ?_⟩
    · intro zoneIndex zone q hzone hq
      rw [hafter, hexisting.1 h _ _ hzone] at hq
      cases hq
    · exact ⟨[], by rw [hscene, List.append_nil], h ▸ .nil⟩
    · intro i _
      rw [hscene]

/-- **The executions that do what is asked for** are those that fit. -/
theorem setsRequested_iff (x : Execution) (env : ExecutionEnv) (st : State)
    (p : SceneProperties) : ExecutesRequested x env st p ↔ Fits x env st p := by
  unfold ExecutesRequested Fits
  refine imp_congr_right fun hrunning => ?_
  by_cases hboth : env.objects.both = true
  · have hstarts : starts env.objects p = true := by
      rw [starts, hboth, Bool.true_and, decide_eq_true hrunning]
    rw [setsRequested_iff_of_starts hstarts]
    simp only [hboth, true_and]
  · have hstarts : ¬ starts env.objects p = true := by
      rw [starts, Bool.eq_false_iff.2 hboth]
      exact Bool.false_ne_true
    rw [setsRequested_iff_of_not_starts hstarts]
    constructor
    · intro h zoneIndex zone q hzone hq
      rw [h _ _ hzone] at hq
      cases hq
    · intro h zoneIndex zone hzone
      rw [Option.eq_none_iff_forall_ne_some]
      intro q hq
      exact hboth (h _ _ q hzone hq).1

end Executions

/-- A scene with the zone 0, at 80 with the ramp rate 50. -/
def dimScene : SceneProperties := { zeroScene with
  zoneData := [⟨0, 80, 50, 1⟩]
  fits := by decide }

/-- The scene is deactivated, slowly. -/
def slowly : Execution := ⟨0, 0, false, 0, 0, slowDeactivationRampValue⟩

/-- **A scene that is deactivated slowly** leaves the ramp rate of its zone at 50. -/
theorem not_executesRequested : ¬ ∀ x env st p, ExecutesRequested x env st p := by
  intro h
  have hzone : (State.initial.setZoneProperties 0
      (newZone 0 1 5 1 100 dimmerType (CString.empty (by decide)))).getZoneProperties 0 =
      some (newZone 0 1 5 1 100 dimmerType (CString.empty (by decide))) :=
    Table.get_set_named (by decide) (by decide +kernel)
  have hfits := ((setsRequested_iff_of_starts (by decide)).1
    (h slowly freeExecution _ dimScene (by decide)) 0 _ _ rfl hzone).2
  rw [EntryFits, if_neg (by decide)] at hfits
  exact absurd hfits (by decide +kernel)

end House

end Lcm
