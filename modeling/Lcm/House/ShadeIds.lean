import Lcm.House.HouseID
import Lcm.House.Tasks

/-!
# The identifiers of the shades

The table of the identifiers is kept beside the zones.  A shade that is discovered is added unless
its identifier is in the table; what is compared is the whole identifier, what is stored are its
first 38 characters.  A zone goes when it is deleted, which clears the identifier of a shade, but
also when its name is set to the empty string, which does not.

## Main definitions

* `ShadesIdentified` : the identifiers belong to shades, and to different ones.
* `Lawful` : they still do after an operation, and what is discovered is added if it is unknown.
* `keepsIdentifiers` : the condition on the operations.

## Main results

* `ShadesIdentified.lawful_iff` : when an operation is lawful.
* `allSteps_lawful_iff` : when all operations of a run are.
* `not_allSteps_lawful` : a shade that loses its name keeps its identifier.
-/

namespace Lcm

namespace House

open Rf (shadeType shadeGroupType)

/-! ### What is asked for -/

/-- **The identifiers belong to shades**, and no identifier to two of them. -/
structure ShadesIdentified (st : State) : Prop where
  /-- A slot with an identifier holds a shade or a group of shades. -/
  shade : ∀ i < maxNumberOfZones, st.idString i ≠ [] →
    ∃ p, st.zones.get i = some p ∧ isShade p = true
  /-- No identifier is in two slots. -/
  distinct : ∀ i < maxNumberOfZones, ∀ j < maxNumberOfZones,
    st.idString i ≠ [] → st.idString i = st.idString j → i = j

/-- A shade or a group of shades that is discovered. -/
structure Discovery where
  /-- `name` -/
  name : List Byte
  /-- `identifier` or `groupId` -/
  identifier : List Byte
  /-- It is a group. -/
  isGroup : Bool

/-- What is discovered with a response. -/
def discovered : Event → Option Discovery
  | .devicesInfo element _ =>
    match element.get "deviceType", element.get "identifier" with
    | some deviceType, some identifier =>
      if deviceType.chars = JsonT.bytesOfString "shade" then
        some ⟨(element.get "name").elim [] JsonT.chars, identifier.chars, false⟩
      else none
    | _, _ => none
  | .qmotionGroups element _ =>
    match element.get "groupId" with
    | some identifier =>
      if identifier.isInteger then
        some ⟨(element.get "name").elim [] JsonT.chars,
          JsonT.bytesOfString s!"{intOf identifier.integerValue}", true⟩
      else none
    | none => none
  | _ => none

/-- The identifier is in the table. -/
def known (st : State) (identifier : List Byte) : Bool :=
  identifier ≠ [] && (List.range maxNumberOfZones).any fun i => st.idString i = identifier

/-- `GetAvailableZoneIndex` reports a free slot. -/
def hasFreeSlot (st : State) : Bool := st.getAvailableZoneIndex.toNat < maxNumberOfZones

/-- **One zone is added**, a shade with the identifier. -/
def AddsShade (st st' : State) (d : Discovery) : Prop :=
  ∃ i < maxNumberOfZones, ∃ p, st.zones.get i = none ∧
    p.deviceType = (if d.isGroup then shadeGroupType else shadeType) ∧
    st'.zones.get = Function.update st.zones.get i (some p) ∧
    st'.idString = Function.update st.idString i d.identifier

/-- **The law of a discovery.** -/
structure DiscoveryLaw (st st' : State) (d : Discovery) : Prop where
  /-- What is known changes nothing. -/
  same : known st d.identifier = true → st' = st
  /-- What is not known is added if there is room. -/
  adds : known st d.identifier = false → hasFreeSlot st = true → AddsShade st st' d

/-- **A lawful operation.** -/
structure Lawful (st : State) (e : Event) : Prop where
  /-- The table. -/
  identified : ShadesIdentified (next st e)
  /-- The discoveries. -/
  law : ∀ d ∈ discovered e, DiscoveryLaw st (next st e) d

/-! ### The condition -/

/-- The identifier can be stored, and the zone has a name. -/
def addable (d : Discovery) : Bool :=
  d.identifier ≠ [] ∧ d.identifier.length ≤ 38 ∧ (nameOf d.name).chars ≠ []

/-- A request takes the name of a zone that has an identifier. -/
def unnamesShade (st : State) (root : JsonT) (errorFlag : Bool) : Bool :=
  match lookup st.getZoneProperties zoneNamed maxNumberOfZones setZoneErrors (root.get "ZID") with
  | .error _ => false
  | .ok (zoneIndex, p) =>
    match editZone root errorFlag p with
    | .ok (some _) => st.idString zoneIndex.toNat ≠ [] && lastName root = some []
    | _ => false

/-- An operation takes the name of a zone that has an identifier. -/
def unnames (st : State) : Event → Bool
  | .setZoneProperties root errorFlag _ => unnamesShade st root errorFlag
  | _ => false

/-- **The condition**: no zone with an identifier loses its name, and what is discovered is known,
or there is no room, or it can be added. -/
def keepsIdentifiers (st : State) (e : Event) : Bool :=
  !unnames st e &&
    (discovered e).all fun d => known st d.identifier || !hasFreeSlot st || addable d

/-- An operation while the system is running. -/
abbrev RunningEvent := {e : Event // e.isReboot = false}

/-- The machine while the system is running. -/
def runningMachine : Machine State RunningEvent where
  init := machine.init
  step st e := machine.step st e.val

section ShadeIds

variable {st st' : State} {d : Discovery} {identifier : List Byte}

/-! ### The table -/

theorem known_iff : known st identifier = true ↔
    identifier ≠ [] ∧ ∃ i < maxNumberOfZones, st.idString i = identifier := by
  simp only [known, Bool.and_eq_true, List.any_eq_true, List.mem_range, decide_eq_true_eq]

/-- A slot without a zone has no identifier. -/
theorem ShadesIdentified.idString_of_free (h : ShadesIdentified st) {i : ℕ}
    (hi : i < maxNumberOfZones) (hfree : st.zones.get i = none) : st.idString i = [] := by
  by_contra hid
  obtain ⟨p, hp, -⟩ := h.shade i hi hid
  exact absurd (hfree.symm.trans hp) (Option.some_ne_none p).symm

/-- Some identifiers may be cleared, as long as the others belong to shades. -/
theorem ShadesIdentified.of_cleared (h : ShadesIdentified st)
    (hids : ∀ i, st'.idString i = st.idString i ∨ st'.idString i = [])
    (hshade : ∀ i < maxNumberOfZones, st'.idString i ≠ [] →
      ∃ p, st'.zones.get i = some p ∧ isShade p = true) : ShadesIdentified st' := by
  refine ⟨hshade, fun i hi j hj hid heq => ?_⟩
  have hj_id : st'.idString j ≠ [] := heq ▸ hid
  have hi_same := (hids i).resolve_right hid
  have hj_same := (hids j).resolve_right hj_id
  rw [hi_same] at hid
  refine h.distinct i hi j hj hid ?_
  rw [← hi_same, heq, hj_same]

/-- The identifiers stay, and so do the shades. -/
theorem ShadesIdentified.of_shades (h : ShadesIdentified st) (hids : st'.idString = st.idString)
    (hshade : ∀ i p, st.idString i ≠ [] → st.zones.get i = some p → isShade p = true →
      ∃ q, st'.zones.get i = some q ∧ isShade q = true) : ShadesIdentified st' := by
  refine h.of_cleared (fun i => .inl (by rw [hids])) fun i hi hid => ?_
  rw [hids] at hid
  obtain ⟨p, hp, hold⟩ := h.shade i hi hid
  exact hshade i p hid hp hold

theorem ShadesIdentified.of_calm (h : ShadesIdentified st) (hcalm : Calm st st') :
    ShadesIdentified st' := by
  refine h.of_shades hcalm.idString fun i p _ hp hshade => ?_
  obtain ⟨q, hq, hdevice⟩ := Table.exists_of_keys hcalm.zones.symm hp
  exact ⟨q, hq, (isShade_congr hdevice).trans hshade⟩

/-- The rest is of no importance. -/
theorem ShadesIdentified.of_eq (h : ShadesIdentified st) (hzones : st'.zones = st.zones)
    (hids : st'.idString = st.idString) : ShadesIdentified st' :=
  h.of_shades hids fun _ p _ hp hshade => ⟨p, by rwa [hzones], hshade⟩

/-! ### Zones -/

/-- What is stored in a slot that has no identifier is of no importance. -/
theorem ShadesIdentified.setZoneProperties (h : ShadesIdentified st) (zoneIndex : Byte)
    (q : ZoneProperties)
    (hkeeps : st.idString zoneIndex.toNat ≠ [] → zoneNamed q = true ∧ isShade q = true) :
    ShadesIdentified (st.setZoneProperties zoneIndex q) := by
  refine h.of_shades rfl fun i p hid hp hshade => ?_
  by_cases hi : i = zoneIndex.toNat
  · subst hi
    obtain ⟨hnamed, hshade'⟩ := hkeeps hid
    exact ⟨q, Table.get_set_named (Table.lt_of_get hp) hnamed, hshade'⟩
  · exact ⟨p, (Table.get_set_ne hi).trans hp, hshade⟩

@[simp]
theorem idString_adoptHouseID (st : State) (houseId : Byte) :
    (st.adoptHouseID houseId).idString = st.idString := by
  unfold State.adoptHouseID
  split <;> rfl

@[simp]
theorem idString_rampAdopts (st : State) (houseId : Byte) :
    (rampAdopts st houseId).idString = st.idString := by
  unfold rampAdopts
  split
  · exact idString_adoptHouseID ..
  · rfl

@[simp]
theorem idString_clearHouseID (st : State) : st.clearHouseID.idString = st.idString := by
  unfold State.clearHouseID
  split <;> rfl

theorem ShadesIdentified.clearHouseID (h : ShadesIdentified st) :
    ShadesIdentified st.clearHouseID :=
  h.of_eq (zones_clearHouseID st) (idString_clearHouseID st)

/-- A ramp adds a zone in a free slot at most. -/
theorem ShadesIdentified.handleRampReceived (h : ShadesIdentified st) (buildingId houseId : Byte)
    (groupId : Word) (value deviceType : Byte) (EliotDeviceId : CString eliotDeviceIdSize) :
    ShadesIdentified
      (handleRampReceived st buildingId houseId groupId value deviceType EliotDeviceId) := by
  have hadopts : ShadesIdentified (rampAdopts st houseId) :=
    h.of_eq (zones_rampAdopts ..) (idString_rampAdopts ..)
  obtain ⟨hadds, heq⟩ | ⟨-, hcalm⟩ :=
    handleRampReceived_cases st buildingId houseId groupId value deviceType EliotDeviceId
  · have hroom : st.zones.available < maxNumberOfZones := (addsZone_eq_true.1 hadds).2.2.2
    have hid : st.idString st.getAvailableZoneIndex.toNat = [] := by
      rw [toNat_getAvailableZoneIndex]
      exact h.idString_of_free hroom (Table.get_available hroom)
    have hset := hadopts.setZoneProperties st.getAvailableZoneIndex
      (newZone st.getAvailableZoneIndex buildingId houseId groupId value deviceType EliotDeviceId)
      fun hnot => absurd hid (by rwa [idString_rampAdopts] at hnot)
    rw [heq]
    exact hset.of_eq rfl rfl
  · exact hadopts.of_calm hcalm

/-- Scene controllers are of no importance. -/
theorem ShadesIdentified.handleSceneControllerCommandReceived (h : ShadesIdentified st)
    (sceneControllerIndex buildingId houseId : Byte) (groupId : Word)
    (garbage : SceneControllerGarbage) :
    ShadesIdentified (handleSceneControllerCommandReceived st sceneControllerIndex buildingId
      houseId groupId garbage) := by
  obtain ⟨-, heq⟩ | ⟨-, heq⟩ := handleSceneControllerCommandReceived_cases st sceneControllerIndex
    buildingId houseId groupId garbage <;> rw [heq]
  · exact h.of_eq (zones_adoptHouseID ..) (idString_adoptHouseID ..)
  · exact h.of_eq (zones_adoptHouseID ..) (idString_adoptHouseID ..)

/-- **A shade that is deleted loses its identifier**, and no other zone has one. -/
theorem ShadesIdentified.handleDeleteZone (h : ShadesIdentified st) (root : JsonT) :
    ShadesIdentified (handleDeleteZone st root).1 := by
  unfold House.handleDeleteZone
  split
  · exact h.clearHouseID
  · rename_i zoneIndex p hlookup
    have hp : st.getZoneProperties zoneIndex = some p := (lookup_ok hlookup).2
    refine ShadesIdentified.clearHouseID ?_
    by_cases hshade : isShade p = true
    · rw [if_pos hshade]
      refine h.of_cleared (fun i => ?_) fun i hi hid => ?_
      · by_cases hi : i = zoneIndex.toNat
        · exact .inr (hi ▸ Function.update_self ..)
        · exact .inl (Function.update_of_ne hi ..)
      · have hi : i ≠ zoneIndex.toNat := by
          rintro rfl
          exact hid (Function.update_self ..)
        have hold : st.idString i ≠ [] := by
          rwa [← Function.update_of_ne hi [] st.idString]
        obtain ⟨q, hq, hshade'⟩ := h.shade i ‹_› hold
        exact ⟨q, (Table.get_set_ne hi).trans hq, hshade'⟩
    · rw [if_neg hshade]
      refine h.setZoneProperties zoneIndex _ fun hid => ?_
      obtain ⟨q, hq, hshade'⟩ := h.shade _ (lookup_ok hlookup).1 hid
      obtain rfl := Option.some.inj (hp.symm.trans hq)
      exact absurd hshade' hshade

/-- A shade that stays one keeps the table if it has no identifier or keeps a name. -/
theorem ShadesIdentified.setZoneProperties_iff (h : ShadesIdentified st) {zoneIndex : Byte}
    {p q : ZoneProperties} (hindex : zoneIndex.toNat < maxNumberOfZones)
    (hp : st.getZoneProperties zoneIndex = some p) (hshade : isShade p = true → isShade q = true) :
    ShadesIdentified (st.setZoneProperties zoneIndex q) ↔
      ¬ (st.idString zoneIndex.toNat ≠ [] ∧ zoneNamed q = false) := by
  rw [not_and, Bool.not_eq_false]
  constructor
  · intro hset hid
    obtain ⟨r, hr, -⟩ := hset.shade zoneIndex.toNat hindex hid
    by_contra hunnamed
    -- a zone without a name is no zone, but its identifier is still in the table
    have hfree : (st.zones.set zoneIndex.toNat q).get zoneIndex.toNat = none := by
      rw [Table.get_set_self hindex, if_neg hunnamed]
    exact absurd (hfree.symm.trans hr) (Option.some_ne_none r).symm
  · intro hkeeps
    refine h.setZoneProperties zoneIndex q fun hid => ⟨hkeeps hid, hshade ?_⟩
    obtain ⟨r, hr, hold⟩ := h.shade zoneIndex.toNat hindex hid
    obtain rfl := Option.some.inj (hp.symm.trans hr)
    exact hold

/-- A zone that is edited has no name any more if the empty one was set last. -/
theorem zoneNamed_edit {root : JsonT} {errorFlag : Bool} {p : ZoneProperties} {edit : ZoneEdit}
    (hnamed : zoneNamed p = true) (hedit : editZone root errorFlag p = .ok (some edit)) :
    zoneNamed edit.zoneProperties = false ↔ lastName root = some [] := by
  have hname : edit.zoneProperties.ZoneNameString =
      (lastName root).elim p.ZoneNameString sanitizedName :=
    congrArg Device.ZoneNameString (editZone_cases hedit).1
  rw [zoneNamed, decide_eq_false_iff_not, not_not]
  refine ⟨lastName_of_empty hname (of_decide_eq_true hnamed), fun hlast => ?_⟩
  rw [hname, hlast]
  exact sanitizedName_chars_eq_nil.2 rfl

/-- **An edit keeps the table** exactly if no zone with an identifier loses its name. -/
theorem ShadesIdentified.handleSetZoneProperties_iff (h : ShadesIdentified st) (root : JsonT)
    (errorFlag : Bool) (sending : State.Sending) :
    ShadesIdentified (handleSetZoneProperties st root errorFlag sending).1 ↔
      unnamesShade st root errorFlag = false := by
  rw [House.handleSetZoneProperties, unnamesShade]
  cases hlookup : lookup st.getZoneProperties zoneNamed maxNumberOfZones setZoneErrors
      (root.get "ZID") with
  | error error => exact iff_of_true h rfl
  | ok found =>
    obtain ⟨zoneIndex, p⟩ := found
    obtain ⟨hindex, hp⟩ := lookup_ok hlookup
    have hnamed : zoneNamed p = true := st.zones.named_of_get _ p hp
    dsimp only [bind, Except.bind]
    cases hedit : editZone root errorFlag p with
    | error error => exact iff_of_true h rfl
    | ok edited =>
      cases edited with
      | none => exact iff_of_true h rfl
      | some edit =>
        have hshade := (editZone_cases hedit).2
        have hstored {st' : State} (h' : ShadesIdentified st') (hzones : st'.zones = st.zones)
            (hids : st'.idString = st.idString) :
            ShadesIdentified (st'.setZoneProperties zoneIndex edit.zoneProperties) ↔
              (st.idString zoneIndex.toNat ≠ [] && lastName root = some []) = false := by
          have hp' : st'.getZoneProperties zoneIndex = some p := by
            rwa [State.getZoneProperties, hzones]
          rw [h'.setZoneProperties_iff hindex hp' hshade, hids, zoneNamed_edit hnamed hedit,
            ← Bool.not_eq_true, Bool.and_eq_true, decide_eq_true_eq, decide_eq_true_eq]
        have hcalm := calm_sendRampCommandToTransmitTask st zoneIndex 101 0 highPriority 0 sending
        dsimp only [pure, Except.pure]
        split
        · exact hstored (h.of_calm hcalm) (zones_sendRampCommandToTransmitTask ..) hcalm.idString
        · exact hstored h rfl rfl

/-! ### Discoveries -/

theorem checkForQmotionIdStringMatch_lt_iff :
    checkForQmotionIdStringMatch st identifier < maxNumberOfZones ↔
      ∃ i < maxNumberOfZones, st.idString i = identifier := by
  have hfound : checkForQmotionIdStringMatch st identifier < (List.range maxNumberOfZones).length ↔
      ∃ i ∈ List.range maxNumberOfZones, decide (st.idString i = identifier) = true :=
    List.findIdx_lt_length
  rw [List.length_range] at hfound
  simpa only [List.mem_range, decide_eq_true_eq] using hfound

/-- What has a match changes nothing. -/
theorem addIfUnknown_of_match
    (hmatch : ∃ i < maxNumberOfZones, st.idString i = identifier) (name : List Byte)
    (isGroup : Bool) (garbage : ShadeGarbage) :
    addIfUnknown st name identifier isGroup garbage = st :=
  if_neg (Nat.not_le.2 (checkForQmotionIdStringMatch_lt_iff.2 hmatch))

/-- Without a free slot nothing changes. -/
theorem addIfUnknown_of_full (hfull : hasFreeSlot st = false) (name identifier : List Byte)
    (isGroup : Bool) (garbage : ShadeGarbage) :
    addIfUnknown st name identifier isGroup garbage = st := by
  unfold addIfUnknown
  dsimp only
  rw [if_neg (of_decide_eq_false hfull), ite_self]

theorem hasFreeSlot_iff : hasFreeSlot st = true ↔ st.zones.available < maxNumberOfZones := by
  rw [hasFreeSlot, decide_eq_true_eq, toNat_getAvailableZoneIndex]

/-- What has no match is stored in a free slot. -/
theorem addIfUnknown_of_free (hmatch : ¬ ∃ i < maxNumberOfZones, st.idString i = identifier)
    (hfree : hasFreeSlot st = true) (name : List Byte) (isGroup : Bool) (garbage : ShadeGarbage) :
    addIfUnknown st name identifier isGroup garbage =
      State.setZoneProperties
        { st with idString := Function.update st.idString st.zones.available (identifier.take 38) }
        st.getAvailableZoneIndex (newShade st.getAvailableZoneIndex name isGroup garbage) := by
  have hroom := hasFreeSlot_iff.1 hfree
  have hget : st.getZoneProperties st.getAvailableZoneIndex = none := by
    rw [State.getZoneProperties, toNat_getAvailableZoneIndex]
    exact Table.get_available hroom
  rw [checkForQmotionIdStringMatch_lt_iff.symm, Nat.not_lt] at hmatch
  rw [addIfUnknown, if_pos hmatch]
  dsimp only
  rw [if_pos (of_decide_eq_true hfree), addAShade, hget, toNat_getAvailableZoneIndex]

/-- The identifier of nothing changes nothing. -/
theorem ShadesIdentified.addIfUnknown_nil (h : ShadesIdentified st) (name : List Byte)
    (isGroup : Bool) (garbage : ShadeGarbage) : addIfUnknown st name [] isGroup garbage = st := by
  cases hfree : hasFreeSlot st with
  | false => exact addIfUnknown_of_full hfree name [] isGroup garbage
  | true =>
    have hroom := hasFreeSlot_iff.1 hfree
    refine addIfUnknown_of_match ⟨_, hroom, ?_⟩ name isGroup garbage
    exact h.idString_of_free hroom (Table.get_available hroom)

theorem addable_iff : addable d = true ↔
    d.identifier ≠ [] ∧ d.identifier.length ≤ 38 ∧ (nameOf d.name).chars ≠ [] :=
  decide_eq_true_iff

/-- What is added has an identifier of its own. -/
theorem ShadesIdentified.of_addsShade (h : ShadesIdentified st)
    (hnew : ∀ i < maxNumberOfZones, st.idString i ≠ d.identifier) (hadds : AddsShade st st' d) :
    ShadesIdentified st' := by
  obtain ⟨k, hk, p, -, htype, hzones, hids⟩ := hadds
  have hshade : isShade p = true := by
    rw [isShade, decide_eq_true_eq, Rf.IsShade, htype]
    cases d.isGroup
    · exact .inl rfl
    · exact .inr rfl
  refine ⟨fun i hi hid => ?_, fun i hi j hj hid heq => ?_⟩
  -- the slot of the new shade, and the others
  · by_cases hik : i = k
    · exact ⟨p, by rw [hzones, hik, Function.update_self], hshade⟩
    · rw [hids, Function.update_of_ne hik] at hid
      rw [hzones, Function.update_of_ne hik]
      exact h.shade i hi hid
  · rw [hids] at hid heq
    by_cases hik : i = k
    · by_cases hjk : j = k
      · exact hik.trans hjk.symm
      · rw [hik, Function.update_self, Function.update_of_ne hjk] at heq
        exact absurd heq.symm (hnew j hj)
    · rw [Function.update_of_ne hik] at hid heq
      by_cases hjk : j = k
      · rw [hjk, Function.update_self] at heq
        exact absurd heq (hnew i hi)
      · rw [Function.update_of_ne hjk] at heq
        exact h.distinct i hi j hj hid heq

/-- What is not known, and is no identifier of nothing, has no match. -/
theorem ne_of_not_known (hid : identifier ≠ []) (hknown : known st identifier = false) :
    ∀ i < maxNumberOfZones, st.idString i ≠ identifier := by
  intro i hi heq
  rw [known_iff.2 ⟨hid, i, hi, heq⟩] at hknown
  cases hknown

/-- **A shade that can be added is added.** -/
theorem addsShade_of_addable (hknown : known st d.identifier = false)
    (hfree : hasFreeSlot st = true) (hadd : addable d = true) (garbage : ShadeGarbage) :
    AddsShade st (addIfUnknown st d.name d.identifier d.isGroup garbage) d := by
  obtain ⟨hid, hlength, hname⟩ := addable_iff.1 hadd
  have hroom := hasFreeSlot_iff.1 hfree
  have hnew := ne_of_not_known hid hknown
  rw [addIfUnknown_of_free (fun ⟨i, hi, heq⟩ => hnew i hi heq) hfree,
    List.take_of_length_le hlength, State.setZoneProperties, toNat_getAvailableZoneIndex]
  refine ⟨st.zones.available, hroom,
    newShade st.getAvailableZoneIndex d.name d.isGroup garbage, Table.get_available hroom, rfl,
    ?_, rfl⟩
  have hnamed : zoneNamed (newShade st.getAvailableZoneIndex d.name d.isGroup garbage) = true :=
    decide_eq_true hname
  rw [Table.get_set, if_pos hroom, if_pos hnamed]

/-- **What cannot be added is not added.** -/
theorem ShadesIdentified.addable_of_addsShade (h : ShadesIdentified st)
    (hknown : known st d.identifier = false) (hfree : hasFreeSlot st = true)
    {garbage : ShadeGarbage}
    (hadds : AddsShade st (addIfUnknown st d.name d.identifier d.isGroup garbage) d) :
    addable d = true := by
  obtain ⟨i, hi, p, hget, -, hzones, hids⟩ := hadds
  have hroom := hasFreeSlot_iff.1 hfree
  have hsome : (addIfUnknown st d.name d.identifier d.isGroup garbage).zones.get i = some p := by
    rw [hzones, Function.update_self]
  have hid : d.identifier ≠ [] := by
    intro hnil
    rw [hnil, h.addIfUnknown_nil, hget] at hsome
    cases hsome
  have hnew := ne_of_not_known hid hknown
  rw [addIfUnknown_of_free (fun ⟨i, hi, heq⟩ => hnew i hi heq) hfree, State.setZoneProperties,
    toNat_getAvailableZoneIndex] at hsome hids
  refine addable_iff.2 ⟨hid, ?_, fun hname => ?_⟩
  · -- the identifier is in the slot as it is
    have hstored : Function.update st.idString st.zones.available (d.identifier.take 38)
          st.zones.available =
        Function.update st.idString i d.identifier st.zones.available := congrFun hids _
    rw [Function.update_self] at hstored
    by_cases hi : st.zones.available = i
    · rw [hi, Function.update_self] at hstored
      rw [← hstored]
      exact List.length_take_le _ _
    · rw [Function.update_of_ne hi, h.idString_of_free hroom (Table.get_available hroom),
        List.take_eq_nil_iff] at hstored
      exact absurd (hstored.resolve_left (by decide)) hid
  · -- the slot is still free
    have hunnamed : zoneNamed (newShade st.getAvailableZoneIndex d.name d.isGroup garbage) =
        false := by
      rw [zoneNamed, newShade, hname]
      rfl
    rw [Table.set_unnamed (Table.get_available hroom) hunnamed] at hsome
    exact absurd (hget.symm.trans hsome) (Option.some_ne_none p).symm

/-- **A discovery is lawful** exactly if it is known, there is no room, or it can be added. -/
theorem ShadesIdentified.addIfUnknown_iff (h : ShadesIdentified st) (d : Discovery)
    (garbage : ShadeGarbage) :
    ShadesIdentified (addIfUnknown st d.name d.identifier d.isGroup garbage) ∧
        DiscoveryLaw st (addIfUnknown st d.name d.identifier d.isGroup garbage) d ↔
      (known st d.identifier || !hasFreeSlot st || addable d) = true := by
  cases hknown : known st d.identifier with
  | true =>
    have hsame := addIfUnknown_of_match (known_iff.1 hknown).2 d.name d.isGroup garbage
    rw [hsame]
    exact iff_of_true ⟨h, fun _ => rfl, fun hnot => absurd (hnot.symm.trans hknown) (by simp)⟩ rfl
  | false =>
    cases hfree : hasFreeSlot st with
    | false =>
      rw [addIfUnknown_of_full hfree]
      exact iff_of_true ⟨h, fun _ => rfl, fun _ hroom => absurd (hfree.symm.trans hroom) (by simp)⟩
        rfl
    | true =>
      rw [Bool.false_or, Bool.not_true, Bool.false_or]
      constructor
      · rintro ⟨-, hlaw⟩
        exact h.addable_of_addsShade hknown hfree (hlaw.adds hknown hfree)
      · intro hadd
        have hadds := addsShade_of_addable hknown hfree hadd garbage
        refine ⟨h.of_addsShade (ne_of_not_known (addable_iff.1 hadd).1 hknown) hadds, ?_,
          fun _ _ => hadds⟩
        exact fun hyes => absurd (hknown.symm.trans hyes) (by simp)

/-! ### Runs -/

/-- What is discovered is added if it is unknown. -/
theorem next_of_discovered (st : State) {e : Event} (he : discovered e = some d) :
    ∃ garbage, next st e = addIfUnknown st d.name d.identifier d.isGroup garbage := by
  cases e with
  | devicesInfo element garbage =>
    refine ⟨garbage, ?_⟩
    simp only [discovered] at he
    rw [next, handleDevicesInfoResponse]
    cases htype : element.get "deviceType" with
    | none =>
      rw [htype] at he
      cases he
    | some deviceType =>
      cases hid : element.get "identifier" with
      | none =>
        rw [htype, hid] at he
        cases he
      | some identifier =>
        rw [htype, hid] at he
        dsimp only at he ⊢
        by_cases hshade : deviceType.chars = JsonT.bytesOfString "shade"
        · rw [if_pos hshade] at he ⊢
          cases he
          rfl
        · rw [if_neg hshade] at he
          cases he
  | qmotionGroups element garbage =>
    refine ⟨garbage, ?_⟩
    simp only [discovered] at he
    rw [next, handleQmotionGroupsResponse]
    cases hid : element.get "groupId" with
    | none =>
      rw [hid] at he
      cases he
    | some identifier =>
      rw [hid] at he
      dsimp only at he ⊢
      by_cases hinteger : identifier.isInteger = true
      · rw [if_pos hinteger] at he ⊢
        cases he
        rfl
      · rw [if_neg hinteger] at he
        cases he
  | _ => cases he

/-- Nothing is added if nothing is discovered. -/
theorem handleDevicesInfoResponse_of_not_discovered (st : State) {element : JsonT}
    {garbage : ShadeGarbage} (he : discovered (.devicesInfo element garbage) = none) :
    handleDevicesInfoResponse st element garbage = st := by
  simp only [discovered] at he
  rw [handleDevicesInfoResponse]
  cases htype : element.get "deviceType" with
  | none => rfl
  | some deviceType =>
    cases hid : element.get "identifier" with
    | none => rfl
    | some identifier =>
      rw [htype, hid] at he
      dsimp only at he ⊢
      by_cases hshade : deviceType.chars = JsonT.bytesOfString "shade"
      · rw [if_pos hshade] at he
        cases he
      · exact if_neg hshade

/-- A group id that is no integer is taken for the identifier of nothing. -/
theorem ShadesIdentified.handleQmotionGroupsResponse (h : ShadesIdentified st) {element : JsonT}
    {garbage : ShadeGarbage} (he : discovered (.qmotionGroups element garbage) = none) :
    handleQmotionGroupsResponse st element garbage = st := by
  simp only [discovered] at he
  rw [House.handleQmotionGroupsResponse]
  cases hid : element.get "groupId" with
  | none => rfl
  | some identifier =>
    rw [hid] at he
    dsimp only at he ⊢
    split at he
    · cases he
    · rename_i hinteger
      rw [if_neg hinteger]
      exact h.addIfUnknown_nil ..

/-- The other operations keep the table. -/
theorem ShadesIdentified.next_of_not_discovered (h : ShadesIdentified st) {e : Event}
    (hreboot : e.isReboot = false) (he : discovered e = none)
    (hkeeps : unnames st e = false) : ShadesIdentified (next st e) := by
  cases e with
  | setZoneProperties root errorFlag sending =>
    exact (h.handleSetZoneProperties_iff root errorFlag sending).2 hkeeps
  | deleteZone root => exact h.handleDeleteZone root
  | triggerRamp root EliotDeviceId =>
    simp only [House.next, handleTriggerRampCommand]
    split
    · exact h
    · exact h.handleRampReceived ..
  | createScene root garbage nextTriggerTime =>
    obtain heq | ⟨p, -, -, heq⟩ := handleCreateScene_cases st root garbage nextTriggerTime
    · rwa [House.next, heq]
    · rw [House.next, heq]
      exact h.of_eq rfl rfl
  | setSceneProperties root nextTriggerTime =>
    obtain heq | ⟨sceneIndex, p, p', -, -, heq⟩ :=
      handleSetSceneProperties_cases st root nextTriggerTime
    · rwa [House.next, heq]
    · rw [House.next, heq]
      exact h.of_eq rfl rfl
  | deleteScene root =>
    obtain heq | ⟨sceneIndex, p, -, heq⟩ := handleDeleteScene_cases st root
    · rwa [House.next, heq]
    · rw [House.next, heq]
      exact h.of_eq rfl rfl
  | setSceneControllerProperties root commands =>
    obtain heq | ⟨sceneControllerIndex, p, edit, -, -, heq⟩ :=
      handleSetSceneControllerProperties_cases st root commands
    · rwa [House.next, heq]
    · rw [House.next, heq]
      exact h.of_eq rfl rfl
  | deleteSceneController root commands =>
    obtain heq | heq | ⟨sceneControllerIndex, p, -, heq⟩ :=
      handleDeleteSceneController_cases st root commands
    · rwa [House.next, heq]
    · rw [House.next, heq]
      exact h.clearHouseID
    · rw [House.next, heq]
      refine ShadesIdentified.clearHouseID ?_
      exact h.of_eq rfl rfl
  | triggerSceneController root env garbage =>
    obtain hcalm | ⟨_, _, _, heq⟩ := handleTriggerSceneControllerCommand_cases st root env garbage
    · exact h.of_calm hcalm
    · rw [House.next, heq]
      exact h.handleSceneControllerCommandReceived ..
  | received call env =>
    obtain ⟨call, hcall⟩ := call
    obtain hcalm | ⟨_, _, _, _, _, rfl⟩ | ⟨_, _, _, heq⟩ := handleCall_cases st env call
    · exact h.of_calm hcalm
    · exact h.handleRampReceived ..
    · rw [House.next, heq]
      exact h.handleSceneControllerCommandReceived ..
  | devicesInfo element garbage =>
    rwa [House.next, handleDevicesInfoResponse_of_not_discovered st he]
  | qmotionGroups element garbage => rwa [House.next, h.handleQmotionGroupsResponse he]
  | reboot addASceneController idString => cases hreboot
  | clearFlash =>
    exact ⟨fun _ _ hid => absurd rfl hid, fun _ _ _ _ hid => absurd rfl hid⟩
  | _ => exact h.of_calm (next_calm st rfl)

/-- **When an operation is lawful.** -/
theorem ShadesIdentified.lawful_iff (h : ShadesIdentified st) (e : RunningEvent) :
    Lawful st e.val ↔ keepsIdentifiers st e.val = true := by
  obtain ⟨e, hreboot⟩ := e
  cases he : discovered e with
  | some d =>
    obtain ⟨garbage, hnext⟩ := next_of_discovered st he
    have hunnames : unnames st e = false := by
      cases e with
      | setZoneProperties root errorFlag sending => cases he
      | _ => rfl
    rw [keepsIdentifiers, hunnames, he, Option.all_some, Bool.not_false, Bool.true_and,
      ← h.addIfUnknown_iff d garbage, ← hnext]
    constructor
    · intro hlawful
      exact ⟨hlawful.identified, hlawful.law d he⟩
    · rintro ⟨hidentified, hlaw⟩
      refine ⟨hidentified, fun d' hd' => ?_⟩
      obtain rfl := Option.some.inj (he.symm.trans hd')
      exact hlaw
  | none =>
    have hlaw : ∀ d ∈ discovered e, DiscoveryLaw st (next st e) d := by
      rw [he]
      exact fun _ hd => nomatch hd
    rw [keepsIdentifiers, he, Option.all_none, Bool.and_true, Bool.not_eq_true']
    refine ⟨fun hlawful => ?_, fun hkeeps =>
      ⟨h.next_of_not_discovered hreboot he hkeeps, hlaw⟩⟩
    cases e with
    | setZoneProperties root errorFlag sending =>
      exact (h.handleSetZoneProperties_iff root errorFlag sending).1 hlawful.identified
    | _ => rfl

theorem shadesIdentified_initial : ShadesIdentified State.initial :=
  ⟨fun _ _ hid => absurd rfl hid, fun _ _ _ _ hid => absurd rfl hid⟩

/-- **The operations of a run are lawful** exactly if they meet the condition. -/
theorem allSteps_lawful_iff (es : List RunningEvent) :
    runningMachine.AllSteps (fun st e => Lawful st e.val) State.initial es ↔
      runningMachine.AllSteps (fun st e => keepsIdentifiers st e.val = true) State.initial es := by
  refine Machine.allSteps_congr ?_ (fun st e h => h.lawful_iff e) shadesIdentified_initial
  intro st e st' h hkeeps hnext
  obtain rfl := Option.some.inj hnext
  exact ((h.lawful_iff e).2 hkeeps).identified

end ShadeIds

/-- A shade is discovered, and then its name is cleared. -/
def clearShadeName : List RunningEvent :=
  [⟨.devicesInfo
      (.object [("identifier", .string "A1"), ("deviceType", .string "shade"),
        ("name", .string "Bay")]) ⟨0, 0, 0, CString.empty eliotDeviceIdSize_pos⟩, rfl⟩,
    ⟨.setZoneProperties (propertiesRequest ("ZID", 0) [("Name", .string "")]) false ⟨true, true⟩,
      rfl⟩]

/-- **A shade that loses its name keeps its identifier.** -/
theorem not_allSteps_lawful : ¬ ∀ es : List RunningEvent,
    runningMachine.AllSteps (fun st e => Lawful st e.val) State.initial es := by
  intro h
  have hstates : runningMachine.AllStates ShadesIdentified State.initial clearShadeName := by
    refine Machine.allStates_of_allSteps ?_ shadesIdentified_initial (h clearShadeName)
    intro st e st' _ hlawful hnext
    obtain rfl := Option.some.inj hnext
    exact hlawful.identified
  have hrun : (runningMachine.run State.initial clearShadeName).any (fun st =>
      st.idString 0 ≠ [] && (st.zones.get 0).isNone) = true := by
    decide +kernel
  obtain ⟨st, hrun, hst⟩ := (Option.any_eq_true ..).1 hrun
  -- the slot is free again, and the identifier still there
  obtain ⟨hid, hnone⟩ := Bool.and_eq_true_iff.1 hst
  have hfree : st.zones.get 0 = none := Option.isNone_iff_eq_none.1 hnone
  obtain ⟨p, hp, -⟩ := (hstates.of_run hrun).shade 0 (by decide) (of_decide_eq_true hid)
  exact absurd (hfree.symm.trans hp) (Option.some_ne_none p).symm

end House

end Lcm
