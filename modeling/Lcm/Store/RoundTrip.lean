import Lcm.Run.Basic
import Lcm.Store.Kinds

/-!
# What is set is got

Setting the properties of a zone or scene and getting them again, before or after a restart, as
an update of a map from indices to properties.

## Main definitions

* `Kind.RoundTrip` : the properties that are set, and no others, are got from then on.
* `Kind.Usable` : the slots of an index can take the properties.
* `Kind.machine` : setting properties, restarting and clearing the flash.
* `Kind.Inv` : the invariant, which says what the two regions hold.

## Main results

* `Kind.Holds.roundTrip_iff` : properties make the round trip exactly if the slots are usable.
* `Kind.allSteps_roundTrips_iff` : the same for all steps of a run.
-/

namespace Lcm

namespace Store

open Flash

namespace Kind

variable {P V W : Type*} (k : Kind P V W)

/-- What is set: nothing if there is no name. -/
def stored (p : P) : Option P := if k.codec.named (k.nonvolatile p) then some p else none

/-- The properties after a restart. -/
def restarted (p : P) : P := k.properties (k.nonvolatile p) (k.EliotDeviceId p) k.initial

/-- **The round trip**: the properties are set, and from then on they are got for their index, and
for the other indices what was got before; the same after a restart, apart from what is only kept
in RAM. -/
def RoundTrip (st : State W) (index : ℕ) (p : P) (garbage : Garbage) : Prop :=
  ∃ st', k.setProperties st index p garbage = some (true, st') ∧
    k.getProperties st' = Function.update (k.getProperties st) index (k.stored p) ∧
    k.getProperties (k.reboot st') = fun j =>
      (Function.update (k.getProperties st) index (k.stored p) j).map k.restarted

/-- **The slots can take the properties**: the slot of the id exists; if the record is erased, the
id is, too; and otherwise the id is the stored one, or the array for the ids is large enough. -/
def Usable (st : State W) (index : ℕ) (p : P) : Prop :=
  k.eliotRegion.InRange index ∧
    if Uninitialized k.codec.size (bytesAt st.memory (k.region.address index + 8)) then
      k.codec.named (k.nonvolatile p) = true →
        Uninitialized eliotDeviceIdSize (bytesAt st.memory (k.eliotRegion.address index + 8))
    else
      eliotCodec.same (k.EliotDeviceId p) (bytesAt st.memory (k.eliotRegion.address index + 8)) ∨
        k.eliotRegion.perSector ≤ k.eliotArraySize

/-- The values of a kind fit. -/
structure Fits : Prop where
  /-- The region of the records. -/
  region : k.region.Fits
  /-- The region of the ids. -/
  eliotRegion : k.eliotRegion.Fits
  /-- The size of a record. -/
  size : k.codec.size = k.region.recordSize
  /-- The size of an id. -/
  eliotSize : eliotDeviceIdSize = k.eliotRegion.recordSize
  /-- All records have a slot. -/
  inRange : ∀ i < k.maxNumber, k.region.InRange i
  /-- An id without a slot lies behind the region. -/
  eliotInRange : ∀ i < k.maxNumber, ¬ k.eliotRegion.InRange i →
    k.eliotRegion.endAddress ≤ k.eliotRegion.address i
  /-- The ids are behind the records. -/
  disjoint : k.region.endAddress ≤ k.eliotRegion.startAddress
  /-- And behind the sectors of the records. -/
  sectors : ∀ i < k.maxNumber, k.region.sectorAddress i + 0x1000 ≤ k.eliotRegion.startAddress
  /-- Both are part of the data. -/
  data : 0xdb000 ≤ k.region.startAddress ∧ k.region.endAddress ≤ 0xfe000 ∧
    k.eliotRegion.endAddress ≤ 0xfe000 ∧ 0xdb000 ≤ k.eliotRegion.startAddress

variable {k} {st st' : State W} {i j : ℕ} {p : P} {garbage : Garbage} {values : ℕ → Option V}
  {ids : ℕ → Option (CString eliotDeviceIdSize)} {m : Memory}

/-! ### What the flash and the array hold -/

/-- The two regions hold values and ids, and the array points to them. -/
structure Holds (k : Kind P V W) (st : State W) (values : ℕ → Option V)
    (ids : ℕ → Option (CString eliotDeviceIdSize)) : Prop where
  /-- The records. -/
  models : k.region.Models k.codec st.memory values
  /-- The ids. -/
  eliotModels : k.eliotRegion.Models eliotCodec st.memory ids
  /-- There is no id without a slot. -/
  noSlot : ∀ i < k.maxNumber, ¬ k.eliotRegion.InRange i → ids i = none
  /-- The pointers to the records. -/
  ptr : ∀ i < k.maxNumber,
    (st.array i).nvProperties = (values i).map fun _ => k.region.address i + 8
  /-- The pointers to the ids. -/
  eliotPtr : ∀ i < k.maxNumber, values i ≠ none →
    (st.array i).nvEliotProperties = (ids i).map fun _ => k.eliotRegion.address i + 8

/-- The properties for a value and an id. -/
def ofParts (k : Kind P V W) (value : Option V) (id : Option (CString eliotDeviceIdSize)) (w : W) :
    Option P :=
  value.map fun v => k.properties v (id.getD (CString.empty eliotDeviceIdSize_pos)) w

theorem Holds.getProperties (hfits : k.Fits) (h : k.Holds st values ids) (hi : i < k.maxNumber) :
    k.getProperties st i = k.ofParts (values i) (ids i) (st.array i).volatile := by
  rw [Kind.getProperties, if_pos hi, h.ptr i hi, ofParts]
  cases hv : values i with
  | none => rfl
  | some v =>
    have heliot := h.eliotPtr i hi (by rw [hv]; exact Option.some_ne_none v)
    rw [heliot, Option.map_some, Option.map_some, Option.map_some,
      h.models.decode hfits.size (hfits.inRange i hi) hv]
    cases hid : ids i with
    | none => rfl
    | some id =>
      have hrange : k.eliotRegion.InRange i := by
        by_contra hrange
        cases hid.symm.trans (h.noSlot i hi hrange)
      rw [Option.map_some]
      dsimp only
      rw [h.eliotModels.decode hfits.eliotSize hrange hid, Option.getD_some]

theorem getProperties_of_le (hi : ¬ i < k.maxNumber) : k.getProperties st i = none := if_neg hi

theorem Holds.uninitialized_iff (hfits : k.Fits) (h : k.Holds st values ids)
    (hi : i < k.maxNumber) :
    Uninitialized k.codec.size (bytesAt st.memory (k.region.address i + 8)) ↔
      values i = none := by
  rw [hfits.size]
  exact h.models.uninitialized_iff (hfits.inRange i hi)

theorem Holds.eliotUninitialized_iff (hfits : k.Fits) (h : k.Holds st values ids)
    (hrange : k.eliotRegion.InRange i) :
    Uninitialized eliotDeviceIdSize (bytesAt st.memory (k.eliotRegion.address i + 8)) ↔
      ids i = none := by
  have huninit := h.eliotModels.uninitialized_iff hrange
  rwa [← hfits.eliotSize] at huninit

/-- A record is created with an id: the slot of the id has to be free. -/
theorem Holds.usable_iff_of_none (hfits : k.Fits) (h : k.Holds st values ids)
    (hi : i < k.maxNumber) (hrange : k.eliotRegion.InRange i) (hv : values i = none) :
    k.Usable st i p ↔ (k.codec.named (k.nonvolatile p) = true → ids i = none) := by
  rw [Usable, and_iff_right hrange, if_pos ((h.uninitialized_iff hfits hi).2 hv),
    h.eliotUninitialized_iff hfits hrange]

/-- A record is updated with an id: the id has to be the same, or the array large enough. -/
theorem Holds.usable_iff_of_ne_none (hfits : k.Fits) (h : k.Holds st values ids)
    (hi : i < k.maxNumber) (hrange : k.eliotRegion.InRange i) (hv : values i ≠ none) :
    k.Usable st i p ↔
      eliotCodec.same (k.EliotDeviceId p) (bytesAt st.memory (k.eliotRegion.address i + 8)) ∨
        k.eliotRegion.perSector ≤ k.eliotArraySize := by
  rw [Usable, and_iff_right hrange, if_neg (mt (h.uninitialized_iff hfits hi).1 hv)]

/-- **A restart** finds what the flash holds. -/
theorem holds_reboot (hfits : k.Fits) (hmodels : k.region.Models k.codec st.memory values)
    (hids : k.eliotRegion.Models eliotCodec st.memory ids)
    (hnoSlot : ∀ i < k.maxNumber, ¬ k.eliotRegion.InRange i → ids i = none) :
    k.Holds (k.reboot st) values ids where
  models := hmodels
  eliotModels := hids
  noSlot := hnoSlot
  ptr i hi := by
    have hptr := hmodels.getPtr hfits.region (hfits.inRange i hi)
    simp only [Kind.reboot, loadFromFlash, if_pos hi, initializeArray, hptr]
    cases values i with
    | none => rfl
    | some v => rfl
  eliotPtr i hi hv := by
    have hptr := hmodels.getPtr hfits.region (hfits.inRange i hi)
    obtain ⟨v, hv⟩ := Option.ne_none_iff_exists'.1 hv
    rw [hv, Option.map_some] at hptr
    simp only [Kind.reboot, loadFromFlash, if_pos hi, initializeArray, hptr]
    by_cases hrange : k.eliotRegion.InRange i
    · exact hids.getPtr hfits.eliotRegion hrange
    · rw [hnoSlot i hi hrange, Option.map_none]
      exact Region.getPtr_of_le (hfits.eliotInRange i hi hrange) true

theorem Holds.reboot (hfits : k.Fits) (h : k.Holds st values ids) :
    k.Holds (k.reboot st) values ids :=
  holds_reboot hfits h.models h.eliotModels h.noSlot

theorem reboot_volatile (i : ℕ) : ((k.reboot st).array i).volatile = k.initial := by
  simp only [Kind.reboot, loadFromFlash, initializeArray]
  split
  · split <;> rfl
  · rfl

theorem ofParts_restarted {value : Option V} {id : Option (CString eliotDeviceIdSize)} {w : W} :
    (k.ofParts value id w).map k.restarted = k.ofParts value id k.initial := by
  cases value with
  | none => rfl
  | some v =>
    simp only [ofParts, Option.map_some, restarted, k.nonvolatile_properties,
      k.EliotDeviceId_properties]

/-! ### Setting properties -/

/-- A write to the records leaves the ids alone. -/
theorem Fits.eliot_frame (hfits : k.Fits) (hi : i < k.maxNumber) {m' : Memory}
    (h : k.eliotRegion.Models eliotCodec m ids)
    (hagree : AgreeOutside (k.region.sectorAddress i) 0x1000 m m') :
    k.eliotRegion.Models eliotCodec m' ids :=
  h.frame hagree (.inr (hfits.sectors i hi))

/-- A write to a slot for ids leaves the records alone. -/
theorem Fits.frame (hfits : k.Fits) {m' : Memory} {a n : ℕ} (h : k.region.Models k.codec m values)
    (hagree : AgreeOutside a n m m') (ha : k.eliotRegion.startAddress ≤ a) :
    k.region.Models k.codec m' values :=
  h.frame hagree (.inl (Nat.le_trans hfits.disjoint ha))

/-- The bytes of the ids after a write to the records. -/
theorem Fits.eliot_bytes (hfits : k.Fits) (hi : i < k.maxNumber) {m' : Memory}
    (hagree : AgreeOutside (k.region.sectorAddress i) 0x1000 m m') (j : ℕ) :
    bytesAt m' (k.eliotRegion.address j + 8) = bytesAt m (k.eliotRegion.address j + 8) := by
  have hsectors := hfits.sectors i hi
  have hstart := Region.le_address (r := k.eliotRegion) (i := j)
  funext b
  exact hagree _ (by omega)

theorem create_agree_sector (hfits : k.Fits) {v : V} {b : ℕ → Byte} :
    AgreeOutside (k.region.sectorAddress i) 0x1000 m (k.region.create k.codec m i v b).1 :=
  Region.create_agree.mono (hfits.region.inSector i)

/-- What a new zone or scene leaves in the flash. -/
theorem setNew_spec (hfits : k.Fits) (hi : i < k.maxNumber) (hrange : k.eliotRegion.InRange i)
    (h : k.region.Models k.codec m values) (heliot : k.eliotRegion.Models eliotCodec m ids)
    (hnone : values i = none) (p : P) (garbage : Garbage) :
    ∃ ids', k.region.Models k.codec (k.setNew m i p garbage).1
        (Function.update values i (k.codec.stored (k.nonvolatile p))) ∧
      k.eliotRegion.Models eliotCodec (k.setNew m i p garbage).1 ids' ∧
      (k.setNew m i p garbage).2.1 = k.codec.named (k.nonvolatile p) ∧
      (∀ j ≠ i, ids' j = ids j) ∧
      (k.codec.named (k.nonvolatile p) = true →
        if ids i = none then
          ids' i = eliotCodec.stored (k.EliotDeviceId p) ∧
            (k.setNew m i p garbage).2.2 = eliotCodec.named (k.EliotDeviceId p)
        else ids' i = ids i ∧ (k.setNew m i p garbage).2.2 = false) := by
  unfold setNew
  by_cases hnamed : k.codec.named (k.nonvolatile p) = true
  · obtain ⟨hcreated, hwritten⟩ :=
      h.create hfits.region hfits.size (hfits.inRange i hi) hnone hnamed garbage.record
    have hagree := create_agree_sector (m := m) (i := i) hfits (v := k.nonvolatile p)
      (b := garbage.record)
    have hids := hfits.eliot_frame hi heliot hagree
    have hstart := Region.le_address (r := k.eliotRegion) (i := i)
    rw [if_pos hnamed, Codec.stored, if_pos hnamed]
    dsimp only
    by_cases hid : ids i = none
    · rw [if_pos (hfits.eliotSize ▸ (hids.uninitialized_iff hrange).2 hid)]
      by_cases hidNamed : eliotCodec.named (k.EliotDeviceId p) = true
      · obtain ⟨hidCreated, hidWritten⟩ := hids.create hfits.eliotRegion hfits.eliotSize hrange hid
          hidNamed garbage.eliotRecord
        rw [if_pos hidNamed, Codec.stored, if_pos hidNamed]
        refine ⟨_, hfits.frame hcreated Region.create_agree hstart, hidCreated,
          hwritten.trans hnamed.symm, fun j hj => Function.update_of_ne hj _ _, fun _ => ?_⟩
        rw [if_pos hid]
        exact ⟨Function.update_self .., hidWritten.trans hidNamed.symm⟩
      · rw [if_neg hidNamed, Codec.stored, if_neg hidNamed]
        refine ⟨ids, hcreated, hids, hwritten.trans hnamed.symm, fun _ _ => rfl, fun _ => ?_⟩
        rw [if_pos hid]
        exact ⟨hid, (Bool.not_eq_true _ ▸ hidNamed).symm⟩
    · -- the id of an earlier zone or scene is still there
      rw [if_neg fun hinit => hid ((hids.uninitialized_iff hrange).1 (hfits.eliotSize ▸ hinit))]
      refine ⟨ids, hcreated, hids, hwritten.trans hnamed.symm, fun _ _ => rfl, fun _ => ?_⟩
      rw [if_neg hid]
      exact ⟨rfl, rfl⟩
  · rw [if_neg hnamed, Codec.stored, if_neg hnamed, ← hnone, Function.update_eq_self]
    exact ⟨ids, h, heliot, (Bool.not_eq_true _ ▸ hnamed).symm, fun _ _ => rfl,
      fun h => absurd h hnamed⟩

/-- What an update of a zone or scene leaves in the flash, unless it writes behind an array. -/
theorem setOld_spec (hfits : k.Fits) (hi : i < k.maxNumber) (hrange : k.eliotRegion.InRange i)
    (h : k.region.Models k.codec m values) (heliot : k.eliotRegion.Models eliotCodec m ids)
    (p : P) (garbage : Garbage) :
    (eliotCodec.same (k.EliotDeviceId p) (bytesAt m (k.eliotRegion.address i + 8)) = true ∨
        k.eliotRegion.perSector ≤ k.eliotArraySize) ∧
      (∃ m', k.setOld m i p garbage = some (m', k.codec.named (k.nonvolatile p),
          eliotCodec.named (k.EliotDeviceId p)) ∧
        k.region.Models k.codec m'
          (Function.update values i (k.codec.stored (k.nonvolatile p))) ∧
        k.eliotRegion.Models eliotCodec m'
          (Function.update ids i (eliotCodec.stored (k.EliotDeviceId p)))) ∨
    ¬ (eliotCodec.same (k.EliotDeviceId p) (bytesAt m (k.eliotRegion.address i + 8)) = true ∨
        k.eliotRegion.perSector ≤ k.eliotArraySize) ∧ k.setOld m i p garbage = none := by
  obtain ⟨hupdated, hwritten⟩ :=
    h.update hfits.region hfits.size (hfits.inRange i hi) (k.nonvolatile p) garbage.nvArray
  have hagree := Region.update_agree (m := m) (i := i) (c := k.codec) (v := k.nonvolatile p)
    hfits.region garbage.nvArray
  have hids := hfits.eliot_frame hi heliot hagree
  obtain ⟨hidUpdated, hidWritten⟩ :=
    hids.update hfits.eliotRegion hfits.eliotSize hrange (k.EliotDeviceId p) garbage.nvEliotArray
  unfold setOld
  dsimp only
  rw [hfits.eliot_bytes hi hagree]
  by_cases hroom : eliotCodec.same (k.EliotDeviceId p)
      (bytesAt m (k.eliotRegion.address i + 8)) = true ∨ k.eliotRegion.perSector ≤ k.eliotArraySize
  · rw [if_pos hroom]
    refine .inl ⟨hroom, _, ?_, hfits.frame hupdated (Region.update_agree hfits.eliotRegion _) ?_,
      hidUpdated⟩
    · rw [hwritten, hidWritten]
    · exact Nat.le_add_right _ _
  · rw [if_neg hroom]
    exact .inr ⟨hroom, rfl⟩

/-- An id, or none, is what is read for it. -/
theorem getD_stored (id : CString eliotDeviceIdSize) :
    (eliotCodec.stored id).getD (CString.empty (by decide)) = id := by
  unfold Codec.stored
  split
  · rfl
  · rename_i hid
    have hnil : id.chars = [] := by simpa [eliotCodec] using hid
    exact CString.ext hnil.symm

/-- The array after its entry is set. -/
theorem holds_update {m' : Memory} {ids' : ℕ → Option (CString eliotDeviceIdSize)}
    {value : Option V} {written eliotWritten : Bool} (h : k.Holds st values ids)
    (hi : i < k.maxNumber) (hrange : k.eliotRegion.InRange i)
    (hmodels : k.region.Models k.codec m' (Function.update values i value))
    (hids : k.eliotRegion.Models eliotCodec m' ids') (hother : ∀ j ≠ i, ids' j = ids j)
    (hwritten : written = value.isSome)
    (heliotWritten : value ≠ none → eliotWritten = (ids' i).isSome) (w : W) :
    k.Holds ⟨m', Function.update st.array i
      ⟨w, keep written (k.region.address i + 8), keep eliotWritten (k.eliotRegion.address i + 8)⟩⟩
      (Function.update values i value) ids' where
  models := hmodels
  eliotModels := hids
  noSlot j hj hnot := by
    by_cases hji : j = i
    · exact absurd (hji ▸ hrange) hnot
    · exact (hother j hji).trans (h.noSlot j hj hnot)
  ptr j hj := by
    by_cases hji : j = i
    · subst hji
      simp only [Function.update_self, hwritten]
      cases value <;> rfl
    · simp only [Function.update_of_ne hji]
      exact h.ptr j hj
  eliotPtr j hj hv := by
    by_cases hji : j = i
    · subst hji
      rw [Function.update_self] at hv
      simp only [Function.update_self, heliotWritten hv]
      cases ids' j <;> rfl
    · rw [Function.update_of_ne hji] at hv
      simp only [Function.update_of_ne hji, hother j hji]
      exact h.eliotPtr j hj hv

/-- What does not exist is created, and its pointers are set. -/
theorem Holds.setProperties_new (hfits : k.Fits) (h : k.Holds st values ids)
    (hi : i < k.maxNumber) (hrange : k.eliotRegion.InRange i) (hv : values i = none) (p : P)
    (garbage : Garbage) :
    k.setProperties st i p garbage =
      some (true, { memory := (k.setNew st.memory i p garbage).1
                    array := Function.update st.array i
                      { volatile := k.volatile p
                        nvProperties := keep (k.setNew st.memory i p garbage).2.1
                          (k.region.address i + 8)
                        nvEliotProperties := keep (k.setNew st.memory i p garbage).2.2
                          (k.eliotRegion.address i + 8) } }) := by
  rw [setProperties, if_pos hi, Region.getPtr_unchecked (hfits.inRange i hi),
    Region.getPtr_unchecked hrange]
  dsimp only
  rw [if_pos ((h.uninitialized_iff hfits hi).2 hv)]
  rfl

/-- What exists is updated, and its pointers are set. -/
theorem Holds.setProperties_eq (hfits : k.Fits) (h : k.Holds st values ids) (hi : i < k.maxNumber)
    (hrange : k.eliotRegion.InRange i) (hv : values i ≠ none) (p : P) (garbage : Garbage) :
    k.setProperties st i p garbage =
      (k.setOld st.memory i p garbage).map fun (memory, written, eliotWritten) =>
        (true, { memory := memory
                 array := Function.update st.array i
                  { volatile := k.volatile p
                    nvProperties := keep written (k.region.address i + 8)
                    nvEliotProperties := keep eliotWritten (k.eliotRegion.address i + 8) } }) := by
  rw [setProperties, if_pos hi, Region.getPtr_unchecked (hfits.inRange i hi),
    Region.getPtr_unchecked hrange]
  dsimp only
  rw [if_neg (mt (h.uninitialized_iff hfits hi).1 hv)]

/-- **Setting properties for usable slots.** -/
theorem Holds.set (hfits : k.Fits) (h : k.Holds st values ids) (hi : i < k.maxNumber)
    (hu : k.Usable st i p) (garbage : Garbage) :
    ∃ st' ids', k.setProperties st i p garbage = some (true, st') ∧
      k.Holds st' (Function.update values i (k.codec.stored (k.nonvolatile p))) ids' ∧
      (∀ j ≠ i, ids' j = ids j ∧ (st'.array j).volatile = (st.array j).volatile) ∧
      (k.codec.named (k.nonvolatile p) = true ∨ values i ≠ none →
        (ids' i).getD (CString.empty (by decide)) = k.EliotDeviceId p) ∧
      (st'.array i).volatile = k.volatile p := by
  have hrange := hu.1
  by_cases hnone : values i = none
  · have hslots := (h.usable_iff_of_none hfits hi hrange hnone).1 hu
    rw [h.setProperties_new hfits hi hrange hnone]
    obtain ⟨ids', hmodels, hids, hwritten, hother, hid⟩ :=
      setNew_spec hfits hi hrange h.models h.eliotModels hnone p garbage
    refine ⟨_, ids', rfl, ?_, fun j hj => ⟨hother j hj, ?_⟩, fun hnamed => ?_, ?_⟩
    · refine holds_update h hi hrange hmodels hids hother ?_ (fun hstored => ?_) _
      · rw [hwritten, Codec.stored]
        cases k.codec.named (k.nonvolatile p) <;> rfl
      · have hnamed : k.codec.named (k.nonvolatile p) = true := by
          by_contra hnamed
          exact hstored (if_neg hnamed)
        have hidNone := hid hnamed
        rw [if_pos (hslots hnamed)] at hidNone
        rw [hidNone.2, hidNone.1, Codec.stored]
        cases eliotCodec.named (k.EliotDeviceId p) <;> rfl
    · simp only [Function.update_of_ne hj]
    · have hnamed := hnamed.resolve_right (not_not.2 hnone)
      have hidNone := hid hnamed
      rw [if_pos (hslots hnamed)] at hidNone
      rw [hidNone.1, getD_stored]
    · simp only [Function.update_self]
  · have hslots := (h.usable_iff_of_ne_none hfits hi hrange hnone).1 hu
    rw [h.setProperties_eq hfits hi hrange hnone]
    obtain ⟨-, m', hset, hmodels, hids⟩ | ⟨hroom, -⟩ :=
      setOld_spec hfits hi hrange h.models h.eliotModels p garbage
    · rw [hset]
      refine ⟨_, Function.update ids i (eliotCodec.stored (k.EliotDeviceId p)), rfl, ?_,
        fun j hj => ⟨Function.update_of_ne hj _ _, ?_⟩, fun _ => ?_, ?_⟩
      · refine holds_update h hi hrange hmodels hids (fun j hj => Function.update_of_ne hj _ _) ?_
          (fun _ => ?_) _
        · rw [Codec.stored]
          cases k.codec.named (k.nonvolatile p) <;> rfl
        · rw [Function.update_self, Codec.stored]
          cases eliotCodec.named (k.EliotDeviceId p) <;> rfl
      · simp only [Function.update_of_ne hj]
      · rw [Function.update_self, getD_stored]
      · simp only [Function.update_self]
    · exact absurd hslots hroom

/-- An update without a new id leaves the ids alone. -/
theorem Holds.set_eliot_bytes (hfits : k.Fits) (h : k.Holds st values ids) (hi : i < k.maxNumber)
    (hrange : k.eliotRegion.InRange i) (hv : values i ≠ none)
    (hsame : eliotCodec.same (k.EliotDeviceId p)
      (bytesAt st.memory (k.eliotRegion.address i + 8)) = true) {returned : Bool}
    (hset : k.setProperties st i p garbage = some (returned, st')) (j : ℕ) :
    bytesAt st'.memory (k.eliotRegion.address j + 8) =
      bytesAt st.memory (k.eliotRegion.address j + 8) := by
  have hagree := Region.update_agree (m := st.memory) (i := i) (c := k.codec)
    (v := k.nonvolatile p) hfits.region garbage.nvArray
  have hbytes := hfits.eliot_bytes hi hagree
  have hunchanged := hsame
  rw [← hbytes i] at hunchanged
  rw [h.setProperties_eq hfits hi hrange hv, setOld] at hset
  dsimp only at hset
  rw [if_pos (.inl hunchanged), Region.update.eq_def k.eliotRegion, if_pos hunchanged] at hset
  obtain ⟨-, rfl⟩ := Prod.mk.inj (Option.some.inj hset)
  exact hbytes j

/-! ### The round trip -/

/-- What is got after properties are set, with the parts that `w` says are in RAM. -/
theorem getProperties_update (hfits : k.Fits) {ids' : ℕ → Option (CString eliotDeviceIdSize)}
    (h : k.Holds st values ids) (hi : i < k.maxNumber)
    (h' : k.Holds st' (Function.update values i (k.codec.stored (k.nonvolatile p))) ids')
    (hother : ∀ j ≠ i, ids' j = ids j ∧ (st'.array j).volatile = (st.array j).volatile)
    (hid : k.codec.named (k.nonvolatile p) = true →
      (ids' i).getD (CString.empty (by decide)) = k.EliotDeviceId p)
    (hvolatile : (st'.array i).volatile = k.volatile p) :
    k.getProperties st' = Function.update (k.getProperties st) i (k.stored p) := by
  funext j
  by_cases hj : j < k.maxNumber
  · rw [h'.getProperties hfits hj]
    by_cases hji : j = i
    · subst hji
      rw [Function.update_self, Function.update_self, hvolatile, Codec.stored, stored]
      by_cases hnamed : k.codec.named (k.nonvolatile p) = true
      · rw [if_pos hnamed, if_pos hnamed, ofParts, Option.map_some, hid hnamed, k.properties_eta]
      · rw [if_neg hnamed, if_neg hnamed]
        rfl
    · rw [Function.update_of_ne hji, Function.update_of_ne hji, (hother j hji).1,
        (hother j hji).2, h.getProperties hfits hj]
  · have hji : j ≠ i := fun hji => hj (hji ▸ hi)
    rw [Function.update_of_ne hji, getProperties_of_le hj, getProperties_of_le hj]

/-- What is got after a restart. -/
theorem Holds.getProperties_reboot (hfits : k.Fits) (h : k.Holds st values ids) :
    k.getProperties (k.reboot st) = fun j => (k.getProperties st j).map k.restarted := by
  funext j
  by_cases hj : j < k.maxNumber
  · rw [(h.reboot hfits).getProperties hfits hj, h.getProperties hfits hj, ofParts_restarted,
      reboot_volatile]
  · rw [getProperties_of_le hj, getProperties_of_le hj, Option.map_none]

/-- **Usable slots**: the properties make the round trip. -/
theorem Holds.roundTrip (hfits : k.Fits) (h : k.Holds st values ids) (hi : i < k.maxNumber)
    (hu : k.Usable st i p) (garbage : Garbage) : k.RoundTrip st i p garbage := by
  obtain ⟨st', ids', hset, h', hother, hid, hvolatile⟩ := h.set hfits hi hu garbage
  have hget := getProperties_update hfits h hi h' hother (fun hnamed => hid (.inl hnamed)) hvolatile
  refine ⟨st', hset, hget, ?_⟩
  rw [h'.getProperties_reboot hfits, hget]

/-- **A stale id**: a record that is created over an id has no id before a restart, and the one
from before after it. -/
theorem Holds.not_roundTrip_of_stale (hfits : k.Fits) (h : k.Holds st values ids)
    (hi : i < k.maxNumber) (hrange : k.eliotRegion.InRange i) (hnone : values i = none)
    (hnamed : k.codec.named (k.nonvolatile p) = true) (hid : ids i ≠ none) (garbage : Garbage) :
    ¬ k.RoundTrip st i p garbage := by
  rintro ⟨st', hset, hget, hreboot⟩
  obtain ⟨e, he⟩ := Option.ne_none_iff_exists'.1 hid
  obtain ⟨ids', hmodels, hids, hwritten, hother, hidEq⟩ :=
    setNew_spec hfits hi hrange h.models h.eliotModels hnone p garbage
  have hstale := hidEq hnamed
  rw [if_neg hid] at hstale
  rw [h.setProperties_new hfits hi hrange hnone] at hset
  obtain rfl := (Prod.mk.inj (Option.some.inj hset)).2
  have hbefore : k.EliotDeviceId p = CString.empty (by decide) := by
    have hgot := congrFun hget i
    rw [Function.update_self, stored, if_pos hnamed, Kind.getProperties, if_pos hi] at hgot
    simp only [Function.update_self, hwritten, hnamed, hstale.2, keep, if_true,
      Bool.false_eq_true, if_false, Option.map_some, Option.some.injEq] at hgot
    rw [← hgot, k.EliotDeviceId_properties]
  have hnoSlot : ∀ j < k.maxNumber, ¬ k.eliotRegion.InRange j → ids' j = none := by
    intro j hj hnot
    exact (hother j fun hji => hnot (hji ▸ hrange)).trans (h.noSlot j hj hnot)
  have hafter : k.EliotDeviceId p = e := by
    have hgot := congrFun hreboot i
    rw [(holds_reboot hfits hmodels hids hnoSlot).getProperties hfits hi, Function.update_self,
      Function.update_self, Codec.stored, if_pos hnamed, stored, if_pos hnamed, hstale.1, he]
      at hgot
    have hid := congrArg k.EliotDeviceId (Option.some.inj hgot)
    rw [restarted, k.EliotDeviceId_properties, k.EliotDeviceId_properties] at hid
    exact hid.symm
  -- an id that is stored is not empty
  have henamed := h.eliotModels.named he
  rw [← hafter, hbefore] at henamed
  cases henamed

/-- **Other slots**: they do not. -/
theorem Holds.not_roundTrip (hfits : k.Fits) (h : k.Holds st values ids) (hi : i < k.maxNumber)
    (hu : ¬ k.Usable st i p) (garbage : Garbage) : ¬ k.RoundTrip st i p garbage := by
  by_cases hrange : k.eliotRegion.InRange i
  · by_cases hnone : values i = none
    · rw [h.usable_iff_of_none hfits hi hrange hnone] at hu
      obtain ⟨hnamed, hid⟩ := Classical.not_imp.1 hu
      exact h.not_roundTrip_of_stale hfits hi hrange hnone hnamed hid garbage
    · rw [h.usable_iff_of_ne_none hfits hi hrange hnone] at hu
      rintro ⟨st', hset, -⟩
      rw [h.setProperties_eq hfits hi hrange hnone] at hset
      obtain ⟨hroom, -⟩ | ⟨-, hset'⟩ :=
        setOld_spec hfits hi hrange h.models h.eliotModels p garbage
      · exact hu hroom
      · rw [hset'] at hset
        cases hset
  · rintro ⟨st', hset, -⟩
    rw [setProperties, if_pos hi, Region.getPtr_unchecked (hfits.inRange i hi),
      Region.getPtr_of_le (hfits.eliotInRange i hi hrange)] at hset
    cases hset

/-- **The round trip**: properties make it exactly if the slots are usable. -/
theorem Holds.roundTrip_iff (hfits : k.Fits) (h : k.Holds st values ids) (hi : i < k.maxNumber)
    (p : P) (garbage : Garbage) : k.RoundTrip st i p garbage ↔ k.Usable st i p := by
  refine ⟨fun hround => ?_, fun hu => h.roundTrip hfits hi hu garbage⟩
  by_contra hu
  exact h.not_roundTrip hfits hi hu garbage hround

/-! ### Runs -/

/-- What happens to the zones or the scenes. -/
inductive Event (P : Type*)
  /-- Properties are set. -/
  | set (index : ℕ) (p : P) (garbage : Garbage)
  /-- The system is restarted. -/
  | reboot
  /-- `ClearFlash` -/
  | clearFlash

variable (k)

/-- The state after an event; nothing is said about what comes after a write behind an array. -/
def next (st : State W) : Event P → State W
  | .set index p garbage => ((k.setProperties st index p garbage).map Prod.snd).getD st
  | .reboot => k.reboot st
  | .clearFlash =>
    let st := k.initializeArray st
    { st with memory := erase st.memory 0xdb000 (0xfe000 - 0xdb000) }

/-- The state with the data erased. -/
def start (m : Memory) : State W :=
  k.next ⟨m, fun _ => ⟨k.initial, none, none⟩⟩ (.clearFlash : Event P)

/-- **The machine**: it starts with the data erased. -/
def machine : Machine (State W) (Event P) where
  init st := ∃ m, st = k.start m
  step st e := some (k.next st e)

/-- What an event promises. -/
def RoundTrips (st : State W) : Event P → Prop
  | .set index p garbage => index < k.maxNumber → k.RoundTrip st index p garbage
  | _ => True

/-- What an event asks for. -/
def UsableFor (st : State W) : Event P → Prop
  | .set index p _ => index < k.maxNumber → k.Usable st index p
  | _ => True

/-- The invariant: the flash holds values and ids, and the array points to them. -/
def Inv (st : State W) : Prop := ∃ values ids, k.Holds st values ids

variable {k}

theorem holds_clearFlash (hfits : k.Fits) (st : State W) :
    k.Holds (k.next st (.clearFlash : Event P)) (fun _ => none) fun _ => none := by
  have herased : ∀ a, 0xdb000 ≤ a → a < 0xfe000 →
      (k.next st (.clearFlash : Event P)).memory a = erased := fun a ha ha' =>
    erase_inside (show 0xdb000 ≤ a ∧ a < 0xdb000 + (0xfe000 - 0xdb000) by omega)
  have hdata := hfits.data
  refine ⟨?_, ?_, fun _ _ _ => rfl, fun _ _ => rfl, ?_⟩
  · exact Region.models_erased _ fun a ha ha' => herased a (by omega) (by omega)
  · exact Region.models_erased _ fun a ha ha' => herased a (by omega) (by omega)
  · exact fun i hi hv => absurd rfl hv

/-- An event for which the slots are usable keeps the invariant. -/
theorem Inv.next (hfits : k.Fits) (h : k.Inv st) (e : Event P) (he : k.UsableFor st e) :
    k.Inv (k.next st e) := by
  cases e with
  | set index p garbage =>
    obtain ⟨values, ids, h⟩ := h
    by_cases hi : index < k.maxNumber
    · obtain ⟨st', ids', hset, h', -⟩ := h.set hfits hi (he hi) garbage
      simp only [Kind.next, hset, Option.map_some, Option.getD_some]
      exact ⟨_, _, h'⟩
    · simp only [Kind.next, setProperties, if_neg hi, Option.map_some, Option.getD_some]
      exact ⟨values, ids, h⟩
  | reboot =>
    obtain ⟨values, ids, h⟩ := h
    exact ⟨values, ids, h.reboot hfits⟩
  | clearFlash => exact ⟨_, _, holds_clearFlash hfits st⟩

/-- **All properties that are set in a run make the round trip** exactly if the slots were usable
each time. -/
theorem allSteps_roundTrips_iff (hfits : k.Fits) (m : Memory) (es : List (Event P)) :
    k.machine.AllSteps k.RoundTrips (k.start m) es ↔
      k.machine.AllSteps k.UsableFor (k.start m) es := by
  refine Machine.allSteps_congr (I := k.Inv) (fun st e st' hst he hnext => ?_) (fun st e hst => ?_)
    ⟨_, _, holds_clearFlash hfits _⟩
  · obtain rfl := Option.some.inj hnext
    exact hst.next hfits e he
  · cases e with
    | set index p garbage =>
      obtain ⟨values, ids, hst⟩ := hst
      exact forall_congr' fun hi => hst.roundTrip_iff hfits hi p garbage
    | reboot => exact Iff.rfl
    | clearFlash => exact Iff.rfl

/-- **A slot that is used again**: an id stays when its properties are deleted but not the id
itself, and the next properties for the index do not make the round trip. -/
theorem not_allSteps_reuse (hfits : k.Fits) (hi : i < k.maxNumber)
    (hrange : k.eliotRegion.InRange i)
    (hroom : k.eliotRegion.perSector ≤ k.eliotArraySize) (m : Memory) {p deleted q : P}
    (hp : k.codec.named (k.nonvolatile p) = true)
    (hdeleted : k.codec.named (k.nonvolatile deleted) ≠ true)
    (hid : (k.EliotDeviceId deleted).chars ≠ []) (hq : k.codec.named (k.nonvolatile q) = true)
    (garbage : Garbage) :
    ¬ k.machine.AllSteps k.RoundTrips (k.start m)
      [.set i p garbage, .set i deleted garbage, .set i q garbage] := by
  have hstart : k.Holds (k.start m) (fun _ => none) fun _ => none := holds_clearFlash hfits _
  -- the slots of the index are erased at first
  have husable : k.Usable (k.start m) i p :=
    (hstart.usable_iff_of_none hfits hi hrange rfl).2 fun _ => rfl
  obtain ⟨st, ids, hset, h, -, -, -⟩ := hstart.set hfits hi husable garbage
  -- then there is a record, which is deleted
  have hstored : Function.update (fun _ => none) i (k.codec.stored (k.nonvolatile p)) i ≠ none := by
    rw [Function.update_self, Codec.stored, if_pos hp]
    exact Option.some_ne_none _
  have husable : k.Usable st i deleted :=
    (h.usable_iff_of_ne_none hfits hi hrange hstored).2 (.inr hroom)
  obtain ⟨st', ids', hset', h', -, hkept, -⟩ := h.set hfits hi husable garbage
  -- and only the id is left
  have hkept := hkept (.inr hstored)
  have hids : ids' i ≠ none := by
    intro hnone
    rw [hnone, Option.getD_none] at hkept
    exact hid (congrArg CString.chars hkept).symm
  have hnone : Function.update (Function.update (fun _ => none) i
      (k.codec.stored (k.nonvolatile p))) i (k.codec.stored (k.nonvolatile deleted)) i = none := by
    rw [Function.update_self, Codec.stored, if_neg hdeleted]
  have hnot : ¬ k.RoundTrip st' i q garbage :=
    h'.not_roundTrip_of_stale hfits hi hrange hnone hq hids garbage
  intro hall
  have hfirst : k.next (k.start m) (.set i p garbage) = st := by
    rw [Kind.next, hset]
    rfl
  have hsecond : k.next st (.set i deleted garbage) = st' := by
    rw [Kind.next, hset']
    rfl
  have hrest := ((hall _ rfl).2 _ rfl).2 _ rfl
  rw [hfirst, hsecond] at hrest
  exact hnot (hrest.1 hi)

end Kind

end Store

end Lcm
