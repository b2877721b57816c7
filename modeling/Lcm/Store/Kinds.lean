import Lcm.CString
import Lcm.Flash.Values
import Lcm.Zones.Properties

/-!
# Zones and scenes in flash

Zones and scenes are kept in the same way: one region of flash holds their records, a second one
the ids that the cloud has given them, and an array in RAM holds what is not kept over a restart
and the pointers to the two records.  `SetZoneProperties` and `SetSceneProperties`, and the
functions that belong to them, differ only in the values of a `Kind`.

## Main definitions

* `Kind` : what zones and scenes differ in.
* `Kind.getProperties`, `Kind.setProperties`, `Kind.loadFromFlash`, `Kind.initializeArray` : the
  functions of the source.
-/

namespace Lcm

namespace Store

open Flash

/-- What zones and scenes differ in: their properties `P` consist of what is kept in a record, of
the id for the cloud and of what is kept in RAM. -/
structure Kind (P V W : Type*) where
  /-- The region of the records. -/
  region : Region
  /-- The region of the ids. -/
  eliotRegion : Region
  /-- The fields of a record. -/
  codec : Codec V
  /-- The number of elements of the array through which the ids of a sector are written. -/
  eliotArraySize : ℕ
  /-- `MAX_NUMBER_OF_...` -/
  maxNumber : ℕ
  /-- What is in RAM after a start. -/
  initial : W
  /-- The properties with the given parts. -/
  properties : V → CString eliotDeviceIdSize → W → P
  /-- The part that is kept in a record. -/
  nonvolatile : P → V
  /-- `EliotDeviceId` -/
  EliotDeviceId : P → CString eliotDeviceIdSize
  /-- The part that is kept in RAM. -/
  volatile : P → W
  /-- Properties consist of their parts. -/
  properties_eta : ∀ p, properties (nonvolatile p) (EliotDeviceId p) (volatile p) = p
  /-- The first part. -/
  nonvolatile_properties : ∀ v e w, nonvolatile (properties v e w) = v
  /-- The second part. -/
  EliotDeviceId_properties : ∀ v e w, EliotDeviceId (properties v e w) = e

/-- The record of an id, of type `nonvolatile_eliot_..._properties`. -/
def eliotCodec : Codec (CString eliotDeviceIdSize) where
  size := eliotDeviceIdSize
  named s := s.chars ≠ []
  assign s record := CString.snprintf record s
  same s record := strncmpEq eliotDeviceIdSize s.bytes record
  decode := CString.ofBytes eliotDeviceIdSize_pos
  decode_congr h := CString.ofBytes_congr _ h
  decode_assign s record := CString.ofBytes_of_bytes _ fun _ hi => CString.snprintf_bytes record s hi
  decode_of_same h := CString.ofBytes_of_bytes _ (CString.eq_bytes_of_strncmpEq h)
  initialized_of_same h hall := by
    obtain ⟨i, hi, hzero⟩ := CString.exists_zero_of_strncmpEq h
    cases hzero.symm.trans (hall i hi)
  initialized_assign s record h := by
    have hnul := h s.chars.length s.fits
    rw [CString.snprintf_bytes record s (Nat.le_refl _), CString.bytes_length] at hnul
    cases hnul

/-- `volatile_..._properties` -/
structure Entry (W : Type*) where
  /-- What is kept in RAM. -/
  volatile : W
  /-- The pointer to the record. -/
  nvProperties : Option ℕ
  /-- The pointer to the id. -/
  nvEliotProperties : Option ℕ

/-- The flash and the array. -/
structure State (W : Type*) where
  /-- The flash. -/
  memory : Memory
  /-- `zoneArray` or `sceneArray` -/
  array : ℕ → Entry W

/-- What is in variables before they are assigned. -/
structure Garbage where
  /-- In the local record. -/
  record : ℕ → Byte
  /-- In the local id. -/
  eliotRecord : ℕ → Byte
  /-- In the array of records, and behind it. -/
  nvArray : ℕ → Byte
  /-- In the array of ids, and behind it. -/
  nvEliotArray : ℕ → Byte

variable {P V W : Type*} (k : Kind P V W)

namespace Kind

/-- `InitializeZoneArray`, `InitializeSceneArray` -/
def initializeArray (st : State W) : State W := { st with array := fun _ => ⟨k.initial, none, none⟩ }

/-- `LoadZonesFromFlash`, `LoadScenesFromFlash`, without the house id and the count -/
def loadFromFlash (st : State W) : State W where
  memory := st.memory
  array index :=
    if index < k.maxNumber then
      match k.region.getPtr st.memory index true with
      | some nvPropertiesPtr =>
        { st.array index with
          nvProperties := some nvPropertiesPtr
          nvEliotProperties := k.eliotRegion.getPtr st.memory index true }
      | none => st.array index
    else st.array index

/-- What the start does for the array. -/
def reboot (st : State W) : State W := k.loadFromFlash (k.initializeArray st)

/-- `GetZoneProperties`, `GetSceneProperties` -/
def getProperties (st : State W) (index : ℕ) : Option P :=
  if index < k.maxNumber then
    (st.array index).nvProperties.map fun nvPropertiesPtr =>
      k.properties (k.codec.decode (bytesAt st.memory nvPropertiesPtr))
        (match (st.array index).nvEliotProperties with
          | some nvEliotPropertiesPtr =>
            eliotCodec.decode (bytesAt st.memory nvEliotPropertiesPtr)
          | none => CString.empty eliotDeviceIdSize_pos)
        (st.array index).volatile
  else none

/-- The pointer to a record that still exists. -/
def keep (written : Bool) (ptr : ℕ) : Option ℕ := if written then some ptr else none

/-- A new zone or scene is written into its slots: the flash, and whether the record and the id
exist. -/
def setNew (memory : Memory) (index : ℕ) (p : P) (garbage : Garbage) : Memory × Bool × Bool :=
  if k.codec.named (k.nonvolatile p) then
    let (memory, written) :=
      k.region.create k.codec memory index (k.nonvolatile p) garbage.record
    if Uninitialized eliotDeviceIdSize (bytesAt memory (k.eliotRegion.address index + 8)) then
      if eliotCodec.named (k.EliotDeviceId p) then
        let (memory, eliotWritten) :=
          k.eliotRegion.create eliotCodec memory index (k.EliotDeviceId p) garbage.eliotRecord
        (memory, written, eliotWritten)
      else (memory, written, false)
    else (memory, written, false)
  else (memory, false, false)

/-- A zone or scene that exists is updated, unless that writes behind an array. -/
def setOld (memory : Memory) (index : ℕ) (p : P) (garbage : Garbage) :
    Option (Memory × Bool × Bool) :=
  let (memory, written) :=
    k.region.update k.codec memory index (k.nonvolatile p) garbage.nvArray
  -- the array of ids is only used if the id is different
  if eliotCodec.same (k.EliotDeviceId p) (bytesAt memory (k.eliotRegion.address index + 8)) ∨
      k.eliotRegion.perSector ≤ k.eliotArraySize then
    let (memory, eliotWritten) :=
      k.eliotRegion.update eliotCodec memory index (k.EliotDeviceId p) garbage.nvEliotArray
    some (memory, written, eliotWritten)
  else none

/-- `SetZoneProperties`, `SetSceneProperties`: what they return, and the state; or nothing if they
write behind an array. -/
def setProperties (st : State W) (index : ℕ) (p : P) (garbage : Garbage) :
    Option (Bool × State W) :=
  if index < k.maxNumber then
    match k.region.getPtr st.memory index false, k.eliotRegion.getPtr st.memory index false with
    | some nvPropertiesPtr, some nvEliotPropertiesPtr =>
      (if Uninitialized k.codec.size (bytesAt st.memory nvPropertiesPtr) then
        some (k.setNew st.memory index p garbage)
      else k.setOld st.memory index p garbage).map fun (memory, written, eliotWritten) =>
        (true,
          { memory := memory
            array := Function.update st.array index
              { volatile := k.volatile p
                nvProperties := keep written nvPropertiesPtr
                nvEliotProperties := keep eliotWritten nvEliotPropertiesPtr } })
    | _, _ => some (false, st)
  else some (false, st)

end Kind

end Store

end Lcm
