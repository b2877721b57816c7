import Lcm.Delimited
import Lcm.House.State
import Lcm.Numerals
import Lcm.Sanitizer

/-!
# The zone file of the server

The server keeps what the LCM has in flash in an array, and saves it to a file: a line for each
entry that is not erased, with eight fields between tabs, the name last.  When it starts, the file
is loaded line by line.  Each accepted line is given to `SetZoneProperties`, which writes the entry,
and so appends a line to the file that is being read.

Which lines the stream returns is up to the file system, once the file grows while it is read: first
come those that were in the file, and then any that have been written in the meantime.

## Main definitions

* `saveAllZonesToFile`, `loadAllZonesFromFile` : the functions of the source.
* `Contents` : what the array can hold.
* `RestoresAll` : a saved file restores the zones, and nothing else.
* `InBounds` : the entries that are accessed while some lines are loaded.

## Main results

* `zoneFile_iff` : when a file restores the zones, and when the accesses are in bounds.
* `shade_not_restored` : a shade, and a line with the index 100.
-/

namespace Lcm

namespace Server

namespace ZoneFile

open Delimited House Numerals

/-! ### Entries -/

/-- `nonvolatile_zone_properties` -/
structure NvZone where
  /-- `groupId` -/
  groupId : Word
  /-- `deviceType` -/
  deviceType : Byte
  /-- `rampRate` -/
  rampRate : Byte
  /-- `buildingId` -/
  buildingId : Byte
  /-- `houseId` -/
  houseId : Byte
  /-- `roomId` -/
  roomId : Byte
  /-- `ZoneNameString` -/
  ZoneNameString : CString maxSizeNameString
  deriving DecidableEq

/-- The zone has a name; a zone without one has been deleted. -/
def NvZone.Existing (z : NvZone) : Prop := z.ZoneNameString.chars ≠ []

instance (z : NvZone) : Decidable z.Existing := inferInstanceAs (Decidable (_ ≠ _))

/-- `nvZoneProperties`; there is nothing where all bytes are 0xFF. -/
abbrev Array := ℕ → Option NvZone

/-! ### Saving -/

/-- A tab. -/
def tab : Byte := 0x09

/-- The end of a line. -/
def newline : Byte := 0x0A

/-- The numbers of a line. -/
def numbers (zoneIndex : ℕ) (z : NvZone) : List (List Byte) :=
  [decimal zoneIndex, decimal z.buildingId.toNat, decimal z.houseId.toNat,
    decimal z.groupId.toNat, decimal z.roomId.toNat, decimal z.deviceType.toNat,
    decimal z.rampRate.toNat]

/-- A line, without its end. -/
def lineOf (zoneIndex : ℕ) (z : NvZone) : List Byte :=
  terminated tab (numbers zoneIndex z) ++ z.ZoneNameString.chars

/-- The lines of an array. -/
def savedLines (zones : Array) : List (List Byte) :=
  (List.range maxNumberOfZones).filterMap fun zoneIndex => (zones zoneIndex).map (lineOf zoneIndex)

/-- `saveAllZonesToFile` -/
def saveAllZonesToFile (zones : Array) : List Byte := terminated newline (savedLines zones)

/-! ### Loading -/

/-- What the load reads and changes. -/
structure State where
  /-- `nvZoneProperties` -/
  nvZoneProperties : Array
  /-- `global_houseID` -/
  global_houseID : Byte
  /-- The lines that have been written to the file. -/
  written : List (List Byte)
  /-- The entries that have been accessed, of any array. -/
  accessed : List ℕ
  /-- `numZonesLoaded` -/
  numZonesLoaded : ℕ

/-- A fresh process. -/
def State.fresh : State := ⟨fun _ => none, 0, [], [], 0⟩

/-- `std::stoi`; there is no result when it throws. -/
def stoi (token : List Byte) : Option ℤ :=
  let s := scan token
  if s.digits ≠ [] ∧ -2 ^ 31 ≤ s.number ∧ s.number < 2 ^ 31 then some s.number else none

/-- The device types that the load knows. -/
def knownTypes : List Byte :=
  [dimmerType, switchType, fanControllerType, networkRemoteType, sceneController4ButtonType]

/-- An integer in a byte, if it is in range. -/
def byteOf (n : ℤ) : Option Byte := if 0 ≤ n ∧ n ≤ 0xFF then some (BitVec.ofInt 8 n) else none

/-- What the parsed house id makes of `global_houseID`. -/
def houseAfterId (global_houseID : Byte) (houseId : ℤ) : Byte :=
  match byteOf houseId with
  | none => global_houseID
  | some house => if global_houseID = 0 then house else global_houseID

/-- `global_houseID`, after a line; an exception before the house id leaves it as it was. -/
def houseAfter (global_houseID : Byte) (zoneLine : List Byte) : Byte :=
  match pieces tab zoneLine with
  | [t0, t1, t2, _, _, _, _, _] =>
    match stoi t0, stoi t1, stoi t2 with
    | some _, some _, some houseId => houseAfterId global_houseID houseId
    | _, _, _ => global_houseID
  | _ => global_houseID

/-- The entry, and its index, if the parsed numbers are verified. -/
def verify (global_houseID : Byte)
    (zoneIndex buildingId houseId groupId roomId typeValue rampRate : ℤ) (name : List Byte) :
    Option (ℕ × NvZone) :=
  match byteOf buildingId, byteOf houseId, byteOf roomId, byteOf typeValue, byteOf rampRate with
  | some building, some house, some room, some deviceType, some ramp =>
    -- the index may be the number of zones
    if (0 ≤ zoneIndex ∧ zoneIndex ≤ maxNumberOfZones) ∧ (0 ≤ groupId ∧ groupId ≤ 0xFFFF) ∧
        (global_houseID = 0 ∨ house = global_houseID) ∧ deviceType ∈ knownTypes then
      some (zoneIndex.toNat,
        { groupId := BitVec.ofInt 16 groupId, deviceType := deviceType, rampRate := ramp
          buildingId := building, houseId := house, roomId := room
          ZoneNameString := CString.ofBytes maxSizeNameString_pos fun i => name.getD i 0 })
    else none
  | _, _, _, _, _ => none

/-- The entry of a line, and its index, if there is no exception and no error. -/
def parseLine (global_houseID : Byte) (zoneLine : List Byte) : Option (ℕ × NvZone) :=
  match pieces tab zoneLine with
  | [t0, t1, t2, t3, t4, t5, t6, t7] => do
    verify global_houseID (← stoi t0) (← stoi t1) (← stoi t2) (← stoi t3) (← stoi t4) (← stoi t5)
      (← stoi t6) t7
  | _ => none

/-- `SetZoneProperties`, as far as the array and the file are concerned. -/
def setZoneProperties (zoneIndex : ℕ) (z : NvZone) (st : State) : State :=
  if zoneIndex < maxNumberOfZones then
    match st.nvZoneProperties zoneIndex with
    | none =>
      if z.Existing then
        -- a new zone is appended to the file
        { st with
          nvZoneProperties := Function.update st.nvZoneProperties zoneIndex (some z)
          written := st.written ++ [lineOf zoneIndex z]
          accessed := st.accessed ++ [zoneIndex] }
      else { st with accessed := st.accessed ++ [zoneIndex] }
    | some old =>
      if z = old then { st with accessed := st.accessed ++ [zoneIndex] }
      else
        -- for any other change, all zones are written again
        let zones := Function.update st.nvZoneProperties zoneIndex
          (if z.Existing then some z else none)
        { st with
          nvZoneProperties := zones
          written := st.written ++ savedLines zones
          accessed := st.accessed ++ [zoneIndex] }
  else st

/-- A line is loaded.  The `SamsungDeviceId` of the entry is read before the entry is set. -/
def loadLine (st : State) (zoneLine : List Byte) : State :=
  let houseID := houseAfter st.global_houseID zoneLine
  match parseLine st.global_houseID zoneLine with
  | none => { st with global_houseID := houseID }
  | some (zoneIndex, z) =>
    setZoneProperties zoneIndex z
      { st with
        global_houseID := houseID
        accessed := st.accessed ++ [zoneIndex]
        numZonesLoaded := st.numZonesLoaded + 1 }

/-- `loadAllZonesFromFile`, in a fresh process, for the lines that the stream returns. -/
def loadAllZonesFromFile (lines : List (List Byte)) : State := lines.foldl loadLine .fresh

/-! ### What is asked for -/

/-- The zone is a device of the radio. -/
def NvZone.IsRf (z : NvZone) : Prop :=
  z.deviceType ≠ Rf.shadeType ∧ z.deviceType ≠ Rf.shadeGroupType

/-- **What the array can hold**: sanitized names, and one house for the devices of the radio. -/
structure Contents where
  /-- The entries. -/
  zones : Array
  /-- There are no more of them. -/
  outside : ∀ i, maxNumberOfZones ≤ i → zones i = none
  /-- The names are sanitized. -/
  legal : ∀ i z, zones i = some z → ∀ c ∈ z.ZoneNameString.chars, isLegal c = true
  /-- The common house. -/
  house : Byte
  /-- It is common. -/
  common : ∀ i z, zones i = some z → z.Existing → z.IsRf → z.houseId = house

/-- The zones that exist. -/
def existing (zones : Array) : Array := fun i => (zones i).filter (decide ·.Existing)

/-- **A saved file restores the zones** that exist, and adds no other, whichever of the lines that
are written in the meantime are read as well. -/
def RestoresAll (zones : Array) : Prop :=
  ∀ more, (∀ line ∈ more,
      line ∈ (loadAllZonesFromFile (pieces newline (saveAllZonesToFile zones))).written) →
    (loadAllZonesFromFile (pieces newline (saveAllZonesToFile zones) ++ more)).nvZoneProperties =
      existing zones

/-- Only entries below the number of zones are accessed. -/
def InBounds (lines : List (List Byte)) : Prop :=
  ∀ i ∈ (loadAllZonesFromFile lines).accessed, i < maxNumberOfZones

variable {zones : Array} {st : State} {z z' : NvZone} {i k : ℕ} {house : Byte}
  {line : List Byte} {lines : List (List Byte)}

/-! ### Lines -/

/-- A number that has been printed is read again. -/
theorem stoi_decimal {n : ℕ} (h : n < 2 ^ 31) : stoi (decimal n) = some (n : ℤ) := by
  have hsmall : (n : ℤ).natAbs < 10 ^ 10 := by
    rw [Int.natAbs_natCast]
    omega
  have hnone : ∀ x ∈ ([] : List Byte).head?, ¬ IsDigit x := fun x hx => nomatch hx
  obtain ⟨hnumber, -, hdigits⟩ := scan_decimal hsmall hnone
  rw [List.append_nil] at hnumber hdigits
  rw [stoi, hnumber, if_pos ⟨hdigits, by omega, by omega⟩]

theorem byteOf_toNat (b : Byte) : byteOf b.toNat = some b := by
  have hlt := b.isLt
  rw [byteOf, if_pos ⟨by omega, by omega⟩, BitVec.ofInt_natCast, BitVec.ofNat_toNat,
    BitVec.setWidth_eq]

theorem notMem_decimal {c : Byte} (n : ℤ) (hminus : c ≠ 0x2D) (hdigit : ¬ IsDigit c) :
    c ∉ decimal n := fun hc => (isDigit_of_mem_decimal hc).elim hminus hdigit

theorem notMem_numbers {c : Byte} (hminus : c ≠ 0x2D) (hdigit : ¬ IsDigit c) :
    ∀ piece ∈ numbers i z, c ∉ piece := by
  intro piece hpiece
  simp only [numbers, List.mem_cons, List.not_mem_nil, or_false] at hpiece
  obtain rfl | rfl | rfl | rfl | rfl | rfl | rfl := hpiece <;>
    exact notMem_decimal _ hminus hdigit

/-- The name has legal characters only. -/
def NvZone.Legal (z : NvZone) : Prop := ∀ c ∈ z.ZoneNameString.chars, isLegal c = true

theorem NvZone.Legal.notMem {c : Byte} (h : z.Legal) (hc : isLegal c = false) :
    c ∉ z.ZoneNameString.chars := fun hmem => Bool.false_ne_true (hc.symm.trans (h c hmem))

/-- The tokens of a line. -/
theorem pieces_lineOf (i : ℕ) (hlegal : z.Legal) :
    pieces tab (lineOf i z) =
      numbers i z ++ if z.ZoneNameString.chars = [] then [] else [z.ZoneNameString.chars] :=
  pieces_terminated_append (notMem_numbers (by decide) (by decide)) (hlegal.notMem (by decide))

/-- The line of a deleted zone has no name, and so it is a token short. -/
theorem pieces_lineOf_deleted (i : ℕ) (hlegal : z.Legal) (h : ¬ z.Existing) :
    pieces tab (lineOf i z) = numbers i z := by
  rw [pieces_lineOf i hlegal, if_pos (not_not.1 h), List.append_nil]

theorem pieces_lineOf_existing (i : ℕ) (hlegal : z.Legal) (h : z.Existing) :
    pieces tab (lineOf i z) = numbers i z ++ [z.ZoneNameString.chars] := by
  rw [pieces_lineOf i hlegal, if_neg h]

theorem parseLine_deleted (i : ℕ) (hlegal : z.Legal) (h : ¬ z.Existing) (house : Byte) :
    parseLine house (lineOf i z) = none ∧ houseAfter house (lineOf i z) = house := by
  rw [parseLine, houseAfter, pieces_lineOf_deleted i hlegal h]
  exact ⟨rfl, rfl⟩

/-- **The line of a zone** is accepted if the house is right and the type known. -/
theorem parseLine_existing (hi : i < maxNumberOfZones) (hlegal : z.Legal) (h : z.Existing)
    (house : Byte) : parseLine house (lineOf i z) =
      if (house = 0 ∨ z.houseId = house) ∧ z.deviceType ∈ knownTypes then some (i, z) else none := by
  have hbyte (b : Byte) : b.toNat < 2 ^ 31 := Nat.lt_trans b.isLt (by decide)
  have hgroup : z.groupId.toNat < 2 ^ 16 := z.groupId.isLt
  have hname : CString.ofBytes (by decide) (fun k => z.ZoneNameString.chars.getD k 0) =
      z.ZoneNameString := CString.ofBytes_of_bytes _ fun _ _ => rfl
  have hword : BitVec.ofInt 16 z.groupId.toNat = z.groupId := by
    rw [BitVec.ofInt_natCast, BitVec.ofNat_toNat, BitVec.setWidth_eq]
  rw [parseLine, pieces_lineOf_existing i hlegal h, numbers]
  dsimp only [List.cons_append, List.nil_append]
  rw [stoi_decimal (Nat.lt_trans hi (by decide)), stoi_decimal (hbyte _), stoi_decimal (hbyte _),
    stoi_decimal (Nat.lt_trans hgroup (by decide)), stoi_decimal (hbyte _), stoi_decimal (hbyte _),
    stoi_decimal (hbyte _)]
  show verify house i z.buildingId.toNat z.houseId.toNat z.groupId.toNat z.roomId.toNat
    z.deviceType.toNat z.rampRate.toNat z.ZoneNameString.chars = _
  simp only [verify, byteOf_toNat]
  rw [hname, hword, Int.toNat_natCast]
  refine if_congr ?_ rfl rfl
  rw [and_iff_right ⟨Int.natCast_nonneg i, by omega⟩, and_iff_right ⟨Int.natCast_nonneg _, by omega⟩]

/-- What the line of a zone makes of the house. -/
theorem houseAfter_existing (hi : i < maxNumberOfZones) (hlegal : z.Legal) (h : z.Existing)
    (house : Byte) :
    houseAfter house (lineOf i z) = if house = 0 then z.houseId else house := by
  have hbyte (b : Byte) : b.toNat < 2 ^ 31 := Nat.lt_trans b.isLt (by decide)
  rw [houseAfter, pieces_lineOf_existing i hlegal h, numbers]
  dsimp only [List.cons_append, List.nil_append]
  rw [stoi_decimal (Nat.lt_trans hi (by decide)), stoi_decimal (hbyte _), stoi_decimal (hbyte _)]
  dsimp only
  rw [houseAfterId, byteOf_toNat]

/-- Another zone or an unknown type. -/
theorem parseLine_lineOf_ne (hi : i < maxNumberOfZones) (hlegal : z.Legal)
    (h : i ≠ k ∨ ¬ (z.Existing ∧ z.deviceType ∈ knownTypes)) (house : Byte) (z' : NvZone) :
    parseLine house (lineOf i z) ≠ some (k, z') := by
  intro hparse
  by_cases hexisting : z.Existing
  · rw [parseLine_existing hi hlegal hexisting] at hparse
    split at hparse
    · rename_i hcond
      cases hparse
      exact h.elim (fun hne => hne rfl) fun hnot => hnot ⟨hexisting, hcond.2⟩
    · cases hparse
  · rw [(parseLine_deleted i hlegal hexisting house).1] at hparse
    cases hparse

/-! ### One line -/

theorem setZoneProperties_of_ne (h : k ≠ i) (st : State) (z : NvZone) :
    (setZoneProperties i z st).nvZoneProperties k = st.nvZoneProperties k := by
  rw [setZoneProperties]
  split
  · split
    · split
      · exact Function.update_of_ne h _ _
      · rfl
    · split
      · rfl
      · exact Function.update_of_ne h _ _
  · rfl

/-- Only the zone of an accepted line changes. -/
theorem loadLine_of_ne (h : ∀ z', parseLine st.global_houseID line ≠ some (k, z')) :
    (loadLine st line).nvZoneProperties k = st.nvZoneProperties k := by
  rw [loadLine]
  split
  · rfl
  · rename_i i z hparse
    have hne : k ≠ i := by
      rintro rfl
      exact h z hparse
    exact setZoneProperties_of_ne hne _ z

theorem setZoneProperties_global (i : ℕ) (z : NvZone) (st : State) :
    (setZoneProperties i z st).global_houseID = st.global_houseID := by
  rw [setZoneProperties]
  split
  · split
    · split <;> rfl
    · split <;> rfl
  · rfl

theorem loadLine_global (st : State) (line : List Byte) :
    (loadLine st line).global_houseID = houseAfter st.global_houseID line := by
  rw [loadLine]
  split
  · rfl
  · exact setZoneProperties_global _ _ _

/-- The index of an accepted line is accessed. -/
theorem mem_setZoneProperties_accessed {j : ℕ} (i : ℕ) (z : NvZone) (st : State) :
    j ∈ (setZoneProperties i z st).accessed → j ∈ st.accessed ∨ j = i := by
  intro h
  rw [setZoneProperties] at h
  have happend : j ∈ st.accessed ++ [i] → j ∈ st.accessed ∨ j = i := fun h =>
    (List.mem_append.1 h).imp id List.mem_singleton.1
  split at h
  · split at h
    · split at h <;> exact happend h
    · split at h <;> exact happend h
  · exact .inl h

theorem accessed_subset_setZoneProperties {j : ℕ} (i : ℕ) (z : NvZone) (st : State)
    (h : j ∈ st.accessed) : j ∈ (setZoneProperties i z st).accessed := by
  have happend : j ∈ st.accessed ++ [i] := List.mem_append_left _ h
  rw [setZoneProperties]
  split
  · split
    · split <;> exact happend
    · split <;> exact happend
  · exact h

theorem mem_loadLine_accessed_iff {j : ℕ} : j ∈ (loadLine st line).accessed ↔
    j ∈ st.accessed ∨ ∃ z, parseLine st.global_houseID line = some (j, z) := by
  rw [loadLine]
  split
  · rename_i hparse
    rw [hparse]
    exact (or_iff_left (by rintro ⟨z, h⟩; cases h)).symm
  · rename_i i z hparse
    rw [hparse]
    constructor
    · intro h
      obtain h | rfl := mem_setZoneProperties_accessed i z _ h
      · obtain h | h := List.mem_append.1 h
        · exact .inl h
        · exact .inr ⟨z, by rw [List.mem_singleton.1 h]⟩
      · exact .inr ⟨z, rfl⟩
    · intro h
      refine accessed_subset_setZoneProperties i z _ (List.mem_append.2 ?_)
      refine h.imp id ?_
      rintro ⟨z', h⟩
      cases h
      exact List.mem_singleton_self _

/-! ### All lines -/

theorem foldl_loadLine_of_ne
    (h : ∀ line ∈ lines, ∀ house z', parseLine house line ≠ some (k, z')) (st : State) :
    (lines.foldl loadLine st).nvZoneProperties k = st.nvZoneProperties k := by
  induction lines generalizing st with
  | nil => rfl
  | cons line lines ih =>
    rw [List.foldl_cons, ih fun line hl => h line (List.mem_cons_of_mem _ hl)]
    exact loadLine_of_ne (h line List.mem_cons_self _)

/-- **The entries that are accessed** are those of the accepted lines. -/
theorem mem_foldl_accessed_iff {j : ℕ} : j ∈ (lines.foldl loadLine st).accessed ↔
    j ∈ st.accessed ∨ ∃ pre line post z, lines = pre ++ line :: post ∧
      parseLine (pre.foldl houseAfter st.global_houseID) line = some (j, z) := by
  induction lines generalizing st with
  | nil =>
    refine (or_iff_left ?_).symm
    rintro ⟨pre, line, post, z, h, -⟩
    exact List.append_ne_nil_of_right_ne_nil pre (List.cons_ne_nil line post) h.symm
  | cons first lines ih =>
    rw [List.foldl_cons, ih, mem_loadLine_accessed_iff, loadLine_global, or_assoc]
    refine or_congr_right ⟨?_, ?_⟩
    · rintro (⟨z, h⟩ | ⟨pre, line, post, z, rfl, h⟩)
      · exact ⟨[], first, lines, z, rfl, h⟩
      · exact ⟨first :: pre, line, post, z, rfl, h⟩
    · rintro ⟨pre, line, post, z, hsplit, h⟩
      cases pre with
      | nil =>
        obtain ⟨rfl, rfl⟩ := List.cons.inj hsplit
        exact .inl ⟨z, h⟩
      | cons first' pre =>
        obtain ⟨rfl, rfl⟩ := List.cons.inj hsplit
        exact .inr ⟨pre, line, post, z, rfl, h⟩

/-! ### Saved files -/

theorem mem_savedLines_iff : line ∈ savedLines zones ↔
    ∃ i z, i < maxNumberOfZones ∧ zones i = some z ∧ line = lineOf i z := by
  rw [savedLines, List.mem_filterMap]
  constructor
  · rintro ⟨i, hi, h⟩
    obtain ⟨z, hz, rfl⟩ := Option.map_eq_some_iff.1 h
    exact ⟨i, z, List.mem_range.1 hi, hz, rfl⟩
  · rintro ⟨i, z, hi, hz, rfl⟩
    exact ⟨i, List.mem_range.2 hi, Option.map_eq_some_iff.2 ⟨z, hz, rfl⟩⟩

variable {c : Contents}

theorem Contents.lt_of_eq_some (hz : c.zones i = some z) : i < maxNumberOfZones := by
  by_contra h
  rw [c.outside i (Nat.le_of_not_lt h)] at hz
  cases hz

/-- **The lines of a saved file** are those of the entries. -/
theorem pieces_saveAllZonesToFile (c : Contents) :
    pieces newline (saveAllZonesToFile c.zones) = savedLines c.zones := by
  have hlines : ∀ line ∈ savedLines c.zones, newline ∉ line := by
    intro line hline
    obtain ⟨i, z, -, hz, rfl⟩ := mem_savedLines_iff.1 hline
    rw [lineOf, List.mem_append, not_or]
    refine ⟨?_, NvZone.Legal.notMem (c.legal i z hz) (by decide)⟩
    rw [terminated, List.mem_flatMap]
    rintro ⟨piece, hpiece, hmem⟩
    rw [List.mem_append, List.mem_singleton] at hmem
    exact hmem.elim (notMem_numbers (by decide) (by decide) piece hpiece) (by decide)
  have hlast : newline ∉ ([] : List Byte) := List.not_mem_nil
  have h := pieces_terminated_append hlines hlast
  rw [List.append_nil, if_pos rfl, List.append_nil] at h
  exact h

/-- The zones that exist have known types. -/
def AllKnown (zones : Array) : Prop :=
  ∀ i z, zones i = some z → z.Existing → z.deviceType ∈ knownTypes

/-- **What holds while the lines of a saved file are loaded**: an entry is erased or restored, the
house is the common one, and only lines of the file are written again. -/
structure Good (c : Contents) (st : State) : Prop where
  /-- The entries. -/
  entries : ∀ k, st.nvZoneProperties k = none ∨ st.nvZoneProperties k = existing c.zones k
  /-- The house. -/
  house : st.global_houseID = 0 ∨ st.global_houseID = c.house
  /-- The file. -/
  written : ∀ line ∈ st.written, ∃ i z, c.zones i = some z ∧ line = lineOf i z

theorem good_fresh (c : Contents) : Good c .fresh :=
  ⟨fun _ => .inl rfl, .inl rfl, fun _ h => absurd h List.not_mem_nil⟩

theorem existing_eq_some (hz : zones i = some z) (h : z.Existing) : existing zones i = some z := by
  rw [existing, hz, Option.filter_some, if_pos (decide_eq_true h)]

theorem existing_eq_none (hz : zones i = some z) (h : ¬ z.Existing) : existing zones i = none := by
  rw [existing, hz, Option.filter_some, if_neg (mt of_decide_eq_true h)]

theorem isRf_of_known (h : z.deviceType ∈ knownTypes) : z.IsRf := by
  constructor
  · intro heq
    exact absurd (heq ▸ h) (by decide)
  · intro heq
    exact absurd (heq ▸ h) (by decide)

/-- An entry that is erased is written, and its line appended; one that is restored stays. -/
theorem setZoneProperties_good (hst : Good c st) (hz : c.zones i = some z) (h : z.Existing) :
    Good c (setZoneProperties i z st) ∧
      (setZoneProperties i z st).nvZoneProperties =
        Function.update st.nvZoneProperties i (some z) := by
  have hexisting := existing_eq_some hz h
  rw [setZoneProperties, if_pos (Contents.lt_of_eq_some hz)]
  split
  · rename_i hnone
    rw [if_pos h]
    refine ⟨⟨fun k => ?_, hst.house, fun line hline => ?_⟩, rfl⟩
    · by_cases hk : k = i
      · subst hk
        exact .inr ((Function.update_self _ _ _).trans hexisting.symm)
      · dsimp only
        rw [Function.update_of_ne hk]
        exact hst.entries k
    · obtain hline | hline := List.mem_append.1 hline
      · exact hst.written line hline
      · exact ⟨i, z, hz, List.mem_singleton.1 hline⟩
  · rename_i old hold
    have hsame : z = old := by
      obtain hnone | hsome := hst.entries i
      · rw [hnone] at hold
        cases hold
      · rw [hsome, hexisting] at hold
        exact Option.some.inj hold
    rw [if_pos hsame]
    refine ⟨⟨hst.entries, hst.house, hst.written⟩, ?_⟩
    rw [hsame, ← hold, Function.update_eq_self]

/-- **A line of the file** restores its zone. -/
theorem loadLine_good (hknown : AllKnown c.zones) (hst : Good c st) (hz : c.zones i = some z) :
    Good c (loadLine st (lineOf i z)) ∧
      (loadLine st (lineOf i z)).nvZoneProperties i = existing c.zones i ∧
      ∀ k, st.nvZoneProperties k = existing c.zones k →
        (loadLine st (lineOf i z)).nvZoneProperties k = existing c.zones k := by
  have hi := Contents.lt_of_eq_some hz
  have hlegal : z.Legal := c.legal i z hz
  by_cases h : z.Existing
  · have htype := hknown i z hz h
    have hhouse := c.common i z hz h (isRf_of_known htype)
    have hparse := parseLine_existing hi hlegal h st.global_houseID
    have hafter := houseAfter_existing hi hlegal h st.global_houseID
    have haccepts : (st.global_houseID = 0 ∨ z.houseId = st.global_houseID) ∧
        z.deviceType ∈ knownTypes :=
      ⟨hst.house.imp id fun heq => hhouse.trans heq.symm, htype⟩
    rw [if_pos haccepts] at hparse
    have hnext : Good c { st with
        global_houseID := houseAfter st.global_houseID (lineOf i z)
        accessed := st.accessed ++ [i]
        numZonesLoaded := st.numZonesLoaded + 1 } := by
      refine ⟨hst.entries, ?_, hst.written⟩
      rw [hafter]
      split
      · exact .inr hhouse
      · exact hst.house
    obtain ⟨hgood, hupdate⟩ := setZoneProperties_good hnext hz h
    have hexisting := existing_eq_some hz h
    rw [loadLine, hparse]
    dsimp only
    refine ⟨hgood, ?_, fun k hk => ?_⟩
    · rw [hupdate, Function.update_self, hexisting]
    · rw [hupdate]
      by_cases hki : k = i
      · rw [hki, Function.update_self, hexisting]
      · rwa [Function.update_of_ne hki]
  · obtain ⟨hparse, hafter⟩ := parseLine_deleted i hlegal h st.global_houseID
    rw [loadLine, hparse, hafter]
    refine ⟨⟨hst.entries, hst.house, hst.written⟩, ?_, fun k hk => hk⟩
    rw [existing_eq_none hz h]
    obtain hnone | hsome := hst.entries i
    · exact hnone
    · rw [hsome, existing_eq_none hz h]

/-- **All lines of a file**, each any number of times and in any order. -/
theorem foldl_loadLine_good (hknown : AllKnown c.zones)
    (hlines : ∀ line ∈ lines, ∃ i z, c.zones i = some z ∧ line = lineOf i z)
    (hst : Good c st) :
    Good c (lines.foldl loadLine st) ∧
      (∀ k, st.nvZoneProperties k = existing c.zones k →
        (lines.foldl loadLine st).nvZoneProperties k = existing c.zones k) ∧
      ∀ i z, c.zones i = some z → lineOf i z ∈ lines →
        (lines.foldl loadLine st).nvZoneProperties i = existing c.zones i := by
  induction lines generalizing st with
  | nil => exact ⟨hst, fun _ h => h, fun _ _ _ h => absurd h List.not_mem_nil⟩
  | cons line lines ih =>
    obtain ⟨i, z, hz, rfl⟩ := hlines line List.mem_cons_self
    obtain ⟨hgood, -, hkeep⟩ := loadLine_good hknown hst hz
    obtain ⟨hall, hkept, hrestored⟩ :=
      ih (fun line hl => hlines line (List.mem_cons_of_mem _ hl)) hgood
    refine ⟨hall, fun k hk => hkept k (hkeep k hk), fun i' z' hz' hmem => ?_⟩
    obtain heq | hmem := List.mem_cons.1 hmem
    · refine hkept i' ?_
      rw [← heq]
      exact (loadLine_good hknown hst hz').2.1
    · exact hrestored i' z' hz' hmem

/-! ### When a file restores the zones -/

theorem restoresAll_of_known (c : Contents) (hknown : AllKnown c.zones) :
    RestoresAll c.zones := by
  intro more hmore
  rw [pieces_saveAllZonesToFile] at hmore ⊢
  have hsaved : ∀ line ∈ savedLines c.zones, ∃ i z, c.zones i = some z ∧ line = lineOf i z := by
    intro line hline
    obtain ⟨i, z, -, hz, rfl⟩ := mem_savedLines_iff.1 hline
    exact ⟨i, z, hz, rfl⟩
  obtain ⟨hgood, -⟩ := foldl_loadLine_good hknown hsaved (good_fresh c)
  have hlines : ∀ line ∈ savedLines c.zones ++ more,
      ∃ i z, c.zones i = some z ∧ line = lineOf i z := by
    intro line hline
    obtain hline | hline := List.mem_append.1 hline
    · exact hsaved line hline
    · exact hgood.written line (hmore line hline)
  obtain ⟨hfinal, -, hrestored⟩ := foldl_loadLine_good hknown hlines (good_fresh c)
  funext k
  cases hz : c.zones k with
  | none =>
    have hnone : existing c.zones k = none := by rw [existing, hz, Option.filter_none]
    obtain h | h := hfinal.entries k
    · exact h.trans hnone.symm
    · exact h
  | some z =>
    refine hrestored k z hz (List.mem_append_left _ ?_)
    exact mem_savedLines_iff.2 ⟨k, z, Contents.lt_of_eq_some hz, hz, rfl⟩

theorem known_of_restoresAll (c : Contents) (h : RestoresAll c.zones) : AllKnown c.zones := by
  intro k z hz hexisting
  by_contra htype
  have hrestored := congrFun (h [] fun line hl => absurd hl List.not_mem_nil) k
  rw [List.append_nil, pieces_saveAllZonesToFile, existing_eq_some hz hexisting,
    loadAllZonesFromFile, foldl_loadLine_of_ne] at hrestored
  · cases hrestored
  · intro line hline house z'
    obtain ⟨i, y, hi, hy, rfl⟩ := mem_savedLines_iff.1 hline
    refine parseLine_lineOf_ne hi (c.legal i y hy) ?_ house z'
    by_cases hik : i = k
    · subst hik
      rw [hz] at hy
      cases hy
      exact .inr fun hcond => htype hcond.2
    · exact .inl hik

theorem restoresAll_iff (c : Contents) : RestoresAll c.zones ↔ AllKnown c.zones :=
  ⟨known_of_restoresAll c, restoresAll_of_known c⟩

/-! ### When the accesses are in bounds -/

/-- An accepted index is the number of zones at most. -/
theorem parseLine_index_le (h : parseLine house line = some (i, z)) : i ≤ maxNumberOfZones := by
  rw [parseLine] at h
  split at h
  · simp only [Option.bind_eq_bind, Option.bind_eq_some_iff] at h
    obtain ⟨zoneIndex, -, buildingId, -, houseId, -, groupId, -, roomId, -, typeValue, -,
      rampRate, -, h⟩ := h
    rw [verify] at h
    split at h
    · split at h
      · rename_i hcond
        obtain ⟨rfl, -⟩ := Prod.mk.inj (Option.some.inj h)
        exact Int.toNat_le.2 hcond.1.2
      · cases h
    · cases h
  · cases h

/-- A line with the number of zones as its index is accepted. -/
def AcceptsHundred (lines : List (List Byte)) : Prop :=
  ∃ pre line post z, lines = pre ++ line :: post ∧
    parseLine (pre.foldl houseAfter 0) line = some (maxNumberOfZones, z)

theorem inBounds_iff (lines : List (List Byte)) : InBounds lines ↔ ¬ AcceptsHundred lines := by
  constructor
  · rintro h ⟨pre, line, post, z, hsplit, hparse⟩
    exact Nat.lt_irrefl _ (h _ (mem_foldl_accessed_iff.2
      (.inr ⟨pre, line, post, z, hsplit, hparse⟩)))
  · intro h i hi
    obtain hi | ⟨pre, line, post, z, hsplit, hparse⟩ := mem_foldl_accessed_iff.1 hi
    · exact absurd hi List.not_mem_nil
    · refine lt_of_le_of_ne (parseLine_index_le hparse) ?_
      rintro rfl
      exact h ⟨pre, line, post, z, hsplit, hparse⟩

/-- **The zone file**: the zones that exist are restored, and no others added, if all their types
are known; and the accesses are in bounds if no line with the number of zones as its index is
accepted. -/
theorem zoneFile_iff (c : Contents) (lines : List (List Byte)) :
    (RestoresAll c.zones ↔ AllKnown c.zones) ∧ (InBounds lines ↔ ¬ AcceptsHundred lines) :=
  ⟨restoresAll_iff c, inBounds_iff lines⟩

/-- A shade, as it is added. -/
def shade : NvZone where
  groupId := 0x1000
  deviceType := Rf.shadeType
  rampRate := 0
  buildingId := 0
  houseId := 0
  roomId := 0
  ZoneNameString := ⟨[0x53], by decide, by decide⟩

/-- The only zone is a shade. -/
def shadeContents : Contents where
  zones i := if i = 0 then some shade else none
  outside i hi := if_neg fun h => absurd (h ▸ hi) (by decide)
  legal i z hz c hc := by
    split at hz
    · cases hz
      rw [List.mem_singleton.1 hc]
      decide
    · cases hz
  house := 0
  common i z hz _ _ := by
    split at hz
    · cases hz
      rfl
    · cases hz

/-- A dimmer at the index 100. -/
def hundred : List Byte := JsonT.bytesOfString "100\t1\t1\t1\t1\t65\t50\tLamp"

/-- A shade is not restored, and a line with the index 100 leads to an access out of bounds. -/
theorem shade_not_restored : ¬ RestoresAll shadeContents.zones ∧ ¬ InBounds [hundred] := by
  constructor
  · rw [restoresAll_iff]
    intro h
    exact absurd (h 0 shade rfl (by decide)) (by decide)
  · rw [inBounds_iff, not_not]
    exact ⟨[], hundred, [], ⟨1, 65, 50, 1, 1, 1, ⟨[0x4C, 0x61, 0x6D, 0x70], by decide, by decide⟩⟩,
      rfl, by decide +kernel⟩

end ZoneFile

end Server

end Lcm
