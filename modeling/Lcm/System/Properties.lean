import Lcm.Flash.Driver
import Mathlib.Data.Int.Notation

/-!
# System properties

The system properties, the extended system properties and the MAC address are saved in the last
sector that the firmware uses of the upper half of the flash.  A firmware update exchanges the two
halves, so that the sector is then found in the lower half; on startup, the half with the newer
index is used, and if it is the lower one, all data is copied to the upper half.

The members of the properties that the code only copies are kept as bytes.

## Main definitions

* `SystemProperties`, `Ram` : the properties and the other variables.
* `saveSystemPropertiesToFlash`, `whichFlashBlockToUse`, `initializeFlash`,
  `loadSystemPropertiesFromFlash` : the functions of the source.
* `boot` : what runs on startup.
-/

namespace Lcm

namespace System

open Flash

/-! ### Addresses and sizes -/

/-- `LCM_DATA_STARTING_BLOCK` -/
abbrev LCM_DATA_STARTING_BLOCK : ℕ := 0xdb000

/-- `SYSTEM_PROPERTIES_FLASH_ADDRESS` -/
abbrev SYSTEM_PROPERTIES_FLASH_ADDRESS : ℕ := 0xfe000

/-- `SYSTEM_PROPERTIES_FLASH_CRC_ADDRESS` -/
abbrev SYSTEM_PROPERTIES_FLASH_CRC_ADDRESS : ℕ := 0xfeff0

/-- `FLASH_UPPER_BLOCK_END_ADDRESS` -/
abbrev FLASH_UPPER_BLOCK_END_ADDRESS : ℕ := 0xff000

/-- `FLASH_UPPER_BLOCK_START_ADDRESS` -/
abbrev FLASH_UPPER_BLOCK_START_ADDRESS : ℕ := 0x80000

/-- `FLASH_LOWER_BLOCK` of an address in the upper half. -/
abbrev flashLowerBlock (x : ℕ) : ℕ := x - FLASH_UPPER_BLOCK_START_ADDRESS

/-- The size of `system_properties`. -/
abbrev systemPropertiesSize : ℕ := 148

/-- The size of `extended_system_properties`. -/
abbrev extendedSystemPropertiesSize : ℕ := 120

/-! ### The properties -/

/-- `system_properties` -/
@[ext] structure SystemProperties where
  /-- `locationInfoString`, `latitude` and `longitude` -/
  location : Fin 136 → Byte
  /-- `gmtOffsetSeconds` -/
  gmtOffsetSeconds : Dword
  /-- `effectiveGmtOffsetSeconds` -/
  effectiveGmtOffsetSeconds : Dword
  /-- `addALight` -/
  addALight : Byte
  /-- `useDaylightSaving` -/
  useDaylightSaving : Byte
  /-- `configured` -/
  configured : Byte
  /-- `addASceneController` -/
  addASceneController : Byte

/-- The bytes of the properties in memory. -/
def SystemProperties.bytes (p : SystemProperties) (i : ℕ) : Byte :=
  if h : i < 136 then p.location ⟨i, h⟩
  else if i < 140 then byteOfDword p.gmtOffsetSeconds (i - 136)
  else if i < 144 then byteOfDword p.effectiveGmtOffsetSeconds (i - 140)
  else if i = 144 then p.addALight
  else if i = 145 then p.useDaylightSaving
  else if i = 146 then p.configured
  else p.addASceneController

/-- The properties with the given bytes. -/
def SystemProperties.ofBytes (bytes : ℕ → Byte) : SystemProperties where
  location i := bytes i
  gmtOffsetSeconds := dwordOfBytes fun k => bytes (136 + k)
  effectiveGmtOffsetSeconds := dwordOfBytes fun k => bytes (140 + k)
  addALight := bytes 144
  useDaylightSaving := bytes 145
  configured := bytes 146
  addASceneController := bytes 147

/-- `extended_system_properties`, which is only copied -/
abbrev ExtendedSystemProperties := Fin extendedSystemPropertiesSize → Byte

/-- What is saved. -/
@[ext] structure Content where
  /-- `systemProperties` -/
  systemProperties : SystemProperties
  /-- `extendedSystemProperties` -/
  extendedSystemProperties : ExtendedSystemProperties
  /-- `myMACAddress` -/
  myMACAddress : Fin 6 → Byte

/-- The variables in RAM. -/
structure Ram extends Content where
  /-- What lies behind `systemProperties`, which is saved with it up to a whole phrase. -/
  behindProperties : Fin 4 → Byte
  /-- `inDST` -/
  inDST : Bool
  /-- `flashBlockIndexForNextWrite` -/
  flashBlockIndexForNextWrite : Byte

/-! ### Saving -/

/-- The bytes from `systemProperties` on. -/
def Ram.propertiesSource (ram : Ram) : Source := fun _ i =>
  if i < systemPropertiesSize then ram.systemProperties.bytes i
  else ram.behindProperties (Fin.ofNat 4 (i - systemPropertiesSize))

/-- The bytes from `extendedSystemProperties` on. -/
def Ram.extendedSource (ram : Ram) : Source := fun _ i =>
  ram.extendedSystemProperties (Fin.ofNat _ i)

/-- The title block with a checksum in it. -/
def crcTitleBlock (crc : Word) : List Byte :=
  [lowByteOfWord crc, highByteOfWord crc, 0xFF, 0xFF, 0xFF, 0xFF, 0xFF, 0xFF]

/-- The title block with `CANARY_BYTE_STRING`, the index and the MAC address in it. -/
def Ram.titleBlock (ram : Ram) : List Byte :=
  [0x4D, 0x4D, 0x37, ram.flashBlockIndexForNextWrite, ram.myMACAddress 3, ram.myMACAddress 4,
    ram.myMACAddress 5, 0xFF]

variable (hw : Hardware)

/-- `SaveSystemPropertiesToFlash` -/
def saveSystemPropertiesToFlash (ram : Ram) : Program Device Dword := do
  let returnCode ← flashEraseSector hw SYSTEM_PROPERTIES_FLASH_ADDRESS 0x01000
  if returnCode ≠ FTFx_OK then pure (10000 + returnCode)
  else
    let destinationAddress := SYSTEM_PROPERTIES_FLASH_ADDRESS + 8
    let numberOfBytesToWrite := flashSizeof systemPropertiesSize
    let returnCode ← flashProgramPhrase hw destinationAddress numberOfBytesToWrite
      ram.propertiesSource
    if returnCode ≠ FTFx_OK then pure (20000 + returnCode)
    else
      let destinationAddress := destinationAddress + numberOfBytesToWrite
      let returnCode ← flashProgramPhrase hw (destinationAddress + 8)
        (flashSizeof extendedSystemPropertiesSize) ram.extendedSource
      if returnCode ≠ FTFx_OK then pure (30000 + returnCode)
      else
        let f ← Program.get
        let calculatedCRCValue := updateCRC16 0xFFFF (bytesAt f.memory (destinationAddress + 8))
          extendedSystemPropertiesSize
        let returnCode ← flashProgramPhrase hw destinationAddress 8
          (ramSource (crcTitleBlock calculatedCRCValue))
        if returnCode ≠ FTFx_OK then pure (40000 + returnCode)
        else
          let returnCode ← flashProgramPhrase hw SYSTEM_PROPERTIES_FLASH_ADDRESS 8
            (ramSource ram.titleBlock)
          if returnCode ≠ FTFx_OK then pure (50000 + returnCode)
          else
            let f ← Program.get
            let calculatedCRCValue := updateCRC16 0xFFFF
              (bytesAt f.memory SYSTEM_PROPERTIES_FLASH_ADDRESS)
              (flashSizeof (systemPropertiesSize + 8))
            let returnCode ← flashProgramPhrase hw SYSTEM_PROPERTIES_FLASH_CRC_ADDRESS 8
              (ramSource (crcTitleBlock calculatedCRCValue))
            if returnCode ≠ FTFx_OK then pure (60000 + returnCode) else pure returnCode

/-! ### Selecting a block -/

/-- `crcCalcBytes` -/
abbrev crcCalcBytes : ℕ := 4 + 4 + flashSizeof systemPropertiesSize

/-- The word at an offset. -/
def wordAt (block : ℕ → Byte) (i : ℕ) : Word := wordOfBytes (block (i + 1)) (block i)

/-- A block has the canary, and the checksum that belongs to it is right. -/
def Valid (block : ℕ → Byte) : Prop :=
  (block 0 = 0x4D ∧ block 1 = 0x4D ∧ block 2 = 0x37) ∧
    wordAt block (SYSTEM_PROPERTIES_FLASH_CRC_ADDRESS - SYSTEM_PROPERTIES_FLASH_ADDRESS) =
      updateCRC16 0xFFFF block crcCalcBytes

instance : DecidablePred Valid := fun _ => inferInstanceAs (Decidable (_ ∧ _))

/-- The index of a block, or minus one. -/
def blockIndex (block : ℕ → Byte) : ℤ := if Valid block then (block 3).toNat else -1

/-- Which block to use. -/
inductive Block
  /-- 0 = neither -/
  | neither
  /-- 1 = low block -/
  | low
  /-- 2 = high block -/
  | high
  deriving DecidableEq

/-- `WhichFlashBlockToUse`, for the two indices -/
def selectBlock (lowBlockIndex highBlockIndex : ℤ) : Block :=
  if lowBlockIndex = -1 ∧ highBlockIndex = -1 then .neither
  else if lowBlockIndex = 0 ∧ highBlockIndex = 0xFF then .low
  else if highBlockIndex = 0 ∧ lowBlockIndex = 0xFF then .high
  else if highBlockIndex > lowBlockIndex then .high
  else .low

/-- `WhichFlashBlockToUse` -/
def whichFlashBlockToUse (m : Memory) : Block :=
  selectBlock (blockIndex (bytesAt m (flashLowerBlock SYSTEM_PROPERTIES_FLASH_ADDRESS)))
    (blockIndex (bytesAt m SYSTEM_PROPERTIES_FLASH_ADDRESS))

/-! ### Startup -/

/-- `InitializeFlash`, without the messages -/
def initializeFlash (ram : Ram) : Program Device Ram := do
  let f ← Program.get
  match whichFlashBlockToUse f.memory with
  | .low =>
    let size := FLASH_UPPER_BLOCK_END_ADDRESS - LCM_DATA_STARTING_BLOCK
    let _ ← flashEraseSector hw LCM_DATA_STARTING_BLOCK size
    let _ ← flashProgramPhrase hw LCM_DATA_STARTING_BLOCK size
      (flashSource (flashLowerBlock LCM_DATA_STARTING_BLOCK))
    pure { ram with
      flashBlockIndexForNextWrite :=
        f.memory (flashLowerBlock SYSTEM_PROPERTIES_FLASH_ADDRESS + 3) + 1 }
  | .high =>
    pure { ram with
      flashBlockIndexForNextWrite := f.memory (SYSTEM_PROPERTIES_FLASH_ADDRESS + 3) }
  | .neither => pure { ram with flashBlockIndexForNextWrite := 1 }

/-- What `LoadSystemPropertiesFromFlash` puts into RAM from a valid block, and whether it must be
saved again. -/
def loadBlock (block : ℕ → Byte) (ram : Ram) : Ram × Bool :=
  let mustResave := decide (block 3 ≠ ram.flashBlockIndexForNextWrite)
  let myMACAddress := fun i : Fin 6 => if i.val < 3 then ram.myMACAddress i else block (1 + i)
  let p := SystemProperties.ofBytes fun i => block (8 + i)
  let (p, inDST, mustResave) :=
    if p.effectiveGmtOffsetSeconds = p.gmtOffsetSeconds then (p, false, mustResave)
    else if p.effectiveGmtOffsetSeconds = p.gmtOffsetSeconds + 3600 then (p, true, mustResave)
    else ({ p with effectiveGmtOffsetSeconds := p.gmtOffsetSeconds }, false, true)
  let extended := fun i => block (crcCalcBytes + 8 + i)
  let extendedSystemProperties :=
    if wordAt block crcCalcBytes = updateCRC16 0xFFFF extended extendedSystemPropertiesSize then
      fun i : Fin extendedSystemPropertiesSize => extended i
    else ram.extendedSystemProperties
  ({ ram with
      systemProperties := p, extendedSystemProperties := extendedSystemProperties
      myMACAddress := myMACAddress, inDST := inDST }, mustResave)

/-- `LoadSystemPropertiesFromFlash`: whether there was an error, and the variables. -/
def loadSystemPropertiesFromFlash (ram : Ram) : Program Device (Bool × Ram) := do
  let f ← Program.get
  let block := bytesAt f.memory SYSTEM_PROPERTIES_FLASH_ADDRESS
  if Valid block then
    let (ram, mustResaveFlashFlag) := loadBlock block ram
    if mustResaveFlashFlag then
      let _ ← saveSystemPropertiesToFlash hw ram
      pure (false, ram)
    else pure (false, ram)
  else pure (true, ram)

/-- `InitializeSystemProperties` -/
def initializeSystemProperties (ram : Ram) : Ram :=
  { ram with
    systemProperties :=
      { location := fun i =>
          if i.val = 0 ∨ 128 ≤ i.val then 0 else ram.systemProperties.location i
        gmtOffsetSeconds := 0, effectiveGmtOffsetSeconds := 0, addALight := 0
        useDaylightSaving := 1, configured := 0, addASceneController := 0 }
    inDST := false }

/-- `DEFAULT_MAC_ADDRESS` -/
def defaultMACAddress : Fin 6 → Byte := fun i =>
  [0x00, 0x26, 0xEC, 0x80, 0x10, 0x0B].getD i 0

/-- The variables when the program is started. -/
def startRam : Ram where
  systemProperties := ⟨fun _ => 0, 0, 0, 0, 0, 0, 0⟩
  extendedSystemProperties _ := 0
  myMACAddress := defaultMACAddress
  behindProperties _ := 0
  inDST := false
  flashBlockIndexForNextWrite := 0

/-- What runs on startup. -/
def boot : Program Device Ram := do
  let ram := initializeSystemProperties startRam
  let ram ← initializeFlash hw ram
  let (_, ram) ← loadSystemPropertiesFromFlash hw ram
  pure ram

end System

end Lcm
