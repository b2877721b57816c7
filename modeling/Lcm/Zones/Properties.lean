import Lcm.CString

/-!
# Zone properties

The record `zone_properties` that the zone operations and the RF layer exchange.
-/

namespace Lcm

/-- `MAX_SIZE_NAME_STRING` -/
abbrev maxSizeNameString : ℕ := 21

/-- `ELIOT_DEVICE_ID_SIZE` -/
abbrev eliotDeviceIdSize : ℕ := 37

/-- A name has room for its terminator. -/
theorem maxSizeNameString_pos : 0 < maxSizeNameString := by decide

/-- A device id has room for its terminator. -/
theorem eliotDeviceIdSize_pos : 0 < eliotDeviceIdSize := by decide

/-- `zone_properties` -/
@[ext] structure ZoneProperties where
  /-- The application context of the last change. -/
  AppContextId : Dword
  /-- The group id of the device. -/
  groupId : Word
  /-- Whether the device is on. -/
  state : Bool
  /-- Whether the device is to be on. -/
  targetState : Bool
  /-- The level that is set. -/
  powerLevel : Byte
  /-- The level to be set. -/
  targetPowerLevel : Byte
  /-- The ramp rate. -/
  rampRate : Byte
  /-- `Dev_Type`, one byte wide. -/
  deviceType : Byte
  /-- The building the device is in. -/
  buildingId : Byte
  /-- The house the device is in. -/
  houseId : Byte
  /-- The room the device is in. -/
  roomId : Byte
  /-- The name; empty for a deleted zone. -/
  ZoneNameString : CString maxSizeNameString
  /-- The id under which the cloud knows the device; empty when it has none. -/
  EliotDeviceId : CString eliotDeviceIdSize
  deriving DecidableEq

end Lcm
