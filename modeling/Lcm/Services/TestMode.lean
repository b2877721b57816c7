import Lcm.Jansson
import Mathlib.Data.Int.Notation

/-!
# The services of the manufacturing test mode

In the test mode the controller sends any RF packet it is asked to, switches its outputs, and
changes its MAC address.  What each service checks of its request is here, with what it does when
nothing is wrong.

## Main definitions

* `Error` : the text and the code of an error response.
* `readBytes` : the bytes in an array of a request.
* `mtmSendRFPacket`, `mtmSetOutput`, `mtmSetMACAddress` : a request, checked.
-/

namespace Lcm

namespace Services

/-- What `BuildErrorResponse` is called with. -/
@[ext] structure Error where
  /-- `errorText` -/
  errorText : String
  /-- `errorCode` -/
  errorCode : ℤ
  deriving DecidableEq

/-- The bytes in an array, from element `arrayIndex` on.  Each has its own limit. -/
def readBytes (notAnInteger : ℕ → Error) (invalid : ℕ → BitVec 64 → Error)
    (limit : ℕ → BitVec 64) : ℕ → List JsonT → Except Error (List Byte)
  | _, [] => .ok []
  | arrayIndex, element :: elements =>
    if !element.isInteger then .error (notAnInteger arrayIndex)
    else if element.integerValue.slt 0 || (limit arrayIndex).slt element.integerValue then
      .error (invalid arrayIndex element.integerValue)
    else do
      let bytes ← readBytes notAnInteger invalid limit (arrayIndex + 1) elements
      pure (element.integerValue.setWidth 8 :: bytes)

/-! ### `MTMSendRFPacket` -/

/-- The member `key` of a request is an array of three bytes. -/
def mtmAddress (address : Option JsonT) : Except Error (List Byte) :=
  if !(address.any JsonT.isArray) then .error ⟨"'Destination' not an array.", 3003⟩
  else if (address.elim [] JsonT.elements).length ≠ 3 then
    .error ⟨"'Destination' array does not contain 3 bytes.", 3004⟩
  else
    readBytes
      (fun arrayIndex => ⟨s!"Destination byte {arrayIndex} not an integer.", 3005⟩)
      (fun arrayIndex _ => ⟨s!"Destination byte {arrayIndex} invalid: must be 0-255.", 3006⟩)
      (fun _ => 0xFF) 0 (address.elim [] JsonT.elements)

/-- The header of a packet. -/
def mtmHeader (header : Option JsonT) : Except Error Byte :=
  if !(header.any JsonT.isInteger) then .error ⟨"'Header' field not an integer.", 3001⟩
  else
    let localInt := header.elim 0 JsonT.integerValue
    if localInt.slt 0 || (0xFF : BitVec 64).slt localInt then
      .error ⟨"'Header' field must be 0 through 255.", 3002⟩
    else .ok (localInt.setWidth 8)

/-- The bits that tell the size of the payload; `arraySize` is a byte. -/
def mtmPayloadSize (arraySize : Byte) : Option Byte :=
  if arraySize = 1 then some 0x00 else if arraySize = 2 then some 0x40
  else if arraySize = 4 then some 0x80 else if arraySize = 6 then some 0xC0 else none

/-- The payload of a packet. -/
def mtmPayload (payload : Option JsonT) : Except Error (List Byte) :=
  if !(payload.any JsonT.isArray) then .error ⟨"'Payload' not an array.", 3007⟩
  else
    let elements := payload.elim [] JsonT.elements
    let arraySize := BitVec.ofNat 8 elements.length
    match mtmPayloadSize arraySize with
    | none => .error ⟨"'Payload' array must contain 1, 2, 4 or 6 bytes.", 3008⟩
    | some size => do
      let bytes ← readBytes
        (fun arrayIndex => ⟨s!"Payload byte {arrayIndex} not an integer.", 3009⟩)
        (fun arrayIndex _ =>
          if arrayIndex = 0 then ⟨"Payload byte 1 invalid: must be 0 - 63.", 3010⟩
          else ⟨s!"Payload byte {arrayIndex} invalid: must be 0-255.", 3011⟩)
        (fun arrayIndex => if arrayIndex = 0 then 0x3F else 0xFF) 0
        (elements.take arraySize.toNat)
      pure (bytes.modifyHead (size ||| ·))

/-- The optional second address of a packet. -/
def mtmSecondAddress (address : Option JsonT) : Except Error (List Byte) :=
  if address.isSome then mtmAddress address else .ok []

/-- `HandleMTMSendRFPacket`: what is passed to `RFM100_Send`. -/
def mtmSendRFPacket (root : JsonT) : Except Error (List Byte) := do
  let header ← mtmHeader (root.get "Header")
  let destination ← mtmAddress (root.get "Destination")
  let payload ← mtmPayload (root.get "Payload")
  let second ← mtmSecondAddress (root.get "SecondAddress")
  let packet := header :: destination ++ payload ++ second
  let crcValue := updateCRC8 0 (fun i => packet.getD i 0) packet.length
  let packet := packet ++ [crcValue, ~~~crcValue]
  pure (0x86 :: 0xb4 :: BitVec.ofNat 8 packet.length :: packet)

/-! ### `SetOutput` -/

/-- `MTMOutputStrings` -/
def mtmOutputStrings : List String := ["LED1-GR", "LED1-RED", "LED2-GR", "LED2-RED", "OUT0", "OUT1"]

/-- `HandleMTMSetOutput`: the output, and whether it is set to `LWGPIO_VALUE_LOW`. -/
def mtmSetOutput (root : JsonT) : Except Error (ℕ × Bool) :=
  match root.get "Output" with
  | some (.string outputString) =>
    let outputIndex := mtmOutputStrings.idxOf outputString
    if outputIndex ≥ mtmOutputStrings.length then
      .error ⟨s!"Unknown 'Output' {outputString}.", 3013⟩
    else if !((root.get "State").any JsonT.isBoolean) then
      .error ⟨"'State' field not a boolean.", 3000⟩
    else .ok (outputIndex, (root.get "State").any JsonT.isTrue)
  | _ => .error ⟨"'Output' field not a string.", 3012⟩

/-! ### `SetMACAddress` -/

/-- `%02x` of the low half of a `json_int_t` -/
def hex02 (value : BitVec 64) : String :=
  let digits := Nat.toDigits 16 (value.setWidth 32).toNat
  String.ofList (if digits.length < 2 then '0' :: digits else digits)

/-- `HandleMTMSetMACAddress`: the last three bytes of the new address. -/
def mtmSetMACAddress (root : JsonT) : Except Error (List Byte) :=
  match root.get "MACAddress" with
  | some (.array elements) =>
    if elements.length ≠ 3 then .error ⟨"'MACAddress' array does not contain 3 bytes.", 3015⟩
    else
      readBytes
        (fun index => ⟨s!"MAC address byte {index} not an integer.", 3016⟩)
        (fun _ MACAddressByte => ⟨s!"MAC address byte {hex02 MACAddressByte} invalid.", 3017⟩)
        (fun _ => 0xFF) 0 elements
  | _ => .error ⟨"'MACAddress' not an array.", 3014⟩

end Services

end Lcm
