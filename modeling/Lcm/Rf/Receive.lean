import Lcm.Run.Basic
import Lcm.Run.Reading
import Lcm.Memory
import Lcm.Rf.SentMessages

/-!
# The RFM100 receive task

`RFM100Receive_Task` takes the bytes of the radio one by one, `BuildReceivedPacket` collects them
into `receivedPacket` and `ProcessReceivedPacket` decodes a collected packet.  A packet is

    start byte 0xb2, length, rssi, then the topdog message: header, three address bytes,
    command, parameters and one (family F1) or two (families F2 and CADIR) CRC bytes

where the length byte counts the bytes of the topdog message, CRC included.

`receivedPacket` is modelled as the memory from the array's first byte on: the array is its
first 64 entries, and an index past them is an access outside the array.  The places that
`ProcessReceivedPacket` reads are recorded by the `Reading` monad.

## Main definitions

* `buildReceivedPacket`, `processReceivedPacket`, `receiveByte` : the functions of the source.
* `rfm100` : the receive task as a machine, its events being bytes, timeouts and what other
  tasks do to the data it reads.
-/

namespace Lcm

namespace Rf

/-- `START_BYTE` -/
def startByte : Byte := 0xb2

/-- `RFM100_ACK_BYTE` -/
def rfm100AckByte : Byte := 0xC5

/-- `RFM100_NAK_BYTE` -/
def rfm100NakByte : Byte := 0xC6

/-- `TOPDOG_F1` -/
def topdogF1 : Byte := 0x01

/-- `TOPDOG_F2` -/
def topdogF2 : Byte := 0x06

/-- `TOPDOG_CADIR` -/
def topdogCadir : Byte := 0x04

/-- `TDAM_BROADCAST` -/
def tdamBroadcast : Byte := 0

/-- `TDAM_ANON_MULTICAST` -/
def tdamAnonMulticast : Byte := 1

/-- `TDAM_MULTICAST` -/
def tdamMulticast : Byte := 3

/-- `SLOW_DEACTIVATION_RAMP_VALUE` -/
def slowDeactivationRampValue : Byte := 3

/-- `PERCENT_CHANGE_FOR_ADJUST` -/
def percentChangeForAdjust : Byte := 5

/-- `MAX_TD_POWER` -/
def maxTdPower : ℕ := 0xff

/-- `sizeof(receivedPacket)` -/
def receivedPacketSize : ℕ := 64

/-- The states of the framing machine. -/
inductive ReceiveState
  /-- `IDLE` -/
  | idle
  /-- `RECEIVING_RF100_LENGTH` -/
  | receivingRf100Length
  /-- `RECEIVING_RF100_RSSI` -/
  | receivingRf100Rssi
  /-- `RECEIVING_RF100_PAYLOAD` -/
  | receivingRf100Payload
  deriving DecidableEq, Repr

/-- What the receive task hands to the rest of the program. -/
inductive Call
  /-- `PublishAckToQueue` -/
  | publishAckToQueue (ackByte : Byte)
  /-- `HandleRampReceived` -/
  | handleRampReceived (buildingId houseId : Byte) (groupId : Word) (targetValue deviceType : Byte)
  /-- `HandleStatusReceived` -/
  | handleStatusReceived (buildingId houseId : Byte) (groupId : Word)
      (targetLevel deviceType : Byte)
  /-- `HandleSceneControllerMasterOff` -/
  | handleSceneControllerMasterOff (buildingId houseId : Byte) (groupId : Word)
      (deviceType rampRate : Byte)
  /-- `HandleSceneControllerSceneRequest` -/
  | handleSceneControllerSceneRequest (buildingId houseId : Byte) (groupId : Word)
      (bankIndex : Byte) (state : Bool) (deviceType rampRate : Byte)
  /-- `HandleSceneControllerSceneAdjust` -/
  | handleSceneControllerSceneAdjust (buildingId houseId : Byte) (groupId : Word)
      (sceneIdx value change rampRate : Byte)
  /-- The broadcast `MTMReceivedRFPacket` of manufacturing test mode. -/
  | mtmReceivedRFPacket (signalStrength packetHeader : Byte) (packetData : List Byte)
  deriving DecidableEq

/-- The data of the receive task. -/
structure Receiver where
  /-- The memory from the start of the array `receivedPacket` on. -/
  receivedPacket : ℕ → Byte
  /-- `receivedPacketIndex` -/
  receivedPacketIndex : Byte
  /-- `currentReceiveState` -/
  currentReceiveState : ReceiveState
  /-- The static `recvdLen` of `BuildReceivedPacket`. -/
  recvdLen : Byte
  /-- `newSequenceNumber` -/
  newSequenceNumber : Byte
  /-- `oldSequenceNumber` -/
  oldSequenceNumber : Byte
  /-- `manufacturingTestModeFlag` -/
  manufacturingTestModeFlag : Bool
  /-- The queue of sent messages. -/
  sentQueue : SentQueue

/-! ### Building a packet -/

/-- Store a byte at the current index and advance the index. -/
def storeByte (s : Receiver) (inByte : Byte) : Receiver :=
  { s with
    receivedPacket := Function.update s.receivedPacket s.receivedPacketIndex.toNat inByte
    receivedPacketIndex := s.receivedPacketIndex + 1 }

/-- `BuildReceivedPacket`: the receiver, and whether a complete packet has been received. -/
def buildReceivedPacket (s : Receiver) (inByte : Byte) : Receiver × Bool :=
  let s := storeByte s inByte
  if s.receivedPacketIndex.toNat ≥ receivedPacketSize then
    ({ s with currentReceiveState := .idle }, false)
  else
    match s.currentReceiveState with
    | .idle =>
      if inByte = startByte then
        ({ s with currentReceiveState := .receivingRf100Length }, false)
      else (s, false)
    | .receivingRf100Length =>
      let s := { s with recvdLen := inByte + 1 }
      if s.recvdLen.toNat > receivedPacketSize then
        ({ s with currentReceiveState := .idle }, false)
      else ({ s with currentReceiveState := .receivingRf100Rssi }, false)
    | .receivingRf100Rssi => ({ s with currentReceiveState := .receivingRf100Payload }, false)
    | .receivingRf100Payload =>
      if s.receivedPacketIndex.toNat > s.recvdLen.toNat + 1 then
        ({ s with currentReceiveState := .idle }, true)
      else (s, false)

/-! ### Decoding a packet -/

/-- The family field of a header byte. -/
def topdogFamilyOf (header : Byte) : Byte := (header &&& 0xe0) >>> 5

/-- The address mode field of a header byte. -/
def topdogAddressModeOf (header : Byte) : Byte := (header &&& 0x18) >>> 3

/-- The time-to-live field of a header byte. -/
def timeToLiveOf (header : Byte) : Byte := header &&& 0x03

/-- A power byte as a percentage. -/
def percentOfPower (power : Byte) : Byte :=
  BitVec.ofNat 8 ((power.toNat * 100 + maxTdPower / 2) / maxTdPower)

/-- `packetLength - n` as the unsigned 32 bit argument of `UpdateCRC8`. -/
def crcSize (packetLength : Byte) (n : ℕ) : ℕ :=
  (BitVec.ofNat 32 packetLength.toNat - BitVec.ofNat 32 n).toNat

/-- `UpdateCRC8(0, &receivedPacket[3], size)` -/
def packetCrc (packet : ℕ → Byte) (size : ℕ) : Reading Byte :=
  readSpan 3 size (updateCRC8 0 (fun i => packet (3 + i)) size)

/-- The checksum test of `ProcessReceivedPacket`: `validPacketFlag`. -/
def checkPacket (packet : ℕ → Byte) (packetLength topdogFamily : Byte) : Reading Bool := do
  if topdogFamily = topdogF1 then
    let crc ← packetCrc packet (crcSize packetLength 1)
    let last ← readAt packet (packetLength.toNat + 2)
    pure (crc = last)
  else if topdogFamily = topdogF2 ∨ topdogFamily = topdogCadir then
    let crc ← packetCrc packet (crcSize packetLength 2)
    let last ← readAt packet (packetLength.toNat + 1)
    if last = crc then
      let last ← readAt packet (packetLength.toNat + 2)
      pure (last = ~~~crc)
    else pure false
  else pure false

/-- Whether a sequence number announces a new message. -/
def newSequence (s : Receiver) : Bool :=
  s.newSequenceNumber ≠ s.oldSequenceNumber ∨ s.newSequenceNumber = 0

/-- The ids a command is addressed to. -/
structure Address where
  /-- The building. -/
  buildingId : Byte
  /-- The house. -/
  houseId : Byte
  /-- The group. -/
  groupId : Word

/-- The commands `ProcessReceivedPacket` knows. -/
inductive Command
  /-- `RAMP` or `CANCEL_RAMP` -/
  | ramp
  /-- `STATUS` -/
  | status
  /-- `SCENE_CONTROLLER_MASTER_OFF` -/
  | sceneControllerMasterOff
  /-- `SCENE_REQUESTED` -/
  | sceneRequested
  /-- `SCENE_ADJUST` -/
  | sceneAdjust
  deriving DecidableEq

/-- The cases of the `switch` on the command. -/
def Command.ofWord (cmd : Word) : Option Command :=
  if cmd = 0x0005 ∨ cmd = 0x0006 then some .ramp
  else if cmd = 0x0013 then some .status
  else if cmd = 0x002F then some .sceneControllerMasterOff
  else if cmd = 0x002B then some .sceneRequested
  else if cmd = 0x002D then some .sceneAdjust
  else none

/-- The body of the `switch` on the command, its parameters starting at `packIdx`. -/
def processCommand (s : Receiver) (timeToLive : Byte) (a : Address) (packIdx : ℕ) :
    Command → Reading (Receiver × List Call)
  | .ramp => do
    let level ← readAt s.receivedPacket packIdx
    let targetValue := percentOfPower level
    let (messageRepeated, sentQueue) :=
      isMessageARepeat a.buildingId a.houseId a.groupId targetValue timeToLive s.sentQueue
    let s := { s with sentQueue := sentQueue }
    if messageRepeated then pure (s, [])
    else
      let deviceType ← readAt s.receivedPacket (packIdx + 2)
      pure (s, [.handleRampReceived a.buildingId a.houseId a.groupId targetValue deviceType])
  | .status => do
    let level ← readAt s.receivedPacket packIdx
    let targetValue := percentOfPower level
    let next ← readAt s.receivedPacket (packIdx + 1)
    pure (s, [.handleStatusReceived a.buildingId a.houseId a.groupId next targetValue])
  | .sceneControllerMasterOff => do
    let sequenceNumber ← readAt s.receivedPacket (packIdx + 1)
    let s := { s with newSequenceNumber := sequenceNumber }
    if newSequence s then
      let deviceType ← readAt s.receivedPacket (packIdx + 2)
      let slowDeactivateMode := if deviceType ≠ 0 then slowDeactivationRampValue else 0
      pure (s, [.handleSceneControllerMasterOff a.buildingId a.houseId a.groupId deviceType
        slowDeactivateMode])
    else pure (s, [])
  | .sceneRequested => do
    let flags : Byte ← readAt s.receivedPacket (packIdx + 1)
    let bankIndex := flags &&& 0x3f
    let sequenceNumber ← readAt s.receivedPacket (packIdx + 3)
    let s := { s with newSequenceNumber := sequenceNumber }
    let sceneState : Bool := flags &&& 0x40 ≠ 0
    let slowDeactivateMode := if flags &&& 0x80 ≠ 0 then slowDeactivationRampValue else 0
    if newSequence s then
      let s := { s with oldSequenceNumber := s.newSequenceNumber }
      let deviceType ← readAt s.receivedPacket (packIdx + 2)
      pure (s, [.handleSceneControllerSceneRequest a.buildingId a.houseId a.groupId bankIndex
        sceneState deviceType slowDeactivateMode])
    else pure (s, [])
  | .sceneAdjust => do
    let sequenceNumber ← readAt s.receivedPacket (packIdx + 3)
    let s := { s with newSequenceNumber := sequenceNumber }
    let flags : Byte ← readAt s.receivedPacket (packIdx + 1)
    let chgUporDown : Byte := (flags &&& 0x80) >>> 7
    if newSequence s then
      let s := { s with oldSequenceNumber := s.newSequenceNumber }
      let sceneIdx ← readAt s.receivedPacket packIdx
      pure (s, [.handleSceneControllerSceneAdjust a.buildingId a.houseId a.groupId sceneIdx
        percentChangeForAdjust chgUporDown 0])
    else pure (s, [])

/-- The address of a message in group addressing. -/
def readAddress (packet : ℕ → Byte) : Reading Address := do
  let b4 ← readAt packet 4
  let b5 ← readAt packet 5
  let b6 ← readAt packet 6
  pure
    { buildingId := (b4 &&& 0xe0) >>> 5
      houseId := ((b4 &&& 0x1f) <<< 3) ||| ((b5 &&& 0xe0) >>> 5)
      groupId := wordOfBytes (b5 &&& 0x0f) b6 }

/-- The command of a message and the index of its first parameter. -/
def readCommand (packet : ℕ → Byte) : Reading (Word × ℕ) := do
  let b7 ← readAt packet 7
  let cmd := (b7 &&& 0x3f).setWidth 16
  if cmd ≥ 0x30 then
    let b8 ← readAt packet 8
    pure ((cmd <<< 8) ||| b8.setWidth 16, 9)
  else pure (cmd, 8)

/-- The part of `ProcessReceivedPacket` that runs on a packet with a good checksum. -/
def processValidPacket (s : Receiver) (header : Byte) : Reading (Receiver × List Call) := do
  let topdogAddressMode := topdogAddressModeOf header
  if topdogAddressMode = tdamBroadcast ∨ topdogAddressMode = tdamAnonMulticast ∨
      topdogAddressMode = tdamMulticast then
    let b5 ← readAt s.receivedPacket 5
    if b5 &&& 0x10 = 0 then
      let a ← readAddress s.receivedPacket
      let (cmd, packIdx) ← readCommand s.receivedPacket
      match Command.ofWord cmd with
      | some c => processCommand s (timeToLiveOf header) a packIdx c
      | none => pure (s, [])
    else pure (s, [])
  else pure (s, [])

/-- `ProcessReceivedPacket` -/
def processReceivedPacket (s : Receiver) : Reading (Receiver × List Call) := do
  let packetHeader ← readAt s.receivedPacket 0
  let packetLength ← readAt s.receivedPacket 1
  let packetRSSI ← readAt s.receivedPacket 2
  let header ← readAt s.receivedPacket 3
  let validPacketFlag ← checkPacket s.receivedPacket packetLength (topdogFamilyOf header)
  if validPacketFlag then
    if s.manufacturingTestModeFlag then
      let packetData ← readSpan 3 packetLength.toNat
        ((List.range packetLength.toNat).map fun i => s.receivedPacket (3 + i))
      pure (s, [.mtmReceivedRFPacket packetRSSI packetHeader packetData])
    else processValidPacket s header
  else pure (s, [])

/-! ### The task -/

/-- What the task does before it waits for a byte. -/
def awaitByte (s : Receiver) : Receiver :=
  if s.currentReceiveState = .idle then { s with receivedPacketIndex := 0 } else s

/-- The byte is an acknowledgement of the radio, not part of a packet. -/
def isAck (s : Receiver) (inByte : Byte) : Bool :=
  s.currentReceiveState = .idle ∧ (inByte = rfm100AckByte ∨ inByte = rfm100NakByte)

/-- What one byte does. -/
structure ByteResult where
  /-- The receiver afterwards. -/
  receiver : Receiver
  /-- `gotAPacketFlag` -/
  gotAPacketFlag : Bool
  /-- The calls made. -/
  calls : List Call

/-- One round of `RFM100Receive_Task` that receives a byte. -/
def receiveByte (s : Receiver) (inByte : Byte) : ByteResult :=
  let s := awaitByte s
  if isAck s inByte then ⟨s, false, [.publishAckToQueue inByte]⟩
  else
    let (s, gotAPacketFlag) := buildReceivedPacket s inByte
    if gotAPacketFlag then
      let (s, calls) := (processReceivedPacket s).value
      ⟨s, true, calls⟩
    else ⟨s, false, []⟩

/-- The rounds of `RFM100Receive_Task` that receive the given bytes without a timeout. -/
def receiveBytes : Receiver → List Byte → List ByteResult
  | _, [] => []
  | s, b :: bs => receiveByte s b :: receiveBytes (receiveByte s b).receiver bs

/-- What can happen around the receive task. -/
inductive Event
  /-- A byte arrives. -/
  | byte (inByte : Byte)
  /-- The wait for the next byte of a packet times out. -/
  | timeout
  /-- Another task switches manufacturing test mode. -/
  | setManufacturingTestMode (flag : Bool)
  /-- Another task changes the queue of sent messages. -/
  | setSentQueue (queue : SentQueue)
  /-- Another task changes the memory after the array. -/
  | setMemory (memory : ℕ → Byte)

/-- One step; only a wait inside a packet can time out. -/
def receiveStep (s : Receiver) : Event → Option Receiver
  | .byte inByte => some (receiveByte s inByte).receiver
  | .timeout =>
    if s.currentReceiveState = .idle then none else some { s with currentReceiveState := .idle }
  | .setManufacturingTestMode flag => some { s with manufacturingTestModeFlag := flag }
  | .setSentQueue queue => some { s with sentQueue := queue }
  | .setMemory memory =>
    some { s with
      receivedPacket := fun i => if i < receivedPacketSize then s.receivedPacket i else memory i }

/-- The receive task from its start on. -/
def rfm100 : Machine Receiver Event where
  init s := s.currentReceiveState = .idle
  step := receiveStep

end Rf

end Lcm
