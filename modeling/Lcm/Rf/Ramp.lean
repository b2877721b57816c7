import Lcm.Rf.Framing
import Mathlib.Tactic.IntervalCases

/-!
# Ramp messages

`BuildRamp` encodes the properties of a zone as a topdog message of family F2, which a second
controller collects and decodes with the receive task.

## Main definitions

* `prepareRamp` : the part of `HandleTransmitTaskMessage` that decides about a ramp.
* `buildRamp` : the message built for a zone.
* `rampFrame` : the bytes the receiving radio delivers for a message.

## Main results

* `receiveBytes_frame` : a frame of any declared length that fits the array is accepted at its
  last byte, and decoded once from exactly its bytes.
* `processReceivedPacket_ramp` : what the decoder makes of a well-formed ramp.
* `buildRamp_receiveBytes` : encoding and decoding agree.
-/

namespace Lcm

namespace Rf

/-! ### The encoder -/

/-- `SHADE_TYPE` -/
def shadeType : Byte := 0xf0

/-- `SHADE_GROUP_TYPE` -/
def shadeGroupType : Byte := 0xf1

/-- `RAMP_FUNCTION_BYTE` -/
def rampFunctionByte : Byte := 0x85

/-- `SHORT_RANDOM_TIME` -/
def shortRandomTime : Byte := 0

/-- `TTL_TWO` -/
def ttlTwo : Byte := 2

/-- The device is a shade, which is not reached by radio. -/
def IsShade (z : ZoneProperties) : Prop :=
  z.deviceType = shadeType ∨ z.deviceType = shadeGroupType

instance (z : ZoneProperties) : Decidable (IsShade z) := inferInstanceAs (Decidable (_ ∨ _))

/-- The branch of `HandleTransmitTaskMessage` for a ramp, up to its call of `BuildRamp`: the
properties the zone then has, or `none` when no ramp is sent. -/
def prepareRamp (forceSendFlag : Bool) (z : ZoneProperties) : Option ZoneProperties :=
  let (processFlag, broadcastFlag, z) : Bool × Bool × ZoneProperties :=
    if z.state = z.targetState then
      if z.targetState then (z.powerLevel ≠ z.targetPowerLevel, false, z)
      else if z.powerLevel ≠ z.targetPowerLevel then
        (IsShade z, true, { z with powerLevel := z.targetPowerLevel })
      else (false, false, z)
    else (true, false, z)
  let z :=
    if processFlag || broadcastFlag then
      { z with powerLevel := z.targetPowerLevel, state := z.targetState }
    else z
  if processFlag || forceSendFlag then
    if IsShade z then none else some z
  else none

/-- A message under construction. -/
structure PayloadBuffer where
  /-- The bytes of the caller's buffer. -/
  payload : ℕ → Byte
  /-- `payldCt` -/
  payldCt : Byte

/-- `payload[payldCt++] = b` -/
def PayloadBuffer.push (p : PayloadBuffer) (b : Byte) : PayloadBuffer where
  payload := Function.update p.payload p.payldCt.toNat b
  payldCt := p.payldCt + 1

/-- A percentage as a power byte. -/
def powerOfPercent (percent : Byte) : Byte :=
  BitVec.ofNat 8 ((percent.toNat * maxTdPower + 50) / 100)

/-- The header byte of a ramp. -/
def rampHeader : Byte :=
  (topdogF2 <<< 5) ||| (tdamAnonMulticast <<< 3) ||| shortRandomTime ||| ttlTwo

/-- Address byte 0: the building and the high bits of the house. -/
def addressByte0 (buildingId houseId : Byte) : Byte :=
  ((buildingId <<< 5) &&& 0xe0) ||| ((houseId >>> 3) &&& 0x1f)

/-- Address byte 1: the low bits of the house and the high bits of the group. -/
def addressByte1 (houseId : Byte) (groupId : Word) : Byte :=
  ((houseId <<< 5) &&& 0xe0) ||| ((groupId >>> 8) &&& 0x0f).setWidth 8

/-- Address byte 2: the low bits of the group. -/
def addressByte2 (groupId : Word) : Byte := (groupId &&& 0x0ff).setWidth 8

/-- The level byte of a ramp. -/
def levelByte (z : ZoneProperties) : Byte :=
  if z.targetState then powerOfPercent z.powerLevel else 0

/-- `BuildRamp`: the buffer, the number of bytes in it and the queue of sent messages. -/
def buildRamp (getZoneProperties : Byte → Option ZoneProperties) (purgeTime currentTime : Dword)
    (payload : ℕ → Byte) (zoneIdx : Byte) (q : SentQueue) : (ℕ → Byte) × Byte × SentQueue :=
  match getZoneProperties zoneIdx with
  | none => (payload, 0, q)
  | some z =>
    let p : PayloadBuffer := ⟨payload, 0⟩
    let p := (((p.push 0x86).push 0xb4).push 0x00).push rampHeader
    let p := p.push (addressByte0 z.buildingId z.houseId)
    let p := p.push (addressByte1 z.houseId z.groupId)
    let p := p.push (addressByte2 z.groupId)
    let p := p.push rampFunctionByte
    let p := p.push (levelByte z)
    let p := (p.push z.rampRate).push z.deviceType
    let crcValue := updateCRC8 0 (fun i => p.payload (3 + i)) (p.payldCt - 3).toNat
    let p := (p.push crcValue).push (~~~crcValue)
    (Function.update p.payload 2 (p.payldCt - 3), p.payldCt,
      addToSentMessageQueue purgeTime currentTime (some z) q)

/-- What the receiving radio delivers for a message: start byte, length, rssi and the bytes of
the message after its length byte. -/
def rampFrame (rssi : Byte) (payload : ℕ → Byte) : List Byte :=
  startByte :: payload 2 :: rssi :: (List.range (payload 2).toNat).map fun i => payload (3 + i)

/-! ### Receiving a frame -/

/-- The bytes of a list stored one after the other. -/
def storeBytes (s : Receiver) (bs : List Byte) : Receiver := bs.foldl storeByte s

/-- Stored bytes are found where they were stored, and nothing else changes. -/
theorem storeBytes_receivedPacket {s : Receiver} (bs : List Byte)
    (h : s.receivedPacketIndex.toNat + bs.length ≤ receivedPacketSize) :
    (storeBytes s bs).receivedPacket =
      writeList s.receivedPacket s.receivedPacketIndex.toNat bs := by
  induction bs generalizing s with
  | nil => exact (writeList_nil ..).symm
  | cons b bs ih =>
    simp only [List.length_cons] at h
    have hidx := storeByte_index (s := s) (by omega) b
    have hrest := ih (s := storeByte s b) (by omega)
    rw [writeList_cons, ← hidx]
    exact hrest

/-- A byte of a packet that is not its last one. -/
theorem receiveByte_of_ne_idle {s s' : Receiver} {b : Byte} (hs : s.currentReceiveState ≠ .idle)
    (hbuild : buildReceivedPacket s b = (s', false)) : receiveByte s b = ⟨s', false, []⟩ := by
  have hack : isAck s b = false := by simp [isAck, hs]
  simp only [receiveByte, awaitByte_of_ne_idle hs, hack, hbuild, Bool.false_eq_true, if_false]

/-- The start byte. -/
theorem receiveByte_startByte {s : Receiver} (hs : s.currentReceiveState = .idle) :
    receiveByte s startByte =
      ⟨{ storeByte (awaitByte s) startByte with currentReceiveState := .receivingRf100Length },
        false, []⟩ := by
  have hidx : (awaitByte s).receivedPacketIndex = 0 :=
    awaitByte_index_of_idle (by rw [awaitByte_state, hs])
  have hack : isAck (awaitByte s) startByte = false := by
    simp [isAck, startByte, rfm100AckByte, rfm100NakByte]
  have hstate : (storeByte (awaitByte s) startByte).currentReceiveState = .idle :=
    (awaitByte_state s).trans hs
  have hroom : ¬ (storeByte (awaitByte s) startByte).receivedPacketIndex.toNat ≥
      receivedPacketSize := by
    simp [storeByte, hidx, receivedPacketSize]
  simp only [receiveByte, hack, buildReceivedPacket, if_neg hroom, hstate, Bool.false_eq_true,
    if_false, if_true]

/-- The byte that tells the length. -/
theorem receiveByte_length {s : Receiver} (hs : s.currentReceiveState = .receivingRf100Length)
    (hidx : s.receivedPacketIndex.toNat + 1 < receivedPacketSize) {b : Byte}
    (hshort : (b + 1).toNat ≤ receivedPacketSize) :
    receiveByte s b =
      ⟨{ storeByte s b with recvdLen := b + 1, currentReceiveState := .receivingRf100Rssi },
        false, []⟩ := by
  refine receiveByte_of_ne_idle (by rw [hs]; decide) ?_
  have hstate : (storeByte s b).currentReceiveState = .receivingRf100Length := hs
  have hroom : ¬ (storeByte s b).receivedPacketIndex.toNat ≥ receivedPacketSize := by
    rw [storeByte_index (by omega)]
    omega
  simp only [buildReceivedPacket, if_neg hroom, hstate, if_neg (Nat.not_lt.2 hshort)]

/-- The byte that tells the signal strength. -/
theorem receiveByte_rssi {s : Receiver} (hs : s.currentReceiveState = .receivingRf100Rssi)
    (hidx : s.receivedPacketIndex.toNat + 1 < receivedPacketSize) (b : Byte) :
    receiveByte s b =
      ⟨{ storeByte s b with currentReceiveState := .receivingRf100Payload }, false, []⟩ := by
  refine receiveByte_of_ne_idle (by rw [hs]; decide) ?_
  have hstate : (storeByte s b).currentReceiveState = .receivingRf100Rssi := hs
  have hroom : ¬ (storeByte s b).receivedPacketIndex.toNat ≥ receivedPacketSize := by
    rw [storeByte_index (by omega)]
    omega
  simp only [buildReceivedPacket, if_neg hroom, hstate]

/-- The bytes of a payload are collected until the last one, which hands the packet to the
decoder. -/
theorem receiveBytes_payload {s : Receiver} (hs : s.currentReceiveState = .receivingRf100Payload)
    (bs : List Byte) (hne : bs ≠ [])
    (hlen : s.receivedPacketIndex.toNat + bs.length = s.recvdLen.toNat + 2)
    (hfit : s.recvdLen.toNat + 2 < receivedPacketSize) :
    (receiveBytes s bs).map (·.gotAPacketFlag) = List.replicate (bs.length - 1) false ++ [true] ∧
      (receiveBytes s bs).flatMap (·.calls) =
        (processReceivedPacket
          { storeBytes s bs with currentReceiveState := .idle }).value.2 := by
  induction bs generalizing s with
  | nil => exact absurd rfl hne
  | cons b bs ih =>
    simp only [List.length_cons] at hlen
    have hlt : s.receivedPacketIndex.toNat < receivedPacketSize := by omega
    have hidx := storeByte_index hlt b
    have hidle : s.currentReceiveState ≠ .idle := by rw [hs]; decide
    have hack : isAck s b = false := by simp [isAck, hidle]
    cases bs with
    | nil =>
      have hl : IsLastByte s := ⟨hs, by simp at hlen; omega, by simp at hlen; omega⟩
      simp [receiveBytes, receiveByte, awaitByte_of_ne_idle hidle, hack,
        buildReceivedPacket_of_isLastByte hl, storeBytes]
    | cons b' bs =>
      simp only [List.length_cons] at hlen
      have hstep : receiveByte s b = ⟨storeByte s b, false, []⟩ := by
        refine receiveByte_of_ne_idle hidle ?_
        have hstate : (storeByte s b).currentReceiveState = .receivingRf100Payload := hs
        have hlen' : (storeByte s b).recvdLen = s.recvdLen := rfl
        have hroom : ¬ s.receivedPacketIndex.toNat + 1 ≥ receivedPacketSize := by omega
        have hmore : ¬ s.receivedPacketIndex.toNat + 1 > s.recvdLen.toNat + 1 := by omega
        simp only [buildReceivedPacket, hidx, hstate, hlen', if_neg hroom, if_neg hmore]
      obtain ⟨hflags, hcalls⟩ := ih (s := storeByte s b) hs (by simp)
        (by simp only [List.length_cons]; rw [hidx]; exact hlen ▸ by omega) hfit
      rw [receiveBytes, hstep]
      refine ⟨?_, ?_⟩
      · simp only [List.map_cons, hflags, List.length_cons, Nat.add_sub_cancel]
        rfl
      · simp only [List.flatMap_cons, List.nil_append]
        exact hcalls

/-- The packet that a frame leaves for the decoder. -/
def receivedFrame (s : Receiver) (frame : List Byte) (packetLength : Byte) : Receiver :=
  { storeBytes (awaitByte s) frame with
    recvdLen := packetLength + 1
    currentReceiveState := .idle }

/-- Storing bytes does not depend on the state of the framing machine. -/
theorem storeBytes_framing (s : Receiver) (l : Byte) (c : ReceiveState) (bs : List Byte) :
    storeBytes { s with recvdLen := l, currentReceiveState := c } bs =
      { storeBytes s bs with recvdLen := l, currentReceiveState := c } := by
  induction bs generalizing s with
  | nil => rfl
  | cons b bs ih => exact ih (storeByte s b)

theorem storeBytes_manufacturingTestModeFlag (s : Receiver) (bs : List Byte) :
    (storeBytes s bs).manufacturingTestModeFlag = s.manufacturingTestModeFlag := by
  induction bs generalizing s with
  | nil => rfl
  | cons b bs ih => exact ih (storeByte s b)

theorem awaitByte_manufacturingTestModeFlag (s : Receiver) :
    (awaitByte s).manufacturingTestModeFlag = s.manufacturingTestModeFlag := by
  unfold awaitByte; split <;> rfl

/-- **A frame is accepted at its last byte and not before**, and decoded once, from the bytes
of the frame. -/
theorem receiveBytes_frame {s : Receiver} (hs : s.currentReceiveState = .idle)
    (packetLength rssi : Byte) (message : List Byte)
    (hlen : message.length = packetLength.toNat) (hpos : 0 < packetLength.toNat)
    (hfit : packetLength.toNat + 3 < receivedPacketSize) :
    let frame := startByte :: packetLength :: rssi :: message
    (receiveBytes s frame).map (·.gotAPacketFlag) =
        List.replicate (message.length + 2) false ++ [true] ∧
      (receiveBytes s frame).flatMap (·.calls) =
        (processReceivedPacket (receivedFrame s frame packetLength)).value.2 := by
  intro frame
  have hidx : (awaitByte s).receivedPacketIndex = 0 :=
    awaitByte_index_of_idle (by rw [awaitByte_state, hs])
  have hsize : receivedPacketSize = 64 := rfl
  have hl : (packetLength + 1).toNat = packetLength.toNat + 1 := by
    rw [BitVec.toNat_add, show (1 : Byte).toNat = 1 from rfl]
    omega
  -- the states after the start byte, the length byte and the rssi
  let s1 : Receiver :=
    { storeByte (awaitByte s) startByte with currentReceiveState := .receivingRf100Length }
  let s2 : Receiver :=
    { storeByte s1 packetLength with
      recvdLen := packetLength + 1, currentReceiveState := .receivingRf100Rssi }
  let s3 : Receiver :=
    { storeByte s2 rssi with currentReceiveState := .receivingRf100Payload }
  have hi1 : s1.receivedPacketIndex = 1 := by simp [s1, storeByte, hidx]
  have hi2 : s2.receivedPacketIndex = 2 := by simp [s2, storeByte, hi1]
  have hi3 : s3.receivedPacketIndex.toNat = 3 := by simp [s3, storeByte, hi2]
  have h1 : receiveByte s startByte = ⟨s1, false, []⟩ := receiveByte_startByte hs
  have h2 : receiveByte s1 packetLength = ⟨s2, false, []⟩ :=
    receiveByte_length rfl (by rw [hi1]; decide) (by omega)
  have h3 : receiveByte s2 rssi = ⟨s3, false, []⟩ :=
    receiveByte_rssi rfl (by rw [hi2]; decide) rssi
  have hl3 : s3.recvdLen.toNat = packetLength.toNat + 1 := hl
  obtain ⟨hflags, hcalls⟩ := receiveBytes_payload (s := s3) rfl message
    (by rintro rfl; simp at hlen; omega) (by omega) (by omega)
  have hrun : receiveBytes s frame =
      ⟨s1, false, []⟩ :: ⟨s2, false, []⟩ :: ⟨s3, false, []⟩ :: receiveBytes s3 message := by
    simp only [frame, receiveBytes, h1, h2, h3]
  have hfinal : { storeBytes s3 message with currentReceiveState := .idle } =
      receivedFrame s frame packetLength := by
    have h := storeBytes_framing (storeBytes (awaitByte s) [startByte, packetLength, rssi])
      (packetLength + 1) .receivingRf100Payload message
    have h3 : s3 = { storeBytes (awaitByte s) [startByte, packetLength, rssi] with
        recvdLen := packetLength + 1, currentReceiveState := .receivingRf100Payload } := rfl
    rw [h3, h]
    rfl
  rw [hrun]
  refine ⟨?_, ?_⟩
  · have hm : message.length + 2 = message.length - 1 + 1 + 1 + 1 := by omega
    simp only [List.map_cons, hflags, hm, List.replicate_succ, List.cons_append]
  · simp only [List.flatMap_cons, List.nil_append]
    rw [← hfinal]
    exact hcalls

/-- A byte of a received frame. -/
theorem receivedFrame_receivedPacket {s : Receiver} (hs : s.currentReceiveState = .idle)
    {frame : List Byte} (hfit : frame.length ≤ receivedPacketSize) (l : Byte) {i : ℕ} {b : Byte}
    (hb : frame[i]? = some b) : (receivedFrame s frame l).receivedPacket i = b := by
  have hidx0 : (awaitByte s).receivedPacketIndex = 0 :=
    awaitByte_index_of_idle (by rw [awaitByte_state, hs])
  have hi : i < frame.length := (List.getElem?_eq_some_iff.1 hb).1
  have hstore := storeBytes_receivedPacket (s := awaitByte s) frame (by simpa [hidx0] using hfit)
  calc (storeBytes (awaitByte s) frame).receivedPacket i
      = writeList (awaitByte s).receivedPacket 0 frame (0 + i) := by
        rw [hstore, hidx0, Nat.zero_add]; rfl
    _ = frame[i] := writeList_inside _ _ hi
    _ = b := (List.getElem?_eq_some_iff.1 hb).2

/-! ### Decoding what was encoded -/

/-- The packet holds a ramp message: ten bytes of family F2 in group addressing, with a matching
checksum. -/
structure IsRamp (packet : ℕ → Byte) (a0 a1 a2 level deviceType : Byte) : Prop where
  length : packet 1 = 10
  header : packet 3 = rampHeader
  address0 : packet 4 = a0
  address1 : packet 5 = a1
  address2 : packet 6 = a2
  command : packet 7 = rampFunctionByte
  level : packet 8 = level
  deviceType : packet 10 = deviceType
  crc : packet 11 = updateCRC8 0 (fun i => packet (3 + i)) 8
  crcComplement : packet 12 = ~~~ packet 11

/-- The checksum of a ramp is good. -/
theorem IsRamp.checkPacket {p : ℕ → Byte} {a0 a1 a2 l d : Byte} (h : IsRamp p a0 a1 a2 l d) :
    (checkPacket p (p 1) (topdogFamilyOf (p 3))).value = true := by
  have hf1 : topdogFamilyOf rampHeader ≠ topdogF1 := by decide
  have hf2 : topdogFamilyOf rampHeader = topdogF2 ∨ topdogFamilyOf rampHeader = topdogCadir := by
    decide
  have hsize : crcSize 10 2 = 8 := by decide
  rw [h.length, h.header, Rf.checkPacket, if_neg hf1, if_pos hf2]
  simp only [packetCrc, Reading.value_bind, Reading.value_ite, Reading.value_pure, hsize,
    BitVec.reduceToNat, Nat.reduceAdd, h.crc, h.crcComplement]
  simp

/-- **What the decoder makes of a ramp**: one call, with the ids of the address bytes. -/
theorem processReceivedPacket_ramp {s : Receiver} {a0 a1 a2 l d : Byte}
    (h : IsRamp s.receivedPacket a0 a1 a2 l d) (hgroup : a1 &&& 0x10 = 0)
    (hmtm : s.manufacturingTestModeFlag = false) :
    (processReceivedPacket s).value.2 =
      [.handleRampReceived ((a0 &&& 0xe0) >>> 5)
        (((a0 &&& 0x1f) <<< 3) ||| ((a1 &&& 0xe0) >>> 5)) (wordOfBytes (a1 &&& 0x0f) a2)
        (percentOfPower l) d] := by
  have hmode : topdogAddressModeOf rampHeader = tdamBroadcast ∨
      topdogAddressModeOf rampHeader = tdamAnonMulticast ∨
      topdogAddressModeOf rampHeader = tdamMulticast := by decide
  have hcmd : (readCommand s.receivedPacket).value = (0x0005, 8) := by
    simp only [readCommand, Reading.value_bind, Reading.value_ite, Reading.value_pure, h.command]
    exact if_neg (by decide)
  have hramp : Command.ofWord 0x0005 = some .ramp := by decide
  have httl : 2 ≤ timeToLiveOf rampHeader := by decide
  have hcrc := h.checkPacket
  rw [h.header] at hcrc
  simp only [processReceivedPacket, processValidPacket, processCommand, readAddress,
    Reading.value_bind, Reading.value_pure, hcrc, if_true, hmtm, hcmd, hramp,
    Bool.false_eq_true, if_false, h.header, hmode, h.address0, h.address1, h.address2, hgroup,
    h.level, h.deviceType, Nat.reduceAdd, isMessageARepeat_of_two_le httl]

theorem buildingId_decode {buildingId : Byte} (hb : buildingId < 8) (houseId : Byte) :
    (addressByte0 buildingId houseId &&& 0xe0) >>> 5 = buildingId := by
  have h0 : ∀ i (hi : i < 8), 3 ≤ i → buildingId[i] = false :=
    fun i hi h3 => getLsbD_of_toNat_lt (k := 3) hb h3
  unfold addressByte0
  ext i hi
  interval_cases i <;> simp [h0]

theorem houseId_decode (buildingId houseId : Byte) (groupId : Word) :
    ((addressByte0 buildingId houseId &&& 0x1f) <<< 3) |||
      ((addressByte1 houseId groupId &&& 0xe0) >>> 5) = houseId := by
  unfold addressByte0 addressByte1
  ext i hi
  interval_cases i <;> simp

theorem groupId_decode {groupId : Word} (hg : groupId < 4096) (houseId : Byte) :
    wordOfBytes (addressByte1 houseId groupId &&& 0x0f) (addressByte2 groupId) = groupId := by
  have h0 : ∀ i (hi : i < 16), 12 ≤ i → groupId[i] = false :=
    fun i hi h3 => getLsbD_of_toNat_lt (k := 12) hg h3
  unfold addressByte1 addressByte2
  ext i hi
  rw [getElem_wordOfBytes]
  interval_cases i <;> simp [h0]

theorem addressByte1_group (houseId : Byte) (groupId : Word) :
    addressByte1 houseId groupId &&& 0x10 = 0 := by
  unfold addressByte1
  ext i hi
  interval_cases i <;> simp

/-- Scaling a percentage to a power byte and back loses nothing. -/
theorem percentOfPower_powerOfPercent {percent : Byte} (h : percent ≤ 100) :
    percentOfPower (powerOfPercent percent) = percent := by
  have hall : ∀ n < 101, ((n * 255 + 50) / 100 % 256 * 100 + 127) / 255 % 256 = n := by decide
  have hle : percent.toNat ≤ 100 := h
  apply BitVec.eq_of_toNat_eq
  simpa [percentOfPower, powerOfPercent, maxTdPower] using hall percent.toNat (by omega)

theorem levelByte_decode {z : ZoneProperties} (h : z.powerLevel ≤ 100) :
    percentOfPower (levelByte z) = if z.targetState then z.powerLevel else 0 := by
  unfold levelByte
  split
  · exact percentOfPower_powerOfPercent h
  · decide

/-- When a ramp is sent, the level of the zone is its target level. -/
theorem prepareRamp_eq_some {forceSendFlag : Bool} {z₀ z : ZoneProperties}
    (h : prepareRamp forceSendFlag z₀ = some z) :
    z = { z₀ with powerLevel := z₀.targetPowerLevel, state := z₀.targetState } := by
  have hset (w : ZoneProperties) (hs : w.state = w.targetState)
      (hp : w.powerLevel = w.targetPowerLevel) :
      w = { w with powerLevel := w.targetPowerLevel, state := w.targetState } := by
    simp only [ZoneProperties.ext_iff, hs, hp, and_self]
  unfold prepareRamp at h
  by_cases hs : z₀.state = z₀.targetState
  · by_cases hp : z₀.powerLevel = z₀.targetPowerLevel
    · have h₀ : z₀ = z := by
        cases ht : z₀.targetState <;> simp [hs, hp, ht] at h <;> exact h.2.2
      rw [← h₀]
      exact hset z₀ hs hp
    · cases ht : z₀.targetState <;> simp [hs, hp, ht] at h
      · exact h.2.2.symm
      · exact h.2.symm
  · simp [hs] at h
    exact h.2.symm

/-- Bytes pushed one after the other are written one after the other. -/
theorem foldl_push (p : PayloadBuffer) (bs : List Byte) (h : p.payldCt.toNat + bs.length < 256) :
    (bs.foldl PayloadBuffer.push p).payload = writeList p.payload p.payldCt.toNat bs ∧
      (bs.foldl PayloadBuffer.push p).payldCt = p.payldCt + BitVec.ofNat 8 bs.length := by
  induction bs generalizing p with
  | nil => simp
  | cons b bs ih =>
    simp only [List.length_cons] at h
    have hct : (p.push b).payldCt.toNat = p.payldCt.toNat + 1 := by
      rw [PayloadBuffer.push, BitVec.toNat_add, show (1 : Byte).toNat = 1 from rfl]
      omega
    obtain ⟨hpay, hcnt⟩ := ih (p.push b) (by omega)
    refine ⟨?_, ?_⟩
    · rw [writeList_cons, ← hct]
      exact hpay
    · rw [List.foldl_cons, hcnt, List.length_cons]
      apply BitVec.eq_of_toNat_eq
      simp only [BitVec.toNat_add, BitVec.toNat_ofNat, hct]
      omega

/-- The bytes of a ramp that its checksum covers. -/
def rampMessage (z : ZoneProperties) : List Byte :=
  [rampHeader, addressByte0 z.buildingId z.houseId, addressByte1 z.houseId z.groupId,
    addressByte2 z.groupId, rampFunctionByte, levelByte z, z.rampRate, z.deviceType]

/-- The checksum of a ramp. -/
def rampCrc (z : ZoneProperties) : Byte := updateCRC8 0 (fun i => (rampMessage z).getD i 0) 8

/-- The frame of the message that `BuildRamp` leaves in the buffer. -/
theorem rampFrame_buildRamp {getZoneProperties : Byte → Option ZoneProperties} {zoneIdx : Byte}
    {z : ZoneProperties} (hz : getZoneProperties zoneIdx = some z) (purgeTime currentTime : Dword)
    (payload : ℕ → Byte) (q : SentQueue) (rssi : Byte) :
    rampFrame rssi (buildRamp getZoneProperties purgeTime currentTime payload zoneIdx q).1 =
      startByte :: 10 :: rssi :: (rampMessage z ++ [rampCrc z, ~~~rampCrc z]) := by
  obtain ⟨hbody, hct⟩ := foldl_push ⟨payload, 0⟩ ([0x86, 0xb4, 0x00] ++ rampMessage z)
    (by simp [rampMessage])
  set p := ([0x86, 0xb4, 0x00] ++ rampMessage z).foldl PayloadBuffer.push ⟨payload, 0⟩ with hp
  replace hbody : p.payload = writeList payload 0 ([0x86, 0xb4, 0x00] ++ rampMessage z) := hbody
  replace hct : p.payldCt = 11 := hct
  have hcrc : updateCRC8 0 (fun i => p.payload (3 + i)) 8 = rampCrc z := by
    refine updateCRC8_congr fun i hi => ?_
    rw [hbody]
    interval_cases i <;> rfl
  have hbuild : (buildRamp getZoneProperties purgeTime currentTime payload zoneIdx q).1 =
      let crcValue := updateCRC8 0 (fun i => p.payload (3 + i)) (p.payldCt - 3).toNat
      let p' := [crcValue, ~~~crcValue].foldl PayloadBuffer.push p
      Function.update p'.payload 2 (p'.payldCt - 3) := by
    rw [buildRamp, hz]
    rfl
  have hsize : (11 - 3 : Byte).toNat = 8 := rfl
  have hlength : (11 + BitVec.ofNat 8 2 - 3 : Byte) = 10 := rfl
  obtain ⟨hall, hct'⟩ := foldl_push p [rampCrc z, ~~~rampCrc z] (by rw [hct]; simp)
  rw [hct] at hall hct'
  have hmessage : (buildRamp getZoneProperties purgeTime currentTime payload zoneIdx q).1 =
      Function.update (writeList (writeList payload 0 ([0x86, 0xb4, 0x00] ++ rampMessage z)) 11
        [rampCrc z, ~~~rampCrc z]) 2 10 := by
    rw [hbuild, hct, hsize, hcrc]
    dsimp only
    rw [hall, hct', hbody, List.length_cons, List.length_singleton, hlength]
    rfl
  rw [hmessage]
  rfl

/-- **Encoding and decoding agree.**  The ramp that `BuildRamp` builds for a zone, delivered to an
idle receiver outside manufacturing test mode, is accepted at its last byte and not before, has
a good checksum, and leads to exactly one call, `HandleRampReceived` with the ids and the device
type of the zone and its power level, zero when the zone is to be off.  When the transmit task
sends the ramp, that level is the target level the zone was given. -/
theorem buildRamp_receiveBytes {getZoneProperties : Byte → Option ZoneProperties} {zoneIdx : Byte}
    {z : ZoneProperties} (hz : getZoneProperties zoneIdx = some z) (hbuilding : z.buildingId < 8)
    (hgroup : z.groupId < 4096) (hlevel : z.powerLevel ≤ 100) {s : Receiver}
    (hs : s.currentReceiveState = .idle) (hmtm : s.manufacturingTestModeFlag = false)
    (purgeTime currentTime : Dword) (payload : ℕ → Byte) (q : SentQueue) (rssi : Byte) :
    let frame := rampFrame rssi
      (buildRamp getZoneProperties purgeTime currentTime payload zoneIdx q).1
    let packet := (receivedFrame s frame 10).receivedPacket
    (receiveBytes s frame).map (·.gotAPacketFlag) = List.replicate 12 false ++ [true] ∧
      (checkPacket packet (packet 1) (topdogFamilyOf (packet 3))).value = true ∧
      (receiveBytes s frame).flatMap (·.calls) =
        [.handleRampReceived z.buildingId z.houseId z.groupId
          (if z.targetState then z.powerLevel else 0) z.deviceType] ∧
      ∀ forceSendFlag z₀, prepareRamp forceSendFlag z₀ = some z →
        z.powerLevel = z₀.targetPowerLevel ∧ z.targetState = z₀.targetState := by
  intro frame packet
  have hframe : frame = startByte :: 10 :: rssi :: (rampMessage z ++ [rampCrc z, ~~~rampCrc z]) :=
    rampFrame_buildRamp hz ..
  obtain ⟨hflags, hcalls⟩ := receiveBytes_frame hs 10 rssi
    (rampMessage z ++ [rampCrc z, ~~~rampCrc z]) rfl (by decide) (by decide)
  rw [← hframe] at hflags hcalls
  have hbyte : ∀ {i b}, frame[i]? = some b → packet i = b :=
    receivedFrame_receivedPacket hs (by rw [hframe]; exact (by decide : 13 ≤ 64)) 10
  have hramp : IsRamp packet (addressByte0 z.buildingId z.houseId)
      (addressByte1 z.houseId z.groupId) (addressByte2 z.groupId) (levelByte z) z.deviceType :=
    { length := hbyte (by rw [hframe]; rfl)
      header := hbyte (by rw [hframe]; rfl)
      address0 := hbyte (by rw [hframe]; rfl)
      address1 := hbyte (by rw [hframe]; rfl)
      address2 := hbyte (by rw [hframe]; rfl)
      command := hbyte (by rw [hframe]; rfl)
      level := hbyte (by rw [hframe]; rfl)
      deviceType := hbyte (by rw [hframe]; rfl)
      crc := by
        have hcrc : packet 11 = rampCrc z := hbyte (by rw [hframe]; rfl)
        rw [hcrc]
        refine (updateCRC8_congr fun i hi => ?_).symm
        refine hbyte ?_
        rw [hframe]
        interval_cases i <;> rfl
      crcComplement := by
        have hcrc : packet 11 = rampCrc z := hbyte (by rw [hframe]; rfl)
        rw [hcrc]
        exact hbyte (by rw [hframe]; rfl) }
  have hmtm' : (receivedFrame s frame 10).manufacturingTestModeFlag = false :=
    (storeBytes_manufacturingTestModeFlag ..).trans
      ((awaitByte_manufacturingTestModeFlag s).trans hmtm)
  refine ⟨hflags, hramp.checkPacket, ?_, fun forceSendFlag z₀ h => ?_⟩
  · rw [hcalls, processReceivedPacket_ramp hramp (addressByte1_group ..) hmtm',
      buildingId_decode hbuilding, houseId_decode, groupId_decode hgroup, levelByte_decode hlevel]
  · rw [prepareRamp_eq_some h]
    exact ⟨rfl, rfl⟩

theorem exampleName_noNul : (0 : Byte) ∉ ([0x4c] : List Byte) := by decide

theorem exampleName_fits : ([0x4c] : List Byte).length < maxSizeNameString := by decide

/-- A dimmer at half power, in the largest building, house and group. -/
def exampleZone : ZoneProperties where
  AppContextId := 0
  groupId := 4095
  state := true
  targetState := true
  powerLevel := 50
  targetPowerLevel := 50
  rampRate := 50
  deviceType := 0x40
  buildingId := 7
  houseId := 255
  roomId := 0
  ZoneNameString := ⟨[0x4c], exampleName_noNul, exampleName_fits⟩
  EliotDeviceId := .empty eliotDeviceIdSize_pos

theorem buildRamp_receiveBytes_exampleZone :
    (receiveBytes .start (rampFrame 0x30 (buildRamp (fun _ => some exampleZone) 0 0
      (fun _ => 0) 0 Receiver.start.sentQueue).1)).flatMap (·.calls) =
        [.handleRampReceived 7 255 4095 50 0x40] :=
  (buildRamp_receiveBytes (z := exampleZone)
    (show (fun _ => some exampleZone) (0 : Byte) = _ from rfl) (by decide) (by decide) (by decide)
    rfl rfl 0 0 (fun _ => 0) _ 0x30).2.2.1

end Rf

end Lcm
