import Lcm.Rf.Receive

/-!
# Framing safety of the receive task

What `BuildReceivedPacket` and `ProcessReceivedPacket` touch on an arbitrary byte stream.  The
framing machine itself never writes outside `receivedPacket`, and a complete packet has
`max 4 (length + 3)` bytes, except that the length byte 0xff is taken for a packet of one byte.
The decoder trusts the length byte: the CRC runs over `length - 1` or `length - 2` bytes as an
unsigned number, and the fields of a command are read whether or not they were received.

## Main definitions

* `FrameSafe` : the bytes one step reads and writes are received bytes inside the array.
* `FrameLongEnough` : a packet completed by the step has the bytes its family and command need.
* `FrameInv` : what the framing machine knows about the packet it collects.

## Main results

* `processReceivedPacket_within` : exactly what the decoder reads.
* `frameSafe_iff` : a step is safe exactly when the packet it completes is long enough.
* `allSteps_frameSafe_iff` : a run is safe exactly when every packet of it is long enough.
-/

namespace Lcm

namespace Rf

/-! ### Specification -/

/-- The number of CRC bytes of a family, zero for a family that is not checked. -/
def crcBytes (topdogFamily : Byte) : ℕ :=
  if topdogFamily = topdogF1 then 1
  else if topdogFamily = topdogF2 ∨ topdogFamily = topdogCadir then 2
  else 0

/-- A complete packet declares enough bytes for its CRC, and decoding it reads only received
bytes inside the array. -/
def PacketSafe (s : Receiver) : Prop :=
  crcBytes (topdogFamilyOf (s.receivedPacket 3)) ≤ (s.receivedPacket 1).toNat ∧
    (processReceivedPacket s).Within (min receivedPacketSize s.receivedPacketIndex.toNat)

/-- The bytes that the step writes lie inside the array, and the bytes that it reads are bytes
received for the packet. -/
def FrameSafe (s : Receiver) : Event → Prop
  | .byte inByte =>
    isAck (awaitByte s) inByte = false →
      (awaitByte s).receivedPacketIndex.toNat < receivedPacketSize ∧
        ((buildReceivedPacket (awaitByte s) inByte).2 = true →
          PacketSafe (buildReceivedPacket (awaitByte s) inByte).1)
  | _ => True

/-- The last parameter that a command uses, counted from its first one. -/
def lastParameter (s : Receiver) (timeToLive : Byte) (a : Address) (packIdx : ℕ) : Command → ℕ
  | .ramp =>
    if (isMessageARepeat a.buildingId a.houseId a.groupId
        (percentOfPower (s.receivedPacket packIdx)) timeToLive s.sentQueue).1 then 0 else 2
  | .status => 1
  | .sceneControllerMasterOff =>
    if newSequence { s with newSequenceNumber := s.receivedPacket (packIdx + 1) } then 2 else 1
  | .sceneRequested => 3
  | .sceneAdjust => 3

/-- The index of the last byte that a packet with a good checksum is decoded from. -/
def lastField (s : Receiver) : ℕ :=
  let header := s.receivedPacket 3
  let mode := topdogAddressModeOf header
  if mode = tdamBroadcast ∨ mode = tdamAnonMulticast ∨ mode = tdamMulticast then
    if s.receivedPacket 5 &&& 0x10 = 0 then
      let (cmd, packIdx) := (readCommand s.receivedPacket).value
      match Command.ofWord cmd with
      | some c =>
        packIdx + lastParameter s (timeToLiveOf header) (readAddress s.receivedPacket).value packIdx c
      | none => packIdx - 1
    else 5
  else 3

/-- The packet has the bytes it needs: if its family is checked, the length byte covers the CRC
and is not the one value that wraps, and if the checksum is good, the bytes it announces
include every field of its command. -/
def PacketLongEnough (s : Receiver) : Prop :=
  let packetLength := s.receivedPacket 1
  let topdogFamily := topdogFamilyOf (s.receivedPacket 3)
  crcBytes topdogFamily = 0 ∨
    packetLength ≠ 0xff ∧ crcBytes topdogFamily ≤ packetLength.toNat ∧
      ((checkPacket s.receivedPacket packetLength topdogFamily).value = true →
        s.manufacturingTestModeFlag = false → lastField s < packetLength.toNat + 3)

/-- The byte is the last one of a packet. -/
def IsLastByte (s : Receiver) : Prop :=
  s.currentReceiveState = .receivingRf100Payload ∧
    s.receivedPacketIndex.toNat + 1 < receivedPacketSize ∧
    s.recvdLen.toNat < s.receivedPacketIndex.toNat

/-- A packet that the step completes has the bytes it needs. -/
def FrameLongEnough (s : Receiver) : Event → Prop
  | .byte inByte => IsLastByte s → PacketLongEnough (storeByte s inByte)
  | _ => True

/-! ### What the decoder reads -/

variable {n : ℕ}

theorem crcSize_eq {packetLength : Byte} {k : ℕ} (h : k ≤ packetLength.toNat) :
    crcSize packetLength k = packetLength.toNat - k := by
  have := packetLength.isLt
  rw [crcSize, BitVec.toNat_sub, BitVec.toNat_ofNat, BitVec.toNat_ofNat]
  omega

theorem processCommand_within (s : Receiver) (ttl : Byte) (a : Address) (packIdx : ℕ)
    (c : Command) : (processCommand s ttl a packIdx c).Within n ↔
      packIdx + lastParameter s ttl a packIdx c < n := by
  cases c with
  | ramp =>
    simp only [processCommand, lastParameter, Reading.within_bind, within_readAt,
      Reading.within_ite, Reading.within_pure, and_true]
    grind
  | status =>
    simp only [processCommand, lastParameter, Reading.within_bind, within_readAt,
      Reading.within_pure, and_true]
    omega
  | sceneControllerMasterOff =>
    simp only [processCommand, lastParameter, Reading.within_bind, within_readAt,
      Reading.within_ite, Reading.within_pure, and_true]
    grind
  | sceneRequested =>
    simp only [processCommand, lastParameter, Reading.within_bind, within_readAt,
      Reading.within_ite, Reading.within_pure, and_true]
    grind
  | sceneAdjust =>
    simp only [processCommand, lastParameter, Reading.within_bind, within_readAt,
      Reading.within_ite, Reading.within_pure, and_true]
    grind

theorem readCommand_within (p : ℕ → Byte) :
    (readCommand p).Within n ↔ (readCommand p).value.2 - 1 < n := by
  simp only [readCommand, Reading.within_bind, within_readAt, Reading.within_ite,
    Reading.within_pure, Reading.value_bind, Reading.value_ite, Reading.value_pure, and_true]
  grind

theorem eight_le_packIdx (p : ℕ → Byte) : 8 ≤ (readCommand p).value.2 := by
  simp only [readCommand, Reading.value_bind, Reading.value_ite, Reading.value_pure]
  split
  · exact Nat.le_succ 8
  · exact Nat.le_refl 8

/-- After the header, the decoder of a valid packet reads up to the last field it uses. -/
theorem processValidPacket_within (s : Receiver) (hn : 3 < n) :
    (processValidPacket s (s.receivedPacket 3)).Within n ↔ lastField s < n := by
  have h8 := eight_le_packIdx s.receivedPacket
  simp only [processValidPacket, lastField, Reading.within_bind, within_readAt,
    Reading.within_ite, Reading.within_pure, readAddress, readCommand_within]
  split
  · split
    · cases Command.ofWord (readCommand s.receivedPacket).value.1 with
      | none => simp only [Reading.within_pure, and_true]; grind
      | some c =>
        simp only [processCommand_within]
        grind
    · simp only [and_true]
  · simp only [hn]

/-- **What the decoder reads**: the four bytes every packet has, the CRC, and, if the checksum
is good, the message up to the last field of its command. -/
theorem processReceivedPacket_within (s : Receiver) (hn : 3 < n) :
    (processReceivedPacket s).Within n ↔
      (checkPacket s.receivedPacket (s.receivedPacket 1)
        (topdogFamilyOf (s.receivedPacket 3))).Within n ∧
      ((checkPacket s.receivedPacket (s.receivedPacket 1)
        (topdogFamilyOf (s.receivedPacket 3))).value = true →
        if s.manufacturingTestModeFlag then
          (s.receivedPacket 1).toNat = 0 ∨ 3 + (s.receivedPacket 1).toNat ≤ n
        else lastField s < n) := by
  simp only [processReceivedPacket, Reading.within_bind, Reading.within_ite, Reading.within_pure,
    within_readSpan, processValidPacket_within s hn, and_true]
  constructor
  · rintro ⟨-, -, -, -, hc, h⟩
    exact ⟨hc, fun hv => by simpa [hv] using h⟩
  · rintro ⟨hc, h⟩
    refine ⟨by omega, by omega, by omega, by omega, hc, ?_⟩
    split
    · exact h ‹_›
    · trivial

/-- A family that is not checked reads nothing for its checksum and never passes it. -/
theorem checkPacket_of_crcBytes_eq_zero {f : Byte} (h : crcBytes f = 0) (p : ℕ → Byte) (l : Byte) :
    checkPacket p l f = pure false := by
  unfold crcBytes at h
  split_ifs at h with h1 h2
  rw [checkPacket, if_neg h1, if_neg h2]

/-- The checksum of a packet that covers it reads the bytes that the packet announces. -/
theorem checkPacket_within {f l : Byte} (hl : crcBytes f ≤ l.toNat) (h0 : crcBytes f ≠ 0)
    (p : ℕ → Byte) (hn : l.toNat + 3 ≤ n) : (checkPacket p l f).Within n := by
  unfold crcBytes at hl h0
  split_ifs at hl h0 with h1 h2
  · simp only [checkPacket, if_pos h1, packetCrc, Reading.within_bind, within_readSpan,
      crcSize_eq hl, Reading.within_pure, and_true]
    omega
  · simp only [checkPacket, if_neg h1, if_pos h2, packetCrc, Reading.within_bind, within_readSpan,
      crcSize_eq hl, Reading.within_ite, Reading.within_pure, and_true]
    grind
  · exact absurd rfl h0

/-- With the length byte 0xff the checksum runs past the four bytes that are received. -/
theorem not_checkPacket_within_four {f : Byte} (h0 : crcBytes f ≠ 0) (p : ℕ → Byte) :
    ¬ (checkPacket p 0xff f).Within 4 := by
  unfold crcBytes at h0
  split_ifs at h0 with h1 h2
  · simp [checkPacket, h1, packetCrc, crcSize]
  · simp [checkPacket, h1, h2, packetCrc, crcSize]
  · exact absurd rfl h0

/-! ### What the framing machine knows -/

/-- The number of bytes of a complete packet with the given length byte. -/
def packetBytes (packetLength : Byte) : ℕ := max 4 ((packetLength + 1).toNat + 2)

/-- The framing machine is where its state says, and remembers the length byte of the packet. -/
def FrameInv (s : Receiver) : Prop :=
  match s.currentReceiveState with
  | .idle => True
  | .receivingRf100Length => s.receivedPacketIndex = 1
  | .receivingRf100Rssi =>
    s.receivedPacketIndex = 2 ∧ s.recvdLen = s.receivedPacket 1 + 1
  | .receivingRf100Payload =>
    3 ≤ s.receivedPacketIndex.toNat ∧ s.receivedPacketIndex.toNat < receivedPacketSize ∧
      s.receivedPacketIndex.toNat ≤ max 3 (s.recvdLen.toNat + 1) ∧
      s.recvdLen = s.receivedPacket 1 + 1

theorem frameInv_of_idle {s : Receiver} (h : s.currentReceiveState = .idle) : FrameInv s := by
  simp only [FrameInv, h]

/-- Nothing is ever stored outside the array. -/
theorem FrameInv.index_lt {s : Receiver} (h : FrameInv s) :
    (awaitByte s).receivedPacketIndex.toNat < receivedPacketSize := by
  unfold awaitByte
  unfold FrameInv at h
  cases hs : s.currentReceiveState <;> simp only [hs] at h <;>
    simp_all [receivedPacketSize]

theorem awaitByte_state (s : Receiver) :
    (awaitByte s).currentReceiveState = s.currentReceiveState := by
  unfold awaitByte; split <;> rfl

theorem awaitByte_of_ne_idle {s : Receiver} (h : s.currentReceiveState ≠ .idle) :
    awaitByte s = s := if_neg h

theorem storeByte_index {s : Receiver} (h : s.receivedPacketIndex.toNat < receivedPacketSize)
    (b : Byte) : (storeByte s b).receivedPacketIndex.toNat = s.receivedPacketIndex.toNat + 1 := by
  simp only [receivedPacketSize] at h
  simp only [storeByte, BitVec.toNat_add, BitVec.reduceToNat]
  omega

/-- At the last byte of a packet `BuildReceivedPacket` reports it and goes idle. -/
theorem buildReceivedPacket_of_isLastByte {s : Receiver} (h : IsLastByte s) (b : Byte) :
    buildReceivedPacket s b = ({ storeByte s b with currentReceiveState := .idle }, true) := by
  obtain ⟨hs, hlt, hle⟩ := h
  have hidx := storeByte_index (Nat.lt_of_succ_lt hlt) b
  have hstate : (storeByte s b).currentReceiveState = .receivingRf100Payload := hs
  have hlen : (storeByte s b).recvdLen = s.recvdLen := rfl
  have hroom : ¬ s.receivedPacketIndex.toNat + 1 ≥ receivedPacketSize := Nat.not_le.2 hlt
  have hdone : s.receivedPacketIndex.toNat + 1 > s.recvdLen.toNat + 1 := by omega
  simp only [buildReceivedPacket, hidx, hstate, hlen, if_neg hroom, if_pos hdone]

/-- At any other byte it reports nothing and keeps its knowledge of the packet. -/
theorem buildReceivedPacket_of_not_isLastByte {s : Receiver} (h : ¬ IsLastByte s)
    (hidle : s.currentReceiveState = .idle → s.receivedPacketIndex = 0) (hinv : FrameInv s)
    (hlt : s.receivedPacketIndex.toNat < receivedPacketSize) (b : Byte) :
    (buildReceivedPacket s b).2 = false ∧ FrameInv (buildReceivedPacket s b).1 := by
  have hidx := storeByte_index hlt b
  have hstate : (storeByte s b).currentReceiveState = s.currentReceiveState := rfl
  by_cases hroom : s.receivedPacketIndex.toNat + 1 ≥ receivedPacketSize
  · simp only [buildReceivedPacket, hidx, if_pos hroom]
    exact ⟨trivial, frameInv_of_idle rfl⟩
  cases hs : s.currentReceiveState with
  | idle =>
    simp only [buildReceivedPacket, hidx, hstate, hs, if_neg hroom]
    split
    · exact ⟨rfl, by simp [FrameInv, storeByte, hidle hs]⟩
    · exact ⟨rfl, frameInv_of_idle hs⟩
  | receivingRf100Length =>
    simp only [FrameInv, hs] at hinv
    simp only [buildReceivedPacket, hidx, hstate, hs, if_neg hroom]
    split
    · exact ⟨rfl, frameInv_of_idle rfl⟩
    · exact ⟨rfl, by simp [FrameInv, storeByte, hinv]⟩
  | receivingRf100Rssi =>
    simp only [FrameInv, hs] at hinv
    simp only [buildReceivedPacket, hidx, hstate, hs, if_neg hroom]
    refine ⟨trivial, ?_⟩
    simp only [FrameInv, storeByte, hinv, receivedPacketSize]
    exact ⟨by decide, by decide, Nat.le_max_left .., rfl⟩
  | receivingRf100Payload =>
    simp only [FrameInv, hs] at hinv
    have hmore : ¬ s.receivedPacketIndex.toNat + 1 > s.recvdLen.toNat + 1 := by
      intro hdone
      exact h ⟨hs, Nat.not_le.1 hroom, by omega⟩
    have hlen : (storeByte s b).recvdLen = s.recvdLen := rfl
    have hbyte : (storeByte s b).receivedPacket 1 = s.receivedPacket 1 := by
      exact Function.update_of_ne (by omega) ..
    simp only [buildReceivedPacket, hidx, hstate, hs, hlen, if_neg hroom, if_neg hmore]
    refine ⟨trivial, ?_⟩
    simp only [FrameInv, hstate, hs, hidx, hlen, hbyte]
    exact ⟨by omega, by omega, by omega, hinv.2.2.2⟩

theorem awaitByte_index_of_idle {s : Receiver} (h : (awaitByte s).currentReceiveState = .idle) :
    (awaitByte s).receivedPacketIndex = 0 := by
  rw [awaitByte_state] at h
  simp [awaitByte, h]

theorem FrameInv.awaitByte {s : Receiver} (h : FrameInv s) : FrameInv (awaitByte s) := by
  by_cases hs : s.currentReceiveState = .idle
  · exact frameInv_of_idle (by rw [awaitByte_state, hs])
  · rwa [awaitByte_of_ne_idle hs]

/-! ### Decoding keeps the framing machine -/

theorem processCommand_state (s : Receiver) (ttl : Byte) (a : Address) (packIdx : ℕ)
    (c : Command) :
    (processCommand s ttl a packIdx c).value.1.currentReceiveState = s.currentReceiveState := by
  cases c <;> simp only [processCommand, Reading.value_bind, Reading.value_ite,
    Reading.value_pure] <;> (try split) <;> rfl

theorem processReceivedPacket_state (s : Receiver) :
    (processReceivedPacket s).value.1.currentReceiveState = s.currentReceiveState := by
  simp only [processReceivedPacket, processValidPacket, Reading.value_bind, Reading.value_ite,
    Reading.value_pure]
  split_ifs
  · rfl
  · cases Command.ofWord (readCommand s.receivedPacket).value.1 with
    | none => rfl
    | some c => exact processCommand_state ..
  all_goals rfl

/-- Every step keeps what the framing machine knows. -/
theorem FrameInv.step {s s' : Receiver} {e : Event} (h : FrameInv s)
    (hs : rfm100.step s e = some s') : FrameInv s' := by
  cases e with
  | byte b =>
    obtain rfl : (receiveByte s b).receiver = s' := Option.some.inj hs
    unfold receiveByte
    dsimp only
    split
    · exact h.awaitByte
    · by_cases hl : IsLastByte (Rf.awaitByte s)
      · rw [buildReceivedPacket_of_isLastByte hl]
        exact frameInv_of_idle (processReceivedPacket_state _)
      · obtain ⟨hf, hi⟩ := buildReceivedPacket_of_not_isLastByte hl awaitByte_index_of_idle
          h.awaitByte h.index_lt b
        simp only [hf]
        exact hi
  | timeout =>
    simp only [rfm100, receiveStep] at hs
    split at hs
    · cases hs
    · obtain rfl := Option.some.inj hs
      exact frameInv_of_idle rfl
  | setManufacturingTestMode flag =>
    obtain rfl := Option.some.inj hs
    exact h
  | setSentQueue queue =>
    obtain rfl := Option.some.inj hs
    exact h
  | setMemory memory =>
    obtain rfl := Option.some.inj hs
    exact h

/-! ### Safety of a step and of a run -/

/-- The number of bytes received for a packet when its last byte arrives. -/
theorem FrameInv.packetBytes {s : Receiver} (h : FrameInv s) (hl : IsLastByte s) (b : Byte) :
    (storeByte s b).receivedPacketIndex.toNat = packetBytes ((storeByte s b).receivedPacket 1) := by
  obtain ⟨hs, hlt, hle⟩ := hl
  rw [storeByte_index (Nat.lt_of_succ_lt hlt)]
  simp only [FrameInv, hs] at h
  have hbyte : (storeByte s b).receivedPacket 1 = s.receivedPacket 1 := by
    exact Function.update_of_ne (by omega) ..
  rw [hbyte, Rf.packetBytes, ← h.2.2.2]
  simp only [receivedPacketSize] at hlt
  omega

/-- A complete packet is decoded safely exactly when it has the bytes it needs. -/
theorem packetSafe_iff {s : Receiver} (hlt : s.receivedPacketIndex.toNat < receivedPacketSize)
    (hn : s.receivedPacketIndex.toNat = packetBytes (s.receivedPacket 1)) :
    PacketSafe s ↔ PacketLongEnough s := by
  have h3 : 3 < packetBytes (s.receivedPacket 1) := by simp only [packetBytes]; omega
  unfold PacketSafe PacketLongEnough
  rw [hn, Nat.min_eq_right (by omega), processReceivedPacket_within s h3]
  by_cases h0 : crcBytes (topdogFamilyOf (s.receivedPacket 3)) = 0
  · simp [h0, checkPacket_of_crcBytes_eq_zero h0]
  by_cases hff : s.receivedPacket 1 = 0xff
  · have h4 : packetBytes 0xff = 4 := rfl
    simp only [hff, h4, not_checkPacket_within_four h0, false_and, and_false, h0, ne_eq,
      not_true_eq_false, or_false]
  have hbytes : (s.receivedPacket 1 + 1).toNat = (s.receivedPacket 1).toNat + 1 := by
    have : (s.receivedPacket 1).toNat ≠ 255 := fun h => hff (BitVec.eq_of_toNat_eq h)
    have := (s.receivedPacket 1).isLt
    rw [BitVec.toNat_add, show (1 : Byte).toNat = 1 from rfl]
    omega
  simp only [h0, false_or, hff, ne_eq, not_false_eq_true, true_and]
  refine and_congr_right fun hl => ?_
  have hpos : packetBytes (s.receivedPacket 1) = (s.receivedPacket 1).toNat + 3 := by
    simp only [packetBytes, hbytes]
    omega
  rw [hpos]
  simp only [checkPacket_within hl h0 _ (Nat.le_refl _), true_and]
  refine forall_congr' fun _ => ?_
  cases s.manufacturingTestModeFlag with
  | true => simp [Nat.add_comm]
  | false => simp

theorem isLastByte_awaitByte (s : Receiver) : IsLastByte (awaitByte s) ↔ IsLastByte s := by
  by_cases hs : s.currentReceiveState = .idle
  · simp [IsLastByte, awaitByte_state, hs]
  · rw [awaitByte_of_ne_idle hs]

/-- **A step is safe exactly when the packet it completes is long enough.** -/
theorem frameSafe_iff {s : Receiver} (h : FrameInv s) (e : Event) :
    FrameSafe s e ↔ FrameLongEnough s e := by
  cases e with
  | byte b =>
    have hlt := h.index_lt
    by_cases hl : IsLastByte s
    · have hne : s.currentReceiveState ≠ .idle := by rw [hl.1]; decide
      have hack : isAck s b = false := by simp [isAck, hne]
      rw [awaitByte_of_ne_idle hne] at hlt
      have hsafe : PacketSafe { storeByte s b with currentReceiveState := .idle } ↔
          PacketLongEnough { storeByte s b with currentReceiveState := .idle } := by
        refine packetSafe_iff ?_ (h.packetBytes hl b)
        exact (storeByte_index hlt b).trans_lt hl.2.1
      simp only [FrameSafe, FrameLongEnough, awaitByte_of_ne_idle hne, hack, hlt,
        buildReceivedPacket_of_isLastByte hl, hl, true_and, true_implies]
      exact hsafe
    · have hl' := mt (isLastByte_awaitByte s).1 hl
      obtain ⟨hf, -⟩ := buildReceivedPacket_of_not_isLastByte hl' awaitByte_index_of_idle
        h.awaitByte hlt b
      simp only [FrameSafe, FrameLongEnough, hf, hl, hlt, false_implies, implies_true, and_self,
        Bool.false_eq_true]
  | _ => exact Iff.rfl

/-- **Framing safety**: on every stream of bytes and timeouts, and whatever other tasks do in
between, all reads and writes of the receive task lie inside the array and inside the bytes
received for the packet exactly when every packet has the bytes its family and command need. -/
theorem allSteps_frameSafe_iff {s : Receiver} (hs : rfm100.init s) (es : List Event) :
    rfm100.AllSteps FrameSafe s es ↔ rfm100.AllSteps FrameLongEnough s es :=
  Machine.allSteps_congr (fun _ _ _ h _ hstep => h.step hstep) (fun _ e h => frameSafe_iff h e)
    (frameInv_of_idle hs)

/-- The receiver after start-up. -/
def Receiver.start : Receiver where
  receivedPacket _ := 0
  receivedPacketIndex := 0
  currentReceiveState := .idle
  recvdLen := 0
  newSequenceNumber := 0
  oldSequenceNumber := 0
  manufacturingTestModeFlag := false
  sentQueue := ⟨fun _ => ⟨0, 0, 0, 0, 0⟩, 0, 0⟩

/-- The example packet of family F2 that the source documents. -/
def exampleF2 : List Byte :=
  [0xb2, 0x0a, 0x30, 0xca, 0x23, 0x4a, 0xf8, 0x85, 0xff, 0x32, 0x00, 0xcb, 0x34]

theorem allSteps_frameSafe_iff_exampleF2 :
    rfm100.AllSteps FrameSafe .start (exampleF2.map .byte) ↔
      rfm100.AllSteps FrameLongEnough .start (exampleF2.map .byte) :=
  allSteps_frameSafe_iff (show rfm100.init .start from rfl) _

/-- A packet of family F1 that declares no bytes at all is processed: its checksum would run over
`0 - 1` bytes. -/
theorem not_frameSafe_of_length_zero :
    ¬ ∀ s es, rfm100.init s → rfm100.AllSteps FrameSafe s es := by
  intro h
  have hrun : rfm100.AllSteps FrameSafe .start
      ([.byte 0xb2, .byte 0x00, .byte 0x30] ++ [.byte 0x20]) := h _ _ rfl
  have hlength : rfm100.run .start [.byte 0xb2, .byte 0x00, .byte 0x30] = some _ := rfl
  have hstep := hrun.last hlength (show rfm100.step _ _ = some _ from rfl)
  have hsafe := ((hstep rfl).2 rfl).1
  exact absurd hsafe (by decide)

end Rf

end Lcm
