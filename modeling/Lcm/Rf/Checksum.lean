import Lcm.CrcTables
import Lcm.Rf.Ramp

/-!
# The checksum of a frame

`BuildRamp` ends a message with its checksum and the complement of it, and the receiver tests both
before it decodes a packet.  Such a frame passes the test, and fails it when one bit is changed
anywhere from the header to the last of the two bytes: a changed bit of the message changes the
checksum, and no bit of the header alone turns its family into the one with a single checksum byte.

## Main definitions

* `appendCrc` : the end of `BuildRamp`, for a message of any length.
* `Accepted` : the test of the receiver.
* `IsFrame` : what the test asks of a packet.

## Main results

* `accepted_iff` : the test of a family with two checksum bytes.
* `IsFrame.not_accepted_flipBit` : the test finds every change of one bit.
* `isFrame_appendCrc` : what `BuildRamp` ends so is a frame.
* `checksums_bitwise` : the checksums are the bitwise ones, and the frames carry them.
-/

namespace Lcm

namespace Rf

/-! ### The test -/

/-- The test that `ProcessReceivedPacket` makes of the packet in the array. -/
def Accepted (packet : ℕ → Byte) : Prop :=
  (checkPacket packet (packet 1) (topdogFamilyOf (packet 3))).value = true

instance (packet : ℕ → Byte) : Decidable (Accepted packet) := inferInstanceAs (Decidable (_ = _))

/-- The checksum of the topdog message of a packet, without its last two bytes. -/
def messageCrc (packet : ℕ → Byte) : Byte :=
  updateCRC8 0 (fun i => packet (3 + i)) ((packet 1).toNat - 2)

/-- A packet with one bit changed. -/
def flipBit (packet : ℕ → Byte) (i j : ℕ) : ℕ → Byte :=
  Function.update packet i (packet i ^^^ BitVec.twoPow 8 j)

/-- The test accepts the packet, and no packet that differs from it in one bit from the header to
the last checksum byte. -/
def FindsBitErrors (packet : ℕ → Byte) : Prop :=
  Accepted packet ∧ ∀ i, 3 ≤ i → i ≤ (packet 1).toNat + 2 → ∀ j < 8,
    ¬ Accepted (flipBit packet i j)

/-- A topdog message of a family with two checksum bytes, which it ends with. -/
structure IsFrame (packet : ℕ → Byte) : Prop where
  /-- There is a header in front of the checksum. -/
  length : 3 ≤ (packet 1).toNat
  /-- The family has two checksum bytes. -/
  family : crcBytes (topdogFamilyOf (packet 3)) = 2
  /-- The first one is the checksum. -/
  crc : packet ((packet 1).toNat + 1) = messageCrc packet
  /-- The second one is its complement. -/
  crcComplement : packet ((packet 1).toNat + 2) = ~~~messageCrc packet

variable {packet : ℕ → Byte}

/-- The test of a family with two checksum bytes. -/
theorem accepted_iff (hfamily : crcBytes (topdogFamilyOf (packet 3)) = 2)
    (hlength : 2 ≤ (packet 1).toNat) :
    Accepted packet ↔ packet ((packet 1).toNat + 1) = messageCrc packet ∧
      packet ((packet 1).toNat + 2) = ~~~messageCrc packet := by
  have hone : topdogFamilyOf (packet 3) ≠ topdogF1 := by
    intro hone
    rw [crcBytes, if_pos hone] at hfamily
    cases hfamily
  have htwo : topdogFamilyOf (packet 3) = topdogF2 ∨ topdogFamilyOf (packet 3) = topdogCadir := by
    by_contra hnone
    rw [crcBytes, if_neg hone, if_neg hnone] at hfamily
    cases hfamily
  rw [Accepted, checkPacket, if_neg hone, if_pos htwo]
  simp only [packetCrc, Reading.value_bind, Reading.value_ite, Reading.value_pure,
    crcSize_eq hlength]
  rw [messageCrc]
  split_ifs with hcrc
  · rw [decide_eq_true_eq, and_iff_right hcrc]
  · exact iff_of_false not_false fun h => hcrc h.1

theorem IsFrame.accepted (h : IsFrame packet) : Accepted packet :=
  (accepted_iff h.family (by have := h.length; omega)).2 ⟨h.crc, h.crcComplement⟩

/-- A packet that is not accepted is dropped. -/
theorem processReceivedPacket_of_not_accepted {s : Receiver} (h : ¬ Accepted s.receivedPacket) :
    (processReceivedPacket s).value = (s, []) := by
  have hflag := Bool.eq_false_iff.2 h
  simp only [processReceivedPacket, Reading.value_bind, hflag, Bool.false_eq_true,
    if_false, Reading.value_pure]

/-! ### Changes of one bit -/

theorem xor_twoPow_ne (b : Byte) {j : ℕ} (hj : j < 8) : b ^^^ BitVec.twoPow 8 j ≠ b := by
  intro h
  have hbit := congrArg (·.getLsbD j) h
  simp [hj] at hbit

/-- No bit of a header with two checksum bytes alone makes it one with a single checksum byte. -/
theorem crcBytes_flip_ne_one (header : Byte) {j : ℕ} (hj : j < 8)
    (h : crcBytes (topdogFamilyOf header) = 2) :
    crcBytes (topdogFamilyOf (header ^^^ BitVec.twoPow 8 j)) ≠ 1 := by
  have hall : ∀ header : Byte, crcBytes (topdogFamilyOf header) = 2 → ∀ j < 8,
      crcBytes (topdogFamilyOf (header ^^^ BitVec.twoPow 8 j)) ≠ 1 := by
    decide +kernel
  exact hall header h j hj

theorem flipBit_self (packet : ℕ → Byte) (i j : ℕ) :
    flipBit packet i j i = packet i ^^^ BitVec.twoPow 8 j := Function.update_self ..

theorem flipBit_of_ne {i k : ℕ} (h : k ≠ i) (j : ℕ) : flipBit packet i j k = packet k :=
  Function.update_of_ne h ..

/-- The checksum does not depend on the bytes behind the message. -/
theorem messageCrc_flipBit_of_behind {i : ℕ} (hi : (packet 1).toNat < i) (hpos : 1 < i) (j : ℕ) :
    messageCrc (flipBit packet i j) = messageCrc packet := by
  unfold messageCrc
  rw [flipBit_of_ne (by omega)]
  exact updateCRC8_congr fun k hk => flipBit_of_ne (by omega) j

/-- **The test finds every change of one bit** from the header to the last checksum byte. -/
theorem IsFrame.not_accepted_flipBit (h : IsFrame packet) {i : ℕ} (hi : 3 ≤ i)
    (hlast : i ≤ (packet 1).toNat + 2) {j : ℕ} (hj : j < 8) :
    ¬ Accepted (flipBit packet i j) := by
  have hlength := h.length
  have hone : flipBit packet i j 1 = packet 1 := flipBit_of_ne (by omega) j
  have hne : flipBit packet i j i ≠ packet i := by
    rw [flipBit_self]
    exact xor_twoPow_ne _ hj
  -- the family is checked with two bytes, as it was, or is not checked at all
  have hfamily : crcBytes (topdogFamilyOf (flipBit packet i j 3)) ≠ 1 := by
    by_cases hheader : i = 3
    · subst hheader
      rw [flipBit_self]
      exact crcBytes_flip_ne_one _ hj h.family
    · rw [flipBit_of_ne (Ne.symm hheader), h.family]
      decide
  by_cases htwo : crcBytes (topdogFamilyOf (flipBit packet i j 3)) = 2
  · rw [accepted_iff htwo (by rw [hone]; omega), hone]
    rintro ⟨hcrc, hcomplement⟩
    obtain hmessage | hfirst | hsecond : i ≤ (packet 1).toNat ∨ i = (packet 1).toNat + 1 ∨
        i = (packet 1).toNat + 2 := by omega
    · -- a byte of the message: its checksum is another one
      rw [flipBit_of_ne (by omega), h.crc] at hcrc
      unfold messageCrc at hcrc
      rw [hone] at hcrc
      refine updateCRC8_ne (k := i - 3) 0 (by omega) ?_ (fun k _ hk => ?_) hcrc
      · rw [show 3 + (i - 3) = i by omega]
        exact hne.symm
      · exact (flipBit_of_ne (by omega) j).symm
    · rw [messageCrc_flipBit_of_behind (by omega) (by omega), ← h.crc, ← hfirst] at hcrc
      exact hne hcrc
    · rw [messageCrc_flipBit_of_behind (by omega) (by omega), ← h.crcComplement,
        ← hsecond] at hcomplement
      exact hne hcomplement
  · have hzero : crcBytes (topdogFamilyOf (flipBit packet i j 3)) = 0 := by
      unfold crcBytes at hfamily htwo ⊢
      split_ifs at hfamily htwo ⊢ with h1 h2
      · exact absurd rfl hfamily
      · exact absurd rfl htwo
      · rfl
    rw [Accepted, checkPacket_of_crcBytes_eq_zero hzero]
    exact Bool.false_ne_true

theorem IsFrame.findsBitErrors (h : IsFrame packet) : FindsBitErrors packet :=
  ⟨h.accepted, fun _ hi hlast _ hj => h.not_accepted_flipBit hi hlast hj⟩

/-- A packet with a changed bit has no effect. -/
theorem IsFrame.processReceivedPacket_flipBit (h : IsFrame packet) {i : ℕ} (hi : 3 ≤ i)
    (hlast : i ≤ (packet 1).toNat + 2) {j : ℕ} (hj : j < 8) {s : Receiver}
    (hs : s.receivedPacket = flipBit packet i j) : (processReceivedPacket s).value = (s, []) :=
  processReceivedPacket_of_not_accepted (hs ▸ h.not_accepted_flipBit hi hlast hj)

/-! ### The frames of `BuildRamp` -/

/-- The end of `BuildRamp`: the checksum of the message behind the length byte, its complement,
and the length of both together in the length byte. -/
def appendCrc (p : PayloadBuffer) : PayloadBuffer :=
  let crcValue := updateCRC8 0 (fun i => p.payload (3 + i)) (p.payldCt - 3).toNat
  let p := (p.push crcValue).push (~~~crcValue)
  { p with payload := Function.update p.payload 2 (p.payldCt - 3) }

/-- The message of `BuildRamp` before its end. -/
def rampPayload (payload : ℕ → Byte) (z : ZoneProperties) : PayloadBuffer :=
  ([0x86, 0xb4, 0x00] ++ rampMessage z).foldl PayloadBuffer.push ⟨payload, 0⟩

/-- `BuildRamp` ends its message so. -/
theorem buildRamp_eq_appendCrc {getZoneProperties : Byte → Option ZoneProperties} {zoneIdx : Byte}
    {z : ZoneProperties} (hz : getZoneProperties zoneIdx = some z) (purgeTime currentTime : Dword)
    (payload : ℕ → Byte) (q : SentQueue) :
    buildRamp getZoneProperties purgeTime currentTime payload zoneIdx q =
      ((appendCrc (rampPayload payload z)).payload, (appendCrc (rampPayload payload z)).payldCt,
        addToSentMessageQueue purgeTime currentTime (some z) q) := by
  rw [buildRamp, hz]
  rfl

/-- The bytes of a message with its end. -/
theorem appendCrc_payload (p : PayloadBuffer) (hfit : p.payldCt.toNat + 2 < 256) (k : ℕ) :
    (appendCrc p).payload k =
      if k = 2 then p.payldCt - 1
      else if k = p.payldCt.toNat + 1 then
        ~~~updateCRC8 0 (fun i => p.payload (3 + i)) (p.payldCt - 3).toNat
      else if k = p.payldCt.toNat then
        updateCRC8 0 (fun i => p.payload (3 + i)) (p.payldCt - 3).toNat
      else p.payload k := by
  have hnext : (p.payldCt + 1).toNat = p.payldCt.toNat + 1 := by bv_omega
  have hcount : p.payldCt + 1 + 1 - 3 = p.payldCt - 1 := by bv_omega
  simp only [appendCrc, PayloadBuffer.push, Function.update_apply, hnext, hcount]

/-- **What `BuildRamp` ends so is a frame**, whatever message it has, when the radio has delivered
it into the array. -/
theorem isFrame_appendCrc (p : PayloadBuffer) (hpos : 3 < p.payldCt.toNat)
    (hfit : p.payldCt.toNat + 2 < 256) (hfamily : crcBytes (topdogFamilyOf (p.payload 3)) = 2)
    (rssi : Byte) (m : ℕ → Byte) :
    IsFrame (writeList m 0 (rampFrame rssi (appendCrc p).payload)) := by
  set packet := writeList m 0 (rampFrame rssi (appendCrc p).payload) with hpacket
  set n := p.payldCt.toNat with hn
  have hpayload := appendCrc_payload p hfit
  have hcount : (p.payldCt - 1).toNat = n - 1 := by bv_omega
  have hcovered : (p.payldCt - 3).toNat = n - 3 := by bv_omega
  rw [hcovered] at hpayload
  have hlength : packet 1 = p.payldCt - 1 := (hpayload 2).trans (if_pos rfl)
  have hone : (packet 1).toNat = n - 1 := by rw [hlength, hcount]
  -- what is delivered behind the rssi is what stands behind the length byte
  have hbyte (i : ℕ) (hi : i < n - 1) : packet (3 + i) = (appendCrc p).payload (3 + i) := by
    have hi : i < ((appendCrc p).payload 2).toNat := by rwa [hpayload 2, if_pos rfl, hcount]
    have hget : (rampFrame rssi (appendCrc p).payload)[3 + i]? =
        some ((appendCrc p).payload (3 + i)) := by
      rw [Nat.add_comm 3 i, rampFrame, List.getElem?_cons_succ, List.getElem?_cons_succ,
        List.getElem?_cons_succ, List.getElem?_map, List.getElem?_range hi, Option.map_some,
        Nat.add_comm 3 i]
    rw [hpacket, writeList, if_pos (Nat.zero_le _), Nat.sub_zero, hget, Option.getD_some]
  have hmessage (i : ℕ) (hi : 3 + i < n) : packet (3 + i) = p.payload (3 + i) := by
    rw [hbyte i (by omega), hpayload, if_neg (by omega), if_neg (by omega), if_neg (by omega)]
  have hcrc : messageCrc packet = updateCRC8 0 (fun i => p.payload (3 + i)) (n - 3) := by
    rw [messageCrc, hone, Nat.sub_sub]
    exact updateCRC8_congr fun i hi => hmessage i (by omega)
  refine ⟨by omega, ?_, ?_, ?_⟩
  · rw [show packet 3 = p.payload 3 from hmessage 0 (by omega)]
    exact hfamily
  · rw [hone, hcrc, show n - 1 + 1 = 3 + (n - 3) by omega, hbyte _ (by omega), hpayload,
      if_neg (by omega), if_neg (by omega), if_pos (by omega)]
  · rw [hone, hcrc, show n - 1 + 2 = 3 + (n - 2) by omega, hbyte _ (by omega), hpayload,
      if_neg (by omega), if_pos (by omega)]

/-- The frame of a ramp. -/
theorem isFrame_buildRamp {getZoneProperties : Byte → Option ZoneProperties} {zoneIdx : Byte}
    {z : ZoneProperties} (hz : getZoneProperties zoneIdx = some z) (purgeTime currentTime : Dword)
    (payload : ℕ → Byte) (q : SentQueue) (rssi : Byte) (m : ℕ → Byte) :
    IsFrame (writeList m 0 (rampFrame rssi
      (buildRamp getZoneProperties purgeTime currentTime payload zoneIdx q).1)) := by
  rw [buildRamp_eq_appendCrc hz]
  obtain ⟨hbody, hcount⟩ := foldl_push ⟨payload, 0⟩ ([0x86, 0xb4, 0x00] ++ rampMessage z)
    (by simp [rampMessage])
  have hcount : (rampPayload payload z).payldCt = 11 := hcount
  have hheader : (rampPayload payload z).payload 3 = rampHeader := congrFun hbody 3
  refine isFrame_appendCrc _ ?_ ?_ ?_ rssi m
  · rw [hcount]
    decide
  · rw [hcount]
    decide
  · rw [hheader]
    decide

/-- **The checksums are the bitwise ones.**  The loops over the tables give what shift and xor
with the pattern of the table gives, for every initial value and every buffer, which may be
processed in two parts.  A message of any length that is ended as `BuildRamp` does it is accepted
by the receiver, and rejected when one bit is changed from its header to its last byte; the ramps
are such messages. -/
theorem checksums_bitwise :
    (crc8Table.getD 0x80 0 = crc8Polynomial ∧ crc16Table.getD 0x80 0 = crc16Polynomial) ∧
      (∀ currentCRC buffer buffSize, updateCRC8 currentCRC buffer buffSize =
        BitwiseCrc.update crc8Polynomial currentCRC buffer buffSize) ∧
      (∀ currentCRC buffer buffSize, updateCRC16 currentCRC buffer buffSize =
        BitwiseCrc.update crc16Polynomial currentCRC buffer buffSize) ∧
      (∀ currentCRC buffer m n, updateCRC8 currentCRC buffer (m + n) =
        updateCRC8 (updateCRC8 currentCRC buffer m) (fun i => buffer (m + i)) n) ∧
      (∀ currentCRC buffer m n, updateCRC16 currentCRC buffer (m + n) =
        updateCRC16 (updateCRC16 currentCRC buffer m) (fun i => buffer (m + i)) n) ∧
      (∀ p : PayloadBuffer, 3 < p.payldCt.toNat → p.payldCt.toNat + 2 < 256 →
        crcBytes (topdogFamilyOf (p.payload 3)) = 2 → ∀ rssi m,
          FindsBitErrors (writeList m 0 (rampFrame rssi (appendCrc p).payload))) ∧
      ∀ getZoneProperties zoneIdx z, getZoneProperties zoneIdx = some z →
        ∀ purgeTime currentTime payload q rssi m,
          FindsBitErrors (writeList m 0 (rampFrame rssi
            (buildRamp getZoneProperties purgeTime currentTime payload zoneIdx q).1)) :=
  ⟨crcTables_getD_high_bit, updateCRC8_eq_update, updateCRC16_eq_update, updateCRC8_add,
    updateCRC16_add,
    fun p hpos hfit hfamily rssi m => (isFrame_appendCrc p hpos hfit hfamily rssi m).findsBitErrors,
    fun _ _ _ hz purgeTime currentTime payload q rssi m =>
      (isFrame_buildRamp hz purgeTime currentTime payload q rssi m).findsBitErrors⟩

theorem checksums_bitwise_exampleZone :
    FindsBitErrors (writeList (fun _ => 0) 0 (rampFrame 0x30 (buildRamp (fun _ => some exampleZone)
      0 0 (fun _ => 0) 0 Receiver.start.sentQueue).1)) ∧
      ¬ Accepted (flipBit (writeList (fun _ => 0) 0 (rampFrame 0x30
        (appendCrc (rampPayload (fun _ => 0) exampleZone)).payload)) 5 0) :=
  ⟨checksums_bitwise.2.2.2.2.2.2 (fun _ => some exampleZone) 0 exampleZone rfl 0 0 (fun _ => 0)
    Receiver.start.sentQueue 0x30 fun _ => 0,
    (checksums_bitwise.2.2.2.2.2.1 (rampPayload (fun _ => 0) exampleZone) (by decide) (by decide)
      (by decide) 0x30 fun _ => 0).2 5 (by decide) (by decide) 0 (by decide)⟩

end Rf

end Lcm
