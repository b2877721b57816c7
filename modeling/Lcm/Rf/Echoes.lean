import Lcm.Rf.Ramp
import Lcm.Rf.SentRing

/-!
# Echoes of ramps

A ramp that the controller sends is repeated by other devices, and comes back with less than two
hops to go.  `BuildRamp` records each ramp, with the level of its zone, and `ProcessReceivedPacket`
looks for the level that it decodes from the ramp.

## Main definitions

* `IsEcho` : what a device that repeats a frame makes of it.
* `machine` : ramps that are built and packets that are received, while the time goes on.
* `Recognised` : an echo is ignored, and a ramp that has not been sent in the last seconds is not.
* `FrameFits`, `SendFits` : the frame carries the level that is recorded, and the ring has room.
* `ReceiveFits` : what is received is not mistaken for a ramp that was sent before.

## Main results

* `processReceivedPacket_rampPacket` : what becomes of a ramp, whatever its header.
* `calls_eq_nil_iff` : the ramps that are taken for repeats.
* `recognises_iff` : the runs in which echoes and nothing else are taken for repeats.
-/

namespace Lcm

namespace Rf

namespace Echoes

open SentRing (clock contents)

/-! ### Frames and packets -/

/-- The address and the level of a ramp; the bytes of a message are at the same places in the buffer
that it is built in and in the one that it is received in. -/
def rampContent (packet : ℕ → Byte) : Address × Byte :=
  ((readAddress packet).value, percentOfPower (packet 8))

/-- Two ramps have the same address and level. -/
def SameRamp (frame packet : ℕ → Byte) : Prop := rampContent frame = rampContent packet

/-- **An echo of a frame**: another device has sent it again with less than two hops to go and with
a checksum of its own. -/
structure IsEcho (frame packet : ℕ → Byte) : Prop where
  length : packet 1 = frame 2
  timeToLive : timeToLiveOf (packet 3) < 2
  header : packet 3 &&& 0xfc = frame 3 &&& 0xfc
  body : ∀ i < (frame 2).toNat + 1, 4 ≤ i → packet i = frame i
  crc : packet ((frame 2).toNat + 1) =
    updateCRC8 0 (fun i => packet (3 + i)) ((frame 2).toNat - 2)
  crcComplement : packet ((frame 2).toNat + 2) = ~~~ packet ((frame 2).toNat + 1)

/-- A packet is a ramp: its checksum is good, it is addressed to a group, and its command is `RAMP`
or `CANCEL_RAMP`. -/
structure IsRampPacket (packet : ℕ → Byte) : Prop where
  valid : (checkPacket packet (packet 1) (topdogFamilyOf (packet 3))).value = true
  mode : topdogAddressModeOf (packet 3) = tdamBroadcast ∨
    topdogAddressModeOf (packet 3) = tdamAnonMulticast ∨
      topdogAddressModeOf (packet 3) = tdamMulticast
  group : packet 5 &&& 0x10 = 0
  command : packet 7 &&& 0x3f = 0x05 ∨ packet 7 &&& 0x3f = 0x06

/-! ### Runs -/

/-- A ramp that was built. -/
structure Sent where
  /-- When it was recorded. -/
  time : ℕ
  /-- The zone. -/
  zoneProperties : ZoneProperties
  /-- What `BuildRamp` left in the buffer. -/
  frame : ℕ → Byte

/-- The receive task, the time in seconds, and the ramps that were built, the last one first. -/
structure State where
  /-- The receive task, with the queue of sent messages. -/
  receiver : Receiver
  /-- The seconds that have gone by. -/
  time : ℕ
  /-- The ramps. -/
  sent : List Sent

/-- What happens. -/
inductive Event
  /-- Time goes by. -/
  | tick (seconds : ℕ)
  /-- `BuildRamp` is called; between the two readings of the clock time goes by. -/
  | buildRamp (getZoneProperties : Byte → Option ZoneProperties) (zoneIdx : Byte)
      (payload : ℕ → Byte) (delay : ℕ)
  /-- `ProcessReceivedPacket` is called for a packet. -/
  | receive (packet : ℕ → Byte)
  /-- Another task switches manufacturing test mode. -/
  | setManufacturingTestMode (flag : Bool)

/-- The receive task with a packet in its buffer. -/
def State.received (s : State) (packet : ℕ → Byte) : Receiver :=
  { s.receiver with receivedPacket := packet }

/-- What `ProcessReceivedPacket` calls for a packet. -/
def State.calls (s : State) (packet : ℕ → Byte) : List Call :=
  (processReceivedPacket (s.received packet)).value.2

/-- What an event makes of the state. -/
def next (s : State) : Event → State
  | .tick seconds => { s with time := s.time + seconds }
  | .buildRamp getZoneProperties zoneIdx payload delay =>
    let built := Rf.buildRamp getZoneProperties (clock s.time) (clock (s.time + delay)) payload
      zoneIdx s.receiver.sentQueue
    { receiver := { s.receiver with sentQueue := built.2.2 }
      time := s.time + delay
      sent := match getZoneProperties zoneIdx with
        | some z => ⟨s.time + delay, z, built.1⟩ :: s.sent
        | none => s.sent }
  | .receive packet =>
    { s with receiver := (processReceivedPacket (s.received packet)).value.1 }
  | .setManufacturingTestMode flag =>
    { s with receiver := { s.receiver with manufacturingTestModeFlag := flag } }

/-- No ramp has been built, and the ring is empty. -/
def Starts (s : State) : Prop :=
  s.receiver.sentQueue.sentMessageReadIndex = 0 ∧ s.receiver.sentQueue.sentMessageWriteIndex = 0 ∧
    s.sent = []

/-- Ramps that are built and packets that are received. -/
def machine : Machine State Event where
  init := Starts
  step s e := some (next s e)

/-- A ramp was sent in the last seconds. -/
def Recent (s : State) (p : Sent) : Prop := s.time ≤ p.time + sentMessagePurgeSeconds.toNat

instance (s : State) (p : Sent) : Decidable (Recent s p) := inferInstanceAs (Decidable (_ ≤ _))

/-- Nothing is called, except for the report in manufacturing test mode. -/
def Ignored (s : State) (packet : ℕ → Byte) : Prop :=
  ∀ call ∈ s.calls packet, s.receiver.manufacturingTestModeFlag = true ∧
    ∃ signalStrength packetHeader packetData,
      call = .mtmReceivedRFPacket signalStrength packetHeader packetData

/-- **Echoes, and nothing else, are taken for repeats.** -/
structure Recognised (s : State) (packet : ℕ → Byte) : Prop where
  /-- An echo of a frame that was sent in the last seconds is ignored, if not more frames were sent
  since than the queue has entries. -/
  echo : ∀ (i : ℕ) (p : Sent), s.sent[i]? = some p → i ≤ maxNumberOfSentMessages → Recent s p →
    IsEcho p.frame packet → Ignored s packet
  /-- A ramp whose address and level no frame had in the last seconds is not. -/
  other : IsRampPacket packet → (∀ p ∈ s.sent, Recent s p → ¬ SameRamp p.frame packet) →
    s.calls packet ≠ []

/-- What is received is treated as it should be. -/
def Recognises (s : State) : Event → Prop
  | .receive packet => Recognised s packet
  | _ => True

/-! ### The condition -/

/-- **The frame of a zone carries what is recorded of the zone**: the address fits into the bits of
the frame, and the level is 0 if the zone is to be off, and at most 100 otherwise. -/
structure FrameFits (z : ZoneProperties) : Prop where
  buildingId : z.buildingId < 8
  groupId : z.groupId < 4096
  powerLevel : if z.targetState then z.powerLevel ≤ 100 else z.powerLevel = 0

/-- The record of a ramp in the ring. -/
def Sent.entry (p : Sent) : SentMessage :=
  ⟨clock p.time, p.zoneProperties.groupId, p.zoneProperties.buildingId, p.zoneProperties.houseId,
    p.zoneProperties.powerLevel⟩

/-- The ring with its history. -/
def State.ring (s : State) : SentRing.State :=
  ⟨s.receiver.sentQueue, s.time, s.sent.map fun p => (p.time, p.entry)⟩

/-- **A ramp that is built fits**, and less than 99 messages are in the ring after its purge. -/
def SendFits (s : State) : Event → Prop
  | .buildRamp getZoneProperties zoneIdx _ _ => ∀ z, getZoneProperties zoneIdx = some z →
    FrameFits z ∧ s.ring.live.length + 1 < maxNumberOfSentMessages
  | _ => True

/-- **A packet is not mistaken for an old ramp**: if it is a ramp with less than two hops to go that
has the address and level of a ramp in the ring, one of the last seconds has them, too. -/
def ReceiveFits (s : State) : Event → Prop
  | .receive packet => s.receiver.manufacturingTestModeFlag = false → IsRampPacket packet →
    timeToLiveOf (packet 3) < 2 →
      ∀ p ∈ s.sent, p.entry ∈ contents s.receiver.sentQueue → SameRamp p.frame packet →
        ∃ p' ∈ s.sent, Recent s p' ∧ SameRamp p'.frame packet
  | _ => True

/-! ### The frame of a zone -/

/-- The bytes of a frame that its checksum covers. -/
structure Built (z : ZoneProperties) (frame : ℕ → Byte) : Prop where
  length : frame 2 = 10
  message : ∀ i < 8, frame (3 + i) = (rampMessage z).getD i 0

section Frame

variable {z : ZoneProperties} {frame packet : ℕ → Byte}

theorem built_buildRamp {getZoneProperties : Byte → Option ZoneProperties} {zoneIdx : Byte}
    (hz : getZoneProperties zoneIdx = some z) (purgeTime currentTime : Dword)
    (payload : ℕ → Byte) (q : SentQueue) :
    Built z (buildRamp getZoneProperties purgeTime currentTime payload zoneIdx q).1 := by
  have hframe := rampFrame_buildRamp hz purgeTime currentTime payload q 0
  unfold rampFrame at hframe
  obtain ⟨-, hframe⟩ := List.cons.inj hframe
  obtain ⟨hlength, hframe⟩ := List.cons.inj hframe
  obtain ⟨-, hmessage⟩ := List.cons.inj hframe
  refine ⟨hlength, fun i hi => ?_⟩
  rw [hlength] at hmessage
  have hbyte := congrArg (fun bytes => bytes[i]?) hmessage
  have hrange : i < (10 : Byte).toNat := Nat.lt_trans hi (by decide)
  simp only [List.getElem?_map, List.getElem?_range hrange, Option.map_some,
    List.getElem?_append_left (show i < (rampMessage z).length from hi)] at hbyte
  rw [List.getD_eq_getElem?_getD, ← hbyte]
  rfl

/-- **A frame that fits carries what is recorded.** -/
theorem rampContent_of_built (hbuilt : Built z frame) (hfits : FrameFits z) :
    rampContent frame = (⟨z.buildingId, z.houseId, z.groupId⟩, z.powerLevel) := by
  have h4 : frame 4 = addressByte0 z.buildingId z.houseId := hbuilt.message 1 (by decide)
  have h5 : frame 5 = addressByte1 z.houseId z.groupId := hbuilt.message 2 (by decide)
  have h6 : frame 6 = addressByte2 z.groupId := hbuilt.message 3 (by decide)
  have h8 : frame 8 = levelByte z := hbuilt.message 5 (by decide)
  have hlevel : percentOfPower (levelByte z) = z.powerLevel := by
    have hfit := hfits.powerLevel
    unfold levelByte
    split at hfit
    · rename_i hon
      rw [if_pos hon, percentOfPower_powerOfPercent hfit]
    · rename_i hoff
      rw [if_neg hoff, hfit]
      rfl
  rw [rampContent, h8, hlevel]
  simp only [readAddress, Reading.value_bind, Reading.value_pure, h4, h5, h6,
    buildingId_decode hfits.buildingId, houseId_decode, groupId_decode hfits.groupId]

/-- The fields of a header that an echo keeps. -/
theorem header_eq {a b : Byte} (h : a &&& 0xfc = b &&& 0xfc) :
    topdogFamilyOf a = topdogFamilyOf b ∧ topdogAddressModeOf a = topdogAddressModeOf b := by
  have hmask (m : Byte) (hm : 0xfc &&& m = m) : a &&& m = b &&& m := by
    rw [← hm, ← BitVec.and_assoc, ← BitVec.and_assoc, h]
  unfold topdogFamilyOf topdogAddressModeOf
  exact ⟨by rw [hmask 0xe0 rfl], by rw [hmask 0x18 rfl]⟩

/-- **An echo is a ramp**, with the address and the level of the frame. -/
theorem IsEcho.isRampPacket (hecho : IsEcho frame packet) (hbuilt : Built z frame) :
    IsRampPacket packet ∧ SameRamp frame packet := by
  obtain ⟨hlength, -, hheader, hbody, hcrc, hcomplement⟩ := hecho
  rw [hbuilt.length] at hlength hbody hcrc hcomplement
  have hbyte (i : ℕ) (hi : i < 11) (h4 : 4 ≤ i) : packet i = frame i := hbody i hi h4
  have h3 : frame 3 = rampHeader := hbuilt.message 0 (by decide)
  have h5 : frame 5 = addressByte1 z.houseId z.groupId := hbuilt.message 2 (by decide)
  have h7 : frame 7 = rampFunctionByte := hbuilt.message 4 (by decide)
  rw [h3] at hheader
  obtain ⟨hfamily, hmode⟩ := header_eq hheader
  refine ⟨⟨?_, ?_, ?_, ?_⟩, ?_⟩
  · have hf1 : topdogFamilyOf rampHeader ≠ topdogF1 := by decide
    have hf2 : topdogFamilyOf rampHeader = topdogF2 ∨
        topdogFamilyOf rampHeader = topdogCadir := by decide
    have hsize : crcSize 10 2 = 8 := by decide
    have hcrc : packet 11 = updateCRC8 0 (fun i => packet (3 + i)) 8 := hcrc
    have hcomplement : packet 12 = ~~~ packet 11 := hcomplement
    rw [hfamily, hlength, checkPacket, if_neg hf1, if_pos hf2]
    simp only [packetCrc, Reading.value_bind, Reading.value_ite, Reading.value_pure, hsize,
      BitVec.reduceToNat, Nat.reduceAdd, hcrc, hcomplement]
    simp
  · rw [hmode]
    decide
  · rw [hbyte 5 (by decide) (by decide), h5, addressByte1_group]
  · rw [hbyte 7 (by decide) (by decide), h7]
    decide
  · simp only [SameRamp, rampContent, readAddress, Reading.value_bind, Reading.value_pure,
      hbyte 4 (by decide) (by decide), hbyte 5 (by decide) (by decide),
      hbyte 6 (by decide) (by decide), hbyte 8 (by decide) (by decide)]

end Frame

/-! ### What becomes of a ramp -/

section Packet

variable {s : Receiver}

/-- **What becomes of a ramp**, whatever its header. -/
theorem processReceivedPacket_rampPacket (h : IsRampPacket s.receivedPacket)
    (hmtm : s.manufacturingTestModeFlag = false) :
    (processReceivedPacket s).value.2 =
      let content := rampContent s.receivedPacket
      if (isMessageARepeat content.1.buildingId content.1.houseId content.1.groupId content.2
          (timeToLiveOf (s.receivedPacket 3)) s.sentQueue).1 then []
      else
        [.handleRampReceived content.1.buildingId content.1.houseId content.1.groupId content.2
          (s.receivedPacket 10)] := by
  have hcommand : ∃ cmd, (readCommand s.receivedPacket).value = (cmd, 8) ∧
      Command.ofWord cmd = some .ramp := by
    simp only [readCommand, Reading.value_bind, Reading.value_ite, Reading.value_pure]
    obtain hcmd | hcmd := h.command
    · rw [hcmd]
      exact ⟨_, if_neg (by decide), by decide⟩
    · rw [hcmd]
      exact ⟨_, if_neg (by decide), by decide⟩
  obtain ⟨cmd, hread, hramp⟩ := hcommand
  simp only [processReceivedPacket, processValidPacket, processCommand, rampContent,
    Reading.value_bind, Reading.value_ite, Reading.value_pure, h.valid, if_true, hmtm, hread,
    hramp, Bool.false_eq_true, if_false, h.mode, h.group, Nat.reduceAdd]
  exact apply_ite Prod.snd ..

/-- In manufacturing test mode it is reported. -/
theorem processReceivedPacket_report (h : IsRampPacket s.receivedPacket)
    (hmtm : s.manufacturingTestModeFlag = true) : ∃ signalStrength packetHeader packetData,
    (processReceivedPacket s).value.2 =
      [.mtmReceivedRFPacket signalStrength packetHeader packetData] := by
  simp only [processReceivedPacket, Reading.value_bind, Reading.value_pure, h.valid, if_true, hmtm]
  exact ⟨_, _, _, rfl⟩

/-- **Receiving a packet leaves the ring unchanged**, if its indices make sense. -/
theorem sentQueue_processReceivedPacket (hq : SentRing.Valid s.sentQueue) :
    (processReceivedPacket s).value.1.sentQueue = s.sentQueue := by
  have hcommand (timeToLive : Byte) (a : Address) (packIdx : ℕ) (c : Command) :
      (processCommand s timeToLive a packIdx c).value.1.sentQueue = s.sentQueue := by
    cases c with
    | ramp =>
      have hsearch := (SentRing.isMessageARepeat_spec hq a.buildingId a.houseId a.groupId
        (percentOfPower (s.receivedPacket packIdx)) timeToLive).2.1
      rw [SentRing.value_isMessageARepeat] at hsearch
      simp only [processCommand, Reading.value_bind, Reading.value_ite]
      split <;> exact hsearch
    | status => rfl
    | sceneControllerMasterOff | sceneRequested | sceneAdjust =>
      simp only [processCommand, Reading.value_bind, Reading.value_ite]
      split <;> rfl
  simp only [processReceivedPacket, processValidPacket, Reading.value_bind, Reading.value_ite]
  split
  · split
    · rfl
    · split
      · split
        · split
          · exact hcommand ..
          · rfl
        · rfl
      · rfl
  · rfl

end Packet

/-! ### Invariants -/

variable {s : State} {packet : ℕ → Byte}

/-- The ring and the ramps that were built belong together. -/
structure Inv (s : State) : Prop where
  /-- The indices are inside the ring. -/
  valid : SentRing.Valid s.receiver.sentQueue
  /-- The frames are those of the zones. -/
  built : ∀ p ∈ s.sent, Built p.zoneProperties p.frame
  /-- They carry what was recorded. -/
  fits : ∀ p ∈ s.sent, FrameFits p.zoneProperties
  /-- What is in the ring was recorded. -/
  recorded : ∀ m ∈ contents s.receiver.sentQueue, ∃ p ∈ s.sent, p.entry = m
  /-- What was recorded in the last seconds is in the ring. -/
  live : SentRing.Live s.ring

/-- **The record of a ramp matches** what has the address and the level of its frame. -/
theorem Inv.matches_iff (h : Inv s) {p : Sent} (hp : p ∈ s.sent) :
    SentRing.Matches (rampContent packet).1.buildingId (rampContent packet).1.houseId
        (rampContent packet).1.groupId (rampContent packet).2 p.entry ↔
      SameRamp p.frame packet := by
  rw [SameRamp, rampContent_of_built (h.built p hp) (h.fits p hp)]
  obtain ⟨⟨buildingId, houseId, groupId⟩, level⟩ := rampContent packet
  simp only [SentRing.Matches, Sent.entry, Prod.mk.injEq, Address.mk.injEq]
  constructor
  · rintro ⟨hbuilding, hhouse, hgroup, hlevel⟩
    exact ⟨⟨hbuilding, hhouse, hgroup⟩, hlevel⟩
  · rintro ⟨⟨hbuilding, hhouse, hgroup⟩, hlevel⟩
    exact ⟨hbuilding, hhouse, hgroup, hlevel⟩

/-- **The ramps that are taken for repeats**: they have less than two hops to go, and the address
and the level of a ramp in the ring. -/
theorem Inv.calls_eq_nil_iff (h : Inv s) (hpacket : IsRampPacket packet)
    (hmtm : s.receiver.manufacturingTestModeFlag = false) :
    s.calls packet = [] ↔ timeToLiveOf (packet 3) < 2 ∧
      ∃ p ∈ s.sent, p.entry ∈ contents s.receiver.sentQueue ∧ SameRamp p.frame packet := by
  have hfound := (SentRing.isMessageARepeat_spec h.valid (rampContent packet).1.buildingId
    (rampContent packet).1.houseId (rampContent packet).1.groupId (rampContent packet).2
    (timeToLiveOf (packet 3))).2.2
  rw [SentRing.value_isMessageARepeat] at hfound
  have hcalls := processReceivedPacket_rampPacket (s := s.received packet) hpacket hmtm
  have hnil : s.calls packet = [] ↔ (isMessageARepeat (rampContent packet).1.buildingId
      (rampContent packet).1.houseId (rampContent packet).1.groupId (rampContent packet).2
      (timeToLiveOf (packet 3)) s.receiver.sentQueue).1 = true := by
    rw [State.calls, hcalls]
    exact ite_eq_left_iff.trans (by simp [State.received])
  rw [hnil, hfound]
  refine and_congr_right fun _ => ?_
  constructor
  · rintro ⟨m, hm, hmatch⟩
    obtain ⟨p, hp, rfl⟩ := h.recorded m hm
    exact ⟨p, hp, hm, (h.matches_iff hp).1 hmatch⟩
  · rintro ⟨p, hp, hm, hsame⟩
    exact ⟨p.entry, hm, (h.matches_iff hp).2 hsame⟩

/-- A ramp of the last seconds is in the ring. -/
theorem Inv.mem_contents (h : Inv s) {p : Sent} (hp : p ∈ s.sent) (hrecent : Recent s p) :
    p.entry ∈ contents s.receiver.sentQueue :=
  (h.live (p.time, p.entry) (List.mem_map_of_mem hp)).2.2 hrecent

/-- **A packet is treated as it should be** exactly if it is not mistaken for an old ramp. -/
theorem Inv.recognised_iff (h : Inv s) (packet : ℕ → Byte) :
    Recognised s packet ↔ ReceiveFits s (.receive packet) := by
  constructor
  · intro hrecognised hmtm hpacket httl p hp hmem hsame
    by_contra hnone
    refine hrecognised.other hpacket (fun p' hp' hrecent hsame' => hnone ⟨p', hp', hrecent, hsame'⟩)
      ((h.calls_eq_nil_iff hpacket hmtm).2 ⟨httl, p, hp, hmem, hsame⟩)
  · intro hfits
    refine ⟨fun i p hi _ hrecent hecho => ?_, fun hpacket hother hnil => ?_⟩
    · have hp : p ∈ s.sent := List.mem_of_getElem? hi
      obtain ⟨hpacket, hsame⟩ := hecho.isRampPacket (h.built p hp)
      unfold Ignored
      cases hmtm : s.receiver.manufacturingTestModeFlag with
      | false =>
        rw [(h.calls_eq_nil_iff hpacket hmtm).2
          ⟨hecho.timeToLive, p, hp, h.mem_contents hp hrecent, hsame⟩]
        exact fun call hcall => absurd hcall List.not_mem_nil
      | true =>
        obtain ⟨signalStrength, packetHeader, packetData, hreport⟩ :=
          processReceivedPacket_report (s := s.received packet) hpacket hmtm
        rw [State.calls, hreport]
        intro call hcall
        exact ⟨rfl, _, _, _, List.mem_singleton.1 hcall⟩
    · cases hmtm : s.receiver.manufacturingTestModeFlag with
      | false =>
        obtain ⟨httl, p, hp, hmem, hsame⟩ := (h.calls_eq_nil_iff hpacket hmtm).1 hnil
        obtain ⟨p', hp', hrecent, hsame'⟩ := hfits hmtm hpacket httl p hp hmem hsame
        exact hother p' hp' hrecent hsame'
      | true =>
        obtain ⟨_, _, _, hreport⟩ :=
          processReceivedPacket_report (s := s.received packet) hpacket hmtm
        rw [State.calls, hreport] at hnil
        cases hnil

/-- To build a ramp is to add a message to the ring. -/
theorem ring_buildRamp {getZoneProperties : Byte → Option ZoneProperties} {zoneIdx : Byte}
    {z : ZoneProperties} (hz : getZoneProperties zoneIdx = some z) (payload : ℕ → Byte)
    (delay : ℕ) :
    (next s (.buildRamp getZoneProperties zoneIdx payload delay)).ring =
      (SentRing.perform s.ring (.add (some z) delay)).value := by
  simp only [SentRing.perform, Logged.value_bind, Logged.value_pure,
    SentRing.value_addToSentMessageQueue, State.ring, next, hz, Rf.buildRamp, List.map_cons]
  rfl

/-- **A step that fits keeps the ring and the ramps together.** -/
theorem Inv.next (h : Inv s) {e : Event} (hfits : SendFits s e) : Inv (next s e) := by
  cases e with
  | tick seconds =>
    exact ⟨h.valid, h.built, h.fits, h.recorded,
      h.live.step h.valid (e := .tick seconds) trivial⟩
  | setManufacturingTestMode flag => exact ⟨h.valid, h.built, h.fits, h.recorded, h.live⟩
  | receive packet =>
    have hqueue := sentQueue_processReceivedPacket (s := s.received packet) h.valid
    have hqueue : (Echoes.next s (.receive packet)).receiver.sentQueue = s.receiver.sentQueue :=
      hqueue
    have hring : (Echoes.next s (.receive packet)).ring = s.ring := by
      rw [State.ring, hqueue]
      rfl
    exact ⟨by rw [hqueue]; exact h.valid, h.built, h.fits,
      by rw [hqueue]; exact h.recorded, by rw [hring]; exact h.live⟩
  | buildRamp getZoneProperties zoneIdx payload delay =>
    cases hz : getZoneProperties zoneIdx with
    | none =>
      have hnext : Echoes.next s (.buildRamp getZoneProperties zoneIdx payload delay) =
          Echoes.next s (.tick delay) := by
        simp only [Echoes.next, Rf.buildRamp, hz]
      rw [hnext]
      exact ⟨h.valid, h.built, h.fits, h.recorded,
        h.live.step h.valid (e := .tick delay) trivial⟩
    | some z =>
      obtain ⟨hframe, hroom⟩ := hfits z hz
      have hring := ring_buildRamp (s := s) hz payload delay
      have hqueue :
          contents (Echoes.next s (.buildRamp getZoneProperties zoneIdx payload
            delay)).receiver.sentQueue =
          s.ring.live ++ [Sent.entry ⟨s.time + delay, z, payload⟩] := by
        have hadd := SentRing.contents_perform_add (s := s.ring) h.valid (some z) delay
        rw [if_pos hroom, ← hring] at hadd
        exact hadd
      have hsent : (Echoes.next s (.buildRamp getZoneProperties zoneIdx payload delay)).sent =
          ⟨s.time + delay, z, (Rf.buildRamp getZoneProperties (clock s.time)
            (clock (s.time + delay)) payload zoneIdx s.receiver.sentQueue).1⟩ :: s.sent := by
        simp only [Echoes.next, hz]
      refine ⟨?_, ?_, ?_, ?_, ?_⟩
      · have hvalid := (SentRing.inside_and_valid (s := s.ring) h.valid (.add (some z) delay)).2
        rw [← hring] at hvalid
        exact hvalid
      · rw [hsent, List.forall_mem_cons]
        exact ⟨built_buildRamp hz .., h.built⟩
      · rw [hsent, List.forall_mem_cons]
        exact ⟨hframe, h.fits⟩
      · intro m hm
        rw [hqueue, List.mem_append, List.mem_singleton] at hm
        rw [hsent]
        obtain hm | rfl := hm
        · obtain ⟨p, hp, hentry⟩ := h.recorded m ((List.dropWhile_sublist _).subset hm)
          exact ⟨p, List.mem_cons_of_mem _ hp, hentry⟩
        · exact ⟨_, List.mem_cons_self, rfl⟩
      · rw [hring]
        exact h.live.step h.valid (e := .add (some z) delay) hroom

theorem inv_of_starts (h : Starts s) : Inv s := by
  obtain ⟨hread, hwrite, hsent⟩ := h
  have hnone : contents s.receiver.sentQueue = [] := by
    rw [contents, SentRing.count, hread, hwrite]
    rfl
  refine ⟨⟨by rw [hread]; decide, by rw [hwrite]; decide⟩, ?_, ?_, ?_, ?_⟩
  · rw [hsent]
    exact fun p hp => absurd hp List.not_mem_nil
  · rw [hsent]
    exact fun p hp => absurd hp List.not_mem_nil
  · rw [hnone]
    exact fun m hm => absurd hm List.not_mem_nil
  · unfold SentRing.Live State.ring
    rw [hsent]
    exact fun p hp => absurd hp List.not_mem_nil

/-- **The runs in which echoes, and nothing else, are taken for repeats**: if each ramp that is
built fits, they are those in which no packet is mistaken for an old ramp. -/
theorem recognises_iff (hstart : Starts s) {es : List Event}
    (hsends : machine.AllSteps SendFits s es) :
    machine.AllSteps Recognises s es ↔ machine.AllSteps ReceiveFits s es := by
  refine Machine.allSteps_congr_of_allSteps (I := Inv) ?_ ?_ (inv_of_starts hstart) hsends
  · rintro s e s' h hfits hs
    cases hs
    exact h.next hfits
  · intro s e h
    cases e with
    | receive packet => exact h.recognised_iff packet
    | tick _ | buildRamp _ _ _ _ | setManufacturingTestMode _ => exact Iff.rfl

/-- What a device that repeats a frame makes of it, with one hop to go. -/
def echoOf (frame : ℕ → Byte) : ℕ → Byte :=
  let message := fun i => if i = 3 then (frame 3 &&& 0xfc) ||| 1 else frame i
  let crc := updateCRC8 0 (fun i => message (3 + i)) 8
  fun i =>
    if i = 1 then frame 2 else if i = 11 then crc else if i = 12 then ~~~crc else message i

/-- Nothing has been received. -/
def start : State := ⟨Receiver.start, 0, []⟩

/-- A lamp at half of its level. -/
def lamp : ZoneProperties := SentRing.exampleLamp

/-- The lamp, to be off. -/
def lampOff : ZoneProperties := { lamp with targetState := false }

/-- The ramp of a zone is built in an empty buffer. -/
def build (z : ZoneProperties) : Event := .buildRamp (fun _ => some z) 0 (fun _ => 0) 0

/-- The ramp of a zone, and its echo three seconds later. -/
def echoRun (z : ZoneProperties) : List Event :=
  [build z, .tick 3, .receive (echoOf (buildRamp (fun _ => some z) 0 0 (fun _ => 0) 0
    start.receiver.sentQueue).1)]

theorem recognises_iff_lamp :
    machine.AllSteps Recognises start (echoRun lamp) ↔
      machine.AllSteps ReceiveFits start (echoRun lamp) := by
  refine recognises_iff ⟨rfl, rfl, rfl⟩ ?_
  refine .cons rfl ?_ (.cons rfl trivial (.cons rfl trivial trivial))
  rintro z ⟨⟩
  exact ⟨⟨by decide, by decide, by decide⟩, by decide⟩

/-- **The echo of a ramp that switches a lamp off** is taken for a ramp of another device. -/
theorem not_recognises :
    ¬ ∀ s es, Starts s → machine.AllSteps Recognises s es := by
  intro h
  have hrun := h start (echoRun lampOff) ⟨rfl, rfl, rfl⟩
  obtain ⟨-, hrun⟩ := hrun _ rfl
  obtain ⟨-, hrun⟩ := hrun _ rfl
  obtain ⟨hrecognised, -⟩ := hrun _ rfl
  have hignored := hrecognised.echo 0 _ rfl (by decide) (by decide)
    ⟨rfl, by decide +kernel, by decide +kernel, by decide +kernel, by decide +kernel,
      by decide +kernel⟩
  have hcalls : (next (next start (build lampOff)) (.tick 3)).calls
      (echoOf (buildRamp (fun _ => some lampOff) 0 0 (fun _ => 0) 0
        start.receiver.sentQueue).1) = [.handleRampReceived 1 2 7 0 0] := by
    decide +kernel
  obtain ⟨hmtm, -⟩ := hignored (.handleRampReceived 1 2 7 0 0) (by
    rw [hcalls]
    exact List.mem_singleton_self _)
  cases hmtm

end Echoes

end Rf

end Lcm
