import Lcm.Memory
import Lcm.Zones.Properties

/-!
# The queue of sent ramp messages

The transmit task records every ramp it sends in a ring of `MAX_NUMBER_OF_SENT_MESSAGES`
entries; the receive task compares a ramp with a low time-to-live against the ring to recognise
its own message repeated by another device.
-/

namespace Lcm

namespace Rf

/-- `MAX_NUMBER_OF_SENT_MESSAGES` -/
def maxNumberOfSentMessages : ℕ := 100

/-- `SENT_MESSAGE_PURGE_SECONDS` -/
def sentMessagePurgeSeconds : Dword := 5

/-- `sent_message` -/
structure SentMessage where
  /-- The seconds of `timeSent`. -/
  timeSent : Dword
  /-- The group the ramp went to. -/
  groupId : Word
  /-- The building the ramp went to. -/
  buildingId : Byte
  /-- The house the ramp went to. -/
  houseId : Byte
  /-- The level of the zone when the ramp was sent. -/
  powerLevel : Byte

/-- The ring `sentMessages` with its two indices. -/
structure SentQueue where
  /-- The entries. -/
  sentMessages : ℕ → SentMessage
  /-- The oldest entry. -/
  sentMessageReadIndex : Byte
  /-- The next free entry. -/
  sentMessageWriteIndex : Byte

/-- The index after `i` in the ring. -/
def nextIndex (i : Byte) : Byte := BitVec.ofNat 8 ((i.toNat + 1) % maxNumberOfSentMessages)

/-- `GetNumItemsInSentMessageQueue`: the number of entries, and the queue, which is reset when
the indices make no sense. -/
def getNumItemsInSentMessageQueue (q : SentQueue) : ℕ × SentQueue :=
  let numItemsInQueue : Byte :=
    if q.sentMessageWriteIndex ≥ q.sentMessageReadIndex then
      q.sentMessageWriteIndex - q.sentMessageReadIndex
    else
      BitVec.ofNat 8 maxNumberOfSentMessages - (q.sentMessageReadIndex - q.sentMessageWriteIndex)
  if numItemsInQueue.toNat > maxNumberOfSentMessages then
    (0, { q with sentMessageWriteIndex := 0, sentMessageReadIndex := 0 })
  else
    (numItemsInQueue.toNat, q)

/-- The loop of `ClearMessagesFromSentQueue` over at most `numItemsToRead` entries: the read
index after it. -/
def purgeLoop (currentTime : Dword) (sentMessages : ℕ → SentMessage)
    (currentIndex readIndex : Byte) : (numItemsToRead : ℕ) → Byte
  | 0 => readIndex
  | n + 1 =>
    if currentTime - (sentMessages currentIndex.toNat).timeSent > sentMessagePurgeSeconds then
      purgeLoop currentTime sentMessages (nextIndex currentIndex) (nextIndex readIndex) n
    else
      readIndex

/-- `ClearMessagesFromSentQueue` -/
def clearMessagesFromSentQueue (currentTime : Dword) (q : SentQueue) : SentQueue :=
  let (numItemsToRead, q) := getNumItemsInSentMessageQueue q
  { q with
    sentMessageReadIndex := purgeLoop currentTime q.sentMessages q.sentMessageReadIndex
      q.sentMessageReadIndex numItemsToRead }

/-- `AddToSentMessageQueue`, with the times of its two readings of the clock.  Without zone
properties the entry keeps the ids it had. -/
def addToSentMessageQueue (purgeTime currentTime : Dword) (zoneProperties : Option ZoneProperties)
    (q : SentQueue) : SentQueue :=
  let (numItemsInQueue, q) := getNumItemsInSentMessageQueue (clearMessagesFromSentQueue purgeTime q)
  if numItemsInQueue < maxNumberOfSentMessages then
    let w := q.sentMessageWriteIndex
    let entry : SentMessage :=
      match zoneProperties with
      | some z => ⟨currentTime, z.groupId, z.buildingId, z.houseId, z.powerLevel⟩
      | none => { q.sentMessages w.toNat with timeSent := currentTime }
    { q with
      sentMessages := Function.update q.sentMessages w.toNat entry
      sentMessageWriteIndex := nextIndex w }
  else q

/-- The loop of `IsMessageARepeat` over `numItemsToRead` entries. -/
def repeatLoop (sentMessages : ℕ → SentMessage) (buildingId houseId : Byte) (groupId : Word)
    (powerLevel : Byte) (currentIndex : Byte) : (numItemsToRead : ℕ) → Bool
  | 0 => false
  | n + 1 =>
    let m := sentMessages currentIndex.toNat
    if m.buildingId = buildingId ∧ m.houseId = houseId ∧ m.groupId = groupId ∧
        m.powerLevel = powerLevel then
      true
    else
      repeatLoop sentMessages buildingId houseId groupId powerLevel (nextIndex currentIndex) n

/-- `IsMessageARepeat`: whether the ramp is in the queue, and the queue, which counting its
entries may reset. -/
def isMessageARepeat (buildingId houseId : Byte) (groupId : Word) (powerLevel timeToLive : Byte)
    (q : SentQueue) : Bool × SentQueue :=
  if timeToLive < 2 then
    let (numItemsToRead, q) := getNumItemsInSentMessageQueue q
    (repeatLoop q.sentMessages buildingId houseId groupId powerLevel q.sentMessageReadIndex
      numItemsToRead, q)
  else
    (false, q)

/-- A ramp with a time-to-live of two hops or more is never taken for a repeat. -/
theorem isMessageARepeat_of_two_le {timeToLive : Byte} (h : 2 ≤ timeToLive) (b hs : Byte)
    (g : Word) (p : Byte) (q : SentQueue) :
    isMessageARepeat b hs g p timeToLive q = (false, q) := by
  rw [isMessageARepeat, if_neg (BitVec.not_lt.2 h)]

end Rf

end Lcm
