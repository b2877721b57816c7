import Lcm.Ring
import Lcm.Rf.SentMessages
import Lcm.Run.Basic
import Lcm.Run.Logged
import Mathlib.Data.List.TakeWhile

/-!
# The ring of sent messages as a queue

The ring has a read and a write index and nothing that tells whether it is full or empty: with
equal indices it is empty.  The test for space counts up to 100 messages, but the hundredth one
makes the indices equal, and all of them are lost.

## Main definitions

* `contents` : the messages in the ring.
* `machine` : messages that are sent and received, while the time goes on.
* `Refines` : a step does to the contents what it does to a queue.
* `Repeats` : what was sent in the last seconds is recognised as a repeat.
* `Room` : an addition finds less than 99 messages.

## Main results

* `contents_add` : an addition with room appends a message, and one without loses all of them.
* `sentMessages_refine` : the indices are always inside the ring, and it is a queue exactly as long
  as there is room.
-/

namespace Lcm

namespace Rf

namespace SentRing

/-! ### The accesses to the ring -/

/-- The loop of `ClearMessagesFromSentQueue`, with the entries that it looks at. -/
def purgeLoop (currentTime : Dword) (sentMessages : ℕ → SentMessage)
    (currentIndex readIndex : Byte) : ℕ → Logged ℕ Byte
  | 0 => pure readIndex
  | n + 1 => do
    Logged.touch currentIndex.toNat
    if currentTime - (sentMessages currentIndex.toNat).timeSent > sentMessagePurgeSeconds then
      purgeLoop currentTime sentMessages (nextIndex currentIndex) (nextIndex readIndex) n
    else
      pure readIndex

/-- `ClearMessagesFromSentQueue` -/
def clearMessagesFromSentQueue (currentTime : Dword) (q : SentQueue) : Logged ℕ SentQueue := do
  let (numItemsToRead, q) := getNumItemsInSentMessageQueue q
  let readIndex ← purgeLoop currentTime q.sentMessages q.sentMessageReadIndex
    q.sentMessageReadIndex numItemsToRead
  pure { q with sentMessageReadIndex := readIndex }

/-- The entry that is written over an old one. -/
def newEntry (currentTime : Dword) (zoneProperties : Option ZoneProperties) (old : SentMessage) :
    SentMessage :=
  match zoneProperties with
  | some z => ⟨currentTime, z.groupId, z.buildingId, z.houseId, z.powerLevel⟩
  | none => { old with timeSent := currentTime }

/-- The part of `AddToSentMessageQueue` for which there must be space. -/
def append (currentTime : Dword) (zoneProperties : Option ZoneProperties) (q : SentQueue) :
    Logged ℕ SentQueue := do
  let w := q.sentMessageWriteIndex
  Logged.touch w.toNat
  pure { q with
    sentMessages := Function.update q.sentMessages w.toNat
      (newEntry currentTime zoneProperties (q.sentMessages w.toNat))
    sentMessageWriteIndex := nextIndex w }

/-- `AddToSentMessageQueue` -/
def addToSentMessageQueue (purgeTime currentTime : Dword) (zoneProperties : Option ZoneProperties)
    (q : SentQueue) : Logged ℕ SentQueue := do
  let q ← clearMessagesFromSentQueue purgeTime q
  let (numItemsInQueue, q) := getNumItemsInSentMessageQueue q
  if numItemsInQueue < maxNumberOfSentMessages then append currentTime zoneProperties q
  else pure q

/-- The loop of `IsMessageARepeat`. -/
def repeatLoop (sentMessages : ℕ → SentMessage) (buildingId houseId : Byte) (groupId : Word)
    (powerLevel : Byte) (currentIndex : Byte) : ℕ → Logged ℕ Bool
  | 0 => pure false
  | n + 1 => do
    let m := sentMessages currentIndex.toNat
    Logged.touch currentIndex.toNat
    if m.buildingId = buildingId ∧ m.houseId = houseId ∧ m.groupId = groupId ∧
        m.powerLevel = powerLevel then
      pure true
    else
      repeatLoop sentMessages buildingId houseId groupId powerLevel (nextIndex currentIndex) n

/-- `IsMessageARepeat` -/
def isMessageARepeat (buildingId houseId : Byte) (groupId : Word) (powerLevel timeToLive : Byte)
    (q : SentQueue) : Logged ℕ (Bool × SentQueue) :=
  if timeToLive < 2 then do
    let (numItemsToRead, q) := getNumItemsInSentMessageQueue q
    let messageRepeated ← repeatLoop q.sentMessages buildingId houseId groupId powerLevel
      q.sentMessageReadIndex numItemsToRead
    pure (messageRepeated, q)
  else
    pure (false, q)

variable {q : SentQueue}

theorem value_purgeLoop (currentTime : Dword) (sentMessages : ℕ → SentMessage)
    (currentIndex readIndex : Byte) (n : ℕ) :
    (purgeLoop currentTime sentMessages currentIndex readIndex n).value =
      Rf.purgeLoop currentTime sentMessages currentIndex readIndex n := by
  induction n generalizing currentIndex readIndex with
  | zero => rfl
  | succ n ih =>
    rw [purgeLoop, Rf.purgeLoop, Logged.value_bind]
    split_ifs
    · exact ih _ _
    · rfl

theorem value_clearMessagesFromSentQueue (currentTime : Dword) (q : SentQueue) :
    (clearMessagesFromSentQueue currentTime q).value =
      Rf.clearMessagesFromSentQueue currentTime q := by
  simp only [clearMessagesFromSentQueue, Rf.clearMessagesFromSentQueue, Logged.value_bind,
    Logged.value_pure, value_purgeLoop]

theorem value_addToSentMessageQueue (purgeTime currentTime : Dword)
    (zoneProperties : Option ZoneProperties) (q : SentQueue) :
    (addToSentMessageQueue purgeTime currentTime zoneProperties q).value =
      Rf.addToSentMessageQueue purgeTime currentTime zoneProperties q := by
  simp only [addToSentMessageQueue, Rf.addToSentMessageQueue, Logged.value_bind,
    value_clearMessagesFromSentQueue]
  split_ifs
  · rfl
  · rfl

theorem value_isMessageARepeat (buildingId houseId : Byte) (groupId : Word)
    (powerLevel timeToLive : Byte) (q : SentQueue) :
    (isMessageARepeat buildingId houseId groupId powerLevel timeToLive q).value =
      Rf.isMessageARepeat buildingId houseId groupId powerLevel timeToLive q := by
  have hloop : ∀ (a : ℕ → SentMessage) (i : Byte) (n : ℕ),
      (repeatLoop a buildingId houseId groupId powerLevel i n).value =
        Rf.repeatLoop a buildingId houseId groupId powerLevel i n := by
    intro a i n
    induction n generalizing i with
    | zero => rfl
    | succ n ih =>
      rw [repeatLoop, Rf.repeatLoop, Logged.value_bind]
      split_ifs
      · rfl
      · exact ih _
  rw [isMessageARepeat, Rf.isMessageARepeat]
  split_ifs
  · simp only [Logged.value_bind, Logged.value_pure, hloop]
  · rfl

/-! ### The queue in the ring -/

/-- Both indices are inside the ring. -/
structure Valid (q : SentQueue) : Prop where
  /-- The read index. -/
  read : q.sentMessageReadIndex.toNat < maxNumberOfSentMessages
  /-- The write index. -/
  write : q.sentMessageWriteIndex.toNat < maxNumberOfSentMessages

/-- The number of messages between the indices. -/
def count (q : SentQueue) : ℕ :=
  Ring.used maxNumberOfSentMessages q.sentMessageReadIndex.toNat q.sentMessageWriteIndex.toNat

/-- The messages in the ring, the oldest first. -/
def contents (q : SentQueue) : List SentMessage :=
  Ring.items maxNumberOfSentMessages q.sentMessages q.sentMessageReadIndex.toNat (count q)

/-- A message is purged when it is older than five seconds. -/
def expired (currentTime : Dword) (m : SentMessage) : Bool :=
  currentTime - m.timeSent > sentMessagePurgeSeconds

/-- A message is the one that is looked for. -/
def Matches (buildingId houseId : Byte) (groupId : Word) (powerLevel : Byte) (m : SentMessage) :
    Prop :=
  m.buildingId = buildingId ∧ m.houseId = houseId ∧ m.groupId = groupId ∧ m.powerLevel = powerLevel

instance (buildingId houseId : Byte) (groupId : Word) (powerLevel : Byte) :
    DecidablePred (Matches buildingId houseId groupId powerLevel) := fun _ =>
  inferInstanceAs (Decidable (_ ∧ _))

theorem toNat_nextIndex (i : Byte) :
    (nextIndex i).toNat = (i.toNat + 1) % maxNumberOfSentMessages := by
  have hlt : (i.toNat + 1) % maxNumberOfSentMessages < 100 := Nat.mod_lt _ (by decide)
  rw [nextIndex, BitVec.toNat_ofNat, Nat.mod_eq_of_lt (a := _ % maxNumberOfSentMessages) (by omega)]

theorem nextIndex_lt (i : Byte) : (nextIndex i).toNat < maxNumberOfSentMessages := by
  rw [toNat_nextIndex]
  exact Nat.mod_lt _ (by decide)

theorem count_lt (q : SentQueue) : count q < maxNumberOfSentMessages := Ring.used_lt (by decide)

theorem length_contents (q : SentQueue) : (contents q).length = count q := Ring.length_items ..

/-- The number of messages is counted, and the indices stay as they are. -/
theorem getNumItemsInSentMessageQueue_eq (hq : Valid q) :
    getNumItemsInSentMessageQueue q = (count q, q) := by
  have hread : q.sentMessageReadIndex.toNat < 100 := hq.read
  have hwrite : q.sentMessageWriteIndex.toNat < 100 := hq.write
  have hnum : (if q.sentMessageWriteIndex ≥ q.sentMessageReadIndex then
      q.sentMessageWriteIndex - q.sentMessageReadIndex
    else BitVec.ofNat 8 maxNumberOfSentMessages -
      (q.sentMessageReadIndex - q.sentMessageWriteIndex)).toNat = count q := by
    rw [count, Ring.used, maxNumberOfSentMessages]
    split_ifs with hle
    · rw [BitVec.toNat_sub_of_le hle]
      have hle' : q.sentMessageReadIndex.toNat ≤ q.sentMessageWriteIndex.toNat := hle
      omega
    · have hlt : q.sentMessageWriteIndex.toNat < q.sentMessageReadIndex.toNat := by
        exact Nat.lt_of_not_le hle
      rw [BitVec.toNat_sub, BitVec.toNat_sub]
      simp only [BitVec.toNat_ofNat]
      omega
  rw [getNumItemsInSentMessageQueue]
  rw [hnum, if_neg (Nat.not_lt.2 (Nat.le_of_lt (count_lt q)))]

/-- The purge drops the messages at the front that are too old, and looks at nothing outside. -/
theorem purgeLoop_spec (currentTime : Dword) (a : ℕ → SentMessage) (r : Byte)
    (hr : r.toNat < maxNumberOfSentMessages) (k : ℕ) :
    (purgeLoop currentTime a r r k).All (· < maxNumberOfSentMessages) ∧
      ∃ j ≤ k, (purgeLoop currentTime a r r k).value.toNat =
          (r.toNat + j) % maxNumberOfSentMessages ∧
        Ring.items maxNumberOfSentMessages a (purgeLoop currentTime a r r k).value.toNat (k - j) =
          (Ring.items maxNumberOfSentMessages a r.toNat k).dropWhile (expired currentTime) := by
  induction k generalizing r with
  | zero => exact ⟨Logged.all_pure _, 0, Nat.le_refl 0, (Nat.mod_eq_of_lt hr).symm, rfl⟩
  | succ k ih =>
    have hfront := Ring.items_succ (k := k) a hr
    by_cases hold : currentTime - (a r.toNat).timeSent > sentMessagePurgeSeconds
    · obtain ⟨haccess, j, hj, hvalue, hitems⟩ := ih (nextIndex r) (nextIndex_lt r)
      have hexpired : expired currentTime (a r.toNat) = true := decide_eq_true hold
      have hloop : purgeLoop currentTime a r r (k + 1) = Logged.touch r.toNat >>= fun _ =>
          purgeLoop currentTime a (nextIndex r) (nextIndex r) k := by
        rw [purgeLoop, if_pos hold]
      rw [hloop, Logged.all_bind, Logged.all_touch, Logged.value_bind]
      refine ⟨⟨hr, haccess⟩, j + 1, by omega, ?_, ?_⟩
      · rw [hvalue, toNat_nextIndex, Nat.mod_add_mod, Nat.add_right_comm, Nat.add_assoc]
      · rw [hfront, List.dropWhile_cons_of_pos hexpired, ← toNat_nextIndex, ← hitems,
          show k + 1 - (j + 1) = k - j by omega]
    · have hfresh : ¬expired currentTime (a r.toNat) = true := fun h => hold (of_decide_eq_true h)
      have hloop : purgeLoop currentTime a r r (k + 1) =
          Logged.touch r.toNat >>= fun _ => pure r := by
        rw [purgeLoop, if_neg hold]
      rw [hloop, Logged.all_bind, Logged.all_touch, Logged.value_bind]
      refine ⟨⟨hr, Logged.all_pure _⟩, 0, Nat.zero_le _, (Nat.mod_eq_of_lt hr).symm, ?_⟩
      rw [hfront, List.dropWhile_cons_of_neg hfresh, ← hfront]
      rfl

/-- **A purge drops the messages at the front that are too old.** -/
theorem clearMessagesFromSentQueue_spec (hq : Valid q) (currentTime : Dword) :
    (clearMessagesFromSentQueue currentTime q).All (· < maxNumberOfSentMessages) ∧
      Valid (clearMessagesFromSentQueue currentTime q).value ∧
      contents (clearMessagesFromSentQueue currentTime q).value =
        (contents q).dropWhile (expired currentTime) ∧
      (clearMessagesFromSentQueue currentTime q).value.sentMessages = q.sentMessages ∧
      (clearMessagesFromSentQueue currentTime q).value.sentMessageWriteIndex =
        q.sentMessageWriteIndex := by
  obtain ⟨haccess, j, hj, hvalue, hitems⟩ :=
    purgeLoop_spec currentTime q.sentMessages q.sentMessageReadIndex hq.read (count q)
  have hclear : clearMessagesFromSentQueue currentTime q =
      purgeLoop currentTime q.sentMessages q.sentMessageReadIndex q.sentMessageReadIndex (count q)
        >>= fun readIndex => pure { q with sentMessageReadIndex := readIndex } := by
    rw [clearMessagesFromSentQueue, getNumItemsInSentMessageQueue_eq hq]
  have hcount : count (clearMessagesFromSentQueue currentTime q).value = count q - j := by
    rw [hclear, Logged.value_bind, Logged.value_pure, count]
    dsimp only
    rw [hvalue, Ring.used_advance hq.read hq.write hj, count]
  refine ⟨?_, ⟨?_, ?_⟩, ?_, by rw [hclear]; rfl, by rw [hclear]; rfl⟩
  · rw [hclear, Logged.all_bind]
    exact ⟨haccess, Logged.all_pure _⟩
  · rw [hclear, Logged.value_bind, Logged.value_pure]
    dsimp only
    rw [hvalue]
    exact Nat.mod_lt _ (by decide)
  · rw [hclear]
    exact hq.write
  · rw [contents, hcount, contents, ← hitems, hclear]
    rfl

/-- The write index moves on: to the next entry, or to the read index. -/
theorem append_spec (hq : Valid q) (currentTime : Dword)
    (zoneProperties : Option ZoneProperties) :
    (append currentTime zoneProperties q).All (· < maxNumberOfSentMessages) ∧
      Valid (append currentTime zoneProperties q).value ∧
      contents (append currentTime zoneProperties q).value =
        if (contents q).length + 1 < maxNumberOfSentMessages then
          contents q ++ [newEntry currentTime zoneProperties
            (q.sentMessages q.sentMessageWriteIndex.toNat)]
        else [] := by
  have hcount : count (append currentTime zoneProperties q).value =
      Ring.used maxNumberOfSentMessages q.sentMessageReadIndex.toNat
        ((q.sentMessageWriteIndex.toNat + 1) % maxNumberOfSentMessages) := by
    rw [← toNat_nextIndex]
    rfl
  refine ⟨?_, ⟨hq.read, nextIndex_lt _⟩, ?_⟩
  · rw [append, Logged.all_bind, Logged.all_touch]
    exact ⟨hq.write, Logged.all_pure _⟩
  · rw [length_contents]
    split_ifs with hroom
    · rw [contents, hcount, Ring.used_succ hq.read hq.write hroom, contents,
        ← Ring.items_push q.sentMessages _ (count_lt q), count, Ring.add_used hq.read hq.write]
      rfl
    · have hfull : count q + 1 = maxNumberOfSentMessages := by
        have hlt := count_lt q
        omega
      rw [contents, hcount, Ring.used_full hq.read hq.write hfull, Ring.items_zero]

/-- **An addition with room appends a message, and one without loses all of them.** -/
theorem contents_add (hq : Valid q) (purgeTime currentTime : Dword)
    (zoneProperties : Option ZoneProperties) :
    (addToSentMessageQueue purgeTime currentTime zoneProperties q).All
        (· < maxNumberOfSentMessages) ∧
      Valid (addToSentMessageQueue purgeTime currentTime zoneProperties q).value ∧
      contents (addToSentMessageQueue purgeTime currentTime zoneProperties q).value =
        if ((contents q).dropWhile (expired purgeTime)).length + 1 < maxNumberOfSentMessages then
          (contents q).dropWhile (expired purgeTime) ++ [newEntry currentTime zoneProperties
            (q.sentMessages q.sentMessageWriteIndex.toNat)]
        else [] := by
  obtain ⟨haccess, hvalid, hcontents, hmessages, hwrite⟩ :=
    clearMessagesFromSentQueue_spec hq purgeTime
  obtain ⟨haccess', hvalid', hcontents'⟩ := append_spec hvalid currentTime zoneProperties
  -- the test for space never fails
  have hadd : addToSentMessageQueue purgeTime currentTime zoneProperties q =
      clearMessagesFromSentQueue purgeTime q >>= fun _ =>
        append currentTime zoneProperties (clearMessagesFromSentQueue purgeTime q).value := by
    refine Logged.ext ?_ ?_
    · rw [addToSentMessageQueue, Logged.value_bind, getNumItemsInSentMessageQueue_eq hvalid]
      dsimp only
      rw [if_pos (count_lt _), Logged.value_bind]
    · rw [addToSentMessageQueue, Logged.log_bind, getNumItemsInSentMessageQueue_eq hvalid]
      dsimp only
      rw [if_pos (count_lt _), Logged.log_bind]
  rw [hmessages, hwrite] at hcontents'
  rw [hadd, Logged.all_bind, Logged.value_bind, ← hcontents]
  exact ⟨⟨haccess, haccess'⟩, hvalid', hcontents'⟩

/-- The search goes through the messages, and looks at nothing outside. -/
theorem repeatLoop_spec (a : ℕ → SentMessage) (buildingId houseId : Byte) (groupId : Word)
    (powerLevel : Byte) (r : Byte) (hr : r.toNat < maxNumberOfSentMessages) (k : ℕ) :
    (repeatLoop a buildingId houseId groupId powerLevel r k).All (· < maxNumberOfSentMessages) ∧
      ((repeatLoop a buildingId houseId groupId powerLevel r k).value = true ↔
        ∃ m ∈ Ring.items maxNumberOfSentMessages a r.toNat k,
          Matches buildingId houseId groupId powerLevel m) := by
  induction k generalizing r with
  | zero => exact ⟨Logged.all_pure _, iff_of_false Bool.false_ne_true fun ⟨_, h, _⟩ => nomatch h⟩
  | succ k ih =>
    obtain ⟨haccess, hfound⟩ := ih (nextIndex r) (nextIndex_lt r)
    rw [Ring.items_succ a hr, ← toNat_nextIndex, repeatLoop]
    simp only [List.mem_cons, exists_eq_or_imp, Logged.all_bind, Logged.all_touch,
      Logged.value_bind]
    by_cases hmatch : (a r.toNat).buildingId = buildingId ∧ (a r.toNat).houseId = houseId ∧
        (a r.toNat).groupId = groupId ∧ (a r.toNat).powerLevel = powerLevel
    · rw [if_pos hmatch]
      exact ⟨⟨hr, Logged.all_pure _⟩, iff_of_true rfl (.inl hmatch)⟩
    · rw [if_neg hmatch, hfound]
      exact ⟨⟨hr, haccess⟩, (or_iff_right hmatch).symm⟩

/-- **A message that was repeated is recognised** if it is in the ring. -/
theorem isMessageARepeat_spec (hq : Valid q) (buildingId houseId : Byte) (groupId : Word)
    (powerLevel timeToLive : Byte) :
    (isMessageARepeat buildingId houseId groupId powerLevel timeToLive q).All
        (· < maxNumberOfSentMessages) ∧
      (isMessageARepeat buildingId houseId groupId powerLevel timeToLive q).value.2 = q ∧
      ((isMessageARepeat buildingId houseId groupId powerLevel timeToLive q).value.1 = true ↔
        timeToLive < 2 ∧ ∃ m ∈ contents q, Matches buildingId houseId groupId powerLevel m) := by
  obtain ⟨haccess, hfound⟩ := repeatLoop_spec q.sentMessages buildingId houseId groupId powerLevel
    q.sentMessageReadIndex hq.read (count q)
  rw [isMessageARepeat, getNumItemsInSentMessageQueue_eq hq]
  split_ifs with httl
  · simp only [Logged.all_bind, Logged.value_bind, Logged.value_pure]
    exact ⟨⟨haccess, Logged.all_pure _⟩, trivial, by rw [hfound, and_iff_right httl]; rfl⟩
  · exact ⟨Logged.all_pure _, rfl, iff_of_false (fun h => (by cases h)) fun h => httl h.1⟩

/-! ### Runs -/

/-- The ring, the time in seconds, and what was sent when. -/
structure State where
  /-- The ring. -/
  queue : SentQueue
  /-- The seconds that have gone by. -/
  time : ℕ
  /-- The messages that were added, with their times. -/
  sent : List (ℕ × SentMessage)

/-- What happens to the ring. -/
inductive Event
  /-- Time goes by. -/
  | tick (seconds : ℕ)
  /-- The messages that are too old are cleared. -/
  | purge
  /-- A message is added; between the two readings of the clock time goes by. -/
  | add (zoneProperties : Option ZoneProperties) (delay : ℕ)
  /-- A message is received. -/
  | receive (buildingId houseId : Byte) (groupId : Word) (powerLevel timeToLive : Byte)

/-- The seconds of the clock. -/
def clock (time : ℕ) : Dword := BitVec.ofNat 32 time

/-- What an event makes of the ring, with the entries that it accesses. -/
def perform (s : State) : Event → Logged ℕ State
  | .tick seconds => pure { s with time := s.time + seconds }
  | .purge => do
    let q ← clearMessagesFromSentQueue (clock s.time) s.queue
    pure { s with queue := q }
  | .add zoneProperties delay => do
    let q ← addToSentMessageQueue (clock s.time) (clock (s.time + delay)) zoneProperties s.queue
    pure ⟨q, s.time + delay, (s.time + delay, newEntry (clock (s.time + delay)) zoneProperties
      (s.queue.sentMessages s.queue.sentMessageWriteIndex.toNat)) :: s.sent⟩
  | .receive buildingId houseId groupId powerLevel timeToLive => do
    let (_, q) ← isMessageARepeat buildingId houseId groupId powerLevel timeToLive s.queue
    pure { s with queue := q }

/-- The ring is empty at first, whatever is in it. -/
def start (sentMessages : ℕ → SentMessage) (time : ℕ) : State := ⟨⟨sentMessages, 0, 0⟩, time, []⟩

/-- Messages that are sent and received. -/
def machine : Machine State Event where
  init s := ∃ sentMessages time, s = start sentMessages time
  step s e := some (perform s e).value

/-- **A queue with a message more.**  When it is full, and it may not have room for one message
more than 99, it may drop the oldest one or refuse the new one. -/
def Adds (before after : List SentMessage) (m : SentMessage) : Prop :=
  (after = before ++ [m] ∧ after.length ≤ maxNumberOfSentMessages) ∨
    (maxNumberOfSentMessages ≤ before.length + 1 ∧ (after = before.tail ++ [m] ∨ after = before))

/-- The messages that are left after a purge. -/
def State.live (s : State) : List SentMessage :=
  (contents s.queue).dropWhile (expired (clock s.time))

/-- **A step does to the contents of the ring what it does to a queue.** -/
def Refines (s : State) (e : Event) : Prop :=
  match e with
  | .tick _ | .receive .. => contents (perform s e).value.queue = contents s.queue
  | .purge => contents (perform s e).value.queue = s.live
  | .add zoneProperties delay =>
    ∃ old, Adds s.live (contents (perform s e).value.queue)
      (newEntry (clock (s.time + delay)) zoneProperties old)

/-- **What was sent in the last seconds is recognised as a repeat**, if another device has repeated
it, so that it has less than two hops to go. -/
def Repeats (s : State) : Prop :=
  ∀ p ∈ s.sent, s.time ≤ p.1 + sentMessagePurgeSeconds.toNat → ∀ timeToLive,
    (isMessageARepeat p.2.buildingId p.2.houseId p.2.groupId p.2.powerLevel timeToLive
      s.queue).value.1 = decide (timeToLive < 2)

/-- **An addition finds less than 99 messages.** -/
def Room (s : State) (e : Event) : Prop :=
  match e with
  | .add _ _ => s.live.length + 1 < maxNumberOfSentMessages
  | _ => True

instance (s : State) : DecidablePred (Room s)
  | .tick _ | .purge | .receive .. => inferInstanceAs (Decidable True)
  | .add _ _ => inferInstanceAs (Decidable (_ < _))

/-- All entries that a step accesses are inside the ring. -/
def Inside (s : State) (e : Event) : Prop := (perform s e).All (· < maxNumberOfSentMessages)

variable {s : State}

theorem queue_purge : (perform s .purge).value.queue =
    (clearMessagesFromSentQueue (clock s.time) s.queue).value := by
  simp only [perform, Logged.value_bind, Logged.value_pure]

theorem queue_add (zoneProperties : Option ZoneProperties) (delay : ℕ) :
    (perform s (.add zoneProperties delay)).value.queue =
      (addToSentMessageQueue (clock s.time) (clock (s.time + delay)) zoneProperties
        s.queue).value := by
  simp only [perform, Logged.value_bind, Logged.value_pure]

theorem queue_receive (buildingId houseId : Byte) (groupId : Word)
    (powerLevel timeToLive : Byte) :
    (perform s (.receive buildingId houseId groupId powerLevel timeToLive)).value.queue =
      (isMessageARepeat buildingId houseId groupId powerLevel timeToLive s.queue).value.2 := by
  simp only [perform, Logged.value_bind, Logged.value_pure]

/-- No step leaves the ring. -/
theorem inside_and_valid (hq : Valid s.queue) (e : Event) :
    Inside s e ∧ Valid (perform s e).value.queue := by
  cases e with
  | tick seconds => exact ⟨Logged.all_pure _, hq⟩
  | purge =>
    obtain ⟨haccess, hvalid, -⟩ := clearMessagesFromSentQueue_spec hq (clock s.time)
    rw [queue_purge, Inside, perform, Logged.all_bind]
    exact ⟨⟨haccess, Logged.all_pure _⟩, hvalid⟩
  | add zoneProperties delay =>
    obtain ⟨haccess, hvalid, -⟩ :=
      contents_add hq (clock s.time) (clock (s.time + delay)) zoneProperties
    rw [queue_add, Inside, perform, Logged.all_bind]
    exact ⟨⟨haccess, Logged.all_pure _⟩, hvalid⟩
  | receive buildingId houseId groupId powerLevel timeToLive =>
    obtain ⟨haccess, hqueue, -⟩ :=
      isMessageARepeat_spec hq buildingId houseId groupId powerLevel timeToLive
    rw [queue_receive, hqueue, Inside, perform, Logged.all_bind]
    exact ⟨⟨haccess, Logged.all_pure _⟩, hq⟩

theorem contents_perform_add (hq : Valid s.queue) (zoneProperties : Option ZoneProperties)
    (delay : ℕ) :
    contents (perform s (.add zoneProperties delay)).value.queue =
      if s.live.length + 1 < maxNumberOfSentMessages then
        s.live ++ [newEntry (clock (s.time + delay)) zoneProperties
          (s.queue.sentMessages s.queue.sentMessageWriteIndex.toNat)]
      else [] := by
  rw [queue_add]
  exact (contents_add hq (clock s.time) (clock (s.time + delay)) zoneProperties).2.2

/-- **A step is one of a queue just if there is room.** -/
theorem refines_iff (hq : Valid s.queue) (e : Event) : Refines s e ↔ Room s e := by
  cases e with
  | tick seconds => exact iff_of_true rfl trivial
  | purge =>
    refine iff_of_true ?_ trivial
    rw [Refines, queue_purge]
    exact (clearMessagesFromSentQueue_spec hq (clock s.time)).2.2.1
  | receive buildingId houseId groupId powerLevel timeToLive =>
    refine iff_of_true ?_ trivial
    rw [Refines, queue_receive, (isMessageARepeat_spec hq buildingId houseId groupId powerLevel
      timeToLive).2.1]
  | add zoneProperties delay =>
    rw [Refines, Room, contents_perform_add hq]
    split_ifs with hroom
    · refine iff_of_true ⟨_, .inl ⟨rfl, ?_⟩⟩ hroom
      rw [List.length_append, List.length_singleton]
      exact Nat.le_of_lt hroom
    · refine iff_of_false ?_ hroom
      rintro ⟨old, ⟨hall, -⟩ | ⟨hfull, htail | hnone⟩⟩
      · exact absurd hall.symm (List.append_ne_nil_of_right_ne_nil _ (List.cons_ne_nil _ _))
      · exact absurd htail.symm (List.append_ne_nil_of_right_ne_nil _ (List.cons_ne_nil _ _))
      · -- the ring was not empty before
        rw [← hnone] at hfull
        exact absurd hfull (by decide)

/-- What was sent in the last seconds is in the ring. -/
def Live (s : State) : Prop :=
  ∀ p ∈ s.sent, p.1 ≤ s.time ∧ p.2.timeSent = clock p.1 ∧
    (s.time ≤ p.1 + sentMessagePurgeSeconds.toNat → p.2 ∈ contents s.queue)

theorem mem_dropWhile {α : Type} {f : α → Bool} {l : List α} {a : α} (ha : a ∈ l)
    (hf : f a = false) : a ∈ l.dropWhile f := by
  rw [← List.takeWhile_append_dropWhile (p := f) (l := l)] at ha
  refine (List.mem_append.1 ha).resolve_left fun htake => ?_
  exact absurd (List.mem_takeWhile_imp htake) (Bool.eq_false_iff.1 hf)

/-- What was sent in the last seconds is not too old for the clock. -/
theorem expired_eq_false {t time : ℕ} {m : SentMessage} (hsent : m.timeSent = clock t)
    (hle : t ≤ time) (hrecent : time ≤ t + sentMessagePurgeSeconds.toNat) :
    expired (clock time) m = false := by
  have hage : (clock time - clock t).toNat = time - t := by
    have hrecent : time ≤ t + 5 := hrecent
    rw [clock, clock, BitVec.toNat_sub, BitVec.toNat_ofNat, BitVec.toNat_ofNat]
    omega
  refine decide_eq_false fun hold => ?_
  rw [hsent] at hold
  have hold : sentMessagePurgeSeconds.toNat < (clock time - clock t).toNat := hold
  omega

/-- What was sent in the last seconds outlives a purge. -/
theorem Live.mem_live (h : Live s) {p : ℕ × SentMessage} (hp : p ∈ s.sent)
    (hrecent : s.time ≤ p.1 + sentMessagePurgeSeconds.toNat) : p.2 ∈ s.live :=
  have ⟨hle, hsent, hmem⟩ := h p hp
  mem_dropWhile (hmem hrecent) (expired_eq_false hsent hle hrecent)

theorem timeSent_newEntry (currentTime : Dword) (zoneProperties : Option ZoneProperties)
    (old : SentMessage) : (newEntry currentTime zoneProperties old).timeSent = currentTime := by
  cases zoneProperties <;> rfl

/-- **A step with room keeps what was sent in the last seconds.** -/
theorem Live.step (h : Live s) (hq : Valid s.queue) {e : Event} (hroom : Room s e) :
    Live (perform s e).value := by
  cases e with
  | tick seconds =>
    intro p hp
    obtain ⟨hle, hsent, hmem⟩ := h p hp
    exact ⟨Nat.le_add_right_of_le hle, hsent, fun hrecent =>
      hmem (Nat.le_trans (Nat.le_add_right _ _) hrecent)⟩
  | purge =>
    intro p hp
    obtain ⟨hle, hsent, -⟩ := h p hp
    refine ⟨hle, hsent, fun hrecent => ?_⟩
    rw [queue_purge, (clearMessagesFromSentQueue_spec hq (clock s.time)).2.2.1]
    exact h.mem_live hp hrecent
  | receive buildingId houseId groupId powerLevel timeToLive =>
    intro p hp
    rw [queue_receive, (isMessageARepeat_spec hq buildingId houseId groupId powerLevel
      timeToLive).2.1]
    exact h p hp
  | add zoneProperties delay =>
    have hcontents := (contents_perform_add hq zoneProperties delay).trans (if_pos hroom)
    intro p hp
    rcases List.mem_cons.1 hp with rfl | hp
    · refine ⟨Nat.le_refl _, timeSent_newEntry _ _ _, fun _ => ?_⟩
      rw [hcontents]
      exact List.mem_append_right _ (List.mem_singleton_self _)
    · obtain ⟨hle, hsent, -⟩ := h p hp
      refine ⟨Nat.le_add_right_of_le hle, hsent, fun hrecent => ?_⟩
      have hrecent : s.time + delay ≤ p.1 + sentMessagePurgeSeconds.toNat := hrecent
      rw [hcontents]
      exact List.mem_append_left _ (h.mem_live hp (by omega))

theorem Live.repeats (h : Live s) (hq : Valid s.queue) : Repeats s := by
  intro p hp hrecent timeToLive
  obtain ⟨-, -, hmem⟩ := h p hp
  have hfound := (isMessageARepeat_spec hq p.2.buildingId p.2.houseId p.2.groupId p.2.powerLevel
    timeToLive).2.2
  rw [Bool.eq_iff_iff, hfound, decide_eq_true_iff, and_iff_left]
  exact ⟨p.2, hmem hrecent, rfl, rfl, rfl, rfl⟩

theorem valid_start (sentMessages : ℕ → SentMessage) (time : ℕ) :
    Valid (start sentMessages time).queue :=
  ⟨show (0 : Byte).toNat < 100 by decide, show (0 : Byte).toNat < 100 by decide⟩

theorem valid_step (s : State) (e : Event) (s' : State) (hq : Valid s.queue)
    (hs : machine.step s e = some s') : Valid s'.queue := by
  cases hs
  exact (inside_and_valid hq e).2

/-- The ring is a queue throughout a run just if there is always room. -/
theorem allSteps_refines_iff (sentMessages : ℕ → SentMessage) (time : ℕ) (es : List Event) :
    machine.AllSteps Refines (start sentMessages time) es ↔
      machine.AllSteps Room (start sentMessages time) es :=
  Machine.allSteps_congr (I := fun s => Valid s.queue)
    (fun s e s' hq _ hs => valid_step s e s' hq hs) (fun _ e hq => refines_iff hq e)
    (valid_start sentMessages time)

/-- **The ring of sent messages**: in every run, all entries that are accessed are inside the ring;
and it is a queue, in which what was sent in the last seconds is found, exactly as long as each
addition finds less than 99 messages. -/
theorem sentMessages_refine (sentMessages : ℕ → SentMessage) (time : ℕ) (es : List Event) :
    machine.AllSteps Inside (start sentMessages time) es ∧
      (machine.AllSteps Refines (start sentMessages time) es ∧
          machine.AllStates Repeats (start sentMessages time) es ↔
        machine.AllSteps Room (start sentMessages time) es) := by
  have hstart := valid_start sentMessages time
  refine ⟨?_, ?_⟩
  · exact Machine.allSteps_of_step (I := fun s => Valid s.queue) valid_step
      (fun s e _ hq _ => (inside_and_valid hq e).1) hstart es
  · rw [allSteps_refines_iff, and_iff_left_iff_imp]
    intro hroom
    refine (Machine.allStates_of_allSteps (I := fun s => Valid s.queue ∧ Live s) ?_
      ⟨hstart, fun p hp => nomatch hp⟩ hroom).imp fun s h => h.2.repeats h.1
    rintro s e s' ⟨hq, hlive⟩ hK hs
    refine ⟨valid_step s e s' hq hs, ?_⟩
    cases hs
    exact hlive.step hq hK

theorem exampleName_noNul : (0 : Byte) ∉ ([0x4C] : List Byte) := by decide

theorem exampleName_fits : ([0x4C] : List Byte).length < maxSizeNameString := by decide

/-- A lamp at half of its level. -/
def exampleLamp : ZoneProperties where
  AppContextId := 0
  groupId := 7
  state := true
  targetState := true
  powerLevel := 50
  targetPowerLevel := 50
  rampRate := 50
  deviceType := 0
  buildingId := 1
  houseId := 2
  roomId := 0
  ZoneNameString := ⟨[0x4C], exampleName_noNul, exampleName_fits⟩
  EliotDeviceId := CString.empty eliotDeviceIdSize_pos

/-- A hundred messages in a second. -/
def burst : List Event := .replicate 100 (.add (some exampleLamp) 0)

/-- The hundredth message of a second makes all of them be lost. -/
theorem not_sentMessages_refine_burst :
    ¬(machine.AllSteps Refines (start (fun _ => ⟨0, 0, 0, 0, 0⟩) 0) burst ∧
      machine.AllStates Repeats (start (fun _ => ⟨0, 0, 0, 0, 0⟩) 0) burst) := by
  rintro ⟨hrefines, -⟩
  rw [allSteps_refines_iff] at hrefines
  revert hrefines
  decide +kernel

end SentRing

end Rf

end Lcm
