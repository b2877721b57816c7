import Lcm.Json.Slots

/-!
# Who is sent a JSON string

The bitmask of a slot says which sockets its string is for, but the queues hold only indices of
slots, and the transmit task does not look at its bit before it sends.  A string therefore goes
to the sockets it was built for as long as no task takes a message whose bit is not set: such
messages come from broadcasts, which are queued for every open socket, and from sockets that were
closed with messages in their queue.  A task that tries again after a delay sends whatever is then
in the buffer that all tasks share.

## Main definitions

* `SendsAddressed` : every string was sent only where its slot said when it was built.
* `OnlyAddressed` : the condition on a step.
* `AddressInv` : the bits that are set, and the sends that were made, agree with the builds.

## Main results

* `AddressInv.step` : every step that meets the condition keeps the invariant.
* `allStates_sendsAddressed` : a run whose steps meet the condition sends only where it should.
-/

namespace Lcm

namespace Json

/-! ### Specification -/

/-- A string is handed to a socket only if the bit of the socket was set when the string was
built, and if the socket has, if any, the connection it had then. -/
def SendsAddressed (st : JsonState) : Prop :=
  ∀ send ∈ st.sends, ∀ x, send.string = some x →
    (st.builds x).socketBitmask.getLsbD send.socketIndex = true ∧
      (send.connection ≠ 0 → send.connection = (st.builds x).connection send.socketIndex)

/-- If the socket will be sent the string of the first message of its queue, the bit of the socket
is set in the message. -/
def HeadAddressed (st : JsonState) (s : SocketIndex) : List SlotIndex → Prop
  | m :: _ =>
    (st.jsonSockets s).JSONSocketConnection ≠ 0 →
      (st.jsonSockets s).jsaState &&& jsaMaskJsonEnabled ≠ 0 →
        (st.JSONTransmitMessage m).messageStringPtr ≠ none →
          (st.JSONTransmitMessage m).socketBitmask.getLsbD s = true
  | [] => True

/-- If the task is waiting to send the rest of a string, no other task has printed into the buffer
meanwhile, and the socket has not been reused. -/
def RetryAddressed (st : JsonState) (s : SocketIndex) : TransmitTask → Prop
  | .delaying _ _ string connection =>
    st.httpStr = string ∧ ((st.jsonSockets s).JSONSocketConnection ≠ 0 →
      (st.jsonSockets s).JSONSocketConnection = connection)
  | _ => True

/-- The step sends only a message that is still addressed to the socket. -/
def OnlyAddressed (st : JsonState) : Event → Prop
  | .receiveMessage s => HeadAddressed st s (st.queue s)
  | .delayExpires s => RetryAddressed st s (st.task s)
  | _ => True

instance (st : JsonState) (s : SocketIndex) : DecidablePred (HeadAddressed st s)
  | [] => .isTrue trivial
  | _ :: _ => inferInstanceAs (Decidable (_ → _))

instance (st : JsonState) (s : SocketIndex) : DecidablePred (RetryAddressed st s)
  | .delaying .. => inferInstanceAs (Decidable (_ ∧ _))
  | .receiving | .sending .. | .resending .. | .clearing .. => .isTrue trivial

instance (st : JsonState) : DecidablePred (OnlyAddressed st)
  | .receiveMessage s => inferInstanceAs (Decidable (HeadAddressed st s (st.queue s)))
  | .delayExpires s => inferInstanceAs (Decidable (RetryAddressed st s (st.task s)))
  | .sendJSONPacket .. | .sendReturns .. | .resendReturns .. | .finishMessage .. |
    .shutdownSocket .. | .accept .. | .setJsaState .. | .setReceive .. | .tick .. |
    .setManufacturingTestMode .. => .isTrue trivial

/-! ### The invariant -/

/-- The string was built for the socket, on the given connection. -/
structure BuiltFor (st : JsonState) (s : SocketIndex) (x connection : ℕ) : Prop where
  /-- The string is allocated. -/
  allocated : x < st.heap.next
  /-- The bit was set. -/
  bit : (st.builds x).socketBitmask.getLsbD s = true
  /-- The socket had the connection. -/
  connection : connection = (st.builds x).connection s

/-- The string and the connection of a task that has called `Socket_send`. -/
def TransmitTask.sent : TransmitTask → Option (Option ℕ × ℕ)
  | .sending _ string connection => some (string, connection)
  | .delaying _ _ string connection => some (string, connection)
  | _ => none

/-- What is addressed, being sent or sent agrees with what was built. -/
structure AddressInv (st : JsonState) : Prop where
  /-- A bit stands for an open socket that the string of the slot was built for. -/
  bit : ∀ m (s : SocketIndex), (st.JSONTransmitMessage m).socketBitmask.getLsbD s = true →
    (st.jsonSockets s).JSONSocketConnection ≠ 0 ∧
      ∃ x, (st.JSONTransmitMessage m).messageStringPtr = some x ∧
        BuiltFor st s x (st.jsonSockets s).JSONSocketConnection
  /-- A task that sends a string sends it where it was built for. -/
  task : ∀ s x connection, (st.task s).sent = some (some x, connection) →
    BuiltFor st s x connection
  /-- What was sent was sent where it was built for, or nowhere. -/
  send : ∀ send ∈ st.sends, ∀ x, send.string = some x → ∃ connection,
    BuiltFor st send.socketIndex x connection ∧
      (send.connection ≠ 0 → send.connection = connection)

variable {st : JsonState}

theorem AddressInv.sendsAddressed (h : AddressInv st) : SendsAddressed st := by
  intro send hsend x hx
  obtain ⟨connection, hbuilt, hconn⟩ := h.send send hsend x hx
  exact ⟨hbuilt.bit, fun hne => (hconn hne).trans hbuilt.connection⟩

/-! ### Steps that send nothing new -/

/-- The second state has no bit, no transmission and no call of `Socket_send` that the first one
does not have. -/
structure Narrows (st st' : JsonState) : Prop where
  /-- A bit was set before, for the same string and the same connection. -/
  bit : ∀ m (s : SocketIndex), (st'.JSONTransmitMessage m).socketBitmask.getLsbD s = true →
    (st.JSONTransmitMessage m).socketBitmask.getLsbD s = true ∧
      (st'.JSONTransmitMessage m).messageStringPtr = (st.JSONTransmitMessage m).messageStringPtr ∧
      (st'.jsonSockets s).JSONSocketConnection = (st.jsonSockets s).JSONSocketConnection
  /-- A task that sends a string sent it before. -/
  task : ∀ s sent, (st'.task s).sent = some sent → (st.task s).sent = some sent
  /-- Nothing was sent. -/
  sends : st'.sends = st.sends
  /-- Strings stay allocated. -/
  next : st.heap.next ≤ st'.heap.next
  /-- Nothing was built. -/
  builds : st'.builds = st.builds

namespace Narrows

variable {st' st'' : JsonState}

theorem refl (st : JsonState) : Narrows st st :=
  ⟨fun _ _ h => ⟨h, rfl, rfl⟩, fun _ _ h => h, rfl, Nat.le_refl _, rfl⟩

theorem trans (h : Narrows st st') (h' : Narrows st' st'') : Narrows st st'' where
  bit m s hm := by
    obtain ⟨hm, hptr', hconn'⟩ := h'.bit m s hm
    obtain ⟨hm, hptr, hconn⟩ := h.bit m s hm
    exact ⟨hm, hptr'.trans hptr, hconn'.trans hconn⟩
  task s sent hs := h.task s sent (h'.task s sent hs)
  sends := h'.sends.trans h.sends
  next := h.next.trans h'.next
  builds := h'.builds.trans h.builds

theorem foldl {α : Type*} {f : JsonState → α → JsonState} (hf : ∀ st a, Narrows st (f st a))
    (as : List α) (st : JsonState) : Narrows st (as.foldl f st) := by
  induction as generalizing st with
  | nil => exact refl st
  | cons a as ih => exact (hf st a).trans (ih (f st a))

/-- A slot may lose bits; as long as it has one, it keeps its string. -/
theorem setSlot {m : SlotIndex} {message : TransmitMessage}
    (hbit : ∀ s : SocketIndex, message.socketBitmask.getLsbD s = true →
      (st.JSONTransmitMessage m).socketBitmask.getLsbD s = true ∧
        message.messageStringPtr = (st.JSONTransmitMessage m).messageStringPtr) :
    Narrows st (st.setSlot m message) where
  bit k s hk := by
    by_cases hkm : k = m
    · subst hkm
      simp only [JsonState.setSlot, Function.update_self] at hk
      obtain ⟨hold, hptr⟩ := hbit s hk
      refine ⟨hold, ?_, rfl⟩
      simp only [JsonState.setSlot, Function.update_self]
      exact hptr
    · simp only [JsonState.setSlot, Function.update_of_ne hkm] at hk
      refine ⟨hk, ?_, rfl⟩
      simp only [JsonState.setSlot, Function.update_of_ne hkm]
  task _ _ hs := hs
  sends := rfl
  next := Nat.le_refl _
  builds := rfl

/-- The entry of a socket may change, and its connection too if no bit of the socket is set. -/
theorem setSocket {s : SocketIndex} {socket : JsonSocket}
    (hconn : ∀ m, (st.JSONTransmitMessage m).socketBitmask.getLsbD s = true →
      socket.JSONSocketConnection = (st.jsonSockets s).JSONSocketConnection) :
    Narrows st (st.setSocket s socket) where
  bit m t hm := by
    refine ⟨hm, rfl, ?_⟩
    by_cases hts : t = s
    · subst hts
      simp only [JsonState.setSocket, Function.update_self]
      exact hconn m hm
    · simp only [JsonState.setSocket, Function.update_of_ne hts]
  task _ _ hs := hs
  sends := rfl
  next := Nat.le_refl _
  builds := rfl

/-- A task may stop to send. -/
theorem setTask {s : SocketIndex} {task : TransmitTask} (htask : task.sent = none) :
    Narrows st (st.setTask s task) where
  bit _ _ hm := ⟨hm, rfl, rfl⟩
  task t sent ht := by
    by_cases hts : t = s
    · subst hts
      simp only [JsonState.setTask, Function.update_self, htask] at ht
      cases ht
    · simpa only [JsonState.setTask, Function.update_of_ne hts] using ht
  sends := rfl
  next := Nat.le_refl _
  builds := rfl

theorem freeString (st : JsonState) (x : ℕ) : Narrows st (st.freeString x) :=
  ⟨fun _ _ h => ⟨h, rfl, rfl⟩, fun _ _ h => h, rfl, Nat.le_refl _, rfl⟩

theorem afterDump (st : JsonState) (i : SlotIndex) : Narrows st (afterDump st i) :=
  ⟨fun _ _ h => ⟨h, rfl, rfl⟩, fun _ _ h => h, rfl, Nat.le_succ _, rfl⟩

theorem clearSocketBit (st : JsonState) (s : SocketIndex) (m : SlotIndex) :
    Narrows st (clearSocketBit st s m) := by
  have hcleared : Narrows st (st.setSlot m (clearedMessage s (st.JSONTransmitMessage m))) := by
    refine setSlot fun t ht => ?_
    have hmask : (st.JSONTransmitMessage m).socketBitmask &&& ~~~socketBit s ≠ 0 := by
      intro hzero
      simp only [clearedMessage, hzero] at ht
      simp at ht
    simp only [clearedMessage, getLsbD_clear, Bool.and_eq_true] at ht
    exact ⟨ht.1, if_neg hmask⟩
  unfold Json.clearSocketBit
  dsimp only
  split
  · rename_i hzero
    split
    · refine (setSlot fun t ht => ?_).trans (freeString _ _)
      rw [hzero] at ht
      simp at ht
    · refine setSlot fun t ht => ?_
      rw [hzero] at ht
      simp at ht
  · rename_i hzero
    simpa only [clearedMessage, if_neg hzero] using hcleared

/-- Closing a socket: no slot has a bit of the socket when its connection changes. -/
theorem shutdownSocket (st : JsonState) (s : SocketIndex) : Narrows st (shutdownSocket st s) := by
  have hfree : (freeReceiveMessage (st.jsonSockets s)).JSONSocketConnection =
      (st.jsonSockets s).JSONSocketConnection := by
    unfold freeReceiveMessage
    split <;> rfl
  have hloop : Narrows st ((List.finRange _).foldl (shutdownSlot s)
      (st.setSocket s (freeReceiveMessage (st.jsonSockets s)))) := by
    refine (setSocket fun _ _ => hfree).trans (foldl (fun st m => ?_) _ _)
    unfold shutdownSlot
    split
    · exact clearSocketBit st s m
    · exact refl st
  refine hloop.trans (setSocket fun m hm => absurd hm ?_)
  have hmessage := shutdownSocket_message st s m
  simp only [Json.shutdownSocket, JsonState.setSocket] at hmessage
  simp only [JsonState.setSocket]
  rw [hmessage, closedMessage]
  split
  · simp only [clearedMessage, getLsbD_clear_self]
    exact Bool.false_ne_true
  · rename_i hbit
    rwa [and_socketBit_ne_zero] at hbit

theorem closeLate (st : JsonState) (s : SocketIndex) : Narrows st (closeLate st s) := by
  unfold Json.closeLate
  split
  · exact shutdownSocket st s
  · exact refl st

theorem enqueue (st : JsonState) (queue : SocketIndex → List SlotIndex) :
    Narrows st { st with queue := queue } :=
  ⟨fun _ _ h => ⟨h, rfl, rfl⟩, fun _ _ h => h, rfl, Nat.le_refl _, rfl⟩

theorem addToTransmitSocketQueue (sendFails : SocketIndex → Bool) (st : JsonState)
    (s : SocketIndex) : Narrows st (addToTransmitSocketQueue sendFails st s).1 := by
  rw [addToTransmitSocketQueue_eq]
  split
  · exact closeLate st s
  · exact (closeLate st s).trans (enqueue _ _)

theorem dropMessage (st : JsonState) (x : ℕ) : Narrows st (dropMessage st x) := by
  refine (setSlot fun s hs => ?_).trans (freeString _ _)
  simp at hs

theorem queueBroadcast (sendFails : SocketIndex → Bool) (st : JsonState) (s : SocketIndex) :
    Narrows st (queueBroadcast sendFails st s) := by
  have hadd := addToTransmitSocketQueue sendFails st s
  unfold Json.queueBroadcast
  split
  · dsimp only
    split
    · refine hadd.trans (setSlot fun t ht => ⟨?_, rfl⟩)
      rw [getLsbD_clear, Bool.and_eq_true] at ht
      exact ht.1
    · exact hadd
  · exact refl st

theorem endTransmission (st : JsonState) (s : SocketIndex) (m : SlotIndex) (result : ℕ) :
    Narrows st (endTransmission st s m result) := by
  unfold Json.endTransmission
  dsimp only
  split
  · refine (setSocket fun _ _ => ?_).trans (setTask rfl)
    split <;> rfl
  · exact setTask rfl

theorem formatMessage (st : JsonState) (s : SocketIndex) (m : SlotIndex) :
    Narrows st (formatMessage st s m) := by
  have hprint : Narrows st { st with
      httpStr := (st.JSONTransmitMessage m).messageStringPtr
      deadRead := st.deadRead || (st.JSONTransmitMessage m).messageStringPtr.any
        fun x => ¬ st.heap.Live x } :=
    ⟨fun _ _ h => ⟨h, rfl, rfl⟩, fun _ _ h => h, rfl, Nat.le_refl _, rfl⟩
  unfold Json.formatMessage
  dsimp only
  split
  · exact hprint.trans (setSlot fun _ ht => ⟨ht, rfl⟩)
  · exact hprint

/-- A socket is accepted only where it was closed, and then no bit of it is set. -/
theorem acceptConnection (h : AddressInv st) (watch : Bool) :
    Narrows st (acceptConnection st watch) := by
  unfold Json.acceptConnection
  split
  · rename_i s hfind
    have hclosed : (st.jsonSockets s).JSONSocketConnection = 0 := by
      simpa using List.find?_some hfind
    have hset : ∀ socket, Narrows st (st.setSocket s socket) :=
      fun socket => setSocket fun m hm => absurd hclosed (h.bit m s hm).1
    have hcount : ∀ st : JsonState, Narrows st { st with connections := st.connections + 1 } :=
      fun st => ⟨fun _ _ h => ⟨h, rfl, rfl⟩, fun _ _ h => h, rfl, Nat.le_refl _, rfl⟩
    exact (hset _).trans (hcount _)
  · exact refl st

end Narrows

theorem BuiltFor.narrows {st' : JsonState} (hn : Narrows st st') {s : SocketIndex}
    {x connection : ℕ} (h : BuiltFor st s x connection) : BuiltFor st' s x connection where
  allocated := Nat.lt_of_lt_of_le h.allocated hn.next
  bit := by rw [hn.builds]; exact h.bit
  connection := by rw [hn.builds]; exact h.connection

/-- **A step that sends nothing new keeps the invariant.** -/
theorem AddressInv.narrows {st' : JsonState} (h : AddressInv st) (hn : Narrows st st') :
    AddressInv st' where
  bit m s hm := by
    obtain ⟨hm, hptr, hconn⟩ := hn.bit m s hm
    obtain ⟨hopen, x, hx, hbuilt⟩ := h.bit m s hm
    rw [hconn]
    exact ⟨hopen, x, hptr.trans hx, hbuilt.narrows hn⟩
  task s x connection hs := (h.task s x connection (hn.task s _ hs)).narrows hn
  send send hsend x hx := by
    rw [hn.sends] at hsend
    obtain ⟨connection, hbuilt, hconn⟩ := h.send send hsend x hx
    exact ⟨connection, hbuilt.narrows hn, hconn⟩

/-! ### Building a message -/

/-- A message is built only for sockets that are open. -/
theorem AddressInv.buildMessagePacket (h : AddressInv st) (i : SlotIndex) (len : Word)
    (mask : Dword) (hopen : ∀ s : SocketIndex, mask.getLsbD s = true →
      (st.jsonSockets s).JSONSocketConnection ≠ 0) :
    AddressInv (buildMessagePacket (afterDump st i) st.heap.next len mask) := by
  -- strings that were built before keep what their slot said
  have hold : ∀ s x connection, BuiltFor st s x connection →
      BuiltFor (Json.buildMessagePacket (afterDump st i) st.heap.next len mask) s x connection := by
    intro s x connection hbuilt
    have hne : x ≠ st.heap.next := Nat.ne_of_lt hbuilt.allocated
    refine ⟨Nat.lt_succ_of_lt hbuilt.allocated, ?_, ?_⟩
    · simp only [Json.buildMessagePacket, JsonState.setSlot, afterDump, Function.update_of_ne hne]
      exact hbuilt.bit
    · simp only [Json.buildMessagePacket, JsonState.setSlot, afterDump, Function.update_of_ne hne]
      exact hbuilt.connection
  refine ⟨fun m s hm => ?_, fun s x connection hs => hold _ _ _ (h.task s x connection hs),
    fun send hsend x hx => ?_⟩
  · by_cases hmi : m = i
    · subst hmi
      simp only [Json.buildMessagePacket, JsonState.setSlot, afterDump, Function.update_self] at hm
      refine ⟨hopen s hm, st.heap.next, ?_, Nat.lt_succ_self _, ?_, ?_⟩
      · simp only [Json.buildMessagePacket, JsonState.setSlot, afterDump, Function.update_self]
      · simp only [Json.buildMessagePacket, JsonState.setSlot, afterDump, Function.update_self]
        exact hm
      · simp only [Json.buildMessagePacket, JsonState.setSlot, afterDump, Function.update_self]
    · simp only [Json.buildMessagePacket, JsonState.setSlot, afterDump,
        Function.update_of_ne hmi] at hm
      obtain ⟨hconn, x, hx, hbuilt⟩ := h.bit m s hm
      refine ⟨hconn, x, ?_, hold _ _ _ hbuilt⟩
      simp only [Json.buildMessagePacket, JsonState.setSlot, afterDump, Function.update_of_ne hmi]
      exact hx
  · obtain ⟨connection, hbuilt, hconn⟩ := h.send send hsend x hx
    exact ⟨connection, hold _ _ _ hbuilt, hconn⟩

theorem AddressInv.sendToSocket (h : AddressInv st) (sendFails : SocketIndex → Bool)
    (i : SlotIndex) (len : Word) (s : SocketIndex) :
    AddressInv (sendToSocket sendFails (afterDump st i) st.heap.next len s) := by
  unfold Json.sendToSocket
  split
  · rename_i hauth
    have hbuilt := h.buildMessagePacket i len (socketBit s) fun t ht => by
      rw [getLsbD_socketBit, decide_eq_true_iff] at ht
      rw [Fin.ext ht]
      exact hauth.1
    have hadd := hbuilt.narrows (Narrows.addToTransmitSocketQueue sendFails _ s)
    dsimp only
    split
    · exact hadd.narrows (Narrows.dropMessage _ _)
    · exact hadd
  · exact (h.narrows (Narrows.afterDump st i)).narrows (Narrows.freeString _ _)

theorem AddressInv.sendToAll (h : AddressInv st) (sendFails : SocketIndex → Bool)
    (i : SlotIndex) (len : Word) :
    AddressInv (sendToAll sendFails (afterDump st i) st.heap.next len) := by
  unfold Json.sendToAll
  dsimp only
  split
  · have hbuilt := h.buildMessagePacket i len (broadcastBitmask (afterDump st i))
      fun t ht => by
        obtain ⟨s, hs, haddressed⟩ := (getLsbD_broadcastBitmask _ _).1 ht
        rw [← Fin.ext hs]
        exact haddressed.1.1
    have hqueued := hbuilt.narrows (Narrows.foldl (Narrows.queueBroadcast sendFails)
      (List.finRange _) _)
    split
    · exact hqueued.narrows (Narrows.dropMessage _ _)
    · exact hqueued
  · exact (h.narrows (Narrows.afterDump st i)).narrows (Narrows.freeString _ _)

theorem AddressInv.sendJSONPacket (h : AddressInv st) (sendFails : SocketIndex → Bool)
    (len : Word) (socketIndex : Byte) :
    AddressInv (sendJSONPacket sendFails st len socketIndex) := by
  obtain ⟨i, hframe⟩ := getNextCurrentMessageSlot_frame
    { st with heap := st.heap.alloc, globalCount := st.globalCount + 1 }
  unfold Json.sendJSONPacket
  dsimp only
  rw [hframe]
  split
  · split
    · exact h.sendToSocket sendFails i len _
    · exact h.sendToAll sendFails i len
  · exact (h.narrows (Narrows.afterDump st i)).narrows (Narrows.freeString _ _)

/-! ### Sending -/

/-- The buffer is sent on a socket that it was built for. -/
theorem AddressInv.socketSend (h : AddressInv st) {s : SocketIndex}
    (hbuffer : ∀ x, st.httpStr = some x → ∃ connection, BuiltFor st s x connection ∧
      ((st.jsonSockets s).JSONSocketConnection ≠ 0 →
        (st.jsonSockets s).JSONSocketConnection = connection)) :
    AddressInv (st.socketSend s) where
  bit m t hm := by
    obtain ⟨hconn, x, hx, hbuilt⟩ := h.bit m t hm
    exact ⟨hconn, x, hx, hbuilt.1, hbuilt.2, hbuilt.3⟩
  task t x connection ht := by
    have hbuilt := h.task t x connection ht
    exact ⟨hbuilt.1, hbuilt.2, hbuilt.3⟩
  send send hsend x hx := by
    rcases List.mem_cons.1 hsend with rfl | hsend
    · obtain ⟨connection, hbuilt, hconn⟩ := hbuffer x hx
      exact ⟨connection, ⟨hbuilt.1, hbuilt.2, hbuilt.3⟩, hconn⟩
    · obtain ⟨connection, hbuilt, hconn⟩ := h.send send hsend x hx
      exact ⟨connection, ⟨hbuilt.1, hbuilt.2, hbuilt.3⟩, hconn⟩

/-- A task goes on with a string that was built for its socket. -/
theorem AddressInv.setTask (h : AddressInv st) {s : SocketIndex} {task : TransmitTask}
    (htask : ∀ x connection, task.sent = some (some x, connection) →
      BuiltFor st s x connection) : AddressInv (st.setTask s task) where
  bit m t hm := by
    obtain ⟨hconn, x, hx, hbuilt⟩ := h.bit m t hm
    exact ⟨hconn, x, hx, hbuilt.1, hbuilt.2, hbuilt.3⟩
  task t x connection ht := by
    have hbuilt : BuiltFor st t x connection := by
      by_cases hts : t = s
      · subst hts
        simp only [JsonState.setTask, Function.update_self] at ht
        exact htask x connection ht
      · simp only [JsonState.setTask, Function.update_of_ne hts] at ht
        exact h.task t x connection ht
    exact ⟨hbuilt.1, hbuilt.2, hbuilt.3⟩
  send send hsend x hx := by
    obtain ⟨connection, hbuilt, hconn⟩ := h.send send hsend x hx
    exact ⟨connection, ⟨hbuilt.1, hbuilt.2, hbuilt.3⟩, hconn⟩

theorem formatMessage_print (st : JsonState) (s : SocketIndex) (m : SlotIndex) :
    (formatMessage st s m).httpStr = (st.JSONTransmitMessage m).messageStringPtr ∧
      (formatMessage st s m).jsonSockets = st.jsonSockets := by
  unfold formatMessage
  dsimp only
  split <;> exact ⟨rfl, rfl⟩

/-- What the task has printed is the string of the slot, for the sockets of the slot. -/
theorem AddressInv.formatted (h : AddressInv st) {s : SocketIndex} {m : SlotIndex}
    (hbit : (st.JSONTransmitMessage m).messageStringPtr ≠ none →
      (st.JSONTransmitMessage m).socketBitmask.getLsbD s = true) {x : ℕ}
    (hx : (formatMessage st s m).httpStr = some x) :
    BuiltFor (formatMessage st s m) s x
      ((formatMessage st s m).jsonSockets s).JSONSocketConnection := by
  obtain ⟨hprint, hsockets⟩ := formatMessage_print st s m
  rw [hprint] at hx
  obtain ⟨-, y, hy, hbuilt⟩ := h.bit m s (hbit (by rw [hx]; exact Option.some_ne_none x))
  obtain rfl := Option.some.inj (hx.symm.trans hy)
  rw [hsockets]
  exact hbuilt.narrows (Narrows.formatMessage st s m)

theorem AddressInv.startTransmission (h : AddressInv st) {s : SocketIndex} {m : SlotIndex}
    (hhead : (st.jsonSockets s).JSONSocketConnection ≠ 0 →
      (st.jsonSockets s).jsaState &&& jsaMaskJsonEnabled ≠ 0 →
        (st.JSONTransmitMessage m).messageStringPtr ≠ none →
          (st.JSONTransmitMessage m).socketBitmask.getLsbD s = true) :
    AddressInv (startTransmission st s m) := by
  have hformat := h.narrows (Narrows.formatMessage st s m)
  unfold Json.startTransmission
  split
  · rename_i hconn
    dsimp only
    split
    · rename_i henabled
      rw [(formatMessage_print st s m).2] at henabled
      have hbuilt : ∀ x, (Json.formatMessage st s m).httpStr = some x → BuiltFor _ s x _ :=
        fun x hx => h.formatted (hhead hconn henabled) hx
      refine (hformat.socketSend fun x hx => ⟨_, hbuilt x hx, fun _ => rfl⟩).setTask ?_
      intro x connection hsent
      obtain ⟨hx, rfl⟩ := Prod.mk.inj (Option.some.inj hsent)
      exact ⟨(hbuilt x hx).1, (hbuilt x hx).2, (hbuilt x hx).3⟩
    · exact hformat.narrows (Narrows.endTransmission _ _ _ _)
  · exact h.narrows (Narrows.setTask rfl)

theorem AddressInv.receiveMessage (h : AddressInv st) {s : SocketIndex} {st' : JsonState}
    (hhead : HeadAddressed st s (st.queue s)) (hs : receiveMessage st s = some st') :
    AddressInv st' := by
  unfold Json.receiveMessage at hs
  split at hs
  · rename_i m rest htask hqueue
    obtain rfl := Option.some.inj hs
    rw [hqueue] at hhead
    exact (h.narrows (Narrows.enqueue st _)).startTransmission hhead
  · cases hs

theorem AddressInv.sendReturns (h : AddressInv st) {s : SocketIndex} {result : ℤ}
    {st' : JsonState} (hs : sendReturns st s result = some st') : AddressInv st' := by
  unfold Json.sendReturns at hs
  split at hs
  · rename_i m string connection htask
    split at hs
    · obtain rfl := Option.some.inj hs
      refine h.setTask fun x connection' hsent => h.task s x connection' ?_
      rw [htask]
      exact hsent
    · obtain rfl := Option.some.inj hs
      exact h.narrows (Narrows.endTransmission _ _ _ _)
  · cases hs

theorem AddressInv.delayExpires (h : AddressInv st) {s : SocketIndex} {st' : JsonState}
    (hretry : RetryAddressed st s (st.task s)) (hs : delayExpires st s = some st') :
    AddressInv st' := by
  unfold Json.delayExpires at hs
  split at hs
  · rename_i m result string connection htask
    obtain rfl := Option.some.inj hs
    rw [htask] at hretry
    obtain ⟨hbuffer, hconn⟩ := hretry
    refine (h.socketSend fun x hx => ⟨connection, h.task s x connection ?_, hconn⟩).narrows
      (Narrows.setTask rfl)
    rw [htask, ← hx, hbuffer]
    rfl
  · cases hs

theorem AddressInv.resendReturns (h : AddressInv st) {s : SocketIndex} {retryResult : ℤ}
    {st' : JsonState} (hs : resendReturns st s retryResult = some st') : AddressInv st' := by
  unfold Json.resendReturns at hs
  split at hs
  · obtain rfl := Option.some.inj hs
    exact h.narrows (Narrows.endTransmission _ _ _ _)
  · cases hs

theorem AddressInv.finishMessage (h : AddressInv st) {s : SocketIndex} {st' : JsonState}
    (hs : finishMessage st s = some st') : AddressInv st' := by
  unfold Json.finishMessage at hs
  split at hs
  · obtain rfl := Option.some.inj hs
    refine h.narrows ?_
    split
    · exact (Narrows.clearSocketBit _ _ _).trans (Narrows.setTask rfl)
    · exact Narrows.setTask rfl
  · cases hs

/-! ### Runs -/

theorem addressInv_start : AddressInv JsonState.start where
  bit m s h := by simp [JsonState.start] at h
  task _ _ _ h := nomatch h
  send _ h := nomatch h

/-- Every step that meets the condition keeps the invariant. -/
theorem AddressInv.step (h : AddressInv st) {e : Event} {st' : JsonState}
    (hK : OnlyAddressed st e) (hs : jsonTransmit.step st e = some st') : AddressInv st' := by
  cases e with
  | sendJSONPacket sendFails len socketIndex =>
    obtain rfl := Option.some.inj hs
    exact h.sendJSONPacket sendFails len socketIndex
  | receiveMessage s => exact h.receiveMessage hK hs
  | sendReturns s result => exact h.sendReturns hs
  | delayExpires s => exact h.delayExpires hK hs
  | resendReturns s retryResult => exact h.resendReturns hs
  | finishMessage s => exact h.finishMessage hs
  | shutdownSocket s =>
    obtain rfl := Option.some.inj hs
    exact h.narrows (Narrows.shutdownSocket st s)
  | accept watch =>
    obtain rfl := Option.some.inj hs
    exact h.narrows (Narrows.acceptConnection h watch)
  | setJsaState s jsaState =>
    obtain rfl := Option.some.inj hs
    exact h.narrows (Narrows.setSocket fun _ _ => rfl)
  | setReceive s httpSocket jsonReceiveMessage =>
    obtain rfl := Option.some.inj hs
    exact h.narrows (Narrows.setSocket fun _ _ => rfl)
  | tick tickCount =>
    obtain rfl := Option.some.inj hs
    refine h.narrows ⟨fun m s hm => ⟨hm, rfl, ?_⟩, fun _ _ h => h, rfl, Nat.le_refl _, rfl⟩
    dsimp only
    split <;> rfl
  | setManufacturingTestMode flag =>
    obtain rfl := Option.some.inj hs
    exact h.narrows ⟨fun _ _ h => ⟨h, rfl, rfl⟩, fun _ _ h => h, rfl, Nat.le_refl _, rfl⟩

/-- **Transmit addressing**: in every interleaving of `SendJSONPacket`, the transmit tasks,
`ShutdownSocket`, new connections and changes of the authentication state, as long as the tasks
take only messages that are still addressed to their socket, a string is handed only to the
sockets and the connections it was built for. -/
theorem allStates_sendsAddressed (es : List Event)
    (h : jsonTransmit.AllSteps OnlyAddressed .start es) :
    jsonTransmit.AllStates SendsAddressed .start es :=
  (Machine.allStates_of_allSteps (fun _ _ _ hinv hK hs => AddressInv.step hinv hK hs)
    addressInv_start h).imp fun _ hinv => hinv.sendsAddressed

/-- A client connects, is authorized and takes a broadcast. -/
theorem allStates_sendsAddressed_exampleBroadcast :
    jsonTransmit.AllStates SendsAddressed .start
      [.accept false, .setJsaState 0 jsaStateAuthValid, .sendJSONPacket (fun _ => false) 20 7,
        .receiveMessage 0, .sendReturns 0 20, .finishMessage 0] :=
  allStates_sendsAddressed _ (by decide +kernel)

/-- Two clients connect, and the second one is authorized only after a broadcast is built: its
task takes the index that the broadcast has left in its queue and sends it the string. -/
theorem not_sendsAddressed_of_lateAuthorization :
    ¬ ∀ es, jsonTransmit.AllStates SendsAddressed .start es := by
  intro h
  have hrun := h [.accept false, .accept false, .setJsaState 0 jsaStateAuthValid,
    .sendJSONPacket (fun _ => false) 20 7, .setJsaState 1 jsaStateAuthValid, .receiveMessage 1]
  have hfinal : (jsonTransmit.run .start [.accept false, .accept false,
      .setJsaState 0 jsaStateAuthValid, .sendJSONPacket (fun _ => false) 20 7,
      .setJsaState 1 jsaStateAuthValid, .receiveMessage 1]).map
        (fun st => (st.sends.map fun send => (send.socketIndex, send.string),
          (st.builds 0).socketBitmask.getLsbD 1)) = some ([(1, some 0)], false) := by
    decide +kernel
  obtain ⟨st, hst, hsends⟩ := Option.map_eq_some_iff.1 hfinal
  obtain ⟨hsends, hbit⟩ := Prod.mk.inj hsends
  obtain ⟨send, hlist, hsend⟩ := List.map_eq_singleton_iff.1 hsends
  obtain ⟨hsocket, hstring⟩ := Prod.mk.inj hsend
  have hset := (hrun.of_run hst send (by rw [hlist]; exact List.mem_singleton_self _) 0 hstring).1
  rw [hsocket] at hset
  exact Bool.false_ne_true (hbit.symm.trans hset)

end Json

end Lcm
