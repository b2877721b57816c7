import Lcm.Json.Slots

/-!
# The lifetime of a JSON string

A string belongs to the slot it is built into until the last bit of the slot is cleared, which
frees it.  This holds of every interleaving of `SendJSONPacket`, `JSONTransmit_Task` and
`ShutdownSocket`, with one exception: `SendJSONPacket` itself closes a socket whose timer has
expired, and when that clears the last bit of the very slot it is filling, the string is freed by
`ShutdownSocket` and once more by `SendJSONPacket`.

## Main definitions

* `StringsSound` : the property of a state.
* `SendsOnce` : the condition on a step under which no string is freed twice.
* `CoreInv`, `Inv`, `Building` : the invariant, between steps and within `SendJSONPacket`.

## Main results

* `inv_sendJSONPacket`, `not_stringsSound_sendJSONPacket` : what `SendJSONPacket` does to it.
* `allStates_stringsSound_iff` : a run is sound exactly when its steps meet the condition.
-/

namespace Lcm

namespace Json

/-! ### Specification -/

/-- The slot a transmit task is working on. -/
def TransmitTask.slot : TransmitTask → Option SlotIndex
  | .receiving => none
  | .sending m _ _ => some m
  | .delaying m _ _ _ => some m
  | .resending m _ => some m
  | .clearing m => some m

/-- A message for the slot is in the queue of the socket, or its task is working on one. -/
def Pending (st : JsonState) (s : SocketIndex) (m : SlotIndex) : Prop :=
  m ∈ st.queue s ∨ (st.task s).slot = some m

/-- The strings of a state are in order. -/
structure StringsSound (st : JsonState) : Prop where
  /-- A slot with a bit holds a live string. -/
  live : ∀ m, (st.JSONTransmitMessage m).socketBitmask ≠ 0 →
    ∃ x, (st.JSONTransmitMessage m).messageStringPtr = some x ∧ st.heap.Live x
  /-- Every bit stands for a socket that has a message for the slot pending. -/
  pending : ∀ m i, (st.JSONTransmitMessage m).socketBitmask.getLsbD i = true →
    ∃ s : SocketIndex, s.val = i ∧ Pending st s m
  /-- Every string has been freed exactly once, or not yet, and then exactly one slot has it and
  a bit that is still to be cleared. -/
  once : ∀ x, x < st.heap.next → st.heap.freeCount x = 1 ∨
    st.heap.freeCount x = 0 ∧ ∃! m, (st.JSONTransmitMessage m).socketBitmask ≠ 0 ∧
      (st.JSONTransmitMessage m).messageStringPtr = some x
  /-- No string was read after it was freed. -/
  reads : st.deadRead = false
  /-- The count of outstanding messages is the number of live strings. -/
  count : st.globalCount.toNat = st.heap.liveCount

/-- The message cannot be queued for the socket any more: the socket is closed for its timer, or
the queue takes no message. -/
def Dropped (sendFails : SocketIndex → Bool) (st : JsonState) (s : SocketIndex) : Prop :=
  timedOut st s ∨ sendFails s

/-- A broadcast is dropped for all addressed sockets, and for the last of them because its timer
has expired. -/
def LastTimedOut (sendFails : SocketIndex → Bool) (st : JsonState) : Prop :=
  ∃ last, Addressed (st.jsonSockets last) ∧ timedOut st last ∧
    ∀ s, Addressed (st.jsonSockets s) → s = last ∨ s < last ∧ Dropped sendFails st s

/-- The step does not send a packet that is dropped for its last socket because the timer of the
socket has expired: for one socket, not both its timer has expired and its queue takes no message;
for a broadcast, not `LastTimedOut`. -/
def SendsOnce (st : JsonState) : Event → Prop
  | .sendJSONPacket sendFails _ socketIndex =>
    (∃ m, (st.JSONTransmitMessage m).socketBitmask = 0) →
      if h : socketIndex.toNat < maxNumberOfIncomingJsonConnections then
        Authorized (st.jsonSockets ⟨socketIndex.toNat, h⟩) →
          ¬ (timedOut st ⟨socketIndex.toNat, h⟩ ∧ sendFails ⟨socketIndex.toNat, h⟩)
      else ¬ LastTimedOut sendFails st
  | _ => True

/-! ### The invariant -/

/-- The invariant, but for the slots that are `isOpen`, which may have a string and no bit, and
the bits that are still `todo`, which may have no message pending. -/
structure CoreInv (st : JsonState) (isOpen : SlotIndex → Prop)
    (todo : SocketIndex → SlotIndex → Prop) : Prop where
  /-- The slots own the live strings. -/
  owned : st.heap.Owned fun m => (st.JSONTransmitMessage m).messageStringPtr
  /-- A slot without a string has no bit. -/
  string : ∀ m, (st.JSONTransmitMessage m).messageStringPtr = none →
    (st.JSONTransmitMessage m).socketBitmask = 0
  /-- A slot without a bit has no string. -/
  free : ∀ m, ¬ isOpen m → (st.JSONTransmitMessage m).socketBitmask = 0 →
    (st.JSONTransmitMessage m).messageStringPtr = none
  /-- Every bit has a message pending. -/
  pending : ∀ m (s : SocketIndex), (st.JSONTransmitMessage m).socketBitmask.getLsbD s = true →
    Pending st s m ∨ todo s m
  /-- Only bits of sockets are set. -/
  high : ∀ m i, maxNumberOfIncomingJsonConnections ≤ i →
    (st.JSONTransmitMessage m).socketBitmask.getLsbD i = false
  /-- No dead string was read. -/
  reads : st.deadRead = false
  /-- The count is right. -/
  count : st.globalCount = BitVec.ofNat 16 st.heap.liveCount

/-- The invariant between two steps. -/
def Inv (st : JsonState) : Prop := CoreInv st (fun _ => False) fun _ _ => False

variable {st : JsonState} {isOpen : SlotIndex → Prop} {todo : SocketIndex → SlotIndex → Prop}

/-- The strings that a table of messages holds, after one message is replaced. -/
theorem holds_update (messages : SlotIndex → TransmitMessage) (m : SlotIndex)
    (message : TransmitMessage) :
    (fun k => (Function.update messages m message k).messageStringPtr) =
      Function.update (fun k => (messages k).messageStringPtr) m message.messageStringPtr :=
  Function.comp_update TransmitMessage.messageStringPtr messages m message

/-- A slot may lose bits, and change its length, as long as it is not left with a string but no
bit. -/
theorem CoreInv.setSlot (h : CoreInv st isOpen todo) (m : SlotIndex) (mask : Dword) (len : Word)
    (hsub : ∀ i, mask.getLsbD i = true →
      (st.JSONTransmitMessage m).socketBitmask.getLsbD i = true)
    (hfree : ¬ isOpen m → mask = 0 → (st.JSONTransmitMessage m).messageStringPtr = none) :
    CoreInv (st.setSlot m ⟨(st.JSONTransmitMessage m).messageStringPtr, mask, len⟩) isOpen
      todo where
  owned := by
    have howned := h.owned
    simp only [JsonState.setSlot, holds_update]
    rwa [Function.update_eq_self m fun k => (st.JSONTransmitMessage k).messageStringPtr]
  string k hk := by
    by_cases hkm : k = m
    · subst hkm
      simp only [JsonState.setSlot, Function.update_self] at hk ⊢
      refine eq_zero_of_getLsbD fun i => ?_
      rw [Bool.eq_false_iff]
      intro hi
      have hbit := hsub i hi
      rw [h.string k hk] at hbit
      simp at hbit
    · simp only [JsonState.setSlot, Function.update_of_ne hkm] at hk ⊢
      exact h.string k hk
  free k hopen hk := by
    by_cases hkm : k = m
    · subst hkm
      simp only [JsonState.setSlot, Function.update_self] at hk ⊢
      exact hfree hopen hk
    · simp only [JsonState.setSlot, Function.update_of_ne hkm] at hk ⊢
      exact h.free k hopen hk
  pending k s hk := by
    by_cases hkm : k = m
    · subst hkm
      simp only [JsonState.setSlot, Function.update_self] at hk
      exact h.pending k s (hsub s hk)
    · simp only [JsonState.setSlot, Function.update_of_ne hkm] at hk
      exact h.pending k s hk
  high k i hi := by
    by_cases hkm : k = m
    · subst hkm
      simp only [JsonState.setSlot, Function.update_self]
      rw [Bool.eq_false_iff]
      intro hbit
      exact absurd (hsub i hbit) (by rw [h.high k i hi]; decide)
    · simp only [JsonState.setSlot, Function.update_of_ne hkm]
      exact h.high k i hi
  reads := h.reads
  count := h.count

theorem ofNat_succ_sub_one (n : ℕ) : BitVec.ofNat 16 (n + 1) - 1 = BitVec.ofNat 16 n := by
  rw [BitVec.ofNat_add]
  exact BitVec.add_sub_cancel ..

/-- A slot is emptied and its string freed. -/
theorem CoreInv.release (h : CoreInv st isOpen todo) {m : SlotIndex} {x : ℕ} (len : Word)
    (hx : (st.JSONTransmitMessage m).messageStringPtr = some x) :
    CoreInv ((st.setSlot m ⟨none, 0, len⟩).freeString x) isOpen todo where
  owned := by
    simp only [JsonState.freeString, JsonState.setSlot, holds_update]
    exact h.owned.release hx
  string k hk := by
    by_cases hkm : k = m
    · subst hkm
      simp only [JsonState.freeString, JsonState.setSlot, Function.update_self]
    · simp only [JsonState.freeString, JsonState.setSlot, Function.update_of_ne hkm] at hk ⊢
      exact h.string k hk
  free k hopen hk := by
    by_cases hkm : k = m
    · subst hkm
      simp only [JsonState.freeString, JsonState.setSlot, Function.update_self]
    · simp only [JsonState.freeString, JsonState.setSlot, Function.update_of_ne hkm] at hk ⊢
      exact h.free k hopen hk
  pending k s hk := by
    by_cases hkm : k = m
    · subst hkm
      simp [JsonState.freeString, JsonState.setSlot] at hk
    · simp only [JsonState.freeString, JsonState.setSlot, Function.update_of_ne hkm] at hk
      exact h.pending k s hk
  high k i hi := by
    by_cases hkm : k = m
    · subst hkm
      simp [JsonState.freeString, JsonState.setSlot]
    · simp only [JsonState.freeString, JsonState.setSlot, Function.update_of_ne hkm]
      exact h.high k i hi
  reads := h.reads
  count := by
    have hlive := h.owned.held m x hx
    simp only [JsonState.freeString, JsonState.setSlot]
    rw [h.count, ← Heap.liveCount_free hlive, ofNat_succ_sub_one]

/-- Clearing a bit of any slot. -/
theorem CoreInv.clearSocketBit (h : CoreInv st isOpen todo) (s : SocketIndex) (m : SlotIndex) :
    CoreInv (clearSocketBit st s m) isOpen todo := by
  have hsub : ∀ i, ((st.JSONTransmitMessage m).socketBitmask &&& ~~~socketBit s).getLsbD i = true →
      (st.JSONTransmitMessage m).socketBitmask.getLsbD i = true := by
    intro i hi
    rw [getLsbD_clear, Bool.and_eq_true] at hi
    exact hi.1
  unfold Json.clearSocketBit
  dsimp only
  split
  · rename_i hzero
    split
    · rename_i x hx
      rw [hzero]
      exact h.release _ hx
    · rename_i hx
      exact h.setSlot m _ _ hsub fun _ _ => hx
  · rename_i hzero
    exact h.setSlot m _ _ hsub fun _ h0 => absurd h0 hzero

theorem CoreInv.setSocket (h : CoreInv st isOpen todo) (s : SocketIndex) (socket : JsonSocket) :
    CoreInv (st.setSocket s socket) isOpen todo :=
  ⟨h.owned, h.string, h.free, h.pending, h.high, h.reads, h.count⟩

/-- Closing a socket. -/
theorem CoreInv.shutdownSocket (h : CoreInv st isOpen todo) (s : SocketIndex) :
    CoreInv (shutdownSocket st s) isOpen todo :=
  shutdownSocket_induction (P := fun st => CoreInv st isOpen todo)
    (fun _ m h => h.clearSocketBit s m) (fun _ socket h => h.setSocket s socket) h

/-- **The invariant says that the strings are in order.** -/
theorem Inv.stringsSound (h : Inv st) : StringsSound st where
  live m hm := by
    cases hx : (st.JSONTransmitMessage m).messageStringPtr with
    | none => exact absurd (h.string m hx) hm
    | some x => exact ⟨x, rfl, h.owned.held m x hx⟩
  pending m i hi := by
    have hlt : i < maxNumberOfIncomingJsonConnections := by
      by_contra hge
      rw [h.high m i (Nat.not_lt.1 hge)] at hi
      cases hi
    refine ⟨⟨i, hlt⟩, rfl, ?_⟩
    exact (h.pending m ⟨i, hlt⟩ hi).resolve_right id
  once x hx := by
    have honce := h.owned.once x
    by_cases h0 : st.heap.freeCount x = 0
    · obtain ⟨m, hm⟩ := h.owned.owner x ⟨hx, h0⟩
      have hmask : (st.JSONTransmitMessage m).socketBitmask ≠ 0 := by
        intro hzero
        have hm : (st.JSONTransmitMessage m).messageStringPtr = some x := hm
        rw [h.free m id hzero] at hm
        cases hm
      exact .inr ⟨h0, m, ⟨hmask, hm⟩, fun k hk => h.owned.inj k m x hk.2 hm⟩
    · exact .inl (by omega)
  reads := h.reads
  count := by
    have hle := h.owned.liveCount_le
    rw [Fintype.card_fin] at hle
    rw [h.count, BitVec.toNat_ofNat]
    exact Nat.mod_eq_of_lt (Nat.lt_of_le_of_lt hle (by decide))

/-- When nothing is queued and every task waits, every string has been freed exactly once. -/
theorem StringsSound.freed_of_idle (h : StringsSound st)
    (hidle : ∀ s, st.queue s = [] ∧ st.task s = .receiving) {x : ℕ} (hx : x < st.heap.next) :
    st.heap.freeCount x = 1 := by
  rcases h.once x hx with h1 | ⟨-, m, ⟨hmask, -⟩, -⟩
  · exact h1
  · refine absurd (eq_zero_of_getLsbD fun i => ?_) hmask
    rw [Bool.eq_false_iff]
    intro hi
    obtain ⟨s, -, hpending⟩ := h.pending m i hi
    rcases hpending with hq | ht
    · rw [(hidle s).1] at hq
      cases hq
    · rw [(hidle s).2] at ht
      cases ht

/-! ### The transmit task -/

/-- A task that goes on with the slot it is working on, or with one it has just received. -/
theorem CoreInv.setTask {s : SocketIndex} {m : SlotIndex}
    (h : CoreInv st (fun _ => False) fun s' m' => s' = s ∧ m' = m) {task : TransmitTask}
    (htask : task.slot = some m) (hold : ∀ k, (st.task s).slot = some k → k = m) :
    Inv (st.setTask s task) where
  owned := h.owned
  string := h.string
  free := h.free
  high := h.high
  reads := h.reads
  count := h.count
  pending k t hk := by
    left
    rcases h.pending k t hk with (hq | ht) | ⟨rfl, rfl⟩
    · exact .inl hq
    · refine .inr ?_
      by_cases hts : t = s
      · subst hts
        simp only [JsonState.setTask, Function.update_self]
        rw [htask, hold k ht]
      · simp only [JsonState.setTask, Function.update_of_ne hts]
        exact ht
    · refine .inr ?_
      simp only [JsonState.setTask, Function.update_self]
      exact htask

/-- The invariant allows any bits to be still to do. -/
theorem Inv.weaken (h : Inv st) : CoreInv st isOpen todo where
  owned := h.owned
  string := h.string
  free m _ := h.free m id
  high := h.high
  reads := h.reads
  count := h.count
  pending m s hm := .inl ((h.pending m s hm).resolve_right id)

theorem inv_endTransmission {s : SocketIndex} {m : SlotIndex}
    (h : CoreInv st (fun _ => False) fun s' m' => s' = s ∧ m' = m)
    (hold : ∀ k, (st.task s).slot = some k → k = m) (result : ℕ) :
    Inv (endTransmission st s m result) := by
  unfold endTransmission
  dsimp only
  split
  · exact (h.setSocket s _).setTask rfl hold
  · exact h.setTask rfl hold

theorem CoreInv.formatMessage (h : CoreInv st (fun _ => False) todo) (s : SocketIndex)
    (m : SlotIndex) : CoreInv (formatMessage st s m) (fun _ => False) todo := by
  have hread : (st.deadRead || (st.JSONTransmitMessage m).messageStringPtr.any
      fun x => ¬ st.heap.Live x) = false := by
    rw [h.reads]
    cases hx : (st.JSONTransmitMessage m).messageStringPtr with
    | none => rfl
    | some x => simp [h.owned.held m x hx]
  have hformat : CoreInv { st with
      httpStr := (st.JSONTransmitMessage m).messageStringPtr
      deadRead := st.deadRead || (st.JSONTransmitMessage m).messageStringPtr.any
        fun x => ¬ st.heap.Live x } (fun _ => False) todo :=
    ⟨h.owned, h.string, h.free, h.pending, h.high, hread, h.count⟩
  unfold Json.formatMessage
  dsimp only
  split
  · exact hformat.setSlot m _ _ (fun _ hi => hi) fun _ h0 => h.free m id h0
  · exact hformat

theorem formatMessage_task (st : JsonState) (s : SocketIndex) (m : SlotIndex) :
    (formatMessage st s m).task = st.task := by
  unfold formatMessage
  dsimp only
  split <;> rfl

theorem inv_startTransmission {s : SocketIndex} {m : SlotIndex}
    (h : CoreInv st (fun _ => False) fun s' m' => s' = s ∧ m' = m)
    (hold : ∀ k, (st.task s).slot = some k → k = m) : Inv (startTransmission st s m) := by
  unfold startTransmission
  dsimp only
  have hformat := h.formatMessage s m
  have hold' : ∀ k, ((formatMessage st s m).task s).slot = some k → k = m := by
    rwa [formatMessage_task]
  split
  · split
    · have hsend : CoreInv ((formatMessage st s m).socketSend s) (fun _ => False)
          fun s' m' => s' = s ∧ m' = m :=
        ⟨hformat.owned, hformat.string, hformat.free, hformat.pending, hformat.high,
          hformat.reads, hformat.count⟩
      exact hsend.setTask rfl hold'
    · exact inv_endTransmission hformat hold' _
  · exact h.setTask rfl hold

/-- **The transmit task keeps the strings in order**, wherever it is interrupted. -/
theorem inv_receiveMessage (h : Inv st) {s : SocketIndex} {st' : JsonState}
    (hs : receiveMessage st s = some st') : Inv st' := by
  unfold receiveMessage at hs
  split at hs
  · rename_i m rest htask hqueue
    obtain rfl := Option.some.inj hs
    refine inv_startTransmission ⟨h.owned, h.string, h.free, fun k t hk => ?_, h.high, h.reads,
      h.count⟩ fun k hk => ?_
    · rcases (h.pending k t hk).resolve_right id with hq | ht
      · by_cases hts : t = s
        · subst hts
          rw [hqueue] at hq
          rcases List.mem_cons.1 hq with rfl | hq
          · exact .inr ⟨rfl, rfl⟩
          · exact .inl (.inl (by simp only [Function.update_self]; exact hq))
        · exact .inl (.inl (by simp only [Function.update_of_ne hts]; exact hq))
      · exact .inl (.inr ht)
    · have hk : (st.task s).slot = some k := hk
      rw [htask] at hk
      cases hk
  · cases hs

theorem inv_sendReturns (h : Inv st) {s : SocketIndex} {result : ℤ} {st' : JsonState}
    (hs : sendReturns st s result = some st') : Inv st' := by
  unfold sendReturns at hs
  split at hs
  · rename_i m string connection htask
    have hold : ∀ k, (st.task s).slot = some k → k = m := by
      intro k hk
      rw [htask] at hk
      exact (Option.some.inj hk).symm
    split at hs
    · obtain rfl := Option.some.inj hs
      exact h.weaken.setTask rfl hold
    · obtain rfl := Option.some.inj hs
      exact inv_endTransmission h.weaken hold _
  · cases hs

theorem inv_delayExpires (h : Inv st) {s : SocketIndex} {st' : JsonState}
    (hs : delayExpires st s = some st') : Inv st' := by
  unfold delayExpires at hs
  split at hs
  · rename_i m result string connection htask
    obtain rfl := Option.some.inj hs
    have hsend : Inv (st.socketSend s) :=
      ⟨h.owned, h.string, h.free, h.pending, h.high, h.reads, h.count⟩
    refine hsend.weaken.setTask (m := m) rfl fun k hk => ?_
    have hk : (st.task s).slot = some k := hk
    rw [htask] at hk
    exact (Option.some.inj hk).symm
  · cases hs

theorem inv_resendReturns (h : Inv st) {s : SocketIndex} {retryResult : ℤ} {st' : JsonState}
    (hs : resendReturns st s retryResult = some st') : Inv st' := by
  unfold resendReturns at hs
  split at hs
  · rename_i m result htask
    obtain rfl := Option.some.inj hs
    refine inv_endTransmission h.weaken (fun k hk => ?_) _
    rw [htask] at hk
    exact (Option.some.inj hk).symm
  · cases hs

/-- A task that waits for a message again, once its bit is cleared. -/
theorem Inv.setReceiving (h : Inv st) {s : SocketIndex} {m : SlotIndex}
    (htask : (st.task s).slot = some m)
    (hbit : (st.JSONTransmitMessage m).socketBitmask.getLsbD s = false) :
    Inv (st.setTask s .receiving) where
  owned := h.owned
  string := h.string
  free := h.free
  high := h.high
  reads := h.reads
  count := h.count
  pending k t hk := by
    left
    rcases (h.pending k t hk).resolve_right id with hq | ht
    · exact .inl hq
    · refine .inr ?_
      have hts : t ≠ s := by
        rintro rfl
        rw [htask] at ht
        obtain rfl := Option.some.inj ht
        have hk : (st.JSONTransmitMessage m).socketBitmask.getLsbD t = true := hk
        rw [hbit] at hk
        cases hk
      simp only [JsonState.setTask, Function.update_of_ne hts]
      exact ht

theorem inv_finishMessage (h : Inv st) {s : SocketIndex} {st' : JsonState}
    (hs : finishMessage st s = some st') : Inv st' := by
  unfold finishMessage at hs
  split at hs
  · rename_i m htask
    obtain rfl := Option.some.inj hs
    split
    · have htask' : ((clearSocketBit st s m).task s).slot = some m := by
        obtain ⟨_, _, _, hframe⟩ := clearSocketBit_frame st s m
        rw [hframe]
        exact congrArg TransmitTask.slot htask
      refine Inv.setReceiving (h.clearSocketBit s m) htask' ?_
      rw [clearSocketBit_message, Function.update_self]
      exact getLsbD_clear_self ..
    · rename_i hzero
      refine h.setReceiving (congrArg TransmitTask.slot htask) ?_
      rw [not_not.1 hzero]
      simp
  · cases hs

/-! ### Building a message -/

/-- The invariant while `SendJSONPacket` works on a string: the current slot is open, and its
string is the one being sent unless closing a socket has freed it. -/
structure Building (st : JsonState) (x : ℕ) (todo : SocketIndex → Prop) : Prop where
  /-- The rest is in order. -/
  core : CoreInv st (fun m => m = st.currentMessageIndex) fun s m =>
    m = st.currentMessageIndex ∧ todo s
  /-- The string is in the current slot, or it has been freed. -/
  string : (st.JSONTransmitMessage st.currentMessageIndex).messageStringPtr = some x ∨
    (st.JSONTransmitMessage st.currentMessageIndex).messageStringPtr = none ∧
      st.heap.freeCount x ≠ 0

namespace Building

variable {x : ℕ} {sockets : SocketIndex → Prop}

theorem freeCount_free_ne_zero {h : Heap} (hx : h.freeCount x ≠ 0) (y : ℕ) :
    (h.free y).freeCount x ≠ 0 := by
  by_cases hy : x = y
  · subst hy; simp [Heap.free]
  · simpa [Heap.free, hy] using hx

theorem clearSocketBit (h : Building st x sockets) (s : SocketIndex) (m : SlotIndex) :
    Building (clearSocketBit st s m) x sockets := by
  have hcur : (Json.clearSocketBit st s m).currentMessageIndex = st.currentMessageIndex := by
    obtain ⟨_, _, _, hframe⟩ := clearSocketBit_frame st s m
    rw [hframe]
  refine ⟨by rw [hcur]; exact h.core.clearSocketBit s m, ?_⟩
  rw [hcur, clearSocketBit_message, clearSocketBit_heap]
  by_cases hm : m = st.currentMessageIndex
  · subst hm
    simp only [Function.update_self, clearedMessage]
    split
    · rcases h.string with hx | ⟨hx, hfree⟩
      · simp [hx, Heap.free]
      · simp [hx, hfree]
    · exact h.string
  · rw [Function.update_of_ne (Ne.symm hm)]
    refine h.string.imp_right ?_
    rintro ⟨hx, hfree⟩
    refine ⟨hx, ?_⟩
    split
    · split
      · exact freeCount_free_ne_zero hfree _
      · exact hfree
    · exact hfree

theorem setSocket (h : Building st x sockets) (s : SocketIndex) (socket : JsonSocket) :
    Building (st.setSocket s socket) x sockets :=
  ⟨h.core.setSocket s socket, h.string⟩

theorem shutdownSocket (h : Building st x sockets) (s : SocketIndex) :
    Building (shutdownSocket st s) x sockets :=
  shutdownSocket_induction (P := fun st => Building st x sockets)
    (fun _ m h => h.clearSocketBit s m) (fun _ socket h => h.setSocket s socket) h

/-- A socket whose bit is not set has nothing to do. -/
theorem skip (h : Building st x sockets) {s : SocketIndex}
    (hbit : (st.JSONTransmitMessage st.currentMessageIndex).socketBitmask.getLsbD s = false) :
    Building st x fun t => t ≠ s ∧ sockets t := by
  refine ⟨⟨h.core.owned, h.core.string, h.core.free, fun m t hm => ?_, h.core.high, h.core.reads,
    h.core.count⟩, h.string⟩
  refine (h.core.pending m t hm).imp_right ?_
  rintro ⟨rfl, ht⟩
  refine ⟨rfl, ?_, ht⟩
  rintro rfl
  rw [hbit] at hm
  cases hm

/-- A socket gets a message. -/
theorem enqueue (h : Building st x sockets) (s : SocketIndex) :
    Building { st with
      queue := Function.update st.queue s (st.queue s ++ [st.currentMessageIndex]) } x
      fun t => t ≠ s ∧ sockets t := by
  refine ⟨⟨h.core.owned, h.core.string, h.core.free, fun m t hm => ?_, h.core.high, h.core.reads,
    h.core.count⟩, h.string⟩
  by_cases hts : t = s
  · subst hts
    left
    rcases h.core.pending m t hm with (hq | ht) | ⟨rfl, -⟩
    · exact .inl (by simp [hq])
    · exact .inr ht
    · exact .inl (by simp)
  · rcases h.core.pending m t hm with (hq | ht) | ⟨rfl, ht⟩
    · exact .inl (.inl (by simpa [hts] using hq))
    · exact .inl (.inr ht)
    · exact .inr ⟨rfl, hts, ht⟩

/-- A socket loses its bit. -/
theorem clearBit (h : Building st x sockets) (s : SocketIndex) :
    let message := st.JSONTransmitMessage st.currentMessageIndex
    Building (st.setSlot st.currentMessageIndex
      { message with socketBitmask := message.socketBitmask &&& ~~~socketBit s }) x
      fun t => t ≠ s ∧ sockets t := by
  intro message
  have hsub : ∀ i, (message.socketBitmask &&& ~~~socketBit s).getLsbD i = true →
      message.socketBitmask.getLsbD i = true := by
    intro i hi
    rw [getLsbD_clear, Bool.and_eq_true] at hi
    exact hi.1
  have hset : Building (st.setSlot st.currentMessageIndex
      { message with socketBitmask := message.socketBitmask &&& ~~~socketBit s }) x sockets := by
    refine ⟨h.core.setSlot _ _ _ hsub fun hopen => absurd rfl hopen, ?_⟩
    simpa [JsonState.setSlot] using h.string
  refine hset.skip ?_
  simp only [JsonState.setSlot, Function.update_self]
  exact getLsbD_clear_self ..

theorem mono (h : Building st x sockets) {sockets' : SocketIndex → Prop}
    (hsub : ∀ s, sockets s → sockets' s) : Building st x sockets' :=
  ⟨⟨h.core.owned, h.core.string, h.core.free,
    fun m s hm => (h.core.pending m s hm).imp_right fun hdo => ⟨hdo.1, hsub s hdo.2⟩,
    h.core.high, h.core.reads, h.core.count⟩, h.string⟩

/-- A message with a bit left, or without a string, is complete. -/
theorem inv (h : Building st x fun _ => False)
    (hdone : (st.JSONTransmitMessage st.currentMessageIndex).socketBitmask = 0 →
      (st.JSONTransmitMessage st.currentMessageIndex).messageStringPtr = none) : Inv st where
  owned := h.core.owned
  string := h.core.string
  free m _ hm := by
    by_cases hcur : m = st.currentMessageIndex
    · subst hcur; exact hdone hm
    · exact h.core.free m hcur hm
  pending m s hm := .inl ((h.core.pending m s hm).resolve_right fun hdo => hdo.2)
  high := h.core.high
  reads := h.core.reads
  count := h.core.count

/-- A message whose string is still there can be dropped. -/
theorem inv_dropMessage (h : Building st x sockets)
    (hx : (st.JSONTransmitMessage st.currentMessageIndex).messageStringPtr = some x) :
    Inv (dropMessage st x) := by
  have hcore := h.core.release (st.JSONTransmitMessage st.currentMessageIndex).messageLength hx
  refine ⟨hcore.owned, hcore.string, fun m _ hm => ?_, fun m s hm => ?_, hcore.high, hcore.reads,
    hcore.count⟩
  · by_cases hcur : m = st.currentMessageIndex
    · subst hcur
      simp [dropMessage, JsonState.freeString, JsonState.setSlot]
    · exact hcore.free m hcur hm
  · refine (hcore.pending m s hm).imp_right fun hcur => ?_
    rw [hcur.1] at hm
    simp [dropMessage, JsonState.freeString, JsonState.setSlot] at hm

/-- A message whose string has been freed is not dropped without freeing it again. -/
theorem not_stringsSound_dropMessage (h : Building st x sockets)
    (hx : (st.JSONTransmitMessage st.currentMessageIndex).messageStringPtr = none) :
    ¬ StringsSound (dropMessage st x) := by
  intro hsound
  have hfreed : st.heap.freeCount x ≠ 0 := by
    rcases h.string with hx' | ⟨-, hfreed⟩
    · rw [hx] at hx'; cases hx'
    · exact hfreed
  have hlt : x < st.heap.next := by
    by_contra hge
    exact hfreed (h.core.owned.fresh x (Nat.not_lt.1 hge))
  have htwice : (dropMessage st x).heap.freeCount x = st.heap.freeCount x + 1 := by
    simp [dropMessage, JsonState.freeString, JsonState.setSlot, Heap.free]
  rcases hsound.once x hlt with h1 | ⟨h0, -⟩ <;> omega

end Building

/-! ### Sending a packet -/

/-- What queuing a message for a socket does to the message, when its timer is `late` or its
queue `fails`. -/
def queueSlot (late fails : SocketIndex → Bool) (message : TransmitMessage) (s : SocketIndex) :
    TransmitMessage :=
  let message := if late s then closedMessage s message else message
  if fails s then
    { message with socketBitmask := message.socketBitmask &&& ~~~socketBit s }
  else message

theorem clear_of_getLsbD {mask : Dword} {s : SocketIndex} (h : mask.getLsbD s = false) :
    mask &&& ~~~socketBit s = mask := by
  refine BitVec.eq_of_getLsbD_eq fun i _ => ?_
  rw [getLsbD_clear]
  by_cases hi : i = s.val
  · rw [hi, h, Bool.false_and]
  · rw [decide_eq_true hi, Bool.and_true]

theorem closedMessage_of_getLsbD {message : TransmitMessage} {s : SocketIndex}
    (h : message.socketBitmask.getLsbD s = false) : closedMessage s message = message := by
  refine if_neg fun hbit => ?_
  rw [and_socketBit_ne_zero, h] at hbit
  cases hbit

/-- A message is not affected by sockets it is not for. -/
theorem queueSlot_of_getLsbD {late fails : SocketIndex → Bool} {message : TransmitMessage}
    {s : SocketIndex} (h : message.socketBitmask.getLsbD s = false) :
    queueSlot late fails message s = message := by
  simp only [queueSlot, closedMessage_of_getLsbD h, ite_self, clear_of_getLsbD h]

/-- Queuing a message clears the bit of the socket if it is dropped, and no other bit. -/
theorem getLsbD_queueSlot (late fails : SocketIndex → Bool) (message : TransmitMessage)
    (s : SocketIndex) (i : ℕ) :
    (queueSlot late fails message s).socketBitmask.getLsbD i =
      (message.socketBitmask.getLsbD i && decide (i = s.val → ¬ (late s ∨ fails s))) := by
  cases hbit : message.socketBitmask.getLsbD s with
  | false =>
    rw [queueSlot_of_getLsbD hbit]
    by_cases hi : i = s.val
    · rw [hi, hbit, Bool.false_and]
    · simp [hi]
  | true =>
    have hclose : closedMessage s message = clearedMessage s message :=
      if_pos ((and_socketBit_ne_zero ..).2 hbit)
    cases hl : late s <;> cases hf : fails s <;>
      simp only [queueSlot, hl, hf, hclose, clearedMessage, getLsbD_clear, if_true, if_false,
        Bool.false_eq_true] <;>
      by_cases hi : i = s.val <;> simp [hi]

theorem queueSlot_messageStringPtr (late fails : SocketIndex → Bool) (message : TransmitMessage)
    (s : SocketIndex) :
    (queueSlot late fails message s).messageStringPtr =
      if late s ∧ message.socketBitmask.getLsbD s = true ∧
        message.socketBitmask &&& ~~~socketBit s = 0 then none else message.messageStringPtr := by
  cases hbit : message.socketBitmask.getLsbD s with
  | false =>
    rw [queueSlot_of_getLsbD hbit]
    simp
  | true =>
    have hclose : closedMessage s message = clearedMessage s message :=
      if_pos ((and_socketBit_ne_zero ..).2 hbit)
    cases hl : late s <;> cases hf : fails s <;>
      simp [queueSlot, hl, hf, hclose, clearedMessage]

theorem foldl_queueSlot_none {late fails : SocketIndex → Bool} (sockets : List SocketIndex)
    {message : TransmitMessage} (hx : message.messageStringPtr = none) :
    (sockets.foldl (queueSlot late fails) message).messageStringPtr = none := by
  induction sockets generalizing message with
  | nil => exact hx
  | cons s sockets ih =>
    refine ih ?_
    rw [queueSlot_messageStringPtr, hx, ite_self]

/-- The bit of a socket is the last one. -/
theorem clear_eq_zero_iff {mask : Dword} (s : SocketIndex)
    (hhigh : ∀ i, maxNumberOfIncomingJsonConnections ≤ i → mask.getLsbD i = false) :
    mask &&& ~~~socketBit s = 0 ↔ ∀ t : SocketIndex, mask.getLsbD t = true → t = s := by
  constructor
  · intro hzero t ht
    by_contra hts
    have hval : t.val ≠ s.val := fun h => hts (Fin.ext h)
    have hbit : (mask &&& ~~~socketBit s).getLsbD t = true := by
      rw [getLsbD_clear, ht, decide_eq_true hval, Bool.and_self]
    rw [hzero] at hbit
    simp at hbit
  · intro h
    refine eq_zero_of_getLsbD fun i => ?_
    rw [getLsbD_clear]
    by_cases hi : i < maxNumberOfIncomingJsonConnections
    · cases hbit : mask.getLsbD i with
      | false => rfl
      | true =>
        have hs : i = s.val := congrArg Fin.val (h ⟨i, hi⟩ hbit)
        simp [hs]
    · rw [hhigh i (Nat.not_lt.1 hi), Bool.false_and]

/-- A message loses its string while it is queued exactly when closing the last of its sockets
for its timer clears the last bit. -/
theorem foldl_queueSlot_eq_none {late fails : SocketIndex → Bool} {sockets : List SocketIndex}
    (hsorted : sockets.Pairwise (· < ·)) {message : TransmitMessage} {x : ℕ}
    (hx : message.messageStringPtr = some x)
    (hhigh : ∀ i, maxNumberOfIncomingJsonConnections ≤ i →
      message.socketBitmask.getLsbD i = false) :
    (sockets.foldl (queueSlot late fails) message).messageStringPtr = none ↔
      (∀ s : SocketIndex, message.socketBitmask.getLsbD s = true → s ∈ sockets) ∧
        ∃ last : SocketIndex, message.socketBitmask.getLsbD last = true ∧ late last ∧
          ∀ s : SocketIndex, message.socketBitmask.getLsbD s = true →
            s = last ∨ s < last ∧ (late s ∨ fails s) := by
  induction sockets generalizing message with
  | nil =>
    simp only [List.foldl_nil, hx, List.not_mem_nil, imp_false, reduceCtorEq, false_iff]
    rintro ⟨hnone, last, hlast, -⟩
    exact hnone last hlast
  | cons k sockets ih =>
    obtain ⟨hlt, hsorted⟩ := List.pairwise_cons.1 hsorted
    rw [List.foldl_cons]
    have hptr := queueSlot_messageStringPtr late fails message k
    have hbits : ∀ t : SocketIndex,
        (queueSlot late fails message k).socketBitmask.getLsbD t = true ↔
        message.socketBitmask.getLsbD t = true ∧ (t = k → ¬ (late k ∨ fails k)) := by
      intro t
      rw [getLsbD_queueSlot, Bool.and_eq_true, decide_eq_true_iff, Fin.val_inj]
    split at hptr
    · -- the string is freed here: `k` is late and has the only bit
      rename_i hfree
      obtain ⟨hlate, hbit, hzero⟩ := hfree
      have hall := (clear_eq_zero_iff k hhigh).1 hzero
      refine iff_of_true (foldl_queueSlot_none _ hptr) ⟨fun s hs => ?_, k, hbit, hlate,
        fun s hs => .inl (hall s hs)⟩
      rw [hall s hs]
      exact List.mem_cons_self
    · rename_i hkeep
      rw [ih hsorted (hptr.trans hx) fun i hi => by
        rw [getLsbD_queueSlot, hhigh i hi, Bool.false_and]]
      constructor
      · rintro ⟨hmem, last, hlast, hlate, hrest⟩
        have hlast' := (hbits last).1 hlast
        refine ⟨fun s hs => ?_, last, hlast'.1, hlate, fun s hs => ?_⟩
        · by_cases hsk : s = k
          · rw [hsk]; exact List.mem_cons_self
          · exact List.mem_cons_of_mem _ (hmem s ((hbits s).2 ⟨hs, fun h => absurd h hsk⟩))
        · by_cases hsk : s = k
          · subst hsk
            refine .inr ⟨hlt last (hmem last hlast), ?_⟩
            by_contra hdrop
            have hs' := (hbits s).2 ⟨hs, fun _ => hdrop⟩
            exact absurd (hlt s (hmem s hs')) (lt_irrefl s)
          · exact hrest s ((hbits s).2 ⟨hs, fun h => absurd h hsk⟩)
      · rintro ⟨hmem, last, hlast, hlate, hrest⟩
        -- `k` is not the last socket: it would be late and have the only bit
        have hne : last ≠ k := by
          rintro rfl
          refine hkeep ⟨hlate, hlast, (clear_eq_zero_iff last hhigh).2 fun t ht => ?_⟩
          rcases hrest t ht with rfl | ⟨htl, -⟩
          · rfl
          · rcases List.mem_cons.1 (hmem t ht) with rfl | htm
            · rfl
            · exact absurd (hlt t htm) (lt_asymm htl)
        refine ⟨fun s hs => ?_, last, (hbits last).2 ⟨hlast, fun h => absurd h hne⟩, hlate,
          fun s hs => hrest s ((hbits s).1 hs).1⟩
        obtain ⟨hbit, hdrop⟩ := (hbits s).1 hs
        rcases List.mem_cons.1 (hmem s hbit) with rfl | hsm
        · rcases hrest s hbit with h | ⟨-, hd⟩
          · exact absurd h.symm hne
          · exact absurd hd (hdrop rfl)
        · exact hsm

theorem Building.closeLate {x : ℕ} {sockets : SocketIndex → Prop} (h : Building st x sockets)
    (s : SocketIndex) : Building (closeLate st s) x sockets := by
  unfold Json.closeLate
  split
  · exact h.shutdownSocket s
  · exact h

/-- A socket that is to get the message gets it or loses its bit. -/
theorem Building.queueBroadcast {x : ℕ} {sockets : SocketIndex → Prop}
    (h : Building st x sockets) (sendFails : SocketIndex → Bool) {s : SocketIndex}
    (hqueue : (st.JSONTransmitMessage st.currentMessageIndex).socketBitmask.getLsbD s = true →
      (st.jsonSockets s).JSONSocketConnection ≠ 0 ∧ ¬ Suppressed st s) :
    Building (queueBroadcast sendFails st s) x (fun t => t ≠ s ∧ sockets t) ∧
      (queueBroadcast sendFails st s).JSONTransmitMessage st.currentMessageIndex =
        queueSlot (timedOut st) sendFails (st.JSONTransmitMessage st.currentMessageIndex) s := by
  have hlate := h.closeLate s
  unfold Json.queueBroadcast
  split
  · rw [addToTransmitSocketQueue_eq]
    by_cases hf : sendFails s
    · simp only [hf, if_true]
      refine ⟨hlate.clearBit s, ?_⟩
      rw [closeLate_currentMessageIndex]
      simp [JsonState.setSlot, queueSlot, hf, closeLate_message]
    · simp only [hf, Bool.false_eq_true, if_false]
      refine ⟨hlate.enqueue s, ?_⟩
      simp [queueSlot, hf, closeLate_message]
  · rename_i hskip
    have hbit : (st.JSONTransmitMessage st.currentMessageIndex).socketBitmask.getLsbD s = false :=
      Bool.eq_false_iff.2 fun hbit => hskip (hqueue hbit)
    exact ⟨h.skip hbit, (queueSlot_of_getLsbD hbit).symm⟩

/-- **The loop over the sockets**: what it does to the message, and that every socket left in the
bitmask has a message pending. -/
theorem Building.foldl_queueBroadcast {x : ℕ} {todo : SocketIndex → Prop}
    (h : Building st x todo) (sendFails late : SocketIndex → Bool) {sockets : List SocketIndex}
    (hnodup : sockets.Nodup) (hlate : ∀ s ∈ sockets, timedOut st s = late s)
    (hqueue : ∀ s ∈ sockets,
      (st.JSONTransmitMessage st.currentMessageIndex).socketBitmask.getLsbD s = true →
        (st.jsonSockets s).JSONSocketConnection ≠ 0 ∧ ¬ Suppressed st s) :
    let st' := sockets.foldl (Json.queueBroadcast sendFails) st
    Building st' x (fun t => t ∉ sockets ∧ todo t) ∧
      st'.currentMessageIndex = st.currentMessageIndex ∧
      st'.JSONTransmitMessage st.currentMessageIndex =
        sockets.foldl (queueSlot late sendFails)
          (st.JSONTransmitMessage st.currentMessageIndex) := by
  induction sockets generalizing st todo with
  | nil => exact ⟨by simpa using h, rfl, rfl⟩
  | cons k sockets ih =>
    obtain ⟨hk, hnodup⟩ := List.nodup_cons.1 hnodup
    obtain ⟨hstep, hmessage⟩ := h.queueBroadcast sendFails (hqueue k List.mem_cons_self)
    obtain ⟨socket, messages, queue, heap, count, hframe⟩ := queueBroadcast_frame sendFails st k
    have hsocket : ∀ s ∈ sockets,
        (Json.queueBroadcast sendFails st k).jsonSockets s = st.jsonSockets s := by
      intro s hs
      have hsk : s ≠ k := by rintro rfl; exact hk hs
      rw [hframe]
      exact Function.update_of_ne hsk ..
    have hcur : (Json.queueBroadcast sendFails st k).currentMessageIndex =
        st.currentMessageIndex := by
      rw [hframe]; rfl
    have hmode : (Json.queueBroadcast sendFails st k).manufacturingTestModeFlag =
        st.manufacturingTestModeFlag := by
      rw [hframe]; rfl
    have hqueueSlot : queueSlot (timedOut st) sendFails
        (st.JSONTransmitMessage st.currentMessageIndex) k =
        queueSlot late sendFails (st.JSONTransmitMessage st.currentMessageIndex) k := by
      simp only [queueSlot, hlate k List.mem_cons_self]
    obtain ⟨hbuild, hcur', hmessage'⟩ := ih hstep hnodup (fun s hs => by
        have := hlate s (List.mem_cons_of_mem _ hs)
        simpa only [timedOut, hsocket s hs] using this) (fun s hs hbit => by
        rw [hcur, hmessage, hqueueSlot, getLsbD_queueSlot, Bool.and_eq_true] at hbit
        have := hqueue s (List.mem_cons_of_mem _ hs) hbit.1
        simpa only [Suppressed, hsocket s hs, hmode] using this)
    refine ⟨?_, hcur'.trans hcur, ?_⟩
    · have heq : (fun t => t ∉ k :: sockets ∧ todo t) = fun t => t ∉ sockets ∧ t ≠ k ∧ todo t := by
        funext t
        simp only [List.mem_cons, not_or, eq_iff_iff]
        exact ⟨fun ⟨⟨h1, h2⟩, h3⟩ => ⟨h2, h1, h3⟩, fun ⟨h2, h1, h3⟩ => ⟨⟨h1, h2⟩, h3⟩⟩
      rw [heq]
      exact hbuild
    · rw [hcur, hmessage, hqueueSlot] at hmessage'
      exact hmessage'

/-- A string that is not put into a slot is freed. -/
theorem Inv.freeString (h : Inv st) (i : SlotIndex) :
    Inv (JsonState.freeString { st with
      heap := st.heap.alloc, globalCount := st.globalCount + 1, currentMessageIndex := i }
      st.heap.next) where
  owned := h.owned.alloc_free
  string := h.string
  free := h.free
  pending := h.pending
  high := h.high
  reads := h.reads
  count := by
    have hnew := h.owned.fresh st.heap.next (Nat.le_refl _)
    have hlive : st.heap.alloc.Live st.heap.next :=
      (Heap.live_alloc hnew).2 (.inr rfl)
    have hcount := Heap.liveCount_free hlive
    rw [Heap.liveCount_alloc hnew] at hcount
    simp only [JsonState.freeString, h.count]
    rw [Nat.succ.inj hcount, BitVec.add_sub_cancel]

/-- A string put into a free slot. -/
theorem Inv.buildMessagePacket (h : Inv st) {i : SlotIndex} (len : Word) (mask : Dword)
    (hfree : (st.JSONTransmitMessage i).socketBitmask = 0)
    (hhigh : ∀ k, maxNumberOfIncomingJsonConnections ≤ k → mask.getLsbD k = false) :
    Building (Json.buildMessagePacket { st with
      heap := st.heap.alloc, globalCount := st.globalCount + 1, currentMessageIndex := i }
      st.heap.next len mask) st.heap.next fun s => mask.getLsbD s = true := by
  have hnew := h.owned.fresh st.heap.next (Nat.le_refl _)
  refine ⟨?_, .inl ?_⟩
  · constructor
    case owned =>
      simp only [Json.buildMessagePacket, JsonState.setSlot, holds_update]
      exact h.owned.put (h.free i id hfree)
    case string =>
      intro m hm
      by_cases hmi : m = i
      · subst hmi
        simp [Json.buildMessagePacket, JsonState.setSlot] at hm
      · simp only [Json.buildMessagePacket, JsonState.setSlot, Function.update_of_ne hmi] at hm ⊢
        exact h.string m hm
    case free =>
      intro m hmi hm
      have hmi : m ≠ i := hmi
      simp only [Json.buildMessagePacket, JsonState.setSlot, Function.update_of_ne hmi] at hm ⊢
      exact h.free m id hm
    case pending =>
      intro m s hm
      by_cases hmi : m = i
      · subst hmi
        simp only [Json.buildMessagePacket, JsonState.setSlot, Function.update_self] at hm
        exact .inr ⟨rfl, hm⟩
      · simp only [Json.buildMessagePacket, JsonState.setSlot, Function.update_of_ne hmi] at hm
        exact .inl ((h.pending m s hm).resolve_right id)
    case high =>
      intro m k hk
      by_cases hmi : m = i
      · subst hmi
        simp only [Json.buildMessagePacket, JsonState.setSlot, Function.update_self]
        exact hhigh k hk
      · simp only [Json.buildMessagePacket, JsonState.setSlot, Function.update_of_ne hmi]
        exact h.high m k hk
    case reads => exact h.reads
    case count =>
      simp only [Json.buildMessagePacket, JsonState.setSlot, h.count, Heap.liveCount_alloc hnew,
        BitVec.ofNat_add]
      rfl
  · simp [Json.buildMessagePacket, JsonState.setSlot]

/-- A message built for one socket. -/
theorem Building.sendToSocket {x : ℕ} {s : SocketIndex}
    (h : Building st x fun t => (socketBit s).getLsbD t = true) {len : Word}
    (hmessage : st.JSONTransmitMessage st.currentMessageIndex = ⟨some x, socketBit s, len⟩)
    (sendFails : SocketIndex → Bool) :
    let st' := (addToTransmitSocketQueue sendFails st s).1
    let sent := if (addToTransmitSocketQueue sendFails st s).2 then dropMessage st' x else st'
    (¬ (timedOut st s ∧ sendFails s) → Inv sent) ∧
      (timedOut st s ∧ sendFails s → ¬ StringsSound sent) := by
  have hlate := h.closeLate s
  have hself : (socketBit s).getLsbD s = true := by
    rw [getLsbD_socketBit, decide_eq_true rfl]
  have hclear : socketBit s &&& ~~~socketBit s = 0 := BitVec.and_not_self ..
  have hclosed : closedMessage s ⟨some x, socketBit s, len⟩ = ⟨none, 0, len⟩ := by
    rw [closedMessage, if_pos ((and_socketBit_ne_zero ..).2 hself)]
    simp only [clearedMessage, hclear, if_true]
  have hmessage' := closeLate_message st s st.currentMessageIndex
  rw [hmessage, hclosed, ← closeLate_currentMessageIndex st s] at hmessage'
  intro st' sent
  by_cases hf : sendFails s
  · have hsent : sent = dropMessage (Json.closeLate st s) x := by
      simp only [sent, st', addToTransmitSocketQueue_eq, hf, if_true]
    rw [hsent]
    by_cases ht : timedOut st s
    · rw [if_pos ht] at hmessage'
      refine ⟨fun hno => absurd ⟨ht, hf⟩ hno, fun _ => ?_⟩
      exact hlate.not_stringsSound_dropMessage (by rw [hmessage'])
    · rw [if_neg ht] at hmessage'
      refine ⟨fun _ => hlate.inv_dropMessage (by rw [hmessage']), fun hyes => absurd hyes.1 ht⟩
  · have hsent : sent = { Json.closeLate st s with
        queue := Function.update (Json.closeLate st s).queue s
          ((Json.closeLate st s).queue s ++ [(Json.closeLate st s).currentMessageIndex]) } := by
      simp only [sent, st', addToTransmitSocketQueue_eq, hf, Bool.false_eq_true, if_false]
    rw [hsent]
    refine ⟨fun _ => ?_, fun hyes => absurd hyes.2 hf⟩
    refine ((hlate.enqueue s).mono fun t ht => ?_).inv ?_
    · obtain ⟨hts, hbit⟩ := ht
      rw [getLsbD_socketBit, decide_eq_true_iff] at hbit
      exact hts (Fin.ext hbit)
    · dsimp only
      rw [hmessage']
      split
      · exact fun _ => rfl
      · intro hzero
        have hzero : socketBit s = 0 := hzero
        rw [hzero] at hself
        simp at hself

/-- A message built for all addressed sockets. -/
theorem Building.sendToAll {x : ℕ}
    (h : Building st x fun t => (broadcastBitmask st).getLsbD t = true) {len : Word}
    (hmessage : st.JSONTransmitMessage st.currentMessageIndex =
      ⟨some x, broadcastBitmask st, len⟩)
    (sendFails : SocketIndex → Bool) :
    let st' := (List.finRange _).foldl (Json.queueBroadcast sendFails) st
    let sent :=
      if (st'.JSONTransmitMessage st'.currentMessageIndex).socketBitmask = 0 then
        dropMessage st' x
      else st'
    (¬ LastTimedOut sendFails st → Inv sent) ∧
      (LastTimedOut sendFails st → ¬ StringsSound sent) := by
  intro st' sent
  have hbits : ∀ s : SocketIndex, (broadcastBitmask st).getLsbD s = true ↔
      Addressed (st.jsonSockets s) := by
    intro s
    rw [getLsbD_broadcastBitmask]
    constructor
    · rintro ⟨t, hts, ht⟩
      rwa [Fin.ext hts] at ht
    · exact fun hs => ⟨s, rfl, hs⟩
  obtain ⟨hbuild, hcur, hmsg⟩ := h.foldl_queueBroadcast sendFails (timedOut st)
    (List.nodup_finRange _) (fun _ _ => rfl) fun s _ hs => by
      rw [hmessage] at hs
      exact ((hbits s).1 hs).queued
  have hbuild : Building st' x fun _ => False :=
    hbuild.mono fun t ht => ht.1 (List.mem_finRange t)
  have hnone : (st'.JSONTransmitMessage st'.currentMessageIndex).messageStringPtr = none ↔
      LastTimedOut sendFails st := by
    have hptr : (⟨some x, broadcastBitmask st, len⟩ : TransmitMessage).messageStringPtr = some x :=
      rfl
    rw [show st'.currentMessageIndex = st.currentMessageIndex from hcur, hmsg, hmessage,
      foldl_queueSlot_eq_none (List.pairwise_lt_finRange _) hptr
        fun i hi => broadcastBitmask_high st hi]
    simp only [hbits, List.mem_finRange, implies_true, true_and]
    rfl
  by_cases hlast : LastTimedOut sendFails st
  · refine ⟨fun hno => absurd hlast hno, fun _ => ?_⟩
    have hptr := hnone.2 hlast
    rw [show sent = dropMessage st' x from if_pos (hbuild.core.string _ hptr)]
    exact hbuild.not_stringsSound_dropMessage hptr
  · refine ⟨fun _ => ?_, fun hyes => absurd hyes hlast⟩
    have hptr := hbuild.string.resolve_right fun hno => hlast (hnone.1 hno.1)
    by_cases hzero : (st'.JSONTransmitMessage st'.currentMessageIndex).socketBitmask = 0
    · rw [show sent = dropMessage st' x from if_pos hzero]
      exact hbuild.inv_dropMessage hptr
    · rw [show sent = st' from if_neg hzero]
      exact hbuild.inv fun h0 => absurd h0 hzero

/-- What sending to one socket does to the strings. -/
theorem Inv.sendToSocket (h : Inv st) {i : SlotIndex} (len : Word)
    (hfree : (st.JSONTransmitMessage i).socketBitmask = 0) (sendFails : SocketIndex → Bool)
    (s : SocketIndex) :
    let sent := sendToSocket sendFails (afterDump st i) st.heap.next len s
    ((Authorized (st.jsonSockets s) → ¬ (timedOut st s ∧ sendFails s)) → Inv sent) ∧
      (¬ (Authorized (st.jsonSockets s) → ¬ (timedOut st s ∧ sendFails s)) →
        ¬ StringsSound sent) := by
  intro sent
  by_cases hauth : Authorized (st.jsonSockets s)
  · have hhigh : ∀ k, maxNumberOfIncomingJsonConnections ≤ k → (socketBit s).getLsbD k = false := by
      intro k hk
      rw [getLsbD_socketBit, decide_eq_false_iff_not]
      rintro rfl
      exact absurd s.isLt (Nat.not_lt.2 hk)
    have hbuilt := h.buildMessagePacket len (socketBit s) hfree hhigh
    obtain ⟨hgood, hbad⟩ := hbuilt.sendToSocket (Function.update_self ..) sendFails
    have hsent : sent = if (addToTransmitSocketQueue sendFails
        (Json.buildMessagePacket (afterDump st i) st.heap.next len (socketBit s)) s).2
          then _ else _ := if_pos hauth
    rw [hsent]
    exact ⟨fun hK => hgood (hK hauth), fun hK => hbad (not_not.1 fun hno => hK fun _ => hno)⟩
  · rw [show sent = (afterDump st i).freeString st.heap.next from if_neg hauth]
    exact ⟨fun _ => h.freeString i, fun hK => absurd (fun hyes => absurd hyes hauth) hK⟩

/-- What a broadcast does to the strings. -/
theorem Inv.sendToAll (h : Inv st) {i : SlotIndex} (len : Word)
    (hfree : (st.JSONTransmitMessage i).socketBitmask = 0) (sendFails : SocketIndex → Bool) :
    let sent := sendToAll sendFails (afterDump st i) st.heap.next len
    (¬ LastTimedOut sendFails st → Inv sent) ∧
      (LastTimedOut sendFails st → ¬ StringsSound sent) := by
  intro sent
  let built := Json.buildMessagePacket (afterDump st i) st.heap.next len (broadcastBitmask st)
  have hmask : broadcastBitmask (afterDump st i) = broadcastBitmask st := rfl
  by_cases hzero : broadcastBitmask st = 0
  · have hsent : sent = (afterDump st i).freeString st.heap.next := by
      simp only [sent, Json.sendToAll, hmask, hzero, ne_eq, not_true_eq_false, if_false]
    rw [hsent]
    refine ⟨fun _ => h.freeString i, ?_⟩
    rintro ⟨last, hlast, -⟩
    have hbit := (getLsbD_broadcastBitmask st last).2 ⟨last, rfl, hlast⟩
    rw [hzero] at hbit
    simp at hbit
  · have hbuilt : Building built st.heap.next fun s => (broadcastBitmask built).getLsbD s = true :=
      h.buildMessagePacket len (broadcastBitmask st) hfree fun _ hk => broadcastBitmask_high st hk
    have hspec := hbuilt.sendToAll (Function.update_self ..) sendFails
    have hsent : sent =
        let st' := (List.finRange _).foldl (queueBroadcast sendFails) built
        if (st'.JSONTransmitMessage st'.currentMessageIndex).socketBitmask = 0 then
          dropMessage st' st.heap.next
        else st' := by
      simp only [sent, Json.sendToAll, hmask, hzero, ne_eq, not_false_eq_true, if_true, built]
    rw [hsent]
    exact hspec

/-- **What `SendJSONPacket` does to the strings**: it keeps them in order exactly when it does not
drop a packet for the timer of its last socket. -/
theorem sendJSONPacket_spec (h : Inv st) (sendFails : SocketIndex → Bool) (len : Word)
    (socketIndex : Byte) :
    (SendsOnce st (.sendJSONPacket sendFails len socketIndex) →
      Inv (sendJSONPacket sendFails st len socketIndex)) ∧
    (¬ SendsOnce st (.sendJSONPacket sendFails len socketIndex) →
      ¬ StringsSound (sendJSONPacket sendFails st len socketIndex)) := by
  let st₁ : JsonState := { st with heap := st.heap.alloc, globalCount := st.globalCount + 1 }
  obtain ⟨i, hframe⟩ := getNextCurrentMessageSlot_frame st₁
  have hfound := getNextCurrentMessageSlot_found st₁
  have hunfold : sendJSONPacket sendFails st len socketIndex =
      if (getNextCurrentMessageSlot st₁).2 then
        if h : socketIndex.toNat < maxNumberOfIncomingJsonConnections then
          sendToSocket sendFails (afterDump st i) st.heap.next len ⟨socketIndex.toNat, h⟩
        else sendToAll sendFails (afterDump st i) st.heap.next len
      else (afterDump st i).freeString st.heap.next := by
    rw [show afterDump st i = { st₁ with currentMessageIndex := i } from rfl, ← hframe]
    rfl
  rw [hunfold]
  by_cases hslot : (getNextCurrentMessageSlot st₁).2 = true
  · have hfree := getNextCurrentMessageSlot_free hslot
    rw [hframe] at hfree
    have hsome := hfound.1 hslot
    rw [if_pos hslot]
    by_cases hs : socketIndex.toNat < maxNumberOfIncomingJsonConnections
    · have hcond : SendsOnce st (.sendJSONPacket sendFails len socketIndex) ↔
          (Authorized (st.jsonSockets ⟨socketIndex.toNat, hs⟩) →
            ¬ (timedOut st ⟨socketIndex.toNat, hs⟩ ∧ sendFails ⟨socketIndex.toNat, hs⟩)) := by
        simp only [SendsOnce, dif_pos hs]
        exact ⟨fun hK => hK hsome, fun hK _ => hK⟩
      rw [dif_pos hs, hcond]
      exact h.sendToSocket len hfree sendFails _
    · have hcond : SendsOnce st (.sendJSONPacket sendFails len socketIndex) ↔
          ¬ LastTimedOut sendFails st := by
        simp only [SendsOnce, dif_neg hs]
        exact ⟨fun hK => hK hsome, fun hK _ => hK⟩
      rw [dif_neg hs, hcond, not_not]
      exact h.sendToAll len hfree sendFails
  · have hcond : SendsOnce st (.sendJSONPacket sendFails len socketIndex) :=
      fun hsome => absurd (hfound.2 hsome) hslot
    rw [if_neg hslot]
    exact ⟨fun _ => h.freeString i, fun hK => absurd hcond hK⟩

/-! ### Runs -/

theorem inv_start : Inv JsonState.start where
  owned :=
    { fresh := fun _ _ => rfl
      once := fun _ => Nat.zero_le 1
      held := fun _ _ h => nomatch h
      inj := fun _ _ _ h => nomatch h
      owner := fun x h => absurd h.1 (Nat.not_lt_zero x) }
  string _ _ := rfl
  free _ _ _ := rfl
  pending m s h := by simp [JsonState.start] at h
  high m i _ := by simp [JsonState.start]
  reads := rfl
  count := rfl

theorem inv_acceptConnection (h : Inv st) (watch : Bool) : Inv (acceptConnection st watch) := by
  unfold acceptConnection
  split
  · exact ⟨h.owned, h.string, h.free, h.pending, h.high, h.reads, h.count⟩
  · exact h

/-- Every step that meets the condition keeps the invariant. -/
theorem Inv.step (h : Inv st) {e : Event} {st' : JsonState} (hK : SendsOnce st e)
    (hs : jsonTransmit.step st e = some st') : Inv st' := by
  cases e with
  | sendJSONPacket sendFails len socketIndex =>
    obtain rfl := Option.some.inj hs
    exact (sendJSONPacket_spec h sendFails len socketIndex).1 hK
  | receiveMessage s => exact inv_receiveMessage h hs
  | sendReturns s result => exact inv_sendReturns h hs
  | delayExpires s => exact inv_delayExpires h hs
  | resendReturns s retryResult => exact inv_resendReturns h hs
  | finishMessage s => exact inv_finishMessage h hs
  | shutdownSocket s =>
    obtain rfl := Option.some.inj hs
    exact CoreInv.shutdownSocket h s
  | accept watch =>
    obtain rfl := Option.some.inj hs
    exact inv_acceptConnection h watch
  | setJsaState s jsaState =>
    obtain rfl := Option.some.inj hs
    exact CoreInv.setSocket h s _
  | setReceive s httpSocket jsonReceiveMessage =>
    obtain rfl := Option.some.inj hs
    exact CoreInv.setSocket h s _
  | tick tickCount =>
    obtain rfl := Option.some.inj hs
    exact ⟨h.owned, h.string, h.free, h.pending, h.high, h.reads, h.count⟩
  | setManufacturingTestMode flag =>
    obtain rfl := Option.some.inj hs
    exact ⟨h.owned, h.string, h.free, h.pending, h.high, h.reads, h.count⟩

/-- Every step that does not meet it frees a string twice. -/
theorem Inv.not_step (h : Inv st) {e : Event} {st' : JsonState}
    (hs : jsonTransmit.step st e = some st') (hsound : StringsSound st') : SendsOnce st e := by
  cases e with
  | sendJSONPacket sendFails len socketIndex =>
    obtain rfl := Option.some.inj hs
    by_contra hK
    exact (sendJSONPacket_spec h sendFails len socketIndex).2 hK hsound
  | _ => trivial

/-- **String lifetime**: in every interleaving of `SendJSONPacket`, the transmit tasks,
`ShutdownSocket` and whatever happens to the sockets, the strings are in order in every state
exactly when no packet is dropped for its last socket because the timer of the socket has
expired. -/
theorem allStates_stringsSound_iff (es : List Event) :
    jsonTransmit.AllStates StringsSound .start es ↔ jsonTransmit.AllSteps SendsOnce .start es :=
  Machine.allStates_iff_allSteps (fun _ h => Inv.stringsSound h)
    (fun _ _ _ h hK hs => Inv.step h hK hs) (fun _ _ _ h hs hsound => Inv.not_step h hs hsound)
    inv_start

/-- One client connects, is authorized, takes no packet for ten seconds, and then a broadcast is
sent: its string is freed by `ShutdownSocket` and again by `SendJSONPacket`. -/
theorem not_stringsSound_of_timedOut : ¬ ∀ es, jsonTransmit.AllStates StringsSound .start es := by
  intro h
  have hrun := h [.accept false, .setJsaState 0 jsaStateAuthValid, .tick 10001,
    .sendJSONPacket (fun _ => false) 20 7]
  have hfinal : (jsonTransmit.run .start [.accept false, .setJsaState 0 jsaStateAuthValid,
      .tick 10001, .sendJSONPacket (fun _ => false) 20 7]).map
        (fun st => (st.heap.next, st.heap.freeCount 0)) = some (1, 2) := by
    decide +kernel
  obtain ⟨st, hst, hheap⟩ := Option.map_eq_some_iff.1 hfinal
  obtain ⟨hnext, htwice⟩ := Prod.mk.inj hheap
  rcases (hrun.of_run hst).once 0 (by omega) with h1 | ⟨h0, -⟩ <;> omega

end Json

end Lcm
