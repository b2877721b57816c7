import Lcm.Json.Transmit

/-!
# Slots of the JSON transmission

What clearing bits, closing a socket and searching for a free slot do to the slots, and that they
do nothing else.

## Main results

* `clearSocketBit_message`, `shutdownSocket_message` : the slots afterwards.
* `shutdownSocket_induction` : what clearing a bit keeps, closing a socket keeps.
* `shutdownSocket_frame` : closing a socket changes its entry, the slots and the heap only.
* `queueBroadcast_frame` : what queuing a message for a socket can change.
* `getNextCurrentMessageSlot_found` : the search finds a free slot exactly when there is one.
-/

namespace Lcm

namespace Json

/-! ### Bits -/

theorem socketIndex_lt (s : SocketIndex) : s.val < 32 := Nat.lt_of_lt_of_le s.isLt (by decide)

theorem socketBit_eq_twoPow (s : SocketIndex) : socketBit s = BitVec.twoPow 32 s := by
  rw [socketBit, BitVec.twoPow]

theorem getLsbD_socketBit (s : SocketIndex) (i : ℕ) :
    (socketBit s).getLsbD i = decide (i = s.val) := by
  have hs := socketIndex_lt s
  rw [socketBit_eq_twoPow, BitVec.getLsbD_twoPow]
  by_cases h : i = s.val
  · simp [h, hs]
  · simp [h, Ne.symm h]

/-- Clearing the bit of a socket leaves the other bits. -/
theorem getLsbD_clear (mask : Dword) (s : SocketIndex) (i : ℕ) :
    (mask &&& ~~~socketBit s).getLsbD i = (mask.getLsbD i && decide (i ≠ s.val)) := by
  rw [BitVec.getLsbD_and, BitVec.getLsbD_not, getLsbD_socketBit]
  by_cases hi : i < 32
  · simp [hi]
  · simp [hi, BitVec.getLsbD_of_ge mask i (by omega)]

theorem getLsbD_clear_self (mask : Dword) (s : SocketIndex) :
    (mask &&& ~~~socketBit s).getLsbD s = false := by
  rw [getLsbD_clear, decide_eq_false (not_not.2 rfl), Bool.and_false]

theorem and_socketBit_ne_zero (mask : Dword) (s : SocketIndex) :
    mask &&& socketBit s ≠ 0 ↔ mask.getLsbD s = true := by
  have hs := socketIndex_lt s
  constructor
  · intro h
    by_contra hbit
    refine h (BitVec.eq_of_getLsbD_eq fun i _ => ?_)
    rw [BitVec.getLsbD_and, getLsbD_socketBit]
    by_cases hi : i = s.val
    · subst hi; simp [Bool.eq_false_iff.2 hbit]
    · simp [hi]
  · intro hbit h
    have hand := congrArg (BitVec.getLsbD · s.val) h
    simp [getLsbD_socketBit, hbit] at hand

theorem eq_zero_of_getLsbD {mask : Dword} (h : ∀ i, mask.getLsbD i = false) : mask = 0 :=
  BitVec.eq_of_getLsbD_eq fun i _ => by rw [h i]; simp

/-! ### Clearing a bit -/

/-- A message after the bit of a socket is cleared. -/
def clearedMessage (s : SocketIndex) (message : TransmitMessage) : TransmitMessage :=
  let mask := message.socketBitmask &&& ~~~socketBit s
  { message with
    socketBitmask := mask
    messageStringPtr := if mask = 0 then none else message.messageStringPtr }

/-- A message after its socket is closed. -/
def closedMessage (s : SocketIndex) (message : TransmitMessage) : TransmitMessage :=
  if message.socketBitmask &&& socketBit s ≠ 0 then clearedMessage s message else message

theorem clearSocketBit_message (st : JsonState) (s : SocketIndex) (m : SlotIndex) :
    (clearSocketBit st s m).JSONTransmitMessage =
      Function.update st.JSONTransmitMessage m (clearedMessage s (st.JSONTransmitMessage m)) := by
  unfold clearSocketBit clearedMessage
  dsimp only
  split
  · cases h : (st.JSONTransmitMessage m).messageStringPtr <;>
      simp [JsonState.freeString, JsonState.setSlot]
  · rfl

theorem clearSocketBit_heap (st : JsonState) (s : SocketIndex) (m : SlotIndex) :
    (clearSocketBit st s m).heap =
      if (st.JSONTransmitMessage m).socketBitmask &&& ~~~socketBit s = 0 then
        match (st.JSONTransmitMessage m).messageStringPtr with
        | some x => st.heap.free x
        | none => st.heap
      else st.heap := by
  unfold clearSocketBit
  dsimp only
  split
  · cases (st.JSONTransmitMessage m).messageStringPtr <;> rfl
  · rfl

/-- Clearing a bit changes the slots and the heap only. -/
theorem clearSocketBit_frame (st : JsonState) (s : SocketIndex) (m : SlotIndex) :
    ∃ messages heap count, clearSocketBit st s m =
      { st with JSONTransmitMessage := messages, heap := heap, globalCount := count } := by
  unfold clearSocketBit
  dsimp only
  split
  · split <;> exact ⟨_, _, _, rfl⟩
  · exact ⟨_, _, _, rfl⟩

theorem shutdownSlot_message (st : JsonState) (s : SocketIndex) (m : SlotIndex) :
    (shutdownSlot s st m).JSONTransmitMessage =
      Function.update st.JSONTransmitMessage m (closedMessage s (st.JSONTransmitMessage m)) := by
  unfold shutdownSlot closedMessage
  split
  · exact clearSocketBit_message st s m
  · exact (Function.update_eq_self ..).symm

theorem shutdownSlot_frame (st : JsonState) (s : SocketIndex) (m : SlotIndex) :
    ∃ messages heap count, shutdownSlot s st m =
      { st with JSONTransmitMessage := messages, heap := heap, globalCount := count } := by
  unfold shutdownSlot
  split
  · exact clearSocketBit_frame st s m
  · exact ⟨_, _, _, rfl⟩

/-! ### Closing a socket -/

theorem foldl_shutdownSlot_message (s : SocketIndex) (ms : List SlotIndex) (hms : ms.Nodup)
    (st : JsonState) (m : SlotIndex) :
    (ms.foldl (shutdownSlot s) st).JSONTransmitMessage m =
      if m ∈ ms then closedMessage s (st.JSONTransmitMessage m)
      else st.JSONTransmitMessage m := by
  induction ms generalizing st with
  | nil => rfl
  | cons k ms ih =>
    obtain ⟨hk, hms⟩ := List.nodup_cons.1 hms
    rw [List.foldl_cons, ih hms, shutdownSlot_message]
    by_cases hmk : m = k
    · subst hmk
      simp [hk]
    · simp [hmk]

theorem foldl_shutdownSlot_frame (s : SocketIndex) (ms : List SlotIndex) (st : JsonState) :
    ∃ messages heap count, ms.foldl (shutdownSlot s) st =
      { st with JSONTransmitMessage := messages, heap := heap, globalCount := count } := by
  induction ms generalizing st with
  | nil => exact ⟨_, _, _, rfl⟩
  | cons k ms ih =>
    obtain ⟨messages, heap, count, h⟩ := shutdownSlot_frame st s k
    obtain ⟨messages', heap', count', h'⟩ := ih (shutdownSlot s st k)
    exact ⟨messages', heap', count', by rw [List.foldl_cons, h', h]⟩

/-- Closing a socket clears its bit in every slot. -/
theorem shutdownSocket_message (st : JsonState) (s : SocketIndex) (m : SlotIndex) :
    (shutdownSocket st s).JSONTransmitMessage m =
      closedMessage s (st.JSONTransmitMessage m) := by
  have h := foldl_shutdownSlot_message s (List.finRange _) (List.nodup_finRange _)
    (st.setSocket s (freeReceiveMessage (st.jsonSockets s))) m
  rw [if_pos (List.mem_finRange m)] at h
  exact h

/-- Closing a socket changes the entry of the socket, the slots and the heap only. -/
theorem shutdownSocket_frame (st : JsonState) (s : SocketIndex) :
    ∃ socket messages heap count, socket.JSONSocketConnection = 0 ∧
      shutdownSocket st s =
        { st.setSocket s socket with
          JSONTransmitMessage := messages, heap := heap, globalCount := count } := by
  obtain ⟨messages, heap, count, h⟩ := foldl_shutdownSlot_frame s (List.finRange _)
    (st.setSocket s (freeReceiveMessage (st.jsonSockets s)))
  refine ⟨{ freeReceiveMessage (st.jsonSockets s) with JSONSocketConnection := 0 },
    messages, heap, count, rfl, ?_⟩
  simp only [shutdownSocket]
  rw [h]
  simp only [JsonState.setSocket, Function.update_idem]

/-- What clearing a bit and changing a socket keep, closing a socket keeps. -/
theorem shutdownSocket_induction {P : JsonState → Prop} {s : SocketIndex}
    (hclear : ∀ st m, P st → P (clearSocketBit st s m))
    (hsocket : ∀ st socket, P st → P (st.setSocket s socket)) {st : JsonState} (h : P st) :
    P (shutdownSocket st s) := by
  have hloop : ∀ (ms : List SlotIndex) (st : JsonState), P st →
      P (ms.foldl (shutdownSlot s) st) := by
    intro ms
    induction ms with
    | nil => exact fun _ h => h
    | cons m ms ih =>
      intro st h
      refine ih _ ?_
      unfold shutdownSlot
      split
      · exact hclear st m h
      · exact h
  exact hsocket _ _ (hloop _ _ (hsocket _ _ h))

/-! ### Searching a free slot -/

/-- The number of steps from slot `i` on to slot `start`. -/
def stepsTo (start i : SlotIndex) : ℕ :=
  if i.val ≤ start.val then start.val - i.val else start.val + 77 - i.val

theorem val_next (i : SlotIndex) : (i + 1).val = if i.val = 76 then 0 else i.val + 1 := by
  have hi : i.val < 77 := i.isLt
  rw [Fin.val_add, show ((1 : SlotIndex) : ℕ) = 1 from rfl]
  show (i.val + 1) % 77 = _
  split <;> omega

theorem stepsTo_next {start i : SlotIndex} (h : start ≠ i) :
    stepsTo start (i + 1) + 1 = stepsTo start i := by
  have hi : i.val < 77 := i.isLt
  have hs : start.val < 77 := start.isLt
  have hne : start.val ≠ i.val := fun h' => h (Fin.ext h')
  simp only [stepsTo, val_next]
  split_ifs <;> omega

theorem stepsTo_inj (start : SlotIndex) {i j : SlotIndex}
    (h : stepsTo start i = stepsTo start j) : i = j := by
  have hi : i.val < 77 := i.isLt
  have hj : j.val < 77 := j.isLt
  have hs : start.val < 77 := start.isLt
  apply Fin.ext
  simp only [stepsTo] at h
  split_ifs at h <;> omega

/-- With enough fuel the search stops at a free slot or at the start, and in the latter case it
has passed only occupied slots. -/
theorem searchSlot_spec (st : JsonState) (start : SlotIndex) {fuel : ℕ} {i : SlotIndex}
    (h : stepsTo start i ≤ fuel) :
    (searchSlot st start fuel i ≠ start →
      (st.JSONTransmitMessage (searchSlot st start fuel i)).socketBitmask = 0) ∧
    (searchSlot st start fuel i = start → ∀ j, stepsTo start j ≤ stepsTo start i → j ≠ start →
      (st.JSONTransmitMessage j).socketBitmask ≠ 0) := by
  induction fuel generalizing i with
  | zero =>
    have h0 : i = start := by
      refine stepsTo_inj start ?_
      simp only [stepsTo, Nat.le_refl, if_true, Nat.sub_self] at h ⊢
      exact Nat.le_zero.1 h
    subst h0
    refine ⟨fun hne => absurd rfl hne, fun _ j hj hne => absurd ?_ hne⟩
    refine stepsTo_inj i (Nat.le_antisymm hj ?_)
    exact h.trans (Nat.zero_le _)
  | succ fuel ih =>
    unfold searchSlot
    split
    · rename_i hc
      obtain ⟨hbusy, hne⟩ := hc
      have hnext := stepsTo_next hne
      obtain ⟨hfree, hall⟩ := ih (i := i + 1) (by omega)
      refine ⟨hfree, fun hstart j hj hjs => ?_⟩
      by_cases hji : j = i
      · rw [hji]; exact hbusy
      · have hlt : stepsTo start j ≠ stepsTo start i := fun h' => hji (stepsTo_inj start h')
        exact hall hstart j (by omega) hjs
    · rename_i hc
      refine ⟨fun hne => ?_, fun hstart j hj hjs => ?_⟩
      · by_contra hbusy
        exact hc ⟨hbusy, Ne.symm hne⟩
      · subst hstart
        refine absurd (stepsTo_inj i (Nat.le_antisymm hj ?_)) hjs
        simp [stepsTo]

/-- The search changes nothing but `currentMessageIndex`. -/
theorem getNextCurrentMessageSlot_frame (st : JsonState) :
    ∃ i, (getNextCurrentMessageSlot st).1 = { st with currentMessageIndex := i } := by
  unfold getNextCurrentMessageSlot
  dsimp only
  split
  · exact ⟨_, rfl⟩
  · exact ⟨_, rfl⟩

theorem stepsTo_le (start i : SlotIndex) : stepsTo start i ≤ stepsTo start (start + 1) := by
  have hi : i.val < 77 := i.isLt
  have hs : start.val < 77 := start.isLt
  simp only [stepsTo, val_next]
  split_ifs <;> omega

theorem stepsTo_lt (start i : SlotIndex) : stepsTo start i < 77 := by
  have hi : i.val < 77 := i.isLt
  have hs : start.val < 77 := start.isLt
  simp only [stepsTo]
  split_ifs <;> omega

/-- A slot that the search finds is free. -/
theorem getNextCurrentMessageSlot_free {st : JsonState}
    (h : (getNextCurrentMessageSlot st).2 = true) :
    (st.JSONTransmitMessage (getNextCurrentMessageSlot st).1.currentMessageIndex).socketBitmask =
      0 := by
  unfold getNextCurrentMessageSlot at h ⊢
  dsimp only at h ⊢
  split at h
  · rename_i hbusy
    rw [if_pos hbusy]
    have hspec := searchSlot_spec st st.currentMessageIndex
      (Nat.le_of_lt (stepsTo_lt st.currentMessageIndex (st.currentMessageIndex + 1)))
    exact hspec.1 (Ne.symm (of_decide_eq_true h))
  · rename_i hfree
    rw [if_neg hfree]
    exact not_not.1 hfree

/-- **The search finds a slot exactly when some slot is free.** -/
theorem getNextCurrentMessageSlot_found (st : JsonState) :
    (getNextCurrentMessageSlot st).2 = true ↔
      ∃ m, (st.JSONTransmitMessage m).socketBitmask = 0 := by
  refine ⟨fun h => ⟨_, getNextCurrentMessageSlot_free h⟩, ?_⟩
  rintro ⟨m, hm⟩
  unfold getNextCurrentMessageSlot
  dsimp only
  split
  · rename_i hbusy
    refine decide_eq_true fun hstart => ?_
    have hspec := searchSlot_spec st st.currentMessageIndex
      (Nat.le_of_lt (stepsTo_lt st.currentMessageIndex (st.currentMessageIndex + 1)))
    have hne : m ≠ st.currentMessageIndex := fun hm' => hbusy (hm' ▸ hm)
    exact hspec.2 hstart.symm m (stepsTo_le ..) hne hm
  · rfl

/-! ### Sending a packet -/

/-- The first part of `AddToTransmitSocketQueue`: a socket that is over its time is closed. -/
def closeLate (st : JsonState) (s : SocketIndex) : JsonState :=
  if timedOut st s then shutdownSocket st s else st

theorem closeLate_frame (st : JsonState) (s : SocketIndex) :
    ∃ socket messages heap count, closeLate st s =
      { st.setSocket s socket with
        JSONTransmitMessage := messages, heap := heap, globalCount := count } := by
  unfold closeLate
  split
  · obtain ⟨socket, messages, heap, count, -, h⟩ := shutdownSocket_frame st s
    exact ⟨socket, messages, heap, count, h⟩
  · exact ⟨st.jsonSockets s, st.JSONTransmitMessage, st.heap, st.globalCount, by
      simp [JsonState.setSocket]⟩

theorem closeLate_currentMessageIndex (st : JsonState) (s : SocketIndex) :
    (closeLate st s).currentMessageIndex = st.currentMessageIndex := by
  obtain ⟨_, _, _, _, h⟩ := closeLate_frame st s
  rw [h]
  rfl

theorem closeLate_message (st : JsonState) (s : SocketIndex) (m : SlotIndex) :
    (closeLate st s).JSONTransmitMessage m =
      if timedOut st s then closedMessage s (st.JSONTransmitMessage m)
      else st.JSONTransmitMessage m := by
  unfold closeLate
  split
  · exact shutdownSocket_message st s m
  · rfl

/-- `AddToTransmitSocketQueue` with its first part named. -/
theorem addToTransmitSocketQueue_eq (sendFails : SocketIndex → Bool) (st : JsonState)
    (s : SocketIndex) : addToTransmitSocketQueue sendFails st s =
      if sendFails s then (closeLate st s, true)
      else ({ closeLate st s with
        queue := Function.update (closeLate st s).queue s
          ((closeLate st s).queue s ++ [(closeLate st s).currentMessageIndex]) }, false) := rfl

/-- Queuing a broadcast for a socket changes the entry of the socket, the slots, the queues and
the heap only. -/
theorem queueBroadcast_frame (sendFails : SocketIndex → Bool) (st : JsonState) (s : SocketIndex) :
    ∃ socket messages queue heap count, queueBroadcast sendFails st s =
      { st.setSocket s socket with
        JSONTransmitMessage := messages, queue := queue, heap := heap, globalCount := count } := by
  obtain ⟨socket, messages, heap, count, hlate⟩ := closeLate_frame st s
  unfold queueBroadcast
  rw [addToTransmitSocketQueue_eq, hlate]
  split
  · by_cases hf : sendFails s
    · simp only [hf, if_true]
      exact ⟨_, _, _, _, _, rfl⟩
    · simp only [hf, Bool.false_eq_true, if_false]
      exact ⟨_, _, _, _, _, rfl⟩
  · exact ⟨st.jsonSockets s, st.JSONTransmitMessage, st.queue, st.heap, st.globalCount, by
      simp [JsonState.setSocket]⟩

/-- The state of `SendJSONPacket` after `json_dumps`, with `i` as the current slot. -/
def afterDump (st : JsonState) (i : SlotIndex) : JsonState :=
  { st with
    heap := st.heap.alloc, globalCount := st.globalCount + 1, currentMessageIndex := i }

/-- The bits of a broadcast are the addressed sockets. -/
theorem getLsbD_broadcastBitmask (st : JsonState) (i : ℕ) :
    (broadcastBitmask st).getLsbD i = true ↔
      ∃ s : SocketIndex, s.val = i ∧ Addressed (st.jsonSockets s) := by
  have hloop : ∀ (sockets : List SocketIndex) (mask : Dword),
      (sockets.foldl (fun mask s => if Addressed (st.jsonSockets s) then mask ||| socketBit s
        else mask) mask).getLsbD i = true ↔
        mask.getLsbD i = true ∨ ∃ s ∈ sockets, s.val = i ∧ Addressed (st.jsonSockets s) := by
    intro sockets
    induction sockets with
    | nil => simp
    | cons k sockets ih =>
      intro mask
      rw [List.foldl_cons, ih]
      split
      · rename_i hk
        simp only [BitVec.getLsbD_or, getLsbD_socketBit, Bool.or_eq_true, decide_eq_true_iff,
          List.mem_cons, exists_eq_or_imp, or_assoc, hk, and_true, @eq_comm ℕ i k.val]
      · rename_i hk
        simp [hk]
  rw [broadcastBitmask, hloop]
  simp

theorem broadcastBitmask_high (st : JsonState) {i : ℕ}
    (hi : maxNumberOfIncomingJsonConnections ≤ i) : (broadcastBitmask st).getLsbD i = false := by
  rw [Bool.eq_false_iff]
  intro hbit
  obtain ⟨s, rfl, -⟩ := (getLsbD_broadcastBitmask st i).1 hbit
  exact absurd s.isLt (Nat.not_lt.2 hi)

/-- A socket that gets broadcasts is not suppressed. -/
theorem Addressed.queued {st : JsonState} {s : SocketIndex} (h : Addressed (st.jsonSockets s)) :
    (st.jsonSockets s).JSONSocketConnection ≠ 0 ∧ ¬ Suppressed st s := by
  obtain ⟨⟨hconn, hstate⟩, -, hwatch⟩ := h
  refine ⟨hconn, ?_⟩
  rintro ⟨hlimited | hw, -⟩
  · rcases hstate with hstate | hstate <;> rw [hstate] at hlimited <;>
      exact absurd hlimited (by decide)
  · rw [hwatch] at hw
    cases hw

end Json

end Lcm
