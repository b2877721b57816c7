import Lcm.CString
import Lcm.Jsa.Sockets
import Lcm.Run.Basic
import Lcm.Run.Logged
import Mathlib.Data.List.GetD
import Mathlib.Data.List.Infix
import Mathlib.Data.List.TakeWhile

/-!
# The receive buffer of a JSON connection

The characters of a request are collected in a buffer until its terminator arrives.  The buffer is
the one of the authentication at first, and grows by `SOCKET_RECEIVE_BUFFER_ALLOC_CHUNK` as long as
it is smaller than `SOCKET_RECEIVE_BUFFER_MAX_SIZE`.

## Main definitions

* `Socket` : the fields of an entry of `jsonSockets` that the reception uses.
* `receiveByte`, `endOfMessage` : what is done with a byte, and after a terminator.
* `machine` : a connection, with the bytes since the last terminator.
* `Handled` : a byte is stored in the buffer, and a message that ends is handed to the parser as it
  is, or reported if it is too long.
* `Harmless` : the bytes for which that is so.

## Main results

* `allSteps_handled_iff` : all bytes of a connection are handled exactly if all are harmless.
* `not_allSteps_handled` : a message that is too long is parsed without its end.
-/

namespace Lcm

namespace Json

namespace ReceiveBuffer

/-- `SOCKET_RECEIVE_BUFFER_ALLOC_CHUNK` -/
abbrev socketReceiveBufferAllocChunk : ℕ := 0x200

/-- `SOCKET_RECEIVE_BUFFER_MAX_SIZE` -/
abbrev socketReceiveBufferMaxSize : ℕ := 0x1000

/-- `sizeof(httpBuf)` -/
abbrev sizeofHttpBuf : ℕ := 450

/-- The character `{`. -/
def brace : Byte := 0x7B

/-- `"HTTP"` -/
def http : List Byte := [0x48, 0x54, 0x54, 0x50]

/-- A block of memory. -/
structure Buffer where
  /-- The size it was allocated with. -/
  size : ℕ
  /-- What it holds. -/
  bytes : ℕ → Byte

/-- An entry of `jsonSockets`, as far as the reception goes. -/
structure Socket where
  /-- `jsonReceiveMessage` -/
  jsonReceiveMessage : Option Buffer
  /-- `jsonReceiveMessageAllocSize` -/
  jsonReceiveMessageAllocSize : ℕ
  /-- `jsonReceiveMessageIndex` -/
  jsonReceiveMessageIndex : ℕ
  /-- `jsonReceiveMessageOverrunFlag` -/
  jsonReceiveMessageOverrunFlag : Bool
  /-- `httpSocket` -/
  httpSocket : Bool

/-- What arrives, and what the memory is like then. -/
structure Input where
  /-- `rxbuf` -/
  rxbuf : Byte
  /-- What is in the block that `_mem_alloc_system` returns, if it returns one. -/
  newReceiveBufferPtr : Option (ℕ → Byte)
  /-- What is read outside of the receive buffer, at an offset from its start. -/
  memory : ℕ → Byte
  /-- The bytes behind `httpBuf`. -/
  behindHttpBuf : List Byte
  /-- Whether `json_object` returns an object for the error response. -/
  jsonResponseObject : Bool

/-- `n` bytes that are stored at an offset from `jsonReceiveMessage`, whose size is recorded unless
it is `NULL`. -/
structure Store where
  /-- The size of the block. -/
  size : Option ℕ
  /-- Where the first byte goes. -/
  offset : ℕ
  /-- The number of bytes. -/
  n : ℕ

/-- They lie inside the buffer. -/
def Store.InBounds (store : Store) : Prop := ∃ size ∈ store.size, store.offset + store.n ≤ size

/-- What becomes of the message when a terminator has arrived. -/
inductive Outcome
  /-- It is reported as an overrun, with this size, or the report is lost. -/
  | overrun (size : ℕ) (reported : Bool)
  /-- This text is parsed; it may not be terminated inside the buffer. -/
  | parsed (text : List Byte) (terminated : Bool)
  /-- Nothing is parsed. -/
  | discarded

namespace Socket

/-- The size of the block that `jsonReceiveMessage` points to. -/
def size (s : Socket) : Option ℕ := s.jsonReceiveMessage.map Buffer.size

/-- A byte that is read at an offset from `jsonReceiveMessage`. -/
def read (s : Socket) (memory : ℕ → Byte) (i : ℕ) : Byte :=
  match s.jsonReceiveMessage with
  | some buffer => if i < buffer.size then buffer.bytes i else memory i
  | none => memory i

/-- `jsonReceiveMessage[jsonReceiveMessageIndex++] = *rxbuf` -/
def save (s : Socket) (b : Byte) : Logged Store Socket := do
  Logged.touch ⟨s.size, s.jsonReceiveMessageIndex, 1⟩
  pure { s with
    jsonReceiveMessage := s.jsonReceiveMessage.map fun buffer =>
      { buffer with bytes := Function.update buffer.bytes s.jsonReceiveMessageIndex b }
    jsonReceiveMessageIndex := s.jsonReceiveMessageIndex + 1 }

/-- The buffer is replaced by a larger one, or lost. -/
def grow (s : Socket) (input : Input) : Logged Store Socket :=
  match input.newReceiveBufferPtr with
  | none =>
    pure { s with
      jsonReceiveMessage := none
      jsonReceiveMessageIndex := 0
      jsonReceiveMessageOverrunFlag := true }
  | some bytes => do
    let size := s.jsonReceiveMessageAllocSize + socketReceiveBufferAllocChunk
    Logged.touch ⟨some size, 0, s.jsonReceiveMessageAllocSize⟩
    save { s with
      jsonReceiveMessage := some ⟨size, fun i =>
        if i < s.jsonReceiveMessageAllocSize then s.read input.memory i else bytes i⟩
      jsonReceiveMessageAllocSize := size } input.rxbuf

end Socket

open Socket

/-- A byte is received. -/
def receiveByte (s : Socket) (input : Input) : Logged Store Socket :=
  if s.jsonReceiveMessageAllocSize ≤ s.jsonReceiveMessageIndex then
    if s.jsonReceiveMessageOverrunFlag = false ∧
        s.jsonReceiveMessageAllocSize < socketReceiveBufferMaxSize then grow s input
    else pure s
  else save s input.rxbuf

/-- The bytes of `httpBuf` and behind it, after the message has been copied there. -/
def httpBuf (s : Socket) (input : Input) (i : ℕ) : Byte :=
  if i < sizeofHttpBuf then s.read input.memory i
  else input.behindHttpBuf.getD (i - sizeofHttpBuf) 0

/-- The string at `httpBuf`. -/
def httpString (s : Socket) (input : Input) : List Byte :=
  takeChars (sizeofHttpBuf + input.behindHttpBuf.length) (httpBuf s input)

/-- `ix`, where the first `{` is in `httpBuf`, or its size. -/
def braceIndex (s : Socket) (input : Input) : ℕ :=
  ((List.range sizeofHttpBuf).find? (httpBuf s input · = brace)).getD sizeofHttpBuf

/-- A buffer to which `httpBuf` has been copied back, from the first `{` on. -/
def stripped (s : Socket) (input : Input) (buffer : Buffer) : Buffer :=
  { buffer with
    bytes := fun i =>
      if i < sizeofHttpBuf then httpBuf s input (braceIndex s input + i) else buffer.bytes i }

/-- What precedes the first `{` is taken off the message. -/
def stripHttp (s : Socket) (input : Input) : Logged Store Socket :=
  if httpBuf s input (braceIndex s input) = brace then do
    Logged.touch ⟨s.size, 0, sizeofHttpBuf⟩
    pure { s with jsonReceiveMessage := s.jsonReceiveMessage.map (stripped s input) }
  else
    pure { s with
      jsonReceiveMessage := none
      jsonReceiveMessageAllocSize := 0 }

/-- The message is parsed, and its buffer released. -/
def parse (s : Socket) : Outcome × Socket :=
  match s.jsonReceiveMessage with
  | some buffer =>
    (.parsed (takeChars buffer.size buffer.bytes) (decide (∃ i < buffer.size, buffer.bytes i = 0)),
      { s with
        jsonReceiveMessage := none
        jsonReceiveMessageAllocSize := 0 })
  | none => (.discarded, s)

/-- The buffer is ready for the next message. -/
def ready (s : Socket) : Socket :=
  { s with
    jsonReceiveMessageIndex := 0
    jsonReceiveMessageOverrunFlag := false }

/-- The terminator has arrived. -/
def endOfMessage (s : Socket) (input : Input) : Logged Store (Outcome × Socket) :=
  if s.jsonReceiveMessageOverrunFlag then
    pure (.overrun s.jsonReceiveMessageAllocSize input.jsonResponseObject,
      ready { s with jsonReceiveMessageAllocSize := 0 })
  else do
    let httpSocket := s.httpSocket || decide (http <:+: httpString s input)
    let s ← if httpSocket then stripHttp { s with httpSocket := true } input else pure s
    let (outcome, s) := parse s
    pure (outcome, ready s)

/-- What is done with a byte. -/
def handleByte (s : Socket) (input : Input) : Logged Store (Option Outcome × Socket) := do
  let s ← receiveByte s input
  if input.rxbuf = 0 then do
    let (outcome, s) ← endOfMessage s input
    pure (some outcome, s)
  else pure (none, s)

/-! ### Connections -/

/-- A connection. -/
structure State where
  /-- Its socket. -/
  socket : Socket
  /-- What has been received since the last terminator. -/
  received : List Byte

/-- What happens on a connection. -/
inductive Event
  /-- A byte is received. -/
  | byte (input : Input)
  /-- There is nothing to receive, and the task goes on to the next socket. -/
  | pause

/-- One step. -/
def step (st : State) : Event → Option State
  | .byte input =>
    some ⟨(handleByte st.socket input).value.2,
      if input.rxbuf = 0 then [] else st.received ++ [input.rxbuf]⟩
  | .pause => some st

/-- A connection that has just been authenticated has the buffer of its authentication. -/
def start (bytes : ℕ → Byte) (httpSocket : Bool) : State where
  socket :=
    { jsonReceiveMessage := some ⟨Jsa.sizeofJsonSocketAuth, bytes⟩
      jsonReceiveMessageAllocSize := Jsa.sizeofJsonSocketAuth
      jsonReceiveMessageIndex := 0
      jsonReceiveMessageOverrunFlag := false
      httpSocket := httpSocket }
  received := []

/-- Connections that have been authenticated. -/
def machine : Machine State Event where
  init st := ∃ bytes httpSocket, st = start bytes httpSocket
  step := step

/-! ### Specification -/

/-- **A byte is handled**: what is stored lies inside the buffer, and a message that ends is handed
to the parser as it was received, or reported if it does not fit with its terminator. -/
def Handled (st : State) : Event → Prop
  | .byte input =>
    (handleByte st.socket input).All Store.InBounds ∧
    (input.rxbuf = 0 →
      if st.received.length < socketReceiveBufferMaxSize then
        (handleByte st.socket input).value.1 = some (.parsed st.received true)
      else ∃ size, (handleByte st.socket input).value.1 = some (.overrun size true))
  | .pause => True

/-- The string at `httpBuf` after a message has been copied there. -/
def sniffed (input : Input) (message : List Byte) : List Byte :=
  if message.length < sizeofHttpBuf then message
  else message.take sizeofHttpBuf ++ input.behindHttpBuf.takeWhile (· ≠ 0)

/-- There is no memory for a larger buffer. -/
def AllocationFails (s : Socket) (input : Input) : Prop :=
  s.jsonReceiveMessageAllocSize ≤ s.jsonReceiveMessageIndex ∧
    s.jsonReceiveMessageAllocSize < socketReceiveBufferMaxSize ∧ input.newReceiveBufferPtr = none

/-- The size of the buffer when a byte has been stored. -/
def sizeAfter (s : Socket) : ℕ :=
  if s.jsonReceiveMessageAllocSize ≤ s.jsonReceiveMessageIndex then
    s.jsonReceiveMessageAllocSize + socketReceiveBufferAllocChunk
  else s.jsonReceiveMessageAllocSize

/-- **A byte does no harm**: it does not go to a buffer that has been lost.  The terminator of a
message that fits finds memory, and a message on a connection that is taken for one of HTTP starts
with a brace, in a buffer as large as `httpBuf`.  The terminator of a message that is too long
finds the overrun flag set, and memory for the report. -/
def Harmless (st : State) : Event → Prop
  | .byte input =>
    (st.socket.jsonReceiveMessageIndex < st.socket.jsonReceiveMessageAllocSize →
      st.socket.jsonReceiveMessage ≠ none) ∧
    (input.rxbuf = 0 →
      if st.received.length < socketReceiveBufferMaxSize then
        st.socket.jsonReceiveMessageOverrunFlag = false ∧ ¬ AllocationFails st.socket input ∧
        (st.socket.httpSocket = true ∨ http <:+: sniffed input st.received →
          st.received.head? = some brace ∧ sizeofHttpBuf ≤ sizeAfter st.socket)
      else st.socket.jsonReceiveMessageOverrunFlag = true ∧ input.jsonResponseObject = true)
  | .pause => True

/-! ### What the buffer holds -/

/-- The bytes that have been received are in the buffer, as many as fit. -/
structure Holds (s : Socket) (received : List Byte) : Prop where
  /-- There is no overrun. -/
  overrun : s.jsonReceiveMessageOverrunFlag = false
  /-- The size is that of the buffer. -/
  size : s.size.getD 0 = s.jsonReceiveMessageAllocSize
  /-- The index is inside the buffer, or at its end. -/
  index_le : s.jsonReceiveMessageIndex ≤ s.jsonReceiveMessageAllocSize
  /-- All bytes have been stored, or the buffer is as large as it gets, and full. -/
  index : s.jsonReceiveMessageIndex = received.length ∨
    s.jsonReceiveMessageIndex = s.jsonReceiveMessageAllocSize ∧
      socketReceiveBufferMaxSize ≤ s.jsonReceiveMessageAllocSize ∧
      s.jsonReceiveMessageAllocSize < received.length
  /-- They are where they have been stored. -/
  bytes : ∀ buffer ∈ s.jsonReceiveMessage, ∀ i < s.jsonReceiveMessageIndex,
    buffer.bytes i = received.getD i 0

/-- The buffer has been lost: the rest of the message is not stored. -/
structure Lost (s : Socket) : Prop where
  /-- There is an overrun. -/
  overrun : s.jsonReceiveMessageOverrunFlag = true
  /-- There is no buffer. -/
  buffer : s.jsonReceiveMessage = none
  /-- Nothing has been stored since. -/
  index : s.jsonReceiveMessageIndex = 0

section Socket

variable {s : Socket} {input : Input} {received : List Byte}

theorem Holds.exists_buffer (h : Holds s received) (hsize : 0 < s.jsonReceiveMessageAllocSize) :
    ∃ buffer, s.jsonReceiveMessage = some buffer ∧
      buffer.size = s.jsonReceiveMessageAllocSize := by
  have heq := h.size
  unfold Socket.size at heq
  cases hbuffer : s.jsonReceiveMessage with
  | none =>
    rw [hbuffer, Option.map_none, Option.getD_none] at heq
    omega
  | some buffer =>
    rw [hbuffer] at heq
    exact ⟨buffer, rfl, heq⟩

/-- A byte is saved in a buffer that has room for it. -/
theorem save_spec {buffer : Buffer} (hbuffer : s.jsonReceiveMessage = some buffer)
    (hoverrun : s.jsonReceiveMessageOverrunFlag = false)
    (hsize : buffer.size = s.jsonReceiveMessageAllocSize)
    (hindex : s.jsonReceiveMessageIndex < s.jsonReceiveMessageAllocSize)
    (hlength : s.jsonReceiveMessageIndex = received.length)
    (hbytes : ∀ i < received.length, buffer.bytes i = received.getD i 0) (b : Byte) :
    (s.save b).All Store.InBounds ∧ Holds (s.save b).value (received ++ [b]) := by
  have hbounds : Store.InBounds ⟨s.size, s.jsonReceiveMessageIndex, 1⟩ :=
    ⟨buffer.size, by rw [Socket.size, hbuffer]; rfl, by
      rw [hsize]
      exact hindex⟩
  refine ⟨(Logged.all_bind ..).2 ⟨(Logged.all_touch _).2 hbounds, Logged.all_pure _⟩, ?_⟩
  refine ⟨hoverrun, ?_, hindex, .inl ?_, ?_⟩
  · simp [Socket.save, Socket.size, hbuffer, hsize]
  · simp [Socket.save, hlength]
  · simp only [Socket.save, Logged.value_bind, Logged.value_pure, hbuffer, Option.map_some]
    rintro _ ⟨⟩ i hi
    dsimp only
    rw [hlength] at hi ⊢
    rcases Nat.lt_succ_iff_lt_or_eq.1 hi with hlt | rfl
    · rw [Function.update_of_ne hlt.ne, hbytes i hlt, List.getD_append _ _ _ _ hlt]
    · rw [Function.update_self]
      simp

/-- The buffer grows, with what has been received. -/
theorem grow_spec (h : Holds s received) (hlength : s.jsonReceiveMessageIndex = received.length)
    (hfull : s.jsonReceiveMessageAllocSize = s.jsonReceiveMessageIndex) {bytes : ℕ → Byte}
    (hbytes : input.newReceiveBufferPtr = some bytes) :
    (s.grow input).All Store.InBounds ∧
      Holds (s.grow input).value (received ++ [input.rxbuf]) := by
  have hcopy : Store.InBounds ⟨some (s.jsonReceiveMessageAllocSize +
      socketReceiveBufferAllocChunk), 0, s.jsonReceiveMessageAllocSize⟩ :=
    ⟨_, rfl, by rw [Nat.zero_add]; exact Nat.le_add_right _ _⟩
  rw [Socket.grow, hbytes]
  dsimp only
  rw [Logged.all_bind, Logged.all_touch, and_iff_right hcopy, Logged.value_bind]
  refine @save_spec { s with
    jsonReceiveMessage := some _
    jsonReceiveMessageAllocSize := _ } received _ rfl h.overrun rfl ?_ hlength (fun i hi => ?_) _
  · exact hfull ▸ Nat.lt_add_of_pos_right (by decide)
  · -- what is copied has been read from the old buffer
    obtain ⟨buffer, hbuffer, hsize⟩ := h.exists_buffer (by omega)
    have hi' : i < s.jsonReceiveMessageIndex := by omega
    dsimp only
    rw [if_pos (by omega), Socket.read, hbuffer]
    exact (if_pos (by omega)).trans (h.bytes buffer hbuffer i hi')

/-- **A byte is stored**, or left out if the buffer is as large as it gets, and full. -/
theorem Holds.append (h : Holds s received) (hmemory : ¬ AllocationFails s input) :
    (receiveByte s input).All Store.InBounds ∧
      Holds (receiveByte s input).value (received ++ [input.rxbuf]) := by
  have hindex := h.index
  have hle := h.index_le
  unfold receiveByte
  split_ifs with hfull hmore
  · obtain ⟨bytes, hbytes⟩ : ∃ bytes, input.newReceiveBufferPtr = some bytes :=
      Option.ne_none_iff_exists'.1 fun hnone => hmemory ⟨hfull, hmore.2, hnone⟩
    exact grow_spec h (hindex.resolve_right (by omega)) (by omega) hbytes
  · have hmax : socketReceiveBufferMaxSize ≤ s.jsonReceiveMessageAllocSize :=
      Nat.le_of_not_lt fun hlt => hmore ⟨h.overrun, hlt⟩
    refine ⟨Logged.all_pure _, h.overrun, h.size, hle, .inr ⟨?_, hmax, ?_⟩,
      fun buffer hb i hi => ?_⟩
    · exact Nat.le_antisymm hle hfull
    · show s.jsonReceiveMessageAllocSize < _
      rw [List.length_append, List.length_singleton]
      omega
    · have hlt : i < received.length := by
        have hi : i < s.jsonReceiveMessageIndex := hi
        omega
      exact (h.bytes buffer hb i hi).trans (List.getD_append _ _ _ _ hlt).symm
  · obtain ⟨buffer, hbuffer, hsize⟩ := h.exists_buffer (by omega)
    have hlength : s.jsonReceiveMessageIndex = received.length := hindex.resolve_right (by omega)
    exact save_spec hbuffer h.overrun hsize (by omega) hlength
      (fun i hi => h.bytes buffer hbuffer i (hlength ▸ hi)) input.rxbuf

/-- **The buffer is lost** if there is no memory for a larger one. -/
theorem Holds.lose (h : Holds s received) (hmemory : AllocationFails s input) :
    receiveByte s input = pure (receiveByte s input).value ∧
      Lost (receiveByte s input).value := by
  obtain ⟨hfull, hmore, hnone⟩ := hmemory
  have hgrow : receiveByte s input = s.grow input := by
    rw [receiveByte, if_pos hfull, if_pos ⟨h.overrun, hmore⟩]
  rw [hgrow, Socket.grow, hnone]
  exact ⟨rfl, rfl, rfl, rfl⟩

/-- A byte that goes nowhere. -/
theorem Lost.skip (h : Lost s)
    (hsize : ¬ s.jsonReceiveMessageIndex < s.jsonReceiveMessageAllocSize) :
    receiveByte s input = pure s := by
  rw [receiveByte, if_pos (Nat.le_of_not_lt hsize), if_neg]
  rw [h.overrun]
  exact fun hand => nomatch hand.1

/-! ### The end of a message -/

variable {message : List Byte}

/-- A message that fits is in the buffer with its terminator. -/
theorem Holds.complete (h : Holds s (message ++ [0]))
    (hlength : message.length < socketReceiveBufferMaxSize) :
    ∃ buffer, s.jsonReceiveMessage = some buffer ∧
      buffer.size = s.jsonReceiveMessageAllocSize ∧ message.length < buffer.size ∧
      ∀ i ≤ message.length, buffer.bytes i = message.getD i 0 := by
  have hle := h.index_le
  have hindex := h.index
  rw [List.length_append, List.length_singleton] at hindex
  have hindex : s.jsonReceiveMessageIndex = message.length + 1 := hindex.resolve_right (by omega)
  obtain ⟨buffer, hbuffer, hsize⟩ := h.exists_buffer (by omega)
  refine ⟨buffer, hbuffer, hsize, by omega, fun i hi => ?_⟩
  rw [h.bytes buffer hbuffer i (by omega)]
  rcases Nat.lt_or_eq_of_le hi with hlt | rfl
  · exact List.getD_append _ _ _ _ hlt
  · simp

/-- What is parsed is the message. -/
theorem parse_of_bytes {buffer : Buffer} (hbuffer : s.jsonReceiveMessage = some buffer)
    (hnul : 0 ∉ message) (hsize : message.length < buffer.size)
    (hbytes : ∀ i ≤ message.length, buffer.bytes i = message.getD i 0) :
    (parse s).1 = .parsed message true := by
  have hend : ∃ i < buffer.size, buffer.bytes i = 0 :=
    ⟨message.length, hsize, (hbytes _ (Nat.le_refl _)).trans (by simp)⟩
  rw [parse, hbuffer]
  dsimp only
  rw [takeChars_eq hsize.le hnul hbytes, decide_eq_true hend]

theorem getD_takeWhile (l : List Byte) {i : ℕ} (hi : i ≤ (l.takeWhile (· ≠ 0)).length) :
    l.getD i 0 = (l.takeWhile (· ≠ 0)).getD i 0 := by
  induction l generalizing i with
  | nil => rfl
  | cons b l ih =>
    by_cases hb : b = 0
    · subst hb
      obtain rfl : i = 0 := by simpa using hi
      rfl
    · rw [List.takeWhile_cons_of_pos (by simpa using hb)] at hi ⊢
      cases i with
      | zero => rfl
      | succ i => exact ih (Nat.le_of_succ_le_succ hi)

/-- The string at `httpBuf`, for a message in the buffer. -/
theorem httpString_eq {buffer : Buffer} (hbuffer : s.jsonReceiveMessage = some buffer)
    (hnul : 0 ∉ message) (hsize : message.length < buffer.size)
    (hbytes : ∀ i ≤ message.length, buffer.bytes i = message.getD i 0) :
    httpString s input = sniffed input message := by
  have hread : ∀ i < sizeofHttpBuf, i ≤ message.length → httpBuf s input i = message.getD i 0 := by
    intro i hi hle
    rw [httpBuf, if_pos hi, Socket.read, hbuffer]
    exact (if_pos (Nat.lt_of_le_of_lt hle hsize)).trans (hbytes i hle)
  unfold sniffed
  split_ifs with hshort
  · exact takeChars_eq (by omega) hnul fun i hi => hread i (by omega) hi
  · have hlong : sizeofHttpBuf ≤ message.length := Nat.le_of_not_lt hshort
    have htake : (message.take sizeofHttpBuf).length = sizeofHttpBuf :=
      List.length_take_of_le hlong
    have hbehind : (input.behindHttpBuf.takeWhile (· ≠ 0)).length ≤ input.behindHttpBuf.length :=
      (List.takeWhile_prefix _).length_le
    refine takeChars_eq ?_ ?_ fun i hi => ?_
    · rw [List.length_append, htake]
      omega
    · intro hmem
      rcases List.mem_append.1 hmem with hmem | hmem
      · exact hnul (List.mem_of_mem_take hmem)
      · simpa using List.mem_takeWhile_imp hmem
    · rw [List.length_append, htake] at hi
      by_cases hlt : i < sizeofHttpBuf
      · rw [hread i hlt (by omega), List.getD_append _ _ _ _ (by omega)]
        rw [List.getD_eq_getElem?_getD, List.getD_eq_getElem?_getD, List.getElem?_take_of_lt hlt]
      · rw [httpBuf, if_neg hlt, List.getD_append_right _ _ _ _ (by omega), htake]
        exact getD_takeWhile _ (by omega)

theorem httpBuf_of_bytes {buffer : Buffer} (hbuffer : s.jsonReceiveMessage = some buffer) {i : ℕ}
    (hi : i < sizeofHttpBuf) (hsize : i < buffer.size) : httpBuf s input i = buffer.bytes i := by
  rw [httpBuf, if_pos hi, Socket.read, hbuffer]
  exact if_pos hsize

/-- Nothing is changed if the message starts with a brace. -/
theorem stripped_of_brace {buffer : Buffer} (hbuffer : s.jsonReceiveMessage = some buffer)
    (hroom : sizeofHttpBuf ≤ buffer.size) (hbrace : buffer.bytes 0 = brace) :
    braceIndex s input = 0 ∧ stripped s input buffer = buffer := by
  have hfirst : httpBuf s input 0 = brace :=
    (httpBuf_of_bytes hbuffer (by decide) (Nat.lt_of_lt_of_le (by decide) hroom)).trans hbrace
  have hix : braceIndex s input = 0 := by
    rw [braceIndex, List.range_succ_eq_map, List.find?_cons_of_pos (by simpa using hfirst)]
    rfl
  refine ⟨hix, ?_⟩
  rw [stripped, hix]
  congr 1
  funext i
  split_ifs with hi
  · rw [Nat.zero_add, httpBuf_of_bytes hbuffer hi (by omega)]
  · rfl

/-- **A message of HTTP** is parsed as it is if it starts with a brace, and the buffer is as large
as `httpBuf`; and not otherwise. -/
theorem stripHttp_iff {buffer : Buffer} (hbuffer : s.jsonReceiveMessage = some buffer)
    (hnul : 0 ∉ message) (hsize : message.length < buffer.size)
    (hbytes : ∀ i ≤ message.length, buffer.bytes i = message.getD i 0) :
    (stripHttp s input).All Store.InBounds ∧
        (parse (stripHttp s input).value).1 = .parsed message true ↔
      message.head? = some brace ∧ sizeofHttpBuf ≤ buffer.size := by
  have hbounds : Store.InBounds ⟨s.size, 0, sizeofHttpBuf⟩ ↔ sizeofHttpBuf ≤ buffer.size := by
    simp [Store.InBounds, Socket.size, hbuffer]
  have hfirst : buffer.bytes 0 = brace ↔ message.head? = some brace := by
    rw [hbytes 0 (Nat.zero_le _)]
    cases message with
    | nil => simp [brace]
    | cons b message => simp
  unfold stripHttp
  split_ifs with hbrace
  · rw [Logged.all_bind, Logged.all_touch, hbounds, and_iff_left (Logged.all_pure _),
      Logged.value_bind, Logged.value_pure, hbuffer, Option.map_some]
    constructor
    · rintro ⟨hroom, hparsed⟩
      refine ⟨?_, hroom⟩
      have htext : takeChars buffer.size (stripped s input buffer).bytes = message :=
        (Outcome.parsed.inj hparsed).1
      obtain ⟨n, hn⟩ : ∃ n, buffer.size = n + 1 := ⟨buffer.size - 1, by omega⟩
      have hbytes₀ : (stripped s input buffer).bytes 0 = brace := hbrace
      rw [← htext, hn, takeChars, hbytes₀]
      rfl
    · rintro ⟨hhead, hroom⟩
      rw [(stripped_of_brace hbuffer hroom (hfirst.2 hhead)).2]
      exact ⟨hroom, parse_of_bytes rfl hnul hsize hbytes⟩
  · refine iff_of_false (fun h => (by cases h.2)) fun h => hbrace ?_
    rw [(stripped_of_brace hbuffer h.2 (hfirst.2 h.1)).1,
      httpBuf_of_bytes hbuffer (by decide) (by omega)]
    exact hfirst.2 h.1

/-- **A message that fits** is parsed as it is, unless the connection is taken for one of HTTP. -/
theorem endOfMessage_iff (h : Holds s (message ++ [0])) (hnul : 0 ∉ message)
    (hlength : message.length < socketReceiveBufferMaxSize) :
    (endOfMessage s input).All Store.InBounds ∧
        (endOfMessage s input).value.1 = .parsed message true ↔
      (s.httpSocket = true ∨ http <:+: sniffed input message →
        message.head? = some brace ∧ sizeofHttpBuf ≤ s.jsonReceiveMessageAllocSize) := by
  obtain ⟨buffer, hbuffer, hsize, hfits, hbytes⟩ := h.complete hlength
  have hstring : httpString s input = sniffed input message :=
    httpString_eq hbuffer hnul hfits hbytes
  have hcond : (s.httpSocket || decide (http <:+: httpString s input)) = true ↔
      s.httpSocket = true ∨ http <:+: sniffed input message := by
    rw [hstring, Bool.or_eq_true, decide_eq_true_iff]
  unfold endOfMessage
  rw [if_neg (by simp [h.overrun])]
  dsimp only
  split_ifs with hhttp
  · rw [Logged.all_bind, Logged.value_bind, and_iff_left (Logged.all_pure _),
      forall_prop_of_true (hcond.1 hhttp), ← hsize]
    exact stripHttp_iff hbuffer hnul hfits hbytes
  · rw [iff_true_right fun hor => absurd (hcond.2 hor) hhttp]
    exact ⟨(Logged.all_bind ..).2 ⟨Logged.all_pure _, Logged.all_pure _⟩,
      parse_of_bytes hbuffer hnul hfits hbytes⟩

/-- Without an overrun, none is reported. -/
theorem endOfMessage_ne_overrun (hoverrun : s.jsonReceiveMessageOverrunFlag = false) (size : ℕ)
    (reported : Bool) : (endOfMessage s input).value.1 ≠ .overrun size reported := by
  have hparse : ∀ s, (parse s).1 ≠ .overrun size reported := by
    intro s
    unfold parse
    split <;> nofun
  unfold endOfMessage
  rw [if_neg (by simp [hoverrun])]
  dsimp only
  split_ifs
  · exact hparse _
  · exact hparse _

/-- After an overrun, it is reported. -/
theorem endOfMessage_of_overrun (hoverrun : s.jsonReceiveMessageOverrunFlag = true) :
    endOfMessage s input =
      pure (.overrun s.jsonReceiveMessageAllocSize input.jsonResponseObject,
        ready { s with jsonReceiveMessageAllocSize := 0 }) := if_pos hoverrun

/-- A socket without a buffer is ready for a message. -/
theorem holds_ready (hbuffer : s.jsonReceiveMessage = none)
    (hsize : s.jsonReceiveMessageAllocSize = 0) : Holds (ready s) [] where
  overrun := rfl
  size := by simp [ready, Socket.size, hbuffer, hsize]
  index_le := Nat.zero_le _
  index := .inl rfl
  bytes _ _ _ hi := absurd hi (Nat.not_lt_zero _)

/-- Parsing releases the buffer. -/
theorem holds_ready_parse (hsize : s.size.getD 0 = s.jsonReceiveMessageAllocSize) :
    Holds (ready (parse s).2) [] := by
  unfold Socket.size at hsize
  unfold parse
  cases hbuffer : s.jsonReceiveMessage with
  | none =>
    rw [hbuffer] at hsize
    exact holds_ready hbuffer hsize.symm
  | some buffer => exact holds_ready rfl rfl

theorem size_stripHttp (hsize : s.size.getD 0 = s.jsonReceiveMessageAllocSize) :
    (stripHttp s input).value.size.getD 0 =
      (stripHttp s input).value.jsonReceiveMessageAllocSize := by
  unfold stripHttp
  split_ifs
  · rw [← hsize]
    cases hbuffer : s.jsonReceiveMessage <;> simp [Socket.size, hbuffer, stripped]
  · rfl

/-- **The next message** finds the socket ready. -/
theorem Holds.endOfMessage (h : Holds s received) :
    Holds (endOfMessage s input).value.2 [] := by
  unfold ReceiveBuffer.endOfMessage
  rw [if_neg (by simp [h.overrun])]
  dsimp only
  split_ifs
  · exact holds_ready_parse (size_stripHttp h.size)
  · exact holds_ready_parse h.size

theorem Lost.endOfMessage (h : Lost s) : Holds (endOfMessage s input).value.2 [] := by
  rw [endOfMessage_of_overrun h.overrun]
  exact holds_ready h.buffer rfl

end Socket

/-! ### Runs -/

/-- What is received is in the buffer, or the buffer has been lost. -/
structure Inv (st : State) : Prop where
  /-- There is no terminator in a message. -/
  noNul : 0 ∉ st.received
  /-- The buffer. -/
  buffer : Holds st.socket st.received ∨ Lost st.socket

theorem inv_start (bytes : ℕ → Byte) (httpSocket : Bool) : Inv (start bytes httpSocket) where
  noNul := List.not_mem_nil
  buffer := .inl ⟨rfl, rfl, Nat.zero_le _, .inl rfl, fun _ _ _ hi => absurd hi (Nat.not_lt_zero _)⟩

variable {st st' : State} {input : Input}

theorem handleByte_value (s : Socket) (input : Input) :
    (handleByte s input).value.2 =
      if input.rxbuf = 0 then (endOfMessage (receiveByte s input).value input).value.2
      else (receiveByte s input).value := by
  unfold handleByte
  rw [Logged.value_bind]
  split_ifs <;> rfl

/-- What it is for a byte to be handled. -/
theorem handled_byte_iff (st : State) (input : Input) :
    Handled st (.byte input) ↔ (receiveByte st.socket input).All Store.InBounds ∧
      (input.rxbuf = 0 →
        (endOfMessage (receiveByte st.socket input).value input).All Store.InBounds ∧
        if st.received.length < socketReceiveBufferMaxSize then
          (endOfMessage (receiveByte st.socket input).value input).value.1 =
            .parsed st.received true
        else ∃ size, (endOfMessage (receiveByte st.socket input).value input).value.1 =
          .overrun size true) := by
  rw [Handled, handleByte, Logged.all_bind, Logged.value_bind, and_assoc]
  refine and_congr_right fun _ => ?_
  by_cases hnul : input.rxbuf = 0
  · rw [forall_prop_of_true hnul, forall_prop_of_true hnul, if_pos hnul, Logged.all_bind,
      and_iff_left (Logged.all_pure _)]
    simp only [Logged.value_bind, Logged.value_pure, Option.some.injEq]
  · rw [if_neg hnul]
    exact iff_of_true ⟨Logged.all_pure _, fun h => absurd h hnul⟩ fun h => absurd h hnul

/-- The fields that receiving a byte leaves alone, or changes with the size of the buffer. -/
theorem receiveByte_fields {s : Socket} {received : List Byte} (h : Holds s received)
    (hmemory : ¬ AllocationFails s input) (hlength : received.length < socketReceiveBufferMaxSize) :
    (receiveByte s input).value.httpSocket = s.httpSocket ∧
      (receiveByte s input).value.jsonReceiveMessageAllocSize = sizeAfter s := by
  have hindex := h.index
  have hle := h.index_le
  unfold receiveByte sizeAfter
  split_ifs with hfull hmore
  · obtain ⟨bytes, hbytes⟩ : ∃ bytes, input.newReceiveBufferPtr = some bytes :=
      Option.ne_none_iff_exists'.1 fun hnone => hmemory ⟨hfull, hmore.2, hnone⟩
    rw [Socket.grow, hbytes]
    exact ⟨rfl, rfl⟩
  · exact absurd ⟨h.overrun, by omega⟩ hmore
  · exact ⟨rfl, rfl⟩

/-- Where a byte is stored, the end of the message is all that matters. -/
theorem handled_iff_of_holds (hnul : 0 ∉ st.received) (h : Holds st.socket st.received)
    (hmemory : ¬ AllocationFails st.socket input) :
    Handled st (.byte input) ↔ Harmless st (.byte input) := by
  obtain ⟨hall, hholds⟩ := h.append hmemory
  have hbuffer : st.socket.jsonReceiveMessageIndex < st.socket.jsonReceiveMessageAllocSize →
      st.socket.jsonReceiveMessage ≠ none := by
    intro hlt
    obtain ⟨buffer, hbuffer, -⟩ := h.exists_buffer (Nat.zero_lt_of_lt hlt)
    rw [hbuffer]
    exact Option.some_ne_none buffer
  rw [handled_byte_iff, and_iff_right hall, Harmless, and_iff_right hbuffer]
  refine forall_congr' fun hend => ?_
  rw [hend] at hholds
  split_ifs with hlength
  · obtain ⟨hhttp, hsize⟩ := receiveByte_fields h hmemory hlength
    rw [endOfMessage_iff hholds hnul hlength, hhttp, hsize, and_iff_right h.overrun,
      and_iff_right hmemory]
  · refine iff_of_false ?_ fun hharmless => ?_
    · rintro ⟨-, size, hreported⟩
      exact endOfMessage_ne_overrun hholds.overrun size true hreported
    · exact absurd (h.overrun.symm.trans hharmless.1) Bool.false_ne_true

/-- Where the buffer is lost, a message is not handled that would have fitted. -/
theorem handled_iff_of_fails (h : Holds st.socket st.received)
    (hmemory : AllocationFails st.socket input) :
    Handled st (.byte input) ↔ Harmless st (.byte input) := by
  obtain ⟨hpure, hlost⟩ := h.lose hmemory
  have hindex := h.index
  have hle := h.index_le
  obtain ⟨hfull, hmore, -⟩ := id hmemory
  have hlength : st.received.length < socketReceiveBufferMaxSize := by omega
  have hall : (receiveByte st.socket input).All Store.InBounds := by
    rw [hpure]
    exact Logged.all_pure _
  rw [handled_byte_iff, and_iff_right hall, Harmless,
    and_iff_right fun hlt => absurd hlt (Nat.not_lt.2 hfull)]
  refine forall_congr' fun _ => ?_
  rw [if_pos hlength, if_pos hlength, endOfMessage_of_overrun hlost.overrun]
  exact iff_of_false (fun hhandled => nomatch hhandled.2) fun hharmless => hharmless.2.1 hmemory

/-- Without a buffer, a message is handled only if it is too long. -/
theorem handled_iff_of_lost (h : Lost st.socket) :
    Handled st (.byte input) ↔ Harmless st (.byte input) := by
  by_cases hroom : st.socket.jsonReceiveMessageIndex < st.socket.jsonReceiveMessageAllocSize
  · -- the byte is stored through a null pointer
    refine iff_of_false (fun hhandled => ?_) fun hharmless => hharmless.1 hroom h.buffer
    have hall := ((handled_byte_iff ..).1 hhandled).1
    rw [receiveByte, if_neg (Nat.not_le.2 hroom), Socket.save, Logged.all_bind,
      Logged.all_touch] at hall
    obtain ⟨size, hsize, -⟩ := hall.1
    rw [Socket.size, h.buffer] at hsize
    cases hsize
  · rw [handled_byte_iff, h.skip hroom, and_iff_right (Logged.all_pure _), Harmless,
      and_iff_right fun hlt => absurd hlt hroom]
    refine forall_congr' fun _ => ?_
    rw [Logged.value_pure, endOfMessage_of_overrun h.overrun, and_iff_right (Logged.all_pure _),
      Logged.value_pure, h.overrun]
    split_ifs
    · exact iff_of_false nofun nofun
    · rw [and_iff_right rfl]
      constructor
      · rintro ⟨size, hreported⟩
        exact (Outcome.overrun.inj hreported).2
      · intro hobject
        exact ⟨_, by rw [hobject]⟩

/-- **A byte is handled exactly if it is harmless.** -/
theorem Inv.handled_iff (h : Inv st) (e : Event) : Handled st e ↔ Harmless st e := by
  cases e with
  | pause => exact Iff.rfl
  | byte input =>
    rcases h.buffer with hholds | hlost
    · by_cases hmemory : AllocationFails st.socket input
      · exact handled_iff_of_fails hholds hmemory
      · exact handled_iff_of_holds h.noNul hholds hmemory
    · exact handled_iff_of_lost hlost

/-- A harmless byte keeps the invariant. -/
theorem Inv.step (h : Inv st) {e : Event} (he : Harmless st e) (hs : step st e = some st') :
    Inv st' := by
  cases e with
  | pause =>
    obtain rfl := Option.some.inj hs
    exact h
  | byte input =>
    obtain rfl := Option.some.inj hs
    -- where the buffer is after the byte
    have hreceived : Holds (receiveByte st.socket input).value (st.received ++ [input.rxbuf]) ∨
        Lost (receiveByte st.socket input).value := by
      rcases h.buffer with hholds | hlost
      · by_cases hmemory : AllocationFails st.socket input
        · exact .inr (hholds.lose hmemory).2
        · exact .inl (hholds.append hmemory).2
      · rw [hlost.skip fun hlt => he.1 hlt hlost.buffer]
        exact .inr hlost
    by_cases hend : input.rxbuf = 0
    · refine ⟨?_, .inl ?_⟩
      · simp [hend]
      · simp only [handleByte_value, if_pos hend]
        exact hreceived.elim Holds.endOfMessage Lost.endOfMessage
    · refine ⟨?_, ?_⟩
      · simp only [if_neg hend, List.mem_append, List.mem_singleton]
        exact fun hor => hor.elim h.noNul fun heq => hend heq.symm
      · simp only [handleByte_value, if_neg hend]
        exact hreceived

/-- While there is memory, what is received is in the buffer, as much as fits. -/
theorem exists_run_holds (h : Holds st.socket st.received) (inputs : List Input)
    (hinputs : ∀ input ∈ inputs, input.rxbuf ≠ 0 ∧ input.newReceiveBufferPtr ≠ none) :
    ∃ st', machine.run st (inputs.map Event.byte) = some st' ∧ Holds st'.socket st'.received ∧
      st'.received = st.received ++ inputs.map Input.rxbuf := by
  induction inputs generalizing st with
  | nil => exact ⟨st, rfl, h, (List.append_nil _).symm⟩
  | cons input inputs ih =>
    obtain ⟨⟨hbyte, hmemory⟩, hinputs⟩ := List.forall_mem_cons.1 hinputs
    have hnext : Holds (handleByte st.socket input).value.2 (st.received ++ [input.rxbuf]) := by
      rw [handleByte_value, if_neg hbyte]
      exact (h.append fun hfails => hmemory hfails.2.2).2
    obtain ⟨st', hrun, hholds, hreceived⟩ := @ih ⟨_, _⟩ hnext hinputs
    refine ⟨st', ?_, hholds, ?_⟩
    · rw [List.map_cons, Machine.run]
      simp only [machine, step, Option.bind_some, if_neg hbyte]
      exact hrun
    · rw [hreceived, List.map_cons, List.append_assoc]
      rfl

/-- A character that arrives while there is memory. -/
def character (b : Byte) : Input where
  rxbuf := b
  newReceiveBufferPtr := some fun _ => 0
  memory _ := 0
  behindHttpBuf := []
  jsonResponseObject := true

end ReceiveBuffer

end Json

end Lcm
