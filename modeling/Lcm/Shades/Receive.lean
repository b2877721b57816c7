import Lcm.Eliot.ReceiveBytes
import Lcm.Memory

/-!
# The responses of the shades

`receiveHTTPBytesFromQmotion` receives until it has seen the blank line of a response, and then
copies what follows it into a buffer.  From a stream it receives at most 100 bytes at a time, into
an array of its own that has no terminator when it is full; a datagram is received into the very
buffer that is copied to.  How much comes at a time is up to the network.

## Main definitions

* `receiveHTTPBytesFromQmotion` : the function, unless a search runs out of its array or a copy
  overlaps its source.
* `Delivers` : what it is for.
* `seen` : the blank line that the searches find.
* `Regular` : no receive fails, and the blank line that is seen is as good as the first one.

## Main results

* `delivers_iff` : when the body of a response is delivered.
* `straddling_not_delivered` : a blank line that comes in two parts.
-/

namespace Lcm

namespace Shades

namespace Receive

open Eliot.ReceiveBytes (blankLine)
open Strings

/-! ### The network -/

/-- The types of a socket. -/
inductive SocketType
  /-- `SOCK_DGRAM` -/
  | dgram
  /-- `SOCK_STREAM` -/
  | stream
  deriving DecidableEq

/-- How a response ends. -/
inductive Ending
  /-- `Socket_recv` returns 0. -/
  | closed
  /-- `Socket_recv` fails with `RTCSERR_TCP_CONN_CLOSING`. -/
  | closing
  /-- `Socket_recv` fails for another reason. -/
  | failed
  deriving DecidableEq

/-- A response. -/
structure Response where
  /-- Its bytes, up to where it ends. -/
  bytes : List Byte
  /-- How many bytes come at a time, less one. -/
  size : ℕ → ℕ
  /-- How it ends. -/
  ending : Ending

/-- A buffer that exists: it is not empty, and its size can be counted in an `int32_t`. -/
structure Buffer where
  /-- What is in it. -/
  buf : ℕ → Byte
  /-- `bufferSize` -/
  bufferSize : ℕ
  /-- It is not empty. -/
  pos : 0 < bufferSize
  /-- It is not too large. -/
  small : bufferSize < 2 ^ 31

/-! ### The function -/

/-- The variables of the function, and what has been written to the buffer. -/
structure State where
  /-- `buf`; the indices count up to 2^32. -/
  buf : ℕ → Byte
  /-- `writeIndex` -/
  writeIndex : ℕ
  /-- `headerFound` -/
  headerFound : Bool
  /-- Where something has been written, and how much. -/
  written : List (ℕ × ℕ)
  /-- A receive has failed. -/
  failed : Bool

/-- The variables at the start. -/
def State.start (buf : ℕ → Byte) : State := ⟨buf, 0, false, [], false⟩

/-- Some bytes are written to the buffer. -/
def State.write (st : State) (index : ℕ) (bytes : List Byte) : State :=
  { st with
    buf := writeList st.buf index bytes
    written := st.written ++ [(index, bytes.length)] }

/-- Some bytes are copied to the buffer, behind those that are there. -/
def State.copied (st : State) (bytes : List Byte) (bytesToCopy : ℕ) : State :=
  { st.write st.writeIndex bytes with
    writeIndex := st.writeIndex + bytesToCopy
    headerFound := true }

/-- `sizeof(receiveBuf)` -/
def sizeofReceiveBuf : ℕ := 100

/-- `receiveBufDataSize` -/
def receiveBufDataSize (bufferSize : ℕ) : SocketType → ℕ
  | .dgram => bufferSize
  | .stream => sizeofReceiveBuf

/-- What is received is copied, from `htmlContent` on.  The array of a datagram is the buffer, and
so the copy may overlap. -/
def copy (socketType : SocketType) (received : List Byte) (htmlContent : ℕ) (st : State) :
    Option State :=
  let bytesToCopy := received.length - htmlContent
  if socketType = .dgram ∧ htmlContent < bytesToCopy then none
  else some (st.copied (received.drop htmlContent) bytesToCopy)

/-- The search for a blank line in an array, zeros behind what was received. -/
def search (size : ℕ) (received : List Byte) : Search :=
  strstr blankLine (received ++ List.replicate (size - received.length) 0)

/-- What is done with what was received. -/
def process (bufferSize : ℕ) (socketType : SocketType) (received : List Byte) (st : State) :
    Option State :=
  if st.headerFound then copy socketType received 0 st
  else
    match search (receiveBufDataSize bufferSize socketType) received with
    | .found i => copy socketType received (i + 4) st
    | .absent _ => some st
    -- the array has no zero, so that `strstr` reads behind it
    | .overrun => none

/-- The receive at the end of a response. -/
def atEnd (bufferSize : ℕ) (socketType : SocketType) (st : State) : Ending → Option State
  | .closed => process bufferSize socketType [] st
  | .closing => some st
  -- the result of the receive is assigned to the unsigned index
  | .failed => some { st with writeIndex := 2 ^ 32 - 1, failed := true }

/-- The array of a datagram is filled with zeros; it is the buffer. -/
def State.zeroed (st : State) (bufferSize : ℕ) : State := st.write 0 (List.replicate bufferSize 0)

/-- The loop, for a datagram: there is one pass, and what does not fit is discarded. -/
def datagram (r : Response) (bufferSize : ℕ) (st : State) : Option State :=
  let st := st.zeroed bufferSize
  if r.bytes = [] then atEnd bufferSize .dgram st r.ending
  else
    let received := (r.bytes.take (r.size 0 + 1)).take bufferSize
    process bufferSize .dgram received (st.write 0 received)

/-- `numBytesToRead`, for a stream. -/
def numBytesToRead (bufferSize writeIndex : ℕ) : ℕ :=
  if bufferSize - writeIndex > sizeofReceiveBuf then sizeofReceiveBuf else bufferSize - writeIndex

/-- What is received from a stream. -/
def received (r : Response) (bufferSize i : ℕ) (bytes : List Byte) (writeIndex : ℕ) : List Byte :=
  bytes.take (min (r.size i + 1) (numBytesToRead bufferSize writeIndex))

theorem length_received_le (r : Response) (bufferSize i : ℕ) (bytes : List Byte)
    (writeIndex : ℕ) : (received r bufferSize i bytes writeIndex).length ≤ bytes.length :=
  List.length_take_le' _ _

/-- The loop, for a stream, with the bytes that have not come yet. -/
def streamLoop (r : Response) (bufferSize : ℕ) (headerOnly : Bool) (i : ℕ) (bytes : List Byte)
    (st : State) : Option State :=
  if bytes = [] then atEnd bufferSize .stream st r.ending
  else
    let bytesReceived := (received r bufferSize i bytes st.writeIndex).length
    match process bufferSize .stream (received r bufferSize i bytes st.writeIndex) st with
    | none => none
    | some next =>
      if headerOnly ∧ next.headerFound then some next
      else if _h : 0 < bytesReceived ∧ next.writeIndex < bufferSize then
        streamLoop r bufferSize headerOnly (i + 1) (bytes.drop bytesReceived) next
      else some next
termination_by bytes.length
decreasing_by
  have hle := length_received_le r bufferSize i bytes st.writeIndex
  rw [List.length_drop]
  show bytes.length - (received r bufferSize i bytes st.writeIndex).length < bytes.length
  omega

/-- The rest of the buffer is filled with zeros; `writeIndex` and the length are unsigned. -/
def fill (bufferSize : ℕ) (st : State) : State :=
  let length := (bufferSize + 2 ^ 32 - st.writeIndex) % 2 ^ 32
  { st with
    buf := fun i => if (i + 2 ^ 32 - st.writeIndex) % 2 ^ 32 < length then 0 else st.buf i
    written := st.written ++ [(st.writeIndex, length)] }

/-- The loop. -/
def loop (socketType : SocketType) (r : Response) (bufferSize : ℕ) (headerOnly : Bool)
    (st : State) : Option State :=
  match socketType with
  | .dgram => datagram r bufferSize st
  | .stream => streamLoop r bufferSize headerOnly 0 r.bytes st

/-- `receiveHTTPBytesFromQmotion`, with what it returns. -/
def receiveHTTPBytesFromQmotion (socketType : Option SocketType) (r : Response) (buffer : Buffer)
    (headerOnly : Bool) : Option (State × ℤ) :=
  match socketType with
  | none => some (.start buffer.buf, 0)
  | some socketType => do
    let st ← loop socketType r buffer.bufferSize headerOnly (.start buffer.buf)
    pure (fill buffer.bufferSize st, (BitVec.ofNat 32 st.writeIndex).toInt)

/-! ### What is asked for -/

/-- What follows the first blank line. -/
def body : List Byte → List Byte
  | [] => []
  | c :: bytes => if blankLine <+: c :: bytes then (c :: bytes).drop 4 else body bytes

/-- The range is inside of the buffer. -/
def InBuffer (bufferSize : ℕ) (range : ℕ × ℕ) : Prop :=
  range.2 = 0 ∨ range.1 + range.2 ≤ bufferSize

/-- **The body of a response is delivered**: nothing is written outside of the buffer, the result is
negative if a receive has failed, and otherwise the buffer holds the body, up to its size, and
zeros. -/
structure Delivered (bufferSize : ℕ) (bytes : List Byte) (st : State) (result : ℤ) : Prop where
  /-- Where something has been written. -/
  inside : ∀ range ∈ st.written, InBuffer bufferSize range
  /-- The result. -/
  negative : result < 0 ↔ st.failed = true
  /-- The content. -/
  content : st.failed = false → ∀ i < bufferSize, st.buf i = (body bytes).getD i 0

/-- The call returns, and has delivered the body. -/
def Delivers (socketType : SocketType) (r : Response) (buffer : Buffer) (headerOnly : Bool) :
    Prop :=
  ∃ st result, receiveHTTPBytesFromQmotion (some socketType) r buffer headerOnly =
    some (st, result) ∧ Delivered buffer.bufferSize r.bytes st result

/-! ### When it is delivered -/

/-- What the searches find. -/
inductive Seen
  /-- No blank line. -/
  | absent
  /-- The end of an array. -/
  | overrun
  /-- A blank line, which ends here, in a receive that ends there. -/
  | header (stop next : ℕ)

/-- What is found so many bytes further. -/
def Seen.shift (k : ℕ) : Seen → Seen
  | .absent => .absent
  | .overrun => .overrun
  | .header stop next => .header (k + stop) (k + next)

/-- What is found in a stream. -/
def seenStream (r : Response) (bufferSize i : ℕ) (bytes : List Byte) : Seen :=
  if bytes = [] then .absent
  else
    match search sizeofReceiveBuf (received r bufferSize i bytes 0) with
    | .found j => .header (j + 4) (received r bufferSize i bytes 0).length
    | .overrun => .overrun
    | .absent _ =>
      if _h : 0 < (received r bufferSize i bytes 0).length then
        (seenStream r bufferSize (i + 1)
          (bytes.drop (received r bufferSize i bytes 0).length)).shift
          (received r bufferSize i bytes 0).length
      else .absent
termination_by bytes.length
decreasing_by
  have hle := length_received_le r bufferSize i bytes 0
  rw [List.length_drop]
  omega

/-- What is found in a datagram. -/
def seenDatagram (r : Response) (bufferSize : ℕ) : Seen :=
  let received := (r.bytes.take (r.size 0 + 1)).take bufferSize
  match search bufferSize received with
  | .found j => .header (j + 4) received.length
  | .overrun => .overrun
  | .absent _ => .absent

/-- **The blank line that is seen.** -/
def seen (socketType : SocketType) (r : Response) (bufferSize : ℕ) : Seen :=
  match socketType with
  | .dgram => seenDatagram r bufferSize
  | .stream => seenStream r bufferSize 0 r.bytes

/-- The bytes that count as the body, if what has been received with the header is all of it, and
otherwise. -/
def bodyFrom (short : Bool) (bytes : List Byte) : Seen → List Byte
  | .absent => []
  | .overrun => []
  | .header stop next => if short then (bytes.take next).drop stop else bytes.drop stop

/-- The end of a stream is reached. -/
def ReachesEnd (bufferSize : ℕ) (headerOnly : Bool) (bytes : List Byte) : Seen → Prop
  | .absent => True
  | .overrun => False
  | .header stop _ => headerOnly = false ∧ bytes.length - stop < bufferSize

/-- Both are the same, up to a size, with zeros behind them. -/
def SameFilled (size : ℕ) (bytes bytes' : List Byte) : Prop :=
  ∀ i < size, bytes.getD i 0 = bytes'.getD i 0

/-- A receive is made at the end of the response. -/
def EndReceived (socketType : SocketType) (r : Response) (bufferSize : ℕ) (headerOnly : Bool) :
    Prop :=
  match socketType with
  | .dgram => r.bytes = []
  | .stream => ReachesEnd bufferSize headerOnly r.bytes (seen .stream r bufferSize)

/-- What follows the header is not longer than the header. -/
def Apart : Seen → Prop
  | .absent => True
  | .overrun => True
  | .header stop next => next - stop ≤ stop

/-- **The regular responses**: the searches end inside of their arrays, no copy overlaps its
source, no receive fails, and what follows the blank line that is seen is what follows the first
one. -/
structure Regular (socketType : SocketType) (r : Response) (bufferSize : ℕ) (headerOnly : Bool) :
    Prop where
  /-- The searches. -/
  ends : seen socketType r bufferSize ≠ .overrun
  /-- The copies. -/
  apart : socketType = .dgram → Apart (seen socketType r bufferSize)
  /-- The receives. -/
  received : EndReceived socketType r bufferSize headerOnly → r.ending ≠ .failed
  /-- The body. -/
  same : SameFilled bufferSize
    (bodyFrom (headerOnly || socketType = .dgram) r.bytes (seen socketType r bufferSize))
    (body r.bytes)

/-! ### Searching and copying -/

variable {r : Response} {bufferSize size i j k : ℕ} {bytes rec : List Byte} {st st' : State}
  {headerOnly : Bool}

/-- A blank line is in what was received, not in the zeros behind it. -/
theorem search_found_le (h : search size rec = .found j) : j + 4 ≤ rec.length := by
  obtain ⟨hbegins, -, -⟩ := (strstr_eq_found_iff (by decide)).1 h
  obtain ⟨rest, hrest⟩ := hbegins
  have hlast : (rec ++ List.replicate (size - rec.length) 0)[j + 3]? = some (10 : Byte) := by
    rw [← List.getElem?_drop, ← hrest]
    rfl
  by_contra hlong
  rw [List.getElem?_append_right (by omega), List.getElem?_replicate] at hlast
  split at hlast
  · exact absurd (Option.some.inj hlast) (by decide)
  · cases hlast

theorem search_nil (hsize : 0 < size) : search size [] = .absent 0 := by
  obtain ⟨size, rfl⟩ : ∃ k, size = k + 1 := ⟨size - 1, by omega⟩
  rfl

/-- Nothing is copied at the end of a response. -/
theorem process_nil (hsize : 0 < bufferSize) (socketType : SocketType)
    (hfound : st.headerFound = false) : process bufferSize socketType [] st = some st := by
  have hpos : 0 < receiveBufDataSize bufferSize socketType := by
    cases socketType with
    | dgram => exact hsize
    | stream => exact Nat.succ_pos 99
  rw [process, hfound, search_nil hpos]
  rfl

/-- **What has been copied** to the buffer in the end, unless a receive fails. -/
structure Copies (bufferSize : ℕ) (fails : Prop) (bytes : List Byte) (st st' : State) : Prop where
  /-- The buffer. -/
  buf : st'.buf = writeList st.buf st.writeIndex bytes
  /-- What has been written. -/
  inside : ∀ range ∈ st'.written, range ∈ st.written ∨ range.1 + range.2 ≤ bufferSize
  /-- A receive fails. -/
  failed : fails → st'.writeIndex = 2 ^ 32 - 1 ∧ st'.failed = true
  /-- No receive fails. -/
  returned : ¬ fails → st'.writeIndex = st.writeIndex + bytes.length ∧ st'.failed = st.failed

theorem length_received (r : Response) (bufferSize i : ℕ) (bytes : List Byte) (writeIndex : ℕ) :
    (received r bufferSize i bytes writeIndex).length =
      min (min (r.size i + 1) (numBytesToRead bufferSize writeIndex)) bytes.length :=
  List.length_take

theorem numBytesToRead_bounds (h : k < bufferSize) :
    0 < numBytesToRead bufferSize k ∧ numBytesToRead bufferSize k ≤ bufferSize - k := by
  rw [numBytesToRead, sizeofReceiveBuf]
  split <;> omega

theorem received_append_drop (r : Response) (bufferSize i : ℕ) (bytes : List Byte)
    (writeIndex : ℕ) : received r bufferSize i bytes writeIndex ++
      bytes.drop (received r bufferSize i bytes writeIndex).length = bytes := by
  rw [length_received]
  by_cases h : min (r.size i + 1) (numBytesToRead bufferSize writeIndex) ≤ bytes.length
  · rw [Nat.min_eq_left h]
    exact List.take_append_drop _ _
  · have h : bytes.length ≤ min (r.size i + 1) (numBytesToRead bufferSize writeIndex) := by omega
    rw [Nat.min_eq_right h, List.drop_length, List.append_nil]
    exact List.take_of_length_le h

/-! ### Behind the header -/

theorem process_stream_of_found (bufferSize : ℕ) (hfound : st.headerFound = true)
    (rec : List Byte) :
    process bufferSize .stream rec st = some (st.copied rec rec.length) := by
  rw [process, if_pos hfound, copy, if_neg fun h => SocketType.noConfusion h.1]
  rfl

theorem copies_copied (hfits : st.writeIndex + rec.length ≤ bufferSize) {fails : Prop}
    (hfails : ¬ fails) : Copies bufferSize fails rec st (st.copied rec rec.length) := by
  refine ⟨rfl, fun range hrange => ?_, fun h => absurd h hfails, fun _ => ⟨rfl, rfl⟩⟩
  refine (List.mem_append.1 hrange).imp id fun h => ?_
  rw [List.mem_singleton.1 h]
  exact hfits

theorem copies_nil {fails : Prop} (hfails : ¬ fails) : Copies bufferSize fails [] st st :=
  ⟨(writeList_nil _ _).symm, fun _ h => .inl h, fun h => absurd h hfails, fun _ => ⟨rfl, rfl⟩⟩

/-- One copy after the other. -/
theorem Copies.copied {fails : Prop} {rest : List Byte}
    (hfits : st.writeIndex + rec.length ≤ bufferSize)
    (h : Copies bufferSize fails rest (st.copied rec rec.length) st') :
    Copies bufferSize fails (rec ++ rest) st st' := by
  refine ⟨?_, fun range hrange => ?_, h.failed, fun hreturned => ?_⟩
  · rw [h.buf]
    exact writeList_append _ _ _ _
  · obtain hold | hinside := h.inside range hrange
    · refine (List.mem_append.1 hold).imp id fun h => ?_
      rw [List.mem_singleton.1 h]
      exact hfits
    · exact .inr hinside
  · obtain ⟨hindex, hfailed⟩ := h.returned hreturned
    rw [hindex, List.length_append, ← Nat.add_assoc]
    exact ⟨rfl, hfailed⟩

/-- At the end of a stream nothing more is copied. -/
theorem atEnd_copies (hfound : st.headerFound = true) (hroom : st.writeIndex < bufferSize)
    (ending : Ending) : ∃ st', atEnd bufferSize .stream st ending = some st' ∧
      Copies bufferSize (ending = .failed) [] st st' := by
  cases ending with
  | closed =>
    refine ⟨_, process_stream_of_found bufferSize hfound [], copies_copied ?_ Ending.noConfusion⟩
    exact Nat.le_of_lt hroom
  | closing => exact ⟨st, rfl, copies_nil Ending.noConfusion⟩
  | failed =>
    exact ⟨_, rfl, (writeList_nil _ _).symm, fun _ h => .inl h, fun _ => ⟨rfl, rfl⟩,
      fun h => absurd rfl h⟩

/-- **What follows the header** is copied, up to the size of the buffer, however it comes. -/
theorem streamLoop_copies (r : Response) (i : ℕ) (bytes : List Byte)
    (hfound : st.headerFound = true) (hroom : st.writeIndex < bufferSize) :
    ∃ st', streamLoop r bufferSize false i bytes st = some st' ∧
      Copies bufferSize (r.ending = .failed ∧ bytes.length < bufferSize - st.writeIndex)
        (bytes.take (bufferSize - st.writeIndex)) st st' := by
  induction hlength : bytes.length using Nat.strong_induction_on generalizing bytes i st with
  | _ n ih =>
    rw [streamLoop]
    by_cases hend : bytes = []
    · rw [if_pos hend]
      subst hend
      obtain ⟨st', hresult, hcopies⟩ := atEnd_copies hfound hroom r.ending
      refine ⟨st', hresult, ?_⟩
      have hshort : n < bufferSize - st.writeIndex := by
        rw [← hlength, List.length_nil]
        omega
      rwa [and_iff_left hshort, List.take_nil]
    · obtain ⟨hread, hread_le⟩ := numBytesToRead_bounds hroom
      have hpos := List.length_pos_of_ne_nil hend
      have hrec := length_received r bufferSize i bytes st.writeIndex
      have hsplit := received_append_drop r bufferSize i bytes st.writeIndex
      rw [if_neg hend]
      generalize received r bufferSize i bytes st.writeIndex = rec at hrec hsplit
      -- no more is received than there is room for
      have hfits : st.writeIndex + rec.length ≤ bufferSize := by omega
      dsimp only
      rw [process_stream_of_found _ hfound]
      dsimp only
      rw [if_neg (by simp)]
      by_cases hmore : st.writeIndex + rec.length < bufferSize
      · have hshorter : (bytes.drop rec.length).length < n := by
          rw [List.length_drop]
          omega
        have hroom' : (st.copied rec rec.length).writeIndex < bufferSize := hmore
        obtain ⟨st', hresult, hcopies⟩ :=
          ih _ hshorter (i + 1) (bytes.drop rec.length) rfl hroom' rfl
        rw [dif_pos ⟨by omega, hmore⟩]
        refine ⟨st', hresult, ?_⟩
        have hdrop : (bytes.drop rec.length).length = n - rec.length := by
          rw [List.length_drop, hlength]
        -- the end is reached later if and only if it is reached from here
        have hshort : (bytes.drop rec.length).length < bufferSize - (st.writeIndex + rec.length) ↔
            n < bufferSize - st.writeIndex := by omega
        have htake : bytes.take (bufferSize - st.writeIndex) =
            rec ++ (bytes.drop rec.length).take (bufferSize - (st.writeIndex + rec.length)) := by
          conv_lhs => rw [← hsplit]
          rw [List.take_append, List.take_of_length_le (by omega), Nat.sub_sub]
        rw [htake, ← hshort]
        exact hcopies.copied hfits
      · rw [dif_neg fun h => hmore h.2]
        refine ⟨_, rfl, ?_⟩
        have htake : bytes.take (bufferSize - st.writeIndex) = rec := by
          rw [← hsplit]
          exact List.take_left' (by omega)
        rw [htake]
        refine copies_copied hfits fun h => ?_
        omega

/-! ### The header -/

/-- The variables at the end of a stream that has no blank line. -/
def State.ended (st : State) (ending : Ending) : State :=
  if ending = .failed then { st with writeIndex := 2 ^ 32 - 1, failed := true } else st

theorem atEnd_of_absent (hsize : 0 < bufferSize) (socketType : SocketType)
    (hfound : st.headerFound = false) (ending : Ending) :
    atEnd bufferSize socketType st ending = some (st.ended ending) := by
  cases ending with
  | closed => exact process_nil hsize socketType hfound
  | closing => rfl
  | failed => rfl

/-- What is copied when the header ends in what has been received. -/
theorem process_stream_of_found_at (bufferSize : ℕ) (hfound : st.headerFound = false)
    (h : search sizeofReceiveBuf rec = .found j) :
    process bufferSize .stream rec st =
      some (st.copied (rec.drop (j + 4)) (rec.drop (j + 4)).length) := by
  have hsearch : search (receiveBufDataSize bufferSize .stream) rec = .found j := h
  rw [process, hfound, if_neg Bool.false_ne_true, hsearch, List.length_drop]
  show copy .stream rec (j + 4) st = _
  rw [copy]
  refine if_neg ?_
  rintro ⟨h, -⟩
  cases h

theorem bodyFrom_shift (short : Bool) (bytes : List Byte) (k stop next : ℕ) :
    bodyFrom short bytes (.header (k + stop) (k + next)) =
      bodyFrom short (bytes.drop k) (.header stop next) := by
  rw [bodyFrom, bodyFrom]
  split
  · rw [← List.drop_drop, List.drop_take, Nat.add_sub_cancel_left]
  · rw [List.drop_drop]

/-- What is in the variables when the header has been looked for. -/
def Searched (r : Response) (bufferSize : ℕ) (headerOnly : Bool) (bytes : List Byte) (st : State)
    (result : Option State) : Seen → Prop
  | .overrun => result = none
  | .absent => result = some (st.ended r.ending)
  | .header stop next => ∃ st', result = some st' ∧
      Copies bufferSize (ReachesEnd bufferSize headerOnly bytes (.header stop next) ∧
        r.ending = .failed) ((bodyFrom headerOnly bytes (.header stop next)).take bufferSize) st st'

theorem Searched.shift {result : Option State} {found : Seen} (k : ℕ)
    (h : Searched r bufferSize headerOnly (bytes.drop k) st result found) :
    Searched r bufferSize headerOnly bytes st result (found.shift k) := by
  cases found with
  | absent => exact h
  | overrun => exact h
  | header stop next =>
    obtain ⟨st', hresult, hcopies⟩ := h
    refine ⟨st', hresult, ?_⟩
    rw [bodyFrom_shift]
    rw [ReachesEnd, List.length_drop, Nat.sub_sub] at hcopies
    exact hcopies

/-- The header ends in what has been received, and nothing else is asked for. -/
theorem searched_headerOnly (hsplit : rec ++ bytes.drop rec.length = bytes)
    (hfits : st.writeIndex + (rec.drop (j + 4)).length ≤ bufferSize) :
    Searched r bufferSize true bytes st (some (st.copied (rec.drop (j + 4))
      (rec.drop (j + 4)).length)) (.header (j + 4) rec.length) := by
  have htake : bytes.take rec.length = rec := by
    conv_lhs => rw [← hsplit]
    exact List.take_left
  have hbody : (bodyFrom true bytes (.header (j + 4) rec.length)).take bufferSize =
      rec.drop (j + 4) := by
    rw [bodyFrom, if_pos rfl, htake, List.take_of_length_le (by omega)]
  refine ⟨_, rfl, ?_⟩
  rw [hbody]
  exact copies_copied hfits fun h => Bool.noConfusion h.1.1

/-- The header ends in what has been received, and the rest is copied from there on. -/
theorem searched_rest (hindex : st.writeIndex = 0) (hle : j + 4 ≤ rec.length)
    (hsplit : rec ++ bytes.drop rec.length = bytes)
    (hroom : st.writeIndex + (rec.drop (j + 4)).length < bufferSize) :
    Searched r bufferSize false bytes st
      (streamLoop r bufferSize false (i + 1) (bytes.drop rec.length)
        (st.copied (rec.drop (j + 4)) (rec.drop (j + 4)).length))
      (.header (j + 4) rec.length) := by
  have hrest : (rec.drop (j + 4)).length = rec.length - (j + 4) := List.length_drop
  have hdrop : bytes.drop (j + 4) = rec.drop (j + 4) ++ bytes.drop rec.length := by
    conv_lhs => rw [← hsplit]
    exact List.drop_append_of_le_length hle
  have hnext : (st.copied (rec.drop (j + 4)) (rec.drop (j + 4)).length).writeIndex < bufferSize :=
    hroom
  obtain ⟨st', hresult, hcopies⟩ :=
    streamLoop_copies r (i + 1) (bytes.drop rec.length) rfl hnext
  refine ⟨st', hresult, ?_⟩
  have hcopied := hcopies.copied (Nat.le_of_lt hroom)
  have hwritten : (st.copied (rec.drop (j + 4)) (rec.drop (j + 4)).length).writeIndex =
      (rec.drop (j + 4)).length := by
    show st.writeIndex + _ = _
    rw [hindex, Nat.zero_add]
  have hreaches : ReachesEnd bufferSize false bytes (.header (j + 4) rec.length) ↔
      (bytes.drop rec.length).length < bufferSize - (rec.drop (j + 4)).length := by
    rw [ReachesEnd, and_iff_right rfl, List.length_drop]
    omega
  have hbody : (bodyFrom false bytes (.header (j + 4) rec.length)).take bufferSize =
      rec.drop (j + 4) ++
        (bytes.drop rec.length).take (bufferSize - (rec.drop (j + 4)).length) := by
    rw [bodyFrom, if_neg Bool.false_ne_true, hdrop, List.take_append,
      List.take_of_length_le (by omega)]
  rw [hwritten] at hcopied
  rw [hbody, hreaches, and_comm]
  exact hcopied

/-- **The loop looks for the header**, and then copies what follows it. -/
theorem streamLoop_searched (hsize : 0 < bufferSize) (hfound : st.headerFound = false)
    (hindex : st.writeIndex = 0) :
    Searched r bufferSize headerOnly bytes st (streamLoop r bufferSize headerOnly i bytes st)
      (seenStream r bufferSize i bytes) := by
  induction hlength : bytes.length using Nat.strong_induction_on generalizing bytes i with
  | _ n ih =>
    rw [streamLoop, seenStream]
    by_cases hend : bytes = []
    · rw [if_pos hend, if_pos hend]
      exact atEnd_of_absent hsize .stream hfound r.ending
    · obtain ⟨hread, hread_le⟩ := numBytesToRead_bounds hsize
      have hpos := List.length_pos_of_ne_nil hend
      have hrec := length_received r bufferSize i bytes 0
      have hsplit := received_append_drop r bufferSize i bytes 0
      rw [if_neg hend, if_neg hend, hindex]
      generalize received r bufferSize i bytes 0 = rec at hrec hsplit
      have hrec_pos : 0 < rec.length := by omega
      dsimp only
      cases hsearch : search sizeofReceiveBuf rec with
      | overrun =>
        have hprocess : process bufferSize .stream rec st = none := by
          rw [process, hfound, receiveBufDataSize, hsearch]
          rfl
        rw [hprocess]
        rfl
      | absent k =>
        have hprocess : process bufferSize .stream rec st = some st := by
          rw [process, hfound, receiveBufDataSize, hsearch]
          rfl
        rw [hprocess]
        dsimp only
        rw [if_neg (by rw [hfound]; simp), hindex, dif_pos ⟨hrec_pos, hsize⟩, dif_pos hrec_pos]
        refine (ih (bytes.drop rec.length).length ?_ rfl).shift rec.length
        rw [List.length_drop]
        omega
      | found j =>
        have hle := search_found_le hsearch
        rw [process_stream_of_found_at bufferSize hfound hsearch]
        dsimp only
        have hrest : (rec.drop (j + 4)).length = rec.length - (j + 4) := List.length_drop
        -- the header takes four bytes at least, so that there is room for more
        have hroom : st.writeIndex + (rec.drop (j + 4)).length < bufferSize := by omega
        cases headerOnly with
        | true =>
          rw [if_pos ⟨rfl, rfl⟩]
          exact searched_headerOnly hsplit (Nat.le_of_lt hroom)
        | false =>
          have hnext : (st.copied (rec.drop (j + 4)) (rec.drop (j + 4)).length).writeIndex <
              bufferSize := hroom
          rw [if_neg fun h => Bool.noConfusion h.1, dif_pos ⟨hrec_pos, hnext⟩]
          exact searched_rest hindex hle hsplit hroom

/-! ### The zeros behind the body -/

variable {bs : List Byte} {result : ℤ}

/-- The length that is filled, where the index is inside of the buffer. -/
theorem length_fill (hfits : k ≤ bufferSize) (hsmall : bufferSize < 2 ^ 31) :
    (bufferSize + 2 ^ 32 - k) % 2 ^ 32 = bufferSize - k := by
  omega

theorem fill_failed (bufferSize : ℕ) (st : State) : (fill bufferSize st).failed = st.failed := by
  rw [fill]

theorem fill_written (bufferSize : ℕ) (st : State) : (fill bufferSize st).written =
    st.written ++ [(st.writeIndex, (bufferSize + 2 ^ 32 - st.writeIndex) % 2 ^ 32)] := by
  rw [fill]

theorem result_nonneg (hsmall : k < 2 ^ 31) : 0 ≤ (BitVec.ofNat 32 k).toInt := by
  have hnat : (BitVec.ofNat 32 k).toNat = k := by
    rw [BitVec.toNat_ofNat]
    omega
  rw [BitVec.toInt_eq_toNat_of_lt (by rw [hnat]; omega)]
  exact Int.natCast_nonneg _

/-- What the buffer holds in the end. -/
theorem fill_content (hindex : st.writeIndex = bs.length) (hfits : bs.length ≤ bufferSize)
    (hsmall : bufferSize < 2 ^ 31) (hbuf : ∀ i < bs.length, st.buf i = bs.getD i 0)
    (hi : i < bufferSize) : (fill bufferSize st).buf i = bs.getD i 0 := by
  rw [fill, hindex, length_fill hfits hsmall]
  by_cases h : i < bs.length
  · have hbefore : ¬ (i + 2 ^ 32 - bs.length) % 2 ^ 32 < bufferSize - bs.length := by omega
    exact (if_neg hbefore).trans (hbuf i h)
  · have hbehind : (i + 2 ^ 32 - bs.length) % 2 ^ 32 < bufferSize - bs.length := by omega
    rw [List.getD_eq_getElem?_getD, List.getElem?_eq_none (Nat.le_of_not_lt h)]
    exact if_pos hbehind

/-- After a receive that failed, the byte in front of the buffer is written. -/
theorem not_delivered_fill (hindex : st.writeIndex = 2 ^ 32 - 1) (hsmall : bufferSize < 2 ^ 31) :
    ¬ Delivered bufferSize bytes (fill bufferSize st) result := by
  intro h
  have hmem : (2 ^ 32 - 1, bufferSize + 1) ∈ (fill bufferSize st).written := by
    have hlength : (bufferSize + 2 ^ 32 - (2 ^ 32 - 1)) % 2 ^ 32 = bufferSize + 1 := by omega
    rw [fill_written, hindex, hlength]
    exact List.mem_append_right _ (List.mem_singleton_self _)
  obtain hempty | hinside := h.inside _ hmem
  · cases hempty
  · omega

/-- If no receive fails, all that counts is what has been copied. -/
theorem delivered_fill_iff (hfailed : st.failed = false) (hindex : st.writeIndex = bs.length)
    (hfits : bs.length ≤ bufferSize) (hsmall : bufferSize < 2 ^ 31)
    (hinside : ∀ range ∈ st.written, range.1 + range.2 ≤ bufferSize)
    (hbuf : ∀ i < bs.length, st.buf i = bs.getD i 0) :
    Delivered bufferSize bytes (fill bufferSize st) (BitVec.ofNat 32 st.writeIndex).toInt ↔
      SameFilled bufferSize bs (body bytes) := by
  constructor
  · intro h i hi
    rw [← fill_content hindex hfits hsmall hbuf hi]
    exact h.content (by rw [fill_failed, hfailed]) i hi
  · intro h
    refine ⟨fun range hrange => ?_, ?_, fun _ i hi => ?_⟩
    · rw [fill_written] at hrange
      obtain hold | hlast := List.mem_append.1 hrange
      · exact .inr (hinside range hold)
      · right
        rw [List.mem_singleton.1 hlast, hindex, length_fill hfits hsmall, Nat.add_sub_cancel' hfits]
    · have hnonneg : 0 ≤ (BitVec.ofNat 32 st.writeIndex).toInt := by
        rw [hindex]
        exact result_nonneg (by omega)
      rw [fill_failed, hfailed]
      exact iff_of_false (Int.not_lt.2 hnonneg) Bool.false_ne_true
    · rw [fill_content hindex hfits hsmall hbuf hi]
      exact h i hi

/-! ### The call -/

variable {buffer : Buffer} {socketType : SocketType} {fails : Prop}

theorem delivers_iff_loop : Delivers socketType r buffer headerOnly ↔
    ∃ st, loop socketType r buffer.bufferSize headerOnly (.start buffer.buf) = some st ∧
      Delivered buffer.bufferSize r.bytes (fill buffer.bufferSize st)
        (BitVec.ofNat 32 st.writeIndex).toInt := by
  rw [Delivers, receiveHTTPBytesFromQmotion]
  cases loop socketType r buffer.bufferSize headerOnly (.start buffer.buf) with
  | none =>
    refine iff_of_false ?_ ?_
    · rintro ⟨_, _, h, -⟩
      cases h
    · rintro ⟨_, h, -⟩
      cases h
  | some st =>
    constructor
    · rintro ⟨_, _, hresult, h⟩
      cases hresult
      exact ⟨st, rfl, h⟩
    · rintro ⟨_, hresult, h⟩
      cases hresult
      exact ⟨_, _, rfl, h⟩

theorem sameFilled_take {bytes bytes' : List Byte} :
    SameFilled size (bytes.take size) bytes' ↔ SameFilled size bytes bytes' := by
  refine forall₂_congr fun i hi => ?_
  rw [List.getD_eq_getElem?_getD, List.getElem?_take_of_lt hi, ← List.getD_eq_getElem?_getD]

/-- What has been copied is delivered if it is the body and no receive fails. -/
theorem delivered_iff_of_copies (hindex : st.writeIndex = 0) (hfailed : st.failed = false)
    (hinside : ∀ range ∈ st.written, range.1 + range.2 ≤ bufferSize)
    (hfits : bs.length ≤ bufferSize) (hsmall : bufferSize < 2 ^ 31)
    (h : Copies bufferSize fails bs st st') :
    Delivered bufferSize bytes (fill bufferSize st') (BitVec.ofNat 32 st'.writeIndex).toInt ↔
      ¬ fails ∧ SameFilled bufferSize bs (body bytes) := by
  by_cases hfails : fails
  · refine iff_of_false (not_delivered_fill (h.failed hfails).1 hsmall) fun h => h.1 hfails
  · obtain ⟨hindex', hfailed'⟩ := h.returned hfails
    rw [hindex, Nat.zero_add] at hindex'
    rw [and_iff_right hfails]
    refine delivered_fill_iff (hfailed'.trans hfailed) hindex' hfits hsmall
      (fun range hrange => (h.inside range hrange).elim (hinside range) id) fun i hi => ?_
    have hwritten := writeList_inside st.buf 0 hi
    rw [Nat.zero_add] at hwritten
    rw [h.buf, hindex, hwritten, List.getD_eq_getElem?_getD, List.getElem?_eq_getElem hi]
    rfl

/-- A response that ends before there is a blank line. -/
theorem ended_copies (bufferSize : ℕ) (st : State) (ending : Ending) :
    Copies bufferSize (ending = .failed) [] st (st.ended ending) := by
  by_cases h : ending = .failed
  · rw [State.ended, if_pos h]
    exact ⟨(writeList_nil _ _).symm, fun _ h => .inl h, fun _ => ⟨rfl, rfl⟩,
      fun hnot => absurd h hnot⟩
  · rw [State.ended, if_neg h]
    exact copies_nil h

/-- What is left of the condition when the loop returns. -/
theorem regular_iff (hends : seen socketType r bufferSize ≠ .overrun)
    (hapart : socketType = .dgram → Apart (seen socketType r bufferSize)) :
    Regular socketType r bufferSize headerOnly ↔
      ¬ (EndReceived socketType r bufferSize headerOnly ∧ r.ending = .failed) ∧
        SameFilled bufferSize ((bodyFrom (headerOnly || socketType = .dgram) r.bytes
          (seen socketType r bufferSize)).take bufferSize) (body r.bytes) := by
  rw [sameFilled_take, not_and]
  constructor
  · intro h
    exact ⟨h.received, h.same⟩
  · rintro ⟨hreceived, hsame⟩
    exact ⟨hends, hapart, hreceived, hsame⟩

/-- The body is delivered if the loop copies what follows the blank line that is seen. -/
theorem delivers_iff_of_copies (hends : seen socketType r buffer.bufferSize ≠ .overrun)
    (hapart : socketType = .dgram → Apart (seen socketType r buffer.bufferSize))
    (hindex : st.writeIndex = 0) (hfailed : st.failed = false)
    (hinside : ∀ range ∈ st.written, range.1 + range.2 ≤ buffer.bufferSize)
    (hloop : loop socketType r buffer.bufferSize headerOnly (.start buffer.buf) = some st')
    (h : Copies buffer.bufferSize
      (EndReceived socketType r buffer.bufferSize headerOnly ∧ r.ending = .failed)
      ((bodyFrom (headerOnly || socketType = .dgram) r.bytes
        (seen socketType r buffer.bufferSize)).take buffer.bufferSize) st st') :
    Delivers socketType r buffer headerOnly ↔
      Regular socketType r buffer.bufferSize headerOnly := by
  rw [regular_iff hends hapart, delivers_iff_loop, hloop,
    ← delivered_iff_of_copies hindex hfailed hinside (List.length_take_le _ _) buffer.small h]
  constructor
  · rintro ⟨_, hsome, h⟩
    cases hsome
    exact h
  · intro h
    exact ⟨st', rfl, h⟩

/-- Nothing is delivered if the loop does not return. -/
theorem not_delivers_of_none
    (hloop : loop socketType r buffer.bufferSize headerOnly (.start buffer.buf) = none) :
    ¬ Delivers socketType r buffer headerOnly := by
  rw [delivers_iff_loop, hloop]
  rintro ⟨_, h, -⟩
  cases h

theorem start_inside (buf : ℕ → Byte) :
    ∀ range ∈ (State.start buf).written, range.1 + range.2 ≤ bufferSize :=
  fun _ h => nomatch h

/-- When the body of a stream is delivered. -/
theorem delivers_stream_iff : Delivers .stream r buffer headerOnly ↔
    Regular .stream r buffer.bufferSize headerOnly := by
  have hsearched : Searched r buffer.bufferSize headerOnly r.bytes (.start buffer.buf)
      (loop .stream r buffer.bufferSize headerOnly (.start buffer.buf))
      (seen .stream r buffer.bufferSize) := streamLoop_searched buffer.pos rfl rfl
  have hshort : (headerOnly || SocketType.stream = .dgram) = headerOnly := Bool.or_false _
  have hend : EndReceived .stream r buffer.bufferSize headerOnly =
    ReachesEnd buffer.bufferSize headerOnly r.bytes (seen .stream r buffer.bufferSize) := rfl
  cases hseen : seen .stream r buffer.bufferSize with
  | overrun =>
    rw [hseen] at hsearched
    exact iff_of_false (not_delivers_of_none hsearched) fun h => h.ends hseen
  | absent =>
    rw [hseen] at hsearched hend
    refine delivers_iff_of_copies (by rw [hseen]; simp) (fun h => nomatch h) rfl rfl
      (start_inside buffer.buf) hsearched ?_
    rw [hend, ReachesEnd, true_and, hseen, bodyFrom, List.take_nil]
    exact ended_copies _ _ _
  | header stop next =>
    rw [hseen] at hsearched hend
    obtain ⟨st', hloop, hcopies⟩ := hsearched
    refine delivers_iff_of_copies (by rw [hseen]; simp) (fun h => nomatch h) rfl rfl
      (start_inside buffer.buf) hloop ?_
    rw [hend, hseen, hshort]
    exact hcopies

theorem zeroed_inside (buf : ℕ → Byte) (bufferSize : ℕ) :
    ∀ range ∈ ((State.start buf).zeroed bufferSize).written, range.1 + range.2 ≤ bufferSize := by
  intro range hrange
  rw [List.mem_singleton.1 hrange, List.length_replicate, Nat.zero_add]

theorem received_inside (hfits : rec.length ≤ bufferSize)
    (hinside : ∀ range ∈ st.written, range.1 + range.2 ≤ bufferSize) :
    ∀ range ∈ (st.write 0 rec).written, range.1 + range.2 ≤ bufferSize := by
  intro range hrange
  obtain hold | hrec := List.mem_append.1 hrange
  · exact hinside range hold
  · rw [List.mem_singleton.1 hrec, Nat.zero_add]
    exact hfits

/-- What is done with a datagram. -/
theorem process_datagram (bufferSize : ℕ) (hfound : st.headerFound = false) :
    process bufferSize .dgram rec st =
      match search bufferSize rec with
      | .found j =>
        if j + 4 < rec.length - (j + 4) then none
        else some (st.copied (rec.drop (j + 4)) (rec.drop (j + 4)).length)
      | .absent _ => some st
      | .overrun => none := by
  rw [process, hfound, if_neg Bool.false_ne_true, receiveBufDataSize]
  cases search bufferSize rec with
  | found j =>
    show copy .dgram rec (j + 4) st = ite _ _ _
    rw [copy, List.length_drop]
    exact if_congr (and_iff_right rfl) rfl rfl
  | absent k => rfl
  | overrun => rfl

/-- When the body of a datagram is delivered. -/
theorem delivers_datagram_iff : Delivers .dgram r buffer headerOnly ↔
    Regular .dgram r buffer.bufferSize headerOnly := by
  have hshort : (headerOnly || SocketType.dgram = .dgram) = true := Bool.or_true _
  have hend : EndReceived .dgram r buffer.bufferSize headerOnly = (r.bytes = []) := rfl
  have hseen : seen .dgram r buffer.bufferSize = seenDatagram r buffer.bufferSize := rfl
  have hloop : loop .dgram r buffer.bufferSize headerOnly (.start buffer.buf) =
    datagram r buffer.bufferSize (.start buffer.buf) := rfl
  have hzeroed := zeroed_inside buffer.buf buffer.bufferSize
  rw [datagram] at hloop
  rw [seenDatagram] at hseen
  by_cases hempty : r.bytes = []
  · rw [hempty, List.take_nil, List.take_nil, search_nil buffer.pos] at hseen
    rw [if_pos hempty, atEnd_of_absent buffer.pos _ rfl] at hloop
    refine delivers_iff_of_copies (by rw [hseen]; simp) (fun _ => by rw [hseen]; trivial) rfl rfl
      hzeroed hloop ?_
    rw [hend, and_iff_right hempty, hseen, bodyFrom, List.take_nil]
    exact ended_copies _ _ _
  · have hlast : ¬ (EndReceived .dgram r buffer.bufferSize headerOnly ∧ r.ending = .failed) :=
      fun h => hempty h.1
    have hfits : ((r.bytes.take (r.size 0 + 1)).take buffer.bufferSize).length ≤
      buffer.bufferSize := List.length_take_le _ _
    have hrec : r.bytes.take ((r.bytes.take (r.size 0 + 1)).take buffer.bufferSize).length =
        (r.bytes.take (r.size 0 + 1)).take buffer.bufferSize := by
      rw [List.take_take]
      exact (List.prefix_iff_eq_take.1 (List.take_prefix _ _)).symm
    rw [if_neg hempty] at hloop
    generalize (r.bytes.take (r.size 0 + 1)).take buffer.bufferSize = rec at *
    have hinside := received_inside hfits hzeroed
    rw [process_datagram] at hloop
    · cases hsearch : search buffer.bufferSize rec with
      | overrun =>
        rw [hsearch] at hseen hloop
        exact iff_of_false (not_delivers_of_none hloop) fun h => h.ends hseen
      | absent k =>
        rw [hsearch] at hseen hloop
        refine delivers_iff_of_copies (by rw [hseen]; simp) (fun _ => by rw [hseen]; trivial) rfl
          rfl hinside hloop ?_
        rw [hseen, bodyFrom, List.take_nil]
        exact copies_nil hlast
      | found j =>
        rw [hsearch] at hseen hloop
        by_cases hoverlap : j + 4 < rec.length - (j + 4)
        · refine iff_of_false (not_delivers_of_none (hloop.trans (if_pos hoverlap))) fun h => ?_
          have hapart := h.apart rfl
          rw [hseen, Apart] at hapart
          omega
        · have hbody : bodyFrom true r.bytes (.header (j + 4) rec.length) = rec.drop (j + 4) := by
            rw [bodyFrom, if_pos rfl, hrec]
          have hbody_le : (rec.drop (j + 4)).length ≤ buffer.bufferSize := by
            rw [List.length_drop]
            omega
          refine delivers_iff_of_copies (by rw [hseen]; simp) (fun _ => ?_) rfl rfl hinside
            (hloop.trans (if_neg hoverlap)) ?_
          · rw [hseen, Apart]
            omega
          · rw [hshort, hseen, hbody, List.take_of_length_le hbody_le]
            refine copies_copied ?_ hlast
            rwa [State.write, State.zeroed, State.write, State.start, Nat.zero_add]
    · rfl

/-! ### A header that comes at once -/

/-- The body begins behind the first blank line. -/
theorem body_eq_drop (hbegins : blankLine <+: bytes.drop j)
    (hfirst : ∀ i < j, ¬ blankLine <+: bytes.drop i) : body bytes = bytes.drop (j + 4) := by
  induction bytes generalizing j with
  | nil => rw [body, List.drop_nil]
  | cons c bytes ih =>
    rw [body]
    cases j with
    | zero => exact if_pos hbegins
    | succ j =>
      have hlater : ¬ blankLine <+: c :: bytes := hfirst 0 (Nat.succ_pos j)
      rw [if_neg hlater]
      exact ih hbegins fun i hi => hfirst (i + 1) (Nat.succ_lt_succ hi)

/-- Whether there is a blank line depends on four bytes. -/
theorem blankLine_prefix_append (hle : i + 4 ≤ rec.length) (behind : List Byte) :
    blankLine <+: (rec ++ behind).drop i ↔ blankLine <+: rec.drop i := by
  rw [List.drop_append_of_le_length (by omega)]
  refine ⟨fun h => ?_, fun h => h.trans (List.prefix_append _ _)⟩
  refine List.prefix_of_prefix_length_le h (List.prefix_append _ _) ?_
  rw [List.length_drop, blankLine]
  show 4 ≤ rec.length - i
  omega

/-- A blank line that is found in the beginning of a response is its first one. -/
theorem body_of_search (hsplit : rec <+: bytes) (hfound : search size rec = .found j) :
    body bytes = bytes.drop (j + 4) := by
  obtain ⟨hbegins, -, hfirst⟩ := (strstr_eq_found_iff (by decide)).1 hfound
  have hle := search_found_le hfound
  obtain ⟨rest, rfl⟩ := hsplit
  refine body_eq_drop ?_ fun i hi => ?_
  · rw [blankLine_prefix_append hle] at hbegins ⊢
    exact hbegins
  · have hlater := hfirst i hi
    rw [blankLine_prefix_append (by omega)] at hlater ⊢
    exact hlater

/-- **A body does not depend on how it comes**, if the header comes at once. -/
theorem delivers_of_found
    (hfound : search sizeofReceiveBuf (received r buffer.bufferSize 0 r.bytes 0) = .found j)
    (hending : r.ending ≠ .failed) : Delivers .stream r buffer false := by
  have hbegins := received_append_drop r buffer.bufferSize 0 r.bytes 0
  have hle := search_found_le hfound
  have hbytes : r.bytes ≠ [] := by
    intro hempty
    rw [hempty, received, List.take_nil] at hle
    cases hle
  have hseen : seen .stream r buffer.bufferSize =
      .header (j + 4) (received r buffer.bufferSize 0 r.bytes 0).length := by
    rw [seen, seenStream, if_neg hbytes, hfound]
  rw [delivers_stream_iff]
  refine ⟨by rw [hseen]; simp, fun h => (nomatch h), fun _ => hending, fun i _ => ?_⟩
  rw [hseen, body_of_search ⟨_, hbegins⟩ hfound]
  rfl

/-- **When the body of a response is delivered**: for the regular responses. -/
theorem delivers_iff (socketType : SocketType) (r : Response) (buffer : Buffer)
    (headerOnly : Bool) : Delivers socketType r buffer headerOnly ↔
      Regular socketType r buffer.bufferSize headerOnly := by
  cases socketType with
  | dgram => exact delivers_datagram_iff
  | stream => exact delivers_stream_iff

/-- The stream goes on behind a receive that has no blank line. -/
theorem seenStream_of_absent (hbytes : bytes ≠ [])
    (habsent : search sizeofReceiveBuf (received r bufferSize i bytes 0) = .absent k)
    (hpos : 0 < (received r bufferSize i bytes 0).length) :
    seenStream r bufferSize i bytes =
      (seenStream r bufferSize (i + 1)
        (bytes.drop (received r bufferSize i bytes 0).length)).shift
          (received r bufferSize i bytes 0).length := by
  rw [seenStream, if_neg hbytes, habsent]
  exact dif_pos hpos

/-- A blank line comes in two parts, and the body is not seen. -/
theorem straddling_not_delivered :
    ¬ Delivers .stream ⟨blankLine ++ [65], fun _ => 1, .closed⟩ ⟨fun _ => 0, 8, by decide, by decide⟩
      false := by
  rw [delivers_stream_iff]
  intro h
  have hseen : seen .stream ⟨blankLine ++ [65], fun _ => 1, .closed⟩ 8 = .absent := by
    rw [seen, seenStream_of_absent (k := 2) (by decide) (by decide) (by decide),
      seenStream_of_absent (k := 2) (by decide) (by decide) (by decide),
      seenStream_of_absent (k := 1) (by decide) (by decide) (by decide), seenStream]
    rfl
  have hfirst := h.same 0 (by decide)
  rw [hseen] at hfirst
  revert hfirst
  decide

end Receive

end Shades

end Lcm
