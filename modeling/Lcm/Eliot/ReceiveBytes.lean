import Lcm.Crc
import Lcm.Strings
import Mathlib.Data.BitVec

/-!
# The response of the server

`Eliot_ReceiveBytes` reads once into an array that is not initialised, looks for the blank line of
the response with `strstr`, and copies what is in front of it or what is behind it.  The array has
no terminator, the search may fail, and the length of the header is computed from what is behind it.

## Main definitions

* `Eliot_ReceiveBytes` : the function, with how far it has read and what it has written.
* `Splits` : what it is for.
* `SplitFits` : the responses that it splits.

## Main results

* `Eliot_ReceiveBytes_splits_iff` : exactly these responses are split.
* `written_le` : what is written is not more than the size of the buffer.
-/

namespace Lcm

namespace Eliot

namespace ReceiveBytes

open Strings

/-! ### The function -/

/-- `"\\r\\n\\r\\n"` -/
def blankLine : List Byte := [13, 10, 13, 10]

/-- What `wolfSSL_read` puts into a buffer. -/
structure Received (buffer_size : Dword) where
  /-- The bytes. -/
  bytes : List Byte
  /-- They fit the buffer. -/
  fits : bytes.length ≤ buffer_size.toNat

/-- What `wolfSSL_read` returns. -/
inductive Read (buffer_size : Dword)
  /-- -1, and there is more to wait for. -/
  | wantRead
  /-- -1, for another reason. -/
  | failed
  /-- The number of bytes that are in the buffer. -/
  | received (received : Received buffer_size)

/-- What a call ends with. -/
inductive Outcome
  /-- It returns; `response_buffer` has been read up to an index, and this is written to `buf`. -/
  | returned (bytes_read : ℤ) (readTo : ℕ) (written : List Byte)
  /-- The search has failed, and its result is used. -/
  | nullPointer
  /-- The end of the memory is passed. -/
  | overrun
  deriving DecidableEq

/-- The lower of a length and the size of the buffer. -/
def copyLength (length buffer_size : Dword) : ℕ :=
  (if buffer_size < length then buffer_size else length).toNat

/-- A copy from `response` on ends the call; the memory has been read up to an index. -/
def copy (bytes_read : ℤ) (readTo : ℕ) (memory : List Byte) (response copy_length : ℕ) :
    Outcome :=
  match strncpy copy_length (memory.drop response) with
  | none => .overrun
  | some written =>
    .returned bytes_read (max readTo (response + scanned copy_length (memory.drop response)))
      written

/-- The rest of `Eliot_ReceiveBytes`; the memory at `response_buffer` has the bytes that were read,
what was in the array before, and what is behind it. -/
def split (buffer_size : Dword) (header : Bool) (bytes_read : ℕ) (memory : List Byte) : Outcome :=
  match strstr blankLine memory with
  | .overrun => .overrun
  | .absent _ => .nullPointer
  | .found response =>
    if header then
      match strlen (memory.drop response) with
      | none => .overrun
      | some header_length =>
        copy bytes_read (max (response + 4) (response + header_length + 1)) memory 0
          (copyLength (BitVec.ofNat 32 header_length) buffer_size)
    else
      let response := response + 4
      copy bytes_read response memory response
        (copyLength (BitVec.ofInt 32 (bytes_read - response)) buffer_size)

/-- `Eliot_ReceiveBytes`, with what `wolfSSL_read` returns one time after the other, and with what
is in memory from the first byte on that is not received; it may still be waiting. -/
def Eliot_ReceiveBytes (buffer_size : Dword) (header : Bool) (behind : List Byte) :
    List (Read buffer_size) → Option Outcome
  | [] => none
  | .wantRead :: reads => Eliot_ReceiveBytes buffer_size header behind reads
  | .failed :: _ => some (.returned (-1) 0 [])
  | .received received :: _ =>
    some (split buffer_size header received.bytes.length (received.bytes ++ behind))

/-! ### Its purpose -/

/-- The first blank line of a response, with what is in front of it and what is behind it. -/
structure FirstBlankLine (received head body : List Byte) : Prop where
  eq : received = head ++ blankLine ++ body
  first : ∀ head' body', received = head' ++ blankLine ++ body' → head.length ≤ head'.length

/-- **A response is split** if the call returns, has read nothing that was not received, has written
no more than the size of the buffer, and what it has written is the header, or the body. -/
def Splits (buffer_size : Dword) (header : Bool) (received : List Byte) : Outcome → Prop
  | .returned _ readTo written =>
    readTo ≤ received.length ∧ written.length ≤ buffer_size.toNat ∧
      ∀ head body, FirstBlankLine received head body → written = if header then head else body
  | .nullPointer => False
  | .overrun => False

/-- **The responses that are split** have a blank line, and no NUL in front of it.  If the header is
asked for, the first NUL behind the blank line ends as many bytes as the header has, the blank line
among them; if the body is asked for, nothing but more of them is behind a NUL. -/
def SplitFits (header : Bool) (received : List Byte) : Prop :=
  ∃ head body, FirstBlankLine received head body ∧ 0 ∉ head ∧
    if header then ∃ length, strlen body = some length ∧ length + 4 = head.length
    else ∀ c ∈ body.dropWhile (· ≠ 0), c = 0

variable {buffer_size length : Dword} {header : Bool} {received head body behind : List Byte}

/-! ### The blank line -/

theorem FirstBlankLine.length_eq (h : FirstBlankLine received head body) :
    received.length = head.length + 4 + body.length := by
  rw [h.eq, List.length_append, List.length_append]
  rfl

theorem FirstBlankLine.unique {head' body' : List Byte} (h : FirstBlankLine received head body)
    (h' : FirstBlankLine received head' body') : head' = head ∧ body' = body := by
  have hlength : head'.length = head.length :=
    le_antisymm (h'.first head body h.eq) (h.first head' body' h'.eq)
  have heq := h.eq.symm.trans h'.eq
  rw [List.append_assoc, List.append_assoc] at heq
  obtain ⟨hhead, hrest⟩ := List.append_inj heq hlength.symm
  exact ⟨hhead.symm, (List.append_cancel_left hrest).symm⟩

theorem strstr_eq_found_iff_firstBlankLine {i : ℕ} : strstr blankLine received = .found i ↔
    ∃ head body, FirstBlankLine received head body ∧ 0 ∉ head ∧ head.length = i := by
  rw [strstr_eq_found_iff (by decide)]
  constructor
  · rintro ⟨⟨body, hbody⟩, hnul, hfirst⟩
    have heq : received = received.take i ++ blankLine ++ body := by
      rw [List.append_assoc, hbody, List.take_append_drop]
    have hlength : (received.take i).length = i := by
      rw [List.length_take, min_eq_left]
      by_contra hlt
      rw [List.drop_eq_nil_of_le (not_le.1 hlt).le] at hbody
      cases hbody
    refine ⟨received.take i, body, ⟨heq, fun head' body' heq' => ?_⟩, hnul, hlength⟩
    rw [hlength]
    by_contra hlt
    refine hfirst _ (not_le.1 hlt) ⟨body', ?_⟩
    rw [heq', List.append_assoc, List.drop_left' rfl]
  · rintro ⟨head, body, hfirst, hnul, rfl⟩
    refine ⟨⟨body, ?_⟩, ?_, fun j hj => ?_⟩
    · rw [hfirst.eq, List.append_assoc, List.drop_left' rfl]
    · rwa [hfirst.eq, List.append_assoc, List.take_left' rfl]
    · rintro ⟨body', hbody'⟩
      have hle := hfirst.first (received.take j) body' (by
        rw [List.append_assoc, hbody', List.take_append_drop])
      rw [List.length_take] at hle
      omega

/-! ### The copy -/

theorem copyLength_eq_min (length buffer_size : Dword) :
    copyLength length buffer_size = min length.toNat buffer_size.toNat := by
  unfold copyLength
  split
  · rename_i h
    exact (min_eq_right (BitVec.lt_def.1 h).le).symm
  · rename_i h
    exact (min_eq_left (not_lt.1 fun hlt => h (BitVec.lt_def.2 hlt))).symm

/-- A call that ends with a copy splits the response if it has read what was received, and copies
the part that is asked for. -/
theorem splits_copy_iff {bytes_read : ℤ} {readTo response copy_length : ℕ} {memory : List Byte}
    (hfirst : FirstBlankLine received head body) :
    Splits buffer_size header received (copy bytes_read readTo memory response copy_length) ↔
      max readTo (response + scanned copy_length (memory.drop response)) ≤ received.length ∧
        copy_length ≤ buffer_size.toNat ∧
        strncpy copy_length (memory.drop response) = some (if header then head else body) := by
  unfold copy
  cases hcopy : strncpy copy_length (memory.drop response) with
  | none => simp [Splits]
  | some written =>
    rw [Splits, length_of_strncpy hcopy, Option.some.injEq]
    refine and_congr_right fun _ => and_congr_right fun _ => ⟨fun h => h head body hfirst, ?_⟩
    rintro heq head' body' hfirst'
    obtain ⟨rfl, rfl⟩ := hfirst.unique hfirst'
    exact heq

theorem length_of_copy {bytes_read bytes_read' : ℤ} {readTo readTo' response copy_length : ℕ}
    {memory written : List Byte}
    (h : copy bytes_read readTo memory response copy_length =
      .returned bytes_read' readTo' written) : written.length = copy_length := by
  unfold copy at h
  split at h
  · cases h
  · rename_i hcopy
    cases h
    exact length_of_strncpy hcopy

/-- **What is written** is not more than the size of the buffer, whatever the response is. -/
theorem written_le {bytes_read readTo : ℕ} {bytes_read' : ℤ} {memory written : List Byte}
    (h : split buffer_size header bytes_read memory = .returned bytes_read' readTo written) :
    written.length ≤ buffer_size.toNat := by
  have hle (length : Dword) : copyLength length buffer_size ≤ buffer_size.toNat :=
    copyLength_eq_min length buffer_size ▸ min_le_right _ _
  unfold split at h
  split at h
  · cases h
  · cases h
  · split at h
    · split at h
      · cases h
      · exact (length_of_copy h).le.trans (hle _)
    · exact (length_of_copy h).le.trans (hle _)

theorem Splits.readTo_le {bytes_read : ℤ} {readTo response copy_length : ℕ} {memory : List Byte}
    (h : Splits buffer_size header received
      (copy bytes_read readTo memory response copy_length)) : readTo ≤ received.length := by
  unfold copy at h
  split at h
  · exact h.elim
  · exact le_trans (le_max_left _ _) h.1

/-! ### The two modes -/

/-- What is read reaches behind the blank line that was found. -/
theorem Splits.found (h : Splits buffer_size header received
    (split buffer_size header received.length (received ++ behind))) :
    ∃ i, strstr blankLine received = .found i := by
  unfold split at h
  split at h
  · exact h.elim
  · exact h.elim
  · rename_i i hi
    refine ⟨i, (strstr_append (by decide)).1 ⟨hi, ?_⟩⟩
    split at h
    · split at h
      · exact h.elim
      · exact le_trans (le_max_left _ _) h.readTo_le
    · exact h.readTo_le

section Modes

variable (hfits : received.length ≤ buffer_size.toNat)
  (hfirst : FirstBlankLine received head body) (hnul : 0 ∉ head)

include hfirst hnul in
theorem strstr_memory : strstr blankLine (received ++ behind) = .found head.length :=
  ((strstr_append (by decide)).2
    (strstr_eq_found_iff_firstBlankLine.2 ⟨head, body, hfirst, hnul, rfl⟩)).1

include hfits hfirst hnul in
theorem splits_header_iff :
    Splits buffer_size true received
        (split buffer_size true received.length (received ++ behind)) ↔
      ∃ length, strlen body = some length ∧ length + 4 = head.length := by
  have hlength := hfirst.length_eq
  have hsize := buffer_size.isLt
  have hdrop : (received ++ behind).drop head.length = blankLine ++ (body ++ behind) := by
    rw [hfirst.eq, List.append_assoc, List.append_assoc, List.drop_left' rfl]
  have hstrlen : strlen ((received ++ behind).drop head.length) =
      (strlen (body ++ behind)).map (· + 4) := by
    rw [hdrop]
    exact strlen_append_of_notMem (by decide)
  unfold split
  rw [strstr_memory hfirst hnul]
  dsimp only
  rw [if_pos rfl, hstrlen]
  cases hnext : strlen (body ++ behind) with
  | none =>
    refine iff_of_false id ?_
    rintro ⟨length, hbody, -⟩
    rw [(strlen_append.2 hbody).1] at hnext
    cases hnext
  | some length =>
    dsimp only [Option.map_some]
    rw [splits_copy_iff hfirst, copyLength_eq_min, BitVec.toNat_ofNat, if_pos rfl, List.drop_zero]
    constructor
    · rintro ⟨hread, -, hcopy⟩
      have hshort : length < body.length := by omega
      refine ⟨length, strlen_append.1 ⟨hnext, hshort⟩, ?_⟩
      rw [length_of_strncpy hcopy]
      omega
    · rintro ⟨length', hbody, hhead⟩
      obtain ⟨hbody, hshort⟩ := strlen_append.2 hbody
      obtain rfl : length = length' := Option.some.inj (hnext.symm.trans hbody)
      have hcopied : min ((length + 4) % 2 ^ 32) buffer_size.toNat = head.length := by omega
      have hscanned := scanned_le head.length (received ++ behind)
      rw [hcopied]
      refine ⟨by omega, by omega, ?_⟩
      rw [hfirst.eq, List.append_assoc, List.append_assoc]
      exact strncpy_append_of_notMem hnul

include hfits hfirst hnul in
theorem splits_body_iff :
    Splits buffer_size false received
        (split buffer_size false received.length (received ++ behind)) ↔
      ∀ c ∈ body.dropWhile (· ≠ 0), c = 0 := by
  have hlength := hfirst.length_eq
  have hsize := buffer_size.isLt
  have hdrop : (received ++ behind).drop (head.length + 4) = body ++ behind := by
    rw [hfirst.eq, List.append_assoc, List.drop_left' (by simp [blankLine])]
  have hcopied : copyLength (BitVec.ofInt 32 (received.length - (head.length + 4 : ℕ)))
      buffer_size = body.length := by
    rw [copyLength_eq_min, BitVec.toNat_ofInt]
    omega
  have hscanned := scanned_le body.length (body ++ behind)
  unfold split
  rw [strstr_memory hfirst hnul]
  dsimp only
  rw [if_neg Bool.false_ne_true, splits_copy_iff hfirst, hcopied, hdrop,
    if_neg Bool.false_ne_true]
  have hcopy := strncpy_eq_take_iff (s := body ++ behind) (n := body.length) (by simp)
  rw [List.take_left' rfl] at hcopy
  rw [hcopy]
  exact ⟨fun h => h.2.2, fun h => ⟨by omega, by omega, h⟩⟩

end Modes

/-- **A response is split** exactly if it fits. -/
theorem splits_iff (hfits : received.length ≤ buffer_size.toNat) :
    Splits buffer_size header received
        (split buffer_size header received.length (received ++ behind)) ↔
      SplitFits header received := by
  have hmode (head body : List Byte) (hfirst : FirstBlankLine received head body)
      (hnul : 0 ∉ head) : Splits buffer_size header received
        (split buffer_size header received.length (received ++ behind)) ↔
      if header then ∃ length, strlen body = some length ∧ length + 4 = head.length
      else ∀ c ∈ body.dropWhile (· ≠ 0), c = 0 := by
    cases header with
    | true => exact splits_header_iff hfits hfirst hnul
    | false => exact splits_body_iff hfits hfirst hnul
  constructor
  · intro h
    obtain ⟨i, hi⟩ := h.found
    obtain ⟨head, body, hfirst, hnul, -⟩ := strstr_eq_found_iff_firstBlankLine.1 hi
    exact ⟨head, body, hfirst, hnul, (hmode head body hfirst hnul).1 h⟩
  · rintro ⟨head, body, hfirst, hnul, h⟩
    exact (hmode head body hfirst hnul).2 h

theorem Eliot_ReceiveBytes_replicate (waits : ℕ) (received : Received buffer_size)
    (reads : List (Read buffer_size)) :
    Eliot_ReceiveBytes buffer_size header behind
        (List.replicate waits .wantRead ++ .received received :: reads) =
      some (split buffer_size header received.bytes.length (received.bytes ++ behind)) := by
  induction waits with
  | zero => rfl
  | succ waits ih => exact ih

/-- **The calls that split their response**, however long they have waited for it and whatever is
behind it in memory. -/
theorem Eliot_ReceiveBytes_splits_iff (buffer_size : Dword) (header : Bool) (behind : List Byte)
    (waits : ℕ) (received : Received buffer_size) (reads : List (Read buffer_size)) :
    (∃ outcome, Eliot_ReceiveBytes buffer_size header behind
        (List.replicate waits .wantRead ++ .received received :: reads) = some outcome ∧
        Splits buffer_size header received.bytes outcome) ↔
      SplitFits header received.bytes := by
  rw [Eliot_ReceiveBytes_replicate]
  exact ⟨fun ⟨_, heq, h⟩ => (splits_iff received.fits).1 (Option.some.inj heq ▸ h),
    fun h => ⟨_, rfl, (splits_iff received.fits).2 h⟩⟩

/-- A response that fills the buffer of `Eliot_DeleteDevice`: `"HTTP/1.1 204\r\n\r\n"`. -/
def noContent : Received 16 :=
  ⟨[72, 84, 84, 80, 47, 49, 46, 49, 32, 50, 48, 52, 13, 10, 13, 10], by decide⟩

/-- **The header of a full buffer** is measured up to a terminator behind the buffer. -/
theorem not_Eliot_ReceiveBytes_splits :
    ¬ ∀ (buffer_size : Dword) (header : Bool) (behind : List Byte)
        (received : Received buffer_size),
      ∃ outcome,
        Eliot_ReceiveBytes buffer_size header behind [.received received] = some outcome ∧
        Splits buffer_size header received.bytes outcome := by
  intro h
  obtain ⟨outcome, heq, hsplits⟩ := h 16 true [0] noContent
  have hreturned : Eliot_ReceiveBytes 16 true [0] [.received noContent] =
      some (.returned 16 17 [72, 84, 84, 80]) := by
    decide
  obtain rfl := Option.some.inj (hreturned.symm.trans heq)
  exact absurd hsplits.1 (by decide)

end ReceiveBytes

end Eliot

end Lcm
