import Lcm.Firmware.Records

/-!
# Downloading an image

The response of the update server is received in chunks.  The header is skipped, the payload is
fed to the SHA-256 computation, and every line of it that is complete is handled as an S-record.

## Main definitions

* `Record` : a record that has been validated.
* `parseRecords`, `receive` : the inner and the outer loop of `GetAndStorePayload`.
* `ChunkIndependent` : all ways of splitting a response have the same effect.

## Main results

* `chunkIndependent_iff` : that is so exactly for the responses without a payload.
-/

namespace Lcm

namespace Firmware

open Flash Lcm.System

/-- A record that has been validated. -/
@[ext] structure Record where
  /-- The character after the `S`. -/
  type : Byte
  /-- The bytes between the count and the checksum. -/
  bytes : List Byte
  /-- The record comes from a valid line. -/
  valid : ∃ line : ℕ → Byte, line 1 = type ∧ validateS19Record line 0x51 = some bytes

/-- What `GetAndStorePayload` returns, and why. -/
inductive Return
  /-- Nothing has been received for 200 times. -/
  | timedOut
  /-- A record is not valid. -/
  | invalidRecord
  /-- A record could not be handled, for the reason given. -/
  | notHandled (errorString : String)
  /-- The end record has been handled. -/
  | downloaded
  deriving DecidableEq

/-- 0 = error, 1 = firmware downloaded -/
def Return.value : Return → Word
  | .downloaded => 1
  | _ => 0

/-- The variables of `GetAndStorePayload`, and what it has done so far. -/
structure Download where
  /-- How often nothing has been received. -/
  timeoutCount : ℕ
  /-- The payload has begun. -/
  foundPayloadFlag : Bool
  /-- The first `currentLoadIndex` bytes of `updateBuf`. -/
  updateBuf : List Byte
  /-- The buffer for the bytes of a record. -/
  S19RecordBytes : ℕ → Byte
  /-- The last code of the SHA-256 functions. -/
  sha256Error : ℤ
  /-- The bytes that `wc_Sha256Update` has been given. -/
  hashed : List Byte
  /-- The records for which `HandleS19RecordString` has been called. -/
  records : List Record
  /-- What is returned, if it is. -/
  result : Option Return

/-- What the SHA-256 functions return. -/
structure Sha256Codes where
  /-- `wc_InitSha256` -/
  init : ℤ
  /-- `wc_Sha256Update` -/
  update : ℤ
  /-- `wc_Sha256Final` -/
  final : ℤ

/-- The SHA-256 functions without errors. -/
def Sha256Codes.ok : Sha256Codes := ⟨0, 0, 0⟩

/-- The variables at the beginning; `stack` is what is in the buffer for a record. -/
def Download.start (stack : ℕ → Byte) : Download where
  timeoutCount := 0
  foundPayloadFlag := false
  updateBuf := []
  S19RecordBytes := stack
  sha256Error := 0
  hashed := []
  records := []
  result := none

/-- The variables when the header has been skipped, and nothing follows it yet. -/
def Download.afterHeader (stack : ℕ → Byte) : Download :=
  { Download.start stack with foundPayloadFlag := true }

/-- The C string at the beginning of a buffer. -/
def cString (buffer : List Byte) : List Byte := buffer.takeWhile (· ≠ 0)

/-- A carriage return and a line feed, twice. -/
def payloadStartString : List Byte := [0x0D, 0x0A, 0x0D, 0x0A]

/-- What follows the first `payloadStartString`, as `strstr` finds it. -/
def findPayload : List Byte → Option (List Byte)
  | [] => none
  | b :: bs =>
    if payloadStartString.isPrefixOf (b :: bs) then some ((b :: bs).drop 4) else findPayload bs

/-- The record at the beginning of a string, if it is valid. -/
def validateRecord (payloadStart : List Byte) : Option Record :=
  match h : validateS19Record (fun i => payloadStart.getD i 0) 0x51 with
  | some bytes => some ⟨payloadStart.getD 1 0, bytes, _, rfl, h⟩
  | none => none

/-- The number of characters that can still be received. -/
def Download.room (d : Download) : ℕ := 680 - d.updateBuf.length - 1

variable (hw : Hardware) (ram : Ram) (codes : Sha256Codes)

/-- The inner loop of `GetAndStorePayload`, which handles the records that are complete. -/
def parseRecords (d : Download) (payload : List Byte) (f : Device) : Download × Device :=
  match h : payload.dropWhile (· ≠ 0x53) with
  | [] => ({ d with updateBuf := [] }, f)
  | c :: payloadStart =>
    if hend : 0x0A ∈ c :: payloadStart then
      match validateRecord (c :: payloadStart) with
      | none => ({ d with result := some .invalidRecord }, f)
      | some record =>
        let S19RecordBytes := recordBuffer record.bytes d.S19RecordBytes
        let outcome := handleS19RecordString hw ram record.type S19RecordBytes
          (BitVec.ofNat 8 record.bytes.length) f
        let d := { d with S19RecordBytes := S19RecordBytes, records := d.records ++ [record] }
        match outcome.value with
        | some errorString => ({ d with result := some (.notHandled errorString) }, outcome.state)
        | none =>
          let d := { d with timeoutCount := 0 }
          -- the final record
          if record.type = 0x37 then
            let sha256Error := if d.sha256Error = 0 then codes.final else d.sha256Error
            ({ d with sha256Error := sha256Error, result := some .downloaded }, outcome.state)
          else parseRecords d ((c :: payloadStart).dropWhile (· ≠ 0x0A)).tail outcome.state
    else ({ d with updateBuf := c :: payloadStart }, f)
termination_by payload.length
decreasing_by
  have hdrop := (List.dropWhile_sublist (l := payload) (fun b => decide (b ≠ 0x53))).length_le
  have hline := (List.dropWhile_sublist (l := c :: payloadStart)
    (fun b => decide (b ≠ 0x0A))).length_le
  have htail := List.length_tail (l := (c :: payloadStart).dropWhile fun b => decide (b ≠ 0x0A))
  rw [h] at hdrop
  rw [List.length_cons] at hdrop hline
  omega

/-- A round of the outer loop of `GetAndStorePayload`, in which the given bytes are received; none
are if `Socket_recv` returns nothing or an error. -/
def receive (d : Download) (received : List Byte) (f : Device) : Download × Device :=
  if received ≠ [] ∧ received.length ≤ d.room then
    let d := { d with timeoutCount := 0 }
    let buffer := cString (d.updateBuf ++ received)
    if d.foundPayloadFlag then
      let d := if d.sha256Error = 0 then
          { d with hashed := d.hashed ++ received, sha256Error := codes.update }
        else d
      parseRecords hw ram codes d buffer f
    else
      match findPayload buffer with
      | some payload =>
        let d := { d with foundPayloadFlag := true, sha256Error := codes.init }
        let d := if d.sha256Error = 0 then
            { d with hashed := d.hashed ++ payload, sha256Error := codes.update }
          else d
        parseRecords hw ram codes d payload f
      | none => (d, f)
  else if 200 ≤ d.timeoutCount + 1 then
    ({ d with timeoutCount := d.timeoutCount + 1, result := some .timedOut }, f)
  else ({ d with timeoutCount := d.timeoutCount + 1 }, f)

/-- The rounds in which the given chunks are received, until something is returned. -/
def receiveAll : Download → Device → List (List Byte) → Download × Device
  | d, f, [] => (d, f)
  | d, f, chunk :: chunks =>
    if d.result.isSome then (d, f)
    else
      let (d, f) := receive hw ram codes d chunk f
      receiveAll d f chunks

/-! ### Splitting a response -/

/-- Chunks that `Socket_recv` can return: none is empty or longer than the room there is, as long
as something is received at all. -/
def Received : Download → Device → List (List Byte) → Prop
  | _, _, [] => True
  | d, f, chunk :: chunks =>
    d.result.isSome ∨ d.room = 0 ∨
      chunk ≠ [] ∧ chunk.length ≤ d.room ∧
        Received (receive hw ram codes d chunk f).1 (receive hw ram codes d chunk f).2 chunks

/-- What can be seen of a download after all chunks are received: the records it has handled, the
bytes it has fed to the SHA-256 computation and what it returns, which is 0 if nothing more is
received. -/
def Download.observation (d : Download) : List Record × List Byte × Word :=
  (d.records, d.hashed, (d.result.map Return.value).getD 0)

/-- **All ways of splitting a response have the same effect.** -/
def ChunkIndependent (stack : ℕ → Byte) (f : Device) (response : List Byte) : Prop :=
  ∀ chunks chunks', chunks.flatten = response → chunks'.flatten = response →
    Received hw ram .ok (.start stack) f chunks → Received hw ram .ok (.start stack) f chunks' →
      (receiveAll hw ram .ok (.start stack) f chunks).1.observation =
        (receiveAll hw ram .ok (.start stack) f chunks').1.observation

variable {hw ram codes} {d : Download} {f : Device} {stack : ℕ → Byte} {b : Byte}
  {payload : List Byte}

/-- What `strstr` finds is in the string. -/
theorem eq_of_findPayload {string : List Byte} (h : findPayload string = some payload) :
    ∃ before, string = before ++ (payloadStartString ++ payload) := by
  induction string with
  | nil => cases h
  | cons c rest ih =>
    rw [findPayload] at h
    split_ifs at h with hprefix
    · obtain ⟨after, hafter⟩ := List.isPrefixOf_iff_prefix.1 hprefix
      refine ⟨[], ?_⟩
      rw [← hafter] at h ⊢
      rw [List.nil_append, ← Option.some.inj h]
      rfl
    · obtain ⟨before, rfl⟩ := ih h
      exact ⟨c :: before, rfl⟩

theorem cString_prefix (buffer : List Byte) : ∃ rest, buffer = cString buffer ++ rest :=
  ⟨_, (List.takeWhile_append_dropWhile).symm⟩

/-- Parsing feeds nothing to the SHA-256 computation. -/
theorem parseRecords_hashed (hw : Hardware) (ram : Ram) (codes : Sha256Codes) (d : Download)
    (payload : List Byte) (f : Device) :
    (parseRecords hw ram codes d payload f).1.hashed = d.hashed := by
  fun_induction parseRecords hw ram codes d payload f with
  | case5 =>
    rename_i ih
    exact ih
  | _ => rfl

/-- The bytes that are fed are those from before, and others. -/
theorem receive_hashed (hw : Hardware) (ram : Ram) (codes : Sha256Codes) (d : Download)
    (received : List Byte) (f : Device) :
    d.hashed <+: (receive hw ram codes d received f).1.hashed := by
  unfold receive
  dsimp only
  split_ifs with hfits hfound hok
  · rw [parseRecords_hashed]
    exact List.prefix_append _ _
  · simp only [parseRecords_hashed, List.prefix_rfl]
  · split
    · rw [parseRecords_hashed]
      exact List.prefix_append _ _
    · exact List.prefix_refl _
  · split
    · simp only [parseRecords_hashed, List.prefix_rfl]
    · exact List.prefix_refl _
  · exact List.prefix_refl _
  · exact List.prefix_refl _

theorem receiveAll_hashed (hw : Hardware) (ram : Ram) (codes : Sha256Codes) (d : Download)
    (f : Device) (chunks : List (List Byte)) :
    d.hashed <+: (receiveAll hw ram codes d f chunks).1.hashed := by
  induction chunks generalizing d f with
  | nil => exact List.prefix_refl _
  | cons chunk chunks ih =>
    rw [receiveAll]
    split
    · exact List.prefix_refl _
    · exact (receive_hashed hw ram codes d chunk f).trans (ih _ _)

theorem receiveAll_cons (chunk : List Byte) (chunks : List (List Byte))
    (hresult : d.result = none) :
    receiveAll hw ram codes d f (chunk :: chunks) =
      receiveAll hw ram codes (receive hw ram codes d chunk f).1
        (receive hw ram codes d chunk f).2 chunks :=
  if_neg (by rw [hresult]; exact Bool.false_ne_true)

/-! ### The first chunks -/

section Start

variable {chunk : List Byte} (hnonempty : chunk ≠ [])
  (hfits : chunk.length ≤ (Download.start stack).room)

include hnonempty hfits

/-- A chunk without the end of the header is forgotten. -/
theorem receive_start_none (hfind : findPayload (cString chunk) = none) :
    receive hw ram codes (.start stack) chunk f = (.start stack, f) := by
  have hfound : ¬ (Download.start stack).foundPayloadFlag = true := Bool.false_ne_true
  have hbuffer : (Download.start stack).updateBuf ++ chunk = chunk := rfl
  unfold receive
  rw [if_pos ⟨hnonempty, hfits⟩]
  dsimp only
  rw [if_neg hfound, hbuffer, hfind]
  rfl

/-- A chunk that ends the header, with nothing behind it. -/
theorem receive_start_nil (hfind : findPayload (cString chunk) = some []) :
    receive hw ram .ok (.start stack) chunk f =
      (.afterHeader stack, f) := by
  have hfound : ¬ (Download.start stack).foundPayloadFlag = true := Bool.false_ne_true
  have hbuffer : (Download.start stack).updateBuf ++ chunk = chunk := rfl
  unfold receive
  rw [if_pos ⟨hnonempty, hfits⟩]
  dsimp only
  rw [if_neg hfound, hbuffer, hfind]
  dsimp only [Sha256Codes.ok]
  rw [parseRecords]
  rfl

end Start

/-- The response in chunks of one byte. -/
def singles (response : List Byte) : List (List Byte) := response.map fun b => [b]

theorem flatten_singles (response : List Byte) : (singles response).flatten = response := by
  induction response with
  | nil => rfl
  | cons b rest ih =>
    rw [singles, List.map_cons, List.flatten_cons, ← singles, ih]
    rfl

theorem received_singles (d : Download) (f : Device) (response : List Byte) :
    Received hw ram codes d f (singles response) := by
  induction response generalizing d f with
  | nil => trivial
  | cons b rest ih =>
    by_cases hroom : d.room = 0
    · exact .inr (.inl hroom)
    · exact .inr (.inr ⟨List.cons_ne_nil _ _, Nat.pos_of_ne_zero hroom, ih _ _⟩)

/-- No single byte is the end of the header. -/
theorem receive_single : receive hw ram codes (.start stack) [b] f = (.start stack, f) := by
  refine receive_start_none (List.cons_ne_nil _ _) (show 1 ≤ 679 by decide) ?_
  unfold cString
  by_cases hb : b = 0
  · rw [List.takeWhile_cons_of_neg (by simp [hb])]
    rfl
  · rw [List.takeWhile_cons_of_pos (by simpa using hb), List.takeWhile_nil, findPayload, if_neg]
    · rfl
    · simp [payloadStartString]

/-- A header that is received in single bytes is forgotten. -/
theorem receiveAll_singles (response : List Byte) (chunks : List (List Byte)) :
    receiveAll hw ram codes (.start stack) f (singles response ++ chunks) =
      receiveAll hw ram codes (.start stack) f chunks := by
  induction response with
  | nil => rfl
  | cons b rest ih =>
    rw [singles, List.map_cons, List.cons_append, receiveAll_cons _ _ rfl, receive_single]
    exact ih

theorem received_singles_append (response : List Byte) {chunks : List (List Byte)}
    (h : Received hw ram codes (.start stack) f chunks) :
    Received hw ram codes (.start stack) f (singles response ++ chunks) := by
  induction response with
  | nil => exact h
  | cons b rest ih =>
    refine .inr (.inr ⟨List.cons_ne_nil _ _, show 1 ≤ 679 by decide, ?_⟩)
    rw [receive_single]
    exact ih

/-- The end of the header in one chunk. -/
theorem receive_payloadStartString :
    receive hw ram .ok (.start stack) payloadStartString f =
      (.afterHeader stack, f) :=
  receive_start_nil (by decide) (show 4 ≤ 679 by decide) (by decide)

/-- A byte after the header is fed to the SHA-256 computation. -/
theorem receive_payload_hashed :
    (receive hw ram .ok (.afterHeader stack) [b] f).1.hashed = [b] := by
  unfold receive
  rw [if_pos ⟨List.cons_ne_nil _ _, show 1 ≤ 679 by decide⟩]
  exact parseRecords_hashed _ _ _ _ _ _

/-! ### Which responses -/

/-- Without a payload, nothing is ever handled or fed to the SHA-256 computation. -/
theorem observation_of_noPayload (chunks : List (List Byte))
    (hpayload : ∀ before after, chunks.flatten = before ++ (payloadStartString ++ after) →
      after = []) (hreceived : Received hw ram .ok (.start stack) f chunks) :
    (receiveAll hw ram .ok (.start stack) f chunks).1.observation = ([], [], 0) := by
  induction chunks with
  | nil => rfl
  | cons chunk chunks ih =>
    obtain h | h | ⟨hnonempty, hfits, hrest⟩ := hreceived
    · cases h
    · cases h
    · rw [receiveAll_cons _ _ rfl]
      cases hfind : findPayload (cString chunk) with
      | none =>
        rw [receive_start_none hnonempty hfits hfind] at hrest ⊢
        refine ih (fun before after h => hpayload (chunk ++ before) after ?_) hrest
        rw [List.flatten_cons, h, List.append_assoc]
      | some payload =>
        -- the header ends with the response
        obtain ⟨rest, hchunk⟩ := cString_prefix chunk
        obtain ⟨before, hbefore⟩ := eq_of_findPayload hfind
        obtain ⟨rfl, hnil⟩ := List.append_eq_nil_iff.1
          (hpayload before (payload ++ (rest ++ chunks.flatten)) (by
            rw [List.flatten_cons, hchunk, hbefore]
            simp only [List.append_assoc]))
        rw [receive_start_nil hnonempty hfits hfind] at hrest ⊢
        cases chunks with
        | nil => rfl
        | cons chunk' chunks =>
          obtain h | h | ⟨hnonempty', -, -⟩ := hrest
          · cases h
          · cases h
          · have hempty := (List.append_eq_nil_iff.1 hnil).2
            rw [List.flatten_cons] at hempty
            exact absurd (List.append_eq_nil_iff.1 hempty).1 hnonempty'

/-- A response with a payload: in single bytes, the end of its header is not found; in one chunk it
is. -/
theorem ChunkIndependent.noPayload (before after : List Byte)
    (h : ChunkIndependent hw ram stack f (before ++ (payloadStartString ++ after))) :
    after = [] := by
  by_contra hafter
  obtain ⟨b, after, rfl⟩ := List.exists_cons_of_ne_nil hafter
  have heq := h (singles (before ++ (payloadStartString ++ b :: after)))
    (singles before ++ payloadStartString :: singles (b :: after)) (flatten_singles _)
    (by rw [List.flatten_append, List.flatten_cons, flatten_singles, flatten_singles])
    (received_singles _ _ _) (received_singles_append _ (.inr (.inr ⟨by decide,
      show 4 ≤ 679 by decide, received_singles _ _ _⟩)))
  rw [← List.append_nil (singles _), receiveAll_singles, receiveAll_singles,
    receiveAll_cons _ _ rfl, receive_payloadStartString, singles, List.map_cons,
    receiveAll_cons _ _ rfl] at heq
  have hnil : [] = (receiveAll hw ram .ok (receive hw ram .ok (.afterHeader stack) [b] f).1
      (receive hw ram .ok (.afterHeader stack) [b] f).2 (singles after)).1.hashed :=
    congrArg (fun o => o.2.1) heq
  have hprefix := receiveAll_hashed hw ram .ok
    (receive hw ram .ok (.afterHeader stack) [b] f).1
    (receive hw ram .ok (.afterHeader stack) [b] f).2 (singles after)
  rw [receive_payload_hashed, ← hnil] at hprefix
  exact absurd (List.prefix_nil.1 hprefix) (List.cons_ne_nil _ _)

/-- **Which responses have the same effect however they are split**: only those in which nothing
follows the end of the header. -/
theorem chunkIndependent_iff (hw : Hardware) (ram : Ram) (stack : ℕ → Byte) (f : Device)
    (response : List Byte) :
    ChunkIndependent hw ram stack f response ↔
      ∀ before after, response = before ++ (payloadStartString ++ after) → after = [] := by
  constructor
  · rintro h before after rfl
    exact h.noPayload before after
  · rintro hpayload chunks chunks' rfl hflatten hreceived hreceived'
    rw [observation_of_noPayload chunks hpayload hreceived,
      observation_of_noPayload chunks' (hflatten ▸ hpayload) hreceived']

/-- The record `S70500000000FA`, in a response with a header, is lost in some chunks. -/
theorem not_chunkIndependent_of_payload :
    ¬ ChunkIndependent ⟨fun _ => FTFx_OK, fun _ _ => 0⟩ startRam (fun _ => 0) blankDevice
      ([0x4F, 0x4B] ++ (payloadStartString ++ [0x53, 0x37, 0x30, 0x35, 0x30, 0x30, 0x30, 0x30, 0x30,
        0x30, 0x30, 0x30, 0x46, 0x41, 0x0A])) := by
  intro h
  cases h.noPayload

end Firmware

end Lcm
