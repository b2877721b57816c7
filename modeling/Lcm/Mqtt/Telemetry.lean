import Lcm.Formatted
import Lcm.Jansson

/-!
# Telemetry strings

The error counters and the state of the firmware are printed into an array of 300 bytes, and this
string is printed into an array of 512 bytes together with what surrounds it.  `snprintf` returns
the length of the whole text, also where it has no room for it, and what has no room is not sent.

## Main definitions

* `diagnosticInfoTask`, `firmwareInfoTask` : the functions of the source, with every write to an
  array and every packet.
* `Task.strings` : the metrics that a task is to publish.
* `Sound` : nothing is written outside an array, and the packets have these metrics.
* `Fits` : the condition on their lengths.

## Main results

* `errorLoop_spec` : what the loop over the error counters leaves in the array.
* `sound_iff` : the calls that are sound.
-/

namespace Lcm

namespace Mqtt

namespace Telemetry

open SanitizerLoop
open JsonT (bytesOfString)

/-! ### Arrays and packets -/

/-- What a function does outside its own variables. -/
inductive Effect
  /-- Bytes are written to an array that has `size` of them. -/
  | write (size start length : ℕ)
  /-- A packet is handed to `Eliot_SendMqttPacket`. -/
  | publish (packet : List Byte)
  deriving DecidableEq

/-- What is written is inside the array. -/
def Effect.Inside : Effect → Prop
  | write size start length => start + length ≤ size
  | publish _ => True

/-- The packets. -/
def published (log : List Effect) : List (List Byte) :=
  log.filterMap fun
    | .publish packet => some packet
    | .write .. => none

/-- `snprintf(&array[start], size, text)`, for an array of `sizeofArray` bytes -/
def snprintf (sizeofArray : ℕ) (array : ℕ → Byte) (start size : ℕ) (text : List Byte) :
    Logged Effect (ℕ → Byte) :=
  (fun _ => writeList array start (printed size text)) <$>
    Logged.touch (.write sizeofArray start (printed size text).length)

/-- Bytes are stored one after the other. -/
def store (sizeofArray : ℕ) (array : ℕ → Byte) (start : ℕ) (bytes : List Byte) :
    Logged Effect (ℕ → Byte) :=
  (fun _ => writeList array start bytes) <$>
    Logged.touch (.write sizeofArray start bytes.length)

/-- A string that begins somewhere in memory. -/
structure Str where
  /-- The characters in front of the terminator. -/
  chars : List Byte
  /-- None of them is the terminator. -/
  noNul : 0 ∉ chars

/-- The string at the beginning of an array; all of them are shorter than 512 characters. -/
def string (array : ℕ → Byte) : List Byte := takeChars 512 array

/-- What is in the arrays before they are written. -/
structure Stack where
  /-- `buffer` -/
  buffer : ℕ → Byte
  /-- `output` -/
  output : ℕ → Byte

@[simp] theorem value_snprintf (sizeofArray : ℕ) (array : ℕ → Byte) (start size : ℕ)
    (text : List Byte) : (snprintf sizeofArray array start size text).value =
      writeList array start (printed size text) := rfl

@[simp] theorem value_store (sizeofArray : ℕ) (array : ℕ → Byte) (start : ℕ)
    (bytes : List Byte) : (store sizeofArray array start bytes).value =
      writeList array start bytes := rfl

/-! ### The packet -/

/-- What is in front of the metrics. -/
def packetStart : List Byte :=
  ["\x7b", "\"message\": \x7b", "\"systemProperties\": \x7b",
    "\"contentType\": \"application/json\",", "\"contentEncoding\": \"utf-8\"", "\x7d,",
    "\"appProperties\": \x7b", "\"eliot-route\": \"telemetry\"", "\x7d,", "\"body\": \x7b",
    "\"jsonrpc\": \"2.0\",", "\"params\": [\x7b", "\"modules\": [\x7b"].flatMap bytesOfString

/-- What is between the metrics and the id of the module. -/
def packetMiddle : List Byte :=
  bytesOfString ",\"sender\": \x7b\"plant\": \x7b\"coal\": \x7b\"id\": \""

/-- What is behind the id of the module. -/
def packetEnd : List Byte := bytesOfString "\",\x7d\x7d\x7d\x7d]\x7d]\x7d\x7d\x7d"

/-- A packet with its metrics. -/
def packet (module_id : Str) (metrics_string : List Byte) : List Byte :=
  packetStart ++ metrics_string ++ packetMiddle ++ module_id.chars ++ packetEnd

/-- `Eliot_PublishModuleMetrics` -/
def publishModuleMetrics (stack : Stack) (module_id : Str) (metrics_string : ℕ → Byte) :
    Logged Effect Unit := do
  let output ← snprintf 512 stack.output 0 512 (packet module_id (string metrics_string))
  Logged.touch (.publish (string output))

/-- What a task returns. -/
inductive Ret
  | ok
  | inputError
  | connectFailure
  deriving DecidableEq

/-! ### The error counters -/

/-- `ELIOT_ERROR_LABELS` -/
def errLabel : List String :=
  ["EliotConnect", "Connect", "WsslNew", "WsslSetFd", "WsslContext", "OpenSockets", "Socket",
    "Timeout", "DNS", "REST", "SendBytes", "RefreshToken", "UserToken", "LcmPlantId", "LcmModId",
    "PrimaryKey", "SyncConn", "AddConn", "DeleteConn", "RenameConn", "SyncRead", "DuplEvent"]

/-- `"%s:%d "`, with a counter as an `int` -/
def errorText (label : String) (count : Dword) : List Byte :=
  bytesOfString label ++ bytesOfString ":" ++ decimal count.toInt ++ bytesOfString " "

/-- `sizeof(buffer) - idx`, which is unsigned -/
def remaining (idx : ℕ) : ℕ := (300 - BitVec.ofNat 32 idx : Dword).toNat

/-- The loop over the error counters. -/
def errorLoop : List (String × Dword) → ℕ → (ℕ → Byte) → Logged Effect (ℕ × (ℕ → Byte))
  | [], idx, buffer => pure (idx, buffer)
  | (label, count) :: rest, idx, buffer =>
    if 299 ≤ idx then pure (idx, buffer)
    else if count ≠ 0 then do
      let buffer ← snprintf 300 buffer idx (remaining idx) (errorText label count)
      errorLoop rest (idx + (errorText label count).length) buffer
    else errorLoop rest idx buffer

/-- `"\\"mDiagnostics\\":\\""` -/
def diagnosticsStart : List Byte := bytesOfString "\"mDiagnostics\":\""

/-- A quotation mark. -/
def quote : List Byte := bytesOfString "\""

/-- `eliot_error_count`, with the labels -/
def errorCounters (eliot_error_count : Fin 22 → Dword) : List (String × Dword) :=
  errLabel.zip (List.ofFn eliot_error_count)

/-- `Eliot_DiagnosticInfoTask` -/
def diagnosticInfoTask (stack : Stack) (eliot_lcm_module_id : Str)
    (eliot_mqtt_loop_counter : Dword) (eliot_error_count : Fin 22 → Dword) :
    Logged Effect Ret := do
  let buffer ← store 300 stack.buffer 298 [0]
  if eliot_mqtt_loop_counter &&& 0x1FFFFF ≠ 0 then pure .ok
  else if eliot_lcm_module_id.chars = [] then pure .inputError
  else
    let buffer ← snprintf 300 buffer 0 300 diagnosticsStart
    let (idx, buffer) ← errorLoop (errorCounters eliot_error_count) diagnosticsStart.length buffer
    let buffer ← snprintf 300 buffer idx (remaining idx) quote
    -- the buffer is full: the last character becomes the end of the value
    let buffer ← if buffer 298 ≠ 0 then store 300 buffer 298 quote else pure buffer
    publishModuleMetrics stack eliot_lcm_module_id buffer
    pure .ok

/-! ### The state of the firmware -/

/-- What of `firmware_info` is published. -/
structure FirmwareInfo where
  S19LineCount : Word
  firmwareVersion : Fin 4 → Word
  versionHash : Str
  releaseNotes : Str
  sha256HashString : Str
  reportSha256Flag : Bool
  updateHost : Str
  updatePath : Str

/-- The variables that the task keeps, and `firmwareUpdateState`. -/
structure FirmwareVars where
  eliot_firmware_version_trigger : Bool
  eliot_firmware_update_state_last : Byte
  eliot_firmware_version_sent_last : Dword
  firmwareUpdateState : Byte

/-- `UPDATE_STATE_NONE` -/
abbrev updateStateNone : Byte := 0

/-- `UpdateStateStrings` -/
def updateStateStrings : List String := ["None", "Downloading", "Ready", "Installing"]

/-- `ELIOT_FIRMWARE_INFO_INTERVAL_MAX_SEC` -/
abbrev eliotFirmwareInfoIntervalMaxSec : Dword := 86400

/-- Nothing is sent because nothing is new. -/
def FirmwareVars.upToDate (vars : FirmwareVars) (now : Dword) : Bool :=
  !vars.eliot_firmware_version_trigger &&
    vars.firmwareUpdateState = vars.eliot_firmware_update_state_last &&
    now < vars.eliot_firmware_version_sent_last + eliotFirmwareInfoIntervalMaxSec

/-- `_strnlen(versionHash, sizeof(versionHash) + 1) >= sizeof(versionHash)` -/
def hashTooLong (info : FirmwareInfo) : Bool := 20 ≤ min info.versionHash.chars.length 21

/-- The limit of the index into `UpdateStateStrings`. -/
def boundedState (firmwareUpdateState : Byte) : Byte :=
  if updateStateStrings.length ≤ firmwareUpdateState.toNat then updateStateNone
  else firmwareUpdateState

/-- `percentage_done` -/
def percentageDone (info : FirmwareInfo) (firmwareUpdateLineNumber : Word) : Dword :=
  let percentage_done : Dword :=
    if info.S19LineCount ≠ 0 then
      firmwareUpdateLineNumber.setWidth 32 * 100 / info.S19LineCount.setWidth 32
    else 0
  if 100 < percentage_done then 100 else percentage_done

/-- `"\"mVersion\":\"%d:%d:%d-%d-%s\", \"mStatus\":\"%s\", \"mProgress\":\"%d\" "` -/
def versionText (info : FirmwareInfo) (firmwareUpdateState : Byte)
    (firmwareUpdateLineNumber : Word) : List Byte :=
  let version (i : Fin 4) := decimal (info.firmwareVersion i).toNat
  bytesOfString "\"mVersion\":\"" ++ version 0 ++ bytesOfString ":" ++ version 1 ++
    bytesOfString ":" ++ version 2 ++ bytesOfString "-" ++ version 3 ++ bytesOfString "-" ++
    info.versionHash.chars ++ bytesOfString "\", \"mStatus\":\"" ++
    bytesOfString (updateStateStrings.getD firmwareUpdateState.toNat "") ++
    bytesOfString "\", \"mProgress\":\"" ++
    decimal (percentageDone info firmwareUpdateLineNumber).toInt ++ bytesOfString "\" "

/-- `"\"mUpdateHash\":\"%s\", \"mUpdateHost\":\"%s\",  \"mUpdatePath\":\"%s\" "` -/
def updateText (info : FirmwareInfo) : List Byte :=
  bytesOfString "\"mUpdateHash\":\"" ++ info.sha256HashString.chars ++
    bytesOfString "\", \"mUpdateHost\":\"" ++ info.updateHost.chars ++
    bytesOfString "\",  \"mUpdatePath\":\"" ++ info.updatePath.chars ++ bytesOfString "\" "

/-- `"\"mReleaseNotes\":\""` -/
def notesStart : List Byte := bytesOfString "\"mReleaseNotes\":\""

/-- A text is printed into the buffer and published. -/
def publishText (stack : Stack) (module_id : Str) (buffer : ℕ → Byte) (text : List Byte) :
    Logged Effect (ℕ → Byte) := do
  let buffer ← snprintf 300 buffer 0 300 text
  publishModuleMetrics stack module_id buffer
  pure buffer

/-- The release notes are sanitized into the buffer and published; `SanitizeString` writes what
`sanitizeString` says, and a terminator. -/
def publishReleaseNotes (stack : Stack) (module_id : Str) (buffer : ℕ → Byte)
    (releaseNotes : Str) : Logged Effect Unit := do
  let buffer ← snprintf 300 buffer 0 300 notesStart
  let buffer ← store 300 buffer notesStart.length
    (sanitizeString (300 - 3) 0 releaseNotes.chars ++ [0])
  let buffer ← store 300 buffer (string buffer).length (quote ++ [0])
  publishModuleMetrics stack module_id buffer

/-- `Eliot_FirmwareInfoTask` -/
def firmwareInfoTask (stack : Stack) (eliot_lcm_module_id : Str) (connected : Bool) (now : Dword)
    (info : FirmwareInfo) (firmwareUpdateLineNumber : Word) (vars : FirmwareVars) :
    Logged Effect (Ret × FirmwareVars) :=
  if !connected then pure (.connectFailure, vars)
  else if vars.upToDate now then pure (.ok, vars)
  else if hashTooLong info then pure (.inputError, vars)
  else do
    let firmwareUpdateState := boundedState vars.firmwareUpdateState
    let buffer ← publishText stack eliot_lcm_module_id stack.buffer
      (versionText info firmwareUpdateState firmwareUpdateLineNumber)
    let buffer ←
      if info.reportSha256Flag then
        publishText stack eliot_lcm_module_id buffer (updateText info)
      else pure buffer
    publishReleaseNotes stack eliot_lcm_module_id buffer info.releaseNotes
    pure (.ok, ⟨false, firmwareUpdateState, now, firmwareUpdateState⟩)

/-! ### What the strings are for -/

/-- A call of a task, with the variables that it reads. -/
inductive Task
  /-- `Eliot_DiagnosticInfoTask` -/
  | diagnostic (eliot_mqtt_loop_counter : Dword) (eliot_error_count : Fin 22 → Dword)
  /-- `Eliot_FirmwareInfoTask` -/
  | firmware (connected : Bool) (now : Dword) (info : FirmwareInfo)
    (firmwareUpdateLineNumber : Word) (vars : FirmwareVars)

/-- What a call does. -/
def Task.log (stack : Stack) (eliot_lcm_module_id : Str) : Task → List Effect
  | diagnostic counter count =>
    (diagnosticInfoTask stack eliot_lcm_module_id counter count).log
  | firmware connected now info line vars =>
    (firmwareInfoTask stack eliot_lcm_module_id connected now info line vars).log

/-- The counters that are not 0. -/
def errorTexts (counters : List (String × Dword)) : List Byte :=
  counters.flatMap fun c => if c.2 ≠ 0 then errorText c.1 c.2 else []

/-- A text, sanitized without a limit. -/
def sanitizedText (s : List Byte) : List Byte := sanitizeString (300 + s.length) 0 s

/-- **The metrics** that a call is to publish, if it is to publish any. -/
def Task.strings (eliot_lcm_module_id : Str) : Task → List (List Byte)
  | diagnostic counter count =>
    if counter &&& 0x1FFFFF ≠ 0 ∨ eliot_lcm_module_id.chars = [] then []
    else [diagnosticsStart ++ errorTexts (errorCounters count) ++ quote]
  | firmware connected now info line vars =>
    if !connected ∨ vars.upToDate now ∨ hashTooLong info then []
    else versionText info (boundedState vars.firmwareUpdateState) line ::
      (if info.reportSha256Flag then [updateText info] else []) ++
        [notesStart ++ sanitizedText info.releaseNotes.chars ++ quote]

/-- **A call is sound** if it writes inside its arrays, and its packets have the whole metrics. -/
structure Sound (stack : Stack) (eliot_lcm_module_id : Str) (t : Task) : Prop where
  inside : ∀ e ∈ t.log stack eliot_lcm_module_id, e.Inside
  whole : published (t.log stack eliot_lcm_module_id) =
    (t.strings eliot_lcm_module_id).map (packet eliot_lcm_module_id)

/-- **The metrics fit** if their packets do, and a terminator. -/
def Fits (eliot_lcm_module_id : Str) (t : Task) : Prop :=
  ∀ s ∈ t.strings eliot_lcm_module_id, (packet eliot_lcm_module_id s).length < 512

/-! ### Packets -/

variable {stack : Stack} {module_id : Str} {buffer : ℕ → Byte} {text full s : List Byte} {idx : ℕ}

/-- No text of the source has a NUL in it. -/
theorem zero_notMem_texts :
    0 ∉ packetStart ∧ 0 ∉ packetMiddle ∧ 0 ∉ packetEnd ∧ 0 ∉ diagnosticsStart ∧ 0 ∉ quote ∧
      0 ∉ notesStart ∧ (∀ l ∈ errLabel, 0 ∉ bytesOfString l) ∧
      (∀ l ∈ updateStateStrings, 0 ∉ bytesOfString l) ∧
      ∀ l ∈ ["", ":", " ", "-", "\" ", "\"mVersion\":\"", "\", \"mStatus\":\"",
        "\", \"mProgress\":\"", "\"mUpdateHash\":\"", "\", \"mUpdateHost\":\"",
        "\",  \"mUpdatePath\":\""], 0 ∉ bytesOfString l := by
  decide +kernel

theorem length_texts :
    packetStart.length = 193 ∧ packetMiddle.length = 38 ∧ packetEnd.length = 12 ∧
      diagnosticsStart.length = 16 ∧ quote.length = 1 ∧ notesStart.length = 17 := by
  decide +kernel

theorem zero_notMem_packet (hs : 0 ∉ s) : 0 ∉ packet module_id s := by
  obtain ⟨hstart, hmiddle, hend, -⟩ := zero_notMem_texts
  simp only [packet, List.mem_append, hstart, hs, hmiddle, module_id.noNul, hend, or_self,
    not_false_eq_true]

/-- An array that a text is printed into has as much of it as there is room for. -/
theorem holdsString_snprintf (array : ℕ → Byte) (htext : 0 ∉ text) {size : ℕ} (hsize : 0 < size) :
    HoldsString (writeList array 0 (printed size text)) (text.take (size - 1)) :=
  holdsString_print (s := []) List.not_mem_nil (fun _ h => nomatch h) htext hsize

/-- The packet has as much of the text as there is room for. -/
theorem log_publishModuleMetrics : (publishModuleMetrics stack module_id buffer).log =
    [.write 512 0 (printed 512 (packet module_id (string buffer))).length,
      .publish ((packet module_id (string buffer)).take 511)] := by
  have hnul : 0 ∉ packet module_id (string buffer) := zero_notMem_packet zero_notMem_takeChars
  have hholds := holdsString_snprintf stack.output hnul (Nat.succ_pos 511)
  have hlength : ((packet module_id (string buffer)).take 511).length ≤ 512 := by
    rw [List.length_take]
    omega
  have hstring : string (writeList stack.output 0
      (printed 512 (packet module_id (string buffer)))) =
        (packet module_id (string buffer)).take 511 := takeChars_of_holdsString hholds hlength
  rw [publishModuleMetrics, Logged.log_bind, snprintf, Logged.log_map, Logged.value_map, hstring]
  rfl

/-! ### No packet is longer than its array -/

/-- A packet has at most 511 characters. -/
def Effect.Short : Effect → Prop
  | write .. => True
  | publish packet => packet.length ≤ 511

theorem snprintf_short (sizeofArray : ℕ) (array : ℕ → Byte) (start size : ℕ) (text : List Byte) :
    (snprintf sizeofArray array start size text).All Effect.Short :=
  (Logged.all_map _ _).2 ((Logged.all_touch _).2 trivial)

theorem store_short (sizeofArray : ℕ) (array : ℕ → Byte) (start : ℕ) (bytes : List Byte) :
    (store sizeofArray array start bytes).All Effect.Short :=
  (Logged.all_map _ _).2 ((Logged.all_touch _).2 trivial)

theorem publishModuleMetrics_short : (publishModuleMetrics stack module_id buffer).All
    Effect.Short := by
  rw [Logged.All, log_publishModuleMetrics]
  simp only [List.mem_cons, List.not_mem_nil, or_false, forall_eq_or_imp, forall_eq]
  exact ⟨trivial, List.length_take_le _ _⟩

theorem errorLoop_short (counters : List (String × Dword)) (idx : ℕ) (buffer : ℕ → Byte) :
    (errorLoop counters idx buffer).All Effect.Short := by
  induction counters generalizing idx buffer with
  | nil => exact Logged.all_pure _
  | cons c rest ih =>
    rw [errorLoop]
    split
    · exact Logged.all_pure _
    · split
      · exact (Logged.all_bind _ _).2 ⟨snprintf_short _ _ _ _ _, ih _ _⟩
      · exact ih _ _

theorem diagnosticInfoTask_short (counter : Dword) (count : Fin 22 → Dword) :
    (diagnosticInfoTask stack module_id counter count).All Effect.Short := by
  unfold diagnosticInfoTask
  refine (Logged.all_bind _ _).2 ⟨store_short _ _ _ _, ?_⟩
  split
  · exact Logged.all_pure _
  split
  · exact Logged.all_pure _
  simp only [Logged.all_bind, snprintf_short, errorLoop_short, true_and]
  split <;>
    simp only [Logged.all_bind, store_short, publishModuleMetrics_short, Logged.all_pure, and_self]

theorem firmwareInfoTask_short (connected : Bool) (now : Dword) (info : FirmwareInfo) (line : Word)
    (vars : FirmwareVars) :
    (firmwareInfoTask stack module_id connected now info line vars).All Effect.Short := by
  unfold firmwareInfoTask publishText publishReleaseNotes
  split_ifs
  · exact Logged.all_pure _
  · exact Logged.all_pure _
  · exact Logged.all_pure _
  all_goals
    simp only [Logged.all_bind, snprintf_short, store_short, publishModuleMetrics_short,
      Logged.all_pure, and_self]

/-! ### The loop over the counters -/

theorem remaining_of_le (h : idx ≤ 300) : remaining idx = 300 - idx := by
  rw [remaining, BitVec.toNat_sub, BitVec.toNat_ofNat]
  change (2 ^ 32 - idx % 2 ^ 32 + 300) % 2 ^ 32 = _
  omega

/-- After some counters, `idx` is the length of the whole text so far, and the buffer holds as much
of it as there is room for. -/
structure LoopInv (full : List Byte) (idx : ℕ) (buffer : ℕ → Byte) : Prop where
  length : idx = full.length
  holds : HoldsString buffer (full.take 299)
  /-- The mark for a full buffer is still there. -/
  mark : full.length ≤ 298 → buffer 298 = 0

/-- Another text is printed. -/
theorem LoopInv.print (h : LoopInv full idx buffer) (hroom : idx < 299) (htext : 0 ∉ text) :
    LoopInv (full ++ text) (idx + text.length)
      (writeList buffer idx (printed (remaining idx) text)) := by
  have hlength := h.length
  have hholds := h.holds
  rw [List.take_of_length_le (by omega)] at hholds
  rw [remaining_of_le (by omega), hlength]
  refine ⟨List.length_append.symm, ?_, fun hle => ?_⟩
  · have hprint := holdsString_print hholds.noNul hholds.chars htext
      (show 0 < 300 - full.length by omega)
    rwa [List.take_append, List.take_of_length_le (show full.length ≤ 299 by omega),
      show 299 - full.length = 300 - full.length - 1 by omega]
  · rw [List.length_append] at hle
    rw [printed_of_length_lt (by omega), writeList, if_pos (by omega)]
    obtain hlt | heq : full.length + text.length < 298 ∨ full.length + text.length = 298 := by
      omega
    · rw [List.getElem?_eq_none (by rw [List.length_append, List.length_singleton]; omega)]
      exact h.mark (by omega)
    · rw [List.getElem?_append_right (by omega), show 298 - full.length - text.length = 0 by omega]
      rfl

/-- **The loop** writes inside the buffer, and prints the texts of the counters, all of them or as
many as it takes to fill the buffer. -/
theorem errorLoop_spec {counters : List (String × Dword)}
    (hlabels : ∀ c ∈ counters, 0 ∉ errorText c.1 c.2) (h : LoopInv full idx buffer) :
    (errorLoop counters idx buffer).All Effect.Inside ∧
      ∃ done, done <+: errorTexts counters ∧
        (done = errorTexts counters ∨ 299 ≤ (full ++ done).length) ∧
        LoopInv (full ++ done) (errorLoop counters idx buffer).value.1
          (errorLoop counters idx buffer).value.2 := by
  induction counters generalizing full idx buffer with
  | nil =>
    refine ⟨Logged.all_pure _, [], List.nil_prefix, .inl rfl, ?_⟩
    rwa [List.append_nil]
  | cons c rest ih =>
    have hrest : ∀ c ∈ rest, 0 ∉ errorText c.1 c.2 := fun c hc =>
      hlabels c (List.mem_cons_of_mem _ hc)
    have htexts : errorTexts (c :: rest) =
        (if c.2 ≠ 0 then errorText c.1 c.2 else []) ++ errorTexts rest := List.flatMap_cons
    rw [errorLoop, htexts]
    by_cases hfull : 299 ≤ idx
    · rw [if_pos hfull]
      refine ⟨Logged.all_pure _, [], List.nil_prefix, .inr ?_, ?_⟩
      · rw [List.append_nil, ← h.length]
        exact hfull
      · rwa [List.append_nil]
    rw [if_neg hfull]
    by_cases hcount : c.2 ≠ 0
    · rw [if_pos hcount, if_pos hcount]
      have hinv := h.print (Nat.not_le.1 hfull) (hlabels c List.mem_cons_self)
      obtain ⟨hinside, done, hbegins, hdone, hend⟩ := ih hrest hinv
      rw [List.append_assoc] at hdone hend
      refine ⟨(Logged.all_bind _ _).2 ⟨?_, hinside⟩, errorText c.1 c.2 ++ done, ?_, ?_, hend⟩
      · have hprinted := length_printed_le (remaining idx) (errorText c.1 c.2)
        rw [remaining_of_le (by omega)] at hprinted
        rw [snprintf, Logged.all_map, Logged.all_touch, remaining_of_le (by omega)]
        change idx + _ ≤ 300
        omega
      · exact (List.prefix_append_right_inj _).2 hbegins
      · exact hdone.imp_left fun h => congrArg _ h
    · rw [if_neg hcount, if_neg hcount, List.nil_append]
      exact ih hrest h

/-! ### What is published -/

@[simp] theorem published_bind {α β : Type} (x : Logged Effect α) (f : α → Logged Effect β) :
    published (x >>= f).log = published x.log ++ published (f x.value).log :=
  List.filterMap_append

@[simp] theorem published_pure {α : Type} (a : α) :
    published (pure a : Logged Effect α).log = [] := rfl

@[simp] theorem published_snprintf (sizeofArray : ℕ) (array : ℕ → Byte) (start size : ℕ)
    (text : List Byte) : published (snprintf sizeofArray array start size text).log = [] := rfl

@[simp] theorem published_store (sizeofArray : ℕ) (array : ℕ → Byte) (start : ℕ)
    (bytes : List Byte) : published (store sizeofArray array start bytes).log = [] := rfl

@[simp] theorem published_publishModuleMetrics :
    published (publishModuleMetrics stack module_id buffer).log =
      [(packet module_id (string buffer)).take 511] := by
  rw [log_publishModuleMetrics]
  rfl

@[simp] theorem published_errorLoop (counters : List (String × Dword)) (idx : ℕ)
    (buffer : ℕ → Byte) : published (errorLoop counters idx buffer).log = [] := by
  induction counters generalizing idx buffer with
  | nil => rfl
  | cons c rest ih =>
    rw [errorLoop]
    split
    · rfl
    · split
      · rw [published_bind, published_snprintf, ih]
        rfl
      · exact ih _ _

theorem length_packet (module_id : Str) (s : List Byte) :
    (packet module_id s).length = s.length + module_id.chars.length + 243 := by
  obtain ⟨hstart, hmiddle, hend, -⟩ := length_texts
  simp only [packet, List.length_append, hstart, hmiddle, hend]
  omega

/-- A string that fits is published as a whole. -/
theorem published_of_fits (hholds : HoldsString buffer s)
    (hfits : (packet module_id s).length < 512) :
    published (publishModuleMetrics stack module_id buffer).log = [packet module_id s] := by
  have hlength := length_packet module_id s
  have hstring : string buffer = s := takeChars_of_holdsString hholds (by omega)
  rw [published_publishModuleMetrics, hstring, List.take_of_length_le (by omega)]

theorem publishModuleMetrics_inside :
    (publishModuleMetrics stack module_id buffer).All Effect.Inside := by
  have hlength := length_printed_le 512 (packet module_id (string buffer))
  rw [Logged.All, log_publishModuleMetrics]
  simp only [List.mem_cons, List.not_mem_nil, or_false, forall_eq_or_imp, forall_eq]
  exact ⟨by rwa [Effect.Inside, Nat.zero_add], trivial⟩

theorem snprintf_inside {sizeofArray size : ℕ} (array : ℕ → Byte) (start : ℕ) (text : List Byte)
    (h : start + size ≤ sizeofArray) :
    (snprintf sizeofArray array start size text).All Effect.Inside := by
  have hlength := length_printed_le size text
  rw [snprintf, Logged.all_map, Logged.all_touch, Effect.Inside]
  omega

theorem store_inside {sizeofArray : ℕ} (array : ℕ → Byte) {start : ℕ} {bytes : List Byte}
    (h : start + bytes.length ≤ sizeofArray) :
    (store sizeofArray array start bytes).All Effect.Inside :=
  (Logged.all_map _ _).2 ((Logged.all_touch _).2 h)

/-! ### The counters -/

theorem zero_notMem_errorText (count : Fin 22 → Dword) :
    ∀ c ∈ errorCounters count, 0 ∉ errorText c.1 c.2 := by
  intro c hc
  obtain ⟨-, -, -, -, -, -, hlabels, -, htexts⟩ := zero_notMem_texts
  simp only [List.forall_mem_cons] at htexts
  have hlabel := hlabels c.1 (List.of_mem_zip hc).1
  simp only [errorText, List.mem_append, hlabel, zero_notMem_decimal, htexts, or_self,
    not_false_eq_true]

/-- The buffer, before the loop. -/
theorem loopInv_start (stack : Stack) : LoopInv diagnosticsStart diagnosticsStart.length
    (writeList (writeList stack.buffer 298 [0]) 0 (printed 300 diagnosticsStart)) := by
  obtain ⟨-, -, -, hlength, -⟩ := length_texts
  obtain ⟨-, -, -, hnul, -⟩ := zero_notMem_texts
  refine ⟨rfl, holdsString_snprintf _ hnul (by decide), fun _ => ?_⟩
  rw [printed_of_length_lt (by omega), writeList, if_pos (Nat.zero_le _),
    List.getElem?_eq_none (by rw [List.length_append, List.length_singleton]; omega)]
  rfl

/-- **The counters are published** if they fit. -/
theorem diagnosticInfoTask_sound (stack : Stack) {counter : Dword} {count : Fin 22 → Dword}
    (hfits : (packet module_id
      (diagnosticsStart ++ errorTexts (errorCounters count) ++ quote)).length < 512)
    (hdue : ¬counter &&& 0x1FFFFF ≠ 0) (hid : ¬module_id.chars = []) :
    (diagnosticInfoTask stack module_id counter count).All Effect.Inside ∧
      published (diagnosticInfoTask stack module_id counter count).log =
        [packet module_id (diagnosticsStart ++ errorTexts (errorCounters count) ++ quote)] := by
  obtain ⟨hinside, done, hbegins, hdone, hinv⟩ :=
    errorLoop_spec (zero_notMem_errorText count) (loopInv_start stack)
  obtain ⟨-, -, -, -, hquote, -⟩ := length_texts
  obtain ⟨-, -, -, -, hnul, -⟩ := zero_notMem_texts
  have hshort : (diagnosticsStart ++ errorTexts (errorCounters count)).length < 268 := by
    rw [length_packet, List.length_append, hquote] at hfits
    omega
  -- the loop has not been ended by a full buffer
  obtain rfl : done = errorTexts (errorCounters count) := by
    refine hdone.resolve_right fun hfull => ?_
    have hle := hbegins.length_le
    rw [List.length_append] at hfull hshort
    omega
  have hprinted := hinv.print (by rw [hinv.length]; omega) hnul
  have hlength : (diagnosticsStart ++ errorTexts (errorCounters count) ++ quote).length ≤ 298 := by
    rw [List.length_append, hquote]
    omega
  have hholds := hprinted.holds
  rw [List.take_of_length_le (by omega)] at hholds
  have hmark := hprinted.mark hlength
  have hroom := hinv.length
  unfold diagnosticInfoTask
  simp only [Logged.all_bind, published_bind, published_store, published_snprintf, if_neg hdue,
    if_neg hid, value_store, value_snprintf, published_errorLoop, hmark, ne_eq, not_true_eq_false,
    if_false, List.nil_append, Logged.all_pure, published_pure, Logged.value_pure,
    publishModuleMetrics_inside, and_true, List.append_nil]
  refine ⟨⟨store_inside _ (by decide), snprintf_inside _ _ _ (by decide), hinside, ?_⟩,
    published_of_fits hholds hfits⟩
  refine snprintf_inside _ _ _ ?_
  rw [remaining_of_le (by omega)]
  omega

/-! ### The firmware -/

theorem zero_notMem_versionText (info : FirmwareInfo) (state : Byte) (line : Word) :
    0 ∉ versionText info state line := by
  obtain ⟨-, -, -, -, -, -, -, hstates, htexts⟩ := zero_notMem_texts
  simp only [List.forall_mem_cons] at htexts
  have hstate : (0 : Byte) ∉ bytesOfString (updateStateStrings.getD state.toNat "") := by
    rw [List.getD_eq_getElem?_getD]
    cases hget : updateStateStrings[state.toNat]? with
    | none => exact htexts.1
    | some l => exact hstates l (List.mem_of_getElem? hget)
  simp only [versionText, List.mem_append, zero_notMem_decimal, info.versionHash.noNul, hstate,
    htexts, or_self, not_false_eq_true]

theorem zero_notMem_updateText (info : FirmwareInfo) : 0 ∉ updateText info := by
  obtain ⟨-, -, -, -, -, -, -, -, htexts⟩ := zero_notMem_texts
  simp only [List.forall_mem_cons] at htexts
  simp only [updateText, List.mem_append, info.sha256HashString.noNul, info.updateHost.noNul,
    info.updatePath.noNul, htexts, or_self, not_false_eq_true]

/-- A text that fits is published as a whole. -/
theorem publishText_sound (htext : 0 ∉ text) (hfits : (packet module_id text).length < 512) :
    (publishText stack module_id buffer text).All Effect.Inside ∧
      published (publishText stack module_id buffer text).log = [packet module_id text] := by
  have hholds := holdsString_snprintf buffer htext (Nat.succ_pos 299)
  have hlength := length_packet module_id text
  rw [Nat.succ_sub_one, List.take_of_length_le (by omega)] at hholds
  simp only [publishText, Logged.all_bind, published_bind, published_snprintf, value_snprintf,
    Logged.all_pure, published_pure, List.nil_append, List.append_nil,
    publishModuleMetrics_inside, and_true]
  exact ⟨snprintf_inside _ _ _ (by decide), published_of_fits hholds hfits⟩

/-- A limit cuts off what has no room. -/
theorem sanitizeString_eq_take {size big : ℕ} (hbig : size ≤ big) (out : ℕ) (s : List Byte) :
    sanitizeString size out s = (sanitizeString big out s).take (size - 1 - out) := by
  induction hlength : s.length using Nat.strongRecOn generalizing out s with
  | _ n ih =>
    cases s with
    | nil =>
      rw [sanitizeString.eq_def, sanitizeString.eq_def]
      exact List.take_nil.symm
    | cons c rest =>
      by_cases hroom : out + 1 < size
      · have hshorter : (rest.drop (charLength c - 1)).length < n := by
          rw [← hlength, List.length_cons, List.length_drop]
          omega
        rw [sanitizeString_cons hroom, sanitizeString_cons (by omega),
          ih _ hshorter (out + 1) _ rfl, ← List.take_succ_cons,
          show size - 1 - (out + 1) + 1 = size - 1 - out by omega]
      · rw [show size - 1 - out = 0 by omega, List.take_zero, sanitizeString.eq_def]
        exact if_neg hroom

/-- The release notes are published as a whole if they fit. -/
theorem publishReleaseNotes_sound {releaseNotes : Str}
    (hfits : (packet module_id
      (notesStart ++ sanitizedText releaseNotes.chars ++ quote)).length < 512) :
    (publishReleaseNotes stack module_id buffer releaseNotes).All Effect.Inside ∧
      published (publishReleaseNotes stack module_id buffer releaseNotes).log =
        [packet module_id (notesStart ++ sanitizedText releaseNotes.chars ++ quote)] := by
  obtain ⟨-, -, -, -, hquote, hstart⟩ := length_texts
  obtain ⟨-, -, -, -, hquoteNul, hnul, -⟩ := zero_notMem_texts
  have hshort : (sanitizedText releaseNotes.chars).length < 251 := by
    rw [length_packet, List.length_append, List.length_append, hstart, hquote] at hfits
    omega
  have hnotes : sanitizeString (300 - 3) 0 releaseNotes.chars =
      sanitizedText releaseNotes.chars := by
    rw [sanitizeString_eq_take (show 300 - 3 ≤ 300 + releaseNotes.chars.length by omega),
      ← sanitizedText, List.take_of_length_le (by omega)]
  have hlegal : 0 ∉ sanitizedText releaseNotes.chars := fun h =>
    isLegal_ne_zero ((sanitizeString_spec _ _ _).2 0 h) rfl
  have hprinted := holdsString_snprintf buffer hnul (Nat.succ_pos 299)
  rw [Nat.succ_sub_one, List.take_of_length_le (by omega)] at hprinted
  have hsanitized := holdsString_store hprinted hlegal
  have hend : (notesStart ++ sanitizedText releaseNotes.chars).length ≤ 268 := by
    rw [List.length_append]
    omega
  have hholds := holdsString_store hsanitized hquoteNul
  simp only [publishReleaseNotes, Logged.all_bind, published_bind, published_snprintf,
    published_store, value_snprintf, value_store, hnotes, List.nil_append,
    publishModuleMetrics_inside, and_true]
  rw [show string _ = _ from takeChars_of_holdsString hsanitized (by omega)]
  refine ⟨⟨snprintf_inside _ _ _ (by decide), store_inside _ ?_, store_inside _ ?_⟩,
    published_of_fits hholds hfits⟩
  · rw [hstart, List.length_append, List.length_singleton]
    omega
  · have hbytes : (quote ++ [0]).length = 2 := by
      rw [List.length_append, hquote, List.length_singleton]
    omega

/-- **The firmware is published** if it fits. -/
theorem firmwareInfoTask_sound (stack : Stack) {connected : Bool} {now : Dword}
    {info : FirmwareInfo} {line : Word} {vars : FirmwareVars} (hconnected : ¬(!connected) = true)
    (hdue : ¬vars.upToDate now = true) (hhash : ¬hashTooLong info = true)
    (hversion : (packet module_id
      (versionText info (boundedState vars.firmwareUpdateState) line)).length < 512)
    (hupdate : info.reportSha256Flag = true → (packet module_id (updateText info)).length < 512)
    (hnotes : (packet module_id
      (notesStart ++ sanitizedText info.releaseNotes.chars ++ quote)).length < 512) :
    (firmwareInfoTask stack module_id connected now info line vars).All Effect.Inside ∧
      published (firmwareInfoTask stack module_id connected now info line vars).log =
        packet module_id (versionText info (boundedState vars.firmwareUpdateState) line) ::
          ((if info.reportSha256Flag then [packet module_id (updateText info)] else []) ++
            [packet module_id (notesStart ++ sanitizedText info.releaseNotes.chars ++ quote)]) := by
  have hnul := zero_notMem_versionText info (boundedState vars.firmwareUpdateState) line
  unfold firmwareInfoTask
  rw [if_neg hconnected, if_neg hdue, if_neg hhash]
  by_cases hreport : info.reportSha256Flag = true
  · simp only [Logged.all_bind, published_bind, if_pos hreport, Logged.all_pure, published_pure,
      publishText_sound hnul hversion, publishReleaseNotes_sound hnotes,
      publishText_sound (zero_notMem_updateText info) (hupdate hreport), and_self, true_and,
      List.append_nil]
    rfl
  · simp only [Logged.all_bind, published_bind, if_neg hreport, Logged.all_pure, published_pure,
      publishText_sound hnul hversion, publishReleaseNotes_sound hnotes, and_self, true_and,
      List.append_nil, List.nil_append]
    rfl

/-! ### The calls that are sound -/

theorem Sound.fits {t : Task} (h : Sound stack module_id t) : Fits module_id t := by
  have hshort : ∀ e ∈ t.log stack module_id, e.Short := by
    cases t with
    | diagnostic counter count => exact diagnosticInfoTask_short counter count
    | firmware connected now info line vars =>
      exact firmwareInfoTask_short connected now info line vars
  intro s hs
  have hmem : packet module_id s ∈ published (t.log stack module_id) := by
    rw [h.whole]
    exact List.mem_map_of_mem hs
  obtain ⟨e, he, hpacket⟩ := List.mem_filterMap.1 hmem
  cases e with
  | write => cases hpacket
  | publish p =>
    cases hpacket
    exact Nat.lt_succ_of_le (hshort _ he)

/-- A call that has nothing to publish only marks its buffer. -/
theorem diagnosticInfoTask_idle {counter : Dword} {count : Fin 22 → Dword}
    (hidle : counter &&& 0x1FFFFF ≠ 0 ∨ module_id.chars = []) :
    (diagnosticInfoTask stack module_id counter count).log = [.write 300 298 1] := by
  unfold diagnosticInfoTask
  by_cases hdue : counter &&& 0x1FFFFF ≠ 0
  · rw [Logged.log_bind, if_pos hdue]
    rfl
  · rw [Logged.log_bind, if_neg hdue, if_pos (hidle.resolve_left hdue)]
    rfl

theorem firmwareInfoTask_idle {connected : Bool} {now : Dword} {info : FirmwareInfo} {line : Word}
    {vars : FirmwareVars}
    (hidle : (!connected) = true ∨ vars.upToDate now = true ∨ hashTooLong info = true) :
    (firmwareInfoTask stack module_id connected now info line vars).log = [] := by
  unfold firmwareInfoTask
  split_ifs with hconnected hdue hhash
  · rfl
  · rfl
  · rfl
  all_goals exact (hidle.elim hconnected fun h => h.elim hdue hhash).elim

/-- **The telemetry is sound** exactly if it fits, whatever is in the arrays before. -/
theorem sound_iff (stack : Stack) (module_id : Str) (t : Task) :
    Sound stack module_id t ↔ Fits module_id t := by
  refine ⟨Sound.fits, fun h => ?_⟩
  cases t with
  | diagnostic counter count =>
    by_cases hidle : counter &&& 0x1FFFFF ≠ 0 ∨ module_id.chars = []
    · have hstrings : (Task.diagnostic counter count).strings module_id = [] := if_pos hidle
      have hlog : (Task.diagnostic counter count).log stack module_id = _ :=
        diagnosticInfoTask_idle hidle
      refine ⟨fun e he => ?_, ?_⟩
      · rw [hlog, List.mem_singleton] at he
        rw [he]
        exact Nat.le_of_ble_eq_true rfl
      · rw [hstrings, hlog]
        rfl
    · have hstrings : (Task.diagnostic counter count).strings module_id = _ := if_neg hidle
      have hfits := h _ (hstrings ▸ List.mem_singleton_self _)
      obtain ⟨hinside, hwhole⟩ := diagnosticInfoTask_sound stack hfits
        (fun hdue => hidle (.inl hdue)) fun hid => hidle (.inr hid)
      exact ⟨hinside, hwhole.trans (by rw [hstrings]; rfl)⟩
  | firmware connected now info line vars =>
    by_cases hidle : (!connected) = true ∨ vars.upToDate now = true ∨ hashTooLong info = true
    · have hstrings : (Task.firmware connected now info line vars).strings module_id = [] :=
        if_pos hidle
      have hlog : (Task.firmware connected now info line vars).log stack module_id = _ :=
        firmwareInfoTask_idle hidle
      refine ⟨fun e he => ?_, ?_⟩
      · rw [hlog] at he
        exact nomatch he
      · rw [hstrings, hlog]
        rfl
    · have hstrings : (Task.firmware connected now info line vars).strings module_id = _ :=
        if_neg hidle
      rw [Fits, hstrings] at h
      obtain ⟨hconnected, hidle⟩ := not_or.1 hidle
      obtain ⟨hdue, hhash⟩ := not_or.1 hidle
      have hversion := h (versionText info (boundedState vars.firmwareUpdateState) line) (by simp)
      obtain ⟨hinside, hwhole⟩ := firmwareInfoTask_sound stack hconnected hdue hhash hversion
        (fun hreport => h _ (by simp [hreport])) (h _ (by simp))
      refine ⟨hinside, hwhole.trans ?_⟩
      rw [hstrings]
      cases info.reportSha256Flag <;> rfl

/-- A module. -/
def moduleId : Str := ⟨[65], by decide⟩

/-- **The counters run over** when each of them is 9999: the quotation mark is written behind the
buffer. -/
theorem not_sound : ¬ ∀ stack module_id t, Sound stack module_id t := by
  intro h
  have hinside := (h ⟨fun _ => 0, fun _ => 0⟩ moduleId (.diagnostic 0 fun _ => 9999)).inside
    (.write 300 306 2) (by decide +kernel)
  exact absurd (show 306 + 2 ≤ 300 from hinside) (by decide)

end Telemetry

end Mqtt

end Lcm
