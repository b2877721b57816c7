import Lcm.CString
import Lcm.Run.Logged

/-!
# The streaming JSON reader

`jsr_read` reads a buffer of a JSON stream character by character.  It collects keys and values in
two buffers, compares them with pairs that the caller has defined, and returns when an object ends
in which enough pairs have matched, so that the caller can look at what has been captured.

The buffers are modelled as the memory from their first byte on, and everything that is written to
them is recorded by the `Logged` monad.  The array `match_count` is followed by `pair_count`, so
that this is what an index of 12 denotes.

## Main definitions

* `JsrState`, `JsrEnv` : the reader, without and with its place in the current buffer.
* `matchPairs`, `readChar`, `jsrRead` : the functions of the source.
* `readAll` : the caller's loop over a stream of buffers.
-/

namespace Lcm

namespace Jsr

/-- `JSR_MAX_DEPTH` -/
abbrev JSR_MAX_DEPTH : ℕ := 12

/-- `JSR_STATE_IN_QUOTES` -/
def JSR_STATE_IN_QUOTES : Byte := 0x80

/-- `JSR_STATE_COLON` -/
def JSR_STATE_COLON : Byte := 0x40

/-- `JSR_STATE_HTTP_BODY` -/
def JSR_STATE_HTTP_BODY : Byte := 0x20

/-- `JSR_ERROR_VALUE_OVERFLOW` -/
def JSR_ERROR_VALUE_OVERFLOW : Byte := 0x80

/-- `JSR_ERROR_KEY_OVERFLOW` -/
def JSR_ERROR_KEY_OVERFLOW : Byte := 0x40

/-- `JSR_ERROR_EMPTY_PAIR` -/
def JSR_ERROR_EMPTY_PAIR : Byte := 0x20

/-- `JSR_ERROR_ZERO_LENGTH_DEST` -/
def JSR_ERROR_ZERO_LENGTH_DEST : Byte := 0x10

/-- `JSR_ERROR_NULL_PAIR_PTR` -/
def JSR_ERROR_NULL_PAIR_PTR : Byte := 0x08

/-- `JSR_OPTION_SKIP_HTTP_HEADER` -/
def JSR_OPTION_SKIP_HTTP_HEADER : Byte := 0x80

/-- `JSR_OPTION_MATCH_COUNT_RECURSE` -/
def JSR_OPTION_MATCH_COUNT_RECURSE : Byte := 0x40

/-- `JSR_PAIR_KEY` -/
def JSR_PAIR_KEY : Byte := 0x01

/-- `JSR_PAIR_VALUE` -/
def JSR_PAIR_VALUE : Byte := 0x02

/-- `JSR_PAIR_BOTH` -/
def JSR_PAIR_BOTH : Byte := 0x03

/-- `JSR_PAIR_TRANSIENT` -/
def JSR_PAIR_TRANSIENT : Byte := 0x80

/-- `JSR_HTTP_HEADER_DELIMITER` -/
def JSR_HTTP_HEADER_DELIMITER : Dword := 0x0D0A0D0A

/-- One of the given bits is set. -/
def has (flags bits : Byte) : Bool := flags &&& bits ≠ 0

/-- `JSR_PAIR` -/
structure JsrPair where
  /-- `key_str` -/
  keyStr : ℕ → Byte
  /-- `value_str` -/
  valueStr : ℕ → Byte
  /-- `key_max_length` -/
  keyMaxLength : Dword
  /-- `value_max_length` -/
  valueMaxLength : Dword
  /-- `option` -/
  option : Byte
  /-- `depth` -/
  depth : Byte

/-- `JSR_ENV`, without `read_idx`. -/
structure JsrState where
  /-- `key_str` -/
  keyStr : ℕ → Byte
  /-- `value_str` -/
  valueStr : ℕ → Byte
  /-- `key_max_length` -/
  keyMaxLength : Dword
  /-- `value_max_length` -/
  valueMaxLength : Dword
  /-- `write_idx` -/
  writeIdx : Dword
  /-- `option` -/
  option : Byte
  /-- `state` -/
  state : Byte
  /-- `error` -/
  error : Byte
  /-- `depth` -/
  depth : Dword
  /-- `match_threshold` -/
  matchThreshold : Byte
  /-- `match_min_depth` -/
  matchMinDepth : Byte
  /-- `match_count`, and `pair_count` behind it -/
  matchCount : ℕ → Byte
  /-- `fifo4` -/
  fifo4 : Dword
  /-- `object_count` -/
  objectCount : Dword
  /-- `top_level_object_count` -/
  topLevelObjectCount : Dword
  /-- `array_depth` -/
  arrayDepth : Dword
  /-- `pairs`, if it is not null -/
  pairs : Option (List JsrPair)

/-- `JSR_ENV` -/
structure JsrEnv extends JsrState where
  /-- `read_idx`, which never exceeds the size of a buffer -/
  readIdx : ℕ

/-- `pair_count` -/
def JsrState.pairCount (s : JsrState) : ℕ := (s.matchCount JSR_MAX_DEPTH).toNat

/-- What `jsr_read` returns. -/
inductive JsrRet
  /-- `JSR_RET_OK` -/
  | ok
  /-- `JSR_RET_END_OBJECT` -/
  | endObject
  deriving DecidableEq

/-- An access to an array. -/
inductive Access
  /-- A character is stored at an index of a buffer of the given length, and a terminator after
  it. -/
  | store (i : ℕ) (maxLength : Dword)
  /-- `strncpy` copies a string to a buffer of the given length. -/
  | copy (source : ℕ → Byte) (maxLength : Dword)
  /-- An element of `match_count` is read or written. -/
  | matchCount (i : ℕ)

/-! ### Comparing with the pairs -/

/-- `!strcmp(s, t)`, for strings shorter than the address space -/
def strcmpEq (s t : ℕ → Byte) : Bool := strncmpEq (2 ^ 32) s t

/-- `strncpy(dest, source, n)` -/
def strncpy (dest source : ℕ → Byte) (n : Dword) : ℕ → Byte := fun i =>
  if i < n.toNat then if ∀ j < i + 1, source j ≠ 0 then source i else 0 else dest i

/-- `match_flags` -/
def matchFlags (s : JsrState) (pair : JsrPair) : Byte :=
  (if has pair.option JSR_PAIR_KEY ∧ strcmpEq pair.keyStr s.keyStr then JSR_PAIR_KEY else 0) |||
    if has pair.option JSR_PAIR_VALUE ∧ strcmpEq pair.valueStr s.valueStr then JSR_PAIR_VALUE else 0

/-- The match count is incremented if everything that the pair defines has matched. -/
def countMatch (s : JsrState) (pair : JsrPair) : Logged Access (JsrState × JsrPair) :=
  if pair.option &&& JSR_PAIR_BOTH = matchFlags s pair then do
    let depth := s.depth.toNat
    Logged.touch (.matchCount depth)
    pure ({ s with matchCount := Function.update s.matchCount depth (s.matchCount depth + 1) },
      { pair with depth := s.depth.setWidth 8 })
  else pure (s, pair)

/-- If the key has matched, the value is copied to the pair. -/
def captureValue (matchFlags : Byte) (s : JsrState) (pair : JsrPair) :
    Logged Access (JsrState × JsrPair) :=
  if has matchFlags JSR_PAIR_KEY then do
    let s := if pair.valueMaxLength = 0 then
      { s with error := s.error ||| JSR_ERROR_ZERO_LENGTH_DEST } else s
    Logged.touch (.copy s.valueStr pair.valueMaxLength)
    pure (s, { pair with valueStr := strncpy pair.valueStr s.valueStr pair.valueMaxLength })
  else pure (s, pair)

/-- If the value has matched, the key is copied to the pair. -/
def captureKey (matchFlags : Byte) (s : JsrState) (pair : JsrPair) :
    Logged Access (JsrState × JsrPair) :=
  if has matchFlags JSR_PAIR_VALUE then do
    let s := if pair.keyMaxLength = 0 then
      { s with error := s.error ||| JSR_ERROR_ZERO_LENGTH_DEST } else s
    Logged.touch (.copy s.keyStr pair.keyMaxLength)
    pure (s, { pair with keyStr := strncpy pair.keyStr s.keyStr pair.keyMaxLength })
  else pure (s, pair)

/-- The body of the loop of `jsr_match_pairs`. -/
def matchPair (s : JsrState) (pair : JsrPair) : Logged Access (JsrState × JsrPair) := do
  let matchFlags := matchFlags s pair
  let (s, pair) ← countMatch s pair
  -- nothing is copied to a pair that defines both its key and its value
  if pair.option &&& JSR_PAIR_BOTH = JSR_PAIR_BOTH then pure (s, pair)
  else
    let s := if pair.option &&& JSR_PAIR_BOTH = 0 then
      { s with error := s.error ||| JSR_ERROR_EMPTY_PAIR } else s
    let (s, pair) ← captureValue matchFlags s pair
    captureKey matchFlags s pair

/-- The loop of `jsr_match_pairs`, from the pair with index `p` on. -/
def matchPairsFrom (s : JsrState) (p : ℕ) : List JsrPair → Logged Access (JsrState × List JsrPair)
  | [] => pure (s, [])
  | pair :: pairs =>
    if p < s.pairCount then do
      let (s, pair) ← matchPair s pair
      let (s, pairs) ← matchPairsFrom s (p + 1) pairs
      pure (s, pair :: pairs)
    else pure (s, pair :: pairs)

/-- `jsr_match_pairs`; `key_str` and `value_str` are not null. -/
def matchPairs (s : JsrState) : Logged Access JsrState :=
  if s.keyStr 0 = 0 ∧ s.valueStr 0 = 0 then pure s
  else
    match s.pairs with
    | none => pure { s with error := s.error ||| JSR_ERROR_NULL_PAIR_PTR }
    | some pairs => do
      let (s, pairs) ← matchPairsFrom s 0 pairs
      pure { s with
        pairs := some pairs
        keyStr := Function.update s.keyStr 0 0
        valueStr := Function.update s.valueStr 0 0 }

/-! ### Reading a character -/

/-- The character is put into the FIFO in which the end of an HTTP header is searched. -/
def skipHeader (s : JsrState) (c : Byte) : JsrState :=
  if has s.option JSR_OPTION_SKIP_HTTP_HEADER then
    let fifo4 := s.fifo4 <<< 8 ||| c.setWidth 32
    { s with
      fifo4 := fifo4
      state := if fifo4 = JSR_HTTP_HEADER_DELIMITER then s.state ||| JSR_STATE_HTTP_BODY
        else s.state }
  else s

/-- The input is processed, as there is no header or it has ended. -/
def JsrState.inBody (s : JsrState) : Bool :=
  !has s.option JSR_OPTION_SKIP_HTTP_HEADER || has s.state JSR_STATE_HTTP_BODY

/-- A character is appended to the key. -/
def appendKey (s : JsrState) (c : Byte) : Logged Access JsrState := do
  Logged.touch (.store s.writeIdx.toNat s.keyMaxLength)
  let keyStr := Function.update s.keyStr s.writeIdx.toNat c
  let writeIdx := s.writeIdx + 1
  pure { s with keyStr := Function.update keyStr writeIdx.toNat 0, writeIdx := writeIdx }

/-- A character is appended to the value. -/
def appendValue (s : JsrState) (c : Byte) : Logged Access JsrState := do
  Logged.touch (.store s.writeIdx.toNat s.valueMaxLength)
  let valueStr := Function.update s.valueStr s.writeIdx.toNat c
  let writeIdx := s.writeIdx + 1
  pure { s with valueStr := Function.update valueStr writeIdx.toNat 0, writeIdx := writeIdx }

/-- A character of a quoted string. -/
def readQuoted (s : JsrState) (c : Byte) : Logged Access JsrState :=
  if c = 0x22 then pure { s with state := s.state &&& ~~~JSR_STATE_IN_QUOTES }
  else if has s.state JSR_STATE_COLON then
    if s.writeIdx < s.valueMaxLength - 1 then appendValue s c
    else pure { s with error := s.error ||| JSR_ERROR_VALUE_OVERFLOW }
  else
    if s.writeIdx < s.keyMaxLength - 1 then appendKey s c
    else pure { s with error := s.error ||| JSR_ERROR_KEY_OVERFLOW }

/-- What was captured at the same depth is cleared when an object begins. -/
def clearTransient (depth : Dword) (pair : JsrPair) : JsrPair :=
  if pair.depth.toNat = depth.toNat ∧ has pair.option JSR_PAIR_TRANSIENT then
    let pair := if pair.option &&& JSR_PAIR_BOTH = JSR_PAIR_KEY then
      { pair with valueStr := Function.update pair.valueStr 0 0 } else pair
    if pair.option &&& JSR_PAIR_BOTH = JSR_PAIR_VALUE then
      { pair with keyStr := Function.update pair.keyStr 0 0 } else pair
  else pair

/-- The beginning of an object. -/
def beginObject (s : JsrState) : Logged Access JsrState := do
  let depth := if s.depth.toNat < JSR_MAX_DEPTH then s.depth + 1 else s.depth
  let pairs := s.pairs.map fun pairs =>
    (pairs.take s.pairCount).map (clearTransient depth) ++ pairs.drop s.pairCount
  Logged.touch (.matchCount depth.toNat)
  pure { s with
    depth := depth
    objectCount := s.objectCount + 1
    topLevelObjectCount := if depth = 1 then s.topLevelObjectCount + 1 else s.topLevelObjectCount
    pairs := pairs
    matchCount := Function.update s.matchCount depth.toNat 0
    state := s.state &&& ~~~JSR_STATE_COLON }

/-- A parent's match count is incremented by the matches in an object. -/
def recurseMatchCount (s : JsrState) : Logged Access JsrState :=
  if has s.option JSR_OPTION_MATCH_COUNT_RECURSE then do
    let depth := s.depth.toNat
    Logged.touch (.matchCount depth)
    Logged.touch (.matchCount (depth + 1))
    pure { s with
      matchCount := Function.update s.matchCount depth
        (s.matchCount depth + s.matchCount (depth + 1)) }
  else pure s

/-- The end of an object: whether `jsr_read` returns. -/
def endObject (s : JsrState) : Logged Access (JsrState × Bool) := do
  let s ← matchPairs s
  let s := if s.depth.toNat > 0 then { s with depth := s.depth - 1 } else s
  let s ← recurseMatchCount s
  if s.depth.toNat ≥ s.matchMinDepth.toNat then do
    let depth := s.depth.toNat
    Logged.touch (.matchCount (depth + 1))
    pure (s, decide (s.matchCount (depth + 1) ≥ s.matchThreshold))
  else pure (s, false)

/-- The characters that separate unquoted values: blanks and brackets. -/
def isSeparator (c : Byte) : Bool :=
  c = 0x20 || c = 0x09 || c = 0x0A || c = 0x0D || c = 0x5B || c = 0x5D

/-- Brackets are counted. -/
def readBracket (s : JsrState) (c : Byte) : JsrState :=
  let s := if c = 0x5B then { s with arrayDepth := s.arrayDepth + 1 } else s
  if c = 0x5D then { s with arrayDepth := s.arrayDepth - 1 } else s

/-- A character outside of a quoted string. -/
def readUnquoted (s : JsrState) (c : Byte) : Logged Access (JsrState × Bool) := do
  let s := readBracket s c
  if c = 0x2C then do
    let s ← matchPairs s
    pure ({ s with state := s.state &&& ~~~JSR_STATE_COLON, writeIdx := 0 }, false)
  else if c = 0x22 then
    pure ({ s with state := s.state ||| JSR_STATE_IN_QUOTES, writeIdx := 0 }, false)
  else if c = 0x3A then
    pure ({ s with state := s.state ||| JSR_STATE_COLON, writeIdx := 0 }, false)
  else if c = 0x7B then do
    let s ← beginObject s
    pure (s, false)
  else if c = 0x7D then endObject s
  else if isSeparator c = false ∧ has s.state JSR_STATE_COLON then do
    let s ← appendValue s c
    pure (s, false)
  else pure (s, false)

/-- The body of the loop of `jsr_read`: whether it returns. -/
def readChar (s : JsrState) (c : Byte) : Logged Access (JsrState × Bool) :=
  let s := skipHeader s c
  if s.inBody then
    if has s.state JSR_STATE_IN_QUOTES then do
      let s ← readQuoted s c
      pure (s, false)
    else readUnquoted s c
  else pure (s, false)

/-! ### Reading a stream -/

/-- The loop of `jsr_read`, on what is left of a buffer. -/
def jsrReadFrom (env : JsrEnv) : List Byte → Logged Access (JsrEnv × JsrRet)
  | [] => pure ({ env with readIdx := 0 }, .ok)
  | c :: rest => do
    let (s, ended) ← readChar env.toJsrState c
    let env : JsrEnv := { s with readIdx := env.readIdx + 1 }
    if ended then pure (env, .endObject) else jsrReadFrom env rest

/-- `jsr_read` -/
def jsrRead (env : JsrEnv) (buffer : List Byte) : Logged Access (JsrEnv × JsrRet) :=
  jsrReadFrom env (buffer.drop env.readIdx)

/-- `jsr_env_init` -/
def jsrEnvInit : JsrEnv where
  keyStr _ := 0
  valueStr _ := 0
  keyMaxLength := 0
  valueMaxLength := 0
  writeIdx := 0
  option := 0
  state := 0
  error := 0
  depth := 0
  matchThreshold := 0
  matchMinDepth := 0
  matchCount _ := 0
  fifo4 := 0
  objectCount := 0
  topLevelObjectCount := 0
  arrayDepth := 0
  pairs := none
  readIdx := 0

/-- `jsr_env_reset` -/
def jsrEnvReset (env : JsrEnv) : JsrEnv :=
  { env with
    matchCount := fun i => if i < JSR_MAX_DEPTH then 0 else env.matchCount i
    state := 0
    error := 0
    readIdx := 0
    writeIdx := 0
    depth := 0
    fifo4 := 0 }

/-- When an object has ended, a part of the buffer has been read. -/
theorem jsrReadFrom_readIdx (env : JsrEnv) (rest : List Byte)
    (h : (jsrReadFrom env rest).value.2 = .endObject) :
    env.readIdx < (jsrReadFrom env rest).value.1.readIdx ∧
      (jsrReadFrom env rest).value.1.readIdx ≤ env.readIdx + rest.length := by
  induction rest generalizing env with
  | nil => cases h
  | cons c rest ih =>
    simp only [jsrReadFrom, Logged.value_bind, List.length_cons] at h ⊢
    split at h
    · rename_i hended
      rw [if_pos hended]
      exact ⟨Nat.lt_succ_self _, Nat.add_le_add_left (Nat.le_add_left 1 _) _⟩
    · rename_i hended
      rw [if_neg hended]
      obtain ⟨hlt, hle⟩ : env.readIdx + 1 < _ ∧ _ ≤ env.readIdx + 1 + rest.length := ih _ h
      exact ⟨by omega, by omega⟩

/-- The caller's loop over a buffer: what it sees whenever an object has ended. -/
def readBuffer (env : JsrEnv) (buffer : List Byte) : Logged Access (JsrEnv × List JsrState) :=
  let read := jsrRead env buffer
  if _ended : read.value.2 = .endObject then
    let rest := readBuffer read.value.1 buffer
    ⟨(rest.value.1, read.value.1.toJsrState :: rest.value.2), read.log ++ rest.log⟩
  else ⟨(read.value.1, []), read.log⟩
termination_by buffer.length - env.readIdx
decreasing_by
  have hread := jsrReadFrom_readIdx env _ _ended
  rw [List.length_drop] at hread
  change buffer.length - (jsrReadFrom env (buffer.drop env.readIdx)).value.1.readIdx < _
  omega

/-- The caller's loop over a stream: what it sees whenever an object has ended. -/
def readAll (env : JsrEnv) : List (List Byte) → Logged Access (JsrEnv × List JsrState)
  | [] => pure (env, [])
  | buffer :: buffers => do
    let (env, events) ← readBuffer env buffer
    let (env, events') ← readAll env buffers
    pure (env, events ++ events')

end Jsr

end Lcm
