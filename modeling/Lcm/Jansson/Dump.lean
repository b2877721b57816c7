import Lcm.Jansson.Utf
import Lcm.Formatted

/-!
# Writing JSON

`json_dumps` writes a value as text.  The flags it is called with say how the text is laid out; all
callers ask for the shortest text and for the members of an object in the order in which they were
added, which is that of the list.

A value has no cycles, and there is memory for the text.  How a real number is written is a
parameter.

## Main definitions

* `dumpString`, `doDump`, `jsonDumps` : the functions of the library.
-/

namespace Lcm

namespace Jansson

/-- `"` -/
abbrev quote : Byte := 0x22

/-- `\` -/
abbrev backslash : Byte := 0x5C

/-- `,` -/
abbrev comma : Byte := 0x2C

/-- `:` -/
abbrev colon : Byte := 0x3A

/-- The bracket that opens an array. -/
abbrev openBracket : Byte := 0x5B

/-- The bracket that closes an array. -/
abbrev closeBracket : Byte := 0x5D

/-- The brace that opens an object. -/
abbrev openBrace : Byte := 0x7B

/-- The brace that closes an object. -/
abbrev closeBrace : Byte := 0x7D

/-- `null` -/
abbrev nullText : List Byte := [0x6E, 0x75, 0x6C, 0x6C]

/-- `true` -/
abbrev trueText : List Byte := [0x74, 0x72, 0x75, 0x65]

/-- `false` -/
abbrev falseText : List Byte := [0x66, 0x61, 0x6C, 0x73, 0x65]

/-- The flags of `json_dumps` that change the layout. -/
structure DumpFlags where
  /-- `JSON_INDENT` -/
  indent : Fin 32
  /-- `JSON_COMPACT` -/
  compact : Bool
  /-- `JSON_ENSURE_ASCII` -/
  ensureAscii : Bool

/-- `JSON_COMPACT | JSON_PRESERVE_ORDER` -/
def compactFlags : DumpFlags := ⟨0, true, false⟩

/-- `dump_indent` -/
def dumpIndent (flags : DumpFlags) (depth : ℕ) (space : Bool) : List Byte :=
  if 0 < flags.indent then 0x0A :: List.replicate (depth * flags.indent) 0x20
  else if space && !flags.compact then [0x20]
  else []

/-- A digit of `%x`. -/
def hexDigit (n : ℕ) : Byte := BitVec.ofNat 8 (if n < 10 then 0x30 + n else 0x57 + n)

/-- `\u%04x` -/
def unicodeEscape (n : ℕ) : List Byte :=
  [backslash, 0x75, hexDigit (n / 4096 % 16), hexDigit (n / 256 % 16), hexDigit (n / 16 % 16),
    hexDigit (n % 16)]

/-- How `dump_string` writes a character that it does not copy. -/
def escape (codepoint : ℕ) : List Byte :=
  if codepoint = 0x5C then [backslash, backslash]
  else if codepoint = 0x22 then [backslash, quote]
  else if codepoint = 0x08 then [backslash, 0x62]
  else if codepoint = 0x0C then [backslash, 0x66]
  else if codepoint = 0x0A then [backslash, 0x6E]
  else if codepoint = 0x0D then [backslash, 0x72]
  else if codepoint = 0x09 then [backslash, 0x74]
  else if codepoint < 0x10000 then unicodeEscape codepoint
  else
    let codepoint := codepoint - 0x10000
    unicodeEscape (0xD800 ||| (codepoint &&& 0xFFC00) >>> 10) ++
      unicodeEscape (0xDC00 ||| (codepoint &&& 0x003FF))

/-- A character that is escaped. -/
def IsEscaped (ascii : Bool) (codepoint : ℕ) : Prop :=
  codepoint = 0x5C ∨ codepoint = 0x22 ∨ codepoint < 0x20 ∨ ascii = true ∧ 0x7F < codepoint

instance IsEscaped.decidable (ascii : Bool) (codepoint : ℕ) :
    Decidable (IsEscaped ascii codepoint) :=
  inferInstanceAs (Decidable (_ ∨ _))

/-- The loop of `dump_string`: the characters between two escapes are copied at once there. -/
def dumpChars (ascii : Bool) : ℕ → List Byte → Option (List Byte)
  | _, [] => some []
  | 0, _ :: _ => none
  | n + 1, str =>
    match utf8Iterate str with
    | none => none
    | some (codepoint, rest) =>
      (dumpChars ascii n rest).map
        ((if IsEscaped ascii codepoint then escape codepoint
          else str.take (str.length - rest.length)) ++ ·)

/-- `dump_string` -/
def dumpString (ascii : Bool) (str : List Byte) : Option (List Byte) :=
  (dumpChars ascii str.length str).map fun text => quote :: text ++ [quote]

/-- The bytes of a key or of the value of a string, before the terminator. -/
def stringChars (value : String) : List Byte := (JsonT.bytesOfString value).takeWhile (· ≠ 0)

/-- `%lld` -/
def printInteger (value : ℤ) : List Byte :=
  (if value < 0 then [0x2D] else []) ++ digits 19 value.natAbs

section Dump

variable (flags : DumpFlags) (jsonpDtostr : String → Option (List Byte))

mutual

/-- `do_dump` -/
def doDump : JsonT → ℕ → Option (List Byte)
  | .null, _ => some nullText
  | .true, _ => some trueText
  | .false, _ => some falseText
  | .integer value, _ => some (printInteger value.toInt)
  | .real text, _ => jsonpDtostr text
  | .string value, _ => dumpString flags.ensureAscii (stringChars value)
  | .array elements, depth =>
    if elements.isEmpty then some [openBracket, closeBracket]
    else (dumpElements elements depth).map fun text =>
      openBracket :: dumpIndent flags (depth + 1) false ++ text ++ [closeBracket]
  | .object members, depth =>
    if members.isEmpty then some [openBrace, closeBrace]
    else (dumpMembers members depth).map fun text =>
      openBrace :: dumpIndent flags (depth + 1) false ++ text ++ [closeBrace]

/-- The loop over an array, with what stands before the bracket. -/
def dumpElements : List JsonT → ℕ → Option (List Byte)
  | [], _ => some []
  | element :: elements, depth => do
    let text ← doDump element (depth + 1)
    let texts ← dumpElements elements depth
    pure (text ++ (if elements.isEmpty then dumpIndent flags depth false
      else comma :: dumpIndent flags (depth + 1) true) ++ texts)

/-- The loop over an object, with what stands before the brace. -/
def dumpMembers : List (String × JsonT) → ℕ → Option (List Byte)
  | [], _ => some []
  | (key, value) :: members, depth => do
    let name ← dumpString flags.ensureAscii (stringChars key)
    let text ← doDump value (depth + 1)
    let texts ← dumpMembers members depth
    pure (name ++ (if flags.compact then [colon] else [colon, 0x20]) ++ text ++
      (if members.isEmpty then dumpIndent flags depth false
        else comma :: dumpIndent flags (depth + 1) true) ++ texts)

end

/-- `json_dumps` -/
def jsonDumps (json : JsonT) : Option (List Byte) :=
  if !json.isArray && !json.isObject then none else doDump flags jsonpDtostr json 0

end Dump

end Jansson

end Lcm
