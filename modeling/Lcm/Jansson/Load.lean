import Lcm.Jansson.Dump
import Lcm.Numerals
import Mathlib.Algebra.Group.Int.Defs

/-!
# Reading JSON

`json_loads` reads a value from text.  The stream delivers the bytes of the text and refuses those
that are no UTF-8; the lexical analyzer makes tokens of the bytes, with one byte that it looks ahead
and puts back; the parser makes a value of the tokens.  The flags are 0, as they are for all
callers.

The position in the text is left out, and so are the excerpts of the text in the errors.  How a real
number is read is a parameter.  The loops and the recursion of the parser are bounded by fuel, and
`jsonLoadsText` has more of it than they need.

## Main definitions

* `Stream`, `Lex` : the stream, and the analyzer with the text of a token.
* `lexScan` : the next token.
* `parseValue`, `jsonLoadsText` : the parser.
-/

namespace Lcm

namespace Jansson

/-- Why a text is not read. -/
inductive LoadError
  /-- `error_set` -/
  | error (text : String)
  /-- An assertion fails. -/
  | assertion
  /-- There was not enough fuel. -/
  | fuel
  deriving DecidableEq

/-! ### The stream -/

/-- `state` of a `stream_t`; the error has been reported with the text. -/
inductive StreamState
  | ok
  | eof
  | error (text : String)
  deriving DecidableEq

/-- `stream_t` -/
structure Stream where
  /-- What `get` has not returned yet. -/
  input : List Byte
  /-- The sequence in `buffer`. -/
  buffer : List Byte
  /-- `buffer_pos` -/
  bufferPos : ℕ
  /-- `state` -/
  state : StreamState

/-- What `stream_get` returns. -/
inductive Got
  | byte (c : Byte)
  | eof
  | error
  deriving DecidableEq

/-- `%x` -/
def hexText (n : ℕ) : String := String.ofList (Nat.toDigits 16 n)

namespace Stream

/-- `stream_init`, with `string_get`, which stops at the terminator. -/
def init (text : List Byte) : Stream := ⟨text.takeWhile (· ≠ 0), [], 0, .ok⟩

/-- The next sequence is fetched. -/
def fill (s : Stream) : Stream :=
  match s.input with
  | [] => { s with state := .eof }
  | c :: input =>
    if c < 0x80 then { s with input := input, buffer := [c], bufferPos := 0 }
    else
      let count := utf8CheckFirst c
      let buffer := (c :: input).take count
      -- a byte that is missing at the end of the text is `EOF`, which does not continue a sequence
      if count = 0 ∨ buffer.length < count ∨ utf8CheckFull buffer = none then
        { s with state := .error s!"unable to decode byte 0x{hexText c.toNat}" }
      else { s with input := (c :: input).drop count, buffer := buffer, bufferPos := 0 }

/-- `stream_get` -/
def get (s : Stream) : Got × Stream :=
  match s.state with
  | .eof => (.eof, s)
  | .error _ => (.error, s)
  | .ok =>
    let s := if s.buffer.length ≤ s.bufferPos then s.fill else s
    match s.state with
    | .eof => (.eof, s)
    | .error _ => (.error, s)
    | .ok => (.byte (s.buffer.getD s.bufferPos 0), { s with bufferPos := s.bufferPos + 1 })

/-- `stream_unget` -/
def unget (s : Stream) : Got → Stream
  | .byte _ => { s with bufferPos := s.bufferPos - 1 }
  | _ => s

end Stream

/-! ### The lexical analyzer -/

/-- `lex_t`, without its token. -/
structure Lex where
  /-- `stream` -/
  stream : Stream
  /-- `saved_text` -/
  savedText : List Byte

/-- The token and its value. -/
inductive Token
  /-- `TOKEN_INVALID`, with the text of the error, if there is one. -/
  | invalid (text : Option String)
  /-- `TOKEN_EOF` -/
  | eof
  /-- `TOKEN_STRING` -/
  | string (value : List Byte)
  /-- `TOKEN_INTEGER` -/
  | integer (value : BitVec 64)
  /-- `TOKEN_REAL` -/
  | real (value : String)
  /-- `TOKEN_TRUE` -/
  | true
  /-- `TOKEN_FALSE` -/
  | false
  /-- `TOKEN_NULL` -/
  | null
  /-- A bracket, a brace, a colon or a comma. -/
  | char (c : Byte)

/-- The token is a certain byte. -/
def Token.is (c : Byte) : Token → Bool
  | .char d => d = c
  | _ => .false

/-- The token is the end of the text. -/
def Token.isEof : Token → Bool
  | .eof => .true
  | _ => .false

/-- `l_isdigit` -/
def isDigit (c : Byte) : Bool := 0x30 ≤ c && c ≤ 0x39

/-- `l_isalpha` -/
def isAlpha (c : Byte) : Bool := 0x41 ≤ c && c ≤ 0x5A || 0x61 ≤ c && c ≤ 0x7A

/-- `E` or `e` -/
def isExponent (c : Byte) : Bool := c = 0x45 || c = 0x65

/-- `+` or `-` -/
def isSign (c : Byte) : Bool := c = 0x2B || c = 0x2D

/-- White space. -/
def isSpace (c : Byte) : Bool := c = 0x20 || c = 0x09 || c = 0x0A || c = 0x0D

/-- The byte is one of some. -/
def Got.is (p : Byte → Bool) : Got → Bool
  | .byte c => p c
  | _ => .false

namespace Lex

/-- `lex_get` -/
def get (lex : Lex) : Got × Lex := (lex.stream.get.1, { lex with stream := lex.stream.get.2 })

/-- `lex_save` -/
def save (lex : Lex) : Got → Lex
  | .byte c => { lex with savedText := lex.savedText ++ [c] }
  | _ => lex

/-- `lex_get_save` -/
def getSave (lex : Lex) : Got × Lex := (lex.get.1, lex.get.2.save lex.get.1)

/-- `lex_unget` -/
def unget (lex : Lex) (c : Got) : Lex := { lex with stream := lex.stream.unget c }

/-- `lex_unget_unsave` -/
def ungetUnsave (lex : Lex) : Got → Lex
  | .byte c => ⟨lex.stream.unget (.byte c), lex.savedText.dropLast⟩
  | _ => lex

/-- A loop that reads and saves as long as the byte is one of some. -/
def getWhile (p : Byte → Bool) : ℕ → Got → Lex → Except LoadError (Got × Lex)
  | 0, _, _ => .error .fuel
  | n + 1, c, lex => if c.is p then getWhile p n lex.getSave.1 lex.getSave.2 else .ok (c, lex)

/-- The loop of `lex_scan` over white space. -/
def skipSpace : ℕ → Lex → Except LoadError (Got × Lex)
  | 0, _ => .error .fuel
  | n + 1, lex =>
    if lex.get.1.is isSpace then skipSpace n lex.get.2 else .ok lex.get

/-- The four bytes behind `\u`: `l_isxdigit` is true of each, and also of the end of the text. -/
def getHex (lex : Lex) : Lex := lex.getSave.2.getSave.2.getSave.2.getSave.2

/-- The byte behind a backslash, other than `u`, is one of these. -/
def isEscape (c : Byte) : Bool :=
  c = quote || c = backslash || c = 0x2F || c = 0x62 || c = 0x66 || c = 0x6E || c = 0x72 ||
    c = 0x74

/-- The first loop of `lex_scan_string`: the text is saved up to the quote at its end. -/
def getString : ℕ → Lex → Except LoadError (Option Token × Lex)
  | 0, _ => .error .fuel
  | n + 1, lex =>
    match lex.getSave with
    | (.error, lex) => .ok (some (.invalid none), lex)
    | (.eof, lex) => .ok (some (.invalid "premature end of input"), lex)
    | (.byte c, lex) =>
      if c = quote then .ok (none, lex)
      else if c ≤ 0x1F then
        .ok (some (.invalid (if c = 0x0A then "unexpected newline"
          else s!"control character 0x{hexText c.toNat}")), lex.ungetUnsave (.byte c))
      else if c = backslash then
        match lex.getSave with
        | (.byte c, lex) =>
          if c = 0x75 then getString n lex.getHex
          else if isEscape c then getString n lex
          else .ok (some (.invalid "invalid escape"), lex)
        | (_, lex) => .ok (some (.invalid "invalid escape"), lex)
      else getString n lex

end Lex

/-- A digit of an escape. -/
def escapeDigit (c : Byte) : Option ℕ :=
  if 0x30 ≤ c ∧ c ≤ 0x39 then some (c.toNat - 0x30)
  else if 0x61 ≤ c ∧ c ≤ 0x7A then some (c.toNat - 0x61 + 10)
  else if 0x41 ≤ c ∧ c ≤ 0x5A then some (c.toNat - 0x41 + 10)
  else none

/-- `decode_unicode_escape`: an assertion fails unless there are four letters or digits. -/
def decodeUnicodeEscape (a b c d : Byte) : Except LoadError ℕ :=
  match escapeDigit a, escapeDigit b, escapeDigit c, escapeDigit d with
  | some a, some b, some c, some d => .ok ((((a <<< 4 + b) <<< 4 + c) <<< 4) + d)
  | _, _, _, _ => .error .assertion

/-- What a backslash and another byte than `u` stand for. -/
def unescape (c : Byte) : Option Byte :=
  if c = quote ∨ c = backslash ∨ c = 0x2F then some c
  else if c = 0x62 then some 0x08
  else if c = 0x66 then some 0x0C
  else if c = 0x6E then some 0x0A
  else if c = 0x72 then some 0x0D
  else if c = 0x74 then some 0x09
  else none

/-- `%04X` -/
def hexWord (n : ℕ) : String :=
  let digits := (Nat.toDigits 16 n).map Char.toUpper
  String.ofList (List.replicate (4 - digits.length) '0' ++ digits)

/-- The value of an escape, from what is behind `\u`, and what is behind the escape; the error is
the text of one. -/
def decodeUnicode : List Byte → Except LoadError (Except String (ℕ × List Byte))
  | a :: b :: c :: d :: text =>
    match decodeUnicodeEscape a b c d with
    | .error error => .error error
    | .ok value =>
      if 0xD800 ≤ value ∧ value ≤ 0xDBFF then
        match text with
        | p :: e :: a' :: b' :: c' :: d' :: text' =>
          if p = backslash ∧ e = 0x75 then
            match decodeUnicodeEscape a' b' c' d' with
            | .error error => .error error
            | .ok value2 =>
              if 0xDC00 ≤ value2 ∧ value2 ≤ 0xDFFF then
                .ok (.ok ((value - 0xD800) <<< 10 + (value2 - 0xDC00) + 0x10000, text'))
              else .ok (.error s!"invalid Unicode '\\u{hexWord value}\\u{hexWord value2}'")
          else .ok (.error s!"invalid Unicode '\\u{hexWord value}'")
        | _ => .ok (.error s!"invalid Unicode '\\u{hexWord value}'")
      else if 0xDC00 ≤ value ∧ value ≤ 0xDFFF then
        .ok (.error s!"invalid Unicode '\\u{hexWord value}'")
      else if value = 0 then .ok (.error "\\u0000 is not allowed")
      else .ok (.ok (value, text))
  | _ => .error .assertion

/-- The bytes that an escape stands for, from what is behind the backslash, and what is behind the
escape. -/
def decodeEscape : List Byte → Except LoadError (Except String (List Byte × List Byte))
  | [] => .error .assertion
  | e :: text =>
    if e = 0x75 then
      match decodeUnicode text with
      | .error error => .error error
      | .ok (.error error) => .ok (.error error)
      | .ok (.ok (value, text)) =>
        match utf8Encode value with
        | some buffer => .ok (.ok (buffer, text))
        | none => .error .assertion
    else
      match unescape e with
      | some c => .ok (.ok ([c], text))
      | none => .error .assertion

/-- The second loop of `lex_scan_string`, over the text behind the first quote; `t` is what it has
written so far. -/
def decodeString : ℕ → List Byte → List Byte → Except LoadError Token
  | 0, _, _ => .error .fuel
  | _ + 1, _, [] => .error .assertion
  | n + 1, t, p :: text =>
    if p = quote then .ok (.string t)
    else if p = backslash then
      match decodeEscape text with
      | .error error => .error error
      | .ok (.error error) => .ok (.invalid error)
      | .ok (.ok (buffer, text)) => decodeString n (t ++ buffer) text
    else decodeString n (t ++ [p]) text

/-- `lex_scan_string` -/
def lexScanString (n : ℕ) (lex : Lex) : Except LoadError (Token × Lex) :=
  match Lex.getString n lex with
  | .error error => .error error
  | .ok (some token, lex) => .ok (token, lex)
  | .ok (none, lex) =>
    match decodeString lex.savedText.length [] (lex.savedText.drop 1) with
    | .error error => .error error
    | .ok token => .ok (token, lex)

/-- The end of an integer: `json_strtoint`, of the text that has been saved. -/
def integerToken (savedText : List Byte) : Token :=
  let value := (Numerals.scan savedText).number
  if value < -2 ^ 63 then .invalid "too big negative integer"
  else if 2 ^ 63 ≤ value then .invalid "too big integer"
  else .integer (BitVec.ofInt 64 value)

section Load

variable (jsonpStrtod : List Byte → Option String)

/-- The end of a real number. -/
def realToken (savedText : List Byte) : Token :=
  match jsonpStrtod savedText with
  | some value => .real value
  | none => .invalid "real number overflow"

/-- The digits of an exponent, and the end of the number. -/
def lexScanPower (n : ℕ) (c : Got) (lex : Lex) : Except LoadError (Token × Lex) :=
  if c.is isDigit then
    match Lex.getWhile isDigit n lex.getSave.1 lex.getSave.2 with
    | .error error => .error error
    | .ok (c, lex) => .ok (realToken jsonpStrtod (lex.ungetUnsave c).savedText, lex.ungetUnsave c)
  else .ok (.invalid none, lex.ungetUnsave c)

/-- The exponent of a number, and its end. -/
def lexScanExponent (n : ℕ) (c : Got) (lex : Lex) : Except LoadError (Token × Lex) :=
  if c.is isExponent then
    if lex.getSave.1.is isSign then
      lexScanPower jsonpStrtod n lex.getSave.2.getSave.1 lex.getSave.2.getSave.2
    else lexScanPower jsonpStrtod n lex.getSave.1 lex.getSave.2
  else .ok (realToken jsonpStrtod (lex.ungetUnsave c).savedText, lex.ungetUnsave c)

/-- What follows the first digits of a number. -/
def lexScanFraction (n : ℕ) (c : Got) (lex : Lex) : Except LoadError (Token × Lex) :=
  if c.is (· = 0x2E) then
    if lex.get.1.is isDigit then
      let lex := lex.get.2.save lex.get.1
      match Lex.getWhile isDigit n lex.getSave.1 lex.getSave.2 with
      | .error error => .error error
      | .ok (c, lex) => lexScanExponent jsonpStrtod n c lex
    else .ok (.invalid none, lex.get.2.unget lex.get.1)
  else if c.is isExponent then lexScanExponent jsonpStrtod n c lex
  else .ok (integerToken (lex.ungetUnsave c).savedText, lex.ungetUnsave c)

/-- What follows the sign of a number. -/
def lexScanDigits (n : ℕ) (c : Got) (lex : Lex) : Except LoadError (Token × Lex) :=
  if c.is (· = 0x30) then
    if lex.getSave.1.is isDigit then .ok (.invalid none, lex.getSave.2.ungetUnsave lex.getSave.1)
    else lexScanFraction jsonpStrtod n lex.getSave.1 lex.getSave.2
  else if c.is isDigit then
    match Lex.getWhile isDigit n lex.getSave.1 lex.getSave.2 with
    | .error error => .error error
    | .ok (c, lex) => lexScanFraction jsonpStrtod n c lex
  else .ok (.invalid none, lex.ungetUnsave c)

/-- `lex_scan_number` -/
def lexScanNumber (n : ℕ) (c : Byte) (lex : Lex) : Except LoadError (Token × Lex) :=
  if c = 0x2D then lexScanDigits jsonpStrtod n lex.getSave.1 lex.getSave.2
  else lexScanDigits jsonpStrtod n (.byte c) lex

/-- The token of an identifier. -/
def identifierToken (savedText : List Byte) : Token :=
  if savedText = trueText then .true
  else if savedText = falseText then .false
  else if savedText = nullText then .null
  else .invalid none

/-- A bracket, a brace, a colon or a comma. -/
def isPunctuation (c : Byte) : Bool :=
  c = openBrace || c = closeBrace || c = openBracket || c = closeBracket || c = colon || c = comma

/-- The token that begins with a byte, which has been saved. -/
def lexScanToken (n : ℕ) (c : Byte) (lex : Lex) : Except LoadError (Token × Lex) :=
  if isPunctuation c then .ok (.char c, lex)
  else if c = quote then lexScanString n lex
  else if isDigit c || c = 0x2D then lexScanNumber jsonpStrtod n c lex
  else if isAlpha c then
    match Lex.getWhile isAlpha n lex.getSave.1 lex.getSave.2 with
    | .error error => .error error
    | .ok (c, lex) => .ok (identifierToken (lex.ungetUnsave c).savedText, lex.ungetUnsave c)
  else .ok (.invalid none, lex)

/-- `lex_scan` -/
def lexScan (n : ℕ) (lex : Lex) : Except LoadError (Token × Lex) :=
  match Lex.skipSpace n { lex with savedText := [] } with
  | .error error => .error error
  | .ok (.eof, lex) => .ok (.eof, lex)
  | .ok (.error, lex) => .ok (.invalid none, lex)
  | .ok (.byte c, lex) => lexScanToken jsonpStrtod n c (lex.save (.byte c))

/-! ### The parser -/

/-- `error_set`, by the parser: an error that has been set before is kept. -/
def parseError (token : Token) (lex : Lex) (msg : String) : LoadError :=
  match lex.stream.state, token with
  | .error text, _ => .error text
  | _, .invalid (some text) => .error text
  | _, _ => .error msg

/-- `lex_scan`, and how the parser goes on with the token. -/
def scanned {α : Type} (room : ℕ) (lex : Lex) (k : Token → Lex → Except LoadError α) :
    Except LoadError α :=
  match lexScan jsonpStrtod room lex with
  | .error error => .error error
  | .ok (token, lex) => k token lex

mutual

/-- `parse_value` -/
def parseValue (room : ℕ) : ℕ → Token → Lex → Except LoadError (JsonT × Lex)
  | 0, _, _ => .error .fuel
  | n + 1, token, lex =>
    match token with
    | .string value => .ok (.string (textString value), lex)
    | .integer value => .ok (.integer value, lex)
    | .real value => .ok (.real value, lex)
    | .true => .ok (.true, lex)
    | .false => .ok (.false, lex)
    | .null => .ok (.null, lex)
    | .char c =>
      if c = openBrace then
        scanned jsonpStrtod room lex fun token lex =>
          if token.is closeBrace then .ok (.object [], lex) else parseMembers room n [] token lex
      else if c = openBracket then
        scanned jsonpStrtod room lex fun token lex =>
          if token.is closeBracket then .ok (.array [], lex)
          else parseElements room n [] token lex
      else .error (parseError (.char c) lex "unexpected token")
    | .invalid text => .error (parseError (.invalid text) lex "invalid token")
    | .eof => .error (parseError .eof lex "unexpected token")

/-- The loop of `parse_object`. -/
def parseMembers (room : ℕ) : ℕ → List (String × JsonT) → Token → Lex →
    Except LoadError (JsonT × Lex)
  | 0, _, _, _ => .error .fuel
  | n + 1, members, token, lex =>
    match token with
    | .string key =>
      scanned jsonpStrtod room lex fun token lex =>
        if token.is colon then
          scanned jsonpStrtod room lex fun token lex =>
            match parseValue room n token lex with
            | .error error => .error error
            | .ok (value, lex) =>
              scanned jsonpStrtod room lex fun token lex =>
                if token.is comma then
                  scanned jsonpStrtod room lex fun token lex =>
                    parseMembers room n (JsonT.setMember (textString key) value members) token lex
                else if token.is closeBrace then
                  .ok (.object (JsonT.setMember (textString key) value members), lex)
                else .error (parseError token lex "'\x7d' expected")
        else .error (parseError token lex "':' expected")
    | token => .error (parseError token lex "string or '\x7d' expected")

/-- The loop of `parse_array`. -/
def parseElements (room : ℕ) : ℕ → List JsonT → Token → Lex → Except LoadError (JsonT × Lex)
  | 0, _, _, _ => .error .fuel
  | n + 1, elements, token, lex =>
    if token.isEof then .error (parseError token lex "']' expected")
    else
      match parseValue room n token lex with
      | .error error => .error error
      | .ok (elem, lex) =>
        scanned jsonpStrtod room lex fun token lex =>
          if token.is comma then
            scanned jsonpStrtod room lex fun token lex =>
              parseElements room n (elements ++ [elem]) token lex
          else if token.is closeBracket then .ok (.array (elements ++ [elem]), lex)
          else .error (parseError token lex "']' expected")

end

/-- `parse_json` -/
def parseJson (room n : ℕ) (lex : Lex) : Except LoadError JsonT :=
  scanned jsonpStrtod room lex fun token lex =>
    if token.is openBracket || token.is openBrace then
      match parseValue jsonpStrtod room n token lex with
      | .error error => .error error
      | .ok (json, lex) =>
        scanned jsonpStrtod room lex fun token lex =>
          if token.isEof then .ok json
          else .error (parseError token lex "end of file expected")
    else .error (parseError token lex "'[' or '\x7b' expected")

/-- `json_loads`, what it reads in the text -/
def jsonLoadsText (string : List Byte) : Except LoadError JsonT :=
  parseJson jsonpStrtod (string.length + 2) (2 * string.length + 2) ⟨Stream.init string, []⟩

end Load

end Jansson

end Lcm
