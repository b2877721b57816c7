import Lcm.Jansson.Tokens

/-!
# The texts that are parsed

A grammar of JSON, and the parser that reads exactly what can be derived in it.  A member of an
object that is named again replaces the value that it had, so the grammar of the members carries
those before; that of the elements of an array does the same.

## Main definitions

* `Derives` : the grammar.

## Main results

* `parses_of_derives` : the parser reads what can be derived.
* `parseValue_sound` : what it reads can be derived.
* `jsonLoadsText_eq_ok_iff` : what `json_loads` accepts, and as which value.
* `jsonLoadsText_ne_fuel` : the loops end.
-/

namespace Lcm

namespace Jansson

variable {jsonpStrtod : List Byte → Option String} {lex lex' : Lex} {l rest text ws : List Byte}
  {b : Byte} {n room : ℕ} {bad : Bool} {token : Token} {json : JsonT}

/-! ### The grammar -/

/-- The value of a token that is one by itself. -/
def scalar : Token → Option JsonT
  | .string value => some (.string (textString value))
  | .integer value => some (.integer value)
  | .real value => some (.real value)
  | .true => some .true
  | .false => some .false
  | .null => some .null
  | _ => none

/-- What a text can be derived as. -/
inductive Item
  /-- A value. -/
  | value (json : JsonT)
  /-- All the elements of an array, and those that stand before the text. -/
  | elements (before all : List JsonT)
  /-- A member of an object. -/
  | member (key : String) (value : JsonT)
  /-- All the members of an object, and those that stand before the text. -/
  | members (before all : List (String × JsonT))

section Grammar

variable (jsonpStrtod)

/-- The grammar of JSON. -/
inductive Derives : Item → List Byte → Prop
  | scalar {token : Token} {json : JsonT} {text : List Byte} (h : TokenText jsonpStrtod token text)
      (hjson : scalar token = some json) : Derives (.value json) text
  | emptyArray {ws : List Byte} (hws : Spaces ws) :
    Derives (.value (.array [])) (openBracket :: (ws ++ [closeBracket]))
  | array {ws text : List Byte} {elements : List JsonT} (hws : Spaces ws)
      (h : Derives (.elements [] elements) text) :
    Derives (.value (.array elements)) (openBracket :: (ws ++ text))
  | emptyObject {ws : List Byte} (hws : Spaces ws) :
    Derives (.value (.object [])) (openBrace :: (ws ++ [closeBrace]))
  | object {ws text : List Byte} {members : List (String × JsonT)} (hws : Spaces ws)
      (h : Derives (.members [] members) text) :
    Derives (.value (.object members)) (openBrace :: (ws ++ text))
  | lastElement {before : List JsonT} {elem : JsonT} {text ws : List Byte}
      (h : Derives (.value elem) text) (hws : Spaces ws) :
    Derives (.elements before (before ++ [elem])) (text ++ (ws ++ [closeBracket]))
  | element {before all : List JsonT} {elem : JsonT} {text ws ws' text' : List Byte}
      (h : Derives (.value elem) text) (hws : Spaces ws) (hws' : Spaces ws')
      (h' : Derives (.elements (before ++ [elem]) all) text') :
    Derives (.elements before all) (text ++ (ws ++ comma :: (ws' ++ text')))
  | member {value : JsonT} {name key ws ws' text : List Byte} (hname : Literal name key)
      (hws : Spaces ws) (hws' : Spaces ws') (h : Derives (.value value) text) :
    Derives (.member (textString key) value)
      (quote :: (name ++ [quote]) ++ (ws ++ colon :: (ws' ++ text)))
  | lastMember {before : List (String × JsonT)} {key : String} {value : JsonT} {text ws : List Byte}
      (h : Derives (.member key value) text) (hws : Spaces ws) :
    Derives (.members before (JsonT.setMember key value before)) (text ++ (ws ++ [closeBrace]))
  | members {before all : List (String × JsonT)} {key : String} {value : JsonT}
      {text ws ws' text' : List Byte} (h : Derives (.member key value) text) (hws : Spaces ws)
      (hws' : Spaces ws') (h' : Derives (.members (JsonT.setMember key value before) all) text') :
    Derives (.members before all) (text ++ (ws ++ comma :: (ws' ++ text')))

end Grammar

/-! ### What can be derived is read -/

theorem stops_spaces (hws : Spaces ws) (hb : isWord b = .false) : Stops isWord (ws ++ b :: l) := by
  cases ws with
  | nil => exact stops_cons hb
  | cons x ws => exact stops_cons (isWord_of_isSpace x (hws x List.mem_cons_self))

theorem scanned_eq {α : Type} {k : Token → Lex → Except LoadError α}
    (h : lexScan jsonpStrtod room lex = .ok (token, lex')) :
    scanned jsonpStrtod room lex k = k token lex' := by
  rw [scanned, h]

/-- A value, or the rest of an array or an object, is read from its first token on. -/
def Parsed (jsonpStrtod : List Byte → Option String) (room size : ℕ) (text : List Byte)
    (parse : ℕ → Token → Lex → Except LoadError (JsonT × Lex)) (json : JsonT) : Prop :=
  ∀ lex ws rest bad, Spaces ws → Stops isWord rest →
    Delivers lex.stream (ws ++ (text ++ rest)) bad → (ws ++ (text ++ rest)).length + 1 < room →
      ∃ token lex', lexScan jsonpStrtod room lex = .ok (token, lex') ∧ token.isEof = .false ∧
        token.is closeBracket = .false ∧ token.is closeBrace = .false ∧
          ∀ n, size ≤ n → ∃ lex'', parse n token lex' = .ok (json, lex'') ∧
            Delivers lex''.stream rest bad

/-- What can be derived is read. -/
def Parses (jsonpStrtod : List Byte → Option String) (room : ℕ) : Item → List Byte → Prop
  | .value json, text =>
    Parsed jsonpStrtod room (2 * text.length) text (parseValue jsonpStrtod room) json
  | .elements before all, text =>
    Parsed jsonpStrtod room (2 * text.length + 1) text
      (fun n => parseElements jsonpStrtod room n before) (.array all)
  | .members before all, text =>
    Parsed jsonpStrtod room (2 * text.length + 1) text
      (fun n => parseMembers jsonpStrtod room n before) (.object all)
  | .member key value, text => ∃ name bytes ws ws' text', Literal name bytes ∧
    textString bytes = key ∧ Spaces ws ∧ Spaces ws' ∧
      text = quote :: (name ++ [quote]) ++ (ws ++ colon :: (ws' ++ text')) ∧
        Parsed jsonpStrtod room (2 * text'.length) text' (parseValue jsonpStrtod room) value

theorem first_of_scalar (h : scalar token = some json) : token.isEof = .false ∧
    token.is closeBracket = .false ∧ token.is closeBrace = .false := by
  cases token with
  | invalid _ => cases h
  | eof => cases h
  | char _ => cases h
  | _ => exact ⟨rfl, rfl, rfl⟩

theorem parseValue_scalar (h : scalar token = some json) :
    parseValue jsonpStrtod room (n + 1) token lex = .ok (json, lex) := by
  rw [parseValue.eq_def]
  cases token with
  | invalid _ => cases h
  | eof => cases h
  | char _ => cases h
  | _ =>
    obtain rfl := Option.some.inj h
    rfl

theorem TokenText.length_pos (h : TokenText jsonpStrtod token text) : 0 < text.length := by
  cases h with
  | char _ => exact Nat.succ_pos _
  | string _ => exact Nat.succ_pos _
  | number h _ =>
    obtain ⟨b, text, rfl, -⟩ := h.exists_cons
    exact Nat.succ_pos _
  | true => exact Nat.succ_pos _
  | false => exact Nat.succ_pos _
  | null => exact Nat.succ_pos _

section Continue

variable {α : Type} {k : Token → Lex → Except LoadError α}

/-- A bracket, a brace, a colon or a comma is the next token. -/
theorem scanned_char (hws : Spaces ws) (hb : isPunctuation b = .true)
    (h : Delivers lex.stream (ws ++ b :: l) bad) (hn : ws.length < room) :
    ∃ lex', scanned jsonpStrtod room lex k = k (.char b) lex' ∧ Delivers lex'.stream l bad := by
  obtain ⟨lex', hscan, hstream⟩ := lexScan_char jsonpStrtod hws hb h hn
  exact ⟨lex', scanned_eq hscan, hstream⟩

end Continue

theorem is_self (b : Byte) : (Token.char b).is b = .true := decide_eq_true rfl

theorem is_ne {b' : Byte} (h : b ≠ b') : (Token.char b).is b' = .false := decide_eq_false h

theorem parseValue_bracket : parseValue jsonpStrtod room (n + 1) (.char openBracket) lex =
    scanned jsonpStrtod room lex fun token lex =>
      if token.is closeBracket then .ok (.array [], lex)
      else parseElements jsonpStrtod room n [] token lex := by
  rw [parseValue.eq_def]
  dsimp only
  rw [if_neg (by decide), if_pos rfl]

theorem parseValue_brace : parseValue jsonpStrtod room (n + 1) (.char openBrace) lex =
    scanned jsonpStrtod room lex fun token lex =>
      if token.is closeBrace then .ok (.object [], lex)
      else parseMembers jsonpStrtod room n [] token lex := by
  rw [parseValue.eq_def]
  dsimp only
  rw [if_pos rfl]

/-- How the parser goes on behind a value in an array or an object. -/
def tailOf (jsonpStrtod : List Byte → Option String) (room : ℕ) (close : Byte) (msg : String)
    (json : JsonT) (parse : Token → Lex → Except LoadError (JsonT × Lex)) (lex : Lex) :
    Except LoadError (JsonT × Lex) :=
  scanned jsonpStrtod room lex fun token lex =>
    if token.is comma then scanned jsonpStrtod room lex parse
    else if token.is close then .ok (json, lex)
    else .error (parseError token lex msg)

theorem parseElements_eq {before : List JsonT} (heof : token.isEof = .false) {elem : JsonT}
    (hvalue : parseValue jsonpStrtod room n token lex = .ok (elem, lex')) :
    parseElements jsonpStrtod room (n + 1) before token lex =
      tailOf jsonpStrtod room closeBracket "']' expected" (.array (before ++ [elem]))
        (parseElements jsonpStrtod room n (before ++ [elem])) lex' := by
  rw [parseElements, if_neg (Bool.eq_false_iff.1 heof), hvalue]
  rfl

theorem parseMembers_eq {before : List (String × JsonT)} {lex1 lex2 : Lex} {key : List Byte}
    {value : JsonT} (hcolon : lexScan jsonpStrtod room lex = .ok (.char colon, lex1))
    (hscan : lexScan jsonpStrtod room lex1 = .ok (token, lex2))
    (hvalue : parseValue jsonpStrtod room n token lex2 = .ok (value, lex')) :
    parseMembers jsonpStrtod room (n + 1) before (.string key) lex =
      tailOf jsonpStrtod room closeBrace "'\x7d' expected"
        (.object (JsonT.setMember (textString key) value before))
          (parseMembers jsonpStrtod room n (JsonT.setMember (textString key) value before))
            lex' := by
  rw [parseMembers.eq_def]
  dsimp only
  rw [scanned_eq hcolon, is_self, if_pos rfl, scanned_eq hscan, hvalue]
  rfl

section Tail

variable {close : Byte} {msg : String} {parse : Token → Lex → Except LoadError (JsonT × Lex)}

/-- The bracket or the brace ends the array or the object. -/
theorem tailOf_close (hclose : close = closeBracket ∨ close = closeBrace) (hws : Spaces ws)
    (h : Delivers lex.stream (ws ++ close :: rest) bad) (hn : ws.length < room) :
    ∃ lex', tailOf jsonpStrtod room close msg json parse lex = .ok (json, lex') ∧
      Delivers lex'.stream rest bad := by
  have hclose' : isPunctuation close = .true ∧ close ≠ comma := by
    rcases hclose with rfl | rfl
    · decide
    · decide
  obtain ⟨lex', hrun, hstream⟩ := scanned_char hws hclose'.1 h hn
  refine ⟨lex', ?_, hstream⟩
  rw [tailOf, hrun, is_ne hclose'.2, is_self]
  rfl

/-- Behind a comma, the loop goes on. -/
theorem tailOf_comma (hws : Spaces ws) (h : Delivers lex.stream (ws ++ comma :: l) bad)
    (hn : ws.length < room) : ∃ lex', tailOf jsonpStrtod room close msg json parse lex =
      scanned jsonpStrtod room lex' parse ∧ Delivers lex'.stream l bad := by
  obtain ⟨lex', hrun, hstream⟩ := scanned_char hws (by decide) h hn
  refine ⟨lex', ?_, hstream⟩
  rw [tailOf, hrun, is_self]
  rfl

end Tail

section Open

variable {open' close : Byte} {empty : JsonT}
  {parse : ℕ → Token → Lex → Except LoadError (JsonT × Lex)}

/-- An empty array or object. -/
theorem parsed_empty (hopen : isPunctuation open' = .true ∧ open' ≠ closeBracket ∧
      open' ≠ closeBrace) (hclose : isPunctuation close = .true)
    (hparse : ∀ n lex, parseValue jsonpStrtod room (n + 1) (.char open') lex =
      scanned jsonpStrtod room lex fun token lex =>
        if token.is close then .ok (empty, lex) else parse n token lex) (hws : Spaces ws) :
    Parsed jsonpStrtod room (2 * (open' :: (ws ++ [close])).length) (open' :: (ws ++ [close]))
      (parseValue jsonpStrtod room) empty := by
  intro lex ws' rest bad hws' hrest h hn
  simp only [List.length_append, List.length_cons] at hn
  have hlength : ws'.length < room ∧ ws.length < room := by omega
  obtain ⟨lex1, hscan, hstream⟩ := lexScan_char jsonpStrtod hws' hopen.1 h hlength.1
  refine ⟨.char open', lex1, hscan, rfl, is_ne hopen.2.1, is_ne hopen.2.2, ?_⟩
  intro n hsize
  obtain ⟨n, rfl⟩ : ∃ k, n = k + 1 := ⟨n - 1, by simp only [List.length_cons] at hsize; omega⟩
  rw [List.append_eq, List.append_assoc] at hstream
  obtain ⟨lex2, hrun, hstream2⟩ := scanned_char hws hclose hstream hlength.2
  refine ⟨lex2, ?_, hstream2⟩
  rw [hparse, hrun, is_self]
  rfl

/-- An array or an object that is not empty. -/
theorem parsed_open (hopen : isPunctuation open' = .true ∧ open' ≠ closeBracket ∧
      open' ≠ closeBrace) (hclose : close = closeBracket ∨ close = closeBrace)
    (hparse : ∀ n lex, parseValue jsonpStrtod room (n + 1) (.char open') lex =
      scanned jsonpStrtod room lex fun token lex =>
        if token.is close then .ok (empty, lex) else parse n token lex) (hws : Spaces ws)
    (htext : Parsed jsonpStrtod room (2 * text.length + 1) text parse json) :
    Parsed jsonpStrtod room (2 * (open' :: (ws ++ text)).length) (open' :: (ws ++ text))
      (parseValue jsonpStrtod room) json := by
  intro lex ws' rest bad hws' hrest h hn
  simp only [List.length_append, List.length_cons] at hn
  have hlength : ws'.length < room := by omega
  obtain ⟨lex1, hscan, hstream⟩ := lexScan_char jsonpStrtod hws' hopen.1 h hlength
  rw [List.append_eq, List.append_assoc] at hstream
  have hlength1 : (ws ++ (text ++ rest)).length + 1 < room := by
    simp only [List.length_append]
    omega
  obtain ⟨token, lex2, hscan2, heof, hbracket, hbrace, hread⟩ :=
    htext lex1 ws rest bad hws hrest hstream hlength1
  refine ⟨.char open', lex1, hscan, rfl, is_ne hopen.2.1, is_ne hopen.2.2, ?_⟩
  intro n hsize
  simp only [List.length_append, List.length_cons] at hsize
  obtain ⟨n, rfl⟩ : ∃ k, n = k + 1 := ⟨n - 1, by omega⟩
  obtain ⟨lex3, hrun, hstream3⟩ := hread n (by omega)
  refine ⟨lex3, ?_, hstream3⟩
  have hno : token.is close = .false := by
    rcases hclose with rfl | rfl
    · exact hbracket
    · exact hbrace
  rw [hparse, scanned_eq hscan2, hno]
  exact hrun

end Open

section Head

variable {size : ℕ} {close : Byte} {msg : String} {result : JsonT} {text' ws' : List Byte}
  {parse next : ℕ → Token → Lex → Except LoadError (JsonT × Lex)}

/-- An element or a member is read, and `tailOf` is left. -/
def Headed (jsonpStrtod : List Byte → Option String) (room size : ℕ) (text : List Byte)
    (close : Byte) (msg : String) (json : JsonT)
    (parse next : ℕ → Token → Lex → Except LoadError (JsonT × Lex)) : Prop :=
  ∀ lex ws rest bad, Spaces ws → Stops isWord rest →
    Delivers lex.stream (ws ++ (text ++ rest)) bad → (ws ++ (text ++ rest)).length + 1 < room →
      ∃ token lex', lexScan jsonpStrtod room lex = .ok (token, lex') ∧ token.isEof = .false ∧
        token.is closeBracket = .false ∧ token.is closeBrace = .false ∧
          ∀ n, size ≤ n → ∃ lex'', parse (n + 1) token lex' =
            tailOf jsonpStrtod room close msg json (next n) lex'' ∧
              Delivers lex''.stream rest bad

/-- The last element or member. -/
theorem parsed_last (hclose : close = closeBracket ∨ close = closeBrace)
    (h : Headed jsonpStrtod room size text close msg json parse next) (hws : Spaces ws)
    (hsize : size ≤ 2 * text.length) :
    Parsed jsonpStrtod room (2 * (text ++ (ws ++ [close])).length + 1) (text ++ (ws ++ [close]))
      parse json := by
  intro lex ws1 rest bad hws1 hrest hstream hn
  have hclose' : isWord close = .false := by
    rcases hclose with rfl | rfl
    · decide
    · decide
  simp only [List.append_assoc, List.singleton_append] at hstream hn
  obtain ⟨token, lex1, hscan, heof, hbracket, hbrace, hread⟩ :=
    h lex ws1 (ws ++ close :: rest) bad hws1 (stops_spaces hws hclose') hstream hn
  refine ⟨token, lex1, hscan, heof, hbracket, hbrace, ?_⟩
  intro n hn'
  simp only [List.length_append, List.length_cons] at hn hn'
  obtain ⟨n, rfl⟩ : ∃ k, n = k + 1 := ⟨n - 1, by omega⟩
  obtain ⟨lex2, hrun, hstream2⟩ := hread n (by omega)
  have hlength : ws.length < room := by omega
  obtain ⟨lex3, hrun3, hstream3⟩ :
      ∃ lex3, tailOf jsonpStrtod room close msg json (next n) lex2 = .ok (json, lex3) ∧
        Delivers lex3.stream rest bad :=
    tailOf_close hclose hws hstream2 hlength
  exact ⟨lex3, hrun.trans hrun3, hstream3⟩

/-- An element or a member with a comma behind it. -/
theorem parsed_more (h : Headed jsonpStrtod room size text close msg json parse next)
    (hws : Spaces ws) (hws' : Spaces ws') (hsize : size ≤ 2 * text.length)
    (htext : Parsed jsonpStrtod room (2 * text'.length + 1) text' next result) :
    Parsed jsonpStrtod room (2 * (text ++ (ws ++ comma :: (ws' ++ text'))).length + 1)
      (text ++ (ws ++ comma :: (ws' ++ text'))) parse result := by
  intro lex ws1 rest bad hws1 hrest hstream hn
  simp only [List.append_assoc, List.cons_append] at hstream hn
  obtain ⟨token, lex1, hscan, heof, hbracket, hbrace, hread⟩ :=
    h lex ws1 (ws ++ comma :: (ws' ++ (text' ++ rest))) bad hws1 (stops_spaces hws (by decide))
      hstream hn
  refine ⟨token, lex1, hscan, heof, hbracket, hbrace, ?_⟩
  intro n hn'
  simp only [List.length_append, List.length_cons] at hn hn'
  obtain ⟨n, rfl⟩ : ∃ k, n = k + 1 := ⟨n - 1, by omega⟩
  obtain ⟨lex2, hrun, hstream2⟩ := hread n (by omega)
  have hlength : ws.length < room := by omega
  obtain ⟨lex3, hrun3, hstream3⟩ :
      ∃ lex3, tailOf jsonpStrtod room close msg json (next n) lex2 =
        scanned jsonpStrtod room lex3 (next n) ∧
          Delivers lex3.stream (ws' ++ (text' ++ rest)) bad :=
    tailOf_comma hws hstream2 hlength
  have hlength' : (ws' ++ (text' ++ rest)).length + 1 < room := by
    simp only [List.length_append]
    omega
  obtain ⟨token', lex4, hscan4, -, -, -, hread'⟩ :=
    htext lex3 ws' rest bad hws' hrest hstream3 hlength'
  obtain ⟨lex5, hrun5, hstream5⟩ := hread' n (by omega)
  exact ⟨lex5, hrun.trans (hrun3.trans ((scanned_eq hscan4).trans hrun5)), hstream5⟩

theorem headed_element {before : List JsonT} {elem : JsonT}
    (h : Parsed jsonpStrtod room (2 * text.length) text (parseValue jsonpStrtod room) elem) :
    Headed jsonpStrtod room (2 * text.length) text closeBracket "']' expected"
      (.array (before ++ [elem])) (fun n => parseElements jsonpStrtod room n before)
        (fun n => parseElements jsonpStrtod room n (before ++ [elem])) := by
  intro lex ws rest bad hws hrest hstream hn
  obtain ⟨token, lex1, hscan, heof, hbracket, hbrace, hread⟩ :=
    h lex ws rest bad hws hrest hstream hn
  refine ⟨token, lex1, hscan, heof, hbracket, hbrace, ?_⟩
  intro n hsize
  obtain ⟨lex2, hrun, hstream2⟩ := hread n hsize
  exact ⟨lex2, parseElements_eq heof hrun, hstream2⟩

theorem headed_member {before : List (String × JsonT)} {key : String} {value : JsonT}
    (h : Parses jsonpStrtod room (.member key value) text) :
    Headed jsonpStrtod room (2 * text.length) text closeBrace "'\x7d' expected"
      (.object (JsonT.setMember key value before))
        (fun n => parseMembers jsonpStrtod room n before)
          (fun n => parseMembers jsonpStrtod room n (JsonT.setMember key value before)) := by
  obtain ⟨name, bytes, ws1, ws2, text1, hname, rfl, hws1, hws2, rfl, htext⟩ := h
  intro lex ws rest bad hws hrest hstream hn
  simp only [List.append_assoc, List.cons_append] at hstream hn
  have hstops : Stops isWord (ws1 ++ colon :: (ws2 ++ (text1 ++ rest))) :=
    stops_spaces hws1 (by decide)
  have hstream' : Delivers lex.stream (ws ++ (quote :: (name ++ [quote]) ++
      (ws1 ++ colon :: (ws2 ++ (text1 ++ rest))))) bad := by
    simp only [List.append_assoc, List.cons_append]
    exact hstream
  simp only [List.length_append, List.length_cons] at hn
  have hlength : (ws ++ quote :: (name ++ [quote])).length < room := by
    simp only [List.length_append, List.length_cons]
    omega
  obtain ⟨lex1, hscan, hstream1⟩ :=
    lexScan_token jsonpStrtod (.string hname) hws hstops hstream' hlength
  have hlength1 : ws1.length < room := by omega
  obtain ⟨lex2, hscan2, hstream2⟩ := lexScan_char jsonpStrtod hws1 (by decide) hstream1 hlength1
  have hlength2 : (ws2 ++ (text1 ++ rest)).length + 1 < room := by
    simp only [List.length_append]
    omega
  obtain ⟨token, lex3, hscan3, heof, hbracket, hbrace, hread⟩ :=
    htext lex2 ws2 rest bad hws2 hrest hstream2 hlength2
  refine ⟨.string bytes, lex1, hscan, rfl, rfl, rfl, ?_⟩
  intro n hsize
  simp only [List.length_append, List.length_cons] at hsize
  obtain ⟨lex4, hrun, hstream4⟩ := hread n (by omega)
  exact ⟨lex4, parseMembers_eq hscan2 hscan3 hrun, hstream4⟩

end Head

/-- **What can be derived is read.** -/
theorem parses_of_derives {item : Item} (h : Derives jsonpStrtod item text) :
    Parses jsonpStrtod room item text := by
  induction h with
  | @scalar token json text ht hjson =>
    intro lex ws rest bad hws hrest h hn
    have hlength : (ws ++ text).length < room := by
      simp only [List.length_append] at hn ⊢
      omega
    obtain ⟨lex', hscan, hstream⟩ := lexScan_token jsonpStrtod ht hws hrest h hlength
    obtain ⟨heof, hbracket, hbrace⟩ := first_of_scalar hjson
    refine ⟨token, lex', hscan, heof, hbracket, hbrace, ?_⟩
    intro n hsize
    have hpos := ht.length_pos
    obtain ⟨n, rfl⟩ : ∃ k, n = k + 1 := ⟨n - 1, by omega⟩
    exact ⟨lex', parseValue_scalar hjson, hstream⟩
  | emptyArray hws =>
    exact parsed_empty (by decide) (by decide) (fun _ _ => parseValue_bracket) hws
  | array hws _ ih =>
    exact parsed_open (by decide) (.inl rfl) (fun _ _ => parseValue_bracket) hws ih
  | emptyObject hws => exact parsed_empty (by decide) (by decide) (fun _ _ => parseValue_brace) hws
  | object hws _ ih =>
    exact parsed_open (by decide) (.inr rfl) (fun _ _ => parseValue_brace) hws ih
  | lastElement _ hws ih => exact parsed_last (.inl rfl) (headed_element ih) hws (Nat.le_refl _)
  | element _ hws hws' _ ih ih' =>
    exact parsed_more (headed_element ih) hws hws' (Nat.le_refl _) ih'
  | member hname hws hws' _ ih => exact ⟨_, _, _, _, _, hname, rfl, hws, hws', rfl, ih⟩
  | lastMember _ hws ih => exact parsed_last (.inr rfl) (headed_member ih) hws (Nat.le_refl _)
  | members _ hws hws' _ ih ih' =>
    exact parsed_more (headed_member ih) hws hws' (Nat.le_refl _) ih'

/-! ### What is read can be derived -/

section Sound

variable {P Q : JsonT → List Byte → Prop} {pre : List Byte}

/-- The result is no lack of fuel, and a value belongs to the text that has been read. -/
def Sound (l : List Byte) (bad : Bool) (P : JsonT → List Byte → Prop)
    (result : Except LoadError (JsonT × Lex)) : Prop :=
  result ≠ .error .fuel ∧ ∀ json lex, result = .ok (json, lex) →
    ∃ text rest, l = text ++ rest ∧ P json text ∧ Delivers lex.stream rest bad

/-- The result is an error, but no lack of fuel. -/
def Errs (result : Except LoadError (JsonT × Lex)) : Prop :=
  ∃ error, error ≠ .fuel ∧ result = .error error

theorem Errs.sound {result : Except LoadError (JsonT × Lex)} (h : Errs result) :
    Sound l bad P result := by
  obtain ⟨error, hne, rfl⟩ := h
  refine ⟨?_, ?_⟩
  · intro heq
    exact hne (Except.error.inj heq)
  · intro json lex heq
    cases heq

theorem parseError_ne_fuel (token : Token) (lex : Lex) (msg : String) :
    parseError token lex msg ≠ .fuel := by
  rw [parseError.eq_def]
  split
  all_goals
    intro heq
    cases heq

theorem errs_parseError (msg : String) : Errs (.error (parseError token lex msg)) :=
  ⟨_, parseError_ne_fuel token lex msg, rfl⟩

theorem sound_ok (hP : P json []) (h : Delivers lex.stream l bad) :
    Sound l bad P (.ok (json, lex)) := by
  refine ⟨?_, ?_⟩
  · intro heq
    cases heq
  · intro json' lex' heq
    cases heq
    exact ⟨[], l, rfl, hP, h⟩

/-- What has been read before belongs to the text. -/
theorem Sound.append {result : Except LoadError (JsonT × Lex)} (hl : l = pre ++ rest)
    (h : Sound rest bad (fun json text => P json (pre ++ text)) result) : Sound l bad P result := by
  refine ⟨h.1, ?_⟩
  intro json lex heq
  obtain ⟨text, rest', rfl, hP, hstream⟩ := h.2 json lex heq
  exact ⟨pre ++ text, rest', by rw [hl, List.append_assoc], hP, hstream⟩

theorem Sound.imp {result : Except LoadError (JsonT × Lex)} (h : Sound l bad Q result)
    (hPQ : ∀ json text, Q json text → P json text) : Sound l bad P result := by
  refine ⟨h.1, ?_⟩
  intro json lex heq
  obtain ⟨text, rest, hl, hQ, hstream⟩ := h.2 json lex heq
  exact ⟨text, rest, hl, hPQ json text hQ, hstream⟩

/-- The token is none. -/
def Token.Fails (token : Token) : Prop := token = .eof ∨ ∃ error, token = .invalid error

theorem is_of_fails (h : token.Fails) (b : Byte) : token.is b = .false := by
  obtain rfl | ⟨error, rfl⟩ := h
  · rfl
  · rfl

/-- **The next token**: the parser goes on with one that stands behind white space. -/
theorem sound_scanned {k : Token → Lex → Except LoadError (JsonT × Lex)}
    (h : Delivers lex.stream l bad) (hn : l.length + 1 < room)
    (hfails : ∀ token lex, token.Fails → Errs (k token lex))
    (hk : ∀ token ws text rest lex, l = ws ++ (text ++ rest) → Spaces ws →
      TokenText jsonpStrtod token text → Delivers lex.stream rest bad →
        Sound rest bad (fun json t => P json (ws ++ (text ++ t))) (k token lex)) :
    Sound l bad P (scanned jsonpStrtod room lex k) := by
  rcases lexScan_sound jsonpStrtod h hn with hassertion | ⟨error, lex1, hscan⟩ |
    ⟨-, -, lex1, hscan, -⟩ | ⟨token, ws, text, rest, hl, hws, ht, lex1, hscan, hstream⟩
  · rw [scanned, hassertion]
    exact Errs.sound ⟨.assertion, by decide, rfl⟩
  · rw [scanned_eq hscan]
    exact (hfails _ lex1 (.inr ⟨error, rfl⟩)).sound
  · rw [scanned_eq hscan]
    exact (hfails _ lex1 (.inl rfl)).sound
  · rw [scanned_eq hscan]
    rw [← List.append_assoc] at hl
    refine Sound.append hl ?_
    simp only [List.append_assoc]
    exact hk token ws text rest lex1 (by rw [hl, List.append_assoc]) hws ht hstream

theorem eq_char_of_is (h : token.is b = .true) : token = .char b := by
  cases token with
  | char c => exact congrArg Token.char (of_decide_eq_true h)
  | _ => cases h

theorem numberToken_cases (jsonpStrtod : List Byte → Option String) (text tail : List Byte) :
    (∃ value, numberToken jsonpStrtod text tail = .integer value) ∨
      (∃ value, numberToken jsonpStrtod text tail = .real value) ∨
        ∃ error, numberToken jsonpStrtod text tail = .invalid error := by
  rw [numberToken]
  split
  · rw [integerToken]
    split_ifs
    · exact .inr (.inr ⟨_, rfl⟩)
    · exact .inr (.inr ⟨_, rfl⟩)
    · exact .inl ⟨_, rfl⟩
  · rw [realToken]
    split
    · exact .inr (.inl ⟨_, rfl⟩)
    · exact .inr (.inr ⟨_, rfl⟩)

/-- What a token can be: a single byte, a string with its inside, or another value. -/
theorem TokenText.exists_scalar (h : TokenText jsonpStrtod token text) :
    (∃ b, token = .char b ∧ text = [b]) ∨
      (∃ name value, token = .string value ∧ text = quote :: (name ++ [quote]) ∧
        Literal name value) ∨
        (∀ value, token ≠ .string value) ∧ ∃ json, scalar token = some json := by
  cases h with
  | char _ => exact .inl ⟨_, rfl, rfl⟩
  | string h => exact .inr (.inl ⟨_, _, rfl, rfl, h⟩)
  | @number text tail h hvalid =>
    obtain ⟨value, hvalue⟩ | ⟨value, hvalue⟩ | ⟨error, herror⟩ :=
      numberToken_cases jsonpStrtod text tail
    · rw [hvalue]
      exact .inr (.inr ⟨by simp, _, rfl⟩)
    · rw [hvalue]
      exact .inr (.inr ⟨by simp, _, rfl⟩)
    · exact absurd herror (hvalid error)
  | true => exact .inr (.inr ⟨by simp, _, rfl⟩)
  | false => exact .inr (.inr ⟨by simp, _, rfl⟩)
  | null => exact .inr (.inr ⟨by simp, _, rfl⟩)

theorem eq_of_tokenText_char (h : TokenText jsonpStrtod (.char b) text) : text = [b] := by
  rcases h.exists_scalar with ⟨b', hb, rfl⟩ | ⟨name, value, htoken, -⟩ | ⟨-, json, hjson⟩
  · rw [Token.char.inj hb]
  · cases htoken
  · cases hjson

theorem errs_parseValue (h : token.Fails) :
    Errs (parseValue jsonpStrtod room (n + 1) token lex) := by
  rw [parseValue.eq_def]
  obtain rfl | ⟨error, rfl⟩ := h
  · exact errs_parseError _
  · exact errs_parseError _

theorem errs_parseElements {before : List JsonT} (h : token.Fails) (hn : 2 ≤ n) :
    Errs (parseElements jsonpStrtod room n before token lex) := by
  obtain ⟨n, rfl⟩ : ∃ k, n = k + 2 := ⟨n - 2, by omega⟩
  rw [parseElements]
  obtain ⟨error, hne, hvalue⟩ : Errs (parseValue jsonpStrtod room (n + 1) token lex) :=
    errs_parseValue h
  split_ifs
  · exact errs_parseError _
  · rw [hvalue]
    exact ⟨error, hne, rfl⟩

theorem errs_parseMembers {before : List (String × JsonT)} (h : token.Fails) (hn : 1 ≤ n) :
    Errs (parseMembers jsonpStrtod room n before token lex) := by
  obtain ⟨n, rfl⟩ : ∃ k, n = k + 1 := ⟨n - 1, by omega⟩
  rw [parseMembers.eq_def]
  obtain rfl | ⟨error, rfl⟩ := h
  · exact errs_parseError _
  · exact errs_parseError _

/-- **Behind a value** in an array or an object. -/
theorem sound_tailOf {close : Byte} {msg : String}
    {parse : Token → Lex → Except LoadError (JsonT × Lex)}
    (h : Delivers lex.stream l bad) (hn : l.length + 1 < room)
    (hfails : ∀ token lex, token.Fails → Errs (parse token lex))
    (hlast : ∀ ws, Spaces ws → P json (ws ++ [close]))
    (hmore : ∀ token ws ws' text rest lex, rest.length + 2 ≤ l.length → Spaces ws → Spaces ws' →
      TokenText jsonpStrtod token text → Delivers lex.stream rest bad →
        Sound rest bad (fun json t => P json (ws ++ comma :: (ws' ++ (text ++ t))))
          (parse token lex)) :
    Sound l bad P (tailOf jsonpStrtod room close msg json parse lex) := by
  refine sound_scanned h hn ?_ ?_
  · intro token lex htoken
    rw [is_of_fails htoken, is_of_fails htoken]
    exact errs_parseError msg
  · intro token ws text rest lex1 hl hws ht hstream
    subst hl
    simp only [List.length_append] at hn
    by_cases hcomma : token.is comma = .true
    · obtain rfl := eq_char_of_is hcomma
      obtain rfl := eq_of_tokenText_char ht
      rw [if_pos hcomma]
      refine sound_scanned hstream (by omega) hfails ?_
      intro token' ws' text' rest' lex2 hl' hws' ht' hstream'
      subst hl'
      have hlength : rest'.length + 2 ≤ (ws ++ ([comma] ++ (ws' ++ (text' ++ rest')))).length := by
        have hpos := ht'.length_pos
        simp only [List.length_append, List.length_singleton]
        omega
      exact hmore token' ws ws' text' rest' lex2 hlength hws hws' ht' hstream'
    · rw [if_neg hcomma]
      by_cases hclose : token.is close = .true
      · obtain rfl := eq_char_of_is hclose
        obtain rfl := eq_of_tokenText_char ht
        rw [if_pos hclose]
        exact sound_ok (hlast ws hws) hstream
      · rw [if_neg hclose]
        exact (errs_parseError msg).sound

theorem not_isEof_of_tokenText (ht : TokenText jsonpStrtod token text) : token.isEof = .false := by
  rcases ht.exists_scalar with ⟨b, rfl, -⟩ | ⟨name, value, rfl, -⟩ | ⟨-, json, hjson⟩
  · rfl
  · rfl
  · exact (first_of_scalar hjson).1

/-- Elements are read behind a value that can be derived. -/
theorem sound_parseElements {before : List JsonT}
    (h : Delivers lex.stream l bad) (hn : l.length + 1 < room) (hfuel : 2 * l.length + 4 ≤ n + 1)
    (ht : TokenText jsonpStrtod token text)
    (ihvalue : Sound l bad (fun json t => Derives jsonpStrtod (.value json) (text ++ t))
      (parseValue jsonpStrtod room n token lex))
    (ih : ∀ token lex l text before, Delivers lex.stream l bad → l.length + 1 < room →
      2 * l.length + 4 ≤ n → TokenText jsonpStrtod token text →
        Sound l bad (fun json t => ∃ all, json = .array all ∧
          Derives jsonpStrtod (.elements before all) (text ++ t))
            (parseElements jsonpStrtod room n before token lex)) :
    Sound l bad (fun json t => ∃ all, json = .array all ∧
      Derives jsonpStrtod (.elements before all) (text ++ t))
        (parseElements jsonpStrtod room (n + 1) before token lex) := by
  have heof := not_isEof_of_tokenText ht
  cases hvalue : parseValue jsonpStrtod room n token lex with
  | error error =>
    rw [parseElements, heof, hvalue]
    exact Errs.sound ⟨error, fun heq => ihvalue.1 (by rw [hvalue, heq]), rfl⟩
  | ok result =>
    obtain ⟨elem, lex1⟩ := result
    obtain ⟨t, rest, rfl, helem, hstream⟩ := ihvalue.2 elem lex1 hvalue
    rw [parseElements_eq heof hvalue]
    refine Sound.append rfl ?_
    simp only [List.length_append] at hn hfuel
    refine sound_tailOf hstream (by omega) ?_ ?_ ?_
    · intro token' lex' htoken'
      exact errs_parseElements htoken' (by omega)
    · intro ws hws
      refine ⟨before ++ [elem], rfl, ?_⟩
      rw [← List.append_assoc]
      exact .lastElement helem hws
    · intro token' ws ws' text' rest' lex' hlength hws hws' ht' hstream'
      refine (ih token' lex' rest' text' (before ++ [elem]) hstream' (by omega) (by omega)
        ht').imp ?_
      rintro json t' ⟨all, rfl, hall⟩
      refine ⟨all, rfl, ?_⟩
      rw [← List.append_assoc]
      exact .element helem hws hws' hall

/-- Members are read behind a key. -/
theorem sound_parseMembers {before : List (String × JsonT)}
    (h : Delivers lex.stream l bad) (hn : l.length + 1 < room) (hfuel : 2 * l.length + 4 ≤ n + 1)
    (ht : TokenText jsonpStrtod token text)
    (ihvalue : ∀ token lex l text, Delivers lex.stream l bad → l.length + 1 < room →
      2 * l.length + 3 ≤ n → TokenText jsonpStrtod token text →
        Sound l bad (fun json t => Derives jsonpStrtod (.value json) (text ++ t))
          (parseValue jsonpStrtod room n token lex))
    (ih : ∀ token lex l text before, Delivers lex.stream l bad → l.length + 1 < room →
      2 * l.length + 4 ≤ n → TokenText jsonpStrtod token text →
        Sound l bad (fun json t => ∃ all, json = .object all ∧
          Derives jsonpStrtod (.members before all) (text ++ t))
            (parseMembers jsonpStrtod room n before token lex)) :
    Sound l bad (fun json t => ∃ all, json = .object all ∧
      Derives jsonpStrtod (.members before all) (text ++ t))
        (parseMembers jsonpStrtod room (n + 1) before token lex) := by
  rw [parseMembers.eq_def]
  rcases ht.exists_scalar with ⟨b, rfl, -⟩ | ⟨name, key, rfl, rfl, hname⟩ | ⟨hstring, json, hjson⟩
  · exact (errs_parseError _).sound
  · refine sound_scanned h hn ?_ ?_
    · intro token' lex' htoken'
      rw [is_of_fails htoken']
      exact errs_parseError _
    · intro token1 ws text1 l1 lex1 hl hws ht1 hstream1
      subst hl
      simp only [List.length_append] at hn hfuel
      by_cases hcolon : token1.is colon = .true
      · obtain rfl := eq_char_of_is hcolon
        obtain rfl := eq_of_tokenText_char ht1
        rw [if_pos hcolon]
        refine sound_scanned hstream1 (by omega) ?_ ?_
        · intro token' lex' htoken'
          obtain ⟨n, rfl⟩ : ∃ k, n = k + 1 := ⟨n - 1, by omega⟩
          obtain ⟨error, hne, hvalue⟩ : Errs (parseValue jsonpStrtod room (n + 1) token' lex') :=
            errs_parseValue htoken'
          rw [hvalue]
          exact ⟨error, hne, rfl⟩
        · intro token2 ws' text2 l2 lex2 hl2 hws' ht2 hstream2
          subst hl2
          simp only [List.length_append, List.length_singleton] at hn hfuel
          have hsound := ihvalue token2 lex2 l2 text2 hstream2 (by omega) (by omega) ht2
          cases hvalue : parseValue jsonpStrtod room n token2 lex2 with
          | error error =>
            exact Errs.sound ⟨error, fun heq => hsound.1 (by rw [hvalue, heq]), rfl⟩
          | ok result =>
            obtain ⟨value, lex3⟩ := result
            obtain ⟨t, rest, rfl, hderives, hstream3⟩ := hsound.2 value lex3 hvalue
            refine Sound.append rfl ?_
            have hmember := Derives.member hname hws hws' hderives
            simp only [List.length_append] at hn hfuel
            refine sound_tailOf hstream3 (by omega) ?_ ?_ ?_
            · intro token' lex' htoken'
              exact errs_parseMembers htoken' (by omega)
            · intro ws'' hws''
              refine ⟨_, rfl, ?_⟩
              have hlast : Derives jsonpStrtod (.members before _) _ := .lastMember hmember hws''
              simp only [List.append_assoc, List.cons_append] at hlast ⊢
              exact hlast
            · intro token' ws'' ws3 text' rest' lex' hlength hws'' hws3 ht' hstream'
              refine (ih token' lex' rest' text' (JsonT.setMember (textString key) value before)
                hstream' (by omega) (by omega) ht').imp ?_
              rintro json t' ⟨all, rfl, hall⟩
              refine ⟨all, rfl, ?_⟩
              have hmembers := Derives.members hmember hws'' hws3 hall
              simp only [List.append_assoc, List.cons_append] at hmembers ⊢
              exact hmembers
      · rw [if_neg hcolon]
        exact (errs_parseError _).sound
  · cases token with
    | string value => exact absurd rfl (hstring value)
    | _ => exact (errs_parseError _).sound

/-- **Behind the bracket or the brace** of an array or an object. -/
theorem sound_open {close : Byte} {empty : JsonT}
    {parse : Token → Lex → Except LoadError (JsonT × Lex)}
    (h : Delivers lex.stream l bad) (hn : l.length + 1 < room)
    (hfails : ∀ token lex, token.Fails → Errs (parse token lex))
    (hempty : ∀ ws, Spaces ws → P empty (ws ++ [close]))
    (hparse : ∀ token ws text rest lex, rest.length + 1 ≤ l.length → Spaces ws →
      TokenText jsonpStrtod token text → Delivers lex.stream rest bad →
        Sound rest bad (fun json t => P json (ws ++ (text ++ t))) (parse token lex)) :
    Sound l bad P (scanned jsonpStrtod room lex fun token lex =>
      if token.is close then .ok (empty, lex) else parse token lex) := by
  refine sound_scanned h hn ?_ ?_
  · intro token lex htoken
    rw [is_of_fails htoken]
    exact hfails token lex htoken
  · intro token ws text rest lex1 hl hws ht hstream
    by_cases hclose : token.is close = .true
    · obtain rfl := eq_char_of_is hclose
      obtain rfl := eq_of_tokenText_char ht
      rw [if_pos hclose]
      exact sound_ok (hempty ws hws) hstream
    · rw [if_neg hclose]
      have hpos := ht.length_pos
      have hlength : rest.length + 1 ≤ l.length := by
        simp only [hl, List.length_append]
        omega
      exact hparse token ws text rest lex1 hlength hws ht hstream

/-- **What is read can be derived**, and there is fuel for it. -/
theorem sound_parse (jsonpStrtod : List Byte → Option String) (room n : ℕ) (bad : Bool) :
    (∀ token lex l text, Delivers lex.stream l bad → l.length + 1 < room →
      2 * l.length + 3 ≤ n → TokenText jsonpStrtod token text →
        Sound l bad (fun json t => Derives jsonpStrtod (.value json) (text ++ t))
          (parseValue jsonpStrtod room n token lex)) ∧
      (∀ token lex l text before, Delivers lex.stream l bad → l.length + 1 < room →
        2 * l.length + 4 ≤ n → TokenText jsonpStrtod token text →
          Sound l bad (fun json t => ∃ all, json = .array all ∧
            Derives jsonpStrtod (.elements before all) (text ++ t))
              (parseElements jsonpStrtod room n before token lex)) ∧
        ∀ token lex l text before, Delivers lex.stream l bad → l.length + 1 < room →
          2 * l.length + 4 ≤ n → TokenText jsonpStrtod token text →
            Sound l bad (fun json t => ∃ all, json = .object all ∧
              Derives jsonpStrtod (.members before all) (text ++ t))
                (parseMembers jsonpStrtod room n before token lex) := by
  induction n with
  | zero =>
    refine ⟨?_, ?_, ?_⟩
    · intro token lex l text _ _ hfuel
      omega
    · intro token lex l text before _ _ hfuel
      omega
    · intro token lex l text before _ _ hfuel
      omega
  | succ n ih =>
    obtain ⟨ihvalue, ihelements, ihmembers⟩ := ih
    refine ⟨?_, ?_, ?_⟩
    · intro token lex l text h hn hfuel ht
      rcases ht.exists_scalar with ⟨b, rfl, rfl⟩ | ⟨name, value, rfl, rfl, hname⟩ | ⟨-, json, hjson⟩
      · by_cases hbrace : b = openBrace
        · obtain rfl := hbrace
          rw [parseValue_brace]
          refine sound_open h hn ?_ (fun ws hws => .emptyObject hws) ?_
          · intro token lex htoken
            exact errs_parseMembers htoken (by omega)
          · intro token ws text rest lex1 hlength hws ht hstream
            refine (ihmembers token lex1 rest text [] hstream (by omega) (by omega) ht).imp ?_
            rintro json t ⟨all, rfl, hall⟩
            have hobject := Derives.object hws hall
            exact hobject
        · by_cases hbracket : b = openBracket
          · obtain rfl := hbracket
            rw [parseValue_bracket]
            refine sound_open h hn ?_ (fun ws hws => .emptyArray hws) ?_
            · intro token lex htoken
              exact errs_parseElements htoken (by omega)
            · intro token ws text rest lex1 hlength hws ht hstream
              refine (ihelements token lex1 rest text [] hstream (by omega) (by omega) ht).imp ?_
              rintro json t ⟨all, rfl, hall⟩
              have harray := Derives.array hws hall
              exact harray
          · rw [parseValue.eq_def]
            dsimp only
            rw [if_neg hbrace, if_neg hbracket]
            exact (errs_parseError _).sound
      · have hjson : scalar (.string value) = some (.string (textString value)) := rfl
        rw [parseValue_scalar hjson]
        refine sound_ok ?_ h
        rw [List.append_nil]
        exact .scalar ht hjson
      · rw [parseValue_scalar hjson]
        refine sound_ok ?_ h
        rw [List.append_nil]
        exact .scalar ht hjson
    · intro token lex l text before h hn hfuel ht
      exact sound_parseElements h hn hfuel ht (ihvalue token lex l text h hn (by omega) ht)
        ihelements
    · intro token lex l text before h hn hfuel ht
      exact sound_parseMembers h hn hfuel ht ihvalue ihmembers

end Sound

/-! ### Whole texts -/

/-- The text of an array or an object, in UTF-8, with white space around it. -/
structure JsonText (jsonpStrtod : List Byte → Option String) (json : JsonT) (l : List Byte) :
    Prop where
  isText : IsText l
  container : json.isArray = .true ∨ json.isObject = .true
  derives : ∃ ws text ws', l = ws ++ (text ++ ws') ∧ Spaces ws ∧ Spaces ws' ∧
    Derives jsonpStrtod (.value json) text

theorem isPunctuation_head (h : TokenText jsonpStrtod token (b :: text))
    (hjson : scalar token = some json) : isPunctuation b = .false := by
  rcases h.exists_scalar with ⟨b', rfl, -⟩ | ⟨name, value, -, htext, -⟩ | ⟨hstring, -⟩
  · cases hjson
  · rw [(List.cons.inj htext).1]
    decide
  · generalize htext : b :: text = text' at h
    cases h with
    | char _ => cases hjson
    | string _ => exact absurd rfl (hstring _)
    | number h _ =>
      obtain ⟨b', text', rfl, hb⟩ := h.exists_cons
      rw [(List.cons.inj htext).1]
      exact (other_of_isNumber b' hb).1
    | true =>
      rw [(List.cons.inj htext).1]
      decide
    | false =>
      rw [(List.cons.inj htext).1]
      decide
    | null =>
      rw [(List.cons.inj htext).1]
      decide

/-- The text of an array or an object begins with its bracket or brace, and no other text does. -/
theorem container_iff (h : Derives jsonpStrtod (.value json) text) :
    json.isArray = .true ∨ json.isObject = .true ↔
      ∃ b text', text = b :: text' ∧ (b = openBracket ∨ b = openBrace) := by
  cases h with
  | @scalar token _ _ ht hjson =>
    refine iff_of_false ?_ ?_
    · cases token with
      | invalid _ => cases hjson
      | eof => cases hjson
      | char _ => cases hjson
      | _ =>
        obtain rfl := Option.some.inj hjson
        rintro (h | h)
        · cases h
        · cases h
    · rintro ⟨b, text', rfl, hb⟩
      have hhead := isPunctuation_head ht hjson
      rcases hb with rfl | rfl
      · exact absurd hhead (by decide)
      · exact absurd hhead (by decide)
  | emptyArray _ => exact iff_of_true (.inl rfl) ⟨_, _, rfl, .inl rfl⟩
  | array _ _ => exact iff_of_true (.inl rfl) ⟨_, _, rfl, .inl rfl⟩
  | emptyObject _ => exact iff_of_true (.inr rfl) ⟨_, _, rfl, .inr rfl⟩
  | object _ _ => exact iff_of_true (.inr rfl) ⟨_, _, rfl, .inr rfl⟩

theorem length_takeWhile_le (string : List Byte) :
    (string.takeWhile (· ≠ 0)).length ≤ string.length :=
  (List.takeWhile_prefix _).length_le

/-- `json_loads` reads a text that is one. -/
theorem jsonLoadsText_of_jsonText {string : List Byte}
    (h : JsonText jsonpStrtod json (string.takeWhile (· ≠ 0))) :
    jsonLoadsText jsonpStrtod string = .ok json := by
  obtain ⟨htext, hcontainer, ws, text, ws', heq, hws, hws', hderives⟩ := h
  obtain ⟨b, text', rfl, hb⟩ := (container_iff hderives).1 hcontainer
  have hlength := length_takeWhile_le string
  rw [heq] at hlength
  simp only [List.length_append] at hlength
  have hinit : Delivers (Stream.init string) (ws ++ (b :: text' ++ ws')) .false := by
    rw [← heq]
    exact delivers_init htext
  have hstops : Stops isWord ws' := by
    cases ws' with
    | nil => exact stops_nil
    | cons x ws' => exact stops_cons (isWord_of_isSpace x (hws' x List.mem_cons_self))
  have hroom : (ws ++ (b :: text' ++ ws')).length + 1 < string.length + 2 := by
    simp only [List.length_append]
    omega
  obtain ⟨token, lex1, hscan, -, -, -, hread⟩ := parses_of_derives hderives
    ⟨Stream.init string, []⟩ ws ws' .false hws hstops hinit hroom
  obtain ⟨lex2, hrun, hstream2⟩ := hread (2 * string.length + 2) (by omega)
  have hpunctuation : isPunctuation b = .true := by
    rcases hb with rfl | rfl
    · decide
    · decide
  have hspaces : ws.length < string.length + 2 := by omega
  have hinit' : Delivers (⟨Stream.init string, []⟩ : Lex).stream (ws ++ b :: (text' ++ ws'))
      .false := hinit
  obtain ⟨lex3, hscan3, -⟩ := lexScan_char jsonpStrtod hws hpunctuation hinit' hspaces
  obtain ⟨rfl, -⟩ := Prod.mk.inj (Except.ok.inj (hscan.symm.trans hscan3))
  have hopen : ((Token.char b).is openBracket || (Token.char b).is openBrace) = .true := by
    rcases hb with rfl | rfl
    · decide
    · decide
  have hend : ws'.length < string.length + 2 := by omega
  obtain ⟨lex4, hscan4, -⟩ := lexScan_eof jsonpStrtod hws' hstream2 hend
  rw [jsonLoadsText, parseJson, scanned_eq hscan, if_pos hopen, hrun]
  dsimp only
  rw [scanned_eq hscan4]
  rfl

theorem refused_error {P : JsonT → Prop} {error : LoadError} (h : error ≠ .fuel) :
    (.error error : Except LoadError JsonT) ≠ .error .fuel ∧
      ∀ json, (.error error : Except LoadError JsonT) = .ok json → P json := by
  refine ⟨?_, ?_⟩
  · intro heq
    exact h (Except.error.inj heq)
  · intro json heq
    cases heq

/-- What `json_loads` reads is a text, and there is fuel for it. -/
theorem jsonLoadsText_sound (jsonpStrtod : List Byte → Option String) (string : List Byte) :
    jsonLoadsText jsonpStrtod string ≠ .error .fuel ∧
      ∀ json, jsonLoadsText jsonpStrtod string = .ok json →
        JsonText jsonpStrtod json (string.takeWhile (· ≠ 0)) := by
  obtain ⟨l, bad, hinit, htext, other, hother, hbad⟩ := exists_delivers_init string
  have hlength := length_takeWhile_le string
  rw [hother, List.length_append] at hlength
  have hroom : l.length + 1 < string.length + 2 := by omega
  have hinit' : Delivers (⟨Stream.init string, []⟩ : Lex).stream l bad := hinit
  rw [jsonLoadsText, parseJson]
  rcases lexScan_sound jsonpStrtod hinit' hroom with hassertion | ⟨error, lex1, hscan⟩ |
    ⟨-, -, lex1, hscan, -⟩ | ⟨token, ws, text, rest, rfl, hws, ht, lex1, hscan, hstream⟩
  · rw [scanned, hassertion]
    exact refused_error (by decide)
  · rw [scanned_eq hscan]
    exact refused_error (parseError_ne_fuel _ _ _)
  · rw [scanned_eq hscan]
    exact refused_error (parseError_ne_fuel _ _ _)
  · rw [scanned_eq hscan]
    by_cases hopen : (token.is openBracket || token.is openBrace) = .true
    · rw [if_pos hopen]
      obtain ⟨b, rfl, rfl, hb⟩ : ∃ b, token = .char b ∧ text = [b] ∧
          (b = openBracket ∨ b = openBrace) := by
        rcases Bool.or_eq_true_iff.1 hopen with his | his
        · obtain rfl := eq_char_of_is his
          exact ⟨_, rfl, eq_of_tokenText_char ht, .inl rfl⟩
        · obtain rfl := eq_char_of_is his
          exact ⟨_, rfl, eq_of_tokenText_char ht, .inr rfl⟩
      simp only [List.length_append, List.length_singleton] at hlength hroom
      have hsound := (sound_parse jsonpStrtod (string.length + 2)
        (2 * string.length + 2) bad).1 (.char b) lex1 rest [b] hstream (by omega) (by omega) ht
      cases hvalue : parseValue jsonpStrtod (string.length + 2) (2 * string.length + 2) (.char b)
        lex1 with
      | error error =>
        exact refused_error fun heq => hsound.1 (by rw [hvalue, heq])
      | ok result =>
        obtain ⟨json, lex2⟩ := result
        obtain ⟨t, rest, rfl, hderives, hstream2⟩ := hsound.2 json lex2 hvalue
        dsimp only
        rw [List.length_append] at hroom
        have hroom2 : rest.length + 1 < string.length + 2 := by omega
        rcases lexScan_sound jsonpStrtod hstream2 hroom2 with hassertion | ⟨error, lex3, hscan3⟩ |
          ⟨hws', rfl, lex3, hscan3, -⟩ | ⟨token, ws', text, rest, rfl, -, ht', lex3, hscan3, -⟩
        · rw [scanned, hassertion]
          exact refused_error (by decide)
        · rw [scanned_eq hscan3]
          exact refused_error (parseError_ne_fuel _ _ _)
        · rw [scanned_eq hscan3]
          refine ⟨by simp [Token.isEof], ?_⟩
          intro json' hjson'
          obtain rfl := Except.ok.inj hjson'
          rw [hother, hbad rfl, List.append_nil]
          refine ⟨htext, (container_iff hderives).2 ⟨b, t, rfl, hb⟩, ws, [b] ++ t, rest, ?_, hws,
            hws', hderives⟩
          rw [List.append_assoc]
        · rw [scanned_eq hscan3, not_isEof_of_tokenText ht']
          exact refused_error (parseError_ne_fuel _ _ _)
    · rw [if_neg hopen]
      exact refused_error (parseError_ne_fuel _ _ _)

/-- **`json_loads` reads exactly the texts of arrays and objects**, up to the terminator; and its
loops end. -/
theorem jsonLoadsText_spec (jsonpStrtod : List Byte → Option String) (string : List Byte) :
    jsonLoadsText jsonpStrtod string ≠ .error .fuel ∧
      ∀ json, jsonLoadsText jsonpStrtod string = .ok json ↔
        JsonText jsonpStrtod json (string.takeWhile (· ≠ 0)) := by
  obtain ⟨hfuel, hsound⟩ := jsonLoadsText_sound jsonpStrtod string
  refine ⟨hfuel, ?_⟩
  intro json
  exact ⟨hsound json, jsonLoadsText_of_jsonText⟩

end Jansson

end Lcm
