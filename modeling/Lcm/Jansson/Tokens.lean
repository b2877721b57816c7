import Lcm.Jansson.Literals

/-!
# The tokens of a text

A token that stands behind white space is read, if what follows it cannot belong to it; and whatever
is read is a token that stands there.

## Main definitions

* `TokenText` : the texts of tokens.

## Main results

* `lexScan_char`, `lexScan_token`, `lexScan_eof` : a token is read.
* `lexScan_sound` : what is read is a token.
-/

namespace Lcm

namespace Jansson

variable (jsonpStrtod : List Byte → Option String) {lex : Lex} {l pre rest text ws : List Byte}
  {b : Byte} {n : ℕ} {bad : Bool} {token : Token}

/-- The texts of tokens. -/
inductive TokenText : Token → List Byte → Prop
  | char {b : Byte} (h : isPunctuation b = .true) : TokenText (.char b) [b]
  | string {text value : List Byte} (h : Literal text value) :
    TokenText (.string value) (quote :: (text ++ [quote]))
  | number {text tail : List Byte} (h : NumberText text tail)
      (hvalid : ∀ error, numberToken jsonpStrtod text tail ≠ .invalid error) :
    TokenText (numberToken jsonpStrtod text tail) text
  | true : TokenText .true trueText
  | false : TokenText .false falseText
  | null : TokenText .null nullText

/-- Behind white space, a token begins. -/
theorem lexScan_eq (hws : Spaces ws) (hb : isSpace b = .false)
    (h : Delivers lex.stream (ws ++ b :: l) bad) (hn : ws.length < n) :
    ∃ lex', Ahead lex' [] (b :: l) bad ∧
      lexScan jsonpStrtod n lex = lexScanToken jsonpStrtod n b lex' := by
  have h' : Delivers ({ lex with savedText := [] } : Lex).stream (ws ++ b :: l) bad := h
  obtain ⟨lex', hrun, hahead⟩ := skipSpace_spec hws (stops_cons hb) h' hn
  refine ⟨_, hahead, ?_⟩
  rw [lexScan, hrun]
  rfl

/-- **The end of the text** is read. -/
theorem lexScan_eof (hws : Spaces ws) (h : Delivers lex.stream ws bad) (hn : ws.length < n) :
    if bad then Refuses (lexScan jsonpStrtod n lex)
    else Reads (lexScan jsonpStrtod n lex) .eof [] bad := by
  rw [← List.append_nil ws] at h
  have h' : Delivers ({ lex with savedText := [] } : Lex).stream (ws ++ []) bad := h
  obtain ⟨lex', hrun, hahead⟩ := skipSpace_spec hws stops_nil h' hn
  rw [lexScan, hrun]
  cases bad with
  | false => exact ⟨lex', rfl, hahead.stream⟩
  | true => exact ⟨none, lex', rfl⟩

theorem isSpace_of_isPunctuation (h : isPunctuation b = .true) : isSpace b = .false := by
  revert b
  decide

/-- **A bracket, a brace, a colon or a comma** is read. -/
theorem lexScan_char (hws : Spaces ws) (hb : isPunctuation b = .true)
    (h : Delivers lex.stream (ws ++ b :: l) bad) (hn : ws.length < n) :
    Reads (lexScan jsonpStrtod n lex) (.char b) l bad := by
  obtain ⟨lex', hahead, hrun⟩ := lexScan_eq jsonpStrtod hws (isSpace_of_isPunctuation hb) h hn
  rw [hrun, lexScanToken, if_pos hb]
  exact ⟨lex', rfl, hahead.stream⟩

theorem other_of_isAlpha (b : Byte) (hb : isAlpha b = .true) : isPunctuation b = .false ∧
    b ≠ quote ∧ (isDigit b || b = 0x2D) = .false ∧ isSpace b = .false := by
  revert b
  decide

theorem other_of_isNumber (b : Byte) (hb : (isDigit b || b = 0x2D) = .true) :
    isPunctuation b = .false ∧ b ≠ quote ∧ isSpace b = .false := by
  revert b
  decide

theorem isWord_of_isAlpha (b : Byte) (hb : isAlpha b = .true) : isWord b = .true := by
  rw [isWord, hb, Bool.or_true]
  rfl

theorem isWord_of_isSpace (b : Byte) (hb : isSpace b = .true) : isWord b = .false := by
  revert b
  decide

/-- An identifier is read. -/
theorem lexScanToken_alpha (hb : isAlpha b = .true) (htext : ∀ d ∈ text, isAlpha d = .true)
    (hrest : Stops isAlpha rest) (h : Ahead lex [] (b :: (text ++ rest)) bad)
    (hn : text.length < n) :
    Reads (lexScanToken jsonpStrtod n b lex) (identifierToken (b :: text)) rest bad := by
  have hother := other_of_isAlpha b hb
  obtain ⟨hgot, hahead⟩ := Ahead.getSave h
  obtain ⟨lex', hrun, hahead'⟩ := getWhile_spec htext hrest hahead hn
  obtain ⟨hstream, hsaved⟩ := hahead'.ungetUnsave
  rw [lexScanToken, hother.1, if_neg Bool.false_ne_true, if_neg hother.2.1, hother.2.2.1,
    if_neg Bool.false_ne_true, if_pos hb, hgot, hrun]
  refine ⟨_, ?_, hstream⟩
  dsimp only
  rw [hsaved]
  rfl

/-- A string is read by its own function. -/
theorem lexScanToken_quote : lexScanToken jsonpStrtod n quote lex = lexScanString n lex := by
  rw [lexScanToken, if_neg (by decide), if_pos rfl]

/-- A number is read by its own function. -/
theorem lexScanToken_number (hb : (isDigit b || b = 0x2D) = .true) :
    lexScanToken jsonpStrtod n b lex = lexScanNumber jsonpStrtod n b lex := by
  have hother := other_of_isNumber b hb
  rw [lexScanToken, hother.1, if_neg Bool.false_ne_true, if_neg hother.2.1, if_pos hb]

theorem NumberText.exists_cons {tail : List Byte} (h : NumberText text tail) :
    ∃ b text', text = b :: text' ∧ (isDigit b || b = 0x2D) = .true := by
  obtain @⟨minus, whole, fraction, exponent, hminus, hwhole, -, -⟩ := h
  cases hminus with
  | none =>
    obtain ⟨d, ds, rfl⟩ := List.exists_cons_of_ne_nil hwhole.ne_nil
    refine ⟨d, _, rfl, ?_⟩
    rw [hwhole.isDigit d List.mem_cons_self]
    rfl
  | minus => exact ⟨0x2D, _, rfl, rfl⟩

/-- An identifier behind white space is read. -/
theorem lexScan_alpha (hb : isAlpha b = .true) (htext : ∀ d ∈ text, isAlpha d = .true)
    (hws : Spaces ws) (hrest : Stops isAlpha rest)
    (h : Delivers lex.stream (ws ++ (b :: text ++ rest)) bad)
    (hn : (ws ++ b :: text).length < n) :
    Reads (lexScan jsonpStrtod n lex) (identifierToken (b :: text)) rest bad := by
  simp only [List.length_append, List.length_cons] at hn
  have hspaces : ws.length < n := by omega
  obtain ⟨lex', hahead, hrun⟩ :=
    lexScan_eq jsonpStrtod hws (other_of_isAlpha b hb).2.2.2 h hspaces
  rw [hrun]
  exact lexScanToken_alpha jsonpStrtod hb htext hrest hahead (by omega)

/-- **A token is read**, if what follows it cannot belong to it. -/
theorem lexScan_token (ht : TokenText jsonpStrtod token text) (hws : Spaces ws)
    (hrest : Stops isWord rest) (h : Delivers lex.stream (ws ++ (text ++ rest)) bad)
    (hn : (ws ++ text).length < n) : Reads (lexScan jsonpStrtod n lex) token rest bad := by
  have hlength : ws.length < n := by
    rw [List.length_append] at hn
    omega
  have halpha := hrest.imp isWord_of_isAlpha
  cases ht with
  | char hb => exact lexScan_char jsonpStrtod hws hb h hlength
  | @string text value ht =>
    rw [List.cons_append, List.append_assoc, List.singleton_append] at h
    obtain ⟨lex', hahead, hrun⟩ := lexScan_eq jsonpStrtod hws (by decide) h hlength
    rw [hrun, lexScanToken_quote]
    simp only [List.length_append, List.length_cons] at hn
    exact lexScanString_literal ht hahead (by omega)
  | @number text tail ht hvalid =>
    obtain ⟨b, text, rfl, hb⟩ := ht.exists_cons
    obtain ⟨lex', hahead, hrun⟩ :=
      lexScan_eq jsonpStrtod hws (other_of_isNumber b hb).2.2 h hlength
    rw [hrun, lexScanToken_number jsonpStrtod hb]
    rw [List.length_append] at hn
    exact lexScanNumber_text jsonpStrtod ht hrest hahead (by omega)
  | true => exact lexScan_alpha jsonpStrtod (by decide) (by decide) hws halpha h hn
  | false => exact lexScan_alpha jsonpStrtod (by decide) (by decide) hws halpha h hn
  | null => exact lexScan_alpha jsonpStrtod (by decide) (by decide) hws halpha h hn

/-- An identifier is a token, or it is refused. -/
theorem identifierToken_cases (text : List Byte) : identifierToken text = .invalid none ∨
    TokenText jsonpStrtod (identifierToken text) text := by
  rw [identifierToken]
  split_ifs with htrue hfalse hnull
  · rw [htrue]
    exact .inr .true
  · rw [hfalse]
    exact .inr .false
  · rw [hnull]
    exact .inr .null
  · exact .inl rfl

/-- **What is read**: nothing that is a token, the end of the text, or a token that stands behind
white space. -/
theorem lexScan_sound (h : Delivers lex.stream l bad) (hn : l.length + 1 < n) :
    lexScan jsonpStrtod n lex = .error .assertion ∨ Refuses (lexScan jsonpStrtod n lex) ∨
      (Spaces l ∧ bad = .false ∧ Reads (lexScan jsonpStrtod n lex) .eof [] bad) ∨
        ∃ token ws text rest, l = ws ++ (text ++ rest) ∧ Spaces ws ∧
          TokenText jsonpStrtod token text ∧ Reads (lexScan jsonpStrtod n lex) token rest bad := by
  obtain ⟨ws, l, rfl, hws, hl⟩ := exists_stops isSpace l
  rw [List.length_append] at hn
  cases l with
  | nil =>
    rw [List.append_nil] at h
    have hspaces : ws.length < n := by omega
    have heof := lexScan_eof jsonpStrtod hws h hspaces
    cases bad with
    | false =>
      refine .inr (.inr (.inl ⟨?_, rfl, heof⟩))
      rwa [List.append_nil]
    | true => exact .inr (.inl heof)
  | cons b l =>
    have hspace : isSpace b = .false := hl b rfl
    rw [List.length_cons] at hn
    have hspaces : ws.length < n := by omega
    obtain ⟨lex', hahead, hrun⟩ := lexScan_eq jsonpStrtod hws hspace h hspaces
    by_cases hpunctuation : isPunctuation b = .true
    · exact .inr (.inr (.inr ⟨.char b, ws, [b], l, rfl, hws, .char hpunctuation,
        lexScan_char jsonpStrtod hws hpunctuation h hspaces⟩))
    · by_cases hquote : b = quote
      · obtain rfl := hquote
        rw [hrun, lexScanToken_quote]
        have hlength : l.length < n := by omega
        rcases lexScanString_sound hahead hlength with
          hassertion | hrefuses | ⟨text, value, rest, rfl, ht, hreads⟩
        · exact .inl hassertion
        · exact .inr (.inl hrefuses)
        · refine .inr (.inr (.inr ⟨.string value, ws, _, rest, ?_, hws, .string ht, hreads⟩))
          rw [List.cons_append, List.append_assoc, List.singleton_append]
      · by_cases hnumber : (isDigit b || b = 0x2D) = .true
        · rw [hrun, lexScanToken_number jsonpStrtod hnumber]
          have hlength : (b :: l).length < n := by
            rw [List.length_cons]
            omega
          rcases lexScanNumber_sound jsonpStrtod hahead hlength with
            hrefuses | ⟨text, tail, rest, heq, ht, hreads⟩
          · exact .inr (.inl hrefuses)
          · by_cases hvalid : ∃ error, numberToken jsonpStrtod text tail = .invalid error
            · obtain ⟨error, herror⟩ := hvalid
              rw [herror] at hreads
              obtain ⟨lex1, hrun1, -⟩ := hreads
              exact .inr (.inl ⟨error, lex1, hrun1⟩)
            · exact .inr (.inr (.inr ⟨_, ws, text, rest, by rw [heq], hws,
                .number ht (not_exists.1 hvalid), hreads⟩))
        · by_cases halpha : isAlpha b = .true
          · obtain ⟨text, rest, rfl, htext, hrest⟩ := exists_stops isAlpha l
            rw [List.length_append] at hn
            have hlength : text.length < n := by omega
            have hreads := lexScanToken_alpha jsonpStrtod halpha htext hrest hahead hlength
            rw [← hrun] at hreads
            rcases identifierToken_cases jsonpStrtod (b :: text) with hinvalid | ht
            · rw [hinvalid] at hreads
              obtain ⟨lex1, hrun1, -⟩ := hreads
              exact .inr (.inl ⟨none, lex1, hrun1⟩)
            · exact .inr (.inr (.inr ⟨_, ws, b :: text, rest, rfl, hws, ht, hreads⟩))
          · refine .inr (.inl ⟨none, lex', ?_⟩)
            rw [hrun, lexScanToken, if_neg hpunctuation, if_neg hquote, if_neg hnumber,
              if_neg halpha]

end Jansson

end Lcm
