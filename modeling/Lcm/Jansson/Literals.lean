import Lcm.Jansson.Numbers

/-!
# Strings in a text

`lex_scan_string` first looks for the quote at the end of a string and then decodes what is before
it, into memory of the size of the text.  `l_isxdigit` is true of every byte, so the first loop does
not check the four bytes behind `\\u`, and the second one takes a letter beyond `F` for a digit.

## Main definitions

* `RawLiteral` : what the first loop takes for the inside of a string.
* `Literal` : the inside of a string, with the bytes it stands for.

## Main results

* `lexScanString_literal` : a string is read.
* `lexScanString_sound` : what is read is a string.
* `Literal.length_le` : the bytes fit into the memory.
* `Literal.isText` : they are UTF-8 again.
-/

namespace Lcm

namespace Jansson

variable {lex lex' : Lex} {l pre rest text value t : List Byte} {b : Byte} {n : ℕ} {bad : Bool}
  {token : Token}

/-- What `getString` takes for the inside of a string. -/
inductive RawLiteral : List Byte → Prop
  | nil : RawLiteral []
  | plain {b : Byte} {text : List Byte} (hquote : b ≠ quote) (hcontrol : ¬ b ≤ 0x1F)
      (hbackslash : b ≠ backslash) (h : RawLiteral text) : RawLiteral (b :: text)
  | escape {e : Byte} {text : List Byte} (he : Lex.isEscape e = .true) (h : RawLiteral text) :
    RawLiteral (backslash :: e :: text)
  | unicode {a b c d : Byte} {text : List Byte} (h : RawLiteral text) :
    RawLiteral (backslash :: 0x75 :: a :: b :: c :: d :: text)

/-- The inside of a string, and the bytes it stands for. -/
inductive Literal : List Byte → List Byte → Prop
  | nil : Literal [] []
  | plain {b : Byte} {text value : List Byte} (hquote : b ≠ quote) (hcontrol : ¬ b ≤ 0x1F)
      (hbackslash : b ≠ backslash) (h : Literal text value) : Literal (b :: text) (b :: value)
  | escape {e b : Byte} {text value : List Byte} (he : unescape e = some b)
      (h : Literal text value) : Literal (backslash :: e :: text) (b :: value)
  | unicode {a b c d : Byte} {v : ℕ} {bytes text value : List Byte}
      (hv : decodeUnicodeEscape a b c d = .ok v) (hsurrogate : ¬ (0xD800 ≤ v ∧ v ≤ 0xDFFF))
      (hzero : v ≠ 0) (hbytes : utf8Encode v = some bytes) (h : Literal text value) :
    Literal (backslash :: 0x75 :: a :: b :: c :: d :: text) (bytes ++ value)
  | pair {a b c d a' b' c' d' : Byte} {v v' : ℕ} {bytes text value : List Byte}
      (hv : decodeUnicodeEscape a b c d = .ok v) (hhigh : 0xD800 ≤ v ∧ v ≤ 0xDBFF)
      (hv' : decodeUnicodeEscape a' b' c' d' = .ok v') (hlow : 0xDC00 ≤ v' ∧ v' ≤ 0xDFFF)
      (hbytes : utf8Encode ((v - 0xD800) <<< 10 + (v' - 0xDC00) + 0x10000) = some bytes)
      (h : Literal text value) :
    Literal (backslash :: 0x75 :: a :: b :: c :: d :: backslash :: 0x75 :: a' :: b' :: c' :: d' ::
      text) (bytes ++ value)

/-! ### The first loop -/

theorem isEscape_eq (e : Byte) : Lex.isEscape e = (unescape e).isSome := by
  revert e
  decide

theorem Literal.raw (h : Literal text value) : RawLiteral text := by
  induction h with
  | nil => exact .nil
  | plain hquote hcontrol hbackslash _ ih => exact .plain hquote hcontrol hbackslash ih
  | escape he _ ih => exact .escape (by rw [isEscape_eq, he]; rfl) ih
  | unicode _ _ _ _ _ ih => exact .unicode ih
  | pair _ _ _ _ _ _ ih => exact .unicode (.unicode ih)

/-- Four bytes behind `\\u` are saved, whatever they are. -/
theorem getHex_spec (h : Delivers lex.stream l bad) :
    Delivers lex.getHex.stream (l.drop 4) bad ∧
      lex.getHex.savedText = lex.savedText ++ l.take 4 := by
  obtain ⟨-, ha⟩ := h.getSave
  obtain ⟨-, hb⟩ := ha.stream.getSave
  obtain ⟨-, hc⟩ := hb.stream.getSave
  obtain ⟨-, hd⟩ := hc.stream.getSave
  refine ⟨?_, ?_⟩
  · have htail : l.tail.tail.tail.tail = l.drop 4 := by
      simp only [← List.drop_one, List.drop_drop]
    rw [← htail]
    exact hd.stream
  · rw [Lex.getHex, hd.savedText, hc.savedText, hb.savedText, ha.savedText]
    rcases l with _ | ⟨x, _ | ⟨y, _ | ⟨z, _ | ⟨w, l⟩⟩⟩⟩ <;> simp

/-- A byte that is delivered is got and saved. -/
theorem getSave_cons (h : Delivers lex.stream (b :: l) bad) : ∃ lex',
    lex.getSave = (.byte b, lex') ∧ Delivers lex'.stream l bad ∧
      lex'.savedText = lex.savedText ++ [b] := by
  obtain ⟨hgot, hahead⟩ := h.getSave
  exact ⟨lex.getSave.2, Prod.ext hgot rfl, hahead.stream, hahead.savedText⟩

/-- **The end of a string is found.** -/
theorem getString_raw (ht : RawLiteral text) (h : Delivers lex.stream (text ++ quote :: rest) bad)
    (hn : text.length < n) : ∃ lex', Lex.getString n lex = .ok (none, lex') ∧
      Delivers lex'.stream rest bad ∧ lex'.savedText = lex.savedText ++ text ++ [quote] := by
  induction ht generalizing lex n with
  | nil =>
    obtain ⟨n, rfl⟩ := Nat.exists_eq_succ_of_ne_zero (Nat.ne_of_gt hn)
    obtain ⟨lex', hget, hstream, hsaved⟩ := getSave_cons h
    refine ⟨lex', ?_, hstream, ?_⟩
    · rw [Lex.getString, hget]
      dsimp only
      rw [if_pos rfl]
    · rw [hsaved, List.append_nil]
  | @plain b text hquote hcontrol hbackslash _ ih =>
    obtain ⟨n, rfl⟩ := Nat.exists_eq_succ_of_ne_zero (Nat.ne_of_gt (Nat.lt_of_le_of_lt
      (Nat.zero_le _) hn))
    obtain ⟨lex1, hget, hstream, hsaved⟩ := getSave_cons h
    obtain ⟨lex', hrun, hstream', hsaved'⟩ := ih hstream (Nat.lt_of_succ_lt_succ hn)
    refine ⟨lex', ?_, hstream', ?_⟩
    · rw [Lex.getString, hget]
      dsimp only
      rw [if_neg hquote, if_neg hcontrol, if_neg hbackslash]
      exact hrun
    · rw [hsaved', hsaved]
      simp
  | @escape e text he _ ih =>
    obtain ⟨n, rfl⟩ := Nat.exists_eq_succ_of_ne_zero (Nat.ne_of_gt (Nat.lt_of_le_of_lt
      (Nat.zero_le _) hn))
    obtain ⟨lex1, hget1, hstream1, hsaved1⟩ := getSave_cons h
    obtain ⟨lex2, hget2, hstream2, hsaved2⟩ := getSave_cons hstream1
    have hlength : text.length < n := by
      simp only [List.length_cons] at hn
      omega
    obtain ⟨lex', hrun, hstream', hsaved'⟩ := ih hstream2 hlength
    have hu : e ≠ 0x75 := by
      rintro rfl
      cases he
    refine ⟨lex', ?_, hstream', ?_⟩
    · rw [Lex.getString, hget1]
      dsimp only
      rw [if_neg (by decide), if_neg (by decide), if_pos rfl, hget2]
      dsimp only
      rw [if_neg hu, if_pos he]
      exact hrun
    · rw [hsaved', hsaved2, hsaved1]
      simp
  | @unicode a b c d text _ ih =>
    obtain ⟨n, rfl⟩ := Nat.exists_eq_succ_of_ne_zero (Nat.ne_of_gt (Nat.lt_of_le_of_lt
      (Nat.zero_le _) hn))
    obtain ⟨lex1, hget1, hstream1, hsaved1⟩ := getSave_cons h
    obtain ⟨lex2, hget2, hstream2, hsaved2⟩ := getSave_cons hstream1
    obtain ⟨hstream3, hsaved3⟩ := getHex_spec hstream2
    have hlength : text.length < n := by
      simp only [List.length_cons] at hn
      omega
    obtain ⟨lex', hrun, hstream', hsaved'⟩ := ih hstream3 hlength
    refine ⟨lex', ?_, hstream', ?_⟩
    · rw [Lex.getString, hget1]
      dsimp only
      rw [if_neg (by decide), if_neg (by decide), if_pos rfl, hget2]
      dsimp only
      rw [if_pos rfl]
      exact hrun
    · rw [hsaved', hsaved3, hsaved2, hsaved1]
      simp

theorem exists_invalid_of_ending (h : Delivers lex.stream [] bad) :
    ∃ error lex', Lex.getString (n + 1) lex = .ok (some (.invalid error), lex') := by
  obtain ⟨hgot, -⟩ := h.getSave
  have hget : lex.getSave = (ending bad, lex.getSave.2) := Prod.ext hgot rfl
  rw [Lex.getString, hget]
  cases bad with
  | false => exact ⟨_, _, rfl⟩
  | true => exact ⟨_, _, rfl⟩

/-- **The end of a string is found**, or the string is refused. -/
theorem getString_sound (h : Delivers lex.stream l bad) (hn : l.length < n) :
    (∃ error lex', Lex.getString n lex = .ok (some (.invalid error), lex')) ∨
      ∃ text rest, l = text ++ quote :: rest ∧ RawLiteral text := by
  induction n generalizing lex l with
  | zero => exact absurd hn (Nat.not_lt_zero _)
  | succ n ih =>
    cases l with
    | nil => exact .inl (exists_invalid_of_ending h)
    | cons b l =>
      obtain ⟨lex1, hget1, hstream1, -⟩ := getSave_cons h
      by_cases hquote : b = quote
      · exact .inr ⟨[], l, by rw [hquote]; rfl, .nil⟩
      · rw [Lex.getString, hget1]
        dsimp only
        rw [if_neg hquote]
        by_cases hcontrol : b ≤ 0x1F
        · rw [if_pos hcontrol]
          exact .inl ⟨_, _, rfl⟩
        · rw [if_neg hcontrol]
          by_cases hbackslash : b = backslash
          · rw [if_pos hbackslash]
            obtain rfl := hbackslash
            cases l with
            | nil =>
              obtain ⟨hgot, -⟩ := hstream1.getSave
              have hget2 : lex1.getSave = (ending bad, lex1.getSave.2) := Prod.ext hgot rfl
              rw [hget2]
              cases bad with
              | false => exact .inl ⟨_, _, rfl⟩
              | true => exact .inl ⟨_, _, rfl⟩
            | cons e l =>
              obtain ⟨lex2, hget2, hstream2, -⟩ := getSave_cons hstream1
              rw [hget2]
              dsimp only
              by_cases hu : e = 0x75
              · rw [if_pos hu]
                obtain rfl := hu
                have hlength : (l.drop 4).length < n := by
                  rw [List.length_drop]
                  simp only [List.length_cons] at hn
                  omega
                rcases ih (getHex_spec hstream2).1 hlength with hinvalid | ⟨text, rest, hl, ht⟩
                · exact .inl hinvalid
                · rcases l with _ | ⟨x, _ | ⟨y, _ | ⟨z, _ | ⟨w, l⟩⟩⟩⟩
                  any_goals exact absurd hl.symm (List.append_ne_nil_of_right_ne_nil _
                    (List.cons_ne_nil _ _))
                  refine .inr ⟨backslash :: 0x75 :: x :: y :: z :: w :: text, rest, ?_, .unicode ht⟩
                  have hdrop : l = text ++ quote :: rest := hl
                  rw [hdrop]
                  rfl
              · rw [if_neg hu]
                by_cases he : Lex.isEscape e = .true
                · rw [if_pos he]
                  have hlength : l.length < n := by
                    simp only [List.length_cons] at hn
                    omega
                  rcases ih hstream2 hlength with hinvalid | ⟨text, rest, rfl, ht⟩
                  · exact .inl hinvalid
                  · exact .inr ⟨backslash :: e :: text, rest, rfl, .escape he ht⟩
                · rw [if_neg he]
                  exact .inl ⟨_, _, rfl⟩
          · rw [if_neg hbackslash]
            rcases ih hstream1 (Nat.lt_of_succ_lt_succ hn) with hinvalid | ⟨text, rest, rfl, ht⟩
            · exact .inl hinvalid
            · exact .inr ⟨b :: text, rest, rfl, .plain hquote hcontrol hbackslash ht⟩

/-! ### The second loop -/

/-- What an escape stands for, with what is behind it. -/
theorem decodeUnicode_cons {a c d e : Byte} {v : ℕ} (hv : decodeUnicodeEscape a c d e = .ok v)
    (hsurrogate : ¬ (0xD800 ≤ v ∧ v ≤ 0xDFFF)) (hzero : v ≠ 0) :
    decodeUnicode (a :: c :: d :: e :: l) = .ok (.ok (v, l)) := by
  rw [decodeUnicode, hv]
  dsimp only
  rw [if_neg (by omega), if_neg (by omega), if_neg hzero]

/-- What two escapes stand for, which are the halves of a surrogate pair. -/
theorem decodeUnicode_pair {a c d e a' c' d' e' : Byte} {v v' : ℕ}
    (hv : decodeUnicodeEscape a c d e = .ok v) (hhigh : 0xD800 ≤ v ∧ v ≤ 0xDBFF)
    (hv' : decodeUnicodeEscape a' c' d' e' = .ok v') (hlow : 0xDC00 ≤ v' ∧ v' ≤ 0xDFFF) :
    decodeUnicode (a :: c :: d :: e :: backslash :: 0x75 :: a' :: c' :: d' :: e' :: l) =
      .ok (.ok ((v - 0xD800) <<< 10 + (v' - 0xDC00) + 0x10000, l)) := by
  rw [decodeUnicode, hv]
  dsimp only
  rw [if_pos hhigh, if_pos ⟨rfl, rfl⟩, hv']
  dsimp only
  rw [if_pos hlow]

theorem decodeString_plain (hquote : b ≠ quote) (hbackslash : b ≠ backslash) :
    decodeString (n + 1) t (b :: l) = decodeString n (t ++ [b]) l := by
  rw [decodeString, if_neg hquote, if_neg hbackslash]

theorem decodeEscape_of_unescape {e : Byte} (he : unescape e = some b) :
    decodeEscape (e :: l) = .ok (.ok ([b], l)) := by
  have hu : e ≠ 0x75 := by
    rintro rfl
    cases he
  rw [decodeEscape, if_neg hu, he]

theorem decodeEscape_of_unicode {l' : List Byte} {v : ℕ} {bytes : List Byte}
    (hv : decodeUnicode l = .ok (.ok (v, l'))) (hbytes : utf8Encode v = some bytes) :
    decodeEscape (0x75 :: l) = .ok (.ok (bytes, l')) := by
  rw [decodeEscape, if_pos rfl, hv]
  dsimp only
  rw [hbytes]

theorem decodeString_escape {l' bytes : List Byte} (h : decodeEscape l = .ok (.ok (bytes, l'))) :
    decodeString (n + 1) t (backslash :: l) = decodeString n (t ++ bytes) l' := by
  rw [decodeString, if_neg (by decide), if_pos rfl, h]

/-- **A string is decoded.** -/
theorem decodeString_literal (h : Literal text value) (hn : text.length < n) :
    decodeString n t (text ++ [quote]) = .ok (.string (t ++ value)) := by
  obtain ⟨n, rfl⟩ := Nat.exists_eq_succ_of_ne_zero (Nat.ne_of_gt (Nat.lt_of_le_of_lt
    (Nat.zero_le _) hn))
  induction h generalizing t n with
  | nil =>
    rw [List.nil_append, decodeString, List.append_nil]
    exact if_pos rfl
  | plain hquote hcontrol hbackslash _ ih =>
    obtain ⟨n, rfl⟩ := Nat.exists_eq_succ_of_ne_zero (Nat.ne_of_gt (Nat.lt_of_le_of_lt
      (Nat.zero_le _) (Nat.lt_of_succ_lt_succ hn)))
    rw [List.cons_append, decodeString_plain hquote hbackslash,
      ih n (Nat.lt_of_succ_lt_succ hn), List.append_assoc]
    rfl
  | escape he _ ih =>
    simp only [List.length_cons] at hn
    obtain ⟨n, rfl⟩ : ∃ k, n = k + 1 := ⟨n - 1, by omega⟩
    rw [List.cons_append, List.cons_append, decodeString_escape (decodeEscape_of_unescape he),
      ih n (by omega), List.append_assoc]
    rfl
  | unicode hv hsurrogate hzero hbytes _ ih =>
    simp only [List.length_cons] at hn
    obtain ⟨n, rfl⟩ : ∃ k, n = k + 1 := ⟨n - 1, by omega⟩
    simp only [List.cons_append]
    rw [decodeString_escape (decodeEscape_of_unicode (decodeUnicode_cons hv hsurrogate hzero)
      hbytes), ih n (by omega), List.append_assoc]
  | pair hv hhigh hv' hlow hbytes _ ih =>
    simp only [List.length_cons] at hn
    obtain ⟨n, rfl⟩ : ∃ k, n = k + 1 := ⟨n - 1, by omega⟩
    simp only [List.cons_append]
    rw [decodeString_escape (decodeEscape_of_unicode (decodeUnicode_pair hv hhigh hv' hlow) hbytes),
      ih n (by omega), List.append_assoc]

theorem decodeUnicodeEscape_eq_error {a c d e : Byte} {error : LoadError}
    (h : decodeUnicodeEscape a c d e = .error error) : error = .assertion := by
  rw [decodeUnicodeEscape] at h
  split at h
  · cases h
  · exact (Except.error.inj h).symm

theorem exists_utf8Encode {v : ℕ} (h : v ≤ 0x10FFFF) : ∃ bytes, utf8Encode v = some bytes := by
  rw [utf8Encode]
  split_ifs
  all_goals exact ⟨_, rfl⟩

/-- The letters up to `Z` count as digits. -/
theorem escapeDigit_spec {a : Byte} {x : ℕ} (h : escapeDigit a = some x) :
    x < 36 ∧ a ≠ 0 ∧ a.toNat < 0x80 := by
  have hall : ∀ a : Byte, (escapeDigit a).all (· < 36) = .true ∧
      ((escapeDigit a).isSome = .true → a ≠ 0 ∧ a.toNat < 0x80) := by
    decide
  obtain ⟨hlt, hascii⟩ := hall a
  rw [h] at hlt hascii
  exact ⟨of_decide_eq_true hlt, hascii rfl⟩

theorem decodeUnicodeEscape_eq_ok {a c d e : Byte} {v : ℕ}
    (hv : decodeUnicodeEscape a c d e = .ok v) : ∃ w x y z, escapeDigit a = some w ∧
      escapeDigit c = some x ∧ escapeDigit d = some y ∧ escapeDigit e = some z ∧
        v = ((w * 16 + x) * 16 + y) * 16 + z := by
  rw [decodeUnicodeEscape] at hv
  split at hv
  next w x y z ha hc hd he =>
    refine ⟨w, x, y, z, ha, hc, hd, he, ?_⟩
    obtain rfl := Except.ok.inj hv
    simp only [Nat.shiftLeft_eq]
  next => cases hv

theorem decodeUnicodeEscape_le {a c d e : Byte} {v : ℕ} (hv : decodeUnicodeEscape a c d e = .ok v) :
    v ≤ 0x10FFFF := by
  obtain ⟨w, x, y, z, ha, hc, hd, he, rfl⟩ := decodeUnicodeEscape_eq_ok hv
  have hw := (escapeDigit_spec ha).1
  have hx := (escapeDigit_spec hc).1
  have hy := (escapeDigit_spec hd).1
  have hz := (escapeDigit_spec he).1
  omega

/-- The first half of a surrogate pair is refused without the second one. -/
theorem decodeUnicode_alone {a c d e : Byte} {v : ℕ} (hv : decodeUnicodeEscape a c d e = .ok v)
    (hhigh : 0xD800 ≤ v ∧ v ≤ 0xDBFF) (hl : ∀ l', l ≠ backslash :: 0x75 :: l') :
    ∃ error, decodeUnicode (a :: c :: d :: e :: l) = .ok (.error error) := by
  rw [decodeUnicode, hv]
  dsimp only
  rw [if_pos hhigh]
  split
  · rw [if_neg]
    · exact ⟨_, rfl⟩
    · rintro ⟨rfl, rfl⟩
      exact hl _ rfl
  · exact ⟨_, rfl⟩

theorem decodeEscape_eq {error : LoadError} (h : decodeUnicode l = .error error) :
    decodeEscape (0x75 :: l) = .error error := by
  rw [decodeEscape, if_pos rfl, h]

theorem decodeEscape_eq_ok_error {error : String} (h : decodeUnicode l = .ok (.error error)) :
    decodeEscape (0x75 :: l) = .ok (.error error) := by
  rw [decodeEscape, if_pos rfl, h]

/-- A pair of escapes, of which the first one is the first half of a surrogate pair. -/
theorem decodeUnicode_second {a c d e : Byte} {v : ℕ} (a' c' d' e' : Byte) (l : List Byte)
    (hv : decodeUnicodeEscape a c d e = .ok v) (hhigh : 0xD800 ≤ v ∧ v ≤ 0xDBFF) :
    let result := decodeUnicode (a :: c :: d :: e :: backslash :: 0x75 :: a' :: c' :: d' :: e' :: l)
    result = .error .assertion ∨ (∃ error, result = .ok (.error error)) ∨
      ∃ v', decodeUnicodeEscape a' c' d' e' = .ok v' ∧ 0xDC00 ≤ v' ∧ v' ≤ 0xDFFF := by
  cases hv' : decodeUnicodeEscape a' c' d' e' with
  | error error =>
    refine .inl ?_
    rw [decodeUnicode, hv]
    dsimp only
    rw [if_pos hhigh, if_pos ⟨rfl, rfl⟩, hv', decodeUnicodeEscape_eq_error hv']
  | ok v' =>
    by_cases hlow : 0xDC00 ≤ v' ∧ v' ≤ 0xDFFF
    · exact .inr (.inr ⟨v', rfl, hlow⟩)
    · refine .inr (.inl ?_)
      rw [decodeUnicode, hv]
      dsimp only
      rw [if_pos hhigh, if_pos ⟨rfl, rfl⟩, hv']
      dsimp only
      rw [if_neg hlow]
      exact ⟨_, rfl⟩

/-- One escape, or a surrogate pair. -/
theorem decodeEscape_sound (h : RawLiteral (backslash :: l)) :
    decodeEscape (l ++ [quote]) = .error .assertion ∨
      (∃ error, decodeEscape (l ++ [quote]) = .ok (.error error)) ∨
        ∃ bytes l', decodeEscape (l ++ [quote]) = .ok (.ok (bytes, l' ++ [quote])) ∧
          RawLiteral l' ∧ l'.length < l.length ∧
            ∀ value, Literal l' value → Literal (backslash :: l) (bytes ++ value) := by
  cases h with
  | plain hquote hcontrol hbackslash _ => exact absurd rfl hbackslash
  | @escape e text he ht =>
    rw [isEscape_eq, Option.isSome_iff_exists] at he
    obtain ⟨b, hb⟩ := he
    exact .inr (.inr ⟨[b], text, decodeEscape_of_unescape hb, ht, Nat.lt_succ_self _,
      fun value hvalue => .escape hb hvalue⟩)
  | @unicode a c d e text ht =>
    simp only [List.cons_append]
    cases hv : decodeUnicodeEscape a c d e with
    | error error =>
      refine .inl (decodeEscape_eq ?_)
      rw [decodeUnicode, hv, decodeUnicodeEscape_eq_error hv]
    | ok v =>
      by_cases hhigh : 0xD800 ≤ v ∧ v ≤ 0xDBFF
      · cases ht with
        | nil =>
          obtain ⟨error, herror⟩ := decodeUnicode_alone (l := [] ++ [quote]) hv hhigh (by simp)
          exact .inr (.inl ⟨error, decodeEscape_eq_ok_error herror⟩)
        | @plain b text hquote hcontrol hbackslash _ =>
          have hl : ∀ l', b :: text ++ [quote] ≠ backslash :: 0x75 :: l' := by
            intro l' heq
            exact hbackslash (List.cons.inj heq).1
          obtain ⟨error, herror⟩ := decodeUnicode_alone hv hhigh hl
          exact .inr (.inl ⟨error, decodeEscape_eq_ok_error herror⟩)
        | @escape x text hx _ =>
          have hl : ∀ l', backslash :: x :: text ++ [quote] ≠ backslash :: 0x75 :: l' := by
            intro l' heq
            obtain ⟨rfl, -⟩ := List.cons.inj (List.cons.inj heq).2
            cases hx
          obtain ⟨error, herror⟩ := decodeUnicode_alone hv hhigh hl
          exact .inr (.inl ⟨error, decodeEscape_eq_ok_error herror⟩)
        | @unicode a' c' d' e' text ht =>
          rcases decodeUnicode_second a' c' d' e' (text ++ [quote]) hv hhigh with
            hassertion | ⟨error, herror⟩ | ⟨v', hv', hlow⟩
          · exact .inl (decodeEscape_eq hassertion)
          · exact .inr (.inl ⟨error, decodeEscape_eq_ok_error herror⟩)
          · obtain ⟨bytes, hbytes⟩ := exists_utf8Encode (v := (v - 0xD800) <<< 10 +
              (v' - 0xDC00) + 0x10000) (by rw [Nat.shiftLeft_eq]; omega)
            refine .inr (.inr ⟨bytes, text, decodeEscape_of_unicode (decodeUnicode_pair hv hhigh hv'
              hlow) hbytes, ht, ?_, fun value hvalue => .pair hv hhigh hv' hlow hbytes hvalue⟩)
            simp only [List.length_cons]
            omega
      · by_cases hlow : 0xDC00 ≤ v ∧ v ≤ 0xDFFF
        · refine .inr (.inl ⟨s!"invalid Unicode '\\u{hexWord v}'", decodeEscape_eq_ok_error ?_⟩)
          rw [decodeUnicode, hv]
          dsimp only
          rw [if_neg hhigh, if_pos hlow]
        · by_cases hzero : v = 0
          · refine .inr (.inl ⟨"\\u0000 is not allowed", decodeEscape_eq_ok_error ?_⟩)
            rw [decodeUnicode, hv]
            dsimp only
            rw [if_neg hhigh, if_neg hlow, if_pos hzero]
          · obtain ⟨bytes, hbytes⟩ := exists_utf8Encode (decodeUnicodeEscape_le hv)
            have hsurrogate : ¬ (0xD800 ≤ v ∧ v ≤ 0xDFFF) := by omega
            refine .inr (.inr ⟨bytes, text, decodeEscape_of_unicode (decodeUnicode_cons hv
              hsurrogate hzero) hbytes, ht, ?_, fun value hvalue => .unicode hv hsurrogate hzero
                hbytes hvalue⟩)
            simp only [List.length_cons]
            omega

/-- **A string is decoded**, or it is refused, or there are other bytes behind `\\u` than letters
and digits. -/
theorem decodeString_sound (h : RawLiteral text) (hn : text.length < n) :
    decodeString n t (text ++ [quote]) = .error .assertion ∨
      (∃ error, decodeString n t (text ++ [quote]) = .ok (.invalid error)) ∨
        ∃ value, Literal text value ∧
          decodeString n t (text ++ [quote]) = .ok (.string (t ++ value)) := by
  induction n generalizing text t with
  | zero => exact absurd hn (Nat.not_lt_zero _)
  | succ n ih =>
    rcases text with _ | ⟨b, l⟩
    · refine .inr (.inr ⟨[], .nil, ?_⟩)
      rw [List.append_nil]
      exact decodeString_literal .nil hn |>.trans (by rw [List.append_nil])
    · have hquote : b ≠ quote := by
        rintro rfl
        cases h with
        | plain hquote _ _ _ => exact hquote rfl
      simp only [List.length_cons] at hn
      by_cases hbackslash : b = backslash
      · obtain rfl := hbackslash
        rcases decodeEscape_sound h with hassertion | ⟨error, herror⟩ |
          ⟨bytes, l', hbytes, hl', hlength, hliteral⟩
        · refine .inl ?_
          rw [List.cons_append, decodeString, if_neg (by decide), if_pos rfl, hassertion]
        · refine .inr (.inl ⟨error, ?_⟩)
          rw [List.cons_append, decodeString, if_neg (by decide), if_pos rfl, herror]
        · rw [List.cons_append, decodeString_escape hbytes]
          rcases ih (t := t ++ bytes) hl' (by omega) with
            hassertion | herror | ⟨value, hvalue, hrun⟩
          · exact .inl hassertion
          · exact .inr (.inl herror)
          · rw [List.append_assoc] at hrun
            exact .inr (.inr ⟨bytes ++ value, hliteral value hvalue, hrun⟩)
      · obtain ⟨hcontrol, hl⟩ : ¬ b ≤ 0x1F ∧ RawLiteral l := by
          cases h with
          | plain _ hcontrol _ hl => exact ⟨hcontrol, hl⟩
          | escape _ _ => exact absurd rfl hbackslash
          | unicode _ => exact absurd rfl hbackslash
        rw [List.cons_append, decodeString_plain hquote hbackslash]
        rcases ih (t := t ++ [b]) hl (by omega) with hassertion | herror | ⟨value, hvalue, hrun⟩
        · exact .inl hassertion
        · exact .inr (.inl herror)
        · rw [List.append_assoc] at hrun
          exact .inr (.inr ⟨b :: value, .plain hquote hcontrol hbackslash hvalue, hrun⟩)

/-! ### The analyzer -/

/-- **A string is read.** -/
theorem lexScanString_literal (ht : Literal text value)
    (h : Ahead lex [] (quote :: (text ++ quote :: rest)) bad) (hn : text.length < n) :
    Reads (lexScanString n lex) (.string value) rest bad := by
  have hsaved : lex.savedText = [quote] := h.savedText
  obtain ⟨lex', hrun, hstream, hsaved'⟩ := getString_raw ht.raw h.stream hn
  replace hsaved' : lex'.savedText = quote :: (text ++ [quote]) := by
    rw [hsaved', hsaved]
    rfl
  refine ⟨lex', ?_, hstream⟩
  have hdecode : decodeString lex'.savedText.length [] (lex'.savedText.drop 1) =
      .ok (.string value) := by
    rw [hsaved']
    refine decodeString_literal ht ?_
    simp only [List.length_cons, List.length_append]
    omega
  rw [lexScanString, hrun]
  dsimp only
  rw [hdecode]

/-- **A string is read**, or it is refused. -/
theorem lexScanString_sound (h : Ahead lex [] (quote :: l) bad) (hn : l.length < n) :
    lexScanString n lex = .error .assertion ∨ Refuses (lexScanString n lex) ∨
      ∃ text value rest, l = text ++ quote :: rest ∧ Literal text value ∧
        Reads (lexScanString n lex) (.string value) rest bad := by
  rcases getString_sound h.stream hn with ⟨error, lex', hrun⟩ | ⟨text, rest, rfl, ht⟩
  · refine .inr (.inl ⟨error, lex', ?_⟩)
    rw [lexScanString, hrun]
  · have hlength : text.length < n := by
      rw [List.length_append] at hn
      omega
    have hsaved : lex.savedText = [quote] := h.savedText
    obtain ⟨lex', hrun, hstream, hsaved'⟩ := getString_raw ht h.stream hlength
    replace hsaved' : lex'.savedText = quote :: (text ++ [quote]) := by
      rw [hsaved', hsaved]
      rfl
    have hdrop : lex'.savedText.drop 1 = text ++ [quote] := by
      rw [hsaved']
      rfl
    have hfuel : text.length < lex'.savedText.length := by
      rw [hsaved']
      simp only [List.length_cons, List.length_append]
      omega
    rcases decodeString_sound (t := []) ht hfuel with hassertion | ⟨error, herror⟩ |
      ⟨value, hvalue, -⟩
    · refine .inl ?_
      rw [lexScanString, hrun]
      dsimp only
      rw [hdrop, hassertion]
    · refine .inr (.inl ⟨error, lex', ?_⟩)
      rw [lexScanString, hrun]
      dsimp only
      rw [hdrop, herror]
    · exact .inr (.inr ⟨text, value, rest, rfl, hvalue, lexScanString_literal hvalue h hlength⟩)

/-! ### The bytes -/

theorem length_utf8Encode_le {v : ℕ} {bytes : List Byte} (h : utf8Encode v = some bytes) :
    bytes.length ≤ 4 := by
  rw [utf8Encode] at h
  split_ifs at h
  all_goals
    obtain rfl := Option.some.inj h
    simp

/-- **The bytes fit into the memory**, which has room for the text and a terminator. -/
theorem Literal.length_le (h : Literal text value) : value.length ≤ text.length := by
  induction h with
  | nil => exact Nat.le_refl 0
  | plain _ _ _ _ ih => exact Nat.succ_le_succ ih
  | escape _ _ ih => exact Nat.le_succ_of_le (Nat.succ_le_succ ih)
  | unicode _ _ _ hbytes _ ih =>
    have hlength := length_utf8Encode_le hbytes
    simp only [List.length_append, List.length_cons]
    omega
  | pair _ _ _ _ hbytes _ ih =>
    have hlength := length_utf8Encode_le hbytes
    simp only [List.length_append, List.length_cons]
    omega

theorem Literal.of_cons (hb : b ≠ backslash) (h : Literal (b :: l) value) :
    ∃ value', value = b :: value' ∧ Literal l value' := by
  cases h with
  | plain _ _ _ h => exact ⟨_, rfl, h⟩
  | escape _ _ => exact absurd rfl hb
  | unicode _ _ _ _ _ => exact absurd rfl hb
  | pair _ _ _ _ _ _ => exact absurd rfl hb

/-- Bytes that are copied one by one. -/
theorem Literal.of_append {bytes : List Byte} (hbytes : ∀ b ∈ bytes, 0x80 ≤ b.toNat)
    (h : Literal (bytes ++ text) value) :
    ∃ value', value = bytes ++ value' ∧ Literal text value' := by
  induction bytes generalizing value with
  | nil => exact ⟨value, rfl, h⟩
  | cons b bytes ih =>
    have hb : b ≠ backslash := by
      rintro rfl
      exact absurd (hbytes backslash List.mem_cons_self) (by decide)
    obtain ⟨value1, rfl, h1⟩ := Literal.of_cons hb h
    obtain ⟨value', rfl, hvalue⟩ := ih (fun b hb => hbytes b (List.mem_cons_of_mem _ hb)) h1
    exact ⟨value', rfl, hvalue⟩

theorem isText_of_ascii_cons (hne : b ≠ 0) (hb : b.toNat < 0x80) (h : IsText l) :
    IsText (b :: l) := by
  have hone : IsText [b] := by
    refine isText_of_ascii ?_
    intro b' hb'
    obtain rfl := List.mem_singleton.1 hb'
    exact ⟨hne, hb⟩
  exact hone.append h

theorem IsText.of_cons (hb : b.toNat < 0x80) (h : IsText (b :: l)) : IsText l :=
  (isText_of_append_cons (l := []) hb h).2

theorem unescape_spec {e : Byte} (h : unescape e = some b) :
    e.toNat < 0x80 ∧ b ≠ 0 ∧ b.toNat < 0x80 := by
  have hall : ∀ e : Byte, (unescape e).all (fun b => e.toNat < 0x80 ∧ b ≠ 0 ∧ b.toNat < 0x80) =
      .true := by
    decide
  have he := hall e
  rw [h] at he
  exact of_decide_eq_true he

theorem isText_of_utf8Encode {v : ℕ} {bytes : List Byte} (h : utf8Encode v = some bytes)
    (hmax : v ≤ 0x10FFFF) (hsurrogate : ¬ (0xD800 ≤ v ∧ v ≤ 0xDFFF)) (hzero : v ≠ 0) :
    IsText bytes := by
  obtain ⟨c, rfl⟩ := exists_toNat hmax hsurrogate
  rw [utf8Encode_toNat] at h
  obtain rfl := Option.some.inj h
  refine ⟨[c], ?_, ?_⟩
  · rw [List.mem_singleton]
    rintro rfl
    exact hzero rfl
  · rw [encodeChars_cons, encodeChars, List.flatMap_nil, List.append_nil]

/-- Behind an escape there is a text again. -/
theorem IsText.of_escape {a c d e : Byte} {v : ℕ} (hv : decodeUnicodeEscape a c d e = .ok v)
    (h : IsText (backslash :: 0x75 :: a :: c :: d :: e :: l)) : IsText l := by
  obtain ⟨w, x, y, z, ha, hc, hd, he, -⟩ := decodeUnicodeEscape_eq_ok hv
  have ha' := (escapeDigit_spec ha).2.2
  have hc' := (escapeDigit_spec hc).2.2
  have hd' := (escapeDigit_spec hd).2.2
  have he' := (escapeDigit_spec he).2.2
  exact (((((h.of_cons (by decide)).of_cons (by decide)).of_cons ha').of_cons hc').of_cons
    hd').of_cons he'

/-- **The bytes of a string are UTF-8**, if its text is. -/
theorem Literal.isText (h : Literal text value) (ht : IsText text) : IsText value := by
  induction hn : text.length using Nat.strong_induction_on generalizing text value with
  | _ n ih =>
    cases h with
    | nil => exact isText_nil
    | @plain b text value hquote hcontrol hbackslash h =>
      simp only [List.length_cons] at hn
      obtain ⟨cs, hcs, heq⟩ := id ht
      cases cs with
      | nil => cases heq
      | cons c cs =>
        rw [encodeChars_cons] at heq
        by_cases hsmall : c.toNat < 0x80
        · rw [encodeChar_one hsmall, List.singleton_append, List.cons.injEq] at heq
          obtain ⟨rfl, -⟩ := heq
          have hascii : (BitVec.ofNat 8 c.toNat).toNat < 0x80 := by
            rw [toNat_ofNat_byte (by omega)]
            exact hsmall
          have hne : BitVec.ofNat 8 c.toNat ≠ 0 := by
            intro hzero
            exact hcontrol (hzero ▸ by decide)
          exact isText_of_ascii_cons hne hascii (ih _ (by omega) h (ht.of_cons hascii) rfl)
        · obtain ⟨u, bytes, hbytes, -⟩ := exists_encodeChar c
          have hlarge := Nat.not_lt.1 hsmall
          rw [hbytes, List.cons_append, List.cons.injEq] at heq
          obtain ⟨rfl, rfl⟩ := heq
          obtain ⟨value', rfl, hvalue⟩ := Literal.of_append (fun x hx => le_of_mem_encodeChar hlarge
            (hbytes ▸ List.mem_cons_of_mem _ hx)) h
          have hlength : (encodeChars cs).length < n := by
            rw [List.length_append] at hn
            omega
          have htext : IsText (encodeChars cs) :=
            ⟨cs, fun hmem => hcs (List.mem_cons_of_mem _ hmem), rfl⟩
          have hchar : IsText (encodeChar c) := by
            refine ⟨[c], ?_, ?_⟩
            · rw [List.mem_singleton]
              rintro rfl
              exact hcs List.mem_cons_self
            · rw [encodeChars_cons, encodeChars, List.flatMap_nil, List.append_nil]
          rw [← List.cons_append, ← hbytes]
          exact hchar.append (ih _ hlength hvalue htext rfl)
    | @escape e b text value he h =>
      simp only [List.length_cons] at hn
      obtain ⟨hascii, hne, hb⟩ := unescape_spec he
      exact isText_of_ascii_cons hne hb
        (ih _ (by omega) h ((ht.of_cons (by decide)).of_cons hascii) rfl)
    | @unicode a c d e v bytes text value hv hsurrogate hzero hbytes h =>
      simp only [List.length_cons] at hn
      exact (isText_of_utf8Encode hbytes (decodeUnicodeEscape_le hv) hsurrogate hzero).append
        (ih _ (by omega) h (ht.of_escape hv) rfl)
    | @pair a c d e a' c' d' e' v v' bytes text value hv hhigh hv' hlow hbytes h =>
      simp only [List.length_cons] at hn
      rw [Nat.shiftLeft_eq] at hbytes
      exact (isText_of_utf8Encode hbytes (by omega) (by omega) (by omega)).append
        (ih _ (by omega) h ((ht.of_escape hv).of_escape hv') rfl)

end Jansson

end Lcm
