import Lcm.Jansson.Syntax

/-!
# Values that are written and read again

What `json_dumps` writes is a text that can be derived, for all layouts, so `json_loads` reads the
same value again.  The strings of such a value have no terminator in them, and its members have
different names; so it is for all values that `json_loads` has made.

How a real number is written and read is a parameter; it is enough that its text is that of a real
number, and that it is read as the same one.

## Main definitions

* `Loadable` : a value that `json_loads` can make.

## Main results

* `jsonLoadsText_jsonDumps` : a value is read again.
* `loadable_of_jsonLoadsText` : what has been read is such a value.
* `jsonLoadsText_jsonDumps_of_jsonLoadsText` : a text is read, written, and read as the same value
  again.
-/

namespace Lcm

namespace Jansson

variable {l rest text value : List Byte} {b : Byte} {n k : ℕ} {c : Char}

/-! ### Strings -/

theorem escapeDigit_hexDigit (h : k < 16) : escapeDigit (hexDigit k) = some k := by
  have hall : ∀ k : Fin 16, escapeDigit (hexDigit k) = some k.val := by
    decide
  exact hall ⟨k, h⟩

/-- **Four digits are read again.** -/
theorem decodeUnicodeEscape_hexDigit (h : n < 0x10000) :
    decodeUnicodeEscape (hexDigit (n / 4096 % 16)) (hexDigit (n / 256 % 16))
      (hexDigit (n / 16 % 16)) (hexDigit (n % 16)) = .ok n := by
  rw [decodeUnicodeEscape, escapeDigit_hexDigit (by omega), escapeDigit_hexDigit (by omega),
    escapeDigit_hexDigit (by omega), escapeDigit_hexDigit (by omega)]
  dsimp only
  simp only [Nat.shiftLeft_eq]
  congr 1
  omega

/-- The halves of a surrogate pair. -/
theorem surrogates_eq {m : ℕ} (h : m < 2 ^ 20) :
    0xD800 ||| (m &&& 0xFFC00) >>> 10 = 0xD800 + m / 1024 ∧
      0xDC00 ||| (m &&& 0x3FF) = 0xDC00 + m % 1024 := by
  have hhigh : (m &&& 0xFFC00) >>> 10 = m / 1024 % 1024 := and_shiftRight m 10 10
  have hlow : m &&& 0x3FF = m % 1024 := Nat.and_two_pow_sub_one_eq_mod m 10
  have hmod : m / 1024 % 1024 = m / 1024 := by omega
  have hhigh' := Nat.two_pow_add_eq_or_of_lt (i := 10) (b := m / 1024) (by omega) 54
  have hlow' := Nat.two_pow_add_eq_or_of_lt (i := 10) (b := m % 1024) (by omega) 55
  rw [hhigh, hlow, hmod]
  exact ⟨hhigh'.symm, hlow'.symm⟩

/-- A character with an escape of its own. -/
theorem literal_escape {e : Byte} (hc : c.toNat = k) (hk : k < 0x80)
    (he : unescape e = some (BitVec.ofNat 8 k)) (h : Literal text value) :
    Literal ([backslash, e] ++ text) (encodeChar c ++ value) := by
  rw [encodeChar_one (hc ▸ hk), hc]
  exact .escape he h

/-- **A character that is escaped** is read again. -/
theorem literal_escape_append (hc : c ≠ Char.ofNat 0) (h : Literal text value) :
    Literal (escape c.toNat ++ text) (encodeChar c ++ value) := by
  have hzero : c.toNat ≠ 0 := by
    intro heq
    exact hc (Char.ext (UInt32.toNat_inj.1 heq))
  have hmax := toNat_le c
  rw [escape]
  split_ifs with h1 h2 h3 h4 h5 h6 h7 h8
  · exact literal_escape h1 (by decide) (by decide) h
  · exact literal_escape h2 (by decide) (by decide) h
  · exact literal_escape h3 (by decide) (by decide) h
  · exact literal_escape h4 (by decide) (by decide) h
  · exact literal_escape h5 (by decide) (by decide) h
  · exact literal_escape h6 (by decide) (by decide) h
  · exact literal_escape h7 (by decide) (by decide) h
  · exact .unicode (decodeUnicodeEscape_hexDigit h8) (not_surrogate c) hzero (utf8Encode_toNat c) h
  · dsimp only
    obtain ⟨hhigh, hlow⟩ := surrogates_eq (m := c.toNat - 0x10000) (by omega)
    have hvalue : (0xD800 + (c.toNat - 0x10000) / 1024 - 0xD800) <<< 10 +
        (0xDC00 + (c.toNat - 0x10000) % 1024 - 0xDC00) + 0x10000 = c.toNat := by
      rw [Nat.shiftLeft_eq]
      omega
    rw [hhigh, hlow]
    refine .pair (decodeUnicodeEscape_hexDigit (by omega)) (by omega)
      (decodeUnicodeEscape_hexDigit (by omega)) (by omega) ?_ h
    rw [hvalue]
    exact utf8Encode_toNat c

/-- Bytes that are copied. -/
theorem literal_append {bytes : List Byte}
    (hbytes : ∀ b ∈ bytes, b ≠ quote ∧ ¬ b ≤ 0x1F ∧ b ≠ backslash) (h : Literal text value) :
    Literal (bytes ++ text) (bytes ++ value) := by
  induction bytes with
  | nil => exact h
  | cons b bytes ih =>
    obtain ⟨hquote, hcontrol, hbackslash⟩ := hbytes b List.mem_cons_self
    exact .plain hquote hcontrol hbackslash (ih fun x hx => hbytes x (List.mem_cons_of_mem _ hx))

/-- **A character that is not escaped** is read again. -/
theorem literal_encodeChar {ascii : Bool} (hc : ¬ IsEscaped ascii c.toNat)
    (h : Literal text value) : Literal (encodeChar c ++ text) (encodeChar c ++ value) := by
  rw [IsEscaped, not_or, not_or, not_or] at hc
  obtain ⟨hbackslash, hquote, hcontrol, -⟩ := hc
  refine literal_append ?_ h
  intro b hb
  have hle : b ≤ 0x1F ↔ b.toNat ≤ 0x1F := BitVec.le_def
  rw [hle]
  have hbyte : b.toNat ≠ 0x22 ∧ b.toNat ≠ 0x5C ∧ 0x1F < b.toNat := by
    by_cases hsmall : c.toNat < 0x80
    · rw [encodeChar_one hsmall, List.mem_singleton] at hb
      rw [hb, toNat_ofNat_byte (by omega)]
      omega
    · have hlarge := le_of_mem_encodeChar (Nat.not_lt.1 hsmall) hb
      omega
  refine ⟨?_, Nat.not_le.2 hbyte.2.2, ?_⟩
  · rintro rfl
    exact hbyte.1 rfl
  · rintro rfl
    exact hbyte.2.1 rfl

theorem isText_encodeChar (hc : c ≠ Char.ofNat 0) : IsText (encodeChar c) := by
  refine ⟨[c], ?_, ?_⟩
  · rw [List.mem_singleton]
    exact hc.symm
  · rw [encodeChars_cons, encodeChars, List.flatMap_nil, List.append_nil]

theorem hexDigit_spec (h : k < 16) : hexDigit k ≠ 0 ∧ (hexDigit k).toNat < 0x80 := by
  have hall : ∀ k : Fin 16, hexDigit k ≠ 0 ∧ (hexDigit k).toNat < 0x80 := by
    decide
  exact hall ⟨k, h⟩

theorem isText_unicodeEscape (n : ℕ) : IsText (unicodeEscape n) := by
  refine isText_of_ascii ?_
  intro b hb
  simp only [unicodeEscape, List.mem_cons, List.not_mem_nil, or_false] at hb
  rcases hb with rfl | rfl | rfl | rfl | rfl | rfl
  · decide
  · decide
  all_goals exact hexDigit_spec (Nat.mod_lt _ (by decide))

theorem isText_escape (n : ℕ) : IsText (escape n) := by
  rw [escape]
  split_ifs
  · exact isText_of_ascii (by decide)
  · exact isText_of_ascii (by decide)
  · exact isText_of_ascii (by decide)
  · exact isText_of_ascii (by decide)
  · exact isText_of_ascii (by decide)
  · exact isText_of_ascii (by decide)
  · exact isText_of_ascii (by decide)
  · exact isText_unicodeEscape n
  · exact (isText_unicodeEscape _).append (isText_unicodeEscape _)

/-- **The inside of a string** is read again. -/
theorem dumpChars_spec (ascii : Bool) {cs : List Char} (hcs : Char.ofNat 0 ∉ cs)
    (hn : (encodeChars cs).length ≤ n) : ∃ text, dumpChars ascii n (encodeChars cs) = some text ∧
      Literal text (encodeChars cs) ∧ IsText text := by
  induction cs generalizing n with
  | nil => exact ⟨[], by rw [encodeChars, List.flatMap_nil, dumpChars], .nil, isText_nil⟩
  | cons c cs ih =>
    obtain ⟨u, bytes, hbytes, -⟩ := exists_encodeChar c
    have hchars : encodeChars (c :: cs) = u :: (bytes ++ encodeChars cs) := by
      rw [encodeChars_cons, hbytes, List.cons_append]
    rw [hchars, List.length_cons, List.length_append] at hn
    obtain ⟨n, rfl⟩ : ∃ k, n = k + 1 := ⟨n - 1, by omega⟩
    obtain ⟨text, hdump, hliteral, htext⟩ :=
      ih (fun hmem => hcs (List.mem_cons_of_mem _ hmem)) (n := n) (by omega)
    have hiterate : utf8Iterate (u :: (bytes ++ encodeChars cs)) =
        some (c.toNat, encodeChars cs) := by
      rw [← hchars, encodeChars_cons]
      exact utf8Iterate_encodeChar_append c _
    have htake : (u :: (bytes ++ encodeChars cs)).take
        ((u :: (bytes ++ encodeChars cs)).length - (encodeChars cs).length) = encodeChar c := by
      rw [← hchars, encodeChars_cons, List.length_append, Nat.add_sub_cancel, List.take_left]
    have hc : c ≠ Char.ofNat 0 := fun hzero => hcs (hzero ▸ List.mem_cons_self)
    refine ⟨(if IsEscaped ascii c.toNat then escape c.toNat else encodeChar c) ++ text, ?_, ?_, ?_⟩
    · rw [hchars, dumpChars, hiterate]
      · dsimp only
        rw [hdump, htake]
        rfl
      · exact List.cons_ne_nil _ _
    · rw [encodeChars_cons]
      split_ifs with hescaped
      · exact literal_escape_append hc hliteral
      · exact literal_encodeChar hescaped hliteral
    · refine IsText.append ?_ htext
      split_ifs
      · exact isText_escape _
      · exact isText_encodeChar hc

/-- A string without a terminator in it. -/
def NoTerminator (s : String) : Prop := Char.ofNat 0 ∉ s.toList

theorem stringChars_eq {s : String} (h : NoTerminator s) :
    stringChars s = encodeChars s.toList := by
  rw [stringChars, bytesOfString_eq]
  exact IsText.takeWhile_eq ⟨s.toList, h, rfl⟩

/-- **A string is read again.** -/
theorem dumpString_spec (ascii : Bool) {s : String} (h : NoTerminator s) : ∃ text,
    dumpString ascii (stringChars s) = some (quote :: (text ++ [quote])) ∧
      Literal text (encodeChars s.toList) ∧ IsText text := by
  rw [stringChars_eq h]
  obtain ⟨text, hdump, hliteral, htext⟩ := dumpChars_spec ascii h (Nat.le_refl _)
  refine ⟨text, ?_, hliteral, htext⟩
  rw [dumpString, hdump]
  rfl

theorem textString_toList (s : String) : textString (encodeChars s.toList) = s := by
  rw [textString_encodeChars, String.ofList_toList]

/-! ### Integers -/

/-- The first digit of a number is no zero, unless it is the only one. -/
theorem head_digits (hpos : 0 < n) (hn : n < 10 ^ k) : (digits k n).head? ≠ some 0x30 := by
  induction k generalizing n with
  | zero =>
    rw [Nat.pow_zero] at hn
    omega
  | succ k ih =>
    rw [digits]
    split
    next hsmall =>
      intro heq
      have hbyte := congrArg BitVec.toNat (Option.some.inj heq)
      rw [Numerals.toNat_digit] at hbyte
      have hzero : (0x30 : Byte).toNat = 48 := rfl
      omega
    next hlarge =>
      have hn' : n / 10 < 10 ^ k := by
        rw [Nat.pow_succ] at hn
        omega
      have hne : digits k (n / 10) ≠ [] := by
        cases k with
        | zero =>
          rw [Nat.pow_zero] at hn'
          omega
        | succ k => exact Numerals.digits_ne_nil _ _
      rw [List.head?_append_of_ne_nil _ hne]
      exact ih (by omega) hn'

theorem isDigit_of_mem (h : b ∈ digits k n) : isDigit b = .true := by
  obtain ⟨hle, hle'⟩ := Numerals.isDigit_of_mem_digits h
  rw [isDigit, decide_eq_true hle, decide_eq_true hle']
  rfl

theorem wholeText_digits (hn : n < 10 ^ (k + 1)) : WholeText (digits (k + 1) n) := by
  refine ⟨⟨Numerals.digits_ne_nil n k, fun b hb => isDigit_of_mem hb⟩, ?_⟩
  intro hhead
  by_cases hpos : 0 < n
  · exact absurd hhead (head_digits hpos hn)
  · have hzero : n = 0 := Nat.eq_zero_of_not_pos hpos
    rw [hzero, digits, if_pos (by decide)]
    rfl

theorem numberText_printInteger {m : ℤ} (hm : m.natAbs < 10 ^ 19) :
    NumberText (printInteger m) [] := by
  have hwhole := wholeText_digits hm
  have htext : ∀ minus, MinusText minus → NumberText (minus ++ (digits 19 m.natAbs ++ ([] ++ [])))
      ([] ++ []) := fun minus hminus => .mk hminus hwhole .none .none
  rw [printInteger]
  split_ifs
  · have h := htext [0x2D] .minus
    rw [List.append_nil, List.append_nil] at h
    exact h
  · have h := htext [] .none
    rw [List.append_nil, List.append_nil] at h
    exact h

/-- A digit, a sign, the point and the letter of an exponent are ASCII. -/
theorem NumberText.isText {tail : List Byte} (h : NumberText text tail) : IsText text := by
  have hdigit : ∀ b : Byte, isDigit b = .true → b ≠ 0 ∧ b.toNat < 0x80 := by
    decide
  have hsigns : ∀ b : Byte, isSign b = .true → b ≠ 0 ∧ b.toNat < 0x80 := by
    decide
  have hexponents : ∀ b : Byte, isExponent b = .true → b ≠ 0 ∧ b.toNat < 0x80 := by
    decide
  have hdigits : ∀ ds, Digits ds → IsText ds := fun ds hds =>
    isText_of_ascii fun b hb => hdigit b (hds.isDigit b hb)
  obtain @⟨minus, whole, fraction, exponent, hminus, hwhole, hfraction, hexponent⟩ := h
  refine IsText.append ?_ ((hdigits _ hwhole.toDigits).append (IsText.append ?_ ?_))
  · cases hminus with
    | none => exact isText_nil
    | minus => exact isText_of_ascii (by decide)
  · cases hfraction with
    | none => exact isText_nil
    | point hds => exact isText_of_ascii_cons (by decide) (by decide) (hdigits _ hds)
  · cases hexponent with
    | none => exact isText_nil
    | power hb hsign hds =>
      obtain ⟨hne, hlt⟩ := hexponents _ hb
      refine isText_of_ascii_cons hne hlt (IsText.append ?_ (hdigits _ hds))
      cases hsign with
      | none => exact isText_nil
      | sign hs =>
        obtain ⟨hne', hlt'⟩ := hsigns _ hs
        exact isText_of_ascii_cons hne' hlt' isText_nil

theorem natAbs_toInt_lt (v : BitVec 64) : v.toInt.natAbs < 10 ^ 19 := by
  have hlt := BitVec.toInt_lt (x := v)
  have hle := BitVec.le_toInt (x := v)
  omega

/-- **An integer is read again.** -/
theorem integerToken_printInteger (v : BitVec 64) :
    integerToken (printInteger v.toInt) = .integer v := by
  have hlt := BitVec.toInt_lt (x := v)
  have hle := BitVec.le_toInt (x := v)
  have hnone : ∀ x ∈ ([] : List Byte).head?, ¬ Numerals.IsDigit x := by
    simp
  have hscan := (Numerals.scan_signed (k := 18) (natAbs_toInt_lt v) hnone).1
  rw [List.append_nil] at hscan
  have hnumber : (Numerals.scan (printInteger v.toInt)).number = v.toInt := hscan
  rw [integerToken, hnumber, if_neg (by omega), if_neg (by omega), BitVec.ofInt_toInt]

/-! ### Values -/

section Values

variable (flags : DumpFlags) (jsonpDtostr : String → Option (List Byte))
  (jsonpStrtod : List Byte → Option String)

/-- The text of a real number, which is read as the same number again. -/
def RealText (real : String) : Prop := ∃ text tail, jsonpDtostr real = some text ∧
  NumberText text tail ∧ tail ≠ [] ∧ jsonpStrtod text = some real

mutual

/-- A value that `json_loads` can make. -/
def Loadable : JsonT → Prop
  | .null => True
  | .true => True
  | .false => True
  | .integer _ => True
  | .real text => RealText jsonpDtostr jsonpStrtod text
  | .string value => NoTerminator value
  | .array elements => LoadableElements elements
  | .object members => LoadableMembers members ∧ (members.map Prod.fst).Nodup

/-- Elements that `json_loads` can make. -/
def LoadableElements : List JsonT → Prop
  | [] => True
  | json :: elements => Loadable json ∧ LoadableElements elements

/-- Members that `json_loads` can make. -/
def LoadableMembers : List (String × JsonT) → Prop
  | [] => True
  | (key, json) :: members => NoTerminator key ∧ Loadable json ∧ LoadableMembers members

end

theorem spaces_dumpIndent (depth : ℕ) (space : Bool) : Spaces (dumpIndent flags depth space) := by
  intro b hb
  rw [dumpIndent] at hb
  split_ifs at hb
  · rw [List.mem_cons] at hb
    rcases hb with rfl | hb
    · rfl
    · rw [List.eq_of_mem_replicate hb]
      rfl
  · rw [List.mem_singleton] at hb
    rw [hb]
    rfl
  · cases hb

theorem ascii_of_isSpace (b : Byte) (h : isSpace b = .true) : b ≠ 0 ∧ b.toNat < 0x80 := by
  revert b
  decide

theorem Spaces.isText {ws : List Byte} (h : Spaces ws) : IsText ws :=
  isText_of_ascii fun b hb => ascii_of_isSpace b (h b hb)

theorem spaces_nil : Spaces [] := by
  intro b hb
  cases hb

/-- A member with a new name is added as the last one. -/
theorem setMember_of_notMem {key : String} {value : JsonT} {before : List (String × JsonT)}
    (h : key ∉ before.map Prod.fst) :
    JsonT.setMember key value before = before ++ [(key, value)] := by
  induction before with
  | nil => rfl
  | cons a before ih =>
    obtain ⟨k, v⟩ := a
    rw [List.map_cons, List.mem_cons, not_or] at h
    rw [JsonT.setMember, if_neg (Ne.symm h.1), ih h.2]
    rfl

theorem derives_integer (v : BitVec 64) :
    Derives jsonpStrtod (.value (.integer v)) (printInteger v.toInt) := by
  have htoken : numberToken jsonpStrtod (printInteger v.toInt) [] = .integer v := by
    rw [numberToken_nil, integerToken_printInteger]
  have htext : TokenText jsonpStrtod (numberToken jsonpStrtod (printInteger v.toInt) [])
      (printInteger v.toInt) := by
    refine .number (numberText_printInteger (natAbs_toInt_lt v)) ?_
    rw [htoken]
    intro error herror
    cases herror
  rw [htoken] at htext
  exact .scalar htext rfl

theorem derives_real {real : String} {text tail : List Byte} (htext : NumberText text tail)
    (htail : tail ≠ []) (hreal : jsonpStrtod text = some real) :
    Derives jsonpStrtod (.value (.real real)) text := by
  have htoken : numberToken jsonpStrtod text tail = .real real := by
    rw [numberToken_of_ne_nil jsonpStrtod htail, realToken, hreal]
  have hnumber : TokenText jsonpStrtod (numberToken jsonpStrtod text tail) text := by
    refine .number htext ?_
    rw [htoken]
    intro error herror
    cases herror
  rw [htoken] at hnumber
  exact .scalar hnumber rfl

theorem derives_string {s : String} {text : List Byte} (h : Literal text (encodeChars s.toList)) :
    Derives jsonpStrtod (.value (.string s)) (quote :: (text ++ [quote])) := by
  have htoken : scalar (.string (encodeChars s.toList)) = some (.string s) := by
    rw [scalar, textString_toList]
  exact .scalar (.string h) htoken

theorem notMem_of_nodup {key : String} {value : JsonT} {before members : List (String × JsonT)}
    (h : ((before ++ (key, value) :: members).map Prod.fst).Nodup) :
    key ∉ before.map Prod.fst := by
  rw [List.map_append, List.map_cons] at h
  intro hmem
  exact (List.nodup_append.1 h).2.2 key hmem key List.mem_cons_self rfl

theorem derives_member {key : String} {value : JsonT} {name text : List Byte}
    (hname : Literal name (encodeChars key.toList)) (h : Derives jsonpStrtod (.value value) text) :
    Derives jsonpStrtod (.member key value) (quote :: (name ++ [quote]) ++
      ((if flags.compact then [colon] else [colon, 0x20]) ++ text)) := by
  have hspace : Spaces [0x20] := by
    intro b hb
    rw [List.mem_singleton.1 hb]
    rfl
  have hcompact := Derives.member hname spaces_nil spaces_nil h
  have hloose := Derives.member hname spaces_nil hspace h
  rw [textString_toList] at hcompact hloose
  split_ifs
  · exact hcompact
  · exact hloose

theorem isText_ascii_cons (b : Byte) (hb : b ≠ 0 ∧ b.toNat < 0x80) (h : IsText text) :
    IsText (b :: text) := isText_of_ascii_cons hb.1 hb.2 h

theorem isText_quoted (h : IsText text) : IsText (quote :: (text ++ [quote])) :=
  isText_ascii_cons quote (by decide) (h.append (isText_of_ascii (by decide)))

theorem isText_open (b : Byte) (depth : ℕ) (hb : b ≠ 0 ∧ b.toNat < 0x80) :
    IsText (b :: dumpIndent flags (depth + 1) .false) :=
  isText_ascii_cons b hb (spaces_dumpIndent flags (depth + 1) .false).isText

theorem isText_member {name : List Byte} (hname : IsText name) (htext : IsText text) :
    IsText (quote :: (name ++ [quote]) ++ (if flags.compact then [colon] else [colon, 0x20]) ++
      text) := by
  refine ((isText_quoted hname).append ?_).append htext
  split_ifs
  · exact isText_of_ascii (by decide)
  · exact isText_of_ascii (by decide)

mutual

/-- **What is written can be derived**, and is UTF-8. -/
theorem doDump_spec (json : JsonT) (h : Loadable jsonpDtostr jsonpStrtod json) (depth : ℕ) :
    ∃ text, doDump flags jsonpDtostr json depth = some text ∧
      Derives jsonpStrtod (.value json) text ∧ IsText text := by
  match json with
  | .null => exact ⟨nullText, by rw [doDump], .scalar .null rfl, isText_of_ascii (by decide)⟩
  | .true => exact ⟨trueText, by rw [doDump], .scalar .true rfl, isText_of_ascii (by decide)⟩
  | .false => exact ⟨falseText, by rw [doDump], .scalar .false rfl, isText_of_ascii (by decide)⟩
  | .integer v =>
    exact ⟨_, by rw [doDump], derives_integer jsonpStrtod v,
      (numberText_printInteger (natAbs_toInt_lt v)).isText⟩
  | .real real =>
    rw [Loadable] at h
    obtain ⟨text, tail, hdump, htext, htail, hreal⟩ := h
    exact ⟨text, by rw [doDump, hdump], derives_real jsonpStrtod htext htail hreal, htext.isText⟩
  | .string s =>
    rw [Loadable] at h
    obtain ⟨text, hdump, hliteral, htext⟩ := dumpString_spec flags.ensureAscii h
    exact ⟨_, by rw [doDump, hdump], derives_string jsonpStrtod hliteral,
      isText_quoted htext⟩
  | .array [] =>
    exact ⟨_, by rw [doDump]; rfl, .emptyArray spaces_nil, isText_of_ascii (by decide)⟩
  | .array (elem :: elements) =>
    rw [Loadable] at h
    obtain ⟨text, hdump, hderives, htext⟩ := dumpElements_spec (elem :: elements) h [] depth
      (List.cons_ne_nil _ _)
    refine ⟨_, by rw [doDump, hdump]; rfl, ?_, ?_⟩
    have harray := Derives.array (spaces_dumpIndent flags (depth + 1) .false) hderives
    · dsimp only
      rw [List.append_assoc, List.cons_append]
      exact harray
    · exact ((isText_open flags openBracket depth (by decide)).append htext).append
        (isText_of_ascii (by decide))
  | .object [] =>
    exact ⟨_, by rw [doDump]; rfl, .emptyObject spaces_nil, isText_of_ascii (by decide)⟩
  | .object ((key, value) :: members) =>
    rw [Loadable] at h
    obtain ⟨text, hdump, hderives, htext⟩ := dumpMembers_spec ((key, value) :: members) h.1 [] h.2
      depth (List.cons_ne_nil _ _)
    refine ⟨_, by rw [doDump, hdump]; rfl, ?_, ?_⟩
    have hobject := Derives.object (spaces_dumpIndent flags (depth + 1) .false) hderives
    · dsimp only
      rw [List.append_assoc, List.cons_append]
      exact hobject
    · exact ((isText_open flags openBrace depth (by decide)).append htext).append
        (isText_of_ascii (by decide))

/-- Elements that are written, with the bracket behind them. -/
theorem dumpElements_spec (elements : List JsonT)
    (h : LoadableElements jsonpDtostr jsonpStrtod elements) (before : List JsonT) (depth : ℕ)
    (hne : elements ≠ []) : ∃ text, dumpElements flags jsonpDtostr elements depth = some text ∧
      Derives jsonpStrtod (.elements before (before ++ elements)) (text ++ [closeBracket]) ∧
        IsText text := by
  match elements with
  | [] => exact absurd rfl hne
  | [elem] =>
    rw [LoadableElements] at h
    obtain ⟨text, hdump, hderives, htext⟩ := doDump_spec elem h.1 (depth + 1)
    have hspaces := spaces_dumpIndent flags depth .false
    refine ⟨text ++ dumpIndent flags depth .false ++ [], ?_, ?_, ?_⟩
    · rw [dumpElements, hdump, dumpElements]
      rfl
    · rw [List.append_nil, List.append_assoc]
      exact .lastElement hderives hspaces
    · rw [List.append_nil]
      exact htext.append hspaces.isText
  | elem :: elem' :: elements =>
    rw [LoadableElements] at h
    obtain ⟨text, hdump, hderives, htext⟩ := doDump_spec elem h.1 (depth + 1)
    obtain ⟨text', hdump', hderives', htext'⟩ := dumpElements_spec (elem' :: elements) h.2
      (before ++ [elem]) depth (List.cons_ne_nil _ _)
    have hspaces := spaces_dumpIndent flags (depth + 1) .true
    refine ⟨text ++ comma :: dumpIndent flags (depth + 1) .true ++ text', ?_, ?_, ?_⟩
    · rw [dumpElements, hdump, hdump']
      rfl
    · have helement := Derives.element hderives spaces_nil hspaces hderives'
      simp only [List.append_assoc, List.nil_append, List.cons_append] at helement ⊢
      exact helement
    · exact (htext.append (isText_ascii_cons comma (by decide) hspaces.isText)).append htext'

/-- Members that are written, with the brace behind them. -/
theorem dumpMembers_spec (members : List (String × JsonT))
    (h : LoadableMembers jsonpDtostr jsonpStrtod members) (before : List (String × JsonT))
    (hkeys : ((before ++ members).map Prod.fst).Nodup) (depth : ℕ) (hne : members ≠ []) :
    ∃ text, dumpMembers flags jsonpDtostr members depth = some text ∧
      Derives jsonpStrtod (.members before (before ++ members)) (text ++ [closeBrace]) ∧
        IsText text := by
  match members with
  | [] => exact absurd rfl hne
  | [(key, value)] =>
    rw [LoadableMembers] at h
    obtain ⟨hkey, hvalue, -⟩ := h
    obtain ⟨name, hname, hliteral, hnameText⟩ := dumpString_spec flags.ensureAscii hkey
    obtain ⟨text, hdump, hderives, htext⟩ := doDump_spec value hvalue (depth + 1)
    have hspaces := spaces_dumpIndent flags depth .false
    have hmember := derives_member flags jsonpStrtod hliteral hderives
    have hlast : Derives jsonpStrtod (.members before _) _ := .lastMember hmember hspaces
    rw [setMember_of_notMem (notMem_of_nodup hkeys)] at hlast
    refine ⟨_, by rw [dumpMembers, hname, hdump, dumpMembers]; rfl, ?_, ?_⟩
    · simp only [List.append_nil, List.append_assoc, List.cons_append, List.isEmpty_nil, if_true]
        at hlast ⊢
      exact hlast
    · exact ((isText_member flags hnameText htext).append hspaces.isText).append isText_nil
  | (key, value) :: (key', value') :: members =>
    rw [LoadableMembers] at h
    obtain ⟨hkey, hvalue, hmembers⟩ := h
    obtain ⟨name, hname, hliteral, hnameText⟩ := dumpString_spec flags.ensureAscii hkey
    obtain ⟨text, hdump, hderives, htext⟩ := doDump_spec value hvalue (depth + 1)
    have hkeys' : ((before ++ [(key, value)] ++ (key', value') :: members).map Prod.fst).Nodup := by
      rw [List.append_assoc]
      exact hkeys
    obtain ⟨text', hdump', hderives', htext'⟩ := dumpMembers_spec ((key', value') :: members)
      hmembers (before ++ [(key, value)]) hkeys' depth (List.cons_ne_nil _ _)
    have hspaces := spaces_dumpIndent flags (depth + 1) .true
    rw [← setMember_of_notMem (notMem_of_nodup hkeys)] at hderives'
    have hmember := derives_member flags jsonpStrtod hliteral hderives
    have hall := Derives.members hmember spaces_nil hspaces hderives'
    rw [setMember_of_notMem (notMem_of_nodup hkeys)] at hall
    refine ⟨_, by rw [dumpMembers, hname, hdump, hdump']; rfl, ?_, ?_⟩
    · simp only [List.nil_append, List.append_assoc, List.cons_append] at hall ⊢
      exact hall
    · exact ((isText_member flags hnameText htext).append
        (isText_ascii_cons comma (by decide) hspaces.isText)).append htext'

end

/-- Only arrays and objects are written. -/
theorem container_of_jsonDumps {json : JsonT} (h : jsonDumps flags jsonpDtostr json = some text) :
    json.isArray = .true ∨ json.isObject = .true := by
  rw [jsonDumps] at h
  by_contra hneither
  rw [not_or, Bool.not_eq_true, Bool.not_eq_true] at hneither
  rw [hneither.1, hneither.2] at h
  cases h

/-- **A value is read again**, however it is laid out. -/
theorem jsonLoadsText_jsonDumps (json : JsonT)
    (hcontainer : json.isArray = .true ∨ json.isObject = .true)
    (h : Loadable jsonpDtostr jsonpStrtod json) :
    ∃ text, jsonDumps flags jsonpDtostr json = some text ∧ 0 ∉ text ∧
      jsonLoadsText jsonpStrtod text = .ok json := by
  obtain ⟨text, hdump, hderives, htext⟩ := doDump_spec flags jsonpDtostr jsonpStrtod json h 0
  refine ⟨text, ?_, htext.zero_notMem, jsonLoadsText_of_jsonText ?_⟩
  · rw [jsonDumps, if_neg, hdump]
    rcases hcontainer with hc | hc
    · rw [hc]
      simp
    · rw [hc]
      simp
  · rw [htext.takeWhile_eq]
    refine ⟨htext, hcontainer, [], text, [], ?_, spaces_nil, spaces_nil, hderives⟩
    rw [List.append_nil, List.nil_append]

/-- An object with an array in it. -/
theorem jsonLoadsText_jsonDumps_object :
    ∃ text, jsonDumps ⟨2, .false, .true⟩ (fun _ => none)
        (.object [("ID", .integer 1), ("\"é", .array [.null, .string "\n"])]) = some text ∧
      0 ∉ text ∧ jsonLoadsText (fun _ => none) text =
        .ok (.object [("ID", .integer 1), ("\"é", .array [.null, .string "\n"])]) := by
  refine jsonLoadsText_jsonDumps ⟨2, .false, .true⟩ (fun _ => none) (fun _ => none) _ (.inr rfl) ?_
  simp only [Loadable, LoadableMembers, LoadableElements, NoTerminator]
  decide

/-! ### Values that have been read -/

/-- What has been read by the real functions is written so that it is read again. -/
def RealsRoundTrip : Prop := ∀ text tail real, NumberText text tail → tail ≠ [] →
  jsonpStrtod text = some real → RealText jsonpDtostr jsonpStrtod real

/-- What is derived can be made. -/
def LoadableItem : Item → Prop
  | .value json => Loadable jsonpDtostr jsonpStrtod json
  | .elements before all => LoadableElements jsonpDtostr jsonpStrtod before →
    LoadableElements jsonpDtostr jsonpStrtod all
  | .member key value => NoTerminator key ∧ Loadable jsonpDtostr jsonpStrtod value
  | .members before all => LoadableMembers jsonpDtostr jsonpStrtod before →
    (before.map Prod.fst).Nodup →
      LoadableMembers jsonpDtostr jsonpStrtod all ∧ (all.map Prod.fst).Nodup

theorem noTerminator_textString (h : IsText text) : NoTerminator (textString text) := by
  obtain ⟨cs, hcs, rfl⟩ := h
  rw [NoTerminator, textString_encodeChars, String.toList_ofList]
  exact hcs

theorem map_fst_setMember (key : String) (value : JsonT) (before : List (String × JsonT)) :
    (JsonT.setMember key value before).map Prod.fst =
      if key ∈ before.map Prod.fst then before.map Prod.fst else before.map Prod.fst ++ [key] := by
  induction before with
  | nil => rfl
  | cons a before ih =>
    obtain ⟨k, v⟩ := a
    rw [JsonT.setMember]
    by_cases hk : k = key
    · rw [if_pos hk, List.map_cons, List.map_cons, if_pos (List.mem_cons.2 (.inl hk.symm))]
    · rw [if_neg hk, List.map_cons, List.map_cons, ih]
      by_cases hmem : key ∈ before.map Prod.fst
      · rw [if_pos hmem, if_pos (List.mem_cons_of_mem _ hmem)]
      · rw [if_neg hmem, if_neg]
        · rfl
        · rw [List.mem_cons, not_or]
          exact ⟨Ne.symm hk, hmem⟩

theorem loadableMembers_setMember {key : String} {value : JsonT} {before : List (String × JsonT)}
    (hkey : NoTerminator key) (hvalue : Loadable jsonpDtostr jsonpStrtod value)
    (h : LoadableMembers jsonpDtostr jsonpStrtod before) :
    LoadableMembers jsonpDtostr jsonpStrtod (JsonT.setMember key value before) := by
  induction before with
  | nil =>
    rw [JsonT.setMember, LoadableMembers]
    exact ⟨hkey, hvalue, h⟩
  | cons a before ih =>
    obtain ⟨k, v⟩ := a
    rw [LoadableMembers] at h
    rw [JsonT.setMember]
    split
    · rw [LoadableMembers]
      exact ⟨h.1, hvalue, h.2.2⟩
    · rw [LoadableMembers]
      exact ⟨h.1, h.2.1, ih h.2.2⟩

theorem nodup_setMember {key : String} {value : JsonT} {before : List (String × JsonT)}
    (h : (before.map Prod.fst).Nodup) :
    ((JsonT.setMember key value before).map Prod.fst).Nodup := by
  rw [map_fst_setMember]
  split
  next => exact h
  next hmem =>
    refine List.nodup_append.2 ⟨h, List.nodup_cons.2 ⟨List.not_mem_nil, List.nodup_nil⟩, ?_⟩
    intro a ha b hb hab
    rw [List.mem_singleton.1 hb] at hab
    exact hmem (hab ▸ ha)

theorem loadableElements_append {before : List JsonT} {elem : JsonT}
    (h : LoadableElements jsonpDtostr jsonpStrtod before)
    (helem : Loadable jsonpDtostr jsonpStrtod elem) :
    LoadableElements jsonpDtostr jsonpStrtod (before ++ [elem]) := by
  induction before with
  | nil =>
    rw [List.nil_append, LoadableElements]
    exact ⟨helem, h⟩
  | cons json before ih =>
    rw [LoadableElements] at h
    rw [List.cons_append, LoadableElements]
    exact ⟨h.1, ih h.2⟩

/-- A value of its own is one that can be made. -/
theorem loadable_scalar {token : Token} {json : JsonT}
    (hreals : RealsRoundTrip jsonpDtostr jsonpStrtod) (h : TokenText jsonpStrtod token text)
    (htext : IsText text) (hjson : scalar token = some json) :
    Loadable jsonpDtostr jsonpStrtod json := by
  cases h with
  | char _ => cases hjson
  | @string name value hliteral =>
    obtain rfl := Option.some.inj hjson
    rw [Loadable]
    have hinner := htext.of_cons (by decide)
    exact noTerminator_textString (hliteral.isText (isText_of_append_cons (by decide) hinner).1)
  | @number text tail hnumber _ =>
    by_cases htail : tail = []
    · rw [htail, numberToken_nil, integerToken] at hjson
      split_ifs at hjson
      · cases hjson
      · cases hjson
      · obtain rfl := Option.some.inj hjson
        rw [Loadable]
        trivial
    · rw [numberToken_of_ne_nil jsonpStrtod htail, realToken] at hjson
      split at hjson
      next real hreal =>
        obtain rfl := Option.some.inj hjson
        rw [Loadable]
        exact hreals text tail real hnumber htail hreal
      next => cases hjson
  | true =>
    obtain rfl := Option.some.inj hjson
    rw [Loadable]
    trivial
  | false =>
    obtain rfl := Option.some.inj hjson
    rw [Loadable]
    trivial
  | null =>
    obtain rfl := Option.some.inj hjson
    rw [Loadable]
    trivial

/-- What is before white space is a text. -/
theorem IsText.of_append_spaces {ws : List Byte} (hws : Spaces ws) (h : IsText (text ++ ws)) :
    IsText text := by
  cases ws with
  | nil => rwa [List.append_nil] at h
  | cons x ws =>
    have hx := ascii_of_isSpace x (hws x List.mem_cons_self)
    exact (isText_of_append_cons hx.2 h).1

/-- What is behind white space is a text. -/
theorem IsText.of_spaces_append {ws : List Byte} (hws : Spaces ws) (h : IsText (ws ++ text)) :
    IsText text := by
  induction ws with
  | nil => exact h
  | cons x ws ih =>
    have hx := ascii_of_isSpace x (hws x List.mem_cons_self)
    have htail : IsText (ws ++ text) := IsText.of_cons hx.2 h
    exact ih (fun b hb => hws b (List.mem_cons_of_mem _ hb)) htail

/-- **What is derived from UTF-8** can be made. -/
theorem loadable_of_derives {item : Item} (hreals : RealsRoundTrip jsonpDtostr jsonpStrtod)
    (h : Derives jsonpStrtod item text) (htext : IsText text) :
    LoadableItem jsonpDtostr jsonpStrtod item := by
  induction h with
  | scalar ht hjson => exact loadable_scalar jsonpDtostr jsonpStrtod hreals ht htext hjson
  | emptyArray _ =>
    rw [LoadableItem, Loadable, LoadableElements]
    trivial
  | array hws _ ih =>
    rw [LoadableItem, Loadable]
    refine ih ((htext.of_cons (by decide)).of_spaces_append hws) ?_
    rw [LoadableElements]
    trivial
  | emptyObject _ =>
    rw [LoadableItem, Loadable, LoadableMembers]
    exact ⟨trivial, List.nodup_nil⟩
  | object hws _ ih =>
    rw [LoadableItem, Loadable]
    refine ih ((htext.of_cons (by decide)).of_spaces_append hws) ?_ List.nodup_nil
    rw [LoadableMembers]
    trivial
  | @lastElement before elem text ws _ hws ih =>
    rw [← List.append_assoc] at htext
    have hvalue := ((isText_of_append_cons (by decide) htext).1).of_append_spaces hws
    intro hbefore
    exact loadableElements_append jsonpDtostr jsonpStrtod hbefore (ih hvalue)
  | @element before all elem text ws ws' text' _ hws hws' _ ih ih' =>
    rw [← List.append_assoc] at htext
    obtain ⟨hleft, hright⟩ := isText_of_append_cons (by decide) htext
    intro hbefore
    exact ih' (hright.of_spaces_append hws') (loadableElements_append jsonpDtostr jsonpStrtod
      hbefore (ih (hleft.of_append_spaces hws)))
  | @member value name key ws ws' text hname hws hws' _ ih =>
    have hkey : IsText (name ++ [quote] ++ (ws ++ colon :: (ws' ++ text))) :=
      htext.of_cons (by decide)
    rw [List.append_assoc] at hkey
    obtain ⟨hliteral, hrest⟩ := isText_of_append_cons (by decide) hkey
    have hcolon := (isText_of_append_cons (by decide) hrest).2
    exact ⟨noTerminator_textString (hname.isText hliteral), ih (hcolon.of_spaces_append hws')⟩
  | @lastMember before key value text ws _ hws ih =>
    rw [← List.append_assoc] at htext
    obtain ⟨hkey, hvalue⟩ := ih (((isText_of_append_cons (by decide) htext).1).of_append_spaces hws)
    intro hbefore hnodup
    exact ⟨loadableMembers_setMember jsonpDtostr jsonpStrtod hkey hvalue hbefore,
      nodup_setMember hnodup⟩
  | @members before all key value text ws ws' text' _ hws hws' _ ih ih' =>
    rw [← List.append_assoc] at htext
    obtain ⟨hleft, hright⟩ := isText_of_append_cons (by decide) htext
    obtain ⟨hkey, hvalue⟩ := ih (hleft.of_append_spaces hws)
    intro hbefore hnodup
    exact ih' (hright.of_spaces_append hws')
      (loadableMembers_setMember jsonpDtostr jsonpStrtod hkey hvalue hbefore)
      (nodup_setMember hnodup)

/-- **What has been read can be made**: its strings have no terminator, and its members have
different names. -/
theorem loadable_of_jsonLoadsText {string : List Byte} {json : JsonT}
    (hreals : RealsRoundTrip jsonpDtostr jsonpStrtod)
    (h : jsonLoadsText jsonpStrtod string = .ok json) : Loadable jsonpDtostr jsonpStrtod json := by
  obtain ⟨htext, -, ws, text, ws', heq, hws, hws', hderives⟩ :=
    (jsonLoadsText_sound jsonpStrtod string).2 json h
  rw [heq] at htext
  exact loadable_of_derives jsonpDtostr jsonpStrtod hreals hderives
    ((htext.of_spaces_append hws).of_append_spaces hws')

/-- **A text is read, written in any layout, and read as the same value again.** -/
theorem jsonLoadsText_jsonDumps_of_jsonLoadsText {string : List Byte} {json : JsonT}
    (hreals : RealsRoundTrip jsonpDtostr jsonpStrtod)
    (h : jsonLoadsText jsonpStrtod string = .ok json) :
    Loadable jsonpDtostr jsonpStrtod json ∧ ∃ text, jsonDumps flags jsonpDtostr json = some text ∧
      0 ∉ text ∧ jsonLoadsText jsonpStrtod text = .ok json := by
  have hloadable := loadable_of_jsonLoadsText jsonpDtostr jsonpStrtod hreals h
  exact ⟨hloadable, jsonLoadsText_jsonDumps flags jsonpDtostr jsonpStrtod json
    ((jsonLoadsText_sound jsonpStrtod string).2 json h).container hloadable⟩

/-- The text `{}`. -/
theorem jsonLoadsText_jsonDumps_of_jsonLoadsText_empty :
    Loadable (fun _ => none) (fun _ => none) (.object []) ∧
      ∃ text, jsonDumps compactFlags (fun _ => none) (.object []) = some text ∧
        0 ∉ text ∧ jsonLoadsText (fun _ => none) text = .ok (.object []) := by
  have hreals : RealsRoundTrip (fun _ => none) (fun _ => none) := by
    intro text tail real _ _ hreal
    cases hreal
  have hload : jsonLoadsText (fun _ => none) [0x7B, 0x7D] = .ok (.object []) := rfl
  exact jsonLoadsText_jsonDumps_of_jsonLoadsText compactFlags (fun _ => none) (fun _ => none)
    hreals hload

end Values

end Jansson

end Lcm
