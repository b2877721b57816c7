import Lcm.Jansson.Stream

/-!
# Numbers in a text

The texts of numbers are described by a grammar, and `lex_scan_number` is shown to read them: a
number is read if what follows it cannot belong to it, and whatever is read is a number that stands
there.

## Main definitions

* `NumberText` : the texts of numbers.
* `Reads`, `Refuses` : what the analyzer returns.

## Main results

* `lexScanNumber_text` : a number is read.
* `lexScanNumber_sound` : what is read is a number.
-/

namespace Lcm

namespace Jansson

variable (jsonpStrtod : List Byte → Option String) {lex lex' : Lex}
  {l ds pre rest ws text value : List Byte} {b : Byte} {n : ℕ} {bad : Bool} {token : Token}

/-! ### Numbers -/

/-- At least one digit. -/
structure Digits (ds : List Byte) : Prop where
  ne_nil : ds ≠ []
  isDigit : ∀ d ∈ ds, isDigit d = .true

/-- A sign of an exponent, if there is one. -/
inductive SignText : List Byte → Prop
  | none : SignText []
  | sign {b : Byte} (h : isSign b = .true) : SignText [b]

/-- An exponent, if there is one. -/
inductive ExponentText : List Byte → Prop
  | none : ExponentText []
  | power {b : Byte} {sign ds : List Byte} (hb : isExponent b = .true) (hsign : SignText sign)
    (hds : Digits ds) : ExponentText (b :: (sign ++ ds))

/-- A fraction, if there is one. -/
inductive FractionText : List Byte → Prop
  | none : FractionText []
  | point {ds : List Byte} (hds : Digits ds) : FractionText (0x2E :: ds)

/-- The digits in front of the point, without a superfluous zero. -/
structure WholeText (ds : List Byte) : Prop extends Digits ds where
  zero : ds.head? = some 0x30 → ds = [0x30]

/-- A minus, if there is one. -/
inductive MinusText : List Byte → Prop
  | none : MinusText []
  | minus : MinusText [0x2D]

/-- The text of a number, of which `tail` is the fraction and the exponent. -/
inductive NumberText : List Byte → List Byte → Prop
  | mk {minus whole fraction exponent : List Byte} (hminus : MinusText minus)
      (hwhole : WholeText whole) (hfraction : FractionText fraction)
      (hexponent : ExponentText exponent) :
    NumberText (minus ++ (whole ++ (fraction ++ exponent))) (fraction ++ exponent)

/-- A byte that could belong to a number or to an identifier. -/
def isWord (b : Byte) : Bool := isDigit b || isAlpha b || b = 0x2E

theorem Stops.imp {p q : Byte → Bool} (h : Stops q rest) (hpq : ∀ b, p b = .true → q b = .true) :
    Stops p rest := by
  intro b hb
  by_contra hp
  rw [Bool.not_eq_false] at hp
  exact absurd (h b hb) (by rw [hpq b hp]; decide)

theorem stops_cons {p : Byte → Bool} (h : p b = .false) : Stops p (b :: l) := by
  intro d hd
  rw [List.head?_cons, Option.mem_some_iff] at hd
  rwa [← hd]

theorem stops_nil {p : Byte → Bool} : Stops p [] := by
  intro d hd
  cases hd

/-- The result is the token, and the rest is left. -/
def Reads (result : Except LoadError (Token × Lex)) (token : Token) (rest : List Byte)
    (bad : Bool) : Prop :=
  ∃ lex, result = .ok (token, lex) ∧ Delivers lex.stream rest bad

/-- The result is no token. -/
def Refuses (result : Except LoadError (Token × Lex)) : Prop :=
  ∃ error lex, result = .ok (.invalid error, lex)

section Number

theorem exists_cons_of_not_stops {p : Byte → Bool} (h : ¬ Stops p l) :
    ∃ b l', l = b :: l' ∧ p b = .true := by
  cases l with
  | nil => exact absurd stops_nil h
  | cons b l =>
    refine ⟨b, l, rfl, ?_⟩
    by_contra hb
    exact h (stops_cons (Bool.eq_false_iff.2 hb))

/-- A text begins with a sign, or it does not. -/
theorem exists_signText (l : List Byte) :
    ∃ sign l', l = sign ++ l' ∧ SignText sign ∧ (sign = [] → Stops isSign l') := by
  by_cases hs : Stops isSign l
  · exact ⟨[], l, rfl, .none, fun _ => hs⟩
  · obtain ⟨s, l, rfl, hsign⟩ := exists_cons_of_not_stops hs
    exact ⟨[s], l, rfl, .sign hsign, fun h => absurd h (List.cons_ne_nil _ _)⟩

theorem isWord_of_isDigit (b : Byte) (h : isDigit b = .true) : isWord b = .true := by
  rw [isWord, h]
  rfl

theorem isWord_of_isExponent (b : Byte) (h : isExponent b = .true) : isWord b = .true := by
  revert b
  decide

theorem isWord_of_isPoint (b : Byte) (h : (b = 0x2E : Bool) = .true) : isWord b = .true := by
  revert b
  decide

theorem isPoint_of_isExponent (h : isExponent b = .true) : (b = 0x2E : Bool) = .false := by
  revert b
  decide

theorem isDigit_of_isExponent (h : isExponent b = .true) : isDigit b = .false := by
  revert b
  decide

theorem ne_minus_of_isDigit (h : isDigit b = .true) : b ≠ 0x2D := by
  rintro rfl
  cases h

theorem isDigit_of_isZero (b : Byte) (h : (b = 0x30 : Bool) = .true) : isDigit b = .true := by
  revert b
  decide

theorem isSign_of_isDigit (h : isDigit b = .true) : isSign b = .false := by
  revert b
  decide

/-- **The digits of an exponent** are read. -/
theorem lexScanPower_digits (hds : Digits ds) (hrest : Stops isDigit rest)
    (h : Ahead lex pre (ds ++ rest) bad) (hn : ds.length < n) :
    Reads (lexScanPower jsonpStrtod n (headGot bad (ds ++ rest)) lex)
      (realToken jsonpStrtod (pre ++ ds)) rest bad := by
  obtain ⟨d, ds, rfl⟩ := List.exists_cons_of_ne_nil hds.ne_nil
  obtain ⟨hgot, hahead⟩ := Ahead.getSave h
  have hd : (headGot bad (d :: ds ++ rest)).is isDigit = .true := hds.isDigit d List.mem_cons_self
  obtain ⟨lex', hrun, hahead'⟩ := getWhile_spec
    (fun x hx => hds.isDigit x (List.mem_cons_of_mem _ hx)) hrest hahead (Nat.lt_of_succ_lt hn)
  obtain ⟨hstream, hsaved⟩ := hahead'.ungetUnsave
  rw [List.append_assoc] at hsaved
  rw [lexScanPower, if_pos hd, hgot, List.append_eq, hrun]
  refine ⟨_, ?_, hstream⟩
  dsimp only
  rw [hsaved]
  rfl

/-- Where there are no digits, the exponent is refused. -/
theorem refuses_lexScanPower (hl : Stops isDigit l) :
    Refuses (lexScanPower jsonpStrtod n (headGot bad l) lex) := by
  rw [lexScanPower, hl.is_headGot]
  exact ⟨none, _, rfl⟩

/-- A number without an exponent ends. -/
theorem lexScanExponent_none (hl : Stops isExponent l) (h : Ahead lex pre l bad) :
    Reads (lexScanExponent jsonpStrtod n (headGot bad l) lex) (realToken jsonpStrtod pre) l
      bad := by
  obtain ⟨hstream, hsaved⟩ := h.ungetUnsave
  rw [lexScanExponent, hl.is_headGot]
  refine ⟨_, ?_, hstream⟩
  rw [hsaved]
  rfl

/-- Behind the letter of an exponent, and its sign, there are digits. -/
theorem lexScanExponent_cons (hb : isExponent b = .true) {sign : List Byte} (hsign : SignText sign)
    (hl : sign = [] → Stops isSign l) (h : Ahead lex pre (b :: (sign ++ l)) bad) :
    ∃ lex', lexScanExponent jsonpStrtod n (headGot bad (b :: (sign ++ l))) lex =
      lexScanPower jsonpStrtod n (headGot bad l) lex' ∧ Ahead lex' (pre ++ b :: sign) l bad := by
  have hgo : (headGot bad (b :: (sign ++ l))).is isExponent = .true := hb
  obtain ⟨hgot, hahead⟩ := Ahead.getSave h
  rw [lexScanExponent, if_pos hgo, hgot]
  cases hsign with
  | none =>
    rw [List.nil_append, (hl rfl).is_headGot]
    exact ⟨_, rfl, hahead⟩
  | @sign s hs =>
    have hgo' : (headGot bad ([s] ++ l)).is isSign = .true := hs
    obtain ⟨hgot', hahead'⟩ := Ahead.getSave hahead
    rw [if_pos hgo', hgot']
    rw [List.append_assoc] at hahead'
    exact ⟨_, rfl, hahead'⟩

/-- **The exponent is read**, or it is refused. -/
theorem lexScanExponent_sound (h : Ahead lex pre l bad) (hn : l.length < n) :
    Refuses (lexScanExponent jsonpStrtod n (headGot bad l) lex) ∨
      ∃ text rest, l = text ++ rest ∧ ExponentText text ∧ (text = [] → Stops isExponent l) ∧
        Reads (lexScanExponent jsonpStrtod n (headGot bad l) lex)
          (realToken jsonpStrtod (pre ++ text)) rest bad := by
  by_cases hl : Stops isExponent l
  · refine .inr ⟨[], l, rfl, .none, fun _ => hl, ?_⟩
    rw [List.append_nil]
    exact lexScanExponent_none jsonpStrtod hl h
  · obtain ⟨b, l, rfl, hb⟩ := exists_cons_of_not_stops hl
    obtain ⟨sign, l, rfl, hsign, hl⟩ := exists_signText l
    obtain ⟨lex', hrun, hahead⟩ := lexScanExponent_cons jsonpStrtod (n := n) hb hsign hl h
    rw [hrun]
    obtain ⟨ds, rest, rfl, hds, hrest⟩ := exists_stops isDigit l
    by_cases hnil : ds = []
    · rw [hnil, List.nil_append]
      exact .inl (refuses_lexScanPower jsonpStrtod hrest)
    · refine .inr ⟨b :: (sign ++ ds), rest, ?_, .power hb hsign ⟨hnil, hds⟩,
        fun h => absurd h (List.cons_ne_nil _ _), ?_⟩
      · rw [List.cons_append, List.append_assoc]
      · have hlength : ds.length < n := by
          simp only [List.length_cons, List.length_append] at hn
          omega
        have hreads := lexScanPower_digits jsonpStrtod ⟨hnil, hds⟩ hrest hahead hlength
        rwa [List.append_assoc, List.cons_append] at hreads

/-- **The exponent of a number** is read. -/
theorem lexScanExponent_text (ht : ExponentText ds) (hrest : Stops isWord rest)
    (h : Ahead lex pre (ds ++ rest) bad) (hn : ds.length < n) :
    Reads (lexScanExponent jsonpStrtod n (headGot bad (ds ++ rest)) lex)
      (realToken jsonpStrtod (pre ++ ds)) rest bad := by
  cases ht with
  | none =>
    rw [List.append_nil]
    exact lexScanExponent_none jsonpStrtod (hrest.imp isWord_of_isExponent) h
  | @power b sign ds hb hsign hds =>
    rw [List.cons_append, List.append_assoc] at h ⊢
    have hl : sign = [] → Stops isSign (ds ++ rest) := by
      intro _
      obtain ⟨d, ds, rfl⟩ := List.exists_cons_of_ne_nil hds.ne_nil
      exact stops_cons (isSign_of_isDigit (hds.isDigit d List.mem_cons_self))
    obtain ⟨lex', hrun, hahead⟩ := lexScanExponent_cons jsonpStrtod (n := n) hb hsign hl h
    rw [hrun]
    have hlength : ds.length < n := by
      simp only [List.length_cons, List.length_append] at hn
      omega
    have hreads := lexScanPower_digits jsonpStrtod hds (hrest.imp isWord_of_isDigit) hahead hlength
    rwa [List.append_assoc, List.cons_append] at hreads

/-- A number without a fraction and an exponent is an integer. -/
theorem lexScanFraction_integer (hpoint : Stops (· = 0x2E) l) (hl : Stops isExponent l)
    (h : Ahead lex pre l bad) :
    Reads (lexScanFraction jsonpStrtod n (headGot bad l) lex) (integerToken pre) l bad := by
  obtain ⟨hstream, hsaved⟩ := h.ungetUnsave
  rw [lexScanFraction, hpoint.is_headGot, hl.is_headGot]
  refine ⟨_, ?_, hstream⟩
  rw [hsaved]
  rfl

/-- A number without a fraction goes on with its exponent. -/
theorem lexScanFraction_exponent (hpoint : Stops (· = 0x2E) l) (hl : ¬ Stops isExponent l) :
    lexScanFraction jsonpStrtod n (headGot bad l) lex =
      lexScanExponent jsonpStrtod n (headGot bad l) lex := by
  obtain ⟨b, l, rfl, hb⟩ := exists_cons_of_not_stops hl
  have hgo : (headGot bad (b :: l)).is isExponent = .true := hb
  rw [lexScanFraction, hpoint.is_headGot, if_pos hgo]
  rfl

/-- A fraction is read, and the number goes on with its exponent. -/
theorem lexScanFraction_point (hds : Digits ds) (hrest : Stops isDigit rest)
    (h : Ahead lex pre (0x2E :: (ds ++ rest)) bad) (hn : ds.length < n) :
    ∃ lex', lexScanFraction jsonpStrtod n (headGot bad (0x2E :: (ds ++ rest))) lex =
      lexScanExponent jsonpStrtod n (headGot bad rest) lex' ∧
        Ahead lex' (pre ++ 0x2E :: ds) rest bad := by
  obtain ⟨d, ds, rfl⟩ := List.exists_cons_of_ne_nil hds.ne_nil
  obtain ⟨hgot, hahead⟩ := Ahead.getSave h
  obtain ⟨hgot', hahead'⟩ := Ahead.getSave hahead
  have hd : lex.get.1.is isDigit = .true := by
    have hbyte : lex.get.1 = headGot bad (d :: ds ++ rest) := hgot
    rw [hbyte]
    exact hds.isDigit d List.mem_cons_self
  obtain ⟨lex', hrun, hahead''⟩ := getWhile_spec
    (fun x hx => hds.isDigit x (List.mem_cons_of_mem _ hx)) hrest hahead' (Nat.lt_of_succ_lt hn)
  simp only [List.append_assoc, List.cons_append, List.nil_append] at hahead''
  refine ⟨lex', ?_, hahead''⟩
  have hpoint : (headGot bad (0x2E :: (d :: ds ++ rest))).is (· = 0x2E) = .true := rfl
  have hsave : lex.get.2.save lex.get.1 = lex.getSave.2 := rfl
  rw [lexScanFraction, if_pos hpoint, if_pos hd]
  dsimp only
  rw [hsave, hgot', List.append_eq, hrun]

/-- Where there are no digits, the fraction is refused. -/
theorem refuses_lexScanFraction (hl : Stops isDigit l) (h : Ahead lex pre (0x2E :: l) bad) :
    Refuses (lexScanFraction jsonpStrtod n (headGot bad (0x2E :: l)) lex) := by
  obtain ⟨hgot, -⟩ := Ahead.getSave h
  have hd : lex.get.1.is isDigit = .false := by
    have hbyte : lex.get.1 = headGot bad l := hgot
    rw [hbyte, hl.is_headGot]
  show Refuses (if lex.get.1.is isDigit then _ else _)
  rw [hd]
  exact ⟨none, _, rfl⟩

/-- What a number is: an integer if nothing follows its digits, or a real number. -/
def numberToken (text tail : List Byte) : Token :=
  if tail = [] then integerToken text else realToken jsonpStrtod text

theorem numberToken_nil (text : List Byte) :
    numberToken jsonpStrtod text [] = integerToken text := rfl

theorem numberToken_of_ne_nil {tail : List Byte} (h : tail ≠ []) (text : List Byte) :
    numberToken jsonpStrtod text tail = realToken jsonpStrtod text := if_neg h

/-- **The fraction and the exponent are read**, or they are refused. -/
theorem lexScanFraction_sound (h : Ahead lex pre l bad) (hn : l.length < n) :
    Refuses (lexScanFraction jsonpStrtod n (headGot bad l) lex) ∨
      ∃ fraction exponent rest, l = fraction ++ exponent ++ rest ∧ FractionText fraction ∧
        ExponentText exponent ∧ Reads (lexScanFraction jsonpStrtod n (headGot bad l) lex)
          (numberToken jsonpStrtod (pre ++ (fraction ++ exponent)) (fraction ++ exponent))
            rest bad := by
  by_cases hpoint : Stops (· = 0x2E) l
  · by_cases hl : Stops isExponent l
    · refine .inr ⟨[], [], l, rfl, .none, .none, ?_⟩
      rw [List.nil_append, List.append_nil]
      exact lexScanFraction_integer jsonpStrtod hpoint hl h
    · rw [lexScanFraction_exponent jsonpStrtod hpoint hl]
      rcases lexScanExponent_sound jsonpStrtod h hn with
        hrefuses | ⟨text, rest, rfl, ht, hstops, hreads⟩
      · exact .inl hrefuses
      · refine .inr ⟨[], text, rest, rfl, .none, ht, ?_⟩
        rw [List.nil_append, numberToken_of_ne_nil jsonpStrtod fun hnil => hl (hstops hnil)]
        exact hreads
  · obtain ⟨b, l, rfl, hb⟩ := exists_cons_of_not_stops hpoint
    obtain rfl := of_decide_eq_true hb
    obtain ⟨ds, l, rfl, hds, hl⟩ := exists_stops isDigit l
    by_cases hnil : ds = []
    · rw [hnil, List.nil_append] at h ⊢
      exact .inl (refuses_lexScanFraction jsonpStrtod hl h)
    · have hlength : ds.length < n ∧ l.length < n := by
        simp only [List.length_cons, List.length_append] at hn
        omega
      obtain ⟨lex', hrun, hahead⟩ :=
        lexScanFraction_point jsonpStrtod ⟨hnil, hds⟩ hl h hlength.1
      rw [hrun]
      rcases lexScanExponent_sound jsonpStrtod hahead hlength.2 with
        hrefuses | ⟨text, rest, rfl, ht, -, hreads⟩
      · exact .inl hrefuses
      · refine .inr ⟨0x2E :: ds, text, rest, ?_, .point ⟨hnil, hds⟩, ht, ?_⟩
        · rw [List.cons_append, List.cons_append, List.append_assoc]
        · have hne : 0x2E :: ds ++ text ≠ [] := List.cons_ne_nil _ _
          rw [numberToken_of_ne_nil jsonpStrtod hne, ← List.append_assoc]
          exact hreads

/-- **The fraction and the exponent of a number** are read. -/
theorem lexScanFraction_text {fraction exponent : List Byte} (hfraction : FractionText fraction)
    (hexponent : ExponentText exponent) (hrest : Stops isWord rest)
    (h : Ahead lex pre (fraction ++ (exponent ++ rest)) bad)
    (hn : (fraction ++ exponent).length < n) :
    Reads (lexScanFraction jsonpStrtod n (headGot bad (fraction ++ (exponent ++ rest))) lex)
      (numberToken jsonpStrtod (pre ++ (fraction ++ exponent)) (fraction ++ exponent))
        rest bad := by
  cases hfraction with
  | none =>
    cases hexponent with
    | none =>
      rw [List.append_nil, List.append_nil]
      exact lexScanFraction_integer jsonpStrtod (hrest.imp isWord_of_isPoint)
        (hrest.imp isWord_of_isExponent) h
    | @power b sign ds hb hsign hds =>
      rw [List.nil_append] at h ⊢
      have hpoint : Stops (· = 0x2E) (b :: (sign ++ ds) ++ rest) :=
        stops_cons (isPoint_of_isExponent hb)
      have hl : ¬ Stops isExponent (b :: (sign ++ ds) ++ rest) := by
        intro hstops
        exact Bool.false_ne_true ((hstops b rfl).symm.trans hb)
      rw [lexScanFraction_exponent jsonpStrtod hpoint hl]
      exact lexScanExponent_text jsonpStrtod (.power hb hsign hds) hrest h hn
  | @point ds hds =>
    have hlength : ds.length < n ∧ exponent.length < n := by
      simp only [List.length_cons, List.length_append] at hn
      omega
    have hl : Stops isDigit (exponent ++ rest) := by
      cases hexponent with
      | none => exact hrest.imp isWord_of_isDigit
      | @power b sign ds hb hsign hds => exact stops_cons (isDigit_of_isExponent hb)
    obtain ⟨lex', hrun, hahead⟩ := lexScanFraction_point jsonpStrtod hds hl h hlength.1
    rw [List.cons_append, hrun]
    have hreads := lexScanExponent_text jsonpStrtod hexponent hrest hahead hlength.2
    rw [List.append_assoc, List.cons_append] at hreads
    exact hreads

/-- **The digits in front of the point** are read. -/
theorem lexScanDigits_whole (hds : WholeText ds) (hl : Stops isDigit l)
    (h : Ahead lex pre (ds ++ l) bad) (hn : ds.length < n) :
    ∃ lex', lexScanDigits jsonpStrtod n (headGot bad (ds ++ l)) lex =
      lexScanFraction jsonpStrtod n (headGot bad l) lex' ∧ Ahead lex' (pre ++ ds) l bad := by
  obtain ⟨d, ds, rfl⟩ := List.exists_cons_of_ne_nil hds.ne_nil
  obtain ⟨hgot, hahead⟩ := Ahead.getSave h
  by_cases hzero : d = 0x30
  · obtain ⟨-, rfl⟩ := List.cons.inj (hds.zero (congrArg some hzero))
    have hgo : (headGot bad ([d] ++ l)).is (· = 0x30) = .true := decide_eq_true hzero
    rw [lexScanDigits, if_pos hgo, hgot, List.append_eq, List.nil_append, hl.is_headGot]
    exact ⟨_, rfl, hahead⟩
  · have hgo : (headGot bad (d :: ds ++ l)).is (· = 0x30) = .false := decide_eq_false hzero
    have hd : (headGot bad (d :: ds ++ l)).is isDigit = .true := hds.isDigit d List.mem_cons_self
    obtain ⟨lex', hrun, hahead'⟩ := getWhile_spec
      (fun x hx => hds.isDigit x (List.mem_cons_of_mem _ hx)) hl hahead (Nat.lt_of_succ_lt hn)
    rw [List.append_assoc] at hahead'
    rw [lexScanDigits, hgo, if_neg Bool.false_ne_true, if_pos hd, hgot, List.append_eq, hrun]
    exact ⟨lex', rfl, hahead'⟩

/-- **The digits in front of the point are read**, or they are refused. -/
theorem lexScanDigits_sound (h : Ahead lex pre l bad) (hn : l.length < n) :
    Refuses (lexScanDigits jsonpStrtod n (headGot bad l) lex) ∨
      ∃ ds l' lex', l = ds ++ l' ∧ WholeText ds ∧
        lexScanDigits jsonpStrtod n (headGot bad l) lex =
          lexScanFraction jsonpStrtod n (headGot bad l') lex' ∧ Ahead lex' (pre ++ ds) l' bad := by
  obtain ⟨ds, l, rfl, hds, hl⟩ := exists_stops isDigit l
  have hlength : ds.length < n := by
    rw [List.length_append] at hn
    omega
  cases ds with
  | nil =>
    have hzero : Stops (· = 0x30) l := hl.imp isDigit_of_isZero
    rw [List.nil_append, lexScanDigits, hzero.is_headGot, hl.is_headGot]
    exact .inl ⟨none, _, rfl⟩
  | cons d ds =>
    by_cases hwhole : d = 0x30 ∧ ds ≠ []
    · obtain ⟨rfl, hne⟩ := hwhole
      obtain ⟨d', ds, rfl⟩ := List.exists_cons_of_ne_nil hne
      obtain ⟨hgot, -⟩ := Ahead.getSave h
      have hgo : (headGot bad (0x30 :: d' :: ds ++ l)).is (· = 0x30) = .true := rfl
      have hd' : (headGot bad (d' :: ds ++ l)).is isDigit = .true :=
        hds d' (List.mem_cons_of_mem _ List.mem_cons_self)
      rw [lexScanDigits, if_pos hgo, hgot, List.append_eq, if_pos hd']
      exact .inl ⟨none, _, rfl⟩
    · have htext : WholeText (d :: ds) := by
        refine ⟨⟨List.cons_ne_nil _ _, hds⟩, ?_⟩
        intro hhead
        have hd : d = 0x30 := Option.some.inj hhead
        have hnil : ds = [] := by
          by_contra hne
          exact hwhole ⟨hd, hne⟩
        rw [hd, hnil]
      obtain ⟨lex', hrun, hahead⟩ := lexScanDigits_whole jsonpStrtod htext hl h hlength
      exact .inr ⟨d :: ds, l, lex', rfl, htext, hrun, hahead⟩

/-- **A number is read.** -/
theorem lexScanNumber_text {text tail : List Byte} (ht : NumberText (b :: text) tail)
    (hrest : Stops isWord rest) (h : Ahead lex [] (b :: (text ++ rest)) bad)
    (hn : (b :: text).length < n) :
    Reads (lexScanNumber jsonpStrtod n b lex) (numberToken jsonpStrtod (b :: text) tail)
      rest bad := by
  generalize htext : b :: text = number at ht
  obtain @⟨minus, whole, fraction, exponent, hminus, hwhole, hfraction, hexponent⟩ := ht
  have hl : Stops isDigit (fraction ++ (exponent ++ rest)) := by
    cases hfraction with
    | none =>
      cases hexponent with
      | none => exact hrest.imp isWord_of_isDigit
      | @power b sign ds hb hsign hds => exact stops_cons (isDigit_of_isExponent hb)
    | @point ds hds => exact stops_cons (by decide)
  have hdigits : ∀ pre lex, Ahead lex pre (whole ++ (fraction ++ (exponent ++ rest))) bad →
      Reads (lexScanDigits jsonpStrtod n (headGot bad (whole ++ (fraction ++ (exponent ++ rest))))
        lex) (numberToken jsonpStrtod (pre ++ (whole ++ (fraction ++ exponent)))
          (fraction ++ exponent)) rest bad := by
    intro pre lex h
    have hlength := congrArg List.length htext
    simp only [List.length_cons, List.length_append] at hlength hn
    have hwholeLength : whole.length < n := by omega
    obtain ⟨lex', hrun, hahead⟩ := lexScanDigits_whole jsonpStrtod hwhole hl h hwholeLength
    rw [hrun, ← List.append_assoc pre]
    refine lexScanFraction_text jsonpStrtod hfraction hexponent hrest hahead ?_
    rw [List.length_append]
    omega
  cases hminus with
  | none =>
    obtain ⟨d, ds, rfl⟩ := List.exists_cons_of_ne_nil hwhole.ne_nil
    obtain ⟨rfl, rfl⟩ := List.cons.inj htext
    have hne : b ≠ 0x2D := ne_minus_of_isDigit (hwhole.isDigit b List.mem_cons_self)
    rw [lexScanNumber, if_neg hne]
    have h' := hdigits [] lex
    simp only [List.append_eq, List.append_assoc, List.nil_append, List.cons_append] at h h' ⊢
    exact h' h
  | minus =>
    obtain ⟨rfl, rfl⟩ := List.cons.inj htext
    obtain ⟨hgot, hahead⟩ := Ahead.getSave h
    rw [lexScanNumber, if_pos rfl, hgot]
    have h' := hdigits [0x2D] lex.getSave.2
    simp only [List.append_eq, List.append_assoc, List.nil_append, List.singleton_append]
      at hahead h' ⊢
    exact h' hahead

/-- **A number is read**, or it is refused. -/
theorem lexScanNumber_sound (h : Ahead lex [] (b :: l) bad) (hn : (b :: l).length < n) :
    Refuses (lexScanNumber jsonpStrtod n b lex) ∨
      ∃ text tail rest, b :: l = text ++ rest ∧ NumberText text tail ∧
        Reads (lexScanNumber jsonpStrtod n b lex) (numberToken jsonpStrtod text tail) rest bad := by
  obtain ⟨minus, l', lex', hminus, hl, hrun, hahead⟩ : ∃ minus l' lex', MinusText minus ∧
      b :: l = minus ++ l' ∧ lexScanNumber jsonpStrtod n b lex =
        lexScanDigits jsonpStrtod n (headGot bad l') lex' ∧ Ahead lex' minus l' bad := by
    by_cases hb : b = 0x2D
    · obtain ⟨hgot, hahead⟩ := Ahead.getSave h
      refine ⟨[0x2D], l, lex.getSave.2, .minus, by rw [hb]; rfl, ?_, hb ▸ hahead⟩
      rw [lexScanNumber, if_pos hb, hgot]
    · refine ⟨[], b :: l, lex, .none, rfl, ?_, h⟩
      rw [lexScanNumber, if_neg hb]
      rfl
  rw [hl, List.length_append] at hn
  have hlength : l'.length < n := by omega
  rw [hrun]
  rcases lexScanDigits_sound jsonpStrtod hahead hlength with
    hrefuses | ⟨whole, l1, lex1, rfl, hwhole, hrun1, hahead1⟩
  · exact .inl hrefuses
  · rw [List.length_append] at hlength
    have hlength1 : l1.length < n := by omega
    rw [hrun1]
    rcases lexScanFraction_sound jsonpStrtod hahead1 hlength1 with
      hrefuses | ⟨fraction, exponent, rest, rfl, hfraction, hexponent, hreads⟩
    · exact .inl hrefuses
    · refine .inr ⟨minus ++ (whole ++ (fraction ++ exponent)), fraction ++ exponent, rest, ?_,
        .mk hminus hwhole hfraction hexponent, ?_⟩
      · rw [hl, List.append_assoc minus, List.append_assoc whole]
      · rw [List.append_assoc minus] at hreads
        exact hreads

end Number

end Jansson

end Lcm
