import Lcm.Jansson.Load
import Mathlib.Data.List.GetD

/-!
# The stream of a text

The stream delivers the bytes of a text one by one, as long as they are UTF-8, and then the end of
the text or an error.  The lexical analyzer is mostly one byte ahead of what it has read, and puts
that byte back.

## Main definitions

* `IsText` : bytes that are UTF-8, without a terminator.
* `Delivers` : what a stream will deliver.
* `Ahead` : the analyzer has read a byte too much.

## Main results

* `exists_delivers_init` : what a stream delivers at all.
* `Delivers.getSave`, `Ahead.getSave`, `Ahead.ungetUnsave` : a byte is got, or put back.
* `getWhile_spec`, `skipSpace_spec` : the loops of the analyzer.
-/

namespace Lcm

namespace Jansson

variable {s : Stream} {lex : Lex} {l ds pre rest ws input : List Byte} {b : Byte} {n : ℕ} {c : Char}
  {p : Byte → Bool} {bad : Bool}

/-! ### Texts -/

/-- Bytes that are UTF-8, without a terminator. -/
def IsText (l : List Byte) : Prop := ∃ cs : List Char, Char.ofNat 0 ∉ cs ∧ l = encodeChars cs

theorem IsText.append {l' : List Byte} (h : IsText l) (h' : IsText l') : IsText (l ++ l') := by
  obtain ⟨cs, hcs, rfl⟩ := h
  obtain ⟨cs', hcs', rfl⟩ := h'
  refine ⟨cs ++ cs', ?_, (encodeChars_append cs cs').symm⟩
  rw [List.mem_append, not_or]
  exact ⟨hcs, hcs'⟩

theorem isText_nil : IsText [] := ⟨[], List.not_mem_nil, rfl⟩

/-- The bytes of a character beyond ASCII are beyond ASCII. -/
theorem le_of_mem_encodeChar (h : 0x80 ≤ c.toNat) (hb : b ∈ encodeChar c) : 0x80 ≤ b.toNat := by
  have hmax := toNat_le c
  obtain hone | ⟨-, h'⟩ | ⟨h, h'⟩ | h := size_cases c
  · exact absurd hone (Nat.not_lt.2 h)
  · simp only [encodeChar_two h h', List.mem_cons, List.not_mem_nil, or_false] at hb
    rcases hb with rfl | rfl <;> rw [toNat_ofNat_byte (by omega)] <;> omega
  · simp only [encodeChar_three h h', List.mem_cons, List.not_mem_nil, or_false] at hb
    rcases hb with rfl | rfl | rfl <;> rw [toNat_ofNat_byte (by omega)] <;> omega
  · simp only [encodeChar_four h, List.mem_cons, List.not_mem_nil, or_false] at hb
    rcases hb with rfl | rfl | rfl | rfl <;> rw [toNat_ofNat_byte (by omega)] <;> omega

theorem zero_notMem_encodeChar (h : c ≠ Char.ofNat 0) : 0 ∉ encodeChar c := by
  intro hmem
  by_cases hsmall : c.toNat < 0x80
  · rw [encodeChar_one hsmall, List.mem_singleton] at hmem
    have hzero : c.toNat = 0 := by
      have htoNat := congrArg BitVec.toNat hmem
      rw [toNat_ofNat_byte (by omega)] at htoNat
      exact htoNat.symm
    refine h (Char.ext (UInt32.toNat_inj.1 ?_))
    exact hzero
  · have hle := le_of_mem_encodeChar (Nat.not_lt.1 hsmall) hmem
    exact absurd hle (by decide)

theorem IsText.zero_notMem (h : IsText l) : 0 ∉ l := by
  obtain ⟨cs, hcs, rfl⟩ := h
  rw [encodeChars, List.mem_flatMap, not_exists]
  rintro c ⟨hc, hmem⟩
  exact zero_notMem_encodeChar (fun heq => hcs (heq ▸ hc)) hmem

/-- ASCII characters. -/
theorem isText_of_ascii (h : ∀ b ∈ l, b ≠ 0 ∧ b.toNat < 0x80) : IsText l := by
  induction l with
  | nil => exact isText_nil
  | cons b l ih =>
    obtain ⟨hne, hlt⟩ := h b List.mem_cons_self
    obtain ⟨cs, hcs, rfl⟩ := ih fun b hb => h b (List.mem_cons_of_mem _ hb)
    obtain ⟨c, hc⟩ := exists_toNat (v := b.toNat) (by omega) (by omega)
    refine ⟨c :: cs, ?_, ?_⟩
    · rw [List.mem_cons, not_or]
      refine ⟨?_, hcs⟩
      rintro rfl
      exact hne (BitVec.eq_of_toNat_eq hc.symm)
    · rw [encodeChars_cons, encodeChar_one (hc ▸ hlt), hc, ofNat_toNat_byte b rfl]
      rfl

/-- What is behind an ASCII character is a text again, and so is what is before it. -/
theorem isText_of_append_cons {l' : List Byte} (hb : b.toNat < 0x80) (h : IsText (l ++ b :: l')) :
    IsText l ∧ IsText l' := by
  obtain ⟨cs, hcs, heq⟩ := h
  induction cs generalizing l with
  | nil => exact absurd heq (List.append_ne_nil_of_right_ne_nil _ (List.cons_ne_nil _ _))
  | cons c cs ih =>
    have hcs' : Char.ofNat 0 ∉ cs := fun hmem => hcs (List.mem_cons_of_mem _ hmem)
    have hc : c ≠ Char.ofNat 0 := fun hzero => hcs (hzero ▸ List.mem_cons_self)
    rw [encodeChars_cons, List.append_eq_append_iff] at heq
    rcases heq with ⟨l1, hchar, hrest⟩ | ⟨l1, hl, hrest⟩
    · cases l1 with
      | nil =>
        rw [List.append_nil] at hchar
        obtain ⟨-, htext⟩ := ih hcs' (l := []) hrest
        refine ⟨⟨[c], ?_, ?_⟩, htext⟩
        · rw [List.mem_singleton]
          exact hc.symm
        · rw [← hchar, encodeChars_cons, encodeChars, List.flatMap_nil, List.append_nil]
      | cons x l1 =>
        rw [List.cons_append, List.cons.injEq] at hrest
        obtain ⟨rfl, hrest⟩ := hrest
        have hsmall : c.toNat < 0x80 := by
          by_contra hlarge
          have hle := le_of_mem_encodeChar (Nat.not_lt.1 hlarge)
            (hchar ▸ List.mem_append_right l List.mem_cons_self)
          exact absurd hb (Nat.not_lt.2 hle)
        rw [encodeChar_one hsmall] at hchar
        obtain ⟨rfl, hone⟩ := List.singleton_eq_append_iff.1 hchar |>.resolve_right
          fun h => List.cons_ne_nil _ _ h.2
        obtain ⟨-, rfl⟩ := List.cons.inj hone
        exact ⟨isText_nil, ⟨cs, hcs', hrest⟩⟩
    · obtain ⟨htext, htext'⟩ := ih hcs' hrest.symm
      rw [hl]
      refine ⟨IsText.append ⟨[c], ?_, ?_⟩ htext, htext'⟩
      · rw [List.mem_singleton]
        exact hc.symm
      · rw [encodeChars_cons, encodeChars, List.flatMap_nil, List.append_nil]

/-! ### The stream -/

/-- What `get` returns behind the text: its end, or an error. -/
def ending (bad : Bool) : Got := if bad then .error else .eof

/-- The first byte, or what is behind the text. -/
def headGot (bad : Bool) : List Byte → Got
  | [] => ending bad
  | b :: _ => .byte b

/-- The input begins with a text, and what is behind it is refused. -/
def Splits (input text : List Byte) (bad : Bool) : Prop :=
  IsText text ∧ ∃ other, input = text ++ other ∧ (bad = .false → other = []) ∧
    (bad = .true → ∀ s : Stream, s.input = other →
      ∃ error, s.fill = { s with state := .error error })

/-- What a stream will deliver. -/
structure Delivers (s : Stream) (l : List Byte) (bad : Bool) : Prop where
  text : ∃ text, s.buffer.drop s.bufferPos ++ text = l ∧ Splits s.input text bad
  pos : s.bufferPos ≤ s.buffer.length
  state : s.state = .ok ∨ l = [] ∧
    (s.state = .eof ∧ bad = .false ∨ (∃ error, s.state = .error error) ∧ bad = .true)

/-- A sequence is fetched as a whole. -/
theorem Stream.fill_encodeChar (hinput : s.input = encodeChar c ++ rest) :
    s.fill = { s with input := rest, buffer := encodeChar c, bufferPos := 0 } := by
  obtain ⟨u, bytes, hbytes, hfirst, hone, hval⟩ := exists_encodeChar c
  rw [Stream.fill, hinput, hbytes, List.cons_append]
  dsimp only
  have hlow : u < 0x80 ↔ u.toNat < 0x80 := BitVec.lt_def
  by_cases hsmall : c.toNat < 0x80
  · rw [if_pos (hlow.2 (hval hsmall ▸ hsmall)), hone.1 hsmall]
    rfl
  · have hlarge : ¬ u < 0x80 := by
      rw [hlow, Nat.not_lt]
      exact le_of_mem_encodeChar (Nat.not_lt.1 hsmall) (hbytes ▸ List.mem_cons_self)
    have htake : (u :: (bytes ++ rest)).take (bytes.length + 1) = u :: bytes := by
      rw [List.take_succ_cons, List.take_left]
    have hdrop : (u :: (bytes ++ rest)).drop (bytes.length + 1) = rest := by
      rw [List.drop_succ_cons, List.drop_left]
    have hcheck : utf8CheckFull (u :: bytes) = some c.toNat :=
      hbytes ▸ utf8CheckFull_encodeChar (Nat.not_lt.1 hsmall)
    rw [if_neg hlarge, hfirst, htake, hdrop, if_neg]
    rw [hcheck]
    simp

/-- **An input begins with a character, or it is refused.** -/
theorem encodeChar_or_refused (b : Byte) (l : List Byte) :
    (∃ c rest, b :: l = encodeChar c ++ rest) ∨ ∀ s : Stream, s.input = b :: l →
      ∃ error, s.fill = { s with state := .error error } := by
  have hlow : b < 0x80 ↔ b.toNat < 0x80 := BitVec.lt_def
  by_cases hsmall : b < 0x80
  · obtain ⟨c, hc⟩ := exists_toNat (v := b.toNat) (by omega) (by omega)
    refine .inl ⟨c, l, ?_⟩
    rw [encodeChar_one (hc ▸ hlow.1 hsmall), hc, ofNat_toNat_byte b rfl]
    rfl
  · by_cases hbad : utf8CheckFirst b = 0 ∨
        ((b :: l).take (utf8CheckFirst b)).length < utf8CheckFirst b ∨
          utf8CheckFull ((b :: l).take (utf8CheckFirst b)) = none
    · refine .inr ?_
      intro s hs
      refine ⟨s!"unable to decode byte 0x{hexText b.toNat}", ?_⟩
      rw [Stream.fill, hs]
      dsimp only
      rw [if_neg hsmall, if_pos hbad]
    · rw [not_or, not_or, Nat.not_lt] at hbad
      obtain ⟨hne, hlength, hcheck⟩ := hbad
      obtain ⟨k, hk⟩ := Nat.exists_eq_succ_of_ne_zero hne
      obtain ⟨v, hv⟩ := Option.ne_none_iff_exists'.1 hcheck
      rw [hk, List.take_succ_cons] at hlength hv
      rw [List.length_cons, List.length_take] at hlength
      have htake : utf8CheckFirst b = (l.take k).length + 1 := by
        rw [hk, List.length_take]
        omega
      obtain ⟨c, hc⟩ := exists_of_utf8CheckFull htake hv
      refine .inl ⟨c, l.drop k, ?_⟩
      rw [hc, List.cons_append, List.take_append_drop]

/-- **Every input begins with a text**, which may be all of it. -/
theorem exists_splits (h : 0 ∉ input) : ∃ text bad, Splits input text bad := by
  induction hn : input.length using Nat.strong_induction_on generalizing input with
  | _ n ih =>
    cases input with
    | nil => exact ⟨[], .false, isText_nil, [], rfl, fun _ => rfl, by simp⟩
    | cons b l =>
      rcases encodeChar_or_refused b l with ⟨c, rest, hchar⟩ | hrefused
      · have hc : c ≠ Char.ofNat 0 := by
          rintro rfl
          refine h (hchar ▸ List.mem_append_left rest ?_)
          rw [encodeChar_one (by decide)]
          exact List.mem_cons_self
        have hpos : 0 < (encodeChar c).length := by
          obtain ⟨u, bytes, hbytes, -⟩ := exists_encodeChar c
          rw [hbytes]
          exact Nat.succ_pos _
        have hlength := congrArg List.length hchar
        rw [List.length_append] at hlength
        have hrest : 0 ∉ rest := fun hmem => h (hchar ▸ List.mem_append_right _ hmem)
        obtain ⟨text, bad, htext, other, rfl, hother, hbad⟩ :=
          ih rest.length (by omega) hrest rfl
        refine ⟨encodeChar c ++ text, bad, IsText.append ⟨[c], ?_, ?_⟩ htext, other, ?_, hother,
          hbad⟩
        · rw [List.mem_singleton]
          exact hc.symm
        · rw [encodeChars_cons, encodeChars, List.flatMap_nil, List.append_nil]
        · rw [hchar, List.append_assoc]
      · exact ⟨[], .true, isText_nil, b :: l, rfl, by simp, fun _ => hrefused⟩

/-- **What a stream delivers**: the text at the beginning of the string, and all of the string
unless there is an error behind that text. -/
theorem exists_delivers_init (string : List Byte) : ∃ text bad,
    Delivers (Stream.init string) text bad ∧ IsText text ∧
      ∃ other, string.takeWhile (· ≠ 0) = text ++ other ∧ (bad = .false → other = []) := by
  have hzero : 0 ∉ string.takeWhile (· ≠ 0) := by
    intro hmem
    exact absurd (List.mem_takeWhile_imp hmem) (by decide)
  obtain ⟨text, bad, hsplits⟩ := exists_splits hzero
  obtain ⟨htext, other, hinput, hother, -⟩ := id hsplits
  exact ⟨text, bad, ⟨⟨text, rfl, hsplits⟩, Nat.le_refl 0, .inl rfl⟩, htext, other, hinput, hother⟩

theorem delivers_init {string : List Byte} (h : IsText (string.takeWhile (· ≠ 0))) :
    Delivers (Stream.init string) (string.takeWhile (· ≠ 0)) .false :=
  ⟨⟨_, rfl, h, [], (List.append_nil _).symm, fun _ => rfl, by simp⟩, Nat.le_refl 0, .inl rfl⟩

/-- A text goes on up to its end. -/
theorem IsText.takeWhile_eq (h : IsText l) : l.takeWhile (· ≠ 0) = l := by
  rw [List.takeWhile_eq_self_iff]
  intro b hb
  exact decide_eq_true fun heq => h.zero_notMem (heq ▸ hb)

/-- **The stream delivers the first byte.** -/
theorem Delivers.get_cons (h : Delivers s (b :: l) bad) : s.get.1 = .byte b ∧
    Delivers s.get.2 l bad ∧ Delivers (s.get.2.unget (.byte b)) (b :: l) bad := by
  have hstate : s.state = .ok := h.state.resolve_right fun hend => List.cons_ne_nil _ _ hend.1
  obtain ⟨text, htext, hsplits⟩ := h.text
  by_cases hpos : s.buffer.length ≤ s.bufferPos
  · rw [List.drop_eq_nil_of_le hpos, List.nil_append] at htext
    obtain ⟨⟨cs, hcs, heq⟩, other, hinput, hother, hbad⟩ := hsplits
    cases cs with
    | nil =>
      rw [htext] at heq
      cases heq
    | cons c cs =>
      rw [htext] at heq hinput
      rw [encodeChars_cons] at heq
      rw [heq, List.append_assoc] at hinput
      have hfill := Stream.fill_encodeChar hinput
      have hget : s.get = (.byte ((encodeChar c).getD 0 0), { s with
          input := encodeChars cs ++ other, buffer := encodeChar c, bufferPos := 1 }) := by
        rw [Stream.get, hstate]
        dsimp only
        rw [if_pos hpos, hfill]
        dsimp only
        rw [hstate]
      obtain ⟨u, bytes, hbytes, -⟩ := exists_encodeChar c
      have hcs' : IsText (encodeChars cs) :=
        ⟨cs, fun hmem => hcs (List.mem_cons_of_mem _ hmem), rfl⟩
      have hsplits' : Splits (encodeChars cs ++ other) (encodeChars cs) bad :=
        ⟨hcs', other, rfl, hother, hbad⟩
      rw [hbytes, List.cons_append, List.cons.injEq] at heq
      obtain ⟨rfl, rfl⟩ := heq
      rw [hget, hbytes]
      refine ⟨rfl, ⟨⟨_, rfl, hsplits'⟩, ?_, .inl hstate⟩, ⟨⟨_, rfl, hsplits'⟩, ?_, .inl hstate⟩⟩
      · exact Nat.le_add_left 1 _
      · exact Nat.zero_le _
  · have hlt := Nat.not_le.1 hpos
    have htext' := htext
    rw [List.drop_eq_getElem_cons hlt, List.cons_append, List.cons.injEq] at htext'
    obtain ⟨hb, hl⟩ := htext'
    have hget : s.get = (.byte b, { s with bufferPos := s.bufferPos + 1 }) := by
      rw [Stream.get, hstate]
      dsimp only
      rw [if_neg hpos, hstate]
      dsimp only
      rw [List.getD_eq_getElem _ _ hlt, hb]
    rw [hget]
    exact ⟨rfl, ⟨⟨text, hl, hsplits⟩, hlt, .inl hstate⟩,
      ⟨⟨text, htext, hsplits⟩, h.pos, .inl hstate⟩⟩

/-- **Behind the text**, the stream stays where it is. -/
theorem Delivers.get_nil (h : Delivers s [] bad) :
    s.get.1 = ending bad ∧ Delivers s.get.2 [] bad := by
  rcases h.state with hstate | ⟨-, ⟨hstate, rfl⟩ | ⟨⟨error, hstate⟩, rfl⟩⟩
  · obtain ⟨text, htext, hsplits⟩ := h.text
    obtain ⟨hdrop, rfl⟩ := List.append_eq_nil_iff.1 htext
    have hpos : s.buffer.length ≤ s.bufferPos := List.drop_eq_nil_iff.1 hdrop
    obtain ⟨-, other, hinput, hother, hbad⟩ := id hsplits
    cases bad with
    | false =>
      rw [hother rfl, List.append_nil] at hinput
      have hget : s.get = (.eof, { s with state := .eof }) := by
        rw [Stream.get, hstate]
        dsimp only
        rw [if_pos hpos, Stream.fill, hinput]
      rw [hget]
      exact ⟨rfl, ⟨⟨[], htext, hsplits⟩, h.pos, .inr ⟨rfl, .inl ⟨rfl, rfl⟩⟩⟩⟩
    | true =>
      obtain ⟨error, hfill⟩ := hbad rfl s hinput
      have hget : s.get = (.error, { s with state := .error error }) := by
        rw [Stream.get, hstate]
        dsimp only
        rw [if_pos hpos, hfill]
      rw [hget]
      exact ⟨rfl, ⟨⟨[], htext, hsplits⟩, h.pos, .inr ⟨rfl, .inr ⟨⟨error, rfl⟩, rfl⟩⟩⟩⟩
  · have hget : s.get = (.eof, s) := by
      rw [Stream.get, hstate]
    rw [hget]
    exact ⟨rfl, h⟩
  · have hget : s.get = (.error, s) := by
      rw [Stream.get, hstate]
    rw [hget]
    exact ⟨rfl, h⟩

/-! ### The analyzer -/

/-- The analyzer has read the first byte of `l` behind `pre`, if there is one. -/
structure Ahead (lex : Lex) (pre l : List Byte) (bad : Bool) : Prop where
  stream : Delivers lex.stream l.tail bad
  savedText : lex.savedText = pre ++ l.head?.toList
  unget : Delivers (lex.ungetUnsave (headGot bad l)).stream l bad

/-- **A byte is got and saved.** -/
theorem Delivers.getSave (h : Delivers lex.stream l bad) :
    lex.getSave.1 = headGot bad l ∧ Ahead lex.getSave.2 lex.savedText l bad := by
  cases l with
  | nil =>
    obtain ⟨hgot, hrest⟩ := h.get_nil
    have hgot' : lex.get.1 = ending bad := hgot
    rw [Lex.getSave, hgot']
    cases bad with
    | false => exact ⟨rfl, ⟨hrest, (List.append_nil _).symm, hrest⟩⟩
    | true => exact ⟨rfl, ⟨hrest, (List.append_nil _).symm, hrest⟩⟩
  | cons b l =>
    obtain ⟨hgot, hrest, hunget⟩ := h.get_cons
    have hgot' : lex.get.1 = .byte b := hgot
    rw [Lex.getSave, hgot']
    exact ⟨rfl, ⟨hrest, rfl, hunget⟩⟩

/-- A byte is got. -/
theorem Delivers.get (h : Delivers lex.stream l bad) :
    lex.get.1 = headGot bad l ∧ Delivers lex.get.2.stream l.tail bad ∧
      lex.get.2.savedText = lex.savedText := by
  cases l with
  | nil =>
    obtain ⟨hgot, hrest⟩ := h.get_nil
    exact ⟨hgot, hrest, rfl⟩
  | cons b l =>
    obtain ⟨hgot, hrest, -⟩ := h.get_cons
    exact ⟨hgot, hrest, rfl⟩

/-- **The next byte is got**, and the one before it is kept. -/
theorem Ahead.getSave (h : Ahead lex pre (b :: l) bad) :
    lex.getSave.1 = headGot bad l ∧ Ahead lex.getSave.2 (pre ++ [b]) l bad := by
  have hsaved : lex.savedText = pre ++ [b] := h.savedText
  rw [← hsaved]
  exact h.stream.getSave

/-- **The byte is put back.** -/
theorem Ahead.ungetUnsave (h : Ahead lex pre l bad) :
    Delivers (lex.ungetUnsave (headGot bad l)).stream l bad ∧
      (lex.ungetUnsave (headGot bad l)).savedText = pre := by
  refine ⟨h.unget, ?_⟩
  have hsaved := h.savedText
  cases l with
  | nil =>
    rw [List.head?_nil, Option.toList_none, List.append_nil] at hsaved
    cases bad with
    | false => exact hsaved
    | true => exact hsaved
  | cons b l =>
    show lex.savedText.dropLast = pre
    rw [hsaved]
    exact List.dropLast_concat

/-- What follows does not begin with one of some bytes. -/
def Stops (p : Byte → Bool) (rest : List Byte) : Prop := ∀ b ∈ rest.head?, p b = .false

theorem Stops.is_headGot (h : Stops p rest) (bad : Bool) : (headGot bad rest).is p = .false := by
  cases rest with
  | nil =>
    cases bad with
    | false => rfl
    | true => rfl
  | cons b rest => exact h b rfl

/-- Every text ends where some bytes stop. -/
theorem exists_stops (p : Byte → Bool) (l : List Byte) :
    ∃ ds rest, l = ds ++ rest ∧ (∀ d ∈ ds, p d = .true) ∧ Stops p rest := by
  refine ⟨l.takeWhile p, l.dropWhile p, List.takeWhile_append_dropWhile.symm, ?_, ?_⟩
  · intro d hd
    exact List.mem_takeWhile_imp hd
  · intro b hb
    have hstop := List.head?_dropWhile_not p l
    rwa [Option.mem_def.1 hb] at hstop

/-- **A loop that saves** goes on up to where the bytes stop. -/
theorem getWhile_spec (hds : ∀ d ∈ ds, p d = .true) (hrest : Stops p rest)
    (h : Ahead lex pre (ds ++ rest) bad) (hn : ds.length < n) :
    ∃ lex', Lex.getWhile p n (headGot bad (ds ++ rest)) lex = .ok (headGot bad rest, lex') ∧
      Ahead lex' (pre ++ ds) rest bad := by
  induction ds generalizing lex n pre with
  | nil =>
    obtain ⟨n, rfl⟩ := Nat.exists_eq_succ_of_ne_zero (Nat.ne_of_gt hn)
    refine ⟨lex, ?_, ?_⟩
    · rw [List.nil_append, Lex.getWhile, hrest.is_headGot]
      rfl
    · rwa [List.append_nil]
  | cons d ds ih =>
    obtain ⟨n, rfl⟩ := Nat.exists_eq_succ_of_ne_zero (Nat.ne_of_gt (Nat.lt_of_le_of_lt
      (Nat.zero_le _) hn))
    obtain ⟨hgot, hahead⟩ := Ahead.getSave h
    have hd : (headGot bad (d :: ds ++ rest)).is p = .true := hds d List.mem_cons_self
    obtain ⟨lex', hrun, hahead'⟩ :=
      ih (fun x hx => hds x (List.mem_cons_of_mem _ hx)) hahead (Nat.lt_of_succ_lt_succ hn)
    rw [List.append_assoc] at hahead'
    refine ⟨lex', ?_, hahead'⟩
    rw [Lex.getWhile, if_pos hd, hgot]
    exact hrun

/-- White space, of any length. -/
def Spaces (ws : List Byte) : Prop := ∀ d ∈ ws, isSpace d = .true

theorem skipSpace_spec (hws : Spaces ws) (hrest : Stops isSpace rest)
    (h : Delivers lex.stream (ws ++ rest) bad) (hn : ws.length < n) :
    ∃ lex', Lex.skipSpace n lex = .ok (headGot bad rest, lex') ∧
      Ahead (lex'.save (headGot bad rest)) lex.savedText rest bad := by
  induction ws generalizing lex n with
  | nil =>
    obtain ⟨n, rfl⟩ := Nat.exists_eq_succ_of_ne_zero (Nat.ne_of_gt hn)
    obtain ⟨hgot, hahead⟩ := h.getSave
    rw [List.nil_append] at hgot hahead
    have hget : lex.get.1 = headGot bad rest := hgot
    refine ⟨lex.get.2, ?_, ?_⟩
    · rw [Lex.skipSpace, hget, hrest.is_headGot, ← hget]
      rfl
    · rw [← hget]
      exact hahead
  | cons d ws ih =>
    obtain ⟨n, rfl⟩ := Nat.exists_eq_succ_of_ne_zero (Nat.ne_of_gt (Nat.lt_of_le_of_lt
      (Nat.zero_le _) hn))
    obtain ⟨hgot, hstream, hsaved⟩ := h.get
    rw [List.cons_append] at hgot hstream
    have hgo : (headGot bad (d :: (ws ++ rest))).is isSpace = .true := hws d List.mem_cons_self
    obtain ⟨lex', hrun, hahead⟩ :=
      ih (fun x hx => hws x (List.mem_cons_of_mem _ hx)) hstream (Nat.lt_of_succ_lt_succ hn)
    rw [hsaved] at hahead
    refine ⟨lex', ?_, hahead⟩
    rw [Lex.skipSpace, hgot, if_pos hgo]
    exact hrun

end Jansson

end Lcm
