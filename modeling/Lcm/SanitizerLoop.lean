import Lcm.Sanitizer
import Lcm.Run.While

/-!
# The loop of the sanitizer

`SanitizeString` walks over its input with one pointer and over its output with another, and looks
up to three bytes ahead for the bytes of a longer character.  Every access of the two is logged.

## Main definitions

* `HoldsString` : a string of characters and its terminator, at the beginning of a memory.
* `sanitizeChar` : a round of the loop.
* `SanitizeString` : the loop and the terminator behind it.

## Main results

* `sanitizeString_ends` : the loop ends with the characters of `sanitizeString` and a terminator,
  has read nothing behind the terminator of the input and has written nothing behind its own.
* `sanitizeString_safe` : what that says for every input and every size.
-/

namespace Lcm

namespace SanitizerLoop

/-- An access of the loop. -/
inductive Access
  /-- A byte of `inStringPtr` is read. -/
  | read (i : ℕ)
  /-- A byte of `outStringPtr` is written. -/
  | write (i : ℕ)
  deriving DecidableEq

/-- The variables of `SanitizeString`, with both pointers counted from where they begin. -/
structure Vars where
  /-- The memory at `outStringPtr`. -/
  outString : ℕ → Byte
  /-- How far `outStringPtr` is. -/
  outStringPtr : ℕ
  /-- How far `inStringPtr` is. -/
  inStringPtr : ℕ
  /-- `outStringByteLength` -/
  outStringByteLength : Word

/-- `*(inStringPtr + i)` -/
def load (inString : ℕ → Byte) (i : ℕ) : Logged Access Byte :=
  (fun _ => inString i) <$> Logged.touch (.read i)

/-- `*outStringPtr = c` -/
def store (v : Vars) (c : Byte) : Logged Access Vars :=
  (fun _ => { v with outString := Function.update v.outString v.outStringPtr c }) <$>
    Logged.touch (.write v.outStringPtr)

/-- `*outStringPtr++ = '_'; inStringPtr += k` -/
def replaceTail (v : Vars) (k : ℕ) : Logged Access Vars := do
  let v ← store v underscore
  pure { v with outStringPtr := v.outStringPtr + 1, inStringPtr := v.inStringPtr + k }

/-- `*outStringPtr++ = c; outStringByteLength++; inStringPtr += k` -/
def putChar (v : Vars) (c : Byte) (k : ℕ) : Logged Access Vars := do
  let v ← store v c
  pure { v with outStringPtr := v.outStringPtr + 1, inStringPtr := v.inStringPtr + k,
                outStringByteLength := v.outStringByteLength + 1 }

/-- The test of the loop. -/
def test (inString : ℕ → Byte) (sizeofOutString : Word) (v : Vars) : Logged Access Bool := do
  let c ← load inString v.inStringPtr
  pure (c ≠ 0 && v.outStringByteLength.toNat + 1 < sizeofOutString.toNat)

/-- What becomes of a character of several bytes when the first `k` of them are there and `n` more
belong to it.  If the terminator cuts it off, it is replaced, but not counted. -/
def replaceChar (inString : ℕ → Byte) (v : Vars) : ℕ → ℕ → Logged Access Vars
  | 0, k => putChar v underscore k
  | n + 1, k => do
    if (← load inString (v.inStringPtr + k)) = 0 then replaceTail v k
    else replaceChar inString v n (k + 1)

/-- A round of the loop. -/
def sanitizeChar (inString : ℕ → Byte) (v : Vars) : Logged Access Vars := do
  let c ← load inString v.inStringPtr
  if c &&& 0xE0 = 0xC0 then replaceChar inString v 1 1
  else if c &&& 0xF0 = 0xE0 then replaceChar inString v 2 1
  else if c &&& 0xF8 = 0xF0 then replaceChar inString v 3 1
  else putChar v (if isLegal c then c else underscore) 1

/-- `SanitizeString`, with a number of rounds that it may take. -/
def SanitizeString (outString inString : ℕ → Byte) (sizeofOutString : Word) (fuel : ℕ) :
    Logged Access (Option (ℕ → Byte)) := do
  match ← Logged.whileDo (test inString sizeofOutString) (sanitizeChar inString) fuel
    ⟨outString, 0, 0, 0⟩ with
  | none => pure none
  | some v =>
    let v ← store v 0
    pure (some v.outString)

/-- A string of characters and its terminator, at the beginning of a memory. -/
structure HoldsString (b : ℕ → Byte) (s : List Byte) : Prop where
  /-- No character is the terminator. -/
  noNul : 0 ∉ s
  /-- The characters. -/
  chars : ∀ i, (h : i < s.length) → b i = s[i]
  /-- The terminator. -/
  nul : b s.length = 0

/-- How many bytes a character has, by its first one. -/
def charLength (c : Byte) : ℕ :=
  if c &&& 0xE0 = 0xC0 then 2 else if c &&& 0xF0 = 0xE0 then 3 else if c &&& 0xF8 = 0xF0 then 4
  else 1

/-- What a character becomes. -/
def sanitized (c : Byte) : Byte := if isLegal c then c else underscore

/-- What the accesses may be: reads up to the terminator of the input, writes inside the output. -/
def Access.Within (length sizeofOutString : ℕ) : Access → Prop
  | .read i => i ≤ length
  | .write i => i < sizeofOutString

/-! ### Strings -/

variable {inString outString b : ℕ → Byte} {s : List Byte} {size : Word} {c : Byte} {v : Vars}

namespace HoldsString

theorem ne_zero (hs : HoldsString b s) {i : ℕ} (hi : i < s.length) : b i ≠ 0 := by
  intro hzero
  rw [hs.chars i hi] at hzero
  exact hs.noNul (hzero ▸ List.getElem_mem hi)

theorem eq_zero_iff (hs : HoldsString b s) {i : ℕ} (hi : i ≤ s.length) :
    b i = 0 ↔ i = s.length := by
  constructor
  · intro hzero
    by_contra hne
    exact hs.ne_zero (by omega) hzero
  · rintro rfl
    exact hs.nul

theorem drop_eq (hs : HoldsString b s) {i : ℕ} (hi : i < s.length) :
    s.drop i = b i :: s.drop (i + 1) := by
  rw [hs.chars i hi]
  exact List.drop_eq_getElem_cons hi

end HoldsString

theorem one_le_charLength (c : Byte) : 1 ≤ charLength c := by
  unfold charLength
  split_ifs <;> omega

theorem charLength_eq_one_iff :
    charLength c = 1 ↔ c &&& 0xE0 ≠ 0xC0 ∧ c &&& 0xF0 ≠ 0xE0 ∧ c &&& 0xF8 ≠ 0xF0 := by
  unfold charLength
  grind

theorem sanitized_of_charLength (h : charLength c ≠ 1) : sanitized c = underscore :=
  if_neg fun hlegal => h (charLength_eq_one_iff.2 (not_multibyte hlegal))

/-- A character, with all of its bytes that are there, becomes one character. -/
theorem sanitizeString_cons {size out : ℕ} (hroom : out + 1 < size) (c : Byte) (rest : List Byte) :
    sanitizeString size out (c :: rest) =
      sanitized c :: sanitizeString size (out + 1) (rest.drop (charLength c - 1)) := by
  have hnil : sanitizeString size (out + 1) [] = [] := sanitizeString.eq_def ..
  by_cases hone : charLength c = 1
  · obtain ⟨htwo, hthree, hfour⟩ := charLength_eq_one_iff.1 hone
    rw [sanitizeString.eq_def]
    dsimp only
    rw [if_pos hroom, if_neg htwo, if_neg hthree, if_neg hfour, hone, Nat.sub_self, List.drop_zero,
      sanitized]
  · rw [sanitized_of_charLength hone, sanitizeString.eq_def]
    unfold charLength at hone ⊢
    rcases rest with _ | ⟨_, _ | ⟨_, _ | ⟨_, rest⟩⟩⟩ <;> split_ifs at hone ⊢ <;>
      simp_all

/-! ### A round -/

/-- The round writes the next byte of the output and reads no further than the terminator. -/
def Round (length : ℕ) (v : Vars) (x : Logged Access Vars) : Prop :=
  x.All (Access.Within length (v.outStringPtr + 1))

theorem value_putChar (k : ℕ) : (putChar v c k).value =
    ⟨Function.update v.outString v.outStringPtr c, v.outStringPtr + 1, v.inStringPtr + k,
      v.outStringByteLength + 1⟩ := rfl

theorem value_replaceTail (k : ℕ) : (replaceTail v k).value =
    ⟨Function.update v.outString v.outStringPtr underscore, v.outStringPtr + 1,
      v.inStringPtr + k, v.outStringByteLength⟩ := rfl

theorem putChar_round {length k : ℕ} : Round length v (putChar v c k) := by
  simp [Round, putChar, store, Access.Within]

theorem replaceTail_round {length k : ℕ} : Round length v (replaceTail v k) := by
  simp [Round, replaceTail, store, Access.Within]

/-- What follows a read is about the byte that is there. -/
theorem load_bind {α : Type} (i : ℕ) (f : Byte → Logged Access α) :
    load inString i >>= f = load inString i >>= fun _ => f (inString i) := rfl

theorem Round.after_load {length i : ℕ} {x : Logged Access Vars} (hi : i ≤ length)
    (h : Round length v x) : Round length v (load inString i >>= fun _ => x) := by
  simp only [Round, load, Logged.all_bind, Logged.all_map, Logged.all_touch]
  exact ⟨hi, h⟩

theorem replaceChar_spec (hs : HoldsString inString s) {n k : ℕ}
    (hk : v.inStringPtr + k ≤ s.length) :
    (replaceChar inString v n k).value =
        (if v.inStringPtr + (k + n) ≤ s.length then putChar v underscore (k + n)
          else replaceTail v (s.length - v.inStringPtr)).value ∧
      Round s.length v (replaceChar inString v n k) := by
  induction n generalizing k with
  | zero =>
    rw [replaceChar, Nat.add_zero, if_pos hk]
    exact ⟨rfl, putChar_round⟩
  | succ n ih =>
    -- the byte is the terminator just if its place is
    have hbyte := hs.eq_zero_iff hk
    by_cases hend : v.inStringPtr + k = s.length
    · rw [replaceChar, load_bind, if_pos (hbyte.2 hend), if_neg (by omega),
        show s.length - v.inStringPtr = k by omega]
      exact ⟨rfl, replaceTail_round.after_load hk⟩
    · obtain ⟨hvalue, hround⟩ := ih (k := k + 1) (by omega)
      rw [replaceChar, load_bind, if_neg (mt hbyte.1 hend),
        show k + (n + 1) = k + 1 + n by omega, ← hvalue]
      exact ⟨rfl, hround.after_load hk⟩

/-- **A round replaces a character with all of its bytes**, those before the terminator if it is cut
off. -/
theorem sanitizeChar_spec (hs : HoldsString inString s) (hi : v.inStringPtr < s.length) :
    (sanitizeChar inString v).value =
        (if v.inStringPtr + charLength (inString v.inStringPtr) ≤ s.length then
          putChar v (sanitized (inString v.inStringPtr)) (charLength (inString v.inStringPtr))
        else replaceTail v (s.length - v.inStringPtr)).value ∧
      Round s.length v (sanitizeChar inString v) := by
  have hread : v.inStringPtr ≤ s.length := Nat.le_of_lt hi
  -- the three longer characters
  have hmore : ∀ n, charLength (inString v.inStringPtr) = 1 + (n + 1) →
      (replaceChar inString v (n + 1) 1).value =
          (if v.inStringPtr + charLength (inString v.inStringPtr) ≤ s.length then
            putChar v (sanitized (inString v.inStringPtr)) (charLength (inString v.inStringPtr))
          else replaceTail v (s.length - v.inStringPtr)).value ∧
        Round s.length v
          (load inString v.inStringPtr >>= fun _ => replaceChar inString v (n + 1) 1) := by
    intro n hlen
    rw [sanitized_of_charLength (by omega), hlen]
    exact (replaceChar_spec hs (by omega)).imp_right fun h => h.after_load hread
  rw [sanitizeChar, load_bind]
  by_cases htwo : inString v.inStringPtr &&& 0xE0 = 0xC0
  · rw [if_pos htwo]
    exact hmore 0 (by rw [charLength, if_pos htwo])
  by_cases hthree : inString v.inStringPtr &&& 0xF0 = 0xE0
  · rw [if_neg htwo, if_pos hthree]
    exact hmore 1 (by rw [charLength, if_neg htwo, if_pos hthree])
  by_cases hfour : inString v.inStringPtr &&& 0xF8 = 0xF0
  · rw [if_neg htwo, if_neg hthree, if_pos hfour]
    exact hmore 2 (by rw [charLength, if_neg htwo, if_neg hthree, if_pos hfour])
  · have hlen : charLength (inString v.inStringPtr) = 1 :=
      charLength_eq_one_iff.2 ⟨htwo, hthree, hfour⟩
    have hfits : v.inStringPtr + 1 ≤ s.length := hi
    rw [if_neg htwo, if_neg hthree, if_neg hfour, hlen, if_pos hfits]
    exact ⟨rfl, putChar_round.after_load hread⟩

/-! ### The loop -/

/-- The output so far, and what is still to come: together, the whole sanitized string.  The last
character may have been written without being counted. -/
structure Inv (s : List Byte) (size : Word) (outString : ℕ → Byte) (v : Vars) : Prop where
  /-- The input pointer has not passed the terminator. -/
  input : v.inStringPtr ≤ s.length
  /-- The output pointer is inside, with room for the terminator. -/
  room : v.outStringPtr + 1 ≤ size.toNat
  /-- What is written is counted, unless it is at the end of the input. -/
  counted : v.outStringByteLength.toNat = v.outStringPtr ∨
    (v.inStringPtr = s.length ∧ v.outStringByteLength.toNat + 1 = v.outStringPtr)
  /-- The sanitized string. -/
  chars : (List.range v.outStringPtr).map v.outString ++
      sanitizeString size.toNat v.outStringByteLength.toNat (s.drop v.inStringPtr) =
    sanitizeString size.toNat 0 s
  /-- Nothing behind the output is written. -/
  frame : ∀ i, v.outStringPtr ≤ i → v.outString i = outString i

theorem map_range_update {f : ℕ → Byte} {n : ℕ} :
    (List.range (n + 1)).map (Function.update f n c) = (List.range n).map f ++ [c] := by
  rw [List.range_succ, List.map_append, List.map_singleton, Function.update_self]
  congr 1
  refine List.map_congr_left fun i hi => Function.update_of_ne ?_ _ _
  exact Nat.ne_of_lt (List.mem_range.1 hi)

theorem sanitizeString_drop (hs : HoldsString inString s) {size out i : ℕ} (hi : i < s.length)
    (hroom : out + 1 < size) :
    sanitizeString size out (s.drop i) =
      sanitized (inString i) ::
        sanitizeString size (out + 1) (s.drop (i + charLength (inString i))) := by
  have hpos := one_le_charLength (inString i)
  rw [hs.drop_eq hi, sanitizeString_cons hroom, List.drop_drop,
    show i + 1 + (charLength (inString i) - 1) = i + charLength (inString i) by omega]

@[simp] theorem sanitizeString_nil (size out : ℕ) : sanitizeString size out [] = [] :=
  sanitizeString.eq_def ..

/-- **A round keeps the invariant** and moves the input pointer on. -/
theorem Inv.round (hs : HoldsString inString s) (h : Inv s size outString v)
    (hi : v.inStringPtr < s.length) (hroom : v.outStringByteLength.toNat + 1 < size.toNat) :
    Inv s size outString (sanitizeChar inString v).value ∧
      v.inStringPtr < (sanitizeChar inString v).value.inStringPtr := by
  have hcounted : v.outStringByteLength.toNat = v.outStringPtr :=
    h.counted.resolve_right fun hend => absurd hend.1 (Nat.ne_of_lt hi)
  have hpos := one_le_charLength (inString v.inStringPtr)
  have hchars := h.chars
  rw [sanitizeString_drop hs hi hroom] at hchars
  have hframe : ∀ (c : Byte) i, v.outStringPtr + 1 ≤ i →
      Function.update v.outString v.outStringPtr c i = outString i := fun c i hle => by
    rw [Function.update_of_ne (by omega)]
    exact h.frame i (by omega)
  rw [(sanitizeChar_spec hs hi).1]
  split_ifs with hwhole
  · have hsum : (v.outStringByteLength + 1).toNat = v.outStringByteLength.toNat + 1 :=
      BitVec.toNat_add_of_lt (by have := size.isLt; simp; omega)
    rw [value_putChar]
    refine ⟨⟨hwhole, ?_, .inl ?_, ?_, hframe _⟩, ?_⟩ <;> dsimp only
    · omega
    · omega
    · rw [map_range_update, hsum, List.append_assoc, List.singleton_append, hchars]
    · omega
  · -- the terminator cuts the character off, and nothing is left
    have hnone : s.drop (v.inStringPtr + charLength (inString v.inStringPtr)) = [] :=
      List.drop_eq_nil_of_le (by omega)
    have hend : v.inStringPtr + (s.length - v.inStringPtr) = s.length := by omega
    rw [sanitized_of_charLength (by omega), hnone, sanitizeString_nil] at hchars
    rw [value_replaceTail, hend]
    refine ⟨⟨Nat.le_refl _, ?_, .inr ⟨rfl, ?_⟩, ?_, hframe _⟩, hi⟩ <;> dsimp only
    · omega
    · omega
    · rw [map_range_update, List.drop_length, sanitizeString_nil, List.append_nil, hchars]

theorem value_test : (test inString size v).value = true ↔
    inString v.inStringPtr ≠ 0 ∧ v.outStringByteLength.toNat + 1 < size.toNat := by
  rw [← decide_eq_true_iff (p := v.outStringByteLength.toNat + 1 < size.toNat)]
  exact (Bool.and_eq_true _ _).to_iff.trans (and_congr_left fun _ => decide_eq_true_iff)

/-- When the loop is left, the whole sanitized string is there. -/
theorem Inv.exit (hs : HoldsString inString s) (h : Inv s size outString v)
    (hdone : (test inString size v).value = false) :
    (List.range v.outStringPtr).map v.outString = sanitizeString size.toNat 0 s := by
  have hchars := h.chars
  suffices hnone : sanitizeString size.toNat v.outStringByteLength.toNat
      (s.drop v.inStringPtr) = [] by
    rwa [hnone, List.append_nil] at hchars
  by_cases hi : v.inStringPtr < s.length
  · have hfull : ¬v.outStringByteLength.toNat + 1 < size.toNat := fun hroom =>
      absurd (value_test.2 ⟨hs.ne_zero hi, hroom⟩) (Bool.eq_false_iff.1 hdone)
    rw [hs.drop_eq hi, sanitizeString.eq_def]
    exact if_neg hfull
  · rw [List.drop_eq_nil_of_le (by omega), sanitizeString_nil]

/-- **The loop ends** with the characters of `sanitizeString` and a terminator behind them, reads
nothing behind the terminator of its input and writes nothing behind the room of its output. -/
theorem sanitizeString_ends (outString : ℕ → Byte) (hs : HoldsString inString s)
    (hsize : 1 ≤ size.toNat) :
    ∃ out log, Logged.Ends (SanitizeString outString inString size) s.length out log ∧
      (∀ a ∈ log, a.Within s.length size.toNat) ∧
      HoldsString out (sanitizeString size.toNat 0 s) ∧
      ∀ i, (sanitizeString size.toNat 0 s).length < i → out i = outString i := by
  have hstart : Inv s size outString ⟨outString, 0, 0, 0⟩ :=
    ⟨Nat.zero_le _, hsize, .inl rfl, rfl, fun _ _ => rfl⟩
  have hcond : ∀ v, Inv s size outString v →
      (test inString size v).All (Access.Within s.length size.toNat) := fun v h => by
    simpa [test, load, Access.Within] using h.input
  have hbody : ∀ v, Inv s size outString v → (test inString size v).value = true →
      (sanitizeChar inString v).All (Access.Within s.length size.toNat) ∧
        Inv s size outString (sanitizeChar inString v).value ∧
        s.length - (sanitizeChar inString v).value.inStringPtr < s.length - v.inStringPtr := by
    intro v h htest
    obtain ⟨hne, hroom⟩ := value_test.1 htest
    have hi : v.inStringPtr < s.length :=
      Nat.lt_of_le_of_ne h.input (mt (hs.eq_zero_iff h.input).2 hne)
    obtain ⟨hinv, hmoved⟩ := h.round hs hi hroom
    refine ⟨fun a ha => ?_, hinv, by omega⟩
    have hwithin := (sanitizeChar_spec hs hi).2 a ha
    cases a with
    | read i => exact hwithin
    | write i => exact Nat.lt_of_lt_of_le hwithin h.room
  obtain ⟨v, log, hends, hinv, hdone, hlog⟩ :=
    Logged.whileDo_ends (fun v => s.length - v.inStringPtr) hcond hbody hstart
  have hchars := hinv.exit hs hdone
  have hlength : (sanitizeString size.toNat 0 s).length = v.outStringPtr := by
    rw [← hchars, List.length_map, List.length_range]
  refine ⟨Function.update v.outString v.outStringPtr 0, log ++ [.write v.outStringPtr],
    ?_, ?_, ?_, ?_⟩
  · intro fuel hfuel
    have hloop := hends fuel hfuel
    dsimp only at hloop
    rw [SanitizeString, hloop]
    rfl
  · intro a ha
    rcases List.mem_append.1 ha with ha | ha
    · exact hlog a ha
    · obtain rfl := List.mem_singleton.1 ha
      exact hinv.room
  · refine ⟨fun hzero => ?_, fun i hi => ?_, ?_⟩
    · exact isLegal_ne_zero ((sanitizeString_spec size.toNat 0 s).2 0 hzero) rfl
    · rw [Function.update_of_ne (by omega)]
      simp only [← hchars, List.getElem_map, List.getElem_range]
    · rw [hlength, Function.update_self]
  · intro i hi
    rw [Function.update_of_ne (by omega)]
    exact hinv.frame i (by omega)

/-- **Names are sanitized safely**: for every input and every size of one byte or more the loop
ends, reads no further than the terminator of the input, writes inside the output and only the
string that it makes there with its terminator, of legal characters.  That string is made of itself
again, and so is every input of legal characters that fits. -/
theorem sanitizeString_safe (inString outString : ℕ → Byte) (s : List Byte)
    (sizeofOutString : Word) (hs : HoldsString inString s) (hsize : 1 ≤ sizeofOutString.toNat) :
    ∃ out log t,
      Logged.Ends (SanitizeString outString inString sizeofOutString) s.length out log ∧
      (∀ i, .read i ∈ log → i ≤ s.length) ∧
      (∀ i, .write i ∈ log → i < sizeofOutString.toNat) ∧
      HoldsString out t ∧ t.length < sizeofOutString.toNat ∧
      (∀ i, t.length < i → out i = outString i) ∧
      (∀ c ∈ t, isLegal c = true) ∧
      (∀ outString', ∃ out' log',
        Logged.Ends (SanitizeString outString' out sizeofOutString) t.length out' log' ∧
          HoldsString out' t) ∧
      ((∀ c ∈ s, isLegal c = true) → s.length < sizeofOutString.toNat → t = s) := by
  obtain ⟨out, log, hends, hlog, hout, hframe⟩ :=
    sanitizeString_ends outString hs hsize
  obtain ⟨hlength, hlegal⟩ := sanitizeString_spec sizeofOutString.toNat 0 s
  refine ⟨out, log, sanitizeString sizeofOutString.toNat 0 s, hends, fun i => hlog _,
    fun i => hlog _, hout, by omega, hframe, hlegal, fun outString' => ?_, fun hs' hfits => ?_⟩
  · obtain ⟨out', log', hends', -, hout', -⟩ :=
      sanitizeString_ends outString' hout hsize
    -- what is legal and fits stays as it is
    rw [sanitizeString_eq_self hlegal, List.take_of_length_le hlength] at hout'
    exact ⟨out', log', hends', hout'⟩
  · rw [sanitizeString_eq_self hs', List.take_of_length_le (by omega)]

/-- `a` and the first byte of a character of two, in memory that has more behind the terminator. -/
def cutCharacter : ℕ → Byte := fun i => [0x61, 0xC3, 0, 0x62].getD i 0

theorem sanitizeString_safe_cut : ∃ out log t,
    Logged.Ends (SanitizeString (fun _ => 0xFF) cutCharacter 3) 2 out log ∧
      (∀ i, .read i ∈ log → i ≤ 2) ∧ (∀ i, .write i ∈ log → i < 3) ∧
      HoldsString out t ∧ t.length < 3 ∧ (∀ i, t.length < i → out i = 0xFF) ∧
      (∀ c ∈ t, isLegal c = true) ∧
      (∀ outString', ∃ out' log',
        Logged.Ends (SanitizeString outString' out 3) t.length out' log' ∧ HoldsString out' t) ∧
      ((∀ c ∈ [0x61, 0xC3], isLegal c = true) → [0x61, 0xC3].length < 3 → t = [0x61, 0xC3]) :=
  sanitizeString_safe cutCharacter (fun _ => 0xFF) [0x61, 0xC3] 3
    ⟨by decide, by decide, rfl⟩ (by decide)

end SanitizerLoop

end Lcm
