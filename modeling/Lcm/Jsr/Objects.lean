import Lcm.Jsr.Buffering
import Mathlib.Data.List.GetD

/-!
# Reading a list of objects

A server answers with an HTTP header and an array of objects whose members are strings.  The
streaming reader returns at the end of every object in which enough keys have matched, and what the
pairs have captured then are the strings of that object, as far as there is room for them.

## Main definitions

* `Member`, `objectText`, `arrayText` : the text of such a list.
* `View` : the reader inside the body, apart from what it only counts.
* `Reads` : what reading a text does to the reader, and what is captured meanwhile.

## Main results

* `Reads.append` : texts are read one after the other.
* `Reads.object`, `Reads.array` : an object, and a list of objects.
* `consume_header` : the body begins behind the header.
-/

namespace Lcm

namespace Jsr

/-! ### The text -/

/-- A member of an object whose value is a string, without what would have to be escaped. -/
structure Member where
  /-- The key. -/
  key : List Byte
  /-- The string. -/
  value : List Byte

/-- A string in quotes. -/
def quoted (s : List Byte) : List Byte := 0x22 :: (s ++ [0x22])

/-- The text of a member. -/
def Member.text (m : Member) : List Byte := quoted m.key ++ 0x3A :: quoted m.value

/-- Texts separated by commas. -/
def separated : List (List Byte) → List Byte
  | [] => []
  | t :: ts => t ++ ts.flatMap fun t => 0x2C :: t

/-- The text of an object. -/
def objectText (members : List Member) : List Byte :=
  0x7B :: (separated (members.map Member.text) ++ [0x7D])

/-- The text of an array of objects. -/
def arrayText (objects : List (List Member)) : List Byte :=
  0x5B :: (separated (objects.map objectText) ++ [0x5D])

/-! ### The reader inside the body -/

/-- What the reader is in the middle of. -/
inductive Phase
  /-- Something that is neither a key nor a value. -/
  | idle
  /-- A key. -/
  | key
  /-- What is between the colon and the value, or after the value. -/
  | colon
  /-- A value in quotes. -/
  | value

/-- `state` -/
def Phase.state : Phase → Byte
  | idle => JSR_STATE_HTTP_BODY
  | key => JSR_STATE_HTTP_BODY ||| JSR_STATE_IN_QUOTES
  | colon => JSR_STATE_HTTP_BODY ||| JSR_STATE_COLON
  | value => JSR_STATE_HTTP_BODY ||| JSR_STATE_COLON ||| JSR_STATE_IN_QUOTES

/-- What decides about the following characters, in a reader that skips the HTTP header. -/
structure View where
  /-- `state` -/
  phase : Phase
  /-- `key_str` -/
  keyStr : ℕ → Byte
  /-- `value_str` -/
  valueStr : ℕ → Byte
  /-- `key_max_length` -/
  keyMaxLength : Dword
  /-- `value_max_length` -/
  valueMaxLength : Dword
  /-- `write_idx` -/
  writeIdx : Dword
  /-- `depth` -/
  depth : Dword
  /-- `match_threshold` -/
  matchThreshold : Byte
  /-- `match_count`, and `pair_count` behind it -/
  matchCount : ℕ → Byte
  /-- `pairs` -/
  pairs : List JsrPair

/-- What the reader only counts or remembers. -/
structure Notes where
  /-- `error` -/
  error : Byte
  /-- `fifo4` -/
  fifo4 : Dword
  /-- `object_count` -/
  objectCount : Dword
  /-- `top_level_object_count` -/
  topLevelObjectCount : Dword
  /-- `array_depth` -/
  arrayDepth : Dword

/-- The reader. -/
def View.reader (v : View) (n : Notes) : JsrState where
  keyStr := v.keyStr
  valueStr := v.valueStr
  keyMaxLength := v.keyMaxLength
  valueMaxLength := v.valueMaxLength
  writeIdx := v.writeIdx
  option := JSR_OPTION_SKIP_HTTP_HEADER
  state := v.phase.state
  error := n.error
  depth := v.depth
  matchThreshold := v.matchThreshold
  matchMinDepth := 0
  matchCount := v.matchCount
  fifo4 := n.fifo4
  objectCount := n.objectCount
  topLevelObjectCount := n.topLevelObjectCount
  arrayDepth := n.arrayDepth
  pairs := some v.pairs

/-- **Reading a text**: what becomes of the reader, and what the pairs have captured whenever
`jsr_read` returns. -/
def Reads (v : View) (text : List Byte) (v' : View) (captured : List (List JsrPair)) : Prop :=
  ∀ n, ∃ n' events, (consume (v.reader n) text).value = (v'.reader n', events) ∧
    events.map JsrState.pairs = captured.map some

variable {v v' v'' : View} {text text' : List Byte} {captured captured' : List (List JsrPair)}
  {c : Byte}

theorem Reads.nil (v : View) : Reads v [] v [] := fun n => ⟨n, [], rfl, rfl⟩

/-- **Texts are read one after the other.** -/
theorem Reads.append (h : Reads v text v' captured) (h' : Reads v' text' v'' captured') :
    Reads v (text ++ text') v'' (captured ++ captured') := by
  intro n
  obtain ⟨n', events, hread, hevents⟩ := h n
  obtain ⟨n'', events', hread', hevents'⟩ := h' n'
  refine ⟨n'', events ++ events', ?_, ?_⟩
  · rw [consume_append]
    simp only [Logged.value_bind, Logged.value_pure, hread, hread']
  · rw [List.map_append, List.map_append, hevents, hevents']

/-- A character that ends no object. -/
theorem Reads.char (h : ∀ n, ∃ n', (readChar (v.reader n) c).value = (v'.reader n', false)) :
    Reads v [c] v' [] := by
  intro n
  obtain ⟨n', hread⟩ := h n
  refine ⟨n', [], ?_, rfl⟩
  simp only [consume, Logged.value_bind, Logged.value_pure, hread]
  rfl

theorem Reads.cons (h : Reads v [c] v' []) (h' : Reads v' text v'' captured) :
    Reads v (c :: text) v'' captured := h.append h'

theorem Phase.has_quotes (p : Phase) :
    has p.state JSR_STATE_IN_QUOTES = (match p with | .key | .value => true | _ => false) := by
  cases p <;> decide

theorem Phase.has_colon (p : Phase) :
    has p.state JSR_STATE_COLON = (match p with | .colon | .value => true | _ => false) := by
  cases p <;> decide

theorem has_skip : has JSR_OPTION_SKIP_HTTP_HEADER JSR_OPTION_SKIP_HTTP_HEADER = true := by decide

/-- A character of the body only goes through the FIFO. -/
theorem skipHeader_reader (v : View) (n : Notes) (c : Byte) :
    ∃ n', skipHeader (v.reader n) c = v.reader n' := by
  refine ⟨{ n with fifo4 := n.fifo4 <<< 8 ||| c.setWidth 32 }, ?_⟩
  have hbody : v.phase.state ||| JSR_STATE_HTTP_BODY = v.phase.state := by cases v.phase <;> decide
  have hstate : (if n.fifo4 <<< 8 ||| c.setWidth 32 = JSR_HTTP_HEADER_DELIMITER then
      v.phase.state ||| JSR_STATE_HTTP_BODY else v.phase.state) = v.phase.state := by
    rw [hbody, ite_self]
  unfold skipHeader View.reader
  rw [if_pos has_skip]
  simp only [hstate]

theorem inBody_reader (v : View) (n : Notes) : (v.reader n).inBody = true := by
  have hbody : has v.phase.state JSR_STATE_HTTP_BODY = true := by cases v.phase <;> decide
  unfold JsrState.inBody View.reader
  rw [hbody, Bool.or_true]

/-- A character of the body. -/
theorem readChar_reader (v : View) (n : Notes) (c : Byte) : ∃ n', readChar (v.reader n) c =
    if has v.phase.state JSR_STATE_IN_QUOTES then
      (readQuoted (v.reader n') c >>= fun s => pure (s, false))
      else readUnquoted (v.reader n') c := by
  obtain ⟨n', hskip⟩ := skipHeader_reader v n c
  refine ⟨n', ?_⟩
  rw [readChar, hskip, if_pos (inBody_reader v n')]
  rfl

/-- A character in quotes. -/
theorem Reads.quoted (hphase : v.phase = .key ∨ v.phase = .value)
    (h : ∀ n, ∃ n', (readQuoted (v.reader n) c).value = v'.reader n') : Reads v [c] v' [] := by
  refine Reads.char fun n => ?_
  obtain ⟨n', hread⟩ := readChar_reader v n c
  have hquotes : has v.phase.state JSR_STATE_IN_QUOTES = true := by
    rw [Phase.has_quotes]
    rcases hphase with hphase | hphase <;> rw [hphase]
  rw [hread, if_pos hquotes]
  obtain ⟨n'', hnext⟩ := h n'
  exact ⟨n'', by simp only [Logged.value_bind, Logged.value_pure, hnext]⟩

/-- A character outside of quotes. -/
theorem readChar_unquoted (hphase : v.phase = .idle ∨ v.phase = .colon) (n : Notes) (c : Byte) :
    ∃ n', readChar (v.reader n) c = readUnquoted (v.reader n') c := by
  obtain ⟨n', hread⟩ := readChar_reader v n c
  have hquotes : has v.phase.state JSR_STATE_IN_QUOTES = false := by
    rw [Phase.has_quotes]
    rcases hphase with hphase | hphase <;> rw [hphase]
  exact ⟨n', by rw [hread, hquotes, if_neg Bool.false_ne_true]⟩

theorem Reads.unquoted (hphase : v.phase = .idle ∨ v.phase = .colon)
    (h : ∀ n, ∃ n', (readUnquoted (v.reader n) c).value = (v'.reader n', false)) :
    Reads v [c] v' [] := by
  refine Reads.char fun n => ?_
  obtain ⟨n', hread⟩ := readChar_unquoted hphase n c
  rw [hread]
  exact h n'

/-! ### The characters of a list -/

theorem Reads.beginKey (hphase : v.phase = .idle) :
    Reads v [0x22] { v with phase := .key, writeIdx := 0 } [] := by
  refine Reads.unquoted (.inl hphase) fun n => ⟨n, ?_⟩
  obtain ⟨⟩ := v
  obtain rfl := hphase
  rfl

theorem Reads.beginValue (hphase : v.phase = .colon) :
    Reads v [0x22] { v with phase := .value, writeIdx := 0 } [] := by
  refine Reads.unquoted (.inr hphase) fun n => ⟨n, ?_⟩
  obtain ⟨⟩ := v
  obtain rfl := hphase
  rfl

theorem Reads.endKey (hphase : v.phase = .key) :
    Reads v [0x22] { v with phase := .idle } [] := by
  have hstate : Phase.key.state &&& ~~~JSR_STATE_IN_QUOTES = Phase.idle.state := by decide
  refine Reads.quoted (.inl hphase) fun n => ⟨n, ?_⟩
  change { v.reader n with state := v.phase.state &&& ~~~JSR_STATE_IN_QUOTES } = _
  rw [hphase, hstate]
  rfl

theorem Reads.endValue (hphase : v.phase = .value) :
    Reads v [0x22] { v with phase := .colon } [] := by
  have hstate : Phase.value.state &&& ~~~JSR_STATE_IN_QUOTES = Phase.colon.state := by decide
  refine Reads.quoted (.inr hphase) fun n => ⟨n, ?_⟩
  change { v.reader n with state := v.phase.state &&& ~~~JSR_STATE_IN_QUOTES } = _
  rw [hphase, hstate]
  rfl

theorem Reads.colon (hphase : v.phase = .idle) :
    Reads v [0x3A] { v with phase := .colon, writeIdx := 0 } [] := by
  refine Reads.unquoted (.inl hphase) fun n => ⟨n, ?_⟩
  obtain ⟨⟩ := v
  obtain rfl := hphase
  rfl

theorem Reads.bracket (hphase : v.phase = .idle ∨ v.phase = .colon) (hc : c = 0x5B ∨ c = 0x5D) :
    Reads v [c] v [] := by
  refine Reads.unquoted hphase fun n => ?_
  rcases hc with rfl | rfl
  · exact ⟨{ n with arrayDepth := n.arrayDepth + 1 }, rfl⟩
  · exact ⟨{ n with arrayDepth := n.arrayDepth - 1 }, rfl⟩

/-! ### Strings -/

/-- A buffer holds a string. -/
def Holds (b : ℕ → Byte) (l : List Byte) : Prop := ∀ i ≤ l.length, b i = l.getD i 0

/-- What storing characters makes of a buffer and of `write_idx`. -/
def store (maxLength : Dword) : (ℕ → Byte) × Dword → List Byte → (ℕ → Byte) × Dword
  | b, [] => b
  | (b, w), c :: l =>
    if w < maxLength - 1 then
      store maxLength (Function.update (Function.update b w.toNat c) (w + 1).toNat 0, w + 1) l
    else store maxLength (b, w) l

theorem pred_toNat {maxLength : Dword} (hmax : 2 ≤ maxLength.toNat) :
    (maxLength - 1).toNat = maxLength.toNat - 1 := by
  have hlt := maxLength.isLt
  rw [BitVec.toNat_sub]
  change (2 ^ 32 - 1 + maxLength.toNat) % 2 ^ 32 = _
  omega

/-- A character behind a string. -/
theorem Holds.snoc {b : ℕ → Byte} {l : List Byte} (h : Holds b l ∨ l = []) (c : Byte) :
    Holds (Function.update (Function.update b l.length c) (l.length + 1) 0) (l ++ [c]) := by
  intro i hi
  rw [List.length_append, List.length_singleton] at hi
  by_cases hend : i = l.length + 1
  · subst hend
    rw [Function.update_self, List.getD_eq_default _ _ (by simp)]
  rw [Function.update_of_ne hend]
  by_cases hlast : i = l.length
  · subst hlast
    rw [Function.update_self, List.getD_append_right _ _ _ _ (Nat.le_refl _), Nat.sub_self]
    rfl
  · rw [Function.update_of_ne hlast, List.getD_append _ _ _ _ (by omega)]
    rcases h with h | rfl
    · exact h i (by omega)
    · exact absurd hi (by simp only [List.length_nil] at hend hlast ⊢; omega)

/-- **What is stored of a string**: as much as there is room for. -/
theorem store_holds {maxLength : Dword} (hmax : 2 ≤ maxLength.toNat) {b : ℕ → Byte} {w : Dword}
    {l l' : List Byte} (h : Holds b l ∨ l = [] ∧ l' ≠ []) (hw : w.toNat = l.length)
    (hroom : l.length ≤ maxLength.toNat - 1) :
    Holds (store maxLength (b, w) l').1 ((l ++ l').take (maxLength.toNat - 1)) := by
  induction l' generalizing b w l with
  | nil =>
    rcases h with h | h
    · rw [List.append_nil, List.take_of_length_le hroom]
      exact h
    · exact absurd rfl h.2
  | cons c l' ih =>
    have hlt := maxLength.isLt
    rw [store]
    by_cases hlast : w < maxLength - 1
    · have hroom' : l.length < maxLength.toNat - 1 := by
        rw [← hw, ← pred_toNat hmax]
        exact hlast
      have hnext : (w + 1).toNat = l.length + 1 := by
        rw [BitVec.toNat_add, hw]
        change (l.length + 1) % 2 ^ 32 = _
        omega
      rw [if_pos hlast, hw, hnext, List.append_cons]
      refine ih (.inl (Holds.snoc (h.imp_right And.left) c)) ?_ ?_
      · rw [hnext, List.length_append, List.length_singleton]
      · rw [List.length_append, List.length_singleton]
        omega
    · have hfull : l.length = maxLength.toNat - 1 := by
        have hle : ¬ w.toNat < (maxLength - 1).toNat := hlast
        rw [pred_toNat hmax, hw] at hle
        omega
      have hholds : Holds b l := by
        rcases h with h | ⟨rfl, -⟩
        · exact h
        · rw [List.length_nil] at hfull
          omega
      rw [if_neg hlast, List.take_append_of_le_length (by omega)]
      have hrest := ih (.inl hholds) hw hroom
      rwa [List.take_append_of_le_length (by omega)] at hrest

theorem Reads.keyChars {l : List Byte} (hphase : v.phase = .key) (hl : 0x22 ∉ l) :
    Reads v l { v with
      keyStr := (store v.keyMaxLength (v.keyStr, v.writeIdx) l).1
      writeIdx := (store v.keyMaxLength (v.keyStr, v.writeIdx) l).2 } [] := by
  induction l generalizing v with
  | nil => exact .nil v
  | cons c l ih =>
    obtain ⟨hc, hl⟩ := not_or.1 (mt List.mem_cons.2 hl)
    have hcolon : has v.phase.state JSR_STATE_COLON = false := by rw [Phase.has_colon, hphase]
    rw [store]
    by_cases hroom : v.writeIdx < v.keyMaxLength - 1
    · rw [if_pos hroom]
      refine Reads.cons (.quoted (.inl hphase) fun n => ⟨n, ?_⟩) (ih (v := { v with
        keyStr := Function.update (Function.update v.keyStr v.writeIdx.toNat c)
          (v.writeIdx + 1).toNat 0
        writeIdx := v.writeIdx + 1 }) hphase hl)
      rw [readQuoted, if_neg (Ne.symm hc), View.reader]
      simp only [hcolon, if_neg Bool.false_ne_true, if_pos hroom]
      rfl
    · rw [if_neg hroom]
      refine Reads.cons (.quoted (.inl hphase) fun n =>
        ⟨{ n with error := n.error ||| JSR_ERROR_KEY_OVERFLOW }, ?_⟩) (ih hphase hl)
      rw [readQuoted, if_neg (Ne.symm hc), View.reader]
      simp only [hcolon, if_neg Bool.false_ne_true, if_neg hroom]
      rfl

theorem Reads.valueChars {l : List Byte} (hphase : v.phase = .value) (hl : 0x22 ∉ l) :
    Reads v l { v with
      valueStr := (store v.valueMaxLength (v.valueStr, v.writeIdx) l).1
      writeIdx := (store v.valueMaxLength (v.valueStr, v.writeIdx) l).2 } [] := by
  induction l generalizing v with
  | nil => exact .nil v
  | cons c l ih =>
    obtain ⟨hc, hl⟩ := not_or.1 (mt List.mem_cons.2 hl)
    have hcolon : has v.phase.state JSR_STATE_COLON = true := by rw [Phase.has_colon, hphase]
    rw [store]
    by_cases hroom : v.writeIdx < v.valueMaxLength - 1
    · rw [if_pos hroom]
      refine Reads.cons (.quoted (.inr hphase) fun n => ⟨n, ?_⟩) (ih (v := { v with
        valueStr := Function.update (Function.update v.valueStr v.writeIdx.toNat c)
          (v.writeIdx + 1).toNat 0
        writeIdx := v.writeIdx + 1 }) hphase hl)
      rw [readQuoted, if_neg (Ne.symm hc), View.reader]
      simp only [hcolon, if_pos, if_pos hroom]
      rfl
    · rw [if_neg hroom]
      refine Reads.cons (.quoted (.inr hphase) fun n =>
        ⟨{ n with error := n.error ||| JSR_ERROR_VALUE_OVERFLOW }, ?_⟩) (ih hphase hl)
      rw [readQuoted, if_neg (Ne.symm hc), View.reader]
      simp only [hcolon, if_pos, if_neg hroom]
      rfl

/-! ### Matching -/

/-- A string, as an array that contains nothing else. -/
def chars (l : List Byte) : ℕ → Byte := fun i => l.getD i 0

theorem strcmpEq_congr {b : ℕ → Byte} {l : List Byte} (h : Holds b l) (a : ℕ → Byte) :
    strcmpEq a b = strcmpEq a (chars l) := by
  have hend : chars l l.length = 0 := List.getD_eq_default _ _ (Nat.le_refl _)
  -- nothing behind the end of the string is looked at
  have hsame : ∀ b b' : ℕ → Byte, Holds b l → Holds b' l → strcmpEq a b = true →
      strcmpEq a b' = true := by
    intro b b' hb hb' heq
    rw [strcmpEq, strncmpEq_iff] at heq ⊢
    intro i hi hbefore
    have hi' : i ≤ l.length := by
      by_contra hlt
      have hzero := heq l.length (by omega) fun j hj => hbefore j (by omega)
      rw [hb l.length (Nat.le_refl _)] at hzero
      exact hbefore l.length (by omega) (hzero.trans hend)
    rw [heq i hi hbefore, hb i hi', hb' i hi']
  exact Bool.eq_iff_iff.2 ⟨hsame _ _ h fun _ _ => rfl, hsame _ _ (fun _ _ => rfl) h⟩

theorem strncpy_congr {b : ℕ → Byte} {l : List Byte} (h : Holds b l) (a : ℕ → Byte) (n : Dword) :
    strncpy a b n = strncpy a (chars l) n := by
  have hend : chars l l.length = 0 := List.getD_eq_default _ _ (Nat.le_refl _)
  funext i
  rw [strncpy, strncpy]
  split
  · by_cases hi : i < l.length
    · have hbefore : (∀ j < i + 1, b j ≠ 0) ↔ ∀ j < i + 1, chars l j ≠ 0 :=
        forall₂_congr fun j hj => by rw [h j (by omega), chars]
      exact if_congr hbefore (h i (by omega)) rfl
    · rw [if_neg fun hall => hall l.length (by omega) ((h _ (Nat.le_refl _)).trans hend),
        if_neg fun hall => hall l.length (by omega) hend]
  · rfl

/-- What a pair that defines a key captures. -/
def capture (keyStr valueStr : ℕ → Byte) (depth : Dword) (pair : JsrPair) : JsrPair :=
  if strcmpEq pair.keyStr keyStr then
    { pair with
      depth := depth.setWidth 8
      valueStr := strncpy pair.valueStr valueStr pair.valueMaxLength }
  else pair

theorem capture_congr {keyStr valueStr : ℕ → Byte} {key value : List Byte} (hkey : Holds keyStr key)
    (hvalue : Holds valueStr value) (depth : Dword) :
    capture keyStr valueStr depth = capture (chars key) (chars value) depth := by
  funext pair
  rw [capture, capture, strcmpEq_congr hkey, strncpy_congr hvalue]

/-- How many pairs have a key. -/
def keyCount (keyStr : ℕ → Byte) (pairs : List JsrPair) : Byte :=
  BitVec.ofNat 8 (pairs.countP fun pair => strcmpEq pair.keyStr keyStr)

/-- All pairs define a key, and wait for its value. -/
def KeyPairs (pairs : List JsrPair) : Prop := ∀ pair ∈ pairs, pair.option = JSR_PAIR_KEY

theorem KeyPairs.capture {pairs : List JsrPair} (h : KeyPairs pairs) (keyStr valueStr : ℕ → Byte)
    (depth : Dword) : KeyPairs (pairs.map (capture keyStr valueStr depth)) := by
  intro pair hmem
  obtain ⟨pair, hpair, rfl⟩ := List.mem_map.1 hmem
  rw [Jsr.capture]
  split
  · exact h pair hpair
  · exact h pair hpair

/-- `match_flags` of a pair that defines a key. -/
theorem matchFlags_key {s : JsrState} {pair : JsrPair} (hoption : pair.option = JSR_PAIR_KEY) :
    matchFlags s pair = if strcmpEq pair.keyStr s.keyStr then JSR_PAIR_KEY else 0 := by
  have hkey : has JSR_PAIR_KEY JSR_PAIR_KEY = true := by decide
  have hvalue : has JSR_PAIR_KEY JSR_PAIR_VALUE = false := by decide
  rw [matchFlags, hoption, hkey, hvalue]
  simp

/-- Matches are counted. -/
def View.counted (v : View) (k : Byte) : View :=
  { v with
    matchCount := Function.update v.matchCount v.depth.toNat (v.matchCount v.depth.toNat + k) }

theorem View.counted_zero (v : View) : v.counted 0 = v := by
  have hsame : v.matchCount v.depth.toNat + 0 = v.matchCount v.depth.toNat := BitVec.add_zero _
  rw [View.counted, hsame, Function.update_eq_self]

theorem View.counted_counted (v : View) (k l : Byte) :
    (v.counted k).counted l = v.counted (k + l) := by
  simp only [View.counted, Function.update_self, Function.update_idem, BitVec.add_assoc]

theorem View.counted_pairCount (hdepth : v.depth.toNat < JSR_MAX_DEPTH) (k : Byte) :
    (v.counted k).matchCount JSR_MAX_DEPTH = v.matchCount JSR_MAX_DEPTH :=
  Function.update_of_ne (Nat.ne_of_gt hdepth) _ _

theorem keyCount_cons (keyStr : ℕ → Byte) (pair : JsrPair) (pairs : List JsrPair) :
    keyCount keyStr (pair :: pairs) =
      (if strcmpEq pair.keyStr keyStr then 1 else 0) + keyCount keyStr pairs := by
  rw [keyCount, List.countP_cons, keyCount, Nat.add_comm, BitVec.ofNat_add]
  split
  · rfl
  · rfl

/-- A pair that defines a key. -/
theorem matchPair_reader (n : Notes) {pair : JsrPair} (hoption : pair.option = JSR_PAIR_KEY) :
    ∃ n', (matchPair (v.reader n) pair).value =
      ((v.counted (if strcmpEq pair.keyStr v.keyStr then 1 else 0)).reader n',
        capture v.keyStr v.valueStr v.depth pair) := by
  have hflags := matchFlags_key (s := v.reader n) hoption
  change _ = if strcmpEq pair.keyStr v.keyStr then _ else _ at hflags
  obtain ⟨keyStr, valueStr, keyMaxLength, valueMaxLength, option, depth⟩ := pair
  obtain rfl : option = JSR_PAIR_KEY := hoption
  have hboth : JSR_PAIR_KEY &&& JSR_PAIR_BOTH = JSR_PAIR_KEY := by decide
  have hnotBoth : ¬ JSR_PAIR_KEY = JSR_PAIR_BOTH := by decide
  have hnotZero : ¬ JSR_PAIR_KEY = 0 := by decide
  have hkey : has JSR_PAIR_KEY JSR_PAIR_KEY = true := by decide
  have hvalue : has JSR_PAIR_KEY JSR_PAIR_VALUE = false := by decide
  have hnone : has 0 JSR_PAIR_KEY = false ∧ has 0 JSR_PAIR_VALUE = false := by decide
  rw [matchPair, countMatch, hflags, capture]
  by_cases hmatch : strcmpEq keyStr v.keyStr = true
  · refine ⟨{ n with error := if valueMaxLength = 0 then
      n.error ||| JSR_ERROR_ZERO_LENGTH_DEST else n.error }, ?_⟩
    simp only [if_pos hmatch, hboth, if_true, captureValue, captureKey, hkey, hvalue, hnotBoth,
      hnotZero, if_false, Logged.value_bind, Logged.value_pure]
    by_cases hzero : valueMaxLength = 0
    · rw [if_pos hzero, if_pos hzero]
      rfl
    · rw [if_neg hzero, if_neg hzero]
      rfl
  · refine ⟨n, ?_⟩
    simp only [if_neg hmatch, hboth, hnotBoth, hnotZero, if_false, captureValue, captureKey, hnone,
      Logged.value_bind, Logged.value_pure, View.counted_zero]
    rfl

/-- A loop over such pairs. -/
theorem matchPairsFrom_reader (n : Notes) {p : ℕ} {pairs : List JsrPair} (hpairs : KeyPairs pairs)
    (hdepth : v.depth.toNat < JSR_MAX_DEPTH)
    (hcount : (v.matchCount JSR_MAX_DEPTH).toNat = p + pairs.length) :
    ∃ n', (matchPairsFrom (v.reader n) p pairs).value =
      ((v.counted (keyCount v.keyStr pairs)).reader n',
        pairs.map (capture v.keyStr v.valueStr v.depth)) := by
  induction pairs generalizing v n p with
  | nil => exact ⟨n, by rw [show keyCount v.keyStr [] = 0 from rfl, v.counted_zero]; rfl⟩
  | cons pair pairs ih =>
    rw [List.length_cons] at hcount
    have hp : p < (v.reader n).pairCount := by
      change p < (v.matchCount JSR_MAX_DEPTH).toNat
      omega
    obtain ⟨n', hpair⟩ := matchPair_reader (v := v) n (hpairs pair List.mem_cons_self)
    have hcount' : ((v.counted (if strcmpEq pair.keyStr v.keyStr then 1 else 0)).matchCount
        JSR_MAX_DEPTH).toNat = p + 1 + pairs.length := by
      rw [View.counted_pairCount hdepth]
      omega
    obtain ⟨n'', hrest⟩ := ih (v := v.counted _) n'
      (fun q hq => hpairs q (List.mem_cons_of_mem _ hq)) hdepth hcount'
    refine ⟨n'', ?_⟩
    rw [matchPairsFrom, if_pos hp, keyCount_cons, ← View.counted_counted]
    simp only [Logged.value_bind, Logged.value_pure, hpair, hrest, List.map_cons]
    rfl

/-- The invariant of a reader that reads such a list. -/
structure View.Good (v : View) : Prop where
  pairs : KeyPairs v.pairs
  pairCount : (v.matchCount JSR_MAX_DEPTH).toNat = v.pairs.length
  keyMaxLength : 2 ≤ v.keyMaxLength.toNat
  valueMaxLength : 2 ≤ v.valueMaxLength.toNat

/-- The reader after `jsr_match_pairs`. -/
def View.matched (v : View) : View :=
  { v.counted (keyCount v.keyStr v.pairs) with
    pairs := v.pairs.map (capture v.keyStr v.valueStr v.depth)
    keyStr := Function.update v.keyStr 0 0
    valueStr := Function.update v.valueStr 0 0 }

theorem View.Good.matched (h : v.Good) (hdepth : v.depth.toNat < JSR_MAX_DEPTH) :
    v.matched.Good := by
  refine ⟨h.pairs.capture _ _ _, ?_, h.keyMaxLength, h.valueMaxLength⟩
  have hcount := View.counted_pairCount hdepth (keyCount v.keyStr v.pairs)
  exact (congrArg BitVec.toNat hcount).trans (h.pairCount.trans (List.length_map _).symm)

theorem View.matched_clear (v : View) : v.matched.keyStr 0 = 0 ∧ v.matched.valueStr 0 = 0 :=
  ⟨Function.update_self 0 0 v.keyStr, Function.update_self 0 0 v.valueStr⟩

theorem matchPairs_reader (h : v.Good) (hdepth : v.depth.toNat < JSR_MAX_DEPTH)
    (hkey : v.keyStr 0 ≠ 0) (n : Notes) :
    ∃ n', (matchPairs (v.reader n)).value = v.matched.reader n' := by
  obtain ⟨n', hread⟩ := matchPairsFrom_reader n h.pairs hdepth
    (h.pairCount.trans (Nat.zero_add _).symm)
  refine ⟨n', ?_⟩
  rw [matchPairs, if_neg fun hempty => hkey hempty.1]
  change (matchPairsFrom (v.reader n) 0 v.pairs >>= _).value = _
  rw [Logged.value_bind, hread]
  rfl

theorem matchPairs_clear (hkey : v.keyStr 0 = 0) (hvalue : v.valueStr 0 = 0) (n : Notes) :
    matchPairs (v.reader n) = pure (v.reader n) := if_pos ⟨hkey, hvalue⟩

/-! ### Objects -/

theorem idle_state : Phase.colon.state &&& ~~~JSR_STATE_COLON = Phase.idle.state := by decide

/-- A comma behind a member. -/
theorem Reads.comma (h : v.Good) (hdepth : v.depth.toNat < JSR_MAX_DEPTH) (hkey : v.keyStr 0 ≠ 0)
    (hphase : v.phase = .colon) :
    Reads v [0x2C] { v.matched with phase := .idle, writeIdx := 0 } [] := by
  refine Reads.unquoted (.inr hphase) fun n => ?_
  obtain ⟨n', hmatch⟩ := matchPairs_reader h hdepth hkey n
  refine ⟨n', ?_⟩
  change ((matchPairs (v.reader n) >>= _ : Logged Access (JsrState × Bool))).value = _
  rw [Logged.value_bind, hmatch]
  change ({ v.matched.reader n' with
    state := v.phase.state &&& ~~~JSR_STATE_COLON, writeIdx := 0 }, false) = _
  rw [hphase, idle_state]
  rfl

/-- A comma behind an object. -/
theorem Reads.commaClear (hkey : v.keyStr 0 = 0) (hvalue : v.valueStr 0 = 0)
    (hphase : v.phase = .colon) : Reads v [0x2C] { v with phase := .idle, writeIdx := 0 } [] := by
  refine Reads.unquoted (.inr hphase) fun n => ⟨n, ?_⟩
  change ((matchPairs (v.reader n) >>= _ : Logged Access (JsrState × Bool))).value = _
  rw [matchPairs_clear hkey hvalue, Logged.value_bind, Logged.value_pure]
  change ({ v.reader n with
    state := v.phase.state &&& ~~~JSR_STATE_COLON, writeIdx := 0 }, false) = _
  rw [hphase, idle_state]
  rfl

/-- The reader after the beginning of an object. -/
def View.opened (v : View) : View :=
  { v with depth := 1, matchCount := Function.update v.matchCount 1 0 }

theorem View.Good.opened (h : v.Good) : v.opened.Good := by
  have hcount : v.opened.matchCount JSR_MAX_DEPTH = v.matchCount JSR_MAX_DEPTH :=
    Function.update_of_ne (show JSR_MAX_DEPTH ≠ 1 by decide) 0 v.matchCount
  exact ⟨h.pairs, (congrArg BitVec.toNat hcount).trans h.pairCount, h.keyMaxLength,
    h.valueMaxLength⟩

theorem Reads.beginObject (h : v.Good) (hdepth : v.depth = 0) (hphase : v.phase = .idle) :
    Reads v [0x7B] v.opened [] := by
  refine Reads.unquoted (.inl hphase) fun n => ?_
  have hstate : Phase.idle.state &&& ~~~JSR_STATE_COLON = Phase.idle.state := by decide
  -- such pairs are not transient
  have hpairs : (v.pairs.take (v.matchCount JSR_MAX_DEPTH).toNat).map (clearTransient 1) ++
      v.pairs.drop (v.matchCount JSR_MAX_DEPTH).toNat = v.pairs := by
    have htransient : has JSR_PAIR_KEY JSR_PAIR_TRANSIENT = false := by decide
    have hsame : ∀ pair ∈ v.pairs.take (v.matchCount JSR_MAX_DEPTH).toNat,
        clearTransient 1 pair = pair := by
      intro pair hmem
      rw [clearTransient, h.pairs pair (List.mem_of_mem_take hmem), htransient]
      exact if_neg fun hand => Bool.false_ne_true hand.2
    rw [List.map_congr_left hsame, List.map_id', List.take_append_drop]
  have hnext : (if v.depth.toNat < JSR_MAX_DEPTH then v.depth + 1 else v.depth) = 1 := by
    rw [hdepth]
    rfl
  have hread : readUnquoted (v.reader n) 0x7B =
    Jsr.beginObject (v.reader n) >>= fun s => pure (s, false) := rfl
  refine ⟨{ n with
    objectCount := n.objectCount + 1, topLevelObjectCount := n.topLevelObjectCount + 1 }, ?_⟩
  rw [hread, Logged.value_bind, Logged.value_pure, Jsr.beginObject]
  simp only [Logged.value_bind, Logged.value_pure, View.reader, JsrState.pairCount, hnext, hphase,
    hstate, Option.map_some, hpairs, View.opened]
  rfl

/-- The reader after the end of an object. -/
def View.closed (v : View) : View := { v.matched with depth := 0 }

/-- The end of an object in which enough pairs have matched. -/
theorem Reads.endObject (h : v.Good) (hdepth : v.depth = 1) (hkey : v.keyStr 0 ≠ 0)
    (hphase : v.phase = .colon) (hcount : v.matchThreshold ≤ v.closed.matchCount 1) :
    Reads v [0x7D] v.closed [v.closed.pairs] := by
  intro n
  obtain ⟨n', hread⟩ := readChar_unquoted (.inr hphase) n 0x7D
  obtain ⟨n'', hmatch⟩ := matchPairs_reader h (by rw [hdepth]; decide) hkey n'
  have hend : (Jsr.endObject (v.reader n')).value = (v.closed.reader n'', true) := by
    have hskip : has JSR_OPTION_SKIP_HTTP_HEADER JSR_OPTION_MATCH_COUNT_RECURSE = false := by
      decide
    have hdown : (if (v.matched.reader n'').depth.toNat > 0 then
        { v.matched.reader n'' with depth := (v.matched.reader n'').depth - 1 }
          else v.matched.reader n'') = v.closed.reader n'' := by
      have hdepth' : (v.matched.reader n'').depth = 1 := hdepth
      rw [hdepth', if_pos (by decide)]
      rfl
    have hrecurse : recurseMatchCount (v.closed.reader n'') = pure (v.closed.reader n'') :=
      if_neg fun hhas => Bool.false_ne_true (hskip.symm.trans hhas)
    rw [Jsr.endObject, Logged.value_bind, hmatch]
    dsimp only
    have hmin : (v.closed.reader n'').matchMinDepth.toNat ≤ (v.closed.reader n'').depth.toNat :=
      Nat.zero_le _
    rw [hdown, hrecurse, Logged.value_bind, Logged.value_pure, if_pos hmin]
    exact Prod.ext rfl (decide_eq_true hcount)
  have hunquoted : readUnquoted (v.reader n') 0x7D = Jsr.endObject (v.reader n') := rfl
  refine ⟨n'', [v.closed.reader n''], ?_, rfl⟩
  simp only [consume, Logged.value_bind, Logged.value_pure, hread, hunquoted, hend, if_true]

/-- Nothing is left of a member. -/
def View.Clear (v : View) : Prop := v.keyStr 0 = 0 ∧ v.valueStr 0 = 0

/-- A string has no quotes and no NUL, as in the text of a string that needs no escaping. -/
def Plain (s : List Byte) : Prop := 0x22 ∉ s ∧ 0 ∉ s

/-- A key is there, and its characters and those of its value need no escaping. -/
structure Member.Plain (m : Member) : Prop where
  key : Jsr.Plain m.key
  value : Jsr.Plain m.value
  key_ne_nil : m.key ≠ []

/-- A string, as far as there is room for it. -/
def stored (maxLength : Dword) (s : List Byte) : List Byte := s.take (maxLength.toNat - 1)

/-- A member has been read, and is still to be compared with the pairs. -/
structure View.Pending (v : View) (m : Member) : Prop where
  phase : v.phase = .colon
  depth : v.depth = 1
  key : Holds v.keyStr (stored v.keyMaxLength m.key)
  value : Holds v.valueStr (stored v.valueMaxLength m.value)

/-- What the pairs have captured after a member. -/
def captureMember (keyMaxLength valueMaxLength : Dword) (pairs : List JsrPair) (m : Member) :
    List JsrPair :=
  pairs.map (capture (chars (stored keyMaxLength m.key)) (chars (stored valueMaxLength m.value)) 1)

/-- How many pairs match in an object. -/
def matchesIn (keyMaxLength : Dword) (pairs : List JsrPair) : List Member → Byte
  | [] => 0
  | m :: ms => keyCount (chars (stored keyMaxLength m.key)) pairs + matchesIn keyMaxLength pairs ms

/-- An object has been read by a reader, and the pairs are as given. -/
structure View.Read (v v' : View) (pairs : List JsrPair) : Prop where
  good : v'.Good
  phase : v'.phase = .colon
  depth : v'.depth = 0
  clear : v'.Clear
  keyMaxLength : v'.keyMaxLength = v.keyMaxLength
  valueMaxLength : v'.valueMaxLength = v.valueMaxLength
  matchThreshold : v'.matchThreshold = v.matchThreshold
  pairs : v'.pairs = pairs

/-- A key in quotes. -/
theorem Reads.key (hphase : v.phase = .idle) (hmax : 2 ≤ v.keyMaxLength.toNat) {l : List Byte}
    (hl : Plain l) (hne : l ≠ []) :
    ∃ b w, Reads v (Jsr.quoted l) { v with phase := .idle, keyStr := b, writeIdx := w } [] ∧
      Holds b (l.take (v.keyMaxLength.toNat - 1)) := by
  have hchars := Reads.keyChars (v := { v with phase := .key, writeIdx := 0 }) rfl hl.1
  have hread := (Reads.beginKey hphase).append (hchars.append (.endKey rfl))
  exact ⟨_, _, hread, store_holds hmax (.inr ⟨rfl, hne⟩) rfl (Nat.zero_le _)⟩

/-- A value in quotes. -/
theorem Reads.value (hphase : v.phase = .colon) (hmax : 2 ≤ v.valueMaxLength.toNat) {l : List Byte}
    (hl : Plain l) (hvalue : l ≠ [] ∨ v.valueStr 0 = 0) :
    ∃ b w, Reads v (Jsr.quoted l) { v with phase := .colon, valueStr := b, writeIdx := w } [] ∧
      Holds b (l.take (v.valueMaxLength.toNat - 1)) := by
  have hchars := Reads.valueChars (v := { v with phase := .value, writeIdx := 0 }) rfl hl.1
  have hread := (Reads.beginValue hphase).append (hchars.append (.endValue rfl))
  refine ⟨_, _, hread, store_holds (l := []) hmax ?_ rfl (Nat.zero_le _)⟩
  rcases hvalue with hvalue | hvalue
  · exact .inr ⟨rfl, hvalue⟩
  · refine .inl fun i hi => ?_
    obtain rfl : i = 0 := Nat.le_zero.1 hi
    exact hvalue

/-- **A member.** -/
theorem Reads.member (h : v.Good) (hphase : v.phase = .idle) {m : Member} (hm : m.Plain)
    (hvalue : m.value ≠ [] ∨ v.valueStr 0 = 0) :
    ∃ keyStr valueStr writeIdx, Reads v m.text { v with
      phase := .colon, keyStr := keyStr, valueStr := valueStr, writeIdx := writeIdx } [] ∧
      Holds keyStr (stored v.keyMaxLength m.key) ∧
      Holds valueStr (stored v.valueMaxLength m.value) := by
  obtain ⟨keyStr, w, hkey, hkeyHolds⟩ := Reads.key hphase h.keyMaxLength hm.key hm.key_ne_nil
  obtain ⟨valueStr, w', hread, hholds⟩ := Reads.value (v := { v with
    phase := .colon, keyStr := keyStr, writeIdx := 0 }) rfl h.valueMaxLength hm.value hvalue
  exact ⟨keyStr, valueStr, w', hkey.append (.cons (.colon rfl) hread), hkeyHolds, hholds⟩

theorem View.Pending.keyStr_ne_zero {m : Member} (h : v.Pending m) (hgood : v.Good)
    (hm : m.Plain) : v.keyStr 0 ≠ 0 := by
  obtain ⟨c, rest, hkey⟩ := List.exists_cons_of_ne_nil hm.key_ne_nil
  obtain ⟨k, hk⟩ : ∃ k, v.keyMaxLength.toNat - 1 = k + 1 :=
    ⟨v.keyMaxLength.toNat - 2, by have := hgood.keyMaxLength; omega⟩
  have hfirst := h.key 0 (Nat.zero_le _)
  rw [stored, hkey, hk, List.take_succ_cons, List.getD_cons_zero] at hfirst
  rw [hfirst]
  rintro rfl
  exact hm.key.2 (hkey ▸ List.mem_cons_self)

/-- What the pairs have captured after a member, in terms of its strings. -/
theorem View.Pending.matched_pairs {m : Member} (h : v.Pending m) :
    v.matched.pairs = captureMember v.keyMaxLength v.valueMaxLength v.pairs m := by
  rw [View.matched, captureMember, h.depth, capture_congr h.key h.value]

theorem View.Pending.matched_count {m : Member} (h : v.Pending m) :
    v.matched.matchCount 1 =
      v.matchCount 1 + keyCount (chars (stored v.keyMaxLength m.key)) v.pairs := by
  have hcount : keyCount v.keyStr v.pairs =
      keyCount (chars (stored v.keyMaxLength m.key)) v.pairs := by
    simp only [keyCount, strcmpEq_congr h.key]
  have hdepth : v.depth.toNat = 1 := by
    rw [h.depth]
    rfl
  change Function.update v.matchCount v.depth.toNat _ 1 = _
  rw [hdepth, Function.update_self, hcount]

theorem capture_keyStr (keyStr valueStr : ℕ → Byte) (depth : Dword) (pair : JsrPair) :
    (capture keyStr valueStr depth pair).keyStr = pair.keyStr := by
  rw [capture]
  split
  · rfl
  · rfl

/-- Capturing does not change the keys. -/
theorem matchesIn_captureMember (keyMaxLength valueMaxLength : Dword) (pairs : List JsrPair)
    (m : Member) (ms : List Member) :
    matchesIn keyMaxLength (captureMember keyMaxLength valueMaxLength pairs m) ms =
      matchesIn keyMaxLength pairs ms := by
  induction ms with
  | nil => rfl
  | cons m' ms ih =>
    rw [matchesIn, matchesIn, ih, keyCount, keyCount, captureMember, List.countP_map]
    simp only [Function.comp_def, capture_keyStr]

/-- **The members after the first one**, and the end of the object. -/
theorem View.Pending.rest {m : Member} {ms : List Member} (h : v.Pending m) (hgood : v.Good)
    (hm : m.Plain) (hms : ∀ m ∈ ms, m.Plain)
    (hcount : v.matchThreshold ≤ v.matchCount 1 + matchesIn v.keyMaxLength v.pairs (m :: ms)) :
    ∃ v', v.Read v' ((m :: ms).foldl (captureMember v.keyMaxLength v.valueMaxLength) v.pairs) ∧
      Reads v ((ms.map Member.text).flatMap (fun t => 0x2C :: t) ++ [0x7D]) v' [v'.pairs] := by
  have hdepth : v.depth.toNat < JSR_MAX_DEPTH := by
    rw [h.depth]
    decide
  have hkey := h.keyStr_ne_zero hgood hm
  have hmatched := hgood.matched hdepth
  induction ms generalizing v m with
  | nil =>
    refine ⟨v.closed, ⟨⟨hmatched.pairs, hmatched.pairCount, hgood.keyMaxLength,
      hgood.valueMaxLength⟩, h.phase, rfl, v.matched_clear, rfl, rfl, rfl,
      h.matched_pairs⟩, ?_⟩
    refine Reads.endObject hgood h.depth hkey h.phase ?_
    change v.matchThreshold ≤ v.matched.matchCount 1
    rw [h.matched_count]
    have hzero : matchesIn v.keyMaxLength v.pairs [m] =
        keyCount (chars (stored v.keyMaxLength m.key)) v.pairs :=
      BitVec.add_zero _
    rwa [hzero] at hcount
  | cons m' ms ih =>
    obtain ⟨hm', hms⟩ := List.forall_mem_cons.1 hms
    have hcomma := Reads.comma hgood hdepth hkey h.phase
    have hidle : ({ v.matched with phase := .idle, writeIdx := 0 } : View).Good :=
      ⟨hmatched.pairs, hmatched.pairCount, hgood.keyMaxLength, hgood.valueMaxLength⟩
    obtain ⟨keyStr, valueStr, w, hread, hkeyHolds, hvalueHolds⟩ :=
      Reads.member hidle rfl hm' (.inr v.matched_clear.2)
    -- the reader behind the next member
    generalize hnext : ({ v.matched with
      phase := .colon, keyStr := keyStr, valueStr := valueStr, writeIdx := w } : View) = next
    have hpending : next.Pending m' := by
      subst hnext
      exact ⟨rfl, h.depth, hkeyHolds, hvalueHolds⟩
    have hnextGood : next.Good := by
      subst hnext
      exact ⟨hmatched.pairs, hmatched.pairCount, hgood.keyMaxLength, hgood.valueMaxLength⟩
    have hpairs : next.pairs = captureMember v.keyMaxLength v.valueMaxLength v.pairs m := by
      subst hnext
      exact h.matched_pairs
    have hnextCount : next.matchThreshold ≤
        next.matchCount 1 + matchesIn next.keyMaxLength next.pairs (m' :: ms) := by
      have hfirst : next.matchCount 1 =
          v.matchCount 1 + keyCount (chars (stored v.keyMaxLength m.key)) v.pairs := by
        subst hnext
        exact h.matched_count
      have hmax : next.keyMaxLength = v.keyMaxLength := by
        subst hnext
        rfl
      have hthreshold : next.matchThreshold = v.matchThreshold := by
        subst hnext
        rfl
      rw [hpairs, hmax, hthreshold, matchesIn_captureMember, hfirst, BitVec.add_assoc]
      exact hcount
    have hnextDepth : next.depth.toNat < JSR_MAX_DEPTH := by
      rw [hpending.depth]
      decide
    obtain ⟨v', hv', hrest⟩ := ih hpending hnextGood hm' hms hnextCount hnextDepth
      (hpending.keyStr_ne_zero hnextGood hm') (hnextGood.matched hnextDepth)
    rw [hpairs] at hv'
    subst hnext
    refine ⟨v', ⟨hv'.good, hv'.phase, hv'.depth, hv'.clear, hv'.keyMaxLength, hv'.valueMaxLength,
      hv'.matchThreshold, hv'.pairs⟩, ?_⟩
    rw [List.map_cons, List.flatMap_cons, List.append_assoc, List.cons_append]
    exact hcomma.append (hread.append hrest)

/-- What the pairs have captured after an object. -/
def captureObject (keyMaxLength valueMaxLength : Dword) (pairs : List JsrPair)
    (members : List Member) : List JsrPair :=
  members.foldl (captureMember keyMaxLength valueMaxLength) pairs

theorem matchesIn_captureObject (keyMaxLength valueMaxLength : Dword) (pairs : List JsrPair)
    (members ms : List Member) :
    matchesIn keyMaxLength (captureObject keyMaxLength valueMaxLength pairs members) ms =
      matchesIn keyMaxLength pairs ms := by
  induction members generalizing pairs with
  | nil => rfl
  | cons m members ih => exact (ih _).trans (matchesIn_captureMember ..)

/-- An object from which the reader returns, with its members; the first of its strings is not
empty, or nothing is left in the buffer. -/
structure Returns (v : View) (object : List Member) : Prop where
  ne_nil : object ≠ []
  plain : ∀ m ∈ object, m.Plain
  count : v.matchThreshold ≤ matchesIn v.keyMaxLength v.pairs object

/-- **An object.** -/
theorem Reads.object (h : v.Good) (hphase : v.phase = .idle) (hdepth : v.depth = 0)
    {object : List Member} (hobject : Returns v object)
    (hfirst : (∀ m ∈ object.head?, m.value ≠ []) ∨ v.valueStr 0 = 0) :
    ∃ v', v.Read v' (captureObject v.keyMaxLength v.valueMaxLength v.pairs object) ∧
      Reads v (objectText object) v' [v'.pairs] := by
  obtain ⟨m, ms, rfl⟩ := List.exists_cons_of_ne_nil hobject.ne_nil
  obtain ⟨hm, hms⟩ := List.forall_mem_cons.1 hobject.plain
  obtain ⟨keyStr, valueStr, w, hread, hkey, hvalue⟩ := Reads.member (v := v.opened) h.opened hphase
    hm (hfirst.imp_left fun hne => hne m rfl)
  have hzero : v.opened.matchCount 1 + matchesIn v.keyMaxLength v.pairs (m :: ms) =
      matchesIn v.keyMaxLength v.pairs (m :: ms) := by
    change Function.update v.matchCount 1 0 1 + _ = _
    rw [Function.update_self]
    exact BitVec.zero_add _
  obtain ⟨v', hv', hrest⟩ := View.Pending.rest (v := { v.opened with
      phase := .colon, keyStr := keyStr, valueStr := valueStr, writeIdx := w })
    ⟨rfl, rfl, hkey, hvalue⟩
    ⟨h.opened.pairs, h.opened.pairCount, h.opened.keyMaxLength, h.opened.valueMaxLength⟩ hm hms
    (le_of_le_of_eq hobject.count hzero.symm)
  refine ⟨v', ⟨hv'.good, hv'.phase, hv'.depth, hv'.clear, hv'.keyMaxLength, hv'.valueMaxLength,
    hv'.matchThreshold, hv'.pairs⟩, ?_⟩
  rw [objectText, List.map_cons, separated, List.append_assoc]
  exact (Reads.beginObject h hdepth hphase).append (hread.append hrest)

/-- What the pairs have captured after each of the objects. -/
def captureObjects (keyMaxLength valueMaxLength : Dword) (pairs : List JsrPair) :
    List (List Member) → List (List JsrPair)
  | [] => []
  | object :: objects =>
    let pairs := captureObject keyMaxLength valueMaxLength pairs object
    pairs :: captureObjects keyMaxLength valueMaxLength pairs objects

theorem View.Read.returns {object : List Member} {pairs : List JsrPair} (h : v.Read v' pairs)
    (hpairs : ∀ ms, matchesIn v.keyMaxLength pairs ms = matchesIn v.keyMaxLength v.pairs ms)
    (hobject : Returns v object) : Returns v' object := by
  refine ⟨hobject.ne_nil, hobject.plain, ?_⟩
  rw [h.matchThreshold, h.keyMaxLength, h.pairs, hpairs]
  exact hobject.count

/-- The objects after the first one, and the end of the array. -/
theorem Reads.objects (h : v.Good) (hphase : v.phase = .colon) (hdepth : v.depth = 0)
    (hclear : v.Clear) {objects : List (List Member)} (hobjects : ∀ o ∈ objects, Returns v o) :
    ∃ v', Reads v ((objects.map objectText).flatMap (fun t => 0x2C :: t) ++ [0x5D]) v'
      (captureObjects v.keyMaxLength v.valueMaxLength v.pairs objects) := by
  induction objects generalizing v with
  | nil => exact ⟨v, .bracket (.inr hphase) (.inr rfl)⟩
  | cons object objects ih =>
    obtain ⟨hobject, hobjects⟩ := List.forall_mem_cons.1 hobjects
    have hcomma := Reads.commaClear hclear.1 hclear.2 hphase
    obtain ⟨v', hv', hread⟩ := Reads.object
      (v := { v with phase := .idle, writeIdx := 0 }) ⟨h.pairs, h.pairCount, h.keyMaxLength,
        h.valueMaxLength⟩ rfl hdepth ⟨hobject.ne_nil, hobject.plain, hobject.count⟩
      (.inr hclear.2)
    obtain ⟨v'', hrest⟩ := ih hv'.good hv'.phase hv'.depth hv'.clear fun o ho =>
      hv'.returns (fun ms => matchesIn_captureObject ..) ⟨(hobjects o ho).ne_nil,
        (hobjects o ho).plain, (hobjects o ho).count⟩
    refine ⟨v'', ?_⟩
    rw [hv'.keyMaxLength, hv'.valueMaxLength] at hrest
    rw [hv'.pairs] at hread hrest
    rw [List.map_cons, List.flatMap_cons, List.append_assoc, List.cons_append]
    exact hcomma.append (hread.append hrest)

/-- **An array of objects.** -/
theorem Reads.array (h : v.Good) (hphase : v.phase = .idle) (hdepth : v.depth = 0)
    {objects : List (List Member)} (hobjects : ∀ o ∈ objects, Returns v o)
    (hfirst : ∀ o ∈ objects.head?, ∀ m ∈ o.head?, m.value ≠ []) :
    ∃ v', Reads v (arrayText objects) v'
      (captureObjects v.keyMaxLength v.valueMaxLength v.pairs objects) := by
  have hbracket : Reads v [0x5B] v [] := .bracket (.inl hphase) (.inl rfl)
  cases objects with
  | nil => exact ⟨v, hbracket.append (.bracket (.inl hphase) (.inr rfl))⟩
  | cons object objects =>
    obtain ⟨hobject, hobjects⟩ := List.forall_mem_cons.1 hobjects
    obtain ⟨v', hv', hread⟩ := Reads.object h hphase hdepth hobject (.inl (hfirst object rfl))
    obtain ⟨v'', hrest⟩ := Reads.objects hv'.good hv'.phase hv'.depth hv'.clear fun o ho =>
      hv'.returns (fun ms => matchesIn_captureObject ..) (hobjects o ho)
    refine ⟨v'', ?_⟩
    rw [hv'.keyMaxLength, hv'.valueMaxLength] at hrest
    rw [hv'.pairs] at hread hrest
    rw [arrayText, List.map_cons, separated, List.append_assoc]
    exact hbracket.append (hread.append hrest)

/-! ### The header -/

/-- What ends an HTTP header. -/
def delimiter : List Byte := [0x0D, 0x0A, 0x0D, 0x0A]

/-- An HTTP header, up to its first empty line. -/
structure IsHeader (header : List Byte) : Prop where
  ends : delimiter <:+ header
  first : ∀ n < header.length, ¬ delimiter <:+ header.take n

/-- What characters make of the FIFO. -/
def pushFifo (fifo4 : Dword) (text : List Byte) : Dword :=
  text.foldl (fun fifo4 c => fifo4 <<< 8 ||| c.setWidth 32) fifo4

theorem toNat_push (fifo4 : Dword) (c : Byte) :
    (fifo4 <<< 8 ||| c.setWidth 32).toNat = (fifo4.toNat * 256 + c.toNat) % 2 ^ 32 := by
  have hc : c.toNat < 2 ^ 8 := c.isLt
  have hsplit : fifo4.toNat * 256 % 2 ^ 32 = fifo4.toNat % 2 ^ 24 * 256 := by omega
  have hor := Nat.shiftLeft_add_eq_or_of_lt hc (fifo4.toNat % 2 ^ 24)
  rw [Nat.shiftLeft_eq] at hor
  rw [BitVec.toNat_or, BitVec.toNat_shiftLeft, BitVec.toNat_setWidth, Nat.shiftLeft_eq]
  rw [show c.toNat % 2 ^ 32 = c.toNat by omega, show (2 : ℕ) ^ 8 = 256 from rfl, hsplit]
  change fifo4.toNat % 2 ^ 24 * 256 ||| c.toNat = _
  change fifo4.toNat % 2 ^ 24 * 256 + c.toNat = fifo4.toNat % 2 ^ 24 * 256 ||| c.toNat at hor
  rw [← hor]
  omega

theorem toNat_pushFifo_lt {fifo4 : Dword} {k : ℕ} (h : fifo4.toNat < k) {text : List Byte} :
    (pushFifo fifo4 text).toNat < k * 256 ^ text.length := by
  induction text generalizing fifo4 k with
  | nil =>
    rw [List.length_nil, Nat.pow_zero, Nat.mul_one]
    exact h
  | cons c text ih =>
    have hc := c.isLt
    have hnext : (fifo4 <<< 8 ||| c.setWidth 32).toNat < k * 256 := by
      rw [toNat_push]
      have hmod := Nat.mod_le (fifo4.toNat * 256 + c.toNat) (2 ^ 32)
      omega
    rw [List.length_cons, Nat.pow_succ', ← Nat.mul_assoc]
    exact ih hnext

/-- The FIFO holds the last four characters. -/
theorem pushFifo_eq (text : List Byte) :
    pushFifo 0 text = JSR_HTTP_HEADER_DELIMITER ↔ delimiter <:+ text := by
  have hdelimiter : JSR_HTTP_HEADER_DELIMITER.toNat = 0x0D0A0D0A := rfl
  rw [← BitVec.toNat_inj, hdelimiter]
  constructor
  · intro h
    by_cases hlength : text.length < 4
    · -- there are too few of them
      have hlt : (pushFifo 0 text).toNat < 256 ^ text.length := by
        have h : (pushFifo 0 text).toNat < 1 * 256 ^ text.length := toNat_pushFifo_lt Nat.one_pos
        rwa [Nat.one_mul] at h
      have hle : 256 ^ text.length ≤ 256 ^ 3 := Nat.pow_le_pow_right (by decide) (by omega)
      omega
    · obtain ⟨q, last, rfl, hlast⟩ : ∃ q last, text = q ++ last ∧ last.length = 4 :=
        ⟨text.take (text.length - 4), text.drop (text.length - 4),
          (List.take_append_drop ..).symm, by rw [List.length_drop]; omega⟩
      obtain ⟨a, b, c, d, rfl⟩ := List.length_eq_four.1 hlast
      rw [pushFifo, List.foldl_append] at h
      generalize q.foldl _ 0 = x at h
      simp only [List.foldl_cons, List.foldl_nil, toNat_push] at h
      have ha := a.isLt
      have hb := b.isLt
      have hc := c.isLt
      have hd := d.isLt
      have hbytes : a.toNat = 0x0D ∧ b.toNat = 0x0A ∧ c.toNat = 0x0D ∧ d.toNat = 0x0A := by omega
      obtain rfl : a = 0x0D := BitVec.eq_of_toNat_eq hbytes.1
      obtain rfl : b = 0x0A := BitVec.eq_of_toNat_eq hbytes.2.1
      obtain rfl : c = 0x0D := BitVec.eq_of_toNat_eq hbytes.2.2.1
      obtain rfl : d = 0x0A := BitVec.eq_of_toNat_eq hbytes.2.2.2
      exact List.suffix_append q _
  · rintro ⟨q, rfl⟩
    rw [pushFifo, List.foldl_append]
    generalize q.foldl _ 0 = x
    have hcr : (0x0D : Byte).toNat = 0x0D := rfl
    have hlf : (0x0A : Byte).toNat = 0x0A := rfl
    simp only [delimiter, List.foldl_cons, List.foldl_nil, toNat_push, hcr, hlf]
    omega

/-- A character goes through the FIFO. -/
theorem skipHeader_eq {s : JsrState} (hoption : s.option = JSR_OPTION_SKIP_HTTP_HEADER) (c : Byte) :
    skipHeader s c = { s with
      fifo4 := pushFifo s.fifo4 [c]
      state := if pushFifo s.fifo4 [c] = JSR_HTTP_HEADER_DELIMITER then
        s.state ||| JSR_STATE_HTTP_BODY else s.state } :=
  if_pos (by rw [hoption]; exact has_skip)

/-- Characters of the header. -/
theorem consume_skip {s : JsrState} (hoption : s.option = JSR_OPTION_SKIP_HTTP_HEADER)
    (hstate : s.state = 0) {text : List Byte}
    (h : ∀ n < text.length, pushFifo s.fifo4 (text.take (n + 1)) ≠ JSR_HTTP_HEADER_DELIMITER) :
    (consume s text).value = ({ s with fifo4 := pushFifo s.fifo4 text }, []) := by
  induction text generalizing s with
  | nil => rfl
  | cons c text ih =>
    have hc : pushFifo s.fifo4 [c] ≠ JSR_HTTP_HEADER_DELIMITER := h 0 (Nat.succ_pos _)
    have hskip : skipHeader s c = { s with fifo4 := pushFifo s.fifo4 [c] } := by
      rw [skipHeader_eq hoption, if_neg hc]
    have hbody : ({ s with fifo4 := pushFifo s.fifo4 [c] } : JsrState).inBody = false := by
      rw [JsrState.inBody, hoption, hstate]
      decide
    have hread : (readChar s c).value = ({ s with fifo4 := pushFifo s.fifo4 [c] }, false) := by
      rw [readChar, hskip]
      dsimp only
      rw [hbody]
      rfl
    have hrest := ih (s := { s with fifo4 := pushFifo s.fifo4 [c] }) hoption hstate
      fun n hn => h (n + 1) (Nat.succ_lt_succ hn)
    simp only [consume, Logged.value_bind, Logged.value_pure, hread, hrest]
    rfl

/-- **The body begins behind the header.** -/
theorem consume_header {s : JsrState} (hoption : s.option = JSR_OPTION_SKIP_HTTP_HEADER)
    (hstate : s.state = 0) (hfifo : s.fifo4 = 0) {header : List Byte} (h : IsHeader header) :
    (consume s header).value = ({ s with
      fifo4 := JSR_HTTP_HEADER_DELIMITER, state := JSR_STATE_HTTP_BODY }, []) := by
  have hends := (pushFifo_eq header).2 h.ends
  have hfirst := h.first
  obtain ⟨q, rfl⟩ := h.ends
  have hsplit : q ++ delimiter = (q ++ [0x0D, 0x0A, 0x0D]) ++ [0x0A] := by
    rw [List.append_assoc]
    rfl
  rw [hsplit] at hends hfirst ⊢
  generalize q ++ [0x0D, 0x0A, 0x0D] = text at hends hfirst
  have htext : (consume s text).value = ({ s with fifo4 := pushFifo s.fifo4 text }, []) := by
    refine consume_skip hoption hstate fun n hn hpush => ?_
    rw [hfifo, pushFifo_eq] at hpush
    refine hfirst (n + 1) (by rw [List.length_append, List.length_singleton]; omega) ?_
    rwa [List.take_append_of_le_length hn]
  -- the last character of the header
  have hlast : pushFifo (pushFifo s.fifo4 text) [0x0A] = JSR_HTTP_HEADER_DELIMITER := by
    rw [hfifo, ← hends]
    exact (List.foldl_append ..).symm
  have hread : (readChar { s with fifo4 := pushFifo s.fifo4 text } 0x0A).value = ({ s with
      fifo4 := JSR_HTTP_HEADER_DELIMITER, state := JSR_STATE_HTTP_BODY }, false) := by
    rw [readChar, skipHeader_eq (s := { s with fifo4 := pushFifo s.fifo4 text }) hoption]
    dsimp only
    have hset : (0 : Byte) ||| JSR_STATE_HTTP_BODY = JSR_STATE_HTTP_BODY := by decide
    have hhas : has JSR_STATE_HTTP_BODY JSR_STATE_HTTP_BODY = true := by decide
    have hquotes : has JSR_STATE_HTTP_BODY JSR_STATE_IN_QUOTES = false := by decide
    rw [hlast, if_pos rfl, hstate, hset, JsrState.inBody, hhas, Bool.or_true, if_pos rfl, hquotes,
      if_neg Bool.false_ne_true]
    rfl
  rw [consume_append]
  simp only [Logged.value_bind, Logged.value_pure, htext, consume, hread]
  rfl

/-- **A response with a list of objects**, however it is divided into buffers: whenever the reader
returns, the pairs have captured what they define of the next object. -/
theorem readAll_array {env : JsrEnv} {v : View} {n : Notes} (h : v.Good) (hphase : v.phase = .idle)
    (hdepth : v.depth = 0) (hfifo : n.fifo4 = 0)
    (henv : env = { v.reader n with state := 0, readIdx := 0 }) {header : List Byte}
    (hheader : IsHeader header) {objects : List (List Member)}
    (hobjects : ∀ o ∈ objects, Returns v o)
    (hfirst : ∀ o ∈ objects.head?, ∀ m ∈ o.head?, m.value ≠ []) {buffers : List (List Byte)}
    (hbuffers : buffers.flatten = header ++ arrayText objects) :
    (readAll env buffers).value.2.map JsrState.pairs =
      (captureObjects v.keyMaxLength v.valueMaxLength v.pairs objects).map some := by
  subst henv
  obtain ⟨v', hread⟩ := Reads.array h hphase hdepth hobjects hfirst
  obtain ⟨n', events, hbody, hevents⟩ := hread { n with fifo4 := JSR_HTTP_HEADER_DELIMITER }
  have hskip := consume_header (s := { v.reader n with state := 0 }) rfl rfl hfifo hheader
  have hbegin : ({ v.reader n with
      fifo4 := JSR_HTTP_HEADER_DELIMITER, state := JSR_STATE_HTTP_BODY } : JsrState) =
      v.reader { n with fifo4 := JSR_HTTP_HEADER_DELIMITER } := by
    rw [View.reader, View.reader, hphase]
    rfl
  change (consume { v.reader n with state := 0 } header).value = ({ v.reader n with
    fifo4 := JSR_HTTP_HEADER_DELIMITER, state := JSR_STATE_HTTP_BODY }, []) at hskip
  rw [hbegin] at hskip
  rw [readAll_eq_consume _ rfl, hbuffers, consume_append, Logged.value_map]
  simp only [Logged.value_bind, Logged.value_pure, hskip, hbody]
  exact hevents

end Jsr

end Lcm
