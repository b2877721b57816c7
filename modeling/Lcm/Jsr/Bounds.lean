import Lcm.Jsr.Buffering
import Lcm.Run.Basic

/-!
# Bounds of the streaming JSON reader

Characters of quoted strings are stored only as long as there is room for them, but characters of
unquoted values always are; and an object at depth 12 is counted behind the end of `match_count`.

## Main definitions

* `InBounds` : what a character makes the reader access is inside the arrays.
* `Fits` : the character is not one of those that may not be.

## Main results

* `inBounds_iff` : at a depth below 12, `Fits` decides.
* `readAll_inBounds_iff` : the streams for which all accesses are in bounds.
-/

namespace Lcm

namespace Jsr

/-- **An access is inside the array**, with room for the terminator of a string. -/
def Access.InBounds : Access → Prop
  | .store i maxLength => i + 1 < maxLength.toNat
  | .copy source maxLength => ∀ i < maxLength.toNat, (∀ j ≤ i, source j ≠ 0) → i + 1 < maxLength.toNat
  | .matchCount i => i < JSR_MAX_DEPTH

instance : DecidablePred Access.InBounds
  | .store _ _ => inferInstanceAs (Decidable (_ < _))
  | .copy source maxLength => inferInstanceAs (Decidable (∀ i < maxLength.toNat,
      (∀ j, j ≤ i → source j ≠ 0) → i + 1 < maxLength.toNat))
  | .matchCount _ => inferInstanceAs (Decidable (_ < _))

/-- The characters of a stream, as a machine. -/
def reader : Machine JsrState Byte where
  init s := s.depth = 0
  step s c := some (readChar s c).value.1

/-- What a character makes the reader access is inside the arrays. -/
def InBounds (s : JsrState) (c : Byte) : Prop := (readChar s c).All Access.InBounds

/-- A string is shorter than a length, if anything of it is copied. -/
def StringFits (source : ℕ → Byte) (maxLength : Dword) : Prop :=
  maxLength ≠ 0 → ∃ i < maxLength.toNat, source i = 0

/-- What a pair captures fits its buffer. -/
def PairFits (s : JsrState) (pair : JsrPair) : Prop :=
  (pair.option &&& JSR_PAIR_BOTH = JSR_PAIR_KEY → strcmpEq pair.keyStr s.keyStr = true →
      StringFits s.valueStr pair.valueMaxLength) ∧
    (pair.option &&& JSR_PAIR_BOTH = JSR_PAIR_VALUE → strcmpEq pair.valueStr s.valueStr = true →
      StringFits s.keyStr pair.keyMaxLength)

/-- What the pairs capture fits their buffers. -/
def CapturesFit (s : JsrState) : Prop :=
  ∀ pairs ∈ s.pairs, ∀ pair ∈ pairs.take s.pairCount,
    PairFits s pair

/-- What is stored of a quoted string is stored in a buffer. -/
def QuotedFits (s : JsrState) : Prop :=
  if has s.state JSR_STATE_COLON then s.writeIdx < s.valueMaxLength - 1 → s.valueMaxLength ≠ 0
  else s.writeIdx < s.keyMaxLength - 1 → s.keyMaxLength ≠ 0

/-- **A character does not make the reader leave an array**: there is room for it if it belongs to
an unquoted value, a quoted string has a buffer, objects are nested less than 12 deep, and what is
captured fits the buffers of the pairs. -/
def Fits (s : JsrState) (c : Byte) : Prop :=
  let s := skipHeader s c
  s.inBody = true →
    if has s.state JSR_STATE_IN_QUOTES then c ≠ 0x22 → QuotedFits s
    else if c = 0x2C ∨ c = 0x7D then CapturesFit s
    else if c = 0x7B then s.depth.toNat + 1 < JSR_MAX_DEPTH
    else c ≠ 0x22 → c ≠ 0x3A → isSeparator c = false → has s.state JSR_STATE_COLON = true →
      s.writeIdx.toNat + 1 < s.valueMaxLength.toNat

/-! ### The pairs -/

variable {s : JsrState} {pair : JsrPair} {flags : Byte}

/-- What a step over a pair leaves as it is, at a depth inside of `match_count`. -/
structure Keeps (s s' : JsrState) : Prop where
  /-- The key. -/
  keyStr : s'.keyStr = s.keyStr
  /-- The value. -/
  valueStr : s'.valueStr = s.valueStr
  /-- The depth. -/
  depth : s'.depth = s.depth
  /-- The number of pairs. -/
  pairCount : s.depth.toNat < JSR_MAX_DEPTH → s'.pairCount = s.pairCount

theorem Keeps.refl (s : JsrState) : Keeps s s := ⟨rfl, rfl, rfl, fun _ => rfl⟩

theorem Keeps.trans {s' s'' : JsrState} (h : Keeps s s') (h' : Keeps s' s'') : Keeps s s'' :=
  ⟨h'.keyStr.trans h.keyStr, h'.valueStr.trans h.valueStr, h'.depth.trans h.depth,
    fun hdepth => (h'.pairCount (h.depth ▸ hdepth)).trans (h.pairCount hdepth)⟩

theorem countMatch_keeps (s : JsrState) (pair : JsrPair) :
    Keeps s (countMatch s pair).value.1 := by
  unfold countMatch
  split
  · refine ⟨rfl, rfl, rfl, fun hdepth => ?_⟩
    exact congrArg BitVec.toNat (Function.update_of_ne (Nat.ne_of_gt hdepth) _ _)
  · exact .refl s

theorem captureValue_keeps (flags : Byte) (s : JsrState) (pair : JsrPair) :
    Keeps s (captureValue flags s pair).value.1 := by
  unfold captureValue
  split
  · dsimp only
    split
    · exact ⟨rfl, rfl, rfl, fun _ => rfl⟩
    · exact .refl s
  · exact .refl s

theorem captureKey_keeps (flags : Byte) (s : JsrState) (pair : JsrPair) :
    Keeps s (captureKey flags s pair).value.1 := by
  unfold captureKey
  split
  · dsimp only
    split
    · exact ⟨rfl, rfl, rfl, fun _ => rfl⟩
    · exact .refl s
  · exact .refl s

theorem copy_inBounds_iff {source : ℕ → Byte} {maxLength : Dword} :
    (Access.copy source maxLength).InBounds ↔ StringFits source maxLength := by
  constructor
  · intro h hne
    by_contra hnone
    push Not at hnone
    -- otherwise the last byte of the buffer is a character
    have hpos : 0 < maxLength.toNat := Nat.pos_of_ne_zero fun hzero =>
      hne (BitVec.eq_of_toNat_eq hzero)
    have hlast := h (maxLength.toNat - 1) (by omega) fun j hj => hnone j (by omega)
    omega
  · intro h i hi hchars
    obtain ⟨k, hk, hzero⟩ := h (by rintro rfl; exact absurd hi (Nat.not_lt_zero i))
    have hik : i < k := by
      by_contra hle
      exact hchars k (by omega) hzero
    omega

theorem captureValue_all : (captureValue flags s pair).All Access.InBounds ↔
    (has flags JSR_PAIR_KEY = true → StringFits s.valueStr pair.valueMaxLength) := by
  unfold captureValue
  split
  · rename_i hkey
    dsimp only
    split <;> simp [hkey, copy_inBounds_iff]
  · rename_i hkey
    simp [hkey]

theorem captureKey_all : (captureKey flags s pair).All Access.InBounds ↔
    (has flags JSR_PAIR_VALUE = true → StringFits s.keyStr pair.keyMaxLength) := by
  unfold captureKey
  split
  · rename_i hvalue
    dsimp only
    split <;> simp [hvalue, copy_inBounds_iff]
  · rename_i hvalue
    simp [hvalue]

theorem countMatch_all (hdepth : s.depth.toNat < JSR_MAX_DEPTH) :
    (countMatch s pair).All Access.InBounds := by
  unfold countMatch
  split
  · simpa [Access.InBounds] using hdepth
  · simp

/-- What a pair is, apart from what it captures. -/
theorem countMatch_maxLength (s : JsrState) (pair : JsrPair) :
    (countMatch s pair).value.2.valueMaxLength = pair.valueMaxLength ∧
      (countMatch s pair).value.2.keyMaxLength = pair.keyMaxLength := by
  unfold countMatch
  split
  · exact ⟨rfl, rfl⟩
  · exact ⟨rfl, rfl⟩

theorem captureValue_keyMaxLength (flags : Byte) (s : JsrState) (pair : JsrPair) :
    (captureValue flags s pair).value.2.keyMaxLength = pair.keyMaxLength := by
  unfold captureValue
  split <;> rfl

theorem has_key_iff : ∀ option : Byte, option &&& JSR_PAIR_BOTH ≠ JSR_PAIR_BOTH →
    (has option JSR_PAIR_KEY = true ↔ option &&& JSR_PAIR_BOTH = JSR_PAIR_KEY) := by decide

theorem has_value_iff : ∀ option : Byte, option &&& JSR_PAIR_BOTH ≠ JSR_PAIR_BOTH →
    (has option JSR_PAIR_VALUE = true ↔ option &&& JSR_PAIR_BOTH = JSR_PAIR_VALUE) := by decide

theorem has_matchFlags_key : has (matchFlags s pair) JSR_PAIR_KEY = true ↔
    has pair.option JSR_PAIR_KEY = true ∧ strcmpEq pair.keyStr s.keyStr = true := by
  unfold matchFlags
  split_ifs with hkey hvalue hvalue
  all_goals first | exact iff_of_true (by decide) hkey | exact iff_of_false (by decide) hkey

theorem has_matchFlags_value : has (matchFlags s pair) JSR_PAIR_VALUE = true ↔
    has pair.option JSR_PAIR_VALUE = true ∧ strcmpEq pair.valueStr s.valueStr = true := by
  unfold matchFlags
  split_ifs with hkey hvalue hvalue
  all_goals first | exact iff_of_true (by decide) hvalue | exact iff_of_false (by decide) hvalue

/-- What is copied to a pair fits its buffer exactly if what it captures does. -/
theorem matchPair_all (hdepth : s.depth.toNat < JSR_MAX_DEPTH) :
    (matchPair s pair).All Access.InBounds ↔ PairFits s pair := by
  have hkeeps := countMatch_keeps s pair
  obtain ⟨hvalueMax, hkeyMax⟩ := countMatch_maxLength s pair
  have hoption : (countMatch s pair).value.2.option = pair.option := by
    unfold countMatch
    split <;> rfl
  unfold matchPair PairFits
  simp only [Logged.all_bind, countMatch_all hdepth, true_and, hoption]
  split
  · -- a pair with both its key and its value
    rename_i hboth
    rw [hboth]
    exact iff_of_true (Logged.all_pure _)
      ⟨fun h => absurd h (by decide), fun h => absurd h (by decide)⟩
  · rename_i hboth
    rw [← has_key_iff _ hboth, ← has_value_iff _ hboth]
    simp only [Logged.all_bind, captureValue_all, captureKey_all, captureValue_keyMaxLength,
      (captureValue_keeps _ _ _).keyStr, has_matchFlags_key, has_matchFlags_value, and_imp,
      hvalueMax, hkeyMax]
    split
    · simp only [hkeeps.keyStr, hkeeps.valueStr]
    · simp only [hkeeps.keyStr, hkeeps.valueStr]

theorem matchPair_keeps (s : JsrState) (pair : JsrPair) : Keeps s (matchPair s pair).value.1 := by
  unfold matchPair
  simp only [Logged.value_bind]
  split
  · exact countMatch_keeps s pair
  · refine (countMatch_keeps s pair).trans (.trans ?_ (.trans (captureValue_keeps _ _ _)
      (captureKey_keeps _ _ _)))
    split
    · exact ⟨rfl, rfl, rfl, fun _ => rfl⟩
    · exact .refl _

theorem PairFits.congr {s' : JsrState} (h : Keeps s s') : PairFits s' pair ↔ PairFits s pair := by
  unfold PairFits
  rw [h.keyStr, h.valueStr]

theorem matchPairsFrom_keeps (s : JsrState) (p : ℕ) (pairs : List JsrPair) :
    Keeps s (matchPairsFrom s p pairs).value.1 := by
  induction pairs generalizing s p with
  | nil => exact .refl s
  | cons pair pairs ih =>
    unfold matchPairsFrom
    split
    · exact (matchPair_keeps s pair).trans (ih _ _)
    · exact .refl s

/-- The loop over the pairs. -/
theorem matchPairsFrom_all (hdepth : s.depth.toNat < JSR_MAX_DEPTH) (p : ℕ) (pairs : List JsrPair) :
    (matchPairsFrom s p pairs).All Access.InBounds ↔
      ∀ pair ∈ pairs.take (s.pairCount - p), PairFits s pair := by
  induction pairs generalizing s p with
  | nil => simp [matchPairsFrom]
  | cons pair pairs ih =>
    have hkeeps := matchPair_keeps s pair
    unfold matchPairsFrom
    split
    · rename_i hp
      obtain ⟨n, hn⟩ : ∃ n, s.pairCount - p = n + 1 := ⟨s.pairCount - p - 1, by omega⟩
      have hrest : s.pairCount - (p + 1) = n := by omega
      have hdepth' : (matchPair s pair).value.1.depth.toNat < JSR_MAX_DEPTH := by
        rw [hkeeps.depth]
        exact hdepth
      simp only [Logged.all_bind, Logged.all_pure, and_true, matchPair_all hdepth, ih hdepth',
        hkeeps.pairCount hdepth, hrest, hn, List.take_succ_cons, List.forall_mem_cons,
        PairFits.congr hkeeps]
    · rename_i hp
      have hnone : s.pairCount - p = 0 := by omega
      simp [hnone]

/-- **Comparing with the pairs.** -/
theorem matchPairs_all (hdepth : s.depth.toNat < JSR_MAX_DEPTH) :
    (matchPairs s).All Access.InBounds ↔ CapturesFit s := by
  unfold matchPairs CapturesFit
  split
  · -- there is nothing to compare, and nothing would not fit
    rename_i hempty
    refine iff_of_true (Logged.all_pure _) fun pairs _ pair _ =>
      ⟨fun _ _ hne => ?_, fun _ _ hne => ?_⟩
    · exact ⟨0, Nat.pos_of_ne_zero fun hzero => hne (BitVec.eq_of_toNat_eq hzero), hempty.2⟩
    · exact ⟨0, Nat.pos_of_ne_zero fun hzero => hne (BitVec.eq_of_toNat_eq hzero), hempty.1⟩
  · cases s.pairs with
    | none => simp
    | some pairs =>
      simp [matchPairsFrom_all hdepth]

theorem matchPairs_depth (s : JsrState) : (matchPairs s).value.depth = s.depth := by
  unfold matchPairs
  split
  · rfl
  · split
    · rfl
    · exact (matchPairsFrom_keeps s 0 _).depth

/-! ### A character -/

variable {c : Byte}

theorem store_inBounds_iff {writeIdx maxLength : Dword} (h : writeIdx < maxLength - 1) :
    (Access.store writeIdx.toNat maxLength).InBounds ↔ maxLength ≠ 0 := by
  have hlt : writeIdx.toNat < (maxLength - 1).toNat := h
  constructor
  · rintro hin rfl
    exact absurd hin (Nat.not_lt_zero _)
  · intro hne
    have hpos : 0 < maxLength.toNat := Nat.pos_of_ne_zero fun hzero =>
      hne (BitVec.eq_of_toNat_eq hzero)
    have hmax := maxLength.isLt
    have hpred : (maxLength - 1).toNat = maxLength.toNat - 1 := by
      rw [BitVec.toNat_sub]
      change (2 ^ 32 - 1 + maxLength.toNat) % 2 ^ 32 = _
      omega
    change writeIdx.toNat + 1 < maxLength.toNat
    omega

theorem appendKey_all : (appendKey s c).All Access.InBounds ↔
    (Access.store s.writeIdx.toNat s.keyMaxLength).InBounds := by simp [appendKey]

theorem appendValue_all : (appendValue s c).All Access.InBounds ↔
    (Access.store s.writeIdx.toNat s.valueMaxLength).InBounds := by simp [appendValue]

/-- A character of a quoted string. -/
theorem readQuoted_all : (readQuoted s c).All Access.InBounds ↔ (c ≠ 0x22 → QuotedFits s) := by
  unfold readQuoted QuotedFits
  by_cases hquote : c = 0x22
  · rw [if_pos hquote]
    exact iff_of_true (Logged.all_pure _) fun hne => absurd hquote hne
  · rw [if_neg hquote, imp_iff_right hquote]
    split
    · split
      · rename_i hroom
        rw [appendValue_all, store_inBounds_iff hroom, imp_iff_right hroom]
      · rename_i hroom
        exact iff_of_true (Logged.all_pure _) fun h => absurd h hroom
    · split
      · rename_i hroom
        rw [appendKey_all, store_inBounds_iff hroom, imp_iff_right hroom]
      · rename_i hroom
        exact iff_of_true (Logged.all_pure _) fun h => absurd h hroom

theorem succ_depth_toNat (hdepth : s.depth.toNat < JSR_MAX_DEPTH) :
    (s.depth + 1).toNat = s.depth.toNat + 1 := by
  have hdepth : s.depth.toNat < 12 := hdepth
  rw [BitVec.toNat_add]
  change (s.depth.toNat + 1) % 2 ^ 32 = _
  omega

/-- The beginning of an object. -/
theorem beginObject_all (hdepth : s.depth.toNat < JSR_MAX_DEPTH) :
    (beginObject s).All Access.InBounds ↔ s.depth.toNat + 1 < JSR_MAX_DEPTH := by
  simp only [beginObject, Logged.all_bind, Logged.all_touch, Logged.all_pure, and_true,
    if_pos hdepth, Access.InBounds, succ_depth_toNat hdepth]

/-- The depth after the end of an object. -/
theorem pred_depth_lt (hdepth : s.depth.toNat < JSR_MAX_DEPTH) :
    (if s.depth.toNat > 0 then { s with depth := s.depth - 1 } else s).depth.toNat + 1 <
      JSR_MAX_DEPTH := by
  have hdepth : s.depth.toNat < 12 := hdepth
  split
  · have hpred : (s.depth - 1).toNat = s.depth.toNat - 1 := by
      rw [BitVec.toNat_sub]
      change (2 ^ 32 - 1 + s.depth.toNat) % 2 ^ 32 = _
      omega
    change (s.depth - 1).toNat + 1 < 12
    omega
  · change s.depth.toNat + 1 < 12
    omega

theorem recurseMatchCount_depth (s : JsrState) : (recurseMatchCount s).value.depth = s.depth := by
  unfold recurseMatchCount
  split <;> rfl

theorem endObject_all (hdepth : s.depth.toNat < JSR_MAX_DEPTH) :
    (endObject s).All Access.InBounds ↔ CapturesFit s := by
  have hmatch : (matchPairs s).value.depth.toNat < JSR_MAX_DEPTH := by
    rw [matchPairs_depth]
    exact hdepth
  have hpred := pred_depth_lt hmatch
  unfold endObject
  rw [Logged.all_bind, matchPairs_all hdepth]
  refine and_iff_left_of_imp fun _ => ?_
  -- the depth is smaller by one, unless it is zero
  generalize (if (matchPairs s).value.depth.toNat > 0 then
    { (matchPairs s).value with depth := (matchPairs s).value.depth - 1 }
    else (matchPairs s).value) = s' at hpred ⊢
  rw [Logged.all_bind]
  refine ⟨?_, ?_⟩
  · unfold recurseMatchCount
    split
    · simp [Access.InBounds, hpred, Nat.lt_of_succ_lt hpred]
    · simp
  · rw [recurseMatchCount_depth]
    split
    · simp [Access.InBounds, hpred]
    · simp

theorem readBracket_depth (s : JsrState) (c : Byte) : (readBracket s c).depth = s.depth := by
  unfold readBracket
  split_ifs <;> rfl

/-- A character outside of a quoted string. -/
theorem readUnquoted_all (hdepth : s.depth.toNat < JSR_MAX_DEPTH) :
    (readUnquoted s c).All Access.InBounds ↔
      if c = 0x2C ∨ c = 0x7D then CapturesFit s
      else if c = 0x7B then s.depth.toNat + 1 < JSR_MAX_DEPTH
      else c ≠ 0x22 → c ≠ 0x3A → isSeparator c = false → has s.state JSR_STATE_COLON = true →
        s.writeIdx.toNat + 1 < s.valueMaxLength.toNat := by
  have hcaptures : CapturesFit (readBracket s c) ↔ CapturesFit s := by
    unfold readBracket CapturesFit
    split_ifs <;> rfl
  have hstate : (readBracket s c).state = s.state := by
    unfold readBracket
    split_ifs <;> rfl
  have hroom : (readBracket s c).writeIdx = s.writeIdx ∧
      (readBracket s c).valueMaxLength = s.valueMaxLength := by
    unfold readBracket
    split_ifs <;> exact ⟨rfl, rfl⟩
  rw [← hcaptures, ← hstate, ← hroom.1, ← hroom.2]
  rw [← readBracket_depth s c] at hdepth ⊢
  unfold readUnquoted
  dsimp only
  generalize readBracket s c = s at hdepth ⊢
  by_cases hcomma : c = 0x2C
  · rw [if_pos hcomma, if_pos (.inl hcomma), Logged.all_bind, matchPairs_all hdepth]
    exact and_iff_left (Logged.all_pure _)
  rw [if_neg hcomma]
  by_cases hquote : c = 0x22
  · subst hquote
    simp
  rw [if_neg hquote]
  by_cases hcolon : c = 0x3A
  · subst hcolon
    simp
  rw [if_neg hcolon]
  by_cases hbegin : c = 0x7B
  · subst hbegin
    simp [beginObject_all hdepth]
  rw [if_neg hbegin]
  by_cases hend : c = 0x7D
  · rw [if_pos hend, if_pos (.inr hend), endObject_all hdepth]
  rw [if_neg hend, if_neg (not_or.2 ⟨hcomma, hend⟩), if_neg hbegin, imp_iff_right hquote,
    imp_iff_right hcolon]
  split
  · rename_i hvalue
    rw [Logged.all_bind, appendValue_all, imp_iff_right hvalue.1, imp_iff_right hvalue.2]
    exact and_iff_left (Logged.all_pure _)
  · rename_i hvalue
    exact iff_of_true (Logged.all_pure _) fun hseparator hstate =>
      absurd ⟨hseparator, hstate⟩ hvalue

theorem skipHeader_depth (s : JsrState) (c : Byte) : (skipHeader s c).depth = s.depth := by
  unfold skipHeader
  split <;> rfl

/-- **What a character makes the reader access**, at a depth below 12, is inside the arrays exactly
if it fits. -/
theorem inBounds_iff (hdepth : s.depth.toNat < JSR_MAX_DEPTH) : InBounds s c ↔ Fits s c := by
  unfold InBounds readChar Fits
  dsimp only
  rw [← skipHeader_depth s c] at hdepth
  generalize skipHeader s c = s' at hdepth ⊢
  cases hbody : s'.inBody with
  | false => exact iff_of_true (Logged.all_pure _) (nomatch ·)
  | true =>
    rw [if_pos rfl, imp_iff_right rfl]
    split
    · simp [readQuoted_all]
    · exact readUnquoted_all hdepth

/-! ### A stream -/

theorem readQuoted_depth (s : JsrState) (c : Byte) : (readQuoted s c).value.depth = s.depth := by
  unfold readQuoted
  split
  · rfl
  · split
    · split <;> rfl
    · split <;> rfl

theorem endObject_depth_lt (hdepth : s.depth.toNat < JSR_MAX_DEPTH) :
    (endObject s).value.1.depth.toNat < JSR_MAX_DEPTH := by
  have hmatch : (matchPairs s).value.depth.toNat < JSR_MAX_DEPTH := by
    rw [matchPairs_depth]
    exact hdepth
  have hpred := pred_depth_lt hmatch
  unfold endObject
  rw [Logged.value_bind]
  generalize (if (matchPairs s).value.depth.toNat > 0 then
    { (matchPairs s).value with depth := (matchPairs s).value.depth - 1 }
    else (matchPairs s).value) = s' at hpred ⊢
  rw [Logged.value_bind]
  have hrecurse := recurseMatchCount_depth s'
  split
  · change (recurseMatchCount s').value.depth.toNat < JSR_MAX_DEPTH
    rw [hrecurse]
    exact Nat.lt_of_succ_lt hpred
  · change (recurseMatchCount s').value.depth.toNat < JSR_MAX_DEPTH
    rw [hrecurse]
    exact Nat.lt_of_succ_lt hpred

/-- A character that is no brace does not change the depth. -/
theorem readUnquoted_depth (hbegin : c ≠ 0x7B) (hend : c ≠ 0x7D) :
    (readUnquoted s c).value.1.depth = s.depth := by
  rw [← readBracket_depth s c]
  unfold readUnquoted
  dsimp only
  rw [if_neg hbegin, if_neg hend]
  split
  · exact matchPairs_depth _
  · split
    · rfl
    · split
      · rfl
      · split <;> rfl

/-- The depth after a character that fits. -/
theorem readChar_depth_lt (hdepth : s.depth.toNat < JSR_MAX_DEPTH) (hfits : Fits s c) :
    (readChar s c).value.1.depth.toNat < JSR_MAX_DEPTH := by
  unfold Fits at hfits
  unfold readChar
  dsimp only at hfits ⊢
  rw [← skipHeader_depth s c] at hdepth
  generalize skipHeader s c = s at hdepth hfits ⊢
  cases hbody : s.inBody with
  | false => exact hdepth
  | true =>
    have hfits := hfits hbody
    rw [if_pos rfl]
    split
    · change (readQuoted s c).value.depth.toNat < JSR_MAX_DEPTH
      rw [readQuoted_depth]
      exact hdepth
    · rename_i hquotes
      rw [if_neg hquotes] at hfits
      by_cases hbegin : c = 0x7B
      · subst hbegin
        change (if (readBracket s 0x7B).depth.toNat < JSR_MAX_DEPTH then
          (readBracket s 0x7B).depth + 1 else (readBracket s 0x7B).depth).toNat < JSR_MAX_DEPTH
        rw [readBracket_depth, if_pos hdepth, succ_depth_toNat hdepth]
        exact hfits
      by_cases hend : c = 0x7D
      · subst hend
        have hbracket : (readBracket s 0x7D).depth.toNat < JSR_MAX_DEPTH := by
          rw [readBracket_depth]
          exact hdepth
        exact endObject_depth_lt hbracket
      rw [readUnquoted_depth hbegin hend]
      exact hdepth

/-- The accesses of a stream are those of its characters. -/
theorem consume_all (s : JsrState) (stream : List Byte) :
    (consume s stream).All Access.InBounds ↔ reader.AllSteps InBounds s stream := by
  induction stream generalizing s with
  | nil => exact iff_of_true (Logged.all_pure _) trivial
  | cons c cs ih =>
    simp only [consume, Logged.all_bind, Logged.all_pure, and_true, ih]
    constructor
    · rintro h _ ⟨⟩
      exact h
    · exact fun h => h _ rfl

/-- **Which streams are read inside the arrays**, however they are divided into buffers: those all
characters of which fit. -/
theorem readAll_inBounds_iff (env : JsrEnv) (hstart : env.readIdx = 0) (hdepth : env.depth = 0)
    (buffers : List (List Byte)) :
    (readAll env buffers).All Access.InBounds ↔
      reader.AllSteps Fits env.toJsrState buffers.flatten := by
  rw [readAll_eq_consume env hstart, Logged.all_map, consume_all]
  refine Machine.allSteps_congr (I := fun s => s.depth.toNat < JSR_MAX_DEPTH) ?_
    (fun _ _ hdepth => inBounds_iff hdepth) ?_
  · rintro s c _ hdepth hfits ⟨⟩
    exact readChar_depth_lt hdepth hfits
  · rw [hdepth]
    decide

/-- A reader with a key of at most 7 and a value of at most 3 characters. -/
def exampleEnv : JsrEnv := { jsrEnvInit with keyMaxLength := 8, valueMaxLength := 4 }

theorem readAll_inBounds_iff_example :
    (readAll exampleEnv [[0x7B], [0x7D]]).All Access.InBounds ↔
      reader.AllSteps Fits exampleEnv.toJsrState [0x7B, 0x7D] :=
  readAll_inBounds_iff exampleEnv rfl rfl [[0x7B], [0x7D]]

/-- The value in `{"k":12345}` is not quoted, and has no room. -/
theorem not_readAll_inBounds :
    ¬ ∀ (env : JsrEnv) (buffers : List (List Byte)), env.readIdx = 0 → env.depth = 0 →
      (readAll env buffers).All Access.InBounds := by
  intro h
  have hread := h exampleEnv
    [[0x7B, 0x22, 0x6B, 0x22, 0x3A, 0x31, 0x32, 0x33, 0x34, 0x35, 0x7D]] rfl rfl
  rw [readAll_eq_consume _ rfl, Logged.all_map] at hread
  exact absurd hread (by decide +kernel)

end Jsr

end Lcm
