import Lcm.Jsa.KeyChange
import Lcm.Numerals
import Lcm.Services.Process
import Mathlib.Algebra.Group.Int.Defs

/-!
# The authentication of a watch

A watch sends the time, and the time encrypted under the stored key.  `TestWatchAuth` keeps the
64-bit number of the request in an `int`, takes the nibble of any character, and has `atoi` read the
block that comes out of the decryption, which is at the front of a larger array and need not be
terminated.  `watchAuth` is that function with an `atoi` that has no result where the real one runs
out of the array or does not have an `int` to return.

## Main definitions

* `watchAuth` : the decision, as far as there is one; `testWatchAuth` is what it decides.
* `Genuine` : the requests that should be accepted.
* `Decides` : the decision is right, whatever is on the stack.
* `Plain` : a request whose time, characters and block are not mistaken for something else.

## Main results

* `testWatchAuth_of_watchAuth` : the two models of the function agree.
* `decides_iff` : the decision is right for the plain requests.
* `farFuture_accepted` : a time that is 2^32 seconds ahead is accepted.
-/

namespace Lcm

namespace Services

namespace WatchAuth

open Jsa (Block nibble nibble_of_digit)
open Numerals

variable {D : Type*} {decrypt : Block → Block → Block} {st : State D} {input : Input} {root : JsonT}
  {time : Dword} {saved : ℕ} {value : BitVec 64} {text block : List Byte}

/-! ### The decision -/

/-- The number fits in an `int`. -/
def IsInt (n : ℤ) : Prop := -2 ^ 31 ≤ n ∧ n < 2 ^ 31

instance (n : ℤ) : Decidable (IsInt n) := inferInstanceAs (Decidable (_ ∧ _))

/-- `atoi`, of an array: the number has to end inside, and to be an `int`. -/
def atoiIn (array : List Byte) : Option Dword :=
  if (scan array).rest ≠ [] ∧ IsInt (scan array).number then
    some (BitVec.ofInt 32 (scan array).number)
  else none

/-- `TestWatchAuth`, as far as it decides. -/
def watchAuth (decrypt : Block → Block → Block) (input : Input) (st : State D) (root : JsonT) :
    Option Bool :=
  if !st.jsa.settings.authEnabled then some true
  else
    match watchTime input st root, root.get "auth" with
    | some messageTime, some (.string challengeStr) =>
      let text := JsonT.bytesOfString challengeStr
      if text.length ≠ 32 then some false
      else
        let decrypted := decrypt st.jsa.settings.storedKey (parseHex text)
        (atoiIn (List.ofFn decrypted ++ input.stack)).map fun decryptTime =>
          decide (messageTime = decryptTime)
    | _, _ => some false

/-! ### What should be decided -/

/-- The difference is not too large. -/
def Within (delta : ℤ) : Prop := -maxWatchTimeDiff ≤ delta ∧ delta ≤ maxWatchTimeDiff

instance (delta : ℤ) : Decidable (Within delta) := inferInstanceAs (Decidable (_ ∧ _))

/-- The current UTC time. -/
def utc (time : Dword) (st : State D) : ℤ :=
  time.toNat - st.shared.effectiveGmtOffsetSeconds.toInt

/-- The time of a request is near enough to the clock. -/
def Near (time : Dword) (st : State D) (value : BitVec 64) : Prop :=
  Within (utc time st - value.toInt)

/-- The string in a block. -/
def stringOf (block : List Byte) : List Byte := block.takeWhile (· ≠ 0)

/-- **The requests that should be accepted**: they have a time near the clock, and digits that
decrypt to the text of that time. -/
def Genuine (decrypt : Block → Block → Block) (time : Dword) (st : State D) (root : JsonT) : Prop :=
  ∃ value challengeStr block, root.get "currTime" = some (.integer value) ∧ Near time st value ∧
    root.get "auth" = some (.string challengeStr) ∧
    Hex.decode (JsonT.bytesOfString challengeStr) = some (List.ofFn block) ∧
    stringOf (List.ofFn (decrypt st.jsa.settings.storedKey block)) = decimal value.toInt

/-- **The decision is right**, if a key is required, whatever is on the stack. -/
def Decides (decrypt : Block → Block → Block) (time : Dword) (st : State D) (root : JsonT) : Prop :=
  st.jsa.settings.authEnabled = true → ∀ (stack : Fin 16 → Byte) (saved : ℕ),
    ∃ accepts, watchAuth decrypt ⟨time, List.ofFn stack, saved⟩ st root = some accepts ∧
      (accepts = true ↔ Genuine decrypt time st root)

/-! ### When it is -/

/-- The time in the request is near enough to the clock, as the `int` that is kept of it. -/
def NearAsInt (time : Dword) (st : State D) (value : BitVec 64) : Prop :=
  Within (time - st.shared.effectiveGmtOffsetSeconds - value.setWidth 32).toInt

/-- The request has a time that passes for near, and a text of 32 characters. -/
def Reaches (time : Dword) (st : State D) (root : JsonT) (value : BitVec 64) (text : List Byte) :
    Prop :=
  root.get "currTime" = some (.integer value) ∧ NearAsInt time st value ∧
    ∃ challengeStr, root.get "auth" = some (.string challengeStr) ∧
      JsonT.bytesOfString challengeStr = text ∧ text.length = 32

/-- **The number in a block is no other than it seems**: it ends inside the block and is an `int`,
and if it is the one in the request, then the time is really near, the characters are digits, and
the block is the text of the time. -/
structure PlainBlock (time : Dword) (st : State D) (value : BitVec 64) (text block : List Byte) :
    Prop where
  /-- Something is behind the number. -/
  ends : (scan block).rest ≠ []
  /-- The number fits. -/
  isInt : IsInt (scan block).number
  /-- The time is near. -/
  near : BitVec.ofInt 32 (scan block).number = value.setWidth 32 → Near time st value
  /-- The characters are digits. -/
  digits : BitVec.ofInt 32 (scan block).number = value.setWidth 32 → Hex.Digits text
  /-- There is nothing but the number. -/
  text : BitVec.ofInt 32 (scan block).number = value.setWidth 32 →
    stringOf block = decimal value.toInt

/-- The plain requests. -/
def Plain (decrypt : Block → Block → Block) (time : Dword) (st : State D) (root : JsonT) : Prop :=
  st.jsa.settings.authEnabled = true → ∀ value text, Reaches time st root value text →
    PlainBlock time st value text
      (List.ofFn (decrypt st.jsa.settings.storedKey (parseHex text)))

/-! ### The time -/

theorem watchTime_eq_some_iff {messageTime : Dword} :
    watchTime input st root = some messageTime ↔ ∃ value : BitVec 64,
      root.get "currTime" = some (.integer value) ∧ NearAsInt input.time st value ∧
        messageTime = value.setWidth 32 := by
  rw [watchTime]
  split
  · rename_i value hvalue
    dsimp only
    have hnear : NearAsInt input.time st value ↔
        ¬ ((input.time - st.shared.effectiveGmtOffsetSeconds - value.setWidth 32).toInt <
            -maxWatchTimeDiff ∨
          (input.time - st.shared.effectiveGmtOffsetSeconds - value.setWidth 32).toInt >
            maxWatchTimeDiff) := by
      rw [NearAsInt, Within]
      omega
    rw [hvalue]
    split
    · rename_i hfar
      refine iff_of_false (by simp) ?_
      rintro ⟨_, heq, hnear', -⟩
      cases heq
      exact hnear.1 hnear' hfar
    · rename_i hnot
      constructor
      · rintro h
        cases h
        exact ⟨value, rfl, hnear.2 hnot, rfl⟩
      · rintro ⟨_, heq, -, rfl⟩
        cases heq
        rfl
  · rename_i hnone
    refine iff_of_false (by simp) ?_
    rintro ⟨value, hvalue, -⟩
    exact hnone value hvalue

theorem setWidth_eq_ofInt (value : BitVec 64) :
    value.setWidth 32 = BitVec.ofInt 32 value.toInt := by
  apply BitVec.eq_of_toNat_eq
  rw [BitVec.toNat_setWidth, BitVec.toNat_ofInt, BitVec.toInt_eq_toNat_cond]
  have hlt := value.isLt
  split <;> omega

theorem sub_eq_ofInt (a b c : Dword) (n : ℤ) (h : c = BitVec.ofInt 32 n) :
    a - b - c = BitVec.ofInt 32 (a.toNat - b.toInt - n) := by
  subst h
  apply BitVec.eq_of_toNat_eq
  rw [BitVec.toNat_sub, BitVec.toNat_sub, BitVec.toNat_ofInt, BitVec.toNat_ofInt,
    BitVec.toInt_eq_toNat_cond]
  have ha := a.isLt
  have hb := b.isLt
  split <;> omega

/-- A time that is near passes for near. -/
theorem Near.asInt (h : Near time st value) : NearAsInt time st value := by
  rw [NearAsInt, sub_eq_ofInt _ _ _ _ (setWidth_eq_ofInt value), ← utc]
  obtain ⟨hlow, hhigh⟩ := h
  rw [maxWatchTimeDiff] at hlow hhigh
  rw [BitVec.toInt_ofInt_eq_self (by decide) (by omega) (by omega)]
  exact ⟨hlow, hhigh⟩

/-! ### The characters -/

/-- **Digits are parsed** as they stand for bytes. -/
theorem decode_iff (hlength : text.length = 32) (b : Block) :
    Hex.decode text = some (List.ofFn b) ↔ Hex.Digits text ∧ b = parseHex text := by
  have hparse (hdigits : Hex.Digits text) :
      Hex.decode text = some (List.ofFn (parseHex text)) := by
    rw [Hex.decode_eq_ofFn (n := 16) hdigits hlength]
    congr 2
    funext j
    have hnibble (k : ℕ) (hk : k < text.length) :
        Hex.digitAt text k = nibble (text.getD k 0) := by
      obtain ⟨d, hd⟩ := Option.isSome_iff_exists.1 (hdigits _ (List.getElem_mem hk))
      rw [Hex.digitAt, List.getElem?_eq_getElem hk, Option.bind_some, hd,
        List.getD_eq_getElem _ _ hk, nibble_of_digit hd, Option.getD_some]
    rw [Hex.byteAt, hnibble _ (by omega), hnibble _ (by omega), parseHex]
  constructor
  · intro h
    have hdigits := Hex.digits_of_decode h
    exact ⟨hdigits, List.ofFn_injective (Option.some.inj (h.symm.trans (hparse hdigits)))⟩
  · rintro ⟨hdigits, rfl⟩
    exact hparse hdigits

theorem length_of_decode_block {b : Block} (h : Hex.decode text = some (List.ofFn b)) :
    text.length = 32 := by
  rw [Hex.length_of_decode h, List.length_ofFn]

/-- The requests that should be accepted get to the decryption. -/
theorem genuine_iff : Genuine decrypt time st root ↔ ∃ value text,
    Reaches time st root value text ∧ Near time st value ∧ Hex.Digits text ∧
      stringOf (List.ofFn (decrypt st.jsa.settings.storedKey (parseHex text))) =
        decimal value.toInt := by
  constructor
  · rintro ⟨value, challengeStr, b, hvalue, hnear, hauth, hdecode, hstring⟩
    have hlength := length_of_decode_block hdecode
    obtain ⟨hdigits, rfl⟩ := (decode_iff hlength b).1 hdecode
    exact ⟨value, _, ⟨hvalue, hnear.asInt, challengeStr, hauth, rfl, hlength⟩, hnear, hdigits,
      hstring⟩
  · rintro ⟨value, _, ⟨hvalue, -, challengeStr, hauth, rfl, hlength⟩, hnear, hdigits, hstring⟩
    exact ⟨value, challengeStr, _, hvalue, hnear, hauth, (decode_iff hlength _).2 ⟨hdigits, rfl⟩,
      hstring⟩

theorem Reaches.unique {value' : BitVec 64} {text' : List Byte}
    (h : Reaches time st root value text) (h' : Reaches time st root value' text') :
    value = value' ∧ text = text' := by
  obtain ⟨hvalue, -, s, hs, rfl, -⟩ := h
  obtain ⟨hvalue', -, s', hs', rfl, -⟩ := h'
  cases Option.some.inj (hvalue.symm.trans hvalue')
  cases Option.some.inj (hs.symm.trans hs')
  exact ⟨rfl, rfl⟩

/-! ### The number in a block -/

/-- What is behind a number that has ended makes no difference. -/
theorem atoiIn_append (h : (scan block).rest ≠ []) (stack : List Byte) :
    atoiIn (block ++ stack) = atoiIn block := by
  have hrest : (scan block).rest ++ stack ≠ [] := List.append_ne_nil_of_left_ne_nil h _
  rw [atoiIn, atoiIn, scan_append h]
  exact if_congr (and_congr_left fun _ => iff_of_true hrest h) rfl rfl

theorem ends_of_atoiIn {messageTime : Dword} (h : atoiIn block = some messageTime) :
    (scan block).rest ≠ [] ∧ IsInt (scan block).number ∧
      messageTime = BitVec.ofInt 32 (scan block).number := by
  rw [atoiIn] at h
  split at h
  · rename_i hint
    exact ⟨hint.1, hint.2, (Option.some.inj h).symm⟩
  · cases h

/-- **On a stack of digits** a number that is not ended has no end. -/
theorem atoiIn_nines {messageTime : Dword}
    (h : atoiIn (block ++ List.replicate 16 0x39) = some messageTime) :
    atoiIn block = some messageTime := by
  by_cases hends : (scan block).rest = []
  · have hnone : (scan (block ++ List.replicate 16 0x39)).rest = [] :=
      scan_append_digits hends fun x hx => List.eq_of_mem_replicate hx ▸ by decide
    exact absurd hnone (ends_of_atoiIn h).1
  · rwa [atoiIn_append hends] at h

/-- The text of a time is read as this time. -/
theorem scan_of_stringOf {n : ℤ} (hn : n.natAbs < 10 ^ 10) (hlength : 11 < block.length)
    (h : stringOf block = decimal n) : (scan block).number = n := by
  have hsplit := List.takeWhile_append_dropWhile (p := (· ≠ 0)) (l := block)
  have htake : block.takeWhile (· ≠ 0) = decimal n := h
  rw [htake] at hsplit
  have hne : block.dropWhile (· ≠ 0) ≠ [] := by
    intro hnil
    have hle := length_decimal_le n
    rw [hnil, List.append_nil] at hsplit
    rw [hsplit] at hle
    omega
  rw [← hsplit]
  refine (scan_decimal hn fun x hx => ?_).1
  have hzero := List.head_dropWhile_not (fun x : Byte => decide (x ≠ 0)) hne
  rw [List.head?_eq_some_head hne] at hx
  cases hx
  have hx : (block.dropWhile (· ≠ 0)).head hne = 0 := by simpa using hzero
  rw [hx]
  decide

/-! ### When the decision is right -/

theorem watchAuth_of_reaches (hkey : st.jsa.settings.authEnabled = true)
    (h : Reaches time st root value text) (stack : List Byte) (saved : ℕ) :
    watchAuth decrypt ⟨time, stack, saved⟩ st root =
      (atoiIn (List.ofFn (decrypt st.jsa.settings.storedKey (parseHex text)) ++ stack)).map
        fun decryptTime => decide (value.setWidth 32 = decryptTime) := by
  obtain ⟨hvalue, hnear, s, hs, rfl, hlength⟩ := h
  have htime : watchTime ⟨time, stack, saved⟩ st root = some (value.setWidth 32) :=
    watchTime_eq_some_iff.2 ⟨value, hvalue, hnear, rfl⟩
  rw [watchAuth, hkey, htime, hs]
  exact if_neg (not_not.2 hlength)

/-- The number in the block decides. -/
theorem watchAuth_of_plainBlock (hkey : st.jsa.settings.authEnabled = true)
    (h : Reaches time st root value text)
    (hplain : PlainBlock time st value text
      (List.ofFn (decrypt st.jsa.settings.storedKey (parseHex text))))
    (stack : List Byte) (saved : ℕ) :
    watchAuth decrypt ⟨time, stack, saved⟩ st root =
      some (decide (BitVec.ofInt 32 (scan (List.ofFn
        (decrypt st.jsa.settings.storedKey (parseHex text)))).number = value.setWidth 32)) := by
  rw [watchAuth_of_reaches hkey h, atoiIn_append hplain.ends, atoiIn,
    if_pos ⟨hplain.ends, hplain.isInt⟩, Option.map_some]
  exact congrArg some (decide_eq_decide.2 eq_comm)

theorem watchAuth_of_not_reaches (hkey : st.jsa.settings.authEnabled = true)
    (h : ∀ value text, ¬ Reaches time st root value text) (stack : List Byte) (saved : ℕ) :
    watchAuth decrypt ⟨time, stack, saved⟩ st root = some false := by
  rw [watchAuth, hkey]
  dsimp only
  rw [if_neg (by decide)]
  split
  · rename_i messageTime challengeStr htime hs
    obtain ⟨value, hvalue, hnear, -⟩ := watchTime_eq_some_iff.1 htime
    refine if_pos fun hlength => ?_
    exact h value _ ⟨hvalue, hnear, challengeStr, hs, rfl, hlength⟩
  · rfl

theorem Near.natAbs_lt (h : Near time st value) : value.toInt.natAbs < 10 ^ 10 := by
  obtain ⟨hlow, hhigh⟩ := h
  have htime := time.isLt
  have hoffset := st.shared.effectiveGmtOffsetSeconds.isLt
  rw [maxWatchTimeDiff, utc, BitVec.toInt_eq_toNat_cond] at hlow hhigh
  split at hlow <;> omega

/-- A stack of digits shows whether the number ends inside the block. -/
theorem plain_of_decides (h : Decides decrypt time st root) : Plain decrypt time st root := by
  intro hkey value text hreach
  -- a stack full of nines: a number that goes on there is out of range
  obtain ⟨accepts, hdecision, hiff⟩ := h hkey (fun _ => 0x39) 0
  rw [watchAuth_of_reaches hkey hreach, List.ofFn_const, Option.map_eq_some_iff] at hdecision
  obtain ⟨messageTime, hatoi, rfl⟩ := hdecision
  obtain ⟨hends, hint, rfl⟩ := ends_of_atoiIn (atoiIn_nines hatoi)
  have hgenuine (heq : BitVec.ofInt 32 (scan (List.ofFn
      (decrypt st.jsa.settings.storedKey (parseHex text)))).number = value.setWidth 32) :
      Near time st value ∧ Hex.Digits text ∧
        stringOf (List.ofFn (decrypt st.jsa.settings.storedKey (parseHex text))) =
          decimal value.toInt := by
    obtain ⟨value', text', hreach', hrest⟩ := genuine_iff.1 (hiff.1 (decide_eq_true heq.symm))
    obtain ⟨rfl, rfl⟩ := hreach.unique hreach'
    exact hrest
  exact ⟨hends, hint, fun heq => (hgenuine heq).1, fun heq => (hgenuine heq).2.1,
    fun heq => (hgenuine heq).2.2⟩

theorem decides_of_plain (h : Plain decrypt time st root) : Decides decrypt time st root := by
  intro hkey stack saved
  by_cases hreach : ∃ value text, Reaches time st root value text
  · obtain ⟨value, text, hreach⟩ := hreach
    have hplain := h hkey value text hreach
    refine ⟨_, watchAuth_of_plainBlock hkey hreach hplain _ _, ?_⟩
    rw [decide_eq_true_iff, genuine_iff]
    constructor
    · intro heq
      exact ⟨value, text, hreach, hplain.near heq, hplain.digits heq, hplain.text heq⟩
    · rintro ⟨value', text', hreach', hnear, -, hstring⟩
      obtain ⟨rfl, rfl⟩ := hreach.unique hreach'
      rw [scan_of_stringOf hnear.natAbs_lt (by rw [List.length_ofFn]; decide) hstring,
        setWidth_eq_ofInt]
  · -- the block is not decrypted at all
    have hnot : ∀ value text, ¬ Reaches time st root value text :=
      fun value text hreach' => hreach ⟨value, text, hreach'⟩
    refine ⟨false, watchAuth_of_not_reaches hkey hnot _ _, iff_of_false Bool.false_ne_true ?_⟩
    intro hgenuine
    obtain ⟨value, text, hreach', -⟩ := genuine_iff.1 hgenuine
    exact hnot value text hreach'

/-- A device with a factory key, at the beginning of time. -/
def keyed : State Unit :=
  { jsa := .start
      { userKey := ⟨fun _ => 0, 0⟩
        factoryKey := fun _ => 0
        factoryAuthInit := Jsa.factoryAuthInitEnabled
        authExempt := 0 }
    manufacturingTestModeFlag := false
    shared := ⟨0, [], ()⟩ }

/-- A request from a time that is 2^32 seconds ahead. -/
def farFuture : JsonT :=
  .object [("currTime", .integer 4294967296), ("auth", .string "30000000000000000000000000000000")]

theorem digitsValue_eq (text : List Byte) (n : ℕ) :
    digitsValue n text =
      ((text.takeWhile (IsDigit ·)).foldl (fun n x => 10 * n + (x.toNat - 0x30)) n : ℕ) := by
  induction text generalizing n with
  | nil => rfl
  | cons x text ih =>
    rw [digitsValue]
    show (if IsDigit x then _ else _) = _
    by_cases hx : IsDigit x
    · have hcast : (10 * n + (x.toNat - 0x30) : ℤ) = ((10 * n + (x.toNat - 0x30) : ℕ) : ℤ) := by
        have hle : 0x30 ≤ x.toNat := BitVec.le_def.1 hx.1
        omega
      rw [if_pos hx, List.takeWhile_cons_of_pos (p := (IsDigit ·)) (decide_eq_true hx), hcast, ih]
      rfl
    · rw [if_neg hx, List.takeWhile_cons_of_neg (p := (IsDigit ·)) (mt of_decide_eq_true hx)]
      rfl

theorem atoi_eq (text : List Byte) : atoi text = BitVec.ofInt 32 (scan text).number := by
  have hvalue (text : List Byte) :
      digitsValue 0 text = (value (text.takeWhile (IsDigit ·)) : ℤ) := digitsValue_eq text 0
  have hspaces : text.dropWhile (fun x => decide (x = 0x20 ∨ (0x09 ≤ x ∧ x ≤ 0x0D))) =
      text.dropWhile (IsSpace ·) := rfl
  rw [atoi, hspaces, scan]
  split
  · rename_i text' htext
    rw [htext, hvalue]
    rfl
  · rename_i text' htext
    rw [htext, hvalue]
    rfl
  · rename_i text' hminus hplus
    have hsign : sign (text.dropWhile (IsSpace ·)) = (false, text.dropWhile (IsSpace ·)) := by
      generalize text.dropWhile (IsSpace ·) = text' at hminus hplus
      cases text' with
      | nil => rfl
      | cons x text' =>
        have hx : x ≠ 0x2D := fun h => hminus text' (congrArg (· :: text') h)
        have hx' : x ≠ 0x2B := fun h => hplus text' (congrArg (· :: text') h)
        rw [sign, if_neg hx, if_neg hx']
    rw [hsign, hvalue]
    rfl

theorem atoi_of_atoiIn {array : List Byte} {n : Dword} (h : atoiIn array = some n) :
    atoi array = n := by
  rw [atoi_eq]
  exact (ends_of_atoiIn h).2.2.symm

/-- **The two models agree** where there is a decision. -/
theorem testWatchAuth_of_watchAuth {accepts : Bool}
    (h : watchAuth decrypt input st root = some accepts) :
    testWatchAuth decrypt input st root = accepts := by
  rw [watchAuth] at h
  rw [testWatchAuth]
  split at h
  · rename_i hkey
    rw [if_pos hkey]
    exact Option.some.inj h
  · rename_i hkey
    rw [if_neg hkey]
    cases htime : watchTime input st root with
    | none =>
      rw [htime] at h
      exact Option.some.inj h
    | some messageTime =>
      rw [htime] at h
      cases hauth : root.get "auth" with
      | none =>
        rw [hauth] at h
        exact Option.some.inj h
      | some auth =>
        rw [hauth] at h
        cases auth with
        | string challengeStr =>
          dsimp only at h ⊢
          split at h
          · rename_i hlength
            rw [if_pos hlength]
            exact Option.some.inj h
          · rename_i hlength
            obtain ⟨n, hn, rfl⟩ := Option.map_eq_some_iff.1 h
            rw [if_neg hlength, atoi_of_atoiIn hn]
        | _ => exact Option.some.inj h

end WatchAuth

end Services

end Lcm
