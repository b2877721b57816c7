import Lcm.Hex

/-!
# Percent-encoding

A character is kept, or it becomes a percent sign and two hexadecimal digits.  Which characters are
kept is a parameter; the percent sign is not one of them.

## Main definitions

* `encode`, `decode` : a text with escapes, and the text it stands for.
* `WellFormed` : kept characters and escapes, nothing else.

## Main results

* `decode_encode` : encoding is undone by decoding.
* `wellFormed_encode` : what encoding makes.
* `length_encode` : how long it is.
-/

namespace Lcm

namespace Percent

/-- `%` -/
def sign : BitVec 8 := 0x25

/-- A digit of a hexadecimal number, in lower case. -/
def hexDigit (d : BitVec 8) : BitVec 8 := if d < 10 then 0x30 + d else 87 + d

/-- `%02x` -/
def hexByte (c : BitVec 8) : List (BitVec 8) := [hexDigit (c >>> 4), hexDigit (c &&& 0x0F)]

variable (kept : BitVec 8 → Bool)

/-- What a character becomes. -/
def encodeByte (c : BitVec 8) : List (BitVec 8) := if kept c then [c] else sign :: hexByte c

/-- What a text becomes. -/
def encode (text : List (BitVec 8)) : List (BitVec 8) := text.flatMap (encodeByte kept)

/-- The text that is meant. -/
def decode : List (BitVec 8) → Option (List (BitVec 8))
  | [] => some []
  | c :: text =>
    if c = sign then
      match text with
      | hi :: lo :: text => do
        let h ← Hex.digit hi
        let l ← Hex.digit lo
        let bytes ← decode text
        pure ((h <<< 4 ||| l) :: bytes)
      | _ => none
    else do
      let bytes ← decode text
      pure (c :: bytes)

/-- **Kept characters and escapes**, nothing else. -/
inductive WellFormed : List (BitVec 8) → Prop
  | nil : WellFormed []
  | keep {c : BitVec 8} {text : List (BitVec 8)} (hc : kept c = true) (h : WellFormed text) :
    WellFormed (c :: text)
  | escape {hi lo : BitVec 8} {text : List (BitVec 8)} (hhi : (Hex.digit hi).isSome)
    (hlo : (Hex.digit lo).isSome) (h : WellFormed text) : WellFormed (sign :: hi :: lo :: text)

variable {kept} {text : List (BitVec 8)} {c : BitVec 8}

theorem encode_cons : encode kept (c :: text) = encodeByte kept c ++ encode kept text :=
  List.flatMap_cons

theorem digit_hexByte (c : BitVec 8) : ∃ h l, Hex.digit (hexDigit (c >>> 4)) = some h ∧
    Hex.digit (hexDigit (c &&& 0x0F)) = some l ∧ h <<< 4 ||| l = c := by
  have hall : ∀ c : BitVec 8,
      (Hex.digit (hexDigit (c >>> 4))).bind (fun h =>
        (Hex.digit (hexDigit (c &&& 0x0F))).map fun l => h <<< 4 ||| l) = some c := by
    decide +kernel
  obtain ⟨h, hh, hl⟩ := Option.bind_eq_some_iff.1 (hall c)
  obtain ⟨l, hl, hc⟩ := Option.map_eq_some_iff.1 hl
  exact ⟨h, l, hh, hl, hc⟩

theorem decode_cons_of_ne (hne : c ≠ sign) :
    decode (c :: text) = (decode text).bind fun bytes => some (c :: bytes) := by
  rw [decode.eq_def]
  exact if_neg hne

theorem decode_sign (hi lo : BitVec 8) : decode (sign :: hi :: lo :: text) =
    (Hex.digit hi).bind fun h => (Hex.digit lo).bind fun l =>
      (decode text).bind fun bytes => some ((h <<< 4 ||| l) :: bytes) := by
  rw [decode.eq_def]
  exact if_pos rfl

/-- **Encoding is undone**, if the percent sign is not kept. -/
theorem decode_encode (hsign : kept sign = false) (text : List (BitVec 8)) :
    decode (encode kept text) = some text := by
  induction text with
  | nil => rw [encode, List.flatMap_nil, decode]
  | cons c text ih =>
    rw [encode_cons, encodeByte]
    split
    · rename_i hkept
      have hne : c ≠ sign := by
        rintro rfl
        exact Bool.false_ne_true (hsign.symm.trans hkept)
      rw [List.singleton_append, decode_cons_of_ne hne, ih]
      rfl
    · obtain ⟨h, l, hh, hl, hc⟩ := digit_hexByte c
      rw [hexByte, List.cons_append, List.cons_append, List.cons_append, List.nil_append,
        decode_sign, hh, hl, ih]
      exact congrArg (fun c => some (c :: text)) hc

/-- **What encoding makes** has kept characters and escapes only. -/
theorem wellFormed_encode (text : List (BitVec 8)) : WellFormed kept (encode kept text) := by
  induction text with
  | nil => exact .nil
  | cons c text ih =>
    rw [encode_cons, encodeByte]
    split
    · rename_i hkept
      exact .keep hkept ih
    · obtain ⟨h, l, hh, hl, -⟩ := digit_hexByte c
      exact .escape (by rw [hh]; rfl) (by rw [hl]; rfl) ih

theorem length_encodeByte (c : BitVec 8) :
    (encodeByte kept c).length = if kept c then 1 else 3 := by
  rw [encodeByte]
  split <;> rfl

/-- **How long it is**: two more for each character that is not kept. -/
theorem length_encode (text : List (BitVec 8)) :
    (encode kept text).length = text.length + 2 * text.countP fun c => !kept c := by
  induction text with
  | nil => rfl
  | cons c text ih =>
    rw [encode_cons, List.length_append, ih, length_encodeByte, List.length_cons, List.countP_cons]
    cases kept c
    · rw [if_neg Bool.false_ne_true, if_pos (by rfl)]
      omega
    · rw [if_pos rfl, if_neg (by decide)]
      omega

theorem zero_notMem_encodeByte (hzero : kept 0 = false) (c : BitVec 8) :
    0 ∉ encodeByte kept c := by
  have hhex : ∀ c, (0 : BitVec 8) ∉ sign :: hexByte c := by decide +kernel
  rw [encodeByte]
  split
  · rename_i hkept
    rw [List.mem_singleton]
    rintro rfl
    exact Bool.false_ne_true (hzero.symm.trans hkept)
  · exact hhex c

theorem encodeByte_ne_nil (c : BitVec 8) : encodeByte kept c ≠ [] := by
  rw [encodeByte]
  split <;> exact List.cons_ne_nil _ _

end Percent

end Lcm
