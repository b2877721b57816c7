import Mathlib.Data.List.OfFn
import Mathlib.Data.Nat.Notation

/-!
# Hexadecimal text

Two characters stand for a byte, the high half first.  A reader that gets the characters one by
one collects them in a buffer of bytes that is zero at first: it puts each character into its half
of its byte.

## Main definitions

* `digit` : the value of a character.
* `decode` : the bytes that a text stands for.
* `byteAt` : what the reader has in its buffer.

## Main results

* `update_byteAt` : what one more character changes in the buffer.
* `decode_eq_ofFn` : when the text is complete, the buffer holds the bytes it stands for.
* `digits_of_decode`, `length_of_decode` : only digits, two for a byte, stand for bytes.
-/

namespace Lcm

namespace Hex

/-- The value of a hexadecimal digit. -/
def digit (x : BitVec 8) : Option (BitVec 8) :=
  if 0x30 ≤ x ∧ x ≤ 0x39 then some (x - 0x30)
  else if 0x41 ≤ x ∧ x ≤ 0x46 then some (x - 55)
  else if 0x61 ≤ x ∧ x ≤ 0x66 then some (x - 87)
  else none

/-- All characters are digits. -/
def Digits (text : List (BitVec 8)) : Prop := ∀ x ∈ text, (digit x).isSome

instance (text : List (BitVec 8)) : Decidable (Digits text) :=
  inferInstanceAs (Decidable (∀ x ∈ text, _))

/-- The bytes that a text stands for. -/
def decode : List (BitVec 8) → Option (List (BitVec 8))
  | [] => some []
  | [_] => none
  | hi :: lo :: text => do
    let h ← digit hi
    let l ← digit lo
    let bytes ← decode text
    pure ((h <<< 4 ||| l) :: bytes)

/-- The value of the character at `k`, or zero as long as there is none. -/
def digitAt (text : List (BitVec 8)) (k : ℕ) : BitVec 8 := (text[k]?.bind digit).getD 0

/-- The byte at `j`, as far as its characters are there. -/
def byteAt (text : List (BitVec 8)) (j : ℕ) : BitVec 8 :=
  digitAt text (2 * j) <<< 4 ||| digitAt text (2 * j + 1)

theorem digits_append {text text' : List (BitVec 8)} :
    Digits (text ++ text') ↔ Digits text ∧ Digits text' := by
  simp [Digits, or_imp, forall_and]

theorem digits_cons {x : BitVec 8} {text : List (BitVec 8)} :
    Digits (x :: text) ↔ (digit x).isSome ∧ Digits text := List.forall_mem_cons

@[simp] theorem byteAt_nil (j : ℕ) : byteAt [] j = 0 := by
  simp [byteAt, digitAt]

theorem digitAt_append_of_lt {text : List (BitVec 8)} {k : ℕ} (hk : k < text.length)
    (text' : List (BitVec 8)) : digitAt (text ++ text') k = digitAt text k := by
  rw [digitAt, digitAt, List.getElem?_append_left hk]

theorem digitAt_of_le {text : List (BitVec 8)} {k : ℕ} (hk : text.length ≤ k) :
    digitAt text k = 0 := by
  rw [digitAt, List.getElem?_eq_none hk]
  rfl

@[simp] theorem digitAt_length {text : List (BitVec 8)} {x d : BitVec 8} (hx : digit x = some d) :
    digitAt (text ++ [x]) text.length = d := by
  simp [digitAt, hx]

/-- A character is put into its half of its byte. -/
theorem byteAt_append {text : List (BitVec 8)} {x d : BitVec 8} (hx : digit x = some d) (j : ℕ) :
    byteAt (text ++ [x]) j =
      if j = text.length / 2 then
        byteAt text j ||| d <<< (if text.length % 2 = 1 then 0 else 4)
      else byteAt text j := by
  have hother : ∀ k, k ≠ text.length → digitAt (text ++ [x]) k = digitAt text k := by
    intro k hk
    by_cases hlt : k < text.length
    · exact digitAt_append_of_lt hlt [x]
    · have hle : (text ++ [x]).length ≤ k := by
        rw [List.length_append, List.length_singleton]
        omega
      rw [digitAt_of_le hle, digitAt_of_le (Nat.le_of_not_lt hlt)]
  by_cases hj : j = text.length / 2
  · rw [if_pos hj, byteAt, byteAt]
    by_cases hodd : text.length % 2 = 1
    · -- the low half
      have hlow : text.length = 2 * j + 1 := by omega
      rw [if_pos hodd, hother (2 * j) (by omega), ← hlow, digitAt_length hx, digitAt_of_le le_rfl]
      simp
    · -- the high half, and no low one yet
      have hhigh : text.length = 2 * j := by omega
      rw [if_neg hodd, hother (2 * j + 1) (by omega), ← hhigh, digitAt_length hx,
        digitAt_of_le le_rfl, digitAt_of_le (Nat.le_succ _)]
      simp
  · rw [if_neg hj, byteAt, byteAt, hother (2 * j) (by omega), hother (2 * j + 1) (by omega)]

/-- The reader puts a character into its byte. -/
theorem update_byteAt {n : ℕ} {text : List (BitVec 8)} {x d : BitVec 8} (hx : digit x = some d)
    (idx : Fin n) (hidx : (idx : ℕ) = text.length / 2) :
    Function.update (fun j : Fin n => byteAt text j) idx
        (byteAt text idx ||| d <<< (if text.length % 2 = 1 then 0 else 4)) =
      fun j : Fin n => byteAt (text ++ [x]) j := by
  funext j
  rw [byteAt_append hx, Function.update_apply]
  by_cases hj : j = idx
  · subst hj
    rw [if_pos rfl, if_pos hidx]
  · rw [if_neg hj, if_neg fun h => hj (Fin.ext (h.trans hidx.symm))]

theorem byteAt_cons_cons (hi lo : BitVec 8) (text : List (BitVec 8)) (j : ℕ) :
    byteAt (hi :: lo :: text) (j + 1) = byteAt text j := rfl

/-- **The buffer of a complete text** holds the bytes it stands for. -/
theorem decode_eq_ofFn {text : List (BitVec 8)} (h : Digits text) {n : ℕ}
    (hn : text.length = 2 * n) : decode text = some (List.ofFn fun j : Fin n => byteAt text j) := by
  induction n generalizing text with
  | zero =>
    obtain rfl := List.eq_nil_of_length_eq_zero hn
    rfl
  | succ n ih =>
    match text, hn with
    | hi :: lo :: rest, hn =>
      obtain ⟨hhi, hlo, hrest⟩ : (digit hi).isSome ∧ (digit lo).isSome ∧ Digits rest := by
        simpa only [digits_cons] using h
      obtain ⟨h', hh'⟩ := Option.isSome_iff_exists.1 hhi
      obtain ⟨l', hl'⟩ := Option.isSome_iff_exists.1 hlo
      have hfirst : byteAt (hi :: lo :: rest) 0 = h' <<< 4 ||| l' := by
        simp [byteAt, digitAt, hh', hl']
      rw [decode, hh', hl', ih hrest (by simpa [Nat.mul_succ] using hn), List.ofFn_succ]
      simp only [Fin.val_zero, Fin.val_succ, byteAt_cons_cons, hfirst]
      rfl

/-! ### Texts that stand for bytes -/

theorem decode_cons_cons {hi lo : BitVec 8} {text bytes : List (BitVec 8)} :
    decode (hi :: lo :: text) = some bytes ↔ ∃ h l rest, digit hi = some h ∧ digit lo = some l ∧
      decode text = some rest ∧ bytes = (h <<< 4 ||| l) :: rest := by
  simp only [decode, Option.bind_eq_bind, Option.bind_eq_some_iff, Option.pure_def,
    Option.some.injEq]
  constructor
  · rintro ⟨h, hh, l, hl, rest, hrest, rfl⟩
    exact ⟨h, l, rest, hh, hl, hrest, rfl⟩
  · rintro ⟨h, l, rest, hh, hl, hrest, rfl⟩
    exact ⟨h, hh, l, hl, rest, hrest, rfl⟩

theorem decode_append {text text' bytes bytes' : List (BitVec 8)} (h : decode text = some bytes)
    (h' : decode text' = some bytes') : decode (text ++ text') = some (bytes ++ bytes') := by
  induction text using decode.induct generalizing bytes with
  | case1 =>
    obtain rfl : [] = bytes := Option.some.inj h
    exact h'
  | case2 => exact absurd h (by simp [decode])
  | case3 hi lo text ih =>
    obtain ⟨hb, lb, rest, hhi, hlo, hrest, rfl⟩ := decode_cons_cons.1 h
    exact decode_cons_cons.2 ⟨hb, lb, rest ++ bytes', hhi, hlo, ih hrest, rfl⟩

theorem digits_of_decode {text bytes : List (BitVec 8)} (h : decode text = some bytes) :
    Digits text := by
  induction text using decode.induct generalizing bytes with
  | case1 => exact fun _ hx => absurd hx (List.not_mem_nil)
  | case2 => exact absurd h (by simp [decode])
  | case3 hi lo text ih =>
    obtain ⟨hb, lb, rest, hhi, hlo, hrest, -⟩ := decode_cons_cons.1 h
    rw [digits_cons, digits_cons, hhi, hlo]
    exact ⟨rfl, rfl, ih hrest⟩

theorem length_of_decode {text bytes : List (BitVec 8)} (h : decode text = some bytes) :
    text.length = 2 * bytes.length := by
  induction text using decode.induct generalizing bytes with
  | case1 =>
    obtain rfl : [] = bytes := Option.some.inj h
    rfl
  | case2 => exact absurd h (by simp [decode])
  | case3 hi lo text ih =>
    obtain ⟨hb, lb, rest, -, -, hrest, rfl⟩ := decode_cons_cons.1 h
    rw [List.length_cons, List.length_cons, List.length_cons, ih hrest]
    omega

end Hex

end Lcm
