import Lcm.Firmware.Image
import Lcm.Hex
import Lcm.Run.Logged

/-!
# Validating S-records

`ValidateS19Record` decodes a record digit by digit into a buffer and compares the checksum.  It
does not look at the two characters of the record type, and not at what follows the checksum.

## Main definitions

* `S19ASCIIToBinary`, `ValidateS19Record` : the functions of the source, with all accesses to the
  line and to the buffer.
* `IsRecord` : the grammar of a record at the beginning of a text.

## Main results

* `validateS19Record_eq_some_iff` : what is validated is what the grammar derives.
* `validateS19Record_exact` : that is what is accepted, it is decoded into the buffer, and nothing
  outside the buffer is written for any line.
-/

namespace Lcm

namespace Firmware

namespace Validation

/-- An access of the validation. -/
inductive Access
  /-- A character of the line is read. -/
  | read (i : ℕ)
  /-- A byte of `pS19Binary` is written. -/
  | write (i : ℕ)
  deriving DecidableEq

/-- The loop of `S19ASCIIToBinary`, for the next `index` characters.  `onWrite` is what a write to
`*pReturnByte` accesses. -/
def convertDigits (line : ℕ → Byte) (onWrite : Logged Access Unit) :
    ℕ → ℕ → Byte → Logged Access (Bool × Byte)
  | 0, _, returnByte => pure (true, returnByte)
  | index + 1, pS19ASCII, returnByte => do
    onWrite
    Logged.touch (.read pS19ASCII)
    match hexDigit (line pS19ASCII) with
    | some digit => do
      onWrite
      convertDigits line onWrite index (pS19ASCII + 1) ((returnByte <<< 4) + digit)
    | none => pure (false, returnByte <<< 4)

/-- `S19ASCIIToBinary`: whether the byte is valid, and `*pReturnByte`. -/
def S19ASCIIToBinary (line : ℕ → Byte) (onWrite : Logged Access Unit) (pS19ASCII : ℕ) :
    Logged Access (Bool × Byte) := do
  onWrite
  convertDigits line onWrite 2 pS19ASCII 0

/-- What `ValidateS19Record` leaves. -/
structure Outcome where
  /-- What it returns. -/
  valid : Bool
  /-- The buffer. -/
  pS19Binary : ℕ → Byte
  /-- `*pS19BinaryLength` -/
  pS19BinaryLength : Byte

/-- The loop of `ValidateS19Record`: whether the next `n` bytes are valid, the buffer, into which
they are converted from index `k` on, and the checksum. -/
def convertAll (line : ℕ → Byte) :
    ℕ → ℕ → ℕ → (ℕ → Byte) → Byte → Logged Access (Bool × (ℕ → Byte) × Byte)
  | 0, _, _, pS19Binary, checksum => pure (true, pS19Binary, checksum)
  | n + 1, pS19ASCII, k, pS19Binary, checksum => do
    let (byteValidFlag, byte) ← S19ASCIIToBinary line (Logged.touch (.write k)) pS19ASCII
    let pS19Binary := Function.update pS19Binary k byte
    if byteValidFlag then
      convertAll line n (pS19ASCII + 2) (k + 1) pS19Binary (checksum + byte)
    else pure (false, pS19Binary, checksum)

/-- `ValidateS19Record`, behind the count. -/
def validateBytes (line pS19Binary : ℕ → Byte)
    (maxSizeBinary S19ByteCount S19CalculatedChecksum : Byte) : Logged Access Outcome :=
  if S19ByteCount > maxSizeBinary then pure ⟨false, pS19Binary, S19ByteCount⟩
  else do
    let (byteValidFlag, pS19Binary, checksum) ←
      convertAll line S19ByteCount.toNat 4 0 pS19Binary S19CalculatedChecksum
    if byteValidFlag then
      let (byteValidFlag, S19RecordChecksum) ←
        S19ASCIIToBinary line (pure ()) (4 + 2 * S19ByteCount.toNat)
      pure ⟨byteValidFlag && checksum + S19RecordChecksum = 0xFF, pS19Binary, S19ByteCount⟩
    else pure ⟨false, pS19Binary, S19ByteCount⟩

/-- `ValidateS19Record`.  The count and the checksum are converted into variables of its own. -/
def ValidateS19Record (line pS19Binary : ℕ → Byte) (maxSizeBinary pS19BinaryLength : Byte) :
    Logged Access Outcome := do
  let (byteValidFlag, count) ← S19ASCIIToBinary line (pure ()) 2
  if byteValidFlag then validateBytes line pS19Binary maxSizeBinary (count - 1) count
  else pure ⟨false, pS19Binary, pS19BinaryLength⟩

/-- **A record at the beginning of a text**: two characters, pairs of digits that stand for a count,
the bytes and a checksum, and anything behind them.  The count is that of the bytes and the
checksum, which is the one's complement of the sum of the others. -/
def IsRecord (text bytes : List Byte) : Prop :=
  ∃ type digits rest count checksum, type.length = 2 ∧ text = type ++ (digits ++ rest) ∧
    Hex.decode digits = some (count :: (bytes ++ [checksum])) ∧
    count.toNat = bytes.length + 1 ∧ bytes.length ≤ 0x51 ∧
    checksum = ~~~(bytes.foldl (· + ·) count)

/-- The memory from the beginning of a text on, with a terminator behind it. -/
def memory (text : List Byte) : ℕ → Byte := fun i => text.getD i 0

/-! ### The grammar -/

variable {line pS19Binary : ℕ → Byte} {text bytes : List Byte} {maxSizeBinary : Byte}

theorem hexDigit_eq (c : Byte) : hexDigit c = Hex.digit c := by
  revert c
  decide +kernel

theorem memory_add (text : List Byte) (p i : ℕ) : memory text (p + i) = memory (text.drop p) i := by
  simp [memory, List.getD_eq_getElem?_getD, List.getElem?_drop]

theorem s19ASCIIToBinary_cons_cons (hi lo : Byte) (rest : List Byte) :
    s19ASCIIToBinary (memory (hi :: lo :: rest)) =
      (hexDigit hi).bind fun h => (hexDigit lo).bind fun l => some ((h <<< 4) + l) := rfl

/-- The value of a digit leaves the upper half of a byte free. -/
theorem shiftLeft_add_digit {c l : Byte} (hl : Hex.digit c = some l) (h : Byte) :
    (h <<< 4) + l = h <<< 4 ||| l := by
  have hlow : ∀ c : Byte, (Hex.digit c).all fun l => 0xF0#8 &&& l = 0#8 := by decide +kernel
  have hhigh : ∀ h : BitVec 8, h <<< 4 &&& 0xF0#8 = h <<< 4 := by decide +kernel
  have hl' : 0xF0#8 &&& l = 0#8 := by simpa [hl] using hlow c
  refine BitVec.add_eq_or_of_and_eq_zero _ _ ?_
  rw [← hhigh, BitVec.and_assoc, hl', BitVec.and_zero]

theorem s19ASCIIToBinary_iff {b : Byte} : s19ASCIIToBinary (memory text) = some b ↔
    ∃ hi lo rest, text = hi :: lo :: rest ∧ Hex.decode [hi, lo] = some [b] := by
  have hnul : hexDigit 0 = none := by decide
  match text with
  | [] =>
    refine iff_of_false (fun h => ?_) fun ⟨_, _, _, h, _⟩ => nomatch h
    cases (show s19ASCIIToBinary (memory []) = none from by
      rw [s19ASCIIToBinary, show memory [] 0 = 0 from rfl, hnul]; rfl).symm.trans h
  | [c] =>
    refine iff_of_false (fun h => ?_) fun ⟨_, _, _, h, _⟩ => nomatch h
    obtain ⟨_, -, h⟩ := Option.bind_eq_some_iff.1 h
    cases (show hexDigit (memory [c] 1) = none from hnul) ▸ h
  | hi :: lo :: rest =>
    rw [s19ASCIIToBinary_cons_cons, hexDigit_eq, hexDigit_eq]
    constructor
    · intro h
      obtain ⟨h', hh', h⟩ := Option.bind_eq_some_iff.1 h
      obtain ⟨l', hl', h⟩ := Option.bind_eq_some_iff.1 h
      refine ⟨hi, lo, rest, rfl, ?_⟩
      rw [shiftLeft_add_digit hl'] at h
      rw [Hex.decode, hh', hl', ← Option.some.inj h]
      rfl
    · rintro ⟨hi', lo', rest', htext, h⟩
      cases htext
      obtain ⟨h', hh', h⟩ := Option.bind_eq_some_iff.1 h
      obtain ⟨l', hl', h⟩ := Option.bind_eq_some_iff.1 h
      cases h
      rw [hh', hl', Option.bind_some, Option.bind_some, shiftLeft_add_digit hl']

theorem decode_cons_cons_iff {hi lo : Byte} {digits : List Byte} :
    Hex.decode (hi :: lo :: digits) = some bytes ↔
      ∃ b bytes', Hex.decode [hi, lo] = some [b] ∧ Hex.decode digits = some bytes' ∧
        bytes = b :: bytes' := by
  simp only [Hex.decode]
  cases Hex.digit hi <;> cases Hex.digit lo <;> cases Hex.decode digits <;>
    simp [eq_comm]

theorem decode_eq_nil_iff {digits : List Byte} : Hex.decode digits = some [] ↔ digits = [] := by
  match digits with
  | [] => simp [Hex.decode]
  | [_] => simp [Hex.decode]
  | hi :: lo :: digits =>
    refine iff_of_false (fun h => ?_) (List.cons_ne_nil _ _)
    obtain ⟨_, _, -, -, hcons⟩ := decode_cons_cons_iff.1 h
    cases hcons

/-- The digits of a first byte are two. -/
theorem decode_eq_cons_iff {b : Byte} {digits : List Byte} :
    Hex.decode digits = some (b :: bytes) ↔ ∃ hi lo digits', digits = hi :: lo :: digits' ∧
      Hex.decode [hi, lo] = some [b] ∧ Hex.decode digits' = some bytes := by
  constructor
  · intro h
    match digits, h with
    | [], h => cases h
    | [_], h => cases h
    | hi :: lo :: digits', h =>
      obtain ⟨b', bytes', hpair, hrest, hcons⟩ := decode_cons_cons_iff.1 h
      cases hcons
      exact ⟨hi, lo, digits', rfl, hpair, hrest⟩
  · rintro ⟨hi, lo, digits', rfl, hpair, hrest⟩
    exact decode_cons_cons_iff.2 ⟨b, bytes, hpair, hrest, rfl⟩

/-- **Bytes are converted as long as there are digits.** -/
theorem convertBytes_iff {n : ℕ} : convertBytes n (memory text) = some bytes ↔
    ∃ digits rest, text = digits ++ rest ∧ Hex.decode digits = some bytes ∧ bytes.length = n := by
  induction n generalizing text bytes with
  | zero =>
    constructor
    · intro h
      cases h
      exact ⟨[], text, rfl, rfl, rfl⟩
    · rintro ⟨digits, rest, -, -, hlength⟩
      obtain rfl := List.eq_nil_of_length_eq_zero hlength
      rfl
  | succ n ih =>
    have hdrop : (fun i => memory text (i + 2)) = memory (text.drop 2) := by
      funext i
      rw [Nat.add_comm, memory_add]
    rw [convertBytes, hdrop]
    constructor
    · intro h
      obtain ⟨byte, hbyte, hrest⟩ := Option.bind_eq_some_iff.1 h
      obtain ⟨bytes', hbytes, hcons⟩ := Option.bind_eq_some_iff.1 hrest
      cases hcons
      obtain ⟨hi, lo, tail, rfl, hpair⟩ := s19ASCIIToBinary_iff.1 hbyte
      obtain ⟨digits, rest, htail, hdecode, hlength⟩ := ih.1 hbytes
      refine ⟨hi :: lo :: digits, rest, ?_, ?_, by rw [List.length_cons, hlength]⟩
      · rw [List.cons_append, List.cons_append, ← htail]
        rfl
      · exact decode_cons_cons_iff.2 ⟨byte, bytes', hpair, hdecode, rfl⟩
    · rintro ⟨digits, rest, rfl, hdecode, hlength⟩
      obtain ⟨byte, bytes', rfl⟩ := List.exists_cons_of_length_eq_add_one hlength
      obtain ⟨hi, lo, digits, rfl, hpair, htail⟩ := decode_eq_cons_iff.1 hdecode
      have hbyte : s19ASCIIToBinary (memory (hi :: lo :: digits ++ rest)) = some byte :=
        s19ASCIIToBinary_iff.2 ⟨hi, lo, digits ++ rest, rfl, hpair⟩
      have hbytes : convertBytes n (memory ((hi :: lo :: digits ++ rest).drop 2)) =
          some bytes' :=
        ih.2 ⟨digits, rest, rfl, htail, Nat.succ.inj hlength⟩
      rw [hbyte, Option.bind_eq_bind, Option.bind_some, hbytes]
      rfl

theorem decode_append_iff {digits : List Byte} {bytes' : List Byte} :
    Hex.decode digits = some (bytes ++ bytes') ↔ ∃ digits₁ digits₂, digits = digits₁ ++ digits₂ ∧
      Hex.decode digits₁ = some bytes ∧ Hex.decode digits₂ = some bytes' := by
  constructor
  · intro h
    induction bytes generalizing digits with
    | nil => exact ⟨[], digits, rfl, rfl, h⟩
    | cons b bytes ih =>
      obtain ⟨hi, lo, digits, rfl, hpair, htail⟩ := decode_eq_cons_iff.1 h
      obtain ⟨digits₁, digits₂, rfl, h₁, h₂⟩ := ih htail
      exact ⟨hi :: lo :: digits₁, digits₂, rfl,
        decode_eq_cons_iff.2 ⟨hi, lo, digits₁, rfl, hpair, h₁⟩, h₂⟩
  · rintro ⟨digits₁, digits₂, rfl, h₁, h₂⟩
    induction bytes generalizing digits₁ with
    | nil =>
      obtain rfl := decode_eq_nil_iff.1 h₁
      exact h₂
    | cons b bytes ih =>
      obtain ⟨hi, lo, digits, rfl, hpair, htail⟩ := decode_eq_cons_iff.1 h₁
      exact decode_eq_cons_iff.2 ⟨hi, lo, digits ++ digits₂, rfl, hpair, ih digits htail⟩

theorem length_of_decode {digits : List Byte} (h : Hex.decode digits = some bytes) :
    digits.length = 2 * bytes.length := by
  induction bytes generalizing digits with
  | nil =>
    obtain rfl := decode_eq_nil_iff.1 h
    rfl
  | cons b bytes ih =>
    obtain ⟨hi, lo, digits, rfl, -, htail⟩ := decode_eq_cons_iff.1 h
    rw [List.length_cons, List.length_cons, List.length_cons, ih htail]
    omega

theorem digits_of_decode {digits : List Byte} (h : Hex.decode digits = some bytes) :
    Hex.Digits digits := by
  induction bytes generalizing digits with
  | nil =>
    obtain rfl := decode_eq_nil_iff.1 h
    exact fun _ hmem => nomatch hmem
  | cons b bytes ih =>
    obtain ⟨hi, lo, digits, rfl, hpair, htail⟩ := decode_eq_cons_iff.1 h
    obtain ⟨h', hh', hrest⟩ := Option.bind_eq_some_iff.1 hpair
    obtain ⟨l', hl', -⟩ := Option.bind_eq_some_iff.1 hrest
    exact Hex.digits_cons.2 ⟨by rw [hh']; rfl, Hex.digits_cons.2 ⟨by rw [hl']; rfl, ih htail⟩⟩

theorem s19ASCIIToBinary_iff_decode {b : Byte} : s19ASCIIToBinary (memory text) = some b ↔
    ∃ digits rest, text = digits ++ rest ∧ Hex.decode digits = some [b] := by
  rw [s19ASCIIToBinary_iff]
  constructor
  · rintro ⟨hi, lo, rest, rfl, h⟩
    exact ⟨[hi, lo], rest, rfl, h⟩
  · rintro ⟨digits, rest, rfl, h⟩
    match digits, h, length_of_decode h with
    | [hi, lo], h, _ => exact ⟨hi, lo, rest, rfl, h⟩

theorem checksum_iff {sum checksum : Byte} : sum + checksum = 0xFF ↔ checksum = ~~~sum := by
  bv_omega

/-- A count is accepted if it counts one byte more than the buffer has room for, or less. -/
theorem count_iff {count : Byte} {n : ℕ} :
    ¬count - 1 > (0x51 : Byte) ∧ n = (count - 1).toNat ↔ count.toNat = n + 1 ∧ n ≤ 0x51 := by
  bv_omega

/-- **What is validated is what the grammar derives.** -/
theorem validateS19Record_eq_some_iff :
    validateS19Record (memory text) 0x51 = some bytes ↔ IsRecord text bytes := by
  have hdrop : ∀ p, (fun i => memory text (p + i)) = memory (text.drop p) := fun p =>
    funext fun i => memory_add text p i
  simp only [validateS19Record, hdrop]
  constructor
  · intro h
    obtain ⟨count, hcount, hrest⟩ := Option.bind_eq_some_iff.1 h
    split_ifs at hrest with hlong
    obtain ⟨bytes', hbytes, hrest⟩ := Option.bind_eq_some_iff.1 hrest
    obtain ⟨checksum, hchecksum, hrest⟩ := Option.bind_eq_some_iff.1 hrest
    split_ifs at hrest with hsum
    cases hrest
    obtain ⟨digits₁, rest₁, h₁, hdigits₁⟩ := s19ASCIIToBinary_iff_decode.1 hcount
    obtain ⟨digits₂, rest₂, h₂, hdigits₂, hlength⟩ := convertBytes_iff.1 hbytes
    obtain ⟨digits₃, rest₃, h₃, hdigits₃⟩ := s19ASCIIToBinary_iff_decode.1 hchecksum
    obtain ⟨hcount', hle⟩ := count_iff.1 ⟨hlong, hlength⟩
    -- each part is behind the one before it
    have hlength₁ : digits₁.length = 2 := length_of_decode hdigits₁
    have hlength₂ := length_of_decode hdigits₂
    have hrest₁ : rest₁ = digits₂ ++ rest₂ := by
      rw [← h₂, show 4 = 2 + digits₁.length by omega, ← List.drop_drop, h₁, List.drop_left]
    have hrest₂ : rest₂ = digits₃ ++ rest₃ := by
      rw [← h₃, ← hlength, ← hlength₂, ← List.drop_drop, h₂, List.drop_left]
    refine ⟨text.take 2, digits₁ ++ (digits₂ ++ digits₃), rest₃, count, checksum, ?_, ?_, ?_,
      hcount', hle, checksum_iff.1 hsum⟩
    · have hsplit := congrArg List.length h₁
      rw [List.length_drop, List.length_append] at hsplit
      rw [List.length_take]
      omega
    · rw [List.append_assoc, List.append_assoc, ← hrest₂, ← hrest₁, ← h₁, List.take_append_drop]
    · exact (@decode_append_iff [count] _ _).2 ⟨_, _, rfl, hdigits₁,
        decode_append_iff.2 ⟨_, _, rfl, hdigits₂, hdigits₃⟩⟩
  · rintro ⟨type, digits, rest, count, checksum, htype, rfl, hdecode, hcount, hle, rfl⟩
    obtain ⟨digits₁, digits', rfl, hdigits₁, hdigits'⟩ :=
      (@decode_append_iff [count] _ _).1 hdecode
    obtain ⟨digits₂, digits₃, rfl, hdigits₂, hdigits₃⟩ := decode_append_iff.1 hdigits'
    obtain ⟨hlong, hn⟩ := count_iff.2 ⟨hcount, hle⟩
    have hlength₁ : digits₁.length = 2 := length_of_decode hdigits₁
    have hlength₂ := length_of_decode hdigits₂
    have h₁ : (type ++ (digits₁ ++ (digits₂ ++ digits₃) ++ rest)).drop 2 =
        digits₁ ++ (digits₂ ++ (digits₃ ++ rest)) := by
      rw [← htype, List.drop_left, List.append_assoc, List.append_assoc]
    have h₂ : (type ++ (digits₁ ++ (digits₂ ++ digits₃) ++ rest)).drop 4 =
        digits₂ ++ (digits₃ ++ rest) := by
      rw [show 4 = 2 + digits₁.length by omega, ← List.drop_drop, h₁, List.drop_left]
    have h₃ : (type ++ (digits₁ ++ (digits₂ ++ digits₃) ++ rest)).drop (4 + 2 * bytes.length) =
        digits₃ ++ rest := by
      rw [← hlength₂, ← List.drop_drop, h₂, List.drop_left]
    rw [s19ASCIIToBinary_iff_decode.2 ⟨_, _, h₁, hdigits₁⟩, Option.bind_eq_bind, Option.bind_some,
      if_neg hlong, ← hn, convertBytes_iff.2 ⟨_, _, h₂, hdigits₂, rfl⟩, Option.bind_eq_bind,
      Option.bind_some, s19ASCIIToBinary_iff_decode.2 ⟨_, _, h₃, hdigits₃⟩, Option.bind_some,
      if_pos (checksum_iff.2 rfl)]

/-- In a line of two characters or more, a record ends before the line does. -/
theorem isRecord_line_iff {line after : List Byte} (hline : 2 ≤ line.length) :
    IsRecord (line ++ 0x0A :: after) bytes ↔ IsRecord line bytes := by
  constructor
  · rintro ⟨type, digits, rest, count, checksum, htype, htext, hdecode, hrest⟩
    have hdrop : line.drop 2 ++ 0x0A :: after = digits ++ rest := by
      rw [← List.drop_append_of_le_length hline, htext, ← htype, List.drop_left]
    have htake : line.take 2 = type := by
      rw [← List.take_append_of_le_length hline, htext, ← htype, List.take_left]
    have hinside : ∃ rest', line.drop 2 = digits ++ rest' := by
      rcases List.append_eq_append_iff.1 hdrop with ⟨e, hdigits, he⟩ | ⟨rest', hinside, -⟩
      · cases e with
        | nil => exact ⟨[], by rw [hdigits, List.append_nil, List.append_nil]⟩
        | cons c e =>
          -- the end of the line is not a digit
          cases he
          have hmem : (0x0A : Byte) ∈ digits := by
            rw [hdigits]
            exact List.mem_append_right _ List.mem_cons_self
          exact absurd (digits_of_decode hdecode _ hmem) (by decide)
      · exact ⟨rest', hinside⟩
    obtain ⟨rest', hinside⟩ := hinside
    refine ⟨type, digits, rest', count, checksum, htype, ?_, hdecode, hrest⟩
    rw [← hinside, ← htake, List.take_append_drop]
  · rintro ⟨type, digits, rest, count, checksum, htype, rfl, hrest⟩
    refine ⟨type, digits, rest ++ 0x0A :: after, count, checksum, htype, ?_, hrest⟩
    rw [List.append_assoc, List.append_assoc]

/-! ### The accesses -/

/-- What the accesses may be: reads up to the first character behind the record type that is not a
digit, writes inside the buffer. -/
def Access.Inside (line : ℕ → Byte) (sizeofBinary : ℕ) : Access → Prop
  | .read i => ∀ j, 2 ≤ j → j < i → (hexDigit (line j)).isSome
  | .write i => i < sizeofBinary

/-- All characters from the third one up to a place are digits. -/
def DigitsBefore (line : ℕ → Byte) (p : ℕ) : Prop := ∀ j, 2 ≤ j → j < p → (hexDigit (line j)).isSome

theorem DigitsBefore.succ {p : ℕ} {d : Byte} (h : DigitsBefore line p)
    (hd : hexDigit (line p) = some d) : DigitsBefore line (p + 1) := by
  intro j hj hlt
  by_cases heq : j = p
  · rw [heq, hd]
    rfl
  · exact h j hj (by omega)

/-- **A byte is converted** as `s19ASCIIToBinary` says, and the digits before what is read stay
digits. -/
theorem S19ASCIIToBinary_spec {onWrite : Logged Access Unit} {p size : ℕ}
    (hbefore : DigitsBefore line p) (hwrite : onWrite.All (Access.Inside line size)) :
    (S19ASCIIToBinary line onWrite p).All (Access.Inside line size) ∧
      (match s19ASCIIToBinary fun i => line (p + i) with
        | some b => (S19ASCIIToBinary line onWrite p).value = (true, b) ∧ DigitsBefore line (p + 2)
        | none => (S19ASCIIToBinary line onWrite p).value.1 = false) := by
  have hread : Access.Inside line size (.read p) := hbefore
  cases hhigh : hexDigit (line p) with
  | none => simp_all [S19ASCIIToBinary, convertDigits, s19ASCIIToBinary]
  | some h =>
    have hread' : Access.Inside line size (.read (p + 1)) := hbefore.succ hhigh
    cases hlow : hexDigit (line (p + 1)) with
    | none => simp_all [S19ASCIIToBinary, convertDigits, s19ASCIIToBinary]
    | some l =>
      have hafter : DigitsBefore line (p + 2) := (hbefore.succ hhigh).succ hlow
      simp_all [S19ASCIIToBinary, convertDigits, s19ASCIIToBinary]

/-- A memory into which bytes are put from an index on. -/
def place (bytes : List Byte) (k : ℕ) (b : ℕ → Byte) : ℕ → Byte := fun i =>
  if k ≤ i then bytes.getD (i - k) (b i) else b i

theorem place_cons (byte : Byte) (bytes : List Byte) (k : ℕ) (b : ℕ → Byte) :
    place (byte :: bytes) k b = place bytes (k + 1) (Function.update b k byte) := by
  funext i
  unfold place
  rcases Nat.lt_trichotomy i k with hlt | rfl | hlt
  · rw [if_neg (by omega), if_neg (by omega), Function.update_of_ne (by omega)]
  · rw [if_pos (by omega), if_neg (by omega), Nat.sub_self, Function.update_self]
    rfl
  · rw [if_pos (by omega), if_pos (by omega), Function.update_of_ne (by omega),
      show i - k = i - (k + 1) + 1 by omega]
    rfl

/-- **The bytes are converted** as `convertBytes` says, into as many places of the buffer. -/
theorem convertAll_spec {n p k size : ℕ} {b : ℕ → Byte} (checksum : Byte)
    (hbefore : DigitsBefore line p) (hsize : k + n ≤ size) :
    (convertAll line n p k b checksum).All (Access.Inside line size) ∧
      (match convertBytes n fun i => line (p + i) with
        | some bytes =>
          (convertAll line n p k b checksum).value =
              (true, place bytes k b, bytes.foldl (· + ·) checksum) ∧
            DigitsBefore line (p + 2 * n)
        | none => (convertAll line n p k b checksum).value.1 = false) := by
  induction n generalizing p k b checksum with
  | zero =>
    refine ⟨Logged.all_pure _, ?_, hbefore⟩
    have hnone : place [] k b = b := by
      funext i
      simp [place]
    rw [List.foldl_nil, hnone]
    rfl
  | succ n ih =>
    have hwrite : (Logged.touch (Access.write k)).All (Access.Inside line size) :=
      (Logged.all_touch _).2 (show k < size by omega)
    obtain ⟨haccess, hbyte⟩ := S19ASCIIToBinary_spec hbefore hwrite
    have hshift : (fun i => line (p + (i + 2))) = fun i => line (p + 2 + i) := by
      funext i
      rw [Nat.add_right_comm, Nat.add_assoc]
    cases hconvert : s19ASCIIToBinary fun i => line (p + i) with
    | none =>
      rw [hconvert] at hbyte
      refine ⟨?_, ?_⟩
      · simp [convertAll, haccess, hbyte]
      · rw [convertBytes, hconvert]
        simp [convertAll, hbyte]
    | some byte =>
      rw [hconvert] at hbyte
      obtain ⟨hvalue, hafter⟩ := hbyte
      obtain ⟨hrest, hbytes⟩ := ih (p := p + 2) (k := k + 1)
        (b := Function.update b k byte) (checksum + byte) hafter (by omega)
      refine ⟨?_, ?_⟩
      · simp [convertAll, haccess, hvalue, hrest]
      · rw [convertBytes, hconvert, Option.bind_eq_bind, Option.bind_some, hshift]
        cases htail : convertBytes n fun i => line (p + 2 + i) with
        | none =>
          rw [htail] at hbytes
          simp [convertAll, hvalue, hbytes]
        | some bytes =>
          rw [htail] at hbytes
          obtain ⟨hvalue', hdigits⟩ := hbytes
          rw [show p + 2 * (n + 1) = p + 2 + 2 * n by omega]
          refine ⟨?_, hdigits⟩
          rw [place_cons, List.foldl_cons, ← hvalue']
          simp [convertAll, hvalue]

theorem validateBytes_spec {S19ByteCount : Byte} (b : ℕ → Byte) (checksum : Byte)
    (hbefore : DigitsBefore line 4) (hsize : ¬S19ByteCount > maxSizeBinary) :
    (validateBytes line b maxSizeBinary S19ByteCount checksum).All
        (Access.Inside line maxSizeBinary.toNat) ∧
      (match
          (convertBytes S19ByteCount.toNat fun i => line (4 + i)).bind fun bytes =>
            (s19ASCIIToBinary fun i => line (4 + 2 * S19ByteCount.toNat + i)).bind
              fun S19RecordChecksum =>
                if bytes.foldl (· + ·) checksum + S19RecordChecksum = 0xFF then some bytes
                else none with
        | some bytes => (validateBytes line b maxSizeBinary S19ByteCount checksum).value =
            ⟨true, recordBuffer bytes b, S19ByteCount⟩
        | none =>
          (validateBytes line b maxSizeBinary S19ByteCount checksum).value.valid = false) := by
  have hroom : 0 + S19ByteCount.toNat ≤ maxSizeBinary.toNat := by
    rw [Nat.zero_add]
    exact Nat.le_of_not_lt hsize
  have hlocal : (pure () : Logged Access Unit).All (Access.Inside line maxSizeBinary.toNat) :=
    Logged.all_pure _
  obtain ⟨haccess, hbytes⟩ := convertAll_spec (b := b) checksum hbefore hroom
  cases hconvert : convertBytes S19ByteCount.toNat fun i => line (4 + i) with
  | none =>
    rw [hconvert] at hbytes
    refine ⟨?_, ?_⟩
    · simp [validateBytes, hsize, haccess, hbytes]
    · simp [validateBytes, hsize, hbytes]
  | some bytes =>
    rw [hconvert] at hbytes
    obtain ⟨hvalue, hdigits⟩ := hbytes
    obtain ⟨haccess', hchecksum⟩ := S19ASCIIToBinary_spec hdigits hlocal
    have hbuffer : place bytes 0 b = recordBuffer bytes b := by
      funext i
      rw [place, if_pos (Nat.zero_le i), Nat.sub_zero, recordBuffer]
    rw [Option.bind_some]
    refine ⟨?_, ?_⟩
    · simp [validateBytes, hsize, haccess, hvalue, haccess']
    · cases hlast : s19ASCIIToBinary fun i => line (4 + 2 * S19ByteCount.toNat + i) with
      | none =>
        rw [hlast] at hchecksum
        simp [validateBytes, hsize, hvalue, hchecksum]
      | some S19RecordChecksum =>
        rw [hlast] at hchecksum
        rw [Option.bind_some]
        by_cases hsum : bytes.foldl (· + ·) checksum + S19RecordChecksum = 0xFF
        · rw [if_pos hsum]
          simp [validateBytes, hsize, hvalue, hchecksum.1, hbuffer]
          exact hsum
        · rw [if_neg hsum]
          simp [validateBytes, hsize, hvalue, hchecksum.1]
          exact hsum

/-- **A record is validated** as `validateS19Record` says, and its bytes are in the buffer.  Nothing
outside of that is written. -/
theorem ValidateS19Record_spec (line pS19Binary : ℕ → Byte)
    (maxSizeBinary pS19BinaryLength : Byte) :
    (ValidateS19Record line pS19Binary maxSizeBinary pS19BinaryLength).All
        (Access.Inside line maxSizeBinary.toNat) ∧
      (match validateS19Record line maxSizeBinary with
        | some bytes =>
          (ValidateS19Record line pS19Binary maxSizeBinary pS19BinaryLength).value =
            ⟨true, recordBuffer bytes pS19Binary, BitVec.ofNat 8 bytes.length⟩
        | none =>
          (ValidateS19Record line pS19Binary maxSizeBinary pS19BinaryLength).value.valid =
            false) := by
  have hlocal : (pure () : Logged Access Unit).All (Access.Inside line maxSizeBinary.toNat) :=
    Logged.all_pure _
  have hstart : DigitsBefore line 2 := fun j hj hlt => absurd hlt (Nat.not_lt.2 hj)
  obtain ⟨haccess, hcount⟩ := S19ASCIIToBinary_spec hstart hlocal
  rw [validateS19Record]
  cases hconvert : s19ASCIIToBinary fun i => line (2 + i) with
  | none =>
    rw [hconvert] at hcount
    exact ⟨by simp [ValidateS19Record, haccess, hcount], by simp [ValidateS19Record, hcount]⟩
  | some count =>
    rw [hconvert] at hcount
    obtain ⟨hvalue, hdigits⟩ := hcount
    rw [Option.bind_eq_bind, Option.bind_some]
    -- what is behind the count is what counts from here on
    have hbehind : ValidateS19Record line pS19Binary maxSizeBinary pS19BinaryLength =
        S19ASCIIToBinary line (pure ()) 2 >>= fun _ =>
          validateBytes line pS19Binary maxSizeBinary (count - 1) count := by
      refine Logged.ext ?_ ?_
      · simp only [ValidateS19Record, Logged.value_bind, hvalue, if_true]
      · simp only [ValidateS19Record, Logged.log_bind, hvalue, if_true]
    rw [hbehind, Logged.all_bind, Logged.value_bind]
    by_cases hlong : count - 1 > maxSizeBinary
    · rw [validateBytes, if_pos hlong, if_pos hlong]
      exact ⟨⟨haccess, Logged.all_pure _⟩, rfl⟩
    · obtain ⟨haccess', hvalid⟩ :=
        validateBytes_spec pS19Binary count hdigits hlong
      rw [if_neg hlong]
      refine ⟨⟨haccess, haccess'⟩, ?_⟩
      cases hrest : (convertBytes (count - 1).toNat fun i => line (4 + i)).bind fun bytes =>
          (s19ASCIIToBinary fun i => line (4 + 2 * (count - 1).toNat + i)).bind
            fun S19RecordChecksum =>
              if bytes.foldl (· + ·) count + S19RecordChecksum = 0xFF then some bytes
              else none with
      | none =>
        rw [hrest] at hvalid
        simp only [Option.bind_eq_bind, hrest]
        exact hvalid
      | some bytes =>
        rw [hrest] at hvalid
        obtain ⟨bytes', hbytes, hlast⟩ := Option.bind_eq_some_iff.1 hrest
        obtain ⟨_, -, hsum⟩ := Option.bind_eq_some_iff.1 hlast
        split_ifs at hsum
        have hlength : bytes.length = (count - 1).toNat :=
          Option.some.inj hsum ▸ convertBytes_length hbytes
        simp only [Option.bind_eq_bind, hrest]
        rw [hlength, BitVec.ofNat_toNat, BitVec.setWidth_eq]
        exact hvalid

/-- **S-records are decoded exactly**: whatever the text is, what is accepted is what begins with a
record, and then the bytes of the record are in the buffer, which is not left behind its end in any
case.  In a line of two characters or more the record ends before the line does. -/
theorem validateS19Record_exact (text : List Byte) (S19RecordBytes : ℕ → Byte)
    (S19RecordLength : Byte) :
    ((ValidateS19Record (memory text) S19RecordBytes 0x51 S19RecordLength).value.valid = true ↔
        ∃ bytes, IsRecord text bytes) ∧
      (∀ bytes, IsRecord text bytes →
        (ValidateS19Record (memory text) S19RecordBytes 0x51 S19RecordLength).value =
          ⟨true, recordBuffer bytes S19RecordBytes, BitVec.ofNat 8 bytes.length⟩ ∧
        bytes.length ≤ 0x51) ∧
      (∀ i, .write i ∈
          (ValidateS19Record (memory text) S19RecordBytes 0x51 S19RecordLength).log → i < 0x51) ∧
      (∀ line after bytes, text = line ++ 0x0A :: after → 2 ≤ line.length →
        (IsRecord text bytes ↔ IsRecord line bytes)) := by
  obtain ⟨haccess, hvalue⟩ :=
    ValidateS19Record_spec (memory text) S19RecordBytes 0x51 S19RecordLength
  refine ⟨?_, ?_, fun i hi => haccess _ hi, ?_⟩
  · cases hrecord : validateS19Record (memory text) 0x51 with
    | none =>
      rw [hrecord] at hvalue
      refine iff_of_false (Bool.eq_false_iff.1 hvalue) ?_
      rintro ⟨bytes, hbytes⟩
      cases hrecord.symm.trans (validateS19Record_eq_some_iff.2 hbytes)
    | some bytes =>
      rw [hrecord] at hvalue
      exact iff_of_true (by rw [hvalue]) ⟨bytes, validateS19Record_eq_some_iff.1 hrecord⟩
  · intro bytes hbytes
    rw [validateS19Record_eq_some_iff.2 hbytes] at hvalue
    obtain ⟨_, _, _, _, _, -, -, -, -, hle, -⟩ := hbytes
    exact ⟨hvalue, hle⟩
  · rintro line after bytes rfl hline
    exact isRecord_line_iff hline

/-- `S9030000FC0`: a digit too many. -/
def oddLine : List Byte := [0x53, 0x39, 0x30, 0x33, 0x30, 0x30, 0x30, 0x30, 0x46, 0x43, 0x30]

/-- A record that is all of a line. -/
def IsWholeRecord (line bytes : List Byte) : Prop :=
  ∃ type digits count checksum, type.length = 2 ∧ line = type ++ digits ∧
    Hex.decode digits = some (count :: (bytes ++ [checksum])) ∧
    count.toNat = bytes.length + 1 ∧ bytes.length ≤ 0x51 ∧
    checksum = ~~~(bytes.foldl (· + ·) count)

/-- What follows the checksum is not looked at. -/
theorem validateS19Record_oddLine :
    (ValidateS19Record (memory (oddLine ++ [0x0A])) (fun _ => 0) 0x51 0).value.valid = true ∧
      ¬∃ bytes, IsWholeRecord oddLine bytes := by
  refine ⟨by decide, ?_⟩
  rintro ⟨bytes, type, digits, count, checksum, htype, hline, hdecode, -⟩
  have hlength := congrArg List.length hline
  rw [List.length_append, htype, length_of_decode hdecode] at hlength
  -- nine digits are not pairs
  have hodd : oddLine.length = 11 := rfl
  omega

end Validation

end Firmware

end Lcm
