import Lcm.Flash.Driver

/-!
# Flash banks

The FBK functions keep data in two alternating banks of flash.  A write copies the active bank to
the other one, with a range replaced, and ends that bank with a new series number and its check
word; `FBK_Init` selects the bank that is valid and newer.

## Main definitions

* `Context` : a pair of banks, and which one is active.
* `fbkInit`, `fbkWriteFlash`, `fbkAddress` : the functions of the source.
-/

namespace Lcm

namespace Fbk

open Flash

/-- `FBK_BANK_SIZE` -/
abbrev FBK_BANK_SIZE : ℕ := 4096

/-- `FBK_INFO_SIZE` -/
abbrev FBK_INFO_SIZE : ℕ := 8

/-- `FBK_BLOCK_SIZE` -/
abbrev FBK_BLOCK_SIZE : ℕ := 128

/-- The size of the member `data` of `FBK_Bank_Info`. -/
abbrev dataSize : ℕ := FBK_BANK_SIZE - FBK_INFO_SIZE

/-- `FBK_Context` : two different sectors of flash. -/
structure Context where
  /-- `active_bank`, zero or one -/
  activeBank : Bool
  /-- The addresses of `bank_info`. -/
  bankInfo : Bool → ℕ
  /-- A bank is a sector. -/
  aligned : ∀ b, bankInfo b % FBK_BANK_SIZE = 0
  /-- A bank is in flash. -/
  inFlash : ∀ b, bankInfo b + FBK_BANK_SIZE ≤ PBLOCK_SIZE
  /-- The banks are not the same. -/
  distinct : bankInfo false ≠ bankInfo true

/-- The context with another active bank. -/
def Context.activate (ctx : Context) (b : Bool) : Context := { ctx with activeBank := b }

/-- `series` of the bank at `a` -/
def series (m : Memory) (a : ℕ) : Word := wordOfBytes (m (a + dataSize + 1)) (m (a + dataSize))

/-- `check_word` of the bank at `a` -/
def checkWord (m : Memory) (a : ℕ) : Word :=
  wordOfBytes (m (a + dataSize + 3)) (m (a + dataSize + 2))

/-- The check word fits the series number. -/
def Valid (m : Memory) (a : ℕ) : Prop := 0xFFFF ^^^ series m a ^^^ checkWord m a = 0

instance (m : Memory) : DecidablePred (Valid m) := fun _ => inferInstanceAs (Decidable (_ = _))

/-- `FBK_Init` -/
def fbkInit (m : Memory) (ctx : Context) : Context :=
  match [false, true].find? fun x => ¬ Valid m (ctx.bankInfo x) with
  | some x => ctx.activate (!x)
  | none =>
    if series m (ctx.bankInfo true) - series m (ctx.bankInfo false) = 1 then ctx.activate true
    else ctx.activate false

/-- `FBK_Address` -/
def fbkAddress (ctx : Context) (offset : ℕ) : ℕ := ctx.bankInfo ctx.activeBank + offset

/-! ### Writing -/

/-- The variables of the loop that fills `buffer`. -/
structure Copy where
  /-- The offset of `src` from where it started. -/
  src : ℕ
  /-- `old_block` -/
  oldBlock : ℕ
  /-- `buffer`, as far as it is filled -/
  buffer : List Byte

/-- The body of the loop that fills `buffer`. -/
def copyByte (m : Memory) (source : Source) (dst len : Dword) (x : ℕ) (c : Copy) (blockIdx : ℕ) :
    Copy :=
  if x + blockIdx ≥ dst.toNat ∧ x + blockIdx < (dst + len).toNat then
    { src := c.src + 1, oldBlock := c.oldBlock + 1, buffer := c.buffer ++ [source m c.src] }
  else { c with oldBlock := c.oldBlock + 1, buffer := c.buffer ++ [m c.oldBlock] }

/-- Overwrite the end of the buffer with the fields of `FBK_Bank_Info`, following those of the
bank at `a`. -/
def putBankInfo (m : Memory) (a : ℕ) (buffer : List Byte) : List Byte :=
  let infoPtr := FBK_BLOCK_SIZE - FBK_INFO_SIZE
  let series := series m a + 1
  let checkWord := series ^^^ 0xFFFF
  (((buffer.set infoPtr (lowByteOfWord series)).set (infoPtr + 1) (highByteOfWord series)).set
    (infoPtr + 2) (lowByteOfWord checkWord)).set (infoPtr + 3) (highByteOfWord checkWord)

/-- The variables of the outer loop. -/
structure Progress where
  /-- `x` -/
  x : ℕ
  /-- The offset of `src` from where it started. -/
  src : ℕ
  /-- `old_block` -/
  oldBlock : ℕ
  /-- `new_block` -/
  newBlock : ℕ

/-- The body of the outer loop. -/
def writeBlock (hw : Hardware) (ctx : Context) (source : Source) (dst len : Dword)
    (p : Progress) : Program Device Progress := do
  let f ← Program.get
  let c := (List.range FBK_BLOCK_SIZE).foldl (copyByte f.memory source dst len p.x)
    ⟨p.src, p.oldBlock, []⟩
  let x := p.x + FBK_BLOCK_SIZE
  let buffer :=
    if x = FBK_BANK_SIZE then putBankInfo f.memory (ctx.bankInfo ctx.activeBank) c.buffer
    else c.buffer
  let _ ← flashProgramPhrase hw p.newBlock FBK_BLOCK_SIZE (ramSource buffer)
  pure ⟨x, c.src, c.oldBlock, p.newBlock + FBK_BLOCK_SIZE⟩

/-- `FBK_WriteFlash`: what it returns, and the context afterwards. -/
def fbkWriteFlash (hw : Hardware) (ctx : Context) (source : Source) (dst len : Dword) :
    Program Device (Dword × Context) :=
  if (dst + len).toNat ≥ FBK_BANK_SIZE then pure (-1, ctx)
  else do
    let oldBlock := ctx.bankInfo ctx.activeBank
    let newBlock := ctx.bankInfo (!ctx.activeBank)
    let _ ← flashEraseSector hw newBlock FBK_BANK_SIZE
    let _ ← Program.iterate (writeBlock hw ctx source dst len) (FBK_BANK_SIZE / FBK_BLOCK_SIZE)
      ⟨0, 0, oldBlock, newBlock⟩
    pure (0, ctx.activate (!ctx.activeBank))

/-! ### Lemmas -/

variable {ctx : Context} {m m' : Memory}

@[simp] theorem Context.activate_activeBank (ctx : Context) (b : Bool) :
    (ctx.activate b).activeBank = b := rfl

@[simp] theorem Context.activate_bankInfo (ctx : Context) (b : Bool) :
    (ctx.activate b).bankInfo = ctx.bankInfo := rfl

/-- The two banks do not overlap. -/
theorem Context.disjoint (ctx : Context) (b : Bool) :
    ctx.bankInfo b + FBK_BANK_SIZE ≤ ctx.bankInfo (!b) ∨
      ctx.bankInfo (!b) + FBK_BANK_SIZE ≤ ctx.bankInfo b := by
  have hfalse : ctx.bankInfo false % 4096 = 0 := ctx.aligned false
  have htrue : ctx.bankInfo true % 4096 = 0 := ctx.aligned true
  have hne := ctx.distinct
  show ctx.bankInfo b + 4096 ≤ ctx.bankInfo (!b) ∨ ctx.bankInfo (!b) + 4096 ≤ ctx.bankInfo b
  cases b <;> simp only [Bool.not_false, Bool.not_true] <;> omega

/-- What is written to one bank does not change the other one. -/
theorem Context.agree_other {b : Bool}
    (h : AgreeOutside (ctx.bankInfo (!b)) FBK_BANK_SIZE m m') {i : ℕ} (hi : i < FBK_BANK_SIZE) :
    m' (ctx.bankInfo b + i) = m (ctx.bankInfo b + i) := by
  refine h _ ?_
  have := ctx.disjoint b
  omega

theorem series_congr {a : ℕ} (h : ∀ i < FBK_BANK_SIZE, m' (a + i) = m (a + i)) :
    series m' a = series m a := by
  rw [series, series, Nat.add_assoc, h _ (by decide), h _ (by decide)]

theorem valid_congr {a : ℕ} (h : ∀ i < FBK_BANK_SIZE, m' (a + i) = m (a + i)) :
    Valid m' a ↔ Valid m a := by
  rw [Valid, Valid, series_congr h, checkWord, checkWord, Nat.add_assoc, Nat.add_assoc,
    h _ (by decide), h _ (by decide)]

theorem fbkInit_eq_activate (m : Memory) (ctx : Context) : ∃ b, fbkInit m ctx = ctx.activate b := by
  unfold fbkInit
  split
  · exact ⟨_, rfl⟩
  · split
    · exact ⟨_, rfl⟩
    · exact ⟨_, rfl⟩

/-- `FBK_Init` does not look at the bank that was active before. -/
@[simp] theorem fbkInit_activate (m : Memory) (ctx : Context) (b : Bool) :
    fbkInit m (ctx.activate b) = fbkInit m ctx := rfl

/-- **Which bank `FBK_Init` selects**, told from the point of view of a valid one. -/
theorem fbkInit_of_valid {b : Bool} (h : Valid m (ctx.bankInfo b)) :
    fbkInit m ctx = ctx.activate
      (if Valid m (ctx.bankInfo (!b)) then
        decide (series m (ctx.bankInfo true) - series m (ctx.bankInfo false) = 1) else b) := by
  unfold fbkInit
  cases b
  · by_cases ht : Valid m (ctx.bankInfo true)
    · simp only [List.find?, h, ht, not_true_eq_false, decide_false, Bool.not_false, if_true]
      split <;> simp_all
    · simp [List.find?, h, ht]
  · by_cases hf : Valid m (ctx.bankInfo false)
    · simp only [List.find?, h, hf, not_true_eq_false, decide_false, Bool.not_true, if_true]
      split <;> simp_all
    · simp [List.find?, hf]

end Fbk

end Lcm
