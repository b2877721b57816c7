import Lcm.Fbk.Write

/-!
# Bank writes: splicing and power failure

A write that `FBK_WriteFlash` accepts replaces a range of the data and makes the new bank the one
that `FBK_Init` selects, and an interruption leaves the old data or the new data.  But the range
is checked against the size of the bank and not of its data, with a sum that wraps, and the return
codes of the flash driver are not looked at.

## Main definitions

* `WritesSplice` : a write that fits replaces its range exactly; one that does not is refused.
* `AtomicWrite` : a reset finds the old or the new data, and an error is reported.

## Main results

* `fbkWriteFlash_splice_iff` : when a write splices.
* `fbkWriteFlash_atomic_iff` : when a write is atomic.
-/

namespace Lcm

namespace Fbk

open Flash

/-! ### Specification -/

/-- The data of the active bank. -/
def contents (m : Memory) (ctx : Context) (i : ℕ) : Byte := m (fbkAddress ctx i)

/-- The data with `len` bytes from `dst` on replaced. -/
def spliced (m : Memory) (ctx : Context) (source : Source) (dst len : Dword) (i : ℕ) : Byte :=
  if dst.toNat ≤ i ∧ i < dst.toNat + len.toNat then source m (i - dst.toNat) else contents m ctx i

/-- The range is inside of the data. -/
def Fits (dst len : Dword) : Prop := dst.toNat + len.toNat ≤ dataSize

instance (dst len : Dword) : Decidable (Fits dst len) := inferInstanceAs (Decidable (_ ≤ _))

/-- What a write is to do. -/
structure WritesSplice (f₀ : Device) (ctx : Context) (source : Source) (dst len : Dword)
    (out : Outcome Device (Dword × Context)) : Prop where
  /-- A write that fits and reports success replaces the range, and nothing else, in the data. -/
  data : Fits dst len → out.value.1 = 0 → ∀ i < dataSize,
    contents out.state.memory out.value.2 i = spliced f₀.memory ctx source dst len i
  /-- It makes the bank it has written the one that is selected. -/
  selects : Fits dst len → out.value.1 = 0 →
    fbkInit out.state.memory out.value.2 = ctx.activate (!ctx.activeBank)
  /-- A write that does not fit is refused and changes nothing. -/
  refuses : ¬ Fits dst len → out.value.1 ≠ 0 ∧ out.value.2 = ctx ∧ out.state = f₀

/-- The bank that `FBK_Init` selects has the old data or the new data. -/
def OldOrNew (f₀ : Device) (ctx : Context) (source : Source) (dst len : Dword) (m : Memory) :
    Prop :=
  (∀ i < dataSize, contents m (fbkInit m ctx) i = contents f₀.memory ctx i) ∨
    ∀ i < dataSize, contents m (fbkInit m ctx) i = spliced f₀.memory ctx source dst len i

/-- What a write does when it is interrupted or a command fails. -/
structure AtomicWrite (hw : Hardware) (f₀ : Device) (ctx : Context) (source : Source)
    (dst len : Dword) (out : Outcome Device (Dword × Context)) : Prop where
  /-- A reset at any time finds the old data or the new data. -/
  reset : ∀ f ∈ f₀ :: out.visited, OldOrNew f₀ ctx source dst len f.memory
  /-- When a command fails, the active bank keeps its data and the failure is reported. -/
  error : (∃ k, f₀.commands ≤ k ∧ k < out.state.commands ∧ hw.returnCode k ≠ FTFx_OK) →
    (∀ i < dataSize, contents out.state.memory out.value.2 i = contents f₀.memory ctx i) ∧
      out.value.1 ≠ 0

variable {hw : Hardware} {f₀ : Device} {ctx : Context} {source : Source} {dst len : Dword}
  {m : Memory}

/-! ### What is written -/

theorem image_of_lt {i : ℕ} (hi : i < dataSize) :
    image m ctx source dst len i = copied m ctx source dst len i := by
  rw [image, if_neg (by omega), if_neg (by omega), if_neg (by omega), if_neg (by omega)]

/-- The data of the image of a write that does not wrap is the spliced data. -/
theorem image_data (hwrap : dst.toNat + len.toNat < 2 ^ 32) {i : ℕ} (hi : i < dataSize) :
    image m ctx source dst len i = spliced m ctx source dst len i := by
  have hsum : (dst + len).toNat = dst.toNat + len.toNat := by
    rw [BitVec.toNat_add, Nat.mod_eq_of_lt hwrap]
  rw [image_of_lt hi, copied, hsum]
  rfl

/-- The data of the image of a write whose end wraps is the old data. -/
theorem image_data_of_wrap (hwrap : 2 ^ 32 ≤ dst.toNat + len.toNat) {i : ℕ} (hi : i < dataSize) :
    image m ctx source dst len i = contents m ctx i := by
  have hsum := BitVec.toNat_add dst len
  have hdst := dst.isLt
  have hlen := len.isLt
  rw [image_of_lt hi, copied, if_neg (by omega)]
  rfl

theorem contents_written {k : ℕ} (hk : k ≤ 512) (i : ℕ) (hi : i < dataSize) :
    contents (written f₀ ctx source dst len k).memory (ctx.activate ctx.activeBank) i =
      contents f₀.memory ctx i :=
  Context.agree_other (written_agree hk) (Nat.lt_of_lt_of_le hi (by decide))

theorem contents_written_all (i : ℕ) (hi : i < dataSize) :
    contents (written f₀ ctx source dst len 512).memory (ctx.activate (!ctx.activeBank)) i =
      image f₀.memory ctx source dst len i := by
  have hi : i < 4088 := hi
  refine (written_memory 512 (show i < 4096 by omega)).trans ?_
  rw [if_pos (by omega)]

/-- A bank whose information is erased is not valid. -/
theorem not_valid_of_erased {a : ℕ} (h : ∀ p, dataSize ≤ p → p < FBK_BANK_SIZE →
    m (a + p) = erased) : ¬ Valid m a := by
  have hinfo : ∀ j < 4, m (a + dataSize + j) = erased := by
    intro j hj
    rw [Nat.add_assoc]
    exact h _ (Nat.le_add_right ..) (show 4088 + j < 4096 by omega)
  rw [Valid, series, checkWord, hinfo 1 (by decide), hinfo 2 (by decide), hinfo 3 (by decide)]
  rw [show m (a + dataSize) = erased from hinfo 0 (by decide)]
  decide

/-- The bank that was written follows the one it was copied from. -/
theorem series_written :
    series (written f₀ ctx source dst len 512).memory (newBlock ctx) =
        series f₀.memory (ctx.bankInfo ctx.activeBank) + 1 ∧
      Valid (written f₀ ctx source dst len 512).memory (newBlock ctx) := by
  have hinfo : ∀ j < 4, (written f₀ ctx source dst len 512).memory (newBlock ctx + dataSize + j) =
      image f₀.memory ctx source dst len (dataSize + j) := by
    intro j hj
    have hinside : dataSize + j < FBK_BANK_SIZE := show 4088 + j < 4096 by omega
    rw [Nat.add_assoc, written_memory 512 hinside, if_pos hinside]
  have hseries : series (written f₀ ctx source dst len 512).memory (newBlock ctx) =
      series f₀.memory (ctx.bankInfo ctx.activeBank) + 1 := by
    rw [series, hinfo 1 (by decide)]
    rw [show (written f₀ ctx source dst len 512).memory (newBlock ctx + dataSize) = _ from
      hinfo 0 (by decide)]
    exact wordOfBytes_high_low _
  have hcheck : checkWord (written f₀ ctx source dst len 512).memory (newBlock ctx) =
      (series f₀.memory (ctx.bankInfo ctx.activeBank) + 1) ^^^ 0xFFFF := by
    rw [checkWord, hinfo 3 (by decide), hinfo 2 (by decide)]
    exact wordOfBytes_high_low _
  refine ⟨hseries, ?_⟩
  rw [Valid, hseries, hcheck, BitVec.xor_comm 0xFFFF, BitVec.xor_assoc, BitVec.xor_comm 0xFFFF,
    BitVec.xor_assoc, BitVec.xor_self, BitVec.xor_zero, BitVec.xor_self]
  rfl

/-- **A complete write is found by `FBK_Init`**, whatever the bank was that it was copied from. -/
theorem fbkInit_written_all :
    fbkInit (written f₀ ctx source dst len 512).memory ctx = ctx.activate (!ctx.activeBank) := by
  obtain ⟨hnew, hvalid⟩ := @series_written f₀ ctx source dst len
  have hold : series (written f₀ ctx source dst len 512).memory (ctx.bankInfo ctx.activeBank) =
      series f₀.memory (ctx.bankInfo ctx.activeBank) :=
    series_congr fun i hi => Context.agree_other (written_agree (Nat.le_refl _)) hi
  have hseries : ∀ b, ctx.activeBank = b →
      series (written f₀ ctx source dst len 512).memory (ctx.bankInfo (!b)) =
        series (written f₀ ctx source dst len 512).memory (ctx.bankInfo b) + 1 := by
    rintro _ rfl
    rw [hold]
    exact hnew
  rw [fbkInit_of_valid hvalid]
  congr 1
  split_ifs
  · -- the series number of the new bank is one more, modulo `2 ^ 16`, than the old one
    cases hb : ctx.activeBank
    · refine decide_eq_true ?_
      rw [show ctx.bankInfo true = ctx.bankInfo (!false) from rfl, hseries false hb]
      bv_omega
    · refine decide_eq_false ?_
      rw [show ctx.bankInfo false = ctx.bankInfo (!true) from rfl, hseries true hb]
      bv_omega
  · rfl

/-- **Which bank `FBK_Init` selects when a write was interrupted**: the old one until all phrases
are programmed, and then the new one, whatever the series numbers are. -/
theorem fbkInit_written (hvalid : Valid f₀.memory (ctx.bankInfo ctx.activeBank)) {k : ℕ}
    (hk : k ≤ 512) : fbkInit (written f₀ ctx source dst len k).memory ctx =
      if k = 512 then ctx.activate (!ctx.activeBank) else ctx.activate ctx.activeBank := by
  by_cases hlast : k = 512
  · rw [if_pos hlast, hlast]
    exact fbkInit_written_all
  · have hold : ∀ i < FBK_BANK_SIZE,
        (written f₀ ctx source dst len k).memory (ctx.bankInfo ctx.activeBank + i) =
          f₀.memory (ctx.bankInfo ctx.activeBank + i) :=
      fun i hi => Context.agree_other (written_agree hk) hi
    have hnew : ¬Valid (written f₀ ctx source dst len k).memory
        (ctx.bankInfo (!ctx.activeBank)) := by
      refine not_valid_of_erased fun p hp hp' => ?_
      have hp : 4088 ≤ p := hp
      rw [written_memory k hp', if_neg (by omega)]
    rw [if_neg hlast, fbkInit_of_valid ((valid_congr hold).2 hvalid), if_neg hnew]

/-! ### Writes without errors -/

theorem fbkWriteFlash_of_refused (hrefuse : FBK_BANK_SIZE ≤ (dst + len).toNat) :
    fbkWriteFlash hw ctx source dst len f₀ = ⟨(-1, ctx), f₀, []⟩ := by
  rw [fbkWriteFlash, if_pos hrefuse]
  rfl

/-- An accepted write reports success and swaps the banks, whatever the driver returns. -/
theorem fbkWriteFlash_value (haccept : (dst + len).toNat < FBK_BANK_SIZE) :
    (fbkWriteFlash hw ctx source dst len f₀).value = (0, ctx.activate (!ctx.activeBank)) := by
  rw [fbkWriteFlash, if_neg (Nat.not_le.2 haccept)]
  rfl

/-- **A write in which no command fails**: what it leaves, and what an interruption leaves. -/
theorem fbkWriteFlash_ok (hsource : SourceOutside f₀.memory ctx source len)
    (haccept : (dst + len).toNat < FBK_BANK_SIZE) (hok : hw.Ok f₀.commands 513) :
    (fbkWriteFlash hw ctx source dst len f₀).state = written f₀ ctx source dst len 512 ∧
      ∀ f ∈ (fbkWriteFlash hw ctx source dst len f₀).visited,
        ∃ k ≤ 512, f = written f₀ ctx source dst len k := by
  have hhandles : Handles hw f₀ ctx source dst len (fun _ _ => False)
      fun f => ∃ k ≤ 512, f = written f₀ ctx source dst len k :=
    { erase := fun hfails => hfails (hok 0 (by decide))
      phrase := fun k hk hfails => hfails (by rw [Nat.add_assoc]; exact hok (1 + k) (by omega))
      keep := fun _ _ _ _ h => h.elim
      written := fun k hk => ⟨k, hk, rfl⟩
      error := fun _ _ h => h.elim }
  obtain ⟨⟨-, hstate⟩, hvisited⟩ := fbkWriteFlash_spec hhandles hsource haccept f₀ rfl
  exact ⟨(hstate.resolve_right id).2, hvisited⟩

/-! ### Splicing -/

/-- What a failing command leaves at its worst: the opposite of the data that was to be written,
and a series number that is not valid. -/
def worstDamage (f₀ : Device) (ctx : Context) (source : Source) (dst len : Dword) : Memory :=
  fun a => if a < newBlock ctx + dataSize then ~~~image f₀.memory ctx source dst len (a - newBlock ctx)
    else 0

/-- Some data in the first blocks is wrong. -/
def WrongData (f₀ : Device) (ctx : Context) (source : Source) (dst len : Dword) (b : ℕ)
    (m : Memory) : Prop :=
  ∃ p, p < dataSize ∧ p < FBK_BLOCK_SIZE * b ∧
    m (newBlock ctx + p) ≠ image f₀.memory ctx source dst len p

/-- The series number and its check word are zero. -/
def NoInfo (ctx : Context) (m : Memory) : Prop :=
  ∀ p, dataSize ≤ p → p < FBK_BANK_SIZE → m (newBlock ctx + p) = 0

/-- After block `b`, the old bank is as before, and the new one has wrong data in one of its first
blocks or no series number. -/
def Corrupt (f₀ : Device) (ctx : Context) (source : Source) (dst len : Dword) (b : ℕ) (f : Device) :
    Prop :=
  AgreeOutside (newBlock ctx) FBK_BANK_SIZE f₀.memory f.memory ∧
    (WrongData f₀ ctx source dst len b f.memory ∨ NoInfo ctx f.memory)

theorem not_eq_complement (b : Byte) : ~~~b ≠ b := by
  revert b
  decide

/-- A block is inside of the bank. -/
theorem agree_block {m₀ m m' : Memory} {b : ℕ} (hb : b < 32)
    (h : AgreeOutside (newBlock ctx) FBK_BANK_SIZE m₀ m)
    (h' : AgreeOutside (newBlock ctx + FBK_BLOCK_SIZE * b) FBK_BLOCK_SIZE m m') :
    AgreeOutside (newBlock ctx) FBK_BANK_SIZE m₀ m' := by
  refine h.trans (h'.mono ⟨Nat.le_add_right .., ?_⟩)
  show newBlock ctx + 128 * b + 128 ≤ newBlock ctx + 4096
  omega

/-- Later blocks are programmed behind the wrong byte. -/
theorem WrongData.next {m m' : Memory} {b : ℕ} (h : WrongData f₀ ctx source dst len b m)
    (hagree : AgreeOutside (newBlock ctx + FBK_BLOCK_SIZE * b) FBK_BLOCK_SIZE m m') :
    WrongData f₀ ctx source dst len (b + 1) m' := by
  obtain ⟨p, hp, hpb, hne⟩ := h
  refine ⟨p, hp, Nat.lt_of_lt_of_le hpb (Nat.mul_le_mul_left _ (Nat.le_succ b)), ?_⟩
  rw [hagree _ (by omega)]
  exact hne

/-- Programming sets no bits, and a failing command leaves zeros. -/
theorem noInfo_programPhrase (returnCode : ℕ → Dword) (destination size : ℕ) (buffer : Source) :
    Program.Triple (fun f => NoInfo ctx f.memory)
      (flashProgramPhrase ⟨returnCode, fun _ => worstDamage f₀ ctx source dst len⟩ destination size
        buffer) (fun _ f => NoInfo ctx f.memory) fun f => NoInfo ctx f.memory := by
  refine flashProgramPhrase_invariant _ _ _ _ (fun f a bytes _ _ hf p hp hp' => ?_)
    fun f a _ _ hf p hp hp' => ?_
  · simp only [program, hf p hp hp']
    split
    · exact BitVec.zero_and
    · rfl
  · simp only [Device.damaged, overwrite]
    split
    · exact if_neg (by omega)
    · exact hf p hp hp'

theorem corrupt_handles (returnCode : ℕ → Dword) :
    Handles ⟨returnCode, fun _ => worstDamage f₀ ctx source dst len⟩ f₀ ctx source dst len
      (Corrupt f₀ ctx source dst len) fun _ => True where
  erase _ := by
    refine ⟨AgreeOutside.overwrite _ _, .inr fun p hp hp' => ?_⟩
    refine (overwrite_inside ⟨by omega, Nat.add_lt_add_left hp' _⟩).trans (if_neg ?_)
    omega
  phrase k hk _ := by
    refine ⟨(written_agree (Nat.le_of_lt hk)).trans ((AgreeOutside.overwrite _ _).mono
      ⟨by omega, show newBlock ctx + 8 * k + 8 ≤ newBlock ctx + 4096 by omega⟩), ?_⟩
    by_cases hlast : k = 511
    · -- the phrase with the series number
      subst hlast
      refine .inr fun p hp hp' => ?_
      have hp : 4088 ≤ p := hp
      have hp' : p < 4096 := hp'
      refine (overwrite_inside ⟨by omega, by omega⟩).trans (if_neg ?_)
      show ¬ newBlock ctx + p < newBlock ctx + 4088
      omega
    · refine .inl ⟨8 * k, show 8 * k < 4088 by omega, show 8 * k < 128 * (k / 16 + 1) by omega, ?_⟩
      have hdamage : ((written f₀ ctx source dst len k).damaged
          ⟨returnCode, fun _ => worstDamage f₀ ctx source dst len⟩ (newBlock ctx + 8 * k) 8).memory
            (newBlock ctx + 8 * k) = ~~~image f₀.memory ctx source dst len (8 * k) := by
        refine (overwrite_inside ⟨by omega, by omega⟩).trans ((if_pos ?_).trans ?_)
        · show newBlock ctx + 8 * k < newBlock ctx + 4088
          omega
        · rw [Nat.add_sub_cancel_left]
      rw [hdamage]
      exact not_eq_complement _
  keep b hb buffer := by
    rintro f ⟨hagree, hwrong⟩
    obtain ⟨hblock, -⟩ := flashProgramPhrase_agree
      ⟨returnCode, fun _ => worstDamage f₀ ctx source dst len⟩ f.memory
      (newBlock ctx + FBK_BLOCK_SIZE * b) FBK_BLOCK_SIZE buffer ⟨Nat.le_refl _, Nat.le_refl _⟩ f
      (.refl _)
    refine ⟨⟨agree_block hb hagree hblock, ?_⟩, fun _ _ => trivial⟩
    rcases hwrong with hdata | hinfo
    · exact .inl (hdata.next hblock)
    · exact .inr (noInfo_programPhrase returnCode _ _ buffer f hinfo).1
  written _ _ := trivial
  error _ _ _ := trivial

/-- A corrupt bank has wrong data, or is not selected. -/
theorem Corrupt.not_writesSplice (hvalid : Valid f₀.memory (ctx.bankInfo ctx.activeBank))
    (hfits : Fits dst len) {out : Outcome Device (Dword × Context)}
    (hvalue : out.value = (0, ctx.activate (!ctx.activeBank)))
    (h : Corrupt f₀ ctx source dst len 32 out.state) :
    ¬ WritesSplice f₀ ctx source dst len out := by
  intro hsplice
  have hzero : out.value.1 = 0 := by rw [hvalue]
  obtain ⟨hagree, ⟨p, hp, -, hne⟩ | hinfo⟩ := h
  · refine hne ?_
    have hdata := hsplice.data hfits hzero p hp
    rw [hvalue] at hdata
    have hwrap : dst.toNat + len.toNat < 2 ^ 32 :=
      Nat.lt_of_le_of_lt hfits (by decide)
    exact hdata.trans (image_data hwrap hp).symm
  · have hselects := hsplice.selects hfits hzero
    have hold : ∀ i < FBK_BANK_SIZE, out.state.memory (ctx.bankInfo ctx.activeBank + i) =
        f₀.memory (ctx.bankInfo ctx.activeBank + i) := fun i hi => Context.agree_other hagree hi
    have hnew : ¬ Valid out.state.memory (ctx.bankInfo (!ctx.activeBank)) := by
      have hbytes : ∀ j < 4, out.state.memory (newBlock ctx + dataSize + j) = 0 := by
        intro j hj
        rw [Nat.add_assoc]
        exact hinfo _ (Nat.le_add_right ..) (show 4088 + j < 4096 by omega)
      rw [Valid, series, checkWord, hbytes 1 (by decide), hbytes 2 (by decide),
        hbytes 3 (by decide)]
      rw [show out.state.memory (newBlock ctx + dataSize) = 0 from hbytes 0 (by decide)]
      decide
    rw [hvalue, fbkInit_activate, fbkInit_of_valid ((valid_congr hold).2 hvalid),
      if_neg hnew] at hselects
    have hbank := congrArg Context.activeBank hselects
    exact absurd hbank (by simp)

/-- **A bank write is an exact splice** exactly when it is refused, or its range is inside of the
data, without wrapping, and none of its commands fails. -/
theorem fbkWriteFlash_splice_iff (f₀ : Device) (ctx : Context) (source : Source) (dst len : Dword)
    (returnCode : ℕ → Dword) (hvalid : Valid f₀.memory (ctx.bankInfo ctx.activeBank))
    (hsource : SourceOutside f₀.memory ctx source len) :
    (∀ damage, WritesSplice f₀ ctx source dst len
      (fbkWriteFlash ⟨returnCode, damage⟩ ctx source dst len f₀)) ↔
    FBK_BANK_SIZE ≤ (dst + len).toNat ∨
      Fits dst len ∧ ∀ k < 513, returnCode (f₀.commands + k) = FTFx_OK := by
  by_cases hrefuse : FBK_BANK_SIZE ≤ (dst + len).toNat
  · refine iff_of_true (fun damage => ?_) (.inl hrefuse)
    have hfits : ¬ Fits dst len := by
      intro hfits
      have hfits : dst.toNat + len.toNat ≤ 4088 := hfits
      have hrefuse : 4096 ≤ (dst + len).toNat := hrefuse
      have hsum := BitVec.toNat_add dst len
      omega
    rw [fbkWriteFlash_of_refused hrefuse]
    exact ⟨fun h => absurd h hfits, fun h => absurd h hfits, fun _ =>
      ⟨(by decide : (-1 : Dword) ≠ 0), rfl, rfl⟩⟩
  · have haccept := Nat.not_le.1 hrefuse
    refine ⟨fun h => .inr ?_, fun h damage => ?_⟩
    · have hfits : Fits dst len := by
        by_contra hno
        have hzero := ((h fun _ _ => 0).refuses hno).1
        rw [fbkWriteFlash_value haccept] at hzero
        exact hzero rfl
      refine ⟨hfits, ?_⟩
      by_contra hno
      obtain ⟨⟨-, hstate⟩, -⟩ := fbkWriteFlash_spec (corrupt_handles returnCode)
        hsource haccept f₀ rfl
      have hcorrupt := hstate.resolve_left fun hgood => hno hgood.1
      exact hcorrupt.not_writesSplice hvalid hfits (fbkWriteFlash_value haccept) (h _)
    · obtain ⟨hfits, hok⟩ := h.resolve_left hrefuse
      have hok : Hardware.Ok ⟨returnCode, damage⟩ f₀.commands 513 := hok
      obtain ⟨hstate, -⟩ := fbkWriteFlash_ok hsource haccept hok
      have hwrap : dst.toNat + len.toNat < 2 ^ 32 := Nat.lt_of_le_of_lt hfits (by decide)
      refine ⟨fun _ _ i hi => ?_, fun _ _ => ?_, fun hno => absurd hfits hno⟩
      · rw [hstate, fbkWriteFlash_value haccept, contents_written_all i hi, image_data hwrap hi]
      · rw [hstate, fbkWriteFlash_value haccept]
        exact (fbkInit_written hvalid (Nat.le_refl _)).trans (if_pos rfl)

/-- The two banks of the cloud data, with the first one active. -/
def exampleContext : Context where
  activeBank := false
  bankInfo b := if b then 0xdc000 else 0xdb000
  aligned := by decide
  inFlash := by decide
  distinct := by decide

/-- A flash in which the first bank is valid, with series number zero and zero data. -/
def exampleDevice : Device := ⟨fun a => if a = 0xdbffa ∨ a = 0xdbffb then 0xFF else 0, 0⟩

theorem exampleDevice_current : fbkInit exampleDevice.memory exampleContext = exampleContext := by
  rw [fbkInit_of_valid (b := false) (by decide), if_neg (by decide)]
  rfl

/-- A write that ends with the data. -/
theorem fbkWriteFlash_splice_exampleEnd :
    WritesSplice exampleDevice exampleContext (ramSource [1, 2, 3]) 4085 3
      (fbkWriteFlash ⟨fun _ => FTFx_OK, fun _ _ => 0⟩ exampleContext (ramSource [1, 2, 3]) 4085 3
        exampleDevice) :=
  (fbkWriteFlash_splice_iff exampleDevice exampleContext (ramSource [1, 2, 3]) 4085 3
    (fun _ => FTFx_OK) (by decide) fun _ _ _ _ => rfl).2 (.inr ⟨by decide, fun _ _ => rfl⟩) _

/-- One byte behind the data is accepted. -/
theorem not_writesSplice_of_bankInfo :
    ¬ ∀ (f₀ : Device) (ctx : Context) (source : Source) (dst len : Dword) (hw : Hardware),
      Valid f₀.memory (ctx.bankInfo ctx.activeBank) → SourceOutside f₀.memory ctx source len →
        WritesSplice f₀ ctx source dst len (fbkWriteFlash hw ctx source dst len f₀) := by
  intro h
  have hrefuses := (h exampleDevice exampleContext (ramSource [1]) 4090 1
    ⟨fun _ => FTFx_OK, fun _ _ => 0⟩ (by decide) fun _ _ _ _ => rfl).refuses (by decide)
  rw [fbkWriteFlash_value (by decide)] at hrefuses
  exact hrefuses.1 rfl

/-! ### Atomicity -/

/-- The active bank is the one that `FBK_Init` selects, or the other one has the old data or the
new data already. -/
def StartsCurrent (f₀ : Device) (ctx : Context) (source : Source) (dst len : Dword) : Prop :=
  fbkInit f₀.memory ctx = ctx ∨
    (∀ i < dataSize, f₀.memory (newBlock ctx + i) = contents f₀.memory ctx i) ∨
    ∀ i < dataSize, f₀.memory (newBlock ctx + i) = spliced f₀.memory ctx source dst len i

/-- A reset before the write finds the old or the new data exactly when it starts current. -/
theorem oldOrNew_start_iff :
    OldOrNew f₀ ctx source dst len f₀.memory ↔ StartsCurrent f₀ ctx source dst len := by
  by_cases hcurrent : fbkInit f₀.memory ctx = ctx
  · refine iff_of_true (.inl fun i _ => ?_) (.inl hcurrent)
    rw [hcurrent]
  · have hother : fbkInit f₀.memory ctx = ctx.activate (!ctx.activeBank) := by
      obtain ⟨b, hb⟩ := fbkInit_eq_activate f₀.memory ctx
      rw [hb] at hcurrent ⊢
      have hne : b ≠ ctx.activeBank := fun hsame => hcurrent (by rw [hsame]; rfl)
      rw [Bool.eq_not.2 hne]
    rw [OldOrNew, hother, StartsCurrent, or_iff_right hcurrent]
    rfl

theorem oldOrNew_written (hvalid : Valid f₀.memory (ctx.bankInfo ctx.activeBank)) {k : ℕ}
    (hk : k ≤ 512) :
    OldOrNew f₀ ctx source dst len (written f₀ ctx source dst len k).memory := by
  rw [OldOrNew, fbkInit_written hvalid hk]
  split
  · rename_i hlast
    subst hlast
    rcases Nat.lt_or_ge (dst.toNat + len.toNat) (2 ^ 32) with hwrap | hwrap
    · exact .inr fun i hi => (contents_written_all i hi).trans (image_data hwrap hi)
    · exact .inl fun i hi => (contents_written_all i hi).trans (image_data_of_wrap hwrap hi)
  · exact .inl fun i hi => contents_written hk i hi

/-- A write in which a command fails reports success all the same. -/
theorem AtomicWrite.ok (hsource : SourceOutside f₀.memory ctx source len)
    (haccept : (dst + len).toNat < FBK_BANK_SIZE)
    (h : AtomicWrite hw f₀ ctx source dst len (fbkWriteFlash hw ctx source dst len f₀)) :
    hw.Ok f₀.commands 513 := by
  have hhandles : Handles hw f₀ ctx source dst len
      (fun _ f => ∃ k, f₀.commands ≤ k ∧ k < f.commands ∧ hw.returnCode k ≠ FTFx_OK)
      fun _ => True :=
    { erase := fun hfails => ⟨f₀.commands, Nat.le_refl _, Nat.lt_succ_self _, hfails⟩
      phrase := fun k _ hfails =>
        ⟨f₀.commands + 1 + k, by omega, Nat.lt_succ_self _, hfails⟩
      keep := fun b _ buffer =>
        (flashProgramPhrase_invariant hw _ _ buffer
          (fun f _ _ _ _ ⟨k, hk, hlt, hfails⟩ => ⟨k, hk, Nat.lt_succ_of_lt hlt, hfails⟩)
          fun f _ _ _ ⟨k, hk, hlt, hfails⟩ => ⟨k, hk, Nat.lt_succ_of_lt hlt, hfails⟩).conseq
          (fun _ h => h) (fun _ _ h => h) fun _ _ => trivial
      written := fun _ _ => trivial
      error := fun _ _ _ => trivial }
  obtain ⟨⟨-, hgood | hfailed⟩, -⟩ := fbkWriteFlash_spec hhandles hsource haccept f₀ rfl
  · exact hgood.1
  · refine absurd ?_ (h.error hfailed).2
    rw [fbkWriteFlash_value haccept]

/-- **Power failure**: for every series number, an accepted write is atomic exactly when none of
its commands fails and it starts from the bank that `FBK_Init` selects. -/
theorem fbkWriteFlash_atomic_iff (hw : Hardware) (f₀ : Device) (ctx : Context) (source : Source)
    (dst len : Dword) (hvalid : Valid f₀.memory (ctx.bankInfo ctx.activeBank))
    (hsource : SourceOutside f₀.memory ctx source len)
    (haccept : (dst + len).toNat < FBK_BANK_SIZE) :
    AtomicWrite hw f₀ ctx source dst len (fbkWriteFlash hw ctx source dst len f₀) ↔
      hw.Ok f₀.commands 513 ∧ StartsCurrent f₀ ctx source dst len := by
  constructor
  · intro h
    exact ⟨h.ok hsource haccept, oldOrNew_start_iff.1 (h.reset f₀ List.mem_cons_self)⟩
  · rintro ⟨hok, hstart⟩
    obtain ⟨hstate, hvisited⟩ := fbkWriteFlash_ok hsource haccept hok
    refine ⟨fun f hf => ?_, ?_⟩
    · rcases List.mem_cons.1 hf with rfl | hf
      · exact oldOrNew_start_iff.2 hstart
      · obtain ⟨k, hk, rfl⟩ := hvisited f hf
        exact oldOrNew_written hvalid hk
    · rintro ⟨k, hk, hlt, hfails⟩
      have hcommands : (written f₀ ctx source dst len 512).commands = f₀.commands + 513 :=
        Nat.add_assoc ..
      rw [hstate, hcommands] at hlt
      refine absurd ?_ hfails
      have hk' := hok (k - f₀.commands) (by omega)
      rwa [Nat.add_sub_cancel' hk] at hk'

/-- A write after `FBK_Init` in which no command fails. -/
theorem fbkWriteFlash_atomic_exampleStart :
    AtomicWrite ⟨fun _ => FTFx_OK, fun _ _ => 0⟩ exampleDevice exampleContext (ramSource [1]) 0 1
      (fbkWriteFlash ⟨fun _ => FTFx_OK, fun _ _ => 0⟩ exampleContext (ramSource [1]) 0 1
        exampleDevice) := by
  exact (fbkWriteFlash_atomic_iff ⟨fun _ => FTFx_OK, fun _ _ => 0⟩ exampleDevice exampleContext
    (ramSource [1]) 0 1 (by decide) (fun _ _ _ _ => rfl) (by decide)).2
    ⟨fun _ _ => rfl, .inl exampleDevice_current⟩

/-- The sector cannot be erased, and the write reports success. -/
theorem not_atomicWrite_of_eraseError :
    ¬ ∀ (hw : Hardware) (f₀ : Device) (ctx : Context) (source : Source) (dst len : Dword),
      Valid f₀.memory (ctx.bankInfo ctx.activeBank) → SourceOutside f₀.memory ctx source len →
        fbkInit f₀.memory ctx = ctx → (dst + len).toNat < FBK_BANK_SIZE →
          AtomicWrite hw f₀ ctx source dst len (fbkWriteFlash hw ctx source dst len f₀) := by
  intro h
  have hatomic := h ⟨fun _ => FTFx_ERR_RANGE, fun _ _ => 0⟩ exampleDevice exampleContext
    (ramSource [1]) 0 1 (by decide) (fun _ _ _ _ => rfl) exampleDevice_current (by decide)
  have hok := hatomic.ok (fun _ _ _ _ => rfl) (by decide) 0 (by decide)
  exact absurd hok (by decide)

/-- `FBK_Init` leaves a context with which a write starts current. -/
theorem fbkInit_startsCurrent : StartsCurrent f₀ (fbkInit f₀.memory ctx) source dst len := by
  refine .inl ?_
  obtain ⟨b, hb⟩ := fbkInit_eq_activate f₀.memory ctx
  rw [hb, fbkInit_activate, hb]

/-- So does a write in which no command fails. -/
theorem fbkWriteFlash_startsCurrent (hvalid : Valid f₀.memory (ctx.bankInfo ctx.activeBank))
    (hsource : SourceOutside f₀.memory ctx source len)
    (haccept : (dst + len).toNat < FBK_BANK_SIZE) (hok : hw.Ok f₀.commands 513)
    {source' : Source} {dst' len' : Dword} :
    let out := fbkWriteFlash hw ctx source dst len f₀
    StartsCurrent out.state out.value.2 source' dst' len' := by
  intro out
  refine .inl ?_
  simp only [out]
  rw [fbkWriteFlash_value haccept, (fbkWriteFlash_ok hsource haccept hok).1]
  exact (fbkInit_written hvalid (Nat.le_refl _)).trans (if_pos rfl)

end Fbk

end Lcm
