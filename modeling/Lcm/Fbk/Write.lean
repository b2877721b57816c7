import Lcm.Fbk.Banks
import Mathlib.Data.List.Basic

/-!
# Writing a flash bank

`FBK_WriteFlash` erases the inactive bank and programs it phrase by phrase with an image of the
active bank in which a range is replaced.  The last phrase holds the series number, so that the
bank becomes valid with it.

## Main definitions

* `image` : the bytes that are written to the new bank.
* `written` : the flash after some phrases are programmed.
* `Handles` : what is known of the flash when a command fails, and when the write is interrupted.

## Main results

* `fbkWriteFlash_spec` : the flash after a write, and wherever it is interrupted.
-/

namespace Lcm

namespace Fbk

open Flash

/-! ### The image -/

/-- The byte that the loop puts at position `p` of the bank. -/
def copied (m : Memory) (ctx : Context) (source : Source) (dst len : Dword) (p : ℕ) : Byte :=
  if dst.toNat ≤ p ∧ p < (dst + len).toNat then source m (p - dst.toNat)
  else m (ctx.bankInfo ctx.activeBank + p)

/-- The byte that is written at position `p` of the bank. -/
def image (m : Memory) (ctx : Context) (source : Source) (dst len : Dword) (p : ℕ) : Byte :=
  let series := series m (ctx.bankInfo ctx.activeBank) + 1
  if p = dataSize then lowByteOfWord series
  else if p = dataSize + 1 then highByteOfWord series
  else if p = dataSize + 2 then lowByteOfWord (series ^^^ 0xFFFF)
  else if p = dataSize + 3 then highByteOfWord (series ^^^ 0xFFFF)
  else copied m ctx source dst len p

variable {m : Memory} {ctx : Context} {source : Source} {dst len : Dword}

/-- The number of bytes taken from `src` before position `p`. -/
def taken (dst len : Dword) (p : ℕ) : ℕ := min p (dst + len).toNat - dst.toNat

/-- **Filling the buffer**: the two pointers keep pace with the position. -/
theorem foldl_copyByte (x n : ℕ) :
    (List.range n).foldl (copyByte m source dst len x)
        ⟨taken dst len x, ctx.bankInfo ctx.activeBank + x, []⟩ =
      ⟨taken dst len (x + n), ctx.bankInfo ctx.activeBank + (x + n),
        (List.range n).map fun i => copied m ctx source dst len (x + i)⟩ := by
  induction n with
  | zero => rfl
  | succ n ih =>
    rw [List.range_succ, List.foldl_append, ih, List.foldl_cons, List.foldl_nil, copyByte]
    split
    · rename_i hin
      have hsrc : taken dst len (x + n) = x + n - dst.toNat := by unfold taken; omega
      have hbyte : source m (taken dst len (x + n)) = copied m ctx source dst len (x + n) := by
        rw [hsrc, copied, if_pos hin]
      have hnext : taken dst len (x + n) + 1 = taken dst len (x + (n + 1)) := by
        unfold taken; omega
      simp only [List.map_append, List.map_cons, List.map_nil, hbyte, hnext, Nat.add_assoc]
    · rename_i hout
      have hbyte : m (ctx.bankInfo ctx.activeBank + (x + n)) =
          copied m ctx source dst len (x + n) := (if_neg hout).symm
      have hnext : taken dst len (x + n) = taken dst len (x + (n + 1)) := by unfold taken; omega
      simp only [List.map_append, List.map_cons, List.map_nil, hbyte, hnext, Nat.add_assoc]

theorem getD_map_range {f : ℕ → Byte} {n i : ℕ} (hi : i < n) :
    ((List.range n).map f).getD i 0 = f i := by
  simp [hi]

theorem getD_set {bytes : List Byte} {i j : ℕ} (b : Byte) (hj : j < bytes.length) :
    (bytes.set j b).getD i 0 = if i = j then b else bytes.getD i 0 := by
  by_cases hij : i = j
  · subst hij; simp [hj]
  · simp [hij, Ne.symm hij]

/-- The buffer of a block is that part of the image. -/
theorem buffer_eq_image {b : ℕ} (hb : b < 32) {i : ℕ} (hi : i < FBK_BLOCK_SIZE) :
    let buffer := (List.range FBK_BLOCK_SIZE).map fun i =>
      copied m ctx source dst len (FBK_BLOCK_SIZE * b + i)
    (if FBK_BLOCK_SIZE * (b + 1) = FBK_BANK_SIZE then
      putBankInfo m (ctx.bankInfo ctx.activeBank) buffer else buffer).getD i 0 =
      image m ctx source dst len (FBK_BLOCK_SIZE * b + i) := by
  intro buffer
  have hi : i < 128 := hi
  have hbuffer : buffer.getD i 0 = copied m ctx source dst len (128 * b + i) :=
    getD_map_range (n := 128) hi
  have hlength : buffer.length = 128 := by simp [buffer]
  show (if 128 * b + 128 = 4096 then _ else buffer).getD i 0 = _
  by_cases hlast : 128 * b + 128 = 4096
  · rw [if_pos hlast]
    obtain rfl : b = 31 := by omega
    simp only [putBankInfo, image]
    rw [getD_set _ (by simp only [List.length_set, hlength]; decide),
      getD_set _ (by simp only [List.length_set, hlength]; decide),
      getD_set _ (by simp only [List.length_set, hlength]; decide),
      getD_set _ (by rw [hlength]; decide), hbuffer]
    -- the four positions of the bank info are different
    simp only [FBK_BLOCK_SIZE, FBK_INFO_SIZE, dataSize, FBK_BANK_SIZE]
    split_ifs <;> first | rfl | omega
  · rw [if_neg hlast, hbuffer]
    show _ = image m ctx source dst len (128 * b + i)
    simp only [image, dataSize, FBK_BANK_SIZE, FBK_INFO_SIZE]
    split_ifs <;> first | rfl | omega

/-! ### The flash during a write -/

/-- The address of the bank that is written. -/
abbrev newBlock (ctx : Context) : ℕ := ctx.bankInfo (!ctx.activeBank)

/-- The source of a write does not lie in the bank that is written. -/
def SourceOutside (m₀ : Memory) (ctx : Context) (source : Source) (len : Dword) : Prop :=
  ∀ m, AgreeOutside (newBlock ctx) FBK_BANK_SIZE m₀ m →
    ∀ i < len.toNat, source m i = source m₀ i

/-- The flash after the bank is erased and `k` phrases are programmed. -/
def written (f₀ : Device) (ctx : Context) (source : Source) (dst len : Dword) (k : ℕ) : Device :=
  (f₀.erased (newBlock ctx) 1).programmed (newBlock ctx) k (image f₀.memory ctx source dst len)

variable {f₀ : Device}

theorem written_agree {k : ℕ} (hk : k ≤ 512) : AgreeOutside (newBlock ctx) FBK_BANK_SIZE f₀.memory
    (written f₀ ctx source dst len k).memory := by
  refine (AgreeOutside.erase _).trans ((AgreeOutside.program _).mono ⟨Nat.le_refl _, ?_⟩)
  show newBlock ctx + 8 * k ≤ newBlock ctx + 4096
  omega

/-- What is written so far, by position in the bank. -/
theorem written_memory (k : ℕ) {p : ℕ} (hp : p < FBK_BANK_SIZE) :
    (written f₀ ctx source dst len k).memory (newBlock ctx + p) =
      if p < 8 * k then image f₀.memory ctx source dst len p else erased := by
  have herased : (f₀.erased (newBlock ctx) 1).memory (newBlock ctx + p) = erased :=
    erase_inside ⟨by omega, Nat.add_lt_add_left hp _⟩
  split
  · rename_i hk
    show program _ _ (8 * k) _ _ = _
    rw [program_erase ⟨by omega, by omega⟩ herased, Nat.add_sub_cancel_left]
  · rename_i hk
    show program _ _ (8 * k) _ _ = _
    rw [program_outside (by omega), herased]

/-- While the bank is written, the loop copies what it would have copied before. -/
theorem image_congr (hsource : SourceOutside f₀.memory ctx source len)
    (h : AgreeOutside (newBlock ctx) FBK_BANK_SIZE f₀.memory m) {p : ℕ} (hp : p < FBK_BANK_SIZE) :
    image m ctx source dst len p = image f₀.memory ctx source dst len p := by
  have hold : ∀ i < FBK_BANK_SIZE, m (ctx.bankInfo ctx.activeBank + i) =
      f₀.memory (ctx.bankInfo ctx.activeBank + i) := fun i hi => Context.agree_other h hi
  have hcopied : copied m ctx source dst len p = copied f₀.memory ctx source dst len p := by
    unfold copied
    split
    · refine hsource m h _ ?_
      -- the range is empty when its end wraps
      have hsum := BitVec.toNat_add dst len
      have hdst := dst.isLt
      have hlen := len.isLt
      omega
    · exact hold p hp
  rw [image, image, series_congr hold, hcopied]

/-- What is known of the flash after block `b` when a command has failed, and wherever the write
may be interrupted. -/
structure Handles (hw : Hardware) (f₀ : Device) (ctx : Context) (source : Source)
    (dst len : Dword) (E : ℕ → Device → Prop) (C : Device → Prop) : Prop where
  /-- The erase command fails. -/
  erase : hw.returnCode f₀.commands ≠ FTFx_OK →
    E 0 (f₀.damaged hw (newBlock ctx) FTFx_PSECTOR_SIZE)
  /-- A phrase is the first one to fail. -/
  phrase : ∀ k < 512, hw.returnCode (f₀.commands + 1 + k) ≠ FTFx_OK →
    E (k / 16 + 1) ((written f₀ ctx source dst len k).damaged hw (newBlock ctx + 8 * k) 8)
  /-- The write goes on. -/
  keep : ∀ b < 32, ∀ buffer, Program.Triple (E b)
    (flashProgramPhrase hw (newBlock ctx + FBK_BLOCK_SIZE * b) FBK_BLOCK_SIZE buffer)
    (fun _ => E (b + 1)) C
  /-- It is interrupted before an error. -/
  written : ∀ k ≤ 512, C (written f₀ ctx source dst len k)
  /-- It is interrupted after an error. -/
  error : ∀ b f, E b f → C f

variable {hw : Hardware} {E : ℕ → Device → Prop} {C : Device → Prop}

/-- The variables and the flash after block `b`. -/
def BlockInv (hw : Hardware) (f₀ : Device) (ctx : Context) (source : Source) (dst len : Dword)
    (E : ℕ → Device → Prop) (b : ℕ) (p : Progress) (f : Device) : Prop :=
  p = ⟨FBK_BLOCK_SIZE * b, taken dst len (FBK_BLOCK_SIZE * b),
    ctx.bankInfo ctx.activeBank + FBK_BLOCK_SIZE * b, newBlock ctx + FBK_BLOCK_SIZE * b⟩ ∧
  (hw.Ok f₀.commands (1 + 16 * b) ∧ f = written f₀ ctx source dst len (16 * b) ∨ E b f)

/-- Programming one block after those before it. -/
theorem programBlock_spec (h : Handles hw f₀ ctx source dst len E C) {b : ℕ} (hb : b < 32)
    {buffer : List Byte}
    (hbuffer : ∀ i < FBK_BLOCK_SIZE, buffer.getD i 0 =
      image f₀.memory ctx source dst len (FBK_BLOCK_SIZE * b + i)) :
    Program.Triple (fun f => f = written f₀ ctx source dst len (16 * b))
      (flashProgramPhrase hw (newBlock ctx + FBK_BLOCK_SIZE * b) FBK_BLOCK_SIZE (ramSource buffer))
      (fun _ f => hw.Ok (f₀.commands + (1 + 16 * b)) 16 ∧
        f = written f₀ ctx source dst len (16 * (b + 1)) ∨ E (b + 1) f) C := by
  have haligned : newBlock ctx % 4096 = 0 := ctx.aligned _
  have hinFlash : newBlock ctx + 4096 ≤ 0x100000 := ctx.inFlash _
  -- up to phrase `k` of the block, the flash is the one with `16 * b + k` phrases
  have hprogrammed : ∀ k ≤ 16, (written f₀ ctx source dst len (16 * b)).programmed
      (newBlock ctx + FBK_BLOCK_SIZE * b) k
        (ramSource buffer (written f₀ ctx source dst len (16 * b)).memory) =
      written f₀ ctx source dst len (16 * b + k) := by
    intro k hk
    rw [show newBlock ctx + FBK_BLOCK_SIZE * b = newBlock ctx + FTFx_PHRASE_SIZE * (16 * b) by
      show _ + 128 * b = _ + 8 * (16 * b); omega]
    rw [written, Device.programmed_congr fun i hi => ?_, Device.programmed_programmed, ← written]
    have hi : i < 8 * k := hi
    rw [show FTFx_PHRASE_SIZE * (16 * b) + i = FBK_BLOCK_SIZE * b + i by
      show 8 * (16 * b) + i = 128 * b + i; omega]
    exact hbuffer i (show i < 128 by omega)
  have hcommands : (written f₀ ctx source dst len (16 * b)).commands =
      f₀.commands + (1 + 16 * b) := Nat.add_assoc ..
  have hspec := flashProgramPhrase_spec hw (written f₀ ctx source dst len (16 * b))
    (newBlock ctx + FBK_BLOCK_SIZE * b) 16 (ramSource buffer) (E (b + 1))
    (by show (_ + 128 * b) % 8 = 0; omega) (by show _ + 128 * b + 8 * 16 ≤ 0x100000; omega)
    (fun _ _ _ _ => rfl) fun k hk hfails => by
      have hphrase := h.phrase (16 * b + k) (by omega)
        (by rw [Nat.add_assoc, ← Nat.add_assoc 1, ← Nat.add_assoc, ← hcommands]; exact hfails)
      rw [hprogrammed k (by omega)]
      rw [show (16 * b + k) / 16 + 1 = b + 1 by omega] at hphrase
      rwa [show newBlock ctx + FBK_BLOCK_SIZE * b + FTFx_PHRASE_SIZE * k =
        newBlock ctx + 8 * (16 * b + k) by show _ + 128 * b + 8 * k = _; omega]
  refine hspec.conseq (fun _ h => h) (fun _ f hf => ?_) fun f hf => ?_
  · rcases hf with ⟨-, hok, hf⟩ | ⟨-, hE⟩
    · rw [hprogrammed 16 (Nat.le_refl _)] at hf
      rw [hcommands] at hok
      exact .inl ⟨hok, hf⟩
    · exact .inr hE
  · rcases hf with ⟨k, hk, -, hf⟩ | hE
    · rw [hf, hprogrammed k hk]
      exact h.written _ (by omega)
    · exact h.error _ _ hE

/-- One block. -/
theorem writeBlock_spec (h : Handles hw f₀ ctx source dst len E C)
    (hsource : SourceOutside f₀.memory ctx source len) {b : ℕ} (hb : b < 32) (p : Progress) :
    Program.Triple (BlockInv hw f₀ ctx source dst len E b p)
      (writeBlock hw ctx source dst len p) (BlockInv hw f₀ ctx source dst len E (b + 1)) C := by
  rintro f ⟨rfl, hf⟩
  have hpos : FBK_BLOCK_SIZE * b + FBK_BLOCK_SIZE = FBK_BLOCK_SIZE * (b + 1) := rfl
  unfold writeBlock
  refine Program.Triple.bind (P := fun f' => f' = f) (Q := fun a f' => a = f ∧ f' = f)
    (.get fun f' h => ⟨h, h⟩) (fun a => ?_) f rfl
  intro f' ⟨ha, hf'⟩
  rw [ha, hf']
  simp only [foldl_copyByte, hpos]
  refine Program.Triple.bind (P := fun f' => f' = f)
    (Q := fun _ f' => hw.Ok f₀.commands (1 + 16 * (b + 1)) ∧
      f' = written f₀ ctx source dst len (16 * (b + 1)) ∨ E (b + 1) f')
    ?_ (fun _ => .pure _ fun f' hf' => ⟨?_, hf'⟩) f rfl
  · rcases hf with ⟨hok, rfl⟩ | hE
    · refine (programBlock_spec h hb fun i hi => ?_).conseq (fun _ h => h)
        (fun _ f' hf' => hf'.imp_left fun h => ⟨?_, h.2⟩) fun _ h => h
      · have hi' : i < 128 := hi
        rw [buffer_eq_image hb hi, image_congr hsource (written_agree (by omega))]
        show 128 * b + i < 4096
        omega
      · exact hok.add h.1
    · refine (h.keep b hb _).conseq ?_ (fun _ _ h => .inr h) fun _ h => h
      rintro _ rfl
      exact hE
  · rfl

/-- **The flash after a write**: it holds the whole image if no command failed.  Wherever the
write is interrupted before an error, it holds a part of the image. -/
theorem fbkWriteFlash_spec (h : Handles hw f₀ ctx source dst len E C)
    (hsource : SourceOutside f₀.memory ctx source len)
    (haccept : (dst + len).toNat < FBK_BANK_SIZE) :
    Program.Triple (fun f => f = f₀) (fbkWriteFlash hw ctx source dst len)
      (fun r f => r = (0, ctx.activate (!ctx.activeBank)) ∧
        (hw.Ok f₀.commands 513 ∧ f = written f₀ ctx source dst len 512 ∨ E 32 f)) C := by
  have herase := flashEraseSector_spec hw f₀ (newBlock ctx) 1 (E 0) (ctx.aligned _)
    (ctx.inFlash _) fun k hk hfails => by
      obtain rfl : k = 0 := by omega
      simpa using h.erase hfails
  have herased : written f₀ ctx source dst len 0 = f₀.erased (newBlock ctx) 1 :=
    Device.programmed_zero
  rw [fbkWriteFlash, if_neg (Nat.not_le.2 haccept)]
  refine .bind (Q := fun _ f => hw.Ok f₀.commands 1 ∧ f = written f₀ ctx source dst len 0 ∨ E 0 f)
    (herase.conseq (fun _ h => h) (fun _ f hf => ?_) fun f hf => ?_) fun _ => ?_
  · rw [herased]
    exact hf.imp And.right And.right
  · rcases hf with ⟨k, hk, hpos, rfl⟩ | hE
    · obtain rfl : k = 1 := by omega
      rw [← herased]
      exact h.written 0 (Nat.zero_le _)
    · exact h.error 0 f hE
  · refine .bind ((Program.Triple.iterate (I := BlockInv hw f₀ ctx source dst len E)
      (fun b hb p => writeBlock_spec h hsource hb p) _).conseq (fun f hf => ⟨?_, hf⟩)
      (fun _ _ h => h) fun _ h => h) fun p => .pure _ fun f hf => ⟨rfl, hf.2⟩
    simp [taken]

end Fbk

end Lcm
