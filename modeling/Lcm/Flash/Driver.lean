import Lcm.Flash.Memory
import Lcm.Run.Interruptible

/-!
# The flash driver

`FlashEraseSector` and `FlashProgramPhrase` check their arguments and then issue one hardware
command for each sector or each phrase of eight bytes, until one of them returns an error.  A
command is atomic: it is done, or it fails, with an error code, and leaves anything in the bytes
it was to change.

## Main definitions

* `Hardware` : what each command returns, and what it leaves when it fails.
* `flashEraseSector`, `flashProgramPhrase` : the functions of the driver.

## Main results

* `flashEraseSector_spec`, `flashProgramPhrase_spec` : what they do up to the first error.
* `flashEraseSector_memory`, `flashProgramPhrase_memory` : what they do when no command fails.
* `flashProgramPhrase_invariant`, `flashProgramPhrase_agree`, `flashEraseSector_agree` : what is
  kept
  in any case.
* `flashEraseSector_failingAt`, `flashProgramPhrase_failingAt` : what a command that fails leaves.
-/

namespace Lcm

namespace Flash

/-- `FTFx_OK` -/
def FTFx_OK : Dword := 0x0000

/-- `FTFx_ERR_SIZE` -/
def FTFx_ERR_SIZE : Dword := 0x0001

/-- `FTFx_ERR_RANGE` -/
def FTFx_ERR_RANGE : Dword := 0x0002

/-- `FTFx_ERR_ADDR` -/
def FTFx_ERR_ADDR : Dword := 0x0100

/-- `FTFx_PHRASE_SIZE` -/
abbrev FTFx_PHRASE_SIZE : ℕ := 0x0008

/-- `FTFx_PSECTOR_SIZE` of the derivative with 4 KB sectors -/
abbrev FTFx_PSECTOR_SIZE : ℕ := 0x1000

/-- `PBLOCK_SIZE`; `PFLASH_BLOCK_BASE` is zero, and there is no data flash. -/
abbrev PBLOCK_SIZE : ℕ := 0x00100000

/-- `flash_sizeof` -/
def flashSizeof (originalSize : ℕ) : ℕ :=
  (originalSize / 8 + if originalSize % 8 ≠ 0 then 1 else 0) * 8

/-- The flash, and how many commands it has got. -/
@[ext] structure Device where
  /-- Its contents. -/
  memory : Memory
  /-- The number of commands so far. -/
  commands : ℕ

/-- What the commands of the flash return, by their number. -/
structure Hardware where
  /-- The return code of a command. -/
  returnCode : ℕ → Dword
  /-- What a command that fails leaves in the bytes it was to change. -/
  damage : ℕ → Memory

/-- What the bytes behind a pointer are, by their offset, in a memory: a pointer into RAM does not
depend on the flash. -/
abbrev Source := Memory → ℕ → Byte

/-- A pointer into flash. -/
def flashSource (a : ℕ) : Source := fun m i => m (a + i)

/-- A pointer to a list of bytes in RAM. -/
def ramSource (bytes : List Byte) : Source := fun _ i => bytes.getD i 0

/-- The next `n` commands after the first `c` do not fail. -/
def Hardware.Ok (hw : Hardware) (c n : ℕ) : Prop := ∀ k < n, hw.returnCode (c + k) = FTFx_OK

/-- The flash after `k` sectors from `a` on are erased. -/
def Device.erased (f : Device) (a k : ℕ) : Device :=
  ⟨erase f.memory a (FTFx_PSECTOR_SIZE * k), f.commands + k⟩

/-- The flash after `k` phrases from `a` on are programmed. -/
def Device.programmed (f : Device) (a k : ℕ) (bytes : ℕ → Byte) : Device :=
  ⟨program f.memory a (FTFx_PHRASE_SIZE * k) bytes, f.commands + k⟩

/-- The flash after a command failed that was to change `n` bytes from `a` on. -/
def Device.damaged (f : Device) (hw : Hardware) (a n : ℕ) : Device :=
  ⟨overwrite f.memory a n (hw.damage f.commands), f.commands + 1⟩

variable (hw : Hardware)

/-- `FlashCommandSequence` for a command that changes `n` bytes from `a` on. -/
def flashCommandSequence (a n : ℕ) (effect : Memory → Memory) : Program Device Dword :=
  Program.step fun f =>
    let returnCode := hw.returnCode f.commands
    (returnCode,
      if returnCode = FTFx_OK then ⟨effect f.memory, f.commands + 1⟩ else f.damaged hw a n)

/-- `FlashEraseSector` -/
def flashEraseSector (destination size : ℕ) : Program Device Dword :=
  if destination + size > PBLOCK_SIZE then pure FTFx_ERR_RANGE
  else if destination % FTFx_PSECTOR_SIZE ≠ 0 then pure FTFx_ERR_ADDR
  else if size % FTFx_PSECTOR_SIZE ≠ 0 then pure FTFx_ERR_SIZE
  else
    Program.untilError FTFx_OK
      (fun destination => flashCommandSequence hw destination FTFx_PSECTOR_SIZE
        fun m => erase m destination FTFx_PSECTOR_SIZE)
      FTFx_PSECTOR_SIZE (size / FTFx_PSECTOR_SIZE) destination

/-- `FlashProgramPhrase` -/
def flashProgramPhrase (destination size : ℕ) (source : Source) : Program Device Dword :=
  if destination % FTFx_PHRASE_SIZE ≠ 0 then pure FTFx_ERR_ADDR
  else if size % FTFx_PHRASE_SIZE ≠ 0 then pure FTFx_ERR_SIZE
  else if destination + size > PBLOCK_SIZE then pure FTFx_ERR_RANGE
  else
    Program.untilError FTFx_OK
      (fun phrase => flashCommandSequence hw phrase FTFx_PHRASE_SIZE
        fun m => program m phrase FTFx_PHRASE_SIZE fun i => source m (phrase - destination + i))
      FTFx_PHRASE_SIZE (size / FTFx_PHRASE_SIZE) destination

/-! ### Up to the first error -/

variable {hw} {f₀ : Device} {a n : ℕ} {source : Source} {E : Device → Prop}

theorem Hardware.Ok.succ {c k : ℕ} (h : hw.Ok c k) (hk : hw.returnCode (c + k) = FTFx_OK) :
    hw.Ok c (k + 1) := by
  intro j hj
  rcases Nat.lt_succ_iff_lt_or_eq.1 hj with hj | rfl
  · exact h j hj
  · exact hk

theorem Hardware.Ok.add {c k : ℕ} (h : hw.Ok c k) (h' : hw.Ok (c + k) n) : hw.Ok c (k + n) := by
  intro j hj
  rcases Nat.lt_or_ge j k with hjk | hkj
  · exact h j hjk
  · have hrest := h' (j - k) (by omega)
    rwa [Nat.add_assoc, Nat.add_sub_cancel' hkj] at hrest

@[simp] theorem Device.erased_zero : f₀.erased a 0 = f₀ := by simp [Device.erased]

@[simp] theorem Device.programmed_zero {bytes : ℕ → Byte} : f₀.programmed a 0 bytes = f₀ := by
  simp [Device.programmed]

theorem Device.erased_succ (k : ℕ) :
    (⟨erase (f₀.erased a k).memory (a + FTFx_PSECTOR_SIZE * k) FTFx_PSECTOR_SIZE,
      (f₀.erased a k).commands + 1⟩ : Device) = f₀.erased a (k + 1) := by
  simp only [Device.erased, erase_erase, ← Nat.mul_succ, Nat.add_assoc]

theorem Device.programmed_programmed (k : ℕ) (bytes : ℕ → Byte) :
    (f₀.programmed a k bytes).programmed (a + FTFx_PHRASE_SIZE * k) n
      (fun i => bytes (FTFx_PHRASE_SIZE * k + i)) = f₀.programmed a (k + n) bytes := by
  simp only [Device.programmed, program_program, ← Nat.mul_add, Nat.add_assoc]

theorem Device.programmed_congr {k : ℕ} {bytes bytes' : ℕ → Byte}
    (h : ∀ i < FTFx_PHRASE_SIZE * k, bytes i = bytes' i) :
    f₀.programmed a k bytes = f₀.programmed a k bytes' := by
  rw [Device.programmed, program_congr h, Device.programmed]

/-- A command that may fail. -/
theorem flashCommandSequence_spec (effect : Memory → Memory) {C : Device → Prop}
    (hE : hw.returnCode f₀.commands ≠ FTFx_OK → E (f₀.damaged hw a n))
    (hC : ∀ f, f = ⟨effect f₀.memory, f₀.commands + 1⟩ ∨ E f → C f) :
    Program.Triple (fun f => f = f₀) (flashCommandSequence hw a n effect)
      (fun code f => code = FTFx_OK ∧ (hw.returnCode f₀.commands = FTFx_OK ∧
        f = ⟨effect f₀.memory, f₀.commands + 1⟩) ∨ code ≠ FTFx_OK ∧ E f) C := by
  refine .step ?_
  rintro f rfl
  by_cases hok : hw.returnCode f.commands = FTFx_OK
  · simp only [hok, if_true]
    exact ⟨.inl ⟨trivial, trivial, trivial⟩, hC _ (.inl rfl)⟩
  · simp only [hok, if_false]
    exact ⟨.inr ⟨hok, hE hok⟩, hC _ (.inr (hE hok))⟩

/-- **Erasing**: an interruption leaves the first sectors erased, or an error. -/
theorem flashEraseSector_spec (hw : Hardware) (f₀ : Device) (a n : ℕ) (E : Device → Prop)
    (haligned : a % FTFx_PSECTOR_SIZE = 0)
    (hrange : a + FTFx_PSECTOR_SIZE * n ≤ PBLOCK_SIZE)
    (hE : ∀ k < n, hw.returnCode (f₀.commands + k) ≠ FTFx_OK →
      E ((f₀.erased a k).damaged hw (a + FTFx_PSECTOR_SIZE * k) FTFx_PSECTOR_SIZE)) :
    Program.Triple (fun f => f = f₀) (flashEraseSector hw a (FTFx_PSECTOR_SIZE * n))
      (fun code f => code = FTFx_OK ∧ (hw.Ok f₀.commands n ∧ f = f₀.erased a n) ∨
        code ≠ FTFx_OK ∧ E f)
      fun f => (∃ k ≤ n, 0 < k ∧ f = f₀.erased a k) ∨ E f := by
  rw [flashEraseSector, if_neg (Nat.not_lt.2 hrange), if_neg (not_not.2 haligned),
    if_neg (not_not.2 (Nat.mul_mod_right ..)), Nat.mul_div_cancel_left n (by decide)]
  refine .conseq (.untilError (I := fun k f => hw.Ok f₀.commands k ∧ f = f₀.erased a k)
    fun k hk => ?_) ?_ (fun _ _ h => h) fun _ h => h
  · intro f ⟨hbefore, hf⟩
    obtain ⟨hpost, hvisited⟩ := flashCommandSequence_spec (E := E) (n := FTFx_PSECTOR_SIZE)
      (fun m => erase m (a + FTFx_PSECTOR_SIZE * k) FTFx_PSECTOR_SIZE)
      (C := fun f => (∃ k ≤ n, 0 < k ∧ f = f₀.erased a k) ∨ E f) (hE k hk)
      (fun f hf => hf.imp_left fun h => ⟨k + 1, hk, Nat.succ_pos k, h.trans (Device.erased_succ k)⟩)
      f hf
    exact ⟨hpost.imp_left fun ⟨hcode, hok, h⟩ =>
      ⟨hcode, hbefore.succ hok, h.trans (Device.erased_succ k)⟩, hvisited⟩
  · rintro _ rfl
    exact ⟨fun _ h => absurd h (Nat.not_lt_zero _), Device.erased_zero.symm⟩

/-- **Programming**: an interruption leaves the first phrases programmed, or an error. -/
theorem flashProgramPhrase_spec (hw : Hardware) (f₀ : Device) (a n : ℕ) (source : Source)
    (E : Device → Prop) (haligned : a % FTFx_PHRASE_SIZE = 0)
    (hrange : a + FTFx_PHRASE_SIZE * n ≤ PBLOCK_SIZE)
    (hsource : ∀ m, AgreeOutside a (FTFx_PHRASE_SIZE * n) f₀.memory m →
      ∀ i < FTFx_PHRASE_SIZE * n, source m i = source f₀.memory i)
    (hE : ∀ k < n, hw.returnCode (f₀.commands + k) ≠ FTFx_OK →
      E ((f₀.programmed a k (source f₀.memory)).damaged hw (a + FTFx_PHRASE_SIZE * k)
        FTFx_PHRASE_SIZE)) :
    Program.Triple (fun f => f = f₀) (flashProgramPhrase hw a (FTFx_PHRASE_SIZE * n) source)
      (fun code f => code = FTFx_OK ∧
          (hw.Ok f₀.commands n ∧ f = f₀.programmed a n (source f₀.memory)) ∨
        code ≠ FTFx_OK ∧ E f)
      fun f => (∃ k ≤ n, 0 < k ∧ f = f₀.programmed a k (source f₀.memory)) ∨ E f := by
  rw [flashProgramPhrase, if_neg (not_not.2 haligned), if_neg (not_not.2 (Nat.mul_mod_right ..)),
    if_neg (Nat.not_lt.2 hrange), Nat.mul_div_cancel_left n (by decide)]
  refine .conseq (.untilError
    (I := fun k f => hw.Ok f₀.commands k ∧ f = f₀.programmed a k (source f₀.memory))
    fun k hk => ?_) ?_ (fun _ _ h => h) fun _ h => h
  · -- the source is read after `k` phrases are programmed, which it does not overlap
    have hread : ∀ i < FTFx_PHRASE_SIZE * 1,
        source (f₀.programmed a k (source f₀.memory)).memory
          (a + FTFx_PHRASE_SIZE * k - a + i) = source f₀.memory (FTFx_PHRASE_SIZE * k + i) := by
      intro i hi
      have hle : FTFx_PHRASE_SIZE * (k + 1) ≤ FTFx_PHRASE_SIZE * n := Nat.mul_le_mul_left _ hk
      rw [Nat.mul_succ] at hle
      rw [Nat.add_sub_cancel_left]
      refine hsource _ ((AgreeOutside.program _).mono ⟨Nat.le_refl _, ?_⟩) _ ?_ <;> omega
    have hnext : (f₀.programmed a k (source f₀.memory)).programmed (a + FTFx_PHRASE_SIZE * k) 1
        (fun i => source (f₀.programmed a k (source f₀.memory)).memory
          (a + FTFx_PHRASE_SIZE * k - a + i)) = f₀.programmed a (k + 1) (source f₀.memory) := by
      rw [Device.programmed_congr hread, Device.programmed_programmed]
    intro f ⟨hbefore, hf⟩
    obtain ⟨hpost, hvisited⟩ := flashCommandSequence_spec (E := E) (n := FTFx_PHRASE_SIZE)
      (fun m => program m (a + FTFx_PHRASE_SIZE * k) FTFx_PHRASE_SIZE fun i =>
        source m (a + FTFx_PHRASE_SIZE * k - a + i))
      (C := fun f => (∃ k ≤ n, 0 < k ∧ f = f₀.programmed a k (source f₀.memory)) ∨ E f) (hE k hk)
      (fun f hf => hf.imp_left fun h => ⟨k + 1, hk, Nat.succ_pos k, h.trans hnext⟩) f hf
    exact ⟨hpost.imp_left fun ⟨hcode, hok, h⟩ => ⟨hcode, hbefore.succ hok, h.trans hnext⟩, hvisited⟩
  · rintro _ rfl
    exact ⟨fun _ h => absurd h (Nat.not_lt_zero _), Device.programmed_zero.symm⟩

/-! ### Without errors -/

/-- No command fails. -/
def Hardware.NoErrors (hw : Hardware) : Prop := ∀ k, hw.returnCode k = FTFx_OK

/-- Erasing without errors, where `C` holds while it goes on. -/
theorem flashEraseSector_memory (hw : Hardware) (hok : hw.NoErrors) (m : Memory) (a n : ℕ)
    {C : Memory → Prop} (haligned : a % FTFx_PSECTOR_SIZE = 0)
    (hrange : a + FTFx_PSECTOR_SIZE * n ≤ PBLOCK_SIZE)
    (hC : ∀ k ≤ n, C (erase m a (FTFx_PSECTOR_SIZE * k))) :
    Program.Triple (fun f => f.memory = m) (flashEraseSector hw a (FTFx_PSECTOR_SIZE * n))
      (fun code f => code = FTFx_OK ∧ f.memory = erase m a (FTFx_PSECTOR_SIZE * n))
      fun f => C f.memory := by
  rintro f rfl
  obtain ⟨hpost, hvisited⟩ := flashEraseSector_spec hw f a n (fun _ => False) haligned hrange
    (fun k _ h => h (hok _)) f rfl
  refine ⟨?_, fun t ht => ?_⟩
  · obtain ⟨hcode, -, hf⟩ := hpost.resolve_right And.right
    exact ⟨hcode, by rw [hf]; rfl⟩
  · obtain ⟨k, hk, -, rfl⟩ := (hvisited t ht).resolve_right id
    exact hC k hk

/-- Programming without errors, where `C` holds while it goes on. -/
theorem flashProgramPhrase_memory (hw : Hardware) (hok : hw.NoErrors) (m : Memory) (a n : ℕ)
    (source : Source) {C : Memory → Prop} (haligned : a % FTFx_PHRASE_SIZE = 0)
    (hrange : a + FTFx_PHRASE_SIZE * n ≤ PBLOCK_SIZE)
    (hsource : ∀ m', AgreeOutside a (FTFx_PHRASE_SIZE * n) m m' →
      ∀ i < FTFx_PHRASE_SIZE * n, source m' i = source m i)
    (hC : ∀ k ≤ n, C (program m a (FTFx_PHRASE_SIZE * k) (source m))) :
    Program.Triple (fun f => f.memory = m) (flashProgramPhrase hw a (FTFx_PHRASE_SIZE * n) source)
      (fun code f => code = FTFx_OK ∧ f.memory = program m a (FTFx_PHRASE_SIZE * n) (source m))
      fun f => C f.memory := by
  rintro f rfl
  obtain ⟨hpost, hvisited⟩ := flashProgramPhrase_spec hw f a n source (fun _ => False) haligned
    hrange hsource (fun k _ h => h (hok _)) f rfl
  refine ⟨?_, fun t ht => ?_⟩
  · obtain ⟨hcode, -, hf⟩ := hpost.resolve_right And.right
    exact ⟨hcode, by rw [hf]; rfl⟩
  · obtain ⟨k, hk, -, rfl⟩ := (hvisited t ht).resolve_right id
    exact hC k hk

/-! ### In any case -/

/-- What every command keeps, programming keeps. -/
theorem flashProgramPhrase_invariant (hw : Hardware) (destination size : ℕ) (source : Source)
    {I : Device → Prop}
    (hprogram : ∀ f b bytes, destination ≤ b → b + FTFx_PHRASE_SIZE ≤ destination + size → I f →
      I ⟨program f.memory b FTFx_PHRASE_SIZE bytes, f.commands + 1⟩)
    (hdamage : ∀ f b, destination ≤ b → b + FTFx_PHRASE_SIZE ≤ destination + size → I f →
      I (f.damaged hw b FTFx_PHRASE_SIZE)) :
    Program.Triple I (flashProgramPhrase hw destination size source) (fun _ => I) I := by
  unfold flashProgramPhrase
  split_ifs with h₁ h₂ h₃
  · exact .pure _ fun _ h => h
  · exact .pure _ fun _ h => h
  · exact .pure _ fun _ h => h
  · refine .untilError_invariant fun k hk => .step fun f hf => ?_
    have hk : k < size / 8 := hk
    have hrange : destination + 8 * k + 8 ≤ destination + size := by omega
    have hnext : I (if hw.returnCode f.commands = FTFx_OK then
        ⟨program f.memory (destination + FTFx_PHRASE_SIZE * k) FTFx_PHRASE_SIZE fun i =>
          source f.memory (destination + FTFx_PHRASE_SIZE * k - destination + i), f.commands + 1⟩
        else f.damaged hw (destination + FTFx_PHRASE_SIZE * k) FTFx_PHRASE_SIZE) := by
      split
      · exact hprogram f _ _ (Nat.le_add_right ..) hrange hf
      · exact hdamage f _ (Nat.le_add_right ..) hrange hf
    exact ⟨hnext, hnext⟩

/-- Programming leaves other bytes alone. -/
theorem flashProgramPhrase_agree (hw : Hardware) (m₀ : Memory) (destination size : ℕ)
    (source : Source) (hrange : a ≤ destination ∧ destination + size ≤ a + n) :
    Program.Triple (fun f => AgreeOutside a n m₀ f.memory)
      (flashProgramPhrase hw destination size source)
      (fun _ f => AgreeOutside a n m₀ f.memory) fun f => AgreeOutside a n m₀ f.memory :=
  flashProgramPhrase_invariant hw destination size source
    (fun _ _ _ hb hend hf => hf.trans ((AgreeOutside.program _).mono ⟨by omega, by omega⟩))
    fun _ _ hb hend hf => hf.trans ((AgreeOutside.overwrite _ _).mono ⟨by omega, by omega⟩)

/-- Erasing leaves other bytes alone. -/
theorem flashEraseSector_agree (hw : Hardware) (m₀ : Memory) (destination size : ℕ)
    (hrange : a ≤ destination ∧ destination + size ≤ a + n) :
    Program.Keeps (fun f => AgreeOutside a n m₀ f.memory)
      (flashEraseSector hw destination size) := by
  unfold flashEraseSector
  split_ifs with h₁ h₂ h₃
  · exact .pure _
  · exact .pure _
  · exact .pure _
  · refine Program.Triple.untilError_invariant fun k hk => Program.Triple.step fun f hf => ?_
    have hk : k < size / 0x1000 := hk
    have hsector : a ≤ destination + 0x1000 * k ∧
        destination + 0x1000 * k + 0x1000 ≤ a + n := by omega
    have hnext : AgreeOutside a n m₀ (if hw.returnCode f.commands = FTFx_OK then
        (⟨erase f.memory (destination + FTFx_PSECTOR_SIZE * k) FTFx_PSECTOR_SIZE,
          f.commands + 1⟩ : Device)
        else f.damaged hw (destination + FTFx_PSECTOR_SIZE * k) FTFx_PSECTOR_SIZE).memory := by
      split
      · exact hf.trans ((AgreeOutside.erase _).mono hsector)
      · exact hf.trans ((AgreeOutside.overwrite _ _).mono hsector)
    exact ⟨hnext, hnext⟩

/-- Programming is refused, or there is nothing to program. -/
theorem flashProgramPhrase_idle (hw : Hardware) (destination size : ℕ) (source : Source)
    {I : Device → Prop}
    (h : destination % FTFx_PHRASE_SIZE = 0 → size % FTFx_PHRASE_SIZE = 0 → size = 0) :
    Program.Triple I (flashProgramPhrase hw destination size source) (fun _ => I) I := by
  unfold flashProgramPhrase
  split_ifs with h₁ h₂ h₃
  · exact .pure _ fun _ h => h
  · exact .pure _ fun _ h => h
  · exact .pure _ fun _ h => h
  · rw [h (not_not.1 h₁) (not_not.1 h₂)]
    exact .pure _ fun _ h => h

/-! ### When it succeeds -/

/-- Erasing that succeeds has erased everything. -/
theorem flashEraseSector_ok (hw : Hardware) (destination size : ℕ) (f : Device)
    (h : (flashEraseSector hw destination size f).value = FTFx_OK) :
    (flashEraseSector hw destination size f).state.memory = erase f.memory destination size := by
  by_cases hrange : destination + size > PBLOCK_SIZE
  · rw [flashEraseSector, if_pos hrange] at h
    cases h
  by_cases haligned : destination % FTFx_PSECTOR_SIZE ≠ 0
  · rw [flashEraseSector, if_neg hrange, if_pos haligned] at h
    cases h
  by_cases hsize : size % FTFx_PSECTOR_SIZE ≠ 0
  · rw [flashEraseSector, if_neg hrange, if_neg haligned, if_pos hsize] at h
    cases h
  obtain ⟨n, rfl⟩ := Nat.dvd_of_mod_eq_zero (not_not.1 hsize)
  obtain ⟨-, -, hf⟩ | ⟨hcode, -⟩ := (flashEraseSector_spec hw f destination n (fun _ => True)
    (not_not.1 haligned) (Nat.le_of_not_lt hrange) (fun _ _ _ => trivial) f rfl).1
  · rw [hf]
    rfl
  · exact absurd h hcode

/-- Programming that succeeds has programmed everything. -/
theorem flashProgramPhrase_ok (hw : Hardware) (destination size : ℕ) (bytes : ℕ → Byte) (f : Device)
    (h : (flashProgramPhrase hw destination size (fun _ => bytes) f).value = FTFx_OK) :
    size % FTFx_PHRASE_SIZE = 0 ∧
      (flashProgramPhrase hw destination size (fun _ => bytes) f).state.memory =
        program f.memory destination size bytes := by
  by_cases haligned : destination % FTFx_PHRASE_SIZE ≠ 0
  · rw [flashProgramPhrase, if_pos haligned] at h
    cases h
  by_cases hsize : size % FTFx_PHRASE_SIZE ≠ 0
  · rw [flashProgramPhrase, if_neg haligned, if_pos hsize] at h
    cases h
  by_cases hrange : destination + size > PBLOCK_SIZE
  · rw [flashProgramPhrase, if_neg haligned, if_neg hsize, if_pos hrange] at h
    cases h
  refine ⟨not_not.1 hsize, ?_⟩
  obtain ⟨n, rfl⟩ := Nat.dvd_of_mod_eq_zero (not_not.1 hsize)
  obtain ⟨-, -, hf⟩ | ⟨hcode, -⟩ := (flashProgramPhrase_spec hw f destination n (fun _ => bytes)
    (fun _ => True) (not_not.1 haligned) (Nat.le_of_not_lt hrange) (fun _ _ _ _ => rfl)
    (fun _ _ _ => trivial) f rfl).1
  · rw [hf]
    rfl
  · exact absurd h hcode

/-! ### One command that fails -/

/-- Only the command with the given number fails. -/
def Hardware.failingAt (c : ℕ) (damage : Memory) : Hardware where
  returnCode k := if k = c then FTFx_ERR_RANGE else FTFx_OK
  damage _ := damage

theorem Hardware.failingAt_returnCode {c k : ℕ} {damage : Memory} :
    (Hardware.failingAt c damage).returnCode k ≠ FTFx_OK ↔ k = c := by
  change (if k = c then FTFx_ERR_RANGE else FTFx_OK) ≠ FTFx_OK ↔ k = c
  split_ifs with hk
  · exact iff_of_true (by decide) hk
  · exact iff_of_false (not_not.2 rfl) hk

/-- Erasing ends with the sector for which the command fails. -/
theorem flashEraseSector_failingAt (f : Device) {a n k : ℕ} (damage : Memory)
    (haligned : a % FTFx_PSECTOR_SIZE = 0) (hrange : a + FTFx_PSECTOR_SIZE * n ≤ PBLOCK_SIZE)
    (hk : k < n) :
    Program.Triple (fun f' => f' = f)
      (flashEraseSector (.failingAt (f.commands + k) damage) a (FTFx_PSECTOR_SIZE * n))
      (fun code f' => code ≠ FTFx_OK ∧ ∀ i < FTFx_PSECTOR_SIZE,
        f'.memory (a + FTFx_PSECTOR_SIZE * k + i) = damage (a + FTFx_PSECTOR_SIZE * k + i))
      fun _ => True := by
  refine (flashEraseSector_spec _ f a n (fun f' => ∀ i < FTFx_PSECTOR_SIZE,
    f'.memory (a + FTFx_PSECTOR_SIZE * k + i) = damage (a + FTFx_PSECTOR_SIZE * k + i))
    haligned hrange fun j _ hj i hi => ?_).conseq (fun _ h => h) (fun code f' h => ?_)
    fun _ _ => trivial
  · obtain rfl := Nat.add_left_cancel (Hardware.failingAt_returnCode.1 hj)
    exact overwrite_inside ⟨Nat.le_add_right _ _, Nat.add_lt_add_left hi _⟩
  · refine h.resolve_left fun hok => ?_
    exact Hardware.failingAt_returnCode.2 rfl (hok.2.1 k hk)

/-- Programming ends with the phrase for which the command fails. -/
theorem flashProgramPhrase_failingAt (f : Device) {a n k : ℕ} (bytes : ℕ → Byte) (damage : Memory)
    (haligned : a % FTFx_PHRASE_SIZE = 0) (hrange : a + FTFx_PHRASE_SIZE * n ≤ PBLOCK_SIZE)
    (hk : k < n) :
    Program.Triple (fun f' => f' = f)
      (flashProgramPhrase (.failingAt (f.commands + k) damage) a (FTFx_PHRASE_SIZE * n)
        fun _ => bytes)
      (fun code f' => code ≠ FTFx_OK ∧ ∀ i < FTFx_PHRASE_SIZE,
        f'.memory (a + FTFx_PHRASE_SIZE * k + i) = damage (a + FTFx_PHRASE_SIZE * k + i))
      fun _ => True := by
  refine (flashProgramPhrase_spec _ f a n (fun _ => bytes) (fun f' => ∀ i < FTFx_PHRASE_SIZE,
    f'.memory (a + FTFx_PHRASE_SIZE * k + i) = damage (a + FTFx_PHRASE_SIZE * k + i))
    haligned hrange (fun _ _ _ _ => rfl) fun j _ hj i hi => ?_).conseq (fun _ h => h)
    (fun code f' h => ?_) fun _ _ => trivial
  · obtain rfl := Nat.add_left_cancel (Hardware.failingAt_returnCode.1 hj)
    exact overwrite_inside ⟨Nat.le_add_right _ _, Nat.add_lt_add_left hi _⟩
  · refine h.resolve_left fun hok => ?_
    exact Hardware.failingAt_returnCode.2 rfl (hok.2.1 k hk)

end Flash

end Lcm
