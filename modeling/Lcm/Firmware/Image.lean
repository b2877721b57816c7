import Lcm.Firmware.Payload
import Lcm.System.Save

/-!
# What a download leaves in the flash

Every record that is handled without an error has been applied to the inactive firmware area.

## Main definitions

* `Record.apply` : what a record is for, as a change of the flash.
* `Image` : the records of a download, and the flash it began with.
* `Image.Complete` : the area holds the image, up to its end record.
* `Download.Faithful` : the area holds what has been downloaded so far.

## Main results

* `handleS19RecordString_apply` : a record that is handled without an error has been applied.
* `receive_faithful` : receiving a chunk keeps `Faithful`.
* `Download.Faithful.complete` : a download that is finished has left a complete image.
-/

namespace Lcm

namespace Firmware

open Flash Lcm.System

/-- An address in the inactive firmware area. -/
def InArea (i : ℕ) : Prop := PFLASH_BLOCK1_BASE ≤ i ∧ i < PFLASH_BLOCK1_BASE + firmwareAreaSize

/-- Two memories agree in the inactive firmware area. -/
def AgreeInArea (m m' : Memory) : Prop := ∀ i, InArea i → m' i = m i

/-- What a record changes: the header erases the area, and data is programmed. -/
def Record.apply (m : Memory) (record : Record) : Memory :=
  let S19RecordBytes := recordBuffer record.bytes fun _ => 0
  if record.type = 0x30 then erase m PFLASH_BLOCK1_BASE firmwareAreaSize
  else if record.type = 0x33 then
    program m (writeAddress S19RecordBytes).toNat
      (dataSize (BitVec.ofNat 8 record.bytes.length)).toNat fun i => S19RecordBytes (4 + i)
  else m

theorem Record.apply_header (record : Record) (h : record.type = 0x30) (m : Memory) :
    record.apply m = erase m PFLASH_BLOCK1_BASE firmwareAreaSize := if_pos h

theorem Record.apply_data (record : Record) (h : record.type = 0x33) (m : Memory) :
    record.apply m = program m (writeAddress (recordBuffer record.bytes fun _ => 0)).toNat
      (dataSize (BitVec.ofNat 8 record.bytes.length)).toNat
      fun i => recordBuffer record.bytes (fun _ => 0) (4 + i) := by
  have hheader : record.type ≠ 0x30 := by
    rw [h]
    decide
  exact (if_neg hheader).trans (if_pos h)

theorem Record.apply_end (record : Record) (h : record.type = 0x37) (m : Memory) :
    record.apply m = m := by
  have hheader : record.type ≠ 0x30 := by
    rw [h]
    decide
  have hdata : record.type ≠ 0x33 := by
    rw [h]
    decide
  exact (if_neg hheader).trans (if_neg hdata)

/-- The records of a download, and what was in the flash before. -/
structure Image where
  /-- The flash before the first record. -/
  before : Memory
  /-- The records, all of them validated. -/
  records : List Record
  /-- The last code of the SHA-256 functions. -/
  sha256Error : ℤ

/-- The flash when all records have been applied. -/
def Image.memory (image : Image) : Memory := image.records.foldl Record.apply image.before

/-- **The inactive firmware area holds the image**: all its records have been written, the last of
them is the end record, and the hash has been computed without an error. -/
structure Image.Complete (image : Image) (m : Memory) : Prop where
  /-- The area is as the records say. -/
  written : AgreeInArea image.memory m
  /-- Nothing is missing at the end. -/
  ended : ∃ record ∈ image.records.getLast?, record.type = 0x37
  /-- The hash has been computed. -/
  hash : image.sha256Error = 0

namespace AgreeInArea

variable {m m' m'' : Memory} {a n : ℕ} {bytes : ℕ → Byte}

theorem refl (m : Memory) : AgreeInArea m m := fun _ _ => rfl

theorem trans (h : AgreeInArea m m') (h' : AgreeInArea m' m'') : AgreeInArea m m'' :=
  fun i hi => (h' i hi).trans (h i hi)

theorem erase (h : AgreeInArea m m') : AgreeInArea (erase m a n) (erase m' a n) := by
  intro i hi
  by_cases hrange : a ≤ i ∧ i < a + n
  · rw [erase_inside hrange, erase_inside hrange]
  · rw [erase_outside hrange, erase_outside hrange, h i hi]

theorem program (h : AgreeInArea m m') :
    AgreeInArea (program m a n bytes) (program m' a n bytes) := by
  intro i hi
  by_cases hrange : a ≤ i ∧ i < a + n
  · rw [program_inside hrange, program_inside hrange, h i hi]
  · rw [program_outside hrange, program_outside hrange, h i hi]

/-- What changes only other bytes leaves the area alone. -/
theorem of_agreeOutside (h : AgreeOutside a n m m')
    (hrange : a + n ≤ PFLASH_BLOCK1_BASE ∨ LCM_DATA_STARTING_BLOCK ≤ a) : AgreeInArea m m' := by
  intro i hi
  refine h i ?_
  have hi : 0x80000 ≤ i ∧ i < 0x80000 + 0x5b000 := hi
  have hrange : a + n ≤ 0x80000 ∨ 0xdb000 ≤ a := hrange
  omega

end AgreeInArea

/-- Applying a record depends on the area only as far as the area goes. -/
theorem AgreeInArea.apply {m m' : Memory} (h : AgreeInArea m m') (record : Record) :
    AgreeInArea (record.apply m) (record.apply m') := by
  unfold Record.apply
  dsimp only
  split_ifs
  · exact h.erase
  · exact h.program
  · exact h

theorem Image.Complete.agree {image : Image} {m m' : Memory} (h : image.Complete m)
    (hagree : AgreeInArea m m') : image.Complete m' := ⟨h.written.trans hagree, h.ended, h.hash⟩

/-! ### One record -/

theorem convertBytes_length {n : ℕ} {pS19ASCII : ℕ → Byte} {bytes : List Byte}
    (h : convertBytes n pS19ASCII = some bytes) : bytes.length = n := by
  induction n generalizing pS19ASCII bytes with
  | zero =>
    cases h
    rfl
  | succ n ih =>
    obtain ⟨byte, -, h⟩ := Option.bind_eq_some_iff.1 h
    obtain ⟨rest, hrest, h⟩ := Option.bind_eq_some_iff.1 h
    cases h
    rw [List.length_cons, ih hrest]

/-- The number of bytes of a valid record is a byte. -/
theorem Record.length_lt (record : Record) : record.bytes.length < 0x100 := by
  obtain ⟨line, -, hline⟩ := record.valid
  obtain ⟨count, -, hline⟩ := Option.bind_eq_some_iff.1 hline
  dsimp only at hline
  split_ifs at hline
  obtain ⟨bytes, hbytes, hline⟩ := Option.bind_eq_some_iff.1 hline
  obtain ⟨checksum, -, hline⟩ := Option.bind_eq_some_iff.1 hline
  split_ifs at hline
  rw [← Option.some.inj hline, convertBytes_length hbytes]
  exact (count - 1).isLt

theorem recordBuffer_congr {bytes : List Byte} {stack stack' : ℕ → Byte} {i : ℕ}
    (h : i < bytes.length) : recordBuffer bytes stack i = recordBuffer bytes stack' i := by
  simp only [recordBuffer, List.getD_eq_getElem?_getD, List.getElem?_eq_getElem h,
    Option.getD_some]

/-- If data is programmed in whole phrases, the record has all the bytes of its address, and the
size is what follows them. -/
theorem dataSize_of_phrases {length : ℕ} (hlength : length < 0x100)
    (h : (dataSize (BitVec.ofNat 8 length)).toNat % FTFx_PHRASE_SIZE = 0) :
    4 + (dataSize (BitVec.ofNat 8 length)).toNat = length := by
  rw [dataSize, BitVec.toNat_sub, BitVec.toNat_setWidth, BitVec.toNat_ofNat] at h ⊢
  change (2 ^ 32 - 4 + length % 2 ^ 8 % 2 ^ 32) % 2 ^ 32 % 8 = 0 at h
  change 4 + (2 ^ 32 - 4 + length % 2 ^ 8 % 2 ^ 32) % 2 ^ 32 = length
  omega

variable {hw : Hardware} {ram : Ram} {stack : ℕ → Byte} {f : Device}

/-- A step of the flash, and a test of its return code that has found no error. -/
theorem value_of_test {p : Program Device Dword} {text : Dword → String}
    (h : ((p >>= fun returnCode => if returnCode ≠ FTFx_OK then pure (some (text returnCode))
      else pure none : Program Device (Option String)) f).value = none) :
    (p f).value = FTFx_OK ∧
      ((p >>= fun returnCode => if returnCode ≠ FTFx_OK then pure (some (text returnCode))
        else pure none : Program Device (Option String)) f).state = (p f).state := by
  by_cases hok : (p f).value = FTFx_OK
  · refine ⟨hok, ?_⟩
    change ((if (p f).value ≠ FTFx_OK then pure (some (text (p f).value)) else pure none :
      Program Device (Option String)) (p f).state).state = (p f).state
    rw [if_neg (not_not.2 hok)]
    rfl
  · change ((if (p f).value ≠ FTFx_OK then pure (some (text (p f).value)) else pure none :
      Program Device (Option String)) (p f).state).value = none at h
    rw [if_pos hok] at h
    cases h

/-- Data that has been programmed without an error. -/
theorem handleDataRecord_apply (record : Record) (htype : record.type = 0x33)
    (h : (handleDataRecord hw (writeAddress (recordBuffer record.bytes stack))
      (dataSize (BitVec.ofNat 8 record.bytes.length))
      (fun i => recordBuffer record.bytes stack (4 + i)) f).value = none) :
    (handleDataRecord hw (writeAddress (recordBuffer record.bytes stack))
      (dataSize (BitVec.ofNat 8 record.bytes.length))
      (fun i => recordBuffer record.bytes stack (4 + i)) f).state.memory =
        record.apply f.memory := by
  unfold handleDataRecord at h ⊢
  by_cases hrange : LCM_DATA_STARTING_BLOCK ≤ (writeAddress (recordBuffer record.bytes stack)).toNat
  · rw [if_pos hrange] at h
    exact absurd h (Option.some_ne_none _)
  rw [if_neg hrange] at h ⊢
  obtain ⟨hok, hstate⟩ := value_of_test h
  rw [hstate]
  obtain ⟨hphrases, hmemory⟩ := flashProgramPhrase_ok _ _ _ _ _ hok
  have hsize := dataSize_of_phrases record.length_lt hphrases
  have hbuffer : ∀ i < record.bytes.length,
      recordBuffer record.bytes stack i = recordBuffer record.bytes (fun _ => 0) i :=
    fun i hi => recordBuffer_congr hi
  have haddress : writeAddress (recordBuffer record.bytes stack) =
      writeAddress (recordBuffer record.bytes fun _ => 0) := by
    unfold writeAddress
    rw [hbuffer 0 (by omega), hbuffer 1 (by omega), hbuffer 2 (by omega), hbuffer 3 (by omega)]
  rw [hmemory, haddress, record.apply_data htype]
  exact program_congr fun i hi => hbuffer _ (by omega)

/-- **A record that is handled without an error has been applied.** -/
theorem handleS19RecordString_apply (record : Record)
    (h : (handleS19RecordString hw ram record.type (recordBuffer record.bytes stack)
      (BitVec.ofNat 8 record.bytes.length) f).value = none) :
    AgreeInArea (record.apply f.memory)
      (handleS19RecordString hw ram record.type (recordBuffer record.bytes stack)
        (BitVec.ofNat 8 record.bytes.length) f).state.memory := by
  generalize htype : record.type = type at h ⊢
  unfold handleS19RecordString at h ⊢
  split at h
  case h_1 =>
    -- the header
    obtain ⟨hok, hstate⟩ := value_of_test h
    rw [hstate, flashEraseSector_ok _ _ _ _ hok, record.apply_header htype]
    exact .refl _
  case h_4 =>
    -- data
    rw [← handleDataRecord_apply record htype h]
    exact .refl _
  case h_6 =>
    -- the end record
    obtain ⟨hok, hstate⟩ := value_of_test h
    rw [hstate, record.apply_end htype]
    exact .of_agreeOutside ((saveSystemPropertiesToFlash_agree hw f.memory ram) f (.refl _)).1
      (.inr (by decide))
  all_goals cases h

/-! ### A whole download -/

/-- What is left in the flash by the records that have been handled. -/
def Download.image (d : Download) (before : Memory) : Image := ⟨before, d.records, d.sha256Error⟩

/-- **The area holds what has been downloaded so far**, unless a record could not be handled. -/
structure Download.Faithful (before : Memory) (d : Download) (f : Device) : Prop where
  /-- All records have been applied. -/
  written : d.result = none ∨ d.result = some .downloaded →
    AgreeInArea (d.image before).memory f.memory
  /-- The last record is the end record. -/
  ended : d.result = some .downloaded → ∃ record ∈ d.records.getLast?, record.type = 0x37
  /-- The hash is computed without an error. -/
  hash : d.sha256Error = 0

variable {before : Memory} {d : Download}

theorem Download.Faithful.start (stack : ℕ → Byte) (f : Device) :
    (Download.start stack).Faithful f.memory f :=
  ⟨fun _ => .refl _, (nomatch ·), rfl⟩

/-- A finished download has left a complete image. -/
theorem Download.Faithful.complete (h : d.Faithful before f)
    (hresult : d.result = some .downloaded) :
    (d.image before).Complete f.memory :=
  ⟨h.written (.inr hresult), h.ended hresult, h.hash⟩

theorem Download.Faithful.agree {f' : Device} (h : d.Faithful before f)
    (hagree : AgreeInArea f.memory f'.memory) : d.Faithful before f' :=
  ⟨fun hresult => (h.written hresult).trans hagree, h.ended, h.hash⟩

/-- One more record has been applied. -/
theorem Image.memory_concat (before : Memory) (records : List Record) (record : Record)
    (sha256Error sha256Error' : ℤ) :
    (Image.mk before (records ++ [record]) sha256Error').memory =
      record.apply (Image.mk before records sha256Error).memory := by
  rw [Image.memory, List.foldl_append]
  rfl

/-- A download that has stopped on an error says nothing about the area. -/
theorem Download.Faithful.of_error {error : Return} (hresult : d.result = some error)
    (herror : error ≠ .downloaded) (hhash : d.sha256Error = 0) : d.Faithful before f := by
  refine ⟨?_, fun h => ?_, hhash⟩
  · rintro (h | h)
    · cases hresult.symm.trans h
    · exact absurd (Option.some.inj (hresult.symm.trans h)) herror
  · exact absurd (Option.some.inj (hresult.symm.trans h)) herror

/-- One more record is handled without an error. -/
theorem Download.Faithful.handled (h : d.Faithful before f) (hresult : d.result = none)
    (record : Record)
    (hvalue : (handleS19RecordString hw ram record.type (recordBuffer record.bytes stack)
      (BitVec.ofNat 8 record.bytes.length) f).value = none) (sha256Error : ℤ) :
    AgreeInArea (Image.mk before (d.records ++ [record]) sha256Error).memory
      (handleS19RecordString hw ram record.type (recordBuffer record.bytes stack)
        (BitVec.ofNat 8 record.bytes.length) f).state.memory := by
  rw [Image.memory_concat before d.records record d.sha256Error]
  exact ((h.written (.inl hresult)).apply record).trans (handleS19RecordString_apply record hvalue)

/-- Handling the records that are complete. -/
theorem parseRecords_faithful (d : Download) (payload : List Byte) (f : Device)
    (h : d.Faithful before f) (hresult : d.result = none) :
    (parseRecords hw ram .ok d payload f).1.Faithful before
      (parseRecords hw ram .ok d payload f).2 := by
  fun_induction parseRecords hw ram .ok d payload f with
  | case1 => exact ⟨h.written, h.ended, h.hash⟩
  | case2 => exact .of_error rfl (by decide) h.hash
  | case3 => exact .of_error rfl (fun h => by cases h) h.hash
  | case4 d payload f c payloadStart _ _ record _ buffer outcome d' hvalue d'' hlast code =>
    -- the end record
    refine ⟨fun _ => h.handled hresult record hvalue _, fun _ => ⟨record, ?_, hlast⟩, ?_⟩
    · exact List.getLast?_concat ..
    · exact if_pos h.hash
  | case5 d payload f c payloadStart _ _ record _ buffer outcome d' hvalue d'' hlast ih =>
    refine ih ⟨fun _ => h.handled hresult record hvalue _, fun hdone => ?_, h.hash⟩ hresult
    cases hresult.symm.trans hdone
  | case6 => exact ⟨h.written, h.ended, h.hash⟩

/-- **Receiving a chunk keeps what is known about the area.** -/
theorem receive_faithful (received : List Byte) (h : d.Faithful before f)
    (hresult : d.result = none) :
    (receive hw ram .ok d received f).1.Faithful before (receive hw ram .ok d received f).2 := by
  unfold receive
  dsimp only
  split_ifs with hfits hfound hok htimeout
  · exact parseRecords_faithful _ _ _ ⟨h.written, h.ended, rfl⟩ hresult
  · exact parseRecords_faithful _ _ _ ⟨h.written, h.ended, h.hash⟩ hresult
  · split
    · exact parseRecords_faithful _ _ _ ⟨h.written, h.ended, rfl⟩ hresult
    · exact ⟨h.written, h.ended, h.hash⟩
  · split
    · exact parseRecords_faithful _ _ _ ⟨h.written, h.ended, rfl⟩ hresult
    · exact ⟨h.written, h.ended, h.hash⟩
  · exact .of_error rfl (by decide) h.hash
  · exact ⟨h.written, h.ended, h.hash⟩

end Firmware

end Lcm
