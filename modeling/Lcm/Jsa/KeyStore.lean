import Lcm.Fbk.Atomicity
import Lcm.Jsa.Sockets
import Lcm.Run.Basic
import Mathlib.Data.List.GetD

/-!
# The user key in flash

The user key is kept in the bank that also has the refresh token, the primary key and the plant id,
with a checksum that tells whether it is set.  Writing it and clearing it both rewrite the bank, and
neither looks at what the flash returns.

## Main definitions

* `storedKey`, `userKeyIsSet` : what is read of the bank that is active.
* `writeUserKeyToFlash`, `clearUserKeyInFlash` : the functions of the source.
* `machine` : a history of writes, clears and restarts.
* `Kept` : the last key is stored, and the rest of the bank is what it was.

## Main results

* `write_spec` : a write whose commands succeed replaces the key and nothing else, and is found
  after a restart.
* `kept_run` : the key store over a history without errors.
-/

namespace Lcm

namespace Jsa

namespace KeyStore

open Flash Fbk

/-! ### The functions -/

/-- `LCM_DATA_JSON_SOCKET_USER_KEY_OFFSET`, behind the refresh token, the primary key and the plant
id. -/
abbrev userKeyOffset : ℕ := 0 + 1536 + 48 + 37

/-- `sizeof(json_socket_key)` -/
abbrev sizeofJsonSocketKey : ℕ := 18

/-- The flash, and `eliot_fbk`. -/
structure State where
  /-- The flash. -/
  device : Device
  /-- `eliot_fbk` -/
  eliotFbk : Context

/-- A byte of the data. -/
def State.byte (s : State) (i : ℕ) : Byte := contents s.device.memory s.eliotFbk i

/-- The key at `FBK_Address(&eliot_fbk, LCM_DATA_JSON_SOCKET_USER_KEY_OFFSET)`. -/
def storedKey (s : State) : JsonSocketKey where
  content i := s.byte (userKeyOffset + i)
  checksum := wordOfBytes (s.byte (userKeyOffset + 17)) (s.byte (userKeyOffset + 16))

/-- `JSA_UserKeyIsSet` -/
def userKeyIsSet (s : State) : Bool := (storedKey s).checksum = (storedKey s).sum

/-- The bytes of a key. -/
def keyBytes (key : JsonSocketKey) : List Byte :=
  List.ofFn key.content ++ [lowByteOfWord key.checksum, highByteOfWord key.checksum]

/-- `FBK_WriteFlash` of the region of the key.  What it returns is not looked at. -/
def writeRegion (hw : Hardware) (bytes : List Byte) (eliotFbk : Context) :
    Program Device Context := do
  let (_, eliotFbk) ← fbkWriteFlash hw eliotFbk (ramSource bytes)
    (BitVec.ofNat 32 userKeyOffset) (BitVec.ofNat 32 sizeofJsonSocketKey)
  pure eliotFbk

/-- `JSA_WriteUserKeyToFlash` -/
def writeUserKeyToFlash (hw : Hardware) (new : Block) : Context → Program Device Context :=
  writeRegion hw (keyBytes ⟨new, JsonSocketKey.sum ⟨new, 0⟩⟩)

/-- `JSA_ClearUserKeyInFlash` -/
def clearUserKeyInFlash (hw : Hardware) : Context → Program Device Context :=
  writeRegion hw (List.replicate sizeofJsonSocketKey 0)

/-! ### Histories -/

/-- What happens to the key. -/
inductive Event
  /-- A key is written. -/
  | write (new : Block)
  /-- The key is cleared. -/
  | clear
  /-- The controller restarts. -/
  | reboot

/-- Run a write. -/
def State.perform (s : State) (p : Context → Program Device Context) : State :=
  ⟨(p s.eliotFbk s.device).state, (p s.eliotFbk s.device).value⟩

/-- A restart: `FBK_Init` selects the bank. -/
def boot (device : Device) (eliotFbk : Context) : State :=
  ⟨device, fbkInit device.memory eliotFbk⟩

/-- A history of the key. -/
def machine (hw : Hardware) : Machine State Event where
  init s := ∃ device eliotFbk, s = boot device eliotFbk
  step s
    | .write new => some (s.perform (writeUserKeyToFlash hw new))
    | .clear => some (s.perform (clearUserKeyInFlash hw))
    | .reboot => some (boot s.device s.eliotFbk)

/-- No flash command of an event returns an error. -/
def NoError (hw : Hardware) (s : State) : Event → Prop
  | .write _ | .clear => hw.Ok s.device.commands 513
  | .reboot => True

/-- The key that is set, or none, as far as anything has happened to it. -/
def lastKey (last : Option (Option Block)) : Event → Option (Option Block)
  | .write new => some (some new)
  | .clear => some none
  | .reboot => last

/-- The data outside the region of the key. -/
def Elsewhere (i : ℕ) : Prop :=
  i < dataSize ∧ (i < userKeyOffset ∨ userKeyOffset + sizeofJsonSocketKey ≤ i)

/-- What the region of the key holds. -/
def Holds (s₀ s : State) : Option (Option Block) → Prop
  | none => ∀ i < dataSize, s.byte i = s₀.byte i
  | some none => userKeyIsSet s = false
  | some (some key) => userKeyIsSet s = true ∧ (storedKey s).content = key

/-- **The last key is stored, and the rest of the bank is what it was**, also after a restart. -/
structure Kept (s₀ : State) (last : Option (Option Block)) (s : State) : Prop where
  /-- The key. -/
  key : Holds s₀ s last
  /-- Everything else in the bank. -/
  rest : ∀ i, Elsewhere i → s.byte i = s₀.byte i
  /-- A restart changes nothing. -/
  rebooted : boot s.device s.eliotFbk = s

/-! ### A write -/

variable {hw : Hardware} {s s₀ : State} {bytes : List Byte}

theorem perform_writeRegion : s.perform (writeRegion hw bytes) =
    ⟨(fbkWriteFlash hw s.eliotFbk (ramSource bytes) (BitVec.ofNat 32 userKeyOffset)
        (BitVec.ofNat 32 sizeofJsonSocketKey) s.device).state,
      (fbkWriteFlash hw s.eliotFbk (ramSource bytes) (BitVec.ofNat 32 userKeyOffset)
        (BitVec.ofNat 32 sizeofJsonSocketKey) s.device).value.2⟩ := by
  rw [State.perform, writeRegion]
  generalize fbkWriteFlash hw s.eliotFbk (ramSource bytes) (BitVec.ofNat 32 userKeyOffset)
    (BitVec.ofNat 32 sizeofJsonSocketKey) = p
  rfl

/-- After a write, the data is read of the bank that was written. -/
theorem byte_perform (i : ℕ) : (s.perform (writeRegion hw bytes)).byte i =
    (fbkWriteFlash hw s.eliotFbk (ramSource bytes) (BitVec.ofNat 32 userKeyOffset)
      (BitVec.ofNat 32 sizeofJsonSocketKey) s.device).state.memory (newBlock s.eliotFbk + i) := by
  rw [perform_writeRegion, fbkWriteFlash_value (by decide), State.byte, contents, fbkAddress,
    Context.activate_activeBank, Context.activate_bankInfo]

/-- A write whose commands succeed leaves the bank written, and active. -/
theorem perform_of_ok (bytes : List Byte) (hok : hw.Ok s.device.commands 513) :
    s.perform (writeRegion hw bytes) =
      ⟨written s.device s.eliotFbk (ramSource bytes) (BitVec.ofNat 32 userKeyOffset)
          (BitVec.ofNat 32 sizeofJsonSocketKey) 512,
        s.eliotFbk.activate (!s.eliotFbk.activeBank)⟩ := by
  have haccept : (BitVec.ofNat 32 userKeyOffset + BitVec.ofNat 32 sizeofJsonSocketKey).toNat <
      FBK_BANK_SIZE := by decide
  have hsource : SourceOutside s.device.memory s.eliotFbk (ramSource bytes)
      (BitVec.ofNat 32 sizeofJsonSocketKey) := fun _ _ _ _ => rfl
  obtain ⟨hwritten, -⟩ := fbkWriteFlash_ok hsource haccept hok
  rw [perform_writeRegion, hwritten, fbkWriteFlash_value haccept]

/-- The data of that bank has the bytes in the region of the key. -/
theorem byte_of_ok (bytes : List Byte) (hok : hw.Ok s.device.commands 513) {i : ℕ}
    (hi : i < dataSize) : (s.perform (writeRegion hw bytes)).byte i =
      if userKeyOffset ≤ i ∧ i < userKeyOffset + sizeofJsonSocketKey then
        bytes.getD (i - userKeyOffset) 0 else s.byte i := by
  rw [perform_of_ok bytes hok, State.byte, contents_written_all i hi, image_data (by decide) hi]
  rfl

/-- **A write whose commands succeed** replaces the key and nothing else, and is found after a
restart. -/
theorem write_spec (bytes : List Byte) (hok : hw.Ok s.device.commands 513) :
    (∀ i < sizeofJsonSocketKey,
        (s.perform (writeRegion hw bytes)).byte (userKeyOffset + i) = bytes.getD i 0) ∧
      (∀ i, Elsewhere i → (s.perform (writeRegion hw bytes)).byte i = s.byte i) ∧
      boot (s.perform (writeRegion hw bytes)).device (s.perform (writeRegion hw bytes)).eliotFbk =
        s.perform (writeRegion hw bytes) := by
  refine ⟨fun i hi => ?_, fun i hi => ?_, ?_⟩
  · have hi : i < 18 := hi
    have hinside : userKeyOffset + i < dataSize := show 1621 + i < 4088 by omega
    rw [byte_of_ok bytes hok hinside, if_pos ⟨Nat.le_add_right _ _, Nat.add_lt_add_left hi _⟩,
      Nat.add_sub_cancel_left]
  · obtain ⟨hdata, houtside⟩ := hi
    rw [byte_of_ok bytes hok hdata, if_neg (by omega)]
  · rw [perform_of_ok bytes hok, boot, fbkInit_activate, fbkInit_written_all]

/-- The key that is read is made of the bytes. -/
theorem storedKey_congr {key : JsonSocketKey}
    (h : ∀ i < sizeofJsonSocketKey, s.byte (userKeyOffset + i) = (keyBytes key).getD i 0) :
    storedKey s = key := by
  have hcontent : (storedKey s).content = key.content := by
    funext i
    have hlt : (i : ℕ) < 18 := by omega
    have hlength : (i : ℕ) < (List.ofFn key.content).length := by
      rw [List.length_ofFn]
      exact i.isLt
    refine (h i hlt).trans ?_
    rw [keyBytes, List.getD_append _ _ _ _ hlength, List.getD_eq_getElem _ _ hlength,
      List.getElem_ofFn]
  have hchecksum : (storedKey s).checksum = key.checksum := by
    rw [storedKey, h 17 (by decide), h 16 (by decide)]
    simp [keyBytes]
  cases key
  cases hkey : storedKey s
  simp_all

/-- A key that was written is set. -/
theorem userKeyIsSet_of_write (new : Block)
    (h : storedKey s = ⟨new, JsonSocketKey.sum ⟨new, 0⟩⟩) : userKeyIsSet s = true := by
  rw [userKeyIsSet, h]
  exact decide_eq_true rfl

/-- A key that was written is stored. -/
theorem storedKey_writeUserKeyToFlash (new : Block) (hok : hw.Ok s.device.commands 513) :
    storedKey (s.perform (writeUserKeyToFlash hw new)) = ⟨new, JsonSocketKey.sum ⟨new, 0⟩⟩ :=
  storedKey_congr (write_spec _ hok).1

/-- A write makes the other bank the active one, whatever the flash returns. -/
theorem activeBank_writeUserKeyToFlash (new : Block) :
    (s.perform (writeUserKeyToFlash hw new)).eliotFbk.activeBank = !s.eliotFbk.activeBank := by
  rw [writeUserKeyToFlash, perform_writeRegion, fbkWriteFlash_value (by decide),
    Context.activate_activeBank]

/-- Zeros are no key. -/
theorem userKeyIsSet_of_clear (h : storedKey s = ⟨fun _ => 0, 0⟩) : userKeyIsSet s = false := by
  rw [userKeyIsSet, h]
  decide

theorem keyBytes_zero : keyBytes ⟨fun _ => 0, 0⟩ = List.replicate sizeofJsonSocketKey 0 := by
  decide

/-- A restart does not change what is read, if the bank that is selected is the active one. -/
theorem Kept.reboot {last : Option (Option Block)} (h : Kept s₀ last s) :
    Kept s₀ last (boot s.device s.eliotFbk) := by
  rw [h.rebooted]
  exact h

/-- A write keeps the rest of the bank. -/
theorem Kept.write {last last' : Option (Option Block)} (h : Kept s₀ last s)
    (hok : hw.Ok s.device.commands 513)
    (hkey : (∀ i < sizeofJsonSocketKey,
        (s.perform (writeRegion hw bytes)).byte (userKeyOffset + i) = bytes.getD i 0) →
      Holds s₀ (s.perform (writeRegion hw bytes)) last') :
    Kept s₀ last' (s.perform (writeRegion hw bytes)) := by
  obtain ⟨hregion, hrest, hrebooted⟩ := write_spec bytes hok
  exact ⟨hkey hregion, fun i hi => (hrest i hi).trans (h.rest i hi), hrebooted⟩

/-- **An event without errors** does to the key what it says. -/
theorem Kept.step {last : Option (Option Block)} {e : Event} {s' : State} (h : Kept s₀ last s)
    (hok : NoError hw s e) (hs : (machine hw).step s e = some s') :
    Kept s₀ (lastKey last e) s' := by
  cases e with
  | write new =>
    obtain rfl : s.perform (writeUserKeyToFlash hw new) = s' := Option.some.inj hs
    have hstored := storedKey_writeUserKeyToFlash new hok
    rw [writeUserKeyToFlash] at hstored ⊢
    exact h.write hok fun _ => ⟨userKeyIsSet_of_write new hstored, by rw [hstored]⟩
  | clear =>
    obtain rfl : s.perform (clearUserKeyInFlash hw) = s' := Option.some.inj hs
    rw [clearUserKeyInFlash]
    refine h.write hok fun hregion => ?_
    rw [← keyBytes_zero] at hregion
    exact userKeyIsSet_of_clear (storedKey_congr hregion)
  | reboot =>
    cases hs
    exact h.reboot

theorem boot_boot (device : Device) (eliotFbk : Context) :
    boot device (boot device eliotFbk).eliotFbk = boot device eliotFbk := by
  obtain ⟨b, hb⟩ := fbkInit_eq_activate device.memory eliotFbk
  rw [boot, boot, hb, fbkInit_activate, hb]

theorem Kept.run {last : Option (Option Block)} {es : List Event} {s' : State}
    (h : Kept s₀ last s) (hok : (machine hw).AllSteps (NoError hw) s es)
    (hrun : (machine hw).run s es = some s') : Kept s₀ (es.foldl lastKey last) s' := by
  induction es generalizing s last with
  | nil =>
    cases hrun
    exact h
  | cons e es ih =>
    obtain ⟨t, ht, hrun⟩ := Option.bind_eq_some_iff.1 hrun
    obtain ⟨hfirst, hrest⟩ := hok t ht
    exact ih (h.step hfirst ht) hrest hrun

/-- **The user key store**: from a start with any flash, over every history of writes, clears and
restarts in which no flash command returns an error, the last key that was written is set and
stored, a key that was cleared is not set, and everything else in the bank is what it was at first,
also after a restart. -/
theorem kept_run (hw : Hardware) (device : Device) (eliotFbk : Context) (es : List Event)
    (s' : State) (hok : (machine hw).AllSteps (NoError hw) (boot device eliotFbk) es)
    (hrun : (machine hw).run (boot device eliotFbk) es = some s') :
    Kept (boot device eliotFbk) (es.foldl lastKey none) s' :=
  Kept.run ⟨fun _ _ => rfl, fun _ _ => rfl, boot_boot device eliotFbk⟩ hok hrun

theorem kept_run_write : ∃ s',
    (machine ⟨fun _ => FTFx_OK, fun _ _ => 0⟩).run (boot exampleDevice exampleContext)
        [.write fun _ => 1, .reboot] = some s' ∧
      Kept (boot exampleDevice exampleContext) (some (some fun _ => 1)) s' := by
  refine ⟨_, rfl, kept_run ⟨fun _ => FTFx_OK, fun _ _ => 0⟩ exampleDevice exampleContext
    [.write fun _ => 1, .reboot] _ ?_ rfl⟩
  exact fun _ _ => ⟨fun _ _ => rfl, fun _ _ => ⟨trivial, trivial⟩⟩

/-- The flash when its first command fails and leaves zeros. -/
def eraseFails : Hardware := ⟨fun k => if k = 0 then FTFx_ERR_RANGE else FTFx_OK, fun _ _ => 0⟩

/-- Where the erase fails and leaves zeros, nothing can be programmed. -/
theorem zero_of_eraseFails (device : Device) (eliotFbk : Context) (hfirst : device.commands = 0)
    (source : Source) (dst len : Dword) (hsource : SourceOutside device.memory eliotFbk source len)
    (haccept : (dst + len).toNat < FBK_BANK_SIZE) :
    ∀ p < FBK_BANK_SIZE, (fbkWriteFlash eraseFails eliotFbk source dst len device).state.memory
      (newBlock eliotFbk + p) = 0 := by
  have hhandles : Handles eraseFails device eliotFbk source dst len
      (fun _ f => ∀ p < FBK_BANK_SIZE, f.memory (newBlock eliotFbk + p) = 0) fun _ => True :=
    { erase := fun _ p hp => overwrite_inside ⟨by omega, Nat.add_lt_add_left hp _⟩
      phrase := fun k _ hfails => absurd (if_neg (by omega)) hfails
      keep := fun b _ buffer =>
        (flashProgramPhrase_invariant eraseFails _ _ buffer
          (fun f a bytes _ _ hf p hp => by
            simp only [program, hf p hp]
            split
            · exact BitVec.zero_and
            · rfl)
          fun f a _ _ hf p hp => by
            simp only [Device.damaged, overwrite]
            split
            · rfl
            · exact hf p hp).conseq (fun _ h => h) (fun _ _ h => h) fun _ _ => trivial
      written := fun _ _ => trivial
      error := fun _ _ _ => trivial }
  obtain ⟨⟨-, hgood | hzero⟩, -⟩ := fbkWriteFlash_spec hhandles hsource haccept device rfl
  · have hcode := hgood.1 0 (by decide)
    rw [hfirst] at hcode
    exact absurd hcode (by decide)
  · exact hzero

/-- A key that was written is not set, and its functions tell nobody. -/
theorem not_userKeyIsSet_of_eraseFails : ∃ s',
    (machine eraseFails).run (boot exampleDevice exampleContext) [.write fun _ => 1] = some s' ∧
      userKeyIsSet s' = false := by
  refine ⟨_, rfl, userKeyIsSet_of_clear (storedKey_congr fun i hi => ?_)⟩
  have hi : i < 18 := hi
  have hinside : userKeyOffset + i < FBK_BANK_SIZE := show 1621 + i < 4096 by omega
  have hzero := zero_of_eraseFails (boot exampleDevice exampleContext).device
    (boot exampleDevice exampleContext).eliotFbk rfl
    (ramSource (keyBytes ⟨fun _ => 1, JsonSocketKey.sum ⟨fun _ => 1, 0⟩⟩))
    (BitVec.ofNat 32 userKeyOffset) (BitVec.ofNat 32 sizeofJsonSocketKey)
    (fun _ _ _ _ => rfl) (by decide) _ hinside
  rw [keyBytes_zero, List.getD_replicate _ hi, writeUserKeyToFlash, byte_perform]
  exact hzero

end KeyStore

end Jsa

end Lcm
