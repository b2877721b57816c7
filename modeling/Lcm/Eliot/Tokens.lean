import Lcm.Formatted
import Lcm.Jsa.KeyStore
import Lcm.Jsr.Reader

/-!
# Storing tokens

The user token is copied to an array of `ELIOT_TOKEN_SIZE` bytes in RAM, the refresh token to a
region of as many bytes in the bank that also has the primary key, the plant id and the user key.
What is written to flash is always the whole region, however long the token is.

## Main definitions

* `setUserToken`, `setRefreshToken`, `storeReceived` : the places where a token is stored.
* `Fbk.sourceRead`, `strncpyRead` : how much of the token is read.
* `Stores` : a token is stored with its terminator, and nothing behind it is read.

## Main results

* `Fbk.sourceRead_eq` : a write to flash reads all that it writes.
* `setRefreshToken_byte` : what is in the bank afterwards.
* `tokenStorage_iff` : the tokens that are stored as they should be.
-/

namespace Lcm

namespace Fbk

open Flash

variable {hw : Hardware} {ctx : Context} {source : Source} {dst len : Dword}

/-- How many bytes of `src` an accepted write reads: where its pointer is at the end. -/
def sourceRead (hw : Hardware) (ctx : Context) (source : Source) (dst len : Dword) (f : Device) :
    ℕ :=
  if (dst + len).toNat ≥ FBK_BANK_SIZE then 0
  else
    let oldBlock := ctx.bankInfo ctx.activeBank
    let newBlock := ctx.bankInfo (!ctx.activeBank)
    let f := (flashEraseSector hw newBlock FBK_BANK_SIZE f).state
    (Program.iterate (writeBlock hw ctx source dst len) (FBK_BANK_SIZE / FBK_BLOCK_SIZE)
      ⟨0, 0, oldBlock, newBlock⟩ f).value.src

/-- The variables after some blocks. -/
def progressAt (ctx : Context) (dst len : Dword) (b : ℕ) : Progress :=
  ⟨FBK_BLOCK_SIZE * b, taken dst len (FBK_BLOCK_SIZE * b),
    ctx.bankInfo ctx.activeBank + FBK_BLOCK_SIZE * b,
    ctx.bankInfo (!ctx.activeBank) + FBK_BLOCK_SIZE * b⟩

/-- A block moves the pointers on, whatever the flash returns. -/
theorem writeBlock_value (b : ℕ) (f : Device) :
    (writeBlock hw ctx source dst len (progressAt ctx dst len b) f).value =
      progressAt ctx dst len (b + 1) := by
  have hvalue : (writeBlock hw ctx source dst len (progressAt ctx dst len b) f).value =
      let c := (List.range FBK_BLOCK_SIZE).foldl (copyByte f.memory source dst len
        (FBK_BLOCK_SIZE * b)) ⟨taken dst len (FBK_BLOCK_SIZE * b),
          ctx.bankInfo ctx.activeBank + FBK_BLOCK_SIZE * b, []⟩
      Progress.mk (FBK_BLOCK_SIZE * b + FBK_BLOCK_SIZE) c.src c.oldBlock
        (ctx.bankInfo (!ctx.activeBank) + FBK_BLOCK_SIZE * b + FBK_BLOCK_SIZE) := rfl
  rw [hvalue, foldl_copyByte]
  rfl

theorem iterate_writeBlock_value (n b : ℕ) (f : Device) :
    (Program.iterate (writeBlock hw ctx source dst len) n (progressAt ctx dst len b) f).value =
      progressAt ctx dst len (b + n) := by
  induction n generalizing b f with
  | zero => rfl
  | succ n ih =>
    rw [Program.iterate]
    refine Eq.trans (b := (Program.iterate (writeBlock hw ctx source dst len) n
      (writeBlock hw ctx source dst len (progressAt ctx dst len b) f).value
      (writeBlock hw ctx source dst len (progressAt ctx dst len b) f).state).value) rfl ?_
    rw [writeBlock_value, ih, Nat.add_assoc, Nat.add_comm 1 n]

/-- **A write reads all that it writes**, whatever the flash returns. -/
theorem sourceRead_eq (h : dst.toNat + len.toNat < FBK_BANK_SIZE) (f : Device) :
    sourceRead hw ctx source dst len f = len.toNat := by
  have hsum : (dst + len).toNat = dst.toNat + len.toNat := by
    rw [BitVec.toNat_add, Nat.mod_eq_of_lt (Nat.lt_trans h (by decide))]
  have hstart : (⟨0, 0, ctx.bankInfo ctx.activeBank, ctx.bankInfo (!ctx.activeBank)⟩ : Progress) =
      progressAt ctx dst len 0 := by
    rw [progressAt, taken, Nat.mul_zero, Nat.zero_min, Nat.zero_sub]
    rfl
  have htaken : taken dst len (FBK_BLOCK_SIZE * (0 + FBK_BANK_SIZE / FBK_BLOCK_SIZE)) =
      len.toNat := by
    have h : dst.toNat + len.toNat < 4096 := h
    rw [taken, hsum]
    show min 4096 _ - _ = _
    omega
  rw [sourceRead, hsum, if_neg (Nat.not_le.2 h)]
  dsimp only
  rw [hstart, iterate_writeBlock_value]
  exact htaken

end Fbk

namespace Eliot

namespace Tokens

open Flash Fbk SanitizerLoop

/-! ### The places where tokens are stored -/

/-- `ELIOT_TOKEN_SIZE` -/
abbrev eliotTokenSize : ℕ := 1536

/-- `LCM_DATA_REFRESH_TOKEN_OFFSET` -/
abbrev refreshTokenOffset : ℕ := 0

/-- What the functions read and change. -/
structure Login where
  /-- The flash, and `eliot_fbk`. -/
  store : Jsa.KeyStore.State
  /-- `eliot_user_token` -/
  userToken : ℕ → Byte
  /-- `eliot_lcm_module_id` -/
  lcmModuleId : ℕ → Byte
  /-- `eliot_lcm_plant_id` -/
  lcmPlantId : ℕ → Byte
  /-- `eliot_event_topic` -/
  eventTopic : ℕ → Byte
  /-- `eliot_refresh_token`, an address -/
  refreshToken : ℕ
  /-- `eliot_user_token_modified_time` -/
  userTokenModifiedTime : Dword
  /-- `eliot_refresh_token_modified_time` -/
  refreshTokenModifiedTime : Dword
  /-- `eliot_mqtt_event_last` -/
  mqttEventLast : Dword

/-- A string is made empty. -/
def clear (string : ℕ → Byte) : ℕ → Byte := Function.update string 0 0

/-- The branch `EliotUserToken` of `HandleIndividualSystemProperty`, with `setFlag`; `source` is
what `json_string_value` points to. -/
def setUserToken (now : Dword) (source : ℕ → Byte) (a : Login) : Login :=
  { a with
    lcmModuleId := clear a.lcmModuleId
    lcmPlantId := clear a.lcmPlantId
    userToken := Jsr.strncpy a.userToken source (BitVec.ofNat 32 eliotTokenSize)
    userTokenModifiedTime := now }

/-- `FBK_WriteFlash` to the region of the refresh token.  What it returns is not looked at. -/
def writeRefreshToken (hw : Hardware) (source : ℕ → Byte) (len : Dword) (eliotFbk : Context) :
    Program Device Context := do
  let (_, eliotFbk) ← fbkWriteFlash hw eliotFbk (fun _ => source)
    (BitVec.ofNat 32 refreshTokenOffset) len
  pure eliotFbk

/-- A refresh token is written, and `eliot_refresh_token` points to it. -/
def Login.write (a : Login) (hw : Hardware) (source : ℕ → Byte) (len : Dword) : Login :=
  let store := a.store.perform (writeRefreshToken hw source len)
  { a with store := store, refreshToken := fbkAddress store.eliotFbk refreshTokenOffset }

/-- `Eliot_LogOut` -/
def logOut (hw : Hardware) (a : Login) : Login :=
  let cleared := { a with
    lcmModuleId := clear a.lcmModuleId
    userToken := clear a.userToken
    eventTopic := clear a.eventTopic }
  let written :=
    if a.store.device.memory a.refreshToken ≠ 0 then cleared.write hw (fun _ => 0) 1
    else { cleared with refreshToken := fbkAddress a.store.eliotFbk refreshTokenOffset }
  { written with mqttEventLast := 0 }

/-- An empty refresh token logs out. -/
def logOutIfEmpty (hw : Hardware) (a : Login) : Login :=
  if a.store.device.memory a.refreshToken = 0 then logOut hw a else a

/-- The time at which the refresh token has been written. -/
def Login.modified (a : Login) (now : Dword) : Login := { a with refreshTokenModifiedTime := now }

/-- The branch `EliotRefreshToken` of `HandleIndividualSystemProperty`, with `setFlag`; `source` is
what `json_string_value` points to. -/
def setRefreshToken (hw : Hardware) (now : Dword) (source : ℕ → Byte) (a : Login) : Login :=
  logOutIfEmpty hw ((a.write hw source (BitVec.ofNat 32 eliotTokenSize)).modified now)

/-- `_strnlen` -/
def strnlen (s : ℕ → Byte) (n : ℕ) : ℕ := (takeChars n s).length

/-- The length of a refresh token is right. -/
def Accepts (block : ℕ → Byte) : Prop :=
  block 0 ≠ 0 ∧ eliotTokenSize >>> 2 < strnlen block eliotTokenSize ∧
    strnlen block eliotTokenSize < eliotTokenSize - 2

instance (block : ℕ → Byte) : Decidable (Accepts block) := inferInstanceAs (Decidable (_ ∧ _))

/-- The end of `Eliot_UpdateTokens`: the refresh token that has been received, in the block that was
allocated for it, is stored. -/
def storeReceived (hw : Hardware) (now : Dword) (newRefreshToken : Option (ℕ → Byte)) (a : Login) :
    Login :=
  match newRefreshToken with
  | none => a
  | some block =>
    if Accepts block then (a.write hw block (BitVec.ofNat 32 eliotTokenSize)).modified now
    else a

/-! ### What should be stored -/

/-- How many bytes `strncpy` reads. -/
def strncpyRead (source : ℕ → Byte) (n : ℕ) : ℕ := min n (strnlen source n + 1)

/-- How many bytes of a refresh token are read. -/
def refreshTokenRead (hw : Hardware) (source : ℕ → Byte) (a : Login) : ℕ :=
  sourceRead hw a.store.eliotFbk (fun _ => source) (BitVec.ofNat 32 refreshTokenOffset)
    (BitVec.ofNat 32 eliotTokenSize) a.store.device

/-- **A token is stored**: nothing behind its terminator has been read, it is terminated, and if it
fits it is what was given. -/
structure Stores (token : List Byte) (read : ℕ) (region : ℕ → Byte) : Prop where
  /-- What is read. -/
  reads : read ≤ token.length + 1
  /-- The terminator. -/
  terminated : ∃ i < eliotTokenSize, region i = 0
  /-- The token. -/
  holds : token.length < eliotTokenSize → HoldsString region token

/-- The bank has the same data behind the refresh token. -/
def SameElsewhere (a a' : Login) : Prop :=
  ∀ i, eliotTokenSize ≤ i → i < dataSize → a'.store.byte i = a.store.byte i

/-- A user token is stored, wherever it comes from, whatever was stored before. -/
def StoresUserToken (token : List Byte) : Prop :=
  ∀ (now : Dword) (source : ℕ → Byte) (a : Login), HoldsString source token →
    Stores token (strncpyRead source eliotTokenSize) (setUserToken now source a).userToken ∧
      (setUserToken now source a).store = a.store

/-- A refresh token is stored, if no flash command returns an error. -/
def StoresRefreshToken (token : List Byte) : Prop :=
  ∀ (hw : Hardware) (now : Dword) (source : ℕ → Byte) (a : Login), HoldsString source token →
    hw.Ok a.store.device.commands 513 →
    Stores token (refreshTokenRead hw source a) (setRefreshToken hw now source a).store.byte ∧
      SameElsewhere a (setRefreshToken hw now source a)

/-- A refresh token that has been received is stored, if its length is right. -/
def StoresReceived (block : ℕ → Byte) : Prop :=
  ∀ (hw : Hardware) (now : Dword) (a : Login), Accepts block →
    hw.Ok a.store.device.commands 513 →
    Stores (takeChars eliotTokenSize block) (refreshTokenRead hw block a)
        (storeReceived hw now (some block) a).store.byte ∧
      SameElsewhere a (storeReceived hw now (some block) a)

/-! ### What is in the bank -/

variable {hw : Hardware} {now : Dword} {source block : ℕ → Byte} {a : Login} {token : List Byte}

/-- A login with its flash. -/
@[simp] theorem modified_store (a : Login) (now : Dword) : (a.modified now).store = a.store := rfl

theorem perform_writeRefreshToken (s : Jsa.KeyStore.State) (len : Dword) :
    s.perform (writeRefreshToken hw source len) =
      ⟨(fbkWriteFlash hw s.eliotFbk (fun _ => source) (BitVec.ofNat 32 refreshTokenOffset) len
          s.device).state,
        (fbkWriteFlash hw s.eliotFbk (fun _ => source) (BitVec.ofNat 32 refreshTokenOffset) len
          s.device).value.2⟩ := by
  rw [Jsa.KeyStore.State.perform, writeRefreshToken]
  generalize fbkWriteFlash hw s.eliotFbk (fun _ => source) (BitVec.ofNat 32 refreshTokenOffset)
    len = p
  rfl

/-- **What is in the bank** after a write whose commands succeed. -/
theorem write_byte (hok : hw.Ok a.store.device.commands 513) {i : ℕ} (hi : i < dataSize) :
    (a.write hw source (BitVec.ofNat 32 eliotTokenSize)).store.byte i =
      if i < eliotTokenSize then source i else a.store.byte i := by
  have haccept : (BitVec.ofNat 32 refreshTokenOffset + BitVec.ofNat 32 eliotTokenSize).toNat <
      FBK_BANK_SIZE := by decide
  have hsource : SourceOutside a.store.device.memory a.store.eliotFbk (fun _ => source)
      (BitVec.ofNat 32 eliotTokenSize) := fun _ _ _ _ => rfl
  obtain ⟨hwritten, -⟩ := fbkWriteFlash_ok hsource haccept hok
  rw [Login.write]
  dsimp only
  rw [perform_writeRefreshToken, hwritten, fbkWriteFlash_value haccept, Jsa.KeyStore.State.byte,
    contents_written_all i hi, image_data (by decide) hi, spliced]
  have hlen : (BitVec.ofNat 32 eliotTokenSize).toNat = eliotTokenSize := by decide
  have hdst : (BitVec.ofNat 32 refreshTokenOffset).toNat = 0 := by decide
  rw [hlen, hdst, Nat.zero_add, Nat.sub_zero]
  exact if_congr (and_iff_right (Nat.zero_le i)) rfl rfl

/-- The pointer is into the bank. -/
theorem write_refreshToken (now : Dword) (a : Login) (len : Dword) : ((a.write hw source len).modified now
    ).store.device.memory ((a.write hw source len).modified now).refreshToken =
      (a.write hw source len).store.byte 0 := rfl

theorem logOutIfEmpty_of_ne {a : Login} (h : a.store.device.memory a.refreshToken ≠ 0) :
    logOutIfEmpty hw a = a := if_neg h

/-- A token that is not empty does not log out. -/
theorem setRefreshToken_store (now : Dword) (hok : hw.Ok a.store.device.commands 513) (hne : source 0 ≠ 0) :
    (setRefreshToken hw now source a).store =
      (a.write hw source (BitVec.ofNat 32 eliotTokenSize)).store := by
  have hfirst : (a.write hw source (BitVec.ofNat 32 eliotTokenSize)).store.byte 0 ≠ 0 := by
    rw [write_byte hok (by decide), if_pos (by decide)]
    exact hne
  rw [← write_refreshToken now] at hfirst
  rw [setRefreshToken, logOutIfEmpty_of_ne hfirst, modified_store]

/-- How much is read. -/
theorem refreshTokenRead_eq : refreshTokenRead hw source a = eliotTokenSize :=
  sourceRead_eq (by decide) a.store.device

theorem write_sameElsewhere (hok : hw.Ok a.store.device.commands 513) :
    SameElsewhere a (a.write hw source (BitVec.ofNat 32 eliotTokenSize)) := by
  intro i hbehind hi
  rw [write_byte hok hi, if_neg (Nat.not_lt.2 hbehind)]

/-- A token that fits is in the bank. -/
theorem write_holds (hok : hw.Ok a.store.device.commands 513) (hs : HoldsString source token)
    (hfits : token.length < eliotTokenSize) :
    HoldsString (a.write hw source (BitVec.ofNat 32 eliotTokenSize)).store.byte token := by
  have hbyte (i : ℕ) (hi : i < eliotTokenSize) :
      (a.write hw source (BitVec.ofNat 32 eliotTokenSize)).store.byte i = source i := by
    rw [write_byte hok (Nat.lt_trans hi (by decide)), if_pos hi]
  refine ⟨hs.noNul, fun i hi => ?_, ?_⟩
  · rw [hbyte i (Nat.lt_trans hi hfits)]
    exact hs.chars i hi
  · rw [hbyte _ hfits]
    exact hs.nul

/-! ### What is in RAM -/

theorem strncpy_holds {dest : ℕ → Byte} {n : Dword} (hs : HoldsString source token)
    (hfits : token.length < n.toNat) : HoldsString (Jsr.strncpy dest source n) token := by
  refine ⟨hs.noNul, fun i hi => ?_, ?_⟩
  · rw [Jsr.strncpy, if_pos (Nat.lt_trans hi hfits), if_pos fun j hj => hs.ne_zero (by omega)]
    exact hs.chars i hi
  · rw [Jsr.strncpy, if_pos hfits]
    split
    · exact hs.nul
    · rfl

theorem strncpy_ne_zero {dest : ℕ → Byte} {n : Dword} (hs : HoldsString source token)
    (hlong : n.toNat ≤ token.length) {i : ℕ} (hi : i < n.toNat) :
    Jsr.strncpy dest source n i ≠ 0 := by
  rw [Jsr.strncpy, if_pos hi, if_pos fun j hj => hs.ne_zero (by omega)]
  exact hs.ne_zero (by omega)

/-- `strncpy` reads no more than the string. -/
theorem strncpyRead_le (hs : HoldsString source token) (n : ℕ) :
    strncpyRead source n ≤ token.length + 1 := by
  obtain hlt | hle := Nat.lt_or_ge n token.length
  · exact Nat.le_trans (Nat.min_le_left _ _) (by omega)
  · rw [strncpyRead, strnlen, takeChars_of_holdsString hs hle]
    exact Nat.min_le_right _ _

/-! ### The tokens that are stored -/

/-- Characters and a terminator. -/
theorem holdsString_getD (hnul : 0 ∉ token) : HoldsString (fun i => token.getD i 0) token :=
  ⟨hnul, fun _ hi => List.getD_eq_getElem _ _ hi, List.getD_eq_default _ _ (Nat.le_refl _)⟩

/-- A flash whose commands succeed. -/
def works : Hardware := ⟨fun _ => FTFx_OK, fun _ _ => 0⟩

/-- A login with nothing stored. -/
def loggedOut : Login where
  store := ⟨exampleDevice, exampleContext⟩
  userToken _ := 0
  lcmModuleId _ := 0
  lcmPlantId _ := 0
  eventTopic _ := 0
  refreshToken := 0
  userTokenModifiedTime := 0
  refreshTokenModifiedTime := 0
  mqttEventLast := 0

theorem works_ok : works.Ok loggedOut.store.device.commands 513 := fun _ _ => rfl

theorem storesUserToken_iff (hnul : 0 ∉ token) :
    StoresUserToken token ↔ token.length < eliotTokenSize := by
  constructor
  · intro h
    by_contra hlong
    obtain ⟨hstores, -⟩ := h 0 _ loggedOut (holdsString_getD hnul)
    obtain ⟨i, hi, hzero⟩ := hstores.terminated
    exact strncpy_ne_zero (n := BitVec.ofNat 32 eliotTokenSize) (holdsString_getD hnul)
      (Nat.le_of_not_lt hlong) hi hzero
  · intro hfits now source a hs
    have hholds : HoldsString (setUserToken now source a).userToken token := strncpy_holds hs hfits
    exact ⟨⟨strncpyRead_le hs _, ⟨token.length, hfits, hholds.nul⟩, fun _ => hholds⟩, rfl⟩

theorem ne_zero_of_holdsString (hs : HoldsString source token) (hlength : 1535 ≤ token.length) :
    source 0 ≠ 0 := hs.ne_zero (by omega)

theorem storesRefreshToken_iff (hnul : 0 ∉ token) :
    StoresRefreshToken token ↔ token.length = eliotTokenSize - 1 := by
  constructor
  · intro h
    have hs := holdsString_getD hnul
    obtain ⟨hstores, -⟩ := h works 0 _ loggedOut hs works_ok
    have hlength := hstores.reads
    rw [refreshTokenRead_eq] at hlength
    obtain ⟨i, hi, hzero⟩ := hstores.terminated
    have hne := ne_zero_of_holdsString hs (Nat.le_of_succ_le_succ hlength)
    rw [setRefreshToken_store 0 works_ok hne, write_byte works_ok (Nat.lt_trans hi (by decide)),
      if_pos hi] at hzero
    have hend : token.length ≤ i := by
      by_contra hlt
      exact hs.ne_zero (Nat.lt_of_not_le hlt) hzero
    omega
  · intro hlength hw now source a hs hok
    have hfits : token.length < eliotTokenSize := by
      rw [hlength]
      decide
    have hne := ne_zero_of_holdsString hs (Nat.le_of_eq hlength.symm)
    have hholds := write_holds hok hs hfits
    have helse : SameElsewhere a (a.write hw source (BitVec.ofNat 32 eliotTokenSize)) :=
      write_sameElsewhere hok
    rw [← setRefreshToken_store now hok hne] at hholds
    refine ⟨⟨?_, ⟨token.length, hfits, hholds.nul⟩, fun _ => hholds⟩, fun i hbehind hi => ?_⟩
    · rw [refreshTokenRead_eq, hlength]
      exact Nat.le_refl _
    · rw [setRefreshToken_store now hok hne]
      exact helse i hbehind hi

/-- A received token that is accepted is shorter than what is read. -/
theorem storesReceived_iff : StoresReceived block ↔ ¬ Accepts block := by
  constructor
  · intro h haccepts
    obtain ⟨hstores, -⟩ := h works 0 loggedOut haccepts works_ok
    have hread := hstores.reads
    rw [refreshTokenRead_eq] at hread
    have hshort : (takeChars eliotTokenSize block).length < eliotTokenSize - 2 := haccepts.2.2
    omega
  · intro hnot hw now a haccepts
    exact absurd haccepts hnot

/-- **A received token that is accepted** is stored in spite of that, and what is read is inside of
the block it was received in. -/
theorem storeReceived_spec (hok : hw.Ok a.store.device.commands 513) (h : Accepts block) :
    HoldsString (storeReceived hw now (some block) a).store.byte
        (takeChars eliotTokenSize block) ∧
      SameElsewhere a (storeReceived hw now (some block) a) ∧
      refreshTokenRead hw block a ≤ eliotTokenSize := by
  have hshort : (takeChars eliotTokenSize block).length < eliotTokenSize - 2 := h.2.2
  have hfits : (takeChars eliotTokenSize block).length < eliotTokenSize := by omega
  have hstored : (storeReceived hw now (some block) a).store =
      (a.write hw block (BitVec.ofNat 32 eliotTokenSize)).store := by
    rw [storeReceived, if_pos h, modified_store]
  refine ⟨?_, fun i hbehind hi => ?_, Nat.le_of_eq refreshTokenRead_eq⟩
  · rw [hstored]
    exact write_holds hok (holdsString_takeChars hfits) hfits
  · rw [hstored]
    exact write_sameElsewhere hok i hbehind hi

/-- **Storing tokens**: a user token is stored as it should be if it is shorter than the array, a
refresh token if it fills its region exactly, and of a token that is received always more is read
than its string. -/
theorem tokenStorage_iff (n : ℕ) (token : CString n) (block : ℕ → Byte) :
    (StoresUserToken token.chars ↔ token.chars.length < eliotTokenSize) ∧
    (StoresRefreshToken token.chars ↔ token.chars.length = eliotTokenSize - 1) ∧
    (StoresReceived block ↔ ¬ Accepts block) :=
  ⟨storesUserToken_iff token.noNul, storesRefreshToken_iff token.noNul, storesReceived_iff⟩

/-- A user token of 1536 characters is not terminated, and a short refresh token is read beyond its
terminator. -/
theorem not_stores_long : ¬ StoresUserToken (List.replicate 1536 0x61) ∧
    ¬ StoresRefreshToken [0x61, 0x62, 0x63] := by
  have hnul : (0 : Byte) ∉ List.replicate 1536 0x61 := fun h =>
    absurd (List.eq_of_mem_replicate h) (by decide)
  constructor
  · rw [storesUserToken_iff hnul, List.length_replicate]
    exact Nat.lt_irrefl _
  · rw [storesRefreshToken_iff (by decide)]
    decide

end Tokens

end Eliot

end Lcm
