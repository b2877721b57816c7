import Lcm.Jsa.Authentication
import Lcm.Jsa.KeyStore

/-!
# Changing the key

The property `Keys` is a text that stands for two blocks: the current key and a new key, both
encrypted under the current key.  `JSA_HandleKeysProperty` decrypts the first block, compares it
with the current key, and writes the second one, decrypted, to flash.  Then it closes all other
connections.

The length of the text is kept in a byte before it is compared, and a character that is not a
hexadecimal digit is converted like one.  Decryption is a parameter.

## Main definitions

* `State`, `State.localKey` : what the function works on, and the current key.
* `parseKeys`, `handleKeysProperty` : the functions of the source.
* `StandsFor` : what a text stands for.
* `ChangesKey` : the key is changed, and the other connections closed, if the old key is right, and
  otherwise nothing is changed.
* `Accepts` : the text passes the tests of the function.

## Main results

* `StandsFor.parseKeys_eq` : the blocks of a well-formed text.
* `returned_eq_zero_iff` : the answer tells whether anything was changed.
* `simulates_handleKeysProperty` : for the task of the sockets, an accepted text is the event that
  adopts the new key.
* `changesKey_iff` : the texts for which the key is changed as it should be.
-/

namespace Lcm

namespace Jsa

namespace KeyChange

open Flash
open Json (SocketIndex)

/-! ### The state -/

/-- What `JSA_HandleKeysProperty` reads and changes. -/
structure State where
  /-- The flash, with the user key. -/
  keyStore : KeyStore.State
  /-- `json_socket_factory_key` -/
  factoryKey : Block
  /-- `factory_auth_init` -/
  factoryAuthInit : Word
  /-- `jsonSockets` -/
  jsonSockets : SocketIndex → JsonSocket

/-- The MD5 sum of no data. -/
def emptyKey : Block := fun i =>
  [0xD4, 0x1D, 0x8C, 0xD9, 0x8F, 0x00, 0xB2, 0x04,
    0xE9, 0x80, 0x09, 0x98, 0xEC, 0xF8, 0x42, 0x7E].getD i 0

/-- The current key: the user key if it is set, then the factory key if it is enabled, and else the
empty key. -/
def State.localKey (st : State) : Block :=
  if KeyStore.userKeyIsSet st.keyStore then (KeyStore.storedKey st.keyStore).content
  else if st.factoryAuthInit = factoryAuthInitEnabled then st.factoryKey
  else emptyKey

/-! ### The function -/

/-- The value of a character is put into its half of its byte. -/
def putNibble (block : Block) (strIdx : ℕ) (x : Byte) : Block :=
  let idx : Fin 16 := ⟨(strIdx >>> 1) &&& (16 - 1), Nat.lt_succ_of_le Nat.and_le_right⟩
  Function.update block idx (block idx ||| nibble x <<< (if strIdx &&& 1 ≠ 0 then 0 else 4))

/-- The loop that parses the characters: the encrypted old key and the encrypted new key. -/
def parseKeys (keySetString : List Byte) : Block × Block :=
  (List.range 32).foldl
    (fun keys strIdx =>
      (putNibble keys.1 strIdx (keySetString.getD strIdx 0),
        putNibble keys.2 strIdx (keySetString.getD (strIdx + 32) 0)))
    (fun _ => 0, fun _ => 0)

/-- What is returned, and what is put into `responseObject` if there is one. -/
structure Response where
  /-- The value that is returned. -/
  returned : Byte
  /-- `Status` -/
  status : String
  /-- `ErrorText` -/
  errorText : Option String
  /-- `ErrorCode` -/
  errorCode : ℤ

def badLength : Response := ⟨-1, "Error", some "Bad length", -2⟩

def oldKeyMismatch : Response := ⟨-1, "Error", some "Old key mismatch", -1⟩

def success : Response := ⟨0, "Success", none, 0⟩

variable (hw : Hardware) (decrypt : Block → Block → Block) (socketIndexGlobalRx : SocketIndex)

/-- The new key is written, the socket of the command is no longer limited to setting a key, and
all other sockets are shut down. -/
def State.adopt (st : State) (new : Block) : State :=
  { st with
    keyStore := st.keyStore.perform (KeyStore.writeUserKeyToFlash hw new)
    jsonSockets := fun x =>
      if x ≠ socketIndexGlobalRx then shutdownSocket (st.jsonSockets x)
      else if (st.jsonSockets x).jsaState.jsonLimited then
        { st.jsonSockets x with jsaState := .authDefeated }
      else st.jsonSockets x }

/-- `JSA_HandleKeysProperty`; `keySetString` are the characters before the null character. -/
def handleKeysProperty (keySetString : List Byte) (st : State) : Response × State :=
  -- the length is assigned to a `uint8_t`
  if BitVec.ofNat 8 keySetString.length ≠ 64 then (badLength, st)
  else
    let (oldEncrypted, newEncrypted) := parseKeys keySetString
    if decrypt st.localKey oldEncrypted ≠ st.localKey then (oldKeyMismatch, st)
    else (success, st.adopt hw socketIndexGlobalRx (decrypt st.localKey newEncrypted))

/-! ### What the text should do -/

/-- The text stands for two blocks. -/
def StandsFor (text : List Byte) (old new : Block) : Prop :=
  Hex.decode text = some (List.ofFn old ++ List.ofFn new)

/-- **The text is well formed**: it stands for an old key and a new key. -/
def WellFormed (text : List Byte) : Prop := ∃ old new, StandsFor text old new

/-- The new key is set and stored, and no other connection is open. -/
structure Changed (new : Block) (after : State) : Prop where
  /-- The new key is set. -/
  isSet : KeyStore.userKeyIsSet after.keyStore = true
  /-- The new key is stored. -/
  stored : (KeyStore.storedKey after.keyStore).content = new
  /-- The other connections are closed. -/
  closed : ∀ x ≠ socketIndexGlobalRx, (after.jsonSockets x).JSONSocketConnection = 0

/-- **The key change protocol**: the key is changed if the text stands for the current key and a
new key, both encrypted, and else nothing is changed. -/
structure ChangesKey (text : List Byte) (before after : State) : Prop where
  /-- The old key is right. -/
  changes : ∀ old new, StandsFor text old new → decrypt before.localKey old = before.localKey →
    Changed socketIndexGlobalRx (decrypt before.localKey new) after
  /-- The text is not well formed, or the old key is not right. -/
  keeps : (∀ old new, StandsFor text old new → decrypt before.localKey old ≠ before.localKey) →
    after = before

/-- The text passes the tests of the function. -/
def Accepts (text : List Byte) (st : State) : Prop :=
  BitVec.ofNat 8 text.length = 64 ∧ decrypt st.localKey (parseKeys text).1 = st.localKey

/-! ### Parsing -/

/-- A digit is put into its place. -/
theorem putNibble_byteAt (text : List Byte) {x : Byte} (hlength : text.length < 32)
    (hx : (Hex.digit x).isSome) :
    putNibble (fun j => Hex.byteAt text j) text.length x =
      fun j : Fin 16 => Hex.byteAt (text ++ [x]) j := by
  obtain ⟨d, hd⟩ := Option.isSome_iff_exists.1 hx
  have hidx : (text.length >>> 1) &&& (16 - 1) = text.length / 2 := by
    rw [Nat.shiftRight_eq_div_pow, Nat.and_two_pow_sub_one_eq_mod _ 4]
    omega
  have hodd : text.length &&& 1 ≠ 0 ↔ text.length % 2 = 1 := by
    rw [Nat.and_one_is_mod]
    omega
  refine Eq.trans ?_ (Hex.update_byteAt hd ⟨_, Nat.lt_succ_of_le Nat.and_le_right⟩ hidx)
  simp only [putNibble, nibble_of_digit hd, hodd]

/-- The loop, over the characters from `start` on. -/
theorem foldl_putNibble {text : List Byte} (hdigits : Hex.Digits text) (start : ℕ)
    (hlength : start + 32 ≤ text.length) {n : ℕ} (hn : n ≤ 32) :
    (List.range n).foldl (fun block k => putNibble block k (text.getD (k + start) 0))
        (fun _ => 0) =
      fun j : Fin 16 => Hex.byteAt ((text.drop start).take n) j := by
  induction n with
  | zero => simp
  | succ n ih =>
    have hlt : n < (text.drop start).length := by
      rw [List.length_drop]
      omega
    have hlen : ((text.drop start).take n).length = n := List.length_take_of_le hlt.le
    have hget : text.getD (n + start) 0 = (text.drop start)[n] := by
      rw [List.getElem_drop, Nat.add_comm, List.getD_eq_getElem]
    have hput := putNibble_byteAt ((text.drop start).take n) (x := (text.drop start)[n])
      (by rw [hlen]; exact hn) (hdigits _ (List.mem_of_mem_drop (List.getElem_mem hlt)))
    rw [hlen, List.take_append_getElem hlt] at hput
    rw [List.range_succ, List.foldl_append, ih (Nat.le_of_succ_le hn), List.foldl_cons,
      List.foldl_nil, hget, hput]

/-- **A well-formed text** stands for the blocks that are parsed. -/
theorem standsFor_parseKeys {text : List Byte} (hlength : text.length = 64)
    (hdigits : Hex.Digits text) : StandsFor text (parseKeys text).1 (parseKeys text).2 := by
  have hfirst : (text.take 32).length = 32 := List.length_take_of_le (by omega)
  have hsecond : (text.drop 32).length = 32 := by rw [List.length_drop, hlength]
  have hparse : parseKeys text = (fun j : Fin 16 => Hex.byteAt (text.take 32) j,
      fun j : Fin 16 => Hex.byteAt (text.drop 32) j) := by
    have hold := foldl_putNibble hdigits 0 (by omega) le_rfl
    have hnew := foldl_putNibble hdigits 32 (by omega) le_rfl
    rw [List.drop_zero] at hold
    rw [List.take_of_length_le hsecond.le] at hnew
    rw [parseKeys, ← hold, ← hnew]
    exact List.foldl_hom₂ _ Prod.mk _ _ _ _ _ fun _ _ _ => rfl
  have hdecode := Hex.decode_append
    (Hex.decode_eq_ofFn (n := 16) (fun x hx => hdigits x (List.mem_of_mem_take hx)) hfirst)
    (Hex.decode_eq_ofFn (n := 16) (fun x hx => hdigits x (List.mem_of_mem_drop hx)) hsecond)
  rw [List.take_append_drop] at hdecode
  rw [StandsFor, hparse]
  exact hdecode

theorem StandsFor.unique {text : List Byte} {old new old' new' : Block}
    (h : StandsFor text old new) (h' : StandsFor text old' new') : old = old' ∧ new = new' := by
  have happend := Option.some.inj (h.symm.trans h')
  obtain ⟨hold, hnew⟩ := List.append_inj happend (by rw [List.length_ofFn, List.length_ofFn])
  exact ⟨List.ofFn_injective hold, List.ofFn_injective hnew⟩

theorem wellFormed_iff {text : List Byte} :
    WellFormed text ↔ text.length = 64 ∧ Hex.Digits text := by
  constructor
  · rintro ⟨old, new, h⟩
    have hlength := Hex.length_of_decode h
    rw [List.length_append, List.length_ofFn, List.length_ofFn] at hlength
    exact ⟨hlength, Hex.digits_of_decode h⟩
  · rintro ⟨hlength, hdigits⟩
    exact ⟨_, _, standsFor_parseKeys hlength hdigits⟩

/-- The blocks that are parsed are the ones that the text stands for. -/
theorem StandsFor.parseKeys_eq {text : List Byte} {old new : Block} (h : StandsFor text old new) :
    parseKeys text = (old, new) := by
  obtain ⟨hlength, hdigits⟩ := wellFormed_iff.1 ⟨old, new, h⟩
  obtain ⟨hold, hnew⟩ := (standsFor_parseKeys hlength hdigits).unique h
  exact Prod.ext hold hnew

/-! ### What the function does -/

variable {hw : Hardware} {decrypt : Block → Block → Block} {i : SocketIndex} {text : List Byte}
  {st : State}

theorem handleKeysProperty_of_accepts (h : Accepts decrypt text st) :
    handleKeysProperty hw decrypt i text st =
      (success, st.adopt hw i (decrypt st.localKey (parseKeys text).2)) := by
  obtain ⟨hlength, hkey⟩ := h
  simp only [handleKeysProperty, hlength, hkey, ne_eq, not_true_eq_false, if_false]

/-- A text that does not pass the tests changes nothing, and the answer says so. -/
theorem handleKeysProperty_of_not_accepts (h : ¬ Accepts decrypt text st) :
    handleKeysProperty hw decrypt i text st =
      (if BitVec.ofNat 8 text.length ≠ 64 then badLength else oldKeyMismatch, st) := by
  rw [handleKeysProperty]
  split
  · rfl
  · rename_i hlength
    exact if_pos fun hkey => h ⟨not_not.1 hlength, hkey⟩

@[simp] theorem adopt_keyStore (new : Block) : (st.adopt hw i new).keyStore =
    st.keyStore.perform (KeyStore.writeUserKeyToFlash hw new) := rfl

@[simp] theorem adopt_factoryKey (new : Block) :
    (st.adopt hw i new).factoryKey = st.factoryKey := by
  rw [State.adopt]

@[simp] theorem adopt_factoryAuthInit (new : Block) :
    (st.adopt hw i new).factoryAuthInit = st.factoryAuthInit := by
  rw [State.adopt]

theorem storedKey_adopt (new : Block) (hok : hw.Ok st.keyStore.device.commands 513) :
    KeyStore.storedKey (st.adopt hw i new).keyStore = ⟨new, JsonSocketKey.sum ⟨new, 0⟩⟩ := by
  rw [adopt_keyStore, KeyStore.storedKey_writeUserKeyToFlash new hok]

/-- A new key changes the active bank, whatever the flash returns. -/
theorem adopt_ne (new : Block) : st.adopt hw i new ≠ st := by
  intro h
  have hbank : (st.adopt hw i new).keyStore.eliotFbk.activeBank =
      !st.keyStore.eliotFbk.activeBank := by
    rw [adopt_keyStore, KeyStore.activeBank_writeUserKeyToFlash]
  rw [h] at hbank
  simp at hbank

/-- **The answer tells whether anything was changed.** -/
theorem returned_eq_zero_iff :
    (handleKeysProperty hw decrypt i text st).1.returned = 0 ↔
      (handleKeysProperty hw decrypt i text st).2 ≠ st := by
  by_cases h : Accepts decrypt text st
  · rw [handleKeysProperty_of_accepts h]
    exact iff_of_true rfl (adopt_ne _)
  · rw [handleKeysProperty_of_not_accepts h]
    refine iff_of_false ?_ (not_not_intro rfl)
    dsimp only
    split <;> decide

theorem shutdownSocket_connection (s : JsonSocket) :
    (shutdownSocket s).JSONSocketConnection = 0 := by
  unfold shutdownSocket
  split <;> rfl

theorem changed_adopt (new : Block) (hok : hw.Ok st.keyStore.device.commands 513) :
    Changed i new (st.adopt hw i new) where
  isSet := KeyStore.userKeyIsSet_of_write new (storedKey_adopt new hok)
  stored := by rw [storedKey_adopt new hok]
  closed x hx := by
    have hshut : (st.adopt hw i new).jsonSockets x = shutdownSocket (st.jsonSockets x) := if_pos hx
    rw [hshut, shutdownSocket_connection]

/-! ### The task of the sockets -/

/-- The sockets and settings are those of the task of the sockets. -/
structure Represents (st : State) (task : Jsa.State) : Prop where
  /-- The user key is the one in flash. -/
  userKey : task.settings.userKey = KeyStore.storedKey st.keyStore
  /-- The factory key. -/
  factoryKey : task.settings.factoryKey = st.factoryKey
  /-- The setting that enables it. -/
  factoryAuthInit : task.settings.factoryAuthInit = st.factoryAuthInit
  /-- The sockets. -/
  jsonSockets : task.jsonSockets = st.jsonSockets

theorem Represents.adopt {task : Jsa.State} (h : Represents st task) (new : Block)
    (hok : hw.Ok st.keyStore.device.commands 513) :
    Represents (st.adopt hw i new) (task.adoptKey i new) where
  userKey := by
    rw [storedKey_adopt new hok, Jsa.State.adoptKey, Settings.writeUserKeyToFlash]
  factoryKey := by
    rw [adopt_factoryKey]
    exact h.factoryKey
  factoryAuthInit := by
    rw [adopt_factoryAuthInit]
    exact h.factoryAuthInit
  jsonSockets := by
    simp only [Jsa.State.adoptKey, State.adopt, h.jsonSockets]

/-- **A text is an event of the task of the sockets** that adopts a new key, or nothing. -/
theorem simulates_handleKeysProperty (encrypt : Block → Block → Block) {task : Jsa.State}
    (h : Represents st task)
    (hok : Accepts decrypt text st → hw.Ok st.keyStore.device.commands 513) :
    ∃ task', Represents (handleKeysProperty hw decrypt i text st).2 task' ∧
      (task' = task ∨ ∃ new,
        (jsonSocketTask encrypt).step task (.handleKeysProperty i new) = some task') := by
  by_cases haccepts : Accepts decrypt text st
  · rw [handleKeysProperty_of_accepts haccepts]
    exact ⟨_, h.adopt _ (hok haccepts), .inr ⟨_, rfl⟩⟩
  · rw [handleKeysProperty_of_not_accepts haccepts]
    exact ⟨task, h, .inl rfl⟩

/-! ### The key change protocol -/

/-- A well-formed text passes the tests if its old key is right. -/
theorem StandsFor.accepts_iff {old new : Block} (h : StandsFor text old new) :
    Accepts decrypt text st ↔ decrypt st.localKey old = st.localKey := by
  obtain ⟨hlength, -⟩ := wellFormed_iff.1 ⟨old, new, h⟩
  rw [Accepts, hlength, h.parseKeys_eq]
  exact and_iff_right rfl

/-- A text that is not well formed but passes the tests changes the key. -/
theorem not_changesKey_of_accepts (haccepts : Accepts decrypt text st)
    (hformed : ¬ WellFormed text) :
    ¬ ChangesKey decrypt i text st (handleKeysProperty hw decrypt i text st).2 := by
  intro h
  rw [handleKeysProperty_of_accepts haccepts] at h
  exact adopt_ne _ (h.keeps fun old new hstands => absurd ⟨old, new, hstands⟩ hformed)

/-- **The key is changed as it should be** exactly for the texts that are well formed or do not
pass the tests of the function. -/
theorem changesKey_iff (hw : Hardware) (decrypt : Block → Block → Block)
    (socketIndexGlobalRx : SocketIndex) (text : List Byte) (st : State)
    (hok : Accepts decrypt text st → hw.Ok st.keyStore.device.commands 513) :
    ChangesKey decrypt socketIndexGlobalRx text st
        (handleKeysProperty hw decrypt socketIndexGlobalRx text st).2 ↔
      text.length = 64 ∧ Hex.Digits text ∨ BitVec.ofNat 8 text.length ≠ 64 ∨
        decrypt st.localKey (parseKeys text).1 ≠ st.localKey := by
  rw [← wellFormed_iff, ← not_and_or]
  show _ ↔ WellFormed text ∨ ¬ Accepts decrypt text st
  by_cases haccepts : Accepts decrypt text st
  · by_cases hformed : WellFormed text
    · refine iff_of_true ?_ (.inl hformed)
      obtain ⟨old, new, hstands⟩ := hformed
      have hright := hstands.accepts_iff.1 haccepts
      rw [handleKeysProperty_of_accepts haccepts, hstands.parseKeys_eq]
      refine ⟨fun old' new' hstands' _ => ?_, fun hwrong => absurd hright (hwrong old new hstands)⟩
      obtain ⟨-, rfl⟩ := hstands.unique hstands'
      exact changed_adopt _ (hok haccepts)
    · exact iff_of_false (not_changesKey_of_accepts haccepts hformed)
        (not_or.2 ⟨hformed, not_not_intro haccepts⟩)
  · refine iff_of_true ?_ (.inr haccepts)
    rw [handleKeysProperty_of_not_accepts haccepts]
    exact ⟨fun _ _ hstands hright => absurd (hstands.accepts_iff.2 hright) haccepts, fun _ => rfl⟩

/-- A cipher that adds the key. -/
def exampleDecrypt (key block : Block) : Block := fun j => key j ^^^ block j

/-- A controller with the factory key of zeros, and without connections. -/
def exampleState : State where
  keyStore := KeyStore.boot Fbk.exampleDevice Fbk.exampleContext
  factoryKey := fun _ => 0
  factoryAuthInit := factoryAuthInitEnabled
  jsonSockets := fun _ => .closed

theorem changesKey_iff_zeros :
    ChangesKey exampleDecrypt 0 (List.replicate 64 0x30) exampleState
      (handleKeysProperty ⟨fun _ => FTFx_OK, fun _ _ => 0⟩ exampleDecrypt 0
        (List.replicate 64 0x30) exampleState).2 :=
  (changesKey_iff ⟨fun _ => FTFx_OK, fun _ _ => 0⟩ exampleDecrypt 0 (List.replicate 64 0x30)
    exampleState fun _ _ _ => rfl).2 (.inl ⟨List.length_replicate, fun x hx => by
      rw [List.eq_of_mem_replicate hx]
      decide⟩)

/-- Of a text that is 256 characters too long, the first 64 are taken. -/
theorem not_changesKey_of_length :
    ¬ ChangesKey exampleDecrypt 0 (List.replicate 320 0x30) exampleState
      (handleKeysProperty ⟨fun _ => FTFx_OK, fun _ _ => 0⟩ exampleDecrypt 0
        (List.replicate 320 0x30) exampleState).2 := by
  have hparse : ∀ j, (parseKeys (List.replicate 320 0x30)).1 j = 0 := by decide +kernel
  refine not_changesKey_of_accepts ⟨by rw [List.length_replicate]; rfl, funext fun j => ?_⟩
    fun hformed => ?_
  · rw [exampleDecrypt, hparse]
    exact BitVec.xor_zero
  · have hlength := (wellFormed_iff.1 hformed).1
    rw [List.length_replicate] at hlength
    omega

end KeyChange

end Jsa

end Lcm
