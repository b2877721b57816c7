import Lcm.Formatted
import Lcm.Jansson
import Lcm.PercentEncoding
import Lcm.Base64

/-!
# The token for the hub

`SasTokenCreate` puts the URL-encoded device name and the URL-encoded signature into arrays of its
own, and prints them into the token.  `Url_Encode` looks for the terminator that it has just
printed, so for an empty text, for which it prints nothing, there may be none.

## Main definitions

* `urlEncode`, `sasTokenCreate` : the functions of the source; what is outside an array is an error.
* `Encodes` : an array holds a text of kept characters and escapes that stands for the input.
* `Sound` : the token is complete, and so are the texts that it is made of.

## Main results

* `urlEncode_spec` : what is in the array.
* `countP_base64` : which characters of a signature are escaped.
* `urlEncoding_iff` : the inputs for which the texts fit.
-/

namespace Lcm

namespace Mqtt

namespace SasToken

open SanitizerLoop
open JsonT (bytesOfString)

/-! ### `Url_Encode` -/

/-- `isalnum` -/
def isAlnum (i : Byte) : Bool :=
  (0x30 ≤ i && i ≤ 0x39) || (0x41 ≤ i && i ≤ 0x5A) || (0x61 ≤ i && i ≤ 0x7A)

/-- `mRfc3986`, as `Url_Encoder_Init` leaves it -/
def rfc3986 (i : Byte) : Byte :=
  if isAlnum i || i = 0x7E || i = 0x2D || i = 0x2E || i = 0x5F then i else 0

/-- How the functions fail. -/
inductive Failure
  /-- An access outside an array. -/
  | outside
  /-- A return code. -/
  | code (rc : ℤ)
  /-- A return code, after the device name has been encoded. -/
  | unsigned (rc : ℤ) (deviceName : ℕ → Byte)

/-- `snprintf(enc, n, text)`, `start` bytes behind the beginning of an array -/
def snprintfAt (sizeofArray : ℕ) (array : ℕ → Byte) (start n : ℕ) (text : List Byte) :
    Except Failure (ℕ → Byte) :=
  if start + (printed n text).length ≤ sizeofArray then
    .ok (writeList array start (printed n text))
  else .error .outside

/-- `while (*enc) enc++`, with so many bytes left in the array -/
def locateEnd (array : ℕ → Byte) : ℕ → ℕ → Except Failure ℕ
  | 0, _ => .error .outside
  | room + 1, enc => if array enc = 0 then .ok enc else locateEnd array room (enc + 1)

/-- A round of `Url_Encode`. -/
def urlEncodeChar (sizeofEnc : ℕ) (state : (ℕ → Byte) × ℕ) (c : Byte) :
    Except Failure ((ℕ → Byte) × ℕ) := do
  let (array, enc) := state
  let array ←
    if rfc3986 c ≠ 0 then snprintfAt sizeofEnc array enc 2 [rfc3986 c]
    else snprintfAt sizeofEnc array enc 4 (Percent.sign :: Percent.hexByte c)
  let enc ← locateEnd array (sizeofEnc - (enc + 1)) (enc + 1)
  pure (array, enc)

/-- `Url_Encode`, of the characters of a string, into an array: the array and the pointer that is
returned. -/
def urlEncode (sizeofEnc : ℕ) (s : List Byte) (array : ℕ → Byte) :
    Except Failure ((ℕ → Byte) × ℕ) :=
  s.foldlM (urlEncodeChar sizeofEnc) (array, 0)

/-! ### `SasTokenCreate` -/

/-- `ELIOT_SAS_TOKEN_SIZE` -/
def sasTokenSize : ℕ := 400

/-- `TOKEN_EXPIRY_SEC` -/
def tokenExpirySec : BitVec 32 := 60 * 60 * 23

/-- `MQTT_CODE_ERROR_BAD_ARG` -/
def errorBadArg : ℤ := -1

/-- `BAD_FUNC_ARG` -/
def badFuncArg : ℤ := -173

/-- What the library computes, each with an error code. -/
structure Library where
  /-- `Base64_Decode`, into 33 bytes -/
  base64Decode : List Byte → Except ℤ (List Byte)
  /-- `wc_HmacSetKey`, `wc_HmacUpdate` and `wc_HmacFinal` -/
  hmac : List Byte → List Byte → Except ℤ (Fin 32 → Byte)

/-- What is in the arrays before they are written. -/
structure Stack where
  /-- `deviceName` -/
  deviceName : ℕ → Byte
  /-- `sigData` -/
  sigData : ℕ → Byte
  /-- `encodedSig` -/
  encodedSig : ℕ → Byte

/-- What is in the arrays at the end. -/
structure Created where
  /-- `deviceName` -/
  deviceName : ℕ → Byte
  /-- `sigData` -/
  sigData : ℕ → Byte
  /-- The signature. -/
  sig : Fin 32 → Byte
  /-- `encodedSig` -/
  encodedSig : ℕ → Byte
  /-- `sasToken` -/
  sasToken : ℕ → Byte

/-- A result of the library. -/
def library {α : Type} (failure : ℤ → Failure) : Except ℤ α → Except Failure α
  | .ok a => .ok a
  | .error rc => .error (failure rc)

/-- The string in an array, for `%s` and for `Url_Encode`. -/
def readString (sizeofArray : ℕ) (array : ℕ → Byte) : Except Failure (List Byte) :=
  if (takeChars sizeofArray array).length < sizeofArray then .ok (takeChars sizeofArray array)
  else .error .outside

/-- `Base64_Encode_NoNl` -/
def base64EncodeNoNl (bytes : List Byte) (outLen : ℕ) : Except ℤ (List Byte) :=
  if outLen < (bytes.length + 3 - 1) / 3 * 4 then .error badFuncArg else .ok (Base64.encode bytes)

/-- `SIG_FMT` -/
def sigText (deviceName : List Byte) (lTime : BitVec 32) : List Byte :=
  deviceName ++ [0x0A] ++ decimal lTime.toInt

/-- `PASSWORD_FMT` -/
def tokenText (deviceName encodedSig : List Byte) (lTime : BitVec 32) : List Byte :=
  bytesOfString "SharedAccessSignature sr=" ++ deviceName ++ bytesOfString "&sig=" ++ encodedSig ++
    bytesOfString "&se=" ++ decimal lTime.toInt

/-- `SasTokenCreate`, when the device name has been encoded. -/
def signToken (lib : Library) (stack : Stack) (lTime : BitVec 32) (sasToken : ℕ → Byte)
    (sasTokenLen : ℕ) (decodedKey : List Byte) (deviceName : ℕ → Byte) :
    Except Failure Created := do
  let sr ← readString 150 deviceName
  let sigData := writeList stack.sigData 0 (printed 200 (sigText sr lTime))
  let signed ← readString 200 sigData
  let sig ← library (.unsigned · deviceName) (lib.hmac decodedKey signed)
  let base64 ← library (.unsigned · deviceName) (base64EncodeNoNl (List.ofFn sig) 64)
  let base64Sig ← readString 64 (writeList (fun _ => 0) 0 base64)
  let (encodedSig, _) ← urlEncode 128 base64Sig stack.encodedSig
  let encoded ← readString 128 encodedSig
  pure
    { deviceName := deviceName
      sigData := sigData
      sig := sig
      encodedSig := encodedSig
      sasToken := writeList sasToken 0 (printed sasTokenLen (tokenText sr encoded lTime)) }

/-- `SasTokenCreate` -/
def sasTokenCreate (lib : Library) (stack : Stack) (seconds : BitVec 32)
    (sasToken : Option (ℕ → Byte)) (sasTokenLen : ℕ) (encodedKey deviceId : List Byte) :
    Except Failure Created := do
  match sasToken with
  | none => .error (.code errorBadArg)
  | some sasToken =>
    let decodedKey ← library .code (lib.base64Decode encodedKey)
    let (deviceName, _) ← urlEncode 150 deviceId stack.deviceName
    signToken lib stack (seconds + tokenExpirySec) sasToken sasTokenLen decodedKey deviceName

/-! ### What is asked for -/

/-- The unreserved characters. -/
def unreserved (c : Byte) : Bool := rfc3986 c ≠ 0

/-- **A text is encoded** in an array: with its terminator, of unreserved characters and escapes
only, and such that decoding gives it back. -/
structure Encodes (sizeofEnc : ℕ) (s out : List Byte) (array : ℕ → Byte) : Prop where
  /-- The array holds the text. -/
  holds : HoldsString array out
  /-- The terminator is inside. -/
  fits : out.length < sizeofEnc
  /-- The characters. -/
  wellFormed : Percent.WellFormed unreserved out
  /-- The text that is meant. -/
  decodes : Percent.decode out = some s

/-- `Url_Encode` has done its work. -/
def UrlEncodes (sizeofEnc : ℕ) (s : List Byte) : Except Failure ((ℕ → Byte) × ℕ) → Prop
  | .ok (array, enc) => ∃ out, Encodes sizeofEnc s out array ∧ enc = out.length
  | .error _ => False

/-- **The token is complete**, and so are the texts that it is made of. -/
structure Created.Sound (deviceId : List Byte) (lTime : BitVec 32) (sasTokenLen : ℕ)
    (created : Created) (sr encoded : List Byte) : Prop where
  /-- The device name. -/
  deviceName : Encodes 150 deviceId sr created.deviceName
  /-- What is signed. -/
  sigData : HoldsString created.sigData (sigText sr lTime)
  /-- The signature. -/
  encodedSig : Encodes 128 (Base64.encode (List.ofFn created.sig)) encoded created.encodedSig
  /-- The token. -/
  token : HoldsString created.sasToken (tokenText sr encoded lTime)
  /-- It is not truncated. -/
  fits : (tokenText sr encoded lTime).length < sasTokenLen

/-- A call of `SasTokenCreate` returns an error, or makes a complete token, and it stays inside its
arrays. -/
def Sound (deviceId : List Byte) (lTime : BitVec 32) (sasTokenLen : ℕ) :
    Except Failure Created → Prop
  | .ok created => ∃ sr encoded, created.Sound deviceId lTime sasTokenLen sr encoded
  | .error (.code _) => True
  | .error (.unsigned _ deviceName) => ∃ sr, Encodes 150 deviceId sr deviceName
  | .error .outside => False

/-! ### The loop of `Url_Encode` -/

variable {array : ℕ → Byte} {s t out : List Byte} {size : ℕ}

theorem unreserved_sign : unreserved Percent.sign = false := by decide

theorem unreserved_zero : unreserved 0 = false := by decide

theorem rfc3986_eq {c : Byte} (h : rfc3986 c ≠ 0) : rfc3986 c = c := by
  unfold rfc3986 at h ⊢
  split at h
  · rename_i hkept
    rw [if_pos hkept]
  · exact absurd rfl h

/-- The terminator is found. -/
theorem locateEnd_eq (room k : ℕ) (hs : HoldsString array s) (hk : k ≤ s.length)
    (hroom : s.length < k + room) : locateEnd array room k = .ok s.length := by
  induction room generalizing k with
  | zero => omega
  | succ room ih =>
    rw [locateEnd]
    by_cases hend : k = s.length
    · rw [if_pos ((hs.eq_zero_iff hk).2 hend), hend]
    · rw [if_neg (mt (hs.eq_zero_iff hk).1 hend)]
      exact ih (k + 1) (by omega) (by omega)

/-- What is printed is what the character becomes. -/
theorem urlEncodeChar_eq (c : Byte) (enc : ℕ) : urlEncodeChar size (array, enc) c =
    (snprintfAt size array enc ((Percent.encodeByte unreserved c).length + 1)
      (Percent.encodeByte unreserved c)) >>= fun array =>
        (locateEnd array (size - (enc + 1)) (enc + 1)) >>= fun enc => pure (array, enc) := by
  rw [urlEncodeChar, Percent.encodeByte, unreserved]
  by_cases hkept : rfc3986 c ≠ 0
  · rw [if_pos hkept, if_pos (decide_eq_true hkept), rfc3986_eq hkept]
    rfl
  · rw [if_neg hkept, if_neg (by rw [decide_eq_false hkept]; exact Bool.false_ne_true)]
    rfl

/-- **A round** puts the character, as it is encoded, behind the text, if there is room for it. -/
theorem urlEncodeChar_spec (size : ℕ) (c : Byte) (hnul : 0 ∉ t)
    (hchars : ∀ i, (h : i < t.length) → array i = t[i]) :
    if (t ++ Percent.encodeByte unreserved c).length < size then
      ∃ array', urlEncodeChar size (array, t.length) c =
          .ok (array', (t ++ Percent.encodeByte unreserved c).length) ∧
        HoldsString array' (t ++ Percent.encodeByte unreserved c)
    else urlEncodeChar size (array, t.length) c = .error .outside := by
  set text := Percent.encodeByte unreserved c with htext
  have hpos : 0 < text.length := List.length_pos_iff.2 (Percent.encodeByte_ne_nil c)
  have hprinted : printed (text.length + 1) text = text ++ [0] :=
    printed_of_length_lt (Nat.lt_succ_self _)
  have hlength : (printed (text.length + 1) text).length = text.length + 1 := by
    rw [hprinted, List.length_append, List.length_singleton]
  rw [urlEncodeChar_eq, ← htext, snprintfAt, hlength, List.length_append]
  split
  · rename_i hroom
    have hholds : HoldsString (writeList array t.length (printed (text.length + 1) text))
        (t ++ text) := by
      have h := holdsString_print hnul hchars (Percent.zero_notMem_encodeByte unreserved_zero c)
        (Nat.succ_pos text.length)
      rwa [Nat.succ_sub_one, List.take_length] at h
    have hend := locateEnd_eq (size - (t.length + 1)) (t.length + 1) hholds
      (by rw [List.length_append]; omega) (by rw [List.length_append]; omega)
    refine ⟨_, ?_, hholds⟩
    rw [if_pos (by omega)]
    simp only [bind, Except.bind, hend, List.length_append]
    rfl
  · rw [if_neg (by omega)]
    rfl

/-- The rounds behind the first. -/
theorem urlEncodeChars_spec (hholds : HoldsString array t) (hfits : t.length < size) :
    if (t ++ Percent.encode unreserved s).length < size then
      ∃ array', s.foldlM (urlEncodeChar size) (array, t.length) =
          .ok (array', (t ++ Percent.encode unreserved s).length) ∧
        HoldsString array' (t ++ Percent.encode unreserved s)
    else s.foldlM (urlEncodeChar size) (array, t.length) = .error .outside := by
  induction s generalizing array t with
  | nil =>
    rw [Percent.encode, List.flatMap_nil, List.append_nil, if_pos hfits]
    exact ⟨array, rfl, hholds⟩
  | cons c s ih =>
    have hround := urlEncodeChar_spec size c hholds.noNul hholds.chars
    rw [Percent.encode_cons, ← List.append_assoc, List.foldlM_cons]
    split at hround
    · rename_i hfits'
      obtain ⟨array', hround, hholds'⟩ := hround
      rw [hround]
      exact ih hholds' hfits'
    · rename_i hfull
      rw [hround, if_neg fun h => hfull ?_]
      · rfl
      · rw [List.length_append] at h
        omega

/-- **What is in the array**: for a text that is not empty, its encoding, if there is room for it. -/
theorem urlEncode_spec (size : ℕ) (hne : s ≠ []) (array : ℕ → Byte) :
    if (Percent.encode unreserved s).length < size then
      ∃ array', urlEncode size s array = .ok (array', (Percent.encode unreserved s).length) ∧
        HoldsString array' (Percent.encode unreserved s)
    else urlEncode size s array = .error .outside := by
  obtain ⟨c, s, rfl⟩ := List.exists_cons_of_ne_nil hne
  have hchars (i : ℕ) (h : i < ([] : List Byte).length) : array i = ([] : List Byte)[i] :=
    nomatch h
  have hround := urlEncodeChar_spec size c List.not_mem_nil hchars
  rw [Percent.encode_cons, urlEncode, List.foldlM_cons]
  split at hround
  · rename_i hfits
    obtain ⟨array', hround, hholds⟩ := hround
    rw [show urlEncodeChar size (array, 0) c = _ from hround]
    exact urlEncodeChars_spec hholds hfits
  · rename_i hfull
    rw [show urlEncodeChar size (array, 0) c = _ from hround, if_neg fun h => hfull ?_]
    · rfl
    · rw [List.length_append] at h
      exact Nat.lt_of_le_of_lt (Nat.le_add_right _ _) h

/-! ### When a text is encoded -/

theorem encodes_encode (hholds : HoldsString array (Percent.encode unreserved s))
    (hfits : (Percent.encode unreserved s).length < size) :
    Encodes size s (Percent.encode unreserved s) array :=
  ⟨hholds, hfits, Percent.wellFormed_encode s, Percent.decode_encode unreserved_sign s⟩

/-- There is room for the text, and something is printed, or there is a terminator. -/
def Fits (size : ℕ) (s : List Byte) (array : ℕ → Byte) : Prop :=
  (Percent.encode unreserved s).length < size ∧ (s ≠ [] ∨ array 0 = 0)

theorem urlEncode_of_fits (h : Fits size s array) :
    ∃ array', urlEncode size s array = .ok (array', (Percent.encode unreserved s).length) ∧
      HoldsString array' (Percent.encode unreserved s) := by
  obtain ⟨hfits, hfirst⟩ := h
  by_cases hne : s = []
  · subst hne
    have hzero : array 0 = 0 := hfirst.resolve_left fun h => h rfl
    exact ⟨array, rfl, List.not_mem_nil, fun _ h => (nomatch h), hzero⟩
  · have hspec := urlEncode_spec size hne array
    rwa [if_pos hfits] at hspec

/-- Without room nothing comes out, and without a terminator the array is as it was. -/
theorem urlEncode_of_not_fits (hsize : 0 < size) (h : ¬ Fits size s array) :
    urlEncode size s array = .error .outside ∨
      s = [] ∧ array 0 ≠ 0 ∧ urlEncode size s array = .ok (array, 0) := by
  by_cases hne : s = []
  · subst hne
    exact .inr ⟨rfl, fun hzero => h ⟨hsize, .inr hzero⟩, rfl⟩
  · have hspec := urlEncode_spec size hne array
    rw [if_neg fun hfits => h ⟨hfits, .inl hne⟩] at hspec
    exact .inl hspec

/-- An empty text is encoded where there is a terminator. -/
theorem Encodes.first_eq_zero (h : Encodes size [] out array) : array 0 = 0 := by
  have hnil : out = [] := by
    have hdecodes := h.decodes
    cases h.wellFormed with
    | nil => rfl
    | @keep c _ hc h =>
      have hne : c ≠ Percent.sign := by
        rintro rfl
        exact Bool.false_ne_true (unreserved_sign.symm.trans hc)
      rw [Percent.decode_cons_of_ne hne] at hdecodes
      obtain ⟨bytes, -, hbytes⟩ := Option.bind_eq_some_iff.1 hdecodes
      cases hbytes
    | escape hhi hlo h =>
      rw [Percent.decode_sign] at hdecodes
      obtain ⟨_, -, hdecodes⟩ := Option.bind_eq_some_iff.1 hdecodes
      obtain ⟨_, -, hdecodes⟩ := Option.bind_eq_some_iff.1 hdecodes
      obtain ⟨bytes, -, hbytes⟩ := Option.bind_eq_some_iff.1 hdecodes
      cases hbytes
  subst hnil
  exact h.holds.nul

/-- **The calls that encode their text** are those that have room for it, and print something or
find a terminator. -/
theorem urlEncodes_iff :
    UrlEncodes size s (urlEncode size s array) ↔ Fits size s array := by
  by_cases hfits : Fits size s array
  · obtain ⟨array', heq, hholds⟩ := urlEncode_of_fits hfits
    rw [heq]
    exact iff_of_true ⟨_, encodes_encode hholds hfits.1, rfl⟩ hfits
  · refine iff_of_false (fun h => ?_) hfits
    cases hresult : urlEncode size s array with
    | error e =>
      rw [hresult] at h
      exact h
    | ok state =>
      rw [hresult] at h
      obtain ⟨out, hencodes, -⟩ := h
      have hsize := Nat.zero_lt_of_lt hencodes.fits
      obtain hfail | ⟨rfl, hfirst, hempty⟩ := urlEncode_of_not_fits hsize hfits
      · cases hresult.symm.trans hfail
      · cases hresult.symm.trans hempty
        exact hfirst hencodes.first_eq_zero

/-! ### The token -/

variable {lib : Library} {stack : Stack} {lTime seconds : BitVec 32} {sasToken : ℕ → Byte}
  {sasTokenLen : ℕ} {decodedKey deviceId : List Byte} {deviceName : ℕ → Byte}
  {sig : Fin 32 → Byte}

/-- The text of a signature. -/
def base64Text (sig : Fin 32 → Byte) : List Byte := Base64.encode (List.ofFn sig)

/-- There is room for the signature: not too many characters of its text are escaped. -/
def SignatureFits (sig : Fin 32 → Byte) : Prop :=
  (base64Text sig).countP (fun c => c = 0x2B ∨ c = 0x2F) ≤ 40

theorem readString_eq {array : ℕ → Byte} (hs : HoldsString array s) (hfits : s.length < size) :
    readString size array = .ok s := by
  rw [readString, takeChars_of_holdsString hs (Nat.le_of_lt hfits), if_pos hfits]

theorem holdsString_printed {text : List Byte} (array : ℕ → Byte) (hnul : 0 ∉ text)
    (hfits : text.length < size) : HoldsString (writeList array 0 (printed size text)) text := by
  have h := holdsString_print (m := array) (s := []) List.not_mem_nil (fun _ h => nomatch h) hnul
    (Nat.zero_lt_of_lt hfits)
  rwa [List.nil_append, List.take_of_length_le (by omega)] at h

/-- What a part of `signToken` may end with. -/
def After (deviceName : ℕ → Byte) {α : Type} (P : α → Prop) : Except Failure α → Prop
  | .ok a => P a
  | .error (.unsigned _ name) => name = deviceName
  | .error (.code _) => False
  | .error .outside => True

theorem After.bind {α β : Type} {P : β → Prop} {x : Except Failure α} {f : α → Except Failure β}
    (hx : After deviceName (fun _ => True) x) (hf : ∀ a, After deviceName P (f a)) :
    After deviceName P (x >>= f) := by
  cases x with
  | error e => cases e <;> exact hx
  | ok a => exact hf a

theorem after_readString (array : ℕ → Byte) :
    After deviceName (fun _ => True) (readString size array) := by
  rw [readString]
  split <;> trivial

theorem after_library {α : Type} (x : Except ℤ α) :
    After deviceName (fun _ => True) (library (.unsigned · deviceName) x) := by
  cases x with
  | error rc => exact rfl
  | ok a => trivial

theorem after_urlEncode (s : List Byte) (array : ℕ → Byte) :
    After deviceName (fun _ => True) (urlEncode size s array) := by
  by_cases hne : s = []
  · subst hne
    trivial
  · have hspec := urlEncode_spec size hne array
    split at hspec
    · obtain ⟨array', heq, -⟩ := hspec
      rw [heq]
      trivial
    · rw [hspec]
      trivial

theorem after_signToken (lib : Library) (stack : Stack) (lTime : BitVec 32)
    (sasToken : ℕ → Byte) (sasTokenLen : ℕ) (decodedKey : List Byte) (deviceName : ℕ → Byte) :
    After deviceName (fun created => created.deviceName = deviceName)
      (signToken lib stack lTime sasToken sasTokenLen decodedKey deviceName) := by
  rw [signToken]
  refine (after_readString _).bind fun sr => (after_readString _).bind fun signed => ?_
  refine (after_library _).bind fun sig => (after_library _).bind fun base64 => ?_
  refine (after_readString _).bind fun base64Sig => (after_urlEncode _ _).bind fun encodedSig => ?_
  exact (after_readString _).bind fun encoded => rfl

/-- Whatever becomes of it, the device name has been encoded before. -/
theorem encodes_of_sound (h : Sound deviceId lTime sasTokenLen
    (signToken lib stack lTime sasToken sasTokenLen decodedKey deviceName)) :
    ∃ sr, Encodes 150 deviceId sr deviceName := by
  have hafter := after_signToken lib stack lTime sasToken sasTokenLen decodedKey deviceName
  cases hresult : signToken lib stack lTime sasToken sasTokenLen decodedKey deviceName with
  | ok created =>
    rw [hresult] at h hafter
    obtain ⟨sr, encoded, hsound⟩ := h
    have hname : created.deviceName = deviceName := hafter
    exact ⟨sr, hname ▸ hsound.deviceName⟩
  | error e =>
    rw [hresult] at h hafter
    cases e with
    | outside => exact h.elim
    | code rc => exact hafter.elim
    | unsigned rc name =>
      obtain rfl : name = deviceName := hafter
      exact h

/-! ### The signature -/

theorem length_ofFn_sig (sig : Fin 32 → Byte) : (List.ofFn sig).length = 3 * 10 + 2 :=
  List.length_ofFn

/-- **Which characters of a signature are escaped**: two of the alphabet, and the padding. -/
theorem countP_base64 (sig : Fin 32 → Byte) : (base64Text sig).length = 44 ∧
    (base64Text sig).countP (fun c => !unreserved c) =
      (base64Text sig).countP (fun c => c = 0x2B ∨ c = 0x2F) + 1 := by
  obtain ⟨sextets, hlength, hencode⟩ := Base64.exists_encode_eq (length_ofFn_sig sig)
  have hcharacter : ∀ e, (!unreserved (Base64.character e)) =
      decide (Base64.character e = 0x2B ∨ Base64.character e = 0x2F) := by decide +kernel
  rw [base64Text, hencode]
  constructor
  · rw [List.length_append, List.length_map, hlength]
    rfl
  · rw [List.countP_append, List.countP_append, List.countP_map, List.countP_map]
    have hsame : ((fun c => !unreserved c) ∘ Base64.character) =
        ((fun c => decide (c = 0x2B ∨ c = 0x2F)) ∘ Base64.character) := funext hcharacter
    rw [hsame]
    rfl

/-- There is room for the signature if not too many of its characters are escaped. -/
theorem signatureFits_iff :
    (Percent.encode unreserved (base64Text sig)).length < 128 ↔ SignatureFits sig := by
  obtain ⟨hlength, hcount⟩ := countP_base64 sig
  rw [Percent.length_encode, hlength, hcount, SignatureFits]
  omega

theorem zero_notMem_base64 (sig : Fin 32 → Byte) : 0 ∉ base64Text sig := by
  obtain ⟨sextets, -, hencode⟩ := Base64.exists_encode_eq (length_ofFn_sig sig)
  have hcharacter : ∀ e, Base64.character e ≠ 0 := by decide +kernel
  rw [base64Text, hencode, List.mem_append, List.mem_map]
  rintro (⟨e, -, he⟩ | hpadding)
  · exact hcharacter e he
  · exact absurd hpadding (by decide)

theorem holdsString_base64Sig (sig : Fin 32 → Byte) :
    HoldsString (writeList (fun _ => 0) 0 (base64Text sig)) (base64Text sig) := by
  refine ⟨zero_notMem_base64 sig, fun i hi => ?_, ?_⟩
  · have h := writeList_inside (fun _ => (0 : Byte)) 0 hi
    rwa [Nat.zero_add] at h
  · rw [writeList, if_pos (Nat.zero_le _), Nat.sub_zero, List.getElem?_eq_none (Nat.le_refl _)]
    rfl

/-! ### The whole function -/

theorem zero_notMem_sigText (lTime : BitVec 32) (hnul : 0 ∉ s) : 0 ∉ sigText s lTime := by
  rw [sigText, List.mem_append, List.mem_append, not_or, not_or]
  exact ⟨⟨hnul, by decide⟩, zero_notMem_decimal _⟩

theorem length_sigText_le (s : List Byte) (lTime : BitVec 32) :
    (sigText s lTime).length ≤ s.length + 12 := by
  have hdecimal := length_decimal_le lTime.toInt
  rw [sigText, List.length_append, List.length_append, List.length_singleton]
  omega

theorem zero_notMem_tokenText (hs : 0 ∉ s) (ht : 0 ∉ t) : 0 ∉ tokenText s t lTime := by
  have hwords : 0 ∉ bytesOfString "SharedAccessSignature sr=" ∧ 0 ∉ bytesOfString "&sig=" ∧
      0 ∉ bytesOfString "&se=" := by decide +kernel
  simp only [tokenText, List.mem_append, not_or]
  exact ⟨⟨⟨⟨⟨hwords.1, hs⟩, hwords.2.1⟩, ht⟩, hwords.2.2⟩, zero_notMem_decimal _⟩

theorem length_tokenText_le (s t : List Byte) (lTime : BitVec 32) :
    (tokenText s t lTime).length ≤ s.length + t.length + 45 := by
  have hdecimal := length_decimal_le lTime.toInt
  have hwords : (bytesOfString "SharedAccessSignature sr=").length = 25 ∧
      (bytesOfString "&sig=").length = 5 ∧ (bytesOfString "&se=").length = 4 := by decide +kernel
  simp only [tokenText, List.length_append]
  omega

theorem ok_bind {α β : Type} (a : α) (f : α → Except Failure β) : .ok a >>= f = f a := rfl

theorem library_ok {α : Type} (failure : ℤ → Failure) (a : α) : library failure (.ok a) = .ok a :=
  rfl

theorem length_tokenText_lt (hs : s.length < 150) (ht : t.length < 128) :
    (tokenText s t lTime).length < sasTokenSize := by
  have hle := length_tokenText_le s t lTime
  rw [sasTokenSize]
  omega

/-- What happens with a device name that fits. -/
theorem signToken_eq (hholds : HoldsString deviceName s) (hfits : s.length < 150) :
    signToken lib stack lTime sasToken sasTokenLen decodedKey deviceName =
      library (.unsigned · deviceName) (lib.hmac decodedKey (sigText s lTime)) >>= fun sig =>
        urlEncode 128 (base64Text sig) stack.encodedSig >>= fun state =>
          readString 128 state.1 >>= fun encoded => pure
            { deviceName := deviceName
              sigData := writeList stack.sigData 0 (printed 200 (sigText s lTime))
              sig := sig
              encodedSig := state.1
              sasToken := writeList sasToken 0
                (printed sasTokenLen (tokenText s encoded lTime)) } := by
  have hsigText : (sigText s lTime).length < 200 := by
    have hle := length_sigText_le s lTime
    omega
  have hsigData := holdsString_printed stack.sigData
    (zero_notMem_sigText lTime hholds.noNul) hsigText
  have hbase64 (sig : Fin 32 → Byte) :
      base64EncodeNoNl (List.ofFn sig) 64 = .ok (base64Text sig) := by
    rw [base64EncodeNoNl, length_ofFn_sig]
    rfl
  have hbase64Sig (sig : Fin 32 → Byte) :
      readString 64 (writeList (fun _ => 0) 0 (base64Text sig)) = .ok (base64Text sig) :=
    readString_eq (holdsString_base64Sig sig) (by rw [(countP_base64 sig).1]; decide)
  dsimp only [signToken]
  rw [readString_eq hholds hfits, ok_bind, readString_eq hsigData hsigText, ok_bind]
  refine bind_congr fun sig => ?_
  rw [hbase64, library_ok, ok_bind, hbase64Sig, ok_bind]

/-- The signature of a device name that fits. -/
theorem sound_signToken_iff (hencodes : Encodes 150 deviceId s deviceName) :
    Sound deviceId lTime sasTokenSize
        (signToken lib stack lTime sasToken sasTokenSize decodedKey deviceName) ↔
      ∀ sig, lib.hmac decodedKey (sigText s lTime) = .ok sig → SignatureFits sig := by
  rw [signToken_eq hencodes.holds hencodes.fits]
  cases lib.hmac decodedKey (sigText s lTime) with
  | error rc => exact iff_of_true ⟨s, hencodes⟩ fun sig h => nomatch h
  | ok sig =>
    have hne : base64Text sig ≠ [] := by
      intro hnil
      have hlength := (countP_base64 sig).1
      rw [hnil] at hlength
      cases hlength
    have hspec := urlEncode_spec 128 hne stack.encodedSig
    rw [library_ok, ok_bind]
    split at hspec
    · rename_i hfits
      obtain ⟨array, heq, hholds⟩ := hspec
      rw [heq, ok_bind, readString_eq hholds hfits, ok_bind]
      refine iff_of_true ⟨s, _, hencodes, ?_, encodes_encode hholds hfits, ?_, ?_⟩ fun sig' h => ?_
      · refine holdsString_printed _ (zero_notMem_sigText lTime hencodes.holds.noNul) ?_
        have hle := length_sigText_le s lTime
        have hname := hencodes.fits
        omega
      · refine holdsString_printed _ (zero_notMem_tokenText hencodes.holds.noNul hholds.noNul) ?_
        exact length_tokenText_lt hencodes.fits hfits
      · exact length_tokenText_lt hencodes.fits hfits
      · cases h
        exact signatureFits_iff.1 hfits
    · rename_i hfull
      refine iff_of_false ?_ fun h => hfull (signatureFits_iff.2 (h sig rfl))
      rw [hspec]
      exact id

/-- **The calls that make a complete token**: those where the name of the device fits, and so does
the signature that the library makes of it. -/
theorem sound_sasTokenCreate_iff (token : Option (ℕ → Byte)) (encodedKey : List Byte) :
    Sound deviceId (seconds + tokenExpirySec) sasTokenSize
        (sasTokenCreate lib stack seconds token sasTokenSize encodedKey deviceId) ↔
      (token ≠ none → ∀ key, lib.base64Decode encodedKey = .ok key →
        Fits 150 deviceId stack.deviceName ∧
          ∀ sig, lib.hmac key (sigText (Percent.encode unreserved deviceId)
            (seconds + tokenExpirySec)) = .ok sig → SignatureFits sig) := by
  cases token with
  | none => exact iff_of_true trivial fun h => absurd rfl h
  | some sasToken =>
    rw [sasTokenCreate]
    cases lib.base64Decode encodedKey with
    | error rc => exact iff_of_true trivial fun _ key h => nomatch h
    | ok key =>
      rw [library_ok, ok_bind]
      by_cases hfits : Fits 150 deviceId stack.deviceName
      · obtain ⟨deviceName, heq, hholds⟩ := urlEncode_of_fits hfits
        rw [heq, ok_bind]
        refine (sound_signToken_iff (encodes_encode hholds hfits.1)).trans ⟨fun h => ?_, fun h => ?_⟩
        · intro _ key' hkey
          cases hkey
          exact ⟨hfits, h⟩
        · exact (h (Option.some_ne_none _) key rfl).2
      · refine iff_of_false ?_ fun h => hfits (h (Option.some_ne_none _) key rfl).1
        obtain hfail | ⟨rfl, hfirst, hempty⟩ := urlEncode_of_not_fits (by decide) hfits
        · rw [hfail]
          exact id
        · rw [hempty, ok_bind]
          intro hsound
          obtain ⟨sr, hencodes⟩ := encodes_of_sound hsound
          exact hfirst hencodes.first_eq_zero

/-- **URL encoding**: a text is encoded where there is room for it, if it is not empty or else a
terminator is there already; and a token is made where there is room for the name of the device and
for the text of the signature. -/
theorem urlEncoding_iff (sizeofEnc n m : ℕ) (s : CString n) (enc : ℕ → Byte) (lib : Library)
    (stack : Stack) (seconds : BitVec 32) (sasToken : Option (ℕ → Byte)) (encodedKey : List Byte)
    (deviceId : CString m) :
    (UrlEncodes sizeofEnc s.chars (urlEncode sizeofEnc s.chars enc) ↔
      Fits sizeofEnc s.chars enc) ∧
    (Sound deviceId.chars (seconds + tokenExpirySec) sasTokenSize
        (sasTokenCreate lib stack seconds sasToken sasTokenSize encodedKey deviceId.chars) ↔
      (sasToken ≠ none → ∀ key, lib.base64Decode encodedKey = .ok key →
        Fits 150 deviceId.chars stack.deviceName ∧
          ∀ sig, lib.hmac key (sigText (Percent.encode unreserved deviceId.chars)
            (seconds + tokenExpirySec)) = .ok sig → SignatureFits sig)) :=
  ⟨urlEncodes_iff, sound_sasTokenCreate_iff sasToken encodedKey⟩

/-! ### The name of the device -/

/-- `ELIOT_HOST"/devices/"` -/
def hostDevices : List Byte := bytesOfString "eliot-iothub.azure-devices.net/devices/"

/-- `eliot_device_name`, as `Eliot_BuildMqttStrings` leaves it -/
def eliotDeviceName (eliotLcmModuleId : CString 37) : List Byte :=
  if eliotLcmModuleId.chars = [] then []
  else (hostDevices ++ eliotLcmModuleId.chars).take 76

/-- **The modules whose name fits**: nearly all characters of the id have to be escaped for it not
to. -/
theorem fits_eliotDeviceName_iff (eliotLcmModuleId : CString 37)
    (hne : eliotLcmModuleId.chars ≠ []) (array : ℕ → Byte) :
    Fits 150 (eliotDeviceName eliotLcmModuleId) array ↔
      eliotLcmModuleId.chars.length +
        2 * eliotLcmModuleId.chars.countP (fun c => !unreserved c) ≤ 106 := by
  have hhost : hostDevices.length = 39 ∧ hostDevices.countP (fun c => !unreserved c) = 2 := by
    decide +kernel
  have hsize := eliotLcmModuleId.fits
  have hname : eliotDeviceName eliotLcmModuleId = hostDevices ++ eliotLcmModuleId.chars := by
    rw [eliotDeviceName, if_neg hne, List.take_of_length_le]
    rw [List.length_append, hhost.1]
    omega
  have hname_ne : hostDevices ++ eliotLcmModuleId.chars ≠ [] :=
    List.append_ne_nil_of_right_ne_nil _ hne
  have hlength : (Percent.encode unreserved (eliotDeviceName eliotLcmModuleId)).length =
      39 + eliotLcmModuleId.chars.length +
        2 * (2 + eliotLcmModuleId.chars.countP fun c => !unreserved c) := by
    rw [hname, Percent.length_encode, List.length_append, List.countP_append, hhost.1, hhost.2]
  rw [Fits, hlength]
  constructor
  · rintro ⟨hfits, -⟩
    omega
  · intro hle
    exact ⟨by omega, .inl (hname ▸ hname_ne)⟩

/-- A module id of spaces only. -/
def spaces : CString 37 where
  chars := List.replicate 36 0x20
  noNul := by decide
  fits := by decide

/-- A library that signs everything with zeros. -/
def zeros : Library where
  base64Decode _ := .ok []
  hmac _ _ := .ok fun _ => 0

/-- The name of the device with this id does not fit into `deviceName`, and an empty text leaves an
array without a terminator. -/
theorem not_sound_spaces :
    ¬ Sound (eliotDeviceName spaces) (0 + tokenExpirySec) sasTokenSize
      (sasTokenCreate zeros ⟨fun _ => 0, fun _ => 0, fun _ => 0⟩ 0 (some fun _ => 0) sasTokenSize []
        (eliotDeviceName spaces)) ∧
    ¬ UrlEncodes 8 [] (urlEncode 8 [] fun _ => 1) := by
  constructor
  · intro h
    have hfits := (sound_sasTokenCreate_iff _ _).1 h (Option.some_ne_none _) [] rfl
    have hle := (fits_eliotDeviceName_iff spaces (by decide) _).1 hfits.1
    exact absurd hle (by decide +kernel)
  · intro h
    obtain ⟨-, hfirst⟩ := urlEncodes_iff.1 h
    obtain hne | hzero := hfirst
    · exact hne rfl
    · exact absurd hzero (by decide)

end SasToken

end Mqtt

end Lcm
