import Lcm.Jsa.Sockets

/-!
# Who reaches the JSON code

What the task does on a connection is meant to follow the protocol of challenge and response: the
JSON code is for connections that have sent the encryption of their challenge, and whoever sends it
is let through, however the characters arrive.

The code keeps to this as long as `malloc` returns the very buffer that was freed just before it,
and as long as a response consists of 32 hexadecimal characters.  On every pass over a connection
that is not authenticated, the buffer with the challenge and the response is freed and allocated
again, since `!size < n` does not compare the size with `n`; the characters are not checked, and
more than 32 of them go to the same places again.

## Main definitions

* `Authentic` : the property of a connection.
* `Regular` : the condition on a pass.
* `Agrees` : the invariant, which says what the session of a connection is in the socket.

## Main results

* `follows_socketPass` : a regular pass follows the protocol.
* `allStates_authentic` : in a run whose passes are regular, all connections are authentic.
* `not_allStates_authentic` : a connection that sends nothing is let through.
-/

namespace Lcm

namespace Jsa

open ChallengeResponse (Observation Scheme Session protocol responses Challenged Verified Described)

variable {encrypt : Block → Block → Block}

/-! ### Specification -/

variable (encrypt) in
/-- A challenge is answered by its encryption, in hexadecimal characters. -/
def scheme : Scheme Block Block (List Byte) Byte where
  answer key challenge := List.ofFn (encrypt key challenge)
  decode := Hex.decode

variable (encrypt) in
/-- The property of a socket, and of what has been seen on its connection. -/
structure Authentic (settings : Settings) (s : JsonSocket) (trace : List Seen) : Prop where
  /-- A socket is enabled for JSON only if its connection is exempt, or if all that was received
  on it as a response is the right one to the challenge that was sent on it. -/
  enabled : s.jsaState.jsonEnabled = true →
    .exempt ∈ trace ∨ Verified (scheme encrypt) trace
  /-- No byte is taken as JSON before that. -/
  input : ∀ before xs after, trace = before ++ .input xs :: after →
    .exempt ∈ before ∨ Verified (scheme encrypt) before
  /-- As soon as 32 characters have been received, the response is taken for complete. -/
  complete : ∀ c, Challenged trace c → .failed ∉ trace → 32 ≤ (responses trace).length →
    ∃ t, .answered t ∈ trace
  /-- The right response is accepted on the first pass after the wait. -/
  accepted : ∀ c t, Challenged trace c → .answered t ∈ trace →
    (∀ k, .accept k ∉ trace ∧ .refuse k ∉ trace) →
    (scheme encrypt).Correct settings.storedKey c (responses trace) →
    ∀ input, Serves input s → input.malloc = s.jsonReceiveMessage →
      (socketPass encrypt settings input s).value.jsaState =
        if input.evaluated > t + jsaEvalWaitSec then .authValid else .authReceived
  /-- It is never refused. -/
  refused : ∀ k, .refuse k ∈ trace →
    ∃ c, Challenged trace c ∧ ¬ (scheme encrypt).Correct k c (responses trace)

/-- The pass receives characters of the response. -/
def Receives (settings : Settings) (input : PassInput) (s : JsonSocket) : Prop :=
  input.recvFailed = false ∧ (s.jsaState = .challengeSent ∨ s.jsaState = .start ∧
    input.malloc.isSome = true ∧ s.WatchSocket = false ∧ settings.authEnabled = true)

instance (settings : Settings) (input : PassInput) (s : JsonSocket) :
    Decidable (Receives settings input s) := inferInstanceAs (Decidable (_ ∧ _))

/-- The number of characters received before the pass. -/
def receivedCount (s : JsonSocket) : ℕ :=
  if s.jsaState = .challengeSent then (s.jsonReceiveMessage.map (·.rxCount.toNat)).getD 0 else 0

/-- The condition on a pass. -/
structure Regular (settings : Settings) (input : PassInput) (s : JsonSocket) : Prop where
  /-- While the challenge and the response are in the buffer, `malloc` returns what was freed. -/
  malloc : s.jsaState = .challengeSent ∨ s.jsaState = .authReceived →
    input.malloc = s.jsonReceiveMessage
  /-- The characters of the response are hexadecimal digits. -/
  digits : Receives settings input s → Hex.Digits input.received
  /-- There are no more than 32 of them. -/
  length : Receives settings input s → receivedCount s + input.received.length ≤ 32

theorem regular_iff {settings : Settings} {input : PassInput} {s : JsonSocket} :
    Regular settings input s ↔
      (s.jsaState = .challengeSent ∨ s.jsaState = .authReceived →
        input.malloc = s.jsonReceiveMessage) ∧
      (Receives settings input s → Hex.Digits input.received ∧
        receivedCount s + input.received.length ≤ 32) :=
  ⟨fun h => ⟨h.malloc, fun hreceives => ⟨h.digits hreceives, h.length hreceives⟩⟩,
    fun h => ⟨h.1, fun hreceives => (h.2 hreceives).1, fun hreceives => (h.2 hreceives).2⟩⟩

instance (settings : Settings) (input : PassInput) (s : JsonSocket) :
    Decidable (Regular settings input s) := decidable_of_iff _ regular_iff.symm

/-- The step is a regular pass, or no pass. -/
def RegularStep (st : State) : Event → Prop
  | .pass i input =>
    Serves input (st.jsonSockets i) → Regular st.settings input (st.jsonSockets i)
  | _ => True

instance (st : State) : (e : Event) → Decidable (RegularStep st e)
  | .pass i input => inferInstanceAs
    (Decidable (Serves input (st.jsonSockets i) → Regular st.settings input (st.jsonSockets i)))
  | .accept _ _ => .isTrue trivial
  | .shutdown _ => .isTrue trivial
  | .handleKeysProperty _ _ => .isTrue trivial
  | .configure _ => .isTrue trivial

/-! ### The response, one character after the other -/

/-- The buffer holds a challenge, and the characters of a response. -/
structure Holds (jsa : JsonSocketAuth) (c : Block) (r : List Byte) : Prop where
  /-- The challenge. -/
  phrase : jsa.challengePhrase = c
  /-- The number of characters. -/
  count : jsa.rxCount.toNat = r.length
  /-- The characters. -/
  response : jsa.challengeResponse = fun j : Fin 16 => Hex.byteAt r j

theorem nibble_of_digit {x d : Byte} (h : Hex.digit x = some d) : nibble x = d := by
  have hall : ∀ x : Byte, (Hex.digit x).getD (nibble x) = nibble x := by decide +kernel
  have hx := hall x
  rw [h] at hx
  exact hx.symm

theorem toNat_shiftRight_and (b : Byte) : ((b >>> 1) &&& 15).toNat = b.toNat / 2 % 16 := by
  rw [BitVec.toNat_and, BitVec.toNat_ushiftRight, Nat.shiftRight_eq_div_pow]
  exact Nat.and_two_pow_sub_one_eq_mod _ 4

theorem and_one_ne_zero_iff (b : Byte) : b &&& 1 ≠ 0 ↔ b.toNat % 2 = 1 := by
  have hmod : (b &&& 1).toNat = b.toNat % 2 := by
    rw [BitVec.toNat_and]
    exact Nat.and_one_is_mod _
  rw [ne_eq, ← BitVec.toNat_inj, hmod]
  exact Nat.mod_two_ne_zero

/-- A hexadecimal character is put into its place, as long as the response is not complete. -/
theorem Holds.receiveCharacter {jsa : JsonSocketAuth} {c : Block} {r : List Byte} {x : Byte}
    (h : Holds jsa c r) (hr : r.length < 32) (hx : (Hex.digit x).isSome) :
    Holds (receiveCharacter jsa x) c (r ++ [x]) := by
  obtain ⟨d, hd⟩ := Option.isSome_iff_exists.1 hx
  refine ⟨h.phrase, ?_, ?_⟩
  · show (jsa.rxCount + 1).toNat = (r ++ [x]).length
    have hcount := h.count
    have hone : (1 : Byte).toNat = 1 := rfl
    rw [BitVec.toNat_add, hone, List.length_append, List.length_singleton, hcount]
    exact Nat.mod_eq_of_lt (by omega)
  · have hidx : ((jsa.rxCount >>> 1) &&& 15).toNat = r.length / 2 := by
      rw [toNat_shiftRight_and, h.count]
      omega
    have hlt : ((jsa.rxCount >>> 1) &&& 15).toNat < 16 := by omega
    refine Eq.trans ?_ (Hex.update_byteAt hd ⟨_, hlt⟩ hidx)
    simp only [Jsa.receiveCharacter, h.response, nibble_of_digit hd, and_one_ne_zero_iff, h.count]

/-- All characters of a pass are put into their places. -/
theorem Holds.receive {jsa : JsonSocketAuth} {c : Block} {r xs : List Byte} (h : Holds jsa c r)
    (hlength : r.length + xs.length ≤ 32) (hxs : Hex.Digits xs) :
    Holds (xs.foldl Jsa.receiveCharacter jsa) c (r ++ xs) := by
  induction xs generalizing jsa r with
  | nil => simpa using h
  | cons x xs ih =>
    obtain ⟨hx, hxs⟩ := Hex.digits_cons.1 hxs
    rw [List.length_cons] at hlength
    have hnext : Holds (Jsa.receiveCharacter jsa x) c (r ++ [x]) :=
      h.receiveCharacter (by omega) hx
    have hrest := ih hnext (by rw [List.length_append, List.length_singleton]; omega) hxs
    rwa [List.append_assoc] at hrest

/-- The comparison tells whether the response is the right one. -/
theorem Holds.correct_iff {jsa : JsonSocketAuth} {c : Block} {r : List Byte} (h : Holds jsa c r)
    (hdigits : Hex.Digits r) (hlength : r.length = 32) (key : Block) :
    (scheme encrypt).Correct key c r ↔
      encrypt key jsa.challengePhrase = jsa.challengeResponse := by
  have hdecode : Hex.decode r = some (List.ofFn jsa.challengeResponse) := by
    rw [h.response]
    exact Hex.decode_eq_ofFn hdigits hlength
  rw [h.phrase]
  show Hex.decode r = some (List.ofFn (encrypt key c)) ↔ _
  rw [hdecode, Option.some_inj, List.ofFn_inj]
  exact eq_comm

/-! ### The session in the socket -/

/-- The session of a connection, as it is found in the socket.  The buffer matters as long as the
connection is open. -/
def Agrees (connected : Prop) (s : JsonSocket) : Session Block Block Byte Dword → Prop
  | .fresh => s.jsaState = .start ∨ s.jsaState = .idle ∨ s.jsaState = .lowMem
  | .exempt => s.jsaState = .authDefeated ∨ s.jsaState = .requireSetKey
  | .challenged c r => s.jsaState = .challengeSent ∧ Hex.Digits r ∧ r.length < 32 ∧
    (connected → ∃ jsa, s.jsonReceiveMessage = some jsa ∧ Holds jsa c r)
  | .failed => s.jsaState = .idle ∨ s.jsaState = .lowMem
  | .answered c r t => s.jsaState = .authReceived ∧ Hex.Digits r ∧ r.length = 32 ∧
    (connected → ∃ jsa, s.jsonReceiveMessage = some jsa ∧ Holds jsa c r ∧
      jsa.eventTimer = t + jsaEvalWaitSec)
  | .accepted _ _ _ => s.jsaState = .authValid
  | .refused _ _ _ => s.jsaState = .authDenied ∨ s.jsaState = .lowMem

theorem Agrees.mono {connected connected' : Prop} {s : JsonSocket}
    {h : Session Block Block Byte Dword} (hagrees : Agrees connected s h)
    (himp : connected' → connected) : Agrees connected' s h := by
  cases h with
  | challenged c r =>
    obtain ⟨hstate, hdigits, hlength, hbuffer⟩ := hagrees
    exact ⟨hstate, hdigits, hlength, fun h => hbuffer (himp h)⟩
  | answered c r t =>
    obtain ⟨hstate, hdigits, hlength, hbuffer⟩ := hagrees
    exact ⟨hstate, hdigits, hlength, fun h => hbuffer (himp h)⟩
  | _ => exact hagrees

/-- Only the state matters, and the buffer while the challenge is in it. -/
theorem Agrees.congr {connected : Prop} {s s' : JsonSocket} {h : Session Block Block Byte Dword}
    (hagrees : Agrees connected s h) (hstate : s'.jsaState = s.jsaState)
    (hbuffer : s.jsaState = .challengeSent ∨ s.jsaState = .authReceived →
      s'.jsonReceiveMessage = s.jsonReceiveMessage) : Agrees connected s' h := by
  cases h with
  | challenged c r =>
    obtain ⟨hs, hdigits, hlength, hjsa⟩ := hagrees
    exact ⟨hstate.trans hs, hdigits, hlength, fun h => (hbuffer (.inl hs)).symm ▸ hjsa h⟩
  | answered c r t =>
    obtain ⟨hs, hdigits, hlength, hjsa⟩ := hagrees
    exact ⟨hstate.trans hs, hdigits, hlength, fun h => (hbuffer (.inr hs)).symm ▸ hjsa h⟩
  | _ => simpa only [Agrees, hstate] using hagrees

/-- A connection that is not enabled can run out of memory unless the challenge is in its
buffer. -/
theorem Agrees.lowMem {s s' : JsonSocket} {h : Session Block Block Byte Dword}
    (hagrees : Agrees True s h) (henabled : s.jsaState.jsonEnabled = false)
    (hbuffer : s.jsaState = .challengeSent ∨ s.jsaState = .authReceived →
      s.jsonReceiveMessage = none) (hs' : s'.jsaState = .lowMem) :
    Agrees True s' h ∧ ∀ c r, h ≠ .challenged c r := by
  cases h with
  | fresh => exact ⟨.inr (.inr hs'), nofun⟩
  | exempt => rcases hagrees with hs | hs <;> rw [hs] at henabled <;> cases henabled
  | challenged c r =>
    obtain ⟨hs, -, -, hjsa⟩ := hagrees
    obtain ⟨jsa, hjsa, -⟩ := hjsa trivial
    rw [hbuffer (.inl hs)] at hjsa
    cases hjsa
  | failed => exact ⟨.inr hs', nofun⟩
  | answered c r t =>
    obtain ⟨hs, -, -, hjsa⟩ := hagrees
    obtain ⟨jsa, hjsa, -⟩ := hjsa trivial
    rw [hbuffer (.inr hs)] at hjsa
    cases hjsa
  | accepted c r k =>
    have hs : s.jsaState = .authValid := hagrees
    rw [hs] at henabled
    cases henabled
  | refused c r k => exact ⟨.inr hs', nofun⟩

/-- Only a connection on which nothing has been seen is in the state `JSA_STATE_START`. -/
theorem Agrees.of_start {connected : Prop} {s : JsonSocket} {h : Session Block Block Byte Dword}
    (hagrees : Agrees connected s h) (hs : s.jsaState = .start) : h = .fresh := by
  cases h <;> simp_all [Agrees]

variable (encrypt) in
/-- What is seen in a part of a pass follows the protocol, and `P` holds afterwards. -/
def Follows (h : Session Block Block Byte Dword) (x : Logged Seen JsonSocket)
    (P : JsonSocket → Session Block Block Byte Dword → Prop) : Prop :=
  ∃ h', (protocol (scheme encrypt) Dword).run h x.log = some h' ∧ P x.value h'

section Follows

variable {P Q : JsonSocket → Session Block Block Byte Dword → Prop}
  {h : Session Block Block Byte Dword}

theorem Follows.pure {s : JsonSocket} (hs : P s h) : Follows encrypt h (pure s) P := ⟨h, rfl, hs⟩

theorem Follows.bind {x : Logged Seen JsonSocket} {f : JsonSocket → Logged Seen JsonSocket}
    (hx : Follows encrypt h x P) (hf : ∀ s h', P s h' → Follows encrypt h' (f s) Q) :
    Follows encrypt h (x >>= f) Q := by
  obtain ⟨h', hrun, hP⟩ := hx
  obtain ⟨h'', hrun', hQ⟩ := hf x.value h' hP
  refine ⟨h'', ?_, hQ⟩
  rw [Logged.log_bind, Machine.run_append, hrun]
  exact hrun'

/-- One observation, and what follows it. -/
theorem Follows.touch {o : Seen} {h' : Session Block Block Byte Dword}
    {x : Logged Seen JsonSocket} (ho : h.next (scheme encrypt) o = some h')
    (hx : Follows encrypt h' x P) : Follows encrypt h (Logged.touch o >>= fun _ => x) P := by
  obtain ⟨h'', hrun, hP⟩ := hx
  refine ⟨h'', ?_, hP⟩
  show (protocol (scheme encrypt) Dword).run h (o :: x.log) = some h''
  rw [Machine.run]
  show (h.next (scheme encrypt) o).bind _ = some h''
  rw [ho]
  exact hrun

end Follows

/-! ### The parts of a pass -/

theorem authEnabled_eq_false_iff {settings : Settings} : settings.authEnabled = false ↔
    settings.factoryAuthInit ≠ factoryAuthInitEnabled ∧ (!settings.userKeyIsSet) = true := by
  simp [Settings.authEnabled]

@[simp] theorem attach_jsaState (input : PassInput) (s : JsonSocket) :
    (attach input s).jsaState = s.jsaState := by
  unfold attach; split_ifs <;> rfl

@[simp] theorem attach_jsonReceiveMessage (input : PassInput) (s : JsonSocket) :
    (attach input s).jsonReceiveMessage = s.jsonReceiveMessage := by
  unfold attach; split_ifs <;> rfl

@[simp] theorem attach_WatchSocket (input : PassInput) (s : JsonSocket) :
    (attach input s).WatchSocket = s.WatchSocket := by
  unfold attach; split_ifs <;> rfl

/-- **The buffer is allocated on every pass**: what is compared with the size is 0 or 1. -/
theorem allocates (s : JsonSocket) :
    (if s.jsonReceiveMessageAllocSize = 0 then 1 else 0) < sizeofJsonSocketAuth := by
  split_ifs <;> decide

theorem allocate_of_some {input : PassInput} {s : JsonSocket} {jsa : JsonSocketAuth}
    (h : input.malloc = some jsa) :
    (allocate input s).jsaState = s.jsaState ∧
      (allocate input s).jsonReceiveMessage = some jsa := by
  rw [allocate, if_pos (allocates s), h]
  exact ⟨rfl, rfl⟩

theorem allocate_of_none {input : PassInput} {s : JsonSocket} (h : input.malloc = none) :
    (allocate input s).jsaState = .lowMem := by
  rw [allocate, if_pos (allocates s), h]

@[simp] theorem allocate_WatchSocket (input : PassInput) (s : JsonSocket) :
    (allocate input s).WatchSocket = s.WatchSocket := by
  rw [allocate, if_pos (allocates s)]
  cases input.malloc <;> rfl

theorem startAuth_of_ne {settings : Settings} {input : PassInput} {s : JsonSocket}
    (h : s.jsaState ≠ .start) : startAuth settings input s = pure s := by
  unfold startAuth
  split
  · exact absurd ‹_› h
  · rfl

theorem receiveResponse_of_ne {input : PassInput} {s : JsonSocket}
    (h : s.jsaState ≠ .challengeSent) : receiveResponse input s = pure s := by
  unfold receiveResponse
  split
  · exact absurd ‹_› h
  · rfl

theorem evaluateResponse_of_ne {settings : Settings} {input : PassInput} {s : JsonSocket}
    (h : s.jsaState ≠ .authReceived) : evaluateResponse encrypt settings input s = pure s := by
  unfold evaluateResponse
  split
  · exact absurd ‹_› h
  · rfl

/-- What is known of a connection when its characters are to be received. -/
def ReadyToReceive (input : PassInput) (s : JsonSocket) (h : Session Block Block Byte Dword) :
    Prop :=
  Agrees True s h ∧ ∀ c r, h = .challenged c r → input.recvFailed = false →
    Hex.Digits input.received ∧ r.length + input.received.length ≤ 32

theorem Agrees.readyToReceive {input : PassInput} {s : JsonSocket}
    {h : Session Block Block Byte Dword} (hagrees : Agrees True s h)
    (hne : ∀ c r, h ≠ .challenged c r) : ReadyToReceive input s h :=
  ⟨hagrees, fun c r heq => absurd heq (hne c r)⟩

/-- A connection that has not been looked at is exempt, or it is challenged. -/
theorem follows_startAuth {settings : Settings} {input : PassInput} {s : JsonSocket}
    {jsa : JsonSocketAuth} (hstate : s.jsaState = .start)
    (hbuffer : s.jsonReceiveMessage = some jsa)
    (hreceives : s.WatchSocket = false → settings.authEnabled = true →
      input.recvFailed = false → Hex.Digits input.received ∧ input.received.length ≤ 32) :
    Follows encrypt .fresh (startAuth settings input s) (ReadyToReceive input) := by
  have hexempt : ∀ s' : JsonSocket, s'.jsaState = .authDefeated ∨ s'.jsaState = .requireSetKey →
      Follows encrypt .fresh (do .touch .exempt; pure s') (ReadyToReceive input) :=
    fun s' hs' => .touch rfl (.pure (Agrees.readyToReceive hs' nofun))
  unfold startAuth
  rw [hstate, hbuffer]
  dsimp only
  by_cases hwatch : s.WatchSocket = true
  · rw [if_pos hwatch]
    exact hexempt _ (.inl rfl)
  · rw [if_neg hwatch]
    by_cases hauth : settings.authEnabled = true
    · rw [if_neg (mt authEnabled_eq_false_iff.2 (by simpa using hauth))]
      have hempty : (fun _ => 0 : Block) = fun j : Fin 16 => Hex.byteAt [] j :=
        funext fun j => (Hex.byteAt_nil j).symm
      refine .touch rfl (.pure ⟨⟨rfl, nofun, by decide, fun _ => ⟨_, rfl, rfl, rfl, hempty⟩⟩, ?_⟩)
      rintro c r ⟨⟩ hfailed
      simpa using hreceives (by simpa using hwatch) hauth hfailed
    · rw [if_pos (authEnabled_eq_false_iff.1 (by simpa using hauth))]
      by_cases hset : settings.authExempt = authNotExempt
      · simp only [if_pos hset]
        exact hexempt _ (.inr rfl)
      · simp only [if_neg hset]
        exact hexempt _ (.inl rfl)

/-- Up to the challenge, a regular pass follows the protocol. -/
theorem follows_allocate {settings : Settings} {input : PassInput} {s : JsonSocket}
    {h : Session Block Block Byte Dword} (hagrees : Agrees True s h)
    (henabled : s.jsaState.jsonEnabled = false) (hregular : Regular settings input s) :
    Follows encrypt h (startAuth settings input (allocate input s)) (ReadyToReceive input) := by
  cases hmalloc : input.malloc with
  | none =>
    -- then no buffer was freed with a challenge in it
    have hstate := allocate_of_none (s := s) hmalloc
    obtain ⟨hnext, hne⟩ := hagrees.lowMem henabled
      (fun hs => (hregular.malloc hs).symm.trans hmalloc) hstate
    rw [startAuth_of_ne (by rw [hstate]; decide)]
    exact .pure (hnext.readyToReceive hne)
  | some jsa =>
    obtain ⟨hstate, hbuffer⟩ := allocate_of_some (s := s) hmalloc
    by_cases hstart : s.jsaState = .start
    · obtain rfl := hagrees.of_start hstart
      refine follows_startAuth (hstate.trans hstart) hbuffer fun hwatch hauth hfailed => ?_
      have hreceives : Receives settings input s :=
        ⟨hfailed, .inr ⟨hstart, by rw [hmalloc]; rfl, by simpa using hwatch, hauth⟩⟩
      refine ⟨hregular.digits hreceives, ?_⟩
      have hlength := hregular.length hreceives
      rwa [receivedCount, hstart, if_neg (by decide), Nat.zero_add] at hlength
    · -- whatever is in the buffer is still in it
      rw [startAuth_of_ne (by rwa [hstate])]
      have hnext : Agrees True (allocate input s) h := by
        refine hagrees.congr hstate fun hs => ?_
        rw [hbuffer, ← hmalloc, hregular.malloc hs]
      refine .pure ⟨hnext, ?_⟩
      rintro c r rfl hfailed
      obtain ⟨hs, -, -, hjsa⟩ := hagrees
      obtain ⟨jsa', hjsa', hholds⟩ := hjsa trivial
      have hreceives : Receives settings input s := ⟨hfailed, .inl hs⟩
      refine ⟨hregular.digits hreceives, ?_⟩
      have hlength := hregular.length hreceives
      rwa [receivedCount, if_pos hs, hjsa', Option.map_some, Option.getD_some, hholds.count]
        at hlength

/-- The characters that are received follow the protocol. -/
theorem follows_receiveResponse {input : PassInput} {s : JsonSocket}
    {h : Session Block Block Byte Dword} (hready : ReadyToReceive input s h) :
    Follows encrypt h (receiveResponse input s) (Agrees True) := by
  obtain ⟨hagrees, hreceived⟩ := hready
  by_cases hs : s.jsaState = .challengeSent
  swap
  · rw [receiveResponse_of_ne hs]
    exact .pure hagrees
  obtain ⟨c, r, rfl⟩ : ∃ c r, h = .challenged c r := by
    cases h <;> simp_all [Agrees]
  obtain ⟨-, hdigits, hlength, hjsa⟩ := hagrees
  obtain ⟨jsa, hjsa, hholds⟩ := hjsa trivial
  unfold receiveResponse
  rw [hs, hjsa]
  dsimp only
  refine .touch rfl ?_
  by_cases hfailed : input.recvFailed = true
  · rw [if_pos hfailed]
    exact .touch rfl (.pure (.inl rfl))
  · rw [if_neg hfailed]
    obtain ⟨hxs, hle⟩ := hreceived c r rfl (by simpa using hfailed)
    have hholds := hholds.receive hle hxs
    have hdigits := Hex.digits_append.2 ⟨hdigits, hxs⟩
    have hcount : (input.received.foldl receiveCharacter jsa).rxCount ≥ 32 ↔
        32 ≤ (r ++ input.received).length := by
      rw [← hholds.count]
      exact BitVec.le_def
    by_cases hcomplete : (input.received.foldl receiveCharacter jsa).rxCount ≥ 32
    · rw [if_pos hcomplete]
      -- there are not more, since those would have gone to the same places again
      have hlength' : (r ++ input.received).length = 32 := by
        have := hcount.1 hcomplete
        rw [List.length_append] at this ⊢
        omega
      exact .touch rfl (.pure ⟨rfl, hdigits, hlength', fun _ =>
        ⟨_, rfl, ⟨hholds.phrase, hholds.count, hholds.response⟩, rfl⟩⟩)
    · rw [if_neg hcomplete]
      exact .pure ⟨rfl, hdigits, Nat.lt_of_not_le (mt hcount.2 hcomplete), fun _ =>
        ⟨_, rfl, hholds⟩⟩

/-- The evaluation follows the protocol. -/
theorem follows_evaluateResponse {settings : Settings} {input : PassInput} {s : JsonSocket}
    {h : Session Block Block Byte Dword} (hagrees : Agrees True s h) :
    Follows encrypt h (evaluateResponse encrypt settings input s) (Agrees True) := by
  by_cases hs : s.jsaState = .authReceived
  swap
  · rw [evaluateResponse_of_ne hs]
    exact .pure hagrees
  obtain ⟨c, r, t, rfl⟩ : ∃ c r t, h = .answered c r t := by
    cases h <;> simp_all [Agrees]
  have hstays := hagrees
  obtain ⟨-, hdigits, hlength, hjsa⟩ := hagrees
  obtain ⟨jsa, hjsa, hholds, htimer⟩ := hjsa trivial
  have hcorrect : (scheme encrypt).Correct settings.storedKey c r ↔
      encrypt settings.storedKey jsa.challengePhrase = jsa.challengeResponse :=
    hholds.correct_iff hdigits hlength settings.storedKey
  unfold evaluateResponse
  rw [hs, hjsa]
  dsimp only
  by_cases hdue : input.evaluated > jsa.eventTimer
  · rw [if_pos hdue]
    by_cases hright : encrypt settings.storedKey jsa.challengePhrase = jsa.challengeResponse
    · rw [if_neg (not_not_intro hright)]
      exact .touch (if_pos (hcorrect.2 hright)) (.pure rfl)
    · rw [if_pos hright]
      exact .touch (if_neg (mt hcorrect.1 hright)) (.pure (.inl rfl))
  · rw [if_neg hdue]
    exact .pure hstays

@[simp] theorem shutdownSocket_jsaState (s : JsonSocket) :
    (shutdownSocket s).jsaState = s.jsaState := by
  unfold shutdownSocket; split <;> rfl

@[simp] theorem shutdownSocket_JSONSocketConnection (s : JsonSocket) :
    (shutdownSocket s).JSONSocketConnection = 0 := by
  unfold shutdownSocket; split <;> rfl

theorem closeDenied_of_ne {input : PassInput} {s : JsonSocket} (h : s.jsaState ≠ .authDenied) :
    closeDenied input s = s := by
  unfold closeDenied
  split
  · exact absurd ‹_› h
  · rfl

@[simp] theorem closeDenied_jsaState (input : PassInput) (s : JsonSocket) :
    (closeDenied input s).jsaState = s.jsaState := by
  unfold closeDenied
  split
  · split_ifs
    · exact shutdownSocket_jsaState s
    · rfl
  · rfl

/-- A connection that is denied may be closed. -/
theorem Agrees.closeDenied {connected : Prop} {input : PassInput} {s : JsonSocket}
    {h : Session Block Block Byte Dword} (hagrees : Agrees connected s h) :
    Agrees connected (closeDenied input s) h := by
  by_cases hs : s.jsaState = .authDenied
  · refine hagrees.congr (closeDenied_jsaState input s) fun hne => ?_
    rw [hs] at hne
    rcases hne with hne | hne <;> cases hne
  · rwa [closeDenied_of_ne hs]

/-- The authentication of a socket follows the protocol. -/
theorem follows_authenticate {settings : Settings} {input : PassInput} {s : JsonSocket}
    {h : Session Block Block Byte Dword} (hagrees : Agrees True s h)
    (henabled : s.jsaState.jsonEnabled = false) (hregular : Regular settings input s) :
    Follows encrypt h (authenticate encrypt settings input s) (Agrees True) :=
  (follows_allocate hagrees henabled hregular).bind fun _ _ hready =>
    (follows_receiveResponse hready).bind fun _ _ hreceived =>
      (follows_evaluateResponse hreceived).bind fun _ _ hevaluated =>
        .pure hevaluated.closeDenied

/-- Only a connection that is exempt or accepted is enabled for JSON. -/
theorem Agrees.of_jsonEnabled {connected : Prop} {s : JsonSocket}
    {h : Session Block Block Byte Dword} (hagrees : Agrees connected s h)
    (henabled : s.jsaState.jsonEnabled = true) : h = .exempt ∨ ∃ c r k, h = .accepted c r k := by
  have hne : ∀ state, s.jsaState = state → state.jsonEnabled = true :=
    fun state hstate => hstate ▸ henabled
  cases h with
  | exempt => exact .inl rfl
  | accepted c r k => exact .inr ⟨c, r, k, rfl⟩
  | fresh => rcases hagrees with hs | hs | hs <;> cases hne _ hs
  | challenged c r => cases hne _ hagrees.1
  | failed => rcases hagrees with hs | hs <;> cases hne _ hs
  | answered c r t => cases hne _ hagrees.1
  | refused c r k => rcases hagrees with hs | hs <;> cases hne _ hs

theorem Regular.attach {settings : Settings} {input : PassInput} {s : JsonSocket}
    (h : Regular settings input s) : Regular settings input (attach input s) := by
  refine ⟨?_, ?_, ?_⟩
  · simpa using h.malloc
  · simpa [Receives] using h.digits
  · simpa [Receives, receivedCount] using h.length

/-- **A regular pass follows the protocol**, and leaves in the socket what the connection has come
to. -/
theorem follows_socketPass {settings : Settings} {input : PassInput} {s : JsonSocket}
    {h : Session Block Block Byte Dword} (hagrees : Agrees (s.JSONSocketConnection ≠ 0) s h)
    (hregular : Serves input s → Regular settings input s) :
    Follows encrypt h (socketPass encrypt settings input s)
      fun s' h' => Agrees (s'.JSONSocketConnection ≠ 0) s' h' := by
  have hattach : s.JSONSocketConnection ≠ 0 → Agrees True (attach input s) h := fun hopen =>
    (hagrees.mono fun _ => hopen).congr (attach_jsaState input s)
      fun _ => attach_jsonReceiveMessage input s
  unfold socketPass
  by_cases hserves : Serves input s
  · rw [if_pos hserves]
    have hagrees := hattach hserves.1
    by_cases henabled : (attach input s).jsaState.jsonEnabled = true
    · rw [if_neg (by simpa using henabled)]
      by_cases hempty : input.transmitQueueIsEmpty = true
      · rw [if_pos hempty]
        rcases hagrees.of_jsonEnabled henabled with rfl | ⟨c, r, k, rfl⟩
        · exact .touch rfl (.pure hagrees)
        · exact .touch rfl (.pure hagrees)
      · rw [if_neg hempty]
        exact .pure (hagrees.mono fun _ => trivial)
    · rw [if_pos (by simpa using henabled)]
      have hfollows : Follows encrypt h
          (authenticate encrypt settings input (attach input s)) (Agrees True) :=
        follows_authenticate hagrees (by simpa using henabled) (hregular hserves).attach
      obtain ⟨h', hrun, hafter⟩ := hfollows
      exact ⟨h', hrun, hafter.mono fun _ => trivial⟩
  · rw [if_neg hserves]
    by_cases hopen : s.JSONSocketConnection = 0
    · rw [if_neg (not_not_intro hopen)]
      exact .pure hagrees
    · rw [if_pos hopen]
      exact .pure ((hattach hopen).mono fun _ => trivial)

/-! ### The property of a connection -/

/-- A response that waits is evaluated on the first pass after the wait. -/
theorem socketPass_of_answered {settings : Settings} {input : PassInput} {s : JsonSocket}
    {jsa : JsonSocketAuth} (hstate : s.jsaState = .authReceived)
    (hbuffer : s.jsonReceiveMessage = some jsa) (hserves : Serves input s)
    (hmalloc : input.malloc = s.jsonReceiveMessage)
    (hright : encrypt settings.storedKey jsa.challengePhrase = jsa.challengeResponse) :
    (socketPass encrypt settings input s).value.jsaState =
      if input.evaluated > jsa.eventTimer then .authValid else .authReceived := by
  obtain ⟨hstate', hbuffer'⟩ := allocate_of_some (s := attach input s) (hmalloc.trans hbuffer)
  rw [attach_jsaState, hstate] at hstate'
  have hpass : socketPass encrypt settings input s =
      authenticate encrypt settings input (attach input s) := by
    have henabled : (!(attach input s).jsaState.jsonEnabled) = true := by
      rw [attach_jsaState, hstate]
      rfl
    rw [socketPass, if_pos hserves]
    exact if_pos henabled
  have hparts : authenticate encrypt settings input (attach input s) =
      evaluateResponse encrypt settings input (allocate input (attach input s)) >>=
        fun s => pure (closeDenied input s) := by
    rw [authenticate, startAuth_of_ne (by rw [hstate']; decide), pure_bind,
      receiveResponse_of_ne (by rw [hstate']; decide), pure_bind]
  rw [hpass, hparts, Logged.value_bind, Logged.value_pure, closeDenied_jsaState]
  unfold evaluateResponse
  rw [hstate', hbuffer']
  dsimp only
  by_cases hdue : input.evaluated > jsa.eventTimer
  · rw [if_pos hdue, if_pos hdue, if_neg (not_not_intro hright)]
    rfl
  · rw [if_neg hdue, if_neg hdue]
    exact hstate'

/-- **A connection that follows the protocol is authentic.** -/
theorem authentic_of_run {settings : Settings} {s : JsonSocket} {trace : List Seen}
    {h : Session Block Block Byte Dword}
    (hrun : (protocol (scheme encrypt) Dword).run .fresh trace = some h)
    (hagrees : Agrees (s.JSONSocketConnection ≠ 0) s h) : Authentic encrypt settings s trace := by
  have hdescribed := ChallengeResponse.described_of_run hrun
  refine ⟨fun henabled => ?_, ?_, ?_, ?_, fun k hk => ChallengeResponse.wrong_of_refuse hrun hk⟩
  · -- enabled
    rcases hagrees.of_jsonEnabled henabled with rfl | ⟨c, r, k, rfl⟩
    · exact .inl hdescribed.1
    · exact .inr hdescribed.verified
  · -- input
    rintro before xs after rfl
    exact ChallengeResponse.verified_of_input hrun
  · -- complete: a connection that still waits for characters has received less than 32
    intro c hc hfailed hlength
    cases h with
    | fresh =>
      obtain rfl : trace = [] := hdescribed
      exact absurd ((hc c).2 rfl) List.not_mem_nil
    | exempt => exact absurd ((hc c).2 rfl) (hdescribed.2 c)
    | challenged c' r =>
      rw [hdescribed.2] at hlength
      exact absurd hlength (Nat.not_le_of_lt hagrees.2.2.1)
    | failed => exact absurd hdescribed hfailed
    | answered c' r t => exact ⟨t, hdescribed.2.2⟩
    | accepted c' r k => exact hdescribed.2.2.1
    | refused c' r k => exact hdescribed.2.2.1
  · -- accepted
    intro c t hc ht hopen hright input hserves hmalloc
    obtain ⟨c', r, rfl⟩ := ChallengeResponse.answered_of_mem hrun ht hopen
    obtain ⟨hc', rfl, -⟩ := hdescribed
    obtain rfl : c' = c := (hc c').1 ((hc' c').2 rfl)
    obtain ⟨hstate, hdigits, hlength, hjsa⟩ := hagrees
    obtain ⟨jsa, hjsa, hholds, htimer⟩ := hjsa hserves.1
    rw [socketPass_of_answered hstate hjsa hserves hmalloc
      ((hholds.correct_iff hdigits hlength _).1 hright), htimer]

/-- A connection that is not subject to authentication: one of the Apple Watch port, or any as long
as no key is enabled. -/
def Exempt (settings : Settings) (s : JsonSocket) : Prop :=
  s.WatchSocket = true ∨ settings.authEnabled = false

/-- In the step, no other connection is exempt. -/
def ExemptsOnly (encrypt : Block → Block → Block) (st : State) : Event → Prop
  | .pass i input =>
    .exempt ∈ (socketPass encrypt st.settings input (st.jsonSockets i)).log →
      Exempt st.settings (st.jsonSockets i)
  | _ => True

theorem all_startAuth (settings : Settings) (input : PassInput) (s : JsonSocket) :
    (startAuth settings input s).All fun o => o = .exempt → Exempt settings s := by
  unfold startAuth
  split
  · by_cases hwatch : s.WatchSocket = true
    · rw [if_pos hwatch]
      simp [Exempt, hwatch]
    · rw [if_neg hwatch]
      by_cases hauth : settings.authEnabled = false
      · have hexempt : Exempt settings s := .inr hauth
        rw [if_pos (authEnabled_eq_false_iff.1 hauth)]
        split_ifs <;> simp [hexempt]
      · rw [if_neg (mt authEnabled_eq_false_iff.2 hauth)]
        simp
  · exact Logged.all_pure _

theorem all_receiveResponse (input : PassInput) (s : JsonSocket) :
    (receiveResponse input s).All (· ≠ .exempt) := by
  unfold receiveResponse
  split
  · simp only [Logged.all_bind, Logged.all_touch]
    split_ifs <;> simp
  · exact Logged.all_pure _

theorem all_evaluateResponse (settings : Settings) (input : PassInput) (s : JsonSocket) :
    (evaluateResponse encrypt settings input s).All (· ≠ .exempt) := by
  unfold evaluateResponse
  split
  · split_ifs <;> simp
  · exact Logged.all_pure _

theorem all_socketPass (settings : Settings) (input : PassInput) (s : JsonSocket) :
    (socketPass encrypt settings input s).All fun o => o = .exempt → Exempt settings s := by
  unfold socketPass
  by_cases hserves : Serves input s
  · rw [if_pos hserves]
    dsimp only
    by_cases henabled : (!(attach input s).jsaState.jsonEnabled) = true
    · rw [if_pos henabled, authenticate]
      simp only [Logged.all_bind, Logged.all_pure, and_true]
      refine ⟨fun o ho heq => ?_, fun o ho heq => ?_, fun o ho heq => ?_⟩
      · simpa [Exempt] using all_startAuth _ _ _ o ho heq
      · exact absurd heq (all_receiveResponse _ _ o ho)
      · exact absurd heq (all_evaluateResponse _ _ _ o ho)
    · rw [if_neg henabled]
      split_ifs <;> simp [receiveJson]
  · rw [if_neg hserves]
    split_ifs <;> exact Logged.all_pure _

/-- **Only connections that are not subject to authentication are exempt.** -/
theorem exemptsOnly (st : State) (e : Event) : ExemptsOnly encrypt st e := by
  cases e with
  | pass i input => exact fun hexempt => all_socketPass _ _ _ _ hexempt rfl
  | _ => trivial

/-! ### Runs -/

variable (encrypt) in
/-- Every connection follows the protocol, and the socket holds what it has come to. -/
def Inv (st : State) : Prop :=
  ∀ i, ∃ h, (protocol (scheme encrypt) Dword).run .fresh (st.trace i) = some h ∧
    Agrees ((st.jsonSockets i).JSONSocketConnection ≠ 0) (st.jsonSockets i) h

/-- Of a connection that is closed, only the state matters. -/
theorem Agrees.of_closed {connected : Prop} {s s' : JsonSocket}
    {h : Session Block Block Byte Dword} (hagrees : Agrees connected s h)
    (hstate : s'.jsaState = s.jsaState) (hclosed : s'.JSONSocketConnection = 0) :
    Agrees (s'.JSONSocketConnection ≠ 0) s' h := by
  cases h with
  | challenged c r =>
    obtain ⟨hs, hdigits, hlength, -⟩ := hagrees
    exact ⟨hstate.trans hs, hdigits, hlength, fun hne => absurd hclosed hne⟩
  | answered c r t =>
    obtain ⟨hs, hdigits, hlength, -⟩ := hagrees
    exact ⟨hstate.trans hs, hdigits, hlength, fun hne => absurd hclosed hne⟩
  | _ => simpa only [Agrees, hstate] using hagrees

/-- A connection that is closed has come to what it had come to before. -/
theorem Agrees.shutdownSocket {connected : Prop} {s : JsonSocket}
    {h : Session Block Block Byte Dword} (hagrees : Agrees connected s h) :
    Agrees ((shutdownSocket s).JSONSocketConnection ≠ 0) (shutdownSocket s) h :=
  hagrees.of_closed (shutdownSocket_jsaState s) (shutdownSocket_JSONSocketConnection s)

theorem Agrees.adoptKey {connected : Prop} {s : JsonSocket} {h : Session Block Block Byte Dword}
    (hagrees : Agrees connected s h) (hlimited : s.jsaState.jsonLimited = true) :
    Agrees connected { s with jsaState := .authDefeated } h := by
  have hstate : s.jsaState = .requireSetKey := by
    cases hs : s.jsaState <;> rw [hs] at hlimited <;> first | rfl | cases hlimited
  cases h <;> simp_all [Agrees]

/-- **One step**: a step whose pass is regular preserves the invariant. -/
theorem Inv.next {st : State} {e : Event} (hinv : Inv encrypt st) (hregular : RegularStep st e) :
    Inv encrypt (st.next encrypt e) := by
  intro j
  cases e with
  | accept socketRequest watch =>
    rw [State.next]
    cases hfree : st.freeSocket with
    | none => exact hinv j
    | some i =>
      by_cases hj : j = i
      · -- a new connection, on which nothing has been seen
        subst hj
        refine ⟨.fresh, ?_, ?_⟩
        · simp [Machine.run]
        · exact .inl (by simp [State.setSocket, JsonSocket.accepted])
      · simpa [State.setSocket, Function.update_of_ne hj] using hinv j
  | pass i input =>
    rw [State.next]
    by_cases hj : j = i
    · subst hj
      obtain ⟨h, hrun, hagrees⟩ := hinv j
      have hfollows : Follows encrypt h (socketPass encrypt st.settings input (st.jsonSockets j))
          fun s' h' => Agrees (s'.JSONSocketConnection ≠ 0) s' h' :=
        follows_socketPass hagrees hregular
      obtain ⟨h', hrun', hagrees'⟩ := hfollows
      refine ⟨h', ?_, by simpa [State.setSocket] using hagrees'⟩
      simp [Machine.run_append, hrun, hrun']
    · simpa [State.setSocket, Function.update_of_ne hj] using hinv j
  | shutdown i =>
    by_cases hj : j = i
    · subst hj
      obtain ⟨h, hrun, hagrees⟩ := hinv j
      refine ⟨h, hrun, ?_⟩
      simpa [State.next, State.setSocket] using hagrees.shutdownSocket
    · simpa [State.next, State.setSocket, Function.update_of_ne hj] using hinv j
  | handleKeysProperty i new =>
    obtain ⟨h, hrun, hagrees⟩ := hinv j
    refine ⟨h, hrun, ?_⟩
    simp only [State.next, State.adoptKey]
    split_ifs with hother hlimited
    · exact hagrees.shutdownSocket
    · exact hagrees.adoptKey hlimited
    · exact hagrees
  | configure settings => exact hinv j

theorem inv_start (settings : Settings) : Inv encrypt (.start settings) :=
  fun _ => ⟨.fresh, rfl, .inr (.inl rfl)⟩

/-- **Who reaches the JSON code**: in every run whose passes are regular, only connections that are
not subject to authentication are exempt.  Any other connection is enabled for JSON only if all
that was received on it as a response is the right one to the challenge that was sent on it, no
byte of it is taken as JSON before that, and the right response is accepted, however its characters
arrive. -/
theorem allStates_authentic (st : State) (hst : (jsonSocketTask encrypt).init st)
    (es : List Event) (h : (jsonSocketTask encrypt).AllSteps RegularStep st es) :
    (jsonSocketTask encrypt).AllStates
        (fun st => ∀ i, Authentic encrypt st.settings (st.jsonSockets i) (st.trace i)) st es ∧
      (jsonSocketTask encrypt).AllSteps (ExemptsOnly encrypt) st es := by
  have hstep : ∀ s e s', Inv encrypt s → RegularStep s e →
      (jsonSocketTask encrypt).step s e = some s' → Inv encrypt s' := by
    intro s e s' hs he hnext
    obtain rfl := Option.some.inj hnext
    exact hs.next he
  obtain ⟨settings, rfl⟩ := hst
  have hstart : Inv encrypt (.start settings) := inv_start settings
  refine ⟨(Machine.allStates_of_allSteps hstep hstart h).imp fun s hs i => ?_, ?_⟩
  · obtain ⟨session, hrun, hagrees⟩ := hs i
    exact authentic_of_run hrun hagrees
  · exact Machine.allSteps_of_allSteps hstep (fun s e _ _ _ _ => exemptsOnly s e) hstart h

/-! ### Two runs -/

/-- The bytes 0x00, 0x11 and so on. -/
def exampleChallenge : Block := fun i => BitVec.ofNat 8 (0x11 * i)

/-- The bytes 0x00, 0x01 and so on. -/
def exampleKey : Block := fun i => BitVec.ofNat 8 i

/-- The AES encryption of the challenge under the key. -/
def exampleResponse : Block := fun i =>
  [0x69, 0xC4, 0xE0, 0xD8, 0x6A, 0x7B, 0x04, 0x30, 0xD8, 0xCD, 0xB7, 0x80, 0x70, 0xB4, 0xC5,
    0x5A].getD i 0

/-- A cipher that encrypts the challenge as AES does. -/
def exampleCipher (key challenge : Block) : Block :=
  if key = exampleKey ∧ challenge = exampleChallenge then exampleResponse else fun _ => 0

/-- The first characters of the response. -/
def firstHalf : List Byte :=
  [0x36, 0x39, 0x43, 0x34, 0x45, 0x30, 0x44, 0x38, 0x36, 0x41, 0x37, 0x42, 0x30]

/-- The other characters of the response. -/
def secondHalf : List Byte :=
  [0x34, 0x33, 0x30, 0x44, 0x38, 0x43, 0x44, 0x42, 0x37, 0x38, 0x30, 0x37, 0x30, 0x42, 0x34, 0x43,
    0x35, 0x35, 0x41]

/-- The factory key is enabled, and there is no user key. -/
def exampleSettings : Settings where
  userKey := ⟨fun _ => 0, 0⟩
  factoryKey := exampleKey
  factoryAuthInit := factoryAuthInitEnabled
  authExempt := authNotExempt

/-- A pass in which `malloc` returns a buffer. -/
def quietPass (malloc : JsonSocketAuth) (now : Dword) : PassInput where
  attached := 1
  restarting := false
  malloc := some malloc
  challenge := exampleChallenge
  received := []
  recvFailed := false
  answered := now
  evaluated := now
  denied := now
  checked := now
  transmitQueueIsEmpty := true
  jsonBuffer := (none, 0)

/-- The buffer when the challenge has been sent, and what was in it before. -/
def challengeBuffer : JsonSocketAuth := ⟨exampleChallenge, fun _ => 0, 0, 0⟩

/-- The buffer when the response is complete, and its evaluation is due after `eventTimer`. -/
def answeredBuffer (eventTimer : Dword) : JsonSocketAuth :=
  { (firstHalf ++ secondHalf).foldl receiveCharacter challengeBuffer with eventTimer := eventTimer }

/-- The response arrives in two parts, and is evaluated three seconds later. -/
def splitRun : List Event :=
  [.accept 1 false,
    .pass 0 (quietPass challengeBuffer 100),
    .pass 0 { quietPass challengeBuffer 100 with received := firstHalf },
    .pass 0 { quietPass (firstHalf.foldl receiveCharacter challengeBuffer) 100 with
      received := secondHalf },
    .pass 0 (quietPass (answeredBuffer 102) 103)]

/-- All passes are regular when the response arrives in two parts. -/
theorem allStates_authentic_splitRun :
    (jsonSocketTask exampleCipher).AllStates
        (fun st => ∀ i, Authentic exampleCipher st.settings (st.jsonSockets i) (st.trace i))
        (.start exampleSettings) splitRun ∧
      (jsonSocketTask exampleCipher).AllSteps (ExemptsOnly exampleCipher)
        (.start exampleSettings) splitRun :=
  allStates_authentic _ ⟨_, rfl⟩ _ (by decide +kernel)

/-- Two connections are accepted.  The second one sends the right response to its challenge and is
closed.  The first one sends nothing, and `malloc` returns the buffer of the second one for it. -/
def silentRun : List Event :=
  [.accept 1 false,
    .accept 2 false,
    .pass 1 (quietPass challengeBuffer 100),
    .pass 1 { quietPass challengeBuffer 100 with received := firstHalf ++ secondHalf },
    .pass 1 (quietPass (answeredBuffer 102) 103),
    .shutdown 1,
    .pass 0 { quietPass challengeBuffer 104 with challenge := fun _ => 0 },
    .pass 0 (quietPass (answeredBuffer 102) 104),
    .pass 0 (quietPass (answeredBuffer 106) 107)]

theorem run_eq_foldl (st : State) (es : List Event) :
    (jsonSocketTask encrypt).run st es = some (es.foldl (State.next encrypt) st) := by
  induction es generalizing st with
  | nil => rfl
  | cons e es ih => exact ih (st.next encrypt e)

/-- **A connection that sends nothing** is let through, when the buffer that `malloc` returns holds
a challenge and its response. -/
theorem not_allStates_authentic :
    ¬ (jsonSocketTask exampleCipher).AllStates
      (fun st => ∀ i, Authentic exampleCipher st.settings (st.jsonSockets i) (st.trace i))
      (.start exampleSettings) silentRun := by
  intro h
  have hlast := (h.of_run (run_eq_foldl _ _)) 0
  rcases hlast.enabled (by decide +kernel) with hexempt | ⟨c, k, -, -, hcorrect⟩
  · exact absurd hexempt (by decide +kernel)
  · have hnothing : responses ((silentRun.foldl (State.next exampleCipher)
        (.start exampleSettings)).trace 0) = [] := by decide +kernel
    rw [hnothing] at hcorrect
    have hlength := congrArg List.length (Option.some.inj hcorrect)
    rw [List.length_nil] at hlength
    simp [scheme] at hlength

end Jsa

end Lcm
