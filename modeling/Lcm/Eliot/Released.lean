import Lcm.Eliot.Balance

/-!
# Connections are released, with three exceptions

A call of a function of the REST task is balanced if each session, context and socket it has opened
has been released once, and the count of open sockets is what it was before.  The calls that are not
balanced are those that give up a connection, and those with a round of a retry loop without a
connection, where the count is decremented twice.

## Main definitions

* `Call`, `Call.run` : a call of one of the functions.
* `Balanced` : everything has been released, and the count is as before.
* `Spoils` : the steps that make a call unbalanced.

## Main results

* `balanced_iff` : the calls that are balanced.
-/

namespace Lcm

namespace Eliot

namespace Rest

open House Jsr Routine

variable {cloud : Cloud} {s s' : State} {t : List Step} {failures : ℕ}

/-! ### The functions with an exception -/

/-- `Eliot_UpdateTokens` closes its connection or gives it up. -/
theorem balances_updateTokens (stack : ℕ → Stack) (updateRefreshToken : Bool) :
    Balances cloud (updateTokens cloud stack updateRefreshToken) := by
  refine balances_get.bind fun st => ?_
  split
  · exact balances_pure _
  refine balances_connection (fun _ _ _ _ => books_connect) (balances_pure _) fun k => ?_
  intro s t b s' h
  obtain ⟨t₁, y, s₁, t₂, hreceive, hrest, rfl⟩ := ends_bind.1 h
  obtain ⟨t₃, u, s₂, t₄, hmark, hloop, rfl⟩ := ends_bind.1 hreceive
  obtain ⟨rfl, rfl⟩ := ends_mark.1 hmark
  obtain ⟨n, hy, hbefore, hend⟩ := ends_rounds hloop
  have hend := hend neverFinds_pure
  rw [hy] at hend
  have htimes := timesOut_iff rfl hend hbefore
  rw [← hy] at htimes
  have hbooks : Books cloud 0 0 0 s₂ t₄ s₁ :=
    keeps_iter (composes_books cloud) (fun x => (balances_pure _).bind fun _ => balances_pure _) _
      hloop
  have hstore : Balances cloud (modify (storeTokens (updateRefreshToken && (cloud k).allocated)
      y.1.jsr.toJsrState)) := balances_modify (fun _ => rfl) fun _ => rfl
  set m : Step := .awaits .token k (.start (tokenReader (stack st.tried) st.userToken
    (updateRefreshToken && (cloud k).allocated)) 0) with hm
  by_cases htimeout : eliotReceiveMaxRetries ≤ y.1.timeoutCounter
  · -- the connection has been given up when the response has timed out
    simp only [if_pos htimeout] at hrest
    have hgives : Books cloud (-(Handles.of k).holds) (-1) 0 s₂ [m] s₂ :=
      books_mark_givesUp (fun _ => rfl) (fun _ => rfl) rfl fun k' =>
        ⟨fun hgives => hgives.1.symm, fun heq => ⟨heq.symm, htimes.2 htimeout⟩⟩
    have hsum := (hgives.append hbooks).append ((hstore.bind fun _ => balances_pure _) hrest)
    rwa [add_zero, add_zero, add_zero, add_zero] at hsum
  · simp only [if_neg htimeout] at hrest
    have hnone : Books cloud 0 0 0 s₂ [m] s₂ :=
      books_mark (fun _ => rfl) (fun _ => rfl) rfl fun k' hgives => htimeout (htimes.1 hgives.2)
    have hclose := hstore.bind_closes
      (fun _ => closes_cleanupSockets.bind fun _ => balances_pure _) hrest
    have hsum := (hnone.append hbooks).append hclose
    rwa [zero_add, zero_add, zero_add, zero_add] at hsum

/-! ### The retry loops -/

section Retry

variable {handle : Reply → Read → List JsrState → Rest (Reply × Bool)}
  {x : ℕ × Listener × Reply} {y : Listener × Reply}

/-- **A round of a retry loop**: without a connection, the count is decremented twice. -/
theorem books_retryRound (hhandle : ∀ b read events, Balances cloud (handle b read events))
    {r : (ℕ × Listener × Reply) ⊕ (Listener × Reply)}
    (h : (retryRound cloud handle x).Ends s t r s') :
    Books cloud 0 0 0 s t s' ∧ (∀ x', r = .inl x' → x'.1 = x.1) ∨
      Books cloud 0 0 1 s t s' ∧ ∀ x', r = .inl x' → x'.1 + 1 = x.1 := by
  obtain ⟨t₁, connection, s₁, t₂, z, s₂, t₃, c, hconnect, hbranch, hclean, rfl, hr⟩ :=
    ends_retryRound h
  have hopen := books_connectWithRetry hconnect
  have hclose : Books cloud (-(handlesOf connection).holds) (-1) 0 s₂ t₃ s' :=
    books_cleanupSockets hclean
  cases connection with
  | some k =>
    obtain ⟨hreceive, hz⟩ := ends_retryBranch_some hbranch
    refine .inl ⟨?_, fun x' hx' => ?_⟩
    · have hsum := hopen.append ((balances_receive (by decide) hhandle _ _ hreceive).append hclose)
      rwa [zero_add, zero_add, add_neg_cancel, show socketsOf (some k) + -1 = 0 from rfl] at hsum
    · obtain ⟨rfl, hpos⟩ := hr x' hx'
      by_cases htimeout : eliotReceiveMaxRetries ≤ x'.2.1.timeoutCounter
      · rw [hz, if_pos htimeout]
      · rw [hz, if_neg htimeout] at hpos
        cases hpos
  | none =>
    obtain ⟨rfl, rfl, hz⟩ := ends_retryBranch_none hbranch
    refine .inr ⟨?_, fun x' hx' => ?_⟩
    · have hunconnected : Books cloud 0 1 1 s₂ [.unconnected] s₂ := books_unconnected
      have hsum := hopen.append (hunconnected.append hclose)
      rwa [zero_add, zero_add, add_neg_cancel, show socketsOf none + (1 + -1) = 0 from rfl] at hsum
    · obtain ⟨rfl, hpos⟩ := hr x' hx'
      omega

/-- **A retry loop**: at most as many rounds as there are attempts are without a connection. -/
theorem books_retry (hhandle : ∀ b read events, Balances cloud (handle b read events))
    (hx : 0 < x.1) (h : (iter (retryRound cloud handle) x).Ends s t y s') :
    Books cloud 0 0 x.1 s t s' := by
  refine Ends.iterInduction (P := fun x s t _ s' => 0 < x.1 → Books cloud 0 0 x.1 s t s') ?_ ?_ h hx
  · intro x s t y s' hlast hx
    rcases books_retryRound hhandle hlast with ⟨hbooks, -⟩ | ⟨hbooks, -⟩
    · exact hbooks.mono (Nat.zero_le _)
    · exact hbooks.mono hx
  · intro x s t₁ x' s₁ t₂ y s' hround ih hx
    have hpos : 0 < x'.1 := by
      obtain ⟨t₁, connection, s₁, t₂, z, s₂, t₃, c, -, -, -, -, hr⟩ := ends_retryRound hround
      obtain ⟨rfl, hpos⟩ := hr x' rfl
      exact hpos
    have hsum : ∀ {failures}, Books cloud 0 0 failures s t₁ s₁ → failures + x'.1 ≤ x.1 →
        Books cloud 0 0 x.1 s (t₁ ++ t₂) s' := by
      intro failures hbooks hle
      have hsum := hbooks.append (ih hpos)
      rw [add_zero, add_zero] at hsum
      exact hsum.mono hle
    rcases books_retryRound hhandle hround with ⟨hbooks, hsame⟩ | ⟨hbooks, hless⟩
    · exact hsum hbooks (by rw [hsame x' rfl, Nat.zero_add])
    · exact hsum hbooks (by rw [← hless x' rfl, Nat.add_comm])

end Retry

/-- `Eliot_GetLcmPlantId` in the books. -/
theorem books_getLcmPlantId {stack : ℕ → Stack} {ret : Ret}
    (h : (getLcmPlantId cloud stack).Ends s t ret s') :
    Books cloud 0 0 eliotConnectAttempts s t s' := by
  obtain ⟨t₁, st, s₁, t₂, hget, hrest, rfl⟩ := ends_bind.1 h
  obtain ⟨rfl, rfl, rfl⟩ := ends_get.1 hget
  obtain ⟨t₃, y, s₂, t₄, hloop, hstoring, rfl⟩ := ends_bind.1 hrest
  have hstore : Balances cloud (modify fun st : State => { st with plantId := y.2.id }) :=
    balances_modify (fun _ => rfl) fun _ => rfl
  have hloopBooks := books_retry (fun b read events => balances_pure _) (Nat.succ_pos _) hloop
  have hsum := hloopBooks.append ((hstore.bind fun _ => balances_pure _) hstoring)
  rwa [add_zero, add_zero] at hsum

/-- `Eliot_SearchForModuleId` in the books. -/
theorem books_searchForModuleId {stack : ℕ → Stack} {deviceType moduleSerial : Option (List Byte)}
    {idLen : ℕ} {r : Ret × List Byte}
    (h : (searchForModuleId cloud stack deviceType moduleSerial idLen).Ends s t r s') :
    Books cloud 0 0 eliotConnectAttempts s t s' := by
  obtain ⟨t₁, st, s₁, t₂, hget, hrest, rfl⟩ := ends_bind.1 h
  obtain ⟨rfl, rfl, rfl⟩ := ends_get.1 hget
  split at hrest
  · obtain ⟨rfl, -, rfl⟩ := ends_pure.1 hrest
    exact Books.nil.mono (Nat.zero_le _)
  split at hrest
  · obtain ⟨rfl, -, rfl⟩ := ends_pure.1 hrest
    exact Books.nil.mono (Nat.zero_le _)
  obtain ⟨t₃, y, s₂, t₄, hloop, hpure, rfl⟩ := ends_bind.1 hrest
  obtain ⟨rfl, -, rfl⟩ := ends_pure.1 hpure
  rw [List.append_nil]
  exact books_retry (fun b read events => balances_pure _) (Nat.succ_pos _) hloop

/-! ### The functions -/

/-- A call of one of the functions. -/
inductive Call
  /-- `Eliot_UpdateTokens` -/
  | updateTokens (updateRefreshToken : Bool)
  /-- `Eliot_GetLcmPlantId` -/
  | getLcmPlantId
  /-- `Eliot_SearchForModuleId` -/
  | searchForModuleId (deviceType moduleSerial : Option (List Byte)) (idLen : ℕ)
  /-- `Eliot_AddLcmPlant` -/
  | addLcmPlant (createdId : List Byte → Option (List Byte))
  /-- `Eliot_AddDevice` -/
  | addDevice (deviceType : Byte) (deviceId : CString eliotDeviceIdSize)
  /-- `Eliot_SyncDevices` -/
  | syncDevices
  /-- `Eliot_RenameDevice` -/
  | renameDevice (deviceId : List Byte)
  /-- `Eliot_DeleteDevice` -/
  | deleteDevice

/-- A call, without its value. -/
def Call.run (cloud : Cloud) (stack : ℕ → Stack) : Call → Rest Unit
  | .updateTokens updateRefreshToken => do
    let _ ← Rest.updateTokens cloud stack updateRefreshToken
    pure ()
  | .getLcmPlantId => do
    let _ ← Rest.getLcmPlantId cloud stack
    pure ()
  | .searchForModuleId deviceType moduleSerial idLen => do
    let _ ← Rest.searchForModuleId cloud stack deviceType moduleSerial idLen
    pure ()
  | .addLcmPlant createdId => do
    let _ ← Rest.addLcmPlant cloud createdId
    pure ()
  | .addDevice deviceType deviceId => do
    let _ ← Rest.addDevice cloud stack deviceType deviceId
    pure ()
  | .syncDevices => Rest.syncDevices cloud stack
  | .renameDevice deviceId => Rest.renameDevice cloud deviceId
  | .deleteDevice => Rest.deleteDevice cloud

/-- **A call in the books.** -/
theorem books_call {stack : ℕ → Stack} {call : Call} {u : Unit}
    (h : (call.run cloud stack).Ends s t u s') : Books cloud 0 0 eliotConnectAttempts s t s' := by
  have hdrop : ∀ {α : Type} {p : Rest α}, (p >>= fun _ => pure ()).Ends s t u s' →
      ∃ a, p.Ends s t a s' := by
    intro α p hp
    obtain ⟨t₁, a, s₁, t₂, hfirst, hrest, rfl⟩ := ends_bind.1 hp
    obtain ⟨rfl, -, rfl⟩ := ends_pure.1 hrest
    exact ⟨a, by rwa [List.append_nil]⟩
  have hbalances : ∀ {α : Type} {p : Rest α} {a : α}, Balances cloud p → p.Ends s t a s' →
      Books cloud 0 0 eliotConnectAttempts s t s' := fun hp hends =>
    (hp hends).mono (Nat.zero_le _)
  cases call with
  | updateTokens updateRefreshToken =>
    obtain ⟨a, ha⟩ := hdrop h
    exact hbalances (balances_updateTokens stack updateRefreshToken) ha
  | getLcmPlantId =>
    obtain ⟨a, ha⟩ := hdrop h
    exact books_getLcmPlantId ha
  | searchForModuleId deviceType moduleSerial idLen =>
    obtain ⟨a, ha⟩ := hdrop h
    exact books_searchForModuleId ha
  | addLcmPlant createdId =>
    obtain ⟨a, ha⟩ := hdrop h
    exact hbalances (balances_addLcmPlant createdId) ha
  | addDevice deviceType deviceId =>
    obtain ⟨a, ha⟩ := hdrop h
    exact hbalances (balances_addDevice stack deviceType deviceId) ha
  | syncDevices => exact hbalances (balances_syncDevices stack) h
  | renameDevice deviceId => exact hbalances (balances_renameDevice deviceId) h
  | deleteDevice => exact hbalances balances_deleteDevice h

/-! ### When they are balanced -/

/-- **A run is balanced**: each session, context and socket that has been opened has been released
once, and the count of open sockets is as before. -/
structure Balanced (s : State) (t : List Step) (s' : State) : Prop where
  released : ∀ r, .opened r ∈ t → t.countP (Step.releases r) = 1
  openSockets : s'.openSockets = s.openSockets

/-- **The steps that make a call unbalanced**: a connection is given up, or a round of a retry loop
finds none. -/
def Spoils (cloud : Cloud) (m : Step) : Prop := (∃ k, GivesUp cloud m k) ∨ m = .unconnected

theorem mem_opened_iff {r : Resource} : Step.opened r ∈ t ↔ t.countP (Step.opens r) ≠ 0 := by
  rw [← Nat.pos_iff_ne_zero, List.countP_pos_iff]
  constructor
  · intro hmem
    exact ⟨_, hmem, decide_eq_true rfl⟩
  · rintro ⟨m, hm, hopens⟩
    cases m with
    | opened r' =>
      obtain rfl : r' = r := of_decide_eq_true hopens
      exact hm
    | _ => cases hopens

/-- What the books say about being balanced. -/
theorem Books.balanced (h : Books cloud 0 0 failures s t s') (hfailures : failures < 2 ^ 32) :
    Balanced s t s' ↔ ∀ m ∈ t, ¬ Spoils cloud m := by
  constructor
  · rintro ⟨hreleased, hopen⟩
    have hkept : ∀ m ∈ t, ∀ k, ¬ GivesUp cloud m k := by
      intro m hm k hgives
      -- the socket has been opened, but it has not been released
      have hsum := h.resources ⟨.socket, k⟩
      have hpos : 0 < givenUp cloud t k := by
        rw [givenUp, List.countP_pos_iff]
        exact ⟨m, hm, by simpa using hgives⟩
      have hopened : t.countP (Step.opens ⟨.socket, k⟩) ≠ 0 := by
        simp only [Pi.zero_apply] at hsum
        omega
      have hone := (h.fresh _ hopened).1
      have hone' := hreleased _ (mem_opened_iff.2 hopened)
      simp only [Pi.zero_apply] at hsum
      omega
    have hcount : t.countP Step.isUnconnected = 0 := by
      have hsum := h.openSockets
      rw [allGivenUp_eq_zero hkept, hopen] at hsum
      have hzero : BitVec.ofNat 32 (t.countP Step.isUnconnected) = 0 := by
        simpa using hsum
      have hnat := congrArg BitVec.toNat hzero
      have hle := h.unconnected
      rw [BitVec.toNat_ofNat, Nat.mod_eq_of_lt (by omega)] at hnat
      exact hnat
    rintro m hm (⟨k, hgives⟩ | rfl)
    · exact hkept m hm k hgives
    · exact absurd rfl (List.countP_eq_zero.1 hcount _ hm)
  · intro hall
    have hkept : ∀ m ∈ t, ∀ k, ¬ GivesUp cloud m k := fun m hm k hgives =>
      hall m hm (.inl ⟨k, hgives⟩)
    have hcount : t.countP Step.isUnconnected = 0 := by
      rw [List.countP_eq_zero]
      intro m hm hunconnected
      cases m with
      | unconnected => exact hall _ hm (.inr rfl)
      | _ => cases hunconnected
    refine ⟨fun r hr => ?_, ?_⟩
    · have hopened := mem_opened_iff.1 hr
      have hsum := h.resources r
      rw [givenUp_eq_zero hkept, (h.fresh r hopened).1] at hsum
      simp only [Pi.zero_apply] at hsum
      omega
    · have hsum := h.openSockets
      rw [hcount, allGivenUp_eq_zero hkept] at hsum
      simpa using hsum

/-- **A call is balanced if and only if none of its steps is an exception**: `Eliot_UpdateTokens`
does not wait for a response that times out, `Eliot_AddDevice` does not get a connection for a
remote device, and no round of a retry loop is without a connection.  Creating the plant, renaming
and deleting have no such steps. -/
theorem balanced_iff (cloud : Cloud) (stack : ℕ → Stack) (call : Call) {s s' : State}
    {t : List Step} {u : Unit} (h : (call.run cloud stack).Ends s t u s') :
    Balanced s t s' ↔ ∀ m ∈ t, ¬ Spoils cloud m :=
  (books_call h).balanced (by decide)

/-! ### Two calls -/

/-- A cloud to which all connections can be made, and which answers nothing. -/
def quietCloud : Cloud := fun _ =>
  { resolved := fun _ => true
    socket := true
    connected := true
    context := true
    session := true
    fd := true
    handshake := fun _ => .success
    allocated := true
    dumped := true
    sent := true
    reads := fun _ => .zero }

/-- The task after a restart. -/
def State.start : State where
  tried := 0
  openSockets := 0
  house := House.State.initial
  userToken := []
  refreshToken := []
  plantId := []
  moduleId := []
  primaryKey := []
  metricsInstantiated := false
  flashPlantId := []

/-- A stack of zeros. -/
def zeroStack : ℕ → Stack := fun _ =>
  { tempKey := fun _ => 0
    tempValue := fun _ => 0
    strings := fun _ _ => 0
    keyMaxLength := fun _ => 0
    depth := fun _ => 0
    properties := Scenes.exampleScene
    valueMaxLength := fun _ => 0
    rxBuf := [] }

/-- What `Eliot_DeleteDevice` does without a response. -/
def deletion : List Step :=
  [.opened ⟨.socket, 0⟩, .opened ⟨.context, 0⟩, .opened ⟨.ssl, 0⟩, .receives 0,
    .released ⟨.ssl, 0⟩, .released ⟨.context, 0⟩, .released ⟨.socket, 0⟩]

/-- `Eliot_DeleteDevice` gets no response, and releases what it has opened. -/
theorem balanced_iff_deleteDevice : Balanced .start deletion { State.start with tried := 1 } := by
  have h : (Call.deleteDevice.run quietCloud zeroStack).Ends .start deletion ()
      { State.start with tried := 1 } := ⟨1, rfl⟩
  refine (balanced_iff quietCloud zeroStack .deleteDevice h).2 ?_
  simp [deletion, Spoils, GivesUp]

/-- `Eliot_AddDevice` has a connection for a remote device, and returns without releasing it. -/
theorem not_balanced : ¬ ∀ (cloud : Cloud) (stack : ℕ → Stack) (call : Call) (s s' : State)
    (t : List Step) (u : Unit), (call.run cloud stack).Ends s t u s' → Balanced s t s' := by
  intro h
  have hends : ((Call.addDevice noType (.empty (Nat.succ_pos _))).run quietCloud zeroStack).Ends
      .start [.opened ⟨.socket, 0⟩, .opened ⟨.context, 0⟩, .opened ⟨.ssl, 0⟩, .adds 0 noType] ()
      { State.start with tried := 1, openSockets := 1 } := ⟨1, rfl⟩
  have hopen : (1 : Dword) = 0 := (h _ _ _ _ _ _ _ hends).openSockets
  cases hopen

end Rest

end Eliot

end Lcm
