import Lcm.Eliot.Released

/-!
# A cloud that falls silent

When the cloud sends finitely many bytes on each connection and then nothing more, the functions of
the REST task should return.  The loops with a limit do.  The loop of `Eliot_ReceiveBytes` tries
again as long as the session wants to read, and those of `Eliot_AddDevice` and `Eliot_SyncDevices`
wait for the first byte, and for the end of the list, without a limit; the retry loops connect again
without counting when a response has timed out; and `Eliot_LcmPlantAndModuleInit` deletes modules as
long as it finds some.

## Main definitions

* `SilentCloud` : the cloud falls silent on each connection.
* `Harmless`, `repeats` : the steps that do not keep a function from returning, and those that may
  be repeated for ever.
* `Operation`, `Operation.run` : a call of one of the functions.

## Main results

* `returns_iff` : the calls that return.
-/

namespace Lcm

namespace Eliot

namespace Rest

open House Jsr Routine

/-- **The cloud falls silent** on each connection: it sends finitely many bytes. -/
def SilentCloud (cloud : Cloud) : Prop := ∀ k, FallsSilent (cloud k).reads

/-- **A step does not keep a function from returning**: a receive loop without a limit is stopped,
and `Eliot_ReceiveBytes` is told not to try again. -/
def Harmless (cloud : Cloud) : Step → Prop
  | .awaits w k l => w.limited = true ∨ Stops w (cloud k).reads l
  | .receives k => ∃ i, (cloud k).reads i ≠ .error true
  | _ => True

/-- A step that may be repeated: a retry loop waits for a response that times out, or a module is
found to delete. -/
def Repeated (cloud : Cloud) : Step → Prop
  | .awaits .search k l => TimesOut .search (cloud k).reads l
  | .deletes _ => True
  | _ => False

open Classical in
/-- The steps that may be repeated. -/
noncomputable def repeats (cloud : Cloud) (m : Step) : Bool := decide (Repeated cloud m)

theorem repeats_eq_true {cloud : Cloud} {m : Step} : repeats cloud m = true ↔ Repeated cloud m := by
  simp [repeats]

/-! ### The parts -/

variable {cloud : Cloud} {s s' : State} {t : List Step} {k : ℕ}

/-- What the part does tells whether it ends. -/
def Ending (cloud : Cloud) {α : Type} (p : Rest α) : Prop :=
  ∀ s, p.GuardedAt (Harmless cloud) (repeats cloud) s

section Ending

variable {α β : Type} {p : Rest α} {f : α → Rest β}

theorem ending_pure (a : α) : Ending cloud (pure a : Rest α) := fun _ => guardedAt_pure a

theorem ending_get : Ending cloud (get : Rest State) := fun _ => guardedAt_get

theorem ending_modify (f : State → State) : Ending cloud (modify f) := fun _ => guardedAt_modify f

theorem Ending.bind (hp : Ending cloud p) (hf : ∀ a, Ending cloud (f a)) :
    Ending cloud (p >>= f) := fun s => (hp s).bind fun _ a s' _ => hf a s'

theorem ending_mark {m : Step} (hm : Harmless cloud m) : Ending cloud (mark m) := fun s =>
  (ends_mark.2 ⟨rfl, rfl⟩ : (mark m : Rest Unit).Ends s [m] () s).guardedAt (by simpa using hm)

theorem ending_release (kind : Kind) (o : Option ℕ) : Ending cloud (release kind o) := by
  cases o with
  | none => exact ending_pure _
  | some k => exact ending_mark (by trivial)

theorem ending_cleanupSockets (h : Handles) : Ending cloud (cleanupSockets h) :=
  (ending_modify _).bind fun _ => (ending_release _ _).bind fun _ =>
    (ending_release _ _).bind fun _ => (ending_release _ _).bind fun _ => ending_pure _

theorem ending_establish (k : ℕ) (a : Attempt) : Ending cloud (establish k a) := by
  rw [establish]
  split
  · split
    · refine (ending_mark (by trivial)).bind fun _ => ?_
      split
      · split
        · refine (ending_mark (by trivial)).bind fun _ => ?_
          split
          · exact (ending_mark (by trivial)).bind fun _ => ending_pure _
          · exact ending_pure _
        · exact ending_pure _
      · exact ending_pure _
    · exact ending_pure _
  · exact ending_pure _

theorem ending_connect : Ending cloud (connect cloud) := by
  refine ending_get.bind fun st => (ending_modify _).bind fun _ => ?_
  refine (ending_establish _ _).bind fun r => ?_
  obtain ⟨h, connected⟩ := r
  cases connected with
  | true => exact ending_pure _
  | false => exact (ending_cleanupSockets h).bind fun _ => ending_pure _

theorem ending_connectAttempts (attempts : ℕ) : Ending cloud (connectAttempts cloud attempts) := by
  induction attempts with
  | zero => exact ending_pure _
  | succ attempts ih =>
    refine ending_connect.bind fun connection => ?_
    cases connection with
    | none => exact ih
    | some k => exact ending_pure _

theorem ending_connectWithRetry : Ending cloud (connectWithRetry cloud) :=
  ending_connectAttempts _

/-! ### The loops -/

section Receive

variable {w : Wait} {γ : Type} {handle : γ → Read → List JsrState → Rest (γ × Bool)}

/-- A receive loop with a limit. -/
theorem ending_receive_limited (hsilent : SilentCloud cloud) (hw : w.limited = true)
    (hhandle : ∀ b read events, Ending cloud (handle b read events)) (l : Listener) (b : γ) :
    Ending cloud (receive cloud w k handle l b) := fun _ =>
  guardedAt_receive_of_stops hhandle (.inl hw) (stops_of_limited hw (hsilent k) l)

/-- A receive loop without a limit. -/
theorem ending_receive (hw : w.limited = false) (hfinds : NeverFinds handle)
    (hhandle : ∀ b read events, Ending cloud (handle b read events)) (l : Listener) (b : γ) :
    Ending cloud (receive cloud w k handle l b) := fun _ =>
  guardedAt_receive hfinds hhandle
    ⟨fun hgood => hgood.resolve_left (by rw [hw]; exact Bool.false_ne_true), .inr⟩

end Receive

/-- The loop of `Eliot_ReceiveBytes`. -/
theorem ending_receiveBytes (k bufferSize : ℕ) :
    Ending cloud (receiveBytes cloud k bufferSize) := by
  have hround : ∀ i, Ending cloud (receiveBytesRound cloud k bufferSize i) := by
    intro i
    rw [receiveBytesRound]
    split
    · exact ending_pure _
    · exact ending_pure _
    · exact ending_pure _
    · exact ending_pure _
  have hnext : ∀ {s s' : State} {t i j},
      (receiveBytesRound cloud k bufferSize i).Ends s t (.inl j) s' →
      (cloud k).reads i = .error true ∧ j = i + 1 := by
    intro s s' t i j h
    rw [receiveBytesRound] at h
    split at h
    · cases (ends_pure.1 h).2.1
    · cases (ends_pure.1 h).2.1
    · rename_i hread
      exact ⟨hread, Sum.inl.inj (ends_pure.1 h).2.1⟩
    · cases (ends_pure.1 h).2.1
  refine fun s => guardedAt_mark_bind ?_ ?_
  · rintro ⟨n, hn⟩
    refine guardedAt_iter (I := fun i _ => i ≤ n) (fun i _ => n - i) (fun i s _ => hround i s) ?_
      (Nat.zero_le n)
    intro i s t j s' hi h
    obtain ⟨hread, rfl⟩ := hnext h
    have hlt : i < n := Nat.lt_of_le_of_ne hi fun heq => hn (heq ▸ hread)
    exact ⟨hlt, .inr (by omega)⟩
  · rintro hall ⟨t, r, s', h⟩
    have hread : ∀ i, (cloud k).reads i = .error true := fun i =>
      by_contra fun hne => hall ⟨i, hne⟩
    refine Ends.iterInduction (P := fun _ _ _ _ _ => False) ?_ (fun _ ih => ih) h
    intro i s t c s' hlast
    rw [receiveBytesRound, hread] at hlast
    cases (ends_pure.1 hlast).2.1

/-- **A retry loop**: a response times out, or there is an attempt less. -/
theorem ending_retry (hsilent : SilentCloud cloud)
    {handle : Reply → Read → List JsrState → Rest (Reply × Bool)}
    (hhandle : ∀ b read events, Ending cloud (handle b read events)) (x : ℕ × Listener × Reply) :
    Ending cloud (iter (retryRound cloud handle) x) := by
  intro s
  refine guardedAt_iter (I := fun _ _ => True) (fun x _ => x.1) ?_ ?_ trivial
  · intro x s _
    refine Ending.bind ending_connectWithRetry (fun connection => ?_) s
    refine Ending.bind ?_ fun y => (ending_cleanupSockets _).bind fun _ => ending_pure _
    cases connection with
    | none => exact (ending_mark (by trivial)).bind fun _ => ending_pure _
    | some k =>
      exact (ending_receive_limited hsilent rfl hhandle _ _).bind fun _ => ending_pure _
  · intro x s t x' s' _ h
    obtain ⟨t₁, connection, s₁, t₂, z, s₂, t₃, c, hconnect, hbranch, hclean, rfl, hr⟩ :=
      ends_retryRound h
    obtain ⟨rfl, hpos⟩ := hr x' rfl
    refine ⟨trivial, ?_⟩
    cases connection with
    | none =>
      obtain ⟨-, -, hz⟩ := ends_retryBranch_none hbranch
      exact .inr (by omega)
    | some k =>
      obtain ⟨hreceive, hz⟩ := ends_retryBranch_some hbranch
      obtain ⟨t₄, u, s₃, t₅, hmark, hloop, rfl⟩ := ends_bind.1 hreceive
      obtain ⟨rfl, rfl⟩ := ends_mark.1 hmark
      obtain ⟨n, hn, hbefore, -⟩ := ends_rounds hloop
      have htimeout : eliotReceiveMaxRetries ≤ x'.2.1.timeoutCounter := by
        by_contra hnot
        rw [hz, if_neg hnot] at hpos
        cases hpos
      -- the response has timed out
      left
      rw [List.countP_pos_iff]
      refine ⟨.awaits .search k { x.2.1 with timeoutCounter := 0, position := 0 }, by simp, ?_⟩
      exact repeats_eq_true.2 ⟨n, hn ▸ htimeout, hbefore⟩

/-! ### The functions -/

theorem ending_updateTokens (hsilent : SilentCloud cloud) (stack : ℕ → Stack)
    (updateRefreshToken : Bool) : Ending cloud (updateTokens cloud stack updateRefreshToken) := by
  refine ending_get.bind fun st => ?_
  split
  · exact ending_pure _
  refine ending_connect.bind fun connection => ?_
  cases connection with
  | none => exact ending_pure _
  | some k =>
    refine Ending.bind (ending_receive_limited hsilent rfl (fun _ _ _ => ending_pure _) _ _)
      fun y => (ending_modify _).bind fun _ => ?_
    split
    · exact ending_pure _
    · exact (ending_cleanupSockets _).bind fun _ => ending_pure _

theorem ending_getLcmPlantId (hsilent : SilentCloud cloud) (stack : ℕ → Stack) :
    Ending cloud (getLcmPlantId cloud stack) :=
  ending_get.bind fun _ => (ending_retry hsilent (fun _ _ _ => ending_pure _) _).bind fun _ =>
    (ending_modify _).bind fun _ => ending_pure _

theorem ending_searchForModuleId (hsilent : SilentCloud cloud) (stack : ℕ → Stack)
    (deviceType moduleSerial : Option (List Byte)) (idLen : ℕ) :
    Ending cloud (searchForModuleId cloud stack deviceType moduleSerial idLen) := by
  refine ending_get.bind fun st => ?_
  split
  · exact ending_pure _
  split
  · exact ending_pure _
  exact (ending_retry hsilent (fun _ _ _ => ending_pure _) _).bind fun _ => ending_pure _

theorem ending_addLcmPlant (createdId : List Byte → Option (List Byte)) :
    Ending cloud (addLcmPlant cloud createdId) := by
  refine ending_connectWithRetry.bind fun connection => ?_
  cases connection with
  | none => exact ending_pure _
  | some k =>
    exact (ending_receiveBytes _ _).bind fun _ => (ending_modify _).bind fun _ =>
      (ending_cleanupSockets _).bind fun _ => ending_pure _

theorem ending_addLcmModule (hsilent : SilentCloud cloud) (stack : ℕ → Stack) :
    Ending cloud (addLcmModule cloud stack) := by
  refine ending_get.bind fun st => ?_
  split
  · exact ending_pure _
  refine ending_connectWithRetry.bind fun connection => ?_
  cases connection with
  | none => exact ending_pure _
  | some k =>
    exact (ending_receive_limited hsilent rfl (fun _ _ _ => ending_pure _) _ _).bind fun _ =>
      (ending_cleanupSockets _).bind fun _ => (ending_modify _).bind fun _ => ending_pure _

theorem ending_addDevice (stack : ℕ → Stack) (deviceType : Byte)
    (deviceId : CString eliotDeviceIdSize) :
    Ending cloud (addDevice cloud stack deviceType deviceId) := by
  refine ending_get.bind fun st => ending_connectWithRetry.bind fun connection => ?_
  cases connection with
  | none => exact ending_pure _
  | some k =>
    refine (ending_mark (by trivial)).bind fun _ => ?_
    split
    · exact ending_pure _
    refine Ending.bind ?_ fun _ => (ending_cleanupSockets _).bind fun _ => ending_pure _
    rw [requestDevice]
    split
    · refine Ending.bind ?_ fun _ => ending_pure _
      exact ending_receive rfl neverFinds_pure (fun _ _ _ => ending_pure _) _ _
    · exact ending_pure _

theorem ending_renameDevice (deviceId : List Byte) :
    Ending cloud (renameDevice cloud deviceId) := by
  have hattempts : ∀ attempts httpStatus,
      Ending cloud (renameAttempts cloud attempts httpStatus) := by
    intro attempts
    induction attempts with
    | zero => exact fun _ => ending_pure _
    | succ attempts ih =>
      intro httpStatus
      refine ending_connectWithRetry.bind fun connection => ?_
      cases connection with
      | none => exact ending_pure _
      | some k =>
        refine (ending_cleanupSockets _).bind fun _ => ?_
        by_cases hstatus : renameStatus (cloud k) httpStatus = eliotHttpOk
        · rw [if_pos hstatus]
          exact ending_pure _
        · rw [if_neg hstatus]
          exact ih _
  rw [renameDevice]
  split
  · exact ending_pure _
  · exact hattempts _ _

theorem ending_deleteDevice : Ending cloud (deleteDevice cloud) := by
  refine ending_connectWithRetry.bind fun connection => ?_
  cases connection with
  | none => exact ending_pure _
  | some k =>
    exact (ending_receiveBytes _ _).bind fun _ => (ending_cleanupSockets _).bind fun _ =>
      ending_pure _

theorem ending_compareModule (found : Found) (r : Report) :
    Ending cloud (compareModule cloud found r) := by
  refine ending_get.bind fun st => ?_
  have hdelete : Ending cloud (do
      deleteDevice cloud
      pure found) := ending_deleteDevice.bind fun _ => ending_pure _
  have hrename : ∀ (same : Prop) [Decidable same] (d : Device), Ending cloud (do
      renameUnless cloud same r.id
      pure (Function.update found d true)) := by
    intro same _ d
    refine Ending.bind ?_ fun _ => ending_pure _
    rw [renameUnless]
    split
    · exact ending_pure _
    · exact ending_renameDevice _
  split
  · split
    · split
      · exact ending_pure _
      · exact hdelete
    · split
      · split
        · exact hrename _ _
        · exact hdelete
      · split
        · exact hrename _ _
        · exact hdelete
  · exact ending_pure _

theorem ending_compareModules (found : Found) (rs : List Report) :
    Ending cloud (compareModules cloud found rs) := by
  induction rs generalizing found with
  | nil => exact ending_pure _
  | cons r rs ih => exact (ending_compareModule found r).bind fun found => ih found

theorem ending_readList (stack : Stack) (k : ℕ) : Ending cloud (readList cloud stack k) := by
  rw [readList]
  split
  · refine Ending.bind (ending_receive rfl ?_ (fun found _ events => ?_) _ _)
      fun _ => (ending_cleanupSockets _).bind fun _ => ending_pure _
    · intro b read events s t r s' h
      obtain ⟨t₁, a, s₁, t₂, -, hpure, rfl⟩ := ends_bind.1 h
      obtain ⟨-, rfl, -⟩ := ends_pure.1 hpure
      rfl
    · exact (ending_compareModules _ _).bind fun _ => ending_pure _
  · exact (ending_cleanupSockets _).bind fun _ => ending_pure _

theorem ending_addZones (stack : ℕ → Stack) (found : Found) (indices : List ℕ) :
    Ending cloud (addZones cloud stack found indices) := by
  induction indices with
  | nil => exact ending_pure _
  | cons index indices ih =>
    refine Ending.bind (ending_get.bind fun st => ?_) fun _ => ih
    split
    · split
      · exact ending_pure _
      · exact (ending_addDevice _ _ _).bind fun _ => ending_modify _
    · exact ending_pure _

theorem ending_addScenes (stack : ℕ → Stack) (garbage : Scenes.SceneProperties) (found : Found)
    (left : ℕ) : Ending cloud (addScenes cloud stack garbage found left) := by
  induction left with
  | zero => exact ending_pure _
  | succ left ih =>
    refine ending_get.bind fun st => ?_
    split
    · refine Ending.bind (ending_get.bind fun st => ?_) fun _ => ih
      split
      · exact ending_pure _
      · exact (ending_addDevice _ _ _).bind fun _ => ending_modify _
    · exact ending_pure _

theorem ending_syncDevices (stack : ℕ → Stack) : Ending cloud (syncDevices cloud stack) := by
  refine ending_get.bind fun st => ?_
  split
  · exact ending_pure _
  refine ending_connectWithRetry.bind fun connection => ?_
  cases connection with
  | none => exact ending_pure _
  | some k =>
    refine (ending_readList _ _).bind fun found => ?_
    split
    · exact ending_pure _
    · exact (ending_addZones _ _ _).bind fun _ => ending_addScenes _ _ _ _

/-! ### The initialization -/

/-- The loop that deletes the modules of the controller. -/
theorem ending_deleteModules (hsilent : SilentCloud cloud) (stack : ℕ → Stack) :
    Ending cloud (iter (deleteModulesRound cloud stack) ()) := by
  intro s
  refine guardedAt_iter (I := fun _ _ => True) (fun _ _ => 0) ?_ ?_ trivial
  · intro _ s _
    refine Ending.bind (ending_searchForModuleId hsilent stack _ _ _) (fun found => ?_) s
    split
    · exact ending_pure _
    · exact (ending_mark (by trivial)).bind fun _ => ending_deleteDevice.bind fun _ => ending_pure _
  · intro _ s t _ s' _ h
    obtain ⟨t₁, found, s₁, t₂, -, hrest, rfl⟩ := ends_bind.1 h
    refine ⟨trivial, .inl ?_⟩
    split at hrest
    · cases (ends_pure.1 hrest).2.1
    · -- a module has been found
      obtain ⟨t₃, u, s₂, t₄, hmark, -, rfl⟩ := ends_bind.1 hrest
      obtain ⟨rfl, -⟩ := ends_mark.1 hmark
      rw [List.countP_pos_iff]
      exact ⟨.deletes found.2, by simp, repeats_eq_true.2 trivial⟩

theorem ending_plantAttempts (hsilent : SilentCloud cloud) (stack : ℕ → Stack)
    (createdId : List Byte → Option (List Byte)) (attempts : ℕ) :
    Ending cloud (plantAttempts cloud stack createdId attempts) := by
  induction attempts with
  | zero => exact ending_pure _
  | succ attempts ih =>
    refine ending_get.bind fun st => ?_
    split
    · refine (ending_getLcmPlantId hsilent stack).bind fun ret => Ending.bind ?_ fun _ => ih
      rw [createPlant]
      split
      · exact (ending_addLcmPlant _).bind fun _ => ending_pure _
      · exact ending_pure _
    · exact ending_pure _

theorem ending_moduleAttempts (hsilent : SilentCloud cloud) (stack : ℕ → Stack) (attempts : ℕ)
    (ret : Ret) : Ending cloud (moduleAttempts cloud stack attempts ret) := by
  induction attempts generalizing ret with
  | zero => exact ending_pure _
  | succ attempts ih =>
    refine ending_get.bind fun st => ?_
    split
    · exact (ending_deleteModules hsilent stack).bind fun _ =>
        (ending_addLcmModule hsilent stack).bind fun _ => ih _
    · exact ending_pure _

theorem ending_lcmPlantAndModuleInit (hsilent : SilentCloud cloud) (stack : ℕ → Stack)
    (createdId : List Byte → Option (List Byte)) :
    Ending cloud (lcmPlantAndModuleInit cloud stack createdId) := by
  refine ending_get.bind fun st => ?_
  split
  · exact ending_pure _
  refine (ending_plantAttempts hsilent stack createdId _).bind fun _ => ending_get.bind fun st => ?_
  split
  · exact ending_pure _
  refine (ending_modify _).bind fun _ => ?_
  refine (ending_moduleAttempts hsilent stack _ _).bind fun ret => ?_
  refine Ending.bind (ending_get.bind fun st => ?_) fun _ => ending_get.bind fun st => ?_
  · split
    · exact (ending_searchForModuleId hsilent stack _ _ _).bind fun _ => ending_modify _
    · exact ending_pure _
  · split
    · exact ending_pure _
    split
    · exact (ending_modify _).bind fun _ => ending_pure _
    · exact ending_pure _

end Ending

/-! ### When they return -/

/-- A call of one of the functions that wait for the cloud. -/
inductive Operation
  /-- `Eliot_AddDevice` -/
  | addDevice (deviceType : Byte) (deviceId : CString eliotDeviceIdSize)
  /-- `Eliot_SyncDevices` -/
  | syncDevices
  /-- `Eliot_UpdateTokens` -/
  | updateTokens (updateRefreshToken : Bool)
  /-- `Eliot_GetLcmPlantId` -/
  | getLcmPlantId
  /-- `Eliot_SearchForModuleId` -/
  | searchForModuleId (deviceType moduleSerial : Option (List Byte)) (idLen : ℕ)
  /-- `Eliot_ReceiveBytes` -/
  | receiveBytes (k bufferSize : ℕ)
  /-- `Eliot_LcmPlantAndModuleInit` -/
  | lcmPlantAndModuleInit (createdId : List Byte → Option (List Byte))

/-- A call, without its value. -/
def Operation.run (cloud : Cloud) (stack : ℕ → Stack) : Operation → Rest Unit
  | .addDevice deviceType deviceId => do
    let _ ← Rest.addDevice cloud stack deviceType deviceId
    pure ()
  | .syncDevices => Rest.syncDevices cloud stack
  | .updateTokens updateRefreshToken => do
    let _ ← Rest.updateTokens cloud stack updateRefreshToken
    pure ()
  | .getLcmPlantId => do
    let _ ← Rest.getLcmPlantId cloud stack
    pure ()
  | .searchForModuleId deviceType moduleSerial idLen => do
    let _ ← Rest.searchForModuleId cloud stack deviceType moduleSerial idLen
    pure ()
  | .receiveBytes k bufferSize => do
    let _ ← Rest.receiveBytes cloud k bufferSize
    pure ()
  | .lcmPlantAndModuleInit createdId => do
    let _ ← Rest.lcmPlantAndModuleInit cloud stack createdId
    pure ()

/-- **What a call does tells whether it returns.** -/
theorem ending_operation (hsilent : SilentCloud cloud) (stack : ℕ → Stack) (op : Operation) :
    Ending cloud (op.run cloud stack) := by
  cases op with
  | addDevice deviceType deviceId =>
    exact (ending_addDevice stack deviceType deviceId).bind fun _ => ending_pure _
  | syncDevices => exact ending_syncDevices stack
  | updateTokens updateRefreshToken =>
    exact (ending_updateTokens hsilent stack updateRefreshToken).bind fun _ => ending_pure _
  | getLcmPlantId => exact (ending_getLcmPlantId hsilent stack).bind fun _ => ending_pure _
  | searchForModuleId deviceType moduleSerial idLen =>
    exact (ending_searchForModuleId hsilent stack deviceType moduleSerial idLen).bind fun _ =>
      ending_pure _
  | receiveBytes k bufferSize =>
    exact (ending_receiveBytes k bufferSize).bind fun _ => ending_pure _
  | lcmPlantAndModuleInit createdId =>
    exact (ending_lcmPlantAndModuleInit hsilent stack createdId).bind fun _ => ending_pure _

/-- **When the cloud falls silent, a call returns if and only if** each receive loop without a limit
that it enters is stopped, each loop of `Eliot_ReceiveBytes` is told once not to try again, and
there are finitely many responses that time out in a retry loop and modules that are found to
delete. -/
theorem returns_iff (cloud : Cloud) (hsilent : SilentCloud cloud) (stack : ℕ → Stack)
    (op : Operation) (s : State) :
    (op.run cloud stack).Returns s ↔
      (∀ m, (op.run cloud stack).Reaches s m → Harmless cloud m) ∧
        ∃ n, (op.run cloud stack).DoesAtMost s (repeats cloud) n :=
  ending_operation hsilent stack op s

theorem silentCloud_quietCloud : SilentCloud quietCloud := fun _ => ⟨0, fun _ _ _ _ h => nomatch h⟩

/-- `Eliot_ReceiveBytes` returns when the connection has been closed. -/
theorem returns_iff_receiveBytes :
    ((Operation.receiveBytes 0 16).run quietCloud zeroStack).Returns .start := by
  have h : ((Operation.receiveBytes 0 16).run quietCloud zeroStack).Ends .start [.receives 0] ()
      .start := ⟨1, rfl⟩
  refine (returns_iff quietCloud silentCloud_quietCloud zeroStack (.receiveBytes 0 16) .start).2
    ⟨fun m hm => ?_, 1, ?_⟩
  · obtain rfl := List.mem_singleton.1 (h.reaches.1 hm)
    exact ⟨0, Read.noConfusion⟩
  · exact h.doesAtMost.2 List.countP_le_length

/-- The same cloud, if it keeps the connections open and sends nothing. -/
def openCloud : Cloud := fun k => { quietCloud k with reads := fun _ => .error true }

/-- `Eliot_ReceiveBytes` does not return when nothing is ever sent. -/
theorem not_returns : ¬ ∀ (cloud : Cloud) (stack : ℕ → Stack) (op : Operation) (s : State),
    SilentCloud cloud → (op.run cloud stack).Returns s := by
  intro h
  have hsilent : SilentCloud openCloud := fun _ => ⟨0, fun _ _ _ _ heq => nomatch heq⟩
  have hreturns := h openCloud zeroStack (.receiveBytes 0 16) .start hsilent
  have hreached : ((Operation.receiveBytes 0 16).run openCloud zeroStack).Reaches .start
      (.receives 0) := ⟨0, List.mem_singleton.2 rfl⟩
  obtain ⟨i, hi⟩ := ((ending_operation hsilent _ _ _).1 hreturns).1 _ hreached
  exact hi rfl

end Rest

end Eliot

end Lcm
