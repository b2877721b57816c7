import Lcm.Heap
import Lcm.Run.Basic

/-!
# The resources of the MQTT client

The task for the cloud allocates two buffers and a socket context whenever it connects.
`Eliot_Init` goes on, whenever it is called, with the library call that it made last, and frees all
three when it gives up.  The callback for a disconnection frees the context as well, but leaves the
pointer to it.

## Main definitions

* `eliotInit`, `eliotGetEvent`, `finishDisconnect` : the functions, from one library call to the
  next.
* `machine` : the task, with everything that the calls may return.
* `Accounted` : no block is freed twice, used after it was freed, or lost.
* `Careful` : the condition on what the calls return.

## Main results

* `allStates_freedOnce` : the runs in which all blocks are accounted for.
* `not_allStates_freedOnce` : a connection that is lost.
-/

namespace Lcm

namespace Mqtt

namespace Resources

/-! ### The context -/

/-- `MQTT_CODE_SUCCESS` -/
abbrev mqttCodeSuccess : ℤ := 0

/-- `MQTT_CODE_ERROR_BAD_ARG` -/
abbrev mqttCodeErrorBadArg : ℤ := -1

/-- `MQTT_CODE_ERROR_TIMEOUT` -/
abbrev mqttCodeErrorTimeout : ℤ := -7

/-- `MQTT_CODE_ERROR_NETWORK` -/
abbrev mqttCodeErrorNetwork : ℤ := -8

/-- `MQTT_CODE_ERROR_MEMORY` -/
abbrev mqttCodeErrorMemory : ℤ := -9

/-- `MQTT_CODE_ERROR_STAT` -/
abbrev mqttCodeErrorStat : ℤ := -10

/-- `MQTT_CODE_CONTINUE` -/
abbrev mqttCodeContinue : ℤ := -101

/-- `MQTTCtxState` -/
inductive MQTTCtxState
  | begin
  | netInit
  | init
  | tcpConn
  | mqttConn
  | sub
  | pub
  | waitMsg
  | unsub
  | disconnect
  | netDisconnect
  | done
  deriving DecidableEq

/-- The pointers to what is allocated. -/
inductive Pointer
  /-- `mqttCtx->tx_buf` -/
  | txBuf
  /-- `mqttCtx->rx_buf` -/
  | rxBuf
  /-- `mqttCtx->net.context` -/
  | context
  deriving DecidableEq

/-- The buffers that the client of the library has been given. -/
structure Client where
  /-- `client->tx_buf` -/
  txBuf : Option ℕ
  /-- `client->rx_buf` -/
  rxBuf : Option ℕ
  deriving DecidableEq

/-- Where the task is. -/
inductive Place
  /-- At the head of the loop of `Eliot_MQTT_Task`. -/
  | top
  /-- In `Eliot_Connect`, for the first time or again. -/
  | connecting (again : Bool)
  /-- In `Eliot_GetEvent`. -/
  | getEvent
  /-- In `Eliot_Disconnect`, since the cloud is off or since the strings are cleared, before
  `MqttClient_Disconnect`. -/
  | disconnecting (cloudOff : Bool)
  /-- Before `MqttClient_NetDisconnect`. -/
  | netDisconnecting (cloudOff : Bool)
  deriving DecidableEq

/-- What the functions read and write. -/
structure State where
  /-- Where the task is. -/
  place : Place
  /-- `firstTime` -/
  firstTime : Bool
  /-- `connected` -/
  connected : Bool
  /-- `mqttCtx->stat` -/
  stat : MQTTCtxState
  /-- `mqttCtx->return_code` -/
  return_code : ℤ
  /-- The pointers, where they are not `NULL`. -/
  pointer : Pointer → Option ℕ
  /-- The callbacks in `mqttCtx->net` are registered. -/
  callbacks : Bool
  /-- `mqttCtx->client`, once it is initialized. -/
  client : Option Client
  /-- What has been allocated and freed. -/
  heap : Heap
  /-- A block has been used after it was freed. -/
  usedFreed : Bool
  /-- A pointer to a block that was not freed has been overwritten. -/
  lost : Bool

/-- At the start of the task. -/
def initial : State where
  place := .top
  firstTime := true
  connected := false
  stat := .begin
  return_code := 0
  pointer _ := none
  callbacks := false
  client := none
  heap := ⟨0, fun _ => 0⟩
  usedFreed := false
  lost := false

namespace State

/-- A block is used. -/
def use (st : State) (block : Option ℕ) : State :=
  { st with usedFreed := st.usedFreed || block.any fun x => !decide (st.heap.Live x) }

/-- `free`, which does nothing with `NULL`. -/
def free (st : State) (block : Option ℕ) : State :=
  { st with heap := block.elim st.heap st.heap.free }

/-- A pointer is overwritten. -/
def overwrite (st : State) (p : Pointer) (block : Option ℕ) : State :=
  { st with
    lost := st.lost || (st.pointer p).any fun x => decide (st.heap.Live x)
    pointer := Function.update st.pointer p block }

/-- `malloc`, which may fail. -/
def malloc (st : State) (p : Pointer) (allocated : Bool) : State :=
  if allocated then { st.overwrite p (some st.heap.next) with heap := st.heap.alloc }
  else st.overwrite p none

/-- What a pointer points to is freed, and the pointer cleared. -/
def release (st : State) (p : Pointer) : State :=
  { st.free (st.pointer p) with pointer := Function.update st.pointer p none }

/-! ### The callbacks and the library -/

/-- `MqttClientNet_Init`, and the callbacks that are registered behind it. -/
def mqttClientNetInit (st : State) (allocated : Bool) : State :=
  { (st.overwrite .context none).malloc .context allocated with callbacks := true }

/-- `MqttClientNet_DeInit` -/
def mqttClientNetDeInit (st : State) : State := { st.release .context with callbacks := false }

/-- `Eliot_Disconnect_CB`, which does not clear the pointer. -/
def eliotDisconnectCB (st : State) : State :=
  (st.use (st.pointer .context)).free (st.pointer .context)

/-- `MqttClient_Init`, which does not accept `NULL`. -/
def mqttClientInit (st : State) (rc : ℤ) : State × ℤ :=
  if st.pointer .txBuf = none ∨ st.pointer .rxBuf = none then (st, mqttCodeErrorBadArg)
  else ({ st with client := some ⟨st.pointer .txBuf, st.pointer .rxBuf⟩ }, rc)

/-- `MqttClient_NetConnect`, with `Eliot_Connect_CB`; if it cleans up when it fails, it calls
`Eliot_Disconnect_CB`. -/
def mqttClientNetConnect (st : State) (rc : ℤ) (cleansUp : Bool) : State :=
  let st := st.use (st.pointer .context)
  if rc ≠ mqttCodeSuccess ∧ rc ≠ mqttCodeContinue ∧ cleansUp = true then st.eliotDisconnectCB
  else st

/-- `MqttClient_NetDisconnect` -/
def mqttClientNetDisconnect (st : State) : State :=
  if st.client ≠ none ∧ st.callbacks = true then st.eliotDisconnectCB else st

/-- A library call encodes a packet and writes it. -/
def transmit (st : State) : State :=
  match st.client with
  | none => st
  | some client =>
    let st := st.use client.txBuf
    if st.callbacks then st.use (st.pointer .context) else st

/-- A library call reads a packet. -/
def receive (st : State) : State :=
  match st.client with
  | none => st
  | some client =>
    if st.callbacks then (st.use client.rxBuf).use (st.pointer .context) else st

/-! ### Connecting -/

/-- `Eliot_Connect`, with what `Eliot_Init` returns: it calls it again, or returns to the task. -/
def eliotConnect (st : State) (again : Bool) (rc : ℤ) : State :=
  if rc = mqttCodeErrorNetwork ∨ rc = mqttCodeErrorTimeout then { st with stat := .begin }
  else if rc = mqttCodeContinue then st
  else if again then { st with place := .top }
  else { st with place := .getEvent, firstTime := false, connected := true }

/-- All blocks are freed. -/
def cleanup (st : State) : State := ((st.release .txBuf).release .rxBuf).mqttClientNetDeInit

/-- `exit` -/
def exit (st : State) (again : Bool) (rc : ℤ) : State :=
  (if rc ≠ mqttCodeContinue then st.cleanup else st).eliotConnect again rc

/-- `disconn` -/
def disconn (st : State) (again : Bool) (rc : ℤ) : State :=
  { st with stat := .netDisconnect, return_code := rc }.eliotConnect again mqttCodeContinue

/-- `Eliot_InitMqttContext` -/
def eliotInitMqttContext (st : State) : State :=
  { ((st.overwrite .txBuf none).overwrite .rxBuf none).overwrite .context none with
    stat := .begin
    return_code := 0
    callbacks := false
    client := none }

end State

/-! ### The task -/

/-- What the task finds at the head of its loop, and what the calls return. -/
inductive Event
  /-- `cloudState` is false. -/
  | cloudOff
  /-- The strings are there. -/
  | configured
  /-- They are not. -/
  | cleared
  /-- The allocation of the context fails. -/
  | noContext
  /-- The context is allocated; the buffers may be, and `SasTokenCreate` returns. -/
  | netInit (txAllocated rxAllocated : Bool) (rc : ℤ)
  /-- `MqttClient_Init` -/
  | init (rc : ℤ)
  /-- `MqttClient_NetConnect` -/
  | netConnect (rc : ℤ) (cleansUp : Bool)
  /-- `MqttClient_Connect` -/
  | connect (rc : ℤ)
  /-- `MqttClient_Subscribe` -/
  | subscribe (rc : ℤ)
  /-- `MqttClient_Publish` -/
  | publish (rc : ℤ)
  /-- `MqttClient_Disconnect` -/
  | disconnect (rc : ℤ)
  /-- `MqttClient_NetDisconnect` -/
  | netDisconnect (rc : ℤ)
  /-- Nothing is called. -/
  | proceed
  /-- The loop of `Eliot_GetEvent`: whether anything is sent or received, and how it ends. -/
  | getEvent (transmits receives : Bool) (rc : ℤ)

/-- `Eliot_Init`, from one library call to the next. -/
def eliotInit (st : State) (again : Bool) : Event → Option State
  | .noContext =>
    if st.stat = .begin ∨ st.stat = .netInit then
      some (({ st with stat := .netInit }.mqttClientNetInit false).exit again mqttCodeErrorMemory)
    else none
  | .netInit txAllocated rxAllocated rc =>
    if st.stat = .begin ∨ st.stat = .netInit then
      let st := { st with stat := .netInit }.mqttClientNetInit true
      let st := (st.malloc .txBuf txAllocated).malloc .rxBuf rxAllocated
      if rc < 0 then some (st.exit again rc) else some { st with stat := .init }
    else none
  | .init rc =>
    if st.stat = .init then
      let (st, rc) := st.mqttClientInit rc
      if rc = mqttCodeContinue then some (st.eliotConnect again rc)
      else if rc ≠ mqttCodeSuccess then some (st.exit again rc)
      else some { st with stat := .tcpConn }
    else none
  | .netConnect rc cleansUp =>
    if st.stat = .tcpConn then
      let st := st.mqttClientNetConnect rc cleansUp
      if rc = mqttCodeContinue then some (st.eliotConnect again rc)
      else if rc ≠ mqttCodeSuccess then some (st.exit again rc)
      else some { st with stat := .mqttConn }
    else none
  | .connect rc =>
    if st.stat = .mqttConn then
      let st := st.transmit.receive
      if rc = mqttCodeContinue then some (st.eliotConnect again rc)
      else if rc ≠ mqttCodeSuccess then some (st.disconn again rc)
      else some { st with stat := .sub }
    else none
  | .subscribe rc =>
    if st.stat = .sub then
      let st := st.transmit.receive
      if rc = mqttCodeContinue then some (st.eliotConnect again rc)
      -- nothing is freed here, and `Eliot_Connect` begins again
      else if rc = mqttCodeErrorTimeout then some (st.eliotConnect again rc)
      else if rc ≠ mqttCodeSuccess then some (st.disconn again rc)
      else some { st with stat := .pub }
    else none
  | .publish rc =>
    if st.stat = .pub then
      let st := st.transmit.receive
      if rc = mqttCodeContinue then some (st.eliotConnect again rc)
      else if rc ≠ mqttCodeSuccess then some (st.disconn again rc)
      else some (st.eliotConnect again rc)
    else none
  | .disconnect rc =>
    if st.stat = .disconnect then
      let st := st.transmit
      if rc = mqttCodeContinue then some (st.eliotConnect again rc)
      else if rc ≠ mqttCodeSuccess then some (st.disconn again rc)
      else some { st with stat := .netDisconnect }
    else none
  | .netDisconnect rc =>
    if st.stat = .netDisconnect then
      let st := st.mqttClientNetDisconnect
      if rc = mqttCodeContinue then some (st.eliotConnect again rc)
      -- any other result is taken for a success
      else some ({ st with stat := .done }.exit again st.return_code)
    else none
  | .proceed =>
    if st.stat = .done then some (st.exit again st.return_code)
    else if st.stat = .unsub ∨ st.stat = .waitMsg then some (st.exit again mqttCodeErrorStat)
    else none
  | _ => none

/-- `Eliot_GetEvent`, and whether the task connects again. -/
def eliotGetEvent (st : State) (transmits receives : Bool) (rc : ℤ) : State :=
  let st := if transmits then st.transmit else st
  let st := if receives then st.receive else st
  if rc ≠ mqttCodeSuccess then
    { st with stat := .netDisconnect, return_code := rc, place := .connecting true }
  else { st with stat := if transmits then .pub else .waitMsg, place := .top }

/-- What the task does with what `Eliot_Disconnect` returns. -/
def finishDisconnect (st : State) (cloudOff : Bool) (rc : ℤ) : State :=
  if cloudOff then { st.eliotInitMqttContext with place := .top }
  else if rc = mqttCodeSuccess then
    { st.eliotInitMqttContext with place := .top, firstTime := true }
  else { st with place := .top }

/-- A step of the task, up to the next library call. -/
def step (st : State) (e : Event) : Option State :=
  match st.place, e with
  | .top, .cloudOff =>
    if st.connected then some { st with connected := false, place := .disconnecting true }
    else some st
  | .top, .configured =>
    if st.firstTime || !st.connected then some { st with place := .connecting false }
    else some { st with place := .getEvent }
  | .top, .cleared =>
    if st.firstTime then some st else some { st with place := .disconnecting false }
  | .connecting again, e => eliotInit st again e
  | .getEvent, .getEvent transmits receives rc =>
    if rc = mqttCodeContinue then none else some (eliotGetEvent st transmits receives rc)
  | .disconnecting cloudOff, .disconnect rc =>
    let st := st.transmit
    if rc ≠ mqttCodeSuccess then some (finishDisconnect st cloudOff rc)
    else some { st with place := .netDisconnecting cloudOff }
  | .netDisconnecting cloudOff, .netDisconnect rc =>
    let st := st.mqttClientNetDisconnect
    if rc ≠ mqttCodeSuccess then some (finishDisconnect st cloudOff rc)
    else some (finishDisconnect st.cleanup cloudOff mqttCodeSuccess)
  | _, _ => none

/-- **The machine.** -/
def machine : Machine State Event where
  init st := st = initial
  step := step

/-! ### What is asked for -/

/-- **All blocks are accounted for.** -/
structure Accounted (st : State) : Prop where
  /-- No block is freed twice. -/
  once : ∀ x, st.heap.freeCount x ≤ 1
  /-- No block is used after it was freed. -/
  used : st.usedFreed = false
  /-- No pointer to a block that is not freed is overwritten. -/
  lost : st.lost = false

/-- **The condition**: what comes after the connection to the server does not fail, and no connection
is given up; the client is not used when its buffers have been freed. -/
def Careful (st : State) : Event → Prop
  | .netInit _ _ rc => rc ≠ mqttCodeContinue
  | .netConnect rc cleansUp => rc = mqttCodeSuccess ∨ rc = mqttCodeContinue ∨ cleansUp = false
  | .connect rc | .subscribe rc | .publish rc => rc = mqttCodeSuccess ∨ rc = mqttCodeContinue
  | .getEvent transmits _ rc =>
    if st.pointer .context = none then transmits = true → st.client = none
    else rc = mqttCodeSuccess
  | .disconnect rc =>
    if st.pointer .context = none then st.client = none
    else st.place = .disconnecting false ∧ rc ≠ mqttCodeSuccess
  | _ => True

instance (st : State) : DecidablePred (Careful st) := fun e =>
  match e with
  | .netInit _ _ _ => inferInstanceAs (Decidable (_ ≠ _))
  | .netConnect _ _ => inferInstanceAs (Decidable (_ ∨ _ ∨ _))
  | .connect _ | .subscribe _ | .publish _ => inferInstanceAs (Decidable (_ ∨ _))
  | .getEvent transmits _ rc =>
    inferInstanceAs (Decidable (if st.pointer .context = none then
      transmits = true → st.client = none else rc = mqttCodeSuccess))
  | .disconnect rc =>
    inferInstanceAs (Decidable (if st.pointer .context = none then st.client = none
      else st.place = .disconnecting false ∧ rc ≠ mqttCodeSuccess))
  | .cloudOff | .configured | .cleared | .noContext | .init _ | .netDisconnect _ | .proceed =>
    inferInstanceAs (Decidable True)

/-! ### The blocks -/

/-- The pointers own the blocks, and nothing has gone wrong. -/
structure Sound (st : State) : Prop where
  /-- The blocks. -/
  owned : st.heap.Owned st.pointer
  /-- No block has been used after it was freed. -/
  used : st.usedFreed = false
  /-- No block is lost. -/
  lost : st.lost = false

theorem Sound.accounted {st : State} (h : Sound st) : Accounted st :=
  ⟨h.owned.once, h.used, h.lost⟩

namespace Sound

variable {st : State} {p : Pointer}

/-- What a pointer points to may be used. -/
theorem use (h : Sound st) {block : Option ℕ} (hlive : ∀ x ∈ block, st.heap.Live x) :
    Sound (st.use block) := by
  refine ⟨h.owned, ?_, h.lost⟩
  rw [State.use, h.used, Bool.false_or, Option.any_eq_false]
  intro x hx
  rw [decide_eq_true (hlive x hx)]
  rfl

theorem use_pointer (h : Sound st) (p : Pointer) : Sound (st.use (st.pointer p)) :=
  h.use fun x hx => h.owned.held p x hx

/-- A pointer to nothing may be overwritten. -/
theorem overwrite (h : Sound st) (hnone : st.pointer p = none) :
    Sound (st.overwrite p none) := by
  refine ⟨?_, h.used, ?_⟩
  · have hsame : Function.update st.pointer p none = st.pointer := by
      rw [← hnone, Function.update_eq_self]
    rw [State.overwrite, hsame]
    exact h.owned
  · rw [State.overwrite, h.lost, hnone]
    rfl

/-- Something is allocated for a pointer to nothing. -/
theorem malloc (h : Sound st) (hnone : st.pointer p = none) (allocated : Bool) :
    Sound (st.malloc p allocated) := by
  cases allocated with
  | false => exact h.overwrite hnone
  | true =>
    refine ⟨h.owned.put hnone, h.used, ?_⟩
    show (st.overwrite p (some st.heap.next)).lost = false
    rw [State.overwrite, h.lost, hnone]
    rfl

/-- What a pointer points to is freed. -/
theorem release (h : Sound st) (p : Pointer) : Sound (st.release p) := by
  refine ⟨?_, h.used, h.lost⟩
  cases hp : st.pointer p with
  | none =>
    have hsame : Function.update st.pointer p none = st.pointer := by
      rw [← hp, Function.update_eq_self]
    rw [State.release, State.free, hp, hsame]
    exact h.owned
  | some x =>
    rw [State.release, State.free, hp]
    exact h.owned.release hp

end Sound

/-! ### What there is, and when -/

/-- Nothing is allocated, and no callback registered. -/
structure Idle (st : State) : Prop where
  /-- Nothing is allocated. -/
  pointer : ∀ p, st.pointer p = none
  /-- No callback is registered. -/
  callbacks : st.callbacks = false

/-- There is a context, and the client has been given the buffers. -/
structure Held (st : State) : Prop where
  /-- The context. -/
  context : st.pointer .context ≠ none
  /-- The client. -/
  client : st.client = some ⟨st.pointer .txBuf, st.pointer .rxBuf⟩

/-- The task has not connected, or is about to do so again from the beginning. -/
def Fresh (st : State) : Prop :=
  st.firstTime = true ∨ st.connected = false → st.stat = .begin ∧ Idle st

/-- What there is when `Eliot_Init` goes on. -/
def Resumes (st : State) : Prop :=
  match st.stat with
  | .begin | .netInit | .netDisconnect | .done => Idle st
  | .init => st.pointer .context ≠ none
  | .tcpConn | .mqttConn | .sub | .pub => Held st
  | .waitMsg | .unsub | .disconnect => False

/-- What there is at each place. -/
def Fits (st : State) : Prop :=
  match st.place with
  | .top | .disconnecting false => (Idle st ∨ Held st) ∧ Fresh st
  | .connecting again =>
    Resumes st ∧ (again = true → st.firstTime = false ∧ st.connected = true)
  | .getEvent => (Idle st ∨ Held st) ∧ st.firstTime = false ∧ st.connected = true
  | .disconnecting true => Idle st ∨ Held st
  | .netDisconnecting cloudOff => Idle st ∧ (cloudOff = false → Fresh st)

/-- **The invariant.** -/
structure Inv (st : State) : Prop where
  /-- The blocks. -/
  sound : Sound st
  /-- What there is. -/
  fits : Fits st

variable {st : State}

/-- Once the task has connected, it need not be about to connect. -/
theorem Fresh.of_connected (h : st.firstTime = false ∧ st.connected = true) : Fresh st := by
  rintro (hfirst | hconnected)
  · exact absurd (h.1.symm.trans hfirst) (by simp)
  · exact absurd (h.2.symm.trans hconnected) (by simp)

/-- What there is does not depend on where the task is. -/
theorem there_of_eq (h : Idle st ∨ Held st) {st' : State} (hpointer : st'.pointer = st.pointer)
    (hcallbacks : st'.callbacks = st.callbacks) (hclient : st'.client = st.client) :
    Idle st' ∨ Held st' := by
  obtain hidle | hheld := h
  · refine .inl ⟨fun p => ?_, hcallbacks.trans hidle.callbacks⟩
    rw [hpointer]
    exact hidle.pointer p
  · refine .inr ⟨?_, ?_⟩
    · rw [hpointer]
      exact hheld.context
    · rw [hclient, hpointer]
      exact hheld.client

theorem inv_initial : Inv initial where
  sound := by
    refine ⟨⟨fun _ _ => rfl, fun _ => Nat.zero_le 1, ?_, ?_, ?_⟩, rfl, rfl⟩
    · exact fun _ _ h => nomatch h
    · exact fun _ _ _ h => nomatch h
    · exact fun x h => absurd h.1 (Nat.not_lt_zero x)
  fits := ⟨.inl ⟨fun _ => rfl, rfl⟩, fun _ => ⟨rfl, ⟨fun _ => rfl, rfl⟩⟩⟩

/-! ### The client -/

theorem Sound.transmit (h : Sound st) (hclient : Held st ∨ st.client = none) :
    Sound st.transmit := by
  rw [State.transmit]
  obtain hheld | hnone := hclient
  · rw [hheld.client]
    have huse := h.use_pointer .txBuf
    dsimp only
    split
    · exact huse.use_pointer .context
    · exact huse
  · rw [hnone]
    exact h

theorem Sound.receive (h : Sound st) (hclient : Held st ∨ Idle st) : Sound st.receive := by
  rw [State.receive]
  obtain hheld | hidle := hclient
  · rw [hheld.client]
    dsimp only
    split
    · exact (h.use_pointer .rxBuf).use_pointer .context
    · exact h
  · cases st.client with
    | none => exact h
    | some client =>
      dsimp only
      rw [hidle.callbacks]
      exact h

/-- A library call changes nothing else. -/
theorem transmit_eq (st : State) :
    st.transmit = { st with usedFreed := st.transmit.usedFreed } := by
  rw [State.transmit]
  split
  · rfl
  · dsimp only
    split
    · rfl
    · rfl

theorem receive_eq (st : State) : st.receive = { st with usedFreed := st.receive.usedFreed } := by
  rw [State.receive]
  split
  · rfl
  · split
    · rfl
    · rfl

/-- A library call that sends and receives. -/
theorem Held.exchange (h : Held st) (hsound : Sound st) :
    Sound st.transmit.receive ∧ ∃ used, st.transmit.receive = { st with usedFreed := used } := by
  have htransmit := transmit_eq st
  have hheld : Held st.transmit := by
    rw [htransmit]
    exact ⟨h.context, h.client⟩
  refine ⟨(hsound.transmit (.inl h)).receive (.inl hheld), st.transmit.receive.usedFreed, ?_⟩
  have hreceive := receive_eq st.transmit
  generalize st.transmit.receive = st' at hreceive
  rw [hreceive, htransmit]

/-! ### Connecting -/

/-- All blocks are freed. -/
theorem Sound.cleanup (h : Sound st) : Sound st.cleanup ∧ Idle st.cleanup := by
  have hreleased := ((h.release .txBuf).release .rxBuf).release .context
  refine ⟨⟨hreleased.owned, hreleased.used, hreleased.lost⟩, fun p => ?_, rfl⟩
  cases p with
  | txBuf => rfl
  | rxBuf => rfl
  | context => rfl

/-- The task is connecting, and the flags are as they should be then. -/
structure Connecting (st : State) (again : Bool) : Prop where
  /-- Where the task is. -/
  place : st.place = .connecting again
  /-- The flags. -/
  flags : again = true → st.firstTime = false ∧ st.connected = true

/-- What belongs to the task stays. -/
structure SameTask (st st' : State) : Prop where
  /-- Where the task is. -/
  place : st'.place = st.place
  /-- `firstTime` -/
  firstTime : st'.firstTime = st.firstTime
  /-- `connected` -/
  connected : st'.connected = st.connected

theorem Connecting.of_sameTask {again : Bool} (h : Connecting st again) {st' : State}
    (hsame : SameTask st st') : Connecting st' again := by
  refine ⟨hsame.place.trans h.place, fun hagain => ?_⟩
  rw [hsame.firstTime, hsame.connected]
  exact h.flags hagain

theorem sameTask_cleanup (st : State) : SameTask st st.cleanup := by
  constructor <;>
    simp only [State.cleanup, State.mqttClientNetDeInit, State.release, State.free]

/-- `Eliot_Init` has returned, and there is nothing. -/
theorem Idle.eliotConnect (hidle : Idle st) (h : Sound st) {again : Bool}
    (hconnecting : Connecting st again) {rc : ℤ}
    (hstat : rc = mqttCodeContinue → Resumes st) : Inv (st.eliotConnect again rc) := by
  rw [State.eliotConnect]
  split_ifs with hbegin hcontinue hreturn
  · refine ⟨⟨h.owned, h.used, h.lost⟩, ?_⟩
    rw [Fits, hconnecting.place]
    exact ⟨⟨hidle.pointer, hidle.callbacks⟩, hconnecting.flags⟩
  · refine ⟨h, ?_⟩
    rw [Fits, hconnecting.place]
    exact ⟨hstat hcontinue, hconnecting.flags⟩
  · exact ⟨⟨h.owned, h.used, h.lost⟩, .inl ⟨hidle.pointer, hidle.callbacks⟩,
      Fresh.of_connected (hconnecting.flags hreturn)⟩
  · exact ⟨⟨h.owned, h.used, h.lost⟩, .inl ⟨hidle.pointer, hidle.callbacks⟩, rfl, rfl⟩

/-- `Eliot_Init` gives up. -/
theorem Sound.exit (h : Sound st) {again : Bool} (hconnecting : Connecting st again) {rc : ℤ}
    (hrc : rc ≠ mqttCodeContinue) : Inv (st.exit again rc) := by
  obtain ⟨hsound, hidle⟩ := h.cleanup
  rw [State.exit, if_pos hrc]
  exact hidle.eliotConnect hsound (hconnecting.of_sameTask (sameTask_cleanup st))
    fun hcontinue => absurd hcontinue hrc

/-- There is nothing left to give up. -/
theorem Idle.exit (hidle : Idle st) (h : Sound st) {again : Bool}
    (hconnecting : Connecting st again) (hstat : Resumes st) (rc : ℤ) :
    Inv (st.exit again rc) := by
  by_cases hrc : rc = mqttCodeContinue
  · -- nothing is freed then, and `Eliot_Init` is called again
    rw [State.exit, if_neg (not_not_intro hrc)]
    exact hidle.eliotConnect h hconnecting fun _ => hstat
  · exact h.exit hconnecting hrc

/-- `Eliot_Init` is called again. -/
theorem eliotConnect_continue (st : State) (again : Bool) :
    st.eliotConnect again mqttCodeContinue = st := by
  rw [State.eliotConnect, if_neg (by decide), if_pos rfl]

/-- `Eliot_Init` goes on with the next call. -/
theorem Sound.connecting (h : Sound st) {again : Bool} (hconnecting : Connecting st again)
    (hstat : Resumes st) : Inv st := by
  refine ⟨h, ?_⟩
  rw [Fits, hconnecting.place]
  exact ⟨hstat, hconnecting.flags⟩

/-- The connection is there. -/
theorem Held.eliotConnect (hheld : Held st) (h : Sound st) {again : Bool}
    (hconnecting : Connecting st again) : Inv (st.eliotConnect again mqttCodeSuccess) := by
  rw [State.eliotConnect, if_neg (by decide), if_neg (by decide)]
  split
  · rename_i hreturn
    exact ⟨⟨h.owned, h.used, h.lost⟩, .inr ⟨hheld.context, hheld.client⟩,
      Fresh.of_connected (hconnecting.flags hreturn)⟩
  · exact ⟨⟨h.owned, h.used, h.lost⟩, .inr ⟨hheld.context, hheld.client⟩, rfl, rfl⟩

/-- The first allocation, when there is nothing. -/
theorem Idle.mqttClientNetInit (hidle : Idle st) (h : Sound st) (allocated : Bool) :
    Sound (st.mqttClientNetInit allocated) := by
  have hoverwritten := h.overwrite (hidle.pointer .context)
  have hmade := hoverwritten.malloc (Function.update_self ..) allocated
  exact ⟨hmade.owned, hmade.used, hmade.lost⟩

theorem sameTask_malloc (st : State) (p : Pointer) (allocated : Bool) :
    SameTask st (st.malloc p allocated) := by
  cases allocated <;> constructor <;> simp only [State.malloc, State.overwrite, if_true, if_false,
    Bool.false_eq_true]

theorem sameTask_mqttClientNetInit (st : State) (allocated : Bool) :
    SameTask st (st.mqttClientNetInit allocated) := by
  have hmade := sameTask_malloc (st.overwrite .context none) .context allocated
  exact ⟨hmade.place, hmade.firstTime, hmade.connected⟩

variable {again : Bool} {st' : State}

/-- The context cannot be allocated. -/
theorem Inv.noContext (hidle : Idle st) (h : Sound st) (hconnecting : Connecting st again) :
    Inv (({ st with stat := .netInit }.mqttClientNetInit false).exit again
      mqttCodeErrorMemory) := by
  have hstat : Idle { st with stat := .netInit } := ⟨hidle.pointer, hidle.callbacks⟩
  have hsound : Sound { st with stat := .netInit } := ⟨h.owned, h.used, h.lost⟩
  have htask : Connecting { st with stat := .netInit } again :=
    ⟨hconnecting.place, hconnecting.flags⟩
  exact (hstat.mqttClientNetInit hsound false).exit
    (htask.of_sameTask (sameTask_mqttClientNetInit _ _)) (by decide)

theorem malloc_pointer (st : State) {p q : Pointer} (hne : q ≠ p) (allocated : Bool) :
    (st.malloc p allocated).pointer q = st.pointer q := by
  cases allocated with
  | false => exact Function.update_of_ne hne ..
  | true => exact Function.update_of_ne hne ..

theorem malloc_pointer_self (st : State) (p : Pointer) :
    (st.malloc p true).pointer p = some st.heap.next := by
  simp only [State.malloc, State.overwrite, if_true, Function.update_self]

/-- The context and the buffers, when there is nothing. -/
theorem Idle.buffers (hidle : Idle st) (h : Sound st) (txAllocated rxAllocated : Bool) :
    Sound (((st.mqttClientNetInit true).malloc .txBuf txAllocated).malloc .rxBuf rxAllocated) ∧
      (((st.mqttClientNetInit true).malloc .txBuf txAllocated).malloc .rxBuf
        rxAllocated).pointer .context ≠ none := by
  have hother : ∀ q, q ≠ .context → (st.mqttClientNetInit true).pointer q = none := by
    intro q hq
    calc (st.mqttClientNetInit true).pointer q
        = (st.overwrite .context none).pointer q := malloc_pointer _ hq true
      _ = st.pointer q := Function.update_of_ne hq ..
      _ = none := hidle.pointer q
  have htx := hother .txBuf (by decide)
  have hrx := malloc_pointer (st.mqttClientNetInit true) (p := .txBuf) (q := .rxBuf) (by decide)
    txAllocated
  rw [hother .rxBuf (by decide)] at hrx
  refine ⟨((hidle.mqttClientNetInit h true).malloc htx txAllocated).malloc hrx rxAllocated, ?_⟩
  rw [malloc_pointer _ (by decide), malloc_pointer _ (by decide)]
  exact ne_of_eq_of_ne (malloc_pointer_self (st.overwrite .context none) .context)
    (Option.some_ne_none _)

/-- The buffers are allocated, or `Eliot_Init` gives up. -/
theorem Inv.netInit (hidle : Idle st) (h : Sound st) (hconnecting : Connecting st again)
    {txAllocated rxAllocated : Bool} {rc : ℤ} (hrc : rc ≠ mqttCodeContinue)
    (hstep : eliotInit st again (.netInit txAllocated rxAllocated rc) = some st') : Inv st' := by
  rw [eliotInit] at hstep
  have hstat : Idle { st with stat := .netInit } := ⟨hidle.pointer, hidle.callbacks⟩
  have hsound : Sound { st with stat := .netInit } := ⟨h.owned, h.used, h.lost⟩
  have htask : Connecting { st with stat := .netInit } again :=
    ⟨hconnecting.place, hconnecting.flags⟩
  obtain ⟨hmade, hcontext⟩ := hstat.buffers hsound txAllocated rxAllocated
  have hconnecting' := ((htask.of_sameTask (sameTask_mqttClientNetInit _ true)).of_sameTask
    (sameTask_malloc _ .txBuf txAllocated)).of_sameTask (sameTask_malloc _ .rxBuf rxAllocated)
  split_ifs at hstep
  · rw [← Option.some.inj hstep]
    exact hmade.exit hconnecting' hrc
  · rw [← Option.some.inj hstep]
    refine Sound.connecting ⟨hmade.owned, hmade.used, hmade.lost⟩
      (show Connecting _ again from ⟨hconnecting'.place, hconnecting'.flags⟩) ?_
    exact hcontext

/-- The client is given the buffers. -/
theorem Inv.init (hcontext : st.pointer .context ≠ none) (hinit : st.stat = .init) (h : Sound st)
    (hconnecting : Connecting st again) {rc : ℤ}
    (hstep : eliotInit st again (.init rc) = some st') : Inv st' := by
  rw [eliotInit, if_pos hinit, State.mqttClientInit] at hstep
  by_cases hnull : st.pointer .txBuf = none ∨ st.pointer .rxBuf = none
  · -- `MqttClient_Init` refuses a buffer that could not be allocated
    rw [if_pos hnull] at hstep
    rw [← Option.some.inj hstep]
    exact h.exit hconnecting (by decide)
  · rw [if_neg hnull] at hstep
    have hmade : Sound { st with client := some ⟨st.pointer .txBuf, st.pointer .rxBuf⟩ } :=
      ⟨h.owned, h.used, h.lost⟩
    dsimp only at hstep
    split_ifs at hstep with hcontinue hfailed
    · rw [← Option.some.inj hstep, hcontinue, eliotConnect_continue]
      refine hmade.connecting ⟨hconnecting.place, hconnecting.flags⟩ ?_
      rw [Resumes, hinit]
      exact hcontext
    · rw [← Option.some.inj hstep]
      exact hmade.exit ⟨hconnecting.place, hconnecting.flags⟩ hcontinue
    · rw [← Option.some.inj hstep]
      refine Sound.connecting ⟨h.owned, h.used, h.lost⟩
        (show Connecting _ again from ⟨hconnecting.place, hconnecting.flags⟩) ?_
      exact ⟨hcontext, rfl⟩

/-- The socket is connected; if that fails, the context is still there. -/
theorem Inv.netConnect (hheld : Held st) (hconn : st.stat = .tcpConn) (h : Sound st)
    (hconnecting : Connecting st again) {rc : ℤ} {cleansUp : Bool}
    (hcareful : Careful st (.netConnect rc cleansUp))
    (hstep : eliotInit st again (.netConnect rc cleansUp) = some st') : Inv st' := by
  have hkept : ¬(rc ≠ mqttCodeSuccess ∧ rc ≠ mqttCodeContinue ∧ cleansUp = true) := by
    rintro ⟨hsuccess, hcontinue, hcleans⟩
    obtain hrc | hrc | hrc := hcareful
    · exact hsuccess hrc
    · exact hcontinue hrc
    · rw [hcleans] at hrc
      exact nomatch hrc
  rw [eliotInit, if_pos hconn, State.mqttClientNetConnect, if_neg hkept] at hstep
  have hused := h.use_pointer .context
  have htask : Connecting (st.use (st.pointer .context)) again :=
    ⟨hconnecting.place, hconnecting.flags⟩
  dsimp only at hstep
  split_ifs at hstep with hcontinue hfailed
  · rw [← Option.some.inj hstep, hcontinue, eliotConnect_continue]
    refine hused.connecting htask ?_
    rw [State.use, Resumes, hconn]
    exact ⟨hheld.context, hheld.client⟩
  · rw [← Option.some.inj hstep]
    exact hused.exit htask hcontinue
  · rw [← Option.some.inj hstep]
    refine Sound.connecting ⟨hused.owned, hused.used, hused.lost⟩
      (show Connecting _ again from ⟨hconnecting.place, hconnecting.flags⟩) ?_
    exact ⟨hheld.context, hheld.client⟩

/-- A library call that sends and receives, and asks to be called again. -/
theorem Held.calledAgain (hheld : Held st) (h : Sound st) (hconnecting : Connecting st again)
    (hstat : st.stat = .mqttConn ∨ st.stat = .sub ∨ st.stat = .pub) :
    Inv (st.transmit.receive.eliotConnect again mqttCodeContinue) := by
  obtain ⟨hsound, used, hsame⟩ := hheld.exchange h
  rw [hsame] at hsound
  rw [eliotConnect_continue, hsame]
  refine hsound.connecting ⟨hconnecting.place, hconnecting.flags⟩ ?_
  obtain hstat | hstat | hstat := hstat
  all_goals
    rw [Resumes, hstat]
    exact ⟨hheld.context, hheld.client⟩

/-- A library call that sends and receives, and the next one. -/
theorem Held.next (hheld : Held st) (h : Sound st) (hconnecting : Connecting st again)
    {stat : MQTTCtxState} (hstat : stat = .sub ∨ stat = .pub) :
    Inv { st.transmit.receive with stat := stat } := by
  obtain ⟨hsound, used, hsame⟩ := hheld.exchange h
  rw [hsame] at hsound
  rw [hsame]
  refine Sound.connecting ⟨h.owned, hsound.used, h.lost⟩
    (show Connecting _ again from ⟨hconnecting.place, hconnecting.flags⟩) ?_
  obtain rfl | rfl := hstat
  all_goals exact ⟨hheld.context, hheld.client⟩

/-- The last library call. -/
theorem Held.published (hheld : Held st) (h : Sound st) (hconnecting : Connecting st again) :
    Inv (st.transmit.receive.eliotConnect again mqttCodeSuccess) := by
  obtain ⟨hsound, used, hsame⟩ := hheld.exchange h
  rw [hsame] at hsound
  rw [hsame]
  have hheld' : Held { st with usedFreed := used } := ⟨hheld.context, hheld.client⟩
  exact hheld'.eliotConnect hsound ⟨hconnecting.place, hconnecting.flags⟩

/-- Without callbacks, the disconnection does nothing, and `Eliot_Init` gives up. -/
theorem Inv.netDisconnect (hidle : Idle st) (hstat : st.stat = .netDisconnect) (h : Sound st)
    (hconnecting : Connecting st again) {rc : ℤ}
    (hstep : eliotInit st again (.netDisconnect rc) = some st') : Inv st' := by
  have hnothing : st.mqttClientNetDisconnect = st := by
    rw [State.mqttClientNetDisconnect, hidle.callbacks]
    exact if_neg fun hboth => nomatch hboth.2
  rw [eliotInit, if_pos hstat, hnothing] at hstep
  dsimp only at hstep
  split_ifs at hstep with hcontinue
  · rw [← Option.some.inj hstep, hcontinue, eliotConnect_continue]
    refine h.connecting hconnecting ?_
    rw [Resumes, hstat]
    exact hidle
  · rw [← Option.some.inj hstep]
    have hdone : Idle { st with stat := .done } := ⟨hidle.pointer, hidle.callbacks⟩
    exact hdone.exit ⟨h.owned, h.used, h.lost⟩ ⟨hconnecting.place, hconnecting.flags⟩ hdone _

/-- **A step of `Eliot_Init`.** -/
theorem Inv.eliotInit (h : Sound st) (hresumes : Resumes st) (hconnecting : Connecting st again)
    {e : Event} (hcareful : Careful st e) (hstep : eliotInit st again e = some st') : Inv st' := by
  cases e with
  | cloudOff => exact nomatch hstep
  | configured => exact nomatch hstep
  | cleared => exact nomatch hstep
  | getEvent _ _ _ => exact nomatch hstep
  | noContext =>
    rw [Resources.eliotInit] at hstep
    split_ifs at hstep with hbegin
    rw [← Option.some.inj hstep]
    refine Inv.noContext ?_ h hconnecting
    obtain hstat | hstat := hbegin
    all_goals
      rw [Resumes, hstat] at hresumes
      exact hresumes
  | netInit txAllocated rxAllocated rc =>
    obtain ⟨hbegin, -⟩ := Option.ite_none_right_eq_some.1 hstep
    refine Inv.netInit ?_ h hconnecting hcareful hstep
    obtain hstat | hstat := hbegin
    all_goals
      rw [Resumes, hstat] at hresumes
      exact hresumes
  | init rc =>
    obtain ⟨hstat, -⟩ := Option.ite_none_right_eq_some.1 hstep
    rw [Resumes, hstat] at hresumes
    exact Inv.init hresumes hstat h hconnecting hstep
  | netConnect rc cleansUp =>
    obtain ⟨hstat, -⟩ := Option.ite_none_right_eq_some.1 hstep
    rw [Resumes, hstat] at hresumes
    exact Inv.netConnect hresumes hstat h hconnecting hcareful hstep
  | connect rc =>
    obtain ⟨hstat, hstep⟩ := Option.ite_none_right_eq_some.1 hstep
    rw [Resumes, hstat] at hresumes
    obtain hrc | hrc := hcareful
    · rw [hrc, if_neg (by decide), if_neg (by decide)] at hstep
      rw [← Option.some.inj hstep]
      exact hresumes.next h hconnecting (.inl rfl)
    · rw [if_pos hrc, hrc] at hstep
      rw [← Option.some.inj hstep]
      exact hresumes.calledAgain h hconnecting (.inl hstat)
  | subscribe rc =>
    obtain ⟨hstat, hstep⟩ := Option.ite_none_right_eq_some.1 hstep
    rw [Resumes, hstat] at hresumes
    obtain hrc | hrc := hcareful
    · rw [hrc, if_neg (by decide), if_neg (by decide), if_neg (by decide)] at hstep
      rw [← Option.some.inj hstep]
      exact hresumes.next h hconnecting (.inr rfl)
    · rw [if_pos hrc, hrc] at hstep
      rw [← Option.some.inj hstep]
      exact hresumes.calledAgain h hconnecting (.inr (.inl hstat))
  | publish rc =>
    obtain ⟨hstat, hstep⟩ := Option.ite_none_right_eq_some.1 hstep
    rw [Resumes, hstat] at hresumes
    obtain hrc | hrc := hcareful
    · rw [hrc, if_neg (by decide), if_neg (by decide)] at hstep
      rw [← Option.some.inj hstep]
      exact hresumes.published h hconnecting
    · rw [if_pos hrc, hrc] at hstep
      rw [← Option.some.inj hstep]
      exact hresumes.calledAgain h hconnecting (.inr (.inr hstat))
  | disconnect rc =>
    -- the task never calls `Eliot_Init` in this state
    obtain ⟨hstat, -⟩ := Option.ite_none_right_eq_some.1 hstep
    rw [Resumes, hstat] at hresumes
    exact hresumes.elim
  | netDisconnect rc =>
    obtain ⟨hstat, -⟩ := Option.ite_none_right_eq_some.1 hstep
    rw [Resumes, hstat] at hresumes
    exact Inv.netDisconnect hresumes hstat h hconnecting hstep
  | proceed =>
    rw [Resources.eliotInit] at hstep
    split_ifs at hstep with hdone hlost
    · rw [← Option.some.inj hstep]
      have hidle := hresumes
      rw [Resumes, hdone] at hidle
      exact hidle.exit h hconnecting hresumes _
    · rw [← Option.some.inj hstep]
      exact h.exit hconnecting (by decide)

/-! ### The task -/

/-- What `Eliot_GetEvent` sends and receives. -/
theorem Sound.events (h : Sound st) (hthere : Idle st ∨ Held st) {transmits : Bool}
    (hclient : transmits = true → Held st ∨ st.client = none) (receives : Bool) :
    Sound (if receives then (if transmits then st.transmit else st).receive
      else if transmits then st.transmit else st) ∧
      ∃ used, (if receives then (if transmits then st.transmit else st).receive
        else if transmits then st.transmit else st) = { st with usedFreed := used } := by
  obtain ⟨hsent, used, hsame⟩ : Sound (if transmits then st.transmit else st) ∧
      ∃ used, (if transmits then st.transmit else st) = { st with usedFreed := used } := by
    cases transmits with
    | false => exact ⟨h, st.usedFreed, rfl⟩
    | true => exact ⟨h.transmit (hclient rfl), _, transmit_eq st⟩
  rw [hsame] at hsent ⊢
  cases receives with
  | false => exact ⟨hsent, used, rfl⟩
  | true =>
    refine ⟨hsent.receive ?_, _, receive_eq _⟩
    obtain hidle | hheld := hthere
    · exact .inr ⟨hidle.pointer, hidle.callbacks⟩
    · exact .inl ⟨hheld.context, hheld.client⟩

/-- The connection is not given up while there is a context. -/
theorem Inv.getEvent (h : Sound st) (hthere : Idle st ∨ Held st)
    (hflags : st.firstTime = false ∧ st.connected = true) {transmits receives : Bool} {rc : ℤ}
    (hcareful : Careful st (.getEvent transmits receives rc)) :
    Inv (eliotGetEvent st transmits receives rc) := by
  have hclient : transmits = true → Held st ∨ st.client = none := by
    intro hsends
    obtain hidle | hheld := hthere
    · rw [Careful, if_pos (hidle.pointer .context)] at hcareful
      exact .inr (hcareful hsends)
    · exact .inl hheld
  have hrc : rc ≠ mqttCodeSuccess → Idle st := by
    intro hfailed
    obtain hidle | hheld := hthere
    · exact hidle
    · rw [Careful, if_neg hheld.context] at hcareful
      exact absurd hcareful hfailed
  obtain ⟨hsound, used, hsame⟩ := h.events hthere hclient receives
  rw [eliotGetEvent, hsame]
  rw [hsame] at hsound
  by_cases hfailed : rc ≠ mqttCodeSuccess
  · rw [if_pos hfailed]
    have hidle := hrc hfailed
    exact ⟨⟨hsound.owned, hsound.used, hsound.lost⟩, ⟨hidle.pointer, hidle.callbacks⟩,
      fun _ => hflags⟩
  · rw [if_neg hfailed]
    exact ⟨⟨hsound.owned, hsound.used, hsound.lost⟩, there_of_eq hthere rfl rfl rfl,
      Fresh.of_connected hflags⟩

/-- The context is initialized when there is nothing. -/
theorem Idle.eliotInitMqttContext (hidle : Idle st) (h : Sound st) :
    Sound st.eliotInitMqttContext ∧ Idle st.eliotInitMqttContext := by
  have htx := h.overwrite (hidle.pointer .txBuf)
  have hnone : ∀ p, (st.overwrite .txBuf none).pointer p = none := by
    intro p
    cases p with
    | txBuf => rfl
    | rxBuf => exact hidle.pointer .rxBuf
    | context => exact hidle.pointer .context
  have hrx := htx.overwrite (hnone .rxBuf)
  have hcontext := hrx.overwrite (p := .context) (hnone .context)
  refine ⟨⟨hcontext.owned, hcontext.used, hcontext.lost⟩, fun p => ?_, rfl⟩
  cases p with
  | txBuf => rfl
  | rxBuf => rfl
  | context => rfl

/-- The task goes on when there is nothing. -/
theorem Idle.finishDisconnect (hidle : Idle st) (h : Sound st) {cloudOff : Bool}
    (hfresh : cloudOff = false → Fresh st) (rc : ℤ) :
    Inv (Resources.finishDisconnect st cloudOff rc) := by
  obtain ⟨hsound, hnothing⟩ := hidle.eliotInitMqttContext h
  rw [Resources.finishDisconnect]
  split_ifs with hoff hsuccess
  · exact ⟨⟨hsound.owned, hsound.used, hsound.lost⟩,
      .inl ⟨hnothing.pointer, hnothing.callbacks⟩,
      fun _ => ⟨rfl, hnothing.pointer, hnothing.callbacks⟩⟩
  · exact ⟨⟨hsound.owned, hsound.used, hsound.lost⟩,
      .inl ⟨hnothing.pointer, hnothing.callbacks⟩,
      fun _ => ⟨rfl, hnothing.pointer, hnothing.callbacks⟩⟩
  · refine ⟨⟨h.owned, h.used, h.lost⟩, .inl ⟨hidle.pointer, hidle.callbacks⟩, fun hflags => ?_⟩
    exact ⟨(hfresh (by simpa using hoff) hflags).1, hidle.pointer, hidle.callbacks⟩

/-- At the head of the loop. -/
theorem Inv.top (h : Sound st) (hthere : Idle st ∨ Held st) (hfresh : Fresh st)
    (hplace : st.place = .top) {e : Event} (hstep : step st e = some st') : Inv st' := by
  have hsame : Inv st := by
    refine ⟨h, ?_⟩
    rw [Fits, hplace]
    exact ⟨hthere, hfresh⟩
  have hmoved : ∀ place connected, Sound { st with place := place, connected := connected } :=
    fun _ _ => ⟨h.owned, h.used, h.lost⟩
  have hthere' : ∀ place connected,
      Idle { st with place := place, connected := connected } ∨
        Held { st with place := place, connected := connected } :=
    fun _ _ => there_of_eq hthere rfl rfl rfl
  unfold step at hstep
  rw [hplace] at hstep
  cases e with
  | cloudOff =>
    dsimp only at hstep
    split_ifs at hstep
    · rw [← Option.some.inj hstep]
      exact ⟨hmoved _ _, hthere' _ _⟩
    · rw [← Option.some.inj hstep]
      exact hsame
  | configured =>
    dsimp only at hstep
    split_ifs at hstep with hconnect
    · rw [← Option.some.inj hstep]
      obtain ⟨hbegin, hidle⟩ := hfresh (by simpa using hconnect)
      refine ⟨hmoved _ st.connected, ?_, fun hagain => nomatch hagain⟩
      rw [Resumes, hbegin]
      exact ⟨hidle.pointer, hidle.callbacks⟩
    · rw [← Option.some.inj hstep]
      exact ⟨hmoved _ st.connected, hthere' _ st.connected, by simpa using hconnect⟩
  | cleared =>
    dsimp only at hstep
    split_ifs at hstep
    · rw [← Option.some.inj hstep]
      exact hsame
    · rw [← Option.some.inj hstep]
      refine ⟨hmoved _ st.connected, hthere' _ st.connected, fun hflags => ?_⟩
      obtain ⟨hbegin, hidle⟩ := hfresh hflags
      exact ⟨hbegin, hidle.pointer, hidle.callbacks⟩
  | _ => exact nomatch hstep

/-- Nothing is disconnected while there is a context, unless nothing comes of it. -/
theorem Inv.disconnect (h : Sound st) (hthere : Idle st ∨ Held st) {cloudOff : Bool}
    (hplace : st.place = .disconnecting cloudOff) (hfresh : cloudOff = false → Fresh st) {rc : ℤ}
    (hcareful : Careful st (.disconnect rc))
    (hstep : step st (.disconnect rc) = some st') : Inv st' := by
  unfold step at hstep
  rw [hplace] at hstep
  dsimp only at hstep
  have hsame := transmit_eq st
  obtain hidle | hheld := hthere
  · -- without a client, nothing is sent
    rw [Careful, if_pos (hidle.pointer .context)] at hcareful
    have hsent := h.transmit (.inr hcareful)
    rw [hsame] at hsent hstep
    have hidle' : Idle { st with usedFreed := st.transmit.usedFreed } :=
      ⟨hidle.pointer, hidle.callbacks⟩
    have hfresh' : cloudOff = false → Fresh { st with usedFreed := st.transmit.usedFreed } := by
      intro hstrings hflags
      obtain ⟨hbegin, -⟩ := hfresh hstrings hflags
      exact ⟨hbegin, hidle'⟩
    split_ifs at hstep
    · rw [← Option.some.inj hstep]
      exact hidle'.finishDisconnect hsent hfresh' rc
    · rw [← Option.some.inj hstep]
      refine ⟨⟨hsent.owned, hsent.used, hsent.lost⟩, ⟨hidle.pointer, hidle.callbacks⟩, ?_⟩
      intro hstrings hflags
      obtain ⟨hbegin, -⟩ := hfresh hstrings hflags
      exact ⟨hbegin, hidle.pointer, hidle.callbacks⟩
  · -- the disconnection fails, and the task keeps what it has
    rw [Careful, if_neg hheld.context, hplace] at hcareful
    obtain ⟨hstrings, hrc⟩ := hcareful
    have hon : cloudOff = false := Place.disconnecting.inj hstrings
    subst hon
    have hsent := h.transmit (.inl hheld)
    rw [hsame] at hsent hstep
    rw [if_pos hrc, finishDisconnect, if_neg (by decide), if_neg hrc] at hstep
    rw [← Option.some.inj hstep]
    refine ⟨⟨hsent.owned, hsent.used, hsent.lost⟩, .inr ⟨hheld.context, hheld.client⟩, ?_⟩
    intro hflags
    obtain ⟨hbegin, hidle⟩ := hfresh rfl hflags
    exact ⟨hbegin, hidle.pointer, hidle.callbacks⟩

/-- All blocks are freed, if there are any. -/
theorem Inv.netDisconnecting (hidle : Idle st) (h : Sound st) {cloudOff : Bool}
    (hplace : st.place = .netDisconnecting cloudOff) (hfresh : cloudOff = false → Fresh st)
    {rc : ℤ} (hstep : step st (.netDisconnect rc) = some st') : Inv st' := by
  unfold step at hstep
  rw [hplace] at hstep
  have hnothing : st.mqttClientNetDisconnect = st := by
    rw [State.mqttClientNetDisconnect, hidle.callbacks]
    exact if_neg fun hboth => nomatch hboth.2
  dsimp only at hstep
  rw [hnothing] at hstep
  split_ifs at hstep
  · rw [← Option.some.inj hstep]
    exact hidle.finishDisconnect h hfresh rc
  · rw [← Option.some.inj hstep]
    obtain ⟨hsound, hnone⟩ := h.cleanup
    obtain ⟨-, hfirst, hconnected⟩ := sameTask_cleanup st
    refine hnone.finishDisconnect hsound (fun hstrings hflags => ?_) _
    rw [hfirst, hconnected] at hflags
    have hstat : st.cleanup.stat = st.stat := by
      simp only [State.cleanup, State.mqttClientNetDeInit, State.release, State.free]
    exact ⟨hstat.trans (hfresh hstrings hflags).1, hnone⟩

/-- **A step of the task.** -/
theorem Inv.step (h : Inv st) {e : Event} (hcareful : Careful st e)
    (hstep : step st e = some st') : Inv st' := by
  obtain ⟨hsound, hfits⟩ := h
  cases hplace : st.place with
  | top =>
    rw [Fits, hplace] at hfits
    exact Inv.top hsound hfits.1 hfits.2 hplace hstep
  | connecting again =>
    rw [Fits, hplace] at hfits
    unfold Resources.step at hstep
    rw [hplace] at hstep
    exact Inv.eliotInit hsound hfits.1 ⟨hplace, hfits.2⟩ hcareful hstep
  | getEvent =>
    rw [Fits, hplace] at hfits
    unfold Resources.step at hstep
    rw [hplace] at hstep
    cases e with
    | getEvent transmits receives rc =>
      dsimp only at hstep
      split_ifs at hstep
      rw [← Option.some.inj hstep]
      exact Inv.getEvent hsound hfits.1 hfits.2 hcareful
    | _ => exact nomatch hstep
  | disconnecting cloudOff =>
    have hthere : (Idle st ∨ Held st) ∧ (cloudOff = false → Fresh st) := by
      rw [Fits, hplace] at hfits
      cases cloudOff with
      | false => exact ⟨hfits.1, fun _ => hfits.2⟩
      | true => exact ⟨hfits, fun hoff => nomatch hoff⟩
    cases e with
    | disconnect rc => exact Inv.disconnect hsound hthere.1 hplace hthere.2 hcareful hstep
    | _ =>
      unfold Resources.step at hstep
      rw [hplace] at hstep
      exact nomatch hstep
  | netDisconnecting cloudOff =>
    rw [Fits, hplace] at hfits
    cases e with
    | netDisconnect rc => exact Inv.netDisconnecting hfits.1 hsound hplace hfits.2 hstep
    | _ =>
      unfold Resources.step at hstep
      rw [hplace] at hstep
      exact nomatch hstep

/-- **All blocks are accounted for**, however long the task runs, unless a connection is given up
once it is there. -/
theorem allStates_freedOnce (es : List Event) (h : machine.AllSteps Careful initial es) :
    machine.AllStates Accounted initial es := by
  have hinv : machine.AllStates Inv initial es :=
    Machine.allStates_of_allSteps (fun _ _ _ hst hcareful hstep => hst.step hcareful hstep)
      inv_initial h
  exact hinv.imp fun _ hst => hst.sound.accounted

/-- The task connects, and waits for messages. -/
def connects (failed : List Event) : List Event :=
  [.configured] ++ failed ++
    [.netInit true true 0, .init 0, .netConnect 0 true, .connect 0, .subscribe 0, .publish 0]

/-- The first connection to the server fails, the second succeeds. -/
theorem allStates_freedOnce_connects :
    machine.AllStates Accounted initial
      (connects [.netInit true true 0, .init 0, .netConnect mqttCodeErrorNetwork false] ++
        [.getEvent true true 0]) :=
  allStates_freedOnce _ (by decide +kernel)

/-- **A connection that is lost** frees the context twice. -/
theorem not_allStates_freedOnce : ¬ ∀ es, machine.AllStates Accounted initial es := by
  intro h
  let es := connects [] ++ [.getEvent false true mqttCodeErrorNetwork, .netDisconnect 0]
  -- `Eliot_Disconnect_CB` frees the context, and then `MqttClientNet_DeInit` does
  have hrun : (machine.run initial es).any (fun st => st.heap.freeCount 0 = 2) = true := by
    decide +kernel
  obtain ⟨st, hrun, htwice⟩ := (Option.any_eq_true ..).1 hrun
  have honce := ((h es).of_run hrun).once 0
  rw [of_decide_eq_true htwice] at honce
  exact absurd honce (by decide)

end Resources

end Mqtt

end Lcm
