import Lcm.Rf.Ramp
import Lcm.Run.Basic
import Lcm.Run.Stages
import Lcm.SceneControllers.Store

/-!
# Who owns the messages for the transmit task

A function that has a radio message to send takes a message from a pool, fills it in and puts it on
the queue of the transmit task, which tries to send it three times at most and frees it.

## Main definitions

* `Call` : the functions that allocate a message, with their arguments.
* `State` : the pool, the calls in progress, the queue and the message the transmit task works on.
* `Event` : what the calls and the transmit task do, in any order.
* `Owned` : every message that is not in the pool is in one place, and each has been queued once
  and freed once, or is on its way.
* `Harmless` : the steps that lose no message.

## Main results

* `allStates_owned_iff` : the messages are owned in all states of a run exactly if all its steps
  are harmless.
* `Owned.length_allocated` : as many messages are missing from the pool as are on the queue, while
  nothing else is going on.
* `not_allStates_owned` : the message for a zone that does not exist is lost.
-/

namespace Lcm

namespace Rf

namespace TransmitMessages

open SceneControllers

/-! ### Messages -/

/-- `RAMP` -/
def ramp : Word := 0x0005

/-- `ASSIGN_SCENE` -/
def assignScene : Word := 0x002A

/-- `SCENE_EXECUTED` -/
def sceneExecuted : Word := 0x002C

/-- `SCENE_CTL_SETTING` -/
def sceneCtlSetting : Word := 0x002E

/-- `RFM100_TRANSMIT_TASK_MESSAGE` without its header, which is the same for all. -/
structure TransmitMessage where
  /-- What is to be sent. -/
  command : Word
  /-- The group of the device. -/
  groupId : Word
  /-- The building the device is in. -/
  buildingId : Byte
  /-- The house the device is in. -/
  houseId : Byte
  /-- The scene. -/
  sceneId : Byte
  /-- How far the scene is when the message has been processed. -/
  scenePercent : Byte
  /-- The button of a scene controller. -/
  buttonIndex : Byte
  /-- The average level of the scene. -/
  avgLevel : Byte
  /-- The setting of a scene controller. -/
  value : Byte
  /-- Whether the button has switched the scene on. -/
  toggled : Byte
  /-- Whether it switches the scene off again. -/
  toggleable : Byte
  /-- Whether the scene is on. -/
  state : Byte

/-- A call of one of the functions that allocate a message. -/
inductive Call
  /-- `SendRampCommandToTransmitTask` -/
  | sendRampCommand (zoneIndex sceneId scenePercent : Byte) (priority : ℕ)
  /-- `SendSceneExecutedToTransmitTask` -/
  | sendSceneExecuted (sceneControllerProperties : Option SceneControllerProperties)
      (sceneId avgLevel state : Byte)
  /-- `SendAssignSceneCommandToTransmitTask` -/
  | sendAssignSceneCommand (sceneControllerProperties : Option SceneControllerProperties)
      (buttonIdx : Fin maxScenesInSceneController) (avgLevel : Byte)
  /-- `SendSceneSettingsCommandToTransmitTask` -/
  | sendSceneSettingsCommand (sceneControllerProperties : Option SceneControllerProperties)
      (nightMode clearScene : Byte)

/-- The fields that `SendRampCommandToTransmitTask` sets, if it finds the zone. -/
def fillRamp (getZoneProperties : Byte → Option ZoneProperties)
    (zoneIndex sceneId scenePercent : Byte) (message : TransmitMessage) : Option TransmitMessage :=
  (getZoneProperties zoneIndex).map fun zoneProperties =>
    { message with
      command := ramp
      groupId := zoneProperties.groupId
      buildingId := zoneProperties.buildingId
      houseId := zoneProperties.houseId
      sceneId := sceneId
      scenePercent := scenePercent }

/-- The fields that `SendSceneExecutedToTransmitTask` sets, if it is given properties. -/
def fillSceneExecuted (sceneControllerProperties : Option SceneControllerProperties)
    (sceneId avgLevel state : Byte) (message : TransmitMessage) : Option TransmitMessage :=
  sceneControllerProperties.map fun p =>
    { message with
      command := sceneExecuted
      groupId := p.groupId
      buildingId := p.buildingId
      houseId := p.houseId
      sceneId := sceneId
      avgLevel := avgLevel
      state := state }

/-- The fields that `SendAssignSceneCommandToTransmitTask` sets, if it is given properties. -/
def fillAssignScene (sceneControllerProperties : Option SceneControllerProperties)
    (buttonIdx : Fin maxScenesInSceneController) (avgLevel : Byte) (message : TransmitMessage) :
    Option TransmitMessage :=
  sceneControllerProperties.map fun p =>
    { message with
      command := assignScene
      groupId := p.groupId
      buildingId := p.buildingId
      houseId := p.houseId
      sceneId := (p.bank buttonIdx).sceneId
      buttonIndex := BitVec.ofNat 8 buttonIdx
      toggled := (p.bank buttonIdx).toggled
      toggleable := (p.bank buttonIdx).toggleable
      avgLevel := avgLevel }

/-- The fields that `SendSceneSettingsCommandToTransmitTask` sets, if it is given properties. -/
def fillSceneSettings (sceneControllerProperties : Option SceneControllerProperties)
    (nightMode clearScene : Byte) (message : TransmitMessage) : Option TransmitMessage :=
  sceneControllerProperties.map fun p =>
    { message with
      command := sceneCtlSetting
      groupId := p.groupId
      buildingId := p.buildingId
      houseId := p.houseId
      value := if clearScene ≠ 0 then 0x02 else nightMode }

namespace Call

/-- The message is filled in, if what it is about is found. -/
def fill (getZoneProperties : Byte → Option ZoneProperties) (message : TransmitMessage) :
    Call → Option TransmitMessage
  | sendRampCommand zoneIndex sceneId scenePercent _ =>
    fillRamp getZoneProperties zoneIndex sceneId scenePercent message
  | sendSceneExecuted p sceneId avgLevel state => fillSceneExecuted p sceneId avgLevel state message
  | sendAssignSceneCommand p buttonIdx avgLevel => fillAssignScene p buttonIdx avgLevel message
  | sendSceneSettingsCommand p nightMode clearScene =>
    fillSceneSettings p nightMode clearScene message

/-- The priority the message is sent with: `RFM100_MESSAGE_LOW_PRIORITY`, or that of a ramp. -/
def priority : Call → ℕ
  | sendRampCommand _ _ _ priority => priority
  | _ => 0

/-- What the message is about exists: the zone, or the scene controller that is pointed to. -/
def Found (getZoneProperties : Byte → Option ZoneProperties) : Call → Prop
  | sendRampCommand zoneIndex _ _ _ => getZoneProperties zoneIndex ≠ none
  | sendSceneExecuted p _ _ _ => p ≠ none
  | sendAssignSceneCommand p _ _ => p ≠ none
  | sendSceneSettingsCommand p _ _ => p ≠ none

/-- A message is filled in exactly if that exists. -/
theorem fill_ne_none_iff (getZoneProperties : Byte → Option ZoneProperties)
    (message : TransmitMessage) (c : Call) :
    c.fill getZoneProperties message ≠ none ↔ c.Found getZoneProperties := by
  cases c <;>
    simp [fill, Found, fillRamp, fillSceneExecuted, fillAssignScene, fillSceneSettings]

end Call

/-! ### The transmit task -/

/-- `NUMBER_OF_RFM100_TRANSMIT_MESSAGES_IN_POOL` -/
abbrev numberOfMessagesInPool : ℕ := 200

/-- `NUMBER_OF_RFM100_TRANSMIT_ATTEMPTS` -/
abbrev numberOfTransmitAttempts : ℕ := 3

/-- `RFM100_ACK_BYTE` -/
def ackByte : Byte := 0xC5

/-- The message that the transmit task works on, and the variables of its loop. -/
structure Transmission where
  /-- `RFM100TransmitTaskMessagePtr` -/
  message : ℕ
  /-- `retryCount` -/
  retryCount : ℕ
  /-- `successFlag` -/
  successFlag : Bool

/-- What a round of the loop finds. -/
structure Round where
  /-- The zone with an address, if there is one. -/
  getZone : Word → Byte → Byte → Option ZoneProperties
  /-- The byte received in time. -/
  received : Option Byte

/-- `processFlag` of a ramp: the zone is not as it is to be, and not just off at another level
unless it is a shade. -/
def processFlag (z : ZoneProperties) : Bool :=
  if z.state = z.targetState then
    if z.targetState then z.powerLevel ≠ z.targetPowerLevel
    else z.powerLevel ≠ z.targetPowerLevel ∧ IsShade z
  else true

/-- What `HandleTransmitTaskMessage` returns, `rfMessageSentFlag`. -/
def handleTransmitTaskMessage (getZone : Word → Byte → Byte → Option ZoneProperties)
    (message : TransmitMessage) (forceSendFlag : Bool) : Bool :=
  if message.command = ramp then
    match getZone message.groupId message.buildingId message.houseId with
    | some zoneProperties => processFlag zoneProperties || forceSendFlag
    | none => false
  else
    message.command = assignScene ∨ message.command = sceneExecuted ∨
      message.command = sceneCtlSetting

/-! ### States -/

/-- What is done to a message. -/
inductive Op
  /-- `_msg_alloc` -/
  | alloc
  /-- `_msgq_send_priority`, which puts it on the queue. -/
  | send
  /-- `_msgq_receive` -/
  | receive
  /-- A round of the loop of the transmit task. -/
  | attempt
  /-- `_msg_free` -/
  | free

/-- What happens to a message, one after the other. -/
inductive Stage
  /-- It is in the pool. -/
  | free
  /-- It has been allocated. -/
  | held
  /-- It is on the queue. -/
  | queued
  /-- The transmit task has tried to send it, so many times. -/
  | transmitting (attempts : ℕ)
  deriving DecidableEq

/-- **The life of a message**: it is allocated, queued once, received, transmitted three times at
most, and freed once; or it is freed without being queued. -/
def Stage.next : Stage → Op → Option Stage
  | free, .alloc => some held
  | held, .send => some queued
  | held, .free => some free
  | queued, .receive => some (transmitting 0)
  | transmitting n, .attempt =>
    if n < numberOfTransmitAttempts then some (transmitting (n + 1)) else none
  | transmitting _, .free => some free
  | _, _ => none

/-- The messages and who has them.  A message is a number below the size of the pool. -/
structure State where
  /-- What the messages hold; a message that has just been allocated holds anything. -/
  memory : ℕ → TransmitMessage
  /-- The messages that are not in the pool. -/
  allocated : List ℕ
  /-- The calls in progress, each with the message it has allocated. -/
  calls : List (ℕ × Call)
  /-- The queue, each message with its priority. -/
  queue : List (ℕ × ℕ)
  /-- What the transmit task works on. -/
  transmission : Option Transmission
  /-- `rfm100TransmitTaskMsgAllocErr` -/
  rfm100TransmitTaskMsgAllocErr : ℕ
  /-- All that has been done to messages. -/
  log : List (ℕ × Op)

/-- The pool has been created, and nothing else has happened. -/
def start (memory : ℕ → TransmitMessage) : State where
  memory := memory
  allocated := []
  calls := []
  queue := []
  transmission := none
  rfm100TransmitTaskMsgAllocErr := 0
  log := []

/-- The queue with another message, which comes after those of the same or a higher priority. -/
def insertMessage (priority message : ℕ) (queue : List (ℕ × ℕ)) : List (ℕ × ℕ) :=
  queue.takeWhile (priority ≤ ·.1) ++ (priority, message) :: queue.dropWhile (priority ≤ ·.1)

namespace State

/-- `_msg_free` -/
def msgFree (st : State) (message : ℕ) : State :=
  { st with
    allocated := st.allocated.erase message
    log := st.log ++ [(message, .free)] }

/-- A call ends. -/
def endCall (st : State) (message : ℕ) : State :=
  { st with calls := st.calls.eraseP (·.1 = message) }

/-- A call after its message has been allocated, and the error flag it returns.  `frees` tells
whether `_msgq_send_priority` frees a message that it cannot put on the queue. -/
def finishCall (frees : Bool) (st : State) (message : ℕ) (c : Call)
    (getZoneProperties : Byte → Option ZoneProperties) (sent : Bool) : State × Bool :=
  match c.fill getZoneProperties (st.memory message) with
  | some contents =>
    let st := { st.endCall message with memory := Function.update st.memory message contents }
    if sent then
      ({ st with
          queue := insertMessage c.priority message st.queue
          log := st.log ++ [(message, .send)] }, false)
    else if frees then (st.msgFree message, true)
    else (st, true)
  | none => (st.endCall message, true)

/-- A round of the loop of the transmit task, or what follows the loop. -/
def transmit (st : State) (t : Transmission) (round : Round) : State :=
  if t.retryCount < numberOfTransmitAttempts ∧ t.successFlag = false then
    let message := st.memory t.message
    let forceSendFlag := !decide (t.retryCount = 0 ∧ message.sceneId = 101)
    let rfMessageSentFlag := handleTransmitTaskMessage round.getZone message forceSendFlag
    { st with
      transmission := some
        { t with
          retryCount := t.retryCount + 1
          successFlag := !rfMessageSentFlag || round.received = some ackByte }
      log := st.log ++ [(t.message, .attempt)] }
  else { st.msgFree t.message with transmission := none }

end State

/-- What happens. -/
inductive Event
  /-- A call starts, and gets a message from the pool or none. -/
  | startCall (c : Call) (message : Option ℕ)
  /-- The call with a message ends; what it finds of a zone, and whether its message is sent. -/
  | finishCall (message : ℕ) (getZoneProperties : Byte → Option ZoneProperties) (sent : Bool)
  /-- The transmit task receives a message. -/
  | receive
  /-- The transmit task goes on with the message it has. -/
  | transmit (round : Round)

/-- The call in progress that has a message. -/
def State.call (st : State) (message : ℕ) : Option Call :=
  (st.calls.find? (·.1 = message)).map Prod.snd

/-- One step. -/
def step (frees : Bool) (st : State) : Event → Option State
  | .startCall c (some message) =>
    if message < numberOfMessagesInPool ∧ message ∉ st.allocated then
      some { st with
        allocated := message :: st.allocated
        calls := (message, c) :: st.calls
        log := st.log ++ [(message, .alloc)] }
    else none
  | .startCall _ none =>
    some { st with rfm100TransmitTaskMsgAllocErr := st.rfm100TransmitTaskMsgAllocErr + 1 }
  | .finishCall message getZoneProperties sent =>
    (st.call message).map fun c => (st.finishCall frees message c getZoneProperties sent).1
  | .receive =>
    match st.transmission, st.queue with
    | none, (_, message) :: queue =>
      some { st with
        queue := queue
        transmission := some ⟨message, 0, false⟩
        log := st.log ++ [(message, .receive)] }
    | _, _ => none
  | .transmit round => st.transmission.map fun t => st.transmit t round

/-- The calls and the transmit task. -/
def machine (frees : Bool) : Machine State Event where
  init st := ∃ memory, st = start memory
  step := step frees

/-! ### Ownership -/

/-- Where a message is. -/
def State.At (st : State) (message : ℕ) : Stage → Prop
  | .free => message ∉ st.allocated
  | .held => message ∈ st.calls.map Prod.fst
  | .queued => message ∈ st.queue.map Prod.snd
  | .transmitting attempts => ∃ t ∈ st.transmission, t.message = message ∧ t.retryCount = attempts

/-- The messages that somebody has: a call in progress, the transmit task, or the queue. -/
def State.owned (st : State) : List ℕ :=
  st.calls.map Prod.fst ++ (st.transmission.toList.map Transmission.message ++
    st.queue.map Prod.snd)

/-- **The messages are owned.** -/
structure Owned (frees : Bool) (st : State) : Prop where
  /-- The messages that are not in the pool are those that somebody has. -/
  owned : st.allocated.Perm st.owned
  /-- Nobody has a message that somebody else has. -/
  nodup : st.allocated.Nodup
  /-- All that has been done to a message is part of its life, up to where the message is. -/
  life : ∀ message s, st.At message s → stage Stage.next .free message st.log = some s
  /-- A message that the transmit task has received is freed, whatever its rounds find. -/
  freed : ∀ t ∈ st.transmission, ∀ rounds : List Round,
    rounds.length = numberOfTransmitAttempts + 1 → ∃ n st',
      (machine frees).run st ((rounds.take n).map Event.transmit) = some st' ∧
        st'.log.getLast? = some (t.message, .free)

/-- A step loses no message: a call that ends has found what its message is about, and the message
is put on the queue or else freed. -/
def Harmless (frees : Bool) (st : State) : Event → Prop
  | .finishCall message getZoneProperties sent => ∀ c ∈ st.call message,
      c.Found getZoneProperties ∧ (sent = true ∨ frees = true)
  | _ => True

section Steps

variable {frees : Bool} {st st' : State} {message : ℕ}

/-- **The transmit task frees its message** after the attempts that are left. -/
theorem exists_freed {t : Transmission} (ht : st.transmission = some t) (rounds : List Round)
    (h : numberOfTransmitAttempts - t.retryCount < rounds.length) :
    ∃ n st', (machine frees).run st ((rounds.take n).map Event.transmit) = some st' ∧
      st'.log.getLast? = some (t.message, .free) := by
  induction rounds generalizing st t with
  | nil => cases h
  | cons round rounds ih =>
    have hstep : (machine frees).step st (.transmit round) = some (st.transmit t round) := by
      simp [machine, step, ht]
    by_cases hmore : t.retryCount < numberOfTransmitAttempts ∧ t.successFlag = false
    · -- the attempt is counted
      have hnext : ∃ t', (st.transmit t round).transmission = some t' ∧ t'.message = t.message ∧
          t'.retryCount = t.retryCount + 1 := by
        rw [State.transmit, if_pos hmore]
        exact ⟨_, rfl, rfl, rfl⟩
      obtain ⟨t', ht', hmessage, hcount⟩ := hnext
      have hleft : numberOfTransmitAttempts - t'.retryCount < rounds.length := by
        rw [List.length_cons] at h
        omega
      obtain ⟨n, st', hrun, hlast⟩ := ih ht' hleft
      refine ⟨n + 1, st', ?_, hmessage ▸ hlast⟩
      rw [List.take_succ_cons, List.map_cons, Machine.run, hstep]
      exact hrun
    · refine ⟨1, st.transmit t round, ?_, ?_⟩
      · rw [List.take_succ_cons, List.take_zero, List.map_singleton, Machine.run, hstep]
        rfl
      · rw [State.transmit, if_neg hmore]
        exact List.getLast?_concat

theorem Owned.unique (h : Owned frees st) {s s' : Stage} (hs : st.At message s)
    (hs' : st.At message s') : s = s' :=
  Option.some.inj ((h.life message s hs).symm.trans (h.life message s' hs'))

theorem Owned.nodup_owned (h : Owned frees st) : st.owned.Nodup := h.owned.nodup_iff.1 h.nodup

theorem Owned.mem_allocated (h : Owned frees st) {s : Stage} (hs : st.At message s)
    (hfree : s ≠ .free) : message ∈ st.allocated := by
  by_contra hnot
  exact hfree (h.unique hs (show st.At message .free from hnot))

/-- Something is done to one message: then the others follow, if they stay where they are. -/
theorem life_concat (h : Owned frees st) {op : Op} {s : Stage} (hs : st.At message s)
    (hlog : st'.log = st.log ++ [(message, op)])
    (hself : ∀ s', st'.At message s' → s.next op = some s')
    (hother : ∀ other ≠ message, ∀ s', st'.At other s' → st.At other s') (other : ℕ) (s' : Stage)
    (hs' : st'.At other s') : stage Stage.next .free other st'.log = some s' := by
  rw [hlog]
  by_cases heq : other = message
  · subst heq
    rw [stage_concat_self (h.life _ s hs)]
    exact hself s' hs'
  · rw [stage_concat_of_ne (Ne.symm heq)]
    exact h.life other s' (hother other heq s' hs')

/-! ### What each step does to the owners -/

/-- A call that starts has its message. -/
theorem Owned.startCall (h : Owned frees st) (hfree : message ∉ st.allocated) (c : Call) :
    Owned frees { st with
      allocated := message :: st.allocated
      calls := (message, c) :: st.calls
      log := st.log ++ [(message, .alloc)] } where
  owned := h.owned.cons message
  nodup := List.nodup_cons.2 ⟨hfree, h.nodup⟩
  life := by
    refine life_concat h (s := .free) hfree rfl (fun s' hs' => ?_) fun other hne s' hs' => ?_
    · cases s' with
      | free => exact absurd List.mem_cons_self hs'
      | held => rfl
      | queued => cases h.unique (s := .queued) hs' (show st.At message .free from hfree)
      | transmitting n =>
        cases h.unique (s := .transmitting n) hs' (show st.At message .free from hfree)
    · cases s' with
      | free => exact fun hmem => hs' (List.mem_cons_of_mem _ hmem)
      | held => exact (List.mem_cons.1 hs').resolve_left hne
      | queued => exact hs'
      | transmitting n => exact hs'
  freed t ht rounds hlen := exists_freed ht rounds (by omega)

theorem calls_endCall :
    (st.endCall message).calls.map Prod.fst = (st.calls.map Prod.fst).erase message := by
  rw [List.erase_eq_eraseP', List.eraseP_map]
  rfl

theorem perm_insertMessage (priority message : ℕ) (queue : List (ℕ × ℕ)) :
    (insertMessage priority message queue).Perm ((priority, message) :: queue) := by
  have hqueue := List.takeWhile_append_dropWhile (p := fun x : ℕ × ℕ => priority ≤ x.1) (l := queue)
  have hmiddle : (insertMessage priority message queue).Perm ((priority, message) ::
    (queue.takeWhile (priority ≤ ·.1) ++ queue.dropWhile (priority ≤ ·.1))) := List.perm_middle
  rwa [hqueue] at hmiddle

/-- The call that has a message is one of those in progress. -/
theorem at_held_of_call {c : Call} (hc : st.call message = some c) : st.At message .held := by
  obtain ⟨call, hfind, -⟩ := Option.map_eq_some_iff.1 hc
  have heq : call.1 = message := by simpa using List.find?_some hfind
  exact List.mem_map.2 ⟨call, List.mem_of_find?_eq_some hfind, heq⟩

/-- A call that ends gives its message away. -/
theorem Owned.perm_endCall (h : Owned frees st) (hcall : st.At message .held) :
    st.allocated.Perm (message :: (st.endCall message).owned) := by
  refine h.owned.trans ?_
  rw [State.owned, State.owned, calls_endCall]
  exact (List.perm_cons_erase hcall).append_right _

/-- Where the others are when a call has ended. -/
theorem Owned.at_endCall (h : Owned frees st) {other : ℕ} :
    other ∈ (st.endCall message).calls.map Prod.fst ↔ other ≠ message ∧ st.At other .held := by
  rw [calls_endCall]
  exact List.Nodup.mem_erase_iff (List.nodup_append.1 h.nodup_owned).1

/-- A call puts its message on the queue. -/
theorem Owned.send (h : Owned frees st) (hcall : st.At message .held) (priority : ℕ)
    (memory : ℕ → TransmitMessage) :
    Owned frees { st.endCall message with
      memory := memory
      queue := insertMessage priority message st.queue
      log := st.log ++ [(message, .send)] } where
  owned := by
    refine (h.perm_endCall hcall).trans ?_
    have hqueue := (perm_insertMessage priority message st.queue).map Prod.snd
    refine List.Perm.trans ?_ ((hqueue.symm.append_left _).append_left _)
    simp only [State.owned, List.map_cons]
    exact (List.perm_middle.symm.trans (List.perm_middle.symm.append_left _))
  nodup := h.nodup
  life := by
    refine life_concat h hcall rfl (fun s' hs' => ?_) fun other hne s' hs' => ?_
    · cases s' with
      | free => exact absurd (h.mem_allocated hcall nofun) hs'
      | held => exact absurd rfl (h.at_endCall.1 hs').1
      | queued => rfl
      | transmitting n => cases h.unique (s := .transmitting n) hs' hcall
    · cases s' with
      | free => exact hs'
      | held => exact (h.at_endCall.1 hs').2
      | queued =>
        have hmem := ((perm_insertMessage priority message st.queue).map Prod.snd).mem_iff.1 hs'
        exact (List.mem_cons.1 hmem).resolve_left hne
      | transmitting n => exact hs'
  freed t ht rounds hlen := exists_freed ht rounds (by omega)

/-- A call whose message cannot be queued gives it back. -/
theorem Owned.free (h : Owned frees st) (hcall : st.At message .held)
    (memory : ℕ → TransmitMessage) :
    Owned frees ({ st.endCall message with memory := memory }.msgFree message) where
  owned := by
    have herase := (h.perm_endCall hcall).erase message
    rw [List.erase_cons_head] at herase
    exact herase
  nodup := h.nodup.erase message
  life := by
    refine life_concat h hcall rfl (fun s' hs' => ?_) fun other hne s' hs' => ?_
    · cases s' with
      | free => rfl
      | held => exact absurd rfl (h.at_endCall.1 hs').1
      | queued => cases h.unique (s := .queued) hs' hcall
      | transmitting n => cases h.unique (s := .transmitting n) hs' hcall
    · cases s' with
      | free => exact fun hmem => hs' ((List.mem_erase_of_ne hne).2 hmem)
      | held => exact (h.at_endCall.1 hs').2
      | queued => exact hs'
      | transmitting n => exact hs'
  freed t ht rounds hlen := exists_freed ht rounds (by omega)

/-- The transmit task takes the first message of the queue. -/
theorem Owned.receive (h : Owned frees st) {priority : ℕ} {queue : List (ℕ × ℕ)}
    (ht : st.transmission = none) (hqueue : st.queue = (priority, message) :: queue) :
    Owned frees { st with
      queue := queue
      transmission := some ⟨message, 0, false⟩
      log := st.log ++ [(message, .receive)] } where
  owned := by
    have howned := h.owned
    rwa [State.owned, ht, hqueue] at howned
  nodup := h.nodup
  life := by
    have hqueued : st.At message .queued := by
      rw [State.At, hqueue]
      exact List.mem_cons_self
    refine life_concat h hqueued rfl (fun s' hs' => ?_) fun other hne s' hs' => ?_
    · cases s' with
      | free => exact absurd (h.mem_allocated hqueued nofun) hs'
      | held => cases h.unique (s := .held) hs' hqueued
      | queued =>
        have hnodup := (List.nodup_append.1 (List.nodup_append.1 h.nodup_owned).2.1).2.1
        rw [hqueue, List.map_cons, List.nodup_cons] at hnodup
        exact absurd hs' hnodup.1
      | transmitting n =>
        obtain ⟨t, ⟨⟩, -, rfl⟩ := hs'
        rfl
    · cases s' with
      | free => exact hs'
      | held => exact hs'
      | queued =>
        rw [State.At, hqueue]
        exact List.mem_cons_of_mem _ hs'
      | transmitting n =>
        obtain ⟨t, ⟨⟩, heq, -⟩ := hs'
        exact absurd heq.symm hne
  freed t ht rounds hlen := exists_freed ht rounds (by omega)

/-- The transmit task tries once more. -/
theorem Owned.attempt (h : Owned frees st) {t t' : Transmission} (ht : st.transmission = some t)
    (hmore : t.retryCount < numberOfTransmitAttempts) (hmessage : t'.message = t.message)
    (hcount : t'.retryCount = t.retryCount + 1) :
    Owned frees { st with
      transmission := some t'
      log := st.log ++ [(t.message, .attempt)] } where
  owned := by
    have howned := h.owned
    rw [State.owned, ht] at howned
    rwa [State.owned, Option.toList_some, List.map_singleton, hmessage]
  nodup := h.nodup
  life := by
    have hhand : st.At t.message (.transmitting t.retryCount) := ⟨t, ht, rfl, rfl⟩
    refine life_concat h hhand rfl (fun s' hs' => ?_) fun other hne s' hs' => ?_
    · cases s' with
      | free => exact absurd (h.mem_allocated hhand nofun) hs'
      | held => cases h.unique (s := .held) hs' hhand
      | queued => cases h.unique (s := .queued) hs' hhand
      | transmitting n =>
        obtain ⟨t'', ⟨⟩, -, rfl⟩ := hs'
        rw [hcount]
        exact if_pos hmore
    · cases s' with
      | free => exact hs'
      | held => exact hs'
      | queued => exact hs'
      | transmitting n =>
        obtain ⟨t'', ⟨⟩, heq, -⟩ := hs'
        exact absurd (heq.symm.trans hmessage) hne
  freed t ht rounds hlen := exists_freed ht rounds (by omega)

/-- The transmit task is done with its message. -/
theorem Owned.done (h : Owned frees st) {t : Transmission} (ht : st.transmission = some t) :
    Owned frees { st.msgFree t.message with transmission := none } where
  owned := by
    have howned := h.owned
    rw [State.owned, ht, Option.toList_some, List.map_singleton] at howned
    have herase := (howned.trans List.perm_middle).erase t.message
    rw [List.erase_cons_head] at herase
    exact herase
  nodup := h.nodup.erase t.message
  life := by
    have hhand : st.At t.message (.transmitting t.retryCount) := ⟨t, ht, rfl, rfl⟩
    refine life_concat h hhand rfl (fun s' hs' => ?_) fun other hne s' hs' => ?_
    · cases s' with
      | free => rfl
      | held => cases h.unique (s := .held) hs' hhand
      | queued => cases h.unique (s := .queued) hs' hhand
      | transmitting n => exact nomatch hs'
    · cases s' with
      | free => exact fun hmem => hs' ((List.mem_erase_of_ne hne).2 hmem)
      | held => exact hs'
      | queued => exact hs'
      | transmitting n => exact nomatch hs'
  freed t ht := nomatch ht

/-- The transmit task goes on. -/
theorem Owned.transmit (h : Owned frees st) {t : Transmission} (ht : st.transmission = some t)
    (round : Round) : Owned frees (st.transmit t round) := by
  unfold State.transmit
  split_ifs with hmore
  · exact h.attempt ht hmore.1 rfl rfl
  · exact h.done ht

/-- A call ends, and its message is queued or freed. -/
theorem Owned.finishCall (h : Owned frees st) {c : Call} (hc : st.call message = some c)
    {getZoneProperties : Byte → Option ZoneProperties} {sent : Bool}
    (hfound : c.Found getZoneProperties) (hsent : sent = true ∨ frees = true) :
    Owned frees (st.finishCall frees message c getZoneProperties sent).1 := by
  have hcall := at_held_of_call hc
  have hfill := (c.fill_ne_none_iff getZoneProperties (st.memory message)).2 hfound
  obtain ⟨contents, hcontents⟩ := Option.ne_none_iff_exists'.1 hfill
  unfold State.finishCall
  rw [hcontents]
  dsimp only
  split_ifs with h₁ h₂
  · exact h.send hcall c.priority _
  · exact h.free hcall _
  · exact absurd hsent (by simp [h₁, h₂])

/-- A call that ends otherwise loses its message: one more is missing than somebody has. -/
theorem length_finishCall (h : Owned frees st) {c : Call} (hc : st.call message = some c)
    {getZoneProperties : Byte → Option ZoneProperties} {sent : Bool}
    (hlost : ¬ (c.Found getZoneProperties ∧ (sent = true ∨ frees = true))) :
    (st.finishCall frees message c getZoneProperties sent).1.allocated.length =
      (st.finishCall frees message c getZoneProperties sent).1.owned.length + 1 := by
  have hlength := (h.perm_endCall (at_held_of_call hc)).length_eq
  have hfill := c.fill_ne_none_iff getZoneProperties (st.memory message)
  unfold State.finishCall
  split
  · rename_i contents hcontents
    have hfound := hfill.1 (by simp [hcontents])
    obtain ⟨h₁, h₂⟩ := not_or.1 fun hor => hlost ⟨hfound, hor⟩
    rw [if_neg h₁, if_neg h₂]
    exact hlength
  · exact hlength

end Steps

/-- A harmless step keeps the messages owned. -/
theorem Owned.step {frees : Bool} {st st' : State} {e : Event} (h : Owned frees st)
    (he : Harmless frees st e) (hs : step frees st e = some st') : Owned frees st' := by
  cases e with
  | startCall c message =>
    cases message with
    | none =>
      obtain rfl := Option.some.inj hs
      exact ⟨h.owned, h.nodup, h.life, fun t ht rounds hlen => exists_freed ht rounds (by omega)⟩
    | some message =>
      simp only [TransmitMessages.step] at hs
      split_ifs at hs with hfree
      obtain rfl := Option.some.inj hs
      exact h.startCall hfree.2 c
  | finishCall message getZoneProperties sent =>
    obtain ⟨c, hc, rfl⟩ := Option.map_eq_some_iff.1 hs
    exact h.finishCall hc (he c hc).1 (he c hc).2
  | receive =>
    simp only [TransmitMessages.step] at hs
    split at hs
    · rename_i priority message queue ht hqueue
      obtain rfl := Option.some.inj hs
      exact h.receive ht hqueue
    · cases hs
  | transmit round =>
    obtain ⟨t, ht, rfl⟩ := Option.map_eq_some_iff.1 hs
    exact h.transmit ht round

/-- And no other step does. -/
theorem Owned.harmless {frees : Bool} {st st' : State} {e : Event} (h : Owned frees st)
    (hs : TransmitMessages.step frees st e = some st') (h' : Owned frees st') :
    Harmless frees st e := by
  cases e with
  | finishCall message getZoneProperties sent =>
    intro c hc
    by_contra hlost
    obtain rfl : (st.finishCall frees message c getZoneProperties sent).1 = st' := by
      rw [TransmitMessages.step, hc] at hs
      exact Option.some.inj hs
    have hlength := length_finishCall h hc hlost
    rw [h'.owned.length_eq] at hlength
    omega
  | startCall c message => trivial
  | receive => trivial
  | transmit round => trivial

theorem owned_start (frees : Bool) (memory : ℕ → TransmitMessage) :
    Owned frees (start memory) where
  owned := .nil
  nodup := .nil
  life message s hs := by
    cases s with
    | free => rfl
    | held => exact nomatch hs
    | queued => exact nomatch hs
    | transmitting n => exact nomatch hs
  freed t ht := nomatch ht

/-- **The messages are owned in all states of a run exactly if all its steps are harmless**: if
every call finds what its message is about, and each message is put on the queue, or freed when it
cannot be. -/
theorem allStates_owned_iff (frees : Bool) (memory : ℕ → TransmitMessage) (es : List Event) :
    (machine frees).AllStates (Owned frees) (start memory) es ↔
      (machine frees).AllSteps (Harmless frees) (start memory) es :=
  Machine.allStates_iff_allSteps (fun _ h => h) (fun _ _ _ h he hs => h.step he hs)
    (fun _ _ _ h hs h' => h.harmless hs h') (owned_start frees memory)

/-- While no call is in progress and the transmit task waits, the messages that are not in the pool
are those on the queue. -/
theorem Owned.length_allocated {frees : Bool} {st : State} (h : Owned frees st)
    (hcalls : st.calls = []) (ht : st.transmission = none) :
    st.allocated.length = st.queue.length := by
  rw [h.owned.length_eq, State.owned, hcalls, ht]
  simp

/-- A message that holds zeros. -/
def blankMessage : TransmitMessage := ⟨0, 0, 0, 0, 0, 0, 0, 0, 0, 0, 0, 0⟩

/-- The message for a zone that does not exist is lost: the call returns an error, and has neither
queued nor freed it. -/
theorem not_allStates_owned :
    ¬ (machine true).AllStates (Owned true) (start fun _ => blankMessage)
      [.startCall (.sendRampCommand 5 101 0 1) (some 0), .finishCall 0 (fun _ => none) true] := by
  intro h
  have hrun : (machine true).run (start fun _ => blankMessage)
      [.startCall (.sendRampCommand 5 101 0 1) (some 0), .finishCall 0 (fun _ => none) true] =
    some { start fun _ => blankMessage with
      allocated := [0]
      log := [(0, .alloc)] } := rfl
  exact absurd (h.of_run hrun).owned.length_eq (by decide)

end TransmitMessages

end Rf

end Lcm
