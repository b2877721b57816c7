import Lcm.Firmware.Update
import Lcm.Run.Logged

/-!
# The message in hand, and the line count

The update task keeps the pointer to its last message when the message has been freed, and reads it
once more if the update server tells of a version that is not to be used.  It reports how far a
download is by dividing by the number of lines that the update server has told.

## Main definitions

* `Message` : what `updateTaskMessagePtr` points to.
* `Access` : what the update task does with it, and the divisions.
* `State`, `Event`, `step`, `machine` : the update task with its pointer, and all that it does.
* `Safe` : a step uses no message that is not there, frees none twice, loses none and does not
  divide by zero.
* `Guarded` : a step does not go wrong.

## Main results

* `step_task` : the update task does what it does without the pointer.
* `allSteps_safe` : in a run whose steps are all guarded, all steps are safe, and every message
  that was received has been freed once, but for one in hand.
* `not_allSteps_safe` : a version that is not newer is not guarded.
-/

namespace Lcm

namespace Firmware

namespace Progress

open Flash Lcm.System

/-- What `updateTaskMessagePtr` points to. -/
inductive Message
  /-- Nothing: it is `NULL`. -/
  | null
  /-- A message that has been received. -/
  | inHand
  /-- A message that has been freed. -/
  | freed
  deriving DecidableEq

/-- What the update task does. -/
inductive Access
  /-- It lets `updateTaskMessagePtr` point to something else. -/
  | receive (old : Message)
  /-- It reads the message. -/
  | use (message : Message)
  /-- It frees the message. -/
  | free (message : Message)
  /-- It divides by the line count. -/
  | divide (S19LineCount : Word)
  deriving DecidableEq

/-- Nothing goes wrong: a message is used and freed only while it is in hand, and not lost as long
as it is. -/
def Access.Safe : Access → Prop
  | .receive old => old ≠ .inHand
  | .use message => message = .inHand
  | .free message => message = .inHand
  | .divide S19LineCount => S19LineCount ≠ 0

instance (a : Access) : Decidable a.Safe := by
  cases a <;> unfold Access.Safe <;> infer_instance

/-- The update task, its message and what it reports. -/
structure State where
  /-- The update task. -/
  task : Firmware.State
  /-- What `updateTaskMessagePtr` points to. -/
  updateTaskMessagePtr : Message
  /-- How many messages have been received. -/
  received : ℕ
  /-- How many messages have been freed. -/
  frees : ℕ
  /-- `updateFirmwareInfo.S19LineCount` -/
  S19LineCount : Word
  /-- `firmwareUpdateLineNumber` -/
  firmwareUpdateLineNumber : Word
  /-- `lastPercentageDone` -/
  lastPercentageDone : Dword

/-- What happens. -/
structure Event where
  /-- What happens to the update task. -/
  event : Firmware.Event
  /-- The line count that the update server tells with a version. -/
  S19LineCount : Word
  /-- The objects for a report can be allocated. -/
  allocated : ℕ → Bool

/-- The state after a restart. -/
def State.start (flash : Device) : State where
  task := .start flash
  updateTaskMessagePtr := .null
  received := 0
  frees := 0
  S19LineCount := 0
  firmwareUpdateLineNumber := 0
  lastPercentageDone := 0

/-- The percentage that is reported. -/
def percentageDone (firmwareUpdateLineNumber S19LineCount : Word) : Dword :=
  firmwareUpdateLineNumber.setWidth 32 * 100 / S19LineCount.setWidth 32

/-- `BroadcastSystemInfo`, which reports how far an update is if there is one. -/
def broadcastSystemInfo (firmwareUpdateState : UpdateState) (S19LineCount : Word)
    (allocated : Bool) : Logged Access Unit :=
  if allocated ∧ firmwareUpdateState ≠ .none then Logged.touch (.divide S19LineCount) else pure ()

/-- The update task takes a message, and frees it unless it is to install an update. -/
def State.takeCommand (s : State) (command : UpdateCommand) : Logged Access State := do
  Logged.touch (.receive s.updateTaskMessagePtr)
  Logged.touch (.use .inHand)
  match command with
  | .installFirmware =>
    pure { s with updateTaskMessagePtr := .inHand, received := s.received + 1 }
  | .downloadFirmware _ _ =>
    -- `serverStringObj` and `versionBranchStringObj`
    Logged.touch (.use .inHand)
    Logged.touch (.use .inHand)
    Logged.touch (.free .inHand)
    pure { s with
      updateTaskMessagePtr := .freed
      received := s.received + 1
      frees := s.frees + 1 }
  | .checkForUpdate | .discardUpdate =>
    Logged.touch (.free .inHand)
    pure { s with
      updateTaskMessagePtr := .freed
      received := s.received + 1
      frees := s.frees + 1 }

/-- The update task has called `_msgq_poll` or `_msgq_receive`. -/
def State.receive (s : State) : Logged Access State :=
  match s.task.queue with
  | [] => do
    Logged.touch (.receive s.updateTaskMessagePtr)
    pure { s with updateTaskMessagePtr := .null }
  | command :: _ => s.takeCommand command

/-- The update task has asked for the latest version. -/
def State.answer (currentFirmwareVersion : FirmwareVersion) (s : State) (S19LineCount : Word)
    (allocated : ℕ → Bool) (info : Option (Option FirmwareVersion)) (discarding : Bool) :
    Logged Access State :=
  match info with
  | none => pure s
  | some version =>
    if s.task.useNewFirmwareFlag currentFirmwareVersion version then do
      broadcastSystemInfo .downloading S19LineCount (allocated 0)
      pure { s with S19LineCount := S19LineCount, firmwareUpdateLineNumber := 1 }
    else do
      Logged.touch (.use s.updateTaskMessagePtr)
      if discarding then
        broadcastSystemInfo s.task.firmwareUpdateState s.S19LineCount (allocated 0)
      else if s.task.firmwareUpdateState = .ready then
        broadcastSystemInfo .downloading s.S19LineCount (allocated 0)
      pure s

/-- What `GetAndStorePayload` reports when it has handled a record without an error. -/
def State.handleRecord (s : State) (allocated : Bool) : Logged Access State := do
  let firmwareUpdateLineNumber := s.firmwareUpdateLineNumber + 1
  Logged.touch (.divide s.S19LineCount)
  let percentageDone := percentageDone firmwareUpdateLineNumber s.S19LineCount
  if percentageDone ≠ s.lastPercentageDone then
    broadcastSystemInfo s.task.firmwareUpdateState s.S19LineCount allocated
  pure { s with
    firmwareUpdateLineNumber := firmwareUpdateLineNumber
    lastPercentageDone := percentageDone }

/-- The same for several records. -/
def State.handleRecords (s : State) (allocated : ℕ → Bool) : ℕ → Logged Access State
  | 0 => pure s
  | n + 1 => do
    let s ← s.handleRecords allocated n
    s.handleRecord (allocated n)

/-- What is reported when `GetAndStorePayload` has received something. -/
def State.data (s : State) (allocated : ℕ → Bool) (d d' : Download) : Logged Access State := do
  -- the payload begins
  let s := if ¬ d.foundPayloadFlag ∧ d'.foundPayloadFlag then
    { s with firmwareUpdateLineNumber := 1 } else s
  let records := d'.records.length - d.records.length
  match d'.result with
  | some (.notHandled _) =>
    let s ← s.handleRecords allocated (records - 1)
    broadcastSystemInfo .none s.S19LineCount (allocated records)
    pure s
  | some .downloaded =>
    let s ← s.handleRecords allocated records
    broadcastSystemInfo s.task.firmwareUpdateState s.S19LineCount (allocated records)
    broadcastSystemInfo .ready s.S19LineCount (allocated (records + 1))
    pure s
  | _ => s.handleRecords allocated records

/-- What the update task does with its message and its reports in a step that leaves it as
`task`. -/
def State.report (currentFirmwareVersion : FirmwareVersion) (s : State) (e : Event)
    (task : Firmware.State) : Logged Access State :=
  match e.event with
  | .receive =>
    match task.position with
    | .waiting => pure s
    | _ => s.receive
  | .wake => s.receive
  | .install ok _ => do
    if ok then broadcastSystemInfo .installing s.S19LineCount (e.allocated 0)
    pure s
  | .answer connected info discarding =>
    if s.task.updateSock ∨ connected then
      s.answer currentFirmwareVersion e.S19LineCount e.allocated info discarding
    else pure s
  | .toggle => do
    broadcastSystemInfo .ready s.S19LineCount (e.allocated 0)
    pure s
  | .fetch _ _ => pure (if s.task.updateSock then { s with lastPercentageDone := 0 } else s)
  | .data hw ram codes bytes =>
    match s.task.position with
    | .downloading _ d =>
      s.data e.allocated d (Firmware.receive hw ram codes d bytes s.task.flash).1
    | _ => pure s
  | .restart flash => pure (.start flash)
  | _ => pure s

/-- One step, and all that the update task does in it. -/
def step (currentFirmwareVersion : FirmwareVersion) (s : State) (e : Event) :
    Option (Logged Access State) :=
  (Firmware.step currentFirmwareVersion s.task e.event).map fun task =>
    (fun s' => { s' with task := task }) <$> s.report currentFirmwareVersion e task

/-- The update task and its message, from a restart on. -/
def machine (currentFirmwareVersion : FirmwareVersion) : Machine State Event where
  init s := ∃ flash, s = .start flash
  step s e := (step currentFirmwareVersion s e).map Logged.value

/-- **Nothing that the update task does in a step goes wrong.** -/
def Safe (currentFirmwareVersion : FirmwareVersion) (s : State) (e : Event) : Prop :=
  ∀ x ∈ step currentFirmwareVersion s e, x.All Access.Safe

/-- Every message that has been received has been freed once, but for one in hand. -/
def Accounted (s : State) : Prop :=
  s.received = s.frees + if s.updateTaskMessagePtr = .inHand then 1 else 0

/-- **A step that does not go wrong**: if the update server tells something, it is a version that is
to be used, with a line count that is not zero; and the cloud asks for an installation only when a
line count has been told. -/
def Guarded (currentFirmwareVersion : FirmwareVersion) (s : State) (e : Event) : Prop :=
  match e.event with
  | .answer connected info _ => s.task.updateSock = true ∨ connected = true →
    ∀ version ∈ info, s.task.useNewFirmwareFlag currentFirmwareVersion version = true ∧
      e.S19LineCount ≠ 0
  | .requestInstallCloud _ => s.S19LineCount ≠ 0
  | _ => True

/-- The update task does what it does without the pointer. -/
theorem step_task (currentFirmwareVersion : FirmwareVersion) (s : State) (e : Event) :
    ((machine currentFirmwareVersion).step s e).map State.task =
      Firmware.step currentFirmwareVersion s.task e.event := by
  simp [machine, step, Function.comp_def]

/-! ### The invariant -/

/-- The update task has a message in hand, or none of which it would have to know. -/
def Installs : Position → Prop
  | .installing | .restarting => True
  | _ => False

/-- The update task is where it needs no line count. -/
def Quiet : Position → Prop
  | .receiving | .waiting | .received | .checking => True
  | _ => False

/-- There is no update, and none is to be installed. -/
structure NoUpdate (t : Firmware.State) : Prop where
  /-- `firmwareUpdateState` tells that there is none. -/
  state : t.firmwareUpdateState = .none
  /-- Not even for an alert. -/
  alerting : t.alerting = false
  /-- No installation has been asked for. -/
  queue : .installFirmware ∉ t.queue
  /-- None is being downloaded or installed. -/
  position : Quiet t.position

/-- **The invariant**: only for an installation a message stays in hand, and there is an update only
if a line count has been told. -/
structure Inv (s : State) : Prop where
  /-- The books are right. -/
  accounted : Accounted s
  /-- A message in hand is that of an installation. -/
  message : s.updateTaskMessagePtr = .inHand → Installs s.task.position
  /-- Without a line count there is no update. -/
  noUpdate : s.S19LineCount = 0 → NoUpdate s.task

variable {c : FirmwareVersion} {s s' : State} {t t' : Firmware.State}

/-- A report changes neither the message nor the line count. -/
structure Keeps (s s' : State) : Prop where
  /-- The pointer is the same. -/
  message : s'.updateTaskMessagePtr = s.updateTaskMessagePtr
  /-- Nothing has been received. -/
  received : s'.received = s.received
  /-- Nothing has been freed. -/
  frees : s'.frees = s.frees
  /-- The line count is the same. -/
  S19LineCount : s'.S19LineCount = s.S19LineCount

theorem Keeps.refl (s : State) : Keeps s s := ⟨rfl, rfl, rfl, rfl⟩

theorem Keeps.trans {s'' : State} (h : Keeps s s') (h' : Keeps s' s'') : Keeps s s'' :=
  ⟨h'.message.trans h.message, h'.received.trans h.received, h'.frees.trans h.frees,
    h'.S19LineCount.trans h.S19LineCount⟩

theorem Keeps.accounted (h : Keeps s s') (haccounted : Accounted s) : Accounted s' := by
  rw [Accounted, h.message, h.received, h.frees]
  exact haccounted

theorem safe_broadcastSystemInfo {S19LineCount : Word} (firmwareUpdateState : UpdateState)
    (allocated : Bool) (h : firmwareUpdateState ≠ .none → S19LineCount ≠ 0) :
    (broadcastSystemInfo firmwareUpdateState S19LineCount allocated).All Access.Safe := by
  unfold broadcastSystemInfo
  split_ifs with hreport
  · exact (Logged.all_touch _).2 (h hreport.2)
  · exact Logged.all_pure _

/-! ### The message -/

/-- A message is taken when none is in hand, and freed unless it is to install an update. -/
theorem takeCommand_spec (h : s.updateTaskMessagePtr ≠ .inHand) (haccounted : Accounted s)
    (command : UpdateCommand) :
    (s.takeCommand command).All Access.Safe ∧ Accounted (s.takeCommand command).value ∧
      ((s.takeCommand command).value.updateTaskMessagePtr = .inHand → command = .installFirmware) ∧
      (s.takeCommand command).value.S19LineCount = s.S19LineCount := by
  have hbalance : s.received = s.frees := by
    rw [Accounted, if_neg h] at haccounted
    exact haccounted
  cases command with
  | installFirmware => simp [State.takeCommand, Accounted, Access.Safe, h, hbalance]
  | downloadFirmware | checkForUpdate | discardUpdate =>
    simp [State.takeCommand, Accounted, Access.Safe, h, hbalance]

/-- The update task polls its queue, or has waited. -/
theorem receive_spec (h : s.updateTaskMessagePtr ≠ .inHand) (haccounted : Accounted s) :
    s.receive.All Access.Safe ∧ Accounted s.receive.value ∧
      (s.receive.value.updateTaskMessagePtr = .inHand →
        ∃ queue, s.task.queue = .installFirmware :: queue) ∧
      s.receive.value.S19LineCount = s.S19LineCount := by
  unfold State.receive
  split
  · have hbalance : s.received = s.frees := by
      rw [Accounted, if_neg h] at haccounted
      exact haccounted
    simp [Accounted, Access.Safe, h, hbalance]
  · rename_i command queue hqueue
    obtain ⟨hsafe, haccounted', hmessage, hcount⟩ := takeCommand_spec h haccounted command
    exact ⟨hsafe, haccounted', fun hhand => ⟨queue, hmessage hhand ▸ hqueue⟩, hcount⟩

/-! ### The reports -/

/-- A record is reported safely if the line count is not zero. -/
theorem handleRecord_spec (hcount : s.S19LineCount ≠ 0) (allocated : Bool) :
    (s.handleRecord allocated).All Access.Safe ∧ Keeps s (s.handleRecord allocated).value := by
  have hdivide : (Logged.touch (.divide s.S19LineCount)).All Access.Safe :=
    (Logged.all_touch _).2 hcount
  unfold State.handleRecord
  dsimp only
  split_ifs
  · have hreport := safe_broadcastSystemInfo s.task.firmwareUpdateState allocated fun _ => hcount
    exact ⟨(Logged.all_bind ..).2 ⟨hdivide, (Logged.all_bind ..).2 ⟨hreport, Logged.all_pure _⟩⟩,
      rfl, rfl, rfl, rfl⟩
  · exact ⟨(Logged.all_bind ..).2 ⟨hdivide, Logged.all_pure _⟩, rfl, rfl, rfl, rfl⟩

theorem handleRecords_spec (hcount : s.S19LineCount ≠ 0) (allocated : ℕ → Bool) (n : ℕ) :
    (s.handleRecords allocated n).All Access.Safe ∧
      Keeps s (s.handleRecords allocated n).value := by
  induction n with
  | zero => exact ⟨Logged.all_pure _, .refl s⟩
  | succ n ih =>
    obtain ⟨hsafe, hkeeps⟩ := ih
    obtain ⟨hsafe', hkeeps'⟩ := handleRecord_spec (hkeeps.S19LineCount ▸ hcount) (allocated n)
    exact ⟨(Logged.all_bind ..).2 ⟨hsafe, hsafe'⟩, hkeeps.trans hkeeps'⟩

theorem data_spec (hcount : s.S19LineCount ≠ 0) (allocated : ℕ → Bool) (d d' : Download) :
    (s.data allocated d d').All Access.Safe ∧ Keeps s (s.data allocated d d').value := by
  unfold State.data
  extract_lets s₁ records
  have hkeeps₁ : Keeps s s₁ := by
    dsimp only [s₁]
    split_ifs
    · exact ⟨rfl, rfl, rfl, rfl⟩
    · exact .refl s
  have hcount₁ : s₁.S19LineCount ≠ 0 := hkeeps₁.S19LineCount ▸ hcount
  split
  · obtain ⟨hsafe, hkeeps⟩ := handleRecords_spec hcount₁ allocated (records - 1)
    refine ⟨?_, hkeeps₁.trans hkeeps⟩
    rw [Logged.all_bind, Logged.all_bind]
    exact ⟨hsafe, safe_broadcastSystemInfo _ _ fun h => absurd rfl h, Logged.all_pure _⟩
  · obtain ⟨hsafe, hkeeps⟩ := handleRecords_spec hcount₁ allocated records
    have hcount' := hkeeps.S19LineCount ▸ hcount₁
    refine ⟨?_, hkeeps₁.trans hkeeps⟩
    rw [Logged.all_bind, Logged.all_bind, Logged.all_bind]
    exact ⟨hsafe, safe_broadcastSystemInfo _ _ fun _ => hcount',
      safe_broadcastSystemInfo _ _ fun _ => hcount', Logged.all_pure _⟩
  · obtain ⟨hsafe, hkeeps⟩ := handleRecords_spec hcount₁ allocated records
    exact ⟨hsafe, hkeeps₁.trans hkeeps⟩

/-- An answer is taken safely if it tells a version that is to be used. -/
theorem answer_spec {S19LineCount : Word} {version : Option FirmwareVersion}
    (huse : s.task.useNewFirmwareFlag c version = true) (hcount : S19LineCount ≠ 0)
    (allocated : ℕ → Bool) (discarding : Bool) :
    (s.answer c S19LineCount allocated (some version) discarding).All Access.Safe ∧
      (s.answer c S19LineCount allocated (some version) discarding).value =
        { s with S19LineCount := S19LineCount, firmwareUpdateLineNumber := 1 } := by
  rw [State.answer, if_pos huse, Logged.all_bind]
  exact ⟨⟨safe_broadcastSystemInfo _ _ fun _ => hcount, Logged.all_pure _⟩, rfl⟩

/-! ### The update task -/

theorem NoUpdate.start (flash : Device) : NoUpdate (.start flash) := ⟨rfl, rfl, nofun, trivial⟩

/-- A request for anything but an installation. -/
theorem NoUpdate.sendUpdateCommand (h : NoUpdate t) {command : UpdateCommand} (queued : Bool)
    (hcommand : command ≠ .installFirmware) :
    NoUpdate (t.sendUpdateCommand command queued) := by
  unfold State.sendUpdateCommand
  split_ifs
  · refine ⟨h.state, h.alerting, fun hmem => ?_, h.position⟩
    rcases List.mem_append.1 hmem with hmem | hmem
    · exact h.queue hmem
    · exact hcommand (List.mem_singleton.1 hmem).symm
  · exact h

/-- The update task handles a message. -/
theorem NoUpdate.takeCommand (h : NoUpdate t) {command : UpdateCommand}
    {queue : List UpdateCommand} (hqueue : t.queue = command :: queue) :
    NoUpdate ({ t with queue := queue }.takeCommand command) := by
  have hmem : .installFirmware ∉ queue :=
    fun hmem => h.queue (hqueue ▸ List.mem_cons_of_mem _ hmem)
  cases command with
  | installFirmware => exact absurd (hqueue ▸ List.mem_cons_self) h.queue
  | downloadFirmware | discardUpdate => exact ⟨rfl, h.alerting, hmem, trivial⟩
  | checkForUpdate =>
    unfold Firmware.State.takeCommand
    dsimp only
    split_ifs
    · exact ⟨rfl, h.alerting, hmem, trivial⟩
    · exact ⟨rfl, h.alerting, hmem, trivial⟩
    · exact ⟨rfl, h.alerting, hmem, trivial⟩
    · exact ⟨h.state, h.alerting, hmem, trivial⟩

/-- As long as no version is told and the cloud does not ask for an installation, there is no
update. -/
theorem NoUpdate.step {e : Firmware.Event} (h : NoUpdate t)
    (hcloud : ∀ queued, e ≠ .requestInstallCloud queued)
    (hanswer : ∀ connected info discarding, e = .answer connected info discarding →
      t.updateSock = true ∨ connected = true → info = none)
    (hs : Firmware.step c t e = some t') : NoUpdate t' := by
  have hposition := h.position
  cases e with
  | requestCheck queued | requestDownload host branch queued | requestDiscard queued =>
    cases hs
    exact h.sendUpdateCommand queued (by simp)
  | requestInstall queued =>
    simp only [Firmware.step] at hs
    rw [if_pos (by rw [h.state]; exact (by simp))] at hs
    cases hs
    exact h
  | requestInstallCloud queued => exact absurd rfl (hcloud queued)
  | receive =>
    simp only [Firmware.step] at hs
    split at hs
    · split_ifs at hs
      · split at hs
        · cases hs
          exact ⟨h.state, h.alerting, h.queue, trivial⟩
        · rename_i hqueue
          cases hs
          exact h.takeCommand hqueue
      · cases hs
        exact ⟨h.state, h.alerting, h.queue, trivial⟩
    · cases hs
  | wake =>
    simp only [Firmware.step] at hs
    split at hs
    · rename_i hqueue
      cases hs
      exact h.takeCommand hqueue
    · cases hs
  | dispatch =>
    simp only [Firmware.step] at hs
    split at hs
    · split_ifs at hs with hflag hstate
      · cases hs
        exact ⟨h.state, h.alerting, h.queue, trivial⟩
      · cases hstate.symm.trans h.state
      · cases hs
        exact ⟨h.state, h.alerting, h.queue, trivial⟩
    · cases hs
  | answer connected info discarding =>
    simp only [Firmware.step] at hs
    split at hs
    · split_ifs at hs with hconnected
      · obtain rfl := hanswer connected info discarding rfl hconnected
        simp only [Firmware.State.answer] at hs
        split_ifs at hs
        · cases hs
          exact ⟨h.state, h.alerting, h.queue, trivial⟩
        · cases hs
          exact ⟨h.state, h.alerting, h.queue, trivial⟩
      · cases hs
        exact ⟨h.state, h.alerting, h.queue, trivial⟩
    · cases hs
  | install | toggle | fetch | data =>
    -- the update task is somewhere else
    simp only [Firmware.step] at hs
    split at hs
    · rename_i hpos
      rw [hpos] at hposition
      cases hposition
    · cases hs
  | alert =>
    simp only [Firmware.step] at hs
    split_ifs at hs with hready
    cases hready.1.symm.trans h.state
  | alerted =>
    simp only [Firmware.step] at hs
    split_ifs at hs with halerting
    cases halerting.symm.trans h.alerting
  | write a n flash =>
    simp only [Firmware.step] at hs
    split_ifs at hs
    cases hs
    exact ⟨h.state, h.alerting, h.queue, h.position⟩
  | restart flash =>
    cases hs
    exact .start flash

/-- Where a message is in hand, only the restart goes on from. -/
theorem installs_step {e : Firmware.Event} (h : Installs t.position)
    (hrestart : ∀ flash, e ≠ .restart flash) (hs : Firmware.step c t e = some t') :
    Installs t'.position := by
  cases e with
  | requestCheck queued | requestDownload host branch queued | requestDiscard queued
  | requestInstallCloud queued =>
    cases hs
    cases queued <;> exact h
  | requestInstall queued =>
    simp only [Firmware.step] at hs
    split_ifs at hs
    · cases hs
      exact h
    · cases hs
      cases queued <;> exact h
  | install ok flash =>
    simp only [Firmware.step] at hs
    split at hs
    · cases hs
      trivial
    · cases hs
  | alert | alerted | write =>
    simp only [Firmware.step] at hs
    split_ifs at hs
    cases hs
    exact h
  | restart flash => exact absurd rfl (hrestart flash)
  | receive | dispatch | toggle | fetch | data | answer =>
    -- the update task is somewhere else
    simp only [Firmware.step] at hs
    split at hs
    · rename_i hposition
      rw [hposition] at h
      cases h
    · cases hs
  | wake =>
    simp only [Firmware.step] at hs
    split at hs
    · rename_i hposition _
      rw [hposition] at h
      cases h
    · cases hs

/-! ### Whole runs -/

/-- What is to be shown of a step that leaves the update task as `task`. -/
structure Reported (task : Firmware.State) (x : Logged Access State) : Prop where
  /-- It is safe. -/
  safe : x.All Access.Safe
  /-- The books are right. -/
  accounted : Accounted x.value
  /-- A message in hand is that of an installation. -/
  message : x.value.updateTaskMessagePtr = .inHand → Installs task.position
  /-- Without a line count there is no update. -/
  noUpdate : x.value.S19LineCount = 0 → NoUpdate task

variable {e : Event}

theorem Inv.noUpdate_step (h : Inv s) (hguarded : Guarded c s e)
    (hs : Firmware.step c s.task e.event = some t') (hcount : s.S19LineCount = 0)
    (hanswer : ∀ connected info discarding, e.event = .answer connected info discarding →
      s.task.updateSock = true ∨ connected = true → info = none) : NoUpdate t' := by
  refine (h.noUpdate hcount).step (fun queued he => ?_) hanswer hs
  rw [Guarded, he] at hguarded
  exact hguarded hcount

/-- A step in which the update task does nothing but report. -/
theorem Inv.reported (h : Inv s) (hguarded : Guarded c s e)
    (hs : Firmware.step c s.task e.event = some t') {x : Logged Access State}
    (hsafe : x.All Access.Safe) (hkeeps : Keeps s x.value)
    (hrestart : ∀ flash, e.event ≠ .restart flash)
    (hanswer : ∀ connected info discarding, e.event = .answer connected info discarding →
      s.task.updateSock = true ∨ connected = true → info = none) : Reported t' x where
  safe := hsafe
  accounted := hkeeps.accounted h.accounted
  message hmessage := installs_step (h.message (hkeeps.message ▸ hmessage)) hrestart hs
  noUpdate hcount := h.noUpdate_step hguarded hs (hkeeps.S19LineCount ▸ hcount) hanswer

/-- A step in which the update task lets go of its old message. -/
theorem Inv.reported_receive (h : Inv s) (hguarded : Guarded c s e)
    (hs : Firmware.step c s.task e.event = some t') (hposition : ¬ Installs s.task.position)
    (hinstalls : ∀ queue, s.task.queue = .installFirmware :: queue → Installs t'.position)
    (hanswer : ∀ connected info discarding, e.event ≠ .answer connected info discarding) :
    Reported t' s.receive := by
  obtain ⟨hsafe, haccounted, hmessage, hcount⟩ :=
    receive_spec (fun hhand => hposition (h.message hhand)) h.accounted
  refine ⟨hsafe, haccounted, fun hhand => ?_, fun hzero => ?_⟩
  · obtain ⟨queue, hqueue⟩ := hmessage hhand
    exact hinstalls queue hqueue
  · exact h.noUpdate_step hguarded hs (hcount ▸ hzero)
      fun connected info discarding he => absurd he (hanswer connected info discarding)

/-- Where there is an update, a line count has been told. -/
theorem Inv.count_ne_zero (h : Inv s) (hposition : ¬ Quiet s.task.position) :
    s.S19LineCount ≠ 0 := fun hcount => hposition (h.noUpdate hcount).position

/-- The update task begins its loop, or has waited. -/
theorem Inv.report_receive (h : Inv s) {S19LineCount : Word} {allocated : ℕ → Bool}
    (hs : Firmware.step c s.task .receive = some t') :
    Reported t' (s.report c ⟨.receive, S19LineCount, allocated⟩ t') := by
  have hguarded : Guarded c s ⟨.receive, S19LineCount, allocated⟩ := trivial
  have hs' := hs
  simp only [Firmware.step] at hs'
  split at hs'
  · rename_i hposition
    have hinstalls : ¬ Installs s.task.position := by rw [hposition]; exact id
    simp only [State.report]
    split
    · exact h.reported hguarded hs (Logged.all_pure _) (.refl s) (by simp) (by intros; contradiction)
    · rename_i hwaiting
      refine h.reported_receive hguarded hs hinstalls (fun queue hqueue => ?_) (by simp)
      rw [hqueue] at hs'
      split_ifs at hs'
      · cases hs'
        trivial
      · cases hs'
        exact absurd rfl hwaiting
  · cases hs'

theorem Inv.report_wake (h : Inv s) {S19LineCount : Word} {allocated : ℕ → Bool}
    (hs : Firmware.step c s.task .wake = some t') :
    Reported t' (s.report c ⟨.wake, S19LineCount, allocated⟩ t') := by
  have hguarded : Guarded c s ⟨.wake, S19LineCount, allocated⟩ := trivial
  have hs' := hs
  simp only [Firmware.step] at hs'
  split at hs'
  · rename_i command queue hposition hqueue
    have hinstalls : ¬ Installs s.task.position := by rw [hposition]; exact id
    refine h.reported_receive hguarded hs hinstalls (fun queue' hqueue' => ?_) (by simp)
    obtain ⟨rfl, rfl⟩ := List.cons.inj (hqueue.symm.trans hqueue')
    cases hs'
    trivial
  · cases hs'

/-- **The update task reports nothing wrong in a guarded step.** -/
theorem Inv.report (h : Inv s) (hguarded : Guarded c s e)
    (hs : Firmware.step c s.task e.event = some t') : Reported t' (s.report c e t') := by
  obtain ⟨event, S19LineCount, allocated⟩ := e
  dsimp only at hs
  cases event with
  | receive => exact h.report_receive hs
  | wake => exact h.report_wake hs
  | requestCheck | requestDownload | requestDiscard | requestInstall | requestInstallCloud
  | dispatch | alert | alerted | write =>
    exact h.reported hguarded hs (Logged.all_pure _) (.refl s) (by simp) (by intros; contradiction)
  | fetch connected stack =>
    refine h.reported hguarded hs (Logged.all_pure _) ?_ (by simp) (by intros; contradiction)
    simp only [State.report, Logged.value_pure]
    split_ifs
    · exact ⟨rfl, rfl, rfl, rfl⟩
    · exact .refl s
  | install ok flash =>
    have hcount : s.S19LineCount ≠ 0 := h.count_ne_zero fun hquiet => by
      simp only [Firmware.step] at hs
      split at hs
      · rename_i hposition
        rw [hposition] at hquiet
        exact hquiet
      · cases hs
    refine h.reported hguarded hs ?_ ?_ (by simp) (by intros; contradiction)
    · cases ok with
      | true =>
        exact (Logged.all_bind ..).2
          ⟨safe_broadcastSystemInfo _ _ fun _ => hcount, Logged.all_pure _⟩
      | false => exact Logged.all_pure _
    · cases ok <;> exact .refl s
  | toggle =>
    have hcount : s.S19LineCount ≠ 0 := h.count_ne_zero fun hquiet => by
      simp only [Firmware.step] at hs
      split at hs
      · rename_i hposition
        rw [hposition] at hquiet
        exact hquiet
      · cases hs
    refine h.reported hguarded hs ?_ (.refl s) (by simp) (by intros; contradiction)
    exact (Logged.all_bind ..).2 ⟨safe_broadcastSystemInfo _ _ fun _ => hcount, Logged.all_pure _⟩
  | data hw ram codes bytes =>
    have hs' := hs
    simp only [Firmware.step] at hs'
    split at hs'
    · rename_i before d hposition
      have hcount : s.S19LineCount ≠ 0 := h.count_ne_zero fun hquiet => by
        rw [hposition] at hquiet
        exact hquiet
      obtain ⟨hsafe, hkeeps⟩ := data_spec hcount allocated d
        (Firmware.receive hw ram codes d bytes s.task.flash).1
      have hreport : s.report c ⟨.data hw ram codes bytes, S19LineCount, allocated⟩ t' =
          s.data allocated d (Firmware.receive hw ram codes d bytes s.task.flash).1 := by
        simp only [State.report, hposition]
      rw [hreport]
      exact h.reported hguarded hs hsafe hkeeps (by simp) (by intros; contradiction)
    · cases hs'
  | restart flash =>
    cases hs
    exact ⟨Logged.all_pure _, rfl, (by intros; contradiction), fun _ => .start flash⟩
  | answer connected info discarding =>
    simp only [State.report]
    split_ifs with hconnected
    · cases info with
      | none =>
        refine h.reported hguarded hs (Logged.all_pure _) (.refl s) (by simp) ?_
        rintro _ _ _ ⟨⟩ -
        rfl
      | some version =>
        obtain ⟨huse, hcount⟩ := hguarded hconnected version rfl
        obtain ⟨hsafe, hvalue⟩ := answer_spec huse hcount allocated discarding
        refine ⟨hsafe, ?_, ?_, ?_⟩
        · rw [hvalue]
          exact h.accounted
        · rw [hvalue]
          exact fun hhand => installs_step (e := .answer connected (some version) discarding)
            (h.message hhand) (by simp) hs
        · rw [hvalue]
          exact fun hzero => absurd hzero hcount
    · refine h.reported hguarded hs (Logged.all_pure _) (.refl s) (by simp) ?_
      rintro connected' info' discarding' ⟨⟩ hconnected'
      exact absurd hconnected' hconnected

theorem Inv.start (flash : Device) : Inv (.start flash) := ⟨rfl, nofun, fun _ => .start flash⟩

/-- **A guarded step** is safe and keeps the invariant. -/
theorem Inv.step (h : Inv s) (hguarded : Guarded c s e) {x : Logged Access State}
    (hx : Progress.step c s e = some x) : x.All Access.Safe ∧ Inv x.value := by
  obtain ⟨task, hs, rfl⟩ := Option.map_eq_some_iff.1 hx
  have hreported := h.report hguarded hs
  exact ⟨(Logged.all_map ..).2 hreported.safe, hreported.accounted, hreported.message,
    hreported.noUpdate⟩

/-- **The update task is safe** in every run whose steps are all guarded: it uses a message only
while it is in hand, frees every message that it has received once, and divides by no line count
that is zero. -/
theorem allSteps_safe (currentFirmwareVersion : FirmwareVersion) (s : State) (es : List Event)
    (hs : (machine currentFirmwareVersion).init s)
    (h : (machine currentFirmwareVersion).AllSteps (Guarded currentFirmwareVersion) s es) :
    (machine currentFirmwareVersion).AllSteps (Safe currentFirmwareVersion) s es ∧
      (machine currentFirmwareVersion).AllStates Accounted s es := by
  obtain ⟨flash, rfl⟩ := hs
  have hstep : ∀ s e s', Inv s → Guarded currentFirmwareVersion s e →
      (machine currentFirmwareVersion).step s e = some s' → Inv s' := by
    intro s e s' hinv hguarded hs
    obtain ⟨x, hx, rfl⟩ := Option.map_eq_some_iff.1 hs
    exact (hinv.step hguarded hx).2
  refine ⟨Machine.allSteps_of_allSteps hstep (fun s e _ hinv hguarded _ x hx => ?_) (.start flash)
    h, (Machine.allStates_of_allSteps hstep (.start flash) h).imp fun _ hinv => hinv.accounted⟩
  exact (hinv.step hguarded hx).1

/-- A check finds a newer version with a hundred lines, which is then discarded. -/
theorem allSteps_safe_discard :
    (machine fun _ => 0).AllSteps (Safe fun _ => 0) (.start blankDevice)
        ([.requestCheck true, .receive, .wake, .dispatch,
            .answer true (some (some fun _ => 1)) false, .requestDiscard true, .receive].map
          fun event => ⟨event, 100, fun _ => true⟩) ∧
      (machine fun _ => 0).AllStates Accounted (.start blankDevice)
        ([.requestCheck true, .receive, .wake, .dispatch,
            .answer true (some (some fun _ => 1)) false, .requestDiscard true, .receive].map
          fun event => ⟨event, 100, fun _ => true⟩) := by
  refine allSteps_safe (fun _ => 0) _ _ ⟨blankDevice, rfl⟩ ?_
  refine .cons rfl trivial (.cons rfl trivial (.cons rfl trivial (.cons rfl trivial ?_)))
  refine .cons rfl ?_ (.cons rfl trivial (.cons rfl trivial trivial))
  rintro - version ⟨⟩
  exact ⟨rfl, by decide⟩

/-- A check finds that the version that runs is the latest. -/
theorem not_allSteps_safe :
    ¬ ∀ currentFirmwareVersion s es, (machine currentFirmwareVersion).init s →
      (machine currentFirmwareVersion).AllSteps (Safe currentFirmwareVersion) s es := by
  intro h
  have hrun := h (fun _ => 0) (.start blankDevice)
    ([.requestCheck true, .receive, .wake, .dispatch,
        .answer true (some (some fun _ => 0)) false].map fun event => ⟨event, 100, fun _ => true⟩)
    ⟨blankDevice, rfl⟩
  obtain ⟨-, hrun⟩ := hrun _ rfl
  obtain ⟨-, hrun⟩ := hrun _ rfl
  obtain ⟨-, hrun⟩ := hrun _ rfl
  obtain ⟨-, hrun⟩ := hrun _ rfl
  obtain ⟨hanswer, -⟩ := hrun _ rfl
  -- the message has been freed
  have huse := hanswer _ rfl (.use .freed) (by decide)
  cases huse

end Progress

end Firmware

end Lcm
