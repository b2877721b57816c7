import Lcm.Firmware.Image
import Lcm.Run.Basic

/-!
# The update task

The update task takes commands from a queue: to check for an update, to download one, to install
it, or to discard it.  The commands are queued by other tasks, which test whether an update is
ready when they do so, or do not.

## Main definitions

* `State`, `Event`, `machine` : the update task, and everything it interacts with.
* `InstallsComplete` : a step does not install an incomplete image.
* `Guarded` : a step does not go wrong.

## Main results

* `allSteps_installsComplete` : in a run whose steps are all guarded, only complete images are
  installed.
* `not_allSteps_installsComplete` : an install command from the cloud is not guarded.
-/

namespace Lcm

namespace Firmware

open Flash Lcm.System

/-- `firmwareUpdateState` -/
inductive UpdateState
  /-- `UPDATE_STATE_NONE` -/
  | none
  /-- `UPDATE_STATE_DOWNLOADING` -/
  | downloading
  /-- `UPDATE_STATE_READY` -/
  | ready
  /-- `UPDATE_STATE_INSTALLING` -/
  | installing
  deriving DecidableEq

/-- A message for the update task. -/
inductive UpdateCommand
  /-- `UPDATE_COMMAND_CHECK_FOR_UPDATE` -/
  | checkForUpdate
  /-- `UPDATE_COMMAND_DOWNLOAD_FIRMWARE` -/
  | downloadFirmware (serverStringObj versionBranchStringObj : String)
  /-- `UPDATE_COMMAND_INSTALL_FIRMWARE` -/
  | installFirmware
  /-- `UPDATE_COMMAND_DISCARD_UPDATE` -/
  | discardUpdate
  deriving DecidableEq

/-- The four numbers of a version. -/
abbrev FirmwareVersion := Fin 4 → Word

/-- Where the update task is in its loop. -/
inductive Position
  /-- It begins the loop. -/
  | receiving
  /-- It waits for a message. -/
  | waiting
  /-- It is to call `InstallFirmwareToFlash`. -/
  | installing
  /-- It waits for the restart. -/
  | restarting
  /-- It has handled a message, or there was none. -/
  | received
  /-- It asks the update server for the latest version. -/
  | checking
  /-- It makes the app aware of an update that is ready. -/
  | toggling
  /-- It asks the update server for an image. -/
  | fetching
  /-- It is in `GetAndStorePayload`, and `before` was in the flash when it entered. -/
  | downloading (before : Memory) (d : Download)

/-- The update task, and what it interacts with. -/
structure State where
  /-- `firmwareUpdateState` -/
  firmwareUpdateState : UpdateState
  /-- The messages in the queue. -/
  queue : List UpdateCommand
  /-- `checkForUpdateFlag` -/
  checkForUpdateFlag : Bool
  /-- `updateHostObj` -/
  updateHostObj : Option String
  /-- `updateVersionBranchObj` -/
  updateVersionBranchObj : Option String
  /-- There is a connection to the update server. -/
  updateSock : Bool
  /-- `timeoutCount` -/
  timeoutCount : ℕ
  /-- `updateFirmwareInfo.firmwareVersion` -/
  firmwareVersion : FirmwareVersion
  /-- Where the update task is. -/
  position : Position
  /-- Another task is between the two assignments by which it makes an app aware of an update that
  is ready. -/
  alerting : Bool
  /-- The flash. -/
  flash : Device
  /-- What the last download that was finished has left. -/
  image : Option Image

/-- What happens. -/
inductive Event
  /-- The timer for update checks expires; `queued` tells whether there is a message for it. -/
  | requestCheck (queued : Bool)
  /-- `HandleFirmwareUpdate` -/
  | requestDownload (hostObj branchObj : String) (queued : Bool)
  /-- `HandleDiscardUpdate`, or the event `discardUpdate` from the cloud -/
  | requestDiscard (queued : Bool)
  /-- `HandleInstallUpdate` -/
  | requestInstall (queued : Bool)
  /-- The event `updateFirmware` from the cloud -/
  | requestInstallCloud (queued : Bool)
  /-- The update task begins its loop. -/
  | receive
  /-- The update task has waited, and takes a message. -/
  | wake
  /-- The update task calls `InstallFirmwareToFlash`, which leaves the flash as given. -/
  | install (ok : Bool) (flash : Device)
  /-- The update task tests what is to be done. -/
  | dispatch
  /-- The update server tells a version, or something else, or nothing; `discarding` is what the
  test for a discard command reads in the message that has been freed. -/
  | answer (connected : Bool) (info : Option (Option FirmwareVersion)) (discarding : Bool)
  /-- The update task makes the second of two assignments. -/
  | toggle
  /-- The update task connects to the update server, or asks it for an image. -/
  | fetch (connected : Bool) (stack : ℕ → Byte)
  /-- `GetAndStorePayload` receives the given bytes, or nothing. -/
  | data (hw : Hardware) (ram : Ram) (codes : Sha256Codes) (bytes : List Byte)
  /-- Another task begins to make an app aware of an update that is ready. -/
  | alert
  /-- It ends it. -/
  | alerted
  /-- Another task changes the flash outside of the inactive firmware area. -/
  | write (a n : ℕ) (flash : Device)
  /-- The controller restarts, perhaps with the other block active. -/
  | restart (flash : Device)

/-- The state after a restart. -/
def State.start (flash : Device) : State where
  firmwareUpdateState := .none
  queue := []
  checkForUpdateFlag := false
  updateHostObj := none
  updateVersionBranchObj := none
  updateSock := false
  timeoutCount := 0
  firmwareVersion _ := 0
  position := .receiving
  alerting := false
  flash := flash
  image := none

/-- `SendUpdateCommand`; there may be no message to be had. -/
def State.sendUpdateCommand (s : State) (command : UpdateCommand) (queued : Bool) : State :=
  if queued then { s with queue := s.queue ++ [command] } else s

/-- What the update task does with a message. -/
def State.takeCommand (s : State) : UpdateCommand → State
  | .checkForUpdate =>
    let s := if s.updateHostObj.isSome then
      { s with firmwareUpdateState := .none, updateHostObj := none } else s
    let s := if s.updateVersionBranchObj.isSome then
      { s with firmwareUpdateState := .none, updateVersionBranchObj := none } else s
    { s with updateSock := false, checkForUpdateFlag := true, position := .received }
  | .downloadFirmware serverStringObj versionBranchStringObj =>
    { s with
      firmwareUpdateState := .none
      updateSock := false
      updateHostObj := some serverStringObj
      updateVersionBranchObj := some versionBranchStringObj
      checkForUpdateFlag := true
      position := .received }
  | .installFirmware => { s with position := .installing }
  | .discardUpdate =>
    { s with
      firmwareUpdateState := .none
      updateSock := false
      checkForUpdateFlag := true
      position := .received }

/-- `CheckForNewerFirmware` -/
def checkForNewerFirmware (currentFirmwareVersion newFirmwareInfo : FirmwareVersion) : Bool :=
  if newFirmwareInfo 0 > currentFirmwareVersion 0 then true
  else if newFirmwareInfo 0 = currentFirmwareVersion 0 then
    if newFirmwareInfo 1 > currentFirmwareVersion 1 then true
    else if newFirmwareInfo 1 = currentFirmwareVersion 1 then
      if newFirmwareInfo 2 > currentFirmwareVersion 2 then true
      else if newFirmwareInfo 2 = currentFirmwareVersion 2 then
        decide (newFirmwareInfo 3 > currentFirmwareVersion 3)
      else false
    else false
  else false

/-- `useNewFirmwareFlag`, for what the update server has told. -/
def State.useNewFirmwareFlag (currentFirmwareVersion : FirmwareVersion) (s : State) :
    Option FirmwareVersion → Bool
  | none => false
  | some firmwareVersion =>
    if s.updateHostObj.isSome then true
    else if s.firmwareUpdateState ≠ .none then
      checkForNewerFirmware s.firmwareVersion firmwareVersion
    else checkForNewerFirmware currentFirmwareVersion firmwareVersion

/-- What the update task does when it has asked for the latest version. -/
def State.answer (currentFirmwareVersion : FirmwareVersion) (s : State)
    (info : Option (Option FirmwareVersion)) (discarding : Bool) : State :=
  match info with
  | none =>
    -- no more than `MAX_NUMBER_OF_TIMEOUTS_FOR_UPDATE_RESPONSE`
    if s.timeoutCount + 1 > 5 then
      { s with
        timeoutCount := 0
        updateSock := false
        checkForUpdateFlag := false
        position := .receiving }
    else { s with timeoutCount := s.timeoutCount + 1, position := .receiving }
  | some version =>
    if s.useNewFirmwareFlag currentFirmwareVersion version then
      { s with
        firmwareVersion := version.getD s.firmwareVersion
        firmwareUpdateState := .downloading
        checkForUpdateFlag := false
        position := .receiving }
    else if ¬ discarding ∧ s.firmwareUpdateState = .ready then
      { s with firmwareUpdateState := .downloading, position := .toggling }
    else { s with checkForUpdateFlag := false, position := .receiving }

/-- What the update task does when `GetAndStorePayload` has received something. -/
def State.data (s : State) (before : Memory) (d : Download) (flash : Device) : State :=
  match d.result with
  | none => { s with position := .downloading before d, flash := flash }
  | some .downloaded =>
    { s with
      firmwareUpdateState := .ready
      updateSock := false
      position := .receiving
      flash := flash
      image := some (d.image before) }
  | some (.notHandled _) =>
    { s with firmwareUpdateState := .none, position := .receiving, flash := flash }
  | some _ => { s with position := .receiving, flash := flash }

/-- One step; `currentFirmwareVersion` is the version that runs. -/
def step (currentFirmwareVersion : FirmwareVersion) (s : State) : Event → Option State
  | .requestCheck queued => some (s.sendUpdateCommand .checkForUpdate queued)
  | .requestDownload hostObj branchObj queued =>
    some (s.sendUpdateCommand (.downloadFirmware hostObj branchObj) queued)
  | .requestDiscard queued => some (s.sendUpdateCommand .discardUpdate queued)
  | .requestInstall queued =>
    if s.firmwareUpdateState ≠ .ready then some s
    else some (s.sendUpdateCommand .installFirmware queued)
  | .requestInstallCloud queued => some (s.sendUpdateCommand .installFirmware queued)
  | .receive =>
    match s.position with
    | .receiving =>
      if s.checkForUpdateFlag ∨ s.firmwareUpdateState = .downloading then
        match s.queue with
        | [] => some { s with position := .received }
        | command :: queue => some ({ s with queue := queue }.takeCommand command)
      else some { s with position := .waiting }
    | _ => none
  | .wake =>
    match s.position, s.queue with
    | .waiting, command :: queue => some ({ s with queue := queue }.takeCommand command)
    | _, _ => none
  | .install ok flash =>
    match s.position with
    | .installing =>
      some { s with
        firmwareUpdateState := if ok then .installing else s.firmwareUpdateState
        position := .restarting
        flash := flash }
    | _ => none
  | .dispatch =>
    match s.position with
    | .received =>
      if s.checkForUpdateFlag then some { s with position := .checking }
      else if s.firmwareUpdateState = .downloading then some { s with position := .fetching }
      else some { s with position := .receiving }
    | _ => none
  | .answer connected info discarding =>
    match s.position with
    | .checking =>
      if s.updateSock ∨ connected then
        some ({ s with updateSock := true }.answer currentFirmwareVersion info discarding)
      else some { s with position := .receiving }
    | _ => none
  | .toggle =>
    match s.position with
    | .toggling =>
      some { s with
        firmwareUpdateState := .ready
        checkForUpdateFlag := false
        position := .receiving }
    | _ => none
  | .fetch connected stack =>
    match s.position with
    | .fetching =>
      if s.updateSock then
        some { s with position := .downloading s.flash.memory (.start stack) }
      else some { s with updateSock := connected, position := .receiving }
    | _ => none
  | .data hw ram codes bytes =>
    match s.position with
    | .downloading before d =>
      let (d, flash) := Firmware.receive hw ram codes d bytes s.flash
      some (s.data before d flash)
    | _ => none
  | .alert =>
    if s.firmwareUpdateState = .ready ∧ ¬ s.alerting then
      some { s with firmwareUpdateState := .downloading, alerting := true }
    else none
  | .alerted =>
    if s.alerting then some { s with firmwareUpdateState := .ready, alerting := false } else none
  | .write a n flash =>
    if a + n ≤ PFLASH_BLOCK1_BASE ∨ LCM_DATA_STARTING_BLOCK ≤ a then
      some { s with flash := ⟨overwrite s.flash.memory a n flash.memory, flash.commands⟩ }
    else none
  | .restart flash => some (.start flash)

/-- The update task, from a restart on. -/
def machine (currentFirmwareVersion : FirmwareVersion) : Machine State Event where
  init s := ∃ flash, s = .start flash
  step := step currentFirmwareVersion

/-- The inactive firmware area holds the complete image of the last download that was finished. -/
def State.Installable (s : State) : Prop := ∃ image ∈ s.image, image.Complete s.flash.memory

/-- **`InstallFirmwareToFlash` runs only if the inactive firmware area holds a complete image.** -/
def InstallsComplete (s : State) : Event → Prop
  | .install _ _ => s.Installable
  | _ => True

/-- **A step that does not go wrong**: the cloud asks for an installation only when an update is
ready, the SHA-256 functions have no errors, and the update task does not interrupt another task
between the two assignments of an alert. -/
def Guarded (s : State) : Event → Prop
  | .requestInstallCloud _ => s.firmwareUpdateState = .ready
  | .data _ _ codes _ => codes = .ok ∧ s.alerting = false
  | .receive | .wake | .install _ _ | .dispatch | .answer _ _ _ | .toggle | .fetch _ _ =>
    s.alerting = false
  | _ => True

/-! ### The invariant -/

/-- Nothing but the update task can leave this state: there is no install command in the queue,
and none can be put there. -/
structure State.Downloading (s : State) : Prop where
  /-- The state tells that it is not ready. -/
  state : s.firmwareUpdateState = .downloading
  /-- And not for an alert. -/
  alerting : s.alerting = false
  /-- Nothing is to be installed. -/
  queue : .installFirmware ∉ s.queue

/-- What holds at each position of the update task. -/
def State.Consistent (s : State) : Position → Prop
  | .receiving | .waiting | .checking | .restarting => True
  | .installing | .toggling => s.Installable
  | .received => s.checkForUpdateFlag = true ∨ s.Downloading
  | .fetching => s.Downloading
  | .downloading before d => s.Downloading ∧ d.Faithful before s.flash ∧ d.result = none

/-- **The invariant**: as long as an update is reported to be ready, or is to be installed, it is
complete. -/
structure Inv (s : State) : Prop where
  /-- What is ready is complete. -/
  ready : s.firmwareUpdateState = .ready ∨ s.alerting = true → s.position ≠ .restarting →
    s.Installable
  /-- What is to be installed is complete. -/
  queued : .installFirmware ∈ s.queue → s.position ≠ .restarting → s.Installable
  /-- The position. -/
  position : s.Consistent s.position

variable {s s' : State} {currentFirmwareVersion : FirmwareVersion}

theorem State.Downloading.at (h : s.Downloading) (position : Position) :
    State.Downloading { s with position := position } := ⟨h.state, h.alerting, h.queue⟩

theorem Inv.start (flash : Device) : Inv (.start flash) where
  ready h := by rcases h with h | h <;> cases h
  queued h := nomatch h
  position := trivial

/-- A step that changes neither the flash nor the image, and makes nothing ready. -/
theorem Inv.of_same (h : Inv s) (hposition : s.position ≠ .restarting)
    (hflash : s'.flash = s.flash) (himage : s'.image = s.image)
    (hready : s'.firmwareUpdateState = .ready ∨ s'.alerting = true →
      s.firmwareUpdateState = .ready ∨ s.alerting = true)
    (hqueue : UpdateCommand.installFirmware ∈ s'.queue → .installFirmware ∈ s.queue)
    (hconsistent : s'.Consistent s'.position) : Inv s' := by
  have hsame : s.Installable → s'.Installable := by
    unfold State.Installable
    rw [hflash, himage]
    exact id
  exact ⟨fun h' _ => hsame (h.ready (hready h') hposition),
    fun h' _ => hsame (h.queued (hqueue h') hposition), hconsistent⟩

theorem State.Consistent.imp {position : Position} (h : s.Consistent position)
    (hinstallable : s.Installable → s'.Installable)
    (hflag : s.checkForUpdateFlag = true → s'.checkForUpdateFlag = true)
    (hdownloading : s.Downloading → s'.Downloading)
    (hflash : AgreeInArea s.flash.memory s'.flash.memory) : s'.Consistent position := by
  cases position with
  | receiving | waiting | checking | restarting => trivial
  | installing | toggling => exact hinstallable h
  | received => exact Or.imp hflag hdownloading h
  | fetching => exact hdownloading h
  | downloading => exact ⟨hdownloading h.1, h.2.1.agree hflash, h.2.2⟩

/-- A request; to install, if an update is ready. -/
theorem Inv.sendUpdateCommand (h : Inv s) (command : UpdateCommand) (queued : Bool)
    (hready : command = .installFirmware → s.firmwareUpdateState = .ready) :
    Inv (s.sendUpdateCommand command queued) := by
  unfold State.sendUpdateCommand
  split_ifs with hqueued
  · refine ⟨h.ready, fun hmem hposition => ?_, h.position.imp id id ?_ (.refl _)⟩
    · rcases List.mem_append.1 hmem with hmem | hmem
      · exact h.queued hmem hposition
      · exact h.ready (.inl (hready (List.mem_singleton.1 hmem).symm)) hposition
    · -- an update that is ready is not being downloaded
      rintro ⟨hstate, halerting, hqueue⟩
      refine ⟨hstate, halerting, fun hmem => ?_⟩
      rcases List.mem_append.1 hmem with hmem | hmem
      · exact hqueue hmem
      · cases hstate.symm.trans (hready (List.mem_singleton.1 hmem).symm)
  · exact h

/-- What is not ready can only be ready for an alert. -/
theorem ready_of_ne {state : UpdateState} {alerting : Bool} (hne : state ≠ .ready)
    (h : state = .ready ∨ alerting = true) :
    s.firmwareUpdateState = .ready ∨ alerting = true := .inr (h.resolve_left hne)

/-- The update task handles a message. -/
theorem Inv.takeCommand (h : Inv s) (hposition : s.position ≠ .restarting)
    {command : UpdateCommand} {queue : List UpdateCommand} (hqueue : s.queue = command :: queue) :
    Inv ({ s with queue := queue }.takeCommand command) := by
  have hmem : ∀ c ∈ queue, c ∈ s.queue := fun c hc => hqueue ▸ List.mem_cons_of_mem _ hc
  cases command with
  | checkForUpdate =>
    unfold State.takeCommand
    dsimp only
    split_ifs
    · exact h.of_same hposition rfl rfl (ready_of_ne nofun) (hmem _) (.inl rfl)
    · exact h.of_same hposition rfl rfl (ready_of_ne nofun) (hmem _) (.inl rfl)
    · exact h.of_same hposition rfl rfl (ready_of_ne nofun) (hmem _) (.inl rfl)
    · exact h.of_same hposition rfl rfl id (hmem _) (.inl rfl)
  | downloadFirmware host branch =>
    exact h.of_same hposition rfl rfl (ready_of_ne nofun) (hmem _) (.inl rfl)
  | installFirmware =>
    refine h.of_same hposition rfl rfl id (hmem _) ?_
    exact h.queued (hqueue ▸ List.mem_cons_self) hposition
  | discardUpdate =>
    exact h.of_same hposition rfl rfl (ready_of_ne nofun) (hmem _) (.inl rfl)

/-- The update task has asked for the latest version. -/
theorem Inv.answer (h : Inv s) (hposition : s.position ≠ .restarting)
    (info : Option (Option FirmwareVersion)) (discarding : Bool) :
    Inv (s.answer currentFirmwareVersion info discarding) := by
  unfold State.answer
  cases info with
  | none =>
    dsimp only
    split_ifs
    · exact h.of_same hposition rfl rfl id id trivial
    · exact h.of_same hposition rfl rfl id id trivial
  | some version =>
    dsimp only
    split_ifs with hnew hready
    · exact h.of_same hposition rfl rfl (ready_of_ne nofun) id trivial
    · exact h.of_same hposition rfl rfl (ready_of_ne nofun) id (h.ready (.inl hready.2) hposition)
    · exact h.of_same hposition rfl rfl id id trivial

/-- `GetAndStorePayload` has received something. -/
theorem Inv.data {before : Memory} {d : Download} {flash : Device} (hdownloading : s.Downloading)
    (hfaithful : d.Faithful before flash) : Inv (s.data before d flash) := by
  obtain ⟨hstate, halerting, hqueue⟩ := hdownloading
  have hready : ¬ (s.firmwareUpdateState = .ready ∨ s.alerting = true) := by
    rw [hstate, halerting]
    decide
  unfold State.data
  split
  case h_1 hresult =>
    exact ⟨fun h => absurd h hready, fun h => absurd h hqueue,
      ⟨hstate, halerting, hqueue⟩, hfaithful, hresult⟩
  case h_2 hresult =>
    exact ⟨fun _ _ => ⟨_, rfl, hfaithful.complete hresult⟩, fun h => absurd h hqueue, trivial⟩
  case h_3 =>
    refine ⟨fun h => ?_, fun h => absurd h hqueue, trivial⟩
    cases halerting.symm.trans (h.resolve_left nofun)
  case h_4 => exact ⟨fun h => absurd h hready, fun h => absurd h hqueue, trivial⟩

/-- The update task begins its loop: it takes a message, it goes on without one, or it waits. -/
theorem Inv.receive (h : Inv s) (halerting : s.alerting = false)
    (hs : Firmware.step currentFirmwareVersion s .receive = some s') : Inv s' := by
  simp only [Firmware.step] at hs
  split at hs
  · rename_i hposition
    have hne : s.position ≠ .restarting := by simp [hposition]
    split_ifs at hs with hpoll
    · split at hs
      · rename_i hqueue
        cases hs
        refine h.of_same hne rfl rfl id id ?_
        -- nothing is left in the queue
        rcases hpoll with hflag | hstate
        · exact .inl hflag
        · exact .inr ⟨hstate, halerting, by simp [hqueue]⟩
      · rename_i command queue hqueue
        cases hs
        exact h.takeCommand hne hqueue
    · cases hs
      exact h.of_same hne rfl rfl id id trivial
  · cases hs

/-- The update task waits no longer. -/
theorem Inv.wake (h : Inv s)
    (hs : Firmware.step currentFirmwareVersion s .wake = some s') : Inv s' := by
  simp only [Firmware.step] at hs
  split at hs
  · rename_i hposition hqueue
    cases hs
    exact h.takeCommand (by simp [hposition]) hqueue
  · cases hs

/-- The update task tests what is to be done. -/
theorem Inv.dispatch (h : Inv s)
    (hs : Firmware.step currentFirmwareVersion s .dispatch = some s') : Inv s' := by
  simp only [Firmware.step] at hs
  split at hs
  · rename_i hposition
    have hne : s.position ≠ .restarting := by simp [hposition]
    have hreceived := h.position
    rw [hposition] at hreceived
    split_ifs at hs with hflag hstate
    · cases hs
      exact h.of_same hne rfl rfl id id trivial
    · cases hs
      exact h.of_same hne rfl rfl id id ((hreceived.resolve_left hflag).at _)
    · cases hs
      exact h.of_same hne rfl rfl id id trivial
  · cases hs

/-- The update task asks the update server, if there is a connection. -/
theorem Inv.ask (h : Inv s) {connected discarding : Bool} {info : Option (Option FirmwareVersion)}
    (hs : Firmware.step currentFirmwareVersion s (.answer connected info discarding) = some s') :
    Inv s' := by
  simp only [Firmware.step] at hs
  split at hs
  · rename_i hposition
    have hne : s.position ≠ .restarting := by simp [hposition]
    split_ifs at hs
    · cases hs
      have hconnected : Inv { s with updateSock := true } :=
        h.of_same hne rfl rfl id id (by simp [hposition, State.Consistent])
      exact hconnected.answer hne info discarding
    · cases hs
      exact h.of_same hne rfl rfl id id trivial
  · cases hs

/-- The update task begins a download, or connects to the update server. -/
theorem Inv.fetch (h : Inv s) {connected : Bool} {stack : ℕ → Byte}
    (hs : Firmware.step currentFirmwareVersion s (.fetch connected stack) = some s') : Inv s' := by
  simp only [Firmware.step] at hs
  split at hs
  · rename_i hposition
    have hne : s.position ≠ .restarting := by simp [hposition]
    have hfetching := h.position
    rw [hposition] at hfetching
    split_ifs at hs
    · cases hs
      exact h.of_same hne rfl rfl id id ⟨hfetching.at _, .start stack s.flash, rfl⟩
    · cases hs
      exact h.of_same hne rfl rfl id id trivial
  · cases hs

/-- An alert begins or ends: what is not ready is ready for it. -/
theorem Inv.setReady (h : Inv s) (hready : s.firmwareUpdateState = .ready ∨ s.alerting = true)
    (state : UpdateState) (alerting : Bool) :
    Inv { s with firmwareUpdateState := state, alerting := alerting } := by
  refine ⟨fun _ => h.ready hready, h.queued, h.position.imp id id ?_ (.refl _)⟩
  -- and what is ready is not being downloaded
  intro hdownloading
  rcases hready with hready | halerting
  · cases hready.symm.trans hdownloading.state
  · cases halerting.symm.trans hdownloading.alerting

/-- The flash is changed outside of the inactive firmware area. -/
theorem Inv.write (h : Inv s) {a n : ℕ} {flash : Device}
    (hrange : a + n ≤ PFLASH_BLOCK1_BASE ∨ LCM_DATA_STARTING_BLOCK ≤ a) :
    Inv { s with flash := ⟨overwrite s.flash.memory a n flash.memory, flash.commands⟩ } := by
  have hagree : AgreeInArea s.flash.memory (overwrite s.flash.memory a n flash.memory) :=
    .of_agreeOutside (.overwrite _ _) hrange
  have hinstallable : s.Installable → State.Installable
      { s with flash := ⟨overwrite s.flash.memory a n flash.memory, flash.commands⟩ } :=
    fun ⟨image, hmem, hcomplete⟩ => ⟨image, hmem, hcomplete.agree hagree⟩
  refine ⟨fun hready hne => hinstallable (h.ready hready hne),
    fun hmem hne => hinstallable (h.queued hmem hne), h.position.imp hinstallable id ?_ hagree⟩
  exact fun hdownloading => ⟨hdownloading.state, hdownloading.alerting, hdownloading.queue⟩

/-- **Every guarded step keeps the invariant.** -/
theorem Inv.step {e : Event} (h : Inv s) (hguarded : Guarded s e)
    (hs : step currentFirmwareVersion s e = some s') : Inv s' := by
  cases e with
  | requestCheck queued =>
    cases hs
    exact h.sendUpdateCommand _ queued nofun
  | requestDownload hostObj branchObj queued =>
    cases hs
    exact h.sendUpdateCommand _ queued nofun
  | requestDiscard queued =>
    cases hs
    exact h.sendUpdateCommand _ queued nofun
  | requestInstall queued =>
    simp only [Firmware.step] at hs
    split_ifs at hs with hready
    · cases hs
      exact h
    · cases hs
      exact h.sendUpdateCommand _ queued fun _ => not_not.1 hready
  | requestInstallCloud queued =>
    cases hs
    exact h.sendUpdateCommand _ queued fun _ => hguarded
  | receive => exact h.receive hguarded hs
  | wake => exact h.wake hs
  | install ok flash =>
    simp only [Firmware.step] at hs
    split at hs
    · cases hs
      exact ⟨fun _ hne => absurd rfl hne, fun _ hne => absurd rfl hne, trivial⟩
    · cases hs
  | dispatch => exact h.dispatch hs
  | answer connected info discarding => exact h.ask hs
  | toggle =>
    simp only [Firmware.step] at hs
    split at hs
    · rename_i hposition
      have htoggling := h.position
      rw [hposition] at htoggling
      cases hs
      exact ⟨fun _ _ => htoggling, fun _ _ => htoggling, trivial⟩
    · cases hs
  | fetch connected stack => exact h.fetch hs
  | data hw ram codes bytes =>
    simp only [Firmware.step] at hs
    split at hs
    · rename_i before d hposition
      have hdownloading := h.position
      rw [hposition] at hdownloading
      obtain ⟨hdownloading, hfaithful, hresult⟩ := hdownloading
      obtain ⟨rfl, -⟩ := hguarded
      cases hs
      exact .data hdownloading (receive_faithful bytes hfaithful hresult)
    · cases hs
  | alert =>
    simp only [Firmware.step] at hs
    split_ifs at hs with hready
    cases hs
    exact h.setReady (.inl hready.1) _ _
  | alerted =>
    simp only [Firmware.step] at hs
    split_ifs at hs with halerting
    cases hs
    exact h.setReady (.inr halerting) _ _
  | write a n flash =>
    simp only [Firmware.step] at hs
    split_ifs at hs with hrange
    cases hs
    exact h.write hrange
  | restart flash =>
    cases hs
    exact .start flash

/-! ### Whole runs -/

/-- Where the invariant holds, only a complete image is installed. -/
theorem Inv.installsComplete {e : Event} (h : Inv s)
    (hs : Firmware.step currentFirmwareVersion s e = some s') : InstallsComplete s e := by
  cases e with
  | install ok flash =>
    simp only [Firmware.step] at hs
    split at hs
    · rename_i hposition
      have hinstalling := h.position
      rw [hposition] at hinstalling
      exact hinstalling
    · cases hs
  | _ => trivial

/-- **Only complete images are installed**, in every run whose steps are all guarded. -/
theorem allSteps_installsComplete (currentFirmwareVersion : FirmwareVersion) (s : State)
    (es : List Event) (hs : (machine currentFirmwareVersion).init s)
    (h : (machine currentFirmwareVersion).AllSteps Guarded s es) :
    (machine currentFirmwareVersion).AllSteps InstallsComplete s es := by
  obtain ⟨flash, rfl⟩ := hs
  exact Machine.allSteps_of_allSteps (fun _ _ _ hinv hguarded hs => hinv.step hguarded hs)
    (fun _ _ _ hinv _ hs => hinv.installsComplete hs) (Inv.start flash) h

/-- A check finds a newer version; its download is begun, and discarded. -/
theorem allSteps_installsComplete_discard :
    (machine fun _ => 0).AllSteps InstallsComplete (.start blankDevice)
      [.requestCheck true, .receive, .wake, .dispatch, .answer true (some (some fun _ => 1)) false,
        .receive, .dispatch, .fetch true fun _ => 0, .data ⟨fun _ => FTFx_OK, fun _ _ => 0⟩ startRam
        .ok [], .requestDiscard true] := by
  refine allSteps_installsComplete (fun _ => 0) _ _ ⟨blankDevice, rfl⟩ ?_
  refine .cons rfl trivial (.cons rfl rfl (.cons rfl rfl (.cons rfl rfl (.cons rfl rfl ?_))))
  refine .cons rfl rfl (.cons rfl rfl (.cons rfl rfl ?_))
  exact fun _ _ => ⟨⟨rfl, rfl⟩, fun _ _ => ⟨trivial, trivial⟩⟩

/-- The cloud asks for an installation, and nothing has been downloaded. -/
theorem not_allSteps_installsComplete :
    ¬ ∀ currentFirmwareVersion s es, (machine currentFirmwareVersion).init s →
      (machine currentFirmwareVersion).AllSteps InstallsComplete s es := by
  intro h
  have hrun := h (fun _ => 0) (.start blankDevice)
    [.requestInstallCloud true, .receive, .wake, .install true blankDevice] ⟨blankDevice, rfl⟩
  obtain ⟨-, hrun⟩ := hrun _ rfl
  obtain ⟨-, hrun⟩ := hrun _ rfl
  obtain ⟨-, hrun⟩ := hrun _ rfl
  obtain ⟨⟨image, hmem, -⟩, -⟩ := hrun _ rfl
  cases hmem

end Firmware

end Lcm
