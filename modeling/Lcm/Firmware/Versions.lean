import Lcm.Firmware.Update
import Mathlib.Data.Fintype.Card
import Mathlib.Order.Fin.Basic
import Mathlib.Order.PiLex

/-!
# The version that is installed

An update is downloaded if its version is newer than the one that is compared to it, and installed
by exchanging the two blocks of the flash.  The block that was active until then keeps its
firmware, which the next download erases.

## Main definitions

* `order` : versions are ordered by their numbers, the first ones first.
* `State`, `Event`, `machine` : the update task, and the versions in the two blocks.
* `NotDowngraded` : a step does not make an older version run.
* `Guarded` : a step does not go wrong.

## Main results

* `checkForNewerFirmware_iff` : the comparison of the source is the order.
* `neverDowngrades` : it is a strict total order, and in a run whose steps are all guarded the
  version that runs is never replaced by an older one.
* `not_neverDowngrades` : an install command from the cloud is not guarded.
-/

namespace Lcm

namespace Firmware

namespace Versions

open Flash Lcm.System

/-! ### The order of versions -/

/-- The numbers of a version, the first ones first. -/
def order (version : FirmwareVersion) : Lex (Fin 4 → ℕ) := toLex fun i => (version i).toNat

theorem order_injective : Function.Injective order := by
  intro v w h
  funext i
  exact BitVec.eq_of_toNat_eq (congrFun (toLex.injective h) i)

/-- One is before another if it is where they differ first. -/
theorem order_lt_iff {v w : FirmwareVersion} :
    order v < order w ↔ ∃ i, (∀ j < i, v j = w j) ∧ v i < w i := by
  refine exists_congr fun i => and_congr (forall₂_congr fun j _ => ?_) Iff.rfl
  exact BitVec.toNat_inj

/-- **The comparison of the source** is the order. -/
theorem checkForNewerFirmware_iff {v w : FirmwareVersion} :
    checkForNewerFirmware v w = true ↔ order v < order w := by
  rw [order_lt_iff]
  unfold checkForNewerFirmware
  constructor
  · intro h
    split_ifs at h with h₀ e₀ h₁ e₁ h₂ e₂
    · exact ⟨0, nofun, h₀⟩
    · refine ⟨1, fun j hj => ?_, h₁⟩
      obtain rfl : j = 0 := by omega
      exact e₀.symm
    · refine ⟨2, fun j hj => ?_, h₂⟩
      obtain rfl | rfl : j = 0 ∨ j = 1 := by omega
      · exact e₀.symm
      · exact e₁.symm
    · refine ⟨3, fun j hj => ?_, of_decide_eq_true h⟩
      obtain rfl | rfl | rfl : j = 0 ∨ j = 1 ∨ j = 2 := by omega
      · exact e₀.symm
      · exact e₁.symm
      · exact e₂.symm
  · rintro ⟨i, heq, hlt⟩
    match i, heq, hlt with
    | 0, _, hlt => simp [hlt]
    | 1, heq, hlt => simp [heq 0, hlt]
    | 2, heq, hlt => simp [heq 0, heq 1, hlt]
    | 3, heq, hlt => simp [heq 0, heq 1, heq 2, hlt]

theorem checkForNewerFirmware_eq_false {v w : FirmwareVersion} :
    checkForNewerFirmware v w = false ↔ order w ≤ order v := by
  rw [← Bool.not_eq_true, checkForNewerFirmware_iff]
  exact not_lt

theorem newer_trans {u v w : FirmwareVersion} (h : checkForNewerFirmware u v = true)
    (h' : checkForNewerFirmware v w = true) : checkForNewerFirmware u w = true := by
  rw [checkForNewerFirmware_iff] at *
  exact h.trans h'

theorem newer_or_newer {v w : FirmwareVersion} (h : v ≠ w) :
    checkForNewerFirmware v w = true ∨ checkForNewerFirmware w v = true := by
  rw [checkForNewerFirmware_iff, checkForNewerFirmware_iff]
  exact lt_or_gt_of_ne (order_injective.ne h)

/-! ### The two blocks -/

/-- The update task, and the versions in the two blocks of the flash. -/
structure State where
  /-- The update task. -/
  task : Firmware.State
  /-- `currentFirmwareVersion`, the version of the firmware that runs. -/
  currentFirmwareVersion : FirmwareVersion
  /-- The version of the firmware in the inactive block, unless it is not complete. -/
  inactiveVersion : Option FirmwareVersion

/-- What happens. -/
inductive Event
  /-- Something happens to the update task; a restart leaves the active block as it is. -/
  | task (e : Firmware.Event)
  /-- The controller restarts after `InstallFirmwareToFlash`, and the blocks are exchanged. -/
  | swap (flash : Device)

/-- The version in the inactive block after an event.  The records of a download replace what is
there, and the last one completes the version that the update server has been asked for. -/
def State.inactiveVersionAfter (s : State) : Firmware.Event → Option FirmwareVersion
  | .data hw ram codes bytes =>
    match s.task.position with
    | .downloading _ d =>
      let d := (Firmware.receive hw ram codes d bytes s.task.flash).1
      if d.result = some .downloaded then some s.task.firmwareVersion
      else if d.records = [] then s.inactiveVersion
      else none
    | _ => s.inactiveVersion
  | _ => s.inactiveVersion

/-- One step.  Firmware that is not complete does not start. -/
def step (s : State) : Event → Option State
  | .task e =>
    (Firmware.step s.currentFirmwareVersion s.task e).map fun task =>
      { s with task := task, inactiveVersion := s.inactiveVersionAfter e }
  | .swap flash =>
    match s.task.position, s.inactiveVersion with
    | .restarting, some version =>
      some {
        task := .start flash
        currentFirmwareVersion := version
        inactiveVersion := some s.currentFirmwareVersion }
    | _, _ => none

/-- The controller from a restart on, with any firmware in its blocks. -/
def machine : Machine State Event where
  init s := ∃ flash, s.task = .start flash
  step := step

/-- **An older version does not replace the one that runs.** -/
def NotDowngraded (s : State) (e : Event) : Prop :=
  ∀ s', step s e = some s' →
    checkForNewerFirmware s'.currentFirmwareVersion s.currentFirmwareVersion = false

/-- No app tells which update is to be downloaded. -/
def Undirected (_ : State) : Event → Prop
  | .task (.requestDownload _ _ _) => False
  | _ => True

/-- **A step that does not go wrong**: there is no directed update, and the cloud asks for an
installation only when an update is ready. -/
def Guarded (s : State) : Event → Prop
  | .task (.requestDownload _ _ _) => False
  | .task (.requestInstallCloud _) => s.task.firmwareUpdateState = .ready
  | _ => True

/-! ### The invariant -/

/-- The update task is on its way to a download. -/
def Fetches : Position → Prop
  | .fetching | .downloading _ _ => True
  | _ => False

/-- The update task is on its way to an installation. -/
def Installs : Position → Prop
  | .toggling | .installing | .restarting => True
  | _ => False

/-- A version has been chosen. -/
def Chosen (t : Firmware.State) : Prop :=
  t.firmwareUpdateState = .downloading ∨ Fetches t.position ∨ t.image.isSome

/-- An update is ready, or to be installed. -/
def Ready (t : Firmware.State) : Prop :=
  t.firmwareUpdateState = .ready ∨ t.firmwareUpdateState = .installing ∨ t.alerting = true ∨
    Installs t.position ∨ .installFirmware ∈ t.queue

/-- **The invariant of the update task**: it chooses only versions newer than the one that runs, and
what is ready or to be installed has been downloaded since the restart. -/
structure TaskInv (currentFirmwareVersion : FirmwareVersion) (t : Firmware.State) : Prop where
  /-- There is no directed update. -/
  undirected : t.updateHostObj = none
  /-- And there will be none. -/
  queued : ∀ host branch, .downloadFirmware host branch ∉ t.queue
  /-- What has been chosen is newer. -/
  chosen : Chosen t → checkForNewerFirmware currentFirmwareVersion t.firmwareVersion = true
  /-- What is ready has been downloaded. -/
  downloaded : Ready t → t.image.isSome

/-- **The invariant**: once a download has been finished, the inactive block holds nothing but a
newer version. -/
structure Inv (s : State) : Prop where
  /-- The update task. -/
  task : TaskInv s.currentFirmwareVersion s.task
  /-- The inactive block. -/
  inactive : s.task.image.isSome → ∀ version ∈ s.inactiveVersion,
    checkForNewerFirmware s.currentFirmwareVersion version = true

variable {c : FirmwareVersion} {t t' : Firmware.State}

theorem TaskInv.start (flash : Device) : TaskInv c (.start flash) where
  undirected := rfl
  queued _ _ h := nomatch h
  chosen h := by simp [Chosen, Fetches, State.start] at h
  downloaded h := by simp [Ready, Installs, State.start] at h

/-- A step that leaves the version and the image as they are, and makes nothing ready. -/
theorem TaskInv.of_same (h : TaskInv c t) (hversion : t'.firmwareVersion = t.firmwareVersion)
    (himage : t'.image = t.image) (hhost : t'.updateHostObj = none)
    (hqueue : ∀ command ∈ t'.queue, command ∈ t.queue)
    (hdownloading : t'.firmwareUpdateState = .downloading → Chosen t)
    (hfetches : Fetches t'.position → Chosen t)
    (hready : t'.firmwareUpdateState = .ready ∨ t'.firmwareUpdateState = .installing ∨
      t'.alerting = true → Ready t)
    (hinstalls : Installs t'.position → Ready t) : TaskInv c t' where
  undirected := hhost
  queued host branch hmem := h.queued host branch (hqueue _ hmem)
  chosen h' := by
    rw [hversion]
    rcases h' with h' | h' | h'
    · exact h.chosen (hdownloading h')
    · exact h.chosen (hfetches h')
    · exact h.chosen (.inr (.inr (himage ▸ h')))
  downloaded h' := by
    rw [himage]
    rcases h' with h' | h' | h' | h' | h'
    · exact h.downloaded (hready (.inl h'))
    · exact h.downloaded (hready (.inr (.inl h')))
    · exact h.downloaded (hready (.inr (.inr h')))
    · exact h.downloaded (hinstalls h')
    · exact h.downloaded (.inr (.inr (.inr (.inr (hqueue _ h')))))

theorem ready_of_state (t : Firmware.State) (h : t.firmwareUpdateState = .ready ∨
    t.firmwareUpdateState = .installing ∨ t.alerting = true) : Ready t := by
  rcases h with h | h | h
  · exact .inl h
  · exact .inr (.inl h)
  · exact .inr (.inr (.inl h))

theorem ready_of_installs (h : Installs t.position) : Ready t := .inr (.inr (.inr (.inl h)))

/-- The update task goes somewhere else in its loop. -/
theorem TaskInv.goTo (h : TaskInv c t) {checkForUpdateFlag updateSock : Bool} {timeoutCount : ℕ}
    {position : Position} {flash : Device} (hfetches : Fetches position → Chosen t)
    (hinstalls : Installs position → Ready t) :
    TaskInv c { t with
      checkForUpdateFlag := checkForUpdateFlag
      updateSock := updateSock
      timeoutCount := timeoutCount
      position := position
      flash := flash } :=
  h.of_same rfl rfl h.undirected (fun _ => id) .inl hfetches (ready_of_state t) hinstalls

/-- What is ready has been chosen. -/
theorem TaskInv.chosen_of_ready (h : TaskInv c t) (hready : Ready t) : Chosen t :=
  .inr (.inr (h.downloaded hready))

/-- A state that is neither that of an update that is ready nor that of an installation can be
ready only for an alert. -/
theorem ready_of_none {state : UpdateState} {alerting : Bool} (hnone : state = .none)
    (halerting : alerting = t.alerting)
    (h : state = .ready ∨ state = .installing ∨ alerting = true) : Ready t := by
  subst hnone halerting
  exact ready_of_state t (.inr (.inr ((h.resolve_left nofun).resolve_left nofun)))

/-- A request that is not for a directed update; to install, if an update is ready. -/
theorem TaskInv.sendUpdateCommand (h : TaskInv c t) {command : UpdateCommand} (queued : Bool)
    (hundirected : ∀ host branch, command ≠ .downloadFirmware host branch)
    (hready : command = .installFirmware → t.firmwareUpdateState = .ready) :
    TaskInv c (t.sendUpdateCommand command queued) := by
  unfold State.sendUpdateCommand
  split_ifs
  · refine ⟨h.undirected, fun host branch hmem => ?_, h.chosen, fun h' => h.downloaded ?_⟩
    · rcases List.mem_append.1 hmem with hmem | hmem
      · exact h.queued host branch hmem
      · exact hundirected host branch (List.mem_singleton.1 hmem).symm
    · rcases h' with h' | h' | h' | h' | hmem
      · exact .inl h'
      · exact .inr (.inl h')
      · exact .inr (.inr (.inl h'))
      · exact .inr (.inr (.inr (.inl h')))
      · rcases List.mem_append.1 hmem with hmem | hmem
        · exact .inr (.inr (.inr (.inr hmem)))
        · exact .inl (hready (List.mem_singleton.1 hmem).symm)
  · exact h

/-- The update task handles a message. -/
theorem TaskInv.takeCommand (h : TaskInv c t) {command : UpdateCommand}
    {queue : List UpdateCommand} (hqueue : t.queue = command :: queue) :
    TaskInv c ({ t with queue := queue }.takeCommand command) := by
  have hmem : ∀ c ∈ queue, c ∈ t.queue := fun c hc => hqueue ▸ List.mem_cons_of_mem _ hc
  cases command with
  | checkForUpdate =>
    unfold State.takeCommand
    dsimp only
    split_ifs
    · exact h.of_same rfl rfl rfl hmem nofun nofun (ready_of_none rfl rfl) nofun
    · exact h.of_same rfl rfl rfl hmem nofun nofun (ready_of_none rfl rfl) nofun
    · exact h.of_same rfl rfl h.undirected hmem nofun nofun (ready_of_none rfl rfl) nofun
    · exact h.of_same rfl rfl h.undirected hmem .inl nofun (ready_of_state t) nofun
  | downloadFirmware host branch =>
    exact absurd (hqueue ▸ List.mem_cons_self) (h.queued host branch)
  | installFirmware =>
    refine h.of_same rfl rfl h.undirected hmem .inl nofun (ready_of_state t) fun _ => ?_
    exact .inr (.inr (.inr (.inr (hqueue ▸ List.mem_cons_self))))
  | discardUpdate =>
    exact h.of_same rfl rfl h.undirected hmem nofun nofun (ready_of_none rfl rfl) nofun

/-- A version that is to be used is newer than the one that runs. -/
theorem TaskInv.useNewFirmwareFlag (h : TaskInv c t) {version : Option FirmwareVersion}
    (hnew : t.useNewFirmwareFlag c version = true) :
    checkForNewerFirmware c (version.getD t.firmwareVersion) = true := by
  cases version with
  | none => cases hnew
  | some firmwareVersion =>
    simp only [State.useNewFirmwareFlag, h.undirected, Option.isSome_none, Bool.false_eq_true,
      if_false] at hnew
    split_ifs at hnew with hstate
    · -- it is newer than one that is newer
      refine newer_trans (h.chosen ?_) hnew
      cases hcase : t.firmwareUpdateState with
      | none => exact absurd hcase hstate
      | downloading => exact .inl hcase
      | ready => exact h.chosen_of_ready (.inl hcase)
      | installing => exact h.chosen_of_ready (.inr (.inl hcase))
    · exact hnew

/-- The update task has asked for the latest version: it takes one that is newer than the one it
has, or than the one that runs. -/
theorem TaskInv.answer (h : TaskInv c t) (info : Option (Option FirmwareVersion))
    (discarding : Bool) : TaskInv c (t.answer c info discarding) := by
  unfold State.answer
  cases info with
  | none =>
    dsimp only
    split_ifs
    · exact h.goTo nofun nofun
    · exact h.goTo nofun nofun
  | some version =>
    dsimp only
    split_ifs with hnew hready
    · refine ⟨h.undirected, h.queued, fun _ => h.useNewFirmwareFlag hnew, fun hready => ?_⟩
      rcases hready with hready | hready | hready | hready | hready
      · cases hready
      · cases hready
      · exact h.downloaded (.inr (.inr (.inl hready)))
      · cases hready
      · exact h.downloaded (.inr (.inr (.inr (.inr hready))))
    · exact h.of_same rfl rfl h.undirected (fun _ => id)
        (fun _ => h.chosen_of_ready (.inl hready.2)) nofun (fun _ => .inl hready.2)
        fun _ => .inl hready.2
    · exact h.goTo nofun nofun

/-- `GetAndStorePayload` has received something. -/
theorem TaskInv.data (h : TaskInv c t) {before : Memory} {d : Download}
    (hposition : t.position = .downloading before d) (d' : Download) (flash : Device) :
    TaskInv c (t.data before d' flash) := by
  have hchosen : Chosen t := .inr (.inl (by rw [hposition]; trivial))
  unfold State.data
  split
  · exact h.goTo (fun _ => hchosen) nofun
  · exact ⟨h.undirected, h.queued, fun _ => h.chosen hchosen, fun _ => rfl⟩
  · exact h.of_same rfl rfl h.undirected (fun _ => id) nofun nofun (ready_of_none rfl rfl) nofun
  · exact h.goTo nofun nofun

/-- **Every guarded step keeps the invariant** of the update task. -/
theorem TaskInv.step {e : Firmware.Event} (h : TaskInv c t)
    (hundirected : ∀ host branch queued, e ≠ .requestDownload host branch queued)
    (hcloud : ∀ queued, e = .requestInstallCloud queued → t.firmwareUpdateState = .ready)
    (hs : Firmware.step c t e = some t') : TaskInv c t' := by
  cases e with
  | requestCheck queued =>
    cases hs
    exact h.sendUpdateCommand queued (by simp) (by intros; contradiction)
  | requestDownload host branch queued => exact absurd rfl (hundirected host branch queued)
  | requestDiscard queued =>
    cases hs
    exact h.sendUpdateCommand queued (by simp) (by intros; contradiction)
  | requestInstall queued =>
    simp only [Firmware.step] at hs
    split_ifs at hs with hready
    · cases hs
      exact h
    · cases hs
      exact h.sendUpdateCommand queued (by simp) fun _ => not_not.1 hready
  | requestInstallCloud queued =>
    cases hs
    exact h.sendUpdateCommand queued (by simp) fun _ => hcloud queued rfl
  | receive =>
    simp only [Firmware.step] at hs
    split at hs
    · split_ifs at hs
      · split at hs
        · cases hs
          exact h.goTo (by intros; contradiction) (by intros; contradiction)
        · rename_i hqueue
          cases hs
          exact h.takeCommand hqueue
      · cases hs
        exact h.goTo (by intros; contradiction) (by intros; contradiction)
    · cases hs
  | wake =>
    simp only [Firmware.step] at hs
    split at hs
    · rename_i hqueue
      cases hs
      exact h.takeCommand hqueue
    · cases hs
  | install ok flash =>
    simp only [Firmware.step] at hs
    split at hs
    · rename_i hposition
      have hready : Ready t := ready_of_installs (by rw [hposition]; trivial)
      cases hs
      exact h.of_same rfl rfl h.undirected (fun _ => id) (fun _ => h.chosen_of_ready hready) (by intros; contradiction)
        (fun _ => hready) fun _ => hready
    · cases hs
  | dispatch =>
    simp only [Firmware.step] at hs
    split at hs
    · split_ifs at hs with hflag hstate
      · cases hs
        exact h.goTo (by intros; contradiction) (by intros; contradiction)
      · cases hs
        exact h.goTo (fun _ => .inl hstate) (by intros; contradiction)
      · cases hs
        exact h.goTo (by intros; contradiction) (by intros; contradiction)
    · cases hs
  | answer connected info discarding =>
    simp only [Firmware.step] at hs
    split at hs
    · split_ifs at hs
      · cases hs
        have hconnected : TaskInv c { t with updateSock := true } :=
          ⟨h.undirected, h.queued, h.chosen, h.downloaded⟩
        exact hconnected.answer info discarding
      · cases hs
        exact h.goTo (by intros; contradiction) (by intros; contradiction)
    · cases hs
  | toggle =>
    simp only [Firmware.step] at hs
    split at hs
    · rename_i hposition
      have hready : Ready t := ready_of_installs (by rw [hposition]; trivial)
      cases hs
      exact h.of_same rfl rfl h.undirected (fun _ => id) (by intros; contradiction) (by intros; contradiction) (fun _ => hready) (by intros; contradiction)
    · cases hs
  | fetch connected stack =>
    simp only [Firmware.step] at hs
    split at hs
    · rename_i hposition
      have hchosen : Chosen t := .inr (.inl (by rw [hposition]; trivial))
      split_ifs at hs
      · cases hs
        exact h.goTo (fun _ => hchosen) (by intros; contradiction)
      · cases hs
        exact h.goTo (by intros; contradiction) (by intros; contradiction)
    · cases hs
  | data hw ram codes bytes =>
    simp only [Firmware.step] at hs
    split at hs
    · rename_i hposition
      cases hs
      exact h.data hposition _ _
    · cases hs
  | alert =>
    simp only [Firmware.step] at hs
    split_ifs at hs with hready
    cases hs
    exact h.of_same rfl rfl h.undirected (fun _ => id)
      (fun _ => h.chosen_of_ready (.inl hready.1)) (fun hf => .inr (.inl hf))
      (fun _ => .inl hready.1) fun hi => ready_of_installs hi
  | alerted =>
    simp only [Firmware.step] at hs
    split_ifs at hs with halerting
    cases hs
    exact h.of_same rfl rfl h.undirected (fun _ => id) (by intros; contradiction) (fun hf => .inr (.inl hf))
      (fun _ => .inr (.inr (.inl halerting))) fun hi => ready_of_installs hi
  | write a n flash =>
    simp only [Firmware.step] at hs
    split_ifs at hs
    cases hs
    exact ⟨h.undirected, h.queued, h.chosen, h.downloaded⟩
  | restart flash =>
    cases hs
    exact .start flash

/-! ### The image -/

@[simp] theorem image_sendUpdateCommand (command : UpdateCommand) (queued : Bool) :
    (t.sendUpdateCommand command queued).image = t.image := by
  unfold State.sendUpdateCommand
  split_ifs
  · rfl
  · rfl

@[simp] theorem image_takeCommand (command : UpdateCommand) :
    (t.takeCommand command).image = t.image := by
  cases command with
  | checkForUpdate =>
    unfold State.takeCommand
    dsimp only
    split_ifs <;> rfl
  | _ => rfl

@[simp] theorem image_answer (info : Option (Option FirmwareVersion)) (discarding : Bool) :
    (t.answer c info discarding).image = t.image := by
  unfold State.answer
  cases info with
  | none =>
    dsimp only
    split_ifs <;> rfl
  | some version =>
    dsimp only
    split_ifs <;> rfl

/-- Only a download leaves an image. -/
theorem image_of_step {e : Firmware.Event}
    (hdata : ∀ hw ram codes bytes, e ≠ .data hw ram codes bytes)
    (hs : Firmware.step c t e = some t') (himage : t'.image.isSome) : t.image.isSome := by
  cases e with
  | data hw ram codes bytes => exact absurd rfl (hdata hw ram codes bytes)
  | restart flash =>
    cases hs
    cases himage
  | requestCheck | requestDownload | requestDiscard | requestInstallCloud =>
    cases hs
    simpa using himage
  | _ =>
    simp only [Firmware.step] at hs
    repeat' split at hs
    all_goals cases hs
    all_goals simpa using himage

/-! ### Whole runs -/

variable {s s' : State}

/-- What a round of a download leaves in the inactive block. -/
theorem Inv.data (h : Inv s) {hw : Hardware} {ram : Ram} {codes : Sha256Codes} {bytes : List Byte}
    (hs : Firmware.step s.currentFirmwareVersion s.task (.data hw ram codes bytes) = some t')
    (himage : t'.image.isSome) :
    ∀ version ∈ s.inactiveVersionAfter (.data hw ram codes bytes),
      checkForNewerFirmware s.currentFirmwareVersion version = true := by
  simp only [Firmware.step] at hs
  split at hs
  · rename_i before d hposition
    cases hs
    have hchosen : Chosen s.task := .inr (.inl (by rw [hposition]; trivial))
    simp only [State.inactiveVersionAfter, hposition]
    split_ifs with hresult hrecords
    · rintro version ⟨⟩
      exact h.task.chosen hchosen
    · refine h.inactive ?_
      -- nothing has been finished
      unfold State.data at himage
      split at himage
      · exact himage
      · contradiction
      · exact himage
      · exact himage
    · exact (by intros; contradiction)
  · cases hs

/-- **Every guarded step keeps the invariant**, and replaces the version that runs by a newer one if
at all. -/
theorem Inv.step {e : Event} (h : Inv s) (hguarded : Guarded s e)
    (hs : Versions.step s e = some s') :
    Inv s' ∧ (s'.currentFirmwareVersion = s.currentFirmwareVersion ∨
      checkForNewerFirmware s.currentFirmwareVersion s'.currentFirmwareVersion = true) := by
  cases e with
  | task e =>
    obtain ⟨t', ht, rfl⟩ := Option.map_eq_some_iff.1 hs
    refine ⟨⟨?_, fun himage => ?_⟩, .inl rfl⟩
    · refine h.task.step ?_ ?_ ht
      · rintro host branch queued rfl
        exact hguarded
      · rintro queued rfl
        exact hguarded
    · by_cases hdata : ∃ hw ram codes bytes, e = .data hw ram codes bytes
      · obtain ⟨hw, ram, codes, bytes, rfl⟩ := hdata
        exact h.data ht himage
      · have hne : ∀ hw ram codes bytes, e ≠ .data hw ram codes bytes :=
          fun hw ram codes bytes he => hdata ⟨hw, ram, codes, bytes, he⟩
        have hsame : s.inactiveVersionAfter e = s.inactiveVersion := by
          unfold State.inactiveVersionAfter
          split
          · exact absurd rfl (hne _ _ _ _)
          · rfl
        rw [hsame]
        exact h.inactive (image_of_step hne ht himage)
  | swap flash =>
    simp only [Versions.step] at hs
    split at hs
    · rename_i version hposition hinactive
      cases hs
      have himage := h.task.downloaded (ready_of_installs (by rw [hposition]; trivial))
      exact ⟨⟨.start flash, nofun⟩, .inr (h.inactive himage version hinactive)⟩
    · cases hs

/-- **Updates do not downgrade**: the comparison of versions is a strict total order, and in every
run whose steps are all guarded no older version replaces the one that runs. -/
theorem neverDowngrades (s : State) (es : List Event) (hs : machine.init s)
    (h : machine.AllSteps Guarded s es) :
    ((∀ v, checkForNewerFirmware v v = false) ∧
      (∀ u v w, checkForNewerFirmware u v = true → checkForNewerFirmware v w = true →
        checkForNewerFirmware u w = true) ∧
      ∀ v w, v ≠ w → checkForNewerFirmware v w = true ∨ checkForNewerFirmware w v = true) ∧
    machine.AllSteps NotDowngraded s es := by
  refine ⟨⟨fun v => checkForNewerFirmware_eq_false.2 le_rfl, fun u v w => newer_trans,
    fun v w => newer_or_newer⟩, ?_⟩
  obtain ⟨flash, htask⟩ := hs
  have hstart : Inv s := ⟨htask ▸ .start flash, by rw [htask]; exact nofun⟩
  refine Machine.allSteps_of_allSteps (fun _ _ _ hinv hguarded hs => (hinv.step hguarded hs).1)
    (fun s e _ hinv hguarded _ s' hs => ?_) hstart h
  rw [checkForNewerFirmware_eq_false]
  rcases (hinv.step hguarded hs).2 with heq | hnewer
  · rw [heq]
  · exact (checkForNewerFirmware_iff.1 hnewer).le

/-- The controller after an update, with the firmware that ran before it in the inactive block. -/
def updated : State where
  task := .start blankDevice
  currentFirmwareVersion _ := 1
  inactiveVersion := some fun _ => 0

/-- A check finds a newer version, and another one that is newer than that. -/
theorem neverDowngrades_updated :
    machine.AllSteps NotDowngraded updated
      [.task (.requestCheck true), .task .receive, .task .wake, .task .dispatch,
        .task (.answer true (some (some fun _ => 2)) false), .task (.requestCheck true),
        .task .receive, .task .dispatch, .task (.answer true (some (some fun _ => 3)) false),
        .task (.restart blankDevice)] := by
  refine (neverDowngrades _ _ ⟨blankDevice, rfl⟩ ?_).2
  refine .cons rfl trivial (.cons rfl trivial (.cons rfl trivial (.cons rfl trivial ?_)))
  refine .cons rfl trivial (.cons rfl trivial (.cons rfl trivial (.cons rfl trivial ?_)))
  exact .cons rfl trivial (.cons rfl trivial trivial)

/-- The cloud asks for an installation after an update, and the firmware from before it runs
again. -/
theorem not_neverDowngrades :
    ¬ ∀ s es, machine.init s → machine.AllSteps Undirected s es →
      machine.AllSteps NotDowngraded s es := by
  intro h
  have hrun := h updated
    [.task (.requestInstallCloud true), .task .receive, .task .wake,
      .task (.install true blankDevice), .swap blankDevice] ⟨blankDevice, rfl⟩
    (.cons rfl trivial (.cons rfl trivial (.cons rfl trivial (.cons rfl trivial
      (.cons rfl trivial trivial)))))
  obtain ⟨-, hrun⟩ := hrun _ rfl
  obtain ⟨-, hrun⟩ := hrun _ rfl
  obtain ⟨-, hrun⟩ := hrun _ rfl
  obtain ⟨-, hrun⟩ := hrun _ rfl
  obtain ⟨hswap, -⟩ := hrun _ rfl
  exact absurd (hswap _ rfl) (by decide)

end Versions

end Firmware

end Lcm
