import Lcm.Crc
import Lcm.Run.Basic
import Lcm.Run.Logged
import Lcm.Run.Trace

/-!
# The event controller

`EventController_Task` polls: in every round it reads how many milliseconds have passed, counts down
the timers that the other tasks set, checks that the tasks make progress, blinks the LEDs, and looks
at the buttons.

A round is one step, and so is everything that another task does to what it shares with this one.
The timers of the sockets are left out, and so are the texts of the messages for debugging.

## Main definitions

* `State`, `Inputs`, `Action` : what the task keeps, reads and does.
* `pass` : one round of its loop.
* `controller` : the task among the others.
-/

namespace Lcm

namespace Controller

/-! ### Constants -/

/-- `FACTORY_RESET_TIMER` -/
abbrev factoryResetTime : ℕ := 5000

/-- `PASSWORD_RESET_TIMER` -/
abbrev passwordResetTime : ℕ := 15000

/-- `TOGGLE_CLOUD_TIMER` -/
abbrev toggleCloudTime : ℕ := 5000

/-- `GREEN_LED1_UPDATE_TIMER` -/
abbrev greenLed1UpdateTime : ℕ := 10000

/-- `INITIAL_UPDATE_CHECK_TIME` -/
abbrev initialUpdateCheckTime : ℕ := 90 * 1000

/-- `WATCHDOG_TIME` -/
abbrev watchdogTime : ℕ := 5 * 60 * 1000

/-- `NUM_TASKS_PLUS_ONE` -/
abbrev numTasksPlusOne : ℕ := 17

/-- `LED1_GREEN_FUNCTION_DEFAULT` -/
def led1GreenFunctionDefault : Dword := 0

/-- `LED1_GREEN_FUNCTION_FREE_MEMORY` -/
def led1GreenFunctionFreeMemory : Dword := 1

/-- `LED1_GREEN_FUNCTION_TASK_HEARTBEAT_BITMASK` -/
def led1GreenFunctionTaskHeartbeatBitmask : Dword := 2

/-- `LED1_GREEN_FUNCTION_TOTAL` -/
def led1GreenFunctionTotal : Dword := 3

/-! ### What the task keeps -/

/-- The timers that the other tasks set; `refreshTokenTimer` is set by none. -/
inductive TimerName
  | flashSaveTimer
  | checkForUpdatesTimer
  | restartSystemTimer
  | jsonActivityTimer
  | clearQubeAddressTimer
  deriving DecidableEq

/-- The timers that count down. -/
structure Timers where
  refreshTokenTimer : Dword
  flashSaveTimer : Word
  checkForUpdatesTimer : Dword
  checkWatchdogCountersTimer : Dword
  restartSystemTimer : Word
  jsonActivityTimer : Word
  clearQubeAddressTimer : Dword
  deriving DecidableEq

/-- What is kept of the buttons. -/
structure Buttons where
  factoryResetTimer : Word
  toggleCloudTimer : Word
  togglePasswordTimer : Word
  resetDeviceFlag : Bool
  spareS3InputPressed : Bool
  spareS4InputPressed : Bool
  cloudState : Bool
  led1GreenFunction : Dword
  deriving DecidableEq

/-- What is kept of one LED that blinks: an element of each of the arrays. -/
structure Blink where
  BlinkDisplayCount : Dword
  BlinkDisplayFlag : Bool
  BlinkDisplayTimer : Word
  BlinkDisplayLEDState : Bool
  BlinkDisplayDigitCount : Byte
  BlinkDisplayDigitCountDestination : Byte
  BlinkCountDigitIndex : Byte
  deriving DecidableEq

/-- What is kept of the green LED. -/
structure GreenLed where
  led1GreenUpdateTimer : Word
  led1GreenDefaultState : Bool
  taskHeartbeatBitmask : Dword
  deriving DecidableEq

/-- What is kept to see that the tasks make progress. -/
structure Watchdog where
  taskCounters : Fin numTasksPlusOne → Dword
  previousTaskCounters : Fin numTasksPlusOne → Dword

/-- What the task keeps, and what it shares with the others. -/
structure State where
  timers : Timers
  watchdog : Watchdog
  greenLed : GreenLed
  blink : Fin 3 → Blink
  buttons : Buttons
  resetSocketFlag : Bool
  refreshTokenFlag : Bool
  refreshTokenFailCount : Byte
  /-- It has come to `while (1)`, with the restart requested. -/
  restarting : Bool

/-- What a round reads; a button that is pressed is low. -/
structure Inputs where
  tickCount : Dword
  manufacturingTestModeFlag : Bool
  spareS3Input : Bool
  spareS4Input : Bool
  factoryResetInput : Bool
  /-- `_mem_get_free` -/
  memGetFree : Dword

/-- The outputs for the LEDs. -/
inductive Led
  | ledD7Blue
  | led1Green
  | led1Red
  | led2Green
  | led2Red
  deriving DecidableEq

/-- What a round does. -/
inductive Action
  | shutdown
  | setRefreshTokenFlag
  | SaveSystemPropertiesToFlash
  | SendUpdateCommand
  /-- The task `i` has stalled, and the reset is requested. -/
  | reboot (i : Fin numTasksPlusOne)
  | restart
  | jsonActivityLedHigh
  | HandleMTMInputSense (tickCount : Word)
  | JSA_ClearUserKeyInFlash
  | HandleClearFlash
  | Eliot_LedSet
  | SetGPIOOutput (led : Led) (on : Bool)
  deriving DecidableEq

/-- The action is an output of an LED. -/
def Action.isOutput : Action → Bool
  | .jsonActivityLedHigh | .Eliot_LedSet | .SetGPIOOutput _ _ => true
  | _ => false

/-! ### The timers -/

/-- `if (timer) { if (timer > tickCount) timer -= tickCount; else ... }`: what is left, and whether
the time is over. -/
def countdown {w : ℕ} (timer : BitVec w) (tickCount : Dword) : BitVec w × Bool :=
  if timer = 0 then (0, false)
  else if tickCount.toNat < timer.toNat then (timer - tickCount.setWidth w, false)
  else (0, true)

/-- `resetSocketFlag` -/
def handleResetSocketFlag (s : State) : Logged Action State :=
  if s.resetSocketFlag then do
    .touch .shutdown
    pure { s with resetSocketFlag := false }
  else pure s

/-- `refreshTokenTimer` -/
def handleRefreshTokenTimer (tickCount : Dword) (s : State) : Logged Action State :=
  let (timer, ended) := countdown s.timers.refreshTokenTimer tickCount
  let s := { s with timers := { s.timers with refreshTokenTimer := timer } }
  if ended then do
    .touch .setRefreshTokenFlag
    pure { s with refreshTokenFlag := true, refreshTokenFailCount := 0 }
  else pure s

/-- `flashSaveTimer` -/
def handleFlashSaveTimer (tickCount : Dword) (s : State) : Logged Action State :=
  let (timer, ended) := countdown s.timers.flashSaveTimer tickCount
  let s := { s with timers := { s.timers with flashSaveTimer := timer } }
  if ended then do
    .touch .SaveSystemPropertiesToFlash
    pure s
  else pure s

/-- `checkForUpdatesTimer` -/
def handleCheckForUpdatesTimer (tickCount : Dword) (s : State) : Logged Action State :=
  let (timer, ended) := countdown s.timers.checkForUpdatesTimer tickCount
  let s := { s with timers := { s.timers with checkForUpdatesTimer := timer } }
  if ended then do
    .touch .SendUpdateCommand
    pure s
  else pure s

/-- One round of the loop over the tasks. -/
def checkTaskCounter (w : Watchdog) (i : Fin numTasksPlusOne) : Logged Action Watchdog :=
  if w.taskCounters i ≠ 0 then do
    if w.previousTaskCounters i = w.taskCounters i then .touch (.reboot i)
    pure { w with
      previousTaskCounters := Function.update w.previousTaskCounters i (w.taskCounters i) }
  else pure w

/-- `checkWatchdogCountersTimer` -/
def handleCheckWatchdogCountersTimer (tickCount : Dword) (s : State) : Logged Action State :=
  let (timer, ended) := countdown s.timers.checkWatchdogCountersTimer tickCount
  if ended then do
    let watchdog ← (List.finRange numTasksPlusOne).foldlM checkTaskCounter s.watchdog
    pure { s with
      watchdog := watchdog
      timers := { s.timers with checkWatchdogCountersTimer := watchdogTime } }
  else pure { s with timers := { s.timers with checkWatchdogCountersTimer := timer } }

/-- `restartSystemTimer` -/
def handleRestartSystemTimer (tickCount : Dword) (s : State) : Logged Action State :=
  let (timer, ended) := countdown s.timers.restartSystemTimer tickCount
  let s := { s with timers := { s.timers with restartSystemTimer := timer } }
  if ended then do
    .touch (.SetGPIOOutput .ledD7Blue true)
    let s ←
      if s.buttons.led1GreenFunction = led1GreenFunctionDefault then do
        .touch (.SetGPIOOutput .led1Green true)
        pure { s with greenLed := { s.greenLed with led1GreenDefaultState := true } }
      else pure s
    .touch (.SetGPIOOutput .led1Red false)
    .touch (.SetGPIOOutput .led2Green true)
    .touch (.SetGPIOOutput .led2Red false)
    .touch .restart
    pure { s with restarting := true }
  else pure s

/-- `jsonActivityTimer`, which is not set to 0 -/
def handleJsonActivityTimer (tickCount : Dword) (s : State) : Logged Action State :=
  if tickCount.toNat < s.timers.jsonActivityTimer.toNat then
    pure { s with timers := { s.timers with
      jsonActivityTimer := s.timers.jsonActivityTimer - tickCount.setWidth 16 } }
  else do
    .touch .jsonActivityLedHigh
    pure s

/-- `clearQubeAddressTimer` -/
def handleClearQubeAddressTimer (tickCount : Dword) (s : State) : Logged Action State :=
  pure { s with timers := { s.timers with
    clearQubeAddressTimer := (countdown s.timers.clearQubeAddressTimer tickCount).1 } }

/-! ### The LEDs that blink -/

/-- `while (BlinkDisplayCount)` of `FindFirstDigit` -/
def countDigits (BlinkDisplayCount : Dword) (BlinkDigitCountIndex : Byte) : Byte :=
  if BlinkDisplayCount = 0 then BlinkDigitCountIndex
  else countDigits (BlinkDisplayCount / 10) (BlinkDigitCountIndex + 1)
termination_by BlinkDisplayCount.toNat
decreasing_by
  have hpos : 0 < BlinkDisplayCount.toNat := Nat.pos_of_ne_zero (by bv_omega)
  rw [BitVec.toNat_udiv]
  exact Nat.div_lt_self hpos (by decide)

/-- `FindFirstDigit` -/
def FindFirstDigit (BlinkDisplayCount : Dword) : Byte :=
  if BlinkDisplayCount = 0 then 0 else countDigits BlinkDisplayCount 0 - 1

/-- `while (BlinkDigitCountIndex)` of `GetDigit` -/
def dropDigits (BlinkDisplayCount : Dword) : ℕ → Dword
  | 0 => BlinkDisplayCount
  | n + 1 => dropDigits (BlinkDisplayCount / 10) n

/-- `GetDigit` -/
def GetDigit (BlinkDisplayCount : Dword) (BlinkDigitCountIndex : Byte) : Byte :=
  let digit := dropDigits BlinkDisplayCount BlinkDigitCountIndex.toNat % 10
  if digit = 0 then 10 else digit.setWidth 8

/-- How long a flash of a digit takes. -/
def flashTime (destination : Byte) : Word := if destination = 10 then 62 else 250

/-- "we were on, so turn off" -/
def turnOff (b : Blink) : Blink :=
  let b := { b with
    BlinkDisplayLEDState := false
    BlinkDisplayDigitCount := b.BlinkDisplayDigitCount + 1 }
  if b.BlinkDisplayDigitCountDestination ≤ b.BlinkDisplayDigitCount then
    let b := { b with BlinkDisplayDigitCount := 0 }
    if b.BlinkCountDigitIndex = 0 then
      { b with
        BlinkDisplayTimer := 2000
        BlinkCountDigitIndex := FindFirstDigit b.BlinkDisplayCount
        BlinkDisplayDigitCountDestination :=
          GetDigit b.BlinkDisplayCount (FindFirstDigit b.BlinkDisplayCount) }
    else
      { b with
        BlinkCountDigitIndex := b.BlinkCountDigitIndex - 1
        BlinkDisplayDigitCountDestination :=
          GetDigit b.BlinkDisplayCount (b.BlinkCountDigitIndex - 1)
        BlinkDisplayTimer := 1000 }
  else { b with BlinkDisplayTimer := flashTime b.BlinkDisplayDigitCountDestination }

/-- "we were off, so turn on" -/
def turnOn (b : Blink) : Blink :=
  { b with
    BlinkDisplayLEDState := true
    BlinkDisplayTimer := flashTime b.BlinkDisplayDigitCountDestination }

/-- The output of an LED that blinks; the third has none. -/
def setBlinkingLed (led1GreenFunction : Dword) (on : Bool) : Fin 3 → Logged Action Unit
  | 0 => .touch (.SetGPIOOutput .ledD7Blue on)
  | 1 =>
    if led1GreenFunction ≠ led1GreenFunctionDefault then .touch (.SetGPIOOutput .led1Green on)
    else pure ()
  | 2 => pure ()

/-- One round of the loop over the LEDs. -/
def handleBlinkDisplay (tickCount : Dword) (s : State) (ledIndex : Fin 3) :
    Logged Action State :=
  let b := s.blink ledIndex
  if b.BlinkDisplayFlag then
    if tickCount.toNat < b.BlinkDisplayTimer.toNat then
      pure { s with blink := Function.update s.blink ledIndex { b with
        BlinkDisplayTimer := b.BlinkDisplayTimer - tickCount.setWidth 16 } }
    else do
      setBlinkingLed s.buttons.led1GreenFunction (!b.BlinkDisplayLEDState) ledIndex
      let b := if b.BlinkDisplayLEDState then turnOff b else turnOn b
      pure { s with blink := Function.update s.blink ledIndex b }
  else pure s

/-- `while (multiplier < BlinkDisplayCount[1] && multiplier < 10000000000)`; nine rounds are enough
for what is counted. -/
def frontMultiplier (BlinkDisplayCount : Dword) : ℕ → Dword → Dword
  | 0, multiplier => multiplier
  | rounds + 1, multiplier =>
    if multiplier < BlinkDisplayCount then
      frontMultiplier BlinkDisplayCount rounds (multiplier * 10)
    else multiplier

/-- The value with "a digit to the front that indicates which debug value is flashing" -/
def addFrontDigit (led1GreenFunction BlinkDisplayCount : Dword) : Dword :=
  BlinkDisplayCount + frontMultiplier BlinkDisplayCount 9 10 * led1GreenFunction

/-- What the green LED shows. -/
def handleLed1GreenFunction (tickCount memGetFree : Dword) (s : State) : Logged Action State :=
  if s.buttons.led1GreenFunction ≠ led1GreenFunctionDefault then
    if tickCount.toNat < s.greenLed.led1GreenUpdateTimer.toNat then
      pure { s with greenLed := { s.greenLed with
        led1GreenUpdateTimer := s.greenLed.led1GreenUpdateTimer - tickCount.setWidth 16 } }
    else
      let b := s.blink 1
      let count :=
        if s.buttons.led1GreenFunction = led1GreenFunctionFreeMemory then memGetFree / 10000
        else if s.buttons.led1GreenFunction = led1GreenFunctionTaskHeartbeatBitmask then
          s.greenLed.taskHeartbeatBitmask
        else b.BlinkDisplayCount
      let bitmask :=
        if s.buttons.led1GreenFunction = led1GreenFunctionTaskHeartbeatBitmask then 0
        else s.greenLed.taskHeartbeatBitmask
      pure { s with
        blink := Function.update s.blink 1 { b with
          BlinkDisplayCount := addFrontDigit s.buttons.led1GreenFunction count }
        greenLed := { s.greenLed with
          taskHeartbeatBitmask := bitmask
          led1GreenUpdateTimer := greenLed1UpdateTime } }
  else pure s

/-! ### The buttons -/

/-- "Handle the SW1 button" -/
def handleSw1 (tickCount : Dword) (spareS3Input : Bool) (s : State) : Logged Action State :=
  if !spareS3Input then do
    let (timer, ended) := countdown s.buttons.togglePasswordTimer tickCount
    let s := { s with buttons := { s.buttons with togglePasswordTimer := timer } }
    if ended then .touch .JSA_ClearUserKeyInFlash
    if !s.buttons.spareS3InputPressed then do
      .touch (.SetGPIOOutput .led1Green false)
      let function :=
        if s.buttons.led1GreenFunction = led1GreenFunctionTotal - 1 then led1GreenFunctionDefault
        else s.buttons.led1GreenFunction + 1
      if function = led1GreenFunctionDefault then
        .touch (.SetGPIOOutput .led1Green s.greenLed.led1GreenDefaultState)
      pure { s with
        buttons := { s.buttons with
          led1GreenFunction := function
          spareS3InputPressed := true }
        greenLed := { s.greenLed with led1GreenUpdateTimer := 0 } }
    else pure s
  else
    pure { s with buttons := { s.buttons with
      spareS3InputPressed := false
      togglePasswordTimer := passwordResetTime } }

/-- "Handle the SW2 button" -/
def handleSw2 (tickCount : Dword) (spareS4Input : Bool) (s : State) : Logged Action State :=
  if !spareS4Input then
    let timer := s.buttons.toggleCloudTimer + tickCount.setWidth 16
    if toggleCloudTime ≤ timer.toNat then do
      .touch (.SetGPIOOutput .led1Green false)
      .touch (.SetGPIOOutput .led1Red s.buttons.cloudState)
      pure { s with buttons := { s.buttons with
        cloudState := !s.buttons.cloudState
        toggleCloudTimer := 0 } }
    else pure { s with buttons := { s.buttons with toggleCloudTimer := timer } }
  else
    pure { s with buttons := { s.buttons with
      spareS4InputPressed := false
      toggleCloudTimer := 0 } }

/-- "Handle the factory reset button" -/
def handleFactoryReset (tickCount : Dword) (factoryResetInput : Bool) (s : State) :
    Logged Action State :=
  if !factoryResetInput then
    let timer := s.buttons.factoryResetTimer + tickCount.setWidth 16
    let s := { s with buttons := { s.buttons with factoryResetTimer := timer } }
    if factoryResetTime ≤ timer.toNat then do
      .touch (.SetGPIOOutput .led1Red true)
      let s ←
        if s.buttons.led1GreenFunction = led1GreenFunctionDefault then do
          .touch (.SetGPIOOutput .led1Green false)
          pure { s with greenLed := { s.greenLed with led1GreenDefaultState := false } }
        else pure s
      .touch (.SetGPIOOutput .led2Red false)
      .touch (.SetGPIOOutput .led2Green false)
      pure { s with buttons := { s.buttons with resetDeviceFlag := true } }
    else do
      .touch (.SetGPIOOutput .led1Green false)
      .touch (.SetGPIOOutput .led1Red (timer.toNat / 250 * 250 % 500 = 0))
      pure s
  else do
    let s ←
      if s.buttons.resetDeviceFlag then do
        .touch .HandleClearFlash
        pure { s with
          buttons := { s.buttons with resetDeviceFlag := false }
          timers := { s.timers with restartSystemTimer := 1000 } }
      else pure s
    .touch .Eliot_LedSet
    pure { s with buttons := { s.buttons with factoryResetTimer := 0 } }

/-! ### The rounds -/

/-- What a round does when it has not come to the restart. -/
def passRest (i : Inputs) (s : State) : Logged Action State := do
  let s ← handleJsonActivityTimer i.tickCount s
  let s ← handleClearQubeAddressTimer i.tickCount s
  let s ← handleLed1GreenFunction i.tickCount i.memGetFree s
  let s ← (List.finRange 3).foldlM (handleBlinkDisplay i.tickCount) s
  if i.manufacturingTestModeFlag then do
    .touch (.HandleMTMInputSense (i.tickCount.setWidth 16))
    pure s
  else do
    let s ← handleSw1 i.tickCount i.spareS3Input s
    let s ← handleSw2 i.tickCount i.spareS4Input s
    handleFactoryReset i.tickCount i.factoryResetInput s

/-- A round in which time has passed. -/
def passTimed (i : Inputs) (s : State) : Logged Action State := do
  let s ← handleResetSocketFlag s
  let s ← handleRefreshTokenTimer i.tickCount s
  let s ← handleFlashSaveTimer i.tickCount s
  let s ← handleCheckForUpdatesTimer i.tickCount s
  let s ← handleCheckWatchdogCountersTimer i.tickCount s
  let s ← handleRestartSystemTimer i.tickCount s
  if s.restarting then pure s else passRest i s

/-- One round of `EventController_Task`. -/
def pass (i : Inputs) (s : State) : Logged Action State :=
  if i.tickCount = 0 then pure s else passTimed i s

/-- What happens: a round, or something that another task does. -/
inductive Event
  | pass (i : Inputs)
  | setTimer (timer : TimerName) (value : Dword)
  /-- `watchdog_task_counters[i]++` -/
  | countTask (i : Fin numTasksPlusOne)
  | heartbeat (bits : Dword)
  | resetSocket
  | setLed1GreenDefaultState (on : Bool)

/-- Another task sets a timer. -/
def Timers.set (t : Timers) (value : Dword) : TimerName → Timers
  | .flashSaveTimer => { t with flashSaveTimer := value.setWidth 16 }
  | .checkForUpdatesTimer => { t with checkForUpdatesTimer := value }
  | .restartSystemTimer => { t with restartSystemTimer := value.setWidth 16 }
  | .jsonActivityTimer => { t with jsonActivityTimer := value.setWidth 16 }
  | .clearQubeAddressTimer => { t with clearQubeAddressTimer := value }

/-- The state after an event. -/
def stepState (s : State) : Event → State
  | .pass i => (pass i s).value
  | .setTimer timer value => { s with timers := s.timers.set value timer }
  | .countTask i => { s with watchdog := { s.watchdog with
      taskCounters := Function.update s.watchdog.taskCounters i (s.watchdog.taskCounters i + 1) } }
  | .heartbeat bits => { s with greenLed := { s.greenLed with
      taskHeartbeatBitmask := s.greenLed.taskHeartbeatBitmask ||| bits } }
  | .resetSocket => { s with resetSocketFlag := true }
  | .setLed1GreenDefaultState on => { s with greenLed := { s.greenLed with
      led1GreenDefaultState := on } }

/-- What the task does at an event. -/
def actions (s : State) : Event → List Action
  | .pass i => (pass i s).log
  | _ => []

/-- The state before the loop; the firmware version is `currentFirmwareVersion[2]`. -/
def State.initial (currentFirmwareVersion : Word) (cloudState defaultState : Bool) : State where
  timers := ⟨0, 0, initialUpdateCheckTime, watchdogTime, 0, 0, 0⟩
  watchdog := ⟨fun _ => 0, fun _ => 0⟩
  greenLed := ⟨0, defaultState, 0⟩
  blink ledIndex :=
    ⟨if ledIndex = 0 then currentFirmwareVersion.setWidth 32 else 0,
      ledIndex = 0 || ledIndex = 1, 0, true, 0, 0, 0⟩
  buttons := ⟨0, 0, passwordResetTime, false, false, false, cloudState, led1GreenFunctionDefault⟩
  resetSocketFlag := false
  refreshTokenFlag := false
  refreshTokenFailCount := 0
  restarting := false

/-- The event controller among the other tasks; when the restart is requested nothing more
happens. -/
def controller : Machine State Event where
  init s := ∃ version cloudState defaultState, s = State.initial version cloudState defaultState
  step s e := if s.restarting then none else some (stepState s e)

end Controller

end Lcm
