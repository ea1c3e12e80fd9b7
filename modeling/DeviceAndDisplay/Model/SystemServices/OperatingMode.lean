import DeviceAndDisplay.Model.Helpers.Settings
import Mathlib.Data.Int.Notation

/-! # The operating mode

`setMode` with its timer and its settings, and what `Initialize` restores. `T` is the timer. -/

namespace DeviceAndDisplay.SystemServices

open Helpers

/-- `MODE_NORMAL`. -/
def modeNormal : Text := ['N', 'O', 'R', 'M', 'A', 'L']

/-- `MODE_EAS`. -/
def modeEas : Text := ['E', 'A', 'S']

/-- `MODE_WAREHOUSE`. -/
def modeWarehouse : Text := ['W', 'A', 'R', 'E', 'H', 'O', 'U', 'S', 'E']

/-- `"mode"`. -/
def modeKey : Text := ['m', 'o', 'd', 'e']

/-- `"mode_duration"`. -/
def modeDurationKey : Text :=
  ['m', 'o', 'd', 'e', '_', 'd', 'u', 'r', 'a', 't', 'i', 'o', 'n']

/-- The text of an `int`. -/
def decimal : ℤ → Text
  | .ofNat n => Nat.toDigits 10 n
  | .negSucc n => '-' :: Nat.toDigits 10 (n + 1)

structure TimerOperations (τ : Type*) where
  start : τ → τ
  stop : τ → τ
  detach : τ → τ

/-- What calls outside of the component answer in one call of `setMode`. -/
structure ModeIo where
  /-- DaemonSysModeChange succeeds. -/
  iarm : Bool := true
  opensWarehouseFile : Bool := true
  unlinksWarehouseFile : Bool := true
  settings : SettingsIo := {}
deriving DecidableEq, Repr

/-- The labels of `modeInfo`. -/
structure ModeInfo where
  duration : Option ℤ
  mode : Option Text
deriving DecidableEq, Repr

structure OperatingMode (τ J : Type*) where
  currentMode : Text
  remainingDuration : ℤ
  operatingModeTimer : τ
  tempSettings : Settings J
  /-- WAREHOUSE_MODE_FILE exists. -/
  warehouseModeFile : Bool

namespace OperatingMode

variable {τ J : Type*}

/-- `m_temp_settings.setValue`. -/
def setSetting (O : JsonObject J) (io : SettingsIo) (key value : Text) (s : OperatingMode τ J) :
    OperatingMode τ J :=
  { s with tempSettings := (s.tempSettings.setValue O io key value).2 }

def startModeTimer (T : TimerOperations τ) (O : JsonObject J) (io : SettingsIo) (duration : ℤ)
    (s : OperatingMode τ J) : OperatingMode τ J :=
  setSetting O io modeDurationKey (decimal duration)
    { s with
      remainingDuration := duration
      operatingModeTimer := T.start s.operatingModeTimer }

def stopModeTimer (T : TimerOperations τ) (O : JsonObject J) (io : SettingsIo)
    (s : OperatingMode τ J) : OperatingMode τ J :=
  setSetting O io modeDurationKey (decimal 0)
    { s with
      remainingDuration := 0
      operatingModeTimer := T.stop s.operatingModeTimer }

/-- The first part of `setMode`; `none` if `changeMode` becomes `false`. -/
def selectMode (T : TimerOperations τ) (O : JsonObject J) (io : SettingsIo) (duration : ℤ)
    (newMode : Text) (s : OperatingMode τ J) : Option (OperatingMode τ J) :=
  if s.currentMode = modeNormal ∧ (duration = 0 ∨ (duration ≠ 0 ∧ newMode = modeNormal)) then
    none
  else if newMode ≠ modeNormal ∧ duration ≠ 0 then
    if duration < 0 then some (stopModeTimer T O io { s with currentMode := newMode })
    else some (startModeTimer T O io duration { s with currentMode := newMode })
  else
    some (stopModeTimer T O io { s with currentMode := modeNormal })

/-- Create or remove WAREHOUSE_MODE_FILE. -/
def updateWarehouseFile (io : ModeIo) (s : OperatingMode τ J) : OperatingMode τ J :=
  if s.currentMode = modeWarehouse then
    { s with warehouseModeFile := s.warehouseModeFile || io.opensWarehouseFile }
  else
    { s with warehouseModeFile := s.warehouseModeFile && !io.unlinksWarehouseFile }

/-- The part of `setMode` under `changeMode`. -/
def changeMode (T : TimerOperations τ) (O : JsonObject J) (io : ModeIo) (s : OperatingMode τ J) :
    OperatingMode τ J :=
  let switched :=
    if io.iarm then s else { stopModeTimer T O io.settings s with currentMode := modeNormal }
  let updated := updateWarehouseFile io switched
  setSetting O io.settings modeDurationKey (decimal updated.remainingDuration)
    (setSetting O io.settings modeKey updated.currentMode updated)

/-- The result is what the response reports. -/
def setMode (T : TimerOperations τ) (O : JsonObject J) (io : ModeIo) (modeInfo : Option ModeInfo)
    (s : OperatingMode τ J) : Bool × OperatingMode τ J :=
  match modeInfo with
  | some { duration := some duration, mode := some newMode } =>
      if newMode ≠ modeNormal ∧ newMode ≠ modeWarehouse ∧ newMode ≠ modeEas then
        (false, s)
      else
        match selectMode T O io.settings duration newMode s with
        | none => (true, s)
        | some selected => (io.iarm, changeMode T O io selected)
  | _ => (false, s)

/-- `updateDuration`, the callback of the timer. -/
def updateDuration (T : TimerOperations τ) (O : JsonObject J) (io : ModeIo)
    (s : OperatingMode τ J) : OperatingMode τ J :=
  let updated :=
    if s.remainingDuration > 0 then
      { s with remainingDuration := s.remainingDuration - 1 }
    else
      (setMode T O io (some { duration := some 0, mode := some modeNormal })
        { s with
          operatingModeTimer := T.detach (T.stop s.operatingModeTimer) }).2
  setSetting O io.settings modeDurationKey (decimal updated.remainingDuration) updated

/-- The part of `Initialize` that sets the mode; `number` reads the number of a JSON text. -/
def initializeMode (T : TimerOperations τ) (O : JsonObject J) (number : Text → ℤ) (io : ModeIo)
    (s : OperatingMode τ J) : OperatingMode τ J :=
  if s.tempSettings.contains O modeKey = false ∧ s.currentMode = [] then
    (setMode T O io (some { duration := some (-1), mode := some modeNormal }) s).2
  else if s.currentMode = [] then
    (setMode T O io (some {
      duration := some (number (s.tempSettings.getValue O modeDurationKey))
      mode := some (s.tempSettings.getValue O modeKey) }) s).2
  else
    s

/-- What a process starts with. -/
def processStart (O : JsonObject J) (timer : τ) (io : SettingsIo) (file : Option Text)
    (warehouseModeFile : Bool) : OperatingMode τ J where
  currentMode := []
  remainingDuration := 0
  operatingModeTimer := timer
  tempSettings := .cSettings O io file
  warehouseModeFile := warehouseModeFile

end OperatingMode

/-! ### Runs with a timer that either ticks or does not -/

/-- A timer given by whether it runs. -/
def tickingTimer : TimerOperations Bool where
  start _ := true
  stop _ := false
  detach running := running

inductive ModeAction where
  | setMode (duration : ℤ) (newMode : Text) (iarm : Bool)
  /-- The timer calls `updateDuration`. -/
  | tick (iarm : Bool)
  /-- A new process, up to the end of `Initialize`. -/
  | restart (iarm : Bool)
deriving DecidableEq, Repr

variable {J : Type*}

/-- File operations succeed. -/
def modeStep (O : JsonObject J) (number : Text → ℤ) (s : OperatingMode Bool J) :
    ModeAction → Option (OperatingMode Bool J)
  | .setMode duration newMode iarm =>
      some (s.setMode tickingTimer O { iarm := iarm }
        (some { duration := some duration, mode := some newMode })).2
  | .tick iarm =>
      if s.operatingModeTimer then
        some (s.updateDuration tickingTimer O { iarm := iarm })
      else
        none
  | .restart iarm =>
      let started : OperatingMode Bool J :=
        .processStart O false {} s.tempSettings.file s.warehouseModeFile
      some (started.initializeMode tickingTimer O number { iarm := iarm })

end DeviceAndDisplay.SystemServices
