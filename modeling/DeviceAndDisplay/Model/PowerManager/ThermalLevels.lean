import DeviceAndDisplay.Model.PowerManager.Declocking
import DeviceAndDisplay.Model.PowerManager.Types
import Mathlib.Data.Rat.Init

/-! # Temperature levels

The loop body of `pollThermalLevels` with all it calls, and the listeners of the level changes. A
finite `float` is the rational number that it stands for. -/

namespace DeviceAndDisplay.PowerManager

/-- `IPowerManager::ThermalTemperature`. -/
inductive ThermalTemperature where
  | unknown
  | normal
  | high
  | critical
deriving DecidableEq, Repr

/-- What `platform().GetTemperature` gives. -/
structure TemperatureReading where
  state : ThermalTemperature
  currentTemp : ℚ
deriving DecidableEq, Repr

/-- The arguments of `OnThermalModeChanged`. -/
structure ThermalModeChange where
  currentThermalLevel : ThermalTemperature
  newThermalLevel : ThermalTemperature
  currentTemperature : ℚ
deriving DecidableEq, Repr

/-- The conversion of a `float` to an `int`. -/
def truncateToInt (value : ℚ) : ℤ := value.num.tdiv value.den

/-- The members that the polling thread reads and writes. -/
structure ThermalMonitor where
  curThermalLevel : ThermalTemperature := .normal
  curThermalValue : ℤ := 0
  controller : ThermalController
  declocking : Declocking
deriving DecidableEq, Repr

namespace ThermalMonitor

/-- One round of `pollThermalLevels`: the event, and the actions that the checks start. Nothing is
done without a reading. -/
def pollThermalLevels (now : Time) (reading : Option TemperatureReading)
    (setClockSpeed : ErrorCode) (t : ThermalMonitor) :
    Option ThermalModeChange × (Protection → List Trigger) × ThermalMonitor :=
  match reading with
  | none => (none, fun _ => [], t)
  | some reading =>
      let event :=
        if t.curThermalLevel ≠ reading.state then
          some ⟨t.curThermalLevel, reading.state, reading.currentTemp⟩
        else
          none
      let value := truncateToInt reading.currentTemp
      let (triggers, controller) := t.controller.poll now (some value)
      (event, triggers, {
        curThermalLevel := reading.state
        curThermalValue := value
        controller := controller
        declocking := t.declocking.declockIfNeeded ⟨now, value, setClockSpeed⟩ })

def getThermalState (t : ThermalMonitor) : ThermalTemperature × ℤ :=
  (t.curThermalLevel, t.curThermalValue)

end ThermalMonitor

/-- `PowerManagerImplementation`, as far as temperatures are concerned, with the calls of
`OnThermalModeChanged`, newest first. -/
structure ThermalImplementation where
  monitor : ThermalMonitor
  notifications : NotificationList := {}
  calls : List (Sink × ThermalModeChange) := []
deriving DecidableEq, Repr

namespace ThermalImplementation

def dispatchThermalModeChangedEvent (event : ThermalModeChange) (m : ThermalImplementation) :
    ThermalImplementation :=
  let calls := m.notifications.sinks.foldl
    (fun calls notification => (notification, event) :: calls) m.calls
  { m with calls := calls }

/-- A poll, with the dispatch that `onThermalTemperatureChanged` makes of its event. -/
def poll (now : Time) (reading : Option TemperatureReading) (setClockSpeed : ErrorCode)
    (m : ThermalImplementation) : ThermalImplementation :=
  let (event, _, monitor) := m.monitor.pollThermalLevels now reading setClockSpeed
  let m :=
    match event with
    | none => m
    | some event => m.dispatchThermalModeChangedEvent event
  { m with monitor := monitor }

end ThermalImplementation

inductive ThermalLevelAction where
  | poll (now : Time) (reading : Option TemperatureReading) (setClockSpeed : ErrorCode)
  | setOvertempGraceInterval (graceInterval : ℤ)
  | register (notification : Sink)
  | unregister (notification : Sink)
deriving DecidableEq, Repr

def thermalLevelStep (m : ThermalImplementation) :
    ThermalLevelAction → Option ThermalImplementation
  | .poll now reading setClockSpeed => some (m.poll now reading setClockSpeed)
  | .setOvertempGraceInterval graceInterval =>
      some { m with monitor := { m.monitor with
        controller := (m.monitor.controller.setOvertempGraceInterval graceInterval).2 } }
  | .register notification =>
      some { m with notifications := (m.notifications.register notification).2 }
  | .unregister notification =>
      some { m with notifications := (m.notifications.unregister notification).2 }

end DeviceAndDisplay.PowerManager

/-! ## Temperature threshold events

What `SystemServices` makes of a change of the temperature level. -/

namespace DeviceAndDisplay.SystemServices

open PowerManager

/-- The parameters of `onTemperatureThresholdChanged`. -/
structure TemperatureThresholdChange where
  thresholdType : String
  exceeded : Bool
  temperature : ℚ
deriving DecidableEq, Repr

/-- `handleThermalLevelChange`; for levels that it calls invalid there is no event. -/
def handleThermalLevelChange (change : ThermalModeChange) : Option TemperatureThresholdChange :=
  match change.newThermalLevel, change.currentThermalLevel with
  | .normal, .high | .normal, .critical => some ⟨"WARN", false, change.currentTemperature⟩
  | .high, .normal => some ⟨"WARN", true, change.currentTemperature⟩
  | .high, .critical => some ⟨"MAX", false, change.currentTemperature⟩
  | .critical, .high | .critical, .normal => some ⟨"MAX", true, change.currentTemperature⟩
  | _, _ => none

end DeviceAndDisplay.SystemServices
