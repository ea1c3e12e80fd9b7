import DeviceAndDisplay.Model.PowerManager.Types
import Mathlib.Data.Int.Notation

/-! # ThermalController

The two checks that a temperature poll makes before it declocks: `deepSleepIfNeeded` and
`rebootIfNeeded`. One reading of the clock stands for all of a poll. -/

namespace DeviceAndDisplay.PowerManager

/-- `ThermalController::Thresholds`, temperatures in degrees and the interval in seconds. -/
structure Thresholds where
  critical : ℤ
  concern : ℤ
  safe : ℤ
  graceInterval : ℤ
deriving DecidableEq, Repr

/-- What makes a check start its action. -/
inductive Trigger where
  | critical
  | graceInterval
deriving DecidableEq, Repr

/-- The `tv_sec` of `gettimeofday`. -/
def tvSec (now : Time) : ℕ := now / ticksPerSecond

/-- The state of one check: its thresholds, `deepSleepZone` or `_rebootZone`, and the
`monitorTime` at which the zone was entered. -/
structure ZoneCheck where
  threshold : Thresholds
  zone : Bool := false
  monitorTime : Time := 0
deriving DecidableEq, Repr

namespace ZoneCheck

/-- The zone is entered at the concern level and left below the safe one; the critical level does
neither. -/
def updateZone (now : Time) (value : ℤ) (z : ZoneCheck) : ZoneCheck :=
  if value ≥ z.threshold.critical then z
  else if !z.zone && value ≥ z.threshold.concern then { z with zone := true, monitorTime := now }
  else if z.zone && value < z.threshold.safe then { z with zone := false }
  else z

/-- The body that `deepSleepIfNeeded` and `rebootIfNeeded` share, with the actions it starts. -/
def ifNeeded (now : Time) (value : ℤ) (z : ZoneCheck) : List Trigger × ZoneCheck :=
  if z.threshold.graceInterval = 0 then
    ([], z)
  else
    let triggers := if value ≥ z.threshold.critical then [.critical] else []
    let z := z.updateZone now value
    if z.zone then
      let difftime : ℤ := tvSec now - tvSec z.monitorTime
      if difftime ≥ z.threshold.graceInterval then
        (triggers ++ [.graceInterval], z)
      else
        (triggers, z)
    else
      (triggers, z)

def setGraceInterval (graceInterval : ℤ) (z : ZoneCheck) : ZoneCheck :=
  { z with threshold := { z.threshold with graceInterval := graceInterval } }

end ZoneCheck

/-- The two checks. -/
inductive Protection where
  | deepSleep
  | reboot
deriving DecidableEq, Repr

structure ThermalController where
  deepSleep : ZoneCheck
  reboot : ZoneCheck
deriving DecidableEq, Repr

namespace ThermalController

def check (c : ThermalController) : Protection → ZoneCheck
  | .deepSleep => c.deepSleep
  | .reboot => c.reboot

/-- `SetOvertempGraceInterval`. -/
def setOvertempGraceInterval (graceInterval : ℤ) (c : ThermalController) :
    ErrorCode × ThermalController :=
  if graceInterval ≥ 0 then
    (.errorNone, {
      deepSleep := c.deepSleep.setGraceInterval graceInterval
      reboot := c.reboot.setGraceInterval graceInterval })
  else
    (.errorInvalidParameter, c)

/-- `deepSleepIfNeeded`. -/
def deepSleepIfNeeded (now : Time) (value : ℤ) (c : ThermalController) :
    List Trigger × ThermalController :=
  let (triggers, deepSleep) := c.deepSleep.ifNeeded now value
  (triggers, { c with deepSleep := deepSleep })

/-- `rebootIfNeeded`. -/
def rebootIfNeeded (now : Time) (value : ℤ) (c : ThermalController) :
    List Trigger × ThermalController :=
  let (triggers, reboot) := c.reboot.ifNeeded now value
  (triggers, { c with reboot := reboot })

/-- One round of `pollThermalLevels`, with the actions that each check starts; the platform may
fail to give a temperature. -/
def poll (now : Time) (value : Option ℤ) (c : ThermalController) :
    (Protection → List Trigger) × ThermalController :=
  match value with
  | none => (fun _ => [], c)
  | some value =>
      let (deepSleepTriggers, c) := c.deepSleepIfNeeded now value
      let (rebootTriggers, c) := c.rebootIfNeeded now value
      (fun
        | .deepSleep => deepSleepTriggers
        | .reboot => rebootTriggers, c)

end ThermalController

inductive ThermalAction where
  | poll (now : Time) (value : Option ℤ)
  | setOvertempGraceInterval (graceInterval : ℤ)
deriving DecidableEq, Repr

def thermalStep (c : ThermalController) : ThermalAction → Option ThermalController
  | .poll now value => some (c.poll now value).2
  | .setOvertempGraceInterval graceInterval => some (c.setOvertempGraceInterval graceInterval).2

end DeviceAndDisplay.PowerManager
