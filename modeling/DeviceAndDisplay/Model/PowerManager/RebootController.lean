import DeviceAndDisplay.Model.PowerManager.ThermalConfig
import DeviceAndDisplay.Storage.Numeral

/-! # RebootController

`Threshold`, `fetchRFCValueInt` with its buffer, and the heartbeat. A heartbeat that accesses
memory outside `param.value` or `rfcVal` has no result. -/

namespace DeviceAndDisplay.PowerManager

open Storage

/-- `Threshold`. -/
structure Threshold where
  threshold : ℤ
  graceInterval : ℤ := 0
deriving DecidableEq, Repr

namespace Threshold

def setThreshold (threshold : ℤ) (t : Threshold) : Threshold :=
  if threshold > 0 then { t with threshold := threshold } else t

/-- `IsThresholdExceeded`, which takes an `int`. -/
def isThresholdExceeded (uptime : ℕ) (t : Threshold) : Bool :=
  decide (t.threshold ≤ toInt uptime)

/-- `IsGraceIntervalExceeded`, which takes an `int64_t`. -/
def isGraceIntervalExceeded (uptime : ℕ) (t : Threshold) : Bool :=
  decide (t.graceInterval ≤ uptime)

end Threshold

/-- `MAX_RFC_LEN`. -/
def maxRfcLen : ℕ := 15

/-- What one heartbeat reads: the answers of `getRFCParameter` for the three keys, the seconds of
the steady clock, and `InactiveDuration`. -/
structure Heartbeat where
  standbyRebootEnable : Option ParamValue
  standbyReboot : Option ParamValue
  forceReboot : Option ParamValue
  uptime : ℕ
  inactiveDuration : ℕ

structure RebootController where
  standbyRebootThreshold : Threshold := { threshold := 86400 * 3, graceInterval := 300 }
  forcedRebootThreshold : Threshold := { threshold := 172800 * 3 }
  rfcUpdated : Bool := false
deriving DecidableEq, Repr

namespace RebootController

/-- The test for a quote at both ends; the second character is read if the first one is a quote. -/
def isQuoted (value : List Char) (len : ℕ) : Option Bool := do
  let first ← loadAt value 0
  if first = quote then
    let last ← loadAt value len
    some (decide (last = quote))
  else
    some false

/-- `fetchRFCValueInt`, for the answer of `getRFCParameter`. -/
def fetchRFCValueInt : Option ParamValue → Option ℤ
  | none => some (-1)
  | some param => do
      let rfcVal := List.replicate (maxRfcLen + 1) nul
      let length ← strlen param.array
      let len := if length > maxRfcLen then maxRfcLen else length
      let rfcVal ←
        if ← isQuoted param.array len then
          strncpy rfcVal (param.array.drop 1) (len - 1)
        else
          strncpy rfcVal param.array (maxRfcLen - 1)
      let rfcVal ← storeAt rfcVal len nul
      some (atoi (cText rfcVal))

/-- `isStandbyRebootEnabled`, with `strncasecmp(value, "true", 4)`. -/
def isStandbyRebootEnabled : Option ParamValue → Bool
  | none => false
  | some param => (param.text.take 4).map Char.toLower = ['t', 'r', 'u', 'e']

/-- The first part of `heartbeatMsg`. -/
def updateThresholds (h : Heartbeat) (c : RebootController) : Option RebootController :=
  if c.rfcUpdated then
    some c
  else do
    let val ← fetchRFCValueInt h.standbyReboot
    let c := if -1 ≠ val then
      { c with standbyRebootThreshold := c.standbyRebootThreshold.setThreshold val } else c
    let val ← fetchRFCValueInt h.forceReboot
    let c := if -1 ≠ val then
      { c with forcedRebootThreshold := c.forcedRebootThreshold.setThreshold val } else c
    some { c with rfcUpdated := true }

/-- The command for a reboot in standby. -/
def standbyMaintenanceReboot : String :=
  "sh /rebootNow.sh -s PwrMgr -o 'Standby Maintenance reboot'"

/-- The command for a reboot in any state. -/
def forcedMaintenanceReboot : String :=
  "sh /rebootNow.sh -s PwrMgr -o 'Forced Maintenance reboot'"

/-- The commands that the second part of `heartbeatMsg` executes. -/
def rebootCommands (h : Heartbeat) (c : RebootController) : List String :=
  if isStandbyRebootEnabled h.standbyRebootEnable then
    if c.standbyRebootThreshold.isThresholdExceeded h.uptime then
      (if c.standbyRebootThreshold.isGraceIntervalExceeded h.inactiveDuration then
        [standbyMaintenanceReboot] else []) ++
      (if c.forcedRebootThreshold.isThresholdExceeded h.uptime then
        [forcedMaintenanceReboot] else [])
    else
      []
  else
    []

/-- `heartbeatMsg`: the commands it executes and the controller after it. -/
def heartbeatMsg (h : Heartbeat) (c : RebootController) :
    Option (List String × RebootController) :=
  (c.updateThresholds h).map fun c => (c.rebootCommands h, c)

def heartbeatStep (c : RebootController) (h : Heartbeat) : Option RebootController :=
  (c.heartbeatMsg h).map Prod.snd

end RebootController

end DeviceAndDisplay.PowerManager
