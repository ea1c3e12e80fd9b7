import DeviceAndDisplay.Model.PowerManager.SettingsFile

/-! # Wake-up times

`DeepSleepWakeupSettings` with the settings file it writes, `getWakeupTime`, and the calls of
`SetDeepSleepTimer` that lead to `SetTimeout`. -/

namespace DeviceAndDisplay.PowerManager

open Storage

/-! ### The time zone -/

/-- The answer of `GetSystemStates`, as far as the time zone is concerned. -/
structure TimeZoneState where
  error : Bool
  state : ℕ
  payload : String
deriving DecidableEq, Repr

/-- `_maptzValues`; a payload that has no entry gets one with the value 0. -/
def tzValue (payload : String) : UInt32 :=
  match payload with
  | "HST11" => 11
  | "HST11HDT,M3.2.0,M11.1.0" => 10
  | "AKST" => 9
  | "AKST09AKDT,M3.2.0,M11.1.0" => 8
  | "PST08" => 8
  | "PST08PDT,M3.2.0,M11.1.0" => 8
  | "MST07" => 7
  | "MST07MDT,M3.2.0,M11.1.0" => 6
  | "CST06" => 6
  | "CST06CDT,M3.2.0,M11.1.0" => 5
  | "EST05" => 5
  | "EST05EDT,M3.2.0,M11.1.0" => 4
  | _ => 0

/-- `getTZDiffInSec`; `none` if the call of SysMgr fails. -/
def getTZDiffInSec (answer : Option TimeZoneState) : UInt32 :=
  match answer with
  | none => 6 * 3600
  | some param =>
      if param.error then 6 * 3600
      else if param.state = 2 then
        if param.payload.length > 1 then tzValue param.payload * 3600 else 6 * 3600
      else 6 * 3600

/-! ### The wake-up time -/

/-- What `fscanf` finds in `/tmp/deepSleepWakeupTimer`. -/
inductive WakeupTimerFile where
  | absent
  | endOfFile
  | noInteger
  | integer (minutes : Int32)
deriving DecidableEq

/-- What `getWakeupTime` reads. -/
structure WakeupClock where
  timerFile : WakeupTimerFile
  now : ℤ
  /-- `tm_hour` of the local time, if there is one. -/
  localHour : Option ℤ
  /-- `mktime` for an hour, a minute and a second of the local date. -/
  mktime : ℤ → ℤ → ℤ → ℤ
  secureRandom : UInt32
  timeZone : Option TimeZoneState

/-- 6 days limit in seconds. -/
def wakeupLimit : UInt32 := 6 * 24 * 60 * 60

/-- The branch for the override in `/tmp`. -/
def overrideWakeupTime (wakeupTimeInMin : UInt32) : UInt32 :=
  if wakeupTimeInMin * 60 > wakeupLimit then wakeupLimit else wakeupTimeInMin * 60

/-- The rest of `getWakeupTime`. -/
def calculatedWakeupTime (clock : WakeupClock) : UInt32 :=
  match clock.localHour with
  | none => 0
  | some hour =>
      let wakeupTimeInSec : UInt32 :=
        if 0 ≤ hour ∧ hour < 2 then
          .ofInt (clock.mktime 2 0 0 - clock.now)
        else
          .ofInt (clock.mktime 23 59 60 - clock.now) + 7200
      wakeupTimeInSec + clock.secureRandom % 3600 + getTZDiffInSec clock.timeZone

/-- `getWakeupTime`; `"%d"` stores an `int` in the `uint32_t`, which is 5 before. -/
def getWakeupTime (clock : WakeupClock) : UInt32 :=
  match clock.timerFile with
  | .absent | .endOfFile => calculatedWakeupTime clock
  | .noInteger => overrideWakeupTime 5
  | .integer minutes => overrideWakeupTime minutes.toUInt32

/-! ### The timeout that is set -/

/-- `DeepSleepWakeupSettings`, the settings it refers to, and their files. -/
structure DeepSleepWakeupSettings where
  settings : PersistentSettings
  store : SettingsStore
  isDeepSleepTimeoutSet : Bool := false
deriving DecidableEq, Repr

namespace DeepSleepWakeupSettings

/-- `_settings.Save`. -/
def save (p : PlatPower) (io : Path → FileAccess) (d : DeepSleepWakeupSettings) :
    DeepSleepWakeupSettings :=
  { d with store := (d.settings.save p io .opt d.store).2 }

def setTimeout (p : PlatPower) (io : Path → FileAccess) (timeout : UInt32)
    (d : DeepSleepWakeupSettings) : DeepSleepWakeupSettings :=
  { d with
    isDeepSleepTimeoutSet := true
    settings := d.settings.setDeepSleepTimeout timeout }.save p io

def timeout (clock : WakeupClock) (d : DeepSleepWakeupSettings) : UInt32 :=
  if d.isDeepSleepTimeoutSet then d.settings.deepSleepTimeout else getWakeupTime clock

/-- `PowerController::SetDeepSleepTimer`, which saves the settings once more; `io` and `io'` tell
how the two saves turn out. -/
def setTimer (p : PlatPower) (io io' : Path → FileAccess) (timeOut : Int32)
    (d : DeepSleepWakeupSettings) : DeepSleepWakeupSettings :=
  (d.setTimeout p io timeOut.toUInt32).save p io'

/-- `PowerManagerImplementation::SetDeepSleepTimer`: more than a day counts as zero. -/
def setDeepSleepTimer (p : PlatPower) (io io' : Path → FileAccess) (timeOut : Int32)
    (d : DeepSleepWakeupSettings) : DeepSleepWakeupSettings :=
  d.setTimer p io io' (if timeOut > 86400 then 0 else timeOut)

end DeepSleepWakeupSettings

end DeviceAndDisplay.PowerManager
