import Mathlib.Data.List.Basic
import Mathlib.Data.Nat.Notation

/-! # Values shared by the PowerManager classes -/

namespace DeviceAndDisplay.PowerManager

/-- `IPowerManager::PowerState`. -/
inductive PowerState where
  | unknown
  | off
  | standby
  | on
  | standbyLightSleep
  | standbyDeepSleep
deriving DecidableEq, Repr

/-- The `Core::hresult` values the PowerManager classes return. -/
inductive ErrorCode where
  | errorNone
  | errorGeneral
  | errorInvalidParameter
  | errorIllegalState
deriving DecidableEq, Repr

/-- `Core::Time` and `steady_clock` readings, in microsecond ticks. -/
abbrev Time := ℕ

abbrev ClientId := UInt32

/-- The value of an `AckController` transaction counter. -/
abbrev TransactionId := ℕ

def ticksPerMillisecond : ℕ := 1000

def ticksPerSecond : ℕ := 1000 * ticksPerMillisecond

/-- `Core::Time::Add`, whose argument is a `uint32_t`. -/
def Time.add (time : Time) (milliseconds : UInt32) : Time :=
  time + milliseconds.toNat * ticksPerMillisecond

/-- `POWER_MODE_PRECHANGE_TIMEOUT_SEC`. -/
def powerModePreChangeTimeoutSec : ℕ := 1

/-- `kTransientDeepsleepThresholdSec`. -/
def transientDeepsleepThresholdSec : ℕ := 5

/-- What one step reads from outside the plugin: the clocks, `/tmp` override files, and the
answer of `platform().SetPowerState` if the step calls it. -/
structure Env where
  now : Time := 0
  /-- `/tmp/ignoredeepsleep` exists. -/
  ignoreDeepSleep : Bool := false
  /-- The result of `platform().SetPowerState`. -/
  platformSetPowerState : ErrorCode := .errorNone
  /-- The result of `DeepSleepWakeupSettings::getWakeupTime`. -/
  wakeupTime : ℕ := 0
  /-- The integer in `/tmp/deepSleepTimer`. -/
  deepSleepTimer : Option ℕ := none
  /-- The integer in `/tmp/deepSleepTimerVal`. -/
  deepSleepTimerVal : Option ℕ := none
deriving DecidableEq, Repr

end DeviceAndDisplay.PowerManager

/-! ## Notification lists

The `Register` and `Unregister` templates that the six notification lists share. -/

namespace DeviceAndDisplay.PowerManager

/-- The notification interfaces PowerManager keeps a list for. -/
inductive NotificationKind where
  | reboot
  | preModeChange
  | modeChanged
  | deepSleepTimeout
  | networkStandbyModeChanged
  | thermalModeChanged
deriving DecidableEq, Repr

/-- A pointer to a client's notification object. -/
abbrev Sink := ℕ

/-- A list of notification pointers, and the references PowerManager took on each of them. -/
structure NotificationList where
  sinks : List Sink := []
  references : List Sink := []
deriving DecidableEq, Repr

namespace NotificationList

def register (notification : Sink) (l : NotificationList) : ErrorCode × NotificationList :=
  if notification ∈ l.sinks then
    (.errorGeneral, l)
  else
    (.errorNone, { l with
      sinks := l.sinks ++ [notification]
      references := notification :: l.references })

def unregister (notification : Sink) (l : NotificationList) : ErrorCode × NotificationList :=
  if notification ∈ l.sinks then
    (.errorNone, { l with
      sinks := l.sinks.erase notification
      references := l.references.erase notification })
  else
    (.errorGeneral, l)

end NotificationList

end DeviceAndDisplay.PowerManager
