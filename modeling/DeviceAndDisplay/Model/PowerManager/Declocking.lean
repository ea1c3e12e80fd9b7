import DeviceAndDisplay.Model.PowerManager.ThermalController

/-! # Declocking

`ThermalController::declockIfNeeded` with the clock behind `platform().SetClockSpeed`. A poll calls
`SetClockSpeed` at most once. One reading of the clock stands for all of a poll. -/

namespace DeviceAndDisplay.PowerManager

/-- `PLAT_CPU_SPEED_NORMAL`, `PLAT_CPU_SPEED_SCALED` and `PLAT_CPU_SPEED_MINIMAL`. -/
structure CpuSpeeds where
  normal : UInt32
  scaled : UInt32
  minimal : UInt32
deriving DecidableEq, Repr

/-- A call of `SetClockSpeed`, with its result. -/
structure SpeedCall where
  speed : UInt32
  result : ErrorCode
deriving DecidableEq, Repr

/-- The platform: the speed its hardware runs at, and the calls so far, newest first. -/
structure CpuClock where
  speed : UInt32
  calls : List SpeedCall := []
deriving DecidableEq, Repr

/-- `SetClockSpeed`; a call that fails leaves the hardware as it is. -/
def CpuClock.setClockSpeed (result : ErrorCode) (speed : UInt32) (clock : CpuClock) : CpuClock where
  speed := if result = .errorNone then speed else clock.speed
  calls := ⟨speed, result⟩ :: clock.calls

/-- A temperature poll, with the answer of `SetClockSpeed` if the poll calls it. -/
structure DeclockPoll where
  now : Time
  value : ℤ
  result : ErrorCode := .errorNone
deriving DecidableEq, Repr

/-- The members that `declockIfNeeded` reads and writes. -/
structure Declocking where
  threshold : Thresholds
  speeds : CpuSpeeds
  curCpuSpeed : UInt32
  monitorTime : Time := 0
  clock : CpuClock
deriving DecidableEq, Repr

namespace Declocking

/-- The part of `initializeThermalProtection` about declocking, after `DetemineClockSpeeds`. -/
def create (threshold : Thresholds) (speeds : CpuSpeeds) (clock : CpuClock) : Declocking where
  threshold :=
    if speeds.normal = 0 ∨ speeds.scaled = 0 ∨ speeds.minimal = 0 then
      { threshold with graceInterval := 0 }
    else
      threshold
  speeds := speeds
  curCpuSpeed := speeds.normal
  clock := clock

/-- `SetClockSpeed` and the assignment to `cur_Cpu_Speed` after it; an error is only logged. -/
def switchTo (result : ErrorCode) (speed : UInt32) (c : Declocking) : Declocking :=
  { c with
    clock := c.clock.setClockSpeed result speed
    curCpuSpeed := speed }

/-- `gettimeofday(&monitorTime)`. -/
def resetMonitor (now : Time) (c : Declocking) : Declocking :=
  { c with monitorTime := now }

/-- `difftime >= declockThreshold.graceInterval`. -/
def graceOver (now : Time) (c : Declocking) : Prop :=
  (tvSec now : ℤ) - tvSec c.monitorTime ≥ c.threshold.graceInterval

instance (now : Time) (c : Declocking) : Decidable (c.graceOver now) :=
  inferInstanceAs (Decidable (_ ≥ _))

/-- `declockIfNeeded`. -/
def declockIfNeeded (poll : DeclockPoll) (c : Declocking) : Declocking :=
  if c.threshold.graceInterval = 0 then
    c
  else if poll.value ≥ c.threshold.critical then
    (if c.curCpuSpeed ≠ c.speeds.minimal then c.switchTo poll.result c.speeds.minimal
      else c).resetMonitor poll.now
  else if poll.value ≥ c.threshold.concern then
    (if c.curCpuSpeed = c.speeds.normal then c.switchTo poll.result c.speeds.scaled
      else c).resetMonitor poll.now
  else if poll.value > c.threshold.safe then
    if c.curCpuSpeed = c.speeds.minimal then
      if c.graceOver poll.now then
        (c.switchTo poll.result c.speeds.scaled).resetMonitor poll.now
      else
        c
    else
      c.resetMonitor poll.now
  else if c.curCpuSpeed ≠ c.speeds.normal then
    if c.graceOver poll.now then c.switchTo poll.result c.speeds.normal else c
  else
    c

end Declocking

def declockStep (c : Declocking) (poll : DeclockPoll) : Option Declocking :=
  some (c.declockIfNeeded poll)

end DeviceAndDisplay.PowerManager
