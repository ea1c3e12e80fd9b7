import DeviceAndDisplay.Model.SystemServices.OperatingMode
import Mathlib.Logic.Function.Basic

/-! # cTimer

The timer of the operating mode with its threads, numbered in the order of their start. -/

namespace DeviceAndDisplay.SystemServices

open Helpers

/-- Where in `timerFunction` a thread is. -/
inductive TimerPoint where
  /-- At the test of `clear` before it sleeps. -/
  | firstTest
  | sleeping
  /-- At the test of `clear` after it has slept. -/
  | secondTest
  | callback
  | returned
deriving DecidableEq, Repr

structure TimerThread where
  point : TimerPoint := .returned
  /-- How many callbacks had been made when it last fell asleep. -/
  sleptAt : ℕ := 0
deriving DecidableEq, Repr

structure CTimer where
  clear : Bool := false
  /-- In milliseconds. -/
  interval : ℤ := 0
  /-- `callBack_function` is set. -/
  hasCallback : Bool := false
  /-- The thread that `timerThread` stands for; `none` if it is not joinable. -/
  timerThread : Option ℕ := none
  /-- How many threads were started. -/
  started : ℕ := 0
  threads : ℕ → TimerThread := fun _ => {}
  callbacks : ℕ := 0
  /-- A thread was assigned to a handle that was joinable. -/
  overwritten : Bool := false
  /-- `detach` was called on a handle that was not joinable. -/
  detachFailed : Bool := false

namespace CTimer

def setInterval (val : ℤ) (timer : CTimer) : CTimer :=
  { timer with hasCallback := true, interval := val }

def start (timer : CTimer) : CTimer :=
  if timer.interval ≤ 0 ∧ timer.hasCallback = false then
    timer
  else
    match timer.timerThread with
    | some _ => { timer with clear := false, overwritten := true }
    | none =>
        { timer with
          clear := false
          timerThread := some timer.started
          started := timer.started + 1
          threads := Function.update timer.threads timer.started { point := .firstTest } }

def stop (timer : CTimer) : CTimer := { timer with clear := true }

def detach (timer : CTimer) : CTimer :=
  match timer.timerThread with
  | some _ => { timer with timerThread := none }
  | none => { timer with detachFailed := true }

/-- `std::terminate` was called. -/
def terminated (timer : CTimer) : Bool := timer.overwritten || timer.detachFailed

def moveThread (i : ℕ) (point : TimerPoint) (timer : CTimer) : CTimer :=
  { timer with
    threads := Function.update timer.threads i { timer.threads i with point := point } }

/-- The next step of a thread, except for the callback. -/
def threadStep (i : ℕ) (timer : CTimer) : CTimer :=
  match (timer.threads i).point with
  | .firstTest =>
      if timer.clear then
        timer.moveThread i .returned
      else
        { timer with
          threads := Function.update timer.threads i ⟨.sleeping, timer.callbacks⟩ }
  | .sleeping => timer.moveThread i .secondTest
  | .secondTest =>
      if timer.clear then timer.moveThread i .returned else timer.moveThread i .callback
  | .callback | .returned => timer

/-- A thread that comes back from the callback. -/
def afterCallback (i : ℕ) (timer : CTimer) : CTimer :=
  { timer.moveThread i .firstTest with callbacks := timer.callbacks + 1 }

end CTimer

def cTimer : TimerOperations CTimer where
  start := .start
  stop := .stop
  detach := .detach

inductive ModeTimerAction where
  | setMode (duration : ℤ) (newMode : Text)
  /-- The thread `i` makes its next step. -/
  | thread (i : ℕ)
deriving DecidableEq, Repr

variable {J : Type*}

namespace OperatingMode

def onTimer (f : CTimer → CTimer) (s : OperatingMode CTimer J) : OperatingMode CTimer J :=
  { s with operatingModeTimer := f s.operatingModeTimer }

end OperatingMode

/-- Calls of the daemon and of the file system succeed. -/
def modeTimerStep (O : JsonObject J) (s : OperatingMode CTimer J) :
    ModeTimerAction → Option (OperatingMode CTimer J)
  | .setMode duration newMode =>
      if s.operatingModeTimer.terminated then
        none
      else
        some (s.setMode cTimer O {} (some { duration := some duration, mode := some newMode })).2
  | .thread i =>
      if s.operatingModeTimer.terminated then
        none
      else
        match (s.operatingModeTimer.threads i).point with
        | .returned => none
        | .callback => some ((s.updateDuration cTimer O {}).onTimer (CTimer.afterCallback i))
        | _ => some (s.onTimer (CTimer.threadStep i))

end DeviceAndDisplay.SystemServices
