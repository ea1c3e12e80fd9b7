import DeviceAndDisplay.Model.PowerManager.Types

/-! # DeepSleepController

The controller together with the worker-pool jobs and pool threads that run its lambdas. A
pool thread in an entry sequence is an `Entry`; its phase is the next thing it will do.
Activations carry the number of the stay in deep sleep that requested them, a history
variable that no function reads. -/

namespace DeviceAndDisplay.PowerManager

inductive DeepSleepState where
  | failed
  | notStarted
  | inProgress
  | completed
deriving DecidableEq, Repr

/-- The three ways an entry sequence ends. -/
inductive Wakeup where
  | failed
  | user
  | timer
deriving DecidableEq, Repr

/-- What a pool thread in an entry sequence does next. -/
inductive EntryPhase where
  /-- `enterDeepSleepNow` is about to call `SetDeepSleep`, with `retryCount` attempts left. -/
  | attempt (retryCount : ℕ)
  /-- `SetDeepSleep` was called by `enterDeepSleepNow` and has not returned. -/
  | sleepNow (retryCount : ℕ)
  /-- `SetDeepSleep` was called by `enterDeepSleepDelayed` and has not returned. -/
  | sleepDelayed
  /-- `onDeepSleepTimerWakeup` is about to dispatch the timeout event. -/
  | announce
  /-- The parent notification is about to call `SetPowerState`. -/
  | request (wakeup : Wakeup)
deriving DecidableEq, Repr

structure Entry where
  stay : ℕ
  phase : EntryPhase
  /-- `Deactivate` ran since the sequence latched (history variable). -/
  deactivated : Bool := false
deriving DecidableEq, Repr

/-- A queued `performActivate` lambda. -/
structure ActivateJob where
  timeOut : ℕ
  nwStandbyMode : Bool
  stay : ℕ
deriving DecidableEq, Repr

/-- A scheduled `enterDeepSleepDelayed` lambda. -/
structure DelayJob where
  id : ℕ
  time : Time
  stay : ℕ
deriving DecidableEq, Repr

structure DeepSleepController where
  deepSleepState : DeepSleepState := .notStarted
  /-- `none` is the epoch the member is initialised with. -/
  deepsleepStartTime : Option Time := none
  deepSleepDelaySec : ℕ := 0
  deepSleepWakeupTimeoutSec : ℕ := 0
  nwStandbyMode : Bool := false
  /-- The job `_deepSleepDelayJob` refers to, if it is valid. -/
  deepSleepDelayJob : Option ℕ := none
  activateJobs : List ActivateJob := []
  delayJobs : List DelayJob := []
  entries : List Entry := []
  nextDelayJob : ℕ := 0
deriving DecidableEq, Repr

namespace DeepSleepController

def isDeepSleepInProgress (c : DeepSleepController) : Bool :=
  c.deepSleepState == .inProgress

def elapsed (now : Time) (c : DeepSleepController) : Time :=
  match c.deepsleepStartTime with
  | none => 0
  | some start => now - start

/-- `Activate` submits the `performActivate` lambda. -/
def activate (timeOut : ℕ) (nwStandbyMode : Bool) (stay : ℕ) (c : DeepSleepController) :
    DeepSleepController :=
  { c with activateJobs := c.activateJobs ++ [⟨timeOut, nwStandbyMode, stay⟩] }

/-- `Deactivate`; the result of `DeepSleepWakeup` only reaches a log line. -/
def deactivate (c : DeepSleepController) : DeepSleepController :=
  { c with
    delayJobs := c.delayJobs.filter fun job => c.deepSleepDelayJob ≠ some job.id
    deepSleepDelayJob := none
    deepSleepState := .notStarted
    entries := c.entries.map fun e => { e with deactivated := true } }

/-- `read_integer_conf(file, value) && value`: an override file counts when it is not zero. -/
def overrideValue (file : Option ℕ) (default : ℕ) : ℕ :=
  match file with
  | some (value + 1) => value + 1
  | _ => default

/-- `performActivate`, run by a pool thread for a lambda it took from the queue. -/
def performActivate (env : Env) (job : ActivateJob) (c : DeepSleepController) :
    DeepSleepController :=
  if c.isDeepSleepInProgress then
    c
  else
    let c := { c with
      deepSleepState := .inProgress
      deepsleepStartTime := some env.now
      deepSleepWakeupTimeoutSec := overrideValue env.deepSleepTimerVal job.timeOut
      deepSleepDelaySec := overrideValue env.deepSleepTimer c.deepSleepDelaySec }
    if c.deepSleepDelaySec ≠ 0 then
      { c with
        deepSleepDelayJob := some c.nextDelayJob
        nextDelayJob := c.nextDelayJob + 1
        delayJobs := c.delayJobs ++
          [⟨c.nextDelayJob, env.now.add (.ofNat (c.deepSleepDelaySec * 1000)), job.stay⟩] }
    else
      { c with entries := c.entries ++ [{ stay := job.stay, phase := .attempt 5 }] }

/-- `enterDeepSleepDelayed` up to and including its call of `SetDeepSleep`. -/
def enterDeepSleepDelayed (job : DelayJob) (c : DeepSleepController) : DeepSleepController :=
  { c with
    deepSleepDelayJob := none
    entries := c.entries ++ [{ stay := job.stay, phase := .sleepDelayed }] }

/-- Where the sequence goes once `SetDeepSleep` has put the device to sleep and returned. -/
def wakeupPhase (userWakeup : Bool) : EntryPhase :=
  if userWakeup then .request .user else .announce

/-- The return of `SetDeepSleep`: the latch value the thread writes, and its next phase. -/
def returnPhase (result : ErrorCode) (userWakeup : Bool) :
    EntryPhase → Option (DeepSleepState × EntryPhase)
  | .sleepNow retryCount =>
      if result = .errorNone then
        some (.completed, wakeupPhase userWakeup)
      else if retryCount - 1 = 0 then
        some (.failed, .request .failed)
      else
        some (.failed, .attempt (retryCount - 1))
  | .sleepDelayed =>
      if result = .errorNone then
        some (.completed, wakeupPhase userWakeup)
      else
        some (.failed, .request .failed)
  | _ => none

end DeepSleepController

/-- The state a wake-up asks for, in a build with or without `PLATCO_BOOTTO_STANDBY`. -/
def Wakeup.newState (bootToStandby : Bool) : Wakeup → PowerState
  | .timer => .standbyLightSleep
  | .user | .failed => if bootToStandby then .standbyLightSleep else .on

end DeviceAndDisplay.PowerManager
