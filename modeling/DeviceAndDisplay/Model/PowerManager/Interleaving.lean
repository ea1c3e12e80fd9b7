import DeviceAndDisplay.Model.PowerManager.Implementation
import DeviceAndDisplay.Transition.Run

/-! # Interleavings of PowerManager threads

Two machines over the same state. In `step`, other threads run between the parts of a
`SetPowerState` call and between the two parts of an ack-timer job. In `atomicStep`, every API
call and every callback is one step. -/

namespace DeviceAndDisplay.PowerManager

open Implementation

/-- The actions of the worker-pool threads that put the device to sleep. -/
inductive SleepAction where
  /-- A pool thread takes the `i`-th queued `performActivate` lambda. -/
  | performActivate (i : ℕ)
  /-- The `i`-th delay job expires; its thread calls `SetDeepSleep`. -/
  | delayExpired (i : ℕ)
  /-- The `i`-th entry sequence calls `SetDeepSleep` from the retry loop. -/
  | setDeepSleep (i : ℕ)
  /-- The `i`-th entry sequence gets the result of its `SetDeepSleep` call. -/
  | sleepReturned (i : ℕ) (result : ErrorCode) (userWakeup : Bool)
  /-- The `i`-th entry sequence dispatches the deep-sleep timeout event. -/
  | announce (i : ℕ)
deriving DecidableEq, Repr

/-- The API calls and callbacks that are one step in both machines. -/
inductive ApiAction where
  | powerModePreChangeComplete (clientId : ClientId) (transactionId : TransactionId)
  | delayPowerModeChangeBy (clientId : ClientId) (transactionId : TransactionId)
      (delayPeriod : ℤ)
  | addPowerModePreChangeClient (clientName : String)
  | removePowerModePreChangeClient (clientId : ClientId)
  | register (kind : NotificationKind) (notification : Sink)
  | unregister (kind : NotificationKind) (notification : Sink)
  /-- The `i`-th submitted `OnPowerModePreChange` job runs. -/
  | preChangeJob (i : ℕ)
  /-- An event that no power-mode transition dispatches: reboot, thermal or network standby. -/
  | event (kind : NotificationKind)
deriving DecidableEq, Repr

inductive Action where
  | setPowerState (newState : PowerState)
  /-- The notification of the `i`-th entry sequence calls `SetPowerState`. -/
  | wakeup (i : ℕ)
  /-- The `SetPowerState` call under way performs its next part. -/
  | advance
  | timerDispatch
  | timerRun
  | cancelledDispatch (i : ℕ)
  | cancelledRun (i : ℕ)
  | sleep (action : SleepAction)
  | api (action : ApiAction)
deriving DecidableEq, Repr

inductive AtomicAction where
  | setPowerState (newState : PowerState)
  | wakeup (i : ℕ)
  | timerExpired
  | sleep (action : SleepAction)
  | api (action : ApiAction)
deriving DecidableEq, Repr

namespace Implementation

/-- `platform().SetDeepSleep`, called for an activation of the given stay. -/
def callSetDeepSleep (networkStandby : Bool) (stay : ℕ) (m : Implementation) : Implementation :=
  m.emit (.platformSetDeepSleep m.deepSleepController.deepSleepWakeupTimeoutSec networkStandby
    stay m.powerState m.stay)

def setEntries (entries : List Entry) (m : Implementation) : Implementation :=
  { m with deepSleepController := { m.deepSleepController with entries := entries } }

def sleepStep (env : Env) (m : Implementation) : SleepAction → Option Implementation
  | .performActivate i =>
      let c := m.deepSleepController
      c.activateJobs[i]?.map fun job =>
        { m with deepSleepController :=
            { c with activateJobs := c.activateJobs.eraseIdx i }.performActivate env job }
  | .delayExpired i =>
      let c := m.deepSleepController
      c.delayJobs[i]?.map fun job =>
        { m with deepSleepController :=
            { c with delayJobs := c.delayJobs.eraseIdx i }.enterDeepSleepDelayed job
          }.callSetDeepSleep false job.stay
  | .setDeepSleep i =>
      let c := m.deepSleepController
      match c.entries[i]? with
      | some e =>
          match e.phase with
          | .attempt retryCount =>
              some ((m.callSetDeepSleep c.nwStandbyMode e.stay).setEntries
                (c.entries.set i { e with phase := .sleepNow retryCount }))
          | _ => none
      | none => none
  | .sleepReturned i result userWakeup =>
      let c := m.deepSleepController
      match c.entries[i]? with
      | some e =>
          (DeepSleepController.returnPhase result userWakeup e.phase).map fun (state, phase) =>
            { m with deepSleepController := { c with
                deepSleepState := state
                entries := c.entries.set i { e with phase := phase } } }
      | none => none
  | .announce i =>
      let c := m.deepSleepController
      match c.entries[i]? with
      | some e =>
          if e.phase = .announce then
            some ((m.dispatchDeepSleepTimeoutEvent c.deepSleepWakeupTimeoutSec).setEntries
              (c.entries.set i { e with phase := .request .timer }))
          else
            none
      | none => none

/-- The events `ApiAction.event` may dispatch. -/
def isPlainEvent : NotificationKind → Bool
  | .reboot | .networkStandbyModeChanged | .thermalModeChanged => true
  | _ => false

def apiStep (env : Env) (m : Implementation) : ApiAction → Option Implementation
  | .powerModePreChangeComplete clientId transactionId =>
      some (m.powerModePreChangeComplete env clientId transactionId).2
  | .delayPowerModeChangeBy clientId transactionId delayPeriod =>
      some (m.delayPowerModeChangeBy env clientId transactionId delayPeriod).2
  | .addPowerModePreChangeClient clientName =>
      some (m.addPowerModePreChangeClient clientName).2.2
  | .removePowerModePreChangeClient clientId =>
      some (m.removePowerModePreChangeClient env clientId).2
  | .register kind notification => some (m.register kind notification).2
  | .unregister kind notification => some (m.unregister kind notification).2
  | .preChangeJob i =>
      m.preChangeJobs[i]?.map fun job =>
        { m with preChangeJobs := m.preChangeJobs.eraseIdx i }.callback .preModeChange
          job.notification
  | .event kind => if isPlainEvent kind then some (m.dispatchEvent kind) else none

/-- The request an entry sequence makes when it is over, and the sequences that remain. -/
def takeWakeup (i : ℕ) (m : Implementation) : Option (PowerState × Origin × Implementation) :=
  match m.deepSleepController.entries[i]? with
  | some e =>
      match e.phase with
      | .request wakeup =>
          some (wakeup.newState m.bootToStandby, .wakeup e.stay,
            m.setEntries (m.deepSleepController.entries.eraseIdx i))
      | _ => none
  | none => none

/-- The stored controller's timer job, from its dispatch by a pool thread. -/
def timerDispatch (m : Implementation) : Option Implementation :=
  (m.modeChangeController.bind AckController.timerDispatch).map fun c =>
    { m with modeChangeController := some c }

def timerRun (env : Env) (m : Implementation) : Option Implementation :=
  (m.modeChangeController.bind AckController.timerRun).map fun (c, handlerCall) =>
    { m with modeChangeController := some c }.runHandler env handlerCall

def cancelledDispatch (i : ℕ) (m : Implementation) : Option Implementation :=
  (m.cancelledControllers[i]?.bind AckController.timerDispatch).map fun c =>
    { m with cancelledControllers := m.cancelledControllers.set i c }

/-- A dispatched timer job of a cancelled controller; the last one destroys the controller. -/
def cancelledRun (env : Env) (i : ℕ) (m : Implementation) : Option Implementation :=
  (m.cancelledControllers[i]?.bind AckController.timerRun).map fun (c, handlerCall) =>
    if c.dispatched = 0 then
      ({ m with cancelledControllers := m.cancelledControllers.eraseIdx i }.runHandler env
        handlerCall).runHandler env c.revoke
    else
      { m with cancelledControllers := m.cancelledControllers.set i c }.runHandler env handlerCall

end Implementation

/-- One step of one thread, in the given environment. -/
def step (m : Implementation) : Env × Action → Option Implementation
  | (env, .setPowerState newState) => m.enterSetPowerState env newState .client
  | (env, .wakeup i) =>
      (m.takeWakeup i).bind fun (newState, origin, m) => m.enterSetPowerState env newState origin
  | (env, .advance) => m.call.map fun call => m.advance env call
  | (_, .timerDispatch) => m.timerDispatch
  | (env, .timerRun) => m.timerRun env
  | (_, .cancelledDispatch i) => m.cancelledDispatch i
  | (env, .cancelledRun i) => m.cancelledRun env i
  | (env, .sleep action) => m.sleepStep env action
  | (env, .api action) => m.apiStep env action

namespace Implementation

/-- Let the call under way, if there is one, perform its next part. -/
def advanceCall (env : Env) (m : Implementation) : Implementation :=
  match m.call with
  | none => m
  | some call => m.advance env call

/-- `SetPowerState`, uninterrupted: the first part and at most five more. -/
def setPowerState (env : Env) (newState : PowerState) (origin : Origin) (m : Implementation) :
    Option Implementation :=
  (m.enterSetPowerState env newState origin).map fun m =>
    ((((m.advanceCall env).advanceCall env).advanceCall env).advanceCall env).advanceCall env

end Implementation

/-- One uninterrupted API call or callback, in the given environment. -/
def atomicStep (m : Implementation) : Env × AtomicAction → Option Implementation
  | (env, .setPowerState newState) => m.setPowerState env newState .client
  | (env, .wakeup i) =>
      (m.takeWakeup i).bind fun (newState, origin, m) => m.setPowerState env newState origin
  | (env, .timerExpired) => m.timerDispatch.bind fun m => m.timerRun env
  | (env, .sleep action) => m.sleepStep env action
  | (env, .api action) => m.apiStep env action

end DeviceAndDisplay.PowerManager
