import DeviceAndDisplay.Model.PowerManager.AckController
import DeviceAndDisplay.Model.PowerManager.DeepSleepController
import DeviceAndDisplay.Model.PowerManager.Types
import DeviceAndDisplay.Model.PowerManager.PowerController

/-! # PowerManagerImplementation

The plugin object and its worker pool. `SetPowerState` is cut where other threads can run
between its parts; a call that is under way is kept in the field `call`. The log, newest
entry first, records the calls that leave the object and the locks and references it takes. -/

namespace DeviceAndDisplay.PowerManager

/-- Who called `SetPowerState`: a client, or the wake-up notification of an activation of
the given stay in deep sleep (history variable). -/
inductive Origin where
  | client
  | wakeup (stay : ℕ)
deriving DecidableEq, Repr

/-- The values the completion lambda of `SetPowerState` captures. The transaction, the origin
and the number of the stay in deep sleep at the request are history variables. -/
structure Completion where
  currState : PowerState
  newState : PowerState
  isSync : Bool
  transactionId : TransactionId
  origin : Origin
  stay : ℕ
deriving DecidableEq, Repr

abbrev PreModeChangeController := AckController Completion

/-- Where a `SetPowerState` call that holds `selfLock` has got to. -/
inductive CallPhase where
  /-- The request was compared with the current state; `_apiLock` is taken next. -/
  | checked
  /-- The new controller is stored and `_apiLock` released. -/
  | installed
  /-- The pre-change notifications are submitted. -/
  | submitted
  /-- `Schedule` found clients to wait for. -/
  | tested
  /-- `Schedule` has set `_running` and `_handler`. -/
  | armed
deriving DecidableEq, Repr

/-- A `SetPowerState` call under way, with its local variables. -/
structure Call where
  phase : CallPhase
  currState : PowerState
  newState : PowerState
  isSync : Bool
  origin : Origin
  stay : ℕ
deriving DecidableEq, Repr

/-- The pre-change timeout in seconds. -/
def Call.timeOut (call : Call) : ℕ :=
  if call.isSync then 0 else powerModePreChangeTimeoutSec

/-- The completion lambda of the call, for the controller it is scheduled on. -/
def Call.completion (call : Call) (c : PreModeChangeController) : Completion where
  currState := call.currState
  newState := call.newState
  isSync := call.isSync
  transactionId := c.transactionId
  origin := call.origin
  stay := call.stay

/-- A submitted `OnPowerModePreChange` job; it holds the bare notification pointer. -/
structure PreChangeJob where
  notification : Sink
  currentState : PowerState
  newState : PowerState
  transactionId : TransactionId
  timeOut : ℕ
deriving DecidableEq, Repr

inductive LogEntry where
  | selfLock
  | selfUnlock
  | addRef (transactionId : TransactionId)
  | release (transactionId : TransactionId)
  /-- `_modeChangeController.reset()` by a superseding request. -/
  | cancelled (transactionId : TransactionId)
  | completionHandler (transactionId : TransactionId) (isTimedout isAborted : Bool)
  /-- `PowerController::SetPowerState` returned to the completion lambda; `stay` is the number
  of the stay in deep sleep when it was called. -/
  | setPowerState (completion : Completion) (stay : ℕ) (result : ErrorCode)
  | platformSetPowerState (transactionId : TransactionId) (powerState : PowerState)
  | powerModeChanged (transactionId : TransactionId) (prevState newState : PowerState)
  | platformDeepSleepWakeup
  /-- `platform().SetDeepSleep`, with the activation's stay, and the power state stored and the
  stay reached when the call is made. -/
  | platformSetDeepSleep (timeOut : ℕ) (networkStandby : Bool) (stay : ℕ)
      (stored : PowerState) (current : ℕ)
  | deepSleepTimeout (timeOut : ℕ)
  /-- The API call `SetPowerState(newState)` returned. -/
  | returned (newState : PowerState) (result : ErrorCode)
  | registered (kind : NotificationKind) (notification : Sink)
  | unregistered (kind : NotificationKind) (notification : Sink)
  /-- A method of the notification object is called; `held` tells whether PowerManager holds
  a reference on it at that moment. -/
  | callback (kind : NotificationKind) (notification : Sink) (held : Bool)
deriving DecidableEq, Repr

structure Implementation where
  /-- The build defines `PLATCO_BOOTTO_STANDBY`. -/
  bootToStandby : Bool
  powerController : PowerController
  deepSleepController : DeepSleepController := {}
  modeChangeController : Option PreModeChangeController := none
  /-- Controllers that are no longer stored but kept alive by dispatched timer jobs. -/
  cancelledControllers : List PreModeChangeController := []
  modeChangeClients : List (ClientId × String) := []
  nextClientId : ClientId := 0
  nextTransactionId : TransactionId := 0
  selfLock : Bool := false
  call : Option Call := none
  notifications : NotificationKind → NotificationList := fun _ => {}
  preChangeJobs : List PreChangeJob := []
  /-- How often the stored state has left deep sleep (history variable). -/
  stay : ℕ := 0
  log : List LogEntry := []

namespace Implementation

/-- The object after its construction. -/
def init (bootToStandby : Bool) (powerController : PowerController) : Implementation where
  bootToStandby := bootToStandby
  powerController := powerController

/-- The stored power state. -/
def powerState (m : Implementation) : PowerState := m.powerController.settings.powerState

def emit (entry : LogEntry) (m : Implementation) : Implementation :=
  { m with log := entry :: m.log }

/-! ### Locks -/

def lockSelf (m : Implementation) : Implementation :=
  { m with selfLock := true }.emit .selfLock

def unlockSelf (m : Implementation) : Implementation :=
  { m with selfLock := false }.emit .selfUnlock

/-! ### Notifications -/

def holds (kind : NotificationKind) (notification : Sink) (m : Implementation) : Bool :=
  decide (notification ∈ (m.notifications kind).references)

def callback (kind : NotificationKind) (m : Implementation) (notification : Sink) :
    Implementation :=
  m.emit (.callback kind notification (m.holds kind notification))

/-- The loop over a notification list that every `dispatch..Event` method runs under
`_callbackLock`. -/
def dispatchEvent (kind : NotificationKind) (m : Implementation) : Implementation :=
  (m.notifications kind).sinks.foldl (callback kind) m

def dispatchPowerModeChangedEvent (transactionId : TransactionId) (prevState newState : PowerState)
    (m : Implementation) : Implementation :=
  (m.emit (.powerModeChanged transactionId prevState newState)).dispatchEvent .modeChanged

def dispatchDeepSleepTimeoutEvent (timeOut : ℕ) (m : Implementation) : Implementation :=
  (m.emit (.deepSleepTimeout timeOut)).dispatchEvent .deepSleepTimeout

def register (kind : NotificationKind) (notification : Sink) (m : Implementation) :
    ErrorCode × Implementation :=
  let (status, list) := (m.notifications kind).register notification
  let m := { m with notifications := Function.update m.notifications kind list }
  (status, if status = .errorNone then m.emit (.registered kind notification) else m)

def unregister (kind : NotificationKind) (notification : Sink) (m : Implementation) :
    ErrorCode × Implementation :=
  let (status, list) := (m.notifications kind).unregister notification
  let m := { m with notifications := Function.update m.notifications kind list }
  (status, if status = .errorNone then m.emit (.unregistered kind notification) else m)

/-- One job for every registered notification, holding the pointer and no reference. -/
def submitPowerModePreChangeEvent (currentState newState : PowerState)
    (transactionId : TransactionId) (timeOut : ℕ) (m : Implementation) : Implementation :=
  { m with preChangeJobs := m.preChangeJobs ++
      (m.notifications .preModeChange).sinks.map fun notification =>
        ⟨notification, currentState, newState, transactionId, timeOut⟩ }

/-! ### The completion handler -/

/-- `PowerController::ActivateDeepSleep`. -/
def activateDeepSleep (env : Env) (m : Implementation) : Implementation :=
  let timeOut := m.powerController.deepSleepTimeout env
  let nwStandbyMode := m.powerController.settings.nwStandbyMode
  { m with
    deepSleepController := m.deepSleepController.activate timeOut nwStandbyMode m.stay }

/-- `PowerController::SetPowerState`, with the log of its platform call and the stay count. -/
def storePowerState (env : Env) (h : Completion) (m : Implementation) :
    ErrorCode × Implementation :=
  let (errorCode, powerController) := m.powerController.setPowerState env h.newState
  let left := m.powerState = .standbyDeepSleep ∧
    powerController.settings.powerState ≠ .standbyDeepSleep
  let m' := if PowerController.ignores env h.newState then m
    else m.emit (.platformSetPowerState h.transactionId h.newState)
  let stay := if left then m.stay + 1 else m.stay
  (errorCode, { m' with powerController := powerController, stay := stay }.emit
    (.setPowerState h m.stay errorCode))

def setDevicePowerState (env : Env) (h : Completion) (m : Implementation) : Implementation :=
  let (errorCode, m) := m.storePowerState env h
  if errorCode ≠ .errorNone then
    m
  else
    let m := m.dispatchPowerModeChangedEvent h.transactionId h.currState h.newState
    if h.newState = .standbyDeepSleep then m.activateDeepSleep env else m

/-- The lambda that `SetPowerState` hands to `Schedule`. -/
def completionHandler (env : Env) (h : Completion) (isTimedout isAborted : Bool)
    (m : Implementation) : Implementation :=
  let m := m.emit (.completionHandler h.transactionId isTimedout isAborted)
  let m := if isAborted then m else m.setDevicePowerState env h
  let m := m.emit (.release h.transactionId)
  if h.isSync then m.unlockSelf else m

/-- Execute the handler call an `AckController` method made, if it made one. -/
def runHandler (env : Env) (handlerCall : Option (HandlerCall Completion)) (m : Implementation) :
    Implementation :=
  match handlerCall with
  | none => m
  | some handlerCall =>
      m.completionHandler env handlerCall.handler handlerCall.isTimedout handlerCall.isRevoked

/-! ### SetPowerState -/

/-- The call returns `ERROR_NONE`; with `unlock`, it releases `selfLock` itself. -/
def returnFromCall (newState : PowerState) (unlock : Bool) (m : Implementation) : Implementation :=
  let m := if unlock then m.unlockSelf else m
  { m with call := none }.emit (.returned newState .errorNone)

def isSyncStateChange (currState newState : PowerState) : Bool :=
  currState == .standbyDeepSleep && newState == .standbyLightSleep

/-- A request is refused while the device is on its way into deep sleep. -/
def refusesRequest (now : Time) (m : Implementation) : Bool :=
  m.deepSleepController.isDeepSleepInProgress &&
    decide (m.deepSleepController.elapsed now < transientDeepsleepThresholdSec * ticksPerSecond)

/-- `SetPowerState` from the acquisition of `selfLock` to the acquisition of `_apiLock`. It
does not start while another call holds `selfLock`. -/
def enterSetPowerState (env : Env) (newState : PowerState) (origin : Origin)
    (m : Implementation) : Option Implementation :=
  if m.selfLock then
    none
  else
    let m := m.lockSelf
    let currState := m.powerController.getPowerState.2.1
    let m' := { m with call := some {
      phase := .checked
      currState := currState
      newState := newState
      isSync := isSyncStateChange currState newState
      origin := origin
      stay := m.stay } }
    if currState = newState then
      some (m.returnFromCall newState true)
    else if currState = .standbyDeepSleep then
      if m.refusesRequest env.now then
        some (m.returnFromCall newState true)
      else
        some ({ m' with deepSleepController := m.deepSleepController.deactivate }.emit
          .platformDeepSleepWakeup)
    else
      some m'

/-- `_modeChangeController.reset()`: the destructor runs unless a timer job holds a reference. -/
def resetController (env : Env) (c : PreModeChangeController) (m : Implementation) :
    Implementation :=
  let m := { m with modeChangeController := none }.emit (.cancelled c.transactionId)
  if c.dispatched = 0 then
    m.runHandler env c.revoke
  else
    { m with cancelledControllers := m.cancelledControllers ++ [c] }

/-- Store a controller for the request that awaits every registered client. -/
def createController (env : Env) (call : Call) (m : Implementation) : Implementation :=
  let transactionId := m.nextTransactionId + 1
  let controller := m.modeChangeClients.foldl (fun c client => c.ackAwait client.1)
    (AckController.create call.newState transactionId env.now)
  { m with
    nextTransactionId := transactionId
    modeChangeController := some controller
    call := some { call with phase := .installed } }.emit (.addRef transactionId)

/-- The part of `SetPowerState` that runs under `_apiLock`. -/
def installController (env : Env) (call : Call) (m : Implementation) : Implementation :=
  match m.modeChangeController with
  | none => m.createController env call
  | some c =>
      if c.powerState = call.newState then
        m.returnFromCall call.newState true
      else
        (m.resetController env c).createController env call

/-- Let the call under way perform its next part. -/
def advance (env : Env) (call : Call) (m : Implementation) : Implementation :=
  match call.phase, m.modeChangeController with
  | .checked, _ => m.installController env call
  | _, none => m
  | .installed, some c =>
      { m.submitPowerModePreChangeEvent call.currState call.newState c.transactionId call.timeOut
        with call := some { call with phase := .submitted } }
  | .submitted, some c =>
      if c.completesAtOnce (call.timeOut * 1000) then
        (m.completionHandler env (call.completion c) false false).returnFromCall
          call.newState (!call.isSync)
      else
        { m with call := some { call with phase := .tested } }
  | .tested, some c =>
      { m with
        modeChangeController := some (c.arm (call.completion c))
        call := some { call with phase := .armed } }
  | .armed, some c =>
      { m with modeChangeController := some (c.startTimer env.now (call.timeOut * 1000)) }
        |>.returnFromCall call.newState (!call.isSync)

/-! ### Acknowledgements, delays and clients -/

def powerModePreChangeComplete (env : Env) (clientId : ClientId) (transactionId : TransactionId)
    (m : Implementation) : ErrorCode × Implementation :=
  match m.modeChangeController with
  | none => (.errorInvalidParameter, m)
  | some c =>
      let (errorCode, c, handlerCall) := c.ack clientId transactionId
      (errorCode, { m with modeChangeController := some c }.runHandler env handlerCall)

def delayPowerModeChangeBy (env : Env) (clientId : ClientId) (transactionId : TransactionId)
    (delayPeriod : ℤ) (m : Implementation) : ErrorCode × Implementation :=
  match m.modeChangeController with
  | none => (.errorInvalidParameter, m)
  | some c =>
      let (errorCode, c) := c.reschedule clientId transactionId (delayPeriod * 1000) env.now
      (errorCode, { m with modeChangeController := some c })

def addPowerModePreChangeClient (clientName : String) (m : Implementation) :
    ErrorCode × Option ClientId × Implementation :=
  if clientName = "" then
    (.errorInvalidParameter, none, m)
  else
    match m.modeChangeClients.find? fun client => client.2 = clientName with
    | some client => (.errorNone, some client.1, m)
    | none =>
        let clientId := m.nextClientId + 1
        (.errorNone, some clientId, { m with
          nextClientId := clientId
          modeChangeClients := (clientId, clientName) ::
            m.modeChangeClients.filter fun client => client.1 ≠ clientId })

def removePowerModePreChangeClient (env : Env) (clientId : ClientId) (m : Implementation) :
    ErrorCode × Implementation :=
  if m.modeChangeClients.any fun client => client.1 = clientId then
    let m := { m with
      modeChangeClients := m.modeChangeClients.filter fun client => client.1 ≠ clientId }
    match m.modeChangeController with
    | none => (.errorNone, m)
    | some c =>
        let (_, c, handlerCall) := c.ackClient clientId
        (.errorNone, { m with modeChangeController := some c }.runHandler env handlerCall)
  else
    (.errorInvalidParameter, m)

end Implementation

end DeviceAndDisplay.PowerManager
