import DeviceAndDisplay.Model.PowerManager.WakeupSources
import DeviceAndDisplay.Storage.LinkedList
import DeviceAndDisplay.Transition.RecursiveLock

/-! # Call stacks

Threads inside the plugin, each with its stack of active functions. A listener that a loop
calls may call the plugin again on the same thread, while the functions below it hold their
locks and their iterators. What a function captured or was passed stays in its frame. -/

namespace DeviceAndDisplay.PowerManager

open Transition Storage

abbrev ThreadId := ℕ

/-- A node of a notification list; a sink that is registered again gets a new one. -/
structure Node where
  notification : Sink
  registration : ℕ
deriving DecidableEq, Repr

/-- The arguments of `submitPowerModePreChangeEvent`. -/
structure PreChangeEvent where
  currentState : PowerState
  newState : PowerState
  transactionId : TransactionId
  timeOut : ℕ
deriving DecidableEq, Repr

def PreChangeEvent.job (event : PreChangeEvent) (notification : Sink) : PreChangeJob :=
  ⟨notification, event.currentState, event.newState, event.transactionId, event.timeOut⟩

/-- Who runs a completion handler: `Schedule` in the thread of `SetPowerState`, the thread of the
last acknowledgement under `_apiLock`, or a timer job. -/
inductive HandlerContext where
  | caller
  | ack
  | timer
deriving DecidableEq, Repr

/-- An active function, and where it has got to. -/
inductive StackFrame where
  /-- A method of a notification object. -/
  | callback (kind : NotificationKind) (notification : Sink)
  /-- `SetPowerState`, at `selfLock.Lock()`. -/
  | awaitSelfLock (newState : PowerState) (origin : Origin)
  /-- `SetPowerState` with `selfLock`, about to read the power state. -/
  | locked (newState : PowerState) (origin : Origin)
  /-- `SetPowerState` past that; its variables are in the field `call`. -/
  | call
  /-- The loop of `submitPowerModePreChangeEvent`, which runs without a lock. -/
  | submit (event : PreChangeEvent) (it : Node) (called : List Node)
  /-- A `dispatch..Event` method, at `_callbackLock.Lock()`. -/
  | enterDispatch (kind : NotificationKind)
  /-- The loop of a `dispatch..Event` method, under `_callbackLock`. -/
  | dispatch (kind : NotificationKind) (it : Node) (called : List Node)
  /-- The completion lambda once it has called `dispatchPowerModeChangedEvent`; a caller of the
  lambda does nothing after it but to release its lock. -/
  | handler (context : HandlerContext) (h : Completion)
  /-- `onDeepSleepTimerWakeup` once it has called `dispatchDeepSleepTimeoutEvent`. -/
  | deepSleepTimerWakeup (stay : ℕ)
deriving DecidableEq, Repr

namespace StackFrame

/-- The function is to release `selfLock`. -/
def holdsSelfLock : StackFrame → Bool
  | locked .. | call | handler .caller _ => true
  | _ => false

def holdsCallbackLock : StackFrame → Bool
  | dispatch .. => true
  | _ => false

/-- The list that a loop runs over, and its iterator. -/
def position : StackFrame → Option (NotificationKind × Node)
  | submit _ it _ => some (.preModeChange, it)
  | dispatch kind it _ => some (kind, it)
  | _ => none

/-- The nodes for which a loop has run its body (history variable). -/
def called : StackFrame → List Node
  | submit _ _ called | dispatch _ _ called => called
  | _ => []

end StackFrame

structure ThreadedPlugin extends StandbyPlugin where
  /-- How often each sink was registered (history variable). -/
  registrations : NotificationKind → Sink → ℕ := fun _ _ => 0
  callbackLock : RecursiveLock ThreadId := {}
  apiLock : RecursiveLock ThreadId := {}
  /-- The stacks, the running function first. -/
  threads : ThreadId → List StackFrame := fun _ => []

/-- The methods of `IPowerManager`. -/
inductive Method where
  | setPowerState (newState : PowerState)
  /-- `Reboot`, up to the end of its event. -/
  | reboot
  /-- `SetWakeupSourceConfig` and `SetNetworkStandbyMode`. -/
  | wakeup (env : WakeupEnv) (action : WakeupAction)
  | setDeepSleepTimer (timeOut : ℤ)
  | powerModePreChangeComplete (clientId : ClientId) (transactionId : TransactionId)
  | delayPowerModeChangeBy (clientId : ClientId) (transactionId : TransactionId)
      (delayPeriod : ℤ)
  | addPowerModePreChangeClient (clientName : String)
  | removePowerModePreChangeClient (clientId : ClientId)
  | register (kind : NotificationKind) (notification : Sink)
  | unregister (kind : NotificationKind) (notification : Sink)
  /-- The others take `_apiLock` and read, or set a value of the thermal controller. -/
  | other

/-- What a thread that is in no function of the plugin starts with. -/
inductive Entrance where
  /-- The `i`-th submitted `OnPowerModePreChange` job. -/
  | preChangeJob (i : ℕ)
  | timerDispatch
  | timerRun
  | cancelledDispatch (i : ℕ)
  | cancelledRun (i : ℕ)
  /-- The notification of the `i`-th entry sequence calls `SetPowerState`. -/
  | wakeup (i : ℕ)
  /-- `onDeepSleepTimerWakeup` of the `i`-th entry sequence. -/
  | announce (i : ℕ)
  | sleep (action : SleepAction)
  /-- `onThermalTemperatureChanged`. -/
  | thermalModeChanged

inductive ThreadAction where
  /-- A client, or the listener that runs, calls a method. -/
  | call (method : Method)
  /-- The listener that runs returns. -/
  | returns
  /-- The running function of the plugin performs its next part. -/
  | proceed
  | enter (entrance : Entrance)

/-- `SetPowerState` from the acquisition of `selfLock` to the acquisition of `_apiLock`. -/
def Implementation.compareStates (env : Env) (newState : PowerState) (origin : Origin)
    (m : Implementation) : Implementation :=
  let currState := m.powerController.getPowerState.2.1
  let m' := { m with call := some {
    phase := .checked
    currState := currState
    newState := newState
    isSync := isSyncStateChange currState newState
    origin := origin
    stay := m.stay } }
  if currState = newState then
    m.returnFromCall newState true
  else if currState = .standbyDeepSleep then
    if m.refusesRequest env.now then
      m.returnFromCall newState true
    else
      { m' with deepSleepController := m.deepSleepController.deactivate }.emit
        .platformDeepSleepWakeup
  else
    m'

namespace ThreadedPlugin

/-- The plugin after its construction, with no thread in it. -/
def init (bootToStandby : Bool) (powerController : PowerController)
    (wakeupSrc : WakeupSrcType → Bool) : ThreadedPlugin where
  plugin := Implementation.init bootToStandby powerController
  wakeupSrc := wakeupSrc

def setStack (t : ThreadId) (stack : List StackFrame) (s : ThreadedPlugin) : ThreadedPlugin :=
  { s with threads := Function.update s.threads t stack }

def push (t : ThreadId) (f : StackFrame) (s : ThreadedPlugin) : ThreadedPlugin :=
  s.setStack t (f :: s.threads t)

/-! ### Loops over the notification lists -/

/-- The node of a sink that is registered. -/
def node (kind : NotificationKind) (s : ThreadedPlugin) (notification : Sink) : Node :=
  ⟨notification, s.registrations kind notification⟩

def nodes (kind : NotificationKind) (s : ThreadedPlugin) : List Node :=
  (s.plugin.notifications kind).sinks.map (s.node kind)

/-- A dispatch loop arrives at a node and calls its notification object. -/
def callAt (t : ThreadId) (kind : NotificationKind) (it : Node) (called : List Node)
    (rest : List StackFrame) (s : ThreadedPlugin) : ThreadedPlugin :=
  { s with plugin := s.plugin.callback kind it.notification }.setStack t
    (.callback kind it.notification :: .dispatch kind it (called ++ [it]) :: rest)

/-- The locking of `_callbackLock`, and the first round of the loop. -/
def beginDispatch (t : ThreadId) (kind : NotificationKind) (rest : List StackFrame)
    (s : ThreadedPlugin) : Option ThreadedPlugin :=
  if s.callbackLock.Available t then
    match (s.nodes kind).head? with
    | none => some (s.setStack t rest)
    | some it =>
        some ({ s with callbackLock := s.callbackLock.lock t }.callAt t kind it [] rest)
  else
    none

/-- The next round, or the end of the loop. An iterator whose node was erased cannot be
incremented. -/
def continueDispatch (t : ThreadId) (kind : NotificationKind) (it : Node) (called : List Node)
    (rest : List StackFrame) (s : ThreadedPlugin) : Option ThreadedPlugin :=
  if it ∈ s.nodes kind then
    match next it (s.nodes kind) with
    | none => some ({ s with callbackLock := s.callbackLock.unlock }.setStack t rest)
    | some it => some (s.callAt t kind it called rest)
  else
    none

/-- The submit loop arrives at a node and submits the job for it. -/
def submitAt (t : ThreadId) (event : PreChangeEvent) (it : Node) (called : List Node)
    (rest : List StackFrame) (s : ThreadedPlugin) : ThreadedPlugin :=
  let jobs := s.plugin.preChangeJobs ++ [event.job it.notification]
  { s with plugin := { s.plugin with preChangeJobs := jobs } }.setStack t
    (.submit event it (called ++ [it]) :: rest)

/-- `SetPowerState` goes on after the loop. -/
def endSubmit (t : ThreadId) (rest : List StackFrame) (s : ThreadedPlugin) : ThreadedPlugin :=
  let call := s.plugin.call.map fun call => { call with phase := .submitted }
  { s with plugin := { s.plugin with call := call } }.setStack t rest

def beginSubmit (t : ThreadId) (event : PreChangeEvent) (rest : List StackFrame)
    (s : ThreadedPlugin) : ThreadedPlugin :=
  match (s.nodes .preModeChange).head? with
  | none => s.endSubmit t rest
  | some it => s.submitAt t event it [] rest

def continueSubmit (t : ThreadId) (event : PreChangeEvent) (it : Node) (called : List Node)
    (rest : List StackFrame) (s : ThreadedPlugin) : Option ThreadedPlugin :=
  if it ∈ s.nodes .preModeChange then
    match next it (s.nodes .preModeChange) with
    | none => some (s.endSubmit t rest)
    | some it => some (s.submitAt t event it called rest)
  else
    none

/-! ### The completion handler -/

/-- The function that called the lambda returns. -/
def leaveHandler (t : ThreadId) (context : HandlerContext) (h : Completion)
    (rest : List StackFrame) (s : ThreadedPlugin) : ThreadedPlugin :=
  match context with
  | .caller =>
      { s with plugin := s.plugin.returnFromCall h.newState (!h.isSync) }.setStack t rest
  | .ack => { s with apiLock := s.apiLock.unlock }.setStack t rest
  | .timer => s.setStack t rest

/-- The end of the lambda. -/
def endHandler (t : ThreadId) (context : HandlerContext) (h : Completion) (rest : List StackFrame)
    (s : ThreadedPlugin) : ThreadedPlugin :=
  let m := s.plugin.emit (.release h.transactionId)
  let m := if h.isSync then m.unlockSelf else m
  { s with plugin := m }.leaveHandler t context h rest

/-- The lambda, called and not aborted, up to its call of `dispatchPowerModeChangedEvent`. -/
def beginHandler (env : Env) (t : ThreadId) (context : HandlerContext) (h : Completion)
    (isTimedout : Bool) (rest : List StackFrame) (s : ThreadedPlugin) : ThreadedPlugin :=
  let m := s.plugin.emit (.completionHandler h.transactionId isTimedout false)
  let (errorCode, m) := m.storePowerState env h
  if errorCode ≠ .errorNone then
    { s with plugin := m }.endHandler t context h rest
  else
    { s with plugin := m.emit (.powerModeChanged h.transactionId h.currState h.newState) }.setStack
      t (.enterDispatch .modeChanged :: .handler context h :: rest)

/-- The rest of the lambda after the dispatch. -/
def finishHandler (env : Env) (t : ThreadId) (context : HandlerContext) (h : Completion)
    (rest : List StackFrame) (s : ThreadedPlugin) : ThreadedPlugin :=
  let m := if h.newState = .standbyDeepSleep then s.plugin.activateDeepSleep env else s.plugin
  { s with plugin := m }.endHandler t context h rest

/-! ### SetPowerState -/

/-- The next part of the `SetPowerState` call under way; `rest` is what lies below it. -/
def proceedCall (env : Env) (t : ThreadId) (call : Call) (rest : List StackFrame)
    (s : ThreadedPlugin) : Option ThreadedPlugin :=
  let advanced : ThreadedPlugin :=
    let m := s.plugin.advance env call
    { s with plugin := m }.setStack t (if m.call.isSome then .call :: rest else rest)
  match call.phase, s.plugin.modeChangeController with
  | .checked, _ => if s.apiLock.Available t then some advanced else none
  | .installed, some c =>
      some (s.beginSubmit t ⟨call.currState, call.newState, c.transactionId, call.timeOut⟩
        (.call :: rest))
  | .submitted, some c =>
      if c.completesAtOnce (call.timeOut * 1000) then
        some (s.beginHandler env t .caller (call.completion c) false rest)
      else
        some advanced
  | _, _ => some advanced

/-- The running function of the plugin performs its next part. -/
def proceed (env : Env) (t : ThreadId) (s : ThreadedPlugin) : Option ThreadedPlugin :=
  match s.threads t with
  | .awaitSelfLock newState origin :: rest =>
      if s.plugin.selfLock then
        none
      else
        some ({ s with plugin := s.plugin.lockSelf }.setStack t (.locked newState origin :: rest))
  | .locked newState origin :: rest =>
      if s.apiLock.Available t then
        let m := s.plugin.compareStates env newState origin
        some ({ s with plugin := m }.setStack t (if m.call.isSome then .call :: rest else rest))
      else
        none
  | .call :: rest => s.plugin.call.bind fun call => s.proceedCall env t call rest
  | .submit event it called :: rest => s.continueSubmit t event it called rest
  | .enterDispatch kind :: rest => s.beginDispatch t kind rest
  | .dispatch kind it called :: rest => s.continueDispatch t kind it called rest
  | .handler context h :: rest => some (s.finishHandler env t context h rest)
  | .deepSleepTimerWakeup stay :: rest =>
      some (s.setStack t (.awaitSelfLock .standbyLightSleep (.wakeup stay) :: rest))
  | .callback .. :: _ | [] => none

/-! ### Calls -/

/-- The rest of a method that called `Ack` on the stored controller. -/
def acknowledge (env : Env) (t : ThreadId) (c : PreModeChangeController)
    (handlerCall : Option (HandlerCall Completion)) (s : ThreadedPlugin) : ThreadedPlugin :=
  let s := { s with plugin := { s.plugin with modeChangeController := some c } }
  match handlerCall with
  | none => s
  | some handlerCall =>
      { s with apiLock := s.apiLock.lock t }.beginHandler env t .ack handlerCall.handler
        handlerCall.isTimedout (s.threads t)

def powerModePreChangeComplete (env : Env) (t : ThreadId) (clientId : ClientId)
    (transactionId : TransactionId) (s : ThreadedPlugin) : ThreadedPlugin :=
  match s.plugin.modeChangeController with
  | none => s
  | some c =>
      let (_, c, handlerCall) := c.ack clientId transactionId
      s.acknowledge env t c handlerCall

def removePowerModePreChangeClient (env : Env) (t : ThreadId) (clientId : ClientId)
    (s : ThreadedPlugin) : ThreadedPlugin :=
  if s.plugin.modeChangeClients.any fun client => client.1 = clientId then
    let s := { s with plugin := { s.plugin with
      modeChangeClients := s.plugin.modeChangeClients.filter fun client =>
        client.1 ≠ clientId } }
    match s.plugin.modeChangeController with
    | none => s
    | some c =>
        let (_, c, handlerCall) := c.ackClient clientId
        s.acknowledge env t c handlerCall
  else
    s

def register (kind : NotificationKind) (notification : Sink) (s : ThreadedPlugin) :
    ThreadedPlugin :=
  let (status, plugin) := s.plugin.register kind notification
  { s with
    plugin := plugin
    registrations :=
      if status = .errorNone then
        Function.update s.registrations kind (Function.update (s.registrations kind) notification
          (s.registrations kind notification + 1))
      else s.registrations }

def unregister (kind : NotificationKind) (notification : Sink) (s : ThreadedPlugin) :
    ThreadedPlugin :=
  { s with plugin := (s.plugin.unregister kind notification).2 }

/-- `SetWakeupSourceConfig` or `SetNetworkStandbyMode`, up to the dispatch of the event. -/
def wakeupCall (t : ThreadId) (env : WakeupEnv) (action : WakeupAction) (s : ThreadedPlugin) :
    ThreadedPlugin :=
  let w := (WakeupImplementation.perform env
    { controller := ⟨s.plugin.powerController, s.wakeupSrc⟩ } action).2
  let s := { s with
    plugin := { s.plugin with powerController := w.controller.powerController }
    wakeupSrc := w.controller.wakeupSrc }
  if w.events = [] then s else s.push t (.enterDispatch .networkStandbyModeChanged)

/-- A call of the method; it does not return before the locks it takes are available. -/
def callMethod (env : Env) (t : ThreadId) (s : ThreadedPlugin) :
    Method → Option ThreadedPlugin
  | .setPowerState newState => some (s.push t (.awaitSelfLock newState .client))
  | .reboot => some (s.push t (.enterDispatch .reboot))
  | .register kind notification =>
      if s.callbackLock.Available t then some (s.register kind notification) else none
  | .unregister kind notification =>
      if s.callbackLock.Available t then some (s.unregister kind notification) else none
  | method =>
      if s.apiLock.Available t then
        match method with
        | .wakeup env action => some (s.wakeupCall t env action)
        | .setDeepSleepTimer timeOut =>
            some { s with toStandbyPlugin := s.toStandbyPlugin.setDeepSleepTimer timeOut }
        | .powerModePreChangeComplete clientId transactionId =>
            some (s.powerModePreChangeComplete env t clientId transactionId)
        | .delayPowerModeChangeBy clientId transactionId delayPeriod =>
            some { s with plugin :=
              (s.plugin.delayPowerModeChangeBy env clientId transactionId delayPeriod).2 }
        | .addPowerModePreChangeClient clientName =>
            some { s with plugin := (s.plugin.addPowerModePreChangeClient clientName).2.2 }
        | .removePowerModePreChangeClient clientId =>
            some (s.removePowerModePreChangeClient env t clientId)
        | _ => some s
      else
        none

/-! ### Threads of the plugin -/

/-- A dispatched timer job, with the controller it leaves. -/
def runTimer (env : Env) (t : ThreadId) (handlerCall : Option (HandlerCall Completion))
    (s : ThreadedPlugin) : ThreadedPlugin :=
  match handlerCall with
  | none => s
  | some handlerCall => s.beginHandler env t .timer handlerCall.handler handlerCall.isTimedout []

/-- A thread in no function of the plugin enters it. -/
def enter (env : Env) (t : ThreadId) (s : ThreadedPlugin) : Entrance → Option ThreadedPlugin
  | .preChangeJob i =>
      s.plugin.preChangeJobs[i]?.map fun job =>
        let m := { s.plugin with preChangeJobs := s.plugin.preChangeJobs.eraseIdx i }
        { s with plugin := m.callback .preModeChange job.notification }.setStack t
          [.callback .preModeChange job.notification]
  | .timerDispatch => s.plugin.timerDispatch.map fun m => { s with plugin := m }
  | .timerRun =>
      (s.plugin.modeChangeController.bind AckController.timerRun).map fun (c, handlerCall) =>
        { s with plugin := { s.plugin with modeChangeController := some c } }.runTimer env t
          handlerCall
  | .cancelledDispatch i => (s.plugin.cancelledDispatch i).map fun m => { s with plugin := m }
  | .cancelledRun i =>
      (s.plugin.cancelledControllers[i]?.bind AckController.timerRun).map fun (c, handlerCall) =>
        let cs := s.plugin.cancelledControllers
        let cs := if c.dispatched = 0 then cs.eraseIdx i else cs.set i c
        { s with plugin := { s.plugin with cancelledControllers := cs } }.runTimer env t
          handlerCall
  | .wakeup i =>
      (s.plugin.takeWakeup i).map fun (newState, origin, m) =>
        { s with plugin := m }.setStack t [.awaitSelfLock newState origin]
  | .announce i =>
      let c := s.plugin.deepSleepController
      match c.entries[i]? with
      | some e =>
          if e.phase = .announce then
            let m := s.plugin.emit (.deepSleepTimeout c.deepSleepWakeupTimeoutSec)
            some ({ s with plugin := m.setEntries (c.entries.eraseIdx i) }.setStack t
              [.enterDispatch .deepSleepTimeout, .deepSleepTimerWakeup e.stay])
          else
            none
      | none => none
  | .sleep (.announce _) => none
  | .sleep action => (s.plugin.sleepStep env action).map fun m => { s with plugin := m }
  | .thermalModeChanged => some (s.setStack t [.enterDispatch .thermalModeChanged])

end ThreadedPlugin

/-- One step of the thread, in the given environment. -/
def threadStep (s : ThreadedPlugin) : Env × ThreadId × ThreadAction → Option ThreadedPlugin
  | (env, t, .call method) =>
      match s.threads t with
      | [] | .callback _ _ :: _ => s.callMethod env t method
      | _ => none
  | (_, t, .returns) =>
      match s.threads t with
      | .callback _ _ :: rest => some (s.setStack t rest)
      | _ => none
  | (env, t, .proceed) => s.proceed env t
  | (env, t, .enter entrance) => if s.threads t = [] then s.enter env t entrance else none

end DeviceAndDisplay.PowerManager
