import DeviceAndDisplay.Model.PowerManager.Interleaving
import DeviceAndDisplay.Model.PowerManager.PowerController
import Mathlib.Logic.Function.Basic

/-! # Wake-up sources and network standby

The methods of `PowerController` and of `PowerManagerImplementation` that set the platform's
wake-up sources and the network standby mode, which both APIs change. -/

namespace DeviceAndDisplay.PowerManager

/-- `IPowerManager::WakeupSrcType`. -/
inductive WakeupSrcType where
  | unknown
  | voice
  | presenceDetected
  | bluetooth
  | wifi
  | ir
  | powerKey
  | timer
  | cec
  | lan
  | rf4ce
deriving DecidableEq, Repr

/-- `IPowerManager::WakeupSourceConfig`. -/
structure WakeupSourceConfig where
  wakeupSource : WakeupSrcType
  enabled : Bool
deriving DecidableEq, Repr

/-- A `pmStatus_t`, as far as `PowerImpl` tells its values apart for a wake-up source. -/
inductive PmStatus where
  | success
  /-- A positive status: the source counts as not supported. -/
  | positive
  /-- A negative status: the request failed. -/
  | negative
deriving DecidableEq, Repr

/-- What one call reads from outside: the platform's answers for each source, and whether the
settings file is written. -/
structure WakeupEnv where
  setWakeupSrc : WakeupSrcType → PmStatus := fun _ => .success
  getWakeupSrc : WakeupSrcType → PmStatus := fun _ => .success
  saves : Bool := true

/-- `PowerController` with the sources its platform has enabled. -/
structure WakeupController where
  powerController : PowerController
  wakeupSrc : WakeupSrcType → Bool

namespace WakeupController

/-- `platform().SetWakeupSrc`. -/
def setWakeupSrc (env : WakeupEnv) (config : WakeupSourceConfig) (c : WakeupController) :
    PmStatus × WakeupController :=
  match env.setWakeupSrc config.wakeupSource with
  | .success => (.success, { c with
      wakeupSrc := Function.update c.wakeupSrc config.wakeupSource config.enabled })
  | status => (status, c)

/-- `SetWakeupSourceConfig`: sources that are not supported are passed over, a failure is
latched. -/
def setWakeupSourceConfig (env : WakeupEnv) (configs : List WakeupSourceConfig)
    (c : WakeupController) : ErrorCode × WakeupController :=
  let (failed, c) := configs.foldl (fun (failed, c) config =>
    let (status, c) := c.setWakeupSrc env config
    (failed || decide (status = .negative), c)) (false, c)
  (if failed then .errorGeneral else .errorNone, c)

/-- The sources `GetWakeupSourceConfig` asks for, in its order. -/
def wakeupSources : List WakeupSrcType :=
  [.voice, .presenceDetected, .bluetooth, .wifi, .ir, .powerKey, .timer, .cec, .lan, .rf4ce]

/-- `GetWakeupSourceConfig`. -/
def getWakeupSourceConfig (env : WakeupEnv) (c : WakeupController) :
    ErrorCode × List WakeupSourceConfig :=
  (if wakeupSources.any fun src => env.getWakeupSrc src = .negative then .errorGeneral
    else .errorNone,
   (wakeupSources.filter fun src => env.getWakeupSrc src = .success).map fun src =>
    ⟨src, c.wakeupSrc src⟩)

/-- The two sources that network standby consists of. -/
def networkConfigs (standbyMode : Bool) : List WakeupSourceConfig :=
  [⟨.wifi, standbyMode⟩, ⟨.lan, standbyMode⟩]

def nwStandbyMode (c : WakeupController) : Bool := c.powerController.settings.nwStandbyMode

def setNwStandbyMode (standbyMode : Bool) (c : WakeupController) : WakeupController :=
  { c with powerController := { c.powerController with
      settings := { c.powerController.settings with nwStandbyMode := standbyMode } } }

/-- `SetNetworkStandbyMode`; the mode is stored before it is known whether the file can be
written. -/
def setNetworkStandbyMode (env : WakeupEnv) (standbyMode : Bool) (c : WakeupController) :
    ErrorCode × WakeupController :=
  if standbyMode = c.nwStandbyMode then
    (.errorNone, c)
  else
    let (errorCode, c) := c.setWakeupSourceConfig env (networkConfigs standbyMode)
    if errorCode = .errorNone then
      (if env.saves then .errorNone else .errorGeneral, c.setNwStandbyMode standbyMode)
    else
      (errorCode, c)

/-- The constructor sets both network sources to the stored mode. -/
def create (env : WakeupEnv) (powerController : PowerController)
    (wakeupSrc : WakeupSrcType → Bool) : WakeupController :=
  (setWakeupSourceConfig env (networkConfigs powerController.settings.nwStandbyMode)
    { powerController := powerController, wakeupSrc := wakeupSrc }).2

end WakeupController

/-- `PowerManagerImplementation`, with the `OnNetworkStandbyModeChanged` events it has
dispatched, newest first. -/
structure WakeupImplementation where
  controller : WakeupController
  events : List Bool := []

namespace WakeupImplementation

/-- `GetNetworkStandbyMode`. -/
def getNetworkStandbyMode (m : WakeupImplementation) : ErrorCode × Bool :=
  (.errorNone, m.controller.nwStandbyMode)

/-- `SetNetworkStandbyMode`: the event is dispatched whenever the controller reports success. -/
def setNetworkStandbyMode (env : WakeupEnv) (standbyMode : Bool) (m : WakeupImplementation) :
    ErrorCode × WakeupImplementation :=
  let (errorCode, controller) := m.controller.setNetworkStandbyMode env standbyMode
  (errorCode, { controller := controller
                events := if errorCode = .errorNone then standbyMode :: m.events else m.events })

def isWakeupSrcEnabled (configs : List WakeupSourceConfig) (src : WakeupSrcType) : Bool :=
  match configs.find? fun config => config.wakeupSource = src with
  | none => false
  | some config => config.enabled

/-- `setWakeupSourceConfig`: after the request, the mode follows the two network sources if they
agree. -/
def setWakeupSourceConfig (env : WakeupEnv) (configs : List WakeupSourceConfig)
    (m : WakeupImplementation) : ErrorCode × WakeupImplementation :=
  let (errorCode, controller) := m.controller.setWakeupSourceConfig env configs
  let m := { m with controller := controller }
  if errorCode ≠ .errorNone then
    (errorCode, m)
  else
    let (errorCode, currConfigs) := m.controller.getWakeupSourceConfig env
    if errorCode ≠ .errorNone then
      (errorCode, m)
    else
      let isWiFiEnabled := isWakeupSrcEnabled currConfigs .wifi
      let isLanEnabled := isWakeupSrcEnabled currConfigs .lan
      if isWiFiEnabled ≠ isLanEnabled then
        (.errorNone, m)
      else
        let nwStandbyMode := isWiFiEnabled && isLanEnabled
        if nwStandbyMode = m.getNetworkStandbyMode.2 then
          (.errorNone, m)
        else
          m.setNetworkStandbyMode env nwStandbyMode

/-- The loop of `SetWakeupSourceConfig` over the iterator. -/
def readConfigs : List WakeupSourceConfig → ErrorCode × List WakeupSourceConfig
  | [] => (.errorNone, [])
  | config :: rest =>
      if config.wakeupSource = .unknown then
        (.errorInvalidParameter, [])
      else
        let (errorCode, configs) := readConfigs rest
        (errorCode, config :: configs)

/-- `SetWakeupSourceConfig`. -/
def setWakeupSources (env : WakeupEnv) (wakeupSources : List WakeupSourceConfig)
    (m : WakeupImplementation) : ErrorCode × WakeupImplementation :=
  let (errorCode, configs) := readConfigs wakeupSources
  if errorCode = .errorNone then m.setWakeupSourceConfig env configs else (errorCode, m)

end WakeupImplementation

inductive WakeupAction where
  | setWakeupSourceConfig (wakeupSources : List WakeupSourceConfig)
  | setNetworkStandbyMode (standbyMode : Bool)
deriving DecidableEq, Repr

/-- One call, with the error code it returns. -/
def WakeupImplementation.perform (env : WakeupEnv) (m : WakeupImplementation) :
    WakeupAction → ErrorCode × WakeupImplementation
  | .setWakeupSourceConfig wakeupSources => m.setWakeupSources env wakeupSources
  | .setNetworkStandbyMode standbyMode => m.setNetworkStandbyMode env standbyMode

def wakeupStep (m : WakeupImplementation) : WakeupEnv × WakeupAction →
    Option WakeupImplementation
  | (env, a) => some (m.perform env a).2

end DeviceAndDisplay.PowerManager

/-! ## API calls that change the settings

`SetNetworkStandbyMode` and `SetDeepSleepTimer`, interleaved with the steps of the plugin. Both
hold `_apiLock` around the one call of `PowerController` they make. -/

namespace DeviceAndDisplay.PowerManager

/-- `PowerController::SetDeepSleepTimer`; `SetTimeout` takes a `uint32_t`. -/
def PowerController.setDeepSleepTimer (timeOut : ℤ) (c : PowerController) : PowerController :=
  { c with
    isDeepSleepTimeoutSet := true
    settings := { c.settings with deepSleepTimeout := (UInt32.ofInt timeOut).toNat } }

/-- The plugin and the wake-up sources that its platform has enabled. -/
structure StandbyPlugin where
  plugin : Implementation
  wakeupSrc : WakeupSrcType → Bool

namespace StandbyPlugin

/-- `PowerManagerImplementation::SetDeepSleepTimer`: more than a day counts as zero. -/
def setDeepSleepTimer (timeOut : ℤ) (s : StandbyPlugin) : StandbyPlugin :=
  let timeOutVal := if timeOut > 86400 then 0 else timeOut
  { s with plugin := { s.plugin with
      powerController := s.plugin.powerController.setDeepSleepTimer timeOutVal } }

/-- `PowerManagerImplementation::SetNetworkStandbyMode` up to its event. -/
def setNetworkStandbyMode (env : WakeupEnv) (standbyMode : Bool) (s : StandbyPlugin) :
    StandbyPlugin :=
  let c := (WakeupController.setNetworkStandbyMode env standbyMode
    { powerController := s.plugin.powerController, wakeupSrc := s.wakeupSrc }).2
  { plugin := { s.plugin with powerController := c.powerController }
    wakeupSrc := c.wakeupSrc }

end StandbyPlugin

inductive StandbyAction where
  | plugin (env : Env) (action : Action)
  | setNetworkStandbyMode (env : WakeupEnv) (standbyMode : Bool)
  | setDeepSleepTimer (timeOut : ℤ)

def standbyStep (s : StandbyPlugin) : StandbyAction → Option StandbyPlugin
  | .plugin env action => (step s.plugin (env, action)).map fun m => { s with plugin := m }
  | .setNetworkStandbyMode env standbyMode => some (s.setNetworkStandbyMode env standbyMode)
  | .setDeepSleepTimer timeOut => some (s.setDeepSleepTimer timeOut)

/-- The call of `PowerController::ActivateDeepSleep` that an action makes: the stay in deep sleep
it is made for, and the value of `Settings::nwStandbyMode()` when it is made. -/
def activation (s : StandbyPlugin) (a : StandbyAction) : Option (ℕ × Bool) :=
  (standbyStep s a).bind fun t =>
    if s.plugin.deepSleepController.activateJobs.length <
        t.plugin.deepSleepController.activateJobs.length then
      some (t.plugin.stay, s.plugin.powerController.settings.nwStandbyMode)
    else none

end DeviceAndDisplay.PowerManager
