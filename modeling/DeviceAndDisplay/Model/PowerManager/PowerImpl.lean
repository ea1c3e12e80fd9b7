import DeviceAndDisplay.Model.PowerManager.SettingsFile
import DeviceAndDisplay.Model.PowerManager.WakeupSources

/-! # Wake-up sources in PowerImpl

The conversions of `PowerImpl` between the platform's types and those of the interface, and over
them the methods of `PowerController` that set wake-up sources and store the network standby mode
in the settings file. -/

namespace DeviceAndDisplay.PowerManager

/-- The values of `pmStatus_t`: success is zero and the others are positive. The conversion uses
them as labels of one `switch`, so they are distinct. -/
structure PmStatusCodes where
  success : ℤ
  invalidArgument : ℤ
  alreadyInitialized : ℤ
  notInitialized : ℤ
  initFailure : ℤ
  setFailure : ℤ
  getFailure : ℤ
  operationNotSupported : ℤ
  termFailure : ℤ
  max : ℤ
  distinct : [invalidArgument, alreadyInitialized, notInitialized, initFailure, setFailure,
    getFailure, operationNotSupported, termFailure, max].Nodup
  success_eq : success = 0
  positive : ∀ code ∈ [invalidArgument, alreadyInitialized, notInitialized, initFailure, setFailure,
    getFailure, operationNotSupported, termFailure, max], 0 < code

/-- The error codes that `PowerImpl` returns. -/
inductive PlatformError where
  | errorNone
  | errorGeneral
  | errorInvalidParameter
  | errorIllegalState
  | errorWriteError
  | errorReadError
deriving DecidableEq, Repr

/-- `PWRMGR_WakeupSrcType_t`. -/
inductive PlatWakeupSrc where
  | voice
  | presenceDetection
  | bluetooth
  | wifi
  | ir
  | powerKey
  | timer
  | cec
  | lan
  | max
deriving DecidableEq, Repr

/-- An entry of the list of sources, with the `pmStatus_t` that the platform answers for it. -/
structure WakeupEntry where
  config : WakeupSourceConfig
  result : ℤ
deriving DecidableEq, Repr

/-- The sources that the platform has enabled. -/
abbrev PlatSources := PlatWakeupSrc → Bool

namespace PowerImpl

/-- `conv(WakeupSrcType)`. -/
def convSource : WakeupSrcType → PlatWakeupSrc
  | .voice => .voice
  | .presenceDetected => .presenceDetection
  | .bluetooth => .bluetooth
  | .wifi => .wifi
  | .ir => .ir
  | .powerKey => .powerKey
  | .timer => .timer
  | .cec => .cec
  | .lan => .lan
  | .rf4ce | .unknown => .max

/-- `conv(pmStatus_t)`. -/
def convStatus (codes : PmStatusCodes) (result : ℤ) : PlatformError :=
  if result < 0 then .errorGeneral
  else if result = codes.success then .errorNone
  else if result = codes.invalidArgument then .errorInvalidParameter
  else if result = codes.notInitialized then .errorIllegalState
  else if result = codes.setFailure then .errorWriteError
  else if result = codes.getFailure then .errorReadError
  else .errorGeneral

/-- `SetWakeupSrc`: the error code and the flag `supported`, with the sources after the call. A call
of the platform that fails leaves its source as it is. -/
def setWakeupSrc (codes : PmStatusCodes) (entry : WakeupEntry) (sources : PlatSources) :
    PlatformError × Bool × PlatSources :=
  let sources :=
    if entry.result = codes.success then
      Function.update sources (convSource entry.config.wakeupSource) entry.config.enabled
    else
      sources
  (convStatus codes entry.result, !decide (entry.result > 0), sources)

/-- One round of the loop of `PowerController::SetWakeupSourceConfig`: a failure is latched. -/
def latch (codes : PmStatusCodes) (state : Bool × PlatSources) (entry : WakeupEntry) :
    Bool × PlatSources :=
  let (result, supported, sources) := setWakeupSrc codes entry state.2
  (if result ≠ .errorNone ∧ supported = true then true else state.1, sources)

/-- `PowerController::SetWakeupSourceConfig`. -/
def setWakeupSourceConfig (codes : PmStatusCodes) (entries : List WakeupEntry)
    (sources : PlatSources) : ErrorCode × PlatSources :=
  let (failed, sources) := entries.foldl (latch codes) (false, sources)
  (if failed then .errorGeneral else .errorNone, sources)

end PowerImpl

/-! ### The stored network standby mode -/

/-- What one call reads from outside: the platform's answers for the two network sources, and how
the system calls on the settings files turn out. -/
structure StandbyEnv where
  wifi : ℤ
  lan : ℤ
  io : Path → FileAccess := fun _ => {}

/-- `PowerController` with its settings, their file and the platform's sources. -/
structure StandbyController where
  settings : PersistentSettings
  store : SettingsStore
  sources : PlatSources

namespace StandbyController

/-- `GetNetworkStandbyMode`. -/
def getNetworkStandbyMode (c : StandbyController) : ErrorCode × Bool :=
  (.errorNone, c.settings.nwStandbyMode)

/-- The two sources that `SetNetworkStandbyMode` sets. -/
def networkEntries (env : StandbyEnv) (standbyMode : Bool) : List WakeupEntry :=
  [⟨⟨.wifi, standbyMode⟩, env.wifi⟩, ⟨⟨.lan, standbyMode⟩, env.lan⟩]

/-- `SetNetworkStandbyMode`. -/
def setNetworkStandbyMode (codes : PmStatusCodes) (p : PlatPower) (env : StandbyEnv)
    (standbyMode : Bool) (c : StandbyController) : ErrorCode × StandbyController :=
  if standbyMode = c.settings.nwStandbyMode then
    (.errorNone, c)
  else
    let (errorCode, sources) :=
      PowerImpl.setWakeupSourceConfig codes (networkEntries env standbyMode) c.sources
    let c := { c with sources := sources }
    if errorCode = .errorNone then
      let settings := c.settings.setNwStandbyMode standbyMode
      let (ok, store) := settings.save p env.io .opt c.store
      (if ok then .errorNone else .errorGeneral, { c with settings := settings, store := store })
    else
      (errorCode, c)

/-- The mode that the settings file stands for, if it can be decoded. -/
def persistedMode (p : PlatPower) (c : StandbyController) : Option Bool :=
  (PersistentSettings.parse p (c.store.opt.getD [])).map fun s => s.nwStandbyMode

end StandbyController

end DeviceAndDisplay.PowerManager
