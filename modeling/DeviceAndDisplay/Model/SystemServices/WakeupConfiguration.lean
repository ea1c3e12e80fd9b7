import DeviceAndDisplay.Model.Helpers.Settings
import DeviceAndDisplay.Model.PowerManager.WakeupSources

/-! # Wake-up configurations

`setWakeupSrcConfiguration` and `setNetworkStandbyMode` of SystemServices, with PowerManager, which
has other clients, too. -/

namespace DeviceAndDisplay.SystemServices

open Helpers PowerManager

/-- The source strings in the order of the comparisons. -/
def wakeupSrcStrings : List (Text × WakeupSrcType) :=
  [("WAKEUPSRC_VOICE".toList, .voice),
    ("WAKEUPSRC_PRESENCE_DETECTION".toList, .presenceDetected),
    ("WAKEUPSRC_BLUETOOTH".toList, .bluetooth), ("WAKEUPSRC_WIFI".toList, .wifi),
    ("WAKEUPSRC_IR".toList, .ir), ("WAKEUPSRC_POWER_KEY".toList, .powerKey),
    ("WAKEUPSRC_TIMER".toList, .timer), ("WAKEUPSRC_CEC".toList, .cec),
    ("WAKEUPSRC_LAN".toList, .lan), ("WAKEUPSRC_RF4CE".toList, .rf4ce)]

/-- `conv`. -/
def conv (wakeupSrc : Text) : WakeupSrcType :=
  let src := wakeupSrc.map Char.toUpper
  match wakeupSrcStrings.find? fun entry => src = entry.1 with
  | some entry => entry.2
  | none => .unknown

/-- An entry of an object in `wakeupSources`; `boolean` is what `Boolean()` gives for its value. -/
structure WakeupVariant where
  label : Text
  isNull : Bool
  boolean : Bool
deriving DecidableEq, Repr

/-- The configuration of an entry, unless it is passed over. -/
def WakeupVariant.config (entry : WakeupVariant) : Option WakeupSourceConfig :=
  let wakeupSrc := conv entry.label
  if wakeupSrc = .unknown ∨ entry.isNull = true then none
  else some { wakeupSource := wakeupSrc, enabled := entry.boolean }

/-- `configs`, from the objects of the array in their order; the entries of an object are in the
order in which its iterator visits them. -/
def wakeupConfigs (wakeupSources : List (List WakeupVariant)) : List WakeupSourceConfig :=
  wakeupSources.flatMap fun wakeupSrc => wakeupSrc.filterMap WakeupVariant.config

/-- `setWakeupSrcConfiguration` with the success that it returns; without the parameter
`wakeupSources` nothing is done. -/
def setWakeupSrcConfiguration (env : WakeupEnv) (wakeupSources : Option (List (List WakeupVariant)))
    (m : WakeupImplementation) : Bool × WakeupImplementation :=
  let configs := (wakeupSources.map wakeupConfigs).getD []
  if configs = [] then (false, m)
  else
    let (errorCode, m) := m.setWakeupSources env configs
    (errorCode = .errorNone, m)

inductive WakeupRequest where
  | setWakeupSrcConfiguration (wakeupSources : Option (List (List WakeupVariant)))
  /-- SystemServices or another client sets the mode. -/
  | setNetworkStandbyMode (standbyMode : Bool)
  /-- Another client sets the sources. -/
  | setWakeupSourceConfig (wakeupSources : List WakeupSourceConfig)
deriving DecidableEq, Repr

def wakeupRequestStep (m : WakeupImplementation) : WakeupEnv × WakeupRequest →
    Option WakeupImplementation
  | (env, .setWakeupSrcConfiguration wakeupSources) =>
      some (setWakeupSrcConfiguration env wakeupSources m).2
  | (env, .setNetworkStandbyMode standbyMode) => some (m.setNetworkStandbyMode env standbyMode).2
  | (env, .setWakeupSourceConfig wakeupSources) => some (m.setWakeupSources env wakeupSources).2

end DeviceAndDisplay.SystemServices
