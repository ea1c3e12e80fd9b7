import DeviceAndDisplay.Transition.Run
import DeviceAndDisplay.Model.PowerManager.Interleaving
import DeviceAndDisplay.Verification.PowerManager.AckController
import DeviceAndDisplay.Verification.PowerManager.Equations
import DeviceAndDisplay.Verification.PowerManager.Atomic
import DeviceAndDisplay.Verification.PowerManager.LastRequest
import DeviceAndDisplay.Verification.PowerManager.Coherent
import DeviceAndDisplay.Verification.PowerManager.Superseded
import DeviceAndDisplay.Verification.PowerManager.Retry
import DeviceAndDisplay.Verification.PowerManager.Balance
import DeviceAndDisplay.Verification.PowerManager.DeepSleep
import DeviceAndDisplay.Verification.PowerManager.SleepCalls
import DeviceAndDisplay.Verification.PowerManager.Latch
import DeviceAndDisplay.Verification.PowerManager.StaleWakeup
import DeviceAndDisplay.Verification.PowerManager.Quiescence
import DeviceAndDisplay.Verification.PowerManager.ScheduleWindow
import DeviceAndDisplay.Verification.PowerManager.Listeners
import DeviceAndDisplay.Verification.PowerManager.Clients
import DeviceAndDisplay.Verification.PowerManager.EventChain
import DeviceAndDisplay.Model.PowerManager.WakeupSources
import DeviceAndDisplay.Verification.PowerManager.WakeupSources
import DeviceAndDisplay.Verification.PowerManager.NetworkStandby
import DeviceAndDisplay.Model.PowerManager.SettingsFile
import DeviceAndDisplay.Verification.PowerManager.SettingsFile
import DeviceAndDisplay.Verification.PowerManager.PowerSync
import DeviceAndDisplay.Model.PowerManager.ThermalController
import DeviceAndDisplay.Model.SystemMode.SystemModeImplementation
import DeviceAndDisplay.Verification.PowerManager.OverTemperature
import DeviceAndDisplay.Verification.SystemMode.Entries
import DeviceAndDisplay.Verification.SystemMode.Callsigns
import DeviceAndDisplay.Model.PowerManager.CallStacks
import DeviceAndDisplay.Verification.PowerManager.CallStacks
import DeviceAndDisplay.Verification.PowerManager.Reentrancy
import DeviceAndDisplay.Verification.PowerManager.SilentListeners
import DeviceAndDisplay.Model.DisplayInfo.Edid
import DeviceAndDisplay.Verification.DisplayInfo.Edid
import DeviceAndDisplay.Model.SystemServices.NetworkStandbyMode
import DeviceAndDisplay.Verification.SystemServices.NetworkStandbyMode
import DeviceAndDisplay.Model.SystemServices.LogUpload
import DeviceAndDisplay.Verification.SystemServices.LogUpload
import DeviceAndDisplay.Model.Helpers.Settings
import DeviceAndDisplay.Model.SystemServices.ModeTimer
import DeviceAndDisplay.Verification.Helpers.Settings
import DeviceAndDisplay.Verification.SystemServices.ModeTimer
import DeviceAndDisplay.Model.FrameRate.Statistics
import DeviceAndDisplay.Model.SystemServices.Territory
import DeviceAndDisplay.Model.UserPreferences.UiLanguage
import DeviceAndDisplay.Verification.FrameRate.Statistics
import DeviceAndDisplay.Verification.SystemMode.Clients
import DeviceAndDisplay.Verification.SystemServices.Territory
import DeviceAndDisplay.Verification.UserPreferences.UiLanguage
import DeviceAndDisplay.Model.DisplaySettings.Arc
import DeviceAndDisplay.Model.DisplaySettings.DisplayCache
import DeviceAndDisplay.Model.DisplaySettings.MessageQueue
import DeviceAndDisplay.Model.Helpers.JsonRpcInterface
import DeviceAndDisplay.Model.SystemServices.PlatformCaps
import DeviceAndDisplay.Verification.DisplaySettings.ArcAnswers
import DeviceAndDisplay.Verification.DisplaySettings.ArcDisabling
import DeviceAndDisplay.Verification.DisplaySettings.ArcNotifications
import DeviceAndDisplay.Verification.DisplaySettings.ArcUnrouting
import DeviceAndDisplay.Verification.DisplaySettings.DisplayCache
import DeviceAndDisplay.Verification.DisplaySettings.MessageQueue
import DeviceAndDisplay.Verification.Helpers.JsonRpcInterface
import DeviceAndDisplay.Verification.SystemServices.PlatformCaps
import DeviceAndDisplay.Model.PowerManager.Declocking
import DeviceAndDisplay.Model.PowerManager.PowerImpl
import DeviceAndDisplay.Model.PowerManager.ThermalConfig
import DeviceAndDisplay.Verification.PowerManager.Assertions
import DeviceAndDisplay.Verification.PowerManager.Deadlines
import DeviceAndDisplay.Verification.PowerManager.Declocking
import DeviceAndDisplay.Verification.PowerManager.LoadTotal
import DeviceAndDisplay.Verification.PowerManager.RepeatedActivation
import DeviceAndDisplay.Verification.PowerManager.ThermalConfig
import DeviceAndDisplay.Verification.PowerManager.WakeupFailures
import DeviceAndDisplay.Model.Helpers.PropertyFile
import DeviceAndDisplay.Model.Helpers.SearchFiles
import DeviceAndDisplay.Model.PowerManager.RebootController
import DeviceAndDisplay.Model.PowerManager.WakeupTime
import DeviceAndDisplay.Model.SystemServices.FirmwareUpdate
import DeviceAndDisplay.Model.Warehouse.LightReset
import DeviceAndDisplay.Pattern.Glob
import DeviceAndDisplay.Transition.Acyclic
import DeviceAndDisplay.Verification.Helpers.ExpandProperties
import DeviceAndDisplay.Verification.Helpers.PathPatterns
import DeviceAndDisplay.Verification.Helpers.SearchFiles
import DeviceAndDisplay.Verification.PowerManager.RebootThresholds
import DeviceAndDisplay.Verification.PowerManager.WakeupTime
import DeviceAndDisplay.Verification.SystemMode.Frame
import DeviceAndDisplay.Verification.SystemServices.DownloadPipeline
import DeviceAndDisplay.Verification.Warehouse.LightReset
import DeviceAndDisplay.Model.Helpers.ImageEncoder
import DeviceAndDisplay.Storage.Base64
import DeviceAndDisplay.Verification.FrameRate.Notifications
import DeviceAndDisplay.Verification.Helpers.ImageEncoder
import DeviceAndDisplay.Verification.UserPreferences.LanguageCodes
import DeviceAndDisplay.Model.DeviceDiagnostics.Configuration
import DeviceAndDisplay.Model.SystemServices.Blocklist
import DeviceAndDisplay.Model.SystemServices.TimeZone
import DeviceAndDisplay.Transition.Exception
import DeviceAndDisplay.Verification.DeviceDiagnostics.Configuration
import DeviceAndDisplay.Verification.DeviceDiagnostics.Rendering
import DeviceAndDisplay.Verification.DisplaySettings.ArcDetection
import DeviceAndDisplay.Verification.SystemServices.Blocklist
import DeviceAndDisplay.Verification.SystemServices.DcmSettings
import DeviceAndDisplay.Verification.SystemServices.TimeZone
import DeviceAndDisplay.Model.DeviceInfo.DeviceInfo
import DeviceAndDisplay.Model.DisplaySettings.NumericSettings
import DeviceAndDisplay.Model.DisplaySettings.SoundMode
import DeviceAndDisplay.Model.Helpers.Synchro
import DeviceAndDisplay.Verification.DeviceInfo.Addresses
import DeviceAndDisplay.Verification.DeviceInfo.DeviceTypes
import DeviceAndDisplay.Verification.DisplaySettings.ArcEnabling
import DeviceAndDisplay.Verification.DisplaySettings.NumericSettings
import DeviceAndDisplay.Verification.DisplaySettings.PortEvents
import DeviceAndDisplay.Verification.DisplaySettings.PowerPolling
import DeviceAndDisplay.Verification.DisplaySettings.SoundModeTermination
import DeviceAndDisplay.Verification.Helpers.Synchro
import DeviceAndDisplay.Verification.SystemServices.PluginRegistries
import DeviceAndDisplay.Model.DisplayInfo.KmsSetup
import DeviceAndDisplay.Model.DisplaySettings.Mute
import DeviceAndDisplay.Model.Helpers.FrontPanel
import DeviceAndDisplay.Model.Helpers.MoveFile
import DeviceAndDisplay.Model.Helpers.PluginInterfaceRef
import DeviceAndDisplay.Model.SystemServices.PlatformQuery
import DeviceAndDisplay.Model.SystemServices.PropertiesFile
import DeviceAndDisplay.Storage.Selection
import DeviceAndDisplay.Transition.Ownership
import DeviceAndDisplay.Verification.DisplayInfo.DRMConnector
import DeviceAndDisplay.Verification.DisplayInfo.KmsSetup
import DeviceAndDisplay.Verification.DisplaySettings.MuteEvents
import DeviceAndDisplay.Verification.Helpers.FrontPanel
import DeviceAndDisplay.Verification.Helpers.MoveFile
import DeviceAndDisplay.Verification.Helpers.PluginInterfaceRef
import DeviceAndDisplay.Verification.SystemServices.DeviceProperties
import DeviceAndDisplay.Verification.SystemServices.PlatformQuery
import DeviceAndDisplay.Verification.SystemServices.PropertiesFile
import DeviceAndDisplay.Model.DeviceDiagnostics.DecoderStatus
import DeviceAndDisplay.Model.DisplayInfo.DisplayUpdates
import DeviceAndDisplay.Model.PowerManager.ThermalLevels
import DeviceAndDisplay.Model.SystemServices.WakeupConfiguration
import DeviceAndDisplay.Model.Warehouse.IsClean
import DeviceAndDisplay.Transition.Changes
import DeviceAndDisplay.Transition.Consent
import DeviceAndDisplay.Verification.DeviceDiagnostics.DecoderStatus
import DeviceAndDisplay.Verification.DisplayInfo.DisplayUpdates
import DeviceAndDisplay.Verification.DisplaySettings.SoundModeReading
import DeviceAndDisplay.Verification.PowerManager.Consent
import DeviceAndDisplay.Verification.PowerManager.ThermalEscalation
import DeviceAndDisplay.Verification.SystemServices.FirmwareUpdate
import DeviceAndDisplay.Verification.SystemServices.ThermalEvents
import DeviceAndDisplay.Verification.SystemServices.TimeZoneList
import DeviceAndDisplay.Verification.SystemServices.WakeupConfiguration
import DeviceAndDisplay.Verification.Warehouse.IsClean
import DeviceAndDisplay.Verification.Warehouse.Reset
import DeviceAndDisplay.Model.DisplaySettings.Allm
import DeviceAndDisplay.Model.PowerManager.ClockSpeeds
import DeviceAndDisplay.Verification.DisplaySettings.Allm
import DeviceAndDisplay.Verification.PowerManager.ClockSpeeds
