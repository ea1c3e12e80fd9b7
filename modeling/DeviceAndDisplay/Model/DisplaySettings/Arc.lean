import DeviceAndDisplay.Model.Helpers.Settings
import DeviceAndDisplay.Model.PowerManager.Types
import Mathlib.Data.Int.Notation
import Mathlib.Data.List.Infix
import Mathlib.Logic.Function.Basic

/-! # ARC and eARC

What the CEC events, hot-plugs, power changes, timers and API calls do with the port `HDMI_ARC0`. -/

namespace DeviceAndDisplay.DisplaySettings

open Helpers
open PowerManager (PowerState)

/-! ### Values -/

/-- `dsAudioARCTypes_t` -/
inductive AudioARCType where
  | none
  | arc
  | eARC
deriving DecidableEq, Repr

inductive ArcState where
  | requestArcInitiation
  | arcInitiated
  | requestArcTermination
  | arcTerminated
  | arcExit
deriving DecidableEq, Repr

inductive AudioDevicePowerState where
  | unknown
  | request
  | standby
  | on
deriving DecidableEq, Repr

inductive AudioDeviceSADState where
  | unknown
  | requested
  | received
  | updated
  | cleared
deriving DecidableEq, Repr

inductive ArcEarcConnection where
  | disconnected
  | connected
deriving DecidableEq, Repr

/-- `device::AudioStereoMode` -/
inductive AudioStereoMode where
  | mono
  | stereo
  | surround
  | passThru
  | dd
  | ddPlus
deriving DecidableEq, Repr

/-- `device::AudioOutputPortType` -/
inductive AudioOutputPortType where
  | hdmi
  | arc
  | spdif
  | headphone
  | other
deriving DecidableEq, Repr

/-- `dsAudioPortType_t` -/
inductive AudioPortType where
  | hdmiArc
  | headphone
  | other
deriving DecidableEq, Repr

/-- The messages that `sendMsgToQueue` is called with. -/
inductive ArcMessage where
  | sendAudioDevicePowerOnMsg
  | requestShortAudioDescriptor
  | requestAudioDevicePowerStatus
  | sendDeviceAudioStatus
  | sendMuteKeyEvent
  | sendRequestArcInitiation
deriving DecidableEq, Repr

inductive ArcTimer where
  | timer
  | audioDeviceDetectTimer
  | sadDetectionTimer
  | arcDetectionTimer
  | audioDevicePowerOnStatusTimer
deriving DecidableEq, Repr

/-- The functions of the device settings library that are called. -/
inductive HalCall where
  | getAudioOutputPorts
  | getAudioOutputPort
  | getType
  | isConnected
  | getSupportedARCTypes
  | getEnablePersist
  | setEnablePersist
  | setEnablePort
  | getHdmiArcPortId
  | isMuted
  | setMuted
  | getStereoMode
  | setStereoMode
  | getStereoAuto
  | setStereoAuto
  | setSAD
  | enableARC
deriving DecidableEq, Repr

def hdmiArc0 : Text := "HDMI_ARC0".toList

/-- What one step reads from outside. -/
structure ArcEnv where
  /-- The calls that throw a `device::Exception`. -/
  throws : HalCall → Bool := fun _ => false
  audioOutputPorts : List Text := []
  isConnected : Text → Bool := fun _ => false
  portType : Text → AudioOutputPortType := fun _ => .hdmi
  /-- The types that are supported contain `dsAUDIOARCSUPPORT_eARC`. -/
  supportsEARC : Bool := false
  hdmiArcPortId : ℤ := -1
  isMuted : Bool := false
  stereoMode : AudioStereoMode := .stereo
  stereoAuto : Bool := false
  /-- `setEnablePort` returns `dsERR_NONE`. -/
  enablesPort : Bool := true
  /-- The answer of `IPowerManager::GetPowerState`. -/
  powerState : Option PowerState := none
  hdmiCecSinkActive : Bool := false
  /-- All subscriptions to events of HdmiCecSink succeed. -/
  subscribes : Bool := true
  hdmiCecSinkAudioDeviceConnectedStatus : Bool := false
  hdmiCecSinkCecEnableStatus : Bool := false
  /-- The build option `APP_CONTROL_AUDIOPORT_INIT`. -/
  appControlAudioPortInit : Bool := false

/-- No call throws. -/
def ArcEnv.Calm (env : ArcEnv) : Prop := ∀ c, env.throws c = false

/-- What is put out. -/
inductive ArcCall where
  | connectedAudioPortUpdated (port : AudioPortType) (connected : Bool)
  | enableARC (type : AudioARCType) (enable : Bool)
  | setSAD (list : List ℤ)
  | sendMsgToQueue (msg : ArcMessage)
  | audioPortEnableStatusChanged (audioPort : Text) (enable : Bool)
  | volumeLevelChanged (volumeLevel : ℤ)
  | muteStatusChanged (muted : Bool)
  | connectedAudioPorts (ports : List Text)
  | returnResponse (success : Bool)
deriving DecidableEq, Repr

/-! ### State -/

/-- What is known of the connection of the audio device. -/
structure ArcLink where
  hdmiInAudioDeviceConnected : Bool := false
  arcEarcConnectionNotifiedToUI : ArcEarcConnection := .disconnected
  currentArcRoutingState : ArcState := .arcTerminated
deriving DecidableEq, Repr

/-- Whether the audio is routed, and the type of the device. -/
structure ArcAudio where
  arcEarcAudioEnabled : Bool := false
  hdmiInAudioDeviceType : AudioARCType := .none
deriving DecidableEq, Repr

/-- The short audio descriptors. -/
structure ArcSAD where
  audioDeviceSADState : AudioDeviceSADState := .unknown
  requestSadRetrigger : Bool := false
  sadList : List ℤ := []
deriving DecidableEq, Repr

/-- What is kept for the ports. -/
structure ArcPorts where
  /-- The label `HDMI_ARC` of `m_audioOutputPortConfig`. -/
  audioOutputPortConfig : Option Bool := none
  audioPortEnableStatusMap : Text → Bool := fun _ => false
  /-- What the device settings library stores for each port. -/
  enablePersist : Text → Bool := fun _ => false

structure ArcDevice where
  subscribed : Bool := false
  /-- `m_systemAudioMode_Power_RequestedAndReceived`; not set before `InitAudioPorts` -/
  systemAudioModePowerRequestedAndReceived : Bool
  hdmiCecAudioDeviceDetected : Bool := false
  hdmiInAudioDevicePowerState : AudioDevicePowerState := .unknown
  isCecEnabled : Bool := false
  hdmiArcPortId : ℤ := -1
  hdmiArcVolumeLevel : ℤ := 0
  hdmiArcMuteStatus : Bool := false
  retryArcCount : ℕ := 0
  retryPowerRequestCount : ℕ := 0
  powerState : PowerState := .standby
  /-- The timers that are active. -/
  timers : ArcTimer → Bool := fun _ => false

structure Arc where
  link : ArcLink := {}
  audio : ArcAudio := {}
  sad : ArcSAD := {}
  ports : ArcPorts := {}
  device : ArcDevice
  /-- What was put out, the newest first. -/
  calls : List ArcCall := []

/-- A call of the device settings library; an exception ends what is being done in the state it
has reached. -/
def ArcEnv.call (env : ArcEnv) (c : HalCall) (s : Arc) : Except Arc Unit :=
  if env.throws c then .error s else .ok ()

namespace Arc

/-- The constructor; `received` is the member that it does not set. -/
def create (received : Bool) : Arc where
  device := { systemAudioModePowerRequestedAndReceived := received }

/-- The state that is left, also by an exception. -/
def settled : Except Arc Arc → Arc
  | .ok s => s
  | .error s => s

/-! ### Changes of one part -/

def updateLink (f : ArcLink → ArcLink) (s : Arc) : Arc := { s with link := f s.link }

def updateAudio (f : ArcAudio → ArcAudio) (s : Arc) : Arc := { s with audio := f s.audio }

def updateSad (f : ArcSAD → ArcSAD) (s : Arc) : Arc := { s with sad := f s.sad }

def updatePorts (f : ArcPorts → ArcPorts) (s : Arc) : Arc := { s with ports := f s.ports }

def updateDevice (f : ArcDevice → ArcDevice) (s : Arc) : Arc := { s with device := f s.device }

def call (c : ArcCall) (s : Arc) : Arc := { s with calls := c :: s.calls }

@[simp] def sendMsgToQueue (msg : ArcMessage) (s : Arc) : Arc := s.call (.sendMsgToQueue msg)

@[simp] def returnResponse (success : Bool) (s : Arc) : Arc := s.call (.returnResponse success)

def connectedAudioPortUpdated (port : AudioPortType) (connected : Bool) (s : Arc) : Arc :=
  s.call (.connectedAudioPortUpdated port connected)

@[simp] def setTimer (t : ArcTimer) (active : Bool) (s : Arc) : Arc :=
  s.updateDevice fun device => { device with timers := Function.update device.timers t active }

@[simp] def startTimer (t : ArcTimer) (s : Arc) : Arc := s.setTimer t true

@[simp] def stopTimer (t : ArcTimer) (s : Arc) : Arc := s.setTimer t false

@[simp] def setDeviceType (type : AudioARCType) (s : Arc) : Arc :=
  s.updateAudio fun audio => { audio with hdmiInAudioDeviceType := type }

def setArcRoutingState (state : ArcState) (s : Arc) : Arc :=
  s.updateLink fun link => { link with currentArcRoutingState := state }

@[simp] def setDevicePowerState (state : AudioDevicePowerState) (s : Arc) : Arc :=
  s.updateDevice fun device => { device with hdmiInAudioDevicePowerState := state }

@[simp] def setRequestedAndReceived (received : Bool) (s : Arc) : Arc :=
  s.updateDevice fun device => { device with systemAudioModePowerRequestedAndReceived := received }

/-! ### What several handlers do -/

/-- `connectedAudioPortUpdated`, with the flag for it. -/
def notifyUI (connected : Bool) (s : Arc) : Arc :=
  (s.connectedAudioPortUpdated .hdmiArc connected).updateLink fun link => { link with
    arcEarcConnectionNotifiedToUI := if connected then .connected else .disconnected }

def setDeviceConnected (connected : Bool) (s : Arc) : Arc :=
  s.updateLink fun link => { link with hdmiInAudioDeviceConnected := connected }

/-- A device that was not connected is recorded; the UI is told if it does not know of one. -/
def deviceConnected (s : Arc) : Arc :=
  if s.link.hdmiInAudioDeviceConnected then s
  else if s.link.arcEarcConnectionNotifiedToUI = .disconnected then
    (s.setDeviceConnected true).notifyUI true
  else s.setDeviceConnected true

/-- A device that was connected is gone; the UI is told in any case. -/
def deviceDisconnected (s : Arc) : Arc :=
  if s.link.hdmiInAudioDeviceConnected then
    ((s.setDeviceConnected false).setDevicePowerState .unknown).notifyUI false
  else s

/-- A device that was connected is gone; the UI is told if it knows of one. -/
def deviceReleased (s : Arc) : Arc :=
  if s.link.hdmiInAudioDeviceConnected then
    if s.link.arcEarcConnectionNotifiedToUI = .connected then
      (s.setDeviceConnected false).notifyUI false
    else s.setDeviceConnected false
  else s

@[simp] def setSadRetrigger (retrigger : Bool) (s : Arc) : Arc :=
  s.updateSad fun sad => { sad with requestSadRetrigger := retrigger }

def terminateArc (s : Arc) : Arc := (s.setArcRoutingState .arcTerminated).setSadRetrigger false

@[simp] def setAudioDeviceSADState (state : AudioDeviceSADState) (s : Arc) : Arc :=
  s.updateSad fun sad => { sad with audioDeviceSADState := state }

@[simp] def requestSAD (s : Arc) : Arc :=
  (s.setAudioDeviceSADState .requested).sendMsgToQueue .requestShortAudioDescriptor

/-- Unless they are cleared already. -/
def clearSAD (s : Arc) : Arc :=
  if s.sad.audioDeviceSADState = .cleared then s
  else s.updateSad fun _ => {
    audioDeviceSADState := .cleared
    requestSadRetrigger := false
    sadList := [] }

@[simp] def requestPowerStatus (s : Arc) : Arc :=
  (s.setDevicePowerState .request).sendMsgToQueue .requestAudioDevicePowerStatus

/-- `AUDIO_DEVICE_SAD_CLEARED` or `AUDIO_DEVICE_SAD_UNKNOWN` -/
def sadIdle (s : Arc) : Bool :=
  s.sad.audioDeviceSADState = .cleared || s.sad.audioDeviceSADState = .unknown

/-- `mode == kPassThru || getStereoAuto()` -/
def passThruOrAuto (env : ArcEnv) (s : Arc) : Except Arc Bool :=
  if env.stereoMode = .passThru then .ok true
  else do
    env.call .getStereoAuto s
    return env.stereoAuto

/-- `enableARC` and the flag for it. -/
def enableARC (type : AudioARCType) (enable : Bool) (env : ArcEnv) (s : Arc) : Except Arc Arc := do
  let s := s.call (.enableARC type enable)
  env.call .enableARC s
  return s.updateAudio fun audio => { audio with arcEarcAudioEnabled := enable }

/-- `setSAD` with the list. -/
def updateSAD (env : ArcEnv) (s : Arc) : Except Arc Arc := do
  let s := (s.setAudioDeviceSADState .updated).call (.setSAD s.sad.sadList)
  env.call .setSAD s
  return s

/-- The sound mode is set to what it is. -/
def setStereoAgain (env : ArcEnv) (s : Arc) : Except Arc Unit := do
  env.call .getStereoAuto s
  if env.stereoAuto then env.call .setStereoAuto s
  else
    env.call .getStereoMode s
    env.call .setStereoMode s

/-! ### CEC events

A parameter is `none` if there is no such label. -/

def success : Text := "success".toList

/-- Whether an initiation has to ask for the short audio descriptors. -/
def wantsSAD (env : ArcEnv) (s : Arc) : Except Arc Bool :=
  if s.sadIdle then s.passThruOrAuto env else .ok false

def requestSADIf (wanted : Bool) (s : Arc) : Arc := if wanted then s.requestSAD else s

/-- A device of unknown type that initiates ARC. -/
def assumeArc (s : Arc) : Arc :=
  if s.audio.hdmiInAudioDeviceType = .none then s.setDeviceType .arc else s

def onARCInitiation (status : Option Text) (env : ArcEnv) (s : Arc) : Except Arc Arc :=
  match status with
  | none => .ok s
  | some value =>
      if s.link.currentArcRoutingState ≠ .arcInitiated ∧
          s.device.systemAudioModePowerRequestedAndReceived = true then
        if value = success then do
          let s := s.setArcRoutingState .arcInitiated
          env.call .getAudioOutputPort s
          env.call .getStereoMode s
          let wanted ← s.wantsSAD env
          return (s.requestSADIf wanted).assumeArc.deviceConnected
        else .ok (s.setArcRoutingState .arcTerminated)
      else .ok s

def onARCTermination (status : Option Text) (s : Arc) : Arc :=
  let s := s.clearSAD
  if s.link.currentArcRoutingState = .arcTerminated then s
  else
    match status with
    | none => s
    | some value =>
        if value = success then s.terminateArc.deviceReleased else s.terminateArc

/-- The conversion of the `int64_t` of `Number()` to `int`. -/
def toInt (n : ℤ) : ℤ := n.bmod 4294967296

/-- The descriptors are applied, and the audio is routed if it waited for them. -/
def applySAD (env : ArcEnv) (s : Arc) : Except Arc Arc :=
  let wasSADTimerActive := s.device.timers .sadDetectionTimer
  let s := s.stopTimer .sadDetectionTimer
  if wasSADTimerActive = true ∧ s.audio.arcEarcAudioEnabled = false then do
    let s ← s.updateSAD env
    s.setStereoAgain env
    s.enableARC .arc true env
  else if s.audio.arcEarcAudioEnabled then do
    let s ← s.updateSAD env
    s.setStereoAgain env
    return s
  else .ok s

/-- The list holds what `Number()` gives for the elements. -/
def onShortAudioDescriptor (shortAudioDescriptor : Option (List ℤ)) (env : ArcEnv) (s : Arc) :
    Except Arc Arc :=
  match shortAudioDescriptor with
  | none => .ok s
  | some list =>
      if s.sad.audioDeviceSADState = .requested then do
        let s := (s.setAudioDeviceSADState .received).setSadRetrigger false
        env.call .getAudioOutputPort s
        if list = [] then return s
        else
          let s := s.updateSad fun sad => { sad with sadList := sad.sadList ++ list.map toInt }
          if s.link.currentArcRoutingState = .arcInitiated then s.applySAD env else return s
      else .ok s

def onSystemAudioMode (audioMode : Option Text) (s : Arc) : Arc :=
  match audioMode with
  | none => s
  | some value =>
      if value = "On".toList then (s.setRequestedAndReceived true).requestPowerStatus
      else if value = "Off".toList then
        let s := s.setDevicePowerState .unknown
        if s.link.hdmiInAudioDeviceConnected then s.terminateArc.deviceReleased else s
      else s

/-- The device is not routed any more, or its type stays until it is unrouted. -/
def resetDeviceType (s : Arc) : Arc :=
  if s.audio.arcEarcAudioEnabled = false ∧ s.audio.hdmiInAudioDeviceType ≠ .none then
    s.setDeviceType .none
  else s

@[simp] def setAudioDeviceDetected (detected : Bool) (s : Arc) : Arc :=
  s.updateDevice fun device => { device with hdmiCecAudioDeviceDetected := detected }

/-- A device that was connected is gone, and its ARC is terminated. -/
def deviceTerminated (s : Arc) : Arc :=
  if s.link.hdmiInAudioDeviceConnected then s.terminateArc.deviceDisconnected else s

def clearSADUnlessIdle (s : Arc) : Arc := if s.sadIdle then s else s.clearSAD

@[simp] def resetVolume (s : Arc) : Arc :=
  s.updateDevice fun device => { device with
    hdmiArcVolumeLevel := 0
    hdmiArcMuteStatus := false }

def onAudioDeviceConnectedStatus (audioDeviceConnected : Option Text) (s : Arc) : Arc :=
  if audioDeviceConnected = some "true".toList then
    let s := (s.setAudioDeviceDetected true).sendMsgToQueue .sendDeviceAudioStatus
    s.requestPowerStatus.resetVolume
  else
    let s := (s.setAudioDeviceDetected false).deviceTerminated
    s.clearSADUnlessIdle.resetDeviceType.resetVolume

/-- `Utils::isValidInt` -/
def isValidInt (x : Text) : Bool :=
  let digits := if x.head? = some '-' then x.tail else x
  !digits.isEmpty && digits.all Char.isDigit

def isSpace (c : Char) : Bool := c ∈ [' ', '\t', '\n', '\x0b', '\x0c', '\r']

/-- `std::stoi`; `none` if it throws. -/
def stoi (s : Text) : Option ℤ :=
  let number (digits : Text) : Option ℤ :=
    if digits = [] then none
    else some (digits.foldl (fun n c => 10 * n + (c.toNat - '0'.toNat : ℤ)) 0)
  let value :=
    match s.dropWhile isSpace with
    | '-' :: rest => (number (rest.takeWhile Char.isDigit)).map fun n => -n
    | '+' :: rest => number (rest.takeWhile Char.isDigit)
    | rest => number (rest.takeWhile Char.isDigit)
  value.filter fun n => -2147483648 ≤ n && n < 2147483648

@[simp] def setRetryPowerRequestCount (count : ℕ) (s : Arc) : Arc :=
  s.updateDevice fun device => { device with retryPowerRequestCount := count }

def stopPowerOnStatusTimer (s : Arc) : Arc :=
  if s.device.timers .audioDevicePowerOnStatusTimer then
    (s.setRetryPowerRequestCount 0).stopTimer .audioDevicePowerOnStatusTimer
  else s

/-- `AVR_POWER_STATE_ON` is received. -/
def onAvrPowerOn (env : ArcEnv) (s : Arc) : Except Arc Arc := do
  let s := ((s.setDevicePowerState .on).setRequestedAndReceived true).stopPowerOnStatusTimer
  env.call .getAudioOutputPort s
  env.call .getSupportedARCTypes s
  if s.link.hdmiInAudioDeviceConnected then return s
  else if env.supportsEARC then return (s.setDeviceType .eARC).deviceConnected
  else if s.device.timers .arcDetectionTimer then return s
  else return s.startTimer .arcDetectionTimer

def onAudioDevicePowerStatus (powerStatus : Option Text) (env : ArcEnv) (s : Arc) :
    Except Arc Arc :=
  let value := powerStatus.getD []
  if isValidInt (cStr value) = false then .ok s
  else if stoi value = some 0 then s.onAvrPowerOn env
  else if stoi value = some 1 then .ok (s.setDevicePowerState .standby)
  else if stoi value = some 2 then .ok s.requestPowerStatus
  else .ok s

@[simp] def setCecEnabled (enabled : Bool) (s : Arc) : Arc :=
  s.updateDevice fun device => { device with isCecEnabled := enabled }

def onCecEnabled (cecEnable : Option Text) (s : Arc) : Arc :=
  if cecEnable = some "true".toList then s.setCecEnabled true
  else (s.setCecEnabled false).resetDeviceType.deviceDisconnected

def setArcVolumeLevel (level : ℤ) (s : Arc) : Arc :=
  if level = s.device.hdmiArcVolumeLevel then s
  else (s.updateDevice fun device => { device with hdmiArcVolumeLevel := level }).call
    (.volumeLevelChanged level)

def setArcMuteStatus (muted : Bool) (s : Arc) : Arc :=
  if muted = s.device.hdmiArcMuteStatus then s
  else (s.updateDevice fun device => { device with hdmiArcMuteStatus := muted }).call
    (.muteStatusChanged muted)

def onArcAudioStatus (muteStatus volumeLevel : Option Text) (s : Arc) : Arc :=
  match muteStatus, volumeLevel with
  | some mute, some volume =>
      match stoi volume, stoi mute with
      | none, _ => s
      | some level, none => s.setArcVolumeLevel level
      | some level, some muted => (s.setArcVolumeLevel level).setArcMuteStatus (muted ≠ 0)
  | _, _ => s

/-! ### Hot-plugs and power modes -/

def onAudioOutHotPlug (portType : AudioPortType) (isPortConnected : Bool) (s : Arc) : Arc :=
  if portType = .hdmiArc then s.notifyUI isPortConnected
  else s.connectedAudioPortUpdated portType isPortConnected

def onHdmiInEventHotPlug (port : ℤ) (isConnected : Bool) (s : Arc) : Arc :=
  if port = s.device.hdmiArcPortId ∧ isConnected = false then
    s.deviceDisconnected.terminateArc.clearSAD
  else s

@[simp] def stopTimers (s : Arc) : Arc :=
  s.updateDevice fun device => { device with timers := fun _ => false }

/-- `onPowerModeChanged` to a mode other than `POWER_STATE_ON`. -/
def cleanupArc (env : ArcEnv) (s : Arc) : Except Arc Arc := do
  env.call .getAudioOutputPorts s
  if hdmiArc0 ∈ env.audioOutputPorts then
    let s := s.terminateArc.deviceDisconnected
    if s.audio.arcEarcAudioEnabled then
      env.call .getAudioOutputPort s
      let s ← s.enableARC .arc false env
      return (s.setDeviceType .none).stopTimers
    else return (s.setDeviceType .none).stopTimers
  else return s

/-- For `POWER_STATE_ON` a thread is created that runs `InitAudioPorts`. -/
def onPowerModeChanged (newState : PowerState) (env : ArcEnv) (s : Arc) : Except Arc Arc :=
  let s := s.updateDevice fun device => { device with powerState := newState }
  if newState = .on then .ok s else s.cleanupArc env

/-! ### Timers -/

@[simp] def setSubscribed (s : Arc) : Arc :=
  s.updateDevice fun device => { device with subscribed := true }

/-- The subscription; the timer is stopped once it is complete. -/
def subscribeOnTimer (env : ArcEnv) (s : Arc) : Arc :=
  if s.device.subscribed = true ∨ env.hdmiCecSinkActive = true ∧ env.subscribes = true then
    s.setSubscribed.stopTimer .timer
  else s

def recheckCecEnabled (env : ArcEnv) (s : Arc) : Arc :=
  if s.device.isCecEnabled then s else s.setCecEnabled env.hdmiCecSinkCecEnableStatus

/-- `m_timer` -/
def onTimer (env : ArcEnv) (s : Arc) : Arc :=
  let s := (s.subscribeOnTimer env).recheckCecEnabled env
  if s.device.subscribed then (s.sendMsgToQueue .sendAudioDevicePowerOnMsg).requestPowerStatus
  else s

def checkAudioDeviceDetectionTimer (s : Arc) : Arc :=
  if s.device.subscribed = true ∧ s.device.hdmiCecAudioDeviceDetected = true then
    let s := (s.setRequestedAndReceived false).sendMsgToQueue .sendAudioDevicePowerOnMsg
    (s.startTimer .audioDevicePowerOnStatusTimer).stopTimer .audioDeviceDetectTimer
  else s.stopTimer .audioDeviceDetectTimer

/-- The power-on message is sent again the third and the fifth time. -/
def sendPowerOnAgain (s : Arc) : Arc :=
  if s.device.retryPowerRequestCount = 2 ∨ s.device.retryPowerRequestCount = 4 then
    s.sendMsgToQueue .sendAudioDevicePowerOnMsg
  else s

def requestPowerStatusAgain (s : Arc) : Arc :=
  if s.device.subscribed = true ∧ s.device.hdmiCecAudioDeviceDetected = true ∧
      s.device.hdmiInAudioDevicePowerState ≠ .on then
    s.sendPowerOnAgain.requestPowerStatus.setRetryPowerRequestCount
      (s.device.retryPowerRequestCount + 1)
  else s

def checkAudioDevicePowerStatusTimer (s : Arc) : Arc :=
  let s := s.requestPowerStatusAgain
  if 5 ≤ s.device.retryPowerRequestCount ∧
      s.device.timers .audioDevicePowerOnStatusTimer = true then
    ((s.setRequestedAndReceived true).setRetryPowerRequestCount 0).stopTimer
      .audioDevicePowerOnStatusTimer
  else s

def checkSADUpdate (env : ArcEnv) (s : Arc) : Except Arc Arc := do
  env.call .getAudioOutputPort s
  let s := s.stopTimer .sadDetectionTimer
  if s.audio.arcEarcAudioEnabled = true ∨ s.link.hdmiInAudioDeviceConnected = false then return s
  else if s.sad.audioDeviceSADState = .received then
    let s ← s.updateSAD env
    s.setStereoAgain env
    if s.sad.requestSadRetrigger then return s else s.enableARC .arc true env
  else if s.sad.requestSadRetrigger then (s.setSadRetrigger false).enableARC .arc true env
  else return (s.setSadRetrigger true).requestSAD.startTimer .sadDetectionTimer

@[simp] def setRetryArcCount (count : ℕ) (s : Arc) : Arc :=
  s.updateDevice fun device => { device with retryArcCount := count }

/-- A device that is not eARC; the third time it counts as ARC. -/
def retryArc (s : Arc) : Arc :=
  let s := s.setRetryArcCount (s.device.retryArcCount + 1)
  if s.device.retryArcCount < 3 then s
  else
    let s := s.setDeviceType .arc
    if s.link.currentArcRoutingState = .arcTerminated ∧ s.device.isCecEnabled = true then
      (s.setArcRoutingState .requestArcInitiation).sendMsgToQueue .sendRequestArcInitiation
    else s

def detectArc (env : ArcEnv) (s : Arc) : Arc :=
  if s.link.currentArcRoutingState = .arcInitiated ∨ s.link.hdmiInAudioDeviceConnected = true then s
  else if env.supportsEARC then (s.setDeviceType .eARC).deviceConnected
  else s.retryArc

def stopDetection (s : Arc) : Arc :=
  if s.device.timers .arcDetectionTimer = true ∧ (3 ≤ s.device.retryArcCount ∨
      s.link.currentArcRoutingState = .arcInitiated ∨ s.audio.hdmiInAudioDeviceType ≠ .none) then
    (s.setRetryArcCount 0).stopTimer .arcDetectionTimer
  else s

def checkArcDeviceConnected (env : ArcEnv) (s : Arc) : Except Arc Arc := do
  env.call .getAudioOutputPort s
  env.call .getSupportedARCTypes s
  return (s.detectArc env).stopDetection

/-! ### API calls -/

/-- `vectorSet` -/
def vectorSet (ports : List Text) (port : Text) : List Text :=
  if port ∈ ports then ports else ports ++ [port]

/-- One port of `getConnectedAudioPorts`, with the ports found so far. -/
def getConnectedAudioPort (env : ArcEnv) (found : Arc × List Text) (port : Text) :
    Arc × List Text :=
  let s := found.1
  if env.isConnected port then
    if port = hdmiArc0 ∧ s.link.hdmiInAudioDeviceConnected = false then found
    else (s, vectorSet found.2 port)
  else if port = hdmiArc0 ∧ s.link.hdmiInAudioDeviceConnected = true ∧
      s.audio.arcEarcAudioEnabled = false then
    let s := (s.deviceTerminated.setDeviceType .none).setAudioDeviceSADState .unknown
    (s.sendMsgToQueue .sendAudioDevicePowerOnMsg, found.2)
  else found

/-- The first call that throws ends the loop. -/
def getConnectedAudioPorts (env : ArcEnv) (s : Arc) : Arc :=
  let found :=
    if env.throws .getAudioOutputPorts = true ∨ env.throws .isConnected = true then (s, [])
    else env.audioOutputPorts.foldl (getConnectedAudioPort env) (s, [])
  (found.1.call (.connectedAudioPorts found.2)).returnResponse true

/-- Calls `getSystemPowerState` if the port is to be enabled. -/
def checkPowerState (pEnable : Bool) (env : ArcEnv) (s : Arc) : Arc :=
  if pEnable then s.updateDevice fun device => { device with
    powerState := env.powerState.getD device.powerState }
  else s

/-- What the short audio descriptors are at when the audio is to be routed. -/
def routeBySAD (env : ArcEnv) (s : Arc) : Except Arc Arc :=
  match s.sad.audioDeviceSADState with
  | .updated => s.enableARC .arc true env
  | .received => do
      let s ← s.updateSAD env
      env.call .getStereoAuto s
      env.call (if env.stereoAuto then .setStereoAuto else .setStereoMode) s
      s.enableARC .arc true env
  | .requested =>
      if s.device.timers .sadDetectionTimer then .ok s else .ok (s.startTimer .sadDetectionTimer)
  | _ => .ok s

def sendMuteKeyIf (isAudioPortMuted : Bool) (s : Arc) : Arc :=
  if isAudioPortMuted = s.device.hdmiArcMuteStatus then s else s.sendMsgToQueue .sendMuteKeyEvent

/-- `setEnableAudioPort` with `pEnable` for `HDMI_ARC0`; with the result. -/
def routeAudio (env : ArcEnv) (s : Arc) : Except Arc (Arc × Bool) :=
  if s.link.hdmiInAudioDeviceConnected then
    match s.audio.hdmiInAudioDeviceType with
    | .eARC =>
        if s.audio.arcEarcAudioEnabled then .ok (s, true)
        else do
          let s ← s.enableARC .eARC true env
          return (s, true)
    | .arc =>
        if s.audio.arcEarcAudioEnabled then .ok (s, true)
        else do
          let s := s.sendMsgToQueue .sendAudioDevicePowerOnMsg
          let checksSAD ← s.passThruOrAuto env
          let s ← if checksSAD then s.routeBySAD env else s.enableARC .arc true env
          return (s.sendMuteKeyIf env.isMuted, true)
    | .none => .ok (s, true)
  else .ok (s, false)

/-- `setEnableAudioPort` without `pEnable` for `HDMI_ARC0`. -/
def unrouteAudio (env : ArcEnv) (s : Arc) : Except Arc Arc :=
  if s.audio.arcEarcAudioEnabled = true ∧ s.audio.hdmiInAudioDeviceType ≠ .none then do
    let s ← s.enableARC s.audio.hdmiInAudioDeviceType false env
    if s.link.hdmiInAudioDeviceConnected then return s else return s.setDeviceType .none
  else .ok s

@[simp] def setAudioOutputPortConfig (enable : Bool) (s : Arc) : Arc :=
  s.updatePorts fun ports => { ports with audioOutputPortConfig := some enable }

def setEnableArcPort (pEnable : Bool) (env : ArcEnv) (s : Arc) : Except Arc (Arc × Bool) := do
  env.call .isMuted s
  env.call .getStereoMode s
  let (s, success) ←
    if pEnable then s.routeAudio env
    else do
      let s ← s.unrouteAudio env
      pure (s, true)
  return (s.setAudioOutputPortConfig pEnable, success)

/-- Another port than `HDMI_ARC0`. -/
def setEnableOtherPort (env : ArcEnv) (s : Arc) : Except Arc (Arc × Bool) := do
  env.call .setEnablePort s
  if env.enablesPort then
    env.call .isMuted s
    if env.isMuted then env.call .setMuted s
  return (s, env.enablesPort)

@[simp] def setEnablePersist (audioPort : Text) (enable : Bool) (s : Arc) : Arc :=
  s.updatePorts fun ports => { ports with
    enablePersist := Function.update ports.enablePersist audioPort enable }

def setAudioPortEnableStatus (audioPort : Text) (enable : Bool) (s : Arc) : Arc :=
  if s.ports.audioPortEnableStatusMap audioPort = enable then s
  else (s.updatePorts fun ports => { ports with
    audioPortEnableStatusMap :=
      Function.update ports.audioPortEnableStatusMap audioPort enable }).call
    (.audioPortEnableStatusChanged audioPort enable)

def setEnableAudioPort (audioPort : Option Text) (enable : Option Bool) (env : ArcEnv) (s : Arc) :
    Arc :=
  match audioPort, enable with
  | some audioPort, some pEnable =>
      let s := s.checkPowerState pEnable env
      if pEnable = true ∧ s.device.powerState = .standby then s.returnResponse false
      else
        let result : Except Arc (Arc × Bool) := do
          env.call .getAudioOutputPort s
          env.call .setEnablePersist s
          let s := s.setEnablePersist audioPort pEnable
          if audioPort = hdmiArc0 then s.setEnableArcPort pEnable env else s.setEnableOtherPort env
        let (s, success) :=
          match result with
          | .ok result => result
          | .error s => (s, false)
        (s.setAudioPortEnableStatus audioPort pEnable).returnResponse success
  | _, _ => s.returnResponse false

/-- `getEnableAudioPort` for `HDMI_ARC0` -/
def getEnableAudioPort (s : Arc) : Bool := s.ports.audioOutputPortConfig.getD false

/-- The descriptors when the mode of an ARC device is set. -/
def changeSAD (mode : AudioStereoMode) (s : Arc) : Arc :=
  if mode = .passThru then s.requestSADIf s.sadIdle
  else if mode = .stereo then s.clearSAD
  else s

/-- `setSoundMode` for a connected port of the type `kARC`. -/
def setArcSoundMode (mode : AudioStereoMode) (stereoAuto : Bool) (env : ArcEnv) (s : Arc) :
    Except Arc Arc :=
  let arcConnected :=
    s.audio.hdmiInAudioDeviceType = .arc ∧ s.link.hdmiInAudioDeviceConnected = true
  if mode ∈ [.surround, .passThru, .stereo] ∧ stereoAuto = false then do
    env.call .setStereoAuto s
    let s := if arcConnected then s.changeSAD mode else s
    env.call .setStereoMode s
    return s
  else if s.audio.hdmiInAudioDeviceType = .eARC then do
    env.call .setStereoAuto s
    return s
  else if arcConnected then do
    let s := s.requestSADIf s.sadIdle
    env.call .setStereoAuto s
    return s
  else .ok s

/-- The mode and `stereoAuto` for a text in lower case. -/
def soundModeOf (soundMode : Text) : Option (AudioStereoMode × Bool) :=
  if soundMode = "mono".toList then some (.mono, false)
  else if soundMode = "stereo".toList then some (.stereo, false)
  else if soundMode = "surround".toList then some (.surround, false)
  else if soundMode = "passthru".toList then some (.passThru, false)
  else if soundMode = "dolbydigital".toList then some (.dd, false)
  else if soundMode = "dolbydigitalplus".toList then some (.ddPlus, false)
  else if soundMode = "auto".toList ∨ soundMode = "auto ".toList then some (.surround, true)
  else if soundMode = "dolby digital 5.1".toList then some (.surround, false)
  else none

/-- `Utils::String::stringContains` -/
def stringContains (s1 s2 : Text) : Bool := s2.map Char.toLower <:+: s1.map Char.toLower

/-- `checkPortName`; `none` if it returns `false`. -/
def checkPortName (name : Text) : Option Text :=
  if stringContains name "HDMI".toList then
    some (if stringContains name "HDMI_ARC".toList then hdmiArc0 else "HDMI0".toList)
  else if stringContains name "SPDIF".toList then some "SPDIF0".toList
  else if stringContains name "IDLR".toList then some "IDLR0".toList
  else if stringContains name "SPEAKER".toList then some "SPEAKER0".toList
  else if stringContains name "HEADPHONE".toList then some "HEADPHONE0".toList
  else if name = [] then some [] else none

/-- `setSoundMode` as far as ARC is concerned; `none` if it calls itself without end, which it does
for an empty port. -/
def setSoundMode (audioPort : Text) (soundMode : Option Text) (env : ArcEnv) (s : Arc) :
    Option Arc :=
  match soundMode.map fun text => soundModeOf (text.map Char.toLower) with
  | none => some (s.returnResponse false)
  | some none => some (s.returnResponse true)
  | some (some (mode, stereoAuto)) =>
      let audioPort := if stereoAuto = true ∧ audioPort = [] then "HDMI0".toList else audioPort
      match checkPortName audioPort with
      | none => some (s.returnResponse false)
      | some [] => none
      | some port =>
          let result : Except Arc Arc := do
            env.call .getAudioOutputPort s
            env.call .isConnected s
            env.call .getType s
            if env.isConnected port = true ∧ env.portType port = .arc then
              s.setArcSoundMode mode stereoAuto env
            else return s
          let success := env.isConnected port || env.portType port ∈ [.arc, .hdmi]
          some (match result with
            | .ok s => s.returnResponse success
            | .error s => s.returnResponse false)

/-! ### InitAudioPorts -/

/-- A negative number is not a port. -/
def setArcPortId (portId : ℤ) (s : Arc) : Arc :=
  if 0 ≤ portId then s.updateDevice fun device => { device with hdmiArcPortId := portId } else s

def subscribe (env : ArcEnv) (s : Arc) : Arc := if env.subscribes then s.setSubscribed else s

/-- `HDMI_ARC0` in `InitAudioPorts`. -/
def initArcPort (isPortPersistenceValEnabled : Bool) (env : ArcEnv) (s : Arc) :
    Except Arc Arc := do
  env.call .getHdmiArcPortId s
  let s := (s.setArcPortId env.hdmiArcPortId).setAudioOutputPortConfig
    (isPortPersistenceValEnabled &&
      (env.appControlAudioPortInit || s.device.hdmiCecAudioDeviceDetected))
  let s := (s.stopTimer .timer).setCecEnabled env.hdmiCecSinkCecEnableStatus
  if env.hdmiCecSinkActive then
    let s := s.subscribe env
    if s.device.subscribed then
      if s.device.hdmiCecAudioDeviceDetected then
        let s := (s.setRequestedAndReceived false).sendMsgToQueue .sendDeviceAudioStatus
        return (s.sendMsgToQueue .sendAudioDevicePowerOnMsg).startTimer
          .audioDevicePowerOnStatusTimer
      else return s.startTimer .audioDeviceDetectTimer
    else return s
  else return s.startTimer .timer

def initAudioPort (env : ArcEnv) (s : Arc) (port : Text) : Except Arc Arc :=
  let isPortPersistenceValEnabled := env.throws .getEnablePersist || s.ports.enablePersist port
  let s := s.setAudioDeviceDetected env.hdmiCecSinkAudioDeviceConnectedStatus
  if port = hdmiArc0 then s.initArcPort isPortPersistenceValEnabled env
  else
    let enable := isPortPersistenceValEnabled ||
      !env.appControlAudioPortInit && !s.device.hdmiCecAudioDeviceDetected
    .ok (s.setEnableAudioPort (some port) (some enable) env)

/-- Runs in a thread of its own after a power change, and after `OnAudioPortStateChanged`. -/
def initAudioPorts (env : ArcEnv) (s : Arc) : Except Arc Arc := do
  let s := s.setRequestedAndReceived true
  env.call .getAudioOutputPorts s
  env.audioOutputPorts.foldlM (initAudioPort env) s

end Arc

/-! ### Steps -/

inductive ArcEvent where
  | arcInitiation (status : Option Text)
  | arcTermination (status : Option Text)
  | shortAudioDescriptor (shortAudioDescriptor : Option (List ℤ))
  | systemAudioMode (audioMode : Option Text)
  | audioDeviceConnectedStatus (audioDeviceConnected : Option Text)
  | audioDevicePowerStatus (powerStatus : Option Text)
  | cecEnabled (cecEnable : Option Text)
  | arcAudioStatus (muteStatus volumeLevel : Option Text)
  | audioOutHotPlug (portType : AudioPortType) (isPortConnected : Bool)
  | hdmiInEventHotPlug (port : ℤ) (isConnected : Bool)
  | powerModeChanged (newState : PowerState)
  | initAudioPorts
  | getConnectedAudioPorts
  | setEnableAudioPort (audioPort : Option Text) (enable : Option Bool)
  | setSoundMode (audioPort : Text) (soundMode : Option Text)
  | expired (t : ArcTimer)

/-- What happens when a timer expires. -/
def Arc.onExpired (env : ArcEnv) (s : Arc) : ArcTimer → Arc
  | .timer => s.onTimer env
  | .audioDeviceDetectTimer => s.checkAudioDeviceDetectionTimer
  | .sadDetectionTimer => Arc.settled (s.checkSADUpdate env)
  | .arcDetectionTimer => Arc.settled (s.checkArcDeviceConnected env)
  | .audioDevicePowerOnStatusTimer => s.checkAudioDevicePowerStatusTimer

/-- One step is atomic. Only timers that are active expire; they stay active until they are
stopped. -/
def arcStep (s : Arc) (a : ArcEnv × ArcEvent) : Option Arc :=
  match a.2 with
  | .arcInitiation status => some (Arc.settled (s.onARCInitiation status a.1))
  | .arcTermination status => some (s.onARCTermination status)
  | .shortAudioDescriptor list => some (Arc.settled (s.onShortAudioDescriptor list a.1))
  | .systemAudioMode audioMode => some (s.onSystemAudioMode audioMode)
  | .audioDeviceConnectedStatus connected => some (s.onAudioDeviceConnectedStatus connected)
  | .audioDevicePowerStatus status => some (Arc.settled (s.onAudioDevicePowerStatus status a.1))
  | .cecEnabled enable => some (s.onCecEnabled enable)
  | .arcAudioStatus mute volume => some (s.onArcAudioStatus mute volume)
  | .audioOutHotPlug portType connected => some (s.onAudioOutHotPlug portType connected)
  | .hdmiInEventHotPlug port connected => some (s.onHdmiInEventHotPlug port connected)
  | .powerModeChanged newState => some (Arc.settled (s.onPowerModeChanged newState a.1))
  | .initAudioPorts => some (Arc.settled (s.initAudioPorts a.1))
  | .getConnectedAudioPorts => some (s.getConnectedAudioPorts a.1)
  | .setEnableAudioPort audioPort enable => some (s.setEnableAudioPort audioPort enable a.1)
  | .setSoundMode audioPort soundMode => s.setSoundMode audioPort soundMode a.1
  | .expired t => if s.device.timers t then some (s.onExpired a.1 t) else none

end DeviceAndDisplay.DisplaySettings

/-! ## Enabling audio ports

`setEnableAudioPort` and `getEnableAudioPort` for other ports than `HDMI_ARC0`, together with what
the device settings library enables. -/

namespace DeviceAndDisplay.DisplaySettings

open Helpers

/-- The parameters of `setEnableAudioPort` for another port than `HDMI_ARC0`; they are `none` if
there is no such label. -/
structure PortRequest where
  audioPort : Option Text
  enable : Option Bool
  other : audioPort ≠ some hdmiArc0

/-- The plugin, and the ports that are enabled. -/
structure AudioPorts where
  arc : Arc
  isEnabled : Text → Bool := fun _ => false

/-- The request is ignored in standby. -/
def Arc.refuses (s : Arc) (pEnable : Bool) (env : ArcEnv) : Bool :=
  pEnable && env.powerState.getD s.device.powerState == .standby

/-- `setEnablePort` is reached and returns `dsERR_NONE`. -/
def ArcEnv.setsPort (env : ArcEnv) : Bool :=
  !env.throws .getAudioOutputPort && !env.throws .setEnablePersist && !env.throws .setEnablePort &&
    env.enablesPort

namespace AudioPorts

/-- All ports are disabled. -/
def create (received : Bool) : AudioPorts where
  arc := Arc.create received

def setEnableAudioPort (request : PortRequest) (env : ArcEnv) (s : AudioPorts) : AudioPorts where
  arc := s.arc.setEnableAudioPort request.audioPort request.enable env
  isEnabled :=
    match request.audioPort, request.enable with
    | some audioPort, some pEnable =>
        if s.arc.refuses pEnable env = false ∧ env.setsPort = true then
          Function.update s.isEnabled audioPort pEnable
        else s.isEnabled
    | _, _ => s.isEnabled

/-- `getEnableAudioPort`; `none` if the library throws an exception. -/
def getEnableAudioPort (audioPort : Option Text) (throws : Bool) (s : AudioPorts) : Option Bool :=
  if throws then none else some (s.isEnabled (audioPort.getD "HDMI0".toList))

end AudioPorts

def portStep (s : AudioPorts) (a : ArcEnv × PortRequest) : Option AudioPorts :=
  some (s.setEnableAudioPort a.2 a.1)

end DeviceAndDisplay.DisplaySettings
