import DeviceAndDisplay.Model.DisplaySettings.Arc
import DeviceAndDisplay.Transition.Exception

/-! # The parts of the ARC state

What each change leaves of the parts, and the calls of the device settings library when none of
them throws. -/

namespace DeviceAndDisplay.DisplaySettings

open Helpers Transition

/-- `HDMI_ARC0` and HdmiCecSink, while the power is on. -/
def ArcEnv.atHome (mode : AudioStereoMode) : ArcEnv where
  audioOutputPorts := [hdmiArc0]
  hdmiArcPortId := 0
  hdmiCecSinkActive := true
  hdmiCecSinkCecEnableStatus := true
  powerState := some .on
  stereoMode := mode

def atHome (mode : AudioStereoMode) (events : List ArcEvent) : List (ArcEnv × ArcEvent) :=
  events.map fun event => (.atHome mode, event)

theorem calm_atHome (mode : AudioStereoMode) (events : List ArcEvent) :
    ∀ a ∈ atHome mode events, a.1.Calm := by
  intro a ha
  obtain ⟨event, _, rfl⟩ := List.mem_map.mp ha
  exact fun _ => rfl

/-! ### Calls that return -/

theorem ok_bind {α β : Type} (a : α) (next : α → Except Arc β) :
    ((Except.ok a : Except Arc α) >>= next) = next a := rfl

namespace ArcEnv.Calm

variable {env : ArcEnv}

theorem call (h : env.Calm) (c : HalCall) (s : Arc) : env.call c s = .ok () := by
  rw [ArcEnv.call, h c]
  rfl

theorem passThruOrAuto (h : env.Calm) (s : Arc) :
    s.passThruOrAuto env = .ok (env.stereoMode = .passThru || env.stereoAuto) := by
  unfold Arc.passThruOrAuto
  by_cases hmode : env.stereoMode = .passThru
  · rw [if_pos hmode]
    simp [hmode]
  · rw [if_neg hmode, h.call, ok_bind]
    simp [hmode]
    rfl

theorem wantsSAD (h : env.Calm) (s : Arc) :
    s.wantsSAD env = .ok (s.sadIdle && (env.stereoMode = .passThru || env.stereoAuto)) := by
  unfold Arc.wantsSAD
  cases s.sadIdle with
  | false => rfl
  | true => simp [h.passThruOrAuto]

theorem setStereoAgain (h : env.Calm) (s : Arc) : s.setStereoAgain env = .ok () := by
  unfold Arc.setStereoAgain
  simp only [h.call, ok_bind]
  exact ite_self _

end ArcEnv.Calm

namespace Arc

@[simp] theorem settled_ok (s : Arc) : settled (.ok s) = s := rfl

@[simp] theorem settled_pure (s : Arc) : settled (pure s) = s := rfl

/-- `enableARC` that returns. -/
@[simp] def arcEnabled (type : AudioARCType) (enable : Bool) (s : Arc) : Arc :=
  (s.call (.enableARC type enable)).updateAudio fun audio =>
    { audio with arcEarcAudioEnabled := enable }

/-- `updateSAD` that returns. -/
@[simp] def sadUpdated (s : Arc) : Arc :=
  (s.setAudioDeviceSADState .updated).call (.setSAD s.sad.sadList)

end Arc

namespace ArcEnv.Calm

variable {env : ArcEnv}

theorem enableARC (h : env.Calm) (type : AudioARCType) (enable : Bool) (s : Arc) :
    s.enableARC type enable env = .ok (s.arcEnabled type enable) := by
  unfold Arc.enableARC
  simp only [h.call, ok_bind]
  rfl

theorem updateSAD (h : env.Calm) (s : Arc) : s.updateSAD env = .ok s.sadUpdated := by
  unfold Arc.updateSAD
  simp only [h.call, ok_bind]
  rfl

end ArcEnv.Calm

namespace Arc

variable {env : ArcEnv}

/-! ### What setEnableAudioPort leaves -/

def routedBySAD (s : Arc) : Arc :=
  match s.sad.audioDeviceSADState with
  | .updated => s.arcEnabled .arc true
  | .received => s.sadUpdated.arcEnabled .arc true
  | .requested => if s.device.timers .sadDetectionTimer then s else s.startTimer .sadDetectionTimer
  | _ => s

theorem routeBySAD_calm (h : env.Calm) (s : Arc) : s.routeBySAD env = .ok s.routedBySAD := by
  unfold routeBySAD routedBySAD
  cases s.sad.audioDeviceSADState with
  | updated => exact h.enableARC ..
  | received => simp only [h.updateSAD, h.call, h.enableARC, ok_bind]
  | requested => exact (apply_ite Except.ok ..).symm
  | unknown => rfl
  | cleared => rfl

def audioRouted (env : ArcEnv) (s : Arc) : Arc :=
  if s.link.hdmiInAudioDeviceConnected = true ∧ s.audio.arcEarcAudioEnabled = false then
    match s.audio.hdmiInAudioDeviceType with
    | .eARC => s.arcEnabled .eARC true
    | .arc =>
        let s := s.sendMsgToQueue .sendAudioDevicePowerOnMsg
        let s :=
          if env.stereoMode = .passThru || env.stereoAuto then s.routedBySAD
          else s.arcEnabled .arc true
        s.sendMuteKeyIf env.isMuted
    | .none => s
  else s

theorem routeAudio_calm (h : env.Calm) (s : Arc) :
    s.routeAudio env = .ok (s.audioRouted env, s.link.hdmiInAudioDeviceConnected) := by
  unfold routeAudio audioRouted
  cases hconnected : s.link.hdmiInAudioDeviceConnected with
  | false => simp
  | true =>
      cases henabled : s.audio.arcEarcAudioEnabled with
      | true => cases s.audio.hdmiInAudioDeviceType <;> simp
      | false =>
          cases htype : s.audio.hdmiInAudioDeviceType with
          | none => simp
          | eARC =>
              simp only [h.enableARC, ok_bind]
              rfl
          | arc =>
              simp only [h.passThruOrAuto, h.enableARC, routeBySAD_calm h, ok_bind]
              by_cases hsad : (env.stereoMode = .passThru || env.stereoAuto : Bool) = true
              · simp only [if_pos hsad]
                rfl
              · simp only [if_neg hsad]
                rfl

def audioUnrouted (s : Arc) : Arc :=
  if s.audio.arcEarcAudioEnabled = true ∧ s.audio.hdmiInAudioDeviceType ≠ .none then
    if s.link.hdmiInAudioDeviceConnected then s.arcEnabled s.audio.hdmiInAudioDeviceType false
    else (s.arcEnabled s.audio.hdmiInAudioDeviceType false).setDeviceType .none
  else s

theorem unrouteAudio_calm (h : env.Calm) (s : Arc) :
    s.unrouteAudio env = .ok s.audioUnrouted := by
  unfold unrouteAudio audioUnrouted
  simp only [h.enableARC, ok_bind]
  split
  · exact (apply_ite Except.ok ..).symm
  · rfl

/-- `HDMI_ARC0` after `setEnableAudioPort` that was not refused. -/
def arcPortEnabled (pEnable : Bool) (env : ArcEnv) (s : Arc) : Arc :=
  let s := s.setEnablePersist hdmiArc0 pEnable
  (if pEnable then s.audioRouted env else s.audioUnrouted).setAudioOutputPortConfig pEnable

theorem setEnableArcPort_calm (h : env.Calm) (pEnable : Bool) (s : Arc) :
    ∃ success, s.setEnableArcPort pEnable env = .ok
      ((if pEnable then s.audioRouted env else s.audioUnrouted).setAudioOutputPortConfig pEnable,
        success) := by
  unfold setEnableArcPort
  simp only [h.call, routeAudio_calm h, unrouteAudio_calm h, ok_bind]
  cases pEnable with
  | true => exact ⟨_, rfl⟩
  | false => exact ⟨_, rfl⟩

theorem setEnableOtherPort_calm (h : env.Calm) (s : Arc) :
    s.setEnableOtherPort env = .ok (s, env.enablesPort) := by
  unfold setEnableOtherPort
  cases henables : env.enablesPort with
  | false =>
      simp only [h.call, ok_bind]
      rfl
  | true =>
      simp only [h.call, ok_bind, if_true]
      exact ite_self _

/-- What `setEnableAudioPort` leaves; a call with `pEnable` in standby is ignored. -/
def portEnabled (audioPort : Text) (pEnable : Bool) (env : ArcEnv) (s : Arc) : Arc :=
  let s := s.checkPowerState pEnable env
  if pEnable = true ∧ s.device.powerState = .standby then s
  else if audioPort = hdmiArc0 then
    (s.arcPortEnabled pEnable env).setAudioPortEnableStatus audioPort pEnable
  else (s.setEnablePersist audioPort pEnable).setAudioPortEnableStatus audioPort pEnable

theorem setEnableAudioPort_calm (h : env.Calm) (audioPort : Text) (pEnable : Bool) (s : Arc) :
    ∃ success, s.setEnableAudioPort (some audioPort) (some pEnable) env =
      (s.portEnabled audioPort pEnable env).returnResponse success := by
  unfold setEnableAudioPort portEnabled arcPortEnabled
  simp only [h.call, ok_bind, setEnableOtherPort_calm h]
  split
  · exact ⟨_, rfl⟩
  · by_cases hport : audioPort = hdmiArc0
    · obtain ⟨success, hresult⟩ := setEnableArcPort_calm h pEnable
        ((s.checkPowerState pEnable env).setEnablePersist audioPort pEnable)
      simp only [if_pos hport, hresult]
      exact ⟨success, by rw [hport]⟩
    · simp only [if_neg hport]
      exact ⟨_, rfl⟩

/-! ### What the audio return channel consists of -/

end Arc

namespace ArcCall

/-- What the UI is told of `HDMI_ARC0`. -/
def told : ArcCall → Option Bool
  | .connectedAudioPortUpdated .hdmiArc connected => some connected
  | _ => none

/-- What is routed and unrouted. -/
def routing : ArcCall → Option (AudioARCType × Bool)
  | .enableARC type enable => some (type, enable)
  | _ => none

/-- The descriptors that are applied. -/
def applied : ArcCall → Option (List ℤ)
  | .setSAD list => some list
  | _ => none

end ArcCall

/-- The connection, the audio, the descriptors and what is kept for `HDMI_ARC0`, with what was put
out of them, the newest first. -/
structure ArcCore where
  link : ArcLink
  audio : ArcAudio
  sad : ArcSAD
  config : Option Bool
  persisted : Bool
  told : List Bool
  routings : List (AudioARCType × Bool)
  applied : List (List ℤ)

namespace Arc

def core (s : Arc) : ArcCore where
  link := s.link
  audio := s.audio
  sad := s.sad
  config := s.ports.audioOutputPortConfig
  persisted := s.ports.enablePersist hdmiArc0
  told := s.calls.filterMap ArcCall.told
  routings := s.calls.filterMap ArcCall.routing
  applied := s.calls.filterMap ArcCall.applied

@[simp] theorem core_updateDevice (f : ArcDevice → ArcDevice) (s : Arc) :
    (s.updateDevice f).core = s.core := rfl

/-- The calls that are of no concern. -/
@[simp] theorem core_call (s : Arc) :
    (∀ msg, (s.call (.sendMsgToQueue msg)).core = s.core) ∧
    (∀ port enable, (s.call (.audioPortEnableStatusChanged port enable)).core = s.core) ∧
    (∀ level, (s.call (.volumeLevelChanged level)).core = s.core) ∧
    (∀ muted, (s.call (.muteStatusChanged muted)).core = s.core) ∧
    (∀ ports, (s.call (.connectedAudioPorts ports)).core = s.core) ∧
    ∀ success, (s.call (.returnResponse success)).core = s.core :=
  ⟨fun _ => rfl, fun _ _ => rfl, fun _ => rfl, fun _ => rfl, fun _ => rfl, fun _ => rfl⟩

theorem core_onTimer (env : ArcEnv) (s : Arc) : (s.onTimer env).core = s.core := by
  have hsubscribe : (s.subscribeOnTimer env).core = s.core := by
    unfold subscribeOnTimer
    split <;> simp
  have hrecheck : ((s.subscribeOnTimer env).recheckCecEnabled env).core = s.core := by
    unfold recheckCecEnabled
    split <;> simp [hsubscribe]
  unfold onTimer
  simp only
  split <;> simp [hrecheck]

theorem core_checkAudioDeviceDetectionTimer (s : Arc) :
    s.checkAudioDeviceDetectionTimer.core = s.core := by
  unfold checkAudioDeviceDetectionTimer
  split <;> simp

theorem core_checkAudioDevicePowerStatusTimer (s : Arc) :
    s.checkAudioDevicePowerStatusTimer.core = s.core := by
  have hsend : s.sendPowerOnAgain.core = s.core := by
    unfold sendPowerOnAgain
    split <;> simp
  have hrequest : s.requestPowerStatusAgain.core = s.core := by
    unfold requestPowerStatusAgain
    split <;> simp [hsend]
  unfold checkAudioDevicePowerStatusTimer
  simp only
  split <;> simp [hrequest]

theorem core_onArcAudioStatus (mute volume : Option Text) (s : Arc) :
    (s.onArcAudioStatus mute volume).core = s.core := by
  have hlevel : ∀ level (s : Arc), (s.setArcVolumeLevel level).core = s.core := by
    intro level s
    unfold setArcVolumeLevel
    split <;> simp
  have hmute : ∀ muted (s : Arc), (s.setArcMuteStatus muted).core = s.core := by
    intro muted s
    unfold setArcMuteStatus
    split <;> simp
  unfold onArcAudioStatus
  split
  · split <;> simp [hlevel, hmute]
  · rfl

@[simp] theorem core_stopPowerOnStatusTimer (s : Arc) :
    s.stopPowerOnStatusTimer.core = s.core := by
  unfold stopPowerOnStatusTimer
  split <;> simp

@[simp] theorem core_stopDetection (s : Arc) : s.stopDetection.core = s.core := by
  unfold stopDetection
  split <;> simp

@[simp] theorem core_sendMuteKeyIf (muted : Bool) (s : Arc) :
    (s.sendMuteKeyIf muted).core = s.core := by
  unfold sendMuteKeyIf
  split <;> simp

@[simp] theorem core_setAudioPortEnableStatus (port : Text) (enable : Bool) (s : Arc) :
    (s.setAudioPortEnableStatus port enable).core = s.core := by
  unfold setAudioPortEnableStatus
  split <;> rfl

theorem core_setEnablePersist_other {port : Text} (hport : port ≠ hdmiArc0) (enable : Bool)
    (s : Arc) : (s.setEnablePersist port enable).core = s.core := by
  simp only [core, setEnablePersist, updatePorts, Function.update_of_ne hport.symm]

@[simp] theorem core_checkPowerState (enable : Bool) (s : Arc) :
    (s.checkPowerState enable env).core = s.core := by
  unfold checkPowerState
  split <;> simp

/-! ### Changes of one part -/

theorem core_deviceConnected (s : Arc) : s.deviceConnected.core =
    { s.core with link := s.deviceConnected.link, told := s.deviceConnected.core.told } := by
  unfold deviceConnected
  split
  · rfl
  · split <;> rfl

theorem core_deviceDisconnected (s : Arc) : s.deviceDisconnected.core =
    { s.core with link := s.deviceDisconnected.link, told := s.deviceDisconnected.core.told } := by
  unfold deviceDisconnected
  split <;> rfl

theorem core_deviceReleased (s : Arc) : s.deviceReleased.core =
    { s.core with link := s.deviceReleased.link, told := s.deviceReleased.core.told } := by
  unfold deviceReleased
  split
  · split <;> rfl
  · rfl

theorem core_assumeArc (s : Arc) :
    s.assumeArc.core = { s.core with audio := s.assumeArc.audio } := by
  unfold assumeArc
  split <;> rfl

theorem core_resetDeviceType (s : Arc) :
    s.resetDeviceType.core = { s.core with audio := s.resetDeviceType.audio } := by
  unfold resetDeviceType
  split <;> rfl

theorem core_requestSADIf (wanted : Bool) (s : Arc) :
    (s.requestSADIf wanted).core = { s.core with sad := (s.requestSADIf wanted).sad } := by
  unfold requestSADIf
  split <;> rfl

theorem core_clearSAD (s : Arc) : s.clearSAD.core = { s.core with sad := s.clearSAD.sad } := by
  unfold clearSAD
  split <;> rfl

theorem core_clearSADUnlessIdle (s : Arc) :
    s.clearSADUnlessIdle.core = { s.core with sad := s.clearSADUnlessIdle.sad } := by
  unfold clearSADUnlessIdle
  split
  · rfl
  · exact core_clearSAD s

/-! ### getConnectedAudioPorts -/

/-- A connection that came before the hot-plug is given up, and the device is woken again. -/
def restarted (s : Arc) : Arc :=
  ((s.deviceTerminated.setDeviceType .none).setAudioDeviceSADState .unknown).sendMsgToQueue
    .sendAudioDevicePowerOnMsg

def RestartedFrom (s t : Arc) : Prop :=
  s.link.hdmiInAudioDeviceConnected = true ∧ s.audio.arcEarcAudioEnabled = false ∧ t = s.restarted

theorem getConnectedAudioPort_cases (env : ArcEnv) (found : Arc × List Text) (port : Text) :
    (getConnectedAudioPort env found port).1 = found.1 ∨
      found.1.RestartedFrom (getConnectedAudioPort env found port).1 := by
  unfold getConnectedAudioPort
  simp only
  split
  · split <;> exact .inl rfl
  · split
    · rename_i hc
      exact .inr ⟨hc.2.1, hc.2.2, rfl⟩
    · exact .inl rfl

theorem restarted_disconnected (s : Arc) : s.restarted.link.hdmiInAudioDeviceConnected = false := by
  unfold restarted deviceTerminated
  split
  · unfold deviceDisconnected
    split
    · rfl
    · rename_i hc
      exact eq_false_of_ne_true hc
  · rename_i hc
    exact eq_false_of_ne_true hc

theorem foldl_getConnectedAudioPort (env : ArcEnv) (ports : List Text) (found : Arc × List Text) :
    (ports.foldl (getConnectedAudioPort env) found).1 = found.1 ∨
      found.1.RestartedFrom (ports.foldl (getConnectedAudioPort env) found).1 := by
  induction ports generalizing found with
  | nil => exact .inl rfl
  | cons port ports ih =>
      rw [List.foldl_cons]
      rcases getConnectedAudioPort_cases env found port with hsame | ⟨hup, hquiet, hleft⟩
      · rw [← hsame]
        exact ih _
      · -- the device is disconnected now, so the rest of the loop changes nothing
        rcases ih (getConnectedAudioPort env found port) with hsame | ⟨hagain, _⟩
        · exact .inr ⟨hup, hquiet, hsame.trans hleft⟩
        · rw [hleft, restarted_disconnected] at hagain
          cases hagain

theorem getConnectedAudioPorts_cases (env : ArcEnv) (s : Arc) :
    ∃ t ports, s.getConnectedAudioPorts env =
      (t.call (.connectedAudioPorts ports)).returnResponse true ∧
        (t = s ∨ s.RestartedFrom t) := by
  unfold getConnectedAudioPorts
  simp only
  split
  · exact ⟨s, [], rfl, .inl rfl⟩
  · exact ⟨_, _, rfl, foldl_getConnectedAudioPort env env.audioOutputPorts (s, [])⟩

/-! ### setSoundMode -/

/-- What `setSoundMode` for the ARC port leaves. -/
def SoundModeSet (s t : Arc) : Prop :=
  t = s ∨ s.audio.hdmiInAudioDeviceType = .arc ∧ s.link.hdmiInAudioDeviceConnected = true ∧
    (t = s.requestSADIf s.sadIdle ∨ t = s.clearSAD)

theorem setArcSoundMode_cases (h : env.Calm) (mode : AudioStereoMode) (auto : Bool) (s : Arc) :
    ∃ t, s.setArcSoundMode mode auto env = .ok t ∧ s.SoundModeSet t := by
  unfold setArcSoundMode
  simp only [h.call, ok_bind]
  split
  · refine ⟨_, rfl, ?_⟩
    split
    · rename_i hc
      unfold changeSAD
      split
      · exact .inr ⟨hc.1, hc.2, .inl rfl⟩
      · split
        · exact .inr ⟨hc.1, hc.2, .inr rfl⟩
        · exact .inl rfl
    · exact .inl rfl
  · split
    · exact ⟨s, rfl, .inl rfl⟩
    · split
      · rename_i hc
        exact ⟨_, rfl, .inr ⟨hc.1, hc.2, .inl rfl⟩⟩
      · exact ⟨s, rfl, .inl rfl⟩

theorem setSoundMode_cases (h : env.Calm) {port : Text} {mode : Option Text} {s t : Arc}
    (ht : s.setSoundMode port mode env = some t) :
    ∃ u success, t = u.returnResponse success ∧ s.SoundModeSet u := by
  unfold setSoundMode at ht
  split at ht
  · cases ht
    exact ⟨s, false, rfl, .inl rfl⟩
  · cases ht
    exact ⟨s, true, rfl, .inl rfl⟩
  · simp only [h.call, ok_bind] at ht
    split at ht
    · cases ht
      exact ⟨s, false, rfl, .inl rfl⟩
    · cases ht
    · rename_i mode auto _ _ port _ _
      obtain ⟨u, hu, hset⟩ := setArcSoundMode_cases h mode auto s
      by_cases hc : env.isConnected port = true ∧ env.portType port = .arc
      · simp only [if_pos hc, hu] at ht
        cases ht
        exact ⟨u, _, rfl, hset⟩
      · simp only [if_neg hc] at ht
        cases ht
        exact ⟨s, _, rfl, .inl rfl⟩

/-! ### InitAudioPorts -/

theorem core_subscribe (env : ArcEnv) (s : Arc) : (s.subscribe env).core = s.core := by
  unfold subscribe
  split <;> simp

theorem core_initArcPort (h : env.Calm) (enabled : Bool) (s : Arc) :
    ∃ t, s.initArcPort enabled env = .ok t ∧ t.core = { s.core with
      config := some (enabled &&
        (env.appControlAudioPortInit || s.device.hdmiCecAudioDeviceDetected)) } := by
  have hport : (s.setArcPortId env.hdmiArcPortId).core = s.core := by
    unfold setArcPortId
    split <;> rfl
  have hconfig : (((s.setArcPortId env.hdmiArcPortId).setAudioOutputPortConfig (enabled &&
      (env.appControlAudioPortInit || s.device.hdmiCecAudioDeviceDetected))).stopTimer
        .timer).core = { s.core with config := some (enabled &&
          (env.appControlAudioPortInit || s.device.hdmiCecAudioDeviceDetected)) } := by
    rw [← hport]
    rfl
  rw [← hconfig]
  unfold initArcPort
  simp only [h.call, ok_bind]
  split
  · have hsame := core_subscribe env (((((s.setArcPortId
      env.hdmiArcPortId).setAudioOutputPortConfig (enabled && (env.appControlAudioPortInit ||
        s.device.hdmiCecAudioDeviceDetected))).stopTimer .timer).setCecEnabled
          env.hdmiCecSinkCecEnableStatus))
    split
    · split <;> exact ⟨_, rfl, hsame⟩
    · exact ⟨_, rfl, hsame⟩
  · exact ⟨_, rfl, rfl⟩

theorem core_setEnableAudioPort_other (h : env.Calm) {port : Text} (hport : port ≠ hdmiArc0)
    (enable : Bool) (s : Arc) :
    (s.setEnableAudioPort (some port) (some enable) env).core = s.core := by
  obtain ⟨success, hresult⟩ := setEnableAudioPort_calm h port enable s
  rw [hresult]
  unfold portEnabled
  simp only [if_neg hport]
  split
  · simp
  · simp only [returnResponse, core_call, core_setAudioPortEnableStatus]
    rw [core_setEnablePersist_other hport, core_checkPowerState]

/-- `HDMI_ARC0` is enabled, or the call is refused in standby. -/
theorem core_enableArcPort (h : env.Calm) (s : Arc) :
    env.powerState.getD s.device.powerState = .standby ∧
      (s.setEnableAudioPort (some hdmiArc0) (some true) env).core = s.core ∨
    env.powerState.getD s.device.powerState ≠ .standby ∧
      (s.setEnableAudioPort (some hdmiArc0) (some true) env).core =
        ((((s.checkPowerState true env).setEnablePersist hdmiArc0 true).audioRouted
          env).setAudioOutputPortConfig true).core := by
  obtain ⟨success, hresult⟩ := setEnableAudioPort_calm h hdmiArc0 true s
  rw [hresult]
  unfold portEnabled arcPortEnabled
  simp only [returnResponse, core_call, if_true]
  split
  · rename_i hstandby
    exact .inl ⟨hstandby.2, core_checkPowerState true s⟩
  · rename_i hawake
    refine .inr ⟨fun hstandby => hawake ⟨trivial, hstandby⟩, ?_⟩
    exact core_setAudioPortEnableStatus ..

theorem core_disableArcPort (h : env.Calm) (s : Arc) :
    (s.setEnableAudioPort (some hdmiArc0) (some false) env).core =
      ((s.setEnablePersist hdmiArc0 false).audioUnrouted.setAudioOutputPortConfig false).core := by
  obtain ⟨success, hresult⟩ := setEnableAudioPort_calm h hdmiArc0 false s
  rw [hresult]
  unfold portEnabled arcPortEnabled
  simp only [returnResponse, core_call, if_true, Bool.false_eq_true, false_and, if_false]
  exact core_setAudioPortEnableStatus ..

/-- A property that holds of the state before and is kept by what is done for each port. -/
theorem initAudioPorts_induct {P : Arc → Prop} {s : Arc} (h : env.Calm)
    (hs : P (s.setRequestedAndReceived true))
    (hport : ∀ s port, P s → ∃ t, s.initAudioPort env port = .ok t ∧ P t) :
    P (settled (s.initAudioPorts env)) := by
  have hstep : ∀ (t : Arc) (port : Text), P t →
      Ends (fun _ => False) P (t.initAudioPort env port) := by
    intro t port ht
    obtain ⟨u, hu, hPu⟩ := hport t port ht
    rw [hu]
    exact hPu
  have hfold := Ends.foldlM hstep hs env.audioOutputPorts
  unfold initAudioPorts
  simp only [h.call, ok_bind]
  cases hresult : env.audioOutputPorts.foldlM (initAudioPort env)
      (s.setRequestedAndReceived true) with
  | ok t => exact hfold.of_ok hresult
  | error t => exact (hfold.of_error hresult).elim

/-- What the UI sees of `HDMI_ARC0` stays off if it is stored as disabled. -/
theorem core_initAudioPorts (h : env.Calm) (s : Arc) :
    ∃ config, (settled (s.initAudioPorts env)).core = { s.core with config := config } ∧
      (s.core.persisted = false → s.core.config.getD false = false →
        config.getD false = false) := by
  refine initAudioPorts_induct (P := fun t => ∃ config, t.core = { s.core with config := config } ∧
      (s.core.persisted = false → s.core.config.getD false = false →
        config.getD false = false)) h ⟨_, rfl, fun _ hoff => hoff⟩ ?_
  intro t port ⟨config, hcore, hoff⟩
  unfold initAudioPort
  by_cases hport : port = hdmiArc0
  · simp only [if_pos hport, h .getEnablePersist, Bool.false_or]
    obtain ⟨u, hu, hleft⟩ := core_initArcPort h (t.ports.enablePersist port)
      (t.setAudioDeviceDetected env.hdmiCecSinkAudioDeviceConnectedStatus)
    refine ⟨u, hu, _, hleft.trans (by rw [setAudioDeviceDetected, core_updateDevice, hcore]), ?_⟩
    intro hpersisted _
    have hstored : t.ports.enablePersist hdmiArc0 = s.core.persisted := congrArg (·.persisted) hcore
    rw [hport, hstored, hpersisted]
    rfl
  · simp only [if_neg hport]
    refine ⟨_, rfl, config, ?_, hoff⟩
    rw [core_setEnableAudioPort_other h hport, setAudioDeviceDetected, core_updateDevice, hcore]

/-- Only `setSoundMode` may not return, and only timers that are active expire. -/
theorem exists_arcStep {s : Arc} {a : ArcEnv × ArcEvent}
    (hmode : ∀ port mode, a.2 ≠ .setSoundMode port mode)
    (htimer : ∀ t, a.2 = .expired t → s.device.timers t = true) : ∃ t, arcStep s a = some t := by
  obtain ⟨env, event⟩ := a
  cases event with
  | setSoundMode port mode => exact absurd rfl (hmode port mode)
  | expired t => exact ⟨_, if_pos (htimer t rfl)⟩
  | _ => exact ⟨_, rfl⟩

end Arc

end DeviceAndDisplay.DisplaySettings
