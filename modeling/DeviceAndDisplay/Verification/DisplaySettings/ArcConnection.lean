import DeviceAndDisplay.Verification.DisplaySettings.ArcParts

/-! # The connection of the ARC device

What the handlers make of the device and of what the UI was told of it, seen as moves of a small
machine of its own. -/

namespace DeviceAndDisplay.DisplaySettings

open Helpers

/-! ### The machine -/

/-- What is known of the device, and what the UI was told of `HDMI_ARC0`, the newest first. -/
structure Connection extends ArcLink where
  told : List Bool := []

namespace Connection

def notify (connected : Bool) (l : Connection) : Connection :=
  { l with
    arcEarcConnectionNotifiedToUI := if connected then .connected else .disconnected
    told := connected :: l.told }

def setConnected (connected : Bool) (l : Connection) : Connection :=
  { l with hdmiInAudioDeviceConnected := connected }

def route (state : ArcState) (l : Connection) : Connection :=
  { l with currentArcRoutingState := state }

def connect (l : Connection) : Connection :=
  if l.hdmiInAudioDeviceConnected then l
  else if l.arcEarcConnectionNotifiedToUI = .disconnected then
    (l.setConnected true).notify true
  else l.setConnected true

def disconnect (l : Connection) : Connection :=
  if l.hdmiInAudioDeviceConnected then (l.setConnected false).notify false else l

def release (l : Connection) : Connection :=
  if l.hdmiInAudioDeviceConnected then
    if l.arcEarcConnectionNotifiedToUI = .connected then (l.setConnected false).notify false
    else l.setConnected false
  else l

/-- What a step makes of the connection. -/
inductive Move (l : Connection) : Connection → Prop where
  | stay : Move l l
  | initiated : Move l (l.route .arcInitiated).connect
  | terminated : Move l (l.route .arcTerminated)
  | requested : l.currentArcRoutingState ≠ .arcInitiated →
      Move l (l.route .requestArcInitiation)
  | detected : Move l l.connect
  | released : Move l (l.route .arcTerminated).release
  | disconnected : Move l (l.route .arcTerminated).disconnect

theorem route_disconnect (state : ArcState) (l : Connection) :
    l.disconnect.route state = (l.route state).disconnect := by
  simp only [disconnect, apply_ite (route state)]
  rfl

end Connection

def ArcCore.connection (c : ArcCore) : Connection where
  toArcLink := c.link
  told := c.told

namespace Arc

def connection (s : Arc) : Connection := s.core.connection

@[simp] theorem connection_create (received : Bool) : (create received).connection = {} := rfl

theorem connection_of_core {s t : Arc} (h : t.core = s.core) : t.connection = s.connection :=
  congrArg ArcCore.connection h

variable {s t : Arc} {env : ArcEnv}

/-! ### Changes -/

@[simp] theorem connection_updateAudio (f : ArcAudio → ArcAudio) (s : Arc) :
    (s.updateAudio f).connection = s.connection := rfl

@[simp] theorem connection_updateSad (f : ArcSAD → ArcSAD) (s : Arc) :
    (s.updateSad f).connection = s.connection := rfl

@[simp] theorem connection_updatePorts (f : ArcPorts → ArcPorts) (s : Arc) :
    (s.updatePorts f).connection = s.connection := rfl

@[simp] theorem connection_updateDevice (f : ArcDevice → ArcDevice) (s : Arc) :
    (s.updateDevice f).connection = s.connection := rfl

@[simp] theorem connection_call (s : Arc) :
    (∀ type enable, (s.call (.enableARC type enable)).connection = s.connection) ∧
    (∀ list, (s.call (.setSAD list)).connection = s.connection) ∧
    (∀ msg, (s.call (.sendMsgToQueue msg)).connection = s.connection) ∧
    (∀ port enable, (s.call (.audioPortEnableStatusChanged port enable)).connection =
      s.connection) ∧
    (∀ level, (s.call (.volumeLevelChanged level)).connection = s.connection) ∧
    (∀ muted, (s.call (.muteStatusChanged muted)).connection = s.connection) ∧
    (∀ ports, (s.call (.connectedAudioPorts ports)).connection = s.connection) ∧
    ∀ success, (s.call (.returnResponse success)).connection = s.connection :=
  ⟨fun _ _ => rfl, fun _ => rfl, fun _ => rfl, fun _ _ => rfl, fun _ => rfl, fun _ => rfl,
    fun _ => rfl, fun _ => rfl⟩

@[simp] theorem connection_setArcRoutingState (state : ArcState) (s : Arc) :
    (s.setArcRoutingState state).connection = s.connection.route state := rfl

@[simp] theorem connection_terminateArc (s : Arc) :
    s.terminateArc.connection = s.connection.route .arcTerminated := rfl

@[simp] theorem connection_notifyUI (connected : Bool) (s : Arc) :
    (s.notifyUI connected).connection = s.connection.notify connected := rfl

@[simp] theorem connection_deviceConnected (s : Arc) :
    s.deviceConnected.connection = s.connection.connect := by
  unfold deviceConnected Connection.connect
  simp only [apply_ite connection]
  rfl

@[simp] theorem connection_deviceDisconnected (s : Arc) :
    s.deviceDisconnected.connection = s.connection.disconnect := by
  unfold deviceDisconnected Connection.disconnect
  simp only [apply_ite connection]
  rfl

@[simp] theorem connection_deviceReleased (s : Arc) :
    s.deviceReleased.connection = s.connection.release := by
  unfold deviceReleased Connection.release
  simp only [apply_ite connection]
  rfl

@[simp] theorem connection_clearSAD (s : Arc) : s.clearSAD.connection = s.connection :=
  (congrArg ArcCore.connection s.core_clearSAD :)

@[simp] theorem connection_clearSADUnlessIdle (s : Arc) :
    s.clearSADUnlessIdle.connection = s.connection :=
  (congrArg ArcCore.connection s.core_clearSADUnlessIdle :)

@[simp] theorem connection_requestSADIf (wanted : Bool) (s : Arc) :
    (s.requestSADIf wanted).connection = s.connection :=
  (congrArg ArcCore.connection (core_requestSADIf wanted s) :)

@[simp] theorem connection_assumeArc (s : Arc) : s.assumeArc.connection = s.connection :=
  (congrArg ArcCore.connection s.core_assumeArc :)

@[simp] theorem connection_resetDeviceType (s : Arc) :
    s.resetDeviceType.connection = s.connection :=
  (congrArg ArcCore.connection s.core_resetDeviceType :)

@[simp] theorem connection_stopPowerOnStatusTimer (s : Arc) :
    s.stopPowerOnStatusTimer.connection = s.connection :=
  connection_of_core s.core_stopPowerOnStatusTimer

@[simp] theorem connection_stopDetection (s : Arc) :
    s.stopDetection.connection = s.connection :=
  connection_of_core s.core_stopDetection

/-! ### Handlers -/

open Connection (Move)

theorem move_onARCInitiation (h : env.Calm) (status : Option Text) (s : Arc) :
    s.connection.Move (settled (s.onARCInitiation status env)).connection := by
  unfold onARCInitiation
  simp only [h.call, h.wantsSAD, ok_bind]
  split
  · exact .stay
  · split
    · split
      · simpa using Move.initiated
      · exact .terminated
    · exact .stay

theorem move_onARCTermination (status : Option Text) (s : Arc) :
    s.connection.Move (s.onARCTermination status).connection := by
  unfold onARCTermination
  simp only
  split
  · simpa using Move.stay
  · split
    · simpa using Move.stay
    · split
      · simpa using Move.released
      · simpa using Move.terminated

theorem connection_applySAD (h : env.Calm) (s : Arc) :
    (settled (s.applySAD env)).connection = s.connection := by
  unfold applySAD
  simp only [h.updateSAD, h.setStereoAgain, h.enableARC, ok_bind]
  split
  · simp
  · split <;> simp

theorem connection_onShortAudioDescriptor (h : env.Calm) (list : Option (List ℤ)) (s : Arc) :
    (settled (s.onShortAudioDescriptor list env)).connection = s.connection := by
  unfold onShortAudioDescriptor
  simp only [h.call, ok_bind]
  split
  · rfl
  · split
    · split
      · simp
      · split
        · simp [connection_applySAD h]
        · simp
    · rfl

theorem move_onSystemAudioMode (audioMode : Option Text) (s : Arc) :
    s.connection.Move (s.onSystemAudioMode audioMode).connection := by
  unfold onSystemAudioMode
  simp only
  split
  · exact .stay
  · split
    · simpa using Move.stay
    · split
      · split
        · simpa using Move.released
        · simpa using Move.stay
      · exact .stay

theorem move_deviceTerminated (s : Arc) : s.connection.Move s.deviceTerminated.connection := by
  unfold deviceTerminated
  split
  · simpa using Move.disconnected
  · exact .stay

theorem move_onAudioDeviceConnectedStatus (connected : Option Text) (s : Arc) :
    s.connection.Move (s.onAudioDeviceConnectedStatus connected).connection := by
  unfold onAudioDeviceConnectedStatus
  split
  · simpa using Move.stay
  · simpa using move_deviceTerminated (s.setAudioDeviceDetected false)

theorem move_onAudioDevicePowerStatus (h : env.Calm) (status : Option Text) (s : Arc) :
    s.connection.Move (settled (s.onAudioDevicePowerStatus status env)).connection := by
  unfold onAudioDevicePowerStatus onAvrPowerOn
  simp only [h.call, ok_bind]
  split
  · exact .stay
  · split
    · split
      · simpa using Move.stay
      · split
        · simpa using Move.detected
        · split <;> simpa using Move.stay
    · split
      · simpa using Move.stay
      · split
        · simpa using Move.stay
        · exact .stay

theorem move_onHdmiInEventHotPlug (port : ℤ) (connected : Bool) (s : Arc) :
    s.connection.Move (s.onHdmiInEventHotPlug port connected).connection := by
  unfold onHdmiInEventHotPlug
  split
  · have hmove := Move.disconnected (l := s.connection)
    rw [← Connection.route_disconnect] at hmove
    simpa using hmove
  · exact .stay

theorem move_onPowerModeChanged (h : env.Calm) (state : PowerManager.PowerState) (s : Arc) :
    s.connection.Move (settled (s.onPowerModeChanged state env)).connection := by
  unfold onPowerModeChanged cleanupArc
  simp only [h.call, h.enableARC, ok_bind]
  split
  · simpa using Move.stay
  · split
    · split <;> simpa using Move.disconnected
    · simpa using Move.stay

theorem connection_onCecEnabled {enable : Option Text} (hoff : enable ≠ some "true".toList)
    (s : Arc) : (s.onCecEnabled enable).connection = s.connection.disconnect := by
  unfold onCecEnabled
  rw [if_neg hoff]
  simp

theorem connection_checkSADUpdate (h : env.Calm) (s : Arc) :
    (settled (s.checkSADUpdate env)).connection = s.connection := by
  unfold checkSADUpdate
  simp only [h.call, h.updateSAD, h.setStereoAgain, h.enableARC, ok_bind]
  split
  · simp
  · split
    · split <;> simp
    · split <;> simp

theorem move_retryArc {s : Arc} (hrouting : s.link.currentArcRoutingState ≠ .arcInitiated) :
    s.connection.Move s.retryArc.connection := by
  unfold retryArc
  simp only
  split
  · simpa using Move.stay
  · split
    · simpa using Move.requested hrouting
    · simpa using Move.stay

theorem move_checkArcDeviceConnected (h : env.Calm) (s : Arc) :
    s.connection.Move (settled (s.checkArcDeviceConnected env)).connection := by
  unfold checkArcDeviceConnected detectArc
  simp only [h.call, ok_bind, settled_pure, connection_stopDetection]
  split
  · exact .stay
  · rename_i hnot
    split
    · simpa using Move.detected
    · exact move_retryArc fun hrouting => hnot (.inl hrouting)

/-! ### API calls -/

theorem move_getConnectedAudioPorts (s : Arc) :
    s.connection.Move (s.getConnectedAudioPorts env).connection := by
  obtain ⟨t, ports, hresult, hsame | ⟨hup, _, hleft⟩⟩ := getConnectedAudioPorts_cases env s
  · rw [hresult, hsame]
    simpa using Move.stay
  · rw [hresult, hleft, restarted, deviceTerminated, if_pos hup]
    simpa using Move.disconnected

theorem connection_routedBySAD (s : Arc) : s.routedBySAD.connection = s.connection := by
  unfold routedBySAD
  split
  · simp
  · simp
  · split <;> simp
  · rfl

theorem connection_audioRouted (s : Arc) : (s.audioRouted env).connection = s.connection := by
  unfold audioRouted
  split
  · split
    · simp
    · simp only [connection_of_core (core_sendMuteKeyIf _ _)]
      split <;> simp [connection_routedBySAD]
    · rfl
  · rfl

theorem connection_audioUnrouted (s : Arc) : s.audioUnrouted.connection = s.connection := by
  unfold audioUnrouted
  split
  · split <;> simp
  · rfl

theorem connection_enableArcPort (h : env.Calm) (enable : Bool) (s : Arc) :
    (s.setEnableAudioPort (some hdmiArc0) (some enable) env).connection = s.connection := by
  cases enable with
  | true =>
      rcases core_enableArcPort h s with ⟨_, hcore⟩ | ⟨_, hcore⟩
      · exact connection_of_core hcore
      · have hpower : (s.checkPowerState true env).connection = s.connection :=
          connection_of_core (core_checkPowerState true s)
        rw [connection_of_core hcore]
        simp [connection_audioRouted, hpower]
  | false =>
      rw [connection_of_core (core_disableArcPort h s)]
      simp [connection_audioUnrouted]

theorem connection_setEnableAudioPort (h : env.Calm) (port : Option Text) (enable : Option Bool)
    (s : Arc) : (s.setEnableAudioPort port enable env).connection = s.connection := by
  cases port with
  | none => rfl
  | some port =>
      cases enable with
      | none => rfl
      | some enable =>
          by_cases hport : port = hdmiArc0
          · rw [hport]
            exact connection_enableArcPort h enable s
          · exact connection_of_core (core_setEnableAudioPort_other h hport enable s)

theorem connection_setSoundMode (h : env.Calm) {port : Text} {mode : Option Text}
    (ht : s.setSoundMode port mode env = some t) : t.connection = s.connection := by
  obtain ⟨u, success, rfl, rfl | ⟨_, _, rfl | rfl⟩⟩ := setSoundMode_cases h ht
  · rfl
  · simp
  · simp

/-! ### Steps -/

/-- What a step does to the connection. Only the end of CEC leaves the routing state behind, and
only a hot-plug of the output tells the UI something that is not recorded. -/
theorem connection_step {a : ArcEnv × ArcEvent} (h : a.1.Calm) (ht : arcStep s a = some t) :
    s.connection.Move t.connection ∨
    (∃ connected, a.2 = .audioOutHotPlug .hdmiArc connected ∧
      t.connection = s.connection.notify connected) ∨
    ∃ enable, a.2 = .cecEnabled enable ∧ enable ≠ some "true".toList ∧
      t.connection = s.connection.disconnect := by
  obtain ⟨env, event⟩ := a
  have hstay : ∀ {u : Arc}, u.connection = s.connection → s.connection.Move u.connection :=
    fun hu => hu ▸ .stay
  cases event with
  | arcInitiation status =>
      cases ht
      exact .inl (move_onARCInitiation h status s)
  | arcTermination status =>
      cases ht
      exact .inl (move_onARCTermination status s)
  | shortAudioDescriptor list =>
      cases ht
      exact .inl (hstay (connection_onShortAudioDescriptor h list s))
  | systemAudioMode mode =>
      cases ht
      exact .inl (move_onSystemAudioMode mode s)
  | audioDeviceConnectedStatus connected =>
      cases ht
      exact .inl (move_onAudioDeviceConnectedStatus connected s)
  | audioDevicePowerStatus status =>
      cases ht
      exact .inl (move_onAudioDevicePowerStatus h status s)
  | cecEnabled enable =>
      cases ht
      by_cases hon : enable = some "true".toList
      · unfold onCecEnabled
        rw [if_pos hon]
        exact .inl (by simpa using Move.stay)
      · exact .inr (.inr ⟨enable, rfl, hon, connection_onCecEnabled hon s⟩)
  | arcAudioStatus mute volume =>
      cases ht
      exact .inl (hstay (connection_of_core (core_onArcAudioStatus mute volume s)))
  | audioOutHotPlug port connected =>
      cases ht
      unfold onAudioOutHotPlug
      split
      · rename_i hport
        exact .inr (.inl ⟨connected, by rw [hport], rfl⟩)
      · rename_i hport
        cases port with
        | hdmiArc => exact absurd rfl hport
        | headphone => exact .inl (hstay rfl)
        | other => exact .inl (hstay rfl)
  | hdmiInEventHotPlug port connected =>
      cases ht
      exact .inl (move_onHdmiInEventHotPlug port connected s)
  | powerModeChanged state =>
      cases ht
      exact .inl (move_onPowerModeChanged h state s)
  | initAudioPorts =>
      cases ht
      obtain ⟨config, hcore, _⟩ := core_initAudioPorts h s
      have hsame := congrArg ArcCore.connection hcore
      exact .inl (hstay hsame)
  | getConnectedAudioPorts =>
      cases ht
      exact .inl (move_getConnectedAudioPorts s)
  | setEnableAudioPort port enable =>
      cases ht
      exact .inl (hstay (connection_setEnableAudioPort h port enable s))
  | setSoundMode port mode => exact .inl (hstay (connection_setSoundMode h ht))
  | expired expiring =>
      obtain ⟨_, ht⟩ := Option.ite_none_right_eq_some.mp ht
      cases ht
      cases expiring with
      | timer => exact .inl (hstay (connection_of_core (core_onTimer env s)))
      | audioDeviceDetectTimer =>
          exact .inl (hstay (connection_of_core (core_checkAudioDeviceDetectionTimer s)))
      | sadDetectionTimer => exact .inl (hstay (connection_checkSADUpdate h s))
      | arcDetectionTimer => exact .inl (move_checkArcDeviceConnected h s)
      | audioDevicePowerOnStatusTimer =>
          exact .inl (hstay (connection_of_core (core_checkAudioDevicePowerStatusTimer s)))

end Arc

end DeviceAndDisplay.DisplaySettings
