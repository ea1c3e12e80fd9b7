import DeviceAndDisplay.Verification.DisplaySettings.ArcParts

/-! # What most handlers leave

A predicate about what is routed, the timer for the short audio descriptors and the counter of the
detection is kept by all handlers that have no business with these, whatever calls of the device
settings library throw. -/

namespace DeviceAndDisplay.DisplaySettings

open Helpers Transition

namespace Arc

/-- The predicate is kept by changes of other parts. -/
structure Framed (P : Arc → Prop) : Prop where
  link : ∀ f s, P s → P (s.updateLink f)
  audio : ∀ f s, (f s.audio).arcEarcAudioEnabled = s.audio.arcEarcAudioEnabled → P s →
    P (s.updateAudio f)
  sad : ∀ f s, P s → P (s.updateSad f)
  ports : ∀ f s, P s → P (s.updatePorts f)
  device : ∀ f s, (f s.device).retryArcCount = s.device.retryArcCount →
    (f s.device).timers .sadDetectionTimer = s.device.timers .sadDetectionTimer → P s →
    P (s.updateDevice f)
  call : ∀ c s, P s → P (s.call c)

/-- It holds in the state that is left, also by an exception. -/
def Leaves (P : Arc → Prop) (result : Except Arc Arc) : Prop := Ends P P result

/-- The same if there is a result besides. -/
def LeavesFst (P : Arc → Prop) (result : Except Arc (Arc × Bool)) : Prop :=
  Ends P (fun p => P p.1) result

variable {P : Arc → Prop} {s t : Arc} {env : ArcEnv}

/-! ### Calls that may throw -/

theorem Leaves.settled {result : Except Arc Arc} (h : Leaves P result) : P (settled result) := by
  cases result with
  | ok s => exact h
  | error s => exact h

theorem ends_call (c : HalCall) (h : P s) : Ends P (fun _ => True) (env.call c s) := by
  unfold ArcEnv.call
  split
  · exact h
  · trivial

theorem Leaves.call {next : Unit → Except Arc Arc} (c : HalCall) (h : P s)
    (hnext : Leaves P (next ())) : Leaves P (env.call c s >>= next) :=
  Ends.bind (ends_call c h) fun _ _ => hnext

theorem Leaves.bind {x : Except Arc Arc} {next : Arc → Except Arc Arc} (h : Leaves P x)
    (hnext : ∀ t : Arc, P t → Leaves P (next t)) : Leaves P (x >>= next) :=
  Ends.bind h hnext

theorem ends_passThruOrAuto (h : P s) : Ends P (fun _ => True) (s.passThruOrAuto env) := by
  unfold passThruOrAuto
  split
  · trivial
  · exact Ends.bind (ends_call _ h) fun _ _ => trivial

theorem ends_wantsSAD (h : P s) : Ends P (fun _ => True) (s.wantsSAD env) := by
  unfold wantsSAD
  split
  · exact ends_passThruOrAuto h
  · trivial

theorem ends_setStereoAgain (h : P s) : Ends P (fun _ => True) (s.setStereoAgain env) := by
  unfold setStereoAgain
  refine Ends.bind (ends_call _ h) fun _ _ => ?_
  split
  · exact ends_call _ h
  · exact Ends.bind (ends_call _ h) fun _ _ => ends_call _ h

theorem leaves_setEnableOtherPort (h : P s) : LeavesFst P (s.setEnableOtherPort env) := by
  unfold setEnableOtherPort
  refine Ends.bind (ends_call _ h) fun _ _ => ?_
  simp only
  split
  · refine Ends.bind (ends_call _ h) fun _ _ => ?_
    split
    · exact Ends.bind (ends_call _ h) fun _ _ => h
    · exact h
  · exact h

namespace Framed

/-! ### Changes -/

theorem setTimer (hP : Framed P) {t : ArcTimer} (ht : t ≠ .sadDetectionTimer) (active : Bool)
    (h : P s) : P (s.setTimer t active) :=
  hP.device _ s rfl (Function.update_of_ne ht.symm _ _) h

theorem sendMsgToQueue (hP : Framed P) (msg : ArcMessage) (h : P s) : P (s.sendMsgToQueue msg) :=
  hP.call _ s h

theorem sendMuteKeyIf (hP : Framed P) (muted : Bool) (h : P s) : P (s.sendMuteKeyIf muted) := by
  unfold Arc.sendMuteKeyIf
  split
  · exact h
  · exact hP.sendMsgToQueue _ h

theorem setDeviceType (hP : Framed P) (type : AudioARCType) (h : P s) :
    P (s.setDeviceType type) :=
  hP.audio _ s rfl h

theorem requestPowerStatus (hP : Framed P) (h : P s) : P s.requestPowerStatus :=
  hP.call _ _ (hP.device _ s rfl rfl h)

theorem terminateArc (hP : Framed P) (h : P s) : P s.terminateArc := by
  have hrouting : P (s.setArcRoutingState .arcTerminated) := hP.link _ s h
  exact hP.sad (fun sad => { sad with requestSadRetrigger := false }) _ hrouting

theorem notifyUI (hP : Framed P) (connected : Bool) (h : P s) : P (s.notifyUI connected) :=
  hP.link _ _ (hP.call _ s h)

theorem deviceConnected (hP : Framed P) (h : P s) : P s.deviceConnected := by
  unfold Arc.deviceConnected
  split_ifs
  · exact h
  · exact hP.notifyUI true (hP.link _ s h)
  · exact hP.link _ s h

theorem deviceDisconnected (hP : Framed P) (h : P s) : P s.deviceDisconnected := by
  unfold Arc.deviceDisconnected
  split
  · exact hP.notifyUI false (hP.device _ _ rfl rfl (hP.link _ s h))
  · exact h

theorem deviceReleased (hP : Framed P) (h : P s) : P s.deviceReleased := by
  unfold Arc.deviceReleased
  split_ifs
  · exact hP.notifyUI false (hP.link _ s h)
  · exact hP.link _ s h
  · exact h

theorem deviceTerminated (hP : Framed P) (h : P s) : P s.deviceTerminated := by
  unfold Arc.deviceTerminated
  split
  · exact hP.deviceDisconnected (hP.terminateArc h)
  · exact h

theorem clearSAD (hP : Framed P) (h : P s) : P s.clearSAD := by
  unfold Arc.clearSAD
  split
  · exact h
  · exact hP.sad _ s h

theorem clearSADUnlessIdle (hP : Framed P) (h : P s) : P s.clearSADUnlessIdle := by
  unfold Arc.clearSADUnlessIdle
  split
  · exact h
  · exact hP.clearSAD h

theorem requestSADIf (hP : Framed P) (wanted : Bool) (h : P s) : P (s.requestSADIf wanted) := by
  unfold Arc.requestSADIf
  split
  · exact hP.call _ _ (hP.sad _ s h)
  · exact h

theorem assumeArc (hP : Framed P) (h : P s) : P s.assumeArc := by
  unfold Arc.assumeArc
  split
  · exact hP.setDeviceType .arc h
  · exact h

theorem resetDeviceType (hP : Framed P) (h : P s) : P s.resetDeviceType := by
  unfold Arc.resetDeviceType
  split
  · exact hP.setDeviceType .none h
  · exact h

theorem stopPowerOnStatusTimer (hP : Framed P) (h : P s) : P s.stopPowerOnStatusTimer := by
  unfold Arc.stopPowerOnStatusTimer
  split
  · exact hP.setTimer (by decide) false (hP.device _ s rfl rfl h)
  · exact h

theorem leaves_updateSAD (hP : Framed P) (h : P s) : Leaves P (s.updateSAD env) :=
  Leaves.call _ (hP.call _ _ (hP.sad _ s h)) (hP.call _ _ (hP.sad _ s h))

/-! ### Handlers -/

theorem onARCInitiation (hP : Framed P) (status : Option Text) (h : P s) :
    Leaves P (s.onARCInitiation status env) := by
  unfold Arc.onARCInitiation
  split
  · exact h
  · split
    · split
      · have hrouting : P (s.setArcRoutingState .arcInitiated) := hP.link _ s h
        refine Leaves.call _ hrouting (Leaves.call _ hrouting ?_)
        refine Ends.bind (ends_wantsSAD hrouting) fun wanted _ => ?_
        exact hP.deviceConnected (hP.assumeArc (hP.requestSADIf wanted hrouting))
      · exact hP.link _ s h
    · exact h

theorem onARCTermination (hP : Framed P) (status : Option Text) (h : P s) :
    P (s.onARCTermination status) := by
  have hcleared := hP.clearSAD h
  unfold Arc.onARCTermination
  simp only
  split
  · exact hcleared
  · split
    · exact hcleared
    · split
      · exact hP.deviceReleased (hP.terminateArc hcleared)
      · exact hP.terminateArc hcleared

theorem onSystemAudioMode (hP : Framed P) (audioMode : Option Text) (h : P s) :
    P (s.onSystemAudioMode audioMode) := by
  unfold Arc.onSystemAudioMode
  split
  · exact h
  · split
    · exact hP.requestPowerStatus (hP.device _ s rfl rfl h)
    · split
      · have hpower : P (s.setDevicePowerState .unknown) := hP.device _ s rfl rfl h
        simp only
        split
        · exact hP.deviceReleased (hP.terminateArc hpower)
        · exact hpower
      · exact h

theorem onAudioDeviceConnectedStatus (hP : Framed P) (connected : Option Text) (h : P s) :
    P (s.onAudioDeviceConnectedStatus connected) := by
  have hdetected : ∀ detected, P (s.setAudioDeviceDetected detected) := fun detected =>
    hP.device _ s rfl rfl h
  unfold Arc.onAudioDeviceConnectedStatus
  split
  · exact hP.device _ _ rfl rfl (hP.requestPowerStatus (hP.sendMsgToQueue _ (hdetected true)))
  · refine hP.device _ _ rfl rfl (hP.resetDeviceType (hP.clearSADUnlessIdle ?_))
    exact hP.deviceTerminated (hdetected false)

theorem onAvrPowerOn (hP : Framed P) (h : P s) : Leaves P (s.onAvrPowerOn env) := by
  have hpower : P ((s.setDevicePowerState .on).setRequestedAndReceived
      true).stopPowerOnStatusTimer :=
    hP.stopPowerOnStatusTimer (hP.device _ _ rfl rfl (hP.device _ s rfl rfl h))
  refine Leaves.call _ hpower (Leaves.call _ hpower ?_)
  split
  · exact hpower
  · split
    · exact hP.deviceConnected (hP.setDeviceType .eARC hpower)
    · split
      · exact hpower
      · exact hP.setTimer (by decide) true hpower

theorem onAudioDevicePowerStatus (hP : Framed P) (status : Option Text) (h : P s) :
    Leaves P (s.onAudioDevicePowerStatus status env) := by
  unfold Arc.onAudioDevicePowerStatus
  simp only
  split_ifs
  · exact h
  · exact hP.onAvrPowerOn h
  · exact hP.device _ s rfl rfl h
  · exact hP.requestPowerStatus h
  · exact h

theorem onCecEnabled (hP : Framed P) (enable : Option Text) (h : P s) :
    P (s.onCecEnabled enable) := by
  unfold Arc.onCecEnabled
  split
  · exact hP.device _ s rfl rfl h
  · exact hP.deviceDisconnected (hP.resetDeviceType (hP.device _ s rfl rfl h))

theorem setArcVolumeLevel (hP : Framed P) (level : ℤ) (h : P s) :
    P (s.setArcVolumeLevel level) := by
  unfold Arc.setArcVolumeLevel
  split
  · exact h
  · exact hP.call _ _ (hP.device _ s rfl rfl h)

theorem setArcMuteStatus (hP : Framed P) (muted : Bool) (h : P s) :
    P (s.setArcMuteStatus muted) := by
  unfold Arc.setArcMuteStatus
  split
  · exact h
  · exact hP.call _ _ (hP.device _ s rfl rfl h)

theorem onArcAudioStatus (hP : Framed P) (mute volume : Option Text) (h : P s) :
    P (s.onArcAudioStatus mute volume) := by
  unfold Arc.onArcAudioStatus
  split
  · split
    · exact h
    · exact hP.setArcVolumeLevel _ h
    · exact hP.setArcMuteStatus _ (hP.setArcVolumeLevel _ h)
  · exact h

theorem onAudioOutHotPlug (hP : Framed P) (port : AudioPortType) (connected : Bool) (h : P s) :
    P (s.onAudioOutHotPlug port connected) := by
  unfold Arc.onAudioOutHotPlug
  split
  · exact hP.notifyUI connected h
  · exact hP.call _ s h

theorem onHdmiInEventHotPlug (hP : Framed P) (port : ℤ) (connected : Bool) (h : P s) :
    P (s.onHdmiInEventHotPlug port connected) := by
  unfold Arc.onHdmiInEventHotPlug
  split
  · exact hP.clearSAD (hP.terminateArc (hP.deviceDisconnected h))
  · exact h

/-! ### Timers -/

theorem onTimer (hP : Framed P) (h : P s) : P (s.onTimer env) := by
  have hsubscribe : P (s.subscribeOnTimer env) := by
    unfold subscribeOnTimer
    split
    · exact hP.setTimer (by decide) false (hP.device _ s rfl rfl h)
    · exact h
  have hrecheck : P ((s.subscribeOnTimer env).recheckCecEnabled env) := by
    unfold recheckCecEnabled
    split
    · exact hsubscribe
    · exact hP.device _ _ rfl rfl hsubscribe
  unfold Arc.onTimer
  simp only
  split
  · exact hP.requestPowerStatus (hP.sendMsgToQueue _ hrecheck)
  · exact hrecheck

theorem checkAudioDeviceDetectionTimer (hP : Framed P) (h : P s) :
    P s.checkAudioDeviceDetectionTimer := by
  unfold Arc.checkAudioDeviceDetectionTimer
  split
  · refine hP.setTimer (by decide) false (hP.setTimer (by decide) true ?_)
    exact hP.sendMsgToQueue _ (hP.device _ s rfl rfl h)
  · exact hP.setTimer (by decide) false h

theorem checkAudioDevicePowerStatusTimer (hP : Framed P) (h : P s) :
    P s.checkAudioDevicePowerStatusTimer := by
  have hsend : P s.sendPowerOnAgain := by
    unfold sendPowerOnAgain
    split
    · exact hP.sendMsgToQueue _ h
    · exact h
  have hagain : P s.requestPowerStatusAgain := by
    unfold requestPowerStatusAgain
    split
    · exact hP.device _ _ rfl rfl (hP.requestPowerStatus hsend)
    · exact h
  unfold Arc.checkAudioDevicePowerStatusTimer
  simp only
  split
  · refine hP.setTimer (by decide) false ?_
    exact hP.device _ _ rfl rfl (hP.device _ _ rfl rfl hagain)
  · exact hagain

/-! ### API calls -/

theorem getConnectedAudioPorts (hP : Framed P) (h : P s) : P (s.getConnectedAudioPorts env) := by
  obtain ⟨t, ports, hresult, rfl | ⟨_, _, rfl⟩⟩ := getConnectedAudioPorts_cases env s
  · rw [hresult]
    exact hP.call _ _ (hP.call _ _ h)
  · rw [hresult]
    refine hP.call _ _ (hP.call _ _ (hP.sendMsgToQueue _ (hP.sad _ _ ?_)))
    exact hP.setDeviceType .none (hP.deviceTerminated h)

theorem checkPowerState (hP : Framed P) (enable : Bool) (h : P s) :
    P (s.checkPowerState enable env) := by
  unfold Arc.checkPowerState
  split
  · exact hP.device _ s rfl rfl h
  · exact h

theorem setAudioPortEnableStatus (hP : Framed P) (port : Text) (enable : Bool) (h : P s) :
    P (s.setAudioPortEnableStatus port enable) := by
  unfold Arc.setAudioPortEnableStatus
  split
  · exact h
  · exact hP.call _ _ (hP.ports _ s h)

/-- `setEnableAudioPort`, if the predicate is kept by what is done for `HDMI_ARC0`. -/
theorem setEnableAudioPort (hP : Framed P) {port : Option Text} {enable : Option Bool}
    (harc : ∀ pEnable, port = some hdmiArc0 → enable = some pEnable → ∀ s, P s →
      LeavesFst P (s.setEnableArcPort pEnable env)) (h : P s) :
    P (s.setEnableAudioPort port enable env) := by
  unfold Arc.setEnableAudioPort
  split
  · rename_i port pEnable
    have hchecked : P (s.checkPowerState pEnable env) := hP.checkPowerState pEnable h
    simp only
    split
    · exact hP.call _ _ hchecked
    · have hpersist := hP.ports (fun ports => { ports with
        enablePersist := Function.update ports.enablePersist port pEnable }) _ hchecked
      have hport : LeavesFst P (do
          env.call .getAudioOutputPort (s.checkPowerState pEnable env)
          env.call .setEnablePersist (s.checkPowerState pEnable env)
          let s := (s.checkPowerState pEnable env).setEnablePersist port pEnable
          if port = hdmiArc0 then s.setEnableArcPort pEnable env
          else s.setEnableOtherPort env) := by
        refine Ends.bind (ends_call _ hchecked) fun _ _ =>
          Ends.bind (ends_call _ hchecked) fun _ _ => ?_
        simp only
        split
        · rename_i harc0
          exact harc pEnable (congrArg some harc0) rfl _ hpersist
        · exact leaves_setEnableOtherPort hpersist
      refine hP.call _ _ (hP.setAudioPortEnableStatus port pEnable ?_)
      split
      · rename_i result hresult
        exact hport.of_ok hresult
      · rename_i u hresult
        exact hport.of_error hresult
  · exact hP.call _ s h

theorem setArcSoundMode (hP : Framed P) (mode : AudioStereoMode) (auto : Bool) (h : P s) :
    Leaves P (s.setArcSoundMode mode auto env) := by
  have hchange : P (s.changeSAD mode) := by
    unfold changeSAD
    split_ifs
    · exact hP.requestSADIf _ h
    · exact hP.clearSAD h
    · exact h
  have hrequest : P (s.requestSADIf s.sadIdle) := hP.requestSADIf _ h
  unfold Arc.setArcSoundMode
  simp only
  split_ifs
  · exact Leaves.call _ h (Leaves.call _ hchange hchange)
  · exact Leaves.call _ h (Leaves.call _ h h)
  · exact Leaves.call _ h h
  · exact Leaves.call _ hrequest hrequest
  · exact h

theorem setSoundMode (hP : Framed P) {port : Text} {mode : Option Text} (h : P s)
    (ht : s.setSoundMode port mode env = some t) : P t := by
  unfold Arc.setSoundMode at ht
  split at ht
  · cases ht
    exact hP.call _ s h
  · cases ht
    exact hP.call _ s h
  · simp only at ht
    split at ht
    · cases ht
      exact hP.call _ s h
    · cases ht
    · rename_i mode auto _ _ port _ _
      cases ht
      have hmode : Leaves P (do
          env.call .getAudioOutputPort s
          env.call .isConnected s
          env.call .getType s
          if env.isConnected port = true ∧ env.portType port = .arc then
            s.setArcSoundMode mode auto env
          else return s) := by
        refine Leaves.call _ h (Leaves.call _ h (Leaves.call _ h ?_))
        split
        · exact hP.setArcSoundMode mode auto h
        · exact h
      split
      · rename_i u hresult
        exact hP.call _ u (hmode.of_ok hresult)
      · rename_i u hresult
        exact hP.call _ u (hmode.of_error hresult)

/-! ### InitAudioPorts -/

theorem initArcPort (hP : Framed P) (enabled : Bool) (h : P s) :
    Leaves P (s.initArcPort enabled env) := by
  have hportId : P (s.setArcPortId env.hdmiArcPortId) := by
    unfold setArcPortId
    split
    · exact hP.device _ s rfl rfl h
    · exact h
  have hsubscribe : ∀ u, P u → P (u.subscribe env) := by
    intro u hu
    unfold subscribe
    split
    · exact hP.device _ u rfl rfl hu
    · exact hu
  have hcec : ∀ config : Bool, P ((((s.setArcPortId env.hdmiArcPortId).setAudioOutputPortConfig
      config).stopTimer .timer).setCecEnabled env.hdmiCecSinkCecEnableStatus) := fun config =>
    hP.device _ _ rfl rfl (hP.setTimer (by decide) false (hP.ports _ _ hportId))
  unfold Arc.initArcPort
  refine Leaves.call _ h ?_
  simp only
  split
  · split
    · split
      · refine hP.setTimer (by decide) true (hP.sendMsgToQueue _ (hP.sendMsgToQueue _ ?_))
        exact hP.device _ _ rfl rfl (hsubscribe _ (hcec _))
      · exact hP.setTimer (by decide) true (hsubscribe _ (hcec _))
    · exact hsubscribe _ (hcec _)
  · exact hP.setTimer (by decide) true (hcec _)

theorem initAudioPort (hP : Framed P) (port : Text) (h : P s) :
    Leaves P (s.initAudioPort env port) := by
  have hdetected : P (s.setAudioDeviceDetected env.hdmiCecSinkAudioDeviceConnectedStatus) :=
    hP.device _ s rfl rfl h
  unfold Arc.initAudioPort
  simp only
  split
  · exact hP.initArcPort _ hdetected
  · rename_i hother
    refine hP.setEnableAudioPort ?_ hdetected
    intro pEnable hport
    exact absurd (Option.some.inj hport) hother

theorem initAudioPorts (hP : Framed P) (h : P s) : Leaves P (s.initAudioPorts env) := by
  have hreceived : P (s.setRequestedAndReceived true) := hP.device _ s rfl rfl h
  have hport : ∀ (t : Arc) (port : Text), P t → Ends P P (t.initAudioPort env port) :=
    fun t port ht => hP.initAudioPort port ht
  exact Leaves.call _ hreceived (Ends.foldlM hport hreceived env.audioOutputPorts)

end Framed

end Arc

end DeviceAndDisplay.DisplaySettings
