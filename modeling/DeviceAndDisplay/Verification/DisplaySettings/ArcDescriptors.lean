import DeviceAndDisplay.Verification.DisplaySettings.ArcConnection
import DeviceAndDisplay.Transition.Run

/-! # The descriptors that are applied

The list is appended to by each answer of the device, and cleared by only some of the handlers that
lose the device or ask it again. -/

namespace DeviceAndDisplay.DisplaySettings

open Helpers Transition

/-! ### What the handlers do to the list -/

/-- The descriptors, with the lists that were applied, the newest first. -/
structure Descriptors extends ArcSAD where
  applied : List (List ℤ) := []

namespace Descriptors

/-- Nothing is applied, and the list is the old one if it counts as received. -/
structure Keeps (d e : Descriptors) : Prop where
  received : e.audioDeviceSADState = .received →
    d.audioDeviceSADState = .received ∧ e.sadList = d.sadList
  applied : e.applied = d.applied

theorem Keeps.refl (d : Descriptors) : d.Keeps d := ⟨fun h => ⟨h, rfl⟩, rfl⟩

variable {d e f : Descriptors}

theorem Keeps.trans (h : d.Keeps e) (h' : e.Keeps f) : d.Keeps f where
  received hf := by
    obtain ⟨he, hlist⟩ := h'.received hf
    obtain ⟨hd, hlist'⟩ := h.received he
    exact ⟨hd, hlist.trans hlist'⟩
  applied := h'.applied.trans h.applied

theorem keeps_of_eq (h : e = d) : d.Keeps e := h ▸ .refl d

end Descriptors

def ArcCore.descriptors (c : ArcCore) : Descriptors where
  toArcSAD := c.sad
  applied := c.applied

namespace Arc

def descriptors (s : Arc) : Descriptors := s.core.descriptors

theorem descriptors_of_core {s t : Arc} (h : t.core = s.core) : t.descriptors = s.descriptors :=
  congrArg ArcCore.descriptors h

variable {s t : Arc} {env : ArcEnv}

/-! ### Changes -/

@[simp] theorem descriptors_updateLink (f : ArcLink → ArcLink) (s : Arc) :
    (s.updateLink f).descriptors = s.descriptors := rfl

@[simp] theorem descriptors_updateAudio (f : ArcAudio → ArcAudio) (s : Arc) :
    (s.updateAudio f).descriptors = s.descriptors := rfl

@[simp] theorem descriptors_updateDevice (f : ArcDevice → ArcDevice) (s : Arc) :
    (s.updateDevice f).descriptors = s.descriptors := rfl

@[simp] theorem descriptors_updatePorts (f : ArcPorts → ArcPorts) (s : Arc) :
    (s.updatePorts f).descriptors = s.descriptors := rfl

@[simp] theorem descriptors_call (s : Arc) :
    (∀ port connected, (s.call (.connectedAudioPortUpdated port connected)).descriptors =
      s.descriptors) ∧
    (∀ type enable, (s.call (.enableARC type enable)).descriptors = s.descriptors) ∧
    (∀ msg, (s.call (.sendMsgToQueue msg)).descriptors = s.descriptors) ∧
    (∀ port enable, (s.call (.audioPortEnableStatusChanged port enable)).descriptors =
      s.descriptors) ∧
    (∀ level, (s.call (.volumeLevelChanged level)).descriptors = s.descriptors) ∧
    (∀ muted, (s.call (.muteStatusChanged muted)).descriptors = s.descriptors) ∧
    (∀ ports, (s.call (.connectedAudioPorts ports)).descriptors = s.descriptors) ∧
    ∀ success, (s.call (.returnResponse success)).descriptors = s.descriptors :=
  ⟨fun _ _ => rfl, fun _ _ => rfl, fun _ => rfl, fun _ _ => rfl, fun _ => rfl, fun _ => rfl,
    fun _ => rfl, fun _ => rfl⟩

@[simp] theorem descriptors_setArcRoutingState (state : ArcState) (s : Arc) :
    (s.setArcRoutingState state).descriptors = s.descriptors := rfl

@[simp] theorem descriptors_deviceConnected (s : Arc) :
    s.deviceConnected.descriptors = s.descriptors :=
  (congrArg ArcCore.descriptors s.core_deviceConnected :)

@[simp] theorem descriptors_deviceDisconnected (s : Arc) :
    s.deviceDisconnected.descriptors = s.descriptors :=
  (congrArg ArcCore.descriptors s.core_deviceDisconnected :)

@[simp] theorem descriptors_deviceReleased (s : Arc) :
    s.deviceReleased.descriptors = s.descriptors :=
  (congrArg ArcCore.descriptors s.core_deviceReleased :)

@[simp] theorem descriptors_assumeArc (s : Arc) : s.assumeArc.descriptors = s.descriptors :=
  (congrArg ArcCore.descriptors s.core_assumeArc :)

@[simp] theorem descriptors_resetDeviceType (s : Arc) :
    s.resetDeviceType.descriptors = s.descriptors :=
  (congrArg ArcCore.descriptors s.core_resetDeviceType :)

@[simp] theorem descriptors_stopPowerOnStatusTimer (s : Arc) :
    s.stopPowerOnStatusTimer.descriptors = s.descriptors :=
  descriptors_of_core s.core_stopPowerOnStatusTimer

@[simp] theorem descriptors_stopDetection (s : Arc) :
    s.stopDetection.descriptors = s.descriptors :=
  descriptors_of_core s.core_stopDetection

/-! ### Changes of the descriptors -/

open Descriptors (Keeps keeps_of_eq)

theorem keeps_terminateArc (s : Arc) : s.descriptors.Keeps s.terminateArc.descriptors :=
  ⟨fun h => ⟨h, rfl⟩, rfl⟩

theorem keeps_setAudioDeviceSADState {state : AudioDeviceSADState} (hstate : state ≠ .received)
    (s : Arc) : s.descriptors.Keeps (s.setAudioDeviceSADState state).descriptors :=
  ⟨fun h => absurd h hstate, rfl⟩

theorem keeps_requestSADIf (wanted : Bool) (s : Arc) :
    s.descriptors.Keeps (s.requestSADIf wanted).descriptors := by
  unfold requestSADIf
  split
  · exact keeps_setAudioDeviceSADState (by simp) s
  · exact .refl _

theorem keeps_clearSAD (s : Arc) : s.descriptors.Keeps s.clearSAD.descriptors := by
  unfold clearSAD
  split
  · exact .refl _
  · refine ⟨fun hcleared => ?_, rfl⟩
    change AudioDeviceSADState.cleared = .received at hcleared
    cases hcleared

theorem keeps_clearSADUnlessIdle (s : Arc) :
    s.descriptors.Keeps s.clearSADUnlessIdle.descriptors := by
  unfold clearSADUnlessIdle
  split
  · exact .refl _
  · exact keeps_clearSAD s

theorem keeps_deviceTerminated (s : Arc) : s.descriptors.Keeps s.deviceTerminated.descriptors := by
  unfold deviceTerminated
  split
  · simpa using keeps_terminateArc s
  · exact .refl _

/-! ### Handlers that apply nothing -/

theorem keeps_onARCInitiation (h : env.Calm) (status : Option Text) (s : Arc) :
    s.descriptors.Keeps (settled (s.onARCInitiation status env)).descriptors := by
  unfold onARCInitiation
  simp only [h.call, h.wantsSAD, ok_bind]
  split
  · exact .refl _
  · split
    · split
      · simpa using keeps_requestSADIf _ (s.setArcRoutingState .arcInitiated)
      · exact .refl _
    · exact .refl _

theorem keeps_onARCTermination (status : Option Text) (s : Arc) :
    s.descriptors.Keeps (s.onARCTermination status).descriptors := by
  have hclear := keeps_clearSAD s
  have hterminate := hclear.trans (keeps_terminateArc s.clearSAD)
  unfold onARCTermination
  simp only
  split
  · exact hclear
  · split
    · exact hclear
    · split
      · simpa using hterminate
      · exact hterminate

theorem keeps_onSystemAudioMode (audioMode : Option Text) (s : Arc) :
    s.descriptors.Keeps (s.onSystemAudioMode audioMode).descriptors := by
  unfold onSystemAudioMode
  simp only
  split
  · exact .refl _
  · split
    · exact .refl _
    · split
      · split
        · simpa using keeps_terminateArc (s.setDevicePowerState .unknown)
        · exact .refl _
      · exact .refl _

theorem keeps_onAudioDeviceConnectedStatus (connected : Option Text) (s : Arc) :
    s.descriptors.Keeps (s.onAudioDeviceConnectedStatus connected).descriptors := by
  unfold onAudioDeviceConnectedStatus
  split
  · exact .refl _
  · have hterminate := keeps_deviceTerminated (s.setAudioDeviceDetected false)
    have hclear := keeps_clearSADUnlessIdle (s.setAudioDeviceDetected false).deviceTerminated
    simpa using hterminate.trans hclear

theorem descriptors_onAudioDevicePowerStatus (h : env.Calm) (status : Option Text) (s : Arc) :
    (settled (s.onAudioDevicePowerStatus status env)).descriptors = s.descriptors := by
  unfold onAudioDevicePowerStatus onAvrPowerOn
  simp only [h.call, ok_bind]
  split
  · rfl
  · split
    · split
      · simp
      · split
        · simp
        · split <;> simp
    · split
      · simp
      · split <;> simp

theorem descriptors_onCecEnabled (enable : Option Text) (s : Arc) :
    (s.onCecEnabled enable).descriptors = s.descriptors := by
  unfold onCecEnabled
  split <;> simp

theorem descriptors_onAudioOutHotPlug (port : AudioPortType) (connected : Bool) (s : Arc) :
    (s.onAudioOutHotPlug port connected).descriptors = s.descriptors := by
  unfold onAudioOutHotPlug
  split <;> rfl

theorem keeps_onHdmiInEventHotPlug (port : ℤ) (connected : Bool) (s : Arc) :
    s.descriptors.Keeps (s.onHdmiInEventHotPlug port connected).descriptors := by
  unfold onHdmiInEventHotPlug
  split
  · have hterminate := keeps_terminateArc s.deviceDisconnected
    rw [descriptors_deviceDisconnected] at hterminate
    exact hterminate.trans (keeps_clearSAD _)
  · exact .refl _

theorem keeps_onPowerModeChanged (h : env.Calm) (state : PowerManager.PowerState) (s : Arc) :
    s.descriptors.Keeps (settled (s.onPowerModeChanged state env)).descriptors := by
  have hterminate := keeps_terminateArc (s.updateDevice fun device =>
    { device with powerState := state })
  unfold onPowerModeChanged cleanupArc
  simp only [h.call, h.enableARC, ok_bind]
  split
  · exact .refl _
  · split
    · split <;> simpa using hterminate
    · exact .refl _

theorem descriptors_checkArcDeviceConnected (h : env.Calm) (s : Arc) :
    (settled (s.checkArcDeviceConnected env)).descriptors = s.descriptors := by
  have hretry : s.retryArc.descriptors = s.descriptors := by
    unfold retryArc
    simp only
    split
    · rfl
    · split <;> rfl
  unfold checkArcDeviceConnected detectArc
  simp only [h.call, ok_bind, settled_pure, descriptors_stopDetection]
  split
  · rfl
  · split
    · simp
    · exact hretry

theorem keeps_getConnectedAudioPorts (s : Arc) :
    s.descriptors.Keeps (s.getConnectedAudioPorts env).descriptors := by
  obtain ⟨t, ports, hresult, hsame | ⟨_, _, hleft⟩⟩ := getConnectedAudioPorts_cases env s
  · rw [hresult, hsame]
    exact .refl _
  · rw [hresult, hleft]
    have hunknown : AudioDeviceSADState.unknown ≠ .received := by simp
    have hforgotten :=
      keeps_setAudioDeviceSADState hunknown (s.deviceTerminated.setDeviceType .none)
    exact (keeps_deviceTerminated s).trans hforgotten

theorem keeps_setSoundMode (h : env.Calm) {port : Text} {mode : Option Text}
    (ht : s.setSoundMode port mode env = some t) : s.descriptors.Keeps t.descriptors := by
  obtain ⟨u, success, rfl, rfl | ⟨_, _, rfl | rfl⟩⟩ := setSoundMode_cases h ht
  · exact .refl _
  · exact keeps_requestSADIf _ s
  · exact keeps_clearSAD s

/-! ### Handlers that apply the list -/

/-- An answer comes for audio that waits for it or is routed already. -/
def TakesSAD (list : List ℤ) (s : Arc) : Prop :=
  s.sad.audioDeviceSADState = .requested ∧ list ≠ [] ∧
    s.link.currentArcRoutingState = .arcInitiated ∧
    (s.device.timers .sadDetectionTimer = true ∨ s.audio.arcEarcAudioEnabled = true)

/-- The audio is to be routed, and the answer is there. -/
def RoutesReceived (s : Arc) : Prop :=
  s.audio.arcEarcAudioEnabled = false ∧ s.link.hdmiInAudioDeviceConnected = true ∧
    s.sad.audioDeviceSADState = .received

/-- The descriptors matter for an ARC device, pass-through and auto. -/
def WantsSAD (env : ArcEnv) (s : Arc) : Prop :=
  s.audio.hdmiInAudioDeviceType = .arc ∧ (env.stereoMode = .passThru ∨ env.stereoAuto = true)

/-- `setEnableAudioPort` is not refused and looks at the descriptors. -/
def ChecksSAD (env : ArcEnv) (s : Arc) : Prop :=
  env.powerState.getD s.device.powerState ≠ .standby ∧ s.WantsSAD env

/-- The step applies the list. -/
def SetsSAD (s : Arc) (a : ArcEnv × ArcEvent) : Prop :=
  match a.2 with
  | .shortAudioDescriptor (some list) => s.TakesSAD list
  | .expired .sadDetectionTimer => s.device.timers .sadDetectionTimer = true ∧ s.RoutesReceived
  | .setEnableAudioPort (some port) (some true) =>
      port = hdmiArc0 ∧ s.ChecksSAD a.1 ∧ s.RoutesReceived
  | _ => False

/-- The answer that a step accepts, with what the list held before. -/
def accepted (s : Arc) (a : ArcEnv × ArcEvent) : Option (List ℤ × List ℤ) :=
  match a.2 with
  | .shortAudioDescriptor (some list) =>
      if s.sad.audioDeviceSADState = .requested then some (list, s.sad.sadList) else none
  | _ => none

/-- The list that a step may apply. -/
def appliedList (s : Arc) (a : ArcEnv × ArcEvent) : List ℤ :=
  ((s.accepted a).map fun answer => answer.2 ++ answer.1.map toInt).getD s.sad.sadList

/-- The list is applied, and the device stays as it is. -/
structure Applies (list : List ℤ) (s t : Arc) : Prop where
  applied : t.core.applied = list :: s.core.applied
  updated : t.sad.audioDeviceSADState = .updated
  connected : t.link.hdmiInAudioDeviceConnected = s.link.hdmiInAudioDeviceConnected

theorem applySAD_cases (h : env.Calm) (s : Arc) :
    (s.device.timers .sadDetectionTimer = true ∨ s.audio.arcEarcAudioEnabled = true) ∧
      s.Applies s.sad.sadList (settled (s.applySAD env)) ∨
    ¬(s.device.timers .sadDetectionTimer = true ∨ s.audio.arcEarcAudioEnabled = true) ∧
      (settled (s.applySAD env)).descriptors = s.descriptors := by
  unfold applySAD
  simp only [h.updateSAD, h.setStereoAgain, h.enableARC, ok_bind]
  split
  · rename_i hc
    exact .inl ⟨.inl hc.1, rfl, rfl, rfl⟩
  · rename_i hnot
    split
    · rename_i henabled
      exact .inl ⟨.inr henabled, rfl, rfl, rfl⟩
    · rename_i hquiet
      refine .inr ⟨?_, by simp⟩
      rintro (htimer | henabled)
      · exact hnot ⟨htimer, eq_false_of_ne_true hquiet⟩
      · exact hquiet henabled

theorem onShortAudioDescriptor_accepts (h : env.Calm) (list : List ℤ) {s : Arc}
    (hstate : s.sad.audioDeviceSADState = .requested) :
    s.TakesSAD list ∧ s.Applies (s.sad.sadList ++ list.map toInt)
      (settled (s.onShortAudioDescriptor (some list) env)) ∨
    ¬s.TakesSAD list ∧
      (settled (s.onShortAudioDescriptor (some list) env)).core.applied = s.core.applied ∧
      (settled (s.onShortAudioDescriptor (some list) env)).sad.sadList =
        s.sad.sadList ++ list.map toInt := by
  unfold onShortAudioDescriptor
  simp only [h.call, ok_bind]
  rw [if_pos hstate]
  split
  · rename_i hlist
    refine .inr ⟨fun htakes => htakes.2.1 hlist, rfl, ?_⟩
    rw [hlist, List.map_nil, List.append_nil]
    rfl
  · rename_i hlist
    split
    · rename_i hrouting
      rcases applySAD_cases h (((s.setAudioDeviceSADState .received).setSadRetrigger
        false).updateSad fun sad => { sad with sadList := sad.sadList ++ list.map toInt })
        with ⟨hc, happlies⟩ | ⟨hc, hsame⟩
      · exact .inl ⟨⟨hstate, hlist, hrouting, hc⟩,
          happlies.applied, happlies.updated, happlies.connected⟩
      · refine .inr ⟨fun htakes => hc htakes.2.2.2, congrArg Descriptors.applied hsame, ?_⟩
        exact congrArg (fun d => d.sadList) hsame
    · rename_i hrouting
      exact .inr ⟨fun htakes => hrouting htakes.2.2.1, rfl, rfl⟩

theorem onShortAudioDescriptor_ignores (env : ArcEnv) (list : List ℤ) {s : Arc}
    (hstate : s.sad.audioDeviceSADState ≠ .requested) :
    settled (s.onShortAudioDescriptor (some list) env) = s := by
  simp only [onShortAudioDescriptor, if_neg hstate]
  rfl

theorem checkSADUpdate_cases (h : env.Calm) (s : Arc) :
    s.RoutesReceived ∧ s.Applies s.sad.sadList (settled (s.checkSADUpdate env)) ∨
    ¬s.RoutesReceived ∧ s.descriptors.Keeps (settled (s.checkSADUpdate env)).descriptors := by
  unfold checkSADUpdate
  simp only [h.call, h.updateSAD, h.setStereoAgain, h.enableARC, ok_bind]
  split
  · rename_i hc
    refine .inr ⟨?_, .refl _⟩
    rintro ⟨hquiet, hup, _⟩
    rcases hc with henabled | hdown
    · exact Bool.false_ne_true (hquiet.symm.trans henabled)
    · exact Bool.false_ne_true (hdown.symm.trans hup)
  · rename_i hc
    obtain ⟨hquiet, hup⟩ := not_or.mp hc
    split
    · rename_i hstate
      refine .inl ⟨⟨eq_false_of_ne_true hquiet, eq_true_of_ne_false hup, hstate⟩, ?_⟩
      split <;> exact ⟨rfl, rfl, rfl⟩
    · rename_i hstate
      refine .inr ⟨fun hroutes => hstate hroutes.2.2, ?_⟩
      split
      · exact ⟨fun hreceived => ⟨hreceived, rfl⟩, rfl⟩
      · refine ⟨fun hrequested => ?_, rfl⟩
        change AudioDeviceSADState.requested = .received at hrequested
        cases hrequested

/-! ### setEnableAudioPort -/

theorem Applies.of_core {list : List ℤ} {u : Arc} (h : s.Applies list t) (hcore : u.core = t.core) :
    s.Applies list u where
  applied := (congrArg ArcCore.applied hcore).trans h.applied
  updated := (congrArg (fun c => c.sad.audioDeviceSADState) hcore).trans h.updated
  connected := (congrArg (fun c => c.link.hdmiInAudioDeviceConnected) hcore).trans h.connected

theorem routedBySAD_cases (s : Arc) :
    s.sad.audioDeviceSADState = .received ∧ s.Applies s.sad.sadList s.routedBySAD ∨
      s.sad.audioDeviceSADState ≠ .received ∧ s.routedBySAD.descriptors = s.descriptors := by
  unfold routedBySAD
  cases hstate : s.sad.audioDeviceSADState with
  | received => exact .inl ⟨rfl, rfl, rfl, rfl⟩
  | updated => exact .inr ⟨by simp, by simp⟩
  | requested => exact .inr ⟨by simp, by simp only; split <;> simp⟩
  | unknown => exact .inr ⟨by simp, rfl⟩
  | cleared => exact .inr ⟨by simp, rfl⟩

theorem audioRouted_cases (env : ArcEnv) (s : Arc) :
    (s.WantsSAD env ∧ s.RoutesReceived) ∧ s.Applies s.sad.sadList (s.audioRouted env) ∨
      ¬(s.WantsSAD env ∧ s.RoutesReceived) ∧
        (s.audioRouted env).descriptors = s.descriptors := by
  unfold audioRouted
  split
  · rename_i hc
    cases htype : s.audio.hdmiInAudioDeviceType with
    | none => exact .inr ⟨by simp [WantsSAD, htype], rfl⟩
    | eARC => exact .inr ⟨by simp [WantsSAD, htype], rfl⟩
    | arc =>
        simp only
        split
        · rename_i hmode
          have hwants : s.WantsSAD env := ⟨htype, by simpa using hmode⟩
          rcases routedBySAD_cases (s.sendMsgToQueue .sendAudioDevicePowerOnMsg) with
            ⟨hstate, happlies⟩ | ⟨hstate, hsame⟩
          · refine .inl ⟨⟨hwants, hc.2, hc.1, hstate⟩, ?_⟩
            exact Applies.of_core ⟨happlies.applied, happlies.updated, happlies.connected⟩
              (core_sendMuteKeyIf ..)
          · refine .inr ⟨fun hroutes => hstate hroutes.2.2.2, ?_⟩
            exact (descriptors_of_core (core_sendMuteKeyIf ..)).trans hsame
        · rename_i hmode
          refine .inr ⟨fun hroutes => hmode (by simpa using hroutes.1.2), ?_⟩
          rw [descriptors_of_core (core_sendMuteKeyIf ..)]
          simp
  · rename_i hc
    exact .inr ⟨fun hroutes => hc ⟨hroutes.2.2.1, hroutes.2.1⟩, rfl⟩

theorem descriptors_audioUnrouted (s : Arc) : s.audioUnrouted.descriptors = s.descriptors := by
  unfold audioUnrouted
  split
  · split <;> simp
  · rfl

theorem descriptors_disable (h : env.Calm) (s : Arc) :
    (s.setEnableAudioPort (some hdmiArc0) (some false) env).descriptors = s.descriptors := by
  rw [descriptors_of_core (core_disableArcPort h s)]
  exact descriptors_audioUnrouted _

theorem enable_cases (h : env.Calm) (s : Arc) :
    (s.ChecksSAD env ∧ s.RoutesReceived) ∧ s.Applies s.sad.sadList
      (s.setEnableAudioPort (some hdmiArc0) (some true) env) ∨
    ¬(s.ChecksSAD env ∧ s.RoutesReceived) ∧
      (s.setEnableAudioPort (some hdmiArc0) (some true) env).descriptors = s.descriptors := by
  rcases core_enableArcPort h s with ⟨hstandby, hcore⟩ | ⟨hawake, hcore⟩
  · exact .inr ⟨fun hc => hc.1.1 hstandby, descriptors_of_core hcore⟩
  · rcases audioRouted_cases env ((s.checkPowerState true env).setEnablePersist hdmiArc0 true) with
      ⟨hroutes, happlies⟩ | ⟨hnot, hsame⟩
    · refine .inl ⟨⟨⟨hawake, hroutes.1⟩, hroutes.2⟩, ?_⟩
      refine Applies.of_core ?_ hcore
      exact ⟨happlies.applied, happlies.updated, happlies.connected⟩
    · exact .inr ⟨fun hc => hnot ⟨hc.1.2, hc.2⟩, (descriptors_of_core hcore).trans hsame⟩

/-! ### Steps -/

theorem appliedList_of_accepted {a : ArcEnv × ArcEvent} {list held : List ℤ}
    (h : s.accepted a = some (list, held)) : s.appliedList a = held ++ list.map toInt := by
  rw [appliedList, h]
  rfl

theorem appliedList_of_not_accepted {a : ArcEnv × ArcEvent} (h : s.accepted a = none) :
    s.appliedList a = s.sad.sadList := by
  rw [appliedList, h]
  rfl

/-- No event of this kind sets the descriptors or accepts new ones. -/
def LeavesSAD : ArcEvent → Prop
  | .shortAudioDescriptor _ | .setEnableAudioPort .. | .expired .sadDetectionTimer => False
  | _ => True

theorem keeps_step {a : ArcEnv × ArcEvent} (h : a.1.Calm) (ht : arcStep s a = some t)
    (hleaves : LeavesSAD a.2) :
    ¬s.SetsSAD a ∧ s.accepted a = none ∧ s.descriptors.Keeps t.descriptors := by
  obtain ⟨env, event⟩ := a
  cases event with
  | arcInitiation status =>
      cases ht
      exact ⟨id, rfl, keeps_onARCInitiation h status s⟩
  | arcTermination status =>
      cases ht
      exact ⟨id, rfl, keeps_onARCTermination status s⟩
  | shortAudioDescriptor list => cases hleaves
  | systemAudioMode mode =>
      cases ht
      exact ⟨id, rfl, keeps_onSystemAudioMode mode s⟩
  | audioDeviceConnectedStatus connected =>
      cases ht
      exact ⟨id, rfl, keeps_onAudioDeviceConnectedStatus connected s⟩
  | audioDevicePowerStatus status =>
      cases ht
      exact ⟨id, rfl, keeps_of_eq (descriptors_onAudioDevicePowerStatus h status s)⟩
  | cecEnabled enable =>
      cases ht
      exact ⟨id, rfl, keeps_of_eq (descriptors_onCecEnabled enable s)⟩
  | arcAudioStatus mute volume =>
      cases ht
      exact ⟨id, rfl, keeps_of_eq (descriptors_of_core (core_onArcAudioStatus mute volume s))⟩
  | audioOutHotPlug port connected =>
      cases ht
      exact ⟨id, rfl, keeps_of_eq (descriptors_onAudioOutHotPlug port connected s)⟩
  | hdmiInEventHotPlug port connected =>
      cases ht
      exact ⟨id, rfl, keeps_onHdmiInEventHotPlug port connected s⟩
  | powerModeChanged state =>
      cases ht
      exact ⟨id, rfl, keeps_onPowerModeChanged h state s⟩
  | initAudioPorts =>
      cases ht
      obtain ⟨config, hcore, _⟩ := core_initAudioPorts h s
      have hsame := congrArg ArcCore.descriptors hcore
      exact ⟨id, rfl, keeps_of_eq hsame⟩
  | getConnectedAudioPorts =>
      cases ht
      exact ⟨id, rfl, keeps_getConnectedAudioPorts s⟩
  | setEnableAudioPort port enable => cases hleaves
  | setSoundMode port mode => exact ⟨id, rfl, keeps_setSoundMode h ht⟩
  | expired expiring =>
      obtain ⟨_, ht⟩ := Option.ite_none_right_eq_some.mp ht
      cases ht
      cases expiring with
      | timer => exact ⟨id, rfl, keeps_of_eq (descriptors_of_core (core_onTimer env s))⟩
      | audioDeviceDetectTimer =>
          have hsame := descriptors_of_core (core_checkAudioDeviceDetectionTimer s)
          exact ⟨id, rfl, keeps_of_eq hsame⟩
      | sadDetectionTimer => cases hleaves
      | arcDetectionTimer =>
          exact ⟨id, rfl, keeps_of_eq (descriptors_checkArcDeviceConnected h s)⟩
      | audioDevicePowerOnStatusTimer =>
          have hsame := descriptors_of_core (core_checkAudioDevicePowerStatusTimer s)
          exact ⟨id, rfl, keeps_of_eq hsame⟩

/-- Enabling the ARC port may set the descriptors; the other calls leave them. -/
theorem descriptors_setEnableAudioPort (h : env.Calm) (port : Option Text) (enable : Option Bool)
    (s : Arc) :
    s.SetsSAD (env, .setEnableAudioPort port enable) ∧
        s.Applies s.sad.sadList (s.setEnableAudioPort port enable env) ∨
      ¬s.SetsSAD (env, .setEnableAudioPort port enable) ∧
        s.descriptors.Keeps (s.setEnableAudioPort port enable env).descriptors := by
  cases port with
  | none => exact .inr ⟨by cases enable <;> exact id, .refl _⟩
  | some port =>
      cases enable with
      | none => exact .inr ⟨id, .refl _⟩
      | some enable =>
          by_cases hport : port = hdmiArc0
          · subst hport
            cases enable with
            | true =>
                rcases enable_cases h s with ⟨hc, happlies⟩ | ⟨hnot, hsame⟩
                · exact .inl ⟨⟨rfl, hc⟩, happlies⟩
                · exact .inr ⟨fun hsets => hnot hsets.2, keeps_of_eq hsame⟩
            | false => exact .inr ⟨id, keeps_of_eq (descriptors_disable h s)⟩
          · have hsame := descriptors_of_core (core_setEnableAudioPort_other h hport enable s)
            refine .inr ⟨?_, keeps_of_eq hsame⟩
            cases enable with
            | true => exact fun hsets => hport hsets.1
            | false => exact id

/-- What a step does to the descriptors. -/
theorem descriptors_step {a : ArcEnv × ArcEvent} (h : a.1.Calm) (ht : arcStep s a = some t) :
    s.SetsSAD a ∧ s.Applies (s.appliedList a) t ∨
    ¬s.SetsSAD a ∧ t.core.applied = s.core.applied ∧
      ((∃ answer, s.accepted a = some answer ∧ t.sad.sadList = s.appliedList a) ∨
        s.accepted a = none ∧ s.descriptors.Keeps t.descriptors) := by
  by_cases hleaves : LeavesSAD a.2
  · obtain ⟨hnot, hnone, hkeeps⟩ := keeps_step h ht hleaves
    exact .inr ⟨hnot, hkeeps.applied, .inr ⟨hnone, hkeeps⟩⟩
  obtain ⟨env, event⟩ := a
  cases event with
  | shortAudioDescriptor list =>
      cases ht
      cases list with
      | none => exact .inr ⟨id, rfl, .inr ⟨rfl, .refl _⟩⟩
      | some list =>
          by_cases hstate : s.sad.audioDeviceSADState = .requested
          · have haccepted : s.accepted (env, .shortAudioDescriptor (some list)) =
                some (list, s.sad.sadList) := if_pos hstate
            rw [appliedList_of_accepted haccepted]
            rcases onShortAudioDescriptor_accepts h list hstate with hsets | ⟨hnot, happlied, hlist⟩
            · exact .inl hsets
            · exact .inr ⟨hnot, happlied, .inl ⟨_, haccepted, hlist⟩⟩
          · have hsame := congrArg descriptors (onShortAudioDescriptor_ignores env list hstate)
            have hkeeps := keeps_of_eq hsame
            exact .inr ⟨fun htakes => hstate htakes.1, hkeeps.applied, .inr ⟨if_neg hstate, hkeeps⟩⟩
  | setEnableAudioPort port enable =>
      cases ht
      rcases descriptors_setEnableAudioPort h port enable s with hsets | ⟨hnot, hkeeps⟩
      · exact .inl hsets
      · exact .inr ⟨hnot, hkeeps.applied, .inr ⟨rfl, hkeeps⟩⟩
  | expired expiring =>
      obtain ⟨htimer, ht⟩ := Option.ite_none_right_eq_some.mp ht
      cases ht
      cases expiring with
      | sadDetectionTimer =>
          rcases checkSADUpdate_cases h s with ⟨hc, happlies⟩ | ⟨hnot, hkeeps⟩
          · exact .inl ⟨⟨htimer, hc⟩, happlies⟩
          · exact .inr ⟨fun hsets => hnot hsets.2, hkeeps.applied, .inr ⟨rfl, hkeeps⟩⟩
      | _ => exact absurd trivial hleaves
  | _ => exact absurd trivial hleaves

end Arc

end DeviceAndDisplay.DisplaySettings
