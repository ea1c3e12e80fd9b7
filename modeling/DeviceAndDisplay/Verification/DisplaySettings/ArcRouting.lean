import DeviceAndDisplay.Verification.DisplaySettings.ArcParts
import DeviceAndDisplay.Transition.Run

/-! # Routing and unrouting

What the handlers make of the audio that is routed to `HDMI_ARC0` and of what is kept for the port,
seen as moves of a small machine of its own. Most handlers look at what is routed before they change
the type of the device; some do not. -/

namespace DeviceAndDisplay.DisplaySettings

open Helpers Transition

/-! ### What is routed -/

/-- The type that is routed after these calls, the newest first. -/
def routed : List (AudioARCType × Bool) → Option AudioARCType
  | [] => none
  | (type, true) :: _ => some type
  | (type, false) :: rest => if routed rest = some type then none else routed rest

/-- The type that was routed last. -/
def lastRouted : List (AudioARCType × Bool) → Option AudioARCType
  | [] => none
  | (type, true) :: _ => some type
  | (_, false) :: rest => lastRouted rest

/-- No type is routed while another one is. -/
def Orderly : List (AudioARCType × Bool) → Prop
  | [] => True
  | (type, true) :: rest => (∀ other, routed rest = some other → other = type) ∧ Orderly rest
  | (_, false) :: rest => Orderly rest

theorem lastRouted_of_routed {routings : List (AudioARCType × Bool)} {type : AudioARCType}
    (h : routed routings = some type) : lastRouted routings = some type := by
  induction routings with
  | nil => cases h
  | cons routing rest ih =>
      obtain ⟨other, enable⟩ := routing
      cases enable with
      | true => exact h
      | false =>
          rw [routed] at h
          split at h
          · cases h
          · exact ih h

/-! ### The machine -/

/-- Whether audio is routed and the type of the device, what is kept for the port, and the calls of
`enableARC`, the newest first. -/
structure Routing extends ArcAudio where
  config : Option Bool := none
  persisted : Bool := false
  routings : List (AudioARCType × Bool) := []

namespace Routing

def setType (type : AudioARCType) (r : Routing) : Routing :=
  { r with hdmiInAudioDeviceType := type }

def enableARC (type : AudioARCType) (enable : Bool) (r : Routing) : Routing :=
  { r with
    arcEarcAudioEnabled := enable
    routings := (type, enable) :: r.routings }

def configure (enable : Bool) (r : Routing) : Routing :=
  { r with
    config := some enable
    persisted := enable }

/-- What the steps other than `setEnableAudioPort` do that look at what is routed. -/
inductive Move (r : Routing) : Routing → Prop where
  | stay : Move r r
  | assumed : r.hdmiInAudioDeviceType = .none → Move r (r.setType .arc)
  | reset : r.arcEarcAudioEnabled = false → Move r (r.setType .none)
  | configured (config : Option Bool) : (r.persisted = false → r.config.getD false = false →
      config.getD false = false) → Move r { r with config := config }

/-- What `setEnableAudioPort` does that enables `HDMI_ARC0`. -/
inductive Enable (r : Routing) : Routing → Prop where
  | refused : Enable r r
  | waits : Enable r (r.configure true)
  | routes : r.arcEarcAudioEnabled = false → r.hdmiInAudioDeviceType ≠ .none →
      Enable r ((r.enableARC r.hdmiInAudioDeviceType true).configure true)

/-- What `setEnableAudioPort` does that disables `HDMI_ARC0`. -/
inductive Disable (r : Routing) : Routing → Prop where
  | unrouted : r.arcEarcAudioEnabled = true → r.hdmiInAudioDeviceType ≠ .none →
      Disable r ((r.enableARC r.hdmiInAudioDeviceType false).configure false)
  | unroutedAndReset : r.arcEarcAudioEnabled = true → r.hdmiInAudioDeviceType ≠ .none →
      Disable r (((r.enableARC r.hdmiInAudioDeviceType false).setType .none).configure false)
  | nothing : r.arcEarcAudioEnabled = false ∨ r.hdmiInAudioDeviceType = .none →
      Disable r (r.configure false)

end Routing

/-- The changes that are made without a look at what is routed. -/
inductive Blind where
  | detected (type : AudioARCType)
  | routedBySAD
  | cleanedUp

namespace Blind

def apply (b : Blind) (r : Routing) : Routing :=
  match b with
  | detected type => r.setType type
  | routedBySAD => r.enableARC .arc true
  | cleanedUp =>
      if r.arcEarcAudioEnabled then (r.enableARC .arc false).setType .none else r.setType .none

/-- The change agrees with the type that is recorded. -/
def Fits (b : Blind) (r : Routing) : Prop :=
  match b with
  | detected type => r.arcEarcAudioEnabled = true → r.hdmiInAudioDeviceType = type
  | routedBySAD => r.hdmiInAudioDeviceType = .arc
  | cleanedUp => r.arcEarcAudioEnabled = true → r.hdmiInAudioDeviceType = .arc

end Blind

def ArcCore.routing (c : ArcCore) : Routing where
  toArcAudio := c.audio
  config := c.config
  persisted := c.persisted
  routings := c.routings

namespace Arc

def routing (s : Arc) : Routing := s.core.routing

@[simp] theorem routing_create (received : Bool) : (create received).routing = {} := rfl

theorem routing_of_core {s t : Arc} (h : t.core = s.core) : t.routing = s.routing :=
  congrArg ArcCore.routing h

variable {s t : Arc} {env : ArcEnv}

/-! ### Changes -/

@[simp] theorem routing_updateLink (f : ArcLink → ArcLink) (s : Arc) :
    (s.updateLink f).routing = s.routing := rfl

@[simp] theorem routing_updateSad (f : ArcSAD → ArcSAD) (s : Arc) :
    (s.updateSad f).routing = s.routing := rfl

@[simp] theorem routing_updateDevice (f : ArcDevice → ArcDevice) (s : Arc) :
    (s.updateDevice f).routing = s.routing := rfl

@[simp] theorem routing_call (s : Arc) :
    (∀ port connected, (s.call (.connectedAudioPortUpdated port connected)).routing = s.routing) ∧
    (∀ list, (s.call (.setSAD list)).routing = s.routing) ∧
    (∀ msg, (s.call (.sendMsgToQueue msg)).routing = s.routing) ∧
    (∀ port enable, (s.call (.audioPortEnableStatusChanged port enable)).routing = s.routing) ∧
    (∀ level, (s.call (.volumeLevelChanged level)).routing = s.routing) ∧
    (∀ muted, (s.call (.muteStatusChanged muted)).routing = s.routing) ∧
    (∀ ports, (s.call (.connectedAudioPorts ports)).routing = s.routing) ∧
    ∀ success, (s.call (.returnResponse success)).routing = s.routing :=
  ⟨fun _ _ => rfl, fun _ => rfl, fun _ => rfl, fun _ _ => rfl, fun _ => rfl, fun _ => rfl,
    fun _ => rfl, fun _ => rfl⟩

@[simp] theorem routing_setArcRoutingState (state : ArcState) (s : Arc) :
    (s.setArcRoutingState state).routing = s.routing := rfl

@[simp] theorem routing_terminateArc (s : Arc) : s.terminateArc.routing = s.routing := rfl

@[simp] theorem routing_deviceConnected (s : Arc) : s.deviceConnected.routing = s.routing :=
  (congrArg ArcCore.routing s.core_deviceConnected :)

@[simp] theorem routing_deviceDisconnected (s : Arc) :
    s.deviceDisconnected.routing = s.routing :=
  (congrArg ArcCore.routing s.core_deviceDisconnected :)

@[simp] theorem routing_deviceReleased (s : Arc) : s.deviceReleased.routing = s.routing :=
  (congrArg ArcCore.routing s.core_deviceReleased :)

@[simp] theorem routing_deviceTerminated (s : Arc) : s.deviceTerminated.routing = s.routing := by
  unfold deviceTerminated
  split <;> simp

@[simp] theorem routing_clearSAD (s : Arc) : s.clearSAD.routing = s.routing :=
  (congrArg ArcCore.routing s.core_clearSAD :)

@[simp] theorem routing_clearSADUnlessIdle (s : Arc) :
    s.clearSADUnlessIdle.routing = s.routing :=
  (congrArg ArcCore.routing s.core_clearSADUnlessIdle :)

@[simp] theorem routing_requestSADIf (wanted : Bool) (s : Arc) :
    (s.requestSADIf wanted).routing = s.routing :=
  (congrArg ArcCore.routing (core_requestSADIf wanted s) :)

@[simp] theorem routing_stopPowerOnStatusTimer (s : Arc) :
    s.stopPowerOnStatusTimer.routing = s.routing :=
  routing_of_core s.core_stopPowerOnStatusTimer

@[simp] theorem routing_stopDetection (s : Arc) : s.stopDetection.routing = s.routing :=
  routing_of_core s.core_stopDetection

@[simp] theorem routing_setDeviceType (type : AudioARCType) (s : Arc) :
    (s.updateAudio fun audio => { audio with hdmiInAudioDeviceType := type }).routing =
      s.routing.setType type := rfl

@[simp] theorem routing_arcEnabled (type : AudioARCType) (enable : Bool) (s : Arc) :
    ((s.call (.enableARC type enable)).updateAudio fun audio =>
      { audio with arcEarcAudioEnabled := enable }).routing = s.routing.enableARC type enable := rfl

/-! ### Handlers -/

open Routing (Move)

theorem move_assumeArc (s : Arc) : s.routing.Move s.assumeArc.routing := by
  unfold assumeArc
  split
  · rename_i hnone
    exact .assumed hnone
  · exact .stay

theorem move_resetDeviceType (s : Arc) : s.routing.Move s.resetDeviceType.routing := by
  unfold resetDeviceType
  split
  · rename_i hc
    exact .reset hc.1
  · exact .stay

theorem routing_onARCInitiation (h : env.Calm) (status : Option Text) (s : Arc) :
    s.routing.Move (settled (s.onARCInitiation status env)).routing := by
  unfold onARCInitiation
  simp only [h.call, h.wantsSAD, ok_bind]
  split
  · exact .stay
  · split
    · split
      · have hmove := move_assumeArc ((s.setArcRoutingState .arcInitiated).requestSADIf
          ((s.setArcRoutingState .arcInitiated).sadIdle &&
            (env.stereoMode = .passThru || env.stereoAuto)))
        simpa using hmove
      · exact .stay
    · exact .stay

theorem routing_onARCTermination (status : Option Text) (s : Arc) :
    (s.onARCTermination status).routing = s.routing := by
  unfold onARCTermination
  simp only
  split
  · simp
  · split
    · simp
    · split <;> simp

theorem routing_onSystemAudioMode (audioMode : Option Text) (s : Arc) :
    (s.onSystemAudioMode audioMode).routing = s.routing := by
  unfold onSystemAudioMode
  simp only
  split
  · rfl
  · split
    · simp
    · split
      · split <;> simp
      · rfl

theorem routing_onAudioDeviceConnectedStatus (connected : Option Text) (s : Arc) :
    s.routing.Move (s.onAudioDeviceConnectedStatus connected).routing := by
  unfold onAudioDeviceConnectedStatus
  split
  · simpa using Move.stay
  · have hmove := move_resetDeviceType
      ((s.setAudioDeviceDetected false).deviceTerminated.clearSADUnlessIdle)
    simpa using hmove

theorem routing_onCecEnabled (enable : Option Text) (s : Arc) :
    s.routing.Move (s.onCecEnabled enable).routing := by
  unfold onCecEnabled
  split
  · exact .stay
  · have hmove := move_resetDeviceType (s.setCecEnabled false)
    simpa using hmove

theorem routing_onAudioOutHotPlug (port : AudioPortType) (connected : Bool) (s : Arc) :
    (s.onAudioOutHotPlug port connected).routing = s.routing := by
  unfold onAudioOutHotPlug
  split <;> rfl

theorem routing_onHdmiInEventHotPlug (port : ℤ) (connected : Bool) (s : Arc) :
    (s.onHdmiInEventHotPlug port connected).routing = s.routing := by
  unfold onHdmiInEventHotPlug
  split
  · simp
  · rfl

theorem routing_getConnectedAudioPorts (s : Arc) :
    s.routing.Move (s.getConnectedAudioPorts env).routing := by
  obtain ⟨t, ports, hresult, hsame | ⟨_, hquiet, hleft⟩⟩ := getConnectedAudioPorts_cases env s
  · rw [hresult, hsame]
    exact .stay
  · rw [hresult, hleft]
    have hmove := Move.reset (r := s.routing) hquiet
    simpa [restarted] using hmove

theorem routing_setSoundMode (h : env.Calm) {port : Text} {mode : Option Text}
    (ht : s.setSoundMode port mode env = some t) : t.routing = s.routing := by
  obtain ⟨u, success, rfl, rfl | ⟨_, _, rfl | rfl⟩⟩ := setSoundMode_cases h ht
  · rfl
  · simp
  · simp

/-! ### Changes without a look at what is routed -/

/-- The answer says that the device is on, and it is found to support eARC. -/
def DetectsEARC (status : Option Text) (env : ArcEnv) (s : Arc) : Prop :=
  isValidInt (cStr (status.getD [])) = true ∧ stoi (status.getD []) = some 0 ∧
    s.link.hdmiInAudioDeviceConnected = false ∧ env.supportsEARC = true

instance (status : Option Text) (s : Arc) : Decidable (s.DetectsEARC status env) :=
  inferInstanceAs (Decidable (_ ∧ _))

/-- The detection looks for a device. -/
def Detects (s : Arc) : Prop :=
  s.device.timers .arcDetectionTimer = true ∧ s.link.currentArcRoutingState ≠ .arcInitiated ∧
    s.link.hdmiInAudioDeviceConnected = false

instance (s : Arc) : Decidable s.Detects := inferInstanceAs (Decidable (_ ∧ _))

/-- The audio waits for the descriptors in the list. -/
def AppliesSAD (list : List ℤ) (s : Arc) : Prop :=
  s.sad.audioDeviceSADState = .requested ∧ list ≠ [] ∧
    s.link.currentArcRoutingState = .arcInitiated ∧
    s.device.timers .sadDetectionTimer = true ∧ s.audio.arcEarcAudioEnabled = false

instance (list : List ℤ) (s : Arc) : Decidable (s.AppliesSAD list) :=
  inferInstanceAs (Decidable (_ ∧ _))

/-- The descriptors are there, or have been waited for long enough. -/
def EndsWaiting (s : Arc) : Prop :=
  s.device.timers .sadDetectionTimer = true ∧ s.audio.arcEarcAudioEnabled = false ∧
    s.link.hdmiInAudioDeviceConnected = true ∧
    (s.sad.audioDeviceSADState = .received ↔ s.sad.requestSadRetrigger = false)

instance (s : Arc) : Decidable s.EndsWaiting := inferInstanceAs (Decidable (_ ∧ _))

def blind (s : Arc) (a : ArcEnv × ArcEvent) : Option Blind :=
  match a.2 with
  | .shortAudioDescriptor (some list) => if s.AppliesSAD list then some .routedBySAD else none
  | .audioDevicePowerStatus status =>
      if s.DetectsEARC status a.1 then some (.detected .eARC) else none
  | .powerModeChanged newState =>
      if newState ≠ .on ∧ hdmiArc0 ∈ a.1.audioOutputPorts then some .cleanedUp else none
  | .expired .sadDetectionTimer => if s.EndsWaiting then some .routedBySAD else none
  | .expired .arcDetectionTimer =>
      if s.Detects then
        if a.1.supportsEARC then some (.detected .eARC)
        else if 2 ≤ s.device.retryArcCount then some (.detected .arc)
        else none
      else none
  | _ => none

theorem routing_applySAD (h : env.Calm) (s : Arc) :
    (s.device.timers .sadDetectionTimer = true ∧ s.audio.arcEarcAudioEnabled = false) ∧
      (settled (s.applySAD env)).routing = s.routing.enableARC .arc true ∨
    ¬(s.device.timers .sadDetectionTimer = true ∧ s.audio.arcEarcAudioEnabled = false) ∧
      (settled (s.applySAD env)).routing = s.routing := by
  unfold applySAD
  simp only [h.updateSAD, h.setStereoAgain, h.enableARC, ok_bind]
  split
  · rename_i hc
    exact .inl ⟨hc, rfl⟩
  · rename_i hc
    refine .inr ⟨hc, ?_⟩
    split <;> simp

theorem routing_onShortAudioDescriptor (h : env.Calm) (list : List ℤ) (s : Arc) :
    s.AppliesSAD list ∧ (settled (s.onShortAudioDescriptor (some list) env)).routing =
      s.routing.enableARC .arc true ∨
    ¬s.AppliesSAD list ∧
      (settled (s.onShortAudioDescriptor (some list) env)).routing = s.routing := by
  unfold onShortAudioDescriptor
  simp only [h.call, ok_bind]
  split
  · rename_i hstate
    split
    · rename_i hlist
      exact .inr ⟨fun hc => hc.2.1 hlist, by simp⟩
    · rename_i hlist
      split
      · rename_i hrouting
        rcases routing_applySAD h (((s.setAudioDeviceSADState .received).setSadRetrigger
          false).updateSad fun sad => { sad with sadList := sad.sadList ++ list.map toInt })
          with ⟨hc, hroutes⟩ | ⟨hc, hstays⟩
        · exact .inl ⟨⟨hstate, hlist, hrouting, hc⟩, hroutes⟩
        · exact .inr ⟨fun happlies => hc happlies.2.2.2, hstays⟩
      · rename_i hrouting
        exact .inr ⟨fun hc => hrouting hc.2.2.1, by simp⟩
  · rename_i hstate
    exact .inr ⟨fun hc => hstate hc.1, rfl⟩

theorem routing_checkSADUpdate (h : env.Calm) (s : Arc)
    (htimer : s.device.timers .sadDetectionTimer = true) :
    s.EndsWaiting ∧
      (settled (s.checkSADUpdate env)).routing = s.routing.enableARC .arc true ∨
    ¬s.EndsWaiting ∧ (settled (s.checkSADUpdate env)).routing = s.routing := by
  unfold checkSADUpdate
  simp only [h.call, h.updateSAD, h.setStereoAgain, h.enableARC, ok_bind]
  split
  · rename_i hc
    refine .inr ⟨?_, by simp⟩
    rintro ⟨_, hquiet, hup, _⟩
    rcases hc with henabled | hdown
    · exact Bool.false_ne_true (hquiet.symm.trans henabled)
    · exact Bool.false_ne_true (hdown.symm.trans hup)
  · rename_i hc
    obtain ⟨hquiet, hup⟩ := not_or.mp hc
    have hquiet := eq_false_of_ne_true hquiet
    have hup := eq_true_of_ne_false hup
    split
    · rename_i hstate
      split
      · rename_i hretrigger
        refine .inr ⟨fun hw => ?_, by simp⟩
        exact Bool.false_ne_true ((hw.2.2.2.mp hstate).symm.trans hretrigger)
      · rename_i hretrigger
        refine .inl ⟨⟨htimer, hquiet, hup, ?_⟩, rfl⟩
        exact ⟨fun _ => eq_false_of_ne_true hretrigger, fun _ => hstate⟩
    · rename_i hstate
      split
      · rename_i hretrigger
        refine .inl ⟨⟨htimer, hquiet, hup, ?_⟩, rfl⟩
        exact ⟨fun hreceived => absurd hreceived hstate, fun hnot =>
          absurd (hnot.symm.trans hretrigger) Bool.false_ne_true⟩
      · rename_i hretrigger
        refine .inr ⟨fun hw => ?_, by simp⟩
        exact hstate (hw.2.2.2.mpr (eq_false_of_ne_true hretrigger))

theorem routing_onAudioDevicePowerStatus (h : env.Calm) (status : Option Text) (s : Arc) :
    s.DetectsEARC status env ∧ (settled (s.onAudioDevicePowerStatus status env)).routing =
      s.routing.setType .eARC ∨
    ¬s.DetectsEARC status env ∧
      (settled (s.onAudioDevicePowerStatus status env)).routing = s.routing := by
  unfold onAudioDevicePowerStatus onAvrPowerOn
  simp only [h.call, ok_bind]
  split
  · rename_i hinvalid
    exact .inr ⟨fun hd => Bool.false_ne_true (hinvalid.symm.trans hd.1), rfl⟩
  · rename_i hvalid
    split
    · rename_i hon
      have hcore := core_stopPowerOnStatusTimer
        ((s.setDevicePowerState .on).setRequestedAndReceived true)
      generalize ((s.setDevicePowerState .on).setRequestedAndReceived true).stopPowerOnStatusTimer =
        u at hcore ⊢
      have hlink : u.link = s.link := congrArg ArcCore.link hcore
      have hsame : u.routing = s.routing := routing_of_core hcore
      rw [hlink, ← hsame]
      split
      · rename_i hup
        exact .inr ⟨fun hd => Bool.false_ne_true (hd.2.2.1.symm.trans hup), rfl⟩
      · rename_i hdown
        split
        · rename_i hearc
          refine .inl ⟨⟨eq_true_of_ne_false hvalid, hon, eq_false_of_ne_true hdown, hearc⟩, ?_⟩
          simp
        · rename_i hearc
          refine .inr ⟨fun hd => hearc hd.2.2.2, ?_⟩
          split <;> simp
    · rename_i hon
      refine .inr ⟨fun hd => hon hd.2.1, ?_⟩
      split
      · simp
      · split <;> simp

theorem routing_retryArc (s : Arc) :
    2 ≤ s.device.retryArcCount ∧ s.retryArc.routing = s.routing.setType .arc ∨
    ¬2 ≤ s.device.retryArcCount ∧ s.retryArc.routing = s.routing := by
  unfold retryArc
  simp only
  split
  · rename_i hfew
    change s.device.retryArcCount + 1 < 3 at hfew
    exact .inr ⟨by omega, rfl⟩
  · rename_i hmany
    change ¬s.device.retryArcCount + 1 < 3 at hmany
    refine .inl ⟨by omega, ?_⟩
    split <;> rfl

theorem routing_checkArcDeviceConnected (h : env.Calm) (s : Arc)
    (htimer : s.device.timers .arcDetectionTimer = true) :
    (∃ b, s.blind (env, .expired .arcDetectionTimer) = some b ∧ b ≠ .routedBySAD ∧
      (settled (s.checkArcDeviceConnected env)).routing = b.apply s.routing) ∨
    s.blind (env, .expired .arcDetectionTimer) = none ∧
      (settled (s.checkArcDeviceConnected env)).routing = s.routing := by
  unfold checkArcDeviceConnected detectArc
  simp only [h.call, ok_bind, settled_pure, routing_stopDetection]
  split
  · rename_i hfound
    refine .inr ⟨if_neg fun hd => ?_, rfl⟩
    rcases hfound with hrouting | hup
    · exact hd.2.1 hrouting
    · exact Bool.false_ne_true (hd.2.2.symm.trans hup)
  · rename_i hc
    obtain ⟨hrouting, hdown⟩ := not_or.mp hc
    have hd : s.Detects := ⟨htimer, hrouting, eq_false_of_ne_true hdown⟩
    split
    · rename_i hearc
      exact .inl ⟨.detected .eARC, by simp [blind, hd, hearc], by simp, by simp [Blind.apply]⟩
    · rename_i hearc
      rcases routing_retryArc s with ⟨hcount, heq⟩ | ⟨hcount, heq⟩
      · exact .inl ⟨.detected .arc, by simp [blind, hd, hearc, hcount], by simp, heq⟩
      · exact .inr ⟨by simp [blind, hd, hearc, hcount], heq⟩

theorem routing_onPowerModeChanged (h : env.Calm) (newState : PowerManager.PowerState) (s : Arc) :
    (newState ≠ .on ∧ hdmiArc0 ∈ env.audioOutputPorts) ∧
      (settled (s.onPowerModeChanged newState env)).routing = Blind.cleanedUp.apply s.routing ∨
    ¬(newState ≠ .on ∧ hdmiArc0 ∈ env.audioOutputPorts) ∧
      (settled (s.onPowerModeChanged newState env)).routing = s.routing := by
  unfold onPowerModeChanged cleanupArc
  simp only [h.call, h.enableARC, ok_bind]
  split
  · rename_i hon
    exact .inr ⟨fun hc => hc.1 hon, rfl⟩
  · rename_i hoff
    split
    · rename_i hport
      refine .inl ⟨⟨hoff, hport⟩, ?_⟩
      have hsame : ((s.updateDevice fun device =>
          { device with powerState := newState }).terminateArc.deviceDisconnected).routing =
          s.routing := by simp
      generalize ((s.updateDevice fun device =>
        { device with powerState := newState }).terminateArc.deviceDisconnected) = u at hsame ⊢
      rw [← hsame]
      by_cases henabled : u.audio.arcEarcAudioEnabled = true
      · simp only [if_pos henabled, Blind.apply]
        exact (if_pos henabled).symm
      · simp only [if_neg henabled, Blind.apply]
        exact (if_neg henabled).symm
    · rename_i hport
      exact .inr ⟨fun hc => hport hc.2, rfl⟩

/-! ### setEnableAudioPort -/

open Routing (Enable Disable)

theorem routing_routedBySAD (s : Arc) :
    s.routedBySAD.routing = s.routing ∨ s.routedBySAD.routing = s.routing.enableARC .arc true := by
  unfold routedBySAD
  split
  · exact .inr rfl
  · exact .inr rfl
  · exact .inl (by split <;> simp)
  · exact .inl rfl

theorem routing_audioRouted (env : ArcEnv) (s : Arc) :
    (s.audioRouted env).routing = s.routing ∨
      s.audio.arcEarcAudioEnabled = false ∧ s.audio.hdmiInAudioDeviceType ≠ .none ∧
        (s.audioRouted env).routing = s.routing.enableARC s.audio.hdmiInAudioDeviceType true := by
  unfold audioRouted
  split
  · rename_i hc
    cases htype : s.audio.hdmiInAudioDeviceType with
    | none => exact .inl rfl
    | eARC => exact .inr ⟨hc.2, by simp, rfl⟩
    | arc =>
        simp only [routing_of_core (core_sendMuteKeyIf ..)]
        split
        · rcases routing_routedBySAD (s.sendMsgToQueue .sendAudioDevicePowerOnMsg) with
            hstays | hroutes
          · exact .inl hstays
          · exact .inr ⟨hc.2, by simp, hroutes⟩
        · exact .inr ⟨hc.2, by simp, rfl⟩
  · exact .inl rfl

theorem routing_audioUnrouted (s : Arc) :
    (s.audio.arcEarcAudioEnabled = true ∧ s.audio.hdmiInAudioDeviceType ≠ .none) ∧
      (s.audioUnrouted.routing = s.routing.enableARC s.audio.hdmiInAudioDeviceType false ∨
        s.audioUnrouted.routing =
          (s.routing.enableARC s.audio.hdmiInAudioDeviceType false).setType .none) ∨
    (s.audio.arcEarcAudioEnabled = false ∨ s.audio.hdmiInAudioDeviceType = .none) ∧
      s.audioUnrouted.routing = s.routing := by
  unfold audioUnrouted
  split
  · rename_i hc
    refine .inl ⟨hc, ?_⟩
    split
    · exact .inl rfl
    · exact .inr rfl
  · rename_i hc
    refine .inr ⟨?_, rfl⟩
    by_cases henabled : s.audio.arcEarcAudioEnabled = true
    · exact .inr (not_not.mp fun htype => hc ⟨henabled, htype⟩)
    · exact .inl (eq_false_of_ne_true henabled)

theorem routing_setEnablePersist (enable : Bool) (s : Arc) :
    (s.setEnablePersist hdmiArc0 enable).routing = { s.routing with persisted := enable } := by
  simp only [routing, core, setEnablePersist, updatePorts, Function.update_self]
  rfl

theorem routing_setAudioOutputPortConfig (enable : Bool) (s : Arc) :
    (s.setAudioOutputPortConfig enable).routing = { s.routing with config := some enable } := rfl

theorem enable_setEnableAudioPort (h : env.Calm) (s : Arc) :
    s.routing.Enable (s.setEnableAudioPort (some hdmiArc0) (some true) env).routing := by
  rcases core_enableArcPort h s with ⟨_, hcore⟩ | ⟨_, hcore⟩
  · rw [routing_of_core hcore]
    exact .refused
  · rw [routing_of_core hcore, routing_setAudioOutputPortConfig]
    have hkept := routing_setEnablePersist true (s.checkPowerState true env)
    rw [routing_of_core (core_checkPowerState true s)] at hkept
    generalize (s.checkPowerState true env).setEnablePersist hdmiArc0 true = u at hkept ⊢
    have haudio : u.audio = s.audio := congrArg Routing.toArcAudio hkept
    rcases routing_audioRouted env u with hstays | ⟨hquiet, htype, hroutes⟩
    · rw [hstays, hkept]
      exact .waits
    · rw [hroutes, hkept, haudio]
      rw [haudio] at hquiet htype
      exact .routes hquiet htype

theorem disable_setEnableAudioPort (h : env.Calm) (s : Arc) :
    s.routing.Disable (s.setEnableAudioPort (some hdmiArc0) (some false) env).routing := by
  rw [routing_of_core (core_disableArcPort h s), routing_setAudioOutputPortConfig]
  have hkept := routing_setEnablePersist false s
  generalize s.setEnablePersist hdmiArc0 false = u at hkept ⊢
  have haudio : u.audio = s.audio := congrArg Routing.toArcAudio hkept
  rcases routing_audioUnrouted u with ⟨⟨henabled, htype⟩, hleft | hleft⟩ | ⟨hquiet, hleft⟩
  · rw [hleft, hkept, haudio]
    rw [haudio] at henabled htype
    exact .unrouted henabled htype
  · rw [hleft, hkept, haudio]
    rw [haudio] at henabled htype
    exact .unroutedAndReset henabled htype
  · rw [hleft, hkept]
    rw [haudio] at hquiet
    exact .nothing hquiet

/-! ### Steps -/

theorem move_of_eq (h : t.routing = s.routing) : s.routing.Move t.routing := h ▸ .stay

/-- What a timer that expires does to the audio. -/
theorem routing_onExpired (h : env.Calm) (s : Arc) (expiring : ArcTimer)
    (htimer : s.device.timers expiring = true) :
    (s.blind (env, .expired expiring) = none ∧
      s.routing.Move (s.onExpired env expiring).routing) ∨
    ∃ b, s.blind (env, .expired expiring) = some b ∧
      (b = .routedBySAD → s.audio.arcEarcAudioEnabled = false) ∧
      (s.onExpired env expiring).routing = b.apply s.routing := by
  cases expiring with
  | timer => exact .inl ⟨rfl, move_of_eq (routing_of_core (core_onTimer env s))⟩
  | audioDeviceDetectTimer =>
      exact .inl ⟨rfl, move_of_eq (routing_of_core (core_checkAudioDeviceDetectionTimer s))⟩
  | sadDetectionTimer =>
      rcases routing_checkSADUpdate h s htimer with ⟨hc, heq⟩ | ⟨hc, heq⟩
      · exact .inr ⟨_, if_pos hc, fun _ => hc.2.1, heq⟩
      · exact .inl ⟨if_neg hc, move_of_eq heq⟩
  | arcDetectionTimer =>
      rcases routing_checkArcDeviceConnected h s htimer with ⟨b, hb, hdetects, heq⟩ | ⟨hb, heq⟩
      · exact .inr ⟨b, hb, fun hsad => absurd hsad hdetects, heq⟩
      · exact .inl ⟨hb, move_of_eq heq⟩
  | audioDevicePowerOnStatusTimer =>
      exact .inl ⟨rfl, move_of_eq (routing_of_core (core_checkAudioDevicePowerStatusTimer s))⟩

/-- What a step does to the audio that does not enable or disable the port. -/
theorem routing_step_of_ne {a : ArcEnv × ArcEvent} (h : a.1.Calm) (ht : arcStep s a = some t)
    (hother : ∀ enable, a.2 ≠ .setEnableAudioPort (some hdmiArc0) (some enable)) :
    (s.blind a = none ∧ s.routing.Move t.routing) ∨
      ∃ b, s.blind a = some b ∧ (b = .routedBySAD → s.audio.arcEarcAudioEnabled = false) ∧
        t.routing = b.apply s.routing := by
  obtain ⟨env, event⟩ := a
  cases event with
  | arcInitiation status =>
      cases ht
      exact .inl ⟨rfl, routing_onARCInitiation h status s⟩
  | arcTermination status =>
      cases ht
      exact .inl ⟨rfl, move_of_eq (routing_onARCTermination status s)⟩
  | shortAudioDescriptor list =>
      cases ht
      cases list with
      | none => exact .inl ⟨rfl, .stay⟩
      | some list =>
          rcases routing_onShortAudioDescriptor h list s with ⟨hc, heq⟩ | ⟨hc, heq⟩
          · exact .inr ⟨_, if_pos hc, fun _ => hc.2.2.2.2, heq⟩
          · exact .inl ⟨if_neg hc, move_of_eq heq⟩
  | systemAudioMode mode =>
      cases ht
      exact .inl ⟨rfl, move_of_eq (routing_onSystemAudioMode mode s)⟩
  | audioDeviceConnectedStatus connected =>
      cases ht
      exact .inl ⟨rfl, routing_onAudioDeviceConnectedStatus connected s⟩
  | audioDevicePowerStatus status =>
      cases ht
      rcases routing_onAudioDevicePowerStatus h status s with ⟨hc, heq⟩ | ⟨hc, heq⟩
      · exact .inr ⟨_, if_pos hc, by simp, heq⟩
      · exact .inl ⟨if_neg hc, move_of_eq heq⟩
  | cecEnabled enable =>
      cases ht
      exact .inl ⟨rfl, routing_onCecEnabled enable s⟩
  | arcAudioStatus mute volume =>
      cases ht
      exact .inl ⟨rfl, move_of_eq (routing_of_core (core_onArcAudioStatus mute volume s))⟩
  | audioOutHotPlug port connected =>
      cases ht
      exact .inl ⟨rfl, move_of_eq (routing_onAudioOutHotPlug port connected s)⟩
  | hdmiInEventHotPlug port connected =>
      cases ht
      exact .inl ⟨rfl, move_of_eq (routing_onHdmiInEventHotPlug port connected s)⟩
  | powerModeChanged state =>
      cases ht
      rcases routing_onPowerModeChanged h state s with ⟨hc, heq⟩ | ⟨hc, heq⟩
      · exact .inr ⟨_, if_pos hc, by simp, heq⟩
      · exact .inl ⟨if_neg hc, move_of_eq heq⟩
  | initAudioPorts =>
      cases ht
      obtain ⟨config, hcore, hoff⟩ := core_initAudioPorts h s
      have hleft : (settled (s.initAudioPorts env)).routing = { s.routing with config := config } :=
        congrArg ArcCore.routing hcore
      refine .inl ⟨rfl, ?_⟩
      change s.routing.Move (settled (s.initAudioPorts env)).routing
      rw [hleft]
      exact .configured config hoff
  | getConnectedAudioPorts =>
      cases ht
      exact .inl ⟨rfl, routing_getConnectedAudioPorts s⟩
  | setEnableAudioPort port enable =>
      cases ht
      cases port with
      | none => exact .inl ⟨rfl, .stay⟩
      | some port =>
          cases enable with
          | none => exact .inl ⟨rfl, .stay⟩
          | some enable =>
              have hport : port ≠ hdmiArc0 := fun heq => hother enable (heq ▸ rfl)
              have hsame := routing_of_core (core_setEnableAudioPort_other h hport enable s)
              exact .inl ⟨rfl, move_of_eq hsame⟩
  | setSoundMode port mode => exact .inl ⟨rfl, move_of_eq (routing_setSoundMode h ht)⟩
  | expired expiring =>
      obtain ⟨htimer, ht⟩ := Option.ite_none_right_eq_some.mp ht
      cases ht
      exact routing_onExpired h s expiring htimer

/-- What a step does to the audio and to what is kept for the port. -/
theorem routing_step {a : ArcEnv × ArcEvent} (h : a.1.Calm) (ht : arcStep s a = some t) :
    (a.2 = .setEnableAudioPort (some hdmiArc0) (some true) ∧ s.blind a = none ∧
      s.routing.Enable t.routing) ∨
    (a.2 = .setEnableAudioPort (some hdmiArc0) (some false) ∧ s.blind a = none ∧
      s.routing.Disable t.routing) ∨
    (∀ enable, a.2 ≠ .setEnableAudioPort (some hdmiArc0) (some enable)) ∧
      ((s.blind a = none ∧ s.routing.Move t.routing) ∨
        ∃ b, s.blind a = some b ∧
          (b = .routedBySAD → s.audio.arcEarcAudioEnabled = false) ∧
          t.routing = b.apply s.routing) := by
  by_cases henable : ∃ enable, a.2 = .setEnableAudioPort (some hdmiArc0) (some enable)
  · obtain ⟨enable, hevent⟩ := henable
    obtain ⟨env, event⟩ := a
    cases hevent
    cases ht
    cases enable with
    | true => exact .inl ⟨rfl, rfl, enable_setEnableAudioPort h s⟩
    | false => exact .inr (.inl ⟨rfl, rfl, disable_setEnableAudioPort h s⟩)
  · rw [not_exists] at henable
    exact .inr (.inr ⟨henable, routing_step_of_ne h ht henable⟩)

theorem routing_of_blind {a : ArcEnv × ArcEvent} {b : Blind} (h : a.1.Calm)
    (hb : s.blind a = some b) (ht : arcStep s a = some t) :
    (b = .routedBySAD → s.audio.arcEarcAudioEnabled = false) ∧ t.routing = b.apply s.routing := by
  rcases routing_step h ht with ⟨_, hnone, _⟩ | ⟨_, hnone, _⟩ | ⟨_, ⟨hnone, _⟩ | ⟨c, hc, heffect⟩⟩
  · cases hnone.symm.trans hb
  · cases hnone.symm.trans hb
  · cases hnone.symm.trans hb
  · cases hc.symm.trans hb
    exact heffect

theorem arcStep_of_blind {a : ArcEnv × ArcEvent} {b : Blind} (hb : s.blind a = some b) :
    ∃ t, arcStep s a = some t := by
  obtain ⟨env, event⟩ := a
  apply exists_arcStep
  · rintro port mode rfl
    cases hb
  · rintro expiring rfl
    cases expiring with
    | sadDetectionTimer => exact (Option.ite_none_right_eq_some.mp hb).1.1
    | arcDetectionTimer => exact (Option.ite_none_right_eq_some.mp hb).1.1
    | timer => cases hb
    | audioDeviceDetectTimer => cases hb
    | audioDevicePowerOnStatusTimer => cases hb

end Arc

end DeviceAndDisplay.DisplaySettings
