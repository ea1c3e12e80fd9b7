import DeviceAndDisplay.Verification.DisplaySettings.ArcFrame
import DeviceAndDisplay.Verification.DisplaySettings.ArcRouting

/-! # Audio that waits for the short audio descriptors

A request that is accepted routes the audio, or leaves it to the timer for the descriptors. The
timer routes it the second time at the latest, unless the flag that it has expired once is reset in
between; and nothing waits at all if the descriptors are not requested. -/

namespace DeviceAndDisplay.DisplaySettings

open Helpers Transition

namespace Arc

variable {s t : Arc} {env : ArcEnv} {n : ℕ}

/-- The audio is routed, or waits for the timer, which has expired `n` times. -/
def RoutedOrWaits (n : ℕ) (s : Arc) : Prop :=
  s.audio.arcEarcAudioEnabled = true ∨ n < 2 ∧ s.device.timers .sadDetectionTimer = true

theorem framed_routedOrWaits (n : ℕ) : Framed (RoutedOrWaits n) where
  link := fun _ _ h => h
  audio := fun _ _ hsame h => h.imp_left hsame.trans
  sad := fun _ _ h => h
  ports := fun _ _ h => h
  device := fun _ _ _ hsame h => h.imp_right fun h => ⟨h.1, hsame.trans h.2⟩
  call := fun _ _ h => h

/-! ### Handlers that route -/

theorem leaves_enableARC_true (type : AudioARCType) (h : s.RoutedOrWaits n) :
    Leaves (RoutedOrWaits n) (s.enableARC type true env) :=
  Ends.bind (ends_call _ ((framed_routedOrWaits n).call _ s h)) fun _ _ => .inl rfl

theorem leaves_routeBySAD_waiting (h : s.RoutedOrWaits n) :
    Leaves (RoutedOrWaits n) (s.routeBySAD env) := by
  unfold routeBySAD
  split
  · exact leaves_enableARC_true _ h
  · refine Leaves.bind ((framed_routedOrWaits n).leaves_updateSAD h) fun t ht => ?_
    exact Leaves.call _ ht (Leaves.call _ ht (leaves_enableARC_true _ ht))
  · split
    · exact h
    · exact h.imp_right fun h => ⟨h.1, rfl⟩
  · exact h

theorem leaves_routeAudio_waiting (h : s.RoutedOrWaits n) :
    LeavesFst (RoutedOrWaits n) (s.routeAudio env) := by
  have hmute : ∀ t : Arc, t.RoutedOrWaits n →
      LeavesFst (RoutedOrWaits n) (pure (t.sendMuteKeyIf env.isMuted, true)) := fun t ht =>
    Ends.ok ((framed_routedOrWaits n).sendMuteKeyIf env.isMuted ht)
  have hpower : (s.sendMsgToQueue .sendAudioDevicePowerOnMsg).RoutedOrWaits n := h
  unfold routeAudio
  split
  · split
    · split
      · exact h
      · exact Ends.bind (leaves_enableARC_true _ h) fun t ht => ht
    · split
      · exact h
      · refine Ends.bind (ends_passThruOrAuto hpower) fun checks _ => ?_
        simp only
        split
        · exact Ends.bind (leaves_routeBySAD_waiting hpower) hmute
        · exact Ends.bind (leaves_enableARC_true _ hpower) hmute
    · exact h
  · exact h

/-- A request for `HDMI_ARC0` that is not to disable it. -/
theorem leaves_enableArcPort_waiting (h : s.RoutedOrWaits n) :
    LeavesFst (RoutedOrWaits n) (s.setEnableArcPort true env) := by
  unfold setEnableArcPort
  refine Ends.bind (ends_call _ h) fun _ _ => Ends.bind (ends_call _ h) fun _ _ => ?_
  exact Ends.bind (leaves_routeAudio_waiting h) fun p hp => hp

/-! ### Handlers that give up -/

theorem deviceDisconnected_disconnected (s : Arc) :
    s.deviceDisconnected.link.hdmiInAudioDeviceConnected = false := by
  unfold deviceDisconnected
  split
  · rfl
  · rename_i h
    exact eq_false_of_ne_true h

/-- Audio is unrouted in standby only after the device is gone. -/
theorem leaves_onPowerModeChanged_waiting (newState : PowerManager.PowerState)
    (h : s.RoutedOrWaits n) :
    Leaves (fun t => t.link.hdmiInAudioDeviceConnected = false ∨ t.RoutedOrWaits n)
      (s.onPowerModeChanged newState env) := by
  have hpower : (s.updateDevice fun device => { device with
      powerState := newState }).RoutedOrWaits n := h
  unfold onPowerModeChanged cleanupArc
  simp only
  split
  · exact .inr h
  · refine Leaves.call _ (.inr hpower) ?_
    split
    · have hgone := deviceDisconnected_disconnected (s.updateDevice fun device => { device with
        powerState := newState }).terminateArc
      split
      · refine Leaves.call _ (.inl hgone) ?_
        exact Ends.bind (Ends.bind (ends_call _ (.inl hgone)) fun _ _ => .inl hgone)
          fun t ht => ht
      · exact .inl hgone
    · exact .inr h

/-- The detection of the device does not look at a device that is connected. -/
theorem leaves_checkArcDeviceConnected_waiting (h : s.RoutedOrWaits n) :
    Leaves (RoutedOrWaits n) (s.checkArcDeviceConnected env) := by
  have hretry : s.retryArc.RoutedOrWaits n := by
    unfold retryArc
    simp only
    split_ifs
    · exact h
    · exact h
    · exact h
  have hdetect : (s.detectArc env).RoutedOrWaits n := by
    unfold detectArc
    split_ifs
    · exact h
    · exact (framed_routedOrWaits n).deviceConnected h
    · exact hretry
  have hstop : (s.detectArc env).stopDetection.RoutedOrWaits n := by
    unfold stopDetection
    split
    · exact (framed_routedOrWaits n).setTimer (by decide) false hdetect
    · exact hdetect
  exact Leaves.call _ h (Leaves.call _ h hstop)

end Arc

/-! ### Handlers that end the waiting -/

/-- The calls that apply the descriptors and route the audio return. -/
structure ArcEnv.RoutesSAD (env : ArcEnv) : Prop where
  setSAD : env.throws .setSAD = false
  getStereoAuto : env.throws .getStereoAuto = false
  setStereoAuto : env.stereoAuto = true → env.throws .setStereoAuto = false
  getStereoMode : env.stereoAuto = false → env.throws .getStereoMode = false
  setStereoMode : env.stereoAuto = false → env.throws .setStereoMode = false
  enableARC : env.throws .enableARC = false

namespace Arc

variable {s t : Arc} {env : ArcEnv} {n : ℕ}

/-- Nothing is routed, and nothing is waited for. -/
def GivesUp (s : Arc) : Prop :=
  s.audio.arcEarcAudioEnabled = false ∧ s.device.timers .sadDetectionTimer = false

theorem GivesUp.not_routedOrWaits (h : s.GivesUp) : ¬ s.RoutedOrWaits n := by
  rintro (henabled | ⟨-, htimer⟩)
  · rw [h.1] at henabled
    cases henabled
  · rw [h.2] at htimer
    cases htimer

theorem settled_call_iff {c : HalCall} {next : Unit → Except Arc Arc} {Q : Prop}
    (h : s.GivesUp) (hnext : env.throws c = false →
      ((Arc.settled (next ())).RoutedOrWaits n ↔ Q)) :
    (Arc.settled (env.call c s >>= next)).RoutedOrWaits n ↔ env.throws c = false ∧ Q := by
  unfold ArcEnv.call
  cases hthrows : env.throws c with
  | true => exact iff_of_false h.not_routedOrWaits fun hfalse => by cases hfalse.1
  | false => exact (hnext hthrows).trans (and_iff_right rfl).symm

theorem routedOrWaits_enableARC_iff (h : s.GivesUp) :
    (Arc.settled (s.enableARC .arc true env)).RoutedOrWaits n ↔
      env.throws .enableARC = false := by
  have hcall : (s.call (.enableARC .arc true)).GivesUp := h
  refine (settled_call_iff hcall (Q := True) fun _ => ?_).trans (and_iff_left trivial)
  exact iff_of_true (.inl rfl) trivial

theorem givesUp_stopTimer (hquiet : s.audio.arcEarcAudioEnabled = false) :
    (s.stopTimer .sadDetectionTimer).GivesUp :=
  ⟨hquiet, by simp [updateDevice]⟩

/-- The sound mode is set again, and then the audio is routed. -/
theorem routedOrWaits_stereoAgain_iff (h : s.GivesUp) :
    (Arc.settled (do
      s.setStereoAgain env
      s.enableARC .arc true env)).RoutedOrWaits n ↔
      env.throws .getStereoAuto = false ∧
        (env.stereoAuto = true → env.throws .setStereoAuto = false) ∧
        (env.stereoAuto = false → env.throws .getStereoMode = false ∧
          env.throws .setStereoMode = false) ∧ env.throws .enableARC = false := by
  have henable : ∀ _ : Unit, (Arc.settled (s.enableARC .arc true env)).RoutedOrWaits n ↔
      env.throws .enableARC = false := fun _ => routedOrWaits_enableARC_iff h
  unfold setStereoAgain
  simp only [bind_assoc]
  apply settled_call_iff h
  intro _
  cases hauto : env.stereoAuto with
  | true =>
      simp only [if_true, forall_const, Bool.true_eq_false, false_implies, true_and]
      exact settled_call_iff h fun _ => henable ()
  | false =>
      simp only [Bool.false_eq_true, if_false, bind_assoc, false_implies, forall_const, true_and,
        and_assoc]
      exact settled_call_iff h fun _ => settled_call_iff h fun _ => henable ()

/-- The descriptors are applied before. -/
theorem routedOrWaits_routeUpdated_iff (h : s.GivesUp) :
    (Arc.settled (do
      let s ← s.updateSAD env
      s.setStereoAgain env
      s.enableARC .arc true env)).RoutedOrWaits n ↔ env.RoutesSAD := by
  have hupdated : ((s.setAudioDeviceSADState .updated).call (.setSAD s.sad.sadList)).GivesUp := h
  unfold updateSAD
  simp only [bind_assoc, pure_bind]
  rw [settled_call_iff hupdated fun _ => routedOrWaits_stereoAgain_iff hupdated]
  constructor
  · rintro ⟨hset, hget, hauto, hmode, henable⟩
    exact ⟨hset, hget, hauto, fun h => (hmode h).1, fun h => (hmode h).2, henable⟩
  · intro h
    exact ⟨h.setSAD, h.getStereoAuto, h.setStereoAuto,
      fun hf => ⟨h.getStereoMode hf, h.setStereoMode hf⟩, h.enableARC⟩

/-- A list that is applied. -/
theorem routedOrWaits_applySAD_iff (hquiet : s.audio.arcEarcAudioEnabled = false)
    (htimer : s.device.timers .sadDetectionTimer = true) :
    (Arc.settled (s.applySAD env)).RoutedOrWaits n ↔ env.RoutesSAD := by
  unfold applySAD
  simp only
  rw [if_pos ⟨htimer, hquiet⟩]
  exact routedOrWaits_routeUpdated_iff (givesUp_stopTimer hquiet)

/-- Audio that is routed stays so. -/
theorem leaves_applySAD_enabled (h : s.audio.arcEarcAudioEnabled = true) :
    Leaves (RoutedOrWaits n) (s.applySAD env) := by
  have hstopped : (s.stopTimer .sadDetectionTimer).RoutedOrWaits n := .inl h
  unfold applySAD
  simp only
  rw [if_neg (by simp [updateDevice, h])]
  split
  · refine Leaves.bind ((framed_routedOrWaits n).leaves_updateSAD hstopped) fun t ht => ?_
    exact Ends.bind (ends_setStereoAgain ht) fun _ _ => ht
  · exact hstopped

/-- The list has come. -/
def answered (list : List ℤ) (s : Arc) : Arc :=
  ((s.setAudioDeviceSADState .received).setSadRetrigger false).updateSad fun sad =>
    { sad with sadList := sad.sadList ++ list.map toInt }

/-- The list is applied to audio that waits for it. -/
def TakesList (list : List ℤ) (env : ArcEnv) (s : Arc) : Prop :=
  s.AppliesSAD list ∧ env.throws .getAudioOutputPort = false

theorem onShortAudioDescriptor_eq {list : List ℤ}
    (hstate : s.sad.audioDeviceSADState = .requested) (hlist : list ≠ [])
    (hreturns : env.throws .getAudioOutputPort = false) :
    s.onShortAudioDescriptor (some list) env =
      if (s.answered list).link.currentArcRoutingState = .arcInitiated then
        (s.answered list).applySAD env
      else .ok (s.answered list) := by
  have hcall : ∀ u : Arc, env.call .getAudioOutputPort u = .ok () := by
    intro u
    rw [ArcEnv.call, hreturns]
    rfl
  unfold onShortAudioDescriptor
  simp only
  rw [if_pos hstate, hcall, ok_bind, if_neg hlist]
  rfl

/-- A list that is taken has come. -/
theorem routedOrWaits_answered_iff {list : List ℤ}
    (hstate : s.sad.audioDeviceSADState = .requested) (hlist : list ≠ [])
    (hreturns : env.throws .getAudioOutputPort = false) (h : s.RoutedOrWaits n) :
    (Arc.settled (s.onShortAudioDescriptor (some list) env)).RoutedOrWaits n ↔
      (s.TakesList list env → env.RoutesSAD) := by
  rw [onShortAudioDescriptor_eq hstate hlist hreturns]
  by_cases hrouting : (s.answered list).link.currentArcRoutingState = .arcInitiated
  · rw [if_pos hrouting]
    cases hquiet : s.audio.arcEarcAudioEnabled with
    | true =>
        have henabled : (s.answered list).audio.arcEarcAudioEnabled = true := hquiet
        refine iff_of_true (leaves_applySAD_enabled henabled).settled fun htakes => ?_
        have hfalse := htakes.1.2.2.2.2
        rw [hquiet] at hfalse
        cases hfalse
    | false =>
        have htimer : s.device.timers .sadDetectionTimer = true := by
          rcases h with henabled | hwaits
          · rw [hquiet] at henabled
            cases henabled
          · exact hwaits.2
        have hwaits : (s.answered list).audio.arcEarcAudioEnabled = false ∧
            (s.answered list).device.timers .sadDetectionTimer = true := ⟨hquiet, htimer⟩
        refine (routedOrWaits_applySAD_iff hwaits.1 hwaits.2).trans ?_
        rw [imp_iff_right]
        exact ⟨⟨hstate, hlist, hrouting, htimer, hquiet⟩, hreturns⟩
  · rw [if_neg hrouting]
    exact iff_of_true h fun htakes => absurd htakes.1.2.2.1 hrouting

theorem routedOrWaits_onShortAudioDescriptor_iff (list : List ℤ) (h : s.RoutedOrWaits n) :
    (Arc.settled (s.onShortAudioDescriptor (some list) env)).RoutedOrWaits n ↔
      (s.TakesList list env → env.RoutesSAD) := by
  by_cases htaken : s.sad.audioDeviceSADState = .requested ∧ list ≠ [] ∧
      env.throws .getAudioOutputPort = false
  · exact routedOrWaits_answered_iff htaken.1 htaken.2.1 htaken.2.2 h
  · refine iff_of_true ?_ fun htakes => ?_
    · unfold onShortAudioDescriptor ArcEnv.call
      simp only
      by_cases hstate : s.sad.audioDeviceSADState = .requested
      · rw [if_pos hstate]
        split
        · exact h
        · rename_i hreturns
          rw [ok_bind, if_pos]
          · exact h
          · by_contra hlist
            exact htaken ⟨hstate, hlist, eq_false_of_ne_true hreturns⟩
      · rw [if_neg hstate]
        exact h
    · exact absurd ⟨htakes.1.1, htakes.1.2.1, htakes.2⟩ htaken

/-! ### The timer -/

/-- The timer has expired for the first time, and nothing was received. -/
def Retriggers (s : Arc) : Prop :=
  s.sad.audioDeviceSADState ≠ .received ∧ s.sad.requestSadRetrigger = false

/-- The timer routes the audio: what was received is applied, or it has expired before. -/
def ExpiryRoutes (env : ArcEnv) (s : Arc) : Prop :=
  env.throws .getAudioOutputPort = false ∧
    (s.sad.audioDeviceSADState = .received ∧ s.sad.requestSadRetrigger = false ∧ env.RoutesSAD ∨
      s.sad.audioDeviceSADState ≠ .received ∧ s.sad.requestSadRetrigger = true ∧
        env.throws .enableARC = false)

theorem framed_givesUp : Framed GivesUp where
  link := fun _ _ h => h
  audio := fun _ _ hsame h => ⟨hsame.trans h.1, h.2⟩
  sad := fun _ _ h => h
  ports := fun _ _ h => h
  device := fun _ _ _ hsame h => ⟨h.1, hsame.trans h.2⟩
  call := fun _ _ h => h

/-- What was received is applied; the audio stays unrouted if the flag is set. -/
theorem routedOrWaits_received_iff (h : s.GivesUp) :
    (Arc.settled (do
      let s ← s.updateSAD env
      s.setStereoAgain env
      if s.sad.requestSadRetrigger then return s else s.enableARC .arc true env)).RoutedOrWaits n ↔
      s.sad.requestSadRetrigger = false ∧ env.RoutesSAD := by
  cases hretrigger : s.sad.requestSadRetrigger with
  | true =>
      refine iff_of_false ?_ fun hfalse => by cases hfalse.1
      have hleaves : Leaves GivesUp (do
          let s ← s.updateSAD env
          s.setStereoAgain env
          if s.sad.requestSadRetrigger then return s else s.enableARC .arc true env) := by
        have hupdated := framed_givesUp.call (.setSAD s.sad.sadList) _
          (framed_givesUp.sad (fun sad => { sad with audioDeviceSADState := .updated }) s h)
        unfold updateSAD
        simp only [bind_assoc, pure_bind]
        refine Leaves.call _ hupdated (Ends.bind (ends_setStereoAgain hupdated) fun _ _ => ?_)
        split
        · exact hupdated
        · rename_i hnot
          exact absurd hretrigger hnot
      exact hleaves.settled.not_routedOrWaits
  | false =>
      rw [and_iff_right rfl, ← routedOrWaits_routeUpdated_iff (n := n) h]
      unfold updateSAD
      simp only [bind_assoc, pure_bind, setAudioDeviceSADState, updateSad, Arc.call, hretrigger,
        Bool.false_eq_true, if_false]

/-- What an expiry does for audio that waits, once the timer is stopped. -/
def waitingExpired (env : ArcEnv) (s : Arc) : Except Arc Arc :=
  if s.sad.audioDeviceSADState = .received then do
    let s ← s.updateSAD env
    s.setStereoAgain env
    if s.sad.requestSadRetrigger then return s else s.enableARC .arc true env
  else if s.sad.requestSadRetrigger then (s.setSadRetrigger false).enableARC .arc true env
  else return (s.setSadRetrigger true).requestSAD.startTimer .sadDetectionTimer

theorem checkSADUpdate_eq (hthrows : env.throws .getAudioOutputPort = false)
    (hquiet : s.audio.arcEarcAudioEnabled = false)
    (hconnected : s.link.hdmiInAudioDeviceConnected = true) :
    s.checkSADUpdate env = (s.stopTimer .sadDetectionTimer).waitingExpired env := by
  have hgoes : ¬ (s.audio.arcEarcAudioEnabled = true ∨
      s.link.hdmiInAudioDeviceConnected = false) := by
    simp [hquiet, hconnected]
  unfold checkSADUpdate ArcEnv.call
  rw [if_neg (by simp [hthrows]), ok_bind]
  exact if_neg hgoes

theorem routedOrWaits_waitingExpired_iff (hthrows : env.throws .getAudioOutputPort = false)
    (hn : n < 2) (h : s.GivesUp) :
    (Arc.settled (s.waitingExpired env)).RoutedOrWaits (n + 1) ↔
      s.ExpiryRoutes env ∨ n = 0 ∧ s.Retriggers := by
  have hroutes : s.ExpiryRoutes env ↔
      s.sad.audioDeviceSADState = .received ∧ s.sad.requestSadRetrigger = false ∧ env.RoutesSAD ∨
      s.sad.audioDeviceSADState ≠ .received ∧ s.sad.requestSadRetrigger = true ∧
        env.throws .enableARC = false := and_iff_right hthrows
  unfold waitingExpired
  rw [hroutes]
  by_cases hstate : s.sad.audioDeviceSADState = .received
  · rw [if_pos hstate, routedOrWaits_received_iff h]
    simp [hstate, Retriggers]
  · rw [if_neg hstate]
    cases hretrigger : s.sad.requestSadRetrigger with
    | true =>
        have hflag : (s.setSadRetrigger false).GivesUp := h
        refine (routedOrWaits_enableARC_iff hflag).trans ?_
        simp [hstate, Retriggers, hretrigger]
    | false =>
        have hwaits : ((s.setSadRetrigger true).requestSAD.startTimer
            .sadDetectionTimer).RoutedOrWaits (n + 1) ↔ n = 0 := by
          constructor
          · rintro (henabled | hnext)
            · exact absurd (h.1.symm.trans henabled) Bool.false_ne_true
            · omega
          · intro hfirst
            exact .inr ⟨by omega, by simp [updateDevice]⟩
        refine hwaits.trans ?_
        simp [hstate, Retriggers, hretrigger]

/-- An expiry leaves audio that is routed, or waits for the next one. -/
theorem routedOrWaits_checkSADUpdate_iff (hconnected : s.link.hdmiInAudioDeviceConnected = true)
    (h : s.RoutedOrWaits n) :
    (Arc.settled (s.checkSADUpdate env)).RoutedOrWaits (n + 1) ↔
      s.audio.arcEarcAudioEnabled = true ∨ s.ExpiryRoutes env ∨
        n = 0 ∧ (env.throws .getAudioOutputPort = true ∨ s.Retriggers) := by
  cases hquiet : s.audio.arcEarcAudioEnabled with
  | true =>
      refine iff_of_true ?_ (.inl rfl)
      have henabled : ∀ m, s.RoutedOrWaits m := fun m => .inl hquiet
      refine Leaves.settled (Leaves.call _ (henabled _) ?_)
      simp only
      rw [if_pos (.inl hquiet)]
      exact .inl hquiet
  | false =>
      have hwaits : n < 2 ∧ s.device.timers .sadDetectionTimer = true := by
        rcases h with henabled | hwaits
        · rw [hquiet] at henabled
          cases henabled
        · exact hwaits
      rw [or_iff_right Bool.false_ne_true]
      cases hthrows : env.throws .getAudioOutputPort with
      | true =>
          have hsame : Arc.settled (s.checkSADUpdate env) = s := by
            unfold checkSADUpdate ArcEnv.call
            rw [if_pos hthrows]
            rfl
          rw [hsame]
          constructor
          · rintro (henabled | hnext)
            · rw [hquiet] at henabled
              cases henabled
            · exact .inr ⟨by omega, .inl rfl⟩
          · rintro (hroutes | ⟨hfirst, -⟩)
            · have hreturns := hroutes.1
              rw [hthrows] at hreturns
              cases hreturns
            · exact .inr ⟨by omega, hwaits.2⟩
      | false =>
          rw [checkSADUpdate_eq hthrows hquiet hconnected, or_iff_right Bool.false_ne_true]
          exact routedOrWaits_waitingExpired_iff hthrows hwaits.1 (givesUp_stopTimer hquiet)

/-! ### Requests that are accepted -/

/-- The audio is routed and the connection is as before. -/
def RoutedFrom (s t : Arc) : Prop :=
  t.audio.arcEarcAudioEnabled = true ∧ t.link = s.link

theorem routedFrom_of_enableARC {type : AudioARCType} (h : s.enableARC type true env = .ok t) :
    s.RoutedFrom t := by
  obtain ⟨_, -, hleft⟩ := bind_eq_ok.mp h
  cases hleft
  exact ⟨rfl, rfl⟩

/-- With the descriptors at hand the audio is routed; while they are requested the timer runs. -/
theorem routeBySAD_ok (h : s.routeBySAD env = .ok t) :
    t.link = s.link ∧ (t.RoutedOrWaits 0 ↔ s.RoutedOrWaits 0 ∨ s.sadIdle = false) := by
  have hidle : s.sadIdle = true → t = s → (t.RoutedOrWaits 0 ↔
      s.RoutedOrWaits 0 ∨ s.sadIdle = false) := by
    intro hidle hsame
    rw [hsame, hidle, or_iff_left Bool.true_eq_false.mp]
  unfold routeBySAD at h
  cases hstate : s.sad.audioDeviceSADState with
  | updated =>
      simp only [hstate] at h
      have hrouted := routedFrom_of_enableARC h
      exact ⟨hrouted.2, iff_of_true (.inl hrouted.1) (.inr (by simp [sadIdle, hstate]))⟩
  | received =>
      simp only [hstate] at h
      obtain ⟨u, hu, h⟩ := bind_eq_ok.mp h
      obtain ⟨_, -, h⟩ := bind_eq_ok.mp h
      obtain ⟨_, -, h⟩ := bind_eq_ok.mp h
      obtain ⟨_, -, hupdated⟩ := bind_eq_ok.mp hu
      cases hupdated
      have hrouted := routedFrom_of_enableARC h
      exact ⟨hrouted.2, iff_of_true (.inl hrouted.1) (.inr (by simp [sadIdle, hstate]))⟩
  | requested =>
      simp only [hstate] at h
      have hrequested : s.RoutedOrWaits 0 ∨ s.sadIdle = false := .inr (by simp [sadIdle, hstate])
      split at h
      · rename_i htimer
        cases h
        exact ⟨rfl, iff_of_true (.inr ⟨by omega, htimer⟩) hrequested⟩
      · cases h
        exact ⟨rfl, iff_of_true (.inr ⟨by omega, by simp [updateDevice]⟩) hrequested⟩
  | unknown =>
      simp only [hstate] at h
      cases h
      exact ⟨rfl, hidle (by simp [sadIdle, hstate]) rfl⟩
  | cleared =>
      simp only [hstate] at h
      cases h
      exact ⟨rfl, hidle (by simp [sadIdle, hstate]) rfl⟩

theorem passThruOrAuto_ok {checks : Bool} (h : s.passThruOrAuto env = .ok checks) :
    checks = true ↔ env.stereoMode = .passThru ∨ env.stereoAuto = true := by
  unfold passThruOrAuto at h
  split at h
  · rename_i hmode
    cases h
    exact iff_of_true rfl (.inl hmode)
  · rename_i hmode
    obtain ⟨_, -, h⟩ := bind_eq_ok.mp h
    cases h
    exact (or_iff_right hmode).symm

/-- The audio is routed at once, or there is something that it can wait for: it is routed already,
the timer runs already, the descriptors are not looked at, or they are requested or known. -/
def RequestRoutes (env : ArcEnv) (s : Arc) : Prop :=
  s.RoutedOrWaits 0 ∨ ¬ (env.stereoMode = .passThru ∨ env.stereoAuto = true) ∨ s.sadIdle = false

theorem routeAudio_ok (hconnected : s.link.hdmiInAudioDeviceConnected = true)
    (htype : s.audio.hdmiInAudioDeviceType = .arc) {success : Bool}
    (h : s.routeAudio env = .ok (t, success)) :
    t.link = s.link ∧ (t.RoutedOrWaits 0 ↔ s.RequestRoutes env) := by
  have hmute : ∀ u : Arc, (u.sendMuteKeyIf env.isMuted).link = u.link ∧
      ((u.sendMuteKeyIf env.isMuted).RoutedOrWaits 0 ↔ u.RoutedOrWaits 0) := by
    intro u
    unfold sendMuteKeyIf
    split
    · exact ⟨rfl, Iff.rfl⟩
    · exact ⟨rfl, Iff.rfl⟩
  unfold routeAudio at h
  rw [if_pos hconnected] at h
  simp only [htype] at h
  split at h
  · rename_i henabled
    cases h
    exact ⟨rfl, iff_of_true (.inl henabled) (.inl (.inl henabled))⟩
  · obtain ⟨checks, hchecks, h⟩ := bind_eq_ok.mp h
    have hmode := passThruOrAuto_ok hchecks
    split at h
    · rename_i htrue
      obtain ⟨u, hu, h⟩ := bind_eq_ok.mp h
      cases h
      refine ⟨(hmute u).1.trans (routeBySAD_ok hu).1, (hmute u).2.trans ?_⟩
      unfold RequestRoutes
      rw [or_iff_right (not_not.mpr (hmode.mp htrue))]
      exact (routeBySAD_ok hu).2
    · rename_i hfalse
      obtain ⟨u, hu, h⟩ := bind_eq_ok.mp h
      cases h
      have hrouted := routedFrom_of_enableARC hu
      refine ⟨(hmute u).1.trans hrouted.2, (hmute u).2.trans ?_⟩
      refine iff_of_true (.inl hrouted.1) (.inr (.inl ?_))
      exact fun hchecked => hfalse (hmode.mpr hchecked)

/-- A request for `HDMI_ARC0`. -/
def requested (env : ArcEnv) (s : Arc) : Arc :=
  s.setEnableAudioPort (some hdmiArc0) (some true) env

/-- The request reports success. -/
def Accepts (env : ArcEnv) (s : Arc) : Prop :=
  (s.requested env).calls.head? = some (.returnResponse true)

/-- The answer to a request, with its result or after an exception. -/
def responded (result : Except Arc (Arc × Bool)) : Arc :=
  match result with
  | .ok (s, success) => (s.setAudioPortEnableStatus hdmiArc0 true).returnResponse success
  | .error s => (s.setAudioPortEnableStatus hdmiArc0 true).returnResponse false

theorem requested_eq (hawake : (s.checkPowerState true env).device.powerState ≠ .standby) :
    s.requested env = responded (do
      env.call .getAudioOutputPort (s.checkPowerState true env)
      env.call .setEnablePersist (s.checkPowerState true env)
      ((s.checkPowerState true env).setEnablePersist hdmiArc0 true).setEnableArcPort true env) := by
  unfold requested setEnableAudioPort responded
  simp only [true_and, hawake, if_false, if_true]
  cases env.call .getAudioOutputPort (s.checkPowerState true env) with
  | error e => rfl
  | ok _ =>
      cases env.call .setEnablePersist (s.checkPowerState true env) with
      | error e => rfl
      | ok _ =>
          simp only [ok_bind]
          cases ((s.checkPowerState true env).setEnablePersist hdmiArc0 true).setEnableArcPort true
            env with
          | error e => rfl
          | ok p => rfl

/-- A request that is accepted has come to its end. -/
theorem exists_routeAudio_of_accepts (h : s.Accepts env) :
    ∃ u, ((s.checkPowerState true env).setEnablePersist hdmiArc0 true).routeAudio env =
        .ok (u, true) ∧
      s.requested env = responded (.ok (u.setAudioOutputPortConfig true, true)) := by
  unfold Accepts at h
  by_cases hstandby : (s.checkPowerState true env).device.powerState = .standby
  · have hrefused : s.requested env = (s.checkPowerState true env).returnResponse false :=
      if_pos ⟨rfl, hstandby⟩
    rw [hrefused] at h
    cases h
  · rw [requested_eq hstandby] at h ⊢
    cases hresult : (do
        env.call .getAudioOutputPort (s.checkPowerState true env)
        env.call .setEnablePersist (s.checkPowerState true env)
        ((s.checkPowerState true env).setEnablePersist hdmiArc0 true).setEnableArcPort true env :
        Except Arc (Arc × Bool)) with
    | error e =>
        rw [hresult] at h
        cases h
    | ok p =>
        rw [hresult] at h
        obtain ⟨_, -, hresult⟩ := bind_eq_ok.mp hresult
        obtain ⟨_, -, hresult⟩ := bind_eq_ok.mp hresult
        obtain ⟨_, -, hresult⟩ := bind_eq_ok.mp hresult
        obtain ⟨_, -, hresult⟩ := bind_eq_ok.mp hresult
        obtain ⟨q, hroute, hresult⟩ := bind_eq_ok.mp hresult
        cases hresult
        obtain ⟨u, success⟩ := q
        have hsuccess : success = true := by
          cases success with
          | true => rfl
          | false => cases h
        rw [hsuccess] at hroute ⊢
        exact ⟨u, hroute, rfl⟩

/-- What an accepted request leaves. -/
theorem routedOrWaits_requested_iff (hconnected : s.link.hdmiInAudioDeviceConnected = true)
    (htype : s.audio.hdmiInAudioDeviceType = .arc) (haccepts : s.Accepts env) :
    (s.requested env).link = s.link ∧
      ((s.requested env).RoutedOrWaits 0 ↔ s.RequestRoutes env) := by
  obtain ⟨u, hroute, hrequested⟩ := exists_routeAudio_of_accepts haccepts
  have hstatus : ∀ v : Arc, (responded (.ok (v, true))).link = v.link ∧
      ((responded (.ok (v, true))).RoutedOrWaits 0 ↔ v.RoutedOrWaits 0) := by
    intro v
    unfold responded setAudioPortEnableStatus
    simp only
    split
    · exact ⟨rfl, Iff.rfl⟩
    · exact ⟨rfl, Iff.rfl⟩
  have hchecked : (s.checkPowerState true env).link = s.link ∧
      (s.checkPowerState true env).audio = s.audio ∧
      (((s.checkPowerState true env).setEnablePersist hdmiArc0 true).RequestRoutes env ↔
        s.RequestRoutes env) := ⟨rfl, rfl, Iff.rfl⟩
  have hroutes := routeAudio_ok (s := (s.checkPowerState true env).setEnablePersist hdmiArc0 true)
    hconnected htype hroute
  rw [hrequested]
  exact ⟨(hstatus _).1.trans hroutes.1, (hstatus _).2.trans (hroutes.2.trans hchecked.2.2)⟩

end Arc

/-! ### Steps after a request -/

/-- `HDMI_ARC0` is disabled. -/
def ArcEvent.disables : ArcEvent → Bool
  | .setEnableAudioPort (some port) (some false) => port = hdmiArc0
  | _ => false

/-- The timer for the descriptors expires. -/
def ArcEvent.expiresSAD : ArcEvent → Bool
  | .expired .sadDetectionTimer => true
  | _ => false

namespace Arc

variable {s t : Arc} {env : ArcEnv} {n : ℕ}

/-- No call throws that routes the audio. The second expiry finds the flag of the first one, or the
descriptors. -/
def KeepsPromise (n : ℕ) (s : Arc) (a : ArcEnv × ArcEvent) : Prop :=
  match a.2 with
  | .shortAudioDescriptor (some list) => s.TakesList list a.1 → a.1.RoutesSAD
  | .expired .sadDetectionTimer =>
      s.audio.arcEarcAudioEnabled = true ∨ s.ExpiryRoutes a.1 ∨
        n = 0 ∧ (a.1.throws .getAudioOutputPort = true ∨ s.Retriggers)
  | _ => True

theorem routedOrWaits_setEnableAudioPort {port : Option Text} {enable : Option Bool}
    (hdisables : (ArcEvent.setEnableAudioPort port enable).disables = false)
    (h : s.RoutedOrWaits n) : (s.setEnableAudioPort port enable env).RoutedOrWaits n := by
  refine (framed_routedOrWaits n).setEnableAudioPort ?_ h
  intro pEnable hport henable u hu
  cases pEnable with
  | true => exact leaves_enableArcPort_waiting hu
  | false =>
      rw [hport, henable] at hdisables
      cases hdisables

/-- A step of a connected device. -/
theorem routedOrWaits_step_iff {a : ArcEnv × ArcEvent} (h : s.RoutedOrWaits n)
    (hconnected : s.link.hdmiInAudioDeviceConnected = true) (hdisables : a.2.disables = false)
    (ht : arcStep s a = some t) (hup : t.link.hdmiInAudioDeviceConnected = true) :
    t.RoutedOrWaits (n + if a.2.expiresSAD then 1 else 0) ↔ s.KeepsPromise n a := by
  obtain ⟨env, event⟩ := a
  have hframed := framed_routedOrWaits n
  cases event with
  | arcInitiation status =>
      cases ht
      exact iff_of_true (hframed.onARCInitiation status h).settled trivial
  | arcTermination status =>
      cases ht
      exact iff_of_true (hframed.onARCTermination status h) trivial
  | shortAudioDescriptor list =>
      cases ht
      cases list with
      | none => exact iff_of_true h trivial
      | some list => exact routedOrWaits_onShortAudioDescriptor_iff list h
  | systemAudioMode audioMode =>
      cases ht
      exact iff_of_true (hframed.onSystemAudioMode audioMode h) trivial
  | audioDeviceConnectedStatus connected =>
      cases ht
      exact iff_of_true (hframed.onAudioDeviceConnectedStatus connected h) trivial
  | audioDevicePowerStatus status =>
      cases ht
      exact iff_of_true (hframed.onAudioDevicePowerStatus status h).settled trivial
  | cecEnabled enable =>
      cases ht
      exact iff_of_true (hframed.onCecEnabled enable h) trivial
  | arcAudioStatus mute volume =>
      cases ht
      exact iff_of_true (hframed.onArcAudioStatus mute volume h) trivial
  | audioOutHotPlug port connected =>
      cases ht
      exact iff_of_true (hframed.onAudioOutHotPlug port connected h) trivial
  | hdmiInEventHotPlug port connected =>
      cases ht
      exact iff_of_true (hframed.onHdmiInEventHotPlug port connected h) trivial
  | powerModeChanged newState =>
      cases ht
      have hleaves : Leaves (fun t => t.link.hdmiInAudioDeviceConnected = false ∨
          t.RoutedOrWaits n) (s.onPowerModeChanged newState env) :=
        leaves_onPowerModeChanged_waiting newState h
      rcases hleaves.settled with hgone | hkept
      · exact absurd (hgone.symm.trans hup) Bool.false_ne_true
      · exact iff_of_true hkept trivial
  | initAudioPorts =>
      cases ht
      exact iff_of_true (hframed.initAudioPorts h).settled trivial
  | getConnectedAudioPorts =>
      cases ht
      exact iff_of_true (hframed.getConnectedAudioPorts h) trivial
  | setEnableAudioPort port enable =>
      cases ht
      exact iff_of_true (routedOrWaits_setEnableAudioPort hdisables h) trivial
  | setSoundMode port mode => exact iff_of_true (hframed.setSoundMode h ht) trivial
  | expired expiring =>
      obtain ⟨-, ht⟩ := Option.ite_none_right_eq_some.mp ht
      cases ht
      cases expiring with
      | timer => exact iff_of_true (hframed.onTimer h) trivial
      | audioDeviceDetectTimer =>
          exact iff_of_true (hframed.checkAudioDeviceDetectionTimer h) trivial
      | sadDetectionTimer => exact routedOrWaits_checkSADUpdate_iff hconnected h
      | arcDetectionTimer =>
          exact iff_of_true (leaves_checkArcDeviceConnected_waiting h).settled trivial
      | audioDevicePowerOnStatusTimer =>
          exact iff_of_true (hframed.checkAudioDevicePowerStatusTimer h) trivial

end Arc

/-! ### Runs after a request -/

/-- The plugin after a request, and how often the timer has expired since. -/
structure AwaitedAudio where
  arc : Arc
  expiries : ℕ := 0

namespace AwaitedAudio

/-- A step that does not disable the port and leaves the device connected. -/
def step (p : AwaitedAudio) (a : ArcEnv × ArcEvent) : Option AwaitedAudio :=
  if a.2.disables then none
  else (arcStep p.arc a).bind fun t =>
    if t.link.hdmiInAudioDeviceConnected then
      some {
        arc := t
        expiries := p.expiries + if a.2.expiresSAD then 1 else 0 }
    else none

/-- The audio is routed once the timer has expired twice, and until it is the timer runs. -/
def Promised (p : AwaitedAudio) : Prop := p.arc.RoutedOrWaits p.expiries

def Meets (p : AwaitedAudio) (a : ArcEnv × ArcEvent) : Prop := p.arc.KeepsPromise p.expiries a

theorem step_eq_some {p q : AwaitedAudio} {a : ArcEnv × ArcEvent} (h : p.step a = some q) :
    a.2.disables = false ∧ arcStep p.arc a = some q.arc ∧
      q.arc.link.hdmiInAudioDeviceConnected = true ∧
      q.expiries = p.expiries + if a.2.expiresSAD then 1 else 0 := by
  unfold step at h
  split at h
  · cases h
  · rename_i hdisables
    obtain ⟨t, ht, h⟩ := Option.bind_eq_some_iff.mp h
    obtain ⟨hconnected, h⟩ := Option.ite_none_right_eq_some.mp h
    rw [← Option.some.inj h]
    exact ⟨eq_false_of_ne_true hdisables, ht, hconnected, rfl⟩

/-- The device is connected, and the promise is kept so far. -/
def Waits (p : AwaitedAudio) : Prop :=
  p.Promised ∧ p.arc.link.hdmiInAudioDeviceConnected = true

theorem promised_step_iff {p q : AwaitedAudio} {a : ArcEnv × ArcEvent} (hp : p.Waits)
    (h : p.step a = some q) : q.Promised ↔ p.Meets a := by
  obtain ⟨hdisables, ht, hup, hcount⟩ := step_eq_some h
  unfold Promised
  rw [hcount]
  exact Arc.routedOrWaits_step_iff hp.1 hp.2 hdisables ht hup

theorem waits_step {p q : AwaitedAudio} {a : ArcEnv × ArcEvent} (hp : p.Waits) (ha : p.Meets a)
    (h : p.step a = some q) : q.Waits :=
  ⟨(promised_step_iff hp h).mpr ha, (step_eq_some h).2.2.1⟩

end AwaitedAudio

/-- A request that is accepted is kept throughout a run in which the device stays connected and the
port is not disabled, exactly if the request finds something to wait for and all steps go on with
it. -/
theorem accepted_routes_iff {s : Arc} {env : ArcEnv}
    (hconnected : s.link.hdmiInAudioDeviceConnected = true)
    (htype : s.audio.hdmiInAudioDeviceType = .arc) (haccepts : s.Accepts env)
    {as : List (ArcEnv × ArcEvent)} {q : AwaitedAudio}
    (hr : run AwaitedAudio.step { arc := s.requested env } as = some q) :
    (∀ bs p, bs <+: as → run AwaitedAudio.step { arc := s.requested env } bs = some p →
        p.Promised) ↔
      s.RequestRoutes env ∧ Along AwaitedAudio.step AwaitedAudio.Meets
        { arc := s.requested env } as := by
  obtain ⟨hlink, hroutes⟩ := Arc.routedOrWaits_requested_iff hconnected htype haccepts
  by_cases hrequest : s.RequestRoutes env
  · have hstart : AwaitedAudio.Waits { arc := s.requested env } := by
      refine ⟨hroutes.mpr hrequest, ?_⟩
      rw [hlink]
      exact hconnected
    rw [and_iff_right hrequest]
    exact throughout_iff_along (fun p a q => AwaitedAudio.waits_step) (fun p hp => hp.1)
      (fun p a q hp h hpromised => (AwaitedAudio.promised_step_iff hp h).mp hpromised) hstart hr
  · refine iff_of_false (fun h => hrequest ?_) fun h => hrequest h.1
    exact hroutes.mp (h [] _ List.nil_prefix rfl)

/-- A device that was asked for its descriptors and does not send them. -/
def asked : List (ArcEnv × ArcEvent) :=
  atHome .passThru [.initAudioPorts, .arcInitiation (some Arc.success)]

def expiresTwice : List (ArcEnv × ArcEvent) :=
  atHome .passThru [.expired .sadDetectionTimer, .expired .sadDetectionTimer]

theorem accepted_routes_asked :
    ∃ s q, run arcStep (.create false) asked = some s ∧
      run AwaitedAudio.step { arc := s.requested (.atHome .passThru) } expiresTwice = some q ∧
      ∀ bs p, bs <+: expiresTwice →
        run AwaitedAudio.step { arc := s.requested (.atHome .passThru) } bs = some p →
          p.Promised := by
  have hrequested : ∃ s q, run arcStep (.create false) asked = some s ∧
      s.link.hdmiInAudioDeviceConnected = true ∧ s.audio.hdmiInAudioDeviceType = .arc ∧
      s.Accepts (.atHome .passThru) ∧ s.RequestRoutes (.atHome .passThru) ∧
      run AwaitedAudio.step { arc := s.requested (.atHome .passThru) } expiresTwice = some q ∧
      Along AwaitedAudio.step AwaitedAudio.Meets
        { arc := s.requested (.atHome .passThru) } expiresTwice := by
    refine ⟨_, _, rfl, rfl, rfl, rfl, .inr (.inr rfl), rfl, ?_⟩
    refine ⟨.inr (.inr ⟨rfl, .inr ⟨by decide, rfl⟩⟩), ?_⟩
    intro p hp
    cases hp
    refine ⟨.inr (.inl ⟨rfl, .inr ⟨by decide, rfl, rfl⟩⟩), ?_⟩
    exact fun _ _ => trivial
  obtain ⟨s, q, hs, hconnected, htype, haccepts, hroutes, hq, halong⟩ := hrequested
  have hpromised := (accepted_routes_iff hconnected htype haccepts hq).mpr ⟨hroutes, halong⟩
  exact ⟨s, q, hs, hq, hpromised⟩

/-- A device that asked for the termination of ARC and failed to terminate it. -/
def failsToTerminate : List (ArcEnv × ArcEvent) :=
  atHome .passThru
    [.initAudioPorts, .arcInitiation (some Arc.success),
      .arcTermination (some "failure".toList)]

/-- The request is accepted, and nothing routes the audio. -/
theorem not_routed_after_failure :
    ∃ s, run arcStep (.create false) failsToTerminate = some s ∧
      s.link.hdmiInAudioDeviceConnected = true ∧ s.audio.hdmiInAudioDeviceType = .arc ∧
      s.Accepts (.atHome .passThru) ∧
      ¬ AwaitedAudio.Promised { arc := s.requested (.atHome .passThru) } :=
  ⟨_, rfl, rfl, rfl, rfl, Arc.GivesUp.not_routedOrWaits ⟨rfl, rfl⟩⟩

end DeviceAndDisplay.DisplaySettings
