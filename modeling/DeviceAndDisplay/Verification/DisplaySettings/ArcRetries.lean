import DeviceAndDisplay.Verification.DisplaySettings.ArcFrame
import DeviceAndDisplay.Transition.Run

/-! # The counter of the ARC detection

Only the detection changes the counter, which never reaches three: the detection stops then. This
holds whatever calls of the device settings library throw. -/

namespace DeviceAndDisplay.DisplaySettings

open Helpers Transition

namespace Arc

variable {s t : Arc} {env : ArcEnv} {n : ℕ}

def retries (s : Arc) : ℕ := s.device.retryArcCount

theorem retryArcCount_device (s : Arc) : s.device.retryArcCount = s.retries := rfl

/-! ### Handlers -/

theorem framed_retries (n : ℕ) : Framed fun s => s.retries = n where
  link := fun _ _ h => h
  audio := fun _ _ _ h => h
  sad := fun _ _ h => h
  ports := fun _ _ h => h
  device := fun _ _ hcount _ h => hcount.trans h
  call := fun _ _ h => h

/-- The counter is `n` in the state that is left. -/
abbrev LeavesRetries (n : ℕ) (result : Except Arc Arc) : Prop :=
  Leaves (fun s => s.retries = n) result

theorem leaves_enableARC (type : AudioARCType) (enable : Bool) (h : s.retries = n) :
    LeavesRetries n (s.enableARC type enable env) :=
  Leaves.call _ h h

theorem leaves_applySAD (h : s.retries = n) : LeavesRetries n (s.applySAD env) := by
  have hupdate : LeavesRetries n ((s.stopTimer .sadDetectionTimer).updateSAD env) :=
    (framed_retries n).leaves_updateSAD h
  unfold applySAD
  simp only
  split
  · refine hupdate.bind fun t ht => ?_
    exact Ends.bind (ends_setStereoAgain ht) fun _ _ => leaves_enableARC _ _ ht
  · split
    · refine hupdate.bind fun t ht => ?_
      exact Ends.bind (ends_setStereoAgain ht) fun _ _ => ht
    · exact h

theorem leaves_onShortAudioDescriptor (list : Option (List ℤ)) (h : s.retries = n) :
    LeavesRetries n (s.onShortAudioDescriptor list env) := by
  unfold onShortAudioDescriptor
  split
  · exact h
  · split
    · refine Leaves.call _ h ?_
      split
      · exact h
      · simp only
        split
        · exact leaves_applySAD h
        · exact h
    · exact h

theorem leaves_cleanupArc (h : s.retries = n) : LeavesRetries n (s.cleanupArc env) := by
  have hdisconnected : s.terminateArc.deviceDisconnected.retries = n :=
    (framed_retries n).deviceDisconnected ((framed_retries n).terminateArc h)
  refine Leaves.call _ h ?_
  split
  · simp only
    split
    · refine Leaves.call _ hdisconnected ((leaves_enableARC _ _ hdisconnected).bind fun t ht => ?_)
      exact ht
    · exact hdisconnected
  · exact h

theorem leaves_onPowerModeChanged (newState : PowerManager.PowerState) (h : s.retries = n) :
    LeavesRetries n (s.onPowerModeChanged newState env) := by
  unfold onPowerModeChanged
  simp only
  split
  · exact h
  · exact leaves_cleanupArc h

theorem leaves_checkSADUpdate (h : s.retries = n) : LeavesRetries n (s.checkSADUpdate env) := by
  have hupdate : LeavesRetries n ((s.stopTimer .sadDetectionTimer).updateSAD env) :=
    (framed_retries n).leaves_updateSAD h
  refine Leaves.call _ h ?_
  simp only
  split_ifs
  · exact h
  · refine hupdate.bind fun t ht => Ends.bind (ends_setStereoAgain ht) fun _ _ => ?_
    split
    · exact ht
    · exact leaves_enableARC _ _ ht
  · exact leaves_enableARC _ _ h
  · exact h

/-! ### setEnableAudioPort -/

theorem leaves_routeBySAD (h : s.retries = n) : LeavesRetries n (s.routeBySAD env) := by
  unfold routeBySAD
  split
  · exact leaves_enableARC _ _ h
  · refine Leaves.bind ((framed_retries n).leaves_updateSAD h) fun t ht => ?_
    exact Leaves.call _ ht (Leaves.call _ ht (leaves_enableARC _ _ ht))
  · split
    · exact h
    · exact h
  · exact h

theorem leaves_routeAudio (h : s.retries = n) :
    LeavesFst (fun s => s.retries = n) (s.routeAudio env) := by
  have hmute : ∀ t : Arc, t.retries = n →
      LeavesFst (fun s => s.retries = n) (pure (t.sendMuteKeyIf env.isMuted, true)) := fun t ht =>
    Ends.ok ((framed_retries n).sendMuteKeyIf env.isMuted ht)
  unfold routeAudio
  split
  · split
    · split
      · exact h
      · exact Ends.bind (leaves_enableARC _ _ h) fun t ht => ht
    · split
      · exact h
      · refine Ends.bind (ends_passThruOrAuto h) fun checks _ => ?_
        simp only
        split
        · exact Ends.bind (leaves_routeBySAD h) hmute
        · exact Ends.bind (leaves_enableARC _ _ h) hmute
    · exact h
  · exact h

theorem leaves_unrouteAudio (h : s.retries = n) : LeavesRetries n (s.unrouteAudio env) := by
  unfold unrouteAudio
  split
  · refine (leaves_enableARC _ _ h).bind fun t ht => ?_
    split
    · exact ht
    · exact ht
  · exact h

theorem leaves_setEnableArcPort (enable : Bool) (h : s.retries = n) :
    LeavesFst (fun s => s.retries = n) (s.setEnableArcPort enable env) := by
  have hconfig : ∀ p : Arc × Bool, p.1.retries = n →
      LeavesFst (fun s => s.retries = n) (pure (p.1.setAudioOutputPortConfig enable, p.2)) :=
    fun p hp => hp
  unfold setEnableArcPort
  refine Ends.bind (ends_call _ h) fun _ _ => Ends.bind (ends_call _ h) fun _ _ => ?_
  simp only
  split
  · exact Ends.bind (leaves_routeAudio h) hconfig
  · exact Ends.bind (leaves_unrouteAudio h) fun t ht => hconfig (t, true) ht

/-! ### Detection -/

theorem retries_detectArc_of_counter (h : s.retries ≤ 2) : (s.detectArc env).retries ≤ 3 := by
  unfold detectArc
  split
  · omega
  · split
    · have hconnected := (framed_retries s.retries).deviceConnected (s := s.setDeviceType .eARC) rfl
      exact hconnected.le.trans (Nat.le_succ_of_le h)
    · unfold retryArc
      simp only
      split_ifs <;> exact Nat.succ_le_succ h

/-- The detection stops when the counter reaches three. -/
theorem retries_stopDetection (htimer : s.device.timers .arcDetectionTimer = true)
    (h : s.retries ≤ 3) : s.stopDetection.retries ≤ 2 := by
  unfold stopDetection
  split
  · exact Nat.zero_le _
  · rename_i hgoes
    have hfew : ¬ 3 ≤ s.device.retryArcCount := fun hthree => hgoes ⟨htimer, .inl hthree⟩
    simp only [retryArcCount_device] at hfew
    omega

theorem retries_checkArcDeviceConnected (htimer : s.device.timers .arcDetectionTimer = true)
    (h : s.retries ≤ 2) : (settled (s.checkArcDeviceConnected env)).retries ≤ 2 := by
  have hdetect : (s.detectArc env).device.timers .arcDetectionTimer = true := by
    unfold detectArc retryArc deviceConnected
    simp only
    split_ifs <;> exact htimer
  have hstopped : (s.detectArc env).stopDetection.retries ≤ 2 :=
    retries_stopDetection hdetect (retries_detectArc_of_counter h)
  unfold checkArcDeviceConnected ArcEnv.call
  split
  · exact h
  · split
    · exact h
    · exact hstopped

/-! ### Runs -/

theorem retries_step {a : ArcEnv × ArcEvent} (h : s.retries ≤ 2) (ht : arcStep s a = some t) :
    t.retries ≤ 2 := by
  obtain ⟨env, event⟩ := a
  -- only the timer of the detection changes the counter
  have hkeeps : ∀ {u : Arc}, u.retries = s.retries → u.retries ≤ 2 := fun hu => hu.trans_le h
  cases event with
  | arcInitiation status =>
      cases ht
      exact hkeeps ((framed_retries _).onARCInitiation status rfl).settled
  | arcTermination status =>
      cases ht
      exact hkeeps ((framed_retries _).onARCTermination status rfl)
  | shortAudioDescriptor list =>
      cases ht
      exact hkeeps (leaves_onShortAudioDescriptor list rfl).settled
  | systemAudioMode audioMode =>
      cases ht
      exact hkeeps ((framed_retries _).onSystemAudioMode audioMode rfl)
  | audioDeviceConnectedStatus connected =>
      cases ht
      exact hkeeps ((framed_retries _).onAudioDeviceConnectedStatus connected rfl)
  | audioDevicePowerStatus status =>
      cases ht
      exact hkeeps ((framed_retries _).onAudioDevicePowerStatus status rfl).settled
  | cecEnabled enable =>
      cases ht
      exact hkeeps ((framed_retries _).onCecEnabled enable rfl)
  | arcAudioStatus mute volume =>
      cases ht
      exact hkeeps ((framed_retries _).onArcAudioStatus mute volume rfl)
  | audioOutHotPlug port connected =>
      cases ht
      exact hkeeps ((framed_retries _).onAudioOutHotPlug port connected rfl)
  | hdmiInEventHotPlug port connected =>
      cases ht
      exact hkeeps ((framed_retries _).onHdmiInEventHotPlug port connected rfl)
  | powerModeChanged newState =>
      cases ht
      exact hkeeps (leaves_onPowerModeChanged newState rfl).settled
  | initAudioPorts =>
      cases ht
      exact hkeeps ((framed_retries _).initAudioPorts rfl).settled
  | getConnectedAudioPorts =>
      cases ht
      exact hkeeps ((framed_retries _).getConnectedAudioPorts rfl)
  | setEnableAudioPort port enable =>
      cases ht
      refine hkeeps ((framed_retries _).setEnableAudioPort ?_ rfl)
      exact fun pEnable _ _ u hu => leaves_setEnableArcPort pEnable hu
  | setSoundMode port mode => exact hkeeps ((framed_retries _).setSoundMode rfl ht)
  | expired expiring =>
      obtain ⟨htimer, ht⟩ := Option.ite_none_right_eq_some.mp ht
      cases ht
      cases expiring with
      | timer => exact hkeeps ((framed_retries _).onTimer rfl)
      | audioDeviceDetectTimer =>
          exact hkeeps ((framed_retries _).checkAudioDeviceDetectionTimer rfl)
      | sadDetectionTimer => exact hkeeps (leaves_checkSADUpdate rfl).settled
      | arcDetectionTimer => exact retries_checkArcDeviceConnected htimer h
      | audioDevicePowerOnStatusTimer =>
          exact hkeeps ((framed_retries _).checkAudioDevicePowerStatusTimer rfl)

theorem retries_of_reachable {received : Bool} (h : Reachable arcStep (create received) s) :
    s.retries ≤ 2 := by
  have hcreate : (create received).retries ≤ 2 := Nat.zero_le 2
  exact h.invariant (fun _ _ _ hs ht => retries_step hs ht) hcreate

end Arc

end DeviceAndDisplay.DisplaySettings
