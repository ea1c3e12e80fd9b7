import DeviceAndDisplay.Verification.DisplaySettings.ArcParts
import DeviceAndDisplay.Transition.Run

/-! # The polling of the power status

The timer is stopped by the retry count, which only some of the ways to stop it reset, and the
count grows only while the device is not known to be on. -/

namespace DeviceAndDisplay.DisplaySettings

open Helpers Transition

/-- The timer of the polling expires. -/
def pollTick (env : ArcEnv) : ArcEnv × ArcEvent := (env, .expired .audioDevicePowerOnStatusTimer)

namespace Arc

variable {s t : Arc} {env : ArcEnv}

/-- The timer is active for a device that was detected. -/
structure PollActive (s : Arc) : Prop where
  active : s.device.timers .audioDevicePowerOnStatusTimer = true
  subscribed : s.device.subscribed = true
  detected : s.device.hdmiCecAudioDeviceDetected = true

/-- The step starts the timer, and closes the gate for ARC initiations. -/
structure StartsPolling (s : Arc) (a : ArcEnv × ArcEvent) (t : Arc) : Prop where
  event : a.2 = .initAudioPorts ∨ a.2 = .expired .audioDeviceDetectTimer
  step : arcStep s a = some t
  closed : t.device.systemAudioModePowerRequestedAndReceived = false
  polls : t.PollActive

def powerRequests (s : Arc) : ℕ := s.calls.count (.sendMsgToQueue .requestAudioDevicePowerStatus)

/-- As often as the timer expired a power status was requested, up to five times. With the fifth
tick the timer is stopped and the gate open. -/
structure PolledBy (s : Arc) (ticks : ℕ) (t : Arc) : Prop where
  requests : t.powerRequests = s.powerRequests + ticks
  active : t.device.timers .audioDevicePowerOnStatusTimer = decide (ticks < 5)
  opened : ticks = 5 → t.device.systemAudioModePowerRequestedAndReceived = true

def PollsFiveTimes (s : Arc) : Prop :=
  ∀ ticks : List ArcEnv, ticks.length ≤ 5 →
    ∃ t, run arcStep s (ticks.map pollTick) = some t ∧ s.PolledBy ticks.length t

/-! ### Ticks -/

theorem timers_stopTimer (stopped : ArcTimer) (s : Arc) :
    (s.stopTimer stopped).device.timers stopped = false :=
  Function.update_self ..

theorem arcStep_pollTick (h : s.PollActive) (env : ArcEnv) :
    arcStep s (pollTick env) = some s.checkAudioDevicePowerStatusTimer :=
  if_pos h.active

/-- A device that is not known to be on is asked. -/
theorem requestPowerStatusAgain_of_ne (h : s.PollActive)
    (hpower : s.device.hdmiInAudioDevicePowerState ≠ .on) :
    s.requestPowerStatusAgain = s.sendPowerOnAgain.requestPowerStatus.setRetryPowerRequestCount
      (s.device.retryPowerRequestCount + 1) :=
  if_pos ⟨h.subscribed, h.detected, hpower⟩

/-- What a tick leaves that asks for the power status. -/
structure Asked (s t : Arc) : Prop where
  requests : t.powerRequests = s.powerRequests + 1
  polls : s.PollActive → t.PollActive
  power : t.device.hdmiInAudioDevicePowerState ≠ .on
  count : t.device.retryPowerRequestCount = s.device.retryPowerRequestCount + 1

theorem asked_requestPowerStatusAgain (h : s.PollActive)
    (hpower : s.device.hdmiInAudioDevicePowerState ≠ .on) : s.Asked s.requestPowerStatusAgain := by
  rw [requestPowerStatusAgain_of_ne h hpower]
  unfold sendPowerOnAgain
  split
  · refine ⟨?_, fun hpolls => ⟨hpolls.active, hpolls.subscribed, hpolls.detected⟩, ?_, rfl⟩
    · simp [powerRequests, call, updateDevice]
    · exact AudioDevicePowerState.noConfusion
  · refine ⟨?_, fun hpolls => ⟨hpolls.active, hpolls.subscribed, hpolls.detected⟩, ?_, rfl⟩
    · simp [powerRequests, call, updateDevice]
    · exact AudioDevicePowerState.noConfusion

theorem tick_of_lt (h : s.PollActive) (hpower : s.device.hdmiInAudioDevicePowerState ≠ .on)
    (hcount : s.device.retryPowerRequestCount < 4) :
    s.checkAudioDevicePowerStatusTimer = s.requestPowerStatusAgain := by
  have hasked := asked_requestPowerStatusAgain h hpower
  refine if_neg ?_
  rintro ⟨hfive, _⟩
  rw [hasked.count] at hfive
  omega

/-- The last tick. -/
theorem tick_of_le (h : s.PollActive) (hpower : s.device.hdmiInAudioDevicePowerState ≠ .on)
    (hcount : 4 ≤ s.device.retryPowerRequestCount) :
    s.checkAudioDevicePowerStatusTimer =
      ((s.requestPowerStatusAgain.setRequestedAndReceived true).setRetryPowerRequestCount
        0).stopTimer .audioDevicePowerOnStatusTimer := by
  have hasked := asked_requestPowerStatusAgain h hpower
  refine if_pos ⟨?_, (hasked.polls h).active⟩
  rw [hasked.count]
  omega

/-- A device that is on is not asked, and the count does not grow. -/
theorem powerRequests_tick_of_on (hpower : s.device.hdmiInAudioDevicePowerState = .on) :
    s.checkAudioDevicePowerStatusTimer.powerRequests = s.powerRequests := by
  have hsame : s.requestPowerStatusAgain = s := by
    apply if_neg
    rintro ⟨_, _, hne⟩
    exact hne hpower
  unfold checkAudioDevicePowerStatusTimer
  simp only [hsame]
  split <;> rfl

/-! ### Runs of ticks -/

/-- With the count at `n`, the polling ends after `5 - n` ticks. -/
theorem exists_run_pollTicks {n : ℕ} (ticks : List ArcEnv) (h : s.PollActive)
    (hpower : s.device.hdmiInAudioDevicePowerState ≠ .on)
    (hcount : s.device.retryPowerRequestCount = n) (hfew : n < 5) (hle : n + ticks.length ≤ 5) :
    ∃ t, run arcStep s (ticks.map pollTick) = some t ∧
      t.powerRequests = s.powerRequests + ticks.length ∧
      t.device.timers .audioDevicePowerOnStatusTimer = decide (n + ticks.length < 5) ∧
      (n + ticks.length = 5 → t.device.systemAudioModePowerRequestedAndReceived = true) := by
  induction ticks generalizing s n with
  | nil =>
      refine ⟨s, rfl, rfl, ?_, ?_⟩
      · rw [h.active]
        exact (decide_eq_true hfew).symm
      · intro hfive
        rw [List.length_nil] at hfive
        omega
  | cons env ticks ih =>
      have hasked := asked_requestPowerStatusAgain h hpower
      have hstep := arcStep_pollTick h env
      rw [List.length_cons] at hle ⊢
      by_cases hlast : 4 ≤ n
      · obtain rfl : ticks = [] := List.length_eq_zero_iff.mp (by omega)
        rw [tick_of_le h hpower (hcount ▸ hlast)] at hstep
        have hrun := (run_singleton s (pollTick env)).trans hstep
        refine ⟨_, hrun, hasked.requests, ?_, fun _ => rfl⟩
        rw [List.length_nil, decide_eq_false (by omega)]
        exact timers_stopTimer ..
      · rw [tick_of_lt h hpower (by omega)] at hstep
        obtain ⟨t, ht, hrequests, hactive, hopened⟩ := ih (hasked.polls h) hasked.power
          (hasked.count.trans (congrArg (· + 1) hcount)) (by omega) (by omega)
        refine ⟨t, ?_, ?_, ?_, ?_⟩
        · rw [List.map_cons, run_cons, hstep]
          exact ht
        · rw [hrequests, hasked.requests]
          omega
        · rw [hactive, Nat.add_right_comm, Nat.add_assoc]
        · intro hfive
          apply hopened
          omega

/-! ### Reachable states -/

theorem pollsFiveTimes_of_fresh (h : s.PollActive)
    (hpower : s.device.hdmiInAudioDevicePowerState ≠ .on)
    (hcount : s.device.retryPowerRequestCount = 0) : s.PollsFiveTimes := by
  intro ticks hfew
  obtain ⟨t, ht, hrequests, hactive, hopened⟩ :=
    exists_run_pollTicks ticks h hpower hcount (by decide) (by omega)
  rw [Nat.zero_add] at hactive hopened
  exact ⟨t, ht, hrequests, hactive, hopened⟩

/-- A device that is on makes the first tick do nothing. -/
theorem not_pollsFiveTimes_of_on (h : s.PollActive)
    (hpower : s.device.hdmiInAudioDevicePowerState = .on) : ¬ s.PollsFiveTimes := by
  intro hpolls
  obtain ⟨t, ht, hpolled⟩ := hpolls [{}] (by decide)
  have hstep := (run_singleton s (pollTick {})).trans (arcStep_pollTick h {})
  obtain rfl := Option.some.inj (hstep.symm.trans ht)
  have hrequests := hpolled.requests
  rw [powerRequests_tick_of_on hpower, List.length_singleton] at hrequests
  omega

/-- A count that was left ends the polling too early. -/
theorem not_pollsFiveTimes_of_count (h : s.PollActive)
    (hpower : s.device.hdmiInAudioDevicePowerState ≠ .on)
    (hcount : s.device.retryPowerRequestCount ≠ 0) : ¬ s.PollsFiveTimes := by
  intro hpolls
  by_cases hmany : 4 ≤ s.device.retryPowerRequestCount
  · obtain ⟨t, ht, hpolled⟩ := hpolls [{}] (by decide)
    have hstep := (run_singleton s (pollTick {})).trans (arcStep_pollTick h {})
    rw [tick_of_le h hpower hmany] at hstep
    obtain rfl := Option.some.inj (hstep.symm.trans ht)
    have hactive := hpolled.active
    rw [timers_stopTimer] at hactive
    exact absurd hactive (by decide)
  · have hlength : (List.replicate (5 - s.device.retryPowerRequestCount) ({} : ArcEnv)).length =
        5 - s.device.retryPowerRequestCount := List.length_replicate
    obtain ⟨t, ht, hpolled⟩ := hpolls _ (hlength.le.trans (Nat.sub_le ..))
    obtain ⟨u, hu, _, hactive, _⟩ := exists_run_pollTicks
      (List.replicate (5 - s.device.retryPowerRequestCount) {}) h hpower rfl (by omega)
      (by rw [hlength]; omega)
    obtain rfl := Option.some.inj (hu.symm.trans ht)
    have hfive := hactive.symm.trans hpolled.active
    rw [hlength, decide_eq_decide] at hfive
    omega

/-- A polling that was just started goes on for five ticks exactly if the device was not known to be
on and no retry was left. -/
theorem pollsFiveTimes_iff {a : ArcEnv × ArcEvent} (hstarts : s.StartsPolling a t) :
    t.PollsFiveTimes ↔ t.device.hdmiInAudioDevicePowerState ≠ .on ∧
      t.device.retryPowerRequestCount = 0 := by
  constructor
  · intro hpolls
    have hpower : t.device.hdmiInAudioDevicePowerState ≠ .on :=
      fun hon => not_pollsFiveTimes_of_on hstarts.polls hon hpolls
    refine ⟨hpower, ?_⟩
    by_contra hcount
    exact not_pollsFiveTimes_of_count hstarts.polls hpower hcount hpolls
  · intro hfresh
    exact pollsFiveTimes_of_fresh hstarts.polls hfresh.1 hfresh.2

/-- The audio device is there when the ports are initialised. -/
def detectedAtHome : ArcEnv :=
  { ArcEnv.atHome .stereo with hdmiCecSinkAudioDeviceConnectedStatus := true }

theorem pollsFiveTimes_initialised :
    ∃ t, (create false).StartsPolling (detectedAtHome, .initAudioPorts) t ∧ t.PollsFiveTimes := by
  have hinit : ∃ t, (create false).StartsPolling (detectedAtHome, .initAudioPorts) t ∧
      t.device.hdmiInAudioDevicePowerState ≠ .on ∧ t.device.retryPowerRequestCount = 0 :=
    ⟨_, ⟨.inl rfl, rfl, rfl, ⟨rfl, rfl, rfl⟩⟩, AudioDevicePowerState.noConfusion, rfl⟩
  obtain ⟨t, hstarts, hfresh⟩ := hinit
  exact ⟨t, hstarts, (pollsFiveTimes_iff hstarts).mpr hfresh⟩

/-- The device goes to standby after the first tick. -/
def interruptedPolling : List (ArcEnv × ArcEvent) :=
  [(detectedAtHome, .initAudioPorts), pollTick detectedAtHome,
    (detectedAtHome, .powerModeChanged .standby)]

/-- The next polling starts with a retry that is left of the last one. -/
theorem not_pollsFiveTimes_interrupted :
    ∃ s t, run arcStep (create false) interruptedPolling = some s ∧
      s.StartsPolling (detectedAtHome, .initAudioPorts) t ∧ ¬ t.PollsFiveTimes := by
  refine ⟨_, _, rfl, ⟨.inl rfl, rfl, rfl, ⟨rfl, rfl, rfl⟩⟩, ?_⟩
  apply not_pollsFiveTimes_of_count ⟨rfl, rfl, rfl⟩
  · exact AudioDevicePowerState.noConfusion
  · exact Nat.one_ne_zero

end Arc

end DeviceAndDisplay.DisplaySettings
