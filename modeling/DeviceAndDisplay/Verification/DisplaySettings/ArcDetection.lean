import DeviceAndDisplay.Verification.DisplaySettings.ArcRetries

/-! # The decision of the ARC detection

The timer is also stopped for the type of the device, which the detection sets for eARC, but which
an earlier session may have left. The detection then ends after one tick without a decision. -/

namespace DeviceAndDisplay.DisplaySettings

open Helpers Transition

/-- The HAL reports the supported types, and eARC is not one of them. -/
structure ArcEnv.ReportsNoEARC (env : ArcEnv) : Prop where
  port : env.throws .getAudioOutputPort = false
  types : env.throws .getSupportedARCTypes = false
  noEARC : env.supportsEARC = false

namespace ArcEnv.ReportsNoEARC

variable {env : ArcEnv}

theorem getAudioOutputPort (h : env.ReportsNoEARC) (s : Arc) :
    env.call .getAudioOutputPort s = .ok () := by
  rw [ArcEnv.call, h.port]
  rfl

theorem getSupportedARCTypes (h : env.ReportsNoEARC) (s : Arc) :
    env.call .getSupportedARCTypes s = .ok () := by
  rw [ArcEnv.call, h.types]
  rfl

end ArcEnv.ReportsNoEARC

/-- The power status says that the device is on. -/
def SaysOn (powerStatus : Text) : Prop :=
  Arc.isValidInt (cStr powerStatus) = true ∧ Arc.stoi powerStatus = some 0

/-- The timer of the detection expires. -/
def tick (env : ArcEnv) : ArcEnv × ArcEvent := (env, .expired .arcDetectionTimer)

namespace Arc

variable {s t : Arc} {env : ArcEnv}

/-- CEC is enabled, and no device is connected or about to be. -/
structure Undecided (s : Arc) : Prop where
  cec : s.device.isCecEnabled = true
  disconnected : s.link.hdmiInAudioDeviceConnected = false
  terminated : s.link.currentArcRoutingState = .arcTerminated

def initiations (s : Arc) : ℕ := s.calls.count (.sendMsgToQueue .sendRequestArcInitiation)

/-- One initiation was requested, and no tick can follow. -/
def Decided (s t : Arc) : Prop :=
  t.initiations = s.initiations + 1 ∧ t.device.timers .arcDetectionTimer = false

/-- Whatever three ticks could follow, a decision is made with one of them. -/
def DecidesWithinThree (s : Arc) (a : ArcEnv × ArcEvent) : Prop :=
  ∀ ticks : List ArcEnv, ticks.length = 3 → (∀ env ∈ ticks, env.ReportsNoEARC) →
    ∃ k ≤ 3, ∃ t, run arcStep s (a :: (ticks.take k).map tick) = some t ∧ s.Decided t

/-! ### The power status -/

/-- What is left of a state but for the power status and the timers. -/
structure KeptBy (s t : Arc) : Prop where
  cec : t.device.isCecEnabled = s.device.isCecEnabled
  link : t.link = s.link
  audio : t.audio = s.audio
  retries : t.retries = s.retries
  calls : t.calls = s.calls

theorem KeptBy.undecided (h : s.KeptBy t) (hs : s.Undecided) : t.Undecided where
  cec := h.cec.trans hs.cec
  disconnected := by rw [h.link, hs.disconnected]
  terminated := by rw [h.link, hs.terminated]

theorem KeptBy.decided_iff (h : s.KeptBy t) (u : Arc) : s.Decided u ↔ t.Decided u := by
  rw [Decided, Decided, initiations, initiations, initiations, h.calls]

/-- The state after `AVR_POWER_STATE_ON` but for the detection. -/
def poweredOn (s : Arc) : Arc :=
  ((s.setDevicePowerState .on).setRequestedAndReceived true).stopPowerOnStatusTimer

theorem poweredOn_kept (s : Arc) : s.KeptBy s.poweredOn := by
  unfold poweredOn stopPowerOnStatusTimer
  split <;> exact ⟨rfl, rfl, rfl, rfl, rfl⟩

theorem poweredOn_timer (s : Arc) :
    s.poweredOn.device.timers .arcDetectionTimer = s.device.timers .arcDetectionTimer := by
  unfold poweredOn stopPowerOnStatusTimer
  split <;> rfl

/-- The state in which the detection is started. -/
def detecting (s : Arc) : Arc := s.poweredOn.startTimer .arcDetectionTimer

theorem detecting_kept (s : Arc) : s.KeptBy s.detecting :=
  have h := s.poweredOn_kept
  ⟨h.cec, h.link, h.audio, h.retries, h.calls⟩

theorem arcStep_powerOn {status : Text} (hs : s.Undecided)
    (htimer : s.device.timers .arcDetectionTimer = false) (henv : env.ReportsNoEARC)
    (hstatus : SaysOn status) :
    arcStep s (env, .audioDevicePowerStatus (some status)) = some s.detecting := by
  have hconnected : ¬ s.poweredOn.link.hdmiInAudioDeviceConnected = true := by
    simp [(s.poweredOn_kept.undecided hs).disconnected]
  have hidle : ¬ s.poweredOn.device.timers .arcDetectionTimer = true := by
    simp [s.poweredOn_timer, htimer]
  have hon : s.onAvrPowerOn env = .ok s.detecting := by
    unfold onAvrPowerOn
    simp only [henv.getAudioOutputPort, henv.getSupportedARCTypes, ok_bind, henv.noEARC]
    exact (if_neg hconnected).trans (if_neg hidle)
  have hpower : s.onAudioDevicePowerStatus (some status) env = s.onAvrPowerOn env := by
    simp [onAudioDevicePowerStatus, hstatus.1, hstatus.2]
  simp only [arcStep, hpower, hon, settled_ok]

/-! ### Ticks -/

theorem arcStep_tick (hs : s.Undecided) (htimer : s.device.timers .arcDetectionTimer = true)
    (henv : env.ReportsNoEARC) : arcStep s (tick env) = some s.retryArc.stopDetection := by
  have hrouting : ¬ (s.link.currentArcRoutingState = .arcInitiated ∨
      s.link.hdmiInAudioDeviceConnected = true) := by
    simp [hs.terminated, hs.disconnected]
  have hdetect : s.detectArc env = s.retryArc := by
    rw [detectArc, if_neg hrouting, henv.noEARC]
    rfl
  have hcheck : s.checkArcDeviceConnected env = .ok s.retryArc.stopDetection := by
    rw [← hdetect]
    simp only [checkArcDeviceConnected, henv.getAudioOutputPort, henv.getSupportedARCTypes,
      ok_bind]
    rfl
  unfold arcStep tick
  simp only [htimer, if_true, onExpired, hcheck, settled_ok]

/-- The third retry requests an initiation and stops the timer. -/
theorem decided_tick (hs : s.Undecided) (htimer : s.device.timers .arcDetectionTimer = true)
    (h : 2 ≤ s.retries) : s.Decided s.retryArc.stopDetection := by
  have hmany : ¬ s.retries + 1 < 3 := by omega
  have hretry : s.retryArc = (((s.setRetryArcCount (s.retries + 1)).setDeviceType
      .arc).setArcRoutingState .requestArcInitiation).sendMsgToQueue .sendRequestArcInitiation := by
    have hrequests : s.link.currentArcRoutingState = .arcTerminated ∧
        s.device.isCecEnabled = true := ⟨hs.terminated, hs.cec⟩
    exact (if_neg hmany).trans (if_pos hrequests)
  have hstops : s.retryArc.device.timers .arcDetectionTimer = true ∧
      (3 ≤ s.retryArc.device.retryArcCount ∨
        s.retryArc.link.currentArcRoutingState = .arcInitiated ∨
        s.retryArc.audio.hdmiInAudioDeviceType ≠ .none) := by
    rw [hretry]
    exact ⟨htimer, .inr (.inr AudioARCType.noConfusion)⟩
  rw [stopDetection, if_pos hstops, hretry]
  exact ⟨List.count_cons_self, rfl⟩

/-- An earlier retry only counts. -/
theorem retryArc_of_lt (h : s.retries < 2) : s.retryArc = s.setRetryArcCount (s.retries + 1) := by
  have hfew : s.retries + 1 < 3 := by omega
  exact if_pos hfew

theorem tick_counts (hs : s.Undecided) (htype : s.audio.hdmiInAudioDeviceType = .none)
    (h : s.retries < 2) : s.retryArc.stopDetection = s.setRetryArcCount (s.retries + 1) := by
  rw [retryArc_of_lt h]
  apply if_neg
  rintro ⟨-, hmany | hinitiated | hleft⟩
  · have hthree : 3 ≤ s.retries + 1 := hmany
    omega
  · cases hs.terminated.symm.trans hinitiated
  · exact hleft htype

/-- The type that was left stops the timer before anything is requested. -/
theorem tick_stops (htimer : s.device.timers .arcDetectionTimer = true)
    (htype : s.audio.hdmiInAudioDeviceType ≠ .none) (h : s.retries < 2) :
    s.retryArc.stopDetection.device.timers .arcDetectionTimer = false ∧
      s.retryArc.stopDetection.initiations = s.initiations := by
  have hstops : s.retryArc.stopDetection =
      ((s.setRetryArcCount (s.retries + 1)).setRetryArcCount 0).stopTimer .arcDetectionTimer := by
    rw [retryArc_of_lt h]
    exact if_pos ⟨htimer, .inr (.inr htype)⟩
  rw [hstops]
  exact ⟨rfl, rfl⟩

/-! ### Runs of ticks -/

/-- The ticks that are left until the third retry are enough for a decision. -/
theorem exists_decided {ticks : List ArcEnv} (hs : s.Undecided)
    (htimer : s.device.timers .arcDetectionTimer = true)
    (hfresh : s.audio.hdmiInAudioDeviceType = .none ∨ 2 ≤ s.retries) (hfew : s.retries ≤ 2)
    (henough : 3 ≤ s.retries + ticks.length) (henv : ∀ env ∈ ticks, env.ReportsNoEARC) :
    ∃ k ≤ ticks.length, ∃ t, run arcStep s ((ticks.take k).map tick) = some t ∧ s.Decided t := by
  induction ticks generalizing s with
  | nil =>
      rw [List.length_nil] at henough
      omega
  | cons env ticks ih =>
      obtain ⟨henv, hrest⟩ := List.forall_mem_cons.mp henv
      have htick := arcStep_tick hs htimer henv
      by_cases hlast : 2 ≤ s.retries
      · exact ⟨1, by simp, _, by simpa using htick, decided_tick hs htimer hlast⟩
      · have hcount : s.retries < 2 := by omega
        have htype := hfresh.resolve_right hlast
        rw [tick_counts hs htype hcount] at htick
        have hcounted : (s.setRetryArcCount (s.retries + 1)).Undecided :=
          ⟨hs.cec, hs.disconnected, hs.terminated⟩
        rw [List.length_cons] at henough ⊢
        obtain ⟨k, hk, t, ht, hdecided⟩ := ih hcounted htimer (.inl htype)
          (show s.retries + 1 ≤ 2 by omega)
          (show 3 ≤ s.retries + 1 + ticks.length by omega) hrest
        refine ⟨k + 1, Nat.succ_le_succ hk, t, ?_, hdecided⟩
        rw [List.take_succ_cons, List.map_cons, run_cons, htick]
        exact ht

/-- A timer that is stopped does not tick. -/
theorem eq_of_run_ticks {ticks : List ArcEnv}
    (htimer : s.device.timers .arcDetectionTimer = false)
    (ht : run arcStep s (ticks.map tick) = some t) : t = s := by
  cases ticks with
  | nil => exact (Option.some.inj ht).symm
  | cons env ticks =>
      obtain ⟨u, hu, -⟩ := run_cons_eq_some.mp ht
      obtain ⟨hactive, -⟩ := Option.ite_none_right_eq_some.mp hu
      cases htimer.symm.trans hactive

theorem not_decided_of_run_ticks {ticks : List ArcEnv} (hs : s.Undecided)
    (htimer : s.device.timers .arcDetectionTimer = true)
    (htype : s.audio.hdmiInAudioDeviceType ≠ .none) (hcount : s.retries < 2)
    (henv : ∀ env ∈ ticks, env.ReportsNoEARC)
    (ht : run arcStep s (ticks.map tick) = some t) : ¬ s.Decided t := by
  rintro ⟨hrequested, hstopped⟩
  cases ticks with
  | nil =>
      obtain rfl := Option.some.inj ht
      cases htimer.symm.trans hstopped
  | cons env ticks =>
      obtain ⟨u, hu, ht⟩ := run_cons_eq_some.mp ht
      rw [arcStep_tick hs htimer (henv env List.mem_cons_self)] at hu
      obtain rfl := Option.some.inj hu
      obtain ⟨hidle, hsame⟩ := tick_stops htimer htype hcount
      rw [eq_of_run_ticks hidle ht, hsame] at hrequested
      omega

/-! ### Reachable states -/

/-- With a type of the device that was left, no ticks lead to a decision. -/
theorem not_decidesWithinThree {status : Text} (hs : s.Undecided)
    (htimer : s.device.timers .arcDetectionTimer = false) (henv : env.ReportsNoEARC)
    (hstatus : SaysOn status) (htype : s.audio.hdmiInAudioDeviceType ≠ .none)
    (hcount : s.retries < 2) :
    ¬ s.DecidesWithinThree (env, .audioDevicePowerStatus (some status)) := by
  intro hdecides
  have hkept := s.detecting_kept
  have hreports : ∀ env' ∈ List.replicate 3 env, env'.ReportsNoEARC := fun env' henv' =>
    List.eq_of_mem_replicate henv' ▸ henv
  obtain ⟨k, -, t, ht, hdecided⟩ := hdecides _ List.length_replicate hreports
  rw [run_cons, arcStep_powerOn hs htimer henv hstatus, Option.bind_some] at ht
  rw [← hkept.audio] at htype
  refine not_decided_of_run_ticks (hkept.undecided hs) rfl htype (hkept.retries.trans_lt hcount)
    (fun env' henv' => ?_) ht ((hkept.decided_iff t).mp hdecided)
  exact hreports env' (List.mem_of_mem_take henv')

/-- A detection that the power status starts is decided exactly if no type of the device was left,
or if the timers were stopped after two retries. -/
theorem decidesWithinThree_iff {received : Bool} {status : Text}
    (h : Reachable arcStep (create received) s) (hs : s.Undecided)
    (htimer : s.device.timers .arcDetectionTimer = false) (henv : env.ReportsNoEARC)
    (hstatus : SaysOn status) :
    s.DecidesWithinThree (env, .audioDevicePowerStatus (some status)) ↔
      s.audio.hdmiInAudioDeviceType = .none ∨ s.device.retryArcCount = 2 := by
  have hfew : s.retries ≤ 2 := retries_of_reachable h
  constructor
  · intro hdecides
    by_contra hleft
    obtain ⟨htype, hnot⟩ := not_or.mp hleft
    have hcount : s.retries < 2 := lt_of_le_of_ne hfew hnot
    exact not_decidesWithinThree hs htimer henv hstatus htype hcount hdecides
  · intro hfresh ticks hlength hticks
    have hkept := s.detecting_kept
    have hready : s.detecting.audio.hdmiInAudioDeviceType = .none ∨ 2 ≤ s.detecting.retries := by
      rw [hkept.audio, hkept.retries]
      exact hfresh.imp_right Eq.ge
    obtain ⟨k, hk, t, ht, hdecided⟩ := exists_decided (hkept.undecided hs) rfl hready
      (hkept.retries.trans_le hfew) (by omega) hticks
    refine ⟨k, hlength ▸ hk, t, ?_, (hkept.decided_iff t).mpr hdecided⟩
    rw [run_cons, arcStep_powerOn hs htimer henv hstatus]
    exact ht

theorem reportsNoEARC_atHome (mode : AudioStereoMode) : (ArcEnv.atHome mode).ReportsNoEARC where
  port := rfl
  types := rfl
  noEARC := rfl

theorem saysOn_zero : SaysOn "0".toList := by
  constructor
  · decide
  · decide

/-- The device is detected after the ports are initialised. -/
theorem decidesWithinThree_initialised :
    ∃ s, run arcStep (create false) (atHome .stereo [.initAudioPorts]) = some s ∧
      s.DecidesWithinThree (.atHome .stereo, .audioDevicePowerStatus (some "0".toList)) := by
  have hinit : ∃ s, run arcStep (create false) (atHome .stereo [.initAudioPorts]) = some s ∧
      s.Undecided ∧ s.device.timers .arcDetectionTimer = false ∧
      s.audio.hdmiInAudioDeviceType = .none := ⟨_, rfl, ⟨rfl, rfl, rfl⟩, rfl, rfl⟩
  obtain ⟨s, hs, hundecided, htimer, htype⟩ := hinit
  exact ⟨s, hs, (decidesWithinThree_iff ⟨_, hs⟩ hundecided htimer (reportsNoEARC_atHome .stereo)
    saysOn_zero).mpr (.inl htype)⟩

/-- A device initiates ARC, and terminates it. -/
def oneSession : List (ArcEnv × ArcEvent) :=
  atHome .stereo [.initAudioPorts, .arcInitiation (some success), .arcTermination (some success)]

/-- After a session the type of its device is left, and no initiation is requested. -/
theorem not_decided_after_session :
    ∃ s, run arcStep (create false) oneSession = some s ∧ s.Undecided ∧
      s.device.timers .arcDetectionTimer = false ∧ (ArcEnv.atHome .stereo).ReportsNoEARC ∧
      SaysOn "0".toList ∧
      ¬ s.DecidesWithinThree (.atHome .stereo, .audioDevicePowerStatus (some "0".toList)) := by
  refine ⟨_, rfl, ⟨rfl, rfl, rfl⟩, rfl, reportsNoEARC_atHome .stereo, saysOn_zero, ?_⟩
  exact not_decidesWithinThree ⟨rfl, rfl, rfl⟩ rfl (reportsNoEARC_atHome .stereo) saysOn_zero
    AudioARCType.noConfusion Nat.two_pos

end Arc

end DeviceAndDisplay.DisplaySettings
