import DeviceAndDisplay.Model.PowerManager.WakeupSources
import DeviceAndDisplay.Verification.PowerManager.SleepCalls

/-! # The network standby flag of SetDeepSleep

`performActivate` receives the mode and does not store it, and the delayed entry passes a
constant, so `SetDeepSleep` is told that network standby is off whatever was requested. -/

namespace DeviceAndDisplay.PowerManager

namespace Implementation

open Transition DeepSleepController

variable {env : Env} {m m' : Implementation}

/-! ### What reaches the platform -/

theorem Works.nwStandbyMode {a : SleepAction} {c c' : DeepSleepController}
    (h : Works env c a c') : c'.nwStandbyMode = c.nwStandbyMode := by
  cases h with
  | @performActivate i job hj =>
      unfold DeepSleepController.performActivate
      split
      · rfl
      · dsimp only
        split <;> rfl
  | _ => rfl

/-- No step sets the flag that the retry loop reads. -/
theorem nwStandbyMode_step {a : Env × Action} (hm : m.Coherent) (h : step m a = some m')
    (hnw : m.deepSleepController.nwStandbyMode = false) :
    m'.deepSleepController.nwStandbyMode = false := by
  apply step_controller (I := fun c => c.nwStandbyMode = false) hm h
  · exact fun c jobs hc => hc
  · exact fun c hc => hc
  · exact fun c i e wakeup _ _ hc => hc
  · exact fun s c' _ hw => hw.nwStandbyMode.trans hnw
  · exact hnw

/-- A call of `SetDeepSleep` belongs to an activation that is still at work. -/
theorem mem_sleepLog_platformSetDeepSleep {a : SleepAction} {timeOut stay current : ℕ}
    {networkStandby : Bool} {stored : PowerState}
    (h : .platformSetDeepSleep timeOut networkStandby stay stored current ∈ m.sleepLog a) :
    (networkStandby = false ∨ networkStandby = m.deepSleepController.nwStandbyMode) ∧
      stay ∈ m.deepSleepController.stays := by
  cases a with
  | performActivate | sleepReturned => cases h
  | delayExpired i =>
      obtain ⟨job, hj, heq⟩ := Option.map_eq_some_iff.mp (Option.mem_toList.mp h)
      cases heq
      exact ⟨.inl rfl, stay_mem_of_delayJob (List.mem_of_getElem? hj)⟩
  | setDeepSleep i =>
      obtain ⟨e, he, heq⟩ := Option.map_eq_some_iff.mp (Option.mem_toList.mp h)
      cases heq
      exact ⟨.inr rfl, stay_mem_of_entry (List.mem_of_getElem? he)⟩
  | announce i =>
      rcases List.mem_append.mp h with h | h
      · exact absurd (isListener_of_mem_callbacks h) (by simp [LogEntry.isListener])
      · simp at h

/-- Every activation at work and every call of `SetDeepSleep` goes back to one of `history`. -/
structure Carried (history : List (ℕ × Bool)) (m : Implementation) : Prop where
  nwStandbyMode : m.deepSleepController.nwStandbyMode = false
  stays : ∀ k ∈ m.deepSleepController.stays, ∃ mode, (k, mode) ∈ history
  calls : ∀ timeOut networkStandby stay stored current,
    .platformSetDeepSleep timeOut networkStandby stay stored current ∈ m.log →
      networkStandby = false ∧ ∃ mode, (stay, mode) ∈ history

variable {history : List (ℕ × Bool)}

theorem carried_init (b : Bool) (pc : PowerController) : (init b pc).Carried [] where
  nwStandbyMode := rfl
  stays := by simp [init, DeepSleepController.stays]
  calls := by simp [init]

theorem Carried.mono (hc : m.Carried history) (more : List (ℕ × Bool)) :
    m.Carried (history ++ more) where
  nwStandbyMode := hc.nwStandbyMode
  stays := by
    intro k hk
    obtain ⟨mode, hmode⟩ := hc.stays k hk
    exact ⟨mode, List.mem_append_left _ hmode⟩
  calls := by
    intro timeOut networkStandby stay stored current hmem
    obtain ⟨hnw, mode, hmode⟩ := hc.calls _ _ _ _ _ hmem
    exact ⟨hnw, mode, List.mem_append_left _ hmode⟩

/-- The calls that a step adds are made for activations at work. -/
theorem calls_step {a : Env × Action} (hm : m.Coherent) (hc : m.Carried history)
    (h : step m a = some m') {timeOut stay current : ℕ} {networkStandby : Bool}
    {stored : PowerState}
    (hmem : .platformSetDeepSleep timeOut networkStandby stay stored current ∈ m'.log) :
    networkStandby = false ∧ ∃ mode, (stay, mode) ∈ history := by
  have hold := hc.calls timeOut networkStandby stay stored current
  rcases step_log hm h with
    ⟨_, _, es, heq, hes⟩ | ⟨s, _, hs⟩ | ⟨c, hd, t, m₀, hr, _⟩ | ⟨_, call, log, cs, _, hi⟩
  · rw [heq] at hmem
    rcases List.mem_append.mp hmem with hmem | hmem
    · cases hes _ hmem
    · exact hold hmem
  · rw [sleepStep_log hs] at hmem
    rcases List.mem_append.mp hmem with hmem | hmem
    · obtain ⟨hnw, hstay⟩ := mem_sleepLog_platformSetDeepSleep hmem
      rw [hc.nwStandbyMode, or_self] at hnw
      exact ⟨hnw, hc.stays stay hstay⟩
    · exact hold hmem
  · obtain ⟨es, heq, hes⟩ := hr.log
    rw [heq] at hmem
    rcases List.mem_append.mp hmem with hmem | hmem
    · cases hes _ hmem
    · rcases List.mem_append.mp hmem with hmem | hmem
      · rcases mem_completionLog hmem with hn | hn | hn | hn | hn | hn <;> cases hn
      · exact hold hmem
  · rw [hi.log] at hmem
    rcases List.mem_cons.mp hmem with hn | hmem
    · cases hn
    · rcases List.mem_append.mp hmem with hmem | hmem
      · rcases mem_reset hm hi.reset hmem with hn | hn | hn <;> cases hn
      · exact hold hmem

end Implementation

namespace StandbyPlugin

open Transition Implementation DeepSleepController

variable {s t : StandbyPlugin} {history : List (ℕ × Bool)}

theorem carried_plugin {env : Env} {a : Action} {m' : Implementation}
    (hm : s.plugin.Coherent) (hc : s.plugin.Carried history)
    (h : step s.plugin (env, a) = some m') :
    m'.Carried (history ++ (activation s (.plugin env a)).toList) := by
  have hact : activation s (.plugin env a) =
      if s.plugin.deepSleepController.activateJobs.length <
          m'.deepSleepController.activateJobs.length then
        some (m'.stay, s.plugin.powerController.settings.nwStandbyMode)
      else none := by
    simp [activation, standbyStep, h]
  constructor
  · exact nwStandbyMode_step hm h hc.nwStandbyMode
  · intro k hk
    have hkept : k ∈ s.plugin.deepSleepController.stays →
        ∃ mode, (k, mode) ∈ history ++ (activation s (.plugin env a)).toList :=
      (hc.mono _).stays k
    rcases step_deepSleep hm h with ⟨_, hr⟩ | ⟨sleep, _, hs⟩ | ⟨d, _, hs⟩
    · exact hkept (hr.winds.stays hk)
    · exact hkept ((sleepStep_works hs).stays hk)
    · by_cases hnew : s.plugin.Accepts env d false ∧ d.newState = .standbyDeepSleep
      · obtain ⟨timeOut, nw, hjobs⟩ := hs.activated hnew.1 hnew.2
        rw [mem_stays, hjobs, hs.deepSleep] at hk
        rcases hk with ⟨job, hj, rfl⟩ | hk | hk
        · rcases List.mem_append.mp hj with hj | hj
          · exact hkept (stay_mem_of_activateJob hj)
          · -- the activation of this very step
            rw [List.mem_singleton.mp hj, hact, if_pos (by simp [hjobs])]
            exact ⟨_, List.mem_append_right _ (List.mem_singleton_self _)⟩
        · exact hkept (mem_stays.mpr (.inr (.inl hk)))
        · exact hkept (mem_stays.mpr (.inr (.inr hk)))
      · have hsame : m'.deepSleepController = s.plugin.deepSleepController := by
          by_cases ha : s.plugin.Accepts env d false
          · exact hs.notActivated fun hd => hnew ⟨ha, hd⟩
          · exact (hs.refused ha).2
        exact hkept (hsame ▸ hk)
  · intro timeOut networkStandby stay stored current hmem
    exact calls_step hm (hc.mono _) h hmem

theorem carried_step (hm : s.plugin.Coherent) (hc : s.plugin.Carried history)
    {a : StandbyAction} (h : standbyStep s a = some t) :
    t.plugin.Coherent ∧ t.plugin.Carried (history ++ (activation s a).toList) := by
  cases a with
  | plugin env a =>
      obtain ⟨m', hm', rfl⟩ := Option.map_eq_some_iff.mp h
      exact ⟨coherent_step hm hm', carried_plugin hm hc hm'⟩
  | setNetworkStandbyMode env standbyMode =>
      cases h
      obtain ⟨h₁, h₂, h₃, h₄, h₅, h₆, h₇⟩ := hm
      have hc' := hc.mono (activation s (.setNetworkStandbyMode env standbyMode)).toList
      exact ⟨⟨h₁, h₂, h₃, h₄, h₅, h₆, h₇⟩, hc'.nwStandbyMode, hc'.stays, hc'.calls⟩
  | setDeepSleepTimer timeOut =>
      cases h
      obtain ⟨h₁, h₂, h₃, h₄, h₅, h₆, h₇⟩ := hm
      have hc' := hc.mono (activation s (.setDeepSleepTimer timeOut)).toList
      exact ⟨⟨h₁, h₂, h₃, h₄, h₅, h₆, h₇⟩, hc'.nwStandbyMode, hc'.stays, hc'.calls⟩

/-- Every call of `SetDeepSleep` goes back to an activation, and it passes the mode stored at an
activation of its stay exactly when that mode was off. -/
theorem network_standby_reaches_platform_iff (b : Bool) (pc : PowerController)
    (wakeupSrc : WakeupSrcType → Bool) (as : List StandbyAction) (s : StandbyPlugin)
    (hr : run standbyStep ⟨init b pc, wakeupSrc⟩ as = some s) :
    ∀ timeOut networkStandby stay stored current,
      .platformSetDeepSleep timeOut networkStandby stay stored current ∈ s.plugin.log →
        (∃ mode, (stay, mode) ∈ outputs standbyStep activation ⟨init b pc, wakeupSrc⟩ as) ∧
        ∀ mode, (stay, mode) ∈ outputs standbyStep activation ⟨init b pc, wakeupSrc⟩ as →
          (networkStandby = mode ↔ mode = false) := by
  intro timeOut networkStandby stay stored current hmem
  have hinv : s.plugin.Coherent ∧
      s.plugin.Carried ([] ++ outputs standbyStep activation ⟨init b pc, wakeupSrc⟩ as) := by
    refine run_outputs_invariant
      (I := fun history s => s.plugin.Coherent ∧ s.plugin.Carried history) ?_
      ⟨coherent_init b pc, carried_init b pc⟩ hr
    exact fun history s a t hs ht => carried_step hs.1 hs.2 ht
  rw [List.nil_append] at hinv
  obtain ⟨rfl, hmode⟩ := hinv.2.calls timeOut networkStandby stay stored current hmem
  exact ⟨hmode, fun mode _ => eq_comm⟩

/-- The uninterrupted request for deep sleep, without pre-change clients. -/
def deepSleepActions : List StandbyAction :=
  [.plugin {} (.setPowerState .standbyDeepSleep), .plugin {} .advance, .plugin {} .advance,
    .plugin {} .advance, .plugin {} (.sleep (.performActivate 0)),
    .plugin {} (.sleep (.setDeepSleep 0))]

theorem network_standby_reaches_platform_off :
    ∃ s, run standbyStep ⟨init false {}, fun _ => false⟩ deepSleepActions = some s ∧
      .platformSetDeepSleep 0 false 0 .standbyDeepSleep 0 ∈ s.plugin.log ∧
      ∃ mode, (0, mode) ∈ outputs standbyStep activation ⟨init false {}, fun _ => false⟩
        deepSleepActions := by
  have hr : run standbyStep ⟨init false {}, fun _ => false⟩ deepSleepActions = some _ := rfl
  have hmem := network_standby_reaches_platform_iff false {} (fun _ => false) deepSleepActions _ hr
    0 false 0 .standbyDeepSleep 0 (by decide)
  exact ⟨_, hr, by decide, hmem.1⟩

/-- Network standby is on when deep sleep is activated, and the platform is told it is off. -/
theorem network_standby_lost :
    ∃ s, run standbyStep ⟨init false {}, fun _ => false⟩
        (.setNetworkStandbyMode {} true :: deepSleepActions) = some s ∧
      outputs standbyStep activation ⟨init false {}, fun _ => false⟩
        (.setNetworkStandbyMode {} true :: deepSleepActions) = [(0, true)] ∧
      .platformSetDeepSleep 0 false 0 .standbyDeepSleep 0 ∈ s.plugin.log :=
  ⟨_, rfl, rfl, by decide⟩

end StandbyPlugin

end DeviceAndDisplay.PowerManager
