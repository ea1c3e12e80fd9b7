import DeviceAndDisplay.Model.SystemServices.WakeupConfiguration
import DeviceAndDisplay.Storage.Memory
import DeviceAndDisplay.Transition.Run
import DeviceAndDisplay.Verification.PowerManager.WakeupSources

/-! # Wake-up sources are those asked for last

Whoever sets wake-up sources or the network standby mode, each source of the platform is as the last
request that named it wanted it, among those that the platform accepted. -/

namespace DeviceAndDisplay.PowerManager

open Storage Transition

/-- What the platform can set of the network sources it can also report. -/
def WakeupEnv.Consistent (env : WakeupEnv) : Prop :=
  ∀ src, src = .wifi ∨ src = .lan → env.setWakeupSrc src = .success →
    env.getWakeupSrc src = .success

/-- The sources that the platform really sets, with their values. -/
def WakeupEnv.accepted (env : WakeupEnv) (configs : List WakeupSourceConfig) :
    List (WakeupSrcType × Bool) :=
  (configs.filter fun config => env.setWakeupSrc config.wakeupSource = .success).map fun config =>
    (config.wakeupSource, config.enabled)

theorem WakeupEnv.accepted_append (env : WakeupEnv) (configs configs' : List WakeupSourceConfig) :
    env.accepted (configs ++ configs') = env.accepted configs ++ env.accepted configs' := by
  simp [accepted]

variable {env : WakeupEnv}

namespace WakeupController

theorem setWakeupSrc_wakeupSrc (config : WakeupSourceConfig) (c : WakeupController) :
    (c.setWakeupSrc env config).2.wakeupSrc = writeAll c.wakeupSrc (env.accepted [config]) := by
  unfold setWakeupSrc WakeupEnv.accepted
  cases h : env.setWakeupSrc config.wakeupSource <;> simp [h, writeAll]

theorem setWakeupSourceConfig_wakeupSrc (configs : List WakeupSourceConfig)
    (c : WakeupController) :
    (c.setWakeupSourceConfig env configs).2.wakeupSrc =
      writeAll c.wakeupSrc (env.accepted configs) := by
  suffices h : ∀ failed, (configs.foldl (fun p config =>
      (p.1 || decide ((p.2.setWakeupSrc env config).1 = .negative),
        (p.2.setWakeupSrc env config).2)) (failed, c)).2.wakeupSrc =
        writeAll c.wakeupSrc (env.accepted configs) from h false
  induction configs generalizing c with
  | nil => exact fun _ => rfl
  | cons config configs ih =>
      intro failed
      have hsplit : env.accepted (config :: configs) =
          env.accepted [config] ++ env.accepted configs :=
        WakeupEnv.accepted_append env [config] configs
      rw [hsplit, writeAll_append, ← setWakeupSrc_wakeupSrc]
      exact ih _ _

/-- The mode is stored beside the sources. -/
theorem setNetworkStandbyMode_wakeupSrc (standbyMode : Bool) (c : WakeupController) :
    (c.setNetworkStandbyMode env standbyMode).2.wakeupSrc = writeAll c.wakeupSrc (env.accepted
      (if standbyMode = c.nwStandbyMode then [] else networkConfigs standbyMode)) := by
  unfold setNetworkStandbyMode
  by_cases hsame : standbyMode = c.nwStandbyMode
  · rw [if_pos hsame, if_pos hsame]
    rfl
  · rw [if_neg hsame, if_neg hsame, ← setWakeupSourceConfig_wakeupSrc]
    dsimp only
    split <;> rfl

/-- Of a source that the platform reports the value is read back. -/
theorem isWakeupSrcEnabled_getWakeupSourceConfig {src : WakeupSrcType} (hsrc : src ∈ wakeupSources)
    (h : env.getWakeupSrc src = .success) (c : WakeupController) :
    WakeupImplementation.isWakeupSrcEnabled (c.getWakeupSourceConfig env).2 src =
      c.wakeupSrc src :=
  WakeupImplementation.isWakeupSrcEnabled_map c.wakeupSrc
    (List.mem_filter.mpr ⟨hsrc, decide_eq_true h⟩)

end WakeupController

namespace WakeupImplementation

theorem setNetworkStandbyMode_controller (standbyMode : Bool) (m : WakeupImplementation) :
    (m.setNetworkStandbyMode env standbyMode).2.controller =
      (m.controller.setNetworkStandbyMode env standbyMode).2 := rfl

/-- The network sources that a consistent platform sets to the mode it has just reported are at
that mode already. -/
theorem setWakeupSourceConfig_wakeupSrc (hc : env.Consistent) (configs : List WakeupSourceConfig)
    (m : WakeupImplementation) :
    (m.setWakeupSourceConfig env configs).2.controller.wakeupSrc =
      writeAll m.controller.wakeupSrc (env.accepted configs) := by
  rw [← WakeupController.setWakeupSourceConfig_wakeupSrc]
  unfold setWakeupSourceConfig
  dsimp only
  split
  · rfl
  · split
    · rfl
    · split
      · rfl
      · rename_i hagree
        split
        · rfl
        · rw [setNetworkStandbyMode_controller, WakeupController.setNetworkStandbyMode_wakeupSrc]
          refine writeAll_self fun w hw => ?_
          obtain ⟨config, hconfig, rfl⟩ := List.mem_map.mp hw
          obtain ⟨hmem, haccepts⟩ := List.mem_filter.mp hconfig
          have hset : env.setWakeupSrc config.wakeupSource = .success := of_decide_eq_true haccepts
          split at hmem
          · cases hmem
          · have hequal := not_not.mp hagree
            rcases List.mem_cons.mp hmem with rfl | hmem
            · have hread := hc .wifi (.inl rfl) hset
              rw [hequal, Bool.and_self, ← hequal,
                WakeupController.isWakeupSrcEnabled_getWakeupSourceConfig (by decide) hread]
            · rw [List.mem_singleton.mp hmem] at hset ⊢
              have hread := hc .lan (.inr rfl) hset
              rw [hequal, Bool.and_self,
                WakeupController.isWakeupSrcEnabled_getWakeupSourceConfig (by decide) hread]

theorem setWakeupSources_wakeupSrc (hc : env.Consistent) (configs : List WakeupSourceConfig)
    (m : WakeupImplementation) :
    (m.setWakeupSources env configs).2.controller.wakeupSrc =
      writeAll m.controller.wakeupSrc (env.accepted
        (if (readConfigs configs).1 = .errorNone then (readConfigs configs).2 else [])) := by
  unfold setWakeupSources
  by_cases hread : (readConfigs configs).1 = .errorNone
  · simp only [hread, if_true]
    exact setWakeupSourceConfig_wakeupSrc hc _ m
  · simp only [hread, if_false]
    rfl

/-- A list that names known sources only is read as it is. -/
theorem readConfigs_known {configs : List WakeupSourceConfig}
    (h : ∀ config ∈ configs, config.wakeupSource ≠ .unknown) :
    readConfigs configs = (.errorNone, configs) := by
  induction configs with
  | nil => rfl
  | cons config configs ih =>
      rw [readConfigs, if_neg (h config List.mem_cons_self),
        ih fun other hother => h other (List.mem_cons_of_mem config hother)]

end WakeupImplementation

end DeviceAndDisplay.PowerManager

namespace DeviceAndDisplay.SystemServices

open PowerManager Storage Transition

variable {env : WakeupEnv} {m m' : WakeupImplementation} {as : List (WakeupEnv × WakeupRequest)}

theorem wakeupConfigs_known (wakeupSources : List (List WakeupVariant)) :
    ∀ config ∈ wakeupConfigs wakeupSources, config.wakeupSource ≠ .unknown := by
  intro config hconfig
  obtain ⟨wakeupSrc, _, hmem⟩ := List.mem_flatMap.mp hconfig
  obtain ⟨entry, _, hentry⟩ := List.mem_filterMap.mp hmem
  unfold WakeupVariant.config at hentry
  dsimp only at hentry
  split at hentry
  · cases hentry
  · rename_i hknown
    cases hentry
    exact fun hunknown => hknown (.inl hunknown)

/-- The configurations that a request asks for. A list with an unknown source is refused, and a
mode that is set already asks for nothing. -/
def WakeupRequest.configs (m : WakeupImplementation) : WakeupRequest → List WakeupSourceConfig
  | .setWakeupSrcConfiguration wakeupSources => (wakeupSources.map wakeupConfigs).getD []
  | .setNetworkStandbyMode standbyMode =>
      if standbyMode = m.controller.nwStandbyMode then []
      else WakeupController.networkConfigs standbyMode
  | .setWakeupSourceConfig wakeupSources =>
      if wakeupSources.any fun config => config.wakeupSource = .unknown then [] else wakeupSources

/-- Of these, what the platform accepts. -/
def wakeupWrites (m : WakeupImplementation) (a : WakeupEnv × WakeupRequest) :
    Option (List (WakeupSrcType × Bool)) :=
  some (a.1.accepted (a.2.configs m))

theorem wakeupRequestStep_wakeupSrc (hc : env.Consistent) {request : WakeupRequest}
    (h : wakeupRequestStep m (env, request) = some m') :
    m'.controller.wakeupSrc =
      writeAll m.controller.wakeupSrc (env.accepted (request.configs m)) := by
  cases request with
  | setWakeupSrcConfiguration wakeupSources =>
      cases h
      simp only [setWakeupSrcConfiguration, WakeupRequest.configs]
      generalize hconfigs : (wakeupSources.map wakeupConfigs).getD [] = configs
      have hknown : ∀ config ∈ configs, config.wakeupSource ≠ .unknown := by
        rw [← hconfigs]
        cases wakeupSources with
        | none => exact fun _ h => by cases h
        | some wakeupSources => exact wakeupConfigs_known wakeupSources
      by_cases hempty : configs = []
      · simp only [hempty, if_true]
        rfl
      · simp only [hempty, if_false]
        have hwrites := WakeupImplementation.setWakeupSources_wakeupSrc hc configs m
        rw [WakeupImplementation.readConfigs_known hknown] at hwrites
        exact hwrites
  | setNetworkStandbyMode standbyMode =>
      cases h
      exact WakeupController.setNetworkStandbyMode_wakeupSrc standbyMode m.controller
  | setWakeupSourceConfig wakeupSources =>
      cases h
      have hwrites := WakeupImplementation.setWakeupSources_wakeupSrc hc wakeupSources m
      simp only [WakeupRequest.configs]
      by_cases hunknown : ∃ config ∈ wakeupSources, config.wakeupSource = .unknown
      · rw [WakeupImplementation.readConfigs_unknown hunknown] at hwrites
        rw [if_pos (List.any_eq_true.mpr (by simpa using hunknown))]
        exact hwrites
      · have hknown : ∀ config ∈ wakeupSources, config.wakeupSource ≠ .unknown :=
          fun config hconfig heq => hunknown ⟨config, hconfig, heq⟩
        rw [WakeupImplementation.readConfigs_known hknown] at hwrites
        rw [if_neg fun hany => hunknown (by simpa using List.any_eq_true.mp hany)]
        exact hwrites

/-- In every run of requests, by SystemServices or by other clients, on a platform that can report
the network sources that it can set: each source is as the last accepted configuration that named it
wanted it, or as it was if there is none; and that is what `GetWakeupSourceConfig` reports of every
source that it reports. -/
theorem wakeup_sources_last_asked (hC : ∀ a ∈ as, a.1.Consistent)
    (hr : run wakeupRequestStep m as = some m') :
    let asked := fun src => (lastWrite src (outputs wakeupRequestStep wakeupWrites m as).flatten).getD
      (m.controller.wakeupSrc src)
    (∀ src, m'.controller.wakeupSrc src = asked src) ∧
    ∀ env, (m'.controller.getWakeupSourceConfig env).2 =
      (WakeupController.wakeupSources.filter fun src => env.getWakeupSrc src = .success).map
        fun src => ⟨src, asked src⟩ := by
  intro asked
  have hall : m'.controller.wakeupSrc =
      (outputs wakeupRequestStep wakeupWrites m as).foldl writeAll m.controller.wakeupSrc := by
    refine run_mapped (I := fun _ => True) (C := fun _ a => a.1.Consistent)
      (f := fun m => m.controller.wakeupSrc) (fun _ _ _ _ _ _ => trivial) ?_ trivial
      (along_of_forall fun a ha _ => hC a ha) hr
    rintro s ⟨env, request⟩ t _ hc hs
    exact wakeupRequestStep_wakeupSrc hc hs
  have hsources : ∀ src, m'.controller.wakeupSrc src = asked src := by
    intro src
    rw [hall, ← writeAll_flatten, writeAll_apply]
  refine ⟨hsources, fun env => ?_⟩
  simp only [WakeupController.getWakeupSourceConfig, hsources]

/-- The platform does not accept the remote control, and LAN is asked for twice. -/
theorem wakeup_sources_last_asked_twice :
    let env : WakeupEnv := { setWakeupSrc := fun src => if src = .rf4ce then .positive else .success }
    let as : List (WakeupEnv × WakeupRequest) :=
      [(env, .setWakeupSrcConfiguration (some [[⟨"WakeupSrc_Lan".toList, false, true⟩,
          ⟨"WAKEUPSRC_RF4CE".toList, false, true⟩], [⟨"WAKEUPSRC_LAN".toList, false, false⟩,
          ⟨"WAKEUPSRC_WIFI".toList, false, true⟩, ⟨"WAKEUPSRC_CEC".toList, true, true⟩]])),
        (env, .setNetworkStandbyMode true)]
    ∃ m', run wakeupRequestStep { controller := .create env {} fun _ => false } as = some m' ∧
      ∀ src, m'.controller.wakeupSrc src = (lastWrite src (outputs wakeupRequestStep wakeupWrites
        { controller := .create env {} fun _ => false } as).flatten).getD
        ((WakeupController.create env {} fun _ => false).wakeupSrc src) := by
  intro env as
  have hr : run wakeupRequestStep { controller := .create env {} fun _ => false } as =
      some _ := rfl
  have hC : ∀ a ∈ as, a.1.Consistent := by
    intro a ha src hsrc _
    simp only [as, List.mem_cons, List.not_mem_nil, or_false] at ha
    rcases ha with rfl | rfl <;> rfl
  exact ⟨_, hr, (wakeup_sources_last_asked hC hr).1⟩

end DeviceAndDisplay.SystemServices
