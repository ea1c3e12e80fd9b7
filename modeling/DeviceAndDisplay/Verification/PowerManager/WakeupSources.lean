import DeviceAndDisplay.Model.PowerManager.WakeupSources
import DeviceAndDisplay.Transition.Run

/-! # Wake-up sources and network standby agree

Whenever the two network sources are equal, the stored mode is their common value. A change of
the mode is announced exactly when the settings could be saved. -/

namespace DeviceAndDisplay.PowerManager

/-- The platform supports both network sources and fails for none. -/
structure WakeupEnv.Accepting (env : WakeupEnv) : Prop where
  setWakeupSrc : ∀ src, env.setWakeupSrc src ≠ .negative
  getWakeupSrc : ∀ src, env.getWakeupSrc src ≠ .negative
  wifi : env.setWakeupSrc .wifi = .success ∧ env.getWakeupSrc .wifi = .success
  lan : env.setWakeupSrc .lan = .success ∧ env.getWakeupSrc .lan = .success

namespace WakeupController

variable {env : WakeupEnv} {c : WakeupController}

theorem setWakeupSrc_powerController (env : WakeupEnv) (config : WakeupSourceConfig)
    (c : WakeupController) : (c.setWakeupSrc env config).2.powerController = c.powerController := by
  unfold setWakeupSrc
  split <;> rfl

theorem setWakeupSrc_success (config : WakeupSourceConfig)
    (h : env.setWakeupSrc config.wakeupSource = .success) (c : WakeupController) :
    c.setWakeupSrc env config = (.success, { c with
      wakeupSrc := Function.update c.wakeupSrc config.wakeupSource config.enabled }) := by
  rw [setWakeupSrc, h]

theorem setWakeupSrc_fst (config : WakeupSourceConfig) (c : WakeupController) :
    (c.setWakeupSrc env config).1 = env.setWakeupSrc config.wakeupSource := by
  unfold setWakeupSrc
  split
  · rename_i h
    exact h.symm
  · rfl

/-- An accepting platform takes any list, and the stored settings are not involved. -/
theorem setWakeupSourceConfig_accepted (he : env.Accepting) (configs : List WakeupSourceConfig)
    (c : WakeupController) :
    (c.setWakeupSourceConfig env configs).1 = .errorNone ∧
      (c.setWakeupSourceConfig env configs).2.powerController = c.powerController := by
  induction configs generalizing c with
  | nil => exact ⟨rfl, rfl⟩
  | cons config configs ih =>
      have hok : decide ((c.setWakeupSrc env config).1 = .negative) = false := by
        rw [setWakeupSrc_fst]
        exact decide_eq_false (he.setWakeupSrc config.wakeupSource)
      have hrest : c.setWakeupSourceConfig env (config :: configs) =
          (c.setWakeupSrc env config).2.setWakeupSourceConfig env configs := by
        simp only [setWakeupSourceConfig, List.foldl_cons, hok, Bool.or_false]
      obtain ⟨hfirst, hsecond⟩ := ih (c.setWakeupSrc env config).2
      rw [hrest]
      exact ⟨hfirst, hsecond.trans (setWakeupSrc_powerController env config c)⟩

theorem setWakeupSourceConfig_network (he : env.Accepting) (standbyMode : Bool)
    (c : WakeupController) :
    (c.setWakeupSourceConfig env (networkConfigs standbyMode)).2.wakeupSrc .wifi = standbyMode ∧
      (c.setWakeupSourceConfig env (networkConfigs standbyMode)).2.wakeupSrc .lan =
        standbyMode := by
  have hwifi := setWakeupSrc_success ⟨.wifi, standbyMode⟩ he.wifi.1
  have hlan := setWakeupSrc_success ⟨.lan, standbyMode⟩ he.lan.1
  simp only [setWakeupSourceConfig, networkConfigs, List.foldl_cons, List.foldl_nil, hwifi, hlan]
  exact ⟨rfl, rfl⟩

/-- The values of all network sources and of the stored mode after `SetNetworkStandbyMode`. -/
theorem setNetworkStandbyMode_accepted (he : env.Accepting) (standbyMode : Bool)
    (c : WakeupController) :
    standbyMode = c.nwStandbyMode ∧ c.setNetworkStandbyMode env standbyMode = (.errorNone, c) ∨
      standbyMode ≠ c.nwStandbyMode ∧
      (c.setNetworkStandbyMode env standbyMode).1 =
        (if env.saves then .errorNone else .errorGeneral) ∧
      (c.setNetworkStandbyMode env standbyMode).2.nwStandbyMode = standbyMode ∧
      (c.setNetworkStandbyMode env standbyMode).2.wakeupSrc .wifi = standbyMode ∧
      (c.setNetworkStandbyMode env standbyMode).2.wakeupSrc .lan = standbyMode := by
  by_cases hs : standbyMode = c.nwStandbyMode
  · left
    exact ⟨hs, by rw [setNetworkStandbyMode, if_pos hs]⟩
  · right
    obtain ⟨hok, _⟩ := setWakeupSourceConfig_accepted he (networkConfigs standbyMode) c
    obtain ⟨hwifi, hlan⟩ := setWakeupSourceConfig_network he standbyMode c
    have heq : c.setNetworkStandbyMode env standbyMode =
        (if env.saves then .errorNone else .errorGeneral,
          (c.setWakeupSourceConfig env (networkConfigs standbyMode)).2.setNwStandbyMode
            standbyMode) := by
      rw [setNetworkStandbyMode, if_neg hs]
      simp only [hok, if_true]
    rw [heq]
    exact ⟨hs, rfl, rfl, hwifi, hlan⟩

end WakeupController

namespace WakeupImplementation

open Transition

variable {env : WakeupEnv} {m m' : WakeupImplementation}

/-! ### Reading the sources back -/

theorem isWakeupSrcEnabled_map {srcs : List WakeupSrcType} {src : WakeupSrcType}
    (f : WakeupSrcType → Bool) (h : src ∈ srcs) :
    isWakeupSrcEnabled (srcs.map fun src => ⟨src, f src⟩) src = f src := by
  induction srcs with
  | nil => cases h
  | cons s srcs ih =>
      by_cases hs : s = src
      · simp [isWakeupSrcEnabled, hs]
      · have hmem : src ∈ srcs := by
          rcases List.mem_cons.mp h with rfl | h
          · exact absurd rfl hs
          · exact h
        rw [← ih hmem]
        simp [isWakeupSrcEnabled, hs]

/-- An accepting platform reports the network sources as they are. -/
theorem getWakeupSourceConfig_accepted (he : env.Accepting) (c : WakeupController) :
    (c.getWakeupSourceConfig env).1 = .errorNone ∧
      isWakeupSrcEnabled (c.getWakeupSourceConfig env).2 .wifi = c.wakeupSrc .wifi ∧
      isWakeupSrcEnabled (c.getWakeupSourceConfig env).2 .lan = c.wakeupSrc .lan := by
  refine ⟨?_, ?_, ?_⟩
  · have hnone : (WakeupController.wakeupSources.any fun src =>
        env.getWakeupSrc src = .negative) = false :=
      List.any_eq_false.mpr fun src _ => by simpa using he.getWakeupSrc src
    rw [WakeupController.getWakeupSourceConfig, hnone]
    rfl
  · apply isWakeupSrcEnabled_map
    apply List.mem_filter.mpr
    exact ⟨by decide, decide_eq_true he.wifi.2⟩
  · apply isWakeupSrcEnabled_map
    apply List.mem_filter.mpr
    exact ⟨by decide, decide_eq_true he.lan.2⟩

/-! ### One call -/

def nwStandbyMode (m : WakeupImplementation) : Bool := m.controller.nwStandbyMode

/-- If the network sources are equal, the stored mode is their value. -/
def Agrees (m : WakeupImplementation) : Prop :=
  m.controller.wakeupSrc .wifi = m.controller.wakeupSrc .lan →
    m.nwStandbyMode = m.controller.wakeupSrc .wifi

/-- A change of the mode comes with its event if and only if the call succeeds, which depends on
the settings file alone. -/
def Announces (env : WakeupEnv) (m : WakeupImplementation)
    (result : ErrorCode × WakeupImplementation) : Prop :=
  result.2.nwStandbyMode ≠ m.nwStandbyMode →
    (result.1 = .errorNone ↔ env.saves = true) ∧
      (result.1 = .errorNone ↔ result.2.events = result.2.nwStandbyMode :: m.events)

theorem setNetworkStandbyMode_spec (he : env.Accepting) (standbyMode : Bool)
    (ha : standbyMode = m.nwStandbyMode → m.Agrees) :
    (m.setNetworkStandbyMode env standbyMode).2.Agrees ∧
      Announces env m (m.setNetworkStandbyMode env standbyMode) := by
  rcases m.controller.setNetworkStandbyMode_accepted he standbyMode with
    ⟨hs, heq⟩ | ⟨hs, hcode, hmode, hwifi, hlan⟩
  · simp only [setNetworkStandbyMode, heq, if_true]
    exact ⟨ha hs, fun hne => absurd rfl hne⟩
  · constructor
    · intro _
      exact hmode.trans hwifi.symm
    · intro _
      have hmode' : (m.setNetworkStandbyMode env standbyMode).2.nwStandbyMode = standbyMode :=
        hmode
      have hcode' : (m.setNetworkStandbyMode env standbyMode).1 =
          if env.saves then .errorNone else .errorGeneral := hcode
      rw [hmode', hcode']
      cases hsave : env.saves with
      | true =>
          simp only [hsave, if_true] at hcode
          simp [setNetworkStandbyMode, hcode]
      | false =>
          simp only [hsave, Bool.false_eq_true, if_false] at hcode
          simp [setNetworkStandbyMode, hcode]

theorem setWakeupSourceConfig_spec (he : env.Accepting) (configs : List WakeupSourceConfig) :
    (m.setWakeupSourceConfig env configs).2.Agrees ∧
      Announces env m (m.setWakeupSourceConfig env configs) := by
  obtain ⟨hok, hpc⟩ := WakeupController.setWakeupSourceConfig_accepted he configs m.controller
  let m₁ : WakeupImplementation :=
    { m with controller := (m.controller.setWakeupSourceConfig env configs).2 }
  obtain ⟨hread, hwifi, hlan⟩ := getWakeupSourceConfig_accepted he m₁.controller
  have hmode : m₁.nwStandbyMode = m.nwStandbyMode :=
    congrArg (fun pc => pc.settings.nwStandbyMode) hpc
  have heq : m.setWakeupSourceConfig env configs =
      if m₁.controller.wakeupSrc .wifi ≠ m₁.controller.wakeupSrc .lan then (.errorNone, m₁)
      else if (m₁.controller.wakeupSrc .wifi && m₁.controller.wakeupSrc .lan) =
        m₁.nwStandbyMode then (.errorNone, m₁)
      else m₁.setNetworkStandbyMode env
        (m₁.controller.wakeupSrc .wifi && m₁.controller.wakeupSrc .lan) := by
    unfold setWakeupSourceConfig
    simp only [hok, ne_eq, not_true_eq_false, if_false]
    change (if ¬ (m₁.controller.getWakeupSourceConfig env).1 = .errorNone then _ else _) = _
    rw [hread]
    simp only [not_true_eq_false, if_false]
    change (if ¬ isWakeupSrcEnabled (m₁.controller.getWakeupSourceConfig env).2 .wifi =
      isWakeupSrcEnabled (m₁.controller.getWakeupSourceConfig env).2 .lan then _ else _) = _
    rw [hwifi, hlan]
    rfl
  rw [heq]
  by_cases hsame : m₁.controller.wakeupSrc .wifi = m₁.controller.wakeupSrc .lan
  · rw [if_neg (not_not.mpr hsame), ← hsame, Bool.and_self]
    by_cases hflag : m₁.controller.wakeupSrc .wifi = m₁.nwStandbyMode
    · rw [if_pos hflag]
      exact ⟨fun _ => hflag.symm, fun hne => absurd hmode hne⟩
    · rw [if_neg hflag]
      have hspec := setNetworkStandbyMode_spec (m := m₁) he (m₁.controller.wakeupSrc .wifi)
        fun h => absurd h hflag
      refine ⟨hspec.1, fun hne => hspec.2 ?_⟩
      rw [hmode]
      exact hne
  · rw [if_pos hsame]
    exact ⟨fun h => absurd h hsame, fun hne => absurd hmode hne⟩

theorem readConfigs_unknown {configs : List WakeupSourceConfig}
    (h : ∃ config ∈ configs, config.wakeupSource = .unknown) :
    (readConfigs configs).1 = .errorInvalidParameter := by
  induction configs with
  | nil => simp at h
  | cons config configs ih =>
      unfold readConfigs
      by_cases hc : config.wakeupSource = .unknown
      · rw [if_pos hc]
      · rw [if_neg hc]
        obtain ⟨other, hmem, hu⟩ := h
        rcases List.mem_cons.mp hmem with rfl | hmem
        · exact absurd hu hc
        · exact ih ⟨other, hmem, hu⟩

/-- A list with an unknown source is rejected before the platform is asked. -/
theorem setWakeupSources_unknown {configs : List WakeupSourceConfig}
    (h : ∃ config ∈ configs, config.wakeupSource = .unknown) (env : WakeupEnv)
    (m : WakeupImplementation) :
    m.setWakeupSources env configs = (.errorInvalidParameter, m) := by
  simp [setWakeupSources, readConfigs_unknown h]

theorem perform_spec (he : env.Accepting) (ha : m.Agrees) (a : WakeupAction) :
    (m.perform env a).2.Agrees ∧ Announces env m (m.perform env a) := by
  cases a with
  | setWakeupSourceConfig wakeupSources =>
      simp only [perform, setWakeupSources]
      split
      · exact setWakeupSourceConfig_spec he (readConfigs wakeupSources).2
      · exact ⟨ha, fun hne => absurd rfl hne⟩
  | setNetworkStandbyMode standbyMode =>
      exact setNetworkStandbyMode_spec he standbyMode fun _ => ha

/-! ### Runs -/

/-- The object after construction, when nothing was dispatched yet. -/
def create (env : WakeupEnv) (pc : PowerController) (wakeupSrc : WakeupSrcType → Bool) :
    WakeupImplementation :=
  { controller := .create env pc wakeupSrc }

theorem create_agrees (he : env.Accepting) (pc : PowerController)
    (wakeupSrc : WakeupSrcType → Bool) : (create env pc wakeupSrc).Agrees := by
  intro _
  obtain ⟨_, hpc⟩ := WakeupController.setWakeupSourceConfig_accepted he
    (WakeupController.networkConfigs pc.settings.nwStandbyMode) ⟨pc, wakeupSrc⟩
  obtain ⟨hwifi, _⟩ := WakeupController.setWakeupSourceConfig_network he
    pc.settings.nwStandbyMode ⟨pc, wakeupSrc⟩
  have hmode : (create env pc wakeupSrc).nwStandbyMode = pc.settings.nwStandbyMode :=
    congrArg (fun pc => pc.settings.nwStandbyMode) hpc
  exact hmode.trans hwifi.symm

/-- With an accepting platform, the mode is the common value of the network sources after every
call, its changes are announced if the settings are saved, and lists with an unknown source are
rejected without effect. -/
theorem network_standby_agrees {env₀ : WakeupEnv} (h₀ : env₀.Accepting) (pc : PowerController)
    (wakeupSrc : WakeupSrcType → Bool) (as : List (WakeupEnv × WakeupAction))
    (has : ∀ a ∈ as, a.1.Accepting) (m : WakeupImplementation)
    (hr : run wakeupStep (create env₀ pc wakeupSrc) as = some m) :
    (m.controller.wakeupSrc .wifi = m.controller.wakeupSrc .lan →
      m.getNetworkStandbyMode = (.errorNone, m.controller.wakeupSrc .wifi)) ∧
    ∀ env, (env.Accepting → ∀ a, Announces env m (m.perform env a)) ∧
      ∀ configs, (∃ config ∈ configs, config.wakeupSource = .unknown) →
        m.perform env (.setWakeupSourceConfig configs) = (.errorInvalidParameter, m) := by
  have hagrees : m.Agrees := by
    refine run_invariant (C := fun _ a => a.1.Accepting) (I := Agrees) ?_
      (create_agrees h₀ pc wakeupSrc) (along_of_forall fun a ha _ => has a ha) hr
    rintro s ⟨env, a⟩ t hs he ⟨⟩
    exact (perform_spec he hs a).1
  refine ⟨fun h => ?_, fun env => ⟨fun he a => (perform_spec he hagrees a).2, ?_⟩⟩
  · rw [getNetworkStandbyMode, ← hagrees h]
    rfl
  · exact fun configs h => setWakeupSources_unknown h env m

theorem accepting_default (saves : Bool) : WakeupEnv.Accepting { saves := saves } :=
  ⟨by simp, by simp, ⟨rfl, rfl⟩, ⟨rfl, rfl⟩⟩

/-- LAN alone leaves the mode, WIFI after it changes the mode, and a second WIFI entry wins. -/
def mixedRun : List (WakeupEnv × WakeupAction) :=
  [({}, .setWakeupSourceConfig [⟨.lan, true⟩]),
    ({}, .setWakeupSourceConfig [⟨.wifi, false⟩, ⟨.ir, true⟩, ⟨.wifi, true⟩])]

theorem network_standby_agrees_mixed :
    ∃ m, run wakeupStep (create {} {} fun _ => false) mixedRun = some m ∧
      m.getNetworkStandbyMode = (.errorNone, true) ∧ m.events = [true] := by
  have hr : run wakeupStep (create {} {} fun _ => false) mixedRun = some _ := rfl
  have h := network_standby_agrees (accepting_default true) {} (fun _ => false) mixedRun
    (by simp [mixedRun, accepting_default]) _ hr
  exact ⟨_, hr, h.1 (by decide), by decide⟩

/-- The mode changes and no listener hears of it, as the settings file cannot be written. -/
theorem standby_change_unannounced :
    ∃ m : WakeupImplementation, m = create {} {} (fun _ => false) ∧ m.nwStandbyMode = false ∧
      WakeupEnv.Accepting { saves := false } ∧
      (m.perform { saves := false } (.setNetworkStandbyMode true)).2.nwStandbyMode = true ∧
      (m.perform { saves := false } (.setNetworkStandbyMode true)).2.events = [] :=
  ⟨_, rfl, by decide, accepting_default false, by decide, by decide⟩

end WakeupImplementation

/-! ### What a successful request leaves -/

namespace WakeupController

variable {env : WakeupEnv} {c : WakeupController}

/-- Each of the two network sources that the platform supports is set to `b`. -/
def NetworkSources (env : WakeupEnv) (b : Bool) (c : WakeupController) : Prop :=
  ∀ src, src = .wifi ∨ src = .lan → env.setWakeupSrc src ≠ .positive → c.wakeupSrc src = b

/-- If the request succeeds, the mode and the supported network sources are as requested. -/
def Establishes (env : WakeupEnv) (b : Bool) (c : WakeupController) : Prop :=
  (c.setNetworkStandbyMode env b).1 = .errorNone →
    (c.setNetworkStandbyMode env b).2.nwStandbyMode = b ∧
      (c.setNetworkStandbyMode env b).2.NetworkSources env b

/-- Once both sources were requested without a failure, the supported ones are set. -/
theorem networkSources_setWakeupSourceConfig (b : Bool)
    (h : (c.setWakeupSourceConfig env (networkConfigs b)).1 = .errorNone) :
    (c.setWakeupSourceConfig env (networkConfigs b)).2.NetworkSources env b := by
  simp only [setWakeupSourceConfig, networkConfigs, List.foldl_cons, List.foldl_nil] at h ⊢
  cases hwifi : env.setWakeupSrc .wifi <;> cases hlan : env.setWakeupSrc .lan <;>
    simp only [setWakeupSrc, hwifi, hlan] at h ⊢ <;> try cases h
  all_goals
    rintro src (rfl | rfl) hsrc <;> simp_all

/-- The early return takes the stored mode for the state of the sources. -/
theorem establishes_iff (b : Bool) :
    c.Establishes env b ↔ (b = c.nwStandbyMode → c.NetworkSources env b) := by
  constructor
  · intro h hb
    have hsame : c.setNetworkStandbyMode env b = (.errorNone, c) := by
      rw [setNetworkStandbyMode, if_pos hb]
    rw [Establishes, hsame] at h
    exact (h rfl).2
  · intro h
    by_cases hb : b = c.nwStandbyMode
    · rw [Establishes, setNetworkStandbyMode, if_pos hb]
      exact fun _ => ⟨hb.symm, h hb⟩
    · rw [Establishes, setNetworkStandbyMode, if_neg hb]
      by_cases hok : (c.setWakeupSourceConfig env (networkConfigs b)).1 = .errorNone
      · simp only [hok, if_true]
        exact fun _ => ⟨rfl, networkSources_setWakeupSourceConfig b hok⟩
      · intro hnone
        simp only [hok, if_false] at hnone

end WakeupController

namespace WakeupImplementation

open Transition

variable {env : WakeupEnv} {m : WakeupImplementation}

/-- A request for the network standby mode establishes it. -/
def Establishes (m : WakeupImplementation) (a : WakeupEnv × WakeupAction) : Prop :=
  ∀ b, a.2 = .setNetworkStandbyMode b → m.controller.Establishes a.1 b

/-- The request is for another mode than the stored one, or the sources are in the mode already. -/
def MovesOrAgrees (m : WakeupImplementation) (a : WakeupEnv × WakeupAction) : Prop :=
  ∀ b, a.2 = .setNetworkStandbyMode b → b = m.nwStandbyMode →
    m.controller.NetworkSources a.1 b

/-- Whatever the platform answers, the requests of a run that succeed establish their modes exactly
when each request for the stored mode finds the supported sources in that mode. -/
theorem standby_mode_established_iff (env : WakeupEnv) (pc : PowerController)
    (wakeupSrc : WakeupSrcType → Bool) (as : List (WakeupEnv × WakeupAction)) :
    Along wakeupStep Establishes (create env pc wakeupSrc) as ↔
      Along wakeupStep MovesOrAgrees (create env pc wakeupSrc) as := by
  refine along_iff_along (I := fun _ => True) (fun _ _ _ _ _ _ => trivial) ?_ trivial as
  intro m a _
  apply forall_congr'
  intro b
  exact imp_congr_right fun _ => m.controller.establishes_iff b

/-- On a platform that supports both sources, a request for the stored mode needs them to be
equal. -/
theorem networkSources_iff_of_agrees (he : env.Accepting) (hm : m.Agrees) :
    m.controller.NetworkSources env m.nwStandbyMode ↔
      m.controller.wakeupSrc .wifi = m.controller.wakeupSrc .lan := by
  constructor
  · intro h
    rw [h .wifi (.inl rfl) (by simp [he.wifi.1]), h .lan (.inr rfl) (by simp [he.lan.1])]
  · intro heq src hsrc _
    have hmode : m.nwStandbyMode = m.controller.wakeupSrc .wifi := hm heq
    rcases hsrc with rfl | rfl
    · exact hmode.symm
    · exact heq ▸ hmode.symm

/-- LAN was enabled alone; a request for the mode that is off already succeeds and leaves it. -/
theorem standby_mode_not_established :
    ∃ m, run wakeupStep (create {} {} fun _ => false)
        [({}, .setWakeupSourceConfig [⟨.lan, true⟩])] = some m ∧
      WakeupEnv.Accepting {} ∧
      (m.controller.setNetworkStandbyMode {} false).1 = .errorNone ∧
      (m.controller.setNetworkStandbyMode {} false).2.wakeupSrc .lan = true :=
  ⟨_, rfl, accepting_default true, by decide, by decide⟩

end WakeupImplementation

end DeviceAndDisplay.PowerManager
