import DeviceAndDisplay.Model.PowerManager.PowerImpl
import DeviceAndDisplay.Verification.PowerManager.SettingsFile
import DeviceAndDisplay.Verification.PowerManager.WakeupSources

/-! # Failing wake-up requests

A status above zero counts as "not supported", whatever it says, so only negative ones are
reported. A failed change of the network standby mode leaves what was changed before the failure. -/

namespace DeviceAndDisplay.PowerManager

namespace PmStatusCodes

theorem operationNotSupported_pos (codes : PmStatusCodes) : 0 < codes.operationNotSupported :=
  codes.positive codes.operationNotSupported (by simp)

end PmStatusCodes

namespace PowerImpl

variable {codes : PmStatusCodes}

/-! ### The error code -/

/-- The latch is set by negative statuses only. -/
theorem latch_fst (codes : PmStatusCodes) (state : Bool × PlatSources) (entry : WakeupEntry) :
    (latch codes state entry).1 = true ↔ state.1 = true ∨ entry.result < 0 := by
  have hsuccess := codes.success_eq
  simp only [latch, setWakeupSrc]
  by_cases hneg : entry.result < 0
  · have hstatus : convStatus codes entry.result = .errorGeneral := if_pos hneg
    have hsupported : ¬ entry.result > 0 := by omega
    simp [hstatus, hsupported, hneg]
  · by_cases hzero : entry.result = codes.success
    · have hstatus : convStatus codes entry.result = .errorNone := by
        rw [convStatus, if_neg hneg, if_pos hzero]
      simp [hstatus, hneg]
    · have hsupported : entry.result > 0 := by omega
      simp [hsupported, hneg]

theorem foldl_latch_fst (codes : PmStatusCodes) (entries : List WakeupEntry)
    (state : Bool × PlatSources) :
    (entries.foldl (latch codes) state).1 = true ↔
      state.1 = true ∨ ∃ entry ∈ entries, entry.result < 0 := by
  induction entries generalizing state with
  | nil => simp
  | cons entry entries ih =>
      rw [List.foldl_cons, ih, latch_fst]
      simp [or_assoc]

theorem setWakeupSourceConfig_fst (codes : PmStatusCodes) (entries : List WakeupEntry)
    (sources : PlatSources) :
    (setWakeupSourceConfig codes entries sources).1 =
      if ∃ entry ∈ entries, entry.result < 0 then .errorGeneral else .errorNone := by
  have hfold := foldl_latch_fst codes entries (false, sources)
  simp only [Bool.false_eq_true, false_or] at hfold
  simp only [setWakeupSourceConfig, hfold]

/-- The call is to report success if the platform granted every entry or does not support it. -/
def ReportsFailures (codes : PmStatusCodes) (entries : List WakeupEntry)
    (sources : PlatSources) : Prop :=
  (setWakeupSourceConfig codes entries sources).1 = .errorNone ↔
    ∀ entry ∈ entries, entry.result = codes.success ∨ entry.result = codes.operationNotSupported

/-- Failures are reported exactly if some status is negative, or the only positive status is
"operation not supported". -/
theorem wakeup_failures_reported_iff (codes : PmStatusCodes) (entries : List WakeupEntry)
    (sources : PlatSources) :
    ReportsFailures codes entries sources ↔ (∃ entry ∈ entries, entry.result < 0) ∨
      ∀ entry ∈ entries, 0 < entry.result → entry.result = codes.operationNotSupported := by
  have hsuccess := codes.success_eq
  have hpos := codes.operationNotSupported_pos
  rw [ReportsFailures, setWakeupSourceConfig_fst]
  by_cases hneg : ∃ entry ∈ entries, entry.result < 0
  · obtain ⟨entry, hmem, hresult⟩ := hneg
    have hbad : ¬ ∀ entry ∈ entries,
        entry.result = codes.success ∨ entry.result = codes.operationNotSupported := fun h => by
      rcases h entry hmem with h | h <;> omega
    rw [if_pos ⟨entry, hmem, hresult⟩]
    simp only [hbad, reduceCtorEq, true_iff]
    exact .inl ⟨entry, hmem, hresult⟩
  · rw [if_neg hneg]
    simp only [hneg, true_iff, false_or]
    apply forall₂_congr
    intro entry hmem
    have hle : ¬ entry.result < 0 := fun h => hneg ⟨entry, hmem, h⟩
    omega

/-- The codes of the header in the order in which `str(pmStatus_t)` lists them. -/
def listedCodes : PmStatusCodes where
  success := 0
  invalidArgument := 1
  alreadyInitialized := 2
  notInitialized := 3
  initFailure := 4
  setFailure := 5
  getFailure := 6
  operationNotSupported := 7
  termFailure := 8
  max := 9
  distinct := by decide
  success_eq := rfl
  positive := by decide

/-- The platform cannot set the only source, and the call reports success. -/
theorem wakeup_failure_masked :
    (setWakeupSourceConfig listedCodes [⟨⟨.wifi, true⟩, listedCodes.setFailure⟩]
        fun _ => false).1 = .errorNone ∧
      ¬ ReportsFailures listedCodes [⟨⟨.wifi, true⟩, listedCodes.setFailure⟩] fun _ => false := by
  refine ⟨by decide, fun h => ?_⟩
  have hall := h.mp (by decide)
  exact absurd (hall _ List.mem_cons_self) (by decide)

/-! ### The classes of a status -/

/-- The class that `WakeupController` tells apart. -/
def classOf (result : ℤ) : PmStatus :=
  if result < 0 then .negative else if result = 0 then .success else .positive

theorem classOf_eq_negative {result : ℤ} : classOf result = .negative ↔ result < 0 := by
  unfold classOf
  split
  · rename_i h
    simp [h]
  · rename_i h
    split <;> simp [h]

/-- The loop of `WakeupController` latches the negative class. -/
theorem foldl_setWakeupSrc_fst (env : WakeupEnv) (configs : List WakeupSourceConfig)
    (state : Bool × WakeupController) :
    (configs.foldl (fun (failed, c) config =>
      let (status, c) := WakeupController.setWakeupSrc env config c
      (failed || decide (status = .negative), c)) state).1 = true ↔
      state.1 = true ∨ ∃ config ∈ configs, env.setWakeupSrc config.wakeupSource = .negative := by
  induction configs generalizing state with
  | nil => simp
  | cons config configs ih =>
      rw [List.foldl_cons, ih]
      simp [WakeupController.setWakeupSrc_fst, or_assoc]

/-- `WakeupController` reports what `PowerImpl` reports. -/
theorem setWakeupSourceConfig_class (codes : PmStatusCodes) (answer : WakeupSrcType → ℤ)
    (configs : List WakeupSourceConfig) (sources : PlatSources) (c : WakeupController) :
    (setWakeupSourceConfig codes
        (configs.map fun config => ⟨config, answer config.wakeupSource⟩) sources).1 =
      (c.setWakeupSourceConfig { setWakeupSrc := fun src => classOf (answer src) } configs).1 := by
  have hfold := foldl_setWakeupSrc_fst { setWakeupSrc := fun src => classOf (answer src) } configs
    (false, c)
  simp only [classOf_eq_negative, Bool.false_eq_true, false_or] at hfold
  rw [setWakeupSourceConfig_fst]
  simp only [WakeupController.setWakeupSourceConfig, hfold, List.mem_map,
    exists_exists_and_eq_and]

end PowerImpl

/-! ### A failed change of the network standby mode -/

/-- The file can be opened, and written or written in part. -/
def FileAccess.Saves (io : FileAccess) : Prop := io.opens = true ∧ io.written ≠ none

instance (io : FileAccess) : Decidable io.Saves := inferInstanceAs (Decidable (_ ∧ _))

namespace PersistentSettings

theorem save_fst (p : PlatPower) (io : Path → FileAccess) (s : PersistentSettings)
    (w : SettingsStore) : (s.save p io .opt w).1 = true ↔ (io .opt).Saves := by
  cases hopens : (io .opt).opens <;> cases hwritten : (io .opt).written <;>
    simp [save, saveFile, write, FileAccess.Saves, hopens, hwritten]

/-- A file that was not saved stands for the same settings. -/
theorem parse_save {p : PlatPower} {io : Path → FileAccess} (h : ¬ (io .opt).Saves)
    (s : PersistentSettings) (w : SettingsStore) :
    parse p ((s.save p io .opt w).2.opt.getD []) = parse p (w.opt.getD []) := by
  cases hopens : (io .opt).opens with
  | false =>
      simp [save, saveFile, hopens, SettingsStore.file, SettingsStore.setFile]
  | true =>
      cases hwritten : (io .opt).written with
      | none =>
          simp [save, saveFile, write, hopens, hwritten, SettingsStore.file,
            SettingsStore.setFile]
      | some n => exact absurd ⟨hopens, by simp [hwritten]⟩ h

end PersistentSettings

namespace StandbyController

variable {codes : PmStatusCodes} {p : PlatPower} {env : StandbyEnv} {standbyMode : Bool}
  {c : StandbyController}

/-- A request that fails has changed neither the mode, nor the file, nor the sources, and is made
again if it is repeated. -/
def FailsCleanly (codes : PmStatusCodes) (p : PlatPower) (env : StandbyEnv) (standbyMode : Bool)
    (c : StandbyController) : Prop :=
  let r := c.setNetworkStandbyMode codes p env standbyMode
  r.1 ≠ .errorNone →
    r.2.getNetworkStandbyMode = c.getNetworkStandbyMode ∧
      r.2.persistedMode p = c.persistedMode p ∧ r.2.sources .wifi = c.sources .wifi ∧
      r.2.sources .lan = c.sources .lan ∧ standbyMode ≠ r.2.getNetworkStandbyMode.2

/-- Some source fails. -/
def SourceFails (env : StandbyEnv) : Prop := env.wifi < 0 ∨ env.lan < 0

/-- If a source fails, the other one has the requested value or is not set either; if none fails,
the file can be saved. -/
def CleanFailure (codes : PmStatusCodes) (env : StandbyEnv) (standbyMode : Bool)
    (c : StandbyController) : Prop :=
  standbyMode ≠ c.settings.nwStandbyMode →
    (SourceFails env → (env.wifi = codes.success → c.sources .wifi = standbyMode) ∧
      (env.lan = codes.success → c.sources .lan = standbyMode)) ∧
    (¬ SourceFails env → (env.io .opt).Saves)

/-- The error code for the two network sources, and what becomes of them. -/
theorem setWakeupSourceConfig_network (codes : PmStatusCodes) (env : StandbyEnv)
    (standbyMode : Bool) (sources : PlatSources) :
    ((PowerImpl.setWakeupSourceConfig codes (networkEntries env standbyMode) sources).1 =
      .errorNone ↔ ¬ SourceFails env) ∧
    (PowerImpl.setWakeupSourceConfig codes (networkEntries env standbyMode) sources).2 .wifi =
      (if env.wifi = codes.success then standbyMode else sources .wifi) ∧
    (PowerImpl.setWakeupSourceConfig codes (networkEntries env standbyMode) sources).2 .lan =
      (if env.lan = codes.success then standbyMode else sources .lan) := by
  constructor
  · rw [PowerImpl.setWakeupSourceConfig_fst]
    simp [networkEntries, SourceFails]
  · by_cases hwifi : env.wifi = codes.success <;> by_cases hlan : env.lan = codes.success <;>
      simp [PowerImpl.setWakeupSourceConfig, networkEntries, PowerImpl.latch,
        PowerImpl.setWakeupSrc, hwifi, hlan, PowerImpl.convSource]

/-- The mode is stored already. -/
theorem setNetworkStandbyMode_same (h : standbyMode = c.settings.nwStandbyMode) :
    c.setNetworkStandbyMode codes p env standbyMode = (.errorNone, c) :=
  if_pos h

/-- A source fails: only the sources have changed. -/
theorem setNetworkStandbyMode_of_sourceFails (codes : PmStatusCodes) (p : PlatPower)
    (hne : standbyMode ≠ c.settings.nwStandbyMode) (hfails : SourceFails env) :
    c.setNetworkStandbyMode codes p env standbyMode =
      ((PowerImpl.setWakeupSourceConfig codes (networkEntries env standbyMode) c.sources).1,
        { c with sources := (PowerImpl.setWakeupSourceConfig codes
          (networkEntries env standbyMode) c.sources).2 }) ∧
    (c.setNetworkStandbyMode codes p env standbyMode).1 ≠ .errorNone := by
  have hcode : (PowerImpl.setWakeupSourceConfig codes (networkEntries env standbyMode)
      c.sources).1 ≠ .errorNone := fun h =>
    (setWakeupSourceConfig_network codes env standbyMode c.sources).1.mp h hfails
  have heq : c.setNetworkStandbyMode codes p env standbyMode =
      ((PowerImpl.setWakeupSourceConfig codes (networkEntries env standbyMode) c.sources).1,
        { c with sources := (PowerImpl.setWakeupSourceConfig codes
          (networkEntries env standbyMode) c.sources).2 }) := by
    rw [setNetworkStandbyMode, if_neg hne]
    simp only [hcode, if_false]
  exact ⟨heq, by rw [heq]; exact hcode⟩

/-- No source fails: the mode has changed, whether the file was saved or not. -/
theorem setNetworkStandbyMode_of_not_sourceFails (codes : PmStatusCodes) (p : PlatPower)
    (hne : standbyMode ≠ c.settings.nwStandbyMode) (hfails : ¬ SourceFails env) :
    ((c.setNetworkStandbyMode codes p env standbyMode).1 = .errorNone ↔ (env.io .opt).Saves) ∧
      (c.setNetworkStandbyMode codes p env standbyMode).2.settings.nwStandbyMode =
        standbyMode := by
  have hcode := (setWakeupSourceConfig_network codes env standbyMode c.sources).1.mpr hfails
  rw [setNetworkStandbyMode, if_neg hne]
  simp only [hcode, if_true]
  refine ⟨?_, rfl⟩
  rw [← PersistentSettings.save_fst p env.io (c.settings.setNwStandbyMode standbyMode) c.store]
  simp

/-- A failed change of the mode changes nothing exactly under the condition. -/
theorem standby_failure_clean_iff (codes : PmStatusCodes) (p : PlatPower) (env : StandbyEnv)
    (standbyMode : Bool) (c : StandbyController) :
    FailsCleanly codes p env standbyMode c ↔ CleanFailure codes env standbyMode c := by
  by_cases hsame : standbyMode = c.settings.nwStandbyMode
  · constructor
    · intro _ hne
      exact absurd hsame hne
    · intro _
      rw [FailsCleanly, setNetworkStandbyMode_same hsame]
      intro hne
      exact absurd rfl hne
  · by_cases hfails : SourceFails env
    · obtain ⟨heq, herror⟩ := setNetworkStandbyMode_of_sourceFails codes p hsame hfails
      obtain ⟨_, hwifi, hlan⟩ := setWakeupSourceConfig_network codes env standbyMode c.sources
      have hkept : ∀ (result : ℤ) (old : Bool),
          (if result = codes.success then standbyMode else old) = old ↔
            (result = codes.success → old = standbyMode) := by
        intro result old
        by_cases hresult : result = codes.success
        · simp [hresult, eq_comm]
        · simp [hresult]
      constructor
      · intro h _
        obtain ⟨_, _, hwifi', hlan', _⟩ := h herror
        rw [heq] at hwifi' hlan'
        refine ⟨fun _ => ⟨?_, ?_⟩, fun hn => absurd hfails hn⟩
        · exact (hkept _ _).mp (hwifi.symm.trans hwifi')
        · exact (hkept _ _).mp (hlan.symm.trans hlan')
      · intro h _
        obtain ⟨hkeepsWifi, hkeepsLan⟩ := (h hsame).1 hfails
        rw [heq]
        exact ⟨rfl, rfl, hwifi.trans ((hkept _ _).mpr hkeepsWifi),
          hlan.trans ((hkept _ _).mpr hkeepsLan), hsame⟩
    · obtain ⟨hcode, hmode⟩ := setNetworkStandbyMode_of_not_sourceFails codes p hsame hfails
      constructor
      · intro h _
        refine ⟨fun hf => absurd hf hfails, fun _ => ?_⟩
        by_contra hsaves
        have hchanged := (h fun hn => hsaves (hcode.mp hn)).1
        exact hsame (hmode.symm.trans (congrArg Prod.snd hchanged))
      · intro h herror
        exact absurd (hcode.mpr ((h hsame).2 hfails)) herror

/-- Both sources are set and the file cannot be opened: the call fails, the mode has changed, and
the call reports success when it is repeated with the same failing file. -/
theorem standby_failure_keeps_mode :
    let p : PlatPower := ⟨0, 1, 2, 3, 4, 5, by decide⟩
    let c : StandbyController := ⟨{}, {}, fun _ => false⟩
    let env : StandbyEnv := { wifi := 0, lan := 0, io := fun _ => { opens := false } }
    let r := c.setNetworkStandbyMode PowerImpl.listedCodes p env true
    r.1 = .errorGeneral ∧ r.2.getNetworkStandbyMode.2 = true ∧ r.2.persistedMode p = none ∧
      (r.2.setNetworkStandbyMode PowerImpl.listedCodes p env true).1 = .errorNone ∧
      ¬ FailsCleanly PowerImpl.listedCodes p env true c := by
  refine ⟨by decide, by decide, by decide, by decide, fun h => ?_⟩
  exact absurd (h (by decide)).1 (by decide)

/-- The settings file is not involved in a failure. -/
theorem persistedMode_of_error
    (h : (c.setNetworkStandbyMode codes p env standbyMode).1 ≠ .errorNone) :
    (c.setNetworkStandbyMode codes p env standbyMode).2.persistedMode p = c.persistedMode p := by
  by_cases hsame : standbyMode = c.settings.nwStandbyMode
  · rw [setNetworkStandbyMode_same hsame] at h
    exact absurd rfl h
  · by_cases hfails : SourceFails env
    · rw [(setNetworkStandbyMode_of_sourceFails codes p hsame hfails).1]
      rfl
    · have hsaves : ¬ (env.io .opt).Saves := fun hs =>
        h ((setNetworkStandbyMode_of_not_sourceFails codes p hsame hfails).1.mpr hs)
      have hcode := (setWakeupSourceConfig_network codes env standbyMode c.sources).1.mpr hfails
      rw [setNetworkStandbyMode, if_neg hsame]
      simp only [hcode, if_true]
      exact congrArg (Option.map fun s => s.nwStandbyMode)
        (PersistentSettings.parse_save hsaves (c.settings.setNwStandbyMode standbyMode) c.store)

/-- The answers as `WakeupController` sees them. -/
def classes (env : StandbyEnv) : WakeupEnv where
  setWakeupSrc := fun src => PowerImpl.classOf (if src = .wifi then env.wifi else env.lan)
  saves := decide (env.io .opt).Saves

/-- `WakeupController` returns the same error code and stores the same mode. -/
theorem setNetworkStandbyMode_class (codes : PmStatusCodes) (p : PlatPower) (env : StandbyEnv)
    (standbyMode : Bool) (c : StandbyController) {w : WakeupController}
    (hmode : w.nwStandbyMode = c.settings.nwStandbyMode) :
    (w.setNetworkStandbyMode (classes env) standbyMode).1 =
        (c.setNetworkStandbyMode codes p env standbyMode).1 ∧
      (w.setNetworkStandbyMode (classes env) standbyMode).2.nwStandbyMode =
        (c.setNetworkStandbyMode codes p env standbyMode).2.settings.nwStandbyMode := by
  have hcode : (w.setWakeupSourceConfig (classes env)
      (WakeupController.networkConfigs standbyMode)).1 =
      (PowerImpl.setWakeupSourceConfig codes (networkEntries env standbyMode) c.sources).1 :=
    (PowerImpl.setWakeupSourceConfig_class codes
      (fun src => if src = .wifi then env.wifi else env.lan)
      (WakeupController.networkConfigs standbyMode) c.sources w).symm
  have hkeeps : (w.setWakeupSourceConfig (classes env)
      (WakeupController.networkConfigs standbyMode)).2.nwStandbyMode = w.nwStandbyMode := by
    simp [WakeupController.setWakeupSourceConfig, WakeupController.networkConfigs,
      WakeupController.nwStandbyMode, WakeupController.setWakeupSrc_powerController]
  by_cases hsame : standbyMode = c.settings.nwStandbyMode
  · rw [setNetworkStandbyMode_same hsame, WakeupController.setNetworkStandbyMode,
      if_pos (hsame.trans hmode.symm)]
    exact ⟨rfl, hmode⟩
  · rw [WakeupController.setNetworkStandbyMode, if_neg fun h => hsame (h.trans hmode)]
    by_cases hfails : SourceFails env
    · obtain ⟨heq, herror⟩ := setNetworkStandbyMode_of_sourceFails codes p hsame hfails
      rw [heq] at herror ⊢
      simp only [hcode, herror, if_false]
      exact ⟨trivial, hkeeps.trans hmode⟩
    · have hok := (setWakeupSourceConfig_network codes env standbyMode c.sources).1.mpr hfails
      have hsaves : (classes env).saves = ((c.settings.setNwStandbyMode standbyMode).save p env.io
          .opt c.store).1 := by
        rw [Bool.eq_iff_iff, PersistentSettings.save_fst]
        exact decide_eq_true_iff
      rw [setNetworkStandbyMode, if_neg hsame]
      simp only [hcode, hok, if_true, hsaves]
      exact ⟨trivial, rfl⟩

end StandbyController

end DeviceAndDisplay.PowerManager
