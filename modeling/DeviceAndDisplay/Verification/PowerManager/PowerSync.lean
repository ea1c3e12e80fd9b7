import DeviceAndDisplay.Verification.PowerManager.RebootState

/-! # Hardware, memory and file

A power state that is accepted is written to all three places. The construction writes them too,
except when the state forced at boot is already the state of the hardware. -/

namespace DeviceAndDisplay.PowerManager

open Storage Transition PersistentSettings

theorem load_opt (b : Bool) (p : PlatPower) (w : SettingsStore) :
    (load b p filesSucceed .opt w).2.opt = (loadFile p {} w.opt).2 := by
  cases hram : w.ram <;> simp [load, SettingsStore.setFile, hram] <;> rfl

namespace StoredController

variable {b : Bool} {p : PlatPower} {c : StoredController}

/-- The hardware, the settings in memory and the file have the same power state. -/
def Agree (p : PlatPower) (c : StoredController) : Prop :=
  p.toPowerState c.hal = c.settings.powerState ∧ HoldsState p c.store.opt c.settings.powerState

instance (p : PlatPower) (c : StoredController) : Decidable (Agree p c) :=
  inferInstanceAs (Decidable (_ ∧ _))

/-- What `PowerController` is without its files and its hardware. -/
def controller (isDeepSleepTimeoutSet : Bool) (c : StoredController) : PowerController where
  settings := {
    powerState := c.settings.powerState
    deepSleepTimeout := c.settings.deepSleepTimeout.toNat
    nwStandbyMode := c.settings.nwStandbyMode }
  lastKnownPowerState := c.lastKnownPowerState
  isDeepSleepTimeoutSet := isDeepSleepTimeoutSet

/-- The files and the hardware do not change what `SetPowerState` does otherwise. -/
theorem setPowerState_controller (p : PlatPower) (io : Path → FileAccess) (env : Env)
    (x : PowerState) (isSet : Bool) (c : StoredController) :
    (c.controller isSet).setPowerState env x =
      ((c.setPowerState p io env x).1, (c.setPowerState p io env x).2.controller isSet) := by
  unfold setPowerState PowerController.setPowerState
  split
  · rfl
  · split <;> rfl

/-! ### SetPowerState -/

/-- The request is passed to the hardware, which accepts it. -/
def Accepted (call : Env × PowerState) : Prop :=
  PowerController.ignores call.1 call.2 = false ∧ call.1.platformSetPowerState = .errorNone

instance (call : Env × PowerState) : Decidable (Accepted call) :=
  inferInstanceAs (Decidable (_ ∧ _))

theorem storePowerState_version (p : PlatPower) (io : Path → FileAccess) (x : PowerState)
    (c : StoredController) : (c.storePowerState p io x).settings.version = c.settings.version :=
  rfl

theorem holdsState_storePowerState (hv : c.settings.version = versionV1) (x : PowerState) :
    HoldsState p (c.storePowerState p filesSucceed x).store.opt x :=
  holdsState_saveFile (s := c.settings.setPowerState x) hv c.store.opt

/-- Either all copies are written, or nothing changes. -/
theorem setPowerState_cases (hv : c.settings.version = versionV1) (env : Env) (x : PowerState) :
    (Accepted (env, x) ∧ (c.setPowerState p filesSucceed env x).1 = .errorNone ∧
      (c.setPowerState p filesSucceed env x).2.settings.version = versionV1 ∧
      Agree p (c.setPowerState p filesSucceed env x).2) ∨
    (¬ Accepted (env, x) ∧ (c.setPowerState p filesSucceed env x).1 ≠ .errorNone ∧
      (c.setPowerState p filesSucceed env x).2 = c) := by
  unfold setPowerState
  split
  · rename_i h
    right
    refine ⟨?_, by simp, rfl⟩
    intro ha
    rw [Accepted, h] at ha
    cases ha.1
  · rename_i hignores
    split
    · rename_i h
      right
      exact ⟨fun ha => h ha.2, h, rfl⟩
    · rename_i h
      left
      refine ⟨⟨by simpa using hignores, not_not.mp h⟩, rfl, hv, ?_, ?_⟩
      · exact p.toPowerState_ofPowerState x
      · exact holdsState_storePowerState hv x

theorem agree_setPowerStates_iff (hv : c.settings.version = versionV1)
    (calls : List (Env × PowerState)) :
    Agree p (c.setPowerStates p filesSucceed calls) ↔
      Agree p c ∨ ∃ call ∈ calls, Accepted call := by
  induction calls generalizing c with
  | nil => simp [setPowerStates]
  | cons call calls ih =>
      have hcons : c.setPowerStates p filesSucceed (call :: calls) =
          (c.setPowerState p filesSucceed call.1 call.2).2.setPowerStates p filesSucceed calls :=
        rfl
      rw [hcons]
      rcases setPowerState_cases (p := p) hv call.1 call.2 with ⟨ha, _, hv', hagree⟩ | ⟨ha, _, hc⟩
      · rw [ih hv']
        exact iff_of_true (.inl hagree) (.inr ⟨call, List.mem_cons_self, ha⟩)
      · rw [hc, ih hv]
        have hcall : (∃ d ∈ call :: calls, Accepted d) ↔ ∃ d ∈ calls, Accepted d := by
          simp only [List.mem_cons, exists_eq_or_imp]
          exact or_iff_right ha
        rw [hcall]

/-! ### Starts and calls within a boot -/

/-- The device that the controller runs on. -/
def device (c : StoredController) : Device where
  store := c.store
  settings := some c.settings

theorem storePowerState_device (x : PowerState) :
    deviceStep b p c.device (.change (.setPowerState x)) =
      some (c.storePowerState p filesSucceed x).device := rfl

/-- A call saves one change, or none. -/
theorem setPowerState_device (env : Env) (x : PowerState) :
    (c.setPowerState p filesSucceed env x).2.device = c.device ∨
      deviceStep b p c.device (.change (.setPowerState x)) =
        some (c.setPowerState p filesSucceed env x).2.device := by
  unfold setPowerState
  split
  · exact .inl rfl
  · split
    · exact .inl rfl
    · exact .inr rfl

theorem setPowerState_of_error {env : Env} {x : PowerState}
    (h : (c.setPowerState p filesSucceed env x).1 ≠ .errorNone) :
    (c.setPowerState p filesSucceed env x).2 = c := by
  unfold setPowerState at h ⊢
  split
  · rfl
  · rename_i hignores
    rw [if_neg hignores] at h
    split
    · rfl
    · rename_i hsuccess
      rw [if_neg hsuccess] at h
      exact absurd rfl h

/-- The construction is one start of the device, with changes that are saved after it. -/
theorem create_device (b : Bool) (p : PlatPower) (env : Env) (getPowerState : ErrorCode)
    (hal : UInt32) (d : Device) :
    ∃ changes : List Setter, run (deviceStep b p) d (.start :: changes.map .change) =
      some (create b p filesSucceed env getPowerState hal d.store).device := by
  let c : StoredController := ⟨(load b p filesSucceed .opt d.store).2, hal,
    (load b p filesSucceed .opt d.store).1, (load b p filesSucceed .opt d.store).1.powerState⟩
  have hstart : deviceStep b p d .start = some c.device := rfl
  unfold create init
  simp only
  split
  · exact ⟨[], by rw [List.map_nil, run_singleton, hstart]⟩
  · split
    · exact ⟨[], by rw [List.map_nil, run_singleton, hstart]⟩
    · split
      · rcases setPowerState_device (b := b) (p := p) (c := c) env c.settings.powerState with
          hsame | hchange
        · exact ⟨[], by rw [List.map_nil, run_singleton, hstart]; exact congrArg some hsame.symm⟩
        · refine ⟨[.setPowerState c.settings.powerState], ?_⟩
          rw [List.map_singleton, run_cons, hstart, Option.bind_some, run_singleton]
          exact hchange
      · rename_i he
        have hsame := setPowerState_of_error (c := c) he
        refine ⟨[.setPowerState (p.toPowerState hal)], ?_⟩
        rw [List.map_singleton, run_cons, hstart, Option.bind_some, run_singleton,
          storePowerState_device, ← hsame]

/-! ### The construction -/

/-- The boot forces STANDBY over another stored state, and the hardware is in STANDBY already. -/
def Skips (b : Bool) (p : PlatPower) (hal : UInt32) (w : SettingsStore) : Prop :=
  b = true ∧ w.restarted = false ∧ p.toPowerState hal = .standby ∧
    storedPowerState p w.opt ≠ .standby

theorem create_version (b : Bool) (p : PlatPower) (env : Env) (hal : UInt32) (w : SettingsStore) :
    (create b p filesSucceed env .errorNone hal w).settings.version = versionV1 := by
  have hload : (load b p filesSucceed .opt w).1.version = versionV1 := by
    rw [(load_fields b p filesSucceed .opt w).1, loadFile_version]
    rfl
  unfold create init
  simp only [ne_eq, not_true_eq_false, if_false]
  split
  · exact hload
  · rcases setPowerState_cases (p := p) (c := StoredController.mk
      (load b p filesSucceed .opt w).2 hal (load b p filesSucceed .opt w).1
      (load b p filesSucceed .opt w).1.powerState) hload env
      (load b p filesSucceed .opt w).1.powerState with ⟨_, he, hv, _⟩ | ⟨_, he, hc⟩
    · rw [if_pos he]
      exact hv
    · rw [if_neg he, storePowerState_version, hc]
      exact hload

theorem agree_create_iff (b : Bool) (p : PlatPower) (env : Env) (hal : UInt32)
    (w : SettingsStore) :
    Agree p (create b p filesSucceed env .errorNone hal w) ↔ ¬ Skips b p hal w := by
  obtain ⟨hversion, _, _, hstate⟩ := load_fields b p filesSucceed .opt w
  have hload : (load b p filesSucceed .opt w).1.version = versionV1 := by
    rw [hversion, loadFile_version]
    rfl
  have hstored : HoldsState p (load b p filesSucceed .opt w).2.opt (storedPowerState p w.opt) := by
    rw [load_opt]
    exact holdsState_loadFile p w.opt
  have hmemory : (load b p filesSucceed .opt w).1.powerState =
      if b = true ∧ w.restarted = false then .standby else storedPowerState p w.opt := by
    rw [hstate, ← loadFile_powerState]
    simp only [true_and]
    rfl
  unfold create init
  simp only [ne_eq, not_true_eq_false, if_false]
  split
  · -- in sync: only the file may differ
    rename_i hsync
    have hagree : Agree p (StoredController.mk (load b p filesSucceed .opt w).2 hal
        (load b p filesSucceed .opt w).1 (load b p filesSucceed .opt w).1.powerState) ↔
        storedPowerState p w.opt = (load b p filesSucceed .opt w).1.powerState := by
      constructor
      · intro h
        exact hstored.eq h.2
      · intro h
        exact ⟨hsync.symm, h ▸ hstored⟩
    rw [hagree, Skips, ← hsync, hmemory]
    by_cases hforced : b = true ∧ w.restarted = false
    · simp [hforced]
    · simp only [if_neg hforced, true_iff]
      rintro ⟨h₁, h₂, _⟩
      exact hforced ⟨h₁, h₂⟩
  · rename_i hsync
    have hskips : ¬ Skips b p hal w := by
      rintro ⟨h₁, h₂, h₃, _⟩
      rw [hmemory, if_pos ⟨h₁, h₂⟩, h₃] at hsync
      exact hsync rfl
    refine iff_of_true ?_ hskips
    rcases setPowerState_cases (p := p) (c := StoredController.mk
      (load b p filesSucceed .opt w).2 hal (load b p filesSucceed .opt w).1
      (load b p filesSucceed .opt w).1.powerState) hload env
      (load b p filesSucceed .opt w).1.powerState with ⟨_, he, _, hagree⟩ | ⟨_, he, hc⟩
    · rw [if_pos he]
      exact hagree
    · rw [if_neg he, hc]
      exact ⟨rfl, holdsState_storePowerState hload _⟩

/-- The three copies agree after the construction and all calls if and only if the construction
does not skip its write. -/
theorem power_state_agrees_iff (b : Bool) (p : PlatPower) (env : Env) (hal : UInt32)
    (w : SettingsStore) (calls : List (Env × PowerState)) :
    (∀ done, done <+: calls → Agree p
      ((create b p filesSucceed env .errorNone hal w).setPowerStates p filesSucceed done)) ↔
      ¬ Skips b p hal w := by
  constructor
  · intro h
    exact (agree_create_iff b p env hal w).mp (h [] List.nil_prefix)
  · intro h done _
    rw [agree_setPowerStates_iff (create_version b p env hal w)]
    exact .inl ((agree_create_iff b p env hal w).mpr h)

/-- After a skipped write the copies agree again with the first accepted call. -/
theorem agree_after_iff (b : Bool) (p : PlatPower) (env : Env) (hal : UInt32)
    (w : SettingsStore) (calls : List (Env × PowerState)) :
    Agree p ((create b p filesSucceed env .errorNone hal w).setPowerStates p filesSucceed calls) ↔
      ¬ Skips b p hal w ∨ ∃ call ∈ calls, Accepted call := by
  rw [agree_setPowerStates_iff (create_version b p env hal w), agree_create_iff]

/-- Nothing is stored, the build forces STANDBY and the hardware is in STANDBY: the file keeps
ON. -/
theorem boot_to_standby_not_stored :
    ¬ Agree orderedPlatPower
      (create true orderedPlatPower filesSucceed {} .errorNone 1 {}) := by
  decide

end StoredController

end DeviceAndDisplay.PowerManager
