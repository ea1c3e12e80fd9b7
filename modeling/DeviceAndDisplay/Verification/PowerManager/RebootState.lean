import DeviceAndDisplay.Model.PowerManager.SettingsFile
import DeviceAndDisplay.Transition.Run
import DeviceAndDisplay.Verification.PowerManager.SettingsFile

/-! # The power state before the reboot

The first load of a boot copies the stored power state to `/tmp`; later loads read that copy,
which no change of the settings touches. -/

namespace DeviceAndDisplay.PowerManager

open Storage Transition PersistentSettings

/-- The power state that a settings file stands for: a file that cannot be read stands for the
defaults. -/
def storedPowerState (p : PlatPower) (file : File) : PowerState :=
  match parse p (file.getD []) with
  | some s => s.powerState
  | none => .on

variable {b : Bool} {p : PlatPower} {w : SettingsStore} {file : File} {x : PowerState}

/-- The file can be read and holds the state. -/
def HoldsState (p : PlatPower) (file : File) (x : PowerState) : Prop :=
  (parse p (file.getD [])).map PersistentSettings.powerState = some x

instance (p : PlatPower) (file : File) (x : PowerState) : Decidable (HoldsState p file x) :=
  inferInstanceAs (Decidable (_ = _))

theorem HoldsState.storedPowerState (h : HoldsState p file x) : storedPowerState p file = x := by
  obtain ⟨s, hs, hstate⟩ := Option.map_eq_some_iff.mp h
  rw [PowerManager.storedPowerState, hs]
  exact hstate

theorem HoldsState.eq {x y : PowerState} (hx : HoldsState p file x) (hy : HoldsState p file y) :
    x = y :=
  Option.some.inj (hx.symm.trans hy)

theorem holdsState_saveFile {s : PersistentSettings} (hv : s.version = versionV1) (file : File) :
    HoldsState p (s.saveFile p {} file).2 s.powerState := by
  obtain ⟨r, hr, hstate, _⟩ := parse_overwrite (p := p) (n := SettingsV1.size) hv (by decide)
    (Nat.le_max_left SettingsV1.size (file.getD []).length)
  have hfile : (s.saveFile p {} file).2 =
      some (overwrite (SettingsV1.encode p s) SettingsV1.size (file.getD [])) :=
    saveFile_written p s SettingsV1.size file
  rw [HoldsState, hfile, Option.getD_some, hr]
  exact congrArg some hstate

/-- After a load the file can be read. -/
theorem holdsState_loadFile (p : PlatPower) (file : File) :
    HoldsState p (loadFile p {} file).2 (storedPowerState p file) := by
  cases h : parse p (file.getD []) with
  | some s =>
      have hload : (loadFile p {} file).2 = some (file.getD []) := by
        simp [loadFile, h]
      rw [hload, HoldsState, Option.getD_some, storedPowerState, h]
      rfl
  | none =>
      have hload : (loadFile p {} file).2 =
          ((SettingsV1.initDefaults {}).saveFile p {} (some (file.getD []))).2 := by
        simp [loadFile, h, saveFile]
      rw [hload, storedPowerState, h]
      exact holdsState_saveFile rfl _

namespace PersistentSettings

theorem loadFile_powerState (p : PlatPower) (file : File) :
    (loadFile p {} file).1.powerState = storedPowerState p file := by
  unfold storedPowerState
  cases h : parse p (file.getD []) with
  | none => simp [loadFile, h, SettingsV1.initDefaults]
  | some s => simp [loadFile, h]

/-- The first load of a boot. -/
theorem load_first (h : w.ram = none) :
    (load b p filesSucceed .opt w).1.powerStateBeforeReboot = storedPowerState p w.opt ∧
      (load b p filesSucceed .opt w).2.ram =
        ((loadFile p {} w.opt).1.saveFile p {} none).2 := by
  rw [← loadFile_powerState]
  cases b <;> cases hres : w.restarted <;>
    simp [load, filesSucceed, SettingsStore.file, SettingsStore.setFile, h, hres, setPowerState] <;>
    rfl

/-- A later load of a boot. -/
theorem load_again {bytes : Bytes} (h : w.ram = some bytes) :
    (load b p filesSucceed .opt w).1.powerStateBeforeReboot = storedPowerState p w.ram ∧
      (load b p filesSucceed .opt w).2.ram = (loadFile p {} w.ram).2 := by
  rw [← loadFile_powerState]
  cases b <;> cases hres : w.restarted <;>
    simp [load, filesSucceed, SettingsStore.file, SettingsStore.setFile, h, hres, setPowerState]

theorem Setter.apply_powerStateBeforeReboot (a : Setter) (s : PersistentSettings) :
    (a.apply s).powerStateBeforeReboot = s.powerStateBeforeReboot := by
  cases a <;> rfl

end PersistentSettings

/-! ### Within a boot -/

/-- The copy in `/tmp` and the running settings hold the state before the reboot. -/
structure RemembersState (p : PlatPower) (x : PowerState) (d : Device) : Prop where
  ram : d.store.ram ≠ none
  copy : storedPowerState p d.store.ram = x
  settings : ∃ s, d.settings = some s ∧ s.powerStateBeforeReboot = x

/-- Nothing was loaded since the boot, and the file is the one of the boot. -/
structure Fresh (file : File) (d : Device) : Prop where
  opt : d.store.opt = file
  ram : d.store.ram = none
  settings : d.settings = none

theorem fresh_boot (d : Device) :
    Fresh d.store.opt { store := { opt := d.store.opt } } :=
  ⟨rfl, rfl, rfl⟩

/-- Before the first load nothing can be changed. -/
theorem fresh_step {d d' : Device} {a : DeviceAction} (h : Fresh file d) (hb : a ≠ .boot)
    (hs : a ≠ .start) (ht : deviceStep b p d a = some d') : Fresh file d' := by
  cases a with
  | boot => exact absurd rfl hb
  | setRestarted restarted =>
      cases ht
      exact ⟨h.opt, h.ram, h.settings⟩
  | start => exact absurd rfl hs
  | change a =>
      rw [deviceStep, h.settings] at ht
      cases ht

theorem deviceStep_start (d : Device) :
    deviceStep b p d .start = some {
      store := (load b p filesSucceed .opt d.store).2
      settings := some (load b p filesSucceed .opt d.store).1 } := rfl

theorem remembers_first_start {d d' : Device} (h : Fresh file d)
    (ht : deviceStep b p d .start = some d') :
    RemembersState p (storedPowerState p file) d' := by
  obtain ⟨hbefore, hram⟩ := load_first (b := b) (p := p) h.ram
  rw [deviceStep_start] at ht
  obtain rfl := Option.some.inj ht
  have hversion : (loadFile p {} d.store.opt).1.version = versionV1 := loadFile_version p {} _
  constructor
  · rw [hram]
    simp [saveFile]
  · rw [hram, (holdsState_saveFile hversion none).storedPowerState, loadFile_powerState, h.opt]
  · exact ⟨_, rfl, by rw [hbefore, h.opt]⟩

theorem remembers_step {d d' : Device} {a : DeviceAction} (h : RemembersState p x d)
    (hb : a ≠ .boot) (ht : deviceStep b p d a = some d') : RemembersState p x d' := by
  cases a with
  | boot => exact absurd rfl hb
  | setRestarted restarted =>
      cases ht
      exact ⟨h.ram, h.copy, h.settings⟩
  | start =>
      obtain ⟨bytes, hbytes⟩ := Option.ne_none_iff_exists'.mp h.ram
      obtain ⟨hbefore, hram⟩ := load_again (b := b) (p := p) hbytes
      rw [deviceStep_start] at ht
      obtain rfl := Option.some.inj ht
      constructor
      · rw [hram, hbytes]
        cases hp : parse p bytes <;> simp [loadFile, hp]
      · rw [hram, (holdsState_loadFile p _).storedPowerState, h.copy]
      · exact ⟨_, rfl, by rw [hbefore, h.copy]⟩
  | change a =>
      obtain ⟨s, hs, hbefore⟩ := h.settings
      rw [deviceStep, hs] at ht
      cases ht
      refine ⟨h.ram, h.copy, _, rfl, ?_⟩
      rw [Setter.apply_powerStateBeforeReboot, hbefore]

/-- In each boot, from the first load on, the power state before the reboot is the one that the
file stood for when that load ran. -/
theorem power_state_before_reboot_stable (b : Bool) (p : PlatPower) {d d' : Device}
    {early late : List DeviceAction} (hearly : ∀ a ∈ early, a ≠ .boot ∧ a ≠ .start)
    (hlate : ∀ a ∈ late, a ≠ .boot)
    (hr : run (deviceStep b p) d (.boot :: early ++ .start :: late) = some d') :
    ∃ s, d'.settings = some s ∧ s.powerStateBeforeReboot = storedPowerState p d.store.opt := by
  rw [List.cons_append, run_cons_eq_some] at hr
  obtain ⟨d₀, h₀, hr⟩ := hr
  cases h₀
  rw [run_append, Option.bind_eq_some_iff] at hr
  obtain ⟨d₁, h₁, hr⟩ := hr
  obtain ⟨d₂, h₂, hr⟩ := run_cons_eq_some.mp hr
  have hfresh : Fresh d.store.opt d₁ :=
    run_invariant (C := fun _ a => a ≠ .boot ∧ a ≠ .start)
      (fun _ _ _ h ha ht => fresh_step h ha.1 ha.2 ht) (fresh_boot d)
      (along_of_forall fun a ha _ => hearly a ha) h₁
  have hstart : RemembersState p (storedPowerState p d.store.opt) d₂ :=
    remembers_first_start hfresh h₂
  have hend : RemembersState p (storedPowerState p d.store.opt) d' :=
    run_invariant (C := fun _ a => a ≠ .boot) (fun _ _ _ h ha ht => remembers_step h ha ht)
      hstart (along_of_forall fun a ha _ => hlate a ha) hr
  exact hend.settings

/-- Two starts in one boot, with a change and a crash between them: the second load still finds
the state of the first. -/
theorem power_state_before_reboot_stable_restart :
    ∃ d' s, run (deviceStep true orderedPlatPower) {}
      (.boot :: [] ++ .start :: [.change (.setPowerState .standbyDeepSleep), .setRestarted true,
        .start]) = some d' ∧
      d'.settings = some s ∧ s.powerStateBeforeReboot = .on := by
  have hr : run (deviceStep true orderedPlatPower) {}
      (.boot :: [] ++ .start :: [.change (.setPowerState .standbyDeepSleep), .setRestarted true,
        .start]) = some _ := rfl
  obtain ⟨s, hs, hstate⟩ :=
    power_state_before_reboot_stable true orderedPlatPower (by decide) (by decide) hr
  exact ⟨_, s, hr, hs, hstate⟩

end DeviceAndDisplay.PowerManager
