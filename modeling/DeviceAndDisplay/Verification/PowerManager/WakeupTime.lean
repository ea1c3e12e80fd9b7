import DeviceAndDisplay.Model.PowerManager.WakeupSources
import DeviceAndDisplay.Model.PowerManager.WakeupTime
import DeviceAndDisplay.Verification.PowerManager.SettingsFile

/-! # The range of wake-up times

A negative timeout passes the clamp and becomes an unsigned number. The clamp of the override
comes after a multiplication that may wrap. -/

namespace DeviceAndDisplay.PowerManager

open Storage

/-! ### Words and integers -/

theorem toNat_toUInt32 (n : Int32) : (n.toUInt32.toNat : ℤ) = n.toInt % 4294967296 := by
  have hlt : n.toUInt32.toNat < 4294967296 := n.toUInt32.toNat_lt
  have hint : n.toInt = if 2 * n.toUInt32.toNat < 4294967296 then (n.toUInt32.toNat : ℤ)
      else n.toUInt32.toNat - 4294967296 := BitVec.toInt_eq_toNat_cond n.toBitVec
  split at hint <;> omega

theorem int32_bounds (n : Int32) : -2147483648 ≤ n.toInt ∧ n.toInt < 2147483648 :=
  ⟨n.le_toInt, n.toInt_lt⟩

/-! ### The timeout that is set -/

namespace DeepSleepWakeupSettings

variable {p : PlatPower} {io io' : Path → FileAccess} {d : DeepSleepWakeupSettings}

/-- The timeout that the clamp of `SetDeepSleepTimer` leaves. -/
def clamped (timeOut : Int32) : UInt32 := (if timeOut > 86400 then 0 else timeOut).toUInt32

/-- The file after a complete save. -/
theorem persisted_setDeepSleepTimer (timeOut : Int32) (hio : io' .opt = {}) :
    ∃ bytes, (d.setDeepSleepTimer p io io' timeOut).store.opt = some bytes ∧
      readWord (bytes.drop 24) = clamped timeOut := by
  obtain ⟨file, hfile⟩ : ∃ file, (d.setTimeout p io (clamped timeOut)).store.file .opt = file :=
    ⟨_, rfl⟩
  have hsettings : (d.setTimeout p io (clamped timeOut)).settings.deepSleepTimeout =
      clamped timeOut := rfl
  have hstore : (d.setDeepSleepTimer p io io' timeOut).store.opt =
      some (overwrite (SettingsV1.encode p (d.setTimeout p io (clamped timeOut)).settings)
        SettingsV1.size (file.getD [])) := by
    rw [← PersistentSettings.saveFile_written, ← hfile]
    have hsave : (d.setDeepSleepTimer p io io' timeOut).store.opt =
        ((d.setTimeout p io (clamped timeOut)).settings.saveFile p (io' .opt)
          ((d.setTimeout p io (clamped timeOut)).store.file .opt)).2 := rfl
    rw [hsave, hio]
  refine ⟨_, hstore, ?_⟩
  rw [readWord_overwrite (by decide) (by rw [SettingsV1.length_encode]; decide),
    SettingsV1.readWord_encode_deepSleepTimeout, hsettings]

/-- The model of the settings calls stores the same timeout. -/
theorem clamped_eq_setDeepSleepTimer (timeOut : Int32) (s : StandbyPlugin) :
    (s.setDeepSleepTimer timeOut.toInt).plugin.powerController.settings.deepSleepTimeout =
      (clamped timeOut).toNat := by
  have hgt : timeOut > 86400 ↔ timeOut.toInt > 86400 := Int32.lt_iff_toInt_lt
  have hnat := toNat_toUInt32 timeOut
  simp only [StandbyPlugin.setDeepSleepTimer, PowerController.setDeepSleepTimer, clamped, hgt,
    toNat_ofInt]
  split
  · rfl
  · omega

theorem clamped_le_iff (timeOut : Int32) : (clamped timeOut).toNat ≤ 86400 ↔ 0 ≤ timeOut.toInt := by
  have hgt : timeOut > 86400 ↔ timeOut.toInt > 86400 := Int32.lt_iff_toInt_lt
  have hnat := toNat_toUInt32 timeOut
  have hbounds := int32_bounds timeOut
  simp only [clamped, hgt]
  split
  · have hzero : (0 : Int32).toUInt32.toNat = 0 := rfl
    omega
  · omega

/-- The timeout that the call stores, writes to the file and lets `timeout` return is at most a
day. -/
def SetsInRange (timeOut : Int32) : Prop :=
  ∀ (p : PlatPower) (io io' : Path → FileAccess) (d : DeepSleepWakeupSettings)
    (clock : WakeupClock),
    (d.setDeepSleepTimer p io io' timeOut).settings.deepSleepTimeout.toNat ≤ 86400 ∧
    (io' .opt = {} → ∃ bytes, (d.setDeepSleepTimer p io io' timeOut).store.opt = some bytes ∧
      (readWord (bytes.drop 24)).toNat ≤ 86400) ∧
    ((d.setDeepSleepTimer p io io' timeOut).timeout clock).toNat ≤ 86400

/-- Without a timer that was set, the override of the file is followed: exactly, up to 6 days, if
it is not negative, and never by more than 6 days. -/
def WakesInRange (minutes : Int32) : Prop :=
  ∀ (d : DeepSleepWakeupSettings) (clock : WakeupClock),
    d.isDeepSleepTimeoutSet = false → clock.timerFile = .integer minutes →
    (0 ≤ minutes.toInt → ((d.timeout clock).toNat : ℤ) = min (60 * minutes.toInt) 518400) ∧
    (d.timeout clock).toNat ≤ 518400

theorem setsInRange_iff (timeOut : Int32) : SetsInRange timeOut ↔ 0 ≤ timeOut.toInt := by
  rw [← clamped_le_iff]
  constructor
  · intro h
    exact (h PersistentSettings.orderedPlatPower (fun _ => {}) (fun _ => {}) ⟨{}, {}, false⟩
      ⟨.absent, 0, none, fun _ _ _ => 0, 0, none⟩).1
  · intro h p io io' d clock
    refine ⟨h, fun hio => ?_, h⟩
    obtain ⟨bytes, hbytes, hword⟩ := @persisted_setDeepSleepTimer p io io' d timeOut hio
    exact ⟨bytes, hbytes, hword ▸ h⟩

/-! ### The override in the file -/

/-- The product of the minutes wraps at `2 ^ 32`. -/
theorem seconds_toNat (minutes : Int32) :
    ((minutes.toUInt32 * 60).toNat : ℤ) = 60 * minutes.toInt % 4294967296 := by
  have hproduct : (minutes.toUInt32 * 60).toNat = minutes.toUInt32.toNat * 60 % 4294967296 :=
    UInt32.toNat_mul ..
  have hmod := Int.mul_emod (minutes.toInt % 4294967296) 60 4294967296
  rw [Int.emod_emod, ← Int.mul_emod, Int.mul_comm minutes.toInt] at hmod
  rw [hproduct, Int.natCast_emod, Int.natCast_mul, toNat_toUInt32]
  exact hmod

theorem overrideWakeupTime_toNat (minutes : Int32) :
    ((overrideWakeupTime minutes.toUInt32).toNat : ℤ) =
      min (60 * minutes.toInt % 4294967296) 518400 := by
  have hlimit : wakeupLimit.toNat = 518400 := rfl
  have hgt : minutes.toUInt32 * 60 > wakeupLimit ↔ 518400 < (minutes.toUInt32 * 60).toNat :=
    UInt32.lt_iff_toNat_lt
  rw [← seconds_toNat]
  simp only [overrideWakeupTime, hgt]
  split <;> omega

theorem timeout_of_integer {minutes : Int32} {clock : WakeupClock}
    (hd : d.isDeepSleepTimeoutSet = false) (hclock : clock.timerFile = .integer minutes) :
    d.timeout clock = overrideWakeupTime minutes.toUInt32 := by
  simp [timeout, hd, getWakeupTime, hclock]

/-- The product does not wrap, or it wraps to a number that is still clamped. -/
def KeepsProduct (minutes : Int32) : Prop :=
  60 * minutes.toInt < 4294967296 ∨ 518400 ≤ 60 * minutes.toInt % 4294967296

/-- The clamp gives the same for the wrapped product if it wraps beyond the limit. -/
theorem min_emod_eq_iff {x : ℤ} (hx : 0 ≤ x) :
    min (x % 4294967296) 518400 = min x 518400 ↔
      x < 4294967296 ∨ 518400 ≤ x % 4294967296 := by
  rcases Int.lt_or_le x 4294967296 with hlt | hge
  · rw [Int.emod_eq_of_lt hx hlt]
    exact iff_of_true rfl (.inl hlt)
  · have hlimit : (518400 : ℤ) ≤ x := Int.le_trans (by decide) hge
    rw [min_eq_right hlimit, min_eq_right_iff, or_iff_right (Int.not_lt.mpr hge)]

theorem wakesInRange_iff (minutes : Int32) :
    WakesInRange minutes ↔ (0 ≤ minutes.toInt → KeepsProduct minutes) := by
  have htime := overrideWakeupTime_toNat minutes
  constructor
  · intro h hnonneg
    obtain ⟨hexact, _⟩ := h ⟨{}, {}, false⟩
      ⟨.integer minutes, 0, none, fun _ _ _ => 0, 0, none⟩ rfl rfl
    have heq := hexact hnonneg
    rw [timeout_of_integer rfl rfl, htime] at heq
    exact (min_emod_eq_iff (by omega)).mp heq
  · intro h d clock hd hclock
    rw [timeout_of_integer hd hclock]
    refine ⟨fun hnonneg => ?_, ?_⟩
    · rw [htime]
      exact (min_emod_eq_iff (by omega)).mpr (h hnonneg)
    · have hle : ((overrideWakeupTime minutes.toUInt32).toNat : ℤ) ≤ 518400 :=
        htime ▸ min_le_right _ _
      exact Int.ofNat_le.mp hle

/-- Wake-up times stay in range exactly for timeouts that are not negative, and for overrides that
are negative or whose product keeps its value or wraps to more than 6 days. -/
theorem wakeup_times_in_range_iff (timeOut minutes : Int32) :
    SetsInRange timeOut ∧ WakesInRange minutes ↔
      0 ≤ timeOut.toInt ∧ (0 ≤ minutes.toInt → KeepsProduct minutes) :=
  and_congr (setsInRange_iff timeOut) (wakesInRange_iff minutes)

/-- A timeout of -1 second is stored as 136 years, and an override of 71582789 minutes wakes the
device after 44 seconds. -/
theorem wakeup_times_out_of_range :
    (overrideWakeupTime (71582789 : Int32).toUInt32 = 44) ∧
      ¬ SetsInRange (-1) ∧ ¬ WakesInRange 71582789 := by
  refine ⟨by decide, ?_, ?_⟩
  · rw [setsInRange_iff]
    decide
  · rw [wakesInRange_iff, KeepsProduct]
    decide

end DeepSleepWakeupSettings

end DeviceAndDisplay.PowerManager
