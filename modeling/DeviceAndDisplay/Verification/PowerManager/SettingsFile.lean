import DeviceAndDisplay.Model.PowerManager.SettingsFile

/-! # Settings survive Save and Load

`Save` writes back the version that `Load` found, and reports a short write as a success. Settings
survive if `Load` could open the file and `write` covered the fields. -/

namespace DeviceAndDisplay.PowerManager

open Storage

/-! ### The layout -/

namespace SettingsV1

variable {p : PlatPower} {s : PersistentSettings}

@[simp] theorem length_encode (p : PlatPower) (s : PersistentSettings) :
    (encode p s).length = 32 := rfl

theorem readWord_encode_version : readWord ((encode p s).drop 4) = s.version := by
  have h : (encode p s).drop 4 = word s.version ++ (encode p s).drop 8 := rfl
  rw [h, readWord_word]

theorem readWord_encode_length : readWord ((encode p s).drop 8) = .ofNat size := by
  have h : (encode p s).drop 8 = word (.ofNat size) ++ (encode p s).drop 12 := rfl
  rw [h, readWord_word]

theorem readWord_encode_powerState :
    readWord ((encode p s).drop 12) = p.ofPowerState s.powerState := by
  have h : (encode p s).drop 12 = word (p.ofPowerState s.powerState) ++ (encode p s).drop 16 := rfl
  rw [h, readWord_word]

theorem readWord_encode_deepSleepTimeout :
    readWord ((encode p s).drop 24) = s.deepSleepTimeout := by
  have h : (encode p s).drop 24 = word s.deepSleepTimeout ++ (encode p s).drop 28 := rfl
  rw [h, readWord_word]

theorem readFlag_encode_nwStandbyMode :
    readFlag ((encode p s).drop 28) = s.nwStandbyMode := by
  have h : (encode p s).drop 28 = [if s.nwStandbyMode then 1 else 0, 0, 0, 0] := rfl
  rw [h]
  cases s.nwStandbyMode <;> rfl

/-- The mode lies behind the first 28 bytes. -/
theorem take_encode {n : ℕ} (hn : n ≤ 28) (mode : Bool) :
    (encode p (s.setNwStandbyMode mode)).take n = (encode p s).take n := by
  have h : ∀ mode, (encode p (s.setNwStandbyMode mode)).take 28 = (encode p s).take 28 :=
    fun _ => rfl
  have htake := congrArg (List.take n) (h mode)
  rw [List.take_take, List.take_take, Nat.min_eq_left hn] at htake
  exact htake

end SettingsV1

namespace PersistentSettings

variable {b : Bool} {p : PlatPower} {io : Path → FileAccess} {path : Path} {w : SettingsStore}
  {s : PersistentSettings} {bytes : Bytes} {n : ℕ}

/-! ### Reading a file -/

theorem parse_version (h : parse p bytes = some s) :
    readWord (bytes.drop 4) = versionV1 ∧ s.version = versionV1 ∧ 32 ≤ bytes.length := by
  unfold parse at h
  split at h
  · cases h
  · split at h
    · rename_i hv
      unfold SettingsV1.load at h
      split at h
      · cases h
      · split at h
        · cases h
        · rename_i hlen
          cases h
          exact ⟨hv, hv, Nat.le_of_not_lt hlen⟩
    · cases h

/-- The version that `Load` leaves in the settings tells whether it could open the file. -/
theorem loadFile_version (p : PlatPower) (io : FileAccess) (file : File) :
    (loadFile p io file).1.version = if io.opens then versionV1 else 0xFFFFFFFF := by
  unfold loadFile
  cases io.opens with
  | true =>
      simp only [if_true]
      split
      · rename_i h
        exact (parse_version h).2.1
      · rfl
  | false => rfl

/-- What `Load` returns besides the state before the reboot comes from the file of its path. -/
theorem load_fields (b : Bool) (p : PlatPower) (io : Path → FileAccess) (path : Path)
    (w : SettingsStore) :
    (load b p io path w).1.version = (loadFile p (io path) (w.file path)).1.version ∧
      (load b p io path w).1.deepSleepTimeout =
        (loadFile p (io path) (w.file path)).1.deepSleepTimeout ∧
      (load b p io path w).1.nwStandbyMode =
        (loadFile p (io path) (w.file path)).1.nwStandbyMode ∧
      (load b p io path w).1.powerState =
        if path = .opt ∧ b = true ∧ w.restarted = false then .standby
        else (loadFile p (io path) (w.file path)).1.powerState := by
  cases path with
  | ram => exact ⟨rfl, rfl, rfl, rfl⟩
  | opt =>
      cases hram : w.ram <;> cases b <;> cases hres : w.restarted <;>
        simp [load, SettingsStore.setFile, hram, hres, setPowerState]

@[simp] theorem file_setFile (file : File) (w : SettingsStore) (path : Path) :
    (w.setFile file path).file path = file := by
  cases path <;> rfl

/-! ### Writing a file -/

theorem saveFile_written (p : PlatPower) (s : PersistentSettings) (n : ℕ) (file : File) :
    (s.saveFile p { written := some n } file).2 =
      some (overwrite (SettingsV1.encode p s) n (file.getD [])) := rfl

/-- The settings of version 1 whose fields were written are read back. -/
theorem parse_overwrite (hv : s.version = versionV1) (hn : 29 ≤ n)
    (hlen : 32 ≤ max n bytes.length) :
    ∃ r, parse p (overwrite (SettingsV1.encode p s) n bytes) = some r ∧
      r.powerState = s.powerState ∧ r.deepSleepTimeout = s.deepSleepTimeout ∧
      r.nwStandbyMode = s.nwStandbyMode := by
  have hfile : 32 ≤ (overwrite (SettingsV1.encode p s) n bytes).length := by
    rw [length_overwrite, SettingsV1.length_encode]
    omega
  have hword : ∀ offset : ℕ, offset + 4 ≤ 28 →
      readWord ((overwrite (SettingsV1.encode p s) n bytes).drop offset) =
        readWord ((SettingsV1.encode p s).drop offset) := by
    intro offset h
    apply readWord_overwrite
    · omega
    · rw [SettingsV1.length_encode]
      omega
  have hflag : readFlag ((overwrite (SettingsV1.encode p s) n bytes).drop 28) =
      readFlag ((SettingsV1.encode p s).drop 28) :=
    readFlag_overwrite hn (by simp) bytes
  have hversion : readWord ((overwrite (SettingsV1.encode p s) n bytes).drop 4) = versionV1 := by
    rw [hword 4 (by decide), SettingsV1.readWord_encode_version, hv]
  have hlength : readWord ((overwrite (SettingsV1.encode p s) n bytes).drop 8) =
      .ofNat SettingsV1.size := by
    rw [hword 8 (by decide), SettingsV1.readWord_encode_length]
  have hsize : (UInt32.ofNat SettingsV1.size).toNat = SettingsV1.size := rfl
  have hshort : ¬ (overwrite (SettingsV1.encode p s) n bytes).length < 12 := by omega
  have hfull : ¬ (overwrite (SettingsV1.encode p s) n bytes).length < SettingsV1.size :=
    Nat.not_lt.mpr hfile
  rw [parse, if_neg hshort, if_pos hversion, hlength, SettingsV1.load, hsize,
    if_neg (not_not.mpr rfl), if_neg hfull]
  refine ⟨_, rfl, ?_, ?_, ?_⟩
  · simp only [hword 12 (by decide), SettingsV1.readWord_encode_powerState,
      PlatPower.toPowerState_ofPowerState]
  · simp only [hword 24 (by decide), SettingsV1.readWord_encode_deepSleepTimeout]
  · simp only [hflag, SettingsV1.readFlag_encode_nwStandbyMode]

theorem loadFile_of_parse {io : FileAccess} (ho : io.opens = true)
    {r : PersistentSettings} (h : parse p bytes = some r) :
    loadFile p io (some bytes) = (r, some bytes) := by
  simp [loadFile, ho, h]

theorem loadFile_of_parse_none {io : FileAccess} (h : parse p bytes = none) :
    (loadFile p io (some bytes)).1.nwStandbyMode = false := by
  unfold loadFile
  cases io.opens with
  | true => simp [h, SettingsV1.initDefaults]
  | false => rfl

/-! ### The law -/

/-- One of the five valid states is set. -/
def Setter.Valid : Setter → Prop
  | .setPowerState powerState => powerState ≠ .unknown
  | _ => True

theorem foldl_apply_version (setters : List Setter) (s : PersistentSettings) :
    (setters.foldl Setter.apply s).version = s.version := by
  induction setters generalizing s with
  | nil => rfl
  | cons a setters ih =>
      rw [List.foldl_cons, ih]
      cases a <;> rfl

/-- A load of the file that a save of `s` left, with `n` bytes accepted over the file that was
there, gives the settings back, up to the override. -/
def Survives (b : Bool) (p : PlatPower) (path : Path) (n : ℕ) (file : File)
    (s : PersistentSettings) : Prop :=
  ∀ io w, (io path).opens = true →
    w.file path = (s.saveFile p { written := some n } file).2 →
    (load b p io path w).1.powerState =
      (if path = .opt ∧ b = true ∧ w.restarted = false then .standby else s.powerState) ∧
    (load b p io path w).1.deepSleepTimeout = s.deepSleepTimeout ∧
    (load b p io path w).1.nwStandbyMode = s.nwStandbyMode

theorem survives_of_covered {file : File} (hv : s.version = versionV1) (hn : 29 ≤ n)
    (hlen : 32 ≤ max n (file.getD []).length) : Survives b p path n file s := by
  intro io w ho hw
  obtain ⟨r, hr, hstate, htimeout, hmode⟩ :=
    parse_overwrite (p := p) hv hn hlen
  obtain ⟨_, h₂, h₃, h₄⟩ := load_fields b p io path w
  rw [hw, saveFile_written, loadFile_of_parse ho hr] at h₂ h₃ h₄
  rw [h₂, h₃, h₄, hstate]
  exact ⟨rfl, htimeout, hmode⟩

/-- What a load finds of the mode alone. -/
theorem Survives.nwStandbyMode {file : File} (h : Survives b p path n file s) :
    (loadFile p {} (some (overwrite (SettingsV1.encode p s) n (file.getD [])))).1.nwStandbyMode =
      s.nwStandbyMode := by
  let w : SettingsStore := SettingsStore.setFile
    (s.saveFile p { written := some n } file).2 {} path
  have hw : w.file path = (s.saveFile p { written := some n } file).2 := file_setFile _ _ _
  obtain ⟨_, _, h₃, _⟩ := load_fields b p (fun _ => {}) path w
  rw [hw] at h₃
  exact h₃.symm.trans (h (fun _ => {}) w rfl hw).2.2

theorem parse_none_of_short (h : bytes.length < 32) : parse p bytes = none := by
  cases hp : parse p bytes with
  | none => rfl
  | some r => exact absurd (parse_version hp).2.2 (Nat.not_le.mpr h)

/-- All sequences of changes survive a successful save if and only if the settings were loaded
from a file that could be opened, and the bytes accepted by `write` cover the fields and, with
what the file held before, the whole record. -/
theorem settings_survive_iff (b : Bool) (p : PlatPower) (io : Path → FileAccess) (path : Path)
    (w : SettingsStore) (n : ℕ) (file : File) :
    (∀ setters : List Setter, (∀ a ∈ setters, a.Valid) →
      Survives b p path n file (setters.foldl Setter.apply (load b p io path w).1)) ↔
    (io path).opens = true ∧ 29 ≤ n ∧ 32 ≤ max n (file.getD []).length := by
  have hversion : (load b p io path w).1.version =
      if (io path).opens then versionV1 else 0xFFFFFFFF := by
    rw [(load_fields b p io path w).1, loadFile_version]
  constructor
  · intro h
    have hmode : ∀ mode, (loadFile p {} (some (overwrite (SettingsV1.encode p
        ((load b p io path w).1.setNwStandbyMode mode)) n (file.getD [])))).1.nwStandbyMode =
          mode :=
      fun mode => (h [.setNwStandbyMode mode] (by simp [Setter.Valid])).nwStandbyMode
    -- a mode that is not written cannot be told from the other one
    have hn : 29 ≤ n := by
      by_contra hlt
      have hsame := overwrite_congr
        ((SettingsV1.take_encode (p := p) (s := (load b p io path w).1) (n := n) (by omega)
          true).trans (SettingsV1.take_encode (by omega) false).symm) rfl (file.getD [])
      have h₁ := hmode true
      rw [hsame, hmode false] at h₁
      cases h₁
    refine ⟨?_, hn, ?_⟩
    · by_contra hclosed
      have hnone : parse p (overwrite (SettingsV1.encode p
          ((load b p io path w).1.setNwStandbyMode true)) n (file.getD [])) = none := by
        cases hp : parse p (overwrite (SettingsV1.encode p
            ((load b p io path w).1.setNwStandbyMode true)) n (file.getD [])) with
        | none => rfl
        | some r =>
            have hread := (parse_version hp).1
            rw [readWord_overwrite (by omega) (by simp),
              SettingsV1.readWord_encode_version] at hread
            have hv : (load b p io path w).1.version = versionV1 := hread
            rw [hversion, if_neg hclosed] at hv
            exact absurd hv (by decide)
      have h₁ := hmode true
      rw [loadFile_of_parse_none hnone] at h₁
      cases h₁
    · by_contra hshort
      have h₁ := hmode true
      rw [loadFile_of_parse_none (parse_none_of_short ?_)] at h₁
      · cases h₁
      · rw [length_overwrite, SettingsV1.length_encode]
        omega
  · rintro ⟨ho, hn, hlen⟩ setters _
    apply survives_of_covered _ hn hlen
    rw [foldl_apply_version, hversion, if_pos ho]

/-- Values for the states, in the order of the enumeration. -/
def orderedPlatPower : PlatPower where
  off := 0
  standby := 1
  on := 2
  standbyLightSleep := 3
  standbyDeepSleep := 4
  max := 5
  distinct := by decide

/-- The first load cannot open the file; what is then saved in full is not read back. -/
theorem settings_lost_after_failed_open :
    let s := ((load false orderedPlatPower (fun _ => { opens := false })
      .opt {}).1).setNwStandbyMode true
    (save orderedPlatPower (fun _ => {}) .opt s {}).1 = true ∧
      (load false orderedPlatPower (fun _ => {}) .opt
        (save orderedPlatPower (fun _ => {}) .opt s {}).2).1.nwStandbyMode = false := by
  decide

end PersistentSettings

end DeviceAndDisplay.PowerManager
