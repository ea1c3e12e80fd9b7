import DeviceAndDisplay.Model.PowerManager.SettingsFile
import DeviceAndDisplay.Verification.PowerManager.SettingsFile

/-! # Loading arbitrary bytes

Any bytes either hold a whole record of version 1 or are given the default record at their start,
so a second load finds what the first one returned. -/

namespace DeviceAndDisplay.PowerManager

open Storage

/-- A whole record, of version 1 and with the length of that version in its header. -/
def HoldsRecord (bytes : Bytes) : Prop :=
  SettingsV1.size ≤ bytes.length ∧ readWord (bytes.drop 4) = versionV1 ∧
    (readWord (bytes.drop 8)).toNat = SettingsV1.size

instance (bytes : Bytes) : Decidable (HoldsRecord bytes) :=
  inferInstanceAs (Decidable (_ ∧ _ ∧ _))

namespace SettingsV1

/-- The record at the start of the bytes. -/
def decode (p : PlatPower) (bytes : Bytes) : PersistentSettings where
  magic := readWord bytes
  version := readWord (bytes.drop 4)
  powerState := p.toPowerState (readWord (bytes.drop 12))
  deepSleepTimeout := readWord (bytes.drop 24)
  nwStandbyMode := readFlag (bytes.drop 28)

/-- The default record. -/
def defaults : PersistentSettings := initDefaults {}

variable {p : PlatPower} {s : PersistentSettings}

theorem holdsRecord_encode (hv : s.version = versionV1) (rest : Bytes) :
    HoldsRecord (encode p s ++ rest) := by
  refine ⟨by simp [size], ?_, ?_⟩
  · have h : (encode p s ++ rest).drop 4 = word s.version ++ ((encode p s).drop 8 ++ rest) := rfl
    rw [h, readWord_word, hv]
  · have h : (encode p s ++ rest).drop 8 =
        word (.ofNat size) ++ ((encode p s).drop 12 ++ rest) := rfl
    rw [h, readWord_word]
    rfl

/-- The state before the reboot is no part of the record. -/
theorem decode_encode (p : PlatPower) (s : PersistentSettings) (rest : Bytes) :
    decode p (encode p s ++ rest) = { s with powerStateBeforeReboot := .on } := by
  have hmagic : encode p s ++ rest = word s.magic ++ ((encode p s).drop 4 ++ rest) := rfl
  have hversion : (encode p s ++ rest).drop 4 =
      word s.version ++ ((encode p s).drop 8 ++ rest) := rfl
  have hstate : (encode p s ++ rest).drop 12 =
      word (p.ofPowerState s.powerState) ++ ((encode p s).drop 16 ++ rest) := rfl
  have htimeout : (encode p s ++ rest).drop 24 =
      word s.deepSleepTimeout ++ ((encode p s).drop 28 ++ rest) := rfl
  have hmode : (encode p s ++ rest).drop 28 =
      [if s.nwStandbyMode then 1 else 0, 0, 0, 0] ++ rest := rfl
  have hflag : readFlag ([if s.nwStandbyMode then 1 else 0, 0, 0, 0] ++ rest) =
      s.nwStandbyMode := by
    cases s.nwStandbyMode <;> rfl
  rw [decode, hversion, hstate, htimeout, hmode, hmagic]
  simp only [readWord_word, hflag, PlatPower.toPowerState_ofPowerState]

end SettingsV1

namespace PersistentSettings

open SettingsV1

variable {b : Bool} {p : PlatPower} {path : Path} {w : SettingsStore} {bytes : Bytes}

/-! ### One file -/

/-- What the bytes of a file stand for. -/
def onFile (p : PlatPower) (bytes : Bytes) : PersistentSettings :=
  if HoldsRecord bytes then decode p bytes else defaults

/-- The bytes that a load leaves. -/
def loaded (p : PlatPower) (bytes : Bytes) : Bytes :=
  if HoldsRecord bytes then bytes else overwrite (encode p defaults) size bytes

theorem parse_eq (p : PlatPower) (bytes : Bytes) :
    parse p bytes = if HoldsRecord bytes then some (decode p bytes) else none := by
  by_cases h : HoldsRecord bytes
  · obtain ⟨hlen, hversion, hlength⟩ := h
    have hshort : ¬ bytes.length < 12 := by
      have hsize : size = 32 := rfl
      omega
    rw [if_pos ⟨hlen, hversion, hlength⟩, parse, if_neg hshort, if_pos hversion,
      SettingsV1.load, if_neg (not_not.mpr hlength), if_neg (Nat.not_lt.mpr hlen)]
    rfl
  · rw [if_neg h]
    unfold parse
    split
    · rfl
    · split
      · rename_i hversion
        unfold SettingsV1.load
        split
        · rfl
        · rename_i hlength
          rw [if_pos]
          by_contra hlen
          exact h ⟨Nat.not_lt.mp hlen, hversion, not_not.mp hlength⟩
      · rfl

theorem loadFile_eq (p : PlatPower) (file : File) :
    loadFile p {} file = (onFile p (file.getD []), some (loaded p (file.getD []))) := by
  unfold loadFile onFile loaded
  by_cases h : HoldsRecord (file.getD [])
  · simp [parse_eq, h]
  · simp [parse_eq, h, write, defaults]

theorem overwrite_defaults (p : PlatPower) (bytes : Bytes) :
    overwrite (encode p defaults) size bytes = encode p defaults ++ bytes.drop size := rfl

theorem onFile_encode {s : PersistentSettings} (hv : s.version = versionV1) (rest : Bytes) :
    onFile p (encode p s ++ rest) = { s with powerStateBeforeReboot := .on } := by
  rw [onFile, if_pos (holdsRecord_encode hv rest), decode_encode]

theorem onFile_loaded (p : PlatPower) (bytes : Bytes) :
    onFile p (loaded p bytes) = onFile p bytes := by
  by_cases h : HoldsRecord bytes
  · rw [loaded, if_pos h]
  · rw [loaded, if_neg h, overwrite_defaults, onFile_encode rfl, onFile, if_neg h]
    rfl

theorem onFile_version (p : PlatPower) (bytes : Bytes) : (onFile p bytes).version = versionV1 := by
  by_cases h : HoldsRecord bytes
  · rw [onFile, if_pos h]
    exact h.2.1
  · rw [onFile, if_neg h]
    rfl

/-! ### A load -/

/-- The bytes of the file at the path; a file that does not exist is created empty. -/
def bytesAt (w : SettingsStore) (path : Path) : Bytes := (w.file path).getD []

/-- The build that starts in standby leaves the state of the file aside, unless PowerManager was
restarted. -/
def overrideState (b : Bool) (path : Path) (w : SettingsStore) (s : PersistentSettings) :
    PersistentSettings :=
  if path = .opt ∧ b = true ∧ w.restarted = false then s.setPowerState .standby else s

/-- The state before the reboot that a load of the path returns. -/
def stateBeforeReboot (p : PlatPower) (w : SettingsStore) : Path → PowerState
  | .opt => (onFile p (w.ram.getD (bytesAt w .opt))).powerState
  | .ram => .on

/-- The copy that a load leaves in `/tmp`. -/
def ramCopy (p : PlatPower) (w : SettingsStore) : Bytes :=
  w.ram.elim (encode p (onFile p (bytesAt w .opt))) (loaded p)

theorem load_ram (b : Bool) (p : PlatPower) (w : SettingsStore) :
    load b p filesSucceed .ram w =
      (onFile p (bytesAt w .ram), { w with ram := some (loaded p (bytesAt w .ram)) }) := by
  simp only [load, filesSucceed, loadFile_eq]
  rfl

theorem load_opt (b : Bool) (p : PlatPower) (w : SettingsStore) :
    load b p filesSucceed .opt w =
      (overrideState b .opt w { onFile p (bytesAt w .opt) with
          powerStateBeforeReboot := stateBeforeReboot p w .opt },
        { w with opt := some (loaded p (bytesAt w .opt)), ram := some (ramCopy p w) }) := by
  cases hram : w.ram <;> cases b <;> cases hrestarted : w.restarted <;>
    simp [load, filesSucceed, SettingsStore.file, SettingsStore.setFile, loadFile_eq, overrideState,
      stateBeforeReboot, ramCopy, bytesAt, hram, hrestarted, saveFile, write, setPowerState] <;>
    rfl

theorem load_eq (b : Bool) (p : PlatPower) (path : Path) (w : SettingsStore) :
    (load b p filesSucceed path w).1 = overrideState b path w { onFile p (bytesAt w path) with
        powerStateBeforeReboot := stateBeforeReboot p w path } ∧
      bytesAt (load b p filesSucceed path w).2 path = loaded p (bytesAt w path) ∧
      (load b p filesSucceed path w).2.restarted = w.restarted := by
  cases path with
  | opt =>
      rw [load_opt]
      exact ⟨rfl, rfl, rfl⟩
  | ram =>
      have hon : (onFile p (bytesAt w .ram)).powerStateBeforeReboot = .on := by
        unfold onFile
        split <;> rfl
      rw [load_ram]
      refine ⟨?_, rfl, rfl⟩
      rw [overrideState, if_neg (by simp), stateBeforeReboot, ← hon]

/-- The copy in `/tmp` stands for the state that the load returned. -/
theorem stateBeforeReboot_load (b : Bool) (p : PlatPower) (path : Path) (w : SettingsStore) :
    stateBeforeReboot p (load b p filesSucceed path w).2 path = stateBeforeReboot p w path := by
  cases path with
  | ram => rfl
  | opt =>
      rw [load_opt]
      simp only [stateBeforeReboot, Option.getD_some]
      cases hram : w.ram with
      | none =>
          have h := onFile_encode (p := p) (onFile_version p (bytesAt w .opt)) []
          rw [List.append_nil] at h
          simp only [ramCopy, hram, Option.elim_none, h, Option.getD_none]
      | some bytes =>
          simp only [ramCopy, hram, Option.elim_some, onFile_loaded, Option.getD_some]

/-! ### The law -/

/-- A load returns the record that the file holds, or else the defaults, up to the override; and a
second load agrees with it. -/
structure LoadsStably (b : Bool) (p : PlatPower) (path : Path) (w : SettingsStore) : Prop where
  record : HoldsRecord (bytesAt w path) →
    (load b p filesSucceed path w).1 = overrideState b path w { decode p (bytesAt w path) with
      powerStateBeforeReboot := stateBeforeReboot p w path }
  noRecord : ¬ HoldsRecord (bytesAt w path) →
    (load b p filesSucceed path w).1 = overrideState b path w { SettingsV1.defaults with
        powerStateBeforeReboot := stateBeforeReboot p w path } ∧
      HoldsRecord (bytesAt (load b p filesSucceed path w).2 path) ∧
      ∃ rest, bytesAt (load b p filesSucceed path w).2 path =
        encode p SettingsV1.defaults ++ rest
  again :
    let first := load b p filesSucceed path w
    let second := (load b p filesSucceed path first.2).1
    second.powerState = first.1.powerState ∧
      second.powerStateBeforeReboot = first.1.powerStateBeforeReboot ∧
      second.deepSleepTimeout = first.1.deepSleepTimeout ∧
      second.nwStandbyMode = first.1.nwStandbyMode

/-- Loading is total and stable, for both files, any bytes in them and both builds. -/
theorem load_total (b : Bool) (p : PlatPower) (path : Path) (w : SettingsStore) :
    LoadsStably b p path w := by
  obtain ⟨hs, hbytes, hrestarted⟩ := load_eq b p path w
  refine ⟨fun h => ?_, fun h => ⟨?_, ?_⟩, ?_⟩
  · rw [hs, onFile, if_pos h]
  · rw [hs, onFile, if_neg h]
  · rw [hbytes, loaded, if_neg h, overwrite_defaults]
    exact ⟨holdsRecord_encode rfl _, _, rfl⟩
  · obtain ⟨hs', _, _⟩ := load_eq b p path (load b p filesSucceed path w).2
    have hsame : (load b p filesSucceed path (load b p filesSucceed path w).2).1 =
        (load b p filesSucceed path w).1 := by
      rw [hs', hs, hbytes, onFile_loaded, stateBeforeReboot_load, overrideState, overrideState,
        hrestarted]
    simp [hsame]

/-- The file holds the state on; the build that starts in standby returns standby. -/
theorem load_overridden :
    let w : SettingsStore := { opt := some (encode orderedPlatPower SettingsV1.defaults) }
    HoldsRecord (bytesAt w .opt) ∧
      (load true orderedPlatPower filesSucceed .opt w).1.powerState = .standby ∧
      (decode orderedPlatPower (bytesAt w .opt)).powerState = .on := by
  decide

end PersistentSettings

end DeviceAndDisplay.PowerManager
