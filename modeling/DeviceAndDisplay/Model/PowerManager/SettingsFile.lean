import DeviceAndDisplay.Model.PowerManager.PowerController
import DeviceAndDisplay.Model.PowerManager.Types
import DeviceAndDisplay.Storage.Bytes

/-! # The settings files

`Settings` with all its fields, the layout that `SettingsV1` gives them in
`/opt/uimgr_settings.bin`, and the copy in `/tmp/uimgr_settings.bin` that lasts until the next
boot. Words are 32 bits wide and least significant byte first. -/

namespace DeviceAndDisplay.PowerManager

open Storage

/-- The values of `PWRMgr_PowerState_t`. The conversions use them as labels of one `switch`, so
they are distinct. -/
structure PlatPower where
  off : UInt32
  standby : UInt32
  on : UInt32
  standbyLightSleep : UInt32
  standbyDeepSleep : UInt32
  max : UInt32
  distinct : [off, standby, on, standbyLightSleep, standbyDeepSleep, max].Nodup

namespace PlatPower

/-- `conv(PowerState)`, the same in `SettingsV1` and `PowerImpl`. -/
def ofPowerState (p : PlatPower) : PowerState → UInt32
  | .off => p.off
  | .on => p.on
  | .standby => p.standby
  | .standbyLightSleep => p.standbyLightSleep
  | .standbyDeepSleep => p.standbyDeepSleep
  | .unknown => p.max

/-- `conv(PWRMgr_PowerState_t)`. -/
def toPowerState (p : PlatPower) (state : UInt32) : PowerState :=
  if state = p.off then .off
  else if state = p.on then .on
  else if state = p.standby then .standby
  else if state = p.standbyLightSleep then .standbyLightSleep
  else if state = p.standbyDeepSleep then .standbyDeepSleep
  else .unknown

theorem toPowerState_ofPowerState (p : PlatPower) (s : PowerState) :
    p.toPowerState (p.ofPowerState s) = s := by
  have hd := p.distinct
  simp only [List.nodup_cons, List.mem_cons, List.not_mem_nil, or_false, not_or] at hd
  obtain ⟨⟨h₁, h₂, h₃, h₄, h₅⟩, ⟨h₆, h₇, h₈, h₉⟩, ⟨h₁₀, h₁₁, h₁₂⟩, ⟨h₁₃, h₁₄⟩, h₁₅, _⟩ := hd
  cases s <;> simp [ofPowerState, toPowerState, Ne.symm h₁, Ne.symm h₂, Ne.symm h₃, Ne.symm h₄,
    Ne.symm h₅, h₆, Ne.symm h₇, Ne.symm h₈, Ne.symm h₉, Ne.symm h₁₀, Ne.symm h₁₁, Ne.symm h₁₂,
    Ne.symm h₁₃, Ne.symm h₁₄, Ne.symm h₁₅]

end PlatPower

/-- `Settings`, all fields but the time stamp, as its constructor sets them. -/
structure PersistentSettings where
  magic : UInt32 := 0
  version : UInt32 := 0xFFFFFFFF
  powerState : PowerState := .on
  powerStateBeforeReboot : PowerState := .on
  deepSleepTimeout : UInt32 := 8 * 60 * 60
  nwStandbyMode : Bool := false
deriving DecidableEq, Repr

/-- `Settings::Version::V1`. -/
def versionV1 : UInt32 := 1

namespace SettingsV1

/-- `UIMGR_SETTINGS_MAGIC`. -/
def magic : UInt32 := 0xFEBEEFAC

/-- `Size()`: the fields take 29 bytes, and three bytes of the padding are written with them. -/
def size : ℕ := 32

/-- The buffer that `Save` writes. -/
def encode (p : PlatPower) (s : PersistentSettings) : Bytes :=
  word s.magic ++ word s.version ++ word (.ofNat size) ++ word (p.ofPowerState s.powerState) ++
    word 0 ++ word 0 ++ word s.deepSleepTimeout ++ [if s.nwStandbyMode then 1 else 0, 0, 0, 0]

/-- `Load`; `length` is the field of the header that was read before. -/
def load (p : PlatPower) (length : UInt32) (bytes : Bytes) : Option PersistentSettings :=
  if length.toNat ≠ size then
    none
  else if bytes.length < size then
    none
  else
    some {
      magic := readWord bytes
      version := readWord (bytes.drop 4)
      powerState := p.toPowerState (readWord (bytes.drop 12))
      deepSleepTimeout := readWord (bytes.drop 24)
      nwStandbyMode := readFlag (bytes.drop 28) }

/-- `initDefaults`. -/
def initDefaults (s : PersistentSettings) : PersistentSettings :=
  { s with magic := magic, version := versionV1 }

end SettingsV1

/-- A file, or `none` if it does not exist. -/
abbrev File := Option Bytes

/-- How the system calls on one file turn out: whether `open` succeeds, and how many bytes
`write` accepts, or `none` if it fails. -/
structure FileAccess where
  opens : Bool := true
  written : Option ℕ := some SettingsV1.size
deriving DecidableEq, Repr

inductive Path where
  /-- `kSettingsFilePath`. -/
  | opt
  /-- `kRamSettingsFilePath`. -/
  | ram
deriving DecidableEq, Repr

/-- The two files, and whether `/tmp/pwrmgr_restarted` exists. -/
structure SettingsStore where
  opt : File := none
  ram : File := none
  restarted : Bool := false
deriving DecidableEq, Repr

def SettingsStore.file (w : SettingsStore) : Path → File
  | .opt => w.opt
  | .ram => w.ram

def SettingsStore.setFile (file : File) (w : SettingsStore) : Path → SettingsStore
  | .opt => { w with opt := file }
  | .ram => { w with ram := file }

namespace PersistentSettings

/-! ### Setters -/

def setPowerState (powerState : PowerState) (s : PersistentSettings) : PersistentSettings :=
  { s with powerState := powerState }

def setDeepSleepTimeout (timeout : UInt32) (s : PersistentSettings) : PersistentSettings :=
  { s with deepSleepTimeout := timeout }

def setNwStandbyMode (mode : Bool) (s : PersistentSettings) : PersistentSettings :=
  { s with nwStandbyMode := mode }

/-- The changes that the owner of the settings makes. -/
inductive Setter where
  | setPowerState (powerState : PowerState)
  | setDeepSleepTimeout (timeout : UInt32)
  | setNwStandbyMode (mode : Bool)
deriving DecidableEq, Repr

def Setter.apply (s : PersistentSettings) : Setter → PersistentSettings
  | .setPowerState powerState => s.setPowerState powerState
  | .setDeepSleepTimeout timeout => s.setDeepSleepTimeout timeout
  | .setNwStandbyMode mode => s.setNwStandbyMode mode

/-! ### Load and Save -/

/-- `save(fd)`: a short write counts as a success. -/
def write (p : PlatPower) (io : FileAccess) (s : PersistentSettings) (bytes : Bytes) :
    Bool × Bytes :=
  match io.written with
  | none => (false, bytes)
  | some n => (true, overwrite (SettingsV1.encode p s) n bytes)

/-- `Save(path)`, as far as the file of that path is concerned. -/
def saveFile (p : PlatPower) (io : FileAccess) (s : PersistentSettings) (file : File) :
    Bool × File :=
  if io.opens then
    let (ok, bytes) := s.write p io (file.getD [])
    (ok, some bytes)
  else
    (false, file)

/-- The settings that the bytes of a file stand for. The size of the header is 12. -/
def parse (p : PlatPower) (bytes : Bytes) : Option PersistentSettings :=
  if bytes.length < 12 then
    none
  else if readWord (bytes.drop 4) = versionV1 then
    SettingsV1.load p (readWord (bytes.drop 8)) bytes
  else
    none

/-- The part of `Load` that opens and reads the file. -/
def loadFile (p : PlatPower) (io : FileAccess) (file : File) : PersistentSettings × File :=
  if io.opens then
    let bytes := file.getD []
    match parse p bytes with
    | some s => (s, some bytes)
    | none =>
        let s := SettingsV1.initDefaults {}
        (s, some (s.write p io bytes).2)
  else
    ({}, file)

/-- `Load(path)`; `io` tells how the system calls on the file of each path turn out. -/
def load (bootToStandby : Bool) (p : PlatPower) (io : Path → FileAccess) (path : Path)
    (w : SettingsStore) : PersistentSettings × SettingsStore :=
  let (s, file) := loadFile p (io path) (w.file path)
  let w := w.setFile file path
  match path with
  | .ram => (s, w)
  | .opt =>
      let s := { s with powerStateBeforeReboot := s.powerState }
      let (s, w) :=
        match w.ram with
        | none => (s, { w with ram := (s.saveFile p (io .ram) none).2 })
        | some bytes =>
            let (ramSettings, ram) := loadFile p (io .ram) (some bytes)
            ({ s with powerStateBeforeReboot := ramSettings.powerState }, { w with ram := ram })
      (if bootToStandby && !w.restarted then s.setPowerState .standby else s, w)

/-- `Save(path)`. -/
def save (p : PlatPower) (io : Path → FileAccess) (path : Path) (s : PersistentSettings)
    (w : SettingsStore) : Bool × SettingsStore :=
  let (ok, file) := s.saveFile p (io path) (w.file path)
  (ok, w.setFile file path)

end PersistentSettings

end DeviceAndDisplay.PowerManager

/-! ## Boots of the device

`/tmp` is cleared at each boot and `/opt` is kept. Within a boot, PowerManager may be started any
number of times; each start loads the settings and brings the hardware to their power state. -/

namespace DeviceAndDisplay.PowerManager

/-- Every system call succeeds on both files. -/
def filesSucceed : Path → FileAccess := fun _ => {}

/-! ### Settings over boots -/

/-- The files, and the settings of PowerManager while it runs. -/
structure Device where
  store : SettingsStore := {}
  settings : Option PersistentSettings := none
deriving DecidableEq, Repr

inductive DeviceAction where
  | boot
  /-- `/tmp/pwrmgr_restarted` is created or removed. -/
  | setRestarted (restarted : Bool)
  /-- A `PowerController` is constructed, which loads the settings. -/
  | start
  /-- The settings are changed and saved. -/
  | change (a : PersistentSettings.Setter)
deriving DecidableEq, Repr

def deviceStep (bootToStandby : Bool) (p : PlatPower) (d : Device) :
    DeviceAction → Option Device
  | .boot => some { store := { opt := d.store.opt } }
  | .setRestarted restarted => some { d with store := { d.store with restarted := restarted } }
  | .start =>
      let (s, w) := PersistentSettings.load bootToStandby p filesSucceed .opt d.store
      some { store := w, settings := some s }
  | .change a => d.settings.map fun s =>
      { store := ((a.apply s).save p filesSucceed .opt d.store).2
        settings := some (a.apply s) }

/-! ### The power state of the hardware -/

/-- `PowerController` with its files and the state of the hardware behind `platform()`. -/
structure StoredController where
  store : SettingsStore
  hal : UInt32
  settings : PersistentSettings
  lastKnownPowerState : PowerState
deriving DecidableEq, Repr

namespace StoredController

/-- `_settings.SetPowerState` and `_settings.Save`. -/
def storePowerState (p : PlatPower) (io : Path → FileAccess) (powerState : PowerState)
    (c : StoredController) : StoredController :=
  { c with
    settings := c.settings.setPowerState powerState
    store := ((c.settings.setPowerState powerState).save p io .opt c.store).2 }

/-- `SetPowerState`; the hardware changes if it accepts the request. -/
def setPowerState (p : PlatPower) (io : Path → FileAccess) (env : Env) (powerState : PowerState)
    (c : StoredController) : ErrorCode × StoredController :=
  if PowerController.ignores env powerState then
    (.errorIllegalState, c)
  else if env.platformSetPowerState ≠ .errorNone then
    (env.platformSetPowerState, c)
  else
    (.errorNone,
      { c.storePowerState p io powerState with
        hal := p.ofPowerState powerState
        lastKnownPowerState := c.settings.powerState })

/-- `init`; `getPowerState` is the answer of `platform().GetPowerState`. -/
def init (p : PlatPower) (io : Path → FileAccess) (env : Env) (getPowerState : ErrorCode)
    (c : StoredController) : StoredController :=
  let c := { c with lastKnownPowerState := c.settings.powerState }
  if getPowerState ≠ .errorNone then
    c
  else if c.settings.powerState = p.toPowerState c.hal then
    c
  else
    let currentState := p.toPowerState c.hal
    let (errorCode, c) := c.setPowerState p io env c.settings.powerState
    if errorCode = .errorNone then c else c.storePowerState p io currentState

/-- The constructor. -/
def create (bootToStandby : Bool) (p : PlatPower) (io : Path → FileAccess) (env : Env)
    (getPowerState : ErrorCode) (hal : UInt32) (w : SettingsStore) : StoredController :=
  let (settings, store) := PersistentSettings.load bootToStandby p io .opt w
  init p io env getPowerState
    { store := store, hal := hal, settings := settings, lastKnownPowerState := .on }

/-- The calls of `SetPowerState` after the construction, each with the answers it gets. -/
def setPowerStates (p : PlatPower) (io : Path → FileAccess) (calls : List (Env × PowerState))
    (c : StoredController) : StoredController :=
  calls.foldl (fun c call => (c.setPowerState p io call.1 call.2).2) c

end StoredController

end DeviceAndDisplay.PowerManager
