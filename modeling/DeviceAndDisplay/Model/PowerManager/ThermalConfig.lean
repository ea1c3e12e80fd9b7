import DeviceAndDisplay.Model.PowerManager.Declocking
import DeviceAndDisplay.Storage.CString
import Mathlib.Algebra.Group.Nat.Defs

/-! # Thermal settings from RFC

`read_ConfigProperty` with its static buffer, and `read_ConfigProps`. A function that accesses
memory outside `param.value` or `valueBuf` has no result. `atoi` is that of the C library. -/

namespace DeviceAndDisplay.PowerManager

open Storage

/-- `param.value` after `getRFCParameter`: a text, its NUL, and the rest of the array. -/
structure ParamValue where
  text : List Char
  rest : List Char
  terminated : nul ∉ text
  fits : text.length < 2 ^ 32

def ParamValue.array (value : ParamValue) : List Char :=
  value.text ++ nul :: value.rest

/-- The double quote. -/
def quote : Char := .ofNat 34

/-- `MAX_THERMAL_RFC`. -/
def maxThermalRfc : UInt32 := 16

namespace ThermalConfig

/-- `strlen(param.value)`, clamped. -/
def dataLen (length : ℕ) : UInt32 :=
  if UInt32.ofNat length > maxThermalRfc - 1 then maxThermalRfc - 1 else .ofNat length

/-- The test for a quote at both ends; the second character is read if the first one is a quote. -/
def isQuoted (value : List Char) (dataLen : UInt32) : Option Bool := do
  let first ← loadAt value 0
  if first = quote then
    let last ← loadAt value (dataLen - 1).toNat
    some (decide (last = quote))
  else
    some false

/-- `strncpy(valueBuf, src, n)` and `valueBuf[n] = '\0'`. -/
def copy (valueBuf src : List Char) (n : UInt32) : Option (List Char) :=
  (strncpy valueBuf src n.toNat).bind fun buffer => storeAt buffer n.toNat nul

/-- The branch of `read_ConfigProperty` for a key that is configured. -/
def copyValue (value valueBuf : List Char) : Option (List Char) := do
  let length ← strlen value
  let dataLen := dataLen length
  if ← isQuoted value dataLen then
    copy valueBuf (value.drop 1) (dataLen - 2)
  else
    copy valueBuf value (maxThermalRfc - 1)

/-- `read_ConfigProperty`, for the answer of `getRFCParameter`: the text to which it returns a
pointer, if it returns one, and the static buffer. -/
def readConfigProperty (param : Option ParamValue) (valueBuf : List Char) :
    Option (Option (List Char) × List Char) := do
  let valueBuf ← storeAt valueBuf 0 nul
  let valueBuf ←
    match param with
    | none => some valueBuf
    | some param => copyValue param.array valueBuf
  let first ← loadAt valueBuf 0
  some (if first = nul then none else some (cText valueBuf), valueBuf)

end ThermalConfig

/-- The members that `read_ConfigProps` may set. -/
structure ThermalConfig where
  reboot : Thresholds
  declock : Thresholds
  deepSleep : Thresholds
  pollInterval : ℤ
  speeds : CpuSpeeds
deriving DecidableEq, Repr

namespace ThermalConfig

def setReboot (f : Thresholds → Thresholds) (c : ThermalConfig) : ThermalConfig :=
  { c with reboot := f c.reboot }

def setDeclock (f : Thresholds → Thresholds) (c : ThermalConfig) : ThermalConfig :=
  { c with declock := f c.declock }

def setDeepSleep (f : Thresholds → Thresholds) (c : ThermalConfig) : ThermalConfig :=
  { c with deepSleep := f c.deepSleep }

def setSpeeds (f : CpuSpeeds → CpuSpeeds) (c : ThermalConfig) : ThermalConfig :=
  { c with speeds := f c.speeds }

/-- The keys in their order, each with the member that gets `atoi` of its value. -/
def configProps : List (String × (ℤ → ThermalConfig → ThermalConfig)) := [
  ("RFC_DATA_ThermalProtection_REBOOT_CRITICAL_THRESHOLD",
    fun n => setReboot fun t => { t with critical := n }),
  ("RFC_DATA_ThermalProtection_REBOOT_CONCERN_THRESHOLD",
    fun n => setReboot fun t => { t with concern := n }),
  ("RFC_DATA_ThermalProtection_REBOOT_SAFE_THRESHOLD",
    fun n => setReboot fun t => { t with safe := n }),
  ("RFC_DATA_ThermalProtection_REBOOT_GRACE_INTERVAL",
    fun n => setReboot fun t => { t with graceInterval := n }),
  ("RFC_DATA_ThermalProtection_DECLOCK_CRITICAL_THRESHOLD",
    fun n => setDeclock fun t => { t with critical := n }),
  ("RFC_DATA_ThermalProtection_DECLOCK_CONCERN_THRESHOLD",
    fun n => setDeclock fun t => { t with concern := n }),
  ("RFC_DATA_ThermalProtection_DECLOCK_SAFE_THRESHOLD",
    fun n => setDeclock fun t => { t with safe := n }),
  ("RFC_DATA_ThermalProtection_DECLOCK_GRACE_INTERVAL",
    fun n => setDeclock fun t => { t with graceInterval := n }),
  ("RFC_DATA_ThermalProtection_DEEPSLEEP_CRITICAL_THRESHOLD",
    fun n => setDeepSleep fun t => { t with critical := n }),
  ("RFC_DATA_ThermalProtection_DEEPSLEEP_CONCERN_THRESHOLD",
    fun n => setDeepSleep fun t => { t with concern := n }),
  ("RFC_DATA_ThermalProtection_DEEPSLEEP_SAFE_THRESHOLD",
    fun n => setDeepSleep fun t => { t with safe := n }),
  ("RFC_DATA_ThermalProtection_DEEPSLEEP_GRACE_INTERVAL",
    fun n => setDeepSleep fun t => { t with graceInterval := n }),
  ("RFC_DATA_ThermalProtection_POLL_INTERVAL",
    fun n c => { c with pollInterval := n }),
  ("RFC_DATA_ThermalProtection_PLAT_CPU_SPEED_NORMAL",
    fun n => setSpeeds fun s => { s with normal := .ofInt n }),
  ("RFC_DATA_ThermalProtection_PLAT_CPU_SPEED_SCALED",
    fun n => setSpeeds fun s => { s with scaled := .ofInt n }),
  ("RFC_DATA_ThermalProtection_PLAT_CPU_SPEED_MINIMAL",
    fun n => setSpeeds fun s => { s with minimal := .ofInt n })]

/-- One key: the member is set if the value is not null. -/
def readConfigProp (rfc : String → Option ParamValue) (atoi : List Char → ℤ)
    (prop : String × (ℤ → ThermalConfig → ThermalConfig)) (state : ThermalConfig × List Char) :
    Option (ThermalConfig × List Char) :=
  (readConfigProperty (rfc prop.1) state.2).map fun (value, valueBuf) =>
    (value.elim state.1 fun text => prop.2 (atoi text) state.1, valueBuf)

/-- `read_ConfigProps`, for what `getRFCParameter` answers for each key. -/
def readConfigProps (rfc : String → Option ParamValue) (atoi : List Char → ℤ)
    (state : ThermalConfig × List Char) : Option (ThermalConfig × List Char) :=
  configProps.foldlM (fun state prop => readConfigProp rfc atoi prop state) state

end ThermalConfig

end DeviceAndDisplay.PowerManager
