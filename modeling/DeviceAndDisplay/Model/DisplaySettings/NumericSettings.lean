import DeviceAndDisplay.Model.DisplaySettings.Arc
import DeviceAndDisplay.Storage.FloatText

/-! # Numeric audio settings

The methods that read numbers from texts and pass them to the device settings library. Only a
`device::Exception` is caught, so what `std::stoi` and `std::stof` throw leaves the method. -/

namespace DeviceAndDisplay.DisplaySettings

open Helpers Storage
open Arc (isValidInt stoi)

/-- `Utils::isValidUnsignedInt` -/
def isValidUnsignedInt (x : Text) : Bool := !x.isEmpty && x.all Char.isDigit

/-- `std::stof`; `none` if it throws. For a number that underflows it is up to the C library whether
`errno` is `ERANGE`. -/
def stof (erange : ℚ → Bool) (str : Text) : Option FloatValue :=
  match strtof (cStr str) with
  | none => none
  | some (.infinity negative) => some (.infinity negative)
  | some .nan => some .nan
  | some (.number negative q) =>
      if toFloat negative q = .infinity negative ∨ underflows q = true ∧ erange q = true then none
      else some (toFloat negative q)

/-- What a setter of the device settings library is called with. -/
inductive AudioSetting where
  | volumeLeveller (mode level : ℤ)
  | bassEnhancer (boost : ℤ)
  | surroundVirtualizer (mode boost : ℤ)
  | drcMode (mode : ℤ)
  | faderControl (mixerBalance : ℤ)
  | gain (newGain : FloatValue)
  | level (newLevel : FloatValue)
deriving DecidableEq, Repr

/-- What the device settings library does. -/
structure AudioEnv where
  /-- `getAudioOutputPort` throws. -/
  unknownPort : Text → Bool := fun _ => false
  setterThrows : AudioSetting → Bool := fun _ => false
  getLevelThrows : Bool := false
  hdmiOutPortPresent : Bool := true
  /-- What `getLevel` returns. -/
  level : FloatValue := .nan
  /-- What a float outside of `int` is converted to. -/
  outsideInt : ℤ := 0
  /-- What `String()` gives for a label that is not there. -/
  missing : Text := []

/-- The setters that were called, each on a port or, if that is `none`, on the host; and the level
of `volumeLevelChanged`, if it is sent. -/
structure AudioAnswer where
  success : Bool
  calls : List (Option Text × AudioSetting) := []
  volumeLevelChanged : Option ℤ := none
deriving DecidableEq, Repr

namespace AudioEnv

variable (env : AudioEnv)

def callSetter (port : Option Text) (setting : AudioSetting) : AudioAnswer where
  success := !env.setterThrows setting
  calls := [(port, setting)]

def setOnPort (audioPort : Option Text) (setting : AudioSetting) : AudioAnswer :=
  let port := audioPort.getD "HDMI0".toList
  if env.unknownPort port then { success := false } else env.callSetter (some port) setting

/-- Without an HDMI output the balance is one of the host. -/
def setFader (audioPort : Option Text) (setting : AudioSetting) : AudioAnswer :=
  if env.hdmiOutPortPresent then env.setOnPort audioPort setting else env.callSetter none setting

def toInt (x : FloatValue) : ℤ := x.truncate.getD env.outsideInt

/-- `getLevel` is called before the setter. -/
def setLevel (audioPort : Option Text) (level : FloatValue) : AudioAnswer :=
  let port := audioPort.getD "HDMI0".toList
  if env.unknownPort port = true ∨ env.getLevelThrows = true then { success := false }
  else
    let answer := env.callSetter (some port) (.level level)
    if answer.success = true ∧ env.toInt env.level ≠ env.toInt level then
      { answer with volumeLevelChanged := some (env.toInt level) }
    else answer

end AudioEnv

/-- A method with one parameter that is a number of a form; `none` if an exception leaves it. -/
def setNumber (isValid : Text → Bool) (param : Option Text) (set : ℤ → AudioAnswer) :
    Option AudioAnswer :=
  match param with
  | none => some { success := false }
  | some text =>
      if isValid (cStr text) = false then some { success := false } else (stoi text).map set

/-- Off, on with the number of a second parameter, or auto. -/
def setMode (mode number : Text) (set : ℤ → ℤ → AudioAnswer) : Option AudioAnswer :=
  match stoi mode with
  | none => none
  | some m =>
      if m = 0 then some (set 0 0)
      else if m = 1 then (stoi number).map (set 1)
      else if m = 2 then some (set 2 0)
      else some { success := false }

/-- A method with one parameter that is a float, and what it does not pass on. -/
def setFloat (erange : ℚ → Bool) (isInvalid : FloatValue → Bool) (param : Option Text)
    (set : FloatValue → AudioAnswer) : Option AudioAnswer :=
  match param with
  | none => some { success := false }
  | some text =>
      (stof erange text).map fun x => if isInvalid x then { success := false } else set x

def setVolumeLeveller (level audioPort : Option Text) (env : AudioEnv) : Option AudioAnswer :=
  setNumber isValidUnsignedInt level fun n =>
    env.setOnPort audioPort (.volumeLeveller (if n = 0 then 0 else 1) n)

/-- The mode is checked twice, and the level is not. -/
def setVolumeLeveller2 (mode level audioPort : Option Text) (env : AudioEnv) :
    Option AudioAnswer :=
  match mode with
  | none => some { success := false }
  | some sMode =>
      let sLevel := level.getD env.missing
      if isValidUnsignedInt (cStr sMode) = false ∨ isValidUnsignedInt (cStr sMode) = false then
        some { success := false }
      else setMode sMode sLevel fun m n => env.setOnPort audioPort (.volumeLeveller m n)

def setBassEnhancer (bassBoost audioPort : Option Text) (env : AudioEnv) : Option AudioAnswer :=
  setNumber isValidUnsignedInt bassBoost fun n => env.setOnPort audioPort (.bassEnhancer n)

def setSurroundVirtualizer (boost audioPort : Option Text) (env : AudioEnv) :
    Option AudioAnswer :=
  setNumber isValidUnsignedInt boost fun n =>
    env.setOnPort audioPort (.surroundVirtualizer (if n = 0 then 0 else 1) n)

def setSurroundVirtualizer2 (mode boost audioPort : Option Text) (env : AudioEnv) :
    Option AudioAnswer :=
  match mode with
  | none => some { success := false }
  | some sMode =>
      let sBoost := boost.getD env.missing
      if isValidUnsignedInt (cStr sMode) = false ∨ isValidUnsignedInt (cStr sBoost) = false then
        some { success := false }
      else setMode sMode sBoost fun m n => env.setOnPort audioPort (.surroundVirtualizer m n)

def setDRCMode (DRCMode audioPort : Option Text) (env : AudioEnv) : Option AudioAnswer :=
  setNumber isValidUnsignedInt DRCMode fun n => env.setOnPort audioPort (.drcMode n)

def setFaderControl (mixerBalance audioPort : Option Text) (env : AudioEnv) :
    Option AudioAnswer :=
  setNumber isValidInt mixerBalance fun n => env.setFader audioPort (.faderControl n)

def isInvalidGain (newGain : FloatValue) : Bool := newGain.lt (-2080) || newGain.gt 480

def setGain (erange : ℚ → Bool) (gain audioPort : Option Text) (env : AudioEnv) :
    Option AudioAnswer :=
  setFloat erange isInvalidGain gain fun x => env.setOnPort audioPort (.gain x)

def setVolumeLevel (erange : ℚ → Bool) (volumeLevel audioPort : Option Text) (env : AudioEnv) :
    Option AudioAnswer :=
  setFloat erange (fun _ => false) volumeLevel fun x => env.setLevel audioPort x

end DeviceAndDisplay.DisplaySettings
