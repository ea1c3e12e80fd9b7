import DeviceAndDisplay.Model.DisplaySettings.Arc

/-! # The sound mode

`setSoundMode` for all ports, with the calls of the device settings library that it makes. Without a
port it calls itself, with parameters in which the port has another label. -/

namespace DeviceAndDisplay.DisplaySettings

open Helpers

/-- The labels that `setSoundMode` reads, and `videoDisplay`, which it only writes. -/
structure SoundParams where
  audioPort : Option Text := none
  soundMode : Option Text := none
  persist : Option Bool := none
  videoDisplay : Option Text := none
deriving DecidableEq, Repr

inductive SoundCall where
  | getAudioOutputPort (port : Text)
  | isConnected (port : Text)
  | getType (port : Text)
  | getSurroundMode
  | setStereoAuto (port : Text) (stereoAuto persist : Bool)
  | setStereoMode (port : Text) (mode : AudioStereoMode) (persist : Bool)
deriving DecidableEq, Repr

structure SoundEnv where
  /-- The calls that throw a `device::Exception`. -/
  throws : SoundCall → Bool := fun _ => false
  isConnected : Text → Bool := fun _ => false
  portType : Text → AudioOutputPortType := fun _ => .hdmi
  /-- Of the display of the default video port. -/
  surroundMode : Bool := false
  /-- What `String()` gives for a label that is not there. -/
  missing : Text

/-- The plugin, and the calls that were made, the newest first. -/
structure SoundState where
  arc : Arc
  made : List SoundCall := []

/-- A call of the device settings library; an exception ends what is being done in the state it has
reached. -/
def SoundEnv.call (env : SoundEnv) (c : SoundCall) (s : SoundState) :
    Except SoundState SoundState :=
  let s := { s with made := c :: s.made }
  if env.throws c then .error s else .ok s

namespace SoundState

/-- `setStereoAuto`, and then `setStereoMode`. -/
def setAutoAndMode (port : Text) (stereoAuto : Bool) (mode : AudioStereoMode) (persist : Bool)
    (env : SoundEnv) (s : SoundState) : Except SoundState SoundState := do
  let s ← env.call (.setStereoAuto port stereoAuto persist) s
  env.call (.setStereoMode port mode persist) s

/-- The mode for auto depends on the display. -/
def setHdmiMode (port : Text) (mode : AudioStereoMode) (stereoAuto persist : Bool)
    (env : SoundEnv) (s : SoundState) : Except SoundState SoundState := do
  let s ← env.call (.setStereoAuto port stereoAuto persist) s
  if stereoAuto then
    let s ← env.call .getSurroundMode s
    env.call (.setStereoMode port (if env.surroundMode then .surround else .stereo) persist) s
  else env.call (.setStereoMode port mode persist) s

/-- A mode that an ARC port can be set to. -/
def isArcMode (mode : AudioStereoMode) (stereoAuto : Bool) : Bool :=
  (mode = .surround || mode = .passThru || mode = .stereo) && !stereoAuto

def arcConnected (s : SoundState) : Bool :=
  s.arc.audio.hdmiInAudioDeviceType = .arc && s.arc.link.hdmiInAudioDeviceConnected

def setArcMode (port : Text) (mode : AudioStereoMode) (stereoAuto persist : Bool)
    (env : SoundEnv) (s : SoundState) : Except SoundState SoundState :=
  if isArcMode mode stereoAuto then do
    let s ← env.call (.setStereoAuto port false persist) s
    let s := if s.arcConnected then { s with arc := s.arc.changeSAD mode } else s
    env.call (.setStereoMode port mode persist) s
  else if s.arc.audio.hdmiInAudioDeviceType = .eARC then
    env.call (.setStereoAuto port stereoAuto persist) s
  else if s.arcConnected then
    let s := { s with arc := s.arc.requestSADIf s.arc.sadIdle }
    env.call (.setStereoAuto port stereoAuto persist) s
  else .ok s

def setConnectedMode (port : Text) (mode : AudioStereoMode) (stereoAuto persist : Bool)
    (env : SoundEnv) (s : SoundState) : Except SoundState SoundState :=
  match env.portType port with
  | .hdmi =>
      if mode = .passThru then s.setAutoAndMode port false mode persist env
      else s.setHdmiMode port mode stereoAuto persist env
  | .arc => s.setArcMode port mode stereoAuto persist env
  | .spdif | .headphone =>
      if stereoAuto then env.call (.setStereoAuto port true persist) s
      else s.setAutoAndMode port false mode persist env
  | .other => .ok s

/-- With the success. -/
def setDisconnectedMode (port : Text) (mode : AudioStereoMode) (stereoAuto persist : Bool)
    (env : SoundEnv) (s : SoundState) : Except SoundState (SoundState × Bool) :=
  match env.portType port with
  | .arc => do
      let s ←
        if isArcMode mode stereoAuto then s.setAutoAndMode port false mode persist env
        else env.call (.setStereoAuto port stereoAuto persist) s
      return (s, true)
  | .hdmi => do
      let stereoAuto := if mode = .passThru then false else stereoAuto
      let s ← s.setAutoAndMode port stereoAuto mode persist env
      return (s, true)
  | _ => .ok (s, false)

/-- `setSoundMode` for one port. -/
def setPortMode (port : Text) (mode : AudioStereoMode) (stereoAuto persist : Bool)
    (env : SoundEnv) (s : SoundState) : Except SoundState (SoundState × Bool) := do
  let s ← env.call (.getAudioOutputPort port) s
  let s ← env.call (.isConnected port) s
  let s ← env.call (.getType port) s
  if env.isConnected port then
    let s ← s.setConnectedMode port mode stereoAuto persist env
    return (s, true)
  else s.setDisconnectedMode port mode stereoAuto persist env

/-- What is left of the parameters for one of the ports. -/
def portParams (videoDisplay soundMode : Text) : SoundParams where
  soundMode := some soundMode
  videoDisplay := some videoDisplay

/-- `setSoundMode` with the success that it returns; `none` if the fuel does not suffice for the
calls of itself. -/
def setSoundMode (env : SoundEnv) : ℕ → SoundParams → SoundState → Option (SoundState × Bool)
  | 0, _, _ => none
  | fuel + 1, parameters, s =>
      let audioPort := parameters.audioPort.getD env.missing
      match parameters.soundMode.map fun text => text.map Char.toLower with
      | none => some (s, false)
      | some soundMode =>
          let persist := parameters.persist.getD true
          match Arc.soundModeOf soundMode with
          | none => some (s, true)
          | some (mode, stereoAuto) =>
              let audioPort :=
                if stereoAuto = true ∧ audioPort = [] then "HDMI0".toList else audioPort
              match Arc.checkPortName audioPort with
              | none => some (s, false)
              | some [] => do
                  let (s, _) ← setSoundMode env fuel (portParams "HDMI0".toList soundMode) s
                  let (s, _) ← setSoundMode env fuel (portParams "SPDIF0".toList soundMode) s
                  return (s, true)
              | some port =>
                  match s.setPortMode port mode stereoAuto persist env with
                  | .ok result => some result
                  | .error s => some (s, false)

end SoundState

end DeviceAndDisplay.DisplaySettings

/-! ## Reading the sound mode

`getSoundMode`, and what the calls of `setSoundMode` leave in the ports. -/

namespace DeviceAndDisplay.DisplaySettings

open Helpers

/-- What the device settings library keeps for a port. -/
structure SoundPort where
  stereoAuto : Bool
  stereoMode : AudioStereoMode
deriving DecidableEq, Repr

/-- What a call that does not throw leaves in the ports. -/
def SoundCall.applied (ports : Text → SoundPort) : SoundCall → Text → SoundPort
  | .setStereoAuto port stereoAuto _ =>
      Function.update ports port { ports port with stereoAuto }
  | .setStereoMode port stereoMode _ =>
      Function.update ports port { ports port with stereoMode }
  | _ => ports

/-- The ports after the calls, of which the newest is the first. -/
def portsAfter (env : SoundEnv) (ports : Text → SoundPort) (made : List SoundCall) :
    Text → SoundPort :=
  made.foldr (fun c ports => if env.throws c then ports else c.applied ports) ports

/-- The calls that `getSoundMode` makes for a port. -/
inductive SoundQuery where
  | getAudioOutputPort
  | isConnected
  | getType
  | getStereoAuto
  | getStereoMode
  | getSurroundMode
deriving DecidableEq, Repr

structure SoundReadEnv where
  /-- The calls that throw a `device::Exception`. -/
  throws : SoundQuery → Bool := fun _ => false
  isConnected : Text → Bool := fun _ => false
  portType : Text → AudioOutputPortType := fun _ => .hdmi
  /-- `dsSURROUNDMODE_DDPLUS` in the surround mode of the display of the default video port. -/
  surroundDDPlus : Bool := false
  /-- `dsSURROUNDMODE_DD` in it. -/
  surroundDD : Bool := false
  /-- The display of the default video port is connected. -/
  defaultDisplayConnected : Bool := false
  /-- Whether the display is connected, for each video port. -/
  displaysConnected : List Bool := []
  /-- `AudioStereoMode::toString` -/
  toString : AudioStereoMode → Text

namespace SoundReadEnv

/-- An exception ends what is being done. -/
def ask (env : SoundReadEnv) (query : SoundQuery) : Option Unit :=
  if env.throws query then none else some ()

/-- `name_mappings` -/
def nameMappings : List (Text × Text) :=
  [("Full".toList, "FULL".toList), ("None".toList, "NONE".toList), ("mono".toList, "MONO".toList),
    ("stereo".toList, "STEREO".toList), ("surround".toList, "SURROUND".toList),
    ("unknown".toList, "UNKNOWN".toList)]

def iarm2svc (name : Text) : Text :=
  match nameMappings.find? fun mapping => mapping.1 = cStr name with
  | some mapping => mapping.2
  | none => name

/-- The text for auto on a connected HDMI port. -/
def autoText (env : SoundReadEnv) : Text :=
  if env.surroundDDPlus then "AUTO (Dolby Digital Plus)".toList
  else if env.surroundDD then "AUTO (Dolby Digital 5.1)".toList
  else "AUTO (Stereo)".toList

/-- What is appended for a connected HDMI port. -/
def hdmiText (env : SoundReadEnv) (port : SoundPort) : Option Text := do
  env.ask .getStereoAuto
  if port.stereoAuto = true ∨ port.stereoMode = .surround then
    env.ask .getSurroundMode
    return env.autoText
  else
    match port.stereoMode with
    | .dd => return "DOLBYDIGITAL".toList
    | .ddPlus => return "DOLBYDIGITALPLUS".toList
    | mode => return env.toString mode

def autoOrMode (env : SoundReadEnv) (port : SoundPort) : Text :=
  if port.stereoAuto then "AUTO".toList else env.toString port.stereoMode

def connectedText (env : SoundReadEnv) (type : AudioOutputPortType) (port : SoundPort) :
    Option Text := do
  env.ask .getStereoMode
  env.ask .getType
  match type with
  | .hdmi => env.hdmiText port
  | .arc | .spdif | .headphone =>
      env.ask .getStereoAuto
      return env.autoOrMode port
  | .other => return env.toString port.stereoMode

def disconnectedText (env : SoundReadEnv) (type : AudioOutputPortType) (port : SoundPort) :
    Option Text := do
  env.ask .getType
  match type with
  | .arc =>
      env.ask .getStereoAuto
      if port.stereoAuto = false then env.ask .getStereoMode
      return env.autoOrMode port
  | .hdmi =>
      env.ask .getStereoMode
      env.ask .getStereoAuto
      if port.stereoAuto = true ∨ port.stereoMode = .surround then return "AUTO (Stereo)".toList
      else return env.toString port.stereoMode
  | _ => return env.toString .stereo

/-- `modeString`; there is none if a call throws. -/
def modeString (env : SoundReadEnv) (ports : Text → SoundPort) (audioPort : Text) :
    Option Text := do
  env.ask .getAudioOutputPort
  env.ask .isConnected
  if env.isConnected audioPort then env.connectedText (env.portType audioPort) (ports audioPort)
  else env.disconnectedText (env.portType audioPort) (ports audioPort)

/-- The port for an empty name. -/
def defaultAudioPort (env : SoundReadEnv) : Text :=
  if env.defaultDisplayConnected then "HDMI0".toList
  else if env.displaysConnected.any id then "SPDIF0".toList
  else "HDMI0".toList

/-- `getSoundMode` with the text of `soundMode`; the success is always `true`. -/
def getSoundMode (env : SoundReadEnv) (ports : Text → SoundPort) (audioPort : Text) : Text :=
  let audioPort :=
    match Arc.checkPortName audioPort with
    | none => "HDMI0".toList
    | some [] => env.defaultAudioPort
    | some port => port
  iarm2svc ((env.modeString ports audioPort).getD (env.toString .stereo))

end SoundReadEnv

end DeviceAndDisplay.DisplaySettings
