import DeviceAndDisplay.Model.Helpers.Settings
import Mathlib.Logic.Function.Basic

/-! # Muting audio ports

`setMuted`, with the state of the ports in the device settings library and the static variable that
remembers the last value. -/

namespace DeviceAndDisplay.DisplaySettings

open Helpers

/-- The parameters; `none` if the label is missing. -/
structure MuteRequest where
  /-- What `Boolean()` makes of the value. -/
  muted : Option Bool
  audioPort : Option Text := none
deriving DecidableEq, Repr

/-- The calls that throw a `device::Exception`. -/
structure MuteEnv where
  booleanThrows : Bool := false
  getPortThrows : Bool := false
  setMutedThrows : Bool := false
deriving DecidableEq, Repr

inductive MuteCall where
  | muteStatusChanged (muted : Bool)
  | returnResponse (success : Bool)
deriving DecidableEq, Repr

structure MutedPorts where
  /-- What the library has for a port. -/
  isMuted : Text → Bool := fun _ => false
  cacheMuted : Bool := false
  /-- What was put out, the newest first. -/
  calls : List MuteCall := []

namespace MutedPorts

def call (c : MuteCall) (s : MutedPorts) : MutedPorts := { s with calls := c :: s.calls }

/-- `sendNotify`, if the value is not the one that is remembered. -/
def notify (muted : Bool) (s : MutedPorts) : MutedPorts :=
  if s.cacheMuted ≠ muted then
    ({ s with cacheMuted := muted } : MutedPorts).call (.muteStatusChanged muted)
  else s

end MutedPorts

/-- The port that a request is for. -/
def MuteRequest.port (parameters : MuteRequest) : Text :=
  parameters.audioPort.getD ['H', 'D', 'M', 'I', '0']

/-- `setMuted`; a call that throws changes no port. -/
def MutedPorts.setMuted (parameters : MuteRequest) (env : MuteEnv) (s : MutedPorts) :
    MutedPorts :=
  match parameters.muted with
  | none => s.call (.returnResponse false)
  | some muted =>
      if env.booleanThrows then s.call (.returnResponse false)
      else if env.getPortThrows ∨ env.setMutedThrows then s.call (.returnResponse false)
      else
        let s := { s with isMuted := Function.update s.isMuted parameters.port muted }
        (s.notify muted).call (.returnResponse true)

def muteStep (s : MutedPorts) (a : MuteEnv × MuteRequest) : Option MutedPorts :=
  some (s.setMuted a.2 a.1)

end DeviceAndDisplay.DisplaySettings
