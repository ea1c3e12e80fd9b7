import Mathlib.Data.Nat.Notation
import Mathlib.Logic.Function.Basic

/-! # The network standby mode that SystemServices caches

`getNetworkStandbyMode`, `setNetworkStandbyMode` and `onNetworkModeChanged` on any number of
threads, with the mode of PowerManager and its notifications on their way. -/

namespace DeviceAndDisplay.SystemServices

abbrev ThreadId := ℕ

/-- What a thread does next in `getNetworkStandbyMode` or `setNetworkStandbyMode`. -/
inductive StandbyModeCall where
  | idle
  /-- The getter found the cache invalid. -/
  | callGet
  /-- The getter has the answer of PowerManager. -/
  | writeCache (nwStandby : Bool)
  | callSet (bStandbyMode : Bool)
  /-- The setter was told `ERROR_NONE`. -/
  | invalidate
deriving DecidableEq, Repr

/-- What a call returns: `nwStandby` is left out by the setter. -/
structure StandbyModeResponse where
  nwStandby : Option Bool
  success : Bool
deriving DecidableEq, Repr

structure StandbyModeCache where
  networkStandbyMode : Bool
  networkStandbyModeValid : Bool := false
  /-- The mode PowerManager reports. -/
  powerManagerMode : Bool
  /-- The notifications that are not delivered yet, the oldest one first. -/
  undelivered : List Bool := []
  threads : ThreadId → StandbyModeCall := fun _ => .idle
  responses : List (ThreadId × StandbyModeResponse) := []

inductive StandbyModeAction where
  | getNetworkStandbyMode (t : ThreadId)
  /-- `nwStandby` is `none` if the parameter is missing. -/
  | setNetworkStandbyMode (t : ThreadId) (nwStandby : Option Bool)
  /-- The next step of a call; `success` is the answer of PowerManager if the step calls it. -/
  | proceed (t : ThreadId) (success : Bool)
  /-- Another client changes the mode. -/
  | powerManagerChange (mode : Bool)
  | onNetworkModeChanged
deriving DecidableEq, Repr

namespace StandbyModeCache

def goTo (t : ThreadId) (call : StandbyModeCall) (s : StandbyModeCache) : StandbyModeCache :=
  { s with threads := Function.update s.threads t call }

def respond (t : ThreadId) (nwStandby : Option Bool) (success : Bool) (s : StandbyModeCache) :
    StandbyModeCache :=
  { s.goTo t .idle with responses := (t, ⟨nwStandby, success⟩) :: s.responses }

/-- A change of the mode in PowerManager, with its notification. -/
def change (mode : Bool) (s : StandbyModeCache) : StandbyModeCache :=
  { s with powerManagerMode := mode, undelivered := s.undelivered ++ [mode] }

/-- The first step of `getNetworkStandbyMode`. -/
def readCache (t : ThreadId) (s : StandbyModeCache) : StandbyModeCache :=
  if s.networkStandbyModeValid then s.respond t (some s.networkStandbyMode) true
  else s.goTo t .callGet

/-- The steps of the two calls after their first one. -/
def proceed (t : ThreadId) (success : Bool) (s : StandbyModeCache) : Option StandbyModeCache :=
  match s.threads t with
  | .idle => none
  | .callGet =>
      if success then some (s.goTo t (.writeCache s.powerManagerMode))
      else some (s.respond t (some false) false)
  | .writeCache nwStandby =>
      some ({ s with networkStandbyMode := nwStandby, networkStandbyModeValid := true }.respond t
        (some nwStandby) true)
  | .callSet bStandbyMode =>
      if success then some ((s.change bStandbyMode).goTo t .invalidate)
      else some (s.respond t none false)
  | .invalidate => some ({ s with networkStandbyModeValid := false }.respond t none true)

/-- `onNetworkModeChanged`, for the oldest notification. -/
def onNetworkModeChanged (s : StandbyModeCache) : Option StandbyModeCache :=
  match s.undelivered with
  | [] => none
  | bNetworkStandbyMode :: undelivered =>
      some { s with
        networkStandbyMode := bNetworkStandbyMode
        networkStandbyModeValid := true
        undelivered := undelivered }

end StandbyModeCache

def standbyModeStep (s : StandbyModeCache) : StandbyModeAction → Option StandbyModeCache
  | .getNetworkStandbyMode t => if s.threads t = .idle then some (s.readCache t) else none
  | .setNetworkStandbyMode t nwStandby =>
      if s.threads t = .idle then
        match nwStandby with
        | none => some (s.respond t none false)
        | some bStandbyMode => some (s.goTo t (.callSet bStandbyMode))
      else
        none
  | .proceed t success => s.proceed t success
  | .powerManagerChange mode => some (s.change mode)
  | .onNetworkModeChanged => s.onNetworkModeChanged

end DeviceAndDisplay.SystemServices
