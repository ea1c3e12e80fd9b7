import DeviceAndDisplay.Model.Helpers.Settings
import Mathlib.Logic.Function.Basic

/-! # The display caches

`isDisplayConnected` and `getCurrentResolution` with the two values that they keep for all ports,
and the events that invalidate them. -/

namespace DeviceAndDisplay.DisplaySettings

open Helpers

/-- What the video ports report; `none` if there is no port of the name. -/
structure VideoOutputPorts where
  isDisplayConnected : Text → Option Bool
  /-- The name of `getResolution`. -/
  resolution : Text → Option Text
  defaultVideoPortName : Text

def VideoOutputPorts.setConnected (port : Text) (isConnected : Bool) (ports : VideoOutputPorts) :
    VideoOutputPorts :=
  { ports with
    isDisplayConnected := Function.update ports.isDisplayConnected port (some isConnected) }

def VideoOutputPorts.setResolution (port name : Text) (ports : VideoOutputPorts) :
    VideoOutputPorts :=
  { ports with resolution := Function.update ports.resolution port (some name) }

/-- `Utils::String::stringContains`, which does not tell upper from lower case. -/
def stringContains (s1 s2 : Text) : Bool :=
  decide (s2.map Char.toUpper <:+: s1.map Char.toUpper)

/-- The port whose state `isDisplayConnected` takes from the cache, by its name. -/
def hdmi0 : Text := "HDMI0".toList

/-- The static variables of the plugin. -/
structure DisplayCache where
  isResCacheUpdated : Bool := false
  currentResolutionCache : Text := []
  isDisplayConnectedCacheUpdated : Bool := false
  isHdmiDisplayConnected : Bool := false
deriving DecidableEq, Repr

structure Resolution where
  resolution : Text
  w : ℕ
  h : ℕ
  progressive : Bool
deriving DecidableEq, Repr

namespace DisplayCache

/-- `isDisplayConnected`; `none` if the port raises an exception. -/
def isDisplayConnected (ports : VideoOutputPorts) (port : Text) (c : DisplayCache) :
    Option Bool × DisplayCache :=
  if c.isDisplayConnectedCacheUpdated = false ∨ stringContains port hdmi0 = false then
    match ports.isDisplayConnected port with
    | none => (none, c)
    | some isConnected => (some isConnected, { c with
        isHdmiDisplayConnected := isConnected
        isDisplayConnectedCacheUpdated := true })
  else
    (some c.isHdmiDisplayConnected, c)

/-- The sizes by how the name begins, in the order they are tested. -/
def sizes : List (Text × ℕ × ℕ) :=
  [("480".toList, 720, 480), ("576".toList, 720, 576), ("720".toList, 1280, 720),
    ("768".toList, 1366, 768), ("1080".toList, 1920, 1080), ("2160".toList, 3840, 2160),
    ("4096x2160".toList, 4096, 2160)]

def describe (res : Text) : Resolution :=
  let (w, h) := ((sizes.find? fun size => size.1.isPrefixOf res).map Prod.snd).getD (1280, 720)
  { resolution := res, w := w, h := h, progressive := res.contains 'p' }

/-- `getCurrentResolution`; `none` if the request fails. -/
def getCurrentResolution (ports : VideoOutputPorts) (videoDisplay : Option Text)
    (c : DisplayCache) : Option Resolution × DisplayCache :=
  if c.isResCacheUpdated = false then
    match ports.resolution (videoDisplay.getD ports.defaultVideoPortName) with
    | none => (none, c)
    | some res => (some (describe res), { c with
        currentResolutionCache := res
        isResCacheUpdated := true })
  else
    (some (describe c.currentResolutionCache), c)

/-- What `OnDisplayHDMIHotPlug` and a change to the power state ON do. -/
def invalidate (c : DisplayCache) : DisplayCache :=
  { c with isResCacheUpdated := false, isDisplayConnectedCacheUpdated := false }

end DisplayCache

/-- The ports, the caches, and the changes of which the plugin has not been told yet. -/
structure Display where
  ports : VideoOutputPorts
  cache : DisplayCache := {}
  /-- How many changes of a connection are not followed by their `OnDisplayHDMIHotPlug` yet. -/
  unannounced : ℕ := 0
  /-- The resolution changes between `OnResolutionPreChange` and `OnResolutionPostChange`: whether
  the resolution has changed. -/
  resolutionChanges : List Bool := []

/-- A query stands for every call of the function, also those of events and of other methods. -/
inductive DisplayAction where
  | isDisplayConnected (port : Text)
  | getCurrentResolution (videoDisplay : Option Text)
  | changeConnection (port : Text) (isConnected : Bool)
  | onDisplayHDMIHotPlug
  | onResolutionPreChange
  | changeResolution (i : ℕ) (port name : Text)
  | onResolutionPostChange (i : ℕ)
  | onPowerModeChanged (on : Bool)
deriving DecidableEq, Repr

def displayStep (d : Display) : DisplayAction → Option Display
  | .isDisplayConnected port => some { d with cache := (d.cache.isDisplayConnected d.ports port).2 }
  | .getCurrentResolution videoDisplay =>
      some { d with cache := (d.cache.getCurrentResolution d.ports videoDisplay).2 }
  | .changeConnection port isConnected =>
      (d.ports.isDisplayConnected port).map fun _ =>
        { d with
          ports := d.ports.setConnected port isConnected
          unannounced := d.unannounced + 1 }
  | .onDisplayHDMIHotPlug =>
      some { d with cache := d.cache.invalidate, unannounced := d.unannounced - 1 }
  | .onResolutionPreChange =>
      some { d with
        cache := { d.cache with isResCacheUpdated := false }
        resolutionChanges := d.resolutionChanges ++ [false] }
  | .changeResolution i port name =>
      if i < d.resolutionChanges.length then
        (d.ports.resolution port).map fun _ =>
          { d with
            ports := d.ports.setResolution port name
            resolutionChanges := d.resolutionChanges.set i true }
      else none
  | .onResolutionPostChange i =>
      if i < d.resolutionChanges.length then
        some { d with resolutionChanges := d.resolutionChanges.eraseIdx i }
      else none
  | .onPowerModeChanged on => some { d with cache := if on then d.cache.invalidate else d.cache }

end DeviceAndDisplay.DisplaySettings
