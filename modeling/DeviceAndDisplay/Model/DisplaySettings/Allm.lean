import DeviceAndDisplay.Model.DisplaySettings.DisplayCache
import DeviceAndDisplay.Model.SystemMode.SystemModeImplementation

/-! # ALLM

What `DisplaySettings` signals to displays: `Request`, which `SystemMode` calls, and
`connectedVideoDisplaysUpdated`, which looks into the file of the system mode. -/

namespace DeviceAndDisplay.DisplaySettings

open Helpers

/-- `dsAviContentType_t` -/
inductive AviContentType where
  | notSignalled
  | game
  | other (value : ℕ)
deriving DecidableEq, Repr

/-- `dsAVIScanInformation_t` -/
inductive AviScanInformation where
  | noData
  | underscan
  | other (value : ℕ)
deriving DecidableEq, Repr

/-- What is signalled to the display at a port. -/
structure VideoDisplay where
  aviContentType : AviContentType
  aviScanInformation : AviScanInformation
  allmEnabled : Bool
deriving DecidableEq, Repr

structure VideoPort where
  name : Text
  isDisplayConnected : Bool
  display : VideoDisplay
deriving DecidableEq, Repr

/-- The ports as `isDisplayConnected` finds them. -/
def reported (ports : List VideoPort) : VideoOutputPorts where
  isDisplayConnected name :=
    (ports.find? fun port => port.name = name).map VideoPort.isDisplayConnected
  resolution _ := none
  defaultVideoPortName := []

/-- `strncasecmp(displayName.c_str(), "hdmi", 4) == 0` -/
def isHdmi (displayName : Text) : Bool :=
  (displayName.take 4).map Char.toLower = ['h', 'd', 'm', 'i']

/-- The calls for a display that `Request` makes; only so many of them do not throw. -/
def VideoDisplay.signal (newState : Text) (calls : ℕ) (display : VideoDisplay) : VideoDisplay :=
  let enable : Bool := newState = SystemMode.game
  let display := if 1 ≤ calls then
      { display with aviContentType := if enable then .game else .notSignalled }
    else display
  let display := if 2 ≤ calls then
      { display with aviScanInformation := if enable then .underscan else .noData }
    else display
  if 3 ≤ calls then { display with allmEnabled := enable } else display

structure VideoPorts where
  ports : List VideoPort
  cache : DisplayCache := {}
  /-- The static variables of `connectedVideoDisplaysUpdated`. -/
  previousStatus : ℤ := 0
  firstTime : Bool := true
  /-- The events `connectedVideoDisplaysUpdated`, oldest first. -/
  notified : List (List Text) := []

namespace VideoPorts

/-- The loop of `getConnectedVideoDisplaysHelper`. -/
def connectedDisplays (all : VideoOutputPorts) :
    List VideoPort → List Text → DisplayCache → List Text × DisplayCache
  | [], displays, c => (displays, c)
  | port :: ports, displays, c =>
      match c.isDisplayConnected all port.name with
      | (none, c) => (displays, c)
      | (some false, c) => connectedDisplays all ports displays c
      | (some true, c) =>
          if isHdmi port.name then ([port.name], c)
          else
            -- `vectorSet`
            connectedDisplays all ports
              (if port.name ∈ displays then displays else displays ++ [port.name]) c

def getConnectedVideoDisplaysHelper (d : VideoPorts) : List Text × DisplayCache :=
  connectedDisplays (reported d.ports) d.ports [] d.cache

/-- A round of the loop of `Request`. -/
def requestAt (newState : Text) (calls : Text → ℕ) (d : VideoPorts) (strVideoPort : Text) :
    VideoPorts :=
  if ∃ port ∈ d.ports, port.name = strVideoPort then
    match d.cache.isDisplayConnected (reported d.ports) strVideoPort with
    | (some true, c) =>
        { d with
          cache := c
          ports := d.ports.map fun port =>
            if port.name = strVideoPort then
              { port with display := port.display.signal newState (calls strVideoPort) }
            else port }
    | (_, c) => { d with cache := c }
  else d

/-- `Request`: whether it returns `ERROR_NONE`, and the displays. -/
def request (newState : Text) (calls : Text → ℕ) (d : VideoPorts) : Bool × VideoPorts :=
  let (connectedDisplays, c) := d.getConnectedVideoDisplaysHelper
  (connectedDisplays ≠ [],
    connectedDisplays.foldl (requestAt newState calls) { d with cache := c })

/-- `connectedVideoDisplaysUpdated`, with the file of the system mode. -/
def connectedVideoDisplaysUpdated (file : Option Text) (calls : Text → ℕ) (hdmiHotPlugEvent : ℤ)
    (d : VideoPorts) : VideoPorts :=
  let d := if d.firstTime = true ∨ d.previousStatus ≠ hdmiHotPlugEvent then
      { d with
        firstTime := false
        notified := d.notified ++ [if hdmiHotPlugEvent = 0 then [hdmi0] else []] }
    else d
  let d := { d with previousStatus := hdmiHotPlugEvent }
  let currentAllmState := (SystemMode.getSystemModePropertyValue SystemMode.deviceOptimize
    SystemMode.currentstate file).getD []
  if currentAllmState = SystemMode.video ∨ currentAllmState = SystemMode.game then
    (d.request currentAllmState calls).2
  else d

def onDisplayHDMIHotPlug (file : Option Text) (calls : Text → ℕ) (displayEvent : ℤ)
    (d : VideoPorts) : VideoPorts :=
  { d with cache := d.cache.invalidate }.connectedVideoDisplaysUpdated file calls displayEvent

end VideoPorts

end DeviceAndDisplay.DisplaySettings
