import DeviceAndDisplay.Model.DisplayInfo.Edid
import DeviceAndDisplay.Model.DisplayInfo.KmsSetup
import DeviceAndDisplay.Storage.Bytes
import DeviceAndDisplay.Storage.Text

/-! # UdevObserverType

The datagrams of udev and the callbacks for device types, of the Linux platform. A callback is known
by its device type. The words of a header are little-endian. -/

namespace DeviceAndDisplay.DisplayInfo

open Storage

/-- The bytes of a literal. -/
def ascii (text : String) : Bytes := text.toList.map fun c => .ofNat c.toNat

/-- `udev_monitor_netlink_header`, as far as it is read. -/
structure UdevMonitorNetlinkHeader where
  propertiesOff : UInt32
  propertiesLen : UInt32
  filterTagBloomHi : UInt32
  filterTagBloomLo : UInt32
deriving DecidableEq, Repr

/-- The `sizeof` of the header. -/
def headerSize : ℕ := 40

def readHeader (dataFrame : Bytes) : UdevMonitorNetlinkHeader where
  propertiesOff := readWord (dataFrame.drop 16)
  propertiesLen := readWord (dataFrame.drop 20)
  filterTagBloomHi := readWord (dataFrame.drop 32)
  filterTagBloomLo := readWord (dataFrame.drop 36)

namespace UdevObserver

/-- `Register` for another callback of the type has no effect. -/
def register (devtype : Bytes) (callbacks : List Bytes) : Bool × List Bytes :=
  if devtype ∈ callbacks then (false, callbacks) else (true, callbacks ++ [devtype])

/-- `GetMessageValues`, for the memory from `values` on; `none` if a string does not end there. -/
def getMessageValues (values : Bytes) (size : ℕ) : Option (List Bytes) :=
  readBlock 0 size size values

/-- `ReceiveData` with the types of the callbacks that are called; `dataFrame` is the whole receive
buffer, and `none` means that something behind it is read. -/
def receiveData (callbacks : List Bytes) (dataFrame : Bytes) : Option (List Bytes) :=
  if dataFrame.length < headerSize then none
  else
    let header := readHeader dataFrame
    if header.filterTagBloomHi = 0 ∧ header.filterTagBloomLo = 0 then do
      let values ← getMessageValues (dataFrame.drop header.propertiesOff.toNat)
        header.propertiesLen.toNat
      return callbacks.filter fun devtype => ascii "DEVTYPE=" ++ devtype ∈ values
    else some []

end UdevObserver

end DeviceAndDisplay.DisplayInfo

/-! ## Updates of the display properties

The way of an event of udev, on the Linux platform: the callbacks post it into the event queue, whose
thread reads the properties of the display again. -/

namespace DeviceAndDisplay.DisplayInfo

open Storage

inductive HDCPProtectionType where
  | hdcpUnencrypted
  | hdcp1x
  | hdcp2x
deriving DecidableEq, Repr

/-- The files and the device that are read when the properties are queried. -/
structure DisplayEnv where
  /-- The first line of the node; empty if it cannot be opened. -/
  hdcpLevel : List Char := []
  /-- The answers for the connectors; none if the device cannot be opened. -/
  connectors : List (Option DrmModeConnector) := []
  edid : EdidQuery

/-- `DisplayProperties` -/
structure DisplayProperties where
  usePreferredMode : Bool := false
  drmConnector : DRMConnector := {}
  edid : Bytes := []
  hdcpLevel : HDCPProtectionType := .hdcpUnencrypted
deriving DecidableEq, Repr

/-- `DRM_MODE_CONNECTOR_HDMIA` -/
def drmModeConnectorHdmia : UInt32 := 11

/-- What `Reauthenticate` makes of the line. -/
def hdcpProtection (hdcpStr : List Char) : HDCPProtectionType :=
  if (find "succeed".toList hdcpStr).isSome then
    if (find "22".toList hdcpStr).isSome then .hdcp2x
    else if (find "14".toList hdcpStr).isSome then .hdcp1x
    else .hdcpUnencrypted
  else .hdcpUnencrypted

namespace DisplayProperties

def reauthenticate (env : DisplayEnv) (display : DisplayProperties) : DisplayProperties :=
  { display with hdcpLevel := hdcpProtection env.hdcpLevel }

/-- There is no result where the areas of the modes overflow. -/
def queryDisplayProperties (env : DisplayEnv) (display : DisplayProperties) :
    Option DisplayProperties :=
  (DisplayInfo.drmConnector env.connectors drmModeConnectorHdmia display.usePreferredMode).map
    fun connector => { display with drmConnector := connector }

def requeryProperties (env : DisplayEnv) (display : DisplayProperties) :
    Option DisplayProperties := do
  let display ← display.queryDisplayProperties env
  let display := display.reauthenticate env
  return { display with edid := queryEdid display.edid env.edid }

end DisplayProperties

/-- `INotification::Source`, as far as it is posted. -/
inductive Source where
  | hdcpChange
  | hdmiChange
deriving DecidableEq, Repr

/-- What `_callback` posts. -/
def Source.ofDevtype (devtype : Bytes) : Source :=
  if devtype = ascii "hdcp" then .hdcpChange else .hdmiChange

/-- The registrations of the constructor. -/
def displayCallbacks : List Bytes :=
  (UdevObserver.register (ascii "hdcp") (UdevObserver.register (ascii "drm_minor") []).2).2

/-- Where the thread of the event queue is in `Worker`. -/
inductive WorkerPlace where
  /-- It is not in the function. -/
  | outside
  /-- In `_arrived.Lock()`. -/
  | waiting
  | beforeReset
  | beforeExtract
  | handling (eventType : Source)
deriving DecidableEq, Repr

/-- `DisplayInfoImplementation` after `Configure`, with the sources that the socket thread has still
to post for its datagram. -/
structure DisplayUpdates where
  display : DisplayProperties
  toPost : List Source := []
  /-- An event is in the queue, for which `SetEvent` is not called yet. -/
  toSet : Bool := false
  eventQueue : List Source := []
  arrived : Bool := false
  worker : WorkerPlace := .outside
deriving DecidableEq, Repr

inductive UpdateAction where
  /-- `ReceiveData`, for the receive buffer. -/
  | receiveData (dataFrame : Bytes)
  /-- `_eventQueue.Post(type)` with its result. -/
  | post (posted : Bool)
  | setEvent
  /-- The thread calls `Worker`. -/
  | callWorker
  /-- `Lock` returns. -/
  | lock
  | resetEvent
  | extract
  /-- The event is handled, and `Worker` returns. -/
  | handle (env : DisplayEnv)

namespace DisplayUpdates

def handle (env : DisplayEnv) (eventType : Source) (display : DisplayProperties) :
    Option DisplayProperties :=
  match eventType with
  | .hdcpChange => some (display.reauthenticate env)
  | .hdmiChange => display.requeryProperties env

def step (u : DisplayUpdates) : UpdateAction → Option DisplayUpdates
  | .receiveData dataFrame =>
      if u.toPost = [] ∧ u.toSet = false then
        (UdevObserver.receiveData displayCallbacks dataFrame).map fun devtypes =>
          { u with toPost := devtypes.map Source.ofDevtype }
      else none
  | .post posted =>
      match u.toPost, u.toSet with
      | type :: toPost, false =>
          if posted then
            some { u with toPost := toPost, eventQueue := u.eventQueue ++ [type], toSet := true }
          else some { u with toPost := toPost }
      | _, _ => none
  | .setEvent => if u.toSet then some { u with toSet := false, arrived := true } else none
  | .callWorker => if u.worker = .outside then some { u with worker := .waiting } else none
  | .lock =>
      if u.worker = .waiting ∧ u.arrived = true then some { u with worker := .beforeReset }
      else none
  | .resetEvent =>
      if u.worker = .beforeReset then some { u with arrived := false, worker := .beforeExtract }
      else none
  | .extract =>
      match u.worker, u.eventQueue with
      | .beforeExtract, eventType :: eventQueue =>
          some { u with eventQueue := eventQueue, worker := .handling eventType }
      | _, _ => none
  | .handle env =>
      match u.worker with
      | .handling eventType =>
          (handle env eventType u.display).map fun display =>
            { u with display := display, worker := .outside }
      | _ => none

end DisplayUpdates

end DeviceAndDisplay.DisplayInfo
