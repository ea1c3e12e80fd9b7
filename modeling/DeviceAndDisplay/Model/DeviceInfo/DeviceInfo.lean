import DeviceAndDisplay.Model.Helpers.Settings
import DeviceAndDisplay.Pattern.Greedy
import DeviceAndDisplay.Storage.Numeral

/-! # Device information

The properties that are looked up in `device.properties` and `authService.conf`, and the addresses
of the network interfaces. -/

namespace DeviceAndDisplay.DeviceInfo

open Helpers Pattern Storage

inductive ErrorCode where
  | errorNone
  | errorGeneral
deriving DecidableEq, Repr

/-- The types of the data that are asked from the MFR library. -/
inductive MfrSerializedType where
  | modelName
  | manufacturer
  | provisionedModelName
deriving DecidableEq, Repr

/-- The files, which are `none` if they cannot be opened, and the answers of the MFR library and of
RFC, which are `none` if they fail or are empty. -/
structure DeviceEnv where
  deviceProperties : Option Text := none
  authService : Option Text := none
  mfr : MfrSerializedType → Option Text := fun _ => none
  rfc : Text → Option Text := fun _ => none

/-! ### Sources of a value -/

/-- `^KEY(?:\s*)=(?:\s*)(?:"{0,1})([^"\n]+)(?:"{0,1})(?:\s*)$` -/
def propertyPattern (key : Text) : Regex Char :=
  .sequence [.first, .literal key, .star isSpace, .one (· == '='), .star isSpace,
    .perhaps (· == '"'), .group 1 (.plus fun c => c != '"' && c != '\n'), .perhaps (· == '"'),
    .star isSpace, .last]

/-- The lines of a file, which has none if it cannot be opened. -/
def fileLines (file : Option Text) : List Text := (file.map (readParts '\n')).getD []

/-- `sm[1]` -/
def submatch (sm : Cursor Char) : Text := (sm.groups.lookup 1).getD []

/-- `GetFileRegex`; the result is paired with what `response` is afterwards. -/
def getFileRegex (file : Option Text) (regex : Regex Char) (response : Text) : ErrorCode × Text :=
  match (fileLines file).findSome? regex.fullMatch with
  | some sm => (.errorNone, submatch sm)
  | none => (.errorGeneral, response)

/-- What `GetMFRData` and `GetRFCData` make of an answer. -/
def getData (answer : Option Text) (response : Text) : ErrorCode × Text :=
  match answer with
  | some value => (.errorNone, value)
  | none => (.errorGeneral, response)

def getMFRData (env : DeviceEnv) (type : MfrSerializedType) (response : Text) :
    ErrorCode × Text :=
  getData (env.mfr type) response

def getRFCData (env : DeviceEnv) (name response : Text) : ErrorCode × Text :=
  getData (env.rfc name) response

/-- `a == ERROR_NONE ? ERROR_NONE : b`, where both fill the same response. -/
def orElse (a : ErrorCode × Text) (b : Text → ErrorCode × Text) : ErrorCode × Text :=
  if a.1 = .errorNone then a else b a.2

/-! ### Properties -/

def sku (env : DeviceEnv) (response : Text) : ErrorCode × Text :=
  orElse (getFileRegex env.deviceProperties (propertyPattern "MODEL_NUM".toList) response) fun r =>
    orElse (getMFRData env .modelName r) (getRFCData env "Device.DeviceInfo.ModelName".toList)

def make (env : DeviceEnv) (response : Text) : ErrorCode × Text :=
  orElse (getMFRData env .manufacturer response)
    (getFileRegex env.deviceProperties (propertyPattern "MFG_NAME".toList))

def friendlyId (env : DeviceEnv) (response : Text) : ErrorCode × Text :=
  getFileRegex env.deviceProperties (propertyPattern "FRIENDLY_ID".toList) response

def model (env : DeviceEnv) (response : Text) : ErrorCode × Text :=
  let (result, deviceName) :=
    getFileRegex env.deviceProperties (propertyPattern "DEVICE_NAME".toList) []
  if result = .errorNone ∧ (deviceName = "PLATCO".toList ∨ deviceName = "LLAMA".toList) then
    orElse (getMFRData env .provisionedModelName response) (friendlyId env)
  else friendlyId env response

def socName (env : DeviceEnv) (response : Text) : ErrorCode × Text :=
  getFileRegex env.deviceProperties (propertyPattern "SOC".toList) response

inductive DeviceTypeInfo where
  | ipTv
  | ipStb
  | qamIpStb
deriving DecidableEq, Repr

def ipTvName : Text := ['I', 'p', 'T', 'v']

def ipStbName : Text := ['I', 'p', 'S', 't', 'b']

def qamIpStbName : Text := ['Q', 'a', 'm', 'I', 'p', 'S', 't', 'b']

def stringToDeviceType (deviceTypeInfo : Text) : Option DeviceTypeInfo :=
  if deviceTypeInfo = ipTvName then some .ipTv
  else if deviceTypeInfo = ipStbName then some .ipStb
  else if deviceTypeInfo = qamIpStbName then some .qamIpStb
  else none

def mediaclient : Text := ['m', 'e', 'd', 'i', 'a', 'c', 'l', 'i', 'e', 'n', 't']

def hybrid : Text := ['h', 'y', 'b', 'r', 'i', 'd']

/-- The conversion of a `DEVICE_TYPE`; `strcmp` reads it up to a NUL. -/
def convertDeviceType (deviceType : Text) : Text :=
  if cStr deviceType = mediaclient then ipStbName
  else if cStr deviceType = hybrid then qamIpStbName
  else ipTvName

def deviceTypeKey : Text := ['d', 'e', 'v', 'i', 'c', 'e', 'T', 'y', 'p', 'e']

def deviceTypeProperty : Text := ['D', 'E', 'V', 'I', 'C', 'E', '_', 'T', 'Y', 'P', 'E']

/-- `DeviceType`; the output is `none` if it is not assigned. -/
def deviceType (env : DeviceEnv) : ErrorCode × Option DeviceTypeInfo :=
  let (result, deviceTypeInfo) := getFileRegex env.authService (propertyPattern deviceTypeKey) []
  if result ≠ .errorNone then
    let (result, deviceTypeInfo) :=
      getFileRegex env.deviceProperties (propertyPattern deviceTypeProperty) deviceTypeInfo
    if result = .errorNone then (result, stringToDeviceType (convertDeviceType deviceTypeInfo))
    else (result, stringToDeviceType deviceTypeInfo)
  else (result, stringToDeviceType deviceTypeInfo)

/-! ### Addresses -/

/-- A network interface, with its IPv4 addresses in the order in which they are listed. -/
structure Adapter (ν : Type*) where
  name : Text
  macAddress : Text
  ipv4Addresses : List ν
deriving DecidableEq, Repr

structure AddressesInfo where
  name : Text
  ip : Text
  mac : Text
deriving DecidableEq, Repr

variable {ν : Type*} (hostAddress : ν → Text)

/-- One pass of the loop over the interfaces: `nodeName`, and the entries so far. -/
def addAddress (found : Text × List AddressesInfo) (interface : Adapter ν) :
    Text × List AddressesInfo :=
  let nodeName :=
    interface.ipv4Addresses.foldl (fun _ selectedNode => hostAddress selectedNode) found.1
  (nodeName, found.2 ++ [⟨interface.name, nodeName, interface.macAddress⟩])

def addresses (interfaces : List (Adapter ν)) : ErrorCode × List AddressesInfo :=
  (.errorNone, (interfaces.foldl (addAddress hostAddress) ([], [])).2)

end DeviceAndDisplay.DeviceInfo
