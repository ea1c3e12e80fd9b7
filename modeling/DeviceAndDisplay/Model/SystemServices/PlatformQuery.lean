import DeviceAndDisplay.Model.SystemServices.PlatformCaps
import DeviceAndDisplay.Pattern.Greedy

/-! # Queries of the platform capabilities

All members of the answer of `PlatformCaps::Load`, with what the accessors of `PlatformCapsData`
return to a call. -/

namespace DeviceAndDisplay.SystemServices

open Helpers Pattern

/-- What the accessors return. A map is the list of its entries. -/
structure PlatformCapsData where
  getAccountId : Text
  getX1DeviceId : Text
  xcalSessionTokenAvailable : Bool
  getExperience : Text
  getDdeviceMACAddress : Text
  getFirmwareUpdateDisabled : Bool
  getQuirks : List Text
  addDashExclusionList : List (Text × List Text)
  deviceCapsFeatures : List (Text × UInt8)
  getMimeTypes : List Text
  getModel : Text
  getDeviceType : Text
  supportsTrueSD : Bool
  /-- The type, the version and the user agent. -/
  getBrowser : Text × Text × Text
  getHDRCapability : Text
  canMixPCMWithSurround : Bool
  getPublicIP : Text
deriving Inhabited

/-- The elements of the answer. -/
inductive CapsValue where
  | string (value : Text)
  | boolean (value : Bool)
  | strings (values : List Text)
  | stringLists (entries : List (Text × List Text))
  | numbers (entries : List (Text × UInt8))
  | webBrowser (browserType version userAgent : Text)
deriving DecidableEq, Repr

/-- A member that is added, unless its map is empty. -/
abbrev CapsMember := Text × Option CapsValue

def accountInfoMembers (data : PlatformCapsData) : List CapsMember := [
  ("accountId".toList, some (.string data.getAccountId)),
  ("x1DeviceId".toList, some (.string data.getX1DeviceId)),
  ("XCALSessionTokenAvailable".toList, some (.boolean data.xcalSessionTokenAvailable)),
  ("experience".toList, some (.string data.getExperience)),
  ("deviceMACAddress".toList, some (.string data.getDdeviceMACAddress)),
  ("firmwareUpdateDisabled".toList, some (.boolean data.getFirmwareUpdateDisabled))]

def deviceInfoMembers (data : PlatformCapsData) : List CapsMember := [
  ("quirks".toList, some (.strings data.getQuirks)),
  ("mimeTypeExclusions".toList,
    if data.addDashExclusionList = [] then none
    else some (.stringLists data.addDashExclusionList)),
  ("features".toList,
    if data.deviceCapsFeatures = [] then none else some (.numbers data.deviceCapsFeatures)),
  ("mimeTypes".toList, some (.strings data.getMimeTypes)),
  ("model".toList, some (.string data.getModel)),
  ("deviceType".toList, some (.string data.getDeviceType)),
  ("supportsTrueSD".toList, some (.boolean data.supportsTrueSD)),
  ("webBrowser".toList,
    some (.webBrowser data.getBrowser.1 data.getBrowser.2.1 data.getBrowser.2.2)),
  ("HdrCapability".toList, some (.string data.getHDRCapability)),
  ("canMixPCMWithSurround".toList, some (.boolean data.canMixPCMWithSurround)),
  ("publicIP".toList, some (.string data.getPublicIP))]

/-- `AccountInfo::Load` and `DeviceInfo::Load`, which never fail: a member is added if there is no
query or if it is the query. -/
def loadMembers (query : Text) (members : List CapsMember) : List (Text × CapsValue) :=
  members.filterMap fun member =>
    if query = [] ∨ query = member.1 then member.2.map fun value => (member.1, value) else none

def sectionName : CapsPart → Text
  | .accountInfo => "AccountInfo".toList
  | .deviceInfo => "DeviceInfo".toList

def sectionMembers (data : PlatformCapsData) : CapsPart → List CapsMember
  | .accountInfo => accountInfoMembers data
  | .deviceInfo => deviceInfoMembers data

/-- `(\.(\w*))` -/
def memberPattern : Regex Char :=
  .group 2 (.seq (.one (· == '.')) (.group 3 (.star isWordChar)))

/-- `^(AccountInfo|DeviceInfo)(\.(\w*)){0,1}` -/
def queryPattern : Regex Char :=
  .seq .first (.seq
    (.group 1 (.either (.literal (sectionName .accountInfo)) (.literal (sectionName .deviceInfo))))
    (.times 0 (some 1) memberPattern))

/-- `m[index]`, which is empty without a match. -/
def submatch (m : Option (Cursor Char)) (index : ℕ) : Text :=
  (m.bind fun sm => sm.groups.lookup index).getD []

/-- The answer: the sections that are added, and `success`, which is the result, too. -/
structure PlatformAnswer where
  sections : CapsPart → Option (List (Text × CapsValue))
  success : Bool

/-- `PlatformCaps::Load` -/
def loadPlatformAnswer (data : PlatformCapsData) (query : Text) : PlatformAnswer :=
  let m := queryPattern.find query
  if query = [] ∨ m.isSome then
    { sections := fun part =>
        if query = [] ∨ submatch m 1 = sectionName part then
          some (loadMembers (submatch m 3) (sectionMembers data part))
        else none
      success := true }
  else { sections := fun _ => none, success := false }

end DeviceAndDisplay.SystemServices
