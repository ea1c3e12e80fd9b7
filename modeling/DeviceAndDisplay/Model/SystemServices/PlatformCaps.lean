import DeviceAndDisplay.Model.Helpers.Settings
import Mathlib.Algebra.Order.Ring.Int
import Mathlib.Logic.Function.Basic

/-! # Platform capabilities

The queries of `getPlatformConfiguration` as far as they read the device properties: the MIME type
exclusions and the features. -/

namespace DeviceAndDisplay.SystemServices

open Helpers Storage

/-- A `std::map` with strings as keys, by what it holds for each of them. -/
abbrev StringMap (ν : Type*) := Text → Option ν

namespace StringMap

variable {ν : Type*}

def empty : StringMap ν := fun _ => none

/-- `m[key] = value` -/
def assign (key : Text) (value : ν) (m : StringMap ν) : StringMap ν :=
  Function.update m key (some value)

/-- `m[key] = value` for every entry of `entries` -/
def assignAll (m entries : StringMap ν) : StringMap ν := fun key => (entries key).or (m key)

/-- `insert` and `emplace`, which keep what is there -/
def insert (m entries : StringMap ν) : StringMap ν := fun key => (m key).or (entries key)

end StringMap

/-! ### Properties -/

/-- A line of a properties file; one without `=` is key and value at once. -/
def addProperty (result : StringMap Text) (line : Text) : StringMap Text :=
  let key := line.takeWhile (· ≠ '=')
  if key = [] then result
  else result.assign key (if '=' ∈ line then line.drop (key.length + 1) else line)

/-- `getProperties`; the file is `none` if it cannot be opened. -/
def getProperties (file : Option Text) : StringMap Text :=
  ((file.map (readParts '\n')).getD []).foldl addProperty StringMap.empty

/-- An element of a plugin registry. -/
structure PluginEntry where
  appName : Option Text
  libraries : Option (List Text)
  version : Option Text
  /-- The label `enabled` is there and compares equal to `"false"`. -/
  disabled : Bool
deriving DecidableEq, Repr

/-- What the queries read: files, registries and the answer to the RFC parameter
`DashPlaybackInclusions`. -/
structure CapsEnv where
  deviceRunXREProperties : Option Text := none
  deviceProperties : Option Text := none
  overridePlugins : Option (List PluginEntry) := none
  defaultPlugins : Option (List PluginEntry) := none
  devicePlugins : Option (List PluginEntry) := none
  fileExists : Text → Bool := fun _ => false
  dashPlaybackInclusions : Option Text := none

/-- The properties of the files; the first file wins. -/
def fileProperties (env : CapsEnv) : StringMap Text :=
  (StringMap.empty.insert (getProperties env.deviceRunXREProperties)).insert
    (getProperties env.deviceProperties)

/-- `getDeviceProperties`: `result` is a local variable and is filled under a `once_flag` that all
calls share. -/
def getDeviceProperties (env : CapsEnv) (flag : Bool) : StringMap Text × Bool :=
  if flag then (StringMap.empty, flag) else (fileProperties env, true)

/-! ### MIME type exclusions -/

def onlyAveSupported : Text := "ONLY_AVE_SUPPORTED".toList

def disableDashSupport : Text := "DISABLE_DASH_SUPPORT".toList

def playbackTypes : List Text :=
  ["LINEAR_TV".toList, "VOD".toList, "IVOD".toList, "DVR".toList, "CDVR".toList, "IPDVR".toList,
    "EAS".toList]

/-- The parts between colons; only the first of them can be empty. -/
def dashTokens (str : Text) : List Text :=
  match str.splitOn ':' with
  | [] => []
  | first :: rest => first :: rest.filter (· ≠ [])

/-- `AddDashExclusionList`: the entries of the hash, one for each playback type excluded. -/
def addDashExclusionList (env : CapsEnv) (properties : StringMap Text) :
    List (Text × List Text) :=
  let dashInclusions :=
    if properties onlyAveSupported = none ∨ properties disableDashSupport = none then
      (env.dashPlaybackInclusions.map dashTokens).getD []
    else []
  if ['*'] ∈ dashInclusions then []
  else (playbackTypes.filter (· ∉ dashInclusions)).map fun it =>
    (it, ["application/dash+xml".toList])

/-! ### Features -/

def isSpace (c : Char) : Bool := c ∈ [' ', '\t', '\n', '\x0b', '\x0c', '\r']

/-- `atoi`; the behaviour for numbers out of the range of `int` is not defined. -/
def atoi (s : Text) : ℤ :=
  let number (digits : Text) : ℕ :=
    (digits.takeWhile Char.isDigit).foldl (fun n c => 10 * n + (c.toNat - '0'.toNat)) 0
  match s.dropWhile isSpace with
  | '-' :: digits => -number digits
  | '+' :: digits => number digits
  | digits => number digits

/-- The conversion to `uint8_t`. -/
def toUInt8 (n : ℤ) : ℕ := (n % 256).toNat

def verifyLibraries (env : CapsEnv) (libraries : List Text) : Bool :=
  libraries.all fun lib =>
    env.fileExists (if lib.head? = some '/' then lib else "/usr/lib/".toList ++ lib)

/-- The loop over the device registry: the plugins found so far, and the names to be removed. -/
def addDevicePlugin (env : CapsEnv) (found : StringMap ℕ × List Text) (hash : PluginEntry) :
    StringMap ℕ × List Text :=
  match hash.appName, hash.disabled, hash.libraries, hash.version with
  | some appName, true, _, _ => (found.1, found.2 ++ [appName])
  | some appName, false, some libraries, some version =>
      if verifyLibraries env libraries then
        (found.1.insert (StringMap.empty.assign appName (toUInt8 (atoi version))), found.2)
      else found
  | _, _, _, _ => found

/-- The loop over the generic registry. -/
def addPlugin (env : CapsEnv) (removePlugins : List Text) (result : StringMap ℕ)
    (hash : PluginEntry) : StringMap ℕ :=
  match hash.appName, hash.disabled, hash.libraries, hash.version with
  | some appName, false, some libraries, some version =>
      if (result appName).isSome ∨ appName ∈ removePlugins then result
      else if verifyLibraries env libraries then
        result.insert (StringMap.empty.assign appName (toUInt8 (atoi version)))
      else result
  | _, _, _, _ => result

def getAvailablePlugins (env : CapsEnv) : StringMap ℕ :=
  let plugins := (env.overridePlugins.or env.defaultPlugins).getD []
  let (result, removePlugins) :=
    (env.devicePlugins.getD []).foldl (addDevicePlugin env) (StringMap.empty, [])
  plugins.foldl (addPlugin env removePlugins) result

/-- The features that are always there. -/
def baseFeatures : List Text :=
  ["htmlview.headers".toList, "htmlview.cookies".toList, "htmlview.httpCookies".toList,
    "htmlview.evaluateJavaScript".toList, "htmlview.callJavaScriptWithResult".toList,
    "htmlview.urlpatterns".toList, "htmlview.disableCSSAnimations".toList,
    "htmlview.postMessage".toList, "allowSelfSignedWithIPAddress".toList,
    "connection.supportsSecure".toList, "keySource".toList]

def openBrowsing : Text := "OPEN_BROWSING".toList

def uhd4kDecode : Text := "UHD_4K_DECODE".toList

def openBrowsingFeature : Text := "openBrowsing".toList

def uhd4kDecodeFeature : Text := "uhd_4k_decode".toList

/-- The value of `OPEN_BROWSING` turns the feature off. -/
def disablesBrowsing (value : Option Text) : Bool :=
  value == some ['0'] || value == some ['f', 'a', 'l', 's', 'e']

def deviceCapsFeatures (env : CapsEnv) (properties : StringMap Text) : StringMap ℕ :=
  let result := baseFeatures.foldl (fun m feature => m.assign feature 1) StringMap.empty
  let result :=
    if disablesBrowsing (properties openBrowsing) then result.assign openBrowsingFeature 0
    else result
  let result := result.assignAll (getAvailablePlugins env)
  result.assign uhd4kDecodeFeature
    (match properties uhd4kDecode with
    | some value => toUInt8 (atoi value)
    | none => 0)

/-! ### Queries -/

/-- The two members of `DeviceInfo` that depend on the device properties; `none` if the member is
not added. -/
structure DeviceInfo where
  mimeTypeExclusions : Option (List (Text × List Text)) := none
  features : Option (StringMap ℕ) := none

def mimeTypeExclusionsMember : Text := "mimeTypeExclusions".toList

def featuresMember : Text := "features".toList

/-- `DeviceInfo::Load` -/
def loadDeviceInfo (env : CapsEnv) (query : Text) (flag : Bool) : DeviceInfo × Bool :=
  let (mimeTypeExclusions, flag) :=
    if query = [] ∨ query = mimeTypeExclusionsMember then
      let (properties, flag) := getDeviceProperties env flag
      let hash := addDashExclusionList env properties
      (if hash = [] then none else some hash, flag)
    else (none, flag)
  let (features, flag) :=
    if query = [] ∨ query = featuresMember then
      let (properties, flag) := getDeviceProperties env flag
      (some (deviceCapsFeatures env properties), flag)
    else (none, flag)
  (⟨mimeTypeExclusions, features⟩, flag)

inductive CapsPart where
  | accountInfo
  | deviceInfo
deriving DecidableEq, Repr

/-- `\w` -/
def isWordChar (c : Char) : Bool := c.isAlphanum || c == '_'

/-- What follows the name of the part: a dot and the member, or anything. -/
def capsMember : Text → Text
  | '.' :: rest => rest.takeWhile isWordChar
  | _ => []

/-- The match of `^(AccountInfo|DeviceInfo)(\.(\w*)){0,1}`. -/
def parseQuery (query : Text) : Option (CapsPart × Text) :=
  if "AccountInfo".toList.isPrefixOf query then
    some (.accountInfo, capsMember (query.drop "AccountInfo".length))
  else if "DeviceInfo".toList.isPrefixOf query then
    some (.deviceInfo, capsMember (query.drop "DeviceInfo".length))
  else none

/-- `AccountInfo` reads no device properties; its members are left out. -/
structure PlatformCaps where
  deviceInfo : Option DeviceInfo := none
  success : Bool

/-- `PlatformCaps::Load`; `flag` is the `once_flag` of the process. -/
def loadPlatformCaps (env : CapsEnv) (query : Text) (flag : Bool) : PlatformCaps × Bool :=
  if query = [] then
    let (deviceInfo, flag) := loadDeviceInfo env [] flag
    (⟨some deviceInfo, true⟩, flag)
  else
    match parseQuery query with
    | none => (⟨none, false⟩, flag)
    | some (.accountInfo, _) => (⟨none, true⟩, flag)
    | some (.deviceInfo, member) =>
        let (deviceInfo, flag) := loadDeviceInfo env member flag
        (⟨some deviceInfo, true⟩, flag)

/-- A query changes the flag at most. -/
def capsStep (env : CapsEnv) (flag : Bool) (query : Text) : Option Bool :=
  some (loadPlatformCaps env query flag).2

end DeviceAndDisplay.SystemServices
