import DeviceAndDisplay.Model.Helpers.Settings
import DeviceAndDisplay.Model.SystemServices.TimeZone
import DeviceAndDisplay.Storage.CString
import DeviceAndDisplay.Storage.Numeral

/-! # The state of a firmware update

`_systemStateChanged` with what the system manager tells, and the functions that answer from it and
from the file that the scripts of the download write. -/

namespace DeviceAndDisplay.SystemServices

open Helpers Storage

namespace FirmwareUpdate

/-! ### The file of the download -/

/-- `Reboot|` -/
def rebootLabel : Text := ['R', 'e', 'b', 'o', 'o', 't', '|']

/-- `DnldVersn|` -/
def versionLabel : Text := ['D', 'n', 'l', 'd', 'V', 'e', 'r', 's', 'n', '|']

/-- `DnldURL|` -/
def locationLabel : Text := ['D', 'n', 'l', 'd', 'U', 'R', 'L', '|']

/-- `FailureReason|` -/
def failureLabel : Text := ['F', 'a', 'i', 'l', 'u', 'r', 'e', 'R', 'e', 'a', 's', 'o', 'n', '|']

/-- What `getDownloadedFirmwareInfo` reads from the file. -/
structure DownloadedFirmware where
  downloadedFWVersion : Text := []
  downloadedFWLocation : Text := []
  isRebootDeferred : Bool := false
deriving DecidableEq, Repr

/-- The loop that erases the line up to each `|`. -/
def eraseDelimited (line : Text) : Text :=
  match h : find ['|'] line with
  | some pos => eraseDelimited (line.drop (pos + 1))
  | none => line
termination_by line.length
decreasing_by
  have hne : line ≠ [] := by
    intro hnil
    rw [hnil] at h
    cases h
  have hpos := List.length_pos_of_ne_nil hne
  rw [List.length_drop]
  omega

/-- Whether the text starts with the word in lower case. -/
def startsWithWord (word text : Text) : Bool :=
  word.isPrefixOf (text.map Char.toLower)

def defersReboot (line : Text) : Bool :=
  startsWithWord ['1'] line || startsWithWord ['y', 'e', 's'] line ||
    startsWithWord ['t', 'r', 'u', 'e'] line

def isSpaceCharacter (c : Char) : Bool := c = ' '

/-- One of the blocks for a label. What it leaves of the line is looked at by the next. -/
def readField (label : Text) (store : Text → DownloadedFirmware → DownloadedFirmware)
    (state : Text × DownloadedFirmware) : Text × DownloadedFirmware :=
  if (find label state.1).isSome then
    let line := trimBy isSpaceCharacter (eraseDelimited state.1)
    (line, if 1 < line.length then store line state.2 else state.2)
  else state

def storeReboot (line : Text) (info : DownloadedFirmware) : DownloadedFirmware :=
  if defersReboot line then { info with isRebootDeferred := true } else info

def storeVersion (line : Text) (info : DownloadedFirmware) : DownloadedFirmware :=
  { info with downloadedFWVersion := cText line }

def storeLocation (line : Text) (info : DownloadedFirmware) : DownloadedFirmware :=
  { info with downloadedFWLocation := cText line }

/-- The body of the loop over the lines. -/
def readDownloadLine (latestEvent : ℤ) (info : DownloadedFirmware) (line : Text) :
    DownloadedFirmware :=
  let state := readField rebootLabel storeReboot (line, info)
  if 2 ≤ latestEvent then
    (readField locationLabel storeLocation (readField versionLabel storeVersion state)).2
  else state.2

def readDownloadFile (latestEvent : ℤ) (content : Text) : DownloadedFirmware :=
  (TimeZone.contentLines content).foldl (readDownloadLine latestEvent) {}

/-! ### The reason of a failure -/

inductive FwFailReason where
  | none
  | notFound
  | networkFailure
  | serverUnreachable
  | corruptDownloadFile
  | failureInFlashWrite
  | upgradeFailedAfterFlashWrite
deriving DecidableEq, Repr

def fwFailReasonToText : FwFailReason → String
  | .none => "None"
  | .notFound => "Not found"
  | .networkFailure => "Network failure"
  | .serverUnreachable => "Server unreachable"
  | .corruptDownloadFile => "Corrupt download file"
  | .failureInFlashWrite => "Failure in flash write"
  | .upgradeFailedAfterFlashWrite => "Upgrade failed after flash write"

def fwFailReasonFromText : List (String × FwFailReason) :=
  [("ESTB Download Failure", .serverUnreachable),
    ("Image Download Failed - Unable to connect", .networkFailure),
    ("Image Download Failed - Server not Found", .notFound),
    ("Image Download Failed - Error response from server", .serverUnreachable),
    ("Image Download Failed - Unknown", .serverUnreachable),
    ("Image download failed from server", .serverUnreachable),
    ("RCDL Upgrade Failed", .failureInFlashWrite),
    ("ECM trigger failed", .failureInFlashWrite),
    ("Failed in flash write", .failureInFlashWrite),
    ("Flashing failed", .failureInFlashWrite),
    ("Versions Match", .none),
    ("Cloud FW Version is empty", .none),
    ("Cloud FW Version is invalid", .none),
    ("Invalid Request", .none),
    ("Network Communication Error", .none),
    ("Previous Upgrade In Progress", .none),
    ("Empty image name from CDL server", .none),
    ("Upgrade failed after flash write", .upgradeFailedAfterFlashWrite)]

/-- `strcasecmp` finds no difference. -/
def equalsIgnoringCase (a b : Text) : Bool :=
  (cText a).map Char.toLower = (cText b).map Char.toLower

/-- The match of `^FailureReason\|(.*)$`; a dot stands for no line terminator. -/
def failureText (line : Text) : Option Text :=
  let rest := line.drop failureLabel.length
  if failureLabel.isPrefixOf line ∧ '\n' ∉ rest ∧ '\r' ∉ rest then some rest else none

/-- The text that the last matching line leaves. -/
def lastFailureText (content : Text) : Text :=
  (TimeZone.contentLines content).foldl (fun str line => (failureText line).getD str) []

def failReasonOf (str : Text) : FwFailReason :=
  match fwFailReasonFromText.find? fun entry => equalsIgnoringCase entry.1.toList str with
  | some entry => entry.2
  | none => .none

/-! ### The version of the image -/

/-- `imagename:` -/
def imageLabel : Text := ['i', 'm', 'a', 'g', 'e', 'n', 'a', 'm', 'e', ':']

/-- The version in a line: what follows the first colon, if the line has the label. -/
def versionOf (line : Text) : Option Text :=
  let gp := cText line
  if (find imageLabel gp).isSome then
    let token := match find [':'] gp with
      | some pos => gp.drop (pos + 1)
      | none => gp
    if token = [] then none else some token
  else none

/-- `unknown` -/
def unknownVersion : Text := ['u', 'n', 'k', 'n', 'o', 'w', 'n']

/-- What `getStbVersionString` finds in the file, which may be missing. -/
def readVersion (file : Option Text) : Text :=
  match file with
  | none => unknownVersion
  | some content => ((TimeZone.contentLines content).findSome? versionOf).getD unknownVersion

/-! ### Events and calls -/

/-- What is published with `sendNotify`. -/
inductive Notification where
  | firmwareUpdateStateChange (state : ℤ)
  | firmwarePendingReboot (seconds : ℤ)
  | clockSet
deriving DecidableEq, Repr

/-- IARM_BUS_SYSMGR_EVENT_SYSTEMSTATE; the upload of the logs is not looked at here. -/
inductive SystemState where
  | firmwareUpdateState (state : ℤ)
  | timeSource (state : ℤ)
  | other
deriving DecidableEq, Repr

/-- The files; `none` for one that does not exist. -/
structure FirmwareFiles where
  version : Option Text
  download : Option Text
  /-- The file of the download, if it exists, can be opened. -/
  opens : Bool := true
deriving DecidableEq, Repr

inductive FirmwareAction where
  | systemStateChanged (event : SystemState)
  /-- `reset` tells whether the delay of the reboot could be reset. -/
  | fireFirmwarePendingReboot (reset : Bool)
  | getFirmwareUpdateState
  | getDownloadedFirmwareInfo (files : FirmwareFiles)
  | getLastFirmwareFailureReason (files : FirmwareFiles)
deriving DecidableEq, Repr

inductive FirmwareResponse where
  | pendingReboot (success : Bool)
  | updateState (firmwareUpdateState : ℤ)
  /-- `success` is set as well. -/
  | info (currentFWVersion : Text) (downloaded : DownloadedFirmware)
  /-- Without success. -/
  | noVersion
  | fileContentUnsupported
  | failReason (reason : FwFailReason)
deriving DecidableEq, Repr

end FirmwareUpdate

/-- `m_FwUpdateState_LatestEvent`, `m_stbVersionString` and what is published. -/
structure FirmwareUpdate where
  latestEvent : ℤ := 0
  stbVersionString : Text := []
  notifications : List FirmwareUpdate.Notification := []
deriving DecidableEq, Repr

namespace FirmwareUpdate

def notify (notification : Notification) (s : FirmwareUpdate) : FirmwareUpdate :=
  { s with notifications := s.notifications ++ [notification] }

def onFirmwareUpdateStateChange (newState : ℤ) (s : FirmwareUpdate) : FirmwareUpdate :=
  if newState ≠ s.latestEvent then
    { s with latestEvent := newState }.notify (.firmwareUpdateStateChange newState)
  else s

def onFirmwarePendingReboot (seconds : ℤ) (s : FirmwareUpdate) : FirmwareUpdate :=
  s.notify (.firmwarePendingReboot seconds)

/-- `criticalReboot` is IARM_BUS_SYSMGR_FIRMWARE_UPDATE_STATE_CRITICAL_REBOOT. -/
def systemStateChanged (criticalReboot : ℤ) (s : FirmwareUpdate) : SystemState → FirmwareUpdate
  | .firmwareUpdateState state =>
      if criticalReboot = state then s.onFirmwarePendingReboot 600
      else s.onFirmwareUpdateStateChange state
  | .timeSource state => if state ≠ 0 then s.notify .clockSet else s
  | .other => s

/-- `getStbVersionString`, which reads the file only once. -/
def getStbVersionString (file : Option Text) (s : FirmwareUpdate) : Text × FirmwareUpdate :=
  if s.stbVersionString ≠ [] then (s.stbVersionString, s)
  else (readVersion file, { s with stbVersionString := readVersion file })

def getDownloadedFirmwareInfo (files : FirmwareFiles) (s : FirmwareUpdate) :
    FirmwareResponse × FirmwareUpdate :=
  match files.download with
  | none =>
      let (ver, s) := s.getStbVersionString files.version
      (if ver = unknownVersion then .noVersion else .info ver {}, s)
  | some content =>
      if files.opens then
        let info := readDownloadFile s.latestEvent content
        let (ver, s) := s.getStbVersionString files.version
        (.info ver info, s)
      else (.fileContentUnsupported, s)

def getLastFirmwareFailureReason (files : FirmwareFiles) : FirmwareResponse :=
  match files.download with
  | none => .failReason .none
  | some content =>
      if files.opens then .failReason (failReasonOf (lastFailureText content))
      else .failReason .none

end FirmwareUpdate

/-- A step, with the response of a call. -/
def firmwareUpdateStep (criticalReboot : ℤ) (s : FirmwareUpdate) :
    FirmwareUpdate.FirmwareAction → Option FirmwareUpdate.FirmwareResponse × FirmwareUpdate
  | .systemStateChanged event => (none, s.systemStateChanged criticalReboot event)
  | .fireFirmwarePendingReboot reset =>
      (some (.pendingReboot reset), if reset then s.onFirmwarePendingReboot 600 else s)
  | .getFirmwareUpdateState => (some (.updateState s.latestEvent), s)
  | .getDownloadedFirmwareInfo files =>
      let (response, s) := s.getDownloadedFirmwareInfo files
      (some response, s)
  | .getLastFirmwareFailureReason files => (some (FirmwareUpdate.getLastFirmwareFailureReason files), s)

end DeviceAndDisplay.SystemServices

/-! ## The progress of a download

`getDownloadProgress` and the helpers that stand for `cat`, `tail`, `sed`, `tr` and `cut`. -/

namespace DeviceAndDisplay.SystemServices

open Helpers Storage

/-- `readFileContent`: what it returns, and the content; the file may not exist. -/
def readFileContent : Option Text → Bool × Text
  | none => (false, [])
  | some text => ((fgets 1024 text) ≠ [], (fgets 1024 text).flatMap cText)

/-- `getLastLine`: the line if it returns `true`. -/
def getLastLine (input : Text) : Option Text :=
  ((readParts '\n' input).filter (· ≠ [])).getLast?

/-- `ltrim`. -/
def ltrim (s : Text) : Text := s.dropWhile Storage.isSpace

/-- The loop of `removeExtraWhitespaces`, behind a blank or not. -/
def removeExtraFrom : (blank : Bool) → Text → Text
  | _, [] => []
  | blank, c :: rest =>
      if c = nul then []
      else if c = ' ' then
        if blank then removeExtraFrom true rest else ' ' :: removeExtraFrom true rest
      else c :: removeExtraFrom false rest

/-- `removeExtraWhitespaces`. -/
def removeExtraWhitespaces (s : Text) : Text := removeExtraFrom false s

/-- What `getDownloadProgress` returns, and `downloadPercent`. There is no result if it reads
`stringList` beyond its end. -/
def getDownloadProgress (file : Option Text) (downloadPercent : ℤ) : Option (Bool × ℤ) :=
  let (retStatus, fileContent) := readFileContent file
  if retStatus ∧ fileContent ≠ [] then
    match getLastLine fileContent with
    | none => some (false, downloadPercent)
    | some line =>
        let lastLine := ltrim line
        if 'M' ∈ lastLine ∨ 'G' ∈ lastLine then
          let stringList := (removeExtraWhitespaces lastLine).splitOn ' '
          match stringList[2]? with
          | none => none
          | some [] => some (false, downloadPercent)
          | some downloadprogress => some (true, Storage.atoi downloadprogress)
        else some (false, downloadPercent)
  else some (retStatus, downloadPercent)

end DeviceAndDisplay.SystemServices
