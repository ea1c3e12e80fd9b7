import DeviceAndDisplay.Model.Helpers.Settings
import DeviceAndDisplay.Storage.CString
import DeviceAndDisplay.Storage.ObjectTree

/-! # The time zone

`setTimeZoneDST` and `getTimeZoneDST` with the files of the zone and of its accuracy. Whether the
directory of the files can be made shows in whether these can be opened. -/

namespace DeviceAndDisplay.SystemServices

open Helpers Storage

namespace TimeZone

/-! ### Files -/

inductive FileKind where
  | regular
  | directory
  | other
deriving DecidableEq, Repr

/-- What a path leads to: its kind, and the names on the way to it from the root. -/
structure FileEntry where
  kind : FileKind
  location : List Text
deriving DecidableEq, Repr

/-- What `stat` finds for a path. -/
abbrev FileTree := Text → Option FileEntry

/-- How the operations on a file come out. -/
structure FileIo where
  /-- The file, if it exists, can be opened for reading. -/
  reads : Bool := true
  /-- `fopen` for writing succeeds. -/
  opens : Bool := true
  /-- The most bytes that `fwrite` takes. -/
  accepted : ℕ
  /-- The most bytes that reach the file. -/
  flushed : ℕ
deriving DecidableEq, Repr

/-- The content after `fopen` for writing, `fwrite` and `fflush`. -/
def FileIo.written (io : FileIo) (text : Text) : Text := (text.take io.accepted).take io.flushed

/-- `/usr/share/zoneinfo`. -/
def zoneinfoDir : Text :=
  ['/', 'u', 's', 'r', '/', 's', 'h', 'a', 'r', 'e', '/', 'z', 'o', 'n', 'e', 'i', 'n', 'f', 'o']

/-- `UTC`. -/
def tzDefault : Text := ['U', 'T', 'C']

/-- `INITIAL`. -/
def tzAccuracyInitial : Text := ['I', 'N', 'I', 'T', 'I', 'A', 'L']

/-- `INTERIM`. -/
def tzAccuracyInterim : Text := ['I', 'N', 'T', 'E', 'R', 'I', 'M']

/-- `FINAL`. -/
def tzAccuracyFinal : Text := ['F', 'I', 'N', 'A', 'L']

/-- `Universal`. -/
def universal : Text := ['U', 'n', 'i', 'v', 'e', 'r', 's', 'a', 'l']

def isAccuracy (accuracy : Text) : Bool :=
  accuracy = tzAccuracyInitial || accuracy = tzAccuracyInterim || accuracy = tzAccuracyFinal

def dirnameOf (fname : Text) : Text :=
  match splitLast '/' fname with
  | none => []
  | some (dir, _) => dir ++ ['/']

/-- It is the directory of the name that is looked for. -/
def dirExists (tree : FileTree) (fname : Text) : Bool :=
  match tree (cStr (dirnameOf fname)) with
  | some entry => entry.kind = .directory
  | none => false

def fileExists (tree : FileTree) (fname : Text) : Bool := (tree (cStr fname)).isSome

/-- `getFileContent` for lines; lines that are empty are left out. -/
def contentLines (content : Text) : List Text := (readParts '\n' content).filter (· ≠ [])

def getTimeZoneDSTHelper (io : FileIo) (file : Option Text) : Text :=
  match file with
  | none => []
  | some content => if io.reads then (contentLines content).headD [] else []

def getTimeZoneAccuracyDSTHelper (io : FileIo) (file : Option Text) : Text :=
  match file with
  | none => tzAccuracyInitial
  | some content =>
      let accuracy := if io.reads then (contentLines content).headD [] else []
      if isAccuracy accuracy then accuracy else tzAccuracyInitial

/-! ### Calls -/

/-- The contents of the files; `none` for a file that does not exist. -/
structure TimeZoneFiles where
  timeZone : Option Text
  accuracy : Option Text
deriving DecidableEq, Repr

structure TimeZoneEnv where
  tree : FileTree
  timeZoneIo : FileIo
  accuracyIo : FileIo

/-- The parameters of `onTimeZoneDSTChanged`. -/
structure TimeZoneChanged where
  oldTimeZone : Text
  newTimeZone : Text
  oldAccuracy : Text
  newAccuracy : Text
deriving DecidableEq, Repr

/-- The codes that `populateResponseWithError` is called with. -/
inductive TimeZoneError where
  | missingKeyValues
  | fileNotPresent
  | fileAccessFailed
deriving DecidableEq, Repr

structure TimeZoneOutcome where
  success : Bool
  error : Option TimeZoneError := none
  files : TimeZoneFiles
  event : Option TimeZoneChanged := none
deriving DecidableEq, Repr

/-- The accuracy that is asked for; a wrong one stands for the old one. -/
def acceptedAccuracy (oldAccuracy : Text) : Option Text → Text
  | some accuracy => if isAccuracy accuracy then accuracy else oldAccuracy
  | none => oldAccuracy

/-- The file of the zone, written if the zone is new. -/
def writeTimeZone (io : FileIo) (oldTimeZoneDST timeZone : Text) (file : Option Text) :
    Bool × Option TimeZoneError × Option Text :=
  if oldTimeZoneDST ≠ timeZone then
    if io.opens then
      (decide (timeZone.length ≤ io.accepted), none, some (io.written timeZone))
    else
      (false, some .fileAccessFailed, file)
  else
    (true, none, file)

/-- The file of the accuracy, written if the accuracy is new. -/
def writeAccuracy (io : FileIo) (oldAccuracy accuracy : Text) (file : Option Text) :
    Bool × Option Text :=
  if accuracy ≠ oldAccuracy ∧ io.opens = true then
    (decide (accuracy.length ≤ io.accepted), some (io.written accuracy))
  else
    (true, file)

/-- The writing of the zone and of the accuracy for a zone that has passed the tests. -/
def storeTimeZone (env : TimeZoneEnv) (timeZone : Text) (accuracy : Option Text)
    (files : TimeZoneFiles) : TimeZoneOutcome :=
  let oldTimeZoneDST := getTimeZoneDSTHelper env.timeZoneIo files.timeZone
  let zoneWrite := writeTimeZone env.timeZoneIo oldTimeZoneDST timeZone files.timeZone
  let oldAccuracy := getTimeZoneAccuracyDSTHelper env.accuracyIo files.accuracy
  let accuracy := acceptedAccuracy oldAccuracy accuracy
  let accuracyWrite := writeAccuracy env.accuracyIo oldAccuracy accuracy files.accuracy
  { success := zoneWrite.1 && accuracyWrite.1
    error := zoneWrite.2.1
    files := ⟨zoneWrite.2.2, accuracyWrite.2⟩
    event :=
      if oldTimeZoneDST ≠ timeZone ∨ oldAccuracy ≠ accuracy then
        some ⟨oldTimeZoneDST, timeZone, oldAccuracy, accuracy⟩
      else
        none }

/-- The test of a zone: the directory of the country, which is that of all zones, and the file. -/
def isSupported (tree : FileTree) (timeZone : Text) : Bool :=
  let country := timeZone.takeWhile (· ≠ '/')
  let path := zoneinfoDir ++ ['/']
  dirExists tree (path ++ country) && fileExists tree (path ++ timeZone)

def setTimeZoneDST (env : TimeZoneEnv) (timeZone accuracy : Option Text)
    (files : TimeZoneFiles) : TimeZoneOutcome :=
  match timeZone with
  | some timeZone =>
      -- one of the two holds for every zone; the verdict on the format is only logged
      let isUniversal := decide (timeZone = universal)
      let isOlson := !isUniversal
      if isUniversal || isOlson then
        if isSupported env.tree timeZone then
          storeTimeZone env timeZone accuracy files
        else
          { success := false, error := some .fileNotPresent, files }
      else
        { success := true, files }
  | none => { success := true, error := some .missingKeyValues, files }

/-- The response of `getTimeZoneDST`. -/
structure TimeZoneResponse where
  timeZone : Text
  accuracy : Option Text
  success : Bool
deriving DecidableEq, Repr

def getTimeZoneDST (timeZoneIo accuracyIo : FileIo) (files : TimeZoneFiles) : TimeZoneResponse :=
  let accuracy := getTimeZoneAccuracyDSTHelper accuracyIo files.accuracy
  match files.timeZone with
  | some content =>
      if timeZoneIo.reads then
        ⟨(readParts '\n' content).headD [], some accuracy, true⟩
      else
        ⟨['n', 'u', 'l', 'l'], none, false⟩
  | none => ⟨tzDefault, some accuracy, true⟩

end TimeZone

end DeviceAndDisplay.SystemServices

/-! ## The list of the time zones

`getTimeZones`, which lists the directory of the zones and those in it with `zdump`. -/

namespace DeviceAndDisplay.SystemServices.TimeZone

open Helpers Storage

/-- What `getTimeZones` puts into an object: a line for a file, and an object for a directory. -/
abbrev ZoneValue := ObjectTree Text Text

abbrev ZoneEntries := List (Text × ZoneValue)

structure ZoneListEnv where
  tree : FileTree
  /-- The output of a command and what `pclose` returns for it; `none` if `popen` fails. -/
  popen : Text → Option (Text × ℤ)

def isWhite (c : Char) : Bool := c = ' ' || c = '\n' || c = '\r' || c = '\t'

def isBlank (c : Char) : Bool := c = ' ' || c = '\t'

/-- The path and the rest of a line; `none` if it has no blank. -/
def parseZoneLine (buf : Text) : Option (Text × Text) :=
  let line := trimBy isWhite buf
  if line.any isBlank then
    some (line.takeWhile fun c => !isBlank c,
      (line.dropWhile fun c => !isBlank c).dropWhile isWhite)
  else none

/-- What is behind the last `/`. -/
def lastName (fullName : Text) : Text :=
  match splitLast '/' fullName with
  | some (_, name) => name
  | none => fullName

/-- The body of the loop over the lines, with the directories and the object. -/
def readZoneLine (tree : FileTree) (state : List Text × ZoneEntries) (buf : Text) :
    List Text × ZoneEntries :=
  match parseZoneLine (cText buf) with
  | none => state
  | some (fullName, line) =>
      match tree (cStr fullName) with
      | none => state
      | some found =>
          if found.kind = .directory then (state.1 ++ [fullName], state.2)
          else (state.1, setEntry (lastName fullName) (.leaf line) state.2)

/-- `zdump` for the path, or for all that is in it if it is a directory. -/
def zdumpCommand (entry : Text) (kind : FileKind) : Text :=
  ['z', 'd', 'u', 'm', 'p', ' '] ++ entry ++ if kind = .directory then ['/', '*'] else []

/-- `processTimeZones` with what it returns and the object that it fills; `none` if the fuel does not
suffice for the calls of itself. -/
def processTimeZones (env : ZoneListEnv) : ℕ → Text → ZoneEntries → Option (Bool × ZoneEntries)
  | 0, _, _ => none
  | fuel + 1, entry, out =>
      match env.tree (cStr entry) with
      | none => some (false, out)
      | some found =>
          match env.popen (cStr (zdumpCommand entry found.kind)) with
          | none => some (false, out)
          | some (output, err) =>
              let (dirs, out) := (fgets 4096 output).foldl (readZoneLine env.tree) ([], out)
              if err ≠ 0 then some (false, out)
              else do
                let out ← dirs.foldlM (fun out name => do
                  let (_, dirObject) ← processTimeZones env fuel name []
                  return setEntry (lastName name) (.node dirObject) out) out
                return (true, out)

/-- The parameter `timeZones`. -/
inductive ZonesParameter where
  | missing
  | notArray
  /-- The strings of the array, and `none` for other values. -/
  | array (elements : List (Option Text))
deriving DecidableEq, Repr

/-- The loop over the elements of the array. -/
def processElements (env : ZoneListEnv) (fuel : ℕ) :
    List (Option Text) → Bool × ZoneEntries → Option (Bool × ZoneEntries)
  | [], state => some state
  | none :: elements, state => processElements env fuel elements state
  | some element :: elements, (resp, out) => do
      let (processed, out) ← processTimeZones env fuel (zoneinfoDir ++ ['/'] ++ element) out
      processElements env fuel elements (resp || processed, out)

/-- `getTimeZones` with the success and `zoneinfo`, which is not set for a wrong parameter. -/
def getTimeZones (env : ZoneListEnv) (fuel : ℕ) :
    ZonesParameter → Option (Bool × Option ZoneEntries)
  | .missing => do
      let (resp, out) ← processTimeZones env fuel zoneinfoDir []
      return (resp, some out)
  | .notArray => some (false, none)
  | .array elements => do
      let (resp, out) ← processElements env fuel elements (false, [])
      return (resp, some out)

end DeviceAndDisplay.SystemServices.TimeZone
