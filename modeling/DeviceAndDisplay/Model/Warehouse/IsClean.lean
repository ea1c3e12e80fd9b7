import DeviceAndDisplay.Model.Helpers.PropertyFile
import DeviceAndDisplay.Model.Helpers.SearchFiles
import DeviceAndDisplay.Storage.CString
import DeviceAndDisplay.Storage.Numeral

/-! # IsClean

The paths of `CUSTOM_DATA_FILE`, and the objects that exist by them. -/

namespace DeviceAndDisplay.Warehouse

open Helpers Storage

structure CleanEnv where
  /-- What is in `CUSTOM_DATA_FILE`; `none` if it cannot be opened. -/
  customData : Option Text
  /-- What is in `/etc/device.properties`. -/
  properties : Option Text
  directories : Directories
  /-- Whether the expression for a component is found in a name. -/
  matched : Text → Text → Bool
  /-- The time since the modification that `stat` tells, if the path leads to something. -/
  modifiedSecondsAgo : Text → Option ℤ

def isFileExistsAndOlderThen (env : CleanEnv) (age : ℤ) (fileName : Text) : Bool :=
  match env.modifiedSecondsAgo (cStr fileName) with
  | none => false
  | some seconds => age = -1 || age < seconds

/-- `Utils::String::trim` -/
def trim (s : Text) : Text := trimBy isSpace s

/-! ### The paths -/

def isPathLine (line : Text) : Bool :=
  line ≠ [] && line.head? ≠ some '#' && line.head? ≠ some '[' && line.take 2 ≠ ['.', ' ']

/-- `listPathsToRemove` -/
def listPathsToRemove (customData : Text) : List Text :=
  ((readParts '\n' customData).map trim).filter isPathLine

/-- The group of `\$([^$\{\}\/]*)`, trimmed. -/
def variableOf (path : Text) : Text :=
  trim ((path.dropWhile (· ≠ '$')).tail.takeWhile fun c => c ∉ ['$', '{', '}', '/'])

/-- `value`, which is empty if the variable has none; there is no result if the lookup does not end
within so many calls. -/
def valueOf (env : CleanEnv) (calls : ℕ) (path : Text) : Option Text :=
  let propertyName := variableOf path
  if propertyName = [] then some []
  else (readPropertyFromFile env.properties calls propertyName).map fun value =>
    (value.map trim).getD []

def isSpecial (c : Char) : Bool := c ∈ ['$', '*', '?', '+']

/-- What is between the bars, the path itself included. -/
def exclusionsOf (path : Text) : List Text :=
  if '|' ∈ path then ((path.splitOn '|').map trim).filter (· ≠ []) else []

/-- What is done with a path. -/
inductive CleanTarget where
  /-- Its variable has no value. -/
  | skipped
  | file (path : Text)
  | search (inputPath : Text) (exclusions : List Text)
deriving DecidableEq, Repr

/-- What `path` becomes after the variable has been looked at. -/
def searchTarget (env : CleanEnv) (calls : ℕ) (path : Text) : Option CleanTarget :=
  if path.any isSpecial then
    let exclusions := exclusionsOf path
    let path := exclusions.headD path
    (expandPropertiesInString env.properties calls path path).map fun expanded =>
      .search expanded.2 exclusions
  else some (.file path)

def targetOf (env : CleanEnv) (calls : ℕ) (path : Text) : Option CleanTarget :=
  if '$' ∈ path then
    match valueOf env calls path with
    | none => none
    | some [] => some .skipped
    | some (_ :: _) => searchTarget env calls path
  else searchTarget env calls path

/-! ### The objects -/

/-- The lines of `result`. -/
def resultLines (search : Search) : List Text :=
  let result := terminate '\n' search.result
  let result := if search.returned then trim result else result
  if 1 < result.length then readParts '\n' result else []

/-- The objects that are put into the list for a path. -/
def objectsOf (env : CleanEnv) (age : ℤ) : CleanTarget → List Text
  | .skipped => []
  | .file path => if isFileExistsAndOlderThen env age path then [path] else []
  | .search inputPath exclusions =>
      let lines := resultLines (searchFiles env.directories env.matched exclusions inputPath)
      if -1 < age then lines.filter (isFileExistsAndOlderThen env age) else lines

/-- The loop over the paths. -/
def checkPaths (env : CleanEnv) (calls : ℕ) (age : ℤ) : List Text → Option (List Text)
  | [] => some []
  | path :: paths =>
      match targetOf env calls path, checkPaths env calls age paths with
      | some target, some list => some (objectsOf env age target ++ list)
      | _, _ => none

inductive CleanError where
  /-- `Can't open file /lib/rdk/wh_api_5.conf` -/
  | cannotOpen
  /-- `file /lib/rdk/wh_api_5.conf doesn't have any lines with paths` -/
  | noPaths
deriving DecidableEq, Repr

structure CleanReport where
  clean : Bool
  files : List Text
  success : Bool
  error : Option CleanError := none
deriving DecidableEq, Repr

/-- `IsClean`, if the lookups of variables end within so many calls. -/
def isClean (env : CleanEnv) (calls : ℕ) (age : ℤ) : Option CleanReport :=
  match env.customData with
  | none => some { clean := false, files := [[]], success := false, error := some .cannotOpen }
  | some customData =>
      if listPathsToRemove customData = [] then
        some { clean := false, files := [[]], success := false, error := some .noPaths }
      else (checkPaths env calls age (listPathsToRemove customData)).map fun list =>
        { clean := list = [], files := if list = [] then [[]] else list, success := true }

end DeviceAndDisplay.Warehouse
