import DeviceAndDisplay.Storage.Table
import DeviceAndDisplay.Storage.Text

/-! # cSettings

The settings store of `cSettings.h` and its file. `JsonObject` is a table of texts, the `String()`
of the values. -/

namespace DeviceAndDisplay.Helpers

open Storage

/-- A `std::string`. -/
abbrev Text := List Char

abbrev JsonObject (J : Type*) := Table J Text Text

/-- What `c_str()` gives a function that takes a `const char*`. -/
def cStr (s : Text) : Text := s.takeWhile (· ≠ '\x00')

/-- Whether the file can be opened for reading, created, and opened for writing. -/
structure SettingsIo where
  reads : Bool := true
  creates : Bool := true
  writes : Bool := true
deriving DecidableEq, Repr

variable {J : Type*}

structure Settings (J : Type*) where
  data : J
  /-- What is in the file; `none` if it does not exist. -/
  file : Option Text

namespace Settings

/-! ### The file -/

/-- A line of the file. -/
def entryLine (entry : Text × Text) : Text := entry.1 ++ '=' :: entry.2

/-- What `writeToFile` writes; values that are empty are left out. -/
def written (O : JsonObject J) (data : J) : Text :=
  terminate '\n' (((O.entries data).filter fun entry => entry.2 ≠ []).map entryLine)

def writeToFile (O : JsonObject J) (io : SettingsIo) (s : Settings J) : Bool × Settings J :=
  match s.file with
  | none => (false, s)
  | some _ =>
      if io.writes then (true, { s with file := some (written O s.data) }) else (false, s)

def readLine (O : JsonObject J) (data : J) (content : Text) : J :=
  match splitLast '=' content with
  | none => data
  | some (key, value) => O.set data (cStr key) value

def readLines (O : JsonObject J) (data : J) (text : Text) : J :=
  (readParts '\n' text).foldl (readLine O) data

def readFromFile (O : JsonObject J) (io : SettingsIo) (s : Settings J) : Bool × Settings J :=
  match s.file with
  | none => (false, s)
  | some text =>
      if io.reads then (true, { s with data := readLines O s.data text }) else (false, s)

/-! ### The store -/

/-- The constructor. -/
def cSettings (O : JsonObject J) (io : SettingsIo) (file : Option Text) : Settings J :=
  match readFromFile O io { data := O.empty, file := file } with
  | (true, s) => s
  | (false, s) => if io.creates then { s with file := some (s.file.getD []) } else s

/-- The `String()` of what `getValue` returns. -/
def getValue (O : JsonObject J) (s : Settings J) (key : Text) : Text :=
  (O.get s.data (cStr key)).getD []

def setValue (O : JsonObject J) (io : SettingsIo) (key value : Text) (s : Settings J) :
    Bool × Settings J :=
  writeToFile O io { s with data := O.set s.data (cStr key) value }

def contains (O : JsonObject J) (s : Settings J) (key : Text) : Bool :=
  match O.get s.data (cStr key) with
  | none => false
  | some value => !value.isEmpty

/-- The value is made empty before `Remove`, which does not always work. -/
def remove (O : JsonObject J) (io : SettingsIo) (key : Text) (s : Settings J) :
    Bool × Settings J :=
  let removed : Settings J :=
    { s with data := O.remove (O.set s.data (cStr key) []) (cStr key) }
  if contains O removed key then (false, removed) else writeToFile O io removed

end Settings

/-- A call that changes the store. -/
inductive SettingsCall where
  | setValue (key value : Text)
  | remove (key : Text)
deriving DecidableEq, Repr

/-- A call whose file operations succeed. -/
def settingsStep (O : JsonObject J) (s : Settings J) : SettingsCall → Option (Settings J)
  | .setValue key value => some (s.setValue O {} key value).2
  | .remove key => some (s.remove O {} key).2

end DeviceAndDisplay.Helpers
