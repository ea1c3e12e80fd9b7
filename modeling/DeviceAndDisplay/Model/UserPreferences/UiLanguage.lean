import DeviceAndDisplay.Model.Helpers.Settings

/-! # The UI language

`UserPreferences` with its cache `_lastUILanguage` and `/opt/user_preferences.conf`. -/

namespace DeviceAndDisplay

open Helpers Storage

namespace UserPreferences

/-- `LANGUAGE_CODE_SEPARATOR_POS`. -/
def languageCodeSeparatorPos : ℕ := 2

/-- `LANGUAGE_CODE_LENGTH`. -/
def languageCodeLength : ℕ := 5

/-- Swap the parts of a language code around its separator. -/
def convert (separator separator' : Char) (language : Text) : Option Text :=
  match find [separator] language with
  | none => none
  | some sep =>
      if sep = languageCodeSeparatorPos ∧ language.length = languageCodeLength then
        some (language.drop (sep + 1) ++ separator' :: language.take sep)
      else
        none

/-- `ConvertToUserSettingsFormat`; `none` if it returns `false`. -/
def convertToUserSettingsFormat (uiLanguage : Text) : Option Text := convert '_' '-' uiLanguage

/-- `ConvertToUserPrefsFormat`. -/
def convertToUserPrefsFormat (presentationLanguage : Text) : Option Text :=
  convert '-' '_' presentationLanguage

/-- What calls outside of the plugin answer in `PerformMigration`. -/
structure MigrationIo where
  /-- The UserSettingsInspector interface is obtained. -/
  inspector : Bool := true
  /-- The answer of `GetMigrationState`; `none` on an error. -/
  migrationState : Option Bool
  /-- A file that exists can be loaded. -/
  loads : Bool := true
  setPresentationLanguage : Text → Bool := fun _ => true
  /-- The answer of `GetPresentationLanguage`; `none` on an error. -/
  presentationLanguage : Option Text
  /-- `g_key_file_save_to_file` succeeds. -/
  saves : Bool := true

end UserPreferences

structure UserPreferences where
  isMigrationDone : Bool := false
  lastUILanguage : Text := []
  /-- The value of `ui_language`; the outer `none` if there is no file. -/
  file : Option (Option Text)
deriving DecidableEq, Repr

namespace UserPreferences

/-- Save a key file with nothing but the language, which is given as a C string. -/
def saveFile (saves : Bool) (uiLanguage : Text) (s : UserPreferences) : Bool × UserPreferences :=
  if saves then (true, { s with file := some (some (cStr uiLanguage)) }) else (false, s)

def setMigrationDone (s : UserPreferences) : UserPreferences := { s with isMigrationDone := true }

/-- Read the language from UserSettings and save it. -/
def migrateFile (io : MigrationIo) (s : UserPreferences) : UserPreferences :=
  match io.presentationLanguage.bind convertToUserPrefsFormat with
  | none => s
  | some uiLanguage => (s.saveFile io.saves uiLanguage).2

def performMigration (io : MigrationIo) (s : UserPreferences) : Bool × UserPreferences :=
  if io.inspector = false then
    (false, s)
  else
    match io.migrationState with
    | none => (false, s)
    | some false => (true, (s.migrateFile io).setMigrationDone)
    | some true =>
        match s.file with
        | none => (true, (s.migrateFile io).setMigrationDone)
        | some val =>
            if io.loads then
              match val.bind convertToUserSettingsFormat with
              | none => (true, s.setMigrationDone)
              | some presentationLanguage =>
                  if io.setPresentationLanguage presentationLanguage then
                    (true, s.setMigrationDone)
                  else
                    (false, s)
            else
              (true, s.setMigrationDone)

/-- The retry in `getUILanguage` and `setUILanguage`. -/
def retryMigration (io : MigrationIo) (s : UserPreferences) : Bool × UserPreferences :=
  if s.isMigrationDone then (true, s) else s.performMigration io

/-- The part of `Initialize` that uses UserSettings; `tries` are the results of asking for the
interface. -/
def initializePlugin (tries : List Bool) (io : MigrationIo) (s : UserPreferences) :
    UserPreferences :=
  if (tries.take 5).any id then (s.performMigration io).2 else s

/-- Save a language and remember it. -/
def updateFile (saves : Bool) (uiLanguage : Text) (s : UserPreferences) : UserPreferences :=
  if uiLanguage ≠ s.lastUILanguage then
    match s.saveFile saves uiLanguage with
    | (true, saved) => { saved with lastUILanguage := uiLanguage }
    | (false, failed) => failed
  else
    s

def onPresentationLanguageChanged (saves : Bool) (language : Text) (s : UserPreferences) :
    UserPreferences :=
  match convertToUserPrefsFormat language with
  | none => s
  | some uiLanguage => s.updateFile saves uiLanguage

/-- The result is the language in the response; `none` without success. -/
def getUILanguage (userSettings : Bool) (migration : MigrationIo)
    (presentationLanguage : Option Text) (saves : Bool) (s : UserPreferences) :
    Option Text × UserPreferences :=
  if userSettings = false then
    (none, s)
  else
    match s.retryMigration migration with
    | (false, failed) => (none, failed)
    | (true, migrated) =>
        match presentationLanguage.bind convertToUserPrefsFormat with
        | none => (none, migrated)
        | some language => (some language, migrated.updateFile saves language)

/-- `uiLanguage` is the parameter, and `setPresentationLanguage` the answer of UserSettings. -/
def setUILanguage (userSettings : Bool) (migration : MigrationIo) (uiLanguage : Option Text)
    (setPresentationLanguage : Text → Bool) (s : UserPreferences) : Bool × UserPreferences :=
  if userSettings = false then
    (false, s)
  else
    match uiLanguage with
    | none => (false, s)
    | some uiLanguage =>
        match s.retryMigration migration with
        | (false, failed) => (false, failed)
        | (true, migrated) =>
            match convertToUserSettingsFormat uiLanguage with
            | none => (false, migrated)
            | some presentationLanguage =>
                (setPresentationLanguage presentationLanguage, migrated)

inductive Action where
  | initializePlugin (tries : List Bool) (io : MigrationIo)
  | performMigration (io : MigrationIo)
  | onPresentationLanguageChanged (saves : Bool) (language : Text)
  | getUILanguage (userSettings : Bool) (migration : MigrationIo)
      (presentationLanguage : Option Text) (saves : Bool)
  | setUILanguage (userSettings : Bool) (migration : MigrationIo) (uiLanguage : Option Text)
      (setPresentationLanguage : Text → Bool)

def step (s : UserPreferences) : Action → Option UserPreferences
  | .initializePlugin tries io => some (s.initializePlugin tries io)
  | .performMigration io => some (s.performMigration io).2
  | .onPresentationLanguageChanged saves language =>
      some (s.onPresentationLanguageChanged saves language)
  | .getUILanguage userSettings migration presentationLanguage saves =>
      some (s.getUILanguage userSettings migration presentationLanguage saves).2
  | .setUILanguage userSettings migration uiLanguage setPresentationLanguage =>
      some (s.setUILanguage userSettings migration uiLanguage setPresentationLanguage).2

end UserPreferences

end DeviceAndDisplay
