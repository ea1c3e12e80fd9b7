import DeviceAndDisplay.Model.Helpers.Settings

/-! # The blocklist flag

`setBlocklistFlag` and `getBlocklistFlag` with the device state file. -/

namespace DeviceAndDisplay.SystemServices

open Helpers Storage

namespace Blocklist

/-- `BLOCKLIST`. -/
def blocklist : Text := ['b', 'l', 'o', 'c', 'k', 'l', 'i', 's', 't']

/-- `value ? "true" : "false"` -/
def flagText (value : Bool) : Text :=
  if value then ['t', 'r', 'u', 'e'] else ['f', 'a', 'l', 's', 'e']

/-- The parts of a line around its first `=`. -/
def splitLine (line : Text) : Option (Text × Text) :=
  match find ['='] line with
  | none => none
  | some pos => some (line.take pos, line.drop (pos + 1))

/-- The variables of the loop in `write_parameters`. -/
structure Rewrite where
  update : Bool := false
  oldBlocklistFlag : Bool
  paramFound : Bool := false
  lines : List Text := []
deriving DecidableEq, Repr

/-- The line that stores a value. -/
def paramLine (param : Text) (value : Bool) : Text := param ++ '=' :: flagText value

/-- The loop of `write_parameters`; `none` if it returns because the file has the value. -/
def rewriteLines (param : Text) (value : Bool) : List Text → Rewrite → Option Rewrite
  | [], s => some s
  | line :: rest, s =>
      match splitLine line with
      | some (fileParam, fileValue) =>
          if fileParam = param then
            if fileValue = flagText value then
              none
            else
              rewriteLines param value rest { s with
                update := true
                oldBlocklistFlag :=
                  if fileValue = flagText true then true
                  else if fileValue = flagText false then false
                  else s.oldBlocklistFlag
                paramFound := true
                lines := s.lines ++ [paramLine param value] }
          else
            rewriteLines param value rest { s with lines := s.lines ++ [line] }
      | none => rewriteLines param value rest { s with lines := s.lines ++ [line] }

/-- What `write_parameters` returns and leaves. -/
structure Written where
  status : Bool
  update : Bool
  oldBlocklistFlag : Bool
  file : Option Text
deriving DecidableEq, Repr

/-- The lines that `getline` gives; there is no line in a file that does not exist. -/
def fileLines (file : Option Text) : List Text := readParts '\n' (file.getD [])

/-- `opens` is whether the file can be opened for writing. -/
def writeParameters (file : Option Text) (opens : Bool) (param : Text) (value : Bool)
    (oldBlocklistFlag : Bool) : Written :=
  match rewriteLines param value (fileLines file) { oldBlocklistFlag } with
  | none => { status := true, update := false, oldBlocklistFlag, file }
  | some s =>
      let lines := if s.paramFound then s.lines else s.lines ++ [paramLine param value]
      -- a failure to open the file sets the status, which is then set again
      { status := true
        update := s.update
        oldBlocklistFlag := s.oldBlocklistFlag
        file := if opens then some (terminate '\n' lines) else file }

/-- The value of the first line with the parameter; `none` if `read_parameters` returns `false`. -/
def readLines (param : Text) : List Text → Option Bool
  | [] => none
  | line :: rest =>
      match splitLine line with
      | some (fileParam, fileValue) =>
          if fileParam = param then
            if fileValue = flagText true then some true
            else if fileValue = flagText false then some false
            else none
          else
            readLines param rest
      | none => readLines param rest

def readParameters (file : Option Text) (param : Text) : Option Bool :=
  match file with
  | none => none
  | some _ => readLines param (fileLines file)

/-- The object `error` of a response. -/
structure ErrorObject where
  message : String
  code : String
deriving DecidableEq, Repr

def updateFailed : ErrorObject := ⟨"Blocklist flag update failed", "-32604"⟩

def invalidParams : ErrorObject := ⟨"Invalid params", "-32602"⟩

def retrievalFailed : ErrorObject :=
  ⟨"Blocklist flag retrieved failed from persistent memory.", "-32099"⟩

/-- What a call of `setBlocklistFlag` meets. -/
structure SetIo where
  /-- `checkOpFlashStoreDir` finds or makes the directory. -/
  storeDir : Bool := true
  opens : Bool := true
  /-- What the variable `oldBlocklistFlag` holds before it is set. -/
  oldBlocklistFlag : Bool
deriving DecidableEq, Repr

/-- The response, the file, and the arguments of `onBlocklistChanged` if it is called. -/
structure SetOutcome where
  success : Bool
  error : Option ErrorObject
  file : Option Text
  event : Option (Bool × Bool)
deriving DecidableEq, Repr

/-- `blocklistFlag` is the parameter as a boolean. -/
def setBlocklistFlag (io : SetIo) (blocklistFlag : Option Bool) (file : Option Text) :
    SetOutcome :=
  match blocklistFlag with
  | none => { success := false, error := some invalidParams, file, event := none }
  | some blocklistFlag =>
      if io.storeDir then
        let written := writeParameters file io.opens blocklist blocklistFlag io.oldBlocklistFlag
        { success := written.status
          error := if written.status then none else some updateFailed
          file := written.file
          event :=
            if written.update then some (blocklistFlag, written.oldBlocklistFlag) else none }
      else
        { success := false, error := some updateFailed, file, event := none }

/-- The flag in the response, or the error. -/
def getBlocklistFlag (storeDir : Bool) (file : Option Text) : Except ErrorObject Bool :=
  if storeDir then
    match readParameters file blocklist with
    | some blocklistFlag => .ok blocklistFlag
    | none => .error retrievalFailed
  else
    .error retrievalFailed

end Blocklist

end DeviceAndDisplay.SystemServices
