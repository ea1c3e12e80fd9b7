import DeviceAndDisplay.Model.SystemServices.PlatformCaps
import DeviceAndDisplay.Storage.CString

/-! # GetValueFromPropertiesFile

The value of a key in a properties file, which is read into an array of 1024 characters. -/

namespace DeviceAndDisplay.SystemServices

open Helpers Storage

/-- `Utils::String::trim` -/
def trimSpaces (s : Text) : Text := trimBy isSpace s

/-- The value, if `line` begins with the key and the delimiter. -/
def valueOfLine (key : Text) (delimiter : Char) (line : Text) : Option Text :=
  if delimiter ∈ line then
    let k := line.takeWhile (· ≠ delimiter)
    if k = key then
      some (trimSpaces ((line.dropWhile (· ≠ delimiter)).drop 1))
    else none
  else none

/-- `GetValueFromPropertiesFile`: the response if it returns `ERROR_NONE`. The delimiters of all
calls are of one character. -/
def getValueFromPropertiesFile (file : Option Text) (key : Text) (delimiter : Char) :
    Option Text :=
  ((file.map (fgets 1024)).getD []).findSome? fun buf => valueOfLine key delimiter (cText buf)

end DeviceAndDisplay.SystemServices
