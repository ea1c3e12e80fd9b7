import DeviceAndDisplay.Model.Helpers.Settings
import DeviceAndDisplay.Storage.Search

/-! # The response to getConfiguration

The loop of `DeviceDiagnosticsImplementation::getConfig` that takes the parameters out of the
response. -/

namespace DeviceAndDisplay.DeviceDiagnostics

open Helpers Storage

structure ParamList where
  name : Text
  value : Text
deriving DecidableEq, Repr

/-- `"name":`. -/
def nameMark : Text := ['"', 'n', 'a', 'm', 'e', '"', ':']

/-- `"value":`. -/
def valueMark : Text := ['"', 'v', 'a', 'l', 'u', 'e', '"', ':']

/-- What evaluating the condition of the loop, and then its body, comes to. -/
inductive Round where
  | finished
  /-- `substr` throws `std::out_of_range`. -/
  | outOfRange
  | next (param : ParamList) (stop : Option ℕ)
deriving DecidableEq, Repr

/-- A round of the loop; `stop` is the variable `end`. -/
def round (response : Text) (stop : Option ℕ) : Round :=
  match findFrom nameMark response stop with
  | none => .finished
  | some start =>
      let start := advance (findFrom ['"'] response (some (start + 6))) 1
      let stop := findFrom ['"'] response (some start)
      match substr response start stop with
      | none => .outOfRange
      | some name =>
          let start := advance (findFrom valueMark response stop) 8
          let stop := findFrom ['}'] response (some start)
          match substr response start stop with
          | none => .outOfRange
          | some value => .next ⟨name, value⟩ stop

inductive Extraction where
  | outOfRange
  | extracted (paramListInfo : List ParamList)
deriving DecidableEq, Repr

/-- At most `fuel` evaluations of the loop condition; `none` if these are not enough. -/
def extract (response : Text) (paramListInfo : List ParamList) :
    ℕ → Option ℕ → Option Extraction
  | 0, _ => none
  | fuel + 1, stop =>
      match round response stop with
      | .finished => some (.extracted paramListInfo)
      | .outOfRange => some .outOfRange
      | .next param stop => extract response (paramListInfo ++ [param]) fuel stop

end DeviceAndDisplay.DeviceDiagnostics
