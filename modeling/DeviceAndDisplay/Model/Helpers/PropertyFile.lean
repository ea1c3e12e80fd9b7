import DeviceAndDisplay.Model.Helpers.Settings

/-! # Property files

`readPropertyFromFile` and `ExpandPropertiesInString`. Both functions of this module count the
nested calls of `readPropertyFromFile` down and have no result when the count is used up. -/

namespace DeviceAndDisplay.Helpers

open Storage

/-- The lines that `getline` gives; a file that does not exist is not open and gives none. -/
def linesOf : Option Text → List Text
  | none => []
  | some text => readParts '\n' text

/-- The line is no comment and starts with the property and a blank or `=`. -/
def IsLineOf (property line : Text) : Prop :=
  line.head? ≠ some '#' ∧ (property ++ [' '] <+: line ∨ property ++ ['='] <+: line)

instance (property line : Text) : Decidable (IsLineOf property line) :=
  inferInstanceAs (Decidable (_ ∧ _))

/-- `line.substr(line.find("=") + 1)`; without `=` this is the whole line. -/
def propertyContent (line : Text) : Text :=
  match find ['='] line with
  | none => line
  | some pos => line.drop (pos + 1)

/-- The text without a line end that it may have. -/
def chomp (value : Text) : Text :=
  if value.getLast? = some '\r' ∨ value.getLast? = some '\n' then value.dropLast else value

/-- The loop over the lines; `read` is the nested call. -/
def readPropertyLines (read : Text → Option (Option Text)) (property : Text) :
    List Text → Option (Option Text)
  | [] => some none
  | line :: lines =>
      if IsLineOf property line then
        match propertyContent line with
        | '$' :: expandedProperty =>
            match read expandedProperty with
            | none => none
            | some (some value) => some (some value)
            | some none => readPropertyLines read property lines
        | content => some (some (chomp content))
      else
        readPropertyLines read property lines

/-- `readPropertyFromFile`: the value if it returns `true`, `none` if it returns `false`. -/
def readPropertyFromFile (file : Option Text) : ℕ → Text → Option (Option Text)
  | 0, _ => none
  | calls + 1, property =>
      readPropertyLines (readPropertyFromFile file calls) property (linesOf file)

/-- A blank or `/`, the ends of a variable. -/
def IsDelimiter (c : Char) : Prop := c = ' ' ∨ c = '/'

instance (c : Char) : Decidable (IsDelimiter c) := inferInstanceAs (Decidable (_ ∨ _))

/-- The loop of `ExpandPropertiesInString`: what it returns, and `expandedString`. The input is
`front`, the `$` at `variablePos` and `rest`; the text before the `$` is assigned anew each time. -/
def expandFrom (read : Text → Option (Option Text)) (front rest : Text) : Option (Bool × Text) :=
  let variableName := rest.takeWhile fun c => ¬ IsDelimiter c
  let delimited := rest.dropWhile fun c => ¬ IsDelimiter c
  if delimited = [] then
    match h : rest.dropWhile (· ≠ '$') with
    | [] => some (true, front ++ rest)
    | _ :: next => expandFrom read (front ++ '$' :: rest.takeWhile (· ≠ '$')) next
  else
    match read variableName with
    | none => none
    | some none => some (false, front)
    | some (some value) =>
        match h : delimited.dropWhile (· ≠ '$') with
        | [] => some (true, front ++ value ++ delimited)
        | _ :: next =>
            expandFrom read
              (front ++ '$' :: variableName ++ delimited.takeWhile (· ≠ '$')) next
termination_by rest.length
decreasing_by
  · have hle := (List.dropWhile_sublist (fun c : Char => decide (c ≠ '$')) (l := rest)).length_le
    rw [h, List.length_cons] at hle
    omega
  · have hdelimited : delimited.length ≤ rest.length := (List.dropWhile_sublist _).length_le
    have hle := (List.dropWhile_sublist (fun c : Char => decide (c ≠ '$'))
      (l := delimited)).length_le
    rw [h, List.length_cons] at hle
    omega

/-- `ExpandPropertiesInString`, for what `expandedString` holds before. -/
def expandPropertiesInString (file : Option Text) (calls : ℕ) (input expandedString : Text) :
    Option (Bool × Text) :=
  match input.dropWhile (· ≠ '$') with
  | [] => some (true, expandedString)
  | _ :: rest =>
      expandFrom (readPropertyFromFile file calls) (input.takeWhile (· ≠ '$')) rest

end DeviceAndDisplay.Helpers
