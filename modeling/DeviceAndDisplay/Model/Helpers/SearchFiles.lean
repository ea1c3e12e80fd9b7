import DeviceAndDisplay.Model.Helpers.Settings
import DeviceAndDisplay.Pattern.Grammar

/-! # Searching for files

`searchFilesRec`. The list of the paths stands for `result`, which has each path and a line end. -/

namespace DeviceAndDisplay.Helpers

open Pattern

/-! ### Wildcards -/

/-- A loop that replaces each `c` and goes on behind what it has put there. -/
def replaceEach (c : Char) (text : Text) : Text → Text
  | [] => []
  | d :: rest =>
      if d = c then text ++ replaceEach c text rest else d :: replaceEach c text rest

/-- `pattern_s`. -/
def patternOf (currentPath : Text) : Text :=
  replaceEach '?' ['[', '^', '\\', 'n', ']', '{', '1', '}']
    (replaceEach '*' ['[', '^', '\\', 'n', ']', '*'] currentPath)

/-- Whether `regex_search` finds the pattern in a name; `none` if there is no such expression. -/
def accepts (traits : Traits) (currentPath fileName : Text) : Option Bool :=
  (compile traits (patternOf currentPath)).map (·.search fileName)

/-- The component has a `*` or a `?`. -/
def IsWildcard (currentPath : Text) : Prop := '*' ∈ currentPath ∨ '?' ∈ currentPath

instance (currentPath : Text) : Decidable (IsWildcard currentPath) :=
  inferInstanceAs (Decidable (_ ∨ _))

/-! ### Directories -/

/-- `inputPath` for the components before the current one. -/
def inputPathOf (pathList : List Text) : Text := '/' :: pathList.flatMap (· ++ ['/'])

/-- What `opendir`, `readdir` and `access` give. -/
structure Directories where
  readdir : Text → Option (List Text)
  access : Text → Bool

/-- What a call returns, the components from the current one on, and the paths that it appends. -/
structure Search where
  returned : Bool
  pathList : List Text
  result : List Text
deriving DecidableEq, Repr

/-- The loop over the entries at the last component. -/
def searchLast (fs : Directories) (selects : Text → Bool) :
    List Text → (inputPath : Text) → (count : ℕ) → List Text
  | [], _, _ => []
  | fileName :: entries, inputPath, count =>
      if selects fileName then
        let inputPath := inputPath ++ fileName
        if fs.access inputPath then
          inputPath ::
            (if 10 ≤ count + 1 then [] else searchLast fs selects entries inputPath (count + 1))
        else
          searchLast fs selects entries inputPath count
      else
        searchLast fs selects entries inputPath count

/-- The loop over the entries at a component before the last. An entry replaces the component;
`search` is the nested call for the components up to the entry and those behind it. -/
def searchEntries (search : Text → List Text → Search) (selects : Text → Bool) :
    List Text → (currentPath : Text) → (deeper : List Text) → List Text × List Text
  | [], currentPath, deeper => (currentPath :: deeper, [])
  | fileName :: entries, currentPath, deeper =>
      if selects fileName then
        let nested := search fileName deeper
        let (pathList, result) := searchEntries search selects entries fileName nested.pathList
        (pathList, nested.result ++ result)
      else
        searchEntries search selects entries currentPath deeper

/-- The entries that are looked at: neither `.` nor `..`, matched, and not excluded. -/
def selected (matched : Text → Text → Bool) (exclusions : List Text)
    (currentPath fileName : Text) : Bool :=
  fileName ≠ ['.'] ∧ fileName ≠ ['.', '.'] ∧ matched currentPath fileName ∧ fileName ∉ exclusions

/-- `searchFilesRec` for the components before the current one and those from it on, of which there
are `depth`. -/
def searchFilesRec (fs : Directories) (matched : Text → Text → Bool) (exclusions : List Text) :
    (depth : ℕ) → (front : List Text) → List Text → Search
  | 0, _, pathList => ⟨false, pathList, []⟩
  | _, _, [] => ⟨false, [], []⟩
  | depth + 1, front, currentPath :: deeper =>
      let inputPath := inputPathOf front
      if IsWildcard currentPath then
        match fs.readdir inputPath with
        | none => ⟨false, currentPath :: deeper, []⟩
        | some entries =>
            if deeper = [] then
              ⟨true, [currentPath],
                searchLast fs (selected matched exclusions currentPath) entries inputPath 0⟩
            else
              let (pathList, result) := searchEntries
                (fun fileName => searchFilesRec fs matched exclusions depth (front ++ [fileName]))
                (selected matched exclusions currentPath) entries currentPath deeper
              ⟨true, pathList, result⟩
      else if deeper = [] then
        let inputPath := inputPath ++ currentPath
        ⟨true, [currentPath], if fs.access inputPath then [inputPath] else []⟩
      else
        let nested := searchFilesRec fs matched exclusions depth (front ++ [currentPath]) deeper
        ⟨true, currentPath :: nested.pathList, nested.result⟩

/-- `searchFiles`; the first part of `inputPath` is what stands before the first `/`. -/
def searchFiles (fs : Directories) (matched : Text → Text → Bool) (exclusions : List Text)
    (inputPath : Text) : Search :=
  let pathList := (inputPath.splitOn '/').tail
  searchFilesRec fs matched exclusions pathList.length [] pathList

end DeviceAndDisplay.Helpers
