import DeviceAndDisplay.Model.Warehouse.IsClean
import DeviceAndDisplay.Verification.Helpers.SearchFiles

/-! # What a clean device has none of

Without an age, the answer is that the device is clean exactly if nothing exists that a path of the
file stands for. With an age, the objects are those found without one that are older. -/

namespace DeviceAndDisplay.Warehouse

open Helpers Storage

variable {fs : FileSystem} {env : CleanEnv} {calls : ℕ} {age : ℤ} {paths : List Text}
  {exclusions before front : List Text} {last path inputPath : Text}

/-! ### What a path stands for -/

/-- The paths that a target stands for: of a search those whose components match its own. -/
def Names (matched : Text → Text → Bool) (path : Text) : CleanTarget → Prop
  | .skipped => False
  | .file file => path = cStr file
  | .search inputPath exclusions =>
      ∃ before last front name, (inputPath.splitOn '/').tail = before ++ [last] ∧
        List.Forall₂ (Fits matched exclusions) before front ∧ Fits matched exclusions last name ∧
        path = inputPathOf front ++ name

/-- A text that does not become empty by trimming. -/
def Visible (name : Text) : Prop := ∃ c ∈ name, isSpace c = false

/-- A search for components of which the last is visible, and in which no replaced component is read
again. -/
def Searchable (fs : FileSystem) (matched : Text → Text → Bool) : CleanTarget → Prop
  | .search inputPath exclusions =>
      (∀ last ∈ (inputPath.splitOn '/').tail.getLast?, Visible last) ∧
        Undisturbed fs matched exclusions [] (inputPath.splitOn '/').tail
  | _ => True

/-- The files are those of a tree whose entries have visible names, and `stat` finds what exists. -/
structure HasTree (env : CleanEnv) (fs : FileSystem) : Prop where
  directories : env.directories = fs.toDirectories
  visible : ∀ dir entries name, fs.readdir dir = some entries → name ∈ entries → Visible name
  stat : ∀ path, (env.modifiedSecondsAgo path).isSome = fs.access path

/-! ### The lines of the result -/

theorem Visible.append_left {name : Text} (h : Visible name) (front : Text) :
    Visible (front ++ name) := by
  obtain ⟨c, hc, hvisible⟩ := h
  exact ⟨c, List.mem_append_right _ hc, hvisible⟩

theorem Visible.append_right {name : Text} (h : Visible name) (back : Text) :
    Visible (name ++ back) := by
  obtain ⟨c, hc, hvisible⟩ := h
  exact ⟨c, List.mem_append_left _ hc, hvisible⟩

theorem trim_cons_of_visible {c : Char} {rest : Text} (hc : isSpace c = false)
    (h : Visible rest) : 1 < (trim (c :: rest)).length := by
  have hdrop : (c :: rest).dropWhile isSpace = c :: rest :=
    List.dropWhile_cons_of_neg (by simp [hc])
  obtain ⟨d, hd, hvisible⟩ := h
  obtain ⟨before, after, rfl⟩ := List.append_of_mem hd
  have hsplit : c :: (before ++ d :: after) = (c :: before) ++ d :: after := rfl
  rw [trim, trimBy, hdrop, hsplit, List.rdropWhile, List.reverse_append, List.dropWhile_append]
  split
  · rename_i hempty
    rw [List.isEmpty_iff, List.dropWhile_eq_nil_iff] at hempty
    have hspace := hempty d (by simp)
    rw [hvisible] at hspace
    cases hspace
  · rename_i hne
    rw [List.length_reverse, List.length_append, List.length_reverse, List.length_cons]
    rw [List.isEmpty_iff, ← List.length_eq_zero_iff] at hne
    omega

/-- A search that found something has lines. -/
theorem resultLines_eq_nil_iff {search : Search}
    (h : ∀ path ∈ search.result, ∃ rest, path = '/' :: rest ∧ Visible rest) :
    resultLines search = [] ↔ search.result = [] := by
  have hparts : ∀ {text : Text}, 1 < text.length → readParts '\n' text ≠ [] := fun hlength =>
    readParts_ne_nil (List.ne_nil_of_length_pos (by omega))
  rw [resultLines]
  cases hresult : search.result with
  | nil => cases search.returned <;> simp [trim, trimBy]
  | cons path paths =>
      obtain ⟨rest, rfl, hvisible⟩ := h path (hresult ▸ List.mem_cons_self)
      have htext : terminate '\n' (('/' :: rest) :: paths) =
          '/' :: (rest ++ '\n' :: terminate '\n' paths) := by simp
      have hback : Visible (rest ++ '\n' :: terminate '\n' paths) := hvisible.append_right _
      simp only [reduceCtorEq, iff_false, htext]
      have hlength : 1 < (if search.returned = true
          then trim ('/' :: (rest ++ '\n' :: terminate '\n' paths))
          else '/' :: (rest ++ '\n' :: terminate '\n' paths)).length := by
        split
        · exact trim_cons_of_visible (by decide) hback
        · simp only [List.length_cons, List.length_append]
          omega
      rw [if_pos hlength]
      exact hparts hlength

/-! ### What a search finds -/

/-- The paths that are listed in a directory. -/
theorem visible_of_listed {matched : Text → Text → Bool} (hvisible : ∀ dir entries name,
      fs.readdir dir = some entries → name ∈ entries → Visible name) (hlast : Visible last)
    {dir : List Text} (h : path ∈ listing fs matched exclusions dir last) :
    ∃ rest, path = '/' :: rest ∧ Visible rest := by
  have hdir : ∀ name, Visible name →
      ∃ rest, inputPathOf dir ++ name = '/' :: rest ∧ Visible rest := fun name hname =>
    ⟨_, rfl, hname.append_left _⟩
  rw [listing] at h
  split at h
  · obtain ⟨names, rest, hnames, hne, rfl⟩ := mem_searchLast h
    obtain ⟨name, names, rfl⟩ := List.exists_cons_of_ne_nil hne
    have hname : name ∈ candidates fs matched exclusions dir last := by simp [hnames]
    obtain ⟨⟨entries, hread, hmem⟩, _⟩ := mem_candidates.mp hname
    exact hdir _ ((hvisible _ entries name hread hmem).append_right names.flatten)
  · split at h
    · obtain rfl := List.mem_singleton.mp h
      exact hdir last hlast
    · cases h

/-- A directory has nothing listed exactly if no name in it fits. -/
theorem listing_eq_nil_iff {matched : Text → Text → Bool} {dir : List Text} :
    listing fs matched exclusions dir last = [] ↔
      ∀ name, Fits matched exclusions last name → fs.access (inputPathOf dir ++ name) = false := by
  rw [listing]
  by_cases hwild : IsWildcard last
  · rw [if_pos hwild]
    constructor
    · intro hnil name hfits
      by_contra haccess
      have hempty : fs.access (inputPathOf dir ++ name ++ []) = true := by
        rw [List.append_nil]
        exact Bool.eq_true_of_not_eq_false haccess
      have hname := candidate_of_access hwild hfits hempty (.inl rfl)
      obtain ⟨first, rest, hcandidates⟩ :=
        List.exists_cons_of_ne_nil (List.ne_nil_of_mem hname)
      have hfirst : first ∈ candidates fs matched exclusions dir last := by simp [hcandidates]
      have hlisted := (entry_of_candidate hfirst).2.2
      rw [hcandidates, searchLast, if_pos rfl] at hnil
      simp only [hlisted, if_true] at hnil
      cases hnil
    · intro hnone
      have hcandidates : candidates fs matched exclusions dir last = [] := by
        rw [List.eq_nil_iff_forall_not_mem]
        intro name hname
        have haccess := hnone name (fits_of_candidate hwild hname)
        rw [(entry_of_candidate hname).2.2] at haccess
        cases haccess
      rw [hcandidates, searchLast]
  · rw [if_neg hwild]
    simp [Fits, hwild]

theorem searchFiles_eq_nil_iff (matched : Text → Text → Bool)
    (h : Searchable fs matched (.search inputPath exclusions)) :
    (searchFiles fs.toDirectories matched exclusions inputPath).result = [] ↔
      ∀ path, Names matched path (.search inputPath exclusions) → fs.access path = false := by
  obtain ⟨_, hundisturbed⟩ := h
  simp only [searchFiles, Names]
  rcases List.eq_nil_or_concat' (inputPath.splitOn '/').tail with hnil | ⟨before, last, hpath⟩
  · rw [hnil]
    simp [searchFilesRec]
  · rw [hpath] at hundisturbed ⊢
    rw [result_of_undisturbed before last [] hundisturbed, List.flatMap_eq_nil_iff]
    constructor
    · intro hnil path hnames
      obtain ⟨before', last', front, name, heq, hfront, hname, rfl⟩ := hnames
      obtain ⟨rfl, hlast⟩ := List.append_inj' heq rfl
      obtain rfl : last = last' := by simpa using hlast
      by_contra haccess
      have hexists := Bool.eq_true_of_not_eq_false haccess
      have hdir : front ∈ directories fs matched exclusions [] (before ++ [last]) := by
        have hmem := @mem_directories_of_fits fs matched exclusions [] front before last name
          hfront
        exact hmem hexists
      have hnone := listing_eq_nil_iff.mp (hnil front hdir) name hname
      rw [hexists] at hnone
      cases hnone
    · intro hnone dir hdir
      obtain ⟨names, rfl, hnames⟩ := fits_of_mem_directories hdir
      refine listing_eq_nil_iff.mpr fun name hname => ?_
      exact hnone _ ⟨before, last, _, name, rfl, hnames, hname, rfl⟩

/-! ### The objects of a target -/

theorem resultLines_searchFiles (htree : HasTree env fs)
    (h : Searchable fs env.matched (.search inputPath exclusions)) :
    resultLines (searchFiles env.directories env.matched exclusions inputPath) = [] ↔
      ∀ path, Names env.matched path (.search inputPath exclusions) →
        fs.access path = false := by
  rw [htree.directories, ← searchFiles_eq_nil_iff env.matched h]
  refine resultLines_eq_nil_iff fun path hpath => ?_
  obtain ⟨hvisible, hundisturbed⟩ := h
  simp only [searchFiles] at hpath
  rcases List.eq_nil_or_concat' (inputPath.splitOn '/').tail with hnil | ⟨before, last, hparts⟩
  · rw [hnil] at hpath
    cases hpath
  · rw [hparts] at hvisible hundisturbed hpath
    rw [result_of_undisturbed before last [] hundisturbed] at hpath
    obtain ⟨dir, _, hlisted⟩ := List.mem_flatMap.mp hpath
    exact visible_of_listed htree.visible (hvisible last (by simp)) hlisted

/-- Without an age, nothing is told of a target exactly if nothing exists that it stands for. -/
theorem objectsOf_eq_nil_iff (htree : HasTree env fs) {target : CleanTarget}
    (h : Searchable fs env.matched target) :
    objectsOf env (-1) target = [] ↔
      ∀ path, Names env.matched path target → fs.access path = false := by
  cases target with
  | skipped => simp [objectsOf, Names]
  | file file =>
      have hstat := htree.stat (cStr file)
      have hexists : isFileExistsAndOlderThen env (-1) file = fs.access (cStr file) := by
        rw [← hstat, isFileExistsAndOlderThen]
        cases env.modifiedSecondsAgo (cStr file) <;> rfl
      simp [objectsOf, Names, hexists]
  | search inputPath exclusions =>
      rw [objectsOf, if_neg (by decide)]
      exact resultLines_searchFiles htree h

/-- An age leaves of the objects those that are older. -/
theorem objectsOf_filter (hage : -1 < age) (target : CleanTarget) :
    objectsOf env age target =
      (objectsOf env (-1) target).filter (isFileExistsAndOlderThen env age) := by
  cases target with
  | skipped => rfl
  | file file =>
      rw [objectsOf, objectsOf]
      by_cases hexists : isFileExistsAndOlderThen env (-1) file = true
      · by_cases holder : isFileExistsAndOlderThen env age file = true <;>
          simp [hexists, holder]
      · have holder : isFileExistsAndOlderThen env age file = false := by
          rw [isFileExistsAndOlderThen] at hexists ⊢
          cases hstat : env.modifiedSecondsAgo (cStr file) with
          | none => rfl
          | some seconds => simp [hstat] at hexists
        simp [hexists, holder]
  | search inputPath exclusions =>
      simp only [objectsOf]
      rw [if_pos hage, if_neg (by decide)]

theorem checkPaths_cons {list : List Text} :
    checkPaths env calls age (path :: paths) = some list ↔
      ∃ target rest, targetOf env calls path = some target ∧
        checkPaths env calls age paths = some rest ∧ list = objectsOf env age target ++ rest := by
  rw [checkPaths]
  cases targetOf env calls path with
  | none => simp
  | some target =>
      cases checkPaths env calls age paths with
      | none => simp
      | some rest => simp [eq_comm]

theorem checkPaths_filter (hage : -1 < age) (paths : List Text) :
    checkPaths env calls age paths =
      (checkPaths env calls (-1) paths).map
        (List.filter (isFileExistsAndOlderThen env age)) := by
  induction paths with
  | nil => rfl
  | cons path paths ih =>
      rw [checkPaths, checkPaths, ih]
      cases targetOf env calls path with
      | none => rfl
      | some target =>
          cases checkPaths env calls (-1) paths with
          | none => rfl
          | some rest =>
              simp only [Option.map_some, objectsOf_filter hage, List.filter_append]

theorem checkPaths_eq_nil_iff {list : List Text}
    (h : checkPaths env calls age paths = some list) :
    list = [] ↔ ∀ path ∈ paths, ∀ target, targetOf env calls path = some target →
      objectsOf env age target = [] := by
  induction paths generalizing list with
  | nil =>
      cases h
      simp
  | cons path paths ih =>
      obtain ⟨target, rest, htarget, hrest, rfl⟩ := checkPaths_cons.mp h
      rw [List.append_eq_nil_iff, ih hrest]
      simp [htarget]

/-! ### The answer -/

/-- The objects that an answer tells of. -/
def CleanReport.objects (report : CleanReport) : List Text :=
  if report.clean = true then [] else report.files

theorem exists_of_isClean {report : CleanReport} (h : isClean env calls age = some report)
    (hsuccess : report.success = true) :
    ∃ customData, env.customData = some customData ∧ listPathsToRemove customData ≠ [] ∧
      checkPaths env calls age (listPathsToRemove customData) = some report.objects ∧
      (report.clean = true ↔ report.objects = []) := by
  rw [isClean] at h
  cases hdata : env.customData with
  | none =>
      rw [hdata] at h
      cases h
      cases hsuccess
  | some customData =>
      rw [hdata] at h
      by_cases hnil : listPathsToRemove customData = []
      · simp only [hnil, if_true] at h
        cases h
        cases hsuccess
      · simp only [hnil, if_false] at h
        obtain ⟨list, hlist, rfl⟩ := Option.map_eq_some_iff.mp h
        refine ⟨customData, rfl, hnil, ?_, ?_⟩
        · rw [hlist]
          by_cases hempty : list = [] <;> simp [CleanReport.objects, hempty]
        · by_cases hempty : list = [] <;> simp [CleanReport.objects, hempty]

/-- The files `/a` and `/b` of ten seconds ago, and the path `/*`. -/
def twoRecentFiles : CleanEnv where
  customData := some ['#', ' ', 'a', '\n', '/', '*', '\n']
  properties := none
  directories := twoFiles.toDirectories
  matched := fun _ _ => true
  modifiedSecondsAgo := fun path => if twoFiles.access path then some 10 else none

theorem hasTree_twoRecentFiles : HasTree twoRecentFiles twoFiles where
  directories := rfl
  visible := by
    intro dir entries name hread hname
    change (if dir = ['/'] then some [['a'], ['b']] else none) = some entries at hread
    split at hread
    · cases hread
      simp only [List.mem_cons, List.not_mem_nil, or_false] at hname
      rcases hname with rfl | rfl
      · exact ⟨'a', by decide, by decide⟩
      · exact ⟨'b', by decide, by decide⟩
    · cases hread
  stat := by
    intro path
    change (if twoFiles.access path then some (10 : ℤ) else none).isSome = twoFiles.access path
    cases twoFiles.access path <;> rfl

end DeviceAndDisplay.Warehouse
