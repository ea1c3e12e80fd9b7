import DeviceAndDisplay.Model.Helpers.SearchFiles
import DeviceAndDisplay.Storage.Text

/-! # Complete searches

At the last component `inputPath` keeps the names that were looked at before, so that a second match
is not found. Before it, an entry replaces the component for good, so that a component that is read
again no longer matches all it should. -/

namespace DeviceAndDisplay.Helpers

open Storage

/-! ### Directory trees -/

/-- A name in a directory. -/
def IsEntryName (name : Text) : Prop :=
  name ≠ [] ∧ name ≠ ['.'] ∧ name ≠ ['.', '.'] ∧ '/' ∉ name

/-- A directory tree. Its directories have no entry twice, every entry exists, and what exists below
a directory lies below one of its entries. -/
structure FileSystem extends Directories where
  nodup : ∀ {dir entries}, readdir dir = some entries → entries.Nodup
  entry : ∀ {dir entries name}, readdir dir = some entries → name ∈ entries →
    name ≠ [] ∧ '/' ∉ name ∧ access (dir ++ name) = true
  listed : ∀ {dir name after}, access (dir ++ '/' :: name ++ after) = true → IsEntryName name →
    (after = [] ∨ after.head? = some '/') →
    ∃ entries, readdir (dir ++ ['/']) = some entries ∧ name ∈ entries

section Search

variable (fs : FileSystem) (matched : Text → Text → Bool) (exclusions : List Text)
  {front names before : List Text} {current last name path : Text}

/-! ### The paths to be found -/

/-- The name matches the component: a wildcard by `matched`, unless it is excluded, and any other
component by being the name. -/
def Fits (current name : Text) : Prop :=
  if IsWildcard current then
    IsEntryName name ∧ matched current name = true ∧ name ∉ exclusions
  else
    name = current

/-- The entries that match a wildcard. -/
def candidates (front : List Text) (current : Text) : List Text :=
  ((fs.readdir (inputPathOf front)).getD []).filter (selected matched exclusions current)

/-- An existing path whose components match the given ones. For a wildcard as the last component it
is among the first ten of its directory. -/
def Expected (components : List Text) (path : Text) : Prop :=
  ∃ before last front name, components = before ++ [last] ∧
    List.Forall₂ (Fits matched exclusions) before front ∧ Fits matched exclusions last name ∧
    path = inputPathOf front ++ name ∧ fs.access path = true ∧
    (IsWildcard last → name ∈ (candidates fs matched exclusions front last).take 10)

/-- The paths that the search appends are those to be found, each once. -/
def Complete (components : List Text) : Prop :=
  let result := (searchFilesRec fs.toDirectories matched exclusions components.length []
    components).result
  result.Nodup ∧ ∀ path, path ∈ result ↔ Expected fs matched exclusions components path

/-! ### The condition -/

/-- The directories that match all components but the last, in the order of the search. -/
def directories (front : List Text) : List Text → List (List Text)
  | [] => []
  | [_] => [front]
  | current :: deeper =>
      if IsWildcard current then
        (candidates fs matched exclusions front current).flatMap fun name =>
          directories (front ++ [name]) deeper
      else
        directories (front ++ [current]) deeper

/-- The next wildcard before the last component matches nothing, if there is one. -/
def Idle (front : List Text) : List Text → Prop
  | [] => True
  | [_] => True
  | current :: deeper =>
      if IsWildcard current then candidates fs matched exclusions front current = []
      else Idle (front ++ [current]) deeper

/-- A further wildcard before the last component matches something only below the last name that
matches a wildcard before it, so that no replaced component is read again. -/
def Undisturbed (front : List Text) : List Text → Prop
  | [] => True
  | [_] => True
  | current :: deeper =>
      if IsWildcard current then
        (∀ name ∈ candidates fs matched exclusions front current,
          Undisturbed (front ++ [name]) deeper) ∧
        ∀ name ∈ (candidates fs matched exclusions front current).dropLast,
          Idle fs matched exclusions (front ++ [name]) deeper
      else Undisturbed (front ++ [current]) deeper

/-- If the last component is a wildcard, it matches at most one name in each directory. -/
def SingleMatches (components : List Text) : Prop :=
  ∀ dir ∈ directories fs matched exclusions [] components, ∀ last ∈ components.getLast?,
    IsWildcard last → (candidates fs matched exclusions dir last).length ≤ 1

end Search

/-! ### The loops -/

section Loops

variable {fs : Directories} {selects : Text → Bool} {entries : List Text}

theorem searchLast_filter (entries : List Text) (inputPath : Text) (count : ℕ) :
    searchLast fs selects entries inputPath count =
      searchLast fs (fun _ => true) (entries.filter selects) inputPath count := by
  induction entries generalizing inputPath count with
  | nil => rfl
  | cons fileName entries ih =>
      rw [searchLast]
      by_cases hselects : selects fileName = true
      · rw [if_pos hselects, List.filter_cons_of_pos hselects, searchLast, if_pos rfl]
        simp only [ih]
      · rw [if_neg hselects, List.filter_cons_of_neg hselects, ih]

/-- What is appended has the names up to some entry behind the directory. -/
theorem mem_searchLast {inputPath path : Text} {count : ℕ}
    (h : path ∈ searchLast fs (fun _ => true) entries inputPath count) :
    ∃ names rest, entries = names ++ rest ∧ names ≠ [] ∧ path = inputPath ++ names.flatten := by
  induction entries generalizing inputPath count with
  | nil => cases h
  | cons fileName entries ih =>
      have hlater : ∀ count,
          path ∈ searchLast fs (fun _ => true) entries (inputPath ++ fileName) count →
          ∃ names rest, fileName :: entries = names ++ rest ∧ names ≠ [] ∧
            path = inputPath ++ names.flatten := by
        intro count hmem
        obtain ⟨names, rest, rfl, _, rfl⟩ := ih hmem
        exact ⟨fileName :: names, rest, rfl, by simp, by simp⟩
      simp only [searchLast, if_true] at h
      split at h
      · rcases List.mem_cons.mp h with rfl | h
        · exact ⟨[fileName], entries, rfl, by simp, by simp⟩
        · split at h
          · cases h
          · exact hlater _ h
      · exact hlater _ h

theorem searchEntries_none {search : Text → List Text → Search} (h : entries.filter selects = [])
    (current : Text) (deeper : List Text) :
    searchEntries search selects entries current deeper = (current :: deeper, []) := by
  induction entries with
  | nil => rfl
  | cons fileName entries ih =>
      obtain ⟨hselects, hentries⟩ := List.forall_mem_cons.mp (List.filter_eq_nil_iff.mp h)
      rw [searchEntries, if_neg hselects, ih (List.filter_eq_nil_iff.mpr hentries)]

/-- If no nested call but the last replaces a component, each starts from the given ones. -/
theorem searchEntries_of_unchanged {search : Text → List Text → Search} {deeper : List Text}
    (h : ∀ name ∈ (entries.filter selects).dropLast, (search name deeper).pathList = deeper)
    (current : Text) :
    (searchEntries search selects entries current deeper).2 =
      (entries.filter selects).flatMap fun name => (search name deeper).result := by
  induction entries generalizing current with
  | nil => rfl
  | cons fileName entries ih =>
      rw [searchEntries]
      by_cases hselects : selects fileName = true
      · rw [if_pos hselects]
        rw [List.filter_cons_of_pos hselects] at h ⊢
        simp only [List.flatMap_cons]
        congr 1
        by_cases hlast : entries.filter selects = []
        · rw [searchEntries_none hlast, hlast]
          rfl
        · rw [List.dropLast_cons_of_ne_nil hlast] at h
          obtain ⟨hhead, htail⟩ := List.forall_mem_cons.mp h
          rw [hhead, ih htail]
      · rw [if_neg hselects]
        rw [List.filter_cons_of_neg hselects] at h ⊢
        exact ih h current

end Loops

/-! ### The search without replaced components -/

section Search

variable {fs : FileSystem} {matched : Text → Text → Bool} {exclusions : List Text}
  {front names before deeper : List Text} {current last name path : Text}

theorem directories_cons (h : deeper ≠ []) :
    directories fs matched exclusions front (current :: deeper) =
      if IsWildcard current then
        (candidates fs matched exclusions front current).flatMap fun name =>
          directories fs matched exclusions (front ++ [name]) deeper
      else directories fs matched exclusions (front ++ [current]) deeper := by
  cases deeper with
  | nil => exact absurd rfl h
  | cons next deeper => rfl

theorem idle_cons (h : deeper ≠ []) :
    Idle fs matched exclusions front (current :: deeper) ↔
      if IsWildcard current then candidates fs matched exclusions front current = []
      else Idle fs matched exclusions (front ++ [current]) deeper := by
  cases deeper with
  | nil => exact absurd rfl h
  | cons next deeper => rfl

theorem undisturbed_cons (h : deeper ≠ []) :
    Undisturbed fs matched exclusions front (current :: deeper) ↔
      if IsWildcard current then
        (∀ name ∈ candidates fs matched exclusions front current,
          Undisturbed fs matched exclusions (front ++ [name]) deeper) ∧
        ∀ name ∈ (candidates fs matched exclusions front current).dropLast,
          Idle fs matched exclusions (front ++ [name]) deeper
      else Undisturbed fs matched exclusions (front ++ [current]) deeper := by
  cases deeper with
  | nil => exact absurd rfl h
  | cons next deeper => rfl

theorem candidates_of_readdir {entries : List Text}
    (h : fs.readdir (inputPathOf front) = some entries) (current : Text) :
    candidates fs matched exclusions front current =
      entries.filter (selected matched exclusions current) := by
  rw [candidates, h, Option.getD_some]

theorem candidates_of_none (h : fs.readdir (inputPathOf front) = none) (current : Text) :
    candidates fs matched exclusions front current = [] := by
  rw [candidates, h]
  rfl

/-- What a call appends for the last component. -/
def listing (fs : FileSystem) (matched : Text → Text → Bool) (exclusions front : List Text)
    (last : Text) : List Text :=
  if IsWildcard last then
    searchLast fs.toDirectories (fun _ => true) (candidates fs matched exclusions front last)
      (inputPathOf front) 0
  else if fs.access (inputPathOf front ++ last) then [inputPathOf front ++ last] else []

theorem search_last (front : List Text) (last : Text) :
    (searchFilesRec fs.toDirectories matched exclusions 1 front [last]).pathList = [last] ∧
      (searchFilesRec fs.toDirectories matched exclusions 1 front [last]).result =
        listing fs matched exclusions front last := by
  rw [searchFilesRec, listing]
  by_cases hwild : IsWildcard last
  · simp only [hwild, if_true]
    cases hdir : fs.readdir (inputPathOf front) with
    | none =>
        rw [candidates_of_none hdir]
        exact ⟨rfl, rfl⟩
    | some entries =>
        rw [candidates_of_readdir hdir]
        exact ⟨rfl, searchLast_filter entries _ 0⟩
  · simp only [hwild, if_false, if_true]
    exact ⟨trivial, trivial⟩

/-- A call that comes to no entry before the last component leaves the components as they are. -/
theorem pathList_of_idle (components front : List Text)
    (h : Idle fs matched exclusions front components) :
    (searchFilesRec fs.toDirectories matched exclusions components.length front
      components).pathList = components := by
  induction components generalizing front with
  | nil => rfl
  | cons current deeper ih =>
      by_cases hdeeper : deeper = []
      · subst hdeeper
        exact (search_last front current).1
      · rw [idle_cons hdeeper] at h
        rw [List.length_cons, searchFilesRec]
        by_cases hwild : IsWildcard current
        · rw [if_pos hwild] at h
          simp only [hwild, hdeeper, if_true, if_false]
          cases hdir : fs.readdir (inputPathOf front) with
          | none => rfl
          | some entries =>
              rw [candidates_of_readdir hdir] at h
              simp only [searchEntries_none h]
        · rw [if_neg hwild] at h
          simp only [hwild, hdeeper, if_false, ih _ h]

theorem result_of_undisturbed (before : List Text) (last : Text) (front : List Text)
    (h : Undisturbed fs matched exclusions front (before ++ [last])) :
    (searchFilesRec fs.toDirectories matched exclusions (before ++ [last]).length front
      (before ++ [last])).result =
      (directories fs matched exclusions front (before ++ [last])).flatMap fun dir =>
        listing fs matched exclusions dir last := by
  induction before generalizing front with
  | nil =>
      have hresult := (@search_last fs matched exclusions front last).2
      simpa [directories] using hresult
  | cons current before ih =>
      have hdeeper : before ++ [last] ≠ [] := by simp
      rw [List.cons_append, undisturbed_cons hdeeper] at h
      rw [List.cons_append, directories_cons hdeeper, List.length_cons, searchFilesRec]
      by_cases hwild : IsWildcard current
      · rw [if_pos hwild] at h
        simp only [hwild, hdeeper, if_true, if_false]
        cases hdir : fs.readdir (inputPathOf front) with
        | none =>
            rw [candidates_of_none hdir]
            rfl
        | some entries =>
            rw [candidates_of_readdir hdir] at h ⊢
            change (searchEntries _ _ entries current _).2 = _
            rw [searchEntries_of_unchanged fun name hname => pathList_of_idle _ _ (h.2 name hname),
              List.flatMap_assoc]
            exact List.flatMap_congr fun name hname => ih _ (h.1 name hname)
      · rw [if_neg hwild] at h
        simp only [hwild, hdeeper, if_false, ih _ h]

/-! ### Paths and their directories -/

theorem inputPathOf_append (front names : List Text) :
    inputPathOf (front ++ names) = inputPathOf front ++ names.flatMap (· ++ ['/']) := by
  simp [inputPathOf]

theorem exists_dir (front : List Text) : ∃ dir, inputPathOf front = dir ++ ['/'] := by
  rcases List.eq_nil_or_concat' front with rfl | ⟨init, name, rfl⟩
  · exact ⟨[], rfl⟩
  · refine ⟨inputPathOf init ++ name, ?_⟩
    rw [inputPathOf_append]
    simp

theorem slash_injective {left right left' right' : Text} (hleft : '/' ∉ left) (hleft' : '/' ∉ left')
    (h : left ++ '/' :: right = left' ++ '/' :: right') : left = left' ∧ right = right' := by
  have htake := congrArg (find ['/']) h
  rw [find_separator hleft, find_separator hleft', Option.some.injEq] at htake
  obtain ⟨hfront, hback⟩ := List.append_inj h htake
  exact ⟨hfront, (List.cons.inj hback).2⟩

/-- A path determines its components. -/
theorem path_injective {names names' : List Text} {name name' : Text}
    (hnames : ∀ n ∈ names, '/' ∉ n) (hnames' : ∀ n ∈ names', '/' ∉ n) (hname : '/' ∉ name)
    (hname' : '/' ∉ name') (h : inputPathOf names ++ name = inputPathOf names' ++ name') :
    names = names' ∧ name = name' := by
  have hflat : names.flatMap (· ++ ['/']) ++ name = names'.flatMap (· ++ ['/']) ++ name' := by
    simpa [inputPathOf] using h
  clear h
  induction names generalizing names' with
  | nil =>
      cases names' with
      | nil => exact ⟨rfl, hflat⟩
      | cons n names' =>
          simp only [List.flatMap_nil, List.nil_append] at hflat
          exact absurd (by simp [hflat]) hname
  | cons n names ih =>
      cases names' with
      | nil =>
          simp only [List.flatMap_nil, List.nil_append] at hflat
          exact absurd (by simp [← hflat]) hname'
      | cons n' names' =>
          obtain ⟨hn, htail⟩ := List.forall_mem_cons.mp hnames
          obtain ⟨hn', htail'⟩ := List.forall_mem_cons.mp hnames'
          simp only [List.flatMap_cons, List.append_assoc, List.cons_append,
            List.nil_append] at hflat
          obtain ⟨rfl, hrest⟩ := slash_injective hn hn' hflat
          obtain ⟨rfl, rfl⟩ := ih htail htail' hrest
          exact ⟨rfl, rfl⟩

/-! ### Candidates and directories -/

theorem mem_candidates :
    name ∈ candidates fs matched exclusions front current ↔
      (∃ entries, fs.readdir (inputPathOf front) = some entries ∧ name ∈ entries) ∧
        selected matched exclusions current name = true := by
  rw [candidates, List.mem_filter]
  refine and_congr_left fun _ => ?_
  cases fs.readdir (inputPathOf front) <;> simp

theorem nodup_candidates (fs : FileSystem) (matched : Text → Text → Bool)
    (exclusions front : List Text) (current : Text) :
    (candidates fs matched exclusions front current).Nodup := by
  cases hdir : fs.readdir (inputPathOf front) with
  | none =>
      rw [candidates_of_none hdir]
      exact List.nodup_nil
  | some entries =>
      rw [candidates_of_readdir hdir]
      exact (fs.nodup hdir).filter _

theorem entry_of_candidate (h : name ∈ candidates fs matched exclusions front current) :
    name ≠ [] ∧ '/' ∉ name ∧ fs.access (inputPathOf front ++ name) = true := by
  obtain ⟨⟨entries, hdir, hname⟩, _⟩ := mem_candidates.mp h
  exact fs.entry hdir hname

theorem fits_of_candidate (hwild : IsWildcard current)
    (h : name ∈ candidates fs matched exclusions front current) :
    Fits matched exclusions current name := by
  obtain ⟨hne, hslash, _⟩ := entry_of_candidate h
  have hselected := of_decide_eq_true (mem_candidates.mp h).2
  rw [Fits, if_pos hwild]
  exact ⟨⟨hne, hselected.1, hselected.2.1, hslash⟩, hselected.2.2⟩

/-- What exists below a directory lies below one of its entries. -/
theorem candidate_of_access {after : Text} (hwild : IsWildcard current)
    (hfits : Fits matched exclusions current name)
    (haccess : fs.access (inputPathOf front ++ name ++ after) = true)
    (hafter : after = [] ∨ after.head? = some '/') :
    name ∈ candidates fs matched exclusions front current := by
  rw [Fits, if_pos hwild] at hfits
  obtain ⟨hname, hmatched⟩ := hfits
  obtain ⟨dir, hdir⟩ := exists_dir front
  have hpath : inputPathOf front ++ name ++ after = dir ++ '/' :: name ++ after := by
    simp [hdir]
  rw [hpath] at haccess
  obtain ⟨entries, hread, hmem⟩ := fs.listed haccess hname hafter
  refine mem_candidates.mpr ⟨⟨entries, hdir ▸ hread, hmem⟩, decide_eq_true ?_⟩
  exact ⟨hname.2.1, hname.2.2.1, hmatched⟩

theorem fits_of_mem_directories {dir : List Text}
    (h : dir ∈ directories fs matched exclusions front (before ++ [last])) :
    ∃ names, dir = front ++ names ∧ List.Forall₂ (Fits matched exclusions) before names := by
  induction before generalizing front with
  | nil =>
      obtain rfl : dir = front := by simpa [directories] using h
      exact ⟨[], (List.append_nil dir).symm, .nil⟩
  | cons current before ih =>
      rw [List.cons_append, directories_cons (by simp)] at h
      by_cases hwild : IsWildcard current
      · rw [if_pos hwild] at h
        obtain ⟨name, hname, hdir⟩ := List.mem_flatMap.mp h
        obtain ⟨names, rfl, hnames⟩ := ih hdir
        exact ⟨name :: names, by simp, .cons (fits_of_candidate hwild hname) hnames⟩
      · rw [if_neg hwild] at h
        obtain ⟨names, rfl, hnames⟩ := ih h
        exact ⟨current :: names, by simp, .cons (by rw [Fits, if_neg hwild]) hnames⟩

theorem mem_directories_of_fits (hnames : List.Forall₂ (Fits matched exclusions) before names)
    (haccess : fs.access (inputPathOf (front ++ names) ++ name) = true) :
    front ++ names ∈ directories fs matched exclusions front (before ++ [last]) := by
  induction hnames generalizing front with
  | nil => simp [directories]
  | @cons current first before names hfits _ ih =>
      rw [List.cons_append, directories_cons (by simp)]
      have hnext : front ++ first :: names = (front ++ [first]) ++ names := by simp
      rw [hnext] at haccess ⊢
      have hmem := ih haccess
      by_cases hwild : IsWildcard current
      · rw [if_pos hwild]
        have hpath : inputPathOf ((front ++ [first]) ++ names) ++ name =
            inputPathOf front ++ first ++ '/' :: (names.flatMap (· ++ ['/']) ++ name) := by
          simp [inputPathOf_append]
        rw [hpath] at haccess
        exact List.mem_flatMap.mpr
          ⟨first, candidate_of_access hwild hfits haccess (.inr rfl), hmem⟩
      · rw [if_neg hwild]
        rw [Fits, if_neg hwild] at hfits
        exact hfits ▸ hmem

theorem nodup_directories (fs : FileSystem) (matched : Text → Text → Bool)
    (exclusions front components : List Text) :
    (directories fs matched exclusions front components).Nodup := by
  induction components generalizing front with
  | nil => exact List.nodup_nil
  | cons current deeper ih =>
      by_cases hdeeper : deeper = []
      · subst hdeeper
        exact List.nodup_singleton front
      · rw [directories_cons hdeeper]
        by_cases hwild : IsWildcard current
        · rw [if_pos hwild, List.nodup_flatMap]
          refine ⟨fun name _ => ih _, (nodup_candidates fs matched exclusions front current).imp ?_⟩
          intro first second hne dir hfirst hsecond
          obtain ⟨init, last, rfl⟩ := (List.eq_nil_or_concat' deeper).resolve_left hdeeper
          obtain ⟨names, rfl, _⟩ := fits_of_mem_directories hfirst
          obtain ⟨names', heq, _⟩ := fits_of_mem_directories hsecond
          simp only [List.append_assoc, List.append_cancel_left_eq, List.cons_append,
            List.cons.injEq] at heq
          exact hne heq.1
        · rw [if_neg hwild]
          exact ih _

theorem no_slash_of_fits (hcurrent : '/' ∉ current) (h : Fits matched exclusions current name) :
    '/' ∉ name := by
  unfold Fits at h
  split at h
  · exact h.1.2.2.2
  · exact h ▸ hcurrent

theorem no_slash_of_directory {dir : List Text} (hbefore : ∀ c ∈ before, '/' ∉ c)
    (h : dir ∈ directories fs matched exclusions [] (before ++ [last])) : ∀ n ∈ dir, '/' ∉ n := by
  obtain ⟨names, rfl, hnames⟩ := fits_of_mem_directories h
  clear h
  induction hnames with
  | nil => simp
  | cons hfits _ ih =>
      obtain ⟨hcurrent, hbefore⟩ := List.forall_mem_cons.mp hbefore
      exact List.forall_mem_cons.mpr ⟨no_slash_of_fits hcurrent hfits, ih hbefore⟩

/-! ### The paths to be found, in order -/

/-- The paths to be found in a directory. -/
def firstTen (fs : FileSystem) (matched : Text → Text → Bool) (exclusions front : List Text)
    (last : Text) : List Text :=
  if IsWildcard last then
    ((candidates fs matched exclusions front last).take 10).map (inputPathOf front ++ ·)
  else if fs.access (inputPathOf front ++ last) then [inputPathOf front ++ last] else []

theorem mem_firstTen {dir : List Text} :
    path ∈ firstTen fs matched exclusions dir last ↔
      ∃ name, Fits matched exclusions last name ∧ path = inputPathOf dir ++ name ∧
        fs.access path = true ∧
        (IsWildcard last → name ∈ (candidates fs matched exclusions dir last).take 10) := by
  rw [firstTen]
  by_cases hwild : IsWildcard last
  · rw [if_pos hwild, List.mem_map]
    constructor
    · rintro ⟨name, hname, rfl⟩
      have hcandidate := List.mem_of_mem_take hname
      exact ⟨name, fits_of_candidate hwild hcandidate, rfl, (entry_of_candidate hcandidate).2.2,
        fun _ => hname⟩
    · rintro ⟨name, _, rfl, _, hname⟩
      exact ⟨name, hname hwild, rfl⟩
  · rw [if_neg hwild]
    simp only [Fits, hwild, if_false, false_implies, and_true]
    constructor
    · intro h
      split at h
      · rename_i haccess
        obtain rfl := List.mem_singleton.mp h
        exact ⟨last, rfl, rfl, haccess⟩
      · cases h
    · rintro ⟨_, rfl, rfl, haccess⟩
      rw [if_pos haccess]
      exact List.mem_singleton_self _

theorem expected_iff (before : List Text) (last path : Text) :
    Expected fs matched exclusions (before ++ [last]) path ↔
      path ∈ (directories fs matched exclusions [] (before ++ [last])).flatMap fun dir =>
        firstTen fs matched exclusions dir last := by
  rw [List.mem_flatMap]
  constructor
  · rintro ⟨before', last', front, name, heq, hnames, hname, rfl, haccess, hten⟩
    obtain ⟨rfl, hlast⟩ := List.append_inj' heq rfl
    obtain rfl : last = last' := by simpa using hlast
    have hmem := @mem_directories_of_fits fs matched exclusions [] front before last name hnames
      haccess
    exact ⟨front, hmem, mem_firstTen.mpr ⟨name, hname, rfl, haccess, hten⟩⟩
  · rintro ⟨dir, hdir, hpath⟩
    obtain ⟨names, rfl, hnames⟩ := fits_of_mem_directories hdir
    obtain ⟨name, hname, hrest⟩ := mem_firstTen.mp hpath
    exact ⟨before, last, _, name, rfl, hnames, hname, hrest⟩

theorem nodup_firstTen (fs : FileSystem) (matched : Text → Text → Bool)
    (exclusions front : List Text) (last : Text) :
    (firstTen fs matched exclusions front last).Nodup := by
  rw [firstTen]
  by_cases hwild : IsWildcard last
  · rw [if_pos hwild]
    refine ((nodup_candidates fs matched exclusions front last).sublist
      (List.take_sublist _ _)).map fun name name' h => ?_
    exact List.append_cancel_left h
  · rw [if_neg hwild]
    split
    · exact List.nodup_singleton _
    · exact List.nodup_nil

theorem nodup_expected (hbefore : ∀ c ∈ before, '/' ∉ c) (hlast : '/' ∉ last) :
    ((directories fs matched exclusions [] (before ++ [last])).flatMap fun dir =>
      firstTen fs matched exclusions dir last).Nodup := by
  rw [List.nodup_flatMap]
  refine ⟨fun dir _ => nodup_firstTen fs matched exclusions dir last, ?_⟩
  refine (nodup_directories fs matched exclusions [] (before ++ [last])).imp_of_mem ?_
  intro dir dir' hdir hdir' hne path hpath hpath'
  obtain ⟨name, hname, rfl, _⟩ := mem_firstTen.mp hpath
  obtain ⟨name', hname', heq, _⟩ := mem_firstTen.mp hpath'
  exact hne (path_injective (no_slash_of_directory hbefore hdir)
    (no_slash_of_directory hbefore hdir') (no_slash_of_fits hlast hname)
    (no_slash_of_fits hlast hname') heq).1

/-! ### The condition suffices, and is needed at the last component -/

/-- A directory with at most one match is listed as it should be. -/
theorem listing_eq_firstTen {dir : List Text}
    (h : IsWildcard last → (candidates fs matched exclusions dir last).length ≤ 1) :
    listing fs matched exclusions dir last = firstTen fs matched exclusions dir last := by
  rw [listing, firstTen]
  by_cases hwild : IsWildcard last
  · rw [if_pos hwild, if_pos hwild]
    cases hcandidates : candidates fs matched exclusions dir last with
    | nil => rfl
    | cons name rest =>
        have hlength := h hwild
        rw [hcandidates, List.length_cons] at hlength
        obtain rfl : rest = [] := List.length_eq_zero_iff.mp (by omega)
        have hname : name ∈ candidates fs matched exclusions dir last := by simp [hcandidates]
        have haccess := (entry_of_candidate hname).2.2
        simp [searchLast, haccess]
  · rw [if_neg hwild, if_neg hwild]

/-- The second name that matches in a directory is not found. -/
theorem single_of_listed {dir : List Text} {first second : Text} {rest : List Text}
    (hdirs : ∀ dir ∈ directories fs matched exclusions [] (before ++ [last]), ∀ n ∈ dir, '/' ∉ n)
    (hdir : dir ∈ directories fs matched exclusions [] (before ++ [last])) (hwild : IsWildcard last)
    (hcandidates : candidates fs matched exclusions dir last = first :: second :: rest) :
    inputPathOf dir ++ second ∉
      (directories fs matched exclusions [] (before ++ [last])).flatMap fun dir =>
        listing fs matched exclusions dir last := by
  intro h
  obtain ⟨dir', hdir', hlisted⟩ := List.mem_flatMap.mp h
  rw [listing, if_pos hwild] at hlisted
  obtain ⟨names, rest', hnames, hne, hpath⟩ := mem_searchLast hlisted
  have hsecond : second ∈ candidates fs matched exclusions dir last := by simp [hcandidates]
  have hslash : '/' ∉ names.flatten := by
    intro hmem
    obtain ⟨name, hname, hin⟩ := List.mem_flatten.mp hmem
    have hcandidate : name ∈ candidates fs matched exclusions dir' last := by simp [hnames, hname]
    exact (entry_of_candidate hcandidate).2.1 hin
  obtain ⟨rfl, rfl⟩ := path_injective (hdirs dir hdir) (hdirs dir' hdir')
    (entry_of_candidate hsecond).2.1 hslash hpath
  rw [hcandidates] at hnames
  -- the names looked at so far start with the first one
  obtain ⟨name, names, rfl⟩ := List.exists_cons_of_ne_nil hne
  obtain ⟨rfl, hrest⟩ := List.cons.inj hnames
  have hfirst : first ∈ candidates fs matched exclusions dir last := by simp [hcandidates]
  have hnodup := nodup_candidates fs matched exclusions dir last
  rw [hcandidates] at hnodup
  cases names with
  | nil => simp at hnodup
  | cons name names =>
      have hname := congrArg List.length (List.cons.inj hrest).1
      have hpos := List.length_pos_iff.mpr (entry_of_candidate hfirst).1
      simp only [List.flatten_cons, List.length_append] at hname
      omega

end Search

/-- Path components. -/
structure PathList where
  components : List Text
  no_slash : ∀ component ∈ components, '/' ∉ component

theorem complete_of_single {fs : FileSystem} {matched : Text → Text → Bool} {exclusions : List Text}
    (pathList : PathList)
    (hundisturbed : Undisturbed fs matched exclusions [] pathList.components)
    (hsingle : SingleMatches fs matched exclusions pathList.components) :
    Complete fs matched exclusions pathList.components := by
  have hslash := pathList.no_slash
  rcases List.eq_nil_or_concat' pathList.components with hnil | ⟨before, last, happend⟩
  · rw [hnil]
    refine ⟨List.nodup_nil, fun path => iff_of_false List.not_mem_nil ?_⟩
    rintro ⟨before, last, _, _, heq, _⟩
    simp at heq
  · rw [happend] at hundisturbed hsingle hslash ⊢
    obtain ⟨hbefore, hlast⟩ := List.forall_mem_append.mp hslash
    have hresult : (searchFilesRec fs.toDirectories matched exclusions
        (before ++ [last]).length [] (before ++ [last])).result =
        (directories fs matched exclusions [] (before ++ [last])).flatMap fun dir =>
          firstTen fs matched exclusions dir last := by
      rw [result_of_undisturbed before last [] hundisturbed]
      refine List.flatMap_congr fun dir hdir => listing_eq_firstTen ?_
      exact hsingle dir hdir last (by simp)
    rw [Complete, hresult]
    exact ⟨nodup_expected hbefore (hlast last (by simp)),
      fun path => (expected_iff before last path).symm⟩

theorem single_of_complete {fs : FileSystem} {matched : Text → Text → Bool} {exclusions : List Text}
    (pathList : PathList)
    (hundisturbed : Undisturbed fs matched exclusions [] pathList.components)
    (hcomplete : Complete fs matched exclusions pathList.components) :
    SingleMatches fs matched exclusions pathList.components := by
  intro dir hdir last hlast hwild
  have hslash := pathList.no_slash
  obtain ⟨before, happend⟩ := List.getLast?_eq_some_iff.mp hlast
  rw [happend] at hundisturbed hcomplete hdir hslash
  obtain ⟨hbefore, _⟩ := List.forall_mem_append.mp hslash
  by_contra htwo
  cases hcandidates : candidates fs matched exclusions dir last with
  | nil => simp [hcandidates] at htwo
  | cons first rest =>
      cases rest with
      | nil => simp [hcandidates] at htwo
      | cons second rest =>
          refine single_of_listed (fun dir hdir => no_slash_of_directory hbefore hdir) hdir hwild
            hcandidates ?_
          rw [← result_of_undisturbed before last [] hundisturbed]
          refine (hcomplete.2 _).mpr ((expected_iff before last _).mpr ?_)
          refine List.mem_flatMap.mpr ⟨dir, hdir, ?_⟩
          rw [firstTen, if_pos hwild, hcandidates]
          simp

/-- If no replaced component is read again, the search is complete exactly if the last component, as
a wildcard, matches at most one name in each directory. -/
theorem complete_iff_single (fs : FileSystem) (matched : Text → Text → Bool)
    (exclusions : List Text) (pathList : PathList) :
    (Undisturbed fs matched exclusions [] pathList.components ∧
        SingleMatches fs matched exclusions pathList.components →
      Complete fs matched exclusions pathList.components) ∧
    (Undisturbed fs matched exclusions [] pathList.components ∧
        Complete fs matched exclusions pathList.components →
      SingleMatches fs matched exclusions pathList.components) :=
  ⟨fun ⟨hundisturbed, hsingle⟩ => complete_of_single pathList hundisturbed hsingle,
    fun ⟨hundisturbed, hcomplete⟩ => single_of_complete pathList hundisturbed hcomplete⟩

/-- A tree with the files `/a` and `/b`. -/
def twoFiles : FileSystem where
  readdir dir := if dir = ['/'] then some [['a'], ['b']] else none
  access path := path = ['/', 'a'] ∨ path = ['/', 'b']
  nodup := by
    intro dir entries h
    split at h <;> simp_all
    subst h
    decide
  entry := by
    intro dir entries name h hname
    split at h
    · rename_i hdir
      obtain rfl := Option.some.inj h
      subst hdir
      simp only [List.mem_cons, List.not_mem_nil, or_false] at hname
      rcases hname with rfl | rfl <;> decide
    · cases h
  listed := by
    intro dir name after h hname _
    have hne := hname.1
    have hpath := of_decide_eq_true h
    cases dir with
    | nil =>
        cases name with
        | nil => exact absurd rfl hne
        | cons c name =>
            simp only [List.nil_append, List.cons_append, List.cons.injEq, true_and,
              List.append_eq_nil_iff] at hpath
            rcases hpath with ⟨rfl, rfl, _⟩ | ⟨rfl, rfl, _⟩ <;> simp
    | cons c dir =>
        cases name with
        | nil => exact absurd rfl hne
        | cons d name => cases dir <;> simp_all

/-- In that tree the path `/*` finds `/a` only. -/
theorem second_match_missed : ¬ Complete twoFiles (fun _ _ => true) [] [['*']] := by
  rintro ⟨_, h⟩
  have hmem : ['/', 'b'] ∈ (searchFilesRec twoFiles.toDirectories (fun _ _ => true) [] 1 []
      [['*']]).result := by
    refine (h _).mpr ⟨[], ['*'], [], ['b'], rfl, .nil, ?_, rfl, by decide, fun _ => by decide⟩
    rw [Fits, if_pos (by decide)]
    exact ⟨by unfold IsEntryName; decide, rfl, by simp⟩
  exact absurd hmem (by decide)

/-- With `/a/x/f` and `/b/y/f`, the path `/*/*/f` finds the first one only: `x` has replaced the
second component when `b` is searched. -/
example :
    (searchFiles
      { readdir := fun dir =>
          if dir = ['/'] then some [['a'], ['b']]
          else if dir = ['/', 'a', '/'] then some [['x']]
          else if dir = ['/', 'b', '/'] then some [['y']]
          else none
        access := fun path =>
          path = ['/', 'a', '/', 'x', '/', 'f'] ∨ path = ['/', 'b', '/', 'y', '/', 'f'] }
      (fun _ _ => true) [] ['/', '*', '/', '*', '/', 'f']).result =
      [['/', 'a', '/', 'x', '/', 'f']] := by
  decide +kernel

end DeviceAndDisplay.Helpers
