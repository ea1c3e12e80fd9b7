import DeviceAndDisplay.Model.SystemServices.TimeZone
import DeviceAndDisplay.Verification.SystemServices.TimeZone

/-! # The zones that are listed

The list has the files of the directory of the zones, with what `zdump` prints for them, in the
objects of their directories. Each of these zones can be set. -/

namespace DeviceAndDisplay.SystemServices.TimeZone

open Helpers Storage

/-! ### Lines -/

/-- A path that stands in a line and in a command as it is. -/
structure Plain (path : Text) : Prop where
  ne_nil : path ≠ []
  white : ∀ c ∈ path, isWhite c = false
  nul : Storage.nul ∉ path

/-- The time that `zdump` prints. -/
structure IsTime (time : Text) : Prop where
  ne_nil : time ≠ []
  head : ∀ c ∈ time.head?, isWhite c = false
  last : ∀ c ∈ time.getLast?, isWhite c = false
  newline : '\n' ∉ time
  nul : nul ∉ time

/-- The line of `zdump` for a path. -/
structure Prints (fullName time line : Text) : Prop where
  parts : ∃ pad, line = fullName ++ (pad ++ time) ++ ['\n'] ∧ pad ≠ [] ∧ ∀ c ∈ pad, isBlank c = true
  time : IsTime time
  length : line.length < 4096

theorem Plain.of_all {path : Text} (hne : path ≠ [])
    (hwhite : (path.all fun c => !isWhite c) = true) (hnul : Storage.nul ∉ path) : Plain path :=
  ⟨hne, fun c hc => by simpa using List.all_eq_true.mp hwhite c hc, hnul⟩

theorem IsTime.of_all {time : Text} (hne : time ≠ [])
    (hhead : (time.head?.all fun c => !isWhite c) = true)
    (hlast : (time.getLast?.all fun c => !isWhite c) = true) (hnewline : '\n' ∉ time)
    (hnul : Storage.nul ∉ time) : IsTime time :=
  ⟨hne, fun c hc => by simpa using (Option.all_eq_true ..).mp hhead c hc,
    fun c hc => by simpa using (Option.all_eq_true ..).mp hlast c hc, hnewline, hnul⟩

theorem isWhite_of_isBlank {c : Char} (h : isBlank c = true) : isWhite c = true := by
  simp only [isBlank, isWhite, Bool.or_eq_true] at h ⊢
  tauto

theorem ne_of_isBlank {c : Char} (h : isBlank c = true) : c ≠ '\n' ∧ c ≠ nul := by
  simp only [isBlank, Bool.or_eq_true, decide_eq_true_eq] at h
  rcases h with rfl | rfl <;> decide

theorem Plain.blank {path : Text} (h : Plain path) : ∀ c ∈ path, isBlank c = false := by
  intro c hc
  by_contra hblank
  have hwhite := isWhite_of_isBlank (Bool.not_eq_false _ ▸ hblank)
  rw [h.white c hc] at hwhite
  cases hwhite

theorem Plain.newline {path : Text} (h : Plain path) : '\n' ∉ path := by
  intro hmem
  have hwhite := h.white '\n' hmem
  revert hwhite
  decide

variable {fullName time line : Text}

/-- What is in the line in front of its end. -/
theorem Prints.body (h : Prints fullName time line) (hname : Plain fullName) :
    ∃ body, line = body ++ ['\n'] ∧ '\n' ∉ body ∧ nul ∉ body := by
  obtain ⟨pad, hline, -, hpad⟩ := h.parts
  refine ⟨_, hline, ?_, ?_⟩
  · simp only [List.mem_append, not_or]
    exact ⟨hname.newline, fun hmem => (ne_of_isBlank (hpad _ hmem)).1 rfl, h.time.newline⟩
  · simp only [List.mem_append, not_or]
    exact ⟨hname.nul, fun hmem => (ne_of_isBlank (hpad _ hmem)).2 rfl, h.time.nul⟩

theorem dropWhile_of_head {p : Char → Bool} {text : Text} (h : ∀ c ∈ text.head?, p c = false) :
    text.dropWhile p = text := by
  cases text with
  | nil => rfl
  | cons c text => simp [h c rfl]

theorem trimBy_of_ends {p : Char → Bool} {text : Text} (hhead : ∀ c ∈ text.head?, p c = false)
    (hlast : ∀ c ∈ text.getLast?, p c = false) : trimBy p text = text := by
  rw [trimBy, dropWhile_of_head hhead, List.rdropWhile_eq_self_iff]
  intro hne
  simp [hlast _ (List.getLast?_eq_some_getLast hne)]

theorem trimBy_line (hname : Plain fullName) (htime : IsTime time) (pad : Text) :
    trimBy isWhite (fullName ++ (pad ++ time) ++ ['\n']) = fullName ++ (pad ++ time) := by
  rw [trimBy_append_singleton, if_pos (by decide)]
  refine trimBy_of_ends ?_ ?_
  · intro c hc
    cases hfull : fullName with
    | nil => exact absurd hfull hname.ne_nil
    | cons d rest =>
        rw [hfull] at hc
        cases hc
        exact hname.white c (by simp [hfull])
  · intro c hc
    rw [← List.append_assoc, List.getLast?_append_of_ne_nil _ htime.ne_nil] at hc
    exact htime.last c hc

theorem parseZoneLine_of_prints (h : Prints fullName time line) (hname : Plain fullName) :
    parseZoneLine (cText line) = some (fullName, time) := by
  obtain ⟨body, hbody, -, hnul⟩ := h.body hname
  obtain ⟨pad, hline, hne, hpad⟩ := h.parts
  have hctext : cText line = line := by
    refine cText_of_nul_notMem ?_
    rw [hbody, List.mem_append, not_or]
    exact ⟨hnul, by decide⟩
  have hany : (fullName ++ (pad ++ time)).any isBlank = true := by
    obtain ⟨c, rest, rfl⟩ := List.exists_cons_of_ne_nil hne
    simp [hpad c List.mem_cons_self]
  -- the path ends at the first blank
  have hstop : ∀ c ∈ (pad ++ time).head?, (!isBlank c) = false := by
    obtain ⟨d, rest, rfl⟩ := List.exists_cons_of_ne_nil hne
    intro c hc
    cases hc
    simp [hpad d List.mem_cons_self]
  have hall : ∀ c ∈ fullName, (!isBlank c) = true := fun c hc => by simp [hname.blank c hc]
  obtain ⟨htake, hdrop⟩ := takeWhile_append_stop (fun c => !isBlank c) fullName (pad ++ time) hstop
  have hrest : (pad ++ time).dropWhile isWhite = time := by
    rw [List.dropWhile_append_of_pos fun c hc => isWhite_of_isBlank (hpad c hc),
      dropWhile_of_head h.time.head]
  rw [hctext, hline, parseZoneLine, trimBy_line hname h.time, if_pos hany, htake, hdrop,
    List.takeWhile_eq_self_iff.mpr hall, List.dropWhile_eq_nil_iff.mpr hall, List.nil_append, hrest]

/-! ### The directory of the zones -/

/-- A name in the directory, which is not special to the shell or in a line. -/
structure IsName (name : Text) : Prop where
  plain : Plain name
  slash : '/' ∉ name

def childPath (path name : Text) : Text := path ++ '/' :: name

theorem Plain.childPath {path name : Text} (hpath : Plain path) (hname : Plain name) :
    Plain (childPath path name) where
  ne_nil := by simp [TimeZone.childPath]
  white := by
    intro c hc
    rcases List.mem_append.mp hc with hc | hc
    · exact hpath.white c hc
    · rcases List.mem_cons.mp hc with rfl | hc
      · decide
      · exact hname.white c hc
  nul := by
    rw [TimeZone.childPath, List.mem_append, List.mem_cons]
    exact not_or.mpr ⟨hpath.nul, not_or.mpr ⟨by decide, hname.nul⟩⟩

theorem Plain.cStr {path : Text} (h : Plain path) : cStr path = path :=
  cText_of_nul_notMem h.nul

theorem lastName_childPath {path name : Text} (h : IsName name) :
    lastName (childPath path name) = name := by
  rw [lastName, childPath, splitLast_append h.slash]

/-- The files and directories at a path, with what `zdump` prints for them; in the list of an empty
directory stands what the shell passes for it. -/
inductive Shows (env : ZoneListEnv) : Text → ZoneValue → Prop where
  | file {path found line} (stat : env.tree path = some found) (kind : found.kind = .regular) :
      Shows env path (.leaf line)
  | empty {path found time line} (stat : env.tree path = some found)
      (kind : found.kind = .directory)
      (listed : env.popen (zdumpCommand path .directory) = some (line, 0))
      (prints : Prints (childPath path ['*']) time line)
      (nothing : env.tree (childPath path ['*']) = none) : Shows env path (.node [])
  | directory {path found children lines} (stat : env.tree path = some found)
      (kind : found.kind = .directory)
      (listed : env.popen (zdumpCommand path .directory) = some (lines.flatten, 0))
      (prints : List.Forall₂ (fun child line => ∃ time, Prints (childPath path child.1) time line ∧
        ∀ text, child.2 = .leaf text → text = time) children lines)
      (names : ∀ child ∈ children, IsName child.1)
      (distinct : (children.map Prod.fst).Nodup)
      (shows : ∀ child ∈ children, Shows env (childPath path child.1) child.2) :
      Shows env path (.node children)

def isNode : ZoneValue → Bool
  | .node _ => true
  | .leaf _ => false

theorem Shows.stat {env : ZoneListEnv} {path : Text} {value : ZoneValue} (h : Shows env path value) :
    ∃ found, env.tree path = some found ∧
      found.kind = if isNode value then .directory else .regular := by
  cases h with
  | file stat kind | empty stat kind | directory stat kind => exact ⟨_, stat, kind⟩

/-- The loop over the lines of a directory. -/
theorem foldl_readZoneLine {env : ZoneListEnv} {path : Text} {children : ZoneEntries}
    {lines : List Text} (hpath : Plain path)
    (hprints : List.Forall₂ (fun child line => ∃ time, Prints (childPath path child.1) time line ∧
      ∀ text, child.2 = .leaf text → text = time) children lines)
    (hnames : ∀ child ∈ children, IsName child.1)
    (hshows : ∀ child ∈ children, Shows env (childPath path child.1) child.2)
    (state : List Text × ZoneEntries) :
    lines.foldl (readZoneLine env.tree) state =
      (state.1 ++ (children.filter fun child => isNode child.2).map fun child =>
          childPath path child.1,
        setEntries (children.filter fun child => !isNode child.2) state.2) := by
  induction hprints generalizing state with
  | nil => simp [setEntries]
  | @cons child line children lines hline _ ih =>
      obtain ⟨time, hline, htext⟩ := hline
      have hname := hnames child List.mem_cons_self
      have hplain := hpath.childPath hname.plain
      obtain ⟨found, hfound, hkind⟩ := (hshows child List.mem_cons_self).stat
      rw [List.foldl_cons, ih (fun other h => hnames other (List.mem_cons_of_mem child h))
        (fun other h => hshows other (List.mem_cons_of_mem child h))]
      have hread : readZoneLine env.tree state line =
          if found.kind = .directory then (state.1 ++ [childPath path child.1], state.2)
          else (state.1, setEntry child.1 (.leaf time) state.2) := by
        simp only [readZoneLine, parseZoneLine_of_prints hline hplain, hplain.cStr, hfound,
          lastName_childPath hname]
      rw [hread]
      cases hvalue : child.2 with
      | leaf text =>
          rw [hvalue] at hkind
          simp [isNode, hvalue, hkind, setEntries, ← htext text hvalue]
      | node entries =>
          rw [hvalue] at hkind
          simp [isNode, hvalue, hkind]

theorem exists_mem_of_forall₂ {β γ : Type*} {R : β → γ → Prop} {xs : List β} {ys : List γ} {y : γ}
    (h : List.Forall₂ R xs ys) (hy : y ∈ ys) : ∃ x ∈ xs, R x y := by
  induction h with
  | nil => cases hy
  | @cons x y' xs ys hxy _ ih =>
      rcases List.mem_cons.mp hy with rfl | hy
      · exact ⟨x, List.mem_cons_self, hxy⟩
      · obtain ⟨x', hx', hr⟩ := ih hy
        exact ⟨x', List.mem_cons_of_mem x hx', hr⟩

/-! ### The object of a directory -/

/-- Files first, and then objects that are like the directories, give the leaves of both. -/
theorem sameLeaves_setEntries {children objects : ZoneEntries}
    (hdistinct : (children.map Prod.fst).Nodup)
    (hobjects : List.Forall₂ (fun object child => object.1 = child.1 ∧
      ObjectTree.SameLeaves object.2 child.2) objects (children.filter fun child => isNode child.2)) :
    ObjectTree.SameLeaves
      (.node (setEntries objects (setEntries (children.filter fun child => !isNode child.2) [])))
      (.node children) := by
  have hfilter : ∀ p : Text × ZoneValue → Bool, ((children.filter p).map Prod.fst).Nodup :=
    fun p => hdistinct.sublist (List.filter_sublist.map Prod.fst)
  have hnames := map_fst_eq hobjects
  apply ObjectTree.sameLeaves_node
  intro name
  have hnode := ObjectTree.rel_getEntry hobjects name
  rw [getEntry_filter hdistinct] at hnode
  rw [getEntry_setEntries (hnames ▸ hfilter _), getEntry_setEntries (hfilter _),
    getEntry_filter hdistinct]
  revert hnode
  cases getEntry name children with
  | none =>
      intro hnode
      cases hobject : getEntry name objects with
      | none => exact .none
      | some object =>
          rw [hobject] at hnode
          cases hnode
  | some child =>
      intro hnode
      cases child with
      | leaf text =>
          cases hobject : getEntry name objects with
          | none => exact .some (ObjectTree.SameLeaves.refl _)
          | some object =>
              rw [hobject] at hnode
              cases hnode
      | node entries =>
          cases hobject : getEntry name objects with
          | none =>
              rw [hobject] at hnode
              cases hnode
          | some object =>
              rw [hobject] at hnode
              cases hnode with
              | some hsame => exact .some hsame

/-- What the loop over the directories does with an object for each. -/
def Lists (env : ZoneListEnv) (path : Text) (out : ZoneEntries) (n : ℕ) : Prop :=
  ∀ fuel, n ≤ fuel → processTimeZones env fuel path [] = some (true, out)

/-- The loop over the directories. -/
theorem exists_foldlM {env : ZoneListEnv} {path : Text} {children : ZoneEntries}
    (hnames : ∀ child ∈ children, IsName child.1)
    (hlists : ∀ child ∈ children, ∃ n out, Lists env (childPath path child.1) out n ∧
      ObjectTree.SameLeaves (.node out) child.2) :
    ∃ n objects, List.Forall₂ (fun object child => object.1 = child.1 ∧
        ObjectTree.SameLeaves object.2 child.2) objects children ∧
      ∀ fuel, n ≤ fuel → ∀ out,
        (children.map fun child => childPath path child.1).foldlM (fun out name => do
          let (_, dirObject) ← processTimeZones env fuel name []
          return setEntry (lastName name) (.node dirObject) out) out =
        some (setEntries objects out) := by
  induction children with
  | nil => exact ⟨0, [], .nil, fun _ _ _ => rfl⟩
  | cons child children ih =>
      obtain ⟨n, objects, hobjects, hfold⟩ :=
        ih (fun other h => hnames other (List.mem_cons_of_mem child h))
          fun other h => hlists other (List.mem_cons_of_mem child h)
      obtain ⟨m, object, hlist, hsame⟩ := hlists child List.mem_cons_self
      refine ⟨max n m, (child.1, .node object) :: objects, .cons ⟨rfl, hsame⟩ hobjects, ?_⟩
      intro fuel hfuel out
      have hfirst := hlist fuel ((le_max_right n m).trans hfuel)
      rw [List.map_cons, List.foldlM_cons, hfirst]
      exact (hfold fuel ((le_max_left n m).trans hfuel) _).trans
        (by rw [lastName_childPath (hnames child List.mem_cons_self)]; rfl)

theorem nul_notMem_zdumpCommand {path : Text} (h : Plain path) :
    Storage.nul ∉ zdumpCommand path .directory := by
  have hzdump : Storage.nul ∉ ['z', 'd', 'u', 'm', 'p', ' '] := by decide
  have hall : Storage.nul ∉ ['/', '*'] := by decide
  simp only [zdumpCommand, if_true, List.mem_append, not_or]
  exact ⟨⟨hzdump, h.nul⟩, hall⟩

/-- A call for a directory reads the lines of `zdump` and goes on with the directories in it. -/
theorem processTimeZones_directory {env : ZoneListEnv} {path : Text} {found : FileEntry}
    {lines : List Text} (hpath : Plain path) (hstat : env.tree path = some found)
    (hkind : found.kind = .directory)
    (hlisted : env.popen (zdumpCommand path .directory) = some (lines.flatten, 0))
    (hlines : ∀ line ∈ lines, ∃ fullName time, Plain fullName ∧ Prints fullName time line)
    (fuel : ℕ) (out : ZoneEntries) :
    processTimeZones env (fuel + 1) path out =
      let state := lines.foldl (readZoneLine env.tree) ([], out)
      (state.1.foldlM (fun (out : ZoneEntries) name => do
        let (_, dirObject) ← processTimeZones env fuel name []
        return setEntry (lastName name) (.node dirObject) out) state.2).map
          fun out => (true, out) := by
  have hread : fgets 4096 lines.flatten = lines := by
    refine fgets_lines fun line hline => ?_
    obtain ⟨fullName, time, hname, hprints⟩ := hlines line hline
    obtain ⟨body, hbody, hnewline, -⟩ := hprints.body hname
    exact ⟨body, hbody, hnewline, hprints.length⟩
  have hcommand : cStr (zdumpCommand path .directory) = zdumpCommand path .directory :=
    cText_of_nul_notMem (nul_notMem_zdumpCommand hpath)
  simp only [processTimeZones, hpath.cStr, hstat, hkind, hcommand, hlisted, hread]
  simp [Option.map_eq_bind]

theorem lists_of_shows {env : ZoneListEnv} {path : Text} {value : ZoneValue}
    (h : Shows env path value) (hpath : Plain path) {children : ZoneEntries}
    (hvalue : value = .node children) :
    ∃ n out, Lists env path out n ∧ ObjectTree.SameLeaves (.node out) (.node children) := by
  induction h generalizing children with
  | file stat kind => cases hvalue
  | @empty path found time line stat kind listed prints nothing =>
      cases hvalue
      have hstar : Plain (childPath path ['*']) :=
        hpath.childPath (.of_all (by simp) (by decide) (by decide))
      have hskip : readZoneLine env.tree ([], []) line = ([], []) := by
        simp only [readZoneLine, parseZoneLine_of_prints prints hstar, hstar.cStr, nothing]
      refine ⟨1, [], fun fuel hfuel => ?_, ObjectTree.SameLeaves.refl _⟩
      obtain ⟨fuel, rfl⟩ : ∃ n, fuel = n + 1 := ⟨fuel - 1, by omega⟩
      have hpopen : env.popen (zdumpCommand path .directory) = some ([line].flatten, 0) := by
        simpa using listed
      rw [processTimeZones_directory hpath stat kind hpopen fun other hother => ?_]
      · simp [hskip]
      · rw [List.mem_singleton.mp hother]
        exact ⟨_, time, hstar, prints⟩
  | @directory path found entries lines stat kind listed prints names distinct shows ih =>
      cases hvalue
      have hnodes : ∀ child ∈ entries.filter fun child => isNode child.2,
          ∃ n out, Lists env (childPath path child.1) out n ∧
            ObjectTree.SameLeaves (ObjectTree.node out) child.2 := by
        intro child hchild
        obtain ⟨hchild, hnode⟩ := List.mem_filter.mp hchild
        cases hentries : child.2 with
        | leaf text =>
            rw [hentries] at hnode
            cases hnode
        | node entries => exact ih child hchild (hpath.childPath (names child hchild).plain) hentries
      obtain ⟨n, objects, hobjects, hfold⟩ := exists_foldlM
        (fun child hchild => names child (List.mem_filter.mp hchild).1) hnodes
      refine ⟨n + 1, _, fun fuel hfuel => ?_, sameLeaves_setEntries distinct hobjects⟩
      obtain ⟨fuel, rfl⟩ : ∃ m, fuel = m + 1 := ⟨fuel - 1, by omega⟩
      have hlines : ∀ line ∈ lines, ∃ fullName time, Plain fullName ∧ Prints fullName time line := by
        intro line hline
        obtain ⟨child, hchild, time, htime, -⟩ := exists_mem_of_forall₂ prints hline
        exact ⟨_, time, hpath.childPath (names child hchild).plain, htime⟩
      rw [processTimeZones_directory hpath stat kind listed hlines,
        foldl_readZoneLine hpath prints names shows]
      simp only [List.nil_append]
      rw [hfold fuel (by omega)]
      rfl

/-! ### Zones -/

/-- The zone that a path in the list is the name of. -/
def zoneName (names : List Text) : Text := ['/'].intercalate names

theorem foldl_childPath (path : Text) {names : List Text} (hne : names ≠ []) :
    names.foldl childPath path = childPath path (zoneName names) := by
  induction names generalizing path with
  | nil => exact absurd rfl hne
  | cons name names ih =>
      cases names with
      | nil => rw [List.foldl_cons, List.foldl_nil, zoneName, List.intercalate_singleton]
      | cons next names =>
          rw [List.foldl_cons, ih (childPath path name) (by simp)]
          rw [childPath, childPath, childPath, zoneName, zoneName,
            List.intercalate_cons_cons]
          simp

/-- A leaf is a file, and the names on the way to it are those of directories and files. -/
theorem Shows.stat_of_find {env : ZoneListEnv} {path : Text} {value : ZoneValue} {names : List Text}
    {line : Text} (h : Shows env path value) (hpath : Plain path)
    (hfind : value.find names = some (.leaf line)) :
    ∃ found, env.tree (names.foldl childPath path) = some found ∧ found.kind = .regular ∧
      Plain (names.foldl childPath path) := by
  induction names generalizing path value with
  | nil =>
      rw [ObjectTree.find_nil] at hfind
      cases hfind
      obtain ⟨found, hfound, hkind⟩ := h.stat
      exact ⟨found, hfound, hkind, hpath⟩
  | cons name names ih =>
      cases h with
      | file => cases hfind
      | empty => cases hfind
      | directory stat kind listed prints isName distinct shows =>
          obtain ⟨child, hchild, hfind⟩ := Option.bind_eq_some_iff.mp hfind
          have hmem := mem_of_getEntry hchild
          exact ih (shows _ hmem) (hpath.childPath (isName _ hmem).plain) hfind

theorem Shows.isName {env : ZoneListEnv} {path name : Text} {value found : ZoneValue}
    {names : List Text} (h : Shows env path value) (hfind : value.find (name :: names) = some found) :
    IsName name := by
  cases h with
  | file => cases hfind
  | empty => cases hfind
  | directory stat kind listed prints isName distinct shows =>
      obtain ⟨child, hchild, -⟩ := Option.bind_eq_some_iff.mp hfind
      exact isName _ (mem_of_getEntry hchild)

theorem zoneName_ne_nil {name : Text} (h : name ≠ []) (names : List Text) :
    zoneName (name :: names) ≠ [] := by
  cases names with
  | nil => rwa [zoneName, List.intercalate_singleton]
  | cons next names =>
      rw [zoneName, List.intercalate_cons_cons]
      simp [h]

/-- A file in the directory of the zones is a supported zone. -/
theorem isSupported_of_stat {tree : FileTree} {zone : Text} {root found : FileEntry}
    (hroot : tree (zoneinfoDir ++ ['/']) = some root) (hkind : root.kind = .directory)
    (hplain : Plain (childPath zoneinfoDir zone))
    (hfound : tree (childPath zoneinfoDir zone) = some found) : isSupported tree zone = true := by
  have hcountry : '/' ∉ zone.takeWhile (· ≠ '/') := by
    intro hmem
    simpa using List.mem_takeWhile_imp hmem
  have hdirname : dirnameOf (zoneinfoDir ++ ['/'] ++ zone.takeWhile (· ≠ '/')) =
      zoneinfoDir ++ ['/'] := by
    rw [dirnameOf, List.append_assoc, List.singleton_append, splitLast_append hcountry]
  have hdir : cStr (zoneinfoDir ++ ['/']) = zoneinfoDir ++ ['/'] := by decide
  have hpath : zoneinfoDir ++ ['/'] ++ zone = childPath zoneinfoDir zone := by
    rw [childPath, List.append_assoc, List.singleton_append]
  simp only [isSupported, dirExists, fileExists, hdirname, hdir, hroot, hkind, hpath, hplain.cStr,
    hfound]
  rfl

/-- If the first line of a file is not empty, it is the first one that is not left out. -/
theorem headD_contentLines {content : Text} (h : content.head? ≠ some '\n') :
    (contentLines content).headD [] = (readParts '\n' content).headD [] := by
  cases content with
  | nil => rfl
  | cons c rest =>
      have hc : c ≠ '\n' := fun heq => h (congrArg some heq)
      rw [contentLines, readParts, if_neg hc]
      cases readParts '\n' rest <;> rfl

/-- The zone that a call stores for a supported zone is what `getTimeZoneDST` gives. -/
theorem storeTimeZone_stored {env : TimeZoneEnv} {zone : Text} {accuracy : Option Text}
    {files : TimeZoneFiles} (hne : zone ≠ []) (hline : '\n' ∉ zone)
    (hopens : env.timeZoneIo.opens = true) (hcompletes : env.timeZoneIo.Completes zone)
    (hfirst : ∀ content ∈ files.timeZone, content.head? ≠ some '\n') :
    (getTimeZoneDST readable readable (storeTimeZone env zone accuracy files).files).timeZone =
      zone := by
  have hget : ∀ files : TimeZoneFiles, ∀ content, files.timeZone = some content →
      (getTimeZoneDST readable readable files).timeZone = (readParts '\n' content).headD [] := by
    intro files content hcontent
    simp [getTimeZoneDST, hcontent, readable]
  by_cases hold : oldTimeZone env files = zone
  · -- nothing is written, and the zone is the first line of the file
    have hkept : (storeTimeZone env zone accuracy files).files.timeZone = files.timeZone := by
      rw [storeTimeZone_timeZone, if_neg fun h => h.1 hold]
    cases hfile : files.timeZone with
    | none =>
        rw [oldTimeZone, hfile] at hold
        exact absurd hold.symm hne
    | some content =>
        rw [hget _ content (hkept.trans hfile)]
        rw [oldTimeZone, hfile, getTimeZoneDSTHelper] at hold
        split_ifs at hold with hreads
        · rw [← hold, headD_contentLines (hfirst content hfile)]
        · exact absurd hold.symm hne
  · have hwritten : (storeTimeZone env zone accuracy files).files.timeZone = some zone := by
      rw [storeTimeZone_timeZone, if_pos ⟨hold, hopens⟩,
        (env.timeZoneIo.written_eq_iff zone).mpr hcompletes]
    rw [hget _ zone hwritten]
    exact headD_readParts hline

/-- A zone, and a directory with another. -/
def twoZones : ZoneEntries :=
  [("UTC".toList, .leaf "now".toList),
    ("Etc".toList, .node [("GMT".toList, .leaf "now GMT".toList)])]

def etcPath : Text := childPath zoneinfoDir "Etc".toList

def zoneLine (path name time : Text) : Text := childPath path name ++ ("  ".toList ++ time) ++ ['\n']

def twoZonesEnv : ZoneListEnv where
  tree path :=
    if path = zoneinfoDir ∨ path = zoneinfoDir ++ ['/'] then some ⟨.directory, zoneinfoLocation⟩
    else if path = etcPath then some ⟨.directory, zoneinfoLocation ++ ["Etc".toList]⟩
    else if path = childPath zoneinfoDir "UTC".toList then
      some ⟨.regular, zoneinfoLocation ++ ["UTC".toList]⟩
    else if path = childPath etcPath "GMT".toList then
      some ⟨.regular, zoneinfoLocation ++ ["Etc".toList, "GMT".toList]⟩
    else none
  popen command :=
    if command = zdumpCommand zoneinfoDir .directory then
      some (zoneLine zoneinfoDir "UTC".toList "now".toList ++
        zoneLine zoneinfoDir "Etc".toList "now Etc".toList, 0)
    else if command = zdumpCommand etcPath .directory then
      some (zoneLine etcPath "GMT".toList "now GMT".toList, 0)
    else none

theorem prints_zoneLine {path name time : Text} (htime : IsTime time)
    (hlength : (zoneLine path name time).length < 4096) :
    Prints (childPath path name) time (zoneLine path name time) :=
  ⟨⟨_, rfl, by decide, List.all_eq_true.mp (by decide)⟩, htime, hlength⟩

theorem shows_twoZones : Shows twoZonesEnv zoneinfoDir (.node twoZones) := by
  have hname : ∀ name ∈ ["UTC".toList, "Etc".toList, "GMT".toList], IsName name := by
    intro name hmem
    refine ⟨.of_all ?_ ?_ ?_, ?_⟩ <;> revert name <;> decide
  have htime : ∀ time ∈ ["now".toList, "now Etc".toList, "now GMT".toList], IsTime time := by
    intro time hmem
    refine .of_all ?_ ?_ ?_ ?_ ?_ <;> revert time <;> decide
  have hutc : Shows twoZonesEnv (childPath zoneinfoDir "UTC".toList) (.leaf "now".toList) := by
    have hstat : twoZonesEnv.tree (childPath zoneinfoDir "UTC".toList) =
        some ⟨.regular, zoneinfoLocation ++ ["UTC".toList]⟩ := by decide
    exact .file hstat rfl
  have hgmt : Shows twoZonesEnv (childPath etcPath "GMT".toList) (.leaf "now GMT".toList) := by
    have hstat : twoZonesEnv.tree (childPath etcPath "GMT".toList) =
        some ⟨.regular, zoneinfoLocation ++ ["Etc".toList, "GMT".toList]⟩ := by decide
    exact .file hstat rfl
  have hetc : Shows twoZonesEnv etcPath (.node [("GMT".toList, .leaf "now GMT".toList)]) := by
    have hstat : twoZonesEnv.tree etcPath =
        some ⟨.directory, zoneinfoLocation ++ ["Etc".toList]⟩ := by decide
    have hlisted : twoZonesEnv.popen (zdumpCommand etcPath .directory) =
        some ([zoneLine etcPath "GMT".toList "now GMT".toList].flatten, 0) := by decide
    refine .directory hstat rfl hlisted (.cons ⟨_, prints_zoneLine (htime _ (by decide))
      (by decide), fun text h => (ObjectTree.leaf.inj h).symm⟩ .nil) ?_ (by decide) ?_
    · intro child hchild
      rw [List.mem_singleton.mp hchild]
      exact hname _ (by decide)
    · intro child hchild
      rw [List.mem_singleton.mp hchild]
      exact hgmt
  have hstat : twoZonesEnv.tree zoneinfoDir = some ⟨.directory, zoneinfoLocation⟩ := by decide
  have hlisted : twoZonesEnv.popen (zdumpCommand zoneinfoDir .directory) =
      some ([zoneLine zoneinfoDir "UTC".toList "now".toList,
        zoneLine zoneinfoDir "Etc".toList "now Etc".toList].flatten, 0) := by decide
  refine .directory hstat rfl hlisted (.cons ⟨_, prints_zoneLine (htime _ (by decide)) (by decide),
    fun text h => (ObjectTree.leaf.inj h).symm⟩ (.cons ⟨_, prints_zoneLine (htime _ (by decide))
      (by decide), fun text h => ?_⟩ .nil)) ?_ (by decide) ?_
  · cases h
  · intro child hchild
    obtain rfl | hchild := List.mem_cons.mp hchild
    · exact hname _ (by decide)
    · rw [List.mem_singleton.mp hchild]
      exact hname _ (by decide)
  · intro child hchild
    obtain rfl | hchild := List.mem_cons.mp hchild
    · exact hutc
    · rw [List.mem_singleton.mp hchild]
      exact hetc

end DeviceAndDisplay.SystemServices.TimeZone
