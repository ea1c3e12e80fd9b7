import DeviceAndDisplay.Model.Warehouse.LightReset

/-! # What a light reset removes

The loop ends and expands the script, but what is executed is the script as it was. -/

namespace DeviceAndDisplay.Warehouse

open Helpers Storage

variable {io : LightResetIo} {n : ℕ} {front rest text word : Text}

/-! ### The paths to be removed -/

/-- The components of a path without `.` and `..`, which goes no further up than the root. -/
def resolve (path : Text) : List Text :=
  (path.splitOn '/').foldl (fun above component =>
    if component = [] ∨ component = ['.'] then above
    else if component = ['.', '.'] then above.dropLast
    else above ++ [component]) []

/-- The root directory, or everything directly under it. -/
def DenotesRoot (path : Text) : Prop :=
  path.head? = some '/' ∧ (resolve path = [] ∨ resolve path = [['*']])

instance (path : Text) : Decidable (DenotesRoot path) := inferInstanceAs (Decidable (_ ∧ _))

/-- The path for a word of the script: a variable at its start is replaced by its value. There is
none without a value or if it denotes the root directory. -/
def pathOf (io : LightResetIo) (word : Text) : Option Text :=
  if word.head?.any isNameStart then
    let value := envVar io (word.takeWhile isNameCharacter)
    let path := value ++ word.dropWhile isNameCharacter
    if value = [] ∨ DenotesRoot path then none else some path
  else some word

/-- The paths that a command hands to `rm`. -/
def rmPaths (command : Text) : List Text :=
  words ' ' ((command.drop "sh -c 'rm -rf ".toList.length).dropLast)

/-- The loop ends, and the paths handed to `rm` are those of the script with the variables
replaced. -/
def Resets (io : LightResetIo) : Prop :=
  ∃ n reset, lightReset n io = some reset ∧
    rmPaths reset.command = (words ' ' lightResetScript).filterMap (pathOf io)

/-! ### The loop ends -/

theorem regexec_length {found : Match} (h : regexec text = some found) :
    found.after.length < text.length := by
  induction text generalizing found with
  | nil => cases h
  | cons c rest ih =>
      rw [regexec] at h
      split at h
      · rename_i hmatch
        obtain rfl := Option.some.inj h
        have hword : ((c :: rest).dropWhile isSpace).length ≤ rest.length := by
          rw [List.dropWhile_cons_of_pos hmatch.1]
          exact (List.dropWhile_sublist _).length_le
        have htail := (List.dropWhile_sublist isNameCharacter
          (l := (c :: rest).dropWhile isSpace)).length_le
        have hafter := (List.dropWhile_sublist (fun c => !isSpace c)
          (l := ((c :: rest).dropWhile isSpace).dropWhile isNameCharacter)).length_le
        rw [List.length_cons]
        exact Nat.lt_succ_of_le (hafter.trans (htail.trans hword))
      · obtain ⟨found', hfound', rfl⟩ := Option.map_eq_some_iff.mp h
        have hshorter := ih hfound'
        exact Nat.lt_succ_of_lt hshorter

/-- Each round goes on behind its match, whatever it puts in the place. -/
theorem expandScript_ends (io : LightResetIo) (front rest : Text) (h : rest.length < n) :
    ∃ script, expandScript io n front rest = some script := by
  induction n generalizing front rest with
  | zero => exact absurd h (Nat.not_lt_zero _)
  | succ n ih =>
      rw [expandScript]
      cases hfound : regexec rest with
      | none => exact ⟨_, rfl⟩
      | some found =>
          have hshorter := regexec_length hfound
          exact ih _ _ (by omega)

/-! ### What the loop does with words -/

/-- What the loop makes of a word behind a blank. -/
def replaced (io : LightResetIo) (word : Text) : Text :=
  if word.head?.any isNameStart then
    replacement io ⟨[], [' '], word.takeWhile isNameCharacter, word.dropWhile isNameCharacter, []⟩
  else ' ' :: word

/-- A variable at the start of a word is the next match. -/
theorem regexec_variable (hword : ∀ c ∈ word, isSpace c = false)
    (hstart : word.head?.any isNameStart = true) (hrest : rest = [] ∨ rest.head? = some ' ') :
    regexec (' ' :: (word ++ rest)) =
      some ⟨[], [' '], word.takeWhile isNameCharacter, word.dropWhile isNameCharacter, rest⟩ := by
  obtain ⟨d, tail, rfl⟩ : ∃ d tail, word = d :: tail := by
    cases word with
    | nil => simp at hstart
    | cons d tail => exact ⟨d, tail, rfl⟩
  have hd : isSpace d = false := hword d (by simp)
  have hblank : isSpace ' ' = true := rfl
  have hstop : ∀ c ∈ rest.head?, c = ' ' := by
    rintro c hc
    rcases hrest with rfl | hhead
    · cases hc
    · exact Option.some.inj (hc.symm.trans hhead)
  have hname := takeWhile_append_stop isNameCharacter (d :: tail) rest
    fun c hc => hstop c hc ▸ rfl
  have hspace := takeWhile_append_stop (fun c => !isSpace c)
    ((d :: tail).dropWhile isNameCharacter) rest fun c hc => hstop c hc ▸ rfl
  have hsuffix : ∀ c ∈ (d :: tail).dropWhile isNameCharacter, (!isSpace c) = true := by
    intro c hc
    simp [hword c ((List.dropWhile_sublist _).subset hc)]
  rw [List.takeWhile_eq_self_iff.mpr hsuffix, List.dropWhile_eq_nil_iff.mpr hsuffix,
    List.nil_append] at hspace
  rw [regexec]
  simp only [List.cons_append] at hname
  simp only [List.cons_append, List.takeWhile_cons, List.dropWhile_cons, hblank, hd, if_true,
    Bool.false_eq_true, if_false, List.head?_cons, Option.any_some, true_and]
  rw [if_pos (by simpa using hstart)]
  simp only [List.takeWhile_cons, List.dropWhile_cons] at hname hspace ⊢
  rw [hname.1, hname.2]
  simp [hspace]

/-- A word without a variable at its start is passed over. -/
theorem regexec_other (hword : ∀ c ∈ word, isSpace c = false) (rest : Text) :
    regexec (word ++ rest) =
      (regexec rest).map fun found => { found with before := word ++ found.before } := by
  induction word with
  | nil => simp
  | cons d tail ih =>
      obtain ⟨hd, htail⟩ := List.forall_mem_cons.mp hword
      rw [List.cons_append, regexec, if_neg (by simp [hd]), ih htail, Option.map_map]
      rfl

theorem regexec_blank (hne : word ≠ []) (hword : ∀ c ∈ word, isSpace c = false)
    (hstart : word.head?.any isNameStart = false) (rest : Text) :
    regexec (' ' :: (word ++ rest)) =
      (regexec rest).map fun found => { found with before := ' ' :: word ++ found.before } := by
  obtain ⟨d, tail, rfl⟩ := List.exists_cons_of_ne_nil hne
  have hd : isSpace d = false := hword d (by simp)
  have hnot : ¬ ((' ' :: (d :: tail ++ rest)).dropWhile isSpace).head?.any isNameStart = true := by
    have hblank : isSpace ' ' = true := rfl
    simpa [List.dropWhile_cons, hblank, hd] using hstart
  rw [regexec, if_neg fun h => hnot h.2, regexec_other hword, Option.map_map]
  rfl

theorem expandScript_other (hne : word ≠ []) (hword : ∀ c ∈ word, isSpace c = false)
    (hstart : word.head?.any isNameStart = false) (n : ℕ) (front rest : Text) :
    expandScript io n front (' ' :: (word ++ rest)) =
      expandScript io n (front ++ ' ' :: word) rest := by
  cases n with
  | zero => rfl
  | succ n =>
      rw [expandScript, expandScript, regexec_blank hne hword hstart]
      cases regexec rest with
      | none => simp
      | some found => simp [replacement]

/-- The loop replaces each word behind a blank, for any values of the variables. -/
theorem expandScript_words (io : LightResetIo) {ws : List Text}
    (hws : ∀ word ∈ ws, word ≠ [] ∧ ∀ c ∈ word, isSpace c = false) (front : Text) :
    ∃ n, expandScript io n front (ws.flatMap (' ' :: ·)) =
      some (front ++ ws.flatMap (replaced io)) := by
  induction ws generalizing front with
  | nil => exact ⟨1, by simp [expandScript, regexec]⟩
  | cons word ws ih =>
      obtain ⟨⟨hne, hword⟩, hws⟩ := List.forall_mem_cons.mp hws
      cases hstart : word.head?.any isNameStart with
      | true =>
          have hrest : ws.flatMap (' ' :: ·) = [] ∨ (ws.flatMap (' ' :: ·)).head? = some ' ' := by
            cases ws <;> simp
          obtain ⟨n, hn⟩ := ih hws (front ++ replaced io word)
          refine ⟨n + 1, ?_⟩
          rw [List.flatMap_cons, List.cons_append, expandScript,
            regexec_variable hword hstart hrest]
          rw [replaced, if_pos hstart] at hn
          simpa [replaced, hstart, replacement] using hn
      | false =>
          obtain ⟨n, hn⟩ := ih hws (front ++ ' ' :: word)
          refine ⟨n, ?_⟩
          rw [List.flatMap_cons, List.cons_append, expandScript_other hne hword hstart, hn]
          simp [replaced, hstart]

/-! ### What is executed -/

/-- The words of the command are those of the script before the loop. -/
theorem rmPaths_lightReset {reset : LightReset} (h : lightReset n io = some reset) :
    rmPaths reset.command = words ' ' lightResetScript := by
  obtain ⟨script, _, rfl⟩ := Option.map_eq_some_iff.mp h
  rw [rmPaths, List.append_assoc, List.drop_left, List.dropLast_concat]

/-! ### When the paths are those that are removed -/

/-- A variable is its own path if it is its own value. -/
theorem pathOf_variable {var suffix : Text} (hstart : var.head?.any isNameStart = true)
    (hvar : ∀ c ∈ var, isNameCharacter c = true) (hsuffix : suffix.head? = some '/') :
    pathOf io (var ++ suffix) = some (var ++ suffix) ↔ envVar io var = var := by
  obtain ⟨d, tail, rfl⟩ : ∃ d tail, var = d :: tail := by
    cases var with
    | nil => simp at hstart
    | cons d tail => exact ⟨d, tail, rfl⟩
  have hslash : ∀ c ∈ suffix.head?, isNameCharacter c = false := by
    intro c hc
    rw [hsuffix] at hc
    obtain rfl := Option.some.inj hc
    rfl
  have hstop := takeWhile_append_stop isNameCharacter (d :: tail) suffix hslash
  rw [List.takeWhile_eq_self_iff.mpr hvar, List.dropWhile_eq_nil_iff.mpr hvar,
    List.nil_append] at hstop
  have hfirst : ((d :: tail) ++ suffix).head?.any isNameStart = true := by simpa using hstart
  rw [pathOf, if_pos hfirst, hstop.1, hstop.2]
  constructor
  · intro h
    simp only at h
    split at h
    · cases h
    · exact List.append_cancel_right (Option.some.inj h)
  · intro h
    have hd : d ≠ '/' := by
      rintro rfl
      have hslash : isNameStart '/' = true := hstart
      exact absurd hslash (by decide)
    simp [h, DenotesRoot, hd]

theorem pathOf_other (h : word.head?.any isNameStart = false) : pathOf io word = some word := by
  rw [pathOf, h]
  rfl

/-- The words of the script that start with a variable. -/
def variableWords : List (Text × Text) :=
  [("SD_CARD_MOUNT_PATH".toList, "/netflix/*".toList), ("XDG_DATA_HOME".toList, "/*".toList),
    ("XDG_CACHE_HOME".toList, "/*".toList), ("XDG_CACHE_HOME".toList, "/../.sparkStorage/".toList)]

theorem variableWords_spec : ∀ word ∈ variableWords,
    word.1.head?.any isNameStart = true ∧ (∀ c ∈ word.1, isNameCharacter c = true) ∧
      word.2.head? = some '/' := by
  simp only [← List.all_eq_true, variableWords, String.reduceToList]
  decide

theorem words_lightResetScript : words ' ' lightResetScript = lightResetWords := by
  apply words_intercalate
  simp only [lightResetWords, String.reduceToList]
  decide

/-- Each word starts with a variable or is none of these. -/
theorem exists_variableWord : (∀ word ∈ lightResetWords, word.head?.any isNameStart = true →
      ∃ part ∈ variableWords, word = part.1 ++ part.2) ∧
    ∀ part ∈ variableWords, part.1 ++ part.2 ∈ lightResetWords := by
  simp only [lightResetWords, variableWords, String.reduceToList]
  decide

theorem paths_eq_words_iff (io : LightResetIo) :
    (words ' ' lightResetScript).filterMap (pathOf io) = words ' ' lightResetScript ↔
      ∀ word ∈ variableWords, envVar io word.1 = word.1 := by
  rw [words_lightResetScript, filterMap_eq_self]
  constructor
  · intro h part hpart
    obtain ⟨hstart, hname, hsuffix⟩ := variableWords_spec part hpart
    exact (pathOf_variable hstart hname hsuffix).mp (h _ (exists_variableWord.2 part hpart))
  · intro h word hword
    cases hstart : word.head?.any isNameStart with
    | false => exact pathOf_other hstart
    | true =>
        obtain ⟨part, hpart, rfl⟩ := exists_variableWord.1 word hword hstart
        obtain ⟨hstart, hname, hsuffix⟩ := variableWords_spec part hpart
        exact (pathOf_variable hstart hname hsuffix).mpr (h part hpart)

/-- A light reset removes the paths of the script with its variables replaced exactly if each
variable is its own value. -/
theorem resets_iff (io : LightResetIo) :
    Resets io ↔ ∀ word ∈ variableWords, envVar io word.1 = word.1 := by
  rw [← paths_eq_words_iff]
  constructor
  · rintro ⟨n, reset, hreset, hpaths⟩
    rw [← hpaths, rmPaths_lightReset hreset]
  · intro hpaths
    obtain ⟨script, hscript⟩ := expandScript_ends io [] lightResetScript (Nat.lt_succ_self _)
    have hreset : ∃ reset, lightReset (lightResetScript.length + 1) io = some reset := by
      rw [lightReset, hscript]
      exact ⟨_, rfl⟩
    obtain ⟨reset, hreset⟩ := hreset
    exact ⟨_, reset, hreset, (rmPaths_lightReset hreset).trans hpaths.symm⟩

/-- An environment in which the value of every variable is `/mnt/data`. -/
def usualEnvironment : LightResetIo where
  getenv _ := some "/mnt/data".toList
  mounts := none
  returned := 0

/-- There the command has the names of the variables and not their values. -/
theorem names_executed : ¬ Resets usualEnvironment := by
  rintro ⟨n, reset, hreset, hpaths⟩
  rw [rmPaths_lightReset hreset] at hpaths
  have hvalue := (paths_eq_words_iff usualEnvironment).mp hpaths.symm
    ("XDG_DATA_HOME".toList, "/*".toList) (by simp [variableWords])
  have henv : envVar usualEnvironment "XDG_DATA_HOME".toList = "/mnt/data".toList := by
    simp [envVar, usualEnvironment]
  rw [henv] at hvalue
  simp at hvalue

end DeviceAndDisplay.Warehouse
