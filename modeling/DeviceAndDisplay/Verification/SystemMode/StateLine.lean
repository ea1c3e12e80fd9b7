import DeviceAndDisplay.Verification.SystemMode.Callsigns

/-! # The state in the file

Updates for any callsign keep the line of the state as long as it comes before the lines of
callsigns, as it does in a file that the plugin created. -/

namespace DeviceAndDisplay.SystemMode

open Storage

variable {io : FileIo} {systemMode property value value' c : Text} {action : FileAction}
  {file : Option Text}

/-! ### Updates after the first lines -/

theorem updateSystemModeFile_some (hm : systemMode ≠ []) (hp : property ≠ []) (text : Text) :
    updateSystemModeFile io systemMode property value (some action) (some text) =
      some (rewriteFile io systemMode property value action (readParts '\n' text) text) := by
  rw [updateSystemModeFile, if_neg (not_or.mpr ⟨hm, hp⟩)]

/-- Lines that do not start with the key are kept, unless they are empty. -/
theorem updateLines_append {front : List Text}
    (h : ∀ line ∈ front, ¬ searchKey systemMode property <+: line) (lines : List Text) :
    updateLines systemMode property value action (front ++ lines) =
      front.filter (· ≠ []) ++ updateLines systemMode property value action lines := by
  induction front with
  | nil => rfl
  | cons line front ih =>
      have hline := h line List.mem_cons_self
      have hrest := ih fun other hother => h other (List.mem_cons_of_mem line hother)
      simp only [updateLines, List.cons_append, List.filterMap_cons, updateLine_of_other hline,
        List.exists_mem_cons_iff, hline, false_or] at hrest ⊢
      rw [List.filter_cons, List.filter_cons]
      split
      · rw [List.cons_append, List.cons_append, hrest]
      · exact hrest

theorem updateLines_cons {line new : Text}
    (h : updateLine systemMode property value action line = some new) (hne : new ≠ [])
    (lines : List Text) :
    ∃ rest, updateLines systemMode property value action (line :: lines) = new :: rest := by
  simp [updateLines, h, hne]

/-! ### The first line of the state -/

/-- The line of the state in the file. -/
def stateLine (value : Text) : Text := searchKey deviceOptimize currentstate ++ '=' :: value

/-- The first line of the state has the value and comes before every line of callsigns. -/
def StateFirst (value : Text) (file : Option Text) : Prop :=
  ∃ front back, fileLines file = front ++ stateLine value :: back ∧
    ∀ line ∈ front, ¬ searchKey deviceOptimize currentstate <+: line ∧
      ¬ searchKey deviceOptimize callsign <+: line

theorem equals_not_mem_stateKey : '=' ∉ searchKey deviceOptimize currentstate := by decide

theorem StateFirst.exists_text (h : StateFirst value file) : ∃ text, file = some text := by
  obtain ⟨front, back, hlines, -⟩ := h
  cases file with
  | none => simp [fileLines] at hlines
  | some text => exact ⟨text, rfl⟩

theorem StateFirst.read (h : StateFirst value file) :
    getSystemModePropertyValue deviceOptimize currentstate file = some value := by
  obtain ⟨front, back, hlines, hfront⟩ := h
  have hnone : front.findSome? (readLine (searchKey deviceOptimize currentstate)) = none := by
    rw [List.findSome?_eq_none_iff]
    intro line hline
    exact if_neg (hfront line hline).1
  have hline : readLine (searchKey deviceOptimize currentstate) (stateLine value) = some value :=
    Entry.readLine_line (e := ⟨_, value⟩) equals_not_mem_stateKey rfl
  rw [getSystemModePropertyValue_eq (by decide) (by decide), hlines, List.findSome?_append, hnone,
    List.findSome?_cons, hline]
  rfl

/-- An update keeps the state first if it makes a line of the state of the old one. -/
theorem StateFirst.update (h : StateFirst value file) (io : FileIo)
    (hkey : property = currentstate ∨ property = callsign)
    (hline : updateLine deviceOptimize property c action (stateLine value) =
      some (stateLine value')) (hnewline : '\n' ∉ stateLine value') :
    StateFirst (if io.writes then value' else value)
      (updateSystemModeFile io deviceOptimize property c (some action) file) := by
  have hp : property ≠ [] := by rcases hkey with rfl | rfl <;> decide
  obtain ⟨text, rfl⟩ := h.exists_text
  rw [updateSystemModeFile_some (by decide) hp, rewriteFile]
  cases hwrites : io.writes with
  | false => simpa using h
  | true =>
      obtain ⟨front, back, hlines, hfront⟩ := h
      have hother : ∀ line ∈ front, ¬ searchKey deviceOptimize property <+: line := by
        intro line hmem
        rcases hkey with rfl | rfl
        · exact (hfront line hmem).1
        · exact (hfront line hmem).2
      have hne : stateLine value' ≠ [] := by simp [stateLine]
      obtain ⟨rest, hrest⟩ := updateLines_cons hline hne back
      have hclean : ∀ line ∈ front.filter (· ≠ []), '\n' ∉ line := by
        intro line hmem
        have hread : line ∈ readParts '\n' text := by
          rw [fileLines] at hlines
          rw [hlines]
          exact List.mem_append_left _ (List.mem_filter.mp hmem).1
        exact not_mem_of_mem_readParts hread
      refine ⟨front.filter (· ≠ []), readParts '\n' (terminate '\n' rest), ?_,
        fun line hmem => hfront line (List.mem_filter.mp hmem).1⟩
      rw [fileLines] at hlines
      simp only [if_true, fileLines]
      rw [hlines, updateLines_append hother, hrest, terminate_append, terminate_cons,
        readParts_terminate_append hclean, readParts_append_cons hnewline]

theorem StateFirst.newline (h : StateFirst value file) : '\n' ∉ stateLine value := by
  obtain ⟨text, rfl⟩ := h.exists_text
  obtain ⟨front, back, hlines, -⟩ := h
  have hmem : stateLine value ∈ readParts '\n' text := by
    rw [fileLines] at hlines
    rw [hlines]
    exact List.mem_append_right front List.mem_cons_self
  exact not_mem_of_mem_readParts hmem

theorem StateFirst.update_callsign (h : StateFirst value file) (io : FileIo) (c : Text)
    (action : FileAction) :
    StateFirst value (updateSystemModeFile io deviceOptimize callsign c (some action) file) := by
  have hline : updateLine deviceOptimize callsign c action (stateLine value) =
      some (stateLine value) := by
    apply updateLine_of_other
    intro hprefix
    have hkey : searchKey deviceOptimize callsign <+: searchKey deviceOptimize currentstate :=
      prefix_append_cons (by decide) hprefix
    exact absurd hkey (by decide)
  have hupdate := h.update io (.inr rfl) hline h.newline
  rwa [ite_self] at hupdate

theorem StateFirst.update_state (h : StateFirst value file) (io : FileIo)
    (hnewline : '\n' ∉ value') :
    StateFirst (if io.writes then value' else value)
      (updateSystemModeFile io deviceOptimize currentstate value' (some .add) file) := by
  have hline : updateLine deviceOptimize currentstate value' .add (stateLine value) =
      some (stateLine value') := by
    simp [updateLine, stateLine]
  refine h.update io (.inl rfl) hline ?_
  rw [stateLine, List.mem_append, List.mem_cons, not_or, not_or]
  exact ⟨by decide, by decide, hnewline⟩

end DeviceAndDisplay.SystemMode
