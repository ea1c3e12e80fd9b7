import DeviceAndDisplay.Model.SystemServices.FirmwareUpdate

/-! # The words of the last line

The collapsed line is split into its words, and an empty piece if it ends with a blank. The third
piece is read without a look at how many there are. -/

namespace DeviceAndDisplay.SystemServices

open Helpers Storage

variable {file : Option Text} {line text : Text} {percent : ℤ}

/-! ### The line and its words -/

/-- The line that `getDownloadProgress` looks at. -/
def lastLine (file : Option Text) : Option Text :=
  (getLastLine (readFileContent file).2).map ltrim

/-- Lines with a size in mega- or gigabytes. -/
def HasUnit (line : Text) : Prop := 'M' ∈ line ∨ 'G' ∈ line

instance (line : Text) : Decidable (HasUnit line) := inferInstanceAs (Decidable (_ ∨ _))

/-- There are three words, or two and a blank at the end. -/
def HasThirdPiece (line : Text) : Prop :=
  3 ≤ (words ' ' line).length ∨ (words ' ' line).length = 2 ∧ line.getLast? = some ' '

/-! ### The pieces of a line -/

/-- Of several blanks only the first is kept. -/
theorem removeExtraFrom_blank (line : Text) :
    removeExtraFrom true (' ' :: line) = removeExtraFrom true line ∧
      removeExtraFrom false (' ' :: line) = ' ' :: removeExtraFrom true line := by
  constructor <;> rw [removeExtraFrom, if_neg (by decide), if_pos rfl] <;> rfl

theorem removeExtraFrom_cons {c : Char} (hnul : c ≠ nul) (hc : c ≠ ' ') (blank : Bool)
    (line : Text) : removeExtraFrom blank (c :: line) = c :: removeExtraFrom false line := by
  rw [removeExtraFrom, if_neg hnul, if_neg hc]

/-- Behind a blank, nothing is left of a line of blanks. -/
theorem removeExtraFrom_blanks (h : ∀ c ∈ line, c = ' ') : removeExtraFrom true line = [] := by
  induction line with
  | nil => rfl
  | cons c line ih =>
      obtain ⟨rfl, hline⟩ := List.forall_mem_cons.mp h
      rw [(removeExtraFrom_blank line).1, ih hline]

/-- A blank at the end leaves an empty piece. -/
def ending (line : Text) : List Text := if line.getLast? = some ' ' then [[]] else []

theorem ending_cons {c : Char} (hne : line ≠ []) : ending (c :: line) = ending line := by
  rw [ending, ending, List.getLast?_cons, List.getLast?_eq_some_getLast hne]
  rfl

theorem ending_blanks (hne : line ≠ []) (h : ∀ c ∈ line, c = ' ') : ending line = [[]] := by
  rw [ending, List.getLast?_eq_some_getLast hne, if_pos]
  rw [h _ (List.getLast_mem hne)]

/-- Behind a blank, a line becomes its words and the empty piece of a blank at its end. -/
theorem splitOn_removeExtraFrom (hnul : nul ∉ line) (hline : ∃ c ∈ line, c ≠ ' ') :
    (removeExtraFrom true line).splitOn ' ' = words ' ' line ++ ending line := by
  induction line with
  | nil => simp at hline
  | cons c line ih =>
      rw [List.mem_cons, not_or] at hnul
      obtain ⟨hc, hnul⟩ := hnul
      by_cases hblank : c = ' '
      · subst hblank
        have hrest : ∃ c ∈ line, c ≠ ' ' := by simpa using hline
        have hne : line ≠ [] := by
          obtain ⟨d, hd, _⟩ := hrest
          exact List.ne_nil_of_mem hd
        rw [(removeExtraFrom_blank line).1, words_cons_separator, ending_cons hne]
        exact ih hnul hrest
      · rw [removeExtraFrom_cons (Ne.symm hc) hblank, splitOn_cons_of_ne hblank]
        cases line with
        | nil => simp [removeExtraFrom, words, ending, splitOn_cons_of_ne hblank, hblank]
        | cons d line =>
            rw [ending_cons (by simp)]
            by_cases hd : d = ' '
            · -- the word ends; what follows the blank has words or is blank
              subst hd
              rw [(removeExtraFrom_blank line).2, splitOn_cons_separator,
                words_cons_cons_separator hblank]
              by_cases hrest : ∃ c ∈ ' ' :: line, c ≠ ' '
              · have hsplit := ih hnul hrest
                rw [(removeExtraFrom_blank line).1, words_cons_separator] at hsplit
                simp [hsplit]
              · have hall : ∀ c ∈ ' ' :: line, c = ' ' := by simpa using hrest
                have htail : ∀ c ∈ line, c = ' ' := (List.forall_mem_cons.mp hall).2
                rw [removeExtraFrom_blanks htail, words_separators htail,
                  ending_blanks (by simp) hall]
                rfl
            · -- the word goes on
              have hdnul : d ≠ nul := fun heq => hnul (heq ▸ List.mem_cons_self)
              obtain ⟨word, rest, hwords, hlonger⟩ := exists_words_cons hd line
              have hsplit := ih hnul ⟨d, List.mem_cons_self, hd⟩
              rw [removeExtraFrom_cons hdnul hd, hwords] at hsplit
              rw [removeExtraFrom_cons hdnul hd, hsplit, hlonger c hblank]
              rfl

/-- The pieces of a line that does not start with a blank. -/
theorem splitOn_removeExtraWhitespaces (hnul : nul ∉ line) (hne : line ≠ [])
    (hhead : line.head? ≠ some ' ') :
    (removeExtraWhitespaces line).splitOn ' ' = words ' ' line ++ ending line := by
  obtain ⟨d, rest, rfl⟩ := List.exists_cons_of_ne_nil hne
  have hd : d ≠ ' ' := fun heq => hhead (congrArg some heq)
  have hdnul : d ≠ nul := fun heq => hnul (heq ▸ List.mem_cons_self)
  rw [← splitOn_removeExtraFrom hnul ⟨d, List.mem_cons_self, hd⟩, removeExtraWhitespaces,
    removeExtraFrom_cons hdnul hd, removeExtraFrom_cons hdnul hd]

/-! ### The line that is looked at -/

theorem nul_notMem_content (file : Option Text) : nul ∉ (readFileContent file).2 := by
  cases file with
  | none => simp [readFileContent]
  | some text =>
      intro h
      obtain ⟨buffer, _, hmem⟩ := List.mem_flatMap.mp h
      exact nul_notMem_cText buffer hmem

/-- There is content only if something was read. -/
theorem found_of_content (h : (readFileContent file).2 ≠ []) : (readFileContent file).1 = true := by
  cases file with
  | none => exact absurd rfl h
  | some text =>
      refine decide_eq_true fun hnil => h ?_
      rw [readFileContent, hnil]
      rfl

theorem exists_of_lastLine (h : lastLine file = some line) :
    ∃ whole, getLastLine (readFileContent file).2 = some whole ∧ line = ltrim whole ∧
      (readFileContent file).2 ≠ [] := by
  obtain ⟨whole, hwhole, rfl⟩ := Option.map_eq_some_iff.mp h
  refine ⟨whole, hwhole, rfl, fun hnil => ?_⟩
  rw [hnil] at hwhole
  cases hwhole

theorem nul_notMem_lastLine (h : lastLine file = some line) : nul ∉ line := by
  obtain ⟨whole, hwhole, rfl, _⟩ := exists_of_lastLine h
  intro hnul
  have hmem := List.mem_of_getLast? hwhole
  exact nul_notMem_content file (mem_of_mem_readParts (List.mem_filter.mp hmem).1
    ((List.dropWhile_sublist _).subset hnul))

theorem head_lastLine (h : lastLine file = some line) : line.head? ≠ some ' ' := by
  obtain ⟨whole, _, rfl, _⟩ := exists_of_lastLine h
  intro hblank
  have hhead := List.head?_dropWhile_not Storage.isSpace whole
  rw [ltrim] at hblank
  rw [hblank] at hhead
  exact absurd hhead (by decide)

/-- The pieces of the line that is looked at. -/
theorem pieces_lastLine (h : lastLine file = some line) (hunit : HasUnit line) :
    (removeExtraWhitespaces line).splitOn ' ' = words ' ' line ++ ending line := by
  refine splitOn_removeExtraWhitespaces (nul_notMem_lastLine h) ?_ (head_lastLine h)
  rintro rfl
  simp [HasUnit] at hunit

/-! ### What is returned -/

/-- What happens with the pieces. -/
def progressOf (percent : ℤ) (stringList : List Text) : Option (Bool × ℤ) :=
  match stringList[2]? with
  | none => none
  | some [] => some (false, percent)
  | some downloadprogress => some (true, Storage.atoi downloadprogress)

theorem getDownloadProgress_of_none (h : lastLine file = none) (percent : ℤ) :
    getDownloadProgress file percent =
      some ((readFileContent file).1 && (readFileContent file).2 = [], percent) := by
  have hlast : getLastLine (readFileContent file).2 = none := Option.map_eq_none_iff.mp h
  rw [getDownloadProgress]
  by_cases hcontent : (readFileContent file).2 = []
  · simp [hcontent]
  · simp [hcontent, found_of_content hcontent, hlast]

theorem getDownloadProgress_of_some (h : lastLine file = some line) (percent : ℤ) :
    getDownloadProgress file percent =
      if HasUnit line then progressOf percent (words ' ' line ++ ending line)
      else some (false, percent) := by
  obtain ⟨whole, hwhole, hline, hcontent⟩ := exists_of_lastLine h
  have hfound := found_of_content hcontent
  rw [getDownloadProgress]
  simp only [hfound, hcontent, hwhole, ne_eq, not_false_eq_true, and_self, if_true, ← hline]
  by_cases hunit : HasUnit line
  · rw [if_pos hunit, ← pieces_lastLine h hunit]
    unfold HasUnit at hunit
    rw [if_pos hunit]
    rfl
  · rw [if_neg hunit]
    unfold HasUnit at hunit
    rw [if_neg hunit]

theorem progressOf_word {word : Text} (h : (words ' ' line)[2]? = some word) (percent : ℤ) :
    progressOf percent (words ' ' line ++ ending line) = some (true, Storage.atoi word) := by
  have hlt : 2 < (words ' ' line).length := (List.getElem?_eq_some_iff.mp h).1
  have hne : word ≠ [] := ne_nil_of_mem_words (List.mem_of_getElem? h)
  rw [progressOf, List.getElem?_append_left hlt, h]
  split
  · rename_i heq
    cases heq
  · rename_i heq
    exact absurd (Option.some.inj heq) hne
  · rename_i heq
    rw [Option.some.inj heq]

theorem progressOf_two (hlength : (words ' ' line).length = 2) (hend : line.getLast? = some ' ')
    (percent : ℤ) : progressOf percent (words ' ' line ++ ending line) = some (false, percent) := by
  rw [progressOf, ending, if_pos hend, List.getElem?_append_right (by omega), hlength]
  rfl

theorem progressOf_eq_none (h : ¬ HasThirdPiece line) (percent : ℤ) :
    progressOf percent (words ' ' line ++ ending line) = none := by
  have hlength : (words ' ' line ++ ending line).length ≤ 2 := by
    rw [List.length_append, ending]
    unfold HasThirdPiece at h
    split
    · rename_i hend
      simp only [hend, and_true, List.length_singleton] at h ⊢
      omega
    · simp only [List.length_nil]
      omega
  rw [progressOf, List.getElem?_eq_none hlength]

/-! ### No access beyond the pieces -/

/-- No piece is read that does not exist, and a line with a unit and less than three words makes
`getDownloadProgress` return `false`. -/
def ReadsPieces (file : Option Text) : Prop :=
  ∀ percent, ∃ result, getDownloadProgress file percent = some result ∧
    ∀ line ∈ lastLine file, HasUnit line → (words ' ' line).length < 3 → result.1 = false

/-- That is so exactly if the line has no unit, three words, or two and a blank at its end. -/
theorem readsPieces_iff (file : Option Text) :
    ReadsPieces file ↔ ∀ line ∈ lastLine file, HasUnit line → HasThirdPiece line := by
  constructor
  · intro h line hline hunit
    by_contra hpiece
    obtain ⟨result, hresult, _⟩ := h 0
    rw [getDownloadProgress_of_some hline, if_pos hunit, progressOf_eq_none hpiece] at hresult
    cases hresult
  · intro h percent
    cases hline : lastLine file with
    | none => exact ⟨_, getDownloadProgress_of_none hline percent, by simp⟩
    | some line =>
        rw [getDownloadProgress_of_some hline]
        by_cases hunit : HasUnit line
        · rw [if_pos hunit]
          rcases h line hline hunit with hthree | ⟨htwo, hend⟩
          · obtain ⟨word, hword⟩ : ∃ word, (words ' ' line)[2]? = some word :=
              ⟨_, List.getElem?_eq_getElem hthree⟩
            refine ⟨_, progressOf_word hword percent, ?_⟩
            rintro _ ⟨⟩ _ hless
            omega
          · exact ⟨_, progressOf_two htwo hend percent, fun _ _ _ _ => rfl⟩
        · rw [if_neg hunit]
          exact ⟨_, rfl, fun _ _ _ _ => rfl⟩

/-- For the line `5M` a third piece is read that does not exist. -/
theorem third_piece_missing : ¬ ReadsPieces (some ['5', 'M']) := by
  intro h
  obtain ⟨result, hresult, _⟩ := h 0
  have hnone : getDownloadProgress (some ['5', 'M']) 0 = none := by decide
  rw [hnone] at hresult
  cases hresult

end DeviceAndDisplay.SystemServices
