import DeviceAndDisplay.Verification.SystemServices.DownloadProgress

/-! # The pipeline

What `tr -s '\r' '\n' | tail -n 1`, `sed`, `tr -s ' '` and `cut -d ' ' -f3` give for a text. A
carriage return does not end a line of `getLastLine`, so that it can look at another line. -/

namespace DeviceAndDisplay.SystemServices

open Helpers Storage

variable {line text : Text} {percent : ℤ}

/-- The last line that is not empty. -/
def lastOfLines (text : Text) : Option Text :=
  ((text.splitOnP fun c => c = '\r' || c = '\n').filter (· ≠ [])).getLast?

/-- The third word of a line with a size in mega- or gigabytes. -/
def thirdWord (line : Text) : Option Text := if HasUnit line then (words ' ' line)[2]? else none

/-- What the pipeline returns, and `downloadPercent`. -/
def pipeline (text : Text) (downloadPercent : ℤ) : Bool × ℤ :=
  match (lastOfLines text).bind thirdWord with
  | none => (false, downloadPercent)
  | some word => (true, integerAt word)

/-- `getDownloadProgress` does what the pipeline does. -/
def FollowsPipeline (text : Text) : Prop :=
  ∀ percent, getDownloadProgress (some text) percent = some (pipeline text percent)

/-- The line that is looked at and the last line have the same progress: neither has a third word,
or the number of the one, as an `int`, is that of the other. -/
def SameProgress (text : Text) : Prop :=
  ((lastLine (some text)).bind thirdWord).map Storage.atoi =
    ((lastOfLines text).bind thirdWord).map integerAt

/-- No file is read as if it were empty. -/
def HasContent (text : Text) : Prop := (readFileContent (some text)).2 = [] → text = []

theorem fgetsFrom_ne_nil {limit room : ℕ} {start : Text} (h : start ≠ [] ∨ text ≠ []) :
    fgetsFrom limit room start text ≠ [] := by
  induction text generalizing room start with
  | nil => simpa [fgetsFrom] using h
  | cons c rest ih =>
      rw [fgetsFrom]
      split
      · simp
      · exact ih (.inl (by simp))

/-! ### One outcome for each progress -/

/-- What is returned for a progress, and `downloadPercent`. -/
def outcome (downloadPercent : ℤ) : Option ℤ → Bool × ℤ
  | none => (false, downloadPercent)
  | some progress => (true, progress)

theorem outcome_injective {progress progress' : Option ℤ} :
    (∀ percent, outcome percent progress = outcome percent progress') ↔ progress = progress' := by
  constructor
  · intro h
    have heq := h 0
    cases progress <;> cases progress' <;> simp_all [outcome]
  · rintro rfl percent
    rfl

theorem pipeline_eq (text : Text) (percent : ℤ) :
    pipeline text percent =
      outcome percent (((lastOfLines text).bind thirdWord).map integerAt) := by
  rw [pipeline]
  cases (lastOfLines text).bind thirdWord <;> rfl

/-- Nothing that is there is read as an empty file if `fgets` reads something. -/
theorem found_iff (text : Text) : (readFileContent (some text)).1 = true ↔ text ≠ [] := by
  rw [readFileContent]
  simp only [decide_eq_true_eq, ne_eq]
  refine not_congr ⟨fun h => ?_, fun h => ?_⟩
  · by_contra hne
    exact fgetsFrom_ne_nil (.inr hne) h
  · rw [h]
    rfl

/-- What is returned if no piece is missing and the content is not taken for empty. -/
theorem getDownloadProgress_eq (hcontent : HasContent text)
    (hpiece : ∀ line ∈ lastLine (some text), HasUnit line → HasThirdPiece line) (percent : ℤ) :
    getDownloadProgress (some text) percent =
      some (outcome percent (((lastLine (some text)).bind thirdWord).map Storage.atoi)) := by
  cases hline : lastLine (some text) with
  | none =>
      have hfalse : ((readFileContent (some text)).1 && (readFileContent (some text)).2 = []) =
          false := by
        rw [Bool.and_eq_false_iff]
        by_cases hnil : (readFileContent (some text)).2 = []
        · refine .inl (Bool.eq_false_iff.mpr fun hfound => ?_)
          exact (found_iff text).mp hfound (hcontent hnil)
        · exact .inr (decide_eq_false hnil)
      rw [getDownloadProgress_of_none hline, hfalse]
      rfl
  | some line =>
      rw [getDownloadProgress_of_some hline, Option.bind_some]
      by_cases hunit : HasUnit line
      · rw [if_pos hunit, thirdWord, if_pos hunit]
        cases hword : (words ' ' line)[2]? with
        | some word => rw [progressOf_word hword]; rfl
        | none =>
            have hlength : (words ' ' line).length ≤ 2 := List.getElem?_eq_none_iff.mp hword
            rcases hpiece line hline hunit with hthree | ⟨htwo, hend⟩
            · omega
            · rw [progressOf_two htwo hend]
              rfl
      · rw [if_neg hunit, thirdWord, if_neg hunit]
        rfl

/-- A file that is taken for empty, though it is not, has its progress returned as known. -/
theorem hasContent_of_follows (h : FollowsPipeline text) : HasContent text := by
  intro hnil
  by_contra hne
  have hline : lastLine (some text) = none := by
    rw [lastLine, hnil]
    rfl
  have hknown : ∀ percent, getDownloadProgress (some text) percent = some (true, percent) := by
    intro percent
    rw [getDownloadProgress_of_none hline, (found_iff text).mpr hne, hnil]
    rfl
  have hzero := (hknown 0).symm.trans (h 0)
  have hone := (hknown 1).symm.trans (h 1)
  rw [pipeline] at hzero hone
  cases hword : (lastOfLines text).bind thirdWord with
  | none => simp [hword] at hzero
  | some word =>
      simp only [hword, Option.some.injEq, Prod.mk.injEq, true_and] at hzero hone
      omega

/-- `getDownloadProgress` follows the pipeline exactly if the file is not taken for empty, the line
it looks at has the progress of the last line, and no piece of it is missing. -/
theorem followsPipeline_iff (text : Text) :
    FollowsPipeline text ↔ HasContent text ∧ SameProgress text ∧
      ∀ line ∈ lastLine (some text), HasUnit line → HasThirdPiece line := by
  constructor
  · intro h
    have hcontent := hasContent_of_follows h
    have hpiece : ∀ line ∈ lastLine (some text), HasUnit line → HasThirdPiece line := by
      intro line hline hunit
      by_contra hmissing
      have hresult := h 0
      rw [getDownloadProgress_of_some hline, if_pos hunit, progressOf_eq_none hmissing] at hresult
      cases hresult
    refine ⟨hcontent, outcome_injective.mp fun percent => ?_, hpiece⟩
    have hresult := h percent
    rw [getDownloadProgress_eq hcontent hpiece, pipeline_eq] at hresult
    exact Option.some.inj hresult
  · rintro ⟨hcontent, hsame, hpiece⟩ percent
    rw [getDownloadProgress_eq hcontent hpiece, pipeline_eq, hsame]

/-! ### Plain texts -/

/-- A text without NUL and without other white space than blanks and line feeds. -/
def IsPlain (text : Text) : Prop :=
  nul ∉ text ∧ ∀ c ∈ text, Storage.isSpace c = true → c = ' ' ∨ c = '\n'

theorem lastOfLines_eq (h : IsPlain text) : lastOfLines text = getLastLine text := by
  rw [lastOfLines, getLastLine, filter_splitOnP]
  intro c hc
  have hreturn : c ≠ '\r' := by
    rintro rfl
    exact absurd (h.2 '\r' hc (by decide)) (by decide)
  simp [hreturn]

theorem content_eq (h : IsPlain text) : (readFileContent (some text)).2 = text :=
  flatMap_fgets h.1

theorem words_ltrim (h : ∀ c ∈ line, Storage.isSpace c = true → c = ' ') :
    words ' ' (ltrim line) = words ' ' line := by
  induction line with
  | nil => rfl
  | cons c line ih =>
      obtain ⟨hc, hline⟩ := List.forall_mem_cons.mp h
      rw [ltrim]
      cases hspace : Storage.isSpace c with
      | false => rw [List.dropWhile_cons_of_neg (by simp [hspace])]
      | true =>
          obtain rfl := hc hspace
          rw [List.dropWhile_cons_of_pos hspace, words_cons_separator]
          exact ih hline

theorem hasUnit_ltrim (line : Text) : HasUnit (ltrim line) ↔ HasUnit line := by
  have hletter : ∀ c, Storage.isSpace c = false → (c ∈ ltrim line ↔ c ∈ line) := by
    intro c hc
    induction line with
    | nil => rfl
    | cons d line ih =>
        rw [ltrim]
        cases hspace : Storage.isSpace d with
        | false => rw [List.dropWhile_cons_of_neg (by simp [hspace])]
        | true =>
            have hne : c ≠ d := by
              rintro rfl
              rw [hspace] at hc
              cases hc
            rw [List.dropWhile_cons_of_pos hspace, List.mem_cons]
            exact ih.trans (or_iff_right hne).symm
  rw [HasUnit, HasUnit, hletter 'M' rfl, hletter 'G' rfl]

theorem atoi_eq_iff (text : Text) :
    Storage.atoi text = integerAt text ↔
      -2147483648 ≤ integerAt text ∧ integerAt text < 2147483648 := by
  constructor
  · intro h
    rw [← h]
    exact toInt_bounds _
  · exact fun h => atoi_of_fits h.1 h.2

/-- For a plain text the line is the last one, and what is left of the condition is that no piece is
missing and the number fits an `int`. -/
theorem followsPipeline_iff_of_plain (h : IsPlain text) :
    FollowsPipeline text ↔
      (∀ word ∈ (lastOfLines text).bind thirdWord,
        -2147483648 ≤ integerAt word ∧ integerAt word < 2147483648) ∧
      ∀ line ∈ lastLine (some text), HasUnit line → HasThirdPiece line := by
  have hline : lastLine (some text) = (lastOfLines text).map ltrim := by
    rw [lastLine, content_eq h, lastOfLines_eq h]
  have hword : (lastLine (some text)).bind thirdWord = (lastOfLines text).bind thirdWord := by
    rw [hline, Option.bind_map]
    refine Option.bind_congr fun line hmem => ?_
    rw [lastOfLines_eq h] at hmem
    have hpart := (List.mem_filter.mp (List.mem_of_getLast? hmem)).1
    have hblank : ∀ c ∈ line, Storage.isSpace c = true → c = ' ' := by
      intro c hc hspace
      rcases h.2 c (mem_of_mem_readParts hpart hc) hspace with heq | heq
      · exact heq
      · exact absurd (heq ▸ hc) (not_mem_of_mem_readParts hpart)
    rw [Function.comp_apply, thirdWord, thirdWord, words_ltrim hblank]
    simp only [hasUnit_ltrim]
  have hsame : SameProgress text ↔ ∀ word ∈ (lastOfLines text).bind thirdWord,
      -2147483648 ≤ integerAt word ∧ integerAt word < 2147483648 := by
    rw [SameProgress, hword]
    cases (lastOfLines text).bind thirdWord with
    | none => simp
    | some word => simp [atoi_eq_iff]
  rw [followsPipeline_iff, hsame]
  exact and_iff_right fun hnil => (content_eq h).symm.trans hnil

/-- Of two lines that a carriage return separates, the progress is that of the first. -/
theorem carriage_return_no_end :
    ¬ FollowsPipeline ['5', 'M', ' ', '1', ' ', '2', ' ', '\r', '5', 'M', ' ', '1', ' ', '3'] := by
  intro h
  have hresult := h 0
  exact absurd hresult (by decide)

end DeviceAndDisplay.SystemServices
