import DeviceAndDisplay.Model.SystemServices.Territory
import DeviceAndDisplay.Transition.Run

/-! # The territory round trip

What a successful `setTerritory` stores is read back. The list is searched as text, so a piece of
it passes for a code, and the setter reads over the members of the call before. -/

namespace DeviceAndDisplay.SystemServices

open Helpers Storage Transition

variable {t r : Text}

/-! ### The list -/

/-- The codes of the list, which blanks separate. -/
def standardTerritories : List Text := (standardTerritoryList.splitOn ' ').filter (· ≠ [])

theorem standardTerritoryList_length : standardTerritoryList.length = 1094 := by decide +kernel

theorem newline_not_mem_standardTerritoryList : '\n' ∉ standardTerritoryList := by decide +kernel

/-- The list ends before the bound on the position. -/
theorem isStandardTerritory_iff :
    isStandardTerritory t = true ↔ t.length = 3 ∧ t <:+: standardTerritoryList := by
  rw [isStandardTerritory, ← find_isSome_iff]
  cases hfind : find t standardTerritoryList with
  | none => simp
  | some index =>
      obtain ⟨before, after, hlist, rfl⟩ := exists_of_find hfind
      have hlen : before.length ≤ 1100 := by
        have hsum : standardTerritoryList.length = (before ++ t ++ after).length := by
          rw [← hlist]
        rw [standardTerritoryList_length, List.length_append, List.length_append] at hsum
        omega
      simp [hlen]

theorem isStandardTerritory_of_mem (h : t ∈ standardTerritories) (hlen : t.length = 3) :
    isStandardTerritory t = true :=
  isStandardTerritory_iff.mpr ⟨hlen, infix_of_mem_splitOn (List.mem_filter.mp h).1⟩

theorem ne_nil_of_isStandardTerritory (h : isStandardTerritory t = true) : t ≠ [] := by
  rintro rfl
  have hlen : ([] : Text).length = 3 := (isStandardTerritory_iff.mp h).1
  cases hlen

theorem newline_not_mem_of_isStandardTerritory (h : isStandardTerritory t = true) : '\n' ∉ t := by
  intro hmem
  exact newline_not_mem_standardTerritoryList ((isStandardTerritory_iff.mp h).2.subset hmem)

/-! ### Regions -/

theorem isStrAlphaUpper_iff : isStrAlphaUpper t = true ↔ t ≠ [] ∧ ∀ c ∈ t, c.isUpper = true := by
  have hupper : ∀ c : Char, (c.isAlpha && c.isUpper) = c.isUpper := by
    intro c
    have halpha : c.isAlpha = (c.isUpper || c.isLower) := rfl
    rw [halpha]
    cases c.isUpper <;> simp
  simp [isStrAlphaUpper, hupper]

theorem newline_not_mem_of_isStrAlphaUpper (h : isStrAlphaUpper t = true) : '\n' ∉ t := by
  intro hmem
  have hupper : '\n'.isUpper = true := (isStrAlphaUpper_iff.mp h).2 '\n' hmem
  cases hupper

theorem newline_not_mem_of_isRegionValid (h : isRegionValid r = true) : '\n' ∉ r := by
  simp only [isRegionValid, Bool.if_false_right, Bool.and_eq_true, decide_eq_true_eq] at h
  obtain ⟨-, -, hfront, -, hback⟩ := h
  cases hfind : find ['-'] r with
  | none =>
      rw [hfind, Option.getD_none, List.take_length] at hfront
      exact newline_not_mem_of_isStrAlphaUpper hfront
  | some pos =>
      obtain ⟨before, after, rfl, rfl⟩ := exists_of_find hfind
      rw [hfind, Option.getD_some, List.append_assoc, List.take_left] at hfront
      rw [hfind, Option.elim_some, List.append_assoc, List.drop_length_add_append] at hback
      have hafter : '\n' ∉ after := newline_not_mem_of_isStrAlphaUpper hback
      simp [newline_not_mem_of_isStrAlphaUpper hfront, hafter]

theorem ne_nil_of_isRegionValid (h : isRegionValid r = true) : r ≠ [] := by
  rintro rfl
  cases h

/-! ### Lines of the file -/

theorem getline_line {line : Text} (h : '\n' ∉ line) (str rest : Text) :
    getline str (some (line ++ '\n' :: rest)) = (line, some rest) := by
  simp only [getline, find_separator h, List.take_left, List.drop_length_add_append]
  rfl

theorem getline_nil (str : Text) : getline str (some []) = ([], none) := rfl

theorem safeExtractAfterColon_line {key value : Text} (hk : ':' ∉ key) (hv : value ≠ []) :
    safeExtractAfterColon (key ++ ':' :: value) = value := by
  have hlen : key.length + 1 < (key ++ ':' :: value).length := by
    have hpos : 0 < value.length := List.length_pos_iff.mpr hv
    rw [List.length_append, List.length_cons]
    omega
  simp only [safeExtractAfterColon, find_separator hk, if_pos hlen, List.drop_length_add_append]
  rfl

namespace Territory

variable {s : Territory} {outdata : Bool} {territory region : Option Text}

/-! ### What the reader finds -/

/-- The file has no first line. -/
def Blank (s : Territory) : Prop := ∀ text ∈ s.file, (getline [] (some text)).1 = []

/-- The file has a territory that the reader takes, and no line after it. -/
def LacksRegionLine (s : Territory) : Prop :=
  ∃ text ∈ s.file, ∃ str inFile, getline [] (some text) = (str, inFile) ∧ str ≠ [] ∧
    isStandardTerritory (safeExtractAfterColon str) = true ∧ (getline str inFile).1 = []

def reset (s : Territory) : Territory := { s with territory := [], region := [] }

@[simp] theorem reset_file : s.reset.file = s.file := rfl

theorem getTerritory_eq : s.getTerritory =
    (⟨s.reset.readTerritoryFromFile.territory, s.reset.readTerritoryFromFile.region, true⟩,
      s.reset.readTerritoryFromFile) := rfl

@[simp] theorem readTerritoryFromFile_file (s : Territory) :
    s.readTerritoryFromFile.file = s.file := by
  obtain ⟨territory, region, file⟩ := s
  cases file with
  | none => rfl
  | some text =>
      simp only [readTerritoryFromFile]
      split_ifs <;> rfl

section

variable {text str : Text} {inFile : Option Text} (hfile : s.file = some text)
  (hline : getline [] (some text) = (str, inFile))

include hfile hline

theorem readTerritoryFromFile_of_nil (hstr : str = []) : s.readTerritoryFromFile = s := by
  simp [readTerritoryFromFile, hfile, hline, hstr]

theorem readTerritoryFromFile_of_territory (hstr : str ≠ [])
    (hstandard : isStandardTerritory (safeExtractAfterColon str) = true)
    (hnil : (getline str inFile).1 = []) :
    s.readTerritoryFromFile = { s with territory := safeExtractAfterColon str } := by
  simp [readTerritoryFromFile, hfile, hline, hstr, hstandard, hnil]

/-- If a line follows the territory, or the territory is refused, both members are set. -/
theorem readTerritoryFromFile_reset (hstr : str ≠ [])
    (hpair : isStandardTerritory (safeExtractAfterColon str) = true → (getline str inFile).1 ≠ []) :
    s.reset.readTerritoryFromFile = s.readTerritoryFromFile := by
  obtain ⟨territory, region, file⟩ := s
  subst hfile
  by_cases hstandard : isStandardTerritory (safeExtractAfterColon str) = true
  · simp [readTerritoryFromFile, reset, hline, hstr, hstandard, hpair hstandard]
  · simp [readTerritoryFromFile, reset, hline, hstr, hstandard]

theorem blank_iff : s.Blank ↔ str = [] := by
  simp [Blank, hfile, hline]

theorem lacksRegionLine_iff : s.LacksRegionLine ↔ str ≠ [] ∧
    isStandardTerritory (safeExtractAfterColon str) = true ∧ (getline str inFile).1 = [] := by
  simp [LacksRegionLine, hfile, hline]

end

/-- The three ways in which the reader treats the members. -/
theorem readTerritoryFromFile_cases (s : Territory) :
    (s.Blank ∧ s.readTerritoryFromFile = s ∧ s.reset.readTerritoryFromFile = s.reset) ∨
    (¬ s.Blank ∧ s.LacksRegionLine ∧ ∃ t, s.readTerritoryFromFile = { s with territory := t } ∧
      s.reset.readTerritoryFromFile = { s.reset with territory := t }) ∨
    (¬ s.Blank ∧ ¬ s.LacksRegionLine ∧
      s.reset.readTerritoryFromFile = s.readTerritoryFromFile) := by
  rcases Option.eq_none_or_eq_some s.file with hfile | ⟨text, hfile⟩
  · exact .inl (by simp [Blank, readTerritoryFromFile, hfile])
  · have hreset : s.reset.file = some text := hfile
    rcases hline : getline [] (some text) with ⟨str, inFile⟩
    rw [blank_iff hfile hline, lacksRegionLine_iff hfile hline]
    by_cases hstr : str = []
    · exact .inl ⟨hstr, readTerritoryFromFile_of_nil hfile hline hstr,
        readTerritoryFromFile_of_nil hreset hline hstr⟩
    · by_cases hlacks : isStandardTerritory (safeExtractAfterColon str) = true ∧
          (getline str inFile).1 = []
      · exact .inr (.inl ⟨hstr, ⟨hstr, hlacks⟩, safeExtractAfterColon str,
          readTerritoryFromFile_of_territory hfile hline hstr hlacks.1 hlacks.2,
          readTerritoryFromFile_of_territory hreset hline hstr hlacks.1 hlacks.2⟩)
      · refine .inr (.inr ⟨hstr, fun h => hlacks h.2, ?_⟩)
        exact readTerritoryFromFile_reset hfile hline hstr (not_and.mp hlacks)

/-! ### What is written is read back -/

theorem getline_written (ht : isStandardTerritory t = true) (r str : Text) :
    getline str (some (written t r)) = (territoryKey ++ ':' :: t,
      some (if r ≠ [] then regionKey ++ ':' :: (r ++ ['\n']) else [])) := by
  have hline : '\n' ∉ territoryKey ++ ':' :: t := by
    simp [territoryKey, newline_not_mem_of_isStandardTerritory ht]
  rw [← getline_line hline str, written, if_pos (ne_nil_of_isStandardTerritory ht)]
  simp

theorem getline_region (hr : isRegionValid r = true) (str : Text) :
    getline str (some (regionKey ++ ':' :: (r ++ ['\n']))) =
      (regionKey ++ ':' :: r, some []) := by
  have hline : '\n' ∉ regionKey ++ ':' :: r := by
    simp [regionKey, newline_not_mem_of_isRegionValid hr]
  rw [← getline_line hline str]
  simp

theorem readTerritoryFromFile_written (ht : isStandardTerritory t = true)
    (hr : r = [] ∨ isRegionValid r = true) (hfile : s.file = some (written t r))
    (hregion : s.region = []) :
    s.readTerritoryFromFile = { s with territory := t, region := r } := by
  have hterritory : safeExtractAfterColon (territoryKey ++ ':' :: t) = t :=
    safeExtractAfterColon_line (by decide) (ne_nil_of_isStandardTerritory ht)
  obtain ⟨territory, region, file⟩ := s
  subst hfile hregion
  rcases hr with rfl | hr
  · simp [readTerritoryFromFile, getline_written ht, hterritory, ht, getline_nil]
  · have hne : r ≠ [] := ne_nil_of_isRegionValid hr
    have hextract : safeExtractAfterColon (regionKey ++ ':' :: r) = r :=
      safeExtractAfterColon_line (by decide) hne
    simp [readTerritoryFromFile, getline_written ht, hterritory, ht, hne, getline_region hr,
      hextract, hr]

theorem getTerritory_written (ht : isStandardTerritory t = true)
    (hr : r = [] ∨ isRegionValid r = true) (hfile : s.file = some (written t r)) :
    s.getTerritory.1 = ⟨t, r, true⟩ := by
  have hreset : s.reset.file = some (written t r) := hfile
  rw [getTerritory_eq, readTerritoryFromFile_written ht hr hreset rfl]

/-! ### The setter -/

/-- The region is left out or passes the test. -/
def RegionAllowed (region : Option Text) : Prop := ∀ r ∈ region, isRegionValid r = true

theorem RegionAllowed.getD (h : RegionAllowed region) :
    region.getD [] = [] ∨ isRegionValid (region.getD []) = true := by
  cases region with
  | none => exact .inl rfl
  | some r => exact .inr (h r rfl)

/-- The call passes the tests of the setter, and the file can be written. -/
structure Accepts (outdata : Bool) (territory region : Option Text) (t : Text) : Prop where
  opened : outdata = true
  given : territory = some t
  standard : isStandardTerritory t = true
  region : RegionAllowed region

/-- The state once the pair is stored. -/
def stored (t r : Text) (s : Territory) : Territory :=
  { s.readTerritoryFromFile with file := some (written t r) }

theorem setTerritory_of_accepts (h : Accepts outdata territory region t) :
    s.setTerritory outdata territory region =
      (⟨none, true, some (onTerritoryChanged s.readTerritoryFromFile.territory t
        s.readTerritoryFromFile.region (region.getD []))⟩, s.stored t (region.getD [])) := by
  obtain ⟨rfl, rfl, hstandard, hregion⟩ := h
  have ht : t ≠ [] := ne_nil_of_isStandardTerritory hstandard
  cases region with
  | none => simp [setTerritory, hstandard, changeTerritory, writeTerritory, ht, stored]
  | some r =>
      have hr : isRegionValid r = true := hregion r rfl
      simp [setTerritory, hstandard, ne_nil_of_isRegionValid hr, hr, changeTerritory,
        writeTerritory, ht, stored]

theorem changeTerritory_false (t r : Text) (s : Territory) :
    s.changeTerritory false t r = ({}, s) := rfl

theorem setTerritory_of_refuses (h : ∀ t, ¬ Accepts outdata territory region t) :
    (s.setTerritory outdata territory region).1.success = false ∧
      ((s.setTerritory outdata territory region).2 = s ∨
        (s.setTerritory outdata territory region).2 = s.readTerritoryFromFile) := by
  cases territory with
  | none => exact ⟨rfl, .inl rfl⟩
  | some t =>
      by_cases hstandard : isStandardTerritory t = true
      · cases outdata with
        | false =>
            cases region with
            | none => simp [setTerritory, hstandard, changeTerritory_false]
            | some r =>
                simp only [setTerritory, hstandard, changeTerritory_false]
                split_ifs <;> simp
        | true =>
            cases region with
            | none => exact absurd ⟨rfl, rfl, hstandard, fun r hr => by cases hr⟩ (h t)
            | some r =>
                have hr : ¬ isRegionValid r = true := by
                  intro hr
                  refine h t ⟨rfl, rfl, hstandard, ?_⟩
                  rintro _ ⟨⟩
                  exact hr
                by_cases hnil : r = [] <;> simp [setTerritory, hstandard, hr, hnil]
      · simp [setTerritory, hstandard]

theorem not_blank_stored (ht : isStandardTerritory t = true) : ¬ (s.stored t r).Blank := by
  intro h
  have hnil : (getline [] (some (written t r))).1 = [] := h _ rfl
  rw [getline_written ht] at hnil
  cases hnil

/-! ### The members between the calls -/

/-- While the file has no first line, nothing is remembered. -/
def Settled (s : Territory) : Prop := s.Blank → s = s.reset

theorem readTerritoryFromFile_of_blank (h : s.Blank) :
    s.readTerritoryFromFile = s ∧ s.reset.readTerritoryFromFile = s.reset := by
  rcases readTerritoryFromFile_cases s with ⟨-, hread⟩ | ⟨hnot, -⟩ | ⟨hnot, -⟩
  · exact hread
  · exact absurd h hnot
  · exact absurd h hnot

theorem Settled.readTerritoryFromFile (hs : s.Settled) : s.readTerritoryFromFile.Settled := by
  intro h
  have hblank : s.Blank := by
    rw [Blank, readTerritoryFromFile_file] at h
    exact h
  rw [(readTerritoryFromFile_of_blank hblank).1]
  exact hs hblank

theorem Settled.step (hs : s.Settled) {call : Call} {s' : Territory} (h : s.step call = some s') :
    s'.Settled := by
  cases call with
  | setTerritory outdata territory region =>
      cases h
      by_cases hacc : ∃ t, Accepts outdata territory region t
      · obtain ⟨t, hacc⟩ := hacc
        rw [setTerritory_of_accepts hacc]
        intro hblank
        exact absurd hblank (not_blank_stored hacc.standard)
      · rw [not_exists] at hacc
        rcases (setTerritory_of_refuses (s := s) hacc).2 with hs' | hs'
        · rw [hs']
          exact hs
        · rw [hs']
          exact hs.readTerritoryFromFile
  | getTerritory =>
      cases h
      have hreset : s.reset.Settled := fun _ => rfl
      exact hreset.readTerritoryFromFile

theorem Settled.old_territory (hs : s.Settled) :
    s.readTerritoryFromFile.territory = s.getTerritory.1.territory := by
  rw [getTerritory_eq]
  rcases readTerritoryFromFile_cases s with ⟨hblank, hread, hreset⟩ | ⟨-, -, t, hread, hreset⟩ |
    ⟨-, -, hreset⟩
  · rw [hread, hreset, ← hs hblank]
  · rw [hread, hreset]
  · rw [hreset]

/-- The setter takes the region of an earlier call for the old one if the file has none. -/
theorem Settled.old_region_iff (hs : s.Settled) :
    s.readTerritoryFromFile.region = s.getTerritory.1.region ↔
      (s.LacksRegionLine → s.region = []) := by
  rw [getTerritory_eq]
  rcases readTerritoryFromFile_cases s with ⟨hblank, hread, hreset⟩ |
    ⟨-, hlacks, t, hread, hreset⟩ | ⟨-, hlacks, hreset⟩
  · rw [hread, hreset]
    have hregion : s.region = [] := congrArg Territory.region (hs hblank)
    exact iff_of_true hregion fun _ => hregion
  · rw [hread, hreset]
    exact ⟨fun h _ => h, fun h => h hlacks⟩
  · rw [hreset]
    exact iff_of_true rfl fun h => absurd h hlacks

/-! ### Calls without success -/

def Succeeds (s : Territory) : Call → Prop
  | .setTerritory outdata territory region =>
      (s.setTerritory outdata territory region).1.success = true
  | .getTerritory => False

theorem step_file {call : Call} {s' : Territory} (hnot : ¬ s.Succeeds call)
    (h : s.step call = some s') : s'.file = s.file := by
  cases call with
  | setTerritory outdata territory region =>
      cases h
      have hrefuses : ∀ t, ¬ Accepts outdata territory region t := by
        intro t hacc
        apply hnot
        rw [Succeeds, setTerritory_of_accepts hacc]
      rcases (setTerritory_of_refuses (s := s) hrefuses).2 with hs' | hs'
      · rw [hs']
      · rw [hs', readTerritoryFromFile_file]
  | getTerritory =>
      cases h
      exact readTerritoryFromFile_file s.reset

/-- The pair stays until another call succeeds. -/
theorem getTerritory_kept (ht : isStandardTerritory t = true)
    (hr : r = [] ∨ isRegionValid r = true) (hfile : s.file = some (written t r))
    {calls : List Call} {s' : Territory}
    (hnot : Along step (fun s call => ¬ s.Succeeds call) s calls)
    (h : run step s calls = some s') : s'.getTerritory.1 = ⟨t, r, true⟩ := by
  have hkept : s'.file = some (written t r) := by
    refine run_invariant (I := fun s => s.file = some (written t r)) ?_ hfile hnot h
    intro s call s' hs hcall hstep
    rw [step_file hcall hstep]
    exact hs
  exact getTerritory_written ht hr hkept

/-! ### The contract of a call -/

structure SetTruthful (outdata : Bool) (territory region : Option Text) (s : Territory) :
    Prop where
  standard : (s.setTerritory outdata territory region).1.success = true →
    (∃ t ∈ standardTerritories, territory = some t) ∧ RegionAllowed region
  accepted : ∀ t ∈ standardTerritories, t.length = 3 → territory = some t →
    RegionAllowed region → outdata = true →
      (s.setTerritory outdata territory region).1.success = true
  stored : (s.setTerritory outdata territory region).1.success = true →
    ∀ t, territory = some t → ∀ calls s',
      Along step (fun s call => ¬ s.Succeeds call) (s.setTerritory outdata territory region).2
        calls →
      run step (s.setTerritory outdata territory region).2 calls = some s' →
      s'.getTerritory.1 = ⟨t, region.getD [], true⟩
  unchanged : (s.setTerritory outdata territory region).1.success = false →
    (s.setTerritory outdata territory region).2.file = s.file
  changed : (s.setTerritory outdata territory region).1.success = true →
    ∃ event, (s.setTerritory outdata territory region).1.event = some event ∧
      event.oldTerritory = s.getTerritory.1.territory ∧
      ∀ regions ∈ event.regions, regions.1 = s.getTerritory.1.region

/-- What is promised of a call; a pair that was stored is read until another one is. -/
def CallTruthful (s : Territory) : Call → Prop
  | .setTerritory outdata territory region => SetTruthful outdata territory region s
  | .getTerritory => s.getTerritory.2.file = s.file

/-- A call that passes the tests asks for a code of the list, and if it gives a region, none is
remembered that the file does not have. -/
def Careful (s : Territory) : Call → Prop
  | .setTerritory outdata territory region => ∀ t, Accepts outdata territory region t →
      t ∈ standardTerritories ∧ (region ≠ none → s.LacksRegionLine → s.region = [])
  | .getTerritory => True

theorem setTruthful_of_refuses (h : ∀ t, ¬ Accepts outdata territory region t) :
    SetTruthful outdata territory region s := by
  have hsuccess := (setTerritory_of_refuses (s := s) h).1
  have hnot : ¬ (s.setTerritory outdata territory region).1.success = true := by
    rw [hsuccess]
    decide
  constructor
  · exact fun hs => absurd hs hnot
  · intro t ht hlen hgiven hregion hopened
    exact absurd ⟨hopened, hgiven, isStandardTerritory_of_mem ht hlen, hregion⟩ (h t)
  · exact fun hs => absurd hs hnot
  · intro _
    have hcall : ¬ s.Succeeds (.setTerritory outdata territory region) := hnot
    exact step_file hcall rfl
  · exact fun hs => absurd hs hnot

/-- The regions of the event are those of the reader and of the call. -/
theorem onTerritoryChanged_regions (hregion : RegionAllowed region) (old new old' : Text)
    {P : Text → Prop} :
    (∀ regions ∈ (onTerritoryChanged old new old' (region.getD [])).regions, P regions.1) ↔
      (region ≠ none → P old') := by
  cases region with
  | none => simp [onTerritoryChanged]
  | some r => simp [onTerritoryChanged, ne_nil_of_isRegionValid (hregion r rfl)]

theorem Settled.setTruthful_iff (hs : s.Settled) (h : Accepts outdata territory region t) :
    SetTruthful outdata territory region s ↔
      t ∈ standardTerritories ∧ (region ≠ none → s.LacksRegionLine → s.region = []) := by
  have hset := setTerritory_of_accepts (s := s) h
  have hevent := onTerritoryChanged_regions h.region s.readTerritoryFromFile.territory t
    s.readTerritoryFromFile.region (P := fun r => r = s.getTerritory.1.region)
  rw [hs.old_region_iff] at hevent
  constructor
  · intro htruth
    have hsuccess : (s.setTerritory outdata territory region).1.success = true := by rw [hset]
    obtain ⟨⟨t', ht', hgiven⟩, -⟩ := htruth.standard hsuccess
    obtain ⟨event, heq, -, hregions⟩ := htruth.changed hsuccess
    rw [hset] at heq
    cases heq
    rw [Option.some.inj (h.given.symm.trans hgiven)]
    exact ⟨ht', hevent.mp hregions⟩
  · rintro ⟨ht, hregion⟩
    constructor
    · exact fun _ => ⟨⟨t, ht, h.given⟩, h.region⟩
    · intro _ _ _ _ _ _
      rw [hset]
    · intro _ t' hgiven calls s' hnot hrun
      rw [hset] at hnot hrun
      rw [← Option.some.inj (h.given.symm.trans hgiven)]
      exact getTerritory_kept h.standard h.region.getD rfl hnot hrun
    · intro hfail
      rw [hset] at hfail
      cases hfail
    · intro _
      refine ⟨_, by rw [hset], hs.old_territory, hevent.mpr hregion⟩

theorem Settled.callTruthful_iff (hs : s.Settled) (call : Call) :
    s.CallTruthful call ↔ s.Careful call := by
  cases call with
  | setTerritory outdata territory region =>
      rw [CallTruthful, Careful]
      by_cases hacc : ∃ t, Accepts outdata territory region t
      · obtain ⟨t, hacc⟩ := hacc
        rw [hs.setTruthful_iff hacc]
        constructor
        · intro h t' hacc'
          rw [← Option.some.inj (hacc.given.symm.trans hacc'.given)]
          exact h
        · exact fun h => h t hacc
      · rw [not_exists] at hacc
        exact iff_of_true (setTruthful_of_refuses hacc) fun t h => absurd h (hacc t)
  | getTerritory =>
      refine iff_of_true ?_ trivial
      exact readTerritoryFromFile_file s.reset

/-- Whatever the file holds, all calls of a run keep the contract exactly when each of them is
careful. -/
theorem territory_truthful_iff (file : Option Text) (calls : List Call) :
    Along step CallTruthful { file := file } calls ↔ Along step Careful { file := file } calls := by
  have hinit : Settled { file := file } := fun _ => rfl
  exact along_iff_along (fun s call s' hs _ h => hs.step h)
    (fun s call hs => hs.callTruthful_iff call) hinit calls

/-! ### Two calls that break it -/

/-- `"Cub"`, a piece of `Cuba`. -/
def cub : Text := ['C', 'u', 'b']

/-- `"ABW"`. -/
def abw : Text := ['A', 'B', 'W']

/-- `"AFG"`. -/
def afg : Text := ['A', 'F', 'G']

/-- `"AGO"`. -/
def ago : Text := ['A', 'G', 'O']

/-- `"AA-BB"`. -/
def aaBb : Text := ['A', 'A', '-', 'B', 'B']

/-- `"CC-DD"`. -/
def ccDd : Text := ['C', 'C', '-', 'D', 'D']

/-- A piece of the list is accepted; and after a call without a region, the event of the next one
tells of a region that the file does not have. -/
theorem territory_not_truthful :
    ¬ Along step CallTruthful { file := none } [.setTerritory true (some cub) none] ∧
    ¬ Along step CallTruthful { file := none } [.setTerritory true (some abw) (some aaBb),
      .setTerritory true (some afg) none, .setTerritory true (some ago) (some ccDd)] := by
  constructor
  · intro h
    have htruth : SetTruthful true (some cub) none { file := none } := h.1
    obtain ⟨⟨t, ht, hgiven⟩, -⟩ := htruth.standard (by decide +kernel)
    cases hgiven
    have hnot : cub ∉ standardTerritories := by decide +kernel
    exact hnot ht
  · intro h
    have htruth : SetTruthful true (some ago) (some ccDd)
        ⟨abw, aaBb, some (written afg [])⟩ := by
      have h₁ := h.2 { file := some (written abw aaBb) } (by decide +kernel)
      exact (h₁.2 _ (by decide +kernel)).1
    obtain ⟨event, hevent, -, hregions⟩ := htruth.changed (by decide +kernel)
    have hstale : some event = some ⟨afg, ago, some (aaBb, ccDd)⟩ := by
      rw [← hevent]
      decide +kernel
    cases hstale
    have hregion := hregions (aaBb, ccDd) rfl
    have hread : ¬ aaBb = (getTerritory ⟨abw, aaBb, some (written afg [])⟩).1.region := by
      decide +kernel
    exact hread hregion

end Territory

end DeviceAndDisplay.SystemServices
