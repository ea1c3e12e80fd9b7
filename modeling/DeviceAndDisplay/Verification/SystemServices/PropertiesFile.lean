import DeviceAndDisplay.Model.SystemServices.PropertiesFile
import DeviceAndDisplay.Verification.SystemServices.DeviceProperties
import Mathlib.Data.Nat.Find

/-! # Pieces of a properties file

The file is read in pieces of at most 1023 characters, each of which is taken for a line. -/

namespace DeviceAndDisplay.SystemServices

open Helpers Storage

variable {file : Option Text} {key line text : Text}

/-- The first line that gives the key a value gives it this one. -/
def FirstValue (file : Option Text) (key text : Text) : Prop :=
  IsFirst (Assigns key) (propertyLines file) (key ++ '=' :: text)

/-- The response is the value of the first line that gives the key one, without blanks. -/
def ReadsLines (file : Option Text) (key : Text) : Prop :=
  ∀ response, getValueFromPropertiesFile file key '=' = some response ↔
    ∃ text, FirstValue file key text ∧ response = trimSpaces text

/-- The piece of the line that is read at an offset of `1023 * k`, up to its NUL. -/
def piece (line : Text) (k : ℕ) : Text := cText (pieceAt 1023 line k)

/-- A later piece of the line looks like a line that gives the key a value. -/
def Strays (key line : Text) : Prop := ∃ k ≠ 0, Assigns key (piece line k)

/-- The line, or a later piece of it, gives the key a value. -/
def GivesValue (key line : Text) : Prop := Assigns key line ∨ Strays key line

/-- The value that the first later piece gives. -/
def FirstStray (key line text : Text) : Prop :=
  ∃ k ≠ 0, piece line k = key ++ '=' :: text ∧ ∀ j < k, j ≠ 0 → ¬ Assigns key (piece line j)

/-- The key and the `=` fit the first piece, and what follows this piece is blank. -/
def FitsPiece (key line : Text) : Prop :=
  key.length < 1023 ∧ nul ∉ line ∧ ∀ c ∈ line.drop 1023, isSpace c = true

/-- The first line that gives the key a value, or of which a later piece does, fits the piece; or
it is the piece that gives a value, which is that of the first line that gives the key one. -/
def PiecesAgree (file : Option Text) (key : Text) : Prop :=
  ∀ line, IsFirst (GivesValue key) (propertyLines file) line →
    (Assigns key line → FitsPiece key line) ∧
    (¬ Assigns key line → ∀ text, FirstStray key line text →
      ∃ value, FirstValue file key value ∧ trimSpaces text = trimSpaces value)

/-! ### Values -/

theorem valueOfLine_append (hkey : '=' ∉ key) (text : Text) :
    valueOfLine key '=' (key ++ '=' :: text) = some (trimSpaces text) := by
  have htake : (key ++ '=' :: text).takeWhile (· ≠ '=') = key := by
    rw [List.takeWhile_append_of_pos fun c hc => by
      simpa using fun heq : c = '=' => hkey (heq ▸ hc)]
    simp
  have hdrop : (key ++ '=' :: text).dropWhile (· ≠ '=') = '=' :: text := by
    rw [List.dropWhile_append_of_pos fun c hc => by
      simpa using fun heq : c = '=' => hkey (heq ▸ hc)]
    simp
  rw [valueOfLine, if_pos (by simp), htake, hdrop]
  simp

theorem assigns_of_takeWhile (hmem : '=' ∈ line) (hkey : line.takeWhile (· ≠ '=') = key) :
    Assigns key line := by
  cases hrest : line.dropWhile (· ≠ '=') with
  | nil =>
      have hall := List.dropWhile_eq_nil_iff.mp hrest '=' hmem
      simp at hall
  | cons c rest =>
      have hhead := List.head?_dropWhile_not (· ≠ '=') line
      rw [hrest] at hhead
      have hc : c = '=' := by simpa using hhead
      refine ⟨rest, ?_⟩
      conv_lhs => rw [← List.takeWhile_append_dropWhile (p := (· ≠ '=')) (l := line), hrest, hc,
        hkey]

theorem valueOfLine_of_not_assigns (h : ¬ Assigns key line) : valueOfLine key '=' line = none := by
  unfold valueOfLine
  split
  · rename_i hmem
    exact if_neg fun hkey => h (assigns_of_takeWhile hmem hkey)
  · rfl

theorem assigns_append_newline : Assigns key (line ++ ['\n']) ↔ Assigns key line := by
  constructor
  · intro h
    obtain ⟨text, htext⟩ := h
    induction text using List.reverseRecOn with
    | nil =>
        have hlast := (List.append_inj' htext rfl).2
        simp at hlast
    | append_singleton text c _ =>
        rw [← List.cons_append, ← List.append_assoc] at htext
        exact ⟨text, (List.append_inj' htext rfl).1⟩
  · intro h
    obtain ⟨text, rfl⟩ := h
    exact ⟨text ++ ['\n'], by simp⟩

theorem valueOfLine_append_newline (hkey : '=' ∉ key) (line : Text) :
    valueOfLine key '=' (line ++ ['\n']) = valueOfLine key '=' line := by
  by_cases h : Assigns key line
  · obtain ⟨text, rfl⟩ := h
    have hblank : trimSpaces (text ++ ['\n']) = trimSpaces text :=
      (trimBy_append_eq_iff isSpace text ['\n']).mpr (by simp [isSpace])
    rw [List.append_assoc, List.cons_append, valueOfLine_append hkey, valueOfLine_append hkey,
      hblank]
  · have hnot : ¬ Assigns key (line ++ ['\n']) := mt assigns_append_newline.mp h
    rw [valueOfLine_of_not_assigns h, valueOfLine_of_not_assigns hnot]

/-! ### Pieces -/

theorem cText_append_newline (line : Text) :
    cText (line ++ ['\n']) = cText line ∨ cText (line ++ ['\n']) = line ++ ['\n'] ∧
      cText line = line := by
  by_cases hnul : nul ∈ line
  · left
    obtain ⟨front, back, rfl, hfront⟩ := List.eq_append_cons_of_mem hnul
    rw [List.append_assoc, List.cons_append, cText_append hfront, cText_append hfront]
  · right
    have hne : nul ≠ '\n' := by simp [nul]
    have hnewline : nul ∉ line ++ ['\n'] := by simp [hnul, hne]
    exact ⟨cText_of_nul_notMem hnewline, cText_of_nul_notMem hnul⟩

/-- The value that is found in the pieces of a line. -/
def valueOfPieces (key line : Text) : Option Text :=
  firstPiece (fun buf => valueOfLine key '=' (cText buf)) 1023 line

theorem getValueFromPropertiesFile_eq (hkey : '=' ∉ key) (file : Option Text) :
    getValueFromPropertiesFile file key '=' =
      (propertyLines file).findSome? (valueOfPieces key) := by
  cases file with
  | none => rfl
  | some content =>
      refine findSome?_fgets rfl (fun buf => ?_) (by decide) content
      rcases cText_append_newline buf with h | ⟨h, hbuf⟩
      · rw [h]
      · rw [h, hbuf, valueOfLine_append_newline hkey]

theorem valueOfPieces_eq_some_iff (key line result : Text) :
    valueOfPieces key line = some result ↔
      ∃ k, valueOfLine key '=' (piece line k) = some result ∧
        ∀ j < k, valueOfLine key '=' (piece line j) = none :=
  firstPiece_eq_some_iff rfl (by decide) line result

theorem cText_key_append (hnul : nul ∉ key) (text : Text) :
    cText (key ++ '=' :: text) = key ++ '=' :: cText text := by
  rw [cText, List.takeWhile_append_of_pos fun c hc => by
    simpa using fun heq : c = nul => hnul (heq ▸ hc)]
  congr 1

theorem length_piece_le (line : Text) (k : ℕ) : (piece line k).length ≤ 1023 := by
  have hle : (piece line k).length ≤ (pieceAt 1023 line k).length :=
    (List.takeWhile_prefix _).length_le
  rw [pieceAt, List.length_take] at hle
  omega

theorem Assigns.length_lt {k : ℕ} (h : Assigns key (piece line k)) : key.length < 1023 := by
  obtain ⟨text, htext⟩ := h
  have hle := length_piece_le line k
  rw [htext, List.length_append, List.length_cons] at hle
  omega

/-- What looks like a line in the first piece is one. -/
theorem Assigns.of_piece_zero (h : Assigns key (piece line 0)) : Assigns key line := by
  obtain ⟨text, htext⟩ := h
  have hprefix : piece line 0 <+: line :=
    (List.takeWhile_prefix _).trans (List.take_prefix 1023 line)
  obtain ⟨rest, hrest⟩ := hprefix
  exact ⟨text ++ rest, by rw [← hrest, htext]; simp⟩

theorem piece_zero_append (hnul : nul ∉ key) (hlength : key.length < 1023) (text : Text) :
    piece (key ++ '=' :: text) 0 = key ++ '=' :: cText (text.take (1022 - key.length)) := by
  have hsub : 1023 - key.length = (1022 - key.length) + 1 := by omega
  change cText ((key ++ '=' :: text).take 1023) = _
  rw [List.take_append, List.take_of_length_le (by omega), hsub, List.take_succ_cons,
    cText_key_append hnul]

/-! ### Lines -/

theorem valueOfPieces_of_long (hlength : 1023 ≤ key.length) (line : Text) :
    valueOfPieces key line = none := by
  by_contra h
  obtain ⟨result, hresult⟩ := Option.ne_none_iff_exists'.mp h
  obtain ⟨k, hk, _⟩ := (valueOfPieces_eq_some_iff key line result).mp hresult
  have hnot : ¬ Assigns key (piece line k) := fun hassigns => by
    have hlt := hassigns.length_lt
    omega
  rw [valueOfLine_of_not_assigns hnot] at hk
  cases hk

theorem valueOfPieces_of_not (h : ¬ GivesValue key line) :
    valueOfPieces key line = none := by
  by_contra hne
  obtain ⟨result, hresult⟩ := Option.ne_none_iff_exists'.mp hne
  obtain ⟨k, hk, _⟩ := (valueOfPieces_eq_some_iff key line result).mp hresult
  have hnot : ¬ Assigns key (piece line k) := by
    intro hassigns
    by_cases hzero : k = 0
    · subst hzero
      exact h (.inl hassigns.of_piece_zero)
    · exact h (.inr ⟨k, hzero, hassigns⟩)
  rw [valueOfLine_of_not_assigns hnot] at hk
  cases hk

theorem valueOfPieces_append (hkey : '=' ∉ key) (hnul : nul ∉ key) (hlength : key.length < 1023)
    (text : Text) :
    valueOfPieces key (key ++ '=' :: text) =
      some (trimSpaces (cText (text.take (1022 - key.length)))) := by
  refine (valueOfPieces_eq_some_iff _ _ _).mpr ⟨0, ?_, by simp⟩
  rw [piece_zero_append hnul hlength, valueOfLine_append hkey]

theorem valueOfPieces_of_firstStray (hkey : '=' ∉ key) (hnot : ¬ Assigns key line)
    (h : FirstStray key line text) : valueOfPieces key line = some (trimSpaces text) := by
  obtain ⟨k, hk, hpiece, hbefore⟩ := h
  refine (valueOfPieces_eq_some_iff _ _ _).mpr ⟨k, ?_, fun j hj => ?_⟩
  · rw [hpiece, valueOfLine_append hkey]
  · apply valueOfLine_of_not_assigns
    by_cases hzero : j = 0
    · subst hzero
      exact mt Assigns.of_piece_zero hnot
    · exact hbefore j hj hzero

theorem Strays.exists_firstStray (h : Strays key line) : ∃ text, FirstStray key line text := by
  classical
  have hex : ∃ k, k ≠ 0 ∧ Assigns key (piece line k) := h
  obtain ⟨hzero, text, htext⟩ := Nat.find_spec hex
  refine ⟨text, Nat.find hex, hzero, htext, fun j hj hne hassigns => ?_⟩
  exact Nat.find_min hex hj ⟨hne, hassigns⟩

/-- A NUL is no blank. -/
theorem dropWhile_nul_blank_iff (text : Text) :
    (∀ c ∈ text.dropWhile (· ≠ nul), isSpace c = true) ↔ nul ∉ text := by
  have hspace : isSpace nul = false := rfl
  constructor
  · intro hall hmem
    obtain ⟨front, back, happend, hfront⟩ := List.eq_append_cons_of_mem hmem
    have hdrop : text.dropWhile (· ≠ nul) = nul :: back := by
      rw [happend, List.dropWhile_append_of_pos fun c hc => by
        simpa using fun heq : c = nul => hfront (heq ▸ hc)]
      simp
    rw [hdrop] at hall
    have hnul := hall nul List.mem_cons_self
    rw [hspace] at hnul
    cases hnul
  · intro hnot
    have hnil : text.dropWhile (· ≠ nul) = [] := by
      rw [List.dropWhile_eq_nil_iff]
      intro c hc
      simpa using fun heq : c = nul => hnot (heq ▸ hc)
    rw [hnil]
    intro c hc
    cases hc

/-- The value is the whole text if nothing but blanks is cut off. -/
theorem trimSpaces_cText_take (text : Text) (n : ℕ) :
    trimSpaces (cText (text.take n)) = trimSpaces text ↔
      nul ∉ text ∧ ∀ c ∈ text.drop n, isSpace c = true := by
  have htext : cText (text.take n) ++ ((text.take n).dropWhile (· ≠ nul) ++ text.drop n) =
      text := by
    rw [← List.append_assoc, cText, List.takeWhile_append_dropWhile, List.take_append_drop]
  have hiff := trimBy_append_eq_iff isSpace (cText (text.take n))
    ((text.take n).dropWhile (· ≠ nul) ++ text.drop n)
  rw [htext] at hiff
  rw [eq_comm, trimSpaces, trimSpaces, hiff, List.forall_mem_append, dropWhile_nul_blank_iff]
  apply and_congr_left
  intro hdrop
  have hnot : nul ∉ text.drop n := by
    intro hmem
    cases hdrop nul hmem
  conv_rhs => rw [← List.take_append_drop n text, List.mem_append, not_or]
  exact (and_iff_left hnot).symm

theorem fitsPiece_append (hnul : nul ∉ key) (hlength : key.length < 1023) (text : Text) :
    FitsPiece key (key ++ '=' :: text) ↔
      nul ∉ text ∧ ∀ c ∈ text.drop (1022 - key.length), isSpace c = true := by
  have hsub : 1023 - key.length = (1022 - key.length) + 1 := by omega
  have hdrop : (key ++ '=' :: text).drop 1023 = text.drop (1022 - key.length) := by
    rw [List.drop_append, List.drop_of_length_le (by omega), hsub, List.drop_succ_cons,
      List.nil_append]
  have hne : nul ≠ '=' := by simp [nul]
  have hmem : nul ∉ key ++ '=' :: text ↔ nul ∉ text := by simp [hnul, hne]
  rw [FitsPiece, hdrop, hmem]
  exact and_iff_right hlength

/-! ### Files -/

theorem FirstValue.unique {value other : Text} (h : FirstValue file key value)
    (h' : FirstValue file key other) : value = other := by
  have hline := IsFirst.unique h h'
  exact (List.cons.inj (List.append_cancel_left hline)).2

theorem readsLines_of_firstValue (h : FirstValue file key text) :
    ReadsLines file key ↔
      getValueFromPropertiesFile file key '=' = some (trimSpaces text) := by
  constructor
  · intro hreads
    exact (hreads _).mpr ⟨text, h, rfl⟩
  · intro hvalue response
    rw [hvalue]
    constructor
    · intro hresponse
      exact ⟨text, h, (Option.some_inj.mp hresponse).symm⟩
    · intro hex
      obtain ⟨value, hfirst, rfl⟩ := hex
      rw [h.unique hfirst]

/-- The first line that gives a value, by its pieces, decides. -/
theorem getValueFromPropertiesFile_of_isFirst {value : Text} (hkey : '=' ∉ key)
    (hfirst : IsFirst (GivesValue key) (propertyLines file) line)
    (hvalue : valueOfPieces key line = some value) :
    getValueFromPropertiesFile file key '=' = some value := by
  rw [getValueFromPropertiesFile_eq hkey]
  exact hfirst.findSome?_eq (fun _ hnot => valueOfPieces_of_not hnot) hvalue

theorem piecesAgree_iff_of_isFirst
    (hfirst : IsFirst (GivesValue key) (propertyLines file) line) :
    PiecesAgree file key ↔
      (Assigns key line → FitsPiece key line) ∧
      (¬ Assigns key line → ∀ text, FirstStray key line text →
        ∃ value, FirstValue file key value ∧ trimSpaces text = trimSpaces value) := by
  constructor
  · intro h
    exact h line hfirst
  · intro h other hother
    rw [← hfirst.unique hother]
    exact h

theorem readsLines_iff_of_assigns (hkey : '=' ∉ key) (hnul : nul ∉ key)
    (hfirst : IsFirst (GivesValue key) (propertyLines file) (key ++ '=' :: text)) :
    ReadsLines file key ↔ FitsPiece key (key ++ '=' :: text) := by
  have hvalue : FirstValue file key text := hfirst.of_imp (fun _ h => .inl h) ⟨text, rfl⟩
  rw [readsLines_of_firstValue hvalue]
  by_cases hlength : key.length < 1023
  · have hpieces := valueOfPieces_append hkey hnul hlength text
    rw [getValueFromPropertiesFile_of_isFirst hkey hfirst hpieces, Option.some_inj,
      trimSpaces_cText_take, fitsPiece_append hnul hlength]
  · have hnone : getValueFromPropertiesFile file key '=' = none := by
      rw [getValueFromPropertiesFile_eq hkey, List.findSome?_eq_none_iff]
      exact fun _ _ => valueOfPieces_of_long (by omega) _
    refine iff_of_false (fun h => ?_) fun h => hlength h.1
    rw [hnone] at h
    cases h

theorem readsLines_iff_of_strays (hkey : '=' ∉ key)
    (hfirst : IsFirst (GivesValue key) (propertyLines file) line)
    (hassigns : ¬ Assigns key line) :
    ReadsLines file key ↔ ∀ text, FirstStray key line text →
      ∃ value, FirstValue file key value ∧ trimSpaces text = trimSpaces value := by
  have hcode : ∀ text, FirstStray key line text →
      getValueFromPropertiesFile file key '=' = some (trimSpaces text) := fun text hstray =>
    getValueFromPropertiesFile_of_isFirst hkey hfirst
      (valueOfPieces_of_firstStray hkey hassigns hstray)
  constructor
  · intro hreads text hstray
    exact (hreads _).mp (hcode text hstray)
  · intro h
    have hstrays : Strays key line := hfirst.holds.resolve_left hassigns
    obtain ⟨text, hstray⟩ := hstrays.exists_firstStray
    obtain ⟨value, hvalue, htrim⟩ := h text hstray
    rw [readsLines_of_firstValue hvalue, ← htrim]
    exact hcode text hstray

theorem readsLines_of_not_givesValue (hkey : '=' ∉ key)
    (hnone : ∀ line ∈ propertyLines file, ¬ GivesValue key line) : ReadsLines file key := by
  intro response
  have hcode : getValueFromPropertiesFile file key '=' = none := by
    rw [getValueFromPropertiesFile_eq hkey, List.findSome?_eq_none_iff]
    exact fun line hmem => valueOfPieces_of_not (hnone line hmem)
  rw [hcode]
  refine iff_of_false (fun h => by cases h) fun h => ?_
  obtain ⟨text, hfirst, _⟩ := h
  exact hnone _ hfirst.mem (.inl hfirst.holds)

/-- The pieces give what the lines give exactly if they agree. -/
theorem readsLines_iff (file : Option Text) (key : Text) (hkey : '=' ∉ key) (hnul : nul ∉ key) :
    ReadsLines file key ↔ PiecesAgree file key := by
  by_cases hex : ∃ line ∈ propertyLines file, GivesValue key line
  · obtain ⟨line, hmem, hline⟩ := hex
    obtain ⟨first, hfirst⟩ := exists_isFirst hmem hline
    rw [piecesAgree_iff_of_isFirst hfirst]
    by_cases hassigns : Assigns key first
    · obtain ⟨text, rfl⟩ := hassigns
      have hself : Assigns key (key ++ '=' :: text) := ⟨text, rfl⟩
      simp only [hself, true_imp_iff, not_true_eq_false, false_imp_iff, and_true]
      exact readsLines_iff_of_assigns hkey hnul hfirst
    · simp only [hassigns, false_imp_iff, true_and, not_false_eq_true, true_imp_iff]
      exact readsLines_iff_of_strays hkey hfirst hassigns
  · have hnone : ∀ line ∈ propertyLines file, ¬ GivesValue key line :=
      fun line hmem h => hex ⟨line, hmem, h⟩
    exact iff_of_true (readsLines_of_not_givesValue hkey hnone) fun line hfirst =>
      absurd hfirst.holds (hnone line hfirst.mem)

/-! ### A piece that looks like a line -/

/-- A line that gives the key `A` a value only after `n + 1` characters. -/
def shiftedLine (n : ℕ) : Text := List.replicate (n + 1) 'x' ++ ['A', '=', '1']

theorem propertyLines_shiftedLine (n : ℕ) :
    propertyLines (some (shiftedLine n)) = [shiftedLine n] :=
  readParts_of_not_mem (by simp [shiftedLine]) (by simp [shiftedLine])

theorem not_assigns_shiftedLine (n : ℕ) : ¬ Assigns ['A'] (shiftedLine n) := by
  intro h
  obtain ⟨text, htext⟩ := h
  have hhead := congrArg List.head? htext
  simp [shiftedLine, List.replicate_succ] at hhead

/-- The second piece begins with the key. -/
def shiftedKey : Text := shiftedLine 1022

theorem firstStray_shiftedKey : FirstStray ['A'] shiftedKey ['1'] := by
  have hdrop : shiftedKey.drop (1023 * 1) = ['A', '=', '1'] :=
    List.drop_left' (by rw [List.length_replicate])
  refine ⟨1, Nat.one_ne_zero, ?_, fun j hj hne => absurd (Nat.lt_one_iff.mp hj) hne⟩
  rw [piece, pieceAt, hdrop]
  rfl

/-- The hypotheses hold for the key. -/
theorem readsLines_iff_shiftedKey :
    ReadsLines (some shiftedKey) ['A'] ↔ PiecesAgree (some shiftedKey) ['A'] :=
  readsLines_iff (some shiftedKey) ['A'] (by simp) (by simp [nul])

/-- The key has a value although no line gives it one. -/
theorem not_readsLines_shiftedKey : ¬ ReadsLines (some shiftedKey) ['A'] := by
  intro hreads
  have hpieces : valueOfPieces ['A'] shiftedKey = some (trimSpaces ['1']) :=
    valueOfPieces_of_firstStray (by simp) (not_assigns_shiftedLine 1022) firstStray_shiftedKey
  have hvalue : getValueFromPropertiesFile (some shiftedKey) ['A'] '=' =
      some (trimSpaces ['1']) := by
    rw [getValueFromPropertiesFile_eq (by simp), shiftedKey, propertyLines_shiftedLine,
      List.findSome?_cons, ← shiftedKey, hpieces]
  obtain ⟨text, hfirst, _⟩ := (hreads _).mp hvalue
  have hmem := hfirst.mem
  rw [shiftedKey, propertyLines_shiftedLine, List.mem_singleton] at hmem
  exact not_assigns_shiftedLine 1022 ⟨text, hmem.symm⟩

end DeviceAndDisplay.SystemServices
