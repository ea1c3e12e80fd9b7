import DeviceAndDisplay.Model.DeviceInfo.DeviceInfo

/-! # The lines of properties

What the pattern of a property captures is computed by `capture`, a direct function of the text
after `=`. The blanks behind an unquoted value belong to it, and of nothing but blanks the last one
is a value. -/

namespace DeviceAndDisplay.DeviceInfo

open Helpers Pattern Storage

/-! ### What the pattern captures -/

def IsBlank (text : Text) : Prop := ∀ c ∈ text, isSpace c = true

instance (text : Text) : Decidable (IsBlank text) :=
  inferInstanceAs (Decidable (∀ c ∈ text, isSpace c = true))

/-- A character that a value may have. -/
def isPlain (c : Char) : Bool := c != '"' && c != '\n'

/-- The rest of a line behind a value. -/
def Closes (text : Text) : Prop :=
  IsBlank text ∨ (text.head? = some '"' ∧ IsBlank text.tail)

instance (text : Text) : Decidable (Closes text) := inferInstanceAs (Decidable (_ ∨ _))

/-- The text behind an opening quote. -/
def dropQuote (text : Text) : Text := if text.head? = some '"' then text.tail else text

/-- The value at the start of a text. -/
def valueAt (text : Text) : Option Text :=
  if text.takeWhile isPlain ≠ [] ∧ Closes (text.dropWhile isPlain) then
    some (text.takeWhile isPlain)
  else none

/-- What is captured of a text; the blanks before the value are taken away as far as possible. -/
def capture : Text → Option Text
  | [] => none
  | c :: rest =>
      if isSpace c then (capture rest).or (valueAt (dropQuote (c :: rest)))
      else valueAt (dropQuote (c :: rest))

/-- The text after the key, blanks and `=`. -/
def textAfter (key line : Text) : Option Text :=
  if key <+: line then
    match (line.drop key.length).dropWhile isSpace with
    | '=' :: text => some text
    | _ => none
  else none

theorem IsBlank.tail {c : Char} {text : Text} (h : IsBlank (c :: text)) : IsBlank text :=
  fun d hd => h d (List.mem_cons_of_mem c hd)

theorem not_isBlank_quote (text : Text) : ¬ IsBlank ('"' :: text) := by
  intro h
  exact absurd (h '"' List.mem_cons_self) (by decide)

theorem IsBlank.dropWhile {text : Text} (h : IsBlank text) (accepts : Char → Bool) :
    IsBlank (text.dropWhile accepts) :=
  fun c hc => h c ((List.dropWhile_suffix accepts).subset hc)

section Stages

variable {before : Text} {groups : List (ℕ × Text)}

/-- The end of the search. -/
def finish (next : Cursor Char) : Option Text :=
  if next.rest = [] then some (submatch next) else none

def blanksPattern : Regex Char := .seq (.star isSpace) (.seq .last .empty)

def closingPattern : Regex Char := .seq (.perhaps (· == '"')) blanksPattern

theorem findFrom_blanksPattern (rest : Text) :
    blanksPattern.findFrom finish ⟨before, rest, groups⟩ =
      if IsBlank rest then some (submatch ⟨before, rest, groups⟩) else none := by
  rw [blanksPattern, findFrom_seq]
  induction rest generalizing before with
  | nil =>
      rw [findFrom_star_nil, findFrom_seq, findFrom_last, if_pos rfl, findFrom_empty]
      exact (if_pos fun c hc => absurd hc List.not_mem_nil).symm
  | cons c rest ih =>
      have hlast : (Regex.seq Regex.last Regex.empty).findFrom finish
          ⟨before, c :: rest, groups⟩ = none := by
        rw [findFrom_seq, findFrom_last, if_neg (List.cons_ne_nil c rest)]
      rw [findFrom_star_cons, hlast, ih, Option.or_none]
      by_cases hc : isSpace c = true
      · simp only [hc, if_true, IsBlank, List.forall_mem_cons, true_and]
        rfl
      · simp [hc, IsBlank]

theorem findFrom_closingPattern (rest : Text) :
    closingPattern.findFrom finish ⟨before, rest, groups⟩ =
      if Closes rest then some (submatch ⟨before, rest, groups⟩) else none := by
  rw [closingPattern, findFrom_seq]
  cases rest with
  | nil =>
      rw [findFrom_perhaps_nil, findFrom_blanksPattern]
      simp [Closes, IsBlank]
  | cons c rest =>
      rw [findFrom_perhaps_cons, findFrom_blanksPattern, findFrom_blanksPattern]
      by_cases hc : c = '"'
      · subst hc
        simp [Closes, not_isBlank_quote, submatch]
      · simp [Closes, hc]

/-- Behind the longest run of plain characters or not at all. -/
theorem findFrom_star_isPlain (whole rest : Text) :
    (Regex.star isPlain).findFrom (fun behind =>
        if Closes behind.rest then some (whole.take (whole.length - behind.rest.length)) else none)
        ⟨before, rest, groups⟩ =
      if Closes (rest.dropWhile isPlain) then
        some (whole.take (whole.length - (rest.dropWhile isPlain).length)) else none := by
  induction rest generalizing before with
  | nil => rw [findFrom_star_nil, List.dropWhile_nil]
  | cons c rest ih =>
      rw [findFrom_star_cons]
      by_cases hc : isPlain c = true
      · rw [if_pos hc, ih, List.dropWhile_cons_of_pos hc]
        by_cases hrest : Closes (rest.dropWhile isPlain)
        · rw [if_pos hrest, Option.some_or]
        · have hshorter : ¬ Closes (c :: rest) := by
            rintro (hblank | ⟨hquote, _⟩)
            · exact hrest (Or.inl (hblank.tail.dropWhile isPlain))
            · rw [List.head?_cons, Option.some.injEq] at hquote
              subst hquote
              exact absurd hc (by decide)
          rw [if_neg hrest, if_neg hshorter, Option.none_or]
      · rw [if_neg hc, List.dropWhile_cons_of_neg hc]

def valuePattern : Regex Char := .seq (.group 1 (.plus isPlain)) closingPattern

theorem take_length_sub_dropWhile (accepts : Char → Bool) (text : Text) :
    text.take (text.length - (text.dropWhile accepts).length) = text.takeWhile accepts := by
  have hlength := congrArg List.length (List.takeWhile_append_dropWhile (p := accepts) (l := text))
  rw [List.length_append] at hlength
  have hsub : text.length - (text.dropWhile accepts).length =
      (text.takeWhile accepts).length := by omega
  rw [hsub]
  exact (List.prefix_iff_eq_take.mp (List.takeWhile_prefix accepts)).symm

theorem findFrom_valuePattern (rest : Text) :
    valuePattern.findFrom finish ⟨before, rest, groups⟩ = valueAt rest := by
  rw [valuePattern, findFrom_seq, findFrom_group]
  simp only [findFrom_closingPattern, submatch, List.lookup_cons, beq_self_eq_true,
    Option.getD_some]
  cases rest with
  | nil => rw [findFrom_plus_nil]; rfl
  | cons c rest =>
      rw [findFrom_plus_cons]
      by_cases hc : isPlain c = true
      · have hvalue := take_length_sub_dropWhile isPlain (c :: rest)
        rw [List.dropWhile_cons_of_pos hc] at hvalue
        rw [if_pos hc, findFrom_star_isPlain, valueAt, List.dropWhile_cons_of_pos hc, hvalue]
        simp [List.takeWhile_cons_of_pos hc]
      · rw [if_neg hc, valueAt, List.takeWhile_cons_of_neg hc]
        simp

def quotedPattern : Regex Char := .seq (.perhaps (· == '"')) valuePattern

theorem findFrom_quotedPattern (rest : Text) :
    quotedPattern.findFrom finish ⟨before, rest, groups⟩ = valueAt (dropQuote rest) := by
  rw [quotedPattern, findFrom_seq]
  cases rest with
  | nil => rw [findFrom_perhaps_nil, findFrom_valuePattern]; rfl
  | cons c rest =>
      rw [findFrom_perhaps_cons, findFrom_valuePattern, findFrom_valuePattern]
      by_cases hc : c = '"'
      · subst hc
        have hquote : valueAt ('"' :: rest) = none := if_neg (by simp [isPlain])
        simp [hquote, dropQuote]
      · simp [dropQuote, hc]

def textPattern : Regex Char := .seq (.star isSpace) quotedPattern

theorem findFrom_textPattern (rest : Text) :
    textPattern.findFrom finish ⟨before, rest, groups⟩ = capture rest := by
  rw [textPattern, findFrom_seq]
  induction rest generalizing before with
  | nil => rw [findFrom_star_nil, findFrom_quotedPattern]; rfl
  | cons c rest ih => rw [findFrom_star_cons, ih, findFrom_quotedPattern, capture]

def assignmentPattern : Regex Char :=
  .seq (.star isSpace) (.seq (.one (· == '=')) textPattern)

theorem findFrom_assignmentPattern (rest : Text) :
    assignmentPattern.findFrom finish ⟨before, rest, groups⟩ =
      match rest.dropWhile isSpace with
      | '=' :: text => capture text
      | _ => none := by
  rw [assignmentPattern, findFrom_seq]
  induction rest generalizing before with
  | nil => rw [findFrom_star_nil, findFrom_seq, findFrom_one_nil]; rfl
  | cons c rest ih =>
      rw [findFrom_star_cons, ih, findFrom_seq, findFrom_one_cons, findFrom_textPattern]
      by_cases hc : isSpace c = true
      · have hequals : (c == '=') = false := by
          rw [beq_eq_false_iff_ne]
          rintro rfl
          exact absurd hc (by decide)
        rw [if_pos hc, List.dropWhile_cons_of_pos hc]
        simp [hequals]
      · rw [if_neg hc, List.dropWhile_cons_of_neg hc]
        by_cases hequals : c = '='
        · subst hequals
          rfl
        · simp [hequals]

end Stages

theorem propertyPattern_eq (key : Text) :
    propertyPattern key =
      .seq .first (.seq (.literal key) assignmentPattern) := rfl

theorem fullMatch_propertyPattern (key line : Text) :
    ((propertyPattern key).fullMatch line).map submatch = (textAfter key line).bind capture := by
  have hfinish : (fun behind : Cursor Char =>
      (if behind.rest = [] then some behind else none).map submatch) = finish := by
    funext behind
    by_cases h : behind.rest = [] <;> simp [finish, h]
  rw [fullMatch_eq, map_findFrom, hfinish, propertyPattern_eq, findFrom_seq, findFrom_first,
    if_pos rfl, findFrom_seq, textAfter]
  by_cases hkey : key <+: line
  · obtain ⟨rest, rfl⟩ := hkey
    rw [findFrom_literal_append, findFrom_assignmentPattern, if_pos (List.prefix_append key rest),
      List.drop_left]
    split <;> rfl
  · rw [findFrom_literal_of_not_isPrefix hkey, if_neg hkey]
    rfl

/-! ### Lines -/

/-- The value in a line. -/
def lineValue (key line : Text) : Option Text := (textAfter key line).bind capture

theorem findSome?_fullMatch (key : Text) (lines : List Text) :
    (lines.findSome? (propertyPattern key).fullMatch).map submatch =
      lines.findSome? (lineValue key) := by
  rw [List.map_findSome?]
  congr 1
  funext line
  exact fullMatch_propertyPattern key line

/-- The first line with a value counts. -/
theorem getFileRegex_eq (file : Option Text) (key response : Text) :
    getFileRegex file (propertyPattern key) response =
      match (fileLines file).findSome? (lineValue key) with
      | some value => (.errorNone, value)
      | none => (.errorGeneral, response) := by
  rw [getFileRegex, ← findSome?_fullMatch]
  cases (fileLines file).findSome? (propertyPattern key).fullMatch <;> rfl

/-- A line that starts with the key, blanks and `=`. -/
def KeyLine (key line text : Text) : Prop :=
  ∃ blanks, IsBlank blanks ∧ line = key ++ blanks ++ '=' :: text

theorem dropWhile_isBlank_append {blanks : Text} (h : IsBlank blanks) (rest : Text) :
    (blanks ++ rest).dropWhile isSpace = rest.dropWhile isSpace :=
  List.dropWhile_append_of_pos h

theorem textAfter_eq_some_iff (key line text : Text) :
    textAfter key line = some text ↔ KeyLine key line text := by
  constructor
  · intro h
    unfold textAfter at h
    split at h
    · rename_i hkey
      obtain ⟨rest, rfl⟩ := hkey
      rw [List.drop_left] at h
      split at h
      · rename_i found hfound
        rw [Option.some.injEq] at h
        subst h
        refine ⟨rest.takeWhile isSpace, fun c hc => List.mem_takeWhile_imp hc, ?_⟩
        rw [← hfound, List.append_assoc, List.takeWhile_append_dropWhile]
      · cases h
    · cases h
  · rintro ⟨blanks, hblanks, rfl⟩
    have hkey : key <+: key ++ blanks ++ '=' :: text :=
      ⟨blanks ++ '=' :: text, (List.append_assoc ..).symm⟩
    have hequals : ('=' :: text).dropWhile isSpace = '=' :: text :=
      List.dropWhile_cons_of_neg (by decide)
    rw [textAfter, if_pos hkey, List.append_assoc, List.drop_left,
      dropWhile_isBlank_append hblanks, hequals]
    rfl

theorem lineValue_of_keyLine {key line text : Text} (h : KeyLine key line text) :
    lineValue key line = capture text := by
  rw [lineValue, (textAfter_eq_some_iff key line text).mpr h]
  rfl

theorem lineValue_of_not_keyLine {key line : Text} (h : ∀ text, ¬ KeyLine key line text) :
    lineValue key line = none := by
  cases htext : textAfter key line with
  | none => rw [lineValue, htext]; rfl
  | some text => exact absurd ((textAfter_eq_some_iff key line text).mp htext) (h text)

/-! ### Forms of the text after `=` -/

/-- A value without quotes that neither starts nor ends with a blank. -/
structure Padless (value : Text) : Prop where
  nonempty : value ≠ []
  unquoted : '"' ∉ value
  start : ∀ c, value.head? = some c → isSpace c = false
  stop : ∀ c, value.getLast? = some c → isSpace c = false

def Quoted (text value : Text) : Prop :=
  ∃ lead trail, IsBlank lead ∧ IsBlank trail ∧ text = lead ++ '"' :: value ++ '"' :: trail

def Unquoted (text value trail : Text) : Prop :=
  IsBlank trail ∧ ∃ lead, IsBlank lead ∧ text = lead ++ value ++ trail

/-- A value, which may have blanks around it, with or without either of the quotes. -/
def HasValue (text : Text) : Prop :=
  ∃ lead value rest, IsBlank lead ∧ value ≠ [] ∧ (∀ c ∈ value, isPlain c = true) ∧
    Closes rest ∧ (text = lead ++ value ++ rest ∨ text = lead ++ '"' :: value ++ rest)

theorem capture_of_valueAt {text value : Text} (h : valueAt (dropQuote text) = some value)
    (hstart : ∀ c, text.head? = some c → isSpace c = false) {lead : Text} (hlead : IsBlank lead) :
    capture (lead ++ text) = some value := by
  induction lead with
  | nil =>
      cases text with
      | nil => exact absurd h (by simp [valueAt, dropQuote])
      | cons c rest => rw [List.nil_append, capture, hstart c rfl, if_neg (by decide), h]
  | cons c lead ih =>
      rw [List.cons_append, capture, hlead c List.mem_cons_self, if_pos rfl, ih hlead.tail,
        Option.some_or]

theorem valueAt_append {value : Text} (rest : Text) (hne : value ≠ [])
    (hplain : ∀ c ∈ value, isPlain c = true) (hclosed : Closes (rest.dropWhile isPlain)) :
    valueAt (value ++ rest) = some (value ++ rest.takeWhile isPlain) := by
  have htake : (value ++ rest).takeWhile isPlain = value ++ rest.takeWhile isPlain :=
    List.takeWhile_append_of_pos hplain
  have hdrop : (value ++ rest).dropWhile isPlain = rest.dropWhile isPlain :=
    List.dropWhile_append_of_pos hplain
  rw [valueAt, htake, hdrop, if_pos ⟨by simp [hne], hclosed⟩]

theorem isPlain_of_mem {line : Text} (hnewline : '\n' ∉ line) {c : Char} (hc : c ∈ line)
    (hquote : c ≠ '"') : isPlain c = true := by
  have hne : c ≠ '\n' := by
    rintro rfl
    exact hnewline hc
  simp [isPlain, hquote, hne]

theorem capture_of_quoted {text value : Text} (hvalue : Padless value)
    (hnewline : '\n' ∉ text) (h : Quoted text value) : capture text = some value := by
  obtain ⟨lead, trail, hlead, htrail, rfl⟩ := h
  have hplain : ∀ c ∈ value, isPlain c = true := by
    intro c hc
    refine isPlain_of_mem hnewline (by simp [hc]) ?_
    rintro rfl
    exact hvalue.unquoted hc
  have hquote : ('"' :: trail).dropWhile isPlain = '"' :: trail :=
    List.dropWhile_cons_of_neg (by decide)
  have hfound := valueAt_append ('"' :: trail) hvalue.nonempty hplain
    (hquote.symm ▸ Or.inr ⟨rfl, htrail⟩)
  rw [List.takeWhile_cons_of_neg (by decide), List.append_nil] at hfound
  rw [List.append_assoc]
  have hfound : valueAt (dropQuote ('"' :: value ++ '"' :: trail)) = some value := by
    rw [dropQuote, List.cons_append, List.head?_cons, if_pos rfl]
    exact hfound
  refine capture_of_valueAt hfound ?_ hlead
  intro c hc
  rw [List.cons_append, List.head?_cons, Option.some.injEq] at hc
  subst hc
  decide

/-- The blanks behind an unquoted value are captured too. -/
theorem capture_of_unquoted {text value trail : Text} (hvalue : Padless value)
    (hnewline : '\n' ∉ text) (h : Unquoted text value trail) :
    capture text = some (value ++ trail) := by
  obtain ⟨htrail, lead, hlead, rfl⟩ := h
  have hplain : ∀ c ∈ value ++ trail, isPlain c = true := by
    intro c hc
    refine isPlain_of_mem hnewline (by simpa [or_assoc] using Or.inr (List.mem_append.mp hc)) ?_
    rintro rfl
    rcases List.mem_append.mp hc with hvalue' | htrail'
    · exact hvalue.unquoted hvalue'
    · exact absurd (htrail '"' htrail') (by decide)
  have hne : value ++ trail ≠ [] := by simp [hvalue.nonempty]
  have hfound := valueAt_append [] hne hplain (Or.inl (by simp [IsBlank]))
  rw [List.append_nil, List.takeWhile_nil, List.append_nil] at hfound
  have hhead : (value ++ trail).head? = value.head? :=
    List.head?_append_of_ne_nil value hvalue.nonempty
  rw [List.append_assoc]
  refine capture_of_valueAt ?_ (hhead ▸ hvalue.start) hlead
  rw [dropQuote, hhead, if_neg, hfound]
  intro hquote
  exact hvalue.unquoted (List.mem_of_mem_head? hquote)

theorem capture_isSome_of_valueAt {text : Text} (h : (valueAt (dropQuote text)).isSome) :
    (capture text).isSome := by
  cases text with
  | nil => exact absurd h (by decide)
  | cons c rest =>
      rw [capture]
      split
      · rw [Option.isSome_or, h, Bool.or_true]
      · exact h

theorem HasValue.cons {c : Char} {text : Text} (hc : isSpace c = true) (h : HasValue text) :
    HasValue (c :: text) := by
  obtain ⟨lead, value, rest, hlead, hvalue⟩ := h
  refine ⟨c :: lead, value, rest, List.forall_mem_cons.mpr ⟨hc, hlead⟩, ?_⟩
  simpa using hvalue

theorem hasValue_of_valueAt {text : Text} (h : (valueAt (dropQuote text)).isSome) :
    HasValue text := by
  have hfound : (dropQuote text).takeWhile isPlain ≠ [] ∧
      Closes ((dropQuote text).dropWhile isPlain) := by
    by_contra hnone
    rw [valueAt, if_neg hnone] at h
    cases h
  refine ⟨[], (dropQuote text).takeWhile isPlain, (dropQuote text).dropWhile isPlain,
    by simp [IsBlank], hfound.1, fun c hc => List.mem_takeWhile_imp hc, hfound.2, ?_⟩
  have hsplit := List.takeWhile_append_dropWhile (p := isPlain) (l := dropQuote text)
  by_cases hquote : text.head? = some '"'
  · right
    rw [List.nil_append, List.cons_append, hsplit, dropQuote, if_pos hquote]
    exact (List.cons_head?_tail hquote).symm
  · left
    rw [List.nil_append, hsplit, dropQuote, if_neg hquote]

theorem capture_isSome_iff (text : Text) : (capture text).isSome ↔ HasValue text := by
  constructor
  · intro h
    induction text with
    | nil => exact absurd h (by decide)
    | cons c rest ih =>
        rw [capture] at h
        split at h
        · rename_i hc
          rw [Option.isSome_or, Bool.or_eq_true] at h
          rcases h with hrest | hhere
          · exact (ih hrest).cons hc
          · exact hasValue_of_valueAt hhere
        · exact hasValue_of_valueAt h
  · rintro ⟨lead, value, rest, hlead, hne, hplain, hclosed, htext⟩
    have hdrop : Closes (rest.dropWhile isPlain) := by
      rcases hclosed with hblank | ⟨hquote, htail⟩
      · exact Or.inl (hblank.dropWhile isPlain)
      · cases rest with
        | nil => cases hquote
        | cons c rest =>
            rw [List.head?_cons, Option.some.injEq] at hquote
            subst hquote
            rw [List.dropWhile_cons_of_neg (by decide)]
            exact Or.inr ⟨rfl, htail⟩
    have hfound := valueAt_append rest hne hplain hdrop
    induction lead generalizing text with
    | nil =>
        apply capture_isSome_of_valueAt
        rcases htext with rfl | rfl
        · have hhead : ([] ++ value ++ rest).head? ≠ some '"' := by
            intro hquote
            rw [List.nil_append, List.head?_append_of_ne_nil value hne] at hquote
            exact absurd (hplain '"' (List.mem_of_mem_head? hquote)) (by decide)
          rw [dropQuote, if_neg hhead, List.nil_append, hfound]
          rfl
        · rw [List.nil_append, List.cons_append, dropQuote, List.head?_cons, if_pos rfl,
            List.tail_cons, hfound]
          rfl
    | cons c lead ih =>
        have hc : isSpace c = true := hlead c List.mem_cons_self
        rcases htext with rfl | rfl
        · have hrest := ih (lead ++ value ++ rest) hlead.tail (Or.inl rfl)
          rw [List.cons_append, List.cons_append, capture, if_pos hc, Option.isSome_or, hrest,
            Bool.true_or]
        · have hrest := ih (lead ++ '"' :: value ++ rest) hlead.tail (Or.inr rfl)
          rw [List.cons_append, List.cons_append, capture, if_pos hc, Option.isSome_or, hrest,
            Bool.true_or]

theorem capture_isSome_of_isBlank {text : Text} (hnewline : '\n' ∉ text) (h : IsBlank text)
    (hne : text ≠ []) : (capture text).isSome := by
  rw [capture_isSome_iff]
  refine ⟨[], text, [], by simp [IsBlank], hne, ?_, Or.inl (by simp [IsBlank]), Or.inl (by simp)⟩
  intro c hc
  refine isPlain_of_mem hnewline hc ?_
  rintro rfl
  exact absurd (h '"' hc) (by decide)

/-! ### Values without their padding -/

/-- The first of the lines with this property. -/
def IsFirst (holds : Text → Prop) (lines : List Text) (line : Text) : Prop :=
  ∃ before after, lines = before ++ line :: after ∧ holds line ∧
    ∀ earlier ∈ before, ¬ holds earlier

/-- The value is taken from this line. -/
def TakenFrom (file : Option Text) (key line : Text) : Prop :=
  IsFirst (fun line => ((propertyPattern key).fullMatch line).isSome = true) (fileLines file) line

structure PaddingDropped (file : Option Text) (key : Text) : Prop where
  value : ∀ line text value,
    IsFirst (fun line => ∃ text, KeyLine key line text) (fileLines file) line →
      KeyLine key line text → Padless value →
        (Quoted text value ∨ ∃ trail, Unquoted text value trail) →
          ∀ response, getFileRegex file (propertyPattern key) response = (.errorNone, value)
  blank : ∀ line text, KeyLine key line text → IsBlank text → ¬ TakenFrom file key line

/-- No padding behind the value of the first line with the key, unless it has quotes, and before a
line with nothing but blanks there is one with a value. -/
structure Unpadded (file : Option Text) (key : Text) : Prop where
  value : ∀ line text value trail,
    IsFirst (fun line => ∃ text, KeyLine key line text) (fileLines file) line →
      KeyLine key line text → Padless value → Unquoted text value trail → trail = []
  blank : ∀ before line after text, fileLines file = before ++ line :: after →
    KeyLine key line text → IsBlank text → text ≠ [] →
      ∃ earlier ∈ before, ∃ text, KeyLine key earlier text ∧ HasValue text

theorem fullMatch_isSome_iff (key line : Text) :
    ((propertyPattern key).fullMatch line).isSome = true ↔
      ∃ text, KeyLine key line text ∧ HasValue text := by
  have hsome : ((propertyPattern key).fullMatch line).isSome = (lineValue key line).isSome := by
    rw [lineValue, ← fullMatch_propertyPattern, Option.isSome_map]
  rw [hsome]
  constructor
  · intro h
    cases htext : textAfter key line with
    | none =>
        rw [lineValue, htext] at h
        cases h
    | some text =>
        have hkey := (textAfter_eq_some_iff key line text).mp htext
        rw [lineValue_of_keyLine hkey] at h
        exact ⟨text, hkey, (capture_isSome_iff text).mp h⟩
  · rintro ⟨text, hkey, hvalue⟩
    rw [lineValue_of_keyLine hkey]
    exact (capture_isSome_iff text).mpr hvalue

/-- What the first line with the key holds is read, if the pattern fits it. -/
theorem getFileRegex_of_isFirst {file : Option Text} {key line text found : Text}
    (hfirst : IsFirst (fun line => ∃ text, KeyLine key line text) (fileLines file) line)
    (hkey : KeyLine key line text) (hfound : capture text = some found) (response : Text) :
    getFileRegex file (propertyPattern key) response = (.errorNone, found) := by
  obtain ⟨before, after, hlines, _, hbefore⟩ := hfirst
  have hvalue : (fileLines file).findSome? (lineValue key) = some found := by
    rw [hlines, List.findSome?_append, List.findSome?_eq_none_iff.mpr, Option.none_or,
      List.findSome?_cons, lineValue_of_keyLine hkey, hfound]
    intro earlier hearlier
    exact lineValue_of_not_keyLine fun other hother => hbefore earlier hearlier ⟨other, hother⟩
  rw [getFileRegex_eq, hvalue]

theorem newline_not_mem_text {file : Option Text} {key line text : Text}
    (hline : line ∈ fileLines file) (hkey : KeyLine key line text) : '\n' ∉ text := by
  obtain ⟨blanks, _, rfl⟩ := hkey
  intro hmem
  cases file with
  | none => cases hline
  | some content =>
      exact not_mem_of_mem_readParts hline (by simp [hmem])

theorem IsFirst.mem {holds : Text → Prop} {lines : List Text} {line : Text}
    (h : IsFirst holds lines line) : line ∈ lines := by
  obtain ⟨before, after, rfl, _⟩ := h
  simp

theorem KeyLine.unique {key line text other : Text} (h : KeyLine key line text)
    (hother : KeyLine key line other) : text = other := by
  have hsome := (textAfter_eq_some_iff key line text).mpr h
  rw [(textAfter_eq_some_iff key line other).mpr hother] at hsome
  exact (Option.some.inj hsome).symm

theorem not_hasValue_nil : ¬ HasValue [] := by
  rw [← capture_isSome_iff]
  decide

/-- What stands behind an unquoted value is read with it. -/
theorem PaddingDropped.trail_eq_nil {file : Option Text} {key line text value trail : Text}
    (h : PaddingDropped file key)
    (hfirst : IsFirst (fun line => ∃ text, KeyLine key line text) (fileLines file) line)
    (hkey : KeyLine key line text) (hpadless : Padless value)
    (hunquoted : Unquoted text value trail) : trail = [] := by
  have hnewline := newline_not_mem_text hfirst.mem hkey
  have hread := getFileRegex_of_isFirst hfirst hkey
    (capture_of_unquoted hpadless hnewline hunquoted) []
  rw [h.value line text value hfirst hkey hpadless (Or.inr ⟨trail, hunquoted⟩) []] at hread
  exact List.self_eq_append_right.mp (Prod.mk.inj hread).2

theorem paddingDropped_iff (file : Option Text) (key : Text) :
    PaddingDropped file key ↔ Unpadded file key := by
  constructor
  · intro h
    constructor
    · intro line text value trail hfirst hkey hpadless hunquoted
      exact h.trail_eq_nil hfirst hkey hpadless hunquoted
    · intro before line after text hlines hkey hblank hne
      have hline : line ∈ fileLines file := by simp [hlines]
      have hvalue : HasValue text := (capture_isSome_iff text).mp
        (capture_isSome_of_isBlank (newline_not_mem_text hline hkey) hblank hne)
      by_contra hnone
      refine h.blank line text hkey hblank ⟨before, after, hlines, ?_, ?_⟩
      · exact (fullMatch_isSome_iff key line).mpr ⟨text, hkey, hvalue⟩
      · intro earlier hearlier hmatch
        exact hnone ⟨earlier, hearlier, (fullMatch_isSome_iff key earlier).mp hmatch⟩
  · intro h
    constructor
    · intro line text value hfirst hkey hpadless hform response
      have hnewline := newline_not_mem_text hfirst.mem hkey
      apply getFileRegex_of_isFirst hfirst hkey
      rcases hform with hquoted | ⟨trail, hunquoted⟩
      · exact capture_of_quoted hpadless hnewline hquoted
      · have htrail := h.value line text value trail hfirst hkey hpadless hunquoted
        rw [capture_of_unquoted hpadless hnewline hunquoted, htrail, List.append_nil]
    · intro line text hkey hblank htaken
      obtain ⟨before, after, hlines, hmatch, hbefore⟩ := htaken
      obtain ⟨other, hother, hvalue⟩ := (fullMatch_isSome_iff key line).mp hmatch
      have hne : text ≠ [] := by
        rintro rfl
        rw [← hkey.unique hother] at hvalue
        exact not_hasValue_nil hvalue
      obtain ⟨earlier, hearlier, hhas⟩ := h.blank before line after text hlines hkey hblank hne
      exact hbefore earlier hearlier ((fullMatch_isSome_iff key earlier).mpr hhas)

/-! ### A blank at the end of a line -/

def socKey : Text := ['S', 'O', 'C']

/-- `SOC=x` with a blank behind it. -/
def paddedLine : Text := ['S', 'O', 'C', '=', 'x', ' ']

theorem not_paddingDropped : ¬ PaddingDropped (some paddedLine) socKey := by
  intro h
  have hkey : KeyLine socKey paddedLine ['x', ' '] := ⟨[], by simp [IsBlank], rfl⟩
  have hpadless : Padless ['x'] := ⟨by simp, by simp, by simp [isSpace], by simp [isSpace]⟩
  have hunquoted : Unquoted ['x', ' '] ['x'] [' '] :=
    ⟨by simp [IsBlank, isSpace], [], by simp [IsBlank], rfl⟩
  have htrail := h.trail_eq_nil ⟨[], [], rfl, ⟨_, hkey⟩, by simp⟩ hkey hpadless hunquoted
  cases htrail

end DeviceAndDisplay.DeviceInfo
