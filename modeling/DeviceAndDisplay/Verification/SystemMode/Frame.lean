import DeviceAndDisplay.Verification.SystemMode.StateLine

/-! # Other keys

An update looks at every line that starts with its key, and so do the reads of other keys. A file
that does not exist is created with the default state, which the same call then overwrites. -/

namespace DeviceAndDisplay.SystemMode

open Storage

/-! ### Updates and other keys -/

/-- A pair of a mode and a property that both exist. -/
structure Key where
  systemMode : Text
  property : Text
  systemMode_ne : systemMode ≠ []
  property_ne : property ≠ []

def Key.text (k : Key) : Text := searchKey k.systemMode k.property

def Key.read (k : Key) (file : Option Text) : Option Text :=
  getSystemModePropertyValue k.systemMode k.property file

/-- A valid call of `updateSystemModeFile`. -/
structure Update where
  key : Key
  value : Text
  action : FileAction

def Update.apply (io : FileIo) (u : Update) (file : Option Text) : Option Text :=
  updateSystemModeFile io u.key.systemMode u.key.property u.value (some u.action) file

/-- What a file that does not exist counts as. -/
def defaultFile : Text := terminate '\n' [stateLine video]

/-- The update leaves the value of the other key as it was. -/
def Frames (io : FileIo) (u : Update) (other : Key) (file : Option Text) : Prop :=
  other.read (u.apply io file) = other.read (some (file.getD defaultFile))

instance (io : FileIo) (u : Update) (other : Key) (file : Option Text) :
    Decidable (Frames io u other file) := inferInstanceAs (Decidable (_ = _))

/-! ### What lines give to a key -/

/-- What the text of a line gives to a key after it has been written; it may be several lines. -/
def writtenValue (key line : Text) : Option Text :=
  (readParts '\n' (line ++ ['\n'])).findSome? (readLine key)

/-- The line starts with the key of the update. -/
def Update.Owns (u : Update) (line : Text) : Prop := u.key.text <+: line

instance (u : Update) (line : Text) : Decidable (u.Owns line) :=
  inferInstanceAs (Decidable (_ <+: _))

/-- What a line gives to a key once the update has rewritten it. -/
def Update.rewrittenValue (u : Update) (key line : Text) : Option Text :=
  (updateLine u.key.systemMode u.key.property u.value u.action line).bind (writtenValue key)

/-- What the line that the update adds gives to a key. -/
def Update.addedValue (u : Update) (key : Text) : Option Text :=
  (newLines u.key.systemMode u.key.property u.value u.action).findSome? (writtenValue key)

/-- The first value that the lines of the update give, if no other line gives the key one
before. -/
def Update.ownValue (u : Update) (key : Text) (give : Text → Option Text) (lines : List Text) :
    Option Text :=
  ((lines.takeWhile fun line => u.Owns line ∨ readLine key line = none).filter
    fun line => u.Owns line).findSome? give

/-- The first value that the other lines give. -/
def Update.otherValue (u : Update) (key : Text) (lines : List Text) : Option Text :=
  (lines.filter fun line => ¬ u.Owns line).findSome? (readLine key)

/-- The lines of the update give the other key what they gave it before, or it has that value from
another line. -/
def GivesSame (u : Update) (other : Key) (lines : List Text) : Prop :=
  (u.ownValue other.text (u.rewrittenValue other.text) lines).or
    ((u.otherValue other.text lines).or
      (if ∃ line ∈ lines, u.Owns line then none else u.addedValue other.text)) =
  (u.ownValue other.text (readLine other.text) lines).or (u.otherValue other.text lines)

/-! ### Reading what was written -/

theorem findSome_readParts_terminate {β : Type*} (f : Text → Option β) (lines : List Text) :
    (readParts '\n' (terminate '\n' lines)).findSome? f =
      lines.findSome? fun line => (readParts '\n' (line ++ ['\n'])).findSome? f := by
  induction lines with
  | nil => rfl
  | cons line lines ih =>
      rw [terminate_cons, readParts_append_separator, List.findSome?_append, ih,
        List.findSome?_cons]
      cases (readParts '\n' (line ++ ['\n'])).findSome? f <;> rfl

theorem writtenValue_of_line {key line : Text} (h : '\n' ∉ line) :
    writtenValue key line = readLine key line := by
  rw [writtenValue, readParts_append_cons h, readParts, List.findSome?_singleton]

/-- A search in which the lines of the update and the other lines give values of their own. -/
theorem findSome_split (u : Update) (key : Text) (give : Text → Option Text) (lines : List Text) :
    (lines.findSome? fun line => if u.Owns line then give line else readLine key line) =
      (u.ownValue key give lines).or (u.otherValue key lines) := by
  induction lines with
  | nil => rfl
  | cons line lines ih =>
      rw [List.findSome?_cons, ih, Update.ownValue, Update.ownValue, Update.otherValue,
        Update.otherValue]
      by_cases hown : u.Owns line
      · simp only [hown, if_true, true_or, decide_true, List.takeWhile_cons_of_pos,
          List.filter_cons_of_pos, List.findSome?_cons, not_true_eq_false, decide_false,
          Bool.false_eq_true, not_false_eq_true, List.filter_cons_of_neg]
        cases give line <;> simp
      · cases hread : readLine key line with
        | none => simp [hown, hread]
        | some v => simp [hown, hread]

/-! ### The frame of an update -/

theorem Key.read_eq (k : Key) (file : Option Text) :
    k.read file = (fileLines file).findSome? (readLine k.text) :=
  getSystemModePropertyValue_eq k.systemMode_ne k.property_ne file

theorem fileLines_defaultFile : fileLines (some defaultFile) = [stateLine video] := by decide

theorem writtenValue_nil (key : Text) : writtenValue key [] = none := by
  have hparts : readParts '\n' ([] ++ ['\n']) = [[]] := rfl
  rw [writtenValue, hparts, List.findSome?_singleton, readLine_nil]

/-- What a line gives to a key after the update. -/
def Update.givenValue (u : Update) (key line : Text) : Option Text :=
  if u.Owns line then u.rewrittenValue key line else readLine key line

theorem givenValue_of_other {u : Update} {line : Text} (h : ¬ u.Owns line) (key : Text) :
    u.givenValue key line = readLine key line :=
  if_neg h

/-- What the keys read after an update that is written. -/
theorem read_terminate_updateLines (u : Update) (other : Key) {lines : List Text}
    (hlines : ∀ line ∈ lines, '\n' ∉ line) :
    other.read (some (terminate '\n'
        (updateLines u.key.systemMode u.key.property u.value u.action lines))) =
      (lines.findSome? (u.givenValue other.text)).or
        (if ∃ line ∈ lines, u.Owns line then none else u.addedValue other.text) := by
  have hgiven : (lines.findSome? fun line =>
      (updateLine u.key.systemMode u.key.property u.value u.action line).bind
        (writtenValue other.text)) = lines.findSome? (u.givenValue other.text) := by
    apply findSome_congr
    intro line hline
    by_cases hown : u.Owns line
    · rw [Update.givenValue, if_pos hown]
      rfl
    · rw [givenValue_of_other hown, updateLine_of_other hown, Option.bind_some,
        writtenValue_of_line (hlines line hline)]
  have hadded : (if ∃ line ∈ lines, u.Owns line then []
      else newLines u.key.systemMode u.key.property u.value u.action).findSome?
        (writtenValue other.text) =
      if ∃ line ∈ lines, u.Owns line then none else u.addedValue other.text := by
    split <;> rfl
  have hupdate : (updateLines u.key.systemMode u.key.property u.value u.action lines).findSome?
      (writtenValue other.text) = _ := findSome_updateLines (writtenValue_nil other.text) lines
  rw [Key.read_eq, fileLines, findSome_readParts_terminate, ← hadded, ← hgiven]
  exact hupdate

/-- A file that is created holds nothing but the added line. -/
theorem read_apply_none (io : FileIo) (u : Update) (other : Key) :
    other.read (u.apply io none) =
      if io.creates ∧ io.writes then u.addedValue other.text else none := by
  have hvalid : ¬ (u.key.systemMode = [] ∨ u.key.property = []) :=
    not_or.mpr ⟨u.key.systemMode_ne, u.key.property_ne⟩
  rw [Update.apply, updateSystemModeFile, if_neg hvalid]
  cases hcreates : io.creates with
  | false => simp [Key.read_eq, fileLines]
  | true =>
      cases hwrites : io.writes with
      | false => simp [Key.read_eq, fileLines, rewriteFile, hwrites, readParts]
      | true =>
          have hread := @read_terminate_updateLines u other [] (by simp)
          simpa [rewriteFile, hwrites] using hread

/-- What the other key reads after the update. -/
theorem read_apply_some {io : FileIo} (hwrites : io.writes = true) (u : Update) (other : Key)
    (text : Text) :
    other.read (u.apply io (some text)) =
      ((readParts '\n' text).findSome? (u.givenValue other.text)).or
      (if ∃ line ∈ readParts '\n' text, u.Owns line then none else u.addedValue other.text) := by
  have happly : u.apply io (some text) = some (rewriteFile io u.key.systemMode u.key.property
      u.value u.action (readParts '\n' text) text) :=
    updateSystemModeFile_some u.key.systemMode_ne u.key.property_ne text
  rw [happly, rewriteFile, if_pos hwrites]
  exact read_terminate_updateLines u other fun line hline => not_mem_of_mem_readParts hline

/-- If nothing is written, every key keeps its value. -/
theorem frames_of_not_writes {io : FileIo} (hwrites : io.writes = false) (u : Update)
    (other : Key) (text : Text) : Frames io u other (some text) := by
  have happly : u.apply io (some text) = some (rewriteFile io u.key.systemMode u.key.property
      u.value u.action (readParts '\n' text) text) :=
    updateSystemModeFile_some u.key.systemMode_ne u.key.property_ne text
  rw [Frames, happly, rewriteFile, hwrites]
  rfl

theorem frames_iff_givesSame {io : FileIo} (hwrites : io.writes = true) (u : Update)
    (other : Key) (text : Text) :
    Frames io u other (some text) ↔ GivesSame u other (readParts '\n' text) := by
  have hbefore : other.read (some text) = (u.ownValue other.text (readLine other.text)
      (readParts '\n' text)).or (u.otherValue other.text (readParts '\n' text)) := by
    rw [← findSome_split, Key.read_eq]
    apply findSome_congr
    intro line _
    rw [ite_self]
  have hgiven := findSome_split u other.text (u.rewrittenValue other.text) (readParts '\n' text)
  rw [Frames, Option.getD_some, read_apply_some hwrites, hbefore, GivesSame, ← Option.or_assoc,
    ← hgiven]
  rfl

/-- A file that does not exist counts as the default one. -/
theorem frames_none_iff (io : FileIo) (u : Update) (other : Key) :
    Frames io u other none ↔ readLine other.text (stateLine video) =
      if io.creates ∧ io.writes then u.addedValue other.text else none := by
  have hdefault : other.read (some defaultFile) = readLine other.text (stateLine video) := by
    rw [Key.read_eq, fileLines_defaultFile, List.findSome?_singleton]
  rw [Frames, Option.getD_none, hdefault, read_apply_none, eq_comm]

/-! ### Regular lines -/

/-- Neither key starts the other one. -/
def Key.Apart (k other : Key) : Prop := ¬ k.text <+: other.text ∧ ¬ other.text <+: k.text

instance (k other : Key) : Decidable (k.Apart other) := inferInstanceAs (Decidable (_ ∧ _))

/-- The texts of the update are one line, there is no `=` in the keys, the lines that start with the
key of the update are lines of that key, and a callsign to be deleted is found behind it. -/
structure Regular (u : Update) (other : Key) (lines : List Text) : Prop where
  key : '=' ∉ u.key.text
  key_line : '\n' ∉ u.key.text
  value_line : '\n' ∉ u.value
  other_key : '=' ∉ other.text
  apart : Apart u.key.text lines
  deletes : u.key.property = callsign → u.action = .delete → ∀ line ∈ lines, u.Owns line →
    ∀ pos, find u.value line = some pos → u.key.text.length < pos

/-- The update takes its lines out of the file. -/
def Update.Removes (u : Update) : Prop :=
  (u.action = .deleteall ∧ u.value = []) ∨ (u.key.property = currentstate ∧ u.action = .delete)

/-- The update adds a line if there is none that starts with its key. -/
def Update.Adds (u : Update) : Prop :=
  (u.action = .add ∨ u.action = .checkandadd) ∧
    (u.key.property = currentstate ∨ u.key.property = callsign)

/-- A line that is not taken out keeps its value: a state is the new one already, a callsign to be
added is there, and one to be deleted is not. -/
def Update.Retains (u : Update) (line : Text) : Prop :=
  (u.key.property = currentstate → u.action = .deleteall ∨ lineValue line = some u.value) ∧
  (u.key.property = callsign → (u.action = .add → u.value <:+: line) ∧
    (u.action = .delete → ¬ u.value <:+: line))

instance (u : Update) : Decidable u.Removes := inferInstanceAs (Decidable (_ ∨ _))

instance (u : Update) : Decidable u.Adds := inferInstanceAs (Decidable (_ ∧ _))

/-- The other key does not start the key of the update. Or it does, and the first line that gives it
a value is none of the update, keeps its value, or is taken out and another line gives the same; if
there is none, none is added. -/
def Unaffected (u : Update) (other : Key) (lines : List Text) : Prop :=
  other.text <+: u.key.text →
    match lines.find? fun line => (readLine other.text line).isSome with
    | none => ¬ u.Adds
    | some line =>
        u.Owns line →
          if u.Removes then u.otherValue other.text lines = readLine other.text line
          else u.Retains line

section Regular

variable {u : Update} {other : Key} {lines : List Text} {line value : Text}

theorem Regular.exists_entry (h : Regular u other lines) (hmem : line ∈ lines)
    (hown : u.Owns line) : ∃ value, line = (Entry.mk u.key.text value).line := by
  obtain ⟨value, hvalue⟩ := h.apart line hmem hown
  refine ⟨value, ?_⟩
  rw [← hvalue, Entry.line, List.append_assoc]
  rfl

theorem Regular.readLine_entry (h : Regular u other lines) (value : Text) :
    readLine other.text (Entry.mk u.key.text value).line =
      if other.text <+: u.key.text then some value else none := by
  by_cases hstarts : other.text <+: u.key.text
  · rw [if_pos hstarts, readLine, if_pos, Entry.lineValue_line h.key]
    exact hstarts.trans (Entry.prefix_line_of_eq rfl)
  · rw [if_neg hstarts, readLine, if_neg fun hline => hstarts (Entry.prefix_line h.other_key hline)]

theorem Regular.writtenValue_entry (h : Regular u other lines) (hvalue : '\n' ∉ value) :
    writtenValue other.text (Entry.mk u.key.text value).line =
      if other.text <+: u.key.text then some value else none := by
  rw [← h.readLine_entry, writtenValue_of_line]
  rw [Entry.line, List.mem_append, List.mem_cons, not_or, not_or]
  exact ⟨h.key_line, by decide, hvalue⟩

theorem Regular.rewrittenValue_of_removes (hremoves : u.Removes) (hown : u.Owns line) (key : Text) :
    u.rewrittenValue key line = none := by
  have hstarts : searchKey u.key.systemMode u.key.property <+: line := hown
  unfold Update.rewrittenValue updateLine
  rw [if_pos hstarts]
  rcases hremoves with hall | ⟨hproperty, haction⟩
  · rw [if_pos hall]
    rfl
  · rw [if_neg (by simp [haction]), if_pos hproperty, haction]
    exact writtenValue_nil key

/-- A callsign that is found behind the key is erased from the value, which becomes shorter. -/
theorem erase_entry {key c : Text} {pos : ℕ}
    (hpos : find c (Entry.mk key value).line = some pos) (hlt : key.length < pos) :
    ∃ value', erase pos (c.length + 1) (Entry.mk key value).line = (Entry.mk key value').line ∧
      (∀ x ∈ value', x ∈ value) ∧ value' ≠ value := by
  obtain ⟨before, after, hsplit, hbefore⟩ := exists_of_find hpos
  have hlength := congrArg List.length hsplit
  simp only [Entry.line, List.length_append, List.length_cons] at hlength
  have hc : c ≠ [] := by
    rintro rfl
    cases hline : (Entry.mk key value).line with
    | nil => exact Entry.line_ne_nil _ hline
    | cons x rest =>
        rw [hline, find, if_pos List.nil_prefix] at hpos
        cases hpos
        omega
  have hcount : 0 < c.length := List.length_pos_iff.mpr hc
  have htext : (Entry.mk key value).line = (key ++ ['=']) ++ value := by simp [Entry.line]
  refine ⟨erase (pos - (key.length + 1)) (c.length + 1) value, ?_, fun x hx => ?_, fun heq => ?_⟩
  · rw [htext, erase_append_right value (n := pos - (key.length + 1)) (by simp; omega), Entry.line]
    simp
  · rcases List.mem_append.mp hx with hx | hx
    · exact List.mem_of_mem_take hx
    · exact List.mem_of_mem_drop hx
  · have hshorter := congrArg List.length heq
    rw [erase, List.length_append, List.length_take, List.length_drop] at hshorter
    omega

/-- A line of the update with one value becomes one with the other. -/
def Update.Rewrites (u : Update) (value value' : Text) : Prop :=
  updateLine u.key.systemMode u.key.property u.value u.action (Entry.mk u.key.text value).line =
      some (Entry.mk u.key.text value').line ∧
    '\n' ∉ value' ∧ (value' = value ↔ u.Retains (Entry.mk u.key.text value).line)

theorem Regular.rewrites_of_state (h : Regular u other lines) (hremoves : ¬ u.Removes)
    (hproperty : u.key.property = currentstate) (hvalue : '\n' ∉ value) :
    ∃ value', u.Rewrites value value' := by
  have hstarts : searchKey u.key.systemMode u.key.property <+:
    (Entry.mk u.key.text value).line := Entry.prefix_line_of_eq rfl
  have hread : lineValue (Entry.mk u.key.text value).line = some value :=
    Entry.lineValue_line h.key
  have hne : currentstate ≠ callsign := by decide
  have hcallsign : u.key.property ≠ callsign := hproperty ▸ hne
  obtain ⟨hall, hstate⟩ := not_or.mp hremoves
  unfold Update.Rewrites updateLine
  rw [if_pos hstarts, if_neg hall, if_pos hproperty]
  cases haction : u.action with
  | add =>
      refine ⟨u.value, rfl, h.value_line, ?_⟩
      simp [Update.Retains, hproperty, hne, haction, hread, eq_comm]
  | checkandadd =>
      refine ⟨u.value, rfl, h.value_line, ?_⟩
      simp [Update.Retains, hproperty, hne, haction, hread, eq_comm]
  | delete => exact absurd ⟨hproperty, haction⟩ hstate
  | deleteall =>
      refine ⟨value, rfl, hvalue, iff_of_true rfl ⟨fun _ => .inl haction, fun hp => ?_⟩⟩
      exact absurd hp hcallsign

theorem Regular.rewrites_of_callsign (h : Regular u other lines) (hremoves : ¬ u.Removes)
    (hcallsign : u.key.property = callsign) (hmem : (Entry.mk u.key.text value).line ∈ lines)
    (hvalue : '\n' ∉ value) : ∃ value', u.Rewrites value value' := by
  have hown : u.Owns (Entry.mk u.key.text value).line := Entry.prefix_line_of_eq rfl
  have hstarts : searchKey u.key.systemMode u.key.property <+:
    (Entry.mk u.key.text value).line := hown
  have hproperty : u.key.property ≠ currentstate := by
    rw [hcallsign]
    decide
  obtain ⟨hall, _⟩ := not_or.mp hremoves
  unfold Update.Rewrites updateLine
  rw [if_pos hstarts, if_neg hall, if_neg hproperty, if_pos hcallsign]
  cases haction : u.action with
  | add =>
      cases hfind : find u.value (Entry.mk u.key.text value).line with
      | none =>
          have habsent := find_eq_none_iff.mp hfind
          refine ⟨value ++ (u.value ++ ['|']), ?_, ?_, ?_⟩
          · simp [Entry.line_append]
          · simp [hvalue, h.value_line]
          · simp [Update.Retains, hcallsign, haction, habsent]
      | some pos =>
          have hpresent := find_isSome_iff.mp (by rw [hfind]; rfl)
          refine ⟨value, rfl, hvalue, ?_⟩
          simp [Update.Retains, hproperty, haction, hpresent]
  | delete =>
      cases hfind : find u.value (Entry.mk u.key.text value).line with
      | none =>
          have habsent := find_eq_none_iff.mp hfind
          refine ⟨value, rfl, hvalue, ?_⟩
          simp [Update.Retains, hproperty, haction, habsent]
      | some pos =>
          have hpresent := find_isSome_iff.mp (by rw [hfind]; rfl)
          have hlt := h.deletes hcallsign haction _ hmem hown pos hfind
          obtain ⟨value', herase, hsub, hshorter⟩ := erase_entry hfind hlt
          refine ⟨value', congrArg some herase, fun hc => hvalue (hsub _ hc), ?_⟩
          simp [Update.Retains, hcallsign, haction, hpresent, hshorter]
  | deleteall =>
      refine ⟨value, rfl, hvalue, ?_⟩
      simp [Update.Retains, hproperty, haction]
  | checkandadd =>
      refine ⟨value, rfl, hvalue, ?_⟩
      simp [Update.Retains, hproperty, haction]

/-- What becomes of a line that is not taken out. -/
theorem Regular.exists_rewrites (h : Regular u other lines) (hremoves : ¬ u.Removes)
    (hmem : (Entry.mk u.key.text value).line ∈ lines) (hvalue : '\n' ∉ value) :
    ∃ value', u.Rewrites value value' := by
  by_cases hproperty : u.key.property = currentstate
  · exact h.rewrites_of_state hremoves hproperty hvalue
  · by_cases hcallsign : u.key.property = callsign
    · exact h.rewrites_of_callsign hremoves hcallsign hmem hvalue
    · -- any other property is left alone
      have hstarts : searchKey u.key.systemMode u.key.property <+:
        (Entry.mk u.key.text value).line := Entry.prefix_line_of_eq rfl
      refine ⟨value, ?_, hvalue, iff_of_true rfl ⟨fun hp => ?_, fun hp => ?_⟩⟩
      · unfold updateLine
        rw [if_pos hstarts, if_neg (not_or.mp hremoves).1, if_neg hproperty, if_neg hcallsign]
      · exact absurd hp hproperty
      · exact absurd hp hcallsign

/-- What a line of the update gives to the other key, before and after. -/
theorem Regular.rewrittenValue_entry (h : Regular u other lines) (hremoves : ¬ u.Removes)
    (hmem : line ∈ lines) (hline : '\n' ∉ line) (hown : u.Owns line) :
    ∃ value value', readLine other.text line =
        (if other.text <+: u.key.text then some value else none) ∧
      u.rewrittenValue other.text line =
        (if other.text <+: u.key.text then some value' else none) ∧
      (value' = value ↔ u.Retains line) := by
  obtain ⟨value, rfl⟩ := h.exists_entry hmem hown
  have hvalue : '\n' ∉ value := by
    rw [Entry.line, List.mem_append, List.mem_cons, not_or, not_or] at hline
    exact hline.2.2
  obtain ⟨value', hupdate, hvalue', hretains⟩ := h.exists_rewrites hremoves hmem hvalue
  refine ⟨value, value', h.readLine_entry value, ?_, hretains⟩
  rw [Update.rewrittenValue, hupdate, Option.bind_some, h.writtenValue_entry hvalue']

theorem Regular.addedValue_eq_none_iff (h : Regular u other lines) :
    u.addedValue other.text = none ↔ (other.text <+: u.key.text → ¬ u.Adds) := by
  have hadded : ∀ value, '\n' ∉ value →
      ([searchKey u.key.systemMode u.key.property ++ '=' :: value].findSome?
        (writtenValue other.text) = none ↔ ¬ other.text <+: u.key.text) := by
    intro value hvalue
    have hwritten : writtenValue other.text (searchKey u.key.systemMode u.key.property ++
        '=' :: value) = if other.text <+: u.key.text then some value else none :=
      h.writtenValue_entry hvalue
    rw [List.findSome?_singleton, hwritten]
    split <;> simp [*]
  have hpiece : '\n' ∉ u.value ++ ['|'] := by simp [h.value_line]
  rw [Update.addedValue, newLines, Update.Adds]
  by_cases haction : u.action = .add ∨ u.action = .checkandadd
  · rw [if_pos haction]
    by_cases hstate : u.key.property = currentstate
    · rw [if_pos hstate, hadded u.value h.value_line]
      simp [haction, hstate]
    · rw [if_neg hstate]
      by_cases hcallsign : u.key.property = callsign
      · rw [if_pos hcallsign, hadded _ hpiece]
        simp [haction, hcallsign]
      · rw [if_neg hcallsign]
        simp [hstate, hcallsign]
  · rw [if_neg haction]
    simp [haction]

theorem findSome_append_cons {α β : Type*} {f : α → Option β} {front back : List α} {x : α}
    (hfront : ∀ y ∈ front, f y = none) :
    (front ++ x :: back).findSome? f = (f x).or (back.findSome? f) := by
  rw [List.findSome?_append, List.findSome?_eq_none_iff.mpr hfront, List.findSome?_cons,
    Option.none_or]
  cases f x <;> rfl

/-- If the lines of the update are taken out, the other lines are left. -/
theorem findSome_of_removes (hremoves : u.Removes) (key : Text) (lines : List Text) :
    lines.findSome? (u.givenValue key) = u.otherValue key lines := by
  have hgiven : ∀ line, u.givenValue key line =
      if u.Owns line then none else readLine key line := by
    intro line
    rw [Update.givenValue]
    split
    · rename_i hown
      exact Regular.rewrittenValue_of_removes hremoves hown key
    · rfl
  have hown : u.ownValue key (fun _ => none) lines = none :=
    List.findSome?_eq_none_iff.mpr fun _ _ => rfl
  rw [funext hgiven, findSome_split u key fun _ => none, hown, Option.none_or]

/-- A key that does not start the key of the update reads nothing from its lines. -/
theorem Regular.givenValue_eq (h : Regular u other lines) (hlines : ∀ line ∈ lines, '\n' ∉ line)
    (hstarts : ¬ other.text <+: u.key.text) (hmem : line ∈ lines) :
    u.givenValue other.text line = readLine other.text line := by
  by_cases hown : u.Owns line
  · rw [Update.givenValue, if_pos hown]
    by_cases hremoves : u.Removes
    · obtain ⟨value, rfl⟩ := h.exists_entry hmem hown
      rw [Regular.rewrittenValue_of_removes hremoves hown, h.readLine_entry, if_neg hstarts]
    · obtain ⟨value, value', hvalue, hvalue', _⟩ :=
        h.rewrittenValue_entry hremoves hmem (hlines line hmem) hown
      rw [hvalue, hvalue', if_neg hstarts, if_neg hstarts]
  · exact givenValue_of_other hown _

/-- A line that gives nothing to the other key is none of the update. -/
theorem Regular.not_owns (h : Regular u other lines) (hstarts : other.text <+: u.key.text)
    (hmem : line ∈ lines) (hnone : readLine other.text line = none) : ¬ u.Owns line := by
  intro hown
  obtain ⟨value, rfl⟩ := h.exists_entry hmem hown
  rw [h.readLine_entry, if_pos hstarts] at hnone
  cases hnone

theorem Regular.givenValue_eq_none (h : Regular u other lines)
    (hstarts : other.text <+: u.key.text) (hmem : line ∈ lines)
    (hnone : readLine other.text line = none) : u.givenValue other.text line = none := by
  rw [givenValue_of_other (h.not_owns hstarts hmem hnone), hnone]

/-- The update leaves what the first line gives that the other key reads. -/
theorem Regular.first_iff {front back : List Text} (h : Regular u other (front ++ line :: back))
    (hlines : ∀ line' ∈ front ++ line :: back, '\n' ∉ line') (hstarts : other.text <+: u.key.text)
    (hvalue : readLine other.text line = some value)
    (hnone : ∀ line' ∈ front, readLine other.text line' = none) :
    ((front ++ line :: back).findSome? (u.givenValue other.text)).or
        (if ∃ line' ∈ front ++ line :: back, u.Owns line' then none
          else u.addedValue other.text) = some value ↔
      (u.Owns line → if u.Removes
        then u.otherValue other.text (front ++ line :: back) = readLine other.text line
        else u.Retains line) := by
  have hmem : line ∈ front ++ line :: back := by simp
  have hgiven : ∀ line' ∈ front, u.givenValue other.text line' = none :=
    fun line' hline' =>
      h.givenValue_eq_none hstarts (List.mem_append_left _ hline') (hnone line' hline')
  by_cases hown : u.Owns line
  · rw [imp_iff_right hown, if_pos ⟨line, hmem, hown⟩, Option.or_none]
    by_cases hremoves : u.Removes
    · rw [if_pos hremoves, findSome_of_removes hremoves, hvalue]
    · obtain ⟨v, v', hv, hv', hretains⟩ :=
        h.rewrittenValue_entry hremoves hmem (hlines line hmem) hown
      rw [if_pos hstarts] at hv hv'
      obtain rfl : v = value := Option.some.inj (hv.symm.trans hvalue)
      rw [if_neg hremoves, findSome_append_cons hgiven, Update.givenValue, if_pos hown, hv',
        Option.some_or, Option.some_inj, hretains]
  · rw [findSome_append_cons hgiven, givenValue_of_other hown, hvalue, Option.some_or,
      Option.some_or]
    exact iff_of_true rfl fun hown' => absurd hown' hown

/-- On regular lines the other key keeps its value exactly if it is unaffected. -/
theorem Regular.frames_iff_unaffected {io : FileIo} {text : Text}
    (h : Regular u other (readParts '\n' text)) (hwrites : io.writes = true) :
    Frames io u other (some text) ↔ Unaffected u other (readParts '\n' text) := by
  have hbefore : other.read (some text) =
      (readParts '\n' text).findSome? (readLine other.text) := Key.read_eq other _
  have hlines : ∀ line ∈ readParts '\n' text, '\n' ∉ line :=
    fun line hline => not_mem_of_mem_readParts hline
  rw [Frames, Option.getD_some, read_apply_some hwrites, hbefore]
  generalize readParts '\n' text = lines at h hlines
  by_cases hstarts : other.text <+: u.key.text
  · rw [Unaffected, imp_iff_right hstarts]
    cases hfirst : lines.find? fun line => (readLine other.text line).isSome with
    | none =>
        have hnone : ∀ line ∈ lines, readLine other.text line = none := by
          simpa using hfirst
        have hgiven : ∀ line ∈ lines, u.givenValue other.text line = none :=
          fun line hmem => h.givenValue_eq_none hstarts hmem (hnone line hmem)
        have hother : ¬ ∃ line ∈ lines, u.Owns line :=
          fun ⟨line, hmem, hown⟩ => h.not_owns hstarts hmem (hnone line hmem) hown
        rw [List.findSome?_eq_none_iff.mpr hgiven, List.findSome?_eq_none_iff.mpr hnone,
          Option.none_or, if_neg hother, h.addedValue_eq_none_iff, imp_iff_right hstarts]
    | some line =>
        obtain ⟨hsome, front, back, rfl, hfront⟩ := List.find?_eq_some_iff_append.mp hfirst
        obtain ⟨value, hvalue⟩ := Option.isSome_iff_exists.mp hsome
        have hnone : ∀ line ∈ front, readLine other.text line = none := by
          simpa using hfront
        rw [findSome_append_cons hnone, hvalue, Option.some_or]
        exact h.first_iff hlines hstarts hvalue hnone
  · have hgiven : ∀ line ∈ lines, u.givenValue other.text line = readLine other.text line :=
      fun line hmem => h.givenValue_eq hlines hstarts hmem
    have hadded : u.addedValue other.text = none :=
      h.addedValue_eq_none_iff.mpr fun hstarts' => absurd hstarts' hstarts
    rw [findSome_congr hgiven, hadded, ite_self, Option.or_none]
    exact iff_of_true rfl fun hstarts' => absurd hstarts' hstarts

end Regular

/-! ### When the other key keeps its value -/

/-- In a file that is created, the added line gives the other key the value of the default line.
In one that exists and can be written, the other key is unaffected if the lines are regular;
otherwise the lines of the update give it what they gave it before. -/
def Spares (io : FileIo) (u : Update) (other : Key) : Option Text → Prop
  | none =>
      readLine other.text (stateLine video) =
        if io.creates ∧ io.writes then u.addedValue other.text else none
  | some text =>
      io.writes = true →
        (Regular u other (readParts '\n' text) → Unaffected u other (readParts '\n' text)) ∧
        (¬ Regular u other (readParts '\n' text) → GivesSame u other (readParts '\n' text))

end DeviceAndDisplay.SystemMode
