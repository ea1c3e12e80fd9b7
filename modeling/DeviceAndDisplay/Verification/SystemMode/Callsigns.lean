import DeviceAndDisplay.Transition.Run
import DeviceAndDisplay.Verification.SystemMode.Entries

/-! # The stored callsigns form a set

Membership and removal are decided by a search for text in the whole line. They are right where
the first occurrence of the callsign in its line is a stored callsign. -/

namespace DeviceAndDisplay.SystemMode

open Storage Transition

variable {entries : List Entry} {e : Entry} {file : Option Text} {systemMode c : Text}

/-! ### Conditions -/

/-- The callsign occurs in its line only if it is stored. -/
def AddFinds (systemMode c : Text) (file : Option Text) : Prop :=
  ∀ line ∈ fileLines file, searchKey systemMode callsign <+: line → c <:+: line →
    c ∈ storedCallsigns systemMode file

/-- If the callsign occurs in its line, it is not within the key, and it is found as a whole. -/
def DeleteFinds (systemMode c : Text) (file : Option Text) : Prop :=
  ∀ line ∈ fileLines file, searchKey systemMode callsign <+: line → c <:+: line →
    ¬ c <:+: searchKey systemMode callsign ∧ FindsWhole c (storedCallsigns systemMode file)

/-- As `DeleteFinds`, or the callsign is within the key and no other one is stored. -/
def DeleteRight (systemMode c : Text) (file : Option Text) : Prop :=
  ∀ line ∈ fileLines file, searchKey systemMode callsign <+: line → c <:+: line →
    if c <:+: searchKey systemMode callsign then ∀ d ∈ storedCallsigns systemMode file, d = c
    else FindsWhole c (storedCallsigns systemMode file)

/-- A name that can be the first part of a key. -/
def IsMode (systemMode : Text) : Prop := systemMode ≠ [] ∧ '=' ∉ systemMode ∧ '\n' ∉ systemMode

/-- The condition on the calls that wrote the file. -/
def Safe (file : Option Text) (call : FileCall) : Prop :=
  ('=' ∉ call.systemMode ∧ '\n' ∉ call.systemMode) ∧
  (call.property = currentstate → '\n' ∉ call.value ∧
    Apart (searchKey call.systemMode currentstate) (fileLines file)) ∧
  (call.property = callsign → call.action ≠ some .deleteall → IsCallsign call.value ∧
    Apart (searchKey call.systemMode callsign) (fileLines file) ∧
    (call.action = some .add → AddFinds call.systemMode call.value file) ∧
    (call.action = some .delete → DeleteFinds call.systemMode call.value file))

instance (systemMode c : Text) (file : Option Text) : Decidable (AddFinds systemMode c file) :=
  inferInstanceAs (Decidable (∀ line ∈ fileLines file, _))

instance (systemMode c : Text) (file : Option Text) : Decidable (DeleteFinds systemMode c file) :=
  inferInstanceAs (Decidable (∀ line ∈ fileLines file, _))

instance (systemMode c : Text) (file : Option Text) : Decidable (DeleteRight systemMode c file) :=
  inferInstanceAs (Decidable (∀ line ∈ fileLines file, _))

instance (systemMode : Text) : Decidable (IsMode systemMode) :=
  inferInstanceAs (Decidable (_ ∧ _))

instance (file : Option Text) (call : FileCall) : Decidable (Safe file call) :=
  inferInstanceAs (Decidable (_ ∧ _))

/-! ### Keys -/

theorem not_mem_searchKey {x : Char} {property : Text} (hx : x ≠ '_') (hm : x ∉ systemMode)
    (hp : x ∉ property) : x ∉ searchKey systemMode property := by
  rw [searchKey, List.mem_append, List.mem_cons, not_or, not_or]
  exact ⟨hm, hx, hp⟩

theorem suffix_searchKey_callsign (systemMode : Text) :
    '_' :: callsign <:+ searchKey systemMode callsign :=
  List.suffix_append systemMode ('_' :: callsign)

theorem not_suffix_searchKey_currentstate (systemMode : Text) :
    ¬ '_' :: callsign <:+ searchKey systemMode currentstate := by
  intro h
  have hsuffix : '_' :: currentstate <:+ searchKey systemMode currentstate :=
    List.suffix_append systemMode ('_' :: currentstate)
  have hboth := List.suffix_of_suffix_length_le h hsuffix (by decide)
  exact absurd hboth (by decide)

/-! ### One line -/

section

variable {property value : Text} {action : FileAction}

theorem updateLine_of_other {line : Text} (h : ¬ searchKey systemMode property <+: line) :
    updateLine systemMode property value action line = some line :=
  if_neg h

theorem updateLine_add {line : Text} (h : searchKey systemMode callsign <+: line) :
    updateLine systemMode callsign c .add line =
      some (if c <:+: line then line else line ++ (c ++ ['|'])) := by
  have hne : callsign ≠ currentstate := by decide
  rw [updateLine, if_pos h, if_neg (by simp), if_neg hne, if_pos rfl]
  cases hfind : find c line with
  | none => rw [if_neg (find_eq_none_iff.mp hfind)]
  | some pos => rw [if_pos (find_isSome_iff.mp (by rw [hfind]; rfl))]

theorem updateLine_delete {line : Text} (h : searchKey systemMode callsign <+: line) :
    updateLine systemMode callsign c .delete line =
      match find c line with
      | none => some line
      | some pos => some (erase pos (c.length + 1) line) := by
  have hne : callsign ≠ currentstate := by decide
  cases hfind : find c line with
  | none => simp [updateLine, h, hne, hfind]
  | some pos => simp [updateLine, h, hne, hfind]

/-- A callsign that is appended to the line is appended to the value. -/
theorem Entry.line_append (e : Entry) (text : Text) :
    e.line ++ text = (Entry.mk e.key (e.value ++ text)).line := by
  simp [Entry.line]

/-- A callsign that does not occur in the key is erased from the value. -/
theorem Entry.erase_line (hc : IsCallsign c) (hkey : ¬ c <:+: e.key) {pos : ℕ}
    (hpos : find c e.line = some pos) :
    ∃ pos', find c e.value = some pos' ∧
      erase pos (c.length + 1) e.line =
        (Entry.mk e.key (erase pos' (c.length + 1) e.value)).line := by
  rw [Entry.line, find_append_right hc.2.2.1 hc.1 hkey] at hpos
  obtain ⟨pos', hpos', rfl⟩ := Option.map_eq_some_iff.mp hpos
  refine ⟨pos', hpos', ?_⟩
  have htext : e.key ++ '=' :: e.value = (e.key ++ ['=']) ++ e.value := by simp
  rw [Entry.line, htext, erase_append_right (n := pos') _ (by simp), Entry.line]
  simp

/-- A callsign that occurs in the key is erased there, and the line cannot be read any more. -/
theorem Entry.readLine_erase (he : '=' ∉ e.key) (hvalue : '=' ∉ e.value)
    (hkey : c <:+: e.key) {pos : ℕ} (hpos : find c e.line = some pos) :
    readLine e.key (erase pos (c.length + 1) e.line) = none := by
  obtain ⟨pos', hpos'⟩ := Option.isSome_iff_exists.mp (find_isSome_iff.mpr hkey)
  obtain rfl : pos' = pos := Option.some.inj ((find_append_left hpos').symm.trans hpos)
  obtain ⟨before, after, hsplit, rfl⟩ := exists_of_find hpos'
  unfold readLine
  split
  · rename_i hstarts
    apply lineValue_of_not_mem
    intro hmem
    cases after with
    | nil =>
        -- the `=` is erased too
        have herase : erase before.length (c.length + 1) e.line = before ++ e.value := by
          rw [Entry.line, hsplit, List.append_nil, erase_append_cons]
        rw [herase, List.mem_append] at hmem
        rcases hmem with hmem | hmem
        · apply he
          rw [hsplit]
          simp [hmem]
        · exact hvalue hmem
    | cons x after =>
        -- what is left of the key is shorter
        have herase : erase before.length (c.length + 1) e.line =
            (before ++ after) ++ '=' :: e.value := by
          rw [Entry.line, hsplit, List.append_assoc, List.cons_append, erase_append_cons,
            List.append_assoc]
        rw [herase] at hstarts
        have hlength := (prefix_append_cons he hstarts).length_le
        rw [hsplit] at hlength
        simp only [List.length_append, List.length_cons] at hlength
        omega
  · rfl

/-! ### The whole file -/

theorem updateSystemModeFile_eq {io : FileIo} (hm : systemMode ≠ []) (hp : property ≠ [])
    (hcreates : io.creates = true) (hwrites : io.writes = true) :
    updateSystemModeFile io systemMode property value (some action) file =
      some (terminate '\n' (updateLines systemMode property value action (fileLines file))) := by
  unfold updateSystemModeFile
  rw [if_neg (by simp [hm, hp])]
  cases file with
  | none => simp [rewriteFile, fileLines, hcreates, hwrites]
  | some text => simp [rewriteFile, fileLines, hwrites]

theorem findSome_updateLines {β : Type*} {f : Text → Option β} (hf : f [] = none)
    (lines : List Text) :
    (updateLines systemMode property value action lines).findSome? f =
      (lines.findSome? fun line =>
        (updateLine systemMode property value action line).bind f).or
      ((if ∃ line ∈ lines, searchKey systemMode property <+: line then []
        else newLines systemMode property value action).findSome? f) := by
  rw [updateLines, List.findSome?_append]
  congr 1
  induction lines with
  | nil => rfl
  | cons line lines ih =>
      rw [List.filterMap_cons, List.findSome?_cons]
      cases updateLine systemMode property value action line with
      | none => exact ih
      | some new =>
          rw [List.filter_cons]
          by_cases hnew : new = []
          · simp only [hnew, hf, ne_eq, not_true_eq_false, decide_false, Bool.false_eq_true,
              if_false, Option.bind_some]
            exact ih
          · simp only [hnew, ne_eq, not_false_eq_true, decide_true, if_true, Option.bind_some,
              List.findSome?_cons]
            cases f new with
            | none => exact ih
            | some b => rfl

end

/-- The entry of a callsign key holds the callsigns that are read back. -/
theorem storedCallsigns_of_table (ht : Table entries) (hfile : Holds file entries)
    (hm : IsMode systemMode)
    (ha : Apart (searchKey systemMode callsign) (fileLines file)) :
    storedCallsigns systemMode file =
      match entries.find? fun e => e.key = searchKey systemMode callsign with
      | none => []
      | some e => pieces e.value := by
  have hk : '=' ∉ searchKey systemMode callsign :=
    not_mem_searchKey (by decide) hm.2.1 (by decide)
  have hlines := hfile.lines ht
  rw [hlines] at ha
  have hF : ∀ e ∈ entries, e.key ≠ searchKey systemMode callsign →
      readLine (searchKey systemMode callsign) e.line = none := by
    intro e he hne
    exact if_neg fun hstarts => hne (ha.key_eq ht hk he hstarts)
  rw [storedCallsigns_eq hm.1, hlines, List.findSome?_map,
    ht.findSome_eq_bind (F := readLine (searchKey systemMode callsign) ∘ Entry.line) hF]
  cases hfind : entries.find? fun e => e.key = searchKey systemMode callsign with
  | none => rfl
  | some e =>
      obtain ⟨he, hkey⟩ := find_key_some hfind
      rw [Option.bind_some, Function.comp_apply, Entry.readLine_line (ht.ok e he).key hkey]

/-! ### One call -/

section

variable {action : FileAction} (hm : IsMode systemMode) (hc : IsCallsign c)

include hc in
theorem newline_updateLine {line new : Text} (hline : '\n' ∉ line)
    (haction : action = .add ∨ action = .delete)
    (h : updateLine systemMode callsign c action line = some new) : '\n' ∉ new := by
  by_cases hstarts : searchKey systemMode callsign <+: line
  · rcases haction with rfl | rfl
    · rw [updateLine_add hstarts] at h
      obtain rfl := Option.some.inj h
      split
      · exact hline
      · rw [List.mem_append, List.mem_append, not_or, not_or]
        exact ⟨hline, hc.2.2.2, by decide⟩
    · rw [updateLine_delete hstarts] at h
      split at h
      · obtain rfl := Option.some.inj h
        exact hline
      · obtain rfl := Option.some.inj h
        rw [erase, List.mem_append, not_or]
        exact ⟨fun hmem => hline (List.mem_of_mem_take hmem),
          fun hmem => hline (List.mem_of_mem_drop hmem)⟩
  · rw [updateLine_of_other hstarts] at h
    obtain rfl := Option.some.inj h
    exact hline

include hm hc in
theorem fileLines_update (haction : action = .add ∨ action = .delete) :
    fileLines (updateSystemModeFile {} systemMode callsign c (some action) file) =
      updateLines systemMode callsign c action (fileLines file) := by
  rw [updateSystemModeFile_eq hm.1 (by decide) rfl rfl]
  apply readParts_terminate
  intro line hline
  rw [updateLines, List.mem_append] at hline
  rcases hline with hline | hline
  · obtain ⟨old, hold, hnew⟩ := List.mem_filterMap.mp (List.mem_filter.mp hline).1
    refine newline_updateLine hc ?_ haction hnew
    cases file with
    | none => cases hold
    | some text => exact not_mem_of_mem_readParts hold
  · split at hline
    · cases hline
    · rcases haction with rfl | rfl
      · have hne : callsign ≠ currentstate := by decide
        rw [newLines, if_pos (.inl rfl), if_neg hne, if_pos rfl, List.mem_singleton] at hline
        rw [hline, List.mem_append, List.mem_cons, List.mem_append, not_or, not_or, not_or]
        exact ⟨not_mem_searchKey (by decide) hm.2.2 (by decide), by decide, hc.2.2.2, by decide⟩
      · simp [newLines] at hline

include hm hc in
/-- What is read back after a call depends on the entry of the key alone. -/
theorem storedCallsigns_update (haction : action = .add ∨ action = .delete)
    (ht : Table entries) (hfile : Holds file entries)
    (ha : Apart (searchKey systemMode callsign) (fileLines file)) :
    storedCallsigns systemMode
        (updateSystemModeFile {} systemMode callsign c (some action) file) =
      match entries.find? fun e => e.key = searchKey systemMode callsign with
      | none => if action = .add then [c] else []
      | some e =>
          match (updateLine systemMode callsign c action e.line).bind
            (readLine (searchKey systemMode callsign)) with
          | none => []
          | some value => pieces value := by
  have hk : '=' ∉ searchKey systemMode callsign :=
    not_mem_searchKey (by decide) hm.2.1 (by decide)
  have hlines := hfile.lines ht
  rw [storedCallsigns_eq hm.1, fileLines_update hm hc haction,
    findSome_updateLines (readLine_nil _)]
  rw [hlines] at ha ⊢
  have hother : ∀ e ∈ entries, e.key ≠ searchKey systemMode callsign →
      (updateLine systemMode callsign c action e.line).bind
        (readLine (searchKey systemMode callsign)) = none := by
    intro e he hne
    have hstarts : ¬ searchKey systemMode callsign <+: e.line :=
      fun hstarts => hne (ha.key_eq ht hk he hstarts)
    rw [updateLine_of_other hstarts]
    exact if_neg hstarts
  rw [List.findSome?_map, ht.findSome_eq_bind (F := (fun line =>
    (updateLine systemMode callsign c action line).bind
      (readLine (searchKey systemMode callsign))) ∘ Entry.line) hother]
  cases hfind : entries.find? fun e => e.key = searchKey systemMode callsign with
  | none =>
      have hnot : ¬ ∃ line ∈ entries.map Entry.line, searchKey systemMode callsign <+: line := by
        rintro ⟨line, hline, hstarts⟩
        obtain ⟨e, he, rfl⟩ := List.mem_map.mp hline
        exact find_key_eq_none_iff.mp hfind e he (ha.key_eq ht hk he hstarts)
      rw [if_neg hnot, Option.bind_none, Option.none_or]
      rcases haction with rfl | rfl
      · have hne : callsign ≠ currentstate := by decide
        have hread := Entry.readLine_line (e := Entry.mk (searchKey systemMode callsign)
          (c ++ ['|'])) hk rfl
        rw [newLines, if_pos (.inl rfl), if_neg hne, if_pos rfl, List.findSome?_singleton]
        rw [Entry.line] at hread
        rw [hread]
        have hpieces := pieces_append_cons hc.2.1 []
        rw [if_neg hc.1] at hpieces
        exact hpieces
      · rfl
  | some e =>
      obtain ⟨he, hkey⟩ := find_key_some hfind
      have hin : ∃ line ∈ entries.map Entry.line, searchKey systemMode callsign <+: line :=
        ⟨e.line, List.mem_map_of_mem he, Entry.prefix_line_of_eq hkey⟩
      rw [if_pos hin, List.findSome?_nil, Option.or_none]
      rfl

end

/-! ### Right results -/

/-- The callsigns with `c` among them. -/
def withCallsign (c : Text) (cs : List Text) : List Text := if c ∈ cs then cs else cs ++ [c]

/-- A callsign that does not occur in the line is not stored. -/
theorem Entry.not_mem_callsigns (hc : IsCallsign c) (hin : ¬ c <:+: e.line) {cs : List Text}
    (hvalue : e.value = terminate '|' cs) : c ∉ cs := by
  intro hmem
  apply hin
  rw [Entry.line, infix_append_cons_iff hc.2.2.1 hc.1, hvalue, infix_terminate_iff hc]
  exact .inr ⟨c, hmem, List.infix_rfl⟩

theorem isCallsign_append {cs : List Text} (hcs : ∀ d ∈ cs, IsCallsign d) (hc : IsCallsign c) :
    ∀ d ∈ cs ++ [c], IsCallsign d := by
  intro d hd
  rcases List.mem_append.mp hd with hd | hd
  · exact hcs d hd
  · rw [List.mem_singleton.mp hd]
    exact hc

theorem Entry.Ok.append_callsign (h : e.Ok) (hc : IsCallsign c) (hin : ¬ c <:+: e.line)
    {cs : List Text} (hvalue : e.value = terminate '|' cs) (hnodup : cs.Nodup)
    (hcs : ∀ d ∈ cs, IsCallsign d) : (Entry.mk e.key (e.value ++ (c ++ ['|']))).Ok := by
  have hnot : c ∉ cs := Entry.not_mem_callsigns hc hin hvalue
  refine ⟨h.key, h.key_line, ?_, fun _ => ⟨cs ++ [c], ?_, ?_, isCallsign_append hcs hc⟩⟩
  · rw [List.mem_append, List.mem_append, not_or, not_or]
    exact ⟨h.value_line, hc.2.2.2, by decide⟩
  · rw [terminate_append_singleton, hvalue]
  · rw [List.nodup_append]
    refine ⟨hnodup, by simp, ?_⟩
    intro a ha b hb
    rw [List.mem_singleton.mp hb]
    rintro rfl
    exact hnot ha

theorem Entry.Ok.filter_callsigns (h : e.Ok) {cs : List Text} (hnodup : cs.Nodup)
    (hcs : ∀ d ∈ cs, IsCallsign d) (p : Text → Bool) :
    (Entry.mk e.key (terminate '|' (cs.filter p))).Ok := by
  refine ⟨h.key, h.key_line, ?_, fun _ => ⟨cs.filter p, rfl, hnodup.filter p, ?_⟩⟩
  · intro hmem
    rcases mem_terminate hmem with hx | ⟨d, hd, hx⟩
    · exact absurd hx (by decide)
    · exact (hcs d (List.mem_of_mem_filter hd)).2.2.2 hx
  · intro d hd
    exact hcs d (List.mem_of_mem_filter hd)

/-- The entry of the callsigns, and its line in the file. -/
theorem callsigns_of_find (ht : Table entries)
    (h : (entries.find? fun e => e.key = searchKey systemMode callsign) = some e) :
    e.Ok ∧ e.key = searchKey systemMode callsign ∧
      ∃ cs, e.value = terminate '|' cs ∧ cs.Nodup ∧ ∀ c ∈ cs, IsCallsign c := by
  obtain ⟨he, hkey⟩ := find_key_some h
  refine ⟨ht.ok e he, hkey, (ht.ok e he).callsigns ?_⟩
  rw [hkey]
  exact suffix_searchKey_callsign systemMode

/-- A condition on the lines of the key is a condition on its entry. -/
theorem forall_line_iff (ht : Table entries) (hfile : Holds file entries) (hm : IsMode systemMode)
    (ha : Apart (searchKey systemMode callsign) (fileLines file)) {P : Text → Prop} :
    (∀ line ∈ fileLines file, searchKey systemMode callsign <+: line → P line) ↔
      ∀ e, (entries.find? fun e => e.key = searchKey systemMode callsign) = some e → P e.line := by
  have hk : '=' ∉ searchKey systemMode callsign :=
    not_mem_searchKey (by decide) hm.2.1 (by decide)
  rw [hfile.lines ht] at ha ⊢
  constructor
  · intro h e he
    obtain ⟨he, hkey⟩ := find_key_some he
    exact h e.line (List.mem_map_of_mem he) (Entry.prefix_line_of_eq hkey)
  · intro h line hline hstarts
    obtain ⟨e, he, rfl⟩ := List.mem_map.mp hline
    exact h e (ht.find_key he (ha.key_eq ht hk he hstarts))

section

variable (ht : Table entries) (hfile : Holds file entries) (hm : IsMode systemMode)
  (ha : Apart (searchKey systemMode callsign) (fileLines file)) (hc : IsCallsign c)

include ht hfile hm ha hc in
theorem add_right_iff :
    storedCallsigns systemMode (updateSystemModeFile {} systemMode callsign c (some .add) file) =
        withCallsign c (storedCallsigns systemMode file) ↔
      AddFinds systemMode c file := by
  rw [AddFinds, forall_line_iff ht hfile hm ha, storedCallsigns_update hm hc (.inl rfl) ht hfile ha,
    storedCallsigns_of_table ht hfile hm ha]
  cases hfind : entries.find? fun e => e.key = searchKey systemMode callsign with
  | none => simp [withCallsign]
  | some e =>
      obtain ⟨hok, hkey, cs, hvalue, hnodup, hcs⟩ := callsigns_of_find ht hfind
      simp only [Option.some.injEq, forall_eq']
      rw [updateLine_add (Entry.prefix_line_of_eq hkey), Option.bind_some]
      by_cases hin : c <:+: e.line
      · rw [if_pos hin, Entry.readLine_line hok.key hkey]
        simp only [hvalue, pieces_terminate hcs, hin, true_imp_iff, withCallsign]
        by_cases hmem : c ∈ cs
        · simp [hmem]
        · simp [hmem]
      · have hnot : c ∉ cs := Entry.not_mem_callsigns hc hin hvalue
        have happend : e.value ++ (c ++ ['|']) = terminate '|' (cs ++ [c]) := by
          rw [terminate_append_singleton, hvalue]
        have hread := Entry.readLine_line (e := Entry.mk e.key (e.value ++ (c ++ ['|']))) hok.key
          hkey
        rw [if_neg hin, Entry.line_append, hread]
        dsimp only
        rw [happend, hvalue, pieces_terminate hcs, pieces_terminate (isCallsign_append hcs hc),
          withCallsign, if_neg hnot]
        exact iff_of_true rfl fun h => absurd h hin

include ht hfile hm ha hc in
theorem delete_right_iff :
    storedCallsigns systemMode
        (updateSystemModeFile {} systemMode callsign c (some .delete) file) =
        (storedCallsigns systemMode file).filter (· ≠ c) ↔
      DeleteRight systemMode c file := by
  rw [DeleteRight, forall_line_iff ht hfile hm ha,
    storedCallsigns_update hm hc (.inr rfl) ht hfile ha, storedCallsigns_of_table ht hfile hm ha]
  cases hfind : entries.find? fun e => e.key = searchKey systemMode callsign with
  | none => simp
  | some e =>
      obtain ⟨hok, hkey, cs, hvalue, hnodup, hcs⟩ := callsigns_of_find ht hfind
      simp only [Option.some.injEq, forall_eq']
      rw [updateLine_delete (Entry.prefix_line_of_eq hkey), ← hkey]
      cases hpos : find c e.line with
      | none =>
          have hin : ¬ c <:+: e.line := find_eq_none_iff.mp hpos
          have hfilter : cs.filter (· ≠ c) = cs :=
            filter_ne_of_not_mem (Entry.not_mem_callsigns hc hin hvalue)
          simp only [Option.bind_some, Entry.readLine_line hok.key rfl, hvalue,
            pieces_terminate hcs, hfilter, hin, false_imp_iff]
      | some pos =>
          have hin : c <:+: e.line := find_isSome_iff.mp (by rw [hpos]; rfl)
          simp only [hin, true_imp_iff, Option.bind_some, hvalue, pieces_terminate hcs]
          by_cases hinkey : c <:+: e.key
          · have hequals : '=' ∉ e.value := by
              intro hmem
              rw [hvalue] at hmem
              rcases mem_terminate hmem with h | ⟨d, hd, h⟩
              · exact absurd h (by decide)
              · exact (hcs d hd).2.2.1 h
            rw [Entry.readLine_erase hok.key hequals hinkey hpos, if_pos hinkey, eq_comm,
              List.filter_eq_nil_iff]
            simp
          · obtain ⟨pos', hpos', herase⟩ := Entry.erase_line hc hinkey hpos
            have hread := Entry.readLine_line (e := Entry.mk e.key
              (erase pos' (c.length + 1) e.value)) hok.key rfl
            rw [herase, hread, if_neg hinkey]
            dsimp only
            rw [hvalue] at hpos' ⊢
            constructor
            · intro h
              exact findsWhole_of_pieces hc hcs hnodup hpos' h
            · intro h
              rw [erase_of_findsWhole hc hcs hnodup h hpos', pieces_terminate]
              intro d hd
              exact hcs d (List.mem_of_mem_filter hd)

end

/-! ### Files that calls have written -/

section

variable {property value : Text} {action : FileAction}

/-- An entry whose line is kept, changed under its key, or dropped. -/
def Keeps (systemMode property value : Text) (action : FileAction) (e : Entry) : Prop :=
  ∃ o : Option Entry,
    (updateLine systemMode property value action e.line).filter (· ≠ []) = o.map Entry.line ∧
      ∀ d, o = some d → d.key = e.key ∧ d.Ok

theorem keeps_of_line {d : Entry} (h : updateLine systemMode property value action e.line =
    some d.line) (hkey : d.key = e.key) (hok : d.Ok) :
    Keeps systemMode property value action e := by
  refine ⟨some d, ?_, ?_⟩
  · rw [h, Option.filter_some, if_pos (by simpa using d.line_ne_nil)]
    rfl
  · intro d' hd'
    obtain rfl := Option.some.inj hd'
    exact ⟨hkey, hok⟩

theorem keeps_of_drop (h : updateLine systemMode property value action e.line = none ∨
    updateLine systemMode property value action e.line = some []) :
    Keeps systemMode property value action e := by
  refine ⟨none, ?_, fun d hd => by cases hd⟩
  rcases h with h | h <;> rw [h] <;> rfl

theorem exists_entries (h : ∀ e ∈ entries, Keeps systemMode property value action e) :
    ∃ kept : List Entry,
      ((entries.map Entry.line).filterMap
        (updateLine systemMode property value action)).filter (· ≠ []) = kept.map Entry.line ∧
      (kept.map Entry.key).Sublist (entries.map Entry.key) ∧ ∀ d ∈ kept, d.Ok := by
  induction entries with
  | nil => exact ⟨[], rfl, List.Sublist.refl _, by simp⟩
  | cons e entries ih =>
      obtain ⟨kept, hkept, hsub, hok⟩ := ih fun d hd => h d (List.mem_cons_of_mem e hd)
      obtain ⟨o, ho, hd⟩ := h e List.mem_cons_self
      rw [List.map_cons, List.filterMap_cons]
      cases o with
      | none =>
          refine ⟨kept, ?_, hsub.cons e.key, hok⟩
          rw [← hkept]
          cases hline : updateLine systemMode property value action e.line with
          | none => rfl
          | some line =>
              rw [hline, Option.map_none, Option.filter_eq_none_iff] at ho
              exact List.filter_cons_of_neg (ho line rfl)
      | some d =>
          obtain ⟨hkey, hdok⟩ := hd d rfl
          refine ⟨d :: kept, ?_, ?_, ?_⟩
          · obtain ⟨hline, hne⟩ := Option.filter_eq_some_iff.mp ho
            rw [hline, List.map_cons, ← hkept]
            exact List.filter_cons_of_pos hne
          · rw [List.map_cons, List.map_cons, hkey]
            exact hsub.cons_cons e.key
          · intro d' hd'
            rcases List.mem_cons.mp hd' with rfl | hd'
            · exact hdok
            · exact hok d' hd'

/-- The entry that is written at the end if no line starts with the key. -/
theorem exists_new (hm : '=' ∉ systemMode ∧ '\n' ∉ systemMode)
    (hstate : property = currentstate → '\n' ∉ value)
    (hcallsign : property = callsign → action ≠ .deleteall → IsCallsign value) :
    newLines systemMode property value action = [] ∨
      ∃ d : Entry, newLines systemMode property value action = [d.line] ∧
        d.key = searchKey systemMode property ∧ d.Ok := by
  unfold newLines
  split
  · rename_i haction
    split
    · rename_i hproperty
      subst hproperty
      refine .inr ⟨⟨searchKey systemMode currentstate, value⟩, rfl, rfl, ?_⟩
      refine ⟨not_mem_searchKey (by decide) hm.1 (by decide),
        not_mem_searchKey (by decide) hm.2 (by decide), hstate rfl, ?_⟩
      intro h
      exact absurd h (not_suffix_searchKey_currentstate systemMode)
    · split
      · rename_i hproperty
        subst hproperty
        have hc := hcallsign rfl (by rcases haction with rfl | rfl <;> decide)
        refine .inr ⟨⟨searchKey systemMode callsign, value ++ ['|']⟩, rfl, rfl, ?_⟩
        refine ⟨not_mem_searchKey (by decide) hm.1 (by decide),
          not_mem_searchKey (by decide) hm.2 (by decide), ?_, ?_⟩
        · rw [List.mem_append, not_or]
          exact ⟨hc.2.2.2, by decide⟩
        · intro _
          exact ⟨[value], by simp, by simp, by simpa using hc⟩
      · exact .inl rfl
  · exact .inl rfl

theorem keeps_currentstate (ht : Table entries) (he : e ∈ entries)
    (hm : '=' ∉ systemMode) (hvalue : '\n' ∉ value)
    (ha : Apart (searchKey systemMode currentstate) (entries.map Entry.line))
    (hstarts : searchKey systemMode currentstate <+: e.line)
    (hall : ¬ (action = .deleteall ∧ value = [])) :
    Keeps systemMode currentstate value action e := by
  have hok := ht.ok e he
  have hk : '=' ∉ searchKey systemMode currentstate := not_mem_searchKey (by decide) hm (by decide)
  have hkey := ha.key_eq ht hk he hstarts
  have hnew : (Entry.mk e.key value).Ok := by
    refine ⟨hok.key, hok.key_line, hvalue, ?_⟩
    rw [hkey]
    intro h
    exact absurd h (not_suffix_searchKey_currentstate systemMode)
  have hline : searchKey systemMode currentstate ++ '=' :: value =
      (Entry.mk e.key value).line := by
    rw [Entry.line, hkey]
  have hupdate := updateLine.eq_def systemMode currentstate value action e.line
  rw [if_pos hstarts, if_neg hall, if_pos rfl, hline] at hupdate
  cases action with
  | add => exact keeps_of_line hupdate rfl hnew
  | checkandadd => exact keeps_of_line hupdate rfl hnew
  | delete => exact keeps_of_drop (.inr hupdate)
  | deleteall => exact keeps_of_line hupdate rfl hok

theorem keeps_add {cs : List Text} (hok : e.Ok) (hc : IsCallsign c)
    (hstarts : searchKey systemMode callsign <+: e.line) (hvalue : e.value = terminate '|' cs)
    (hnodup : cs.Nodup) (hcs : ∀ d ∈ cs, IsCallsign d) :
    Keeps systemMode callsign c .add e := by
  by_cases hin : c <:+: e.line
  · refine keeps_of_line ?_ rfl hok
    rw [updateLine_add hstarts, if_pos hin]
  · refine keeps_of_line (d := ⟨e.key, e.value ++ (c ++ ['|'])⟩) ?_ rfl ?_
    · rw [updateLine_add hstarts, if_neg hin, Entry.line_append]
    · exact hok.append_callsign hc hin hvalue hnodup hcs

theorem keeps_delete {cs : List Text} (hok : e.Ok) (hc : IsCallsign c)
    (hstarts : searchKey systemMode callsign <+: e.line) (hvalue : e.value = terminate '|' cs)
    (hnodup : cs.Nodup) (hcs : ∀ d ∈ cs, IsCallsign d)
    (hfinds : c <:+: e.line → ¬ c <:+: e.key ∧ FindsWhole c cs) :
    Keeps systemMode callsign c .delete e := by
  cases hpos : find c e.line with
  | none =>
      refine keeps_of_line ?_ rfl hok
      rw [updateLine_delete hstarts, hpos]
  | some pos =>
      have hin : c <:+: e.line := find_isSome_iff.mp (by rw [hpos]; rfl)
      obtain ⟨hnotkey, hwhole⟩ := hfinds hin
      obtain ⟨pos', hpos', herase⟩ := Entry.erase_line hc hnotkey hpos
      refine keeps_of_line (d := ⟨e.key, erase pos' (c.length + 1) e.value⟩) ?_ rfl ?_
      · rw [updateLine_delete hstarts, hpos]
        exact congrArg some herase
      · rw [hvalue] at hpos' ⊢
        rw [erase_of_findsWhole hc hcs hnodup hwhole hpos']
        exact hok.filter_callsigns hnodup hcs _

/-- A call that meets the condition keeps every entry an entry. -/
theorem keeps_of_safe {call : FileCall} (ht : Table entries) (hfile : Holds file entries)
    (hm : call.systemMode ≠ []) (hs : Safe file call) (ha : call.action = some action)
    (he : e ∈ entries) : Keeps call.systemMode call.property call.value action e := by
  have hok := ht.ok e he
  have hlines := hfile.lines ht
  obtain ⟨⟨hequals, hnewline⟩, hstate, hcallsign⟩ := hs
  by_cases hstarts : searchKey call.systemMode call.property <+: e.line
  · by_cases hall : action = .deleteall ∧ call.value = []
    · exact keeps_of_drop (.inl (by rw [updateLine.eq_def, if_pos hstarts, if_pos hall]))
    · by_cases hcurrent : call.property = currentstate
      · obtain ⟨hvalue, hapart⟩ := hstate hcurrent
        rw [hcurrent] at hstarts ⊢
        exact keeps_currentstate ht he hequals hvalue (hlines ▸ hapart) hstarts hall
      · by_cases hcall : call.property = callsign
        · have hkept : action = .deleteall ∨ action = .checkandadd →
              Keeps call.systemMode call.property call.value action e := by
            intro h
            refine keeps_of_line ?_ rfl hok
            rw [updateLine.eq_def, if_pos hstarts, if_neg hall, if_neg hcurrent, if_pos hcall]
            rcases h with rfl | rfl <;> rfl
          by_cases hdeleteall : action = .deleteall
          · exact hkept (.inl hdeleteall)
          · obtain ⟨hc, hapart, _, hdelete⟩ :=
              hcallsign hcall (by rw [ha]; exact fun h => hdeleteall (Option.some.inj h))
            rw [hcall] at hstarts hkept ⊢
            have hk : '=' ∉ searchKey call.systemMode callsign :=
              not_mem_searchKey (by decide) hequals (by decide)
            have hkey := Apart.key_eq (hlines ▸ hapart) ht hk he hstarts
            have hfind := ht.find_key he hkey
            obtain ⟨_, _, cs, hvalue, hnodup, hcs⟩ := callsigns_of_find ht hfind
            cases action with
            | add => exact keeps_add hok hc hstarts hvalue hnodup hcs
            | delete =>
                have hmem : e.line ∈ fileLines file := by
                  rw [hlines]
                  exact List.mem_map_of_mem he
                have hfinds := hdelete ha e.line hmem hstarts
                rw [storedCallsigns_of_table ht hfile ⟨hm, hequals, hnewline⟩ hapart, hfind,
                  ← hkey] at hfinds
                dsimp only at hfinds
                rw [hvalue, pieces_terminate hcs] at hfinds
                exact keeps_delete hok hc hstarts hvalue hnodup hcs hfinds
            | deleteall => exact hkept (.inl rfl)
            | checkandadd => exact hkept (.inr rfl)
        · refine keeps_of_line ?_ rfl hok
          rw [updateLine.eq_def, if_pos hstarts, if_neg hall, if_neg hcurrent, if_neg hcall]
  · exact keeps_of_line (updateLine_of_other hstarts) rfl hok

/-- The lines that a call meeting the condition leaves are entries again. -/
theorem table_updateLines {call : FileCall} (ht : Table entries) (hfile : Holds file entries)
    (hm : call.systemMode ≠ []) (hs : Safe file call) (ha : call.action = some action) :
    ∃ entries', Table entries' ∧
      updateLines call.systemMode call.property call.value action (fileLines file) =
        entries'.map Entry.line := by
  obtain ⟨kept, hkept, hsub, hok⟩ :=
    exists_entries fun e he => keeps_of_safe ht hfile hm hs ha he
  have htable : Table kept := ⟨hok, hsub.nodup ht.keys⟩
  rw [updateLines, hfile.lines ht, hkept]
  split
  · exact ⟨kept, htable, List.append_nil _⟩
  · rename_i hfound
    have hvalid : call.property = callsign → action ≠ .deleteall → IsCallsign call.value :=
      fun h hne => (hs.2.2 h (by rw [ha]; simpa using hne)).1
    rcases exists_new hs.1 (fun h => (hs.2.1 h).1) hvalid with hnew | ⟨d, hnew, hkey, hdok⟩
    · exact ⟨kept, htable, by rw [hnew, List.append_nil]⟩
    · refine ⟨kept ++ [d], ⟨?_, ?_⟩, by rw [hnew, List.map_append, List.map_singleton]⟩
      · intro e he
        rcases List.mem_append.mp he with he | he
        · exact hok e he
        · rw [List.mem_singleton.mp he]
          exact hdok
      · rw [List.map_append, List.map_singleton, List.nodup_append]
        refine ⟨htable.keys, by simp, ?_⟩
        intro k hk k' hk'
        rw [List.mem_singleton.mp hk', hkey]
        rintro rfl
        obtain ⟨e, he, hekey⟩ := List.mem_map.mp (hsub.subset hk)
        exact hfound ⟨e.line, List.mem_map_of_mem he, Entry.prefix_line_of_eq hekey⟩

end

/-- What calls that meet the condition leave is a table of entries. -/
def Written (file : Option Text) : Prop := ∃ entries, Table entries ∧ Holds file entries

theorem written_nil : Written (some []) :=
  ⟨[], ⟨by simp, by simp⟩, .inr rfl⟩

theorem written_step {file' : Option Text} {call : FileCall} (hw : Written file)
    (hs : Safe file call) (h : fileStep file call = some file') : Written file' := by
  obtain ⟨entries, ht, hfile⟩ := hw
  obtain rfl := Option.some.inj h
  by_cases hempty : call.systemMode = [] ∨ call.property = []
  · rw [updateSystemModeFile.eq_def, if_pos hempty]
    exact ⟨entries, ht, hfile⟩
  · obtain ⟨hm, hp⟩ := not_or.mp hempty
    cases ha : call.action with
    | none =>
        rw [updateSystemModeFile.eq_def, if_neg hempty]
        exact ⟨entries, ht, hfile⟩
    | some action =>
        by_cases hwrites : call.io.writes = true
        · by_cases hcreates : file = none ∧ call.io.creates = false
          · rw [updateSystemModeFile.eq_def, if_neg hempty, hcreates.1]
            simp only [hcreates.2, Bool.false_eq_true, if_false]
            exact ⟨[], ⟨by simp, by simp⟩, .inl ⟨rfl, rfl⟩⟩
          · have heq : updateSystemModeFile call.io call.systemMode call.property call.value
                (some action) file = some (terminate '\n' (updateLines call.systemMode
                  call.property call.value action (fileLines file))) := by
              cases file with
              | none =>
                  have hio : call.io.creates = true := by simpa using hcreates
                  exact updateSystemModeFile_eq hm hp hio hwrites
              | some text =>
                  rw [updateSystemModeFile.eq_def, if_neg hempty]
                  simp only [rewriteFile, hwrites, if_true]
                  rfl
            obtain ⟨entries', ht', hentries⟩ := table_updateLines ht hfile hm hs ha
            refine ⟨entries', ht', .inr ?_⟩
            rw [heq, hentries]
        · cases file with
          | some text =>
              rw [updateSystemModeFile.eq_def, if_neg hempty]
              simp only [rewriteFile, hwrites, Bool.false_eq_true, if_false]
              exact ⟨entries, ht, hfile⟩
          | none =>
              rw [updateSystemModeFile.eq_def, if_neg hempty]
              simp only [rewriteFile, hwrites, Bool.false_eq_true, if_false]
              split
              · exact written_nil
              · exact ⟨entries, ht, hfile⟩

/-- In every content that calls meeting the condition have written: adding a callsign gives the
callsigns with it among them if and only if it occurs in their line as a stored one only, and
deleting it gives those without it if and only if it is found as a whole. -/
theorem callsigns_form_set_iff {start : Option Text} {calls : List FileCall}
    (hstart : start = none ∨ start = some []) (hC : Along fileStep Safe start calls)
    (hr : run fileStep start calls = some file) (hm : IsMode systemMode) (hc : IsCallsign c)
    (ha : Apart (searchKey systemMode callsign) (fileLines file)) :
    (storedCallsigns systemMode
        (updateSystemModeFile {} systemMode callsign c (some .add) file) =
        withCallsign c (storedCallsigns systemMode file) ↔ AddFinds systemMode c file) ∧
    (storedCallsigns systemMode
        (updateSystemModeFile {} systemMode callsign c (some .delete) file) =
        (storedCallsigns systemMode file).filter (· ≠ c) ↔ DeleteRight systemMode c file) := by
  have hwritten : Written start := by
    rcases hstart with rfl | rfl
    · exact ⟨[], ⟨by simp, by simp⟩, .inl ⟨rfl, rfl⟩⟩
    · exact written_nil
  obtain ⟨entries, ht, hfile⟩ :=
    run_invariant (fun _ _ _ hw hs h => written_step hw hs h) hwritten hC hr
  exact ⟨add_right_iff ht hfile hm ha hc, delete_right_iff ht hfile hm ha hc⟩

/-- A call that adds a callsign for DEVICE_OPTIMIZE. -/
def addCall (c : Text) : FileCall where
  systemMode := deviceOptimize
  property := callsign
  value := c
  action := some .add

/-- A second callsign that has nothing in common with the first one and the key. -/
theorem callsigns_form_set_two :
    ∃ file, run fileStep none [addCall ['x', 'y']] = some file ∧
      storedCallsigns deviceOptimize
        (updateSystemModeFile {} deviceOptimize callsign ['z'] (some .add) file) =
          withCallsign ['z'] (storedCallsigns deviceOptimize file) ∧
      storedCallsigns deviceOptimize
        (updateSystemModeFile {} deviceOptimize callsign ['x', 'y'] (some .delete) file) =
          (storedCallsigns deviceOptimize file).filter (· ≠ ['x', 'y']) := by
  have hr : run fileStep none [addCall ['x', 'y']] = some _ := rfl
  have hC : Along fileStep Safe none [addCall ['x', 'y']] := by decide
  refine ⟨_, hr, ?_, ?_⟩
  · exact (callsigns_form_set_iff (.inl rfl) hC hr (by decide) (by decide) (by decide)).1.mpr
      (by decide)
  · exact (callsigns_form_set_iff (.inl rfl) hC hr (by decide) (by decide) (by decide)).2.mpr
      (by decide)

/-- With `xy` stored, `x` cannot be added, and deleting it, which is not stored, loses `xy`. -/
theorem callsigns_overlap :
    ∃ file, run fileStep none [addCall ['x', 'y']] = some file ∧ IsCallsign ['x'] ∧
      storedCallsigns deviceOptimize file = [['x', 'y']] ∧
      storedCallsigns deviceOptimize
        (updateSystemModeFile {} deviceOptimize callsign ['x'] (some .add) file) ≠
          withCallsign ['x'] (storedCallsigns deviceOptimize file) ∧
      storedCallsigns deviceOptimize
        (updateSystemModeFile {} deviceOptimize callsign ['x'] (some .delete) file) ≠
          (storedCallsigns deviceOptimize file).filter (· ≠ ['x']) := by
  refine ⟨_, rfl, ?_, ?_, ?_, ?_⟩ <;> decide

end DeviceAndDisplay.SystemMode
