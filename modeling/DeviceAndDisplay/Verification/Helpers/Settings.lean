import DeviceAndDisplay.Model.Helpers.Settings
import DeviceAndDisplay.Transition.Run
import Mathlib.Data.List.TakeWhile

/-! # cSettings survives its file

What is read back from the file, and for which stores it is what was stored: those with no `=` in
a value. -/

namespace DeviceAndDisplay.Helpers

open Storage Transition

variable {J : Type*} {O : JsonObject J} {s s' : Settings J}

/-! ### Labels -/

theorem mem_of_mem_cStr {c : Char} {text : Text} (h : c ∈ cStr text) : c ∈ text :=
  (List.takeWhile_sublist _).subset h

theorem nul_not_mem_cStr (text : Text) : '\x00' ∉ cStr text := by
  intro h
  simpa using List.mem_takeWhile_imp h

theorem cStr_eq_self {text : Text} (h : '\x00' ∉ text) : cStr text = text := by
  rw [cStr, List.takeWhile_eq_self_iff]
  intro c hc
  simpa using ne_of_mem_of_not_mem hc h

namespace Settings

/-- A new store from the same file has the same keys and values. -/
structure RoundTrips (O : JsonObject J) (s : Settings J) : Prop where
  contains : ∀ key, (cSettings O {} s.file).contains O key = s.contains O key
  getValue : ∀ key, s.contains O key = true →
    (cSettings O {} s.file).getValue O key = s.getValue O key
  keys : ∀ label ∈ O.keys (cSettings O {} s.file).data, label ∈ O.keys s.data

/-- What the lines and the labels of a file allow. -/
def Clean (O : JsonObject J) (data : J) : Prop :=
  ∀ label value, O.get data label = some value →
    '\n' ∉ label ∧ '\x00' ∉ label ∧ '\n' ∉ value

/-- No value contains the separator of key and value. -/
def SeparatorFree (O : JsonObject J) (data : J) : Prop :=
  ∀ label value, O.get data label = some value → '=' ∉ value

/-- The key is free of newlines and `=`, the value of newlines. -/
def PlainCall : SettingsCall → Prop
  | .setValue key value => '\n' ∉ key ∧ '=' ∉ key ∧ '\n' ∉ value
  | .remove key => '\n' ∉ key ∧ '=' ∉ key

instance : ∀ call, Decidable (PlainCall call)
  | .setValue _ _ => inferInstanceAs (Decidable (_ ∧ _ ∧ _))
  | .remove _ => inferInstanceAs (Decidable (_ ∧ _))

theorem separatorFree_iff (hO : O.Lawful) {data : J} :
    SeparatorFree O data ↔ ∀ entry ∈ O.entries data, '=' ∉ entry.2 := by
  constructor
  · intro h entry hentry
    exact h entry.1 entry.2 ((Table.mem_entries hO).mp hentry)
  · intro h label value hget
    exact h (label, value) ((Table.mem_entries hO).mpr hget)

/-! ### Reading a file -/

/-- What a line sets. -/
def readEntry (content : Text) : Option (Text × Text) :=
  (splitLast '=' content).map fun entry => (cStr entry.1, entry.2)

theorem readLines_eq (data : J) (text : Text) :
    readLines O data text = O.setAll data ((readParts '\n' text).filterMap readEntry) := by
  rw [readLines]
  generalize readParts '\n' text = lines
  induction lines generalizing data with
  | nil => rfl
  | cons line lines ih =>
      rw [List.foldl_cons, ih, List.filterMap_cons, readLine, readEntry]
      cases splitLast '=' line with
      | none => rfl
      | some entry => rfl

theorem readEntry_entryLine {entry : Text × Text} (hkey : '\x00' ∉ entry.1)
    (hvalue : '=' ∉ entry.2) : readEntry (entryLine entry) = some entry := by
  rw [readEntry, entryLine, splitLast_append hvalue, Option.map_some, cStr_eq_self hkey]

/-- A line whose value contains the separator gives a longer key. -/
theorem length_lt_of_readEntry {entry entry' : Text × Text} (hkey : '\x00' ∉ entry.1)
    (hvalue : '=' ∈ entry.2) (h : readEntry (entryLine entry) = some entry') :
    entry.1.length < entry'.1.length := by
  obtain ⟨before, after, hsplit, hafter⟩ := exists_splitLast hvalue
  have hline : entryLine entry = (entry.1 ++ '=' :: before) ++ '=' :: after := by
    rw [entryLine, hsplit]
    simp
  rw [readEntry, hline, splitLast_append hafter, Option.map_some, Option.some.injEq] at h
  have hcStr : cStr (entry.1 ++ '=' :: before) = entry.1 ++ '=' :: cStr before := by
    rw [cStr, List.takeWhile_append_of_pos]
    · rfl
    · intro c hc
      simpa using ne_of_mem_of_not_mem hc hkey
  rw [← h, hcStr, List.length_append, List.length_cons]
  omega

/-- What a file holds can be written and read back. -/
theorem readLines_clean (hO : O.Lawful) (text : Text) :
    Clean O (readLines O O.empty text) ∧ SeparatorFree O (readLines O O.empty text) := by
  have hentry : ∀ label value, O.get (readLines O O.empty text) label = some value →
      ('\n' ∉ label ∧ '\x00' ∉ label ∧ '\n' ∉ value) ∧ '=' ∉ value := by
    intro label value h
    rw [readLines_eq] at h
    obtain ⟨line, hline, hread⟩ := List.mem_filterMap.mp (Table.mem_of_get_setAll hO h)
    obtain ⟨entry, hsplit, heq⟩ := Option.map_eq_some_iff.mp hread
    cases heq
    obtain ⟨rfl, hvalue⟩ := splitLast_eq_some hsplit
    have hnewline := not_mem_of_mem_readParts hline
    rw [List.mem_append, List.mem_cons, not_or, not_or] at hnewline
    refine ⟨⟨?_, nul_not_mem_cStr _, hnewline.2.2⟩, hvalue⟩
    intro hmem
    exact hnewline.1 (mem_of_mem_cStr hmem)
  exact ⟨fun label value h => (hentry label value h).1,
    fun label value h => (hentry label value h).2⟩

/-! ### Calls -/

theorem clean_set (hO : O.Lawful) {data : J} (hs : Clean O data) {key value : Text}
    (hkey : '\n' ∉ key) (hvalue : '\n' ∉ value) : Clean O (O.set data (cStr key) value) := by
  intro label value' h
  by_cases hlabel : label = cStr key
  · rw [hlabel, hO.get_set_self, Option.some.injEq] at h
    rw [hlabel, ← h]
    refine ⟨?_, nul_not_mem_cStr key, hvalue⟩
    intro hmem
    exact hkey (mem_of_mem_cStr hmem)
  · rw [hO.get_set_ne _ _ _ _ hlabel] at h
    exact hs label value' h

theorem separatorFree_set (hO : O.Lawful) {data : J} (hs : SeparatorFree O data)
    {label value : Text} (hvalue : '=' ∉ value) : SeparatorFree O (O.set data label value) := by
  intro label' value' h
  by_cases hlabel : label' = label
  · rw [hlabel, hO.get_set_self, Option.some.injEq] at h
    rw [← h]
    exact hvalue
  · rw [hO.get_set_ne _ _ _ _ hlabel] at h
    exact hs label' value' h

theorem clean_remove (hO : O.Lawful) {data : J} (hs : Clean O data) (label : Text) :
    Clean O (O.remove data label) := by
  intro label' value h
  by_cases hlabel : label' = label
  · rcases hO.get_remove_self data label with hnone | hkept
    · rw [hlabel, hnone] at h
      cases h
    · rw [hlabel, hkept, ← hlabel] at h
      exact hs label' value h
  · rw [hO.get_remove_ne _ _ _ hlabel] at h
    exact hs label' value h

/-- A removed key has no value, whatever `Remove` does. -/
theorem contains_remove (hO : O.Lawful) (data : J) (file : Option Text) (key : Text) :
    contains O { data := O.remove (O.set data (cStr key) []) (cStr key), file := file } key =
      false := by
  rcases hO.get_remove_self (O.set data (cStr key) []) (cStr key) with h | h
  · simp [contains, h]
  · simp [contains, h, hO.get_set_self]

/-- The file exists, and it holds the store, or it is what the store was read from. -/
structure Stored (O : JsonObject J) (s : Settings J) : Prop where
  clean : Clean O s.data
  file : s.file = some (written O s.data) ∨
    SeparatorFree O s.data ∧ ∃ text, s.file = some text ∧ s.data = readLines O O.empty text

theorem stored_cSettings (hO : O.Lawful) (file : Option Text) :
    (cSettings O {} file).Stored O := by
  cases file with
  | none =>
      have hclean := readLines_clean hO ([] : Text)
      exact ⟨hclean.1, .inr ⟨hclean.2, [], rfl, rfl⟩⟩
  | some text =>
      have hclean := readLines_clean hO text
      exact ⟨hclean.1, .inr ⟨hclean.2, text, rfl, rfl⟩⟩

theorem Stored.exists_file (hs : s.Stored O) : ∃ text, s.file = some text := by
  rcases hs.file with h | ⟨_, text, h, _⟩
  · exact ⟨_, h⟩
  · exact ⟨text, h⟩

theorem stored_step (hO : O.Lawful) {call : SettingsCall} (hs : s.Stored O)
    (hcall : PlainCall call) (h : settingsStep O s call = some s') : s'.Stored O := by
  obtain ⟨text, hfile⟩ := hs.exists_file
  cases call with
  | setValue key value =>
      cases h
      simp only [setValue, writeToFile, hfile]
      exact ⟨clean_set hO hs.clean hcall.1 hcall.2.2, .inl rfl⟩
  | remove key =>
      cases h
      simp only [remove, contains_remove hO, writeToFile, hfile]
      refine ⟨?_, .inl rfl⟩
      exact clean_remove hO (clean_set hO hs.clean hcall.1 (List.not_mem_nil)) (cStr key)

/-! ### Reading what was written -/

theorem readParts_written (hO : O.Lawful) {data : J} (hs : Clean O data) :
    readParts '\n' (written O data) =
      ((O.entries data).filter fun entry => entry.2 ≠ []).map entryLine := by
  apply readParts_terminate
  intro line hline
  obtain ⟨entry, hentry, rfl⟩ := List.mem_map.mp hline
  obtain ⟨hkey, _, hvalue⟩ :=
    hs entry.1 entry.2 ((Table.mem_entries hO).mp (List.mem_of_mem_filter hentry))
  simp [entryLine, hkey, hvalue]

theorem readLines_written (hO : O.Lawful) {data : J} (hs : Clean O data)
    (hfree : SeparatorFree O data) :
    readLines O O.empty (written O data) =
      O.setAll O.empty ((O.entries data).filter fun entry => entry.2 ≠ []) := by
  rw [readLines_eq, readParts_written hO hs, List.filterMap_map]
  congr 1
  rw [List.filterMap_congr (g := some), List.filterMap_some]
  intro entry hentry
  have hget := (Table.mem_entries hO).mp (List.mem_of_mem_filter hentry)
  exact readEntry_entryLine (hs _ _ hget).2.1 (hfree _ _ hget)

/-- The values that are not empty are read back, and nothing else. -/
theorem get_readLines_written (hO : O.Lawful) {data : J} (hs : Clean O data)
    (hfree : SeparatorFree O data) (label : Text) :
    O.get (readLines O O.empty (written O data)) label = (O.get data label).filter (· ≠ []) := by
  rw [readLines_written hO hs hfree]
  have hnodup : (((O.entries data).filter fun entry => entry.2 ≠ []).map Prod.fst).Nodup := by
    refine List.Nodup.sublist ((List.filter_sublist).map Prod.fst) ?_
    rw [Table.keys_entries hO]
    exact hO.nodup_keys data
  rw [Option.ext_iff]
  intro value
  rw [Option.filter_eq_some_iff]
  constructor
  · intro h
    have hmem := List.mem_filter.mp (Table.mem_of_get_setAll hO h)
    exact ⟨(Table.mem_entries hO).mp hmem.1, hmem.2⟩
  · rintro ⟨hget, hne⟩
    apply Table.get_setAll_of_mem hO hnodup
    exact List.mem_filter.mpr ⟨(Table.mem_entries hO).mpr hget, hne⟩

/-! ### Round trips -/

theorem contains_eq (key : Text) :
    s.contains O key = ((O.get s.data (cStr key)).filter (· ≠ [])).isSome := by
  rw [contains]
  cases O.get s.data (cStr key) with
  | none => rfl
  | some value => cases value <;> rfl

/-- The new store has exactly the values of the old one that are not empty. -/
theorem roundTrips_of_get (hO : O.Lawful)
    (h : ∀ label, O.get (cSettings O {} s.file).data label =
      (O.get s.data label).filter (· ≠ [])) : s.RoundTrips O where
  contains key := by
    rw [contains_eq, contains_eq, h, Option.filter_filter]
    simp
  getValue key hkey := by
    rw [contains_eq] at hkey
    rw [getValue, getValue, h]
    cases hget : O.get s.data (cStr key) with
    | none => rfl
    | some value =>
        rw [hget] at hkey
        have hne : value ≠ [] := by simpa using hkey
        simp [Option.filter_some, hne]
  keys label hlabel := by
    have hsome := (hO.mem_keys _ _).mp hlabel
    rw [h] at hsome
    obtain ⟨value, hvalue⟩ := Option.isSome_iff_exists.mp hsome
    rw [hO.mem_keys, (Option.filter_eq_some_iff.mp hvalue).1]
    rfl

theorem cSettings_data {text : Text} (h : s.file = some text) :
    (cSettings O {} s.file).data = readLines O O.empty text := by
  rw [h]
  rfl

theorem roundTrips_of_separatorFree (hO : O.Lawful) (hs : s.Stored O)
    (hfree : SeparatorFree O s.data) : s.RoundTrips O := by
  rcases hs.file with hfile | ⟨_, text, hfile, hdata⟩
  · apply roundTrips_of_get hO
    intro label
    rw [cSettings_data hfile]
    exact get_readLines_written hO hs.clean hfree label
  · have hsame : (cSettings O {} s.file).data = s.data := (cSettings_data hfile).trans hdata.symm
    refine ⟨fun key => ?_, fun key _ => ?_, fun label hlabel => ?_⟩
    · rw [contains, contains, hsame]
    · rw [getValue, getValue, hsame]
    · rwa [hsame] at hlabel

/-- The shortest key whose value contains the separator is not read back. -/
theorem separatorFree_of_roundTrips (hO : O.Lawful) (hs : Clean O s.data)
    (hfile : s.file = some (written O s.data)) (h : s.RoundTrips O) :
    SeparatorFree O s.data := by
  intro label value hget hvalue
  induction hlen : label.length using Nat.strong_induction_on generalizing label value with
  | _ n ih =>
    have hcontains := h.contains label
    have hne : value ≠ [] := List.ne_nil_of_mem hvalue
    have hlabel := cStr_eq_self (hs label value hget).2.1
    rw [contains_eq, contains_eq, hlabel, hget, cSettings_data hfile] at hcontains
    have hsome : ((some value).filter (· ≠ [])).isSome = true := by
      simp [Option.filter_some, hne]
    obtain ⟨value', hvalue'⟩ := Option.isSome_iff_exists.mp (hcontains.trans hsome)
    have hread := (Option.filter_eq_some_iff.mp hvalue').1
    rw [readLines_eq, readParts_written hO hs] at hread
    obtain ⟨line, hline, hentry⟩ := List.mem_filterMap.mp (Table.mem_of_get_setAll hO hread)
    obtain ⟨entry, hmem, rfl⟩ := List.mem_map.mp hline
    have hget' := (Table.mem_entries hO).mp (List.mem_of_mem_filter hmem)
    have hclean := hs entry.1 entry.2 hget'
    by_cases hsep : '=' ∈ entry.2
    · have hlt := length_lt_of_readEntry hclean.2.1 hsep hentry
      exact ih entry.1.length (hlen ▸ hlt) entry.1 entry.2 hget' hsep rfl
    · rw [readEntry_entryLine hclean.2.1 hsep, Option.some.injEq] at hentry
      rw [hentry, hget, Option.some.injEq] at hget'
      rw [hentry, ← hget'] at hsep
      exact hsep hvalue

/-- A store survives its file exactly if no value contains `=`. -/
theorem settings_round_trip_iff (hO : O.Lawful) (file : Option Text) {calls : List SettingsCall}
    (hcalls : ∀ call ∈ calls, PlainCall call)
    (hr : run (settingsStep O) (cSettings O {} file) calls = some s) :
    s.RoundTrips O ↔ SeparatorFree O s.data := by
  have hs : s.Stored O := by
    refine run_invariant (C := fun _ call => PlainCall call) ?_ (stored_cSettings hO file)
      (along_of_forall fun a ha _ => hcalls a ha) hr
    intro s call s' hs hcall h
    exact stored_step hO hs hcall h
  constructor
  · intro h
    rcases hs.file with hfile | ⟨hfree, _⟩
    · exact separatorFree_of_roundTrips hO hs.clean hfile h
    · exact hfree
  · intro hfree
    exact roundTrips_of_separatorFree hO hs hfree

/-- A JSON object given by an association list. -/
abbrev assocObject : JsonObject (AssocList Text Text) := AssocList.table Text Text

theorem settings_round_trip_mode :
    ∃ s, run (settingsStep assocObject) (cSettings assocObject {} none)
        [.setValue ['m', 'o', 'd', 'e'] ['E', 'A', 'S'], .setValue ['x'] ['1'], .remove ['x']] =
          some s ∧ s.RoundTrips assocObject := by
  have hr : run (settingsStep assocObject) (cSettings assocObject {} none)
      [.setValue ['m', 'o', 'd', 'e'] ['E', 'A', 'S'], .setValue ['x'] ['1'], .remove ['x']] =
        some _ := rfl
  refine ⟨_, hr, (settings_round_trip_iff AssocList.table_lawful none (by decide) hr).mpr ?_⟩
  rw [separatorFree_iff AssocList.table_lawful]
  decide

/-- The value `a=b` of the key `k` is read back as the value `b` of the key `k=a`. -/
theorem settings_not_round_trip :
    ∃ s, run (settingsStep assocObject) (cSettings assocObject {} none)
        [.setValue ['k'] ['a', '=', 'b']] = some s ∧ ¬ s.RoundTrips assocObject := by
  refine ⟨_, rfl, fun h => ?_⟩
  have hcontains := h.contains ['k']
  exact absurd hcontains (by decide)

end Settings

end DeviceAndDisplay.Helpers
