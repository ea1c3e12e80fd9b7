import DeviceAndDisplay.Verification.SystemMode.Pieces
import Mathlib.Data.List.Nodup

/-! # Entries of the system mode file

The file as a list of entries `key=value` with different keys, and what an update and a read do to
such a file. -/

namespace DeviceAndDisplay.SystemMode

open Storage

/-! ### Entries -/

structure Entry where
  key : Text
  value : Text
deriving DecidableEq, Repr

def Entry.line (e : Entry) : Text := e.key ++ '=' :: e.value

/-- The key is a key, the line is one line, and a callsign entry lists callsigns, none twice. -/
structure Entry.Ok (e : Entry) : Prop where
  key : '=' ∉ e.key
  key_line : '\n' ∉ e.key
  value_line : '\n' ∉ e.value
  callsigns : '_' :: callsign <:+ e.key →
    ∃ cs, e.value = terminate '|' cs ∧ cs.Nodup ∧ ∀ c ∈ cs, IsCallsign c

structure Table (entries : List Entry) : Prop where
  ok : ∀ e ∈ entries, e.Ok
  keys : (entries.map Entry.key).Nodup

/-- The file holds the entries. -/
def Holds (file : Option Text) (entries : List Entry) : Prop :=
  (file = none ∧ entries = []) ∨ file = some (terminate '\n' (entries.map Entry.line))

/-- The lines that are read. -/
def fileLines : Option Text → List Text
  | none => []
  | some text => readParts '\n' text

variable {entries : List Entry} {e : Entry} {file : Option Text} {key c : Text}

theorem Entry.Ok.newline (h : e.Ok) : '\n' ∉ e.line := by
  rw [Entry.line, List.mem_append, List.mem_cons, not_or, not_or]
  exact ⟨h.key_line, by decide, h.value_line⟩

theorem Entry.line_ne_nil (e : Entry) : e.line ≠ [] := by
  simp [Entry.line]

theorem Holds.lines (h : Holds file entries) (ht : Table entries) :
    fileLines file = entries.map Entry.line := by
  rcases h with ⟨rfl, rfl⟩ | rfl
  · rfl
  · apply readParts_terminate
    intro line hline
    obtain ⟨e, he, rfl⟩ := List.mem_map.mp hline
    exact (ht.ok e he).newline

theorem Entry.prefix_line (hk : '=' ∉ key) (h : key <+: e.line) : key <+: e.key :=
  prefix_append_cons hk h

theorem Entry.prefix_line_of_eq (h : e.key = key) : key <+: e.line := by
  rw [← h]
  exact List.prefix_append e.key _

/-- A line that starts with the key and `=` is the line of that key. -/
theorem Entry.key_eq (hk : '=' ∉ key) (he : '=' ∉ e.key) (h : key ++ ['='] <+: e.line) :
    e.key = key := by
  have hstarts : key <+: e.line := (List.prefix_append key ['=']).trans h
  obtain ⟨rest, hrest⟩ := Entry.prefix_line hk hstarts
  rw [Entry.line, ← hrest, List.append_assoc, List.prefix_append_right_inj] at h
  cases rest with
  | nil => rw [← hrest, List.append_nil]
  | cons x rest =>
      have hx : '=' = x := (List.cons_prefix_cons.mp h).1
      rw [← hrest, ← hx] at he
      simp at he

/-! ### Reading a line -/

theorem Entry.lineValue_line (h : '=' ∉ e.key) : lineValue e.line = some e.value := by
  rw [lineValue, Entry.line, find_separator h]
  simp

theorem lineValue_of_not_mem {line : Text} (h : '=' ∉ line) : lineValue line = none := by
  rw [lineValue, find_separator_eq_none h]

/-- What a line gives to a reader of the key. -/
def readLine (key line : Text) : Option Text := if key <+: line then lineValue line else none

theorem readLine_nil (key : Text) : readLine key [] = none := by
  unfold readLine
  split <;> rfl

theorem Entry.readLine_line (he : '=' ∉ e.key) (h : e.key = key) :
    readLine key e.line = some e.value := by
  rw [readLine, if_pos (Entry.prefix_line_of_eq h), Entry.lineValue_line he]

/-! ### The entry of a key -/

/-- The lines that start with the key are lines of that key. -/
def Apart (key : Text) (lines : List Text) : Prop :=
  ∀ line ∈ lines, key <+: line → key ++ ['='] <+: line

instance (key : Text) (lines : List Text) : Decidable (Apart key lines) :=
  inferInstanceAs (Decidable (∀ line ∈ lines, _))

theorem Apart.key_eq (h : Apart key (entries.map Entry.line)) (ht : Table entries)
    (hk : '=' ∉ key) (he : e ∈ entries) (hstarts : key <+: e.line) : e.key = key :=
  Entry.key_eq hk (ht.ok e he).key (h e.line (List.mem_map_of_mem he) hstarts)

/-- Only the entry of the key contributes to a search that passes over the others. -/
theorem Table.findSome_eq_bind {β : Type*} (ht : Table entries) {F : Entry → Option β}
    (hF : ∀ e ∈ entries, e.key ≠ key → F e = none) :
    entries.findSome? F = (entries.find? fun e => e.key = key).bind F := by
  have hkeys := ht.keys
  clear ht
  induction entries with
  | nil => rfl
  | cons e entries ih =>
      rw [List.map_cons, List.nodup_cons] at hkeys
      have hrest : ∀ d ∈ entries, d.key ≠ key → F d = none :=
        fun d hd => hF d (List.mem_cons_of_mem e hd)
      by_cases he : e.key = key
      · have hnone : entries.findSome? F = none := by
          rw [List.findSome?_eq_none_iff]
          intro d hd
          apply hrest d hd
          intro hkey
          exact hkeys.1 (List.mem_map.mpr ⟨d, hd, hkey.trans he.symm⟩)
        rw [List.findSome?_cons, List.find?_cons_of_pos (by simpa using he), hnone]
        cases hFe : F e <;> simp [hFe]
      · rw [List.findSome?_cons, hF e List.mem_cons_self he,
          List.find?_cons_of_neg (by simpa using he)]
        exact ih hrest hkeys.2

theorem find_key_eq_none_iff :
    (entries.find? fun e => e.key = key) = none ↔ ∀ e ∈ entries, e.key ≠ key := by
  simp

theorem find_key_some {e : Entry} (h : (entries.find? fun e => e.key = key) = some e) :
    e ∈ entries ∧ e.key = key := by
  refine ⟨List.mem_of_find?_eq_some h, ?_⟩
  have hkey := List.find?_some h
  simpa using hkey

theorem Table.find_key (ht : Table entries) (he : e ∈ entries) (hkey : e.key = key) :
    (entries.find? fun d => d.key = key) = some e := by
  cases hfind : entries.find? fun d => d.key = key with
  | none => exact absurd hkey (find_key_eq_none_iff.mp hfind e he)
  | some d =>
      obtain ⟨hd, hdkey⟩ := find_key_some hfind
      rw [List.inj_on_of_nodup_map ht.keys hd he (hdkey.trans hkey.symm)]

/-- The first line that gives a value is read. -/
theorem getSystemModePropertyValue_eq {systemMode property : Text} (hmode : systemMode ≠ [])
    (hproperty : property ≠ []) (file : Option Text) :
    getSystemModePropertyValue systemMode property file =
      (fileLines file).findSome? (readLine (searchKey systemMode property)) := by
  unfold getSystemModePropertyValue
  rw [if_neg (not_or.mpr ⟨hmode, hproperty⟩)]
  cases file <;> rfl

theorem storedCallsigns_eq {systemMode : Text} (hmode : systemMode ≠ [])
    (file : Option Text) :
    storedCallsigns systemMode file =
      match (fileLines file).findSome? (readLine (searchKey systemMode callsign)) with
      | none => []
      | some value => pieces value := by
  rw [storedCallsigns, getSystemModePropertyValue_eq hmode (by decide)]
  rfl

end DeviceAndDisplay.SystemMode
