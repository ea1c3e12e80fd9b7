import DeviceAndDisplay.Model.SystemServices.PlatformCaps
import DeviceAndDisplay.Storage.Selection
import Mathlib.Data.List.TakeWhile

/-! # The device properties of the two files

Each line names a key, and the last line that names a key decides about its value. A line without
`=` names itself, and is its own value. -/

namespace DeviceAndDisplay.SystemServices

open Helpers Storage

/-- The lines of a properties file. -/
def propertyLines (file : Option Text) : List Text := (file.map (readParts '\n')).getD []

/-- A key that a line can have before a `=`. -/
def IsKey (key : Text) : Prop := key ≠ [] ∧ '=' ∉ key

/-- The line gives the key a value. -/
def Assigns (key line : Text) : Prop := ∃ value, line = key ++ '=' :: value

/-- The value of the last line that gives the key one. -/
def FileProperty (file : Option Text) (key value : Text) : Prop :=
  IsKey key ∧ IsLast (Assigns key) (propertyLines file) (key ++ '=' :: value)

/-- The first file wins. -/
def DeviceProperty (env : CapsEnv) (key value : Text) : Prop :=
  FileProperty env.deviceRunXREProperties key value ∨
    (∀ other, ¬ FileProperty env.deviceRunXREProperties key other) ∧
      FileProperty env.deviceProperties key value

/-- The properties of the call that reads them are those of the files. -/
def PropertiesOfFiles (env : CapsEnv) : Prop :=
  ∀ key value, (getDeviceProperties env false).1 key = some value ↔ DeviceProperty env key value

/-! ### Lines that name a key -/

/-- The line gives the key a value, or is the key. -/
def NamesKey (key line : Text) : Prop := line = key ∨ Assigns key line

theorem namesKey_iff {key : Text} (hkey : IsKey key) (line : Text) :
    NamesKey key line ↔ line.takeWhile (· ≠ '=') = key := by
  constructor
  · rintro (rfl | ⟨value, rfl⟩)
    · exact List.takeWhile_eq_self_iff.mpr fun c hc => by
        simpa using fun heq : c = '=' => hkey.2 (heq ▸ hc)
    · rw [List.takeWhile_append_of_pos fun c hc => by
        simpa using fun heq : c = '=' => hkey.2 (heq ▸ hc)]
      simp
  · rintro rfl
    cases hrest : line.dropWhile (· ≠ '=') with
    | nil =>
        left
        conv_lhs => rw [← List.takeWhile_append_dropWhile (p := (· ≠ '=')) (l := line), hrest]
        exact List.append_nil _
    | cons c rest =>
        right
        have hc : c = '=' := by
          have hhead := List.head?_dropWhile_not (· ≠ '=') line
          rw [hrest] at hhead
          simpa using hhead
        refine ⟨rest, ?_⟩
        conv_lhs => rw [← List.takeWhile_append_dropWhile (p := (· ≠ '=')) (l := line), hrest, hc]

/-- What a line that names the key makes of its value. -/
def namedValue (key line : Text) : Text := if line = key then key else line.drop (key.length + 1)

theorem namedValue_self (key : Text) : namedValue key key = key := if_pos rfl

theorem namedValue_append (key value : Text) : namedValue key (key ++ '=' :: value) = value := by
  have hne : key ++ '=' :: value ≠ key := by simp
  rw [namedValue, if_neg hne, ← List.drop_drop, List.drop_left]
  rfl

theorem addProperty_apply (result : StringMap Text) (line : Text) {key : Text}
    (hkey : IsKey key) [Decidable (NamesKey key line)] :
    addProperty result line key =
      if NamesKey key line then some (namedValue key line) else result key := by
  unfold addProperty
  by_cases hnames : NamesKey key line
  · have htake := (namesKey_iff hkey line).mp hnames
    rw [htake, if_neg hkey.1, if_pos hnames, StringMap.assign, Function.update_self]
    rcases hnames with rfl | ⟨value, rfl⟩
    · rw [if_neg hkey.2, namedValue_self]
    · rw [namedValue_append, if_pos (by simp), ← List.drop_drop, List.drop_left]
      rfl
  · have htake := (namesKey_iff hkey line).not.mp hnames
    rw [if_neg hnames]
    split
    · rfl
    · exact Function.update_of_ne (Ne.symm htake) ..

theorem addProperty_of_not_isKey (result : StringMap Text) (line : Text) {key : Text}
    (hkey : ¬ IsKey key) : addProperty result line key = result key := by
  unfold addProperty
  split
  · rfl
  · rename_i hne
    refine Function.update_of_ne (fun heq => hkey ?_) ..
    rw [heq]
    refine ⟨hne, fun hmem => ?_⟩
    simpa using List.mem_takeWhile_imp hmem

/-! ### Files -/

theorem foldl_addProperty_of_not_isKey {key : Text} (hkey : ¬ IsKey key)
    (result : StringMap Text) (lines : List Text) :
    lines.foldl addProperty result key = result key := by
  induction lines generalizing result with
  | nil => rfl
  | cons line lines ih =>
      rw [List.foldl_cons, ih, addProperty_of_not_isKey result line hkey]

theorem foldl_addProperty_eq_some_iff {key : Text} (hkey : IsKey key) (lines : List Text)
    (value : Text) :
    lines.foldl addProperty StringMap.empty key = some value ↔
      ∃ line, IsLast (NamesKey key) lines line ∧ namedValue key line = value := by
  classical
  induction lines using List.reverseRecOn with
  | nil =>
      refine iff_of_false (fun h => by cases h) ?_
      rintro ⟨line, hline, _⟩
      exact not_isLast_nil hline
  | append_singleton lines line ih =>
      rw [List.foldl_append, List.foldl_cons, List.foldl_nil, addProperty_apply _ line hkey]
      simp only [isLast_append_singleton]
      by_cases hnames : NamesKey key line
      · simp [hnames]
      · simp [hnames, ih]

theorem getProperties_eq_some_iff {file : Option Text} {key : Text} (hkey : IsKey key)
    (value : Text) :
    getProperties file key = some value ↔
      ∃ line, IsLast (NamesKey key) (propertyLines file) line ∧ namedValue key line = value :=
  foldl_addProperty_eq_some_iff hkey _ value

theorem getProperties_of_not_isKey {file : Option Text} {key : Text} (hkey : ¬ IsKey key) :
    getProperties file key = none :=
  foldl_addProperty_of_not_isKey hkey _ _

theorem FileProperty.unique {file : Option Text} {key value other : Text}
    (h : FileProperty file key value) (h' : FileProperty file key other) : value = other := by
  have hline := h.2.unique h'.2
  exact (List.cons.inj (List.append_cancel_left hline)).2

theorem DeviceProperty.unique {env : CapsEnv} {key value other : Text}
    (h : DeviceProperty env key value) (h' : DeviceProperty env key other) : value = other := by
  rcases h with h | ⟨hnone, h⟩
  · rcases h' with h' | ⟨hnone', _⟩
    · exact h.unique h'
    · exact absurd h (hnone' value)
  · rcases h' with h' | ⟨_, h'⟩
    · exact absurd h' (hnone other)
    · exact h.unique h'

/-! ### Lines without `=` -/

/-- The line that decides about the key, in the first file that has one, is the key itself. -/
def IsBare (env : CapsEnv) (key : Text) : Prop :=
  IsKey key ∧
    (IsLast (NamesKey key) (propertyLines env.deviceRunXREProperties) key ∨
      (∀ line ∈ propertyLines env.deviceRunXREProperties, ¬ NamesKey key line) ∧
        IsLast (NamesKey key) (propertyLines env.deviceProperties) key)

/-- If such a line decides, the lines with a value give the key itself as its value. -/
def BareLinesAgree (env : CapsEnv) : Prop := ∀ key, IsBare env key → DeviceProperty env key key

section Files

variable {file : Option Text} {key value : Text}

/-- The line that decides is the key, or it gives the value that it should. -/
theorem fileProperty_cases (hkey : IsKey key) (hnamed : getProperties file key = some value) :
    IsLast (NamesKey key) (propertyLines file) key ∧ value = key ∨
      FileProperty file key value := by
  obtain ⟨line, hlast, hvalue⟩ := (getProperties_eq_some_iff hkey value).mp hnamed
  rcases hlast.holds with rfl | ⟨given, rfl⟩
  · exact .inl ⟨hlast, hvalue.symm.trans (namedValue_self line)⟩
  · rw [namedValue_append] at hvalue
    subst hvalue
    exact .inr ⟨hkey, hlast.of_imp (fun _ => Or.inr) ⟨given, rfl⟩⟩

theorem getProperties_eq_none_iff (hkey : IsKey key) :
    getProperties file key = none ↔ ∀ line ∈ propertyLines file, ¬ NamesKey key line := by
  constructor
  · intro hnone line hline hnames
    obtain ⟨last, hlast⟩ := exists_isLast hline hnames
    have hsome := (getProperties_eq_some_iff hkey _).mpr ⟨last, hlast, rfl⟩
    rw [hnone] at hsome
    cases hsome
  · intro hnames
    by_contra hsome
    obtain ⟨value, hvalue⟩ := Option.ne_none_iff_exists'.mp hsome
    obtain ⟨line, hlast, _⟩ := (getProperties_eq_some_iff hkey value).mp hvalue
    exact hnames line hlast.mem hlast.holds

theorem not_fileProperty (hkey : IsKey key) (hnone : getProperties file key = none)
    (other : Text) : ¬ FileProperty file key other := by
  intro h
  exact (getProperties_eq_none_iff hkey).mp hnone _ h.2.mem (.inr ⟨other, rfl⟩)

theorem getProperties_of_isLast (hkey : IsKey key)
    (h : IsLast (NamesKey key) (propertyLines file) key) : getProperties file key = some key :=
  (getProperties_eq_some_iff hkey key).mpr ⟨key, h, namedValue_self key⟩

end Files

theorem getDeviceProperties_apply (env : CapsEnv) (key : Text) :
    (getDeviceProperties env false).1 key =
      (getProperties env.deviceRunXREProperties key).or
        (getProperties env.deviceProperties key) := rfl

/-- The value of a key with such a line is the key. -/
theorem getDeviceProperties_of_isBare {env : CapsEnv} {key : Text} (h : IsBare env key) :
    (getDeviceProperties env false).1 key = some key := by
  rw [getDeviceProperties_apply]
  obtain ⟨hkey, hlast | ⟨hnone, hlast⟩⟩ := h
  · rw [getProperties_of_isLast hkey hlast]
    rfl
  · rw [(getProperties_eq_none_iff hkey).mpr hnone, getProperties_of_isLast hkey hlast]
    rfl

/-- All other values are those of the lines with `=`. -/
theorem isBare_or_deviceProperty {env : CapsEnv} {key value : Text} (hkey : IsKey key)
    (h : (getDeviceProperties env false).1 key = some value) :
    IsBare env key ∧ value = key ∨ DeviceProperty env key value := by
  rw [getDeviceProperties_apply] at h
  rcases Option.or_eq_some_iff.mp h with hfirst | ⟨hnone, hsecond⟩
  · rcases fileProperty_cases hkey hfirst with ⟨hlast, hvalue⟩ | hproperty
    · exact .inl ⟨⟨hkey, .inl hlast⟩, hvalue⟩
    · exact .inr (.inl hproperty)
  · have hlines := (getProperties_eq_none_iff hkey).mp hnone
    rcases fileProperty_cases hkey hsecond with ⟨hlast, hvalue⟩ | hproperty
    · exact .inl ⟨⟨hkey, .inr ⟨hlines, hlast⟩⟩, hvalue⟩
    · exact .inr (.inr ⟨not_fileProperty hkey hnone, hproperty⟩)

theorem propertiesOfFiles_iff (env : CapsEnv) : PropertiesOfFiles env ↔ BareLinesAgree env := by
  constructor
  · intro h key hbare
    exact (h key key).mp (getDeviceProperties_of_isBare hbare)
  · intro h key value
    constructor
    · intro hvalue
      by_cases hkey : IsKey key
      · rcases isBare_or_deviceProperty hkey hvalue with ⟨hbare, rfl⟩ | hproperty
        · exact h value hbare
        · exact hproperty
      · rw [getDeviceProperties_apply, getProperties_of_not_isKey hkey,
          getProperties_of_not_isKey hkey] at hvalue
        cases hvalue
    · intro hproperty
      have hkey : IsKey key := by
        rcases hproperty with hfirst | ⟨_, hsecond⟩
        · exact hfirst.1
        · exact hsecond.1
      cases hnamed : (getDeviceProperties env false).1 key with
      | some named =>
          rcases isBare_or_deviceProperty hkey hnamed with ⟨hbare, rfl⟩ | hnamed'
          · rw [(h named hbare).unique hproperty]
          · rw [hnamed'.unique hproperty]
      | none =>
          rw [getDeviceProperties_apply, Option.or_eq_none_iff] at hnamed
          rcases hproperty with hfirst | ⟨_, hsecond⟩
          · exact absurd hfirst (not_fileProperty hkey hnamed.1 value)
          · exact absurd hsecond (not_fileProperty hkey hnamed.2 value)

/-- A line without `=` defines a key. -/
theorem not_propertiesOfFiles_bare :
    ¬ PropertiesOfFiles { deviceProperties := some ['A'] } := by
  intro h
  have hproperty := (h ['A'] ['A']).mp (by decide)
  rcases hproperty with hfirst | ⟨_, hsecond⟩
  · exact not_isLast_nil hfirst.2
  · have hline : (['A'] ++ '=' :: ['A'] : Text) ∈ [['A']] := hsecond.2.mem
    simp at hline

end DeviceAndDisplay.SystemServices
