import DeviceAndDisplay.Model.UserPreferences.UiLanguage
import DeviceAndDisplay.Transition.Run

/-! # Converting language codes there and back

The parts of a code are not validated. A part that comes to the front may hold the separator of the
other format, and the code is then not converted back. -/

namespace DeviceAndDisplay.UserPreferences

open Helpers Storage Transition

variable {s t : UserPreferences} {separator separator' : Char} {language converted : Text}

/-! ### Conversions -/

/-- A code that is converted has its separator in the middle, and not before. -/
theorem convert_eq_some_iff :
    convert separator separator' language = some converted ↔
      ∃ front back, language = front ++ separator :: back ∧ separator ∉ front ∧
        front.length = 2 ∧ back.length = 2 ∧ converted = back ++ separator' :: front := by
  constructor
  · intro h
    rw [convert] at h
    split at h
    · cases h
    · rename_i sep hfind
      obtain ⟨⟨hsep, hlength⟩, hconverted⟩ := Option.ite_none_right_eq_some.mp h
      obtain ⟨front, back, rfl, hnot, hfront⟩ := find_separator_eq_some_iff.mp hfind
      have htwo : front.length = 2 := hfront.trans hsep
      refine ⟨front, back, rfl, hnot, htwo, ?_, ?_⟩
      · rw [List.length_append, List.length_cons, htwo] at hlength
        change 2 + (back.length + 1) = 5 at hlength
        omega
      · rw [← Option.some.inj hconverted, ← hfront, List.take_left,
          List.drop_length_add_append]
        rfl
  · rintro ⟨front, back, rfl, hnot, hfront, hback, rfl⟩
    have hlength : (front ++ separator :: back).length = languageCodeLength := by
      rw [List.length_append, List.length_cons, hfront, hback]
      rfl
    rw [convert, find_separator hnot]
    simp only
    rw [if_pos ⟨hfront, hlength⟩, List.take_left, List.drop_length_add_append]
    rfl

/-- The other conversion gives the code back unless its last part holds the other separator. -/
theorem convert_back_iff (h : convert separator separator' language = some converted) :
    convert separator' separator converted = some language ↔ separator' ∉ language.drop 3 := by
  obtain ⟨front, back, rfl, -, hfront, hback, rfl⟩ := convert_eq_some_iff.mp h
  have hdrop : (front ++ separator :: back).drop 3 = back := by
    change (front ++ separator :: back).drop (2 + 1) = back
    rw [← hfront, List.drop_length_add_append]
    rfl
  rw [hdrop, convert_eq_some_iff]
  constructor
  · rintro ⟨front', back', hconverted, hnot, hfront', -, -⟩
    rw [(List.append_inj hconverted (hback.trans hfront'.symm)).1]
    exact hnot
  · intro hnot
    exact ⟨back, front, rfl, hnot, hback, hfront, rfl⟩

/-! ### The migration stays done -/

theorem saveFile_isMigrationDone (saves : Bool) (uiLanguage : Text) (s : UserPreferences) :
    (s.saveFile saves uiLanguage).2.isMigrationDone = s.isMigrationDone := by
  cases saves <;> rfl

theorem updateFile_isMigrationDone (saves : Bool) (uiLanguage : Text) (s : UserPreferences) :
    (s.updateFile saves uiLanguage).isMigrationDone = s.isMigrationDone := by
  rw [updateFile]
  split
  · cases saves <;> rfl
  · rfl

/-- The migration is done after a call that succeeds, and a call that fails undoes nothing. -/
theorem performMigration_isMigrationDone (io : MigrationIo) (s : UserPreferences) :
    (s.performMigration io).2.isMigrationDone =
      ((s.performMigration io).1 || s.isMigrationDone) := by
  rw [performMigration]
  split
  · rfl
  · split
    · rfl
    · rfl
    · split
      · rfl
      · split
        · split
          · rfl
          · split <;> rfl
        · rfl

theorem retryMigration_isMigrationDone (io : MigrationIo) (s : UserPreferences) :
    (s.retryMigration io).2.isMigrationDone = (s.retryMigration io).1 := by
  rw [retryMigration]
  split
  · assumption
  · rename_i hdone
    rw [performMigration_isMigrationDone, Bool.eq_false_iff.mpr hdone, Bool.or_false]

theorem retryMigration_of_done (h : s.isMigrationDone = true) (io : MigrationIo) :
    s.retryMigration io = (true, s) :=
  if_pos h

theorem setUILanguage_some (migration : MigrationIo) (uiLanguage : Text)
    (setPresentationLanguage : Text → Bool) (s : UserPreferences) :
    s.setUILanguage true migration (some uiLanguage) setPresentationLanguage =
      ((s.retryMigration migration).1 &&
        (convertToUserSettingsFormat uiLanguage).any setPresentationLanguage,
        (s.retryMigration migration).2) := by
  unfold setUILanguage
  cases hretry : s.retryMigration migration with
  | mk ok migrated =>
      cases ok with
      | false => simp
      | true => cases hconvert : convertToUserSettingsFormat uiLanguage <;> simp [hconvert]

theorem isMigrationDone_step {a : Action} (h : s.isMigrationDone = true)
    (hstep : step s a = some t) : t.isMigrationDone = true := by
  cases a with
  | initializePlugin tries io =>
      cases hstep
      rw [initializePlugin]
      split
      · rw [performMigration_isMigrationDone, h, Bool.or_true]
      · exact h
  | performMigration io =>
      cases hstep
      rw [performMigration_isMigrationDone, h, Bool.or_true]
  | onPresentationLanguageChanged saves language =>
      cases hstep
      rw [onPresentationLanguageChanged]
      split
      · exact h
      · rw [updateFile_isMigrationDone, h]
  | getUILanguage userSettings migration presentationLanguage saves =>
      cases hstep
      rw [getUILanguage, retryMigration_of_done h]
      split
      · exact h
      · cases presentationLanguage.bind convertToUserPrefsFormat with
        | none => exact h
        | some language => exact (updateFile_isMigrationDone _ _ s).trans h
  | setUILanguage userSettings migration uiLanguage setPresentationLanguage =>
      cases hstep
      cases userSettings with
      | false => exact h
      | true =>
          cases uiLanguage with
          | none => exact h
          | some uiLanguage => rw [setUILanguage_some, retryMigration_of_done h, h]

/-! ### From setUILanguage to getUILanguage -/

theorem setUILanguage_isMigrationDone {userSettings : Bool} {migration : MigrationIo}
    {uiLanguage : Text} {setPresentationLanguage : Text → Bool}
    (h : (s.setUILanguage userSettings migration (some uiLanguage)
      setPresentationLanguage).1 = true) :
    (s.setUILanguage userSettings migration (some uiLanguage)
      setPresentationLanguage).2.isMigrationDone = true := by
  cases userSettings with
  | false => cases h
  | true =>
      rw [setUILanguage_some] at h ⊢
      exact (retryMigration_isMigrationDone migration s).trans (Bool.and_eq_true_iff.mp h).1

theorem getUILanguage_of_done (h : s.isMigrationDone = true) (migration : MigrationIo)
    (presentationLanguage : Option Text) (saves : Bool) :
    (s.getUILanguage true migration presentationLanguage saves).1 =
      presentationLanguage.bind convertToUserPrefsFormat := by
  rw [getUILanguage, retryMigration_of_done h]
  cases presentationLanguage.bind convertToUserPrefsFormat <;> rfl

/-- Each conversion is undone by the other one exactly if the last part of the code is free of the
other separator, and an accepted language is then what is returned as long as UserSettings keeps
it. -/
theorem language_roundTrip_iff :
    (∀ u p, convertToUserSettingsFormat u = some p →
      (convertToUserPrefsFormat p = some u ↔ '-' ∉ u.drop 3)) ∧
    (∀ p u, convertToUserPrefsFormat p = some u →
      (convertToUserSettingsFormat u = some p ↔ '_' ∉ p.drop 3)) ∧
    ∀ (s t : UserPreferences) (userSettings : Bool) (migration migration' : MigrationIo)
      (u p : Text) (setPresentationLanguage : Text → Bool) (between : List Action) (saves : Bool),
      (s.setUILanguage userSettings migration (some u) setPresentationLanguage).1 = true →
      convertToUserSettingsFormat u = some p →
      run step (s.setUILanguage userSettings migration (some u) setPresentationLanguage).2
        between = some t →
      ((t.getUILanguage true migration' (some p) saves).1 = some u ↔ '-' ∉ u.drop 3) := by
  refine ⟨fun u p h => convert_back_iff h, fun p u h => convert_back_iff h, ?_⟩
  intro s t userSettings migration migration' u p setPresentationLanguage between saves hset hp hr
  have hdone := setUILanguage_isMigrationDone hset
  have hdone' : t.isMigrationDone = true :=
    Reachable.invariant (fun s a t hs ht => isMigrationDone_step hs ht) hdone ⟨between, hr⟩
  rw [getUILanguage_of_done hdone', Option.bind_some]
  exact convert_back_iff hp

/-- `"US_en"` is free of hyphens. -/
theorem language_roundTrip_us :
    convertToUserPrefsFormat ['e', 'n', '-', 'U', 'S'] = some ['U', 'S', '_', 'e', 'n'] :=
  (language_roundTrip_iff.1 ['U', 'S', '_', 'e', 'n'] ['e', 'n', '-', 'U', 'S'] rfl).mpr (by decide)

/-- `"ab_-c"` is accepted and becomes `"-c-ab"`, which is not converted back. -/
theorem language_not_returned :
    (setUILanguage true { migrationState := none, presentationLanguage := none }
        (some ['a', 'b', '_', '-', 'c']) (fun _ => true)
        { isMigrationDone := true, file := none }).1 = true ∧
      convertToUserSettingsFormat ['a', 'b', '_', '-', 'c'] = some ['-', 'c', '-', 'a', 'b'] ∧
      convertToUserPrefsFormat ['-', 'c', '-', 'a', 'b'] = none :=
  ⟨rfl, rfl, rfl⟩

end DeviceAndDisplay.UserPreferences
