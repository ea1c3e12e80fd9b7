import DeviceAndDisplay.Model.UserPreferences.UiLanguage
import DeviceAndDisplay.Transition.Run
import DeviceAndDisplay.Verification.Helpers.Settings

/-! # The language cache and the file

The cache tells the truth about the file as long as `PerformMigration`, which saves a language
without remembering it, saves the remembered one. -/

namespace DeviceAndDisplay.UserPreferences

open Helpers Storage Transition

variable {s s' : UserPreferences} {a : Action} {io : MigrationIo}

/-- The cache tells the truth about the file. -/
structure Truthful (s : UserPreferences) : Prop where
  cached : s.lastUILanguage ≠ [] → s.file = some (some s.lastUILanguage)
  /-- A write that is skipped leaves no other language in the file. -/
  skipped : ∀ language uiLanguage, convertToUserPrefsFormat language = some uiLanguage →
    uiLanguage = s.lastUILanguage → s.file = some (some uiLanguage)

/-! ### The condition on an action -/

/-- The language that `PerformMigration` saves. -/
def migratedLanguage (io : MigrationIo) (s : UserPreferences) : Option Text :=
  if io.inspector = true ∧ io.saves = true ∧
      (io.migrationState = some false ∨ io.migrationState = some true ∧ s.file = none) then
    io.presentationLanguage.bind convertToUserPrefsFormat
  else
    none

/-- The language that is saved because it is not the remembered one. -/
def changedLanguage (presentationLanguage : Option Text) (saves : Bool) (s : UserPreferences) :
    Option Text :=
  if saves then
    (presentationLanguage.bind convertToUserPrefsFormat).filter (· ≠ s.lastUILanguage)
  else
    none

def MigratesCached (io : MigrationIo) (s : UserPreferences) : Prop :=
  ∀ language ∈ migratedLanguage io s, s.lastUILanguage = [] ∨ cStr language = s.lastUILanguage

/-- `PerformMigration` saves the remembered language, if any, unless the new one is saved and
remembered in the same call. -/
def SavesCached (s : UserPreferences) : Action → Prop
  | .initializePlugin tries io => (tries.take 5).any id = true → s.MigratesCached io
  | .performMigration io => s.MigratesCached io
  | .onPresentationLanguageChanged saves language =>
      ∀ uiLanguage ∈ s.changedLanguage (some language) saves, '\x00' ∉ uiLanguage
  | .getUILanguage userSettings migration presentationLanguage saves =>
      userSettings = true → (s.retryMigration migration).1 = true →
        (s.changedLanguage presentationLanguage saves = none → s.isMigrationDone = false →
          s.MigratesCached migration) ∧
        ∀ uiLanguage ∈ s.changedLanguage presentationLanguage saves, '\x00' ∉ uiLanguage
  | .setUILanguage userSettings migration uiLanguage _ =>
      userSettings = true → uiLanguage ≠ none → s.isMigrationDone = false →
        s.MigratesCached migration

instance (s : UserPreferences) (io : MigrationIo) : Decidable (s.MigratesCached io) :=
  inferInstanceAs (Decidable (∀ language ∈ migratedLanguage io s, _))

instance (s : UserPreferences) : ∀ a, Decidable (s.SavesCached a)
  | .initializePlugin _ _ => inferInstanceAs (Decidable (_ → _))
  | .performMigration io => inferInstanceAs (Decidable (s.MigratesCached io))
  | .onPresentationLanguageChanged saves language =>
      inferInstanceAs (Decidable (∀ uiLanguage ∈ s.changedLanguage (some language) saves, _))
  | .getUILanguage _ _ _ _ => inferInstanceAs (Decidable (_ → _ → (_ → _ → _) ∧ _))
  | .setUILanguage _ _ _ _ => inferInstanceAs (Decidable (_ → _ → _ → _))

/-! ### Languages -/

theorem convert_ne_nil {separator separator' : Char} {language converted : Text}
    (h : convert separator separator' language = some converted) : converted ≠ [] := by
  unfold convert at h
  split at h
  · cases h
  · have hconverted := Option.some.inj (Option.ite_none_right_eq_some.mp h).2
    rw [← hconverted]
    simp

theorem cStr_eq_self_iff {text : Text} : cStr text = text ↔ '\x00' ∉ text := by
  constructor
  · intro h
    rw [← h]
    exact nul_not_mem_cStr text
  · exact cStr_eq_self

theorem truthful_iff :
    Truthful s ↔ (s.lastUILanguage ≠ [] → s.file = some (some s.lastUILanguage)) := by
  constructor
  · intro h
    exact h.cached
  · intro h
    refine ⟨h, fun language uiLanguage hconvert hlast => ?_⟩
    rw [hlast]
    apply h
    rw [← hlast]
    exact convert_ne_nil hconvert

/-! ### PerformMigration -/

/-- The file as `PerformMigration` leaves it. -/
def migratedFile (io : MigrationIo) (s : UserPreferences) : Option (Option Text) :=
  match migratedLanguage io s with
  | none => s.file
  | some uiLanguage => some (some (cStr uiLanguage))

theorem migrateFile_eq (hinspector : io.inspector = true)
    (hstate : io.migrationState = some false ∨ io.migrationState = some true ∧ s.file = none) :
    s.migrateFile io = { s with file := migratedFile io s } := by
  unfold migrateFile migratedFile migratedLanguage saveFile
  cases io.saves with
  | true => cases hlanguage : io.presentationLanguage.bind convertToUserPrefsFormat <;> simp [*]
  | false => cases io.presentationLanguage.bind convertToUserPrefsFormat <;> simp

theorem migratedFile_eq_file (h : migratedLanguage io s = none) : migratedFile io s = s.file := by
  rw [migratedFile, h]

/-- `PerformMigration` writes the file, but not the cache. -/
theorem performMigration_eq (io : MigrationIo) (s : UserPreferences) :
    (s.performMigration io).2.lastUILanguage = s.lastUILanguage ∧
      (s.performMigration io).2.file = migratedFile io s := by
  unfold performMigration
  cases hinspector : io.inspector with
  | false =>
      refine ⟨rfl, (migratedFile_eq_file ?_).symm⟩
      simp [migratedLanguage, hinspector]
  | true =>
      simp only [Bool.true_eq_false, if_false]
      cases hstate : io.migrationState with
      | none =>
          refine ⟨rfl, (migratedFile_eq_file ?_).symm⟩
          simp [migratedLanguage, hstate]
      | some requiresMigration =>
          cases requiresMigration with
          | false =>
              simp only [migrateFile_eq hinspector (.inl hstate)]
              exact ⟨rfl, rfl⟩
          | true =>
              cases hfile : s.file with
              | none =>
                  simp only [migrateFile_eq hinspector (.inr ⟨hstate, hfile⟩)]
                  exact ⟨rfl, rfl⟩
              | some val =>
                  have hnone : migratedFile io s = some val := by
                    rw [migratedFile_eq_file, hfile]
                    simp [migratedLanguage, hstate, hfile]
                  rw [hnone]
                  simp only
                  split
                  · split
                    · exact ⟨rfl, hfile⟩
                    · split
                      · exact ⟨rfl, hfile⟩
                      · exact ⟨rfl, hfile⟩
                  · exact ⟨rfl, hfile⟩

theorem truthful_performMigration (h : Truthful s) (io : MigrationIo) :
    Truthful (s.performMigration io).2 ↔ s.MigratesCached io := by
  obtain ⟨hlast, hfile⟩ := performMigration_eq io s
  rw [truthful_iff, hlast, hfile, MigratesCached, migratedFile]
  cases migratedLanguage io s with
  | none => simpa using h.cached
  | some language => simp [← or_iff_not_imp_left]

theorem truthful_retryMigration (h : Truthful s) (io : MigrationIo) :
    Truthful (s.retryMigration io).2 ↔ (s.isMigrationDone = false → s.MigratesCached io) := by
  rw [retryMigration]
  cases hdone : s.isMigrationDone with
  | true => simpa using h
  | false => simpa using truthful_performMigration h io

theorem retryMigration_last (io : MigrationIo) (s : UserPreferences) :
    (s.retryMigration io).2.lastUILanguage = s.lastUILanguage := by
  unfold retryMigration
  split
  · rfl
  · exact (performMigration_eq io s).1

/-- A migration that fails leaves everything as it is. -/
theorem performMigration_failed (h : (s.performMigration io).1 = false) :
    (s.performMigration io).2 = s := by
  unfold performMigration at h ⊢
  split at h
  · next hinspector => rw [if_pos hinspector]
  · next hinspector =>
      rw [if_neg hinspector]
      cases hstate : io.migrationState with
      | none => rfl
      | some requiresMigration =>
          cases requiresMigration with
          | false => simp [hstate] at h
          | true =>
              cases hfile : s.file with
              | none => simp [hstate, hfile] at h
              | some val =>
                  simp only [hstate, hfile] at h ⊢
                  by_cases hloads : io.loads = true
                  · rw [if_pos hloads] at h ⊢
                    cases hconvert : val.bind convertToUserSettingsFormat with
                    | none => simp [hconvert] at h
                    | some language =>
                        simp only [hconvert] at h ⊢
                        by_cases hset : io.setPresentationLanguage language = true
                        · simp [hset] at h
                        · rw [if_neg hset]
                  · simp [hloads] at h

theorem truthful_of_failed (h : Truthful s) (io : MigrationIo)
    (hfailed : (s.retryMigration io).1 = false) :
    Truthful (s.retryMigration io).2 := by
  unfold retryMigration at hfailed ⊢
  split at hfailed
  · cases hfailed
  · next hdone =>
      rw [if_neg hdone, performMigration_failed hfailed]
      exact h

/-! ### Saving a language -/

/-- A language that is saved is in the file, unless it is cut off there. -/
theorem truthful_updateFile {saves : Bool} {presentationLanguage : Option Text} {language : Text}
    (hconvert : presentationLanguage.bind convertToUserPrefsFormat = some language) :
    Truthful (s.updateFile saves language) ↔
      (∀ uiLanguage ∈ s.changedLanguage presentationLanguage saves, '\x00' ∉ uiLanguage) ∧
        (s.changedLanguage presentationLanguage saves = none → Truthful s) := by
  have hne : language ≠ [] := by
    obtain ⟨presentation, _, hpresentation⟩ := Option.bind_eq_some_iff.mp hconvert
    exact convert_ne_nil hpresentation
  rw [changedLanguage, hconvert, updateFile, saveFile]
  by_cases hlast : language = s.lastUILanguage
  · simp [← hlast]
  · cases saves with
    | false => simp [hlast]
    | true =>
        have hnul : cStr language = language ↔ '\x00' ∉ language := cStr_eq_self_iff
        simp [hlast, truthful_iff, hne, hnul]

/-! ### Runs -/

/-- An action keeps the cache right exactly if it meets the condition. -/
theorem truthful_step_iff (h : Truthful s) (hstep : step s a = some s') :
    Truthful s' ↔ s.SavesCached a := by
  cases a with
  | initializePlugin tries io =>
      cases hstep
      rw [SavesCached, initializePlugin]
      split
      · next htries => simpa [htries] using truthful_performMigration h io
      · next htries => simpa [htries] using h
  | performMigration io =>
      cases hstep
      exact truthful_performMigration h io
  | onPresentationLanguageChanged saves language =>
      cases hstep
      rw [SavesCached, onPresentationLanguageChanged]
      cases hconvert : convertToUserPrefsFormat language with
      | none => simpa [changedLanguage, hconvert] using h
      | some uiLanguage =>
          have hbind : (some language).bind convertToUserPrefsFormat = some uiLanguage := hconvert
          rw [truthful_updateFile hbind]
          exact and_iff_left fun _ => h
  | getUILanguage userSettings migration presentationLanguage saves =>
      cases hstep
      have hlast := retryMigration_last migration s
      have htruthful := truthful_retryMigration h migration
      have hfailed := truthful_of_failed h migration
      simp only [SavesCached, getUILanguage]
      cases userSettings with
      | false => simpa using h
      | true =>
          rcases hretry : s.retryMigration migration with ⟨ok, migrated⟩
          rw [hretry] at hlast htruthful hfailed
          cases ok with
          | false => simpa using hfailed rfl
          | true =>
              have hchanged : migrated.changedLanguage presentationLanguage saves =
                  s.changedLanguage presentationLanguage saves := by
                rw [changedLanguage, changedLanguage, hlast]
              cases hconvert : presentationLanguage.bind convertToUserPrefsFormat with
              | none => simpa [changedLanguage, hconvert] using htruthful
              | some language =>
                  simp only [Bool.true_eq_false, if_false, true_imp_iff]
                  rw [truthful_updateFile hconvert, hchanged, htruthful, and_comm]
  | setUILanguage userSettings migration uiLanguage setPresentationLanguage =>
      cases hstep
      have htruthful := truthful_retryMigration h migration
      have hfailed := truthful_of_failed h migration
      simp only [SavesCached, setUILanguage]
      cases userSettings with
      | false => simpa using h
      | true =>
          cases uiLanguage with
          | none => simpa using h
          | some uiLanguage =>
              simp only [Bool.true_eq_false, if_false, true_imp_iff, ne_eq, reduceCtorEq,
                not_false_eq_true]
              rw [← htruthful]
              rcases s.retryMigration migration with ⟨ok, migrated⟩
              cases ok with
              | false => exact Iff.rfl
              | true =>
                  simp only
                  cases convertToUserSettingsFormat uiLanguage with
                  | none => exact Iff.rfl
                  | some presentationLanguage => exact Iff.rfl

theorem truthful_initial (file : Option (Option Text)) : Truthful { file := file } := by
  rw [truthful_iff]
  intro h
  exact absurd rfl h

/-- The cache is right throughout a run exactly if all its actions meet the condition. -/
theorem ui_language_truthful_iff (file : Option (Option Text)) {as : List Action}
    (hr : run step { file := file } as = some s) :
    (∀ bs u, bs <+: as → run step { file := file } bs = some u → Truthful u) ↔
      Along step SavesCached { file := file } as := by
  refine throughout_iff_along (I := Truthful) ?_ (fun s h => h) ?_ (truthful_initial file) hr
  · intro s a s' h hC hstep
    exact (truthful_step_iff h hstep).mpr hC
  · intro s a s' h hstep hs'
    exact (truthful_step_iff h hstep).mp hs'

/-- `"en-US"`. -/
def englishUs : Text := ['e', 'n', '-', 'U', 'S']

/-- `"fr-CA"`. -/
def frenchCanada : Text := ['f', 'r', '-', 'C', 'A']

/-- A migration that cannot be made yet. -/
def migrationUnavailable : MigrationIo where
  inspector := false
  migrationState := none
  presentationLanguage := none

def migrationNotRequired (presentationLanguage : Text) : MigrationIo where
  migrationState := some false
  presentationLanguage := some presentationLanguage

/-- A migration that is retried, and saves the language that was notified before. -/
theorem ui_language_truthful_retried :
    ∃ s, run step { file := none }
        [.initializePlugin [true] migrationUnavailable,
          .onPresentationLanguageChanged true englishUs,
          .getUILanguage true (migrationNotRequired englishUs) (some englishUs) true] = some s ∧
      Truthful s := by
  have hr : run step { file := none }
      [.initializePlugin [true] migrationUnavailable,
        .onPresentationLanguageChanged true englishUs,
        .getUILanguage true (migrationNotRequired englishUs) (some englishUs) true] = some _ := rfl
  refine ⟨_, hr, (ui_language_truthful_iff none hr).mpr ?_ _ _ List.prefix_rfl hr⟩
  decide

/-- A migration that is retried in `setUILanguage` after the language has changed. -/
theorem ui_language_not_truthful :
    ∃ s, run step { file := none }
        [.initializePlugin [true] migrationUnavailable,
          .onPresentationLanguageChanged true englishUs,
          .setUILanguage true (migrationNotRequired frenchCanada) (some []) fun _ => true] =
            some s ∧ ¬ Truthful s := by
  refine ⟨_, rfl, fun h => ?_⟩
  have hfile := h.cached (by decide)
  exact absurd hfile (by decide)

end DeviceAndDisplay.UserPreferences
