import DeviceAndDisplay.Model.SystemServices.PlatformCaps
import Mathlib.Data.List.TakeWhile

/-! # Precedence between the plugin registries

An entry of the device registry wins over one of the generic registry, a disabled one takes the
plugin out of the generic registry, and in each registry the first entry with all its libraries
counts. -/

namespace DeviceAndDisplay.SystemServices

open Helpers Storage

variable (env : CapsEnv) (appName : Text)

/-! ### Entries that provide a plugin -/

def libraryPath (lib : Text) : Text :=
  if lib.head? = some '/' then lib else "/usr/lib/".toList ++ lib

/-- An enabled entry with all its labels, the libraries of which exist. -/
structure Provides (hash : PluginEntry) (version : Text) : Prop where
  named : hash.appName = some appName
  enabled : hash.disabled = false
  complete : ∃ libraries, hash.libraries = some libraries ∧
    ∀ lib ∈ libraries, env.fileExists (libraryPath lib) = true
  versioned : hash.version = some version

/-- The version of the first entry that provides the plugin. -/
def FirstProviding (entries : List PluginEntry) (version : Text) : Prop :=
  ∃ before hash after, entries = before ++ hash :: after ∧ Provides env appName hash version ∧
    ∀ earlier ∈ before, ∀ other, ¬ Provides env appName earlier other

def Disables (hash : PluginEntry) : Prop := hash.appName = some appName ∧ hash.disabled = true

/-- What an entry provides, as the two loops test it. -/
def providedVersion (hash : PluginEntry) : Option Text :=
  match hash.appName, hash.disabled, hash.libraries, hash.version with
  | some name, false, some libraries, some version =>
      if name = appName ∧ verifyLibraries env libraries then some version else none
  | _, _, _, _ => none

theorem verifyLibraries_eq_true_iff (libraries : List Text) :
    verifyLibraries env libraries = true ↔
      ∀ lib ∈ libraries, env.fileExists (libraryPath lib) = true := by
  simp only [verifyLibraries, List.all_eq_true, libraryPath]

theorem providedVersion_eq_some_iff (hash : PluginEntry) (version : Text) :
    providedVersion env appName hash = some version ↔ Provides env appName hash version := by
  constructor
  · intro h
    unfold providedVersion at h
    split at h
    · rename_i name libraries text hname henabled hlibraries htext
      simp only [Option.ite_none_right_eq_some, Option.some.injEq] at h
      have hexist := (verifyLibraries_eq_true_iff env libraries).mp h.1.2
      exact ⟨h.1.1 ▸ hname, henabled, ⟨libraries, hlibraries, hexist⟩, h.2 ▸ htext⟩
    · cases h
  · intro h
    obtain ⟨libraries, hlibraries, hexist⟩ := h.complete
    have hverified := (verifyLibraries_eq_true_iff env libraries).mpr hexist
    simp [providedVersion, h.named, h.enabled, hlibraries, h.versioned, hverified]

theorem providedVersion_eq_none_iff (hash : PluginEntry) :
    providedVersion env appName hash = none ↔ ∀ version, ¬ Provides env appName hash version := by
  simp only [Option.eq_none_iff_forall_ne_some, ne_eq, providedVersion_eq_some_iff]

theorem findSome_providedVersion (entries : List PluginEntry) (version : Text) :
    entries.findSome? (providedVersion env appName) = some version ↔
      FirstProviding env appName entries version := by
  simp only [List.findSome?_eq_some_iff, providedVersion_eq_some_iff,
    providedVersion_eq_none_iff, FirstProviding]

theorem findSome_providedVersion_eq_none (entries : List PluginEntry) :
    entries.findSome? (providedVersion env appName) = none ↔
      ∀ hash ∈ entries, ∀ version, ¬ Provides env appName hash version := by
  simp only [List.findSome?_eq_none_iff, providedVersion_eq_none_iff]

/-! ### The two loops -/

/-- The conversions of a version. -/
def versionValue (text : Text) : ℕ := toUInt8 (atoi text)

def registered (entries : List PluginEntry) : Option ℕ :=
  (entries.findSome? (providedVersion env appName)).map versionValue

theorem registered_cons (hash : PluginEntry) (entries : List PluginEntry) :
    registered env appName (hash :: entries) =
      ((providedVersion env appName hash).map versionValue).or
        (registered env appName entries) := by
  cases h : providedVersion env appName hash <;> simp [registered, h]

theorem insert_assign_apply (result : StringMap ℕ) (name : Text) (value : ℕ) :
    result.insert (StringMap.empty.assign name value) appName =
      (result appName).or (if name = appName then some value else none) := by
  by_cases h : name = appName
  · subst h
    simp [StringMap.insert, StringMap.assign]
  · simp [StringMap.insert, StringMap.assign, StringMap.empty, h,
      Function.update_of_ne (Ne.symm h)]

/-- An entry that is disabled or lacks a label provides nothing. -/
theorem providedVersion_eq_none (hash : PluginEntry)
    (h : ∀ name libraries version, hash.appName = some name → hash.disabled = false →
      hash.libraries = some libraries → hash.version = some version → False) :
    providedVersion env appName hash = none := by
  unfold providedVersion
  split
  · rename_i name libraries version hname henabled hlibraries hversion
    exact (h name libraries version hname henabled hlibraries hversion).elim
  · rfl

theorem addDevicePlugin_fst (found : StringMap ℕ × List Text) (hash : PluginEntry) :
    (addDevicePlugin env found hash).1 appName =
      (found.1 appName).or ((providedVersion env appName hash).map versionValue) := by
  unfold addDevicePlugin
  split
  · rename_i name hname hdisabled
    simp [providedVersion, hname, hdisabled]
  · rename_i name libraries version hname henabled hlibraries hversion
    simp only [providedVersion, hname, henabled, hlibraries, hversion]
    by_cases hverified : verifyLibraries env libraries = true
    · by_cases happ : name = appName <;>
        simp [hverified, happ, insert_assign_apply, versionValue]
    · simp [hverified]
  · rename_i hother
    rw [providedVersion_eq_none env appName hash hother, Option.map_none, Option.or_none]

theorem mem_addDevicePlugin_snd (found : StringMap ℕ × List Text) (hash : PluginEntry) :
    appName ∈ (addDevicePlugin env found hash).2 ↔
      appName ∈ found.2 ∨ Disables appName hash := by
  unfold addDevicePlugin Disables
  split
  · rename_i name hname hdisabled
    simp [hname, hdisabled, eq_comm]
  · rename_i henabled _ _
    split <;> simp [henabled]
  · rename_i hother
    cases hname : hash.appName with
    | none => simp
    | some name =>
        cases hdisabled : hash.disabled with
        | true => exact absurd hname (by simp_all)
        | false => simp

theorem foldl_addDevicePlugin_fst (entries : List PluginEntry)
    (found : StringMap ℕ × List Text) :
    (entries.foldl (addDevicePlugin env) found).1 appName =
      (found.1 appName).or (registered env appName entries) := by
  induction entries generalizing found with
  | nil => simp [registered]
  | cons hash entries ih =>
      rw [List.foldl_cons, ih, addDevicePlugin_fst, registered_cons, Option.or_assoc]

theorem mem_foldl_addDevicePlugin_snd (entries : List PluginEntry)
    (found : StringMap ℕ × List Text) :
    appName ∈ (entries.foldl (addDevicePlugin env) found).2 ↔
      appName ∈ found.2 ∨ ∃ hash ∈ entries, Disables appName hash := by
  induction entries generalizing found with
  | nil => simp
  | cons hash entries ih =>
      rw [List.foldl_cons, ih, mem_addDevicePlugin_snd, or_assoc, List.exists_mem_cons_iff]

theorem addPlugin_apply_of_mem {removePlugins : List Text} (hremoved : appName ∈ removePlugins)
    (result : StringMap ℕ) (hash : PluginEntry) :
    addPlugin env removePlugins result hash appName = result appName := by
  generalize hafter : addPlugin env removePlugins result hash = after
  unfold addPlugin at hafter
  split at hafter
  · rename_i name libraries version _ _ _ _
    by_cases hname : name = appName
    · rw [hname, if_pos (Or.inr hremoved)] at hafter
      rw [hafter]
    · have hinsert : ∀ value,
          result.insert (StringMap.empty.assign name value) appName = result appName := by
        intro value
        rw [insert_assign_apply, if_neg hname, Option.or_none]
      split at hafter
      · rw [hafter]
      · split at hafter
        · rw [← hafter, hinsert]
        · rw [hafter]
  · rw [hafter]

theorem addPlugin_apply_of_notMem {removePlugins : List Text}
    (hkept : appName ∉ removePlugins) (result : StringMap ℕ) (hash : PluginEntry) :
    addPlugin env removePlugins result hash appName =
      (result appName).or ((providedVersion env appName hash).map versionValue) := by
  generalize hafter : addPlugin env removePlugins result hash = after
  unfold addPlugin at hafter
  split at hafter
  · rename_i name libraries version hname henabled hlibraries hversion
    simp only [providedVersion, hname, henabled, hlibraries, hversion]
    subst hafter
    by_cases happ : name = appName
    · subst happ
      cases hresult : result name <;> by_cases hverified : verifyLibraries env libraries = true <;>
        simp [hkept, hresult, hverified, insert_assign_apply, versionValue]
    · have hother : ¬ (name = appName ∧ verifyLibraries env libraries = true) := by simp [happ]
      rw [if_neg hother, Option.map_none, Option.or_none]
      split
      · rfl
      · split
        · rw [insert_assign_apply, if_neg happ, Option.or_none]
        · rfl
  · rename_i hother
    rw [providedVersion_eq_none env appName hash hother, Option.map_none, Option.or_none, hafter]

theorem foldl_addPlugin (removePlugins : List Text) (entries : List PluginEntry)
    (result : StringMap ℕ) :
    entries.foldl (addPlugin env removePlugins) result appName =
      if appName ∈ removePlugins then result appName
      else (result appName).or (registered env appName entries) := by
  induction entries generalizing result with
  | nil => simp [registered]
  | cons hash entries ih =>
      rw [List.foldl_cons, ih]
      by_cases hremoved : appName ∈ removePlugins
      · rw [if_pos hremoved, if_pos hremoved, addPlugin_apply_of_mem env appName hremoved]
      · rw [if_neg hremoved, if_neg hremoved, addPlugin_apply_of_notMem env appName hremoved,
          registered_cons, Option.or_assoc]

/-! ### The merged registries -/

def deviceEntries : List PluginEntry := env.devicePlugins.getD []

def genericEntries : List PluginEntry := (env.overridePlugins.or env.defaultPlugins).getD []

theorem getAvailablePlugins_apply :
    getAvailablePlugins env appName =
      if appName ∈ ((deviceEntries env).foldl (addDevicePlugin env) (StringMap.empty, [])).2 then
        registered env appName (deviceEntries env)
      else
        (registered env appName (deviceEntries env)).or
          (registered env appName (genericEntries env)) := by
  have hresult := foldl_addDevicePlugin_fst env appName (deviceEntries env) (StringMap.empty, [])
  have hfold := foldl_addPlugin env appName
    ((deviceEntries env).foldl (addDevicePlugin env) (StringMap.empty, [])).2 (genericEntries env)
    ((deviceEntries env).foldl (addDevicePlugin env) (StringMap.empty, [])).1
  have hempty : ((StringMap.empty, ([] : List Text)) : StringMap ℕ × List Text).1 appName = none :=
    rfl
  rw [hresult, hempty, Option.none_or] at hfold
  exact hfold

theorem registered_eq_some_iff (entries : List PluginEntry) (version : ℕ) :
    registered env appName entries = some version ↔
      ∃ text, FirstProviding env appName entries text ∧ versionValue text = version := by
  simp only [registered, Option.map_eq_some_iff, findSome_providedVersion]

theorem registered_eq_none_iff (entries : List PluginEntry) :
    registered env appName entries = none ↔
      ∀ hash ∈ entries, ∀ version, ¬ Provides env appName hash version := by
  rw [registered, Option.map_eq_none_iff, findSome_providedVersion_eq_none]

/-! ### Decimal versions -/

/-- A decimal number that fits eight bits. -/
structure IsVersion (text : Text) : Prop where
  nonempty : text ≠ []
  digits : ∀ c ∈ text, c.isDigit = true
  fits : Nat.ofDigitChars 10 text 0 ≤ 255

theorem versionValue_of_isVersion {text : Text} (h : IsVersion text) :
    versionValue text = Nat.ofDigitChars 10 text 0 := by
  have hatoi : atoi text = Nat.ofDigitChars 10 text 0 := by
    cases htext : text with
    | nil => exact absurd htext h.nonempty
    | cons c rest =>
        have hc : c.isDigit = true := h.digits c (by simp [htext])
        have hspace : isSpace c ≠ true := by
          intro hspace
          simp only [isSpace, List.mem_cons, List.not_mem_nil, or_false,
            decide_eq_true_eq] at hspace
          rcases hspace with rfl | rfl | rfl | rfl | rfl | rfl <;> exact absurd hc (by decide)
        have htake : (c :: rest).takeWhile Char.isDigit = c :: rest :=
          List.takeWhile_eq_self_iff.mpr (htext ▸ h.digits)
        unfold atoi
        rw [List.dropWhile_cons_of_neg hspace]
        split
        · rename_i hminus
          rw [(List.cons.inj hminus).1] at hc
          exact absurd hc (by decide)
        · rename_i hplus
          rw [(List.cons.inj hplus).1] at hc
          exact absurd hc (by decide)
        · simp only [htake]
          rfl
  have hfits := h.fits
  rw [versionValue, toUInt8, hatoi]
  omega

/-- The entries for `appName` the library files of which exist decide, those of the device registry
first. -/
def MergedVersion (version : ℕ) : Prop :=
  ∃ text, Nat.ofDigitChars 10 text 0 = version ∧
    (FirstProviding env appName (deviceEntries env) text ∨
      (∀ hash ∈ deviceEntries env, ∀ other, ¬ Provides env appName hash other) ∧
      (∀ hash ∈ deviceEntries env, ¬ Disables appName hash) ∧
      FirstProviding env appName (genericEntries env) text)

/-- The versions in the entries of both registries. -/
def DecimalVersions : Prop :=
  ∀ hash ∈ deviceEntries env ++ genericEntries env, ∀ text, hash.version = some text →
    IsVersion text

theorem FirstProviding.isVersion {entries : List PluginEntry} {text : Text}
    (h : FirstProviding env appName entries text)
    (hdecimal : ∀ hash ∈ entries, ∀ other, hash.version = some other → IsVersion other) :
    IsVersion text := by
  obtain ⟨before, hash, after, rfl, hprovides, _⟩ := h
  exact hdecimal hash (by simp) text hprovides.versioned

theorem registered_eq_some_iff_of_decimal {entries : List PluginEntry} (version : ℕ)
    (hdecimal : ∀ hash ∈ entries, ∀ other, hash.version = some other → IsVersion other) :
    registered env appName entries = some version ↔
      ∃ text, Nat.ofDigitChars 10 text 0 = version ∧ FirstProviding env appName entries text := by
  rw [registered_eq_some_iff]
  apply exists_congr
  intro text
  rw [and_comm]
  apply and_congr_left
  intro hfirst
  rw [versionValue_of_isVersion (hfirst.isVersion env appName hdecimal)]

theorem getAvailablePlugins_eq_some_iff (version : ℕ) (hdecimal : DecimalVersions env) :
    getAvailablePlugins env appName = some version ↔ MergedVersion env appName version := by
  have hdevice := registered_eq_some_iff_of_decimal env appName version
    fun hash hmem => hdecimal hash (List.mem_append_left _ hmem)
  have hgeneric := registered_eq_some_iff_of_decimal env appName version
    fun hash hmem => hdecimal hash (List.mem_append_right _ hmem)
  have hnone := registered_eq_none_iff env appName (deviceEntries env)
  have hremoved := mem_foldl_addDevicePlugin_snd env appName (deviceEntries env)
    (StringMap.empty, [])
  simp only [List.not_mem_nil, false_or] at hremoved
  rw [getAvailablePlugins_apply]
  constructor
  · intro h
    split at h
    · obtain ⟨text, hvalue, hfirst⟩ := hdevice.mp h
      exact ⟨text, hvalue, Or.inl hfirst⟩
    · rename_i hkept
      rcases Option.or_eq_some_iff.mp h with hfound | ⟨habsent, hfound⟩
      · obtain ⟨text, hvalue, hfirst⟩ := hdevice.mp hfound
        exact ⟨text, hvalue, Or.inl hfirst⟩
      · obtain ⟨text, hvalue, hfirst⟩ := hgeneric.mp hfound
        refine ⟨text, hvalue, Or.inr ⟨hnone.mp habsent, ?_, hfirst⟩⟩
        intro hash hmem hdisables
        exact hkept (hremoved.mpr ⟨hash, hmem, hdisables⟩)
  · rintro ⟨text, hvalue, hfirst | ⟨habsent, hkept, hfirst⟩⟩
    · have hfound := hdevice.mpr ⟨text, hvalue, hfirst⟩
      rw [hfound, Option.some_or, ite_self]
    · have hfound := hgeneric.mpr ⟨text, hvalue, hfirst⟩
      rw [if_neg, hnone.mpr habsent, Option.none_or, hfound]
      intro hmem
      obtain ⟨hash, hhash, hdisables⟩ := hremoved.mp hmem
      exact hkept hash hhash hdisables

/-- The first two entries of the generic registry give way: the first is disabled in the device
registry, the second lacks its library. -/
def registries : CapsEnv where
  devicePlugins := some [⟨some ['a'], some [], some ['1'], true⟩]
  defaultPlugins := some [⟨some ['a'], some [], some ['2'], false⟩,
    ⟨some ['b'], some [['/', 'x']], some ['3'], false⟩,
    ⟨some ['b'], some [['/', 'y']], some ['2', '5', '5'], false⟩]
  fileExists := (· == ['/', 'y'])

theorem decimalVersions_registries : DecimalVersions registries := by
  intro hash hmem text htext
  simp only [registries, deviceEntries, genericEntries, Option.getD_some, Option.none_or,
    List.cons_append, List.nil_append, List.mem_cons, List.not_mem_nil, or_false] at hmem
  rcases hmem with rfl | rfl | rfl | rfl <;> cases htext <;>
    exact ⟨List.cons_ne_nil _ _, by simp, by decide⟩

theorem mergedVersion_registries :
    DecimalVersions registries ∧ MergedVersion registries ['b'] 255 ∧
      ¬ MergedVersion registries ['a'] 2 :=
  ⟨decimalVersions_registries,
    (getAvailablePlugins_eq_some_iff registries ['b'] 255 decimalVersions_registries).mp
      (by decide),
    (getAvailablePlugins_eq_some_iff registries ['a'] 2 decimalVersions_registries).not.mp
      (by decide)⟩

end DeviceAndDisplay.SystemServices
