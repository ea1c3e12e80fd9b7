import DeviceAndDisplay.Model.SystemServices.PlatformCaps
import DeviceAndDisplay.Transition.Run

/-! # Earlier queries and the device properties

The properties are read once in a process, by the call that uses them first. All later uses, also
the second one of the same query, see no properties at all. -/

namespace DeviceAndDisplay.SystemServices

open Helpers Transition

variable {env : CapsEnv}

/-! ### The answers with given properties -/

def mimeTypeExclusions (env : CapsEnv) (properties : StringMap Text) :
    Option (List (Text × List Text)) :=
  if addDashExclusionList env properties = [] then none
  else some (addDashExclusionList env properties)

/-- The member of `DeviceInfo` is loaded by this query. -/
def Asks (query member : Text) : Prop := query = [] ∨ query = member

instance (query member : Text) : Decidable (Asks query member) :=
  inferInstanceAs (Decidable (_ ∨ _))

/-- `DeviceInfo` with the properties that each of the two members is computed from. -/
def deviceInfoWith (env : CapsEnv) (query : Text) (forMimeTypes forFeatures : StringMap Text) :
    DeviceInfo where
  mimeTypeExclusions :=
    if Asks query mimeTypeExclusionsMember then mimeTypeExclusions env forMimeTypes else none
  features :=
    if Asks query featuresMember then some (deviceCapsFeatures env forFeatures) else none

/-- The properties that a call gets when the flag is as given. -/
def propertiesAt (env : CapsEnv) (flag : Bool) : StringMap Text :=
  if flag then StringMap.empty else fileProperties env

theorem getDeviceProperties_fst (flag : Bool) :
    (getDeviceProperties env flag).1 = propertiesAt env flag := by
  cases flag <;> rfl

theorem loadDeviceInfo_fst (query : Text) (flag : Bool) :
    (loadDeviceInfo env query flag).1 = deviceInfoWith env query (propertiesAt env flag)
      (propertiesAt env (flag || decide (Asks query mimeTypeExclusionsMember))) := by
  have hflag : (getDeviceProperties env flag).2 = true := by cases flag <;> rfl
  by_cases hmime : query = [] ∨ query = mimeTypeExclusionsMember <;>
    by_cases hfeatures : query = [] ∨ query = featuresMember <;>
    simp only [loadDeviceInfo, deviceInfoWith, mimeTypeExclusions, Asks, hmime, hfeatures, hflag,
      getDeviceProperties_fst, if_true, if_false, decide_true, decide_false, Bool.or_true,
      Bool.or_false]

/-! ### When the properties make no difference -/

/-- The properties keep the RFC parameter from being asked, although it would include something. -/
def DashIndifferent (env : CapsEnv) : Prop :=
  fileProperties env onlyAveSupported ≠ none → fileProperties env disableDashSupport ≠ none →
    ∀ str, env.dashPlaybackInclusions = some str →
      ['*'] ∉ dashTokens str ∧ ∀ it ∈ playbackTypes, it ∉ dashTokens str

/-- Browsing is not turned off, or a plugin has the name of the feature, and the files claim no
4K decoding. -/
def FeaturesIndifferent (env : CapsEnv) : Prop :=
  (disablesBrowsing (fileProperties env openBrowsing) = true →
    (getAvailablePlugins env openBrowsingFeature).isSome) ∧
  ∀ value, fileProperties env uhd4kDecode = some value → toUInt8 (atoi value) = 0

/-- Without the RFC parameter every playback type is excluded; with it the same ones are, if it
includes none of them. -/
theorem exclusions_eq_iff (dashInclusions : List Text) :
    playbackTypes.map (fun it => (it, ["application/dash+xml".toList])) =
      (if ['*'] ∈ dashInclusions then []
      else (playbackTypes.filter (· ∉ dashInclusions)).map
        fun it => (it, ["application/dash+xml".toList])) ↔
      ['*'] ∉ dashInclusions ∧ ∀ it ∈ playbackTypes, it ∉ dashInclusions := by
  by_cases hall : ['*'] ∈ dashInclusions
  · simp [hall, playbackTypes]
  · rw [if_neg hall, and_iff_right hall]
    constructor
    · intro h it hit
      have hlength : (playbackTypes.filter (· ∉ dashInclusions)).length = playbackTypes.length := by
        simpa only [List.length_map] using (congrArg List.length h).symm
      have hfilter := List.filter_sublist.eq_of_length hlength
      rw [← hfilter] at hit
      exact of_decide_eq_true (List.mem_filter.mp hit).2
    · intro h
      rw [List.filter_eq_self.mpr fun it hit => decide_eq_true (h it hit)]

theorem addDashExclusionList_eq_iff :
    addDashExclusionList env (fileProperties env) = addDashExclusionList env StringMap.empty ↔
      DashIndifferent env := by
  have hempty : StringMap.empty (ν := Text) onlyAveSupported = none ∨
      StringMap.empty (ν := Text) disableDashSupport = none := .inl rfl
  by_cases hask : fileProperties env onlyAveSupported = none ∨
      fileProperties env disableDashSupport = none
  · have hsame : addDashExclusionList env (fileProperties env) =
        addDashExclusionList env StringMap.empty := by
      simp only [addDashExclusionList, if_pos hask, if_pos hempty]
    refine iff_of_true hsame fun hav hdash => ?_
    rcases hask with hask | hask
    · exact absurd hask hav
    · exact absurd hask hdash
  · have hfiles : addDashExclusionList env (fileProperties env) =
        playbackTypes.map fun it => (it, ["application/dash+xml".toList]) := by
      simp [addDashExclusionList, hask]
    have hboth := not_or.mp hask
    rw [hfiles, addDashExclusionList, if_pos hempty, exclusions_eq_iff]
    cases hrfc : env.dashPlaybackInclusions with
    | none => simp [DashIndifferent, hrfc]
    | some str => simp [DashIndifferent, hrfc, hboth.1, hboth.2]

theorem baseFeatures_openBrowsing :
    baseFeatures.foldl (fun m feature => m.assign feature 1) StringMap.empty openBrowsingFeature =
      none := by
  decide

variable (env) in
theorem deviceCapsFeatures_uhd4kDecode (properties : StringMap Text) :
    deviceCapsFeatures env properties uhd4kDecodeFeature =
      some ((properties uhd4kDecode).elim 0 fun value => toUInt8 (atoi value)) := by
  cases h : properties uhd4kDecode <;> simp [deviceCapsFeatures, StringMap.assign, h]

variable (env) in
/-- Every other feature is that of a plugin, or the one for browsing, or always there. -/
theorem deviceCapsFeatures_of_ne (properties : StringMap Text) {key : Text}
    (h : key ≠ uhd4kDecodeFeature) :
    deviceCapsFeatures env properties key = (getAvailablePlugins env key).or
      (if disablesBrowsing (properties openBrowsing) = true ∧ key = openBrowsingFeature then some 0
      else baseFeatures.foldl (fun m feature => m.assign feature 1) StringMap.empty key) := by
  simp only [deviceCapsFeatures, StringMap.assign, Function.update_of_ne h, StringMap.assignAll]
  congr 1
  by_cases hdisables : disablesBrowsing (properties openBrowsing) = true
  · by_cases hkey : key = openBrowsingFeature
    · simp [hdisables, hkey]
    · simp [hdisables, hkey]
  · simp [hdisables]

theorem openBrowsingFeature_ne : openBrowsingFeature ≠ uhd4kDecodeFeature := by decide

theorem deviceCapsFeatures_eq_iff :
    deviceCapsFeatures env (fileProperties env) = deviceCapsFeatures env StringMap.empty ↔
      FeaturesIndifferent env := by
  have hnone : disablesBrowsing (StringMap.empty (ν := Text) openBrowsing) = false := by decide
  constructor
  · intro h
    constructor
    · intro hdisables
      have hkey := congrFun h openBrowsingFeature
      rw [deviceCapsFeatures_of_ne env _ openBrowsingFeature_ne,
        deviceCapsFeatures_of_ne env _ openBrowsingFeature_ne, baseFeatures_openBrowsing] at hkey
      cases hplugin : getAvailablePlugins env openBrowsingFeature with
      | none => simp [hplugin, hdisables, hnone] at hkey
      | some version => rfl
    · intro value hvalue
      have hkey := congrFun h uhd4kDecodeFeature
      rw [deviceCapsFeatures_uhd4kDecode, deviceCapsFeatures_uhd4kDecode, hvalue] at hkey
      exact Option.some.inj hkey
  · rintro ⟨hbrowsing, huhd⟩
    funext key
    by_cases hkey : key = uhd4kDecodeFeature
    · rw [hkey, deviceCapsFeatures_uhd4kDecode, deviceCapsFeatures_uhd4kDecode]
      cases hvalue : fileProperties env uhd4kDecode with
      | none => rfl
      | some value => exact congrArg some (huhd value hvalue)
    · rw [deviceCapsFeatures_of_ne env _ hkey, deviceCapsFeatures_of_ne env _ hkey]
      by_cases hopen : disablesBrowsing (fileProperties env openBrowsing) = true ∧
          key = openBrowsingFeature
      · obtain ⟨version, hversion⟩ := Option.isSome_iff_exists.mp (hbrowsing hopen.1)
        rw [hopen.2, hversion, Option.some_or, Option.some_or]
      · rw [if_neg hopen, hnone, if_neg (by simp)]

/-! ### Queries -/

/-- The query that is passed to `DeviceInfo::Load`, if it is called. -/
def deviceQuery (query : Text) : Option Text :=
  if query = [] then some []
  else (parseQuery query).bind fun found => if found.1 = .deviceInfo then some found.2 else none

/-- The capabilities with the properties taken from the files wherever they are used. -/
def capsFromFiles (env : CapsEnv) (query : Text) : PlatformCaps where
  deviceInfo := (deviceQuery query).map fun member =>
    deviceInfoWith env member (fileProperties env) (fileProperties env)
  success := query = [] ∨ (parseQuery query).isSome

theorem loadPlatformCaps_fst (query : Text) (flag : Bool) :
    (loadPlatformCaps env query flag).1 =
      ⟨(deviceQuery query).map fun member => (loadDeviceInfo env member flag).1,
        decide (query = [] ∨ (parseQuery query).isSome)⟩ := by
  unfold loadPlatformCaps deviceQuery
  by_cases hempty : query = []
  · simp [hempty]
  · rcases hparse : parseQuery query with _ | ⟨part, member⟩
    · simp [hempty]
    · cases part <;> simp [hempty]

/-- The query is answered as it would be in a new process, and from the files. -/
def Independent (env : CapsEnv) (flag : Bool) (query : Text) : Prop :=
  (loadPlatformCaps env query flag).1 = (loadPlatformCaps env query false).1 ∧
    (loadPlatformCaps env query flag).1 = capsFromFiles env query

/-- What the query asks for does not depend on the properties, unless it is the first to read
them. -/
def Indifferent (env : CapsEnv) (flag : Bool) (query : Text) : Prop :=
  ∀ member, deviceQuery query = some member →
    (Asks member mimeTypeExclusionsMember → flag = true → DashIndifferent env) ∧
    (Asks member featuresMember → flag = true ∨ Asks member mimeTypeExclusionsMember →
      FeaturesIndifferent env)

theorem mimeTypeExclusions_eq_iff {p p' : StringMap Text} :
    mimeTypeExclusions env p = mimeTypeExclusions env p' ↔
      addDashExclusionList env p = addDashExclusionList env p' := by
  unfold mimeTypeExclusions
  by_cases hp : addDashExclusionList env p = [] <;>
    by_cases hp' : addDashExclusionList env p' = []
  · simp [hp, hp']
  · simp [hp, hp']
  · simp [hp, hp']
  · simp [hp, hp']

theorem loadDeviceInfo_eq_iff (env : CapsEnv) (member : Text) (flag : Bool) :
    (loadDeviceInfo env member flag).1 =
      deviceInfoWith env member (fileProperties env) (fileProperties env) ↔
    (Asks member mimeTypeExclusionsMember → flag = true → DashIndifferent env) ∧
    (Asks member featuresMember → flag = true ∨ Asks member mimeTypeExclusionsMember →
      FeaturesIndifferent env) := by
  rw [loadDeviceInfo_fst, ← addDashExclusionList_eq_iff, ← deviceCapsFeatures_eq_iff]
  by_cases hmime : Asks member mimeTypeExclusionsMember <;>
    by_cases hfeatures : Asks member featuresMember <;>
    cases flag <;>
    simp [deviceInfoWith, hmime, hfeatures, propertiesAt, mimeTypeExclusions_eq_iff, eq_comm]

theorem independent_iff (flag : Bool) (query : Text) :
    Independent env flag query ↔ Indifferent env flag query := by
  simp only [Independent, loadPlatformCaps_fst, capsFromFiles, Indifferent]
  cases hquery : deviceQuery query with
  | none => simp
  | some member =>
      have hfiles := loadDeviceInfo_eq_iff env member flag
      have hfresh := loadDeviceInfo_eq_iff env member false
      simp only [Option.map_some, PlatformCaps.mk.injEq, Option.some.injEq, and_true,
        forall_eq', hfiles]
      constructor
      · exact And.right
      · intro h
        refine ⟨?_, h⟩
        rw [hfiles.mpr h,
          hfresh.mpr ⟨fun _ hfalse => absurd hfalse (by simp), fun hask hmime => ?_⟩]
        exact h.2 hask (.inr (hmime.resolve_left (by simp)))

/-- Whatever was asked before, every query of a process is answered as in a new process and from
the files exactly when none of them asks for something that depends on the properties after they
were read. -/
theorem caps_independent_iff (env : CapsEnv) (queries : List Text) :
    Along (capsStep env) (Independent env) false queries ↔
      Along (capsStep env) (Indifferent env) false queries :=
  along_iff_along (I := fun _ => True) (fun _ _ _ _ _ _ => trivial)
    (fun flag query _ => independent_iff flag query) trivial queries

/-- The file claims 4K decoding: the first query for the features says so and the second does not,
nor does a first query for everything. -/
theorem caps_depend_on_history :
    ∃ env : CapsEnv, env.deviceProperties = some "UHD_4K_DECODE=1".toList ∧
      ((loadPlatformCaps env "DeviceInfo.features".toList false).1.deviceInfo.bind
        DeviceInfo.features).bind (· uhd4kDecodeFeature) = some 1 ∧
      (loadPlatformCaps env "DeviceInfo.features".toList false).2 = true ∧
      ((loadPlatformCaps env "DeviceInfo.features".toList true).1.deviceInfo.bind
        DeviceInfo.features).bind (· uhd4kDecodeFeature) = some 0 ∧
      ((loadPlatformCaps env [] false).1.deviceInfo.bind DeviceInfo.features).bind
        (· uhd4kDecodeFeature) = some 0 :=
  ⟨{ deviceProperties := some "UHD_4K_DECODE=1".toList }, rfl, by decide, by decide, by decide,
    by decide⟩

end DeviceAndDisplay.SystemServices
