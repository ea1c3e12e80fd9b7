import DeviceAndDisplay.Verification.DeviceInfo.PropertyLines
import Mathlib.Data.List.DropRight

/-! # The device type

The result of `DeviceType` says that a line was found, not that its value is one of the known
ones. -/

namespace DeviceAndDisplay.DeviceInfo

open Helpers Pattern Storage

variable (env : DeviceEnv)

/-- The value of the first line that has one. -/
def propertyValue (file : Option Text) (key : Text) : Option Text :=
  (fileLines file).findSome? (lineValue key)

def deviceTypeNames : List Text := [ipTvName, ipStbName, qamIpStbName]

theorem stringToDeviceType_isSome_iff (name : Text) :
    (stringToDeviceType name).isSome ↔ name ∈ deviceTypeNames := by
  unfold stringToDeviceType deviceTypeNames
  split
  · simp [*]
  · split
    · simp [*]
    · split <;> simp [*]

theorem stringToDeviceType_nil : stringToDeviceType [] = none := by decide

/-- A value without the blanks behind it. -/
def trimmed (value : Text) : Text := value.rdropWhile isSpace

theorem trimmed_of_mem {name : Text} (h : name ∈ deviceTypeNames) : trimmed name = name := by
  simp only [deviceTypeNames, List.mem_cons, List.not_mem_nil, or_false] at h
  rcases h with rfl | rfl | rfl <;> decide

/-- The type for a `DEVICE_TYPE`. -/
def namedType (deviceType : Text) : DeviceTypeInfo :=
  if deviceType = mediaclient then .ipStb
  else if deviceType = hybrid then .qamIpStb
  else .ipTv

theorem stringToDeviceType_convertDeviceType (deviceType : Text) :
    stringToDeviceType (convertDeviceType deviceType) = some (namedType (cStr deviceType)) := by
  unfold convertDeviceType namedType
  split
  · rfl
  · split <;> rfl

theorem namedType_eq_iff (first second : Text) :
    namedType first = namedType second ↔
      ∀ word ∈ [mediaclient, hybrid], first = word ↔ second = word := by
  have hne : mediaclient ≠ hybrid := by decide
  simp only [List.forall_mem_cons, List.not_mem_nil, false_implies, implies_true, and_true]
  unfold namedType
  by_cases hm : first = mediaclient <;> by_cases hm' : second = mediaclient <;>
    by_cases hh : first = hybrid <;> by_cases hh' : second = hybrid <;>
    simp_all

theorem deviceType_of_authService {value : Text}
    (h : propertyValue env.authService deviceTypeKey = some value) :
    deviceType env = (.errorNone, stringToDeviceType value) := by
  unfold propertyValue at h
  simp [deviceType, getFileRegex_eq, h]

theorem deviceType_of_deviceProperties {value : Text}
    (hauth : propertyValue env.authService deviceTypeKey = none)
    (h : propertyValue env.deviceProperties deviceTypeProperty = some value) :
    deviceType env = (.errorNone, some (namedType (cStr value))) := by
  unfold propertyValue at h hauth
  simp [deviceType, getFileRegex_eq, h, hauth, stringToDeviceType_convertDeviceType]

theorem deviceType_of_none (hauth : propertyValue env.authService deviceTypeKey = none)
    (h : propertyValue env.deviceProperties deviceTypeProperty = none) :
    deviceType env = (.errorGeneral, none) := by
  unfold propertyValue at h hauth
  simp [deviceType, getFileRegex_eq, h, hauth, stringToDeviceType_nil]

/-! ### Configured types -/

/-- The files name this type: `authService.conf` if its value is one of the names, or else
`device.properties`. -/
def Configured (type : DeviceTypeInfo) : Prop :=
  (∃ value, propertyValue env.authService deviceTypeKey = some value ∧
    stringToDeviceType (trimmed value) = some type) ∨
  ((∀ value, propertyValue env.authService deviceTypeKey = some value →
      stringToDeviceType (trimmed value) = none) ∧
    ∃ value, propertyValue env.deviceProperties deviceTypeProperty = some value ∧
      namedType (trimmed value) = type)

def ReportsConfigured : Prop :=
  (deviceType env).1 = .errorNone → ∃ type, (deviceType env).2 = some type ∧ Configured env type

/-- The value in `authService.conf` is one of the names, and the one in `device.properties`, which
is read if there is none, is not one of the two words with blanks or a NUL behind it. -/
structure KnownTypes : Prop where
  authService : ∀ value, propertyValue env.authService deviceTypeKey = some value →
    value ∈ deviceTypeNames
  deviceProperties : propertyValue env.authService deviceTypeKey = none →
    ∀ value, propertyValue env.deviceProperties deviceTypeProperty = some value →
      ∀ word ∈ [mediaclient, hybrid], trimmed value = word ↔ cStr value = word

theorem knownTypes_iff_of_authService {value : Text}
    (h : propertyValue env.authService deviceTypeKey = some value) :
    KnownTypes env ↔ value ∈ deviceTypeNames := by
  constructor
  · intro hknown
    exact hknown.authService value h
  · intro hmem
    constructor
    · intro other hother
      rw [h, Option.some.injEq] at hother
      exact hother ▸ hmem
    · intro hnone
      rw [h] at hnone
      cases hnone

theorem knownTypes_iff_of_not_authService
    (hauth : propertyValue env.authService deviceTypeKey = none) :
    KnownTypes env ↔ ∀ value, propertyValue env.deviceProperties deviceTypeProperty = some value →
      ∀ word ∈ [mediaclient, hybrid], trimmed value = word ↔ cStr value = word := by
  constructor
  · intro hknown
    exact hknown.deviceProperties hauth
  · intro hwords
    constructor
    · intro other hother
      rw [hauth] at hother
      cases hother
    · exact fun _ => hwords

theorem reportsConfigured_iff : ReportsConfigured env ↔ KnownTypes env := by
  cases hauth : propertyValue env.authService deviceTypeKey with
  | some value =>
      have hresult := deviceType_of_authService env hauth
      rw [knownTypes_iff_of_authService env hauth]
      constructor
      · intro h
        obtain ⟨type, htype, _⟩ := h (by rw [hresult])
        rw [hresult] at htype
        exact (stringToDeviceType_isSome_iff value).mp (Option.isSome_of_eq_some htype)
      · intro hmem _
        obtain ⟨type, htype⟩ :=
          Option.isSome_iff_exists.mp ((stringToDeviceType_isSome_iff value).mpr hmem)
        refine ⟨type, by rw [hresult, htype], Or.inl ⟨value, hauth, ?_⟩⟩
        rw [trimmed_of_mem hmem, htype]
  | none =>
      rw [knownTypes_iff_of_not_authService env hauth]
      cases hproperty : propertyValue env.deviceProperties deviceTypeProperty with
      | some value =>
          have hresult := deviceType_of_deviceProperties env hauth hproperty
          have hconfigured : ∀ type, Configured env type ↔ namedType (trimmed value) = type := by
            intro type
            simp [Configured, hauth, hproperty]
          simp only [ReportsConfigured, hresult, hconfigured, Option.some.injEq, true_implies,
            exists_eq_left', namedType_eq_iff, forall_eq']
      | none =>
          have hresult := deviceType_of_none env hauth hproperty
          refine iff_of_true (fun herror => ?_) fun value hvalue => by cases hvalue
          rw [hresult] at herror
          cases herror

/-- `deviceType=x`. -/
def unknownType : DeviceEnv where
  authService := some (deviceTypeKey ++ ['=', 'x'])

theorem not_reportsConfigured_unknownType :
    deviceType unknownType = (.errorNone, none) ∧ ¬ ReportsConfigured unknownType := by
  have hresult : deviceType unknownType = (.errorNone, none) := by decide
  refine ⟨hresult, fun h => ?_⟩
  obtain ⟨type, htype, _⟩ := h (by rw [hresult])
  rw [hresult] at htype
  cases htype

end DeviceAndDisplay.DeviceInfo
