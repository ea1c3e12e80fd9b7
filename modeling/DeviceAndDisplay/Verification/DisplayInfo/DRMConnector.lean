import DeviceAndDisplay.Model.DisplayInfo.KmsSetup
import DeviceAndDisplay.Storage.Selection
import Mathlib.Data.List.ReduceOption

/-! # The display found among the connectors

Every connector of the wanted type sets all fields again, so the last one decides alone. -/

namespace DeviceAndDisplay.DisplayInfo

open Storage

variable {connectors : List (Option DrmModeConnector)} {drmConnectorType : UInt32}
  {usePreferredMode : Bool} {best mode : DrmModeInfo} {modes : List DrmModeInfo}
  {connector : DrmModeConnector} {display : DRMConnector}

/-- The connectors of the device that have the type. -/
def ofType (connectors : List (Option DrmModeConnector)) (drmConnectorType : UInt32) :
    List DrmModeConnector :=
  connectors.reduceOption.filter (·.connectorType = drmConnectorType)

def Eligible (usePreferredMode : Bool) (mode : DrmModeInfo) : Prop :=
  usePreferredMode = true → mode.preferred = true

def HasEligible (usePreferredMode : Bool) (connector : DrmModeConnector) : Prop :=
  ∃ mode ∈ connector.modes, Eligible usePreferredMode mode

/-- The display shows the mode of the connector. -/
structure Shows (usePreferredMode : Bool) (connector : DrmModeConnector) (mode : DrmModeInfo)
    (display : DRMConnector) : Prop where
  mem : mode ∈ connector.modes
  eligible : Eligible usePreferredMode mode
  width_eq : display.width = mode.hdisplay.toUInt32
  height_eq : display.height = mode.vdisplay.toUInt32
  refreshRate_eq : display.refreshRate = mode.vrefresh
  largest : usePreferredMode = false → ∀ other ∈ connector.modes, other.area ≤ mode.area

/-- What is read is a display of a connector of the type, and none only if there is none. -/
structure Describes (connectors : List (Option DrmModeConnector)) (drmConnectorType : UInt32)
    (usePreferredMode : Bool) (display : DRMConnector) : Prop where
  connected_iff : display.connected = true ↔
    ∃ connector ∈ ofType connectors drmConnectorType, HasEligible usePreferredMode connector
  of_connected : display.connected = true →
    ∃ connector ∈ ofType connectors drmConnectorType, ∃ mode,
      Shows usePreferredMode connector mode display
  of_not_connected : display.connected = false →
    display.width = 0 ∧ display.height = 0 ∧ display.refreshRate = 0

def FindsDisplay (connectors : List (Option DrmModeConnector)) (drmConnectorType : UInt32)
    (usePreferredMode : Bool) : Prop :=
  ∃ display, drmConnector connectors drmConnectorType usePreferredMode = some display ∧
    Describes connectors drmConnectorType usePreferredMode display

/-! ### The best mode -/

theorem greater_eq_some_iff {greater : Bool} :
    best.greater mode = some greater ↔
      (best.AreaFits ∧ mode.AreaFits) ∧ greater = decide (best.area > mode.area) := by
  unfold DrmModeInfo.greater
  split
  · rename_i hfits
    simp [hfits, eq_comm]
  · rename_i hfits
    simp [hfits]

theorem betterMode_some_eq {result : Option DrmModeInfo} :
    betterMode (some best) mode = some result ↔
      (best.AreaFits ∧ mode.AreaFits) ∧
        result = some (if best.area > mode.area then best else mode) := by
  unfold betterMode
  simp only [Option.map_eq_some_iff, greater_eq_some_iff]
  constructor
  · rintro ⟨greater, ⟨hfits, rfl⟩, rfl⟩
    exact ⟨hfits, by simp⟩
  · rintro ⟨hfits, rfl⟩
    exact ⟨_, ⟨hfits, rfl⟩, by simp⟩

/-- The better mode of the accumulator goes on, and every mode is compared with it. -/
theorem foldlM_betterMode {result : Option DrmModeInfo} (modes : List DrmModeInfo)
    (best : DrmModeInfo) (hresult : modes.foldlM betterMode (some best) = some result) :
    (modes ≠ [] → ∀ mode ∈ best :: modes, mode.AreaFits) ∧
      ∃ mode ∈ best :: modes, result = some mode ∧
        ∀ other ∈ best :: modes, other.area ≤ mode.area := by
  induction modes generalizing best with
  | nil =>
      simp only [List.foldlM_nil] at hresult
      refine ⟨fun h => absurd rfl h, best, by simp, (Option.some_inj.mp hresult).symm, ?_⟩
      simp
  | cons next modes ih =>
      rw [List.foldlM_cons] at hresult
      obtain ⟨middle, hmiddle, hresult⟩ := Option.bind_eq_some_iff.mp hresult
      obtain ⟨⟨hbest, hnext⟩, rfl⟩ := betterMode_some_eq.mp hmiddle
      obtain ⟨hfits, mode, hmode, hmodeEq, hlargest⟩ := ih _ hresult
      have hlarge := hlargest _ List.mem_cons_self
      have hrest : ∀ other ∈ modes, other.area ≤ mode.area := fun other hother =>
        hlargest other (List.mem_cons_of_mem _ hother)
      constructor
      · intro _ other hother
        rcases List.mem_cons.mp hother with rfl | hother
        · exact hbest
        · rcases List.mem_cons.mp hother with rfl | hother
          · exact hnext
          · exact hfits (List.ne_nil_of_mem hother) other (List.mem_cons_of_mem _ hother)
      · refine ⟨mode, ?_, hmodeEq, ?_⟩
        · rcases List.mem_cons.mp hmode with rfl | hmode
          · split <;> simp
          · simp [hmode]
        · have hboth : best.area ≤ mode.area ∧ next.area ≤ mode.area := by
            split at hlarge <;> omega
          simpa [hboth.1, hboth.2] using hrest

theorem foldlM_betterMode_isSome (modes : List DrmModeInfo) (best : DrmModeInfo)
    (hfits : ∀ mode ∈ best :: modes, mode.AreaFits) :
    ∃ result, modes.foldlM betterMode (some best) = some result := by
  induction modes generalizing best with
  | nil => exact ⟨some best, rfl⟩
  | cons next modes ih =>
      have hbest : best.AreaFits := hfits best (by simp)
      have hnext : next.AreaFits := hfits next (by simp)
      have hbetter := betterMode_some_eq.mpr ⟨⟨hbest, hnext⟩, rfl⟩
      rw [List.foldlM_cons, hbetter]
      apply ih
      intro mode hmode
      rcases List.mem_cons.mp hmode with rfl | hmode
      · split
        · exact hbest
        · exact hnext
      · exact hfits mode (by simp [hmode])

/-- No product of the modes that are compared overflows. -/
def AreasFit (modes : List DrmModeInfo) : Prop :=
  2 ≤ modes.length → ∀ mode ∈ modes, mode.AreaFits

theorem bestMode_isSome_iff : (∃ result, bestMode modes = some result) ↔ AreasFit modes := by
  unfold bestMode AreasFit
  cases modes with
  | nil => simp
  | cons best modes =>
      rw [List.foldlM_cons]
      change (∃ result, modes.foldlM betterMode (some best) = some result) ↔ _
      constructor
      · intro h hlength
        obtain ⟨result, hresult⟩ := h
        refine (foldlM_betterMode modes best hresult).1 fun hnil => ?_
        subst hnil
        simp at hlength
      · intro hfits
        cases modes with
        | nil => exact ⟨some best, rfl⟩
        | cons next modes => exact foldlM_betterMode_isSome _ _ (hfits (by simp))

theorem bestMode_eq_some {result : Option DrmModeInfo} (h : bestMode modes = some result) :
    (result = none ∧ modes = []) ∨
      ∃ mode ∈ modes, result = some mode ∧ ∀ other ∈ modes, other.area ≤ mode.area := by
  unfold bestMode at h
  cases modes with
  | nil => exact .inl ⟨(Option.some_inj.mp h).symm, rfl⟩
  | cons best modes => exact .inr (foldlM_betterMode modes best h).2

/-! ### The preferred mode -/

theorem preferredMode_append_singleton :
    preferredMode (modes ++ [mode]) =
      if mode.preferred then some mode else preferredMode modes := by
  rw [preferredMode, List.foldl_append]
  rfl

theorem preferredMode_cases (modes : List DrmModeInfo) :
    (preferredMode modes = none ∧ ∀ mode ∈ modes, ¬ mode.preferred) ∨
      ∃ mode ∈ modes, preferredMode modes = some mode ∧ mode.preferred := by
  induction modes using List.reverseRecOn with
  | nil => exact .inl ⟨rfl, by simp⟩
  | append_singleton modes mode ih =>
      rw [preferredMode_append_singleton]
      by_cases hmode : mode.preferred
      · exact .inr ⟨mode, by simp, if_pos hmode, hmode⟩
      · rw [if_neg hmode]
        rcases ih with ⟨hnone, hall⟩ | ⟨last, hlast, hlastEq, hpreferred⟩
        · refine .inl ⟨hnone, fun other hother => ?_⟩
          rcases List.mem_append.mp hother with hother | hother
          · exact hall other hother
          · rwa [List.mem_singleton.mp hother]
        · exact .inr ⟨last, by simp [hlast], hlastEq, hpreferred⟩

/-! ### One connector -/

theorem initializeWithConnector_isSome_iff :
    (∃ display, initializeWithConnector connector usePreferredMode = some display) ↔
      (usePreferredMode = false → AreasFit connector.modes) := by
  cases usePreferredMode with
  | true => simp [initializeWithConnector]
  | false =>
      simp only [initializeWithConnector, Bool.false_eq_true, if_false, Option.map_eq_some_iff,
        forall_const]
      rw [← bestMode_isSome_iff]
      constructor
      · rintro ⟨_, result, hresult, _⟩
        exact ⟨result, hresult⟩
      · rintro ⟨result, hresult⟩
        exact ⟨_, result, hresult, rfl⟩

theorem shows_ofMode (hmem : mode ∈ connector.modes) (heligible : Eligible usePreferredMode mode)
    (hlargest : usePreferredMode = false → ∀ other ∈ connector.modes, other.area ≤ mode.area) :
    Shows usePreferredMode connector mode (.ofMode (some mode)) :=
  ⟨hmem, heligible, rfl, rfl, rfl, hlargest⟩

/-- Each connector is described by what it is initialized to. -/
theorem initializeWithConnector_eq_some
    (h : initializeWithConnector connector usePreferredMode = some display) :
    (display = {} ∧ ¬ HasEligible usePreferredMode connector) ∨
      display.connected = true ∧ HasEligible usePreferredMode connector ∧
        ∃ mode, Shows usePreferredMode connector mode display := by
  cases usePreferredMode with
  | true =>
      obtain rfl := Option.some_inj.mp h
      rcases preferredMode_cases connector.modes with ⟨hnone, hall⟩ | ⟨mode, hmem, heq, hpref⟩
      · rw [hnone]
        refine .inl ⟨rfl, ?_⟩
        rintro ⟨mode, hmem, heligible⟩
        exact hall mode hmem (heligible rfl)
      · rw [heq]
        refine .inr ⟨rfl, ⟨mode, hmem, fun _ => hpref⟩, mode, ?_⟩
        exact shows_ofMode hmem (fun _ => hpref) (by simp)
  | false =>
      obtain ⟨result, hresult, rfl⟩ := Option.map_eq_some_iff.mp h
      rcases bestMode_eq_some hresult with ⟨rfl, hnil⟩ | ⟨mode, hmem, rfl, hlargest⟩
      · refine .inl ⟨rfl, ?_⟩
        rintro ⟨mode, hmem, _⟩
        rw [hnil] at hmem
        cases hmem
      · refine .inr ⟨rfl, ⟨mode, hmem, by simp [Eligible]⟩, mode, ?_⟩
        exact shows_ofMode hmem (by simp [Eligible]) fun _ => hlargest

/-! ### All connectors -/

theorem drmConnector_eq_foldlM (connectors : List (Option DrmModeConnector))
    (drmConnectorType : UInt32) (usePreferredMode : Bool) :
    drmConnector connectors drmConnectorType usePreferredMode =
      (ofType connectors drmConnectorType).foldlM
        (fun _ connector => initializeWithConnector connector usePreferredMode) {} := by
  unfold drmConnector
  generalize ({} : DRMConnector) = display
  induction connectors generalizing display with
  | nil => rfl
  | cons answer connectors ih =>
      rw [List.foldlM_cons]
      cases answer with
      | none => exact ih display
      | some connector =>
          by_cases htype : connector.connectorType = drmConnectorType
          · have hcons : ofType (some connector :: connectors) drmConnectorType =
                connector :: ofType connectors drmConnectorType := by
              simp [ofType, htype]
            rw [hcons, List.foldlM_cons]
            simp only [htype, if_true]
            exact congrArg _ (funext ih)
          · have hcons : ofType (some connector :: connectors) drmConnectorType =
                ofType connectors drmConnectorType := by
              simp [ofType, htype]
            rw [hcons]
            simp only [htype, if_false]
            exact ih display

/-- If some connector has an eligible mode then the last one has. -/
def LastDecides (usePreferredMode : Bool) (connectors : List DrmModeConnector) : Prop :=
  ∀ connector ∈ connectors, HasEligible usePreferredMode connector →
    ∃ last, connectors.getLast? = some last ∧ HasEligible usePreferredMode last

theorem describes_of_last {last : DrmModeConnector}
    (hlast : (ofType connectors drmConnectorType).getLast? = some last)
    (hdecides : LastDecides usePreferredMode (ofType connectors drmConnectorType))
    (hdisplay : initializeWithConnector last usePreferredMode = some display) :
    Describes connectors drmConnectorType usePreferredMode display := by
  have hmem := List.mem_of_getLast? hlast
  rcases initializeWithConnector_eq_some hdisplay with
    ⟨rfl, hnone⟩ | ⟨hconnected, helig, mode, hshows⟩
  · refine ⟨⟨fun h => (by cases h), ?_⟩, fun h => (by cases h), fun _ => ⟨rfl, rfl, rfl⟩⟩
    rintro ⟨connector, hconnector, helig⟩
    obtain ⟨last', hlast', helig'⟩ := hdecides connector hconnector helig
    rw [hlast] at hlast'
    obtain rfl := Option.some_inj.mp hlast'
    exact absurd helig' hnone
  · refine ⟨⟨fun _ => ⟨last, hmem, helig⟩, fun _ => hconnected⟩,
      fun _ => ⟨last, hmem, mode, hshows⟩, fun h => ?_⟩
    rw [hconnected] at h
    cases h

/-- The display is found exactly if no product overflows, and no connector without an eligible mode
comes after the ones that have one. -/
theorem findsDisplay_iff (connectors : List (Option DrmModeConnector)) (drmConnectorType : UInt32)
    (usePreferredMode : Bool) :
    FindsDisplay connectors drmConnectorType usePreferredMode ↔
      (usePreferredMode = false →
        ∀ connector ∈ ofType connectors drmConnectorType, AreasFit connector.modes) ∧
      LastDecides usePreferredMode (ofType connectors drmConnectorType) := by
  unfold FindsDisplay
  simp only [drmConnector_eq_foldlM, foldlM_overwrite_eq_some_iff,
    initializeWithConnector_isSome_iff]
  constructor
  · rintro ⟨display, ⟨hdefined, hend⟩, hdescribes⟩
    refine ⟨fun hpref connector hmem => hdefined connector hmem hpref, ?_⟩
    intro connector hmem helig
    have hconnected := hdescribes.connected_iff.mpr ⟨connector, hmem, helig⟩
    rcases hend with ⟨hnil, _⟩ | ⟨last, hlast, hdisplay⟩
    · rw [hnil] at hmem
      cases hmem
    · rcases initializeWithConnector_eq_some hdisplay with ⟨rfl, _⟩ | ⟨_, helig, _⟩
      · cases hconnected
      · exact ⟨last, hlast, helig⟩
  · rintro ⟨hfits, hdecides⟩
    have hdefined := fun connector hmem hpref => hfits hpref connector hmem
    cases hlast : (ofType connectors drmConnectorType).getLast? with
    | none =>
        have hnil := List.getLast?_eq_none_iff.mp hlast
        refine ⟨{}, ⟨hdefined, .inl ⟨hnil, rfl⟩⟩, ⟨fun h => (by cases h), ?_⟩,
          fun h => (by cases h), fun _ => ⟨rfl, rfl, rfl⟩⟩
        rintro ⟨connector, hmem, _⟩
        rw [hnil] at hmem
        cases hmem
    | some last =>
        have hlastFits := hdefined last (List.mem_of_getLast? hlast)
        obtain ⟨display, hdisplay⟩ := initializeWithConnector_isSome_iff.mpr hlastFits
        exact ⟨display, ⟨hdefined, .inr ⟨last, rfl, hdisplay⟩⟩,
          describes_of_last hlast hdecides hdisplay⟩

/-- A connected display, and after it a connector of the same type that has none. -/
def displayThenNone : List (Option DrmModeConnector) := [
  some {
    connectorType := 11
    modes := [{ hdisplay := 1920, vdisplay := 1080, vrefresh := 60, type := 8 }] },
  some { connectorType := 11, modes := [] }]

theorem not_findsDisplay_displayThenNone : ¬ FindsDisplay displayThenNone 11 false := by
  rintro ⟨display, hdisplay, hdescribes⟩
  have hfound : display = {} := (Option.some_inj.mp hdisplay).symm
  have hmode : HasEligible false { connectorType := 11, modes := [⟨1920, 1080, 60, 8⟩] } :=
    ⟨_, List.mem_cons_self, fun h => (by cases h)⟩
  have hmem : { connectorType := 11, modes := [⟨1920, 1080, 60, 8⟩] } ∈
      ofType displayThenNone 11 := List.mem_cons_self
  have hconnected := hdescribes.connected_iff.mpr ⟨_, hmem, hmode⟩
  rw [hfound] at hconnected
  cases hconnected

end DeviceAndDisplay.DisplayInfo
