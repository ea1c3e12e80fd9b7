import DeviceAndDisplay.Model.DisplaySettings.DisplayCache
import DeviceAndDisplay.Transition.Run

/-! # What the display caches answer

Each cache holds one value for all ports. It is that of the port that was asked last, as the port
was when it was asked. -/

namespace DeviceAndDisplay.DisplaySettings

open Helpers Transition

/-- The display with the port that filled each cache since it was last invalidated. -/
structure TrackedDisplay where
  display : Display
  connectionOf : Option Text := none
  /-- The port, and the name of its resolution when it was asked. -/
  resolutionOf : Option (Text × Text) := none

namespace TrackedDisplay

/-- The port that a call of `isDisplayConnected` asks. -/
def askedConnection (port : Text) (t : TrackedDisplay) : Option Text :=
  if t.display.cache.isDisplayConnectedCacheUpdated = false ∨
      stringContains port hdmi0 = false then
    (t.display.ports.isDisplayConnected port).map fun _ => port
  else none

def videoPort (videoDisplay : Option Text) (t : TrackedDisplay) : Text :=
  videoDisplay.getD t.display.ports.defaultVideoPortName

def askedResolution (videoDisplay : Option Text) (t : TrackedDisplay) : Option (Text × Text) :=
  if t.display.cache.isResCacheUpdated = false then
    (t.display.ports.resolution (t.videoPort videoDisplay)).map fun name =>
      (t.videoPort videoDisplay, name)
  else none

def afterAction (t : TrackedDisplay) (d : Display) : DisplayAction → TrackedDisplay
  | .isDisplayConnected port => ⟨d, (t.askedConnection port).or t.connectionOf, t.resolutionOf⟩
  | .getCurrentResolution videoDisplay =>
      ⟨d, t.connectionOf, (t.askedResolution videoDisplay).or t.resolutionOf⟩
  | .onDisplayHDMIHotPlug | .onPowerModeChanged true => ⟨d, none, none⟩
  | .onResolutionPreChange => ⟨d, t.connectionOf, none⟩
  | _ => ⟨d, t.connectionOf, t.resolutionOf⟩

def step (t : TrackedDisplay) (a : DisplayAction) : Option TrackedDisplay :=
  (displayStep t.display a).map fun d => t.afterAction d a

/-- Outside the interval between a change and its event, a call answers as the hardware does. -/
def Truthful (t : TrackedDisplay) : DisplayAction → Prop
  | .isDisplayConnected port => t.display.unannounced = 0 →
      (t.display.cache.isDisplayConnected t.display.ports port).1 =
        t.display.ports.isDisplayConnected port
  | .getCurrentResolution videoDisplay => true ∉ t.display.resolutionChanges →
      (t.display.cache.getCurrentResolution t.display.ports videoDisplay).1 =
        (t.display.ports.resolution (t.videoPort videoDisplay)).map DisplayCache.describe
  | _ => True

/-- The port that filled the cache is in the state of the port that is asked for. -/
def FilledAlike (t : TrackedDisplay) : DisplayAction → Prop
  | .isDisplayConnected port => t.display.unannounced = 0 →
      stringContains port hdmi0 = true → ∀ source, t.connectionOf = some source →
        t.display.ports.isDisplayConnected source = t.display.ports.isDisplayConnected port
  | .getCurrentResolution videoDisplay => true ∉ t.display.resolutionChanges →
      ∀ source name, t.resolutionOf = some (source, name) →
        t.display.ports.resolution (t.videoPort videoDisplay) = some name
  | _ => True

/-! ### The invariant -/

structure Sound (t : TrackedDisplay) : Prop where
  connectionFilled : t.display.cache.isDisplayConnectedCacheUpdated = t.connectionOf.isSome
  connection : t.display.unannounced = 0 → ∀ source, t.connectionOf = some source →
    t.display.ports.isDisplayConnected source = some t.display.cache.isHdmiDisplayConnected
  resolutionFilled : t.display.cache.isResCacheUpdated = t.resolutionOf.isSome
  resolution : ∀ source name, t.resolutionOf = some (source, name) →
    t.display.cache.currentResolutionCache = name

theorem sound_init (ports : VideoOutputPorts) : Sound { display := { ports := ports } } where
  connectionFilled := rfl
  connection := by simp
  resolutionFilled := rfl
  resolution := by simp

variable {t u : TrackedDisplay}

theorem sound_isDisplayConnected (ht : t.Sound) (port : Text)
    (h : t.step (.isDisplayConnected port) = some u) : u.Sound := by
  cases h
  by_cases hask : t.display.cache.isDisplayConnectedCacheUpdated = false ∨
      stringContains port hdmi0 = false
  · cases hport : t.display.ports.isDisplayConnected port with
    | none =>
        have hsame : t.display.cache.isDisplayConnected t.display.ports port =
            (none, t.display.cache) := by
          simp only [DisplayCache.isDisplayConnected, if_pos hask, hport]
        simp only [afterAction, askedConnection, if_pos hask, hport, hsame, Option.map_none,
          Option.none_or]
        exact ht
    | some isConnected =>
        simp only [afterAction, askedConnection, if_pos hask, hport, Option.map_some,
          Option.some_or, DisplayCache.isDisplayConnected]
        refine ⟨rfl, ?_, ht.resolutionFilled, ht.resolution⟩
        rintro _ source ⟨⟩
        exact hport
  · have hsame : (t.display.cache.isDisplayConnected t.display.ports port).2 = t.display.cache := by
      simp only [DisplayCache.isDisplayConnected, if_neg hask]
    simp only [afterAction, askedConnection, if_neg hask, hsame, Option.none_or]
    exact ht

theorem sound_getCurrentResolution (ht : t.Sound) (videoDisplay : Option Text)
    (h : t.step (.getCurrentResolution videoDisplay) = some u) : u.Sound := by
  cases h
  by_cases hask : t.display.cache.isResCacheUpdated = false
  · cases hport : t.display.ports.resolution (t.videoPort videoDisplay) with
    | none =>
        have hsame : t.display.cache.getCurrentResolution t.display.ports videoDisplay =
            (none, t.display.cache) := by
          rw [videoPort] at hport
          simp only [DisplayCache.getCurrentResolution, if_pos hask, hport]
        simp only [afterAction, askedResolution, if_pos hask, hport, hsame, Option.map_none,
          Option.none_or]
        exact ht
    | some name =>
        rw [videoPort] at hport
        simp only [afterAction, askedResolution, videoPort, if_pos hask, hport, Option.map_some,
          Option.some_or, DisplayCache.getCurrentResolution]
        refine ⟨ht.connectionFilled, ht.connection, rfl, ?_⟩
        rintro source _ ⟨⟩
        rfl
  · have hsame : (t.display.cache.getCurrentResolution t.display.ports videoDisplay).2 =
        t.display.cache := by
      simp only [DisplayCache.getCurrentResolution, if_neg hask]
    simp only [afterAction, askedResolution, if_neg hask, hsame, Option.none_or]
    exact ht

/-- A change of a connection is followed by an event that invalidates both caches. -/
theorem sound_step {a : DisplayAction} (ht : t.Sound) (h : t.step a = some u) : u.Sound := by
  cases a with
  | isDisplayConnected port => exact sound_isDisplayConnected ht port h
  | getCurrentResolution videoDisplay => exact sound_getCurrentResolution ht videoDisplay h
  | changeConnection port isConnected =>
      obtain ⟨d, hd, rfl⟩ := Option.map_eq_some_iff.mp h
      obtain ⟨_, _, rfl⟩ := Option.map_eq_some_iff.mp hd
      refine ⟨ht.connectionFilled, fun hzero => ?_, ht.resolutionFilled, ht.resolution⟩
      exact absurd hzero (Nat.succ_ne_zero _)
  | onDisplayHDMIHotPlug =>
      cases h
      exact ⟨rfl, by simp [afterAction], rfl, by simp [afterAction]⟩
  | onResolutionPreChange =>
      cases h
      exact ⟨ht.connectionFilled, ht.connection, rfl, by simp [afterAction]⟩
  | changeResolution i port name =>
      obtain ⟨d, hd, rfl⟩ := Option.map_eq_some_iff.mp h
      obtain ⟨_, hd⟩ := Option.ite_none_right_eq_some.mp hd
      obtain ⟨_, _, rfl⟩ := Option.map_eq_some_iff.mp hd
      exact ⟨ht.connectionFilled, ht.connection, ht.resolutionFilled, ht.resolution⟩
  | onResolutionPostChange i =>
      obtain ⟨d, hd, rfl⟩ := Option.map_eq_some_iff.mp h
      obtain ⟨_, hd⟩ := Option.ite_none_right_eq_some.mp hd
      cases hd
      exact ⟨ht.connectionFilled, ht.connection, ht.resolutionFilled, ht.resolution⟩
  | onPowerModeChanged on =>
      cases on with
      | false =>
          cases h
          exact ht
      | true =>
          cases h
          exact ⟨rfl, by simp [afterAction], rfl, by simp [afterAction]⟩

/-! ### When the answers are right -/

theorem truthful_isDisplayConnected_iff (ht : t.Sound) (port : Text) :
    t.Truthful (.isDisplayConnected port) ↔ t.FilledAlike (.isDisplayConnected port) := by
  apply imp_congr_right
  intro hsettled
  cases hfilled : t.connectionOf with
  | none =>
      have hask : t.display.cache.isDisplayConnectedCacheUpdated = false ∨
          stringContains port hdmi0 = false :=
        .inl (by rw [ht.connectionFilled, hfilled]; rfl)
      simp only [DisplayCache.isDisplayConnected, if_pos hask]
      cases t.display.ports.isDisplayConnected port <;> simp
  | some source =>
      have hupdated : t.display.cache.isDisplayConnectedCacheUpdated = true := by
        rw [ht.connectionFilled, hfilled]
        rfl
      have hsource := ht.connection hsettled source hfilled
      cases hhdmi : stringContains port hdmi0 with
      | false =>
          have hask : t.display.cache.isDisplayConnectedCacheUpdated = false ∨
              stringContains port hdmi0 = false := .inr hhdmi
          simp only [DisplayCache.isDisplayConnected, if_pos hask]
          cases t.display.ports.isDisplayConnected port <;> simp
      | true =>
          simp [DisplayCache.isDisplayConnected, hupdated, hhdmi, hsource]

theorem describe_injective : Function.Injective DisplayCache.describe := fun _ _ h =>
  congrArg Resolution.resolution h

theorem truthful_getCurrentResolution_iff (ht : t.Sound) (videoDisplay : Option Text) :
    t.Truthful (.getCurrentResolution videoDisplay) ↔
      t.FilledAlike (.getCurrentResolution videoDisplay) := by
  apply imp_congr_right
  intro _
  cases hfilled : t.resolutionOf with
  | none =>
      have hask : t.display.cache.isResCacheUpdated = false := by
        rw [ht.resolutionFilled, hfilled]
        rfl
      simp only [DisplayCache.getCurrentResolution, if_pos hask, videoPort]
      cases t.display.ports.resolution
        (videoDisplay.getD t.display.ports.defaultVideoPortName) <;> simp
  | some filled =>
      obtain ⟨source, name⟩ := filled
      have hask : ¬ t.display.cache.isResCacheUpdated = false := by
        rw [ht.resolutionFilled, hfilled]
        simp
      have hname := ht.resolution source name hfilled
      simp only [DisplayCache.getCurrentResolution, if_neg hask, hname]
      constructor
      · rintro h _ _ ⟨⟩
        obtain ⟨res, hres, heq⟩ := Option.map_eq_some_iff.mp h.symm
        rw [hres, describe_injective heq]
      · intro h
        rw [h source name rfl, Option.map_some]

/-- A television at HDMI0, and nothing at the composite output. -/
def twoPorts : VideoOutputPorts where
  isDisplayConnected port :=
    if port = hdmi0 then some true else if port = ['C', 'V', 'B', 'S'] then some false else none
  resolution port := if port = hdmi0 then some ['7', '2', '0', 'p'] else none
  defaultVideoPortName := hdmi0

/-- All answers of a run are right exactly when each port that filled a cache was, when it was
asked, as the port for which the cache answers is now. -/
theorem display_caches_truthful_iff (ports : VideoOutputPorts) (as : List DisplayAction) :
    Along step Truthful { display := { ports := ports } } as ↔
      Along step FilledAlike { display := { ports := ports } } as := by
  refine along_iff_along (fun _ _ _ hs _ h => sound_step hs h) (fun t a hs => ?_)
    (sound_init ports) as
  cases a with
  | isDisplayConnected port => exact truthful_isDisplayConnected_iff hs port
  | getCurrentResolution videoDisplay => exact truthful_getCurrentResolution_iff hs videoDisplay
  | _ => exact Iff.rfl

/-- The composite port is asked first, and HDMI0 counts as disconnected; the resolution is asked
for between the announcement of its change and the change, and the old one is kept. -/
theorem display_cache_wrong :
    (∃ d, run displayStep { ports := twoPorts } [.isDisplayConnected ['C', 'V', 'B', 'S']] =
        some d ∧ d.unannounced = 0 ∧ d.ports.isDisplayConnected hdmi0 = some true ∧
      (d.cache.isDisplayConnected d.ports hdmi0).1 = some false) ∧
    ∃ d, run displayStep { ports := twoPorts }
        [.onResolutionPreChange, .getCurrentResolution none,
          .changeResolution 0 hdmi0 ['1', '0', '8', '0', 'p'], .onResolutionPostChange 0] = some d ∧
      d.resolutionChanges = [] ∧ d.ports.resolution hdmi0 = some ['1', '0', '8', '0', 'p'] ∧
      (d.cache.getCurrentResolution d.ports none).1.map Resolution.resolution =
        some ['7', '2', '0', 'p'] :=
  ⟨⟨_, rfl, rfl, by decide, by decide⟩, ⟨_, rfl, rfl, by decide, by decide⟩⟩

end TrackedDisplay

end DeviceAndDisplay.DisplaySettings
