import DeviceAndDisplay.Model.DisplaySettings.SoundMode
import DeviceAndDisplay.Transition.Exception

/-! # The ports that setSoundMode sets

The calls of itself have no label `audioPort`, so they are for the same port as the call without
one: they set no port, or all of them the same one, or they go on without end. -/

namespace DeviceAndDisplay.DisplaySettings

open Helpers Transition

namespace SoundState

variable {env : SoundEnv} {s₀ s t : SoundState} {q port : Text} {mode : AudioStereoMode}
  {stereoAuto persist : Bool}

/-- How often it was tried to set the port. -/
def attempts (q : Text) (s : SoundState) : ℕ := s.made.count (.getAudioOutputPort q)

/-- It was not tried to set the port. -/
def Leaves (q : Text) (s t : SoundState) : Prop := t.attempts q = s.attempts q

/-! ### Calls for another port -/

theorem call_leaves {c : SoundCall} (hc : c ≠ .getAudioOutputPort q) (h : Leaves q s₀ s) :
    Ends (Leaves q s₀) (Leaves q s₀) (env.call c s) := by
  have hmade : Leaves q s₀ { s with made := c :: s.made } := by
    rw [Leaves, attempts, List.count_cons_of_ne hc]
    exact h
  unfold SoundEnv.call
  dsimp only
  split
  · exact hmade
  · exact hmade

theorem setAutoAndMode_leaves (h : Leaves q s₀ s) :
    Ends (Leaves q s₀) (Leaves q s₀) (s.setAutoAndMode port stereoAuto mode persist env) := by
  refine Ends.bind (call_leaves SoundCall.noConfusion h) fun t ht => ?_
  exact call_leaves SoundCall.noConfusion ht

theorem setHdmiMode_leaves (h : Leaves q s₀ s) :
    Ends (Leaves q s₀) (Leaves q s₀) (s.setHdmiMode port mode stereoAuto persist env) := by
  refine Ends.bind (call_leaves SoundCall.noConfusion h) fun t ht => ?_
  split
  · refine Ends.bind (call_leaves SoundCall.noConfusion ht) fun u hu => ?_
    exact call_leaves SoundCall.noConfusion hu
  · exact call_leaves SoundCall.noConfusion ht

theorem setArcMode_leaves (h : Leaves q s₀ s) :
    Ends (Leaves q s₀) (Leaves q s₀) (s.setArcMode port mode stereoAuto persist env) := by
  unfold setArcMode
  split
  · refine Ends.bind (call_leaves SoundCall.noConfusion h) fun t ht => ?_
    apply call_leaves SoundCall.noConfusion
    split
    · exact ht
    · exact ht
  · split
    · exact call_leaves SoundCall.noConfusion h
    · split
      · exact call_leaves SoundCall.noConfusion h
      · exact h

theorem setConnectedMode_leaves (h : Leaves q s₀ s) :
    Ends (Leaves q s₀) (Leaves q s₀) (s.setConnectedMode port mode stereoAuto persist env) := by
  unfold setConnectedMode
  split
  · split
    · exact setAutoAndMode_leaves h
    · exact setHdmiMode_leaves h
  · exact setArcMode_leaves h
  · split
    · exact call_leaves SoundCall.noConfusion h
    · exact setAutoAndMode_leaves h
  · split
    · exact call_leaves SoundCall.noConfusion h
    · exact setAutoAndMode_leaves h
  · exact h

theorem setDisconnectedMode_leaves (h : Leaves q s₀ s) :
    Ends (Leaves q s₀) (fun r => Leaves q s₀ r.1)
      (s.setDisconnectedMode port mode stereoAuto persist env) := by
  unfold setDisconnectedMode
  split
  · dsimp only
    split
    · refine Ends.bind (setAutoAndMode_leaves h) fun t ht => ?_
      exact ht
    · refine Ends.bind (call_leaves SoundCall.noConfusion h) fun t ht => ?_
      exact ht
  · refine Ends.bind (setAutoAndMode_leaves h) fun t ht => ?_
    exact ht
  · exact h

/-- Another port than the one that is set. -/
theorem setPortMode_leaves (hport : q ≠ port) (h : Leaves q s₀ s) :
    Ends (Leaves q s₀) (fun r => Leaves q s₀ r.1)
      (s.setPortMode port mode stereoAuto persist env) := by
  have hget : SoundCall.getAudioOutputPort port ≠ .getAudioOutputPort q := by
    intro hsame
    exact hport (SoundCall.getAudioOutputPort.inj hsame).symm
  refine Ends.bind (call_leaves hget h) fun t ht => ?_
  refine Ends.bind (call_leaves SoundCall.noConfusion ht) fun t ht => ?_
  refine Ends.bind (call_leaves SoundCall.noConfusion ht) fun t ht => ?_
  split
  · refine Ends.bind (setConnectedMode_leaves ht) fun t ht => ?_
    exact ht
  · exact setDisconnectedMode_leaves ht

/-! ### The calls of itself -/

/-- No port is named. -/
def Unnamed (parameters : SoundParams) : Prop :=
  parameters.audioPort = none ∨ parameters.audioPort = some []

/-- The mode is one that is not auto. -/
def NamesMode (parameters : SoundParams) : Prop :=
  ∃ soundMode mode, parameters.soundMode = some soundMode ∧
    Arc.soundModeOf (soundMode.map Char.toLower) = some (mode, false)

/-- It ends, and without a port it tries to set `HDMI0` and `SPDIF0` once each. -/
structure CoversPorts (env : SoundEnv) (parameters : SoundParams) (s : SoundState) : Prop where
  returns : ∃ fuel result, setSoundMode env fuel parameters s = some result
  covers : Unnamed parameters → NamesMode parameters →
    ∀ fuel result, setSoundMode env fuel parameters s = some result →
      result.1.attempts "HDMI0".toList = s.attempts "HDMI0".toList + 1 ∧
        result.1.attempts "SPDIF0".toList = s.attempts "SPDIF0".toList + 1

variable {parameters : SoundParams} {soundMode : Text} {fuel : ℕ} {result : SoundState × Bool}

/-- Only an empty name is one of no port. -/
theorem checkPortName_eq_nil_iff (name : Text) : Arc.checkPortName name = some [] ↔ name = [] := by
  constructor
  · intro h
    unfold Arc.checkPortName at h
    split at h
    · split at h
      · exact absurd h (by decide)
      · exact absurd h (by decide)
    · repeat' split at h
      · exact absurd h (by decide)
      · exact absurd h (by decide)
      · exact absurd h (by decide)
      · exact absurd h (by decide)
      · assumption
      · cases h
  · rintro rfl
    decide

theorem toLower_toLower (c : Char) : c.toLower.toLower = c.toLower := by
  unfold Char.toLower
  split
  · rename_i h
    have hlow : 65 ≤ c.val.toNat := h.1
    have hhigh : c.val.toNat ≤ 90 := h.2
    have hval : (c.val + 32).toNat = c.val.toNat + 32 := by
      rw [UInt32.toNat_add]
      change (c.val.toNat + 32) % 4294967296 = _
      omega
    rw [dif_neg]
    rintro ⟨_, hle⟩
    have hle : (c.val + 32).toNat ≤ 90 := hle
    omega
  · rfl

theorem map_toLower_map_toLower (text : Text) :
    (text.map Char.toLower).map Char.toLower = text.map Char.toLower := by
  rw [List.map_map]
  apply List.map_congr_left
  intro c _
  exact toLower_toLower c

/-- The port that is checked. -/
def namedPort (env : SoundEnv) (parameters : SoundParams) (stereoAuto : Bool) : Text :=
  if stereoAuto = true ∧ parameters.audioPort.getD env.missing = [] then "HDMI0".toList
  else parameters.audioPort.getD env.missing

/-- Without a known mode nothing is done. -/
theorem setSoundMode_of_unknown (env : SoundEnv) (fuel : ℕ) (s : SoundState)
    (h : ∀ text, parameters.soundMode = some text →
      Arc.soundModeOf (text.map Char.toLower) = none) :
    ∃ success, setSoundMode env (fuel + 1) parameters s = some (s, success) := by
  unfold setSoundMode
  cases hmode : parameters.soundMode with
  | none => exact ⟨false, rfl⟩
  | some text =>
      simp only [Option.map_some, h text hmode]
      exact ⟨true, rfl⟩

/-- For a port it returns at once, and sets no other one. -/
theorem setSoundMode_of_port (env : SoundEnv) (fuel : ℕ) (s : SoundState)
    (hmode : parameters.soundMode = some soundMode)
    (hnames : Arc.soundModeOf (soundMode.map Char.toLower) = some (mode, stereoAuto))
    (hne : namedPort env parameters stereoAuto ≠ []) :
    ∃ result, setSoundMode env (fuel + 1) parameters s = some result ∧
      ∀ q, Arc.checkPortName (namedPort env parameters stereoAuto) ≠ some q →
        Leaves q s result.1 := by
  have hchecked : Arc.checkPortName (namedPort env parameters stereoAuto) ≠ some [] :=
    (checkPortName_eq_nil_iff _).not.mpr hne
  unfold setSoundMode
  simp only [hmode, Option.map_some, hnames]
  rw [← namedPort]
  cases hport : Arc.checkPortName (namedPort env parameters stereoAuto) with
  | none => exact ⟨(s, false), rfl, fun _ _ => rfl⟩
  | some port =>
      cases port with
      | nil => exact absurd hport hchecked
      | cons c port =>
          simp only
          split
          · rename_i result hresult
            refine ⟨result, rfl, fun q hq => ?_⟩
            have hother : q ≠ c :: port := fun hsame => hq (congrArg some hsame.symm)
            exact (setPortMode_leaves hother rfl).of_ok hresult
          · rename_i t hresult
            refine ⟨(t, false), rfl, fun q hq => ?_⟩
            have hother : q ≠ c :: port := fun hsame => hq (congrArg some hsame.symm)
            exact (setPortMode_leaves hother rfl).of_error hresult

/-- Without a port it calls itself twice. -/
theorem setSoundMode_of_nil (hmode : parameters.soundMode = some soundMode)
    (hnames : Arc.soundModeOf (soundMode.map Char.toLower) = some (mode, false))
    (hempty : parameters.audioPort.getD env.missing = []) :
    setSoundMode env (fuel + 1) parameters s =
      (setSoundMode env fuel (portParams "HDMI0".toList (soundMode.map Char.toLower)) s).bind
        fun first =>
          (setSoundMode env fuel (portParams "SPDIF0".toList (soundMode.map Char.toLower))
            first.1).bind fun second => some (second.1, true) := by
  have hchecked := (checkPortName_eq_nil_iff []).mpr rfl
  rw [setSoundMode]
  simp only [hmode, Option.map_some, hnames, hempty, Bool.false_eq_true, false_and, if_false,
    hchecked]
  rfl

/-- The calls of itself name no port, but the same mode. -/
theorem soundModeOf_portParams
    (hnames : Arc.soundModeOf (soundMode.map Char.toLower) = some (mode, false)) :
    Arc.soundModeOf ((soundMode.map Char.toLower).map Char.toLower) = some (mode, false) := by
  rw [map_toLower_map_toLower]
  exact hnames

/-- With an empty text for a label that is not there, it goes on without end. -/
theorem setSoundMode_diverges (hmissing : env.missing = []) (hunnamed : Unnamed parameters)
    (hmode : parameters.soundMode = some soundMode)
    (hnames : Arc.soundModeOf (soundMode.map Char.toLower) = some (mode, false)) :
    setSoundMode env fuel parameters s = none := by
  induction fuel generalizing parameters soundMode s with
  | zero => rfl
  | succ fuel ih =>
      have hempty : parameters.audioPort.getD env.missing = [] := by
        rcases hunnamed with h | h
        · rw [h, Option.getD_none, hmissing]
        · rw [h, Option.getD_some]
      have hinner : setSoundMode env fuel
          (portParams "HDMI0".toList (soundMode.map Char.toLower)) s = none :=
        ih (Or.inl rfl) rfl (soundModeOf_portParams hnames)
      rw [setSoundMode_of_nil hmode hnames hempty, hinner]
      rfl

/-- With another text for it, a call without the label is for one port at most. -/
theorem setSoundMode_leaves (hmissing : env.missing ≠ []) (hport : parameters.audioPort = none)
    (hmode : parameters.soundMode = some soundMode)
    (hnames : Arc.soundModeOf (soundMode.map Char.toLower) = some (mode, false))
    (hq : Arc.checkPortName env.missing ≠ some q)
    (h : setSoundMode env fuel parameters s = some result) : Leaves q s result.1 := by
  cases fuel with
  | zero => cases h
  | succ fuel =>
      have hnamed : namedPort env parameters false = env.missing := by
        rw [namedPort, hport, Option.getD_none, if_neg (fun hboth => hmissing hboth.2)]
      obtain ⟨other, hother, hleaves⟩ := setSoundMode_of_port env fuel s hmode hnames
        (hnamed ▸ hmissing)
      rw [h, Option.some.injEq] at hother
      subst hother
      exact hleaves q (hnamed ▸ hq)

theorem setSoundMode_unnamed_leaves (hmissing : env.missing ≠ []) (hunnamed : Unnamed parameters)
    (hmode : parameters.soundMode = some soundMode)
    (hnames : Arc.soundModeOf (soundMode.map Char.toLower) = some (mode, false))
    (hq : Arc.checkPortName env.missing ≠ some q)
    (h : setSoundMode env fuel parameters s = some result) : Leaves q s result.1 := by
  rcases hunnamed with hport | hport
  · exact setSoundMode_leaves hmissing hport hmode hnames hq h
  · cases fuel with
    | zero => cases h
    | succ fuel =>
        have hempty : parameters.audioPort.getD env.missing = [] := by
          rw [hport, Option.getD_some]
        rw [setSoundMode_of_nil hmode hnames hempty] at h
        obtain ⟨first, hfirst, h⟩ := Option.bind_eq_some_iff.mp h
        obtain ⟨second, hsecond, h⟩ := Option.bind_eq_some_iff.mp h
        rw [Option.some.injEq] at h
        subst h
        have hinner := soundModeOf_portParams hnames
        have hleaves := setSoundMode_leaves hmissing rfl rfl hinner hq hfirst
        exact (setSoundMode_leaves hmissing rfl rfl hinner hq hsecond).trans hleaves

theorem not_coversPorts (hunnamed : Unnamed parameters) (hmode : NamesMode parameters) :
    ¬ CoversPorts env parameters s := by
  intro h
  obtain ⟨soundMode, mode, hsound, hnames⟩ := hmode
  obtain ⟨fuel, result, hresult⟩ := h.returns
  by_cases hmissing : env.missing = []
  · rw [setSoundMode_diverges hmissing hunnamed hsound hnames] at hresult
    cases hresult
  · obtain ⟨hhdmi, hspdif⟩ := h.covers hunnamed ⟨soundMode, mode, hsound, hnames⟩ fuel result
      hresult
    have hleaves : ∀ q, Arc.checkPortName env.missing ≠ some q → Leaves q s result.1 := by
      intro q hq
      exact setSoundMode_unnamed_leaves hmissing hunnamed hsound hnames hq hresult
    by_cases hport : Arc.checkPortName env.missing = some "HDMI0".toList
    · have hother : Arc.checkPortName env.missing ≠ some "SPDIF0".toList := by
        rw [hport]
        decide
      rw [hleaves _ hother] at hspdif
      omega
    · rw [hleaves _ hport] at hhdmi
      omega

theorem setSoundMode_returns (h : ¬ (Unnamed parameters ∧ NamesMode parameters)) :
    ∃ fuel result, setSoundMode env fuel parameters s = some result := by
  by_cases hunknown : ∀ text, parameters.soundMode = some text →
      Arc.soundModeOf (text.map Char.toLower) = none
  · obtain ⟨success, hresult⟩ := setSoundMode_of_unknown env 0 s hunknown
    exact ⟨1, _, hresult⟩
  · push Not at hunknown
    obtain ⟨text, htext, hknown⟩ := hunknown
    obtain ⟨⟨mode, stereoAuto⟩, hnames⟩ := Option.ne_none_iff_exists'.mp hknown
    have hne : namedPort env parameters stereoAuto ≠ [] := by
      rw [namedPort]
      split
      · decide
      · rename_i hport
        cases stereoAuto with
        | true => exact fun hempty => hport ⟨rfl, hempty⟩
        | false =>
            have hnamed : ¬ Unnamed parameters := fun hunnamed =>
              h ⟨hunnamed, text, mode, htext, hnames⟩
            rw [Unnamed, not_or] at hnamed
            obtain ⟨port, haudio⟩ := Option.ne_none_iff_exists'.mp hnamed.1
            rw [haudio, Option.getD_some]
            rintro rfl
            exact hnamed.2 haudio
    obtain ⟨result, hresult, _⟩ := setSoundMode_of_port env 0 s htext hnames hne
    exact ⟨1, result, hresult⟩

theorem coversPorts_iff (env : SoundEnv) (parameters : SoundParams) (s : SoundState) :
    CoversPorts env parameters s ↔ ¬ (Unnamed parameters ∧ NamesMode parameters) := by
  constructor
  · rintro h ⟨hunnamed, hmode⟩
    exact not_coversPorts hunnamed hmode h
  · intro h
    refine ⟨setSoundMode_returns h, fun hunnamed hmode => ?_⟩
    exact absurd ⟨hunnamed, hmode⟩ h

/-- An empty port and a known mode. -/
def stereoEverywhere : SoundParams where
  audioPort := some []
  soundMode := some "stereo".toList

/-- Whether `String()` gives the empty text or `null` for a label that is not there. -/
theorem not_coversPorts_stereo :
    ¬ CoversPorts { missing := [] } stereoEverywhere ⟨Arc.create false, []⟩ ∧
      ¬ CoversPorts { missing := "null".toList } stereoEverywhere ⟨Arc.create false, []⟩ := by
  have hmode : NamesMode stereoEverywhere := ⟨_, .stereo, rfl, by decide⟩
  constructor
  · exact not_coversPorts (Or.inr rfl) hmode
  · exact not_coversPorts (Or.inr rfl) hmode

end SoundState

end DeviceAndDisplay.DisplaySettings
