import DeviceAndDisplay.Verification.DisplaySettings.ArcRouting

/-! # Unrouting what was routed

The type of the device is overwritten without a look at what is routed: by a detection, by the
descriptors and by a power change. The audio is unrouted as it was routed as long as these agree
with the type that is recorded. -/

namespace DeviceAndDisplay.DisplaySettings

open Helpers Transition

namespace Routing

variable {r k : Routing}

/-! ### Soundness -/

/-- What is routed is what the flag and the type of the device say. -/
structure Sound (r : Routing) : Prop where
  routed : routed r.routings =
    if r.arcEarcAudioEnabled then some r.hdmiInAudioDeviceType else none
  typed : r.arcEarcAudioEnabled = true → r.hdmiInAudioDeviceType ≠ .none
  orderly : Orderly r.routings

theorem sound_create : ({} : Routing).Sound where
  routed := rfl
  typed h := by cases h
  orderly := trivial

theorem Sound.routed_some (h : r.Sound) (henabled : r.arcEarcAudioEnabled = true) :
    DisplaySettings.routed r.routings = some r.hdmiInAudioDeviceType :=
  h.routed.trans (if_pos henabled)

theorem Sound.routed_none (h : r.Sound) (hquiet : r.arcEarcAudioEnabled = false) :
    DisplaySettings.routed r.routings = none :=
  h.routed.trans (if_neg (by simp [hquiet]))

/-- The type is set while nothing is routed. -/
theorem Sound.retype (h : r.Sound) (hquiet : r.arcEarcAudioEnabled = false)
    (type : AudioARCType) : (r.setType type).Sound where
  routed := (h.routed_none hquiet).trans (if_neg (by simp [Routing.setType, hquiet])).symm
  typed henabled := absurd (hquiet.symm.trans henabled) Bool.false_ne_true
  orderly := h.orderly

/-- What is kept for the port does not matter. -/
theorem Sound.configured (h : r.Sound) (config : Option Bool) (persisted : Bool) :
    ({ r with config := config, persisted := persisted } : Routing).Sound :=
  ⟨h.routed, h.typed, h.orderly⟩

/-- The type of the device is routed while nothing is. -/
theorem Sound.route (h : r.Sound) (hquiet : r.arcEarcAudioEnabled = false)
    (htype : r.hdmiInAudioDeviceType ≠ .none) :
    (r.enableARC r.hdmiInAudioDeviceType true).Sound where
  routed := rfl
  typed _ := htype
  orderly := by
    refine ⟨fun other hother => ?_, h.orderly⟩
    rw [h.routed_none hquiet] at hother
    cases hother

theorem Sound.unroute (h : r.Sound) (henabled : r.arcEarcAudioEnabled = true) :
    (r.enableARC r.hdmiInAudioDeviceType false).Sound where
  routed := if_pos (h.routed_some henabled)
  typed henabled := by cases henabled
  orderly := h.orderly

theorem Sound.move (h : r.Sound) (hmove : r.Move k) : k.Sound := by
  cases hmove with
  | stay => exact h
  | assumed htype =>
      refine h.retype ?_ _
      exact eq_false_of_ne_true fun henabled => h.typed henabled htype
  | reset hquiet => exact h.retype hquiet _
  | configured config _ => exact h.configured config _

theorem Sound.enable (h : r.Sound) (henable : r.Enable k) : k.Sound := by
  cases henable with
  | refused => exact h
  | waits => exact h.configured ..
  | routes hquiet htype => exact (h.route hquiet htype).configured ..

theorem Sound.disable (h : r.Sound) (hdisable : r.Disable k) : k.Sound := by
  cases hdisable with
  | unrouted henabled _ => exact (h.unroute henabled).configured ..
  | unroutedAndReset henabled _ => exact ((h.unroute henabled).retype rfl _).configured ..
  | nothing _ => exact h.configured ..

theorem Sound.apply (h : r.Sound) {b : Blind}
    (hquiet : b = .routedBySAD → r.arcEarcAudioEnabled = false) (hfits : b.Fits r) :
    (b.apply r).Sound := by
  cases b with
  | detected type =>
      by_cases henabled : r.arcEarcAudioEnabled = true
      · have hsame : r.setType type = r := by rw [setType, ← hfits henabled]
        rw [Blind.apply, hsame]
        exact h
      · exact h.retype (eq_false_of_ne_true henabled) type
  | routedBySAD =>
      have hroute := h.route (hquiet rfl) (by simp [show r.hdmiInAudioDeviceType = .arc from hfits])
      rw [show r.hdmiInAudioDeviceType = .arc from hfits] at hroute
      exact hroute
  | cleanedUp =>
      by_cases henabled : r.arcEarcAudioEnabled = true
      · have hunroute := h.unroute henabled
        rw [hfits henabled] at hunroute
        rw [Blind.apply, if_pos henabled]
        exact hunroute.retype rfl _
      · rw [Blind.apply, if_neg henabled]
        exact h.retype (eq_false_of_ne_true henabled) _

/-! ### What a step may do -/

/-- The type that is recorded is the one that was routed last, no type is routed while another one
is, and what ends the routing unroutes exactly that type. -/
structure Unroutes (r k : Routing) : Prop where
  typed : k.arcEarcAudioEnabled = true → lastRouted k.routings = some k.hdmiInAudioDeviceType
  orderly : Orderly k.routings
  cleared : r.arcEarcAudioEnabled = true → k.arcEarcAudioEnabled = false →
    ∃ type, lastRouted r.routings = some type ∧ k.routings = (type, false) :: r.routings

theorem Sound.lastRouted (h : r.Sound) (henabled : r.arcEarcAudioEnabled = true) :
    lastRouted r.routings = some r.hdmiInAudioDeviceType :=
  lastRouted_of_routed (h.routed_some henabled)

theorem Sound.unroutes (hr : r.Sound) (hk : k.Sound)
    (hcleared : r.arcEarcAudioEnabled = true → k.arcEarcAudioEnabled = false →
      k.routings = (r.hdmiInAudioDeviceType, false) :: r.routings) : r.Unroutes k where
  typed := hk.lastRouted
  orderly := hk.orderly
  cleared henabled hquiet := ⟨_, hr.lastRouted henabled, hcleared henabled hquiet⟩

/-- A step that leaves the flag clears nothing. -/
theorem Sound.unroutes_of_enabled (hr : r.Sound) (hk : k.Sound)
    (hsame : r.arcEarcAudioEnabled = true → k.arcEarcAudioEnabled = true) : r.Unroutes k :=
  hr.unroutes hk fun henabled hquiet =>
    absurd (hquiet.symm.trans (hsame henabled)) Bool.false_ne_true

theorem Sound.unroutes_move (h : r.Sound) (hmove : r.Move k) : r.Unroutes k := by
  refine h.unroutes_of_enabled (h.move hmove) fun henabled => ?_
  cases hmove <;> exact henabled

theorem Sound.unroutes_enable (h : r.Sound) (henable : r.Enable k) : r.Unroutes k := by
  refine h.unroutes_of_enabled (h.enable henable) fun henabled => ?_
  cases henable with
  | refused => exact henabled
  | waits => exact henabled
  | routes _ _ => rfl

theorem Sound.unroutes_disable (h : r.Sound) (hdisable : r.Disable k) :
    r.Unroutes k ∧ k.arcEarcAudioEnabled = false ∧ DisplaySettings.routed k.routings = none := by
  have hk := h.disable hdisable
  have hquiet : k.arcEarcAudioEnabled = false := by
    cases hdisable with
    | unrouted _ _ => rfl
    | unroutedAndReset _ _ => rfl
    | nothing hnot =>
        refine eq_false_of_ne_true fun henabled => ?_
        rcases hnot with hquiet | htype
        · exact Bool.false_ne_true (hquiet.symm.trans henabled)
        · exact h.typed henabled htype
  refine ⟨h.unroutes hk fun henabled _ => ?_, hquiet, hk.routed_none hquiet⟩
  cases hdisable with
  | unrouted _ _ => rfl
  | unroutedAndReset _ _ => rfl
  | nothing hnot =>
      rcases hnot with hquiet | htype
      · exact absurd (hquiet.symm.trans henabled) Bool.false_ne_true
      · exact absurd htype (h.typed henabled)

theorem Sound.unroutes_apply_iff (h : r.Sound) {b : Blind}
    (hquiet : b = .routedBySAD → r.arcEarcAudioEnabled = false) :
    r.Unroutes (b.apply r) ↔ b.Fits r := by
  constructor
  · intro hright
    cases b with
    | detected type =>
        intro henabled
        exact Option.some.inj ((h.lastRouted henabled).symm.trans (hright.typed henabled))
    | routedBySAD => exact (Option.some.inj (hright.typed rfl)).symm
    | cleanedUp =>
        intro henabled
        rw [Blind.apply, if_pos henabled] at hright
        obtain ⟨type, htype, hcalls⟩ := hright.cleared henabled rfl
        have harc : AudioARCType.arc = type := congrArg Prod.fst (List.cons.inj hcalls).1
        rw [harc]
        exact Option.some.inj ((h.lastRouted henabled).symm.trans htype)
  · intro hfits
    refine h.unroutes (h.apply hquiet hfits) fun henabled hcleared => ?_
    cases b with
    | detected type => exact absurd (hcleared.symm.trans henabled) Bool.false_ne_true
    | routedBySAD => cases hcleared
    | cleanedUp => rw [Blind.apply, if_pos henabled, hfits henabled]; rfl

end Routing

namespace Arc

variable {s t : Arc}

/-! ### Runs -/

/-- What a step may do to the audio; `setEnableAudioPort` that disables the port leaves nothing
routed. -/
def UnroutesRouted (s : Arc) (a : ArcEnv × ArcEvent) (t : Arc) : Prop :=
  s.routing.Unroutes t.routing ∧
    (a.2 = .setEnableAudioPort (some hdmiArc0) (some false) →
      t.audio.arcEarcAudioEnabled = false ∧ routed t.core.routings = none)

/-- A change without a look at what is routed agrees with the type that is recorded. -/
def FitsRouted (s : Arc) (a : ArcEnv × ArcEvent) : Prop :=
  ∀ b, s.blind a = some b → b.Fits s.routing

theorem sound_step {a : ArcEnv × ArcEvent} (hs : s.routing.Sound) (hcalm : a.1.Calm)
    (hfits : s.FitsRouted a) (ht : arcStep s a = some t) : t.routing.Sound := by
  rcases routing_step hcalm ht with ⟨_, _, henable⟩ | ⟨_, _, hdisable⟩ |
    ⟨_, ⟨_, hmove⟩ | ⟨b, hb, hquiet, heq⟩⟩
  · exact hs.enable henable
  · exact hs.disable hdisable
  · exact hs.move hmove
  · rw [heq]
    exact hs.apply hquiet (hfits b hb)

theorem unroutesRouted_step {a : ArcEnv × ArcEvent} (hs : s.routing.Sound) (hcalm : a.1.Calm)
    (hfits : s.FitsRouted a) (ht : arcStep s a = some t) : s.UnroutesRouted a t := by
  rcases routing_step hcalm ht with ⟨ha, _, henable⟩ | ⟨_, _, hdisable⟩ |
    ⟨ha, ⟨_, hmove⟩ | ⟨b, hb, hquiet, heq⟩⟩
  · exact ⟨hs.unroutes_enable henable, fun ha' => by simp [ha] at ha'⟩
  · obtain ⟨hunroutes, hquiet, hnone⟩ := hs.unroutes_disable hdisable
    exact ⟨hunroutes, fun _ => ⟨hquiet, hnone⟩⟩
  · exact ⟨hs.unroutes_move hmove, fun ha' => absurd ha' (ha false)⟩
  · refine ⟨?_, fun ha' => absurd ha' (ha false)⟩
    rw [heq]
    exact (hs.unroutes_apply_iff hquiet).mpr (hfits b hb)

/-- What was routed is unrouted throughout a run exactly if the detections, the descriptors and the
power changes agree with what is recorded. -/
theorem unrouted_as_routed_iff (received : Bool) (as : List (ArcEnv × ArcEvent))
    (hcalm : ∀ a ∈ as, a.1.Calm) :
    Along arcStep (fun s a => ∀ t, arcStep s a = some t → s.UnroutesRouted a t) (create received)
      as ↔ Along arcStep FitsRouted (create received) as := by
  refine along_iff_along_of_forall (I := fun s => s.routing.Sound)
    (fun s a t hs ha hc ht => sound_step hs ha hc ht) ?_ Routing.sound_create hcalm
  intro s a hs ha
  constructor
  · intro h b hb
    obtain ⟨t, ht⟩ := arcStep_of_blind hb
    have hright := (h t ht).1
    obtain ⟨hquiet, heq⟩ := routing_of_blind ha hb ht
    rw [heq] at hright
    exact (hs.unroutes_apply_iff hquiet).mp hright
  · intro hc t ht
    exact unroutesRouted_step hs ha hc ht

/-- A receiver initiates ARC, and its audio is routed and unrouted. -/
def oneReceiver : List (ArcEnv × ArcEvent) :=
  atHome .stereo
    [.initAudioPorts, .arcInitiation (some success),
      .setEnableAudioPort (some hdmiArc0) (some true),
      .setEnableAudioPort (some hdmiArc0) (some false)]

theorem unrouted_as_routed_oneReceiver :
    Along arcStep (fun s a => ∀ t, arcStep s a = some t → s.UnroutesRouted a t) (create false)
      oneReceiver := by
  have hblind : ∀ a ∈ oneReceiver, ∀ s : Arc, s.blind a = none := by
    simp [oneReceiver, atHome, blind]
  have hfits : Along arcStep FitsRouted (create false) oneReceiver :=
    along_of_forall fun a ha s b hb => by cases (hblind a ha s).symm.trans hb
  exact (unrouted_as_routed_iff false oneReceiver (calm_atHome _ _)).mpr hfits

/-- A receiver with ARC is replaced by one with eARC while its audio is routed. -/
def twoReceivers : List (ArcEnv × ArcEvent) :=
  atHome .stereo
    [.initAudioPorts, .arcInitiation (some success),
      .setEnableAudioPort (some hdmiArc0) (some true),
      .audioDeviceConnectedStatus (some "false".toList),
      .audioDeviceConnectedStatus (some "true".toList)] ++
  [({ ArcEnv.atHome .stereo with supportsEARC := true },
    .audioDevicePowerStatus (some "0".toList))]

/-- The eARC that was never routed is unrouted, and the ARC stays routed. -/
theorem routed_arc_left :
    ∃ s t, run arcStep (create false) twoReceivers = some s ∧
      s.audio.arcEarcAudioEnabled = true ∧ s.audio.hdmiInAudioDeviceType = .eARC ∧
      lastRouted s.core.routings = some .arc ∧
      arcStep s (.atHome .stereo, .setEnableAudioPort (some hdmiArc0) (some false)) = some t ∧
      t.audio.arcEarcAudioEnabled = false ∧
      t.core.routings = [(.eARC, false), (.arc, true)] ∧ routed t.core.routings = some .arc :=
  ⟨_, _, rfl, rfl, rfl, rfl, rfl, rfl, rfl, rfl⟩

end Arc

end DeviceAndDisplay.DisplaySettings
