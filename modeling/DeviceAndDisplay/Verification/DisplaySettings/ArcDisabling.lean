import DeviceAndDisplay.Verification.DisplaySettings.ArcRouting

/-! # Disabling the port

A call that disables `HDMI_ARC0` leaves the timer and the request for the descriptors alone that an
earlier call has started, and these route the audio later. -/

namespace DeviceAndDisplay.DisplaySettings

open Helpers Transition

/-- The state with what the last call of `setEnableAudioPort` for `HDMI_ARC0` asked for. -/
structure TrackedPort where
  arc : Arc
  lastCall : Option Bool := none

namespace TrackedPort

def asked : ArcEvent → Option Bool
  | .setEnableAudioPort (some port) (some enable) => if port = hdmiArc0 then some enable else none
  | _ => none

def step (p : TrackedPort) (a : ArcEnv × ArcEvent) : Option TrackedPort :=
  (arcStep p.arc a).map fun t => ⟨t, (asked a.2).or p.lastCall⟩

def create (received : Bool) : TrackedPort where
  arc := Arc.create received

/-- The last call disabled the port. -/
def Disabled (p : TrackedPort) : Prop := p.lastCall = some false

/-- The calls of `enableARC` that are added route nothing. -/
def RoutesNothing (r k : Routing) : Prop :=
  ∃ new, k.routings = new ++ r.routings ∧ ∀ type, (type, true) ∉ new

/-- What a step to a disabled port may do: it routes nothing, and the port shows as disabled. -/
def StaysDisabled (p q : TrackedPort) : Prop :=
  q.Disabled → RoutesNothing p.arc.routing q.arc.routing ∧ q.arc.getEnableAudioPort = false

/-- No step routes the audio that waited for the descriptors when the port was disabled. -/
def WaitsForNothing (p : TrackedPort) (a : ArcEnv × ArcEvent) : Prop :=
  p.Disabled → p.arc.blind a ≠ some .routedBySAD

/-! ### What is kept for the port -/

/-- A disabled port is stored as disabled and shows as disabled. -/
def KeptDisabled (p : TrackedPort) : Prop :=
  p.Disabled → p.arc.routing.persisted = false ∧ p.arc.routing.config.getD false = false

variable {p q : TrackedPort}

theorem asked_of_blind {s : Arc} {a : ArcEnv × ArcEvent} {b : Blind} (hb : s.blind a = some b) :
    asked a.2 = none := by
  obtain ⟨env, event⟩ := a
  cases event with
  | setEnableAudioPort port enable => cases hb
  | _ => rfl

theorem asked_eq_none {event : ArcEvent}
    (h : ∀ enable, event ≠ .setEnableAudioPort (some hdmiArc0) (some enable)) :
    asked event = none := by
  unfold asked
  split
  · rename_i port enable
    exact if_neg fun hport => h enable (by rw [hport])
  · rfl

/-- Only `setEnableAudioPort` and `InitAudioPorts` change what is kept for the port, and the latter
does not enable a port that is stored as disabled. -/
theorem kept_move {r k : Routing} (hmove : r.Move k)
    (hr : r.persisted = false ∧ r.config.getD false = false) :
    k.persisted = false ∧ k.config.getD false = false := by
  cases hmove with
  | stay => exact hr
  | assumed _ => exact hr
  | reset _ => exact hr
  | configured config hoff => exact ⟨hr.1, hoff hr.1 hr.2⟩

theorem kept_disable {r k : Routing} (hdisable : r.Disable k) :
    k.persisted = false ∧ k.config.getD false = false := by
  cases hdisable <;> exact ⟨rfl, rfl⟩

theorem kept_apply (b : Blind) {r : Routing}
    (hr : r.persisted = false ∧ r.config.getD false = false) :
    (b.apply r).persisted = false ∧ (b.apply r).config.getD false = false := by
  cases b with
  | detected type => exact hr
  | routedBySAD => exact hr
  | cleanedUp =>
      by_cases henabled : r.arcEarcAudioEnabled = true
      · rw [Blind.apply, if_pos henabled]
        exact hr
      · rw [Blind.apply, if_neg henabled]
        exact hr

theorem keptDisabled_step {a : ArcEnv × ArcEvent} (hp : p.KeptDisabled) (hcalm : a.1.Calm)
    (hq : p.step a = some q) : q.KeptDisabled := by
  obtain ⟨t, ht, rfl⟩ := Option.map_eq_some_iff.mp hq
  intro hdisabled
  change (asked a.2).or p.lastCall = some false at hdisabled
  change t.routing.persisted = false ∧ t.routing.config.getD false = false
  rcases Arc.routing_step hcalm ht with ⟨ha, _, _⟩ | ⟨_, _, hdisable⟩ | ⟨ha, hother⟩
  · rw [ha] at hdisabled
    cases hdisabled
  · exact kept_disable hdisable
  · rw [asked_eq_none ha] at hdisabled
    rcases hother with ⟨_, hmove⟩ | ⟨b, _, _, heq⟩
    · exact kept_move hmove (hp hdisabled)
    · rw [heq]
      exact kept_apply b (hp hdisabled)

/-! ### What is routed -/

theorem routesNothing_of_eq {r k : Routing} (h : k.routings = r.routings) : RoutesNothing r k :=
  ⟨[], h, by simp⟩

theorem routesNothing_move {r k : Routing} (hmove : r.Move k) : RoutesNothing r k := by
  cases hmove <;> exact routesNothing_of_eq rfl

theorem routesNothing_disable {r k : Routing} (hdisable : r.Disable k) : RoutesNothing r k := by
  cases hdisable with
  | unrouted _ _ => exact ⟨[_], rfl, by simp⟩
  | unroutedAndReset _ _ => exact ⟨[_], rfl, by simp⟩
  | nothing _ => exact routesNothing_of_eq rfl

theorem routesNothing_apply_iff (b : Blind) (r : Routing) :
    RoutesNothing r (b.apply r) ↔ b ≠ .routedBySAD := by
  cases b with
  | detected type =>
      exact iff_of_true (routesNothing_of_eq (r := r) (k := r.setType type) rfl) (by simp)
  | routedBySAD =>
      refine iff_of_false ?_ (by simp)
      rintro ⟨new, hnew, hroutes⟩
      have hone : [(.arc, true)] = new := List.append_cancel_right hnew
      exact hroutes .arc (by simp [← hone])
  | cleanedUp =>
      refine iff_of_true ?_ (by simp)
      by_cases henabled : r.arcEarcAudioEnabled = true
      · rw [Blind.apply, if_pos henabled]
        exact ⟨[(.arc, false)], rfl, by simp⟩
      · rw [Blind.apply, if_neg henabled]
        exact routesNothing_of_eq rfl

theorem staysDisabled_iff {a : ArcEnv × ArcEvent} (hp : p.KeptDisabled) (hcalm : a.1.Calm) :
    (∀ q, p.step a = some q → p.StaysDisabled q) ↔ p.WaitsForNothing a := by
  constructor
  · intro h hdisabled hb
    obtain ⟨t, ht⟩ := Arc.arcStep_of_blind hb
    have hq : p.step a = some ⟨t, p.lastCall⟩ := by
      rw [step, ht, asked_of_blind hb]
      rfl
    have hnothing : RoutesNothing p.arc.routing t.routing := (h _ hq hdisabled).1
    rw [(Arc.routing_of_blind hcalm hb ht).2] at hnothing
    exact (routesNothing_apply_iff _ _).mp hnothing rfl
  · intro hc q hq hdisabled
    refine ⟨?_, (keptDisabled_step hp hcalm hq hdisabled).2⟩
    obtain ⟨t, ht, rfl⟩ := Option.map_eq_some_iff.mp hq
    change (asked a.2).or p.lastCall = some false at hdisabled
    change RoutesNothing p.arc.routing t.routing
    rcases Arc.routing_step hcalm ht with ⟨ha, _, _⟩ | ⟨_, _, hdisable⟩ |
      ⟨ha, ⟨_, hmove⟩ | ⟨b, hb, _, heq⟩⟩
    · rw [ha] at hdisabled
      cases hdisabled
    · exact routesNothing_disable hdisable
    · exact routesNothing_move hmove
    · rw [asked_eq_none ha] at hdisabled
      rw [heq, routesNothing_apply_iff]
      intro hsad
      exact hc hdisabled (by rw [hb, hsad])

/-! ### Runs -/

/-- A disabled port stays disabled throughout a run exactly if no step finds a disabled port for
which audio still waits for its descriptors. -/
theorem stays_disabled_iff (received : Bool) (as : List (ArcEnv × ArcEvent))
    (hcalm : ∀ a ∈ as, a.1.Calm) :
    Along step (fun p a => ∀ q, p.step a = some q → p.StaysDisabled q) (create received) as ↔
      Along step WaitsForNothing (create received) as :=
  along_iff_along_of_forall (I := KeptDisabled)
    (fun p a q hp ha _ hq => keptDisabled_step hp ha hq) (fun p a hp ha => staysDisabled_iff hp ha)
    (fun hdisabled => by cases hdisabled) hcalm

/-- The port is enabled and disabled again while the descriptors are awaited. -/
def disabledEarly : List (ArcEnv × ArcEvent) :=
  atHome .passThru
    [.initAudioPorts, .arcInitiation (some Arc.success),
      .setEnableAudioPort (some hdmiArc0) (some true),
      .setEnableAudioPort (some hdmiArc0) (some false)]

theorem stays_disabled_disabledEarly :
    Along step (fun p a => ∀ q, p.step a = some q → p.StaysDisabled q) (create false)
      disabledEarly := by
  have hblind : ∀ a ∈ disabledEarly, ∀ s : Arc, s.blind a = none := by
    simp [disabledEarly, atHome, Arc.blind]
  have hwaits : Along step WaitsForNothing (create false) disabledEarly :=
    along_of_forall fun a ha p _ hb => by cases (hblind a ha p.arc).symm.trans hb
  exact (stays_disabled_iff false disabledEarly (calm_atHome _ _)).mpr hwaits

/-- Then the descriptors arrive, and the audio is routed. -/
theorem disabled_port_routed :
    ∃ p q, run step (create false) disabledEarly = some p ∧ p.Disabled ∧
      step p (.atHome .passThru, .shortAudioDescriptor (some [1])) = some q ∧ q.Disabled ∧
      p.arc.core.routings = [] ∧ q.arc.core.routings = [(.arc, true)] :=
  ⟨_, _, rfl, rfl, rfl, rfl, rfl, rfl⟩

end TrackedPort

end DeviceAndDisplay.DisplaySettings
