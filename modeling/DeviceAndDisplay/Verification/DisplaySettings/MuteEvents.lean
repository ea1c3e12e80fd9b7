import DeviceAndDisplay.Model.DisplaySettings.Mute
import DeviceAndDisplay.Transition.Run

/-! # Mute events

One static variable stands for all ports. A call notifies of a change if the variable changes, and
that is a change of its port exactly if the variable had the state of that port. -/

namespace DeviceAndDisplay.DisplaySettings

open Helpers Transition

/-- No call throws. -/
structure MuteEnv.Returns (env : MuteEnv) : Prop where
  boolean : env.booleanThrows = false
  getPort : env.getPortThrows = false
  setMuted : env.setMutedThrows = false

namespace MutedPorts

variable {s t : MutedPorts} {env : MuteEnv} {parameters : MuteRequest} {muted : Bool}

/-- What a call put out, the newest first: it notifies of the change of its port, and of nothing
else, and not at all if it fails. -/
structure NotifiesOf (port : Text) (s t : MutedPorts) (new : List MuteCall) : Prop where
  sent : t.calls = new ++ s.calls
  changed : ∀ muted, new.count (.muteStatusChanged muted) =
    if s.isMuted port ≠ muted ∧ t.isMuted port = muted then 1 else 0
  silent : .returnResponse false ∈ new → ∀ muted, .muteStatusChanged muted ∉ new

/-- The notification of a performed call is that of the change of its port. -/
def FollowsPort (s : MutedPorts) (a : MuteEnv × MuteRequest) : Prop :=
  ∀ t, muteStep s a = some t → ∃ new, NotifiesOf a.2.port s t new

/-- In a call that does not fail the variable has the state of the port. -/
def RemembersPort (s : MutedPorts) (a : MuteEnv × MuteRequest) : Prop :=
  a.2.muted.isSome → a.1.Returns → s.cacheMuted = s.isMuted a.2.port

/-! ### Calls that fail -/

theorem setMuted_of_fails (h : ¬ (parameters.muted.isSome ∧ env.Returns)) :
    s.setMuted parameters env = s.call (.returnResponse false) := by
  unfold setMuted
  cases hmuted : parameters.muted with
  | none => rfl
  | some muted =>
      cases hboolean : env.booleanThrows with
      | true => rfl
      | false =>
          simp only [Bool.false_eq_true, if_false]
          apply if_pos
          by_contra hthrows
          rw [not_or, Bool.not_eq_true, Bool.not_eq_true] at hthrows
          exact h ⟨by rw [hmuted]; rfl, hboolean, hthrows.1, hthrows.2⟩

theorem notifiesOf_fails (port : Text) (s : MutedPorts) :
    NotifiesOf port s (s.call (.returnResponse false)) [.returnResponse false] := by
  constructor
  · rfl
  · intro muted
    rw [if_neg fun h => h.1 h.2]
    rfl
  · intro _ muted
    simp

/-! ### Calls that set a port -/

theorem setMuted_of_returns (hmuted : parameters.muted = some muted) (henv : env.Returns) :
    s.setMuted parameters env =
      (({ s with isMuted := Function.update s.isMuted parameters.port muted } :
        MutedPorts).notify muted).call (.returnResponse true) := by
  simp [setMuted, hmuted, henv.boolean, henv.getPort, henv.setMuted]

/-- What a call that sets a port puts out. -/
def setCalls (s : MutedPorts) (muted : Bool) : List MuteCall :=
  .returnResponse true :: if s.cacheMuted ≠ muted then [.muteStatusChanged muted] else []

theorem calls_setMuted (hmuted : parameters.muted = some muted) (henv : env.Returns) :
    (s.setMuted parameters env).calls = s.setCalls muted ++ s.calls := by
  rw [setMuted_of_returns hmuted henv, notify, setCalls]
  split
  · rfl
  · rfl

theorem isMuted_setMuted (hmuted : parameters.muted = some muted) (henv : env.Returns) :
    (s.setMuted parameters env).isMuted parameters.port = muted := by
  rw [setMuted_of_returns hmuted henv, notify]
  split
  · exact Function.update_self ..
  · exact Function.update_self ..

theorem count_setCalls (s : MutedPorts) (muted other : Bool) :
    (s.setCalls muted).count (.muteStatusChanged other) =
      if s.cacheMuted ≠ other ∧ muted = other then 1 else 0 := by
  unfold setCalls
  by_cases hother : muted = other
  · subst hother
    split <;> simp_all
  · split <;> simp [hother]

/-- Of the two values the variable tells the same as the port, or the opposite. -/
theorem notifiesOf_set_iff (hmuted : parameters.muted = some muted) (henv : env.Returns) :
    (∃ new, NotifiesOf parameters.port s (s.setMuted parameters env) new) ↔
      s.cacheMuted = s.isMuted parameters.port := by
  have hcalls := calls_setMuted (s := s) hmuted henv
  have hset := isMuted_setMuted (s := s) hmuted henv
  constructor
  · rintro ⟨new, hnew⟩
    have hsame := List.append_cancel_right (hnew.sent.symm.trans hcalls)
    have hchanged := hnew.changed muted
    rw [hsame, count_setCalls, hset] at hchanged
    cases hcache : s.cacheMuted <;> cases hport : s.isMuted parameters.port <;>
      cases muted <;> simp_all
  · intro hremembers
    refine ⟨s.setCalls muted, hcalls, fun other => ?_, fun hfails => ?_⟩
    · rw [count_setCalls, hset, hremembers]
    · exfalso
      unfold setCalls at hfails
      split at hfails <;> simp at hfails

theorem followsPort_iff (s : MutedPorts) (a : MuteEnv × MuteRequest) :
    FollowsPort s a ↔ RemembersPort s a := by
  have hstep : FollowsPort s a ↔ ∃ new, NotifiesOf a.2.port s (s.setMuted a.2 a.1) new := by
    constructor
    · intro h
      exact h _ rfl
    · intro h t ht
      cases ht
      exact h
  rw [hstep]
  by_cases hset : a.2.muted.isSome ∧ a.1.Returns
  · obtain ⟨muted, hmuted⟩ := Option.isSome_iff_exists.mp hset.1
    rw [notifiesOf_set_iff hmuted hset.2]
    constructor
    · exact fun h _ _ => h
    · intro h
      exact h hset.1 hset.2
  · rw [setMuted_of_fails hset]
    refine iff_of_true ⟨_, notifiesOf_fails a.2.port s⟩ fun hmuted hreturns => ?_
    exact absurd ⟨hmuted, hreturns⟩ hset

/-- One port is muted, and then another one. -/
def twoPorts : List (MuteEnv × MuteRequest) :=
  [({}, { muted := some true, audioPort := some ['H', 'D', 'M', 'I', '0'] }),
    ({}, { muted := some true, audioPort := some ['S', 'P', 'D', 'I', 'F', '0'] })]

end MutedPorts

end DeviceAndDisplay.DisplaySettings
