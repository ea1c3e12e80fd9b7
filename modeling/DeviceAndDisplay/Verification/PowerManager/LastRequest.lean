import DeviceAndDisplay.Verification.PowerManager.Atomic

/-! # The last request wins

The object is always on its way to one state: the target of the running controller, or the
stored state. A request redirects it, unless it asks for the stored state while another
transition is pending: such a request returns before it looks at the pending controller. -/

namespace DeviceAndDisplay.PowerManager.Implementation

open Transition

variable {env : Env} {m m' : Implementation}

/-! ### The state the object is on its way to -/

def target (m : Implementation) : PowerState :=
  match m.modeChangeController with
  | none => m.powerState
  | some c => if c.running then c.powerState else m.powerState

theorem target_of_running {c : PreModeChangeController} (hc : m.modeChangeController = some c)
    (hr : c.running = true) : m.target = c.powerState := by
  simp [target, hc, hr]

theorem target_of_idle (h : ¬ m.Transitioning) : m.target = m.powerState := by
  unfold target
  split
  · rfl
  · rename_i c hc
    split
    · rename_i hr
      exact absurd ⟨c, hc, hr⟩ h
    · rfl

theorem Settled.target_ne (hs : m.Settled) (ht : m.Transitioning) : m.target ≠ m.powerState := by
  obtain ⟨c, hc, hr⟩ := ht
  obtain ⟨_, h, _, hsv⟩ := hs.running c hc hr
  rw [target_of_running hc hr, ← hsv.newState]
  exact hsv.changes

theorem Background.target (hb : Background m m') : m'.target = m.target := by
  by_cases ht : m.Transitioning
  · obtain ⟨c, hc, hr⟩ := ht
    obtain ⟨c', hc', hk⟩ := hb.stored_of_some' hc
    rw [target_of_running hc hr, target_of_running hc' (hk.running.trans hr), hk.powerState]
  · rw [target_of_idle ht, target_of_idle (mt hb.transitioning.mp ht), hb.powerState]

/-! ### Requests and their environment -/

def requestedState (m : Implementation) (action : Env × AtomicAction) : Option PowerState :=
  (m.requested action.2).map fun request => request.1

/-- The platform accepts the state, no override file is there, and a request does not come
while the device is on its way into deep sleep. -/
def Unhindered (m : Implementation) (action : Env × AtomicAction) : Prop :=
  PowerController.Accepting action.1 ∧ (m.requestedState action ≠ none →
    ¬ (m.powerState = .standbyDeepSleep ∧ m.refusesRequest action.1.now = true))

instance (m : Implementation) (action : Env × AtomicAction) : Decidable (m.Unhindered action) :=
  inferInstanceAs (Decidable (_ ∧ _))

/-- A request for the stored state comes while a transition to another state is pending. -/
def Swallows (m : Implementation) (newState : PowerState) : Prop :=
  m.powerState = newState ∧ m.Transitioning

instance (m : Implementation) (newState : PowerState) : Decidable (m.Swallows newState) :=
  inferInstanceAs (Decidable (_ ∧ _))

/-! ### The invariant -/

structure Follows (found : Option (Implementation × PowerState)) (m : Implementation) : Prop where
  settled : m.Settled
  /-- A controller that is done has done its transition. -/
  done : ∀ c, m.modeChangeController = some c → c.running = false → c.powerState = m.powerState
  target : ∀ σ s, found = some (σ, s) → (m.target = s ↔ ¬ σ.Swallows s)

theorem follows_init (b : Bool) (pc : PowerController) : Follows none (init b pc) where
  settled := settled_init b pc
  done := by simp [init]
  target := by simp

variable {found : Option (Implementation × PowerState)}

theorem Follows.of_background (hf : Follows found m) (hb : Background m m') (hs : m'.Settled) :
    Follows found m' where
  settled := hs
  done := by
    intro c' hc' hr
    obtain ⟨c, hc, hk⟩ := hb.stored_of_some hc'
    rw [hk.powerState, hf.done c hc (hk.running ▸ hr), hb.powerState]
  target := by
    rw [hb.target]
    exact hf.target

theorem Follows.of_completes (hf : Follows found m) (henv : PowerController.Accepting env)
    {isTimedout : Bool} {due : Option Completion} (hc : Completes env m isTimedout due m') :
    Follows found m' := by
  obtain ⟨c, c', h, m₀, hd⟩ := hc.completed hf.settled
  have hstate : m'.powerState = c.powerState :=
    (hd.effect.accepted (accepts_of_accepting henv h)).trans hd.serves.newState
  refine ⟨hf.settled.of_completed hd, ?_, ?_⟩
  · intro d hd' _
    rw [← Option.some.inj (hd.stored'.symm.trans hd'), hd.stopped.powerState, hstate]
  · rw [target_of_idle hd.not_transitioning, hstate, ← target_of_running hd.stored hd.running]
    exact hf.target

/-- After a request the object is on its way to the requested state, unless the request was
swallowed. -/
theorem Requested.target {newState : PowerState} {origin : Origin} (hf : Follows found m)
    (henv : PowerController.Accepting env)
    (hw : ¬ (m.powerState = .standbyDeepSleep ∧ m.refusesRequest env.now = true))
    (h : Requested env newState origin m m') :
    (m'.target = newState ↔ ¬ m.Swallows newState) ∧
      ∀ c, m'.modeChangeController = some c → c.running = false → c.powerState = m'.powerState := by
  cases h with
  | declined hd =>
      have hcur : m.powerState = newState := hd.resolve_right hw
      refine ⟨?_, hf.done⟩
      change m.target = newState ↔ ¬ m.Swallows newState
      by_cases ht : m.Transitioning
      · have hne : m.target ≠ newState := hcur ▸ hf.settled.target_ne ht
        simp [hne, Swallows, hcur, ht]
      · simp [target_of_idle ht, Swallows, hcur, ht]
  | @redundant c hd hc hn =>
      have hne : m.powerState ≠ newState := fun he => hd (.inl he)
      have hr : c.running = true := by
        cases hr : c.running with
        | true => rfl
        | false => exact absurd ((hf.done c hc hr).symm.trans hn) hne
      rw [entered_eq, returnFromCall_eq]
      refine ⟨?_, hf.done⟩
      have ht : m.target = newState := (target_of_running hc hr).trans hn
      change m.target = newState ↔ ¬ m.Swallows newState
      simp [ht, Swallows, hne]
  | @completed call c hd _ hcall hc hat =>
      have hne : m.powerState ≠ newState := fun he => hd (.inl he)
      have he := completionHandler_effect env (call.completion c) false false
        (m.prepared env newState origin)
      have hstored := completed_controller env hf.settled newState origin (call.completion c)
        (!call.isSync)
      have hidle := completed_idle env hf.settled newState origin (call.completion c) (!call.isSync)
      have hstate : (((m.prepared env newState origin).completionHandler env (call.completion c)
          false false).returnFromCall newState (!call.isSync)).powerState = newState := by
        rw [returnFromCall_powerState, he.accepted (accepts_of_accepting henv _), hcall]
        rfl
      refine ⟨?_, ?_⟩
      · rw [target_of_idle hidle, hstate]
        simp [Swallows, hne]
      · intro d hd' _
        rw [← Option.some.inj (hstored.symm.trans hd'), freshController_powerState, hstate]
  | @scheduled call c hd _ hcall hc hat =>
      have hne : m.powerState ≠ newState := fun he => hd (.inl he)
      rw [returnFromCall_eq]
      refine ⟨?_, ?_⟩
      · rw [target_of_running rfl rfl]
        simp only [Swallows, hne, false_and, not_false_eq_true, iff_true]
        rw [hc]
        exact freshController_powerState newState m
      · rintro d ⟨⟩ hr
        cases hr

theorem follows_step {a : Env × AtomicAction} (hf : Follows found m) (hu : m.Unhindered a)
    (h : atomicStep m a = some m') :
    Follows (((m.requestedState a).map fun s => (m, s)).or found) m' := by
  obtain ⟨env, a⟩ := a
  rcases atomicStep_cases hf.settled h with
    ⟨newState, origin, m₀, hreq, hs₀, hr⟩ | ⟨hnone, hstep⟩
  · have hsome : m.requestedState (env, a) = some newState := by
      simp [requestedState, hreq]
    obtain ⟨entries, rfl⟩ := requested_eq hreq
    have hf₀ : Follows found (m.setEntries entries) := ⟨hs₀, hf.done, hf.target⟩
    have hw : ¬ (m.powerState = .standbyDeepSleep ∧ m.refusesRequest env.now = true) :=
      hu.2 (by simp [hsome])
    obtain ⟨htarget, hdone⟩ := Requested.target hf₀ hu.1 hw hr
    refine ⟨hs₀.of_requested hr, hdone, ?_⟩
    rintro σ s hσ
    rw [hsome] at hσ
    cases hσ
    exact htarget
  · have hsome : m.requestedState (env, a) = none := by
      simp [requestedState, hnone]
    rw [hsome]
    rcases hstep with ⟨hb, hs'⟩ | ⟨_, _, hc⟩
    · exact hf.of_background hb hs'
    · exact hf.of_completes hu.1 hc

/-! ### The result -/

/-- When no transition is pending, the last request has won if and only if it was not swallowed. -/
theorem last_request_wins_iff {b : Bool} {pc : PowerController} {as : List (Env × AtomicAction)}
    {σ : Implementation} {newState : PowerState}
    (hr : run atomicStep (init b pc) as = some m)
    (hu : Along atomicStep Unhindered (init b pc) as) (hidle : ¬ m.Transitioning)
    (hlast : latest atomicStep requestedState none (init b pc) as = some (σ, newState)) :
    m.powerState = newState ↔ ¬ (σ.powerState = newState ∧ σ.Transitioning) := by
  have hf := run_latest_invariant (fun found s a t hs hC ht => follows_step hs hC ht)
    (follows_init b pc) hu hr
  rw [← target_of_idle hidle]
  exact hf.target σ newState hlast

/-- A client is awaited for a transition to standby, and acknowledges it. -/
def acknowledgedRun : List (Env × AtomicAction) :=
  [({}, .api (.addPowerModePreChangeClient "client")), ({}, .setPowerState .standby),
    ({}, .api (.powerModePreChangeComplete 1 1))]

theorem last_request_wins_acknowledged :
    ∃ m σ, run atomicStep (init false {}) acknowledgedRun = some m ∧
      latest atomicStep requestedState none (init false {}) acknowledgedRun =
        some (σ, .standby) ∧
      (m.powerState = .standby ↔ ¬ (σ.powerState = .standby ∧ σ.Transitioning)) := by
  refine ⟨_, _, rfl, rfl, ?_⟩
  have hr : run atomicStep (init false {}) acknowledgedRun = some _ := rfl
  exact last_request_wins_iff hr (by decide) (by decide) rfl

/-- The same with a request to stay on before the timer expires. -/
def swallowedRun : List (Env × AtomicAction) :=
  [({}, .api (.addPowerModePreChangeClient "client")), ({}, .setPowerState .standby),
    ({}, .setPowerState .on), ({ now := 1000000 }, .timerExpired)]

theorem last_request_swallowed :
    ∃ m σ, run atomicStep (init false {}) swallowedRun = some m ∧
      Along atomicStep Unhindered (init false {}) swallowedRun ∧ ¬ m.Transitioning ∧
      latest atomicStep requestedState none (init false {}) swallowedRun = some (σ, .on) ∧
      m.powerState ≠ .on :=
  ⟨_, _, rfl, by decide, by decide, rfl, by decide⟩

end DeviceAndDisplay.PowerManager.Implementation
