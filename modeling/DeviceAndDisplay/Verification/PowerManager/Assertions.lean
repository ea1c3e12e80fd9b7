import DeviceAndDisplay.Verification.PowerManager.Coherent

/-! # The assertions of AckController

`Schedule` asserts that the controller is neither running nor armed, and `Reschedule` that the
handler is stored. The first holds in every run; the second fails for a delay that comes before
`Schedule` or after a transition that was completed at once. -/

namespace DeviceAndDisplay.PowerManager

namespace Implementation

open Transition

variable {env : Env} {m m' : Implementation}

/-- The assertions that the action comes to: those of `Schedule` when the notifications are
submitted, that of `Reschedule` in a delay. -/
def Asserts (m : Implementation) : Env × Action → Prop
  | (_, .advance) => ∀ call, m.call = some call → call.phase = .submitted →
      ∀ c, m.modeChangeController = some c → c.running = false ∧ c.handler = none
  | (_, .api (.delayPowerModeChangeBy _ _ _)) =>
      ∀ c, m.modeChangeController = some c → c.handler ≠ none
  | _ => True

/-- The call under way has stored its controller and not armed it yet. -/
def Preparing (m : Implementation) : Prop :=
  ∃ call, m.call = some call ∧
    (call.phase = .installed ∨ call.phase = .submitted ∨ call.phase = .tested)

/-- No call works on the controller, and it never had a timer job: `Schedule` found nobody to
wait for. -/
def CompletedAtOnce (m : Implementation) (c : PreModeChangeController) : Prop :=
  (∀ call, m.call = some call → call.phase = .checked) ∧ c.timerJob = none

/-- A delay finds a transition whose `Schedule` waits, or waited, for the clients. -/
def InTime (m : Implementation) : Env × Action → Prop
  | (_, .api (.delayPowerModeChangeBy _ _ _)) =>
      ∀ c, m.modeChangeController = some c → ¬ m.Preparing ∧ ¬ m.CompletedAtOnce c
  | _ => True

/-! ### Handlers and timer jobs -/

/-- When no call works on the stored controller, it has a handler if it has a timer job. -/
def Matched (m : Implementation) : Prop :=
  (∀ call, m.call = some call → call.phase = .checked) →
    ∀ c, m.modeChangeController = some c → (c.timerJob = none ↔ c.handler = none)

theorem matched_init (b : Bool) (pc : PowerController) : (init b pc).Matched := by
  intro _ c hc
  cases hc

/-- A step that exchanges no controller for another one. -/
theorem Matched.of_controllers (hm : m.Matched) (hcall : m'.call = m.call)
    (hstored : ∀ c', m'.modeChangeController = some c' →
      ∃ c, m.modeChangeController = some c ∧ (c.Kept c' ∨ c.Stopped c')) : m'.Matched := by
  intro hphase c' hc'
  rw [hcall] at hphase
  obtain ⟨c, hc, hk | hk⟩ := hstored c' hc'
  · rw [hk.timerJob, hk.handler]
    exact hm hphase c hc
  · rw [hk.timerJob, hk.handler]
    exact hm hphase c hc

theorem Matched.of_background (hm : m.Matched) (hb : Background m m') : m'.Matched := by
  apply hm.of_controllers hb.call
  intro c' hc'
  obtain ⟨c, hc, hk⟩ := hb.stored_of_some hc'
  exact ⟨c, hc, .inl hk⟩

theorem Matched.of_ends (hm : m.Matched) {c : PreModeChangeController} {h : Completion}
    {isTimedout : Bool} {m₀ : Implementation} (he : Ends env m m' c h isTimedout m₀) :
    m'.Matched := by
  have hf := he.effect.frame
  apply hm.of_controllers
  · rw [hf.call, he.same]
  · rw [hf.modeChangeController]
    exact fun _ => he.stored

/-- A request that takes `selfLock` finds no call under way. -/
theorem Matched.of_enter (hm : m.Matched) (hc : m.Coherent) {newState : PowerState}
    {origin : Origin} (h : m.enterSetPowerState env newState origin = some m') : m'.Matched := by
  obtain ⟨hl, ⟨_, rfl⟩ | ⟨_, rfl⟩⟩ := enterSetPowerState_cases h
  · exact fun _ => hm (by simp [hc.unlocked hl])
  · rw [entered_eq]
    exact fun _ => hm (by simp [hc.unlocked hl])

theorem Matched.of_advances (hm : m.Matched) {call : Call} {due : Option Completion}
    (hcall : m.call = some call) (h : Advances env m call due m') : m'.Matched := by
  cases h with
  | redundant hp hc hs =>
      rw [returnFromCall_eq]
      intro _
      apply hm
      intro call' hcall'
      rw [← Option.some.inj (hcall.symm.trans hcall')]
      exact hp
  | installs | submits | tests | arms =>
      intro hphase
      exact absurd (hphase _ rfl) (by simp)
  | @completes c hp hc hat hnow =>
      have he := completionHandler_effect env (call.completion c) false false m
      rw [returnFromCall_eq]
      intro _ d hd
      rw [he.frame.modeChangeController, hc] at hd
      rw [← Option.some.inj hd]
      exact iff_of_true hat.timerJob (hat.unarmed (by simp [hp])).2
  | @starts c hp hc hat hsync =>
      rw [returnFromCall_eq]
      rintro _ d ⟨⟩
      simp [AckController.startTimer, hat.armed hp]

theorem matched_step {a : Env × Action} (hc : m.Coherent) (hm : m.Matched)
    (h : step m a = some m') : m'.Matched := by
  rcases step_cases hc h with
    ⟨s, origin, m₀, henter, h⟩ | ⟨call, _, hcall, hadv⟩ | ⟨hb, _⟩ | ⟨s, _, hs⟩ |
      ⟨c, hc, t, m₀, he, _⟩
  · obtain ⟨entries, rfl⟩ := entering_eq henter
    have hm' : (m.setEntries entries).Matched := hm
    exact hm'.of_enter (hc.setEntries entries) h
  · exact hm.of_advances hcall hadv
  · exact hm.of_background hb.toBackground
  · exact hm.of_background (sleepStep_background hs)
  · exact hm.of_ends he

/-! ### The result -/

/-- `Schedule` is entered with a controller that is neither running nor armed. -/
theorem Coherent.schedule_asserts (hc : m.Coherent) (env : Env) : m.Asserts (env, .advance) := by
  intro call hcall hp c hstored
  obtain ⟨d, hd, hat⟩ := hc.working call hcall (by simp [hp])
  rw [← Option.some.inj (hd.symm.trans hstored)]
  exact hat.unarmed (by simp [hp])

/-- The stored controller has a handler from the time it is armed. -/
theorem handler_ne_none_iff (hc : m.Coherent) (hm : m.Matched) {c : PreModeChangeController}
    (hstored : m.modeChangeController = some c) :
    c.handler ≠ none ↔ ¬ m.Preparing ∧ ¬ m.CompletedAtOnce c := by
  by_cases hphase : ∀ call, m.call = some call → call.phase = .checked
  · have hprep : ¬ m.Preparing := by
      rintro ⟨call, hcall, hp⟩
      rw [hphase call hcall] at hp
      simp at hp
    have hwork : m.CompletedAtOnce c ↔ c.handler = none :=
      (and_iff_right hphase).trans (hm hphase c hstored)
    simp [hprep, hwork]
  · simp only [not_forall] at hphase
    obtain ⟨call, hcall, hp⟩ := hphase
    obtain ⟨d, hd, hat⟩ := hc.working call hcall hp
    obtain rfl := Option.some.inj (hd.symm.trans hstored)
    have hwork : ¬ m.CompletedAtOnce d := fun h => hp (h.1 call hcall)
    by_cases harmed : call.phase = .armed
    · have hprep : ¬ m.Preparing := by
        rintro ⟨call', hcall', hp'⟩
        rw [← Option.some.inj (hcall.symm.trans hcall'), harmed] at hp'
        simp at hp'
      simp [hprep, hwork, hat.armed harmed]
    · have hprep : m.Preparing := by
        refine ⟨call, hcall, ?_⟩
        cases hph : call.phase with
        | checked => exact absurd hph hp
        | armed => exact absurd hph harmed
        | _ => simp
      simp [hprep, (hat.unarmed harmed).2]

theorem asserts_iff_inTime (hc : m.Coherent) (hm : m.Matched) (a : Env × Action) :
    m.Asserts a ↔ m.InTime a := by
  obtain ⟨env, a⟩ := a
  cases a with
  | advance => exact iff_of_true (hc.schedule_asserts env) trivial
  | api a =>
      cases a with
      | delayPowerModeChangeBy clientId transactionId delayPeriod =>
          apply forall_congr'
          intro c
          apply imp_congr_right
          exact fun hstored => handler_ne_none_iff hc hm hstored
      | _ => exact Iff.rfl
  | _ => exact Iff.rfl

/-- The assertions hold throughout a run exactly when no delay comes between the storing and the
arming of a controller, or to a transition that was completed at once. -/
theorem assertions_hold_iff (b : Bool) (pc : PowerController) (as : List (Env × Action)) :
    Along step Asserts (init b pc) as ↔ Along step InTime (init b pc) as := by
  refine along_iff_along (I := fun m => m.Coherent ∧ m.Matched) ?_ ?_ ?_ as
  · rintro s a t ⟨hc, hm⟩ _ ht
    exact ⟨coherent_step hc ht, matched_step hc hm ht⟩
  · rintro s a ⟨hc, hm⟩
    exact asserts_iff_inTime hc hm a
  · exact ⟨coherent_init b pc, matched_init b pc⟩

/-- A client delays the transition as soon as it is notified. -/
def notifiedRun : List (Env × Action) :=
  [({}, .api (.addPowerModePreChangeClient "tuner")), ({}, .setPowerState .standby),
    ({}, .advance), ({}, .advance), ({}, .api (.delayPowerModeChangeBy 1 1 5))]

theorem assertion_fails_before_schedule :
    ¬ Along step Asserts (init false {}) notifiedRun := by
  rintro ⟨_, h⟩
  obtain ⟨_, h⟩ := h _ rfl
  obtain ⟨_, h⟩ := h _ rfl
  obtain ⟨_, h⟩ := h _ rfl
  obtain ⟨h, _⟩ := h _ rfl
  exact h _ rfl rfl

end Implementation

end DeviceAndDisplay.PowerManager
