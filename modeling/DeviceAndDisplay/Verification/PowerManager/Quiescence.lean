import DeviceAndDisplay.Verification.PowerManager.Atomic
import DeviceAndDisplay.Verification.PowerManager.DeepSleep
import DeviceAndDisplay.Verification.PowerManager.Superseded

/-! # Every deep sleep ends

While the device is in deep sleep, a queued activation, a delay job, an entry sequence, a
running controller or a call under way is left to take it out. The latch drops an activation
only while a sequence is on its way. -/

namespace DeviceAndDisplay.PowerManager

/-- The sequence has still to get the result of a `SetDeepSleep` call. -/
def EntryPhase.isEntering : EntryPhase → Bool
  | .attempt _ | .sleepNow _ | .sleepDelayed => true
  | _ => false

/-- The call is going to store, or to wait for, a state other than deep sleep. -/
structure Call.Wakes (call : Call) : Prop where
  newState : call.newState ≠ .standbyDeepSleep
  checked : call.phase = .checked → call.currState = .standbyDeepSleep
  unarmed : call.phase ≠ .armed

namespace DeepSleepController

variable {env : Env} {c c' : DeepSleepController}

/-! ### The latch -/

/-- The latch is set for a sequence that will reset it. -/
def Attended (c : DeepSleepController) : Prop :=
  c.isDeepSleepInProgress = true →
    c.delayJobs ≠ [] ∨ ∃ e ∈ c.entries, e.phase.isEntering = true

/-- An activation is queued, delayed or under way. -/
def HasWork (c : DeepSleepController) : Prop :=
  c.activateJobs ≠ [] ∨ c.delayJobs ≠ [] ∨ c.entries ≠ []

theorem Attended.hasWork (h : c.Attended) (hp : c.isDeepSleepInProgress = true) : c.HasWork := by
  rcases h hp with hd | ⟨e, he, _⟩
  · exact .inr (.inl hd)
  · exact .inr (.inr (List.ne_nil_of_mem he))

theorem mem_eraseIdx_of_ne {α : Type} {l : List α} {i : ℕ} {x y : α} (hx : x ∈ l)
    (hi : l[i]? = some y) (hne : x ≠ y) : x ∈ l.eraseIdx i := by
  obtain ⟨j, hj⟩ := List.mem_iff_getElem?.mp hx
  apply List.mem_eraseIdx_iff_getElem?.mpr
  refine ⟨j, ?_, hj⟩
  rintro rfl
  exact hne (Option.some.inj (hj.symm.trans hi))

theorem mem_set_of_ne {α : Type} {l : List α} {i : ℕ} {x y z : α} (hx : x ∈ l)
    (hi : l[i]? = some y) (hne : x ≠ y) : x ∈ l.set i z := by
  obtain ⟨j, hj⟩ := List.mem_iff_getElem?.mp hx
  apply List.mem_iff_getElem?.mpr
  refine ⟨j, ?_⟩
  rw [List.getElem?_set_ne, hj]
  rintro rfl
  exact hne (Option.some.inj (hj.symm.trans hi))

/-- The end of a sequence that is over leaves the others. -/
theorem Attended.eraseIdx (h : c.Attended) {i : ℕ} {e : Entry} {wakeup : Wakeup}
    (he : c.entries[i]? = some e) (hp : e.phase = .request wakeup) :
    { c with entries := c.entries.eraseIdx i }.Attended := by
  intro hprogress
  refine (h hprogress).imp_right ?_
  rintro ⟨d, hd, hph⟩
  refine ⟨d, mem_eraseIdx_of_ne hd he ?_, hph⟩
  rintro rfl
  rw [hp] at hph
  cases hph

theorem Attended.set (h : c.Attended) {i : ℕ} {e e' : Entry} (he : c.entries[i]? = some e)
    (hkeep : e.phase.isEntering = true → e'.phase.isEntering = true) :
    { c with entries := c.entries.set i e' }.Attended := by
  intro hprogress
  refine (h hprogress).imp_right ?_
  rintro ⟨d, hd, hph⟩
  by_cases hde : d = e
  · rw [hde] at hph
    refine ⟨e', ?_, hkeep hph⟩
    exact List.mem_set (List.getElem?_eq_some_iff.mp he).1 e'
  · exact ⟨d, mem_set_of_ne hd he hde, hph⟩

end DeepSleepController

namespace Implementation

open Transition DeepSleepController

variable {env : Env} {m m' : Implementation}

theorem Works.attended {a : SleepAction} {c c' : DeepSleepController} (hc : c.Attended)
    (h : Works env c a c') : c'.Attended := by
  cases h with
  | @performActivate i job hj =>
      intro _
      rcases performActivate_cases env job { c with activateJobs := c.activateJobs.eraseIdx i } with
        ⟨hbusy, heq⟩ | ⟨_, _, _, ⟨id, time, _, hdelay, _⟩ | ⟨_, _, hent⟩⟩
      · rw [heq]
        exact hc hbusy
      · rw [hdelay]
        exact .inl (by simp)
      · rw [hent]
        exact .inr ⟨_, List.mem_append_right _ List.mem_cons_self, rfl⟩
  | delayExpired hj =>
      intro _
      exact .inr ⟨_, List.mem_append_right _ List.mem_cons_self, rfl⟩
  | setDeepSleep he _ => exact hc.set he fun _ => rfl
  | sleepReturned he hr =>
      intro hprogress
      exact absurd (beq_iff_eq.mp hprogress) (returnPhase_cases hr).1
  | announce he hp => exact hc.set he fun hph => by rw [hp] at hph; cases hph

theorem Works.hasWork {a : SleepAction} {c c' : DeepSleepController} (hc : c.Attended)
    (h : Works env c a c') : c'.HasWork := by
  have hset : ∀ {i : ℕ} {e e' : Entry}, c.entries[i]? = some e → c.entries.set i e' ≠ [] := by
    intro i e e' he
    exact List.ne_nil_of_mem (List.mem_set (List.getElem?_eq_some_iff.mp he).1 e')
  cases h with
  | @performActivate i job hj =>
      rcases performActivate_cases env job { c with activateJobs := c.activateJobs.eraseIdx i } with
        ⟨hbusy, heq⟩ | ⟨_, _, _, ⟨id, time, _, hdelay, _⟩ | ⟨_, _, hent⟩⟩
      · rw [heq]
        rcases hc.hasWork hbusy with _ | hw
        · exact .inr ((hc hbusy).imp_right fun ⟨e, he, _⟩ => List.ne_nil_of_mem he)
        · exact .inr hw
      · exact .inr (.inl (by rw [hdelay]; simp))
      · exact .inr (.inr (by rw [hent]; simp))
  | delayExpired hj => exact .inr (.inr (by simp [enterDeepSleepDelayed]))
  | setDeepSleep he _ | sleepReturned he _ | announce he _ => exact .inr (.inr (hset he))

theorem attended_step {a : Env × Action} (hm : m.Coherent) (hc : m.deepSleepController.Attended)
    (h : step m a = some m') : m'.deepSleepController.Attended := by
  refine step_controller (I := Attended) hm h (fun c jobs hc => hc) ?_
    (fun c i e wakeup he hp hc => hc.eraseIdx he hp) (fun s c' _ hw => hw.attended hc) hc
  rintro c _ ⟨⟩

/-! ### What is left to end a deep sleep -/

/-- Something is left that will take the device out of deep sleep. -/
def Remains (m : Implementation) : Prop :=
  m.deepSleepController.HasWork ∨
  (∃ c, m.modeChangeController = some c ∧ c.running = true ∧
    c.powerState ≠ .standbyDeepSleep) ∨
  ∃ call, m.call = some call ∧ call.Wakes

/-- What is known of a device in deep sleep. -/
structure Sleeping (m : Implementation) : Prop where
  created : m.modeChangeController ≠ none
  /-- A controller that is done has taken the device to deep sleep. -/
  done : (∀ call, m.call = some call → call.phase = .checked ∨ call.phase = .armed) →
    ∀ c, m.modeChangeController = some c → c.running = false → c.powerState = .standbyDeepSleep
  /-- A request before which no transition has completed was made in deep sleep. -/
  checked : ∀ call, m.call = some call → call.phase = .checked →
    (∀ c, m.modeChangeController = some c → c.running = true) →
      call.currState = .standbyDeepSleep
  remains : m.Remains

structure Watched (m : Implementation) : Prop where
  orphans : ∀ c ∈ m.cancelledControllers, c.running = true → c.powerState ≠ .standbyDeepSleep
  attended : m.deepSleepController.Attended
  changes : ∀ call, m.call = some call → call.phase = .checked → call.currState ≠ call.newState
  sleeping : m.powerState = .standbyDeepSleep → m.Sleeping

theorem watched_init (b : Bool) {pc : PowerController}
    (h : pc.settings.powerState ≠ .standbyDeepSleep) : (init b pc).Watched where
  orphans := by simp [init]
  attended := by rintro ⟨⟩
  changes := by simp [init]
  sleeping := fun hd => absurd hd h

/-! ### Steps of the other threads -/

theorem Sleeping.of_aside (hs : m.Sleeping) (ha : Aside m m') : m'.Sleeping where
  created := by
    intro hnone
    rcases ha.stored with ⟨hn, _⟩ | ⟨c, c', _, hc', _⟩
    · exact hs.created hn
    · exact absurd (hnone.symm.trans hc') (by simp)
  done := by
    intro hph c' hc' hr
    rw [ha.call] at hph
    obtain ⟨c, hc, hk⟩ := ha.stored_of_some hc'
    rw [hk.powerState]
    exact hs.done hph c hc (hk.running ▸ hr)
  checked := by
    intro call hcall hph hrun
    refine hs.checked call (ha.call ▸ hcall) hph fun c hc => ?_
    obtain ⟨c', hc', hk⟩ := ha.stored_of_some' hc
    exact hk.running ▸ hrun c' hc'
  remains := by
    rcases hs.remains with hw | ⟨c, hc, hr, hne⟩ | ⟨call, hcall, hwake⟩
    · left
      rw [ha.deepSleepController]
      exact hw
    · right; left
      obtain ⟨c', hc', hk⟩ := ha.stored_of_some' hc
      exact ⟨c', hc', hk.running.trans hr, hk.powerState ▸ hne⟩
    · exact .inr (.inr ⟨call, ha.call.trans hcall, hwake⟩)

theorem Sleeping.of_sleep (hs : m.Sleeping) (hat : m.deepSleepController.Attended)
    {a : SleepAction} (h : m.sleepStep env a = some m') : m'.Sleeping := by
  obtain ⟨c, hw, rfl⟩ := sleepStep_cases h
  exact ⟨hs.created, hs.done, hs.checked, .inl (hw.hasWork hat)⟩

/-- A completion that leads to deep sleep is the stored controller's and queues an activation. -/
theorem Watched.sleeping_of_ends (hw : m.Watched) (hm : m.Coherent)
    (henv : PowerController.Accepting env) {c : PreModeChangeController} {h : Completion}
    {isTimedout : Bool} {m₀ : Implementation} (he : Ends env m m' c h isTimedout m₀)
    (hd : m'.powerState = .standbyDeepSleep) : m'.Sleeping := by
  have hacc : m.Accepts env h false := accepts_of_accepting henv h
  have hnew : h.newState = .standbyDeepSleep := (he.stores.accepted hacc).symm.trans hd
  have hc : c.powerState = .standbyDeepSleep := (he.sound hm).2.1.symm.trans hnew
  rcases he.known with ⟨hst, c', hc', hk⟩ | ⟨hmem, _⟩
  · have hstored : m'.modeChangeController = some c' :=
      he.effect.frame.modeChangeController.trans hc'
    refine ⟨by simp [hstored], ?_, ?_, ?_⟩
    · intro _ d hd' _
      rw [← Option.some.inj (hstored.symm.trans hd'), hk.powerState, hc]
    · intro call _ _ hrun
      exact absurd (hk.running.symm.trans (hrun c' hstored)) (by simp)
    · obtain ⟨timeOut, nw, hjobs⟩ := he.stores.activated hacc hnew
      exact .inl (.inl (by simp [hjobs]))
  · exact absurd hc (hw.orphans c hmem he.running)

/-! ### Requests -/

theorem wakeup_newState_ne (b : Bool) (wakeup : Wakeup) :
    wakeup.newState b ≠ .standbyDeepSleep := by
  cases wakeup <;> cases b <;> simp [Wakeup.newState]

/-- A request that enters in deep sleep either wakes the device or leaves its work to others. -/
theorem Watched.sleeping_of_enter (hw : m.Watched) {a : Action} {newState : PowerState}
    {origin : Origin} {m₀ : Implementation} (hm : m.Coherent)
    (henter : m.entering a = some (newState, origin, m₀))
    (h : m₀.enterSetPowerState env newState origin = some m')
    (hd : m'.powerState = .standbyDeepSleep) : m'.Sleeping := by
  obtain ⟨entries, hm₀⟩ := entering_eq henter
  have hstate : m₀.powerState = m.powerState := by rw [hm₀]; rfl
  have hsleep : m₀.powerState = .standbyDeepSleep :=
    (enter_rests h).powerState.symm.trans hd
  have hs := hw.sleeping (hstate.symm.trans hsleep)
  obtain ⟨hl, ⟨hdec, rfl⟩ | ⟨hdec, rfl⟩⟩ := enterSetPowerState_cases h
  · have hlock : m.selfLock = false := by rw [hm₀] at hl; exact hl
    have hcall : m.call = none := hm.unlocked hlock
    have hmcc : m₀.modeChangeController = m.modeChangeController := by rw [hm₀]; rfl
    refine ⟨?_, ?_, by simp, ?_⟩
    · change m₀.modeChangeController ≠ none
      rw [hmcc]
      exact hs.created
    · intro _ c hc hr
      exact hs.done (by simp [hcall]) c (hmcc.symm.trans hc) hr
    · cases a with
      | setPowerState s =>
          cases henter
          rcases hs.remains with hwork | hrun | ⟨call, hcall', _⟩
          · exact .inl hwork
          · exact .inr (.inl hrun)
          · exact absurd (hcall.symm.trans hcall') (by simp)
      | wakeup i =>
          obtain ⟨e, wakeup, he, hp, hnew, _, hm₁⟩ := takeWakeup_eq henter
          have hne : m₀.powerState ≠ newState := by
            rw [hsleep, hnew]
            exact (wakeup_newState_ne _ _).symm
          have hrefuse : m₀.refusesRequest env.now = true := (hdec.resolve_left hne).2
          have hprogress : m₀.deepSleepController.isDeepSleepInProgress = true := by
            unfold refusesRequest at hrefuse
            exact (Bool.and_eq_true_iff.mp hrefuse).1
          have hat : m₀.deepSleepController.Attended := by
            rw [hm₁]
            exact hw.attended.eraseIdx he hp
          exact .inl (hat.hasWork hprogress)
      | _ => cases henter
  · have hne : newState ≠ .standbyDeepSleep := by
      intro hnew
      exact hdec (.inl (hsleep.trans hnew.symm))
    have hmcc : (m₀.entered newState origin).modeChangeController = m.modeChangeController := by
      rw [entered_controller, hm₀]
      rfl
    refine ⟨by rw [hmcc]; exact hs.created, ?_, ?_, ?_⟩
    · intro _ c hc hr
      have hcall : m.call = none := by
        apply hm.unlocked
        rw [hm₀] at hl
        exact hl
      exact hs.done (by simp [hcall]) c (hmcc.symm.trans hc) hr
    · rintro call ⟨⟩ _ _
      exact hsleep
    · exact .inr (.inr ⟨_, rfl, hne, fun _ => hsleep, by simp [requestCall]⟩)

/-- A call that only goes on to its next phase. -/
theorem Sleeping.of_next (hs : m.Sleeping) {call : Call} (phase : CallPhase)
    (hcall : m.call = some call) (hph : phase ≠ .checked) (harm : phase ≠ .armed)
    (hmcc : m'.modeChangeController = m.modeChangeController)
    (hdsc : m'.deepSleepController = m.deepSleepController)
    (hcall' : m'.call = some { call with phase := phase }) : m'.Sleeping := by
  refine ⟨by rw [hmcc]; exact hs.created, ?_, ?_, ?_⟩
  · intro hphase
    rcases hphase _ hcall' with hphase | hphase
    · exact absurd hphase hph
    · exact absurd hphase harm
  · intro c hc hphase
    rw [hcall'] at hc
    cases hc
    exact absurd hphase hph
  · rcases hs.remains with hwork | ⟨c, hc, hrun⟩ | ⟨call'', hcall'', hwake⟩
    · left
      rw [hdsc]
      exact hwork
    · exact .inr (.inl ⟨c, hmcc.trans hc, hrun⟩)
    · rw [← Option.some.inj (hcall.symm.trans hcall'')] at hwake
      exact .inr (.inr ⟨_, hcall', hwake.newState, fun hphase => absurd hphase hph, harm⟩)

theorem Watched.sleeping_of_advances (hw : m.Watched) (henv : PowerController.Accepting env)
    {call : Call} {due : Option Completion} (hcall : m.call = some call)
    (h : Advances env m call due m') (hd : m'.powerState = .standbyDeepSleep) :
    m'.Sleeping := by
  have hthis : ∀ call', m.call = some call' → call' = call :=
    fun call' hcall' => Option.some.inj (hcall'.symm.trans hcall)
  cases h with
  | @redundant c hp hc hsame =>
      rw [returnFromCall_powerState] at hd
      have hs := hw.sleeping hd
      have hph : ∀ call', m.call = some call' → call'.phase = .checked ∨ call'.phase = .armed :=
        fun call' hcall' => .inl (hthis call' hcall' ▸ hp)
      rw [returnFromCall_eq]
      refine ⟨hs.created, fun _ => hs.done hph, by simp, ?_⟩
      rcases hs.remains with hwork | hrun | ⟨call', hcall', hwake⟩
      · exact .inl hwork
      · exact .inr (.inl hrun)
      · -- the request is redundant because the stored controller aims at the state it asks for
        rw [hthis call' hcall'] at hwake
        right; left
        refine ⟨c, hc, ?_, hsame ▸ hwake.newState⟩
        cases hrun : c.running with
        | true => rfl
        | false => exact absurd (hsame.symm.trans (hs.done hph c hc hrun)) hwake.newState
  | installs hp hr =>
      have hs := hw.sleeping hd
      refine ⟨by simp, ?_, ?_, ?_⟩
      · intro hph'
        rcases hph' _ rfl with hph' | hph' <;> cases hph'
      · rintro call' ⟨⟩ hph'
        cases hph'
      · by_cases hnew : call.newState = .standbyDeepSleep
        · rcases hs.remains with hwork | ⟨c, hc, hrun, _⟩ | ⟨call', hcall', hwake⟩
          · exact .inl hwork
          · -- a running controller has completed nothing since the request was compared
            have hcur : call.currState = .standbyDeepSleep := by
              refine hs.checked call hcall hp fun c' hc' => ?_
              rw [← Option.some.inj (hc.symm.trans hc')]
              exact hrun
            exact absurd (hcur.trans hnew.symm) (hw.changes call hcall hp)
          · rw [hthis call' hcall'] at hwake
            exact absurd hnew hwake.newState
        · exact .inr (.inr ⟨_, rfl, hnew, by simp, by simp⟩)
  | submits =>
      exact (hw.sleeping hd).of_next .submitted hcall (by simp) (by simp) rfl rfl rfl
  | tests =>
      exact (hw.sleeping hd).of_next .tested hcall (by simp) (by simp) rfl rfl rfl
  | @completes c hp hc hat _ =>
      have he := completionHandler_effect env (call.completion c) false false m
      have hacc : m.Accepts env (call.completion c) false := accepts_of_accepting henv _
      rw [returnFromCall_powerState, he.accepted hacc] at hd
      have hnew : call.newState = .standbyDeepSleep := hd
      have hstored := he.frame.modeChangeController.trans hc
      rw [returnFromCall_eq]
      refine ⟨?_, ?_, by simp, ?_⟩
      · change (completionHandler _ _ _ _ _).modeChangeController ≠ none
        rw [hstored]
        simp
      · intro _ d hd' _
        rw [← Option.some.inj (hstored.symm.trans hd'), hat.powerState, hnew]
      · obtain ⟨timeOut, nw, hjobs⟩ := he.activated hacc hnew
        left; left
        change (completionHandler _ _ _ _ _).deepSleepController.activateJobs ≠ []
        rw [hjobs]
        simp
  | @arms c hp hc hat _ =>
      have hs := hw.sleeping hd
      refine ⟨by simp, ?_, ?_, ?_⟩
      · rintro _ d ⟨⟩ hr
        cases hr
      · rintro call' ⟨⟩ hphase
        cases hphase
      · rcases hs.remains with hwork | ⟨d, hd', hrun, _⟩ | ⟨call', hcall', hwake⟩
        · exact .inl hwork
        · rw [← Option.some.inj (hc.symm.trans hd'), (hat.unarmed (by simp [hp])).1] at hrun
          cases hrun
        · rw [hthis call' hcall'] at hwake
          exact .inr (.inl ⟨_, rfl, rfl, hat.powerState ▸ hwake.newState⟩)
  | @starts c hp hc hat _ =>
      rw [returnFromCall_powerState] at hd
      have hs := hw.sleeping hd
      rw [returnFromCall_eq]
      refine ⟨by simp, ?_, by simp, ?_⟩
      · rintro _ d ⟨⟩ hr
        exact hs.done (fun call' hcall' => .inr (hthis call' hcall' ▸ hp)) c hc hr
      · rcases hs.remains with hwork | ⟨d, hd', hrun⟩ | ⟨call', hcall', hwake⟩
        · exact .inl hwork
        · rw [← Option.some.inj (hc.symm.trans hd')] at hrun
          exact .inr (.inl ⟨_, rfl, hrun⟩)
        · rw [hthis call' hcall'] at hwake
          exact absurd hp hwake.unarmed

/-! ### The invariant -/

/-- A transition to deep sleep is cancelled while a dispatched timer job refers to it. -/
def CancelsDeepSleep (m : Implementation) (a : Env × Action) : Prop :=
  m.CancelsDispatched a ∧ ∃ c ∈ m.modeChangeController, c.powerState = .standbyDeepSleep

instance (m : Implementation) (a : Env × Action) : Decidable (m.CancelsDeepSleep a) :=
  inferInstanceAs (Decidable (_ ∧ _))

/-- A call that goes on has left the comparison with the stored state behind. -/
theorem Advances.phase {call call' : Call} {due : Option Completion}
    (h : Advances env m call due m') (hcall' : m'.call = some call') :
    call'.phase ≠ .checked := by
  cases h with
  | redundant | completes | starts => cases hcall'
  | installs | submits | tests | arms =>
      cases hcall'
      simp

theorem changes_step {a : Env × Action} (hm : m.Coherent)
    (hch : ∀ call, m.call = some call → call.phase = .checked → call.currState ≠ call.newState)
    (h : step m a = some m') :
    ∀ call, m'.call = some call → call.phase = .checked → call.currState ≠ call.newState := by
  rcases step_cases hm h with
    ⟨s, origin, m₀, henter, h⟩ | ⟨call, _, hcall, hadv⟩ | ⟨hb, _⟩ | ⟨s, _, hs⟩ |
      ⟨c, hc, t, m₀, he, _⟩
  · obtain ⟨_, ⟨_, rfl⟩ | ⟨hdec, rfl⟩⟩ := enterSetPowerState_cases h
    · simp
    · rintro call ⟨⟩ _ heq
      exact hdec (.inl heq)
  · exact fun call' hcall' hph => absurd hph (hadv.phase hcall')
  · rw [hb.call]
    exact hch
  · rw [(sleepStep_background hs).call]
    exact hch
  · have hsame := he.same
    rw [he.effect.frame.call, hsame]
    exact hch

theorem watched_step {a : Env × Action} (hm : m.Coherent) (hw : m.Watched)
    (henv : PowerController.Accepting a.1) (ha : ¬ m.CancelsDeepSleep a)
    (h : step m a = some m') : m'.Watched where
  orphans := by
    intro c' hc' hrun
    rcases cancelled_step hm h hc' with ⟨c, hc, hk | hk⟩ | ⟨hst, hcancel⟩
    · rw [hk.powerState]
      exact hw.orphans c hc (hk.running ▸ hrun)
    · rw [hk.running] at hrun
      cases hrun
    · exact fun hd => ha ⟨hcancel hrun, c', hst, hd⟩
  attended := attended_step hm hw.attended h
  changes := changes_step hm hw.changes h
  sleeping := by
    intro hd
    obtain ⟨env, a⟩ := a
    rcases step_cases hm h with
      ⟨s, origin, m₀, henter, h⟩ | ⟨call, _, hcall, hadv⟩ | ⟨hb, _⟩ | ⟨s, _, hs⟩ |
        ⟨c, hc, t, m₀, he, _⟩
    · exact hw.sleeping_of_enter hm henter h hd
    · exact hw.sleeping_of_advances henv hcall hadv hd
    · exact (hw.sleeping (hb.powerState.symm.trans hd)).of_aside hb
    · exact (hw.sleeping ((sleepStep_background hs).powerState.symm.trans hd)).of_sleep
        hw.attended hs
    · exact hw.sleeping_of_ends hm henv he hd

/-! ### The result -/

/-- Nothing is left to happen but requests of clients. -/
structure Quiescent (m : Implementation) : Prop where
  activateJobs : m.deepSleepController.activateJobs = []
  delayJobs : m.deepSleepController.delayJobs = []
  entries : m.deepSleepController.entries = []
  stored : ¬ m.Transitioning
  cancelled : ∀ c ∈ m.cancelledControllers, c.running = false
  call : m.call = none

/-- No quiescent state is deep sleep, as long as no transition to deep sleep is cancelled while a
dispatched timer job refers to its controller. -/
theorem every_deep_sleep_ends {b : Bool} {pc : PowerController}
    (hpc : pc.settings.powerState ≠ .standbyDeepSleep)
    (hr : ReachableBy step (fun m a => PowerController.Accepting a.1 ∧ ¬ m.CancelsDeepSleep a)
      (init b pc) m) (hq : m.Quiescent) : m.powerState ≠ .standbyDeepSleep := by
  have hinv : m.Coherent ∧ m.Watched := by
    refine hr.invariant (I := fun m => m.Coherent ∧ m.Watched) ?_
      ⟨coherent_init b pc, watched_init b hpc⟩
    rintro s a t ⟨hm, hw⟩ ⟨henv, hC⟩ ht
    exact ⟨coherent_step hm ht, watched_step hm hw henv hC ht⟩
  intro hd
  rcases (hinv.2.sleeping hd).remains with (h | h | h) | ⟨c, hc, hrun, _⟩ | ⟨call, hcall, _⟩
  · exact h hq.activateJobs
  · exact h hq.delayJobs
  · exact h hq.entries
  · exact hq.stored ⟨c, hc, hrun⟩
  · exact absurd (hq.call.symm.trans hcall) (by simp)

/-- A pool thread puts the device to sleep, and the timer ends the sleep. -/
def sleepUntilTimer : List (Env × Action) :=
  [({}, .sleep (.performActivate 0)), ({}, .sleep (.setDeepSleep 0)),
    ({}, .sleep (.sleepReturned 0 .errorNone false)), ({}, .sleep (.announce 0)),
    ({}, .wakeup 0), ({}, .advance)]

def timerSleepRun : List (Env × Action) :=
  List.append [({}, .setPowerState .standbyDeepSleep), ({}, .advance), ({}, .advance),
    ({}, .advance)] (List.append sleepUntilTimer [({}, .advance), ({}, .advance)])

theorem every_deep_sleep_ends_timer :
    ∃ m, run step (init false {}) timerSleepRun = some m ∧ m.Quiescent ∧
      m.powerState ≠ .standbyDeepSleep := by
  have hr : run step (init false {}) timerSleepRun = some _ := rfl
  refine ⟨_, hr, ⟨rfl, rfl, rfl, by decide, by decide, rfl⟩, ?_⟩
  exact every_deep_sleep_ends (by decide) ⟨_, hr, by decide⟩
    ⟨rfl, rfl, rfl, by decide, by decide, rfl⟩

/-- The timer job of a transition to deep sleep is dispatched before a request for light sleep
cancels the transition, and runs after that request has completed. -/
def racedSleepRun : List (Env × Action) :=
  List.append [({}, .api (.addPowerModePreChangeClient "client")),
    ({}, .setPowerState .standbyDeepSleep), ({}, .advance), ({}, .advance), ({}, .advance),
    ({}, .advance), ({}, .advance), ({ now := 1000000 }, .timerDispatch),
    ({}, .setPowerState .standbyLightSleep), ({}, .advance), ({}, .advance), ({}, .advance),
    ({}, .advance), ({}, .advance), ({}, .api (.powerModePreChangeComplete 1 2)),
    ({}, .cancelledRun 0)] sleepUntilTimer

theorem deep_sleep_never_ends :
    ∃ m, run step (init false {}) racedSleepRun = some m ∧
      (∀ a ∈ racedSleepRun, PowerController.Accepting a.1) ∧ m.Quiescent ∧
      m.powerState = .standbyDeepSleep :=
  ⟨_, rfl, by decide, ⟨rfl, rfl, rfl, by decide, by decide, rfl⟩, by decide⟩

end Implementation

end DeviceAndDisplay.PowerManager
