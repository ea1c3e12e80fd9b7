import DeviceAndDisplay.Verification.PowerManager.Steps

/-! # Interleaved calls

What every interleaving of the threads keeps: which controller the call under way works on,
and which handler each controller holds. -/

namespace DeviceAndDisplay.PowerManager

/-! ### Controllers and their handlers -/

/-- A controller holds the lambda of the request that created it. -/
structure HandlerSound (c : PreModeChangeController) : Prop where
  handler : ∀ h, c.handler = some h →
    h.transactionId = c.transactionId ∧ h.newState = c.powerState ∧ h.isSync = false
  running : c.running = true → ∃ h, c.handler = some h

theorem HandlerSound.congr {c c' : PreModeChangeController} (hs : HandlerSound c)
    (hp : c'.powerState = c.powerState) (htid : c'.transactionId = c.transactionId)
    (hh : c'.handler = c.handler) (hr : c'.running = true → c.running = true) :
    HandlerSound c' where
  handler := by
    intro h hc'
    rw [hp, htid]
    exact hs.handler h (hh ▸ hc')
  running := by
    intro hc'
    rw [hh]
    exact hs.running (hr hc')

theorem HandlerSound.kept {c c' : PreModeChangeController} (hs : HandlerSound c)
    (hk : c.Kept c') : HandlerSound c' :=
  hs.congr hk.powerState hk.transactionId hk.handler fun h => hk.running ▸ h

theorem HandlerSound.stopped {c c' : PreModeChangeController} (hs : HandlerSound c)
    (hst : c.Stopped c') : HandlerSound c' :=
  hs.congr hst.powerState hst.transactionId hst.handler fun _ => hst.wasRunning

/-- The stored controller while a call that installed it is under way. -/
structure CallAt (call : Call) (c : PreModeChangeController) : Prop where
  powerState : c.powerState = call.newState
  timerJob : c.timerJob = none
  unarmed : call.phase ≠ .armed → c.running = false ∧ c.handler = none
  armed : call.phase = .armed → c.handler = some (call.completion c)

theorem Call.completion_congr (call : Call) {c c' : PreModeChangeController}
    (htid : c'.transactionId = c.transactionId) : call.completion c' = call.completion c := by
  simp [Call.completion, htid]

theorem CallAt.kept {call : Call} {c c' : PreModeChangeController} (ha : CallAt call c)
    (hk : c.Kept c') : CallAt call c' where
  powerState := hk.powerState.trans ha.powerState
  timerJob := hk.timerJob.mpr ha.timerJob
  unarmed := by
    intro hp
    rw [hk.running, hk.handler]
    exact ha.unarmed hp
  armed := by
    intro hp
    rw [hk.handler, call.completion_congr hk.transactionId]
    exact ha.armed hp

theorem CallAt.stopped {call : Call} {c c' : PreModeChangeController} (ha : CallAt call c)
    (hst : c.Stopped c') : CallAt call c' where
  powerState := hst.powerState.trans ha.powerState
  timerJob := hst.timerJob.mpr ha.timerJob
  unarmed := by
    intro hp
    exact absurd ((ha.unarmed hp).1.symm.trans hst.wasRunning) (by simp)
  armed := by
    intro hp
    rw [hst.handler, call.completion_congr hst.transactionId]
    exact ha.armed hp

namespace Implementation

open Transition

variable {env : Env} {m m' : Implementation}

/-! ### The invariant -/

structure Coherent (m : Implementation) : Prop where
  selfLock : m.selfLock = m.call.isSome
  transactionId : ∀ c, m.modeChangeController = some c → c.transactionId = m.nextTransactionId
  sound : ∀ c, m.modeChangeController = some c → HandlerSound c
  cancelled : ∀ c ∈ m.cancelledControllers,
    HandlerSound c ∧ c.transactionId < m.nextTransactionId
  /-- A call that has returned has left a timer job, if the controller still runs. -/
  timer : (∀ call, m.call = some call → call.phase = .checked) →
    ∀ c, m.modeChangeController = some c → c.running = true → c.timerJob ≠ none
  working : ∀ call, m.call = some call → call.phase ≠ .checked →
    ∃ c, m.modeChangeController = some c ∧ CallAt call c
  isSync : ∀ call, m.call = some call → call.phase = .tested ∨ call.phase = .armed →
    call.isSync = false

theorem coherent_init (b : Bool) (pc : PowerController) : (init b pc).Coherent where
  selfLock := rfl
  transactionId := by simp [init]
  sound := by simp [init]
  cancelled := by simp [init]
  timer := by simp [init]
  working := by simp [init]
  isSync := by simp [init]

theorem Coherent.unlocked (hc : m.Coherent) (hl : m.selfLock = false) : m.call = none := by
  have h := hc.selfLock
  rw [hl] at h
  exact Option.isNone_iff_eq_none.mp (by simpa using h.symm)

/-! ### Steps of the other threads -/

/-- A step that exchanges no controller for another one. -/
theorem Coherent.of_controllers (hc : m.Coherent) (hlock : m'.selfLock = m.selfLock)
    (hcall : m'.call = m.call) (hnext : m'.nextTransactionId = m.nextTransactionId)
    (hstored : ∀ c', m'.modeChangeController = some c' →
      ∃ c, m.modeChangeController = some c ∧ (c.Kept c' ∨ c.Stopped c'))
    (hback : ∀ c, m.modeChangeController = some c →
      ∃ c', m'.modeChangeController = some c' ∧ (c.Kept c' ∨ c.Stopped c'))
    (hcancelled : ∀ c' ∈ m'.cancelledControllers,
      ∃ c ∈ m.cancelledControllers, c.Kept c' ∨ c.Stopped c') : m'.Coherent where
  selfLock := by rw [hlock, hcall, hc.selfLock]
  transactionId := by
    intro c' hc'
    obtain ⟨c, hst, hk | hk⟩ := hstored c' hc'
    · rw [hk.transactionId, hc.transactionId c hst, hnext]
    · rw [hk.transactionId, hc.transactionId c hst, hnext]
  sound := by
    intro c' hc'
    obtain ⟨c, hst, hk | hk⟩ := hstored c' hc'
    · exact (hc.sound c hst).kept hk
    · exact (hc.sound c hst).stopped hk
  cancelled := by
    intro c' hc'
    rw [hnext]
    obtain ⟨c, hmem, hk | hk⟩ := hcancelled c' hc'
    · rw [hk.transactionId]
      exact ⟨(hc.cancelled c hmem).1.kept hk, (hc.cancelled c hmem).2⟩
    · rw [hk.transactionId]
      exact ⟨(hc.cancelled c hmem).1.stopped hk, (hc.cancelled c hmem).2⟩
  timer := by
    intro hp c' hc' hr
    rw [hcall] at hp
    obtain ⟨c, hst, hk | hk⟩ := hstored c' hc'
    · exact mt hk.timerJob.mp (hc.timer hp c hst (hk.running ▸ hr))
    · exact absurd (hk.running.symm.trans hr) (by simp)
  working := by
    intro call hcl hp
    obtain ⟨c, hst, hat⟩ := hc.working call (hcall ▸ hcl) hp
    obtain ⟨c', hc', hk | hk⟩ := hback c hst
    · exact ⟨c', hc', hat.kept hk⟩
    · exact ⟨c', hc', hat.stopped hk⟩
  isSync := by
    rw [hcall]
    exact hc.isSync

theorem Coherent.of_background (hc : m.Coherent) (hb : Background m m') : m'.Coherent := by
  refine hc.of_controllers hb.selfLock hb.call hb.nextTransactionId ?_ ?_ ?_
  · intro c' hc'
    obtain ⟨c, hst, hk⟩ := hb.stored_of_some hc'
    exact ⟨c, hst, .inl hk⟩
  · intro c hst
    obtain ⟨c', hc', hk⟩ := hb.stored_of_some' hst
    exact ⟨c', hc', .inl hk⟩
  · intro c' hc'
    obtain ⟨c, hmem, hk⟩ := hb.cancelled c' hc'
    exact ⟨c, hmem, .inl hk⟩

/-- The running controller `c` stops, and its handler `h` runs from the state `m₀`. -/
structure Ends (env : Env) (m m' : Implementation) (c : PreModeChangeController) (h : Completion)
    (isTimedout : Bool) (m₀ : Implementation) : Prop where
  known : m.modeChangeController = some c ∧
      (∃ c', m₀.modeChangeController = some c' ∧ c.Stopped c') ∨
    c ∈ m.cancelledControllers ∧ m₀.modeChangeController = m.modeChangeController
  running : c.running = true
  handler : c.handler = some h
  same : m₀ = { m with
    modeChangeController := m₀.modeChangeController
    modeChangeClients := m₀.modeChangeClients
    cancelledControllers := m₀.cancelledControllers }
  cancelled : ∀ d' ∈ m₀.cancelledControllers,
    ∃ d ∈ m.cancelledControllers, d.Kept d' ∨ d.Stopped d'
  result : m' = m₀.completionHandler env h isTimedout false

theorem Completes.ends (hm : m.Coherent) {isTimedout : Bool} {due : Option Completion}
    (hc : Completes env m isTimedout due m') :
    ∃ c h m₀, Ends env m m' c h isTimedout m₀ ∧ due = some h := by
  cases hc with
  | @stored c c' clients isTimedout hst hk =>
      obtain ⟨h, hh⟩ := (hm.sound c hst).running hk.wasRunning
      refine ⟨c, h, _, ⟨.inl ⟨hst, c', rfl, hk⟩, hk.wasRunning, hh, rfl, ?_,
        runHandler_callHandler hh _ _ _⟩, hh⟩
      exact fun d hd => ⟨d, hd, .inl (.refl d)⟩
  | @cancelled c cs hmem hr hcs =>
      obtain ⟨h, hh⟩ := (hm.cancelled c hmem).1.running hr
      exact ⟨c, h, { m with cancelledControllers := cs },
        ⟨.inr ⟨hmem, rfl⟩, hr, hh, rfl, hcs, runHandler_callHandler hh _ _ _⟩, hh⟩

variable {c : PreModeChangeController} {h : Completion} {isTimedout : Bool} {m₀ : Implementation}

theorem Ends.stored (he : Ends env m m' c h isTimedout m₀) {d' : PreModeChangeController}
    (hd' : m₀.modeChangeController = some d') :
    ∃ d, m.modeChangeController = some d ∧ (d.Kept d' ∨ d.Stopped d') := by
  rcases he.known with ⟨hst, c', hc', hk⟩ | ⟨_, hsame⟩
  · rw [← Option.some.inj (hc'.symm.trans hd')]
    exact ⟨c, hst, .inr hk⟩
  · exact ⟨d', hsame.symm.trans hd', .inl (.refl d')⟩

theorem Ends.back (he : Ends env m m' c h isTimedout m₀) {d : PreModeChangeController}
    (hd : m.modeChangeController = some d) :
    ∃ d', m₀.modeChangeController = some d' ∧ (d.Kept d' ∨ d.Stopped d') := by
  rcases he.known with ⟨hst, c', hc', hk⟩ | ⟨_, hsame⟩
  · rw [← Option.some.inj (hst.symm.trans hd)]
    exact ⟨c', hc', .inr hk⟩
  · exact ⟨d, hsame.trans hd, .inl (.refl d)⟩

theorem Ends.effect (he : Ends env m m' c h isTimedout m₀) :
    CompletionEffect env h isTimedout false m₀ m' := by
  rw [he.result]
  exact completionHandler_effect env h isTimedout false m₀

theorem Ends.sound (hm : m.Coherent) (he : Ends env m m' c h isTimedout m₀) :
    h.transactionId = c.transactionId ∧ h.newState = c.powerState ∧ h.isSync = false := by
  rcases he.known with ⟨hst, _⟩ | ⟨hmem, _⟩
  · exact (hm.sound c hst).handler h he.handler
  · exact (hm.cancelled c hmem).1.handler h he.handler

theorem Coherent.of_ends (hm : m.Coherent) (he : Ends env m m' c h isTimedout m₀) :
    m'.Coherent := by
  have hf := he.effect.frame
  have hsame := he.same
  have hlock : m'.selfLock = m.selfLock := by
    rw [he.effect.selfLock, (he.sound hm).2.2, hsame]
    rfl
  refine hm.of_controllers hlock ?_ ?_ ?_ ?_ ?_
  · rw [hf.call, hsame]
  · rw [hf.nextTransactionId, hsame]
  · rw [hf.modeChangeController]
    exact fun _ => he.stored
  · rw [hf.modeChangeController]
    exact fun _ => he.back
  · rw [hf.cancelledControllers]
    exact he.cancelled

/-! ### Parts of SetPowerState -/

/-- The request an action makes, with the object the call starts in. -/
def entering (m : Implementation) : Action → Option (PowerState × Origin × Implementation)
  | .setPowerState newState => some (newState, .client, m)
  | .wakeup i => m.takeWakeup i
  | _ => none

/-- The object a request starts in differs in the sleeping threads only. -/
theorem entering_eq {a : Action} {newState : PowerState} {origin : Origin}
    (h : m.entering a = some (newState, origin, m₀)) :
    ∃ entries, m₀ = m.setEntries entries := by
  cases a with
  | setPowerState s =>
      cases h
      exact ⟨m.deepSleepController.entries, rfl⟩
  | wakeup i =>
      obtain ⟨e, wakeup, _, _, _, _, rfl⟩ := takeWakeup_eq h
      exact ⟨_, rfl⟩
  | _ => cases h

/-- The completion handler that a step calls without aborting it. -/
def dueCompletion (m : Implementation) : Action → Option Completion
  | .advance =>
      m.call.bind fun call => m.modeChangeController.bind fun c =>
        if call.phase = .submitted ∧ c.completesAtOnce (call.timeOut * 1000) then
          some (call.completion c)
        else none
  | .timerRun => m.modeChangeController.bind timerDue
  | .cancelledRun i => m.cancelledControllers[i]?.bind timerDue
  | .api a => m.apiDue a
  | _ => none

theorem dueCompletion_advance {call : Call} (hcall : m.call = some call)
    (hp : call.phase ≠ .submitted) : m.dueCompletion .advance = none := by
  simp only [dueCompletion, hcall, Option.bind_some]
  cases m.modeChangeController with
  | none => rfl
  | some c => simp [hp]

theorem dueCompletion_submitted {call : Call} (hcall : m.call = some call)
    (hc : m.modeChangeController = some c) (hp : call.phase = .submitted) :
    m.dueCompletion .advance =
      if c.completesAtOnce (call.timeOut * 1000) then some (call.completion c) else none := by
  simp [dueCompletion, hcall, hc, hp]

/-- What becomes of the stored controller when a request installs its own: the log entries it
adds, newest first, and the cancelled controllers that stay alive. -/
inductive Reset (m : Implementation) (newState : PowerState) :
    List LogEntry → List PreModeChangeController → Prop
  | nothing (hc : m.modeChangeController = none) : Reset m newState [] m.cancelledControllers
  | destroyed {c : PreModeChangeController} (hc : m.modeChangeController = some c)
      (hne : c.powerState ≠ newState) (hd : c.dispatched = 0) :
      Reset m newState (resetLog c) m.cancelledControllers
  | orphaned {c : PreModeChangeController} (hc : m.modeChangeController = some c)
      (hne : c.powerState ≠ newState) (hd : c.dispatched ≠ 0) :
      Reset m newState [.cancelled c.transactionId] (m.cancelledControllers ++ [c])

theorem installController_cases (hm : m.Coherent) {call : Call} (hcall : m.call = some call)
    (hp : call.phase = .checked) :
    (∃ c, m.modeChangeController = some c ∧ c.powerState = call.newState ∧
      m.installController env call = m.returnFromCall call.newState true) ∨
    ∃ log cs, Reset m call.newState log cs ∧ m.installController env call = { m with
      modeChangeController := some (m.freshController env call.newState)
      cancelledControllers := cs
      nextTransactionId := m.nextTransactionId + 1
      call := some { call with phase := .installed }
      log := .addRef (m.nextTransactionId + 1) :: (log ++ m.log) } := by
  unfold installController
  cases hc : m.modeChangeController with
  | none =>
      right
      refine ⟨[], m.cancelledControllers, .nothing hc, ?_⟩
      rw [createController_eq]
      rfl
  | some c =>
      by_cases hs : c.powerState = call.newState
      · left
        exact ⟨c, rfl, hs, by simp [hs]⟩
      · right
        simp only [if_neg hs]
        by_cases hd : c.dispatched = 0
        · refine ⟨_, _, .destroyed hc hs hd, ?_⟩
          rw [resetController_destroyed hd, createController_eq]
          · rfl
          · intro hr
            have hphase : ∀ call', m.call = some call' → call'.phase = .checked := by
              intro call' hcall'
              rw [← Option.some.inj (hcall.symm.trans hcall')]
              exact hp
            obtain ⟨h, hh⟩ := (hm.sound c hc).running hr
            obtain ⟨htid, _, hsync⟩ := (hm.sound c hc).handler h hh
            exact ⟨hm.timer hphase c hc hr, h, hh, hsync, htid⟩
        · refine ⟨_, _, .orphaned hc hs hd, ?_⟩
          rw [resetController_orphaned hd, createController_eq]
          rfl

/-- What the next part of the call under way does, and the handler it calls. -/
inductive Advances (env : Env) (m : Implementation) (call : Call) :
    Option Completion → Implementation → Prop
  | redundant {c : PreModeChangeController} (hp : call.phase = .checked)
      (hc : m.modeChangeController = some c) (hs : c.powerState = call.newState) :
      Advances env m call none (m.returnFromCall call.newState true)
  | installs {log : List LogEntry} {cs : List PreModeChangeController}
      (hp : call.phase = .checked) (hr : Reset m call.newState log cs) :
      Advances env m call none { m with
        modeChangeController := some (m.freshController env call.newState)
        cancelledControllers := cs
        nextTransactionId := m.nextTransactionId + 1
        call := some { call with phase := .installed }
        log := .addRef (m.nextTransactionId + 1) :: (log ++ m.log) }
  | submits {c : PreModeChangeController} (hp : call.phase = .installed)
      (hc : m.modeChangeController = some c) (hat : CallAt call c) :
      Advances env m call none
        { m.submitPowerModePreChangeEvent call.currState call.newState c.transactionId
            call.timeOut with call := some { call with phase := .submitted } }
  | completes {c : PreModeChangeController} (hp : call.phase = .submitted)
      (hc : m.modeChangeController = some c) (hat : CallAt call c)
      (hnow : c.completesAtOnce (call.timeOut * 1000)) :
      Advances env m call (some (call.completion c))
        ((m.completionHandler env (call.completion c) false false).returnFromCall
          call.newState (!call.isSync))
  | tests {c : PreModeChangeController} (hp : call.phase = .submitted)
      (hc : m.modeChangeController = some c) (hat : CallAt call c)
      (hnow : ¬ c.completesAtOnce (call.timeOut * 1000)) :
      Advances env m call none { m with call := some { call with phase := .tested } }
  | arms {c : PreModeChangeController} (hp : call.phase = .tested)
      (hc : m.modeChangeController = some c) (hat : CallAt call c)
      (hsync : call.isSync = false) :
      Advances env m call none { m with
        modeChangeController := some (c.arm (call.completion c))
        call := some { call with phase := .armed } }
  | starts {c : PreModeChangeController} (hp : call.phase = .armed)
      (hc : m.modeChangeController = some c) (hat : CallAt call c)
      (hsync : call.isSync = false) :
      Advances env m call none ({ m with
        modeChangeController := some (c.startTimer env.now (call.timeOut * 1000))
        }.returnFromCall call.newState true)

theorem advance_cases (env : Env) (hm : m.Coherent) {call : Call} (hcall : m.call = some call) :
    Advances env m call (m.dueCompletion .advance) (m.advance env call) := by
  cases hp : call.phase with
  | checked =>
      rw [advance_checked hp, dueCompletion_advance hcall (by simp [hp])]
      rcases installController_cases hm hcall hp with ⟨c, hc, hs, heq⟩ | ⟨log, cs, hr, heq⟩
      · rw [heq]
        exact .redundant hp hc hs
      · rw [heq]
        exact .installs hp hr
  | installed =>
      obtain ⟨c, hc, hat⟩ := hm.working call hcall (by simp [hp])
      rw [advance_installed hp hc, dueCompletion_advance hcall (by simp [hp])]
      exact .submits hp hc hat
  | submitted =>
      obtain ⟨c, hc, hat⟩ := hm.working call hcall (by simp [hp])
      rw [advance_submitted hp hc, dueCompletion_submitted hcall hc hp]
      by_cases hnow : c.completesAtOnce (call.timeOut * 1000)
      · rw [if_pos hnow, if_pos hnow]
        exact .completes hp hc hat hnow
      · rw [if_neg hnow, if_neg hnow]
        exact .tests hp hc hat hnow
  | tested =>
      obtain ⟨c, hc, hat⟩ := hm.working call hcall (by simp [hp])
      rw [advance_tested hp hc, dueCompletion_advance hcall (by simp [hp])]
      exact .arms hp hc hat (hm.isSync call hcall (.inl hp))
  | armed =>
      obtain ⟨c, hc, hat⟩ := hm.working call hcall (by simp [hp])
      have hsync := hm.isSync call hcall (.inr hp)
      rw [advance_armed hp hc, dueCompletion_advance hcall (by simp [hp]), hsync]
      exact .starts hp hc hat hsync

theorem step_cases {a : Env × Action} (hm : m.Coherent) (h : step m a = some m') :
    (∃ newState origin m₀, m.entering a.2 = some (newState, origin, m₀) ∧
      m₀.enterSetPowerState a.1 newState origin = some m') ∨
    (∃ call, a.2 = .advance ∧ m.call = some call ∧
      Advances a.1 m call (m.dueCompletion a.2) m') ∨
    (Aside m m' ∧ m.dueCompletion a.2 = none) ∨
    (∃ sleep, a.2 = .sleep sleep ∧ m.sleepStep a.1 sleep = some m') ∨
    ∃ c h isTimedout m₀, Ends a.1 m m' c h isTimedout m₀ ∧ m.dueCompletion a.2 = some h := by
  obtain ⟨env, a⟩ := a
  cases a with
  | setPowerState s => exact .inl ⟨s, .client, m, rfl, h⟩
  | wakeup i =>
      obtain ⟨⟨s, origin, m₀⟩, hw, h⟩ := Option.bind_eq_some_iff.mp h
      exact .inl ⟨s, origin, m₀, hw, h⟩
  | advance =>
      obtain ⟨call, hcall, rfl⟩ := Option.map_eq_some_iff.mp h
      exact .inr (.inl ⟨call, rfl, hcall, advance_cases env hm hcall⟩)
  | timerDispatch => exact .inr (.inr (.inl ⟨timerDispatch_aside h, rfl⟩))
  | timerRun =>
      rcases timerRun_cases h with hq | hc
      · exact .inr (.inr (.inl hq))
      · obtain ⟨c, hc, m₀, he⟩ := hc.ends hm
        exact .inr (.inr (.inr (.inr ⟨c, hc, _, m₀, he⟩)))
  | cancelledDispatch i => exact .inr (.inr (.inl ⟨cancelledDispatch_aside h, rfl⟩))
  | cancelledRun i =>
      rcases cancelledRun_cases h with hq | hc
      · exact .inr (.inr (.inl hq))
      · obtain ⟨c, hc, m₀, he⟩ := hc.ends hm
        exact .inr (.inr (.inr (.inr ⟨c, hc, _, m₀, he⟩)))
  | sleep a => exact .inr (.inr (.inr (.inl ⟨a, rfl, h⟩)))
  | api a =>
      rcases apiStep_cases h with hq | hc
      · exact .inr (.inr (.inl ⟨hq.1.toAside, hq.2⟩))
      · obtain ⟨c, hc, m₀, he⟩ := hc.ends hm
        exact .inr (.inr (.inr (.inr ⟨c, hc, _, m₀, he⟩)))

theorem Coherent.entered (hm : m.Coherent) (hl : m.selfLock = false) (newState : PowerState)
    (origin : Origin) : (m.entered newState origin).Coherent := by
  have htimer := hm.timer (by simp [hm.unlocked hl])
  rw [entered_eq]
  refine ⟨rfl, hm.transactionId, hm.sound, hm.cancelled, fun _ => htimer, ?_, ?_⟩
  · rintro call ⟨⟩ hp
    exact absurd rfl hp
  · rintro call ⟨⟩ hp
    rcases hp with hp | hp <;> cases hp

/-- A request that takes `selfLock` finds no call under way. -/
theorem Coherent.of_enter (hm : m.Coherent) {newState : PowerState} {origin : Origin}
    (h : m.enterSetPowerState env newState origin = some m') : m'.Coherent := by
  obtain ⟨hl, ⟨_, rfl⟩ | ⟨_, rfl⟩⟩ := enterSetPowerState_cases h
  · have htimer := hm.timer (by simp [hm.unlocked hl])
    exact ⟨rfl, hm.transactionId, hm.sound, hm.cancelled, fun _ => htimer, by simp, by simp⟩
  · exact hm.entered hl newState origin

theorem Coherent.setEntries (hm : m.Coherent) (entries : List Entry) :
    (m.setEntries entries).Coherent :=
  ⟨hm.selfLock, hm.transactionId, hm.sound, hm.cancelled, hm.timer, hm.working, hm.isSync⟩

theorem Reset.cancelled {newState : PowerState} {log : List LogEntry}
    {cs : List PreModeChangeController} (hr : Reset m newState log cs)
    {c : PreModeChangeController} (hc : c ∈ cs) :
    c ∈ m.cancelledControllers ∨ m.modeChangeController = some c := by
  cases hr with
  | nothing _ => exact .inl hc
  | destroyed _ _ _ => exact .inl hc
  | @orphaned d hd _ _ =>
      rcases List.mem_append.mp hc with hc | hc
      · exact .inl hc
      · rw [List.mem_singleton.mp hc]
        exact .inr hd

theorem handlerSound_fresh (env : Env) (newState : PowerState) (m : Implementation) :
    HandlerSound (m.freshController env newState) := by
  rw [freshController_eq]
  constructor <;> simp [AckController.create]

/-- The parts of a call under way. -/
theorem Coherent.of_advances (hm : m.Coherent) {call : Call} {due : Option Completion}
    (hcall : m.call = some call) (h : Advances env m call due m') : m'.Coherent := by
  have hlock := hm.selfLock
  rw [hcall] at hlock
  cases h with
  | redundant hp hc hs =>
      rw [returnFromCall_eq]
      refine ⟨rfl, hm.transactionId, hm.sound, hm.cancelled, fun _ => hm.timer ?_, by simp, by simp⟩
      intro call' hcall'
      rw [← Option.some.inj (hcall.symm.trans hcall')]
      exact hp
  | installs hp hr =>
      refine ⟨hlock, ?_, ?_, ?_, ?_, ?_, ?_⟩
      · rintro c ⟨⟩
        exact freshController_transactionId _ _
      · rintro c ⟨⟩
        exact handlerSound_fresh _ _ _
      · intro c hc
        rcases hr.cancelled hc with hc | hc
        · exact ⟨(hm.cancelled c hc).1, Nat.lt_succ_of_lt (hm.cancelled c hc).2⟩
        · refine ⟨hm.sound c hc, ?_⟩
          rw [hm.transactionId c hc]
          exact Nat.lt_succ_self _
      · rintro _ c ⟨⟩ hrun
        rw [freshController_running] at hrun
        cases hrun
      · rintro call' ⟨⟩ _
        refine ⟨_, rfl, freshController_powerState _ _, freshController_timerJob _ _, ?_, ?_⟩
        · intro _
          exact ⟨freshController_running _ _, by rw [freshController_eq]; rfl⟩
        · rintro ⟨⟩
      · rintro call' ⟨⟩ hph
        rcases hph with hph | hph <;> cases hph
  | @submits c hp hc hat =>
      refine ⟨hlock, hm.transactionId, hm.sound, hm.cancelled, ?_, ?_, ?_⟩
      · intro hph
        exact absurd (hph _ rfl) (by simp)
      · rintro call' ⟨⟩ _
        exact ⟨c, hc, hat.powerState, hat.timerJob, fun _ => hat.unarmed (by simp [hp]), by simp⟩
      · rintro call' ⟨⟩ hph
        rcases hph with hph | hph <;> cases hph
  | @completes c hp hc hat hnow =>
      have he := completionHandler_effect env (call.completion c) false false m
      rw [returnFromCall_eq]
      refine ⟨?_, ?_, ?_, ?_, ?_, by simp, by simp⟩
      · cases hs : call.isSync with
        | true => simpa [Call.completion, hs] using he.selfLock
        | false => rfl
      · rw [he.frame.modeChangeController, he.frame.nextTransactionId]
        exact hm.transactionId
      · rw [he.frame.modeChangeController]
        exact hm.sound
      · rw [he.frame.cancelledControllers, he.frame.nextTransactionId]
        exact hm.cancelled
      · intro _ d hd hr
        rw [he.frame.modeChangeController, hc] at hd
        rw [← Option.some.inj hd, (hat.unarmed (by simp [hp])).1] at hr
        cases hr
  | @tests c hp hc hat hnow =>
      refine ⟨hlock, hm.transactionId, hm.sound, hm.cancelled, ?_, ?_, ?_⟩
      · intro hph
        exact absurd (hph _ rfl) (by simp)
      · rintro call' ⟨⟩ _
        exact ⟨c, hc, hat.powerState, hat.timerJob, fun _ => hat.unarmed (by simp [hp]), by simp⟩
      · rintro call' ⟨⟩ _
        exact isSync_of_not_completesAtOnce hnow
  | @arms c hp hc hat hsync =>
      refine ⟨hlock, ?_, ?_, hm.cancelled, ?_, ?_, ?_⟩
      · rintro d ⟨⟩
        exact hm.transactionId c hc
      · rintro d ⟨⟩
        refine ⟨?_, fun _ => ⟨_, rfl⟩⟩
        rintro h ⟨⟩
        exact ⟨rfl, hat.powerState.symm, hsync⟩
      · intro hph
        exact absurd (hph _ rfl) (by simp)
      · rintro call' ⟨⟩ _
        exact ⟨_, rfl, hat.powerState, hat.timerJob, fun hph => absurd rfl hph, fun _ => rfl⟩
      · rintro call' ⟨⟩ _
        exact hsync
  | @starts c hp hc hat hsync =>
      rw [returnFromCall_eq]
      refine ⟨rfl, ?_, ?_, hm.cancelled, ?_, by simp, by simp⟩
      · rintro d ⟨⟩
        exact hm.transactionId c hc
      · rintro d ⟨⟩
        exact (hm.sound c hc).congr rfl rfl rfl id
      · rintro _ d ⟨⟩ _
        simp [AckController.startTimer]

theorem coherent_step {a : Env × Action} (hm : m.Coherent) (h : step m a = some m') :
    m'.Coherent := by
  rcases step_cases hm h with
    ⟨s, origin, m₀, henter, h⟩ | ⟨call, _, hcall, hadv⟩ | ⟨hb, _⟩ | ⟨s, _, hs⟩ |
      ⟨c, hc, t, m₀, he, _⟩
  · obtain ⟨entries, rfl⟩ := entering_eq henter
    exact (hm.setEntries entries).of_enter h
  · exact hm.of_advances hcall hadv
  · exact hm.of_background hb.toBackground
  · exact hm.of_background (sleepStep_background hs)
  · exact hm.of_ends he

end Implementation

end DeviceAndDisplay.PowerManager
