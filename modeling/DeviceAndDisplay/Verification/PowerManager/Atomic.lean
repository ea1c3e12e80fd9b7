import DeviceAndDisplay.Verification.PowerManager.Steps

/-! # Uninterrupted calls

Between uninterrupted calls no lock is held, every timer job is queued or done, and a running
controller waits for a transition out of the stored state. -/

namespace DeviceAndDisplay.PowerManager

namespace Implementation

variable {env : Env} {m m' : Implementation}

/-! ### Between calls -/

/-- The captured values of a handler that a controller `c` still has to call. -/
structure Serves (m : Implementation) (c : PreModeChangeController) (h : Completion) : Prop where
  isSync : h.isSync = false
  transactionId : h.transactionId = c.transactionId
  newState : h.newState = c.powerState
  currState : h.currState = m.powerState
  changes : h.newState ≠ m.powerState
  stay : h.stay = m.stay

structure Settled (m : Implementation) : Prop where
  selfLock : m.selfLock = false
  call : m.call = none
  cancelledControllers : m.cancelledControllers = []
  transactionId : ∀ c, m.modeChangeController = some c → c.transactionId = m.nextTransactionId
  dispatched : ∀ c, m.modeChangeController = some c → c.dispatched = 0
  running : ∀ c, m.modeChangeController = some c → c.running = true →
    c.Waiting ∧ ∃ h, c.handler = some h ∧ m.Serves c h

theorem Serves.congr {c : PreModeChangeController} {h : Completion} (hs : m.Serves c h)
    (hp : m'.powerState = m.powerState) (hst : m'.stay = m.stay) : m'.Serves c h :=
  ⟨hs.isSync, hs.transactionId, hs.newState, hs.currState.trans hp.symm, hp ▸ hs.changes,
    hs.stay.trans hst.symm⟩

/-- Some stored controller is running. -/
def Transitioning (m : Implementation) : Prop :=
  ∃ c, m.modeChangeController = some c ∧ c.running = true

instance (m : Implementation) : Decidable m.Transitioning :=
  decidable_of_iff (m.modeChangeController.any AckController.running = true)
    (by simp [Transitioning, Option.any_eq_true])

theorem settled_init (b : Bool) (pc : PowerController) : (init b pc).Settled where
  selfLock := rfl
  call := rfl
  cancelledControllers := rfl
  transactionId := by simp [init]
  dispatched := by simp [init]
  running := by simp [init]

theorem Background.transitioning (hb : Background m m') : m'.Transitioning ↔ m.Transitioning := by
  constructor
  · rintro ⟨c', hc', hr⟩
    obtain ⟨c, hc, hk⟩ := hb.stored_of_some hc'
    exact ⟨c, hc, hk.running ▸ hr⟩
  · rintro ⟨c, hc, hr⟩
    obtain ⟨c', hc', hk⟩ := hb.stored_of_some' hc
    exact ⟨c', hc', hk.running.trans hr⟩

theorem Settled.of_background (hs : m.Settled) (hb : Background m m')
    (hcancelled : m'.cancelledControllers = m.cancelledControllers)
    (hdispatched : ∀ c c', m.modeChangeController = some c → m'.modeChangeController = some c' →
      c'.dispatched = c.dispatched) : m'.Settled where
  selfLock := hb.selfLock.trans hs.selfLock
  call := hb.call.trans hs.call
  cancelledControllers := hcancelled.trans hs.cancelledControllers
  transactionId := by
    intro c' hc'
    obtain ⟨c, hc, hk⟩ := hb.stored_of_some hc'
    rw [hk.transactionId, hs.transactionId c hc, hb.nextTransactionId]
  dispatched := by
    intro c' hc'
    obtain ⟨c, hc, _⟩ := hb.stored_of_some hc'
    rw [hdispatched c c' hc hc', hs.dispatched c hc]
  running := by
    intro c' hc' hr
    obtain ⟨c, hc, hk⟩ := hb.stored_of_some hc'
    obtain ⟨hw, h, hh, hsv⟩ := hs.running c hc (hk.running ▸ hr)
    refine ⟨hk.waiting (hk.running ▸ hr) (hdispatched c c' hc hc') hw, h, hk.handler.trans hh, ?_⟩
    exact ⟨hsv.isSync, hsv.transactionId.trans hk.transactionId.symm,
      hsv.newState.trans hk.powerState.symm, hsv.currState.trans hb.powerState.symm,
      hb.powerState ▸ hsv.changes, hsv.stay.trans hb.stay.symm⟩

theorem Settled.of_quiet (hs : m.Settled) (hq : Quiet m m') : m'.Settled :=
  hs.of_background hq.toBackground hq.cancelledControllers hq.dispatched

/-! ### Completions -/

/-- What the completion of the waiting controller amounts to. -/
structure Completed (env : Env) (m m' : Implementation) (c c' : PreModeChangeController)
    (h : Completion) (isTimedout : Bool) (m₀ : Implementation) : Prop where
  stored : m.modeChangeController = some c
  running : c.running = true
  handler : c.handler = some h
  serves : m.Serves c h
  stopped : c.Stopped c'
  started : ∃ clients, m₀ = { m with
    modeChangeController := some c', modeChangeClients := clients }
  effect : CompletionEffect env h isTimedout false m₀ m'

theorem Completes.completed (hs : m.Settled) {isTimedout : Bool} {due : Option Completion}
    (hc : Completes env m isTimedout due m') :
    ∃ c c' h m₀, Completed env m m' c c' h isTimedout m₀ := by
  cases hc with
  | @stored c c' clients isTimedout hc hst =>
      obtain ⟨_, h, hh, hsv⟩ := hs.running c hc hst.wasRunning
      refine ⟨c, c', h, _, hc, hst.wasRunning, hh, hsv, hst, ⟨clients, rfl⟩, ?_⟩
      rw [runHandler_callHandler hh]
      exact completionHandler_effect env h isTimedout false _
  | cancelled hc =>
      rw [hs.cancelledControllers] at hc
      simp at hc

theorem Completed.stored' {c c' : PreModeChangeController} {h : Completion} {isTimedout : Bool}
    {m₀ : Implementation} (hd : Completed env m m' c c' h isTimedout m₀) :
    m'.modeChangeController = some c' := by
  obtain ⟨clients, rfl⟩ := hd.started
  exact hd.effect.frame.modeChangeController

theorem Completed.not_transitioning {c c' : PreModeChangeController} {h : Completion}
    {isTimedout : Bool} {m₀ : Implementation} (hd : Completed env m m' c c' h isTimedout m₀) :
    ¬ m'.Transitioning := by
  rintro ⟨d, hc, hr⟩
  rw [← Option.some.inj (hd.stored'.symm.trans hc), hd.stopped.running] at hr
  cases hr

theorem Settled.of_completed (hs : m.Settled) {c c' : PreModeChangeController} {h : Completion}
    {isTimedout : Bool} {m₀ : Implementation} (hd : Completed env m m' c c' h isTimedout m₀) :
    m'.Settled := by
  have hc' := hd.stored'
  obtain ⟨clients, rfl⟩ := hd.started
  have hf := hd.effect.frame
  refine ⟨?_, hf.call.trans hs.call, hf.cancelledControllers.trans hs.cancelledControllers,
    ?_, ?_, ?_⟩
  · rw [hd.effect.selfLock, hd.serves.isSync]
    exact hs.selfLock
  · intro d hd'
    rw [← Option.some.inj (hc'.symm.trans hd'), hd.stopped.transactionId,
      hs.transactionId c hd.stored, hf.nextTransactionId]
  · intro d hd'
    rw [← Option.some.inj (hc'.symm.trans hd')]
    exact Nat.le_zero.mp (hs.dispatched c hd.stored ▸ hd.stopped.dispatched)
  · intro d hd' hr
    exact absurd ⟨d, hd', hr⟩ hd.not_transitioning

/-- The dispatch and the run of the stored controller's timer job. -/
theorem expire_of_timerExpired (h : (m.timerDispatch.bind fun m => m.timerRun env) = some m') :
    ∃ c c' handlerCall, m.modeChangeController = some c ∧ c.expire = some (c', handlerCall) ∧
      m' = { m with modeChangeController := some c' }.runHandler env handlerCall := by
  obtain ⟨m₁, hm₁, hrun⟩ := Option.bind_eq_some_iff.mp h
  obtain ⟨c₁, hc₁, rfl⟩ := Option.map_eq_some_iff.mp hm₁
  obtain ⟨c, hc, hdispatch⟩ := Option.bind_eq_some_iff.mp hc₁
  obtain ⟨⟨c', handlerCall⟩, hc', rfl⟩ := Option.map_eq_some_iff.mp hrun
  have hexp : c.expire = some (c', handlerCall) := by
    rw [AckController.expire, hdispatch]
    exact hc'
  exact ⟨c, c', handlerCall, hc, hexp, rfl⟩

theorem timerExpired_cases (h : (m.timerDispatch.bind fun m => m.timerRun env) = some m') :
    Quiet m m' ∨ ∃ due, Completes env m true due m' := by
  obtain ⟨c, c', handlerCall, hc, hexp, rfl⟩ := expire_of_timerExpired h
  obtain ⟨deadline, n, hj, heq⟩ := AckController.expire_eq_some hexp
  obtain ⟨rfl, rfl⟩ := Prod.mk.inj heq
  cases hr : c.running with
  | true =>
      right
      exact ⟨_, .stored hc
        ⟨hr, rfl, rfl, rfl, rfl, by simp [hj], by simp [AckController.dispatched, hj]⟩⟩
  | false =>
      left
      have hk : c.Kept { c with timerJob := some ⟨none, n⟩, running := false } :=
        ⟨rfl, rfl, rfl, hr.symm, subset_rfl, fun _ hp => hp, by simp [hj],
          fun ht => absurd (hr.symm.trans ht) (by simp)⟩
      exact .of_stored hc hk (by simp [AckController.dispatched, hj])

/-! ### Requests -/

/-- The log entries of a request up to the submission of the notifications, newest first. -/
def preparedLog (m : Implementation) : List LogEntry :=
  .addRef (m.nextTransactionId + 1) ::
    ((m.modeChangeController.map resetLog).getD [] ++ (m.wakeLog ++ [.selfLock]))

theorem Serves.reset {c : PreModeChangeController} {h : Completion} (hw : c.Waiting)
    (hh : c.handler = some h) (hs : m.Serves c h) :
    c.timerJob ≠ none ∧
      ∃ h, c.handler = some h ∧ h.isSync = false ∧ h.transactionId = c.transactionId :=
  ⟨by simp [hw.timerJob], h, hh, hs.isSync, hs.transactionId⟩

theorem prepared_eq (hs : m.Settled) (newState : PowerState) (origin : Origin) :
    m.prepared env newState origin = { m with
      selfLock := true
      deepSleepController :=
        if m.powerState = .standbyDeepSleep then m.deepSleepController.deactivate
        else m.deepSleepController
      modeChangeController := some (m.freshController env newState)
      nextTransactionId := m.nextTransactionId + 1
      call := some { m.requestCall newState origin with phase := .submitted }
      preChangeJobs := m.preChangeJobs ++ (m.notifications .preModeChange).sinks.map fun sink =>
        ⟨sink, m.powerState, newState, m.nextTransactionId + 1,
          (m.requestCall newState origin).timeOut⟩
      log := m.preparedLog ++ m.log } := by
  unfold prepared installed
  cases hc : m.modeChangeController with
  | none =>
      simp only [createController_eq, entered_eq, submitPowerModePreChangeEvent, preparedLog, hc,
        Option.map_none, Option.getD_none, List.nil_append, List.cons_append, List.append_assoc]
      rfl
  | some c =>
      have hreset : (m.entered newState origin).resetController env c =
          { m.entered newState origin with
            modeChangeController := none
            log := resetLog c ++ (m.entered newState origin).log } := by
        refine resetController_destroyed (hs.dispatched c hc) fun hr => ?_
        obtain ⟨hw, h, hh, hsv⟩ := hs.running c hc hr
        exact hsv.reset hw hh
      simp only [hreset]
      simp only [createController_eq, entered_eq, submitPowerModePreChangeEvent, preparedLog,
        hc, Option.map_some, Option.getD_some, List.cons_append, List.append_assoc]
      rfl

/-- A request that awaits nobody leaves its controller stored when it has completed. -/
theorem completed_controller (env : Env) (hs : m.Settled) (newState : PowerState) (origin : Origin)
    (h : Completion) (unlock : Bool) :
    (((m.prepared env newState origin).completionHandler env h false false).returnFromCall
      newState unlock).modeChangeController = some (m.freshController env newState) := by
  have he := completionHandler_effect env h false false (m.prepared env newState origin)
  rw [returnFromCall_controller, he.frame.modeChangeController, prepared_eq hs]

theorem completed_idle (env : Env) (hs : m.Settled) (newState : PowerState) (origin : Origin)
    (h : Completion) (unlock : Bool) :
    ¬ (((m.prepared env newState origin).completionHandler env h false false).returnFromCall
      newState unlock).Transitioning := by
  rintro ⟨d, hd, hr⟩
  rw [← Option.some.inj ((completed_controller env hs newState origin h unlock).symm.trans hd),
    freshController_running] at hr
  cases hr

/-- The ways an uninterrupted request ends. -/
inductive Requested (env : Env) (newState : PowerState) (origin : Origin) (m : Implementation) :
    Implementation → Prop
  | declined (h : m.Declines env newState) :
      Requested env newState origin m { m with
        selfLock := false
        call := none
        log := .returned newState .errorNone :: .selfUnlock :: .selfLock :: m.log }
  | redundant {c : PreModeChangeController} (h : ¬ m.Declines env newState)
      (hc : m.modeChangeController = some c) (hs : c.powerState = newState) :
      Requested env newState origin m ((m.entered newState origin).returnFromCall newState true)
  | completed {call : Call} {c : PreModeChangeController} (h : ¬ m.Declines env newState)
      (hfresh : ∀ c, m.modeChangeController = some c → c.powerState ≠ newState)
      (hcall : call = m.requestCall newState origin) (hc : c = m.freshController env newState)
      (hat : c.completesAtOnce (call.timeOut * 1000)) :
      Requested env newState origin m
        (((m.prepared env newState origin).completionHandler env (call.completion c) false
          false).returnFromCall newState (!call.isSync))
  | scheduled {call : Call} {c : PreModeChangeController} (h : ¬ m.Declines env newState)
      (hfresh : ∀ c, m.modeChangeController = some c → c.powerState ≠ newState)
      (hcall : call = m.requestCall newState origin) (hc : c = m.freshController env newState)
      (hat : ¬ c.completesAtOnce (call.timeOut * 1000)) :
      Requested env newState origin m
        ({ m.prepared env newState origin with
          modeChangeController :=
            some ((c.arm (call.completion c)).startTimer env.now (call.timeOut * 1000))
        }.returnFromCall newState true)

theorem setPowerState_requested {newState : PowerState} {origin : Origin} (hs : m.Settled)
    (h : m.setPowerState env newState origin = some m') : Requested env newState origin m m' := by
  by_cases hd : m.Declines env newState
  · rw [setPowerState_declined hs.selfLock hd] at h
    cases h
    exact .declined hd
  · by_cases hc : ∃ c, m.modeChangeController = some c ∧ c.powerState = newState
    · obtain ⟨c, hc, hn⟩ := hc
      rw [setPowerState_redundant hs.selfLock hd hc hn] at h
      cases h
      exact .redundant hd hc hn
    · have hfresh : ∀ c, m.modeChangeController = some c → c.powerState ≠ newState :=
        fun c hmc hn => hc ⟨c, hmc, hn⟩
      obtain ⟨c, hpc, heq⟩ := setPowerState_started origin hs.selfLock hd hfresh
      rw [heq] at h
      cases h
      have hcf : c = m.freshController env newState := by
        rw [prepared_eq hs] at hpc
        exact (Option.some.inj hpc).symm
      unfold scheduled
      by_cases hat : c.completesAtOnce ((m.requestCall newState origin).timeOut * 1000)
      · rw [if_pos hat]
        exact .completed hd hfresh rfl hcf hat
      · rw [if_neg hat, isSync_of_not_completesAtOnce hat]
        exact .scheduled hd hfresh rfl hcf hat

/-! ### The invariant -/

/-- A change of the call's own bookkeeping, the deep-sleep controller and the log. -/
theorem Settled.of_same (hs : m.Settled) (hlock : m'.selfLock = false) (hcall : m'.call = none)
    (hcancelled : m'.cancelledControllers = m.cancelledControllers)
    (hstored : m'.modeChangeController = m.modeChangeController)
    (hnext : m'.nextTransactionId = m.nextTransactionId)
    (hp : m'.powerState = m.powerState) (hst : m'.stay = m.stay) : m'.Settled where
  selfLock := hlock
  call := hcall
  cancelledControllers := hcancelled.trans hs.cancelledControllers
  transactionId := by
    rw [hstored, hnext]
    exact hs.transactionId
  dispatched := by
    rw [hstored]
    exact hs.dispatched
  running := by
    intro c hc hr
    obtain ⟨hw, h, hh, hsv⟩ := hs.running c (hstored ▸ hc) hr
    exact ⟨hw, h, hh, hsv.congr hp hst⟩

theorem Settled.of_requested {newState : PowerState} {origin : Origin} (hs : m.Settled)
    (h : Requested env newState origin m m') : m'.Settled := by
  cases h with
  | declined _ => exact hs.of_same rfl rfl rfl rfl rfl rfl rfl
  | redundant _ _ _ =>
      rw [entered_eq, returnFromCall_eq]
      exact hs.of_same rfl rfl rfl rfl rfl rfl rfl
  | @completed call c _ _ hcall hc hat =>
      have he := completionHandler_effect env (call.completion c) false false
        (m.prepared env newState origin)
      have hstored := completed_controller env hs newState origin (call.completion c)
        (!call.isSync)
      have hidle := completed_idle env hs newState origin (call.completion c)
        (!call.isSync)
      have hf := he.frame
      rw [prepared_eq hs] at hf
      refine ⟨?_, rfl, ?_, ?_, ?_, fun d hd hr => absurd ⟨d, hd, hr⟩ hidle⟩
      · rw [returnFromCall_eq]
        cases hsync : call.isSync with
        | true => simpa [Call.completion, hsync] using he.selfLock
        | false => rfl
      · rw [returnFromCall_eq, prepared_eq hs]
        exact hf.cancelledControllers.trans hs.cancelledControllers
      · intro d hd
        rw [← Option.some.inj (hstored.symm.trans hd), freshController_transactionId,
          returnFromCall_eq, prepared_eq hs]
        exact hf.nextTransactionId.symm
      · intro d hd
        rw [← Option.some.inj (hstored.symm.trans hd), freshController_dispatched]
  | @scheduled call c hdec _ hcall hc hat =>
      have hsync : call.isSync = false := isSync_of_not_completesAtOnce hat
      rw [prepared_eq hs, returnFromCall_eq]
      refine ⟨rfl, rfl, hs.cancelledControllers, ?_, ?_, ?_⟩
      · rintro d ⟨⟩
        rw [hc]
        exact freshController_transactionId newState m
      · rintro d ⟨⟩
        rfl
      · rintro d ⟨⟩ _
        refine ⟨⟨fun he => hat (.inl he), rfl, rfl⟩, call.completion c, rfl, ?_⟩
        subst hcall
        refine ⟨hsync, rfl, ?_, rfl, fun he => hdec (.inl he.symm), rfl⟩
        rw [hc]
        exact (freshController_powerState newState m).symm

/-- The request an action makes, with the object the call starts in. -/
def requested (m : Implementation) : AtomicAction → Option (PowerState × Origin × Implementation)
  | .setPowerState newState => some (newState, .client, m)
  | .wakeup i => m.takeWakeup i
  | _ => none

/-- The object a request starts in differs in the entry sequences only. -/
theorem requested_eq {a : AtomicAction} {newState : PowerState} {origin : Origin}
    {m₀ : Implementation} (h : m.requested a = some (newState, origin, m₀)) :
    ∃ entries, m₀ = m.setEntries entries := by
  cases a with
  | setPowerState s =>
      cases h
      exact ⟨m.deepSleepController.entries, rfl⟩
  | wakeup i =>
      obtain ⟨e, wakeup, _, _, _, _, rfl⟩ := takeWakeup_eq h
      exact ⟨_, rfl⟩
  | _ => cases h

/-- An action is a request, or a step of other threads, or it completes the transition. -/
theorem atomicStep_cases (hs : m.Settled) {a : AtomicAction}
    (h : atomicStep m (env, a) = some m') :
    (∃ newState origin m₀, m.requested a = some (newState, origin, m₀) ∧ m₀.Settled ∧
      Requested env newState origin m₀ m') ∨
    m.requested a = none ∧ (Background m m' ∧ m'.Settled ∨
      ∃ isTimedout due, Completes env m isTimedout due m') := by
  cases a with
  | setPowerState newState =>
      left
      exact ⟨newState, .client, m, rfl, hs, setPowerState_requested hs h⟩
  | wakeup i =>
      left
      obtain ⟨⟨newState, origin, m₀⟩, hw, h⟩ := Option.bind_eq_some_iff.mp h
      obtain ⟨entries, rfl⟩ := requested_eq (a := .wakeup i) hw
      have hs₀ : (m.setEntries entries).Settled :=
        hs.of_same hs.selfLock hs.call rfl rfl rfl rfl rfl
      exact ⟨newState, origin, _, hw, hs₀, setPowerState_requested hs₀ h⟩
  | timerExpired =>
      right
      refine ⟨rfl, ?_⟩
      exact (timerExpired_cases h).imp (fun hq => ⟨hq.toBackground, hs.of_quiet hq⟩)
        fun ⟨_, hc⟩ => ⟨_, _, hc⟩
  | sleep a =>
      right
      refine ⟨rfl, .inl ⟨sleepStep_background h, ?_⟩⟩
      obtain ⟨c, _, rfl⟩ := sleepStep_cases h
      exact hs.of_same hs.selfLock hs.call rfl rfl rfl rfl rfl
  | api a =>
      right
      refine ⟨rfl, ?_⟩
      exact (apiStep_cases h).imp (fun hq => ⟨hq.1.toBackground, hs.of_quiet hq.1⟩)
        fun hc => ⟨_, _, hc⟩

theorem settled_step (hs : m.Settled) {a : AtomicAction} (h : atomicStep m (env, a) = some m') :
    m'.Settled := by
  rcases atomicStep_cases hs h with ⟨_, _, m₀, _, hs₀, hr⟩ | ⟨_, ⟨_, hs'⟩ | ⟨_, _, hc⟩⟩
  · exact hs₀.of_requested hr
  · exact hs'
  · obtain ⟨c, c', h, m₀, hd⟩ := hc.completed hs
    exact hs.of_completed hd

theorem settled_of_reachable {b : Bool} {pc : PowerController}
    (h : Transition.Reachable atomicStep (init b pc) m) : m.Settled :=
  h.invariant (fun _ _ _ hs ht => settled_step hs ht) (settled_init b pc)

end Implementation

end DeviceAndDisplay.PowerManager
