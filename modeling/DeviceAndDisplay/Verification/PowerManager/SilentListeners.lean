import DeviceAndDisplay.Verification.PowerManager.StackSteps

/-! # Listeners that only return

While no listener calls back and no other thread runs, the functions on a call stack do what the
one-step functions of the interleaving model do. -/

namespace DeviceAndDisplay.PowerManager

open Transition Storage Implementation

namespace ThreadedPlugin

variable {env : Env} {s : ThreadedPlugin} {t : ThreadId} {kind : NotificationKind}
  {stack rest : List StackFrame}

@[simp] theorem threads_setStack : (s.setStack t stack).threads t = stack :=
  Function.update_self ..

@[simp] theorem setStack_setStack (stack' : List StackFrame) :
    (s.setStack t stack).setStack t stack' = s.setStack t stack' := by
  simp only [setStack, Function.update_idem]

/-! ### Loops -/

theorem step_returns {notification : Sink} :
    threadStep (s.setStack t (.callback kind notification :: rest)) (env, t, .returns) =
      some (s.setStack t rest) := by
  simp only [threadStep, threads_setStack, setStack_setStack]

theorem step_proceed : threadStep s (env, t, .proceed) = s.proceed env t := rfl

theorem proceed_dispatch {it : Node} {called : List Node} :
    (s.setStack t (.dispatch kind it called :: rest)).proceed env t =
      s.continueDispatch t kind it called rest := by
  simp only [proceed, threads_setStack, continueDispatch, nodes_setStack]
  simp only [callAt, setStack, Function.update_idem]

theorem proceed_submit {event : PreChangeEvent} {it : Node} {called : List Node} :
    (s.setStack t (.submit event it called :: rest)).proceed env t =
      s.continueSubmit t event it called rest := by
  simp only [proceed, threads_setStack, continueSubmit, nodes_setStack]
  simp only [submitAt, endSubmit, setStack, Function.update_idem]

/-- The listener returns and the loop goes on. -/
theorem run_callAt_return (env : Env) {it : Node} {called : List Node} :
    run threadStep (s.callAt t kind it called rest)
        [(env, t, .returns), (env, t, .proceed)] =
      ({ s with plugin := s.plugin.callback kind it.notification } :
        ThreadedPlugin).continueDispatch t kind it (called ++ [it]) rest := by
  rw [callAt, run_cons, step_returns, Option.bind_some, run_singleton, step_proceed,
    proceed_dispatch]

theorem next_nodes {before after : List Node} {it : Node}
    (hnodes : s.nodes kind = before ++ it :: after) (hnodup : (s.nodes kind).Nodup) :
    it ∈ s.nodes kind ∧ next it (s.nodes kind) = after.head? := by
  rw [hnodes] at hnodup ⊢
  exact ⟨List.mem_append_right before List.mem_cons_self, next_of_nodup hnodup⟩

/-- A dispatch loop that stands at `it`, with the nodes `after` to come. -/
theorem run_callAt {after before : List Node} {it : Node} {called : List Node}
    (hnodes : s.nodes kind = before ++ it :: after) (hnodup : (s.nodes kind).Nodup) :
    ∃ as, run threadStep (s.callAt t kind it called rest) as = some ({ s with
      plugin := ((it :: after).map Node.notification).foldl (Implementation.callback kind) s.plugin
      callbackLock := s.callbackLock.unlock }.setStack t rest) := by
  induction after generalizing s before it called with
  | nil =>
      let s' : ThreadedPlugin := { s with plugin := s.plugin.callback kind it.notification }
      obtain ⟨hmem, hnext⟩ := next_nodes (s := s') hnodes hnodup
      refine ⟨_, (run_callAt_return {}).trans ?_⟩
      rw [continueDispatch, if_pos hmem, hnext]
      rfl
  | cons it' after ih =>
      let s' : ThreadedPlugin := { s with plugin := s.plugin.callback kind it.notification }
      obtain ⟨hmem, hnext⟩ := next_nodes (s := s') hnodes hnodup
      have hsplit : s'.nodes kind = (before ++ [it]) ++ it' :: after :=
        hnodes.trans (List.append_cons before it _)
      obtain ⟨as, has⟩ := ih (s := s') hsplit hnodup
      refine ⟨[(({} : Env), t, .returns), (({} : Env), t, .proceed)] ++ as, ?_⟩
      rw [run_append, run_callAt_return, continueDispatch, if_pos hmem, hnext]
      exact has

theorem map_notification_nodes : (s.nodes kind).map Node.notification =
    (s.plugin.notifications kind).sinks := by
  rw [nodes, List.map_map]
  exact List.map_id _

/-- A dispatch whose listeners only return is `dispatchEvent`. -/
theorem run_dispatch (env : Env) (hstack : s.threads t = .enterDispatch kind :: rest)
    (hfree : s.callbackLock = {}) (hnodup : (s.nodes kind).Nodup) :
    ∃ as, run threadStep s as =
      some ({ s with plugin := s.plugin.dispatchEvent kind }.setStack t rest) := by
  have hbegin : s.proceed env t = s.beginDispatch t kind rest := by
    simp only [proceed, hstack]
  have havailable : s.callbackLock.Available t := by
    rw [hfree]
    simp [RecursiveLock.Available]
  rw [Implementation.dispatchEvent, ← map_notification_nodes]
  cases hnodes : s.nodes kind with
  | nil =>
      refine ⟨[(env, t, .proceed)], ?_⟩
      rw [run_singleton, step_proceed, hbegin, beginDispatch, if_pos havailable, hnodes]
      rfl
  | cons it after =>
      let s' : ThreadedPlugin := { s with callbackLock := s.callbackLock.lock t }
      have hsplit : s'.nodes kind = [] ++ it :: after := hnodes
      obtain ⟨as, has⟩ := run_callAt (s := s') (t := t) hsplit hnodup
      refine ⟨(env, t, .proceed) :: as, ?_⟩
      rw [run_cons, step_proceed, hbegin, beginDispatch, if_pos havailable, hnodes]
      have hunlock : s'.callbackLock.unlock = s.callbackLock := by
        simp [s', hfree, RecursiveLock.lock, RecursiveLock.unlock]
      rw [hunlock] at has
      exact has

/-! ### The submit loop -/

theorem run_submitAt {event : PreChangeEvent} {after before : List Node} {it : Node}
    {called : List Node} (hnodes : s.nodes .preModeChange = before ++ it :: after)
    (hnodup : (s.nodes .preModeChange).Nodup) :
    ∃ as, run threadStep (s.submitAt t event it called rest) as = some ({ s with
      plugin := { s.plugin with
        preChangeJobs := s.plugin.preChangeJobs ++
          ((it :: after).map Node.notification).map event.job
      } }.endSubmit t rest) := by
  induction after generalizing s before it called with
  | nil =>
      let jobs := s.plugin.preChangeJobs ++ [event.job it.notification]
      let s' : ThreadedPlugin := { s with plugin := { s.plugin with preChangeJobs := jobs } }
      obtain ⟨hmem, hnext⟩ := next_nodes (s := s') hnodes hnodup
      refine ⟨[({}, t, .proceed)], ?_⟩
      rw [submitAt, run_singleton, step_proceed, proceed_submit, continueSubmit, if_pos hmem, hnext]
      rfl
  | cons it' after ih =>
      let jobs := s.plugin.preChangeJobs ++ [event.job it.notification]
      let s' : ThreadedPlugin := { s with plugin := { s.plugin with preChangeJobs := jobs } }
      obtain ⟨hmem, hnext⟩ := next_nodes (s := s') hnodes hnodup
      have hsplit : s'.nodes .preModeChange = (before ++ [it]) ++ it' :: after :=
        hnodes.trans (List.append_cons before it _)
      obtain ⟨as, has⟩ := ih (s := s') hsplit hnodup
      refine ⟨({}, t, .proceed) :: as, ?_⟩
      rw [submitAt, run_cons, step_proceed, proceed_submit, continueSubmit, if_pos hmem, hnext]
      refine has.trans ?_
      simp [s', jobs]

/-- The loop as a whole is `submitPowerModePreChangeEvent`. -/
theorem run_beginSubmit (t : ThreadId) (event : PreChangeEvent) (rest : List StackFrame)
    (hnodup : (s.nodes .preModeChange).Nodup) :
    ∃ as, run threadStep (s.beginSubmit t event rest) as = some ({ s with
      plugin := s.plugin.submitPowerModePreChangeEvent event.currentState event.newState
        event.transactionId event.timeOut }.endSubmit t rest) := by
  unfold beginSubmit submitPowerModePreChangeEvent
  rw [← map_notification_nodes]
  cases hnodes : s.nodes .preModeChange with
  | nil => exact ⟨[], by simp⟩
  | cons it after =>
      have hsplit : s.nodes .preModeChange = [] ++ it :: after := hnodes
      exact run_submitAt hsplit hnodup

/-! ### The completion handler -/

theorem completionHandler_parts (h : Completion) (isTimedout : Bool) (m : Implementation) :
    m.completionHandler env h isTimedout false =
      let m := (m.emit (.completionHandler h.transactionId isTimedout false)).setDevicePowerState
        env h
      let m := m.emit (.release h.transactionId)
      if h.isSync then m.unlockSelf else m := rfl

theorem finishHandler_setStack {context : HandlerContext} {h : Completion} :
    (s.setStack t stack).finishHandler env t context h rest =
      s.finishHandler env t context h rest := by
  cases context <;>
    simp only [finishHandler, endHandler, leaveHandler, setStack, Function.update_idem]

theorem proceed_handler {context : HandlerContext} {h : Completion} :
    (s.setStack t (.handler context h :: rest)).proceed env t =
      some (s.finishHandler env t context h rest) := by
  simp only [proceed, threads_setStack, finishHandler_setStack]

/-- The lambda with a dispatch whose listeners only return is `completionHandler`. -/
theorem run_beginHandler (env : Env) (t : ThreadId) (context : HandlerContext) (h : Completion)
    (isTimedout : Bool) (rest : List StackFrame) (hfree : s.callbackLock = {})
    (hnodup : (s.nodes .modeChanged).Nodup) :
    ∃ as, run threadStep (s.beginHandler env t context h isTimedout rest) as =
      some ({ s with plugin := s.plugin.completionHandler env h isTimedout false }.leaveHandler t
        context h rest) := by
  let m := s.plugin.emit (.completionHandler h.transactionId isTimedout false)
  rw [completionHandler_parts, setDevicePowerState]
  unfold beginHandler
  dsimp only
  split
  · exact ⟨[], rfl⟩
  · let m' := (m.storePowerState env h).2.emit
      (.powerModeChanged h.transactionId h.currState h.newState)
    let s' : ThreadedPlugin := { s with plugin := m' }.setStack t
      (.enterDispatch .modeChanged :: .handler context h :: rest)
    have hlists : s'.plugin.notifications = s.plugin.notifications := by
      simp only [s', m', setStack, storePowerState_eq]
      rfl
    have hregs : s'.registrations = s.registrations := rfl
    have hnodup' : (s'.nodes .modeChanged).Nodup := by
      rw [nodes_congr hlists hregs]
      exact hnodup
    obtain ⟨as, has⟩ := run_dispatch env (threads_setStack : s'.threads t = _) hfree hnodup'
    refine ⟨as ++ [(env, t, .proceed)], ?_⟩
    rw [run_append, has, Option.bind_some, run_singleton, step_proceed, proceed_handler]
    let dispatched : ThreadedPlugin := { s with plugin := m'.dispatchEvent .modeChanged }
    exact congrArg some (finishHandler_setStack (s := dispatched))

/-! ### A call of SetPowerState -/

theorem returnFromCall_call (newState : PowerState) (unlock : Bool) (m : Implementation) :
    (m.returnFromCall newState unlock).call = none := by
  rw [returnFromCall_eq]

/-- What the interleaving model does in one part of `SetPowerState` is a run of the thread. -/
theorem run_advance (env : Env) {call : Call} (hstack : s.threads t = .call :: rest)
    (hcall : s.plugin.call = some call) (hcallback : s.callbackLock = {}) (hapi : s.apiLock = {})
    (hnodup : ∀ kind, (s.nodes kind).Nodup) :
    ∃ as, run threadStep s as = some ({ s with plugin := s.plugin.advance env call }.setStack t
      (if (s.plugin.advance env call).call.isSome then .call :: rest else rest)) := by
  have hproceed : s.proceed env t = s.proceedCall env t call rest := by
    simp only [proceed, hstack, hcall, Option.bind_some]
  have havailable : s.apiLock.Available t := by
    rw [hapi]
    simp [RecursiveLock.Available]
  have hstep (h : s.proceedCall env t call rest =
      some ({ s with plugin := s.plugin.advance env call }.setStack t
        (if (s.plugin.advance env call).call.isSome then .call :: rest else rest))) :
      ∃ as, run threadStep s as = some ({ s with plugin := s.plugin.advance env call }.setStack t
        (if (s.plugin.advance env call).call.isSome then .call :: rest else rest)) := by
    refine ⟨[(env, t, .proceed)], ?_⟩
    rw [run_singleton, step_proceed, hproceed]
    exact h
  cases hc : s.plugin.modeChangeController with
  | none =>
      apply hstep
      cases hphase : call.phase <;>
        simp only [proceedCall, hphase, hc, if_pos havailable]
  | some c =>
      cases hphase : call.phase with
      | checked =>
          apply hstep
          simp only [proceedCall, hphase, if_pos havailable]
      | installed =>
          obtain ⟨as, has⟩ := run_beginSubmit t
            ⟨call.currState, call.newState, c.transactionId, call.timeOut⟩ (.call :: rest)
            (hnodup .preModeChange)
          refine ⟨(env, t, .proceed) :: as, ?_⟩
          have hbegin : s.proceedCall env t call rest = some (s.beginSubmit t
              ⟨call.currState, call.newState, c.transactionId, call.timeOut⟩ (.call :: rest)) := by
            simp only [proceedCall, hphase, hc]
          rw [run_cons, step_proceed, hproceed, hbegin, Option.bind_some, has,
            advance_installed hphase hc]
          simp [endSubmit, submitPowerModePreChangeEvent, hcall]
      | submitted =>
          by_cases hnow : c.completesAtOnce (call.timeOut * 1000)
          · obtain ⟨as, has⟩ := run_beginHandler env t .caller (call.completion c) false rest
              hcallback (hnodup .modeChanged)
            refine ⟨(env, t, .proceed) :: as, ?_⟩
            have hbegin : s.proceedCall env t call rest = some (s.beginHandler env t .caller
                (call.completion c) false rest) := by
              simp only [proceedCall, hphase, hc, if_pos hnow]
            rw [run_cons, step_proceed, hproceed, hbegin, Option.bind_some, has,
              advance_submitted hphase hc, if_pos hnow, returnFromCall_call]
            rfl
          · apply hstep
            simp only [proceedCall, hphase, hc, if_neg hnow]
      | tested | armed =>
          apply hstep
          simp only [proceedCall, hphase, hc]

/-! ### Acknowledgements and timers -/

theorem runHandler_some (call : HandlerCall Completion) (hcall : call.isRevoked = false)
    (m : Implementation) : m.runHandler env (some call) =
      m.completionHandler env call.handler call.isTimedout false := by
  rw [← hcall]
  rfl

theorem setStack_threads : s.setStack t (s.threads t) = s := by
  rw [setStack, Function.update_eq_self]

theorem run_acknowledge (env : Env) (t : ThreadId) (c : PreModeChangeController)
    (handlerCall : Option (HandlerCall Completion))
    (hcall : ∀ call ∈ handlerCall, call.isRevoked = false) (hcallback : s.callbackLock = {})
    (hapi : s.apiLock = {}) (hnodup : (s.nodes .modeChanged).Nodup) :
    ∃ as, run threadStep (s.acknowledge env t c handlerCall) as = some { s with
      plugin := { s.plugin with modeChangeController := some c }.runHandler env handlerCall } := by
  cases handlerCall with
  | none => exact ⟨[], rfl⟩
  | some call =>
      let locked : ThreadedPlugin := { s with
        plugin := { s.plugin with modeChangeController := some c }
        apiLock := s.apiLock.lock t }
      obtain ⟨as, has⟩ := run_beginHandler (s := locked) env t .ack call.handler call.isTimedout
        (s.threads t) hcallback hnodup
      refine ⟨as, has.trans ?_⟩
      have hunlock : locked.apiLock.unlock = s.apiLock := by
        simp [locked, hapi, RecursiveLock.lock, RecursiveLock.unlock]
      rw [runHandler_some call (hcall call rfl), leaveHandler, hunlock]
      exact congrArg some setStack_threads

/-- An acknowledgement does what it does in the interleaving model. -/
theorem run_powerModePreChangeComplete (env : Env) (t : ThreadId) (clientId : ClientId)
    (transactionId : TransactionId) (hcallback : s.callbackLock = {}) (hapi : s.apiLock = {})
    (hnodup : (s.nodes .modeChanged).Nodup) :
    ∃ as, run threadStep (s.powerModePreChangeComplete env t clientId transactionId) as =
      some { s with
        plugin := (s.plugin.powerModePreChangeComplete env clientId transactionId).2 } := by
  cases hc : s.plugin.modeChangeController with
  | none =>
      refine ⟨[], ?_⟩
      simp only [powerModePreChangeComplete, Implementation.powerModePreChangeComplete, hc, run_nil]
  | some c =>
      obtain ⟨-, hcall⟩ := AckController.ack_handler clientId transactionId c
      simp only [powerModePreChangeComplete, Implementation.powerModePreChangeComplete, hc]
      exact run_acknowledge env t _ _ (fun call hmem => (hcall call hmem).2) hcallback hapi hnodup

theorem run_removePowerModePreChangeClient (env : Env) (t : ThreadId) (clientId : ClientId)
    (hcallback : s.callbackLock = {}) (hapi : s.apiLock = {})
    (hnodup : (s.nodes .modeChanged).Nodup) :
    ∃ as, run threadStep (s.removePowerModePreChangeClient env t clientId) as = some { s with
      plugin := (s.plugin.removePowerModePreChangeClient env clientId).2 } := by
  unfold removePowerModePreChangeClient Implementation.removePowerModePreChangeClient
  split
  · dsimp only
    cases hc : s.plugin.modeChangeController with
    | none => exact ⟨[], rfl⟩
    | some c =>
        obtain ⟨-, hcall⟩ := AckController.ack_handler clientId c.transactionId c
        let removed : ThreadedPlugin := { s with plugin := { s.plugin with
          modeChangeClients := s.plugin.modeChangeClients.filter fun client =>
            client.1 ≠ clientId } }
        exact run_acknowledge (s := removed) env t _ _ (fun call hmem => (hcall call hmem).2)
          hcallback hapi hnodup
  · exact ⟨[], rfl⟩

/-- The timer job of the stored controller does what it does in the interleaving model. -/
theorem run_timerRun (env : Env) {s' : ThreadedPlugin} (hidle : s.threads t = [])
    (hcallback : s.callbackLock = {}) (hnodup : (s.nodes .modeChanged).Nodup)
    (h : s.enter env t .timerRun = some s') :
    ∃ as m, s.plugin.timerRun env = some m ∧
      run threadStep s' as = some { s with plugin := m } := by
  obtain ⟨⟨c, handlerCall⟩, hrun, rfl⟩ := Option.map_eq_some_iff.mp h
  obtain ⟨c₀, hc₀, htimer⟩ := Option.bind_eq_some_iff.mp hrun
  obtain ⟨-, hcall⟩ := AckController.timerRun_handler htimer
  have hplugin : s.plugin.timerRun env = some
      ({ s.plugin with modeChangeController := some c }.runHandler env handlerCall) := by
    rw [Implementation.timerRun, hrun]
    rfl
  cases handlerCall with
  | none => exact ⟨[], _, hplugin, rfl⟩
  | some call =>
      let stopped : ThreadedPlugin := { s with
        plugin := { s.plugin with modeChangeController := some c } }
      obtain ⟨as, has⟩ := run_beginHandler (s := stopped) env t .timer call.handler
        call.isTimedout [] hcallback hnodup
      refine ⟨as, _, hplugin, has.trans ?_⟩
      rw [runHandler_some call (hcall call rfl).2, leaveHandler, ← hidle]
      exact congrArg some setStack_threads

end ThreadedPlugin

end DeviceAndDisplay.PowerManager
