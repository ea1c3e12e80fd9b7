import DeviceAndDisplay.Verification.PowerManager.CallStacks

/-! # Steps of a call stack

Every step replaces some functions at the top of the stack of one thread. What it does to
`selfLock`, to `_callbackLock`, to the lists and to the loops over them is said once, in
`threadStep_moves`. -/

namespace DeviceAndDisplay.PowerManager

open Transition Storage Implementation

/-! ### Stacks -/

/-- What the functions below an active function are bound to. -/
def StackFrame.Fits (rest : List StackFrame) : StackFrame → Prop
  | .awaitSelfLock .. | .deepSleepTimerWakeup _ => ∀ f ∈ rest, f.holdsSelfLock = false
  | .handler .ack h | .handler .timer h => h.isSync = false
  | _ => True

/-- No function waits for `selfLock` above one that holds it, and a handler that another thread
than its request's runs leaves the lock alone. -/
def Guarded : List StackFrame → Prop
  | [] => True
  | f :: rest => f.Fits rest ∧ Guarded rest

namespace ThreadedPlugin

variable {env : Env} {s s' : ThreadedPlugin} {t : ThreadId} {fs gs rest : List StackFrame}

/-- The call does not wait for its own thread, and takes no node from under a loop. -/
def MayCall (s : ThreadedPlugin) : Env × ThreadId × ThreadAction → Prop
  | (_, t, .call (.setPowerState _)) => ∀ f ∈ s.threads t, f.holdsSelfLock = false
  | (_, t, .call (.unregister kind notification)) =>
      ∀ u, ∀ f ∈ s.threads u, u = t ∨ f.holdsCallbackLock = false →
        f.position ≠ some (kind, s.node kind notification)
  | _ => True

/-! ### What a step does -/

/-- The step changes the stack of the thread, and no registration and not `_callbackLock`. -/
structure Restacks (t : ThreadId) (stack : List StackFrame) (s s' : ThreadedPlugin) : Prop where
  threads : s'.threads = Function.update s.threads t stack
  registrations : s'.registrations = s.registrations
  callbackLock : s'.callbackLock = s.callbackLock

/-- The step leaves the stacks as well. -/
structure Unmoved (s s' : ThreadedPlugin) : Prop where
  threads : s'.threads = s.threads
  registrations : s'.registrations = s.registrations
  callbackLock : s'.callbackLock = s.callbackLock

theorem Unmoved.trans {s₀ : ThreadedPlugin} {stack : List StackFrame} (h : Unmoved s₀ s)
    (h' : Restacks t stack s s') : Restacks t stack s₀ s' where
  threads := by rw [h'.threads, h.threads]
  registrations := h'.registrations.trans h.registrations
  callbackLock := h'.callbackLock.trans h.callbackLock

/-- `selfLock` and the functions that are to release it, of those the step replaces. -/
inductive SelfLockStep (m m' : Implementation) (fs gs : List StackFrame) : Prop
  | keep (h : m'.selfLock = m.selfLock)
      (hc : gs.countP StackFrame.holdsSelfLock = fs.countP StackFrame.holdsSelfLock)
  | acquire (h : m.selfLock = false) (h' : m'.selfLock = true)
      (hc : gs.countP StackFrame.holdsSelfLock = fs.countP StackFrame.holdsSelfLock + 1)
  | release (h : m'.selfLock = false)
      (hc : gs.countP StackFrame.holdsSelfLock + 1 = fs.countP StackFrame.holdsSelfLock)

/-- `_callbackLock` and the loops that hold it. -/
inductive CallbackLockStep (t : ThreadId) (s s' : ThreadedPlugin) (fs gs : List StackFrame) : Prop
  | keep (h : s'.callbackLock = s.callbackLock)
      (hc : gs.countP StackFrame.holdsCallbackLock = fs.countP StackFrame.holdsCallbackLock)
  | lock (ha : s.callbackLock.Available t) (h : s'.callbackLock = s.callbackLock.lock t)
      (hc : gs.countP StackFrame.holdsCallbackLock = fs.countP StackFrame.holdsCallbackLock + 1)
  | unlock (h : s'.callbackLock = s.callbackLock.unlock)
      (hc : gs.countP StackFrame.holdsCallbackLock + 1 = fs.countP StackFrame.holdsCallbackLock)

/-- A function that the step leaves on the stack: if it is a loop, it has begun or gone on. -/
inductive Arrives (s : ThreadedPlugin) (fs : List StackFrame) (f : StackFrame) : Prop
  | plain (h : f.position = none)
  | begin {kind : NotificationKind} {it : Node} (h : f.position = some (kind, it))
      (hn : (s.nodes kind).head? = some it) (hc : f.called = [it])
  | next {kind : NotificationKind} {it it' : Node} {g : StackFrame} (hg : g ∈ fs)
      (hpos : g.position = some (kind, it)) (h : f.position = some (kind, it'))
      (hn : next it (s.nodes kind) = some it') (hc : f.called = g.called ++ [it'])

/-- The notification lists and the loops over them. -/
inductive ListStep (t : ThreadId) (s s' : ThreadedPlugin) (fs gs : List StackFrame) : Prop
  | keep (hl : s'.plugin.notifications = s.plugin.notifications)
      (hr : s'.registrations = s.registrations) (hgs : ∀ f ∈ gs, s.Arrives fs f)
  | register (kind : NotificationKind) (notification : Sink) (hgs : gs = [])
      (h : s' = s.register kind notification)
  | unregister (kind : NotificationKind) (notification : Sink) (hgs : gs = [])
      (ha : s.callbackLock.Available t)
      (hC : ∀ u, ∀ f ∈ s.threads u, u = t ∨ f.holdsCallbackLock = false →
        f.position ≠ some (kind, s.node kind notification))
      (h : s' = s.unregister kind notification)

/-- A step of thread `t` that replaces the functions `fs` on its stack by `gs`. -/
structure Moves (t : ThreadId) (s s' : ThreadedPlugin) (fs gs rest : List StackFrame) : Prop where
  before : s.threads t = fs ++ rest
  after : s'.threads = Function.update s.threads t (gs ++ rest)
  guarded : Guarded (gs ++ rest)
  async : s'.plugin.Async
  selfLock : SelfLockStep s.plugin s'.plugin fs gs
  callbackLock : CallbackLockStep t s s' fs gs
  lists : ListStep t s s' fs gs

/-- Functions that run no loop come and go. -/
theorem Moves.of_calm (hb : s.threads t = fs ++ rest) (hr : Restacks t (gs ++ rest) s s')
    (hg : Guarded (gs ++ rest)) (hc : Calm s.plugin s'.plugin)
    (hself : gs.countP StackFrame.holdsSelfLock = fs.countP StackFrame.holdsSelfLock)
    (hlock : gs.countP StackFrame.holdsCallbackLock = fs.countP StackFrame.holdsCallbackLock)
    (hplain : ∀ f ∈ gs, f.position = none) : Moves t s s' fs gs rest where
  before := hb
  after := hr.threads
  guarded := hg
  async := hc.async
  selfLock := .keep hc.selfLock hself
  callbackLock := .keep hr.callbackLock hlock
  lists := .keep hc.notifications hr.registrations fun f hf => .plain (hplain f hf)

/-- A function that holds `selfLock` returns. -/
theorem Moves.of_returned {f : StackFrame} (hb : s.threads t = f :: rest)
    (hr : Restacks t rest s s') (hg : Guarded rest) (hm : Returned s.plugin s'.plugin)
    (hself : f.holdsSelfLock = true) (hlock : f.holdsCallbackLock = false) :
    Moves t s s' [f] [] rest where
  before := hb
  after := hr.threads
  guarded := hg
  async := hm.async
  selfLock := .release hm.selfLock (by simp [hself])
  callbackLock := .keep hr.callbackLock (by simp [hlock])
  lists := .keep hm.notifications hr.registrations (by simp)

/-- The stack stays as it is. -/
theorem Moves.of_unmoved (hg : Guarded (s.threads t)) (hu : Unmoved s s')
    (hc : Calm s.plugin s'.plugin) : Moves t s s' [] [] (s.threads t) := by
  refine .of_calm rfl ⟨?_, hu.registrations, hu.callbackLock⟩ hg hc rfl rfl (by simp)
  rw [hu.threads, List.nil_append, Function.update_eq_self]

/-! ### Loops -/

@[simp] theorem nodes_setStack (kind : NotificationKind) (stack : List StackFrame) :
    (s.setStack t stack).nodes kind = s.nodes kind := rfl

theorem nodes_congr (hl : s'.plugin.notifications = s.plugin.notifications)
    (hr : s'.registrations = s.registrations) (kind : NotificationKind) :
    s'.nodes kind = s.nodes kind := by
  have hnode : s'.node kind = s.node kind := by
    funext sink
    simp only [node, hr]
  rw [nodes, nodes, hl, hnode]

theorem beginDispatch_moves {kind : NotificationKind} (hm : s.plugin.Async)
    (hb : s.threads t = .enterDispatch kind :: rest) (hg : Guarded rest)
    (h : s.beginDispatch t kind rest = some s') : ∃ fs gs rest, Moves t s s' fs gs rest := by
  unfold beginDispatch at h
  split at h
  · rename_i ha
    split at h
    · cases h
      exact ⟨[.enterDispatch kind], [], rest,
        .of_calm hb ⟨rfl, rfl, rfl⟩ hg (.refl hm) rfl rfl (by simp)⟩
    · rename_i it hn
      cases h
      refine ⟨[.enterDispatch kind], [.callback kind it.notification, .dispatch kind it [it]], rest,
        hb, rfl, ⟨trivial, trivial, hg⟩, ⟨hm.stored, hm.cancelled, hm.call⟩, .keep rfl rfl,
        .lock ha rfl rfl, .keep rfl rfl ?_⟩
      intro f hf
      rcases List.mem_cons.mp hf with rfl | hf
      · exact .plain rfl
      · rw [List.mem_singleton.mp hf]
        exact .begin rfl hn rfl
  · cases h

theorem continueDispatch_moves {kind : NotificationKind} {it : Node} {called : List Node}
    (hm : s.plugin.Async) (hb : s.threads t = .dispatch kind it called :: rest)
    (hg : Guarded rest) (h : s.continueDispatch t kind it called rest = some s') :
    ∃ fs gs rest, Moves t s s' fs gs rest := by
  unfold continueDispatch at h
  split at h
  · split at h
    · cases h
      exact ⟨[.dispatch kind it called], [], rest, hb, rfl, hg, hm, .keep rfl rfl, .unlock rfl rfl,
        .keep rfl rfl (by simp)⟩
    · rename_i it' hn
      cases h
      refine ⟨[.dispatch kind it called],
        [.callback kind it'.notification, .dispatch kind it' (called ++ [it'])], rest,
        hb, rfl, ⟨trivial, trivial, hg⟩, ⟨hm.stored, hm.cancelled, hm.call⟩, .keep rfl rfl,
        .keep rfl rfl, .keep rfl rfl ?_⟩
      intro f hf
      rcases List.mem_cons.mp hf with rfl | hf
      · exact .plain rfl
      · rw [List.mem_singleton.mp hf]
        exact .next (List.mem_singleton_self _) rfl rfl hn rfl
  · cases h

theorem calm_submitted (hm : s.plugin.Async) : Calm s.plugin { s.plugin with
    call := s.plugin.call.map fun call => { call with phase := .submitted } } := by
  refine ⟨⟨hm.stored, hm.cancelled, ?_⟩, rfl, rfl⟩
  intro call hcall hphase
  obtain ⟨call, -, rfl⟩ := Option.map_eq_some_iff.mp hcall
  rcases hphase with h | h <;> cases h

theorem beginSubmit_moves {event : PreChangeEvent} (hm : s.plugin.Async)
    (hb : s.threads t = rest) (hg : Guarded rest) :
    ∃ fs gs rest', Moves t s (s.beginSubmit t event rest) fs gs rest' := by
  unfold beginSubmit
  split
  · exact ⟨[], [], rest,
      .of_calm hb ⟨rfl, rfl, rfl⟩ hg (calm_submitted hm) rfl rfl (by simp)⟩
  · rename_i it hn
    refine ⟨[], [.submit event it [it]], rest, hb, rfl, ⟨trivial, hg⟩,
      ⟨hm.stored, hm.cancelled, hm.call⟩, .keep rfl rfl, .keep rfl rfl, .keep rfl rfl ?_⟩
    intro f hf
    rw [List.mem_singleton.mp hf]
    exact .begin rfl hn rfl

theorem continueSubmit_moves {event : PreChangeEvent} {it : Node} {called : List Node}
    (hm : s.plugin.Async) (hb : s.threads t = .submit event it called :: rest)
    (hg : Guarded rest) (h : s.continueSubmit t event it called rest = some s') :
    ∃ fs gs rest, Moves t s s' fs gs rest := by
  unfold continueSubmit at h
  split at h
  · split at h
    · cases h
      exact ⟨[.submit event it called], [], rest,
        .of_calm hb ⟨rfl, rfl, rfl⟩ hg (calm_submitted hm) rfl rfl (by simp)⟩
    · rename_i it' hn
      cases h
      refine ⟨[.submit event it called], [.submit event it' (called ++ [it'])], rest, hb, rfl,
        ⟨trivial, hg⟩, ⟨hm.stored, hm.cancelled, hm.call⟩, .keep rfl rfl, .keep rfl rfl,
        .keep rfl rfl ?_⟩
      intro f hf
      rw [List.mem_singleton.mp hf]
      exact .next (List.mem_singleton_self _) rfl rfl hn rfl
  · cases h

/-! ### The completion handler -/

theorem endHandler_returned (hm : s.plugin.Async) (t : ThreadId) (h : Completion)
    (rest : List StackFrame) :
    Restacks t rest s (s.endHandler t .caller h rest) ∧
      Returned s.plugin (s.endHandler t .caller h rest).plugin := by
  refine ⟨⟨rfl, rfl, rfl⟩, ?_⟩
  let m := s.plugin.emit (.release h.transactionId)
  have hemit : m.Async := ⟨hm.stored, hm.cancelled, hm.call⟩
  cases hs : h.isSync with
  | false =>
      have heq : (s.endHandler t .caller h rest).plugin = m.returnFromCall h.newState true := by
        simp [endHandler, leaveHandler, setStack, hs, m]
      have hr := returned_of_returnFromCall hemit h.newState true (.inl rfl)
      rw [heq]
      exact ⟨hr.async, hr.selfLock, hr.call, hr.notifications⟩
  | true =>
      have heq : (s.endHandler t .caller h rest).plugin =
          m.unlockSelf.returnFromCall h.newState false := by
        simp [endHandler, leaveHandler, setStack, hs, m]
      have hunlock : m.unlockSelf.Async := ⟨hm.stored, hm.cancelled, hm.call⟩
      have hr := returned_of_returnFromCall hunlock h.newState false (.inr rfl)
      rw [heq]
      exact ⟨hr.async, hr.selfLock, hr.call, hr.notifications⟩

theorem endHandler_calm (hm : s.plugin.Async) (t : ThreadId) {context : HandlerContext}
    (hcontext : context ≠ .caller) {h : Completion} (hs : h.isSync = false)
    (rest : List StackFrame) :
    Restacks t rest s (s.endHandler t context h rest) ∧
      Calm s.plugin (s.endHandler t context h rest).plugin := by
  cases context with
  | caller => exact absurd rfl hcontext
  | ack | timer =>
      refine ⟨⟨rfl, rfl, rfl⟩, ?_⟩
      simp only [endHandler, leaveHandler, setStack, hs]
      exact .of_same hm rfl rfl rfl rfl rfl

/-- The functions that the end of a handler takes from the stack: the one that holds `selfLock`
for it, or none that matters. -/
inductive RunsOver (h : Completion) : HandlerContext → List StackFrame → Prop
  | caller {f : StackFrame} (hself : f.holdsSelfLock = true) (hlock : f.holdsCallbackLock = false) :
      RunsOver h .caller [f]
  | other {context : HandlerContext} {fs : List StackFrame} (hcontext : context ≠ .caller)
      (hs : h.isSync = false) (hself : fs.countP StackFrame.holdsSelfLock = 0)
      (hlock : fs.countP StackFrame.holdsCallbackLock = 0) : RunsOver h context fs

theorem RunsOver.fits {context : HandlerContext} {h : Completion} (ho : RunsOver h context fs) :
    (StackFrame.handler context h).Fits rest := by
  cases ho with
  | caller => trivial
  | other hcontext hs =>
      cases context with
      | caller => exact absurd rfl hcontext
      | ack | timer => exact hs

/-- The handler's own frame takes the place of the one that holds `selfLock`. -/
theorem RunsOver.count_selfLock {context : HandlerContext} {h : Completion}
    (ho : RunsOver h context fs) (kind : NotificationKind) :
    [.enterDispatch kind, .handler context h].countP StackFrame.holdsSelfLock =
      fs.countP StackFrame.holdsSelfLock := by
  cases ho with
  | @caller f hself =>
      have hf : [f].countP StackFrame.holdsSelfLock = 1 := by simp [hself]
      rw [hf]
      rfl
  | other hcontext hs hself =>
      rw [hself]
      cases context with
      | caller => exact absurd rfl hcontext
      | ack | timer => rfl

theorem RunsOver.count_callbackLock {context : HandlerContext} {h : Completion}
    (ho : RunsOver h context fs) : fs.countP StackFrame.holdsCallbackLock = 0 := by
  cases ho with
  | caller hself hlock => simp [hlock]
  | other hcontext hs hself hlock => exact hlock

theorem endHandler_moves {s₀ : ThreadedPlugin} {context : HandlerContext} {h : Completion}
    (hb : s₀.threads t = fs ++ rest) (hu : Unmoved s₀ s) (hc : Calm s₀.plugin s.plugin)
    (hg : Guarded rest) (ho : RunsOver h context fs) :
    Moves t s₀ (s.endHandler t context h rest) fs [] rest := by
  cases ho with
  | caller hself hlock =>
      obtain ⟨hr, hm⟩ := endHandler_returned hc.async t h rest
      exact .of_returned hb (hu.trans hr) hg (hm.of_calm hc) hself hlock
  | other hcontext hs hself hlock =>
      obtain ⟨hr, hm⟩ := endHandler_calm hc.async t hcontext hs rest
      exact .of_calm hb (hu.trans hr) hg (hc.trans hm) hself.symm hlock.symm (by simp)

theorem beginHandler_moves {s₀ : ThreadedPlugin} {context : HandlerContext} {h : Completion}
    {isTimedout : Bool} (hb : s₀.threads t = fs ++ rest) (hu : Unmoved s₀ s)
    (hc : Calm s₀.plugin s.plugin) (hg : Guarded rest) (ho : RunsOver h context fs) :
    ∃ fs gs rest', Moves t s₀ (s.beginHandler env t context h isTimedout rest) fs gs rest' := by
  let m := (s.plugin.emit (.completionHandler h.transactionId isTimedout false)).storePowerState
    env h
  have hstore : Calm s₀.plugin m.2 := by
    apply hc.trans
    simp only [m, storePowerState_eq]
    exact .of_same hc.async rfl rfl rfl rfl rfl
  unfold beginHandler
  dsimp only
  split
  · have hu' : Unmoved s₀ { s with plugin := m.2 } :=
      ⟨hu.threads, hu.registrations, hu.callbackLock⟩
    exact ⟨fs, [], rest, endHandler_moves hb hu' hstore hg ho⟩
  · let m' := m.2.emit (.powerModeChanged h.transactionId h.currState h.newState)
    have hevent : Calm s₀.plugin m' := hstore.trans (.of_same hstore.async rfl rfl rfl rfl rfl)
    refine ⟨fs, [.enterDispatch .modeChanged, .handler context h], rest, .of_calm hb ?_
      ⟨trivial, ho.fits, hg⟩ hevent (ho.count_selfLock _) ho.count_callbackLock.symm ?_⟩
    · exact ⟨hu.threads ▸ rfl, hu.registrations, hu.callbackLock⟩
    · simp [StackFrame.position]

/-- The handler goes on after its dispatch. -/
theorem finishHandler_moves {context : HandlerContext} {h : Completion} (hm : s.plugin.Async)
    (hb : s.threads t = .handler context h :: rest) (hg : Guarded (.handler context h :: rest)) :
    ∃ fs gs rest', Moves t s (s.finishHandler env t context h rest) fs gs rest' := by
  let m := if h.newState = .standbyDeepSleep then s.plugin.activateDeepSleep env else s.plugin
  have hc : Calm s.plugin m := by
    simp only [m]
    split
    · exact .of_same hm rfl rfl rfl rfl rfl
    · exact .refl hm
  have hu : Unmoved s { s with plugin := m } := ⟨rfl, rfl, rfl⟩
  refine ⟨[.handler context h], [], rest, endHandler_moves hb hu hc hg.2 ?_⟩
  cases context with
  | caller => exact .caller rfl rfl
  | ack | timer => exact .other (by simp) hg.1 rfl rfl

/-! ### SetPowerState -/

/-- A part of `SetPowerState` returns, or leaves its frame on the stack. -/
theorem call_moves {m : Implementation} {f : StackFrame} (hb : s.threads t = f :: rest)
    (hg : Guarded rest) (hself : f.holdsSelfLock = true) (hlock : f.holdsCallbackLock = false)
    (h : Returned s.plugin m ∨ Calm s.plugin m ∧ m.call.isSome = true) :
    ∃ fs gs rest', Moves t s ({ s with plugin := m }.setStack t
      (if m.call.isSome then .call :: rest else rest)) fs gs rest' := by
  rcases h with h | ⟨h, hsome⟩
  · refine ⟨[f], [], rest, .of_returned hb ⟨?_, rfl, rfl⟩ hg h hself hlock⟩
    rw [h.call]
    rfl
  · refine ⟨[f], [.call], rest,
      .of_calm hb ⟨?_, rfl, rfl⟩ ⟨trivial, hg⟩ h ?_ ?_ (by simp [StackFrame.position])⟩
    · rw [hsome]
      rfl
    · have hf : [f].countP StackFrame.holdsSelfLock = 1 := by simp [hself]
      rw [hf]
      rfl
    · have hf : [f].countP StackFrame.holdsCallbackLock = 0 := by simp [hlock]
      rw [hf]
      rfl

theorem proceedCall_moves {call : Call} (hm : s.plugin.Async) (hcall : s.plugin.call = some call)
    (hb : s.threads t = .call :: rest) (hg : Guarded rest)
    (h : s.proceedCall env t call rest = some s') : ∃ fs gs rest, Moves t s s' fs gs rest := by
  have advanced (hphase : call.phase = .checked ∨ s.plugin.modeChangeController = none ∨
      call.phase = .tested ∨ call.phase = .armed) :
      ∃ fs gs rest', Moves t s ({ s with plugin := s.plugin.advance env call }.setStack t
        (if (s.plugin.advance env call).call.isSome then .call :: rest else rest)) fs gs rest' :=
    call_moves hb hg rfl rfl (advance_returned_or_calm hm hcall hphase)
  unfold proceedCall at h
  dsimp only at h
  split at h
  · rename_i hphase
    split at h
    · cases h
      exact advanced (.inl hphase)
    · cases h
  · cases h
    exact beginSubmit_moves hm hb ⟨trivial, hg⟩
  · rename_i c hphase hc
    split at h
    · cases h
      exact beginHandler_moves hb ⟨rfl, rfl, rfl⟩ (.refl hm) hg (.caller rfl rfl)
    · rename_i hwait
      have hsync : call.isSync = false := isSync_of_not_completesAtOnce hwait
      cases h
      rw [advance_submitted hphase hc, if_neg hwait]
      apply call_moves hb hg rfl rfl
      refine .inr ⟨⟨⟨hm.stored, hm.cancelled, ?_⟩, rfl, rfl⟩, rfl⟩
      rintro _ ⟨⟩ _
      exact hsync
  · rename_i hchecked hinstalled hsubmitted
    cases h
    apply advanced
    cases hphase : call.phase with
    | checked => exact .inl rfl
    | tested => exact .inr (.inr (.inl rfl))
    | armed => exact .inr (.inr (.inr rfl))
    | installed =>
        cases hc : s.plugin.modeChangeController with
        | none => exact .inr (.inl rfl)
        | some c => exact (hinstalled c hphase hc).elim
    | submitted =>
        cases hc : s.plugin.modeChangeController with
        | none => exact .inr (.inl rfl)
        | some c => exact (hsubmitted c hphase hc).elim

theorem proceed_moves (hm : s.plugin.Async) (hg : Guarded (s.threads t))
    (h : s.proceed env t = some s') : ∃ fs gs rest, Moves t s s' fs gs rest := by
  unfold proceed at h
  split at h
  · rename_i newState origin rest hb
    rw [hb] at hg
    split at h
    · cases h
    · rename_i hfree
      cases h
      refine ⟨[.awaitSelfLock newState origin], [.locked newState origin], rest, hb, rfl,
        ⟨trivial, hg.2⟩, ⟨hm.stored, hm.cancelled, hm.call⟩,
        .acquire (by simpa using hfree) rfl rfl, .keep rfl rfl, .keep rfl rfl ?_⟩
      intro f hf
      rw [List.mem_singleton.mp hf]
      exact .plain rfl
  · rename_i newState origin rest hb
    rw [hb] at hg
    split at h
    · cases h
      exact call_moves hb hg.2 rfl rfl (compareStates_cases hm newState origin)
    · cases h
  · rename_i rest hb
    rw [hb] at hg
    obtain ⟨call, hcall, h⟩ := Option.bind_eq_some_iff.mp h
    exact proceedCall_moves hm hcall hb hg.2 h
  · rename_i event it called rest hb
    rw [hb] at hg
    exact continueSubmit_moves hm hb hg.2 h
  · rename_i kind rest hb
    rw [hb] at hg
    exact beginDispatch_moves hm hb hg.2 h
  · rename_i kind it called rest hb
    rw [hb] at hg
    exact continueDispatch_moves hm hb hg.2 h
  · rename_i context handler rest hb
    rw [hb] at hg
    cases h
    exact finishHandler_moves hm hb hg
  · rename_i stay rest hb
    rw [hb] at hg
    cases h
    exact ⟨[.deepSleepTimerWakeup stay], [.awaitSelfLock .standbyLightSleep (.wakeup stay)], rest,
      .of_calm hb ⟨rfl, rfl, rfl⟩ ⟨hg.1, hg.2⟩ (.refl hm) rfl rfl (by simp [StackFrame.position])⟩
  · cases h
  · cases h

/-! ### Calls -/

theorem push_moves {f : StackFrame} {s₀ : ThreadedPlugin} (hg : Guarded (s₀.threads t))
    (hu : Unmoved s₀ s) (hc : Calm s₀.plugin s.plugin) (hf : f.Fits (s₀.threads t))
    (hself : f.holdsSelfLock = false) (hlock : f.holdsCallbackLock = false)
    (hplain : f.position = none) : ∃ fs gs rest, Moves t s₀ (s.push t f) fs gs rest := by
  refine ⟨[], [f], s₀.threads t, .of_calm rfl ⟨?_, hu.registrations, hu.callbackLock⟩ ⟨hf, hg⟩ hc
    (by simp [hself]) (by simp [hlock]) (by simpa using hplain)⟩
  simp only [push, setStack, hu.threads]
  rfl

/-- A call of `Ack` on the stored controller. -/
theorem acknowledge_moves {s₀ : ThreadedPlugin} {c c' : PreModeChangeController}
    {handlerCall : Option (HandlerCall Completion)} (hg : Guarded (s₀.threads t))
    (hu : Unmoved s₀ s) (hm : Calm s₀.plugin s.plugin)
    (hc : s.plugin.modeChangeController = some c) (hh : c'.handler = c.handler)
    (hcall : ∀ call ∈ handlerCall, c.handler = some call.handler ∧ call.isRevoked = false) :
    ∃ fs gs rest, Moves t s₀ (s.acknowledge env t c' handlerCall) fs gs rest := by
  have hstore : Calm s₀.plugin { s.plugin with modeChangeController := some c' } :=
    hm.trans (.of_stored hm.async hc hh)
  unfold acknowledge
  cases handlerCall with
  | none =>
      exact ⟨_, _, _, .of_unmoved hg ⟨hu.threads, hu.registrations, hu.callbackLock⟩ hstore⟩
  | some call =>
      have hsync := hm.async.stored c hc call.handler (hcall call rfl).1
      let locked : ThreadedPlugin := { s with
        plugin := { s.plugin with modeChangeController := some c' }
        apiLock := s.apiLock.lock t }
      have hlocked : Unmoved s₀ locked := ⟨hu.threads, hu.registrations, hu.callbackLock⟩
      have hrest : s₀.threads t = [] ++ s.threads t := by rw [hu.threads, List.nil_append]
      have hguarded : Guarded (s.threads t) := by
        rw [hu.threads]
        exact hg
      exact beginHandler_moves hrest hlocked hstore hguarded (.other (by simp) hsync rfl rfl)

theorem powerModePreChangeComplete_moves {clientId : ClientId} {transactionId : TransactionId}
    (hm : s.plugin.Async) (hg : Guarded (s.threads t)) :
    ∃ fs gs rest, Moves t s (s.powerModePreChangeComplete env t clientId transactionId)
      fs gs rest := by
  unfold powerModePreChangeComplete
  split
  · exact ⟨_, _, _, .of_unmoved hg ⟨rfl, rfl, rfl⟩ (.refl hm)⟩
  · rename_i c hc
    obtain ⟨hh, hcall⟩ := AckController.ack_handler clientId transactionId c
    exact acknowledge_moves hg ⟨rfl, rfl, rfl⟩ (.refl hm) hc hh hcall

theorem removePowerModePreChangeClient_moves {clientId : ClientId} (hm : s.plugin.Async)
    (hg : Guarded (s.threads t)) :
    ∃ fs gs rest, Moves t s (s.removePowerModePreChangeClient env t clientId) fs gs rest := by
  unfold removePowerModePreChangeClient
  split
  · have hclients : Calm s.plugin { s.plugin with
        modeChangeClients := s.plugin.modeChangeClients.filter fun client =>
          client.1 ≠ clientId } := .of_same hm rfl rfl rfl rfl rfl
    dsimp only
    split
    · exact ⟨_, _, _, .of_unmoved hg ⟨rfl, rfl, rfl⟩ hclients⟩
    · rename_i c hc
      obtain ⟨hh, hcall⟩ := AckController.ack_handler clientId c.transactionId c
      exact acknowledge_moves hg ⟨rfl, rfl, rfl⟩ hclients hc hh hcall
  · exact ⟨_, _, _, .of_unmoved hg ⟨rfl, rfl, rfl⟩ (.refl hm)⟩

theorem wakeupCall_moves {wenv : WakeupEnv} {action : WakeupAction} (hm : s.plugin.Async)
    (hg : Guarded (s.threads t)) :
    ∃ fs gs rest, Moves t s (s.wakeupCall t wenv action) fs gs rest := by
  unfold wakeupCall
  dsimp only
  split
  · exact ⟨_, _, _, .of_unmoved hg ⟨rfl, rfl, rfl⟩ (.of_same hm rfl rfl rfl rfl rfl)⟩
  · exact push_moves hg ⟨rfl, rfl, rfl⟩ (.of_same hm rfl rfl rfl rfl rfl) trivial rfl rfl rfl

theorem calm_delayPowerModeChangeBy {clientId : ClientId} {transactionId : TransactionId}
    {delayPeriod : ℤ} (hm : s.plugin.Async) : Calm s.plugin
      (s.plugin.delayPowerModeChangeBy env clientId transactionId delayPeriod).2 := by
  unfold delayPowerModeChangeBy
  split
  · exact .refl hm
  · rename_i c hc
    have hk := AckController.reschedule_kept clientId transactionId (delayPeriod * 1000) env.now c
    exact .of_stored hm hc hk.1.handler

theorem calm_addPowerModePreChangeClient {clientName : String} (hm : s.plugin.Async) :
    Calm s.plugin (s.plugin.addPowerModePreChangeClient clientName).2.2 := by
  unfold addPowerModePreChangeClient
  split
  · exact .refl hm
  · split
    · exact .refl hm
    · exact .of_same hm rfl rfl rfl rfl rfl

theorem callMethod_moves {method : Method} (hm : s.plugin.Async) (hg : Guarded (s.threads t))
    (hC : s.MayCall (env, t, .call method)) (h : s.callMethod env t method = some s') :
    ∃ fs gs rest, Moves t s s' fs gs rest := by
  have unmoved {m : Implementation} (hc : Calm s.plugin m) :
      ∃ fs gs rest, Moves t s { s with plugin := m } fs gs rest :=
    ⟨_, _, _, .of_unmoved hg ⟨rfl, rfl, rfl⟩ hc⟩
  have stays : s.threads = Function.update s.threads t ([] ++ s.threads t) := by
    rw [List.nil_append, Function.update_eq_self]
  cases method with
  | setPowerState newState =>
      cases h
      exact push_moves hg ⟨rfl, rfl, rfl⟩ (.refl hm) hC rfl rfl rfl
  | reboot =>
      cases h
      exact push_moves hg ⟨rfl, rfl, rfl⟩ (.refl hm) trivial rfl rfl rfl
  | register kind notification =>
      cases (Option.ite_none_right_eq_some.mp h).2
      refine ⟨[], [], s.threads t, rfl, stays, hg, ?_, .keep ?_ rfl, .keep rfl rfl,
        .register kind notification rfl rfl⟩
      · simp only [register, register_snd]
        exact ⟨hm.stored, hm.cancelled, hm.call⟩
      · simp only [register, register_snd]
  | unregister kind notification =>
      obtain ⟨ha, hs'⟩ := Option.ite_none_right_eq_some.mp h
      cases hs'
      refine ⟨[], [], s.threads t, rfl, stays, hg, ?_, .keep ?_ rfl, .keep rfl rfl,
        .unregister kind notification rfl ha hC rfl⟩
      · simp only [unregister, unregister_snd]
        exact ⟨hm.stored, hm.cancelled, hm.call⟩
      · simp only [unregister, unregister_snd]
  | wakeup wenv action =>
      cases (Option.ite_none_right_eq_some.mp h).2
      exact wakeupCall_moves hm hg
  | setDeepSleepTimer timeOut =>
      cases (Option.ite_none_right_eq_some.mp h).2
      exact ⟨_, _, _, .of_unmoved hg ⟨rfl, rfl, rfl⟩ (.of_same hm rfl rfl rfl rfl rfl)⟩
  | powerModePreChangeComplete clientId transactionId =>
      cases (Option.ite_none_right_eq_some.mp h).2
      exact powerModePreChangeComplete_moves hm hg
  | delayPowerModeChangeBy clientId transactionId delayPeriod =>
      cases (Option.ite_none_right_eq_some.mp h).2
      exact unmoved (calm_delayPowerModeChangeBy hm)
  | addPowerModePreChangeClient clientName =>
      cases (Option.ite_none_right_eq_some.mp h).2
      exact unmoved (calm_addPowerModePreChangeClient hm)
  | removePowerModePreChangeClient clientId =>
      cases (Option.ite_none_right_eq_some.mp h).2
      exact removePowerModePreChangeClient_moves hm hg
  | other =>
      cases (Option.ite_none_right_eq_some.mp h).2
      exact unmoved (.refl hm)

/-! ### Threads of the plugin -/

theorem runTimer_moves {s₀ : ThreadedPlugin} {handlerCall : Option (HandlerCall Completion)}
    (hb : s₀.threads t = []) (hu : Unmoved s₀ s) (hm : Calm s₀.plugin s.plugin)
    (hcall : ∀ call ∈ handlerCall, call.handler.isSync = false) :
    ∃ fs gs rest, Moves t s₀ (s.runTimer env t handlerCall) fs gs rest := by
  unfold runTimer
  cases handlerCall with
  | none =>
      refine ⟨_, _, _, .of_unmoved ?_ hu hm⟩
      rw [hb]
      trivial
  | some call =>
      have hb : s₀.threads t = [] ++ [] := hb
      exact beginHandler_moves hb hu hm trivial (.other (by simp) (hcall call rfl) rfl rfl)

theorem timerRun_moves (hm : s.plugin.Async) (hb : s.threads t = [])
    (h : s.enter env t .timerRun = some s') : ∃ fs gs rest, Moves t s s' fs gs rest := by
  obtain ⟨⟨c', handlerCall⟩, hrun, rfl⟩ := Option.map_eq_some_iff.mp h
  obtain ⟨c, hc, hrun⟩ := Option.bind_eq_some_iff.mp hrun
  obtain ⟨hh, hcall⟩ := AckController.timerRun_handler hrun
  dsimp only
  refine runTimer_moves hb ⟨rfl, rfl, rfl⟩ (.of_stored hm hc hh) ?_
  exact fun call hmem => hm.stored c hc call.handler (hcall call hmem).1

theorem cancelledRun_moves {i : ℕ} (hm : s.plugin.Async) (hb : s.threads t = [])
    (h : s.enter env t (.cancelledRun i) = some s') : ∃ fs gs rest, Moves t s s' fs gs rest := by
  obtain ⟨⟨c', handlerCall⟩, hrun, rfl⟩ := Option.map_eq_some_iff.mp h
  obtain ⟨c, hc, hrun⟩ := Option.bind_eq_some_iff.mp hrun
  obtain ⟨hh, hcall⟩ := AckController.timerRun_handler hrun
  have hasync : c.IsAsync := hm.cancelled c (List.mem_of_getElem? hc)
  dsimp only
  refine runTimer_moves hb ⟨rfl, rfl, rfl⟩ (.of_cancelled hm ?_) ?_
  · intro d hd
    split at hd
    · exact hm.cancelled d (List.mem_of_mem_eraseIdx hd)
    · rcases mem_set_cases hd with rfl | hd
      · exact hasync.congr hh
      · exact hm.cancelled d hd
  · exact fun call hmem => hasync call.handler (hcall call hmem).1

theorem calm_sleepStep {action : SleepAction} {m : Implementation} (hm : s.plugin.Async)
    (h : s.plugin.sleepStep env action = some m) : Calm s.plugin m := by
  obtain ⟨c, -, rfl⟩ := sleepStep_cases h
  exact .of_same hm rfl rfl rfl rfl rfl

theorem calm_cancelledDispatch {i : ℕ} {m : Implementation} (hm : s.plugin.Async)
    (h : s.plugin.cancelledDispatch i = some m) : Calm s.plugin m := by
  obtain ⟨c', hd, rfl⟩ := Option.map_eq_some_iff.mp h
  obtain ⟨c, hc, hd⟩ := Option.bind_eq_some_iff.mp hd
  apply Calm.of_cancelled hm
  intro d hmem
  rcases mem_set_cases hmem with rfl | hmem
  · exact (hm.cancelled c (List.mem_of_getElem? hc)).congr
      (AckController.timerDispatch_kept hd).1.handler
  · exact hm.cancelled d hmem

theorem enter_moves {entrance : Entrance} (hm : s.plugin.Async) (hb : s.threads t = [])
    (h : s.enter env t entrance = some s') : ∃ fs gs rest, Moves t s s' fs gs rest := by
  have hg : Guarded (s.threads t) := by
    rw [hb]
    trivial
  have unmoved {m : Implementation} (hc : Calm s.plugin m) :
      ∃ fs gs rest, Moves t s { s with plugin := m } fs gs rest :=
    ⟨_, _, _, .of_unmoved hg ⟨rfl, rfl, rfl⟩ hc⟩
  cases entrance with
  | preChangeJob i =>
      obtain ⟨job, -, rfl⟩ := Option.map_eq_some_iff.mp h
      exact ⟨[], [.callback .preModeChange job.notification], [],
        .of_calm hb ⟨rfl, rfl, rfl⟩ ⟨trivial, trivial⟩ (.of_same hm rfl rfl rfl rfl rfl) rfl rfl
          (by simp [StackFrame.position])⟩
  | timerDispatch =>
      obtain ⟨m, hdispatch, rfl⟩ := Option.map_eq_some_iff.mp h
      obtain ⟨c', hc', rfl⟩ := Option.map_eq_some_iff.mp hdispatch
      obtain ⟨c, hc, hd⟩ := Option.bind_eq_some_iff.mp hc'
      exact unmoved (.of_stored hm hc (AckController.timerDispatch_kept hd).1.handler)
  | timerRun => exact timerRun_moves hm hb h
  | cancelledDispatch i =>
      obtain ⟨m, hd, rfl⟩ := Option.map_eq_some_iff.mp h
      exact unmoved (calm_cancelledDispatch hm hd)
  | cancelledRun i => exact cancelledRun_moves hm hb h
  | wakeup i =>
      obtain ⟨⟨newState, origin, m⟩, hd, rfl⟩ := Option.map_eq_some_iff.mp h
      obtain ⟨e, wakeup, -, -, -, -, rfl⟩ := takeWakeup_eq hd
      exact ⟨[], [.awaitSelfLock newState origin], [],
        .of_calm hb ⟨rfl, rfl, rfl⟩ ⟨by simp [StackFrame.Fits], trivial⟩
          (.of_same hm rfl rfl rfl rfl rfl) rfl rfl (by simp [StackFrame.position])⟩
  | announce i =>
      simp only [enter] at h
      split at h
      · rename_i e he
        split at h
        · cases h
          exact ⟨[], [.enterDispatch .deepSleepTimeout, .deepSleepTimerWakeup e.stay], [],
            .of_calm hb ⟨rfl, rfl, rfl⟩ ⟨trivial, by simp [StackFrame.Fits], trivial⟩
              (.of_same hm rfl rfl rfl rfl rfl) rfl rfl (by simp [StackFrame.position])⟩
        · cases h
      · cases h
  | sleep action =>
      cases action with
      | announce i => cases h
      | performActivate | delayExpired | setDeepSleep | sleepReturned =>
          obtain ⟨m, hstep, rfl⟩ := Option.map_eq_some_iff.mp h
          exact unmoved (calm_sleepStep hm hstep)
  | thermalModeChanged =>
      cases h
      exact ⟨[], [.enterDispatch .thermalModeChanged], [],
        .of_calm hb ⟨rfl, rfl, rfl⟩ ⟨trivial, trivial⟩ (.refl hm) rfl rfl
          (by simp [StackFrame.position])⟩

/-- What a step that meets the condition does to locks, loops and lists. -/
theorem threadStep_moves {a : ThreadAction} (hm : s.plugin.Async) (hg : Guarded (s.threads t))
    (hC : s.MayCall (env, t, a)) (h : threadStep s (env, t, a) = some s') :
    ∃ fs gs rest, Moves t s s' fs gs rest := by
  cases a with
  | call method =>
      simp only [threadStep] at h
      split at h
      · exact callMethod_moves hm hg hC h
      · exact callMethod_moves hm hg hC h
      · cases h
  | returns =>
      simp only [threadStep] at h
      split at h
      · rename_i kind notification rest hb
        rw [hb] at hg
        cases h
        exact ⟨[.callback kind notification], [], rest,
          .of_calm hb ⟨rfl, rfl, rfl⟩ hg.2 (.refl hm) rfl rfl (by simp)⟩
      · cases h
  | proceed => exact proceed_moves hm hg h
  | enter entrance =>
      simp only [threadStep] at h
      split at h
      · rename_i hb
        exact enter_moves hm hb h
      · cases h

end ThreadedPlugin

end DeviceAndDisplay.PowerManager
