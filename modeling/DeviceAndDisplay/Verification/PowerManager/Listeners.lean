import DeviceAndDisplay.Verification.PowerManager.Steps

/-! # Calls of listeners

Five of the six lists are walked under `_callbackLock`, where every sink is registered. The
pre-change notifications are called by jobs that hold the bare pointer. -/

namespace DeviceAndDisplay.PowerManager

/-! ### The lists -/

namespace NotificationList

variable {l : NotificationList} {sink s : Sink}

/-- Every sink is listed once, and PowerManager holds one reference on it. -/
structure Counted (l : NotificationList) : Prop where
  nodup : l.sinks.Nodup
  references : l.references.Perm l.sinks

theorem Counted.mem_references (hl : l.Counted) : s ∈ l.references ↔ s ∈ l.sinks :=
  hl.references.mem_iff

theorem Counted.register (hl : l.Counted) (sink : Sink) : (l.register sink).2.Counted := by
  unfold NotificationList.register
  split
  · exact hl
  · rename_i hs
    constructor
    · apply List.Nodup.append hl.nodup (List.nodup_singleton sink)
      simpa using hs
    · exact (hl.references.cons sink).trans (List.perm_append_singleton sink l.sinks).symm

theorem Counted.unregister (hl : l.Counted) (sink : Sink) : (l.unregister sink).2.Counted := by
  unfold NotificationList.unregister
  split
  · exact ⟨hl.nodup.erase sink, hl.references.erase sink⟩
  · exact hl

theorem mem_register : s ∈ (l.register sink).2.sinks ↔ s = sink ∨ s ∈ l.sinks := by
  unfold NotificationList.register
  split
  · rename_i hs
    constructor
    · exact .inr
    · rintro (rfl | h)
      · exact hs
      · exact h
  · simp [or_comm]

theorem Counted.mem_unregister (hl : l.Counted) :
    s ∈ (l.unregister sink).2.sinks ↔ s ≠ sink ∧ s ∈ l.sinks := by
  unfold NotificationList.unregister
  split
  · exact hl.nodup.mem_erase_iff
  · rename_i hs
    constructor
    · intro h
      refine ⟨?_, h⟩
      rintro rfl
      exact hs h
    · exact And.right

theorem register_errorNone : (l.register sink).1 = .errorNone ↔ sink ∉ l.sinks := by
  unfold NotificationList.register
  split <;> simp_all

theorem unregister_errorNone : (l.unregister sink).1 = .errorNone ↔ sink ∈ l.sinks := by
  unfold NotificationList.unregister
  split <;> simp_all

end NotificationList

namespace Implementation

open Transition

variable {env : Env} {m m' m₀ : Implementation} {kind : NotificationKind} {sink : Sink}

/-! ### What the log tells about a listener -/

/-- Whether the newest successful `Register` or `Unregister` call for the sink registered it. -/
def lastRegistration (kind : NotificationKind) (sink : Sink) : List LogEntry → Option Bool
  | [] => none
  | .registered k s :: log =>
      if k = kind ∧ s = sink then some true else lastRegistration kind sink log
  | .unregistered k s :: log =>
      if k = kind ∧ s = sink then some false else lastRegistration kind sink log
  | _ :: log => lastRegistration kind sink log

/-- Every callback is made on a sink that PowerManager holds a reference on and that was not
unregistered last. -/
def Heard : List LogEntry → Prop
  | [] => True
  | .callback kind sink held :: log =>
      (held = true ∧ lastRegistration kind sink log ≠ some false) ∧ Heard log
  | _ :: log => Heard log

/-- The lists agree with the log. -/
structure Registered (m : Implementation) : Prop where
  counted : ∀ kind, (m.notifications kind).Counted
  recorded : ∀ kind sink,
    lastRegistration kind sink m.log = some true ↔ sink ∈ (m.notifications kind).sinks

theorem registered_init (b : Bool) (pc : PowerController) : (init b pc).Registered where
  counted := fun _ => ⟨List.nodup_nil, List.Perm.refl _⟩
  recorded := by simp [init, lastRegistration]

theorem Registered.holds_iff (hm : m.Registered) :
    m.holds kind sink = true ↔ sink ∈ (m.notifications kind).sinks := by
  rw [holds, decide_eq_true_iff, (hm.counted kind).mem_references]

/-! ### Steps that call only registered listeners -/

/-- No registration, and no call but of a sink on its list. -/
def Listed (m : Implementation) : LogEntry → Prop
  | .registered .. | .unregistered .. => False
  | .callback kind sink held => sink ∈ (m.notifications kind).sinks ∧ held = m.holds kind sink
  | _ => True

theorem Listed.congr {e : LogEntry} (h : m'.notifications = m.notifications)
    (he : m'.Listed e) : m.Listed e := by
  cases e with
  | callback kind sink held =>
      obtain ⟨hmem, hheld⟩ := he
      rw [h] at hmem
      rw [holds, h] at hheld
      exact ⟨hmem, hheld⟩
  | registered | unregistered => exact he
  | _ => trivial

/-- The lists stay as they are, and only listed sinks are called. -/
structure CallsListed (m m' : Implementation) : Prop where
  notifications : m'.notifications = m.notifications
  log : ∃ es, m'.log = es ++ m.log ∧ ∀ e ∈ es, m.Listed e

theorem CallsListed.refl (m : Implementation) : CallsListed m m :=
  ⟨rfl, [], rfl, by simp⟩

theorem CallsListed.trans {m₁ m₂ m₃ : Implementation} (h : CallsListed m₁ m₂)
    (h' : CallsListed m₂ m₃) : CallsListed m₁ m₃ := by
  obtain ⟨hn, es, hlog, hes⟩ := h
  obtain ⟨hn', es', hlog', hes'⟩ := h'
  refine ⟨hn'.trans hn, es' ++ es, by rw [hlog', hlog, List.append_assoc], ?_⟩
  intro e he
  rcases List.mem_append.mp he with he | he
  · exact (hes' e he).congr hn
  · exact hes e he

/-- The fields other than the lists and the log do not matter. -/
theorem CallsListed.of_same (h : CallsListed m m₀) (hn : m'.notifications = m₀.notifications)
    (hlog : m'.log = m₀.log) : CallsListed m m' := by
  obtain ⟨hn₀, es, hlog₀, hes⟩ := h
  exact ⟨hn.trans hn₀, es, hlog.trans hlog₀, hes⟩

theorem callsListed_emit {e : LogEntry} (he : m.Listed e) : CallsListed m (m.emit e) :=
  ⟨rfl, [e], rfl, by simpa using he⟩

theorem callsListed_lockSelf (m : Implementation) : CallsListed m m.lockSelf :=
  ⟨rfl, [.selfLock], rfl, by simp [Listed]⟩

theorem callsListed_unlockSelf (m : Implementation) : CallsListed m m.unlockSelf :=
  ⟨rfl, [.selfUnlock], rfl, by simp [Listed]⟩

theorem listed_of_mem_callbacks {e : LogEntry} (he : e ∈ m.callbacks kind) : m.Listed e := by
  simp only [callbacks, List.mem_reverse, List.mem_map] at he
  obtain ⟨s, hs, rfl⟩ := he
  exact ⟨hs, rfl⟩

theorem callsListed_dispatchEvent (kind : NotificationKind) (m : Implementation) :
    CallsListed m (m.dispatchEvent kind) := by
  rw [dispatchEvent_eq]
  exact ⟨rfl, m.callbacks kind, rfl, fun e he => listed_of_mem_callbacks he⟩

theorem callsListed_storePowerState (env : Env) (h : Completion) (m : Implementation) :
    CallsListed m (m.storePowerState env h).2 := by
  rw [storePowerState_eq]
  refine ⟨rfl, .setPowerState h m.stay _ ::
    (if PowerController.ignores env h.newState then []
      else [.platformSetPowerState h.transactionId h.newState]), rfl, ?_⟩
  intro e he
  rcases List.mem_cons.mp he with rfl | he
  · trivial
  · split at he
    · simp at he
    · rw [List.mem_singleton.mp he]
      trivial

theorem callsListed_setDevicePowerState (env : Env) (h : Completion) (m : Implementation) :
    CallsListed m (m.setDevicePowerState env h) := by
  have hstore := callsListed_storePowerState env h m
  have hevent : CallsListed m ((m.storePowerState env h).2.dispatchPowerModeChangedEvent
      h.transactionId h.currState h.newState) :=
    hstore.trans ((callsListed_emit (by trivial)).trans (callsListed_dispatchEvent .modeChanged _))
  simp only [setDevicePowerState]
  split
  · exact hstore
  · split
    · exact hevent.of_same rfl rfl
    · exact hevent

theorem callsListed_completionHandler (env : Env) (h : Completion) (isTimedout isAborted : Bool)
    (m : Implementation) : CallsListed m (m.completionHandler env h isTimedout isAborted) := by
  let m₁ := m.emit (.completionHandler h.transactionId isTimedout isAborted)
  let m₂ := if isAborted then m₁ else m₁.setDevicePowerState env h
  have h₁ : CallsListed m m₁ := callsListed_emit (by trivial)
  have h₂ : CallsListed m m₂ := by
    simp only [m₂]
    split
    · exact h₁
    · exact h₁.trans (callsListed_setDevicePowerState env h m₁)
  have h₃ : CallsListed m (m₂.emit (.release h.transactionId)) :=
    h₂.trans (callsListed_emit (by trivial))
  change CallsListed m (if h.isSync then (m₂.emit (.release h.transactionId)).unlockSelf
    else m₂.emit (.release h.transactionId))
  split
  · exact h₃.trans (callsListed_unlockSelf _)
  · exact h₃

theorem CallsListed.runHandler (h : CallsListed m m₀) (hn : m'.notifications = m₀.notifications)
    (hlog : m'.log = m₀.log) (handlerCall : Option (HandlerCall Completion)) :
    CallsListed m (m'.runHandler env handlerCall) := by
  cases handlerCall with
  | none => exact h.of_same hn hlog
  | some handlerCall =>
      exact (h.of_same hn hlog).trans (callsListed_completionHandler env _ _ _ m')

theorem callsListed_returnFromCall (newState : PowerState) (unlock : Bool) (m : Implementation) :
    CallsListed m (m.returnFromCall newState unlock) := by
  cases unlock with
  | false => exact ⟨rfl, [.returned newState .errorNone], rfl, by simp [Listed]⟩
  | true => exact ⟨rfl, [.returned newState .errorNone, .selfUnlock], rfl, by simp [Listed]⟩

theorem callsListed_resetController (env : Env) (c : PreModeChangeController)
    (m : Implementation) : CallsListed m (m.resetController env c) := by
  have hreset : CallsListed m
      ({ m with modeChangeController := none }.emit (.cancelled c.transactionId)) :=
    ⟨rfl, [.cancelled c.transactionId], rfl, by simp [Listed]⟩
  simp only [resetController]
  split
  · exact hreset.runHandler rfl rfl c.revoke
  · exact hreset.of_same rfl rfl

theorem callsListed_createController (env : Env) (call : Call) (m : Implementation) :
    CallsListed m (m.createController env call) := by
  rw [createController_eq]
  exact ⟨rfl, [.addRef (m.nextTransactionId + 1)], rfl, by simp [Listed]⟩

theorem callsListed_enter {newState : PowerState} {origin : Origin}
    (h : m.enterSetPowerState env newState origin = some m') : CallsListed m m' := by
  obtain ⟨_, ⟨_, rfl⟩ | ⟨_, rfl⟩⟩ := enterSetPowerState_cases h
  · exact ⟨rfl, [.returned newState .errorNone, .selfUnlock, .selfLock], rfl, by simp [Listed]⟩
  · have hwake : CallsListed m m.lockSelf.wake := by
      refine (callsListed_lockSelf m).trans ?_
      unfold wake
      split
      · exact ⟨rfl, [.platformDeepSleepWakeup], rfl, by simp [Listed]⟩
      · exact .refl _
    exact hwake.of_same rfl rfl

theorem callsListed_advance (env : Env) (call : Call) (m : Implementation) :
    CallsListed m (m.advance env call) := by
  have hreturn : ∀ m₀ : Implementation, m₀.notifications = m.notifications →
      m₀.log = m.log → ∀ unlock, CallsListed m (m₀.returnFromCall call.newState unlock) :=
    fun m₀ hn hlog unlock =>
      ((CallsListed.refl m).of_same hn hlog).trans (callsListed_returnFromCall _ unlock m₀)
  by_cases hp : call.phase = .checked
  · rw [advance_checked hp, installController]
    split
    · exact callsListed_createController env call m
    · split
      · exact hreturn m rfl rfl true
      · exact (callsListed_resetController env _ m).trans (callsListed_createController env call _)
  · cases hc : m.modeChangeController with
    | none =>
        rw [advance_no_controller hp hc]
        exact .refl m
    | some c =>
        cases hp' : call.phase with
        | checked => exact absurd hp' hp
        | installed =>
            rw [advance_installed hp' hc]
            exact (CallsListed.refl m).of_same rfl rfl
        | submitted =>
            rw [advance_submitted hp' hc]
            split
            · exact (callsListed_completionHandler env _ false false m).trans
                (callsListed_returnFromCall call.newState (!call.isSync) _)
            · exact (CallsListed.refl m).of_same rfl rfl
        | tested =>
            rw [advance_tested hp' hc]
            exact (CallsListed.refl m).of_same rfl rfl
        | armed =>
            rw [advance_armed hp' hc]
            exact hreturn { m with
              modeChangeController := some (c.startTimer env.now (call.timeOut * 1000)) } rfl rfl _

theorem callsListed_sleepStep {a : SleepAction} (h : m.sleepStep env a = some m') :
    CallsListed m m' := by
  obtain ⟨c, _, rfl⟩ := sleepStep_cases h
  refine ⟨rfl, m.sleepLog a, rfl, fun e he => ?_⟩
  rcases mem_sleepLog he with he | ⟨_, rfl⟩ | ⟨_, _, _, _, rfl⟩
  · exact listed_of_mem_callbacks he
  · trivial
  · trivial

/-- The job that a pre-change step runs. -/
def takenPreChange (m : Implementation) : Action → Option PreChangeJob
  | .api (.preChangeJob i) => m.preChangeJobs[i]?
  | _ => none

/-- The step runs a pre-change job whose listener is not registered. -/
def CallsUnregistered (m : Implementation) (a : Env × Action) : Prop :=
  ∃ job ∈ m.takenPreChange a.2, job.notification ∉ (m.notifications .preModeChange).sinks

instance (m : Implementation) (a : Env × Action) : Decidable (m.CallsUnregistered a) :=
  inferInstanceAs (Decidable (∃ job ∈ m.takenPreChange a.2, _))

/-- A step calls listed sinks only, or changes a list, or runs a pre-change job. -/
inductive Addresses (m : Implementation) : Action → Implementation → Prop
  | listed {a : Action} {m' : Implementation} (ha : m.takenPreChange a = none)
      (h : CallsListed m m') : Addresses m a m'
  | register (kind : NotificationKind) (sink : Sink) :
      Addresses m (.api (.register kind sink)) (m.register kind sink).2
  | unregister (kind : NotificationKind) (sink : Sink) :
      Addresses m (.api (.unregister kind sink)) (m.unregister kind sink).2
  | preChangeJob {i : ℕ} {job : PreChangeJob} (hj : m.preChangeJobs[i]? = some job) :
      Addresses m (.api (.preChangeJob i))
        ({ m with preChangeJobs := m.preChangeJobs.eraseIdx i }.callback .preModeChange
          job.notification)

theorem apiStep_addresses {a : ApiAction} (h : m.apiStep env a = some m') :
    Addresses m (.api a) m' := by
  cases a with
  | powerModePreChangeComplete clientId transactionId =>
      cases h
      refine .listed rfl ?_
      unfold powerModePreChangeComplete
      split
      · exact .refl m
      · apply (CallsListed.refl m).runHandler <;> rfl
  | delayPowerModeChangeBy clientId transactionId delayPeriod =>
      cases h
      refine .listed rfl ?_
      unfold delayPowerModeChangeBy
      split
      · exact .refl m
      · exact (CallsListed.refl m).of_same rfl rfl
  | addPowerModePreChangeClient clientName =>
      cases h
      refine .listed rfl ?_
      unfold addPowerModePreChangeClient
      split
      · exact .refl m
      · split
        · exact .refl m
        · exact (CallsListed.refl m).of_same rfl rfl
  | removePowerModePreChangeClient clientId =>
      cases h
      refine .listed rfl ?_
      unfold removePowerModePreChangeClient
      split
      · dsimp only
        split
        · exact (CallsListed.refl m).of_same rfl rfl
        · apply (CallsListed.refl m).runHandler <;> rfl
      · exact .refl m
  | register kind sink =>
      cases h
      exact .register kind sink
  | unregister kind sink =>
      cases h
      exact .unregister kind sink
  | preChangeJob i =>
      obtain ⟨job, hj, rfl⟩ := Option.map_eq_some_iff.mp h
      exact .preChangeJob hj
  | event kind =>
      simp only [apiStep] at h
      split at h
      · cases h
        exact .listed rfl (callsListed_dispatchEvent kind m)
      · cases h

theorem step_addresses {a : Env × Action} (h : step m a = some m') : Addresses m a.2 m' := by
  obtain ⟨env, a⟩ := a
  cases a with
  | setPowerState newState => exact .listed rfl (callsListed_enter h)
  | wakeup i =>
      obtain ⟨⟨newState, origin, m₀⟩, hw, h⟩ := Option.bind_eq_some_iff.mp h
      obtain ⟨e, wakeup, _, _, _, _, rfl⟩ := takeWakeup_eq hw
      have hsame : CallsListed m (m.setEntries (m.deepSleepController.entries.eraseIdx i)) :=
        (CallsListed.refl m).of_same rfl rfl
      exact .listed rfl (hsame.trans (callsListed_enter h))
  | advance =>
      obtain ⟨call, _, rfl⟩ := Option.map_eq_some_iff.mp h
      exact .listed rfl (callsListed_advance env call m)
  | timerDispatch =>
      obtain ⟨c, _, rfl⟩ := Option.map_eq_some_iff.mp h
      exact .listed rfl ((CallsListed.refl m).of_same rfl rfl)
  | timerRun =>
      obtain ⟨⟨c, handlerCall⟩, _, rfl⟩ := Option.map_eq_some_iff.mp h
      refine .listed rfl ?_
      apply (CallsListed.refl m).runHandler <;> rfl
  | cancelledDispatch i =>
      obtain ⟨c, _, rfl⟩ := Option.map_eq_some_iff.mp h
      exact .listed rfl ((CallsListed.refl m).of_same rfl rfl)
  | cancelledRun i =>
      obtain ⟨⟨c, handlerCall⟩, _, rfl⟩ := Option.map_eq_some_iff.mp h
      refine .listed rfl ?_
      dsimp only
      split
      · have hrun : CallsListed m ({ m with
            cancelledControllers := m.cancelledControllers.eraseIdx i
            }.runHandler env handlerCall) := by
          apply (CallsListed.refl m).runHandler <;> rfl
        exact hrun.runHandler rfl rfl c.revoke
      · apply (CallsListed.refl m).runHandler <;> rfl
  | sleep a => exact .listed rfl (callsListed_sleepStep h)
  | api a => exact apiStep_addresses h

/-! ### One step -/

theorem lastRegistration_append {es log : List LogEntry} (hes : ∀ e ∈ es, m.Listed e)
    (kind : NotificationKind) (sink : Sink) :
    lastRegistration kind sink (es ++ log) = lastRegistration kind sink log := by
  induction es with
  | nil => rfl
  | cons e es ih =>
      have hlisted := hes e List.mem_cons_self
      have hrest := ih fun e' he' => hes e' (List.mem_cons_of_mem e he')
      cases e with
      | registered | unregistered => exact hlisted.elim
      | _ => exact hrest

theorem Registered.heard_append (hm : m.Registered) {es : List LogEntry}
    (hes : ∀ e ∈ es, m.Listed e) : Heard (es ++ m.log) ↔ Heard m.log := by
  induction es with
  | nil => rfl
  | cons e es ih =>
      have hlisted := hes e List.mem_cons_self
      have htail : ∀ e' ∈ es, m.Listed e' := fun e' he' => hes e' (List.mem_cons_of_mem e he')
      cases e with
      | callback kind sink held =>
          obtain ⟨hmem, rfl⟩ := hlisted
          have hlast : lastRegistration kind sink (es ++ m.log) = some true := by
            rw [lastRegistration_append htail]
            exact (hm.recorded kind sink).mpr hmem
          simp only [List.cons_append, Heard, hm.holds_iff.mpr hmem, hlast, ih htail]
          simp
      | registered | unregistered => exact hlisted.elim
      | _ => exact ih htail

theorem Registered.of_callsListed (hm : m.Registered) (h : CallsListed m m') :
    m'.Registered := by
  obtain ⟨hn, es, hlog, hes⟩ := h
  constructor
  · rw [hn]
    exact hm.counted
  · intro kind sink
    rw [hn, hlog, lastRegistration_append hes]
    exact hm.recorded kind sink

/-- One list and the log change together. -/
theorem Registered.of_list (hm : m.Registered) {l : NotificationList} {es : List LogEntry}
    (hl : l.Counted)
    (hkind : ∀ s, lastRegistration kind s (es ++ m.log) = some true ↔ s ∈ l.sinks)
    (hother : ∀ k s, k ≠ kind →
      lastRegistration k s (es ++ m.log) = lastRegistration k s m.log) :
    Registered { m with
      notifications := Function.update m.notifications kind l
      log := es ++ m.log } := by
  constructor
  · intro k
    by_cases hk : k = kind
    · subst hk
      simpa using hl
    · simpa [Function.update_of_ne hk] using hm.counted k
  · intro k s
    by_cases hk : k = kind
    · subst hk
      simpa using hkind s
    · simpa [Function.update_of_ne hk, hother k s hk] using hm.recorded k s

theorem Registered.register (hm : m.Registered) (kind : NotificationKind) (sink : Sink) :
    (m.register kind sink).2.Registered := by
  rw [register_snd]
  apply hm.of_list ((hm.counted kind).register sink)
  · intro s
    rw [NotificationList.mem_register]
    split
    · by_cases hs : s = sink
      · simp [lastRegistration, hs]
      · simpa [lastRegistration, hs, Ne.symm hs] using hm.recorded kind s
    · rename_i hfail
      have hmem := not_not.mp fun h => hfail (NotificationList.register_errorNone.mpr h)
      rw [List.nil_append, hm.recorded kind s]
      constructor
      · exact .inr
      · rintro (rfl | h)
        · exact hmem
        · exact h
  · intro k s hk
    split <;> simp [lastRegistration, Ne.symm hk]

theorem Registered.unregister (hm : m.Registered) (kind : NotificationKind) (sink : Sink) :
    (m.unregister kind sink).2.Registered := by
  rw [unregister_snd]
  apply hm.of_list ((hm.counted kind).unregister sink)
  · intro s
    rw [(hm.counted kind).mem_unregister]
    split
    · by_cases hs : s = sink
      · simp [lastRegistration, hs]
      · simpa [lastRegistration, hs, Ne.symm hs] using hm.recorded kind s
    · rename_i hfail
      have hmem := fun h => hfail (NotificationList.unregister_errorNone.mpr h)
      rw [List.nil_append, hm.recorded kind s]
      constructor
      · intro h
        refine ⟨?_, h⟩
        rintro rfl
        exact hmem h
      · exact And.right
  · intro k s hk
    split <;> simp [lastRegistration, Ne.symm hk]

theorem registered_step {a : Env × Action} (hm : m.Registered) (h : step m a = some m') :
    m'.Registered := by
  have haddr := step_addresses h
  generalize a.2 = action at haddr
  cases haddr with
  | listed _ hc => exact hm.of_callsListed hc
  | register kind sink => exact hm.register kind sink
  | unregister kind sink => exact hm.unregister kind sink
  | preChangeJob _ => exact ⟨hm.counted, hm.recorded⟩

/-- A job that runs on a registered listener makes a good call, any other one does not. -/
theorem heard_preChangeJob {job : PreChangeJob} (hm : m.Registered) (hheard : Heard m.log) :
    Heard (.callback .preModeChange job.notification (m.holds .preModeChange job.notification) ::
        m.log) ↔ job.notification ∈ (m.notifications .preModeChange).sinks := by
  simp only [Heard, hm.holds_iff, hheard, and_true]
  constructor
  · exact And.left
  · intro hmem
    refine ⟨hmem, ?_⟩
    rw [(hm.recorded .preModeChange job.notification).mpr hmem]
    simp

theorem heard_step_iff {a : Env × Action} (hm : m.Registered) (h : step m a = some m') :
    Heard m'.log ↔ Heard m.log ∧ ¬ m.CallsUnregistered a := by
  have haddr := step_addresses h
  unfold CallsUnregistered
  generalize a.2 = action at haddr
  cases haddr with
  | listed ha hc =>
      obtain ⟨_, es, hlog, hes⟩ := hc
      rw [hlog, hm.heard_append hes, ha]
      simp
  | register kind sink =>
      rw [register_snd]
      simp only [takenPreChange]
      split <;> simp [Heard]
  | unregister kind sink =>
      rw [unregister_snd]
      simp only [takenPreChange]
      split <;> simp [Heard]
  | @preChangeJob i job hj =>
      have hlog : ({ m with preChangeJobs := m.preChangeJobs.eraseIdx i }.callback .preModeChange
          job.notification).log = .callback .preModeChange job.notification
            (m.holds .preModeChange job.notification) :: m.log := rfl
      simp only [takenPreChange, hj, hlog, Option.mem_some, exists_eq_left', not_not]
      constructor
      · intro hheard
        exact ⟨hheard.2, (heard_preChangeJob hm hheard.2).mp hheard⟩
      · rintro ⟨hheard, hmem⟩
        exact (heard_preChangeJob hm hheard).mpr hmem

/-! ### The result -/

/-- In every run, no listener is called after it was unregistered exactly if no pre-change job
runs while its listener is not registered. -/
theorem listeners_heard_iff {b : Bool} {pc : PowerController} {as : List (Env × Action)}
    (hr : run step (init b pc) as = some m) :
    Heard m.log ↔ Along step (fun m a => ¬ m.CallsUnregistered a) (init b pc) as := by
  have hiff := run_iff_along (D := fun _ => True) (I := Registered) (P := fun m => Heard m.log)
    (fun _ _ _ hm _ ht => registered_step hm ht) (fun _ _ _ hm _ ht => heard_step_iff hm ht)
    (registered_init b pc) (fun _ _ => trivial) hr
  rw [hiff]
  exact and_iff_right trivial

/-- A pre-change listener is unregistered and registered again before its job runs. -/
def registeredAgainRun : List (Env × Action) :=
  [({}, .api (.register .preModeChange 7)), ({}, .setPowerState .standby), ({}, .advance),
    ({}, .advance), ({}, .api (.unregister .preModeChange 7)),
    ({}, .api (.register .preModeChange 7)), ({}, .api (.preChangeJob 0))]

theorem listeners_heard_registered_again :
    ∃ m, run step (init false {}) registeredAgainRun = some m ∧ Heard m.log := by
  have hr : run step (init false {}) registeredAgainRun = some _ := rfl
  exact ⟨_, hr, (listeners_heard_iff hr).mpr (by decide)⟩

/-- A pre-change listener is unregistered before its job runs. -/
def unregisteredRun : List (Env × Action) :=
  [({}, .api (.register .preModeChange 7)), ({}, .setPowerState .standby), ({}, .advance),
    ({}, .advance), ({}, .api (.unregister .preModeChange 7)), ({}, .api (.preChangeJob 0))]

theorem unregistered_listener_called :
    ∃ m, run step (init false {}) unregisteredRun = some m ∧ ¬ Heard m.log ∧
      m.log.take 2 = [.callback .preModeChange 7 false, .unregistered .preModeChange 7] := by
  refine ⟨_, rfl, ?_, rfl⟩
  rintro ⟨⟨hheld, _⟩, _⟩
  cases hheld

end Implementation

end DeviceAndDisplay.PowerManager
