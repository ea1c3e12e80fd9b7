import DeviceAndDisplay.Verification.PowerManager.Coherent

/-! # The log

What each step adds to it: the entries of calls and listeners, of the deep-sleep threads, of one
completion, or of the installation of a controller. -/

namespace DeviceAndDisplay.PowerManager

/-! ### What a step adds to the log -/

/-- The entries of calls and listeners that belong to no transition. -/
def LogEntry.isNeutral : LogEntry → Bool
  | .selfLock | .selfUnlock | .platformDeepSleepWakeup | .returned .. => true
  | e => e.isListener

theorem LogEntry.isNeutral_of_isListener {e : LogEntry} (h : e.isListener = true) :
    e.isNeutral = true := by
  cases e <;> first | rfl | exact h

namespace Implementation

open Transition

variable {env : Env} {m m' : Implementation}

theorem mem_completionLog {h : Completion} {isTimedout isAborted : Bool} {e : LogEntry}
    (he : e ∈ m.completionLog env h isTimedout isAborted) :
    e.isNeutral = true ∨ e = .release h.transactionId ∨
      e = .completionHandler h.transactionId isTimedout isAborted ∨
      e = .powerModeChanged h.transactionId h.currState h.newState ∨
      e = .setPowerState h m.stay (m.powerController.setPowerState env h.newState).1 ∨
      e = .platformSetPowerState h.transactionId h.newState := by
  simp only [completionLog, deviceLog, List.mem_append, List.mem_cons, List.not_mem_nil,
    or_false] at he
  rcases he with he | rfl | he | he
  · split at he
    · rw [List.mem_singleton.mp he]
      exact .inl rfl
    · simp at he
  · exact .inr (.inl rfl)
  · split at he
    · simp at he
    · simp only [List.mem_append, List.mem_cons] at he
      rcases he with he | rfl | he
      · split at he
        · rcases List.mem_append.mp he with he | he
          · exact .inl (LogEntry.isNeutral_of_isListener (isListener_of_mem_callbacks he))
          · rw [List.mem_singleton.mp he]
            simp
        · simp at he
      · simp
      · split at he
        · simp at he
        · rw [List.mem_singleton.mp he]
          simp
  · simp [he]

/-- A step runs the handler `h` of the controller `c` without aborting it. -/
structure Runs (env : Env) (m m' : Implementation) (c : PreModeChangeController) (h : Completion)
    (isTimedout : Bool) (m₀ : Implementation) : Prop where
  known : m.modeChangeController = some c ∨ c ∈ m.cancelledControllers ∧ c.running = true
  transactionId : h.transactionId = c.transactionId
  same : m₀ = { m with
    modeChangeController := m₀.modeChangeController
    modeChangeClients := m₀.modeChangeClients
    cancelledControllers := m₀.cancelledControllers }
  log : ∃ es, m'.log = es ++ (m₀.completionLog env h isTimedout false ++ m.log) ∧
    ∀ e ∈ es, e.isNeutral = true
  nextTransactionId : m'.nextTransactionId = m.nextTransactionId

/-- A step installs the controller of a request. -/
structure InstallsNew (m m' : Implementation) (call : Call) (log : List LogEntry)
    (cs : List PreModeChangeController) : Prop where
  current : m.call = some call
  phase : call.phase = .checked
  reset : Reset m call.newState log cs
  log : m'.log = .addRef (m.nextTransactionId + 1) :: (log ++ m.log)
  nextTransactionId : m'.nextTransactionId = m.nextTransactionId + 1
  cancelledControllers : m'.cancelledControllers = cs

theorem enter_log {newState : PowerState} {origin : Origin}
    (h : m.enterSetPowerState env newState origin = some m') :
    (∃ es, m'.log = es ++ m.log ∧ ∀ e ∈ es, e.isNeutral = true) ∧
      m'.nextTransactionId = m.nextTransactionId := by
  obtain ⟨_, ⟨_, rfl⟩ | ⟨_, rfl⟩⟩ := enterSetPowerState_cases h
  · exact ⟨⟨[.returned newState .errorNone, .selfUnlock, .selfLock], rfl, by
      simp [LogEntry.isNeutral]⟩, rfl⟩
  · rw [entered_eq]
    refine ⟨⟨m.wakeLog ++ [.selfLock], by simp, ?_⟩, rfl⟩
    intro e he
    rcases List.mem_append.mp he with he | he
    · unfold wakeLog at he
      split at he
      · rw [List.mem_singleton.mp he]
        rfl
      · simp at he
    · rw [List.mem_singleton.mp he]
      rfl

theorem Advances.log {call : Call} {due : Option Completion}
    (hcall : m.call = some call) (h : Advances env m call due m') :
    (due = none ∧ m'.nextTransactionId = m.nextTransactionId ∧
      ∃ es, m'.log = es ++ m.log ∧ ∀ e ∈ es, e.isNeutral = true) ∨
    (∃ c h isTimedout m₀, Runs env m m' c h isTimedout m₀ ∧ due = some h) ∨
    (due = none ∧ ∃ log cs, InstallsNew m m' call log cs) := by
  cases h with
  | redundant hp hc hs | starts hp hc hat hsync =>
      left
      rw [returnFromCall_eq]
      exact ⟨rfl, rfl, [.returned call.newState .errorNone, .selfUnlock], rfl,
        by simp [LogEntry.isNeutral]⟩
  | @installs log cs hp hr =>
      right; right
      exact ⟨rfl, log, cs, hcall, hp, hr, rfl, rfl, rfl⟩
  | submits | tests | arms =>
      left
      exact ⟨rfl, rfl, [], rfl, by simp⟩
  | @completes c hp hc hat hnow =>
      right; left
      have he := completionHandler_effect env (call.completion c) false false m
      refine ⟨c, call.completion c, false, m, ⟨.inl hc, rfl, rfl, ?_, ?_⟩, rfl⟩
      · rw [returnFromCall_eq, he.log]
        refine ⟨.returned call.newState .errorNone ::
          (if (!call.isSync) = true then [.selfUnlock] else []), rfl, ?_⟩
        intro e he
        rcases List.mem_cons.mp he with rfl | he
        · rfl
        · split at he
          · rw [List.mem_singleton.mp he]
            rfl
          · simp at he
      · rw [returnFromCall_eq]
        exact he.frame.nextTransactionId

theorem Ends.runs (hm : m.Coherent) {c : PreModeChangeController} {h : Completion}
    {isTimedout : Bool} {m₀ : Implementation} (he : Ends env m m' c h isTimedout m₀) :
    Runs env m m' c h isTimedout m₀ where
  known := he.known.imp And.left fun hc => ⟨hc.1, he.running⟩
  transactionId := (he.sound hm).1
  same := he.same
  log := by
    refine ⟨[], ?_, by simp⟩
    rw [he.effect.log, he.same]
    rfl
  nextTransactionId := by
    rw [he.effect.frame.nextTransactionId, he.same]

theorem mem_reset {newState : PowerState} {log : List LogEntry}
    {cs : List PreModeChangeController} (hm : m.Coherent) (hr : Reset m newState log cs)
    {e : LogEntry} (he : e ∈ log) :
    e = .release m.nextTransactionId ∨ e = .completionHandler m.nextTransactionId false true ∨
      e = .cancelled m.nextTransactionId := by
  cases hr with
  | nothing _ => simp at he
  | @destroyed c hc _ _ =>
      rw [← hm.transactionId c hc]
      unfold resetLog at he
      split at he
      · simpa [or_assoc] using he
      · exact .inr (.inr (List.mem_singleton.mp he))
  | @orphaned c hc _ _ =>
      rw [← hm.transactionId c hc]
      exact .inr (.inr (List.mem_singleton.mp he))

/-- A step adds neutral entries, or those of a deep-sleep thread, of a completion, or of an
installation. -/
theorem step_log {a : Env × Action} (hm : m.Coherent) (h : step m a = some m') :
    (m.dueCompletion a.2 = none ∧ m'.nextTransactionId = m.nextTransactionId ∧
      ∃ es, m'.log = es ++ m.log ∧ ∀ e ∈ es, e.isNeutral = true) ∨
    (∃ sleep, a.2 = .sleep sleep ∧ m.sleepStep a.1 sleep = some m') ∨
    (∃ c h isTimedout m₀, Runs a.1 m m' c h isTimedout m₀ ∧ m.dueCompletion a.2 = some h) ∨
    (m.dueCompletion a.2 = none ∧
      ∃ call log cs, a.2 = .advance ∧ InstallsNew m m' call log cs) := by
  obtain ⟨env, a⟩ := a
  rcases step_cases hm h with
    ⟨s, origin, m₀, henter, h⟩ | ⟨call, ha, hcall, hadv⟩ | ⟨hb, hdue⟩ | hs |
      ⟨c, hc, t, m₀, he, hdue⟩
  · left
    have hdue : m.dueCompletion a = none := by
      cases a <;> first | rfl | cases henter
    obtain ⟨entries, rfl⟩ := entering_eq henter
    obtain ⟨⟨es, hlog, hes⟩, hnext⟩ := enter_log h
    exact ⟨hdue, hnext, es, hlog, hes⟩
  · rcases hadv.log hcall with hl | hr | ⟨hdue, log, cs, hi⟩
    · exact .inl hl
    · exact .inr (.inr (.inl hr))
    · exact .inr (.inr (.inr ⟨hdue, call, log, cs, ha, hi⟩))
  · left
    obtain ⟨es, hlog, hes⟩ := hb.listener
    exact ⟨hdue, hb.nextTransactionId, es, hlog,
      fun e he => LogEntry.isNeutral_of_isListener (hes e he)⟩
  · exact .inr (.inl hs)
  · exact .inr (.inr (.inl ⟨c, hc, t, m₀, he.runs hm, hdue⟩))

end Implementation

end DeviceAndDisplay.PowerManager
