import DeviceAndDisplay.Verification.PowerManager.AckController
import DeviceAndDisplay.Verification.PowerManager.Equations

/-! # The steps of one thread

Every step other than a part of `SetPowerState` leaves all controllers as they are, up to
their pending sets and timers, or stops one running controller and calls its handler. -/

namespace DeviceAndDisplay.PowerManager

namespace AckController

variable {H : Type} {c c' : AckController H}

/-! ### Steps of a controller -/

/-- The controller neither starts nor stops. -/
structure Kept (c c' : AckController H) : Prop where
  powerState : c'.powerState = c.powerState
  transactionId : c'.transactionId = c.transactionId
  handler : c'.handler = c.handler
  running : c'.running = c.running
  pending : c'.pending ⊆ c.pending
  nonempty : c.running = true → c.pending ≠ ∅ → c'.pending ≠ ∅
  timerJob : c'.timerJob = none ↔ c.timerJob = none
  waiting : c.running = true → c'.dispatched = c.dispatched → c.Waiting → c'.Waiting

/-- A running controller stops. -/
structure Stopped (c c' : AckController H) : Prop where
  wasRunning : c.running = true
  running : c'.running = false
  powerState : c'.powerState = c.powerState
  transactionId : c'.transactionId = c.transactionId
  handler : c'.handler = c.handler
  timerJob : c'.timerJob = none ↔ c.timerJob = none
  dispatched : c'.dispatched ≤ c.dispatched

theorem Kept.refl (c : AckController H) : c.Kept c := by
  constructor <;> simp

theorem ack_last_stopped {clientId : ClientId} {transactionId : TransactionId}
    (h : c.IsLastAck clientId transactionId) :
    (c.ack clientId transactionId).2.2 = c.callHandler false false ∧
      c.Stopped (c.ack clientId transactionId).2.1 := by
  rw [ack_last h]
  refine ⟨rfl, ⟨h.1, rfl, rfl, rfl, rfl, ?_, ?_⟩⟩
  · simp [revokeTimerJob]
  · cases hj : c.timerJob <;> simp [revokeTimerJob, dispatched, hj]

theorem ack_not_last_kept {clientId : ClientId} {transactionId : TransactionId}
    (h : ¬ c.IsLastAck clientId transactionId) :
    (c.ack clientId transactionId).2.2 = none ∧ c.Kept (c.ack clientId transactionId).2.1 ∧
      (c.ack clientId transactionId).2.1.dispatched = c.dispatched := by
  obtain ⟨pending, hsub, heq, hne⟩ := ack_not_last h
  rw [heq]
  refine ⟨rfl, ⟨rfl, rfl, rfl, rfl, hsub, hne, Iff.rfl, ?_⟩, rfl⟩
  intro hr _ hw
  exact ⟨hne hr hw.pending, hw.timerJob, hw.handler⟩

theorem reschedule_kept (clientId : ClientId) (transactionId : TransactionId) (offset : ℤ)
    (now : Time) (c : AckController H) :
    c.Kept (c.reschedule clientId transactionId offset now).2 ∧
      (c.reschedule clientId transactionId offset now).2.dispatched = c.dispatched := by
  rcases reschedule_cases clientId transactionId offset now c with
    heq | ⟨hr, timeout, heq⟩ | ⟨hr, timeout, heq⟩ <;> rw [heq]
  · exact ⟨.refl c, rfl⟩
  · refine ⟨⟨rfl, rfl, rfl, rfl, subset_rfl, fun _ hp => hp, Iff.rfl, ?_⟩, rfl⟩
    intro ht
    exact absurd (hr.symm.trans ht) (by simp)
  · refine ⟨⟨rfl, rfl, rfl, rfl, subset_rfl, fun _ hp => hp, by simp, ?_⟩, ?_⟩
    · intro _ _ hw
      exact ⟨hw.pending, by simp [hw.timerJob], hw.handler⟩
    · cases hj : c.timerJob <;> simp [dispatched, hj]

theorem timerDispatch_kept (h : c.timerDispatch = some c') :
    c.Kept c' ∧ c'.dispatched = c.dispatched + 1 := by
  unfold timerDispatch at h
  split at h
  · rename_i deadline n hj
    cases h
    refine ⟨⟨rfl, rfl, rfl, rfl, subset_rfl, fun _ hp => hp, by simp [hj], ?_⟩,
      by simp [dispatched, hj]⟩
    intro _ hd
    simp [dispatched, hj] at hd
  · cases h

theorem timerRun_cases {handlerCall : Option (HandlerCall H)}
    (h : c.timerRun = some (c', handlerCall)) :
    c'.dispatched + 1 = c.dispatched ∧
      (c.running = false ∧ handlerCall = none ∧ c.Kept c' ∨
        handlerCall = c.callHandler true false ∧ c.Stopped c') := by
  unfold timerRun at h
  split at h
  · rename_i deadline n hj
    cases hr : c.running with
    | true =>
        simp only [hr, if_true, Option.some.injEq, Prod.mk.injEq] at h
        obtain ⟨rfl, rfl⟩ := h
        refine ⟨by simp [dispatched, hj], .inr ⟨rfl, ⟨hr, rfl, rfl, rfl, rfl, by simp [hj], ?_⟩⟩⟩
        simp [dispatched, hj]
    | false =>
        simp only [hr, Bool.false_eq_true, if_false, Option.some.injEq, Prod.mk.injEq] at h
        obtain ⟨rfl, rfl⟩ := h
        refine ⟨by simp [dispatched, hj],
          .inl ⟨rfl, rfl,
            ⟨rfl, rfl, rfl, by simp [hr], subset_rfl, fun _ hp => hp, by simp [hj], ?_⟩⟩⟩
        intro ht
        exact absurd (hr.symm.trans ht) (by simp)
  · cases h

end AckController

/-! ### Steps of the object -/

def LogEntry.isListener : LogEntry → Bool
  | .registered .. | .unregistered .. | .callback .. => true
  | _ => false

/-- The entries of listeners and of the deep-sleep threads, which belong to no request. -/
def LogEntry.isBackground : LogEntry → Bool
  | .platformSetDeepSleep .. | .deepSleepTimeout _ => true
  | e => e.isListener

theorem LogEntry.isBackground_of_isListener {e : LogEntry} (h : e.isListener = true) :
    e.isBackground = true := by
  cases e <;> first | rfl | cases h

namespace Implementation

variable {env : Env} {m m' : Implementation}

theorem isListener_of_mem_callbacks {kind : NotificationKind} {e : LogEntry}
    (he : e ∈ m.callbacks kind) : e.isListener = true := by
  simp only [callbacks, List.mem_reverse, List.mem_map] at he
  obtain ⟨s, _, rfl⟩ := he
  rfl

theorem isBackground_of_mem_callbacks {kind : NotificationKind} {e : LogEntry}
    (he : e ∈ m.callbacks kind) : e.isBackground = true :=
  LogEntry.isBackground_of_isListener (isListener_of_mem_callbacks he)

/-- The step leaves the stored state, the requests and the set of controllers alone. -/
structure Background (m m' : Implementation) : Prop where
  bootToStandby : m'.bootToStandby = m.bootToStandby
  powerController : m'.powerController = m.powerController
  nextTransactionId : m'.nextTransactionId = m.nextTransactionId
  selfLock : m'.selfLock = m.selfLock
  call : m'.call = m.call
  stay : m'.stay = m.stay
  stored : m.modeChangeController = none ∧ m'.modeChangeController = none ∨
    ∃ c c', m.modeChangeController = some c ∧ m'.modeChangeController = some c' ∧ c.Kept c'
  cancelled : ∀ c' ∈ m'.cancelledControllers, ∃ c ∈ m.cancelledControllers, c.Kept c'
  log : ∃ es, m'.log = es ++ m.log ∧ ∀ e ∈ es, e.isBackground = true

/-- A background step of a thread that is not putting the device to sleep. -/
structure Aside (m m' : Implementation) : Prop extends Background m m' where
  deepSleepController : m'.deepSleepController = m.deepSleepController
  listener : ∃ es, m'.log = es ++ m.log ∧ ∀ e ∈ es, e.isListener = true

theorem Aside.of_stored {c c' : PreModeChangeController}
    (hc : m.modeChangeController = some c) (hk : c.Kept c') {clients : List (ClientId × String)} :
    Aside m { m with modeChangeController := some c', modeChangeClients := clients } where
  bootToStandby := rfl
  powerController := rfl
  nextTransactionId := rfl
  selfLock := rfl
  call := rfl
  stay := rfl
  stored := .inr ⟨c, c', hc, rfl, hk⟩
  cancelled := fun c hc => ⟨c, hc, .refl c⟩
  log := ⟨[], rfl, by simp⟩
  deepSleepController := rfl
  listener := ⟨[], rfl, by simp⟩

/-- The stored controller is the same, and so is everything else a request depends on. -/
theorem Background.of_same (hb : m'.bootToStandby = m.bootToStandby)
    (hpc : m'.powerController = m.powerController)
    (hnext : m'.nextTransactionId = m.nextTransactionId) (hlock : m'.selfLock = m.selfLock)
    (hcall : m'.call = m.call) (hstay : m'.stay = m.stay)
    (hstored : m'.modeChangeController = m.modeChangeController)
    (hcancelled : ∀ c' ∈ m'.cancelledControllers, ∃ c ∈ m.cancelledControllers, c.Kept c')
    (es : List LogEntry) (hlog : m'.log = es ++ m.log) (hes : ∀ e ∈ es, e.isBackground = true) :
    Background m m' where
  bootToStandby := hb
  powerController := hpc
  nextTransactionId := hnext
  selfLock := hlock
  call := hcall
  stay := hstay
  stored := by
    cases hc : m.modeChangeController with
    | none => exact .inl ⟨rfl, hstored.trans hc⟩
    | some c => exact .inr ⟨c, c, rfl, hstored.trans hc, .refl c⟩
  cancelled := hcancelled
  log := ⟨es, hlog, hes⟩

theorem Background.powerState (hb : Background m m') : m'.powerState = m.powerState :=
  congrArg (fun pc => pc.settings.powerState) hb.powerController

theorem Background.stored_of_some (hb : Background m m') {c' : PreModeChangeController}
    (hc' : m'.modeChangeController = some c') :
    ∃ c, m.modeChangeController = some c ∧ c.Kept c' := by
  rcases hb.stored with ⟨_, hn⟩ | ⟨c, d, hc, hd, hk⟩
  · exact absurd (hn.symm.trans hc') (by simp)
  · rw [← Option.some.inj (hd.symm.trans hc')]
    exact ⟨c, hc, hk⟩

theorem Background.stored_of_some' (hb : Background m m') {c : PreModeChangeController}
    (hc : m.modeChangeController = some c) :
    ∃ c', m'.modeChangeController = some c' ∧ c.Kept c' := by
  rcases hb.stored with ⟨hn, _⟩ | ⟨d, c', hd, hc', hk⟩
  · exact absurd (hn.symm.trans hc) (by simp)
  · rw [← Option.some.inj (hd.symm.trans hc)]
    exact ⟨c', hc', hk⟩

/-- A running controller stops, and the handler it holds is called and not aborted. -/
inductive Completes (env : Env) (m : Implementation) :
    Bool → Option Completion → Implementation → Prop
  | stored {c c' : PreModeChangeController} {clients : List (ClientId × String)}
      {isTimedout : Bool} (hc : m.modeChangeController = some c) (hs : c.Stopped c') :
      Completes env m isTimedout c.handler
        ({ m with modeChangeController := some c', modeChangeClients := clients }.runHandler env
          (c.callHandler isTimedout false))
  | cancelled {c : PreModeChangeController} {cs : List PreModeChangeController}
      (hc : c ∈ m.cancelledControllers) (hr : c.running = true)
      (hcs : ∀ d' ∈ cs, ∃ d ∈ m.cancelledControllers, d.Kept d' ∨ d.Stopped d') :
      Completes env m true c.handler
        ({ m with cancelledControllers := cs }.runHandler env (c.callHandler true false))

theorem runHandler_callHandler {c : PreModeChangeController} {h : Completion}
    (hh : c.handler = some h) (isTimedout isRevoked : Bool) (m : Implementation) :
    m.runHandler env (c.callHandler isTimedout isRevoked) =
      m.completionHandler env h isTimedout isRevoked := by
  simp [runHandler, AckController.callHandler, hh]

/-! ### API calls -/

/-- A background step that does not touch timers either. -/
structure Quiet (m m' : Implementation) : Prop extends Aside m m' where
  cancelledControllers : m'.cancelledControllers = m.cancelledControllers
  dispatched : ∀ c c', m.modeChangeController = some c → m'.modeChangeController = some c' →
    c'.dispatched = c.dispatched

theorem Quiet.of_log {m' : Implementation} (es : List LogEntry)
    (hes : ∀ e ∈ es, e.isListener = true) {notifications : NotificationKind → NotificationList}
    {jobs : List PreChangeJob} {clients : List (ClientId × String)} {nextClientId : ClientId}
    (h : m' = { m with
      notifications := notifications
      preChangeJobs := jobs
      modeChangeClients := clients
      nextClientId := nextClientId
      log := es ++ m.log }) : Quiet m m' := by
  subst h
  have hback : ∀ e ∈ es, e.isBackground = true :=
    fun e he => LogEntry.isBackground_of_isListener (hes e he)
  refine ⟨⟨.of_same rfl rfl rfl rfl rfl rfl rfl (fun c hc => ⟨c, hc, .refl c⟩) _ rfl hback, rfl,
    es, rfl, hes⟩, rfl, ?_⟩
  intro c c' hc hc'
  rw [Option.some.inj (hc.symm.trans hc')]

theorem Quiet.of_stored {c c' : PreModeChangeController} (hc : m.modeChangeController = some c)
    (hk : c.Kept c') (hd : c'.dispatched = c.dispatched) {clients : List (ClientId × String)} :
    Quiet m { m with modeChangeController := some c', modeChangeClients := clients } := by
  refine ⟨.of_stored hc hk, rfl, ?_⟩
  intro d d' hd₀ hd'
  rw [← Option.some.inj hd', ← Option.some.inj (hc.symm.trans hd₀), hd]

/-- The handler that an acknowledgement of the stored controller calls. -/
def ackDue (m : Implementation) (clientId : ClientId) (transactionId : TransactionId) :
    Option Completion :=
  m.modeChangeController.bind fun c =>
    if c.IsLastAck clientId transactionId then c.handler else none

/-- The handler that an API call calls. -/
def apiDue (m : Implementation) : ApiAction → Option Completion
  | .powerModePreChangeComplete clientId transactionId => m.ackDue clientId transactionId
  | .removePowerModePreChangeClient clientId =>
      if m.modeChangeClients.any fun client => client.1 = clientId then
        m.modeChangeController.bind fun c =>
          if c.IsLastAck clientId c.transactionId then c.handler else none
      else none
  | _ => none

/-- An acknowledgement of the stored controller. -/
theorem ack_quiet_or_completes {c : PreModeChangeController} (hc : m.modeChangeController = some c)
    (clientId : ClientId) (transactionId : TransactionId) (clients : List (ClientId × String)) :
    let m' := { m with
      modeChangeController := some (c.ack clientId transactionId).2.1
      modeChangeClients := clients
    }.runHandler env (c.ack clientId transactionId).2.2
    let due := if c.IsLastAck clientId transactionId then c.handler else none
    Quiet m m' ∧ due = none ∨ Completes env m false due m' := by
  by_cases h : c.IsLastAck clientId transactionId
  · right
    obtain ⟨hcall, hs⟩ := AckController.ack_last_stopped h
    simp only [hcall, if_pos h]
    exact .stored hc hs
  · left
    obtain ⟨hn, hk, hd⟩ := AckController.ack_not_last_kept h
    simp only [hn, if_neg h]
    exact ⟨.of_stored hc hk hd, trivial⟩

theorem powerModePreChangeComplete_cases (clientId : ClientId) (transactionId : TransactionId) :
    let m' := (m.powerModePreChangeComplete env clientId transactionId).2
    Quiet m m' ∧ m.ackDue clientId transactionId = none ∨
      Completes env m false (m.ackDue clientId transactionId) m' := by
  cases hc : m.modeChangeController with
  | none =>
      left
      simp only [powerModePreChangeComplete, ackDue, hc]
      exact ⟨.of_log [] (by simp) rfl, rfl⟩
  | some c =>
      simp only [powerModePreChangeComplete, ackDue, hc, Option.bind_some]
      exact ack_quiet_or_completes hc clientId transactionId m.modeChangeClients

theorem removePowerModePreChangeClient_cases (clientId : ClientId) :
    let m' := (m.removePowerModePreChangeClient env clientId).2
    let due := m.apiDue (.removePowerModePreChangeClient clientId)
    Quiet m m' ∧ due = none ∨ Completes env m false due m' := by
  by_cases hany : (m.modeChangeClients.any fun client => client.1 = clientId) = true
  · simp only [removePowerModePreChangeClient, apiDue, if_pos hany]
    cases hc : m.modeChangeController with
    | none =>
        left
        exact ⟨.of_log [] (by simp) (by simp only [hc]; rfl), rfl⟩
    | some c =>
        simp only [Option.bind_some]
        exact ack_quiet_or_completes hc clientId c.transactionId _
  · left
    simp only [removePowerModePreChangeClient, apiDue, if_neg hany]
    exact ⟨.of_log [] (by simp) rfl, trivial⟩

theorem register_snd (kind : NotificationKind) (notification : Sink) (m : Implementation) :
    (m.register kind notification).2 = { m with
      notifications := Function.update m.notifications kind
        ((m.notifications kind).register notification).2
      log := (if ((m.notifications kind).register notification).1 = .errorNone then
        [.registered kind notification] else []) ++ m.log } := by
  simp only [register]
  split <;> rfl

theorem unregister_snd (kind : NotificationKind) (notification : Sink) (m : Implementation) :
    (m.unregister kind notification).2 = { m with
      notifications := Function.update m.notifications kind
        ((m.notifications kind).unregister notification).2
      log := (if ((m.notifications kind).unregister notification).1 = .errorNone then
        [.unregistered kind notification] else []) ++ m.log } := by
  simp only [unregister]
  split <;> rfl

/-- An API call is quiet, or it completes the transition of the stored controller. -/
theorem apiStep_cases {a : ApiAction} (h : m.apiStep env a = some m') :
    Quiet m m' ∧ m.apiDue a = none ∨ Completes env m false (m.apiDue a) m' := by
  cases a with
  | powerModePreChangeComplete clientId transactionId =>
      cases h
      exact powerModePreChangeComplete_cases clientId transactionId
  | delayPowerModeChangeBy clientId transactionId delayPeriod =>
      left
      cases h
      refine ⟨?_, rfl⟩
      cases hc : m.modeChangeController with
      | none =>
          simp only [delayPowerModeChangeBy, hc]
          exact .of_log [] (by simp) rfl
      | some c =>
          simp only [delayPowerModeChangeBy, hc]
          obtain ⟨hk, hd⟩ :=
            AckController.reschedule_kept clientId transactionId (delayPeriod * 1000) env.now c
          exact .of_stored hc hk hd
  | addPowerModePreChangeClient clientName =>
      left
      cases h
      refine ⟨?_, rfl⟩
      unfold addPowerModePreChangeClient
      split
      · exact .of_log [] (by simp) rfl
      · split
        · exact .of_log [] (by simp) rfl
        · exact .of_log [] (by simp) rfl
  | removePowerModePreChangeClient clientId =>
      cases h
      exact removePowerModePreChangeClient_cases clientId
  | register kind notification =>
      left
      cases h
      rw [register_snd]
      refine ⟨.of_log _ (fun e he => ?_) rfl, rfl⟩
      split at he
      · rw [List.mem_singleton.mp he]
        rfl
      · simp at he
  | unregister kind notification =>
      left
      cases h
      rw [unregister_snd]
      refine ⟨.of_log _ (fun e he => ?_) rfl, rfl⟩
      split at he
      · rw [List.mem_singleton.mp he]
        rfl
      · simp at he
  | preChangeJob i =>
      left
      obtain ⟨job, _, rfl⟩ := Option.map_eq_some_iff.mp h
      exact ⟨.of_log [.callback _ _ _] (by simp [LogEntry.isListener]) rfl, rfl⟩
  | event kind =>
      left
      simp only [apiStep] at h
      split at h
      · cases h
        rw [dispatchEvent_eq]
        exact ⟨.of_log _ (fun e he => isListener_of_mem_callbacks he) rfl, rfl⟩
      · cases h

/-! ### The deep-sleep threads -/

/-- What a step of a deep-sleep thread does to the controller. -/
inductive Works (env : Env) (c : DeepSleepController) :
    SleepAction → DeepSleepController → Prop
  | performActivate {i : ℕ} {job : ActivateJob} (hj : c.activateJobs[i]? = some job) :
      Works env c (.performActivate i)
        ({ c with activateJobs := c.activateJobs.eraseIdx i }.performActivate env job)
  | delayExpired {i : ℕ} {job : DelayJob} (hj : c.delayJobs[i]? = some job) :
      Works env c (.delayExpired i)
        ({ c with delayJobs := c.delayJobs.eraseIdx i }.enterDeepSleepDelayed job)
  | setDeepSleep {i n : ℕ} {e : Entry} (he : c.entries[i]? = some e)
      (hp : e.phase = .attempt n) :
      Works env c (.setDeepSleep i)
        { c with entries := c.entries.set i { e with phase := .sleepNow n } }
  | sleepReturned {i : ℕ} {e : Entry} {result : ErrorCode} {userWakeup : Bool}
      {state : DeepSleepState} {phase : EntryPhase} (he : c.entries[i]? = some e)
      (hr : DeepSleepController.returnPhase result userWakeup e.phase = some (state, phase)) :
      Works env c (.sleepReturned i result userWakeup)
        { c with
          deepSleepState := state
          entries := c.entries.set i { e with phase := phase } }
  | announce {i : ℕ} {e : Entry} (he : c.entries[i]? = some e) (hp : e.phase = .announce) :
      Works env c (.announce i)
        { c with entries := c.entries.set i { e with phase := .request .timer } }

/-- The stay of the activation for which a step calls `SetDeepSleep`. -/
def sleepCall (c : DeepSleepController) : SleepAction → Option ℕ
  | .delayExpired i => c.delayJobs[i]?.map (·.stay)
  | .setDeepSleep i => c.entries[i]?.map (·.stay)
  | _ => none

/-- The log entries of such a step, newest first. -/
def sleepLog (m : Implementation) : SleepAction → List LogEntry
  | .delayExpired i =>
      (m.deepSleepController.delayJobs[i]?.map fun job => .platformSetDeepSleep
        m.deepSleepController.deepSleepWakeupTimeoutSec false job.stay m.powerState m.stay).toList
  | .setDeepSleep i =>
      (m.deepSleepController.entries[i]?.map fun e => .platformSetDeepSleep
        m.deepSleepController.deepSleepWakeupTimeoutSec m.deepSleepController.nwStandbyMode
        e.stay m.powerState m.stay).toList
  | .announce _ =>
      m.callbacks .deepSleepTimeout ++
        [.deepSleepTimeout m.deepSleepController.deepSleepWakeupTimeoutSec]
  | .performActivate _ | .sleepReturned _ _ _ => []

/-- The deep-sleep threads change the deep-sleep controller and the log only. -/
theorem sleepStep_cases {a : SleepAction} (h : m.sleepStep env a = some m') :
    ∃ c, Works env m.deepSleepController a c ∧
      m' = { m with deepSleepController := c, log := m.sleepLog a ++ m.log } := by
  cases a with
  | performActivate i =>
      obtain ⟨job, hj, rfl⟩ := Option.map_eq_some_iff.mp h
      exact ⟨_, .performActivate hj, rfl⟩
  | delayExpired i =>
      obtain ⟨job, hj, rfl⟩ := Option.map_eq_some_iff.mp h
      refine ⟨_, .delayExpired hj, ?_⟩
      simp only [sleepLog, hj]
      rfl
  | setDeepSleep i =>
      simp only [sleepStep] at h
      split at h
      · rename_i e he
        split at h
        · rename_i n hp
          cases h
          refine ⟨_, .setDeepSleep he hp, ?_⟩
          simp only [sleepLog, he]
          rfl
        · cases h
      · cases h
  | sleepReturned i result userWakeup =>
      simp only [sleepStep] at h
      split at h
      · rename_i e he
        obtain ⟨⟨state, phase⟩, hr, rfl⟩ := Option.map_eq_some_iff.mp h
        exact ⟨_, .sleepReturned he hr, rfl⟩
      · cases h
  | announce i =>
      simp only [sleepStep] at h
      split at h
      · rename_i e he
        split at h
        · rename_i hp
          cases h
          refine ⟨_, .announce he hp, ?_⟩
          simp only [sleepLog, dispatchDeepSleepTimeoutEvent, dispatchEvent_eq, setEntries, emit,
            List.append_assoc, List.singleton_append]
          rfl
        · cases h
      · cases h

theorem sleepStep_works {a : SleepAction} (h : m.sleepStep env a = some m') :
    Works env m.deepSleepController a m'.deepSleepController := by
  obtain ⟨c, hw, rfl⟩ := sleepStep_cases h
  exact hw

theorem sleepStep_log {a : SleepAction} (h : m.sleepStep env a = some m') :
    m'.log = m.sleepLog a ++ m.log := by
  obtain ⟨c, _, rfl⟩ := sleepStep_cases h
  rfl

theorem mem_sleepLog {a : SleepAction} {e : LogEntry} (he : e ∈ m.sleepLog a) :
    e ∈ m.callbacks .deepSleepTimeout ∨ (∃ timeOut, e = .deepSleepTimeout timeOut) ∨
      ∃ timeOut nwStandbyMode stay, sleepCall m.deepSleepController a = some stay ∧
        e = .platformSetDeepSleep timeOut nwStandbyMode stay m.powerState m.stay := by
  cases a with
  | performActivate | sleepReturned => cases he
  | delayExpired i =>
      obtain ⟨job, hj, rfl⟩ := Option.map_eq_some_iff.mp (Option.mem_toList.mp he)
      exact .inr (.inr ⟨_, _, job.stay, by simp [sleepCall, hj], rfl⟩)
  | setDeepSleep i =>
      obtain ⟨d, hd, rfl⟩ := Option.map_eq_some_iff.mp (Option.mem_toList.mp he)
      exact .inr (.inr ⟨_, _, d.stay, by simp [sleepCall, hd], rfl⟩)
  | announce i =>
      rcases List.mem_append.mp he with he | he
      · exact .inl he
      · exact .inr (.inl ⟨_, List.mem_singleton.mp he⟩)

theorem isBackground_of_mem_sleepLog {a : SleepAction} {e : LogEntry}
    (he : e ∈ m.sleepLog a) : e.isBackground = true := by
  rcases mem_sleepLog he with he | ⟨_, rfl⟩ | ⟨_, _, _, _, rfl⟩
  · exact isBackground_of_mem_callbacks he
  · rfl
  · rfl

theorem sleepStep_background {a : SleepAction} (h : m.sleepStep env a = some m') :
    Background m m' := by
  obtain ⟨c, _, rfl⟩ := sleepStep_cases h
  exact .of_same rfl rfl rfl rfl rfl rfl rfl (fun c hc => ⟨c, hc, .refl c⟩) _ rfl
    fun e he => isBackground_of_mem_sleepLog he

/-! ### Timers -/

/-- The handler that a dispatched timer job of the controller calls. -/
def timerDue (c : PreModeChangeController) : Option Completion :=
  if c.running = true ∧ c.dispatched ≠ 0 then c.handler else none

theorem timerDispatch_aside (h : m.timerDispatch = some m') : Aside m m' := by
  obtain ⟨c', hc', rfl⟩ := Option.map_eq_some_iff.mp h
  obtain ⟨c, hc, hd⟩ := Option.bind_eq_some_iff.mp hc'
  exact .of_stored hc (AckController.timerDispatch_kept hd).1

theorem timerRun_cases (h : m.timerRun env = some m') :
    Aside m m' ∧ m.modeChangeController.bind timerDue = none ∨
      Completes env m true (m.modeChangeController.bind timerDue) m' := by
  obtain ⟨⟨c', handlerCall⟩, hc', rfl⟩ := Option.map_eq_some_iff.mp h
  obtain ⟨c, hc, hd⟩ := Option.bind_eq_some_iff.mp hc'
  rw [hc, Option.bind_some]
  obtain ⟨hcount, ⟨hr, rfl, hk⟩ | ⟨rfl, hs⟩⟩ := AckController.timerRun_cases hd
  · left
    exact ⟨.of_stored hc hk, by simp [timerDue, hr]⟩
  · right
    have hdue : timerDue c = c.handler := by
      rw [timerDue, if_pos ⟨hs.wasRunning, by omega⟩]
    rw [hdue]
    exact .stored hc hs

theorem mem_set_cases {cs : List PreModeChangeController} {i : ℕ} {c' d : PreModeChangeController}
    (hd : d ∈ cs.set i c') : d = c' ∨ d ∈ cs := by
  rcases List.mem_or_eq_of_mem_set hd with hd | hd
  · exact .inr hd
  · exact .inl hd

/-- The cancelled controllers that stay alive are what a step of one of them leaves. -/
theorem Aside.of_cancelled {cs : List PreModeChangeController}
    (hcs : ∀ d' ∈ cs, ∃ d ∈ m.cancelledControllers, d.Kept d') :
    Aside m { m with cancelledControllers := cs } :=
  ⟨.of_same rfl rfl rfl rfl rfl rfl rfl hcs [] rfl (by simp), rfl, [], rfl, by simp⟩

theorem cancelledDispatch_aside {i : ℕ} (h : m.cancelledDispatch i = some m') : Aside m m' := by
  obtain ⟨c', hc', rfl⟩ := Option.map_eq_some_iff.mp h
  obtain ⟨c, hc, hd⟩ := Option.bind_eq_some_iff.mp hc'
  refine .of_cancelled fun d hd' => ?_
  rcases mem_set_cases hd' with rfl | hd'
  · exact ⟨c, List.mem_of_getElem? hc, (AckController.timerDispatch_kept hd).1⟩
  · exact ⟨d, hd', .refl d⟩

theorem cancelledRun_cases {i : ℕ} (h : m.cancelledRun env i = some m') :
    Aside m m' ∧ m.cancelledControllers[i]?.bind timerDue = none ∨
      Completes env m true (m.cancelledControllers[i]?.bind timerDue) m' := by
  obtain ⟨⟨c', handlerCall⟩, hc', rfl⟩ := Option.map_eq_some_iff.mp h
  obtain ⟨c, hc, hd⟩ := Option.bind_eq_some_iff.mp hc'
  rw [hc, Option.bind_some]
  have hmem : c ∈ m.cancelledControllers := List.mem_of_getElem? hc
  have hrevoke : c'.running = false → c'.revoke = none := by
    intro hr
    simp [AckController.revoke, hr]
  obtain ⟨hcount, ⟨hr, rfl, hk⟩ | ⟨rfl, hs⟩⟩ := AckController.timerRun_cases hd
  · left
    refine ⟨?_, by simp [timerDue, hr]⟩
    simp only [hrevoke (hk.running.trans hr)]
    split
    · exact .of_cancelled fun d hd => ⟨d, List.mem_of_mem_eraseIdx hd, .refl d⟩
    · refine .of_cancelled fun d hd => ?_
      rcases mem_set_cases hd with rfl | hd
      · exact ⟨c, hmem, hk⟩
      · exact ⟨d, hd, .refl d⟩
  · right
    have hdue : timerDue c = c.handler := by
      rw [timerDue, if_pos ⟨hs.wasRunning, by omega⟩]
    rw [hdue]
    simp only [hrevoke hs.running]
    split
    · exact .cancelled hmem hs.wasRunning
        fun d hd => ⟨d, List.mem_of_mem_eraseIdx hd, .inl (.refl d)⟩
    · refine .cancelled hmem hs.wasRunning fun d hd => ?_
      rcases mem_set_cases hd with rfl | hd
      · exact ⟨c, hmem, .inr hs⟩
      · exact ⟨d, hd, .inl (.refl d)⟩

/-! ### Requests -/

theorem takeWakeup_eq {i : ℕ} {newState : PowerState} {origin : Origin}
    (h : m.takeWakeup i = some (newState, origin, m')) :
    ∃ e wakeup, m.deepSleepController.entries[i]? = some e ∧ e.phase = .request wakeup ∧
      newState = wakeup.newState m.bootToStandby ∧ origin = .wakeup e.stay ∧
      m' = m.setEntries (m.deepSleepController.entries.eraseIdx i) := by
  unfold takeWakeup at h
  split at h
  · rename_i e he
    split at h
    · rename_i wakeup hp
      cases h
      exact ⟨e, wakeup, he, hp, rfl, rfl, rfl⟩
    · cases h
  · cases h

/-- The log entries of the destruction of a controller by a request, newest first. -/
def resetLog (c : PreModeChangeController) : List LogEntry :=
  (if c.running then
    [.release c.transactionId, .completionHandler c.transactionId false true]
  else []) ++ [.cancelled c.transactionId]

/-- Without a dispatched timer job, `reset` destroys the controller and aborts its handler. -/
theorem resetController_destroyed {c : PreModeChangeController} (hd : c.dispatched = 0)
    (hh : c.running = true → c.timerJob ≠ none ∧
      ∃ h, c.handler = some h ∧ h.isSync = false ∧ h.transactionId = c.transactionId) :
    m.resetController env c =
      { m with modeChangeController := none, log := resetLog c ++ m.log } := by
  simp only [resetController, hd, if_true]
  cases hr : c.running with
  | true =>
      obtain ⟨hj, h, hhandler, hsync, htid⟩ := hh hr
      have hrevoke : c.revoke = c.callHandler false true := by
        simp [AckController.revoke, hr, Option.isSome_iff_ne_none.mpr hj]
      rw [hrevoke, runHandler_callHandler hhandler, completionHandler_aborted hsync]
      simp [resetLog, hr, htid, emit]
  | false =>
      have hrevoke : c.revoke = none := by simp [AckController.revoke, hr]
      simp [hrevoke, runHandler, resetLog, hr, emit]

theorem resetController_orphaned {c : PreModeChangeController} (hd : c.dispatched ≠ 0) :
    m.resetController env c =
      { m with
        modeChangeController := none
        cancelledControllers := m.cancelledControllers ++ [c]
        log := .cancelled c.transactionId :: m.log } := by
  simp only [resetController, hd, if_false]
  rfl

end Implementation

end DeviceAndDisplay.PowerManager
