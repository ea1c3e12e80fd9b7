import DeviceAndDisplay.Model.PowerManager.Interleaving
import Mathlib.Data.Finset.Dedup
import Mathlib.Data.Finset.Lattice.Lemmas

/-! # What the methods of PowerManagerImplementation change

The completion handler changes the stored state, the queue of activations, `selfLock` and the
log, and nothing else. The later modules use these equations and do not unfold it. -/

namespace DeviceAndDisplay.PowerManager.Implementation

variable {env : Env} {m m' : Implementation}

/-- The parts of the object that event dispatch and completion handlers leave alone. -/
structure Frame (m m' : Implementation) : Prop where
  bootToStandby : m'.bootToStandby = m.bootToStandby
  modeChangeController : m'.modeChangeController = m.modeChangeController
  cancelledControllers : m'.cancelledControllers = m.cancelledControllers
  modeChangeClients : m'.modeChangeClients = m.modeChangeClients
  nextClientId : m'.nextClientId = m.nextClientId
  nextTransactionId : m'.nextTransactionId = m.nextTransactionId
  call : m'.call = m.call
  notifications : m'.notifications = m.notifications
  preChangeJobs : m'.preChangeJobs = m.preChangeJobs
  deepSleep : m'.deepSleepController =
    { m.deepSleepController with activateJobs := m'.deepSleepController.activateJobs }

/-! ### Event dispatch -/

/-- The log entries of one event, newest first. -/
def callbacks (kind : NotificationKind) (m : Implementation) : List LogEntry :=
  ((m.notifications kind).sinks.map fun s => LogEntry.callback kind s (m.holds kind s)).reverse

theorem dispatchEvent_eq (kind : NotificationKind) (m : Implementation) :
    m.dispatchEvent kind = { m with log := m.callbacks kind ++ m.log } := by
  have fold : ∀ (sinks : List Sink) (log : List LogEntry),
      sinks.foldl (callback kind) { m with log := log } =
        { m with log :=
          (sinks.map fun s => LogEntry.callback kind s (m.holds kind s)).reverse ++ log } := by
    intro sinks
    induction sinks with
    | nil => simp
    | cons s sinks ih =>
        intro log
        have hs : ({ m with log := log } : Implementation).callback kind s =
            { m with log := .callback kind s (m.holds kind s) :: log } := rfl
        simp only [List.foldl_cons, hs, ih, List.map_cons, List.reverse_cons,
          List.append_assoc, List.singleton_append]
  exact fold (m.notifications kind).sinks m.log

/-! ### The completion handler -/

/-- The handler is not aborted and `PowerController::SetPowerState` accepts the state. -/
def Accepts (env : Env) (h : Completion) (isAborted : Bool) (m : Implementation) : Prop :=
  isAborted = false ∧ (m.powerController.setPowerState env h.newState).1 = .errorNone

instance (env : Env) (h : Completion) (isAborted : Bool) (m : Implementation) :
    Decidable (m.Accepts env h isAborted) := inferInstanceAs (Decidable (_ ∧ _))

theorem accepts_of_accepting (henv : PowerController.Accepting env) (h : Completion) :
    m.Accepts env h false :=
  ⟨rfl, (PowerController.setPowerState_of_accepting henv _ _).1⟩

/-- The log entries of `setDevicePowerState`, newest first. -/
def deviceLog (env : Env) (h : Completion) (m : Implementation) : List LogEntry :=
  (if m.Accepts env h false then
    m.callbacks .modeChanged ++ [.powerModeChanged h.transactionId h.currState h.newState]
  else []) ++
  .setPowerState h m.stay (m.powerController.setPowerState env h.newState).1 ::
  (if PowerController.ignores env h.newState then []
  else [.platformSetPowerState h.transactionId h.newState])

/-- The log entries of the completion handler, newest first. -/
def completionLog (env : Env) (h : Completion) (isTimedout isAborted : Bool)
    (m : Implementation) : List LogEntry :=
  (if h.isSync then [.selfUnlock] else []) ++
  .release h.transactionId ::
  ((if isAborted then [] else m.deviceLog env h) ++
  [.completionHandler h.transactionId isTimedout isAborted])

/-- The stay count after the completion handler. -/
def completionStay (env : Env) (h : Completion) (isAborted : Bool) (m : Implementation) : ℕ :=
  if m.Accepts env h isAborted ∧ m.powerState = .standbyDeepSleep ∧
      h.newState ≠ .standbyDeepSleep then
    m.stay + 1
  else m.stay

theorem storePowerState_eq (h : Completion) (m : Implementation) :
    m.storePowerState env h =
      ((m.powerController.setPowerState env h.newState).1,
        { m with
          powerController := (m.powerController.setPowerState env h.newState).2
          stay := if m.powerState = .standbyDeepSleep ∧
              (m.powerController.setPowerState env h.newState).2.settings.powerState ≠
                .standbyDeepSleep then m.stay + 1 else m.stay
          log := .setPowerState h m.stay (m.powerController.setPowerState env h.newState).1 ::
            ((if PowerController.ignores env h.newState then []
              else [.platformSetPowerState h.transactionId h.newState]) ++ m.log) }) := by
  unfold storePowerState
  by_cases hi : PowerController.ignores env h.newState = true <;> simp [hi, emit]

theorem setDevicePowerState_refused {h : Completion} (hr : ¬ m.Accepts env h false) :
    m.setDevicePowerState env h = { m with log := m.deviceLog env h ++ m.log } := by
  have hne : (m.powerController.setPowerState env h.newState).1 ≠ .errorNone :=
    fun he => hr ⟨rfl, he⟩
  have hpc : (m.powerController.setPowerState env h.newState).2 = m.powerController := by
    rcases PowerController.setPowerState_cases env h.newState m.powerController with hc | hc
    · exact absurd hc.1 hne
    · exact hc.2
  have hstay : ¬ (m.powerState = .standbyDeepSleep ∧
      m.powerController.settings.powerState ≠ .standbyDeepSleep) :=
    fun hc => hc.2 hc.1
  simp only [setDevicePowerState, storePowerState_eq, hpc, if_neg hstay, ne_eq, hne,
    not_false_eq_true, if_true, deviceLog, if_neg hr, List.nil_append, List.cons_append]

theorem setDevicePowerState_accepted {h : Completion} (ha : m.Accepts env h false) :
    m.setDevicePowerState env h =
      { m with
        powerController := (m.powerController.setPowerState env h.newState).2
        deepSleepController :=
          if h.newState = .standbyDeepSleep then
            m.deepSleepController.activate
              ((m.powerController.setPowerState env h.newState).2.deepSleepTimeout env)
              (m.powerController.setPowerState env h.newState).2.settings.nwStandbyMode
              (m.completionStay env h false)
          else m.deepSleepController
        stay := m.completionStay env h false
        log := m.deviceLog env h ++ m.log } := by
  have hs : (m.powerController.setPowerState env h.newState).2.settings.powerState =
      h.newState := by
    rcases PowerController.setPowerState_cases env h.newState m.powerController with hc | hc
    · exact hc.2
    · exact absurd ha.2 hc.1
  simp only [setDevicePowerState, storePowerState_eq, ha.2, ne_eq, not_true_eq_false, if_false,
    dispatchPowerModeChangedEvent, dispatchEvent_eq, emit, hs, activateDeepSleep,
    completionStay, deviceLog, true_and, ha, callbacks, holds]
  split <;> simp

/-- What the completion handler does to every field it changes. -/
structure CompletionEffect (env : Env) (h : Completion) (isTimedout isAborted : Bool)
    (m m' : Implementation) : Prop where
  frame : Frame m m'
  log : m'.log = m.completionLog env h isTimedout isAborted ++ m.log
  selfLock : m'.selfLock = if h.isSync then false else m.selfLock
  stay : m'.stay = m.completionStay env h isAborted
  refused : ¬ m.Accepts env h isAborted →
    m'.powerController = m.powerController ∧ m'.deepSleepController = m.deepSleepController
  accepted : m.Accepts env h isAborted → m'.powerState = h.newState
  activated : m.Accepts env h isAborted → h.newState = .standbyDeepSleep →
    ∃ timeOut nwStandbyMode, m'.deepSleepController.activateJobs =
      m.deepSleepController.activateJobs ++ [⟨timeOut, nwStandbyMode, m'.stay⟩]
  notActivated : h.newState ≠ .standbyDeepSleep →
    m'.deepSleepController = m.deepSleepController

theorem completionHandler_effect (env : Env) (h : Completion) (isTimedout isAborted : Bool)
    (m : Implementation) :
    CompletionEffect env h isTimedout isAborted m
      (m.completionHandler env h isTimedout isAborted) := by
  let m₁ := m.emit (.completionHandler h.transactionId isTimedout isAborted)
  cases isAborted with
  | true =>
      have hr : ¬ m.Accepts env h true := fun ha => by cases ha.1
      cases hs : h.isSync <;> constructor <;>
        simp [completionHandler, hs, emit, unlockSelf, completionLog, completionStay, hr]
      all_goals constructor <;> rfl
  | false =>
      have heq : m.completionHandler env h isTimedout false =
          if h.isSync then
            ((m₁.setDevicePowerState env h).emit (.release h.transactionId)).unlockSelf
          else (m₁.setDevicePowerState env h).emit (.release h.transactionId) := rfl
      have hlog : m₁.deviceLog env h = m.deviceLog env h := rfl
      by_cases ha : m.Accepts env h false
      · have ha₁ : m₁.Accepts env h false := ha
        have hstate : (m.powerController.setPowerState env h.newState).2.settings.powerState =
            h.newState := by
          rcases PowerController.setPowerState_cases env h.newState m.powerController with hc | hc
          · exact hc.2
          · exact absurd ha.2 hc.1
        rw [heq, setDevicePowerState_accepted ha₁]
        have hstay : m₁.completionStay env h false = m.completionStay env h false := rfl
        rw [hlog, hstay]
        cases hs : h.isSync <;> by_cases hd : h.newState = .standbyDeepSleep <;> constructor <;>
          simp [emit, unlockSelf, completionLog, hs, hd, ha, m₁, powerState,
            DeepSleepController.activate]
        all_goals first
          | exact hstate
          | exact hd ▸ hstate
          | constructor <;> rfl
      · have ha₁ : ¬ m₁.Accepts env h false := ha
        rw [heq, setDevicePowerState_refused ha₁]
        rw [hlog]
        cases hs : h.isSync <;> constructor <;>
          simp [emit, unlockSelf, completionLog, completionStay, hs, ha, m₁]
        all_goals constructor <;> rfl

theorem completionHandler_aborted {h : Completion} (hs : h.isSync = false) (isTimedout : Bool)
    (m : Implementation) :
    m.completionHandler env h isTimedout true =
      { m with log := .release h.transactionId ::
          .completionHandler h.transactionId isTimedout true :: m.log } := by
  simp [completionHandler, hs, emit]

/-! ### The first part of SetPowerState -/

/-- The request changes nothing: the device is in the state already, or still on its way into
deep sleep. -/
def Declines (env : Env) (newState : PowerState) (m : Implementation) : Prop :=
  m.powerState = newState ∨
    m.powerState = .standbyDeepSleep ∧ m.refusesRequest env.now = true

instance (env : Env) (newState : PowerState) (m : Implementation) :
    Decidable (m.Declines env newState) := inferInstanceAs (Decidable (_ ∨ _))

/-- The wake-up from deep sleep that `SetPowerState` performs before it looks at the controller. -/
def wake (m : Implementation) : Implementation :=
  if m.powerState = .standbyDeepSleep then
    { m with
      deepSleepController := m.deepSleepController.deactivate
      log := .platformDeepSleepWakeup :: m.log }
  else m

/-- The local variables of a request that was not declined. -/
def requestCall (newState : PowerState) (origin : Origin) (m : Implementation) : Call where
  phase := .checked
  currState := m.powerState
  newState := newState
  isSync := isSyncStateChange m.powerState newState
  origin := origin
  stay := m.stay

theorem returnFromCall_eq (newState : PowerState) (unlock : Bool) (m : Implementation) :
    m.returnFromCall newState unlock =
      { m with
        selfLock := if unlock then false else m.selfLock
        call := none
        log := .returned newState .errorNone ::
          ((if unlock then [.selfUnlock] else []) ++ m.log) } := by
  cases unlock <;> rfl

theorem enterSetPowerState_locked {newState : PowerState} {origin : Origin}
    (hl : m.selfLock = true) : m.enterSetPowerState env newState origin = none := by
  simp [enterSetPowerState, hl]

/-- Either the call returns at once, or it goes on to `_apiLock` with the device awake. -/
theorem enterSetPowerState_eq (newState : PowerState) (origin : Origin)
    (hl : m.selfLock = false) :
    m.enterSetPowerState env newState origin = some
      (if m.Declines env newState then
        { m with
          selfLock := false
          call := none
          log := .returned newState .errorNone :: .selfUnlock :: .selfLock :: m.log }
      else
        { m.lockSelf.wake with call := some (m.requestCall newState origin) }) := by
  have hcur : m.lockSelf.powerController.getPowerState.2.1 = m.powerState := rfl
  have href : m.lockSelf.refusesRequest env.now = m.refusesRequest env.now := rfl
  have hstate : m.lockSelf.powerState = m.powerState := rfl
  simp only [enterSetPowerState, hl, Bool.false_eq_true, if_false, hcur, href]
  by_cases hs : m.powerState = newState
  · rw [if_pos hs, if_pos (.inl hs), returnFromCall_eq]
    rfl
  · rw [if_neg hs]
    by_cases hd : m.powerState = .standbyDeepSleep
    · rw [if_pos hd]
      by_cases hr : m.refusesRequest env.now = true
      · rw [if_pos hr, if_pos (.inr ⟨hd, hr⟩), returnFromCall_eq]
        rfl
      · have hn : ¬ m.Declines env newState := fun h => h.elim hs fun h => hr h.2
        rw [if_neg hr, if_neg hn, wake, if_pos (hstate.trans hd)]
        rfl
    · have hn : ¬ m.Declines env newState := fun h => h.elim hs fun h => hd h.1
      rw [if_neg hd, if_neg hn, wake, if_neg (hstate ▸ hd)]
      rfl

/-! ### The part under `_apiLock` -/

/-- The controller a request installs, before it is scheduled. -/
def freshController (env : Env) (newState : PowerState) (m : Implementation) :
    PreModeChangeController :=
  m.modeChangeClients.foldl (fun c client => c.ackAwait client.1)
    (AckController.create newState (m.nextTransactionId + 1) env.now)

theorem foldl_ackAwait (clients : List (ClientId × String)) (c : PreModeChangeController) :
    clients.foldl (fun c client => c.ackAwait client.1) c =
      { c with pending := (clients.map Prod.fst).toFinset ∪ c.pending } := by
  induction clients generalizing c with
  | nil => simp
  | cons client clients ih =>
      rw [List.foldl_cons, ih]
      simp [AckController.ackAwait, Finset.insert_union]

theorem freshController_eq (env : Env) (newState : PowerState) (m : Implementation) :
    m.freshController env newState =
      { AckController.create newState (m.nextTransactionId + 1) env.now with
        pending := (m.modeChangeClients.map Prod.fst).toFinset } := by
  rw [freshController, foldl_ackAwait]
  simp [AckController.create]

@[simp] theorem freshController_transactionId (newState : PowerState) (m : Implementation) :
    (m.freshController env newState).transactionId = m.nextTransactionId + 1 := by
  rw [freshController_eq]
  rfl

@[simp] theorem freshController_powerState (newState : PowerState) (m : Implementation) :
    (m.freshController env newState).powerState = newState := by
  rw [freshController_eq]
  rfl

@[simp] theorem freshController_running (newState : PowerState) (m : Implementation) :
    (m.freshController env newState).running = false := by
  rw [freshController_eq]
  rfl

@[simp] theorem freshController_timerJob (newState : PowerState) (m : Implementation) :
    (m.freshController env newState).timerJob = none := by
  rw [freshController_eq]
  rfl

@[simp] theorem freshController_dispatched (newState : PowerState) (m : Implementation) :
    (m.freshController env newState).dispatched = 0 := by
  rw [AckController.dispatched, freshController_timerJob]
  rfl

theorem createController_eq (env : Env) (call : Call) (m : Implementation) :
    m.createController env call =
      { m with
        nextTransactionId := m.nextTransactionId + 1
        modeChangeController := some (m.freshController env call.newState)
        call := some { call with phase := .installed }
        log := .addRef (m.nextTransactionId + 1) :: m.log } := rfl

/-! ### The parts after `_apiLock` is released -/

section Advance

variable {call : Call} {c : PreModeChangeController}

theorem advance_checked (h : call.phase = .checked) :
    m.advance env call = m.installController env call := by
  unfold advance
  rw [h]

theorem advance_installed (h : call.phase = .installed) (hc : m.modeChangeController = some c) :
    m.advance env call =
      { m.submitPowerModePreChangeEvent call.currState call.newState c.transactionId call.timeOut
        with call := some { call with phase := .submitted } } := by
  unfold advance
  rw [h, hc]

theorem advance_submitted (h : call.phase = .submitted) (hc : m.modeChangeController = some c) :
    m.advance env call =
      if c.completesAtOnce (call.timeOut * 1000) then
        (m.completionHandler env (call.completion c) false false).returnFromCall
          call.newState (!call.isSync)
      else { m with call := some { call with phase := .tested } } := by
  unfold advance
  rw [h, hc]

theorem advance_tested (h : call.phase = .tested) (hc : m.modeChangeController = some c) :
    m.advance env call =
      { m with
        modeChangeController := some (c.arm (call.completion c))
        call := some { call with phase := .armed } } := by
  unfold advance
  rw [h, hc]

theorem advance_armed (h : call.phase = .armed) (hc : m.modeChangeController = some c) :
    m.advance env call =
      { m with
        modeChangeController := some (c.startTimer env.now (call.timeOut * 1000))
      }.returnFromCall call.newState (!call.isSync) := by
  unfold advance
  rw [h, hc]

theorem advance_no_controller (h : call.phase ≠ .checked) (hc : m.modeChangeController = none) :
    m.advance env call = m := by
  unfold advance
  rw [hc]
  cases hp : call.phase <;> simp_all

end Advance

/-- A request that does not complete at once waits for the clients for a second. -/
theorem isSync_of_not_completesAtOnce {call : Call} {c : PreModeChangeController}
    (h : ¬ c.completesAtOnce (call.timeOut * 1000)) : call.isSync = false := by
  cases hs : call.isSync with
  | false => rfl
  | true => exact absurd (.inr (by simp [Call.timeOut, hs])) h

/-! ### A whole SetPowerState call -/

theorem advanceCall_none (h : m.call = none) : m.advanceCall env = m := by
  unfold advanceCall
  rw [h]

theorem advanceCall_some {call : Call} (h : m.call = some call) :
    m.advanceCall env = m.advance env call := by
  unfold advanceCall
  rw [h]

@[simp] theorem returnFromCall_call (newState : PowerState) (unlock : Bool) (m : Implementation) :
    (m.returnFromCall newState unlock).call = none := rfl

@[simp] theorem returnFromCall_controller (newState : PowerState) (unlock : Bool)
    (m : Implementation) :
    (m.returnFromCall newState unlock).modeChangeController = m.modeChangeController := by
  rw [returnFromCall_eq]

@[simp] theorem returnFromCall_powerState (newState : PowerState) (unlock : Bool)
    (m : Implementation) : (m.returnFromCall newState unlock).powerState = m.powerState := by
  rw [returnFromCall_eq]
  rfl

@[simp] theorem advanceCall_returnFromCall (newState : PowerState) (unlock : Bool)
    (m : Implementation) :
    (m.returnFromCall newState unlock).advanceCall env = m.returnFromCall newState unlock :=
  advanceCall_none rfl

/-- A request that was not declined, about to take `_apiLock`. -/
def entered (newState : PowerState) (origin : Origin) (m : Implementation) : Implementation :=
  { m.lockSelf.wake with call := some (m.requestCall newState origin) }

/-- The object after the part under `_apiLock` of a request that installs a controller. -/
def installed (env : Env) (newState : PowerState) (origin : Origin) (m : Implementation) :
    Implementation :=
  match m.modeChangeController with
  | none => (m.entered newState origin).createController env (m.requestCall newState origin)
  | some c => ((m.entered newState origin).resetController env c).createController env
      (m.requestCall newState origin)

/-- The same after the submission of the notifications. -/
def prepared (env : Env) (newState : PowerState) (origin : Origin) (m : Implementation) :
    Implementation :=
  let call := m.requestCall newState origin
  let m' := m.installed env newState origin
  { m'.submitPowerModePreChangeEvent call.currState newState m'.nextTransactionId call.timeOut
    with call := some { call with phase := .submitted } }

/-- `Schedule` and the return of the call. -/
def scheduled (env : Env) (call : Call) (c : PreModeChangeController) (m : Implementation) :
    Implementation :=
  if c.completesAtOnce (call.timeOut * 1000) then
    (m.completionHandler env (call.completion c) false false).returnFromCall
      call.newState (!call.isSync)
  else
    { m with
      modeChangeController :=
        some ((c.arm (call.completion c)).startTimer env.now (call.timeOut * 1000))
    }.returnFromCall call.newState (!call.isSync)

/-- The log entry of the wake-up. -/
def wakeLog (m : Implementation) : List LogEntry :=
  if m.powerState = .standbyDeepSleep then [.platformDeepSleepWakeup] else []

theorem entered_eq (newState : PowerState) (origin : Origin) (m : Implementation) :
    m.entered newState origin = { m with
      selfLock := true
      deepSleepController :=
        if m.powerState = .standbyDeepSleep then m.deepSleepController.deactivate
        else m.deepSleepController
      call := some (m.requestCall newState origin)
      log := m.wakeLog ++ .selfLock :: m.log } := by
  by_cases hd : m.powerState = .standbyDeepSleep
  · have hl : m.lockSelf.powerState = .standbyDeepSleep := hd
    simp only [entered, wake, wakeLog, if_pos hl, if_pos hd]
    rfl
  · have hl : ¬ m.lockSelf.powerState = .standbyDeepSleep := hd
    simp only [entered, wake, wakeLog, if_neg hl, if_neg hd]
    rfl

/-- A call that takes `selfLock` either returns at once or goes on to `_apiLock`. -/
theorem enterSetPowerState_cases {newState : PowerState} {origin : Origin}
    (h : m.enterSetPowerState env newState origin = some m') :
    m.selfLock = false ∧
      (m.Declines env newState ∧ m' = { m with
          selfLock := false
          call := none
          log := .returned newState .errorNone :: .selfUnlock :: .selfLock :: m.log } ∨
        ¬ m.Declines env newState ∧ m' = m.entered newState origin) := by
  cases hl : m.selfLock with
  | true =>
      rw [enterSetPowerState_locked hl] at h
      cases h
  | false =>
      rw [enterSetPowerState_eq newState origin hl] at h
      refine ⟨rfl, ?_⟩
      split at h
      · rename_i hd
        exact .inl ⟨hd, (Option.some.inj h).symm⟩
      · rename_i hd
        exact .inr ⟨hd, (Option.some.inj h).symm⟩

theorem entered_controller (newState : PowerState) (origin : Origin) (m : Implementation) :
    (m.entered newState origin).modeChangeController = m.modeChangeController := by
  rw [entered_eq]

theorem setPowerState_declined {newState : PowerState} {origin : Origin}
    (hl : m.selfLock = false) (hd : m.Declines env newState) :
    m.setPowerState env newState origin = some
      { m with
        selfLock := false
        call := none
        log := .returned newState .errorNone :: .selfUnlock :: .selfLock :: m.log } := by
  rw [setPowerState, enterSetPowerState_eq newState origin hl, if_pos hd]
  rfl

theorem setPowerState_redundant {newState : PowerState} {origin : Origin}
    {c : PreModeChangeController} (hl : m.selfLock = false) (hd : ¬ m.Declines env newState)
    (hc : m.modeChangeController = some c) (hs : c.powerState = newState) :
    m.setPowerState env newState origin =
      some ((m.entered newState origin).returnFromCall newState true) := by
  have hadv : (m.entered newState origin).advanceCall env =
      (m.entered newState origin).returnFromCall newState true := by
    rw [advanceCall_some rfl, advance_checked rfl, installController, entered_controller, hc]
    simp [requestCall, hs]
  rw [setPowerState, enterSetPowerState_eq newState origin hl, if_neg hd, Option.map_some]
  change some (advanceCall env (advanceCall env (advanceCall env (advanceCall env
    (advanceCall env (m.entered newState origin)))))) = _
  simp only [hadv, advanceCall_returnFromCall]

theorem installController_entered {newState : PowerState} {origin : Origin}
    (hc : ∀ c, m.modeChangeController = some c → c.powerState ≠ newState) :
    (m.entered newState origin).installController env (m.requestCall newState origin) =
      m.installed env newState origin := by
  rw [installController, entered_controller, installed]
  cases hmc : m.modeChangeController with
  | none => rfl
  | some c => simp [requestCall, hc c hmc]

theorem setPowerState_started {newState : PowerState} (origin : Origin)
    (hl : m.selfLock = false) (hd : ¬ m.Declines env newState)
    (hc : ∀ c, m.modeChangeController = some c → c.powerState ≠ newState) :
    ∃ c, (m.prepared env newState origin).modeChangeController = some c ∧
      m.setPowerState env newState origin = some
        (scheduled env (m.requestCall newState origin) c (m.prepared env newState origin)) := by
  let call := m.requestCall newState origin
  have hinstall :
      (m.entered newState origin).advanceCall env = m.installed env newState origin := by
    rw [advanceCall_some rfl, advance_checked rfl]
    exact installController_entered hc
  obtain ⟨c, hcon, hcall, htid⟩ : ∃ c,
      (m.installed env newState origin).modeChangeController = some c ∧
      (m.installed env newState origin).call = some { call with phase := .installed } ∧
      c.transactionId = (m.installed env newState origin).nextTransactionId := by
    unfold installed
    split
    all_goals
      rw [createController_eq]
      exact ⟨_, rfl, rfl, by rw [freshController_eq]; rfl⟩
  have hsubmit : (m.installed env newState origin).advanceCall env =
      m.prepared env newState origin := by
    rw [advanceCall_some hcall, advance_installed rfl hcon, htid]
    rfl
  have hprep : (m.prepared env newState origin).modeChangeController = some c := hcon
  refine ⟨c, hprep, ?_⟩
  rw [setPowerState, enterSetPowerState_eq newState origin hl, if_neg hd, Option.map_some]
  change some (advanceCall env (advanceCall env (advanceCall env (advanceCall env
    (advanceCall env (m.entered newState origin)))))) = _
  have hsched : advanceCall env (m.prepared env newState origin) =
      if c.completesAtOnce (call.timeOut * 1000) then
        ((m.prepared env newState origin).completionHandler env (call.completion c) false
          false).returnFromCall call.newState (!call.isSync)
      else { m.prepared env newState origin with call := some { call with phase := .tested } } := by
    rw [advanceCall_some (m := m.prepared env newState origin) rfl, advance_submitted rfl hprep]
    rfl
  rw [hinstall, hsubmit, hsched, scheduled]
  by_cases hat : c.completesAtOnce (call.timeOut * 1000)
  · rw [if_pos hat, if_pos hat]
    simp only [advanceCall_returnFromCall]
    rfl
  · let tested : Implementation :=
      { m.prepared env newState origin with call := some { call with phase := .tested } }
    let armed : Implementation := { tested with
      modeChangeController := some (c.arm (call.completion c))
      call := some { call with phase := .armed } }
    have hstored : tested.modeChangeController = some c := hprep
    have htested : advanceCall env tested = armed := by
      rw [advanceCall_some rfl, advance_tested rfl hstored]
      rfl
    have harmed : advanceCall env armed = { armed with
        modeChangeController := some ((c.arm (call.completion c)).startTimer env.now
          (call.timeOut * 1000)) }.returnFromCall call.newState (!call.isSync) := by
      rw [advanceCall_some rfl, advance_armed (c := c.arm (call.completion c)) rfl rfl]
      rfl
    rw [if_neg hat, if_neg hat]
    change some (advanceCall env (advanceCall env tested)) = _
    rw [htested, harmed, returnFromCall_eq, returnFromCall_eq]

end DeviceAndDisplay.PowerManager.Implementation
