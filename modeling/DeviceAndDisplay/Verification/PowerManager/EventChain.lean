import DeviceAndDisplay.Verification.PowerManager.Atomic
import DeviceAndDisplay.Verification.PowerManager.Log
import Mathlib.Data.List.Chain

/-! # The chain of power-mode-changed events

Between calls the state that a running controller captured is the stored one, so every event
starts where the previous one ended, and `GetPowerState` agrees with the last event. -/

namespace DeviceAndDisplay.PowerManager

/-- Every change starts where the one before it ended, the first one at `start`, and none stays
where it is. -/
structure EventChain {σ : Type*} (start : σ) (events : List (σ × σ)) : Prop where
  first : ∀ e, events.head? = some e → e.1 = start
  linked : events.IsChain fun e next => next.1 = e.2
  changes : ∀ e ∈ events, e.1 ≠ e.2

namespace EventChain

variable {σ : Type*} {start : σ} {events : List (σ × σ)}

theorem nil : EventChain start [] := ⟨by simp, .nil, by simp⟩

/-- The chain goes on from the state it has reached. -/
theorem concat (h : EventChain start events) {e : σ × σ} (hne : e.1 ≠ e.2)
    (hlast : ∀ x, events.getLast? = some x → e.1 = x.2) (hfirst : events = [] → e.1 = start) :
    EventChain start (events ++ [e]) where
  first := by
    intro x hx
    cases events with
    | nil =>
        cases hx
        exact hfirst rfl
    | cons y ys =>
        cases hx
        exact h.first _ rfl
  linked := by
    refine List.isChain_append.mpr ⟨h.linked, .singleton e, ?_⟩
    intro x hx y hy
    cases hy
    exact hlast x hx
  changes := by
    intro x hx
    rcases List.mem_append.mp hx with hx | hx
    · exact h.changes x hx
    · rw [List.mem_singleton.mp hx]
      exact hne

end EventChain

/-- The states of a dispatched `OnPowerModeChanged` event. -/
def LogEntry.modeChange : LogEntry → Option (PowerState × PowerState)
  | .powerModeChanged _ prevState newState => some (prevState, newState)
  | _ => none

/-- The entries that tell how a transition ended. -/
def LogEntry.isOutcome : LogEntry → Bool
  | .setPowerState .. | .powerModeChanged .. => true
  | _ => false

theorem LogEntry.not_isOutcome_of_isBackground {e : LogEntry} (h : e.isBackground = true) :
    e.isOutcome = false := by
  cases e <;> first | rfl | cases h

theorem filterMap_modeChange_eq_nil {es : List LogEntry}
    (hes : ∀ e ∈ es, e.isOutcome = false) : es.filterMap LogEntry.modeChange = [] := by
  refine List.filterMap_eq_nil_iff.mpr fun e he => ?_
  have h := hes e he
  cases e <;> first | rfl | cases h

namespace Implementation

open Transition

variable {env : Env} {m m' : Implementation}

/-- The dispatched `OnPowerModeChanged` events, oldest first. -/
def modeChanges (m : Implementation) : List (PowerState × PowerState) :=
  (m.log.filterMap LogEntry.modeChange).reverse

theorem modeChanges_of_log {es : List LogEntry} (hlog : m'.log = es ++ m.log) :
    m'.modeChanges = m.modeChanges ++ (es.filterMap LogEntry.modeChange).reverse := by
  rw [modeChanges, hlog, List.filterMap_append, List.reverse_append]
  rfl

/-! ### One completion -/

theorem completionHandler_powerController (env : Env) (h : Completion) (isTimedout : Bool)
    (m : Implementation) :
    (m.completionHandler env h isTimedout false).powerController =
      (m.powerController.setPowerState env h.newState).2 := by
  let m₁ := m.emit (.completionHandler h.transactionId isTimedout false)
  have hdevice : (m.completionHandler env h isTimedout false).powerController =
      (m₁.setDevicePowerState env h).powerController := by
    cases hs : h.isSync <;> simp [completionHandler, hs, emit, unlockSelf, m₁]
  rw [hdevice]
  by_cases ha : m₁.Accepts env h false
  · rw [setDevicePowerState_accepted ha]
    rfl
  · rw [setDevicePowerState_refused ha]
    rcases PowerController.setPowerState_cases env h.newState m.powerController with hc | hc
    · exact absurd ⟨rfl, hc.1⟩ ha
    · exact hc.2.symm

theorem modeChange_completionLog (h : Completion) (isTimedout : Bool) :
    (m.completionLog env h isTimedout false).filterMap LogEntry.modeChange =
      if m.Accepts env h false then [(h.currState, h.newState)] else [] := by
  have hunlock : (if h.isSync then [LogEntry.selfUnlock] else []).filterMap LogEntry.modeChange =
      [] := by
    split <;> rfl
  have hcalls : (m.callbacks .modeChanged).filterMap LogEntry.modeChange = [] :=
    filterMap_modeChange_eq_nil fun e he =>
      LogEntry.not_isOutcome_of_isBackground (isBackground_of_mem_callbacks he)
  have hplatform : (if PowerController.ignores env h.newState then []
      else [LogEntry.platformSetPowerState h.transactionId h.newState]).filterMap
        LogEntry.modeChange = [] := by
    split <;> rfl
  have hdevice : (m.deviceLog env h).filterMap LogEntry.modeChange =
      if m.Accepts env h false then [(h.currState, h.newState)] else [] := by
    rw [deviceLog, List.filterMap_append, List.filterMap_cons, hplatform]
    by_cases ha : m.Accepts env h false
    · rw [if_pos ha, if_pos ha, List.filterMap_append, hcalls]
      rfl
    · rw [if_neg ha, if_neg ha]
      rfl
  rw [completionLog, List.filterMap_append, hunlock, List.filterMap_cons, List.filterMap_append]
  simp only [Bool.false_eq_true, if_false, hdevice]
  exact List.append_nil _

/-- The step ends the transition of the completion `h` out of the stored state. -/
structure Concludes (env : Env) (h : Completion) (m m' : Implementation) : Prop where
  currState : h.currState = m.powerState
  changes : h.newState ≠ m.powerState
  powerController : m'.powerController = (m.powerController.setPowerState env h.newState).2
  log : ∃ (es es' : List LogEntry) (m₀ : Implementation) (isTimedout : Bool),
    m₀.powerController = m.powerController ∧
    m'.log = (es ++ (m₀.completionLog env h isTimedout false ++ es')) ++ m.log ∧
    (∀ e ∈ es, e.isOutcome = false) ∧ ∀ e ∈ es', e.isOutcome = false

/-- The step ends no transition. -/
structure Stays (m m' : Implementation) : Prop where
  powerController : m'.powerController = m.powerController
  log : ∃ es, m'.log = es ++ m.log ∧ ∀ e ∈ es, e.isOutcome = false

theorem not_isOutcome_of_mem_wakeLog {e : LogEntry} (he : e ∈ m.wakeLog) :
    e.isOutcome = false := by
  unfold wakeLog at he
  split at he
  · rw [List.mem_singleton.mp he]
    rfl
  · simp at he

theorem not_isOutcome_of_mem_preparedLog {e : LogEntry} (he : e ∈ m.preparedLog) :
    e.isOutcome = false := by
  rcases List.mem_cons.mp he with rfl | he
  · rfl
  · rcases List.mem_append.mp he with he | he
    · cases hc : m.modeChangeController with
      | none => simp [hc] at he
      | some c =>
          simp only [hc, Option.map_some, Option.getD_some, resetLog] at he
          cases hr : c.running <;> simp [hr] at he
          · rw [he]
            rfl
          · rcases he with rfl | rfl | rfl <;> rfl
    · rcases List.mem_append.mp he with he | he
      · exact not_isOutcome_of_mem_wakeLog he
      · rw [List.mem_singleton.mp he]
        rfl

theorem Completes.concludes (hs : m.Settled) {isTimedout : Bool} {due : Option Completion}
    (hc : Completes env m isTimedout due m') : ∃ h, Concludes env h m m' := by
  cases hc with
  | @stored c c' clients isTimedout hc hst =>
      obtain ⟨_, h, hh, hsv⟩ := hs.running c hc hst.wasRunning
      let m₀ : Implementation :=
        { m with modeChangeController := some c', modeChangeClients := clients }
      have he := completionHandler_effect env h isTimedout false m₀
      refine ⟨h, hsv.currState, hsv.changes, ?_, [], [], m₀, isTimedout, rfl, ?_, by simp, by simp⟩
      · rw [runHandler_callHandler hh]
        exact completionHandler_powerController env h isTimedout m₀
      · rw [runHandler_callHandler hh, List.nil_append, List.append_nil]
        exact he.log
  | cancelled hc =>
      rw [hs.cancelledControllers] at hc
      simp at hc

theorem Requested.stays_or_concludes (hs : m.Settled) {newState : PowerState} {origin : Origin}
    (h : Requested env newState origin m m') : Stays m m' ∨ ∃ h, Concludes env h m m' := by
  cases h with
  | declined _ =>
      left
      exact ⟨rfl, [.returned newState .errorNone, .selfUnlock, .selfLock], rfl, by
        simp [LogEntry.isOutcome]⟩
  | redundant _ _ _ =>
      left
      rw [entered_eq, returnFromCall_eq]
      refine ⟨rfl, [.returned newState .errorNone, .selfUnlock] ++ (m.wakeLog ++ [.selfLock]),
        by simp, ?_⟩
      intro e he
      simp only [List.mem_append, List.mem_cons, List.not_mem_nil, or_false] at he
      rcases he with (rfl | rfl) | he | rfl
      · rfl
      · rfl
      · exact not_isOutcome_of_mem_wakeLog he
      · rfl
  | @completed call c hd _ hcall _ _ =>
      right
      have he := completionHandler_effect env (call.completion c) false false
        (m.prepared env newState origin)
      have hpc := completionHandler_powerController env (call.completion c) false
        (m.prepared env newState origin)
      have hprep : (m.prepared env newState origin).powerController = m.powerController ∧
          (m.prepared env newState origin).log = m.preparedLog ++ m.log := by
        rw [prepared_eq hs]
        exact ⟨rfl, rfl⟩
      refine ⟨call.completion c, ?_, ?_, ?_, .returned call.newState .errorNone ::
        (if (!call.isSync) = true then [.selfUnlock] else []), m.preparedLog,
        m.prepared env newState origin, false, hprep.1, ?_, ?_,
        fun e he => not_isOutcome_of_mem_preparedLog he⟩
      · rw [hcall]
        rfl
      · rw [hcall]
        exact fun h => hd (.inl h.symm)
      · rw [returnFromCall_eq, hcall, ← hprep.1]
        rw [hcall] at hpc
        exact hpc
      · rw [returnFromCall_eq, he.log, hprep.2, hcall]
        simp only [List.cons_append, List.append_assoc]
        rfl
      · intro e he
        rcases List.mem_cons.mp he with rfl | he
        · rfl
        · split at he
          · rw [List.mem_singleton.mp he]
            rfl
          · simp at he
  | scheduled _ _ _ _ _ =>
      left
      rw [returnFromCall_eq, prepared_eq hs]
      refine ⟨rfl, [.returned newState .errorNone, .selfUnlock] ++ m.preparedLog, by simp, ?_⟩
      intro e he
      rcases List.mem_append.mp he with he | he
      · simp only [List.mem_cons, List.not_mem_nil, or_false] at he
        rcases he with rfl | rfl <;> rfl
      · exact not_isOutcome_of_mem_preparedLog he

theorem atomicStep_stays_or_concludes (hs : m.Settled) {a : AtomicAction}
    (h : atomicStep m (env, a) = some m') : Stays m m' ∨ ∃ h, Concludes env h m m' := by
  rcases atomicStep_cases hs h with
    ⟨newState, origin, m₀, hreq, hs₀, hr⟩ | ⟨_, ⟨hb, _⟩ | ⟨_, _, hc⟩⟩
  · obtain ⟨entries, rfl⟩ := requested_eq hreq
    exact (hr.stays_or_concludes hs₀).imp (fun ⟨hp, hl⟩ => ⟨hp, hl⟩)
      fun ⟨c, hc⟩ => ⟨c, hc.currState, hc.changes, hc.powerController, hc.log⟩
  · left
    obtain ⟨es, hlog, hes⟩ := hb.log
    exact ⟨hb.powerController, es, hlog, fun e he =>
      LogEntry.not_isOutcome_of_isBackground (hes e he)⟩
  · exact .inr (hc.concludes hs)

/-! ### The chain -/

theorem Stays.modeChanges (hst : Stays m m') : m'.modeChanges = m.modeChanges := by
  obtain ⟨es, hlog, hes⟩ := hst.log
  rw [modeChanges_of_log hlog, filterMap_modeChange_eq_nil hes]
  simp

/-- The event is dispatched exactly when the controller accepts the state. -/
theorem Concludes.modeChanges {h : Completion} (hc : Concludes env h m m') :
    m'.modeChanges = m.modeChanges ++
      if (m.powerController.setPowerState env h.newState).1 = .errorNone then
        [(h.currState, h.newState)]
      else [] := by
  obtain ⟨es, es', m₀, isTimedout, hpc, hlog, hes, hes'⟩ := hc.log
  have hacc : m₀.Accepts env h false ↔
      (m.powerController.setPowerState env h.newState).1 = .errorNone := by
    rw [← hpc]
    exact ⟨And.right, fun h => ⟨rfl, h⟩⟩
  rw [modeChanges_of_log hlog]
  simp only [List.filterMap_append, filterMap_modeChange_eq_nil hes,
    filterMap_modeChange_eq_nil hes', modeChange_completionLog, hacc, List.nil_append,
    List.append_nil]
  split <;> rfl

/-- The last event tells both states that `PowerController` holds. -/
structure Chained (start : PowerState) (m : Implementation) : Prop where
  chain : EventChain start m.modeChanges
  before : m.modeChanges = [] → m.powerState = start
  last : ∀ e, m.modeChanges.getLast? = some e →
    m.powerState = e.2 ∧ m.powerController.lastKnownPowerState = e.1

theorem chained_init (b : Bool) (pc : PowerController) :
    (init b pc).Chained pc.settings.powerState :=
  ⟨.nil, fun _ => rfl, by simp [modeChanges, init]⟩

theorem Chained.of_same {start : PowerState} (hch : m.Chained start)
    (hev : m'.modeChanges = m.modeChanges) (hpc : m'.powerController = m.powerController) :
    m'.Chained start := by
  have hp : m'.powerState = m.powerState := by rw [powerState, hpc]; rfl
  constructor
  · rw [hev]
    exact hch.chain
  · rw [hev, hp]
    exact hch.before
  · rw [hev, hp, hpc]
    exact hch.last

theorem setPowerState_accepted {c : PowerController} {s : PowerState}
    (h : (c.setPowerState env s).1 = .errorNone) :
    (c.setPowerState env s).2.settings.powerState = s ∧
      (c.setPowerState env s).2.lastKnownPowerState = c.settings.powerState := by
  unfold PowerController.setPowerState at h ⊢
  split
  · rename_i hi
    simp [hi] at h
  · split
    · rename_i hi hp
      simp [hi, hp] at h
    · exact ⟨rfl, rfl⟩

theorem chained_step {start : PowerState} (hs : m.Settled) (hch : m.Chained start)
    {a : AtomicAction} (h : atomicStep m (env, a) = some m') : m'.Chained start := by
  rcases atomicStep_stays_or_concludes hs h with hst | ⟨c, hc⟩
  · exact hch.of_same hst.modeChanges hst.powerController
  · have hev := hc.modeChanges
    by_cases ha : (m.powerController.setPowerState env c.newState).1 = .errorNone
    · rw [if_pos ha] at hev
      obtain ⟨hnew, hprev⟩ := setPowerState_accepted ha
      constructor
      · rw [hev]
        refine hch.chain.concat ?_ ?_ ?_
        · exact fun he => hc.changes (hc.currState ▸ he.symm)
        · exact fun x hx => hc.currState.trans (hch.last x hx).1
        · exact fun hnil => hc.currState.trans (hch.before hnil)
      · intro hnil
        rw [hev] at hnil
        simp at hnil
      · intro e he
        rw [hev, List.getLast?_concat] at he
        cases he
        rw [powerState, hc.powerController]
        exact ⟨hnew, hprev.trans hc.currState.symm⟩
    · rw [if_neg ha, List.append_nil] at hev
      refine hch.of_same hev ?_
      rw [hc.powerController]
      rcases PowerController.setPowerState_cases env c.newState m.powerController with hp | hp
      · exact absurd hp.1 ha
      · exact hp.2

/-- A transition that is refused dispatches no event and changes neither state. -/
theorem refused_changes_nothing (hs : m.Settled) {a : AtomicAction}
    (h : atomicStep m (env, a) = some m') {es : List LogEntry} (hes : m'.log = es ++ m.log)
    {c : Completion} {stay : ℕ} {result : ErrorCode} (hmem : .setPowerState c stay result ∈ es)
    (hr : result ≠ .errorNone) :
    m'.modeChanges = m.modeChanges ∧ m'.powerController = m.powerController := by
  rcases atomicStep_stays_or_concludes hs h with hst | ⟨d, hd⟩
  · exact ⟨hst.modeChanges, hst.powerController⟩
  · obtain ⟨front, back, m₀, isTimedout, hpc, hlog, hfront, hback⟩ := hd.log
    have hin : .setPowerState c stay result ∈ m₀.completionLog env d isTimedout false := by
      rw [hes] at hlog
      rw [List.append_cancel_right hlog] at hmem
      rcases List.mem_append.mp hmem with hmem | hmem
      · exact absurd (hfront _ hmem) (by simp [LogEntry.isOutcome])
      · rcases List.mem_append.mp hmem with hmem | hmem
        · exact hmem
        · exact absurd (hback _ hmem) (by simp [LogEntry.isOutcome])
    have hres : result = (m.powerController.setPowerState env d.newState).1 := by
      rcases mem_completionLog hin with he | he | he | he | he | he <;> cases he
      rw [hpc]
    have hne : (m.powerController.setPowerState env d.newState).1 ≠ .errorNone := hres ▸ hr
    have hev := hd.modeChanges
    rw [if_neg hne, List.append_nil] at hev
    refine ⟨hev, ?_⟩
    rw [hd.powerController]
    rcases PowerController.setPowerState_cases env d.newState m.powerController with hp | hp
    · exact absurd hp.1 hne
    · exact hp.2

/-- In every run the events form a chain from the constructed state, `GetPowerState` returns the
states of the last event, and a refused transition leaves events and states alone. -/
theorem power_mode_events_chain (b : Bool) (pc : PowerController) :
    ∀ m, Reachable atomicStep (init b pc) m →
      EventChain pc.settings.powerState m.modeChanges ∧
      (∀ e, m.modeChanges.getLast? = some e →
        m.powerController.getPowerState = (.errorNone, e.2, e.1)) ∧
      ∀ env a m', atomicStep m (env, a) = some m' →
        ∀ es c stay result, m'.log = es ++ m.log → .setPowerState c stay result ∈ es →
          result ≠ .errorNone →
          m'.modeChanges = m.modeChanges ∧
          m'.powerController.getPowerState = m.powerController.getPowerState := by
  intro m hm
  have hinv : m.Settled ∧ m.Chained pc.settings.powerState := by
    refine hm.invariant (I := fun m => m.Settled ∧ m.Chained pc.settings.powerState) ?_
      ⟨settled_init b pc, chained_init b pc⟩
    rintro s ⟨env, a⟩ t ⟨hs, hch⟩ ht
    exact ⟨settled_step hs ht, chained_step hs hch ht⟩
  obtain ⟨hs, hch⟩ := hinv
  refine ⟨hch.chain, ?_, ?_⟩
  · intro e he
    obtain ⟨hnew, hprev⟩ := hch.last e he
    rw [PowerController.getPowerState, hprev, ← hnew]
    rfl
  · intro env a m' h es c stay result hes hmem hr
    obtain ⟨hev, hpc⟩ := refused_changes_nothing hs h hes hmem hr
    exact ⟨hev, by rw [hpc]⟩

/-- A request for STANDBY is delayed and acknowledged, one for OFF is refused, one for ON
succeeds. -/
def chainRun : List (Env × AtomicAction) :=
  [({}, .api (.addPowerModePreChangeClient "client")), ({}, .setPowerState .standby),
    ({}, .api (.delayPowerModeChangeBy 1 1 5)), ({}, .api (.powerModePreChangeComplete 1 1)),
    ({}, .setPowerState .off),
    ({ platformSetPowerState := .errorGeneral }, .timerExpired), ({}, .setPowerState .on),
    ({}, .timerExpired)]

theorem power_mode_events_chain_run :
    ∃ m, run atomicStep (init false {}) chainRun = some m ∧
      m.modeChanges = [(.on, .standby), (.standby, .on)] ∧
      m.powerController.getPowerState = (.errorNone, .on, .standby) := by
  have hr : run atomicStep (init false {}) chainRun = some _ := rfl
  exact ⟨_, hr, rfl, (power_mode_events_chain false {} _ ⟨chainRun, hr⟩).2.1 (.standby, .on) rfl⟩

end Implementation

end DeviceAndDisplay.PowerManager
