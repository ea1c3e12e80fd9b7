import DeviceAndDisplay.Verification.PowerManager.Atomic
import DeviceAndDisplay.Verification.PowerManager.Superseded

/-! # Retrying a transition

The stored controller outlives its transition. A request for its target is answered as a
repetition even when no transition is pending, which a client meets after a transition that
`PowerController::SetPowerState` refused. -/

namespace DeviceAndDisplay.PowerManager.Implementation

open Transition

variable {env : Env} {m m' : Implementation}

/-! ### Uninterrupted calls are runs of the interleaved machine -/

theorem advanceCall_run (env : Env) (m : Implementation) :
    ∃ as, run step m as = some (m.advanceCall env) := by
  cases hc : m.call with
  | none => exact ⟨[], by rw [advanceCall_none hc]; rfl⟩
  | some call => exact ⟨[(env, .advance)], by rw [advanceCall_some hc]; simp [step, hc]⟩

theorem run_trans {m₁ m₂ m₃ : Implementation} (h : ∃ as, run step m₁ as = some m₂)
    (h' : ∃ as, run step m₂ as = some m₃) : ∃ as, run step m₁ as = some m₃ := by
  obtain ⟨as, ha⟩ := h
  obtain ⟨bs, hb⟩ := h'
  exact ⟨as ++ bs, by rw [run_append, ha]; exact hb⟩

theorem setPowerState_run {newState : PowerState} {origin : Origin} {a : Action}
    {m₀ : Implementation}
    (ha : step m (env, a) = m₀.enterSetPowerState env newState origin)
    (h : m₀.setPowerState env newState origin = some m') : ∃ as, run step m as = some m' := by
  obtain ⟨m₁, hm₁, rfl⟩ := Option.map_eq_some_iff.mp h
  have hfirst : ∃ as, run step m as = some m₁ := ⟨[(env, a)], by rw [run_singleton, ha, hm₁]⟩
  exact run_trans (run_trans (run_trans (run_trans (run_trans hfirst (advanceCall_run env _))
    (advanceCall_run env _)) (advanceCall_run env _)) (advanceCall_run env _))
    (advanceCall_run env _)

theorem atomicStep_run {a : Env × AtomicAction} (h : atomicStep m a = some m') :
    ∃ as, run step m as = some m' := by
  obtain ⟨env, a⟩ := a
  cases a with
  | setPowerState newState => exact setPowerState_run (a := .setPowerState newState) rfl h
  | wakeup i =>
      obtain ⟨⟨newState, origin, m₀⟩, hw, h⟩ := Option.bind_eq_some_iff.mp h
      exact setPowerState_run (a := .wakeup i) (by simp [step, hw]) h
  | timerExpired =>
      refine ⟨[(env, .timerDispatch), (env, .timerRun)], ?_⟩
      rw [run_cons]
      simp only [run_singleton]
      exact h
  | sleep a => exact ⟨[(env, .sleep a)], (run_singleton _ _).trans h⟩
  | api a => exact ⟨[(env, .api a)], (run_singleton _ _).trans h⟩

/-- What is reached by uninterrupted calls is reached by interleaved ones. -/
theorem reachable_of_atomic {m₀ : Implementation} (h : Reachable atomicStep m₀ m) :
    Reachable step m₀ m := by
  obtain ⟨as, hr⟩ := h
  exact run_refines (fun _ _ _ ht => atomicStep_run ht) hr

/-! ### A new transaction -/

/-- The request creates a controller with a fresh transaction, submits the notifications and
schedules a completion handler, which has run already or is waiting. -/
structure StartsTransaction (newState : PowerState) (m m' : Implementation) : Prop where
  fresh : .addRef (m.nextTransactionId + 1) ∉ m.log
  created : ∃ c, m'.modeChangeController = some c ∧ c.powerState = newState ∧
    c.transactionId = m.nextTransactionId + 1 ∧
    (.completionHandler (m.nextTransactionId + 1) false false ∈ m'.log ∨ c.running = true ∧
      ∃ h, c.handler = some h ∧ h.transactionId = c.transactionId ∧ h.newState = newState)
  submitted : ∃ timeOut, m'.preChangeJobs = m.preChangeJobs ++
    (m.notifications .preModeChange).sinks.map fun sink =>
      ⟨sink, m.powerState, newState, m.nextTransactionId + 1, timeOut⟩

theorem installed_eq (hm : m.Coherent) (hl : m.selfLock = false) {newState : PowerState}
    (origin : Origin)
    (hfresh : ∀ c, m.modeChangeController = some c → c.powerState ≠ newState) :
    ∃ log cs, m.installed env newState origin = { m.entered newState origin with
      modeChangeController := some (m.freshController env newState)
      cancelledControllers := cs
      nextTransactionId := m.nextTransactionId + 1
      call := some { m.requestCall newState origin with phase := .installed }
      log := log } := by
  have hcall : (m.entered newState origin).call = some (m.requestCall newState origin) := rfl
  rw [← installController_entered hfresh]
  rcases installController_cases (hm.entered hl newState origin) hcall rfl with
    ⟨c, hc, hs, _⟩ | ⟨log, cs, _, heq⟩
  · rw [entered_controller] at hc
    exact absurd hs (hfresh c hc)
  · refine ⟨.addRef (m.nextTransactionId + 1) ::
      (log ++ (m.entered newState origin).log), cs, heq.trans ?_⟩
    rw [entered_eq]
    rfl

theorem mem_completionLog_handler (env : Env) (m : Implementation) (h : Completion)
    (isTimedout isAborted : Bool) :
    .completionHandler h.transactionId isTimedout isAborted ∈
      m.completionLog env h isTimedout isAborted := by
  simp [completionLog]

theorem setPowerState_starts (hm : m.Coherent) (hn : m.Numbered) (hl : m.selfLock = false)
    {newState : PowerState} {origin : Origin} (hd : ¬ m.Declines env newState)
    (hfresh : ∀ c, m.modeChangeController = some c → c.powerState ≠ newState) :
    ∃ m', m.setPowerState env newState origin = some m' ∧ StartsTransaction newState m m' := by
  have hnew : .addRef (m.nextTransactionId + 1) ∉ m.log :=
    fun hmem => Nat.not_succ_le_self _ (hn.addRef _ hmem)
  obtain ⟨c, hpc, heq⟩ := setPowerState_started origin hl hd hfresh
  obtain ⟨log, cs, hinst⟩ := installed_eq hm hl origin hfresh
  have hprep : m.prepared env newState origin =
      { (m.entered newState origin).submitPowerModePreChangeEvent m.powerState newState
          (m.nextTransactionId + 1) (m.requestCall newState origin).timeOut with
        modeChangeController := some (m.freshController env newState)
        cancelledControllers := cs
        nextTransactionId := m.nextTransactionId + 1
        call := some { m.requestCall newState origin with phase := .submitted }
        log := log } := by
    unfold prepared
    rw [hinst]
    rfl
  have hc : c = m.freshController env newState := by
    rw [hprep] at hpc
    exact (Option.some.inj hpc).symm
  have htid : c.transactionId = m.nextTransactionId + 1 := hc ▸ freshController_transactionId _ _
  have hstate : c.powerState = newState := hc ▸ freshController_powerState _ _
  have hjobs : (m.prepared env newState origin).preChangeJobs = m.preChangeJobs ++
      (m.notifications .preModeChange).sinks.map fun sink =>
        ⟨sink, m.powerState, newState, m.nextTransactionId + 1,
          (m.requestCall newState origin).timeOut⟩ := by
    rw [hprep, entered_eq]
    rfl
  refine ⟨_, heq, hnew, ?_, ?_⟩
  · unfold scheduled
    split
    · have he := completionHandler_effect env ((m.requestCall newState origin).completion c)
        false false (m.prepared env newState origin)
      rw [returnFromCall_eq]
      refine ⟨c, he.frame.modeChangeController.trans hpc, hstate, htid, .inl ?_⟩
      rw [← htid, he.log]
      have hmem := mem_completionLog_handler env (m.prepared env newState origin)
        ((m.requestCall newState origin).completion c) false false
      exact List.mem_cons_of_mem _ (List.mem_append.mpr (.inr (List.mem_append.mpr (.inl hmem))))
    · rw [returnFromCall_eq]
      exact ⟨_, rfl, hstate, htid, .inr ⟨rfl, _, rfl, rfl, rfl⟩⟩
  · refine ⟨(m.requestCall newState origin).timeOut, ?_⟩
    unfold scheduled
    split
    · have he := completionHandler_effect env ((m.requestCall newState origin).completion c)
        false false (m.prepared env newState origin)
      rw [returnFromCall_eq]
      exact he.frame.preChangeJobs.trans hjobs
    · rw [returnFromCall_eq]
      exact hjobs

/-- The stored controller decides whether a request that is not declined starts anything. -/
theorem setPowerState_starts_iff (origin : Origin) (hm : m.Coherent) (hn : m.Numbered)
    (hl : m.selfLock = false) {newState : PowerState} (hd : ¬ m.Declines env newState) :
    ∃ m', m.setPowerState env newState origin = some m' ∧ (StartsTransaction newState m m' ↔
      ∀ c, m.modeChangeController = some c → c.powerState ≠ newState) := by
  by_cases hfresh : ∀ c, m.modeChangeController = some c → c.powerState ≠ newState
  · obtain ⟨m', heq, hstart⟩ := setPowerState_starts hm hn hl hd hfresh
    exact ⟨m', heq, fun _ => hfresh, fun _ => hstart⟩
  · obtain ⟨c, hc⟩ := not_forall.mp hfresh
    obtain ⟨hc, hs⟩ := Classical.not_imp.mp hc
    refine ⟨_, setPowerState_redundant hl hd hc (not_not.mp hs), ?_, fun h => absurd h hfresh⟩
    intro hstart
    obtain ⟨d, hd', _, htid, _⟩ := hstart.created
    rw [returnFromCall_eq] at hd'
    have hdc : m.modeChangeController = some d := by
      rw [← entered_controller newState origin m]
      exact hd'
    rw [hm.transactionId d hdc] at htid
    exact absurd htid (Nat.ne_of_lt (Nat.lt_succ_self _))

/-! ### The last transition -/

/-- The newest completion that `PowerController::SetPowerState` answered, with the answer. -/
def lastTransition (log : List LogEntry) : Option (Completion × ErrorCode) :=
  log.findSome? fun e =>
    match e with
    | .setPowerState h _ result => some (h, result)
    | _ => none

/-- `PowerController::SetPowerState` refused the last transition, which was to this state. -/
def LastRefused (newState : PowerState) (m : Implementation) : Prop :=
  ∃ h result, lastTransition m.log = some (h, result) ∧ h.newState = newState ∧
    result ≠ .errorNone

theorem lastTransition_append {es log : List LogEntry}
    (hes : ∀ e ∈ es, ∀ h stay result, e ≠ .setPowerState h stay result) :
    lastTransition (es ++ log) = lastTransition log := by
  have hnone : lastTransition es = none := by
    refine List.findSome?_eq_none_iff.mpr fun e he => ?_
    cases e <;> first | rfl | exact absurd rfl (hes _ he _ _ _)
  rw [lastTransition, List.findSome?_append]
  change (lastTransition es).or (lastTransition log) = _
  rw [hnone, Option.none_or]

theorem lastTransition_returnFromCall (newState : PowerState) (unlock : Bool)
    (m : Implementation) :
    lastTransition (m.returnFromCall newState unlock).log = lastTransition m.log := by
  cases unlock <;> rfl

theorem lastTransition_completionLog (h : Completion) (isTimedout : Bool) (log : List LogEntry) :
    lastTransition (m.completionLog env h isTimedout false ++ log) =
      some (h, (m.powerController.setPowerState env h.newState).1) := by
  have hunlock : ∀ e ∈ (if h.isSync then [LogEntry.selfUnlock] else []) ++
      [.release h.transactionId] ++
      (if m.Accepts env h false then
        m.callbacks .modeChanged ++ [.powerModeChanged h.transactionId h.currState h.newState]
      else []), ∀ h stay result, e ≠ .setPowerState h stay result := by
    intro e he h' stay result heq
    subst heq
    simp only [List.mem_append, List.mem_singleton] at he
    rcases he with (he | he) | he
    · split at he <;> simp at he
    · cases he
    · split at he
      · rcases List.mem_append.mp he with he | he
        · exact absurd (isListener_of_mem_callbacks he) (by simp [LogEntry.isListener])
        · simp at he
      · simp at he
  have hlog : m.completionLog env h isTimedout false ++ log =
      ((if h.isSync then [LogEntry.selfUnlock] else []) ++ [.release h.transactionId] ++
        (if m.Accepts env h false then
          m.callbacks .modeChanged ++ [.powerModeChanged h.transactionId h.currState h.newState]
        else [])) ++
      (.setPowerState h m.stay (m.powerController.setPowerState env h.newState).1 ::
        ((if PowerController.ignores env h.newState then []
          else [.platformSetPowerState h.transactionId h.newState]) ++
        (.completionHandler h.transactionId isTimedout false :: log))) := by
    simp [completionLog, deviceLog]
  rw [hlog, lastTransition_append hunlock]
  rfl

/-- What the log tells about the stored controller once its transition is over. -/
structure Recorded (m : Implementation) : Prop where
  none : m.modeChangeController = none → lastTransition m.log = none
  done : ∀ c, m.modeChangeController = some c → c.running = false →
    ∃ h result, lastTransition m.log = some (h, result) ∧ h.newState = c.powerState ∧
      (result = .errorNone ↔ c.powerState = m.powerState)

theorem recorded_init (b : Bool) (pc : PowerController) : (init b pc).Recorded where
  none := fun _ => rfl
  done := by simp [init]

theorem Recorded.of_same (hr : m.Recorded)
    (hstored : m'.modeChangeController = m.modeChangeController)
    (hp : m'.powerState = m.powerState) (hlog : lastTransition m'.log = lastTransition m.log) :
    m'.Recorded where
  none := by
    rw [hstored, hlog]
    exact hr.none
  done := by
    rw [hstored, hlog, hp]
    exact hr.done

theorem Recorded.of_background (hr : m.Recorded) (hb : Background m m') : m'.Recorded := by
  obtain ⟨es, hlog, hes⟩ := hb.log
  have hlast : lastTransition m'.log = lastTransition m.log := by
    rw [hlog]
    refine lastTransition_append fun e he h stay result heq => ?_
    have hback := hes e he
    rw [heq] at hback
    cases hback
  constructor
  · intro hnone
    rw [hlast]
    rcases hb.stored with ⟨hn, _⟩ | ⟨c, c', _, hc', _⟩
    · exact hr.none hn
    · exact absurd (hnone.symm.trans hc') (by simp)
  · intro c' hc' hrun
    obtain ⟨c, hc, hk⟩ := hb.stored_of_some hc'
    rw [hlast, hk.powerState, hb.powerState]
    exact hr.done c hc (hk.running ▸ hrun)

/-- A completion out of another state leaves a record of whether it succeeded. -/
theorem CompletionEffect.recorded {h : Completion} {isTimedout : Bool} {m₀ : Implementation}
    (he : CompletionEffect env h isTimedout false m₀ m') (hne : h.newState ≠ m₀.powerState) :
    ∃ result, lastTransition m'.log = some (h, result) ∧
      (result = .errorNone ↔ h.newState = m'.powerState) := by
  refine ⟨(m₀.powerController.setPowerState env h.newState).1, ?_, ?_⟩
  · rw [he.log]
    exact lastTransition_completionLog h isTimedout m₀.log
  · by_cases ha : m₀.Accepts env h false
    · simp [ha.2, he.accepted ha]
    · have hstate : m'.powerState = m₀.powerState :=
        congrArg (fun pc => pc.settings.powerState) (he.refused ha).1
      have hres : (m₀.powerController.setPowerState env h.newState).1 ≠ .errorNone :=
        fun h => ha ⟨rfl, h⟩
      simp [hstate, hne, hres]

theorem recorded_step {a : AtomicAction} (hs : m.Settled) (hr : m.Recorded)
    (h : atomicStep m (env, a) = some m') : m'.Recorded := by
  rcases atomicStep_cases hs h with
    ⟨newState, origin, m₀, hreq, hs₀, hreq'⟩ | ⟨_, ⟨hb, _⟩ | ⟨_, _, hc⟩⟩
  · obtain ⟨entries, rfl⟩ := requested_eq hreq
    have hr₀ : (m.setEntries entries).Recorded := hr.of_same rfl rfl rfl
    cases hreq' with
    | declined _ => exact hr₀.of_same rfl rfl rfl
    | redundant _ _ _ =>
        rw [entered_eq, returnFromCall_eq]
        refine hr₀.of_same rfl rfl ?_
        unfold wakeLog
        split <;> rfl
    | @completed call c hd _ hcall hc hat =>
        have he := completionHandler_effect env (call.completion c) false false
          ((m.setEntries entries).prepared env newState origin)
        have hn : (call.completion c).newState = newState := by
          rw [hcall]
          rfl
        have hne : (call.completion c).newState ≠
            ((m.setEntries entries).prepared env newState origin).powerState := by
          rw [prepared_eq hs₀, hn]
          exact fun h => hd (.inl h.symm)
        obtain ⟨result, hlast, hiff⟩ := he.recorded hne
        have hstored := he.frame.modeChangeController
        rw [prepared_eq hs₀] at hstored
        have hrec : (((m.setEntries entries).prepared env newState origin).completionHandler env
            (call.completion c) false false).Recorded := by
          rw [prepared_eq hs₀] at hlast hiff ⊢
          constructor
          · intro hnone
            exact absurd (hstored.symm.trans hnone) (by simp)
          · intro d hd' _
            have hdn : d.powerState = newState := by
              rw [← Option.some.inj (hstored.symm.trans hd'), freshController_powerState]
            rw [hn] at hiff
            exact ⟨call.completion c, result, hlast, hn.trans hdn.symm, hdn ▸ hiff⟩
        exact hrec.of_same (returnFromCall_controller _ _ _) (returnFromCall_powerState _ _ _)
          (lastTransition_returnFromCall _ _ _)
    | @scheduled call c hd _ hcall hc hat =>
        rw [returnFromCall_eq]
        constructor
        · intro hnone
          cases hnone
        · rintro d ⟨⟩ hrun
          cases hrun
  · exact hr.of_background hb
  · obtain ⟨c, c', h, m₀, hd⟩ := hc.completed hs
    have hne : h.newState ≠ m₀.powerState := by
      obtain ⟨clients, rfl⟩ := hd.started
      exact hd.serves.changes
    obtain ⟨result, hlast, hiff⟩ := hd.effect.recorded hne
    constructor
    · intro hnone
      exact absurd (hd.stored'.symm.trans hnone) (by simp)
    · intro d hd' _
      have hdn : d.powerState = h.newState := by
        rw [← Option.some.inj (hd.stored'.symm.trans hd'), hd.stopped.powerState,
          hd.serves.newState]
      exact ⟨h, result, hlast, hdn.symm, hdn ▸ hiff⟩

theorem recorded_of_reachable {b : Bool} {pc : PowerController}
    (h : Reachable atomicStep (init b pc) m) : m.Recorded := by
  have hinv : m.Settled ∧ m.Recorded := by
    refine h.invariant (I := fun m => m.Settled ∧ m.Recorded) ?_ ?_
    · rintro s ⟨env, a⟩ t ⟨hs, hr⟩ ht
      exact ⟨settled_step hs ht, recorded_step hs hr ht⟩
    · exact ⟨settled_init b pc, recorded_init b pc⟩
  exact hinv.2

/-- Between uninterrupted calls, the stored controller aims at another state exactly if its
transition was refused. -/
theorem Recorded.refused_iff (hr : m.Recorded) (hidle : ¬ m.Transitioning) {newState : PowerState}
    (hne : m.powerState ≠ newState) :
    (∃ c, m.modeChangeController = some c ∧ c.powerState = newState) ↔
      m.LastRefused newState := by
  constructor
  · rintro ⟨c, hc, hs⟩
    have hrun : c.running = false := by
      cases hrun : c.running with
      | false => rfl
      | true => exact absurd ⟨c, hc, hrun⟩ hidle
    obtain ⟨h, result, hlast, hn, hiff⟩ := hr.done c hc hrun
    refine ⟨h, result, hlast, hn.trans hs, fun hok => hne ?_⟩
    exact (hiff.mp hok).symm.trans hs
  · rintro ⟨h, result, hlast, hn, _⟩
    cases hc : m.modeChangeController with
    | none =>
        rw [hr.none hc] at hlast
        cases hlast
    | some c =>
        have hrun : c.running = false := by
          cases hrun : c.running with
          | false => rfl
          | true => exact absurd ⟨c, hc, hrun⟩ hidle
        obtain ⟨h', result', hlast', hn', _⟩ := hr.done c hc hrun
        rw [hlast] at hlast'
        cases hlast'
        exact ⟨c, rfl, hn'.symm.trans hn⟩

theorem numbered_of_reachable {b : Bool} {pc : PowerController}
    (h : Reachable step (init b pc) m) : m.Coherent ∧ m.Numbered := by
  refine h.invariant (I := fun m => m.Coherent ∧ m.Numbered) ?_ ?_
  · rintro s a t ⟨hm, hn⟩ ht
    exact ⟨coherent_step hm ht, numbered_step hm hn ht⟩
  · exact ⟨coherent_init b pc, numbered_init b pc⟩

/-- With no transition pending, a request for another state starts a transaction unless the
stored controller still aims at that state. Where calls are not interrupted, that is so exactly
if the last transition was to that state and was refused. -/
theorem retry_starts_iff (b : Bool) (pc : PowerController) (env : Env) (newState : PowerState)
    (origin : Origin) :
    (∀ m, Reachable step (init b pc) m → m.call = none → ¬ m.Transitioning →
      ¬ m.Declines env newState →
      ∃ m', m.setPowerState env newState origin = some m' ∧
        (StartsTransaction newState m m' ↔
          ¬ ∃ c, m.modeChangeController = some c ∧ c.powerState = newState)) ∧
    (∀ m, Reachable atomicStep (init b pc) m → ¬ m.Transitioning → ¬ m.Declines env newState →
      ∃ m', m.setPowerState env newState origin = some m' ∧
        (StartsTransaction newState m m' ↔ ¬ m.LastRefused newState)) := by
  have hfine : ∀ m, Reachable step (init b pc) m → m.call = none →
      ¬ m.Declines env newState → ∃ m', m.setPowerState env newState origin = some m' ∧
        (StartsTransaction newState m m' ↔
          ¬ ∃ c, m.modeChangeController = some c ∧ c.powerState = newState) := by
    intro m hm hcall hd
    obtain ⟨hcoh, hnum⟩ := numbered_of_reachable hm
    have hl : m.selfLock = false := by
      rw [hcoh.selfLock, hcall]
      rfl
    obtain ⟨m', heq, hiff⟩ := setPowerState_starts_iff origin hcoh hnum hl hd
    refine ⟨m', heq, hiff.trans ?_⟩
    simp
  refine ⟨fun m hm hcall _ hd => hfine m hm hcall hd, ?_⟩
  intro m hm hidle hd
  obtain ⟨m', heq, hiff⟩ := hfine m (reachable_of_atomic hm) (settled_of_reachable hm).call hd
  refine ⟨m', heq, hiff.trans (not_congr ?_)⟩
  exact (recorded_of_reachable hm).refused_iff hidle fun he => hd (.inl he)

/-- The platform refuses standby. -/
def refusedRun : List (Env × AtomicAction) :=
  [({ platformSetPowerState := .errorGeneral }, .setPowerState .standby)]

/-- A refused transition to standby does not keep the device from light sleep. -/
theorem retry_starts_other :
    ∃ m m', run atomicStep (init false {}) refusedRun = some m ∧
      m.setPowerState {} .standbyLightSleep .client = some m' ∧
      (StartsTransaction .standbyLightSleep m m' ↔ ¬ m.LastRefused .standbyLightSleep) := by
  have hr : run atomicStep (init false {}) refusedRun = some _ := rfl
  obtain ⟨m', heq, hiff⟩ := (retry_starts_iff false {} {} .standbyLightSleep .client).2 _
    ⟨refusedRun, hr⟩ (by decide) (by decide)
  exact ⟨_, m', hr, heq, hiff⟩

/-- The retry of the refused transition returns without starting anything. -/
theorem retry_answered_as_repetition :
    ∃ m m', run atomicStep (init false {}) refusedRun = some m ∧ ¬ m.Transitioning ∧
      ¬ m.Declines {} .standby ∧ m.setPowerState {} .standby .client = some m' ∧
      ¬ StartsTransaction .standby m m' := by
  refine ⟨_, _, rfl, by decide, by decide, rfl, fun hstart => ?_⟩
  obtain ⟨c, hc, _, htid, _⟩ := hstart.created
  cases hc
  exact absurd htid (by decide)

end DeviceAndDisplay.PowerManager.Implementation
