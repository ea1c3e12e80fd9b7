import DeviceAndDisplay.Transition.Consent
import DeviceAndDisplay.Transition.Run
import DeviceAndDisplay.Verification.PowerManager.Clients
import DeviceAndDisplay.Verification.PowerManager.EventChain

/-! # Power modes change by consent

PowerManager with its controllers, jobs and timers refines a service that changes its state by
consent: transaction ids are the numbers of the proposals, a running controller is the open one, and
the dispatched events are the changes. -/

namespace DeviceAndDisplay.PowerManager

open Transition

/-- `PowerController::SetPowerState` succeeds. -/
def Env.accepts (env : Env) (s : PowerState) : Bool :=
  !PowerController.ignores env s && decide (env.platformSetPowerState = .errorNone)

theorem setPowerState_accepts (env : Env) (s : PowerState) (c : PowerController) :
    (c.setPowerState env s).1 = .errorNone ↔ env.accepts s = true := by
  unfold PowerController.setPowerState Env.accepts
  by_cases hi : PowerController.ignores env s = true
  · simp [hi]
  · by_cases hp : env.platformSetPowerState = .errorNone
    · simp [hi, hp]
    · simp [hi, hp]

namespace Implementation

variable {env : Env} {m m' : Implementation}

/-- What PowerManager amounts to between calls. -/
def service (m : Implementation) : Consent.Service PowerState ClientId where
  state := m.powerState
  previous := m.powerController.lastKnownPowerState
  clients := (m.modeChangeClients.map Prod.fst).toFinset
  proposed := m.nextTransactionId
  latest := m.modeChangeController.map AckController.powerState
  proposal := (m.modeChangeController.filter AckController.running).map fun c =>
    ⟨c.powerState, c.pending⟩
  changes := m.modeChanges

/-- The request, unless the device is still falling asleep. -/
def proposes (env : Env) (m : Implementation) (a : AtomicAction) : Option PowerState :=
  match m.requested a with
  | none => none
  | some (newState, _, m₀) =>
      if m₀.powerState = .standbyDeepSleep ∧ m₀.refusesRequest env.now = true then none
      else some newState

/-- What an action means to the service; delays, event jobs and the threads that put the device to
sleep mean nothing. -/
def consentAction (env : Env) (m : Implementation) :
    AtomicAction → Option (Consent.Action PowerState ClientId)
  | .api (.powerModePreChangeComplete clientId transactionId) =>
      some (.answer clientId transactionId)
  | .api (.addPowerModePreChangeClient clientName) =>
      (m.registration (env, .api (.addPowerModePreChangeClient clientName))).map fun client =>
        .enrol client.1
  | .api (.removePowerModePreChangeClient clientId) => some (.leave clientId)
  | .timerExpired => some .timeout
  | a => (m.proposes env a).map .propose

def consentInput (m : Implementation) (a : Env × AtomicAction) :
    Option (Consent.Input PowerState ClientId) :=
  (m.consentAction a.1 a.2).map fun action => ⟨a.1.accepts, action⟩

theorem consentInput_answer (clientId : ClientId) (transactionId : TransactionId) :
    m.consentInput (env, .api (.powerModePreChangeComplete clientId transactionId)) =
      some ⟨env.accepts, .answer clientId transactionId⟩ := rfl

theorem consentInput_enrol (clientName : String) :
    m.consentInput (env, .api (.addPowerModePreChangeClient clientName)) =
      (m.registration (env, .api (.addPowerModePreChangeClient clientName))).map fun client =>
        ⟨env.accepts, .enrol client.1⟩ :=
  Option.map_map ..

/-! ### What leaves the service alone -/

theorem service_eq (hpc : m'.powerController = m.powerController)
    (hclients : m'.modeChangeClients = m.modeChangeClients)
    (hnext : m'.nextTransactionId = m.nextTransactionId)
    (hstored : m'.modeChangeController = m.modeChangeController)
    (hchanges : m'.modeChanges = m.modeChanges) : m'.service = m.service := by
  simp only [service, powerState, hpc, hclients, hnext, hstored, hchanges]

theorem modeChanges_eq {es : List LogEntry} (hlog : m'.log = es ++ m.log)
    (hes : ∀ e ∈ es, e.isOutcome = false) : m'.modeChanges = m.modeChanges := by
  rw [modeChanges_of_log hlog, filterMap_modeChange_eq_nil hes]
  simp

theorem returnFromCall_service (newState : PowerState) (unlock : Bool) (m : Implementation) :
    (m.returnFromCall newState unlock).service = m.service := by
  rw [returnFromCall_eq]
  refine service_eq rfl rfl rfl rfl (@modeChanges_eq _ _
    (.returned newState .errorNone :: if unlock then [.selfUnlock] else []) ?_ ?_)
  · cases unlock <;> rfl
  · cases unlock <;> simp [LogEntry.isOutcome]

theorem stored_service (c : PreModeChangeController) (m : Implementation) :
    ({ m with modeChangeController := some c } : Implementation).service = { m.service with
      latest := some c.powerState
      proposal := if c.running then some ⟨c.powerState, c.pending⟩ else none } := by
  cases hr : c.running <;> simp [service, powerState, modeChanges, hr]

/-! ### Completions -/

/-- The completion handler concludes the proposal, whose controller has stopped. -/
theorem completionHandler_service {h : Completion} (hcurr : h.currState = m.powerState)
    (hstopped : ∀ c, m.modeChangeController = some c → c.running = false) (isTimedout : Bool) :
    (m.completionHandler env h isTimedout false).service =
      m.service.conclude env.accepts h.newState := by
  have he := completionHandler_effect env h isTimedout false m
  have hf := he.frame
  have hpc := completionHandler_powerController env h isTimedout m
  have hchanges := modeChanges_of_log he.log
  rw [modeChange_completionLog] at hchanges
  have hproposal : (m.modeChangeController.filter AckController.running) = none := by
    cases hc : m.modeChangeController with
    | none => rfl
    | some c => simp [hstopped c hc]
  by_cases ha : env.accepts h.newState = true
  · have hacc := (setPowerState_accepts env h.newState m.powerController).mpr ha
    obtain ⟨hnew, hprevious⟩ := setPowerState_accepted hacc
    rw [if_pos ⟨rfl, hacc⟩, List.reverse_singleton, hcurr] at hchanges
    simp only [service, Consent.Service.conclude, ha, if_true, powerState, hpc, hnew, hprevious,
      hf.modeChangeClients, hf.nextTransactionId, hf.modeChangeController, hproposal,
      Option.map_none, hchanges]
  · have hacc : (m.powerController.setPowerState env h.newState).1 ≠ .errorNone :=
      fun h' => ha ((setPowerState_accepts env h.newState m.powerController).mp h')
    have hsame : (m.powerController.setPowerState env h.newState).2 = m.powerController := by
      rcases PowerController.setPowerState_cases env h.newState m.powerController with hc | hc
      · exact absurd hc.1 hacc
      · exact hc.2
    rw [if_neg fun h' => hacc h'.2, List.reverse_nil, List.append_nil] at hchanges
    simp only [service, Consent.Service.conclude, ha, if_false, powerState, hpc, hsame,
      hf.modeChangeClients, hf.nextTransactionId, hf.modeChangeController, hproposal,
      Option.map_none, hchanges, Bool.false_eq_true]

/-! ### Requests -/

theorem completesAtOnce_freshController (env : Env) (newState : PowerState) (origin : Origin)
    (m : Implementation) :
    (m.freshController env newState).completesAtOnce
        ((m.requestCall newState origin).timeOut * 1000) ↔
      m.service.clients = ∅ ∨ isSyncStateChange m.service.state newState = true := by
  have htimeOut : 0 = (m.requestCall newState origin).timeOut * 1000 ↔
      isSyncStateChange m.powerState newState = true := by
    cases hsync : isSyncStateChange m.powerState newState <;>
      simp [Call.timeOut, requestCall, hsync, powerModePreChangeTimeoutSec]
  have hpending : (m.freshController env newState).pending = m.service.clients := by
    rw [freshController_eq]
    rfl
  rw [AckController.completesAtOnce, hpending, htimeOut]
  rfl

/-- The object that is about to schedule its controller, as the service of the next proposal. -/
theorem prepared_service (hs : m.Settled) (newState : PowerState) (origin : Origin) :
    (m.prepared env newState origin).service = { m.service with
      proposed := m.nextTransactionId + 1
      latest := some newState
      proposal := none } := by
  have hchanges : (m.prepared env newState origin).modeChanges = m.modeChanges := by
    refine @modeChanges_eq _ _ m.preparedLog ?_ fun e he => not_isOutcome_of_mem_preparedLog he
    rw [prepared_eq hs]
  have hstored : (m.prepared env newState origin).modeChangeController =
      some (m.freshController env newState) := by
    rw [prepared_eq hs]
  have hsame : (m.prepared env newState origin).powerController = m.powerController ∧
      (m.prepared env newState origin).modeChangeClients = m.modeChangeClients ∧
      (m.prepared env newState origin).nextTransactionId = m.nextTransactionId + 1 := by
    rw [prepared_eq hs]
    exact ⟨rfl, rfl, rfl⟩
  simp only [service, powerState, hchanges, hstored, hsame.1, hsame.2.1, hsame.2.2,
    Option.map_some, freshController_powerState, Option.filter_some, freshController_running,
    Bool.false_eq_true, if_false, Option.map_none]

theorem not_old {newState : PowerState} (h : ¬ m.Declines env newState)
    (hfresh : ∀ c, m.modeChangeController = some c → c.powerState ≠ newState) :
    ¬ (newState = m.service.state ∨ m.service.latest = some newState) := by
  intro hold
  rcases hold with hsame | hlatest
  · exact h (.inl hsame.symm)
  · obtain ⟨c, hc, hnew⟩ := Option.map_eq_some_iff.mp hlatest
    exact hfresh c hc hnew

theorem Requested.service (hs : m.Settled) {newState : PowerState} {origin : Origin}
    (h : Requested env newState origin m m') :
    m'.service =
      if m.powerState = .standbyDeepSleep ∧ m.refusesRequest env.now = true then m.service
      else m.service.propose isSyncStateChange env.accepts newState := by
  by_cases hrefuses : m.powerState = .standbyDeepSleep ∧ m.refusesRequest env.now = true
  · rw [if_pos hrefuses]
    cases h with
    | declined _ => exact service_eq rfl rfl rfl rfl rfl
    | redundant h _ _ => exact absurd (.inr hrefuses) h
    | completed h _ _ _ _ => exact absurd (.inr hrefuses) h
    | scheduled h _ _ _ _ => exact absurd (.inr hrefuses) h
  · rw [if_neg hrefuses]
    unfold Consent.Service.propose
    have hurgent := completesAtOnce_freshController env newState origin m
    cases h with
    | declined h =>
        have hsame : newState = m.service.state := (h.resolve_right hrefuses).symm
        rw [if_pos (.inl hsame)]
        exact service_eq rfl rfl rfl rfl rfl
    | redundant _ hc hnew =>
        have hlatest : m.service.latest = some newState := by
          rw [Implementation.service, hc, Option.map_some, hnew]
        rw [if_pos (.inr hlatest), returnFromCall_service]
        refine service_eq ?_ ?_ ?_ ?_ (@modeChanges_eq _ _ (m.wakeLog ++ [.selfLock]) ?_ ?_)
        · rw [entered_eq]
        · rw [entered_eq]
        · rw [entered_eq]
        · rw [entered_eq]
        · rw [entered_eq, List.append_assoc]
          rfl
        · intro e he
          rcases List.mem_append.mp he with he | he
          · exact not_isOutcome_of_mem_wakeLog he
          · rw [List.mem_singleton.mp he]
            rfl
    | completed h hfresh hcall hc hat =>
        subst hcall hc
        have hp := @prepared_eq env m hs newState origin
        rw [if_neg (not_old h hfresh), if_pos (hurgent.mp hat), returnFromCall_service,
          completionHandler_service, prepared_service hs]
        · rfl
        · rw [hp]
          rfl
        · intro c hc
          rw [hp] at hc
          cases hc
          exact freshController_running newState m
    | scheduled h hfresh hcall hc hat =>
        subst hcall hc
        rw [if_neg (not_old h hfresh), if_neg fun hyes => hat (hurgent.mpr hyes),
          returnFromCall_service, stored_service, prepared_service hs]
        rw [freshController_eq]
        rfl

/-! ### Acknowledgements -/

section

variable {c : PreModeChangeController} (hs : m.Settled) (hc : m.modeChangeController = some c)

include hc in
theorem service_proposal :
    m.service.proposal = if c.running then some ⟨c.powerState, c.pending⟩ else none := by
  cases hr : c.running <;> simp [service, hc, hr]

include hc in
/-- The controller lost clients that it does not await as long as it is not running. -/
theorem stopped_service {pending : Finset ClientId} (hr : c.running = false) :
    ({ m with modeChangeController := some { c with pending := pending } } :
      Implementation).service = m.service := by
  rw [stored_service]
  simp only [service, hc, hr, Option.map_some, Option.filter_some, Bool.false_eq_true, if_false,
    Option.map_none]

include hs hc in
/-- A running controller stops and calls its handler. -/
theorem stop_service {c' : PreModeChangeController} (hstop : c.Stopped c') (isTimedout : Bool) :
    ({ m with modeChangeController := some c' }.runHandler env
      (c.callHandler isTimedout false)).service = m.service.conclude env.accepts c.powerState := by
  obtain ⟨_, h, hh, hsv⟩ := hs.running c hc hstop.wasRunning
  let m' : Implementation := { m with modeChangeController := some c' }
  have hcurr : h.currState = m'.powerState := hsv.currState
  rw [runHandler_callHandler hh, completionHandler_service hcurr, stored_service,
    hsv.newState, hstop.running, hstop.powerState]
  · have hlatest : m.service.latest = some c.powerState := by
      rw [service, hc]
      rfl
    rw [← hlatest]
    rfl
  · intro d hd
    cases hd
    exact hstop.running

include hs hc in
theorem ack_service (env : Env) (clientId : ClientId) (transactionId : TransactionId) :
    ({ m with modeChangeController := some (c.ack clientId transactionId).2.1 }.runHandler env
      (c.ack clientId transactionId).2.2).service =
      if transactionId = m.service.proposed then m.service.discharge env.accepts clientId
      else m.service := by
  have hid : c.transactionId = m.service.proposed := hs.transactionId c hc
  have hsame : ({ m with modeChangeController := some c } : Implementation).service =
      m.service := service_eq rfl rfl rfl hc.symm rfl
  have hproposal := service_proposal hc
  by_cases hlast : c.IsLastAck clientId transactionId
  · obtain ⟨hcall, hstop⟩ := AckController.ack_last_stopped hlast
    obtain ⟨hr, htid, hpending⟩ := hlast
    rw [hcall, stop_service hs hc hstop, if_pos (htid.trans hid)]
    simp [Consent.Service.discharge, hproposal, hr, hpending]
  · obtain ⟨pending, _, hack, hnonempty⟩ := AckController.ack_not_last hlast
    have hpending := (AckController.ack_pending clientId transactionId c).2
    rw [hack] at hpending
    change pending = _ at hpending
    rw [hack, runHandler]
    cases hr : c.running with
    | false =>
        have hstopped : ({ m with modeChangeController := some { c with pending := pending } } :
            Implementation).service = m.service := stopped_service hc hr
        rw [hr] at hstopped
        rw [hstopped]
        simp [Consent.Service.discharge, hproposal, hr]
    | true =>
        have hself := (stored_service c m).symm.trans hsame
        have hawaited : pending ≠ ∅ :=
          hnonempty hr (hs.running c hc hr).1.pending
        rw [hr, if_pos rfl] at hself hproposal
        rw [stored_service, if_pos rfl]
        by_cases htid : transactionId = c.transactionId
        · rw [if_pos htid] at hpending
          rw [if_pos (htid.trans hid)]
          by_cases hmem : clientId ∈ c.pending
          · rw [hpending] at hawaited ⊢
            simp only [Consent.Service.discharge, hproposal, hmem, if_true, hawaited, if_false]
            rw [← hself]
          · rw [Finset.erase_eq_of_notMem hmem] at hpending
            rw [hpending, hself]
            simp [Consent.Service.discharge, hproposal, hmem]
        · rw [if_neg htid] at hpending
          rw [if_neg fun he => htid (he.trans hid.symm), hpending, hself]

end

/-! ### One step -/

theorem timerExpired_service (hs : m.Settled)
    (h : (m.timerDispatch.bind fun m => m.timerRun env) = some m') :
    m'.service = m.service.step isSyncStateChange ⟨env.accepts, .timeout⟩ := by
  obtain ⟨c, c', handlerCall, hc, hexp, rfl⟩ := expire_of_timerExpired h
  obtain ⟨deadline, n, hj, heq⟩ := AckController.expire_eq_some hexp
  obtain ⟨rfl, rfl⟩ := Prod.mk.inj heq
  simp only [Consent.Service.step, service_proposal hc]
  cases hr : c.running with
  | true =>
      have hstop : c.Stopped { c with timerJob := some ⟨none, n⟩, running := false } :=
        ⟨hr, rfl, rfl, rfl, rfl, by simp [hj], by simp [AckController.dispatched, hj]⟩
      exact stop_service hs hc hstop true
  | false =>
      refine (stored_service _ m).trans ?_
      have hself := stored_service c m
      rw [hr] at hself
      exact hself.symm.trans (service_eq rfl rfl rfl hc.symm rfl)

/-- A quiet step that changes neither the clients nor what matters of the controller. -/
theorem Quiet.service (hq : Quiet m m') (hclients : m'.modeChangeClients = m.modeChangeClients)
    (hpending : ∀ c c', m.modeChangeController = some c → m'.modeChangeController = some c' →
      c'.pending = c.pending) : m'.service = m.service := by
  obtain ⟨es, hlog, hes⟩ := hq.log
  have hchanges := modeChanges_eq hlog fun e he =>
    LogEntry.not_isOutcome_of_isBackground (hes e he)
  rcases hq.stored with ⟨hnone, hnone'⟩ | ⟨c, c', hc, hc', hk⟩
  · exact service_eq hq.powerController hclients hq.nextTransactionId (hnone'.trans hnone.symm)
      hchanges
  · simp only [Implementation.service, powerState, hq.powerController, hclients,
      hq.nextTransactionId, hchanges, hc, hc', Option.map_some, hk.powerState, Option.filter_some,
      hk.running]
    cases c.running <;> simp [hk.powerState, hpending c c' hc hc']

theorem Completes.due_isSome (hs : m.Settled) {isTimedout : Bool} {due : Option Completion}
    (hc : Completes env m isTimedout due m') : due.isSome := by
  cases hc with
  | stored hc hst =>
      obtain ⟨_, h, hh, _⟩ := hs.running _ hc hst.wasRunning
      rw [hh]
      rfl
  | cancelled hc =>
      rw [hs.cancelledControllers] at hc
      simp at hc

theorem toFinset_filter_ne (clients : List (ClientId × String)) (clientId : ClientId) :
    ((clients.filter fun client => client.1 ≠ clientId).map Prod.fst).toFinset =
      (clients.map Prod.fst).toFinset.erase clientId := by
  ext id
  simp only [List.mem_toFinset, List.mem_map, List.mem_filter, Finset.mem_erase,
    decide_eq_true_eq]
  constructor
  · rintro ⟨client, ⟨hmem, hne⟩, rfl⟩
    exact ⟨hne, client, hmem, rfl⟩
  · rintro ⟨hne, client, hmem, rfl⟩
    exact ⟨client, ⟨hmem, hne⟩, rfl⟩

theorem addClient_service (clientName : String) (m : Implementation) :
    (m.addClient clientName).service =
      { m.service with clients := insert (m.nextClientId + 1) m.service.clients } := by
  have hclients : ((m.addClient clientName).modeChangeClients.map Prod.fst).toFinset =
      insert (m.nextClientId + 1) m.service.clients := by
    simp only [addClient, List.map_cons, List.toFinset_cons, toFinset_filter_ne]
    ext id
    by_cases hid : id = m.nextClientId + 1
    · simp [hid]
    · simp [hid, service]
  rw [service, hclients]
  rfl

theorem removePowerModePreChangeClient_service (hs : m.Settled) (clientId : ClientId) :
    (m.removePowerModePreChangeClient env clientId).2.service =
      m.service.step isSyncStateChange ⟨env.accepts, .leave clientId⟩ := by
  have henrolled : clientId ∈ m.service.clients ↔
      ∃ client ∈ m.modeChangeClients, client.1 = clientId := by
    simp [service]
  simp only [Consent.Service.step]
  rcases removePowerModePreChangeClient_eq env clientId with ⟨heq, hno⟩ | ⟨hyes, heq⟩
  · rw [heq, if_neg]
    rintro hmem
    obtain ⟨client, hclient, hid⟩ := henrolled.mp hmem
    exact hno client hclient hid
  · let m₁ : Implementation := { m with
      modeChangeClients := m.modeChangeClients.filter fun client => client.1 ≠ clientId }
    have hs₁ : m₁.Settled := hs.of_same hs.selfLock hs.call rfl rfl rfl rfl rfl
    have hservice₁ : m₁.service =
        { m.service with clients := m.service.clients.erase clientId } := by
      rw [service, toFinset_filter_ne]
      rfl
    rw [heq, if_pos (henrolled.mpr hyes), ← hservice₁]
    cases hc : m.modeChangeController with
    | none =>
        have hproposal : m₁.service.proposal = none := by
          change ((m.modeChangeController.filter _).map _) = none
          rw [hc]
          rfl
        rw [Consent.Service.discharge, hproposal]
        exact service_eq rfl rfl rfl hc.symm rfl
    | some c =>
        have hid : c.transactionId = m₁.service.proposed := hs.transactionId c hc
        have hack := ack_service hs₁ hc env clientId c.transactionId
        rw [if_pos hid] at hack
        exact hack

theorem apiStep_service (hs : m.Settled) {a : ApiAction} (h : m.apiStep env a = some m') :
    m'.service = m.service.after isSyncStateChange (m.consentInput (env, .api a)).toList := by
  have hquiet : m.apiDue a = none → m'.modeChangeClients = m.modeChangeClients →
      (∀ c c', m.modeChangeController = some c → m'.modeChangeController = some c' →
        c'.pending = c.pending) → m'.service = m.service := by
    intro hdue hclients hpending
    rcases apiStep_cases h with ⟨hq, _⟩ | hc
    · exact hq.service hclients hpending
    · have hsome := hc.due_isSome hs
      rw [hdue] at hsome
      cases hsome
  have hsame : ∀ c c', m.modeChangeController = some c → m.modeChangeController = some c' →
      c'.pending = c.pending := by
    intro c c' hc hc'
    rw [Option.some.inj (hc.symm.trans hc')]
  cases a with
  | powerModePreChangeComplete clientId transactionId =>
      cases h
      cases hc : m.modeChangeController with
      | none =>
          have hproposal : m.service.proposal = none := by
            rw [service, hc]
            rfl
          simp only [powerModePreChangeComplete, hc, consentInput_answer, Option.toList_some,
            Consent.Service.after, List.foldl_cons, List.foldl_nil, Consent.Service.step,
            Consent.Service.discharge, hproposal, ite_self]
      | some c =>
          simp only [powerModePreChangeComplete, hc]
          exact ack_service hs hc env clientId transactionId
  | addPowerModePreChangeClient clientName =>
      cases h
      rcases addPowerModePreChangeClient_cases (m := m) env clientName with
        ⟨hnone, heq⟩ | ⟨_, _, hreg, heq⟩
      · rw [heq, consentInput_enrol, hnone]
        rfl
      · rw [heq, consentInput_enrol, hreg]
        exact addClient_service clientName m
  | removePowerModePreChangeClient clientId =>
      cases h
      exact removePowerModePreChangeClient_service hs clientId
  | delayPowerModeChangeBy clientId transactionId delayPeriod =>
      cases h
      cases hc : m.modeChangeController with
      | none =>
          simp only [delayPowerModeChangeBy, hc]
          rfl
      | some c =>
          simp only [delayPowerModeChangeBy, hc] at hquiet ⊢
          refine hquiet rfl trivial fun d d' hd hd' => ?_
          cases hd
          cases hd'
          rcases AckController.reschedule_cases clientId transactionId (delayPeriod * 1000) env.now
            c with heq | ⟨_, _, heq⟩ | ⟨_, _, heq⟩ <;> rw [heq]
  | register kind notification =>
      cases h
      rw [register_snd] at hquiet ⊢
      exact hquiet rfl rfl hsame
  | unregister kind notification =>
      cases h
      rw [unregister_snd] at hquiet ⊢
      exact hquiet rfl rfl hsame
  | preChangeJob i =>
      obtain ⟨job, _, rfl⟩ := Option.map_eq_some_iff.mp h
      exact hquiet rfl rfl hsame
  | event kind =>
      change (if isPlainEvent kind then some (m.dispatchEvent kind) else none) = some m' at h
      split at h
      · cases h
        rw [dispatchEvent_eq] at hquiet ⊢
        exact hquiet rfl rfl hsame
      · cases h

theorem sleepStep_service {a : SleepAction} (h : m.sleepStep env a = some m') :
    m'.service = m.service := by
  obtain ⟨es, hlog, hes⟩ := (sleepStep_background h).log
  obtain ⟨c, _, rfl⟩ := sleepStep_cases h
  exact service_eq rfl rfl rfl rfl (modeChanges_eq hlog fun e he =>
    LogEntry.not_isOutcome_of_isBackground (hes e he))

/-- A request, from the object that it starts in. -/
theorem requested_service {a : AtomicAction} {newState : PowerState} {origin : Origin}
    {m₀ : Implementation} (ha : m.requested a = some (newState, origin, m₀)) (hs₀ : m₀.Settled)
    (hr : Requested env newState origin m₀ m') :
    m'.service = m.service.after isSyncStateChange (m.consentInput (env, a)).toList := by
  have hservice₀ : m₀.service = m.service := by
    obtain ⟨entries, rfl⟩ := requested_eq ha
    rfl
  have hinput : m.consentInput (env, a) =
      (m.proposes env a).map fun newState => ⟨env.accepts, .propose newState⟩ := by
    cases a with
    | setPowerState s => exact Option.map_map ..
    | wakeup i => exact Option.map_map ..
    | timerExpired => cases ha
    | sleep a => cases ha
    | api a => cases ha
  rw [hr.service hs₀, hservice₀, hinput, proposes, ha]
  dsimp only
  split
  · rfl
  · rfl

/-- Every step is one of the service, or none. -/
theorem atomicStep_service (hs : m.Settled) {a : Env × AtomicAction}
    (h : atomicStep m a = some m') :
    m'.service = m.service.after isSyncStateChange (m.consentInput a).toList := by
  obtain ⟨env, a⟩ := a
  rcases atomicStep_cases hs h with ⟨newState, origin, m₀, ha, hs₀, hr⟩ | ⟨hnone, _⟩
  · exact requested_service ha hs₀ hr
  · cases a with
    | setPowerState newState => cases hnone
    | wakeup i =>
        change m.takeWakeup i = none at hnone
        simp [atomicStep, hnone] at h
    | timerExpired => exact timerExpired_service hs h
    | sleep a => exact sleepStep_service h
    | api a => exact apiStep_service hs h

/-! ### Runs -/

/-- The service that PowerManager stands for runs along with it. -/
theorem service_of_run {b : Bool} {pc : PowerController} {as : List (Env × AtomicAction)}
    {m : Implementation} (hr : run atomicStep (init b pc) as = some m) :
    m.service = (init b pc).service.after isSyncStateChange
      (outputs atomicStep consentInput (init b pc) as) :=
  run_mapped (fun _ _ _ hs _ h => settled_step hs h)
    (fun _ _ _ hs _ h => atomicStep_service hs h) (settled_init b pc)
    (along_true (init b pc) as) hr

/-- PowerManager refines the service: after every run its states, clients, open transition and
events are those of the service after the inputs that the actions of the run stand for. -/
theorem powerManager_refines_consent (b : Bool) (pc : PowerController)
    (as : List (Env × AtomicAction)) (m : Implementation)
    (hr : run atomicStep (init b pc) as = some m) :
    m.service = (init b pc).service.after isSyncStateChange
      (outputs atomicStep consentInput (init b pc) as) :=
  service_of_run hr

/-- Two clients acknowledge a transition, one of them after a delay. -/
def consentRun : List (Env × AtomicAction) :=
  [({}, .api (.addPowerModePreChangeClient "first")),
    ({}, .api (.addPowerModePreChangeClient "second")), ({}, .setPowerState .standby),
    ({}, .api (.delayPowerModeChangeBy 1 1 5)), ({}, .setPowerState .standby),
    ({}, .api (.powerModePreChangeComplete 2 1))]

theorem powerManager_refines_consent_awaiting :
    ∃ m, run atomicStep (init false {}) consentRun = some m ∧
      (m.service.proposal.map fun p => (p.target, p.awaited)) = some (.standby, {1}) ∧
      m.service = (init false {}).service.after isSyncStateChange
        (outputs atomicStep consentInput (init false {}) consentRun) := by
  have hr : run atomicStep (init false {}) consentRun = some _ := rfl
  exact ⟨_, hr, rfl, powerManager_refines_consent false {} consentRun _ hr⟩

/-- A client and an ongoing transition: the client acknowledged it, or was removed. -/
def Agreed (transactionId : TransactionId) (clientId : ClientId) (as : List (Env × AtomicAction)) :
    Prop :=
  ∃ a ∈ as, a.2 = .api (.powerModePreChangeComplete clientId transactionId) ∨
    a.2 = .api (.removePowerModePreChangeClient clientId)

/-- Where the actions `as` and then `a` have brought about a change to `newState`: the request `r`,
made in `m₁`, asked for it, no later one for another state, and all clients of then agreed, unless
the timer expired or the change is one that waits for nobody. -/
structure BroughtAbout (start : Implementation) (as : List (Env × AtomicAction))
    (a : Env × AtomicAction) (as₁ : List (Env × AtomicAction)) (r : Env × AtomicAction)
    (as₂ : List (Env × AtomicAction)) (m₁ : Implementation) (newState : PowerState) : Prop where
  actions : as ++ [a] = as₁ ++ r :: as₂
  before : run atomicStep start as₁ = some m₁
  request : m₁.proposes r.1 r.2 = some newState
  last : ∀ as₃ r' as₄ m₂ other, as₂ = as₃ ++ r' :: as₄ →
    run atomicStep m₁ (r :: as₃) = some m₂ → m₂.proposes r'.1 r'.2 = some other →
    other = newState ∨ other = m₁.powerState
  consent : isSyncStateChange m₁.powerState newState = true ∨ a.2 = .timerExpired ∨
    ∀ client ∈ m₁.modeChangeClients, Agreed (m₁.nextTransactionId + 1) client.1 as₂

/-- The action that an input comes from. -/
theorem consentAction_inv {a : AtomicAction} {action : Consent.Action PowerState ClientId}
    (h : m.consentAction env a = some action) :
    match action with
    | .enrol _ => True
    | .leave client => a = .api (.removePowerModePreChangeClient client)
    | .answer client number => a = .api (.powerModePreChangeComplete client number)
    | .propose target => m.proposes env a = some target
    | .timeout => a = .timerExpired := by
  have hrequest : (m.proposes env a).map Consent.Action.propose = some action →
      ∃ target, action = .propose target ∧ m.proposes env a = some target := by
    intro hmap
    obtain ⟨target, htarget, rfl⟩ := Option.map_eq_some_iff.mp hmap
    exact ⟨target, rfl, htarget⟩
  cases a with
  | setPowerState newState =>
      obtain ⟨target, rfl, htarget⟩ := hrequest h
      exact htarget
  | wakeup i =>
      obtain ⟨target, rfl, htarget⟩ := hrequest h
      exact htarget
  | timerExpired =>
      cases h
      rfl
  | sleep a => cases h
  | api a =>
      cases a with
      | powerModePreChangeComplete clientId transactionId =>
          cases h
          rfl
      | addPowerModePreChangeClient clientName =>
          obtain ⟨client, _, rfl⟩ := Option.map_eq_some_iff.mp h
          trivial
      | removePowerModePreChangeClient clientId =>
          cases h
          rfl
      | delayPowerModeChangeBy clientId transactionId delayPeriod => cases h
      | register kind notification => cases h
      | unregister kind notification => cases h
      | preChangeJob i => cases h
      | event kind => cases h

theorem consentAction_propose {a : AtomicAction} {target : PowerState}
    (h : m.proposes env a = some target) : m.consentAction env a = some (.propose target) := by
  cases a with
  | setPowerState newState => exact congrArg (Option.map Consent.Action.propose) h
  | wakeup i => exact congrArg (Option.map Consent.Action.propose) h
  | timerExpired => cases h
  | sleep a => cases h
  | api a => cases h

/-- The actions that answered a proposal. -/
theorem agreed_of_answered {s t : Implementation} {as : List (Env × AtomicAction)}
    (hr : run atomicStep s as = some t) {number : ℕ} {client : ClientId}
    (h : Consent.Service.Answered (σ := PowerState) number client
      (outputs atomicStep consentInput s as)) : Agreed number client as := by
  obtain ⟨input, hmem, haction⟩ := h
  obtain ⟨a, ha, m, hinput⟩ := exists_of_mem_outputs hr hmem
  obtain ⟨action, hconsent, rfl⟩ := Option.map_eq_some_iff.mp hinput
  refine ⟨a, ha, ?_⟩
  rcases haction with heq | heq <;> dsimp only at heq <;> subst heq
  · exact .inl (consentAction_inv hconsent)
  · exact .inr (consentAction_inv hconsent)

/-- Later requests of the abstract run are those of the actions. -/
theorem last_of_proposedBy {s t : Implementation} {as : List (Env × AtomicAction)}
    (hr : run atomicStep s as = some t) {before : Consent.Service PowerState ClientId}
    {target : PowerState}
    (h : ∀ input ∈ outputs atomicStep consentInput s as, ∀ other, input.action = .propose other →
      other = target ∨ other = before.state)
    {as₃ as₄ : List (Env × AtomicAction)} {r : Env × AtomicAction} {m : Implementation}
    {other : PowerState} (has : as = as₃ ++ r :: as₄) (hm : run atomicStep s as₃ = some m)
    (hother : m.proposes r.1 r.2 = some other) : other = target ∨ other = before.state := by
  have hinput : m.consentInput r = some ⟨r.1.accepts, .propose other⟩ := by
    rw [consentInput, consentAction_propose hother]
    rfl
  rw [has, run_append, hm] at hr
  obtain ⟨u, hu, _⟩ := run_cons_eq_some.mp hr
  refine h ⟨r.1.accepts, .propose other⟩ ?_ other rfl
  rw [has, outputs_append hm, outputs_cons hu, hinput]
  simp

/-- In every run an `OnPowerModeChanged` event tells the state out of which and the state into which
the last request that took effect asked to go; it is dispatched only when every client that was
registered at this request has acknowledged the transition or was removed, when the timer expires,
or when the change is one that waits for nobody. -/
theorem power_mode_changes_by_consent (b : Bool) (pc : PowerController)
    (as : List (Env × AtomicAction)) (a : Env × AtomicAction) (m m' : Implementation)
    (hr : run atomicStep (init b pc) as = some m) (hs : atomicStep m a = some m')
    (hchange : m'.modeChanges ≠ m.modeChanges) :
    ∃ as₁ r as₂ m₁ newState, BroughtAbout (init b pc) as a as₁ r as₂ m₁ newState ∧
      m'.modeChanges = m.modeChanges ++ [(m₁.powerState, newState)] := by
  have hr' : run atomicStep (init b pc) (as ++ [a]) = some m' := by
    rw [run_append, hr]
    exact (run_singleton m a).trans hs
  have hm := service_of_run hr
  have hm' := service_of_run hr'
  cases hinput : m.consentInput a with
  | none =>
      have hsame := atomicStep_service (settled_of_reachable ⟨as, hr⟩) hs
      rw [hinput] at hsame
      exact absurd (congrArg Consent.Service.changes hsame) hchange
  | some input =>
      have houtputs : outputs atomicStep consentInput (init b pc) (as ++ [a]) =
          outputs atomicStep consentInput (init b pc) as ++ [input] := by
        rw [outputs_append hr, outputs_cons hs, hinput]
        rfl
      rw [houtputs] at hm'
      have hne : ((init b pc).service.after isSyncStateChange
          (outputs atomicStep consentInput (init b pc) as ++ [input])).changes ≠
          ((init b pc).service.after isSyncStateChange
            (outputs atomicStep consentInput (init b pc) as)).changes := by
        rw [← hm, ← hm']
        exact hchange
      obtain ⟨before, target, later, hproposed, hchanges, hwhy⟩ :=
        Consent.Service.change_by_consent rfl hne
      obtain ⟨earlier, first, hsplit, hfirst, hbefore⟩ := hproposed.split
      -- back from the inputs to the actions
      obtain ⟨as₁, r, as₂, m₁, t, has, hr₁, hs₁, hr₂, hlabel, rfl, rfl⟩ :=
        exists_of_outputs_eq hr' (houtputs.trans hsplit)
      rw [← service_of_run hr₁] at hbefore
      subst hbefore
      obtain ⟨action, hconsent, rfl⟩ := Option.map_eq_some_iff.mp hlabel
      dsimp only at hfirst
      subst hfirst
      refine ⟨as₁, r, as₂, m₁, target, ⟨has, hr₁, consentAction_inv hconsent, ?_, ?_⟩, ?_⟩
      · intro as₃ r' as₄ m₂ other has₂ hm₂ hother
        obtain ⟨u, hu, hm₂⟩ := run_cons_eq_some.mp hm₂
        rw [Option.some.inj (hu.symm.trans hs₁)] at hm₂
        exact last_of_proposedBy hr₂ hproposed.last has₂ hm₂ hother
      · refine hwhy.imp id fun hwhy => hwhy.imp ?_ ?_
        · intro htimeout
          obtain ⟨action, ha, rfl⟩ := Option.map_eq_some_iff.mp hinput
          dsimp only at htimeout
          subst htimeout
          exact consentAction_inv ha
        · intro hall client hclient
          refine agreed_of_answered hr₂ (hall client.1 ?_)
          exact List.mem_toFinset.mpr (List.mem_map.mpr ⟨client, hclient, rfl⟩)
      · rw [← hm, ← hm'] at hchanges
        exact hchanges

theorem power_mode_changes_by_consent_both :
    ∃ m m', run atomicStep (init false {}) consentRun = some m ∧
      atomicStep m ({}, .api (.powerModePreChangeComplete 1 1)) = some m' ∧
      ∃ as₁ r as₂ m₁ newState, BroughtAbout (init false {}) consentRun
          ({}, .api (.powerModePreChangeComplete 1 1)) as₁ r as₂ m₁ newState ∧
        m'.modeChanges = m.modeChanges ++ [(m₁.powerState, newState)] := by
  have hr : run atomicStep (init false {}) consentRun = some _ := rfl
  exact ⟨_, _, hr, rfl, power_mode_changes_by_consent false {} consentRun _ _ _ hr rfl (by decide)⟩

end Implementation

end DeviceAndDisplay.PowerManager
