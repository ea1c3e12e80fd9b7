import DeviceAndDisplay.Verification.PowerManager.Log

/-! # Acknowledgements during Schedule

`Schedule` tests the pending set before it sets `_running`. An acknowledgement that empties the
set in between calls no handler, and then only the timer is left to call it. -/

namespace DeviceAndDisplay.PowerManager

/-! ### Handler calls in the log -/

/-- The arguments of the handler calls of a transaction, newest first. -/
def handlerRuns (t : TransactionId) (log : List LogEntry) : List (Bool × Bool) :=
  log.filterMap fun e =>
    match e with
    | .completionHandler t' isTimedout isAborted =>
        if t' = t then some (isTimedout, isAborted) else none
    | _ => none

theorem handlerRuns_append (t : TransactionId) (es log : List LogEntry) :
    handlerRuns t (es ++ log) = handlerRuns t es ++ handlerRuns t log :=
  List.filterMap_append

theorem handlerRuns_eq_nil {t : TransactionId} {log : List LogEntry}
    (h : ∀ a b, .completionHandler t a b ∉ log) : handlerRuns t log = [] := by
  apply List.filterMap_eq_nil_iff.mpr
  intro e he
  cases e with
  | completionHandler t' a b =>
      apply if_neg
      rintro rfl
      exact h a b he
  | _ => rfl

theorem not_mem_of_isNeutral {es : List LogEntry} (hes : ∀ e ∈ es, e.isNeutral = true)
    (t : TransactionId) (a b : Bool) : .completionHandler t a b ∉ es := by
  intro he
  cases hes _ he

namespace Implementation

open Transition

variable {env : Env} {m m' : Implementation} {t : TransactionId}

theorem not_mem_deviceLog (h : Completion) (t : TransactionId) (a b : Bool) :
    .completionHandler t a b ∉ m.deviceLog env h := by
  unfold deviceLog
  intro he
  rcases List.mem_append.mp he with he | he
  · split at he
    · rcases List.mem_append.mp he with he | he
      · cases isListener_of_mem_callbacks he
      · simp at he
    · simp at he
  · split at he <;> simp at he

theorem handlerRuns_completionLog (h : Completion) (isTimedout : Bool) :
    handlerRuns h.transactionId (m.completionLog env h isTimedout false) =
      [(isTimedout, false)] := by
  have hsplit : m.completionLog env h isTimedout false =
      ((if h.isSync then [.selfUnlock] else []) ++ .release h.transactionId :: m.deviceLog env h) ++
        [.completionHandler h.transactionId isTimedout false] := by
    simp [completionLog]
  rw [hsplit, handlerRuns_append, handlerRuns_eq_nil]
  · simp [handlerRuns]
  · intro a b he
    rcases List.mem_append.mp he with he | he
    · split at he <;> simp at he
    · rcases List.mem_cons.mp he with he | he
      · cases he
      · exact not_mem_deviceLog h _ a b he

theorem eq_of_mem_completionLog {h : Completion} {isTimedout : Bool} {a b : Bool}
    (he : .completionHandler t a b ∈ m.completionLog env h isTimedout false) :
    t = h.transactionId := by
  rcases mem_completionLog he with he | he | he | he | he | he <;> cases he
  rfl

/-! ### Transactions whose handler was called -/

/-- Handlers are called for installed transactions only, and not before `Schedule` runs. -/
structure Handled (m : Implementation) : Prop where
  installed : ∀ t a b, .completionHandler t a b ∈ m.log → t ≤ m.nextTransactionId
  scheduled : ∀ call, m.call = some call → call.phase ≠ .checked → call.phase ≠ .armed →
    ∀ t a b, .completionHandler t a b ∈ m.log → t < m.nextTransactionId

theorem handled_init (b : Bool) (pc : PowerController) : (init b pc).Handled where
  installed := by simp [init]
  scheduled := by simp [init]

/-- A step that neither calls a handler nor moves the call under way. -/
theorem Handled.of_log (hh : m.Handled) (hnext : m'.nextTransactionId = m.nextTransactionId)
    (hcall : ∀ call, m'.call = some call → call.phase ≠ .checked → call.phase ≠ .armed →
      ∃ call', m.call = some call' ∧ call'.phase ≠ .checked ∧ call'.phase ≠ .armed)
    (es : List LogEntry) (hlog : m'.log = es ++ m.log)
    (hes : ∀ t a b, .completionHandler t a b ∉ es) : m'.Handled where
  installed := by
    intro t a b he
    rw [hlog] at he
    rw [hnext]
    exact hh.installed t a b ((List.mem_append.mp he).resolve_left (hes t a b))
  scheduled := by
    intro call hc hp hp' t a b he
    obtain ⟨call', hc', hq, hq'⟩ := hcall call hc hp hp'
    rw [hlog] at he
    rw [hnext]
    exact hh.scheduled call' hc' hq hq' t a b ((List.mem_append.mp he).resolve_left (hes t a b))

theorem Handled.of_advances (hh : m.Handled) (hm : m.Coherent) {call : Call}
    {due : Option Completion} (hcall : m.call = some call) (h : Advances env m call due m') :
    m'.Handled := by
  cases h with
  | redundant | starts =>
      rw [returnFromCall_eq]
      exact hh.of_log rfl (by simp) [.returned call.newState .errorNone, .selfUnlock] rfl (by simp)
  | @installs log cs hp hr =>
      have hlt : ∀ t a b, .completionHandler t a b ∈
          .addRef (m.nextTransactionId + 1) :: (log ++ m.log) → t < m.nextTransactionId + 1 := by
        intro t a b he
        rcases List.mem_cons.mp he with he | he
        · cases he
        · rcases List.mem_append.mp he with he | he
          · rcases mem_reset hm hr he with he | he | he <;> cases he
            exact Nat.lt_succ_self _
          · exact Nat.lt_succ_of_le (hh.installed t a b he)
      exact ⟨fun t a b he => (hlt t a b he).le, fun _ _ _ _ => hlt⟩
  | submits hp | tests hp =>
      refine hh.of_log rfl ?_ [] rfl (by simp)
      rintro _ ⟨⟩ _ _
      exact ⟨call, hcall, by simp [hp], by simp [hp]⟩
  | @completes c hp hc _ _ =>
      have he := completionHandler_effect env (call.completion c) false false m
      rw [returnFromCall_eq]
      refine ⟨?_, by simp⟩
      intro t a b hmem
      change t ≤ (completionHandler _ _ _ _ _).nextTransactionId
      rw [he.frame.nextTransactionId]
      have hmem : .completionHandler t a b ∈
          m.completionLog env (call.completion c) false false ++ m.log := by
        rw [← he.log]
        simpa using hmem
      rcases List.mem_append.mp hmem with hmem | hmem
      · rw [eq_of_mem_completionLog hmem]
        exact (hm.transactionId c hc).le
      · exact hh.installed t a b hmem
  | arms =>
      refine hh.of_log rfl ?_ [] rfl (by simp)
      rintro _ ⟨⟩ _ hph
      exact absurd rfl hph

theorem handled_step {a : Env × Action} (hm : m.Coherent) (hh : m.Handled)
    (h : step m a = some m') : m'.Handled := by
  rcases step_cases hm h with
    ⟨s, origin, m₀, henter, h⟩ | ⟨call, _, hcall, hadv⟩ | ⟨hb, _⟩ | ⟨s, _, hs⟩ |
      ⟨c, hc, isTimedout, m₀, he, _⟩
  · obtain ⟨entries, rfl⟩ := entering_eq henter
    obtain ⟨⟨es, hlog, hes⟩, hnext⟩ := enter_log h
    refine hh.of_log hnext ?_ es hlog (not_mem_of_isNeutral hes)
    obtain ⟨_, ⟨_, rfl⟩ | ⟨_, rfl⟩⟩ := enterSetPowerState_cases h
    · simp
    · rintro call ⟨⟩ hp _
      exact absurd rfl hp
  · exact hh.of_advances hm hcall hadv
  · obtain ⟨es, hlog, hes⟩ := hb.listener
    refine hh.of_log hb.nextTransactionId ?_ es hlog fun t a b he => ?_
    · rw [hb.call]
      exact fun call hcall hp hp' => ⟨call, hcall, hp, hp'⟩
    · cases hes _ he
  · have hb := sleepStep_background hs
    obtain ⟨es, hlog, hes⟩ := hb.log
    refine hh.of_log hb.nextTransactionId ?_ es hlog fun t a b he => ?_
    · rw [hb.call]
      exact fun call hcall hp hp' => ⟨call, hcall, hp, hp'⟩
    · cases hes _ he
  · -- the handler of a running controller: no call is between its installation and `Schedule`
    have hr := he.runs hm
    have hsame := he.same
    have hlog : m'.log = m₀.completionLog a.1 hc isTimedout false ++ m.log := by
      rw [he.effect.log, hsame]
    have hcall : m'.call = m.call := by
      rw [he.effect.frame.call, hsame]
    constructor
    · intro t a b hmem
      rw [hr.nextTransactionId]
      rw [hlog] at hmem
      rcases List.mem_append.mp hmem with hmem | hmem
      · rw [eq_of_mem_completionLog hmem, hr.transactionId]
        rcases he.known with ⟨hst, _⟩ | ⟨hmem, _⟩
        · exact (hm.transactionId c hst).le
        · exact (hm.cancelled c hmem).2.le
      · exact hh.installed t a b hmem
    · intro call hc' hp hp' t a b hmem
      rw [hcall] at hc'
      rw [hr.nextTransactionId]
      rw [hlog] at hmem
      rcases List.mem_append.mp hmem with hmem | hmem
      · rw [eq_of_mem_completionLog hmem, hr.transactionId]
        rcases he.known with ⟨hst, _⟩ | ⟨hmem, _⟩
        · obtain ⟨d, hd, hat⟩ := hm.working call hc' hp
          rw [← Option.some.inj (hst.symm.trans hd)] at hat
          exact absurd ((hat.unarmed hp').1.symm.trans he.running) (by simp)
        · exact (hm.cancelled c hmem).2
      · exact hh.scheduled call hc' hp hp' t a b hmem

/-! ### From the installation to the last acknowledgement -/

/-- The steps of `Schedule` and of API calls. -/
def InWindow (a : Env × Action) : Prop :=
  a.2 = .advance ∨ ∃ api, a.2 = .api api

/-- Where the transaction of the stored controller has got to. -/
inductive Stage (t : TransactionId) (m : Implementation) : Prop
  | unarmed {call : Call} {c : PreModeChangeController} (hcall : m.call = some call)
      (hp : call.phase ≠ .checked) (hp' : call.phase ≠ .armed)
      (hc : m.modeChangeController = some c) (ht : c.transactionId = t)
      (hruns : handlerRuns t m.log = [])
  | waiting {c : PreModeChangeController} (hp : ∀ call, m.call = some call → call.phase = .armed)
      (hc : m.modeChangeController = some c) (ht : c.transactionId = t) (hr : c.running = true)
      (hruns : handlerRuns t m.log = [])
  | completed {c : PreModeChangeController} (hp : ∀ call, m.call = some call → call.phase = .armed)
      (hc : m.modeChangeController = some c) (ht : c.transactionId = t) (hr : c.running = false)
      (hruns : handlerRuns t m.log = [(false, false)])

/-- The controller waits for clients, and no client is left that it waits for. -/
def Deaf (m : Implementation) : Prop :=
  ∃ c ∈ m.modeChangeController, c.running = true ∧ c.pending = ∅

/-- `Schedule` sets `_running` when every client has acknowledged since its test. -/
def ArmsDeaf (m : Implementation) (a : Env × Action) : Prop :=
  a.2 = .advance ∧ ∃ call ∈ m.call, call.phase = .tested ∧
    ∃ c ∈ m.modeChangeController, c.pending = ∅

instance (m : Implementation) (a : Env × Action) : Decidable (m.ArmsDeaf a) :=
  inferInstanceAs (Decidable (_ ∧ _))

theorem deaf_iff {c : PreModeChangeController} (hc : m.modeChangeController = some c) :
    m.Deaf ↔ c.running = true ∧ c.pending = ∅ := by
  simp [Deaf, hc]

theorem armsDeaf_iff {call : Call} {c : PreModeChangeController} (hcall : m.call = some call)
    (hc : m.modeChangeController = some c) :
    m.ArmsDeaf (env, .advance) ↔ call.phase = .tested ∧ c.pending = ∅ := by
  simp [ArmsDeaf, hcall, hc]

/-- The last acknowledgement of a transaction calls the handler of the stored controller. -/
theorem Completes.acknowledged (hm : m.Coherent) {due : Option Completion}
    (h : Completes env m false due m') : ∃ c c', m.modeChangeController = some c ∧
      c.Stopped c' ∧ due ≠ none ∧ m'.modeChangeController = some c' ∧ m'.call = m.call ∧
      handlerRuns c.transactionId m'.log = (false, false) :: handlerRuns c.transactionId m.log := by
  cases h with
  | @stored c c' clients _ hc hs =>
      obtain ⟨h, hh⟩ := (hm.sound c hc).running hs.wasRunning
      have ht : h.transactionId = c.transactionId := ((hm.sound c hc).handler h hh).1
      rw [runHandler_callHandler hh]
      have he := completionHandler_effect env h false false
        { m with modeChangeController := some c', modeChangeClients := clients }
      refine ⟨c, c', hc, hs, by simp [hh], he.frame.modeChangeController, he.frame.call, ?_⟩
      rw [he.log, handlerRuns_append, ← ht, handlerRuns_completionLog]
      rfl

theorem apiDue_pending {a : ApiAction} (h : m.apiDue a ≠ none) {c : PreModeChangeController}
    (hc : m.modeChangeController = some c) : c.pending ≠ ∅ := by
  have hlast : ∀ clientId transactionId,
      (if c.IsLastAck clientId transactionId then c.handler else none) ≠ none → c.pending ≠ ∅ := by
    intro clientId transactionId hne
    split at hne
    · rename_i hack
      rw [hack.2.2]
      exact Finset.singleton_ne_empty clientId
    · exact absurd rfl hne
  cases a with
  | powerModePreChangeComplete clientId transactionId =>
      simp only [apiDue, ackDue, hc, Option.bind_some] at h
      exact hlast _ _ h
  | removePowerModePreChangeClient clientId =>
      simp only [apiDue, hc, Option.bind_some] at h
      split at h
      · exact hlast _ _ h
      · exact absurd rfl h
  | _ => exact absurd rfl h

theorem Quiet.handlerRuns_eq (h : Quiet m m') (t : TransactionId) :
    handlerRuns t m'.log = handlerRuns t m.log := by
  obtain ⟨es, hlog, hes⟩ := h.listener
  rw [hlog, handlerRuns_append, handlerRuns_eq_nil, List.nil_append]
  intro a b he
  cases hes _ he

theorem handlerRuns_returnFromCall (t : TransactionId) (newState : PowerState) (unlock : Bool)
    (m : Implementation) :
    handlerRuns t (m.returnFromCall newState unlock).log = handlerRuns t m.log := by
  cases unlock <;> rfl

/-- The last part of a call starts the timer. -/
theorem Advances.of_armed {call : Call} {due : Option Completion}
    (h : Advances env m call due m') (harm : call.phase = .armed) :
    ∃ c, m.modeChangeController = some c ∧ m' = { m with
      modeChangeController := some (c.startTimer env.now (call.timeOut * 1000))
      }.returnFromCall call.newState true := by
  cases h with
  | @starts c _ hc _ _ => exact ⟨c, hc, rfl⟩
  | redundant hp | installs hp | submits hp | completes hp | tests hp | arms hp =>
      exact absurd (hp.symm.trans harm) (by simp)

theorem Stage.of_advances {call : Call} {due : Option Completion} (hs : m.Stage t)
    (hcall : m.call = some call) (h : Advances env m call due m') : m'.Stage t := by
  cases hs with
  | @unarmed call' c hcall' hp hp' hc ht hruns =>
      cases hcall'.symm.trans hcall
      cases h with
      | redundant hph | installs hph => exact absurd hph hp
      | starts hph => exact absurd hph hp'
      | submits | tests => exact .unarmed rfl (by simp) (by simp) hc ht hruns
      | @completes d _ hd hat _ =>
          cases hc.symm.trans hd
          have he := completionHandler_effect env (call.completion c) false false m
          have hmcc := he.frame.modeChangeController.trans hc
          refine .completed (by simp) ((returnFromCall_controller _ _ _).trans hmcc) ht
            (hat.unarmed hp').1 ?_
          have htid : (call.completion c).transactionId = t := ht
          rw [handlerRuns_returnFromCall, he.log, handlerRuns_append, hruns, ← htid,
            handlerRuns_completionLog]
          rfl
      | @arms d _ hd _ _ =>
          cases hc.symm.trans hd
          refine .waiting ?_ rfl ht rfl hruns
          rintro _ ⟨⟩
          rfl
  | @waiting c hp hc ht hr hruns =>
      obtain ⟨d, hd, rfl⟩ := h.of_armed (hp call hcall)
      cases hc.symm.trans hd
      refine .waiting (by simp) (returnFromCall_controller _ _ _) ht hr ?_
      rw [handlerRuns_returnFromCall]
      exact hruns
  | @completed c hp hc ht hr hruns =>
      obtain ⟨d, hd, rfl⟩ := h.of_armed (hp call hcall)
      cases hc.symm.trans hd
      refine .completed (by simp) (returnFromCall_controller _ _ _) ht hr ?_
      rw [handlerRuns_returnFromCall]
      exact hruns

theorem stage_step {a : Env × Action} (hm : m.Coherent) (hs : m.Stage t) (ha : InWindow a)
    (h : step m a = some m') : m'.Stage t := by
  obtain ⟨env, a⟩ := a
  rcases ha with rfl | ⟨api, rfl⟩
  · obtain ⟨call, hcall, rfl⟩ := Option.map_eq_some_iff.mp h
    exact hs.of_advances hcall (advance_cases env hm hcall)
  · rcases apiStep_cases h with ⟨hq, _⟩ | hc
    · have hlog := hq.handlerRuns_eq t
      cases hs with
      | unarmed hcall hp hp' hc ht hruns =>
          obtain ⟨c', hc', hk⟩ := hq.stored_of_some' hc
          exact .unarmed (hq.call.trans hcall) hp hp' hc' (hk.transactionId.trans ht)
            (hlog.trans hruns)
      | waiting hp hc ht hr hruns =>
          obtain ⟨c', hc', hk⟩ := hq.stored_of_some' hc
          exact .waiting (hq.call ▸ hp) hc' (hk.transactionId.trans ht) (hk.running.trans hr)
            (hlog.trans hruns)
      | completed hp hc ht hr hruns =>
          obtain ⟨c', hc', hk⟩ := hq.stored_of_some' hc
          exact .completed (hq.call ▸ hp) hc' (hk.transactionId.trans ht) (hk.running.trans hr)
            (hlog.trans hruns)
    · obtain ⟨d, c', hd, hst, _, hc', hcall', hlog⟩ := hc.acknowledged hm
      cases hs with
      | unarmed hcall hp hp' hc _ _ =>
          obtain ⟨e, he, hat⟩ := hm.working _ hcall hp
          rw [← Option.some.inj (hd.symm.trans he)] at hat
          exact absurd ((hat.unarmed hp').1.symm.trans hst.wasRunning) (by simp)
      | waiting hp hc ht _ hruns =>
          cases hd.symm.trans hc
          refine .completed (hcall' ▸ hp) hc' (hst.transactionId.trans ht) hst.running ?_
          rw [← ht, hlog, ht, hruns]
      | completed _ hc _ hr _ =>
          cases hd.symm.trans hc
          exact absurd (hr.symm.trans hst.wasRunning) (by simp)

theorem Stage.deaf_advances {call : Call} {due : Option Completion} (hs : m.Stage t)
    (hcall : m.call = some call) (h : Advances env m call due m') :
    m'.Deaf ↔ m.Deaf ∨ m.ArmsDeaf (env, .advance) := by
  cases hs with
  | @unarmed call' c hcall' hp hp' hc ht hruns =>
      cases hcall'.symm.trans hcall
      have hsame : c.running = false → ∀ m' : Implementation, m'.modeChangeController = some c →
          call.phase ≠ .tested → (m'.Deaf ↔ m.Deaf ∨ m.ArmsDeaf (env, .advance)) := by
        intro hidle m' hc' hph
        rw [deaf_iff hc', deaf_iff hc, armsDeaf_iff hcall hc]
        simp [hidle, hph]
      cases h with
      | redundant hph | installs hph => exact absurd hph hp
      | starts hph => exact absurd hph hp'
      | @submits d hph hd hat | @tests d hph hd hat =>
          cases hc.symm.trans hd
          exact hsame (hat.unarmed hp').1 _ hc (by simp [hph])
      | @completes d hph hd hat _ =>
          cases hc.symm.trans hd
          have he := completionHandler_effect env (call.completion c) false false m
          have hmcc := he.frame.modeChangeController.trans hc
          exact hsame (hat.unarmed hp').1 _ ((returnFromCall_controller _ _ _).trans hmcc)
            (by simp [hph])
      | @arms d hph hd hat _ =>
          cases hc.symm.trans hd
          rw [deaf_iff rfl, deaf_iff hc, armsDeaf_iff hcall hc]
          simp [AckController.arm, (hat.unarmed hp').1, hph]
  | @waiting c hp hc _ _ _ | @completed c hp hc _ _ _ =>
      obtain ⟨d, hd, rfl⟩ := h.of_armed (hp call hcall)
      cases hc.symm.trans hd
      rw [deaf_iff (returnFromCall_controller _ _ _), armsDeaf_iff hcall hc, deaf_iff hc,
        hp call hcall]
      simp [AckController.startTimer]

theorem deaf_step {a : Env × Action} (hm : m.Coherent) (hs : m.Stage t) (ha : InWindow a)
    (h : step m a = some m') : m'.Deaf ↔ m.Deaf ∨ m.ArmsDeaf a := by
  obtain ⟨env, a⟩ := a
  rcases ha with rfl | ⟨api, rfl⟩
  · obtain ⟨call, hcall, rfl⟩ := Option.map_eq_some_iff.mp h
    exact hs.deaf_advances hcall (advance_cases env hm hcall)
  · have hnot : ¬ m.ArmsDeaf (env, .api api) := by
      rintro ⟨⟨⟩, _⟩
    rw [or_iff_left hnot]
    obtain ⟨c, hc⟩ : ∃ c, m.modeChangeController = some c := by
      cases hs with
      | unarmed _ _ _ hc _ _ => exact ⟨_, hc⟩
      | waiting _ hc _ _ _ => exact ⟨_, hc⟩
      | completed _ hc _ _ _ => exact ⟨_, hc⟩
    rcases apiStep_cases h with ⟨hq, _⟩ | hdone
    · obtain ⟨c', hc', hk⟩ := hq.stored_of_some' hc
      rw [deaf_iff hc', deaf_iff hc, hk.running]
      refine and_congr_right fun hr => ⟨fun hempty => ?_, fun hempty => ?_⟩
      · by_contra hne
        exact hk.nonempty hr hne hempty
      · have hsub := hk.pending
        rw [hempty] at hsub
        exact Finset.subset_empty.mp hsub
    · obtain ⟨d, c', hd, hst, hdue, hc', _, _⟩ := hdone.acknowledged hm
      rw [deaf_iff hc', deaf_iff hc, hst.running]
      have hpending := apiDue_pending hdue hc
      simp [hpending]

/-! ### The result -/

/-- Once `Schedule` has returned and nobody is awaited any more, the handler has run exactly once
and not timed out, unless the last acknowledgement fell between the test of the pending set and
the setting of `_running`. -/
theorem acknowledged_iff {b : Bool} {pc : PowerController} {m₀ : Implementation} {call : Call}
    {c : PreModeChangeController} {as : List (Env × Action)}
    (hm₀ : Reachable step (init b pc) m₀) (hcall : m₀.call = some call)
    (hp : call.phase = .installed) (has : ∀ a ∈ as, InWindow a) (hr : run step m₀ as = some m)
    (hreturned : m.call = none) (hc : m.modeChangeController = some c) (hacked : c.pending = ∅) :
    handlerRuns m₀.nextTransactionId m.log = [(false, false)] ↔
      Along step (fun m a => ¬ m.ArmsDeaf a) m₀ as := by
  have hinv : m₀.Coherent ∧ m₀.Handled := by
    refine hm₀.invariant (I := fun m => m.Coherent ∧ m.Handled) ?_
      ⟨coherent_init b pc, handled_init b pc⟩
    exact fun s a t ⟨hm, hh⟩ ht => ⟨coherent_step hm ht, handled_step hm hh ht⟩
  obtain ⟨hm, hh⟩ := hinv
  obtain ⟨d, hd, hat⟩ := hm.working call hcall (by simp [hp])
  have hstage : m₀.Stage m₀.nextTransactionId := by
    refine .unarmed hcall (by simp [hp]) (by simp [hp]) hd (hm.transactionId d hd) ?_
    apply handlerRuns_eq_nil
    intro a b he
    exact absurd (hh.scheduled call hcall (by simp [hp]) (by simp [hp]) _ a b he) (Nat.lt_irrefl _)
  have hfresh : ¬ m₀.Deaf := by
    rw [deaf_iff hd, (hat.unarmed (by simp [hp])).1]
    simp
  have hend : m.Coherent ∧ m.Stage m₀.nextTransactionId := by
    refine run_invariant (C := fun _ a => InWindow a)
      (I := fun m => m.Coherent ∧ m.Stage m₀.nextTransactionId) ?_ ⟨hm, hstage⟩ ?_ hr
    · exact fun s a t ⟨hm, hs⟩ ha ht => ⟨coherent_step hm ht, stage_step hm hs ha ht⟩
    · exact along_of_forall fun a ha _ => has a ha
  have hdeaf : ¬ m.Deaf ↔ ¬ m₀.Deaf ∧ Along step (fun m a => ¬ m.ArmsDeaf a) m₀ as := by
    refine run_iff_along (D := InWindow) (P := fun m => ¬ m.Deaf)
      (I := fun m => m.Coherent ∧ m.Stage m₀.nextTransactionId) ?_ ?_ ⟨hm, hstage⟩ has hr
    · exact fun s a t ⟨hm, hs⟩ ha ht => ⟨coherent_step hm ht, stage_step hm hs ha ht⟩
    · rintro s a t ⟨hm, hs⟩ ha ht
      rw [deaf_step hm hs ha ht, not_or]
  have hruns : handlerRuns m₀.nextTransactionId m.log = [(false, false)] ↔ ¬ m.Deaf := by
    rw [deaf_iff hc]
    cases hend.2 with
    | unarmed hcall' _ _ _ _ _ => exact absurd (hreturned.symm.trans hcall') (by simp)
    | waiting _ hc' _ hrun hruns =>
        cases hc.symm.trans hc'
        simp [hruns, hrun, hacked]
    | completed _ hc' _ hrun hruns =>
        cases hc.symm.trans hc'
        simp [hruns, hrun]
  rw [hruns, hdeaf, and_iff_right hfresh]

/-- A client is awaited, and the controller of a request for standby is installed. -/
def installedRun : List (Env × Action) :=
  [({}, .api (.addPowerModePreChangeClient "client")), ({}, .setPowerState .standby),
    ({}, .advance)]

/-- The client acknowledges before the timer job is there. -/
def acknowledgedEarly : List (Env × Action) :=
  [({}, .advance), ({}, .advance), ({}, .advance), ({}, .api (.powerModePreChangeComplete 1 1)),
    ({}, .advance)]

theorem acknowledged_before_timer :
    ∃ m₀ m, run step (init false {}) installedRun = some m₀ ∧
      run step m₀ acknowledgedEarly = some m ∧ handlerRuns 1 m.log = [(false, false)] := by
  have hm₀ : run step (init false {}) installedRun = some _ := rfl
  have hr : run step (init false {}) (List.append installedRun acknowledgedEarly) = some _ := rfl
  refine ⟨_, _, hm₀, hr, ?_⟩
  refine (acknowledged_iff ⟨_, hm₀⟩ rfl rfl ?_ hr rfl rfl rfl).mpr (by decide)
  simp [acknowledgedEarly, InWindow]

/-- The client acknowledges between the test and the setting of `_running`. -/
def acknowledgedUnheard : List (Env × Action) :=
  [({}, .advance), ({}, .advance), ({}, .api (.powerModePreChangeComplete 1 1)), ({}, .advance),
    ({}, .advance)]

theorem acknowledgement_lost :
    ∃ m₀ m c, run step (init false {}) installedRun = some m₀ ∧
      run step m₀ acknowledgedUnheard = some m ∧ m.call = none ∧
      m.modeChangeController = some c ∧ c.pending = ∅ ∧ c.running = true ∧
      handlerRuns 1 m.log = [] :=
  ⟨_, _, _, rfl, rfl, rfl, rfl, rfl, rfl, by decide⟩

end Implementation

end DeviceAndDisplay.PowerManager
