import DeviceAndDisplay.Verification.PowerManager.DeepSleep
import DeviceAndDisplay.Verification.PowerManager.Retry

/-! # Stale wake-ups

The request at the end of an entry sequence carries no identity of its activation. When the
stay in deep sleep that it belongs to is over, it is a request like any other. -/

namespace DeviceAndDisplay.PowerManager

/-- The wake-up of an activation whose stay in deep sleep is over. -/
def Origin.isStale (stay : ℕ) : Origin → Bool
  | .client => false
  | .wakeup k => k != stay

namespace Implementation

open Transition

variable {env : Env} {m m' : Implementation}

/-- A request for the state is answered without a transition. -/
def Answered (env : Env) (newState : PowerState) (m : Implementation) : Prop :=
  m.Declines env newState ∨ ∃ c ∈ m.modeChangeController, c.powerState = newState

/-- A stale wake-up asks for a state that neither is stored nor is being aimed at. -/
def StaleTransition (m : Implementation) (a : Env × AtomicAction) : Prop :=
  ∃ request ∈ m.requested a.2,
    request.2.1.isStale m.stay = true ∧ ¬ m.Answered a.1 request.1

instance (newState : PowerState) (m : Implementation) : Decidable (m.Answered env newState) :=
  inferInstanceAs (Decidable (_ ∨ _))

instance (m : Implementation) (a : Env × AtomicAction) : Decidable (m.StaleTransition a) :=
  inferInstanceAs (Decidable (∃ request ∈ m.requested a.2, _))

/-- A wake-up of the present stay finds the device in deep sleep. -/
theorem Linked.requested (hl : m.Linked) {a : AtomicAction} {newState : PowerState}
    {origin : Origin} {m₀ : Implementation} (h : m.requested a = some (newState, origin, m₀))
    {k : ℕ} (hk : origin = .wakeup k) (hfresh : origin.isStale m.stay = false) :
    k = m.stay ∧ m.powerState = .standbyDeepSleep := by
  cases a with
  | setPowerState s =>
      cases h
      cases hk
  | wakeup i =>
      obtain ⟨e, wakeup, he, _, _, ho, _⟩ := takeWakeup_eq h
      have hstay : e.stay = k := by
        rw [ho] at hk
        exact Origin.wakeup.inj hk
      rw [hk] at hfresh
      have hsame : k = m.stay := by simpa [Origin.isStale] using hfresh
      have hmem := DeepSleepController.stay_mem_of_entry (List.mem_of_getElem? he)
      exact ⟨hsame, (hl e.stay hmem).2 (hstay.trans hsame)⟩
  | _ => cases h

/-! ### What a wake-up does -/

/-- The step starts no transition and completes none. -/
structure ChangesNothing (m m' : Implementation) : Prop where
  powerController : m'.powerController = m.powerController
  modeChangeController : m'.modeChangeController = m.modeChangeController
  nextTransactionId : m'.nextTransactionId = m.nextTransactionId
  log : ∃ es, m'.log = es ++ m.log ∧ ∀ e ∈ es, e.effectOf = none

theorem Requested.changesNothing_iff {newState : PowerState} {origin : Origin} (hs : m.Settled)
    (h : Requested env newState origin m m') :
    ChangesNothing m m' ↔ m.Answered env newState := by
  have hnew : m'.nextTransactionId = m.nextTransactionId + 1 → ¬ ChangesNothing m m' := by
    intro hnext hc
    exact absurd (hnext.symm.trans hc.nextTransactionId) (Nat.succ_ne_self _)
  cases h with
  | declined hd =>
      apply iff_of_true _ (.inl hd)
      exact ⟨rfl, rfl, rfl, [_, _, _], rfl, by simp [LogEntry.effectOf]⟩
  | redundant _ hc hn =>
      apply iff_of_true _ (.inr ⟨_, hc, hn⟩)
      rw [entered_eq, returnFromCall_eq]
      refine ⟨rfl, rfl, rfl,
        [.returned newState .errorNone, .selfUnlock] ++ (m.wakeLog ++ [.selfLock]), by simp, ?_⟩
      intro e he
      unfold wakeLog at he
      split at he
      · simp at he
        rcases he with rfl | rfl | rfl | rfl <;> rfl
      · simp at he
        rcases he with rfl | rfl | rfl <;> rfl
  | @completed call c hd hfresh hcall hc hat =>
      apply iff_of_false
      · apply hnew
        have he := completionHandler_effect env (call.completion c) false false
          (m.prepared env newState origin)
        rw [returnFromCall_eq]
        change (completionHandler _ _ _ _ _).nextTransactionId = _
        rw [he.frame.nextTransactionId, prepared_eq hs]
      · rintro (h | ⟨d, hd', hn⟩)
        · exact hd h
        · exact hfresh d hd' hn
  | @scheduled call c hd hfresh hcall hc hat =>
      apply iff_of_false
      · apply hnew
        rw [returnFromCall_eq, prepared_eq hs]
      · rintro (h | ⟨d, hd', hn⟩)
        · exact hd h
        · exact hfresh d hd' hn

theorem wakeup_changesNothing_iff (hs : m.Settled) {i : ℕ} {newState : PowerState}
    {origin : Origin} {m₀ : Implementation}
    (hw : m.takeWakeup i = some (newState, origin, m₀))
    (h : atomicStep m (env, .wakeup i) = some m') :
    ChangesNothing m m' ↔ m.Answered env newState := by
  rcases atomicStep_cases hs h with ⟨s, o, m₁, hreq, hs₁, hr⟩ | ⟨hnone, _⟩
  · cases hw.symm.trans hreq
    obtain ⟨entries, rfl⟩ := requested_eq (a := .wakeup i) hw
    rw [← show (m.setEntries entries).Answered env newState ↔ m.Answered env newState from Iff.rfl,
      ← hr.changesNothing_iff hs₁]
    exact ⟨fun ⟨a, b, c, d⟩ => ⟨a, b, c, d⟩, fun ⟨a, b, c, d⟩ => ⟨a, b, c, d⟩⟩
  · exact absurd (hw.symm.trans hnone) (by simp)

/-! ### Wake-ups in a run -/

/-- A wake-up that stores a state belongs to the stay in deep sleep that it ends. -/
structure Owned (m : Implementation) : Prop where
  handler : ∀ c h k, m.modeChangeController = some c → c.running = true → c.handler = some h →
    h.origin = .wakeup k → k = m.stay ∧ m.powerState = .standbyDeepSleep
  log : ∀ h stay result k, .setPowerState h stay result ∈ m.log → h.origin = .wakeup k →
    k = stay ∧ h.currState = .standbyDeepSleep

theorem owned_init (b : Bool) (pc : PowerController) : (init b pc).Owned where
  handler := by simp [init]
  log := by simp [init]

theorem not_mem_wakeLog {h : Completion} {stay : ℕ} {result : ErrorCode} :
    .setPowerState h stay result ∉ m.wakeLog := by
  unfold wakeLog
  split <;> simp

theorem not_mem_preparedLog {h : Completion} {stay : ℕ} {result : ErrorCode} :
    .setPowerState h stay result ∉ m.preparedLog := by
  cases hc : m.modeChangeController with
  | none => simp [preparedLog, hc, not_mem_wakeLog]
  | some c => cases hr : c.running <;> simp [preparedLog, resetLog, hc, hr, not_mem_wakeLog]

theorem mem_completionLog_setPowerState {h h' : Completion} {isTimedout : Bool} {stay : ℕ}
    {result : ErrorCode}
    (he : .setPowerState h' stay result ∈ m.completionLog env h isTimedout false) :
    h' = h ∧ stay = m.stay := by
  rcases mem_completionLog he with he | he | he | he | he | he <;> cases he
  exact ⟨rfl, rfl⟩

theorem Owned.of_same (ho : m.Owned) (hp : m'.powerState = m.powerState)
    (hstay : m'.stay = m.stay) (es : List LogEntry) (hlog : m'.log = es ++ m.log)
    (hes : ∀ h stay result, .setPowerState h stay result ∉ es)
    (hrun : ∀ c', m'.modeChangeController = some c' → c'.running = true →
      ∃ c, m.modeChangeController = some c ∧ c.running = true ∧ c'.handler = c.handler) :
    m'.Owned where
  handler := by
    intro c' h k hc' hr hh hk
    obtain ⟨c, hc, hr', hsame⟩ := hrun c' hc' hr
    rw [hp, hstay]
    exact ho.handler c h k hc hr' (hsame ▸ hh) hk
  log := by
    intro h stay result k he hk
    rw [hlog] at he
    rcases List.mem_append.mp he with he | he
    · exact absurd he (hes h stay result)
    · exact ho.log h stay result k he hk

theorem Owned.of_background (ho : m.Owned) (hb : Background m m') : m'.Owned := by
  obtain ⟨es, hlog, hes⟩ := hb.log
  refine ho.of_same hb.powerState hb.stay es hlog ?_ ?_
  · intro h stay result he
    cases hes _ he
  · intro c' hc' hr
    obtain ⟨c, hc, hk⟩ := hb.stored_of_some hc'
    exact ⟨c, hc, hk.running ▸ hr, hk.handler⟩

theorem Owned.of_completed (ho : m.Owned) {c c' : PreModeChangeController} {h : Completion}
    {isTimedout : Bool} {m₀ : Implementation} (hd : Completed env m m' c c' h isTimedout m₀) :
    m'.Owned := by
  constructor
  · intro d h' k hc' hr _ _
    exact absurd ⟨d, hc', hr⟩ hd.not_transitioning
  · intro h' stay result k he hk
    have hsame : m₀.stay = m.stay ∧ m₀.log = m.log := by
      obtain ⟨clients, rfl⟩ := hd.started
      exact ⟨rfl, rfl⟩
    rw [hd.effect.log, hsame.2] at he
    rcases List.mem_append.mp he with he | he
    · obtain ⟨rfl, rfl⟩ := mem_completionLog_setPowerState he
      obtain ⟨hstay, hds⟩ := ho.handler c h' k hd.stored hd.running hd.handler hk
      exact ⟨hstay.trans hsame.1.symm, hd.serves.currState.trans hds⟩
    · exact ho.log h' stay result k he hk

theorem Owned.of_requested (ho : m.Owned) (hs : m.Settled) {newState : PowerState}
    {origin : Origin} (h : Requested env newState origin m m')
    (hfresh : ¬ m.Answered env newState → ∀ k, origin = .wakeup k →
      k = m.stay ∧ m.powerState = .standbyDeepSleep) : m'.Owned := by
  cases h with
  | declined _ =>
      exact ho.of_same rfl rfl [_, _, _] rfl (by simp) fun c hc hr => ⟨c, hc, hr, rfl⟩
  | redundant _ _ _ =>
      rw [entered_eq, returnFromCall_eq]
      refine ho.of_same rfl rfl
        ([.returned newState .errorNone, .selfUnlock] ++ (m.wakeLog ++ [.selfLock])) (by simp) ?_
        fun c hc hr => ⟨c, hc, hr, rfl⟩
      intro h stay result
      simp [not_mem_wakeLog]
  | @completed call c hd hnew hcall hc hat =>
      have hown := hfresh (by
        rintro (h | ⟨d, hd', hn⟩)
        · exact hd h
        · exact hnew d hd' hn)
      have he := completionHandler_effect env (call.completion c) false false
        (m.prepared env newState origin)
      have hidle := completed_idle env hs newState origin (call.completion c) (!call.isSync)
      constructor
      · intro d h k hd' hr _ _
        exact absurd ⟨d, hd', hr⟩ hidle
      · intro h stay result k hmem hk
        rw [returnFromCall_eq] at hmem
        have hmem : .setPowerState h stay result ∈
            (m.prepared env newState origin).completionLog env (call.completion c) false false ++
              (m.preparedLog ++ m.log) := by
          have hprep : (m.prepared env newState origin).log = m.preparedLog ++ m.log := by
            rw [prepared_eq hs]
          rw [← hprep, ← he.log]
          simpa using hmem
        rcases List.mem_append.mp hmem with hmem | hmem
        · obtain ⟨rfl, rfl⟩ := mem_completionLog_setPowerState hmem
          subst hcall
          rw [prepared_eq hs]
          exact hown k hk
        · rcases List.mem_append.mp hmem with hmem | hmem
          · exact absurd hmem not_mem_preparedLog
          · exact ho.log h stay result k hmem hk
  | @scheduled call c hd hnew hcall hc hat =>
      have hown := hfresh (by
        rintro (h | ⟨d, hd', hn⟩)
        · exact hd h
        · exact hnew d hd' hn)
      rw [returnFromCall_eq, prepared_eq hs]
      constructor
      · rintro d h k ⟨⟩ _ ⟨⟩ hk
        subst hcall
        exact hown k hk
      · intro h stay result k hmem hk
        simp only [if_true, List.cons_append, List.nil_append, List.mem_cons, List.mem_append]
          at hmem
        rcases hmem with hmem | hmem | hmem | hmem
        · cases hmem
        · cases hmem
        · exact absurd hmem not_mem_preparedLog
        · exact ho.log h stay result k hmem hk

theorem owned_step {a : Env × AtomicAction} (hs : m.Settled) (hl : m.Linked) (ho : m.Owned)
    (ha : ¬ m.StaleTransition a) (h : atomicStep m a = some m') : m'.Owned := by
  obtain ⟨env, a⟩ := a
  rcases atomicStep_cases hs h with
    ⟨newState, origin, m₀, hreq, hs₀, hr⟩ | ⟨_, ⟨hb, _⟩ | ⟨_, _, hc⟩⟩
  · obtain ⟨entries, rfl⟩ := requested_eq hreq
    have ho₀ : (m.setEntries entries).Owned := ⟨ho.handler, ho.log⟩
    refine ho₀.of_requested hs₀ hr fun hnot k hk => ?_
    refine hl.requested hreq hk ?_
    by_contra hstale
    exact ha ⟨_, hreq, by simpa using hstale, hnot⟩
  · exact ho.of_background hb
  · obtain ⟨c, c', h, m₀, hd⟩ := hc.completed hs
    exact ho.of_completed hd

theorem linked_atomicStep {a : Env × AtomicAction} (hm : m.Coherent) (hl : m.Linked)
    (h : atomicStep m a = some m') : m'.Coherent ∧ m'.Linked := by
  have hreach : Reachable step m m' := atomicStep_run h
  refine hreach.invariant (I := fun m => m.Coherent ∧ m.Linked) ?_ ⟨hm, hl⟩
  rintro s a t ⟨hm, hl⟩ ht
  exact ⟨coherent_step hm ht, linked_step hm hl ht⟩

/-- As long as no stale wake-up asks for a state that neither is stored nor is being aimed at,
every wake-up that reaches the stored state ends the stay it belongs to. Such a request is
exactly one that changes something. -/
theorem stale_wakeup_changes_nothing_iff (b : Bool) (pc : PowerController) :
    (∀ m, ReachableBy atomicStep (fun m a => ¬ m.StaleTransition a) (init b pc) m →
      ∀ h stay result k, .setPowerState h stay result ∈ m.log → h.origin = .wakeup k →
        k = stay ∧ h.currState = .standbyDeepSleep) ∧
    ∀ m, Reachable atomicStep (init b pc) m → ∀ env i newState origin m₀ m',
      m.takeWakeup i = some (newState, origin, m₀) → atomicStep m (env, .wakeup i) = some m' →
        (ChangesNothing m m' ↔ m.Answered env newState) := by
  constructor
  · intro m hm
    have hinv : m.Settled ∧ (m.Coherent ∧ m.Linked) ∧ m.Owned := by
      refine hm.invariant (I := fun m => m.Settled ∧ (m.Coherent ∧ m.Linked) ∧ m.Owned) ?_ ?_
      · rintro s ⟨env, a⟩ t ⟨hs, hl, ho⟩ hC ht
        exact ⟨settled_step hs ht, linked_atomicStep hl.1 hl.2 ht, owned_step hs hl.2 ho hC ht⟩
      · exact ⟨settled_init b pc, ⟨coherent_init b pc, linked_init b pc⟩, owned_init b pc⟩
    exact hinv.2.2.log
  · intro m hm env i newState origin m₀ m' hw h
    exact wakeup_changesNothing_iff (settled_of_reachable hm) hw h

/-- A user switches the device on while it sleeps, and `SetDeepSleep` reports a user wake-up. -/
def userWakeupRun : List (Env × AtomicAction) :=
  [({}, .setPowerState .standbyDeepSleep), ({}, .sleep (.performActivate 0)),
    ({}, .sleep (.setDeepSleep 0)), ({ now := 6000000 }, .setPowerState .on),
    ({}, .sleep (.sleepReturned 0 .errorNone true))]

theorem stale_wakeup_changes_nothing_user :
    ∃ m m', run atomicStep (init false {}) userWakeupRun = some m ∧
      atomicStep m ({}, .wakeup 0) = some m' ∧ m.powerState = .on ∧ ChangesNothing m m' := by
  have hr : run atomicStep (init false {}) userWakeupRun = some _ := rfl
  have h := (stale_wakeup_changes_nothing_iff false {}).2 _ ⟨_, hr⟩ {} 0 .on (.wakeup 0) _ _ rfl rfl
  exact ⟨_, _, hr, rfl, by decide, h.mpr (by decide)⟩

/-- The same when `SetDeepSleep` does not tell the user's wake-up from the timer's. -/
def timerWakeupRun : List (Env × AtomicAction) :=
  [({}, .setPowerState .standbyDeepSleep), ({}, .sleep (.performActivate 0)),
    ({}, .sleep (.setDeepSleep 0)), ({ now := 6000000 }, .setPowerState .on),
    ({}, .sleep (.sleepReturned 0 .errorNone false)), ({}, .sleep (.announce 0)),
    ({}, .wakeup 0)]

theorem stale_wakeup_leaves_on :
    ∃ m h, run atomicStep (init false {}) timerWakeupRun = some m ∧
      .setPowerState h 1 .errorNone ∈ m.log ∧ h.origin = .wakeup 0 ∧ h.currState = .on ∧
      m.powerState = .standbyLightSleep :=
  ⟨_, ⟨.on, .standbyLightSleep, false, 3, .wakeup 0, 1⟩, rfl, by decide, rfl, rfl, by decide⟩

end Implementation

end DeviceAndDisplay.PowerManager
