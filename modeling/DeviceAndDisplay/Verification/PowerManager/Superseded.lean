import DeviceAndDisplay.Verification.PowerManager.Log

/-! # Superseded transitions

A request that finds another transition pending resets its controller. The reset aborts the
handler if it destroys the controller, which it does not while a dispatched timer job holds a
reference: that job then finds the controller running and completes the transition. -/

namespace DeviceAndDisplay.PowerManager

/-- The transaction an entry completes without aborting it. -/
def LogEntry.effectOf : LogEntry → Option TransactionId
  | .platformSetPowerState transactionId _ => some transactionId
  | .powerModeChanged transactionId _ _ => some transactionId
  | .completionHandler transactionId _ false => some transactionId
  | _ => none

/-- The transaction an entry cancels. -/
def LogEntry.cancels : LogEntry → Option TransactionId
  | .cancelled transactionId => some transactionId
  | _ => none

theorem LogEntry.effectOf_of_isBackground {e : LogEntry} (h : e.isBackground = true) :
    e.effectOf = none := by
  cases e <;> first | rfl | cases h

theorem LogEntry.effectOf_of_isNeutral {e : LogEntry} (h : e.isNeutral = true) :
    e.effectOf = none := by
  cases e <;> first | rfl | cases h

namespace Implementation

open Transition

variable {env : Env} {m m' : Implementation}

/-! ### Cancelled controllers -/

/-- A call is about to reset a running controller while a dispatched timer job refers to it. -/
def CancelsDispatched (m : Implementation) (action : Env × Action) : Prop :=
  action.2 = .advance ∧ ∃ call ∈ m.call, ∃ c ∈ m.modeChangeController,
    call.phase = .checked ∧ c.powerState ≠ call.newState ∧ c.running = true ∧ c.dispatched ≠ 0

instance (m : Implementation) (action : Env × Action) : Decidable (m.CancelsDispatched action) :=
  inferInstanceAs (Decidable (_ ∧ _))

/-- A controller is cancelled and kept alive only by the reset of the stored one. -/
theorem cancelled_step {a : Env × Action} (hm : m.Coherent) (h : step m a = some m')
    {d' : PreModeChangeController} (hd : d' ∈ m'.cancelledControllers) :
    (∃ d ∈ m.cancelledControllers, d.Kept d' ∨ d.Stopped d') ∨
      m.modeChangeController = some d' ∧ (d'.running = true → m.CancelsDispatched a) := by
  rcases step_cases hm h with
    ⟨s, origin, m₀, henter, h⟩ | ⟨call, ha, hcall, hadv⟩ | ⟨hb, _⟩ | ⟨s, _, hs⟩ |
      ⟨c, hc, t, m₀, he, _⟩
  · left
    obtain ⟨entries, rfl⟩ := entering_eq henter
    refine ⟨d', ?_, .inl (.refl d')⟩
    obtain ⟨_, ⟨_, rfl⟩ | ⟨_, rfl⟩⟩ := enterSetPowerState_cases h
    · exact hd
    · rw [entered_eq] at hd
      exact hd
  · generalize m.dueCompletion a.2 = due at hadv
    cases hadv with
    | redundant | submits | tests | arms | starts => exact .inl ⟨d', hd, .inl (.refl d')⟩
    | @completes c _ _ _ _ =>
        left
        have he := completionHandler_effect a.1 (call.completion c) false false m
        rw [returnFromCall_eq] at hd
        exact ⟨d', he.frame.cancelledControllers ▸ hd, .inl (.refl d')⟩
    | installs hp hr =>
        cases hr with
        | nothing | destroyed => exact .inl ⟨d', hd, .inl (.refl d')⟩
        | @orphaned c hc hne hdisp =>
            rcases List.mem_append.mp hd with hd | hd
            · exact .inl ⟨d', hd, .inl (.refl d')⟩
            · right
              rw [List.mem_singleton.mp hd]
              exact ⟨hc, fun hrun => ⟨ha, call, hcall, c, hc, hp, hne, hrun, hdisp⟩⟩
  · left
    obtain ⟨d, hmem, hk⟩ := hb.cancelled d' hd
    exact ⟨d, hmem, .inl hk⟩
  · left
    obtain ⟨d, hmem, hk⟩ := (sleepStep_background hs).cancelled d' hd
    exact ⟨d, hmem, .inl hk⟩
  · left
    rw [he.effect.frame.cancelledControllers] at hd
    exact he.cancelled d' hd

/-- Without such a reset, no cancelled controller is running. -/
def OrphansIdle (m : Implementation) : Prop :=
  ∀ c ∈ m.cancelledControllers, c.running = false

theorem orphansIdle_step {a : Env × Action} (hm : m.Coherent) (ho : m.OrphansIdle)
    (ha : ¬ m.CancelsDispatched a) (h : step m a = some m') : m'.OrphansIdle := by
  intro d' hd
  rcases cancelled_step hm h hd with ⟨d, hmem, hk | hk⟩ | ⟨_, hc⟩
  · exact hk.running.trans (ho d hmem)
  · exact hk.running
  · by_contra hrun
    exact ha (hc (by simpa using hrun))

/-! ### Superseded transitions take no effect -/

/-- No entry of the log completes a transaction that an older entry cancels. -/
def NeverRevived (log : List LogEntry) : Prop :=
  log.Pairwise fun newer older => ∀ t ∈ older.cancels, newer.effectOf ≠ some t

instance (log : List LogEntry) : Decidable (NeverRevived log) :=
  inferInstanceAs (Decidable (List.Pairwise _ _))

theorem NeverRevived.append {es log : List LogEntry} {t : TransactionId}
    (hn : NeverRevived log) (hes : ∀ e ∈ es, e.effectOf = none ∨ e.effectOf = some t)
    (hc : ∀ t', LogEntry.cancelled t' ∈ es ++ log → t' ≠ t) : NeverRevived (es ++ log) := by
  have hrel : ∀ e ∈ es, ∀ old ∈ es ++ log, ∀ t' ∈ old.cancels, e.effectOf ≠ some t' := by
    intro e he old hold t' ht heff
    have hold' : old = .cancelled t' := by
      cases old <;> cases ht
      rfl
    rcases hes e he with hnone | hsome
    · rw [hnone] at heff
      cases heff
    · rw [hsome] at heff
      exact hc t' (hold' ▸ hold) (Option.some.inj heff).symm
  refine List.pairwise_append.mpr ⟨?_, hn, ?_⟩
  · exact List.pairwise_of_forall_mem_list fun e he old hold =>
      hrel e he old (List.mem_append.mpr (.inl hold))
  · exact fun e he old hold => hrel e he old (List.mem_append.mpr (.inr hold))

/-- Transaction numbers in the log: every transaction was numbered by the counter, and a
cancelled one is older than the latest. -/
structure Numbered (m : Implementation) : Prop where
  addRef : ∀ t, .addRef t ∈ m.log → t ≤ m.nextTransactionId
  cancelled : ∀ t, .cancelled t ∈ m.log → t < m.nextTransactionId

theorem numbered_init (b : Bool) (pc : PowerController) : (init b pc).Numbered where
  addRef := by simp [init]
  cancelled := by simp [init]

/-- The entries of a completion neither number nor cancel a transaction. -/
theorem Runs.numbers {c : PreModeChangeController} {h : Completion} {isTimedout : Bool}
    {m₀ : Implementation} (hr : Runs env m m' c h isTimedout m₀) {e : LogEntry}
    (he : e ∈ m'.log) (hnum : e.isNeutral = false ∧ e.effectOf = none ∧
      (∀ t, e ≠ .release t) ∧ (∀ h stay result, e ≠ .setPowerState h stay result) ∧
      ∀ t a b, e ≠ .completionHandler t a b) : e ∈ m.log := by
  obtain ⟨hneutral, heff, hrel, hset, hcomp⟩ := hnum
  obtain ⟨es, hlog, hes⟩ := hr.log
  rw [hlog] at he
  rcases List.mem_append.mp he with he | he
  · exact absurd (hes e he) (by simp [hneutral])
  · rcases List.mem_append.mp he with he | he
    · rcases mem_completionLog he with hn | rfl | rfl | rfl | rfl | rfl
      · exact absurd hn (by simp [hneutral])
      · exact absurd rfl (hrel _)
      · exact absurd rfl (hcomp _ _ _)
      · cases heff
      · exact absurd rfl (hset _ _ _)
      · cases heff
    · exact he

/-- The log grew by entries that neither start nor cancel a transaction. -/
theorem Numbered.of_log (hn : m.Numbered) (hnext : m'.nextTransactionId = m.nextTransactionId)
    {es : List LogEntry} (hlog : m'.log = es ++ m.log) (hadd : ∀ t, .addRef t ∉ es)
    (hcancel : ∀ t, .cancelled t ∉ es) : m'.Numbered := by
  constructor <;> intro t ht <;> rw [hlog] at ht <;> rw [hnext]
  · exact hn.addRef t ((List.mem_append.mp ht).resolve_left (hadd t))
  · exact hn.cancelled t ((List.mem_append.mp ht).resolve_left (hcancel t))

theorem numbered_step {a : Env × Action} (hm : m.Coherent) (hn : m.Numbered)
    (h : step m a = some m') : m'.Numbered := by
  rcases step_log hm h with
    ⟨_, hnext, es, hlog, hes⟩ | ⟨s, _, hs⟩ | ⟨c, hc, t, m₀, hr, _⟩ | ⟨_, call, log, cs, _, hi⟩
  · apply hn.of_log hnext hlog <;> intro t ht <;> cases hes _ ht
  · apply hn.of_log (sleepStep_background hs).nextTransactionId (sleepStep_log hs) <;>
      intro t ht <;> cases isBackground_of_mem_sleepLog ht
  · constructor <;> intro t ht <;> rw [hr.nextTransactionId]
    · exact hn.addRef t (hr.numbers ht (by
        simp [LogEntry.isNeutral, LogEntry.isListener, LogEntry.effectOf]))
    · exact hn.cancelled t (hr.numbers ht (by
        simp [LogEntry.isNeutral, LogEntry.isListener, LogEntry.effectOf]))
  · constructor <;> intro t ht <;> rw [hi.log] at ht <;> rw [hi.nextTransactionId]
    · rcases List.mem_cons.mp ht with ht | ht
      · cases ht
        exact le_rfl
      · rcases List.mem_append.mp ht with ht | ht
        · rcases mem_reset hm hi.reset ht with he | he | he <;> cases he
        · exact Nat.le_succ_of_le (hn.addRef t ht)
    · rcases List.mem_cons.mp ht with ht | ht
      · cases ht
      · rcases List.mem_append.mp ht with ht | ht
        · rcases mem_reset hm hi.reset ht with he | he | he <;> cases he
          exact Nat.lt_succ_self _
        · exact Nat.lt_succ_of_lt (hn.cancelled t ht)

theorem neverRevived_step {a : Env × Action} (hm : m.Coherent) (hn : m.Numbered)
    (ho : m.OrphansIdle) (hl : NeverRevived m.log) (h : step m a = some m') :
    NeverRevived m'.log := by
  have hn' := numbered_step hm hn h
  rcases step_log hm h with
    ⟨_, hnext, es, hlog, hes⟩ | ⟨s, _, hs⟩ | ⟨c, hc, t, m₀, hr, _⟩ | ⟨_, call, log, cs, _, hi⟩
  · rw [hlog]
    refine hl.append (t := m.nextTransactionId)
      (fun e he => .inl (LogEntry.effectOf_of_isNeutral (hes e he))) fun t ht => ?_
    exact (hnext ▸ hn'.cancelled t (hlog ▸ ht)).ne
  · have hb := sleepStep_background hs
    obtain ⟨es, hlog, hes⟩ := hb.log
    rw [hlog]
    refine hl.append (t := m.nextTransactionId)
      (fun e he => .inl (LogEntry.effectOf_of_isBackground (hes e he))) fun t ht => ?_
    exact (hb.nextTransactionId ▸ hn'.cancelled t (hlog ▸ ht)).ne
  · -- the handler that runs is the stored controller's, whose transaction is the latest
    have hstored : m.modeChangeController = some c := by
      rcases hr.known with hst | ⟨hmem, hrun⟩
      · exact hst
      · rw [ho c hmem] at hrun
        cases hrun
    have htid : hc.transactionId = m.nextTransactionId :=
      hr.transactionId.trans (hm.transactionId c hstored)
    obtain ⟨es, hlog, hes⟩ := hr.log
    rw [hlog, ← List.append_assoc]
    refine hl.append (t := m.nextTransactionId) ?_ fun t ht => ?_
    · intro e he
      rw [← htid]
      rcases List.mem_append.mp he with he | he
      · exact .inl (LogEntry.effectOf_of_isNeutral (hes e he))
      · rcases mem_completionLog he with hne | rfl | rfl | rfl | rfl | rfl
        · exact .inl (LogEntry.effectOf_of_isNeutral hne)
        · exact .inl rfl
        · exact .inr rfl
        · exact .inr rfl
        · exact .inl rfl
        · exact .inr rfl
    · rw [List.append_assoc, ← hlog] at ht
      exact (hr.nextTransactionId ▸ hn'.cancelled t ht).ne
  · rw [hi.log, ← List.cons_append]
    refine hl.append (t := m.nextTransactionId + 1) ?_ fun t ht => ?_
    · intro e he
      left
      rcases List.mem_cons.mp he with rfl | he
      · rfl
      · rcases mem_reset hm hi.reset he with rfl | rfl | rfl <;> rfl
    · rw [List.cons_append, ← hi.log] at ht
      exact (hi.nextTransactionId ▸ hn'.cancelled t ht).ne

/-- In a run that never resets a running controller whose timer job was dispatched, no
superseded transition takes effect. -/
theorem superseded_never_takes_effect {b : Bool} {pc : PowerController}
    (hr : ReachableBy step (fun m a => ¬ m.CancelsDispatched a) (init b pc) m) :
    NeverRevived m.log := by
  have hinv : m.Coherent ∧ m.Numbered ∧ m.OrphansIdle ∧ NeverRevived m.log := by
    refine hr.invariant
      (I := fun m => m.Coherent ∧ m.Numbered ∧ m.OrphansIdle ∧ NeverRevived m.log) ?_ ?_
    · rintro s a t ⟨hm, hn, ho, hl⟩ hC ht
      exact ⟨coherent_step hm ht, numbered_step hm hn ht, orphansIdle_step hm ho hC ht,
        neverRevived_step hm hn ho hl ht⟩
    · exact ⟨coherent_init b pc, numbered_init b pc, by simp [OrphansIdle, init],
        by simp [NeverRevived, init]⟩
  exact hinv.2.2.2

/-- A client is awaited for standby, and the call that asks for it has returned. -/
def pendingStandby : List (Env × Action) :=
  [({}, .api (.addPowerModePreChangeClient "client")), ({}, .setPowerState .standby),
    ({}, .advance), ({}, .advance), ({}, .advance), ({}, .advance), ({}, .advance)]

def supersededRun : List (Env × Action) :=
  List.append pendingStandby [({}, .setPowerState .off), ({}, .advance)]

theorem superseded_never_takes_effect_pending :
    ∃ m, run step (init false {}) supersededRun = some m ∧ NeverRevived m.log := by
  refine ⟨_, rfl, ?_⟩
  have hr : run step (init false {}) supersededRun = some _ := rfl
  exact superseded_never_takes_effect ⟨_, hr, by decide⟩

/-- The timer job is dispatched before the request for another state resets the controller. -/
def racedRun : List (Env × Action) :=
  List.append pendingStandby [({ now := 1000000 }, .timerDispatch), ({}, .setPowerState .off),
    ({}, .advance), ({}, .cancelledRun 0)]

theorem superseded_takes_effect :
    ∃ m, run step (init false {}) racedRun = some m ∧ ¬ NeverRevived m.log ∧
      m.powerState = .standby :=
  ⟨_, rfl, by decide, by decide⟩

end Implementation

end DeviceAndDisplay.PowerManager
