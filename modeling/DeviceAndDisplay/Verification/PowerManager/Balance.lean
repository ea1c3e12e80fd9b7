import DeviceAndDisplay.Verification.PowerManager.Retry

/-! # Locks and references

Every completion handler gives back one reference, and `selfLock` if its request kept it. As
each handler is called exactly once, `SetPowerState` gives back what it takes on every path. -/

namespace DeviceAndDisplay.PowerManager

namespace AckController

variable {H : Type}

/-! ### The law of one controller -/

/-- What a controller guarantees at a point of its life about the calls of its handler. -/
structure Life.Lawful (l : Life H) : Prop where
  beforeSchedule : l.scheduled = none → l.calls = []
  atMostOnce : l.calls.length ≤ 1
  exactlyOnce : l.scheduled.isSome → l.destroyed = true → l.Completed
  running : l.destroyed = false → l.controller.running = true →
    l.controller.pending ≠ ∅ ∧ l.controller.timerJob = some ⟨some l.controller.timeout, 0⟩
  /-- The next operation makes the handler call that is due, and no other. -/
  flags : ∀ op l', lifeStep l op = some l' →
    l'.calls.map HandlerCall.flags = (l.dueCall op).toList ++ l.calls.map HandlerCall.flags

theorem Life.Good.atMostOnce {l : Life H} (hg : l.Good) : l.calls.length ≤ 1 := by
  cases hs : l.scheduled with
  | none => simp [(hg.unscheduled hs).1]
  | some handler =>
      by_cases hstop : l.destroyed = true ∨ l.controller.running = false
      · obtain ⟨_, _, _, _, hcalls⟩ := hg.stopped (by simp [hs]) hstop
        simp [hcalls]
      · obtain ⟨hd, hr⟩ := not_or.mp hstop
        simp [(hg.running (by simpa using hd) (by simpa using hr)).1]

theorem Life.Good.lawful {l : Life H} (hg : l.Good) : l.Lawful where
  beforeSchedule := fun hs => (hg.unscheduled hs).1
  atMostOnce := hg.atMostOnce
  exactlyOnce := fun hs hd => hg.stopped hs (.inl hd)
  running := by
    intro hd hr
    obtain ⟨_, hw, _⟩ := hg.running hd hr
    exact ⟨hw.pending, hw.timerJob⟩
  flags := fun _ _ h => (lifeStep_good hg h).2

end AckController

namespace Implementation

open Transition

variable {env : Env} {m m' : Implementation}

/-! ### Counting -/

/-- The entries that take or give back a lock or a reference. -/
def isResource : LogEntry → Bool
  | .selfLock | .selfUnlock | .addRef _ | .release _ => true
  | _ => false

theorem isResource_of_isBackground {e : LogEntry} (h : e.isBackground = true) :
    isResource e = false := by
  cases e <;> first | rfl | cases h

theorem count_eq_zero_of_isResource {es : List LogEntry} {e : LogEntry}
    (he : isResource e = true) (hes : ∀ x ∈ es, isResource x = false) : es.count e = 0 := by
  refine List.count_eq_zero.mpr fun hmem => ?_
  rw [hes e hmem] at he
  cases he

theorem isResource_of_mem_deviceLog {h : Completion} {e : LogEntry}
    (he : e ∈ m.deviceLog env h) : isResource e = false := by
  simp only [deviceLog, List.mem_append, List.mem_cons] at he
  rcases he with he | rfl | he
  · split at he
    · rcases List.mem_append.mp he with he | he
      · exact isResource_of_isBackground (isBackground_of_mem_callbacks he)
      · rw [List.mem_singleton.mp he]
        rfl
    · simp at he
  · rfl
  · split at he
    · simp at he
    · rw [List.mem_singleton.mp he]
      rfl

theorem count_completionLog {e : LogEntry} (he : isResource e = true) (h : Completion)
    (isTimedout isAborted : Bool) :
    (m.completionLog env h isTimedout isAborted).count e =
      (if h.isSync then [LogEntry.selfUnlock] else []).count e +
        [LogEntry.release h.transactionId].count e := by
  have hrest : ((if isAborted then [] else m.deviceLog env h) ++
      [LogEntry.completionHandler h.transactionId isTimedout isAborted]).count e = 0 := by
    refine count_eq_zero_of_isResource he fun x hx => ?_
    rcases List.mem_append.mp hx with hx | hx
    · split at hx
      · simp at hx
      · exact isResource_of_mem_deviceLog hx
    · rw [List.mem_singleton.mp hx]
      rfl
  rw [completionLog, List.count_append, List.count_cons, hrest, List.count_singleton, Nat.zero_add]

/-- One if the transaction `t` is pending: its reference is still to be released. -/
def outstanding (m : Implementation) (t : TransactionId) : ℕ :=
  match m.modeChangeController with
  | none => 0
  | some c => if c.running = true ∧ c.transactionId = t then 1 else 0

theorem count_resetLog {e : LogEntry} (he : isResource e = true) (c : PreModeChangeController) :
    (resetLog c).count e =
      if c.running then [LogEntry.release c.transactionId].count e else 0 := by
  have hcancel : [LogEntry.cancelled c.transactionId].count e = 0 :=
    count_eq_zero_of_isResource he (by simp [isResource])
  have hhandler : [LogEntry.completionHandler c.transactionId false true].count e = 0 :=
    count_eq_zero_of_isResource he (by simp [isResource])
  cases hr : c.running with
  | true =>
      have hlog : resetLog c = [LogEntry.release c.transactionId] ++
          ([.completionHandler c.transactionId false true] ++ [.cancelled c.transactionId]) := by
        simp [resetLog, hr]
      rw [hlog, List.count_append, List.count_append, hcancel, hhandler]
      rfl
  | false => simpa [resetLog, hr] using hcancel

theorem count_wakeLog {e : LogEntry} (he : isResource e = true) : m.wakeLog.count e = 0 := by
  refine count_eq_zero_of_isResource he fun x hx => ?_
  unfold wakeLog at hx
  split at hx
  · rw [List.mem_singleton.mp hx]
    rfl
  · simp at hx

theorem count_preparedLog {e : LogEntry} (he : isResource e = true) :
    m.preparedLog.count e = [LogEntry.addRef (m.nextTransactionId + 1)].count e +
      ((m.modeChangeController.map resetLog).getD []).count e + [LogEntry.selfLock].count e := by
  have hlog : m.preparedLog = [LogEntry.addRef (m.nextTransactionId + 1)] ++
      ((m.modeChangeController.map resetLog).getD [] ++ (m.wakeLog ++ [.selfLock])) := rfl
  rw [hlog, List.count_append, List.count_append, List.count_append, count_wakeLog he]
  omega

/-! ### The balance -/

structure Balanced (m : Implementation) : Prop where
  locks : m.log.count .selfLock = m.log.count .selfUnlock
  /-- Every reference is released once, or its transaction is pending. -/
  references : ∀ t, m.log.count (.release t) + m.outstanding t = m.log.count (.addRef t)
  unique : ∀ t, m.log.count (.addRef t) ≤ 1

theorem balanced_init (b : Bool) (pc : PowerController) : (init b pc).Balanced where
  locks := rfl
  references := fun _ => rfl
  unique := fun _ => Nat.zero_le _

/-- The log grew by `es`, and the pending transaction may be another one. -/
theorem Balanced.of_log (hb : m.Balanced) (es : List LogEntry) (hlog : m'.log = es ++ m.log)
    (hlocks : es.count .selfLock = es.count .selfUnlock)
    (hrefs : ∀ t, es.count (.release t) + m'.outstanding t =
      es.count (.addRef t) + m.outstanding t)
    (hunique : ∀ t, es.count (.addRef t) + m.log.count (.addRef t) ≤ 1) : m'.Balanced where
  locks := by
    rw [hlog, List.count_append, List.count_append, hlocks, hb.locks]
  references := by
    intro t
    have h := hb.references t
    have h' := hrefs t
    rw [hlog, List.count_append, List.count_append]
    omega
  unique := by
    intro t
    rw [hlog, List.count_append]
    exact hunique t

theorem Background.outstanding (hb : Background m m') (t : TransactionId) :
    m'.outstanding t = m.outstanding t := by
  unfold Implementation.outstanding
  rcases hb.stored with ⟨hn, hn'⟩ | ⟨c, c', hc, hc', hk⟩
  · rw [hn, hn']
  · rw [hc, hc']
    simp [hk.running, hk.transactionId]

theorem Balanced.of_background (hb : m.Balanced) (h : Background m m') : m'.Balanced := by
  obtain ⟨es, hlog, hes⟩ := h.log
  have hcount : ∀ e, isResource e = true → es.count e = 0 := fun e he =>
    count_eq_zero_of_isResource he fun x hx => isResource_of_isBackground (hes x hx)
  refine hb.of_log _ hlog ?_ ?_ ?_
  · rw [hcount _ rfl, hcount _ rfl]
  · intro t
    rw [hcount _ rfl, hcount _ rfl, h.outstanding]
  · intro t
    rw [hcount _ rfl, Nat.zero_add]
    exact hb.unique t

theorem outstanding_of_not_transitioning (h : ¬ m.Transitioning) (t : TransactionId) :
    m.outstanding t = 0 := by
  unfold Implementation.outstanding
  split
  · rfl
  · rename_i c hc
    have hr : ¬ c.running = true := fun hr => h ⟨c, hc, hr⟩
    simp [hr]

theorem Balanced.of_completed (hb : m.Balanced) {c c' : PreModeChangeController}
    {h : Completion} {isTimedout : Bool} {m₀ : Implementation}
    (hd : Completed env m m' c c' h isTimedout m₀) : m'.Balanced := by
  have hlog : m'.log = m₀.completionLog env h isTimedout false ++ m.log := by
    rw [hd.effect.log]
    obtain ⟨clients, rfl⟩ := hd.started
    rfl
  refine hb.of_log _ hlog ?_ ?_ ?_
  · rw [count_completionLog rfl, count_completionLog rfl]
    simp [hd.serves.isSync]
  · intro t
    rw [count_completionLog rfl, count_completionLog rfl,
      outstanding_of_not_transitioning hd.not_transitioning]
    simp [hd.serves.isSync, hd.serves.transactionId, Implementation.outstanding, hd.stored,
      hd.running, List.count_singleton]
  · intro t
    rw [count_completionLog rfl]
    simpa [hd.serves.isSync] using hb.unique t

/-- The log entries with which a call returns, newest first. -/
def returnLog (newState : PowerState) (unlock : Bool) : List LogEntry :=
  [.returned newState .errorNone] ++ if unlock then [.selfUnlock] else []

theorem returnFromCall_log (newState : PowerState) (unlock : Bool) (m : Implementation) :
    (m.returnFromCall newState unlock).log = returnLog newState unlock ++ m.log := by
  rw [returnFromCall_eq]
  rfl

theorem count_returnLog {e : LogEntry} (he : isResource e = true) (newState : PowerState)
    (unlock : Bool) :
    (returnLog newState unlock).count e =
      (if unlock then [LogEntry.selfUnlock] else []).count e := by
  have hzero : [LogEntry.returned newState .errorNone].count e = 0 :=
    count_eq_zero_of_isResource he (by simp [isResource])
  rw [returnLog, List.count_append, hzero, Nat.zero_add]

theorem count_reset (t : TransactionId) :
    ((m.modeChangeController.map resetLog).getD []).count (.release t) = m.outstanding t := by
  unfold Implementation.outstanding
  cases hc : m.modeChangeController with
  | none => rfl
  | some c =>
      rw [Option.map_some, Option.getD_some, count_resetLog rfl]
      by_cases hr : c.running = true <;> simp [hr, List.count_singleton]

theorem count_reset_of_ne {e : LogEntry} (he : isResource e = true) (hne : ∀ t, e ≠ .release t) :
    ((m.modeChangeController.map resetLog).getD []).count e = 0 := by
  cases hc : m.modeChangeController with
  | none => rfl
  | some c =>
      rw [Option.map_some, Option.getD_some, count_resetLog he]
      have hne' := hne c.transactionId
      by_cases hr : c.running = true <;> simp [hr, hne'.symm]

/-- The entries of a request that installs a controller, up to its scheduling. -/
theorem count_prepared (m : Implementation) :
    m.preparedLog.count .selfLock = 1 ∧ m.preparedLog.count .selfUnlock = 0 ∧
      (∀ t, m.preparedLog.count (.addRef t) = if m.nextTransactionId + 1 = t then 1 else 0) ∧
      ∀ t, m.preparedLog.count (.release t) = m.outstanding t := by
  refine ⟨?_, ?_, fun t => ?_, fun t => ?_⟩
  · rw [count_preparedLog rfl, count_reset_of_ne rfl (by simp)]
    simp
  · rw [count_preparedLog rfl, count_reset_of_ne rfl (by simp)]
    simp
  · rw [count_preparedLog rfl, count_reset_of_ne rfl (by simp)]
    simp [List.count_singleton]
  · rw [count_preparedLog rfl, count_reset]
    simp

/-- A request that installs a controller gives `selfLock` back once, and the new reference when
its transition completes. -/
theorem Balanced.of_prepared (hb : m.Balanced) (hn : m.Numbered) (es : List LogEntry)
    (hlog : m'.log = es ++ (m.preparedLog ++ m.log)) (hlock : es.count .selfLock = 0)
    (hunlock : es.count .selfUnlock = 1) (hadd : ∀ t, es.count (.addRef t) = 0)
    (hrel : ∀ t, es.count (.release t) + m'.outstanding t =
      if m.nextTransactionId + 1 = t then 1 else 0) : m'.Balanced := by
  obtain ⟨hplock, hpunlock, hpadd, hprel⟩ := count_prepared m
  refine hb.of_log (es ++ m.preparedLog) (by rw [hlog, List.append_assoc]) ?_ ?_ ?_
  · rw [List.count_append, List.count_append, hlock, hunlock, hplock, hpunlock]
  · intro t
    have h := hrel t
    rw [List.count_append, List.count_append, hadd, hpadd, hprel]
    omega
  · intro t
    rw [List.count_append, hadd, hpadd]
    by_cases ht : m.nextTransactionId + 1 = t
    · have hzero : m.log.count (.addRef t) = 0 := by
        refine List.count_eq_zero.mpr fun hmem => ?_
        have hle := hn.addRef t hmem
        rw [← ht] at hle
        exact Nat.not_succ_le_self _ hle
      simp [hzero, ht]
    · simpa [ht] using hb.unique t

theorem Balanced.of_requested (hb : m.Balanced) (hs : m.Settled) (hn : m.Numbered)
    {newState : PowerState} {origin : Origin} (h : Requested env newState origin m m') :
    m'.Balanced := by
  cases h with
  | declined _ =>
      refine hb.of_log [.returned newState .errorNone, .selfUnlock, .selfLock] rfl (by simp) ?_ ?_
      · intro t
        simp [Implementation.outstanding]
      · simpa using hb.unique
  | redundant _ _ _ =>
      have hcount : ∀ e, isResource e = true →
          (returnLog newState true ++ (m.wakeLog ++ [LogEntry.selfLock])).count e =
            [LogEntry.selfUnlock].count e + [LogEntry.selfLock].count e := by
        intro e he
        rw [List.count_append, List.count_append, count_returnLog he, count_wakeLog he]
        simp
      refine hb.of_log (returnLog newState true ++ (m.wakeLog ++ [.selfLock])) ?_ ?_ ?_ ?_
      · rw [returnFromCall_log, entered_eq]
        simp
      · rw [hcount _ rfl, hcount _ rfl]
        simp
      · intro t
        rw [hcount _ rfl, hcount _ rfl]
        simp [Implementation.outstanding, entered_controller]
      · intro t
        rw [hcount _ rfl]
        simpa using hb.unique t
  | @completed call c hd _ hcall hc hat =>
      let h := call.completion c
      have he := completionHandler_effect env h false false (m.prepared env newState origin)
      have htid : h.transactionId = m.nextTransactionId + 1 := by
        subst hc
        exact freshController_transactionId _ _
      have hidle := completed_idle env hs newState origin h (!call.isSync)
      have hcount : ∀ e, isResource e = true →
          (returnLog newState (!call.isSync) ++
            (m.prepared env newState origin).completionLog env h false false).count e =
            [LogEntry.selfUnlock].count e + [LogEntry.release h.transactionId].count e := by
        intro e he
        have hsync : h.isSync = call.isSync := rfl
        rw [List.count_append, count_returnLog he, count_completionLog he, hsync]
        cases call.isSync <;> simp
      apply hb.of_prepared hn (returnLog newState (!call.isSync) ++
        (m.prepared env newState origin).completionLog env h false false)
      · rw [returnFromCall_log, he.log, prepared_eq hs]
        simp
      · rw [hcount _ rfl]
        simp
      · rw [hcount _ rfl]
        simp
      · intro t
        rw [hcount _ rfl]
        simp
      · intro t
        rw [outstanding_of_not_transitioning hidle, hcount _ rfl, htid]
        simp [List.count_singleton]
  | @scheduled call c hd _ hcall hc hat =>
      have htid : c.transactionId = m.nextTransactionId + 1 := by
        rw [hc]
        exact freshController_transactionId _ _
      apply hb.of_prepared hn (returnLog newState true)
      · rw [returnFromCall_log, prepared_eq hs]
      · rw [count_returnLog rfl]
        simp
      · rw [count_returnLog rfl]
        simp
      · intro t
        rw [count_returnLog rfl]
        simp
      · intro t
        rw [count_returnLog rfl]
        simp [Implementation.outstanding, AckController.startTimer, AckController.arm, htid]

theorem balanced_step {a : AtomicAction} (hs : m.Settled) (hn : m.Numbered) (hb : m.Balanced)
    (h : atomicStep m (env, a) = some m') : m'.Balanced := by
  rcases atomicStep_cases hs h with
    ⟨newState, origin, m₀, hreq, hs₀, hr⟩ | ⟨_, ⟨hback, _⟩ | ⟨_, _, hc⟩⟩
  · obtain ⟨entries, rfl⟩ := requested_eq hreq
    have hb₀ : (m.setEntries entries).Balanced := ⟨hb.locks, hb.references, hb.unique⟩
    exact hb₀.of_requested hs₀ ⟨hn.addRef, hn.cancelled⟩ hr
  · exact hb.of_background hback
  · obtain ⟨c, c', h, m₀, hd⟩ := hc.completed hs
    exact hb.of_completed hd

theorem balanced_of_reachable {b : Bool} {pc : PowerController}
    (h : Reachable atomicStep (init b pc) m) : m.Settled ∧ m.Balanced := by
  have hinv : m.Settled ∧ (m.Coherent ∧ m.Numbered) ∧ m.Balanced := by
    refine h.invariant (I := fun m => m.Settled ∧ (m.Coherent ∧ m.Numbered) ∧ m.Balanced) ?_ ?_
    · rintro s ⟨env, a⟩ t ⟨hs, hcn, hb⟩ ht
      refine ⟨settled_step hs ht, ?_, balanced_step hs hcn.2 hb ht⟩
      have hreach : Reachable step s t := atomicStep_run ht
      refine hreach.invariant (I := fun m => m.Coherent ∧ m.Numbered) ?_ hcn
      rintro s a t ⟨hm, hn⟩ ht
      exact ⟨coherent_step hm ht, numbered_step hm hn ht⟩
    · exact ⟨settled_init b pc, ⟨coherent_init b pc, numbered_init b pc⟩, balanced_init b pc⟩
  exact ⟨hinv.1, hinv.2.2⟩

/-- The destruction of the stored controller. -/
def destroyController (env : Env) (m : Implementation) : Implementation :=
  m.runHandler env (m.modeChangeController.bind AckController.revoke)

theorem destroyController_count (env : Env) (hs : m.Settled) (t : TransactionId) :
    (m.destroyController env).log.count (.release t) =
        m.log.count (.release t) + m.outstanding t ∧
      (m.destroyController env).log.count (.addRef t) = m.log.count (.addRef t) := by
  unfold destroyController Implementation.outstanding
  cases hc : m.modeChangeController with
  | none => exact ⟨rfl, rfl⟩
  | some c =>
      cases hr : c.running with
      | true =>
          obtain ⟨hw, h, hh, hsv⟩ := hs.running c hc hr
          have hrevoke : c.revoke = c.callHandler false true := by
            simp [AckController.revoke, hr, hw.timerJob]
          rw [Option.bind_some, hrevoke, runHandler_callHandler hh,
            completionHandler_aborted hsv.isSync, hsv.transactionId]
          simp [List.count_cons, hr]
      | false =>
          have hrevoke : c.revoke = none := by simp [AckController.revoke, hr]
          rw [Option.bind_some, hrevoke]
          simp [runHandler, hr]

/-- The completion handler of every controller is called exactly once, and between calls of the
API every lock is given back, and every reference but that of a pending transaction, whose
controller gives it back when it completes or is destroyed. -/
theorem completes_exactly_once :
    (∀ (H : Type) (powerState : PowerState) (t : TransactionId) (now : Time)
      (l : AckController.Life H),
      Reachable AckController.lifeStep ⟨.create powerState t now, none, false, []⟩ l →
      l.Lawful) ∧
    ∀ (b : Bool) (pc : PowerController) (m : Implementation),
      Reachable atomicStep (init b pc) m →
      m.selfLock = false ∧ m.log.count .selfLock = m.log.count .selfUnlock ∧
      ∀ t, m.log.count (.addRef t) ≤ 1 ∧
        (¬ m.Transitioning → m.log.count (.release t) = m.log.count (.addRef t)) ∧
        ∀ env, (m.destroyController env).log.count (.release t) =
          (m.destroyController env).log.count (.addRef t) := by
  refine ⟨fun H powerState t now l hl => (AckController.good_of_reachable hl).lawful, ?_⟩
  intro b pc m hm
  obtain ⟨hs, hb⟩ := balanced_of_reachable hm
  refine ⟨hs.selfLock, hb.locks, fun t => ⟨hb.unique t, fun hidle => ?_, fun env => ?_⟩⟩
  · have h := hb.references t
    rwa [outstanding_of_not_transitioning hidle, Nat.add_zero] at h
  · obtain ⟨hrel, hadd⟩ := destroyController_count env hs t
    rw [hrel, hadd]
    exact hb.references t

/-- A client is awaited, delays the transition and acknowledges it. -/
def delayedRun : List (Env × AtomicAction) :=
  [({}, .api (.addPowerModePreChangeClient "client")), ({}, .setPowerState .standby),
    ({}, .api (.delayPowerModeChangeBy 1 1 5)), ({}, .api (.powerModePreChangeComplete 1 1))]

theorem completes_exactly_once_delayed :
    ∃ m, run atomicStep (init false {}) delayedRun = some m ∧
      m.log.count (.release 1) = m.log.count (.addRef 1) := by
  have hr : run atomicStep (init false {}) delayedRun = some _ := rfl
  have h := (completes_exactly_once.2 false {} _ ⟨delayedRun, hr⟩).2.2 1
  exact ⟨_, hr, h.2.1 (by decide)⟩

end Implementation

end DeviceAndDisplay.PowerManager
