import DeviceAndDisplay.Model.PowerManager.AckController
import DeviceAndDisplay.Transition.Run

/-! # The life of an AckController

What each method does to a controller, and from it the law of its completion handler: once
scheduled, the handler is called exactly once by the time the controller is destroyed. -/

namespace DeviceAndDisplay.PowerManager

namespace AckController

variable {H : Type} {c c' : AckController H}

/-! ### The methods -/

/-- A running controller waits: a client is pending, the handler is stored, and the pool holds
the timer job at `_timeout`. -/
structure Waiting (c : AckController H) : Prop where
  pending : c.pending ≠ ∅
  timerJob : c.timerJob = some ⟨some c.timeout, 0⟩
  handler : c.handler.isSome

/-- The acknowledgement of the last pending client of a running controller. -/
def IsLastAck (c : AckController H) (clientId : ClientId) (transactionId : TransactionId) : Prop :=
  c.running = true ∧ transactionId = c.transactionId ∧ c.pending = {clientId}

instance (c : AckController H) (clientId : ClientId) (transactionId : TransactionId) :
    Decidable (c.IsLastAck clientId transactionId) := inferInstanceAs (Decidable (_ ∧ _))

/-- The last acknowledgement stops the controller and calls the handler. -/
theorem ack_last {clientId : ClientId} {transactionId : TransactionId}
    (h : c.IsLastAck clientId transactionId) :
    (c.ack clientId transactionId).2 =
      (({ c with pending := ∅, running := false } : AckController H).revokeTimerJob,
        c.callHandler false false) := by
  obtain ⟨hr, rfl, hp⟩ := h
  simp [ack, hr, hp, callHandler]

/-- Any other acknowledgement at most removes a client from the pending set. -/
theorem ack_not_last {clientId : ClientId} {transactionId : TransactionId}
    (h : ¬ c.IsLastAck clientId transactionId) :
    ∃ pending ⊆ c.pending,
      (c.ack clientId transactionId).2 = ({ c with pending := pending }, none) ∧
      (c.running = true → c.pending ≠ ∅ → pending ≠ ∅) := by
  unfold ack
  split
  · exact ⟨c.pending, subset_rfl, rfl, fun _ hp => hp⟩
  · split
    · exact ⟨c.pending, subset_rfl, rfl, fun _ hp => hp⟩
    · rename_i htid hmem
      have hlast : ¬ (c.pending.erase clientId = ∅ ∧ c.running = true) := by
        rintro ⟨he, hr⟩
        refine h ⟨hr, not_not.mp htid, ?_⟩
        rcases (Finset.erase_eq_empty_iff _ _).mp he with he | he
        · exact absurd (he ▸ not_not.mp hmem) (Finset.notMem_empty _)
        · exact he
      refine ⟨c.pending.erase clientId, Finset.erase_subset _ _, ?_, ?_⟩
      · simp only [if_neg hlast]
      · exact fun hr _ he => hlast ⟨he, hr⟩

/-- A delay sets the deadline before `Schedule`, and moves the timer job with it after. -/
theorem reschedule_cases (clientId : ClientId) (transactionId : TransactionId) (offset : ℤ)
    (now : Time) (c : AckController H) :
    (c.reschedule clientId transactionId offset now).2 = c ∨
    c.running = false ∧ (∃ timeout,
      (c.reschedule clientId transactionId offset now).2 = { c with timeout := timeout }) ∨
    c.running = true ∧ ∃ timeout, (c.reschedule clientId transactionId offset now).2 =
      { c with
        timeout := timeout
        timerJob := c.timerJob.map fun job => { job with scheduled := some timeout } } := by
  simp only [reschedule]
  split
  · rename_i hr
    exact .inr (.inl ⟨hr, _, rfl⟩)
  · rename_i hr
    split
    · exact .inl rfl
    · split
      · exact .inl rfl
      · split
        · exact .inr (.inr ⟨by simpa using hr, _, rfl⟩)
        · exact .inl rfl

/-- The queued timer job of a controller with no dispatched one, run to its end. -/
def expire (c : AckController H) : Option (AckController H × Option (HandlerCall H)) :=
  c.timerDispatch.bind timerRun

theorem expire_eq_some {r : AckController H × Option (HandlerCall H)} (h : c.expire = some r) :
    ∃ deadline dispatched, c.timerJob = some ⟨some deadline, dispatched⟩ ∧
      r = ({ c with timerJob := some ⟨none, dispatched⟩, running := false },
        if c.running then c.callHandler true false else none) := by
  rcases hj : c.timerJob with _ | ⟨_ | deadline, dispatched⟩
  · simp [expire, timerDispatch, hj] at h
  · simp [expire, timerDispatch, hj] at h
  · refine ⟨deadline, dispatched, rfl, ?_⟩
    cases hr : c.running <;> simp [expire, timerDispatch, timerRun, hj, hr] at h <;>
      simp [← h, callHandler]

/-! ### The life of one controller -/

/-- A method call on a controller, the expiry of its timer job, or its destruction. -/
inductive Operation (H : Type) where
  | ackAwait (clientId : ClientId)
  | schedule (offsetInMilliseconds : ℕ) (handler : H) (now : Time)
  | ack (clientId : ClientId) (transactionId : TransactionId)
  | ackClient (clientId : ClientId)
  | reschedule (clientId : ClientId) (transactionId : TransactionId) (offset : ℤ) (now : Time)
  | timerExpired
  | destroy

/-- A controller with its history: the handler it was scheduled with, whether it is destroyed,
and the handler calls made so far, newest first. -/
structure Life (H : Type) where
  controller : AckController H
  scheduled : Option H := none
  destroyed : Bool := false
  calls : List (HandlerCall H) := []

/-- Continue with the controller a method left and the handler call it made. -/
def Life.after (l : Life H) (r : AckController H × Option (HandlerCall H)) : Life H :=
  { l with controller := r.1, calls := r.2.toList ++ l.calls }

/-- Clients are awaited before the one call of `Schedule`; nothing follows the destruction. -/
def lifeStep (l : Life H) (op : Operation H) : Option (Life H) :=
  if l.destroyed then
    none
  else
    match op with
    | .ackAwait clientId =>
        if l.scheduled.isSome then none
        else some { l with controller := l.controller.ackAwait clientId }
    | .schedule offset handler now =>
        if l.scheduled.isSome then none
        else some ({ l with scheduled := some handler }.after
          (l.controller.schedule offset handler now))
    | .ack clientId transactionId => some (l.after (l.controller.ack clientId transactionId).2)
    | .ackClient clientId => some (l.after (l.controller.ackClient clientId).2)
    | .reschedule clientId transactionId offset now =>
        some { l with
          controller := (l.controller.reschedule clientId transactionId offset now).2 }
    | .timerExpired => l.controller.expire.map l.after
    | .destroy =>
        some { l with destroyed := true, calls := l.controller.revoke.toList ++ l.calls }

/-- The handler call an operation is to make, as `(isTimedout, isRevoked)`. -/
def Life.dueCall (l : Life H) : Operation H → Option (Bool × Bool)
  | .schedule offset _ _ =>
      if l.controller.pending = ∅ ∨ offset = 0 then some (false, false) else none
  | .ack clientId transactionId =>
      if l.controller.IsLastAck clientId transactionId then some (false, false) else none
  | .ackClient clientId =>
      if l.controller.IsLastAck clientId l.controller.transactionId then some (false, false)
      else none
  | .timerExpired =>
      if l.controller.running ∧ l.controller.pending ≠ ∅ then some (true, false) else none
  | .destroy => if l.controller.running then some (false, true) else none
  | .ackAwait _ | .reschedule _ _ _ _ => none

/-- The handler has been called: exactly once, and it was the scheduled one. -/
def Life.Completed (l : Life H) : Prop :=
  ∃ handler isTimedout isRevoked, l.scheduled = some handler ∧
    l.calls = [⟨handler, isTimedout, isRevoked⟩]

/-- What holds between the operations on one controller. -/
structure Life.Good (l : Life H) : Prop where
  /-- Before `Schedule`, the controller is idle and the handler was not called. -/
  unscheduled : l.scheduled = none →
    l.calls = [] ∧ l.controller.running = false ∧ l.controller.timerJob = none
  /-- While the controller runs, it waits and the handler was not called. -/
  running : l.destroyed = false → l.controller.running = true →
    l.calls = [] ∧ l.controller.Waiting ∧ l.controller.handler = l.scheduled
  /-- Once it has stopped, the handler has been called. -/
  stopped : l.scheduled.isSome → (l.destroyed = true ∨ l.controller.running = false) →
    l.Completed
  /-- Timer jobs run to their end. -/
  dispatched : ∀ job, l.controller.timerJob = some job → job.dispatched = 0

theorem good_create (powerState : PowerState) (transactionId : TransactionId) (now : Time) :
    Life.Good (H := H) ⟨create powerState transactionId now, none, false, []⟩ where
  unscheduled := by simp [create]
  running := by simp [create]
  stopped := by simp
  dispatched := by simp [create]

/-- An operation that leaves the controller running or stopped, and calls no handler. -/
theorem Life.Good.keep {l : Life H} (hg : l.Good) (hd : l.destroyed = false)
    {c : AckController H} (hr : c.running = l.controller.running)
    (hh : c.handler = l.controller.handler) (hw : c.running = true → c.Waiting)
    (hj : l.controller.timerJob = none → c.timerJob = none)
    (hdisp : ∀ job, c.timerJob = some job → job.dispatched = 0) :
    (l.after (c, none)).Good where
  unscheduled hs := ⟨(hg.unscheduled hs).1, hr.trans (hg.unscheduled hs).2.1,
    hj (hg.unscheduled hs).2.2⟩
  running _ hrun := ⟨(hg.running hd (hr ▸ hrun)).1, hw hrun,
    hh.trans (hg.running hd (hr ▸ hrun)).2.2⟩
  stopped hs hstop := hg.stopped hs (hstop.imp_right fun h => hr.symm.trans h)
  dispatched := hdisp

/-- An operation that stops a running controller calls the handler it was scheduled with. -/
theorem Life.Good.stop {l : Life H} (hg : l.Good) (hd : l.destroyed = false)
    (hrun : l.controller.running = true) {c : AckController H} (hr : c.running = false)
    (hdisp : ∀ job, c.timerJob = some job → job.dispatched = 0) (isTimedout isRevoked : Bool) :
    (l.after (c, l.controller.callHandler isTimedout isRevoked)).Good ∧
      (l.after (c, l.controller.callHandler isTimedout isRevoked)).calls.map HandlerCall.flags =
        (isTimedout, isRevoked) :: l.calls.map HandlerCall.flags := by
  obtain ⟨hcalls, hw, hh⟩ := hg.running hd hrun
  obtain ⟨handler, hhandler⟩ := Option.isSome_iff_exists.mp hw.handler
  have hs : l.scheduled = some handler := hh.symm.trans hhandler
  refine ⟨⟨?_, ?_, ?_, hdisp⟩, ?_⟩
  · intro hn
    exact absurd (hs.symm.trans hn) (by simp)
  · intro _ ht
    exact absurd (hr.symm.trans ht) (by simp)
  · intro _ _
    exact ⟨handler, isTimedout, isRevoked, hs, by simp [Life.after, callHandler, hhandler, hcalls]⟩
  · simp [Life.after, callHandler, hhandler, HandlerCall.flags]

theorem Life.Good.ack {l : Life H} (hg : l.Good) (hd : l.destroyed = false)
    (clientId : ClientId) (transactionId : TransactionId) :
    (l.after (l.controller.ack clientId transactionId).2).Good ∧
      (l.after (l.controller.ack clientId transactionId).2).calls.map HandlerCall.flags =
        (l.dueCall (.ack clientId transactionId)).toList ++ l.calls.map HandlerCall.flags := by
  by_cases h : l.controller.IsLastAck clientId transactionId
  · rw [ack_last h]
    have hdisp : ∀ job, (({ l.controller with pending := ∅, running := false } :
        AckController H).revokeTimerJob).timerJob = some job → job.dispatched = 0 := by
      intro job hjob
      obtain ⟨old, hold, rfl⟩ := Option.map_eq_some_iff.mp hjob
      exact hg.dispatched old hold
    simpa [Life.dueCall, h] using hg.stop hd h.1 rfl hdisp false false
  · obtain ⟨pending, _, heq, hne⟩ := ack_not_last h
    rw [heq]
    refine ⟨hg.keep hd rfl rfl ?_ id hg.dispatched, by simp [Life.dueCall, h, Life.after]⟩
    intro hr
    obtain ⟨_, hw, _⟩ := hg.running hd hr
    exact ⟨hne hr hw.pending, hw.timerJob, hw.handler⟩

theorem Life.Good.reschedule {l : Life H} (hg : l.Good) (hd : l.destroyed = false)
    (clientId : ClientId) (transactionId : TransactionId) (offset : ℤ) (now : Time) :
    (l.after ((l.controller.reschedule clientId transactionId offset now).2, none)).Good := by
  rcases reschedule_cases clientId transactionId offset now l.controller with
    heq | ⟨hr, timeout, heq⟩ | ⟨hr, timeout, heq⟩ <;> rw [heq]
  · exact hg.keep hd rfl rfl (fun hr => (hg.running hd hr).2.1) id hg.dispatched
  · exact hg.keep hd rfl rfl (fun ht => absurd (hr.symm.trans ht) (by simp)) id hg.dispatched
  · have hw := (hg.running hd hr).2.1
    refine hg.keep hd rfl rfl (fun _ => ⟨hw.pending, ?_, hw.handler⟩) ?_ ?_
    · simp [hw.timerJob]
    · simp [hw.timerJob]
    · simp [hw.timerJob]

theorem Life.Good.schedule {l : Life H} (hg : l.Good) (hd : l.destroyed = false)
    (hs : l.scheduled = none) (offset : ℕ) (handler : H) (now : Time) :
    (({ l with scheduled := some handler } : Life H).after
        (l.controller.schedule offset handler now)).Good ∧
      (({ l with scheduled := some handler } : Life H).after
        (l.controller.schedule offset handler now)).calls.map HandlerCall.flags =
        (l.dueCall (.schedule offset handler now)).toList ++ l.calls.map HandlerCall.flags := by
  obtain ⟨hcalls, hr, hj⟩ := hg.unscheduled hs
  by_cases h : l.controller.completesAtOnce offset
  · have hdue : l.controller.pending = ∅ ∨ offset = 0 := h.imp_right Eq.symm
    refine ⟨⟨by simp [Life.after], ?_, ?_, ?_⟩, ?_⟩
    · simp [Life.after, AckController.schedule, h, hr]
    · intro _ _
      exact ⟨handler, false, false, rfl, by simp [Life.after, AckController.schedule, h, hcalls]⟩
    · simp [Life.after, AckController.schedule, h, hj]
    · simp [Life.after, AckController.schedule, h, Life.dueCall, hdue, HandlerCall.flags]
  · have hdue : ¬ (l.controller.pending = ∅ ∨ offset = 0) :=
      fun hd => h (hd.imp_right Eq.symm)
    refine ⟨⟨by simp [Life.after], ?_, ?_, ?_⟩, ?_⟩
    · intro _ _
      refine ⟨by simpa [Life.after, AckController.schedule, h] using hcalls, ?_, ?_⟩
      · simp only [Life.after, AckController.schedule, h, if_false]
        exact ⟨fun he => h (.inl he), rfl, rfl⟩
      · simp [Life.after, AckController.schedule, h, arm, startTimer]
    · simp [Life.after, AckController.schedule, h, arm, startTimer, hd]
    · simp [Life.after, AckController.schedule, h, arm, startTimer]
    · simp [Life.after, AckController.schedule, h, Life.dueCall, hdue]

theorem Life.Good.expire {l : Life H} (hg : l.Good) (hd : l.destroyed = false)
    {r : AckController H × Option (HandlerCall H)} (h : l.controller.expire = some r) :
    (l.after r).Good ∧ (l.after r).calls.map HandlerCall.flags =
      (l.dueCall .timerExpired).toList ++ l.calls.map HandlerCall.flags := by
  obtain ⟨deadline, dispatched, hj, rfl⟩ := expire_eq_some h
  have hzero : dispatched = 0 := hg.dispatched _ hj
  cases hr : l.controller.running with
  | true =>
      have hp := (hg.running hd hr).2.1.pending
      simpa [Life.dueCall, hr, hp] using hg.stop hd hr (c := { l.controller with
        timerJob := some ⟨none, dispatched⟩, running := false }) rfl (by simp [hzero]) true false
  | false =>
      refine ⟨hg.keep hd hr.symm rfl (by simp) (by simp [hj]) (by simp [hzero]), ?_⟩
      simp [Life.dueCall, hr, Life.after]

theorem Life.Good.destroy {l : Life H} (hg : l.Good) (hd : l.destroyed = false) :
    Life.Good { l with destroyed := true, calls := l.controller.revoke.toList ++ l.calls } ∧
      (l.controller.revoke.toList ++ l.calls).map HandlerCall.flags =
        (l.dueCall .destroy).toList ++ l.calls.map HandlerCall.flags := by
  cases hr : l.controller.running with
  | true =>
      obtain ⟨hcalls, hw, hh⟩ := hg.running hd hr
      obtain ⟨handler, hhandler⟩ := Option.isSome_iff_exists.mp hw.handler
      have hs : l.scheduled = some handler := hh.symm.trans hhandler
      have hrevoke : l.controller.revoke = some ⟨handler, false, true⟩ := by
        simp [revoke, hr, hw.timerJob, callHandler, hhandler]
      refine ⟨⟨fun hn => ?_, by simp, fun _ _ => ?_, hg.dispatched⟩, ?_⟩
      · exact absurd (hs.symm.trans hn) (by simp)
      · exact ⟨handler, false, true, hs, by simp [hrevoke, hcalls]⟩
      · simp [hrevoke, Life.dueCall, hr, HandlerCall.flags]
  | false =>
      have hrevoke : l.controller.revoke = none := by simp [revoke, hr]
      simp only [hrevoke, Option.toList_none, List.nil_append]
      refine ⟨⟨hg.unscheduled, by simp, fun hs _ => hg.stopped hs (.inr hr), hg.dispatched⟩, ?_⟩
      simp [Life.dueCall, hr]

/-- Every operation keeps the invariant and makes exactly the handler call it is to make. -/
theorem lifeStep_good {l l' : Life H} {op : Operation H} (hg : l.Good)
    (h : lifeStep l op = some l') :
    l'.Good ∧ l'.calls.map HandlerCall.flags =
      (l.dueCall op).toList ++ l.calls.map HandlerCall.flags := by
  unfold lifeStep at h
  split at h
  · cases h
  · rename_i hnd
    have hd : l.destroyed = false := by simpa using hnd
    cases op with
    | ackAwait clientId =>
        simp only [Option.ite_none_left_eq_some, Option.some.injEq] at h
        obtain ⟨hs, rfl⟩ := h
        have hn : l.scheduled = none := by simpa using hs
        have hr := (hg.unscheduled hn).2.1
        refine ⟨hg.keep hd (c := l.controller.ackAwait clientId) rfl rfl ?_ id hg.dispatched, rfl⟩
        intro ht
        exact absurd (hr.symm.trans ht) (by simp)
    | schedule offset handler now =>
        simp only [Option.ite_none_left_eq_some, Option.some.injEq] at h
        obtain ⟨hs, rfl⟩ := h
        exact hg.schedule hd (by simpa using hs) offset handler now
    | ack clientId transactionId =>
        cases h
        exact hg.ack hd clientId transactionId
    | ackClient clientId =>
        cases h
        exact hg.ack hd clientId l.controller.transactionId
    | reschedule clientId transactionId offset now =>
        cases h
        exact ⟨hg.reschedule hd clientId transactionId offset now, rfl⟩
    | timerExpired =>
        obtain ⟨r, hr, rfl⟩ := Option.map_eq_some_iff.mp h
        exact hg.expire hd hr
    | destroy =>
        cases h
        exact hg.destroy hd

theorem good_of_reachable {powerState : PowerState} {transactionId : TransactionId} {now : Time}
    {l : Life H}
    (h : Transition.Reachable lifeStep ⟨create powerState transactionId now, none, false, []⟩ l) :
    l.Good :=
  h.invariant (fun _ _ _ hg ht => (lifeStep_good hg ht).1)
    (good_create powerState transactionId now)

end AckController

end DeviceAndDisplay.PowerManager
