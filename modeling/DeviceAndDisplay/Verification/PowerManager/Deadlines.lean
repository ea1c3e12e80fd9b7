import DeviceAndDisplay.Storage.Bytes
import DeviceAndDisplay.Verification.PowerManager.AckController
import Mathlib.Data.Int.GCD
import Mathlib.Order.Bounds.Basic

/-! # Delays and deadlines

`Reschedule` looks at the ids only while the controller runs, and the delay reaches the clock as
an unsigned number of milliseconds. -/

namespace DeviceAndDisplay.PowerManager

namespace AckController

open Transition

variable {H : Type} {c : AckController H} {clientId : ClientId} {transactionId : TransactionId}

/-! ### Who may delay -/

/-- The transaction is the controller's, and the client is awaited. -/
def Awaits (c : AckController H) (clientId : ClientId) (transactionId : TransactionId) : Prop :=
  transactionId = c.transactionId ∧ clientId ∈ c.pending

instance (c : AckController H) (clientId : ClientId) (transactionId : TransactionId) :
    Decidable (c.Awaits clientId transactionId) := inferInstanceAs (Decidable (_ ∧ _))

/-- A delay by anyone else is refused, and leaves the timeout and the timer as they are. -/
def Validates (c : AckController H) (clientId : ClientId) (transactionId : TransactionId)
    (offset : ℤ) (now : Time) : Prop :=
  let r := c.reschedule clientId transactionId offset now
  (r.1 = .errorNone → c.Awaits clientId transactionId) ∧
    (¬ c.Awaits clientId transactionId → r.1 = .errorInvalidParameter ∧
      r.2.timeout = c.timeout ∧ r.2.timerJob = c.timerJob)

/-- Before `Schedule` and after the completion, any delay is accepted. -/
theorem reschedule_of_not_running (hr : c.running = false) (offset : ℤ) (now : Time) :
    c.reschedule clientId transactionId offset now =
      (.errorNone, { c with timeout := max c.timeout (now.add (.ofInt offset)) }) :=
  if_pos hr

theorem reschedule_of_not_awaits (hr : c.running = true)
    (h : ¬ c.Awaits clientId transactionId) (offset : ℤ) (now : Time) :
    c.reschedule clientId transactionId offset now = (.errorInvalidParameter, c) := by
  simp only [reschedule, hr, Bool.true_eq_false, if_false]
  by_cases hid : transactionId = c.transactionId
  · rw [if_neg (not_not.mpr hid), if_pos fun hmem => h ⟨hid, hmem⟩]
  · rw [if_pos hid]

theorem reschedule_of_awaits (hr : c.running = true) (h : c.Awaits clientId transactionId)
    (offset : ℤ) (now : Time) :
    c.reschedule clientId transactionId offset now =
      if now.add (.ofInt offset) > c.timeout then
        (.errorNone, { c with
          timeout := now.add (.ofInt offset)
          timerJob := c.timerJob.map fun job =>
            { job with scheduled := some (now.add (.ofInt offset)) } })
      else
        (.errorNone, c) := by
  simp only [reschedule, hr, Bool.true_eq_false, if_false]
  rw [if_neg (not_not.mpr h.1), if_neg (not_not.mpr h.2)]

/-- The ids are validated exactly while the controller runs, or if they are valid. -/
theorem reschedule_validated_iff (c : AckController H) (clientId : ClientId)
    (transactionId : TransactionId) (offset : ℤ) (now : Time) :
    c.Validates clientId transactionId offset now ↔
      c.running = true ∨ c.Awaits clientId transactionId := by
  by_cases h : c.Awaits clientId transactionId
  · simp [Validates, h]
  · cases hr : c.running with
    | false =>
        simp only [Validates, reschedule_of_not_running hr]
        simp [h]
    | true =>
        simp only [Validates, reschedule_of_not_awaits hr h]
        simp [h]

/-- Before `Schedule`, a client that is not awaited postpones the transaction with an old id. -/
theorem reschedule_not_validated :
    let c : AckController Unit := (create .on 2 0).ackAwait 1
    c.reschedule 7 1 60000 0 = (.errorNone, { c with timeout := 60 * ticksPerSecond }) ∧
      ¬ c.Validates 7 1 60000 0 := by
  refine ⟨by decide, fun h => ?_⟩
  exact absurd (h.1 (by decide)) (by decide)

/-! ### Milliseconds -/

/-- The milliseconds that `Time::Add` gets for a delay, whose product is an `int`. -/
def givenDelay (delayPeriod : ℤ) : UInt32 := .ofInt (delayPeriod * 1000)

/-- The seconds that a delay asks for, in ticks. -/
def askedDelay (delayPeriod : ℤ) : ℕ := delayPeriod.toNat * ticksPerSecond

theorem askedDelay_of_nonpos {delayPeriod : ℤ} (h : delayPeriod ≤ 0) :
    askedDelay delayPeriod = 0 := by
  rw [askedDelay, Int.toNat_of_nonpos h, Nat.zero_mul]

theorem milliseconds_emod_eq_zero_iff (delayPeriod : ℤ) :
    delayPeriod * 1000 % 4294967296 = 0 ↔ delayPeriod % 536870912 = 0 := by
  have hfactor : (4294967296 : ℤ) = 536870912 * 8 := rfl
  have hproduct : delayPeriod * 1000 = delayPeriod * 125 * 8 := by omega
  rw [← Int.dvd_iff_emod_eq_zero, ← Int.dvd_iff_emod_eq_zero, hfactor, hproduct,
    Int.mul_dvd_mul_iff_right (by decide)]
  constructor
  · exact fun h => Int.dvd_of_dvd_mul_left_of_gcd_one h (by decide)
  · exact fun h => Int.dvd_mul_of_dvd_left h

/-- The conversion keeps the periods of less than 4294968 seconds, and of the negative ones, which
ask for nothing, those whose milliseconds are a multiple of `2 ^ 32`. -/
theorem givenDelay_eq_iff (delayPeriod : ℤ) :
    (givenDelay delayPeriod).toNat * ticksPerMillisecond = askedDelay delayPeriod ↔
      delayPeriod < 4294968 ∧ (delayPeriod < 0 → delayPeriod % 536870912 = 0) := by
  have hticks : ticksPerMillisecond = 1000 := rfl
  have hseconds : ticksPerSecond = 1000000 := rfl
  rw [givenDelay, Storage.toNat_ofInt, askedDelay, hticks, hseconds]
  have hnonneg : 0 ≤ delayPeriod * 1000 % 4294967296 := Int.emod_nonneg _ (by decide)
  rcases Int.lt_or_le delayPeriod 0 with hneg | hpos
  · rw [← milliseconds_emod_eq_zero_iff, Int.toNat_of_nonpos (Int.le_of_lt hneg)]
    generalize delayPeriod * 1000 % 4294967296 = milliseconds at *
    omega
  · have hmod : delayPeriod * 1000 % 4294967296 = delayPeriod * 1000 ↔ delayPeriod < 4294968 := by
      omega
    rw [← hmod]
    generalize delayPeriod * 1000 % 4294967296 = milliseconds at *
    omega

/-! ### The deadline and the times it is to respect -/

/-- The operations on a controller, with the delays in seconds, as clients ask for them. -/
inductive TimedOperation (H : Type) where
  | ackAwait (clientId : ClientId)
  | schedule (offsetInMilliseconds : ℕ) (handler : H) (now : Time)
  | ack (clientId : ClientId) (transactionId : TransactionId)
  | ackClient (clientId : ClientId)
  | delayPowerModeChangeBy (clientId : ClientId) (transactionId : TransactionId)
      (delayPeriod : ℤ) (now : Time)
  | timerExpired
  | destroy

/-- The call that the controller gets. -/
def TimedOperation.operation : TimedOperation H → Operation H
  | .ackAwait clientId => .ackAwait clientId
  | .schedule offset handler now => .schedule offset handler now
  | .ack clientId transactionId => .ack clientId transactionId
  | .ackClient clientId => .ackClient clientId
  | .delayPowerModeChangeBy clientId transactionId delayPeriod now =>
      .reschedule clientId transactionId (delayPeriod * 1000) now
  | .timerExpired => .timerExpired
  | .destroy => .destroy

/-- A delay by a positive period. -/
def TimedOperation.extends : TimedOperation H → Bool
  | .delayPowerModeChangeBy _ _ delayPeriod _ => decide (0 < delayPeriod)
  | _ => false

/-- A controller with the time of its creation and the times that `Schedule` and the accepted
delays have asked for, in exact arithmetic. -/
structure TimedLife (H : Type) where
  life : Life H
  created : Time
  dues : List Time := []

/-- A new controller. -/
def TimedLife.create (powerState : PowerState) (transactionId : TransactionId) (now : Time) :
    TimedLife H where
  life := ⟨AckController.create powerState transactionId now, none, false, []⟩
  created := now

/-- The time that an operation asks the handler to wait for. -/
def TimedLife.due (t : TimedLife H) : TimedOperation H → Option Time
  | .schedule offset _ now =>
      if t.life.controller.completesAtOnce offset then none
      else some (now + offset * ticksPerMillisecond)
  | .delayPowerModeChangeBy clientId transactionId delayPeriod now =>
      if (t.life.controller.reschedule clientId transactionId (delayPeriod * 1000) now).1 =
          .errorNone then
        some (now + askedDelay delayPeriod)
      else
        none
  | _ => none

def timedStep (t : TimedLife H) (op : TimedOperation H) : Option (TimedLife H) :=
  (lifeStep t.life op.operation).map fun life =>
    { t with life := life, dues := (t.due op).toList ++ t.dues }

/-- The time at which the pool is to run the timer job of a running controller. -/
def Life.deadline (l : Life H) : Option Time :=
  if l.destroyed = false ∧ l.controller.running = true then
    l.controller.timerJob.bind TimerJob.scheduled
  else
    none

/-- After the operation, the deadline is the latest time asked for; it has not gone back, and it
has moved only if the operation is a delay by a positive period. -/
def Exact (t : TimedLife H) (op : TimedOperation H) : Prop :=
  ∀ u, timedStep t op = some u → ∀ deadline, u.life.deadline = some deadline →
    IsGreatest {due | due ∈ u.dues} deadline ∧
    ∀ before, t.life.deadline = some before →
      before ≤ deadline ∧ (op.extends = false → deadline = before)

/-- The milliseconds that `Time::Add` gets lead to the timeout of the exact ones, a delay of zero or
less does not come after the deadline, and by `Schedule` some time asked for is as late as the
creation. -/
def Fits (t : TimedLife H) : TimedOperation H → Prop
  | .schedule offset _ now =>
      ¬ t.life.controller.completesAtOnce offset →
        max t.life.controller.timeout (now.add (.ofNat offset)) =
          max t.life.controller.timeout (now + offset * ticksPerMillisecond) ∧
        ∃ due ∈ (now + offset * ticksPerMillisecond) :: t.dues, t.created ≤ due
  | .delayPowerModeChangeBy clientId transactionId delayPeriod now =>
      (t.life.scheduled = none ∨ t.life.controller.running = true ∧
        t.life.controller.Awaits clientId transactionId) →
        max t.life.controller.timeout (now + (givenDelay delayPeriod).toNat * ticksPerMillisecond) =
          max t.life.controller.timeout (now + askedDelay delayPeriod) ∧
        (t.life.controller.running = true → delayPeriod ≤ 0 → now ≤ t.life.controller.timeout)
  | _ => True

instance (t : TimedLife H) : ∀ op, Decidable (Fits t op)
  | .schedule _ _ _ => inferInstanceAs (Decidable (_ → _ ∧ ∃ due ∈ _, _))
  | .delayPowerModeChangeBy _ _ _ _ => inferInstanceAs (Decidable (_ → _ ∧ (_ → _ → _)))
  | .ackAwait _ | .ack _ _ | .ackClient _ | .timerExpired | .destroy => isTrue trivial

/-- A positive delay that the conversion keeps meets the condition in every state. -/
theorem fits_of_period {delayPeriod : ℤ} (hpos : 0 < delayPeriod) (hlt : delayPeriod < 4294968)
    (t : TimedLife H) (clientId : ClientId) (transactionId : TransactionId) (now : Time) :
    Fits t (.delayPowerModeChangeBy clientId transactionId delayPeriod now) := by
  have hexact := (givenDelay_eq_iff delayPeriod).mpr ⟨hlt, fun hneg => by omega⟩
  intro _
  rw [hexact]
  exact ⟨rfl, fun _ hnonpos => absurd hpos (Int.not_lt.mpr hnonpos)⟩

/-! ### What the operations do to the timeout -/

theorem ack_timeout (clientId : ClientId) (transactionId : TransactionId) (c : AckController H) :
    (c.ack clientId transactionId).2.1.timeout = c.timeout ∧
      ((c.ack clientId transactionId).2.1.running = true → c.running = true) := by
  by_cases h : c.IsLastAck clientId transactionId
  · rw [ack_last h]
    exact ⟨rfl, fun hr => absurd hr (by simp [revokeTimerJob])⟩
  · obtain ⟨pending, _, heq, _⟩ := ack_not_last h
    rw [heq]
    exact ⟨rfl, id⟩

theorem expire_timeout {r : AckController H × Option (HandlerCall H)} (h : c.expire = some r) :
    r.1.timeout = c.timeout ∧ r.1.running = false := by
  obtain ⟨_, _, _, rfl⟩ := expire_eq_some h
  exact ⟨rfl, rfl⟩

/-- An accepted delay. -/
theorem reschedule_accepted (h : c.running = false ∨ c.Awaits clientId transactionId)
    (offset : ℤ) (now : Time) :
    (c.reschedule clientId transactionId offset now).1 = .errorNone ∧
      (c.reschedule clientId transactionId offset now).2.timeout =
        max c.timeout (now.add (.ofInt offset)) ∧
      (c.reschedule clientId transactionId offset now).2.running = c.running := by
  cases hr : c.running with
  | false => simp [reschedule_of_not_running hr, hr]
  | true =>
      have ha : c.Awaits clientId transactionId := h.resolve_left (by simp [hr])
      rw [reschedule_of_awaits hr ha]
      split
      · rename_i hlater
        exact ⟨rfl, (max_eq_right (Nat.le_of_lt hlater)).symm, hr⟩
      · rename_i hnot
        exact ⟨rfl, (max_eq_left (Nat.le_of_not_lt hnot)).symm, hr⟩

/-! ### Latest times -/

theorem isGreatest_cons {due timeout : Time} {dues : List Time}
    (h : IsGreatest {x | x ∈ dues} timeout) :
    IsGreatest {x | x ∈ due :: dues} (max timeout due) := by
  have hset : {x | x ∈ due :: dues} = insert due {x | x ∈ dues} := by
    ext x
    simp
  rw [hset, max_comm]
  exact h.insert due

theorem isGreatest_cons_cons {first due timeout : Time} {dues : List Time}
    (h : IsGreatest {x | x ∈ first :: dues} timeout) :
    IsGreatest {x | x ∈ first :: due :: dues} (max timeout due) := by
  have hset : {x | x ∈ first :: due :: dues} = {x | x ∈ due :: first :: dues} := by
    ext x
    simp [or_left_comm]
  rw [hset]
  exact isGreatest_cons h

/-- A time that is not later than another one does not count. -/
theorem isGreatest_of_cons {first latest : Time} {times : List Time}
    (h : IsGreatest {x | x ∈ first :: times} latest) (hlater : ∃ x ∈ times, first ≤ x) :
    IsGreatest {x | x ∈ times} latest := by
  obtain ⟨x, hx, hle⟩ := hlater
  refine ⟨?_, fun y hy => h.2 (List.mem_cons_of_mem _ hy)⟩
  rcases List.mem_cons.mp h.1 with heq | hmem
  · have hback : x ≤ first := by
      rw [← heq]
      exact h.2 (List.mem_cons_of_mem _ hx)
    rw [heq, Nat.le_antisymm hle hback]
    exact hx
  · exact hmem

/-! ### The deadline of a life -/

theorem Life.Good.deadline_eq {l : Life H} (hg : l.Good) {deadline : Time}
    (h : l.deadline = some deadline) :
    l.destroyed = false ∧ l.controller.running = true ∧ deadline = l.controller.timeout := by
  unfold Life.deadline at h
  split at h
  · rename_i hrun
    rw [(hg.running hrun.1 hrun.2).2.1.timerJob] at h
    exact ⟨hrun.1, hrun.2, (Option.some.inj h).symm⟩
  · cases h

theorem Life.Good.deadline_of_running {l : Life H} (hg : l.Good) (hd : l.destroyed = false)
    (hr : l.controller.running = true) : l.deadline = some l.controller.timeout := by
  rw [Life.deadline, if_pos ⟨hd, hr⟩, (hg.running hd hr).2.1.timerJob]
  rfl

/-- Before `Schedule`, and while the controller runs, its timeout is the latest time asked for. -/
structure Punctual (t : TimedLife H) : Prop where
  good : t.life.Good
  cached : t.life.scheduled = none →
    IsGreatest {due | due ∈ t.created :: t.dues} t.life.controller.timeout
  running : t.life.destroyed = false → t.life.controller.running = true →
    IsGreatest {due | due ∈ t.dues} t.life.controller.timeout

theorem punctual_create (powerState : PowerState) (transactionId : TransactionId) (now : Time) :
    Punctual (H := H) (TimedLife.create powerState transactionId now) where
  good := good_create powerState transactionId now
  cached := by
    intro _
    refine ⟨List.mem_cons_self, fun due hdue => ?_⟩
    exact Nat.le_of_eq (List.mem_singleton.mp hdue)
  running := by simp [TimedLife.create, AckController.create]

theorem timedStep_eq_some {t u : TimedLife H} {op : TimedOperation H}
    (h : timedStep t op = some u) :
    t.life.destroyed = false ∧ lifeStep t.life op.operation = some u.life ∧
      u.created = t.created ∧ u.dues = (t.due op).toList ++ t.dues := by
  obtain ⟨life, hlife, rfl⟩ := Option.map_eq_some_iff.mp h
  refine ⟨?_, hlife, rfl, rfl⟩
  cases hd : t.life.destroyed with
  | false => rfl
  | true => simp [lifeStep, hd] at hlife

/-- An operation that asks for no time. -/
structure Quiet (t : TimedLife H) (op : TimedOperation H) (u : TimedLife H) : Prop where
  due : t.due op = none
  timeout : u.life.controller.timeout = t.life.controller.timeout
  running : u.life.controller.running = true → t.life.controller.running = true
  scheduled : u.life.scheduled = none → t.life.scheduled = none

/-- A first `Schedule` that starts the timer. -/
structure Started (t : TimedLife H) (offset : ℕ) (now : Time) (u : TimedLife H) : Prop where
  waits : ¬ t.life.controller.completesAtOnce offset
  unscheduled : t.life.scheduled = none
  scheduled : u.life.scheduled ≠ none
  alive : u.life.destroyed = false
  running : u.life.controller.running = true
  dues : u.dues = (now + offset * ticksPerMillisecond) :: t.dues
  timeout : u.life.controller.timeout = max t.life.controller.timeout (now.add (.ofNat offset))

/-- A delay that is accepted. -/
structure Delayed (t : TimedLife H) (clientId : ClientId) (transactionId : TransactionId)
    (delayPeriod : ℤ) (now : Time) (u : TimedLife H) : Prop where
  accepted : t.life.controller.running = false ∨ t.life.controller.Awaits clientId transactionId
  scheduled : u.life.scheduled = t.life.scheduled
  alive : u.life.destroyed = false
  running : u.life.controller.running = t.life.controller.running
  dues : u.dues = (now + askedDelay delayPeriod) :: t.dues
  timeout : u.life.controller.timeout = max t.life.controller.timeout
    (now + (givenDelay delayPeriod).toNat * ticksPerMillisecond)

/-- A running controller accepts delays by awaited clients only. -/
theorem Delayed.awaits {t u : TimedLife H} {delayPeriod : ℤ} {now : Time}
    (h : Delayed t clientId transactionId delayPeriod now u)
    (hr : t.life.controller.running = true) :
    t.life.controller.Awaits clientId transactionId :=
  h.accepted.resolve_left (by simp [hr])

theorem timedStep_cases {t u : TimedLife H} {op : TimedOperation H}
    (h : timedStep t op = some u) :
    Quiet t op u ∨
    (∃ offset handler now, op = .schedule offset handler now ∧ Started t offset now u) ∨
    ∃ clientId transactionId delayPeriod now,
      op = .delayPowerModeChangeBy clientId transactionId delayPeriod now ∧
      Delayed t clientId transactionId delayPeriod now u := by
  obtain ⟨life, created, dues⟩ := u
  obtain ⟨hd, hlife, _, hdues⟩ := timedStep_eq_some h
  simp only [lifeStep, hd, Bool.false_eq_true, if_false] at hlife
  cases op with
  | ackAwait clientId =>
      simp only [TimedOperation.operation, Option.ite_none_left_eq_some] at hlife
      obtain ⟨_, hlife⟩ := hlife
      cases hlife
      exact .inl ⟨rfl, rfl, id, id⟩
  | schedule offset handler now =>
      simp only [TimedOperation.operation, Option.ite_none_left_eq_some] at hlife
      obtain ⟨hs, hlife⟩ := hlife
      have hs : t.life.scheduled = none := by simpa using hs
      cases hlife
      by_cases hnow : t.life.controller.completesAtOnce offset
      · have hsame : (t.life.controller.schedule offset handler now).1 = t.life.controller := by
          rw [AckController.schedule, if_pos hnow]
        simp only [Life.after, hsame]
        exact .inl ⟨if_pos hnow, rfl, id, fun _ => hs⟩
      · have hscheduled := Option.some_ne_none handler
        refine .inr (.inl ⟨offset, handler, now, rfl, hnow, hs, hscheduled, rfl, ?_, ?_, ?_⟩)
        · simp [Life.after, AckController.schedule, hnow, startTimer, arm]
        · simpa [TimedLife.due, hnow] using hdues
        · simp [Life.after, AckController.schedule, hnow, startTimer, arm, max_comm]
  | ack clientId transactionId =>
      obtain ⟨htimeout, hr⟩ := ack_timeout clientId transactionId t.life.controller
      cases hlife
      exact .inl ⟨rfl, htimeout, hr, id⟩
  | ackClient clientId =>
      obtain ⟨htimeout, hr⟩ :=
        ack_timeout clientId t.life.controller.transactionId t.life.controller
      cases hlife
      exact .inl ⟨rfl, htimeout, hr, id⟩
  | delayPowerModeChangeBy clientId transactionId delayPeriod now =>
      cases hlife
      by_cases ha : t.life.controller.running = false ∨
          t.life.controller.Awaits clientId transactionId
      · obtain ⟨hcode, htimeout, hr⟩ := reschedule_accepted ha (delayPeriod * 1000) now
        right
        right
        refine ⟨clientId, transactionId, delayPeriod, now, rfl, ha, rfl, rfl, hr, ?_, htimeout⟩
        simpa [TimedLife.due, hcode] using hdues
      · rw [not_or, Bool.not_eq_false] at ha
        have hrefused := reschedule_of_not_awaits ha.1 ha.2 (delayPeriod * 1000) now
        simp only [hrefused]
        exact .inl ⟨by simp [TimedLife.due, hrefused], rfl, id, id⟩
  | timerExpired =>
      obtain ⟨r, hr, hlife⟩ := Option.map_eq_some_iff.mp hlife
      obtain ⟨htimeout, hstopped⟩ := expire_timeout hr
      cases hlife
      refine .inl ⟨rfl, htimeout, fun hrun => ?_, id⟩
      exact absurd (hstopped.symm.trans hrun) (by simp)
  | destroy =>
      cases hlife
      exact .inl ⟨rfl, rfl, id, id⟩

/-- An operation that meets the condition leaves the timeout the latest time asked for. -/
theorem punctual_step {t u : TimedLife H} {op : TimedOperation H} (hp : Punctual t)
    (hf : Fits t op) (h : timedStep t op = some u) : Punctual u := by
  obtain ⟨hd, hlife, hcreated, hdues⟩ := timedStep_eq_some h
  have hgood : u.life.Good := (lifeStep_good hp.good hlife).1
  rcases timedStep_cases h with hq | ⟨offset, handler, now, rfl, hstarted⟩ |
    ⟨clientId, transactionId, delayPeriod, now, rfl, hdelayed⟩
  · have hsame : u.dues = t.dues := by
      rw [hdues, hq.due]
      rfl
    refine ⟨hgood, fun hs => ?_, fun _ hrun => ?_⟩
    · rw [hcreated, hsame, hq.timeout]
      exact hp.cached (hq.scheduled hs)
    · rw [hsame, hq.timeout]
      exact hp.running hd (hq.running hrun)
  · obtain ⟨hexact, hlater⟩ := hf hstarted.waits
    refine ⟨hgood, fun hs => absurd hs hstarted.scheduled, fun _ _ => ?_⟩
    rw [hstarted.dues, hstarted.timeout, hexact]
    -- a later time takes the place of the creation
    exact isGreatest_of_cons (isGreatest_cons_cons (hp.cached hstarted.unscheduled)) hlater
  · refine ⟨hgood, fun hs => ?_, fun _ hrun => ?_⟩
    · rw [hdelayed.scheduled] at hs
      rw [hcreated, hdelayed.dues, hdelayed.timeout, (hf (.inl hs)).1]
      exact isGreatest_cons_cons (hp.cached hs)
    · rw [hdelayed.running] at hrun
      have ha := hdelayed.awaits hrun
      rw [hdelayed.dues, hdelayed.timeout, (hf (.inr ⟨hrun, ha⟩)).1]
      exact isGreatest_cons (hp.running hd hrun)

/-- What a step from a punctual state does to the deadline. -/
theorem exact_of_fits {t : TimedLife H} {op : TimedOperation H} (hp : Punctual t)
    (hf : Fits t op) : Exact t op := by
  intro u h deadline hdeadline
  have hu := punctual_step hp hf h
  obtain ⟨hdu, hrun, rfl⟩ := hu.good.deadline_eq hdeadline
  refine ⟨hu.running hdu hrun, fun before hbefore => ?_⟩
  obtain ⟨hd, ht, rfl⟩ := hp.good.deadline_eq hbefore
  rcases timedStep_cases h with hq | ⟨offset, handler, now, rfl, hstarted⟩ |
    ⟨clientId, transactionId, delayPeriod, now, rfl, hdelayed⟩
  · rw [hq.timeout]
    exact ⟨Nat.le_refl _, fun _ => rfl⟩
  · -- a controller that runs has been scheduled
    have hstopped := (hp.good.unscheduled hstarted.unscheduled).2.1
    exact absurd (ht.symm.trans hstopped) (by simp)
  · obtain ⟨hexact, hearly⟩ := hf (.inr ⟨ht, hdelayed.awaits ht⟩)
    rw [hdelayed.timeout, hexact]
    refine ⟨Nat.le_max_left _ _, fun hextends => max_eq_left ?_⟩
    have hperiod : delayPeriod ≤ 0 := by simpa [TimedOperation.extends] using hextends
    rw [askedDelay_of_nonpos hperiod]
    exact hearly ht hperiod

/-- From `Schedule` on, a step that leaves the deadline exact meets the condition. -/
theorem fits_of_exact {t u : TimedLife H} {op : TimedOperation H} (hp : Punctual t)
    (hop : t.life.scheduled = none → ∀ clientId transactionId delayPeriod now,
      op ≠ .delayPowerModeChangeBy clientId transactionId delayPeriod now)
    (h : timedStep t op = some u) (he : Exact t op) : Fits t op := by
  have hgood : u.life.Good := (lifeStep_good hp.good (timedStep_eq_some h).2.1).1
  have hd : t.life.destroyed = false := (timedStep_eq_some h).1
  rcases timedStep_cases h with hq | ⟨offset, handler, now, rfl, hstarted⟩ |
    ⟨clientId, transactionId, delayPeriod, now, rfl, hdelayed⟩
  · cases op with
    | schedule offset handler now =>
        intro hnow
        exact absurd hq.due (by simp [TimedLife.due, hnow])
    | delayPowerModeChangeBy clientId transactionId delayPeriod now =>
        rintro (hs | ⟨hr, ha⟩)
        · exact absurd rfl (hop hs clientId transactionId delayPeriod now)
        · have hcode := (reschedule_accepted (.inr ha) (delayPeriod * 1000) now).1
          exact absurd hq.due (by simp [TimedLife.due, hcode])
    | _ => trivial
  · intro _
    have hdeadline := hgood.deadline_of_running hstarted.alive hstarted.running
    obtain ⟨hgreatest, _⟩ := he u h _ hdeadline
    rw [hstarted.dues, hstarted.timeout] at hgreatest
    have htrunc : now.add (.ofNat offset) ≤ now + offset * ticksPerMillisecond := by
      rw [Time.add]
      apply Nat.add_le_add_left
      apply Nat.mul_le_mul_right
      rw [UInt32.toNat_ofNat']
      exact Nat.mod_le _ _
    have hlater : now + offset * ticksPerMillisecond ≤
        max t.life.controller.timeout (now.add (.ofNat offset)) :=
      hgreatest.2 List.mem_cons_self
    refine ⟨?_, _, hgreatest.1, ?_⟩
    · apply Nat.le_antisymm
      · exact max_le_max_left _ htrunc
      · exact max_le (Nat.le_max_left _ _) hlater
    · have hcreated := (hp.cached hstarted.unscheduled).2 List.mem_cons_self
      exact Nat.le_trans hcreated (Nat.le_max_left _ _)
  · rintro (hs | ⟨hr, _⟩)
    · exact absurd rfl (hop hs clientId transactionId delayPeriod now)
    · have hdeadline := hgood.deadline_of_running hdelayed.alive (hdelayed.running.trans hr)
      obtain ⟨hgreatest, hmoved⟩ := he u h _ hdeadline
      rw [hdelayed.dues] at hgreatest
      rw [hdelayed.timeout] at hgreatest hmoved
      have hmax := hgreatest.unique (isGreatest_cons (hp.running hd hr))
      refine ⟨hmax, fun _ hperiod => ?_⟩
      have hsame := (hmoved _ (hp.good.deadline_of_running hd hr)).2 (by
        simp [TimedOperation.extends, hperiod])
      rw [hmax, askedDelay_of_nonpos hperiod] at hsame
      exact max_eq_left_iff.mp hsame

/-- In a run whose operations all meet the condition, the deadline is always the latest time asked
for, never goes back, and is put off by positive delays only. -/
theorem deadlines_exact (powerState : PowerState) (transactionId : TransactionId) (created : Time)
    (ops : List (TimedOperation H))
    (h : Along timedStep Fits (TimedLife.create powerState transactionId created) ops) :
    Along timedStep Exact (TimedLife.create powerState transactionId created) ops :=
  h.imp (fun _ _ _ hp hf ht => punctual_step hp hf ht) (fun _ _ hp hf => exact_of_fits hp hf)
    (punctual_create powerState transactionId created)

/-- A delay before `Schedule`, one that extends the deadline and one that comes too late to. -/
theorem deadlines_exact_delayed :
    Along timedStep Exact (TimedLife.create .on 2 0 : TimedLife Unit)
      [.ackAwait 1, .delayPowerModeChangeBy 1 2 3 100, .schedule 1000 () 200,
        .delayPowerModeChangeBy 1 2 4 500, .delayPowerModeChangeBy 1 2 0 700,
        .delayPowerModeChangeBy 1 2 1 900] :=
  deadlines_exact .on 2 0 _ (by decide)

/-- A delay by -1 second puts the deadline off by 49 days. -/
theorem deadlines_not_exact :
    ¬ Along timedStep Exact (TimedLife.create .on 2 0 : TimedLife Unit)
      [.ackAwait 1, .schedule 1000 () 0, .delayPowerModeChangeBy 1 2 (-1) 0] := by
  rintro ⟨_, h⟩
  obtain ⟨_, h⟩ := h _ rfl
  obtain ⟨hexact, _⟩ := h _ rfl
  obtain ⟨hgreatest, _⟩ := hexact _ rfl (4294966296 * ticksPerMillisecond) rfl
  have hmem : 4294966296 * ticksPerMillisecond ∈ [0, 1000 * ticksPerMillisecond] := hgreatest.1
  exact absurd hmem (by decide)

end AckController

end DeviceAndDisplay.PowerManager
