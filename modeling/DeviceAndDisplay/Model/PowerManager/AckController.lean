import DeviceAndDisplay.Model.PowerManager.Types
import Mathlib.Data.Finset.Basic

/-! # AckController

The controller of one power-mode transition. The completion handler is a value of a type
`H`; a method that calls it returns the call, and the owner of the controller executes it. -/

namespace DeviceAndDisplay.PowerManager

/-- A valid `_timerJob`. -/
structure TimerJob where
  /-- The time under which the worker pool holds the job, if it is queued. -/
  scheduled : Option Time
  /-- Pool threads inside the timer lambda that hold the reference `wPtr.lock()` returned. -/
  dispatched : ℕ
deriving DecidableEq, Repr

structure AckController (H : Type) where
  powerState : PowerState
  pending : Finset ClientId
  transactionId : TransactionId
  timeout : Time
  timerJob : Option TimerJob
  handler : Option H
  running : Bool
deriving DecidableEq

/-- A call of a completion handler. -/
structure HandlerCall (H : Type) where
  handler : H
  isTimedout : Bool
  isRevoked : Bool
deriving DecidableEq, Repr

/-- The arguments of the call. -/
def HandlerCall.flags {H : Type} (call : HandlerCall H) : Bool × Bool :=
  (call.isTimedout, call.isRevoked)

namespace AckController

variable {H : Type}

/-- The constructor; `transactionId` is the incremented `_nextTransactionId`. -/
def create (powerState : PowerState) (transactionId : TransactionId) (now : Time) :
    AckController H where
  powerState := powerState
  pending := ∅
  transactionId := transactionId
  timeout := now
  timerJob := none
  handler := none
  running := false

def ackAwait (clientId : ClientId) (c : AckController H) : AckController H :=
  { c with pending := insert clientId c.pending }

/-- The call `_handler(isTimedout, isRevoked)`. -/
def callHandler (c : AckController H) (isTimedout isRevoked : Bool) : Option (HandlerCall H) :=
  c.handler.map fun handler => ⟨handler, isTimedout, isRevoked⟩

/-- `_workerPool.Revoke(_timerJob)`. -/
def revokeTimerJob (c : AckController H) : AckController H :=
  { c with timerJob := c.timerJob.map fun job => { job with scheduled := none } }

/-- `Ack(clientId, transactionId)`. -/
def ack (clientId : ClientId) (transactionId : TransactionId) (c : AckController H) :
    ErrorCode × AckController H × Option (HandlerCall H) :=
  if transactionId ≠ c.transactionId then
    (.errorInvalidParameter, c, none)
  else if clientId ∉ c.pending then
    (.errorInvalidParameter, c, none)
  else
    let c := { c with pending := c.pending.erase clientId }
    if c.pending = ∅ ∧ c.running = true then
      let c := { c with running := false }
      (.errorNone, c.revokeTimerJob, c.callHandler false false)
    else
      (.errorNone, c, none)

/-- `Ack(clientId)`. -/
def ackClient (clientId : ClientId) (c : AckController H) :
    ErrorCode × AckController H × Option (HandlerCall H) :=
  c.ack clientId c.transactionId

/-- `IsRunning`. -/
def isRunning (c : AckController H) : Bool :=
  c.running && c.timerJob.isSome

/-! ### Schedule, in the steps it takes -/

/-- The first test of `Schedule`: the handler is to be called at once. -/
def completesAtOnce (offsetInMilliseconds : ℕ) (c : AckController H) : Prop :=
  c.pending = ∅ ∨ 0 = offsetInMilliseconds

instance (offset : ℕ) (c : AckController H) : Decidable (c.completesAtOnce offset) :=
  inferInstanceAs (Decidable (_ ∨ _))

/-- `Schedule` sets `_running` and `_handler`. -/
def arm (handler : H) (c : AckController H) : AckController H :=
  { c with running := true, handler := some handler }

/-- `Schedule` computes `_timeout`, creates the timer job and hands it to the worker pool. -/
def startTimer (now : Time) (offsetInMilliseconds : ℕ) (c : AckController H) : AckController H :=
  let timeout := max (now.add (.ofNat offsetInMilliseconds)) c.timeout
  { c with timeout := timeout, timerJob := some ⟨some timeout, 0⟩ }

/-- `Schedule`, uninterrupted. -/
def schedule (offsetInMilliseconds : ℕ) (handler : H) (now : Time) (c : AckController H) :
    AckController H × Option (HandlerCall H) :=
  if c.completesAtOnce offsetInMilliseconds then
    (c, some ⟨handler, false, false⟩)
  else
    ((c.arm handler).startTimer now offsetInMilliseconds, none)

/-! ### The timer job -/

/-- A pool thread takes the queued timer job and locks the weak pointer. -/
def timerDispatch (c : AckController H) : Option (AckController H) :=
  match c.timerJob with
  | some ⟨some _, dispatched⟩ => some { c with timerJob := some ⟨none, dispatched + 1⟩ }
  | _ => none

/-- The dispatched thread tests `_running`, calls the handler and drops its reference. -/
def timerRun (c : AckController H) : Option (AckController H × Option (HandlerCall H)) :=
  match c.timerJob with
  | some ⟨scheduled, dispatched + 1⟩ =>
      let c := { c with timerJob := some ⟨scheduled, dispatched⟩ }
      if c.running then
        let c := { c with running := false }
        some (c, c.callHandler true false)
      else
        some (c, none)
  | _ => none

/-- The strong references that dispatched timer jobs hold. -/
def dispatched (c : AckController H) : ℕ :=
  (c.timerJob.map TimerJob.dispatched).getD 0

/-! ### Reschedule and destruction -/

/-- `Reschedule`; the offset is an `int` that `Time::Add` takes as a `uint32_t`. -/
def reschedule (clientId : ClientId) (transactionId : TransactionId) (offsetInMilliseconds : ℤ)
    (now : Time) (c : AckController H) : ErrorCode × AckController H :=
  let newTimeout := now.add (.ofInt offsetInMilliseconds)
  if c.running = false then
    (.errorNone, { c with timeout := max c.timeout newTimeout })
  else if transactionId ≠ c.transactionId then
    (.errorInvalidParameter, c)
  else if clientId ∉ c.pending then
    (.errorInvalidParameter, c)
  else if newTimeout > c.timeout then
    (.errorNone, { c with
      timeout := newTimeout
      timerJob := c.timerJob.map fun job => { job with scheduled := some newTimeout } })
  else
    (.errorNone, c)

/-- `revoke`, called by the destructor: the handler call it makes. -/
def revoke (c : AckController H) : Option (HandlerCall H) :=
  if c.running && c.timerJob.isSome then c.callHandler false true else none

end AckController

end DeviceAndDisplay.PowerManager
