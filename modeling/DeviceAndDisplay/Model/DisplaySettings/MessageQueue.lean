import Mathlib.Data.Option.Basic

/-! # The queue of CEC messages

`sendMsgToQueue` and the steps of `sendMsgThread`. A thread that pushes holds the mutex; the
consumer holds it only while it tests the run flag in its wait. -/

namespace DeviceAndDisplay.DisplaySettings

variable {α : Type*}

/-- The step that `sendMsgThread` takes next. -/
inductive SendMsgPoint (α : Type*) where
  /-- The test of the exit flag at the head of the loop. -/
  | testLoop
  /-- Blocked until the run flag is set. -/
  | wait
  | testExit
  | testEmpty
  /-- The queue was empty: the run flag is set to false. -/
  | resetRun
  | readFront
  | process (msg : α)
  | pop
  /-- The run flag is set to false before the loop is left. -/
  | leave
  | returned
deriving DecidableEq, Repr

structure MessageQueue (α : Type*) where
  sendMsgQueue : List α
  sendMsgThreadRun : Bool
  sendMsgThreadExit : Bool
  point : SendMsgPoint α
  /-- The messages that were processed, oldest first. -/
  processed : List α
deriving DecidableEq, Repr

namespace MessageQueue

/-- The thread starts; the constructor of the plugin leaves the run flag as it is in memory. -/
def create (run : Bool) : MessageQueue α where
  sendMsgQueue := []
  sendMsgThreadRun := run
  sendMsgThreadExit := false
  point := .testLoop
  processed := []

def sendMsgToQueue (msg : α) (q : MessageQueue α) : MessageQueue α :=
  { q with sendMsgQueue := q.sendMsgQueue ++ [msg], sendMsgThreadRun := true }

/-- What `Deinitialize` does before it joins the thread. -/
def requestExit (q : MessageQueue α) : MessageQueue α :=
  { q with sendMsgThreadExit := true, sendMsgThreadRun := true }

/-- The next step of `sendMsgThread`. -/
def sendMsgThread (q : MessageQueue α) : Option (MessageQueue α) :=
  match q.point with
  | .testLoop => some { q with point := if q.sendMsgThreadExit then .returned else .wait }
  | .wait => if q.sendMsgThreadRun then some { q with point := .testExit } else none
  | .testExit => some { q with point := if q.sendMsgThreadExit then .leave else .testEmpty }
  | .testEmpty => some { q with point := if q.sendMsgQueue.isEmpty then .resetRun else .readFront }
  | .resetRun => some { q with sendMsgThreadRun := false, point := .testLoop }
  | .readFront => q.sendMsgQueue.head?.map fun msg => { q with point := .process msg }
  | .process msg => some { q with processed := q.processed ++ [msg], point := .pop }
  | .pop => some { q with sendMsgQueue := q.sendMsgQueue.tail, point := .testLoop }
  | .leave => some { q with sendMsgThreadRun := false, point := .returned }
  | .returned => none

end MessageQueue

inductive QueueAction (α : Type*) where
  | sendMsgToQueue (msg : α)
  | requestExit
  | sendMsgThread
deriving DecidableEq, Repr

def queueStep (q : MessageQueue α) : QueueAction α → Option (MessageQueue α)
  | .sendMsgToQueue msg => some (q.sendMsgToQueue msg)
  | .requestExit => some q.requestExit
  | .sendMsgThread => q.sendMsgThread

end DeviceAndDisplay.DisplaySettings
