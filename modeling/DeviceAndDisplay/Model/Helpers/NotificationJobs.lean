import Mathlib.Data.List.Basic
import Mathlib.Data.Nat.Notation

/-! # Notifications that jobs deliver

`Register`, `Unregister`, `dispatchEvent` and `Dispatch` of `DeviceDiagnosticsImplementation` and
of `WarehouseImplementation`, which differ in the event only. -/

namespace DeviceAndDisplay.Helpers

inductive RegistrationStatus where
  | errorNone
  | errorGeneral
deriving DecidableEq, Repr

/-- The notification list, the references taken on its objects, the submitted jobs with the
references that they hold on the implementation, and the calls so far, newest first. -/
structure NotificationJobs (ι ε : Type) where
  notification : List ι := []
  references : List ι := []
  jobs : List ε := []
  implementationReferences : ℕ := 0
  calls : List (ι × ε) := []
deriving DecidableEq, Repr

namespace NotificationJobs

variable {ι ε : Type} [DecidableEq ι]

/-- An object that is registered already is only logged. -/
def register (notification : ι) (n : NotificationJobs ι ε) :
    RegistrationStatus × NotificationJobs ι ε :=
  if notification ∈ n.notification then
    (.errorNone, n)
  else
    (.errorNone, { n with
      notification := n.notification ++ [notification]
      references := notification :: n.references })

def unregister (notification : ι) (n : NotificationJobs ι ε) :
    RegistrationStatus × NotificationJobs ι ε :=
  if notification ∈ n.notification then
    (.errorNone, { n with
      notification := n.notification.erase notification
      references := n.references.erase notification })
  else
    (.errorGeneral, n)

/-- `dispatchEvent`: the job holds a reference on the implementation. -/
def dispatchEvent (event : ε) (n : NotificationJobs ι ε) : NotificationJobs ι ε :=
  { n with
    jobs := n.jobs ++ [event]
    implementationReferences := n.implementationReferences + 1 }

/-- The loop of `Dispatch`, which runs under `_adminLock`. -/
def dispatch (event : ε) (n : NotificationJobs ι ε) : NotificationJobs ι ε :=
  { n with
    calls := n.notification.foldl (fun calls notification => (notification, event) :: calls)
      n.calls }

/-- A pool thread runs the `i`-th job and destroys it. -/
def runJob (i : ℕ) (n : NotificationJobs ι ε) : Option (NotificationJobs ι ε) :=
  n.jobs[i]?.map fun event =>
    { n.dispatch event with
      jobs := n.jobs.eraseIdx i
      implementationReferences := n.implementationReferences - 1 }

end NotificationJobs

/-- The steps of clients and of the worker pool. -/
inductive NotificationAction (ι : Type) where
  | register (notification : ι)
  | unregister (notification : ι)
  | runJob (i : ℕ)
deriving DecidableEq, Repr

def NotificationJobs.step {ι ε : Type} [DecidableEq ι] (n : NotificationJobs ι ε) :
    NotificationAction ι → Option (NotificationJobs ι ε)
  | .register notification => some (n.register notification).2
  | .unregister notification => some (n.unregister notification).2
  | .runJob i => n.runJob i

end DeviceAndDisplay.Helpers
