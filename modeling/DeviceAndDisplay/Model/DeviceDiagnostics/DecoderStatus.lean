import DeviceAndDisplay.Model.Helpers.NotificationJobs
import Mathlib.Data.Int.Notation

/-! # The decoder status

`AVPollThread` and the notifications of `DeviceDiagnosticsImplementation`. A status for which there
is no text has no result. -/

namespace DeviceAndDisplay.DeviceDiagnostics

open Helpers

/-- A pointer to an `INotification`. -/
abbrev Sink := ℕ

/-- The texts, up to the null pointer that ends the array. -/
def decoderStatusStr (status : ℤ) : Option String :=
  if status < 0 then none else ["IDLE", "PAUSED", "ACTIVE"][status.toNat]?

/-- `EssRMgrRes_idle`. -/
def essRMgrResIdle : ℤ := 0

/-- `DeviceDiagnosticsImplementation` and the local variable `lastStatus` of its thread. -/
structure Implementation where
  notifications : NotificationJobs Sink String := {}
  pollThreadRun : Bool := true
  lastStatus : ℤ := essRMgrResIdle
deriving DecidableEq, Repr

namespace Implementation

def onDecoderStatusChange (status : ℤ) (d : Implementation) : Option Implementation :=
  (decoderStatusStr status).map fun text =>
    { d with notifications := d.notifications.dispatchEvent text }

/-- One round of `AVPollThread`, for the status that `EssRMgrGetAVState` gives. -/
def poll (status : ℤ) (d : Implementation) : Option Implementation :=
  if d.pollThreadRun = false then
    none
  else if status = d.lastStatus then
    some d
  else
    { d with lastStatus := status }.onDecoderStatusChange status

end Implementation

inductive DecoderAction where
  | poll (status : ℤ)
  /-- The destructor ends the thread. -/
  | stop
  | notification (action : NotificationAction Sink)
deriving DecidableEq, Repr

def decoderStep (d : Implementation) : DecoderAction → Option Implementation
  | .poll status => d.poll status
  | .stop => some { d with pollThreadRun := false }
  | .notification action =>
      (d.notifications.step action).map fun notifications => { d with notifications }

end DeviceAndDisplay.DeviceDiagnostics
