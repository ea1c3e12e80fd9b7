import DeviceAndDisplay.Model.Helpers.Settings
import DeviceAndDisplay.Model.SystemServices.NetworkStandbyMode
import Mathlib.Data.List.DropRight

/-! # Log uploads

`uploadLogsAsync`, `abortLogUpload`, `onSystemPowerStateChanged` and `onLogUpload` as the critical
sections they execute under `m_uploadLogsMutex`, with the upload processes and the events they
publish. Processes are numbered in the order of their start; the number stands for the pid. -/

namespace DeviceAndDisplay.SystemServices

abbrev Pid := ℕ

/-- The state in a SYSSTATE_LOG_UPLOAD event, and the text in EVT_ONLOGUPLOAD. -/
inductive LogUploadStatus where
  | success
  | failure
  | aborted
deriving DecidableEq, Repr

inductive ProcessState where
  | running
  | ended (status : LogUploadStatus)
  | killed
deriving DecidableEq, Repr

structure UploadProcess where
  state : ProcessState := .running
  reaped : Bool := false
deriving DecidableEq, Repr

/-- The status of a process that does not run any more. -/
def UploadProcess.outcome (process : UploadProcess) : Option LogUploadStatus :=
  match process.state with
  | .running => none
  | .ended status => some status
  | .killed => some .aborted

/-- `kill` with SIGKILL, then `waitpid`. -/
def UploadProcess.killAndReap (process : UploadProcess) : UploadProcess where
  state := match process.state with
    | .running => .killed
    | state => state
  reaped := true

/-- A SYSSTATE_LOG_UPLOAD event. It carries no pid; `pid` is the process that published it. -/
structure UploadEvent where
  pid : Pid
  status : LogUploadStatus
deriving DecidableEq, Repr

/-- EVT_ONLOGUPLOAD, with the process it is sent for and the one whose end caused it. -/
structure UploadNotification where
  status : LogUploadStatus
  pid : Pid
  source : Pid
deriving DecidableEq, Repr

/-- What a thread does next. -/
inductive LogUploadCall where
  | idle
  /-- `uploadLogsAsync` found another upload running. -/
  | abortThenStart
  | start
  /-- `onSystemPowerStateChanged` found an upload running. -/
  | abort
  /-- `onLogUpload`, in `waitpid`; it holds the mutex. -/
  | wait
deriving DecidableEq, Repr

structure LogUpload where
  uploadLogsPid : Option Pid := none
  uploadLogsMutex : Option ThreadId := none
  /-- How many processes were started. -/
  started : ℕ := 0
  processes : Pid → UploadProcess := fun _ => {}
  /-- The events that are not delivered yet. -/
  events : List UploadEvent := []
  /-- The newest one first. -/
  notifications : List UploadNotification := []
  threads : ThreadId → LogUploadCall := fun _ => .idle
  responses : List (ThreadId × Bool) := []

/-- The power states that `onSystemPowerStateChanged` tells apart. -/
inductive SystemPowerState where
  | on
  | lightSleep
  | standby
  | deepSleep
  | other
deriving DecidableEq, Repr

inductive LogUploadAction where
  | uploadLogsAsync (t : ThreadId)
  | abortLogUpload (t : ThreadId)
  /-- `rfcLogUpload` is the answer to RFC_LOG_UPLOAD. -/
  | onSystemPowerStateChanged (t : ThreadId) (currentPowerState powerState : SystemPowerState)
      (rfcLogUpload : Bool)
  /-- The event at index `i` is delivered. -/
  | onLogUpload (t : ThreadId) (i : ℕ)
  /-- The next critical section; `forks` tells whether `logUploadAsync` starts a process. -/
  | proceed (t : ThreadId) (forks : Bool)
  /-- A process ends and publishes its event. -/
  | ends (pid : Pid) (status : LogUploadStatus)
deriving DecidableEq, Repr

namespace LogUpload

def goTo (t : ThreadId) (call : LogUploadCall) (s : LogUpload) : LogUpload :=
  { s with threads := Function.update s.threads t call }

def respond (t : ThreadId) (result : Bool) (s : LogUpload) : LogUpload :=
  { s.goTo t .idle with responses := (t, result) :: s.responses }

/-! ### The critical sections -/

/-- The first one of `uploadLogsAsync`. -/
def testUpload (t : ThreadId) (s : LogUpload) : LogUpload :=
  if s.uploadLogsPid.isSome then s.goTo t .abortThenStart else s.goTo t .start

/-- The last one of `uploadLogsAsync`. -/
def startUpload (forks : Bool) (s : LogUpload) : LogUpload :=
  if forks then
    { s with
      uploadLogsPid := some s.started
      started := s.started + 1
      processes := Function.update s.processes s.started {} }
  else
    { s with uploadLogsPid := none }

/-- The one of `abortLogUpload`, with its result. -/
def abortUpload (s : LogUpload) : Bool × LogUpload :=
  match s.uploadLogsPid with
  | none => (false, s)
  | some pid =>
      (true, { s with
        uploadLogsPid := none
        processes := Function.update s.processes pid (s.processes pid).killAndReap
        notifications := ⟨.aborted, pid, pid⟩ :: s.notifications })

/-- The one of `onLogUpload`, up to `waitpid`. -/
def notifyUpload (t : ThreadId) (event : UploadEvent) (s : LogUpload) : LogUpload :=
  match s.uploadLogsPid with
  | none => s
  | some pid =>
      { s.goTo t .wait with
        uploadLogsMutex := some t
        notifications := ⟨event.status, pid, event.pid⟩ :: s.notifications }

/-- The rest of it; `waitpid` returns only when the process does not run any more. -/
def reapUpload (t : ThreadId) (s : LogUpload) : Option LogUpload :=
  match s.uploadLogsPid with
  | none => none
  | some pid =>
      if (s.processes pid).state = .running then
        none
      else
        some { s.goTo t .idle with
          uploadLogsPid := none
          uploadLogsMutex := none
          processes := Function.update s.processes pid { s.processes pid with reaped := true } }

/-- What a thread inside a function does next. -/
def proceed (t : ThreadId) (forks : Bool) (s : LogUpload) : Option LogUpload :=
  match s.threads t with
  | .idle => none
  | .wait => s.reapUpload t
  | call =>
      if s.uploadLogsMutex.isSome then
        none
      else
        match call with
        | .abortThenStart => some (s.abortUpload.2.goTo t .start)
        | .start => some ((s.startUpload forks).respond t true)
        | _ => some (s.abortUpload.2.goTo t .idle)

/-- `onSystemPowerStateChanged`, up to its first critical section. -/
def powerStateChanged (t : ThreadId) (currentPowerState powerState : SystemPowerState)
    (rfcLogUpload : Bool) (s : LogUpload) : LogUpload :=
  match powerState with
  | .lightSleep | .standby =>
      if currentPowerState = .on ∧ rfcLogUpload = true then s.testUpload t else s
  | .deepSleep => if s.uploadLogsPid.isSome then s.goTo t .abort else s
  | _ => s

end LogUpload

def logUploadStep (s : LogUpload) : LogUploadAction → Option LogUpload
  | .ends pid status =>
      if pid < s.started ∧ (s.processes pid).state = .running then
        some { s with
          processes := Function.update s.processes pid { s.processes pid with
            state := .ended status }
          events := s.events ++ [⟨pid, status⟩] }
      else
        none
  | .proceed t forks => s.proceed t forks
  | .uploadLogsAsync t =>
      if s.threads t = .idle ∧ s.uploadLogsMutex = none then some (s.testUpload t) else none
  | .abortLogUpload t =>
      if s.threads t = .idle ∧ s.uploadLogsMutex = none then
        some (s.abortUpload.2.respond t s.abortUpload.1)
      else
        none
  | .onSystemPowerStateChanged t currentPowerState powerState rfcLogUpload =>
      if s.threads t = .idle ∧ s.uploadLogsMutex = none then
        some (s.powerStateChanged t currentPowerState powerState rfcLogUpload)
      else
        none
  | .onLogUpload t i =>
      if s.threads t = .idle ∧ s.uploadLogsMutex = none then
        s.events[i]?.map fun event =>
          { s with events := s.events.eraseIdx i }.notifyUpload t event
      else
        none

end DeviceAndDisplay.SystemServices

/-! ## The DCM settings

`getDCMconfigDetails` of the log upload, with the trimming functions it uses. -/

namespace DeviceAndDisplay.SystemServices.UploadLogs

open Helpers Storage

/-- `WHITESPACE`. -/
def whitespace : Text := [' ', '\n', '\r', '\t', '\x0c', '\x0b']

def ltrim (s : Text) : Text := s.dropWhile (· ∈ whitespace)

def rtrim (s : Text) : Text := s.rdropWhile (· ∈ whitespace)

def trim (s : Text) : Text := rtrim (ltrim s)

/-- `regex_search` for the expression that is the key followed by `([^\n]+)`; the result is the
text of the group. -/
def regexSearch (key : Text) : Text → Option Text
  | [] => none
  | c :: rest =>
      let line := ((c :: rest).drop key.length).takeWhile (· ≠ '\n')
      if key <+: c :: rest ∧ line ≠ [] then some line else regexSearch key rest

def uploadProtocolKey : Text :=
  "LogUploadSettings:".toList ++ "UploadRepository:".toList ++ "uploadProtocol=".toList

def urlKey : Text :=
  "LogUploadSettings:".toList ++ "UploadRepository:".toList ++ "URL=".toList

def uploadOnRebootKey : Text := "LogUploadSettings:".toList ++ "UploadOnReboot=".toList

/-- The three outputs. -/
structure DcmSettings where
  uploadProtocol : Text
  httplink : Text
  uploadCheck : Text
deriving DecidableEq, Repr

/-- `temp` after a search. -/
def searchInto (key dcminfo temp : Text) : Text :=
  match regexSearch key dcminfo with
  | some text => trim text
  | none => temp

/-- `if (temp.size() > 0) output = temp` -/
def store (temp output : Text) : Text := if 0 < temp.length then temp else output

/-- `file` is what the file holds; `none` if it cannot be opened. -/
def getDCMconfigDetails (file : Option Text) (s : DcmSettings) : Bool × DcmSettings :=
  match file with
  | none => (false, s)
  | some dcminfo =>
      if dcminfo.length < 1 then
        (false, s)
      else
        let temp := searchInto uploadProtocolKey dcminfo []
        let s := { s with uploadProtocol := store temp s.uploadProtocol }
        let temp := searchInto urlKey dcminfo temp
        let s := { s with httplink := store temp s.httplink }
        let temp := searchInto uploadOnRebootKey dcminfo temp
        let s := { s with uploadCheck := store temp s.uploadCheck }
        (true, s)

end DeviceAndDisplay.SystemServices.UploadLogs
