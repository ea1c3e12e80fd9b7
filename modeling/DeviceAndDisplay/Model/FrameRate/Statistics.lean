import Mathlib.Data.Int.Notation
import Mathlib.Data.Nat.Notation
import Mathlib.Logic.Function.Basic

/-! # FPS statistics

The counters of `FrameRateImplementation` and the operations on them. An `int` is an integer, and
additions that overflow, which is undefined behaviour, give `none`. -/

namespace DeviceAndDisplay.FrameRate

/-- `DEFAULT_FPS_COLLECTION_TIME_IN_MILLISECONDS`. -/
def defaultFpsCollectionTimeInMilliseconds : ℤ := 10000

/-- `MINIMUM_FPS_COLLECTION_TIME_IN_MILLISECONDS`. -/
def minimumFpsCollectionTimeInMilliseconds : ℤ := 100

/-- `DEFAULT_MIN_FPS_VALUE`. -/
def defaultMinFpsValue : ℤ := 60

/-- `DEFAULT_MAX_FPS_VALUE`. -/
def defaultMaxFpsValue : ℤ := -1

def intMax : ℤ := 2147483647

/-- The sum of two numbers of type `int`. -/
def addInt (a b : ℤ) : Option ℤ :=
  if -intMax - 1 ≤ a + b ∧ a + b ≤ intMax then some (a + b) else none

inductive HResult where
  | errorNone
  | errorInvalidParameter
deriving DecidableEq, Repr

/-- The arguments of OnFpsEvent. -/
structure FpsEvent where
  average : ℤ
  min : ℤ
  max : ℤ
deriving DecidableEq, Repr

/-- `m_reportFpsTimer`. -/
structure TpTimer where
  isActive : Bool := false
  intervalInMs : ℤ := -1
deriving DecidableEq, Repr

def TpTimer.stop (timer : TpTimer) : TpTimer := { timer with isActive := false }

def TpTimer.start (msec : ℤ) (_ : TpTimer) : TpTimer := { isActive := true, intervalInMs := msec }

structure Implementation where
  fpsCollectionFrequencyInMs : ℤ := defaultFpsCollectionTimeInMilliseconds
  minFpsValue : ℤ := defaultMinFpsValue
  maxFpsValue : ℤ := defaultMaxFpsValue
  totalFpsValues : ℤ := 0
  numberOfFpsUpdates : ℤ := 0
  fpsCollectionInProgress : Bool := false
  reportFpsTimer : TpTimer := {}
  lastFpsValue : ℤ := 0
deriving DecidableEq, Repr

namespace Implementation

def setCollectionFrequency (frequency : ℤ) (s : Implementation) : HResult × Implementation :=
  if frequency < minimumFpsCollectionTimeInMilliseconds then
    (.errorInvalidParameter, s)
  else
    (.errorNone, { s with fpsCollectionFrequencyInMs := frequency })

def startFpsCollection (s : Implementation) : HResult × Implementation :=
  let stopped := if s.reportFpsTimer.isActive then s.reportFpsTimer.stop else s.reportFpsTimer
  let fpsCollectionFrequency :=
    if s.fpsCollectionFrequencyInMs < minimumFpsCollectionTimeInMilliseconds then
      minimumFpsCollectionTimeInMilliseconds
    else
      s.fpsCollectionFrequencyInMs
  (.errorNone, { s with
    minFpsValue := defaultMinFpsValue
    maxFpsValue := defaultMaxFpsValue
    totalFpsValues := 0
    numberOfFpsUpdates := 0
    fpsCollectionInProgress := true
    lastFpsValue := -1
    reportFpsTimer := stopped.start fpsCollectionFrequency })

/-- The event that `StopFpsCollection` dispatches. -/
def stopFpsEvent (s : Implementation) : Option FpsEvent :=
  if s.fpsCollectionInProgress = true ∧ s.numberOfFpsUpdates > 0 then
    some ⟨s.totalFpsValues.tdiv s.numberOfFpsUpdates, s.minFpsValue, s.maxFpsValue⟩
  else
    none

def stopFpsCollection (s : Implementation) : HResult × Implementation :=
  (.errorNone, { s with
    reportFpsTimer := if s.reportFpsTimer.isActive then s.reportFpsTimer.stop else s.reportFpsTimer
    fpsCollectionInProgress := false })

def updateFps (newFpsValue : ℤ) (s : Implementation) : Option (HResult × Implementation) :=
  if newFpsValue < 0 then
    some (.errorInvalidParameter, s)
  else
    (addInt s.totalFpsValues newFpsValue).bind fun total =>
      (addInt s.numberOfFpsUpdates 1).map fun number =>
        (.errorNone, { s with
          maxFpsValue := max s.maxFpsValue newFpsValue
          minFpsValue := min s.minFpsValue newFpsValue
          totalFpsValues := total
          numberOfFpsUpdates := number
          lastFpsValue := newFpsValue })

/-- The event that `onReportFpsTimer` dispatches. -/
def reportFpsEvent (s : Implementation) : FpsEvent :=
  if s.numberOfFpsUpdates > 0 then
    ⟨s.totalFpsValues.tdiv s.numberOfFpsUpdates, s.minFpsValue, s.maxFpsValue⟩
  else
    ⟨-1, defaultMinFpsValue, defaultMaxFpsValue⟩

def onReportFpsTimer (s : Implementation) : Implementation :=
  if s.lastFpsValue ≥ 0 then
    { s with
      minFpsValue := s.lastFpsValue
      maxFpsValue := s.lastFpsValue
      totalFpsValues := s.lastFpsValue
      numberOfFpsUpdates := 1 }
  else
    { s with
      minFpsValue := defaultMinFpsValue
      maxFpsValue := defaultMaxFpsValue
      totalFpsValues := 0
      numberOfFpsUpdates := 0 }

end Implementation

inductive FrameRateAction where
  | setCollectionFrequency (frequency : ℤ)
  | startFpsCollection
  | stopFpsCollection
  | updateFps (newFpsValue : ℤ)
  /-- The report timer ticks. -/
  | onReportFpsTimer
deriving DecidableEq, Repr

def frameRateStep (s : Implementation) : FrameRateAction → Option Implementation
  | .setCollectionFrequency frequency => some (s.setCollectionFrequency frequency).2
  | .startFpsCollection => some s.startFpsCollection.2
  | .stopFpsCollection => some s.stopFpsCollection.2
  | .updateFps newFpsValue => (s.updateFps newFpsValue).map Prod.snd
  | .onReportFpsTimer => some s.onReportFpsTimer

/-- The event that an action sends. -/
def frameRateEvent (s : Implementation) : FrameRateAction → Option FpsEvent
  | .stopFpsCollection => s.stopFpsEvent
  | .onReportFpsTimer => some s.reportFpsEvent
  | .setCollectionFrequency _ | .startFpsCollection | .updateFps _ => none

end DeviceAndDisplay.FrameRate

/-! ## FrameRate notifications

`Register`, `Unregister` and the dispatch functions of `FrameRateImplementation`. -/

namespace DeviceAndDisplay.FrameRate

/-- A pointer to an `INotification`. -/
abbrev Sink := ℕ

/-- A call of a method of `INotification`. -/
inductive NotificationCall where
  | onFpsEvent (average min max : ℤ)
  | onDisplayFrameRateChanging (displayFrameRate : String)
  | onDisplayFrameRateChanged (displayFrameRate : String)
deriving DecidableEq, Repr

inductive DsmgrEvent where
  | displayFramratePrechange
  | displayFrameratePostchange
deriving DecidableEq, Repr

inductive RegistrationResult where
  | errorNone
  | errorGeneral
  | errorAlreadyConnected
deriving DecidableEq, Repr

/-- The list of sinks, and the reference count of each sink. -/
structure Notifier where
  framerateNotification : List Sink := []
  references : Sink → ℕ

namespace Notifier

/-- A sink that is found in the list is reported, and added all the same. -/
def register (notification : Sink) (n : Notifier) : RegistrationResult × Notifier :=
  let status :=
    if notification ∈ n.framerateNotification then .errorAlreadyConnected else .errorNone
  (status, {
    framerateNotification := n.framerateNotification ++ [notification]
    references := Function.update n.references notification (n.references notification + 1) })

def unregister (notification : Sink) (n : Notifier) : RegistrationResult × Notifier :=
  if notification ∈ n.framerateNotification then
    (.errorNone, {
      framerateNotification := n.framerateNotification.erase notification
      references := Function.update n.references notification (n.references notification - 1) })
  else
    (.errorGeneral, n)

/-- The loop of the dispatch functions. -/
def dispatch (call : NotificationCall) (n : Notifier) : List (Sink × NotificationCall) :=
  n.framerateNotification.map fun index => (index, call)

def dispatchOnFpsEvent (average min max : ℤ) (n : Notifier) : List (Sink × NotificationCall) :=
  n.dispatch (.onFpsEvent average min max)

def dispatchOnDisplayFrameRateChangingEvent (displayFrameRate : String) (n : Notifier) :
    List (Sink × NotificationCall) :=
  n.dispatch (.onDisplayFrameRateChanging displayFrameRate)

def dispatchOnDisplayFrameRateChangedEvent (displayFrameRate : String) (n : Notifier) :
    List (Sink × NotificationCall) :=
  n.dispatch (.onDisplayFrameRateChanged displayFrameRate)

def dispatchDsmgrDisplayFramerateChangeEvent (event : DsmgrEvent) (params : String)
    (n : Notifier) : List (Sink × NotificationCall) :=
  match event with
  | .displayFramratePrechange => n.dispatchOnDisplayFrameRateChangingEvent params
  | .displayFrameratePostchange => n.dispatchOnDisplayFrameRateChangedEvent params

end Notifier

inductive NotifierAction where
  | register (notification : Sink)
  | unregister (notification : Sink)
  /-- `StopFpsCollection` or the report timer has an event. -/
  | fps (event : FpsEvent)
  | displayFramerateChange (event : DsmgrEvent) (params : String)
deriving DecidableEq, Repr

def notifierStep (n : Notifier) : NotifierAction → Option Notifier
  | .register notification => some (n.register notification).2
  | .unregister notification => some (n.unregister notification).2
  | .fps _ | .displayFramerateChange _ _ => some n

/-- The calls that an action makes, in their order. -/
def notifierCalls (n : Notifier) : NotifierAction → List (Sink × NotificationCall)
  | .register _ | .unregister _ => []
  | .fps event => n.dispatchOnFpsEvent event.average event.min event.max
  | .displayFramerateChange event params => n.dispatchDsmgrDisplayFramerateChangeEvent event params

end DeviceAndDisplay.FrameRate
