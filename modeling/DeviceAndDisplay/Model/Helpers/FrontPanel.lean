import DeviceAndDisplay.Model.Helpers.Settings

/-! # CFrontPanel

The blinking of the front panel. The callback of the timer and the calls of the interface are atomic
steps. What an increment of the largest `int` gives is not defined, and is a parameter. -/

namespace DeviceAndDisplay.Helpers

/-- `FrontPanelBlinkInfo` -/
structure FrontPanelBlinkInfo where
  ledIndicator : Text
  colorName : Text := []
  colorValue : UInt32 := 0
  brightness : ℤ
  durationInMs : ℤ
  colorMode : ℕ
deriving DecidableEq, Repr

/-- An entry of `pattern`, with the numbers that `getNumberParameterObject` gives. Only of the first
three of these labels it matters whether they are there. -/
structure BlinkPattern where
  brightness : Option ℤ := none
  color : Option Text := none
  red : Option UInt32 := none
  green : UInt32 := 0
  blue : UInt32 := 0
  duration : ℤ := 0
deriving DecidableEq, Repr

def svc2iarm (name : Text) : Text :=
  if name = ['r', 'e', 'c', 'o', 'r', 'd', '_', 'l', 'e', 'd'] then
    ['R', 'e', 'c', 'o', 'r', 'd']
  else if name = ['d', 'a', 't', 'a', '_', 'l', 'e', 'd'] then
    ['M', 'e', 's', 's', 'a', 'g', 'e']
  else if name = ['p', 'o', 'w', 'e', 'r', '_', 'l', 'e', 'd'] then
    ['P', 'o', 'w', 'e', 'r']
  else name

/-- The body of the loop of `setBlink`. -/
def BlinkPattern.blinkInfo (ledIndicator : Text) (pattern : BlinkPattern) :
    FrontPanelBlinkInfo :=
  let info : FrontPanelBlinkInfo := {
    ledIndicator := ledIndicator
    brightness := pattern.brightness.getD (-1)
    durationInMs := pattern.duration
    colorMode := 0 }
  match pattern.color, pattern.red with
  | some color, _ => { info with colorName := color, colorMode := 2 }
  | none, some red =>
      { info with
        colorValue := (red <<< 16) ||| (pattern.green <<< 8) ||| pattern.blue
        colorMode := 1 }
  | none, none => info

inductive BlinkEvent where
  /-- `setBlinkLed` -/
  | setBlinkLed (blinkInfo : FrontPanelBlinkInfo)
  /-- `blinkTimer.Schedule`, for a time after now. -/
  | schedule (durationInMs : ℤ)
deriving DecidableEq, Repr

structure CFrontPanel where
  blinkList : List FrontPanelBlinkInfo := []
  isBlinking : Bool := false
  numberOfBlinks : ℤ := 0
  maxNumberOfBlinkRepeats : ℤ := 0
  currentBlinkListIndex : ℕ := 0
  started : Bool := false
  /-- The entries of the timer, which are all equal. -/
  pending : ℕ := 0
  /-- The oldest first. -/
  events : List BlinkEvent := []
  /-- `m_blinkList.at` threw. -/
  outOfRange : Bool := false
deriving DecidableEq, Repr

/-- The calls that call `stopBlinkTimer` before anything else, and do nothing else to the
blinking. -/
inductive StoppingCall where
  | stopBlinkTimer
  | stop
  | setBrightness
  | setClockBrightness
  | powerOnLed
  | powerOffLed
  | powerOnAllLed
  | powerOffAllLed
  | setLED
deriving DecidableEq, Repr

inductive FrontPanelCall where
  /-- `BlinkInfo::Timed`, for an entry of the timer. -/
  | timed
  | start
  | setBlink (ledIndicator : Text) (iterations : ℤ) (pattern : List BlinkPattern)
  | stops (call : StoppingCall)
  /-- A call that neither reads nor changes the blinking. -/
  | other
deriving DecidableEq, Repr

/-- `m_numberOfBlinks++` -/
def increment (overflow number : ℤ) : ℤ := if number = 2147483647 then overflow else number + 1

namespace CFrontPanel

def stopBlinkTimer (panel : CFrontPanel) : CFrontPanel :=
  { panel with isBlinking := false, pending := 0 }

def setBlinkLed (blinkInfo : FrontPanelBlinkInfo) (panel : CFrontPanel) : CFrontPanel :=
  { panel with events := panel.events ++ [BlinkEvent.setBlinkLed blinkInfo] }

/-- `blinkTimer.Schedule` -/
def schedule (durationInMs : ℤ) (panel : CFrontPanel) : CFrontPanel :=
  { panel with
    pending := panel.pending + 1
    events := panel.events ++ [BlinkEvent.schedule durationInMs] }

/-- The entry of the list is set, and the timer is scheduled for its end. -/
def blink (panel : CFrontPanel) : CFrontPanel :=
  match panel.blinkList[panel.currentBlinkListIndex]? with
  | none => { panel with outOfRange := true }
  | some blinkInfo =>
      let panel := panel.setBlinkLed blinkInfo
      if panel.isBlinking then panel.schedule blinkInfo.durationInMs else panel

def startBlinkTimer (numberOfBlinkRepeats : ℤ) (panel : CFrontPanel) : CFrontPanel :=
  let panel := { panel.stopBlinkTimer with
    numberOfBlinks := 0
    isBlinking := true
    maxNumberOfBlinkRepeats := numberOfBlinkRepeats
    currentBlinkListIndex := 0 }
  if 0 < panel.blinkList.length then panel.blink else panel

def setBlink (ledIndicator : Text) (iterations : ℤ) (pattern : List BlinkPattern)
    (panel : CFrontPanel) : CFrontPanel :=
  let blinkList := pattern.map (BlinkPattern.blinkInfo (svc2iarm ledIndicator))
  { panel.stopBlinkTimer with blinkList := blinkList }.startBlinkTimer iterations

def onBlinkTimer (overflow : ℤ) (panel : CFrontPanel) : CFrontPanel :=
  let panel := { panel with currentBlinkListIndex := panel.currentBlinkListIndex + 1 }
  if panel.blinkList.length ≤ panel.currentBlinkListIndex then
    let panel := { panel with
      currentBlinkListIndex := 0
      numberOfBlinks := increment overflow panel.numberOfBlinks }
    if panel.maxNumberOfBlinkRepeats < 0 ∨
        panel.numberOfBlinks ≤ panel.maxNumberOfBlinkRepeats then panel.blink
    else panel
  else panel.blink

/-- `start`, as far as the blinking is concerned. -/
def start (panel : CFrontPanel) : CFrontPanel :=
  if panel.started then panel
  else
    { panel with
      numberOfBlinks := 0
      maxNumberOfBlinkRepeats := 0
      currentBlinkListIndex := 0
      started := true }

/-- The timer takes out the entry that it calls back for. -/
def takeEntry (panel : CFrontPanel) : CFrontPanel := { panel with pending := panel.pending - 1 }

/-- A step; the timer calls back only for an entry that it has. -/
def step (overflow : ℤ) (panel : CFrontPanel) : FrontPanelCall → Option CFrontPanel
  | .timed =>
      if panel.pending = 0 then none
      else some (panel.takeEntry.onBlinkTimer overflow)
  | .start => some panel.start
  | .setBlink ledIndicator iterations pattern =>
      some (panel.setBlink ledIndicator iterations pattern)
  | .stops _ => some panel.stopBlinkTimer
  | .other => some panel

end CFrontPanel

end DeviceAndDisplay.Helpers
