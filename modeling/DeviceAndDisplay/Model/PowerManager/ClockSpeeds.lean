import DeviceAndDisplay.Model.PowerManager.Declocking
import DeviceAndDisplay.Storage.Numeral
import Mathlib.Data.List.Sort

/-! # Clock speeds

`DetemineClockSpeeds` of `ThermalImpl`, and the part of `initializeThermalProtection` that calls
it. -/

namespace DeviceAndDisplay.PowerManager

open Storage

def uint32Compare (l r : UInt32) : ℤ := if l = r then 0 else if l < r then -1 else 1

/-- The loop that fills `freqList`, which has room for a number of frequencies. -/
def readFrequencies : ℕ → List Char → List UInt32
  | 0, _ => []
  | room + 1, text =>
      match scanUnsigned text with
      | none => []
      | some (frequency, rest) => frequency :: readFrequencies room rest

/-- The members of `freqList` that were read, after `qsort`. -/
def sortedFrequencies (text : List Char) : List UInt32 :=
  (readFrequencies 32 text).insertionSort fun l r => uint32Compare l r ≤ 0

/-- `DetemineClockSpeeds`, with the content of `scaling_available_frequencies` if it can be opened.
Only speeds that are zero are chosen. -/
def detemineClockSpeeds (file : Option (List Char)) (cpuRate : CpuSpeeds) :
    ErrorCode × CpuSpeeds :=
  match file with
  | none => (.errorGeneral, cpuRate)
  | some text =>
      let freqList := sortedFrequencies text
      let numFreqs := freqList.length
      if numFreqs = 0 then
        (.errorGeneral, cpuRate)
      else
        let minimal := freqList.getD 0 0
        let scaled := freqList.getD (numFreqs / 2) 0
        let normal := freqList.getD (numFreqs - 1) 0
        (.errorNone, {
          normal := if cpuRate.normal = 0 then normal else cpuRate.normal
          scaled := if cpuRate.scaled = 0 then scaled else cpuRate.scaled
          minimal := if cpuRate.minimal = 0 then minimal else cpuRate.minimal })

/-- What `initializeThermalProtection` makes of the thresholds and of the speeds that RFC gave; the
result of `DetemineClockSpeeds` is not looked at. -/
def Declocking.initializeThermalProtection (threshold : Thresholds) (cpuRate : CpuSpeeds)
    (file : Option (List Char)) (clock : CpuClock) : Declocking :=
  if 0 < threshold.graceInterval then
    .create threshold (detemineClockSpeeds file cpuRate).2 clock
  else
    { threshold := threshold, speeds := cpuRate, curCpuSpeed := 0, clock := clock }

end DeviceAndDisplay.PowerManager
