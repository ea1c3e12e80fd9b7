import DeviceAndDisplay.Model.PowerManager.Declocking
import DeviceAndDisplay.Verification.PowerManager.OverTemperature

/-! # Declocking: hysteresis, and refused requests

`cur_Cpu_Speed` follows the requests and not their results. As long as the platform grants every
request, the monitor time separates the polls that raise the speed from the hot ones, in seconds
of the clock. -/

namespace DeviceAndDisplay.PowerManager

open Transition

namespace Declocking

variable {poll : DeclockPoll} {c : Declocking}

/-! ### What one poll does -/

/-- The speed that a poll is to switch to. -/
def dueSpeed (poll : DeclockPoll) (c : Declocking) : Option UInt32 :=
  if c.threshold.graceInterval = 0 then
    none
  else if c.threshold.critical ≤ poll.value then
    if c.curCpuSpeed = c.speeds.minimal then none else some c.speeds.minimal
  else if c.threshold.concern ≤ poll.value then
    if c.curCpuSpeed = c.speeds.normal then some c.speeds.scaled else none
  else if c.threshold.safe < poll.value then
    if c.curCpuSpeed = c.speeds.minimal ∧ c.graceOver poll.now then some c.speeds.scaled else none
  else if c.curCpuSpeed ≠ c.speeds.normal ∧ c.graceOver poll.now then
    some c.speeds.normal
  else
    none

theorem declockIfNeeded_disabled (h : c.threshold.graceInterval = 0) :
    c.declockIfNeeded poll = c :=
  if_pos h

/-- The monitor time that a poll leaves: a hot poll sets it, and so does a switch to another speed
than the normal one. -/
structure Monitors (poll : DeclockPoll) (c : Declocking) (monitorTime : Time) : Prop where
  kept : monitorTime = c.monitorTime ∨ monitorTime = poll.now
  hot : c.threshold.graceInterval ≠ 0 → c.threshold.concern ≤ poll.value → monitorTime = poll.now
  switched : ∀ speed ∈ c.dueSpeed poll, speed ≠ c.speeds.normal → monitorTime = poll.now

theorem Monitors.now : Monitors poll c poll.now :=
  ⟨.inr rfl, fun _ _ => rfl, fun _ _ _ => rfl⟩

theorem Monitors.old (hhot : c.threshold.graceInterval = 0 ∨ ¬ c.threshold.concern ≤ poll.value)
    (hdue : ∀ speed ∈ c.dueSpeed poll, speed = c.speeds.normal) :
    Monitors poll c c.monitorTime :=
  ⟨.inl rfl, fun hgrace hconcern => absurd hconcern (hhot.resolve_left hgrace),
    fun speed hspeed hne => absurd (hdue speed hspeed) hne⟩

theorem dueSpeed_critical (hgrace : c.threshold.graceInterval ≠ 0)
    (hvalue : c.threshold.critical ≤ poll.value) :
    c.dueSpeed poll = if c.curCpuSpeed = c.speeds.minimal then none else some c.speeds.minimal := by
  rw [dueSpeed, if_neg hgrace, if_pos hvalue]

theorem dueSpeed_concern (hgrace : c.threshold.graceInterval ≠ 0)
    (hcritical : ¬ c.threshold.critical ≤ poll.value)
    (hconcern : c.threshold.concern ≤ poll.value) :
    c.dueSpeed poll = if c.curCpuSpeed = c.speeds.normal then some c.speeds.scaled else none := by
  rw [dueSpeed, if_neg hgrace, if_neg hcritical, if_pos hconcern]

theorem dueSpeed_cool (hgrace : c.threshold.graceInterval ≠ 0)
    (hcritical : ¬ c.threshold.critical ≤ poll.value)
    (hconcern : ¬ c.threshold.concern ≤ poll.value) :
    c.dueSpeed poll = if c.threshold.safe < poll.value then
      if c.curCpuSpeed = c.speeds.minimal ∧ c.graceOver poll.now then some c.speeds.scaled
      else none
    else if c.curCpuSpeed ≠ c.speeds.normal ∧ c.graceOver poll.now then some c.speeds.normal
    else none := by
  rw [dueSpeed, if_neg hgrace, if_neg hcritical, if_neg hconcern]

/-- Below the concern level, a poll may raise the speed. -/
theorem declockIfNeeded_cool (hgrace : c.threshold.graceInterval ≠ 0)
    (hcritical : ¬ c.threshold.critical ≤ poll.value)
    (hconcern : ¬ c.threshold.concern ≤ poll.value) :
    ∃ monitorTime, Monitors poll c monitorTime ∧
      c.declockIfNeeded poll = { (c.dueSpeed poll).elim c (c.switchTo poll.result) with
        monitorTime := monitorTime } := by
  have hdue := dueSpeed_cool hgrace hcritical hconcern
  rw [declockIfNeeded, if_neg hgrace, if_neg hcritical, if_neg hconcern]
  by_cases hsafe : c.threshold.safe < poll.value
  · rw [if_pos hsafe] at hdue ⊢
    by_cases hspeed : c.curCpuSpeed = c.speeds.minimal
    · rw [if_pos hspeed]
      by_cases hover : c.graceOver poll.now
      · rw [if_pos ⟨hspeed, hover⟩] at hdue
        rw [if_pos hover, hdue]
        exact ⟨_, .now, rfl⟩
      · rw [if_neg fun h => hover h.2] at hdue
        rw [if_neg hover]
        exact ⟨_, .old (.inr hconcern) (by simp [hdue]), by rw [hdue]; rfl⟩
    · rw [if_neg fun h => hspeed h.1] at hdue
      rw [if_neg hspeed, hdue]
      exact ⟨_, .now, rfl⟩
  · rw [if_neg hsafe] at hdue ⊢
    by_cases hspeed : c.curCpuSpeed = c.speeds.normal
    · rw [if_neg fun h => h.1 hspeed] at hdue
      rw [if_neg (not_not.mpr hspeed)]
      exact ⟨_, .old (.inr hconcern) (by simp [hdue]), by rw [hdue]; rfl⟩
    · rw [if_pos hspeed]
      by_cases hover : c.graceOver poll.now
      · rw [if_pos ⟨hspeed, hover⟩] at hdue
        rw [if_pos hover]
        exact ⟨_, .old (.inr hconcern) (by simp [hdue]), by rw [hdue]; rfl⟩
      · rw [if_neg fun h => hover h.2] at hdue
        rw [if_neg hover]
        exact ⟨_, .old (.inr hconcern) (by simp [hdue]), by rw [hdue]; rfl⟩

/-- A poll requests the due speed, if there is one, and at most sets the monitor time. -/
theorem declockIfNeeded_eq (poll : DeclockPoll) (c : Declocking) :
    ∃ monitorTime, Monitors poll c monitorTime ∧
      c.declockIfNeeded poll = { (c.dueSpeed poll).elim c (c.switchTo poll.result) with
        monitorTime := monitorTime } := by
  by_cases hgrace : c.threshold.graceInterval = 0
  · have hdue : c.dueSpeed poll = none := if_pos hgrace
    refine ⟨_, .old (.inl hgrace) (by simp [hdue]), ?_⟩
    rw [declockIfNeeded_disabled hgrace, hdue]
    rfl
  · by_cases hcritical : c.threshold.critical ≤ poll.value
    · refine ⟨_, .now, ?_⟩
      rw [declockIfNeeded, dueSpeed, if_neg hgrace, if_neg hgrace, if_pos hcritical,
        if_pos hcritical]
      by_cases hspeed : c.curCpuSpeed = c.speeds.minimal
      · rw [if_neg (not_not.mpr hspeed), if_pos hspeed]
        rfl
      · rw [if_pos hspeed, if_neg hspeed]
        rfl
    · by_cases hconcern : c.threshold.concern ≤ poll.value
      · refine ⟨_, .now, ?_⟩
        rw [declockIfNeeded, dueSpeed, if_neg hgrace, if_neg hgrace, if_neg hcritical,
          if_neg hcritical, if_pos hconcern, if_pos hconcern]
        by_cases hspeed : c.curCpuSpeed = c.speeds.normal
        · rw [if_pos hspeed, if_pos hspeed]
          rfl
        · rw [if_neg hspeed, if_neg hspeed]
          rfl
      · exact declockIfNeeded_cool hgrace hcritical hconcern

@[simp] theorem declockIfNeeded_threshold (poll : DeclockPoll) (c : Declocking) :
    (c.declockIfNeeded poll).threshold = c.threshold := by
  obtain ⟨_, _, he⟩ := declockIfNeeded_eq poll c
  rw [he]
  cases c.dueSpeed poll <;> rfl

@[simp] theorem declockIfNeeded_speeds (poll : DeclockPoll) (c : Declocking) :
    (c.declockIfNeeded poll).speeds = c.speeds := by
  obtain ⟨_, _, he⟩ := declockIfNeeded_eq poll c
  rw [he]
  cases c.dueSpeed poll <;> rfl

theorem declockIfNeeded_curCpuSpeed (poll : DeclockPoll) (c : Declocking) :
    (c.declockIfNeeded poll).curCpuSpeed = (c.dueSpeed poll).getD c.curCpuSpeed := by
  obtain ⟨_, _, he⟩ := declockIfNeeded_eq poll c
  rw [he]
  cases c.dueSpeed poll <;> rfl

theorem declockIfNeeded_clock (poll : DeclockPoll) (c : Declocking) :
    (c.declockIfNeeded poll).clock =
      (c.dueSpeed poll).elim c.clock (c.clock.setClockSpeed poll.result) := by
  obtain ⟨_, _, he⟩ := declockIfNeeded_eq poll c
  rw [he]
  cases c.dueSpeed poll <;> rfl

theorem declockIfNeeded_monitors (poll : DeclockPoll) (c : Declocking) :
    Monitors poll c (c.declockIfNeeded poll).monitorTime := by
  obtain ⟨_, h, he⟩ := declockIfNeeded_eq poll c
  rw [he]
  exact h

/-! ### Refused requests -/

/-- After the poll the recorded speed is that of the hardware, and at the critical level the
hardware runs at the minimal speed already or is asked to. -/
def Retries (c : Declocking) (poll : DeclockPoll) : Prop :=
  let d := c.declockIfNeeded poll
  d.curCpuSpeed = d.clock.speed ∧
    (c.threshold.critical ≤ poll.value → c.clock.speed = c.speeds.minimal ∨
      d.clock.calls = ⟨c.speeds.minimal, poll.result⟩ :: c.clock.calls)

/-- The platform grants the due speed, unless it is the recorded one, and a critical temperature
is not met with declocking disabled and another speed than the minimal one. -/
def Granted (c : Declocking) (poll : DeclockPoll) : Prop :=
  (∀ speed ∈ c.dueSpeed poll, poll.result = .errorNone ∨ speed = c.curCpuSpeed) ∧
    (c.threshold.graceInterval = 0 → c.threshold.critical ≤ poll.value →
      c.curCpuSpeed = c.speeds.minimal)

instance (c : Declocking) (poll : DeclockPoll) : Decidable (Retries c poll) :=
  inferInstanceAs (Decidable (_ ∧ _))

instance (c : Declocking) (poll : DeclockPoll) : Decidable (Granted c poll) :=
  have : Decidable (∀ speed ∈ c.dueSpeed poll,
      poll.result = .errorNone ∨ speed = c.curCpuSpeed) := Option.decidableForallMem _
  inferInstanceAs (Decidable (_ ∧ _))

/-- A request is recorded correctly if it is granted or asks for the recorded speed. -/
theorem recorded_iff (hc : c.curCpuSpeed = c.clock.speed) :
    (c.declockIfNeeded poll).curCpuSpeed = (c.declockIfNeeded poll).clock.speed ↔
      ∀ speed ∈ c.dueSpeed poll, poll.result = .errorNone ∨ speed = c.curCpuSpeed := by
  rw [declockIfNeeded_curCpuSpeed, declockIfNeeded_clock]
  cases hdue : c.dueSpeed poll with
  | none => simpa using hc
  | some speed =>
      by_cases hresult : poll.result = .errorNone
      · simp [CpuClock.setClockSpeed, hresult]
      · simp [CpuClock.setClockSpeed, hresult, hc]

/-- At the critical level the minimal speed is requested unless it is recorded. -/
theorem attempted_iff (hc : c.curCpuSpeed = c.clock.speed)
    (hvalue : c.threshold.critical ≤ poll.value) :
    (c.clock.speed = c.speeds.minimal ∨ (c.declockIfNeeded poll).clock.calls =
      ⟨c.speeds.minimal, poll.result⟩ :: c.clock.calls) ↔
      (c.threshold.graceInterval = 0 → c.curCpuSpeed = c.speeds.minimal) := by
  rw [← hc]
  by_cases hgrace : c.threshold.graceInterval = 0
  · rw [declockIfNeeded_disabled hgrace]
    simp [hgrace]
  · simp only [hgrace, false_implies, iff_true]
    rw [declockIfNeeded_clock, dueSpeed_critical hgrace hvalue]
    by_cases hspeed : c.curCpuSpeed = c.speeds.minimal
    · exact .inl hspeed
    · rw [if_neg hspeed]
      exact .inr rfl

theorem retries_iff (hc : c.curCpuSpeed = c.clock.speed) : c.Retries poll ↔ c.Granted poll := by
  refine and_congr (recorded_iff hc) ?_
  constructor
  · intro h hgrace hvalue
    exact (attempted_iff hc hvalue).mp (h hvalue) hgrace
  · intro h hvalue
    exact (attempted_iff hc hvalue).mpr fun hgrace => h hgrace hvalue

/-- In every sequence of polls, the recorded speed is that of the hardware and a critical
temperature is answered exactly as long as the platform grants what the polls request. -/
theorem refused_change_retried_iff {c₀ : Declocking} (h₀ : c₀.curCpuSpeed = c₀.clock.speed)
    (polls : List DeclockPoll) :
    Along declockStep Retries c₀ polls ↔ Along declockStep Granted c₀ polls := by
  refine along_iff_along (I := fun c => c.curCpuSpeed = c.clock.speed) ?_
    (fun c poll hc => retries_iff hc) h₀ polls
  rintro c poll _ hc hgranted ⟨⟩
  exact (recorded_iff hc).mpr hgranted.1

/-- The thresholds of `ThermalController` where temperatures are not read from the manufacturer's
library, with three speeds in MHz; the hardware starts at the normal one. -/
def defaults : Declocking :=
  .create { critical := 110, concern := 100, safe := 90, graceInterval := 60 }
    { normal := 1500, scaled := 1000, minimal := 500 } { speed := 1500 }

/-- The platform refuses one request, of a poll at which nothing is requested. -/
theorem refused_change_retried_granted :
    Along declockStep Retries defaults [⟨0, 105, .errorNone⟩,
      ⟨30 * ticksPerSecond, 105, .errorGeneral⟩, ⟨60 * ticksPerSecond, 112, .errorNone⟩] :=
  (refused_change_retried_iff rfl _).mpr (by decide)

/-- The first request for the minimal speed is refused. At the next poll the hardware still runs at
the normal speed, and nothing is requested. -/
theorem refused_change_forgotten :
    let refused : DeclockPoll := ⟨0, 112, .errorGeneral⟩
    let next : DeclockPoll := ⟨30 * ticksPerSecond, 112, .errorNone⟩
    ∃ c, run declockStep defaults [refused] = some c ∧ c.curCpuSpeed = c.speeds.minimal ∧
      c.clock.speed = c.speeds.normal ∧ (c.declockIfNeeded next).clock = c.clock ∧
      ¬ Along declockStep Retries defaults [refused, next] := by
  refine ⟨_, rfl, ?_, ?_, ?_, ?_⟩ <;> decide

end Declocking

/-! ### Hysteresis -/

/-- One of the three speeds is above the other. -/
def CpuSpeeds.Raises (speeds : CpuSpeeds) (old new : UInt32) : Prop :=
  old = speeds.minimal ∧ (new = speeds.scaled ∨ new = speeds.normal) ∨
    old = speeds.scaled ∧ new = speeds.normal

instance (speeds : CpuSpeeds) (old new : UInt32) : Decidable (speeds.Raises old new) :=
  inferInstanceAs (Decidable (_ ∨ _))

/-- The three speeds are pairwise distinct. -/
structure CpuSpeeds.Distinct (speeds : CpuSpeeds) : Prop where
  scaled : speeds.scaled ≠ speeds.normal
  minimal : speeds.minimal ≠ speeds.normal
  lower : speeds.minimal ≠ speeds.scaled

/-- The controller with the times of the latest poll, of the latest poll at the concern level or
above it, and of the latest change of the speed. -/
structure WatchedClock where
  declocking : Declocking
  lastPoll : Time := 0
  lastHot : Option Time := none
  lastChange : Option Time := none

/-- A poll that is not earlier than the one before. -/
def watchStep (w : WatchedClock) (poll : DeclockPoll) : Option WatchedClock :=
  if poll.now < w.lastPoll then
    none
  else
    let d := w.declocking.declockIfNeeded poll
    some {
      declocking := d
      lastPoll := poll.now
      lastHot := if w.declocking.threshold.concern ≤ poll.value then some poll.now else w.lastHot
      lastChange :=
        if d.clock.speed ≠ w.declocking.clock.speed then some poll.now else w.lastChange }

namespace WatchedClock

variable {w w' : WatchedClock} {poll : DeclockPoll}

/-- The times of the latest poll at the concern level or above it and of the latest change. -/
def recent (w : WatchedClock) : List Time :=
  w.lastHot.toList ++ w.lastChange.toList

theorem mem_recent {t : Time} : t ∈ w.recent ↔ w.lastHot = some t ∨ w.lastChange = some t := by
  simp [recent]

/-- A hot poll leaves a low speed, and a poll raises the speed only below the concern level and
when the grace interval has passed since the latest hot poll and the latest change. -/
structure Hysteresis (w : WatchedClock) (poll : DeclockPoll) : Prop where
  critical : w.declocking.threshold.critical ≤ poll.value →
    (w.declocking.declockIfNeeded poll).clock.speed = w.declocking.speeds.minimal
  concern : w.declocking.threshold.concern ≤ poll.value →
    (w.declocking.declockIfNeeded poll).clock.speed ≠ w.declocking.speeds.normal
  raises : w.declocking.speeds.Raises w.declocking.clock.speed
      (w.declocking.declockIfNeeded poll).clock.speed →
    poll.value < w.declocking.threshold.concern ∧ ∀ t ∈ w.recent,
      (t : ℤ) + w.declocking.threshold.graceInterval * ticksPerSecond ≤ poll.now

/-- If a cool poll finds the grace interval over in the very second in which it ends, it is not
earlier within its second than the latest hot poll and the latest change were. -/
def SeesFullSeconds (w : WatchedClock) (poll : DeclockPoll) : Prop :=
  poll.value < w.declocking.threshold.concern → w.declocking.graceOver poll.now →
    w.declocking.clock.speed = w.declocking.speeds.minimal ∨
      w.declocking.clock.speed = w.declocking.speeds.scaled ∧
        poll.value ≤ w.declocking.threshold.safe →
    ∀ t ∈ w.recent,
      (tvSec poll.now : ℤ) = tvSec t + w.declocking.threshold.graceInterval →
      t % ticksPerSecond ≤ poll.now % ticksPerSecond

instance (w : WatchedClock) (poll : DeclockPoll) : Decidable (Hysteresis w poll) :=
  decidable_of_iff ((_ → _) ∧ (_ → _) ∧ (_ → _))
    ⟨fun h => ⟨h.1, h.2.1, h.2.2⟩, fun h => ⟨h.critical, h.concern, h.raises⟩⟩

instance (w : WatchedClock) (poll : DeclockPoll) : Decidable (SeesFullSeconds w poll) :=
  inferInstanceAs (Decidable (_ → _))

/-- What holds between polls whose requests are granted. -/
structure Monitored (w : WatchedClock) : Prop where
  enabled : w.declocking.threshold.graceInterval ≠ 0
  concern : w.declocking.threshold.concern < w.declocking.threshold.critical
  distinct : w.declocking.speeds.Distinct
  recorded : w.declocking.curCpuSpeed = w.declocking.clock.speed
  known : w.declocking.curCpuSpeed = w.declocking.speeds.normal ∨
    w.declocking.curCpuSpeed = w.declocking.speeds.scaled ∨
    w.declocking.curCpuSpeed = w.declocking.speeds.minimal
  past : ∀ t ∈ w.recent, t ≤ w.lastPoll
  /-- The monitor time is not earlier than the latest hot poll. -/
  hot : ∀ t, w.lastHot = some t → t ≤ w.declocking.monitorTime
  /-- At a low speed, the monitor time is not earlier than the latest change. -/
  change : w.declocking.curCpuSpeed ≠ w.declocking.speeds.normal →
    ∀ t, w.lastChange = some t → t ≤ w.declocking.monitorTime

theorem not_raises_self (h : w.declocking.speeds.Distinct) (speed : UInt32) :
    ¬ w.declocking.speeds.Raises speed speed := by
  rintro (⟨rfl, hs | hs⟩ | ⟨rfl, hs⟩)
  · exact h.lower hs
  · exact h.minimal hs
  · exact h.scaled hs

/-- A hot poll never raises the speed, and leaves a low one. -/
theorem Monitored.hot_poll (hw : w.Monitored)
    (hvalue : w.declocking.threshold.concern ≤ poll.value) :
    ¬ w.declocking.speeds.Raises w.declocking.curCpuSpeed
        (w.declocking.declockIfNeeded poll).curCpuSpeed ∧
      (w.declocking.declockIfNeeded poll).curCpuSpeed ≠ w.declocking.speeds.normal ∧
      (w.declocking.threshold.critical ≤ poll.value →
        (w.declocking.declockIfNeeded poll).curCpuSpeed = w.declocking.speeds.minimal) := by
  obtain ⟨hscaled, hminimal, hlower⟩ := hw.distinct
  rw [Declocking.declockIfNeeded_curCpuSpeed]
  by_cases hcritical : w.declocking.threshold.critical ≤ poll.value
  · rw [Declocking.dueSpeed_critical hw.enabled hcritical]
    by_cases hspeed : w.declocking.curCpuSpeed = w.declocking.speeds.minimal
    · rw [if_pos hspeed]
      exact ⟨not_raises_self hw.distinct _, hspeed ▸ hminimal, fun _ => hspeed⟩
    · rw [if_neg hspeed]
      refine ⟨?_, hminimal, fun _ => rfl⟩
      rintro (⟨h, _⟩ | ⟨_, h⟩)
      · exact hspeed h
      · exact hminimal h
  · rw [Declocking.dueSpeed_concern hw.enabled hcritical hvalue]
    by_cases hspeed : w.declocking.curCpuSpeed = w.declocking.speeds.normal
    · rw [if_pos hspeed, hspeed]
      refine ⟨?_, hscaled, fun h => absurd h hcritical⟩
      rintro (⟨h, _⟩ | ⟨h, _⟩)
      · exact hminimal h.symm
      · exact hscaled h.symm
    · rw [if_neg hspeed]
      exact ⟨not_raises_self hw.distinct _, hspeed, fun h => absurd h hcritical⟩

/-- A cool poll raises the speed when the grace interval is over and the speed is low for the
temperature. -/
theorem Monitored.raises_iff (hw : w.Monitored)
    (hvalue : poll.value < w.declocking.threshold.concern) :
    w.declocking.speeds.Raises w.declocking.curCpuSpeed
        (w.declocking.declockIfNeeded poll).curCpuSpeed ↔
      w.declocking.graceOver poll.now ∧
        (w.declocking.curCpuSpeed = w.declocking.speeds.minimal ∨
          w.declocking.curCpuSpeed = w.declocking.speeds.scaled ∧
            poll.value ≤ w.declocking.threshold.safe) := by
  obtain ⟨hscaled, hminimal, hlower⟩ := hw.distinct
  have hconcern := hw.concern
  rw [Declocking.declockIfNeeded_curCpuSpeed,
    Declocking.dueSpeed_cool hw.enabled (by omega) (by omega)]
  by_cases hover : w.declocking.graceOver poll.now
  · simp only [hover, and_true, true_and]
    rcases hw.known with hspeed | hspeed | hspeed <;> rw [hspeed] <;> split
    · simp [CpuSpeeds.Raises, hminimal.symm, hscaled.symm]
    · simp [CpuSpeeds.Raises, hminimal.symm, hscaled.symm]
    · simp [CpuSpeeds.Raises, hlower.symm, hscaled]
      omega
    · simp [CpuSpeeds.Raises, hlower.symm]
      omega
    · simp [CpuSpeeds.Raises]
    · simp [CpuSpeeds.Raises]
  · simpa [hover] using not_raises_self hw.distinct w.declocking.curCpuSpeed

theorem Monitored.recorded_after (hw : w.Monitored) (hresult : poll.result = .errorNone) :
    (w.declocking.declockIfNeeded poll).curCpuSpeed =
      (w.declocking.declockIfNeeded poll).clock.speed :=
  (Declocking.recorded_iff hw.recorded).mpr fun _ _ => .inl hresult

/-- At a low speed the monitor time is not earlier than what the hysteresis counts from. -/
theorem Monitored.le_monitorTime (hw : w.Monitored)
    (hspeed : w.declocking.curCpuSpeed ≠ w.declocking.speeds.normal) {t : Time}
    (ht : t ∈ w.recent) : t ≤ w.declocking.monitorTime :=
  (mem_recent.mp ht).elim (hw.hot t) (hw.change hspeed t)

/-- If the interval has passed in the second in which it ends, the end of the interval is not later
within its second. -/
theorem fraction_le_of_elapsed {now start : ℕ} {graceInterval : ℤ}
    (hsecond : (tvSec now : ℤ) = tvSec start + graceInterval)
    (h : (start : ℤ) + graceInterval * ticksPerSecond ≤ now) :
    start % ticksPerSecond ≤ now % ticksPerSecond := by
  have hticks : ticksPerSecond = 1000000 := rfl
  simp only [tvSec, hticks] at hsecond h ⊢
  omega

theorem Monitored.hysteresis_iff (hw : w.Monitored) (hresult : poll.result = .errorNone) :
    w.Hysteresis poll ↔ w.SeesFullSeconds poll := by
  have hafter := hw.recorded_after hresult
  constructor
  · intro h hvalue hover hspeed t ht heq
    rw [← hw.recorded] at hspeed
    have hraises := (hw.raises_iff hvalue).mpr ⟨hover, hspeed⟩
    rw [hafter, hw.recorded] at hraises
    exact fraction_le_of_elapsed heq ((h.raises hraises).2 t ht)
  · intro h
    refine ⟨fun hvalue => ?_, fun hvalue => ?_, fun hraises => ?_⟩
    · have hconcern := hw.concern
      exact hafter.symm.trans ((hw.hot_poll (by omega)).2.2 hvalue)
    · rw [← hafter]
      exact (hw.hot_poll hvalue).2.1
    · rw [← hafter, ← hw.recorded] at hraises
      by_cases hvalue : w.declocking.threshold.concern ≤ poll.value
      · exact absurd hraises (hw.hot_poll hvalue).1
      · have hcool := Int.not_le.mp hvalue
        obtain ⟨hover, hspeed⟩ := (hw.raises_iff hcool).mp hraises
        refine ⟨hcool, fun t ht => ThermalController.elapsed_of_seconds ?_ ?_⟩
        · have hle : t ≤ w.declocking.monitorTime := by
            refine hw.le_monitorTime ?_ ht
            rcases hspeed with hspeed | ⟨hspeed, _⟩ <;> rw [hspeed]
            · exact hw.distinct.minimal
            · exact hw.distinct.scaled
          have hsec : tvSec t ≤ tvSec w.declocking.monitorTime := Nat.div_le_div_right hle
          unfold Declocking.graceOver at hover
          omega
        · rw [hw.recorded] at hspeed
          exact h hcool hover hspeed t ht

/-- What a granted poll leaves: a known speed, and the monitor time of a poll that lowers it. -/
theorem Monitored.known_after (hw : w.Monitored) :
    (w.declocking.declockIfNeeded poll).curCpuSpeed = w.declocking.speeds.normal ∨
      (w.declocking.declockIfNeeded poll).curCpuSpeed = w.declocking.speeds.scaled ∨
      (w.declocking.declockIfNeeded poll).curCpuSpeed = w.declocking.speeds.minimal := by
  rw [Declocking.declockIfNeeded_curCpuSpeed]
  have hknown := hw.known
  unfold Declocking.dueSpeed
  split_ifs <;> simp [hknown]

/-- A watched poll, with the times it leaves. -/
theorem watchStep_eq_some (h : watchStep w poll = some w') :
    w.lastPoll ≤ poll.now ∧ w'.declocking = w.declocking.declockIfNeeded poll ∧
      w'.lastPoll = poll.now ∧
      (w'.lastHot = if w.declocking.threshold.concern ≤ poll.value then some poll.now
        else w.lastHot) ∧
      w'.lastChange =
        if w'.declocking.clock.speed ≠ w.declocking.clock.speed then some poll.now
        else w.lastChange := by
  unfold watchStep at h
  split at h
  · cases h
  · rename_i hle
    cases h
    exact ⟨Nat.le_of_not_lt hle, rfl, rfl, rfl, rfl⟩

theorem Monitored.step (hw : w.Monitored) (hresult : poll.result = .errorNone)
    (h : watchStep w poll = some w') : w'.Monitored := by
  obtain ⟨hnow, hd, hlast, hhot, hchange⟩ := watchStep_eq_some h
  have hmonitors := Declocking.declockIfNeeded_monitors poll w.declocking
  have hafter := hw.recorded_after hresult
  rw [← hd] at hmonitors hafter
  have hthreshold : w'.declocking.threshold = w.declocking.threshold := by
    rw [hd, Declocking.declockIfNeeded_threshold]
  have hspeeds : w'.declocking.speeds = w.declocking.speeds := by
    rw [hd, Declocking.declockIfNeeded_speeds]
  -- an old time is not later than the new monitor time if it is not later than the old one
  have hmono : ∀ t, t ≤ w.lastPoll → t ≤ w.declocking.monitorTime →
      t ≤ w'.declocking.monitorTime := by
    intro t hpast ht
    rcases hmonitors.kept with hkept | hkept <;> rw [hkept]
    · exact ht
    · exact Nat.le_trans hpast hnow
  refine ⟨hthreshold ▸ hw.enabled, hthreshold ▸ hw.concern, hspeeds ▸ hw.distinct, hafter, ?_,
    ?_, ?_, ?_⟩
  · rw [hspeeds, hd]
    exact hw.known_after
  · intro t ht
    rw [hlast]
    rcases mem_recent.mp ht with ht | ht
    · rw [hhot] at ht
      split at ht
      · exact Nat.le_of_eq (Option.some.inj ht).symm
      · exact Nat.le_trans (hw.past t (mem_recent.mpr (.inl ht))) hnow
    · rw [hchange] at ht
      split at ht
      · exact Nat.le_of_eq (Option.some.inj ht).symm
      · exact Nat.le_trans (hw.past t (mem_recent.mpr (.inr ht))) hnow
  · intro t ht
    rw [hhot] at ht
    split at ht
    · rename_i hvalue
      rw [hmonitors.hot hw.enabled hvalue]
      exact Nat.le_of_eq (Option.some.inj ht).symm
    · exact hmono t (hw.past t (mem_recent.mpr (.inl ht))) (hw.hot t ht)
  · intro hlow t ht
    rw [hspeeds] at hlow
    have hcur := Declocking.declockIfNeeded_curCpuSpeed poll w.declocking
    rw [← hd] at hcur
    rw [hchange] at ht
    split at ht
    · rename_i hchanged
      rw [← Option.some.inj ht]
      rw [← hafter, ← hw.recorded] at hchanged
      -- a change goes to the due speed
      cases hdue : w.declocking.dueSpeed poll with
      | none =>
          rw [hdue] at hcur
          exact absurd hcur hchanged
      | some speed =>
          rw [hdue] at hcur
          rw [hcur] at hlow
          exact Nat.le_of_eq (hmonitors.switched speed hdue hlow).symm
    · rename_i hsame
      rw [← hafter, ← hw.recorded, not_not] at hsame
      rw [hsame] at hlow
      exact hmono t (hw.past t (mem_recent.mpr (.inr ht))) (hw.change hlow t ht)

/-- For granted polls at times that do not decrease, from the normal speed on: the polls keep the
hysteresis exactly as long as they see full seconds. -/
theorem declocking_hysteresis_iff {c₀ : Declocking} (hspeeds : c₀.speeds.Distinct)
    (hconcern : c₀.threshold.concern < c₀.threshold.critical)
    (hgrace : 0 < c₀.threshold.graceInterval) (hnormal : c₀.curCpuSpeed = c₀.speeds.normal)
    (hclock : c₀.clock.speed = c₀.speeds.normal) {polls : List DeclockPoll}
    (hgranted : ∀ poll ∈ polls, poll.result = .errorNone) :
    Along watchStep Hysteresis { declocking := c₀ } polls ↔
      Along watchStep SeesFullSeconds { declocking := c₀ } polls := by
  have h₀ : Monitored { declocking := c₀ } := by
    refine ⟨Int.ne_of_gt hgrace, hconcern, hspeeds, hnormal.trans hclock.symm, .inl hnormal,
      ?_, ?_, ?_⟩
    · intro t ht
      cases ht
    · intro t ht
      cases ht
    · intro _ t ht
      cases ht
  exact along_iff_along_of_forall (I := Monitored)
    (fun w poll w' hw hresult _ h => hw.step hresult h)
    (fun w poll hw hresult => hw.hysteresis_iff hresult) h₀ hgranted

/-- A hot minute, and a minute later the speed is raised. -/
theorem declocking_hysteresis_raised :
    Along watchStep Hysteresis { declocking := .defaults }
      [⟨0, 112, .errorNone⟩, ⟨60 * ticksPerSecond, 95, .errorNone⟩] := by
  have hspeeds : CpuSpeeds.Distinct Declocking.defaults.speeds := by
    constructor <;> decide
  refine (declocking_hysteresis_iff hspeeds (by decide) (by decide) rfl rfl ?_).mpr ?_
  · decide
  · decide

/-- Whole seconds only: the grace interval of 60 seconds is over after 59.1 seconds. -/
theorem declocking_early :
    ¬ Along watchStep Hysteresis { declocking := .defaults }
      [⟨900000, 105, .errorNone⟩, ⟨60 * ticksPerSecond, 85, .errorNone⟩] := by
  decide

end WatchedClock

end DeviceAndDisplay.PowerManager
