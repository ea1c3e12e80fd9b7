import DeviceAndDisplay.Model.PowerManager.ThermalController
import DeviceAndDisplay.Transition.Run

/-! # Over-temperature actions and the temperature trace

While a check is disabled it does not see that the temperature falls below the safe level, and
keeps the time at which the zone was entered. Without such polls the polls justify each action. -/

namespace DeviceAndDisplay.PowerManager

open Transition

/-! ### One check -/

namespace ZoneCheck

variable {now : Time} {value : ℤ} {z : ZoneCheck}

theorem updateZone_threshold (now : Time) (value : ℤ) (z : ZoneCheck) :
    (z.updateZone now value).threshold = z.threshold := by
  unfold updateZone
  split
  · rfl
  · split
    · rfl
    · split <;> rfl

theorem ifNeeded_of_disabled (h : z.threshold.graceInterval = 0) :
    z.ifNeeded now value = ([], z) :=
  if_pos h

theorem ifNeeded_snd (h : z.threshold.graceInterval ≠ 0) :
    (z.ifNeeded now value).2 = z.updateZone now value := by
  rw [ifNeeded, if_neg h]
  dsimp only
  split
  · split <;> rfl
  · rfl

/-- A zone is entered at the concern level, or was entered before and not left. -/
theorem zone_of_updateZone (h : (z.updateZone now value).zone = true) :
    (z.threshold.concern ≤ value ∧ (z.updateZone now value).monitorTime = now) ∨
      (z.zone = true ∧ (z.updateZone now value).monitorTime = z.monitorTime ∧
        (z.threshold.safe ≤ value ∨ z.threshold.critical ≤ value)) := by
  unfold updateZone at h ⊢
  by_cases hcritical : value ≥ z.threshold.critical
  · rw [if_pos hcritical] at h ⊢
    exact .inr ⟨h, rfl, .inr hcritical⟩
  · rw [if_neg hcritical] at h ⊢
    by_cases hconcern : (!z.zone && decide (value ≥ z.threshold.concern)) = true
    · rw [if_pos hconcern]
      simp only [Bool.and_eq_true, decide_eq_true_eq] at hconcern
      exact .inl ⟨hconcern.2, rfl⟩
    · rw [if_neg hconcern] at h ⊢
      by_cases hsafe : (z.zone && decide (value < z.threshold.safe)) = true
      · rw [if_pos hsafe] at h
        cases h
      · rw [if_neg hsafe] at h ⊢
        simp only [h, Bool.true_and, decide_eq_true_eq, Int.not_lt] at hsafe
        exact .inr ⟨h, rfl, .inl hsafe⟩

/-- Below the critical level an action needs the zone, and the grace interval in seconds of the
clock. -/
theorem triggers_below_critical (h : (z.ifNeeded now value).1 ≠ [])
    (hvalue : value < z.threshold.critical) :
    z.threshold.graceInterval ≠ 0 ∧ (z.updateZone now value).zone = true ∧
      z.threshold.graceInterval ≤
        (tvSec now : ℤ) - tvSec (z.updateZone now value).monitorTime := by
  by_cases hgrace : z.threshold.graceInterval = 0
  · rw [ifNeeded_of_disabled hgrace] at h
    exact absurd rfl h
  · rw [ifNeeded, if_neg hgrace, if_neg (Int.not_le.mpr hvalue)] at h
    dsimp only at h
    by_cases hzone : (z.updateZone now value).zone = true
    · rw [if_pos hzone] at h
      by_cases hdiff : (tvSec now : ℤ) - tvSec (z.updateZone now value).monitorTime ≥
          (z.updateZone now value).threshold.graceInterval
      · rw [updateZone_threshold] at hdiff
        exact ⟨hgrace, hzone, hdiff⟩
      · rw [if_neg hdiff] at h
        exact absurd rfl h
    · rw [if_neg hzone] at h
      exact absurd rfl h

/-- At the critical level a check that is enabled always starts its action. -/
theorem triggers_at_critical (hgrace : z.threshold.graceInterval ≠ 0)
    (hvalue : z.threshold.critical ≤ value) : (z.ifNeeded now value).1 ≠ [] := by
  rw [ifNeeded, if_neg hgrace, if_pos hvalue]
  dsimp only
  split
  · split <;> simp
  · simp

end ZoneCheck

/-! ### The polls of a run -/

/-- A poll that gave a temperature. -/
structure Poll where
  now : Time
  value : ℤ
deriving DecidableEq, Repr

def ThermalAction.reading : ThermalAction → Option Poll
  | .poll now value => value.map fun value => ⟨now, value⟩
  | .setOvertempGraceInterval _ => none

/-- The polls among the actions, newest first. -/
def polls (as : List ThermalAction) : List Poll :=
  (as.filterMap ThermalAction.reading).reverse

theorem polls_append_poll (as : List ThermalAction) (now : Time) (value : ℤ) :
    polls (as ++ [.poll now (some value)]) = ⟨now, value⟩ :: polls as := by
  simp [polls, ThermalAction.reading]

theorem polls_append_of_reading {a : ThermalAction} (h : a.reading = none)
    (as : List ThermalAction) : polls (as ++ [a]) = polls as := by
  simp [polls, h]

/-- The polls since the temperature was below the safe level, newest first. -/
def pollsAboveSafe (threshold : Thresholds) (polls : List Poll) : List Poll :=
  polls.takeWhile fun m => threshold.safe ≤ m.value

/-- Some poll was at the concern level or above it, all polls since then were at the safe level
or above it, and the grace interval has passed between the two. -/
def Justified (threshold : Thresholds) (polls : List Poll) (now : Time) : Prop :=
  ∃ m ∈ pollsAboveSafe threshold polls, threshold.concern ≤ m.value ∧
    (m.now : ℤ) + threshold.graceInterval * ticksPerSecond ≤ now

instance (threshold : Thresholds) (polls : List Poll) (now : Time) :
    Decidable (Justified threshold polls now) :=
  inferInstanceAs (Decidable (∃ m ∈ pollsAboveSafe threshold polls, _))

namespace ThermalController

variable {k : Protection} {c : ThermalController}

@[simp] theorem poll_triggers (now : Time) (value : ℤ) (c : ThermalController) (k : Protection) :
    (c.poll now (some value)).1 k = ((c.check k).ifNeeded now value).1 := by
  cases k <;> rfl

@[simp] theorem poll_check (now : Time) (value : ℤ) (c : ThermalController) (k : Protection) :
    (c.poll now (some value)).2.check k = ((c.check k).ifNeeded now value).2 := by
  cases k <;> rfl

theorem setOvertempGraceInterval_check (graceInterval : ℤ) (c : ThermalController)
    (k : Protection) :
    (c.setOvertempGraceInterval graceInterval).2.check k = c.check k ∨
      (c.setOvertempGraceInterval graceInterval).2.check k =
        (c.check k).setGraceInterval graceInterval := by
  unfold setOvertempGraceInterval
  split
  · right
    cases k <;> rfl
  · exact .inl rfl

/-! ### The condition on the polls -/

/-- A fall below the safe level is not missed in the zone because the check is disabled. -/
def SeesCooling (z : ZoneCheck) (value : ℤ) : Prop :=
  z.threshold.graceInterval = 0 → z.zone = true → z.threshold.safe ≤ value

/-- In the second in which the grace interval ends, the poll is not earlier than the zone was
entered in its second. -/
def SeesFullSeconds (z : ZoneCheck) (now : Time) (value : ℤ) : Prop :=
  z.threshold.graceInterval ≠ 0 → z.zone = true → z.threshold.safe ≤ value →
    value < z.threshold.critical →
    (tvSec now : ℤ) = tvSec z.monitorTime + z.threshold.graceInterval →
    z.monitorTime % ticksPerSecond ≤ now % ticksPerSecond

instance (z : ZoneCheck) (value : ℤ) : Decidable (SeesCooling z value) :=
  inferInstanceAs (Decidable (_ → _))

instance (z : ZoneCheck) (now : Time) (value : ℤ) : Decidable (SeesFullSeconds z now value) :=
  inferInstanceAs (Decidable (_ → _))

/-- The condition for the check `k`. -/
def Attends (k : Protection) (c : ThermalController) : ThermalAction → Prop
  | .poll now (some value) => SeesCooling (c.check k) value ∧ SeesFullSeconds (c.check k) now value
  | .poll _ none => True
  | .setOvertempGraceInterval _ => True

instance (k : Protection) (c : ThermalController) (a : ThermalAction) :
    Decidable (Attends k c a) :=
  match a with
  | .poll _ (some _) => inferInstanceAs (Decidable (_ ∧ _))
  | .poll _ none => isTrue trivial
  | .setOvertempGraceInterval _ => isTrue trivial

/-- Polls at full seconds meet the second part. -/
theorem seesFullSeconds_of_dvd {z : ZoneCheck} {now : Time} (value : ℤ)
    (h : z.monitorTime % ticksPerSecond = 0) : SeesFullSeconds z now value := by
  intro _ _ _ _ _
  rw [h]
  exact Nat.zero_le _

/-! ### The zone flag and the polls -/

/-- The thresholds, except the interval, are those of `t`, and a zone was entered at a poll that
is followed by polls at the safe level or above it only. -/
structure Entered (t : Thresholds) (as : List ThermalAction) (z : ZoneCheck) : Prop where
  critical : z.threshold.critical = t.critical
  concern : z.threshold.concern = t.concern
  safe : z.threshold.safe = t.safe
  entry : z.zone = true → ∃ m ∈ pollsAboveSafe t (polls as),
    t.concern ≤ m.value ∧ m.now = z.monitorTime

theorem Entered.append_of_reading {t : Thresholds} {as : List ThermalAction} {a : ThermalAction}
    {z : ZoneCheck} (h : Entered t as z) (ha : a.reading = none) : Entered t (as ++ [a]) z := by
  refine ⟨h.critical, h.concern, h.safe, ?_⟩
  rw [polls_append_of_reading ha]
  exact h.entry

section

variable {t : Thresholds} (hsafe : t.safe ≤ t.concern) (hconcern : t.concern ≤ t.critical)

include hsafe hconcern in
theorem entered_updateZone {as : List ThermalAction} {z : ZoneCheck} (h : Entered t as z)
    (now : Time) (value : ℤ) :
    Entered t (as ++ [.poll now (some value)]) (z.updateZone now value) := by
  have hthreshold := z.updateZone_threshold now value
  refine ⟨hthreshold ▸ h.critical, hthreshold ▸ h.concern, hthreshold ▸ h.safe, fun hzone => ?_⟩
  rw [polls_append_poll, pollsAboveSafe]
  rcases ZoneCheck.zone_of_updateZone hzone with ⟨hvalue, htime⟩ | ⟨hz, htime, hvalue⟩
  · rw [h.concern] at hvalue
    have habove : t.safe ≤ value := Int.le_trans hsafe hvalue
    rw [List.takeWhile_cons_of_pos (by simpa using habove)]
    exact ⟨⟨now, value⟩, List.mem_cons_self, hvalue, htime.symm⟩
  · obtain ⟨m, hm, hmvalue, hmtime⟩ := h.entry hz
    have habove : t.safe ≤ value := by
      rcases hvalue with hvalue | hvalue
      · rwa [h.safe] at hvalue
      · rw [h.critical] at hvalue
        omega
    rw [List.takeWhile_cons_of_pos (by simpa using habove)]
    exact ⟨m, List.mem_cons_of_mem _ hm, hmvalue, by rw [htime, hmtime]⟩

include hsafe hconcern in
theorem entered_step {as : List ThermalAction} {c c' : ThermalController} {a : ThermalAction}
    (h : Entered t as (c.check k)) (ha : Attends k c a) (hs : thermalStep c a = some c') :
    Entered t (as ++ [a]) (c'.check k) := by
  cases a with
  | poll now value =>
      cases hs
      cases value with
      | none => exact h.append_of_reading rfl
      | some value =>
          rw [poll_check]
          by_cases hgrace : (c.check k).threshold.graceInterval = 0
          · rw [ZoneCheck.ifNeeded_of_disabled hgrace]
            refine ⟨h.critical, h.concern, h.safe, fun hzone => ?_⟩
            obtain ⟨m, hm, hentry⟩ := h.entry hzone
            have hvalue : t.safe ≤ value := h.safe ▸ ha.1 hgrace hzone
            rw [polls_append_poll, pollsAboveSafe,
              List.takeWhile_cons_of_pos (by simpa using hvalue)]
            exact ⟨m, List.mem_cons_of_mem _ hm, hentry⟩
          · rw [ZoneCheck.ifNeeded_snd hgrace]
            exact entered_updateZone hsafe hconcern h now value
  | setOvertempGraceInterval graceInterval =>
      cases hs
      rcases setOvertempGraceInterval_check graceInterval c k with hsame | hset
      · rw [hsame]
        exact h.append_of_reading rfl
      · have hentered : Entered t as ((c.check k).setGraceInterval graceInterval) :=
          ⟨h.critical, h.concern, h.safe, h.entry⟩
        rw [hset]
        exact hentered.append_of_reading rfl

end

theorem entered_run {c₀ : ThermalController} {as : List ThermalAction}
    (hzone : (c₀.check k).zone = false)
    (hsafe : (c₀.check k).threshold.safe ≤ (c₀.check k).threshold.concern)
    (hconcern : (c₀.check k).threshold.concern ≤ (c₀.check k).threshold.critical)
    (hC : Along thermalStep (Attends k) c₀ as) (hr : run thermalStep c₀ as = some c) :
    Entered (c₀.check k).threshold as (c.check k) := by
  have h₀ : Entered (c₀.check k).threshold [] (c₀.check k) :=
    ⟨rfl, rfl, rfl, fun h => absurd (hzone.symm.trans h) (by decide)⟩
  exact run_history_invariant (I := fun done d => Entered (c₀.check k).threshold done (d.check k))
    (fun done d a d' h ha hs => entered_step hsafe hconcern h ha hs) h₀ hC hr

/-- The seconds of the clock that have passed and the time that has passed. -/
theorem elapsed_of_seconds {now start : ℕ} {graceInterval : ℤ}
    (h : graceInterval ≤ (tvSec now : ℤ) - tvSec start)
    (hfull : (tvSec now : ℤ) = tvSec start + graceInterval →
      start % ticksPerSecond ≤ now % ticksPerSecond) :
    (start : ℤ) + graceInterval * ticksPerSecond ≤ now := by
  have hticks : ticksPerSecond = 1000000 := rfl
  simp only [tvSec, hticks] at h hfull ⊢
  by_cases heq : ((now / 1000000 : ℕ) : ℤ) = (start / 1000000 : ℕ) + graceInterval
  · have hle := hfull heq
    omega
  · omega

/-- In every run whose polls meet the condition of a check, the polls justify each action that
the check starts below the critical level, and at the critical level it always starts its
action. -/
theorem overtemp_action_justified (k : Protection) {c₀ c : ThermalController}
    {as : List ThermalAction} {now : Time} {value : ℤ} (hzone : (c₀.check k).zone = false)
    (hsafe : (c₀.check k).threshold.safe ≤ (c₀.check k).threshold.concern)
    (hconcern : (c₀.check k).threshold.concern ≤ (c₀.check k).threshold.critical)
    (hC : Along thermalStep (Attends k) c₀ (as ++ [.poll now (some value)]))
    (hr : run thermalStep c₀ as = some c) :
    ((c.poll now (some value)).1 k ≠ [] → value < (c.check k).threshold.critical →
      Justified (c.check k).threshold (polls (as ++ [.poll now (some value)])) now) ∧
    ((c.check k).threshold.critical ≤ value → 0 < (c.check k).threshold.graceInterval →
      (c.poll now (some value)).1 k ≠ []) := by
  obtain ⟨hbefore, hlast⟩ := along_append.mp hC
  have hattends : Attends k c (.poll now (some value)) := (hlast c hr).1
  have h := entered_run hzone hsafe hconcern hbefore hr
  rw [poll_triggers]
  constructor
  · intro htriggers hvalue
    obtain ⟨hgrace, hzone', hdiff⟩ := ZoneCheck.triggers_below_critical htriggers hvalue
    obtain ⟨m, hm, hmvalue, hmtime⟩ :=
      (entered_updateZone hsafe hconcern h now value).entry hzone'
    have habove : pollsAboveSafe (c.check k).threshold =
        pollsAboveSafe (c₀.check k).threshold := by
      unfold pollsAboveSafe
      rw [h.safe]
    refine ⟨m, habove ▸ hm, h.concern ▸ hmvalue, ?_⟩
    rw [hmtime]
    apply elapsed_of_seconds hdiff
    intro hsecond
    -- a zone that is entered at this poll starts now
    rcases ZoneCheck.zone_of_updateZone hzone' with ⟨_, htime⟩ | ⟨hz, htime, hsafe' | hcritical⟩
    · exact Nat.le_of_eq (by rw [htime])
    · rw [htime] at hsecond ⊢
      exact hattends.2 hgrace hz hsafe' hvalue hsecond
    · omega
  · intro hvalue hgrace
    exact ZoneCheck.triggers_at_critical (by omega) hvalue

/-- The thresholds of `ThermalController` where temperatures are not read from the manufacturer's
library. -/
def defaultThermalController : ThermalController where
  deepSleep :=
    { threshold := { critical := 115, concern := 110, safe := 100, graceInterval := 600 } }
  reboot := { threshold := { critical := 120, concern := 120, safe := 110, graceInterval := 600 } }

/-- Two polls in the zone, a minute apart. -/
theorem overtemp_action_justified_zone :
    Justified { critical := 115, concern := 110, safe := 100, graceInterval := 60 }
      (polls ([.setOvertempGraceInterval 60, .poll 0 (some 112)] ++
        [.poll (60 * ticksPerSecond) (some 105)])) (60 * ticksPerSecond) := by
  have hr : run thermalStep defaultThermalController
      [.setOvertempGraceInterval 60, .poll 0 (some 112)] = some _ := rfl
  have hC : Along thermalStep (Attends .deepSleep) defaultThermalController
      ([.setOvertempGraceInterval 60, .poll 0 (some 112)] ++
        [.poll (60 * ticksPerSecond) (some 105)]) := by
    decide
  exact (overtemp_action_justified .deepSleep rfl (by decide) (by decide) hC hr).1
    (by decide) (by decide)

/-- The temperature falls below the safe level while the interval is 0; half a minute after the
interval is set again, the device goes to deep sleep below the concern level. -/
theorem overtemp_action_stale :
    let as : List ThermalAction := [.setOvertempGraceInterval 30, .poll 0 (some 112),
      .setOvertempGraceInterval 0, .poll (30 * ticksPerSecond) (some 90),
      .setOvertempGraceInterval 30]
    let now := 60 * ticksPerSecond
    ∃ c, run thermalStep defaultThermalController as = some c ∧
      (c.poll now (some 105)).1 .deepSleep ≠ [] ∧ 105 < c.deepSleep.threshold.critical ∧
      ¬ Justified c.deepSleep.threshold (polls (as ++ [.poll now (some 105)])) now := by
  refine ⟨_, rfl, ?_, ?_, ?_⟩ <;> decide

/-- Whole seconds only: an interval of 31 seconds ends after 30.1 seconds. -/
example : ((run thermalStep defaultThermalController [.setOvertempGraceInterval 31,
    .poll 900000 (some 112)]).map fun c => (c.poll 31000000 (some 112)).1 .deepSleep) =
      some [.graceInterval] := by
  decide

end ThermalController

end DeviceAndDisplay.PowerManager
