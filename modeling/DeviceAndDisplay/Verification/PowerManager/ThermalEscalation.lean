import DeviceAndDisplay.Verification.PowerManager.OverTemperature

/-! # The order of the over-temperature actions

The reboot check gives the deep-sleep check a chance to work: where its thresholds are not below
those of deep sleep, the device is rebooted only if deep sleep is requested as well, at the same
poll or before it in the reboot zone. -/

namespace DeviceAndDisplay.PowerManager

open Transition

/-- The deep-sleep check is at least as sensitive as the reboot check, and both are enabled at the
same time. -/
structure Thresholds.Precedes (sleep reboot : Thresholds) : Prop where
  critical : sleep.critical ≤ reboot.critical
  concern : sleep.concern ≤ reboot.concern
  safe : sleep.safe ≤ reboot.safe
  ordered : sleep.safe ≤ sleep.concern
  graceInterval : sleep.graceInterval ≤ reboot.graceInterval
  enabled : sleep.graceInterval = 0 ↔ reboot.graceInterval = 0

namespace ZoneCheck

variable {now : Time} {value : ℤ} {z sleep reboot : ZoneCheck}

theorem updateZone_of_zone (hzone : z.zone = true) (hsafe : z.threshold.safe ≤ value) :
    z.updateZone now value = z := by
  simp [updateZone, hzone, Int.not_lt.mpr hsafe]

theorem updateZone_of_concern (hzone : z.zone = false) (hconcern : z.threshold.concern ≤ value)
    (hcritical : value < z.threshold.critical) :
    z.updateZone now value = { z with zone := true, monitorTime := now } := by
  simp [updateZone, hzone, hconcern, Int.not_le.mpr hcritical]

/-- A zone that is on after a poll was entered now or before. -/
theorem monitorTime_updateZone (h : (z.updateZone now value).zone = true) :
    (z.updateZone now value).monitorTime = now ∨
      z.zone = true ∧ (z.updateZone now value).monitorTime = z.monitorTime := by
  rcases zone_of_updateZone h with ⟨_, htime⟩ | ⟨hzone, htime, _⟩
  · exact .inl htime
  · exact .inr ⟨hzone, htime⟩

/-- In a zone that was entered early enough a check starts its action. -/
theorem triggers_of_zone (hgrace : z.threshold.graceInterval ≠ 0)
    (hzone : (z.updateZone now value).zone = true)
    (hdiff : z.threshold.graceInterval ≤
      (tvSec now : ℤ) - tvSec (z.updateZone now value).monitorTime) :
    (z.ifNeeded now value).1 ≠ [] := by
  have hthreshold := z.updateZone_threshold now value
  rw [ifNeeded, if_neg hgrace]
  dsimp only
  rw [if_pos hzone, if_pos (by rw [hthreshold]; exact hdiff)]
  simp

/-- Whenever the reboot zone is on, so is the deep-sleep zone, and it was entered no later. -/
def Follows (sleep reboot : ZoneCheck) : Prop :=
  reboot.zone = true → sleep.zone = true ∧ sleep.monitorTime ≤ reboot.monitorTime

/-- Below the critical level of deep sleep, the deep-sleep zone is entered before the reboot zone
and left after it. -/
theorem Follows.updateZone (h : Follows sleep reboot)
    (hbelow : sleep.threshold.Precedes reboot.threshold)
    (hnow : sleep.zone = true → sleep.monitorTime ≤ now)
    (hvalue : value < sleep.threshold.critical) :
    Follows (sleep.updateZone now value) (reboot.updateZone now value) := by
  intro hzone
  rcases zone_of_updateZone hzone with ⟨hconcern, htime⟩ | ⟨hreboot, htime, hstay⟩
  · have hreached : sleep.threshold.concern ≤ value := Int.le_trans hbelow.concern hconcern
    rw [htime]
    cases hsleep : sleep.zone with
    | true =>
        rw [updateZone_of_zone hsleep (Int.le_trans hbelow.ordered hreached)]
        exact ⟨hsleep, hnow hsleep⟩
    | false =>
        rw [updateZone_of_concern hsleep hreached hvalue]
        exact ⟨rfl, Nat.le_refl now⟩
  · obtain ⟨hsleep, hle⟩ := h hreboot
    have hsafe : sleep.threshold.safe ≤ value := by
      rcases hstay with hsafe | hcritical
      · exact Int.le_trans hbelow.safe hsafe
      · have := hbelow.critical
        omega
    rw [htime, updateZone_of_zone hsleep hsafe]
    exact ⟨hsleep, hle⟩

/-- If the zones are in this relation after a poll, a reboot that the poll starts comes with a
request for deep sleep. -/
theorem triggers_of_follows (hbelow : sleep.threshold.Precedes reboot.threshold)
    (hfollows : Follows (sleep.updateZone now value) (reboot.updateZone now value))
    (hvalue : value < reboot.threshold.critical) (h : (reboot.ifNeeded now value).1 ≠ []) :
    (sleep.ifNeeded now value).1 ≠ [] := by
  obtain ⟨hgrace, hzone, hdiff⟩ := triggers_below_critical h hvalue
  obtain ⟨hsleep, hle⟩ := hfollows hzone
  have hseconds : tvSec (sleep.updateZone now value).monitorTime ≤
      tvSec (reboot.updateZone now value).monitorTime :=
    Nat.div_le_div_right hle
  refine triggers_of_zone (fun hzero => hgrace (hbelow.enabled.mp hzero)) hsleep ?_
  have := hbelow.graceInterval
  omega

end ZoneCheck

/-- The clock does not run backwards between the polls. -/
def ClockForward (as : List ThermalAction) : Prop :=
  (polls as).Pairwise fun later earlier => earlier.now ≤ later.now

instance (as : List ThermalAction) : Decidable (ClockForward as) :=
  inferInstanceAs (Decidable (List.Pairwise _ _))

theorem ClockForward.of_append {as : List ThermalAction} {a : ThermalAction}
    (h : ClockForward (as ++ [a])) : ClockForward as := by
  unfold ClockForward polls at h ⊢
  rw [List.filterMap_append, List.reverse_append] at h
  exact (List.pairwise_append.mp h).2.1

theorem ClockForward.le {as : List ThermalAction} {now : Time} {value : ℤ}
    (h : ClockForward (as ++ [.poll now (some value)])) {m : Poll} (hm : m ∈ polls as) :
    m.now ≤ now := by
  rw [ClockForward, polls_append_poll] at h
  exact List.rel_of_pairwise_cons h hm

namespace ThermalController

/-- Deep sleep was requested at a poll, and the reboot zone has been on since. -/
def SleepRequested (c₀ : ThermalController) (as : List ThermalAction) : Prop :=
  ∃ before now value after c, as = before ++ .poll now (some value) :: after ∧
    run thermalStep c₀ before = some c ∧ (c.poll now (some value)).1 .deepSleep ≠ [] ∧
    ∀ seen d, seen <+: after →
      run thermalStep c₀ (before ++ .poll now (some value) :: seen) = some d →
        d.reboot.zone = true

variable {c₀ c c' : ThermalController} {as : List ThermalAction} {now : Time} {value : ℤ}

/-- The request stays while the zone stays on. -/
theorem SleepRequested.append (h : SleepRequested c₀ as) {a : ThermalAction}
    (hr : run thermalStep c₀ (as ++ [a]) = some c') (hzone : c'.reboot.zone = true) :
    SleepRequested c₀ (as ++ [a]) := by
  obtain ⟨before, now, value, after, c, rfl, hbefore, hfires, hon⟩ := h
  refine ⟨before, now, value, after ++ [a], c, by simp, hbefore, hfires, fun seen d hseen hd => ?_⟩
  rcases List.prefix_concat_iff.mp hseen with rfl | hseen
  · rw [List.append_assoc, List.cons_append] at hr
    rw [← Option.some.inj (hr.symm.trans hd)]
    exact hzone
  · exact hon seen d hseen hd

/-- A poll that requests deep sleep and leaves the reboot zone on. -/
theorem SleepRequested.of_poll (hr : run thermalStep c₀ as = some c)
    (hfires : (c.poll now (some value)).1 .deepSleep ≠ [])
    (hzone : (c.poll now (some value)).2.reboot.zone = true) :
    SleepRequested c₀ (as ++ [.poll now (some value)]) := by
  refine ⟨as, now, value, [], c, rfl, hr, hfires, fun seen d hseen hd => ?_⟩
  rw [List.prefix_nil.mp hseen, run_append, hr] at hd
  cases hd
  exact hzone

/-- What holds of the two checks after the actions `as`. -/
structure Escalating (c₀ : ThermalController) (as : List ThermalAction)
    (c : ThermalController) : Prop where
  below : c.deepSleep.threshold.Precedes c.reboot.threshold
  entered : c.deepSleep.zone = true → ∃ m ∈ polls as, m.now = c.deepSleep.monitorTime
  follows : ZoneCheck.Follows c.deepSleep c.reboot ∨ SleepRequested c₀ as

theorem Escalating.init (hbelow : c₀.deepSleep.threshold.Precedes c₀.reboot.threshold)
    (hsleep : c₀.deepSleep.zone = false) (hreboot : c₀.reboot.zone = false) :
    Escalating c₀ [] c₀ where
  below := hbelow
  entered := fun h => absurd (hsleep.symm.trans h) (by decide)
  follows := .inl fun h => absurd (hreboot.symm.trans h) (by decide)

/-- An action that leaves the zones and the order of the thresholds alone. -/
theorem Escalating.of_same (h : Escalating c₀ as c) {a : ThermalAction}
    (hr : run thermalStep c₀ (as ++ [a]) = some c') (hreading : a.reading = none)
    (hbelow : c'.deepSleep.threshold.Precedes c'.reboot.threshold)
    (hsleep : c'.deepSleep.zone = c.deepSleep.zone ∧
      c'.deepSleep.monitorTime = c.deepSleep.monitorTime)
    (hreboot : c'.reboot.zone = c.reboot.zone ∧ c'.reboot.monitorTime = c.reboot.monitorTime) :
    Escalating c₀ (as ++ [a]) c' where
  below := hbelow
  entered := by
    rw [hsleep.1, hsleep.2, polls_append_of_reading hreading]
    exact h.entered
  follows := by
    rcases h.follows with hfollows | hrequested
    · left
      unfold ZoneCheck.Follows
      rw [hsleep.1, hsleep.2, hreboot.1, hreboot.2]
      exact hfollows
    · by_cases hzone : c'.reboot.zone = true
      · exact .inr (hrequested.append hr hzone)
      · exact .inl fun hon => absurd hon hzone

/-- While the checks are enabled, a poll updates both zones. -/
theorem poll_zones (hsleep : c.deepSleep.threshold.graceInterval ≠ 0)
    (hreboot : c.reboot.threshold.graceInterval ≠ 0) (now : Time) (value : ℤ) :
    (c.poll now (some value)).2.deepSleep = c.deepSleep.updateZone now value ∧
      (c.poll now (some value)).2.reboot = c.reboot.updateZone now value :=
  ⟨(poll_check now value c .deepSleep).trans (ZoneCheck.ifNeeded_snd hsleep),
    (poll_check now value c .reboot).trans (ZoneCheck.ifNeeded_snd hreboot)⟩

/-- While they are not, it changes nothing. -/
theorem poll_disabled (hsleep : c.deepSleep.threshold.graceInterval = 0)
    (hreboot : c.reboot.threshold.graceInterval = 0) (now : Time) (value : ℤ) :
    (c.poll now (some value)).2.deepSleep = c.deepSleep ∧
      (c.poll now (some value)).2.reboot = c.reboot :=
  ⟨(poll_check now value c .deepSleep).trans
      (congrArg Prod.snd (ZoneCheck.ifNeeded_of_disabled hsleep)),
    (poll_check now value c .reboot).trans
      (congrArg Prod.snd (ZoneCheck.ifNeeded_of_disabled hreboot))⟩

/-- Where a poll may start the actions, the zones are in relation after it, or deep sleep is
requested. -/
theorem Escalating.zones (h : Escalating c₀ as c)
    (hclock : ClockForward (as ++ [.poll now (some value)])) (hnot : ¬ SleepRequested c₀ as)
    (hvalue : value < c.deepSleep.threshold.critical) :
    ZoneCheck.Follows (c.deepSleep.updateZone now value) (c.reboot.updateZone now value) := by
  have hfollows : ZoneCheck.Follows c.deepSleep c.reboot := h.follows.resolve_right hnot
  refine hfollows.updateZone h.below (fun hzone => ?_) hvalue
  obtain ⟨m, hm, htime⟩ := h.entered hzone
  rw [← htime]
  exact hclock.le hm

theorem Escalating.poll (h : Escalating c₀ as c) (hr : run thermalStep c₀ as = some c)
    (hclock : ClockForward (as ++ [.poll now (some value)])) :
    Escalating c₀ (as ++ [.poll now (some value)]) (c.poll now (some value)).2 := by
  have hrun : run thermalStep c₀ (as ++ [.poll now (some value)]) =
      some (c.poll now (some value)).2 := by
    rw [run_append, hr]
    rfl
  by_cases hgrace : c.deepSleep.threshold.graceInterval = 0
  · obtain ⟨hsleep, hreboot⟩ := poll_disabled hgrace (h.below.enabled.mp hgrace) now value
    constructor
    · rw [hsleep, hreboot]
      exact h.below
    · rw [hsleep, polls_append_poll]
      intro hzone
      obtain ⟨m, hm, htime⟩ := h.entered hzone
      exact ⟨m, List.mem_cons_of_mem _ hm, htime⟩
    · rcases h.follows with hfollows | hrequested
      · left
        rw [hsleep, hreboot]
        exact hfollows
      · by_cases hzone : (c.poll now (some value)).2.reboot.zone = true
        · exact .inr (hrequested.append hrun hzone)
        · exact .inl fun hon => absurd hon hzone
  · obtain ⟨hsleep, hreboot⟩ :=
      poll_zones hgrace (fun hzero => hgrace (h.below.enabled.mpr hzero)) now value
    constructor
    · rw [hsleep, hreboot, ZoneCheck.updateZone_threshold, ZoneCheck.updateZone_threshold]
      exact h.below
    · rw [hsleep, polls_append_poll]
      intro hzone
      rcases ZoneCheck.monitorTime_updateZone hzone with htime | ⟨hbefore, htime⟩
      · exact ⟨⟨now, value⟩, List.mem_cons_self, htime.symm⟩
      · obtain ⟨m, hm, hentry⟩ := h.entered hbefore
        exact ⟨m, List.mem_cons_of_mem _ hm, hentry.trans htime.symm⟩
    · by_cases hzone : (c.poll now (some value)).2.reboot.zone = true
      · by_cases hrequested : SleepRequested c₀ as
        · exact .inr (hrequested.append hrun hzone)
        · by_cases hvalue : value < c.deepSleep.threshold.critical
          · left
            rw [hsleep, hreboot]
            exact h.zones hclock hrequested hvalue
          · right
            refine .of_poll hr ?_ hzone
            rw [poll_triggers]
            exact ZoneCheck.triggers_at_critical hgrace (Int.not_lt.mp hvalue)
      · exact .inl fun hon => absurd hon hzone

theorem Escalating.step (h : Escalating c₀ as c) (hr : run thermalStep c₀ as = some c)
    {a : ThermalAction} (hclock : ClockForward (as ++ [a])) (hs : thermalStep c a = some c') :
    Escalating c₀ (as ++ [a]) c' := by
  have hrun : run thermalStep c₀ (as ++ [a]) = some c' := by
    rw [run_append, hr, Option.bind_some, run_singleton, hs]
  cases a with
  | poll now value =>
      cases hs
      cases value with
      | none => exact h.of_same hrun rfl h.below ⟨rfl, rfl⟩ ⟨rfl, rfl⟩
      | some value => exact h.poll hr hclock
  | setOvertempGraceInterval graceInterval =>
      cases hs
      unfold setOvertempGraceInterval at hrun ⊢
      split
      · rename_i hgrace
        rw [if_pos hgrace] at hrun
        have hb := h.below
        exact h.of_same hrun rfl
          ⟨hb.critical, hb.concern, hb.safe, hb.ordered, Int.le_refl _, Iff.rfl⟩
          ⟨rfl, rfl⟩ ⟨rfl, rfl⟩
      · rename_i hgrace
        rw [if_neg hgrace] at hrun
        exact h.of_same hrun rfl h.below ⟨rfl, rfl⟩ ⟨rfl, rfl⟩

theorem escalating_run (hbelow : c₀.deepSleep.threshold.Precedes c₀.reboot.threshold)
    (hsleep : c₀.deepSleep.zone = false) (hreboot : c₀.reboot.zone = false)
    (hr : run thermalStep c₀ as = some c) (hclock : ClockForward as) : Escalating c₀ as c := by
  have h₀ : run thermalStep c₀ [] = some c₀ ∧ (ClockForward [] → Escalating c₀ [] c₀) :=
    ⟨rfl, fun _ => .init hbelow hsleep hreboot⟩
  have hinv := run_history_invariant (C := fun _ _ => True)
    (I := fun done d => run thermalStep c₀ done = some d ∧
      (ClockForward done → Escalating c₀ done d))
    (fun done d a d' ⟨hd, hi⟩ _ hs => ⟨by rw [run_append, hd, Option.bind_some, run_singleton, hs],
      fun hclock => (hi hclock.of_append).step hd hclock hs⟩)
    h₀ (along_true c₀ as) hr
  exact hinv.2 hclock

/-- In every run whose clock does not run backwards, a poll that starts a reboot requests deep
sleep too, or deep sleep was requested at an earlier poll and the reboot zone has been on since; a
reboot that the critical level forces always comes with a request. -/
theorem sleep_before_reboot (hbelow : c₀.deepSleep.threshold.Precedes c₀.reboot.threshold)
    (hsleep : c₀.deepSleep.zone = false) (hreboot : c₀.reboot.zone = false)
    (hr : run thermalStep c₀ as = some c)
    (hclock : ClockForward (as ++ [.poll now (some value)]))
    (hfires : (c.poll now (some value)).1 .reboot ≠ []) :
    (value < c.reboot.threshold.critical →
      (c.poll now (some value)).1 .deepSleep ≠ [] ∨ SleepRequested c₀ as) ∧
    (c.reboot.threshold.critical ≤ value → (c.poll now (some value)).1 .deepSleep ≠ []) := by
  have h := escalating_run hbelow hsleep hreboot hr hclock.of_append
  rw [poll_triggers] at hfires ⊢
  have hgrace : c.reboot.threshold.graceInterval ≠ 0 := by
    intro hzero
    exact hfires (congrArg Prod.fst (ZoneCheck.ifNeeded_of_disabled hzero))
  have hgrace' : c.deepSleep.threshold.graceInterval ≠ 0 :=
    fun hzero => hgrace (h.below.enabled.mp hzero)
  constructor
  · intro hvalue
    by_cases hcritical : c.deepSleep.threshold.critical ≤ value
    · exact .inl (ZoneCheck.triggers_at_critical hgrace' hcritical)
    · by_cases hrequested : SleepRequested c₀ as
      · exact .inr hrequested
      · left
        exact ZoneCheck.triggers_of_follows h.below
          (h.zones hclock hrequested (Int.not_le.mp hcritical)) hvalue hfires
  · intro hvalue
    exact ZoneCheck.triggers_at_critical hgrace' (Int.le_trans h.below.critical hvalue)

/-- The thresholds where temperatures are read from the manufacturer's library,
`MFR_TEMP_CLOCK_READ`. -/
def mfrThermalController : ThermalController where
  deepSleep :=
    { threshold := { critical := 105, concern := 100, safe := 90, graceInterval := 600 } }
  reboot := { threshold := { critical := 110, concern := 102, safe := 100, graceInterval := 600 } }

/-- The compiled thresholds of both builds are in order. -/
theorem precedes_default :
    defaultThermalController.deepSleep.threshold.Precedes
      defaultThermalController.reboot.threshold := by
  constructor <;> decide

theorem precedes_mfr :
    mfrThermalController.deepSleep.threshold.Precedes mfrThermalController.reboot.threshold := by
  constructor <;> decide

/-- The temperature jumps over the zone of deep sleep into that of the reboot; deep sleep is
requested at once, and nothing else until the reboot ten minutes later. -/
theorem sleep_before_reboot_jump :
    let as : List ThermalAction := [.poll 0 (some 106), .poll (500 * ticksPerSecond) (some 101)]
    SleepRequested mfrThermalController as := by
  intro as
  have hr : run thermalStep mfrThermalController as = some _ := rfl
  have hclock : ClockForward (as ++ [.poll (600 * ticksPerSecond) (some 101)]) := by decide
  have h := (sleep_before_reboot precedes_mfr rfl rfl hr hclock (by decide)).1 (by decide)
  exact h.resolve_left (by decide)

end ThermalController

end DeviceAndDisplay.PowerManager
