import DeviceAndDisplay.Model.PowerManager.ThermalLevels
import DeviceAndDisplay.Transition.Changes
import DeviceAndDisplay.Verification.PowerManager.Declocking
import DeviceAndDisplay.Verification.PowerManager.EventChain
import DeviceAndDisplay.Verification.PowerManager.OverTemperature

/-! # From temperature readings to threshold events

A listener that stays registered hears of the changes between the readings and of nothing else,
and the threshold events that `SystemServices` makes of them tell the level. -/

namespace DeviceAndDisplay.PowerManager

open Transition

def ThermalLevelAction.reading : ThermalLevelAction → Option TemperatureReading
  | .poll _ reading _ => reading
  | .setOvertempGraceInterval _ | .register _ | .unregister _ => none

/-- The readings that the polls got, oldest first. -/
def readings (as : List ThermalLevelAction) : List TemperatureReading :=
  as.filterMap ThermalLevelAction.reading

theorem readings_concat_some {a : ThermalLevelAction} {reading : TemperatureReading}
    (h : a.reading = some reading) (as : List ThermalLevelAction) :
    readings (as ++ [a]) = readings as ++ [reading] := by
  simp [readings, h]

theorem readings_concat_none {a : ThermalLevelAction} (h : a.reading = none)
    (as : List ThermalLevelAction) : readings (as ++ [a]) = readings as := by
  simp [readings, h]

/-- The event for a change between readings. -/
def ThermalModeChange.ofReading (change : ThermalTemperature × TemperatureReading) :
    ThermalModeChange :=
  ⟨change.1, change.2.state, change.2.currentTemp⟩

/-- The changes of the level, which is normal at the start. -/
def levelChanges (rs : List TemperatureReading) : List ThermalModeChange :=
  (changes TemperatureReading.state .normal rs).map .ofReading

/-- The levels before and after a change. -/
def ThermalModeChange.levels (change : ThermalModeChange) :
    ThermalTemperature × ThermalTemperature :=
  (change.currentThermalLevel, change.newThermalLevel)

theorem eventChain_levelChanges (rs : List TemperatureReading) :
    EventChain .normal ((levelChanges rs).map ThermalModeChange.levels) where
  first := by
    intro e he
    rw [levelChanges, List.map_map, List.head?_map] at he
    obtain ⟨change, hchange, rfl⟩ := Option.map_eq_some_iff.mp he
    have hstart : change.1 = .normal := head_changes hchange
    exact hstart
  linked := by
    have hlinked : (changes TemperatureReading.state .normal rs).IsChain
        fun e next => next.1 = e.2.state := isChain_changes
    rw [levelChanges, List.map_map, List.isChain_map]
    exact hlinked
  changes := by
    intro e he
    rw [levelChanges, List.map_map] at he
    obtain ⟨change, hchange, rfl⟩ := List.mem_map.mp he
    obtain ⟨_, _, _, _, hne⟩ := exists_of_mem_changes hchange
    exact Ne.symm hne

namespace ThermalImplementation

variable {m m₀ m' : ThermalImplementation} {notification : Sink} {a : ThermalLevelAction}
  {done as : List ThermalLevelAction}

/-- The events that a listener was called with, oldest first. -/
def callsTo (notification : Sink) (m : ThermalImplementation) : List ThermalModeChange :=
  received notification m.calls

/-- What a listener that stays registered knows after the actions `done`. -/
structure Informed (notification : Sink) (done : List ThermalLevelAction)
    (m : ThermalImplementation) : Prop where
  registered : notification ∈ m.notifications.sinks
  nodup : m.notifications.sinks.Nodup
  level : m.monitor.curThermalLevel =
    current TemperatureReading.state .normal (readings done)
  value : m.monitor.curThermalValue =
    current (fun reading => truncateToInt reading.currentTemp) 0 (readings done)
  calls : m.callsTo notification = levelChanges (readings done)

/-- An action that polls nothing and leaves the listener registered. -/
theorem Informed.of_same (h : Informed notification done m) (hreading : a.reading = none)
    (hmem : notification ∈ m'.notifications.sinks) (hnodup : m'.notifications.sinks.Nodup)
    (hlevel : m'.monitor.curThermalLevel = m.monitor.curThermalLevel)
    (hvalue : m'.monitor.curThermalValue = m.monitor.curThermalValue)
    (hcalls : m'.calls = m.calls) : Informed notification (done ++ [a]) m' where
  registered := hmem
  nodup := hnodup
  level := by rw [readings_concat_none hreading, hlevel, h.level]
  value := by rw [readings_concat_none hreading, hvalue, h.value]
  calls := by rw [readings_concat_none hreading, callsTo, hcalls, ← h.calls, callsTo]

theorem Informed.poll (h : Informed notification done m) (now : Time)
    (reading : TemperatureReading) (setClockSpeed : ErrorCode) :
    Informed notification (done ++ [.poll now (some reading) setClockSpeed])
      (m.poll now (some reading) setClockSpeed) := by
  have hreadings := readings_concat_some (a := .poll now (some reading) setClockSpeed) rfl done
  have hchanges : levelChanges (readings done ++ [reading]) = levelChanges (readings done) ++
      if m.monitor.curThermalLevel ≠ reading.state then
        [⟨m.monitor.curThermalLevel, reading.state, reading.currentTemp⟩] else [] := by
    rw [levelChanges, changes_concat, List.map_append, ← h.level]
    by_cases hsame : reading.state = m.monitor.curThermalLevel
    · simp [hsame, levelChanges]
    · simp [hsame, Ne.symm hsame, levelChanges, ThermalModeChange.ofReading]
  by_cases hsame : m.monitor.curThermalLevel ≠ reading.state
  · have hpoll : m.poll now (some reading) setClockSpeed = { m.dispatchThermalModeChangedEvent
        ⟨m.monitor.curThermalLevel, reading.state, reading.currentTemp⟩ with
        monitor := (m.monitor.pollThermalLevels now (some reading) setClockSpeed).2.2 } := by
      simp only [ThermalImplementation.poll, ThermalMonitor.pollThermalLevels, if_pos hsame]
    rw [hpoll]
    refine ⟨h.registered, h.nodup, ?_, ?_, ?_⟩
    · rw [hreadings, current_concat]
      rfl
    · rw [hreadings, current_concat]
      rfl
    · rw [hreadings, hchanges, if_pos hsame, ← h.calls]
      exact received_broadcast_of_mem h.nodup h.registered _ m.calls
  · have hpoll : m.poll now (some reading) setClockSpeed = { m with
        monitor := (m.monitor.pollThermalLevels now (some reading) setClockSpeed).2.2 } := by
      simp only [ThermalImplementation.poll, ThermalMonitor.pollThermalLevels, if_neg hsame]
    rw [hpoll]
    refine ⟨h.registered, h.nodup, ?_, ?_, ?_⟩
    · rw [hreadings, current_concat]
      rfl
    · rw [hreadings, current_concat]
      rfl
    · rw [hreadings, hchanges, if_neg hsame, List.append_nil, ← h.calls]
      rfl

theorem Informed.step (h : Informed notification done m) (ha : a ≠ .unregister notification)
    (hs : thermalLevelStep m a = some m') : Informed notification (done ++ [a]) m' := by
  cases a with
  | poll now reading setClockSpeed =>
      cases hs
      cases reading with
      | none => exact h.of_same rfl h.registered h.nodup rfl rfl rfl
      | some reading => exact h.poll now reading setClockSpeed
  | setOvertempGraceInterval graceInterval =>
      cases hs
      exact h.of_same rfl h.registered h.nodup rfl rfl rfl
  | register other =>
      cases hs
      unfold NotificationList.register
      by_cases hmem : other ∈ m.notifications.sinks
      · rw [if_pos hmem]
        exact h.of_same rfl h.registered h.nodup rfl rfl rfl
      · rw [if_neg hmem]
        refine h.of_same rfl (List.mem_append_left _ h.registered) ?_ rfl rfl rfl
        exact List.nodup_append.mpr ⟨h.nodup, List.nodup_singleton other, by
          rintro x hx y hy rfl
          rw [List.mem_singleton.mp hy] at hx
          exact hmem hx⟩
  | unregister other =>
      cases hs
      unfold NotificationList.unregister
      by_cases hmem : other ∈ m.notifications.sinks
      · rw [if_pos hmem]
        have hne : notification ≠ other := fun he => ha (by rw [he])
        exact h.of_same rfl ((List.mem_erase_of_ne hne).mpr h.registered)
          (h.nodup.erase other) rfl rfl rfl
      · rw [if_neg hmem]
        exact h.of_same rfl h.registered h.nodup rfl rfl rfl

/-- The object before the first poll. -/
def init (controller : ThermalController) (declocking : Declocking)
    (notifications : NotificationList) : ThermalImplementation where
  monitor := { controller := controller, declocking := declocking }
  notifications := notifications

theorem informed_run {controller : ThermalController} {declocking : Declocking}
    {notifications : NotificationList} (hmem : notification ∈ notifications.sinks)
    (hnodup : notifications.sinks.Nodup) (hstay : .unregister notification ∉ as)
    (hr : run thermalLevelStep (init controller declocking notifications) as = some m) :
    Informed notification as m := by
  have h₀ : Informed notification [] (init controller declocking notifications) :=
    ⟨hmem, hnodup, rfl, rfl, rfl⟩
  refine run_history_invariant (C := fun _ a => a ≠ .unregister notification)
    (I := fun done m => Informed notification done m) (fun _ _ _ _ h ha hs => h.step ha hs) h₀
    (along_of_forall fun a ha _ => ?_) hr
  exact ne_of_mem_of_not_mem ha hstay

end ThermalImplementation

end DeviceAndDisplay.PowerManager

namespace DeviceAndDisplay.SystemServices

open PowerManager Transition

/-- The level that a threshold event stands for. -/
def TemperatureThresholdChange.toldLevel (event : TemperatureThresholdChange) :
    ThermalTemperature :=
  if event.thresholdType = "MAX" then
    if event.exceeded then .critical else .high
  else
    if event.exceeded then .high else .normal

/-- Between known levels every change has an event, and it tells the new one. -/
theorem handleThermalLevelChange_eq {change : ThermalModeChange}
    (hcurrent : change.currentThermalLevel ≠ .unknown) (hnew : change.newThermalLevel ≠ .unknown)
    (hne : change.currentThermalLevel ≠ change.newThermalLevel) :
    ∃ event, handleThermalLevelChange change = some event ∧
      event.toldLevel = change.newThermalLevel ∧
      event.temperature = change.currentTemperature := by
  obtain ⟨old, new, temperature⟩ := change
  cases old <;> cases new <;> first
    | exact absurd rfl hcurrent
    | exact absurd rfl hnew
    | exact absurd rfl hne
    | exact ⟨_, rfl, rfl, rfl⟩

/-- No change between the known levels of a list of readings is lost. -/
theorem told_levelChanges {rs : List TemperatureReading} (hknown : ∀ r ∈ rs, r.state ≠ .unknown) :
    ((levelChanges rs).filterMap handleThermalLevelChange).map
        TemperatureThresholdChange.toldLevel =
      (levelChanges rs).map ThermalModeChange.newThermalLevel := by
  have hall : ∀ change ∈ levelChanges rs, ∃ event, handleThermalLevelChange change = some event ∧
      event.toldLevel = change.newThermalLevel := by
    intro change hchange
    obtain ⟨e, he, rfl⟩ := List.mem_map.mp hchange
    obtain ⟨before, after, rfl, hbefore, hne⟩ := exists_of_mem_changes he
    have hcurrent : e.1 ≠ .unknown := by
      rw [hbefore]
      rcases List.eq_nil_or_concat before with rfl | ⟨front, r, rfl⟩
      · exact ThermalTemperature.noConfusion
      · rw [List.concat_eq_append, current_concat]
        exact hknown r (by simp)
    obtain ⟨event, hevent, htold, _⟩ :=
      @handleThermalLevelChange_eq (.ofReading e) hcurrent (hknown e.2 (by simp)) (Ne.symm hne)
    exact ⟨event, hevent, htold⟩
  generalize levelChanges rs = cs at hall
  induction cs with
  | nil => rfl
  | cons change cs ih =>
      obtain ⟨event, hevent, htold⟩ := hall change List.mem_cons_self
      rw [List.filterMap_cons_some hevent, List.map_cons, List.map_cons, htold,
        ih fun c hc => hall c (List.mem_cons_of_mem change hc)]

end DeviceAndDisplay.SystemServices
