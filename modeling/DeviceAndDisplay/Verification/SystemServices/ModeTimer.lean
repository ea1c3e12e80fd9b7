import DeviceAndDisplay.Model.SystemServices.ModeTimer
import DeviceAndDisplay.Verification.SystemServices.OperatingMode

/-! # One timer thread at a time

The timer is safe as long as it is started only when its last thread is detached and has returned:
nothing joins a thread, and `stop` only raises a flag that `start` lowers. -/

namespace DeviceAndDisplay.SystemServices

open Helpers Transition

variable {τ J : Type*} {T : TimerOperations τ} {O : JsonObject J}

/-! ### What becomes of the timer -/

/-- The call starts the timer. -/
def StartsTimer (duration : ℤ) (newMode : Text) : Prop :=
  (newMode = modeWarehouse ∨ newMode = modeEas) ∧ 0 < duration

instance (duration : ℤ) (newMode : Text) : Decidable (StartsTimer duration newMode) :=
  inferInstanceAs (Decidable (_ ∧ _))

theorem startsTimer_iff {duration : ℤ} {newMode : Text} :
    StartsTimer duration newMode ↔ ValidMode newMode ∧ newMode ≠ modeNormal ∧ 0 < duration := by
  constructor
  · rintro ⟨rfl | rfl, h⟩
    · exact ⟨.inr (.inl rfl), by decide, h⟩
    · exact ⟨.inr (.inr rfl), by decide, h⟩
  · rintro ⟨hmode, hne, h⟩
    exact ⟨hmode.resolve_left hne, h⟩

namespace OperatingMode

@[simp] theorem updateWarehouseFile_timer (s : OperatingMode τ J) (io : ModeIo) :
    (s.updateWarehouseFile io).operatingModeTimer = s.operatingModeTimer := by
  unfold updateWarehouseFile
  split <;> rfl

theorem changeMode_timer (s : OperatingMode τ J) {io : ModeIo} (h : io.iarm = true) :
    (s.changeMode T O io).operatingModeTimer = s.operatingModeTimer := by
  simp [changeMode, setSetting, h]

/-- A call starts the timer, or it stops the timer or leaves it alone. -/
theorem setMode_timer (s : OperatingMode τ J) {io : ModeIo} (h : io.iarm = true) (duration : ℤ)
    (newMode : Text) {timer : τ}
    (ht : (s.setMode T O io
      (some { duration := some duration, mode := some newMode })).2.operatingModeTimer = timer) :
    StartsTimer duration newMode ∧ timer = T.start s.operatingModeTimer ∨
    ¬ StartsTimer duration newMode ∧
      (timer = s.operatingModeTimer ∨ timer = T.stop s.operatingModeTimer) := by
  have hspec := setMode_spec (T := T) (O := O) s io duration newMode
  rw [← ht, startsTimer_iff]
  generalize s.setMode T O io (some { duration := some duration, mode := some newMode }) = result
    at hspec
  cases hspec with
  | rejects hmode => exact .inr ⟨fun hstarts => hmode hstarts.1, .inl rfl⟩
  | keeps hmode _ hnormal =>
      right
      refine ⟨?_, .inl rfl⟩
      rintro ⟨_, hne, hpos⟩
      rcases hnormal with hzero | hnormal
      · omega
      · exact hne hnormal
  | stays hmode hne hduration =>
      right
      refine ⟨fun hstarts => ?_, .inr (changeMode_timer _ h)⟩
      have hpos := hstarts.2.2
      omega
  | lasts hmode hne hduration => exact .inl ⟨⟨hmode, hne, hduration⟩, changeMode_timer _ h⟩
  | ends hmode hnormal =>
      right
      refine ⟨?_, .inr (changeMode_timer _ h)⟩
      rintro ⟨_, hne, hpos⟩
      rcases hnormal with hzero | hnormal
      · omega
      · exact hne hnormal

/-- The callback leaves the timer alone, or it stops and detaches it. -/
theorem updateDuration_timer (s : OperatingMode τ J) {io : ModeIo} (h : io.iarm = true) {timer : τ}
    (ht : (s.updateDuration T O io).operatingModeTimer = timer) :
    timer = s.operatingModeTimer ∨ timer = T.detach (T.stop s.operatingModeTimer) ∨
      timer = T.stop (T.detach (T.stop s.operatingModeTimer)) := by
  rw [← ht]
  simp only [updateDuration, setSetting]
  split
  · exact .inl rfl
  · rcases setMode_timer (T := T) (O := O)
      { s with operatingModeTimer := T.detach (T.stop s.operatingModeTimer) } h 0 modeNormal rfl
      with hstarts | hnot
    · exact absurd hstarts.1.2 (by omega)
    · exact .inr hnot.2

end OperatingMode

namespace CTimer

variable {timer : CTimer} {i j : ℕ}

def Live (timer : CTimer) (i : ℕ) : Prop := (timer.threads i).point ≠ .returned

/-- Nothing but the flag could keep the thread from the callback. -/
def CanReach (timer : CTimer) (i : ℕ) : Prop :=
  (timer.threads i).point = .callback ∨ timer.Live i ∧ timer.clear = false

instance (timer : CTimer) (i : ℕ) : Decidable (timer.Live i) :=
  inferInstanceAs (Decidable (_ ≠ _))

instance (timer : CTimer) (i : ℕ) : Decidable (timer.CanReach i) :=
  inferInstanceAs (Decidable (_ ∨ _))

structure Safe (timer : CTimer) : Prop where
  overwritten : timer.overwritten = false
  detachFailed : timer.detachFailed = false
  one : ∀ i j, timer.CanReach i → timer.CanReach j → i = j
  /-- There was no callback since a thread that makes one fell asleep. -/
  interval : ∀ i, (timer.threads i).point = .callback → (timer.threads i).sleptAt = timer.callbacks

/-- The last thread was detached, and all have returned. -/
def Finished (timer : CTimer) : Prop :=
  timer.timerThread = none ∧ ∀ i < timer.started, (timer.threads i).point = .returned

instance (timer : CTimer) : Decidable timer.Finished := inferInstanceAs (Decidable (_ ∧ _))

/-! ### The invariant -/

/-- A thread is detached, or else past the flag, only at the end of its last round. -/
structure Tidy (timer : CTimer) : Prop where
  set : timer.hasCallback = true
  overwritten : timer.overwritten = false
  detachFailed : timer.detachFailed = false
  returned : ∀ i, timer.started ≤ i → ¬ timer.Live i
  alone : ∀ i j, timer.Live i → timer.Live j → i = j
  held : ∀ i, timer.Live i → timer.timerThread = none →
    (timer.threads i).point = .firstTest ∧ timer.clear = true
  slept : ∀ i, timer.Live i → (timer.threads i).point ≠ .firstTest →
    (timer.threads i).sleptAt = timer.callbacks

theorem CanReach.live (h : timer.CanReach i) : timer.Live i := by
  rcases h with h | h
  · simp [Live, h]
  · exact h.1

theorem Tidy.safe (h : timer.Tidy) : timer.Safe where
  overwritten := h.overwritten
  detachFailed := h.detachFailed
  one i j hi hj := h.alone i j hi.live hj.live
  interval i hi := h.slept i (by simp [Live, hi]) (by simp [hi])

theorem tidy_stop (h : timer.Tidy) : timer.stop.Tidy where
  set := h.set
  overwritten := h.overwritten
  detachFailed := h.detachFailed
  returned := h.returned
  alone := h.alone
  held i hi hnone := ⟨(h.held i hi hnone).1, rfl⟩
  slept := h.slept

theorem not_live_of_finished (h : timer.Tidy) (hf : timer.Finished) (i : ℕ) : ¬ timer.Live i := by
  rcases Nat.lt_or_ge i timer.started with hi | hi
  · exact fun hlive => hlive (hf.2 i hi)
  · exact h.returned i hi

theorem start_eq (h : timer.hasCallback = true) (hnone : timer.timerThread = none) :
    timer.start = { timer with
      clear := false
      timerThread := some timer.started
      started := timer.started + 1
      threads := Function.update timer.threads timer.started { point := .firstTest } } := by
  simp [start, h, hnone]

theorem tidy_start (h : timer.Tidy) (hf : timer.Finished) : timer.start.Tidy := by
  rw [start_eq h.set hf.1]
  have hlive : ∀ i, (Function.update timer.threads timer.started { point := .firstTest } i).point ≠
      .returned → i = timer.started := by
    intro i hi
    by_contra hne
    rw [Function.update_of_ne hne] at hi
    exact not_live_of_finished h hf i hi
  constructor
  · exact h.set
  · exact h.overwritten
  · exact h.detachFailed
  · intro i hi hl
    have hi : timer.started + 1 ≤ i := hi
    have heq := hlive i hl
    omega
  · intro i j hi hj
    rw [hlive i hi, hlive j hj]
  · intro i _ hnone
    cases hnone
  · intro i hi hpoint
    have heq := hlive i hi
    rw [heq] at hpoint
    simp at hpoint

/-- A timer that is started in any other situation is not safe. -/
theorem finished_of_safe_start (h : timer.Tidy) (hs : timer.start.Safe) : timer.Finished := by
  cases hthread : timer.timerThread with
  | some k =>
      have hover := hs.overwritten
      simp [start, h.set, hthread] at hover
  | none =>
      refine ⟨hthread, fun i hi => ?_⟩
      by_contra hlive
      have hne : i ≠ timer.started := Nat.ne_of_lt hi
      have hone := hs.one i timer.started
      rw [start_eq h.set hthread] at hone
      refine hne (hone (.inr ⟨?_, rfl⟩) (.inr ⟨?_, rfl⟩))
      · simpa [Live, hne] using hlive
      · simp [Live]

/-! ### Threads -/

/-- A live thread moves. -/
theorem tidy_update (h : timer.Tidy) (hi : timer.Live i) (thread : TimerThread)
    (timerThread : Option ℕ) (clear : Bool) (callbacks : ℕ)
    (hheld : thread.point ≠ .returned → timerThread = none →
      thread.point = .firstTest ∧ clear = true)
    (hslept : thread.point ≠ .returned → thread.point ≠ .firstTest →
      thread.sleptAt = callbacks) :
    Tidy { timer with
      threads := Function.update timer.threads i thread
      timerThread := timerThread
      clear := clear
      callbacks := callbacks } := by
  have hlive : ∀ k, (Function.update timer.threads i thread k).point ≠ .returned →
      k = i ∧ thread.point ≠ .returned := by
    intro k hk
    rcases eq_or_ne k i with rfl | hne
    · rw [Function.update_self] at hk
      exact ⟨rfl, hk⟩
    · rw [Function.update_of_ne hne] at hk
      exact absurd (h.alone k i hk hi) hne
  constructor
  · exact h.set
  · exact h.overwritten
  · exact h.detachFailed
  · intro k hk hl
    rw [(hlive k hl).1] at hk
    exact h.returned i hk hi
  · intro k l hk hl
    rw [(hlive k hk).1, (hlive l hl).1]
  · intro k hk hnone
    obtain ⟨rfl, hpoint⟩ := hlive k hk
    simpa using hheld hpoint hnone
  · intro k hk hfirst
    obtain ⟨rfl, hpoint⟩ := hlive k hk
    simp only [Function.update_self] at hfirst ⊢
    exact hslept hpoint hfirst

theorem tidy_threadStep (h : timer.Tidy) (hi : timer.Live i) : (timer.threadStep i).Tidy := by
  have hheld := h.held i hi
  have hslept := h.slept i hi
  unfold threadStep
  cases hpoint : (timer.threads i).point with
  | firstTest =>
      cases hclear : timer.clear with
      | true => exact tidy_update h hi _ _ _ _ (by simp) (by simp)
      | false =>
          refine tidy_update h hi _ _ _ _ ?_ (by simp)
          intro _ hnone
          rw [hclear] at hheld
          cases (hheld hnone).2
  | sleeping =>
      rw [hpoint] at hheld hslept
      refine tidy_update h hi _ _ _ _ ?_ ?_
      · intro _ hnone
        cases (hheld hnone).1
      · intro _ _
        exact hslept (by simp)
  | secondTest =>
      rw [hpoint] at hheld hslept
      cases hclear : timer.clear with
      | true => exact tidy_update h hi _ _ _ _ (by simp) (by simp)
      | false =>
          refine tidy_update h hi _ _ _ _ ?_ ?_
          · intro _ hnone
            cases (hheld hnone).1
          · intro _ _
            exact hslept (by simp)
  | callback => exact h
  | returned => exact h

/-- A callback that leaves the timer as it is. -/
theorem tidy_afterCallback (h : timer.Tidy) (hi : (timer.threads i).point = .callback) :
    (timer.afterCallback i).Tidy := by
  have hlive : timer.Live i := by simp [Live, hi]
  refine tidy_update h hlive _ _ _ _ ?_ (by simp)
  intro _ hnone
  have hfirst := (h.held i hlive hnone).1
  rw [hi] at hfirst
  cases hfirst

theorem detach_stop_eq (h : timer.Tidy) (hi : (timer.threads i).point = .callback) :
    timer.stop.detach = { timer with clear := true, timerThread := none } := by
  have hlive : timer.Live i := by simp [Live, hi]
  cases hthread : timer.timerThread with
  | some k => simp [detach, stop, hthread]
  | none =>
      have hfirst := (h.held i hlive hthread).1
      rw [hi] at hfirst
      cases hfirst

/-- A callback that stops and detaches its own thread. -/
theorem tidy_afterCallback_detach (h : timer.Tidy) (hi : (timer.threads i).point = .callback) :
    (timer.stop.detach.afterCallback i).Tidy := by
  rw [detach_stop_eq h hi]
  exact tidy_update h (by simp [Live, hi]) _ _ _ _ (fun _ _ => ⟨rfl, rfl⟩) (by simp)

end CTimer

/-! ### Runs -/

namespace OperatingMode

variable {s s' : OperatingMode CTimer J} {a : ModeTimerAction}

/-- The condition on a step. -/
def StartsFinished (s : OperatingMode CTimer J) : ModeTimerAction → Prop
  | .setMode duration newMode =>
      StartsTimer duration newMode → s.operatingModeTimer.Finished
  | .thread _ => True

instance (s : OperatingMode CTimer J) : ∀ a, Decidable (s.StartsFinished a)
  | .setMode _ _ => inferInstanceAs (Decidable (_ → _))
  | .thread _ => isTrue trivial

theorem tidy_callback {i : ℕ} (h : s.operatingModeTimer.Tidy)
    (hi : (s.operatingModeTimer.threads i).point = .callback) :
    (((s.updateDuration cTimer O {}).onTimer
      (CTimer.afterCallback i)).operatingModeTimer).Tidy := by
  simp only [onTimer]
  have hio : ({} : ModeIo).iarm = true := rfl
  have htimer := updateDuration_timer (T := cTimer) (O := O) s hio rfl
  rcases htimer with heq | heq | heq
  · rw [heq]
    exact CTimer.tidy_afterCallback h hi
  · rw [heq]
    exact CTimer.tidy_afterCallback_detach h hi
  · have hstop : s.operatingModeTimer.stop.detach.stop = s.operatingModeTimer.stop.detach := by
      rw [CTimer.detach_stop_eq h hi]
      rfl
    have htidy := CTimer.tidy_afterCallback_detach h hi
    rw [← hstop] at htidy
    rw [heq]
    exact htidy

theorem tidy_step (h : s.operatingModeTimer.Tidy) (hC : s.StartsFinished a)
    (hstep : modeTimerStep O s a = some s') : s'.operatingModeTimer.Tidy := by
  cases a with
  | setMode duration newMode =>
      have hs' := Option.some.inj (Option.ite_none_left_eq_some.mp hstep).2
      rw [← hs']
      have hio : ({} : ModeIo).iarm = true := rfl
      rcases setMode_timer (T := cTimer) (O := O) s hio duration newMode rfl
        with ⟨hstarts, heq⟩ | ⟨_, heq | heq⟩
      · rw [heq]
        exact CTimer.tidy_start h (hC hstarts)
      · rw [heq]
        exact h
      · rw [heq]
        exact CTimer.tidy_stop h
  | thread i =>
      have hs' := (Option.ite_none_left_eq_some.mp hstep).2
      cases hpoint : (s.operatingModeTimer.threads i).point with
      | returned => simp [hpoint] at hs'
      | callback =>
          simp only [hpoint] at hs'
          cases hs'
          exact tidy_callback h hpoint
      | firstTest | sleeping | secondTest =>
          simp only [hpoint] at hs'
          cases hs'
          exact CTimer.tidy_threadStep h (by simp [CTimer.Live, hpoint])

theorem startsFinished_of_safe (h : s.operatingModeTimer.Tidy)
    (hsafe : s'.operatingModeTimer.Safe) (hstep : modeTimerStep O s a = some s') :
    s.StartsFinished a := by
  cases a with
  | setMode duration newMode =>
      intro hstarts
      have hs' := Option.some.inj (Option.ite_none_left_eq_some.mp hstep).2
      rw [← hs'] at hsafe
      have hio : ({} : ModeIo).iarm = true := rfl
      rcases setMode_timer (T := cTimer) (O := O) s hio duration newMode rfl
        with ⟨_, heq⟩ | ⟨hnot, _⟩
      · rw [heq] at hsafe
        exact CTimer.finished_of_safe_start h hsafe
      · exact absurd hstarts hnot
  | thread i => trivial

/-- A process that has set the interval of the timer. -/
def modeTimerStart (O : JsonObject J) (file : Option Text) (warehouseModeFile : Bool) :
    OperatingMode CTimer J :=
  .processStart O (CTimer.setInterval 1000 {}) {} file warehouseModeFile

theorem tidy_modeTimerStart (file : Option Text) (warehouseModeFile : Bool) :
    (modeTimerStart O file warehouseModeFile).operatingModeTimer.Tidy := by
  constructor <;> simp [modeTimerStart, processStart, CTimer.setInterval, CTimer.Live]

/-- The timer is safe throughout a run exactly if it is only started when it is finished. -/
theorem mode_timer_safe_iff (file : Option Text) (warehouseModeFile : Bool)
    {as : List ModeTimerAction}
    (hr : run (modeTimerStep O) (modeTimerStart O file warehouseModeFile) as = some s) :
    (∀ bs u, bs <+: as →
      run (modeTimerStep O) (modeTimerStart O file warehouseModeFile) bs = some u →
        u.operatingModeTimer.Safe) ↔
      Along (modeTimerStep O) StartsFinished (modeTimerStart O file warehouseModeFile) as := by
  refine throughout_iff_along (I := fun s => s.operatingModeTimer.Tidy)
    (P := fun s => s.operatingModeTimer.Safe) ?_ ?_ ?_
    (tidy_modeTimerStart file warehouseModeFile) hr
  · intro s a t h hC hstep
    exact tidy_step h hC hstep
  · intro s h
    exact h.safe
  · intro s a t h hstep hsafe
    exact startsFinished_of_safe h hsafe hstep

/-- A mode of one tick, and another one when its thread has returned. -/
theorem mode_timer_safe_sequence :
    ∃ s, run (modeTimerStep Settings.assocObject) (modeTimerStart Settings.assocObject none false)
        (.setMode 1 modeEas :: List.replicate 9 (.thread 0) ++ [.setMode 2 modeEas]) = some s ∧
      s.operatingModeTimer.Safe := by
  have hr : run (modeTimerStep Settings.assocObject)
      (modeTimerStart Settings.assocObject none false)
      (.setMode 1 modeEas :: List.replicate 9 (.thread 0) ++ [.setMode 2 modeEas]) = some _ := rfl
  refine ⟨_, hr, (mode_timer_safe_iff none false hr).mpr ?_ _ _ List.prefix_rfl hr⟩
  decide

/-- A mode that is set while the timer of the last one runs. -/
theorem mode_timer_overwritten :
    ∃ s, run (modeTimerStep Settings.assocObject) (modeTimerStart Settings.assocObject none false)
        [.setMode 10 modeEas, .setMode 20 modeEas] = some s ∧ ¬ s.operatingModeTimer.Safe := by
  refine ⟨_, rfl, fun h => ?_⟩
  exact absurd h.overwritten (by decide)

/-- A mode that is set between the last callback of a thread and its test of the flag. -/
example : ∃ s, run (modeTimerStep Settings.assocObject)
    (modeTimerStart Settings.assocObject none false)
    (.setMode 1 modeEas :: List.replicate 8 (.thread 0) ++ [.setMode 2 modeEas]) = some s ∧
    s.operatingModeTimer.terminated = false ∧
    s.operatingModeTimer.CanReach 0 ∧ s.operatingModeTimer.CanReach 1 := by
  exact ⟨_, rfl, rfl, by decide, by decide⟩

end OperatingMode

end DeviceAndDisplay.SystemServices
