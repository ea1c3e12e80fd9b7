import DeviceAndDisplay.Model.FrameRate.Statistics
import DeviceAndDisplay.Transition.Run
import Mathlib.Algebra.Order.BigOperators.Group.List
import Mathlib.Algebra.Order.Ring.Int
import Mathlib.Order.Bounds.Basic

/-! # Reported statistics

The counters describe the values observed since the last start or report, except that the minimum
also counts the starting value 60, until a value is carried over. -/

namespace DeviceAndDisplay.FrameRate

open Transition

/-! ### Observations -/

/-- What was observed since the last start or report. -/
structure Observed where
  /-- The value carried over from the last report. -/
  carried : Option ℤ := none
  /-- The newest one first. -/
  updates : List ℤ := []
deriving DecidableEq, Repr

def Observed.values (o : Observed) : List ℤ := o.updates ++ o.carried.toList

/-- The statistics of the values. -/
structure Describes (event : FpsEvent) (values : List ℤ) : Prop where
  least : IsLeast {v | v ∈ values} event.min
  greatest : IsGreatest {v | v ∈ values} event.max
  average : event.average = values.sum / values.length
  ordered : event.min ≤ event.average ∧ event.average ≤ event.max

/-- A run with what was observed. -/
structure Watched where
  state : Implementation := {}
  observed : Observed := {}
deriving DecidableEq, Repr

def nextObserved (s : Watched) : FrameRateAction → Observed
  | .startFpsCollection => {}
  | .updateFps newFpsValue =>
      if newFpsValue < 0 then s.observed
      else { s.observed with updates := newFpsValue :: s.observed.updates }
  | .onReportFpsTimer =>
      { carried := if s.state.lastFpsValue ≥ 0 then some s.state.lastFpsValue else none }
  | .setCollectionFrequency _ | .stopFpsCollection => s.observed

def watchedStep (s : Watched) (a : FrameRateAction) : Option Watched :=
  (frameRateStep s.state a).map fun state => ⟨state, nextObserved s a⟩

/-- The action is defined, and an event it sends describes the values, if there are any. -/
structure Reports (s : Watched) (a : FrameRateAction) : Prop where
  defined : (watchedStep s a).isSome = true
  describes : ∀ event ∈ frameRateEvent s.state a, s.state.numberOfFpsUpdates > 0 →
    Describes event s.observed.values

/-- The minimum is not the one that the collection starts with. -/
def Observed.Bounded (o : Observed) : Prop :=
  o.values = [] ∨ o.carried.isSome = true ∨ ∃ v ∈ o.updates, v ≤ defaultMinFpsValue

/-- The condition on an action. -/
def Representable (s : Watched) : FrameRateAction → Prop
  | .updateFps newFpsValue => 0 ≤ newFpsValue →
      s.observed.values.sum + newFpsValue ≤ intMax ∧ s.observed.values.length + 1 ≤ intMax
  | .stopFpsCollection => s.state.fpsCollectionInProgress = true → s.observed.Bounded
  | .onReportFpsTimer => s.observed.Bounded
  | .setCollectionFrequency _ | .startFpsCollection => True

instance (o : Observed) : Decidable o.Bounded := inferInstanceAs (Decidable (_ ∨ _ ∨ _))

instance (s : Watched) : ∀ a, Decidable (Representable s a)
  | .updateFps _ => inferInstanceAs (Decidable (_ → _ ∧ _))
  | .stopFpsCollection => inferInstanceAs (Decidable (_ → _))
  | .onReportFpsTimer => inferInstanceAs (Decidable (Observed.Bounded _))
  | .setCollectionFrequency _ | .startFpsCollection => isTrue trivial

/-! ### The average -/

theorem length_pos {values : List ℤ} (hne : values ≠ []) : (0 : ℤ) < values.length := by
  have hlength := List.length_pos_iff.mpr hne
  omega

theorem le_average {m : ℤ} {values : List ℤ} (hne : values ≠ []) (h : ∀ v ∈ values, m ≤ v) :
    m ≤ values.sum / values.length := by
  rw [Int.le_ediv_iff_mul_le (length_pos hne), Int.mul_comm]
  simpa using values.card_nsmul_le_sum m h

theorem average_le {m : ℤ} {values : List ℤ} (hne : values ≠ []) (h : ∀ v ∈ values, v ≤ m) :
    values.sum / values.length ≤ m := by
  apply Int.ediv_le_of_le_mul (length_pos hne)
  rw [Int.mul_comm]
  simpa using values.sum_le_card_nsmul m h

/-! ### The counters -/

/-- The counters count the values; the extremes also the values that they start with, unless a value
is carried over. -/
structure Counts (s : Watched) : Prop where
  nonneg : ∀ v ∈ s.observed.values, 0 ≤ v
  number : s.state.numberOfFpsUpdates = s.observed.values.length
  total : s.state.totalFpsValues = s.observed.values.sum
  least : IsLeast {v | v ∈ s.observed.values ∨ s.observed.carried = none ∧ v = defaultMinFpsValue}
    s.state.minFpsValue
  greatest : IsGreatest
    {v | v ∈ s.observed.values ∨ s.observed.carried = none ∧ v = defaultMaxFpsValue}
    s.state.maxFpsValue

variable {s s' : Watched} {a : FrameRateAction}

theorem Counts.number_pos (h : Counts s) :
    s.state.numberOfFpsUpdates > 0 ↔ s.observed.values ≠ [] := by
  rw [h.number, gt_iff_lt, Int.natCast_pos, List.length_pos_iff]

/-- The greatest value is one of the values, since none is below the starting value. -/
theorem Counts.isGreatest (h : Counts s) (hne : s.observed.values ≠ []) :
    IsGreatest {v | v ∈ s.observed.values} s.state.maxFpsValue := by
  obtain ⟨v, hv⟩ := List.exists_mem_of_ne_nil _ hne
  refine ⟨?_, fun w hw => h.greatest.2 (.inl hw)⟩
  rcases h.greatest.1 with hmem | ⟨_, hstart⟩
  · exact hmem
  · have hle : v ≤ s.state.maxFpsValue := h.greatest.2 (.inl hv)
    have hnonneg := h.nonneg v hv
    rw [hstart, defaultMaxFpsValue] at hle
    omega

theorem Counts.isLeast_iff (h : Counts s) (hne : s.observed.values ≠ []) :
    IsLeast {v | v ∈ s.observed.values} s.state.minFpsValue ↔ s.observed.Bounded := by
  constructor
  · intro hleast
    cases hcarried : s.observed.carried with
    | some v => exact .inr (.inl (by simp [hcarried]))
    | none =>
        refine .inr (.inr ⟨s.state.minFpsValue, ?_, h.least.2 (.inr ⟨hcarried, rfl⟩)⟩)
        simpa [Observed.values, hcarried] using hleast.1
  · intro hbounded
    refine ⟨?_, fun w hw => h.least.2 (.inl hw)⟩
    rcases h.least.1 with hmem | ⟨hnone, hstart⟩
    · exact hmem
    · rcases hbounded with hnil | hcarried | ⟨v, hv, hle⟩
      · exact absurd hnil hne
      · simp [hnone] at hcarried
      · have hmem : v ∈ s.observed.values := List.mem_append_left _ hv
        have hmin : s.state.minFpsValue ≤ v := h.least.2 (.inl hmem)
        have heq : s.state.minFpsValue = v := by omega
        rw [heq]
        exact hmem

theorem Counts.average (h : Counts s) :
    s.state.totalFpsValues.tdiv s.state.numberOfFpsUpdates =
      s.observed.values.sum / s.observed.values.length := by
  have hnonneg : 0 ≤ s.state.totalFpsValues := by
    rw [h.total]
    exact List.sum_nonneg h.nonneg
  rw [Int.tdiv_eq_ediv_of_nonneg hnonneg, h.number, h.total]

/-- The reported statistics are those of the values exactly if the minimum is. -/
theorem Counts.describes_iff (h : Counts s) (hne : s.observed.values ≠ []) :
    Describes ⟨s.state.totalFpsValues.tdiv s.state.numberOfFpsUpdates, s.state.minFpsValue,
      s.state.maxFpsValue⟩ s.observed.values ↔ s.observed.Bounded := by
  rw [← h.isLeast_iff hne]
  constructor
  · intro hdescribes
    exact hdescribes.least
  · intro hleast
    have hgreatest := h.isGreatest hne
    refine ⟨hleast, hgreatest, h.average, ?_, ?_⟩
    · rw [h.average]
      exact le_average hne fun v hv => hleast.2 hv
    · rw [h.average]
      exact average_le hne fun v hv => hgreatest.2 hv

/-! ### Steps -/

/-- Counters at their starting values, with nothing observed. -/
theorem counts_of_start {state : Implementation} (hmin : state.minFpsValue = defaultMinFpsValue)
    (hmax : state.maxFpsValue = defaultMaxFpsValue) (htotal : state.totalFpsValues = 0)
    (hnumber : state.numberOfFpsUpdates = 0) : Counts ⟨state, {}⟩ := by
  constructor
  · simp [Observed.values]
  · simp [Observed.values, hnumber]
  · simp [Observed.values, htotal]
  · simp [Observed.values, IsLeast, lowerBounds, hmin]
  · simp [Observed.values, IsGreatest, upperBounds, hmax]

theorem counts_of_carried {state : Implementation} {v : ℤ} (hv : 0 ≤ v)
    (hmin : state.minFpsValue = v) (hmax : state.maxFpsValue = v)
    (htotal : state.totalFpsValues = v) (hnumber : state.numberOfFpsUpdates = 1) :
    Counts ⟨state, { carried := some v }⟩ := by
  constructor
  · simp [Observed.values, hv]
  · simp [Observed.values, hnumber]
  · simp [Observed.values, htotal]
  · simp [Observed.values, hmin]
  · simp [Observed.values, hmax]

theorem addInt_eq_some {a b c : ℤ} (h : addInt a b = some c) : c = a + b :=
  (Option.some.inj (Option.ite_none_right_eq_some.mp h).2).symm

theorem insert_values (v start : ℤ) (o : Observed) :
    {w | w ∈ ({ o with updates := v :: o.updates } : Observed).values ∨
        o.carried = none ∧ w = start} =
      insert v {w | w ∈ o.values ∨ o.carried = none ∧ w = start} := by
  ext w
  simp [Observed.values, or_assoc]

theorem counts_update (h : Counts s) {v total number : ℤ} (hv : 0 ≤ v)
    (htotal : addInt s.state.totalFpsValues v = some total)
    (hnumber : addInt s.state.numberOfFpsUpdates 1 = some number) :
    Counts ⟨{ s.state with
        maxFpsValue := max s.state.maxFpsValue v
        minFpsValue := min s.state.minFpsValue v
        totalFpsValues := total
        numberOfFpsUpdates := number
        lastFpsValue := v },
      { s.observed with updates := v :: s.observed.updates }⟩ := by
  constructor
  · intro w hw
    rcases List.mem_cons.mp hw with rfl | hw
    · exact hv
    · exact h.nonneg w hw
  · have heq := addInt_eq_some hnumber
    rw [h.number] at heq
    simp only [heq, Observed.values, List.cons_append, List.length_cons]
    push_cast
    rfl
  · have heq := addInt_eq_some htotal
    rw [h.total] at heq
    simp only [heq, Observed.values, List.cons_append, List.sum_cons]
    exact Int.add_comm _ _
  · rw [insert_values, min_comm]
    exact h.least.insert v
  · rw [insert_values, max_comm]
    exact h.greatest.insert v

theorem counts_step (h : Counts s) (hstep : watchedStep s a = some s') : Counts s' := by
  obtain ⟨state, hstate, rfl⟩ := Option.map_eq_some_iff.mp hstep
  cases a with
  | setCollectionFrequency frequency =>
      cases hstate
      unfold Implementation.setCollectionFrequency
      split
      · exact h
      · exact ⟨h.nonneg, h.number, h.total, h.least, h.greatest⟩
  | startFpsCollection =>
      cases hstate
      exact counts_of_start rfl rfl rfl rfl
  | stopFpsCollection =>
      cases hstate
      exact ⟨h.nonneg, h.number, h.total, h.least, h.greatest⟩
  | updateFps v =>
      obtain ⟨result, hresult, rfl⟩ := Option.map_eq_some_iff.mp hstate
      unfold Implementation.updateFps at hresult
      unfold nextObserved
      split at hresult
      · next hneg =>
          cases hresult
          simpa [hneg] using h
      · next hnonneg =>
          obtain ⟨total, htotal, hrest⟩ := Option.bind_eq_some_iff.mp hresult
          obtain ⟨number, hnumber, rfl⟩ := Option.map_eq_some_iff.mp hrest
          simpa [hnonneg] using counts_update h (Int.not_lt.mp hnonneg) htotal hnumber
  | onReportFpsTimer =>
      cases hstate
      unfold Implementation.onReportFpsTimer nextObserved
      split
      · next hlast => exact counts_of_carried hlast rfl rfl rfl rfl
      · exact counts_of_start rfl rfl rfl rfl

theorem addInt_isSome {a b : ℤ} (ha : 0 ≤ a) (hb : 0 ≤ b) :
    (addInt a b).isSome = true ↔ a + b ≤ intMax := by
  have hlow : -intMax - 1 ≤ a + b := by
    simp only [intMax]
    omega
  by_cases h : a + b ≤ intMax
  · simp [addInt, hlow, h]
  · simp [addInt, h]

theorem updateFps_isSome (h : Counts s) {v : ℤ} (hv : 0 ≤ v) :
    (s.state.updateFps v).isSome = true ↔
      s.observed.values.sum + v ≤ intMax ∧ s.observed.values.length + 1 ≤ intMax := by
  have htotal : 0 ≤ s.state.totalFpsValues := by
    rw [h.total]
    exact List.sum_nonneg h.nonneg
  have hnumber : 0 ≤ s.state.numberOfFpsUpdates := by
    rw [h.number]
    exact Int.natCast_nonneg _
  rw [← h.total, ← h.number, ← addInt_isSome htotal hv, ← addInt_isSome hnumber (by decide),
    Implementation.updateFps, if_neg (Int.not_lt.mpr hv)]
  cases addInt s.state.totalFpsValues v <;> simp

/-- An event of the counters is right exactly if the values are bounded. -/
theorem describes_event_iff (h : Counts s) :
    (s.state.numberOfFpsUpdates > 0 → Describes
      ⟨s.state.totalFpsValues.tdiv s.state.numberOfFpsUpdates, s.state.minFpsValue,
        s.state.maxFpsValue⟩ s.observed.values) ↔ s.observed.Bounded := by
  rw [h.number_pos]
  constructor
  · intro hdescribes
    by_cases hne : s.observed.values = []
    · exact .inl hne
    · exact (h.describes_iff hne).mp (hdescribes hne)
  · intro hbounded hne
    exact (h.describes_iff hne).mpr hbounded

/-- An action reports the statistics of the values exactly if it meets the condition. -/
theorem reports_iff (h : Counts s) : Reports s a ↔ Representable s a := by
  cases a with
  | setCollectionFrequency frequency => exact iff_of_true ⟨rfl, by simp [frameRateEvent]⟩ trivial
  | startFpsCollection => exact iff_of_true ⟨rfl, by simp [frameRateEvent]⟩ trivial
  | stopFpsCollection =>
      rw [Representable, ← describes_event_iff h]
      constructor
      · intro hreports hprogress hpos
        refine hreports.describes _ ?_ hpos
        simp only [frameRateEvent, Implementation.stopFpsEvent, if_pos (And.intro hprogress hpos)]
        rfl
      · intro hdescribes
        refine ⟨rfl, fun event hevent hpos => ?_⟩
        obtain ⟨⟨hprogress, _⟩, heq⟩ := Option.ite_none_right_eq_some.mp hevent
        cases heq
        exact hdescribes hprogress hpos
  | updateFps v =>
      constructor
      · intro hreports hv
        have hdefined := hreports.defined
        simp only [watchedStep, frameRateStep, Option.isSome_map] at hdefined
        exact (updateFps_isSome h hv).mp hdefined
      · intro hrepresentable
        refine ⟨?_, by simp [frameRateEvent]⟩
        simp only [watchedStep, frameRateStep, Option.isSome_map]
        by_cases hv : v < 0
        · simp [Implementation.updateFps, hv]
        · have hv := Int.not_lt.mp hv
          exact (updateFps_isSome h hv).mpr (hrepresentable hv)
  | onReportFpsTimer =>
      rw [Representable, ← describes_event_iff h]
      constructor
      · intro hreports hpos
        have hdescribes := hreports.describes _ rfl hpos
        rwa [Implementation.reportFpsEvent, if_pos hpos] at hdescribes
      · intro hdescribes
        refine ⟨rfl, fun event hevent hpos => ?_⟩
        cases hevent
        rw [Implementation.reportFpsEvent, if_pos hpos]
        exact hdescribes hpos

/-! ### Runs -/

/-- All actions of a run report the statistics of the values exactly if they all meet the
condition. -/
theorem fps_statistics_iff (as : List FrameRateAction) :
    Along watchedStep Reports {} as ↔ Along watchedStep Representable {} as := by
  refine along_iff_along (I := Counts) ?_ ?_ ?_ as
  · intro s a s' h _ hstep
    exact counts_step h hstep
  · intro s a h
    exact reports_iff h
  · exact counts_of_start rfl rfl rfl rfl

/-- Two frame rates above 60; the reported minimum is 60. -/
theorem fps_minimum_not_observed :
    ¬ Along watchedStep Reports {}
      [.startFpsCollection, .updateFps 90, .updateFps 100, .onReportFpsTimer] := by
  intro h
  have hreports := (((h.2 _ rfl).2 _ rfl).2 _ rfl).1
  have hmem : (60 : ℤ) ∈ [100, 90] := (hreports.describes _ rfl (by decide)).least.1
  exact absurd hmem (by decide)

/-- A total that is no `int`. -/
example : ¬ Along watchedStep Representable {}
    [.startFpsCollection, .updateFps 60, .updateFps 2000000000, .updateFps 2000000000] := by
  decide

end DeviceAndDisplay.FrameRate
