import DeviceAndDisplay.Model.PowerManager.ClockSpeeds
import DeviceAndDisplay.Storage.Selection
import DeviceAndDisplay.Transition.Run
import DeviceAndDisplay.Verification.PowerManager.Declocking

/-! # Hot polls lower the clock speed

If no speed is configured, the three speeds of the declocking are the lowest, the middle and the
highest frequency that the kernel lists, in whatever order it lists them. Every poll of every run
then asks for a listed frequency, and a hot one never for a higher one. -/

namespace DeviceAndDisplay.PowerManager

open Storage Transition

/-! ### The list of the kernel -/

/-- Numerals with blanks around them. -/
inductive Lists : List UInt32 → List Char → Prop
  | nil {text : List Char} (hblank : ∀ c ∈ text, isSpace c = true) : Lists [] text
  | cons {frequency : UInt32} {frequencies : List UInt32} {pad rest : List Char}
      (hpad : ∀ c ∈ pad, isSpace c = true) (hrest : ∀ c ∈ rest.head?, c.isDigit = false)
      (htail : Lists frequencies rest) :
      Lists (frequency :: frequencies) (pad ++ (decimal frequency.toNat ++ rest))

theorem readFrequencies_of_lists {frequencies : List UInt32} {text : List Char}
    (h : Lists frequencies text) (room : ℕ) :
    readFrequencies room text = frequencies.take room := by
  induction h generalizing room with
  | nil hblank =>
      cases room with
      | zero => rfl
      | succ room => rw [readFrequencies, scanUnsigned_of_blank hblank, List.take_nil]
  | cons hpad hrest _ ih =>
      cases room with
      | zero => rfl
      | succ room =>
          rw [readFrequencies, scanUnsigned_decimal _ hpad hrest, List.take_succ_cons]
          exact congrArg _ (ih room)

/-! ### The speeds chosen from it -/

theorem uint32Compare_nonpos_iff {l r : UInt32} : uint32Compare l r ≤ 0 ↔ l ≤ r := by
  unfold uint32Compare
  by_cases heq : l = r
  · simp [heq]
  · by_cases hlt : l < r
    · simp [heq, hlt, UInt32.le_of_lt hlt]
    · have hle : ¬ l ≤ r := fun h => hlt (UInt32.lt_of_le_of_ne h heq)
      simp [heq, hlt, hle]

instance : Std.Total fun l r : UInt32 => uint32Compare l r ≤ 0 where
  total l r := by
    simp only [uint32Compare_nonpos_iff]
    exact UInt32.le_total l r

instance : IsTrans UInt32 fun l r => uint32Compare l r ≤ 0 where
  trans l m r := by
    simp only [uint32Compare_nonpos_iff]
    exact UInt32.le_trans

/-- The speeds are the lowest, the middle and the highest of the frequencies. -/
structure CpuSpeeds.Spans (speeds : CpuSpeeds) (frequencies : List UInt32) : Prop where
  normal_mem : speeds.normal ∈ frequencies
  scaled_mem : speeds.scaled ∈ frequencies
  minimal_mem : speeds.minimal ∈ frequencies
  le_normal : ∀ frequency ∈ frequencies, frequency ≤ speeds.normal
  minimal_le : ∀ frequency ∈ frequencies, speeds.minimal ≤ frequency
  below : 2 * frequencies.countP (· < speeds.scaled) ≤ frequencies.length
  above : 2 * frequencies.countP (speeds.scaled < ·) ≤ frequencies.length

theorem sortedFrequencies_pairwise (text : List Char) :
    (sortedFrequencies text).Pairwise (· ≤ ·) := by
  apply (List.pairwise_insertionSort (fun l r => uint32Compare l r ≤ 0) _).imp
  intro l r h
  exact uint32Compare_nonpos_iff.mp h

theorem sortedFrequencies_perm (text : List Char) :
    (sortedFrequencies text).Perm (readFrequencies 32 text) :=
  List.perm_insertionSort _ _

/-- The entries of a sorted array that `DetemineClockSpeeds` picks. -/
theorem spans_of_sorted {sorted frequencies : List UInt32} (h : sorted.Pairwise (· ≤ ·))
    (hperm : sorted.Perm frequencies) (hne : frequencies ≠ []) :
    CpuSpeeds.Spans {
      normal := sorted.getD (sorted.length - 1) 0
      scaled := sorted.getD (sorted.length / 2) 0
      minimal := sorted.getD 0 0 } frequencies := by
  have hlength := hperm.length_eq
  have hpos : 0 < sorted.length := by
    rw [hlength]
    exact List.length_pos_iff.mpr hne
  have hget : ∀ k, k < sorted.length → sorted[k]? = some (sorted.getD k 0) := by
    intro k hk
    rw [List.getD_eq_getElem?_getD, List.getElem?_eq_getElem hk]
    rfl
  have hmem : ∀ k, k < sorted.length → sorted.getD k 0 ∈ frequencies := by
    intro k hk
    exact hperm.mem_iff.mp (List.mem_of_getElem? (hget k hk))
  have hbefore : ∀ k, k < sorted.length →
      frequencies.countP (· < sorted.getD k 0) ≤ k := by
    intro k hk
    have hcount := countP_before_le h (hget k hk)
    rw [← hperm.countP_eq]
    simpa only [← decide_not, UInt32.not_le] using hcount
  have hafter : ∀ k, k < sorted.length →
      frequencies.countP (sorted.getD k 0 < ·) ≤ sorted.length - 1 - k := by
    intro k hk
    have hcount := countP_after_le h (hget k hk)
    rw [← hperm.countP_eq]
    simpa only [← decide_not, UInt32.not_le] using hcount
  have hlast := hafter (sorted.length - 1) (by omega)
  have hfirst := hbefore 0 hpos
  rw [Nat.sub_self, Nat.le_zero, List.countP_eq_zero] at hlast
  rw [Nat.le_zero, List.countP_eq_zero] at hfirst
  have hlow := hbefore (sorted.length / 2) (by omega)
  have hhigh := hafter (sorted.length / 2) (by omega)
  constructor
  · exact hmem _ (by omega)
  · exact hmem _ (by omega)
  · exact hmem _ hpos
  · intro frequency hfrequency
    simpa using hlast frequency hfrequency
  · intro frequency hfrequency
    simpa using hfirst frequency hfrequency
  · dsimp only
    omega
  · dsimp only
    omega

/-- Without configured speeds, those that are chosen span the list. -/
theorem spans_of_lists {frequencies : List UInt32} {text : List Char}
    (hlists : Lists frequencies text) (hne : frequencies ≠ []) :
    (detemineClockSpeeds (some text) ⟨0, 0, 0⟩).2.Spans (frequencies.take 32) := by
  have hread := readFrequencies_of_lists hlists 32
  have hne' : frequencies.take 32 ≠ [] := by simpa using hne
  have hspans := spans_of_sorted (sortedFrequencies_pairwise text) (sortedFrequencies_perm text)
    (hread ▸ hne')
  have hlength : (sortedFrequencies text).length ≠ 0 := by
    rw [(sortedFrequencies_perm text).length_eq, hread]
    exact fun h => hne' (List.eq_nil_of_length_eq_zero h)
  rw [hread] at hspans
  simpa only [detemineClockSpeeds, if_neg hlength, if_pos] using hspans

/-! ### Polls -/

/-- One of the three speeds. -/
def CpuSpeeds.Has (speeds : CpuSpeeds) (speed : UInt32) : Prop :=
  speed = speeds.normal ∨ speed = speeds.scaled ∨ speed = speeds.minimal

theorem CpuSpeeds.Spans.mem {speeds : CpuSpeeds} {frequencies : List UInt32} {speed : UInt32}
    (h : speeds.Spans frequencies) (hspeed : speeds.Has speed) : speed ∈ frequencies := by
  rcases hspeed with rfl | rfl | rfl
  · exact h.normal_mem
  · exact h.scaled_mem
  · exact h.minimal_mem

namespace Declocking

variable {threshold : Thresholds} {speeds : CpuSpeeds} {clock : CpuClock} {poll : DeclockPoll}
  {c : Declocking} {polls : List DeclockPoll} {frequencies : List UInt32}

theorem has_of_mem_dueSpeed {speed : UInt32} (h : speed ∈ c.dueSpeed poll) :
    c.speeds.Has speed := by
  unfold dueSpeed at h
  split at h
  · cases h
  · split at h
    · split at h
      · cases h
      · exact .inr (.inr (Option.some.inj h).symm)
    · split at h
      · split at h
        · exact .inr (.inl (Option.some.inj h).symm)
        · cases h
      · split at h
        · split at h
          · exact .inr (.inl (Option.some.inj h).symm)
          · cases h
        · split at h
          · exact .inl (Option.some.inj h).symm
          · cases h

/-- What holds between polls, if declocking began with the speeds and this clock. -/
structure Keeps (threshold : Thresholds) (speeds : CpuSpeeds) (clock : CpuClock) (c : Declocking) :
    Prop where
  threshold_eq : c.threshold = threshold
  speeds_eq : c.speeds = speeds
  recorded : speeds.Has c.curCpuSpeed
  asked : ∀ call ∈ c.clock.calls, call ∈ clock.calls ∨ speeds.Has call.speed
  disabled : threshold.graceInterval = 0 → c.clock = clock

theorem Keeps.after (h : Keeps threshold speeds clock c) (poll : DeclockPoll) :
    Keeps threshold speeds clock (c.declockIfNeeded poll) where
  threshold_eq := (declockIfNeeded_threshold poll c).trans h.threshold_eq
  speeds_eq := (declockIfNeeded_speeds poll c).trans h.speeds_eq
  recorded := by
    rw [declockIfNeeded_curCpuSpeed]
    cases hdue : c.dueSpeed poll with
    | none => exact h.recorded
    | some speed => exact h.speeds_eq ▸ has_of_mem_dueSpeed hdue
  asked := by
    rw [declockIfNeeded_clock]
    cases hdue : c.dueSpeed poll with
    | none => exact h.asked
    | some speed =>
        intro call hcall
        rcases List.mem_cons.mp hcall with rfl | hcall
        · exact .inr (h.speeds_eq ▸ has_of_mem_dueSpeed hdue)
        · exact h.asked call hcall
  disabled := by
    intro hgrace
    rw [declockIfNeeded_disabled (h.threshold_eq ▸ hgrace)]
    exact h.disabled hgrace

theorem keeps_of_run (hr : run declockStep (create threshold speeds clock) polls = some c) :
    Keeps (create threshold speeds clock).threshold speeds clock c := by
  apply Reachable.invariant (I := Keeps (create threshold speeds clock).threshold speeds clock)
    ?_ ?_ ⟨polls, hr⟩
  · intro s poll t hs hstep
    obtain rfl := Option.some.inj hstep
    exact hs.after poll
  · exact ⟨rfl, rfl, .inl rfl, fun call hcall => .inl hcall, fun _ => rfl⟩

/-! ### What polls do to the speed -/

variable (hkeeps : Keeps threshold speeds clock c) (hspans : speeds.Spans frequencies)
  (hgrace : 0 < threshold.graceInterval)

include hkeeps hspans hgrace

/-- A poll at the critical level leaves the lowest frequency. -/
theorem lowest_of_critical (hvalue : threshold.critical ≤ poll.value) :
    ∀ frequency ∈ frequencies, (c.declockIfNeeded poll).curCpuSpeed ≤ frequency := by
  have hc : c.threshold.graceInterval ≠ 0 := by
    rw [hkeeps.threshold_eq]
    omega
  have hlow : (c.declockIfNeeded poll).curCpuSpeed = speeds.minimal := by
    rw [declockIfNeeded_curCpuSpeed, dueSpeed_critical hc (hkeeps.threshold_eq ▸ hvalue),
      hkeeps.speeds_eq]
    split
    · assumption
    · rfl
  rw [hlow]
  exact hspans.minimal_le

/-- A poll at the concern level asks for no higher frequency. -/
theorem not_raised_of_concern (hvalue : threshold.concern ≤ poll.value) :
    (c.declockIfNeeded poll).curCpuSpeed ≤ c.curCpuSpeed := by
  have hmem := hspans.mem hkeeps.recorded
  by_cases hcritical : threshold.critical ≤ poll.value
  · exact lowest_of_critical hkeeps hspans hgrace hcritical _ hmem
  · have hc : c.threshold.graceInterval ≠ 0 := by
      rw [hkeeps.threshold_eq]
      omega
    rw [declockIfNeeded_curCpuSpeed, dueSpeed_concern hc (hkeeps.threshold_eq ▸ hcritical)
      (hkeeps.threshold_eq ▸ hvalue), hkeeps.speeds_eq]
    split
    · rename_i hnormal
      rw [hnormal]
      exact hspans.le_normal _ hspans.scaled_mem
    · exact UInt32.le_refl _

/-- The first poll at the concern level asks for a frequency in the middle. -/
theorem middle_of_concern (hconcern : threshold.concern ≤ poll.value)
    (hcritical : poll.value < threshold.critical)
    (hhighest : ∀ frequency ∈ frequencies, frequency ≤ c.curCpuSpeed) :
    let next := (c.declockIfNeeded poll).curCpuSpeed
    2 * frequencies.countP (· < next) ≤ frequencies.length ∧
      2 * frequencies.countP (next < ·) ≤ frequencies.length := by
  have hc : c.threshold.graceInterval ≠ 0 := by
    rw [hkeeps.threshold_eq]
    omega
  have hnormal : c.curCpuSpeed = speeds.normal :=
    UInt32.le_antisymm (hspans.le_normal _ (hspans.mem hkeeps.recorded))
      (hhighest _ hspans.normal_mem)
  have hscaled : (c.declockIfNeeded poll).curCpuSpeed = speeds.scaled := by
    rw [declockIfNeeded_curCpuSpeed, dueSpeed_concern hc
      (hkeeps.threshold_eq ▸ Int.not_le.mpr hcritical) (hkeeps.threshold_eq ▸ hconcern), hkeeps.speeds_eq,
      if_pos hnormal]
    rfl
  rw [hscaled]
  exact ⟨hspans.below, hspans.above⟩

/-- A poll that is safe after the grace interval leaves the highest frequency. -/
theorem highest_of_safe (hcritical : poll.value < threshold.critical)
    (hconcern : poll.value < threshold.concern) (hsafe : poll.value ≤ threshold.safe)
    (hover : c.graceOver poll.now) :
    ∀ frequency ∈ frequencies, frequency ≤ (c.declockIfNeeded poll).curCpuSpeed := by
  have hc : c.threshold.graceInterval ≠ 0 := by
    rw [hkeeps.threshold_eq]
    omega
  have hhigh : (c.declockIfNeeded poll).curCpuSpeed = speeds.normal := by
    rw [declockIfNeeded_curCpuSpeed, dueSpeed_cool hc
      (hkeeps.threshold_eq ▸ Int.not_le.mpr hcritical) (hkeeps.threshold_eq ▸ Int.not_le.mpr hconcern),
      if_neg (hkeeps.threshold_eq ▸ Int.not_lt.mpr hsafe), hkeeps.speeds_eq]
    by_cases hnormal : c.curCpuSpeed = speeds.normal
    · rw [if_neg fun h => h.1 hnormal]
      exact hnormal
    · rw [if_pos ⟨hnormal, hover⟩]
      rfl
  rw [hhigh]
  exact hspans.le_normal

end Declocking

open Declocking in
/-- In every run of polls, whatever the platform makes of the requests: the recorded speed and every
speed that is asked for is one of the frequencies that the kernel lists. A poll at the critical
level leaves the lowest of them, one at the concern level raises nothing and takes the highest to
the middle, and a safe one after the grace interval leaves the highest. If a listed frequency is
zero, no speed is asked for. -/
theorem hot_polls_slow_down {frequencies : List UInt32} {text : List Char}
    (hlists : Lists frequencies text) (hne : frequencies ≠ []) {threshold : Thresholds}
    (hgrace : 0 < threshold.graceInterval) {clock : CpuClock} {polls : List DeclockPoll}
    {c : Declocking}
    (hr : run declockStep (.initializeThermalProtection threshold ⟨0, 0, 0⟩ (some text) clock) polls = some c) :
    let listed := frequencies.take 32
    c.curCpuSpeed ∈ listed ∧
    (∀ call ∈ c.clock.calls, call ∈ clock.calls ∨ call.speed ∈ listed) ∧
    (0 ∈ listed → c.clock = clock) ∧
    (0 ∉ listed → ∀ poll,
      let next := (c.declockIfNeeded poll).curCpuSpeed
      (threshold.critical ≤ poll.value → ∀ frequency ∈ listed, next ≤ frequency) ∧
      (threshold.concern ≤ poll.value → next ≤ c.curCpuSpeed) ∧
      (threshold.concern ≤ poll.value → poll.value < threshold.critical →
        (∀ frequency ∈ listed, frequency ≤ c.curCpuSpeed) →
        2 * listed.countP (· < next) ≤ listed.length ∧
          2 * listed.countP (next < ·) ≤ listed.length) ∧
      (poll.value < threshold.critical → poll.value < threshold.concern →
        poll.value ≤ threshold.safe → c.graceOver poll.now →
        ∀ frequency ∈ listed, frequency ≤ next)) := by
  have hspans := spans_of_lists hlists hne
  rw [initializeThermalProtection, if_pos hgrace] at hr
  have hkeeps := keeps_of_run hr
  refine ⟨hspans.mem hkeeps.recorded, ?_, ?_, ?_⟩
  · intro call hcall
    exact (hkeeps.asked call hcall).imp_right hspans.mem
  · intro hzero
    apply hkeeps.disabled
    have hminimal : (detemineClockSpeeds (some text) ⟨0, 0, 0⟩).2.minimal = 0 :=
      UInt32.le_antisymm (hspans.minimal_le 0 hzero) UInt32.zero_le
    rw [create, if_pos (.inr (.inr hminimal))]
  · intro hzero poll
    have hthreshold : (create threshold (detemineClockSpeeds (some text) ⟨0, 0, 0⟩).2
        clock).threshold = threshold := by
      rw [create, if_neg]
      rintro (h | h | h)
      · exact hzero (h ▸ hspans.normal_mem)
      · exact hzero (h ▸ hspans.scaled_mem)
      · exact hzero (h ▸ hspans.minimal_mem)
    rw [hthreshold] at hkeeps
    exact ⟨lowest_of_critical hkeeps hspans hgrace, not_raised_of_concern hkeeps hspans hgrace,
      middle_of_concern hkeeps hspans hgrace, highest_of_safe hkeeps hspans hgrace⟩

/-- Three frequencies, the highest first. -/
def threeFrequencies : List Char :=
  ['1', '2', '0', '0', ' ', '6', '0', '0', ' ', '1', '0', '0', '0', ' ', '\n']

theorem lists_threeFrequencies : Lists [1200, 600, 1000] threeFrequencies :=
  @Lists.cons _ _ [] _ (by simp) (by simp) <|
    @Lists.cons _ _ [' '] _ (by simp [isSpace]) (by simp) <|
      @Lists.cons _ _ [' '] _ (by simp [isSpace]) (by simp) (.nil (by simp [isSpace]))

/-- At 105 degrees the speed is lowered to the middle one, and at 112 to the lowest one. -/
theorem hot_polls_slow_down_three :
    let declocking := Declocking.initializeThermalProtection ⟨110, 100, 90, 60⟩ ⟨0, 0, 0⟩
      (some threeFrequencies) { speed := 1200 }
    let c := declocking.declockIfNeeded ⟨0, 105, .errorNone⟩
    c.curCpuSpeed = 1000 ∧ ∀ frequency ∈ [1200, 600, 1000],
      (c.declockIfNeeded ⟨300, 112, .errorNone⟩).curCpuSpeed ≤ frequency := by
  intro declocking c
  have hr : run declockStep declocking [⟨0, 105, .errorNone⟩] = some c := rfl
  have h := hot_polls_slow_down lists_threeFrequencies (by decide) (by decide) hr
  exact ⟨rfl, (h.2.2.2 (by decide) _).1 (by decide)⟩

end DeviceAndDisplay.PowerManager
