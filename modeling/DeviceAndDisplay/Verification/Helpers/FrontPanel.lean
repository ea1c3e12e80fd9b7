import DeviceAndDisplay.Model.Helpers.FrontPanel
import DeviceAndDisplay.Transition.Run

/-! # The schedule of the blinking

The index and the counter of the rounds follow the number of callbacks, until a first `start` resets
them. -/

namespace DeviceAndDisplay.Helpers

open Transition

/-! ### What is promised -/

/-- The call neither sets a pattern nor stops the timer. -/
def FrontPanelCall.Continues : FrontPanelCall → Prop
  | .timed | .start | .other => True
  | .setBlink .. | .stops _ => False

/-- The call sets no pattern. -/
def FrontPanelCall.SetsNoPattern : FrontPanelCall → Prop
  | .setBlink .. => False
  | _ => True

/-- The call leaves nothing to blink. -/
def FrontPanelCall.EndsBlinking : FrontPanelCall → Prop
  | .stops _ => True
  | .setBlink _ _ pattern => pattern = []
  | _ => False

/-- How often a pattern is shown that is repeated so often. -/
def rounds (iterations : ℤ) : ℕ := iterations.toNat + 1

/-- There is an update after so many callbacks, for a pattern of `n` entries. -/
def Lasts (n : ℕ) (iterations : ℤ) (callbacks : ℕ) : Prop :=
  iterations < 0 ∨ callbacks < n * rounds iterations

instance (n : ℕ) (iterations : ℤ) (callbacks : ℕ) : Decidable (Lasts n iterations callbacks) :=
  inferInstanceAs (Decidable (_ ∨ _))

/-- The number of updates until after so many callbacks. -/
def updates (n : ℕ) (iterations : ℤ) (callbacks : ℕ) : ℕ :=
  if iterations < 0 then callbacks + 1 else min (callbacks + 1) (n * rounds iterations)

/-- The first `count` updates, in the order of the entries, and the wait after each. -/
def blinkSchedule (entries : List FrontPanelBlinkInfo) (count : ℕ) : List BlinkEvent :=
  (List.range count).flatMap fun k =>
    entries[k % entries.length]?.toList.flatMap fun blinkInfo =>
      [.setBlinkLed blinkInfo, .schedule blinkInfo.durationInMs]

/-- The state after so many callbacks for a pattern; `earlier` is what came before it. -/
structure Scheduled (entries : List FrontPanelBlinkInfo) (iterations : ℤ)
    (earlier : List BlinkEvent) (callbacks : ℕ) (panel : CFrontPanel) : Prop where
  events_eq : panel.events =
    earlier ++ blinkSchedule entries (updates entries.length iterations callbacks)
  callbacks_le : 0 ≤ iterations → callbacks ≤ entries.length * rounds iterations
  pending_eq : panel.pending = if Lasts entries.length iterations callbacks then 1 else 0

/-- The blinking in a run of the calls. -/
structure BlinksExactly (overflow : ℤ) (calls : List FrontPanelCall) : Prop where
  inRange : ∀ t, run (CFrontPanel.step overflow) {} calls = some t → t.outOfRange = false
  scheduled : ∀ before ledIndicator iterations pattern rest s t,
    calls = before ++ .setBlink ledIndicator iterations pattern :: rest → pattern ≠ [] →
    iterations < 2147483647 → (∀ call ∈ rest, call.Continues) →
    run (CFrontPanel.step overflow) {} before = some s →
    run (CFrontPanel.step overflow) {} calls = some t →
    Scheduled (pattern.map (BlinkPattern.blinkInfo (svc2iarm ledIndicator))) iterations s.events
      (rest.count .timed) t
  silent : ∀ before call rest s t, calls = before ++ call :: rest → call.EndsBlinking →
    (∀ call ∈ rest, call.SetsNoPattern) →
    run (CFrontPanel.step overflow) {} before = some s →
    run (CFrontPanel.step overflow) {} calls = some t → t.events = s.events ∧ t.pending = 0

namespace CFrontPanel

variable {overflow : ℤ} {panel s t : CFrontPanel} {call : FrontPanelCall}
  {entries : List FrontPanelBlinkInfo} {iterations : ℤ} {earlier shown : List BlinkEvent}
  {callbacks n : ℕ} {blinkInfo : FrontPanelBlinkInfo}

/-- The pattern is at the first entry of its last round. -/
def InLastRound (panel : CFrontPanel) : Prop :=
  panel.currentBlinkListIndex = 0 ∧ 0 ≤ panel.maxNumberOfBlinkRepeats ∧
    panel.numberOfBlinks = panel.maxNumberOfBlinkRepeats

/-- The first `start` finds no timer, or a pattern for which the counters that it resets are the
same as before. -/
def StartsQuietly (panel : CFrontPanel) (call : FrontPanelCall) : Prop :=
  call = .start → panel.started = false → panel.pending = 0 ∨ panel.InLastRound

/-! ### Steps -/

theorem blink_eq (hentry : panel.blinkList[panel.currentBlinkListIndex]? = some blinkInfo)
    (hblinking : panel.isBlinking = true) :
    panel.blink = { panel with
      pending := panel.pending + 1
      events := panel.events ++
        [.setBlinkLed blinkInfo, .schedule blinkInfo.durationInMs] } := by
  rw [blink, hentry]
  simp [setBlinkLed, schedule, hblinking]

theorem setBlink_of_nil (ledIndicator : Text) (iterations : ℤ) (panel : CFrontPanel) :
    panel.setBlink ledIndicator iterations [] = { panel with
      blinkList := []
      isBlinking := true
      numberOfBlinks := 0
      maxNumberOfBlinkRepeats := iterations
      currentBlinkListIndex := 0
      pending := 0 } := rfl

theorem setBlink_of_ne_nil (ledIndicator : Text) (iterations : ℤ) {pattern : List BlinkPattern}
    (hpattern : pattern ≠ []) (panel : CFrontPanel) :
    panel.setBlink ledIndicator iterations pattern = CFrontPanel.blink { panel with
      blinkList := pattern.map (BlinkPattern.blinkInfo (svc2iarm ledIndicator))
      isBlinking := true
      numberOfBlinks := 0
      maxNumberOfBlinkRepeats := iterations
      currentBlinkListIndex := 0
      pending := 0 } := by
  have hlength : 0 < (pattern.map (BlinkPattern.blinkInfo (svc2iarm ledIndicator))).length := by
    rw [List.length_map]
    exact List.length_pos_iff.mpr hpattern
  exact if_pos hlength

theorem onBlinkTimer_of_lt (h : panel.currentBlinkListIndex + 1 < panel.blinkList.length) :
    panel.onBlinkTimer overflow =
      CFrontPanel.blink { panel with
        currentBlinkListIndex := panel.currentBlinkListIndex + 1 } :=
  if_neg (Nat.not_le.mpr h)

theorem onBlinkTimer_of_ge (h : panel.blinkList.length ≤ panel.currentBlinkListIndex + 1) :
    panel.onBlinkTimer overflow =
      let next : CFrontPanel := { panel with
        currentBlinkListIndex := 0
        numberOfBlinks := increment overflow panel.numberOfBlinks }
      if panel.maxNumberOfBlinkRepeats < 0 ∨
          increment overflow panel.numberOfBlinks ≤ panel.maxNumberOfBlinkRepeats then
        next.blink
      else next :=
  if_pos h

theorem step_timed_eq_some :
    step overflow s .timed = some t ↔ 0 < s.pending ∧ t = s.takeEntry.onBlinkTimer overflow := by
  change (if s.pending = 0 then none else some (s.takeEntry.onBlinkTimer overflow)) = some t ↔ _
  by_cases hzero : s.pending = 0
  · simp [hzero]
  · simp [hzero, Nat.pos_of_ne_zero hzero, eq_comm]

/-! ### The list is not left -/

/-- At most one entry of the timer, and if there is one, an index of the list. -/
structure Good (panel : CFrontPanel) : Prop where
  inRange : panel.outOfRange = false
  pending_le : panel.pending ≤ 1
  index_lt : 0 < panel.pending → panel.currentBlinkListIndex < panel.blinkList.length
  blinking : 0 < panel.pending → panel.isBlinking = true

theorem good_blink (hrange : panel.outOfRange = false) (hpending : panel.pending = 0)
    (hindex : panel.currentBlinkListIndex < panel.blinkList.length)
    (hblinking : panel.isBlinking = true) : Good panel.blink := by
  rw [blink_eq (List.getElem?_eq_getElem hindex) hblinking]
  exact ⟨hrange, by simp [hpending], fun _ => hindex, fun _ => hblinking⟩

theorem good_of_pending_eq_zero (hrange : panel.outOfRange = false) (hpending : panel.pending = 0) :
    Good panel :=
  ⟨hrange, by omega, fun h => by omega, fun h => by omega⟩

theorem Good.onBlinkTimer (h : Good s) (hpending : 0 < s.pending) :
    Good (s.takeEntry.onBlinkTimer overflow) := by
  have hle := h.pending_le
  have hzero : s.takeEntry.pending = 0 := by
    change s.pending - 1 = 0
    omega
  have hlt : s.takeEntry.currentBlinkListIndex < s.takeEntry.blinkList.length := h.index_lt hpending
  have hblinking : s.takeEntry.isBlinking = true := h.blinking hpending
  have hrange : s.takeEntry.outOfRange = false := h.inRange
  by_cases hnext : s.takeEntry.currentBlinkListIndex + 1 < s.takeEntry.blinkList.length
  · rw [onBlinkTimer_of_lt hnext]
    exact good_blink hrange hzero hnext hblinking
  · rw [onBlinkTimer_of_ge (Nat.not_lt.mp hnext)]
    simp only
    split
    · exact good_blink hrange hzero (Nat.zero_lt_of_lt hlt) hblinking
    · exact good_of_pending_eq_zero hrange hzero

theorem Good.step (h : Good s) (ht : CFrontPanel.step overflow s call = some t) : Good t := by
  cases call with
  | timed =>
      obtain ⟨hpending, rfl⟩ := step_timed_eq_some.mp ht
      exact h.onBlinkTimer hpending
  | start =>
      cases ht
      unfold CFrontPanel.start
      split
      · exact h
      · exact ⟨h.inRange, h.pending_le, fun hp => Nat.zero_lt_of_lt (h.index_lt hp), h.blinking⟩
  | setBlink ledIndicator iterations pattern =>
      cases ht
      by_cases hpattern : pattern = []
      · rw [hpattern, setBlink_of_nil]
        exact good_of_pending_eq_zero h.inRange rfl
      · rw [setBlink_of_ne_nil _ _ hpattern]
        refine good_blink h.inRange rfl ?_ rfl
        change 0 < (pattern.map _).length
        rw [List.length_map]
        exact List.length_pos_iff.mpr hpattern
  | stops call =>
      cases ht
      exact good_of_pending_eq_zero h.inRange rfl
  | other =>
      cases ht
      exact h

theorem good_of_run {calls : List FrontPanelCall}
    (hrun : run (CFrontPanel.step overflow) {} calls = some t) : Good t :=
  Reachable.invariant (fun _ _ _ => Good.step) (good_of_pending_eq_zero rfl rfl) ⟨calls, hrun⟩

/-! ### Counting -/

theorem updates_of_lasts (h : Lasts n iterations callbacks) :
    updates n iterations callbacks = callbacks + 1 := by
  unfold updates
  unfold Lasts at h
  split
  · rfl
  · omega

theorem updates_of_end (hiterations : 0 ≤ iterations) (hend : callbacks = n * rounds iterations) :
    updates n iterations callbacks = callbacks := by
  unfold updates
  split
  · omega
  · omega

theorem lasts_iff_div (hn : 0 < n) (hiterations : 0 ≤ iterations) :
    Lasts n iterations callbacks ↔ ((callbacks / n : ℕ) : ℤ) ≤ iterations := by
  have hdiv : callbacks / n < rounds iterations ↔ callbacks < n * rounds iterations := by
    rw [Nat.div_lt_iff_lt_mul hn, Nat.mul_comm]
  unfold Lasts
  rw [← hdiv]
  unfold rounds
  omega

/-- The last entry of a round is followed by the first one of the next round. -/
theorem succ_of_last (hlast : callbacks % n + 1 = n) :
    (callbacks + 1) % n = 0 ∧ (callbacks + 1) / n = callbacks / n + 1 := by
  have hn : 0 < n := by omega
  have hnext : callbacks + 1 = n * (callbacks / n + 1) := by
    rw [Nat.mul_add, Nat.mul_one]
    have hsplit := Nat.div_add_mod callbacks n
    omega
  rw [hnext, Nat.mul_mod_right, Nat.mul_div_cancel_left _ hn]
  exact ⟨rfl, rfl⟩

theorem succ_of_not_last (hnext : callbacks % n + 1 < n) :
    (callbacks + 1) % n = callbacks % n + 1 ∧ (callbacks + 1) / n = callbacks / n := by
  have hsplit := Nat.div_add_mod callbacks n
  have heq : callbacks + 1 = callbacks % n + 1 + n * (callbacks / n) := by omega
  rw [heq, Nat.add_mul_mod_self_left, Nat.mod_eq_of_lt hnext,
    Nat.add_mul_div_left _ _ (by omega), Nat.div_eq_of_lt hnext, Nat.zero_add]
  exact ⟨rfl, rfl⟩

theorem blinkSchedule_succ (hentry : entries[callbacks % entries.length]? = some blinkInfo) :
    blinkSchedule entries (callbacks + 1) = blinkSchedule entries callbacks ++
      [.setBlinkLed blinkInfo, .schedule blinkInfo.durationInMs] := by
  rw [blinkSchedule, List.range_succ, List.flatMap_append, List.flatMap_singleton, hentry]
  simp [blinkSchedule]

/-! ### A pattern -/

/-- The state after so many callbacks, with the index and the counter of the rounds that the next
callback goes on from. -/
structure OnSchedule (entries : List FrontPanelBlinkInfo) (iterations : ℤ)
    (earlier : List BlinkEvent) (callbacks : ℕ) (panel : CFrontPanel) : Prop
    extends Scheduled entries iterations earlier callbacks panel where
  blinkList_eq : panel.blinkList = entries
  blinking : panel.isBlinking = true
  index_eq : Lasts entries.length iterations callbacks →
    panel.currentBlinkListIndex = callbacks % entries.length
  endless : iterations < 0 → panel.maxNumberOfBlinkRepeats < 0
  left : 0 ≤ iterations → Lasts entries.length iterations callbacks →
    panel.maxNumberOfBlinkRepeats - panel.numberOfBlinks =
        iterations - (callbacks / entries.length : ℕ) ∧
      0 ≤ panel.maxNumberOfBlinkRepeats ∧ panel.maxNumberOfBlinkRepeats < 2147483647

/-- The index and the counters are those of the next update, or of the last one, and the timer has
no entry. -/
structure AtEntry (entries : List FrontPanelBlinkInfo) (iterations : ℤ) (shown : List BlinkEvent)
    (callbacks : ℕ) (panel : CFrontPanel) : Prop where
  blinkList_eq : panel.blinkList = entries
  blinking : panel.isBlinking = true
  pending_eq : panel.pending = 0
  events_eq : panel.events = shown
  index_eq : panel.currentBlinkListIndex = callbacks % entries.length
  lasts : Lasts entries.length iterations callbacks
  endless : iterations < 0 → panel.maxNumberOfBlinkRepeats < 0
  left : 0 ≤ iterations →
    panel.maxNumberOfBlinkRepeats - panel.numberOfBlinks =
        iterations - (callbacks / entries.length : ℕ) ∧
      0 ≤ panel.maxNumberOfBlinkRepeats ∧ panel.maxNumberOfBlinkRepeats < 2147483647

/-- An update when it is due. -/
theorem AtEntry.blink
    (h : AtEntry entries iterations (earlier ++ blinkSchedule entries callbacks) callbacks panel)
    (hne : entries ≠ []) : OnSchedule entries iterations earlier callbacks panel.blink := by
  have hlt : callbacks % entries.length < entries.length :=
    Nat.mod_lt _ (List.length_pos_iff.mpr hne)
  have hentry := List.getElem?_eq_getElem hlt
  have hblink := blink_eq (by rw [h.blinkList_eq, h.index_eq]; exact hentry) h.blinking
  rw [hblink]
  refine ⟨⟨?_, fun hiterations => ?_, ?_⟩, h.blinkList_eq, h.blinking, fun _ => h.index_eq,
    h.endless, fun hiterations _ => h.left hiterations⟩
  · change panel.events ++ _ = _
    rw [updates_of_lasts h.lasts, blinkSchedule_succ hentry, h.events_eq, List.append_assoc]
  · rcases h.lasts with hnegative | hlt
    · omega
    · exact Nat.le_of_lt hlt
  · rw [if_pos h.lasts]
    change panel.pending + 1 = 1
    rw [h.pending_eq]

theorem onSchedule_setBlink (ledIndicator : Text) {pattern : List BlinkPattern}
    (hpattern : pattern ≠ []) (hiterations : iterations < 2147483647) (panel : CFrontPanel) :
    OnSchedule (pattern.map (BlinkPattern.blinkInfo (svc2iarm ledIndicator))) iterations
      panel.events 0 (panel.setBlink ledIndicator iterations pattern) := by
  have hne : pattern.map (BlinkPattern.blinkInfo (svc2iarm ledIndicator)) ≠ [] := by
    simpa using hpattern
  have hpos := List.length_pos_iff.mpr hne
  rw [setBlink_of_ne_nil _ _ hpattern]
  apply AtEntry.blink _ hne
  refine ⟨rfl, rfl, rfl, ?_, (Nat.zero_mod _).symm, ?_, fun h => h, fun h => ?_⟩
  · simp [blinkSchedule]
  · exact .inr (Nat.mul_pos hpos (Nat.succ_pos _))
  · rw [Nat.zero_div]
    exact ⟨rfl, h, hiterations⟩

/-- The timer calls back only for a pattern that lasts. -/
theorem OnSchedule.takeEntry (h : OnSchedule entries iterations earlier callbacks s)
    (hpending : 0 < s.pending) :
    AtEntry entries iterations (earlier ++ blinkSchedule entries (callbacks + 1)) callbacks
      s.takeEntry := by
  have hlasts : Lasts entries.length iterations callbacks := by
    by_contra hnot
    rw [h.pending_eq, if_neg hnot] at hpending
    omega
  refine ⟨h.blinkList_eq, h.blinking, ?_, ?_, h.index_eq hlasts, hlasts, h.endless,
    fun hiterations => h.left hiterations hlasts⟩
  · change s.pending - 1 = 0
    rw [h.pending_eq, if_pos hlasts]
  · change s.events = _
    rw [h.events_eq, updates_of_lasts hlasts]

/-- In a round, the next entry follows. -/
theorem AtEntry.next
    (h : AtEntry entries iterations shown callbacks panel)
    (hnext : callbacks % entries.length + 1 < entries.length) :
    AtEntry entries iterations shown (callbacks + 1)
      { panel with currentBlinkListIndex := panel.currentBlinkListIndex + 1 } := by
  have hn : 0 < entries.length := by omega
  obtain ⟨hmod, hdiv⟩ := succ_of_not_last hnext
  refine ⟨h.blinkList_eq, h.blinking, h.pending_eq, h.events_eq, ?_, ?_, h.endless, ?_⟩
  · rw [hmod, ← h.index_eq]
  · by_cases hnegative : iterations < 0
    · exact .inl hnegative
    · rw [lasts_iff_div hn (by omega), hdiv]
      exact (lasts_iff_div hn (by omega)).mp h.lasts
  · rw [hdiv]
    exact h.left

/-- The counter does not overflow before the rounds are over. -/
theorem AtEntry.increment_eq
    (h : AtEntry entries iterations shown callbacks panel) (hn : 0 < entries.length)
    (hiterations : 0 ≤ iterations) :
    increment overflow panel.numberOfBlinks = panel.numberOfBlinks + 1 := by
  obtain ⟨hleft, _, hbound⟩ := h.left hiterations
  have hround := (lasts_iff_div hn hiterations).mp h.lasts
  exact if_neg (by omega)

/-- After the last entry, there is one more round if and only if the pattern lasts. -/
theorem AtEntry.repeats_iff
    (h : AtEntry entries iterations shown callbacks panel)
    (hlast : callbacks % entries.length + 1 = entries.length) :
    panel.maxNumberOfBlinkRepeats < 0 ∨
        increment overflow panel.numberOfBlinks ≤ panel.maxNumberOfBlinkRepeats ↔
      Lasts entries.length iterations (callbacks + 1) := by
  have hn : 0 < entries.length := by omega
  by_cases hnegative : iterations < 0
  · exact iff_of_true (.inl (h.endless hnegative)) (.inl hnegative)
  · have hnonneg : 0 ≤ iterations := by omega
    obtain ⟨hleft, hmax, _⟩ := h.left hnonneg
    rw [h.increment_eq hn hnonneg, lasts_iff_div hn hnonneg, (succ_of_last hlast).2]
    push_cast
    omega

theorem AtEntry.nextRound
    (h : AtEntry entries iterations shown callbacks panel)
    (hlast : callbacks % entries.length + 1 = entries.length)
    (hlasts : Lasts entries.length iterations (callbacks + 1)) :
    AtEntry entries iterations shown (callbacks + 1)
      { panel with
        currentBlinkListIndex := 0
        numberOfBlinks := increment overflow panel.numberOfBlinks } := by
  obtain ⟨hmod, hdiv⟩ := succ_of_last hlast
  refine ⟨h.blinkList_eq, h.blinking, h.pending_eq, h.events_eq, hmod.symm, hlasts, h.endless,
    fun hiterations => ?_⟩
  obtain ⟨hleft, hbounds⟩ := h.left hiterations
  refine ⟨?_, hbounds⟩
  change panel.maxNumberOfBlinkRepeats - increment overflow panel.numberOfBlinks = _
  rw [h.increment_eq (by omega) hiterations, hdiv]
  push_cast
  omega

/-- After the last entry of the last round, nothing is scheduled. -/
theorem AtEntry.onSchedule_end
    (h : AtEntry entries iterations (earlier ++ blinkSchedule entries (callbacks + 1)) callbacks
      panel)
    (hnot : ¬ Lasts entries.length iterations (callbacks + 1)) (number : ℤ) :
    OnSchedule entries iterations earlier (callbacks + 1)
      { panel with currentBlinkListIndex := 0, numberOfBlinks := number } := by
  have hlasts := h.lasts
  have htotal : callbacks + 1 = entries.length * rounds iterations := by
    unfold Lasts at hlasts hnot
    omega
  have hnonneg : 0 ≤ iterations := by
    unfold Lasts at hnot
    omega
  refine ⟨⟨?_, fun _ => Nat.le_of_eq htotal, ?_⟩, h.blinkList_eq, h.blinking,
    fun hlasts' => absurd hlasts' hnot, h.endless, fun _ hlasts' => absurd hlasts' hnot⟩
  · rw [updates_of_end hnonneg htotal]
    exact h.events_eq
  · rw [if_neg hnot]
    exact h.pending_eq

/-- A callback goes on with the next entry, or ends the pattern after its last round. -/
theorem OnSchedule.timed (h : OnSchedule entries iterations earlier callbacks s)
    (hne : entries ≠ []) (ht : CFrontPanel.step overflow s .timed = some t) :
    OnSchedule entries iterations earlier (callbacks + 1) t := by
  obtain ⟨hpending, rfl⟩ := step_timed_eq_some.mp ht
  have hentry := h.takeEntry hpending
  have hlt := Nat.mod_lt callbacks (List.length_pos_iff.mpr hne)
  by_cases hlast : callbacks % entries.length + 1 = entries.length
  · rw [onBlinkTimer_of_ge (by rw [hentry.blinkList_eq, hentry.index_eq]; omega)]
    simp only [hentry.repeats_iff hlast]
    by_cases hlasts : Lasts entries.length iterations (callbacks + 1)
    · rw [if_pos hlasts]
      exact (hentry.nextRound hlast hlasts).blink hne
    · rw [if_neg hlasts]
      exact hentry.onSchedule_end hlasts _
  · rw [onBlinkTimer_of_lt (by rw [hentry.blinkList_eq, hentry.index_eq]; omega)]
    exact (hentry.next (by omega)).blink hne

/-- A `start` that is not the first one changes nothing, and a quiet first one nothing that the
pattern still needs. -/
theorem OnSchedule.start (h : OnSchedule entries iterations earlier callbacks s)
    (hquiet : StartsQuietly s .start) :
    OnSchedule entries iterations earlier callbacks s.start := by
  unfold CFrontPanel.start
  split
  · exact h
  · rename_i hstarted
    have hcase := hquiet rfl (by simpa using hstarted)
    by_cases hlasts : Lasts entries.length iterations callbacks
    · have hpending : s.pending ≠ 0 := by
        rw [h.pending_eq, if_pos hlasts]
        exact Nat.one_ne_zero
      obtain ⟨hindex, hmax, hcounter⟩ := hcase.resolve_left hpending
      refine ⟨⟨h.events_eq, h.callbacks_le, h.pending_eq⟩, h.blinkList_eq, h.blinking, fun _ => ?_,
        fun hnegative => ?_, fun hnonneg _ => ?_⟩
      · rw [← h.index_eq hlasts, hindex]
      · have hless := h.endless hnegative
        omega
      · obtain ⟨hleft, _, _⟩ := h.left hnonneg hlasts
        have hrest : iterations - (callbacks / entries.length : ℕ) = 0 := by omega
        have hbound : (0 : ℤ) < 2147483647 := by decide
        rw [hrest]
        exact ⟨rfl, Int.le_refl 0, hbound⟩
    · refine ⟨⟨h.events_eq, h.callbacks_le, h.pending_eq⟩, h.blinkList_eq, h.blinking,
        fun hlasts' => absurd hlasts' hlasts, fun hnegative => absurd (.inl hnegative) hlasts,
        fun _ hlasts' => absurd hlasts' hlasts⟩

theorem OnSchedule.step (h : OnSchedule entries iterations earlier callbacks s)
    (hne : entries ≠ []) (hcall : call.Continues) (hquiet : StartsQuietly s call)
    (ht : CFrontPanel.step overflow s call = some t) :
    OnSchedule entries iterations earlier (callbacks + [call].count .timed) t := by
  cases call with
  | timed => exact h.timed hne ht
  | start =>
      cases ht
      exact h.start hquiet
  | setBlink => cases hcall
  | stops => cases hcall
  | other =>
      cases ht
      exact h

/-! ### Runs -/

theorem OnSchedule.run {rest : List FrontPanelCall}
    (h : OnSchedule entries iterations earlier 0 s) (hne : entries ≠ [])
    (hrest : ∀ call ∈ rest, call.Continues)
    (hquiet : Along (CFrontPanel.step overflow) StartsQuietly s rest)
    (hrun : Transition.run (CFrontPanel.step overflow) s rest = some t) :
    OnSchedule entries iterations earlier (rest.count .timed) t := by
  have hcontinues : Along (CFrontPanel.step overflow) (fun _ call => call.Continues) s rest :=
    along_of_forall fun call hcall _ => hrest call hcall
  have hstart : OnSchedule entries iterations earlier
      (([] : List FrontPanelCall).count .timed) s := h
  refine run_history_invariant
    (I := fun done u => OnSchedule entries iterations earlier (done.count .timed) u)
    (fun done u call v h hC hv => ?_) hstart (hquiet.and hcontinues) hrun
  rw [List.count_append]
  exact h.step hne hC.2 hC.1 hv

/-- Without an entry of the timer, only a new pattern blinks. -/
theorem silent_run {rest : List FrontPanelCall} (hpending : s.pending = 0)
    (hrest : ∀ call ∈ rest, call.SetsNoPattern)
    (hrun : Transition.run (CFrontPanel.step overflow) s rest = some t) :
    t.events = s.events ∧ t.pending = 0 := by
  have hsets : Along (CFrontPanel.step overflow) (fun _ call => call.SetsNoPattern) s rest :=
    along_of_forall fun call hcall _ => hrest call hcall
  refine run_invariant (I := fun u => u.events = s.events ∧ u.pending = 0)
    (fun u call v h hcall hv => ?_) ⟨rfl, hpending⟩ hsets hrun
  cases call with
  | timed =>
      obtain ⟨hpos, _⟩ := step_timed_eq_some.mp hv
      omega
  | start =>
      cases hv
      unfold CFrontPanel.start
      split <;> exact h
  | setBlink => cases hcall
  | stops call =>
      cases hv
      exact ⟨h.1, rfl⟩
  | other =>
      cases hv
      exact h

theorem step_endsBlinking (hcall : call.EndsBlinking)
    (ht : CFrontPanel.step overflow s call = some t) : t.events = s.events ∧ t.pending = 0 := by
  cases call with
  | timed => cases hcall
  | start => cases hcall
  | setBlink ledIndicator iterations pattern =>
      cases ht
      rw [show pattern = [] from hcall, setBlink_of_nil]
      exact ⟨rfl, rfl⟩
  | stops call =>
      cases ht
      exact ⟨rfl, rfl⟩
  | other => cases hcall

theorem run_append_cons {calls before rest : List FrontPanelCall}
    (hcalls : calls = before ++ call :: rest)
    (hbefore : Transition.run (CFrontPanel.step overflow) {} before = some s)
    (hrun : Transition.run (CFrontPanel.step overflow) {} calls = some t) :
    ∃ u, CFrontPanel.step overflow s call = some u ∧
      Transition.run (CFrontPanel.step overflow) u rest = some t := by
  rw [hcalls, run_append, hbefore] at hrun
  exact run_cons_eq_some.mp hrun

/-- If the first `start` is quiet, the blinking of every run is exact. -/
theorem blinks_exactly (overflow : ℤ) (calls : List FrontPanelCall)
    (hquiet : Along (CFrontPanel.step overflow) StartsQuietly {} calls) :
    BlinksExactly overflow calls := by
  refine ⟨fun t hrun => (good_of_run hrun).inRange, ?_, ?_⟩
  · intro before ledIndicator iterations pattern rest s t hcalls hpattern hiterations hrest hbefore
      hrun
    obtain ⟨u, hu, hrun⟩ := run_append_cons hcalls hbefore hrun
    rw [hcalls, along_append] at hquiet
    have halong := (hquiet.2 s hbefore).2 u hu
    cases hu
    have hne : pattern.map (BlinkPattern.blinkInfo (svc2iarm ledIndicator)) ≠ [] := by
      simpa using hpattern
    have hset := onSchedule_setBlink ledIndicator hpattern hiterations s
    exact (hset.run hne hrest halong hrun).toScheduled
  · intro before call rest s t hcalls hends hrest hbefore hrun
    obtain ⟨u, hu, hrun⟩ := run_append_cons hcalls hbefore hrun
    obtain ⟨hevents, hpending⟩ := step_endsBlinking hends hu
    obtain ⟨hsame, hzero⟩ := silent_run hpending hrest hrun
    exact ⟨hsame.trans hevents, hzero⟩

/-- A pattern of two entries. -/
def dimAndBright : List BlinkPattern :=
  [{ brightness := some 1, duration := 10 }, { brightness := some 2, duration := 10 }]

/-- The blinking starts after the front panel. -/
theorem blinks_exactly_dimAndBright :
    BlinksExactly 0 [.start, .setBlink [] 1 dimAndBright, .timed] :=
  blinks_exactly 0 _ ⟨fun _ _ => .inl rfl, fun _ _ =>
    ⟨fun h => (nomatch h), fun _ _ => ⟨fun h => (nomatch h), fun _ _ => trivial⟩⟩⟩

/-- The front panel starts while it blinks. -/
def startedLate : List FrontPanelCall := [.setBlink [] 1 dimAndBright, .timed, .start, .timed]

/-- The second entry is shown twice. -/
theorem not_blinksExactly_startedLate : ¬ BlinksExactly 0 startedLate := by
  intro h
  have hcontinues : ∀ call ∈ [FrontPanelCall.timed, .start, .timed], call.Continues := by
    simp [FrontPanelCall.Continues]
  have hscheduled := h.scheduled [] [] 1 dimAndBright _ {} _ rfl (by decide) (by decide)
    hcontinues rfl rfl
  exact absurd hscheduled.events_eq (by decide)

end CFrontPanel

end DeviceAndDisplay.Helpers
