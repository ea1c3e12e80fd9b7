import DeviceAndDisplay.Verification.PowerManager.DeepSleep

/-! # The deep-sleep latch

`performActivate` begins a sequence unless the latch says that one is in progress. A sequence
holds the latch from its beginning to the end of its first attempt, or to a `Deactivate`. -/

namespace DeviceAndDisplay.PowerManager

def EntryPhase.retryCount : EntryPhase → ℕ
  | .attempt retryCount | .sleepNow retryCount => retryCount
  | _ => 0

/-- The first attempt of the sequence has not returned. -/
def EntryPhase.isFirstAttempt : EntryPhase → Bool
  | .attempt retryCount | .sleepNow retryCount => retryCount == 5
  | .sleepDelayed => true
  | _ => false

def Entry.holdsLatch (e : Entry) : Bool := !e.deactivated && e.phase.isFirstAttempt

namespace DeepSleepController

variable {env : Env} {c c' : DeepSleepController}

/-- The sequences that were begun and have neither made their notification nor been revoked. -/
def active (c : DeepSleepController) : ℕ := c.delayJobs.length + c.entries.length

/-! ### The sequence that holds the latch -/

structure Latched (c : DeepSleepController) : Prop where
  active : c.active ≤ 1
  delayJob : ∀ job ∈ c.delayJobs,
    c.deepSleepDelayJob = some job.id ∧ c.isDeepSleepInProgress = true
  entry : ∀ e ∈ c.entries, e.phase.retryCount ≤ 5 ∧ e.holdsLatch = c.isDeepSleepInProgress

theorem Latched.delayJobs_or_entries (h : c.Latched) : c.delayJobs = [] ∨ c.entries = [] := by
  have hactive := h.active
  unfold DeepSleepController.active at hactive
  by_contra hne
  obtain ⟨hd, he⟩ := not_or.mp hne
  have hd := List.length_pos_iff.mpr hd
  have he := List.length_pos_iff.mpr he
  omega

theorem Latched.entries_eq (h : c.Latched) {i : ℕ} {e : Entry} (he : c.entries[i]? = some e) :
    c.entries = [e] ∧ i = 0 ∧ c.delayJobs = [] := by
  have hactive := h.active
  unfold DeepSleepController.active at hactive
  cases hc : c.entries with
  | nil =>
      rw [hc] at he
      cases he
  | cons d rest =>
      rw [hc, List.length_cons] at hactive
      have hrest : rest = [] := List.length_eq_zero_iff.mp (by omega)
      have hjobs : c.delayJobs = [] := List.length_eq_zero_iff.mp (by omega)
      subst hrest
      rw [hc] at he
      cases i with
      | zero =>
          cases he
          exact ⟨rfl, rfl, hjobs⟩
      | succ i => cases he

/-- The only sequence goes on to its next phase. -/
theorem Latched.of_single {e : Entry} (hdelay : c.delayJobs = []) (hc : c.entries = [e])
    (hcount : e.phase.retryCount ≤ 5) (hhold : e.holdsLatch = c.isDeepSleepInProgress) :
    c.Latched where
  active := by simp [DeepSleepController.active, hdelay, hc]
  delayJob := by simp [hdelay]
  entry := by
    rw [hc]
    intro d hd
    rw [List.mem_singleton.mp hd]
    exact ⟨hcount, hhold⟩

theorem Latched.deactivate (h : c.Latched) : c.deactivate.Latched := by
  have hjobs : c.deactivate.delayJobs = [] := by
    apply List.filter_eq_nil_iff.mpr
    intro job hj
    simp [(h.delayJob job hj).1]
  refine ⟨?_, by simp [hjobs], ?_⟩
  · have hactive := h.active
    unfold DeepSleepController.active at hactive ⊢
    rw [hjobs]
    simp only [DeepSleepController.deactivate, List.length_map, List.length_nil]
    omega
  · intro e he
    obtain ⟨d, hd, rfl⟩ := List.mem_map.mp he
    exact ⟨(h.entry d hd).1, rfl⟩

theorem Latched.of_jobs (h : c.Latched) (jobs : List ActivateJob) :
    { c with activateJobs := jobs }.Latched :=
  ⟨h.active, h.delayJob, h.entry⟩

theorem Latched.eraseIdx (h : c.Latched) (i : ℕ) :
    { c with entries := c.entries.eraseIdx i }.Latched where
  active := by
    have hactive := h.active
    have hle := List.length_eraseIdx_le c.entries i
    unfold DeepSleepController.active at hactive
    change c.delayJobs.length + (c.entries.eraseIdx i).length ≤ 1
    omega
  delayJob := h.delayJob
  entry := fun e he => h.entry e (List.mem_of_mem_eraseIdx he)

theorem Latched.delayJobs_nil (h : c.Latched) (hidle : c.isDeepSleepInProgress = false) :
    c.delayJobs = [] := by
  apply List.eq_nil_iff_forall_not_mem.mpr
  intro job hj
  exact absurd (hidle.symm.trans (h.delayJob job hj).2) (by simp)

/-- A lambda of `performActivate` adds a sequence to those that lost the latch. -/
theorem Latched.performActivate_active (h : c.Latched) (env : Env) (job : ActivateJob)
    (hidle : c.isDeepSleepInProgress = false) :
    (c.performActivate env job).active = c.entries.length + 1 := by
  have hnil := h.delayJobs_nil hidle
  rcases performActivate_cases env job c with
    ⟨hbusy, _⟩ | ⟨_, _, _, ⟨id, time, _, hdelay, hent⟩ | ⟨hdelay, _, hent⟩⟩
  · exact absurd (hidle.symm.trans hbusy) (by simp)
  · rw [DeepSleepController.active, hdelay, hent, hnil]
    simp [Nat.add_comm]
  · rw [DeepSleepController.active, hdelay, hent, hnil]
    simp

theorem Latched.performActivate (h : c.Latched) (env : Env) (job : ActivateJob)
    (hent : c.isDeepSleepInProgress = false → c.entries = []) :
    (c.performActivate env job).Latched := by
  rcases performActivate_cases env job c with
    ⟨_, heq⟩ | ⟨hidle, hstate, _, ⟨id, time, hid, hdelay, hsame⟩ | ⟨hdelay, _, hnew⟩⟩
  · rw [heq]
    exact h
  · have hactive := h.performActivate_active env job hidle
    rw [hent hidle] at hactive hsame
    rw [h.delayJobs_nil hidle] at hdelay
    refine ⟨by simp [hactive], ?_, by simp [hsame]⟩
    rw [hdelay, hid]
    intro d hd
    rw [List.mem_singleton.mp hd]
    exact ⟨rfl, by rw [isDeepSleepInProgress, hstate]; rfl⟩
  · rw [hent hidle] at hnew
    rw [h.delayJobs_nil hidle] at hdelay
    apply Latched.of_single hdelay hnew le_rfl
    rw [isDeepSleepInProgress, hstate]
    rfl

theorem returnPhase_latch {result : ErrorCode} {userWakeup : Bool} {phase phase' : EntryPhase}
    {state : DeepSleepState} (h : returnPhase result userWakeup phase = some (state, phase'))
    (hcount : phase.retryCount ≤ 5) :
    phase'.retryCount ≤ 5 ∧ phase'.isFirstAttempt = false ∧ state ≠ .inProgress := by
  obtain ⟨hstate, ⟨wakeup, rfl⟩ | rfl | ⟨n, rfl, _, hn, rfl⟩⟩ := returnPhase_cases h
  · exact ⟨Nat.zero_le _, rfl, hstate⟩
  · exact ⟨Nat.zero_le _, rfl, hstate⟩
  · change n ≤ 5 at hcount
    refine ⟨?_, ?_, hstate⟩
    · change n - 1 ≤ 5
      omega
    · apply beq_eq_false_iff_ne.mpr
      omega

end DeepSleepController

namespace Implementation

open Transition DeepSleepController

variable {env : Env} {m m' : Implementation}

/-! ### Beginning a sequence -/

/-- `performActivate` runs during a sequence that no longer holds the latch. -/
def Reenters (m : Implementation) (a : Env × Action) : Prop :=
  m.takenJob a.2 ≠ none ∧ ∃ e ∈ m.deepSleepController.entries, e.holdsLatch = false

instance (m : Implementation) (a : Env × Action) : Decidable (m.Reenters a) :=
  inferInstanceAs (Decidable (_ ∧ _))

theorem Works.active_iff {a : SleepAction} {c' : DeepSleepController}
    (hl : m.deepSleepController.Latched) (h : Works env m.deepSleepController a c') :
    c'.active ≤ 1 ↔ ¬ m.Reenters (env, .sleep a) := by
  have hactive := hl.active
  cases h with
  | @performActivate i job hj =>
      have htaken : m.takenJob (.sleep (.performActivate i)) ≠ none := by simp [takenJob, hj]
      have hl' := hl.of_jobs (m.deepSleepController.activateJobs.eraseIdx i)
      cases hp : m.deepSleepController.isDeepSleepInProgress with
      | true =>
          apply iff_of_true
          · rcases performActivate_cases env job { m.deepSleepController with
              activateJobs := m.deepSleepController.activateJobs.eraseIdx i } with
              ⟨_, heq⟩ | ⟨hidle, _⟩
            · rw [heq]
              exact hactive
            · exact absurd (hp.symm.trans hidle) (by simp)
          · rintro ⟨_, e, he, hloose⟩
            rw [(hl.entry e he).2, hp] at hloose
            cases hloose
      | false =>
          rw [hl'.performActivate_active env job hp]
          change m.deepSleepController.entries.length + 1 ≤ 1 ↔ _
          cases hent : m.deepSleepController.entries with
          | nil => simp [Reenters, hent]
          | cons e rest =>
              have hloose : e.holdsLatch = false :=
                ((hl.entry e (by simp [hent])).2).trans hp
              have hre : m.Reenters (env, .sleep (.performActivate i)) :=
                ⟨htaken, e, by simp [hent], hloose⟩
              simp [hre]
  | @delayExpired i job hj =>
      have hempty : m.deepSleepController.entries = [] :=
        hl.delayJobs_or_entries.resolve_left fun hnil => by simp [hnil] at hj
      have hle := List.length_eraseIdx_add_one (List.getElem?_eq_some_iff.mp hj).1
      apply iff_of_true
      · change (m.deepSleepController.delayJobs.eraseIdx i).length +
          (m.deepSleepController.entries ++ [_]).length ≤ 1
        unfold active at hactive
        rw [List.length_append, List.length_singleton]
        omega
      · simp [Reenters, takenJob]
  | setDeepSleep he _ | sleepReturned he _ | announce he _ =>
      simpa [active, Reenters, takenJob] using hactive

theorem Works.latched {a : SleepAction} {c' : DeepSleepController}
    (hl : m.deepSleepController.Latched) (ha : ¬ m.Reenters (env, .sleep a))
    (h : Works env m.deepSleepController a c') : c'.Latched := by
  cases h with
  | @performActivate i job hj =>
      refine (hl.of_jobs _).performActivate env job fun hidle => ?_
      apply List.eq_nil_iff_forall_not_mem.mpr
      intro e he
      exact ha ⟨by simp [takenJob, hj], e, he, (hl.entry e he).2.trans hidle⟩
  | @delayExpired i job hj =>
      have hnil : m.deepSleepController.delayJobs.eraseIdx i = [] := by
        have hle := List.length_eraseIdx_add_one (List.getElem?_eq_some_iff.mp hj).1
        have hactive := hl.active
        unfold active at hactive
        apply List.length_eq_zero_iff.mp
        omega
      have hempty : m.deepSleepController.entries = [] :=
        hl.delayJobs_or_entries.resolve_left fun hd => by simp [hd] at hj
      have hbusy := (hl.delayJob job (List.mem_of_getElem? hj)).2
      have hent : ({ m.deepSleepController with
          delayJobs := m.deepSleepController.delayJobs.eraseIdx i
          }.enterDeepSleepDelayed job).entries =
            [{ stay := job.stay, phase := .sleepDelayed }] := by
        simp [enterDeepSleepDelayed, hempty]
      apply Latched.of_single hnil hent (Nat.zero_le _)
      exact hbusy.symm
  | @setDeepSleep i n e he hp =>
      obtain ⟨hone, rfl, hnil⟩ := hl.entries_eq he
      obtain ⟨hcount, hhold⟩ := hl.entry e (List.mem_of_getElem? he)
      rw [hone]
      rw [hp] at hcount
      refine Latched.of_single (e := { e with phase := .sleepNow n }) hnil rfl hcount ?_
      rw [Entry.holdsLatch, hp] at hhold
      exact hhold
  | @sleepReturned i e result userWakeup state phase he hr =>
      obtain ⟨hone, rfl, hnil⟩ := hl.entries_eq he
      obtain ⟨hcount, hloose, hstate⟩ :=
        returnPhase_latch hr (hl.entry e (List.mem_of_getElem? he)).1
      rw [hone]
      refine Latched.of_single (e := { e with phase := phase }) hnil rfl hcount ?_
      simp [Entry.holdsLatch, hloose, isDeepSleepInProgress, hstate]
  | @announce i e he hp =>
      obtain ⟨hone, rfl, hnil⟩ := hl.entries_eq he
      obtain ⟨_, hhold⟩ := hl.entry e (List.mem_of_getElem? he)
      rw [hone]
      refine Latched.of_single (e := { e with phase := .request .timer }) hnil rfl
        (Nat.zero_le _) ?_
      have hbefore : e.holdsLatch = false := by
        simp [Entry.holdsLatch, hp, EntryPhase.isFirstAttempt]
      have hafter : ({ e with phase := .request .timer } : Entry).holdsLatch = false := by
        simp [Entry.holdsLatch, EntryPhase.isFirstAttempt]
      exact hafter.trans (hbefore.symm.trans hhold)

/-! ### The result -/

theorem latched_step {a : Env × Action} (hm : m.Coherent) (hl : m.deepSleepController.Latched)
    (ha : ¬ m.Reenters a) (h : step m a = some m') : m'.deepSleepController.Latched := by
  refine step_controller (I := Latched) hm h (fun c jobs hc => hc.of_jobs jobs)
    (fun c hc => hc.deactivate) (fun c i e wakeup _ _ hc => hc.eraseIdx i) ?_ hl
  intro s c' hs hw
  obtain ⟨env, a⟩ := a
  subst hs
  exact hw.latched hl ha

theorem active_step_iff {a : Env × Action} (hm : m.Coherent) (hl : m.deepSleepController.Latched)
    (h : step m a = some m') : m'.deepSleepController.active ≤ 1 ↔ ¬ m.Reenters a := by
  by_cases ht : m.takenJob a.2 = none
  · have hnot : ¬ m.Reenters a := fun hre => hre.1 ht
    exact iff_of_true (latched_step hm hl hnot h).active hnot
  · obtain ⟨env, a⟩ := a
    cases a with
    | sleep a => exact (sleepStep_works h).active_iff hl
    | _ => exact absurd rfl ht

/-- At most one entry sequence is active throughout a run exactly if `performActivate` never
runs during a sequence that has failed an attempt, has returned from its call of `SetDeepSleep`
or has seen a `Deactivate`. -/
theorem latch_exclusive_iff {b : Bool} {pc : PowerController} {as : List (Env × Action)}
    (hr : run step (init b pc) as = some m) :
    (∀ bs u, bs <+: as → bs ≠ [] → run step (init b pc) bs = some u →
      u.deepSleepController.active ≤ 1) ↔
    Along step (fun m a => ¬ m.Reenters a) (init b pc) as := by
  refine always_iff_along (I := fun m => m.Coherent ∧ m.deepSleepController.Latched) ?_ ?_ ?_ hr
  · rintro s a t ⟨hm, hl⟩ hC ht
    exact ⟨coherent_step hm ht, latched_step hm hl hC ht⟩
  · rintro s a t ⟨hm, hl⟩ ht
    exact active_step_iff hm hl ht
  · exact ⟨coherent_init b pc, ⟨by simp [init, active], by simp [init], by simp [init]⟩⟩

/-- A request that no client is awaited for, up to its completion. -/
def immediate (newState : PowerState) : List (Env × Action) :=
  [({}, .setPowerState newState), ({}, .advance), ({}, .advance), ({}, .advance)]

/-- Deep sleep is entered at the second attempt, the timer ends it, and it is entered again. -/
def twoSleepsRun : List (Env × Action) :=
  List.append (immediate .standbyDeepSleep) (List.append
    [({}, .sleep (.performActivate 0)), ({}, .sleep (.setDeepSleep 0)),
      ({}, .sleep (.sleepReturned 0 .errorGeneral false)), ({}, .sleep (.setDeepSleep 0)),
      ({}, .sleep (.sleepReturned 0 .errorNone false)), ({}, .sleep (.announce 0)),
      ({}, .wakeup 0), ({}, .advance), ({}, .advance), ({}, .advance)]
    (List.append (immediate .standbyDeepSleep) [({}, .sleep (.performActivate 0))]))

theorem latch_exclusive_two_sleeps :
    ∃ m, run step (init false {}) twoSleepsRun = some m ∧
      ∀ bs u, bs <+: twoSleepsRun → bs ≠ [] → run step (init false {}) bs = some u →
        u.deepSleepController.active ≤ 1 := by
  have hr : run step (init false {}) twoSleepsRun = some _ := rfl
  exact ⟨_, hr, (latch_exclusive_iff hr).mpr (by decide)⟩

/-- Two activations are queued when the first attempt of the first one fails. -/
def failedAttemptRun : List (Env × Action) :=
  List.append (immediate .standbyDeepSleep) (List.append (immediate .on)
    (List.append (immediate .standbyDeepSleep)
      [({}, .sleep (.performActivate 0)), ({}, .sleep (.setDeepSleep 0)),
        ({}, .sleep (.sleepReturned 0 .errorGeneral false)), ({}, .sleep (.performActivate 0))]))

theorem latch_shared :
    ∃ m, run step (init false {}) failedAttemptRun = some m ∧
      m.deepSleepController.entries.map (·.phase) = [.attempt 4, .attempt 5] ∧
      m.deepSleepController.active = 2 ∧
      ∀ e ∈ m.deepSleepController.entries, e.deactivated = false :=
  ⟨_, rfl, by decide, by decide, by decide⟩

end Implementation

end DeviceAndDisplay.PowerManager
