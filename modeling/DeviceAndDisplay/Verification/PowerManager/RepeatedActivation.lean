import DeviceAndDisplay.Verification.PowerManager.DeepSleep

/-! # Activations and earlier ones

`performActivate` sets the wake-up timeout anew each time, but it only overwrites the delay when
`/tmp/deepSleepTimer` holds a number other than zero: the delay of an earlier activation stays. -/

namespace DeviceAndDisplay.PowerManager

/-- The wake-up timeout of a `SetDeepSleep` call. -/
def LogEntry.passedTimeOut : LogEntry → Option ℕ
  | .platformSetDeepSleep timeOut _ _ _ _ => some timeOut
  | _ => none

/-- What an activation comes to: the seconds of the delay, or `none` for an immediate entry, and
the timeout that `SetDeepSleep` gets. -/
structure Entered where
  delay : Option ℕ
  timeOut : ℕ
deriving DecidableEq, Repr

namespace DeepSleepController

/-- The file holds a number other than zero. -/
def Overrides (file : Option ℕ) : Prop := overrideValue file 0 ≠ 0

instance (file : Option ℕ) : Decidable (Overrides file) := inferInstanceAs (Decidable (_ ≠ _))

theorem overrideValue_of_overrides {file : Option ℕ} (h : Overrides file) (default : ℕ) :
    overrideValue file default = overrideValue file 0 ∧ overrideValue file default ≠ 0 := by
  cases file with
  | none => exact absurd rfl h
  | some value =>
      cases value with
      | zero => exact absurd rfl h
      | succ value => exact ⟨rfl, h⟩

theorem overrideValue_of_not_overrides {file : Option ℕ} (h : ¬ Overrides file) (default : ℕ) :
    overrideValue file default = default := by
  cases file with
  | none => rfl
  | some value =>
      cases value with
      | zero => rfl
      | succ value => exact absurd (Nat.succ_ne_zero value) h

end DeepSleepController

namespace Implementation

open Transition DeepSleepController

variable {env : Env} {m m' : Implementation}

/-- The `i`-th queued activation runs, and the sequence it begins calls `SetDeepSleep`. -/
def enteredBy (env : Env) (i : ℕ) (m : Implementation) : Option Entered :=
  (m.sleepStep env (.performActivate i)).bind fun m' =>
    let waiting := m.deepSleepController.delayJobs.length
    if m'.deepSleepController.delayJobs.length = waiting then
      (m'.sleepStep env (.setDeepSleep m.deepSleepController.entries.length)).bind fun m'' =>
        (m''.log.head?.bind LogEntry.passedTimeOut).map fun timeOut => ⟨none, timeOut⟩
    else
      (m'.sleepStep env (.delayExpired waiting)).bind fun m'' =>
        (m''.log.head?.bind LogEntry.passedTimeOut).map fun timeOut =>
          ⟨some m'.deepSleepController.deepSleepDelaySec, timeOut⟩

/-- Two activations come to the same, and to an immediate entry without a delay in the file. -/
def EnterAlike (env₁ env₂ : Env) (i₁ i₂ : ℕ) (m₁ m₂ : Implementation) : Prop :=
  m₁.enteredBy env₁ i₁ = m₂.enteredBy env₂ i₂ ∧
    (¬ Overrides env₁.deepSleepTimer →
      ∀ entered ∈ m₁.enteredBy env₁ i₁, entered.delay = none)

/-- An activation that begins a sequence finds a delay in the file. -/
def ReadsDelay (m : Implementation) : Env × Action → Prop
  | (env, .sleep (.performActivate _)) =>
      m.deepSleepController.isDeepSleepInProgress = false ∧ Overrides env.deepSleepTimer
  | _ => False

instance (m : Implementation) : ∀ a, Decidable (m.ReadsDelay a)
  | (_, .sleep (.performActivate _)) => inferInstanceAs (Decidable (_ ∧ _))
  | (_, .sleep (.delayExpired _)) | (_, .sleep (.setDeepSleep _)) | (_, .sleep (.announce _))
  | (_, .sleep (.sleepReturned _ _ _)) | (_, .setPowerState _) | (_, .wakeup _) | (_, .advance)
  | (_, .timerDispatch) | (_, .timerRun) | (_, .cancelledDispatch _) | (_, .cancelledRun _)
  | (_, .api _) => isFalse id

/-! ### One activation -/

theorem enteredBy_eq {i : ℕ} {job : ActivateJob}
    (hidle : m.deepSleepController.isDeepSleepInProgress = false)
    (hjob : m.deepSleepController.activateJobs[i]? = some job) :
    m.enteredBy env i = some {
      delay :=
        if overrideValue env.deepSleepTimer m.deepSleepController.deepSleepDelaySec = 0 then none
        else some (overrideValue env.deepSleepTimer m.deepSleepController.deepSleepDelaySec)
      timeOut := overrideValue env.deepSleepTimerVal job.timeOut } := by
  have hidle' : DeepSleepController.isDeepSleepInProgress { m.deepSleepController with
      activateJobs := m.deepSleepController.activateJobs.eraseIdx i } = false := hidle
  simp only [enteredBy, sleepStep, hjob, Option.map_some, Option.bind_some, performActivate, hidle',
    Bool.false_eq_true, if_false]
  by_cases hd : overrideValue env.deepSleepTimer m.deepSleepController.deepSleepDelaySec = 0
  · simp [hd, callSetDeepSleep, emit, setEntries, LogEntry.passedTimeOut]
  · simp [hd, callSetDeepSleep, emit, enterDeepSleepDelayed, LogEntry.passedTimeOut]

/-! ### The delay that is kept -/

/-- The seconds that an activation without an override is delayed by. -/
def keptDelay (m : Implementation) : ℕ := m.deepSleepController.deepSleepDelaySec

theorem keptDelay_enter {newState : PowerState} {origin : Origin}
    (h : m.enterSetPowerState env newState origin = some m') : m'.keptDelay = m.keptDelay := by
  obtain ⟨_, ⟨_, rfl⟩ | ⟨_, rfl⟩⟩ := enterSetPowerState_cases h
  · rfl
  · rw [entered_eq]
    simp only [keptDelay]
    split <;> rfl

theorem Stores.keptDelay {h : Completion} (hs : Stores env h m m') :
    m'.keptDelay = m.keptDelay := by
  rw [Implementation.keptDelay, hs.deepSleep]
  rfl

theorem Works.keptDelay {c c' : DeepSleepController} {a : SleepAction} (h : Works env c a c')
    (ha : ∀ i, a ≠ .performActivate i) : c'.deepSleepDelaySec = c.deepSleepDelaySec := by
  cases h with
  | @performActivate i job hj => exact absurd rfl (ha i)
  | _ => rfl

theorem performActivate_delay (env : Env) (job : ActivateJob) (c : DeepSleepController) :
    (c.performActivate env job).deepSleepDelaySec =
      if c.isDeepSleepInProgress then c.deepSleepDelaySec
      else overrideValue env.deepSleepTimer c.deepSleepDelaySec := by
  unfold performActivate
  split
  · rfl
  · simp only []
    split <;> rfl

/-- No step but an activation changes the delay. -/
theorem keptDelay_of_ne {a : Action} (hm : m.Coherent)
    (ha : ∀ i, a ≠ .sleep (.performActivate i)) (h : step m (env, a) = some m') :
    m'.keptDelay = m.keptDelay := by
  rcases step_cases hm h with
    ⟨s, origin, m₀, henter, h⟩ | ⟨call, _, _, hadv⟩ | ⟨hb, _⟩ | ⟨s, hs, h⟩ | ⟨c, hc, t, m₀, he, _⟩
  · obtain ⟨entries, rfl⟩ := entering_eq henter
    exact (keptDelay_enter h).trans rfl
  · rcases hadv.unmoved_or_stores with ⟨_, hu⟩ | ⟨h, _, hs⟩
    · rw [keptDelay, hu.deepSleepController]
      rfl
    · exact hs.keptDelay
  · rw [keptDelay, hb.deepSleepController]
    rfl
  · refine (sleepStep_works h).keptDelay fun i hi => ha i ?_
    rw [← hi]
    exact hs
  · exact he.stores.keptDelay

/-- The delay stays zero until an activation reads another one. -/
theorem keptDelay_step {a : Env × Action} (hm : m.Coherent) (h : step m a = some m') :
    m'.keptDelay = 0 ↔ m.keptDelay = 0 ∧ ¬ m.ReadsDelay a := by
  obtain ⟨env, a⟩ := a
  by_cases ha : ∃ i, a = .sleep (.performActivate i)
  · obtain ⟨i, rfl⟩ := ha
    obtain ⟨job, _, rfl⟩ := Option.map_eq_some_iff.mp h
    rw [keptDelay, performActivate_delay, keptDelay, ReadsDelay]
    simp only [isDeepSleepInProgress]
    by_cases hp : m.deepSleepController.deepSleepState = .inProgress
    · simp [hp]
    · by_cases hf : Overrides env.deepSleepTimer
      · simp [hp, hf, (overrideValue_of_overrides hf _).2]
      · simp [hp, hf, overrideValue_of_not_overrides hf]
  · have hne : ∀ i, a ≠ .sleep (.performActivate i) := fun i hi => ha ⟨i, hi⟩
    have hread : ¬ m.ReadsDelay (env, a) := by
      intro hread
      cases a with
      | sleep s =>
          cases s with
          | performActivate i => exact hne i rfl
          | _ => exact hread
      | _ => exact hread
    rw [keptDelay_of_ne hm hne h]
    simp [hread]

/-- After a run the delay is zero exactly when no activation has read another one. -/
theorem keptDelay_eq_zero_iff {b : Bool} {pc : PowerController} {as : List (Env × Action)}
    (hr : run step (init b pc) as = some m) :
    m.keptDelay = 0 ↔ Along step (fun m a => ¬ m.ReadsDelay a) (init b pc) as := by
  have h : m.keptDelay = 0 ↔
      (init b pc).keptDelay = 0 ∧ Along step (fun m a => ¬ m.ReadsDelay a) (init b pc) as := by
    refine run_iff_along (D := fun _ => True) (I := Coherent) (P := fun m => m.keptDelay = 0) ?_ ?_
      (coherent_init b pc) (fun _ _ => trivial) hr
    · exact fun s a t hs _ ht => coherent_step hs ht
    · exact fun s a t hs _ ht => keptDelay_step hs ht
  exact h.trans (and_iff_right rfl)

/-! ### The result -/

/-- Two activations of the same timeout, which find the same files and no sequence in progress, come
to the same whatever happened before, if the delay file holds a number other than zero or no earlier
activation of either history has found one there; and only then. -/
theorem activation_independent_iff {b : Bool} {pc₁ pc₂ : PowerController}
    {as₁ as₂ : List (Env × Action)} {m₁ m₂ : Implementation} {env₁ env₂ : Env} {i₁ i₂ : ℕ}
    {job₁ job₂ : ActivateJob} (hr₁ : run step (init b pc₁) as₁ = some m₁)
    (hr₂ : run step (init b pc₂) as₂ = some m₂)
    (hidle₁ : m₁.deepSleepController.isDeepSleepInProgress = false)
    (hidle₂ : m₂.deepSleepController.isDeepSleepInProgress = false)
    (hjob₁ : m₁.deepSleepController.activateJobs[i₁]? = some job₁)
    (hjob₂ : m₂.deepSleepController.activateJobs[i₂]? = some job₂)
    (htimeOut : job₁.timeOut = job₂.timeOut)
    (hdelay : env₁.deepSleepTimer = env₂.deepSleepTimer)
    (hval : env₁.deepSleepTimerVal = env₂.deepSleepTimerVal) :
    EnterAlike env₁ env₂ i₁ i₂ m₁ m₂ ↔
      Overrides env₁.deepSleepTimer ∨
        Along step (fun m a => ¬ m.ReadsDelay a) (init b pc₁) as₁ ∧
        Along step (fun m a => ¬ m.ReadsDelay a) (init b pc₂) as₂ := by
  rw [EnterAlike, enteredBy_eq hidle₁ hjob₁, enteredBy_eq hidle₂ hjob₂,
    ← keptDelay_eq_zero_iff hr₁, ← keptDelay_eq_zero_iff hr₂, ← hdelay, ← hval, ← htimeOut]
  by_cases hf : Overrides env₁.deepSleepTimer
  · obtain ⟨h₁, _⟩ := overrideValue_of_overrides hf m₁.deepSleepController.deepSleepDelaySec
    obtain ⟨h₂, _⟩ := overrideValue_of_overrides hf m₂.deepSleepController.deepSleepDelaySec
    simp [hf, h₁, h₂]
  · simp only [overrideValue_of_not_overrides hf, hf, not_false_eq_true, false_or, true_imp_iff]
    change _ ↔ m₁.deepSleepController.deepSleepDelaySec = 0 ∧
      m₂.deepSleepController.deepSleepDelaySec = 0
    constructor
    · rintro ⟨hsame, himmediate⟩
      have h₁ : m₁.deepSleepController.deepSleepDelaySec = 0 := by
        by_contra hne
        exact absurd (himmediate _ rfl) (by simp [hne])
      refine ⟨h₁, ?_⟩
      by_contra hne
      simp [h₁, hne] at hsame
    · rintro ⟨h₁, h₂⟩
      simp [h₁, h₂]

/-- The device sleeps once without a delay and is woken by the user before it sleeps again. -/
def secondSleepRun : List (Env × Action) :=
  [({}, .setPowerState .standbyDeepSleep), ({}, .advance), ({}, .advance), ({}, .advance),
    ({}, .sleep (.performActivate 0)), ({}, .sleep (.setDeepSleep 0)),
    ({}, .sleep (.sleepReturned 0 .errorNone true)), ({}, .wakeup 0), ({}, .advance),
    ({}, .advance), ({}, .advance), ({}, .setPowerState .standbyDeepSleep), ({}, .advance),
    ({}, .advance), ({}, .advance)]

/-- The device goes to deep sleep for the first time. -/
def firstSleepRun : List (Env × Action) :=
  [({}, .setPowerState .standbyDeepSleep), ({}, .advance), ({}, .advance), ({}, .advance)]

/-- The first activation finds a delay of ten seconds, and the device is switched on before they are
over. -/
def delayedSleepRun : List (Env × Action) :=
  [({}, .setPowerState .standbyDeepSleep), ({}, .advance), ({}, .advance), ({}, .advance),
    ({ deepSleepTimer := some 10 }, .sleep (.performActivate 0)),
    ({ now := 6 * ticksPerSecond }, .setPowerState .on), ({}, .advance), ({}, .advance),
    ({}, .advance), ({}, .setPowerState .standbyDeepSleep), ({}, .advance), ({}, .advance),
    ({}, .advance)]

theorem activation_independent_second :
    ∃ m₁ m₂, run step (init false {}) firstSleepRun = some m₁ ∧
      run step (init false {}) secondSleepRun = some m₂ ∧
      EnterAlike {} {} 0 0 m₁ m₂ := by
  obtain ⟨m₁, hr₁, hidle₁, hjob₁⟩ : ∃ m, run step (init false {}) firstSleepRun = some m ∧
      m.deepSleepController.isDeepSleepInProgress = false ∧
      m.deepSleepController.activateJobs[0]? = some ⟨0, false, 0⟩ := ⟨_, rfl, rfl, rfl⟩
  obtain ⟨m₂, hr₂, hidle₂, hjob₂⟩ : ∃ m, run step (init false {}) secondSleepRun = some m ∧
      m.deepSleepController.isDeepSleepInProgress = false ∧
      m.deepSleepController.activateJobs[0]? = some ⟨0, false, 1⟩ := ⟨_, rfl, rfl, rfl⟩
  refine ⟨m₁, m₂, hr₁, hr₂, ?_⟩
  rw [activation_independent_iff hr₁ hr₂ hidle₁ hidle₂ hjob₁ hjob₂ rfl rfl rfl]
  exact .inr ⟨by decide, by decide⟩

/-- Without any file, the second activation is delayed by the ten seconds that the first one found,
where a first activation enters deep sleep at once. -/
theorem activation_not_independent :
    ∃ m₁ m₂, run step (init false {}) firstSleepRun = some m₁ ∧
      run step (init false {}) delayedSleepRun = some m₂ ∧
      m₁.enteredBy {} 0 = some ⟨none, 0⟩ ∧ m₂.enteredBy {} 0 = some ⟨some 10, 0⟩ ∧
      ¬ EnterAlike {} {} 0 0 m₁ m₂ := by
  refine ⟨_, _, rfl, rfl, rfl, rfl, ?_⟩
  rintro ⟨hsame, _⟩
  exact absurd hsame (by decide)

end Implementation

end DeviceAndDisplay.PowerManager
