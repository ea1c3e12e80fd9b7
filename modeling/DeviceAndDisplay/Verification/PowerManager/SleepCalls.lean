import DeviceAndDisplay.Verification.PowerManager.DeepSleep
import DeviceAndDisplay.Verification.PowerManager.Log

/-! # Calls of SetDeepSleep

`Deactivate` revokes the delay job. It does not withdraw a queued activation and does not stop
the retry loop, so an activation can be carried on when its stay in deep sleep is over. -/

namespace DeviceAndDisplay.PowerManager

def EntryPhase.isAttempt : EntryPhase → Bool
  | .attempt _ => true
  | _ => false

/-- An attempt with this result is followed by another one. -/
def EntryPhase.retries (result : ErrorCode) : EntryPhase → Bool
  | .sleepNow retryCount => result != .errorNone && retryCount - 1 != 0
  | _ => false

/-- A call of `SetDeepSleep` is for the present stay, in deep sleep. -/
def LogEntry.Rightful : LogEntry → Prop
  | .platformSetDeepSleep _ _ stay stored current => stored = .standbyDeepSleep ∧ stay = current
  | _ => True

instance : DecidablePred LogEntry.Rightful := fun e => by
  cases e <;> unfold LogEntry.Rightful <;> infer_instance

theorem LogEntry.rightful_of_isNeutral {e : LogEntry} (h : e.isNeutral = true) : e.Rightful := by
  cases e <;> trivial

namespace Implementation

open Transition DeepSleepController

variable {env : Env} {m m' : Implementation}

/-! ### Activations that outlive their stay -/

/-- The sequence that a step sends into another attempt. -/
def retriedEntry (m : Implementation) : Action → Option Entry
  | .sleep (.sleepReturned i result _) =>
      m.deepSleepController.entries[i]?.filter fun e => e.phase.retries result
  | _ => none

/-- The state a step is about to take the device to, out of deep sleep. -/
def Leaves (m : Implementation) (a : Env × Action) : Prop :=
  m.powerState = .standbyDeepSleep ∧ ∃ h ∈ m.dueCompletion a.2,
    h.newState ≠ .standbyDeepSleep ∧ m.Accepts a.1 h false

/-- A step begins or retries a sequence when its stay is over, or ends the stay while a delay
job or an attempt is outstanding. -/
def Overstays (m : Implementation) (a : Env × Action) : Prop :=
  (∃ job ∈ m.takenJob a.2,
    m.deepSleepController.isDeepSleepInProgress = false ∧ job.stay ≠ m.stay) ∨
  (∃ e ∈ m.retriedEntry a.2, e.stay ≠ m.stay) ∨
  m.Leaves a ∧ (m.deepSleepController.delayJobs ≠ [] ∨
    ∃ e ∈ m.deepSleepController.entries, e.phase.isAttempt = true)

instance (m : Implementation) (a : Env × Action) : Decidable (m.Leaves a) :=
  inferInstanceAs (Decidable (_ ∧ _))

instance (m : Implementation) (a : Env × Action) : Decidable (m.Overstays a) :=
  inferInstanceAs (Decidable (_ ∨ _))

/-- Whatever will call `SetDeepSleep` belongs to the present stay. -/
structure Punctual (m : Implementation) : Prop where
  delayJobs : ∀ job ∈ m.deepSleepController.delayJobs, job.stay = m.stay
  attempts : ∀ e ∈ m.deepSleepController.entries, e.phase.isAttempt = true → e.stay = m.stay

theorem punctual_init (b : Bool) (pc : PowerController) : (init b pc).Punctual where
  delayJobs := by simp [init]
  attempts := by simp [init]

theorem Punctual.of_rests (hp : m.Punctual) (hr : Rests m m') : m'.Punctual where
  delayJobs := by
    intro job hj
    rw [hr.stay]
    exact hp.delayJobs job (hr.winds.delayJobs job hj)
  attempts := by
    intro e he ha
    obtain ⟨d, hd, hs, hph⟩ := hr.winds.entries e he
    rw [hr.stay, hs]
    exact hp.attempts d hd (hph ▸ ha)

theorem Punctual.of_stores (hp : m.Punctual) {a : Env × Action} {h : Completion}
    (hdue : m.dueCompletion a.2 = some h) (hs : Stores a.1 h m m') (ha : ¬ m.Overstays a) :
    m'.Punctual := by
  rcases hs.stay_cases with ⟨hstay, _⟩ | ⟨_, hacc, hd, hne⟩
  · constructor
    · rw [hs.deepSleep, hstay]
      exact hp.delayJobs
    · rw [hs.deepSleep, hstay]
      exact hp.attempts
  · have hleaves : m.Leaves a := ⟨hd, h, hdue, hne, hacc⟩
    have hnone : ¬ (m.deepSleepController.delayJobs ≠ [] ∨
        ∃ e ∈ m.deepSleepController.entries, e.phase.isAttempt = true) :=
      fun hw => ha (.inr (.inr ⟨hleaves, hw⟩))
    obtain ⟨hjobs, hent⟩ := not_or.mp hnone
    constructor
    · rw [hs.deepSleep]
      intro job hj
      rw [not_not.mp hjobs] at hj
      cases hj
    · rw [hs.deepSleep]
      intro e he hph
      exact absurd ⟨e, he, hph⟩ hent

theorem returnPhase_attempt {result : ErrorCode} {userWakeup : Bool} {phase phase' : EntryPhase}
    {state : DeepSleepState} (h : returnPhase result userWakeup phase = some (state, phase'))
    (ha : phase'.isAttempt = true) : phase.retries result = true := by
  obtain ⟨_, ⟨wakeup, rfl⟩ | rfl | ⟨n, rfl, hr, hn, _⟩⟩ := returnPhase_cases h
  · cases ha
  · cases ha
  · simp [EntryPhase.retries, hr, hn]

theorem Punctual.of_works (hp : m.Punctual) {a : SleepAction} (h : m.sleepStep env a = some m')
    (ha : ¬ m.Overstays (env, .sleep a)) : m'.Punctual := by
  have hstay : m'.stay = m.stay := (sleepStep_background h).stay
  have hw := sleepStep_works h
  have hset : ∀ {i : ℕ} {e e' : Entry}, m.deepSleepController.entries[i]? = some e →
      (e'.phase.isAttempt = true → e'.stay = m.stay) →
      ∀ x ∈ m.deepSleepController.entries.set i e', x.phase.isAttempt = true → x.stay = m.stay := by
    intro i e e' he hs x hx
    rcases List.mem_or_eq_of_mem_set hx with hx | rfl
    · exact hp.attempts x hx
    · exact hs
  generalize hc' : m'.deepSleepController = c' at hw
  constructor <;> rw [hc', hstay]
  · cases hw with
    | @performActivate i job hj =>
        rcases performActivate_cases env job
          { m.deepSleepController with
            activateJobs := m.deepSleepController.activateJobs.eraseIdx i } with
          ⟨_, heq⟩ | ⟨hidle, _, _, ⟨id, time, _, hdelay, _⟩ | ⟨hdelay, _, _⟩⟩
        · rw [heq]
          exact hp.delayJobs
        · have hfresh : job.stay = m.stay := by
            by_contra hne
            exact ha (.inl ⟨job, hj, hidle, hne⟩)
          rw [hdelay]
          intro d hd
          rcases List.mem_append.mp hd with hd | hd
          · exact hp.delayJobs d hd
          · rw [List.mem_singleton.mp hd]
            exact hfresh
        · rw [hdelay]
          exact hp.delayJobs
    | delayExpired hj => exact fun d hd => hp.delayJobs d (List.mem_of_mem_eraseIdx hd)
    | _ => exact hp.delayJobs
  · cases hw with
    | @performActivate i job hj =>
        rcases performActivate_cases env job
          { m.deepSleepController with
            activateJobs := m.deepSleepController.activateJobs.eraseIdx i } with
          ⟨_, heq⟩ | ⟨hidle, _, _, ⟨id, time, _, _, hent⟩ | ⟨_, _, hent⟩⟩
        · rw [heq]
          exact hp.attempts
        · rw [hent]
          exact hp.attempts
        · have hfresh : job.stay = m.stay := by
            by_contra hne
            exact ha (.inl ⟨job, hj, hidle, hne⟩)
          rw [hent]
          intro e he hph
          rcases List.mem_append.mp he with he | he
          · exact hp.attempts e he hph
          · rw [List.mem_singleton.mp he]
            exact hfresh
    | delayExpired hj =>
        intro e he hph
        rcases List.mem_append.mp he with he | he
        · exact hp.attempts e he hph
        · rw [List.mem_singleton.mp he] at hph
          cases hph
    | setDeepSleep he _ => exact hset he (by rintro ⟨⟩)
    | announce he _ => exact hset he (by rintro ⟨⟩)
    | @sleepReturned i e result userWakeup state phase he hr =>
        refine hset he fun hph => ?_
        by_contra hne
        apply ha
        refine .inr (.inl ⟨e, ?_, hne⟩)
        simp [retriedEntry, he, returnPhase_attempt hr hph]

theorem punctual_step {a : Env × Action} (hm : m.Coherent) (hp : m.Punctual)
    (ha : ¬ m.Overstays a) (h : step m a = some m') : m'.Punctual := by
  rcases step_deepSleep hm h with ⟨_, hr⟩ | ⟨s, hs, hstep⟩ | ⟨h, hdue, hs⟩
  · exact hp.of_rests hr
  · obtain ⟨env, a⟩ := a
    subst hs
    exact hp.of_works hstep ha
  · exact hp.of_stores hdue hs ha

/-! ### The result -/

theorem Punctual.sleepCall (hp : m.Punctual) {a : SleepAction} {stay : ℕ}
    (h : m.sleepStep env a = some m') (hc : sleepCall m.deepSleepController a = some stay) :
    stay = m.stay := by
  have hw := sleepStep_works h
  generalize m'.deepSleepController = c' at hw
  cases hw with
  | delayExpired hj =>
      simp only [Implementation.sleepCall, hj, Option.map_some, Option.some.injEq] at hc
      rw [← hc]
      exact hp.delayJobs _ (List.mem_of_getElem? hj)
  | setDeepSleep he hph =>
      simp only [Implementation.sleepCall, he, Option.map_some, Option.some.injEq] at hc
      rw [← hc]
      exact hp.attempts _ (List.mem_of_getElem? he) (by rw [hph]; rfl)
  | _ => cases hc

theorem rightful_step {a : Env × Action} (hm : m.Coherent) (hl : m.Linked) (hp : m.Punctual)
    (hlog : ∀ e ∈ m.log, e.Rightful) (h : step m a = some m') : ∀ e ∈ m'.log, e.Rightful := by
  have happ : ∀ {es : List LogEntry}, m'.log = es ++ m.log → (∀ e ∈ es, e.Rightful) →
      ∀ e ∈ m'.log, e.Rightful := by
    intro es heq hes e he
    rw [heq] at he
    exact (List.mem_append.mp he).elim (hes e) (hlog e)
  rcases step_log hm h with
    ⟨_, _, es, heq, hes⟩ | ⟨s, _, hs⟩ | ⟨c, hc, t, m₀, hr, _⟩ | ⟨_, call, log, cs, _, hi⟩
  · exact happ heq fun e he => LogEntry.rightful_of_isNeutral (hes e he)
  · refine happ (sleepStep_log hs) fun e he => ?_
    rcases mem_sleepLog he with he | ⟨_, rfl⟩ | ⟨_, _, stay, hcall, rfl⟩
    · exact LogEntry.rightful_of_isNeutral
        (LogEntry.isNeutral_of_isListener (isListener_of_mem_callbacks he))
    · trivial
    · have hstay : stay = m.stay := hp.sleepCall hs hcall
      -- an activation of the present stay finds the device still in deep sleep
      have hmem : stay ∈ m.deepSleepController.stays := by
        cases s with
        | delayExpired i =>
            obtain ⟨job, hj, rfl⟩ := Option.map_eq_some_iff.mp hcall
            exact stay_mem_of_delayJob (List.mem_of_getElem? hj)
        | setDeepSleep i =>
            obtain ⟨d, hd, rfl⟩ := Option.map_eq_some_iff.mp hcall
            exact stay_mem_of_entry (List.mem_of_getElem? hd)
        | _ => cases hcall
      exact ⟨(hl stay hmem).2 hstay, hstay⟩
  · obtain ⟨es, heq, hes⟩ := hr.log
    rw [← List.append_assoc] at heq
    refine happ heq fun e he => ?_
    rcases List.mem_append.mp he with he | he
    · exact LogEntry.rightful_of_isNeutral (hes e he)
    · rcases mem_completionLog he with hn | rfl | rfl | rfl | rfl | rfl
      · exact LogEntry.rightful_of_isNeutral hn
      all_goals trivial
  · have heq := hi.log
    rw [← List.cons_append] at heq
    refine happ heq fun e he => ?_
    rcases List.mem_cons.mp he with rfl | he
    · trivial
    · rcases mem_reset hm hi.reset he with rfl | rfl | rfl <;> trivial

/-- As long as no activation is carried on when its stay is over, `SetDeepSleep` is called in
deep sleep only, and for the present stay. -/
theorem deep_sleep_entered_in_deep_sleep {b : Bool} {pc : PowerController}
    (hr : ReachableBy step (fun m a => ¬ m.Overstays a) (init b pc) m) :
    ∀ timeOut nwStandbyMode stay stored current,
      .platformSetDeepSleep timeOut nwStandbyMode stay stored current ∈ m.log →
        stored = .standbyDeepSleep ∧ stay = current := by
  have hinv : m.Coherent ∧ m.Linked ∧ m.Punctual ∧ ∀ e ∈ m.log, e.Rightful := by
    refine hr.invariant
      (I := fun m => m.Coherent ∧ m.Linked ∧ m.Punctual ∧ ∀ e ∈ m.log, e.Rightful) ?_ ?_
    · rintro s a t ⟨hm, hl, hp, hlog⟩ hC ht
      exact ⟨coherent_step hm ht, linked_step hm hl ht, punctual_step hm hp hC ht,
        rightful_step hm hl hp hlog ht⟩
    · exact ⟨coherent_init b pc, linked_init b pc, punctual_init b pc, by simp [init]⟩
  exact fun timeOut nw stay stored current hmem => hinv.2.2.2 _ hmem

/-- The device goes to deep sleep, fails once and sleeps at the second attempt. -/
def sleepRun : List (Env × Action) :=
  [({}, .setPowerState .standbyDeepSleep), ({}, .advance), ({}, .advance), ({}, .advance),
    ({}, .sleep (.performActivate 0)), ({}, .sleep (.setDeepSleep 0)),
    ({}, .sleep (.sleepReturned 0 .errorGeneral false)), ({}, .sleep (.setDeepSleep 0))]

theorem deep_sleep_entered_in_deep_sleep_retried :
    ∃ m, run step (init false {}) sleepRun = some m ∧
      (∃ timeOut, .platformSetDeepSleep timeOut false 0 .standbyDeepSleep 0 ∈ m.log) ∧
      ∀ timeOut nwStandbyMode stay stored current,
        .platformSetDeepSleep timeOut nwStandbyMode stay stored current ∈ m.log →
          stored = .standbyDeepSleep ∧ stay = current := by
  have hr : run step (init false {}) sleepRun = some _ := rfl
  refine ⟨_, hr, ⟨0, by decide⟩, ?_⟩
  exact deep_sleep_entered_in_deep_sleep ⟨_, hr, by decide⟩

/-- The device is switched on before the queued activation runs. -/
def overtakenRun : List (Env × Action) :=
  [({}, .setPowerState .standbyDeepSleep), ({}, .advance), ({}, .advance), ({}, .advance),
    ({}, .setPowerState .on), ({}, .advance), ({}, .advance), ({}, .advance),
    ({}, .sleep (.performActivate 0)), ({}, .sleep (.setDeepSleep 0))]

theorem deep_sleep_entered_when_on :
    ∃ m timeOut, run step (init false {}) overtakenRun = some m ∧
      .platformSetDeepSleep timeOut false 0 .on 1 ∈ m.log :=
  ⟨_, 0, rfl, by decide⟩

end Implementation

end DeviceAndDisplay.PowerManager
