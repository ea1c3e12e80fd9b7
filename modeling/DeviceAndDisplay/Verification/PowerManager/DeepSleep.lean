import DeviceAndDisplay.Verification.PowerManager.Coherent

/-! # Stays in deep sleep

A step changes the stored state only through a completion handler, and the work of the
deep-sleep controller only through an activation, a wake-up or a step of its own threads. -/

namespace DeviceAndDisplay.PowerManager

namespace DeepSleepController

variable {env : Env} {c c' : DeepSleepController}

/-! ### Stays -/

/-- The stays of all activations that are queued, delayed or under way. -/
def stays (c : DeepSleepController) : List ℕ :=
  c.activateJobs.map (·.stay) ++ c.delayJobs.map (·.stay) ++ c.entries.map (·.stay)

theorem mem_stays {k : ℕ} : k ∈ c.stays ↔ (∃ job ∈ c.activateJobs, job.stay = k) ∨
    (∃ job ∈ c.delayJobs, job.stay = k) ∨ ∃ e ∈ c.entries, e.stay = k := by
  simp [stays]

theorem stay_mem_of_activateJob {job : ActivateJob} (h : job ∈ c.activateJobs) :
    job.stay ∈ c.stays :=
  mem_stays.mpr (.inl ⟨job, h, rfl⟩)

theorem stay_mem_of_delayJob {job : DelayJob} (h : job ∈ c.delayJobs) : job.stay ∈ c.stays :=
  mem_stays.mpr (.inr (.inl ⟨job, h, rfl⟩))

theorem stay_mem_of_entry {e : Entry} (h : e ∈ c.entries) : e.stay ∈ c.stays :=
  mem_stays.mpr (.inr (.inr ⟨e, h, rfl⟩))

/-- Sequences end, or are marked, and delay jobs are revoked. -/
structure Winds (c c' : DeepSleepController) : Prop where
  activateJobs : c'.activateJobs = c.activateJobs
  delayJobs : ∀ job ∈ c'.delayJobs, job ∈ c.delayJobs
  entries : ∀ e' ∈ c'.entries, ∃ e ∈ c.entries, e'.stay = e.stay ∧ e'.phase = e.phase

theorem Winds.refl (c : DeepSleepController) : c.Winds c :=
  ⟨rfl, fun _ hj => hj, fun e he => ⟨e, he, rfl, rfl⟩⟩

theorem Winds.trans {c₁ c₂ c₃ : DeepSleepController} (h : c₁.Winds c₂) (h' : c₂.Winds c₃) :
    c₁.Winds c₃ where
  activateJobs := h'.activateJobs.trans h.activateJobs
  delayJobs := fun job hj => h.delayJobs job (h'.delayJobs job hj)
  entries := by
    intro e he
    obtain ⟨d, hd, hs, hp⟩ := h'.entries e he
    obtain ⟨b, hb, hs', hp'⟩ := h.entries d hd
    exact ⟨b, hb, hs.trans hs', hp.trans hp'⟩

theorem winds_deactivate (c : DeepSleepController) : c.Winds c.deactivate where
  activateJobs := rfl
  delayJobs := fun _ hj => List.mem_of_mem_filter hj
  entries := by
    intro e he
    obtain ⟨d, hd, rfl⟩ := List.mem_map.mp he
    exact ⟨d, hd, rfl, rfl⟩

theorem Winds.stays (h : c.Winds c') : c'.stays ⊆ c.stays := by
  intro k hk
  rcases mem_stays.mp hk with ⟨job, hj, rfl⟩ | ⟨job, hj, rfl⟩ | ⟨e, he, rfl⟩
  · apply stay_mem_of_activateJob
    rw [← h.activateJobs]
    exact hj
  · exact stay_mem_of_delayJob (h.delayJobs job hj)
  · obtain ⟨d, hd, hs, _⟩ := h.entries e he
    rw [hs]
    exact stay_mem_of_entry hd

/-- A lambda of `performActivate` either is dropped or begins a sequence. -/
theorem performActivate_cases (env : Env) (job : ActivateJob) (c : DeepSleepController) :
    (c.isDeepSleepInProgress = true ∧ c.performActivate env job = c) ∨
    (c.isDeepSleepInProgress = false ∧
      (c.performActivate env job).deepSleepState = .inProgress ∧
      (c.performActivate env job).activateJobs = c.activateJobs ∧
      ((∃ id time, (c.performActivate env job).deepSleepDelayJob = some id ∧
          (c.performActivate env job).delayJobs = c.delayJobs ++ [⟨id, time, job.stay⟩] ∧
          (c.performActivate env job).entries = c.entries) ∨
        (c.performActivate env job).delayJobs = c.delayJobs ∧
          (c.performActivate env job).deepSleepDelayJob = c.deepSleepDelayJob ∧
          (c.performActivate env job).entries =
            c.entries ++ [{ stay := job.stay, phase := .attempt 5 }])) := by
  unfold performActivate
  cases hp : c.isDeepSleepInProgress with
  | true => exact .inl ⟨rfl, rfl⟩
  | false =>
      right
      refine ⟨rfl, ?_⟩
      simp only [Bool.false_eq_true, if_false]
      split
      · exact ⟨rfl, rfl, .inl ⟨_, _, rfl, rfl, rfl⟩⟩
      · exact ⟨rfl, rfl, .inr ⟨rfl, rfl, rfl⟩⟩

/-- The return of `SetDeepSleep` ends the sequence or leads to another attempt. -/
theorem returnPhase_cases {result : ErrorCode} {userWakeup : Bool} {phase phase' : EntryPhase}
    {state : DeepSleepState} (h : returnPhase result userWakeup phase = some (state, phase')) :
    state ≠ .inProgress ∧ ((∃ wakeup, phase' = .request wakeup) ∨ phase' = .announce ∨
      ∃ n, phase = .sleepNow n ∧ result ≠ .errorNone ∧ n - 1 ≠ 0 ∧ phase' = .attempt (n - 1)) := by
  have hwake : (∃ wakeup, wakeupPhase userWakeup = .request wakeup) ∨
      wakeupPhase userWakeup = .announce := by
    cases userWakeup with
    | true => exact .inl ⟨.user, rfl⟩
    | false => exact .inr rfl
  cases phase with
  | sleepNow n =>
      by_cases hr : result = .errorNone
      · simp only [returnPhase, if_pos hr] at h
        cases h
        exact ⟨by simp, hwake.imp_right .inl⟩
      · by_cases hn : n - 1 = 0
        · simp only [returnPhase, if_neg hr, if_pos hn] at h
          cases h
          exact ⟨by simp, .inl ⟨_, rfl⟩⟩
        · simp only [returnPhase, if_neg hr, if_neg hn] at h
          cases h
          exact ⟨by simp, .inr (.inr ⟨n, rfl, hr, hn, rfl⟩)⟩
  | sleepDelayed =>
      by_cases hr : result = .errorNone
      · simp only [returnPhase, if_pos hr] at h
        cases h
        exact ⟨by simp, hwake.imp_right .inl⟩
      · simp only [returnPhase, if_neg hr] at h
        cases h
        exact ⟨by simp, .inl ⟨_, rfl⟩⟩
  | _ => cases h

end DeepSleepController

namespace Implementation

open Transition DeepSleepController

variable {env : Env} {m m' : Implementation}

/-! ### Steps of the deep-sleep threads -/

/-- The activation a step takes from the queue. -/
def takenJob (m : Implementation) : Action → Option ActivateJob
  | .sleep (.performActivate i) => m.deepSleepController.activateJobs[i]?
  | _ => none

/-- No step of a deep-sleep thread makes up an activation. -/
theorem Works.stays {c c' : DeepSleepController} {a : SleepAction} (h : Works env c a c') :
    c'.stays ⊆ c.stays := by
  have hset : ∀ {i : ℕ} {e e' : Entry}, c.entries[i]? = some e → e'.stay = e.stay →
      ∀ x ∈ c.entries.set i e', x.stay ∈ c.stays := by
    intro i e e' he hs x hx
    rcases List.mem_or_eq_of_mem_set hx with hx | rfl
    · exact stay_mem_of_entry hx
    · rw [hs]
      exact stay_mem_of_entry (List.mem_of_getElem? he)
  intro k hk
  cases h with
  | @performActivate i job hj =>
      have hjob := stay_mem_of_activateJob (List.mem_of_getElem? hj)
      have herase : ∀ d ∈ c.activateJobs.eraseIdx i, d.stay ∈ c.stays :=
        fun d hd => stay_mem_of_activateJob (List.mem_of_mem_eraseIdx hd)
      rcases performActivate_cases env job { c with activateJobs := c.activateJobs.eraseIdx i } with
        ⟨_, heq⟩ | ⟨_, _, hact, ⟨id, time, _, hdelay, hent⟩ | ⟨hdelay, _, hent⟩⟩
      · rw [heq] at hk
        rcases mem_stays.mp hk with ⟨d, hd, rfl⟩ | h | h
        · exact herase d hd
        · exact mem_stays.mpr (.inr (.inl h))
        · exact mem_stays.mpr (.inr (.inr h))
      · rw [mem_stays, hact, hdelay, hent] at hk
        rcases hk with ⟨d, hd, rfl⟩ | ⟨d, hd, rfl⟩ | h
        · exact herase d hd
        · rcases List.mem_append.mp hd with hd | hd
          · exact stay_mem_of_delayJob hd
          · rw [List.mem_singleton.mp hd]
            exact hjob
        · exact mem_stays.mpr (.inr (.inr h))
      · rw [mem_stays, hact, hdelay, hent] at hk
        rcases hk with ⟨d, hd, rfl⟩ | h | ⟨d, hd, rfl⟩
        · exact herase d hd
        · exact mem_stays.mpr (.inr (.inl h))
        · rcases List.mem_append.mp hd with hd | hd
          · exact stay_mem_of_entry hd
          · rw [List.mem_singleton.mp hd]
            exact hjob
  | @delayExpired i job hj =>
      rcases mem_stays.mp hk with h | ⟨d, hd, rfl⟩ | ⟨d, hd, rfl⟩
      · exact mem_stays.mpr (.inl h)
      · exact stay_mem_of_delayJob (List.mem_of_mem_eraseIdx hd)
      · rcases List.mem_append.mp hd with hd | hd
        · exact stay_mem_of_entry hd
        · rw [List.mem_singleton.mp hd]
          exact stay_mem_of_delayJob (List.mem_of_getElem? hj)
  | setDeepSleep he _ | sleepReturned he _ | announce he _ =>
      rcases mem_stays.mp hk with h | h | ⟨d, hd, rfl⟩
      · exact mem_stays.mpr (.inl h)
      · exact mem_stays.mpr (.inr (.inl h))
      · exact hset he (by rfl) d hd

/-! ### Steps that store a state -/

/-- The part of a completion handler's effect that deep sleep depends on. -/
structure Stores (env : Env) (h : Completion) (m m' : Implementation) : Prop where
  stay : m'.stay = m.completionStay env h false
  deepSleep : m'.deepSleepController =
    { m.deepSleepController with activateJobs := m'.deepSleepController.activateJobs }
  refused : ¬ m.Accepts env h false →
    m'.powerController = m.powerController ∧ m'.deepSleepController = m.deepSleepController
  accepted : m.Accepts env h false → m'.powerState = h.newState
  activated : m.Accepts env h false → h.newState = .standbyDeepSleep →
    ∃ timeOut nwStandbyMode, m'.deepSleepController.activateJobs =
      m.deepSleepController.activateJobs ++ [⟨timeOut, nwStandbyMode, m'.stay⟩]
  notActivated : h.newState ≠ .standbyDeepSleep → m'.deepSleepController = m.deepSleepController

theorem CompletionEffect.stores {h : Completion} {isTimedout : Bool} {m₀ : Implementation}
    (he : CompletionEffect env h isTimedout false m₀ m')
    (hpc : m₀.powerController = m.powerController)
    (hdsc : m₀.deepSleepController = m.deepSleepController) (hstay : m₀.stay = m.stay) :
    Stores env h m m' := by
  have hacc : m₀.Accepts env h false ↔ m.Accepts env h false := by
    rw [Accepts, Accepts, hpc]
  have hcs : m₀.completionStay env h false = m.completionStay env h false := by
    unfold completionStay
    rw [hstay]
    apply if_congr _ rfl rfl
    rw [hacc, Implementation.powerState, Implementation.powerState, hpc]
  constructor
  · rw [← hcs]
    exact he.stay
  · rw [← hdsc]
    exact he.frame.deepSleep
  · rw [← hacc, ← hpc, ← hdsc]
    exact he.refused
  · rw [← hacc]
    exact he.accepted
  · rw [← hacc, ← hdsc]
    exact he.activated
  · rw [← hdsc]
    exact he.notActivated

/-- A step neither stores a state nor works for the deep-sleep threads. -/
structure Rests (m m' : Implementation) : Prop where
  powerController : m'.powerController = m.powerController
  stay : m'.stay = m.stay
  winds : m.deepSleepController.Winds m'.deepSleepController

theorem winds_of_entries (c : DeepSleepController) (entries : List Entry)
    (h : ∀ e ∈ entries, e ∈ c.entries) : c.Winds { c with entries := entries } :=
  ⟨rfl, fun _ hj => hj, fun e he => ⟨e, h e he, rfl, rfl⟩⟩

theorem entering_rests {a : Action} {newState : PowerState} {origin : Origin}
    {m₀ : Implementation} (h : m.entering a = some (newState, origin, m₀)) : Rests m m₀ := by
  cases a with
  | setPowerState s =>
      cases h
      exact ⟨rfl, rfl, .refl _⟩
  | wakeup i =>
      obtain ⟨e, wakeup, _, _, _, _, rfl⟩ := takeWakeup_eq h
      refine ⟨rfl, rfl, winds_of_entries _ _ fun e he => ?_⟩
      exact List.mem_of_mem_eraseIdx he
  | _ => cases h

theorem enter_rests {newState : PowerState} {origin : Origin}
    (h : m.enterSetPowerState env newState origin = some m') : Rests m m' := by
  obtain ⟨_, ⟨_, rfl⟩ | ⟨_, rfl⟩⟩ := enterSetPowerState_cases h
  · exact ⟨rfl, rfl, .refl _⟩
  · rw [entered_eq]
    refine ⟨rfl, rfl, ?_⟩
    change m.deepSleepController.Winds (if _ then _ else _)
    split
    · exact winds_deactivate _
    · exact .refl _

theorem Rests.trans {m₁ m₂ m₃ : Implementation} (h : Rests m₁ m₂) (h' : Rests m₂ m₃) :
    Rests m₁ m₃ :=
  ⟨h'.powerController.trans h.powerController, h'.stay.trans h.stay, h.winds.trans h'.winds⟩

theorem Rests.powerState (h : Rests m m') : m'.powerState = m.powerState :=
  congrArg (fun pc => pc.settings.powerState) h.powerController

/-- A step leaves deep sleep alone. -/
structure Unmoved (m m' : Implementation) : Prop where
  powerController : m'.powerController = m.powerController
  stay : m'.stay = m.stay
  deepSleepController : m'.deepSleepController = m.deepSleepController

theorem Unmoved.rests (h : Unmoved m m') : Rests m m' where
  powerController := h.powerController
  stay := h.stay
  winds := by
    rw [h.deepSleepController]
    exact .refl _

theorem Aside.unmoved (h : Aside m m') : Unmoved m m' :=
  ⟨h.powerController, h.stay, h.deepSleepController⟩

/-- An advancing call leaves deep sleep alone, unless it completes at once. -/
theorem Advances.unmoved_or_stores {call : Call} {due : Option Completion}
    (h : Advances env m call due m') :
    due = none ∧ Unmoved m m' ∨ ∃ h, due = some h ∧ Stores env h m m' := by
  cases h with
  | redundant | starts =>
      left
      rw [returnFromCall_eq]
      exact ⟨rfl, rfl, rfl, rfl⟩
  | installs | submits | tests | arms => exact .inl ⟨rfl, rfl, rfl, rfl⟩
  | @completes c _ _ _ _ =>
      right
      refine ⟨call.completion c, rfl, ?_⟩
      rw [returnFromCall_eq]
      obtain ⟨hstay, hdeep, href, hacc, hact, hnot⟩ :=
        (completionHandler_effect env (call.completion c) false false m).stores rfl rfl rfl
      exact ⟨hstay, hdeep, href, hacc, hact, hnot⟩

theorem Ends.stores {c : PreModeChangeController} {h : Completion} {isTimedout : Bool}
    {m₀ : Implementation} (he : Ends env m m' c h isTimedout m₀) : Stores env h m m' := by
  have hsame := he.same
  exact he.effect.stores (by rw [hsame]) (by rw [hsame]) (by rw [hsame])

theorem step_deepSleep {a : Env × Action} (hm : m.Coherent) (h : step m a = some m') :
    (m.dueCompletion a.2 = none ∧ Rests m m') ∨
    (∃ sleep, a.2 = .sleep sleep ∧ m.sleepStep a.1 sleep = some m') ∨
    ∃ h, m.dueCompletion a.2 = some h ∧ Stores a.1 h m m' := by
  obtain ⟨env, a⟩ := a
  rcases step_cases hm h with
    ⟨s, origin, m₀, henter, h⟩ | ⟨call, _, _, hadv⟩ | ⟨hb, hdue⟩ | hs |
      ⟨c, hc, t, m₀, he, hdue⟩
  · left
    have hdue : m.dueCompletion a = none := by
      cases a <;> first | rfl | cases henter
    exact ⟨hdue, (entering_rests henter).trans (enter_rests h)⟩
  · rcases hadv.unmoved_or_stores with ⟨hdue, hu⟩ | hr
    · exact .inl ⟨hdue, hu.rests⟩
    · exact .inr (.inr hr)
  · exact .inl ⟨hdue, hb.unmoved.rests⟩
  · exact .inr (.inl hs)
  · exact .inr (.inr ⟨hc, hdue, he.stores⟩)

/-- The invariant rule for the deep-sleep controller. -/
theorem step_controller {I : DeepSleepController → Prop} {a : Env × Action} (hm : m.Coherent)
    (h : step m a = some m') (hjobs : ∀ c jobs, I c → I { c with activateJobs := jobs })
    (hdeactivate : ∀ c, I c → I c.deactivate)
    (herase : ∀ c i e wakeup, c.entries[i]? = some e → e.phase = .request wakeup → I c →
      I { c with entries := c.entries.eraseIdx i })
    (hworks : ∀ s c', a.2 = .sleep s → Works a.1 m.deepSleepController s c' → I c')
    (hI : I m.deepSleepController) : I m'.deepSleepController := by
  obtain ⟨env, a⟩ := a
  rcases step_cases hm h with
    ⟨s, origin, m₀, henter, h⟩ | ⟨call, _, _, hadv⟩ | ⟨hb, _⟩ | ⟨s, hs, hstep⟩ |
      ⟨c, hc, t, m₀, he, _⟩
  · have hI₀ : I m₀.deepSleepController := by
      cases a with
      | setPowerState newState =>
          cases henter
          exact hI
      | wakeup i =>
          obtain ⟨e, wakeup, he, hp, _, _, rfl⟩ := takeWakeup_eq henter
          exact herase _ i e wakeup he hp hI
      | _ => cases henter
    obtain ⟨_, ⟨_, rfl⟩ | ⟨_, rfl⟩⟩ := enterSetPowerState_cases h
    · exact hI₀
    · rw [entered_eq]
      change I (if _ then _ else _)
      split
      · exact hdeactivate _ hI₀
      · exact hI₀
  · rcases hadv.unmoved_or_stores with ⟨_, hu⟩ | ⟨h, _, hs⟩
    · rw [hu.deepSleepController]
      exact hI
    · rw [hs.deepSleep]
      exact hjobs _ _ hI
  · rw [hb.deepSleepController]
    exact hI
  · exact hworks s _ hs (sleepStep_works hstep)
  · rw [he.stores.deepSleep]
    exact hjobs _ _ hI

/-! ### The stay an activation belongs to -/

/-- Activations belong to the present stay in deep sleep or to an earlier one. -/
def Linked (m : Implementation) : Prop :=
  ∀ k ∈ m.deepSleepController.stays, k ≤ m.stay ∧ (k = m.stay → m.powerState = .standbyDeepSleep)

theorem linked_init (b : Bool) (pc : PowerController) : (init b pc).Linked := by
  simp [Linked, init, stays]

theorem Linked.of_stays (hl : m.Linked) (hp : m'.powerState = m.powerState)
    (hstay : m'.stay = m.stay)
    (hsub : m'.deepSleepController.stays ⊆ m.deepSleepController.stays) : m'.Linked := by
  intro k hk
  rw [hp, hstay]
  exact hl k (hsub hk)

/-- The stay count tells a stored state that was left from one that was not. -/
theorem Stores.stay_cases {h : Completion} (hs : Stores env h m m') :
    (m'.stay = m.stay ∧ (m.powerState = .standbyDeepSleep →
      m'.powerState = .standbyDeepSleep)) ∨
    m'.stay = m.stay + 1 ∧ m.Accepts env h false ∧ m.powerState = .standbyDeepSleep ∧
      h.newState ≠ .standbyDeepSleep := by
  have hstay := hs.stay
  unfold completionStay at hstay
  split at hstay
  · rename_i hleft
    exact .inr ⟨hstay, hleft⟩
  · rename_i hstays
    refine .inl ⟨hstay, fun hd => ?_⟩
    by_cases ha : m.Accepts env h false
    · rw [hs.accepted ha]
      by_contra hne
      exact hstays ⟨ha, hd, hne⟩
    · rw [Implementation.powerState, (hs.refused ha).1]
      exact hd

theorem Linked.of_stores (hl : m.Linked) {h : Completion} (hs : Stores env h m m') :
    m'.Linked := by
  have hold : ∀ k ∈ m.deepSleepController.stays,
      k ≤ m'.stay ∧ (k = m'.stay → m'.powerState = .standbyDeepSleep) := by
    intro k hk
    obtain ⟨hle, hd⟩ := hl k hk
    rcases hs.stay_cases with ⟨hstay, hkeep⟩ | ⟨hstay, _⟩ <;> rw [hstay]
    · exact ⟨hle, fun hk => hkeep (hd hk)⟩
    · refine ⟨Nat.le_succ_of_le hle, fun hk => ?_⟩
      omega
  intro k hk
  by_cases hnew : h.newState = .standbyDeepSleep
  · by_cases ha : m.Accepts env h false
    · obtain ⟨timeOut, nw, hjobs⟩ := hs.activated ha hnew
      rw [mem_stays, hjobs, hs.deepSleep] at hk
      rcases hk with ⟨job, hj, rfl⟩ | hk | hk
      · rcases List.mem_append.mp hj with hj | hj
        · exact hold _ (stay_mem_of_activateJob hj)
        · rw [List.mem_singleton.mp hj]
          exact ⟨le_rfl, fun _ => (hs.accepted ha).trans hnew⟩
      · exact hold k (mem_stays.mpr (.inr (.inl hk)))
      · exact hold k (mem_stays.mpr (.inr (.inr hk)))
    · rw [(hs.refused ha).2] at hk
      exact hold k hk
  · rw [hs.notActivated hnew] at hk
    exact hold k hk

theorem linked_step {a : Env × Action} (hm : m.Coherent) (hl : m.Linked)
    (h : step m a = some m') : m'.Linked := by
  rcases step_deepSleep hm h with ⟨_, hr⟩ | ⟨s, _, hs⟩ | ⟨h, _, hs⟩
  · exact hl.of_stays hr.powerState hr.stay hr.winds.stays
  · have hb := sleepStep_background hs
    exact hl.of_stays hb.powerState hb.stay (sleepStep_works hs).stays
  · exact hl.of_stores hs

end Implementation

end DeviceAndDisplay.PowerManager
