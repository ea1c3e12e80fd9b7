import DeviceAndDisplay.Model.SystemServices.LogUpload
import DeviceAndDisplay.Transition.Run
import Mathlib.Data.List.InsertIdx
import Mathlib.Data.List.Nodup

/-! # One upload, one outcome

Uploads are accounted for exactly as long as no upload is started while another one is not reaped,
none is aborted that has ended by itself, and no event is taken for that of a later upload. -/

namespace DeviceAndDisplay.SystemServices

open Transition

namespace LogUpload

variable {s s' : LogUpload} {a : LogUploadAction} {t : ThreadId} {p pid : Pid}

/-! ### Statements about a state -/

/-- Started and not yet reaped. -/
def Unreaped (p : Pid) (s : LogUpload) : Prop := p < s.started ∧ (s.processes p).reaped = false

def notified (s : LogUpload) : List Pid := s.notifications.map UploadNotification.pid

/-- No call is in progress, every event is delivered and no process runs. -/
def Quiescent (s : LogUpload) : Prop :=
  (∀ t, s.threads t = .idle) ∧ s.events = [] ∧
    ∀ p < s.started, (s.processes p).state ≠ .running

/-- One upload at a time, and each with one outcome. -/
structure Accounted (s : LogUpload) : Prop where
  /-- There is at most one process that is not reaped, and its pid is in `m_uploadLogsPid`. -/
  current : ∀ p, s.Unreaped p ↔ s.uploadLogsPid = some p
  /-- A notification is caused by the process it is sent for, and has its status. -/
  right : ∀ n ∈ s.notifications,
    n.source = n.pid ∧ (s.processes n.pid).outcome = some n.status
  once : s.notified.Nodup
  notified : ∀ p < s.started, (s.processes p).reaped = true → p ∈ s.notified
  /-- `waitpid` is not called for a process that still runs. -/
  waits : ∀ t p, s.threads t = .wait → s.uploadLogsPid = some p → (s.processes p).outcome ≠ none
  complete : s.Quiescent → ∀ p < s.started, (s.processes p).reaped = true

/-- The upload has not ended by itself, or it has ended with the status that aborting it reports. -/
def Abortable (s : LogUpload) : Prop :=
  ∀ pid ∈ s.uploadLogsPid,
    (s.processes pid).outcome = none ∨ (s.processes pid).outcome = some .aborted

/-- The condition on a step. -/
def Orderly (s : LogUpload) : LogUploadAction → Prop
  | .proceed t _ =>
      (s.threads t = .start → s.uploadLogsPid = none) ∧
      (s.threads t = .abortThenStart ∨ s.threads t = .abort → s.Abortable)
  | .abortLogUpload _ => s.Abortable
  | .onLogUpload _ i => ∀ event ∈ s.events[i]?, ∀ pid ∈ s.uploadLogsPid, event.pid = pid
  | _ => True

instance : Decidable s.Abortable :=
  inferInstanceAs (Decidable (∀ pid ∈ s.uploadLogsPid, _))

instance (s : LogUpload) : ∀ a, Decidable (s.Orderly a)
  | .proceed _ _ => inferInstanceAs (Decidable (_ ∧ _))
  | .abortLogUpload _ => inferInstanceAs (Decidable s.Abortable)
  | .onLogUpload _ i => inferInstanceAs (Decidable (∀ event ∈ s.events[i]?, _))
  | .uploadLogsAsync _ | .onSystemPowerStateChanged _ _ _ _ | .ends _ _ => isTrue trivial

/-! ### The invariant -/

/-- What an upload that is not reaped has coming while the mutex is free. -/
structure Tracked (s : LogUpload) : Prop extends s.Accounted where
  events : ∀ e ∈ s.events, e.pid < s.started ∧ (s.processes e.pid).state = .ended e.status
  distinct : (s.events.map UploadEvent.pid).Nodup
  known : ∀ n ∈ s.notifications, n.pid < s.started
  free : s.uploadLogsMutex = none → ∀ p, s.Unreaped p → p ∉ s.notified ∧
    ((s.processes p).state = .running ∨ p ∈ s.events.map UploadEvent.pid)
  waiting : ∀ t, s.threads t = .wait ↔ s.uploadLogsMutex = some t
  held : s.uploadLogsMutex ≠ none → ∃ p, s.uploadLogsPid = some p ∧
    (s.processes p).outcome ≠ none ∧ p ∈ s.notified ∧ p ∉ s.events.map UploadEvent.pid

/-! ### What a step does -/

inductive Moves (s : LogUpload) : LogUploadAction → LogUpload → Prop
  | plans {a : LogUploadAction} (t : ThreadId) (call : LogUploadCall)
      (responses : List (ThreadId × Bool)) (hC : s.Orderly a) (hm : s.uploadLogsMutex = none)
      (hcall : call ≠ .wait) :
      Moves s a { s with threads := Function.update s.threads t call, responses := responses }
  | drops {a : LogUploadAction} (i : ℕ) (hC : s.Orderly a) (hp : s.uploadLogsPid = none) :
      Moves s a { s with events := s.events.eraseIdx i }
  | ends (p : Pid) (status : LogUploadStatus) (hp : p < s.started)
      (hrun : (s.processes p).state = .running) :
      Moves s (.ends p status) { s with
        processes := Function.update s.processes p { s.processes p with state := .ended status }
        events := s.events ++ [⟨p, status⟩] }
  | aborts {a : LogUploadAction} (t : ThreadId) (call : LogUploadCall)
      (responses : List (ThreadId × Bool)) (pid : Pid) (hp : s.uploadLogsPid = some pid)
      (hC : s.Orderly a ↔ s.Abortable) (hm : s.uploadLogsMutex = none) (hcall : call ≠ .wait) :
      Moves s a { s with
        uploadLogsPid := none
        processes := Function.update s.processes pid (s.processes pid).killAndReap
        notifications := ⟨.aborted, pid, pid⟩ :: s.notifications
        threads := Function.update s.threads t call
        responses := responses }
  | starts {a : LogUploadAction} (t : ThreadId) (forks : Bool)
      (hC : s.Orderly a ↔ s.uploadLogsPid = none) (hm : s.uploadLogsMutex = none) :
      Moves s a ((s.startUpload forks).respond t true)
  | delivers (t : ThreadId) (i : ℕ) (event : UploadEvent) (pid : Pid)
      (he : s.events[i]? = some event) (hp : s.uploadLogsPid = some pid)
      (hm : s.uploadLogsMutex = none) :
      Moves s (.onLogUpload t i) { s with
        events := s.events.eraseIdx i
        notifications := ⟨event.status, pid, event.pid⟩ :: s.notifications
        uploadLogsMutex := some t
        threads := Function.update s.threads t .wait }
  | reaps {a : LogUploadAction} (t : ThreadId) (pid : Pid) (ht : s.threads t = .wait)
      (hC : s.Orderly a) (hp : s.uploadLogsPid = some pid) :
      Moves s a { s with
        uploadLogsPid := none
        uploadLogsMutex := none
        processes := Function.update s.processes pid { s.processes pid with reaped := true }
        threads := Function.update s.threads t .idle }

theorem testUpload_moves (t : ThreadId) (hC : s.Orderly a) (hm : s.uploadLogsMutex = none) :
    Moves s a (s.testUpload t) := by
  unfold testUpload
  split
  · exact .plans t .abortThenStart s.responses hC hm (by simp)
  · exact .plans t .start s.responses hC hm (by simp)

theorem abort_moves (t : ThreadId) (call : LogUploadCall) (responses : List (ThreadId × Bool))
    (hC : s.Orderly a ↔ s.Abortable) (hm : s.uploadLogsMutex = none) (hcall : call ≠ .wait) :
    Moves s a { s.abortUpload.2 with
      threads := Function.update s.threads t call, responses := responses } := by
  unfold abortUpload
  cases hp : s.uploadLogsPid with
  | none =>
      refine .plans t call responses (hC.mpr ?_) hm hcall
      intro pid hpid
      rw [hp] at hpid
      cases hpid
  | some pid => exact .aborts t call responses pid hp hC hm hcall

theorem stays_moves (hC : s.Orderly a) (hm : s.uploadLogsMutex = none)
    (ht : s.threads t = .idle) : Moves s a s := by
  have hmoves := Moves.plans t .idle s.responses hC hm (by simp)
  rwa [← ht, Function.update_eq_self] at hmoves

@[simp] theorem abortUpload_threads : s.abortUpload.2.threads = s.threads := by
  unfold abortUpload
  split <;> rfl

theorem powerStateChanged_moves {currentPowerState powerState : SystemPowerState}
    {rfcLogUpload : Bool} (hC : s.Orderly a) (hm : s.uploadLogsMutex = none)
    (ht : s.threads t = .idle) :
    Moves s a (s.powerStateChanged t currentPowerState powerState rfcLogUpload) := by
  unfold powerStateChanged
  split
  · split
    · exact testUpload_moves t hC hm
    · exact stays_moves hC hm ht
  · split
    · exact testUpload_moves t hC hm
    · exact stays_moves hC hm ht
  · split
    · exact .plans t .abort s.responses hC hm (by simp)
    · exact stays_moves hC hm ht
  · exact stays_moves hC hm ht

theorem notifyUpload_moves {i : ℕ} {event : UploadEvent} (he : s.events[i]? = some event)
    (hm : s.uploadLogsMutex = none) :
    Moves s (.onLogUpload t i)
      ({ s with events := s.events.eraseIdx i }.notifyUpload t event) := by
  unfold notifyUpload
  split
  · next hp =>
      have hp : s.uploadLogsPid = none := hp
      exact .drops i (by simp [Orderly, hp]) hp
  · next pid hp => exact .delivers t i event pid he hp hm

theorem proceed_moves {forks : Bool} (h : s.proceed t forks = some s') :
    Moves s (.proceed t forks) s' := by
  unfold proceed at h
  cases ht : s.threads t with
  | idle => simp [ht] at h
  | wait =>
      simp only [ht, reapUpload] at h
      cases hp : s.uploadLogsPid with
      | none => simp [hp] at h
      | some pid =>
          simp only [hp] at h
          cases (Option.ite_none_left_eq_some.mp h).2
          exact .reaps t pid ht (by simp [Orderly, ht]) hp
  | abortThenStart =>
      simp only [ht] at h
      obtain ⟨hm, hs'⟩ := Option.ite_none_left_eq_some.mp h
      cases hs'
      have hmoves := abort_moves (s := s) (a := .proceed t forks) t .start s.abortUpload.2.responses
        (by simp [Orderly, ht]) (by simpa using hm) (by simp)
      rwa [← abortUpload_threads] at hmoves
  | start =>
      simp only [ht] at h
      obtain ⟨hm, hs'⟩ := Option.ite_none_left_eq_some.mp h
      cases hs'
      exact .starts t forks (by simp [Orderly, ht]) (by simpa using hm)
  | abort =>
      simp only [ht] at h
      obtain ⟨hm, hs'⟩ := Option.ite_none_left_eq_some.mp h
      cases hs'
      have hmoves := abort_moves (s := s) (a := .proceed t forks) t .idle s.abortUpload.2.responses
        (by simp [Orderly, ht]) (by simpa using hm) (by simp)
      rwa [← abortUpload_threads] at hmoves

theorem logUploadStep_moves (h : logUploadStep s a = some s') : Moves s a s' := by
  cases a with
  | uploadLogsAsync t =>
      obtain ⟨⟨_, hm⟩, hs'⟩ := Option.ite_none_right_eq_some.mp h
      cases hs'
      exact testUpload_moves t trivial hm
  | abortLogUpload t =>
      obtain ⟨⟨_, hm⟩, hs'⟩ := Option.ite_none_right_eq_some.mp h
      cases hs'
      have hmoves := abort_moves t .idle ((t, s.abortUpload.1) :: s.abortUpload.2.responses)
        (Iff.refl (s.Orderly (.abortLogUpload t))) hm (by simp)
      rwa [← abortUpload_threads] at hmoves
  | onSystemPowerStateChanged t currentPowerState powerState rfcLogUpload =>
      obtain ⟨⟨ht, hm⟩, hs'⟩ := Option.ite_none_right_eq_some.mp h
      cases hs'
      exact powerStateChanged_moves trivial hm ht
  | onLogUpload t i =>
      obtain ⟨⟨_, hm⟩, hs'⟩ := Option.ite_none_right_eq_some.mp h
      obtain ⟨event, he, rfl⟩ := Option.map_eq_some_iff.mp hs'
      exact notifyUpload_moves he hm
  | proceed t forks => exact proceed_moves h
  | ends p status =>
      obtain ⟨⟨hp, hrun⟩, hs'⟩ := Option.ite_none_right_eq_some.mp h
      cases hs'
      exact .ends p status hp hrun

/-! ### What the moves keep -/

@[simp] theorem outcome_killAndReap (process : UploadProcess) :
    process.killAndReap.outcome = some .aborted ↔
      process.outcome = none ∨ process.outcome = some .aborted := by
  cases hstate : process.state <;> simp [UploadProcess.outcome, UploadProcess.killAndReap, hstate]

theorem killAndReap_ended {process : UploadProcess} {status : LogUploadStatus}
    (h : process.state = .ended status) : process.killAndReap.state = .ended status := by
  simp [UploadProcess.killAndReap, h]

theorem outcome_ended {process : UploadProcess} {status : LogUploadStatus}
    (h : process.state = .ended status) : process.outcome = some status := by
  simp [UploadProcess.outcome, h]

theorem outcome_eq_none {process : UploadProcess} :
    process.outcome = none ↔ process.state = .running := by
  cases hstate : process.state <;> simp [UploadProcess.outcome, hstate]

theorem pid_not_mem_eraseIdx {events : List UploadEvent} {event : UploadEvent} {i : ℕ}
    (hd : (events.map UploadEvent.pid).Nodup) (he : events[i]? = some event) :
    event.pid ∉ (events.eraseIdx i).map UploadEvent.pid := by
  rw [← List.eraseIdx_map, List.mem_eraseIdx_iff_getElem?]
  rintro ⟨j, hne, hj⟩
  have hi : (events.map UploadEvent.pid)[i]? = some event.pid := by
    simp [he]
  have hlt : j < (events.map UploadEvent.pid).length := (List.getElem?_eq_some_iff.mp hj).1
  exact hne ((List.getElem?_inj hlt hd).mp (hj.trans hi.symm))

theorem Tracked.not_unreaped (hs : s.Tracked) (hp : s.uploadLogsPid = none) : ¬ s.Unreaped p := by
  intro hu
  have h := (hs.current p).mp hu
  rw [hp] at h
  cases h

theorem Tracked.unreaped (hs : s.Tracked) (hp : s.uploadLogsPid = some p) : s.Unreaped p :=
  (hs.current p).mpr hp

/-- The rest of the invariant follows from these parts. -/
theorem tracked_of (current : ∀ p, s.Unreaped p ↔ s.uploadLogsPid = some p)
    (right : ∀ n ∈ s.notifications,
      n.source = n.pid ∧ (s.processes n.pid).outcome = some n.status)
    (once : s.notified.Nodup)
    (notified : ∀ p < s.started, (s.processes p).reaped = true → p ∈ s.notified)
    (events : ∀ e ∈ s.events, e.pid < s.started ∧ (s.processes e.pid).state = .ended e.status)
    (distinct : (s.events.map UploadEvent.pid).Nodup)
    (known : ∀ n ∈ s.notifications, n.pid < s.started)
    (free : s.uploadLogsMutex = none → ∀ p, s.Unreaped p → p ∉ s.notified ∧
      ((s.processes p).state = .running ∨ p ∈ s.events.map UploadEvent.pid))
    (waiting : ∀ t, s.threads t = .wait ↔ s.uploadLogsMutex = some t)
    (held : s.uploadLogsMutex ≠ none → ∃ p, s.uploadLogsPid = some p ∧
      (s.processes p).outcome ≠ none ∧ p ∈ s.notified ∧ p ∉ s.events.map UploadEvent.pid) :
    s.Tracked := by
  refine ⟨⟨current, right, once, notified, ?_, ?_⟩, events, distinct, known, free, waiting, held⟩
  · intro t p ht hp
    have hm : s.uploadLogsMutex ≠ none := by simp [(waiting t).mp ht]
    obtain ⟨p', hp', hout, _⟩ := held hm
    rw [hp] at hp'
    cases hp'
    exact hout
  · rintro ⟨hidle, hevents, hends⟩ p hp
    have hm : s.uploadLogsMutex = none := by
      rw [Option.eq_none_iff_forall_ne_some]
      intro t ht
      simpa [hidle t] using (waiting t).mpr ht
    by_contra hreaped
    have hu : s.Unreaped p := ⟨hp, by simpa using hreaped⟩
    rcases (free hm p hu).2 with hrun | hmem
    · exact hends p hp hrun
    · simp [hevents] at hmem

/-- A thread whose next call is not `waitpid`, while the mutex is free. -/
theorem Tracked.waiting_update (hs : s.Tracked) (hm : s.uploadLogsMutex = none)
    {call : LogUploadCall} (hcall : call ≠ .wait) (t' : ThreadId) :
    Function.update s.threads t call t' = .wait ↔ none = some t' := by
  have hfree : s.threads t' ≠ .wait := by
    intro ht'
    have h := (hs.waiting t').mp ht'
    rw [hm] at h
    cases h
  rcases eq_or_ne t' t with rfl | hne
  · simp [hcall]
  · simp [hne, hfree]

theorem tracked_plans (hs : s.Tracked) (call : LogUploadCall)
    (responses : List (ThreadId × Bool)) (hm : s.uploadLogsMutex = none) (hcall : call ≠ .wait) :
    Tracked { s with threads := Function.update s.threads t call, responses := responses } := by
  refine tracked_of hs.current hs.right hs.once hs.notified hs.events hs.distinct hs.known hs.free
    ?_ hs.held
  intro t'
  simp only [hm]
  exact hs.waiting_update hm hcall t'

theorem tracked_drops (hs : s.Tracked) (i : ℕ) (hp : s.uploadLogsPid = none) :
    Tracked { s with events := s.events.eraseIdx i } := by
  refine tracked_of hs.current hs.right hs.once hs.notified ?_ ?_ hs.known ?_ hs.waiting ?_
  · intro e he
    exact hs.events e (List.mem_of_mem_eraseIdx he)
  · exact hs.distinct.sublist ((List.eraseIdx_sublist _ i).map _)
  · intro _ p hu
    exact absurd hu (hs.not_unreaped hp)
  · intro hm
    obtain ⟨p, hp', _⟩ := hs.held hm
    rw [hp] at hp'
    cases hp'

theorem tracked_ends (hs : s.Tracked) (status : LogUploadStatus) (hp : p < s.started)
    (hrun : (s.processes p).state = .running) :
    Tracked { s with
      processes := Function.update s.processes p { s.processes p with state := .ended status }
      events := s.events ++ [⟨p, status⟩] } := by
  have hnone : (s.processes p).outcome = none := outcome_eq_none.mpr hrun
  have hreaped : ∀ q, (Function.update s.processes p
      { s.processes p with state := .ended status } q).reaped = (s.processes q).reaped := by
    intro q
    rcases eq_or_ne q p with rfl | hne
    · simp
    · simp [hne]
  have hne : ∀ e ∈ s.events, e.pid ≠ p := by
    intro e he hep
    have hended := (hs.events e he).2
    rw [hep, hrun] at hended
    cases hended
  refine tracked_of ?_ ?_ hs.once ?_ ?_ ?_ hs.known ?_ hs.waiting ?_
  · intro q
    simp only [Unreaped, hreaped]
    exact hs.current q
  · intro n hn
    have hright := hs.right n hn
    have hnp : n.pid ≠ p := by
      intro hnp
      rw [hnp, hnone] at hright
      cases hright.2
    simpa [hnp] using hright
  · intro q hq hr
    exact hs.notified q hq ((hreaped q).symm.trans hr)
  · intro e he
    rcases List.mem_append.mp he with he | he
    · simpa [hne e he] using hs.events e he
    · rw [List.mem_singleton.mp he]
      simpa using hp
  · simp only [List.map_append, List.map_cons, List.map_nil]
    apply hs.distinct.append (List.nodup_singleton p)
    simpa using hne
  · intro hm q hq
    have hu : s.Unreaped q := ⟨hq.1, (hreaped q).symm.trans hq.2⟩
    refine ⟨(hs.free hm q hu).1, ?_⟩
    rcases eq_or_ne q p with rfl | hqp
    · right
      simp
    · simpa [hqp] using (hs.free hm q hu).2
  · intro hm
    obtain ⟨q, hq, hout, hmem, hev⟩ := hs.held hm
    have hqp : q ≠ p := by
      rintro rfl
      exact hout hnone
    refine ⟨q, hq, ?_, hmem, ?_⟩
    · simpa [hqp] using hout
    · simpa [hqp] using hev

/-- Nothing is left to reap once the current upload is reaped. -/
theorem Tracked.reap_current (hs : s.Tracked) (hp : s.uploadLogsPid = some pid)
    {process : UploadProcess} (hr : process.reaped = true) (q : Pid) :
    ¬ (q < s.started ∧ (Function.update s.processes pid process q).reaped = false) := by
  rintro ⟨hq, hqr⟩
  rcases eq_or_ne q pid with rfl | hne
  · simp [hr] at hqr
  · rw [Function.update_of_ne hne] at hqr
    have hcur := (hs.current q).mp ⟨hq, hqr⟩
    rw [hp] at hcur
    exact hne (Option.some.inj hcur).symm

theorem Tracked.notified_update (hs : s.Tracked) {process : UploadProcess} {q : Pid}
    (hne : q ≠ pid) (hq : q < s.started)
    (hr : (Function.update s.processes pid process q).reaped = true) : q ∈ s.notified := by
  rw [Function.update_of_ne hne] at hr
  exact hs.notified q hq hr

theorem tracked_aborts (hs : s.Tracked) (call : LogUploadCall)
    (responses : List (ThreadId × Bool)) (hp : s.uploadLogsPid = some pid) (hC : s.Abortable)
    (hm : s.uploadLogsMutex = none) (hcall : call ≠ .wait) :
    Tracked { s with
      uploadLogsPid := none
      processes := Function.update s.processes pid (s.processes pid).killAndReap
      notifications := ⟨.aborted, pid, pid⟩ :: s.notifications
      threads := Function.update s.threads t call
      responses := responses } := by
  have hu : s.Unreaped pid := hs.unreaped hp
  have hnew : pid ∉ s.notified := (hs.free hm pid hu).1
  have hr : (s.processes pid).killAndReap.reaped = true := rfl
  have hgone := hs.reap_current hp hr
  refine tracked_of ?_ ?_ ?_ ?_ ?_ hs.distinct ?_ ?_ ?_ ?_
  · intro q
    exact iff_of_false (hgone q) (by simp)
  · intro n hn
    rcases List.mem_cons.mp hn with rfl | hn
    · simpa using hC pid hp
    · have hne : n.pid ≠ pid := by
        intro hne
        exact hnew (hne ▸ List.mem_map_of_mem hn)
      simpa [hne] using hs.right n hn
  · exact List.nodup_cons.mpr ⟨hnew, hs.once⟩
  · intro q hq hr
    rcases eq_or_ne q pid with rfl | hne
    · exact List.mem_cons_self
    · exact List.mem_cons_of_mem _ (hs.notified_update hne hq hr)
  · intro e he
    have hended := hs.events e he
    refine ⟨hended.1, ?_⟩
    rcases eq_or_ne e.pid pid with hep | hne
    · rw [hep] at hended
      simpa [hep] using killAndReap_ended hended.2
    · simpa [hne] using hended.2
  · intro n hn
    rcases List.mem_cons.mp hn with rfl | hn
    · exact hu.1
    · exact hs.known n hn
  · intro _ q hq
    exact absurd hq (hgone q)
  · intro t'
    simp only [hm]
    exact hs.waiting_update hm hcall t'
  · intro hm'
    exact absurd hm hm'

theorem tracked_starts (hs : s.Tracked) (t : ThreadId) (forks : Bool)
    (hp : s.uploadLogsPid = none) (hm : s.uploadLogsMutex = none) :
    Tracked ((s.startUpload forks).respond t true) := by
  cases forks with
  | false =>
      have hsame : s.startUpload false = s := by
        simp [startUpload, ← hp]
      rw [hsame]
      exact tracked_plans hs .idle _ hm (by simp)
  | true =>
      have hunreaped : ∀ q, (q < s.started + 1 ∧
          (Function.update s.processes s.started {} q).reaped = false) ↔ q = s.started := by
        intro q
        constructor
        · rintro ⟨hq, hr⟩
          by_contra hne
          rw [Function.update_of_ne hne] at hr
          exact hs.not_unreaped hp ⟨Nat.lt_of_le_of_ne (Nat.le_of_lt_succ hq) hne, hr⟩
        · rintro rfl
          simp
      have hold : ∀ q < s.started, Function.update s.processes s.started {} q =
          s.processes q := by
        intro q hq
        exact Function.update_of_ne (Nat.ne_of_lt hq) _ _
      refine tracked_of ?_ ?_ hs.once ?_ ?_ hs.distinct ?_ ?_ ?_ ?_
      · intro q
        refine (hunreaped q).trans ?_
        exact ⟨fun h => congrArg some h.symm, fun h => (Option.some.inj h).symm⟩
      · intro n hn
        have hright := hs.right n hn
        rw [← hold n.pid (hs.known n hn)] at hright
        exact hright
      · intro q hq hr
        have hne : q ≠ s.started := by
          rintro rfl
          simp [startUpload, respond, goTo] at hr
        have hlt : q < s.started := Nat.lt_of_le_of_ne (Nat.le_of_lt_succ hq) hne
        exact hs.notified q hlt ((congrArg UploadProcess.reaped (hold q hlt)).symm.trans hr)
      · intro e he
        have hended := hs.events e he
        refine ⟨Nat.lt_succ_of_lt hended.1, ?_⟩
        exact (congrArg UploadProcess.state (hold e.pid hended.1)).trans hended.2
      · intro n hn
        exact Nat.lt_succ_of_lt (hs.known n hn)
      · intro _ q hq
        have hq' : q = s.started := (hunreaped q).mp hq
        constructor
        · intro hmem
          obtain ⟨n, hn, hnq⟩ := List.mem_map.mp hmem
          have hlt := hs.known n hn
          rw [hnq, hq'] at hlt
          exact absurd hlt (Nat.lt_irrefl _)
        · left
          rw [hq']
          simp [startUpload, respond, goTo]
      · intro t'
        simp only [respond, goTo, startUpload, if_true, hm]
        exact hs.waiting_update hm (by simp) t'
      · intro hm'
        exact absurd hm hm'

theorem tracked_delivers (hs : s.Tracked) (t : ThreadId) {i : ℕ} {event : UploadEvent}
    (he : s.events[i]? = some event) (hp : s.uploadLogsPid = some pid)
    (hm : s.uploadLogsMutex = none) (hpid : event.pid = pid) :
    Tracked { s with
      events := s.events.eraseIdx i
      notifications := ⟨event.status, pid, event.pid⟩ :: s.notifications
      uploadLogsMutex := some t
      threads := Function.update s.threads t .wait } := by
  have hu : s.Unreaped pid := hs.unreaped hp
  have hended := hs.events event (List.mem_of_getElem? he)
  rw [hpid] at hended
  refine tracked_of hs.current ?_ ?_ ?_ ?_ ?_ ?_ ?_ ?_ ?_
  · intro n hn
    rcases List.mem_cons.mp hn with rfl | hn
    · exact ⟨hpid, outcome_ended hended.2⟩
    · exact hs.right n hn
  · exact List.nodup_cons.mpr ⟨(hs.free hm pid hu).1, hs.once⟩
  · intro q hq hr
    exact List.mem_cons_of_mem _ (hs.notified q hq hr)
  · intro e he'
    exact hs.events e (List.mem_of_mem_eraseIdx he')
  · exact hs.distinct.sublist ((List.eraseIdx_sublist _ i).map _)
  · intro n hn
    rcases List.mem_cons.mp hn with rfl | hn
    · exact hu.1
    · exact hs.known n hn
  · intro hm'
    cases hm'
  · intro t'
    rcases eq_or_ne t' t with rfl | hne
    · simp
    · have hwait := hs.waiting t'
      rw [hm] at hwait
      simpa [hne, hne.symm] using hwait
  · intro _
    refine ⟨pid, hp, ?_, List.mem_cons_self, ?_⟩
    · simp [outcome_ended hended.2]
    · rw [← hpid]
      exact pid_not_mem_eraseIdx hs.distinct he

theorem tracked_reaps (hs : s.Tracked) (ht : s.threads t = .wait)
    (hp : s.uploadLogsPid = some pid) :
    Tracked { s with
      uploadLogsPid := none
      uploadLogsMutex := none
      processes := Function.update s.processes pid { s.processes pid with reaped := true }
      threads := Function.update s.threads t .idle } := by
  have hm : s.uploadLogsMutex = some t := (hs.waiting t).mp ht
  obtain ⟨pid', hp', hout, hmem, hev⟩ := hs.held (by simp [hm])
  rw [hp] at hp'
  cases hp'
  have hr : { s.processes pid with reaped := true }.reaped = true := rfl
  have hgone := hs.reap_current hp hr
  have hstate : ∀ q, (Function.update s.processes pid
      { s.processes pid with reaped := true } q).state = (s.processes q).state := by
    intro q
    rcases eq_or_ne q pid with rfl | hne
    · simp
    · simp [hne]
  refine tracked_of ?_ ?_ hs.once ?_ ?_ hs.distinct hs.known ?_ ?_ ?_
  · intro q
    exact iff_of_false (hgone q) (by simp)
  · intro n hn
    simpa [UploadProcess.outcome, hstate] using hs.right n hn
  · intro q hq hr
    rcases eq_or_ne q pid with rfl | hne
    · exact hmem
    · exact hs.notified_update hne hq hr
  · intro e he
    simpa [hstate] using hs.events e he
  · intro _ q hq
    exact absurd hq (hgone q)
  · intro t'
    rcases eq_or_ne t' t with rfl | hne
    · simp
    · have hwait := hs.waiting t'
      rw [hm] at hwait
      simpa [hne, hne.symm] using hwait
  · intro hm'
    exact absurd rfl hm'

/-! ### Steps -/

theorem tracked_step (hs : s.Tracked) (hC : s.Orderly a) (h : logUploadStep s a = some s') :
    s'.Tracked := by
  cases logUploadStep_moves h with
  | plans t call responses _ hm hcall => exact tracked_plans hs call responses hm hcall
  | drops i _ hp => exact tracked_drops hs i hp
  | ends p status hp hrun => exact tracked_ends hs status hp hrun
  | aborts t call responses pid hp hC' hm hcall =>
      exact tracked_aborts hs call responses hp (hC'.mp hC) hm hcall
  | starts t forks hC' hm => exact tracked_starts hs t forks (hC'.mp hC) hm
  | delivers t i event pid he hp hm => exact tracked_delivers hs t he hp hm (hC event he pid hp)
  | reaps t pid ht _ hp => exact tracked_reaps hs ht hp

/-- A step that is not orderly leaves an upload that is not accounted for. -/
theorem orderly_of_accounted (hs : s.Tracked) (ha : s'.Accounted)
    (h : logUploadStep s a = some s') : s.Orderly a := by
  cases logUploadStep_moves h with
  | plans t call responses hC hm hcall => exact hC
  | drops i hC hp => exact hC
  | ends p status hp hrun => exact trivial
  | aborts t call responses pid hp hC hm hcall =>
      rw [hC]
      intro pid' hpid'
      rw [Option.mem_def, hp] at hpid'
      cases hpid'
      simpa using (ha.right _ List.mem_cons_self).2
  | starts t forks hC hm =>
      rw [hC, Option.eq_none_iff_forall_ne_some]
      intro pid hp
      have hu : s.Unreaped pid := hs.unreaped hp
      have hne : pid ≠ s.started := Nat.ne_of_lt hu.1
      cases forks with
      | false =>
          have hcur := (ha.current pid).mp hu
          cases hcur
      | true =>
          have hcur := (ha.current pid).mp ⟨Nat.lt_succ_of_lt hu.1, by
            simpa [startUpload, respond, goTo, hne] using hu.2⟩
          exact hne (Option.some.inj hcur).symm
  | delivers t i event pid he hp hm =>
      intro event' he' pid' hp'
      rw [Option.mem_def, he] at he'
      rw [Option.mem_def, hp] at hp'
      cases he'
      cases hp'
      exact (ha.right _ List.mem_cons_self).1
  | reaps t pid ht hC hp => exact hC

/-! ### Runs -/

theorem tracked_initial : ({} : LogUpload).Tracked := by
  apply tracked_of
  · simp [Unreaped]
  · simp
  · exact List.nodup_nil
  · simp
  · simp
  · exact List.nodup_nil
  · simp
  · simp [Unreaped]
  · simp
  · simp

/-- The uploads of a run are accounted for throughout exactly if all its steps are orderly. -/
theorem log_upload_accounted_iff {as : List LogUploadAction}
    (hr : run logUploadStep {} as = some s) :
    (∀ bs u, bs <+: as → run logUploadStep {} bs = some u → u.Accounted) ↔
      Along logUploadStep Orderly {} as := by
  refine throughout_iff_along (I := Tracked) (P := Accounted) ?_ ?_ ?_ tracked_initial hr
  · intro s a t hs hC h
    exact tracked_step hs hC h
  · intro s hs
    exact hs.toAccounted
  · intro s a t hs h ha
    exact orderly_of_accounted hs ha h

/-- An upload that ends by itself. -/
theorem log_upload_accounted_success :
    ∃ s, run logUploadStep {} [.uploadLogsAsync 0, .proceed 0 true, .ends 0 .success,
        .onLogUpload 1 0, .proceed 1 true] = some s ∧ s.Accounted := by
  have hr : run logUploadStep {} [.uploadLogsAsync 0, .proceed 0 true, .ends 0 .success,
      .onLogUpload 1 0, .proceed 1 true] = some _ := rfl
  refine ⟨_, hr, (log_upload_accounted_iff hr).mpr ?_ _ _ List.prefix_rfl hr⟩
  decide

/-- Two requests that both find no upload running. -/
theorem log_upload_two_running :
    ∃ s, run logUploadStep {} [.uploadLogsAsync 0, .uploadLogsAsync 1, .proceed 0 true,
        .proceed 1 true] = some s ∧ ¬ s.Accounted := by
  refine ⟨_, rfl, fun h => ?_⟩
  have hcur := (h.current 0).mp ⟨by decide, by decide⟩
  exact absurd hcur (by decide)

/-- The event of an upload that was aborted after its end is taken for that of the next one. -/
example : ∃ s, run logUploadStep {} [.uploadLogsAsync 0, .proceed 0 true, .ends 0 .aborted,
    .abortLogUpload 0, .uploadLogsAsync 0, .proceed 0 true, .onLogUpload 1 0] = some s ∧
    (⟨.aborted, 1, 0⟩ : UploadNotification) ∈ s.notifications ∧
    (s.processes 1).state = .running := by
  exact ⟨_, rfl, by decide, by decide⟩

end LogUpload

end DeviceAndDisplay.SystemServices
