import DeviceAndDisplay.Model.DeviceDiagnostics.DecoderStatus
import DeviceAndDisplay.Transition.Changes
import DeviceAndDisplay.Transition.Run
import DeviceAndDisplay.Verification.Helpers.NotificationJobs

/-! # Events of the decoder status

The events that the polling thread submits are the polled states without stuttering, and every
registered object gets each of them once. -/

namespace DeviceAndDisplay.DeviceDiagnostics

open Helpers Transition

def DecoderAction.status : DecoderAction → Option ℤ
  | .poll status => some status
  | .stop | .notification _ => none

/-- The states that were polled, oldest first. -/
def polledStates (as : List DecoderAction) : List ℤ := as.filterMap DecoderAction.status

theorem polledStates_concat_poll (status : ℤ) (as : List DecoderAction) :
    polledStates (as ++ [.poll status]) = polledStates as ++ [status] := by
  simp [polledStates, DecoderAction.status]

theorem polledStates_concat {a : DecoderAction} (h : a.status = none) (as : List DecoderAction) :
    polledStates (as ++ [a]) = polledStates as := by
  simp [polledStates, h]

/-- The texts of the states that differ from the one before; the first one before is idle. -/
def statusTexts (states : List ℤ) : List String :=
  (states.destutter' (· ≠ ·) essRMgrResIdle).tail.filterMap decoderStatusStr

theorem statusTexts_eq (states : List ℤ) :
    statusTexts states =
      ((changes id essRMgrResIdle states).map Prod.snd).filterMap decoderStatusStr := by
  have h := @destutter'_map_eq ℤ ℤ id essRMgrResIdle states _
  rw [List.map_id] at h
  rw [statusTexts, h]
  rfl

theorem statusTexts_concat (states : List ℤ) (status : ℤ) :
    statusTexts (states ++ [status]) = statusTexts states ++
      if status = current id essRMgrResIdle states then [] else (decoderStatusStr status).toList := by
  rw [statusTexts_eq, statusTexts_eq, changes_concat, List.map_append, List.filterMap_append]
  congr 1
  by_cases h : status = current id essRMgrResIdle states
  · simp [h]
  · simp only [id, h, if_false, List.map_cons, List.map_nil, List.filterMap_cons,
      List.filterMap_nil]
    cases decoderStatusStr status <;> rfl

namespace Implementation

variable {d d' : Implementation} {a : DecoderAction} {done as : List DecoderAction}
  {notification : Sink}

/-- A poll that finds another state submits its text. -/
theorem poll_cases {status : ℤ} (h : d.poll status = some d') :
    d.lastStatus = status ∧ d' = d ∨
      d.lastStatus ≠ status ∧ ∃ text, decoderStatusStr status = some text ∧
        d' = { d with lastStatus := status
                      notifications := d.notifications.dispatchEvent text } := by
  unfold poll at h
  by_cases hrun : d.pollThreadRun = false
  · rw [if_pos hrun] at h
    cases h
  · rw [if_neg hrun] at h
    by_cases hsame : status = d.lastStatus
    · rw [if_pos hsame] at h
      cases h
      exact .inl ⟨hsame.symm, rfl⟩
    · rw [if_neg hsame] at h
      obtain ⟨text, htext, rfl⟩ := Option.map_eq_some_iff.mp h
      exact .inr ⟨Ne.symm hsame, text, htext, rfl⟩

/-- What holds of the thread and the notifications after the actions `done`. The predicate `P` is
about the events submitted so far. -/
structure Polled (P : List String → NotificationJobs Sink String → Prop)
    (done : List DecoderAction) (d : Implementation) : Prop where
  lastStatus : d.lastStatus = current id essRMgrResIdle (polledStates done)
  notifications : P (statusTexts (polledStates done)) d.notifications

/-- A predicate that submissions and the steps of `A` keep holds in every run. -/
theorem Polled.run {P : List String → NotificationJobs Sink String → Prop}
    {A : NotificationAction Sink → Prop} {n₀ : NotificationJobs Sink String}
    (hsubmit : ∀ submitted n event, P submitted n → P (submitted ++ [event]) (n.dispatchEvent event))
    (hstep : ∀ submitted n action n', P submitted n → A action → n.step action = some n' →
      P submitted n')
    (h₀ : P [] n₀) (hA : ∀ action, .notification action ∈ as → A action)
    (hr : Transition.run decoderStep { notifications := n₀ } as = some d) : Polled P as d := by
  have hinit : Polled P [] { notifications := n₀ } := ⟨rfl, h₀⟩
  refine run_history_invariant (I := fun done d => Polled P done d)
    (C := fun _ a => ∀ action, a = .notification action → A action) ?_ hinit
    (along_of_forall fun a ha _ action he => hA action (he ▸ ha)) hr
  intro done d a d' h ha hs
  cases a with
  | poll status =>
      have hstates := polledStates_concat_poll status done
      rcases poll_cases hs with ⟨hsame, rfl⟩ | ⟨hne, text, htext, rfl⟩
      · refine ⟨?_, ?_⟩
        · rw [hstates, current_concat]
          exact hsame
        · rw [hstates, statusTexts_concat, ← h.lastStatus, if_pos hsame.symm, List.append_nil]
          exact h.notifications
      · refine ⟨?_, ?_⟩
        · rw [hstates, current_concat]
          rfl
        · rw [hstates, statusTexts_concat, ← h.lastStatus, if_neg (Ne.symm hne), htext]
          exact hsubmit _ _ text h.notifications
  | stop =>
      cases hs
      refine ⟨?_, ?_⟩
      · rw [polledStates_concat rfl]
        exact h.lastStatus
      · rw [polledStates_concat rfl]
        exact h.notifications
  | notification action =>
      obtain ⟨n', hn', rfl⟩ := Option.map_eq_some_iff.mp hs
      refine ⟨?_, ?_⟩
      · rw [polledStates_concat rfl]
        exact h.lastStatus
      · rw [polledStates_concat rfl]
        exact hstep _ _ action n' h.notifications (ha action rfl) hn'

end Implementation

end DeviceAndDisplay.DeviceDiagnostics
