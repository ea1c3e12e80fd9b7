import DeviceAndDisplay.Model.Warehouse.LightReset
import DeviceAndDisplay.Transition.Run
import DeviceAndDisplay.Verification.Helpers.NotificationJobs

/-! # One reset at a time

The effects of the resets are never mixed: they are those of the requests in their order, up to
the effects of the last one that are still to come. -/

namespace DeviceAndDisplay.Warehouse

open Helpers Transition

def ResetAction.started : ResetAction → Option ResetRequest
  | .resetDevice request true => some request
  | .resetDevice _ false | .advanceReset _ | .notification _ => none

/-- The requests whose thread was started, oldest first. -/
def startedRequests (as : List ResetAction) : List ResetRequest :=
  as.filterMap ResetAction.started

theorem startedRequests_concat_none {a : ResetAction} (h : a.started = none)
    (as : List ResetAction) : startedRequests (as ++ [a]) = startedRequests as := by
  simp [startedRequests, h]

theorem startedRequests_concat_some {a : ResetAction} {request : ResetRequest}
    (h : a.started = some request) (as : List ResetAction) :
    startedRequests (as ++ [a]) = startedRequests as ++ [request] := by
  simp [startedRequests, h]

namespace ResetRecord

def request : ResetRecord → Option ResetRequest
  | .notStarted => none
  | .finished request _ => some request

/-- The event of a record: a thread that could not be started is announced as a failure, a reset
only if it is one of the warehouse that returned no error and suppressed the reboot. -/
def event : ResetRecord → Option ResetDone
  | .notStarted => some ⟨false, "exception in submitting request"⟩
  | .finished request failed =>
      if request.isWareHouse && !failed && request.suppressReboot then some ⟨true, ""⟩ else none

end ResetRecord

/-- What the end of the thread is recorded as. -/
def ResetThread.record (thread : ResetThread) : ResetRecord :=
  .finished thread.request (thread.request.process.returnsResult && thread.result ≠ 0)

namespace Implementation

variable {w w' : Implementation} {notification : Sink} {done as : List ResetAction}

/-- The requests that were carried out, oldest first. -/
def finishedRequests (w : Implementation) : List ResetRequest :=
  (w.records.filterMap ResetRecord.request).reverse

/-- The events that the records stand for, oldest first. -/
def announced (w : Implementation) : List ResetDone :=
  (w.records.filterMap ResetRecord.event).reverse

/-- The thread that is under way. -/
def running (w : Implementation) : Option ResetThread :=
  w.resetThread.filter fun thread => !thread.returned

/-- The effects of the thread under way that are still to come. -/
def remaining (w : Implementation) : List ResetEffect :=
  (w.running.map ResetThread.remaining).getD []

/-- What holds after the actions `done`. The predicate `P` is about the events submitted so far. -/
structure Serial (P : List ResetDone → NotificationJobs Sink ResetDone → Prop)
    (done : List ResetAction) (w : Implementation) : Prop where
  requests : startedRequests done =
    w.finishedRequests ++ (w.running.map ResetThread.request).toList
  effects : w.effects.reverse ++ w.remaining =
    (startedRequests done).flatMap fun request => request.process.effects
  notifications : P w.announced w.notifications

theorem running_none (h : w.resetThread = none) : w.running = none := by
  rw [running, h]
  rfl

theorem running_of_returned {thread : ResetThread} (h : w.resetThread = some thread)
    (hreturned : thread.returned = true) : w.running = none := by
  simp [running, h, hreturned]

theorem running_of_not_returned {thread : ResetThread} (h : w.resetThread = some thread)
    (hreturned : thread.returned = false) : w.running = some thread := by
  simp [running, h, hreturned]

theorem returnFromReset_eq (thread : ResetThread) (w : Implementation) :
    w.returnFromReset thread = { w with
      resetThread := some { thread with returned := true }
      records := thread.record :: w.records
      notifications := thread.record.event.elim w.notifications fun event =>
        w.notifications.dispatchEvent event } := by
  unfold returnFromReset ResetThread.record ResetRecord.event
  dsimp only
  split <;> rfl

variable {P : List ResetDone → NotificationJobs Sink ResetDone → Prop}

theorem Serial.resetDevice
    (hsubmit : ∀ submitted n event, P submitted n → P (submitted ++ [event]) (n.dispatchEvent event))
    (h : Serial P done w) {request : ResetRequest} {starts : Bool}
    (hs : w.resetDevice request starts = some w') :
    Serial P (done ++ [.resetDevice request starts]) w' := by
  unfold Implementation.resetDevice at hs
  by_cases hbusy : (w.resetThread.any fun thread => !thread.returned) = true
  · rw [if_pos hbusy] at hs
    cases hs
  · have hidle : w.running = none := by
      cases hthread : w.resetThread with
      | none => exact running_none hthread
      | some thread =>
          rw [hthread] at hbusy
          exact running_of_returned hthread (by simpa using hbusy)
    have hrequests := h.requests
    have heffects := h.effects
    rw [hidle, Option.map_none, Option.toList_none, List.append_nil] at hrequests
    rw [remaining, hidle, Option.map_none, Option.getD_none, List.append_nil] at heffects
    rw [if_neg hbusy] at hs
    cases starts with
    | true =>
        cases hs
        have hstarted := startedRequests_concat_some (a := .resetDevice request true) rfl done
        refine ⟨?_, ?_, h.notifications⟩
        · rw [hstarted, hrequests]
          rfl
        · rw [hstarted, List.flatMap_append, ← heffects, remaining,
            running_of_not_returned (w := { w with resetThread := _ }) rfl rfl]
          simp
    | false =>
        cases hs
        have hstarted := startedRequests_concat_none (a := .resetDevice request false) rfl done
        refine ⟨?_, ?_, ?_⟩
        · rw [hstarted, hrequests]
          exact (List.append_nil _).symm
        · rw [hstarted, ← heffects]
          exact List.append_nil _
        · have hannounced := hsubmit _ _ ⟨false, "exception in submitting request"⟩ h.notifications
          simpa [announced, ResetRecord.event, resetDone] using hannounced

theorem Serial.advanceReset
    (hsubmit : ∀ submitted n event, P submitted n → P (submitted ++ [event]) (n.dispatchEvent event))
    (h : Serial P done w) {result : ℤ}
    (hs : w.advanceReset result = some w') :
    Serial P (done ++ [.advanceReset result]) w' := by
  have hstarted := startedRequests_concat_none (a := .advanceReset result) rfl done
  unfold Implementation.advanceReset at hs
  cases hthread : w.resetThread with
  | none =>
      rw [hthread] at hs
      cases hs
  | some thread =>
      rw [hthread] at hs
      dsimp only at hs
      cases hreturned : thread.returned with
      | true =>
          rw [if_pos hreturned] at hs
          cases hs
      | false =>
          rw [if_neg (by simp [hreturned])] at hs
          have hrunning := running_of_not_returned hthread hreturned
          have hrequests := h.requests
          have heffects := h.effects
          rw [hrunning, Option.map_some, Option.toList_some] at hrequests
          rw [remaining, hrunning, Option.map_some, Option.getD_some] at heffects
          cases hremaining : thread.remaining with
          | nil =>
              rw [hremaining] at hs heffects
              cases hs
              have hidle : (w.returnFromReset thread).running = none := by
                rw [returnFromReset_eq]
                exact running_of_returned rfl rfl
              have hfinished : (w.returnFromReset thread).finishedRequests =
                  w.finishedRequests ++ [thread.request] := by
                simp [returnFromReset_eq, finishedRequests, ResetThread.record,
                  ResetRecord.request]
              refine ⟨?_, ?_, ?_⟩
              · rw [hstarted, hrequests, hfinished, hidle]
                exact (List.append_nil _).symm
              · rw [hstarted, remaining, hidle, ← heffects, returnFromReset_eq]
                rfl
              · rw [returnFromReset_eq]
                cases hevent : thread.record.event with
                | none => simpa [announced, hevent] using h.notifications
                | some event =>
                    have hannounced := hsubmit _ _ event h.notifications
                    simpa [announced, hevent] using hannounced
          | cons effect remaining =>
              rw [hremaining] at hs heffects
              have heffects' : w'.effects = effect :: w.effects := by
                cases hs
                rfl
              have hsame : w'.records = w.records ∧ w'.notifications = w.notifications := by
                cases hs
                exact ⟨rfl, rfl⟩
              have hrunning' : ∃ thread', w'.running = some thread' ∧
                  thread'.request = thread.request ∧ thread'.remaining = remaining := by
                cases hs
                exact ⟨_, running_of_not_returned rfl hreturned, rfl, rfl⟩
              obtain ⟨thread', hrunning', hrequest, hrest⟩ := hrunning'
              have hfinished : w'.finishedRequests = w.finishedRequests := by
                rw [finishedRequests, finishedRequests, hsame.1]
              refine ⟨?_, ?_, ?_⟩
              · rw [hstarted, hrequests, hrunning', hfinished, Option.map_some, hrequest]
                rfl
              · rw [hstarted, ← heffects, Implementation.remaining, hrunning', heffects', ← hrest]
                simp
              · rw [announced, hsame.1, hsame.2]
                exact h.notifications

/-- A predicate that submissions and the steps of `A` keep holds in every run. -/
theorem Serial.run {A : NotificationAction Sink → Prop} {n₀ : NotificationJobs Sink ResetDone}
    (hsubmit : ∀ submitted n event, P submitted n → P (submitted ++ [event]) (n.dispatchEvent event))
    (hstep : ∀ submitted n action n', P submitted n → A action → n.step action = some n' →
      P submitted n')
    (h₀ : P [] n₀) (hA : ∀ action, .notification action ∈ as → A action)
    (hr : Transition.run resetStep { notifications := n₀ } as = some w) : Serial P as w := by
  have hinit : Serial P [] { notifications := n₀ } := ⟨rfl, rfl, h₀⟩
  refine run_history_invariant (I := fun done w => Serial P done w)
    (C := fun _ a => ∀ action, a = .notification action → A action) ?_ hinit
    (along_of_forall fun a ha _ action he => hA action (he ▸ ha)) hr
  intro done w a w' h ha hs
  cases a with
  | resetDevice request starts => exact Serial.resetDevice hsubmit h hs
  | advanceReset result => exact Serial.advanceReset hsubmit h hs
  | notification action =>
      obtain ⟨n', hn', rfl⟩ := Option.map_eq_some_iff.mp hs
      have hstarted := startedRequests_concat_none (a := .notification action) rfl done
      refine ⟨?_, ?_, hstep _ _ action n' h.notifications (ha action rfl) hn'⟩
      · rw [hstarted]
        exact h.requests
      · rw [hstarted]
        exact h.effects

end Implementation

end DeviceAndDisplay.Warehouse
