import DeviceAndDisplay.Model.Helpers.NotificationJobs
import DeviceAndDisplay.Transition.Changes
import Mathlib.Data.List.Perm.Basic

/-! # References and deliveries

A notification object is referenced exactly as long as it is registered, and a registered one gets
every submitted event exactly once: those that no job holds any more were delivered. -/

namespace DeviceAndDisplay.Helpers.NotificationJobs

open Transition

variable {ι ε : Type} [DecidableEq ι] {n n' : NotificationJobs ι ε} {notification : ι}
  {submitted : List ε} {a : NotificationAction ι}

/-- The references are those of the registered objects and of the jobs. -/
structure Balanced (n : NotificationJobs ι ε) : Prop where
  nodup : n.notification.Nodup
  references : n.references.Perm n.notification
  implementation : n.implementationReferences = n.jobs.length

omit [DecidableEq ι] in
theorem balanced_empty : ({} : NotificationJobs ι ε).Balanced := ⟨.nil, .refl _, rfl⟩

omit [DecidableEq ι] in
theorem Balanced.dispatchEvent (h : n.Balanced) (event : ε) : (n.dispatchEvent event).Balanced where
  nodup := h.nodup
  references := h.references
  implementation := by
    simp [NotificationJobs.dispatchEvent, h.implementation]

omit [DecidableEq ι] in
theorem runJob_eq {i : ℕ} (h : n.runJob i = some n') :
    ∃ event, n.jobs[i]? = some event ∧ n' = { n.dispatch event with
      jobs := n.jobs.eraseIdx i
      implementationReferences := n.implementationReferences - 1 } := by
  obtain ⟨event, hevent, rfl⟩ := Option.map_eq_some_iff.mp h
  exact ⟨event, hevent, rfl⟩

theorem Balanced.step (h : n.Balanced) (hs : n.step a = some n') : n'.Balanced := by
  cases a with
  | register other =>
      cases hs
      unfold register
      by_cases hmem : other ∈ n.notification
      · rw [if_pos hmem]
        exact h
      · rw [if_neg hmem]
        refine ⟨?_, ?_, h.implementation⟩
        · exact List.nodup_append'.mpr ⟨h.nodup, List.nodup_singleton other,
            List.disjoint_singleton.mpr hmem⟩
        · exact (h.references.cons other).trans (List.perm_append_singleton other _).symm
  | unregister other =>
      cases hs
      unfold unregister
      by_cases hmem : other ∈ n.notification
      · rw [if_pos hmem]
        exact ⟨h.nodup.erase other, h.references.erase other, h.implementation⟩
      · rw [if_neg hmem]
        exact h
  | runJob i =>
      obtain ⟨event, hevent, rfl⟩ := runJob_eq hs
      refine ⟨h.nodup, h.references, ?_⟩
      have hi : i < n.jobs.length := (List.getElem?_eq_some_iff.mp hevent).1
      rw [List.length_eraseIdx_of_lt hi, h.implementation]

/-- The events that an object was called with, oldest first. -/
def callsTo (notification : ι) (n : NotificationJobs ι ε) : List ε := received notification n.calls

/-- Every submitted event was delivered to the object, or a job still holds it. -/
structure Served (notification : ι) (submitted : List ε) (n : NotificationJobs ι ε) : Prop where
  registered : notification ∈ n.notification
  balanced : n.Balanced
  delivered : (n.callsTo notification ++ n.jobs).Perm submitted

/-- The same, and the events were delivered in the order of their submission. -/
structure ServedInOrder (notification : ι) (submitted : List ε) (n : NotificationJobs ι ε) :
    Prop extends Served notification submitted n where
  inOrder : n.callsTo notification ++ n.jobs = submitted

omit [DecidableEq ι] in
theorem balanced_of_empty (hnodup : n.notification.Nodup)
    (hreferences : n.references.Perm n.notification)
    (hempty : n.jobs = [] ∧ n.implementationReferences = 0 ∧ n.calls = []) : n.Balanced where
  nodup := hnodup
  references := hreferences
  implementation := by
    rw [hempty.1, hempty.2.1]
    rfl

/-- Nothing was submitted yet. -/
theorem ServedInOrder.initial (hnodup : n.notification.Nodup)
    (hreferences : n.references.Perm n.notification)
    (hempty : n.jobs = [] ∧ n.implementationReferences = 0 ∧ n.calls = [])
    (hmem : notification ∈ n.notification) : ServedInOrder notification [] n := by
  have hnothing : n.callsTo notification ++ n.jobs = [] := by
    rw [callsTo, hempty.1, hempty.2.2]
    rfl
  exact ⟨⟨hmem, balanced_of_empty hnodup hreferences hempty, by rw [hnothing]⟩, hnothing⟩

theorem Served.dispatchEvent (h : Served notification submitted n) (event : ε) :
    Served notification (submitted ++ [event]) (n.dispatchEvent event) where
  registered := h.registered
  balanced := h.balanced.dispatchEvent event
  delivered := by
    rw [NotificationJobs.dispatchEvent, ← List.append_assoc]
    exact h.delivered.append_right [event]

theorem ServedInOrder.dispatchEvent (h : ServedInOrder notification submitted n) (event : ε) :
    ServedInOrder notification (submitted ++ [event]) (n.dispatchEvent event) where
  toServed := h.toServed.dispatchEvent event
  inOrder := by
    rw [NotificationJobs.dispatchEvent, ← List.append_assoc]
    exact congrArg (· ++ [event]) h.inOrder

/-- Only `Unregister` takes an object out of the list. -/
theorem mem_of_step (hmem : notification ∈ n.notification) (ha : a ≠ .unregister notification)
    (hs : n.step a = some n') : notification ∈ n'.notification := by
  cases a with
  | register other =>
      cases hs
      unfold register
      split
      · exact hmem
      · exact List.mem_append_left _ hmem
  | unregister other =>
      cases hs
      unfold unregister
      split
      · exact (List.mem_erase_of_ne fun he => ha (by rw [he])).mpr hmem
      · exact hmem
  | runJob i =>
      obtain ⟨event, _, rfl⟩ := runJob_eq hs
      exact hmem

/-- `Register` and `Unregister` neither call nor submit anything. -/
theorem step_cases (hs : n.step a = some n') :
    (∃ i, a = .runJob i) ∨ n'.calls = n.calls ∧ n'.jobs = n.jobs := by
  cases a with
  | register other =>
      cases hs
      unfold register
      split <;> exact .inr ⟨rfl, rfl⟩
  | unregister other =>
      cases hs
      unfold unregister
      split <;> exact .inr ⟨rfl, rfl⟩
  | runJob i => exact .inl ⟨i, rfl⟩

theorem callsTo_runJob (hmem : notification ∈ n.notification) (hn : n.Balanced) {i : ℕ} {event : ε}
    (hevent : n.jobs[i]? = some event) (hs : n.runJob i = some n') :
    n'.callsTo notification = n.callsTo notification ++ [event] ∧ n'.jobs = n.jobs.eraseIdx i := by
  obtain ⟨event', hevent', rfl⟩ := runJob_eq hs
  rw [Option.some.inj (hevent.symm.trans hevent')]
  exact ⟨received_broadcast_of_mem hn.nodup hmem event' n.calls, rfl⟩

theorem Served.step (h : Served notification submitted n) (ha : a ≠ .unregister notification)
    (hs : n.step a = some n') : Served notification submitted n' where
  registered := mem_of_step h.registered ha hs
  balanced := h.balanced.step hs
  delivered := by
    rcases step_cases hs with ⟨i, rfl⟩ | ⟨hcalls, hjobs⟩
    · obtain ⟨event, hevent, _⟩ := runJob_eq hs
      obtain ⟨hcalls, hjobs⟩ := callsTo_runJob h.registered h.balanced hevent hs
      obtain ⟨hi, rfl⟩ := List.getElem?_eq_some_iff.mp hevent
      rw [hcalls, hjobs, List.append_assoc]
      exact ((List.getElem_cons_eraseIdx_perm hi).append_left _).trans h.delivered
    · rw [callsTo, hcalls, hjobs]
      exact h.delivered

/-- The first job is the one that runs. -/
def RunsFirst (a : NotificationAction ι) : Prop := ∀ i, a = .runJob i → i = 0

theorem ServedInOrder.step (h : ServedInOrder notification submitted n)
    (ha : a ≠ .unregister notification) (hfirst : RunsFirst a) (hs : n.step a = some n') :
    ServedInOrder notification submitted n' where
  toServed := h.toServed.step ha hs
  inOrder := by
    rcases step_cases hs with ⟨i, rfl⟩ | ⟨hcalls, hjobs⟩
    · obtain ⟨event, hevent, _⟩ := runJob_eq hs
      obtain ⟨hcalls, hjobs⟩ := callsTo_runJob h.registered h.balanced hevent hs
      rw [hfirst i rfl] at hevent hjobs
      rw [hcalls, hjobs, ← h.inOrder]
      cases hj : n.jobs with
      | nil =>
          rw [hj] at hevent
          cases hevent
      | cons first rest =>
          rw [hj] at hevent
          cases hevent
          simp
    · rw [callsTo, hcalls, hjobs]
      exact h.inOrder

end DeviceAndDisplay.Helpers.NotificationJobs
