import Mathlib.Data.List.Destutter
import Mathlib.Data.List.Nodup

/-! # Changes of a value that is read again and again

Of a list of readings, those that differ from the reading before. The values of the changes are the
list without stuttering. -/

namespace DeviceAndDisplay.Transition

variable {ρ α : Type*} (key : ρ → α)

/-- The value after the readings. -/
def current (start : α) (rs : List ρ) : α := (rs.map key).getLastD start

variable {key} {start last : α} {r : ρ} {rs rs' : List ρ}

@[simp] theorem current_nil : current key start [] = start := rfl

@[simp] theorem current_cons : current key start (r :: rs) = current key (key r) rs := by
  rw [current, List.map_cons, List.getLastD_cons, current]

@[simp] theorem current_concat : current key start (rs ++ [r]) = key r := by
  simp [current]

section

variable [DecidableEq α]

variable (key) in
/-- The readings that change the value `key`, each with the value before. -/
def changes : α → List ρ → List (α × ρ)
  | _, [] => []
  | last, r :: rs =>
      if key r = last then changes last rs else (last, r) :: changes (key r) rs

theorem changes_cons_same (h : key r = last) : changes key last (r :: rs) = changes key last rs :=
  if_pos h

theorem changes_cons_ne (h : key r ≠ last) :
    changes key last (r :: rs) = (last, r) :: changes key (key r) rs :=
  if_neg h

theorem changes_append :
    changes key start (rs ++ rs') =
      changes key start rs ++ changes key (current key start rs) rs' := by
  induction rs generalizing start with
  | nil => rfl
  | cons r rs ih =>
      rw [List.cons_append, current_cons]
      by_cases h : key r = start
      · rw [changes_cons_same h, changes_cons_same h, ih, h]
      · rw [changes_cons_ne h, changes_cons_ne h, ih, List.cons_append]

theorem changes_concat :
    changes key start (rs ++ [r]) =
      changes key start rs ++
        if key r = current key start rs then [] else [(current key start rs, r)] :=
  changes_append

theorem destutter'_map_eq :
    (rs.map key).destutter' (· ≠ ·) start = start :: (changes key start rs).map (key ∘ Prod.snd) := by
  induction rs generalizing start with
  | nil => rfl
  | cons r rs ih =>
      rw [List.map_cons]
      by_cases h : key r = start
      · rw [changes_cons_same h, List.destutter'_cons_neg _ (not_not.mpr h.symm), ih]
      · rw [changes_cons_ne h, List.destutter'_cons_pos _ (Ne.symm h), ih]
        rfl

/-- A change is a reading that differs from the value at it. -/
theorem exists_of_mem_changes {e : α × ρ} (h : e ∈ changes key start rs) :
    ∃ before after, rs = before ++ e.2 :: after ∧ e.1 = current key start before ∧
      key e.2 ≠ e.1 := by
  induction rs generalizing start with
  | nil => cases h
  | cons r rs ih =>
      by_cases hr : key r = start
      · rw [changes_cons_same hr] at h
        obtain ⟨before, after, rfl, hbefore, hne⟩ := ih h
        exact ⟨r :: before, after, rfl, by rw [current_cons, hr, hbefore], hne⟩
      · rw [changes_cons_ne hr] at h
        rcases List.mem_cons.mp h with rfl | h
        · exact ⟨[], rs, rfl, rfl, hr⟩
        · obtain ⟨before, after, rfl, hbefore, hne⟩ := ih h
          exact ⟨r :: before, after, rfl, by rw [current_cons, hbefore], hne⟩

/-- The first change starts at the first value. -/
theorem head_changes {e : α × ρ} (h : (changes key start rs).head? = some e) : e.1 = start := by
  induction rs generalizing start with
  | nil => cases h
  | cons r rs ih =>
      by_cases hr : key r = start
      · rw [changes_cons_same hr] at h
        exact ih h
      · rw [changes_cons_ne hr] at h
        cases h
        rfl

/-- Each change starts where the one before it ended. -/
theorem isChain_changes : (changes key start rs).IsChain fun e next => next.1 = key e.2 := by
  induction rs generalizing start with
  | nil => exact .nil
  | cons r rs ih =>
      by_cases hr : key r = start
      · rw [changes_cons_same hr]
        exact ih
      · rw [changes_cons_ne hr, List.isChain_cons]
        exact ⟨fun next hnext => head_changes hnext, ih⟩

/-- The last change tells the value. -/
theorem current_eq_of_changes :
    current key start rs = ((changes key start rs).getLast?.map (key ∘ Prod.snd)).getD start := by
  induction rs generalizing start with
  | nil => rfl
  | cons r rs ih =>
      rw [current_cons]
      by_cases hr : key r = start
      · rw [changes_cons_same hr, ← ih, hr]
      · rw [changes_cons_ne hr, ih, List.getLast?_cons]
        cases (changes key (key r) rs).getLast? <;> rfl

end

end DeviceAndDisplay.Transition

/-! ## Delivery of events to listeners

A log of calls, newest first, each of a listener with an event, and what one listener receives. -/

namespace DeviceAndDisplay.Transition

variable {ι ε : Type*} [DecidableEq ι]

/-- The events that a listener is called with, oldest first. -/
def received (listener : ι) (calls : List (ι × ε)) : List ε :=
  ((calls.filter fun call => call.1 = listener).map Prod.snd).reverse

variable {listener : ι} {listeners : List ι} {calls : List (ι × ε)} {event : ε}

@[simp] theorem received_nil : received listener ([] : List (ι × ε)) = [] := rfl

theorem received_append (calls calls' : List (ι × ε)) :
    received listener (calls ++ calls') = received listener calls' ++ received listener calls := by
  simp [received]

omit [DecidableEq ι] in
/-- A loop that calls one listener after the other. -/
theorem foldl_calls (event : ε) (listeners : List ι) (calls : List (ι × ε)) :
    listeners.foldl (fun calls listener => (listener, event) :: calls) calls =
      (listeners.map fun listener => (listener, event)).reverse ++ calls := by
  induction listeners generalizing calls with
  | nil => rfl
  | cons listener listeners ih =>
      rw [List.foldl_cons, ih]
      simp

/-- As often as it is in the list, a listener receives the event. -/
theorem received_broadcast (event : ε) (listeners : List ι) (calls : List (ι × ε)) :
    received listener (listeners.foldl (fun calls listener => (listener, event) :: calls) calls) =
      received listener calls ++ List.replicate (listeners.count listener) event := by
  have hselect : (fun call : ι × ε => decide (call.1 = listener)) ∘
      (fun other => (other, event)) = fun other => decide (other = listener) := rfl
  have hcount : received listener ((listeners.map fun other => (other, event)).reverse) =
      List.replicate (listeners.count listener) event := by
    rw [received, List.filter_reverse, List.map_reverse, List.reverse_reverse, List.filter_map,
      hselect, List.filter_eq, List.map_replicate, List.map_replicate]
  rw [foldl_calls, received_append, hcount]

/-- A listener that is in the list once receives the event once. -/
theorem received_broadcast_of_mem (hnodup : listeners.Nodup) (hmem : listener ∈ listeners)
    (event : ε) (calls : List (ι × ε)) :
    received listener (listeners.foldl (fun calls listener => (listener, event) :: calls) calls) =
      received listener calls ++ [event] := by
  rw [received_broadcast, List.count_eq_one_of_mem hnodup hmem, List.replicate_one]

end DeviceAndDisplay.Transition
