import DeviceAndDisplay.Model.Helpers.Synchro

/-! # The balance of the API locks

A locked call within an `UnlockApiGuard` resets the flag that the destructor of the guard asks. -/

namespace DeviceAndDisplay.Helpers

variable {γ υ : Type*}

/-! ### Locked calls -/

/-- A locked call of a class in the unit `u` is executed. -/
def Code.Calls (unit : γ → υ) (u : υ) : Code γ → Prop
  | .done => False
  | .throw => False
  | .seq first rest => first.Calls unit u ∨ (first.raises = false ∧ rest.Calls unit u)
  | .attempt body handler => body.Calls unit u ∨ (body.raises = true ∧ handler.Calls unit u)
  | .lockedCall _ c body => unit c = u ∨ body.Calls unit u
  | .unlockApiGuard _ body => body.Calls unit u
  | .lockApiGuard _ body => body.Calls unit u

variable [DecidableEq γ] [DecidableEq υ] (unit : γ → υ)

section States

variable (u : υ) (c : γ) (s : ThreadState γ υ)

omit [DecidableEq υ] in
theorem isThreadUsingLockedApi_enterUnlock :
    (enterUnlock u c s).isThreadUsingLockedApi = s.isThreadUsingLockedApi := by
  unfold enterUnlock
  split <;> rfl

omit [DecidableEq υ] in
theorem isThreadUsingLockedApi_leaveUnlock :
    (leaveUnlock u c s).isThreadUsingLockedApi = s.isThreadUsingLockedApi := by
  unfold leaveUnlock
  split <;> rfl

theorem held_leaveCall :
    (leaveCall u c s).held = Function.update s.held c (s.held c - 1) := rfl

theorem held_enterCall :
    (enterCall u c s).held = Function.update s.held c (s.held c + 1) := rfl

end States

/-- A locked call leaves the flag unset, nothing else changes it. -/
theorem isThreadUsingLockedApi_exec (code : Code γ) (s : ThreadState γ υ) (u : υ) :
    ((exec unit code s).isThreadUsingLockedApi u = true ↔
      s.isThreadUsingLockedApi u = true ∧ ¬ code.Calls unit u) := by
  induction code generalizing s with
  | done => simp [exec, Code.Calls]
  | throw => simp [exec, Code.Calls]
  | seq first rest hfirst hrest =>
      rw [exec, Code.Calls]
      split
      · rename_i h
        rw [hfirst]
        simp [h]
      · rename_i h
        rw [hrest, hfirst]
        simp [h, and_assoc]
  | attempt body handler hbody hhandler =>
      rw [exec, Code.Calls]
      split
      · rename_i h
        rw [hhandler, hbody]
        simp [h, and_assoc]
      · rename_i h
        rw [hbody]
        simp [h]
  | lockedCall _ c body ih =>
      rw [exec, Code.Calls]
      by_cases hunit : unit c = u
      · simp [leaveCall, ThreadState.setUsing, ThreadState.unlock, hunit]
      · have hbody := ih (enterCall (unit c) c s)
        simpa [leaveCall, enterCall, ThreadState.setUsing, ThreadState.unlock, ThreadState.lock,
          Function.update_of_ne (Ne.symm hunit), hunit] using hbody
  | unlockApiGuard c body ih =>
      rw [exec, isThreadUsingLockedApi_leaveUnlock, ih, isThreadUsingLockedApi_enterUnlock]
      rfl
  | lockApiGuard c body ih =>
      rw [exec]
      exact ih (s.lock c)

/-! ### Balance -/

/-- The locks are held as often after the scope as before. -/
def Restores (code : Code γ) (s : ThreadState γ υ) : Prop := (exec unit code s).held = s.held

/-- In all that is executed, a lock is unlocked only while it is held, an `UnlockApiGuard` locks
again exactly if it unlocked, and each scope restores the counts. -/
def Balanced : Code γ → ThreadState γ υ → Prop
  | .done, _ => True
  | .throw, _ => True
  | .seq first rest, s =>
      Balanced first s ∧ (first.raises = false → Balanced rest (exec unit first s))
  | .attempt body handler, s =>
      Balanced body s ∧ (body.raises = true → Balanced handler (exec unit body s))
  | .lockedCall kind c body, s =>
      Balanced body (enterCall (unit c) c s) ∧
        0 < (exec unit body (enterCall (unit c) c s)).held c ∧
        Restores unit (.lockedCall kind c body) s
  | .unlockApiGuard c body, s =>
      (s.isThreadUsingLockedApi (unit c) = true → 0 < s.held c) ∧
        Balanced body (enterUnlock (unit c) c s) ∧
        ((exec unit body (enterUnlock (unit c) c s)).isThreadUsingLockedApi (unit c) = true ↔
          s.isThreadUsingLockedApi (unit c) = true) ∧
        Restores unit (.unlockApiGuard c body) s
  | .lockApiGuard c body, s =>
      Balanced body (s.lock c) ∧ 0 < (exec unit body (s.lock c)).held c ∧
        Restores unit (.lockApiGuard c body) s

/-- Every `UnlockApiGuard` that is reached in a locked call unlocks a lock that is held, and no
locked call of the unit is executed in it. -/
def UnlocksApart : Code γ → ThreadState γ υ → Prop
  | .done, _ => True
  | .throw, _ => True
  | .seq first rest, s =>
      UnlocksApart first s ∧ (first.raises = false → UnlocksApart rest (exec unit first s))
  | .attempt body handler, s =>
      UnlocksApart body s ∧ (body.raises = true → UnlocksApart handler (exec unit body s))
  | .lockedCall _ c body, s => UnlocksApart body (enterCall (unit c) c s)
  | .unlockApiGuard c body, s =>
      (s.isThreadUsingLockedApi (unit c) = true → 0 < s.held c ∧ ¬ body.Calls unit (unit c)) ∧
        UnlocksApart body (enterUnlock (unit c) c s)
  | .lockApiGuard c body, s => UnlocksApart body (s.lock c)

variable {unit}

theorem Balanced.restores {code : Code γ} {s : ThreadState γ υ} (h : Balanced unit code s) :
    Restores unit code s := by
  induction code generalizing s with
  | done => rfl
  | throw => rfl
  | seq first rest hfirst hrest =>
      rw [Restores, exec]
      split
      · exact hfirst h.1
      · rename_i hraises
        have hrest := hrest (h.2 (Bool.eq_false_iff.mpr hraises))
        rw [Restores] at hrest
        exact hrest.trans (hfirst h.1)
  | attempt body handler hbody hhandler =>
      rw [Restores, exec]
      split
      · rename_i hraises
        have hhandler := hhandler (h.2 hraises)
        rw [Restores] at hhandler
        exact hhandler.trans (hbody h.1)
      · exact hbody h.1
  | lockedCall _ c body => exact h.2.2
  | unlockApiGuard c body => exact h.2.2.2
  | lockApiGuard c body => exact h.2.2

/-- A lock that is taken once more and then released. -/
theorem update_lock_unlock (held : γ → ℕ) (c : γ) :
    Function.update (Function.update held c (held c + 1)) c
      (Function.update held c (held c + 1) c - 1) = held := by
  rw [Function.update_self, Function.update_idem, Nat.add_sub_cancel, Function.update_eq_self]

/-- A lock that is released while it is held and then taken again. -/
theorem update_unlock_lock {held : γ → ℕ} {c : γ} (h : 0 < held c) :
    Function.update (Function.update held c (held c - 1)) c
      (Function.update held c (held c - 1) c + 1) = held := by
  rw [Function.update_self, Function.update_idem, Nat.sub_add_cancel h, Function.update_eq_self]

theorem lockedCall_restores {kind : LockedCall} {c : γ} {body : Code γ} {s : ThreadState γ υ}
    (h : Restores unit body (enterCall (unit c) c s)) :
    0 < (exec unit body (enterCall (unit c) c s)).held c ∧
      Restores unit (.lockedCall kind c body) s := by
  rw [Restores, held_enterCall] at h
  constructor
  · rw [h, Function.update_self]
    exact Nat.succ_pos (s.held c)
  · rw [Restores, exec, held_leaveCall, h]
    exact update_lock_unlock s.held c

theorem lockApiGuard_restores {c : γ} {body : Code γ} {s : ThreadState γ υ}
    (h : Restores unit body (s.lock c)) :
    0 < (exec unit body (s.lock c)).held c ∧ Restores unit (.lockApiGuard c body) s := by
  have hheld : (s.lock c).held = Function.update s.held c (s.held c + 1) := rfl
  rw [Restores, hheld] at h
  constructor
  · rw [h, Function.update_self]
    exact Nat.succ_pos (s.held c)
  · have hunlock : (exec unit (.lockApiGuard c body) s).held =
        Function.update (exec unit body (s.lock c)).held c
          ((exec unit body (s.lock c)).held c - 1) := rfl
    rw [Restores, hunlock, h]
    exact update_lock_unlock s.held c

/-- The guard restores what it unlocked if the flag is as it was. -/
theorem unlockApiGuard_restores {c : γ} {body : Code γ} {s : ThreadState γ υ}
    (h : Restores unit body (enterUnlock (unit c) c s))
    (hheld : s.isThreadUsingLockedApi (unit c) = true → 0 < s.held c)
    (hflag : (exec unit body (enterUnlock (unit c) c s)).isThreadUsingLockedApi (unit c) = true ↔
      s.isThreadUsingLockedApi (unit c) = true) :
    Restores unit (.unlockApiGuard c body) s := by
  rw [Restores] at h ⊢
  rw [exec, leaveUnlock]
  by_cases husing : s.isThreadUsingLockedApi (unit c) = true
  · have henter : enterUnlock (unit c) c s = s.unlock c := if_pos husing
    rw [if_pos (hflag.mpr husing)]
    rw [henter] at h ⊢
    have hlock : ((exec unit body (s.unlock c)).lock c).held =
        Function.update (exec unit body (s.unlock c)).held c
          ((exec unit body (s.unlock c)).held c + 1) := rfl
    rw [hlock, h]
    exact update_unlock_lock (hheld husing)
  · have henter : enterUnlock (unit c) c s = s := if_neg husing
    rw [if_neg (fun hleave => husing (hflag.mp hleave)), h, henter]

/-- Without a locked call the flag is as it was. -/
theorem flag_restored_iff {c : γ} {body : Code γ} {s : ThreadState γ υ} :
    ((exec unit body (enterUnlock (unit c) c s)).isThreadUsingLockedApi (unit c) = true ↔
      s.isThreadUsingLockedApi (unit c) = true) ↔
      (s.isThreadUsingLockedApi (unit c) = true → ¬ body.Calls unit (unit c)) := by
  rw [isThreadUsingLockedApi_exec, isThreadUsingLockedApi_enterUnlock]
  constructor
  · intro h husing
    exact (h.mpr husing).2
  · intro h
    exact ⟨fun hboth => hboth.1, fun husing => ⟨husing, h husing⟩⟩

theorem balanced_iff (code : Code γ) (s : ThreadState γ υ) :
    Balanced unit code s ↔ UnlocksApart unit code s := by
  induction code generalizing s with
  | done => exact Iff.rfl
  | throw => exact Iff.rfl
  | seq first rest hfirst hrest =>
      exact and_congr (hfirst s) (imp_congr_right fun _ => hrest _)
  | attempt body handler hbody hhandler =>
      exact and_congr (hbody s) (imp_congr_right fun _ => hhandler _)
  | lockedCall kind c body ih =>
      constructor
      · intro h
        exact (ih _).mp h.1
      · intro h
        have hbody := (ih _).mpr h
        exact ⟨hbody, lockedCall_restores hbody.restores⟩
  | unlockApiGuard c body ih =>
      constructor
      · intro h
        obtain ⟨hheld, hbody, hflag, _⟩ := h
        refine ⟨fun husing => ⟨hheld husing, ?_⟩, (ih _).mp hbody⟩
        exact flag_restored_iff.mp hflag husing
      · intro h
        obtain ⟨hguard, hapart⟩ := h
        have hbody := (ih _).mpr hapart
        have hheld := fun husing => (hguard husing).1
        have hflag := flag_restored_iff.mpr fun husing => (hguard husing).2
        exact ⟨hheld, hbody, hflag, unlockApiGuard_restores hbody.restores hheld hflag⟩
  | lockApiGuard c body ih =>
      constructor
      · intro h
        exact (ih _).mp h.1
      · intro h
        have hbody := (ih _).mpr h
        exact ⟨hbody, lockApiGuard_restores hbody.restores⟩

/-- A locked method that calls another locked method of its class with its lock released. -/
def callsBack : Code Unit :=
  .getFunctionToCall () (.unlockApiGuard () (.getFunctionToCall () .done))

/-- The lock is released once more than it is taken. -/
theorem not_balanced_callsBack : ¬ Balanced (fun _ : Unit => ()) callsBack {} := by
  intro h
  have hguard := h.1.2.2.1.mpr rfl
  exact absurd hguard (by decide)

end DeviceAndDisplay.Helpers
