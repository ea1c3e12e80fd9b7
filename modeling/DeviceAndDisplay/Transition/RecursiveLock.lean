import Mathlib.Data.Nat.Notation
import Mathlib.Tactic.Common

/-! # Recursive locks -/

namespace DeviceAndDisplay.Transition

variable {τ : Type*} [DecidableEq τ]

/-- A lock that the thread holding it can take again. -/
structure RecursiveLock (τ : Type*) where
  owner : Option τ := none
  count : ℕ := 0
deriving DecidableEq, Repr

namespace RecursiveLock

variable {l l' : RecursiveLock τ} {t u : τ}

/-- The thread would not have to wait. -/
def Available (t : τ) (l : RecursiveLock τ) : Prop :=
  ∀ u ∈ l.owner, u = t

instance (t : τ) (l : RecursiveLock τ) : Decidable (l.Available t) :=
  match h : l.owner with
  | none => isTrue (by simp [Available, h])
  | some u => decidable_of_iff (u = t) (by simp [Available, h])

/-- How often the thread has taken the lock without releasing it. -/
def depth (t : τ) (l : RecursiveLock τ) : ℕ :=
  if l.owner = some t then l.count else 0

/-- Taken by a thread it is available to. -/
def lock (t : τ) (l : RecursiveLock τ) : RecursiveLock τ where
  owner := some t
  count := l.depth t + 1

/-- Released by its owner. -/
def unlock (l : RecursiveLock τ) : RecursiveLock τ :=
  if l.count ≤ 1 then {} else { l with count := l.count - 1 }

@[simp] theorem depth_free (t : τ) : ({} : RecursiveLock τ).depth t = 0 := rfl

@[simp] theorem depth_lock_self : (l.lock t).depth t = l.depth t + 1 := by
  simp [lock, depth]

/-- A lock that is available to one thread is held by no other. -/
theorem Available.depth_eq_zero (h : l.Available t) (hu : u ≠ t) : l.depth u = 0 := by
  rw [depth, if_neg]
  intro ho
  exact hu (h u ho)

theorem depth_lock_of_ne (h : l.Available t) (hu : u ≠ t) :
    (l.lock t).depth u = l.depth u := by
  rw [h.depth_eq_zero hu]
  simp [lock, depth, hu.symm]

/-- The thread that holds the lock is its owner. -/
theorem owner_of_depth (h : 0 < l.depth t) : l.owner = some t := by
  by_contra ho
  simp [depth, ho] at h

theorem available_of_depth (h : 0 < l.depth t) : l.Available t := by
  intro u hu
  exact Option.some.inj (hu.symm.trans (owner_of_depth h))

theorem depth_unlock_self (h : 0 < l.depth t) : (l.unlock).depth t = l.depth t - 1 := by
  have ho := owner_of_depth h
  have hc : l.depth t = l.count := by simp [depth, ho]
  unfold unlock
  split
  · rw [depth_free, hc]
    omega
  · simp [depth, ho]

theorem depth_unlock_of_ne (h : 0 < l.depth t) (hu : u ≠ t) :
    (l.unlock).depth u = l.depth u := by
  have ho := owner_of_depth h
  rw [(available_of_depth h).depth_eq_zero hu]
  unfold unlock
  split
  · rfl
  · simp [depth, ho, hu.symm]

end RecursiveLock

end DeviceAndDisplay.Transition
