import Mathlib.Data.Nat.Notation
import Mathlib.Logic.Function.Basic

/-! # Locked API calls

What one thread does to the API locks, one for each class, and to the flag that says that it is in a
locked call. The flag is in an unnamed namespace of the header, so each translation unit has its
own. -/

namespace DeviceAndDisplay.Helpers

variable {γ υ : Type*}

/-- The wrappers that take the lock of a class. -/
inductive LockedCall where
  | method
  | iarmHandler
deriving DecidableEq, Repr

/-- What a thread executes; all that has no part in the locks is left out. -/
inductive Code (γ : Type*) where
  | done
  | throw
  | seq (first rest : Code γ)
  | attempt (body handler : Code γ)
  | lockedCall (kind : LockedCall) (c : γ) (body : Code γ)
  | unlockApiGuard (c : γ) (body : Code γ)
  | lockApiGuard (c : γ) (body : Code γ)
deriving DecidableEq, Repr

namespace Code

/-- `getFunctionToCall` -/
def getFunctionToCall (c : γ) (method : Code γ) : Code γ := .lockedCall .method c method

/-- `_generic_iarm_handler` -/
def genericIarmHandler (c : γ) (handler : Code γ) : Code γ := .lockedCall .iarmHandler c handler

/-- An exception leaves the code. -/
def raises : Code γ → Bool
  | done => false
  | throw => true
  | seq first rest => first.raises || rest.raises
  | attempt body handler => body.raises && handler.raises
  | lockedCall _ _ body => body.raises
  | unlockApiGuard _ body => body.raises
  | lockApiGuard _ body => body.raises

end Code

/-- `isThreadUsingLockedApi` of each translation unit, and how often the thread holds the lock of
each class. -/
structure ThreadState (γ υ : Type*) where
  isThreadUsingLockedApi : υ → Bool := fun _ => false
  held : γ → ℕ := fun _ => 0

namespace ThreadState

variable [DecidableEq γ] [DecidableEq υ]

def setUsing (u : υ) (value : Bool) (s : ThreadState γ υ) : ThreadState γ υ :=
  { s with isThreadUsingLockedApi := Function.update s.isThreadUsingLockedApi u value }

def lock (c : γ) (s : ThreadState γ υ) : ThreadState γ υ :=
  { s with held := Function.update s.held c (s.held c + 1) }

/-- Not defined for a lock that is not held. -/
def unlock (c : γ) (s : ThreadState γ υ) : ThreadState γ υ :=
  { s with held := Function.update s.held c (s.held c - 1) }

end ThreadState

section Exec

variable [DecidableEq γ] [DecidableEq υ]

/-- The start of a locked call of a class in the unit `u`. -/
def enterCall (u : υ) (c : γ) (s : ThreadState γ υ) : ThreadState γ υ :=
  (s.setUsing u true).lock c

/-- The end of a locked call, also by an exception. -/
def leaveCall (u : υ) (c : γ) (s : ThreadState γ υ) : ThreadState γ υ :=
  (s.setUsing u false).unlock c

/-- The constructor of `UnlockApiGuard`. -/
def enterUnlock (u : υ) (c : γ) (s : ThreadState γ υ) : ThreadState γ υ :=
  if s.isThreadUsingLockedApi u then s.unlock c else s

/-- The destructor of `UnlockApiGuard`. -/
def leaveUnlock (u : υ) (c : γ) (s : ThreadState γ υ) : ThreadState γ υ :=
  if s.isThreadUsingLockedApi u then s.lock c else s

/-- The state that is left, also by an exception; `unit` is the translation unit of a class. -/
def exec (unit : γ → υ) : Code γ → ThreadState γ υ → ThreadState γ υ
  | .done, s => s
  | .throw, s => s
  | .seq first rest, s =>
      if first.raises then exec unit first s else exec unit rest (exec unit first s)
  | .attempt body handler, s =>
      if body.raises then exec unit handler (exec unit body s) else exec unit body s
  | .lockedCall _ c body, s => leaveCall (unit c) c (exec unit body (enterCall (unit c) c s))
  | .unlockApiGuard c body, s =>
      leaveUnlock (unit c) c (exec unit body (enterUnlock (unit c) c s))
  | .lockApiGuard c body, s => (exec unit body (s.lock c)).unlock c

end Exec

end DeviceAndDisplay.Helpers
