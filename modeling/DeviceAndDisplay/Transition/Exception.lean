import Mathlib.Tactic.Common

/-! # Computations that may end in an exception

An exception carries the state that was reached, so a promise about what is left has a part for the
result and a part for the exception. -/

namespace DeviceAndDisplay.Transition

universe u

variable {ε : Type*} {α β : Type u}

/-- What holds of the result, or of what the exception carries. -/
def Ends (P : ε → Prop) (Q : α → Prop) : Except ε α → Prop
  | .error e => P e
  | .ok a => Q a

namespace Ends

variable {P : ε → Prop} {Q : α → Prop} {R : β → Prop}

theorem ok {a : α} (h : Q a) : Ends P Q (.ok a) := h

theorem of_ok {x : Except ε α} {a : α} (h : Ends P Q x) (hx : x = .ok a) : Q a := by
  rw [hx] at h
  exact h

theorem of_error {x : Except ε α} {e : ε} (h : Ends P Q x) (hx : x = .error e) : P e := by
  rw [hx] at h
  exact h

theorem imp {P' : ε → Prop} {Q' : α → Prop} {x : Except ε α} (h : Ends P Q x)
    (herror : ∀ e, P e → P' e) (hok : ∀ a, Q a → Q' a) : Ends P' Q' x := by
  cases x with
  | error e => exact herror e h
  | ok a => exact hok a h

/-- The rule for a sequence; an exception of the first part is one of the whole. -/
theorem bind {x : Except ε α} {next : α → Except ε β} (hx : Ends P Q x)
    (hnext : ∀ a, Q a → Ends P R (next a)) : Ends P R (x >>= next) := by
  cases x with
  | error e => exact hx
  | ok a => exact hnext a hx

/-- The rule for a loop: what its body keeps is kept. -/
theorem foldlM {ι : Type*} {step : α → ι → Except ε α} (hstep : ∀ a i, Q a → Ends P Q (step a i))
    {a : α} (h : Q a) (items : List ι) : Ends P Q (items.foldlM step a) := by
  induction items generalizing a with
  | nil => exact h
  | cons i items ih =>
      rw [List.foldlM_cons]
      exact Ends.bind (hstep a i h) fun a' h' => ih h'

end Ends

/-- A sequence comes to its end if both its parts do. -/
theorem bind_eq_ok {x : Except ε α} {next : α → Except ε β} {b : β} :
    (x >>= next) = .ok b ↔ ∃ a, x = .ok a ∧ next a = .ok b := by
  cases x with
  | error e =>
      constructor
      · intro h
        cases h
      · rintro ⟨a, ha, -⟩
        cases ha
  | ok a =>
      constructor
      · intro h
        exact ⟨a, rfl, h⟩
      · rintro ⟨a', ha, h⟩
        cases ha
        exact h

end DeviceAndDisplay.Transition
