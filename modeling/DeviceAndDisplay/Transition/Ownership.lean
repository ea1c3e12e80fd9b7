import Mathlib.Logic.Function.Basic

/-! # Ownership

Slots that may each own a token. A token that is exclusive to a slot stays exclusive when it is put
into a slot, taken out or transferred. -/

namespace DeviceAndDisplay.Transition

variable {ι κ : Type*} {slots : ι → Option κ} {i j : ι} {k new : κ}

/-- Some slot owns the token. -/
def Owned (slots : ι → Option κ) (k : κ) : Prop := ∃ i, slots i = some k

/-- No two slots own the same token. -/
def Exclusive (slots : ι → Option κ) : Prop :=
  ∀ i j k, slots i = some k → slots j = some k → i = j

variable [DecidableEq ι]

/-- The token goes to another slot, which loses its own one. -/
def transfer (slots : ι → Option κ) (source target : ι) : ι → Option κ :=
  Function.update (Function.update slots source none) target (slots source)

theorem update_none_eq_some :
    Function.update slots i none j = some k ↔ j ≠ i ∧ slots j = some k := by
  by_cases hj : j = i
  · subst hj
    simp
  · simp [hj]

theorem update_some_eq_some :
    Function.update slots i (some new) j = some k ↔
      j = i ∧ k = new ∨ j ≠ i ∧ slots j = some k := by
  by_cases hj : j = i
  · subst hj
    simp [eq_comm]
  · simp [hj]

theorem Exclusive.update_none (h : Exclusive slots) (i : ι) :
    Exclusive (Function.update slots i none) := by
  intro a b k ha hb
  exact h a b k (update_none_eq_some.mp ha).2 (update_none_eq_some.mp hb).2

/-- A token that no other slot owns is put into a slot. -/
theorem Exclusive.update_some (h : Exclusive slots) (hnew : ¬ Owned slots new) (i : ι) :
    Exclusive (Function.update slots i (some new)) := by
  intro a b k ha hb
  rcases update_some_eq_some.mp ha with ⟨rfl, rfl⟩ | ⟨_, hsa⟩
  · rcases update_some_eq_some.mp hb with ⟨rfl, _⟩ | ⟨_, hsb⟩
    · rfl
    · exact absurd ⟨b, hsb⟩ hnew
  · rcases update_some_eq_some.mp hb with ⟨_, rfl⟩ | ⟨_, hsb⟩
    · exact absurd ⟨a, hsa⟩ hnew
    · exact h a b k hsa hsb

theorem Exclusive.owned_update_none (h : Exclusive slots) :
    Owned (Function.update slots i none) k ↔ Owned slots k ∧ slots i ≠ some k := by
  simp only [Owned, update_none_eq_some]
  constructor
  · intro hex
    obtain ⟨j, hne, hj⟩ := hex
    exact ⟨⟨j, hj⟩, fun hi => hne (h j i k hj hi)⟩
  · intro hboth
    obtain ⟨⟨j, hj⟩, hi⟩ := hboth
    exact ⟨j, fun heq => hi (heq ▸ hj), hj⟩

theorem Exclusive.owned_update_some (h : Exclusive slots) :
    Owned (Function.update slots i (some new)) k ↔
      k = new ∨ Owned slots k ∧ slots i ≠ some k := by
  rw [← h.owned_update_none]
  simp only [Owned, update_none_eq_some, update_some_eq_some]
  constructor
  · intro hex
    obtain ⟨j, ⟨_, hk⟩ | hj⟩ := hex
    · exact .inl hk
    · exact .inr ⟨j, hj⟩
  · intro hcase
    rcases hcase with hk | ⟨j, hj⟩
    · exact ⟨i, .inl ⟨rfl, hk⟩⟩
    · exact ⟨j, .inr hj⟩

theorem Exclusive.transfer (h : Exclusive slots) (i j : ι) : Exclusive (transfer slots i j) := by
  unfold Transition.transfer
  cases hi : slots i with
  | none => exact (h.update_none i).update_none j
  | some k =>
      refine (h.update_none i).update_some (fun howned => ?_) j
      exact (h.owned_update_none.mp howned).2 hi

/-- Only what the other slot had is lost. -/
theorem Exclusive.owned_transfer (h : Exclusive slots) (hne : j ≠ i) :
    Owned (Transition.transfer slots i j) k ↔ Owned slots k ∧ slots j ≠ some k := by
  have hsame : Function.update slots i none j = slots j := Function.update_of_ne hne ..
  unfold Transition.transfer
  cases hi : slots i with
  | none => rw [(h.update_none i).owned_update_none, h.owned_update_none, hsame, hi]; simp
  | some new =>
      rw [(h.update_none i).owned_update_some, h.owned_update_none, hsame, hi]
      by_cases hk : k = new
      · subst hk
        have hj : slots j ≠ some k := fun hj => hne (h j i k hj hi)
        simp [hj, show Owned slots k from ⟨i, hi⟩]
      · simp [hk, Ne.symm hk]

end DeviceAndDisplay.Transition
