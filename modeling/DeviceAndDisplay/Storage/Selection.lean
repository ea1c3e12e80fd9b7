import Mathlib.Data.List.Basic
import Mathlib.Data.List.Induction
import Mathlib.Data.List.Count
import Mathlib.Order.Defs.Unbundled

/-! # The first and the last element with a property

A search ends at the first one, and a sequence of assignments leaves what the last one assigns. -/

namespace DeviceAndDisplay.Storage

variable {α : Type*} {P : α → Prop} {items : List α} {item other x : α}

/-- The first element with the property. -/
def IsFirst (P : α → Prop) (items : List α) (item : α) : Prop :=
  ∃ before after, items = before ++ item :: after ∧ P item ∧ ∀ earlier ∈ before, ¬ P earlier

/-- The last element with the property. -/
def IsLast (P : α → Prop) (items : List α) (item : α) : Prop :=
  ∃ before after, items = before ++ item :: after ∧ P item ∧ ∀ later ∈ after, ¬ P later

/-! ### The first element -/

theorem IsFirst.holds (h : IsFirst P items item) : P item := by
  obtain ⟨_, _, _, hitem, _⟩ := h
  exact hitem

theorem IsFirst.mem (h : IsFirst P items item) : item ∈ items := by
  obtain ⟨before, after, rfl, _, _⟩ := h
  simp

theorem not_isFirst_nil : ¬ IsFirst P [] item := by
  intro h
  cases h.mem

theorem isFirst_cons :
    IsFirst P (x :: items) item ↔ P x ∧ item = x ∨ ¬ P x ∧ IsFirst P items item := by
  constructor
  · intro h
    obtain ⟨before, after, hitems, hitem, hbefore⟩ := h
    cases before with
    | nil =>
        obtain ⟨rfl, rfl⟩ := List.cons.inj hitems
        exact .inl ⟨hitem, rfl⟩
    | cons y before =>
        obtain ⟨rfl, rfl⟩ := List.cons.inj hitems
        refine .inr ⟨hbefore x List.mem_cons_self, before, after, rfl, hitem, ?_⟩
        intro earlier hearlier
        exact hbefore earlier (List.mem_cons_of_mem _ hearlier)
  · intro h
    rcases h with ⟨hx, rfl⟩ | ⟨hx, before, after, rfl, hitem, hbefore⟩
    · exact ⟨[], items, rfl, hx, by simp⟩
    · refine ⟨x :: before, after, rfl, hitem, fun earlier hearlier => ?_⟩
      rcases List.mem_cons.mp hearlier with rfl | hearlier
      · exact hx
      · exact hbefore earlier hearlier

theorem exists_isFirst (h : x ∈ items) (hx : P x) : ∃ item, IsFirst P items item := by
  induction items with
  | nil => cases h
  | cons y items ih =>
      by_cases hy : P y
      · exact ⟨y, isFirst_cons.mpr (.inl ⟨hy, rfl⟩)⟩
      · have hmem : x ∈ items := by
          rcases List.mem_cons.mp h with rfl | h
          · exact absurd hx hy
          · exact h
        obtain ⟨item, hitem⟩ := ih hmem
        exact ⟨item, isFirst_cons.mpr (.inr ⟨hy, hitem⟩)⟩

/-- The first element with a weaker property, if it has the stronger one, too. -/
theorem IsFirst.of_imp {stronger : α → Prop} (h : IsFirst P items item)
    (himp : ∀ x, stronger x → P x) (hitem : stronger item) : IsFirst stronger items item := by
  obtain ⟨before, after, hitems, _, hbefore⟩ := h
  refine ⟨before, after, hitems, hitem, fun earlier hearlier hs => ?_⟩
  exact hbefore earlier hearlier (himp earlier hs)

theorem IsFirst.unique (h : IsFirst P items item) (h' : IsFirst P items other) :
    item = other := by
  induction items with
  | nil => exact absurd h not_isFirst_nil
  | cons x items ih =>
      rcases isFirst_cons.mp h with ⟨hx, rfl⟩ | ⟨hx, h⟩
      · rcases isFirst_cons.mp h' with ⟨_, rfl⟩ | ⟨hnot, _⟩
        · rfl
        · exact absurd hx hnot
      · rcases isFirst_cons.mp h' with ⟨hhas, _⟩ | ⟨_, h'⟩
        · exact absurd hhas hx
        · exact ih h h'

/-- A search that finds something at the first element with the property, and nothing without the
property, ends there. -/
theorem IsFirst.findSome?_eq {β : Type*} {f : α → Option β} {value : β} (h : IsFirst P items item)
    (hnone : ∀ x, ¬ P x → f x = none) (hvalue : f item = some value) :
    items.findSome? f = some value := by
  induction items with
  | nil => exact absurd h not_isFirst_nil
  | cons x items ih =>
      rw [List.findSome?_cons]
      rcases isFirst_cons.mp h with ⟨_, rfl⟩ | ⟨hx, h⟩
      · rw [hvalue]
      · rw [hnone x hx, ih h]

/-! ### The last element -/

theorem IsLast.holds (h : IsLast P items item) : P item := by
  obtain ⟨_, _, _, hitem, _⟩ := h
  exact hitem

theorem IsLast.mem (h : IsLast P items item) : item ∈ items := by
  obtain ⟨before, after, rfl, _, _⟩ := h
  simp

theorem not_isLast_nil : ¬ IsLast P [] item := by
  rintro ⟨before, after, hitems, _⟩
  simp at hitems

theorem isLast_append_singleton :
    IsLast P (items ++ [x]) item ↔
      P x ∧ item = x ∨ ¬ P x ∧ IsLast P items item := by
  constructor
  · rintro ⟨before, after, hitems, hitem, hafter⟩
    induction after using List.reverseRecOn with
    | nil =>
        obtain ⟨_, hx⟩ := List.append_inj' hitems rfl
        obtain rfl := List.singleton_inj.mp hx
        exact .inl ⟨hitem, rfl⟩
    | append_singleton after y _ =>
        rw [← List.cons_append, ← List.append_assoc] at hitems
        obtain ⟨hfront, hx⟩ := List.append_inj' hitems rfl
        obtain rfl := List.singleton_inj.mp hx
        refine .inr ⟨hafter x (by simp), before, after, hfront, hitem, fun later hlater => ?_⟩
        exact hafter later (List.mem_append_left _ hlater)
  · rintro (⟨hx, rfl⟩ | ⟨hx, before, after, rfl, hitem, hafter⟩)
    · exact ⟨items, [], rfl, hx, by simp⟩
    · refine ⟨before, after ++ [x], by simp, hitem, fun later hlater => ?_⟩
      rcases List.mem_append.mp hlater with hlater | hlater
      · exact hafter later hlater
      · rw [List.mem_singleton.mp hlater]
        exact hx

theorem IsLast.unique (h : IsLast P items item) (h' : IsLast P items other) :
    item = other := by
  induction items using List.reverseRecOn with
  | nil => exact absurd h not_isLast_nil
  | append_singleton items x ih =>
      rcases isLast_append_singleton.mp h with ⟨hx, rfl⟩ | ⟨hx, h⟩
      · rcases isLast_append_singleton.mp h' with ⟨_, rfl⟩ | ⟨hnot, _⟩
        · rfl
        · exact absurd hx hnot
      · rcases isLast_append_singleton.mp h' with ⟨hhas, _⟩ | ⟨_, h'⟩
        · exact absurd hhas hx
        · exact ih h h'

theorem exists_isLast (h : x ∈ items) (hx : P x) : ∃ item, IsLast P items item := by
  induction items using List.reverseRecOn with
  | nil => cases h
  | append_singleton items y ih =>
      by_cases hy : P y
      · exact ⟨y, isLast_append_singleton.mpr (.inl ⟨hy, rfl⟩)⟩
      · have hmem : x ∈ items := by
          rcases List.mem_append.mp h with h | h
          · exact h
          · rw [List.mem_singleton.mp h] at hx
            exact absurd hx hy
        obtain ⟨item, hitem⟩ := ih hmem
        exact ⟨item, isLast_append_singleton.mpr (.inr ⟨hy, hitem⟩)⟩

/-- The last element with a weaker property, if it has the stronger one, too. -/
theorem IsLast.of_imp {stronger : α → Prop} (h : IsLast P items item)
    (himp : ∀ x, stronger x → P x) (hitem : stronger item) : IsLast stronger items item := by
  obtain ⟨before, after, hitems, _, hafter⟩ := h
  exact ⟨before, after, hitems, hitem, fun later hlater hs => hafter later hlater (himp later hs)⟩

/-- Each element overwrites what the ones before it left. -/
theorem foldlM_overwrite_eq_some_iff {β : Type*} {f : α → Option β} {initial result : β} :
    items.foldlM (fun _ item => f item) initial = some result ↔
      (∀ item ∈ items, ∃ value, f item = some value) ∧
        (items = [] ∧ result = initial ∨
          ∃ last, items.getLast? = some last ∧ f last = some result) := by
  induction items generalizing initial with
  | nil => simp [eq_comm]
  | cons x items ih =>
      rw [List.foldlM_cons]
      cases hx : f x with
      | none => simp [hx]
      | some value =>
          change items.foldlM (fun _ item => f item) value = some result ↔ _
          rw [ih]
          cases items with
          | nil => simp [hx, eq_comm]
          | cons y items => simp [hx]

/-! ### Ranks in a sorted list -/

section Ranks

variable {r : α → α → Prop} [DecidableRel r] [Std.Refl r] {sorted : List α} {k : ℕ}

/-- At most `k` elements are before the one at `k` and not after it as well. -/
theorem countP_before_le (h : sorted.Pairwise r) (hx : sorted[k]? = some x) :
    sorted.countP (fun y => !decide (r x y)) ≤ k := by
  induction sorted generalizing k with
  | nil => simp
  | cons y sorted ih =>
      obtain ⟨hy, hsorted⟩ := List.pairwise_cons.mp h
      cases k with
      | zero =>
          obtain rfl : y = x := by simpa using hx
          have hall : ∀ z ∈ y :: sorted, r y z := by
            intro z hz
            rcases List.mem_cons.mp hz with rfl | hz
            · exact refl_of r z
            · exact hy z hz
          rw [Nat.le_zero, List.countP_eq_zero]
          intro z hz
          simp [hall z hz]
      | succ k =>
          have htail := ih hsorted (by simpa using hx)
          have hcount := List.countP_cons (p := fun y => !decide (r x y)) (a := y) (l := sorted)
          rw [hcount]
          split
          · omega
          · omega

/-- At most as many elements as stand behind the one at `k` are after it and not before it as
well. -/
theorem countP_after_le (h : sorted.Pairwise r) (hx : sorted[k]? = some x) :
    sorted.countP (fun y => !decide (r y x)) ≤ sorted.length - 1 - k := by
  induction sorted generalizing k with
  | nil => simp
  | cons y sorted ih =>
      obtain ⟨hy, hsorted⟩ := List.pairwise_cons.mp h
      cases k with
      | zero =>
          obtain rfl : y = x := by simpa using hx
          rw [List.countP_cons_of_neg (by simp [refl_of r y])]
          exact List.countP_le_length
      | succ k =>
          have hx' : sorted[k]? = some x := by simpa using hx
          have htail := ih hsorted hx'
          have hyx : r y x := hy x (List.mem_of_getElem? hx')
          rw [List.countP_cons_of_neg (by simp [hyx]), List.length_cons]
          omega

end Ranks

end DeviceAndDisplay.Storage
