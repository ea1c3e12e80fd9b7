import Mathlib.Data.List.Nodup

/-! # Loops over a linked list that changes meanwhile

The nodes of a list are distinct. A loop stands at a node; the nodes its body was run for are
those before it, less the ones that were erased since, and itself. -/

namespace DeviceAndDisplay.Storage

variable {α : Type*}

/-- The node after `a`; `none` is the end of the list. -/
def next [DecidableEq α] (a : α) : List α → Option α
  | [] => none
  | b :: l => if b = a then l.head? else next a l

theorem next_split [DecidableEq α] {a : α} {before after : List α} (h : a ∉ before) :
    next a (before ++ a :: after) = after.head? := by
  induction before with
  | nil => simp [next]
  | cons b before ih =>
      have hb : b ≠ a := by
        intro hba
        apply h
        simp [hba]
      have ha : a ∉ before := fun ha => h (List.mem_cons_of_mem b ha)
      rw [List.cons_append, next, if_neg hb, ih ha]

theorem next_of_nodup [DecidableEq α] {a : α} {before after : List α}
    (h : (before ++ a :: after).Nodup) : next a (before ++ a :: after) = after.head? := by
  apply next_split
  intro ha
  exact (List.nodup_append.mp h).2.2 a ha a List.mem_cons_self rfl

/-- A loop over `l` that ran its body for `visited` stands at `a`. -/
structure StandsAt (l : List α) (a : α) (visited : List α) : Prop where
  nodup : visited.Nodup
  self : a ∈ visited
  split : ∃ before after, l = before ++ a :: after ∧ (∀ b ∈ before, b ∈ visited) ∧
    ∀ b ∈ after, b ∉ visited

namespace StandsAt

variable {l visited : List α} {a b : α}

theorem mem (h : StandsAt l a visited) : a ∈ l := by
  obtain ⟨before, after, rfl, -, -⟩ := h.split
  simp

/-- The loop begins. -/
theorem head (hl : l.Nodup) (h : l.head? = some a) : StandsAt l a [a] := by
  cases l with
  | nil => cases h
  | cons b l =>
      cases h
      refine ⟨List.nodup_singleton a, List.mem_singleton_self a, [], l, rfl, by simp, ?_⟩
      intro b hb hba
      rw [List.mem_singleton.mp hba] at hb
      exact (List.nodup_cons.mp hl).1 hb

/-- A node is pushed back. -/
theorem pushBack (h : StandsAt l a visited) (hb : b ∉ visited) :
    StandsAt (l ++ [b]) a visited := by
  obtain ⟨before, after, rfl, hbefore, hafter⟩ := h.split
  refine ⟨h.nodup, h.self, before, after ++ [b], by simp, hbefore, ?_⟩
  intro c hc
  rcases List.mem_append.mp hc with hc | hc
  · exact hafter c hc
  · rw [List.mem_singleton.mp hc]
    exact hb

variable [DecidableEq α]

theorem next_eq (h : StandsAt l a visited) (hl : l.Nodup) :
    ∃ before after, l = before ++ a :: after ∧ next a l = after.head? ∧
      (∀ b ∈ before, b ∈ visited) ∧ ∀ b ∈ after, b ∉ visited := by
  obtain ⟨before, after, rfl, hbefore, hafter⟩ := h.split
  exact ⟨before, after, rfl, next_of_nodup hl, hbefore, hafter⟩

/-- The loop goes on. -/
theorem step (h : StandsAt l a visited) (hl : l.Nodup) (hn : next a l = some b) :
    StandsAt l b (visited ++ [b]) := by
  obtain ⟨before, after, rfl, hnext, hbefore, hafter⟩ := h.next_eq hl
  rw [hnext] at hn
  cases after with
  | nil => cases hn
  | cons c after =>
      cases hn
      have hb : b ∉ visited := hafter b List.mem_cons_self
      have hnodup : (b :: after).Nodup :=
        (List.nodup_cons.mp (List.nodup_append.mp hl).2.1).2
      refine ⟨?_, by simp, before ++ [a], after, by simp, ?_, ?_⟩
      · apply List.Nodup.append h.nodup (List.nodup_singleton b)
        simpa using hb
      · intro c hc
        apply List.mem_append_left
        rcases List.mem_append.mp hc with hc | hc
        · exact hbefore c hc
        · rw [List.mem_singleton.mp hc]
          exact h.self
      · intro c hc hv
        rcases List.mem_append.mp hv with hv | hv
        · exact hafter c (List.mem_cons_of_mem b hc) hv
        · rw [List.mem_singleton.mp hv] at hc
          exact (List.nodup_cons.mp hnodup).1 hc

/-- A node is erased, and the loop does not stand at it. -/
theorem erase (h : StandsAt l a visited) (hb : b ≠ a) : StandsAt (l.erase b) a visited := by
  obtain ⟨before, after, rfl, hbefore, hafter⟩ := h.split
  refine ⟨h.nodup, h.self, ?_⟩
  by_cases hmem : b ∈ before
  · refine ⟨before.erase b, after, List.erase_append_left _ hmem, ?_, hafter⟩
    exact fun c hc => hbefore c (List.mem_of_mem_erase hc)
  · refine ⟨before, after.erase b, ?_, hbefore, ?_⟩
    · rw [List.erase_append_right _ hmem, List.erase_cons_tail (by simpa using hb.symm)]
    · exact fun c hc => hafter c (List.mem_of_mem_erase hc)

/-- When the loop ends, its body was run once for every node that is on the list. -/
theorem count_eq_one (h : StandsAt l a visited) (hl : l.Nodup) (hn : next a l = none)
    (hb : b ∈ l) : visited.count b = 1 := by
  apply List.count_eq_one_of_mem h.nodup
  obtain ⟨before, after, rfl, hnext, hbefore, -⟩ := h.next_eq hl
  rw [hnext, List.head?_eq_none_iff] at hn
  rw [hn] at hb
  rcases List.mem_append.mp hb with hb | hb
  · exact hbefore b hb
  · rw [List.mem_singleton.mp hb]
    exact h.self

end StandsAt

end DeviceAndDisplay.Storage
