import DeviceAndDisplay.Storage.Text

/-! Searches from a position on, as `std::string` makes them. A position is `none` if it is `npos`,
the greatest number of its type. -/

namespace DeviceAndDisplay.Storage

variable {α : Type*} [DecidableEq α]

/-- `pos + k` for `0 < k`; behind `npos` the numbers begin again. -/
def advance : Option ℕ → ℕ → ℕ
  | some pos, k => pos + k
  | none, k => k - 1

/-- `find` with a position to start from. -/
def findFrom (pattern text : List α) : Option ℕ → Option ℕ
  | some pos => (find pattern (text.drop pos)).map (· + pos)
  | none => none

omit [DecidableEq α] in
/-- `substr(start, stop - start)`, which throws if `start` is behind the end. A negative count is
one that no text exceeds. -/
def substr (text : List α) (start : ℕ) (stop : Option ℕ) : Option (List α) :=
  if start ≤ text.length then
    match stop with
    | some stop =>
        some (if start ≤ stop then (text.drop start).take (stop - start) else text.drop start)
    | none => some (text.drop start)
  else
    none

def Occurs (pattern text : List α) (pos : ℕ) : Prop := pattern <+: text.drop pos

instance (pattern text : List α) (pos : ℕ) : Decidable (Occurs pattern text pos) :=
  inferInstanceAs (Decidable (pattern <+: text.drop pos))

/-- How often a pattern occurs in a text. -/
def occurrences (pattern : List α) : List α → ℕ
  | [] => 0
  | x :: rest => (if pattern <+: x :: rest then 1 else 0) + occurrences pattern rest

variable {pattern text : List α}

/-! ### Occurrences -/

omit [DecidableEq α] in
theorem Occurs.length (hne : pattern ≠ []) {pos : ℕ} (h : Occurs pattern text pos) :
    pos + pattern.length ≤ text.length := by
  have hlen := h.length_le
  have hpos := List.length_pos_of_ne_nil hne
  rw [List.length_drop] at hlen
  omega

theorem occurrences_drop_le (pattern text : List α) (pos : ℕ) :
    occurrences pattern (text.drop pos) ≤ occurrences pattern text := by
  induction pos generalizing text with
  | zero => exact Nat.le_refl _
  | succ pos ih =>
      cases text with
      | nil => exact Nat.le_refl _
      | cons x rest =>
          rw [List.drop_succ_cons, occurrences]
          have hle := ih rest
          omega

theorem occurrences_drop_lt (hne : pattern ≠ []) {pos n next : ℕ} (hpos : pos ≤ n)
    (h : Occurs pattern text n) (hnext : n < next) :
    occurrences pattern (text.drop next) < occurrences pattern (text.drop pos) := by
  have hn : n < text.length := by
    have hlen := h.length hne
    have hpattern := List.length_pos_of_ne_nil hne
    omega
  have hdrop : text.drop n = text[n] :: text.drop (n + 1) := List.drop_eq_getElem_cons hn
  have hhere : occurrences pattern (text.drop n) = 1 + occurrences pattern (text.drop (n + 1)) := by
    rw [Occurs, hdrop] at h
    rw [hdrop, occurrences, if_pos h]
  have hbefore : occurrences pattern (text.drop n) ≤ occurrences pattern (text.drop pos) := by
    have hle := occurrences_drop_le pattern (text.drop pos) (n - pos)
    rwa [List.drop_drop, Nat.add_sub_cancel' hpos] at hle
  have hafter :
      occurrences pattern (text.drop next) ≤ occurrences pattern (text.drop (n + 1)) := by
    have hle := occurrences_drop_le pattern (text.drop (n + 1)) (next - (n + 1))
    rwa [List.drop_drop, Nat.add_sub_cancel' hnext] at hle
  omega

/-! ### Searches -/

@[simp] theorem findFrom_npos : findFrom pattern text none = none := rfl

theorem find_eq_some_iff (hne : pattern ≠ []) {n : ℕ} :
    find pattern text = some n ↔ Occurs pattern text n ∧ ∀ i < n, ¬ Occurs pattern text i := by
  induction text generalizing n with
  | nil =>
      rw [find, if_neg hne]
      simp [Occurs, hne]
  | cons x rest ih =>
      rw [find]
      by_cases h : pattern <+: x :: rest
      · rw [if_pos h]
        constructor
        · intro hn
          cases hn
          exact ⟨h, fun i hi => absurd hi (Nat.not_lt_zero i)⟩
        · rintro ⟨-, hfirst⟩
          cases n with
          | zero => rfl
          | succ n => exact absurd h (hfirst 0 (Nat.succ_pos n))
      · rw [if_neg h]
        cases n with
        | zero =>
            constructor
            · intro hn
              obtain ⟨m, -, hm⟩ := Option.map_eq_some_iff.mp hn
              exact absurd hm (Nat.succ_ne_zero m)
            · exact fun hn => absurd hn.1 h
        | succ n =>
            have hmap : (find pattern rest).map (· + 1) = some (n + 1) ↔
                find pattern rest = some n := by
              cases find pattern rest <;> simp
            rw [hmap, ih]
            refine and_congr_right fun _ => ⟨fun hfirst i hi => ?_, fun hfirst i hi => ?_⟩
            · cases i with
              | zero => exact h
              | succ i => exact hfirst i (Nat.lt_of_succ_lt_succ hi)
            · exact hfirst (i + 1) (Nat.succ_lt_succ hi)

/-- The first occurrence from a position on. -/
theorem findFrom_eq_some_iff (hne : pattern ≠ []) {pos n : ℕ} :
    findFrom pattern text (some pos) = some n ↔
      pos ≤ n ∧ Occurs pattern text n ∧
        ∀ i, pos ≤ i → i < n → ¬ Occurs pattern text i := by
  have hdrop : ∀ i, Occurs pattern (text.drop pos) i ↔ Occurs pattern text (pos + i) := by
    intro i
    rw [Occurs, Occurs, List.drop_drop]
  rw [findFrom, Option.map_eq_some_iff]
  constructor
  · rintro ⟨m, hm, rfl⟩
    obtain ⟨hoccurs, hfirst⟩ := (find_eq_some_iff hne).mp hm
    refine ⟨Nat.le_add_left pos m, ?_, fun i hle hlt => ?_⟩
    · rw [Nat.add_comm]
      exact (hdrop m).mp hoccurs
    · have hnot := hfirst (i - pos) (by omega)
      rwa [hdrop, Nat.add_sub_cancel' hle] at hnot
  · rintro ⟨hle, hoccurs, hfirst⟩
    refine ⟨n - pos, (find_eq_some_iff hne).mpr ⟨?_, fun i hi => ?_⟩, Nat.sub_add_cancel hle⟩
    · rwa [hdrop, Nat.add_sub_cancel' hle]
    · rw [hdrop]
      exact hfirst (pos + i) (Nat.le_add_right pos i) (by omega)

theorem findFrom_eq_none_iff (hne : pattern ≠ []) {pos : ℕ} :
    findFrom pattern text (some pos) = none ↔ ∀ i, pos ≤ i → ¬ Occurs pattern text i := by
  constructor
  · intro h i hi hoccurs
    rw [findFrom, Option.map_eq_none_iff, find_eq_none_iff] at h
    rw [Occurs, ← Nat.add_sub_cancel' hi, ← List.drop_drop] at hoccurs
    exact h (hoccurs.isInfix.trans (List.drop_suffix (i - pos) (text.drop pos)).isInfix)
  · intro h
    cases hfind : findFrom pattern text (some pos) with
    | none => rfl
    | some n =>
        obtain ⟨hle, hoccurs, -⟩ := (findFrom_eq_some_iff hne).mp hfind
        exact absurd hoccurs (h n hle)

/-- Where a pattern does not occur, a search may begin later. -/
theorem findFrom_skip (hne : pattern ≠ []) {pos pos' : ℕ} (hle : pos ≤ pos')
    (h : ∀ i, pos ≤ i → i < pos' → ¬ Occurs pattern text i) :
    findFrom pattern text (some pos) = findFrom pattern text (some pos') := by
  cases hfind : findFrom pattern text (some pos') with
  | none =>
      rw [findFrom_eq_none_iff hne] at hfind ⊢
      intro i hi
      by_cases hlt : i < pos'
      · exact h i hi hlt
      · exact hfind i (Nat.le_of_not_lt hlt)
  | some n =>
      rw [findFrom_eq_some_iff hne] at hfind ⊢
      obtain ⟨hn, hoccurs, hfirst⟩ := hfind
      refine ⟨hle.trans hn, hoccurs, fun i hi hlt => ?_⟩
      by_cases hlt' : i < pos'
      · exact h i hi hlt'
      · exact hfirst i (Nat.le_of_not_lt hlt') hlt

/-- A search behind a part of the text. -/
theorem findFrom_append {front back : List α} {pos : ℕ} (htext : text = front ++ back)
    (hpos : front.length = pos) :
    findFrom pattern text (some pos) = (find pattern back).map (· + pos) := by
  rw [findFrom, htext, ← hpos, List.drop_left]

/-- The end of a part that starts at a position. -/
theorem findFrom_separator {sep : α} {front part back : List α} {pos : ℕ}
    (htext : text = front ++ (part ++ sep :: back)) (hpos : front.length = pos)
    (hpart : sep ∉ part) : findFrom [sep] text (some pos) = some (pos + part.length) := by
  rw [findFrom_append htext hpos, find_separator hpart]
  exact congrArg some (Nat.add_comm _ _)

omit [DecidableEq α] in
theorem substr_append {front part back : List α} {start stop : ℕ}
    (htext : text = front ++ (part ++ back)) (hstart : front.length = start)
    (hstop : start + part.length = stop) : substr text start (some stop) = some part := by
  have hle : start ≤ text.length := by
    rw [htext, List.length_append]
    omega
  simp only [substr]
  rw [if_pos hle, if_pos (by omega), ← hstop, Nat.add_sub_cancel_left, htext, ← hstart,
    List.drop_left, List.take_left]

end DeviceAndDisplay.Storage
