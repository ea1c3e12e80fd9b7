import DeviceAndDisplay.Model.SystemMode.SystemModeImplementation

/-! # Callsigns within a value

A value lists callsigns, each followed by `|`. `delete` erases the first occurrence of a callsign
as text, with the character after it. -/

namespace DeviceAndDisplay.SystemMode

open Storage

/-- A callsign that can be stored. -/
def IsCallsign (c : Text) : Prop := c ≠ [] ∧ '|' ∉ c ∧ '=' ∉ c ∧ '\n' ∉ c

instance (c : Text) : Decidable (IsCallsign c) :=
  inferInstanceAs (Decidable (_ ∧ _))

/-- The callsigns of a value. -/
def pieces (value : Text) : List Text := (split '|' value).filter (· ≠ [])

theorem pieces_append_cons {t : Text} (ht : '|' ∉ t) (rest : Text) :
    pieces (t ++ '|' :: rest) = if t = [] then pieces rest else t :: pieces rest := by
  rw [pieces, split, List.splitOn_append_cons_self_of_not_mem ht, List.filter_cons]
  by_cases hnil : t = []
  · simp [hnil, pieces, split]
  · simp [hnil, pieces, split]

theorem pieces_of_not_mem {t : Text} (ht : '|' ∉ t) :
    pieces t = if t = [] then [] else [t] := by
  rw [pieces, split, List.splitOn_eq_singleton ht]
  by_cases hnil : t = [] <;> simp [hnil]

theorem pieces_terminate {cs : List Text} (h : ∀ t ∈ cs, IsCallsign t) :
    pieces (terminate '|' cs) = cs := by
  induction cs with
  | nil => rfl
  | cons t cs ih =>
      obtain ⟨hne, hsep, _⟩ := h t List.mem_cons_self
      rw [terminate_cons, pieces_append_cons hsep, if_neg hne,
        ih fun u hu => h u (List.mem_cons_of_mem t hu)]

/-! ### Where a callsign is found -/

/-- The first of the callsigns that contains `c` is `c` itself, or it ends with `c`, contains `c`
only there, and is followed by `c`. -/
def FindsWhole (c : Text) : List Text → Prop
  | [] => True
  | t :: cs =>
      if c <:+: t then t = c ∨ (find c t = some (t.length - c.length) ∧ cs.head? = some c)
      else FindsWhole c cs

instance decidableFindsWhole (c : Text) : ∀ cs, Decidable (FindsWhole c cs)
  | [] => isTrue trivial
  | t :: cs =>
      have := decidableFindsWhole c cs
      inferInstanceAs (Decidable (if c <:+: t then _ else FindsWhole c cs))

theorem filter_ne_of_not_mem {c : Text} {cs : List Text} (h : c ∉ cs) :
    cs.filter (· ≠ c) = cs := by
  rw [List.filter_eq_self]
  intro t ht
  simp only [ne_eq, decide_eq_true_eq]
  rintro rfl
  exact h ht

theorem infix_terminate_iff {c : Text} (hc : IsCallsign c) {cs : List Text} :
    c <:+: terminate '|' cs ↔ ∃ t ∈ cs, c <:+: t := by
  induction cs with
  | nil =>
      rw [terminate_nil, List.infix_nil]
      simp [hc.1]
  | cons t cs ih =>
      rw [terminate_cons, infix_append_cons_iff hc.2.1 hc.1, ih]
      simp

/-- The position of a callsign in its first container, and the text after the erasure. -/
theorem erase_found {c t : Text} {pos : ℕ} (hpos : find c t = some pos) (rest : Text) :
    (pos + c.length < t.length ∧
      erase pos (c.length + 1) (t ++ '|' :: rest) = erase pos (c.length + 1) t ++ '|' :: rest) ∨
    (pos = t.length - c.length ∧ t = t.take pos ++ c ∧
      erase pos (c.length + 1) (t ++ '|' :: rest) = t.take pos ++ rest) := by
  obtain ⟨before, after, rfl, rfl⟩ := exists_of_find hpos
  cases after with
  | nil =>
      right
      refine ⟨by simp, by simp, ?_⟩
      rw [List.append_nil, erase_append_cons, List.take_left']
      simp
  | cons x after =>
      left
      refine ⟨by simp, ?_⟩
      apply erase_append_left
      simp only [List.length_append, List.length_cons]
      omega

/-- When the callsign is found as a whole, erasing its first occurrence removes it. -/
theorem erase_of_findsWhole {c : Text} (hc : IsCallsign c) {cs : List Text}
    (hcs : ∀ t ∈ cs, IsCallsign t) (hnodup : cs.Nodup) (hwhole : FindsWhole c cs) {pos : ℕ}
    (hpos : find c (terminate '|' cs) = some pos) :
    erase pos (c.length + 1) (terminate '|' cs) = terminate '|' (cs.filter (· ≠ c)) := by
  induction cs generalizing pos with
  | nil =>
      rw [terminate_nil, find, if_neg hc.1] at hpos
      cases hpos
  | cons t cs ih =>
      obtain ⟨ht, hnodup⟩ := List.nodup_cons.mp hnodup
      have hrest : ∀ u ∈ cs, IsCallsign u := fun u hu => hcs u (List.mem_cons_of_mem t hu)
      rw [terminate_cons] at hpos ⊢
      by_cases hin : c <:+: t
      · rw [FindsWhole, if_pos hin] at hwhole
        obtain ⟨pos', hpos'⟩ := Option.isSome_iff_exists.mp (find_isSome_iff.mpr hin)
        obtain rfl : pos' = pos := Option.some.inj ((find_append_left hpos').symm.trans hpos)
        have hlength : c.length ≤ t.length := hin.length_le
        rcases erase_found hpos' (terminate '|' cs) with ⟨hlt, _⟩ | ⟨_, htake, herase⟩
        · -- the occurrence is not at the end of `t`
          rcases hwhole with rfl | ⟨hend, _⟩
          · omega
          · have := Option.some.inj (hpos'.symm.trans hend)
            omega
        · rw [herase]
          rcases hwhole with rfl | ⟨_, hhead⟩
          · rw [find_self] at hpos'
            obtain rfl := Option.some.inj hpos'
            rw [List.filter_cons_of_neg (by simp), filter_ne_of_not_mem ht]
            rfl
          · obtain ⟨rest, rfl⟩ := List.head?_eq_some_iff.mp hhead
            have hne : t ≠ c := by
              rintro rfl
              exact ht List.mem_cons_self
            rw [List.filter_cons_of_pos (by simpa using hne), List.filter_cons_of_neg (by simp),
              filter_ne_of_not_mem (List.nodup_cons.mp hnodup).1, terminate_cons, terminate_cons,
              ← List.append_assoc, ← htake]
      · rw [FindsWhole, if_neg hin] at hwhole
        rw [find_append_right hc.2.1 hc.1 hin] at hpos
        obtain ⟨pos', hpos', rfl⟩ := Option.map_eq_some_iff.mp hpos
        have hne : t ≠ c := by
          rintro rfl
          exact hin List.infix_rfl
        have htext : t ++ '|' :: terminate '|' cs = (t ++ ['|']) ++ terminate '|' cs := by simp
        rw [List.filter_cons_of_pos (by simpa using hne), terminate_cons, htext,
          erase_append_right (n := pos') _ (by simp), ih hrest hnodup hwhole hpos']
        simp

/-- If the pieces after the erasure are those without `c`, then `c` was found as a whole. -/
theorem findsWhole_of_pieces {c : Text} (hc : IsCallsign c) {cs : List Text}
    (hcs : ∀ t ∈ cs, IsCallsign t) (hnodup : cs.Nodup) {pos : ℕ}
    (hpos : find c (terminate '|' cs) = some pos)
    (h : pieces (erase pos (c.length + 1) (terminate '|' cs)) = cs.filter (· ≠ c)) :
    FindsWhole c cs := by
  induction cs generalizing pos with
  | nil => trivial
  | cons t cs ih =>
      obtain ⟨ht, hnodup⟩ := List.nodup_cons.mp hnodup
      have hrest : ∀ u ∈ cs, IsCallsign u := fun u hu => hcs u (List.mem_cons_of_mem t hu)
      obtain ⟨htne, htsep, _⟩ := hcs t List.mem_cons_self
      rw [terminate_cons] at hpos h
      by_cases hin : c <:+: t
      · rw [FindsWhole, if_pos hin]
        by_cases hne : t = c
        · exact .inl hne
        · right
          rw [List.filter_cons_of_pos (by simpa using hne)] at h
          obtain ⟨pos', hpos'⟩ := Option.isSome_iff_exists.mp (find_isSome_iff.mpr hin)
          obtain rfl : pos' = pos := Option.some.inj ((find_append_left hpos').symm.trans hpos)
          rcases erase_found hpos' (terminate '|' cs) with ⟨hlt, herase⟩ | ⟨hend, htake, herase⟩
          · -- a part of `t` is left, or nothing; neither gives `t` back
            exfalso
            have hsep : '|' ∉ erase pos' (c.length + 1) t := by
              intro hmem
              rw [erase, List.mem_append] at hmem
              rcases hmem with hmem | hmem
              · exact htsep (List.mem_of_mem_take hmem)
              · exact htsep (List.mem_of_mem_drop hmem)
            have hlength : (erase pos' (c.length + 1) t).length < t.length := by
              rw [erase, List.length_append, List.length_take, List.length_drop]
              omega
            rw [herase, pieces_append_cons hsep, pieces_terminate hrest] at h
            split at h
            · apply ht
              rw [h]
              exact List.mem_cons_self
            · rw [(List.cons.inj h).1] at hlength
              exact absurd hlength (Nat.lt_irrefl _)
          · refine ⟨by rw [hpos', hend], ?_⟩
            rw [herase] at h
            have hbefore : '|' ∉ t.take pos' := fun hmem => htsep (List.mem_of_mem_take hmem)
            cases cs with
            | nil =>
                exfalso
                rw [terminate_nil, List.append_nil, pieces_of_not_mem hbefore] at h
                split at h
                · cases h
                · have hshort := (List.cons.inj h).1
                  rw [hshort] at htake
                  exact hc.1 (List.self_eq_append_right.mp htake)
            | cons u cs =>
                obtain ⟨hune, husep, _⟩ := hrest u List.mem_cons_self
                have hsep : '|' ∉ t.take pos' ++ u := by
                  rw [List.mem_append, not_or]
                  exact ⟨hbefore, husep⟩
                rw [terminate_cons, ← List.append_assoc, pieces_append_cons hsep,
                  if_neg (by simp [hune])] at h
                have hhead := (List.cons.inj h).1
                nth_rewrite 2 [htake] at hhead
                rw [List.append_cancel_left hhead]
                rfl
      · rw [FindsWhole, if_neg hin]
        rw [find_append_right hc.2.1 hc.1 hin] at hpos
        obtain ⟨pos', hpos', rfl⟩ := Option.map_eq_some_iff.mp hpos
        have hne : t ≠ c := by
          rintro rfl
          exact hin List.infix_rfl
        have htext : t ++ '|' :: terminate '|' cs = (t ++ ['|']) ++ terminate '|' cs := by simp
        rw [List.filter_cons_of_pos (by simpa using hne), htext,
          erase_append_right (n := pos') _ (by simp), List.append_assoc, List.singleton_append,
          pieces_append_cons htsep, if_neg htne] at h
        exact ih hrest hnodup hpos' (List.cons.inj h).2

end DeviceAndDisplay.SystemMode
