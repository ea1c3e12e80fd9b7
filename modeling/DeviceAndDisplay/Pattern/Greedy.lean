import DeviceAndDisplay.Pattern.Regex

/-! # The match that is found first

A search with captures wants the first match in the order in which the backtracking finds them.
`findFrom` follows that order through an expression, with the rest of the search as a
continuation. -/

namespace DeviceAndDisplay.Pattern

variable {α β : Type*} [DecidableEq α]

namespace Regex

/-- `regex_match`: the first match that ends with the text. -/
def fullMatch (regex : Regex α) (text : List α) : Option (Cursor α) :=
  (regex.run ⟨[], text, []⟩).find? fun next => next.rest = []

/-- The first result of `continue` behind a match. -/
def findFrom (regex : Regex α) (next : Cursor α → Option β) (cursor : Cursor α) : Option β :=
  (regex.run cursor).findSome? next

/-- `regex_search` with captures: the first match from the first position that has one. -/
def find (regex : Regex α) (text : List α) : Option (Cursor α) :=
  (List.range (text.length + 1)).findSome? fun n =>
    (regex.run (Cursor.advance n ⟨[], text, []⟩)).head?

end Regex

/-- Any number of characters, as many as possible. -/
abbrev Regex.star (accepts : α → Bool) : Regex α := .times 0 none (.one accepts)

/-- At least one character, as many as possible. -/
abbrev Regex.plus (accepts : α → Bool) : Regex α := .times 1 none (.one accepts)

/-- The character if there is one. -/
abbrev Regex.perhaps (accepts : α → Bool) : Regex α := .times 0 (some 1) (.one accepts)

/-- The characters one after the other. -/
def Regex.literal (text : List α) : Regex α :=
  Regex.sequence (text.map fun c => Regex.one (· == c))

section Equations

variable {next : Cursor α → Option β} {accepts : α → Bool} {before rest : List α} {c : α}
  {groups : List (ℕ × List α)}

theorem fullMatch_eq (regex : Regex α) (text : List α) :
    regex.fullMatch text =
      regex.findFrom (fun next => if next.rest = [] then some next else none)
        ⟨[], text, []⟩ := by
  unfold Regex.fullMatch Regex.findFrom
  induction regex.run ⟨[], text, []⟩ with
  | nil => rfl
  | cons cursor cursors ih =>
      by_cases h : cursor.rest = []
      · simp [h]
      · simp [h, ih]

omit [DecidableEq α] in
theorem findSome?_flatMap (f : Cursor α → List (Cursor α)) (cursors : List (Cursor α)) :
    (cursors.flatMap f).findSome? next =
      cursors.findSome? fun cursor => (f cursor).findSome? next := by
  induction cursors with
  | nil => rfl
  | cons cursor cursors ih =>
      rw [List.flatMap_cons, List.findSome?_append, ih, List.findSome?_cons]
      cases (f cursor).findSome? next <;> rfl

theorem map_findFrom {γ : Type*} (f : β → γ) (regex : Regex α) (cursor : Cursor α) :
    (regex.findFrom next cursor).map f =
      regex.findFrom (fun behind => (next behind).map f) cursor := by
  rw [Regex.findFrom, Regex.findFrom, List.map_findSome?]
  rfl

theorem findFrom_empty (cursor : Cursor α) : Regex.empty.findFrom next cursor = next cursor := by
  simp [Regex.findFrom, Regex.run]

theorem findFrom_seq (front back : Regex α) (cursor : Cursor α) :
    (Regex.seq front back).findFrom next cursor =
      front.findFrom (back.findFrom next) cursor := by
  rw [Regex.findFrom, Regex.run, findSome?_flatMap]
  rfl

theorem findFrom_first (cursor : Cursor α) :
    Regex.first.findFrom next cursor = if cursor.before = [] then next cursor else none := by
  by_cases h : cursor.before = [] <;> simp [Regex.findFrom, Regex.run, h]

theorem findFrom_last (cursor : Cursor α) :
    Regex.last.findFrom next cursor = if cursor.rest = [] then next cursor else none := by
  by_cases h : cursor.rest = [] <;> simp [Regex.findFrom, Regex.run, h]

theorem findFrom_one_nil : (Regex.one accepts).findFrom next ⟨before, [], groups⟩ = none := rfl

theorem findFrom_one_cons :
    (Regex.one accepts).findFrom next ⟨before, c :: rest, groups⟩ =
      if accepts c then next ⟨c :: before, rest, groups⟩ else none := by
  by_cases h : accepts c <;> simp [Regex.findFrom, Regex.run, h, Cursor.advance]

theorem findFrom_group (index : ℕ) (body : Regex α) (cursor : Cursor α) :
    (Regex.group index body).findFrom next cursor =
      body.findFrom (fun behind => next { behind with groups :=
        (index, cursor.rest.take (cursor.rest.length - behind.rest.length)) :: behind.groups })
        cursor := by
  simp only [Regex.findFrom, Regex.run, List.findSome?_map]
  rfl

/-! ### Repetitions of one character -/

/-- A repeated character takes no groups away. -/
theorem run_times_one (least : ℕ) (most : Option ℕ) (cursor : Cursor α) :
    (Regex.times least most (.one accepts)).run cursor =
      (Regex.required (Regex.one accepts).run least cursor).flatMap fun next =>
        match most with
        | none => Regex.optional (Regex.one accepts).run next.rest.length next
        | some most => Regex.optional (Regex.one accepts).run (most - least) next := by
  have hstep : (fun cursor : Cursor α => (Regex.one accepts).run { cursor with
      groups := cursor.groups.filter (·.1 ∉ (Regex.one accepts).indices) }) =
      (Regex.one accepts).run := by
    funext cursor
    simp [Regex.indices]
  cases most with
  | none => rw [Regex.run, hstep]
  | some most => rw [Regex.run, hstep]

theorem run_one_cons :
    (Regex.one accepts).run ⟨before, c :: rest, groups⟩ =
      if accepts c then [⟨c :: before, rest, groups⟩] else [] := by
  by_cases h : accepts c <;> simp [Regex.run, Cursor.advance, h]

theorem optional_one_cons (n : ℕ) :
    Regex.optional (Regex.one accepts).run (n + 1) ⟨before, c :: rest, groups⟩ =
      (if accepts c then
        Regex.optional (Regex.one accepts).run n ⟨c :: before, rest, groups⟩ else []) ++
        [⟨before, c :: rest, groups⟩] := by
  by_cases h : accepts c <;> simp [Regex.optional, run_one_cons, h]

theorem optional_one_nil (n : ℕ) :
    Regex.optional (Regex.one accepts).run n ⟨before, [], groups⟩ = [⟨before, [], groups⟩] := by
  cases n <;> simp [Regex.optional, Regex.run]

theorem findFrom_star_nil :
    (Regex.star accepts).findFrom next ⟨before, [], groups⟩ = next ⟨before, [], groups⟩ := by
  simp [Regex.findFrom, run_times_one, Regex.required, optional_one_nil]

theorem findFrom_star_cons :
    (Regex.star accepts).findFrom next ⟨before, c :: rest, groups⟩ =
      if accepts c then
        ((Regex.star accepts).findFrom next ⟨c :: before, rest, groups⟩).or
          (next ⟨before, c :: rest, groups⟩)
      else next ⟨before, c :: rest, groups⟩ := by
  by_cases h : accepts c <;>
    simp [Regex.findFrom, run_times_one, Regex.required, optional_one_cons, h]

theorem findFrom_plus_nil :
    (Regex.plus accepts).findFrom next ⟨before, [], groups⟩ = none := by
  rw [Regex.findFrom, run_times_one]
  simp [Regex.required, Regex.run]

theorem findFrom_plus_cons :
    (Regex.plus accepts).findFrom next ⟨before, c :: rest, groups⟩ =
      if accepts c then (Regex.star accepts).findFrom next ⟨c :: before, rest, groups⟩
      else none := by
  rw [Regex.findFrom, Regex.findFrom, run_times_one, run_times_one]
  by_cases h : accepts c <;> simp [Regex.required, run_one_cons, h]

theorem findFrom_perhaps_nil :
    (Regex.perhaps accepts).findFrom next ⟨before, [], groups⟩ = next ⟨before, [], groups⟩ := by
  simp [Regex.findFrom, run_times_one, Regex.required, optional_one_nil]

theorem findFrom_perhaps_cons :
    (Regex.perhaps accepts).findFrom next ⟨before, c :: rest, groups⟩ =
      if accepts c then
        (next ⟨c :: before, rest, groups⟩).or (next ⟨before, c :: rest, groups⟩)
      else next ⟨before, c :: rest, groups⟩ := by
  rw [Regex.findFrom, run_times_one, Regex.required, List.flatMap_singleton]
  change (Regex.optional (Regex.one accepts).run (0 + 1) _).findSome? next = _
  rw [optional_one_cons]
  by_cases h : accepts c
  · rw [if_pos h, if_pos h, List.findSome?_append]
    simp [Regex.optional]
  · simp [h]

/-! ### Literals -/

theorem findFrom_literal_append (text : List α) :
    (Regex.literal text).findFrom next ⟨before, text ++ rest, groups⟩ =
      next ⟨text.reverse ++ before, rest, groups⟩ := by
  induction text generalizing before with
  | nil => exact findFrom_empty _
  | cons d text ih =>
      have hseq : Regex.literal (d :: text) =
          Regex.seq (Regex.one (· == d)) (Regex.literal text) := rfl
      rw [hseq, findFrom_seq, List.cons_append, findFrom_one_cons, if_pos (by simp), ih]
      simp

theorem findFrom_literal_of_not_isPrefix {text : List α} (h : ¬ text <+: rest) :
    (Regex.literal text).findFrom next ⟨before, rest, groups⟩ = none := by
  induction text generalizing before rest with
  | nil => exact absurd List.nil_prefix h
  | cons d text ih =>
      have hseq : Regex.literal (d :: text) =
          Regex.seq (Regex.one (· == d)) (Regex.literal text) := rfl
      rw [hseq, findFrom_seq]
      cases rest with
      | nil => exact findFrom_one_nil
      | cons c rest =>
          rw [findFrom_one_cons]
          split
          · rename_i hc
            apply ih
            rw [beq_iff_eq.mp hc, List.cons_prefix_cons] at h
            exact fun hrest => h ⟨rfl, hrest⟩
          · rfl

/-! ### Searches -/

theorem findFrom_some (regex : Regex α) (cursor : Cursor α) :
    regex.findFrom some cursor = (regex.run cursor).head? := by
  unfold Regex.findFrom
  cases regex.run cursor <;> rfl

theorem findFrom_either (left right : Regex α) (cursor : Cursor α) :
    (Regex.either left right).findFrom next cursor =
      (left.findFrom next cursor).or (right.findFrom next cursor) := by
  rw [Regex.findFrom, Regex.run, List.findSome?_append]
  rfl

/-- What begins at the start of the text is searched for there only. -/
theorem find_first_seq (regex : Regex α) (text : List α) :
    (Regex.seq .first regex).find text = regex.findFrom some ⟨[], text, []⟩ := by
  have hstart : ((Regex.seq .first regex).run (Cursor.advance 0 ⟨[], text, []⟩)).head? =
      regex.findFrom some ⟨[], text, []⟩ := by
    rw [← findFrom_some, findFrom_seq, findFrom_first]
    exact if_pos rfl
  have hlater : ((List.range text.length).map Nat.succ).findSome? (fun n =>
      ((Regex.seq .first regex).run (Cursor.advance n ⟨[], text, []⟩)).head?) = none := by
    rw [List.findSome?_eq_none_iff]
    intro n hn
    obtain ⟨k, hk, rfl⟩ := List.mem_map.mp hn
    rw [← findFrom_some, findFrom_seq, findFrom_first]
    apply if_neg
    intro hnil
    have hlength := congrArg List.length hnil
    simp only [Cursor.advance, List.append_nil, List.length_reverse, List.length_take,
      List.length_nil] at hlength
    have hlt := List.mem_range.mp hk
    omega
  rw [Regex.find, List.range_succ_eq_map, List.findSome?_cons, hstart, hlater]
  cases regex.findFrom some ⟨[], text, []⟩ <;> rfl

/-- All the characters are taken that can be. -/
theorem findFrom_star_some :
    (Regex.star accepts).findFrom some ⟨before, rest, groups⟩ =
      some ⟨(rest.takeWhile accepts).reverse ++ before, rest.dropWhile accepts, groups⟩ := by
  induction rest generalizing before with
  | nil => exact findFrom_star_nil
  | cons c rest ih =>
      rw [findFrom_star_cons]
      by_cases hc : accepts c
      · rw [if_pos hc, ih]
        simp [hc]
      · rw [if_neg hc]
        simp [hc]

/-- An expression that may be left out is there if its first match takes a character. -/
theorem findFrom_perhaps_some (regex : Regex α) (cursor : Cursor α)
    (hgroups : cursor.groups.filter (·.1 ∉ regex.indices) = cursor.groups) :
    (Regex.times 0 (some 1) regex).findFrom some cursor =
      (((regex.run cursor).filter fun behind =>
        behind.rest.length < cursor.rest.length).head?).or (some cursor) := by
  have hsame : { cursor with groups := cursor.groups.filter (·.1 ∉ regex.indices) } = cursor := by
    rw [hgroups]
  rw [findFrom_some, Regex.run]
  simp only [Regex.required, List.flatMap_singleton, Nat.sub_zero, Regex.optional, hsame]
  rw [List.head?_append, List.flatMap_singleton']
  rfl

end Equations

end DeviceAndDisplay.Pattern
