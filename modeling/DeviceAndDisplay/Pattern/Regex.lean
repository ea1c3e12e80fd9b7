import Mathlib.Computability.Language

/-! # Regular expressions with groups

A match is searched for by backtracking. `Reads` says that an expression reads a language, whatever
the groups hold. -/

namespace DeviceAndDisplay.Pattern

variable {α : Type*}

/-- Where a match has come to: the text before, in reverse, the text after, and the text of each
group that has one. -/
structure Cursor (α : Type*) where
  before : List α
  rest : List α
  groups : List (ℕ × List α)

/-- Behind the next `n` characters. -/
def Cursor.advance (n : ℕ) (cursor : Cursor α) : Cursor α :=
  ⟨(cursor.rest.take n).reverse ++ cursor.before, cursor.rest.drop n, cursor.groups⟩

inductive Regex (α : Type*) where
  | empty
  | one (accepts : α → Bool)
  | first
  | last
  | boundary (isWord : α → Bool) (expected : Bool)
  | seq (front back : Regex α)
  | either (left right : Regex α)
  | group (index : ℕ) (body : Regex α)
  | reference (index : ℕ)
  | times (least : ℕ) (most : Option ℕ) (body : Regex α)

namespace Regex

/-- The groups in an expression. -/
def indices : Regex α → List ℕ
  | seq front back => front.indices ++ back.indices
  | either left right => left.indices ++ right.indices
  | group index body => index :: body.indices
  | times _ _ body => body.indices
  | _ => []

/-- `n` times. -/
def required (step : Cursor α → List (Cursor α)) : ℕ → Cursor α → List (Cursor α)
  | 0, cursor => [cursor]
  | n + 1, cursor => (step cursor).flatMap (required step n)

/-- At most `n` times, and never without a character. -/
def optional (step : Cursor α → List (Cursor α)) : ℕ → Cursor α → List (Cursor α)
  | 0, cursor => [cursor]
  | n + 1, cursor =>
      ((step cursor).filter fun next => next.rest.length < cursor.rest.length).flatMap
        (optional step n) ++ [cursor]

/-- Where the matches of an expression end. Each repetition starts without the groups of the
repeated expression; a reference to a group without a text reads nothing. -/
def run [DecidableEq α] : Regex α → Cursor α → List (Cursor α)
  | empty, cursor => [cursor]
  | one accepts, cursor =>
      match cursor.rest with
      | [] => []
      | c :: _ => if accepts c then [cursor.advance 1] else []
  | first, cursor => if cursor.before = [] then [cursor] else []
  | last, cursor => if cursor.rest = [] then [cursor] else []
  | boundary isWord expected, cursor =>
      if (cursor.before.head?.any isWord ^^ cursor.rest.head?.any isWord) = expected
      then [cursor] else []
  | seq front back, cursor => (front.run cursor).flatMap back.run
  | either left right, cursor => left.run cursor ++ right.run cursor
  | group index body, cursor =>
      (body.run cursor).map fun next =>
        { next with groups :=
            (index, cursor.rest.take (cursor.rest.length - next.rest.length)) :: next.groups }
  | reference index, cursor =>
      let text := (cursor.groups.lookup index).getD []
      if text <+: cursor.rest then [cursor.advance text.length] else []
  | times least most body, cursor =>
      let step := fun cursor : Cursor α =>
        body.run { cursor with groups := cursor.groups.filter (·.1 ∉ body.indices) }
      (required step least cursor).flatMap fun next =>
        match most with
        | none => optional step next.rest.length next
        | some most => optional step (most - least) next

/-- `regex_search`: some part of the text matches. -/
def search [DecidableEq α] (regex : Regex α) (text : List α) : Bool :=
  (List.range (text.length + 1)).any fun n => (regex.run (Cursor.advance n ⟨[], text, []⟩)) ≠ []

/-- One expression after the other. -/
def sequence (terms : List (Regex α)) : Regex α := terms.foldr seq empty

end Regex

/-! ### What an expression reads -/

/-- The second cursor is the first one behind the word. -/
def Cursor.Moves (cursor : Cursor α) (word : List α) (next : Cursor α) : Prop :=
  cursor.rest = word ++ next.rest ∧ next.before = word.reverse ++ cursor.before ∧
    next.groups = cursor.groups

theorem Cursor.moves_nil {cursor next : Cursor α} : cursor.Moves [] next ↔ next = cursor := by
  obtain ⟨before, rest, groups⟩ := cursor
  obtain ⟨before', rest', groups'⟩ := next
  simp only [Moves, List.nil_append, List.reverse_nil, Cursor.mk.injEq]
  tauto

theorem Cursor.Moves.trans {cursor middle next : Cursor α} {word word' : List α}
    (h : cursor.Moves word middle) (h' : middle.Moves word' next) :
    cursor.Moves (word ++ word') next := by
  obtain ⟨hrest, hbefore, hgroups⟩ := h
  obtain ⟨hrest', hbefore', hgroups'⟩ := h'
  refine ⟨?_, ?_, hgroups'.trans hgroups⟩
  · rw [hrest, hrest', List.append_assoc]
  · rw [hbefore', hbefore, List.reverse_append, List.append_assoc]

theorem Cursor.moves_append {cursor next : Cursor α} {word word' : List α} :
    cursor.Moves (word ++ word') next ↔
      ∃ middle, cursor.Moves word middle ∧ middle.Moves word' next := by
  constructor
  · rintro ⟨hrest, hbefore, hgroups⟩
    rw [List.append_assoc] at hrest
    rw [List.reverse_append, List.append_assoc] at hbefore
    exact ⟨⟨word.reverse ++ cursor.before, word' ++ next.rest, cursor.groups⟩,
      ⟨hrest, rfl, rfl⟩, rfl, hbefore, hgroups⟩
  · rintro ⟨middle, h, h'⟩
    exact h.trans h'

theorem Cursor.Moves.length {cursor next : Cursor α} {word : List α}
    (h : cursor.Moves word next) : cursor.rest.length = word.length + next.rest.length := by
  rw [h.1, List.length_append]

/-- The steps end behind the words of the language. -/
def StepReads (step : Cursor α → List (Cursor α)) (language : Language α) : Prop :=
  ∀ cursor next, next ∈ step cursor ↔ ∃ word ∈ language, cursor.Moves word next

/-- The matches of the expression are the words of the language. -/
def Reads [DecidableEq α] (regex : Regex α) (language : Language α) : Prop :=
  StepReads regex.run language

section Steps

variable {step : Cursor α → List (Cursor α)} {language : Language α}

theorem stepReads_required (h : StepReads step language) (n : ℕ) :
    StepReads (Regex.required step n) (language ^ n) := by
  induction n with
  | zero =>
      intro cursor next
      rw [pow_zero, Regex.required, List.mem_singleton]
      simp only [Language.mem_one, exists_eq_left]
      exact Cursor.moves_nil.symm
  | succ n ih =>
      intro cursor next
      rw [pow_succ', Regex.required, List.mem_flatMap]
      constructor
      · rintro ⟨middle, hmiddle, hnext⟩
        obtain ⟨word, hword, hmoves⟩ := (h cursor middle).mp hmiddle
        obtain ⟨word', hword', hmoves'⟩ := (ih middle next).mp hnext
        exact ⟨word ++ word', Language.append_mem_mul hword hword', hmoves.trans hmoves'⟩
      · rintro ⟨_, ⟨word, hword, word', hword', rfl⟩, hmoves⟩
        obtain ⟨middle, hfront, hback⟩ := Cursor.moves_append.mp hmoves
        exact ⟨middle, (h cursor middle).mpr ⟨word, hword, hfront⟩,
          (ih middle next).mpr ⟨word', hword', hback⟩⟩

theorem mem_optional (h : StepReads step language) (n : ℕ) (cursor next : Cursor α) :
    next ∈ Regex.optional step n cursor ↔
      ∃ words : List (List α), words.length ≤ n ∧ (∀ word ∈ words, word ∈ language ∧ word ≠ []) ∧
        cursor.Moves words.flatten next := by
  induction n generalizing cursor with
  | zero =>
      rw [Regex.optional, List.mem_singleton, ← Cursor.moves_nil]
      constructor
      · exact fun hmoves => ⟨[], Nat.le_refl 0, by simp, hmoves⟩
      · rintro ⟨words, hlength, _, hmoves⟩
        rw [Nat.le_zero, List.length_eq_zero_iff] at hlength
        simpa [hlength] using hmoves
  | succ n ih =>
      rw [Regex.optional, List.mem_append, List.mem_flatMap, List.mem_singleton]
      constructor
      · rintro (⟨middle, hmiddle, hnext⟩ | hself)
        · obtain ⟨hstep, hlength⟩ := List.mem_filter.mp hmiddle
          obtain ⟨word, hword, hmoves⟩ := (h cursor middle).mp hstep
          obtain ⟨words, hwords, hmem, hmoves'⟩ := (ih middle).mp hnext
          have hne : word ≠ [] := by
            rintro rfl
            rw [Cursor.moves_nil.mp hmoves] at hlength
            simp at hlength
          exact ⟨word :: words, Nat.succ_le_succ hwords,
            List.forall_mem_cons.mpr ⟨⟨hword, hne⟩, hmem⟩, hmoves.trans hmoves'⟩
        · exact ⟨[], Nat.zero_le _, by simp, Cursor.moves_nil.mpr hself⟩
      · rintro ⟨words, hlength, hmem, hmoves⟩
        cases words with
        | nil => exact .inr (Cursor.moves_nil.mp hmoves)
        | cons word words =>
            obtain ⟨⟨hword, hne⟩, hmem⟩ := List.forall_mem_cons.mp hmem
            obtain ⟨middle, hfront, hback⟩ := Cursor.moves_append.mp hmoves
            refine .inl ⟨middle,
              List.mem_filter.mpr ⟨(h cursor middle).mpr ⟨word, hword, hfront⟩, ?_⟩,
              (ih middle).mpr ⟨words, Nat.le_of_succ_le_succ hlength, hmem, hback⟩⟩
            have hpos := List.length_pos_iff.mpr hne
            have hrest := hfront.length
            exact decide_eq_true (by omega)

theorem length_le_flatten {words : List (List α)} (h : ∀ word ∈ words, word ≠ []) :
    words.length ≤ words.flatten.length := by
  induction words with
  | nil => simp
  | cons word words ih =>
      obtain ⟨hword, hwords⟩ := List.forall_mem_cons.mp h
      have hpos := List.length_pos_iff.mpr hword
      have hrest := ih hwords
      rw [List.flatten_cons, List.length_append, List.length_cons]
      omega

/-- As many times as there are characters left is as often as one likes. -/
theorem mem_optional_rest (h : StepReads step language) (cursor next : Cursor α) :
    next ∈ Regex.optional step cursor.rest.length cursor ↔
      ∃ word ∈ KStar.kstar language, cursor.Moves word next := by
  rw [mem_optional h]
  constructor
  · rintro ⟨words, _, hmem, hmoves⟩
    exact ⟨words.flatten, Language.join_mem_kstar fun word hword => (hmem word hword).1, hmoves⟩
  · rintro ⟨word, hword, hmoves⟩
    obtain ⟨words, rfl, hmem⟩ := Language.mem_kstar_iff_exists_nonempty.mp hword
    refine ⟨words, ?_, hmem, hmoves⟩
    have hlength := length_le_flatten fun word hword => (hmem word hword).2
    exact hlength.trans (hmoves.length ▸ Nat.le_add_right _ _)

end Steps

section Expressions

variable [DecidableEq α] {regex front back : Regex α} {language language' : Language α}

theorem reads_empty : Reads (α := α) .empty 1 := fun cursor next => by
  rw [Regex.run, List.mem_singleton]
  simp only [Language.mem_one, exists_eq_left]
  exact Cursor.moves_nil.symm

/-- The words of one character. -/
def oneOf (accepts : α → Prop) : Language α := {word | ∃ c, accepts c ∧ word = [c]}

theorem reads_one (accepts : α → Bool) :
    Reads (.one accepts) (oneOf fun c => accepts c = true) := by
  intro cursor next
  obtain ⟨before, rest, groups⟩ := cursor
  obtain ⟨before', rest', groups'⟩ := next
  rw [Regex.run]
  cases rest with
  | nil =>
      simp only [List.not_mem_nil, false_iff]
      rintro ⟨_, ⟨d, _, rfl⟩, hrest, _⟩
      cases hrest
  | cons c rest =>
      by_cases hc : accepts c
      · simp only [hc, if_true, List.mem_singleton, Cursor.advance, Cursor.mk.injEq]
        constructor
        · rintro ⟨rfl, rfl, rfl⟩
          exact ⟨[c], ⟨c, hc, rfl⟩, rfl, rfl, rfl⟩
        · rintro ⟨_, ⟨d, _, rfl⟩, hrest, hbefore, hgroups⟩
          obtain ⟨rfl, rfl⟩ := List.cons.inj hrest
          exact ⟨hbefore, rfl, hgroups⟩
      · simp only [hc, if_false, List.not_mem_nil, false_iff, Bool.false_eq_true]
        rintro ⟨_, ⟨d, hd, rfl⟩, hrest, _⟩
        exact hc ((List.cons.inj hrest).1 ▸ hd)

theorem reads_seq (hfront : Reads front language) (hback : Reads back language') :
    Reads (.seq front back) (language * language') := by
  intro cursor next
  rw [Regex.run, List.mem_flatMap]
  constructor
  · rintro ⟨middle, hmiddle, hnext⟩
    obtain ⟨word, hword, hmoves⟩ := (hfront cursor middle).mp hmiddle
    obtain ⟨word', hword', hmoves'⟩ := (hback middle next).mp hnext
    exact ⟨word ++ word', Language.append_mem_mul hword hword', hmoves.trans hmoves'⟩
  · rintro ⟨_, ⟨word, hword, word', hword', rfl⟩, hmoves⟩
    obtain ⟨middle, hmoves, hmoves'⟩ := Cursor.moves_append.mp hmoves
    exact ⟨middle, (hfront cursor middle).mpr ⟨word, hword, hmoves⟩,
      (hback middle next).mpr ⟨word', hword', hmoves'⟩⟩

/-- What a repetition does each time. -/
theorem stepReads_body (h : Reads regex language) (hindices : regex.indices = []) :
    StepReads (fun cursor => regex.run
      { cursor with groups := cursor.groups.filter (·.1 ∉ regex.indices) }) language := by
  intro cursor next
  have hcursor : { cursor with
      groups := cursor.groups.filter (·.1 ∉ regex.indices) } = cursor := by
    simp [hindices]
  simpa only [hcursor] using h cursor next

theorem reads_star (h : Reads regex language) (hindices : regex.indices = []) :
    Reads (.times 0 none regex) (KStar.kstar language) := by
  intro cursor next
  rw [Regex.run]
  simp only [Regex.required, List.flatMap_singleton]
  exact mem_optional_rest (stepReads_body h hindices) cursor next

theorem reads_times (h : Reads regex language) (hindices : regex.indices = []) (n : ℕ) :
    Reads (.times n (some n) regex) (language ^ n) := by
  intro cursor next
  rw [Regex.run]
  simp only [Nat.sub_self, Regex.optional, List.flatMap_singleton']
  exact stepReads_required (stepReads_body h hindices) n cursor next

/-- A text is found if a part of it is a word of the language. -/
theorem search_iff (h : Reads regex language) (text : List α) :
    regex.search text = true ↔ ∃ word ∈ language, word <:+: text := by
  rw [Regex.search, List.any_eq_true]
  constructor
  · rintro ⟨n, _, hn⟩
    obtain ⟨next, hnext⟩ := List.exists_mem_of_ne_nil _ (of_decide_eq_true hn)
    obtain ⟨word, hword, hrest, _⟩ := (h _ next).mp hnext
    refine ⟨word, hword, text.take n, next.rest, ?_⟩
    rw [List.append_assoc, ← hrest]
    exact List.take_append_drop n text
  · rintro ⟨word, hword, front, back, rfl⟩
    have hnext : ⟨word.reverse ++ front.reverse, back, []⟩ ∈
        regex.run (Cursor.advance front.length ⟨[], front ++ word ++ back, []⟩) := by
      refine (h _ _).mpr ⟨word, hword, ?_, ?_, rfl⟩
      · simp [Cursor.advance]
      · simp [Cursor.advance]
    have hle : front.length ≤ (front ++ word ++ back).length := by
      rw [List.append_assoc, List.length_append]
      exact Nat.le_add_right _ _
    exact ⟨front.length, List.mem_range.mpr (Nat.lt_succ_of_le hle),
      decide_eq_true (List.ne_nil_of_mem hnext)⟩

end Expressions

end DeviceAndDisplay.Pattern
