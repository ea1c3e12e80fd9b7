import DeviceAndDisplay.Pattern.Regex

/-! # Globs

A glob as a language. What `*` and `?` stand for is a parameter: any character, or only some. -/

namespace DeviceAndDisplay.Pattern

variable {any any' : Char → Prop} {c : Char} {middle word : List Char}

/-- What a character of a glob stands for. -/
def symbol (any : Char → Prop) (c : Char) : Language Char :=
  if c = '*' then KStar.kstar (oneOf any) else if c = '?' then oneOf any else {[c]}

def glob (any : Char → Prop) (pattern : List Char) : Language Char :=
  (pattern.map (symbol any)).prod

@[simp] theorem glob_nil (any : Char → Prop) : glob any [] = 1 := rfl

@[simp] theorem glob_cons (any : Char → Prop) (c : Char) (pattern : List Char) :
    glob any (c :: pattern) = symbol any c * glob any pattern := by
  simp [glob]

theorem glob_append (any : Char → Prop) (front back : List Char) :
    glob any (front ++ back) = glob any front * glob any back := by
  simp [glob]

/-! ### Symbols -/

theorem mem_kstar_oneOf : word ∈ KStar.kstar (oneOf any) ↔ ∀ c ∈ word, any c := by
  constructor
  · intro h
    obtain ⟨words, rfl, hwords⟩ := Language.mem_kstar.mp h
    intro c hc
    obtain ⟨part, hpart, hmem⟩ := List.mem_flatten.mp hc
    obtain ⟨d, hd, rfl⟩ := hwords part hpart
    exact List.mem_singleton.mp hmem ▸ hd
  · intro h
    refine Language.mem_kstar.mpr ⟨word.map fun c => [c], by simp [← List.flatMap_def], ?_⟩
    intro part hpart
    obtain ⟨c, hc, rfl⟩ := List.mem_map.mp hpart
    exact ⟨c, h c hc, rfl⟩

theorem mem_star_mul {language : Language Char} :
    word ∈ symbol any '*' * language ↔
      ∃ front back, (∀ c ∈ front, any c) ∧ back ∈ language ∧ front ++ back = word := by
  rw [symbol, if_pos rfl, Language.mem_mul]
  simp only [mem_kstar_oneOf]
  constructor
  · rintro ⟨front, hfront, back, hback, heq⟩
    exact ⟨front, back, hfront, hback, heq⟩
  · rintro ⟨front, back, hfront, hback, heq⟩
    exact ⟨front, hfront, back, hback, heq⟩

theorem mem_question_mul {language : Language Char} :
    word ∈ symbol any '?' * language ↔ ∃ c rest, any c ∧ rest ∈ language ∧ c :: rest = word := by
  rw [symbol, if_neg (by decide), if_pos rfl, Language.mem_mul]
  constructor
  · rintro ⟨_, ⟨c, hc, rfl⟩, rest, hrest, rfl⟩
    exact ⟨c, rest, hc, hrest, rfl⟩
  · rintro ⟨c, rest, hc, hrest, rfl⟩
    exact ⟨[c], ⟨c, hc, rfl⟩, rest, hrest, rfl⟩

theorem mem_literal_mul {language : Language Char} (hstar : c ≠ '*') (hquestion : c ≠ '?') :
    word ∈ symbol any c * language ↔ ∃ rest ∈ language, c :: rest = word := by
  rw [symbol, if_neg hstar, if_neg hquestion, Language.mem_mul]
  constructor
  · rintro ⟨_, rfl, rest, hrest, rfl⟩
    exact ⟨rest, hrest, rfl⟩
  · rintro ⟨rest, hrest, rfl⟩
    exact ⟨[c], rfl, rest, hrest, rfl⟩

/-- A case for each kind of symbol. -/
theorem glob_induction {motive : List Char → Prop} (nil : motive [])
    (star : ∀ pattern, motive pattern → motive ('*' :: pattern))
    (question : ∀ pattern, motive pattern → motive ('?' :: pattern))
    (literal : ∀ c pattern, c ≠ '*' → c ≠ '?' → motive pattern → motive (c :: pattern))
    (pattern : List Char) : motive pattern := by
  induction pattern with
  | nil => exact nil
  | cons c pattern ih =>
      by_cases hstar : c = '*'
      · exact hstar ▸ star pattern ih
      · by_cases hquestion : c = '?'
        · exact hquestion ▸ question pattern ih
        · exact literal c pattern hstar hquestion ih

/-! ### Words of a glob -/

theorem glob_mono (h : ∀ c, any c → any' c) {pattern : List Char}
    (hword : word ∈ glob any pattern) : word ∈ glob any' pattern := by
  induction pattern using glob_induction generalizing word with
  | nil => exact hword
  | star pattern ih =>
      rw [glob_cons, mem_star_mul] at hword ⊢
      obtain ⟨front, back, hfront, hback, rfl⟩ := hword
      exact ⟨front, back, fun c hc => h c (hfront c hc), ih hback, rfl⟩
  | question pattern ih =>
      rw [glob_cons, mem_question_mul] at hword ⊢
      obtain ⟨c, rest, hc, hrest, rfl⟩ := hword
      exact ⟨c, rest, h c hc, ih hrest, rfl⟩
  | literal c pattern hstar hquestion ih =>
      rw [glob_cons, mem_literal_mul hstar hquestion] at hword ⊢
      obtain ⟨rest, hrest, rfl⟩ := hword
      exact ⟨rest, ih hrest, rfl⟩

/-- The shortest word, with `c` for each `?`. -/
def fillOut (c : Char) (pattern : List Char) : List Char :=
  (pattern.filter (· ≠ '*')).map fun d => if d = '?' then c else d

theorem fillOut_append (c : Char) (front back : List Char) :
    fillOut c (front ++ back) = fillOut c front ++ fillOut c back := by
  simp [fillOut]

theorem fillOut_mem_glob (hc : any c) (pattern : List Char) :
    fillOut c pattern ∈ glob any pattern := by
  induction pattern using glob_induction with
  | nil => rfl
  | star pattern ih =>
      rw [glob_cons, mem_star_mul]
      exact ⟨[], fillOut c pattern, by simp, ih, by simp [fillOut]⟩
  | question pattern ih =>
      rw [glob_cons, mem_question_mul]
      exact ⟨c, fillOut c pattern, hc, ih, by simp [fillOut]⟩
  | literal d pattern hstar hquestion ih =>
      rw [glob_cons, mem_literal_mul hstar hquestion]
      exact ⟨fillOut c pattern, ih, by simp [fillOut, hstar, hquestion]⟩

theorem length_fillOut_le (c : Char) {pattern : List Char} (h : word ∈ glob any pattern) :
    (fillOut c pattern).length ≤ word.length := by
  induction pattern using glob_induction generalizing word with
  | nil => exact Nat.zero_le _
  | star pattern ih =>
      rw [glob_cons, mem_star_mul] at h
      obtain ⟨front, back, _, hback, rfl⟩ := h
      have hle := ih hback
      have hfill : fillOut c ('*' :: pattern) = fillOut c pattern := by simp [fillOut]
      rw [hfill, List.length_append]
      exact hle.trans (Nat.le_add_left _ _)
  | question pattern ih =>
      rw [glob_cons, mem_question_mul] at h
      obtain ⟨d, rest, _, hrest, rfl⟩ := h
      simpa [fillOut] using ih hrest
  | literal d pattern hstar hquestion ih =>
      rw [glob_cons, mem_literal_mul hstar hquestion] at h
      obtain ⟨rest, hrest, rfl⟩ := h
      simpa [fillOut, hstar, hquestion] using ih hrest

/-- Every word has the literal characters of the pattern. -/
theorem count_le_of_mem_glob (hstar : c ≠ '*') (hquestion : c ≠ '?') {pattern : List Char}
    (h : word ∈ glob any pattern) : pattern.count c ≤ word.count c := by
  induction pattern using glob_induction generalizing word with
  | nil => simp
  | star pattern ih =>
      rw [glob_cons, mem_star_mul] at h
      obtain ⟨front, back, _, hback, rfl⟩ := h
      have hle := ih hback
      rw [List.count_cons_of_ne hstar.symm, List.count_append]
      exact hle.trans (Nat.le_add_left _ _)
  | question pattern ih =>
      rw [glob_cons, mem_question_mul] at h
      obtain ⟨d, rest, _, hrest, rfl⟩ := h
      rw [List.count_cons_of_ne hquestion.symm]
      exact (ih hrest).trans List.count_le_count_cons
  | literal d pattern hstar' hquestion' ih =>
      rw [glob_cons, mem_literal_mul hstar' hquestion'] at h
      obtain ⟨rest, hrest, rfl⟩ := h
      rw [List.count_cons, List.count_cons]
      exact Nat.add_le_add_right (ih hrest) _

/-- If wildcards do not stand for a character, no word has more of it than the pattern. -/
theorem count_eq_of_mem_glob (hany : ¬ any c) (hstar : c ≠ '*') (hquestion : c ≠ '?')
    {pattern : List Char} (h : word ∈ glob any pattern) : word.count c = pattern.count c := by
  induction pattern using glob_induction generalizing word with
  | nil =>
      obtain rfl : word = [] := h
      rfl
  | star pattern ih =>
      rw [glob_cons, mem_star_mul] at h
      obtain ⟨front, back, hfront, hback, rfl⟩ := h
      have hnone : front.count c = 0 := List.count_eq_zero.mpr fun hc => hany (hfront c hc)
      rw [List.count_append, hnone, Nat.zero_add, ih hback, List.count_cons_of_ne hstar.symm]
  | question pattern ih =>
      rw [glob_cons, mem_question_mul] at h
      obtain ⟨d, rest, hd, hrest, rfl⟩ := h
      have hne : d ≠ c := fun heq => hany (heq ▸ hd)
      rw [List.count_cons_of_ne hne, List.count_cons_of_ne hquestion.symm, ih hrest]
  | literal d pattern hstar' hquestion' ih =>
      rw [glob_cons, mem_literal_mul hstar' hquestion'] at h
      obtain ⟨rest, hrest, rfl⟩ := h
      rw [List.count_cons, List.count_cons, ih hrest]

/-- A glob without wildcards has one word. -/
theorem mem_glob_literal (hstar : '*' ∉ middle) (hquestion : '?' ∉ middle) :
    word ∈ glob any middle ↔ word = middle := by
  induction middle generalizing word with
  | nil => rfl
  | cons c middle ih =>
      simp only [List.mem_cons, not_or] at hstar hquestion
      obtain ⟨hc, hmiddle⟩ := hstar
      obtain ⟨hc', hmiddle'⟩ := hquestion
      rw [glob_cons, mem_literal_mul (Ne.symm hc) (Ne.symm hc')]
      constructor
      · rintro ⟨rest, hrest, rfl⟩
        rw [(ih hmiddle hmiddle').mp hrest]
      · rintro rfl
        exact ⟨middle, (ih hmiddle hmiddle').mpr rfl, rfl⟩

/-! ### Stars at the ends -/

theorem append_mem_glob_of_star {pattern : List Char}
    (h : word ∈ glob (fun _ => True) ('*' :: pattern)) (front : List Char) :
    front ++ word ∈ glob (fun _ => True) ('*' :: pattern) := by
  rw [glob_cons, mem_star_mul] at h ⊢
  obtain ⟨front', back, _, hback, rfl⟩ := h
  exact ⟨front ++ front', back, by simp, hback, by simp⟩

theorem mem_glob_append_of_star {pattern : List Char}
    (h : word ∈ glob (fun _ => True) (pattern ++ ['*'])) (back : List Char) :
    word ++ back ∈ glob (fun _ => True) (pattern ++ ['*']) := by
  rw [glob_append, Language.mem_mul] at h ⊢
  obtain ⟨front, hfront, rest, _, rfl⟩ := h
  refine ⟨front, hfront, rest ++ back, ?_, by simp⟩
  rw [glob_cons, glob_nil, mem_star_mul]
  exact ⟨rest ++ back, [], by simp, rfl, by simp⟩

/-- Stars, with single characters `c` between them. -/
inductive Gap (c : Char) : List Char → Prop
  | star : Gap c ['*']
  | more {gap : List Char} (hgap : Gap c gap) : Gap c ('*' :: gap)
  | single {gap : List Char} (hgap : Gap c gap) : Gap c ('*' :: c :: gap)

theorem Gap.exists_cons (h : Gap c middle) : ∃ gap, middle = '*' :: gap := by
  cases h <;> exact ⟨_, rfl⟩

theorem Gap.exists_append (h : Gap c middle) : ∃ gap, middle = gap ++ ['*'] := by
  induction h with
  | star => exact ⟨[], rfl⟩
  | more _ ih =>
      obtain ⟨gap, rfl⟩ := ih
      exact ⟨'*' :: gap, rfl⟩
  | single _ ih =>
      obtain ⟨gap, rfl⟩ := ih
      exact ⟨'*' :: c :: gap, rfl⟩

theorem gap_of_stars (hne : middle ≠ []) (h : ∀ d ∈ middle, d = '*') : Gap c middle := by
  induction middle with
  | nil => exact absurd rfl hne
  | cons d middle ih =>
      obtain ⟨rfl, hmiddle⟩ := List.forall_mem_cons.mp h
      by_cases hempty : middle = []
      · exact hempty ▸ .star
      · exact .more (ih hempty hmiddle)

/-- If a wildcard stands for all characters but `c`, a text with as many `c` is a word. -/
theorem Gap.mem_glob (h : Gap c middle) (hstar : c ≠ '*') (hquestion : c ≠ '?')
    (hcount : word.count c = middle.count c) : word ∈ glob (· ≠ c) middle := by
  induction h generalizing word with
  | star =>
      rw [glob_cons, glob_nil, mem_star_mul]
      refine ⟨word, [], fun d hd heq => ?_, rfl, by simp⟩
      rw [List.count_cons_of_ne hstar.symm, List.count_nil, List.count_eq_zero] at hcount
      exact hcount (heq ▸ hd)
  | more _ ih =>
      rw [glob_cons, mem_star_mul]
      rw [List.count_cons_of_ne hstar.symm] at hcount
      exact ⟨[], word, by simp, ih hcount, rfl⟩
  | @single gap _ ih =>
      rw [List.count_cons_of_ne hstar.symm, List.count_cons_self] at hcount
      have hmem : c ∈ word := List.count_pos_iff.mp (by omega)
      obtain ⟨front, back, rfl, hfront⟩ := List.eq_append_cons_of_mem hmem
      have hnone : front.count c = 0 := List.count_eq_zero.mpr hfront
      rw [List.count_append, List.count_cons_self, hnone] at hcount
      rw [glob_cons, mem_star_mul]
      refine ⟨front, c :: back, fun d hd heq => hfront (heq ▸ hd), ?_, rfl⟩
      rw [glob_cons, mem_literal_mul hstar hquestion]
      exact ⟨back, ih (by omega), rfl⟩

end DeviceAndDisplay.Pattern
