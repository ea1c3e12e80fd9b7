import DeviceAndDisplay.Model.Helpers.SearchFiles
import DeviceAndDisplay.Pattern.Glob
import DeviceAndDisplay.Storage.Text

/-! # Wildcard components as patterns

A component is rewritten into an expression that is searched for in the name, so that it does not
have to match the whole name, and all that means something in an expression keeps its meaning. -/

namespace DeviceAndDisplay.Helpers

open Pattern Storage

variable {traits : Traits} {component name word : Text} {c : Char}

/-! ### The expression of a component -/

/-- All that means something in an expression are wildcards and dots. -/
def Dotted (component : Text) : Prop :=
  ∀ c ∈ component, c = '*' ∨ c = '?' ∨ c = '.' ∨ c ∉ metacharacters

def notNewline : Char → Bool := fun c => !(decide (c = '\n') || false)

/-- What a character of a component becomes. -/
def piece (c : Char) : Text :=
  if c = '*' then ['[', '^', '\\', 'n', ']', '*']
  else if c = '?' then ['[', '^', '\\', 'n', ']', '{', '1', '}']
  else [c]

def pieceTokens (c : Char) : List Token :=
  if c = '*' then [.atom (.one notNewline), .quantifier 0 none]
  else if c = '?' then [.atom (.one notNewline), .quantifier 1 (some 1)]
  else if c = '.' then [.atom (.one fun d => !isLineTerminator d)]
  else [.atom (.one fun d => d = c)]

def pieceTerm (c : Char) : Regex Char :=
  if c = '*' then .times 0 none (.one notNewline)
  else if c = '?' then .times 1 (some 1) (.one notNewline)
  else if c = '.' then .one fun d => !isLineTerminator d
  else .one fun d => d = c

theorem replaceEach_append (c : Char) (text front back : Text) :
    replaceEach c text (front ++ back) = replaceEach c text front ++ replaceEach c text back := by
  induction front with
  | nil => rfl
  | cons d front ih =>
      rw [List.cons_append, replaceEach, replaceEach, ih]
      split
      · rw [List.append_assoc]
      · rfl

theorem patternOf_cons (c : Char) (component : Text) :
    patternOf (c :: component) = piece c ++ patternOf component := by
  unfold patternOf
  rw [replaceEach, piece]
  by_cases hstar : c = '*'
  · rw [if_pos hstar, if_pos hstar, replaceEach_append]
    rfl
  · rw [if_neg hstar, if_neg hstar, replaceEach]
    by_cases hquestion : c = '?'
    · rw [if_pos hquestion, if_pos hquestion]
    · rw [if_neg hquestion, if_neg hquestion]
      rfl

/-- A character that means nothing stands for itself. -/
theorem piece_literal (h : c ∉ metacharacters) :
    piece c = [c] ∧ pieceTokens c = [.atom (.one fun d => d = c)] ∧
      pieceTerm c = .one fun d => d = c := by
  have hstar : c ≠ '*' := fun heq => h (heq ▸ by decide)
  have hquestion : c ≠ '?' := fun heq => h (heq ▸ by decide)
  have hdot : c ≠ '.' := fun heq => h (heq ▸ by decide)
  simp [piece, pieceTokens, pieceTerm, hstar, hquestion, hdot]

theorem tokens_cons {token : Token} {text rest : Text}
    (h : nextToken traits text = some (token, rest)) (hne : text ≠ []) (n : ℕ) :
    tokens traits (n + 1) text = (tokens traits n rest).map (token :: ·) := by
  obtain ⟨c, tail, rfl⟩ := List.exists_cons_of_ne_nil hne
  simp only [tokens, h, Option.bind_eq_bind, Option.bind_some]
  cases tokens traits n rest <;> rfl

theorem nextToken_class (rest : Text) :
    nextToken traits ('[' :: '^' :: '\\' :: 'n' :: ']' :: rest) =
      some (.atom (.one notNewline), rest) :=
  rfl

theorem nextToken_once (rest : Text) :
    nextToken traits ('{' :: '1' :: '}' :: rest) = some (.quantifier 1 (some 1), rest) :=
  rfl

theorem nextToken_literal (h : c ∉ metacharacters) (rest : Text) :
    nextToken traits (c :: rest) = some (.atom (.one fun d => d = c), rest) := by
  have hne : ∀ d ∈ metacharacters, c ≠ d := fun d hd heq => h (heq ▸ hd)
  simp only [metacharacters, List.forall_mem_cons] at hne
  unfold nextToken
  split <;> simp_all [metacharacters]

/-- The tokens of the pattern, for any count that is at least its length. -/
theorem tokens_patternOf (h : Dotted component) {n : ℕ}
    (hn : (patternOf component).length ≤ n) :
    tokens traits n (patternOf component) = some (component.flatMap pieceTokens) := by
  induction component generalizing n with
  | nil => cases n <;> rfl
  | cons c component ih =>
      obtain ⟨hc, hcomponent⟩ := List.forall_mem_cons.mp h
      rw [patternOf_cons, List.length_append] at hn
      rw [patternOf_cons, List.flatMap_cons]
      rcases hc with rfl | rfl | rfl | hliteral
      · change 6 + _ ≤ n at hn
        obtain ⟨m, rfl⟩ : ∃ m, n = m + 2 := ⟨n - 2, by omega⟩
        change tokens traits (m + 1 + 1)
          ('[' :: '^' :: '\\' :: 'n' :: ']' :: '*' :: patternOf component) = _
        rw [tokens_cons (nextToken_class _) (by simp), tokens_cons rfl (by simp),
          ih hcomponent (by omega)]
        rfl
      · change 8 + _ ≤ n at hn
        obtain ⟨m, rfl⟩ : ∃ m, n = m + 2 := ⟨n - 2, by omega⟩
        change tokens traits (m + 1 + 1)
          ('[' :: '^' :: '\\' :: 'n' :: ']' :: '{' :: '1' :: '}' :: patternOf component) = _
        rw [tokens_cons (nextToken_class _) (by simp), tokens_cons (nextToken_once _) (by simp),
          ih hcomponent (by omega)]
        rfl
      · change 1 + _ ≤ n at hn
        obtain ⟨m, rfl⟩ : ∃ m, n = m + 1 := ⟨n - 1, by omega⟩
        change tokens traits (m + 1) ('.' :: patternOf component) = _
        rw [tokens_cons rfl (by simp), ih hcomponent (by omega)]
        rfl
      · obtain ⟨hpiece, htokens, -⟩ := piece_literal hliteral
        rw [hpiece, List.length_singleton] at hn
        obtain ⟨m, rfl⟩ : ∃ m, n = m + 1 := ⟨n - 1, by omega⟩
        rw [hpiece, htokens, List.singleton_append,
          tokens_cons (nextToken_literal hliteral _) (by simp), ih hcomponent (by omega)]
        rfl

theorem parse_atom {outer : List (ℕ × Level)} {level : Level} {count : ℕ} {regex : Regex Char}
    {rest : List Token} (h : ∀ least most rest', rest ≠ .quantifier least most :: rest') :
    parse outer level count (.atom regex :: rest) = parse outer (level.push regex) count rest := by
  cases rest with
  | nil => rfl
  | cons token rest =>
      cases token with
      | quantifier least most => exact absurd rfl (h least most rest)
      | _ => rfl

theorem not_quantifier (component : Text) (least : ℕ) (most : Option ℕ) (rest : List Token) :
    component.flatMap pieceTokens ≠ .quantifier least most :: rest := by
  cases component with
  | nil => simp
  | cons c component =>
      rw [List.flatMap_cons, pieceTokens]
      split_ifs <;> simp

theorem parse_pieces (h : Dotted component) (terms : List (Regex Char)) :
    parse [] { terms := terms } 0 (component.flatMap pieceTokens) =
      some (.sequence (terms ++ component.map pieceTerm), 0) := by
  induction component generalizing terms with
  | nil => simp [parse, Level.regex]
  | cons c component ih =>
      obtain ⟨hc, hcomponent⟩ := List.forall_mem_cons.mp h
      have hstep : parse [] { terms := terms } 0 ((c :: component).flatMap pieceTokens) =
          parse [] { terms := terms ++ [pieceTerm c] } 0 (component.flatMap pieceTokens) := by
        rw [List.flatMap_cons]
        rcases hc with rfl | rfl | rfl | hliteral
        · rfl
        · rfl
        · exact parse_atom (not_quantifier component)
        · obtain ⟨-, htokens, hterm⟩ := piece_literal hliteral
          rw [htokens, hterm]
          exact parse_atom (not_quantifier component)
      rw [hstep, ih hcomponent, List.map_cons, List.append_assoc, List.singleton_append]

theorem references_pieces (component : Text) :
    (Regex.sequence (component.map pieceTerm)).references = [] := by
  induction component with
  | nil => rfl
  | cons c component ih =>
      have hterm : (pieceTerm c).references = [] := by
        unfold pieceTerm
        split_ifs <;> rfl
      change (pieceTerm c).references ++ _ = []
      rw [hterm, List.nil_append]
      exact ih

theorem compile_patternOf (h : Dotted component) :
    compile traits (patternOf component) = some (.sequence (component.map pieceTerm)) := by
  rw [compile, tokens_patternOf h le_rfl]
  simp only [Option.bind_eq_bind, Option.bind_some]
  have hparse := parse_pieces h []
  rw [List.nil_append] at hparse
  change (parse [] { terms := [] } 0 _).bind _ = _
  rw [hparse, Option.bind_some]
  simp [references_pieces]

/-! ### What the expression reads -/

/-- What a character of a component stands for in the expression. -/
def read (c : Char) : Language Char :=
  if c = '.' then oneOf fun d => isLineTerminator d = false else symbol (· ≠ '\n') c

theorem reads_pieceTerm (h : c = '*' ∨ c = '?' ∨ c = '.' ∨ c ∉ metacharacters) :
    Reads (pieceTerm c) (read c) := by
  have hclass : Reads (.one notNewline) (oneOf fun d => d ≠ '\n') := by
    have hone := reads_one notNewline
    simpa [notNewline] using hone
  rcases h with rfl | rfl | rfl | hliteral
  · exact reads_star hclass rfl
  · have htimes := reads_times hclass rfl 1
    rw [pow_one] at htimes
    exact htimes
  · have hone := reads_one fun d => !isLineTerminator d
    simp only [Bool.not_eq_true'] at hone
    exact hone
  · have hstar : c ≠ '*' := fun heq => hliteral (heq ▸ by decide)
    have hquestion : c ≠ '?' := fun heq => hliteral (heq ▸ by decide)
    have hdot : c ≠ '.' := fun heq => hliteral (heq ▸ by decide)
    obtain ⟨-, -, hterm⟩ := piece_literal hliteral
    have hlanguage : read c = oneOf fun d => decide (d = c) = true := by
      rw [read, if_neg hdot, symbol, if_neg hstar, if_neg hquestion]
      ext word
      simp only [oneOf, decide_eq_true_eq]
      constructor
      · rintro rfl
        exact ⟨c, rfl, rfl⟩
      · rintro ⟨_, rfl, rfl⟩
        rfl
    rw [hterm, hlanguage]
    exact reads_one _

theorem reads_pieces (h : Dotted component) :
    Reads (.sequence (component.map pieceTerm)) (component.map read).prod := by
  induction component with
  | nil => exact reads_empty
  | cons c component ih =>
      obtain ⟨hc, hcomponent⟩ := List.forall_mem_cons.mp h
      simp only [List.map_cons, List.prod_cons]
      exact reads_seq (reads_pieceTerm hc) (ih hcomponent)

theorem accepts_iff (h : Dotted component) (traits : Traits) (name : Text) :
    accepts traits component name = some true ↔
      ∃ word ∈ (component.map read).prod, word <:+: name := by
  rw [accepts, compile_patternOf h, Option.map_some, Option.some_inj, search_iff (reads_pieces h)]

theorem prod_read (h : '.' ∉ component) :
    (component.map read).prod = glob (· ≠ '\n') component := by
  rw [glob]
  congr 1
  refine List.map_congr_left fun c hc => ?_
  have hdot : c ≠ '.' := fun heq => h (heq ▸ hc)
  rw [read, if_neg hdot]

/-! ### Names and components -/

/-- A component with a wildcard. -/
structure Component where
  text : Text
  wildcard : IsWildcard text
  no_slash : '/' ∉ text
  no_null : '\x00' ∉ text

def IsFileName (name : Text) : Prop :=
  name ≠ [] ∧ name ≠ ['.'] ∧ name ≠ ['.', '.'] ∧ '/' ∉ name ∧ '\x00' ∉ name

/-- The names that the component accepts are those that match it as a glob. -/
def Globs (traits : Traits) (component : Component) : Prop :=
  ∀ name, IsFileName name → (accepts traits component.text name = some true ↔
    name ∈ glob (fun _ => True) component.text)

/-- Stars at both ends, and between them text without a meaning in an expression. There may be
single line ends between the stars. -/
def Embedded (component : Text) : Prop :=
  Gap '\n' component ∨ ∃ front middle back, Gap '\n' front ∧ Gap '\n' back ∧
    (∀ c ∈ middle, c ∉ metacharacters) ∧ component = front ++ (middle ++ back)

/-! ### Embedded components -/

theorem gap_dotted (h : Gap '\n' component) : Dotted component ∧ '.' ∉ component := by
  induction h with
  | star => exact ⟨by simp [Dotted], by decide⟩
  | more _ ih =>
      exact ⟨List.forall_mem_cons.mpr ⟨.inl rfl, ih.1⟩, by simpa using ih.2⟩
  | single _ ih =>
      refine ⟨List.forall_mem_cons.mpr ⟨.inl rfl, List.forall_mem_cons.mpr ⟨?_, ih.1⟩⟩,
        by simpa using ih.2⟩
      exact .inr (.inr (.inr (by decide)))

theorem Embedded.dotted (h : Embedded component) : Dotted component ∧ '.' ∉ component := by
  obtain hgap | ⟨front, middle, back, hfront, hback, hmiddle, rfl⟩ := h
  · exact gap_dotted hgap
  · obtain ⟨hfront, hfront'⟩ := gap_dotted hfront
    obtain ⟨hback, hback'⟩ := gap_dotted hback
    refine ⟨List.forall_mem_append.mpr ⟨hfront, List.forall_mem_append.mpr ⟨?_, hback⟩⟩, ?_⟩
    · exact fun c hc => .inr (.inr (.inr (hmiddle c hc)))
    · simp only [List.mem_append, not_or]
      exact ⟨hfront', fun hdot => hmiddle '.' hdot (by decide), hback'⟩

theorem Embedded.ends (h : Embedded component) :
    (∃ rest, component = '*' :: rest) ∧ ∃ rest, component = rest ++ ['*'] := by
  obtain hgap | ⟨front, middle, back, hfront, hback, _, rfl⟩ := h
  · exact ⟨Gap.exists_cons hgap, Gap.exists_append hgap⟩
  · obtain ⟨rest, rfl⟩ := Gap.exists_cons hfront
    obtain ⟨rest', rfl⟩ := Gap.exists_append hback
    exact ⟨⟨_, rfl⟩, '*' :: rest ++ (middle ++ rest'), by simp⟩

theorem exists_prefix_count {k : ℕ} (h : k ≤ word.count c) :
    ∃ front back, front ++ back = word ∧ front.count c = k := by
  induction word generalizing k with
  | nil => exact ⟨[], [], rfl, (Nat.le_zero.mp h).symm⟩
  | cons d word ih =>
      by_cases hk : k = 0
      · exact ⟨[], d :: word, rfl, by simp [hk]⟩
      · by_cases hd : d = c
        · subst hd
          rw [List.count_cons_self] at h
          obtain ⟨front, back, rfl, hcount⟩ := ih (k := k - 1) (by omega)
          exact ⟨d :: front, back, rfl, by rw [List.count_cons_self, hcount]; omega⟩
        · rw [List.count_cons_of_ne hd] at h
          obtain ⟨front, back, rfl, hcount⟩ := ih h
          exact ⟨d :: front, back, rfl, by rw [List.count_cons_of_ne hd, hcount]⟩

theorem exists_suffix_count {k : ℕ} (h : k ≤ word.count c) :
    ∃ front back, front ++ back = word ∧ back.count c = k := by
  rw [← List.count_reverse] at h
  obtain ⟨front, back, heq, hcount⟩ := exists_prefix_count h
  refine ⟨back.reverse, front.reverse, ?_, by rwa [List.count_reverse]⟩
  rw [← List.reverse_append, heq, List.reverse_reverse]

/-- A name that matches has a part without more line ends than needed. -/
theorem Embedded.exists_inside (h : Embedded component)
    (hname : name ∈ glob (fun _ => True) component) :
    ∃ word ∈ glob (· ≠ '\n') component, word <:+: name := by
  obtain hgap | ⟨front, middle, back, hfront, hback, hmiddle, rfl⟩ := h
  · have hle := count_le_of_mem_glob (c := '\n') (by decide) (by decide) hname
    obtain ⟨before, word, rfl, hcount⟩ := exists_suffix_count hle
    exact ⟨word, hgap.mem_glob (by decide) (by decide) hcount, (List.suffix_append _ _).isInfix⟩
  · have hstar : '*' ∉ middle := fun hc => hmiddle '*' hc (by decide)
    have hquestion : '?' ∉ middle := fun hc => hmiddle '?' hc (by decide)
    rw [glob_append, glob_append] at hname
    obtain ⟨left, hleft, _, ⟨text, htext, right, hright, rfl⟩, rfl⟩ := hname
    obtain rfl := (mem_glob_literal hstar hquestion).mp htext
    have hle := count_le_of_mem_glob (c := '\n') (by decide) (by decide) hleft
    have hle' := count_le_of_mem_glob (c := '\n') (by decide) (by decide) hright
    obtain ⟨before, left, rfl, hcount⟩ := exists_suffix_count hle
    obtain ⟨right, after, rfl, hcount'⟩ := exists_prefix_count hle'
    refine ⟨left ++ (text ++ right), ?_, before, after, by simp⟩
    rw [glob_append, glob_append]
    exact Language.append_mem_mul (hfront.mem_glob (by decide) (by decide) hcount)
      (Language.append_mem_mul ((mem_glob_literal hstar hquestion).mpr rfl)
        (hback.mem_glob (by decide) (by decide) hcount'))

theorem Embedded.mem_glob (h : Embedded component) (hword : word ∈ glob (· ≠ '\n') component)
    (hinside : word <:+: name) : name ∈ glob (fun _ => True) component := by
  obtain ⟨before, after, rfl⟩ := hinside
  have hmem : word ∈ glob (fun _ => True) component := glob_mono (fun _ _ => trivial) hword
  obtain ⟨⟨rest, hstart⟩, rest', hend⟩ := h.ends
  rw [hstart] at hmem
  have hfront := append_mem_glob_of_star hmem before
  rw [← hstart, hend] at hfront
  exact hend ▸ mem_glob_append_of_star hfront after

theorem globs_of_embedded (component : Component) (h : Embedded component.text) :
    Globs traits component := by
  intro name _
  obtain ⟨hdotted, hdot⟩ := h.dotted
  rw [accepts_iff hdotted, prod_read hdot]
  exact ⟨fun ⟨_, hword, hinside⟩ => h.mem_glob hword hinside, h.exists_inside⟩

/-! ### Other components -/

/-- A name without a dot is neither `.` nor `..`. -/
theorem isFileName_of_no_dot (hne : name ≠ []) (hdot : '.' ∉ name) (hslash : '/' ∉ name)
    (hnull : '\x00' ∉ name) : IsFileName name := by
  refine ⟨hne, ?_, ?_, hslash, hnull⟩ <;> rintro rfl <;> simp at hdot

theorem isFileName_of_newline (hnewline : '\n' ∈ name) (hslash : '/' ∉ name)
    (hnull : '\x00' ∉ name) : IsFileName name := by
  refine ⟨List.ne_nil_of_mem hnewline, ?_, ?_, hslash, hnull⟩ <;> rintro rfl <;> simp at hnewline

theorem mem_fillOut {d : Char} (h : d ∈ fillOut c component) : d = c ∨ d ∈ component := by
  obtain ⟨x, hx, rfl⟩ := List.mem_map.mp h
  split
  · exact .inl rfl
  · exact .inr (List.mem_filter.mp hx).1

/-- The name that a component with dots accepts without matching it. -/
def withoutDots (component : Text) : Text :=
  (fillOut 'a' component).map fun c => if c = '.' then 'a' else c

theorem withoutDots_mem (h : Dotted component) :
    withoutDots component ∈ (component.map read).prod := by
  induction component with
  | nil => rfl
  | cons c component ih =>
      obtain ⟨hc, hcomponent⟩ := List.forall_mem_cons.mp h
      rw [List.map_cons, List.prod_cons]
      rcases hc with rfl | rfl | rfl | hliteral
      · exact mem_star_mul.mpr ⟨[], _, by simp, ih hcomponent, rfl⟩
      · exact mem_question_mul.mpr ⟨'a', _, by decide, ih hcomponent, rfl⟩
      · exact ⟨['a'], ⟨'a', by decide, rfl⟩, _, ih hcomponent, rfl⟩
      · have hne : c ≠ '*' ∧ c ≠ '?' ∧ c ≠ '.' := by
          refine ⟨?_, ?_, ?_⟩ <;> rintro rfl <;> exact hliteral (by decide)
        rw [read, if_neg hne.2.2]
        refine (mem_literal_mul hne.1 hne.2.1).mpr ⟨_, ih hcomponent, ?_⟩
        simp [withoutDots, fillOut, hne]

section Converse

variable {traits : Traits} {component : Component}

theorem no_dot_of_globs (hdotted : Dotted component.text) (h : Globs traits component) :
    '.' ∉ component.text := by
  intro hdot
  have hno : '.' ∉ withoutDots component.text := by
    intro hmem
    obtain ⟨c, _, hc⟩ := List.mem_map.mp hmem
    split at hc <;> simp_all
  have hsub : ∀ d ∈ withoutDots component.text, d = 'a' ∨ d ∈ component.text := by
    intro d hd
    obtain ⟨c, hc, rfl⟩ := List.mem_map.mp hd
    split
    · exact .inl rfl
    · exact mem_fillOut hc
  have hne : withoutDots component.text ≠ [] := by
    have hfill : '.' ∈ fillOut 'a' component.text :=
      List.mem_map.mpr ⟨'.', List.mem_filter.mpr ⟨hdot, by decide⟩, rfl⟩
    exact List.ne_nil_of_mem (List.mem_map_of_mem hfill)
  have hname : IsFileName (withoutDots component.text) := by
    refine isFileName_of_no_dot hne hno ?_ ?_
    · exact fun hslash => (hsub _ hslash).elim (by decide) component.no_slash
    · exact fun hnull => (hsub _ hnull).elim (by decide) component.no_null
  have haccepts := (accepts_iff hdotted traits _).mpr
    ⟨_, withoutDots_mem hdotted, List.infix_refl _⟩
  have hcount := count_le_of_mem_glob (c := '.') (by decide) (by decide) ((h _ hname).mp haccepts)
  rw [List.count_eq_zero.mpr hno] at hcount
  exact absurd (List.count_pos_iff.mpr hdot) (by omega)

/-- For a component without dots, a name that matches has a part that the expression reads. -/
theorem exists_of_globs (hdotted : Dotted component.text) (h : Globs traits component)
    (hname : IsFileName name) (hmem : name ∈ glob (fun _ => True) component.text) :
    ∃ word ∈ glob (· ≠ '\n') component.text, word <:+: name := by
  have hdot := no_dot_of_globs hdotted h
  rw [← prod_read hdot]
  exact (accepts_iff hdotted traits name).mp ((h name hname).mpr hmem)

theorem mem_of_globs (hdotted : Dotted component.text) (h : Globs traits component)
    (hname : IsFileName name) (hword : word ∈ glob (· ≠ '\n') component.text)
    (hinside : word <:+: name) : name ∈ glob (fun _ => True) component.text := by
  have hdot := no_dot_of_globs hdotted h
  rw [← prod_read hdot] at hword
  exact (h name hname).mp ((accepts_iff hdotted traits name).mpr ⟨word, hword, hinside⟩)

/-- A word that the expression reads has no line end if the component has none. -/
theorem no_newline (hnewline : '\n' ∉ component.text)
    (hword : word ∈ glob (· ≠ '\n') component.text) : '\n' ∉ word := by
  have hcount := count_eq_of_mem_glob (fun hne => hne rfl) (by decide) (by decide) hword
  rw [List.count_eq_zero.mpr hnewline] at hcount
  exact List.count_eq_zero.mp hcount

theorem no_question_of_globs (hdotted : Dotted component.text) (hnewline : '\n' ∉ component.text)
    (h : Globs traits component) : '?' ∉ component.text := by
  intro hquestion
  have hmem : '\n' ∈ fillOut '\n' component.text :=
    List.mem_map.mpr ⟨'?', List.mem_filter.mpr ⟨hquestion, by decide⟩, rfl⟩
  have hname : IsFileName (fillOut '\n' component.text) := by
    refine isFileName_of_newline hmem ?_ ?_
    · exact fun hslash => (mem_fillOut hslash).elim (by decide) component.no_slash
    · exact fun hnull => (mem_fillOut hnull).elim (by decide) component.no_null
  obtain ⟨word, hword, hinside⟩ := exists_of_globs hdotted h hname (fillOut_mem_glob trivial _)
  have heq := hinside.eq_of_length_le (length_fillOut_le '\n' hword)
  exact no_newline hnewline hword (heq ▸ hmem)

/-- The shortest word is read, and so must every name with it match. -/
theorem mem_of_fillOut (hdotted : Dotted component.text) (h : Globs traits component)
    (hname : IsFileName name) (hinside : fillOut 'a' component.text <:+: name) :
    name ∈ glob (fun _ => True) component.text :=
  mem_of_globs hdotted h hname (fillOut_mem_glob (by decide) _) hinside

/-- A letter that is not `c`. -/
def otherThan (c : Char) : Char := if c = 'a' then 'b' else 'a'

theorem otherThan_ne (c : Char) : otherThan c ≠ c := by
  unfold otherThan
  split
  · rename_i h
    exact h ▸ by decide
  · rename_i h
    exact Ne.symm h

theorem isFileName_extended (hdot : '.' ∉ component.text) (c : Char) (hne : name ≠ [])
    (hsub : ∀ d ∈ name, d = otherThan c ∨ d ∈ fillOut 'a' component.text) : IsFileName name := by
  have hletter : ∀ d, otherThan c = d → d = 'a' ∨ d = 'b' := by
    rintro _ rfl
    unfold otherThan
    split <;> simp
  have hno : ∀ d, d ∉ component.text → d ≠ 'a' → d ≠ 'b' → d ∉ name := by
    intro d hd ha hb hmem
    rcases hsub d hmem with heq | hfill
    · exact (hletter d heq.symm).elim ha hb
    · exact (mem_fillOut hfill).elim ha hd
  exact isFileName_of_no_dot hne (hno '.' hdot (by decide) (by decide))
    (hno '/' component.no_slash (by decide) (by decide))
    (hno '\x00' component.no_null (by decide) (by decide))

theorem head_of_globs (hdotted : Dotted component.text) (h : Globs traits component)
    {rest : Text} (hstart : component.text = c :: rest) (hquestion : c ≠ '?') : c = '*' := by
  by_contra hstar
  have hname : IsFileName (otherThan c :: fillOut 'a' component.text) :=
    isFileName_extended (no_dot_of_globs hdotted h) c (by simp) (by simp)
  have hmem := mem_of_fillOut hdotted h hname (List.suffix_cons _ _).isInfix
  rw [hstart, glob_cons, mem_literal_mul hstar hquestion] at hmem
  obtain ⟨_, _, heq⟩ := hmem
  exact otherThan_ne c (List.cons.inj heq).1.symm

theorem last_of_globs (hdotted : Dotted component.text) (h : Globs traits component)
    {rest : Text} (hend : component.text = rest ++ [c]) (hquestion : c ≠ '?') : c = '*' := by
  by_contra hstar
  have hname : IsFileName (fillOut 'a' component.text ++ [otherThan c]) := by
    refine isFileName_extended (no_dot_of_globs hdotted h) c (by simp) fun d hd => ?_
    simpa [or_comm] using hd
  have hmem := mem_of_fillOut hdotted h hname (List.prefix_append _ _).isInfix
  rw [hend, glob_append, Language.mem_mul] at hmem
  obtain ⟨front, _, back, hback, heq⟩ := hmem
  rw [glob_cons, mem_literal_mul hstar hquestion] at hback
  obtain ⟨_, rfl, rfl⟩ := hback
  have hlast := congrArg List.getLast? heq
  simp only [List.getLast?_concat, Option.some.injEq] at hlast
  exact otherThan_ne c hlast.symm

/-- No star stands between other characters. -/
theorem not_between (hdotted : Dotted component.text) (hnewline : '\n' ∉ component.text)
    (h : Globs traits component) {front back : Text}
    (hsplit : component.text = front ++ '*' :: back) :
    fillOut '\n' front = [] ∨ fillOut '\n' back = [] := by
  by_contra hboth
  obtain ⟨hfront, hback⟩ := not_or.mp hboth
  have hsub : ∀ d, d ≠ '\n' → d ∉ component.text →
      d ∉ fillOut '\n' front ++ '\n' :: fillOut '\n' back := by
    intro d hd hno hmem
    rw [hsplit, List.mem_append, List.mem_cons, not_or, not_or] at hno
    rcases List.mem_append.mp hmem with hmem | hmem
    · exact (mem_fillOut hmem).elim hd hno.1
    · rcases List.mem_cons.mp hmem with heq | hmem
      · exact hd heq
      · exact (mem_fillOut hmem).elim hd hno.2.2
  have hname : IsFileName (fillOut '\n' front ++ '\n' :: fillOut '\n' back) :=
    isFileName_of_newline (by simp) (hsub '/' (by decide) component.no_slash)
      (hsub '\x00' (by decide) component.no_null)
  have hmem : fillOut '\n' front ++ '\n' :: fillOut '\n' back ∈
      glob (fun _ => True) component.text := by
    rw [hsplit, glob_append]
    refine Language.append_mem_mul (fillOut_mem_glob trivial front) ?_
    rw [glob_cons]
    exact mem_star_mul.mpr ⟨['\n'], _, by simp, fillOut_mem_glob trivial back, rfl⟩
  obtain ⟨word, hword, hinside⟩ := exists_of_globs hdotted h hname hmem
  have hlength := length_fillOut_le '\n' hword
  have hfill : (fillOut '\n' component.text).length =
      (fillOut '\n' front).length + (fillOut '\n' back).length := by
    rw [hsplit, fillOut_append, List.length_append]
    simp [fillOut]
  have hpos := List.length_pos_iff.mpr hfront
  have hpos' := List.length_pos_iff.mpr hback
  have hne : word ≠ [] := List.length_pos_iff.mp (by omega)
  rcases (infix_append_cons_iff (no_newline hnewline hword) hne).mp hinside with hpart | hpart
  · have hle := hpart.length_le
    omega
  · have hle := hpart.length_le
    omega

theorem fillOut_eq_nil (c : Char) {text : Text} (h : fillOut c text = []) :
    ∀ d ∈ text, d = '*' := by
  simpa [fillOut] using h

/-- Stars, other characters, and the rest from the next star on. -/
theorem exists_parts (text : Text) :
    ∃ front middle back, text = front ++ (middle ++ back) ∧ (∀ d ∈ front, d = '*') ∧
      (∀ d ∈ middle, d ≠ '*') ∧ (back = [] ∨ middle ≠ [] ∧ ∃ rest, back = '*' :: rest) := by
  induction text with
  | nil => exact ⟨[], [], [], rfl, by simp, by simp, .inl rfl⟩
  | cons c text ih =>
      obtain ⟨front, middle, back, rfl, hfront, hmiddle, hback⟩ := ih
      by_cases hc : c = '*'
      · exact ⟨c :: front, middle, back, rfl, List.forall_mem_cons.mpr ⟨hc, hfront⟩, hmiddle, hback⟩
      · cases front with
        | nil =>
            refine ⟨[], c :: middle, back, rfl, by simp,
              List.forall_mem_cons.mpr ⟨hc, hmiddle⟩, hback.imp_right fun h => ?_⟩
            exact ⟨by simp, h.2⟩
        | cons d front =>
            obtain rfl : d = '*' := hfront d (by simp)
            exact ⟨[], [c], _, rfl, by simp, by simpa using hc, .inr ⟨by simp, _, rfl⟩⟩

theorem embedded_of_globs (hdotted : Dotted component.text) (hnewline : '\n' ∉ component.text)
    (h : Globs traits component) : Embedded component.text := by
  have hdot := no_dot_of_globs hdotted h
  have hquestion := no_question_of_globs hdotted hnewline h
  have hnone : ∀ c ∈ component.text, c ≠ '?' := fun c hc heq => hquestion (heq ▸ hc)
  obtain ⟨front, middle, back, hsplit, hfront, hmiddle, hback⟩ := exists_parts component.text
  have hgap : Gap '\n' front := by
    refine gap_of_stars (fun hempty => ?_) hfront
    rw [hempty, List.nil_append] at hsplit
    cases middle with
    | nil =>
        obtain rfl : back = [] := by simpa using hback
        have hwildcard := component.wildcard
        simp [IsWildcard, hsplit] at hwildcard
    | cons c middle =>
        have hc := head_of_globs hdotted h hsplit (hnone c (by simp [hsplit]))
        exact hmiddle c (by simp) hc
  have hplain : ∀ c ∈ middle, c ∉ metacharacters := by
    intro c hc
    have hmem : c ∈ component.text := by simp [hsplit, hc]
    rcases hdotted c hmem with heq | heq | heq | hliteral
    · exact absurd heq (hmiddle c hc)
    · exact absurd heq (hnone c hmem)
    · exact absurd (heq ▸ hmem) hdot
    · exact hliteral
  rcases hback with rfl | ⟨hne, rest, rfl⟩
  · rcases List.eq_nil_or_concat middle with rfl | ⟨init, c, rfl⟩
    · rw [List.append_nil, List.append_nil] at hsplit
      exact .inl (hsplit ▸ hgap)
    · have hend : component.text = (front ++ init) ++ [c] := by simp [hsplit]
      have hc := last_of_globs hdotted h hend (hnone c (by simp [hsplit]))
      exact absurd hc (hmiddle c (by simp))
  · have hstars : ∀ d ∈ rest, d = '*' := by
      rcases not_between hdotted hnewline h
        (hsplit.trans (List.append_assoc front middle _).symm) with hleft | hright
      · obtain ⟨c, tail, rfl⟩ := List.exists_cons_of_ne_nil hne
        have hc := fillOut_eq_nil '\n' hleft c (by simp)
        exact absurd hc (hmiddle c (by simp))
      · exact fillOut_eq_nil '\n' hright
    have hgap' : Gap '\n' ('*' :: rest) :=
      gap_of_stars (by simp) (List.forall_mem_cons.mpr ⟨rfl, hstars⟩)
    exact .inr ⟨front, middle, _, hgap, hgap', hplain, hsplit⟩

end Converse

/-- A component that is embedded in stars accepts the names that match it. Among those without a
line end, in which nothing but wildcards and dots has a meaning in an expression, no other one
does. -/
theorem globs_of_embedded_and_conversely (traits : Traits) (component : Component) :
    (Embedded component.text → Globs traits component) ∧
    (Dotted component.text ∧ '\n' ∉ component.text →
      (Globs traits component ↔ Embedded component.text)) :=
  ⟨globs_of_embedded component, fun ⟨hdotted, hnewline⟩ =>
    ⟨embedded_of_globs hdotted hnewline, globs_of_embedded component⟩⟩

/-- `*.ini` -/
def iniFiles : Component :=
  ⟨['*', '.', 'i', 'n', 'i'], by decide, by decide, by decide⟩

/-- In every locale `*.ini` accepts the name `mini`. -/
theorem name_without_dot_accepted : ¬ ∃ traits, Globs traits iniFiles := by
  rintro ⟨traits, h⟩
  have hname : IsFileName ['m', 'i', 'n', 'i'] := by
    unfold IsFileName
    decide
  have haccepts : accepts traits iniFiles.text ['m', 'i', 'n', 'i'] = some true := rfl
  have hcount := count_le_of_mem_glob (c := '.') (by decide) (by decide)
    ((h _ hname).mp haccepts)
  exact absurd hcount (by decide)

end DeviceAndDisplay.Helpers
