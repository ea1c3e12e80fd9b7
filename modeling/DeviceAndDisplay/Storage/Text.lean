import Mathlib.Data.List.DropRight
import Mathlib.Data.List.Infix
import Mathlib.Data.Nat.Notation

/-! Text of a file: lines, the first occurrence of a pattern, and the erasure of a range. -/

namespace DeviceAndDisplay.Storage

instance decidableMemTexts (text : List Char) (texts : List (List Char)) :
    Decidable (text ∈ texts) :=
  inferInstance

variable {α : Type*}

/-! ### Parts that end with a separator -/

/-- Each part followed by the separator. -/
def terminate (sep : α) (parts : List (List α)) : List α :=
  parts.flatMap fun part => part ++ [sep]

@[simp] theorem terminate_nil (sep : α) : terminate sep [] = [] := rfl

@[simp] theorem terminate_cons (sep : α) (part : List α) (parts : List (List α)) :
    terminate sep (part :: parts) = part ++ sep :: terminate sep parts := by
  simp [terminate]

theorem terminate_append (sep : α) (parts parts' : List (List α)) :
    terminate sep (parts ++ parts') = terminate sep parts ++ terminate sep parts' :=
  List.flatMap_append

theorem terminate_append_singleton (sep : α) (parts : List (List α)) (part : List α) :
    terminate sep (parts ++ [part]) = terminate sep parts ++ (part ++ [sep]) := by
  rw [terminate_append, terminate_cons, terminate_nil]

theorem mem_terminate {sep x : α} {parts : List (List α)} :
    x ∈ terminate sep parts → x = sep ∨ ∃ part ∈ parts, x ∈ part := by
  intro h
  obtain ⟨part, hpart, hx⟩ := List.mem_flatMap.mp h
  rcases List.mem_append.mp hx with hx | hx
  · exact .inr ⟨part, hpart, hx⟩
  · exact .inl (List.mem_singleton.mp hx)

/-- A pattern without the separator lies on one side of it. -/
theorem prefix_append_cons {sep : α} {pattern : List α} (hsep : sep ∉ pattern) {front back : List α}
    (h : pattern <+: front ++ sep :: back) : pattern <+: front := by
  induction front generalizing pattern with
  | nil =>
      cases pattern with
      | nil => exact List.nil_prefix
      | cons y pattern =>
          rw [List.nil_append, List.cons_prefix_cons] at h
          rw [h.1] at hsep
          exact absurd List.mem_cons_self hsep
  | cons x front ih =>
      cases pattern with
      | nil => exact List.nil_prefix
      | cons y pattern =>
          rw [List.cons_append, List.cons_prefix_cons] at h
          rw [List.cons_prefix_cons]
          exact ⟨h.1, ih (fun hmem => hsep (List.mem_cons_of_mem y hmem)) h.2⟩

theorem prefix_of_cons {sep : α} {pattern : List α} (hsep : sep ∉ pattern) {back : List α}
    (h : pattern <+: sep :: back) : pattern <+: [] :=
  have hnil : pattern <+: [] ++ sep :: back := h
  prefix_append_cons hsep hnil

/-! ### Parts between separators -/

theorem infix_intercalate {sep part : List α} {parts : List (List α)} (h : part ∈ parts) :
    part <:+: sep.intercalate parts := by
  induction parts with
  | nil => cases h
  | cons first parts ih =>
      by_cases hnil : parts = []
      · rw [hnil, List.mem_singleton] at h
        rw [hnil, List.intercalate_singleton, h]
      · rw [List.intercalate_cons_of_ne_nil hnil]
        rcases List.mem_cons.mp h with rfl | h
        · rw [List.append_assoc]
          exact (List.prefix_append part _).isInfix
        · exact (ih h).trans (List.suffix_append _ _).isInfix

/-! ### Erasure -/

/-- The text without the `count` characters from `pos` on, as far as there are so many. -/
def erase (pos count : ℕ) (text : List α) : List α :=
  text.take pos ++ text.drop (pos + count)

theorem erase_append_right {front : List α} {pos count n : ℕ} (back : List α)
    (h : pos = n + front.length) :
    erase pos count (front ++ back) = front ++ erase n count back := by
  have hdrop : n + front.length + count = front.length + (n + count) := by omega
  rw [erase, erase, h, Nat.add_comm n, List.take_length_add_append, Nat.add_comm front.length n,
    hdrop, List.drop_length_add_append, List.append_assoc]

theorem erase_append_left {front back : List α} {pos count : ℕ} (h : pos + count ≤ front.length) :
    erase pos count (front ++ back) = erase pos count front ++ back := by
  rw [erase, erase, List.take_append_of_le_length (by omega), List.drop_append_of_le_length h,
    List.append_assoc]

/-- A pattern and the element that follows it. -/
theorem erase_append_cons (front pattern : List α) (x : α) (back : List α) :
    erase front.length (pattern.length + 1) (front ++ pattern ++ x :: back) = front ++ back := by
  have hdrop : front.length + (pattern.length + 1) = (front ++ pattern ++ [x]).length := by
    simp
  have htext : front ++ pattern ++ x :: back = (front ++ pattern ++ [x]) ++ back := by simp
  rw [erase, htext, hdrop, List.drop_left]
  simp

/-! ### Trimming -/

/-- The text without the elements with the property at its ends. -/
def trimBy (p : α → Bool) (text : List α) : List α := (text.dropWhile p).rdropWhile p

theorem trimBy_append_singleton {p : α → Bool} {x : α} (text : List α) :
    trimBy p (text ++ [x]) = if p x then trimBy p text else text.dropWhile p ++ [x] := by
  unfold trimBy
  rw [List.dropWhile_append]
  cases htext : text.dropWhile p with
  | nil => cases hx : p x <;> simp [hx]
  | cons y rest =>
      rw [List.isEmpty_cons, if_neg Bool.false_ne_true]
      split
      · rename_i hx
        rw [List.rdropWhile_concat_pos p _ x hx]
      · rename_i hx
        rw [List.rdropWhile_concat_neg p _ x hx]

theorem length_trimBy_le (p : α → Bool) (text : List α) :
    (trimBy p text).length ≤ (text.dropWhile p).length :=
  (List.rdropWhile_prefix p _).length_le

/-- Only what is trimmed off anyway can be cut off before. -/
theorem trimBy_append_eq_iff (p : α → Bool) (front back : List α) :
    trimBy p (front ++ back) = trimBy p front ↔ ∀ x ∈ back, p x = true := by
  induction back using List.reverseRecOn with
  | nil => simp
  | append_singleton back x ih =>
      rw [← List.append_assoc, trimBy_append_singleton]
      split
      · rename_i hx
        rw [ih]
        simp [or_imp, forall_and, hx]
      · rename_i hx
        refine iff_of_false (fun heq => ?_) fun hall => hx (hall x (by simp))
        have hlength := congrArg List.length heq
        have hle := length_trimBy_le p front
        have hfront : (front.dropWhile p).length ≤ ((front ++ back).dropWhile p).length := by
          rw [List.dropWhile_append]
          split
          · rename_i hempty
            rw [List.isEmpty_iff.mp hempty]
            exact Nat.zero_le _
          · rw [List.length_append]
            omega
        rw [List.length_append, List.length_singleton] at hlength
        omega

/-! ### Reading parts -/

variable [DecidableEq α]

/-- The parts of a text whose separators end a part; what follows the last one is a part too,
unless it is empty. -/
def readParts (sep : α) : List α → List (List α)
  | [] => []
  | x :: rest =>
      if x = sep then
        [] :: readParts sep rest
      else
        match readParts sep rest with
        | [] => [[x]]
        | part :: parts => (x :: part) :: parts

theorem readParts_append_cons {sep : α} {part : List α} (h : sep ∉ part) (rest : List α) :
    readParts sep (part ++ sep :: rest) = part :: readParts sep rest := by
  induction part with
  | nil => simp [readParts]
  | cons x part ih =>
      rw [List.mem_cons, not_or] at h
      obtain ⟨hx, hpart⟩ := h
      simp [readParts, Ne.symm hx, ih hpart]

theorem readParts_ne_nil {sep : α} {text : List α} (h : text ≠ []) : readParts sep text ≠ [] := by
  cases text with
  | nil => exact absurd rfl h
  | cons x rest =>
      unfold readParts
      split
      · simp
      · split <;> simp

/-- The parts before and after a separator. -/
theorem readParts_append_separator (sep : α) (front back : List α) :
    readParts sep (front ++ sep :: back) =
      readParts sep (front ++ [sep]) ++ readParts sep back := by
  induction front with
  | nil => simp [readParts]
  | cons x front ih =>
      by_cases hx : x = sep
      · simp [readParts, hx, ih]
      · cases hparts : readParts sep (front ++ [sep]) with
        | nil => exact absurd hparts (readParts_ne_nil (by simp))
        | cons part parts =>
            rw [List.cons_append, List.cons_append, readParts, readParts, if_neg hx, if_neg hx, ih,
              hparts]
            rfl

theorem readParts_terminate_append {sep : α} {parts : List (List α)}
    (h : ∀ part ∈ parts, sep ∉ part) (rest : List α) :
    readParts sep (terminate sep parts ++ rest) = parts ++ readParts sep rest := by
  induction parts with
  | nil => rfl
  | cons part parts ih =>
      rw [terminate_cons, List.append_assoc, List.cons_append,
        readParts_append_cons (h part List.mem_cons_self),
        ih fun part' hpart' => h part' (List.mem_cons_of_mem part hpart')]
      rfl

theorem readParts_terminate {sep : α} {parts : List (List α)} (h : ∀ part ∈ parts, sep ∉ part) :
    readParts sep (terminate sep parts) = parts := by
  have hparts := readParts_terminate_append h []
  rw [List.append_nil] at hparts
  rw [hparts, readParts, List.append_nil]

/-- Apart from empty parts, a text is split as it is read. -/
theorem exists_splitOnP_readParts {sep : α} {p : α → Bool} {text : List α} (hne : text ≠ [])
    (hp : ∀ x ∈ text, p x = true ↔ x = sep) :
    ∃ part rest parts, text.splitOnP p = part :: rest ∧ readParts sep text = part :: parts ∧
      rest.filter (· ≠ []) = parts.filter (· ≠ []) := by
  induction text with
  | nil => exact absurd rfl hne
  | cons x text ih =>
      obtain ⟨hx, htext⟩ := List.forall_mem_cons.mp hp
      rw [List.splitOnP_cons_eq_if_modifyHead, readParts]
      by_cases hempty : text = []
      · subst hempty
        by_cases hsep : x = sep
        · rw [if_pos (hx.mpr hsep), if_pos hsep]
          exact ⟨[], [[]], [], rfl, rfl, rfl⟩
        · rw [if_neg fun h => hsep (hx.mp h), if_neg hsep]
          exact ⟨[x], [], [], rfl, rfl, rfl⟩
      · obtain ⟨part, rest, parts, hsplit, hread, hrest⟩ := ih hempty htext
        by_cases hsep : x = sep
        · rw [if_pos (hx.mpr hsep), if_pos hsep, hsplit, hread]
          refine ⟨[], part :: rest, part :: parts, rfl, rfl, ?_⟩
          rw [List.filter_cons, List.filter_cons, hrest]
        · rw [if_neg fun h => hsep (hx.mp h), if_neg hsep, hsplit, hread]
          exact ⟨x :: part, rest, parts, rfl, rfl, hrest⟩

theorem filter_splitOnP {sep : α} {p : α → Bool} {text : List α}
    (hp : ∀ x ∈ text, p x = true ↔ x = sep) :
    (text.splitOnP p).filter (· ≠ []) = (readParts sep text).filter (· ≠ []) := by
  by_cases hempty : text = []
  · rw [hempty]
    rfl
  · obtain ⟨part, rest, parts, hsplit, hread, hrest⟩ := exists_splitOnP_readParts hempty hp
    rw [hsplit, hread, List.filter_cons, List.filter_cons, hrest]

theorem not_mem_of_mem_readParts {sep : α} {text part : List α} (h : part ∈ readParts sep text) :
    sep ∉ part := by
  induction text generalizing part with
  | nil => cases h
  | cons x rest ih =>
      unfold readParts at h
      split at h
      · rcases List.mem_cons.mp h with rfl | h
        · exact List.not_mem_nil
        · exact ih h
      · rename_i hx
        split at h
        · rw [List.mem_singleton.mp h, List.mem_singleton]
          exact Ne.symm hx
        · rename_i first parts hrest
          rcases List.mem_cons.mp h with rfl | h
          · rw [List.mem_cons, not_or]
            refine ⟨Ne.symm hx, ih ?_⟩
            rw [hrest]
            exact List.mem_cons_self
          · apply ih
            rw [hrest]
            exact List.mem_cons_of_mem first h

theorem readParts_of_not_mem {sep : α} {text : List α} (h : sep ∉ text) (hne : text ≠ []) :
    readParts sep text = [text] := by
  induction text with
  | nil => exact absurd rfl hne
  | cons x rest ih =>
      rw [List.mem_cons, not_or] at h
      obtain ⟨hx, hrest⟩ := h
      rw [readParts, if_neg (Ne.symm hx)]
      by_cases hempty : rest = []
      · rw [hempty]
        rfl
      · rw [ih hrest hempty]

theorem length_le_of_mem_readParts {sep : α} {text part : List α}
    (h : part ∈ readParts sep text) : part.length ≤ text.length := by
  induction text generalizing part with
  | nil => cases h
  | cons x rest ih =>
      unfold readParts at h
      split at h
      · rcases List.mem_cons.mp h with rfl | h
        · exact Nat.zero_le _
        · exact (ih h).trans (Nat.le_succ _)
      · split at h
        · rw [List.mem_singleton.mp h, List.length_singleton]
          exact Nat.succ_pos _
        · rename_i first parts hrest
          rcases List.mem_cons.mp h with rfl | h
          · have hfirst := ih (by rw [hrest]; exact List.mem_cons_self)
            exact Nat.succ_le_succ hfirst
          · have hpart := ih (by rw [hrest]; exact List.mem_cons_of_mem first h)
            exact hpart.trans (Nat.le_succ _)

theorem mem_of_mem_readParts {sep x : α} {text part : List α} (hpart : part ∈ readParts sep text)
    (hx : x ∈ part) : x ∈ text := by
  induction text generalizing part with
  | nil => cases hpart
  | cons y rest ih =>
      unfold readParts at hpart
      split at hpart
      · rcases List.mem_cons.mp hpart with rfl | hpart
        · cases hx
        · exact List.mem_cons_of_mem y (ih hpart hx)
      · split at hpart
        · obtain rfl := List.mem_singleton.mp hpart
          obtain rfl := List.mem_singleton.mp hx
          exact List.mem_cons_self
        · rename_i first parts hrest
          rw [hrest] at ih
          rcases List.mem_cons.mp hpart with rfl | hpart
          · rcases List.mem_cons.mp hx with rfl | hx
            · exact List.mem_cons_self
            · exact List.mem_cons_of_mem y (ih List.mem_cons_self hx)
          · exact List.mem_cons_of_mem y (ih (List.mem_cons_of_mem first hpart) hx)

theorem infix_of_mem_splitOn {sep : α} {text part : List α} (h : part ∈ text.splitOn sep) :
    part <:+: text := by
  have hinfix : part <:+: [sep].intercalate (text.splitOn sep) := infix_intercalate h
  rwa [List.intercalate_splitOn] at hinfix

/-! ### Words -/

theorem splitOn_cons_separator (sep : α) (text : List α) :
    (sep :: text).splitOn sep = [] :: text.splitOn sep := by
  rw [List.splitOn_cons_eq_if_modifyHead, if_pos (by simp)]

theorem splitOn_cons_of_ne {sep x : α} (hx : x ≠ sep) (text : List α) :
    (x :: text).splitOn sep = (text.splitOn sep).modifyHead (x :: ·) := by
  rw [List.splitOn_cons_eq_if_modifyHead, if_neg (by simpa using hx)]

/-- The parts between separators, without the empty ones. -/
def words (sep : α) (text : List α) : List (List α) := (text.splitOn sep).filter (· ≠ [])

theorem ne_nil_of_mem_words {sep : α} {text word : List α} (h : word ∈ words sep text) :
    word ≠ [] := by
  simpa using (List.mem_filter.mp h).2

@[simp] theorem words_cons_separator (sep : α) (text : List α) :
    words sep (sep :: text) = words sep text := by
  rw [words, splitOn_cons_separator]
  rfl

theorem words_separators {sep : α} {text : List α} (h : ∀ x ∈ text, x = sep) :
    words sep text = [] := by
  induction text with
  | nil => rfl
  | cons x text ih =>
      obtain ⟨rfl, htext⟩ := List.forall_mem_cons.mp h
      rw [words_cons_separator, ih htext]

theorem words_cons_cons_separator {sep x : α} (hx : x ≠ sep) (text : List α) :
    words sep (x :: sep :: text) = [x] :: words sep text := by
  rw [words, splitOn_cons_of_ne hx, splitOn_cons_separator]
  rfl

/-- The first word of a text that starts with one. -/
theorem exists_words_cons {sep y : α} (hy : y ≠ sep) (text : List α) :
    ∃ word rest, words sep (y :: text) = (y :: word) :: rest ∧
      ∀ x ≠ sep, words sep (x :: y :: text) = (x :: y :: word) :: rest := by
  obtain ⟨word, rest, hsplit⟩ := List.exists_cons_of_ne_nil (List.splitOn_ne_nil sep text)
  refine ⟨word, rest.filter (· ≠ []), ?_, fun x hx => ?_⟩
  · simp [words, splitOn_cons_of_ne hy, hsplit]
  · simp [words, splitOn_cons_of_ne hy, splitOn_cons_of_ne hx, hsplit]

/-- Words that separators join are read back. -/
theorem words_intercalate {sep : α} {parts : List (List α)}
    (h : ∀ part ∈ parts, part ≠ [] ∧ sep ∉ part) : words sep ([sep].intercalate parts) = parts := by
  by_cases hparts : parts = []
  · rw [hparts]
    rfl
  · rw [words, List.splitOn_intercalate sep (fun part hpart => (h part hpart).2) hparts,
      List.filter_eq_self]
    intro part hpart
    simpa using (h part hpart).1

/-! ### Lists of parts -/

/-- What follows does not matter to a prefix with a property if it starts without it. -/
theorem takeWhile_append_stop {β : Type*} (p : β → Bool) (text rest : List β)
    (h : ∀ x ∈ rest.head?, p x = false) :
    (text ++ rest).takeWhile p = text.takeWhile p ∧
      (text ++ rest).dropWhile p = text.dropWhile p ++ rest := by
  induction text with
  | nil =>
      cases rest with
      | nil => exact ⟨rfl, rfl⟩
      | cons x rest =>
          have hx := h x rfl
          simp [hx]
  | cons y text ih =>
      cases hy : p y with
      | false => simp [hy]
      | true => simp [hy, ih]

/-- Nothing is left out or changed exactly if each member is kept as it is. -/
theorem filterMap_eq_self {β : Type*} {f : β → Option β} {xs : List β} :
    xs.filterMap f = xs ↔ ∀ x ∈ xs, f x = some x := by
  constructor
  · induction xs with
    | nil => simp
    | cons x xs ih =>
        intro h
        have hle := List.length_filterMap_le f xs
        cases hx : f x with
        | none =>
            rw [List.filterMap_cons_none hx] at h
            rw [h, List.length_cons] at hle
            omega
        | some y =>
            rw [List.filterMap_cons_some hx] at h
            obtain ⟨rfl, hxs⟩ := List.cons.inj h
            exact List.forall_mem_cons.mpr ⟨hx, ih hxs⟩
  · intro h
    rw [List.filterMap_congr h, List.filterMap_some]

/-- Two functions that agree on the members find the same value. -/
theorem findSome_congr {β γ : Type*} {f g : β → Option γ} {xs : List β}
    (h : ∀ x ∈ xs, f x = g x) : xs.findSome? f = xs.findSome? g := by
  induction xs with
  | nil => rfl
  | cons x xs ih =>
      rw [List.findSome?_cons, List.findSome?_cons, h x List.mem_cons_self,
        ih fun y hy => h y (List.mem_cons_of_mem x hy)]

/-! ### The first occurrence of a pattern -/

/-- The position of the first occurrence. -/
def find (pattern : List α) : List α → Option ℕ
  | [] => if pattern = [] then some 0 else none
  | x :: rest =>
      if pattern <+: x :: rest then some 0 else (find pattern rest).map (· + 1)

variable {pattern : List α}

theorem find_isSome_iff {text : List α} :
    (find pattern text).isSome = true ↔ pattern <:+: text := by
  induction text with
  | nil =>
      rw [find, List.infix_nil]
      split <;> simp [*]
  | cons x rest ih =>
      rw [find, List.infix_cons_iff, ← ih]
      split <;> simp [*]

theorem find_eq_none_iff {text : List α} : find pattern text = none ↔ ¬ pattern <:+: text := by
  rw [← find_isSome_iff]
  cases find pattern text <;> simp

/-- The pattern is found where it occurs. -/
theorem exists_of_find {text : List α} {pos : ℕ} (h : find pattern text = some pos) :
    ∃ before after, text = before ++ pattern ++ after ∧ before.length = pos := by
  induction text generalizing pos with
  | nil =>
      rw [find] at h
      split at h
      · rename_i hp
        cases h
        exact ⟨[], [], by simp [hp], rfl⟩
      · cases h
  | cons x rest ih =>
      rw [find] at h
      split at h
      · rename_i hp
        cases h
        obtain ⟨after, hafter⟩ := hp
        exact ⟨[], after, by simp [hafter], rfl⟩
      · obtain ⟨pos', hpos', rfl⟩ := Option.map_eq_some_iff.mp h
        obtain ⟨before, after, rfl, rfl⟩ := ih hpos'
        exact ⟨x :: before, after, by simp, rfl⟩

@[simp] theorem find_self (pattern : List α) : find pattern pattern = some 0 := by
  cases pattern with
  | nil => rfl
  | cons x rest => simp [find]

/-- A pattern that occurs in the front part is found there first. -/
theorem find_append_left {front back : List α} {pos : ℕ} (h : find pattern front = some pos) :
    find pattern (front ++ back) = some pos := by
  induction front generalizing pos with
  | nil =>
      rw [find] at h
      split at h
      · rename_i hp
        cases h
        cases back <;> simp [find, hp]
      · cases h
  | cons x front ih =>
      rw [find] at h
      rw [List.cons_append, find]
      split at h
      · rename_i hp
        rw [if_pos]
        · exact h
        · exact hp.trans (List.prefix_append (x :: front) back)
      · rename_i hp
        obtain ⟨pos', hpos', rfl⟩ := Option.map_eq_some_iff.mp h
        have hlen : pattern.length ≤ (x :: front).length := by
          obtain ⟨before, after, hfront, _⟩ := exists_of_find hpos'
          rw [hfront]
          simp only [List.length_cons, List.length_append]
          omega
        rw [if_neg, ih hpos']
        · rfl
        · intro hstarts
          exact hp (List.prefix_of_prefix_length_le hstarts
            (List.prefix_append (x :: front) back) hlen)

/-- A pattern that does not occur before the separator is found after it. -/
theorem find_append_right {sep : α} (hsep : sep ∉ pattern) (hne : pattern ≠ [])
    {front : List α} (h : ¬ pattern <:+: front) (back : List α) :
    find pattern (front ++ sep :: back) =
      (find pattern back).map (· + (front.length + 1)) := by
  induction front with
  | nil =>
      have hnot : ¬ pattern <+: sep :: back := fun hstarts =>
        hne (List.prefix_nil.mp (prefix_of_cons hsep hstarts))
      rw [List.nil_append, find, if_neg hnot]
      rfl
  | cons x front ih =>
      rw [List.infix_cons_iff, not_or] at h
      have hnot : ¬ pattern <+: x :: (front ++ sep :: back) := by
        intro hstarts
        have hcons : pattern <+: (x :: front) ++ sep :: back := hstarts
        exact h.1 (prefix_append_cons hsep hcons)
      rw [List.cons_append, find, if_neg hnot, ih h.2, Option.map_map]
      rfl

theorem infix_append_cons_iff {sep : α} (hsep : sep ∉ pattern) (hne : pattern ≠ [])
    {front back : List α} :
    pattern <:+: front ++ sep :: back ↔ pattern <:+: front ∨ pattern <:+: back := by
  by_cases h : pattern <:+: front
  · exact iff_of_true (List.infix_append_of_infix_left h) (.inl h)
  · rw [← find_isSome_iff, find_append_right hsep hne h, Option.isSome_map, find_isSome_iff]
    exact (or_iff_right h).symm

/-- A separator is found where it first stands. -/
theorem find_separator {sep : α} {front : List α} (h : sep ∉ front) (back : List α) :
    find [sep] (front ++ sep :: back) = some front.length := by
  induction front with
  | nil => simp [find]
  | cons x front ih =>
      rw [List.mem_cons, not_or] at h
      have hnot : ¬ [sep] <+: x :: (front ++ sep :: back) := by
        rw [List.cons_prefix_cons]
        exact fun hx => h.1 hx.1
      rw [List.cons_append, find, if_neg hnot, ih h.2]
      rfl

theorem find_separator_eq_none {sep : α} {text : List α} (h : sep ∉ text) :
    find [sep] text = none := by
  rw [find_eq_none_iff]
  intro hin
  exact h (hin.subset List.mem_cons_self)

theorem find_separator_eq_some_iff {sep : α} {text : List α} {pos : ℕ} :
    find [sep] text = some pos ↔
      ∃ front back, text = front ++ sep :: back ∧ sep ∉ front ∧ front.length = pos := by
  constructor
  · intro h
    by_cases hmem : sep ∈ text
    · obtain ⟨front, back, rfl, hfront⟩ := List.eq_append_cons_of_mem hmem
      rw [find_separator hfront] at h
      exact ⟨front, back, rfl, hfront, Option.some.inj h⟩
    · rw [find_separator_eq_none hmem] at h
      cases h
  · rintro ⟨front, back, rfl, hfront, rfl⟩
    exact find_separator hfront back

/-! ### The last separator -/

/-- What is before and what is after the last separator. -/
def splitLast (sep : α) : List α → Option (List α × List α)
  | [] => none
  | x :: rest =>
      match splitLast sep rest with
      | some (before, after) => some (x :: before, after)
      | none => if x = sep then some ([], rest) else none

theorem splitLast_eq_none {sep : α} {text : List α} (h : sep ∉ text) :
    splitLast sep text = none := by
  induction text with
  | nil => rfl
  | cons x rest ih =>
      rw [List.mem_cons, not_or] at h
      rw [splitLast, ih h.2]
      exact if_neg (Ne.symm h.1)

theorem splitLast_append {sep : α} {after : List α} (h : sep ∉ after) (before : List α) :
    splitLast sep (before ++ sep :: after) = some (before, after) := by
  induction before with
  | nil => simp [splitLast, splitLast_eq_none h]
  | cons x before ih => rw [List.cons_append, splitLast, ih]

theorem exists_splitLast {sep : α} {text : List α} (h : sep ∈ text) :
    ∃ before after, text = before ++ sep :: after ∧ sep ∉ after := by
  induction text with
  | nil => cases h
  | cons x rest ih =>
      by_cases hrest : sep ∈ rest
      · obtain ⟨before, after, rfl, hafter⟩ := ih hrest
        exact ⟨x :: before, after, rfl, hafter⟩
      · rcases List.mem_cons.mp h with rfl | h
        · exact ⟨[], rest, rfl, hrest⟩
        · exact absurd h hrest

theorem splitLast_eq_some {sep : α} {text before after : List α}
    (h : splitLast sep text = some (before, after)) :
    text = before ++ sep :: after ∧ sep ∉ after := by
  have hmem : sep ∈ text := by
    by_contra hnot
    rw [splitLast_eq_none hnot] at h
    cases h
  obtain ⟨before', after', rfl, hafter⟩ := exists_splitLast hmem
  rw [splitLast_append hafter] at h
  cases h
  exact ⟨rfl, hafter⟩

end DeviceAndDisplay.Storage

/-! ## Blocks of strings

A block holds strings, each with a terminator behind it. It lies in a memory that goes on behind the
block, and is read string by string until its size is used up. -/

namespace DeviceAndDisplay.Storage

variable {α : Type*} [DecidableEq α]

/-- The strings that are read in at most `rounds` rounds, or `none` if a string does not end in the
memory. -/
def readBlock (sep : α) : (rounds size : ℕ) → List α → Option (List (List α))
  | _, 0, _ => some []
  | 0, _ + 1, _ => none
  | rounds + 1, size + 1, memory =>
      if sep ∈ memory then
        let data := memory.takeWhile (· ≠ sep)
        (readBlock sep rounds (size - data.length) (memory.drop (data.length + 1))).map (data :: ·)
      else none

variable {sep : α} {rounds size : ℕ} {memory : List α}

@[simp] theorem readBlock_zero (sep : α) (rounds : ℕ) (memory : List α) :
    readBlock sep rounds 0 memory = some [] := by
  cases rounds <;> rfl

theorem readBlock_string {data : List α} (hdata : sep ∉ data) (rest : List α) :
    readBlock sep (rounds + 1) (size + 1) (data ++ sep :: rest) =
      (readBlock sep rounds (size - data.length) rest).map (data :: ·) := by
  have htake : (data ++ sep :: rest).takeWhile (· ≠ sep) = data := by
    have hall : ∀ x ∈ data, decide (x ≠ sep) = true := by
      intro x hx
      exact decide_eq_true fun heq => hdata (heq ▸ hx)
    rw [List.takeWhile_append_of_pos hall]
    simp
  have hdrop : (data ++ sep :: rest).drop (data.length + 1) = rest := by
    simp [List.drop_append]
  simp only [readBlock, htake, hdrop]
  rw [if_pos (by simp)]

/-- The strings of a block are read, whatever is behind the block. -/
theorem readBlock_terminate {strings : List (List α)} (h : ∀ data ∈ strings, sep ∉ data)
    (hrounds : (terminate sep strings).length ≤ rounds) (rest : List α) :
    readBlock sep rounds (terminate sep strings).length (terminate sep strings ++ rest) =
      some strings := by
  induction strings generalizing rounds with
  | nil => exact readBlock_zero sep rounds _
  | cons data strings ih =>
      have hlength : (terminate sep (data :: strings)).length =
          data.length + (terminate sep strings).length + 1 := by
        rw [terminate_cons, List.length_append, List.length_cons]
        omega
      rw [hlength] at hrounds ⊢
      obtain ⟨rounds, rfl⟩ : ∃ n, rounds = n + 1 := ⟨rounds - 1, by omega⟩
      have hrest : readBlock sep rounds (terminate sep strings).length
          (terminate sep strings ++ rest) = some strings :=
        ih (fun data' hdata => h data' (List.mem_cons_of_mem data hdata)) (by omega)
      rw [terminate_cons, List.append_assoc, List.cons_append,
        readBlock_string (h data List.mem_cons_self), Nat.add_sub_cancel_left, hrest]
      rfl

/-- With enough rounds a block is read exactly when the memory has a terminator at the last place of
the block or behind it. -/
theorem isSome_readBlock_iff (hrounds : size ≤ rounds) :
    (readBlock sep rounds size memory).isSome ↔ size = 0 ∨ sep ∈ memory.drop (size - 1) := by
  induction rounds generalizing size memory with
  | zero =>
      obtain rfl : size = 0 := by omega
      simp
  | succ rounds ih =>
      cases size with
      | zero => simp
      | succ size =>
          rw [Nat.add_sub_cancel, or_iff_right (Nat.succ_ne_zero size)]
          by_cases hmem : sep ∈ memory
          · obtain ⟨data, rest, rfl, hdata⟩ := List.eq_append_cons_of_mem hmem
            rw [readBlock_string hdata, Option.isSome_map, ih (by omega), List.drop_append]
            by_cases hle : size ≤ data.length
            · have hzero : size - data.length = 0 := by omega
              simp [hzero]
            · obtain ⟨k, hk⟩ : ∃ k, size - data.length = k + 1 := ⟨size - data.length - 1, by omega⟩
              have hnil : data.drop size = [] := List.drop_eq_nil_of_le (by omega)
              simp [hk, hnil]
          · have hnot : sep ∉ memory.drop size := fun h => hmem (List.mem_of_mem_drop h)
            simp [readBlock, hmem, hnot]

end DeviceAndDisplay.Storage
