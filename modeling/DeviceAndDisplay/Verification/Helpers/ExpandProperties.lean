import Mathlib.Data.List.TakeWhile
import DeviceAndDisplay.Verification.Helpers.PropertyFile

/-! # The expansion of variables

Only the last variable that is closed by a delimiter stays expanded: each assignment in the loop
takes the text before it from the input. -/

namespace DeviceAndDisplay.Helpers

open Storage

variable {file : Option Text} {name value after front s expandedString : Text}
  {read : Text → Option (Option Text)} {calls : ℕ} {parts : List (Text × Text)}

/-! ### Inputs -/

/-- The characters of a variable. -/
def IsName (name : Text) : Prop := ∀ c ∈ name, c ≠ '$' ∧ ¬ IsDelimiter c

/-- Variables and the literal text after each. Only the last one may stand at the end of the
input. -/
inductive Delimited : List (Text × Text) → Prop
  | nil : Delimited []
  | last {name : Text} (hname : IsName name) : Delimited [(name, [])]
  | cons {name literal : Text} {c : Char} {parts : List (Text × Text)} (hname : IsName name)
      (hc : IsDelimiter c) (hliteral : '$' ∉ c :: literal) (hrest : Delimited parts) :
      Delimited ((name, c :: literal) :: parts)

/-- Literal text and any number of variables. -/
structure Template where
  start : Text
  parts : List (Text × Text)
  start_literal : '$' ∉ start
  delimited : Delimited parts

/-- The variables replaced, and the literals. -/
def fill (replace : Text → Text) (parts : List (Text × Text)) : Text :=
  parts.flatMap fun part => replace part.1 ++ part.2

/-- The input that the template stands for. -/
def Template.input (template : Template) : Text :=
  template.start ++ fill (fun name => '$' :: name) template.parts

/-- The input with each variable replaced. -/
def Template.expanded (template : Template) (values : Text → Text) : Text :=
  template.start ++ fill values template.parts

@[simp] theorem fill_nil (replace : Text → Text) : fill replace [] = [] := rfl

@[simp] theorem fill_cons (replace : Text → Text) (name after : Text)
    (parts : List (Text × Text)) :
    fill replace ((name, after) :: parts) = replace name ++ (after ++ fill replace parts) := by
  simp [fill]

/-! ### Values -/

theorem head_chomp {content : Text} (h : content.head? ≠ some '$') :
    (chomp content).head? ≠ some '$' := by
  unfold chomp
  split
  · cases content with
    | nil => simp
    | cons c content => cases content <;> simp_all
  · exact h

/-- No value starts with `$`. -/
theorem head_of_read (h : readPropertyFromFile file calls name = some (some value)) :
    value.head? ≠ some '$' := by
  induction calls generalizing name value with
  | zero => cases h
  | succ calls ih =>
      rw [readPropertyFromFile_succ] at h
      revert h
      generalize contents file name = cs
      induction cs with
      | nil => simp [readContents]
      | cons content cs ihcs =>
          intro h
          by_cases hplain : content.head? = some '$'
          · obtain ⟨other, rfl⟩ := List.head?_eq_some_iff.mp hplain
            rw [readContents] at h
            cases hother : readPropertyFromFile file calls other with
            | none => simp [hother] at h
            | some found =>
                rw [hother] at h
                cases found with
                | none => exact ihcs h
                | some v =>
                    simp only [Option.some.injEq] at h
                    exact ih (h ▸ hother)
          · rw [readContents_plain hplain] at h
            simp only [Option.some.injEq] at h
            exact h ▸ head_chomp hplain

/-! ### The loop -/

theorem expandFrom_last (hname : IsName name) (front : Text) :
    expandFrom read front name = some (true, front ++ name) := by
  have hdelimited : name.dropWhile (fun c => ¬ IsDelimiter c) = [] := by
    simpa [List.dropWhile_eq_nil_iff] using fun c hc => (hname c hc).2
  have hrest : name.dropWhile (· ≠ '$') = [] := by
    simpa [List.dropWhile_eq_nil_iff] using fun c hc => (hname c hc).1
  rw [expandFrom, if_pos hdelimited]
  split
  · rfl
  · rename_i h
    rw [hrest] at h
    cases h

/-- What one round of the loop does with a variable that is closed. -/
def expandNext (read : Text → Option (Option Text)) (front name after : Text) (value : Text) :
    List (Text × Text) → Option (Bool × Text)
  | [] => some (true, front ++ value ++ after)
  | (next, literal) :: parts =>
      expandFrom read (front ++ '$' :: name ++ after)
        (next ++ (literal ++ fill (fun name => '$' :: name) parts))

theorem dropWhile_literal (h : '$' ∉ after) (rest : Text) :
    (after ++ rest).dropWhile (· ≠ '$') = rest.dropWhile (· ≠ '$') := by
  rw [List.dropWhile_append_of_pos]
  intro c hc
  simpa using fun heq : c = '$' => h (heq ▸ hc)

theorem takeWhile_literal (h : '$' ∉ after) (rest : Text) :
    (after ++ '$' :: rest).takeWhile (· ≠ '$') = after := by
  rw [List.takeWhile_append_of_pos]
  · simp
  · intro c hc
    simpa using fun heq : c = '$' => h (heq ▸ hc)

theorem expandFrom_cons {c : Char} {literal : Text} (hname : IsName name) (hc : IsDelimiter c)
    (hliteral : '$' ∉ c :: literal) (front : Text) (parts : List (Text × Text)) :
    expandFrom read front
        (name ++ (c :: literal ++ fill (fun name => '$' :: name) parts)) =
      match read name with
      | none => none
      | some none => some (false, front)
      | some (some value) => expandNext read front name (c :: literal) value parts := by
  have hfree : ∀ x ∈ name, decide (¬ IsDelimiter x) = true := fun x hx => by
    simpa using (hname x hx).2
  have htake : (name ++ (c :: literal ++ fill (fun name => '$' :: name) parts)).takeWhile
      (fun c => ¬ IsDelimiter c) = name := by
    rw [List.takeWhile_append_of_pos hfree]
    simp [hc]
  have hdrop : (name ++ (c :: literal ++ fill (fun name => '$' :: name) parts)).dropWhile
      (fun c => ¬ IsDelimiter c) = c :: literal ++ fill (fun name => '$' :: name) parts := by
    rw [List.dropWhile_append_of_pos hfree]
    simp [hc]
  rw [expandFrom]
  simp only [htake, hdrop]
  rw [if_neg (by simp)]
  cases read name with
  | none => rfl
  | some found =>
      cases found with
      | none => rfl
      | some value =>
          have hnext := dropWhile_literal hliteral (fill (fun name => '$' :: name) parts)
          cases parts with
          | nil =>
              simp only [expandNext]
              split
              · simp
              · rename_i h
                rw [hdrop, hnext] at h
                simp at h
          | cons next parts =>
              obtain ⟨nextName, nextLiteral⟩ := next
              simp only [expandNext]
              split
              · rename_i h
                rw [hdrop, hnext] at h
                simp at h
              · rename_i rest h
                rw [hdrop, hnext, fill_cons] at h
                simp only [List.cons_append, ne_eq, not_true_eq_false, decide_false,
                  Bool.false_eq_true, not_false_eq_true, List.dropWhile_cons_of_neg,
                  List.cons.injEq] at h
                have htext := takeWhile_literal hliteral
                  (nextName ++ (nextLiteral ++ fill (fun name => '$' :: name) parts))
                have hparts : '$' :: nextName ++
                    (nextLiteral ++ fill (fun name => '$' :: name) parts) =
                    '$' :: (nextName ++ (nextLiteral ++ fill (fun name => '$' :: name) parts)) :=
                  rfl
                rw [fill_cons, hparts, htext, ← h.2]

/-- The text before a variable is kept as it is in the input. -/
theorem prefix_of_expandFrom {after : Text} (h : Delimited ((name, after) :: parts))
    (hresult : expandFrom read front (name ++ (after ++ fill (fun name => '$' :: name) parts)) =
      some (true, s)) : front <+: s := by
  induction parts generalizing name after front with
  | nil =>
      cases h with
      | last hname =>
          simp only [fill_nil, List.append_nil, expandFrom_last hname, Option.some.injEq,
            Prod.mk.injEq, true_and] at hresult
          exact hresult ▸ List.prefix_append front name
      | cons hname hc hliteral _ =>
          rw [expandFrom_cons hname hc hliteral] at hresult
          cases hread : read name with
          | none => simp [hread] at hresult
          | some found =>
              cases found with
              | none => simp [hread] at hresult
              | some value =>
                  simp only [hread, expandNext, Option.some.injEq, Prod.mk.injEq,
                    true_and] at hresult
                  exact hresult ▸ ⟨_, (List.append_assoc front value _).symm⟩
  | cons next parts ih =>
      cases h with
      | cons hname hc hliteral hrest =>
          rw [expandFrom_cons hname hc hliteral] at hresult
          cases hread : read name with
          | none => simp [hread] at hresult
          | some found =>
              cases found with
              | none => simp [hread] at hresult
              | some value =>
                  simp only [hread, expandNext] at hresult
                  have hfront := ih hrest hresult
                  rw [List.append_assoc] at hfront
                  exact (List.prefix_append front _).trans hfront

/-- The expansion fails at the first variable without a value, if that is closed. -/
def FailsAt (read : Text → Option (Option Text)) (parts : List (Text × Text)) : Prop :=
  ∃ before name after rest, parts = before ++ (name, after) :: rest ∧ after ≠ [] ∧
    read name = some none ∧ ∀ part ∈ before, ∃ value, read part.1 = some (some value)

theorem failsAt_cons {after : Text} :
    FailsAt read ((name, after) :: parts) ↔
      (after ≠ [] ∧ read name = some none) ∨
      ((∃ value, read name = some (some value)) ∧ FailsAt read parts) := by
  constructor
  · rintro ⟨before, other, literal, rest, heq, hclosed, hnone, hbefore⟩
    cases before with
    | nil =>
        obtain ⟨⟨rfl, rfl⟩, rfl⟩ : (name = other ∧ after = literal) ∧ parts = rest := by
          simpa using heq
        exact .inl ⟨hclosed, hnone⟩
    | cons part before =>
        obtain ⟨rfl, rfl⟩ : (name, after) = part ∧ parts = before ++ (other, literal) :: rest := by
          simpa using heq
        obtain ⟨hpart, hbefore⟩ := List.forall_mem_cons.mp hbefore
        exact .inr ⟨hpart, before, other, literal, rest, rfl, hclosed, hnone, hbefore⟩
  · rintro (⟨hclosed, hnone⟩ | ⟨hvalue, before, other, literal, rest, rfl, hclosed, hnone, hbefore⟩)
    · exact ⟨[], name, after, parts, rfl, hclosed, hnone, by simp⟩
    · exact ⟨(name, after) :: before, other, literal, rest, rfl, hclosed, hnone,
        List.forall_mem_cons.mpr ⟨hvalue, hbefore⟩⟩

theorem not_failsAt_nil : ¬ FailsAt read [] := by
  rintro ⟨before, _, _, _, heq, _⟩
  simp at heq

theorem expandFrom_false_iff {after : Text} (h : Delimited ((name, after) :: parts)) :
    (∃ s, expandFrom read front (name ++ (after ++ fill (fun name => '$' :: name) parts)) =
      some (false, s)) ↔ FailsAt read ((name, after) :: parts) := by
  induction parts generalizing name after front with
  | nil =>
      rw [failsAt_cons]
      cases h with
      | last hname =>
          simp [expandFrom_last hname, not_failsAt_nil]
      | cons hname hc hliteral _ =>
          rw [expandFrom_cons hname hc hliteral]
          cases hread : read name with
          | none => simp
          | some found => cases found <;> simp [expandNext, not_failsAt_nil]
  | cons next parts ih =>
      rw [failsAt_cons]
      cases h with
      | cons hname hc hliteral hrest =>
          rw [expandFrom_cons hname hc hliteral]
          cases hread : read name with
          | none => simp
          | some found =>
              cases found with
              | none => simp
              | some value => simpa [expandNext] using ih hrest

/-! ### The claim about templates -/

/-- With enough nested calls, the expansion has this result. -/
def ExpandsTo (file : Option Text) (input expandedString : Text) (result : Bool × Text) : Prop :=
  ∃ calls, expandPropertiesInString file calls input expandedString = some result

/-- The variable has a value in the file. -/
def HasValue (file : Option Text) (name : Text) : Prop := ∃ value, Returns file name (some value)

/-- If all variables have a value, they are replaced; otherwise the expansion returns `false`. -/
def Expands (file : Option Text) (template : Template) (expandedString : Text) : Prop :=
  (∀ values : Text → Text,
    (∀ part ∈ template.parts, Returns file part.1 (some (values part.1))) →
    ExpandsTo file template.input expandedString (true, template.expanded values)) ∧
  ((∃ part ∈ template.parts, ¬ HasValue file part.1) →
    ∃ s, ExpandsTo file template.input expandedString (false, s))

/-- There is no variable and `expandedString` holds the input already, or there is one, which a
delimiter closes or which is its own value. -/
def OneClosed (file : Option Text) (template : Template) (expandedString : Text) : Prop :=
  (template.parts = [] ∧ expandedString = template.start) ∨
  ∃ name after, template.parts = [(name, after)] ∧ (after ≠ [] ∨ Returns file name (some name))

/-- A delimiter closes the first variable without a value, and the lookup of it ends. -/
def FirstUndefinedClosed (file : Option Text) (parts : List (Text × Text)) : Prop :=
  ∃ before name after rest, parts = before ++ (name, after) :: rest ∧ after ≠ [] ∧
    Undefined file name ∧ ∀ part ∈ before, HasValue file part.1

theorem input_of_nil (template : Template) (h : template.parts = []) (calls : ℕ) :
    expandPropertiesInString file calls template.input expandedString =
      some (true, expandedString) := by
  have hinput : template.input = template.start ++ [] := by simp [Template.input, h]
  rw [expandPropertiesInString, hinput, dropWhile_literal template.start_literal]
  rfl

theorem input_of_cons (template : Template) {after : Text}
    (h : template.parts = (name, after) :: parts) (calls : ℕ) :
    expandPropertiesInString file calls template.input expandedString =
      expandFrom (readPropertyFromFile file calls) template.start
        (name ++ (after ++ fill (fun name => '$' :: name) parts)) := by
  have hinput : template.input =
      template.start ++ '$' :: (name ++ (after ++ fill (fun name => '$' :: name) parts)) := by
    simp [Template.input, h]
  rw [expandPropertiesInString, hinput, dropWhile_literal template.start_literal,
    takeWhile_literal template.start_literal]
  simp

/-! ### Templates in which all variables have a value -/

/-- Of two variables the first one is not replaced. -/
theorem not_expandsTo_of_two (template : Template) {first second : Text × Text}
    (hparts : template.parts = first :: second :: parts) {values : Text → Text}
    (hvalue : Returns file first.1 (some (values first.1))) :
    ¬ ExpandsTo file template.input expandedString (true, template.expanded values) := by
  rintro ⟨calls, hresult⟩
  obtain ⟨name, after⟩ := first
  obtain ⟨next, literal⟩ := second
  have hdelimited := template.delimited
  rw [hparts] at hdelimited
  rw [input_of_cons template hparts] at hresult
  cases hdelimited with
  | @cons _ literal' c _ hname hc hliteral hrest =>
      rw [expandFrom_cons hname hc hliteral] at hresult
      have hhead : (values name).head? ≠ some '$' := by
        obtain ⟨calls', hcalls'⟩ := hvalue
        exact head_of_read hcalls'
      cases hread : readPropertyFromFile file calls name with
      | none => simp [hread] at hresult
      | some found =>
          cases found with
          | none => simp [hread] at hresult
          | some value =>
              simp only [hread, expandNext] at hresult
              have hprefix := prefix_of_expandFrom hrest hresult
              rw [Template.expanded, hparts, fill_cons, List.append_assoc,
                List.prefix_append_right_inj] at hprefix
              obtain ⟨back, hback⟩ := hprefix
              cases hv : values name with
              | nil =>
                  rw [hv] at hback
                  have hdollar : '$' = c := by simpa using congrArg List.head? hback
                  exact hliteral (hdollar ▸ List.mem_cons_self)
              | cons x tail =>
                  rw [hv] at hback hhead
                  have hdollar : '$' = x := by simpa using congrArg List.head? hback
                  exact hhead (congrArg some hdollar.symm)

theorem expandsTo_of_one (template : Template) {after : Text}
    (hparts : template.parts = [(name, after)]) (hvalue : Returns file name (some value))
    (hclosed : after ≠ [] ∨ Returns file name (some name)) :
    ExpandsTo file template.input expandedString (true, template.start ++ (value ++ after)) := by
  have hdelimited := template.delimited
  rw [hparts] at hdelimited
  cases hdelimited with
  | last hname =>
      have hname' := hclosed.resolve_left (fun h => h rfl)
      have hself : name = value := by simpa using hname'.unique hvalue
      refine ⟨0, ?_⟩
      rw [input_of_cons template hparts, fill_nil, List.append_nil, List.append_nil,
        expandFrom_last hname, hself, List.append_nil]
  | cons hname hc hliteral _ =>
      obtain ⟨calls, hcalls⟩ := hvalue
      refine ⟨calls, ?_⟩
      rw [input_of_cons template hparts, expandFrom_cons hname hc hliteral, hcalls]
      simp [expandNext]

theorem closed_of_expandsTo (template : Template) {after : Text}
    (hparts : template.parts = [(name, after)]) (hvalue : Returns file name (some value))
    (h : ExpandsTo file template.input expandedString (true, template.start ++ (value ++ after))) :
    after ≠ [] ∨ Returns file name (some name) := by
  refine or_iff_not_imp_left.mpr fun hafter => ?_
  obtain rfl : after = [] := not_not.mp hafter
  obtain ⟨calls, hresult⟩ := h
  have hdelimited := template.delimited
  rw [hparts] at hdelimited
  cases hdelimited with
  | last hname =>
      rw [input_of_cons template hparts] at hresult
      have hself : name = value := by simpa [expandFrom_last hname] using hresult
      exact hself ▸ hvalue

theorem expanded_iff (file : Option Text) (template : Template) (expandedString : Text) :
    (∀ values : Text → Text,
      (∀ part ∈ template.parts, Returns file part.1 (some (values part.1))) →
      ExpandsTo file template.input expandedString (true, template.expanded values)) ↔
    ((∀ part ∈ template.parts, HasValue file part.1) →
      OneClosed file template expandedString) := by
  constructor
  · intro h hvalues
    have hchoice : ∀ name, ∃ value, HasValue file name → Returns file name (some value) := by
      intro name
      by_cases hname : HasValue file name
      · obtain ⟨value, hvalue⟩ := hname
        exact ⟨value, fun _ => hvalue⟩
      · exact ⟨[], fun hvalue => absurd hvalue hname⟩
    choose values hspec using hchoice
    have hreturns : ∀ part ∈ template.parts, Returns file part.1 (some (values part.1)) :=
      fun part hpart => hspec part.1 (hvalues part hpart)
    have hresult := h values hreturns
    match hparts : template.parts with
    | [] =>
        obtain ⟨calls, hcalls⟩ := hresult
        rw [input_of_nil template hparts] at hcalls
        exact .inl ⟨hparts, by simpa [Template.expanded, hparts] using hcalls⟩
    | [(name, after)] =>
        have hvalue := hreturns (name, after) (by simp [hparts])
        rw [Template.expanded, hparts, fill_cons, fill_nil, List.append_nil] at hresult
        exact .inr ⟨name, after, hparts, closed_of_expandsTo template hparts hvalue hresult⟩
    | first :: second :: parts =>
        have hvalue := hreturns first (by simp [hparts])
        exact absurd hresult (not_expandsTo_of_two template hparts hvalue)
  · intro h values hreturns
    obtain ⟨hparts, hstart⟩ | ⟨name, after, hparts, hclosed⟩ :=
      h fun part hpart => ⟨_, hreturns part hpart⟩
    · refine ⟨0, ?_⟩
      rw [input_of_nil template hparts]
      simp [Template.expanded, hparts, hstart]
    · have hvalue := hreturns (name, after) (by simp [hparts])
      simpa [Template.expanded, hparts] using expandsTo_of_one template hparts hvalue hclosed

/-! ### Templates with a variable without a value -/

theorem exists_calls (h : ∀ part ∈ parts, HasValue file part.1) :
    ∃ calls, ∀ part ∈ parts, ∃ value,
      readPropertyFromFile file calls part.1 = some (some value) := by
  induction parts with
  | nil => exact ⟨0, by simp⟩
  | cons part parts ih =>
      obtain ⟨⟨value, calls, hcalls⟩, hparts⟩ := List.forall_mem_cons.mp h
      obtain ⟨calls', hcalls'⟩ := ih hparts
      refine ⟨max calls calls', List.forall_mem_cons.mpr ⟨⟨value, ?_⟩, fun other hother => ?_⟩⟩
      · exact readPropertyFromFile_mono hcalls (Nat.le_max_left calls calls')
      · obtain ⟨v, hv⟩ := hcalls' other hother
        exact ⟨v, readPropertyFromFile_mono hv (Nat.le_max_right calls calls')⟩

theorem failsAt_iff (file : Option Text) (parts : List (Text × Text)) :
    (∃ calls, FailsAt (readPropertyFromFile file calls) parts) ↔
      FirstUndefinedClosed file parts := by
  constructor
  · rintro ⟨calls, before, name, after, rest, heq, hclosed, hnone, hbefore⟩
    refine ⟨before, name, after, rest, heq, hclosed, undefined_of_calls hnone, ?_⟩
    intro part hpart
    obtain ⟨value, hvalue⟩ := hbefore part hpart
    exact ⟨value, calls, hvalue⟩
  · rintro ⟨before, name, after, rest, heq, hclosed, hundefined, hbefore⟩
    obtain ⟨calls, hcalls⟩ := exists_calls hbefore
    obtain ⟨calls', hcalls'⟩ := returns_none_of_undefined hundefined
    refine ⟨max calls calls', before, name, after, rest, heq, hclosed, ?_, fun part hpart => ?_⟩
    · exact readPropertyFromFile_mono hcalls' (Nat.le_max_right calls calls')
    · obtain ⟨value, hvalue⟩ := hcalls part hpart
      exact ⟨value, readPropertyFromFile_mono hvalue (Nat.le_max_left calls calls')⟩

theorem expandsTo_false_iff (file : Option Text) (template : Template) (expandedString : Text) :
    (∃ s, ExpandsTo file template.input expandedString (false, s)) ↔
      FirstUndefinedClosed file template.parts := by
  rw [← failsAt_iff]
  unfold ExpandsTo
  rw [exists_comm]
  refine exists_congr fun calls => ?_
  match hparts : template.parts with
  | [] => simp [input_of_nil template hparts, not_failsAt_nil]
  | (name, after) :: parts =>
      have hdelimited := template.delimited
      rw [hparts] at hdelimited
      rw [input_of_cons template hparts]
      exact expandFrom_false_iff hdelimited

/-! ### The condition -/

/-- Every variable is expanded exactly if a template whose variables all have values has at most
one, which is closed (or its own value), and in every other one the first variable without a value
is closed and its lookup ends. -/
theorem expands_iff (file : Option Text) (template : Template) (expandedString : Text) :
    Expands file template expandedString ↔
      ((∀ part ∈ template.parts, HasValue file part.1) →
        OneClosed file template expandedString) ∧
      ((∃ part ∈ template.parts, ¬ HasValue file part.1) →
        FirstUndefinedClosed file template.parts) := by
  rw [Expands, expanded_iff, expandsTo_false_iff]

/-- `$A/$B/` -/
def twoVariables : Template where
  start := []
  parts := [(['A'], ['/']), (['B'], ['/'])]
  start_literal := by decide
  delimited := by
    have hname : ∀ c : Char, c ≠ '$' ∧ ¬ IsDelimiter c → IsName [c] := by simp [IsName]
    exact .cons (hname 'A' (by decide)) (by decide) (by decide)
      (.cons (hname 'B' (by decide)) (by decide) (by decide) .nil)

/-- With the lines `A=1` and `B=2`, only the second variable of `$A/$B/` is expanded. -/
theorem first_variable_stays :
    ¬ Expands (some ['A', '=', '1', '\n', 'B', '=', '2']) twoVariables twoVariables.input := by
  intro h
  have hvalue : ∀ name value : Char, readPropertyFromFile
      (some ['A', '=', '1', '\n', 'B', '=', '2']) 1 [name] = some (some [value]) →
      Returns (some ['A', '=', '1', '\n', 'B', '=', '2']) [name] (some [value]) :=
    fun _ _ hread => ⟨1, hread⟩
  have hA := hvalue 'A' '1' (by decide)
  have hB := hvalue 'B' '2' (by decide)
  let values : Text → Text := fun name => if name = ['A'] then ['1'] else ['2']
  refine not_expandsTo_of_two twoVariables rfl hA (h.1 values ?_)
  exact List.forall_mem_cons.mpr ⟨hA, List.forall_mem_cons.mpr ⟨hB, by simp⟩⟩

end DeviceAndDisplay.Helpers
